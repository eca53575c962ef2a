/-!
# Shell commands

The structure of a shell script: words made of literal text and expansions, simple commands with
their redirections, and the compound commands. Texts hold one character for each byte. Commands
remember the line they stand on, for the complaints that arise while they are carried out.
-/

namespace JuliaSession.Shell

/-- A text with one character for each byte. -/
abbrev ByteText := List Char

/-- What a parameter expansion does besides looking the parameter up. -/
inductive ParamOp where
  /-- Nothing. -/
  | plain
  /-- Use the word instead of an unset parameter, or of an empty one too if `empty`. -/
  | instead (empty : Bool)
  /-- Use the word if the parameter is set, or not empty if `empty`. -/
  | given (empty : Bool)
  /-- Like `instead`, and assign the word. -/
  | assign (empty : Bool)
  /-- End the shell with the word as complaint if the parameter is unset, or empty and `empty`. -/
  | require (empty : Bool)
  /-- Remove what the word matches, as a pattern, at the start or the end. -/
  | without (start longest : Bool)
  /-- The number of characters. -/
  | length
  /-- No operation that exists. -/
  | bad
  deriving DecidableEq, Repr

mutual

/-- A piece of a word. Quoted pieces are neither split nor read as patterns. -/
inductive Part where
  /-- Text as it stands. -/
  | text (quoted : Bool) (chars : ByteText)
  /-- A parameter, with the word that some operations use. -/
  | param (quoted : Bool) (name : ByteText) (op : ParamOp) (word : List Part)
  /-- The value of an arithmetic expression. -/
  | arith (quoted : Bool) (expr : List Part)
  /-- The output of commands. -/
  | output (quoted : Bool) (body : List Command)

/-- Where a redirection leads. -/
inductive Target where
  /-- A file that is emptied, even if files are protected and `forced`. -/
  | write (forced : Bool) (word : List Part)
  /-- A file that is written at its end. -/
  | append (word : List Part)
  /-- A file that is read. -/
  | read (word : List Part)
  /-- A file that is read and written. -/
  | both (word : List Part)
  /-- Another descriptor, or none for a hyphen. -/
  | copy (word : List Part)
  /-- The text that follows the line, by its number among all such texts. -/
  | document (number : Nat)

/-- A command. -/
inductive Command where
  /-- Assignments, words and redirections. -/
  | simple (line : Nat) (assigns : List (ByteText × List Part)) (words : List (List Part))
      (redirs : List (Nat × Target))
  /-- Commands one after the other. -/
  | sequence (body : List Command)
  /-- The second command if the first one succeeds. -/
  | both (first second : Command)
  /-- The second command if the first one fails. -/
  | either (first second : Command)
  /-- The opposite status. -/
  | negate (body : Command)
  /-- The first branch whose condition succeeds, or the last command. -/
  | branch (arms : List (Command × Command)) (otherwise : Option Command)
  /-- The body as long as the condition succeeds, or fails if `inverted`. -/
  | loop (inverted : Bool) (condition body : Command)
  /-- The body for each word, or for each positional parameter. -/
  | each (line : Nat) (name : ByteText) (words : Option (List (List Part))) (body : Command)
  /-- The command of the first pattern that matches the word. -/
  | select (line : Nat) (word : List Part) (arms : List (List (List Part) × Command))
  /-- A command with redirections. -/
  | redirected (line : Nat) (body : Command) (redirs : List (Nat × Target))
  /-- A command in a shell of its own, with redirections. -/
  | subshell (line : Nat) (body : Command) (redirs : List (Nat × Target))
  /-- Commands each reading what the one before writes. -/
  | pipeline (stages : List Command)
  /-- A command that is not waited for. -/
  | background (body : Command)
  /-- The definition of a function. -/
  | define (name : ByteText) (body : Command)

end

/-- A redirection: the descriptor and where it leads. -/
abbrev Redirection := Nat × Target

instance : Inhabited Command := ⟨.sequence []⟩

/-! ### Names -/

/-- The commands whose errors end the shell. -/
def specialNames : List String :=
  [":", ".", "break", "continue", "eval", "exec", "exit", "export", "local", "readonly", "return",
    "set", "shift", "times", "trap", "unset"]

/-- A character of a parameter's name. -/
def isNameChar (c : Char) : Bool := c.isAlphanum || c = '_'

/-- Is this the name of a variable? -/
def isName : ByteText → Bool
  | [] => false
  | c :: rest => (c.isAlpha || c = '_') && rest.all isNameChar

/-- A parameter that is written with one special character. -/
def isSpecial (c : Char) : Bool :=
  c = '@' || c = '*' || c = '#' || c = '?' || c = '-' || c = '$' || c = '!' || c.isDigit

end JuliaSession.Shell
