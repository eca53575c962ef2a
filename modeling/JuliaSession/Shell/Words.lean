import JuliaSession.Text.Split

/-!
# Words of a command line

`quote` writes a text so that the shell reads it as one word, and `line` writes a list of words.
`words?` reads a line back by the quoting rules of the shell: single quotes keep everything, double
quotes keep all but the backslash before a few characters, and a backslash keeps the next character.
It treats every operator character as an ordinary one, so it is the reading of a line that is all
words.
-/

namespace JuliaSession.Shell

/-- Characters that need no quotes. -/
def isSafe (c : Char) : Bool :=
  c.isAlphanum || c = '_' || c = '@' || c = '%' || c = '+' || c = '=' || c = ':' || c = ','
    || c = '.' || c = '/' || c = '-'

/-- One character inside single quotes: a single quote leaves them for a moment. -/
def quoteChar (c : Char) : List Char :=
  if c = '\'' then "'\"'\"'".toList else [c]

/-- A text as one word. -/
def quoteChars (cs : List Char) : List Char :=
  if cs ≠ [] ∧ cs.all isSafe then cs else '\'' :: cs.flatMap quoteChar ++ ['\'']

/-- A text as one word. -/
def quote (s : String) : String := String.ofList (quoteChars s.toList)

/-- A list of words as one line. -/
def line (words : List String) : String :=
  String.ofList (Text.joinWith [' '] (words.map fun w => quoteChars w.toList))

/-- How the characters at some point of a line are read. -/
inductive Quoting where
  /-- Outside of quotes. -/
  | plain
  /-- Between single quotes. -/
  | single
  /-- Between double quotes. -/
  | double
  deriving DecidableEq, Repr

/-- Characters that divide words. -/
def isDivider (c : Char) : Bool := c = ' ' || c = '\t' || c = '\n'

/-- Characters before which a backslash counts between double quotes. -/
def isDoubleEscape (c : Char) : Bool :=
  c = '"' || c = '\\' || c = '$' || c = Char.ofNat 96 || c = '\n'

/-- Read on with the current word, reversed, if one was begun. Nothing is returned when a quote is
not closed or a backslash ends the line. -/
def wordsFrom : Quoting → Option (List Char) → List Char → Option (List (List Char))
  | .plain, word, [] => some (word.toList.map List.reverse)
  | _, _, [] => none
  | .plain, word, c :: rest =>
    if isDivider c then
      (wordsFrom .plain none rest).map (word.toList.map List.reverse ++ ·)
    else if c = '\'' then wordsFrom .single (some (word.getD [])) rest
    else if c = '"' then wordsFrom .double (some (word.getD [])) rest
    else if c = '\\' then
      match rest with
      | [] => none
      | d :: rest => wordsFrom .plain (some (d :: word.getD [])) rest
    else wordsFrom .plain (some (c :: word.getD [])) rest
  | .single, word, c :: rest =>
    if c = '\'' then wordsFrom .plain word rest
    else wordsFrom .single (some (c :: word.getD [])) rest
  | .double, word, c :: rest =>
    if c = '"' then wordsFrom .plain word rest
    else if c = '\\' then
      match rest with
      | [] => none
      | d :: rest =>
        if isDoubleEscape d then wordsFrom .double (some (d :: word.getD [])) rest
        else wordsFrom .double (some (d :: '\\' :: word.getD [])) rest
    else wordsFrom .double (some (c :: word.getD [])) rest

/-- The words of a line. -/
def words? (s : String) : Option (List String) :=
  (wordsFrom .plain none s.toList).map fun words => words.map String.ofList

end JuliaSession.Shell
