import JuliaSession.Shell.Format
import JuliaSession.Shell.Opening

/-!
# Tests

The conditions of the `test` command: facts about files, and comparisons of texts and numbers,
joined by `!`, `-a`, `-o` and parentheses. A word counts as an operator by its place among the
others, so that `test -f` asks whether the word is empty.
-/

namespace JuliaSession.Shell.Test

/-- Why a test has no value. -/
inductive Fault where
  /-- An operator, or a word where one should be, is out of place. -/
  | unexpected (word : ByteText)
  /-- An operator has no operand. -/
  | noArgument (operator : ByteText)
  /-- A parenthesis is not closed. -/
  | noParenthesis
  /-- A word is not the number it should be. -/
  | notNumber (word : ByteText)
  deriving DecidableEq, Repr

/-- What is complained about a test. -/
def Fault.complaint : Fault → ByteText
  | unexpected word => word ++ ": unexpected operator".toList
  | noArgument operator => operator ++ ": argument expected".toList
  | noParenthesis => "closing paren expected".toList
  | notNumber word => "Illegal number: ".toList ++ word

/-- What a word is at its place. -/
inductive Role where
  /-- The end of the words. -/
  | none
  /-- An operand. -/
  | operand
  /-- An operator before its operand. -/
  | unary
  /-- An operator between its operands. -/
  | binary
  /-- The opposite. -/
  | opposite
  /-- Both. -/
  | both
  /-- Either. -/
  | either
  /-- An opening parenthesis. -/
  | opening
  /-- A closing parenthesis. -/
  | closing
  deriving DecidableEq, Repr

/-- The operators before their operand. -/
def unaryOperators : List String :=
  ["-r", "-w", "-x", "-e", "-f", "-d", "-c", "-b", "-p", "-u", "-g", "-k", "-s", "-t", "-z", "-n",
    "-h", "-L", "-S", "-O", "-G"]

/-- The operators between their operands. -/
def binaryOperators : List String :=
  ["=", "!=", "<", ">", "-eq", "-ne", "-ge", "-gt", "-le", "-lt", "-nt", "-ot", "-ef"]

/-- The operator that a word is, wherever it stands. -/
def operator? (word : ByteText) : Option Role :=
  let text := String.ofList word
  if text ∈ unaryOperators then some .unary
  else if text ∈ binaryOperators then some .binary
  else
    match text with
    | "!" => some .opposite
    | "-a" => some .both
    | "-o" => some .either
    | "(" => some .opening
    | ")" => some .closing
    | _ => none

/-- Is the next word an operand, so that an operator before it is one as well? -/
def standsAlone : List ByteText → Bool
  | [] => true
  | [_] => false
  | next :: _ :: _ => operator? next = some .binary

/-- The role of the first word. -/
def role : List ByteText → Role
  | [] => .none
  | word :: rest =>
    match operator? word with
    | none => .operand
    | some .unary => if standsAlone rest then .operand else .unary
    | some .opening => if rest.isEmpty then .operand else .opening
    | some role => role

/-- The number that a word says. -/
def number (word : ByteText) : Except Fault Int :=
  match decimalNumber? word with
  | some n => .ok n
  | none => .error (.notNumber word)

/-- What a test can find at a path. -/
inductive Found where
  /-- A file or directory. -/
  | entry (entry : Entry)
  /-- A device for characters. -/
  | device
  /-- A pipe. -/
  | pipe

/-- What is at a path, if anything. The open files of the process are pipes if they are no files. -/
def found? (proc : Proc) (path : String) : Option Found :=
  match device? (Path.absolute proc.cwd path) with
  | some (.descriptor number) =>
    match proc.stream? number with
    | none => none
    | some (_, .null) | some (_, .zeros _) => some .device
    | some (_, .file target ..) => (proc.shared.files.find? "/" target).map .entry
    | some _ => some .pipe
  | some _ => some .device
  | none => (proc.shared.files.find? proc.cwd path).map .entry

/-- The value of a test with its operator before the operand. -/
def one (proc : Proc) (op : String) (arg : ByteText) : Except Fault Bool :=
  let path := asString arg
  let found := if arg.isEmpty then none else found? proc path
  let node? := match found with
    | some (.entry entry) => some entry
    | _ => none
  let hasBit (bit : Nat) : Bool := node?.any fun entry => entry.mode / bit % 2 = 1
  match op with
  | "-n" => .ok !arg.isEmpty
  | "-z" => .ok arg.isEmpty
  | "-e" | "-r" | "-w" | "-O" | "-G" => .ok found.isSome
  | "-f" => .ok (node?.any fun entry => !entry.isDir)
  | "-d" => .ok (node?.any Entry.isDir)
  | "-c" => .ok (found matches some .device)
  | "-p" => .ok (found matches some .pipe)
  | "-x" =>
    .ok (node?.any fun entry => entry.isDir || FileTree.mayExecute entry.mode)
  | "-s" =>
    match node? with
    | some (.file content _ _) => .ok !content.isEmpty
    | some (.dir ..) => .ok true
    | none => .ok false
  | "-u" => .ok (hasBit 0o4000)
  | "-g" => .ok (hasBit 0o2000)
  | "-k" => .ok (hasBit 0o1000)
  -- no descriptor leads to a terminal
  | "-t" => (number arg).map fun _ => false
  | _ => .ok false

/-- The value of a test with its operator between the operands. -/
def two (proc : Proc) (a : ByteText) (op : String) (b : ByteText) : Except Fault Bool :=
  let compare (holds : Int → Int → Bool) : Except Fault Bool := do
    return holds (← number a) (← number b)
  let files := proc.shared.files
  let entry (word : ByteText) := files.find? proc.cwd (asString word)
  match op with
  | "=" => .ok (a == b)
  | "!=" => .ok (a != b)
  | "<" => .ok (String.ofList a < String.ofList b)
  | ">" => .ok (String.ofList b < String.ofList a)
  | "-eq" => compare (· == ·)
  | "-ne" => compare (· != ·)
  | "-lt" => compare fun a b => a < b
  | "-le" => compare fun a b => a ≤ b
  | "-gt" => compare fun a b => b < a
  | "-ge" => compare fun a b => b ≤ a
  | "-nt" =>
    match entry a, entry b with
    | some x, some y => .ok (y.changed < x.changed)
    | _, _ => .ok false
  | "-ot" =>
    match entry a, entry b with
    | some x, some y => .ok (x.changed < y.changed)
    | _, _ => .ok false
  | _ =>
    match files.locate proc.cwd (asString a), files.locate proc.cwd (asString b) with
    | .ok x, .ok y => .ok ((files.entry? x).isSome && x == y)
    | _, _ => .ok false

mutual

/-- Tests joined by `-o`. The words begin with one of the given role; returned is the value and the
words from the last one that was looked at. -/
def alternatives (proc : Proc) : Nat → Role → List ByteText →
    Except Fault (Bool × List ByteText)
  | 0, _, words => .ok (false, words)
  | fuel + 1, first, words => do
    let (value, words) ← conjunctions proc fuel first words
    if role (words.drop 1) = .either then do
      let words := words.drop 2
      let (later, words) ← alternatives proc fuel (role words) words
      return (value || later, words)
    else return (value, words)

/-- Tests joined by `-a`. -/
def conjunctions (proc : Proc) : Nat → Role → List ByteText →
    Except Fault (Bool × List ByteText)
  | 0, _, words => .ok (false, words)
  | fuel + 1, first, words => do
    let (value, words) ← opposites proc fuel first words
    if role (words.drop 1) = .both then do
      let words := words.drop 2
      let (later, words) ← conjunctions proc fuel (role words) words
      return (value && later, words)
    else return (value, words)

/-- A test, or the opposite of one. -/
def opposites (proc : Proc) : Nat → Role → List ByteText →
    Except Fault (Bool × List ByteText)
  | 0, _, words => .ok (false, words)
  | fuel + 1, first, words => do
    if first ≠ .opposite then primary proc fuel first words
    else
      let next := role (words.drop 1)
      let (value, words) ← opposites proc fuel next (if next = .none then words else words.drop 1)
      return (!value, words)

/-- A test without operators that join tests. -/
def primary (proc : Proc) : Nat → Role → List ByteText → Except Fault (Bool × List ByteText)
  | 0, _, words => .ok (false, words)
  | fuel + 1, first, words =>
    match first with
    | .none => .ok (false, words)
    | .opening => do
      let words := words.drop 1
      if role words = .closing then return (false, words)
      let (value, words) ← alternatives proc fuel (role words) words
      if role (words.drop 1) = .closing then return (value, words.drop 1)
      else throw .noParenthesis
    | first =>
      match first, words with
      | .unary, [op] => .error (.noArgument op)
      | .unary, op :: arg :: rest => do
        return (← one proc (String.ofList op) arg, arg :: rest)
      | _, a :: op :: rest =>
        if role (op :: rest) = .binary then
          match rest with
          | b :: _ => do return (← two proc a (String.ofList op) b, rest)
          | [] => .error (.noArgument op)
        else .ok (!a.isEmpty, words)
      | _, _ => .ok (!(words.headD []).isEmpty, words)

end

/-- The value of all words, of which the first has the given role. -/
def whole (proc : Proc) (first : Role) (words : List ByteText) : Except Fault Bool := do
  let (value, rest) ← alternatives proc (4 * words.length + 8) first words
  match rest with
  | word :: _ :: _ => throw (.unexpected word)
  | _ => return value

/-- The value of a test. Few words are read by their number: three with an operator in the middle
are a comparison, and a mark for the opposite or parentheses around the others come first. -/
def value (proc : Proc) : Nat → List ByteText → Except Fault Bool
  | 0, _ => .ok false
  | _, [] => .ok false
  | fuel + 1, words =>
    let few := words.length = 3 ∨ words.length = 4
    if words.length = 3 ∧ (words[1]?.bind operator?) = some .binary then
      whole proc .operand words
    else if few ∧ words.head? = some ['('] ∧ words.getLast? = some [')'] then
      let inner := (words.drop 1).dropLast
      whole proc (role inner) inner
    else if few ∧ words.head? = some ['!'] then do
      return !(← value proc fuel (words.drop 1))
    else whole proc (role words) words

end JuliaSession.Shell.Test
