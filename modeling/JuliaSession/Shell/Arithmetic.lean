import JuliaSession.Assoc
import JuliaSession.Shell.Format

/-!
# Arithmetic of the shell

The value of an integer expression with the usual operators and precedences, on numbers of 64 bits.
Names stand for variables, and an expression may assign to them. `Arithmetic.value` gives the value
and the assignments, or says why there is none. Of a condition only the operand that counts is
evaluated: in the others (`idle`) nothing is looked up, assigned or divided.
-/

namespace JuliaSession.Shell.Arithmetic

/-- Why an expression has no value. -/
inductive Fault where
  /-- It divides by zero. -/
  | division
  /-- An operand is missing. -/
  | noOperand
  /-- Something follows it. -/
  | noEnd
  /-- A parenthesis is not closed. -/
  | noParenthesis
  /-- A condition has only one outcome. -/
  | noColon
  /-- A variable does not hold a number. -/
  | badVariable (value : ByteText)
  deriving DecidableEq, Repr

/-- What is complained about an expression with a fault. -/
def Fault.complaint (fault : Fault) (expression : ByteText) : ByteText :=
  let about (words : String) : ByteText :=
    ("arithmetic expression: " ++ words ++ ": \"").toList ++ expression ++ ['"']
  match fault with
  | division => about "division by zero"
  | noOperand => about "expecting primary"
  | noEnd => about "expecting EOF"
  | noParenthesis => about "expecting ')'"
  | noColon => about "expecting ':'"
  | badVariable value => "Illegal number: ".toList ++ value

/-- A token of an expression. -/
inductive Token where
  /-- A number. -/
  | number (n : Int)
  /-- A variable. -/
  | name (chars : ByteText)
  /-- An operator or parenthesis. -/
  | operator (text : String)
  /-- A character that is none of these. -/
  | other
  deriving DecidableEq, Repr

/-- A number as 64 bits hold it. -/
def wrap (n : Int) : Int := n.bmod (Nat.pow 2 64)

/-- The operators, each before its own beginnings. -/
def operators : List String :=
  ["<<=", ">>=", "||", "&&", "==", "!=", "<=", ">=", "<<", ">>", "+=", "-=", "*=", "/=", "%=", "&=",
    "^=", "|=", "=", "<", ">", "|", "^", "&", "+", "-", "*", "/", "%", "!", "~", "?", ":", "(", ")"]

/-- The tokens of an expression. -/
def tokens : Nat → ByteText → List Token
  | 0, _ => []
  | _, [] => []
  | fuel + 1, c :: rest =>
    if c = ' ' ∨ c = '\t' ∨ c = '\n' then tokens fuel rest
    else if c.isDigit then
      match wholeNumber? (c :: rest) with
      | some (n, after) => .number (min n (Int.pow 2 63 - 1)) :: tokens fuel after
      | none => .other :: tokens fuel rest
    else if isNameChar c then
      let name := (c :: rest).takeWhile isNameChar
      .name name :: tokens fuel ((c :: rest).drop name.length)
    else
      match operators.find? fun text => (c :: rest).take text.length = text.toList with
      | some text => .operator text :: tokens fuel ((c :: rest).drop text.length)
      | none => .other :: tokens fuel rest

/-- The binary operators, the tightest first. -/
def levels : List (List String) :=
  [["*", "/", "%"], ["+", "-"], ["<<", ">>"], ["<=", ">=", "<", ">"], ["==", "!="], ["&"], ["^"],
    ["|"]]

/-- A truth value as a number. -/
def truth (b : Bool) : Int := if b then 1 else 0

/-- The 64 bits of a number. -/
def bits (n : Int) : Nat := (n.emod (Int.pow 2 64)).toNat

/-- Apply a binary operator. -/
def apply (op : String) (a b : Int) : Except Fault Int :=
  match op with
  | "|" => .ok (wrap (bits a ||| bits b : Nat))
  | "^" => .ok (wrap (bits a ^^^ bits b : Nat))
  | "&" => .ok (wrap (bits a &&& bits b : Nat))
  | "==" => .ok (truth (a == b))
  | "!=" => .ok (truth (a != b))
  | "<=" => .ok (truth (a ≤ b))
  | ">=" => .ok (truth (b ≤ a))
  | "<" => .ok (truth (a < b))
  | ">" => .ok (truth (b < a))
  | "<<" => .ok (wrap (a * Int.pow 2 (bits b % 64)))
  | ">>" => .ok (a.fdiv (Int.pow 2 (bits b % 64)))
  | "+" => .ok (wrap (a + b))
  | "-" => .ok (wrap (a - b))
  | "*" => .ok (wrap (a * b))
  | "/" => if b = 0 then .error .division else .ok (wrap (a.tdiv b))
  | "%" => if b = 0 then .error .division else .ok (a.tmod b)
  | _ => .ok b

/-- The number that the value of a variable says; an empty one counts as zero. -/
def valueOf (value : ByteText) : Except Fault Int :=
  match wholeNumber? value with
  | some (n, rest) =>
    if rest.all isNumberSpace ∧ -(Int.pow 2 63) ≤ n ∧ n < Int.pow 2 63 then .ok n
    else .error (.badVariable value)
  | none => if value.all isNumberSpace then .ok 0 else .error (.badVariable value)

/-- Steps that assign to variables. -/
abbrev Steps := StateT (Assoc ByteText Int) (Except Fault)

/-- The value of a variable, assigned here or before. -/
def valueIn (lookup : ByteText → ByteText) (idle : Bool) (name : ByteText) : Steps Int := do
  if idle then return 0
  match Assoc.get? name (← get) with
  | some n => return n
  | none => valueOf (lookup name)

mutual

/-- An expression: an assignment or a condition. `lookup` gives the values of the variables. -/
def expression (lookup : ByteText → ByteText) : Nat → Bool → List Token → Steps (Int × List Token)
  | 0, _, _ => throw .noOperand
  | fuel + 1, idle, found => do
    let assigned? := match found with
      | .name name :: .operator op :: rest =>
        if op = "=" then some (name, "", rest)
        else
          let base := String.ofList op.toList.dropLast
          if op.toList.getLast? = some '=' ∧ op ∉ ["==", "!=", "<=", ">="] then
            some (name, base, rest)
          else none
      | _ => none
    match assigned? with
    | some (name, op, rest) => do
      let (n, rest) ← expression lookup fuel idle rest
      if idle then return (n, rest)
      let n ← if op = "" then pure n else do
        let before ← valueIn lookup false name
        apply op before n
      modify fun table => Assoc.insert name n table
      return (n, rest)
    | none => condition lookup fuel idle found

/-- A condition with two outcomes, or operators. -/
def condition (lookup : ByteText → ByteText) : Nat → Bool → List Token → Steps (Int × List Token)
  | 0, _, _ => throw .noOperand
  | fuel + 1, idle, found => do
    let (value, rest) ← disjunction lookup fuel idle found
    match rest with
    | .operator "?" :: rest => do
      let (first, rest) ← expression lookup fuel (idle || value == 0) rest
      match rest with
      | .operator ":" :: rest => do
        let (second, rest) ← condition lookup fuel (idle || value != 0) rest
        return (if value ≠ 0 then first else second, rest)
      | _ => throw .noColon
    | _ => return (value, rest)

/-- Operands joined by `||`. -/
def disjunction (lookup : ByteText → ByteText) :
    Nat → Bool → List Token → Steps (Int × List Token)
  | 0, _, _ => throw .noOperand
  | fuel + 1, idle, found => do
    let (a, rest) ← conjunction lookup fuel idle found
    match rest with
    | .operator "||" :: rest => do
      let (b, rest) ← disjunction lookup fuel (idle || a != 0) rest
      return (truth (a != 0 || b != 0), rest)
    | _ => return (a, rest)

/-- Operands joined by `&&`. -/
def conjunction (lookup : ByteText → ByteText) :
    Nat → Bool → List Token → Steps (Int × List Token)
  | 0, _, _ => throw .noOperand
  | fuel + 1, idle, found => do
    let (a, rest) ← binary lookup fuel idle levels.reverse found
    match rest with
    | .operator "&&" :: rest => do
      let (b, rest) ← conjunction lookup fuel (idle || a == 0) rest
      return (truth (a != 0 && b != 0), rest)
    | _ => return (a, rest)

/-- Operands joined by the operators of some levels, of which the loosest comes first. -/
def binary (lookup : ByteText → ByteText) :
    Nat → Bool → List (List String) → List Token → Steps (Int × List Token)
  | 0, _, _, _ => throw .noOperand
  | fuel + 1, idle, [], found => operand lookup fuel idle found
  | fuel + 1, idle, level :: tighter, found => do
    let (first, rest) ← binary lookup fuel idle tighter found
    continued lookup fuel idle level tighter first rest

/-- The rest of an expression after its first operand. -/
def continued (lookup : ByteText → ByteText) :
    Nat → Bool → List String → List (List String) → Int → List Token → Steps (Int × List Token)
  | 0, _, _, _, _, _ => throw .noOperand
  | fuel + 1, idle, level, tighter, left, found => do
    match found with
    | .operator op :: rest =>
      if op ∈ level then do
        let (right, rest) ← binary lookup fuel idle tighter rest
        let value ← if idle then pure right else apply op left right
        continued lookup fuel idle level tighter value rest
      else return (left, found)
    | _ => return (left, found)

/-- An operand: a sign, a number, a variable or an expression in parentheses. -/
def operand (lookup : ByteText → ByteText) : Nat → Bool → List Token → Steps (Int × List Token)
  | 0, _, _ => throw .noOperand
  | fuel + 1, idle, found => do
    let signed (change : Int → Int) (rest : List Token) : Steps (Int × List Token) := do
      let (n, rest) ← operand lookup fuel idle rest
      return (change n, rest)
    match found with
    | .number n :: rest => return (n, rest)
    | .name name :: rest => return (← valueIn lookup idle name, rest)
    | .operator "+" :: rest => signed id rest
    | .operator "-" :: rest => signed (fun n => wrap (-n)) rest
    | .operator "!" :: rest => signed (fun n => truth (n == 0)) rest
    | .operator "~" :: rest => signed (fun n => -n - 1) rest
    | .operator "(" :: rest => do
      let (n, rest) ← expression lookup fuel idle rest
      match rest with
      | .operator ")" :: rest => return (n, rest)
      | _ => throw .noParenthesis
    | _ => throw .noOperand

end

/-- The value of an expression, with the variables it assigns to. -/
def value (lookup : ByteText → ByteText) (cs : ByteText) :
    Except Fault (Int × Assoc ByteText Int) := do
  let found := tokens (cs.length + 1) cs
  let ((n, rest), table) ← (expression lookup (20 * (found.length + 2)) false found).run []
  if rest.isEmpty then return (n, table) else throw .noEnd

end JuliaSession.Shell.Arithmetic
