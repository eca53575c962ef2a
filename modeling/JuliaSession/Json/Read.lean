import JuliaSession.Json.Basic
import JuliaSession.Decimal.Read

/-!
# Reading JSON

`Json.readWith` accepts one JSON text with nothing but white space around it. Besides strict JSON
the words `NaN`, `Infinity` and `-Infinity` are numbers. A key given twice keeps its last value.
Every reader returns what it leaves.

`Rules` say how strict a reader is and how deep arrays and objects may be nested: `Rules.strict`
reads settings, `Rules.message` the messages of a server. The first fault in the text decides.
-/

namespace JuliaSession.Json

/-- Why a text is not read. -/
inductive ReadFault where
  /-- It is not JSON. -/
  | malformed
  /-- Arrays and objects are nested too deep. -/
  | tooDeep
  /-- A whole number has more digits than are converted. -/
  | tooManyDigits (count : Nat)
  deriving DecidableEq, Repr

/-- How a text is read. -/
structure Rules where
  /-- May numbers lack the digits around a point or have zeros before the first one, and may control
  characters other than NUL stand in strings as they are? -/
  loose : Bool
  /-- How deep arrays and objects may be nested. -/
  depth : Nat

/-- JSON to the letter. The limit is what a stack of a thousand calls leaves to a reader. -/
def Rules.strict : Rules := ⟨false, 980⟩

/-- JSON as the reader of messages takes it. -/
def Rules.message : Rules := ⟨true, 1024⟩

/-- The most digits of a whole number that are converted. -/
def digitLimit : Nat := 4300

/-- What was read, or a fault. -/
def required {α : Type} : Option α → Except ReadFault α
  | some found => .ok found
  | none => .error .malformed

/-- Space, tab, line feed and carriage return may stand between the parts of a text. -/
def isSpace (c : Char) : Bool := c = ' ' || c = '\t' || c = '\n' || c = '\r'

/-- Skip white space. -/
def skipSpace (cs : List Char) : List Char := cs.dropWhile isSpace

/-- The value of a hexadecimal digit. -/
def hexValue? (c : Char) : Option Nat :=
  if '0' ≤ c ∧ c ≤ '9' then some (c.toNat - 48)
  else if 'a' ≤ c ∧ c ≤ 'f' then some (c.toNat - 87)
  else if 'A' ≤ c ∧ c ≤ 'F' then some (c.toNat - 55)
  else none

/-- The number that four hexadecimal digits write. -/
def hexFour? (a b c d : Char) : Option Nat := do
  let a ← hexValue? a
  let b ← hexValue? b
  let c ← hexValue? c
  let d ← hexValue? d
  return ((a * 16 + b) * 16 + c) * 16 + d

/-- The character that a letter after a backslash stands for. -/
def escaped? (c : Char) : Option Char :=
  match c with
  | '"' => some '"'
  | '\\' => some '\\'
  | '/' => some '/'
  | 'b' => some (Char.ofNat 8)
  | 'f' => some (Char.ofNat 12)
  | 'n' => some '\n'
  | 'r' => some '\r'
  | 't' => some '\t'
  | _ => none

/-- A high surrogate. -/
def isHighSurrogate (n : Nat) : Bool := 0xD800 ≤ n && n < 0xDC00

/-- A low surrogate. -/
def isLowSurrogate (n : Nat) : Bool := 0xDC00 ≤ n && n < 0xE000

/-- A code unit alone as a character; half of a surrogate pair is `U+FFFD`. -/
def unitChar (n : Nat) : Char :=
  if isHighSurrogate n || isLowSurrogate n then Char.ofNat 0xFFFD else Char.ofNat n

/-- May a control character stand in a string as it is? -/
def controlAllowed (loose : Bool) (c : Char) : Bool := 32 ≤ c.toNat || (loose && c.toNat != 0)

/-- The rest of a string after its opening quote; `done` holds what was read, reversed. A pair of
escapes for a surrogate pair is one character. -/
def readString (loose : Bool) : List Char → List Char → Option (String × List Char)
  | _, [] => none
  | done, '"' :: rest => some (String.ofList done.reverse, rest)
  | done, '\\' :: 'u' :: a :: b :: c :: d :: '\\' :: 'u' :: e :: f :: g :: h :: rest => do
    let high ← hexFour? a b c d
    match hexFour? e f g h with
    | none => none
    | some low =>
      -- both halves of a pair
      if isHighSurrogate high && isLowSurrogate low then
        let code := 0x10000 + (high - 0xD800) * 1024 + (low - 0xDC00)
        readString loose (Char.ofNat code :: done) rest
      -- the second escape may begin a pair of its own, so it is read again
      else if isHighSurrogate low then
        readString loose (unitChar high :: done) ('\\' :: 'u' :: e :: f :: g :: h :: rest)
      else readString loose (unitChar low :: unitChar high :: done) rest
  | done, '\\' :: 'u' :: a :: b :: c :: d :: rest => do
    let unit ← hexFour? a b c d
    readString loose (unitChar unit :: done) rest
  | done, '\\' :: c :: rest => do
    let e ← escaped? c
    readString loose (e :: done) rest
  | done, c :: rest =>
    if controlAllowed loose c then readString loose (c :: done) rest else none
termination_by _ cs => cs.length

/-- A quote ends a string. -/
theorem readString_quote (loose : Bool) (done rest : List Char) :
    readString loose done ('"' :: rest) = some (String.ofList done.reverse, rest) := by
  rw [readString]

/-- The decimal digits at the start. -/
def spanDigits (cs : List Char) : List Char × List Char := cs.span Char.isDigit

/-- The number that decimal digits write. -/
def digitsValue (cs : List Char) : Nat := cs.foldl (fun n c => n * 10 + (c.toNat - 48)) 0

/-- The exponent of a number, if the text goes on with one. -/
def readExponent (cs : List Char) : Option Int × List Char :=
  let digits (negative : Bool) (rest : List Char) : Option Int × List Char :=
    match spanDigits rest with
    | ([], _) => (none, cs)
    | (ds, rest) => (some (if negative then -(digitsValue ds : Int) else digitsValue ds), rest)
  match cs with
  | e :: rest =>
    if e = 'e' ∨ e = 'E' then
      match rest with
      | '-' :: rest => digits true rest
      | '+' :: rest => digits false rest
      | rest => digits false rest
    else (none, cs)
  | [] => (none, cs)

/-- The fraction of a number, if the text goes on with one; where numbers are read loosely it may
have no digits. -/
def readFraction (loose : Bool) (cs : List Char) : Option (List Char) × List Char :=
  match cs with
  | '.' :: rest =>
    match spanDigits rest with
    | ([], rest) => if loose then (some [], rest) else (none, cs)
    | (ds, rest) => (some ds, rest)
  | _ => (none, cs)

/-- The digits before the point of a number. A zero stands alone, unless numbers are read
loosely. -/
def readWhole (loose : Bool) (cs : List Char) : List Char × List Char :=
  match loose, cs with
  | false, '0' :: rest => (['0'], rest)
  | _, cs => spanDigits cs

/-- A number without its sign. After a sign, a number that is read loosely may have no digits before
its point, and without a point too: a sign alone is zero. -/
def readNumber (loose negative : Bool) (cs : List Char) :
    Except ReadFault (Json × List Char) := do
  let (ds, rest) := readWhole loose cs
  if ds.isEmpty ∧ !(loose ∧ negative) then throw .malformed
  let (fraction, rest) := readFraction loose rest
  let digits := ds ++ fraction.getD []
  let (exponent, rest) := if digits.isEmpty then (none, rest) else readExponent rest
  match fraction, exponent with
  -- neither fraction nor exponent: a whole number
  | none, none =>
    if digitLimit < ds.length then throw (.tooManyDigits ds.length)
    return (int (if negative then -(digitsValue ds : Int) else digitsValue ds), rest)
  | _, _ =>
    if digits.isEmpty then throw .malformed
    return (float (Decimal.round negative (digitsValue digits)
      (exponent.getD 0 - (fraction.getD []).length)), rest)

mutual

/-- A value at the start of the text; `depth` is how deep it may be nested, and `fuel` bounds its
length. -/
def readValue (loose : Bool) (depth : Nat) : Nat → List Char → Except ReadFault (Json × List Char)
  | 0, _ => .error .malformed
  | fuel + 1, cs =>
    match cs with
    | '"' :: rest => do
      let (s, rest) ← required (readString loose [] rest)
      return (str s, rest)
    | 'n' :: 'u' :: 'l' :: 'l' :: rest => .ok (null, rest)
    | 't' :: 'r' :: 'u' :: 'e' :: rest => .ok (bool true, rest)
    | 'f' :: 'a' :: 'l' :: 's' :: 'e' :: rest => .ok (bool false, rest)
    | 'N' :: 'a' :: 'N' :: rest => .ok (float Binary64.nan, rest)
    | 'I' :: 'n' :: 'f' :: 'i' :: 'n' :: 'i' :: 't' :: 'y' :: rest =>
      .ok (float (Binary64.infinity false), rest)
    | '-' :: 'I' :: 'n' :: 'f' :: 'i' :: 'n' :: 'i' :: 't' :: 'y' :: rest =>
      .ok (float (Binary64.infinity true), rest)
    | '-' :: rest => readNumber loose true rest
    | '[' :: rest =>
      match depth, skipSpace rest with
      | 0, _ => .error .tooDeep
      | _, ']' :: rest => .ok (arr [], rest)
      | depth + 1, rest => do
        let (items, rest) ← readItems loose depth fuel [] rest
        return (arr items, rest)
    | c :: rest =>
      if c.toNat = 123 then
        match depth, skipSpace rest with
        | 0, _ => .error .tooDeep
        | _, [] => .error .malformed
        | depth + 1, d :: rest =>
          if d.toNat = 125 then .ok (obj [], rest)
          else do
            let (members, rest) ← readMembers loose depth fuel [] (d :: rest)
            return (obj members, rest)
      else readNumber loose false cs
    | [] => .error .malformed

/-- The items of an array up to its closing bracket; `done` holds those read, reversed. -/
def readItems (loose : Bool) (depth : Nat) :
    Nat → List Json → List Char → Except ReadFault (List Json × List Char)
  | 0, _, _ => .error .malformed
  | fuel + 1, done, cs => do
    let (item, rest) ← readValue loose depth fuel cs
    match skipSpace rest with
    | ',' :: rest => readItems loose depth fuel (item :: done) (skipSpace rest)
    | ']' :: rest => return ((item :: done).reverse, rest)
    | _ => throw .malformed

/-- The members of an object up to its closing bracket; `done` holds those read. -/
def readMembers (loose : Bool) (depth : Nat) :
    Nat → List (String × Json) → List Char →
      Except ReadFault (List (String × Json) × List Char)
  | 0, _, _ => .error .malformed
  | fuel + 1, done, cs =>
    match cs with
    | '"' :: rest => do
      let (key, rest) ← required (readString loose [] rest)
      match skipSpace rest with
      | ':' :: rest =>
        let (value, rest) ← readValue loose depth fuel (skipSpace rest)
        let done := Assoc.insert key value done
        match skipSpace rest with
        | ',' :: rest => readMembers loose depth fuel done (skipSpace rest)
        | c :: rest => if c.toNat = 125 then return (done, rest) else throw .malformed
        | [] => throw .malformed
      | _ => throw .malformed
    | _ => .error .malformed

end

/-- The value of a text that holds one value and white space around it. -/
def readWith (rules : Rules) (cs : List Char) : Except ReadFault Json := do
  let (value, rest) ← readValue rules.loose rules.depth (cs.length + 1) (skipSpace cs)
  if (skipSpace rest).isEmpty then return value else throw .malformed

/-- The value of a text of strict JSON, if it has one. -/
def readChars? (cs : List Char) : Option Json := (readWith .strict cs).toOption

/-- The value of a text of strict JSON, if it has one. -/
def read? (s : String) : Option Json := readChars? s.toList

end JuliaSession.Json
