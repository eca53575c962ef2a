import JuliaSession.Json.Basic
import JuliaSession.Decimal.Shortest
import JuliaSession.Text.Quoted

/-!
# Writing JSON values

One printer serves every text form of a value. A `Style` gives the words for null, truth values and
the numbers that are not finite, the quoting of strings, and what stands between members:

* `Style.compact` is JSON without spaces, as log records are written;
* `Style.indented` is JSON over several lines;
* `Style.literal` is the notation of diagnostics, where strings are `Text.quoted`.
-/

namespace JuliaSession.Json

/-- One character inside a JSON string: quotes, backslashes and controls are escaped. -/
def escapeChar (c : Char) : List Char :=
  if c = '"' then ['\\', '"']
  else if c = '\\' then ['\\', '\\']
  else if c = '\n' then ['\\', 'n']
  else if c = '\r' then ['\\', 'r']
  else if c = '\t' then ['\\', 't']
  else if c = Char.ofNat 8 then ['\\', 'b']
  else if c = Char.ofNat 12 then ['\\', 'f']
  else if c.toNat < 32 then '\\' :: 'u' :: Text.hexFixed 4 c.toNat
  else [c]

/-- A JSON string with its quotes. -/
def quoteChars (cs : List Char) : List Char := '"' :: cs.flatMap escapeChar ++ ['"']

/-- How values are written. -/
structure Style where
  /-- The word for null. -/
  nullWord : String
  /-- The word for true. -/
  trueWord : String
  /-- The word for false. -/
  falseWord : String
  /-- The word for positive infinity. -/
  infinityWord : String
  /-- The word for NaN. -/
  nanWord : String
  /-- How the digits of other numbers are laid out. -/
  numbers : Decimal.Layout
  /-- How strings are quoted. -/
  quote : List Char → List Char
  /-- What stands between two members on one line. -/
  comma : String
  /-- What stands between a key and its value. -/
  colon : String
  /-- The indentation of one level; without one everything is on one line. -/
  indent : Option Nat

/-- JSON without spaces. -/
def Style.compact : Style :=
  ⟨"null", "true", "false", "Infinity", "NaN", .standard, quoteChars, ",", ":", none⟩

/-- JSON over several lines, two spaces for each level. -/
def Style.indented : Style :=
  ⟨"null", "true", "false", "Infinity", "NaN", .standard, quoteChars, ",", ": ", some 2⟩

/-- The notation of diagnostics. -/
def Style.literal : Style :=
  ⟨"None", "True", "False", "inf", "nan", .standard, Text.Quoted.encode, ", ", ": ", none⟩

/-- What stands before the first member, at level `depth`, and again after the last one. -/
def Style.lineBreak (style : Style) (depth : Nat) : List Char :=
  match style.indent with
  | none => []
  | some n => '\n' :: List.replicate (n * depth) ' '

/-- The pieces between an opening and a closing bracket at level `depth`. -/
def Style.enclose (style : Style) (depth : Nat) (left right : Char) (pieces : List (List Char)) :
    List Char :=
  match pieces with
  | [] => [left, right]
  | first :: rest =>
    left :: style.lineBreak (depth + 1) ++ first
      ++ rest.flatMap (fun piece => style.comma.toList ++ style.lineBreak (depth + 1) ++ piece)
      ++ style.lineBreak depth ++ [right]

mutual

/-- The text of a value at level `depth`. -/
def write (style : Style) (depth : Nat) : Json → List Char
  | null => style.nullWord.toList
  | bool b => if b then style.trueWord.toList else style.falseWord.toList
  | int i => (toString i).toList
  | float x => (x.text style.numbers style.infinityWord style.nanWord).toList
  | str s => style.quote s.toList
  | arr items => style.enclose depth '[' ']' (writeItems style (depth + 1) items)
  | obj members => style.enclose depth (Char.ofNat 123) (Char.ofNat 125)
      (writeMembers style (depth + 1) members)

/-- The texts of an array's items. -/
def writeItems (style : Style) (depth : Nat) : List Json → List (List Char)
  | [] => []
  | item :: rest => write style depth item :: writeItems style depth rest

/-- The texts of an object's members. -/
def writeMembers (style : Style) (depth : Nat) : List (String × Json) → List (List Char)
  | [] => []
  | (key, value) :: rest =>
    (style.quote key.toList ++ style.colon.toList ++ write style depth value)
      :: writeMembers style depth rest

end

/-- JSON without spaces. -/
def compact (value : Json) : String := String.ofList (write .compact 0 value)

/-- JSON over several lines. -/
def indented (value : Json) : String := String.ofList (write .indented 0 value)

/-- A value as it is shown inside a diagnostic. -/
def literal (value : Json) : String := String.ofList (write .literal 0 value)

/-- A value as the text of a message: a string stands for itself, any other value for its
notation. -/
def plainText : Json → String
  | str s => s
  | value => value.literal

end JuliaSession.Json
