import JuliaSession.Text.Printable

/-!
# Quoted text

How a text is shown inside a diagnostic: between single quotes, or between double quotes when it
holds a single quote and no double quote. The quote in use and the backslash are escaped by a
backslash, line feed, carriage return and tab by a letter, and every other character that is not
printable by its code in two, four or eight hexadecimal digits.
-/

namespace JuliaSession.Text

/-- The hexadecimal digit of value `n`, in lower case. -/
def hexDigit (n : Nat) : Char :=
  if n < 10 then Char.ofNat (48 + n) else Char.ofNat (87 + n)

/-- `n` in exactly `width` hexadecimal digits, higher digits dropped. -/
def hexFixed : Nat → Nat → List Char
  | 0, _ => []
  | width + 1, n => hexFixed width (n / 16) ++ [hexDigit (n % 16)]

namespace Quoted

/-- The quote a text is written between. -/
def quoteFor (cs : List Char) : Char :=
  if '\'' ∈ cs ∧ '"' ∉ cs then '"' else '\''

/-- One character between quotes `quote`. -/
def encodeChar (quote c : Char) : List Char :=
  if c = quote ∨ c = '\\' then ['\\', c]
  else if c = '\n' then ['\\', 'n']
  else if c = '\r' then ['\\', 'r']
  else if c = '\t' then ['\\', 't']
  else if isPrintable c then [c]
  else
    let n := c.toNat
    if n < 0x100 then '\\' :: 'x' :: hexFixed 2 n
    else if n < 0x10000 then '\\' :: 'u' :: hexFixed 4 n
    else '\\' :: 'U' :: hexFixed 8 n

/-- A text with its quotes. -/
def encode (cs : List Char) : List Char :=
  let quote := quoteFor cs
  quote :: cs.flatMap (encodeChar quote) ++ [quote]

end Quoted

/-- A text as it is shown inside a diagnostic. -/
def quoted (s : String) : String := String.ofList (Quoted.encode s.toList)

end JuliaSession.Text
