import JuliaSession.Text.Blank

/-!
# Log levels and formats

The severities of log records in ascending order, the three line formats, and how either is read
from a setting: blank characters around it and the case of its letters do not matter.
-/

namespace JuliaSession.Log

/-- Severity of a record. -/
inductive Level where
  /-- Detail for developers. -/
  | debug
  /-- Normal operation. -/
  | info
  /-- Something unexpected that does not stop the program. -/
  | warn
  /-- A failure. -/
  | error
  deriving DecidableEq, Repr, Inhabited

/-- Format of a log line. -/
inductive Format where
  /-- `key=value` fields. -/
  | kv
  /-- A JSON object. -/
  | json
  /-- A line for a reader. -/
  | pretty
  deriving DecidableEq, Repr, Inhabited

/-- The rank of a severity. -/
def Level.rank : Level → Nat
  | debug => 0
  | info => 1
  | warn => 2
  | error => 3

/-- The name of a severity in capitals. -/
def Level.name : Level → String
  | debug => "DEBUG"
  | info => "INFO"
  | warn => "WARN"
  | error => "ERROR"

/-- The name of a severity as it stands in records. -/
def Level.tag : Level → String
  | debug => "debug"
  | info => "info"
  | warn => "warn"
  | error => "error"

/-- The name of a format. -/
def Format.name : Format → String
  | kv => "kv"
  | json => "json"
  | pretty => "pretty"

/-- Lower case for letters whose lower case is an ASCII letter: the ASCII capitals and the Kelvin
sign. Names of levels and formats hold no other letters. -/
def lowerAscii (c : Char) : Char := if c.toNat = 0x212A then 'k' else c.toLower

/-- A setting as it is compared with the names: trimmed and in lower case. -/
def settingKey (value : String) : String :=
  String.ofList ((Text.strip value.toList).map lowerAscii)

/-- The severity that a setting names. -/
def Level.named? (value : String) : Option Level :=
  match settingKey value with
  | "debug" => some debug
  | "info" => some info
  | "warn" => some warn
  | "warning" => some warn
  | "error" => some error
  | _ => none

/-- The format that a setting names. -/
def Format.named? (value : String) : Option Format :=
  match settingKey value with
  | "kv" => some kv
  | "json" => some json
  | "pretty" => some pretty
  | _ => none

/-- Is a record of this severity written when `least` is the lowest severity written? -/
def Level.passes (level least : Level) : Bool := least.rank ≤ level.rank

end JuliaSession.Log
