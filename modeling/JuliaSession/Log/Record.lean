import JuliaSession.Clock
import JuliaSession.Failure
import JuliaSession.Log.Level

/-!
# Log records

A record is a message with fields, written as one line in one of three formats. `Record.members` is
the record as JSON members: time, milliseconds since the record before, severity and message, then
the tags of the logger and the fields of the call. A field of the call replaces a tag of its name,
and either replaces a standard member in its place; null fields are left out.
-/

namespace JuliaSession.Log

/-- A failure as it is logged: its class and wording, and the failures that caused it. -/
structure Report where
  /-- The name of its class. -/
  kind : String
  /-- Its wording. -/
  message : String
  /-- Class and wording of what caused it, the nearest cause first. -/
  causes : List (String × String) := []
  deriving DecidableEq, Inhabited

/-- A failure without a cause. -/
def Report.of (failure : Failure) : Report := { kind := failure.kind, message := failure.message }

/-- How many causes of a failure are written. -/
def writtenCauses : Nat := 10

/-- The text of a failure with its causes. -/
def Report.text (report : Report) : String :=
  String.intercalate " Caused by: "
    (((report.kind, report.message) :: report.causes.take writtenCauses).map
      fun (kind, message) => kind ++ ": " ++ message)

/-- A message or the value of a field. -/
inductive Value where
  /-- A JSON value. -/
  | json (value : Json)
  /-- A failure. -/
  | failure (report : Report)
  deriving DecidableEq, Inhabited

/-- A value as it is written: a failure is its text. -/
def Value.toJson : Value → Json
  | json value => value
  | failure report => .str report.text

/-- Tags and fields. -/
abbrev Fields := Assoc String Value

/-- A text as the value of a field. -/
def text (s : String) : Value := .json (.str s)

/-- A number as the value of a field. -/
def number (n : Int) : Value := .json (.int n)

/-- A list of texts as the value of a field. -/
def texts (words : List String) : Value := .json (.ofTexts words)

/-- What is written down about one event. -/
structure Record where
  /-- When it happened. -/
  moment : Clock.Millis
  /-- Milliseconds since the record before. -/
  delta : Int
  /-- How severe it is. -/
  level : Level
  /-- What happened. -/
  message : Value
  /-- The tags of the logger. -/
  tags : Fields
  /-- The fields of the call. -/
  extra : Fields
  deriving Inhabited

/-- The names of the standard members. -/
def standardNames : List String := ["time", "delta_ms", "level", "msg"]

/-- The tags and fields that are written, as JSON. -/
def Record.fields (record : Record) : Json.Members :=
  ((Assoc.insertAll record.tags record.extra).filter fun entry => entry.2 ≠ .json .null).map
    fun (name, value) => (name, value.toJson)

/-- The record as JSON members. -/
def Record.members (record : Record) : Json.Members :=
  Assoc.insertAll
    [("time", .str (Clock.stamp record.moment)), ("delta_ms", .int record.delta),
      ("level", .str record.level.tag), ("msg", record.message.toJson)]
    record.fields

/-- Does a text need quotes in a `key=value` line? -/
def needsQuotes (cs : List Char) : Bool :=
  cs.isEmpty || cs.any fun c => c = '=' || Text.isBlank c

/-- A text in a `key=value` line. -/
def fieldText (cs : List Char) : List Char := if needsQuotes cs then Json.quoteChars cs else cs

/-- The value of a field in a `key=value` line. -/
def fieldValue : Json → List Char
  | .bool b => if b then "true".toList else "false".toList
  | .arr items => Json.write .compact 0 (.arr items)
  | .obj members => Json.write .compact 0 (.obj members)
  | .int i => (toString i).toList
  | .float x => (x.text .standard "inf" "nan").toList
  | value => fieldText value.plainText.toList

/-- The fields of a record that are not standard members, as `key=value` pairs. -/
def fieldPairs (members : Json.Members) : List Char :=
  Text.joinWith [' '] ((members.filter fun entry => entry.1 ∉ standardNames).map
    fun (name, value) => name.toList ++ '=' :: fieldValue value)

/-- The text of a standard member. -/
def memberText (name : String) (members : Json.Members) : List Char :=
  (Json.member name members).plainText.toList

/-- The line of a record, with its line feed. -/
def Record.line (format : Format) (record : Record) : List Char :=
  let members := record.members
  let pairs := fieldPairs members
  match format with
  | .json => Json.write .compact 0 (.obj members) ++ ['\n']
  | .pretty =>
    let message := Json.member "msg" members
    -- an empty message leaves its place empty
    let shown := if message.isTruthy then message.plainText.toList else []
    memberText "time" members ++ ' ' :: record.level.name.toList ++ ' ' :: shown
      ++ (if pairs.isEmpty then [] else ' ' :: '(' :: pairs ++ [')'])
      ++ ' ' :: '+' :: memberText "delta_ms" members ++ ['m', 's', '\n']
  | .kv =>
    let parts :=
      [memberText "time" members, '+' :: memberText "delta_ms" members ++ ['m', 's'],
        "level=".toList ++ memberText "level" members,
        "msg=".toList ++ fieldValue (Json.member "msg" members), pairs]
    Text.joinWith [' '] (parts.filter fun part => !part.isEmpty) ++ ['\n']

end JuliaSession.Log
