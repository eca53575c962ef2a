import JuliaSession.Config.Schema
import JuliaSession.Json.Print
import JuliaSession.Machine.Fault
import JuliaSession.Text.Lines
import JuliaSession.Text.Blank

/-!
# Failures

Everything that can stop an operation, by its cause. `Failure.kind` is the name of the class a
failure is reported under, `Failure.message` its wording and `Failure.describe` the paragraph shown
to the user.
-/

namespace JuliaSession

/-- Why an operation stopped. -/
inductive Failure where
  /-- The session cannot be set up, in the host's words. -/
  | session (message : String)
  /-- There is nothing to run the server with. -/
  | configuration (message : String)
  /-- A command ended with a status other than zero, or (without a status) could not be launched. -/
  | command (cmd : List String) (status : Option Int) (stderr : String)
  /-- The server process could not be started, or the handshake failed. -/
  | serverStart (message : String)
  /-- The server answered a request with an error. -/
  | response (code message : Json)
  /-- A client of this name is registered already. -/
  | registration (message : String)
  /-- The settings loaded from `path` last are not valid. -/
  | settings (path : String) (violations : List Config.Violation)
  /-- A value is not a valid section of the settings. -/
  | invalid (violations : List Config.Violation)
  /-- The operating system refused a request. -/
  | os (fault : OsFault)
  /-- A text that has to name something names nothing. -/
  | badValue (message : String)
  /-- There is no entry for a key. -/
  | missingKey (key : String)
  /-- A configuration text is not arranged by the grammar. -/
  | unexpectedToken
  /-- Values are nested too deep. -/
  | tooDeep
  /-- A whole number has more digits than are converted. -/
  | tooManyDigits (count : Nat)
  /-- Bytes are not the text they should be. -/
  | notText
  /-- A member was asked of a value that has none. -/
  | noMembers
  /-- A value has the wrong type for what is done with it. -/
  | wrongType
  /-- A command has no words. -/
  | emptyCommand
  /-- The package has no such name. -/
  | unknownName (message : String)
  /-- A closing tag has no opening one. -/
  | badMarkup
  /-- The input ended where an answer was expected. -/
  | endOfInput
  /-- The operation was cancelled. -/
  | cancelled
  /-- The operation took too long. -/
  | timedOut
  /-- A process did not end in the time it was given. -/
  | stillRunning
  /-- A failure of a component of the host, under the name that it gives. -/
  | foreign (kind message : String)
  deriving DecidableEq, Inhabited

namespace Failure

/-- The name of the class a failure is reported under. -/
def kind : Failure → String
  | session _ => "JuliaLSError"
  | configuration _ => "ConfigurationError"
  | command .. => "CommandError"
  | serverStart _ => "ServerStartError"
  | response .. => "ResponseError"
  | registration _ => "RegistrationError"
  | settings .. => "ConfigError"
  | invalid _ => "ValidationError"
  | os fault => fault.reason.kind
  | badValue _ => "ValueError"
  | missingKey _ => "KeyError"
  | unexpectedToken => "UnexpectedToken"
  | tooDeep => "RecursionError"
  | tooManyDigits _ => "ValueError"
  | notText => "UnicodeDecodeError"
  | noMembers => "AttributeError"
  | wrongType => "TypeError"
  | emptyCommand => "IndexError"
  | unknownName _ => "AttributeError"
  | badMarkup => "MarkupError"
  | endOfInput => "EOFError"
  | cancelled => "CancelledError"
  | timedOut => "TimeoutError"
  | stillRunning => "TimeoutExpired"
  | foreign kind _ => kind

/-- The type of a JSON value as a report of a violation names it. -/
def typeName : Json → String
  | .null => "NoneType"
  | .bool _ => "bool"
  | .int _ => "int"
  | .float _ => "float"
  | .str _ => "str"
  | .arr _ => "list"
  | .obj _ => "dict"

/-- The longest start of a text that takes at most `room` bytes. -/
def takeBytes : Nat → List Char → List Char
  | _, [] => []
  | room, c :: rest =>
    if c.utf8Size ≤ room then c :: takeBytes (room - c.utf8Size) rest else []

/-- A text of more than 50 bytes cut down to its first 25 and last 24 bytes. -/
def abridge (cs : List Char) : List Char :=
  if (cs.map Char.utf8Size).foldl (· + ·) 0 ≤ 50 then cs
  else takeBytes 25 cs ++ "...".toList ++ (takeBytes 24 cs.reverse).reverse

/-- The text of one violation. -/
def violationText (violation : Config.Violation) : String :=
  let found := String.ofList (abridge (Json.write .literal 0 violation.found))
  String.intercalate "." violation.loc ++ "\n  " ++ violation.fault.message
    ++ " [type=" ++ violation.fault.code ++ ", input_value=" ++ found
    ++ ", input_type=" ++ typeName violation.found ++ "]\n"
    ++ "    For further information visit https://errors.pydantic.dev/2.14/v/"
    ++ violation.fault.code

/-- The text of all violations of the section `name`. -/
def violationsText (name : String) (violations : List Config.Violation) : String :=
  let count := violations.length
  toString count ++ " validation error" ++ (if count = 1 then "" else "s") ++ " for " ++ name
    ++ "\n" ++ String.intercalate "\n" (violations.map violationText)

/-- The name of a command in a report. -/
def commandName : List String → String
  | [] => "?"
  | name :: _ => name

/-- The wording of a failure. -/
def message : Failure → String
  | session message => message
  | configuration message => message
  | command cmd none _ => "command " ++ commandName cmd ++ " could not be launched"
  | command cmd (some status) _ =>
    "command " ++ commandName cmd ++ " exited with status " ++ toString status
  | serverStart message => message
  | response _ message => message.plainText
  | registration message => message
  | settings path violations =>
    "Config error in " ++ path ++ ": " ++ violationsText "Config" violations
  | invalid violations => violationsText "JuliaConfig" violations
  | os fault => fault.message
  | badValue message => message
  | missingKey key => Text.quoted key
  | unexpectedToken => "a token stands where the grammar does not allow it"
  | tooDeep => "the value is nested too deep"
  | tooManyDigits count =>
    "Exceeds the limit (4300 digits) for integer string conversion: value has " ++ toString count
      ++ " digits; use sys.set_int_max_str_digits() to increase the limit"
  | notText => "the bytes are not UTF-8"
  | noMembers => "the value has no members"
  | wrongType => "the value has the wrong type"
  | emptyCommand => "the command has no words"
  | unknownName message => message
  | badMarkup => "a closing tag does not match any open tag"
  | endOfInput => "the input ended"
  | cancelled => ""
  | timedOut => ""
  | stillRunning => "the process has not ended"
  | foreign _ message => message

/-- Failures of the session itself, which are shown to the user by their wording alone. -/
def isOwn : Failure → Bool
  | session _ | configuration _ | command .. | serverStart _ | response .. | registration _ => true
  | _ => false

/-- Failures that are no errors but requests to stop. -/
def isInterruption : Failure → Bool
  | cancelled => true
  | foreign kind _ =>
    kind == "CancelledError" || kind == "KeyboardInterrupt" || kind == "SystemExit"
      || kind == "GeneratorExit" || kind == "BaseException"
  | _ => false

/-- How many lines of a command's error output are shown. -/
def shownStderrLines : Nat := 5

/-- The last lines of a command's error output that are not blank. -/
def stderrTail (stderr : String) : List String :=
  let lines := (Text.splitLines stderr).filter fun line => !Text.isBlankText line
  lines.drop (lines.length - shownStderrLines)

/-- The paragraph that tells the user about a failure. -/
def describe (failure : Failure) : String :=
  match failure with
  | command _ _ stderr =>
    match stderrTail stderr with
    | [] => failure.message
    | tail => failure.message ++ ":\n" ++ String.intercalate "\n" tail
  | _ =>
    if failure.isOwn || failure.isInterruption then failure.message
    else failure.kind ++ ": " ++ failure.message

end Failure

end JuliaSession
