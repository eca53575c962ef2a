import JuliaSession.Shell.Tools.Options

/-!
# What filters read

The operands of a filter are files, and a hyphen stands for the input. A filter that can write
before its input is complete does so in whole blocks (`Call.reading`); then it waits for the rest.
-/

namespace JuliaSession.Shell

/-- The lines of a text without their ends; a last line without an end counts. -/
def linesEndedBy (ending : Char) (text : ByteText) : List ByteText :=
  let parts := Text.splitOnChar ending text
  if parts.getLast? = some [] then parts.dropLast else parts

/-- The complete lines at the start of a text. -/
def completeLines (ending : Char) (text : ByteText) : ByteText :=
  Text.dropRightWhile (· ≠ ending) text

/-- The operands of a filter, which reads the input if it has none. -/
def filterOperands (paths : List ByteText) : List ByteText :=
  if paths.isEmpty then [['-']] else paths

/-- The most bytes that a filter keeps before it writes them. -/
def blockSize : Nat := 4096

/-- The whole blocks at the start of a text. -/
def wholeBlocks (text : ByteText) : ByteText := text.take (text.length / blockSize * blockSize)

/-- The descriptor at which a tool opens its operands. -/
def operandDescriptor : Nat := 1000

/-- Do steps with the descriptor of an operand; a refusal to open it is returned. -/
def withOperand {α : Type} (path : ByteText) (steps : Nat → ShellM (Except Errno α)) :
    ShellM (Except Errno α) := do
  if path = ['-'] then steps 0
  else
    match ← openPath .read path with
    | .error reason => return .error reason
    | .ok key => withDescriptors do
      lead operandDescriptor key
      steps operandDescriptor

/-- What can be read from a descriptor. If more may come, what `early` makes of it is written, and
then it is waited for. -/
def readWith (early : ByteText → ByteText) (descriptor : Nat) :
    ShellM (Except Errno ByteText) := do
  match ← peek descriptor with
  | .error reason => return .error reason
  | .ok (text, complete) => do
    if !complete then
      say (early text)
      throw .waiting
    advance descriptor text.length
    return .ok text

/-- What an operand holds. -/
def readOperand (path : ByteText) : ShellM (Except Errno ByteText) := withOperand path readAll

/-- What an operand holds; `early` says what can be written of what has come of it. -/
def readEarly (early : ByteText → ByteText) (path : ByteText) : ShellM (Except Errno ByteText) :=
  withOperand path (readWith fun text => wholeBlocks (early text))

/-- The status after the input was closed, if it was an operand; it may never have been open. -/
def Call.closeInput (call : Call) (paths : List ByteText) (status : Nat) : ShellM Nat := do
  if ['-'] ∈ paths ∧ ((← get).stream? 0).isNone then
    call.warn ("-: ".toList ++ reasonText .badDescriptor)
    return 1
  return status

/-- Write what a filter makes of its operands, each on its own. -/
def Call.filter (call : Call) (ending : Char) (make : ByteText → ByteText)
    (paths : List ByteText) : ShellM Nat := do
  let status ← forOperands (filterOperands paths) fun path => do
    match ← readEarly (fun text => make (completeLines ending text)) path with
    | .ok text =>
      say (make text)
      return true
    | .error reason =>
      call.warn (call.named path ++ ": ".toList ++ reasonText reason)
      return false
  call.closeInput (filterOperands paths) status

end JuliaSession.Shell
