import JuliaSession.Text.Quoted

/-!
# Faults of the operating system

The reasons why the operating system refuses a request, with the number and the wording of each, and
the text of a fault that names a file. A request with a text that the system cannot take has no
number: it never reaches the system.
-/

namespace JuliaSession

/-- A reason for refusing a request. -/
inductive Errno where
  /-- The file or a directory on the way to it does not exist. -/
  | noEntry
  /-- The file cannot be executed. -/
  | execFormat
  /-- No open file has this descriptor. -/
  | badDescriptor
  /-- Access is not permitted. -/
  | denied
  /-- The file exists already. -/
  | taken
  /-- A file stands where a directory is needed. -/
  | notDirectory
  /-- A directory stands where a file is needed. -/
  | isDirectory
  /-- A name on the way to the file, or the path as a whole, is too long. -/
  | nameTooLong
  /-- A directory to be removed is not empty. -/
  | notEmpty
  /-- The device takes no more. -/
  | noSpace
  /-- Nobody reads what is written. -/
  | brokenPipe
  /-- A file leads to too many other ones. -/
  | tooManyLinks
  /-- A text holds a NUL. -/
  | embeddedNul
  /-- The name of an environment variable holds an equals sign. -/
  | badVariable
  deriving DecidableEq, Repr

/-- The number of a reason; the system does not give one for a request that does not reach it. -/
def Errno.number? : Errno → Option Nat
  | noEntry => some 2
  | execFormat => some 8
  | badDescriptor => some 9
  | denied => some 13
  | taken => some 17
  | notDirectory => some 20
  | isDirectory => some 21
  | nameTooLong => some 36
  | notEmpty => some 39
  | noSpace => some 28
  | brokenPipe => some 32
  | tooManyLinks => some 40
  | embeddedNul | badVariable => none

/-- The wording of a reason. -/
def Errno.wording : Errno → String
  | noEntry => "No such file or directory"
  | execFormat => "Exec format error"
  | badDescriptor => "Bad file descriptor"
  | denied => "Permission denied"
  | taken => "File exists"
  | notDirectory => "Not a directory"
  | isDirectory => "Is a directory"
  | nameTooLong => "File name too long"
  | notEmpty => "Directory not empty"
  | noSpace => "No space left on device"
  | brokenPipe => "Broken pipe"
  | tooManyLinks => "Too many levels of symbolic links"
  | embeddedNul => "embedded null byte"
  | badVariable => "illegal environment variable name"

/-- The name of the class of failures a reason belongs to. -/
def Errno.kind : Errno → String
  | noEntry => "FileNotFoundError"
  | execFormat => "OSError"
  | badDescriptor => "OSError"
  | denied => "PermissionError"
  | taken => "FileExistsError"
  | notDirectory => "NotADirectoryError"
  | isDirectory => "IsADirectoryError"
  | nameTooLong => "OSError"
  | notEmpty => "OSError"
  | noSpace => "OSError"
  | brokenPipe => "BrokenPipeError"
  | tooManyLinks => "OSError"
  | embeddedNul | badVariable => "ValueError"

/-- A refused request. -/
structure OsFault where
  /-- Why it was refused. -/
  reason : Errno
  /-- The file it named. -/
  path : String
  deriving DecidableEq, Repr

/-- Did the request reach the system? -/
def OsFault.isRefusal (fault : OsFault) : Bool := fault.reason.number?.isSome

/-- The text of a refused request. -/
def OsFault.message (fault : OsFault) : String :=
  match fault.reason.number? with
  | some number =>
    "[Errno " ++ toString number ++ "] " ++ fault.reason.wording ++ ": " ++ Text.quoted fault.path
  | none => fault.reason.wording

end JuliaSession
