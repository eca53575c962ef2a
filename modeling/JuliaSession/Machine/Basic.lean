import JuliaSession.Clock
import JuliaSession.Machine.Files

/-!
# The machine

What the program finds around it: files, environment variables, working directory and clock. The
functions here answer questions about one machine; what changes it returns a new one.
-/

namespace JuliaSession

/-- The surroundings of the program. -/
structure Machine where
  /-- The files. -/
  files : FileTree
  /-- The environment variables. -/
  env : Assoc String String
  /-- The working directory. -/
  cwd : String
  /-- The time of day. -/
  now : Clock.Millis
  deriving Inhabited

namespace Machine

/-- The value of an environment variable. -/
def envVar? (machine : Machine) (name : String) : Option String := Assoc.get? name machine.env

/-- Does the path name anything? -/
def holds (machine : Machine) (path : String) : Bool := machine.files.holds machine.cwd path

/-- Does the path name a directory? -/
def isDirectory (machine : Machine) (path : String) : Bool :=
  machine.files.isDirectory machine.cwd path

/-- The normalized path from the root. -/
def absolute (machine : Machine) (path : String) : String := Path.absolute machine.cwd path

/-- Search for a command. A name with a slash is tested as it stands; any other one is looked for in
the directories of `path`, where an empty one is the working directory. The first file that may be
executed is the answer. -/
def which (machine : Machine) (path name : String) : Option String :=
  let usable (candidate : String) : Bool := machine.files.isExecutable machine.cwd candidate
  if '/' ∈ name.toList then
    if usable name then some name else none
  else if path = "" then none
  else ((Text.split path ':').map fun dir => Path.join dir name).find? usable

/-- The machine with a file or directory given from outside: missing directories above it are
made. -/
def install (machine : Machine) (path : String) (entry : Entry) : Machine :=
  let place := FileTree.placeOf (machine.absolute path)
  let files := (List.range place.length).foldl (fun files n =>
    if (files.entry? (place.take n)).isSome then files
    else files.put (place.take n) (.dir 0o755 files.now))
    machine.files
  { machine with files := files.put place entry }

end Machine

end JuliaSession
