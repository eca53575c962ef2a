import JuliaSession.Machine.Basic
import JuliaSession.Failure

/-!
# Directories of the user

Where the program keeps settings, log files and the compiled server. The places come from the
environment: the configuration and data directories of the desktop conventions if they are set to an
absolute path, otherwise fixed directories below the home directory.
-/

namespace JuliaSession.Directories

/-- The name of the program's own directory below the shared ones. -/
def appName : String := "julials"

/-- The home directory that the system records for the user. -/
def accountHome : String := "/root"

/-- The home directory as a start of paths, without slashes at its end. -/
def homeStart (machine : Machine) : String :=
  match machine.envVar? "HOME" with
  | none => accountHome
  | some home => String.ofList (Text.dropRightWhile (· = '/') home.toList)

/-- The user's home directory. A variable for rehearsals overrides it. -/
def home (machine : Machine) : Except Failure String :=
  let start := homeStart machine
  let start := if start = "" then "/" else start
  if Text.startsWith start.toList ['~'] then
    .error (.foreign "RuntimeError" "Could not determine home directory.")
  else .ok ((machine.envVar? "JULIALS_TEST_HOME").getD (Path.tidy start))

/-- Does an environment variable give an absolute path? -/
def givesPlace (machine : Machine) (name : String) : Bool :=
  Path.isAbsolute ((machine.envVar? name).getD "").toList

/-- The shared directory that `name` sets, or the directory `fallback` below the home directory.
Paths that are not absolute do not count, for the home directory either. -/
def shared (machine : Machine) (name fallback : String) : String :=
  if givesPlace machine name then (machine.envVar? name).getD ""
  else (if givesPlace machine "HOME" then homeStart machine else accountHome) ++ "/" ++ fallback

/-- The directory of the user's settings. -/
def config (machine : Machine) : String :=
  Path.join (shared machine "XDG_CONFIG_HOME" ".config") appName

/-- The directory of the program's data. -/
def data (machine : Machine) : String :=
  Path.join (shared machine "XDG_DATA_HOME" ".local/share") appName

/-- The directory of log files. -/
def log (machine : Machine) : String := Path.child (data machine) "log"

/-- The default storage for the compiled server. -/
def storage (machine : Machine) : String := Path.child (data machine) "storage"

end JuliaSession.Directories
