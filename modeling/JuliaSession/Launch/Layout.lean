import JuliaSession.Assoc
import JuliaSession.Path.Posix
import JuliaSession.Shell.Words

/-!
# Layout of an installation

Where the parts of the server are: its project and entry script below the extension's directory, the
compiled server below the storage directory. `LaunchSpec` is the command line that starts the
server, either compiled or by an interpreter.
-/

namespace JuliaSession

/-- The name of the server's project and of the compiled server. -/
def serverName : String := "JuliaLS"

/-- The name of an executable file for a program. -/
def binName (windows : Bool) (name : String) : String :=
  if windows && !Text.endsWith name.toList ".exe".toList then name ++ ".exe" else name

/-- The directories of an installation. -/
structure ServerLayout where
  /-- The directory of the extension. -/
  extension : String
  /-- The directory that the extension may write to. -/
  storage : String
  deriving DecidableEq, Repr

namespace ServerLayout

/-- The directory of the server's sources. -/
def serverDir (layout : ServerLayout) : String := Path.join layout.extension "server"

/-- The project that the server runs in. -/
def serverProject (layout : ServerLayout) : String := Path.join layout.serverDir serverName

/-- The script that starts the server. -/
def entryScript (layout : ServerLayout) : String := Path.join layout.serverDir "main.jl"

/-- The directory of the compiled server. -/
def serverRoot (layout : ServerLayout) : String := Path.join layout.storage serverName

/-- The compiled server. -/
def precompiledBinary (layout : ServerLayout) : String :=
  Path.join (Path.join layout.serverRoot "bin") (binName false serverName)

/-- The shell command that compiles the server. -/
def compileCommand (layout : ServerLayout) : String :=
  "cd " ++ Shell.quote layout.serverDir ++ " && sh ./compile.sh " ++ Shell.quote layout.serverRoot

end ServerLayout

/-- The command line of one start of the server. -/
structure LaunchSpec where
  /-- The command. -/
  command : String
  /-- Its arguments. -/
  args : List String := []
  /-- Variables to set in its environment. -/
  env : Assoc String String := []
  deriving DecidableEq, Repr, Inhabited

namespace LaunchSpec

/-- The command with its arguments. -/
def argv (spec : LaunchSpec) : List String := spec.command :: spec.args

/-- Only the compiled server is started without arguments. -/
def precompiled (spec : LaunchSpec) : Bool := spec.args.isEmpty

end LaunchSpec

end JuliaSession
