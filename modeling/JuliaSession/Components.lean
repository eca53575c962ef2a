import JuliaSession.Directories

/-!
# Components

What the package offers by name: its version and the components that a host builds a session from.
-/

namespace JuliaSession

/-- The version of the program. -/
def version : String := "0.1.0"

/-- The components that a host can ask for. -/
def components : List String :=
  ["GlobalPath", "Config", "ConfigManager", "Log", "ServerSupervisor", "LanguageClient",
    "CompletionMiddleware", "FullTextBridge"]

/-- What the package offers under a name: a component itself, or the text of the version. -/
def offered (name : String) : Except Failure String :=
  if name = "__version__" then .ok version
  else if name ∈ components then .ok name
  else .error (.unknownName
    ("module " ++ Text.quoted Directories.appName ++ " has no attribute " ++ Text.quoted name))

end JuliaSession
