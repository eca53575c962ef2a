import JuliaSession.Json.Basic

/-!
# Options of a session

How the server process is started, and what the client tells the server when it starts talking to
it.
-/

namespace JuliaSession

/-- How the server process is started. -/
structure ServerOptions where
  /-- The command. -/
  command : String
  /-- Its arguments. -/
  args : List String
  /-- Its whole environment. -/
  env : Assoc String String
  /-- Its working directory; the program's own if there is none. -/
  cwd : Option String
  deriving DecidableEq, Inhabited

/-- The command with its arguments. -/
def ServerOptions.argv (options : ServerOptions) : List String := options.command :: options.args

/-- How the client talks to the server. -/
structure ClientOptions where
  /-- The languages of the documents that the session serves. -/
  documentSelector : List String := ["julia", "juliamarkdown"]
  /-- Sent with the first request. -/
  initializationOptions : Json.Members := []
  /-- The dotted names of the settings that are pushed when the session starts. -/
  configurationSections : List String := []
  /-- The value of a dotted name; without it every value is null. -/
  settings : Option (String → Json) := none
  /-- The glob of the files whose changes are forwarded. -/
  fileEvents : String := String.ofList ("**/*.".toList ++ Char.ofNat 123 :: "jl,jmd".toList
    ++ [Char.ofNat 125])
  /-- Are completions widened to what was typed? -/
  widening : Bool := false
  /-- The root of the workspace. -/
  root : String
  deriving Inhabited

/-- The value of a dotted name. -/
def ClientOptions.setting (options : ClientOptions) (name : String) : Json :=
  match options.settings with
  | some lookup => lookup name
  | none => .null

end JuliaSession
