import JuliaSession.Directories
import JuliaSession.Launch.Layout
import JuliaSession.Packages
import JuliaSession.Shell.Words
import JuliaSession.World

/-!
# The Julia interpreter

Finding the interpreter, running it for an answer, and what is asked of it: the environment to
analyze and the status of the server's packages.
-/

namespace JuliaSession

namespace Command

/-- Give a process its whole input and let it run. -/
def finish (process : Process) (input : Text.Utf8.Bytes) : Act Observation := do
  let seen := (process.withInput input true).observe (← Act.machine).files
  Act.setFiles seen.files
  return seen

/-- Run a command to its end and return its output as text, with line feeds for all line ends.
`extra` is laid over the environment of the program. -/
def run (cmd : List String) (cwd : Option String) (extra : Assoc String String) : Act String := do
  Act.log "lsp.server" .debug "running command"
    [("cmd", Log.texts cmd), ("cwd", .json (.ofText? cwd))]
  match cmd with
  | [] => throw .emptyCommand
  | name :: args => do
    let machine ← Act.machine
    match Process.start machine name args (Assoc.insertAll machine.env extra) cwd with
    | .error fault => do
      -- what never reached the system is no failure to launch
      if !fault.isRefusal then throw (.os fault)
      Act.log "lsp.server" .error "failed to launch command"
        [("cmd", Log.texts cmd), ("error", Log.text fault.message)]
      throw (.command cmd none fault.message)
    | .ok process => do
      let seen ← finish process []
      -- bytes that are no text are replaced, and all line ends become line feeds
      let text (bytes : Text.Utf8.Bytes) : String :=
        String.ofList (Text.unifyNewlines (Text.Utf8.decodeLossyChars bytes))
      match seen.code with
      | none => throw .timedOut
      | some code =>
        if code ≠ 0 then
          Act.log "lsp.server" .error "command failed"
            [("cmd", Log.texts cmd), ("code", Log.number code)]
          throw (.command cmd (some code) (text seen.err))
        else return text seen.out

/-- Start a command as the server, with the given whole environment. -/
def spawn (cmd : List String) (env : Assoc String String) (cwd : Option String) : Act Process := do
  match cmd with
  | [] => throw .emptyCommand
  | name :: args => do
    match Process.start (← Act.machine) name args env cwd with
    | .error fault => do
      if !fault.isRefusal then throw (.os fault)
      Act.log "lsp.server" .error "failed to spawn language server"
        [("cmd", Log.texts cmd), ("error", Log.text fault.message)]
      throw (.serverStart ("failed to start " ++ name ++ ": " ++ fault.message))
    | .ok process => do
      Act.log "lsp.server" .info "spawned language server"
        [("cmd", Log.text name), ("pid", Log.number 4242)]
      return process

end Command

namespace Julia

/-- The options every call starts with. -/
def quietFlags : List String := ["--startup-file=no", "--history-file=no"]

/-- The command that evaluates a program text in a project. -/
def command (julia project program : String) : List String :=
  [julia, "--project=" ++ project] ++ quietFlags ++ ["-e", program]

/-- A program that prints the directory of the active environment. -/
def environmentProgram : String :=
  "using Pkg; println(dirname(Pkg.Types.Context().env.project_file))"

/-- A program that prints the status of the packages. -/
def statusProgram : String := "using Pkg; Pkg.status()"

/-- A program that installs the packages. -/
def installProgram : String := "using Pkg; Pkg.instantiate()"

/-- The shell command that installs the packages of a project. -/
def installCommand (julia project : String) : String :=
  Shell.line (command julia project installProgram)

/-- The configured path of the interpreter, with a tilde at its start written out. -/
def configuredPath (machine : Machine) (settings : Config.JuliaSettings) :
    Except Failure String := do
  match settings.executablePath.toList with
  | '~' :: rest => return (← Directories.home machine) ++ String.ofList rest
  | _ => return settings.executablePath

/-- The configured interpreter if it exists, otherwise the one found on the search path. -/
def find (settings : Config.JuliaSettings) : Act (Option String) := do
  let machine ← Act.machine
  let configured ← Step.ofExcept (configuredPath machine settings)
  -- any existing file will do; whether it can be run shows when it is run
  if configured ≠ "" ∧ machine.holds configured then return some configured
  if configured ≠ "" then
    Act.log "lsp.resolver" .warn "configured executable not found, searching PATH"
      [("path", Log.text configured)]
  let found := machine.which ((machine.envVar? "PATH").getD "") (binName false "julia")
  if (found.getD "").isEmpty then
    Act.log "lsp.resolver" .info "julia not found on PATH" []
  return found

/-- The environment to analyze: the configured one, or the active one of the directory `cwd`. -/
def environment (settings : Config.JuliaSettings) (cwd : Option String) (julia : String) :
    Act String := do
  if settings.environmentPath ≠ "" then return Text.trimBlank settings.environmentPath
  else do
    let output ← Command.run (command julia "." environmentProgram) cwd []
    let path := Text.trimBlank output
    Act.log "lsp.resolver" .info "detected julia environment" [("path", Log.text path)]
    return path

/-- The status of the packages of a project. -/
def packages (julia project : String) : Act (List Package) := do
  return Package.parseOutput (← Command.run (command julia project statusProgram) none [])

end Julia

end JuliaSession
