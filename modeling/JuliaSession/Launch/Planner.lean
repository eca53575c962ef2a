import JuliaSession.Host
import JuliaSession.Launch.Julia
import JuliaSession.Launch.Layout

/-!
# Planning a launch

How the server is going to be started. A compiled server is used if there is one; otherwise an
interpreter runs the server's entry script, after its packages were checked and the environment was
found. Compiling the server is left to the user, who sees it run.
-/

namespace JuliaSession

/-- The label of commands that the program runs for the user to see. -/
def terminalLabel : String := "julials"

namespace Julia

/-- The question before packages are installed. -/
def installQuestion : String :=
  "Some LanguageServer.jl deps are missing, would you like to install now?"

/-- Ask whether missing packages are to be installed, if any are missing, and install them. -/
def offerInstall (host : Host) (julia project : String) : Act Unit := do
  let packages ← Julia.packages julia project
  let missing := Package.missingNames packages
  if missing.isEmpty then
    Act.log "lsp.packages" .info "server dependencies satisfied"
      [("count", Log.number packages.length)]
  else
    Act.log "lsp.packages" .info "server dependencies missing" [("packages", Log.texts missing)]
    -- the plan goes on either way, and nobody waits for the installation
    if ← host.confirm installQuestion then
      host.runVisible (installCommand julia project) terminalLabel
    else
      Act.log "lsp.packages" .info "dependency install declined" []

end Julia

namespace Launch

/-- The wording when there is nothing to run the server with. -/
def noInterpreter : String :=
  "Could not find a julia executable. Set julia.executablePath or add julia to PATH."

/-- The variable with the directories of installed packages. -/
def depotVar : String := "JULIA_DEPOT_PATH"

/-- The compiled server, if it exists. -/
def existingBinary (machine : Machine) (layout : ServerLayout) : Option String :=
  if machine.holds layout.precompiledBinary then some layout.precompiledBinary else none

/-- The arguments of the interpreter that runs the server. -/
def interpreterArgs (layout : ServerLayout) (environment depot : String) : List String :=
  Julia.quietFlags
    ++ ["--depwarn=no", "--project=" ++ layout.serverProject, layout.entryScript, environment,
      "--debug=no", depot, layout.storage]

/-- What the planner works with. -/
structure Planner where
  /-- The Julia section of the settings. -/
  settings : Config.JuliaSettings
  /-- The user interface. -/
  host : Host
  /-- The directory whose active environment is analyzed. -/
  cwd : Option String

/-- Plan the command line of the server for a storage and an extension directory. -/
def Planner.plan (planner : Planner) (storage extension : String) : Act LaunchSpec := do
  let layout : ServerLayout := ⟨extension, storage⟩
  match existingBinary (← Act.machine) layout with
  -- a compiled server needs neither interpreter nor packages
  | some binary => do
    Act.log "lsp.launch" .info "using precompiled server" [("path", Log.text binary)]
    return { command := binary }
  | none => do
    match ← Julia.find planner.settings with
    | none => throw (.configuration noInterpreter)
    | some julia => do
      Julia.offerInstall planner.host julia layout.serverProject
      let environment ← Julia.environment planner.settings planner.cwd julia
      let depot := ((← Act.machine).envVar? depotVar).getD ""
      Act.log "lsp.launch" .info "using interpreter fallback"
        [("julia", Log.text julia), ("environment", Log.text environment)]
      return { command := julia, args := interpreterArgs layout environment depot }

/-- What the user is told before the server is compiled. -/
def compileNotice : String := "PackageCompiler.jl will take about 10 mins to compile..."

/-- Make the directory of the compiled server. -/
def ensureRoot (layout : ServerLayout) : Act Unit := do
  let machine ← Act.machine
  Act.setFiles (← Act.ofOs (machine.files.makeDirs machine.cwd layout.serverRoot))

/-- Start compiling the server where the user sees it. -/
def compile (host : Host) (layout : ServerLayout) : Act Unit := do
  host.showMessage compileNotice .info
  Act.log "lsp.launch" .info "compiling server" [("output", Log.text layout.serverRoot)]
  host.runVisible layout.compileCommand terminalLabel

end Launch

end JuliaSession
