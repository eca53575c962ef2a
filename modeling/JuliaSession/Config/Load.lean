import JuliaSession.Config.Placeholder
import JuliaSession.Json.Commented
import JuliaSession.World

/-!
# Loading settings

Settings come in layers, the lowest first: the files of the user, the files of the directories from
the root down to the working directory, and an environment variable. `Config.layersOf` names the
files in the order in which they are applied, `Config.load` merges and checks them, and keeps the
result until it is reset.
-/

namespace JuliaSession.Config

/-- The names of settings files. -/
def fileNames : List String := ["julials.json", "julials.jsonc"]

/-- The environment variable with the topmost layer. -/
def contentVar : String := "JULIALS_CONFIG_CONTENT"

/-- Leave a settings file out, and say why in the log. -/
def refuseFile (path words : String) : Act Json.Members := do
  Act.log "config.loader" .error "failed to load config file"
    [("path", Log.text path), ("error", Log.text words)]
  return []

/-- The object in the text of a settings file. What keeps a text from being used is logged, except
that a text which the grammar refuses is a failure. -/
def readLayer (path text : String) : Act Json.Members :=
  match Json.readCommented text with
  | .ok (.obj members) => return members
  | .ok _ => do
    Act.log "config.loader" .error "config file is not an object" [("path", Log.text path)]
    return []
  -- a text in the wrong order, or nested too deep, stops loading
  | .error .unexpectedToken => throw .unexpectedToken
  | .error .tooDeep => throw .tooDeep
  | .error .badCharacter => refuseFile path "no token starts at some character"
  | .error .notJson => refuseFile path "a string or number is not JSON"

/-- The object in a settings file; an empty one when there is none. A file that cannot be read is
left out. -/
def loadFile (path : String) : Act Json.Members := do
  let machine ← Act.machine
  let place := Path.tidy path
  -- a missing file is an empty layer and nothing to report
  if (← Act.ofOs (machine.files.probe machine.cwd place)).isNone then return []
  match machine.files.read machine.cwd place with
  | .error fault => refuseFile path fault.message
  | .ok bytes =>
    match Text.Utf8.decodeChars? bytes with
    | none => refuseFile path Failure.notText.message
    | some chars =>
      -- placeholders are replaced before the text is read, so a value may change its structure
      readLayer path (substitute machine.env (String.ofList (Text.unifyNewlines chars)))

/-- A directory and the ones above it, the innermost first; `depth` bounds their number. -/
def upward : Nat → String → List String
  | 0, dir => [dir]
  | depth + 1, dir =>
    let above := Path.parent dir
    -- the root is its own parent
    if above = dir then [dir] else dir :: upward depth above

/-- The directory as an absolute path with a single slash at its start. -/
def resolveDir (machine : Machine) (directory : String) : String :=
  let path := machine.absolute directory
  if Text.startsWith path.toList ['/', '/'] then String.ofList path.toList.tail else path

/-- The settings files of the user. -/
def globalFiles (machine : Machine) : List String :=
  fileNames.map (Path.join (Directories.config machine))

/-- Where the settings files of a directory and of those above it may be, the innermost first. -/
def projectPlaces (machine : Machine) (directory : String) : List String :=
  let dir := resolveDir machine directory
  (upward dir.length dir).flatMap fun dir => fileNames.map (Path.child dir)

/-- The settings files among some paths, the last one first. -/
def existing (machine : Machine) : List String → Except OsFault (List String)
  | [] => .ok []
  | path :: rest => do
    let found ← machine.files.probe machine.cwd path
    let others ← existing machine rest
    return match found with
    | some (.file ..) => others ++ [path]
    | _ => others

/-- The settings files that exist in a directory and above it, the outermost first. -/
def projectFiles (machine : Machine) (directory : String) : Except OsFault (List String) :=
  if Char.ofNat 0 ∈ directory.toList then .error ⟨.embeddedNul, directory⟩
  else existing machine (projectPlaces machine directory)

/-- A file of some kind laid over the layers below it. -/
def applyFile (kind path : String) (below : Json.Members × List String) :
    Act (Json.Members × List String) := do
  let data ← loadFile path
  if data.isEmpty then return below
  else do
    Act.log "config" .info ("loaded " ++ kind ++ " config") [("path", Log.text path)]
    return (merge below.1 data, below.2 ++ [path])

/-- Files of some kind laid over each other. -/
def applyFiles (kind : String) : List String → Json.Members × List String →
    Act (Json.Members × List String)
  | [], below => return below
  | path :: rest, below => do applyFiles kind rest (← applyFile kind path below)

/-- The layer of the environment laid over the others. -/
def applyVariable (below : Json.Members) : Act Json.Members := do
  match (← Act.machine).envVar? contentVar with
  | none | some "" => return below
  | some text =>
    match Json.readWith .strict text.toList with
    | .ok (.obj data) => do
      Act.log "config" .info ("loaded config from " ++ contentVar) []
      return merge below data
    | .ok _ => return below
    | .error .malformed => do
      Act.log "config" .error ("failed to parse " ++ contentVar) []
      return below
    -- what is JSON but goes beyond a limit stops loading
    | .error .tooDeep => throw .tooDeep
    | .error (.tooManyDigits count) => throw (.tooManyDigits count)

/-- The layers of a directory laid over each other, from the lowest to the highest, and the files
that some of them came from. -/
def merged (directory : String) : Act (Json.Members × List String) := do
  let machine ← Act.machine
  let layers ← applyFiles "global" (globalFiles machine) ([], [])
  let files ← Act.ofOs (projectFiles machine directory)
  let (data, sources) ← applyFiles "project" files layers
  let data ← applyVariable data
  return (data, sources)

/-- The settings of a directory, unless settings are loaded already. Nothing is kept when they are
not valid. -/
def load (directory : String) : Act Settings := do
  match (← get).loaded.cache with
  | some settings => return settings
  | none => do
    let (data, sources) ← merged directory
    match Settings.read (.obj data) with
    -- the file that was applied last is named, whichever file is at fault
    | .error violations => throw (.settings (sources.getLastD "<defaults>") violations)
    | .ok settings => do
      modify fun world => { world with loaded := { cache := some settings, sources } }
      return settings

/-- The settings that are loaded, or else those of the working directory. -/
def current : Act Settings := load "."

/-- Forget the settings that are loaded. -/
def reset : Act Unit := modify fun world => { world with loaded := {} }

end JuliaSession.Config
