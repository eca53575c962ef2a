import JuliaSession.CommandLine.Run

/-!
# The program

`main` runs a command line on a machine that holds the environment, the working directory, the input
and the settings files of the real one. Programs of the real machine are not run, and nothing is
written to its files. Its clock counts from some moment of its own.
-/

namespace JuliaSession.Terminal

/-- The environment variables that are passed on. -/
def passedVariables : List String :=
  ["PATH", "HOME", "TMPDIR", "XDG_CONFIG_HOME", "XDG_DATA_HOME", "JULIA_DEPOT_PATH",
    "JULIALS_CONFIG_CONTENT", "JULIALS_EXTENSION_PATH", "JULIALS_STORAGE_PATH",
    "JULIALS_TEST_HOME"]

/-- The environment that is passed on. -/
def passedEnvironment : IO (Assoc String String) := do
  let found ← passedVariables.mapM fun name => do return (name, ← IO.getEnv name)
  return found.filterMap fun (name, value) => value.map (name, ·)

/-- The machine with the files at some paths, where they can be read. -/
def withFiles (machine : Machine) (paths : List String) : IO Machine :=
  paths.foldlM (fun machine (path : String) => do
    try
      let content ← IO.FS.readBinFile path
      return machine.install path (.file content.toList 0o644 0)
    catch _ => return machine) machine

/-- The whole input, line by line. -/
partial def readAll (input : IO.FS.Stream) (sofar : String) : IO String := do
  let line ← input.getLine
  if line.isEmpty then return sofar else readAll input (sofar ++ line)

/-- Run a command line; the exit code. -/
def run (words : List String) : IO UInt32 := do
  let cwd := (← IO.currentDir).toString
  let now := (← IO.monoMsNow : Nat)
  let machine := Machine.withTools cwd (← passedEnvironment) now
  let machine ← withFiles machine
    (Config.globalFiles machine ++ Config.projectPlaces machine ".")
  let world := World.atStart machine
  let input ← readAll (← IO.getStdin) ""
  let world := { world with desk := { world.desk with stdin := input.toList } }
  let (ending, world) := (CommandLine.run words).perform world
  (← IO.getStdout).putStr (String.ofList world.desk.stdout)
  (← IO.getStderr).putStr (String.ofList world.desk.stderr)
  match ending with
  | .ok (.exit code) => return (code % 256).toNat.toUInt32
  | .ok (.stopped failure) | .error failure => do
    (← IO.getStderr).putStrLn failure.describe
    return 1

end JuliaSession.Terminal

/-- Run the command line. -/
def main (words : List String) : IO UInt32 := JuliaSession.Terminal.run words
