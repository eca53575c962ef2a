import JuliaSession.Machine.Basic
import JuliaSession.Shell.Eval

/-!
# Processes

Running programs. A `Process` is a program with the input it was given so far; `Process.observe`
says what it has done with it: what it wrote, which files it changed, and its exit code if it ended.
What a process does is a function of its input, so more input continues what was observed before.
-/

namespace JuliaSession

/-- A program that was started. -/
structure Process where
  /-- The tool that runs. -/
  tool : String
  /-- The name it was called by, in bytes. -/
  name : Shell.ByteText
  /-- Its arguments, in bytes. -/
  args : List Shell.ByteText
  /-- Its working directory. -/
  cwd : String
  /-- Its environment. -/
  env : Assoc String String
  /-- The input given so far. -/
  input : Text.Utf8.Bytes := []
  /-- Will no more input come? -/
  closed : Bool := false
  deriving Inhabited

/-- What a process has done. -/
structure Observation where
  /-- The files after it. -/
  files : FileTree
  /-- What it wrote. -/
  out : Text.Utf8.Bytes
  /-- What it wrote as errors. -/
  err : Text.Utf8.Bytes
  /-- Its exit code if it ended: negative for a signal. -/
  code : Option Int

namespace Process

/-- A bound on the steps of one process. -/
def stepLimit : Nat := 2000000

/-- The directories searched when the environment names none. -/
def defaultPath : String := "/bin:/usr/bin"

/-- Try to execute the candidates in turn. Of several refusals the first one counts that is not
about a missing file, otherwise the last one. -/
def firstImage (files : FileTree) (cwd : String) (name : Shell.ByteText)
    (args : List Shell.ByteText) : Option Errno → Errno → List String → Except Errno Shell.Image
  | firm, last, [] => .error (firm.getD last)
  | firm, _, path :: rest =>
    match Shell.image? files cwd Shell.scriptLimit path name args with
    | .ok image => .ok image
    | .error reason =>
      if reason = .noEntry ∨ reason = .notDirectory then
        firstImage files cwd name args firm reason rest
      else firstImage files cwd name args (some (firm.getD reason)) reason rest

/-- Does a text hold a NUL? -/
def holdsNul (text : String) : Bool := Char.ofNat 0 ∈ text.toList

/-- What keeps a command from being handed to the system, if anything. -/
def unfit? (name : String) (args : List String) (env : Assoc String String) (place : String) :
    Option Errno :=
  if env.any fun entry => '=' ∈ entry.1.toList then some .badVariable
  else if (name :: place :: args).any holdsNul
      || env.any fun entry => holdsNul entry.1 || holdsNul entry.2 then
    some .embeddedNul
  else none

/-- Start a command with the given environment in the given working directory. -/
def start (machine : Machine) (name : String) (args : List String) (env : Assoc String String)
    (cwd : Option String) : Except OsFault Process :=
  let place := cwd.getD "."
  match unfit? name args env place, machine.files.locate machine.cwd place with
  | some reason, _ => .error ⟨reason, name⟩
  | none, .error reason => .error ⟨reason, place⟩
  | none, .ok found =>
    match machine.files.entry? found with
    | none => .error ⟨.noEntry, place⟩
    | some (.file ..) => .error ⟨.notDirectory, place⟩
    | some (.dir ..) =>
      let dir := "/" ++ String.intercalate "/" found
      let path := (Assoc.get? "PATH" env).getD defaultPath
      let candidates := Shell.candidates path name
      match firstImage machine.files dir (Shell.ofString name) (args.map Shell.ofString) none
        .noEntry candidates with
      | .error reason => .error ⟨reason, name⟩
      | .ok ⟨tool, name, args⟩ => .ok { tool, name, args, cwd := dir, env }

/-- The process with all its input. -/
def withInput (process : Process) (input : Text.Utf8.Bytes) (closed : Bool) : Process :=
  { process with input, closed }

/-- The state that a process starts in. -/
def initial (process : Process) (files : FileTree) : Shell.Proc :=
  let vars := process.env.map fun (name, value) => (Shell.ofString name, Shell.ofString value)
  Shell.Proc.start files process.cwd process.name vars
    (Shell.ofBytes process.input) process.closed

/-- What the process has done with its input. -/
def observe (process : Process) (files : FileTree) : Observation :=
  let (result, proc) :=
    ((Shell.program stepLimit process.tool process.name process.args).run
      (process.initial files)).run
  let code : Option Int := match result with
    | .ok () => some (proc.status % 256 : Nat)
    | .error (.exit status) | .error (.giveBack status) => some (status % 256 : Nat)
    | .error .fault => some 2
    | .error (.signal number) => some (-(number : Int))
    | .error (.leave ..) => some 0
    | .error .waiting => none
  ⟨proc.shared.files, Shell.toBytes proc.shared.out.text, Shell.toBytes proc.shared.err.text, code⟩

end Process

namespace Machine

/-- The directories of the system. -/
def systemDirs : List String :=
  ["/boot", "/dev", "/etc", "/home", "/lib", "/media", "/mnt", "/opt", "/proc", "/root", "/run",
    "/sbin", "/srv", "/sys", "/tmp", "/usr/lib", "/usr/local/bin", "/usr/sbin", "/usr/share",
    "/var/lib", "/var/log", "/var/tmp"]

/-- A machine with the system's directories and tools, and the empty directory `root`. -/
def withTools (root : String) (env : Assoc String String) (now : Clock.Millis) : Machine :=
  let bare : Machine := ⟨FileTree.empty, env, root, now⟩
  let bare := systemDirs.foldl (fun machine dir => machine.install dir (.dir 0o755 0)) bare
  let bare := bare.install root (.dir 0o755 0)
  let bare := bare.install "/dev/null" (.file [] 0o666 0)
  Shell.toolNames.foldl (fun machine tool =>
    let entry := Entry.file (Shell.toolMark ++ Text.Utf8.encode tool) 0o755 0
    (machine.install ("/bin/" ++ tool) entry).install ("/usr/bin/" ++ tool) entry) bare

end Machine

end JuliaSession
