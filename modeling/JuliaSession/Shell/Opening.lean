import JuliaSession.Shell.State

/-!
# Opening files

Files are opened to be read, emptied, written at their end, or read and written. A few names below
`/dev` are no files: the null device, and the open files of the process itself.
-/

namespace JuliaSession.Shell

/-- What a file is opened for. -/
inductive Access where
  /-- To be read. -/
  | read
  /-- To be written from the start, after it was emptied. -/
  | write
  /-- To be made and written; an existing file is a fault. -/
  | create
  /-- To be written at its end. -/
  | append
  /-- To be read and written from the start. -/
  | both
  deriving DecidableEq, Repr

/-- What the name of a device stands for. -/
inductive Device where
  /-- The null device. -/
  | null
  /-- A device that holds null characters without end, and takes nothing if it is `full`. -/
  | zeros (full : Bool)
  /-- An open file of the process. -/
  | descriptor (number : Nat)
  deriving DecidableEq, Repr

/-- The device with this path, if it is one. -/
def device? (path : String) : Option Device :=
  match path with
  | "/dev/null" => some .null
  | "/dev/zero" => some (.zeros false)
  | "/dev/full" => some (.zeros true)
  | "/dev/stdin" => some (.descriptor 0)
  | "/dev/stdout" => some (.descriptor 1)
  | "/dev/stderr" => some (.descriptor 2)
  | _ =>
    match Text.afterStart? "/dev/fd/".toList path.toList with
    | some digits =>
      if digits.isEmpty || !digits.all Char.isDigit then none
      else some (.descriptor (digitsValue digits))
    | none => none

/-- Open a file; the result is its key, or why it was refused. -/
def openPath (access : Access) (path : ByteText) : ShellM (Except Errno Nat) := do
  let proc ← get
  let name := asString path
  let absolute := Path.absolute proc.cwd name
  let opened (found : Except OsFault FileTree) (stream : Stream) : ShellM (Except Errno Nat) := do
    -- a new file has the permissions that the mask leaves
    let isNew := !proc.shared.files.holds proc.cwd name
    let found := if isNew then
        found.bind fun files =>
          files.setMode proc.cwd name fun _ => 0o666 - (0o666 &&& proc.mask)
      else found
    match found with
    | .ok files => do
      modifyShared fun shared => { shared with files }
      return .ok (← openStream stream)
    | .error fault => return .error fault.reason
  if path.isEmpty then return .error .noEntry
  match device? absolute with
  | some .null => return .ok (← openStream .null)
  | some (.zeros full) => return .ok (← openStream (.zeros full))
  | some (.descriptor number) =>
    match Assoc.get? number proc.descriptors with
    | some key => return .ok key
    | none => return .error .noEntry
  | none =>
    let files := proc.shared.files
    match access with
    | .read =>
      match files.locate proc.cwd name with
      | .error reason => return .error reason
      | .ok place =>
        if (files.entry? place).isNone then return .error .noEntry
        else return .ok (← openStream (.file absolute 0 false true false))
    | .write =>
      opened (files.write proc.cwd name []) (.file absolute 0 false false true)
    | .create =>
      if files.isFile proc.cwd name then return .error .taken
      else opened (files.write proc.cwd name []) (.file absolute 0 false false true)
    | .append => opened (files.append proc.cwd name []) (.file absolute 0 true false true)
    | .both =>
      let found := if files.isFile proc.cwd name then .ok files else files.append proc.cwd name []
      opened found (.file absolute 0 false true true)

/-- All that a file holds; a device is read to its end. -/
def readPath (path : ByteText) : ShellM (Except Errno ByteText) := do
  match ← openPath .read path with
  | .error reason => return .error reason
  | .ok key => withDescriptors do
    -- a descriptor that nothing else uses
    lead 1000 key
    readAll 1000

/-- Write a text to a file, after it was emptied or at its end; a refusal is returned. -/
def writePath (access : Access) (path text : ByteText) : ShellM (Option Errno) := do
  match ← openPath access path with
  | .error reason => return some reason
  | .ok key => withDescriptors do
    lead 1000 key
    writeTo 1000 text

end JuliaSession.Shell
