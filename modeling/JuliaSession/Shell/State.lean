import JuliaSession.Machine.Files
import JuliaSession.Shell.Syntax

/-!
# The state of a shell

A shell at work: the files it sees, its variables, and where its descriptors lead. `ShellM` is a
step of a shell, which may be the last one. What a shell shares with the programs it starts is kept
apart (`Shared`), so a step in a process of its own (`inChild`) is one after which everything else
is put back.
-/

namespace JuliaSession.Shell

/-! ### Bytes and texts -/

/-- A byte string as a text with one character for each byte. -/
def ofBytes (bytes : Text.Utf8.Bytes) : ByteText := bytes.map fun b => Char.ofNat b.toNat

/-- The bytes of a text with one character for each byte. -/
def toBytes (text : ByteText) : Text.Utf8.Bytes := text.map fun c => c.toNat.toUInt8

/-- The bytes of a text, one character for each. -/
def ofString (s : String) : ByteText := ofBytes (Text.Utf8.encode s)

/-- The text that bytes say. -/
def asString (text : ByteText) : String := Text.Utf8.decodeLossy (toBytes text)

/-- A number in decimal digits. -/
def decimal (n : Nat) : ByteText := (toString n).toList

/-- A text between single quotes; a single quote in it is put between double ones. -/
def singleQuoted (text : ByteText) : ByteText :=
  '\'' :: text.flatMap (fun c => if c = '\'' then "'\"'\"'".toList else [c]) ++ ['\'']

/-! ### State -/

/-- A text that is written piece by piece. -/
structure Written where
  /-- The pieces, the last one first. -/
  pieces : List ByteText
  /-- The number of bytes. -/
  size : Nat
  deriving Repr, Inhabited

/-- A text of which nothing is written yet. -/
def Written.nothing : Written := ⟨[], 0⟩

/-- A text with a further piece. -/
def Written.add (written : Written) (piece : ByteText) : Written :=
  ⟨piece :: written.pieces, written.size + piece.length⟩

/-- A text without its later pieces, of which only the first ones are kept, and the later pieces. -/
def Written.cut (written : Written) (kept : Nat) : Written × List ByteText :=
  let later := written.pieces.take (written.pieces.length - kept)
  (⟨written.pieces.drop later.length, written.size - (later.map List.length).foldl (· + ·) 0⟩,
    later.reverse)

/-- The text that was written. -/
def Written.text (written : Written) : ByteText := written.pieces.reverse.flatten

/-- How much a pipe takes. -/
inductive Room where
  /-- All that is written. -/
  | endless
  /-- A number of bytes; a process that writes more waits until some of them were read. -/
  | bytes (count : Nat)
  /-- A number of bytes, after which nobody reads any more. -/
  | broken (count : Nat)
  deriving Repr

/-- The number of bytes that a pipe takes when it holds some. -/
def Room.left? (room : Room) (held : Nat) : Option Nat :=
  match room with
  | endless => none
  | bytes count | broken count => some (count - held)

/-- An open file. -/
inductive Stream where
  /-- The input of the process. -/
  | input
  /-- The output of the process. -/
  | out
  /-- The error output of the process. -/
  | err
  /-- A file that takes everything and holds nothing. -/
  | null
  /-- A file that holds null characters without end, and takes nothing if it is `full`. -/
  | zeros (full : Bool)
  /-- A text that is read; `more` of it may come. -/
  | text (left : ByteText) (more : Bool)
  /-- A text that is written. -/
  | kept (written : Written) (room : Room)
  /-- A file, with the place where it is read or written next; writing is at its end if `atEnd`. -/
  | file (path : String) (offset : Nat) (atEnd reads writes : Bool)
  deriving Repr

/-- What a shell shares with the programs it starts. -/
structure Shared where
  /-- The files. -/
  files : FileTree
  /-- The open files. -/
  streams : Array Stream
  /-- The input that has come and was not read. -/
  input : ByteText
  /-- Will no more input come? -/
  closed : Bool
  /-- What was written to the output. -/
  out : Written
  /-- What was written to the error output. -/
  err : Written
  /-- The signals on their way, each with the process it goes to. -/
  signals : List (Nat × Nat)
  /-- The number of the last process. -/
  lastProcess : Nat

/-- A variable as it was before a function made it its own. -/
structure Saved where
  /-- Its name. -/
  name : ByteText
  /-- Its value, if it had one. -/
  value : Option ByteText
  /-- Was it inherited by programs? -/
  exported : Bool
  /-- Was it protected? -/
  fixed : Bool

/-- How a process ended. -/
inductive Ended where
  /-- With a status. -/
  | status (n : Nat)
  /-- By a signal. -/
  | signal (number : Nat)

/-- A command that was not waited for. -/
structure Job where
  /-- The number of its process. -/
  process : Nat
  /-- How it ended; none while it sleeps. -/
  ended : Option Ended

/-- A program that was found and is remembered. -/
structure Remembered where
  /-- Its name. -/
  name : ByteText
  /-- The place of its directory among those that are searched. -/
  index : Nat
  /-- Has the working directory changed since? -/
  stale : Bool

/-- A shell at work. -/
structure Proc where
  /-- What it shares with other processes. -/
  shared : Shared
  /-- The working directory. -/
  cwd : String
  /-- The name of the script or shell. -/
  name : ByteText
  /-- The positional parameters. -/
  args : List ByteText
  /-- The variables. -/
  vars : Assoc ByteText ByteText
  /-- The names of the variables that programs inherit. -/
  exported : List ByteText
  /-- The names of the variables that cannot be changed. -/
  fixed : List ByteText
  /-- The functions. -/
  functions : Assoc ByteText Command
  /-- The names that stand for other texts. -/
  aliases : Assoc ByteText ByteText
  /-- The programs that were found. -/
  remembered : List Remembered
  /-- What is done when a signal arrives, or for 0 at the end. -/
  traps : Assoc Nat ByteText
  /-- The letters of the options that are on. -/
  flags : List Char
  /-- The status of the last command. -/
  status : Nat
  /-- The status of the last command whose output was taken. -/
  outputStatus : Nat
  /-- The line of the command at work. -/
  line : Nat
  /-- The line that the script has been read to. -/
  reached : Nat
  /-- The command of the shell itself that is at work. -/
  builtin : Option ByteText
  /-- The open file of each descriptor. -/
  descriptors : Assoc Nat Nat
  /-- The texts that follow lines, by their numbers. -/
  documents : Assoc Nat (List Part)
  /-- The number of loops around the command at work. -/
  loops : Nat
  /-- For each function at work the variables that it made its own. -/
  frames : List (List Saved)
  /-- The number of the process. -/
  process : Nat
  /-- The numbers of the shells that wait for this one. -/
  ancestors : List Nat
  /-- The number of the shell that the script started in. -/
  mainProcess : Nat
  /-- The commands that were not waited for. -/
  jobs : List Job
  /-- The number of the next word that is read for options. -/
  optionIndex : Nat
  /-- How far into the word before it options have been read, if there is more in it. -/
  optionOffset : Option Nat
  /-- The permissions that new files do not get. -/
  mask : Nat
  /-- Why the output of the command at work could not be written, if so. -/
  outputFault : Option Errno

/-- Why commands are not carried out any further. -/
inductive Halt where
  /-- The shell ends with a status. -/
  | exit (status : Nat)
  /-- An error that was complained about ends the shell. -/
  | fault
  /-- A signal ends the shell. -/
  | signal (number : Nat)
  /-- Input is needed that has not come. -/
  | waiting
  /-- A number of loops end, or go on with their next round if `again`. -/
  | leave (loops : Nat) (again : Bool)
  /-- A function or script hands a status back. -/
  | giveBack (status : Nat)

/-- Steps of a shell. -/
abbrev ShellM := ExceptT Halt (StateM Proc)

/-- The number of the first process. -/
def firstProcess : Nat := 4343

/-- The shell that a process starts as, with the given files, environment and input. -/
def Proc.start (files : FileTree) (cwd : String) (name : ByteText) (vars : Assoc ByteText ByteText)
    (input : ByteText) (closed : Bool) : Proc where
  shared :=
    { files, streams := #[.input, .out, .err], input, closed, out := .nothing,
      err := .nothing, signals := [], lastProcess := firstProcess }
  cwd := cwd
  name := name
  args := []
  vars := vars
  exported := vars.map Prod.fst
  fixed := []
  functions := []
  aliases := []
  remembered := []
  traps := []
  flags := []
  status := 0
  outputStatus := 0
  line := 0
  reached := 1
  builtin := none
  descriptors := [(0, 0), (1, 1), (2, 2)]
  documents := []
  loops := 0
  frames := []
  process := firstProcess
  ancestors := []
  mainProcess := firstProcess
  jobs := []
  optionIndex := 1
  optionOffset := none
  mask := 0o022
  outputFault := none

/-- Change what is shared. -/
def modifyShared (change : Shared → Shared) : ShellM Unit :=
  modify fun proc => { proc with shared := change proc.shared }

/-- Is an option on? -/
def Proc.has (proc : Proc) (flag : Char) : Bool := flag ∈ proc.flags

/-! ### Open files -/

/-- The open file of a descriptor. -/
def Proc.stream? (proc : Proc) (descriptor : Nat) : Option (Nat × Stream) := do
  let key ← Assoc.get? descriptor proc.descriptors
  let stream ← proc.shared.streams[key]?
  return (key, stream)

/-- Replace an open file. -/
def putStream (key : Nat) (stream : Stream) : ShellM Unit :=
  modifyShared fun shared => { shared with streams := shared.streams.setIfInBounds key stream }

/-- Open a file; the result is its key. -/
def openStream (stream : Stream) : ShellM Nat := do
  let key := (← get).shared.streams.size
  modifyShared fun shared => { shared with streams := shared.streams.push stream }
  return key

/-- A process writes to a pipe that nobody reads: that ends it, unless it is asked to go on. -/
def breakPipe : ShellM Errno := do
  let proc ← get
  match Assoc.get? 13 proc.traps with
  | none => throw (.signal 13)
  | some [] => return .brokenPipe
  | some _ => do
    modifyShared fun shared => { shared with signals := shared.signals ++ [(13, proc.process)] }
    return .brokenPipe

/-- Write to a file from a place on, or at its end; a refusal is returned. -/
def writeFile (key : Nat) (path : String) (offset : Nat) (atEnd reads : Bool) (text : ByteText) :
    ShellM (Option Errno) := do
  let files := (← get).shared.files
  let bytes := toBytes text
  let old := match files.read "/" path with
    | .ok content => content
    | .error _ => []
  let place := if atEnd then old.length else offset
  let missing := List.replicate (place - old.length) 0
  let content := old.take place ++ missing ++ bytes ++ old.drop (place + bytes.length)
  match files.write "/" path content with
  | .ok files => do
    modifyShared fun shared => { shared with files }
    putStream key (.file path (place + bytes.length) atEnd reads true)
    return none
  | .error fault => return some fault.reason

/-- Write to a descriptor; a refusal is returned. -/
def writeTo (descriptor : Nat) (text : ByteText) : ShellM (Option Errno) := do
  match (← get).stream? descriptor with
  | none | some (_, .input) | some (_, .text ..) => return some .badDescriptor
  | some (_, .null) | some (_, .zeros false) => return none
  | some (_, .zeros true) => return if text.isEmpty then none else some .noSpace
  | some (_, .out) => do
    modifyShared fun shared => { shared with out := shared.out.add text }
    return none
  | some (_, .err) => do
    modifyShared fun shared => { shared with err := shared.err.add text }
    return none
  | some (key, .kept written room) =>
    let fitting := match room.left? written.size with
      | some left => text.take left
      | none => text
    putStream key (.kept (written.add fitting) room)
    if fitting.length = text.length then return none
    else
      match room with
      | .broken _ => do return some (← breakPipe)
      | _ => throw .waiting
  | some (key, .file path offset atEnd reads writes) =>
    if !writes then return some .badDescriptor
    else if text.isEmpty then return none
    else writeFile key path offset atEnd reads text

/-- Write to the error output and pass over a refusal. -/
def warn (text : ByteText) : ShellM Unit := do
  let _ ← writeTo 2 text

/-- Write to the output and remember a refusal. -/
def say (text : ByteText) : ShellM Unit := do
  if let some reason ← writeTo 1 text then
    modify fun proc => { proc with outputFault := some (proc.outputFault.getD reason) }

/-- Write a line to the output. -/
def sayLine (text : ByteText) : ShellM Unit := say (text ++ ['\n'])

/-- The number of null characters that are read at a time from a device without end. -/
def zerosSize : Nat := 524288

/-- What can be read from a descriptor by now, and whether that is all of it; a refusal is
returned. -/
def peek (descriptor : Nat) : ShellM (Except Errno (ByteText × Bool)) := do
  let proc ← get
  match proc.stream? descriptor with
  | none | some (_, .out) | some (_, .err) | some (_, .kept ..) => return .error .badDescriptor
  | some (_, .null) => return .ok ([], true)
  | some (_, .zeros _) => return .ok (List.replicate zerosSize (Char.ofNat 0), false)
  | some (_, .input) => return .ok (proc.shared.input, proc.shared.closed)
  | some (_, .text left more) => return .ok (left, !more)
  | some (_, .file path offset _ reads _) =>
    if !reads then return .error .badDescriptor
    else
      match proc.shared.files.read "/" path with
      | .error fault => return .error fault.reason
      | .ok content => return .ok (ofBytes (content.drop offset), true)

/-- Pass over some bytes of a descriptor that is read. -/
def advance (descriptor count : Nat) : ShellM Unit := do
  match (← get).stream? descriptor with
  | some (_, .input) =>
    modifyShared fun shared => { shared with input := shared.input.drop count }
  | some (key, .text left more) => putStream key (.text (left.drop count) more)
  | some (key, .file path offset atEnd reads writes) =>
    putStream key (.file path (offset + count) atEnd reads writes)
  | _ => pure ()

/-- What is left to read from a descriptor, to its end; a refusal is returned. -/
def readAll (descriptor : Nat) : ShellM (Except Errno ByteText) := do
  match ← peek descriptor with
  | .error reason => return .error reason
  | .ok (text, complete) => do
    if !complete then throw .waiting
    advance descriptor text.length
    return .ok text

/-- The next line of a descriptor without its end, and whether it had one; a refusal is returned. -/
def readLine (descriptor : Nat) : ShellM (Except Errno (ByteText × Bool)) := do
  match ← peek descriptor with
  | .error reason => return .error reason
  | .ok (text, complete) => do
    let line := text.takeWhile (· ≠ '\n')
    let ended := !(text.drop line.length).isEmpty
    -- the line is not complete and more may come
    if !ended && !complete then throw .waiting
    advance descriptor (line.length + (if ended then 1 else 0))
    return .ok (line, ended)

/-- Do steps with descriptors that are put back afterwards. -/
def withDescriptors {α : Type} (steps : ShellM α) : ShellM α := do
  let before ← get
  let restore : ShellM Unit := modify fun proc => { proc with descriptors := before.descriptors }
  try
    let value ← steps
    restore
    return value
  catch halt => do restore; throw halt

/-- Let a descriptor lead to an open file. -/
def lead (descriptor key : Nat) : ShellM Unit :=
  modify fun proc => { proc with descriptors := Assoc.insert descriptor key proc.descriptors }

/-! ### Complaints -/

/-- Set the status of the last command. -/
def setStatus (status : Nat) : ShellM Unit := modify fun proc => { proc with status }

/-- Write a complaint, with the line and the command of the shell at work. -/
def complain (words : ByteText) : ShellM Unit := do
  let proc ← get
  let command := match proc.builtin with
    | some name => name ++ ": ".toList
    | none => []
  warn (proc.name ++ ": ".toList ++ decimal proc.line ++ ": ".toList ++ command ++ words ++ ['\n'])

/-- Write a complaint about an error and end the shell. -/
def fail {α : Type} (words : ByteText) : ShellM α := do
  complain words
  setStatus 2
  throw .fault

/-! ### Variables -/

/-- The number that the digits at the start of a text say. -/
def digitsValue (text : ByteText) : Nat :=
  (text.takeWhile Char.isDigit).foldl (fun n c => 10 * n + (c.toNat - 48)) 0

/-- Programs are searched anew when the directories to search are other ones. -/
def Proc.searchAnew (proc : Proc) (name : ByteText) : Proc :=
  if name = "PATH".toList then { proc with remembered := [] } else proc

/-- Set a variable; a protected one cannot be set. -/
def assign (name value : ByteText) : ShellM Unit := do
  if name ∈ (← get).fixed then fail (name ++ ": is read only".toList)
  modify fun proc =>
    { proc.searchAnew name with
      vars := Assoc.insert name value proc.vars
      exported :=
        if proc.has 'a' && name ∉ proc.exported then name :: proc.exported else proc.exported }
  if name = "OPTIND".toList then
    modify fun proc =>
      { proc with optionIndex := max 1 (digitsValue value), optionOffset := none }

/-- Let programs inherit a variable. -/
def exportName (name : ByteText) : ShellM Unit := modify fun proc =>
  { proc with exported := if name ∈ proc.exported then proc.exported else name :: proc.exported }

/-- Take a variable away; a protected one stays. -/
def forget (name : ByteText) : ShellM Unit := do
  if name ∈ (← get).fixed then fail (name ++ ": is read only".toList)
  modify fun proc =>
    { proc.searchAnew name with
      vars := Assoc.erase name proc.vars, exported := proc.exported.filter (· ≠ name) }

/-- What a variable is now, to be put back later. -/
def Proc.save (proc : Proc) (name : ByteText) : Saved :=
  let value := if name = ['-'] then some proc.flags else Assoc.get? name proc.vars
  ⟨name, value, name ∈ proc.exported, name ∈ proc.fixed⟩

/-- Put a variable back. -/
def Proc.putBack (proc : Proc) (saved : Saved) : Proc :=
  let set (on : Bool) (names : List ByteText) : List ByteText :=
    if on then (if saved.name ∈ names then names else saved.name :: names)
    else names.filter (· ≠ saved.name)
  -- a hyphen stands for the options
  if saved.name = ['-'] then { proc with flags := saved.value.getD [] }
  else
    { proc.searchAnew saved.name with
      vars := match saved.value with
        | some value => Assoc.insert saved.name value proc.vars
        | none => Assoc.erase saved.name proc.vars
      exported := set saved.exported proc.exported
      fixed := set saved.fixed proc.fixed }

/-- A sum over the bytes of a name. The remainders of these sums say in which order the shell goes
through names. -/
def nameSum (name : ByteText) : Nat :=
  name.foldl (fun sum c => sum + c.toNat) ((name.headD 'A').toNat * 16)

/-- The place of a variable in the order in which the shell hands them on. -/
def bucket (name : ByteText) : Nat := nameSum name % 39

/-- The variables that programs inherit. -/
def Proc.environment (proc : Proc) : Assoc ByteText ByteText :=
  (proc.vars.filter fun entry => entry.1 ∈ proc.exported).mergeSort fun a b =>
    bucket a.1 ≤ bucket b.1

/-- The characters at which unquoted expansions are divided. -/
def separators (proc : Proc) : ByteText :=
  (Assoc.get? "IFS".toList proc.vars).getD [' ', '\t', '\n']

/-! ### Processes -/

/-- Do steps in a process of their own: files, open files, output and input are shared, everything
else is put back. The result is missing while the process waits. -/
def tryChild (steps : ShellM Unit) : ShellM (Option Ended) := do
  let before ← get
  let number := before.shared.lastProcess + 1
  set
    { before with
      shared := { before.shared with lastProcess := number }
      process := number
      ancestors := before.process :: before.ancestors
      -- a process inherits only that signals are passed over
      traps := before.traps.filter fun entry => entry.2.isEmpty && entry.1 ≠ 0
      jobs := [] }
  let restore : ShellM Unit := modify fun after => { before with shared := after.shared }
  let ended (status : Nat) : ShellM (Option Ended) := do
    restore
    return some (.status (status % 256))
  try
    steps
    ended (← get).status
  catch
    | .exit status | .giveBack status => ended status
    | .fault => ended 2
    | .leave .. => do ended (← get).status
    | .signal number => do
      restore
      return some (.signal number)
    | .waiting => do
      restore
      return none

/-- Do steps in a process of their own that is waited for. -/
def inChild (steps : ShellM Unit) : ShellM Ended := do
  match ← tryChild steps with
  | some ended => return ended
  | none => throw .waiting

/-- The wording of the death by a signal. -/
def signalWording (number : Nat) : String :=
  match number with
  | 1 => "Hangup"
  | 2 => "Interrupt"
  | 3 => "Quit"
  | 4 => "Illegal instruction"
  | 5 => "Trace/breakpoint trap"
  | 6 => "Aborted"
  | 7 => "Bus error"
  | 8 => "Floating point exception"
  | 9 => "Killed"
  | 10 => "User defined signal 1"
  | 11 => "Segmentation fault"
  | 12 => "User defined signal 2"
  | 13 => "Broken pipe"
  | 14 => "Alarm clock"
  | 15 => "Terminated"
  | 16 => "Stack fault"
  | 24 => "CPU time limit exceeded"
  | 25 => "File size limit exceeded"
  | 26 => "Virtual timer expired"
  | 27 => "Profiling timer expired"
  | 29 => "I/O possible"
  | 30 => "Power failure"
  | 31 => "Bad system call"
  | number =>
    if number < 34 then "Unknown signal " ++ toString number
    else "Real-time signal " ++ toString (number - 34)

/-- The status of a process that was waited for. A death by a signal is reported, apart from an
interrupt and a broken pipe, and shows in the status. -/
def awaited (ended : Ended) : ShellM Nat := do
  match ended with
  | .status n => return n
  | .signal number => do
    unless number = 2 ∨ number = 13 do warn (ofString (signalWording number) ++ ['\n'])
    return 128 + number

/-- The output of steps in a process of their own, which goes into a pipe, and how they ended,
unless they wait. -/
def piped (room : Room) (steps : ShellM Unit) : ShellM (ByteText × Option Ended) := do
  let key ← openStream (.kept .nothing room)
  let ended? ← tryChild do
    lead 1 key
    steps
  match (← get).shared.streams[key]? with
  | some (.kept written _) => return (written.text, ended?)
  | _ => return ([], ended?)

/-- The output of steps in a process of their own, which does not reach the output of the shell, and
how they ended. -/
def captured (steps : ShellM Unit) : ShellM (ByteText × Ended) := do
  match ← piped .endless steps with
  | (text, some ended) => return (text, ended)
  | (_, none) => throw .waiting

end JuliaSession.Shell
