import JuliaSession.Shell.Expansion
import JuliaSession.Shell.Parse
import JuliaSession.Shell.Program
import JuliaSession.Shell.Signals
import JuliaSession.Shell.Test

/-!
# Commands of the shell

The commands that the shell carries out itself and that run nothing: they write texts, change the
working directory, read input, and say what a name stands for. `builtin?` gives the command with a
name; each command gives its status.
-/

namespace JuliaSession.Shell

/-! ### Texts -/

/-- Write the arguments. -/
def echoCommand (args : List ByteText) : ShellM Nat := do
  say (echoText args)
  return 0

/-- Write the arguments in a format. -/
def printfCommand (args : List ByteText) : ShellM Nat := do
  let (_, words) ← options "" args
  match words with
  | [] => fail "usage: printf format [arg ...]".toList
  | format :: args => do
    let (printing, stop) := formatText format args
    for words in printing.complaints do complain words
    match stop with
    | .bad words => do
      say printing.out
      complain words
      return 2
    | _ => do
      say printing.out
      return if printing.complaints.isEmpty then 0 else 1

/-- Test a condition. -/
def testCommand (args : List ByteText) : ShellM Nat := do
  match Test.value (← get) (2 * args.length + 2) args with
  | .ok true => return 0
  | .ok false => return 1
  | .error fault => fail fault.complaint

/-- Test a condition that ends with a bracket. -/
def bracketCommand (args : List ByteText) : ShellM Nat := do
  match args.getLast? with
  | some [']'] => testCommand args.dropLast
  | _ => fail "missing ]".toList

/-! ### The working directory -/

/-- Show the working directory. -/
def pwdCommand (args : List ByteText) : ShellM Nat := do
  let _ ← options "LP" args
  sayLine (ofString (← get).cwd)
  return 0

/-- Make a directory the working directory, if it is one. -/
def enter (dir : ByteText) : ShellM Bool := do
  let proc ← get
  let cwd := Path.absolute proc.cwd (asString dir)
  if proc.shared.files.isDirectory "/" cwd then do
    assign "OLDPWD".toList (ofString proc.cwd)
    exportName "OLDPWD".toList
    modify fun proc => { proc with cwd }
    assign "PWD".toList (ofString cwd)
    exportName "PWD".toList
    modify fun proc =>
      { proc with remembered := proc.remembered.map fun found => { found with stale := true } }
    return true
  else return false

/-- Does a path lead from the root, or start with a dot as its first component? -/
def isAnchored (dir : ByteText) : Bool :=
  dir.head? = some '/' || dir.takeWhile (· ≠ '/') ∈ [['.'], ['.', '.']]

/-- Change the working directory. -/
def cdCommand (args : List ByteText) : ShellM Nat := do
  let (_, words) ← options "LP" args
  let proc ← get
  let value (name : String) : ByteText := (Assoc.get? name.toList proc.vars).getD []
  let (dest, shows) := match words with
    | [] => (value "HOME", false)
    | ['-'] :: _ => (value "OLDPWD", true)
    | dir :: _ => (dir, false)
  let found ← if isAnchored dest then pure none else do
    let dir := if dest.isEmpty then ['.'] else dest
    match Assoc.get? "CDPATH".toList proc.vars with
    | none => pure none
    | some list =>
      let places := Text.splitOnChar ':' list
      let full (place : ByteText) : ByteText := if place.isEmpty then dir else place ++ '/' :: dir
      pure ((places.find? fun place =>
        proc.shared.files.isDirectory proc.cwd (asString (full place))).map fun place =>
          (full place, !place.isEmpty))
  let (dir, shows) := match found with
    | some (dir, shown) => (dir, shows || shown)
    | none => (if dest.isEmpty then ['.'] else dest, shows)
  if ← enter dir then do
    if shows then sayLine (ofString (← get).cwd)
    return 0
  else fail ("can't cd to ".toList ++ dest)

/-! ### Input -/

/-- Read a line of input; a backslash keeps the next character and joins lines, unless `raw`. The
characters that were kept are marked. The flag says whether the line was complete. -/
def readMarked (raw : Bool) : Nat → ShellM (List Mark × Bool)
  | 0 => throw .waiting
  | fuel + 1 => do
    match ← readLine 0 with
    | .error _ => return ([], false)
    | .ok (line, complete) =>
      let line := line.filter fun c => c.toNat ≠ 0
      if raw then return (marked false line, complete)
      else
        let rec keep : ByteText → List Mark × Bool
          | [] => ([], false)
          | ['\\'] => ([], true)
          | '\\' :: c :: rest => let (later, joins) := keep rest; ((true, c) :: later, joins)
          | c :: rest => let (later, joins) := keep rest; ((false, c) :: later, joins)
        let (kept, joins) := keep line
        if joins && complete then do
          let (later, complete) ← readMarked raw fuel
          return (kept ++ later, complete)
        else return (kept, complete)

/-- Is this a separator that was not kept? -/
def isDividing (seps : ByteText) (mark : Mark) : Bool := !mark.1 && mark.2 ∈ seps

/-- Is this white space that divides? -/
def isDividingSpace (seps : ByteText) (mark : Mark) : Bool := !mark.1 && isSpaceIn seps mark.2

/-- The text for the last variable: all that is left, without white space around it, and without the
separator after a single field. -/
def lastField (seps : ByteText) (line : List Mark) : ByteText :=
  let line := Text.dropRightWhile (isDividingSpace seps) (line.dropWhile (isDividingSpace seps))
  let field := line.takeWhile fun mark => !isDividing seps mark
  match (line.drop field.length).dropWhile (isDividingSpace seps) with
  | [only] => if isDividing seps only then plain field else plain line
  | _ => plain line

/-- Divide a line among variables; the last one takes all that is left. -/
def shareLine (seps : ByteText) : List ByteText → List Mark → List (ByteText × ByteText)
  | [], _ => []
  | [name], line => [(name, lastField seps line)]
  | name :: names, line =>
    let line := line.dropWhile (isDividingSpace seps)
    let field := line.takeWhile fun mark => !isDividing seps mark
    let rest := (line.drop field.length).dropWhile (isDividingSpace seps)
    let rest := match rest with
      | mark :: more =>
        -- white space may stand around another separator, and only one of them is passed over
        if isDividing seps mark then more else rest
      | [] => []
    (name, plain field) :: shareLine seps names rest

/-- Read a line of input into variables. -/
def readCommand (args : List ByteText) : ShellM Nat := do
  let (found, names) ← readOptions [('p', true), ('r', false)] (args.length + 1) args
  if names.isEmpty then fail "arg count".toList
  let raw := found.any fun entry => entry.1 = 'r'
  let (line, complete) ← readMarked raw 10000
  for (name, value) in shareLine (separators (← get)) names line do assignChecked name value
  return if complete then 0 else 1

/-! ### Permissions and limits -/

/-- A number in octal digits, at least as many as given. -/
def octal (places n : Nat) : ByteText :=
  let digits := Nat.toDigits 8 n
  List.replicate (places - digits.length) '0' ++ digits

/-- The permissions that three bits give. -/
def permissionText (bits : Nat) : ByteText :=
  (if bits / 4 % 2 = 1 then ['r'] else []) ++ (if bits / 2 % 2 = 1 then ['w'] else [])
    ++ (if bits % 2 = 1 then ['x'] else [])

/-- The bits of one permission letter for all three classes. -/
def permissionBits (letter : Char) : Option Nat :=
  match letter with
  | 'r' => some 0o444
  | 'w' => some 0o222
  | 'x' | 'X' => some 0o111
  | 's' | 't' => some 0
  | _ => none

/-- Apply one clause of a symbolic mode, such as `u+rw`, to permission bits. -/
def applyClause (mode : Nat) (clause : ByteText) : Option Nat :=
  let who := clause.takeWhile fun c => c ∈ ['u', 'g', 'o', 'a']
  let classes := who.foldl (fun mask c =>
    let share :=
      if c = 'u' then 0o700 else if c = 'g' then 0o070 else if c = 'o' then 0o007 else 0o777
    mask ||| share) 0
  let classes := if who.isEmpty then 0o777 else classes
  match clause.drop who.length with
  | [] => none
  | op :: letters =>
    match letters.mapM permissionBits with
    | none => none
    | some bits =>
      let chosen := (bits.foldl (· ||| ·) 0) &&& classes
      let without (kept : Nat) : Nat := mode - (mode &&& kept)
      match op with
      | '+' => some (mode ||| chosen)
      | '-' => some (without chosen)
      | '=' => some (without classes ||| chosen)
      | _ => none

/-- Apply a symbolic mode to permission bits. -/
def applyMode (mode : Nat) (text : ByteText) : Option Nat :=
  (Text.splitOnChar ',' text).foldl (fun mode clause => mode.bind (applyClause · clause))
    (some mode)

/-- Show or set the permissions that new files do not get. -/
def umaskCommand (args : List ByteText) : ShellM Nat := do
  let (flags, words) ← options "S" args
  let mask := (← get).mask
  match words with
  | [] =>
    if flags.isEmpty then sayLine (octal 4 mask)
    else
      let given := 0o777 - mask
      let shown (c : Char) (bits : Nat) : ByteText := c :: '=' :: permissionText (bits % 8)
      sayLine (Text.joinWith [','] [shown 'u' (given / 64), shown 'g' (given / 8), shown 'o' given])
    return 0
  | word :: _ =>
    if (word.headD ' ').isDigit then
      if word.all isOctal ∧ octalValue word ≤ 0o777 then do
        modify fun proc => { proc with mask := octalValue word }
        return 0
      else fail ("Illegal number: ".toList ++ word)
    else
      match applyMode (0o777 - mask) word with
      | some given => do
        modify fun proc => { proc with mask := 0o777 - given }
        return 0
      | none => fail ("Illegal mode: ".toList ++ word)

/-- Show the time that was used, of which none is counted. -/
def timesCommand (_ : List ByteText) : ShellM Nat := do
  for _ in [0, 1] do sayLine "0m0.000000s 0m0.000000s".toList
  return 0

/-! ### Names of commands -/

/-- The commands of the shell that are not special. -/
def regularNames : List String :=
  ["[", "alias", "bg", "cd", "chdir", "command", "echo", "false", "fg", "getopts", "hash", "jobs",
    "kill", "printf", "pwd", "read", "test", "true", "type", "ulimit", "umask", "unalias", "wait"]

/-- Does the shell carry out the command with this name itself? -/
def isBuiltin (name : ByteText) : Bool :=
  String.ofList name ∈ specialNames || String.ofList name ∈ regularNames

/-- The directories of the system's own programs. -/
def systemPath : String := "/usr/local/sbin:/usr/local/bin:/usr/sbin:/usr/bin:/sbin:/bin"

/-- The directories in which programs are looked for. -/
def searchPath (proc : Proc) : String :=
  match Assoc.get? "PATH".toList proc.vars with
  | some path => asString path
  | none => systemPath

/-- Forget where the program of a name is. -/
def forgetProgram (name : ByteText) : ShellM Unit := modify fun proc =>
  { proc with remembered := proc.remembered.filter fun found => found.name ≠ name }

/-- The program of a name that is remembered. -/
def Proc.remembered? (proc : Proc) (name : ByteText) : Option Remembered :=
  proc.remembered.find? fun found => found.name = name

/-- Look for the program of a name and remember where it is: the index of its directory. -/
def lookUp (name : ByteText) : ShellM (Except Errno Nat) := do
  let proc ← get
  let files := proc.shared.files
  let text := asString name
  match (candidates (searchPath proc) text).findIdx? fun c => files.isExecutable proc.cwd c with
  | some index => do
    let found : Remembered := ⟨name, index, false⟩
    modify fun proc =>
      { proc with
        remembered :=
          if (proc.remembered? name).isSome then
            proc.remembered.map fun other => if other.name = name then found else other
          else proc.remembered ++ [found] }
    return .ok index
  | none => do
    forgetProgram name
    match programPath files proc.cwd (searchPath proc) 0 text with
    | .error reason => return .error reason
    | .ok _ => return .error .noEntry

/-- The index of the directory of a name's program, which is searched if it is not remembered. -/
def programIndex (name : ByteText) : ShellM (Except Errno Nat) := do
  match (← get).remembered? name with
  | some found => if found.stale then lookUp name else return .ok found.index
  | none => lookUp name

/-- The path of a program in the directory with an index. -/
def pathAt (proc : Proc) (name : ByteText) (index : Nat) : ByteText :=
  ofString ((candidates (searchPath proc) (asString name)).getD index "")

/-- Say what a name stands for, in a sentence if `verbose`. -/
def describe (verbose : Bool) (name : ByteText) : ShellM Nat := do
  let proc ← get
  let answer (sentence brief : ByteText) : ShellM Nat := do
    sayLine (if verbose then name ++ sentence else brief)
    return 0
  let text := asString name
  if text ∈ Parse.reservedWords then answer " is a shell keyword".toList name
  else
    match Assoc.get? name proc.aliases with
    | some value =>
      answer (" is an alias for ".toList ++ value)
        ("alias ".toList ++ name ++ '=' :: singleQuoted value)
    | none =>
      if Assoc.has name proc.functions then answer " is a shell function".toList name
      else if text ∈ specialNames then answer " is a special shell builtin".toList name
      else if text ∈ regularNames then answer " is a shell builtin".toList name
      else
        let missing : ShellM Nat := do
          if verbose then sayLine (name ++ ": not found".toList)
          return 127
        if '/' ∈ name then
          if proc.shared.files.holds proc.cwd text then answer (" is ".toList ++ name) name
          else missing
        else
          match proc.remembered? name with
          | some found =>
            let path := pathAt proc name found.index
            answer (" is a tracked alias for ".toList ++ path) path
          | none =>
            match ← lookUp name with
            | .ok index => answer (" is ".toList ++ pathAt proc name index) (pathAt proc name index)
            | .error _ => missing

/-- Say what names stand for. -/
def typeCommand (args : List ByteText) : ShellM Nat := do
  let (_, names) ← options "" args
  let mut status := 0
  for name in names do
    if (← describe true name) ≠ 0 then status := 127
  return status

/-- Say what the first name stands for. -/
def commandCommand (args : List ByteText) : ShellM Nat := do
  let (flags, names) ← options "pvV" args
  match flags.find? (· ≠ 'p'), names with
  | some flag, name :: _ => describe (flag = 'V') name
  | _, _ => return 0

/-- The place of a remembered program in the order in which they are listed. -/
def Remembered.bucket (found : Remembered) : Nat := nameSum found.name % 31

/-- List the programs that are remembered, search some anew, or forget all of them. -/
def hashCommand (args : List ByteText) : ShellM Nat := do
  let (flags, names) ← options "r" args
  if !flags.isEmpty then do
    modify fun proc => { proc with remembered := [] }
    return 0
  else do
    if names.isEmpty then
      let proc ← get
      for found in proc.remembered.mergeSort fun a b => a.bucket ≤ b.bucket do
        sayLine (pathAt proc found.name found.index ++ if found.stale then ['*'] else [])
    let mut status := 0
    for name in names do
      let proc ← get
      unless '/' ∈ name || isBuiltin name || Assoc.has name proc.functions do
        if !(← lookUp name).isOk then
          complain (name ++ ": not found".toList)
          status := 1
    return status

/-! ### Commands that were not waited for -/

/-- A job that is waited for to its end. -/
def Job.finished (job : Job) : Job := { job with ended := some (job.ended.getD (.status 0)) }

/-- Wait for commands; the status is the one of the last process that was named. -/
def waitCommand (args : List ByteText) : ShellM Nat := do
  let (_, words) ← options "" args
  let mut status := 0
  if words.isEmpty then
    modify fun proc => { proc with jobs := proc.jobs.map Job.finished }
  for word in words do
    let process ← processOf word
    match (← get).jobs.find? fun job => job.process = process with
    | none => status := 127
    | some job =>
      modify fun proc =>
        { proc with
          jobs := proc.jobs.map fun other =>
            if other.process = process then job.finished else other }
      status ← match job.ended with
        | some ended => awaited ended
        | none => pure 0
  return status

/-- Go on with a command in the foreground or background; without job control there is none. -/
def resumeCommand (args : List ByteText) : ShellM Nat := do
  let (_, words) ← options "" args
  match words with
  | [] =>
    if (← get).jobs.isEmpty then fail "No current job".toList
    else fail "job (null) not created under job control".toList
  | word :: _ =>
    match job? (← get) word with
    | some _ => fail ("job ".toList ++ word ++ " not created under job control".toList)
    | none => fail ("No such job: ".toList ++ word)

/-- Show the limits of a process, of which there is none. -/
def ulimitCommand (args : List ByteText) : ShellM Nat := do
  let (_, words) ← options "HSatfdscmlpnvwr" args
  if words.isEmpty then sayLine "unlimited".toList
  return 0

/-- The command of the shell with a name, if it runs nothing. -/
def builtin? (name : ByteText) : Option (List ByteText → ShellM Nat) :=
  match String.ofList name with
  | ":" | "true" => some fun _ => return 0
  | "false" => some fun _ => return 1
  | "echo" => some echoCommand
  | "printf" => some printfCommand
  | "test" => some testCommand
  | "[" => some bracketCommand
  | "pwd" => some pwdCommand
  | "cd" | "chdir" => some cdCommand
  | "read" => some readCommand
  | "umask" => some umaskCommand
  | "times" => some timesCommand
  | "type" => some typeCommand
  | "command" => some commandCommand
  | "hash" => some hashCommand
  | "wait" => some waitCommand
  | "jobs" => some fun _ => return 0
  | "fg" | "bg" => some resumeCommand
  | "ulimit" => some ulimitCommand
  | "kill" => some killCommand
  | "trap" => some trapCommand
  | "export" => some exportCommand
  | "readonly" => some readonlyCommand
  | "local" => some localCommand
  | "unset" => some unsetCommand
  | "set" => some setCommand
  | "shift" => some shiftCommand
  | "getopts" => some getoptsCommand
  | "alias" => some aliasCommand
  | "unalias" => some unaliasCommand
  | _ => none

end JuliaSession.Shell
