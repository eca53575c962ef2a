import JuliaSession.Shell.Variables

/-!
# Signals

The signals by number and name, the commands that send them (`killCommand`) and say what is done
when they arrive (`trapCommand`), and what a process does with a signal that no command was given
for. A signal is first put among those on their way; the process it goes to takes it at its next
step.
-/

namespace JuliaSession.Shell

/-- The names of the signals from 1 to 31. -/
def signalNames : List String :=
  ["HUP", "INT", "QUIT", "ILL", "TRAP", "ABRT", "BUS", "FPE", "KILL", "USR1", "SEGV", "USR2",
    "PIPE", "ALRM", "TERM", "16", "CHLD", "CONT", "STOP", "TSTP", "TTIN", "TTOU", "URG", "XCPU",
    "XFSZ", "VTALRM", "PROF", "WINCH", "IO", "PWR", "SYS"]

/-- The number of signals, with the end of the shell as the first. -/
def signalCount : Nat := 65

/-- The name of a signal. -/
def signalName (number : Nat) : String :=
  if number = 0 then "EXIT"
  else if number < 32 then signalNames[number - 1]?.getD ""
  else if number < 34 then toString number
  else if number = 34 then "RTMIN"
  else if number < 50 then "RTMIN+" ++ toString (number - 34)
  else if number < 64 then "RTMAX-" ++ toString (64 - number)
  else "RTMAX"

/-- The number that a word says, if it is one of a signal. -/
def signalNumeral? (word : ByteText) : Option Nat :=
  if word.isEmpty || !word.all Char.isDigit then none
  else if digitsValue word < signalCount then some (digitsValue word)
  else none

/-- The signal that a word names by number or name; names count from the number `least` on. -/
def signal? (least : Nat) (word : ByteText) : Option Nat :=
  match signalNumeral? word with
  | some number => some number
  | none =>
    let upper := String.ofList (word.map Char.toUpper)
    (List.range signalCount).find? fun number => least ≤ number && signalName number = upper

/-! ### Arrival -/

/-- Does a signal end a process that did not ask for anything else? -/
def endsProcess (number : Nat) : Bool := number ∉ [0, 17, 18, 19, 20, 21, 22, 23, 28]

/-- What a process does when a signal arrives. -/
inductive Reaction where
  /-- Nothing. -/
  | pass
  /-- It ends. -/
  | finish
  /-- It carries out a text. -/
  | act (text : ByteText)
  deriving DecidableEq, Repr

/-- What the shell does when a signal arrives. -/
def Proc.reaction (proc : Proc) (number : Nat) : Reaction :=
  match (if number = 9 then none else Assoc.get? number proc.traps) with
  | some [] => .pass
  | some text => .act text
  | none => if endsProcess number then .finish else .pass

/-- Take the signals that have arrived, in the order of their numbers, after those that end the
process. -/
def takeSignals : ShellM (List Nat) := do
  let proc ← get
  let (mine, others) := proc.shared.signals.partition fun entry => entry.2 = proc.process
  modifyShared fun shared => { shared with signals := others }
  let numbers := mine.map Prod.fst
  match numbers.find? fun number => proc.reaction number = .finish with
  | some number => throw (.signal number)
  | none => return (numbers.filter fun number => proc.reaction number ≠ .pass).eraseDups.mergeSort

/-- Send a signal to a process, if it exists. -/
def sendSignal (number process : Nat) : ShellM Bool := do
  let proc ← get
  if process = proc.process ∨ process ∈ proc.ancestors then
    if number ≠ 0 then
      modifyShared fun shared =>
        { shared with signals := shared.signals ++ [(number, process)] }
    return true
  else if proc.jobs.any fun job => job.process = process then
    modify fun proc =>
      { proc with
        jobs := proc.jobs.map fun job =>
          if job.process = process && job.ended.isNone && endsProcess number then
            { job with ended := some (.signal number) }
          else job }
    return true
  else return false

/-! ### Commands -/

/-- List what is done when signals arrive, or change it. -/
def trapCommand (args : List ByteText) : ShellM Nat := do
  let (_, words) ← options "" args
  match words with
  | [] => do
    for number in List.range signalCount do
      match Assoc.get? number (← get).traps with
      | some action =>
        sayLine ("trap -- ".toList ++ singleQuoted action ++ ' ' :: (signalName number).toList)
      | none => pure ()
    return 0
  | first :: rest => do
    -- a number, or a single word, asks for what is done without a command
    let (action, names) : Option ByteText × List ByteText :=
      if rest.isEmpty || (signalNumeral? first).isSome then (none, words)
      else (if first = ['-'] then none else some first, rest)
    for name in names do
      match signal? 0 name with
      | none => do
        warn ("trap: ".toList ++ name ++ ": bad trap\n".toList)
        return 1
      | some number =>
        modify fun proc =>
          { proc with
            traps := match action with
              | some text => Assoc.insert number text proc.traps
              | none => Assoc.erase number proc.traps }
    return 0

/-- How `kill` is called. -/
def killUsage : ByteText :=
  "Usage: kill [-s sigspec | -signum | -sigspec] [pid | job]... or\nkill -l [exitstatus]".toList

/-- List the names of the signals, or the one of the signal that a status says. -/
def listSignals (args : List ByteText) : ShellM Nat := do
  match args with
  | [] => do
    sayLine ['0']
    for number in (List.range signalCount).tail do sayLine (signalName number).toList
    return 0
  | word :: _ => do
    let n ← naturalNumber word
    let number := if 128 < n then n - 128 else n
    if 0 < number ∧ number < signalCount then do
      sayLine (signalName number).toList
      return 0
    else fail ("invalid signal number or exit status: ".toList ++ word)

/-- The job that a word with a per cent sign names. -/
def job? (proc : Proc) (word : ByteText) : Option Job :=
  match word with
  | ['%'] | ['%', '%'] | ['%', '+'] => proc.jobs.getLast?
  | '%' :: digits =>
    if digits.all Char.isDigit then
      match digitsValue digits with
      | 0 => none
      | n + 1 => proc.jobs[n]?
    else none
  | _ => none

/-- The process that a word names, by its number or as a job. -/
def processOf (word : ByteText) : ShellM Nat := do
  match word with
  | '%' :: _ =>
    match job? (← get) word with
    | some job => return job.process
    | none => fail ("No such job: ".toList ++ word)
  | '-' :: digits => naturalNumber digits
  | digits => naturalNumber digits

/-- Send a signal to the processes that words name. -/
def sendTo (number : Nat) (words : List ByteText) : ShellM Nat := do
  let mut status := 0
  for word in words do
    let process ← processOf word
    if !(← sendSignal number process) then
      complain "No such process\n".toList
      status := 1
  return status

/-- Send signals. -/
def killCommand (args : List ByteText) : ShellM Nat := do
  match args with
  | [] => fail killUsage
  | first :: rest =>
    match first with
    | '-' :: name =>
      match signal? 1 name with
      | some number => if rest.isEmpty then fail killUsage else sendTo number rest
      | none => do
        let (found, words) ← readOptions [('l', false), ('s', true)] (args.length + 1) args
        let mut number? : Option Nat := none
        for (letter, value) in found do
          if letter = 's' then
            match signal? 1 value with
            | some number => number? := some number
            | none => fail ("invalid signal number or name: ".toList ++ value)
        let listed := found.any fun entry => entry.1 = 'l'
        match listed, number?, words with
        | true, none, _ => listSignals words
        | true, some _, [] => listSignals []
        | false, _, _ :: _ => sendTo (number?.getD 15) words
        | _, _, _ => fail killUsage
    | _ => sendTo 15 args

end JuliaSession.Shell
