import JuliaSession.Shell.Arithmetic
import JuliaSession.Shell.Builtin
import JuliaSession.Shell.Expansion
import JuliaSession.Shell.Opening
import JuliaSession.Shell.Parse
import JuliaSession.Shell.Program
import JuliaSession.Shell.Signals
import JuliaSession.Shell.Tools.Words
import JuliaSession.Shell.Words

/-!
# Running shell scripts

What a shell does with a script, as a function of the files, the environment and the input so far.
A script that asks for input which has not come yet is waiting; run again on more input it does the
same up to that point and then goes on.

A script is carried out one complete command at a time (`script`). `execute` carries out a command,
`expand` gives what a word stands for, and `program` is what a process does that a tool runs in.
`fuel` bounds the number of steps, and a script that uses it up counts as waiting.
-/

namespace JuliaSession.Shell

/-- Where a command stands. -/
structure Context where
  /-- Is its failure looked at, so that it does not end the shell? -/
  tested : Bool
  /-- Does the shell end after it? -/
  last : Bool

/-- Where a command of a script stands. -/
def Context.plain : Context := ⟨false, false⟩

/-- Where a condition stands. -/
def Context.condition : Context := ⟨true, false⟩

/-- The same place, from which the shell goes on. -/
def Context.inner (context : Context) : Context := ⟨context.tested, false⟩

/-- How the shell finds what the words of a command call. -/
structure Callee where
  /-- The words, without a leading `command`. -/
  words : List ByteText
  /-- Is it a special command of the shell, and not called through `command`? -/
  special : Bool
  /-- May it be a function? -/
  mayBeFunction : Bool
  /-- Are programs looked for in the system's own directories? -/
  system : Bool

/-- Find what the words of a command call. The word `command` keeps functions away from the words
after it; with other options it is a command of its own. -/
def callee : Bool → List ByteText → Callee
  | through, name :: args =>
    let found : Callee :=
      ⟨name :: args, !through && String.ofList name ∈ specialNames, !through, false⟩
    if name = "command".toList then
      match args with
      | ['-', 'p'] :: next :: rest => { callee true (next :: rest) with system := true }
      | ['-', '-'] :: next :: rest => callee true (next :: rest)
      | next :: rest => if next.head? = some '-' then found else callee true (next :: rest)
      | [] => found
    else found
  | through, [] => ⟨[], false, !through, false⟩

/-- Are the arguments of this command assignments? -/
def takesAssignments (name : ByteText) : Bool :=
  String.ofList name ∈ ["export", "readonly", "local", "alias"]

/-- Does the shell have something to do at its end or when a signal arrives? -/
def Proc.hasTraps (proc : Proc) : Bool := proc.traps.any fun entry => !entry.2.isEmpty

/-- Is a command no more than the call of a tool that sleeps? -/
def isSleep : Command → Bool
  | .simple _ [] ([.text false name] :: _) _ => name = "sleep".toList
  | _ => false

/-- A parameter that can be set, and one that can be unset. -/
def isUnsetFault (proc : Proc) (name : ByteText) : Bool :=
  proc.has 'u' && name ∉ [['@'], ['*']] && (proc.parameter? name).isNone

/-- What a parameter without an operation expands to. -/
def parameterChunks (proc : Proc) (quoted : Bool) (name value : ByteText) : List Chunk :=
  match quoted, name with
  | true, ['@'] => [.list proc.args]
  | true, _ => [.keep true value]
  | false, ['@'] | false, ['*'] => [.spread proc.args]
  | false, _ => [.divide value]

/-- What the word in an expansion expands to: its text is divided if the expansion is not quoted. -/
def divideText (quoted : Bool) (chunks : List Chunk) : List Chunk :=
  if quoted then chunks
  else chunks.map fun chunk =>
    match chunk with
    | .keep false chars => .divide chars
    | chunk => chunk

/-- The words of a complaint about a parameter that has to be set. -/
def requireWords (empty : Bool) (name words : ByteText) : ByteText :=
  name ++ ": ".toList ++
    (if !words.isEmpty then words
      else if empty then "parameter not set or null".toList
      else "parameter not set".toList)

/-- The complaint about a file that was not opened for a redirection. -/
def openComplaint (verb missing : String) (path : ByteText) (reason : Errno) : ByteText :=
  let words := match reason with
    | .noEntry | .notDirectory => missing
    | reason => reason.wording
  ("cannot " ++ verb ++ " ").toList ++ path ++ (": " ++ words).toList

/-- The descriptor that the word of a redirection names; nothing for a hyphen. -/
def descriptorOf (word : ByteText) : ShellM (Option Nat) := do
  let refuse : ShellM (Option Nat) := do
    -- this is a fault of the script, at the line it has been read to
    modify fun proc => { proc with line := proc.reached }
    fail "Syntax error: Bad fd number".toList
  match word with
  | ['-'] => return none
  | [digit] => if digit.isDigit then return some (digit.toNat - 48) else refuse
  | _ => refuse

/-- A redirection whose word was expanded. -/
inductive Way where
  /-- A file is opened. -/
  | file (access : Access) (verb missing : String) (path : ByteText)
  /-- A descriptor is taken over, or closed. -/
  | copy (descriptor : Option Nat)
  /-- A text is read. -/
  | text (content : ByteText)

/-- Carry out a redirection; a refusal is complained about and gives false. -/
def redirect (descriptor : Nat) (way : Way) : ShellM Bool := do
  match way with
  | .file access verb missing path =>
    match ← openPath access path with
    | .ok key => do
      lead descriptor key
      return true
    | .error reason => do
      complain (openComplaint verb missing path reason)
      return false
  | .copy none => do
    modify fun proc => { proc with descriptors := Assoc.erase descriptor proc.descriptors }
    return true
  | .copy (some other) =>
    match Assoc.get? other (← get).descriptors with
    | some key => do
      lead descriptor key
      return true
    | none => do
      complain (decimal other ++ ": ".toList ++ reasonText .badDescriptor)
      return false
  | .text content => do
    lead descriptor (← openStream (.text content false))
    return true

/-- Carry out redirections in their order, up to one that is refused. -/
def redirectAll : List (Nat × Way) → ShellM Bool
  | [] => return true
  | (descriptor, way) :: rest => do
    if ← redirect descriptor way then redirectAll rest else return false

/-- Do a command of the shell under its name. A fault ends it with status 2, and the shell too if
the command is `special`; so does output that could not be written, but with status 1. -/
def asBuiltin (name : ByteText) (special : Bool) (steps : ShellM Nat) : ShellM Unit := do
  let before ← get
  modify fun proc => { proc with builtin := some name, outputFault := none }
  let restore : ShellM Unit := modify fun proc => { proc with builtin := before.builtin }
  try
    let status ← steps
    if (← get).outputFault.isSome then
      complain (name ++ ": I/O error".toList)
      setStatus (status ||| 1)
    else setStatus status
    restore
  catch
    | .fault => do
      restore
      if special then throw .fault
    | halt => do
      restore
      throw halt

/-- Make variables the command's own, with their values, and let programs inherit them; without
`own` they stay. Returned is what they were. -/
def setFor (own exports : Bool) (name value : ByteText) : ShellM (Option Saved) := do
  let saved := (← get).save name
  assign name value
  if own || exports then exportName name
  return if own then some saved else none

/-- Take on the environment of a new program: nothing else of the shell is left but the signals that
are passed over. -/
def becomeProgram : ShellM Unit := modify fun proc =>
  let vars := proc.environment
  { proc with
    vars
    exported := vars.map Prod.fst
    fixed := [], functions := [], aliases := [], remembered := []
    traps := proc.traps.filter fun entry => entry.2.isEmpty && entry.1 ≠ 0
    flags := [], builtin := none, documents := [], loops := 0, frames := [], jobs := []
    optionIndex := 1, optionOffset := none, mainProcess := proc.process, status := 0 }

/-- The variables that a shell starts with, besides those it inherits. -/
def becomeShell : ShellM Unit := do
  modify fun proc =>
    let kept := proc.vars.filter fun entry => isName entry.1
    let set (name value : String) (vars : Assoc ByteText ByteText) : Assoc ByteText ByteText :=
      Assoc.insert name.toList value.toList vars
    let parent := toString (proc.ancestors.headD (firstProcess - 1))
    let vars := set "IFS" " \t\n" (set "OPTIND" "1" (set "PPID" parent kept))
    let given (name value : String) (vars : Assoc ByteText ByteText) : Assoc ByteText ByteText :=
      if Assoc.has name.toList vars then vars else set name value vars
    let vars := given "PS1" "# " (given "PS2" "> " (given "PS4" "+ " vars))
    { proc with vars, exported := (kept.map Prod.fst).filter (· ≠ "IFS".toList) }
  assign "PWD".toList (ofString (← get).cwd)
  exportName "PWD".toList

/-- How a shell was called. -/
structure Start where
  /-- Is the first operand a text to be carried out? -/
  text : Bool
  /-- The operands. -/
  words : List ByteText

/-- Read the options in one word of a call of the shell. -/
def startFlags (on : Bool) : ByteText → Start → ShellM Start
  | [], start => return start
  | 'c' :: more, start => startFlags on more { start with text := true }
  | 'o' :: more, start => do
    setNamed on start.words.head?
    startFlags on more { start with words := start.words.tail }
  | 'l' :: more, start => startFlags on more start
  | c :: more, start => do
    setFlag on c
    startFlags on more start

/-- Read the options of a call of the shell; `fuel` bounds the number of words. -/
def startOptions : Nat → Start → ShellM Start
  | 0, start => return start
  | fuel + 1, start =>
    match start.words with
    | ['-'] :: rest | ['-', '-'] :: rest => return { start with words := rest }
    | ('-' :: letters) :: rest => do
      startOptions fuel (← startFlags true letters { start with words := rest })
    | ('+' :: letters) :: rest => do
      startOptions fuel (← startFlags false letters { start with words := rest })
    | _ => return start

/-- Why a script ends early although more of it may come. -/
def mayGoOn : Parse.Fault → Bool
  | .unexpected "end of file" _ | .openQuote | .openBrace | .openArithmetic | .openBackQuote => true
  | _ => false

/-- What is left of a script after a command, ready for the next one. -/
def Parse.Cursor.ready (cursor : Parse.Cursor) (proc : Proc) : Parse.Cursor :=
  { cursor with aliases := proc.aliases, asked := proc.documents.length }

/-- The lines that were read of a script. -/
def linesRead (before after : Parse.Cursor) : ByteText :=
  before.rest.take (before.rest.length - after.rest.length)

/-- The number that the argument of `exit` and `return` says. -/
def statusArgument (args : List ByteText) : ShellM Nat := do
  match args with
  | [] => return (← get).status
  | word :: _ => naturalNumber word

/-- Leave loops, or go on with their next round if `again`. -/
def leaveLoops (again : Bool) (args : List ByteText) : ShellM Nat := do
  let count ← match args with
    | [] => pure 1
    | word :: _ => do
      match ← naturalNumber word with
      | 0 => fail ("Illegal number: ".toList ++ word)
      | n => pure n
  match min count (← get).loops with
  | 0 => return 0
  | loops => do
    setStatus 0
    throw (.leave loops again)

/-- Do steps in one more loop. -/
def inLoop {α : Type} (steps : ShellM α) : ShellM α := do
  let before ← get
  modify fun proc => { proc with loops := proc.loops + 1 }
  let restore : ShellM Unit := modify fun proc => { proc with loops := before.loops }
  try
    let value ← steps
    restore
    return value
  catch halt => do restore; throw halt

/-- The number of bytes that a pipe holds. -/
def pipeRoom : Nat := 65536

/-- The most calls of functions within one another. -/
def callLimit : Nat := 1000

/-- How a round of a loop ended. -/
inductive Round where
  /-- With its last command. -/
  | done
  /-- Early, and the next one follows. -/
  | again
  /-- With the loop. -/
  | left
  deriving DecidableEq, Repr

/-- Do the steps of a loop's round. -/
def oneRound (steps : ShellM Unit) : ShellM Round :=
  try
    steps
    return .done
  catch
    | .leave loops again =>
      if 1 < loops then throw (.leave (loops - 1) again)
      else return if again then .again else .left
    | halt => throw halt

/-- Do the steps of a function with the given arguments. -/
def inFunction (args : List ByteText) (steps : ShellM Unit) : ShellM Unit := do
  let before ← get
  if callLimit ≤ before.frames.length then
    fail ("Maximum function recursion depth (" ++ toString callLimit ++ ") reached").toList
  modify fun proc =>
    { proc with
      args, frames := [] :: proc.frames, loops := 0, optionIndex := 1, optionOffset := none }
  let restore : ShellM Unit := modify fun proc =>
    let proc := ((proc.frames.headD []).foldl Proc.putBack proc)
    { proc with
      args := before.args, frames := before.frames, loops := before.loops,
      optionIndex := before.optionIndex, optionOffset := before.optionOffset }
  try
    steps
    restore
  catch
    | .giveBack status => do
      restore
      setStatus status
    | halt => do
      restore
      throw halt

/-- Put variables back after steps. -/
def puttingBack (saved : List Saved) (steps : ShellM Unit) : ShellM Unit := do
  let restore : ShellM Unit := modify fun proc => saved.foldl Proc.putBack proc
  try
    steps
    restore
  catch halt => do restore; throw halt

mutual

/-- What the parts of a word expand to. -/
def expand : Nat → List Part → ShellM (List Chunk)
  | 0, _ => throw .waiting
  | _, [] => return []
  | fuel + 1, part :: rest => do
    let found ← match part with
      | .text quoted chars => pure [Chunk.keep quoted chars]
      | .param quoted name op word => parameter fuel quoted name op word
      | .arith quoted expr => do
        let text ← oneText fuel expr
        let proc ← get
        let lookup (name : ByteText) : ByteText := (Assoc.get? name proc.vars).getD []
        match Arithmetic.value lookup text with
        | .ok (n, assigned) => do
          for (name, number) in assigned do assign name (toString number).toList
          let digits := (toString n).toList
          pure [if quoted then .keep true digits else .divide digits]
        | .error fault => fail (fault.complaint text)
      | .output quoted body => do
        let (text, ended) ← captured (ending fuel (sequence fuel ⟨false, true⟩ body))
        let status ← awaited ended
        modify fun proc => { proc with outputStatus := status }
        let text := Text.dropRightWhile (· = '\n') (text.filter fun c => c.toNat ≠ 0)
        pure [if quoted then .keep true text else .divide text]
    return found ++ (← expand fuel rest)

/-- What a parameter expands to. -/
def parameter : Nat → Bool → ByteText → ParamOp → List Part → ShellM (List Chunk)
  | 0, _, _, _, _ => throw .waiting
  | fuel + 1, quoted, name, op, word => do
    let proc ← get
    let value? := proc.parameter? name
    let missing (empty : Bool) : Bool := value?.isNone || (empty && value? == some [])
    let result (value : ByteText) : List Chunk := parameterChunks proc quoted name value
    -- without quotes around it the word may start with a tilde
    let inside := if quoted then word else tildes proc word
    let unset : ShellM Unit := do
      if isUnsetFault proc name then fail (name ++ ": parameter not set".toList)
    match op with
    | .bad => fail "Bad substitution".toList
    | .plain => do
      unset
      return result (value?.getD [])
    | .length => do
      unset
      let digits := decimal (value?.getD []).length
      return [if quoted then .keep true digits else .divide digits]
    | .without start longest => do
      unset
      let seps := separators proc
      let pattern := joinChunks seps (← expand fuel (tildes proc word))
      let value := trimmed start longest pattern (value?.getD [])
      return [if quoted then .keep true value else .divide value]
    | .instead empty =>
      if missing empty then return divideText quoted (← expand fuel inside)
      else return result (value?.getD [])
    | .given empty =>
      if missing empty then return [] else return divideText quoted (← expand fuel inside)
    | .assign empty =>
      if missing empty then do
        let text ← oneText fuel inside
        assignChecked name text
        return parameterChunks (← get) quoted name text
      else return result (value?.getD [])
    | .require empty =>
      if missing empty then do
        let words ← oneText fuel inside
        fail (requireWords empty name words)
      else return result (value?.getD [])

/-- The text of a word that is not divided. -/
def oneText : Nat → List Part → ShellM ByteText
  | 0, _ => throw .waiting
  | fuel + 1, word => do
    let chunks ← expand fuel word
    return plain (joinChunks (separators (← get)) chunks)

/-- The fields of a word: first divided at separators, then each matched against the files. -/
def fieldsOf : Nat → List Part → ShellM (List ByteText)
  | 0, _ => throw .waiting
  | fuel + 1, word => do
    let chunks ← expand fuel (tildes (← get) word)
    let proc ← get
    return (fieldsFrom (separators proc) none chunks).flatMap (expandPath proc)

/-- The fields of words. -/
def fields : Nat → List (List Part) → ShellM (List ByteText)
  | 0, _ => throw .waiting
  | _, [] => return []
  | fuel + 1, word :: rest => do
    let found ← fieldsOf fuel word
    return found ++ (← fields fuel rest)

/-- The fields of the words of a command, after those that were found already. Words that are
assignments are not divided if the command takes them. -/
def arguments : Nat → List ByteText → List (List Part) → ShellM (List ByteText)
  | 0, _, _ => throw .waiting
  | _, found, [] => return found
  | fuel + 1, found, word :: rest => do
    let proc ← get
    let assigns := match (callee false found).words with
      | name :: _ => takesAssignments name && !Assoc.has name proc.functions
      | [] => false
    let next ← if assigns && isAssignment word then do
        pure [← oneText fuel (assignmentTildes proc word)]
      else fieldsOf fuel word
    arguments fuel (found ++ next) rest

/-- Expand the words of redirections. -/
def ways : Nat → List Redirection → ShellM (List (Nat × Way))
  | 0, _ => throw .waiting
  | _, [] => return []
  | fuel + 1, (descriptor, target) :: rest => do
    let pathOf (word : List Part) : ShellM ByteText := do oneText fuel (tildes (← get) word)
    let create := "create"
    let noDirectory := "Directory nonexistent"
    let way ← match target with
      | .write forced word => do
        let path ← pathOf word
        let protecting := !forced && (← get).has 'C'
        pure (Way.file (if protecting then .create else .write) create noDirectory path)
      | .append word => do pure (.file .append create noDirectory (← pathOf word))
      | .read word => do pure (.file .read "open" "No such file" (← pathOf word))
      | .both word => do pure (.file .both create noDirectory (← pathOf word))
      | .copy word => do pure (.copy (← descriptorOf (← pathOf word)))
      | .document number => do
        pure (.text (← oneText fuel ((Assoc.get? number (← get).documents).getD [])))
    return (descriptor, way) :: (← ways fuel rest)

/-- Carry out what is asked for when the signals that have arrived do. -/
def deliver : Nat → ShellM Unit
  | 0 => throw .waiting
  | fuel + 1 => do
    if !(← get).shared.signals.isEmpty then
      for number in ← takeSignals do
        match (← get).reaction number with
        | .act text => do
          let before ← get
          script fuel .plain (Parse.Cursor.start text 0)
          setStatus before.status
        | _ => pure ()

/-- Carry out commands one after the other. -/
def sequence : Nat → Context → List Command → ShellM Unit
  | 0, _, _ => throw .waiting
  | _, _, [] => pure ()
  | fuel + 1, context, [command] => execute fuel context command
  | fuel + 1, context, command :: rest => do
    execute fuel context.inner command
    sequence fuel context rest

/-- Carry out a command. -/
def execute : Nat → Context → Command → ShellM Unit
  | 0, _, _ => throw .waiting
  | fuel + 1, context, command => do
    if (← get).has 'n' then return
    deliver fuel
    let checked ← match command with
      | .simple line assigns words redirs => do
        simple fuel context line assigns words redirs
        pure true
      | .sequence body => do
        sequence fuel context body
        pure false
      | .both first second => do
        execute fuel .condition first
        if (← get).status = 0 then execute fuel context second
        pure false
      | .either first second => do
        execute fuel .condition first
        if (← get).status ≠ 0 then execute fuel context second
        pure false
      | .negate body => do
        execute fuel .condition body
        setStatus (if (← get).status = 0 then 1 else 0)
        pure false
      | .branch arms otherwise => do
        choose fuel context arms otherwise
        pure false
      | .loop inverted condition body => do
        inLoop (repeatWhile fuel context.inner inverted condition body 0)
        pure false
      | .each line name words body => do
        modify fun proc => { proc with line }
        let values ← match words with
          | some words => fields fuel words
          | none => do pure (← get).args
        setStatus 0
        inLoop (forEach fuel context.inner name values body)
        pure false
      | .select line word arms => do
        modify fun proc => { proc with line }
        let subject ← oneText fuel (tildes (← get) word)
        chooseArm fuel context subject arms
        pure false
      | .redirected line body redirs => do
        modify fun proc => { proc with line }
        let found ← ways fuel redirs
        withDescriptors do
          if ← redirectAll found then execute fuel context.inner body else setStatus 2
        pure true
      | .subshell line body redirs => do
        modify fun proc => { proc with line }
        let found ← ways fuel redirs
        let steps : ShellM Unit := do
          if !(← redirectAll found) then throw (.exit 2)
          execute fuel ⟨context.tested, true⟩ body
        if context.last && !(← get).hasTraps then do
          steps
          throw (.exit (← get).status)
        else setStatus (← awaited (← inChild (ending fuel steps)))
        pure true
      | .pipeline stages => do
        pipe fuel context stages
        pure true
      | .background body => do
        let ended ← inChild (ending fuel do
          lead 0 (← openStream .null)
          execute fuel ⟨false, true⟩ body)
        modify fun proc =>
          let job : Job := ⟨proc.shared.lastProcess, if isSleep body then none else some ended⟩
          { proc with jobs := proc.jobs ++ [job] }
        setStatus 0
        pure true
      | .define name body => do
        modify fun proc => { proc with functions := Assoc.insert name body proc.functions }
        forgetProgram name
        setStatus 0
        pure false
    deliver fuel
    let proc ← get
    if checked && proc.has 'e' && !context.tested && proc.status ≠ 0 then
      throw (.exit proc.status)

/-- The first branch whose condition succeeds. -/
def choose : Nat → Context → List (Command × Command) → Option Command → ShellM Unit
  | 0, _, _, _ => throw .waiting
  | _, _, [], none => setStatus 0
  | fuel + 1, context, [], some body => execute fuel context body
  | fuel + 1, context, (condition, body) :: rest, otherwise => do
    execute fuel .condition condition
    if (← get).status = 0 then execute fuel context body else choose fuel context rest otherwise

/-- The first arm of a selection with a pattern that matches. -/
def chooseArm : Nat → Context → ByteText → List (List (List Part) × Command) → ShellM Unit
  | 0, _, _, _ => throw .waiting
  | _, _, _, [] => setStatus 0
  | fuel + 1, context, subject, (patterns, body) :: rest => do
    if ← matchesAny fuel subject patterns then
      match body with
      | .sequence [] => setStatus 0
      | body => execute fuel context body
    else chooseArm fuel context subject rest

/-- Does one of the patterns match? -/
def matchesAny : Nat → ByteText → List (List Part) → ShellM Bool
  | 0, _, _ => throw .waiting
  | _, _, [] => return false
  | fuel + 1, subject, pattern :: rest => do
    let chunks ← expand fuel (tildes (← get) pattern)
    if matchesField (joinChunks (separators (← get)) chunks) subject then return true
    else matchesAny fuel subject rest

/-- Repeat a body as long as the condition succeeds, or fails if `inverted`. The status is that of
the last round. -/
def repeatWhile : Nat → Context → Bool → Command → Command → Nat → ShellM Unit
  | 0, _, _, _, _, _ => throw .waiting
  | fuel + 1, context, inverted, condition, body, last => do
    match ← oneRound (execute fuel .condition condition) with
    | .left => setStatus last
    | .again => repeatWhile fuel context inverted condition body last
    | .done =>
      if ((← get).status = 0) != inverted then do
        match ← oneRound (execute fuel context body) with
        | .left => pure ()
        | _ => repeatWhile fuel context inverted condition body (← get).status
      else setStatus last

/-- Carry out a body for each value. -/
def forEach : Nat → Context → ByteText → List ByteText → Command → ShellM Unit
  | 0, _, _, _, _ => throw .waiting
  | _, _, _, [], _ => pure ()
  | fuel + 1, context, name, value :: rest, body => do
    assign name value
    if (← oneRound (execute fuel context body)) ≠ .left then forEach fuel context name rest body

/-- Carry out the stages of a pipeline in turn, each on the output of the one before. -/
def pipe : Nat → Context → List Command → ShellM Unit
  | 0, _, _ => throw .waiting
  | _, _, [] => pure ()
  | fuel + 1, context, [last] => do
    let ended ← inChild (ending fuel (execute fuel ⟨context.tested, true⟩ last))
    setStatus (← awaited ended)
  | fuel + 1, context, stage :: rest => stageInto fuel context stage rest pipeRoom

/-- Carry out a stage of a pipeline and the stages after it, with a pipe of some bytes between them.
A stage that ends within them runs to its end before the next one starts, which no output can tell.
If it does not, either the other stages are content with what it wrote, and it goes on with nobody
to read more, or the whole is done with a longer pipe, which is as if they had read on. -/
def stageInto : Nat → Context → Command → List Command → Nat → ShellM Unit
  | 0, _, _, _, _ => throw .waiting
  | fuel + 1, context, stage, rest, room => do
    let before ← get
    let first (room : Room) : ShellM (ByteText × Option Ended) :=
      Shell.piped room (ending fuel (execute fuel ⟨context.tested, true⟩ stage))
    let others (text : ByteText) (more : Bool) : ShellM Unit := withDescriptors do
      lead 0 (← openStream (.text text more))
      pipe fuel context rest
    match ← first (.bytes room) with
    | (text, some ended) => do
      let _ ← awaited ended
      others text false
    | (text, none) => do
      let full := (← get).shared
      let areDone ← try
          others text true
          pure true
        catch
          | .waiting => pure false
          | halt => throw halt
      -- the stage waits for something else than a reader
      if text.length < room then throw .waiting
      set before
      if areDone then
        let (text, ended?) ← first (.broken room)
        -- what the stage writes once the pipe is broken comes after what the others wrote
        let (out, laterOut) := (← get).shared.out.cut full.out.pieces.length
        let (err, laterErr) := (← get).shared.err.cut full.err.pieces.length
        modifyShared fun shared => { shared with out, err }
        others text true
        modifyShared fun shared =>
          { shared with
            out := laterOut.foldl Written.add shared.out
            err := laterErr.foldl Written.add shared.err }
        match ended? with
        | none => throw .waiting
        | some ended => do
          let status := (← get).status
          let _ ← awaited ended
          setStatus status
      else stageInto fuel context stage rest (2 * room)

/-- Carry out a simple command: its words are expanded, then its redirections are carried out, then
its assignments, and at last it is called. -/
def simple : Nat → Context → Nat → List (ByteText × List Part) → List (List Part) →
    List Redirection → ShellM Unit
  | 0, _, _, _, _, _ => throw .waiting
  | fuel + 1, context, line, assigns, words, redirs => do
    modify fun proc => { proc with line, outputStatus := 0 }
    let argv ← arguments fuel [] words
    let called := callee false argv
    let proc ← get
    let isFunction := called.mayBeFunction && (called.words.head?.any fun name =>
      Assoc.has name proc.functions)
    let special := called.special && !isFunction
    let own := !called.words.isEmpty && !special
    -- the redirections of this command stay
    let stays := !isFunction && called.words.head? = some "exec".toList
    let found ← ways fuel redirs
    let steps : ShellM Unit := do
      if !(← redirectAll found) then do
        setStatus 2
        if special then throw .fault
      else
        let exports := stays && 1 < called.words.length
        let (shown, saved) ← assignAll fuel own exports assigns
        puttingBack saved do
          if proc.has 'x' then trace fuel proc (shown ++ argv)
          call fuel context called isFunction
    if stays then steps else withDescriptors steps

/-- Carry out assignments; returned are their texts and what the variables were. -/
def assignAll : Nat → Bool → Bool → List (ByteText × List Part) →
    ShellM (List ByteText × List Saved)
  | 0, _, _, _ => throw .waiting
  | _, _, _, [] => return ([], [])
  | fuel + 1, own, exports, (name, word) :: rest => do
    let value ← oneText fuel (valueTildes (← get) word)
    let saved? ← setFor own exports name value
    let (shown, saved) ← assignAll fuel own exports rest
    -- what came last is put back first
    return ((name ++ '=' :: value) :: shown, saved ++ saved?.toList)

/-- Show a command before it is called, on the error output it had before its redirections. -/
def trace : Nat → Proc → List ByteText → ShellM Unit
  | 0, _, _ => throw .waiting
  | fuel + 1, before, words => do
    let lead ← match Assoc.get? "PS4".toList (← get).vars with
      | none => pure []
      | some text =>
        match (Parse.parts (Parse.stepLimit (Parse.Cursor.start text 0)) .text false).run
            (Parse.Cursor.start text 0) with
        | .ok (parts, _) => oneText fuel parts
        | .error _ => pure text
    withDescriptors do
      modify fun proc => { proc with descriptors := before.descriptors }
      warn (lead ++ Text.joinWith [' '] words ++ ['\n'])

/-- Call what the words of a command say. -/
def call : Nat → Context → Callee → Bool → ShellM Unit
  | 0, _, _, _ => throw .waiting
  | fuel + 1, context, called, isFunction => do
    match called.words with
    | [] => setStatus (← get).outputStatus
    | name :: args => do
      let proc ← get
      match (if isFunction then Assoc.get? name proc.functions else none) with
      | some body => inFunction args (execute fuel context.inner body)
      | none =>
        match String.ofList name with
        | "exit" => asBuiltin name called.special do throw (.exit ((← statusArgument args) % 256))
        | "return" => asBuiltin name called.special do throw (.giveBack (← statusArgument args))
        | "break" => asBuiltin name called.special (leaveLoops false args)
        | "continue" => asBuiltin name called.special (leaveLoops true args)
        | "eval" => asBuiltin name called.special do
          if args.isEmpty then return 0
          setStatus 0
          let text := Text.joinWith [' '] args
          script fuel context (Parse.Cursor.start text 0)
          return (← get).status
        | "." => asBuiltin name called.special (source fuel args)
        | "exec" => asBuiltin name called.special do
          let (_, words) ← options "" args
          match words with
          | [] => return 0
          | name :: args => do
            replace fuel (searchPath (← get)) 0 name args
            return 0
        | _ =>
          match builtin? name with
          | some command => asBuiltin name called.special (command args)
          | none => outside fuel context called.system name args

/-- Carry out a file in this shell. -/
def source : Nat → List ByteText → ShellM Nat
  | 0, _ => throw .waiting
  | fuel + 1, args => do
    let (_, words) ← options "" args
    match words with
    | [] => return 0
    | name :: _ => do
      let proc ← get
      let path ← if '/' ∈ name then pure name else do
        let found := (candidates (searchPath proc) (asString name)).find? fun path =>
          proc.shared.files.isFile proc.cwd path
        match found with
        | some path => pure (ofString path)
        | none => fail (name ++ ": not found".toList)
      match ← readPath path with
      | .error .isDirectory => return 0
      | .error reason => fail (openComplaint "open" "No such file" path reason)
      | .ok text => do
        -- complaints name the file from here on
        modify fun proc => { proc with builtin := some path }
        setStatus 0
        try
          script fuel .plain (Parse.Cursor.start text 0)
          return (← get).status
        catch
          | .giveBack status => return status
          | halt => throw halt

/-- Call a program: in a process of its own, or instead of the shell if that ends with it. -/
def outside : Nat → Context → Bool → ByteText → List ByteText → ShellM Unit
  | 0, _, _, _, _ => throw .waiting
  | fuel + 1, context, system, name, args => do
    let proc ← get
    let path := if system then systemPath else searchPath proc
    let found : Except Errno Nat ← if '/' ∈ name then pure (.ok 0)
      else if system then
        pure ((programPath proc.shared.files proc.cwd path 0 (asString name)).map fun _ => 0)
      else programIndex name
    match found with
    | .error reason => do
      complain (name ++ ": ".toList ++ (if reason = .noEntry then "not found".toList
        else reasonText reason))
      setStatus 127
    | .ok skip =>
      if context.last && !proc.hasTraps then replace fuel path skip name args
      else setStatus (← awaited (← inChild (replace fuel path skip name args)))

/-- Become a program, which is looked for in the directories of a path from an index on. -/
def replace : Nat → String → Nat → ByteText → List ByteText → ShellM Unit
  | 0, _, _, _, _ => throw .waiting
  | fuel + 1, path, skip, name, args => do
    let proc ← get
    let files := proc.shared.files
    let found : Except Errno String := if '/' ∈ name then .ok (asString name)
      else programPath files proc.cwd path skip (asString name)
    match found.bind fun path => launchable? files proc.cwd path name args with
    | .error reason => do
      let isMissing := reason = .noEntry || reason = .notDirectory
      let wording := if isMissing then "not found".toList else reasonText reason
      complain (name ++ ": ".toList ++ wording)
      let isFar := reason = .nameTooLong || reason = .tooManyLinks
      throw (.exit (if isMissing || isFar then 127 else 126))
    | .ok ⟨tool, name, args⟩ => do
      becomeProgram
      program fuel tool name args
      throw (.exit (← get).status)

/-- Do the steps of a shell to its end, with what is asked for at the end. -/
def ending : Nat → ShellM Unit → ShellM Unit
  | 0, _ => throw .waiting
  | fuel + 1, steps => do
    try steps
    catch
      | .exit status | .giveBack status => setStatus status
      | .fault | .leave .. => pure ()
      | halt => throw halt
    let proc ← get
    match Assoc.get? 0 proc.traps with
    | none => throw (.exit proc.status)
    | some text => do
      modify fun proc => { proc with traps := Assoc.erase 0 proc.traps, builtin := none }
      try
        script fuel .plain (Parse.Cursor.start text 0)
        throw (.exit proc.status)
      catch
        | .giveBack _ => throw (.exit proc.status)
        | .fault => throw (.exit 2)
        | halt => throw halt

/-- Carry out a script, one complete command at a time. The context is the one of its last
command. -/
def script : Nat → Context → Parse.Cursor → ShellM Unit
  | 0, _, _ => throw .waiting
  | fuel + 1, context, cursor => do
    let proc ← get
    let cursor := cursor.ready proc
    match (Parse.next (Parse.stepLimit cursor)).run cursor with
    | .error (line, fault) => do
      modify fun proc => { proc with line }
      fail ("Syntax error: " ++ fault.wording).toList
    | .ok (none, _) => pure ()
    | .ok (some commands, rest) => do
      modify fun proc =>
        { proc with
          reached := rest.line
          documents := rest.documents.foldl (fun documents entry =>
            Assoc.insert entry.1 entry.2 documents) proc.documents }
      let isLast := match rest.ahead with
        | some .eof => true
        | _ => false
      sequence fuel (if isLast then context else context.inner) commands
      script fuel context rest

/-- Carry out a script whose lines are shown when they are read, if that is asked for. A script that
is not complete may go on. -/
def feed : Nat → Bool → Parse.Cursor → ShellM Unit
  | 0, _, _ => throw .waiting
  | fuel + 1, complete, cursor => do
    let cursor := cursor.ready (← get)
    let step := (Parse.next (Parse.stepLimit cursor)).run cursor
    if (← get).has 'v' then
      warn (match step with
        | .ok (_, rest) => linesRead cursor rest
        | .error _ => cursor.rest)
    match step with
    | .error (line, fault) => do
      if !complete && mayGoOn fault then throw .waiting
      modify fun proc => { proc with line }
      fail ("Syntax error: " ++ fault.wording).toList
    | .ok (none, _) => if !complete then throw .waiting else pure ()
    | .ok (some commands, rest) => do
      modify fun proc =>
        { proc with
          reached := rest.line
          documents := rest.documents.foldl (fun documents entry =>
            Assoc.insert entry.1 entry.2 documents) proc.documents }
      sequence fuel .plain commands
      feed fuel complete rest

/-- A shell called with arguments: a command text with its name and parameters, a script file with
its parameters, or a script on the input. -/
def shell : Nat → ByteText → List ByteText → ShellM Unit
  | 0, _, _ => throw .waiting
  | fuel + 1, name, args => ending fuel do
    becomeShell
    modify fun proc => { proc with name, line := 0 }
    let start ← startOptions (args.length + 1) ⟨false, args⟩
    match start.text, start.words with
    | true, [] => fail "-c requires an argument".toList
    | true, text :: rest => do
      modify fun proc => { proc with name := rest.headD name, args := rest.tail }
      script fuel ⟨false, true⟩ (Parse.Cursor.start text 0)
    | false, words =>
      if words.isEmpty || (← get).has 's' then do
        let proc ← get
        setFlag true 's'
        modify fun proc => { proc with args := words }
        let text := proc.shared.input
        match proc.stream? 0 with
        | some (_, .input) => do
          modifyShared fun shared => { shared with input := [] }
          let shown := if proc.shared.closed then text
            else Text.dropRightWhile (· ≠ '\n') text
          feed fuel proc.shared.closed (Parse.Cursor.start shown 0)
        | _ =>
          match ← readAll 0 with
          | .ok text => feed fuel true (Parse.Cursor.start text 0)
          | .error _ => pure ()
      else do
        let path := words.headD []
        match ← readPath path with
        | .ok text => do
          modify fun proc => { proc with name := path, args := words.tail }
          feed fuel true (Parse.Cursor.start text 0)
        | .error .isDirectory => pure ()
        | .error reason => fail (openComplaint "open" "No such file" path reason)

/-- Run a program with other variables. -/
def envTool : Nat → ByteText → List ByteText → ShellM Nat
  | 0, _, _ => throw .waiting
  | fuel + 1, name, ('-' :: 'S' :: line) :: args =>
    -- the words of a line stand for arguments
    let (line, args) := if line.isEmpty then (args.headD [], args.tail) else (line, args)
    envTool fuel name ((wordsFrom .plain none line).getD [line] ++ args)
  | fuel + 1, name, args => do
    let call ← callOf name
      [.flag "i" "ignore-environment", .flag "0" "null", .value "u" "unset", .value "C" "chdir",
        .maybe "" "default-signal", .maybe "" "ignore-signal", .maybe "" "block-signal",
        .flag "" "list-signal-handling", .flag "v" "debug", .value "S" "split-string"] 125
    let (given, words) ← call.readInOrder args
    let isBare := words.head? = some ['-']
    let words := if isBare then words.tail else words
    if isGiven given "i" || isBare then
      modify fun proc => { proc with vars := [], exported := [] }
    for (key, value) in given do
      if key = "u" then
        if value.isEmpty || '=' ∈ value then
          call.fail ("cannot unset ".toList ++ call.quoted value ++ ": Invalid argument".toList)
        modify fun proc => { proc with vars := Assoc.erase value proc.vars }
    let assigns := words.takeWhile fun word => '=' ∈ word
    for word in assigns do
      let key := word.takeWhile (· ≠ '=')
      modify fun proc =>
        { proc with vars := Assoc.insert key (word.drop (key.length + 1)) proc.vars }
    let target? := (words.drop assigns.length).head?
    if isGiven given "0" && target?.isSome then
      call.refuse "cannot specify --null (-0) with command".toList
    if let some dir := givenValue? given "C" then
      if target?.isNone then call.refuse "must specify command with --chdir (-C)".toList
      match ← entryAt dir with
      | .ok (.dir ..) =>
        modify fun proc => { proc with cwd := Path.absolute proc.cwd (asString dir) }
      | found =>
        let reason := match found with
          | .error reason => reason
          | .ok _ => .notDirectory
        call.fail ("cannot change directory to ".toList ++ call.ticked dir ++ ": ".toList
          ++ reasonText reason)
    match words.drop assigns.length with
    | [] => do
      for (key, value) in (← get).vars do sayEnded (isGiven given "0") (key ++ '=' :: value)
      return 0
    | target :: rest => do
      let proc ← get
      let files := proc.shared.files
      let path := match Assoc.get? "PATH".toList proc.vars with
        | some path => asString path
        | none => "/bin:/usr/bin"
      let found : Except Errno String := if '/' ∈ target then .ok (asString target)
        else programPath files proc.cwd path 0 (asString target)
      match found.bind fun path => image? files proc.cwd scriptLimit path target rest with
      | .error reason => do
        call.warn (call.quoted target ++ ": ".toList ++ reasonText reason)
        if reason = .noEntry && target.any isNumberSpace then
          call.warn "use -[v]S to pass options in shebang lines".toList
        return if reason = .noEntry || reason = .notDirectory then 127 else 126
      | .ok ⟨tool, called, args⟩ => do
        program fuel tool called args
        return (← get).status

/-- What a process does that a tool runs in; the status is the one it ends with. -/
def program : Nat → String → ByteText → List ByteText → ShellM Unit
  | 0, _, _, _ => throw .waiting
  | fuel + 1, tool, name, args => do
    match tool with
    | "sh" => shell fuel name args
    | "env" => setStatus (← reportingOutput 125 (writeComplaints tool) name
      (envTool fuel name args))
    | _ =>
      match tool? tool with
      | some run => setStatus (← reportingOutput (failureStatus tool) (writeComplaints tool) name
          (run name args))
      | none => setStatus 127

end

end JuliaSession.Shell
