import JuliaSession.Shell.Format
import JuliaSession.Shell.State

/-!
# Commands on variables and parameters

The commands of the shell that list, mark and remove variables, set options and positional
parameters, and read the options of a script. Each of them gives its status.
-/

namespace JuliaSession.Shell

/-! ### Options of commands -/

/-- Read the options in one word; the flag of each allowed letter says whether it takes an argument.
Returned are the options, and the words left. -/
def optionsIn (allowed : List (Char × Bool)) :
    ByteText → List ByteText → ShellM (List (Char × ByteText) × List ByteText)
  | [], rest => return ([], rest)
  | c :: more, rest =>
    match allowed.find? fun entry => entry.1 = c with
    | none => fail ("Illegal option -".toList ++ [c])
    | some (_, false) => do
      let (later, rest) ← optionsIn allowed more rest
      return ((c, []) :: later, rest)
    | some (_, true) =>
      match more, rest with
      | [], [] => fail ("No arg for -".toList ++ c :: " option".toList)
      | [], arg :: rest => return ([(c, arg)], rest)
      | arg, rest => return ([(c, arg)], rest)

/-- Read the options of a command; `fuel` bounds the number of words. -/
def readOptions (allowed : List (Char × Bool)) :
    Nat → List ByteText → ShellM (List (Char × ByteText) × List ByteText)
  | 0, args => return ([], args)
  | fuel + 1, args =>
    match args with
    | ['-', '-'] :: rest => return ([], rest)
    | ('-' :: c :: more) :: rest => do
      let (first, rest) ← optionsIn allowed (c :: more) rest
      let (later, rest) ← readOptions allowed fuel rest
      return (first ++ later, rest)
    | _ => return ([], args)

/-- The options of a command, of which none takes an argument, and its operands. -/
def options (allowed : String) (args : List ByteText) : ShellM (List Char × List ByteText) := do
  let (found, rest) ← readOptions (allowed.toList.map fun c => (c, false)) (args.length + 1) args
  return (found.map Prod.fst, rest)

/-- A number that is no less than zero. -/
def naturalNumber (arg : ByteText) : ShellM Nat :=
  match decimalNumber? arg with
  | some n =>
    if 0 ≤ n ∧ n < Int.pow 2 31 then return n.toNat else fail ("Illegal number: ".toList ++ arg)
  | none => fail ("Illegal number: ".toList ++ arg)

/-! ### Variables -/

/-- Set a variable by a name that was given as a word. -/
def assignChecked (name value : ByteText) : ShellM Unit := do
  if isName name then assign name value else fail (name ++ ": bad variable name".toList)

/-- Divide a word at its first equals sign. -/
def nameAndValue (word : ByteText) : ByteText × Option ByteText :=
  let name := word.takeWhile (· ≠ '=')
  (name, (word.drop name.length).tail? )

/-- List variables in order of their names, each after the given word. -/
def showVariables (word : ByteText) (holds : Proc → ByteText → Bool) : ShellM Nat := do
  let proc ← get
  let unset := (proc.exported ++ proc.fixed).filter fun name =>
    holds proc name && !Assoc.has name proc.vars
  let names := (proc.vars.map Prod.fst).filter (holds proc) ++ unset.eraseDups
  for name in names.mergeSort fun a b => String.ofList a ≤ String.ofList b do
    let lead := if word.isEmpty then name else word ++ ' ' :: name
    match Assoc.get? name proc.vars with
    | some value => sayLine (lead ++ '=' :: singleQuoted value)
    | none => sayLine lead
  return 0

/-- Mark variables, with the values that are given. -/
def markNames (mark : ByteText → ShellM Unit) : List ByteText → ShellM Unit
  | [] => pure ()
  | word :: rest => do
    let (name, value?) := nameAndValue word
    if !isName name then fail (name ++ ": bad variable name".toList)
    match value? with
    | some value => assign name value
    | none => pure ()
    mark name
    markNames mark rest

/-- Let programs inherit variables. -/
def exportCommand (args : List ByteText) : ShellM Nat := do
  let (flags, names) ← options "p" args
  if !flags.isEmpty || names.isEmpty then
    showVariables "export".toList fun proc name => name ∈ proc.exported
  else do
    markNames exportName names
    return 0

/-- Protect variables. -/
def readonlyCommand (args : List ByteText) : ShellM Nat := do
  let (flags, names) ← options "p" args
  if !flags.isEmpty || names.isEmpty then
    showVariables "readonly".toList fun proc name => name ∈ proc.fixed
  else do
    markNames (fun name => modify fun proc =>
      { proc with fixed := if name ∈ proc.fixed then proc.fixed else name :: proc.fixed }) names
    return 0

/-- Remember a variable, to be put back when the function ends. -/
def makeOwn (name : ByteText) : ShellM Unit := modify fun proc =>
  match proc.frames with
  | frame :: rest =>
    if frame.any fun saved => saved.name = name then proc
    else { proc with frames := (proc.save name :: frame) :: rest }
  | [] => proc

/-- Make variables a function's own, with the values that are given. -/
def localCommand (args : List ByteText) : ShellM Nat := do
  if (← get).frames.isEmpty then fail "not in a function".toList
  let (_, words) ← options "" args
  for word in (if args.head? = some ['-'] then args else words) do
    let (name, value?) := nameAndValue word
    if name ≠ ['-'] ∧ !isName name then fail (name ++ ": bad variable name".toList)
    makeOwn name
    match value? with
    | some value => assign name value
    | none => pure ()
  return 0

/-- Take variables or functions away. -/
def unsetCommand (args : List ByteText) : ShellM Nat := do
  let (flags, names) ← options "vf" args
  for name in names do
    if flags.getLast? = some 'f' then
      modify fun proc => { proc with functions := Assoc.erase name proc.functions }
    else if isName name then forget name
    else fail (name ++ ": bad variable name".toList)
  return 0

/-! ### Options and parameters of the shell -/

/-- The options of the shell: the name and the letter of each, if it has one. -/
def shellOptions : List (String × Option Char) :=
  [("errexit", some 'e'), ("noglob", some 'f'), ("ignoreeof", some 'I'), ("interactive", some 'i'),
    ("monitor", some 'm'), ("noexec", some 'n'), ("stdin", some 's'), ("xtrace", some 'x'),
    ("verbose", some 'v'), ("vi", some 'V'), ("emacs", some 'E'), ("noclobber", some 'C'),
    ("allexport", some 'a'), ("notify", some 'b'), ("nounset", some 'u'), ("privileged", some 'p'),
    ("nolog", none), ("debug", none)]

/-- The letters of the options that are on, the last one first. -/
def flagText (proc : Proc) : ByteText :=
  shellOptions.reverse.filterMap fun entry => entry.2.filter proc.has

/-- Turn an option on or off. -/
def setFlag (on : Bool) (c : Char) : ShellM Unit := do
  if !shellOptions.any fun entry => entry.2 = some c then fail ("Illegal option -".toList ++ [c])
  modify fun proc =>
    { proc with
      flags := if on then (if c ∈ proc.flags then proc.flags else c :: proc.flags)
        else proc.flags.filter (· ≠ c) }

/-- Turn an option on or off by its name, or list all options. -/
def setNamed (on : Bool) : Option ByteText → ShellM Unit
  | none => do
    let proc ← get
    if on then sayLine "Current option settings".toList
    for (name, letter?) in shellOptions do
      let isOn := letter?.any proc.has
      if on then
        let shown := name.toList ++ List.replicate (16 - name.length) ' '
        sayLine (shown ++ (if isOn then "on" else "off").toList)
      else sayLine ("set ".toList ++ (if isOn then "-o " else "+o ").toList ++ name.toList)
  | some name =>
    match shellOptions.find? fun entry => entry.1.toList = name with
    | some (_, some c) => setFlag on c
    | some (_, none) => pure ()
    | none => fail ("Illegal option -o ".toList ++ name)

/-- Set the options in one word; the words left are returned. -/
def setFlags (on : Bool) : ByteText → List ByteText → ShellM (List ByteText)
  | [], rest => return rest
  | 'o' :: more, rest => do
    setNamed on rest.head?
    setFlags on more rest.tail
  | c :: more, rest => do
    setFlag on c
    setFlags on more rest

/-- Set options, up to a word that is none; the words left are returned. The flag says whether the
parameters are to be replaced even by none. -/
def setOptions : Nat → List ByteText → ShellM (List ByteText × Bool)
  | 0, args => return (args, false)
  | fuel + 1, args =>
    match args with
    | ['-'] :: rest => do
      modify fun proc => { proc with flags := proc.flags.filter fun c => c ≠ 'x' && c ≠ 'v' }
      return (rest, false)
    | ['-', '-'] :: rest => return (rest, true)
    | ('-' :: letters) :: rest => do setOptions fuel (← setFlags true letters rest)
    | ('+' :: letters) :: rest => do setOptions fuel (← setFlags false letters rest)
    | _ => return (args, false)

/-- Replace the positional parameters. -/
def setParameters (args : List ByteText) : ShellM Unit :=
  modify fun proc => { proc with args, optionIndex := 1, optionOffset := none }

/-- List the variables, or set options and parameters. -/
def setCommand (args : List ByteText) : ShellM Nat := do
  if args.isEmpty then showVariables [] fun proc name => Assoc.has name proc.vars
  else do
    let (rest, replaced) ← setOptions (args.length + 1) args
    if replaced || !rest.isEmpty then setParameters rest
    return 0

/-- Drop positional parameters. -/
def shiftCommand (args : List ByteText) : ShellM Nat := do
  let count ← match args with
    | [] => pure 1
    | n :: _ => naturalNumber n
  let proc ← get
  if proc.args.length < count then fail "can't shift that many".toList
  setParameters (proc.args.drop count)
  return 0

/-! ### Options of a script -/

/-- The letter that comes next in the words of a script, with what is left of its word and the
number of the next word; nothing at the end. -/
def nextLetter (proc : Proc) (words : List ByteText) : Option (Char × ByteText × Nat) × Nat :=
  let index := proc.optionIndex
  let current := match proc.optionOffset with
    | some offset => (words[index - 2]?.getD []).drop offset
    | none => []
  match current with
  | c :: rest => (some (c, rest, index), index)
  | [] =>
    match words[index - 1]? with
    | some ['-', '-'] => (none, index + 1)
    | some ('-' :: c :: rest) => (some (c, rest, index + 1), index + 1)
    | _ => (none, index)

/-- Read the next option of a script into a variable. -/
def getoptsCommand (args : List ByteText) : ShellM Nat := do
  match args with
  | known :: name :: given => do
    let proc ← get
    let words := if given.isEmpty then proc.args else given
    if words.length + 1 < proc.optionIndex then
      modify fun proc => { proc with optionIndex := 1, optionOffset := none }
    let proc ← get
    let silent := known.head? = some ':'
    let finish (letter : Char) (index : Nat) (rest : ByteText) (status : Nat) : ShellM Nat := do
      assign "OPTIND".toList (decimal index)
      let size := (words[index - 2]?.getD []).length
      modify fun proc =>
        { proc with
          optionIndex := index
          optionOffset := if rest.isEmpty then none else some (size - rest.length) }
      assignChecked name [letter]
      return status
    let complainOf (words : String) (c : Char) (after : String) : ShellM Unit := do
      if silent then assign "OPTARG".toList [c]
      else do
        warn (words.toList ++ c :: after.toList ++ ['\n'])
        forget "OPTARG".toList
    match nextLetter proc words with
    | (none, index) => finish '?' index [] 1
    | (some (c, rest, index), _) =>
      let place := known.dropWhile (· ≠ c)
      if place.isEmpty ∨ c = ':' then do
        complainOf "Illegal option -" c ""
        finish '?' index rest 0
      else if place.tail.head? = some ':' then
        if !rest.isEmpty then do
          assign "OPTARG".toList rest
          finish c index [] 0
        else
          match words[index - 1]? with
          | some value => do
            assign "OPTARG".toList value
            finish c (index + 1) [] 0
          | none => do
            complainOf "No arg for -" c " option"
            finish (if silent then ':' else '?') index [] 0
      else do
        assign "OPTARG".toList []
        finish c index rest 0
  | _ => fail "Usage: getopts optstring var [arg...]".toList

/-! ### Other names for commands -/

/-- Let names stand for other texts, or show what they stand for. -/
def aliasCommand (args : List ByteText) : ShellM Nat := do
  let shown (entry : ByteText × ByteText) : ByteText := entry.1 ++ '=' :: singleQuoted entry.2
  if args.isEmpty then do
    for entry in (← get).aliases do sayLine (shown entry)
    return 0
  else do
    let mut status := 0
    for word in args do
      match nameAndValue word with
      | (name, some value) =>
        modify fun proc => { proc with aliases := Assoc.insert name value proc.aliases }
      | (name, none) =>
        match Assoc.get? name (← get).aliases with
        | some value => sayLine (shown (name, value))
        | none => do
          warn ("alias: ".toList ++ name ++ " not found\n".toList)
          status := 1
    return status

/-- Forget what names stand for. -/
def unaliasCommand (args : List ByteText) : ShellM Nat := do
  let (flags, names) ← options "a" args
  if !flags.isEmpty then do
    modify fun proc => { proc with aliases := [] }
    return 0
  else do
    let mut status := 0
    for name in names do
      if Assoc.has name (← get).aliases then
        modify fun proc => { proc with aliases := Assoc.erase name proc.aliases }
      else
        warn ("unalias: ".toList ++ name ++ " not found\n".toList)
        status := 1
    return status

end JuliaSession.Shell
