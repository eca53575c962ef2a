import JuliaSession.Shell.Opening
import JuliaSession.Shell.Tools.Quoting

/-!
# Calling tools

How a tool reads its arguments: options may stand anywhere before `--`, letters may share a word,
some take a value, and a long name may be cut short as long as it stays the only one. A tool that is
called in another way says so and ends.
-/

namespace JuliaSession.Shell

/-- An option that a tool knows, with its letters and its long name; either may be missing. -/
inductive Known where
  /-- An option without a value. -/
  | flag (letters name : String)
  /-- An option with a value. -/
  | value (letters name : String)
  /-- An option that may have a value, in the same word. -/
  | maybe (letters name : String)
  deriving Repr

/-- The letters of an option. -/
def Known.letters : Known → String
  | flag letters _ | value letters _ | maybe letters _ => letters

/-- The long name of an option. -/
def Known.name : Known → String
  | flag _ name | value _ name | maybe _ name => name

/-- What an option is asked for by: its first letter, or its long name if it has none. -/
def Known.key (known : Known) : String :=
  if known.letters.isEmpty then known.name else String.ofList (known.letters.toList.take 1)

/-- How a tool is called. -/
structure Call where
  /-- The name it was called by. -/
  name : ByteText
  /-- The options that it knows. -/
  known : List Known
  /-- The status after a call in another way. -/
  misused : Nat
  /-- The characters of its texts. -/
  charset : Charset

/-- A call of a tool that ends with status `misused` if it is called in another way. -/
def callOf (name : ByteText) (known : List Known) (misused : Nat) : ShellM Call := do
  return ⟨name, known, misused, (← get).charset⟩

/-- An option that was given, by its key, with its value. The value of an option without one is the
letter it was given by. -/
abbrev Given := String × ByteText

/-- Write a complaint of a tool. -/
def Call.warn (call : Call) (words : ByteText) : ShellM Unit :=
  Shell.warn (call.name ++ ": ".toList ++ words ++ ['\n'])

/-- Complain and end. -/
def Call.fail {α : Type} (call : Call) (words : ByteText) : ShellM α := do
  call.warn words
  throw (.exit call.misused)

/-- Say where to find out how the tool is called, and end. -/
def Call.seeHelp {α : Type} (call : Call) : ShellM α := do
  Shell.warn ("Try '".toList ++ call.name ++ " --help' for more information.\n".toList)
  throw (.exit call.misused)

/-- Complain about the way the tool is called, and end. -/
def Call.refuse {α : Type} (call : Call) (words : ByteText) : ShellM α := do
  call.warn words
  call.seeHelp

/-- A text between quotes. -/
def Call.quoted (call : Call) (text : ByteText) : ByteText := inQuotes call.charset text

/-- A name between quotes that a shell takes away. -/
def Call.ticked (call : Call) (text : ByteText) : ByteText := inTicks call.charset text

/-- A name that stands before a colon. -/
def Call.named (call : Call) (text : ByteText) : ByteText := quotedName call.charset text

/-- An option between quotes, as it was given. -/
def inPlainQuotes (text : ByteText) : ByteText := '\'' :: text ++ ['\'']

/-! ### Options -/

/-- The options that every tool knows. -/
def commonOptions : List Known := [.flag "" "help", .flag "" "version"]

/-- An option that was given; one that every tool knows ends it. -/
def Call.give (_ : Call) (known : Known) (value : ByteText) : ShellM Given := do
  if known.key = "help" ∨ known.key = "version" then throw (.exit 0)
  return (known.key, value)

/-- Read the options in one word; the last one may take its value from the words left. -/
def Call.letters (call : Call) : ByteText → List ByteText → ShellM (List Given × List ByteText)
  | [], rest => return ([], rest)
  | c :: more, rest =>
    match call.known.find? fun known => c ∈ known.letters.toList with
    | none => call.refuse ("invalid option -- ".toList ++ inPlainQuotes [c])
    | some (.flag letters name) => do
      let found ← call.give (.flag letters name) [c]
      let (later, rest) ← call.letters more rest
      return (found :: later, rest)
    | some (.maybe letters name) => do
      return ([← call.give (.maybe letters name) more], rest)
    | some (.value letters name) =>
      match more, rest with
      | [], [] => call.refuse ("option requires an argument -- ".toList ++ inPlainQuotes [c])
      | [], value :: rest => do return ([← call.give (.value letters name) value], rest)
      | value, rest => do return ([← call.give (.value letters name) value], rest)

/-- The options whose long names a word may stand for. -/
def Call.candidates (call : Call) (name : ByteText) : List Known :=
  let all := (call.known ++ commonOptions).filter fun known => !known.name.isEmpty
  match all.find? fun known => known.name.toList = name with
  | some known => [known]
  | none => all.filter fun known => Text.startsWith known.name.toList name

/-- Read an option by its long name, given without its hyphens. -/
def Call.longOption (call : Call) (word : ByteText) (rest : List ByteText) :
    ShellM (Given × List ByteText) := do
  let name := word.takeWhile (· ≠ '=')
  let shown (name : ByteText) : ByteText := inPlainQuotes ('-' :: '-' :: name)
  let value? : Option ByteText := (word.drop name.length).tail?
  match call.candidates name with
  | [] => call.refuse ("unrecognized option ".toList ++ shown word)
  | known :: others =>
    if others.any fun other => other.key ≠ known.key then
      call.refuse ("option ".toList ++ shown word ++ " is ambiguous; possibilities:".toList
        ++ (known :: others).flatMap fun known => ' ' :: shown known.name.toList)
    else
      match known, value?, rest with
      | .flag .., some _, _ =>
        call.refuse ("option ".toList ++ shown known.name.toList
          ++ " doesn't allow an argument".toList)
      | .value .., none, [] =>
        call.refuse ("option ".toList ++ shown known.name.toList
          ++ " requires an argument".toList)
      | .value .., none, value :: rest => return (← call.give known value, rest)
      | known, value?, rest => return (← call.give known (value?.getD []), rest)

/-- The options and operands of a call. Options stand before operands if `inOrder`, otherwise also
between and after them; `fuel` bounds the number of words. -/
def Call.readWithin (call : Call) (inOrder : Bool) :
    Nat → List ByteText → ShellM (List Given × List ByteText)
  | 0, args => return ([], args)
  | fuel + 1, args =>
    match args with
    | [] => return ([], [])
    | ['-', '-'] :: rest => return ([], rest)
    | ('-' :: '-' :: word) :: rest => do
      let (found, rest) ← call.longOption word rest
      let (later, words) ← call.readWithin inOrder fuel rest
      return (found :: later, words)
    | ('-' :: c :: more) :: rest => do
      let (found, rest) ← call.letters (c :: more) rest
      let (later, words) ← call.readWithin inOrder fuel rest
      return (found ++ later, words)
    | word :: rest =>
      if inOrder then return ([], word :: rest)
      else do
        let (later, words) ← call.readWithin inOrder fuel rest
        return (later, word :: words)

/-- The options and operands of a call. -/
def Call.read (call : Call) (args : List ByteText) : ShellM (List Given × List ByteText) :=
  call.readWithin false (args.length + 1) args

/-- The options and operands of a call whose options end at the first operand. -/
def Call.readInOrder (call : Call) (args : List ByteText) :
    ShellM (List Given × List ByteText) :=
  call.readWithin true (args.length + 1) args

/-- The status of the steps of a tool, or `failed` after a complaint if its output could not be
written; `words` says what it complains. -/
def reportingOutput (failed : Nat) (words : ByteText → List ByteText) (name : ByteText)
    (steps : ShellM Nat) : ShellM Nat := do
  modify fun proc => { proc with outputFault := none }
  let status ← steps
  match (← get).outputFault with
  | none => return status
  | some reason => do
    for line in words reason.wording.toList do
      warn (name ++ ": ".toList ++ line ++ ['\n'])
    modify fun proc => { proc with outputFault := none }
    return failed

/-- Is an option given? -/
def isGiven (given : List Given) (key : String) : Bool := given.any fun option => option.1 = key

/-- Is one of these options given? -/
def isAnyGiven (given : List Given) (keys : List String) : Bool := keys.any (isGiven given)

/-- The value of an option, of several the last. -/
def givenValue? (given : List Given) (key : String) : Option ByteText :=
  (given.reverse.find? fun option => option.1 = key).map Prod.snd

/-- Of these options the one that was given last. -/
def lastGiven? (given : List Given) (keys : List String) : Option Given :=
  given.reverse.find? fun option => option.1 ∈ keys

/-- Complain about operands after the first `most` ones, and end. -/
def Call.limitOperands (call : Call) (most : Nat) (words : List ByteText) : ShellM Unit :=
  match words.drop most with
  | [] => pure ()
  | extra :: _ => call.refuse ("extra operand ".toList ++ call.quoted extra)

/-- The wording of a fault, as a text. -/
def reasonText (reason : Errno) : ByteText := reason.wording.toList

/-- Do a step for each operand; the status is 1 if one of the steps failed. -/
def forOperands (paths : List ByteText) (step : ByteText → ShellM Bool) : ShellM Nat := do
  let mut status := 0
  for path in paths do
    if !(← step path) then status := 1
  return status

/-! ### Choices and amounts -/

/-- The value of an option among words, which may be cut short as long as what they mean stays the
same. -/
def Call.choice {α : Type} [DecidableEq α] (call : Call) (name : String)
    (choices : List (String × α)) (value : ByteText) : ShellM α := do
  let complain (kind : String) : ShellM α := do
    call.warn ((kind ++ " argument ").toList ++ call.quoted value ++ " for ".toList
      ++ call.quoted ("--" ++ name).toList)
    Shell.warn "Valid arguments are:\n".toList
    let mut before : Option α := none
    let mut text : ByteText := []
    for (word, meaning) in choices do
      if before = some meaning then text := text ++ ", ".toList ++ call.quoted word.toList
      else
        text := text ++ (if before.isSome then ['\n'] else []) ++ "  - ".toList
          ++ call.quoted word.toList
      before := some meaning
    Shell.warn (text ++ ['\n'])
    { call with misused := 1 }.seeHelp
  match choices.find? fun choice => choice.1.toList = value with
  | some choice => return choice.2
  | none =>
    match choices.filter fun choice => Text.startsWith choice.1.toList value with
    | [] => complain "invalid"
    | choice :: others =>
      if others.any fun other => other.2 ≠ choice.2 then complain "ambiguous" else return choice.2

/-- The powers that letters after an amount stand for. -/
def unitLetters : List Char := ['K', 'M', 'G', 'T', 'P', 'E', 'Z', 'Y', 'R', 'Q']

/-- The factor that the text after an amount stands for. -/
def unitFactor? (unit : ByteText) : Option Nat :=
  match unit with
  | [] => some 1
  | ['b'] => some 512
  | c :: rest =>
    let c := if c = 'k' ∨ c = 'm' then c.toUpper else c
    match unitLetters.idxOf? c with
    | none => none
    | some power =>
      match rest with
      | [] | ['i', 'B'] => some (Nat.pow 1024 (power + 1))
      | ['B'] => some (Nat.pow 1000 (power + 1))
      | _ => none

/-- The largest amount. -/
def largestAmount : Nat := Nat.pow 2 64 - 1

/-- An amount with its unit; if it is none, whether that is because it is too large. -/
def amount (text : ByteText) : Except Bool Nat :=
  let text := text.dropWhile fun c => c = ' ' || (9 ≤ c.toNat && c.toNat ≤ 13)
  let text := match text with
    | '+' :: c :: rest => if c.isDigit then c :: rest else text
    | _ => text
  let digits := text.takeWhile Char.isDigit
  let unit := text.drop digits.length
  if text.isEmpty then .error false
  else
    match unitFactor? unit with
    | none => .error false
    | some factor =>
      let n := (if digits.isEmpty then 1 else digitsValue digits) * factor
      if n ≤ largestAmount then .ok n else .error true

/-- The amount that a text says; otherwise the tool complains about an invalid number of `things`,
and ends. -/
def Call.amountOf (call : Call) (complaint : String) (text : ByteText) : ShellM Nat := do
  match amount text with
  | .ok n => return n
  | .error tooLarge =>
    call.fail ((complaint ++ ": ").toList ++ call.quoted text
      ++ (if tooLarge then ": Value too large for defined data type".toList else []))

end JuliaSession.Shell
