import JuliaSession.Shell.Format
import JuliaSession.Shell.Tools.Input

/-!
# Tools for the ends of texts

`head` writes the start of its operands and `tail` their end: a number of lines or bytes, or all but
that many. A start that has come is written although more may come.
-/

namespace JuliaSession.Shell

/-- How much of a text is asked for. -/
structure Extent where
  /-- Are bytes counted, and not lines? -/
  bytes : Bool
  /-- Is the rest of the text asked for, seen from its other end? -/
  rest : Bool
  /-- The number of lines or bytes. -/
  count : Nat
  deriving DecidableEq, Repr

/-- The number of bytes of the first lines of a text, of which `passed` were passed over; nothing if
there are fewer lines. -/
def afterLines (ending : Char) : Nat → Nat → ByteText → Option Nat
  | 0, passed, _ => some passed
  | _ + 1, _, [] => none
  | lines + 1, passed, c :: rest =>
    afterLines ending (if c = ending then lines else lines + 1) (passed + 1) rest

/-- The number of lines of a text; a last line without an end counts. -/
def lineCount (ending : Char) (text : ByteText) : Nat :=
  text.count ending + (if text.getLast?.any (· ≠ ending) then 1 else 0)

/-- The number of bytes of the first lines of a text, or of all of it. -/
def lineBytes (ending : Char) (lines : Nat) (text : ByteText) : Nat :=
  (afterLines ending lines 0 text).getD text.length

/-- The number of bytes before the end of a text that an extent asks for, counted from the start. -/
def Extent.before (extent : Extent) (ending : Char) (text : ByteText) : Nat :=
  if extent.bytes then text.length - extent.count
  else lineBytes ending (lineCount ending text - extent.count) text

/-- The number of bytes at the start of a text that an extent asks for. -/
def Extent.within (extent : Extent) (ending : Char) (text : ByteText) : Nat :=
  if extent.rest then extent.before ending text
  else if extent.bytes then min extent.count text.length
  else lineBytes ending extent.count text

/-- Are titles written before texts: always, never, or if there are several? -/
def showsTitles (given : List Given) (paths : List ByteText) : Bool :=
  match lastGiven? given ["q", "v"] with
  | some (key, _) => key = "v"
  | none => 1 < paths.length

/-- The name of an operand in titles and complaints. -/
def titleOf (path : ByteText) : ByteText :=
  if path = ['-'] then "standard input".toList else path

/-- Write a title before a text, after an empty line if it is not the first one. -/
def sayTitle (isFirst : Bool) (path : ByteText) : ShellM Unit :=
  say ((if isFirst then [] else ['\n']) ++ "==> ".toList ++ titleOf path ++ " <==\n".toList)

/-- Do steps for each operand at its descriptor, after its title; `lost` is the complaint about an
input that was never open. -/
def Call.parts (call : Call) (lost : String) (titled : Bool)
    (steps : Nat → ShellM (Except Errno Unit)) (paths : List ByteText) : ShellM Nat := do
  let mut status := 0
  let mut isFirst := true
  for path in paths do
    let shows := isFirst
    let opened ← withOperand path fun descriptor => do
      if titled then sayTitle shows path
      return .ok (← steps descriptor)
    match opened with
    | .ok found =>
      isFirst := false
      if let .error reason := found then
        let verb := if reason = .badDescriptor then lost else "error reading "
        call.warn (verb.toList ++ call.ticked (titleOf path) ++ ": ".toList
          ++ reasonText reason)
        status := 1
    | .error reason =>
      call.warn ("cannot open ".toList ++ call.ticked path ++ " for reading: ".toList
        ++ reasonText reason)
      status := 1
  call.closeInput paths status

/-- The extent that options ask for, of several the last. A number may start with the `sign` that
asks for the rest of a text, or with one of the signs that mean nothing. -/
def Call.extent (call : Call) (sign : Char) (others : List Char) (given : List Given) :
    ShellM Extent := do
  let mut found : Extent := ⟨false, false, 10⟩
  for (key, value) in given do
    if key = "n" ∨ key = "c" then
      let bytes := key = "c"
      let rest := value.head? = some sign
      let number := if rest || value.head?.any (· ∈ others) then value.tail else value
      let complaint := if bytes then "invalid number of bytes" else "invalid number of lines"
      -- the sign of a number that means nothing belongs to a complaint about it
      let shown := if value.head? = some '+' then value else number
      match amount number with
      | .ok count => found := ⟨bytes, rest, count⟩
      | .error _ => let _ ← call.amountOf complaint shown
  return found

/-! ### Starts -/

/-- The number of bytes that are read at a time in search of lines. -/
def searchSize : Nat := 8192

/-- Write the start of what a descriptor leads to. What was read in search of lines is lost for
others, if it does not come from a file. -/
def writeStart (extent : Extent) (ending : Char) (descriptor : Nat) :
    ShellM (Except Errno Unit) := do
  match ← peek descriptor with
  | .error reason => return .error reason
  | .ok (text, complete) => do
    let enough := !extent.rest &&
      (if extent.bytes then extent.count ≤ text.length
        else (afterLines ending extent.count 0 text).isSome)
    let size := extent.within ending text
    if !complete && !enough then
      say (wholeBlocks (if extent.rest then text.take size else text))
      throw .waiting
    say (text.take size)
    let searched := (size + searchSize - 1) / searchSize * searchSize
    advance descriptor <| match (← get).stream? descriptor with
      | some (_, .file ..) => size
      | _ =>
        if extent.rest then text.length else if extent.bytes then size
        else min searched text.length
    return .ok ()

/-- The old form of options, a hyphen, a number and letters, as options of today. -/
def Call.oldStart (call : Call) (args : List ByteText) : ShellM (List ByteText) := do
  match args with
  | ('-' :: c :: word) :: rest =>
    if !c.isDigit then return args
    let digits := (c :: word).takeWhile Char.isDigit
    let letters := (c :: word).drop digits.length
    let mut bytes := false
    let mut unit : ByteText := []
    let mut others : List ByteText := []
    for letter in letters do
      match letter with
      | 'c' =>
        bytes := true
        unit := []
      | 'b' | 'k' | 'm' =>
        bytes := true
        unit := [letter]
      | 'l' => bytes := false
      | 'q' | 'v' | 'z' => others := others ++ [['-', letter]]
      | letter => call.refuse ("invalid trailing option -- ".toList ++ [letter])
    return (if bytes then ['-', 'c'] else ['-', 'n']) :: (digits ++ unit) :: others ++ rest
  | _ => return args

/-- The digits, which are no options of their own. -/
def digitOptions : Known := .flag "0123456789" ""

/-- Write the start of files: a number of lines or bytes, or all but the last ones. -/
def headTool (name : ByteText) (args : List ByteText) : ShellM Nat := do
  let call ← callOf name
    [.value "c" "bytes", .value "n" "lines", .flag "q" "quiet", .flag "q" "silent",
      .flag "v" "verbose", .flag "z" "zero-terminated", digitOptions] 1
  let (given, words) ← call.read (← call.oldStart args)
  if let some digit := givenValue? given "0" then
    call.refuse ("invalid trailing option -- ".toList ++ digit)
  let paths := filterOperands words
  let ending := if isGiven given "z" then Char.ofNat 0 else '\n'
  let extent ← call.extent '-' [] given
  call.parts "error reading " (showsTitles given paths) (writeStart extent ending) paths

/-! ### Ends -/

/-- Write the end of what a descriptor leads to. -/
def writeEnd (extent : Extent) (ending : Char) (descriptor : Nat) :
    ShellM (Except Errno Unit) := do
  let part (text : ByteText) : ByteText :=
    if !extent.rest then text.drop (extent.before ending text)
    -- the rest starts at the line or byte with the number
    else if extent.bytes then text.drop (extent.count - 1)
    else text.drop (lineBytes ending (extent.count - 1) text)
  match ← readWith (fun text => if extent.rest then wholeBlocks (part text) else []) descriptor with
  | .error reason => return .error reason
  | .ok text => do
    say (part text)
    return .ok ()

/-- The old form of options, a sign, a number and letters before at most one operand, as options of
today. -/
def oldEnd (args : List ByteText) : List ByteText :=
  match args with
  | word :: rest =>
    let isAlone := match rest with
      | [] => true
      | [path] => path.head? ≠ some '-' || path = ['-']
      | ['-', '-'] :: more => more.length ≤ 1
      | _ => false
    match word with
    | sign :: more =>
      let digits := more.takeWhile Char.isDigit
      let (unit, more) := match more.drop digits.length with
        | 'b' :: more => ("b", more)
        | 'c' :: more => ("c", more)
        | 'l' :: more => ("l", more)
        | more => ("", more)
      -- a single letter is an option of today if it takes a value or no number
      let isOld := (more = [] ∨ more = ['f']) ∧ (sign = '+' ∨
        (sign = '-' ∧ word.length ≠ 1 ∧ word ≠ "-c".toList))
      if isAlone ∧ isOld then
        let number := if digits.isEmpty then ['1', '0'] else digits
        let number := if unit = "b" then decimal (digitsValue number * 512) else number
        let signed := if sign = '+' then '+' :: number else number
        (if unit = "b" ∨ unit = "c" then ['-', 'c'] else ['-', 'n']) :: signed
          :: (if more = ['f'] then [['-', 'f']] else []) ++ rest
      else args
    | [] => args
  | [] => args

/-- Write the end of files: a number of lines or bytes, or all from one on. -/
def tailTool (name : ByteText) (args : List ByteText) : ShellM Nat := do
  let call ← callOf name
    [.value "c" "bytes", .maybe "" "follow", .value "n" "lines",
      .value "" "max-unchanged-stats", .value "" "pid", .flag "q" "quiet", .flag "" "retry",
      .flag "q" "silent", .value "s" "sleep-interval", .flag "v" "verbose",
      .flag "z" "zero-terminated", .flag "f" "", .flag "F" "", digitOptions] 1
  let (given, words) ← call.read (oldEnd args)
  if let some digit := givenValue? given "0" then
    call.fail ("option used in invalid context -- ".toList ++ digit)
  if let some (_ :: _) := givenValue? given "follow" then
    let _ ← call.choice "follow" [("descriptor", false), ("name", true)]
      ((givenValue? given "follow").getD [])
  let paths := filterOperands words
  let ending := if isGiven given "z" then Char.ofNat 0 else '\n'
  let extent ← call.extent '+' ['-'] given
  if let some value := givenValue? given "s" then
    if (fraction? value).all fun found => !found.2.isEmpty then
      call.fail ("invalid number of seconds: ".toList ++ call.quoted value)
  if let some value := givenValue? given "pid" then
    unless !value.isEmpty && value.all Char.isDigit do
      call.fail ("invalid PID: ".toList ++ call.quoted value)
  let follows := isAnyGiven given ["f", "F", "follow"]
  if isGiven given "retry" && !follows then
    call.warn "warning: --retry ignored; --retry is useful only when following".toList
  if isGiven given "pid" && !follows then
    call.warn "warning: PID ignored; --pid=PID is useful only when following".toList
  let status ← call.parts "cannot fstat " (showsTitles given paths) (writeEnd extent ending)
    paths
  if follows then
    let proc ← get
    -- the end of a pipe is its end
    let remains := paths.any fun path =>
      if path = ['-'] then
        match proc.stream? 0 with
        | some (_, .file ..) => true
        | _ => false
      else isGiven given "F" || proc.shared.files.isFile proc.cwd (asString path)
    if remains then throw .waiting
    for path in paths do
      if proc.shared.files.isDirectory proc.cwd (asString path) then
        call.warn (call.named path
          ++ ": cannot follow end of this type of file; giving up on this name".toList)
    unless paths.contains ['-'] do
      call.warn "no files remaining".toList
  return status

end JuliaSession.Shell
