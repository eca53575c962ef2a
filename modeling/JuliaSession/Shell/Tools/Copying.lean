import JuliaSession.Shell.Tools.Input

/-!
# Tools that copy texts

`cat` writes its operands one after the other, as they are or in a form that shows their lines and
characters (`CatStyle`); `tee` writes its input to several files.
-/

namespace JuliaSession.Shell

/-- A number at the right of a column, with blanks before it. -/
def inColumn (width n : Nat) : ByteText :=
  let digits := decimal n
  List.replicate (width - digits.length) ' ' ++ digits

/-! ### Files one after the other -/

/-- How texts are shown. -/
structure CatStyle where
  /-- Are lines numbered? -/
  numbers : Bool
  /-- Are empty lines left out when lines are numbered? -/
  onlyFilled : Bool
  /-- Are empty lines after an empty line left out? -/
  squeezes : Bool
  /-- Are ends of lines marked? -/
  ends : Bool
  /-- Are tabs written as controls? -/
  tabs : Bool
  /-- Are controls, and bytes that are not of ASCII, written in signs? -/
  controls : Bool
  deriving DecidableEq, Repr

/-- The style that options ask for. -/
def CatStyle.ofGiven (given : List Given) : CatStyle where
  numbers := isAnyGiven given ["n", "b"]
  onlyFilled := isGiven given "b"
  squeezes := isGiven given "s"
  ends := isAnyGiven given ["E", "e", "A"]
  tabs := isAnyGiven given ["T", "t", "A"]
  controls := isAnyGiven given ["v", "e", "t", "A"]

/-- Are texts shown as they are? -/
def CatStyle.isPlain (style : CatStyle) : Bool := style = ⟨false, false, false, false, false, false⟩

/-- A byte of ASCII in signs. -/
def asciiSigns (n : Nat) : ByteText :=
  if n < 32 then ['^', Char.ofNat (n + 64)] else if n = 127 then ['^', '?'] else [Char.ofNat n]

/-- A byte inside a line as it is shown. -/
def CatStyle.shown (style : CatStyle) (c : Char) : ByteText :=
  let n := c.toNat
  if c = '\t' then if style.tabs then ['^', 'I'] else [c]
  else if !style.controls then [c]
  else if n < 128 then asciiSigns n
  else 'M' :: '-' :: asciiSigns (n - 128)

/-- Where in a text `cat` is. -/
structure CatPlace where
  /-- The number of lines that were numbered. -/
  numbered : Nat
  /-- Is this inside a line? -/
  inLine : Bool
  /-- The number of empty lines just before, 2 at most. -/
  empties : Nat
  /-- What was written, the last byte first. -/
  written : ByteText

/-- Show the next byte of a text. -/
def CatStyle.step (style : CatStyle) (place : CatPlace) (c : Char) : CatPlace :=
  let number : ByteText := inColumn 6 (place.numbered + 1) ++ ['\t']
  if c = '\n' then
    let empties := if place.inLine then 0 else min 2 (place.empties + 1)
    if style.squeezes && empties = 2 then { place with empties }
    else
      let numbers := !place.inLine && style.numbers && !style.onlyFilled
      let before := match style.ends && !style.controls, place.written with
        | true, '\r' :: before => 'M' :: '^' :: before
        | _, before => before
      let start := if numbers then number.reverse else []
      let mark := if style.ends then ['$'] else []
      ⟨place.numbered + (if numbers then 1 else 0), false, empties,
        '\n' :: mark ++ start ++ before⟩
  else
    let numbers := !place.inLine && style.numbers
    let start := if numbers then number.reverse else []
    ⟨place.numbered + (if numbers then 1 else 0), true, 0,
      (style.shown c).reverse ++ start ++ place.written⟩

/-- Show a text from a place on: what is written, and the place after it. -/
def CatStyle.render (style : CatStyle) (place : CatPlace) (text : ByteText) : ByteText × CatPlace :=
  let after := text.foldl style.step { place with written := [] }
  (after.written.reverse, after)

/-- Would a file be written while it is read, without end? -/
def feedsItself (proc : Proc) (descriptor : Nat) : Bool :=
  match proc.stream? 1, proc.stream? descriptor with
  | some (_, .file target written atEnd _ _), some (_, .file source offset _ _ _) =>
    target = source &&
      offset < (if atEnd then
          match proc.shared.files.read "/" target with
          | .ok content => content.length
          | .error _ => 0
        else written)
  | _, _ => false

/-- Write files one after the other. -/
def catTool (name : ByteText) (args : List ByteText) : ShellM Nat := do
  let call ← callOf name
    [.flag "b" "number-nonblank", .flag "n" "number", .flag "s" "squeeze-blank",
      .flag "v" "show-nonprinting", .flag "E" "show-ends", .flag "T" "show-tabs",
      .flag "A" "show-all", .flag "e" "", .flag "t" "", .flag "u" ""] 1
  let (given, paths) ← call.read args
  let style := CatStyle.ofGiven given
  if ((← get).stream? 1).isNone then
    call.fail ("standard output: ".toList ++ reasonText .badDescriptor)
  let mut place : CatPlace := ⟨0, false, 0, []⟩
  let mut status := 0
  for path in filterOperands paths do
    let start := place
    let early (text : ByteText) : ByteText :=
      if style.isPlain then text else wholeBlocks (style.render start text).1
    let found ← withOperand path fun descriptor => do
      if feedsItself (← get) descriptor then return .ok none
      return (← readWith early descriptor).map some
    match found with
    | .ok (some text) =>
      if style.isPlain then say text
      else
        let (shown, after) := style.render place text
        say shown
        place := after
    | .ok none =>
      call.warn (call.named path ++ ": input file is output file".toList)
      status := 1
    | .error reason =>
      call.warn (call.named path ++ ": ".toList ++ reasonText reason)
      status := 1
  if ['-'] ∈ filterOperands paths then
    if ((← get).stream? 0).isNone then
      call.fail ("closing standard input: ".toList ++ reasonText .badDescriptor)
  return status

/-! ### One text to several files -/

/-- What is done when an output cannot be written. -/
inductive OnRefusal where
  /-- A complaint. -/
  | warn
  /-- A complaint, but not about pipes. -/
  | warnButPipes
  /-- A complaint, and the end. -/
  | exit
  /-- A complaint and the end, but not about pipes. -/
  | exitButPipes
  deriving DecidableEq, Repr

/-- The number of bytes that are passed on at a time. -/
def teeSize : Nat := 8192

/-- A text in pieces of a size; `fuel` bounds their number. -/
def chunksOf (size : Nat) : Nat → ByteText → List ByteText
  | 0, _ => []
  | fuel + 1, text =>
    if text.isEmpty then [] else text.take size :: chunksOf size fuel (text.drop size)

/-- Write the input to files and to the output. -/
def teeTool (name : ByteText) (args : List ByteText) : ShellM Nat := do
  let call ← callOf name
    [.flag "a" "append", .flag "i" "ignore-interrupts", .flag "p" "",
      .maybe "" "output-error"] 1
  let (given, paths) ← call.read args
  match givenValue? given "output-error" with
  | none | some [] => pure ()
  | some mode =>
    let _ ← call.choice "output-error" [("warn", OnRefusal.warn), ("warn-nopipe", .warnButPipes),
      ("exit", .exit), ("exit-nopipe", .exitButPipes)] mode
  let mut status := 0
  let mut outputs : List (Nat × ByteText) := []
  for path in paths do
    match ← openPath (if isGiven given "a" then .append else .write) path with
    | .ok key => outputs := outputs ++ [(key, path)]
    | .error reason =>
      call.warn (call.named path ++ ": ".toList ++ reasonText reason)
      status := 1
  match ← peek 0 with
  | .error reason =>
    call.warn ("read error: ".toList ++ reasonText reason)
    status := 1
  | .ok (text, complete) =>
    let mut refused : List ByteText := []
    for chunk in chunksOf teeSize (text.length / teeSize + 1) text do
      let standard := "standard output".toList
      unless standard ∈ refused do
        if let some reason ← writeTo 1 chunk then
          call.warn (call.ticked standard ++ ": ".toList ++ reasonText reason)
          refused := standard :: refused
          status := 1
      for (key, path) in outputs do
        let refused? ← withDescriptors do
          lead operandDescriptor key
          if path ∈ refused then pure none else writeTo operandDescriptor chunk
        if let some reason := refused? then
          call.warn (call.named path ++ ": ".toList ++ reasonText reason)
          refused := path :: refused
          status := 1
    if !complete then throw .waiting
    advance 0 text.length
  return status

end JuliaSession.Shell
