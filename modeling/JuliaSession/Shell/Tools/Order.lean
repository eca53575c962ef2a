import JuliaSession.Shell.Pattern
import JuliaSession.Shell.Tools.Copying
import JuliaSession.Shell.Tools.Keys

/-!
# Lines in order

`sort` puts lines in order, by all or by parts of them (`SortKey`); `uniq` finds equal lines that
follow one another.
-/

namespace JuliaSession.Shell

/-! ### Keys -/

/-- What a key is compared by. -/
structure Ordered where
  /-- The letters of its options: `d` and `i` leave characters out, `f` passes over case, `g`, `h`,
  `M`, `n` and `V` name orders, and `r` turns the order around. -/
  letters : List Char
  /-- Are blanks before its start passed over? -/
  afterBlanks : Bool
  /-- Are blanks before its end passed over? -/
  beforeBlanks : Bool
  deriving DecidableEq, Repr

/-- The order of whole lines. -/
def Ordered.plain : Ordered := ⟨[], false, false⟩

/-- The letters of orders. -/
def orderLetters : List Char := ['d', 'f', 'g', 'h', 'i', 'M', 'n', 'r', 'V']

/-- Is nothing said about an order, but perhaps that it is turned around? -/
def Ordered.isPlain (ordered : Ordered) : Bool :=
  !ordered.afterBlanks && !ordered.beforeBlanks && ordered.letters.all (· = 'r')

/-- The part of a line that is compared: it starts at a character of a field, and ends before one or
with a field. Both are counted from 0. -/
structure SortKey where
  /-- The field that it starts in. -/
  startField : Nat
  /-- The character of the field that it starts at. -/
  startChar : Nat
  /-- The field that it ends in and the number of its characters, of which 0 means all; nothing for
  the end of the line. -/
  stop : Option (Nat × Nat)
  /-- How it is compared. -/
  ordered : Ordered
  deriving DecidableEq, Repr

/-- A line without its first fields, with the separator before the next one if that is a blank. -/
def skipFields (separator : Option Char) : Nat → ByteText → ByteText
  | 0, line => line
  | n + 1, line =>
    skipFields separator n <| match separator with
      | some c => (line.dropWhile (· ≠ c)).drop 1
      | none => (line.dropWhile isFieldBlank).dropWhile fun c => !isFieldBlank c

/-- The number of characters of a line up to the end of a key. -/
def SortKey.stopAt (key : SortKey) (separator : Option Char) (line : ByteText) : Nat :=
  match key.stop with
  | none => line.length
  | some (field, 0) =>
    let rest := skipFields separator (field + 1) line
    let passed := line.length - rest.length
    -- a separator does not belong to the field before it
    match separator with
    | some c => if passed ≠ 0 ∧ (line.drop (passed - 1)).head? = some c then passed - 1 else passed
    | none => passed
  | some (field, chars) =>
    let rest := skipFields separator field line
    let rest := if key.ordered.beforeBlanks then rest.dropWhile isFieldBlank else rest
    line.length - rest.length + min chars rest.length

/-- The part of a line that a key names. -/
def SortKey.part (key : SortKey) (separator : Option Char) (line : ByteText) : ByteText :=
  let rest := skipFields separator key.startField line
  let rest := if key.ordered.afterBlanks then rest.dropWhile isFieldBlank else rest
  let rest := rest.drop key.startChar
  rest.take (key.stopAt separator line - (line.length - rest.length))

/-- The order of the parts of two lines. -/
def Ordered.compare (ordered : Ordered) (a b : ByteText) : Ordering :=
  let has (letter : Char) : Bool := letter ∈ ordered.letters
  let seen (text : ByteText) : ByteText :=
    let kept := text.filter fun c =>
      if has 'd' then c.isAlphanum || isFieldBlank c
      else if has 'i' then 32 ≤ c.toNat && c.toNat < 127
      else true
    if has 'f' then kept.map Char.toUpper else kept
  let a := seen a
  let b := seen b
  let order :=
    if has 'n' then numberOrder a b
    else if has 'g' then generalOrder a b
    else if has 'h' then unitOrder a b
    else if has 'M' then Ord.compare (monthOf a) (monthOf b)
    else if has 'V' then versionOrder a b
    else byteOrder a b
  if has 'r' then order.swap else order

/-- The number at a place in the text of a key, which is `spec` as a whole. -/
def Call.keyNumber (call : Call) (complaint : String) (text : ByteText) :
    ShellM (Nat × ByteText) := do
  let digits := text.takeWhile Char.isDigit
  if digits.isEmpty then
    call.fail (complaint.toList ++ ": invalid count at start of ".toList ++ call.quoted text)
  return (digitsValue digits, text.drop digits.length)

/-- Read the text of a key. -/
def Call.sortKey (call : Call) (spec : ByteText) : ShellM SortKey := do
  let bad {α : Type} (words : String) : ShellM α :=
    call.fail (words.toList ++ ": invalid field specification ".toList ++ call.quoted spec)
  let isLetter (c : Char) : Bool := c = 'b' || c ∈ orderLetters
  let (field, rest) ← call.keyNumber "invalid number at field start" spec
  if field = 0 then bad "field number is zero"
  let (char, rest) ← match rest with
    | '.' :: rest => do
      let (char, rest) ← call.keyNumber "invalid number after '.'" rest
      if char = 0 then bad "character offset is zero"
      pure (char - 1, rest)
    | rest => pure (0, rest)
  let first := rest.takeWhile isLetter
  let rest := rest.drop first.length
  let (stop, last, rest) ← match rest with
    | ',' :: rest => do
      let (field, rest) ← call.keyNumber "invalid number after ','" rest
      if field = 0 then bad "field number is zero"
      let (chars, rest) ← match rest with
        | '.' :: rest => call.keyNumber "invalid number after '.'" rest
        | rest => pure (0, rest)
      let last := rest.takeWhile isLetter
      pure (some (field - 1, chars), last, rest.drop last.length)
    | rest => pure (none, [], rest)
  unless rest.isEmpty do bad "stray character in field spec"
  let letters := (first ++ last).filter (· ≠ 'b')
  return ⟨field - 1, char, stop, ⟨letters, 'b' ∈ first, 'b' ∈ last⟩⟩

/-- Complain about an order that is more than one, and end. -/
def Call.checkOrder (call : Call) (ordered : Ordered) : ShellM Unit := do
  let has (letter : Char) : Bool := letter ∈ ordered.letters
  let kinds := (['n', 'g', 'h', 'M'].filter has).length
    + (if has 'V' || has 'd' || has 'i' then 1 else 0)
  if 1 < kinds then
    -- of the characters that are left out those of `d` are more
    let shown := orderLetters.filter fun c => has c && c ≠ 'r' && !(c = 'i' && has 'd')
    call.fail ("options ".toList ++ call.ticked ('-' :: shown) ++ " are incompatible".toList)

/-! ### Sorting -/

/-- How lines are sorted. -/
structure Sorting where
  /-- The keys, of which the first that differ count. -/
  keys : List SortKey
  /-- The character between fields, if it is not a blank. -/
  separator : Option Char
  /-- Do lines with equal keys stay in their order? -/
  stable : Bool
  /-- Is only one of the lines with equal keys kept? -/
  unique : Bool
  /-- Is the order of whole lines turned around? -/
  reversed : Bool

/-- The order of two lines by their keys. -/
def Sorting.byKeys (sorting : Sorting) (a b : ByteText) : Ordering :=
  sorting.keys.foldl (fun order key =>
    order.then (key.ordered.compare (key.part sorting.separator a)
      (key.part sorting.separator b))) .eq

/-- The order of two lines. -/
def Sorting.compare (sorting : Sorting) (a b : ByteText) : Ordering :=
  let whole := if sorting.reversed then byteOrder b a else byteOrder a b
  if sorting.keys.isEmpty then whole
  else
    (sorting.byKeys a b).then (if sorting.unique || sorting.stable then .eq else whole)

/-- Lines without those that are equal to the last one that was kept. -/
def Sorting.distinct (sorting : Sorting) (lines : List ByteText) : List ByteText :=
  (lines.foldl (fun kept line =>
    match kept with
    | last :: _ => if sorting.compare last line = .eq then kept else line :: kept
    | [] => [line]) []).reverse

/-- The lines in their order. -/
def Sorting.sorted (sorting : Sorting) (lines : List ByteText) : List ByteText :=
  let found := lines.mergeSort fun a b => sorting.compare a b ≠ .gt
  if sorting.unique then sorting.distinct found else found

/-- Lines of several files in one order; each of the files is taken to be in order. -/
def Sorting.merged (sorting : Sorting) (files : List (List ByteText)) : List ByteText :=
  let found := files.foldl (fun lines file =>
    lines.merge file fun a b => sorting.compare a b ≠ .gt) []
  if sorting.unique then sorting.distinct found else found

/-- The first line that is out of order, with its number. -/
def Sorting.disorder? (sorting : Sorting) (lines : List ByteText) : Option (Nat × ByteText) :=
  ((lines.zip lines.tail).zipIdx 2).findSome? fun ((a, b), n) =>
    match sorting.compare a b with
    | .gt => some (n, b)
    | .eq => if sorting.unique then some (n, b) else none
    | .lt => none

/-- The sorting that options ask for. -/
def Call.sorting (call : Call) (given : List Given) : ShellM Sorting := do
  let order? (key : String) (value : ByteText) : ShellM (Option Char) := do
    match key.toList with
    | [c] => return if c ∈ orderLetters then some c else none
    | _ =>
      if key ≠ "sort" then return none
      return some (← call.choice "sort" [("general-numeric", 'g'), ("human-numeric", 'h'),
        ("month", 'M'), ("numeric", 'n'), ("random", 'R'), ("version", 'V')] value)
  let mut letters : List Char := []
  let mut keys : List SortKey := []
  let mut separator : Option Char := none
  for (key, value) in given do
    match ← order? key value with
    | some letter => letters := letters ++ [letter]
    | none => pure ()
    if key = "k" then keys := keys ++ [← call.sortKey value]
    if key = "t" then
      match value with
      | [] => call.fail "empty tab".toList
      | [c] => separator := some c
      | ['\\', '0'] => separator := some (Char.ofNat 0)
      | _ => call.fail ("multi-character tab ".toList ++ call.quoted value)
  let blanks := isGiven given "b"
  let whole : Ordered := ⟨letters, blanks, blanks⟩
  -- keys that say nothing about their order have that of whole lines
  let ordered := keys.map fun key =>
    if key.ordered.isPlain && key.ordered.letters.isEmpty then { key with ordered := whole }
    else key
  let used := if ordered.isEmpty && !whole.isPlain then [⟨0, 0, none, whole⟩] else ordered
  for key in used do call.checkOrder key.ordered
  return ⟨used, separator, isGiven given "s", isGiven given "u", 'r' ∈ letters⟩

/-- The lines of each operand; what cannot be read ends the tool. -/
def Call.allLines (call : Call) (ending : Char) (paths : List ByteText) :
    ShellM (List (List ByteText)) := do
  let mut files : List (List ByteText) := []
  for path in filterOperands paths do
    match ← readOperand path with
    | .ok content => files := files ++ [linesEndedBy ending content]
    | .error reason =>
      let verb := match reason with
        | .isDirectory => "read failed: "
        | .badDescriptor => "stat failed: "
        | _ => "cannot read: "
      call.fail (verb.toList ++ call.named path ++ ": ".toList ++ reasonText reason)
  return files

/-- Write lines in order, or check that they are. -/
def sortTool (name : ByteText) (args : List ByteText) : ShellM Nat := do
  let call ← callOf name
    [.flag "b" "ignore-leading-blanks", .flag "c" "", .maybe "" "check", .flag "C" "",
      .flag "d" "dictionary-order", .flag "f" "ignore-case", .value "" "files0-from",
      .flag "g" "general-numeric-sort", .flag "i" "ignore-nonprinting", .value "k" "key",
      .flag "m" "merge", .flag "M" "month-sort", .flag "n" "numeric-sort",
      .flag "h" "human-numeric-sort", .flag "V" "version-sort", .flag "R" "random-sort",
      .value "" "random-source", .value "" "sort", .value "o" "output", .flag "r" "reverse",
      .flag "s" "stable", .value "" "batch-size", .value "S" "buffer-size",
      .value "t" "field-separator", .value "T" "temporary-directory", .flag "u" "unique",
      .flag "z" "zero-terminated", .value "" "parallel", .flag "" "debug",
      .value "" "compress-program"] 2
  let (given, paths) ← call.read args
  let sorting ← call.sorting given
  let ending := if isGiven given "z" then Char.ofNat 0 else '\n'
  let checks := isAnyGiven given ["c", "C", "check"]
  let quiet ← match givenValue? given "check" with
    | some (c :: value) =>
      call.choice "check" [("quiet", true), ("silent", true), ("diagnose-first", false)]
        (c :: value)
    | _ => pure (isGiven given "C")
  if checks then
    if isGiven given "o" then
      call.fail ("options ".toList
        ++ call.ticked ('-' :: (if quiet then 'C' else 'c') :: ['o']) ++ " are incompatible".toList)
    match paths with
    | _ :: extra :: _ =>
      call.fail ("extra operand ".toList ++ call.ticked extra ++ " not allowed with -".toList
        ++ [if quiet then 'C' else 'c'])
    | _ => pure ()
  let files ← call.allLines ending paths
  if checks then
    match sorting.disorder? files.flatten with
    | none => return 0
    | some (n, line) =>
      unless quiet do
        call.warn (call.named (paths.headD ['-']) ++ ':' :: decimal n
          ++ ": disorder: ".toList ++ line)
      return 1
  else
    let lines := if isGiven given "m" then sorting.merged files else sorting.sorted files.flatten
    let text := lines.flatMap fun line => line ++ [ending]
    match givenValue? given "o" with
    | none => say text
    | some path =>
      match ← openPath .write path with
      | .error reason =>
        call.fail ("open failed: ".toList ++ call.named path ++ ": ".toList ++ reasonText reason)
      | .ok key =>
        let refused? ← withDescriptors do
          lead operandDescriptor key
          writeTo operandDescriptor text
        if let some reason := refused? then
          call.fail ("fflush failed: ".toList ++ call.named path ++ ": ".toList
            ++ reasonText reason)
    return 0

/-! ### Equal lines -/

/-- Groups of neighbours that are equal. -/
def groupsBy {α : Type} (same : α → α → Bool) (members : List α) : List (List α) :=
  ((members.foldl (fun groups member =>
    match groups with
    | (last :: group) :: rest =>
      if same last member then (member :: last :: group) :: rest
      else [member] :: (last :: group) :: rest
    | _ => [member] :: groups) ([] : List (List α))).map List.reverse).reverse

/-- Where empty lines are written between groups. -/
structure GroupMarks where
  /-- Before the first group? -/
  atStart : Bool
  /-- Between groups? -/
  between : Bool
  /-- After the last group? -/
  atEnd : Bool
  deriving DecidableEq, Repr

/-- Old options for the numbers of fields and characters to pass over, as options of today. -/
def oldSkips (args : List ByteText) : List ByteText :=
  args.flatMap fun arg =>
    match arg with
    | sign :: c :: rest =>
      if (sign = '-' ∨ sign = '+') ∧ (c :: rest).all Char.isDigit then
        [if sign = '-' then ['-', 'f'] else ['-', 's'], c :: rest]
      else [arg]
    | _ => [arg]

/-- Write one of equal lines that follow one another. -/
def uniqTool (name : ByteText) (args : List ByteText) : ShellM Nat := do
  let call ← callOf name
    [.flag "c" "count", .flag "d" "repeated", .flag "D" "", .maybe "" "all-repeated",
      .maybe "" "group", .flag "i" "ignore-case", .flag "u" "unique", .value "f" "skip-fields",
      .value "s" "skip-chars", .value "w" "check-chars", .flag "z" "zero-terminated"] 1
  let (given, words) ← call.read (oldSkips args)
  call.limitOperands 2 words
  let number (key what : String) : ShellM (Option Nat) := do
    match givenValue? given key with
    | none => return none
    | some value =>
      if value.isEmpty || !value.all Char.isDigit then
        call.fail (value ++ (": invalid number of " ++ what).toList)
      return some (digitsValue value)
  let fields := (← number "f" "fields to skip").getD 0
  let chars := (← number "s" "bytes to skip").getD 0
  let most? ← number "w" "bytes to compare"
  let unmarked : GroupMarks := ⟨false, false, false⟩
  let allMarks ← match givenValue? given "all-repeated" with
    | some (c :: value) =>
      call.choice "all-repeated" [("none", unmarked), ("prepend", ⟨true, true, false⟩),
        ("separate", ⟨false, true, false⟩)] (c :: value)
    | _ => pure unmarked
  let groupMarks ← match givenValue? given "group" with
    | some (c :: value) =>
      call.choice "group" [("prepend", ⟨true, true, false⟩), ("append", ⟨false, true, true⟩),
        ("separate", ⟨false, true, false⟩), ("both", ⟨true, true, true⟩)] (c :: value)
    | _ => pure ⟨false, true, false⟩
  let all := isAnyGiven given ["D", "all-repeated"]
  let grouping := isGiven given "group"
  if grouping && (all || isAnyGiven given ["c", "d", "u"]) then
    call.refuse "--group is mutually exclusive with -c/-d/-D/-u".toList
  if all && isGiven given "c" then
    call.refuse "printing all duplicated lines and repeat counts is meaningless".toList
  let ending := if isGiven given "z" then Char.ofNat 0 else '\n'
  let keyOf (line : ByteText) : ByteText :=
    let key := (skipFields none fields line).drop chars
    let key := match most? with
      | some most => key.take most
      | none => key
    if isGiven given "i" then key.map Char.toUpper else key
  let shown (groups : List (List ByteText)) : ByteText :=
    let wanted := groups.map fun group =>
      match group with
      | [line] => if grouping || !(all || isGiven given "d") then (1, [line]) else (1, [])
      | first :: others =>
        (group.length, (if isGiven given "u" then [] else [first])
          ++ if grouping || all then others else [])
      | [] => (0, [])
    let marks := if grouping then groupMarks else if all then allMarks else unmarked
    let texts := (wanted.filter fun group => !group.2.isEmpty).map fun (count, lines) =>
      (if isGiven given "c" then inColumn 7 count ++ [' '] else [])
        ++ lines.flatMap fun line => line ++ [ending]
    if texts.isEmpty then []
    else
      (if marks.atStart then [ending] else [])
        ++ Text.joinWith (if marks.between then [ending] else []) texts
        ++ (if marks.atEnd then [ending] else [])
  let groupsOf (text : ByteText) : List (List ByteText) :=
    groupsBy (fun a b => keyOf a = keyOf b) (linesEndedBy ending text)
  let input := words.headD ['-']
  -- the last group may go on
  let early (text : ByteText) : ByteText := shown (groupsOf (completeLines ending text)).dropLast
  match words[1]? with
  | none | some ['-'] =>
    match ← readEarly early input with
    | .ok text => do
      say (shown (groupsOf text))
      return 0
    | .error reason => refused call input reason
  | some output =>
    match ← readOperand input with
    | .error reason => refused call input reason
    | .ok text =>
      match ← writePath .write output (shown (groupsOf text)) with
      | none => return 0
      | some .noSpace => call.fail ("write error: ".toList ++ reasonText .noSpace)
      | some reason => call.fail (call.named output ++ ": ".toList ++ reasonText reason)
where
  /-- Complain about an input that cannot be read. -/
  refused (call : Call) (path : ByteText) (reason : Errno) : ShellM Nat := do
    call.warn (match reason with
      | .isDirectory | .badDescriptor =>
        "error reading ".toList ++ call.ticked path ++ ": ".toList ++ reasonText reason
      | reason => call.named path ++ ": ".toList ++ reasonText reason)
    return 1

end JuliaSession.Shell
