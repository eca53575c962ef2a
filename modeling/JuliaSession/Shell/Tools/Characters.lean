import JuliaSession.Shell.Format
import JuliaSession.Shell.Pattern
import JuliaSession.Shell.Tools.Input

/-!
# Characters

`tr` replaces, removes or squeezes characters of its input. Its sets of characters are lists of
items (`SetItem`): characters, ranges, classes and repetitions.
-/

namespace JuliaSession.Shell

/-! ### Sets -/

/-- An item of a set of characters. -/
inductive SetItem where
  /-- A character. -/
  | char (c : Char)
  /-- The characters from one to another. -/
  | range (first last : Char)
  /-- The characters of a class. -/
  | ofClass (name : String)
  /-- The characters that count as equal to one. -/
  | equals (c : Char)
  /-- A character some times, or as often as is needed if that is 0. -/
  | repeated (c : Char) (count : Nat)
  deriving DecidableEq, Repr

/-- What is wrong with sets of characters. -/
inductive SetFault where
  /-- A range ends before it starts. -/
  | reversed (first last : Char)
  /-- There is no such class. -/
  | noClass (name : ByteText)
  /-- A class has no name. -/
  | namelessClass
  /-- Nothing is given that characters could be equal to. -/
  | equalsNothing
  /-- More than one character is given that characters should be equal to. -/
  | equalsSeveral (text : ByteText)
  /-- The number of a repetition is none. -/
  | badCount (text : ByteText)
  /-- The first set is filled up. -/
  | fillsFirst
  /-- The second set is filled up more than once. -/
  | fillsTwice
  /-- The second set is filled up, but nothing is replaced. -/
  | fillsInVain
  /-- Characters are replaced by those equal to one. -/
  | equalsSecond
  /-- Characters are replaced by those of a class without case. -/
  | classSecond
  /-- Classes of upper and lower case do not face each other. -/
  | misaligned
  /-- Characters are replaced, but by nothing. -/
  | emptySecond
  /-- The second set is too short, and ends with a class. -/
  | shortClass
  /-- Characters outside of a class are replaced by several ones. -/
  | severalForRest
  deriving DecidableEq, Repr

/-- A character of a set in a complaint. -/
def printableChar (c : Char) : ByteText :=
  if c = '\\' then ['\\', '\\'] else (Glyph.ofByte c).bytes.flatMap fun c =>
    if (Glyph.ofByte c).visible then [c] else (Glyph.ofByte c).escape

/-- The wording of a fault. -/
def SetFault.words (charset : Charset) : SetFault → ByteText
  | reversed first last =>
    "range-endpoints of '".toList ++ printableChar first ++ '-' :: printableChar last
      ++ "' are in reverse collating sequence order".toList
  | noClass name => "invalid character class ".toList ++ inQuotes charset name
  | namelessClass => "missing character class name '[::]'".toList
  | equalsNothing => "missing equivalence class character '[==]'".toList
  | equalsSeveral text =>
    text ++ ": equivalence class operand must be a single character".toList
  | badCount text =>
    "invalid repeat count ".toList ++ inQuotes charset text ++ " in [c*n] construct".toList
  | fillsFirst => "the [c*] repeat construct may not appear in string1".toList
  | fillsTwice => "only one [c*] repeat construct may appear in string2".toList
  | fillsInVain => "the [c*] construct may appear in string2 only when translating".toList
  | equalsSecond => "[=c=] expressions may not appear in string2 when translating".toList
  | classSecond =>
    ("when translating, the only character classes that may appear in\n"
      ++ "string2 are 'upper' and 'lower'").toList
  | misaligned => "misaligned [:upper:] and/or [:lower:] construct".toList
  | emptySecond => "when not truncating set1, string2 must be non-empty".toList
  | shortClass =>
    ("when translating with string1 longer than string2,\n"
      ++ "the latter string must not end with a character class").toList
  | severalForRest =>
    ("when translating with complemented character classes,\n"
      ++ "string2 must map all characters in the domain to one").toList

/-- The characters of a set's text, each with whether it was escaped; `fuel` bounds their number. -/
def setMarks : Nat → ByteText → List Mark
  | 0, _ => []
  | _, [] => []
  | _, ['\\'] => [(false, '\\')]
  | fuel + 1, '\\' :: c :: rest =>
    if isOctal c then
      let digits := ((c :: rest).take 3).takeWhile isOctal
      -- three digits that are too many for a byte are two and one
      let digits := if 255 < octalValue digits then digits.take 2 else digits
      (true, Char.ofNat (octalValue digits)) :: setMarks fuel ((c :: rest).drop digits.length)
    else
      let d := if c = 'e' then c else (controlLetter? c).getD c
      (true, d) :: setMarks fuel rest
  | fuel + 1, c :: rest => (false, c) :: setMarks fuel rest

/-- The names of all classes. -/
def classNames : List String :=
  ["alnum", "alpha", "blank", "cntrl", "digit", "graph", "lower", "print", "punct", "space",
    "upper", "xdigit"]

/-- The marks up to a sign and a closing bracket, and those after it. -/
def upToBracket? (sign : Char) : List Mark → Option (List Mark × List Mark)
  | (false, c) :: (false, ']') :: rest =>
    if c = sign then some ([], rest)
    else (upToBracket? sign ((false, ']') :: rest)).map fun (inside, rest) =>
      ((false, c) :: inside, rest)
  | mark :: rest =>
    (upToBracket? sign rest).map fun (inside, rest) => (mark :: inside, rest)
  | [] => none

/-- A repetition at the start of marks, after its opening bracket. -/
def repetition? : List Mark → Except SetFault (Option (SetItem × List Mark))
  | (_, c) :: (false, '*') :: rest =>
    let digits := rest.takeWhile (· ≠ (false, ']'))
    match rest.drop digits.length with
    | [] => .ok none
    | _ :: rest =>
      let text := plain digits
      let base := if text.head? = some '0' then 8 else 10
      let (count, left) := digitsTo base text
      if text.isEmpty then .ok (some (.repeated c 0, rest))
      else if left.isEmpty && count ≤ largestAmount then .ok (some (.repeated c count, rest))
      else .error (.badCount text)
  | _ => .ok none

/-- The items of a set; `fuel` bounds their number. -/
def setItems : Nat → List Mark → Except SetFault (List SetItem)
  | 0, _ => .ok []
  | fuel + 1, marks => do
    let further (item : SetItem) (rest : List Mark) : Except SetFault (List SetItem) := do
      return item :: (← setItems fuel rest)
    let single (marks : List Mark) : Except SetFault (List SetItem) :=
      match marks with
      | (_, a) :: (false, '-') :: (_, b) :: rest =>
        if b < a then .error (.reversed a b) else further (.range a b) rest
      | (_, c) :: rest => further (.char c) rest
      | [] => .ok []
    let repeatedOr (other : Except SetFault (List SetItem)) (marks : List Mark) :
        Except SetFault (List SetItem) := do
      match ← repetition? marks with
      | some (item, rest) => further item rest
      | none => other
    -- a repetition of a colon or an equals sign looks like a class
    let isRepetition (marks : List Mark) : Bool :=
      match marks with
      | (false, '*') :: rest =>
        (rest.dropWhile fun mark => mark.2.isDigit).head? = some (false, ']')
      | _ => false
    match marks with
    | (false, '[') :: (false, sign) :: inside =>
      let found := if sign = ':' ∨ sign = '=' then upToBracket? sign inside else none
      match found with
      | none => repeatedOr (single marks) marks.tail
      | some (name, rest) =>
        let text := plain name
        let again (fault : SetFault) : Except SetFault (List SetItem) :=
          if isRepetition inside then repeatedOr (single marks) marks.tail else .error fault
        if text.isEmpty then throw (if sign = ':' then .namelessClass else .equalsNothing)
        if sign = ':' then
          if String.ofList text ∈ classNames then further (.ofClass (String.ofList text)) rest
          else again (.noClass text)
        else
          match text with
          | [c] => further (.equals c) rest
          | _ => again (.equalsSeveral text)
    | (false, '[') :: _ => repeatedOr (single marks) marks.tail
    | _ => single marks

/-- The items of the text of a set. -/
def itemsOf (text : ByteText) : Except SetFault (List SetItem) :=
  let marks := setMarks (text.length + 1) text
  setItems (marks.length + 1) marks

/-- All bytes. -/
def allBytes : List Char := (List.range 256).map Char.ofNat

/-- The characters of a class, in order. -/
def classMembers (name : String) : List Char := allBytes.filter fun c => isOfClass c name

/-- The characters of an item; one that is as often as needed is none yet. -/
def SetItem.members : SetItem → List Char
  | char c | equals c => [c]
  | range first last =>
    (List.range (last.toNat + 1 - first.toNat)).map fun n => Char.ofNat (first.toNat + n)
  | ofClass name => classMembers name
  | repeated c count => List.replicate count c

/-- The characters of items. -/
def membersOf (items : List SetItem) : List Char := items.flatMap SetItem.members

/-- Is this a class of upper or lower case? -/
def SetItem.isCase : SetItem → Bool
  | ofClass name => name = "upper" || name = "lower"
  | _ => false

/-- Is this a class? -/
def SetItem.isClass : SetItem → Bool
  | ofClass _ => true
  | _ => false

/-- Is this an item that fills up a set? -/
def SetItem.isFilling : SetItem → Bool
  | repeated _ 0 => true
  | _ => false

/-! ### Replacement -/

/-- The pairs that characters make with items opposite to them, and the items left. A class of case
cannot be opposite to a character. -/
def pairsAlong : List Char → List SetItem → Except SetFault (List (Char × Char) × List SetItem)
  | [], items => .ok ([], items)
  | _ :: _, [] => .ok ([], [])
  | c :: rest, item :: items => do
    if item.isCase then throw .misaligned
    let (d, items) := match item with
      | .repeated d n => (d, if n ≤ 1 then items else .repeated d (n - 1) :: items)
      | .range first last =>
        (first, if first < last then .range (Char.ofNat (first.toNat + 1)) last :: items else items)
      | item => ((item.members.head?).getD c, items)
    let (later, left) ← pairsAlong rest items
    return ((c, d) :: later, left)

/-- The pairs of characters that a set and the set opposite to it make. Classes of case face each
other as wholes. -/
def pairsOf : List SetItem → List SetItem → Except SetFault (List (Char × Char))
  | [], [] => .ok []
  | [], item :: _ => if item.isCase then .error .misaligned else .ok []
  | .ofClass a :: items, .ofClass b :: others => do
    if !(SetItem.ofClass a).isCase then throw .misaligned
    let turned := if (a, b) = ("lower", "upper") then
        (classMembers a).map fun c => (c, c.toUpper)
      else if (a, b) = ("upper", "lower") then (classMembers a).map fun c => (c, c.toLower)
      else []
    return turned ++ (← pairsOf items others)
  | item :: items, others => do
    let (pairs, left) ← pairsAlong item.members others
    return pairs ++ (← pairsOf items left)

/-- How characters are replaced: the second set is filled up, or goes on with its last character, to
the length of the first, if it is not the first one that is cut. -/
def replacements (complement cuts : Bool) (first second : List SetItem) :
    Except SetFault (List (Char × Char)) := do
  let firstChars := membersOf first
  let source : List SetItem :=
    if complement then (allBytes.filter (· ∉ firstChars)).map .char else first
  let size := (membersOf source).length
  if 1 < second.countP SetItem.isFilling then throw .fillsTwice
  let known := (membersOf second).length
  let filled := second.flatMap fun item =>
    match item with
    | .repeated c 0 => if known < size then [.repeated c (size - known)] else []
    | item => [item]
  if filled.any fun item => item matches .equals _ then throw .equalsSecond
  if filled.any fun item => item.isClass && !item.isCase then throw .classSecond
  -- characters outside of a set face others one by one
  let spread (items : List SetItem) : List SetItem :=
    if complement then (membersOf items).map .char else items
  let _ ← pairsOf source (spread filled)
  let length := (membersOf filled).length
  let target ← if size ≤ length ∨ cuts then pure filled
    else
      match filled.getLast? with
      | none => throw .emptySecond
      | some item =>
        if item.isClass then throw .shortClass
        else pure (filled ++ [.repeated ((membersOf filled).getLast?.getD ' ') (size - length)])
  if complement && first.any SetItem.isClass then
    let others := membersOf target
    unless others.length = size && others.all (some · = others.head?) do throw .severalForRest
  pairsOf source (spread target)

/-- A text in which a chosen character does not follow itself. -/
def squeezed (isMember : Char → Bool) (text : ByteText) : ByteText :=
  (text.foldl (fun kept c =>
    if kept.head? = some c && isMember c then kept else c :: kept) []).reverse

/-- Write what is made of the input. -/
def Call.passInput (call : Call) (make : ByteText → ByteText) : ShellM Nat := do
  match ← readEarly make ['-'] with
  | .ok text => do
    say (make text)
    return 0
  | .error reason => call.fail ("read error: ".toList ++ reasonText reason)

/-- What is doubtful about the escapes in the text of a set; `fuel` bounds their number. -/
def escapeDoubts : Nat → ByteText → List ByteText
  | 0, _ => []
  | _, [] => []
  | _, ['\\'] => ["an unescaped backslash at end of string is not portable".toList]
  | fuel + 1, '\\' :: c :: rest =>
    match rest with
    | d :: e :: more =>
      if isOctal c && isOctal d && isOctal e && 255 < octalValue [c, d, e] then
        ("the ambiguous octal escape \\".toList ++ [c, d, e] ++ " is being\n\t".toList
          ++ "interpreted as the 2-byte sequence \\0".toList ++ [c, d] ++ ", ".toList ++ [e])
          :: escapeDoubts fuel more
      else escapeDoubts fuel rest
    | rest => escapeDoubts fuel rest
  | fuel + 1, _ :: rest => escapeDoubts fuel rest

/-- Replace, remove or squeeze characters of the input. -/
def trTool (name : ByteText) (args : List ByteText) : ShellM Nat := do
  let call ← callOf name
    [.flag "cC" "complement", .flag "d" "delete", .flag "s" "squeeze-repeats",
      .flag "t" "truncate-set1"] 1
  let (given, words) ← call.readInOrder args
  let complement := isGiven given "c"
  let deletes := isGiven given "d"
  let squeezes := isGiven given "s"
  let least := if deletes = squeezes then 2 else 1
  let most := if deletes && !squeezes then 1 else 2
  if words.length < least then
    if words.isEmpty then call.refuse "missing operand".toList
    call.refuse ("missing operand after ".toList ++ call.quoted (args.getLast?.getD [])
      ++ (if squeezes then
          "\nTwo strings must be given when both deleting and squeezing repeats."
        else "\nTwo strings must be given when translating.").toList)
  if let extra :: _ := words.drop most then
    call.refuse ("extra operand ".toList ++ call.quoted extra
      ++ (if words.length = 2 then
          "\nOnly one string may be given when deleting without squeezing repeats."
        else "").toList)
  for word in words do
    for doubt in escapeDoubts (word.length + 1) word do
      call.warn ("warning: ".toList ++ doubt)
  let checked {α : Type} (found : Except SetFault α) : ShellM α := do
    match found with
    | .ok value => return value
    | .error fault => call.fail (fault.words call.charset)
  let first ← checked (itemsOf (words.headD []))
  let second? ← words[1]?.mapM fun word => checked (itemsOf word)
  let firstChars := membersOf first
  let inFirst (c : Char) : Bool := decide (c ∈ firstChars) != complement
  if first.any SetItem.isFilling then checked (.error .fillsFirst)
  match second?, deletes with
  | none, true => call.passInput fun text => text.filter fun c => !inFirst c
  | none, false => call.passInput (squeezed inFirst)
  | some second, true => do
    if second.any SetItem.isFilling then checked (.error .fillsInVain)
    let others := membersOf second
    call.passInput fun text =>
      squeezed (fun c => decide (c ∈ others)) (text.filter fun c => !inFirst c)
  | some second, false => do
    let pairs ← checked (replacements complement (isGiven given "t") first second)
    -- of several characters for one the last counts
    let table := allBytes.map fun c =>
      ((pairs.reverse.find? fun pair => pair.1 = c).map Prod.snd).getD c
    let table := table.toArray
    let replaced (text : ByteText) : ByteText := text.map fun c => (table[c.toNat]?).getD c
    let others := pairs.map Prod.snd ++ membersOf second
    call.passInput fun text =>
      if squeezes then squeezed (fun c => decide (c ∈ others)) (replaced text) else replaced text

end JuliaSession.Shell
