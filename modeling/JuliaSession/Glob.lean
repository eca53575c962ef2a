import JuliaSession.Path.Posix

/-!
# Globs

Patterns for file paths. `Glob.expandBraces` writes out alternatives in braces; `Glob.matchesPath`
compares a path with the resulting patterns part by part, from the right unless the pattern starts
at the root. Within a part `*` stands for any text, `?` for any character and `[...]` for one
character of a set.
-/

namespace JuliaSession.Glob

open JuliaSession.Text

/-! ### Braces -/

/-- The opening brace. -/
def openBrace : Char := Char.ofNat 123

/-- The closing brace. -/
def closeBrace : Char := Char.ofNat 125

/-- Neither brace. -/
def isBraceFree (c : Char) : Bool := c ≠ openBrace && c ≠ closeBrace

/-- A group of alternatives in a pattern. -/
structure Group where
  /-- What stands before the opening brace. -/
  before : List Char
  /-- What stands between the braces. -/
  body : List Char
  /-- What stands after the closing brace. -/
  after : List Char

/-- The first group that has no brace inside. -/
def firstGroup? : List Char → Option Group
  | [] => none
  | c :: rest =>
    let body := rest.takeWhile isBraceFree
    match c == openBrace, rest.dropWhile isBraceFree with
    | true, d :: after =>
      -- a second opening brace comes first: the group inside it is closed earlier
      if d = closeBrace then some ⟨[], body, after⟩
      else (firstGroup? rest).map fun group => { group with before := c :: group.before }
    | _, _ => (firstGroup? rest).map fun group => { group with before := c :: group.before }

/-- Expand the first group, then what results, up to `fuel` groups deep. -/
def expandWith : Nat → List Char → List (List Char)
  | 0, cs => [cs]
  | fuel + 1, cs =>
    match firstGroup? cs with
    | none => [cs]
    | some group =>
      -- the alternatives have no braces, so each result has one opening brace less
      (splitOnChar ',' group.body).flatMap fun option =>
        expandWith fuel (group.before ++ option ++ group.after)

/-- The patterns that a pattern with braces stands for. Each expansion takes one opening brace away,
so their number bounds the depth. -/
def expandChars (cs : List Char) : List (List Char) := expandWith (cs.count openBrace) cs

/-- The patterns that a pattern with braces stands for. -/
def expandBraces (pattern : String) : List String :=
  (expandChars pattern.toList).map String.ofList

/-! ### Parts -/

/-- What one element of a part pattern stands for. -/
inductive Element where
  /-- Any text. -/
  | star
  /-- Any character. -/
  | any
  /-- This character. -/
  | char (c : Char)
  /-- A character in one of the ranges, or in none of them if `negated`. -/
  | set (negated : Bool) (ranges : List (Char × Char))
  /-- No character. -/
  | never
  deriving DecidableEq, Repr

/-- The end of a set after its opening bracket: a `!` and then a `]` at the start belong to it. -/
def setBody? (cs : List Char) : Option (List Char × List Char) :=
  let (mark, rest) := match cs with
    | '!' :: rest => (['!'], rest)
    | _ => ([], cs)
  let (first, rest) := match rest with
    | ']' :: rest => ([']'], rest)
    | _ => ([], rest)
  let body := rest.takeWhile (· ≠ ']')
  match rest.drop body.length with
  | [] => none
  | _ :: after => some (mark ++ first ++ body, after)

/-- Cut a set at the hyphens that make ranges. `lead` characters are passed over first; after a
hyphen the next two characters are no such hyphen. -/
def cutAtHyphens : Nat → List Char → List Char → List (List Char)
  | _, chunk, [] => [chunk.reverse]
  | lead + 1, chunk, c :: rest => cutAtHyphens lead (c :: chunk) rest
  | 0, chunk, c :: rest =>
    -- the two characters after a hyphen are the upper end and its successor
    if c = '-' then chunk.reverse :: cutAtHyphens 2 [] rest
    else cutAtHyphens 0 (c :: chunk) rest

/-- A hyphen at the very end makes no range. -/
def keepLastHyphen (chunks : List (List Char)) : List (List Char) :=
  match chunks.reverse with
  | [] :: last :: before => ((last ++ ['-']) :: before).reverse
  | _ => chunks

/-- Remove the ranges that are empty, from the right: `b-a` takes both ends away. -/
def dropEmptyRanges : List (List Char) → List (List Char)
  | [] => []
  | chunk :: rest =>
    match dropEmptyRanges rest with
    | [] => [chunk]
    | next :: later =>
      match chunk.getLast?, next with
      | some high, low :: tail =>
        if low < high then (chunk.dropLast ++ tail) :: later else chunk :: next :: later
      | _, _ => chunk :: next :: later

/-- The ranges of a set given as chunks: the last character of a chunk and the first of the next one
are the ends of a range, every other character stands alone. `open?` is the range that waits for its
upper end. -/
def chunkRanges : Option Char → List (List Char) → List (Char × Char)
  | some low, [] => [(low, low)]
  | none, [] => []
  | low?, chunk :: rest =>
    -- the lower end of a range was kept back by the chunk before
    let (start, chunk) := match low?, chunk with
      | some low, high :: chunk => ([(low, high)], chunk)
      | _, _ => ([], chunk)
    if rest = [] then start ++ chunk.map fun c => (c, c)
    else
      start ++ chunk.dropLast.map (fun c => (c, c)) ++ chunkRanges chunk.getLast? rest

/-- What a set stands for. Empty ranges are removed first; a set that is empty then matches nothing,
and the complement of an empty set anything. -/
def setElement (body : List Char) : Element :=
  let lead := if startsWith body ['!'] then 2 else 1
  let chunks :=
    if '-' ∈ body then dropEmptyRanges (keepLastHyphen (cutAtHyphens lead [] body)) else [body]
  match chunks with
  | [[]] => .never
  | [['!']] => .any
  | ('!' :: first) :: rest => .set true (chunkRanges none (first :: rest))
  | _ => .set false (chunkRanges none chunks)

/-- The elements of a part pattern; a bracket that is not closed stands for itself. -/
def elements : Nat → List Char → List Element
  | 0, _ => []
  | _, [] => []
  | fuel + 1, '*' :: rest => .star :: elements fuel rest
  | fuel + 1, '?' :: rest => .any :: elements fuel rest
  | fuel + 1, '[' :: rest =>
    match setBody? rest with
    | none => .char '[' :: elements fuel rest
    | some (body, after) => setElement body :: elements fuel after
  | fuel + 1, c :: rest => .char c :: elements fuel rest

/-- Does an element other than `*` stand for this character? -/
def Element.admits (c : Char) : Element → Bool
  | star => false
  | any => true
  | char d => c = d
  | set negated ranges => (ranges.any fun (low, high) => low ≤ c && c ≤ high) != negated
  | never => false

/-- A text and what is left of it after dropping one character after the other. -/
def suffixes : List Char → List (List Char)
  | [] => [[]]
  | c :: cs => (c :: cs) :: suffixes cs

/-- Do the elements stand for the text? -/
def matchesElements : List Element → List Char → Bool
  | [], cs => cs.isEmpty
  | .star :: rest, cs => (suffixes cs).any (matchesElements rest)
  | element :: rest, cs =>
    match cs with
    | [] => false
    | c :: cs => element.admits c && matchesElements rest cs

/-- For each truth value, whether it or a later one is true. -/
def trueFrom : List Bool → List Bool
  | [] => []
  | b :: rest =>
    let later := trueFrom rest
    (b || later.headD false) :: later

/-- For each suffix of the text, whether the elements stand for it. Every element is looked at once
for each suffix, so stars do not multiply. -/
def matchTable (cs : List Char) : List Element → List Bool
  | [] => (suffixes cs).map List.isEmpty
  | .star :: rest => trueFrom (matchTable cs rest)
  | element :: rest =>
    cs.zipWith (fun c later => element.admits c && later) (matchTable cs rest).tail ++ [false]

/-- A text is its own first suffix. -/
theorem suffixes_eq_cons (cs : List Char) : suffixes cs = cs :: (suffixes cs).tail := by
  cases cs <;> rfl

/-- Over the suffixes of a text, `trueFrom` says whether some suffix of a suffix has a property. -/
theorem trueFrom_map_suffixes (p : List Char → Bool) (cs : List Char) :
    trueFrom ((suffixes cs).map p) = (suffixes cs).map fun suffix => (suffixes suffix).any p := by
  induction cs with
  | nil => simp [suffixes, trueFrom]
  | cons c cs ih =>
    rw [suffixes, List.map_cons, trueFrom, ih, suffixes_eq_cons cs]
    simp [suffixes]

/-- Over the suffixes of a text, an element that stands for one character goes on with the next
suffix. -/
theorem zipWith_suffixes (element : Element) (p : List Char → Bool) (cs : List Char) :
    cs.zipWith (fun c later => element.admits c && later) ((suffixes cs).map p).tail ++ [false]
      = (suffixes cs).map fun suffix =>
        match suffix with
        | [] => false
        | c :: cs => element.admits c && p cs := by
  induction cs with
  | nil => simp [suffixes]
  | cons c cs ih =>
    rw [suffixes, List.map_cons, List.tail_cons]
    rw [suffixes_eq_cons cs] at ih ⊢
    simp_all

/-- The table holds what `matchesElements` says. -/
theorem matchTable_eq (cs : List Char) (pattern : List Element) :
    matchTable cs pattern = (suffixes cs).map (matchesElements pattern) := by
  induction pattern with
  | nil => exact List.map_congr_left fun suffix _ => by simp [matchesElements]
  | cons element rest ih =>
    cases element with
    | star =>
      rw [matchTable, ih, trueFrom_map_suffixes]
      exact List.map_congr_left fun suffix _ => by simp [matchesElements]
    | any | char _ | set _ _ | never =>
      rw [matchTable, ih, zipWith_suffixes]
      · exact List.map_congr_left fun suffix _ => by cases suffix <;> simp [matchesElements]
      · simp

/-- Does a part of a path match a part of a pattern? -/
def matchesPart (part pattern : List Char) : Bool :=
  (matchTable part (elements pattern.length pattern)).headD false

/-- A part matches when the elements of the pattern stand for it. -/
theorem matchesPart_eq (part pattern : List Char) :
    matchesPart part pattern = matchesElements (elements pattern.length pattern) part := by
  rw [matchesPart, matchTable_eq, suffixes_eq_cons]
  rfl

/-! ### Paths -/

/-- Why a pattern cannot be compared. -/
inductive GlobFault where
  /-- The pattern has no part. -/
  | emptyPattern
  deriving DecidableEq, Repr

/-- Does a path match a pattern without braces? A pattern from the root needs as many parts as the
path; any other one is compared with the last parts. -/
def matchesPattern (path pattern : List Char) : Except GlobFault Bool :=
  let pathParts := Path.partsChars path
  match Path.partsChars pattern with
  | [] => .error .emptyPattern
  | first :: rest =>
    -- only the root part has a slash in it
    if '/' ∈ first then
      .ok (pathParts.head? == some first && pathParts.length == rest.length + 1
        && (pathParts.tail.zip rest).all fun (part, pat) => matchesPart part pat)
    else
      .ok (rest.length < pathParts.length
        && (pathParts.reverse.zip (first :: rest).reverse).all
          fun (part, pat) => matchesPart part pat)

/-- Does a path match one of the patterns, taken in order? A pattern without parts is a fault unless
an earlier one matches. -/
def matchesSome (path : List Char) : List (List Char) → Except GlobFault Bool
  | [] => .ok false
  | pattern :: rest => do
    -- a relative pattern is compared from the right, so leading directories are free
    let pattern := (afterStart? "**/".toList pattern).getD pattern
    if ← matchesPattern path pattern then return true else matchesSome path rest

/-- Does a path match a pattern? `**/` at the start stands for any directories. -/
def matchesPath (path pattern : String) : Except GlobFault Bool :=
  matchesSome path.toList (expandChars pattern.toList)

end JuliaSession.Glob
