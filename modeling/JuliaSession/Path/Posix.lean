import JuliaSession.Text.Split

/-!
# Slash-separated paths

Paths are texts. `join`, `normalize` and `absolute` work on the text alone and never look at a file
system: `..` removes the segment before it. `parts` is the coarser reading in which empty and
single-dot segments do not count, and `tidy` writes those parts back.
-/

namespace JuliaSession.Path

open JuliaSession.Text

/-- The segments between slashes. -/
def segments (cs : List Char) : List (List Char) := splitOnChar '/' cs

/-- Segments joined by slashes. -/
def unsegments (segs : List (List Char)) : List Char := joinWith ['/'] segs

/-- How many slashes a path keeps at its start: two are kept, three or more count as one. -/
def rootSlashes : List Char → Nat
  | '/' :: '/' :: '/' :: _ => 1
  | '/' :: '/' :: _ => 2
  | '/' :: _ => 1
  | _ => 0

/-- Add a segment to the normalized segments `done`, which are reversed: `..` takes the last one
back where there is one, and disappears at the root. -/
def pushSegment (rooted : Bool) (done : List (List Char)) (seg : List Char) : List (List Char) :=
  if seg = [] ∨ seg = ['.'] then done
  else if seg = ['.', '.'] then
    match done with
    -- nothing is above the root; a relative path may lead out of its directory
    | [] => if rooted then [] else [seg]
    | last :: before => if last = ['.', '.'] then seg :: done else before
  else seg :: done

/-- A path without empty, `.` and removable `..` segments; the empty path is `.`. -/
def normalizeChars (cs : List Char) : List Char :=
  let slashes := rootSlashes cs
  let segs := (segments cs).foldl (pushSegment (slashes ≠ 0)) []
  let text := List.replicate slashes '/' ++ unsegments segs.reverse
  if text = [] then ['.'] else text

/-- Does the path start at the root? -/
def isAbsolute (cs : List Char) : Bool := startsWith cs ['/']

/-- `b` seen from the directory `a`. -/
def joinChars (a b : List Char) : List Char :=
  if isAbsolute b then b
  else if a = [] ∨ endsWith a ['/'] then a ++ b
  else a ++ '/' :: b

/-- The normalized path from the root, for a path given in the directory `cwd`. -/
def absoluteChars (cwd cs : List Char) : List Char :=
  normalizeChars (if isAbsolute cs then cs else joinChars cwd cs)

/-- The parts of a path: the root (one or two slashes) if it has one, then the segments that are
neither empty nor a single dot. -/
def partsChars (cs : List Char) : List (List Char) :=
  let root := rootSlashes cs
  let segs := (segments cs).filter fun seg => seg ≠ [] ∧ seg ≠ ['.']
  if root = 0 then segs else List.replicate root '/' :: segs

/-- The path of the same parts, without doubled and trailing slashes. -/
def tidyChars (cs : List Char) : List Char :=
  let segs := (segments cs).filter fun seg => seg ≠ [] ∧ seg ≠ ['.']
  let text := List.replicate (rootSlashes cs) '/' ++ unsegments segs
  if text = [] then ['.'] else text

/-- A path without empty, `.` and removable `..` segments. -/
def normalize (path : String) : String := String.ofList (normalizeChars path.toList)

/-- `b` seen from the directory `a`. -/
def join (a b : String) : String := String.ofList (joinChars a.toList b.toList)

/-- The normalized path from the root, for a path given in the directory `cwd`. -/
def absolute (cwd path : String) : String :=
  String.ofList (absoluteChars cwd.toList path.toList)

/-- The path of the same parts, without doubled and trailing slashes. -/
def tidy (path : String) : String := String.ofList (tidyChars path.toList)

/-- The tidy path of `name` in the directory `dir`. -/
def child (dir name : String) : String := tidy (join dir name)

/-- The last part of a path, the root not counting. -/
def fileName (path : String) : String :=
  String.ofList (((partsChars path.toList).filter fun part => '/' ∉ part).getLastD [])

/-- The path one part shorter; the root has no other path above it, and `.` is above a single
segment. -/
def parent (path : String) : String :=
  let root := rootSlashes path.toList
  let segs := (segments path.toList).filter fun seg => seg ≠ [] ∧ seg ≠ ['.']
  let text := List.replicate root '/' ++ unsegments segs.dropLast
  String.ofList (if text = [] then ['.'] else text)

/-- The suffix of the last part from its last dot on; a dot at the start or at the end of the name
makes none. -/
def suffix (path : String) : String :=
  let name := (fileName path).toList
  let tail := (name.reverse.takeWhile (· ≠ '.')).reverse
  let before := name.take (name.length - tail.length - 1)
  if tail.length < name.length ∧ tail ≠ [] ∧ before ≠ [] then String.ofList ('.' :: tail) else ""

end JuliaSession.Path
