import JuliaSession.Shell.Pattern
import JuliaSession.Text.Split

/-!
# From expansions to fields

What a word expands to is first a list of chunks, then a list of fields: the results of unquoted
expansions are divided at separators, everything else stays together. Each character of a field
remembers whether it was quoted, so that only unquoted ones count as patterns.
-/

namespace JuliaSession.Shell

/-- What a part of a word expands to. -/
inductive Chunk where
  /-- Text that stays together. -/
  | keep (quoted : Bool) (chars : ByteText)
  /-- Text that is divided at separators. -/
  | divide (chars : ByteText)
  /-- Fields of their own, the first and the last joined to what is around them. -/
  | list (texts : List ByteText)
  /-- Texts that are fields of their own and divided besides. -/
  | spread (texts : List ByteText)

/-- A character of `separators` that is white space. -/
def isSpaceIn (separators : ByteText) (c : Char) : Bool :=
  c ∈ separators && (c = ' ' || c = '\t' || c = '\n')

/-- What is left after a separator: white space around it belongs to it, and if it was white space
itself (`space`), one other separator as well. -/
def afterSeparator (separators : ByteText) : Bool → ByteText → ByteText
  | _, [] => []
  | space, c :: rest =>
    if isSpaceIn separators c then afterSeparator separators space rest
    else if c ∈ separators ∧ space then afterSeparator separators false rest
    else c :: rest

theorem length_afterSeparator_le (separators : ByteText) (space : Bool) (cs : ByteText) :
    (afterSeparator separators space cs).length ≤ cs.length := by
  fun_induction afterSeparator separators space cs <;> simp_all <;> omega

/-- Divide a text. `current` is the field being made, if there is one; the fields that are complete
and the one still open are returned. -/
def divide (separators : ByteText) (current : Option (List Mark)) :
    ByteText → List (List Mark) × Option (List Mark)
  | [] => ([], current)
  | c :: rest =>
    if c ∈ separators then
      let space := isSpaceIn separators c
      if current.isNone ∧ space then divide separators none rest
      else
        let (fields, last) := divide separators none (afterSeparator separators space rest)
        (current.getD [] :: fields, last)
    else divide separators (some (current.getD [] ++ [(false, c)])) rest
  termination_by text => text.length
  decreasing_by
    all_goals simp_wf
    all_goals have := length_afterSeparator_le separators (isSpaceIn separators c) rest
    all_goals omega

/-- Divide texts, each of which ends a field. -/
def divideEach (separators : ByteText) (current : Option (List Mark)) :
    List ByteText → List (List Mark) × Option (List Mark)
  | [] => ([], current)
  | [text] => divide separators current text
  | text :: rest =>
    let (fields, last) := divide separators current text
    let (more, left) := divideEach separators none rest
    (fields ++ last.toList ++ more, left)

/-- The fields of a list of chunks. -/
def fieldsFrom (separators : ByteText) : Option (List Mark) → List Chunk → List (List Mark)
  | current, [] => current.toList
  | current, .keep quoted chars :: rest =>
    if chars.isEmpty && !quoted then fieldsFrom separators current rest
    else fieldsFrom separators (some (current.getD [] ++ marked quoted chars)) rest
  | current, .divide chars :: rest =>
    let (fields, last) := divide separators current chars
    fields ++ fieldsFrom separators last rest
  | current, .list [] :: rest => fieldsFrom separators current rest
  | current, .list [text] :: rest =>
    fieldsFrom separators (some (current.getD [] ++ marked true text)) rest
  | current, .list (text :: next :: more) :: rest =>
    (current.getD [] ++ marked true text)
      :: ((next :: more).dropLast.map (marked true)
        ++ fieldsFrom separators (some (marked true ((next :: more).getLastD []))) rest)
  | current, .spread texts :: rest =>
    let (fields, last) := divideEach separators current texts
    fields ++ fieldsFrom separators last rest

/-- Texts as one, with the first separator between them. -/
def joinAll (separators : ByteText) (texts : List ByteText) : ByteText :=
  Text.joinWith (separators.take 1) texts

/-- The text of chunks that are not divided. -/
def joinChunks (separators : ByteText) (chunks : List Chunk) : List Mark :=
  chunks.flatMap fun chunk =>
    match chunk with
    | .keep quoted chars => marked quoted chars
    | .divide chars => marked false chars
    | .list texts => marked true (joinAll separators texts)
    | .spread texts => marked false (joinAll separators texts)

end JuliaSession.Shell
