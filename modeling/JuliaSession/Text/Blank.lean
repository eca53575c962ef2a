/-!
# Blank characters

The characters that separate words and that trimming removes: the white space of Unicode together
with the four ASCII information separators. `strip`, `stripRight`, `words` and `isBlankText` are
the uses the rest of the library has for the class.
-/

namespace JuliaSession.Text

/-- Whether a word is among some words is decided by comparing characters. -/
instance decidableMemWords (word : List Char) (words : List (List Char)) :
    Decidable (word ∈ words) :=
  List.instDecidableMemOfLawfulBEq word words

/-- White space in the Unicode sense, or one of the separators `U+001C` to `U+001F`. -/
def isBlank (c : Char) : Bool :=
  let n := c.toNat
  (9 ≤ n && n ≤ 13) || (28 ≤ n && n ≤ 32) || n == 0x85 || n == 0xA0 || n == 0x1680
    || (0x2000 ≤ n && n ≤ 0x200A) || n == 0x2028 || n == 0x2029 || n == 0x202F || n == 0x205F
    || n == 0x3000

/-- Drop the elements at the end of a list that satisfy `p`. -/
def dropRightWhile {α : Type} (p : α → Bool) (xs : List α) : List α :=
  (xs.reverse.dropWhile p).reverse

/-- Drop blank characters at the start. -/
def stripLeft (cs : List Char) : List Char := cs.dropWhile isBlank

/-- Drop blank characters at the end. -/
def stripRight (cs : List Char) : List Char := dropRightWhile isBlank cs

/-- Drop blank characters at both ends. -/
def strip (cs : List Char) : List Char := stripRight (stripLeft cs)

/-- Drop blank characters at both ends of a text. -/
def trimBlank (s : String) : String := String.ofList (strip s.toList)

/-- A text of blank characters only, the empty text included. -/
def isBlankText (s : String) : Bool := s.toList.all isBlank

/-- The words of a text, where `word` is the one being read, back to front. -/
def wordsAfter (word : List Char) : List Char → List (List Char)
  | [] => if word.isEmpty then [] else [word.reverse]
  | c :: rest =>
    if isBlank c then
      if word.isEmpty then wordsAfter [] rest else word.reverse :: wordsAfter [] rest
    else wordsAfter (c :: word) rest

/-- The words of a text: what stands between runs of blank characters. -/
def words (cs : List Char) : List (List Char) := wordsAfter [] cs

/-- Every character that core counts as white space is blank. -/
theorem isBlank_of_isWhitespace (c : Char) (h : c.isWhitespace = true) : isBlank c = true := by
  simp only [Char.isWhitespace, Bool.or_eq_true, decide_eq_true_eq] at h
  rcases h with ((rfl | rfl) | rfl) | rfl <;> decide

/-- Nothing is dropped from a list where no element satisfies `p`. -/
theorem dropRightWhile_eq_self {α : Type} {p : α → Bool} {xs : List α}
    (h : ∀ x ∈ xs, p x = false) : dropRightWhile p xs = xs := by
  have hkept : xs.reverse.dropWhile p = xs.reverse := by
    cases hxs : xs.reverse with
    | nil => rfl
    | cons x rest =>
      have hx : x ∈ xs := by
        rw [← List.mem_reverse, hxs]
        exact List.mem_cons_self
      simp [h x hx]
  rw [dropRightWhile, hkept, List.reverse_reverse]

theorem dropRightWhile_append_of_all {α : Type} {p : α → Bool} (xs ys : List α)
    (h : ys.all p = true) : dropRightWhile p (xs ++ ys) = dropRightWhile p xs := by
  have hr : ys.reverse.all p = true := by simpa using h
  unfold dropRightWhile
  rw [List.reverse_append]
  congr 1
  generalize ys.reverse = zs at hr
  induction zs with
  | nil => rfl
  | cons z zs ih =>
    simp only [List.all_cons, Bool.and_eq_true] at hr
    simp [hr.1, ih hr.2]

end JuliaSession.Text
