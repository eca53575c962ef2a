import JuliaSession.Console.Highlight
import JuliaSession.Console.Wrap

/-!
# Texts that fit on a line

A text that takes no more cells than a line has, and has neither tabs nor line feeds, needs no
breaks.

* `Narrow`: a character that takes one cell.
* `breaks_of_fits`: a line with room for all its characters is not broken.
* `shown_of_fits`: what fits on a line looks as it is, whatever its styles are.
-/

namespace JuliaSession.Console

open Text (cells charCells cellsAfter)

/-- A character that takes one cell, and is neither a tab nor a line feed. -/
def Narrow (c : Char) : Prop := charCells c = 1 ∧ c ≠ '\t' ∧ c ≠ '\n'

/-- Characters of one cell each take as many cells as there are. -/
theorem cells_of_narrow {cs : List Char} (h : ∀ c ∈ cs, Narrow c) : cells cs = cs.length := by
  have hafter (last : Option Char) : cellsAfter last cs = cs.length := by
    induction cs generalizing last with
    | nil => rfl
    | cons c cs ih =>
      obtain ⟨⟨hcells, -⟩, hrest⟩ := List.forall_mem_cons.1 h
      have hjoiner : c ≠ Text.joiner := by
        rintro rfl
        exact absurd hcells (by decide +kernel)
      have hselector : c ≠ Text.pictureSelector := by
        rintro rfl
        exact absurd hcells (by decide +kernel)
      unfold cellsAfter
      rw [if_neg hjoiner, if_neg hselector, if_neg (by omega), hcells, ih hrest, List.length_cons,
        Nat.add_comm]
  exact hafter none

/-! ### Breaks -/

/-- Words hold only what the line holds. -/
theorem flatten_spacedWordsAfter (word : List Char) (begun ended : Bool) (cs : List Char) :
    (spacedWordsAfter word begun ended cs).flatten <+: word.reverse ++ cs := by
  induction cs generalizing word begun ended with
  | nil =>
    rw [spacedWordsAfter]
    cases begun <;> simp
  | cons c cs ih =>
    have hnext (begun ended : Bool) :
        (spacedWordsAfter (c :: word) begun ended cs).flatten <+: word.reverse ++ c :: cs := by
      have hword := ih (c :: word) begun ended
      rwa [List.reverse_cons, List.append_assoc, List.singleton_append] at hword
    rw [spacedWordsAfter]
    -- a character goes on with the word, or it begins the next one behind the spaces of the last
    split
    · exact hnext begun begun
    · split
      · rw [List.flatten_cons]
        exact List.prefix_append_right_inj _ |>.2 (ih [c] true false)
      · exact hnext true false

/-- Words that fit on a line are not broken. -/
theorem breaksFrom_of_fits {overflow : Overflow} {room start used : Nat}
    {words : List (List Char)} (h : ∀ c ∈ words.flatten, Narrow c)
    (hroom : used + words.flatten.length ≤ room) :
    breaksFrom overflow room start used words = [] := by
  induction words generalizing start used with
  | nil => rfl
  | cons word words ih =>
    rw [List.flatten_cons] at h hroom
    rw [List.length_append] at hroom
    obtain ⟨hword, hwords⟩ := List.forall_mem_append.1 h
    -- the spaces at its end do not count, so a word takes at most the room of its characters
    have hstripped : Text.stripRight word <+: word := by
      unfold Text.stripRight Text.dropRightWhile
      exact List.reverse_suffix.1 (List.reverse_reverse _ ▸ List.dropWhile_suffix _)
    have hstrip : cells (Text.stripRight word) ≤ word.length := by
      rw [cells_of_narrow fun c hc => hword c (hstripped.subset hc)]
      exact hstripped.length_le
    rw [breaksFrom]
    dsimp only
    rw [if_pos (by omega), cells_of_narrow hword]
    exact ih hwords (by omega)

theorem breaks_of_fits {overflow : Overflow} {room : Nat} {line : List Char}
    (h : ∀ c ∈ line, Narrow c) (hroom : line.length ≤ room) : breaks overflow room line = [] := by
  have hwords : (spacedWords line).flatten <+: line :=
    flatten_spacedWordsAfter [] false false line
  refine breaksFrom_of_fits (fun c hc => h c (hwords.subset hc)) ?_
  rw [Nat.zero_add]
  exact Nat.le_trans hwords.length_le hroom

/-! ### Lines -/

variable {text : StyledText}

theorem StyledText.withChars_self (text : StyledText) : text.withChars text.chars = text :=
  if_neg (Nat.lt_irrefl _)

/-- What fits on a line is one line. -/
theorem lines_of_fits (h : ∀ c ∈ text.chars, Narrow c) {room : Nat}
    (hroom : text.chars.length ≤ room) : text.lines room = [text] := by
  have hline : '\n' ∉ text.chars := fun hmem => (h _ hmem).2.2 rfl
  have htab : '\t' ∉ text.chars := fun hmem => (h _ hmem).2.1 rfl
  -- there is nothing to split, to expand, to trim or to cut, and no word is moved to another line
  have hsplit : text.splitOn '\n' = [text] := if_pos hline
  have hexpand : text.expandTabs false = text := if_pos htab
  have htrim : text.trimEnd room = text := by
    unfold StyledText.trimEnd
    dsimp only
    rw [Nat.sub_eq_zero_of_le hroom, Nat.min_zero, Nat.sub_zero, List.take_length]
    exact text.withChars_self
  have hcut : text.cut .fold room = text := by
    refine if_pos ?_
    rw [StyledText.cells, cells_of_narrow h]
    exact hroom
  unfold StyledText.lines StyledText.breakLine
  rw [hsplit, List.flatMap_singleton, hexpand, breaks_of_fits h hroom]
  change [(text.trimEnd room).cut .fold room] = [text]
  rw [htrim, hcut]

theorem foldl_cells_of_narrow {pieces : List (List Char)} (h : ∀ c ∈ pieces.flatten, Narrow c)
    (total : Nat) : (pieces.map cells).foldl (· + ·) total = total + pieces.flatten.length := by
  induction pieces generalizing total with
  | nil => rfl
  | cons piece pieces ih =>
    rw [List.flatten_cons] at h
    obtain ⟨hpiece, hpieces⟩ := List.forall_mem_append.1 h
    rw [List.map_cons, List.foldl_cons, ih hpieces, cells_of_narrow hpiece, List.flatten_cons,
      List.length_append, Nat.add_assoc]

/-- What fits on a line looks as it is. -/
theorem shown_of_fits (h : ∀ c ∈ text.chars, Narrow c) (hroom : text.chars.length ≤ width) :
    shown text = text.chars := by
  have hsegments := text.flatten_segments
  have hwithin : within width text.segments = text.segments := by
    refine if_neg ?_
    rw [foldl_cells_of_narrow (hsegments.symm ▸ h), hsegments]
    omega
  unfold shown
  rw [lines_of_fits h hroom]
  change drawn text = text.chars
  rw [drawn, hwithin, hsegments]

theorem chars_highlighted (text : StyledText) : (highlighted text).chars = text.chars := by
  unfold highlighted
  split <;> rfl

end JuliaSession.Console
