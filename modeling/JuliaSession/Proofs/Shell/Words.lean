import Mathlib.Data.List.Forall2
import JuliaSession.Shell.Words

/-!
# Reading quoted words back

A word that was written with quotes is read as the text it stands for, whatever the text is: empty,
with quotes of its own, over several lines or with characters that mean something to the shell.

* `Reads`: a piece of a line is read as one word.
* `reads_quoteChars`: that is so for a quoted text.
* `wordsFrom_joinWith`: pieces with spaces between them are read one by one.
-/

namespace JuliaSession.Shell

variable {cs rest : List Char} {c : Char}

/-- A character that is neither a divider nor part of a quotation. -/
def isOrdinary (c : Char) : Bool := !isDivider c && c ≠ '\'' && c ≠ '"' && c ≠ '\\'

theorem isOrdinary_of_isSafe (h : isSafe c = true) : isOrdinary c = true := by
  unfold isOrdinary isDivider
  simp only [Bool.and_eq_true, Bool.not_eq_true', Bool.or_eq_false_iff, decide_eq_false_iff_not,
    decide_eq_true_eq, ne_eq]
  refine ⟨⟨⟨⟨⟨?_, ?_⟩, ?_⟩, ?_⟩, ?_⟩, ?_⟩ <;> rintro rfl <;> exact absurd h (by decide)

/-! ### Pieces of a line -/

/-- Without single quotes nothing is changed inside of them. -/
theorem flatMap_quoteChar_eq_self {body : List Char} (h : '\'' ∉ body) :
    body.flatMap quoteChar = body := by
  induction body with
  | nil => rfl
  | cons c body ih =>
    rw [List.mem_cons, not_or] at h
    rw [List.flatMap_cons, ih h.2, quoteChar, if_neg (Ne.symm h.1), List.singleton_append]

/-- An ordinary character outside of quotes goes on with the word. -/
theorem wordsFrom_plain (h : isOrdinary c = true) (word : Option (List Char)) :
    wordsFrom .plain word (c :: rest) = wordsFrom .plain (some (c :: word.getD [])) rest := by
  unfold isOrdinary at h
  simp only [Bool.and_eq_true, Bool.not_eq_true', decide_eq_true_eq] at h
  obtain ⟨⟨⟨hdivider, hsingle⟩, hdouble⟩, hescape⟩ := h
  rw [wordsFrom.eq_def]
  dsimp only
  rw [if_neg (ne_true_of_eq_false hdivider), if_neg hsingle, if_neg hdouble, if_neg hescape]

/-- A space ends the word that was begun. -/
theorem wordsFrom_space (word : Option (List Char)) :
    wordsFrom .plain word (' ' :: rest) =
      (wordsFrom .plain none rest).map (word.toList.map List.reverse ++ ·) := by
  rw [wordsFrom.eq_def]
  exact if_pos (by decide)

/-- A single quote opens a quotation. -/
theorem wordsFrom_quote (word : Option (List Char)) :
    wordsFrom .plain word ('\'' :: rest) = wordsFrom .single (some (word.getD [])) rest := by
  rw [wordsFrom.eq_def]
  exact (if_neg (by decide)).trans (if_pos rfl)

theorem wordsFrom_ordinary (h : cs.all isOrdinary = true) (word : List Char) :
    wordsFrom .plain (some word) (cs ++ rest) =
      wordsFrom .plain (some (cs.reverse ++ word)) rest := by
  induction cs generalizing word with
  | nil => rfl
  | cons c cs ih =>
    rw [List.all_cons, Bool.and_eq_true] at h
    rw [List.cons_append, wordsFrom_plain h.1, ih h.2, Option.getD_some, List.reverse_cons,
      List.append_assoc, List.singleton_append]

/-- Between single quotes every text is read as it was before it was written. -/
theorem wordsFrom_single (cs word : List Char) :
    wordsFrom .single (some word) (cs.flatMap quoteChar ++ '\'' :: rest) =
      wordsFrom .plain (some (cs.reverse ++ word)) rest := by
  induction cs generalizing word with
  | nil => rfl
  | cons c cs ih =>
    rw [List.flatMap_cons, List.append_assoc, List.reverse_cons, List.append_assoc,
      List.singleton_append, ← ih]
    by_cases hquote : c = '\''
    · subst hquote
      simpa [quoteChar, wordsFrom, isDivider] using wordsFrom_quote (some ('\'' :: word))
    · rw [quoteChar, if_neg hquote, List.singleton_append, wordsFrom, if_neg hquote,
        Option.getD_some]

/-- A piece of a line is read as one word. -/
def Reads (piece word : List Char) : Prop :=
  ∀ rest, wordsFrom .plain none (piece ++ rest) = wordsFrom .plain (some word.reverse) rest

/-- Ordinary characters are a word by themselves. -/
theorem reads_of_ordinary (h : cs.all isOrdinary = true) (hne : cs ≠ []) : Reads cs cs := by
  intro rest
  match cs with
  | [] => exact absurd rfl hne
  | c :: cs =>
    rw [List.all_cons, Bool.and_eq_true] at h
    rw [List.cons_append, wordsFrom_plain h.1, wordsFrom_ordinary h.2, List.reverse_cons]
    rfl

/-- A quoted text is read as the text. -/
theorem reads_quoteChars (cs : List Char) : Reads (quoteChars cs) cs := by
  unfold quoteChars
  split_ifs with hsafe
  · refine reads_of_ordinary ?_ hsafe.1
    exact List.all_eq_true.2 fun c hc => isOrdinary_of_isSafe (List.all_eq_true.1 hsafe.2 c hc)
  · intro rest
    have hinside : wordsFrom .single (some []) (cs.flatMap quoteChar ++ '\'' :: rest) =
        wordsFrom .plain (some cs.reverse) rest := by
      rw [wordsFrom_single, List.append_nil]
    rw [List.cons_append, List.cons_append, List.append_assoc, List.singleton_append,
      wordsFrom_quote]
    exact hinside

/-! ### Lines -/

/-- Pieces, each behind a space, are read one by one after the word before. -/
theorem wordsFrom_spaced {pieces words : List (List Char)} (h : List.Forall₂ Reads pieces words)
    (word : List Char) :
    wordsFrom .plain (some word) (pieces.flatMap ([' '] ++ ·)) =
      some (word.reverse :: words) := by
  induction h generalizing word with
  | nil => rfl
  | @cons piece next pieces words hpiece _ ih =>
    rw [List.flatMap_cons, List.append_assoc, List.singleton_append, wordsFrom_space, hpiece, ih,
      List.reverse_reverse]
    rfl

/-- Pieces with spaces between them are read one by one. -/
theorem wordsFrom_joinWith {pieces words : List (List Char)} (h : List.Forall₂ Reads pieces words) :
    wordsFrom .plain none (Text.joinWith [' '] pieces) = some words := by
  cases h with
  | nil => rfl
  | cons hpiece hpieces =>
    rw [Text.joinWith_cons, hpiece, wordsFrom_spaced hpieces, List.reverse_reverse]

end JuliaSession.Shell
