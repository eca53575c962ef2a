/-!
# Splitting and joining

`splitOnChar` cuts a list of characters at every occurrence of one character, keeping empty pieces;
`joinWith` puts it back. The other functions are the prefix and suffix tests on `List Char` that
paths, globs and commands are read with.
-/

namespace JuliaSession.Text

/-- The pieces between the occurrences of `sep`; there is always at least one. -/
def splitOnChar (sep : Char) : List Char → List (List Char)
  | [] => [[]]
  | c :: rest =>
    if c = sep then [] :: splitOnChar sep rest
    else match splitOnChar sep rest with
      | [] => [[c]]
      | piece :: pieces => (c :: piece) :: pieces

/-- The pieces one after the other with `sep` between them. -/
def joinWith (sep : List Char) : List (List Char) → List Char
  | [] => []
  | [piece] => piece
  | piece :: pieces => piece ++ sep ++ joinWith sep pieces

/-- What follows `start` in `cs`, if `cs` begins with it. -/
def afterStart? : List Char → List Char → Option (List Char)
  | [], cs => some cs
  | _ :: _, [] => none
  | a :: start, c :: cs => if a = c then afterStart? start cs else none

/-- Does `cs` begin with `start`? -/
def startsWith (cs start : List Char) : Bool := (afterStart? start cs).isSome

/-- Does `cs` end with `ending`? -/
def endsWith (cs ending : List Char) : Bool := startsWith cs.reverse ending.reverse

/-- Does `needle` occur in `cs`? -/
def contains (needle : List Char) : List Char → Bool
  | [] => needle.isEmpty
  | c :: cs => startsWith (c :: cs) needle || contains needle cs

/-- The pieces of `s` between the occurrences of `sep`, as texts. -/
def split (s : String) (sep : Char) : List String :=
  (splitOnChar sep s.toList).map String.ofList

theorem splitOnChar_cons_self (sep : Char) (rest : List Char) :
    splitOnChar sep (sep :: rest) = [] :: splitOnChar sep rest := if_pos rfl

theorem splitOnChar_cons_of_ne {sep c : Char} (h : c ≠ sep) (rest : List Char) :
    splitOnChar sep (c :: rest) =
      match splitOnChar sep rest with
      | [] => [[c]]
      | piece :: pieces => (c :: piece) :: pieces := if_neg h

theorem splitOnChar_ne_nil (sep : Char) (cs : List Char) : splitOnChar sep cs ≠ [] := by
  cases cs with
  | nil => exact List.cons_ne_nil _ _
  | cons c cs =>
    by_cases h : c = sep
    · rw [h, splitOnChar_cons_self]
      exact List.cons_ne_nil _ _
    · rw [splitOnChar_cons_of_ne h]
      split <;> exact List.cons_ne_nil _ _

/-- Behind the first piece every piece comes after a separator. -/
theorem joinWith_cons (sep piece : List Char) (pieces : List (List Char)) :
    joinWith sep (piece :: pieces) = piece ++ pieces.flatMap (sep ++ ·) := by
  induction pieces generalizing piece with
  | nil => simp [joinWith]
  | cons next pieces ih => rw [joinWith, ih, List.flatMap_cons, List.append_assoc] <;> simp

/-- What a joined text holds is of a piece or of a separator. -/
theorem mem_joinWith {sep : List Char} {pieces : List (List Char)} {c : Char}
    (h : c ∈ joinWith sep pieces) : c ∈ sep ∨ ∃ piece ∈ pieces, c ∈ piece := by
  cases pieces with
  | nil => cases h
  | cons piece pieces =>
    rw [joinWith_cons] at h
    rcases List.mem_append.1 h with hfirst | hlater
    · exact .inr ⟨piece, List.mem_cons_self, hfirst⟩
    · obtain ⟨next, hnext, hc⟩ := List.mem_flatMap.1 hlater
      rcases List.mem_append.1 hc with hsep | hc
      · exact .inl hsep
      · exact .inr ⟨next, List.mem_cons_of_mem _ hnext, hc⟩

/-- Joining the pieces gives the text back. -/
theorem joinWith_splitOnChar (sep : Char) (cs : List Char) :
    joinWith [sep] (splitOnChar sep cs) = cs := by
  induction cs with
  | nil => rfl
  | cons c cs ih =>
    obtain ⟨piece, pieces, hs⟩ := List.exists_cons_of_ne_nil (splitOnChar_ne_nil sep cs)
    rw [hs, joinWith_cons] at ih
    by_cases h : c = sep
    · rw [h, splitOnChar_cons_self, hs, joinWith_cons, List.flatMap_cons, List.append_assoc, ih]
      rfl
    · rw [splitOnChar_cons_of_ne h, hs]
      dsimp only
      rw [joinWith_cons, List.cons_append, ih]

/-- No piece holds the separator. -/
theorem not_mem_of_mem_splitOnChar {sep : Char} {cs piece : List Char}
    (h : piece ∈ splitOnChar sep cs) : sep ∉ piece := by
  induction cs generalizing piece with
  | nil =>
    obtain rfl := List.mem_singleton.1 h
    exact List.not_mem_nil
  | cons c cs ih =>
    by_cases hc : c = sep
    · rw [hc, splitOnChar_cons_self] at h
      rcases List.mem_cons.1 h with rfl | h
      · exact List.not_mem_nil
      · exact ih h
    · obtain ⟨first, others, hs⟩ := List.exists_cons_of_ne_nil (splitOnChar_ne_nil sep cs)
      rw [splitOnChar_cons_of_ne hc, hs] at h
      rcases List.mem_cons.1 h with rfl | h
      · have hfirst : sep ∉ first := ih (by rw [hs]; exact List.mem_cons_self)
        rw [List.mem_cons, not_or]
        exact ⟨Ne.symm hc, hfirst⟩
      · exact ih (by rw [hs]; exact List.mem_cons_of_mem first h)

/-- A piece holds nothing that is not in the text. -/
theorem subset_of_mem_splitOnChar {sep : Char} {cs piece : List Char}
    (h : piece ∈ splitOnChar sep cs) : piece ⊆ cs := by
  rw [← joinWith_splitOnChar sep cs]
  generalize splitOnChar sep cs = pieces at h
  cases pieces with
  | nil => cases h
  | cons first more =>
    rw [joinWith_cons]
    intro c hc
    rcases List.mem_cons.1 h with rfl | h
    · exact List.mem_append_left _ hc
    · refine List.mem_append_right _ (List.mem_flatMap.2 ⟨piece, h, ?_⟩)
      exact List.mem_append_right [sep] hc

/-- A piece in front of a separator is the first piece. -/
theorem splitOnChar_append {sep : Char} {piece : List Char} (h : sep ∉ piece) (rest : List Char) :
    splitOnChar sep (piece ++ sep :: rest) = piece :: splitOnChar sep rest := by
  induction piece with
  | nil => exact splitOnChar_cons_self sep rest
  | cons c piece ih =>
    rw [List.mem_cons, not_or] at h
    rw [List.cons_append, splitOnChar_cons_of_ne (Ne.symm h.1), ih h.2]

/-- A text without separators is one piece. -/
theorem splitOnChar_eq_singleton {sep : Char} {piece : List Char} (h : sep ∉ piece) :
    splitOnChar sep piece = [piece] := by
  induction piece with
  | nil => rfl
  | cons c piece ih =>
    rw [List.mem_cons, not_or] at h
    rw [splitOnChar_cons_of_ne (Ne.symm h.1), ih h.2]

/-- Pieces without separators are the pieces of the text that they are joined to. -/
theorem splitOnChar_joinWith {sep : Char} {pieces : List (List Char)} (hne : pieces ≠ [])
    (h : ∀ piece ∈ pieces, sep ∉ piece) : splitOnChar sep (joinWith [sep] pieces) = pieces := by
  induction pieces with
  | nil => exact absurd rfl hne
  | cons piece pieces ih =>
    have hpiece : sep ∉ piece := h piece List.mem_cons_self
    cases pieces with
    | nil => exact splitOnChar_eq_singleton hpiece
    | cons next more =>
      have hrest := ih (List.cons_ne_nil _ _) fun other hother =>
        h other (List.mem_cons_of_mem _ hother)
      have hjoin : joinWith [sep] (piece :: next :: more) =
          piece ++ sep :: joinWith [sep] (next :: more) := by
        simp [joinWith]
      rw [hjoin, splitOnChar_append hpiece, hrest]

/-- The pieces in front of a separator are those of the text there, and so behind it. -/
theorem splitOnChar_append_cons (sep : Char) (cs rest : List Char) :
    splitOnChar sep (cs ++ sep :: rest) = splitOnChar sep cs ++ splitOnChar sep rest := by
  induction cs with
  | nil => exact splitOnChar_cons_self sep rest
  | cons c cs ih =>
    by_cases h : c = sep
    · rw [h, List.cons_append, splitOnChar_cons_self, splitOnChar_cons_self, ih, List.cons_append]
    · rw [List.cons_append, splitOnChar_cons_of_ne h, splitOnChar_cons_of_ne h, ih]
      cases hs : splitOnChar sep cs with
      | nil => exact absurd hs (splitOnChar_ne_nil sep cs)
      | cons piece pieces => rfl

/-- A text is read up to the first separator beyond a piece without one. -/
theorem takeWhile_ne_append {sep : Char} {piece : List Char} (h : sep ∉ piece) (rest : List Char) :
    (piece ++ rest).takeWhile (· ≠ sep) = piece ++ rest.takeWhile (· ≠ sep) :=
  List.takeWhile_append_of_pos fun _ hc => decide_eq_true fun heq => h (heq ▸ hc)

theorem takeWhile_ne_separator {sep : Char} {piece : List Char} (h : sep ∉ piece)
    (rest : List Char) : (piece ++ sep :: rest).takeWhile (· ≠ sep) = piece := by
  rw [takeWhile_ne_append h, List.takeWhile_cons_of_neg (by simp), List.append_nil]

theorem takeWhile_ne_eq_self {sep : Char} {piece : List Char} (h : sep ∉ piece) :
    piece.takeWhile (· ≠ sep) = piece := by
  have hwhole := takeWhile_ne_append h []
  rwa [List.takeWhile_nil, List.append_nil] at hwhole

/-- There is one piece more than there are separators. -/
theorem length_splitOnChar (sep : Char) (cs : List Char) :
    (splitOnChar sep cs).length = cs.count sep + 1 := by
  induction cs with
  | nil => rfl
  | cons c cs ih =>
    by_cases h : c = sep
    · rw [h, splitOnChar_cons_self, List.length_cons, ih, List.count_cons_self]
    · rw [splitOnChar_cons_of_ne h, List.count_cons_of_ne h, ← ih]
      cases hs : splitOnChar sep cs with
      | nil => exact absurd hs (splitOnChar_ne_nil _ _)
      | cons piece pieces => rw [List.length_cons, List.length_cons]

theorem afterStart?_append (start rest : List Char) :
    afterStart? start (start ++ rest) = some rest := by
  induction start with
  | nil => rfl
  | cons a start ih => simp [afterStart?, ih]

theorem afterStart?_eq_some {start cs rest : List Char} (h : afterStart? start cs = some rest) :
    cs = start ++ rest := by
  induction start generalizing cs with
  | nil => simpa [afterStart?] using h
  | cons a start ih =>
    cases cs with
    | nil => simp [afterStart?] at h
    | cons c cs =>
      simp only [afterStart?] at h
      split at h
      next hc => subst hc; simp [ih h]
      next => simp at h

end JuliaSession.Text
