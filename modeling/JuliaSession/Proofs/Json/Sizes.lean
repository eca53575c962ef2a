import JuliaSession.Proofs.Json.Spelling
import Mathlib.Data.List.TakeDrop

/-!
# How much text values and tokens take

The weight of a value is the number of characters that its shortest text has at least: brackets,
quotes and colons count, and a character that cannot stand for itself counts twice. Each token of a
commented text takes characters of its own, so the tokens of a text take no more than the text.

* `weight`: how many characters the text of a value has at least.
* `totalSize_tokens_le`: the tokens of a text take no more than the text.
* `length_tokens_le`: a text has no fewer characters than tokens.
-/

namespace JuliaSession.Json

open Commented (Token stringToken signToken exponentToken digitsToken? numberToken? nextToken?
  skipBlank)

/-! ### Values -/

/-- How many characters of a text a character of a string takes at least. -/
def charWeight (c : Char) : Nat := if Spelling.isLiteral c then 1 else 2

/-- How many characters of a text the characters of a string take at least. -/
def charsWeight : List Char → Nat
  | [] => 0
  | c :: rest => charWeight c + charsWeight rest

@[simp]
theorem charsWeight_nil : charsWeight [] = 0 := rfl

@[simp]
theorem charsWeight_cons (c : Char) (cs : List Char) :
    charsWeight (c :: cs) = charWeight c + charsWeight cs := rfl

@[simp]
theorem charsWeight_append (cs more : List Char) :
    charsWeight (cs ++ more) = charsWeight cs + charsWeight more := by
  induction cs with
  | nil => exact (Nat.zero_add _).symm
  | cons c rest ih => rw [List.cons_append, charsWeight, charsWeight, ih, Nat.add_assoc]

@[simp]
theorem charsWeight_reverse (cs : List Char) : charsWeight cs.reverse = charsWeight cs := by
  induction cs with
  | nil => rfl
  | cons c rest ih =>
    rw [List.reverse_cons, charsWeight_append, ih, charsWeight_cons, charsWeight_cons,
      charsWeight_nil, Nat.add_zero, Nat.add_comm]

theorem charWeight_eq (c : Char) :
    charWeight c = 1 ∧ Spelling.isLiteral c = true ∨ charWeight c = 2 := by
  unfold charWeight
  split
  next h => exact .inl ⟨rfl, h⟩
  next => exact .inr rfl

theorem charWeight_le (c : Char) : charWeight c ≤ 2 := by
  unfold charWeight
  split <;> decide

theorem length_le_charsWeight (cs : List Char) : cs.length ≤ charsWeight cs := by
  induction cs with
  | nil => exact Nat.le_refl _
  | cons c rest ih =>
    have hc := charWeight_eq c
    rw [List.length_cons, charsWeight_cons]
    omega

/-- Characters that take no more than their number stand for themselves. -/
theorem isLiteral_of_charsWeight_le {cs : List Char} (h : charsWeight cs ≤ cs.length) :
    ∀ c ∈ cs, Spelling.isLiteral c = true := by
  induction cs with
  | nil => nofun
  | cons c rest ih =>
    have hrest := length_le_charsWeight rest
    rw [List.length_cons, charsWeight_cons] at h
    rcases charWeight_eq c with ⟨hc, hliteral⟩ | hc
    · exact List.forall_mem_cons.2 ⟨hliteral, ih (by omega)⟩
    · omega

mutual

/-- How many characters the text of a value has at least. -/
def weight : Json → Nat
  | .str s => charsWeight s.toList + 2
  | .arr items => itemsWeight items + 2
  | .obj members => membersWeight members + 2
  | _ => 0

/-- How many characters the texts of some items have at least. -/
def itemsWeight : List Json → Nat
  | [] => 0
  | item :: rest => weight item + itemsWeight rest

/-- How many characters the texts of some members have at least: a key has two quotes and a
colon. -/
def membersWeight : List (String × Json) → Nat
  | [] => 0
  | (key, value) :: rest => charsWeight key.toList + 3 + weight value + membersWeight rest

end

theorem itemsWeight_append (items more : List Json) :
    itemsWeight (items ++ more) = itemsWeight items + itemsWeight more := by
  induction items with
  | nil => exact (Nat.zero_add _).symm
  | cons item rest ih => rw [List.cons_append, itemsWeight, itemsWeight, ih, Nat.add_assoc]

theorem itemsWeight_reverse (items : List Json) :
    itemsWeight items.reverse = itemsWeight items := by
  induction items with
  | nil => rfl
  | cons item rest ih =>
    rw [List.reverse_cons, itemsWeight_append, ih, itemsWeight, itemsWeight, itemsWeight,
      Nat.add_zero, Nat.add_comm]

/-- A member that replaces an earlier one adds no more than itself. -/
theorem membersWeight_insert_le (key : String) (value : Json) (members : List (String × Json)) :
    membersWeight (Assoc.insert key value members) ≤
      membersWeight members + (charsWeight key.toList + 3 + weight value) := by
  induction members with
  | nil => simp only [Assoc.insert, membersWeight, Nat.add_zero, Nat.zero_add, Nat.le_refl]
  | cons member rest ih =>
    obtain ⟨other, old⟩ := member
    rw [Assoc.insert]
    split
    next hsame =>
      rw [hsame]
      simp only [membersWeight]
      omega
    next =>
      simp only [membersWeight]
      omega

/-! ### Tokens -/

/-- How many characters a token takes at least. -/
def Commented.Token.size : Token → Nat
  | .string raw | .number raw => raw.length
  | .word value => weight value + 1
  | _ => 1

/-- What a list of tokens takes together. -/
def totalSize : List Token → Nat
  | [] => 0
  | token :: rest => token.size + totalSize rest

@[simp]
theorem totalSize_nil : totalSize [] = 0 := rfl

@[simp]
theorem totalSize_cons (token : Token) (ts : List Token) :
    totalSize (token :: ts) = token.size + totalSize ts := rfl

mutual

theorem length_skipBlank_le (cs : List Char) : (skipBlank cs).length ≤ cs.length := by
  unfold skipBlank
  split
  · exact Nat.le_refl _
  next c rest =>
    have hrest := length_skipBlank_le rest
    have hcomment := length_skipComment_le rest
    rw [List.length_cons]
    split
    · omega
    · split
      · omega
      · split
        · split
          next more =>
            have hmore := length_skipComment_le more
            simp only [List.length_cons]
            omega
          next => simp only [List.length_cons, Nat.le_refl]
        · simp only [List.length_cons, Nat.le_refl]
termination_by cs.length

theorem length_skipComment_le (cs : List Char) :
    (skipBlank.skipComment cs).length ≤ cs.length := by
  unfold skipBlank.skipComment
  split
  · exact Nat.le_refl _
  next c rest =>
    have hrest := length_skipBlank_le rest
    have hcomment := length_skipComment_le rest
    rw [List.length_cons]
    split <;> omega
termination_by cs.length

end

theorem length_stringToken {done cs raw rest : List Char} {escaped : Bool}
    (h : stringToken done escaped cs = some (raw, rest)) :
    raw.length + rest.length = done.length + cs.length ∧ done.length < raw.length := by
  induction cs generalizing done escaped with
  | nil => cases h
  | cons c more ih =>
    rw [stringToken] at h
    split at h
    · cases h
    · split at h
      · cases h
        simp only [List.length_reverse, List.length_cons]
        omega
      · obtain ⟨hlength, hlt⟩ := ih h
        simp only [List.length_cons] at hlength hlt ⊢
        omega

theorem length_spanDigits {cs ds rest : List Char} (h : spanDigits cs = (ds, rest)) :
    ds.length + rest.length = cs.length := by
  rw [spanDigits, List.span_eq_takeWhile_dropWhile, Prod.mk.injEq] at h
  rw [← h.1, ← h.2, ← List.length_append, List.takeWhile_append_dropWhile]

theorem length_signToken (cs : List Char) :
    (signToken cs).1.length + (signToken cs).2.length = cs.length := by
  unfold signToken
  split
  · exact Nat.add_comm _ _
  · exact Nat.add_comm _ _
  · exact Nat.zero_add _

theorem length_exponentToken (cs : List Char) :
    (exponentToken cs).1.length + (exponentToken cs).2.length = cs.length := by
  unfold exponentToken
  split
  next e rest =>
    split
    · have hsign := length_signToken rest
      dsimp only
      split
      · exact Nat.zero_add _
      next ds left hdigits =>
        have hspan := length_spanDigits hdigits
        simp only [List.length_cons, List.length_append]
        omega
    · exact Nat.zero_add _
  next => rfl

theorem length_digitsToken? {cs ds rest : List Char} (h : digitsToken? cs = some (ds, rest)) :
    ds.length + rest.length = cs.length ∧ 1 ≤ ds.length := by
  unfold digitsToken? at h
  split at h
  next more hdigits =>
    have hspan := length_spanDigits hdigits
    split at h
    · cases h
    next fraction left hfraction =>
      cases h
      have hmore := length_spanDigits hfraction
      simp only [List.length_cons, List.length_nil] at hspan ⊢
      omega
  · cases h
  next whole more hne hdigits =>
    have hspan := length_spanDigits hdigits
    have hmore := length_spanDigits (Prod.eta (spanDigits more)).symm
    simp only [Option.some.injEq, Prod.mk.injEq] at h
    obtain ⟨rfl, rfl⟩ := h
    simp only [List.length_cons, List.length_append] at hspan ⊢
    omega
  next hne _ hdigits =>
    simp only [Option.some.injEq, Prod.mk.injEq] at h
    obtain ⟨rfl, rfl⟩ := h
    exact ⟨length_spanDigits hdigits, List.length_pos_iff.2 hne⟩

theorem length_numberToken? {cs raw rest : List Char} (h : numberToken? cs = some (raw, rest)) :
    raw.length + rest.length = cs.length ∧ 1 ≤ raw.length := by
  have hsign := length_signToken cs
  unfold numberToken? at h
  generalize signToken cs = signed at h hsign
  obtain ⟨⟨ds, left⟩, hdigits, hsame⟩ := Option.map_eq_some_iff.1 h
  simp only [Prod.mk.injEq] at hsame
  obtain ⟨rfl, rfl⟩ := hsame
  have hexponent := length_exponentToken left
  obtain ⟨hlength, hpos⟩ := length_digitsToken? hdigits
  simp only [List.length_append]
  omega

/-- A token takes at least one character, and what is left has that many fewer. -/
theorem size_nextToken? {cs rest : List Char} {token : Token}
    (h : nextToken? cs = some (token, rest)) :
    1 ≤ token.size ∧ token.size + rest.length ≤ cs.length := by
  unfold nextToken? at h
  split at h
  case h_1 more =>
    obtain ⟨⟨raw, left⟩, hraw, hsame⟩ := Option.map_eq_some_iff.1 h
    cases hsame
    obtain ⟨hlength, hlt⟩ := length_stringToken hraw
    simp only [List.length_cons, List.length_nil] at hlength hlt ⊢
    simp only [Token.size]
    omega
  -- a brace, or a number; all other tokens but strings have one or a few fixed characters
  case h_9 c more _ _ _ _ _ _ _ _ =>
    split at h
    · cases h
      exact ⟨Nat.le_refl _, Nat.le_of_eq (Nat.add_comm _ _)⟩
    · split at h
      · cases h
        exact ⟨Nat.le_refl _, Nat.le_of_eq (Nat.add_comm _ _)⟩
      · obtain ⟨⟨raw, left⟩, hraw, hsame⟩ := Option.map_eq_some_iff.1 h
        cases hsame
        obtain ⟨hlength, hlt⟩ := length_numberToken? hraw
        exact ⟨hlt, Nat.le_of_eq hlength⟩
  case h_10 => cases h
  all_goals
    cases h
    simp only [Token.size, weight, List.length_cons]
    omega

/-- The tokens of a text take no more than the text. -/
theorem totalSize_tokens_le (fuel : Nat) (cs : List Char) :
    totalSize (Commented.tokens fuel cs).1 ≤ cs.length ∧
      (Commented.tokens fuel cs).1.length ≤ totalSize (Commented.tokens fuel cs).1 := by
  -- by induction on the number of tokens that may still be cut
  induction fuel generalizing cs with
  | zero => exact ⟨Nat.zero_le _, Nat.le_refl _⟩
  | succ fuel ih =>
    have hskip := length_skipBlank_le cs
    rw [Commented.tokens]
    split
    · exact ⟨Nat.zero_le _, Nat.le_refl _⟩
    · split
      · exact ⟨Nat.zero_le _, Nat.le_refl _⟩
      next token rest hnext =>
        obtain ⟨hpos, hsize⟩ := size_nextToken? hnext
        obtain ⟨htotal, hlength⟩ := ih rest
        simp only [totalSize_cons, List.length_cons]
        omega

/-- A text has no fewer characters than tokens. -/
theorem length_tokens_le (fuel : Nat) (cs : List Char) :
    (Commented.tokens fuel cs).1.length ≤ cs.length :=
  Nat.le_trans (totalSize_tokens_le fuel cs).2 (totalSize_tokens_le fuel cs).1

end JuliaSession.Json
