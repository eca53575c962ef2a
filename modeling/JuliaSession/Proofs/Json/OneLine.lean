import Mathlib.Tactic.SplitIfs
import JuliaSession.Json.Print

/-!
# Values on one line

JSON without spaces and the notation of diagnostics escape every line feed, so a value that is
written in one of these styles stays on one line, whatever texts it holds.

* `Json.Style.OneLine`: a style whose own words and quotes have no line feed. `oneLine_compact` and
  `oneLine_literal` are the two styles.
* `Json.newline_not_mem_write`: what is written in such a style is on one line.
-/

namespace JuliaSession

/-! ### Numbers -/

theorem newline_not_mem_toDigits (n : Nat) : '\n' ∉ Nat.toDigits 10 n := by
  intro h
  have hdigit : '\n'.isDigit = true :=
    Nat.isDigit_of_mem_toDigits (by decide) (by decide) h
  cases hdigit

theorem newline_not_mem_toString (n : Nat) : '\n' ∉ (toString n).toList := by
  rw [Nat.toString_eq_ofList_toDigits, String.toList_ofList]
  exact newline_not_mem_toDigits n

theorem newline_not_mem_toString_int (i : Int) : '\n' ∉ (toString i).toList := by
  cases i with
  | ofNat n => exact newline_not_mem_toString n
  | negSucc n =>
    change '\n' ∉ ("-" ++ toString (n + 1)).toList
    rw [String.toList_append, List.mem_append, not_or]
    exact ⟨by decide, newline_not_mem_toString (n + 1)⟩

theorem newline_not_mem_replicate {c : Char} (h : '\n' ≠ c) (count : Nat) :
    '\n' ∉ List.replicate count c := fun hmem => h (List.eq_of_mem_replicate hmem)

namespace Decimal

theorem newline_not_mem_chars (digits : Digits) : '\n' ∉ digits.chars := by
  unfold Digits.chars
  rw [List.mem_append, not_or]
  exact ⟨newline_not_mem_replicate (by decide) _, newline_not_mem_toDigits _⟩

theorem newline_not_mem_text (layout : Layout) (digits : Digits) :
    '\n' ∉ digits.text layout := by
  have hchars := newline_not_mem_chars digits
  have htake (count : Nat) : '\n' ∉ digits.chars.take count :=
    fun h => hchars (List.mem_of_mem_take h)
  have hdrop (count : Nat) : '\n' ∉ digits.chars.drop count :=
    fun h => hchars (List.mem_of_mem_drop h)
  have hzeros (count : Nat) : '\n' ∉ List.replicate count '0' :=
    newline_not_mem_replicate (by decide) count
  have hexponent (n : Nat) : '\n' ∉ Nat.toDigits 10 n := newline_not_mem_toDigits n
  unfold Digits.text
  dsimp only
  split_ifs <;> simp [hchars, htake, hdrop, hzeros, hexponent, -List.drop_one]

end Decimal

theorem Binary64.newline_not_mem_text (x : Binary64) (layout : Decimal.Layout)
    {infinite nan : String} (hinfinite : '\n' ∉ infinite.toList) (hnan : '\n' ∉ nan.toList) :
    '\n' ∉ (x.text layout infinite nan).toList := by
  unfold Binary64.text
  have hsign : '\n' ∉ (if x.isNegative then "-" else "").toList := by
    split_ifs <;> decide
  dsimp only
  generalize (if x.isNegative then "-" else "") = sign at hsign ⊢
  have hdigits := Decimal.newline_not_mem_text layout (Decimal.shortest x)
  split_ifs
  · exact hnan
  · simp [hsign, hinfinite]
  · simp [hsign]
  · simp [hsign, hdigits]

/-! ### Texts -/

theorem Text.newline_not_mem_hexFixed (width n : Nat) : '\n' ∉ hexFixed width n := by
  induction width generalizing n with
  | zero => exact List.not_mem_nil
  | succ width ih =>
    have hdigit : ∀ d : Fin 16, '\n' ≠ hexDigit d := by decide
    rw [hexFixed, List.mem_append, List.mem_singleton, not_or]
    exact ⟨ih _, hdigit ⟨n % 16, Nat.mod_lt n (by decide)⟩⟩

/-- No character is written as a line feed. -/
theorem Text.Quoted.newline_not_mem_encodeChar {quote : Char} (hquote : '\n' ≠ quote) (c : Char) :
    '\n' ∉ encodeChar quote c := by
  have hhex (width n : Nat) : '\n' ∉ hexFixed width n := newline_not_mem_hexFixed width n
  unfold encodeChar
  dsimp only
  split_ifs with hc hline
  · rcases hc with rfl | rfl
    · simp [hquote]
    · decide
  all_goals first | decide | simp [hhex]
  exact fun heq => hline heq.symm

theorem Text.Quoted.newline_not_mem_encode (cs : List Char) : '\n' ∉ encode cs := by
  have hquote : '\n' ≠ quoteFor cs := by
    unfold quoteFor
    split_ifs <;> decide
  unfold encode
  simp [hquote, newline_not_mem_encodeChar hquote]

namespace Json

/-- No character is written as a line feed. -/
theorem newline_not_mem_escapeChar (c : Char) : '\n' ∉ escapeChar c := by
  have hhex (width n : Nat) : '\n' ∉ Text.hexFixed width n :=
    Text.newline_not_mem_hexFixed width n
  unfold escapeChar
  split_ifs with _ _ hline
  all_goals first | decide | simp [hhex]
  exact fun heq => hline heq.symm

theorem newline_not_mem_quoteChars (cs : List Char) : '\n' ∉ quoteChars cs := by
  unfold quoteChars
  simp [newline_not_mem_escapeChar]

/-! ### Values -/

/-- A style that writes everything on one line. -/
structure Style.OneLine (style : Style) : Prop where
  /-- Words have no line feed. -/
  words : ∀ word ∈ [style.nullWord, style.trueWord, style.falseWord, style.infinityWord,
    style.nanWord], '\n' ∉ word.toList
  /-- Line feeds are escaped between quotes. -/
  quote : ∀ cs, '\n' ∉ style.quote cs
  /-- What stands between two members has no line feed. -/
  comma : '\n' ∉ style.comma.toList
  /-- What stands between a key and its value has no line feed. -/
  colon : '\n' ∉ style.colon.toList
  /-- There is no line for each member. -/
  indent : style.indent = none

theorem oneLine_compact : Style.compact.OneLine :=
  ⟨by decide, newline_not_mem_quoteChars, by decide, by decide, rfl⟩

theorem oneLine_literal : Style.literal.OneLine :=
  ⟨by decide, Text.Quoted.newline_not_mem_encode, by decide, by decide, rfl⟩

variable {style : Style}

theorem Style.OneLine.enclose (h : style.OneLine) (depth : Nat) {left right : Char}
    {pieces : List (List Char)} (hleft : '\n' ≠ left) (hright : '\n' ≠ right)
    (hpieces : ∀ piece ∈ pieces, '\n' ∉ piece) :
    '\n' ∉ style.enclose depth left right pieces := by
  -- without an indentation no line is ever broken
  have hbreak (depth : Nat) : style.lineBreak depth = [] := by
    unfold lineBreak
    rw [h.indent]
  unfold Style.enclose
  cases pieces with
  | nil => simp [hleft, hright]
  | cons first rest =>
    have hfirst := hpieces first List.mem_cons_self
    have hrest (piece : List Char) (hmem : piece ∈ rest) : '\n' ∉ piece :=
      hpieces piece (List.mem_cons_of_mem first hmem)
    simp only [hbreak, List.append_nil, List.cons_append, List.nil_append, List.mem_cons,
      List.mem_append, List.mem_flatMap, List.not_mem_nil, or_false, not_or, not_exists, not_and]
    exact ⟨hleft, ⟨hfirst, fun piece hmem => ⟨h.comma, hrest piece hmem⟩⟩, hright⟩

mutual

/-- A value stays on one line. -/
theorem newline_not_mem_write (h : style.OneLine) (depth : Nat) (value : Json) :
    '\n' ∉ write style depth value := by
  cases value with
  | null => exact h.words _ (by simp)
  | bool b =>
    rw [write]
    split_ifs <;> exact h.words _ (by simp)
  | int i => exact newline_not_mem_toString_int i
  | float x => exact x.newline_not_mem_text _ (h.words _ (by simp)) (h.words _ (by simp))
  | str s => exact h.quote s.toList
  | arr items =>
    exact h.enclose depth (by decide) (by decide) (newline_not_mem_writeItems h _ items)
  | obj members =>
    exact h.enclose depth (by decide) (by decide) (newline_not_mem_writeMembers h _ members)

/-- Items stay on one line. -/
theorem newline_not_mem_writeItems (h : style.OneLine) (depth : Nat) (items : List Json) :
    ∀ text ∈ writeItems style depth items, '\n' ∉ text := by
  cases items with
  | nil => exact nofun
  | cons item rest =>
    rw [writeItems, List.forall_mem_cons]
    exact ⟨newline_not_mem_write h depth item, newline_not_mem_writeItems h depth rest⟩

/-- Members stay on one line, whatever their keys are. -/
theorem newline_not_mem_writeMembers (h : style.OneLine) (depth : Nat)
    (members : List (String × Json)) :
    ∀ text ∈ writeMembers style depth members, '\n' ∉ text := by
  match members with
  | [] => exact nofun
  | (key, value) :: rest =>
    rw [writeMembers, List.forall_mem_cons]
    refine ⟨?_, newline_not_mem_writeMembers h depth rest⟩
    rw [List.mem_append, List.mem_append, not_or, not_or]
    exact ⟨⟨h.quote key.toList, h.colon⟩, newline_not_mem_write h depth value⟩

end

/-- A value that is no text has one line. -/
theorem newline_not_mem_plainText {value : Json} (h : ∀ s, value ≠ .str s) :
    '\n' ∉ value.plainText.toList := by
  cases value with
  | str s => exact absurd rfl (h s)
  | null | bool | int | float | arr | obj =>
    exact String.toList_ofList ▸ newline_not_mem_write oneLine_literal 0 _

end Json

end JuliaSession
