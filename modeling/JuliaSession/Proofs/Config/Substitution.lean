import Mathlib.Data.List.TakeWhile
import JuliaSession.Proofs.Config.Placeholders

/-!
# One pass over the placeholders of a text

Placeholders are replaced from left to right in one pass. A text is given as pieces in which no
placeholder starts, with placeholders between them. A start that is half written at the end of a
piece is not completed by the placeholder behind it, whose only opening brace is its own; a closing
brace behind a placeholder belongs to the next piece; and what a variable holds is put in as it is.

* `placeholder?_eq_some_iff`: what is found as a placeholder at the start of a text is one.
* `substituteFrom_plain`: a piece in which no placeholder starts is kept.
* `Template`: pieces with placeholders between them.
* `substitute_one_pass`: what a pass makes of such a text, and of one without placeholders.
-/

namespace JuliaSession.Config

/-! ### Where a placeholder is found -/

/-- What is left of a text behind its first characters that pass a test. -/
theorem drop_length_takeWhile (p : Char → Bool) (cs : List Char) :
    cs.drop (cs.takeWhile p).length = cs.dropWhile p := by
  have hsplit : cs.takeWhile p ++ cs.dropWhile p = cs := List.takeWhile_append_dropWhile
  calc cs.drop (cs.takeWhile p).length
      = (cs.takeWhile p ++ cs.dropWhile p).drop (cs.takeWhile p).length := by rw [hsplit]
    _ = cs.dropWhile p := List.drop_left

/-- What a text starts with is found as a placeholder exactly if it is one. -/
theorem placeholder?_eq_some_iff {cs name after : List Char} :
    placeholder? cs = some (name, after) ↔ IsName name ∧ cs = placeholderFor name ++ after := by
  constructor
  · intro h
    unfold placeholder? at h
    split at h
    · cases h
    next rest hrest =>
      simp only [drop_length_takeWhile] at h
      split at h
      next first more last tail hname hlast =>
        cases h
        -- the name reaches to the first closing brace, so there is none inside of it
        have hend : placeholderEnd ∉ rest.takeWhile (· ≠ placeholderEnd) := by
          intro hmem
          have hpasses := List.mem_takeWhile_imp hmem
          exact absurd rfl (of_decide_eq_true hpasses)
        have hne : rest.dropWhile (· ≠ placeholderEnd) ≠ [] := by
          rw [hlast]
          exact List.cons_ne_nil _ _
        have hclosed : last = placeholderEnd := by
          have hhead := List.head_dropWhile_not (· ≠ placeholderEnd) hne
          simpa only [hlast, List.head_cons, decide_eq_false_iff_not, not_not] using hhead
        have hsplit : rest = first :: more ++ placeholderEnd :: after := by
          rw [hclosed] at hlast
          rw [← hname, ← hlast]
          exact List.takeWhile_append_dropWhile.symm
        rw [hname] at hend ⊢
        refine ⟨⟨List.cons_ne_nil _ _, hend⟩, ?_⟩
        rw [Text.afterStart?_eq_some hrest, hsplit, placeholderFor]
        simp only [List.append_assoc, List.singleton_append]
      · cases h
  · rintro ⟨hname, rfl⟩
    exact placeholder?_placeholderFor hname after

/-! ### Pieces -/

/-- A piece of text in which no placeholder starts. -/
def Plain (piece : List Char) : Prop := ¬ placeholderStart <:+: piece

theorem Plain.of_cons {c : Char} {more : List Char} (h : Plain (c :: more)) : Plain more :=
  fun hwithin => h (hwithin.trans (List.suffix_cons c more).isInfix)

/-- What stands behind a piece: nothing, or a placeholder. -/
def Braced (rest : List Char) : Prop := ∀ c ∈ rest.head?, c = Char.ofNat 123

theorem braced_placeholderFor (name rest : List Char) : Braced (placeholderFor name ++ rest) := by
  rintro c ⟨⟩
  rfl

/-- No placeholder starts in a piece. A start that the piece breaks off is not completed behind it,
where the next character is an opening brace. -/
theorem placeholder?_plain {c : Char} {more rest : List Char} (hplain : Plain (c :: more))
    (hrest : Braced rest) : placeholder? (c :: more ++ rest) = none := by
  have hnot : Text.afterStart? placeholderStart (c :: more ++ rest) = none := by
    rw [Option.eq_none_iff_forall_ne_some]
    intro after hafter
    rcases List.append_eq_append_iff.1 (Text.afterStart?_eq_some hafter) with
      ⟨missing, hstart, hmissing⟩ | ⟨beyond, hpiece, -⟩
    · cases missing with
      | nil =>
        rw [List.append_nil] at hstart
        exact hplain (hstart ▸ List.infix_rfl)
      | cons d missing =>
        -- the rest of the start has no opening brace
        have hd : d = Char.ofNat 123 := hrest d (by rw [hmissing]; rfl)
        have htail : d ∈ "env:".toList := by
          have htail := (List.cons.inj hstart).2
          exact htail ▸ List.mem_append_right more List.mem_cons_self
        rw [hd] at htail
        exact absurd htail (by decide)
    · exact hplain (hpiece ▸ (List.prefix_append _ _).isInfix)
  rw [placeholder?, hnot]

/-- A piece is kept. -/
theorem substituteFrom_plain (lookup : String → String) {piece rest : List Char}
    (hplain : Plain piece) (hrest : Braced rest) :
    substituteFrom lookup 0 (piece ++ rest) = piece ++ substituteFrom lookup 0 rest := by
  induction piece with
  | nil => rfl
  | cons c more ih =>
    have hnone := placeholder?_plain hplain hrest
    rw [List.cons_append] at hnone ⊢
    rw [substituteFrom, hnone, ih hplain.of_cons, List.cons_append]

/-- A text in which no placeholder stands anywhere is kept. -/
theorem substituteFrom_eq_self (lookup : String → String) {cs : List Char}
    (h : ∀ name, IsName name → ¬ placeholderFor name <:+: cs) :
    substituteFrom lookup 0 cs = cs := by
  induction cs with
  | nil => rfl
  | cons c rest ih =>
    have hnone : placeholder? (c :: rest) = none := by
      rw [Option.eq_none_iff_forall_ne_some]
      rintro ⟨name, after⟩ hfound
      obtain ⟨hname, hcs⟩ := placeholder?_eq_some_iff.1 hfound
      exact h name hname (hcs ▸ (List.prefix_append _ _).isInfix)
    have hrest := ih fun name hname hwithin =>
      h name hname (hwithin.trans (List.suffix_cons c rest).isInfix)
    rw [substituteFrom, hnone, hrest]

/-! ### Templates -/

/-- A text of pieces in which no placeholder starts, with placeholders between them. -/
structure Template where
  /-- The piece in front. -/
  front : List Char
  /-- The name of each placeholder, and the piece behind it. -/
  holes : List (List Char × List Char)
  /-- No placeholder starts in the piece in front. -/
  plain_front : Plain front
  /-- The placeholders have names. -/
  isName : ∀ hole ∈ holes, IsName hole.1
  /-- No placeholder starts in a piece behind a placeholder. -/
  plain : ∀ hole ∈ holes, Plain hole.2

namespace Template

/-- The text with its placeholders. -/
def text (template : Template) : List Char :=
  template.front ++ template.holes.flatMap fun hole => placeholderFor hole.1 ++ hole.2

/-- The text with the values of variables in place of the placeholders. -/
def filled (template : Template) (lookup : String → String) : List Char :=
  template.front ++
    template.holes.flatMap fun hole => (lookup (String.ofList hole.1)).toList ++ hole.2

theorem braced_holes (holes : List (List Char × List Char)) :
    Braced (holes.flatMap fun hole => placeholderFor hole.1 ++ hole.2) := by
  cases holes with
  | nil => exact fun _ h => nomatch h
  | cons hole holes =>
    rw [List.flatMap_cons, List.append_assoc]
    exact braced_placeholderFor _ _

/-- Each placeholder gives way to its value, and the piece behind it stays. -/
theorem substituteFrom_holes (lookup : String → String) {holes : List (List Char × List Char)}
    (hname : ∀ hole ∈ holes, IsName hole.1) (hplain : ∀ hole ∈ holes, Plain hole.2) :
    substituteFrom lookup 0 (holes.flatMap fun hole => placeholderFor hole.1 ++ hole.2) =
      holes.flatMap fun hole => (lookup (String.ofList hole.1)).toList ++ hole.2 := by
  induction holes with
  | nil => rfl
  | cons hole holes ih =>
    rw [List.forall_mem_cons] at hname hplain
    rw [List.flatMap_cons, List.flatMap_cons, List.append_assoc,
      substituteFrom_placeholderFor lookup hname.1,
      substituteFrom_plain lookup hplain.1 (braced_holes holes), ih hname.2 hplain.2,
      List.append_assoc]

theorem substituteFrom_text (lookup : String → String) (template : Template) :
    substituteFrom lookup 0 template.text = template.filled lookup := by
  rw [text, filled, substituteFrom_plain lookup template.plain_front (braced_holes _),
    substituteFrom_holes lookup template.isName template.plain]

end Template

/-- Replacing the placeholders of a text is one pass from left to right: between pieces in which no
placeholder starts, each one gives way to its variable's value (nothing for one that is not set),
whatever the values hold; and a text without placeholders stays as it is. -/
theorem substitute_one_pass (environment : Assoc String String) :
    (∀ template : Template, substitute environment (String.ofList template.text) =
      String.ofList
        (template.filled fun name => (Assoc.get? name environment).getD "")) ∧
    ∀ text : String, (∀ name, IsName name → ¬ placeholderFor name <:+: text.toList) →
      substitute environment text = text := by
  constructor
  · intro template
    rw [substitute, String.toList_ofList, template.substituteFrom_text]
  · intro text htext
    rw [substitute, substituteFrom_eq_self _ htext, String.ofList_toList]

/-- A start that is broken off in front of a placeholder, a closing brace behind it, and one more
placeholder. -/
def brokenOff : Template where
  front := "\x7ben".toList
  holes := [(['A'], [placeholderEnd]), (['B'], [])]
  plain_front := by unfold Plain; decide
  isName := by unfold IsName; decide
  plain := by unfold Plain; decide

theorem brokenOff_text : String.ofList brokenOff.text = "\x7ben\x7benv:A\x7d\x7d\x7benv:B\x7d" := by
  decide

/-- The value of the first variable looks like a placeholder and stays, the second one is not set;
and a placeholder that is not closed is none. -/
theorem substitute_one_pass_brokenOff :
    let environment := [("A", "\x7benv:B\x7d")]
    substitute environment "\x7ben\x7benv:A\x7d\x7d\x7benv:B\x7d" = "\x7ben\x7benv:B\x7d\x7d" ∧
      (∀ name, IsName name → ¬ placeholderFor name <:+: "\x7benv:A".toList) ∧
      substitute environment "\x7benv:A" = "\x7benv:A" := by
  intro environment
  obtain ⟨htemplate, hplain⟩ := substitute_one_pass environment
  have hnone : ∀ name, IsName name → ¬ placeholderFor name <:+: "\x7benv:A".toList := by
    intro name _ hwithin
    have hend : placeholderEnd ∈ placeholderFor name :=
      List.mem_append_right _ (List.mem_singleton_self _)
    exact absurd (hwithin.subset hend) (by decide)
  refine ⟨?_, hnone, hplain _ hnone⟩
  rw [← brokenOff_text, htemplate brokenOff]
  decide

end JuliaSession.Config
