import Mathlib.Data.List.Basic
import JuliaSession.Glob

/-!
# Groups of alternatives in a pattern

A group is a stretch between an opening and a closing brace that has no brace inside. A pattern is
expanded by writing each alternative of its first group in place of the group and starting over, so
a group that has others inside is reached when these are gone.

* `firstGroup?_eq_some_iff`, `firstGroup?_eq_none_iff`: the group that is found is the first one,
  and none is found only if there is none.
* `Unfolds`: a pattern is expanded by finitely many such steps, and `unfolds_expandChars`: every
  pattern is.
* `mem_expandChars_group`: wherever a group stands, it may be expanded first.
-/

namespace JuliaSession.Glob

open JuliaSession.Text

/-! ### Texts without braces, and texts without groups -/

/-- There is no brace in the text. -/
def BraceFree (cs : List Char) : Prop := ∀ c ∈ cs, isBraceFree c = true

theorem isBraceFree_iff {c : Char} : isBraceFree c = true ↔ c ≠ openBrace ∧ c ≠ closeBrace := by
  simp [isBraceFree]

theorem openBrace_ne_closeBrace : openBrace ≠ closeBrace := by decide

@[simp]
theorem braceFree_nil : BraceFree [] := by simp [BraceFree]

@[simp]
theorem braceFree_cons_iff {c : Char} {cs : List Char} :
    BraceFree (c :: cs) ↔ isBraceFree c = true ∧ BraceFree cs := by
  simp [BraceFree]

@[simp]
theorem braceFree_append_iff {cs ds : List Char} :
    BraceFree (cs ++ ds) ↔ BraceFree cs ∧ BraceFree ds := by
  simp [BraceFree, or_imp, forall_and]

theorem BraceFree.openBrace_not_mem {cs : List Char} (h : BraceFree cs) : openBrace ∉ cs :=
  fun hmem => (isBraceFree_iff.1 (h _ hmem)).1 rfl

/-- The pattern that a group stands in. -/
def Group.text (group : Group) : List Char :=
  group.before ++ openBrace :: (group.body ++ closeBrace :: group.after)

/-- No opening brace is followed by a closing one without a brace between them. -/
def Groupless (cs : List Char) : Prop := ∀ group : Group, BraceFree group.body → cs ≠ group.text

theorem groupless_nil : Groupless [] := by
  intro group _ h
  simp [Group.text] at h

theorem Groupless.tail {c : Char} {cs : List Char} (h : Groupless (c :: cs)) : Groupless cs := by
  intro group hbody hcs
  refine h { group with before := c :: group.before } hbody ?_
  rw [hcs]
  rfl

/-- A text that does not start with a group has none if there is none behind its first character. -/
theorem Groupless.cons {c : Char} {cs : List Char} (h : Groupless cs)
    (hstart : ∀ body after, BraceFree body → c :: cs ≠ openBrace :: (body ++ closeBrace :: after)) :
    Groupless (c :: cs) := by
  rintro ⟨before, body, after⟩ hbody htext
  cases before with
  | nil => exact hstart body after hbody htext
  | cons d before =>
    obtain ⟨-, hcs⟩ := List.cons.inj htext
    exact h ⟨before, body, after⟩ hbody hcs

theorem BraceFree.groupless {cs : List Char} (h : BraceFree cs) : Groupless cs := by
  rintro ⟨before, body, after⟩ - rfl
  exact h.openBrace_not_mem (by simp [Group.text])

/-! ### The first group -/

/-- A group at the start is found. -/
theorem firstGroup?_start {body : List Char} (hbody : BraceFree body) (after : List Char) :
    firstGroup? (openBrace :: (body ++ closeBrace :: after)) = some ⟨[], body, after⟩ := by
  have hclose : isBraceFree closeBrace = false := by decide
  have htake : (body ++ closeBrace :: after).takeWhile isBraceFree = body := by
    rw [List.takeWhile_append_of_pos hbody, List.takeWhile_cons_of_neg (by simp [hclose]),
      List.append_nil]
  have hdrop : (body ++ closeBrace :: after).dropWhile isBraceFree = closeBrace :: after := by
    rw [List.dropWhile_append_of_pos hbody, List.dropWhile_cons_of_neg (by simp [hclose])]
  simp [firstGroup?, htake, hdrop]

/-- A character that starts no group is passed over. -/
theorem firstGroup?_cons {c : Char} {rest : List Char}
    (h : ∀ body after, BraceFree body →
      c :: rest ≠ openBrace :: (body ++ closeBrace :: after)) :
    firstGroup? (c :: rest) =
      (firstGroup? rest).map fun group => { group with before := c :: group.before } := by
  rw [firstGroup?]
  split
  next d after hopen hdrop =>
    -- what follows the opening brace up to the next brace is no body of a group
    rw [if_neg]
    rintro rfl
    refine h (rest.takeWhile isBraceFree) after (List.all_eq_true.1 List.all_takeWhile) ?_
    rw [beq_iff_eq.1 hopen, ← hdrop, List.takeWhile_append_dropWhile]
  next => rfl

theorem firstGroup?_eq_none {cs : List Char} (h : Groupless cs) : firstGroup? cs = none := by
  induction cs with
  | nil => rfl
  | cons c rest ih =>
    have hstart : ∀ body after, BraceFree body →
        c :: rest ≠ openBrace :: (body ++ closeBrace :: after) :=
      fun body after hbody => h ⟨[], body, after⟩ hbody
    rw [firstGroup?_cons hstart, ih h.tail]
    rfl

/-- A group is found behind a text without groups. -/
theorem firstGroup?_text {group : Group} (hbefore : Groupless group.before)
    (hbody : BraceFree group.body) : firstGroup? group.text = some group := by
  obtain ⟨before, body, after⟩ := group
  -- by induction on the text before the group, no character of which starts a group
  induction before with
  | nil => exact firstGroup?_start hbody after
  | cons c before ih =>
    have hrest : firstGroup? (Group.text ⟨before, body, after⟩) = some ⟨before, body, after⟩ :=
      ih hbefore.tail hbody
    change firstGroup? (c :: Group.text ⟨before, body, after⟩) = _
    rw [firstGroup?_cons, hrest]
    · rfl
    · -- a group from the first character on would end before the one that is there
      intro inner later hinner htext
      obtain ⟨rfl, hends⟩ := List.cons.inj htext
      rw [Group.text, List.append_eq_append_iff] at hends
      dsimp only at hends
      rcases hends with ⟨middle, rfl, hmiddle⟩ | ⟨middle, rfl, hmiddle⟩
      · cases middle with
        | nil => exact openBrace_ne_closeBrace (List.cons.inj hmiddle).1
        | cons d middle =>
          rw [(List.cons.inj hmiddle).1.symm] at hinner
          exact hinner.openBrace_not_mem (by simp)
      · cases middle with
        | nil => exact openBrace_ne_closeBrace (List.cons.inj hmiddle).1.symm
        | cons d middle =>
          obtain ⟨rfl, -⟩ := List.cons.inj hmiddle
          exact hbefore ⟨[], inner, middle⟩ hinner rfl

theorem exists_firstGroup? {group : Group} (hbody : BraceFree group.body) :
    ∃ first, firstGroup? group.text = some first := by
  obtain ⟨before, body, after⟩ := group
  induction before with
  | nil => exact ⟨_, firstGroup?_start hbody after⟩
  | cons c before ih =>
    obtain ⟨first, hfirst⟩ := ih hbody
    -- if no group starts with the first character, the first group lies in what follows
    by_cases hstart : ∃ inner later, BraceFree inner ∧
        c :: Group.text ⟨before, body, after⟩ = openBrace :: (inner ++ closeBrace :: later)
    · obtain ⟨inner, later, hinner, htext⟩ := hstart
      refine ⟨⟨[], inner, later⟩, ?_⟩
      rw [← firstGroup?_start hinner later, ← htext]
      rfl
    · refine ⟨{ first with before := c :: first.before }, ?_⟩
      change firstGroup? (c :: Group.text ⟨before, body, after⟩) = _
      rw [firstGroup?_cons fun inner later hinner htext => hstart ⟨inner, later, hinner, htext⟩,
        hfirst]
      rfl

/-- No group is found exactly if there is none. -/
theorem firstGroup?_eq_none_iff {cs : List Char} : firstGroup? cs = none ↔ Groupless cs := by
  refine ⟨fun hnone group hbody hcs => ?_, firstGroup?_eq_none⟩
  obtain ⟨first, hfirst⟩ := exists_firstGroup? hbody
  rw [← hcs, hnone] at hfirst
  cases hfirst

/-- What is found is a group without braces inside, and there is none before it. -/
theorem firstGroup?_eq_some_iff {cs : List Char} {group : Group} :
    firstGroup? cs = some group ↔
      cs = group.text ∧ BraceFree group.body ∧ Groupless group.before := by
  constructor
  · intro hfound
    induction cs generalizing group with
    | nil => cases hfound
    | cons c rest ih =>
      by_cases hstart : ∃ body after, BraceFree body ∧
          c :: rest = openBrace :: (body ++ closeBrace :: after)
      · obtain ⟨body, after, hbody, htext⟩ := hstart
        rw [htext, firstGroup?_start hbody, Option.some.injEq] at hfound
        subst hfound
        exact ⟨htext, hbody, groupless_nil⟩
      · rw [firstGroup?_cons fun body after hbody htext => hstart ⟨body, after, hbody, htext⟩,
          Option.map_eq_some_iff] at hfound
        obtain ⟨⟨before, body, after⟩, hrest, rfl⟩ := hfound
        obtain ⟨htext, hbody, hbefore⟩ := ih hrest
        refine ⟨congrArg (c :: ·) htext, hbody, hbefore.cons ?_⟩
        -- a group from `c` on that ends before the body would have been found first
        intro inner later hinner hcs
        refine hstart ⟨inner, later ++ openBrace :: (body ++ closeBrace :: after), hinner, ?_⟩
        rw [htext, Group.text, ← List.cons_append, hcs]
        simp
  · rintro ⟨rfl, hbody, hbefore⟩
    exact firstGroup?_text hbefore hbody

/-- The first group stays the first when more follows. -/
theorem firstGroup?_append {cs : List Char} {group : Group} (h : firstGroup? cs = some group)
    (more : List Char) :
    firstGroup? (cs ++ more) = some { group with after := group.after ++ more } := by
  obtain ⟨rfl, hbody, hbefore⟩ := firstGroup?_eq_some_iff.1 h
  exact firstGroup?_eq_some_iff.2 ⟨by simp [Group.text], hbody, hbefore⟩

/-! ### Expansion -/

/-- The pattern with an alternative in place of a group. -/
def Group.replaced (group : Group) (option : List Char) : List Char :=
  group.before ++ option ++ group.after

theorem BraceFree.option {body option : List Char} (h : BraceFree body)
    (hoption : option ∈ splitOnChar ',' body) : BraceFree option :=
  fun _ hc => h _ (subset_of_mem_splitOnChar hoption hc)

/-- Each step takes an opening brace away. -/
theorem count_replaced_lt {cs : List Char} {group : Group} (h : firstGroup? cs = some group)
    {option : List Char} (hoption : option ∈ splitOnChar ',' group.body) :
    (group.replaced option).count openBrace < cs.count openBrace := by
  obtain ⟨rfl, hbody, -⟩ := firstGroup?_eq_some_iff.1 h
  have hnone : option.count openBrace = 0 :=
    List.count_eq_zero.2 (hbody.option hoption).openBrace_not_mem
  simp only [Group.replaced, Group.text, List.count_append, List.count_cons, hnone]
  simp
  omega

/-- What holds of a pattern if it holds of all that its first group is replaced by holds of every
pattern. -/
theorem induction_on_groups {motive : List Char → Prop}
    (done : ∀ cs, firstGroup? cs = none → motive cs)
    (step : ∀ cs group, firstGroup? cs = some group →
      (∀ option ∈ splitOnChar ',' group.body, motive (group.replaced option)) → motive cs)
    (cs : List Char) : motive cs := by
  -- on the number of opening braces
  induction hcount : cs.count openBrace using Nat.strongRecOn generalizing cs with
  | _ count ih =>
    cases hfirst : firstGroup? cs with
    | none => exact done cs hfirst
    | some group =>
      refine step cs group hfirst fun option hoption => ?_
      have hless := count_replaced_lt hfirst hoption
      exact ih _ (hcount ▸ hless) _ rfl

/-- There are as many steps to come as there are opening braces, so more would change nothing. -/
theorem expandWith_eq_expandChars {cs : List Char} {fuel : Nat}
    (h : cs.count openBrace ≤ fuel) : expandWith fuel cs = expandChars cs := by
  unfold expandChars
  induction cs using induction_on_groups generalizing fuel with
  | done cs hnone =>
    have hdone (fuel : Nat) : expandWith fuel cs = [cs] := by
      cases fuel with
      | zero => rfl
      | succ fuel => simp [expandWith, hnone]
    rw [hdone, hdone]
  | step cs group hfirst ih =>
    -- there is an opening brace, so both sides take a step
    obtain ⟨rfl, -, -⟩ := firstGroup?_eq_some_iff.1 hfirst
    obtain ⟨count, hcount⟩ : ∃ count, group.text.count openBrace = count + 1 :=
      Nat.exists_eq_succ_of_ne_zero (by simp [Group.text])
    obtain ⟨more, rfl⟩ : ∃ more, fuel = more + 1 := Nat.exists_eq_succ_of_ne_zero (by omega)
    rw [hcount, expandWith, expandWith, hfirst]
    refine List.flatMap_congr fun option hoption => ?_
    have hless := count_replaced_lt hfirst hoption
    have hmore := @ih option hoption more (by omega)
    have hrest := @ih option hoption count (by omega)
    exact hmore.trans hrest.symm

/-- A pattern without groups stands for itself. -/
theorem expandChars_of_none {cs : List Char} (h : firstGroup? cs = none) :
    expandChars cs = [cs] := by
  have hone := expandWith_eq_expandChars (Nat.le_succ (cs.count openBrace))
  rw [← hone, expandWith, h]

/-- A pattern stands for what it stands for with the alternatives of its first group in place of
the group, one after the other. -/
theorem expandChars_of_some {cs : List Char} {group : Group} (h : firstGroup? cs = some group) :
    expandChars cs =
      (splitOnChar ',' group.body).flatMap fun option => expandChars (group.replaced option) := by
  have hone := expandWith_eq_expandChars (Nat.le_succ (cs.count openBrace))
  rw [← hone, expandWith, h]
  refine List.flatMap_congr fun option hoption => ?_
  exact expandWith_eq_expandChars (Nat.le_of_lt (count_replaced_lt h hoption))

/-- A pattern is expanded in finitely many steps, with this result: it has no group, or it is
expanded when the patterns are that have the alternatives of its first group in place of the
group. -/
inductive Unfolds : List Char → List (List Char) → Prop where
  /-- There is no group. -/
  | done {cs : List Char} (h : firstGroup? cs = none) : Unfolds cs [cs]
  /-- The alternatives of the first group are written in its place. -/
  | step {cs : List Char} {group : Group} {results : List Char → List (List Char)}
    (h : firstGroup? cs = some group)
    (hresults : ∀ option ∈ splitOnChar ',' group.body,
      Unfolds (group.replaced option) (results option)) :
    Unfolds cs ((splitOnChar ',' group.body).flatMap results)

/-- Every pattern is expanded in finitely many steps. -/
theorem unfolds_expandChars (cs : List Char) : Unfolds cs (expandChars cs) := by
  induction cs using induction_on_groups with
  | done cs hnone =>
    rw [expandChars_of_none hnone]
    exact .done hnone
  | step cs group hfirst ih =>
    rw [expandChars_of_some hfirst]
    exact .step hfirst ih

/-- What a pattern stands for has no groups. -/
theorem groupless_of_mem_expandChars {cs text : List Char} (h : text ∈ expandChars cs) :
    Groupless text := by
  induction cs using induction_on_groups with
  | done cs hnone =>
    rw [expandChars_of_none hnone, List.mem_singleton] at h
    exact h ▸ firstGroup?_eq_none_iff.1 hnone
  | step cs group hfirst ih =>
    rw [expandChars_of_some hfirst, List.mem_flatMap] at h
    obtain ⟨option, hoption, htext⟩ := h
    exact ih option hoption htext

/-- Wherever a group stands, its alternatives may be written in its place first. -/
theorem mem_expandChars_group {body : List Char} (hbody : BraceFree body)
    (before after text : List Char) :
    text ∈ expandChars (before ++ openBrace :: (body ++ closeBrace :: after)) ↔
      ∃ option ∈ splitOnChar ',' body, text ∈ expandChars (before ++ option ++ after) := by
  -- on the groups before this one, which are expanded first
  induction before using induction_on_groups with
  | done before hnone =>
    have hfirst : firstGroup? (before ++ openBrace :: (body ++ closeBrace :: after)) =
        some ⟨before, body, after⟩ :=
      firstGroup?_eq_some_iff.2 ⟨rfl, hbody, firstGroup?_eq_none_iff.1 hnone⟩
    rw [expandChars_of_some hfirst, List.mem_flatMap]
    rfl
  | step before group hfirst ih =>
    have hexpand (more : List Char) :
        text ∈ expandChars (before ++ more) ↔ ∃ option ∈ splitOnChar ',' group.body,
          text ∈ expandChars (group.replaced option ++ more) := by
      rw [expandChars_of_some (firstGroup?_append hfirst more), List.mem_flatMap]
      simp [Group.replaced]
    rw [hexpand]
    simp only [List.append_assoc, hexpand]
    constructor
    · rintro ⟨first, hfirst, htext⟩
      obtain ⟨option, hoption, htext⟩ := (ih first hfirst).1 htext
      exact ⟨option, hoption, first, hfirst, by rwa [List.append_assoc] at htext⟩
    · rintro ⟨option, hoption, first, hfirst, htext⟩
      refine ⟨first, hfirst, (ih first hfirst).2 ⟨option, hoption, ?_⟩⟩
      rwa [List.append_assoc]

end JuliaSession.Glob
