import Mathlib.Data.List.Forall2
import JuliaSession.Proofs.Glob.Groups

/-!
# The language of a pattern with braces

A pattern whose braces are balanced is a tree: characters and groups one after the other, where a
group holds alternatives that are such trees again. It stands for the texts that are chosen by
taking one alternative in each group and choosing from it in turn.

* `Tree`, `Tree.write`, `Tree.choices`: such trees, their patterns and the texts to choose from.
* `balanced_iff_exists_tree`: the patterns of trees are those with balanced braces.
* `Tree.mem_expandChars_write`: a pattern is expanded to the choices from its tree, though its
  groups are expanded from the inside out.
* `Tree.expandChars_write_of_flat`: without nested groups there is one entry for each combination
  of alternatives, in lexicographic order.
-/

namespace JuliaSession.Glob

open JuliaSession.Text

/-! ### Patterns as trees -/

/-- Does a character stand for itself? A brace never does, and a comma not inside a group. -/
def isLiteral (inside : Bool) (c : Char) : Bool := isBraceFree c && (!inside || c ≠ ',')

mutual

/-- A pattern with balanced braces, inside a group or not. -/
inductive Tree : Bool → Type where
  /-- The pattern ends. -/
  | done {inside : Bool} : Tree inside
  /-- A character that stands for itself comes first. -/
  | char {inside : Bool} (c : Char) (hliteral : isLiteral inside c = true) (rest : Tree inside) :
    Tree inside
  /-- A group comes first. -/
  | group {inside : Bool} (alternatives : Alternatives) (rest : Tree inside) : Tree inside

/-- The alternatives of a group; there is at least one. -/
inductive Alternatives : Type where
  /-- This is the last alternative. -/
  | last (tree : Tree true) : Alternatives
  /-- More alternatives follow. -/
  | more (tree : Tree true) (rest : Alternatives) : Alternatives

end

mutual

/-- The pattern of a tree. -/
def Tree.write {inside : Bool} : Tree inside → List Char
  | .done => []
  | .char c _ rest => c :: rest.write
  | .group alternatives rest =>
    openBrace :: (alternatives.write ++ closeBrace :: rest.write)

/-- The body of a group. -/
def Alternatives.write : Alternatives → List Char
  | .last tree => tree.write
  | .more tree rest => tree.write ++ ',' :: rest.write

end

mutual

/-- The texts to choose from: one alternative is taken in each group, and a text chosen from it. -/
def Tree.choices {inside : Bool} : Tree inside → List (List Char)
  | .done => [[]]
  | .char c _ rest => rest.choices.map (c :: ·)
  | .group alternatives rest =>
    alternatives.choices.flatMap fun chosen => rest.choices.map (chosen ++ ·)

/-- The texts to choose from the alternatives of a group. -/
def Alternatives.choices : Alternatives → List (List Char)
  | .last tree => tree.choices
  | .more tree rest => tree.choices ++ rest.choices

end

/-- The alternatives in order. -/
def Alternatives.toList : Alternatives → List (Tree true)
  | .last tree => [tree]
  | .more tree rest => tree :: rest.toList

theorem isLiteral_iff {inside : Bool} {c : Char} :
    isLiteral inside c = true ↔ isBraceFree c = true ∧ (inside = true → c ≠ ',') := by
  cases inside <;> simp [isLiteral]

namespace Alternatives

theorem toList_ne_nil (alternatives : Alternatives) : alternatives.toList ≠ [] := by
  cases alternatives <;> simp [toList]

theorem write_eq_joinWith (alternatives : Alternatives) :
    alternatives.write = joinWith [','] (alternatives.toList.map Tree.write) := by
  cases alternatives with
  | last tree => simp [write, toList, joinWith]
  | more tree rest =>
    obtain ⟨next, more, hrest⟩ := List.exists_cons_of_ne_nil rest.toList_ne_nil
    simp [write, toList, write_eq_joinWith rest, hrest, joinWith]

theorem mem_choices_iff (alternatives : Alternatives) (text : List Char) :
    text ∈ alternatives.choices ↔ ∃ tree ∈ alternatives.toList, text ∈ tree.choices := by
  cases alternatives with
  | last tree => simp [choices, toList]
  | more tree rest => simp [choices, toList, mem_choices_iff rest]

end Alternatives

/-! ### Balanced braces -/

/-- The braces of a text are balanced after `depth` more were opened before it: no closing brace
comes too early, and none is missing. -/
structure Closes (depth : Nat) (cs : List Char) : Prop where
  /-- No closing brace comes before its opening brace. -/
  early : ∀ start, start <+: cs → start.count closeBrace ≤ start.count openBrace + depth
  /-- No closing brace is missing. -/
  all : cs.count closeBrace = cs.count openBrace + depth

/-- The braces of a text are balanced. -/
def Balanced (cs : List Char) : Prop := Closes 0 cs

theorem closes_nil_iff {depth : Nat} : Closes depth [] ↔ depth = 0 := by
  constructor
  · intro h
    simpa using h.all.symm
  · rintro rfl
    exact ⟨fun start hstart => by simp [List.prefix_nil.1 hstart], rfl⟩

/-- Reading one more character at the front, for what it adds to the numbers of braces. -/
theorem closes_cons_iff {depth : Nat} {c : Char} {cs : List Char} :
    Closes depth (c :: cs) ↔
      (∀ start, start <+: cs →
        (c :: start).count closeBrace ≤ (c :: start).count openBrace + depth) ∧
        (c :: cs).count closeBrace = (c :: cs).count openBrace + depth := by
  constructor
  · exact fun h => ⟨fun start hstart => h.early _ (List.cons_prefix_cons.2 ⟨rfl, hstart⟩), h.all⟩
  · rintro ⟨hearly, hall⟩
    refine ⟨fun start hstart => ?_, hall⟩
    cases start with
    | nil => simp
    | cons d start =>
      obtain ⟨rfl, hrest⟩ := List.cons_prefix_cons.1 hstart
      exact hearly start hrest

theorem closes_literal_iff {depth : Nat} {c : Char} (hc : isBraceFree c = true) {cs : List Char} :
    Closes depth (c :: cs) ↔ Closes depth cs := by
  obtain ⟨hopen, hclose⟩ := isBraceFree_iff.1 hc
  rw [closes_cons_iff]
  simp only [List.count_cons_of_ne hopen, List.count_cons_of_ne hclose]
  exact ⟨fun h => ⟨h.1, h.2⟩, fun h => ⟨h.early, h.all⟩⟩

theorem closes_openBrace_iff {depth : Nat} {cs : List Char} :
    Closes depth (openBrace :: cs) ↔ Closes (depth + 1) cs := by
  have hopen (start : List Char) :
      (openBrace :: start).count closeBrace = start.count closeBrace :=
    List.count_cons_of_ne openBrace_ne_closeBrace
  rw [closes_cons_iff]
  simp only [hopen, List.count_cons_self]
  constructor
  · intro h
    exact ⟨fun start hstart => by have := h.1 start hstart; omega, by have := h.2; omega⟩
  · intro h
    exact ⟨fun start hstart => by have := h.early start hstart; omega, by have := h.all; omega⟩

theorem closes_closeBrace_iff {depth : Nat} {cs : List Char} :
    Closes depth (closeBrace :: cs) ↔ ∃ less, depth = less + 1 ∧ Closes less cs := by
  have hclose (start : List Char) : (closeBrace :: start).count openBrace = start.count openBrace :=
    List.count_cons_of_ne openBrace_ne_closeBrace.symm
  rw [closes_cons_iff]
  simp only [hclose, List.count_cons_self]
  constructor
  · rintro ⟨hearly, hall⟩
    -- the closing brace alone would come too early at depth zero
    have hone := hearly [] List.nil_prefix
    simp only [List.count_nil, Nat.zero_add] at hone
    refine ⟨depth - 1, by omega, fun start hstart => ?_, by omega⟩
    have hlater := hearly start hstart
    omega
  · rintro ⟨less, rfl, h⟩
    exact ⟨fun start hstart => by have := h.early start hstart; omega, by have := h.all; omega⟩

mutual

/-- Reading the pattern of a tree leaves the depth as it is. -/
theorem Tree.closes_write_append {inside : Bool} : ∀ (tree : Tree inside) {depth : Nat}
    {rest : List Char}, Closes depth rest → Closes depth (tree.write ++ rest)
  | .done, _, _, h => h
  | .char _ hliteral more, _, _, h =>
    (closes_literal_iff (isLiteral_iff.1 hliteral).1).2 (more.closes_write_append h)
  | .group alternatives more, depth, rest, h => by
    have hmore := closes_closeBrace_iff.2 ⟨depth, rfl, more.closes_write_append h⟩
    have hbody := alternatives.closes_write_append hmore
    simpa [Tree.write] using closes_openBrace_iff.2 hbody

theorem Alternatives.closes_write_append : ∀ (alternatives : Alternatives) {depth : Nat}
    {rest : List Char}, Closes depth rest → Closes depth (alternatives.write ++ rest)
  | .last tree, _, _, h => tree.closes_write_append h
  | .more tree more, _, _, h => by
    have hmore := (closes_literal_iff (by decide : isBraceFree ',' = true)).2
      (more.closes_write_append h)
    simpa [Alternatives.write] using tree.closes_write_append hmore

end

/-- What stands behind `depth` opening braces: for each of them the rest of its group, and then a
pattern outside all groups. -/
inductive Continues : Nat → List Char → Prop where
  /-- All groups are closed. -/
  | outside (tree : Tree false) : Continues 0 tree.write
  /-- The innermost group goes on with these alternatives, of which the first has begun before. -/
  | inside {depth : Nat} {rest : List Char} (alternatives : Alternatives)
    (h : Continues depth rest) :
    Continues (depth + 1) (alternatives.write ++ closeBrace :: rest)

/-- A character that stands for itself goes to the front. -/
theorem Continues.char {depth : Nat} {cs : List Char} (h : Continues depth cs) {c : Char}
    (hc : isBraceFree c = true) : Continues depth (c :: cs) := by
  cases h with
  | outside tree => exact .outside (.char c (isLiteral_iff.2 ⟨hc, nofun⟩) tree)
  | @inside depth rest alternatives h =>
    by_cases hcomma : c = ','
    · -- the alternative that has begun ends here
      subst hcomma
      exact .inside (.more .done alternatives) h
    · have hliteral : isLiteral true c = true := isLiteral_iff.2 ⟨hc, fun _ => hcomma⟩
      cases alternatives with
      | last tree => exact .inside (.last (.char c hliteral tree)) h
      | more tree more => exact .inside (.more (.char c hliteral tree) more) h

/-- An opening brace puts a whole group to the front. -/
theorem Continues.group {depth : Nat} {cs : List Char} (h : Continues (depth + 1) cs) :
    Continues depth (openBrace :: cs) := by
  cases h with
  | @inside _ rest alternatives h =>
    cases h with
    | outside tree => exact .outside (.group alternatives tree)
    | @inside _ rest others h =>
      cases others with
      | last tree =>
        have hnext := Continues.inside (.last (.group alternatives tree)) h
        simpa [Alternatives.write, Tree.write] using hnext
      | more tree more =>
        have hnext := Continues.inside (.more (.group alternatives tree) more) h
        simpa [Alternatives.write, Tree.write] using hnext

theorem continues_of_closes {depth : Nat} {cs : List Char} (h : Closes depth cs) :
    Continues depth cs := by
  -- on the text from its end on: a brace changes how many groups are open behind it
  induction cs generalizing depth with
  | nil =>
    obtain rfl := closes_nil_iff.1 h
    exact .outside .done
  | cons c cs ih =>
    by_cases hopen : c = openBrace
    · subst hopen
      exact (ih (closes_openBrace_iff.1 h)).group
    by_cases hclose : c = closeBrace
    · subst hclose
      obtain ⟨less, rfl, hless⟩ := closes_closeBrace_iff.1 h
      exact .inside (.last .done) (ih hless)
    have hc := isBraceFree_iff.2 ⟨hopen, hclose⟩
    exact (ih ((closes_literal_iff hc).1 h)).char hc

/-- The patterns with balanced braces are those of trees. -/
theorem balanced_iff_exists_tree {cs : List Char} :
    Balanced cs ↔ ∃ tree : Tree false, tree.write = cs := by
  constructor
  · intro h
    cases continues_of_closes h with
    | outside tree => exact ⟨tree, rfl⟩
  · rintro ⟨tree, rfl⟩
    have hclosed := tree.closes_write_append (closes_nil_iff.2 rfl)
    rwa [List.append_nil] at hclosed

/-! ### Choices -/

mutual

/-- What is chosen holds characters that stand for themselves. -/
theorem Tree.isLiteral_of_mem_choices {inside : Bool} : ∀ (tree : Tree inside) {text : List Char},
    text ∈ tree.choices → ∀ c ∈ text, isLiteral inside c = true
  | .done, text, h => by
    simp only [Tree.choices, List.mem_singleton] at h
    simp [h]
  | .char c hliteral rest, text, h => by
    simp only [Tree.choices, List.mem_map] at h
    obtain ⟨tail, htail, rfl⟩ := h
    simpa [hliteral] using rest.isLiteral_of_mem_choices htail
  | .group alternatives rest, text, h => by
    simp only [Tree.choices, List.mem_flatMap, List.mem_map] at h
    obtain ⟨chosen, hchosen, tail, htail, rfl⟩ := h
    intro c hc
    -- inside of a group fewer characters stand for themselves than outside
    rcases List.mem_append.1 hc with hc | hc
    · have hinside := isLiteral_iff.1 (alternatives.isLiteral_of_mem_choices hchosen c hc)
      exact isLiteral_iff.2 ⟨hinside.1, fun _ => hinside.2 rfl⟩
    · exact rest.isLiteral_of_mem_choices htail c hc

theorem Alternatives.isLiteral_of_mem_choices : ∀ (alternatives : Alternatives) {text : List Char},
    text ∈ alternatives.choices → ∀ c ∈ text, isLiteral true c = true
  | .last tree, _, h => tree.isLiteral_of_mem_choices h
  | .more tree rest, _, h => by
    rw [Alternatives.choices, List.mem_append] at h
    rcases h with h | h
    · exact tree.isLiteral_of_mem_choices h
    · exact rest.isLiteral_of_mem_choices h

end

mutual

/-- There is always something to choose. -/
theorem Tree.exists_mem_choices {inside : Bool} :
    ∀ tree : Tree inside, ∃ text, text ∈ tree.choices
  | .done => ⟨[], by simp [Tree.choices]⟩
  | .char c _ rest => by
    obtain ⟨tail, htail⟩ := rest.exists_mem_choices
    exact ⟨c :: tail, by simp [Tree.choices, htail]⟩
  | .group alternatives rest => by
    obtain ⟨chosen, hchosen⟩ := alternatives.exists_mem_choices
    obtain ⟨tail, htail⟩ := rest.exists_mem_choices
    refine ⟨chosen ++ tail, ?_⟩
    rw [Tree.choices, List.mem_flatMap]
    exact ⟨chosen, hchosen, List.mem_map_of_mem htail⟩

theorem Alternatives.exists_mem_choices :
    ∀ alternatives : Alternatives, ∃ text, text ∈ alternatives.choices
  | .last tree => tree.exists_mem_choices
  | .more tree _ => by
    obtain ⟨text, htext⟩ := tree.exists_mem_choices
    exact ⟨text, by simp [Alternatives.choices, htext]⟩

end

/-- One text is chosen from each of some trees. -/
def Chosen (trees : List (Tree true)) (texts : List (List Char)) : Prop :=
  List.Forall₂ (fun tree text => text ∈ tree.choices) trees texts

theorem Chosen.isLiteral {trees : List (Tree true)} {texts : List (List Char)}
    (h : Chosen trees texts) {text : List Char} (htext : text ∈ texts) :
    ∀ c ∈ text, isLiteral true c = true := by
  induction h with
  | nil => cases htext
  | @cons tree first trees texts hfirst _ ih =>
    rcases List.mem_cons.1 htext with rfl | htext
    · exact tree.isLiteral_of_mem_choices hfirst
    · exact ih htext

/-- Texts that were chosen from the alternatives of a group are the alternatives of a group without
braces inside. -/
theorem Chosen.joined {trees : List (Tree true)} {texts : List (List Char)} (h : Chosen trees texts)
    (hne : trees ≠ []) :
    BraceFree (joinWith [','] texts) ∧ splitOnChar ',' (joinWith [','] texts) = texts := by
  have htexts : texts ≠ [] := by
    rintro rfl
    cases h
    exact hne rfl
  have hsplit : splitOnChar ',' (joinWith [','] texts) = texts := by
    apply splitOnChar_joinWith htexts
    intro text htext hcomma
    -- inside a group a comma would not stand for itself
    exact (isLiteral_iff.1 (h.isLiteral htext ',' hcomma)).2 rfl rfl
  refine ⟨fun c hc => ?_, hsplit⟩
  rcases mem_joinWith hc with hcomma | ⟨text, htext, hc⟩
  · rw [List.mem_singleton.1 hcomma]
    decide
  · exact (isLiteral_iff.1 (h.isLiteral htext c hc)).1

/-- A choice from one of some trees is part of a choice from all of them. -/
theorem exists_chosen_iff {trees : List (Tree true)} {holds : List Char → Prop} :
    (∃ texts, Chosen trees texts ∧ ∃ text ∈ texts, holds text) ↔
      ∃ tree ∈ trees, ∃ text ∈ tree.choices, holds text := by
  constructor
  · rintro ⟨texts, hchosen, text, htext, hholds⟩
    induction hchosen with
    | nil => cases htext
    | @cons tree first trees texts hfirst _ ih =>
      rcases List.mem_cons.1 htext with rfl | htext
      · exact ⟨tree, List.mem_cons_self, text, hfirst, hholds⟩
      · obtain ⟨other, hother, hrest⟩ := ih htext
        exact ⟨other, List.mem_cons_of_mem _ hother, hrest⟩
  · rintro ⟨tree, htree, text, htext, hholds⟩
    -- from the other trees anything is chosen
    have hany (trees : List (Tree true)) : ∃ texts, Chosen trees texts := by
      induction trees with
      | nil => exact ⟨[], .nil⟩
      | cons first trees ih =>
        obtain ⟨texts, htexts⟩ := ih
        obtain ⟨any, hany⟩ := first.exists_mem_choices
        exact ⟨any :: texts, .cons hany htexts⟩
    obtain ⟨before, after, rfl⟩ := List.append_of_mem htree
    obtain ⟨first, hfirst⟩ := hany before
    obtain ⟨last, hlast⟩ := hany after
    exact ⟨first ++ text :: last, List.rel_append hfirst (.cons htext hlast), text, by simp, hholds⟩

/-! ### The language of a pattern -/

mutual

/-- Wherever the pattern of a tree stands, a text that is chosen from the tree may be written in its
place. -/
theorem Tree.mem_expandChars_write {inside : Bool} (text : List Char) :
    ∀ (tree : Tree inside) (before after : List Char),
      text ∈ expandChars (before ++ (tree.write ++ after)) ↔
        ∃ chosen ∈ tree.choices, text ∈ expandChars (before ++ (chosen ++ after))
  | .done, before, after => by simp [Tree.write, Tree.choices]
  | .char c _ rest, before, after => by
    have hrest := rest.mem_expandChars_write text (before ++ [c]) after
    simpa [Tree.write, Tree.choices] using hrest
  | .group alternatives rest, before, after => by
    -- the alternatives first, then the group that they make, and then what follows it
    have hbody := alternatives.mem_expandChars_write text (before ++ [openBrace])
      (closeBrace :: (rest.write ++ after))
    have hgroup {texts : List (List Char)} (h : Chosen alternatives.toList texts) :
        text ∈ expandChars (before ++ openBrace ::
            (joinWith [','] texts ++ closeBrace :: (rest.write ++ after))) ↔
          ∃ chosen ∈ texts, ∃ tail ∈ rest.choices,
            text ∈ expandChars (before ++ (chosen ++ (tail ++ after))) := by
      obtain ⟨hfree, hsplit⟩ := h.joined alternatives.toList_ne_nil
      rw [mem_expandChars_group hfree, hsplit]
      refine exists_congr fun chosen => and_congr_right fun _ => ?_
      rw [rest.mem_expandChars_write text (before ++ chosen) after]
      simp only [List.append_assoc]
    calc text ∈ expandChars (before ++ ((Tree.group alternatives rest).write ++ after))
      _ ↔ ∃ texts, Chosen alternatives.toList texts ∧
          text ∈ expandChars (before ++ openBrace ::
            (joinWith [','] texts ++ closeBrace :: (rest.write ++ after))) := by
        simpa [Tree.write] using hbody
      _ ↔ ∃ texts, Chosen alternatives.toList texts ∧
          ∃ chosen ∈ texts, ∃ tail ∈ rest.choices,
            text ∈ expandChars (before ++ (chosen ++ (tail ++ after))) :=
        exists_congr fun texts => and_congr_right hgroup
      _ ↔ ∃ tree ∈ alternatives.toList, ∃ chosen ∈ tree.choices, ∃ tail ∈ rest.choices,
            text ∈ expandChars (before ++ (chosen ++ (tail ++ after))) := exists_chosen_iff
      _ ↔ ∃ chosen ∈ (Tree.group alternatives rest).choices,
            text ∈ expandChars (before ++ (chosen ++ after)) := by
        simp only [Tree.choices, List.mem_flatMap, List.mem_map, Alternatives.mem_choices_iff]
        constructor
        · rintro ⟨tree, htree, chosen, hchosen, tail, htail, htext⟩
          exact ⟨chosen ++ tail, ⟨chosen, ⟨tree, htree, hchosen⟩, tail, htail, rfl⟩,
            by rwa [List.append_assoc]⟩
        · rintro ⟨_, ⟨chosen, ⟨tree, htree, hchosen⟩, tail, htail, rfl⟩, htext⟩
          exact ⟨tree, htree, chosen, hchosen, tail, htail, by rwa [List.append_assoc] at htext⟩

theorem Alternatives.mem_expandChars_write (text : List Char) :
    ∀ (alternatives : Alternatives) (before after : List Char),
      text ∈ expandChars (before ++ (alternatives.write ++ after)) ↔
        ∃ texts, Chosen alternatives.toList texts ∧
          text ∈ expandChars (before ++ (joinWith [','] texts ++ after))
  | .last tree, before, after => by
    rw [Alternatives.write, tree.mem_expandChars_write text before after]
    simp [Alternatives.toList, Chosen, List.forall₂_cons_left_iff, joinWith]
  | .more tree rest, before, after => by
    have htree := tree.mem_expandChars_write text before (',' :: (rest.write ++ after))
    have hrest (chosen : List Char) :=
      rest.mem_expandChars_write text (before ++ (chosen ++ [','])) after
    simp only [List.append_assoc, List.cons_append, List.nil_append] at hrest
    have hjoin {texts : List (List Char)} (h : Chosen rest.toList texts) (chosen : List Char) :
        joinWith [','] (chosen :: texts) = chosen ++ ',' :: joinWith [','] texts := by
      cases texts with
      | nil => exact absurd (List.forall₂_nil_right_iff.1 h) rest.toList_ne_nil
      | cons text texts => simp [joinWith]
    -- the first alternative is chosen from while the others still stand behind it
    simp only [Alternatives.write, List.append_assoc, List.cons_append, htree, hrest]
    constructor
    · rintro ⟨chosen, hchosen, texts, htexts, htext⟩
      refine ⟨chosen :: texts, .cons hchosen htexts, ?_⟩
      rw [hjoin htexts]
      simpa using htext
    · rintro ⟨_, hall, htext⟩
      obtain ⟨chosen, texts, hchosen, htexts, rfl⟩ := List.forall₂_cons_left_iff.1 hall
      refine ⟨chosen, hchosen, texts, htexts, ?_⟩
      rw [hjoin htexts] at htext
      simpa using htext

end

/-! ### Without nested groups -/

namespace Tree

variable {inside : Bool}

/-- There is no group. -/
def Plain {inside : Bool} : Tree inside → Prop
  | done => True
  | char _ _ rest => rest.Plain
  | group _ _ => False

/-- No group is inside another one. -/
def Flat {inside : Bool} : Tree inside → Prop
  | done => True
  | char _ _ rest => rest.Flat
  | group alternatives rest => (∀ tree ∈ alternatives.toList, tree.Plain) ∧ rest.Flat

/-- How many alternatives the groups have, from left to right. -/
def sizes {inside : Bool} : Tree inside → List Nat
  | done => []
  | char _ _ rest => rest.sizes
  | group alternatives rest => alternatives.toList.length :: rest.sizes

/-- The text with one alternative in place of each group, by the numbers of the alternatives from
left to right. -/
def pick {inside : Bool} : Tree inside → List Nat → List Char
  | done, _ => []
  | char c _ rest, numbers => c :: rest.pick numbers
  | group alternatives rest, numbers =>
    (alternatives.toList[numbers.headD 0]?.elim [] write) ++ rest.pick numbers.tail

/-- There is nothing to choose in a pattern without groups. -/
theorem Plain.choices_eq {inside : Bool} :
    ∀ {tree : Tree inside}, tree.Plain → tree.choices = [tree.write]
  | done, _ => rfl
  | char c _ rest, h => by
    have hrest : rest.choices = [rest.write] := choices_eq h
    simp [choices, write, hrest]

end Tree

/-- Alternatives without groups have no braces, and commas only between them. -/
theorem Alternatives.write_of_plain {alternatives : Alternatives}
    (h : ∀ tree ∈ alternatives.toList, tree.Plain) :
    BraceFree alternatives.write ∧
      splitOnChar ',' alternatives.write = alternatives.toList.map Tree.write := by
  have hchosen : Chosen alternatives.toList (alternatives.toList.map Tree.write) := by
    rw [Chosen, List.forall₂_map_right_iff, List.forall₂_same]
    intro tree htree
    simp [(h tree htree).choices_eq]
  rw [alternatives.write_eq_joinWith]
  exact hchosen.joined alternatives.toList_ne_nil

/-- The numbers of alternatives that may be taken together, in lexicographic order. -/
def combinations : List Nat → List (List Nat)
  | [] => [[]]
  | size :: sizes =>
    (List.range size).flatMap fun number => (combinations sizes).map (number :: ·)

theorem mem_combinations_iff {sizes numbers : List Nat} :
    numbers ∈ combinations sizes ↔ List.Forall₂ (· < ·) numbers sizes := by
  induction sizes generalizing numbers with
  | nil => simp [combinations]
  | cons size sizes ih =>
    -- the number for the first group and those for the others are taken independently
    rw [combinations, List.forall₂_cons_right_iff]
    simp only [List.mem_flatMap, List.mem_range, List.mem_map, ih]
    constructor
    · rintro ⟨number, hless, more, hmore, rfl⟩
      exact ⟨number, more, hless, hmore, rfl⟩
    · rintro ⟨number, more, hless, hmore, rfl⟩
      exact ⟨number, hless, more, hmore, rfl⟩

theorem pairwise_combinations (sizes : List Nat) : (combinations sizes).Pairwise (· < ·) := by
  induction sizes with
  | nil => simp [combinations]
  | cons size sizes ih =>
    rw [combinations, List.pairwise_flatMap]
    constructor
    · intro number _
      -- behind the same first number the later ones decide
      rw [List.pairwise_map]
      exact ih.imp fun hless => List.cons_lt_cons_self.2 hless
    · refine List.pairwise_lt_range.imp fun {first second} hless => ?_
      intro numbers hnumbers others hothers
      obtain ⟨_, _, rfl⟩ := List.mem_map.1 hnumbers
      obtain ⟨_, _, rfl⟩ := List.mem_map.1 hothers
      exact List.cons_lt_cons_iff.2 (.inl hless)

/-- The items of a list are gone through by their numbers. -/
theorem flatMap_range_getElem? {α β : Type} (items : List α) (f : Option α → List β) :
    ((List.range items.length).flatMap fun number => f items[number]?) =
      items.flatMap fun item => f (some item) := by
  induction items with
  | nil => rfl
  | cons item items ih => simp [List.range_succ_eq_map, List.flatMap_map, ih]

/-- Without nested groups a pattern is expanded to one text for each combination of alternatives, in
the order of their numbers. -/
theorem Tree.expandChars_write_of_flat {inside : Bool} :
    ∀ {tree : Tree inside}, tree.Flat → ∀ {before : List Char}, BraceFree before →
      expandChars (before ++ tree.write) =
        (combinations tree.sizes).map fun numbers => before ++ tree.pick numbers
  | done, _, before, hbefore => by
    have hnone := firstGroup?_eq_none hbefore.groupless
    simp [write, sizes, combinations, pick, expandChars_of_none hnone]
  | char c hliteral rest, h, before, hbefore => by
    have hnext : BraceFree (before ++ [c]) := by
      simpa [hbefore] using (isLiteral_iff.1 hliteral).1
    have hflat : rest.Flat := h
    have hrest := expandChars_write_of_flat hflat hnext
    simpa [write, sizes, pick] using hrest
  | group alternatives rest, h, before, hbefore => by
    obtain ⟨hplain, hflat⟩ := h
    obtain ⟨hfree, hsplit⟩ := Alternatives.write_of_plain hplain
    have hfirst : firstGroup? (before ++ (group alternatives rest).write) =
        some ⟨before, alternatives.write, rest.write⟩ :=
      firstGroup?_eq_some_iff.2 ⟨by simp [Group.text, write], hfree, hbefore.groupless⟩
    -- each alternative in turn, in front of all combinations of the groups that follow
    have hnext (text : List Char) (htext : text ∈ alternatives.toList.map write) :
        expandChars (before ++ text ++ rest.write) =
          (combinations rest.sizes).map fun numbers => before ++ (text ++ rest.pick numbers) := by
      have htext : BraceFree (before ++ text) := by
        simpa [hbefore] using hfree.option (hsplit ▸ htext)
      simpa using expandChars_write_of_flat hflat htext
    calc expandChars (before ++ (group alternatives rest).write)
      _ = (alternatives.toList.map write).flatMap fun text =>
          expandChars (before ++ text ++ rest.write) := by
        rw [expandChars_of_some hfirst, hsplit]
        rfl
      _ = (alternatives.toList.map write).flatMap fun text =>
          (combinations rest.sizes).map fun numbers => before ++ (text ++ rest.pick numbers) :=
        List.flatMap_congr hnext
      _ = (combinations (group alternatives rest).sizes).map fun numbers =>
          before ++ (group alternatives rest).pick numbers := by
        have hnumbers := flatMap_range_getElem? alternatives.toList fun tree =>
          (combinations rest.sizes).map fun numbers =>
            before ++ (tree.elim [] write ++ rest.pick numbers)
        simp only [Option.elim_some] at hnumbers
        rw [List.flatMap_map, ← hnumbers, sizes, combinations, List.map_flatMap]
        simp [pick, Function.comp_def]

/-! ### All patterns -/

/-- A pattern is expanded in finitely many steps to texts without groups. If its braces are
balanced, which is so for the patterns of trees and no others, it is expanded to exactly the texts
that are chosen from its tree. Without nested groups there is one entry for each combination of
alternatives, and the entries are in the lexicographic order of their numbers from left to right. -/
theorem expandBraces_language (pattern : String) :
    Unfolds pattern.toList ((expandBraces pattern).map String.toList) ∧
      (∀ text ∈ expandBraces pattern, Groupless text.toList) ∧
      (Balanced pattern.toList ↔ ∃ tree : Tree false, tree.write = pattern.toList) ∧
      ∀ tree : Tree false, tree.write = pattern.toList →
        (∀ text, text ∈ expandBraces pattern ↔ text.toList ∈ tree.choices) ∧
        (tree.Flat → ∃ numbers : List (List Nat), numbers.Pairwise (· < ·) ∧
          (∀ choice, choice ∈ numbers ↔ List.Forall₂ (· < ·) choice tree.sizes) ∧
          (expandBraces pattern).map String.toList = numbers.map tree.pick) := by
  have hchars : (expandBraces pattern).map String.toList = expandChars pattern.toList := by
    simp [expandBraces, Function.comp_def]
  have hmem (text : String) :
      text ∈ expandBraces pattern ↔ text.toList ∈ expandChars pattern.toList := by
    rw [← hchars, List.mem_map_of_injective fun _ _ heq => String.toList_injective heq]
  refine ⟨?_, fun text htext => ?_, balanced_iff_exists_tree, fun tree htree =>
    ⟨fun text => ?_, ?_⟩⟩
  · rw [hchars]
    exact unfolds_expandChars _
  · exact groupless_of_mem_expandChars ((hmem text).1 htext)
  · have hlanguage := tree.mem_expandChars_write text.toList [] []
    simp only [List.nil_append, List.append_nil, htree] at hlanguage
    rw [hmem, hlanguage]
    -- a text that was chosen stands for itself alone
    constructor
    · rintro ⟨chosen, hchosen, htext⟩
      have hfree : BraceFree chosen :=
        fun c hc => (isLiteral_iff.1 (tree.isLiteral_of_mem_choices hchosen c hc)).1
      rw [expandChars_of_none (firstGroup?_eq_none hfree.groupless), List.mem_singleton] at htext
      rwa [htext]
    · intro hchosen
      have hfree : BraceFree text.toList :=
        fun c hc => (isLiteral_iff.1 (tree.isLiteral_of_mem_choices hchosen c hc)).1
      refine ⟨_, hchosen, ?_⟩
      rw [expandChars_of_none (firstGroup?_eq_none hfree.groupless)]
      exact List.mem_singleton_self _
  · intro hflat
    refine ⟨combinations tree.sizes, pairwise_combinations _, fun _ => mem_combinations_iff, ?_⟩
    rw [hchars, ← htree]
    simpa using Tree.expandChars_write_of_flat hflat braceFree_nil

/-- A group inside another one, and two groups beside each other. -/
theorem nested_and_flat_expanded :
    (∀ text, text ∈ expandBraces "\x7ba,\x7bb,c\x7dd\x7d" ↔
        text.toList ∈ [['a'], ['b', 'd'], ['c', 'd']]) ∧
      ∃ tree : Tree false, tree.write = "\x7ba,b\x7d\x7bc,d\x7d".toList ∧ tree.Flat ∧
        ∃ numbers : List (List Nat), numbers.Pairwise (· < ·) ∧
          (∀ choice, choice ∈ numbers ↔ List.Forall₂ (· < ·) choice [2, 2]) ∧
          (expandBraces "\x7ba,b\x7d\x7bc,d\x7d").map String.toList = numbers.map tree.pick := by
  let one {inside : Bool} (c : Char) (hc : isLiteral inside c = true) : Tree inside :=
    .char c hc .done
  let nested : Tree false :=
    .group (.more (one 'a' rfl) (.last
      (.group (.more (one 'b' rfl) (.last (one 'c' rfl))) (one 'd' rfl)))) .done
  let flat : Tree false :=
    .group (.more (one 'a' rfl) (.last (one 'b' rfl)))
      (.group (.more (one 'c' rfl) (.last (one 'd' rfl))) .done)
  have hflat : flat.Flat :=
    ⟨by simp [Alternatives.toList, one, Tree.Plain], by simp [Alternatives.toList, one, Tree.Plain],
      trivial⟩
  exact ⟨((expandBraces_language "\x7ba,\x7bb,c\x7dd\x7d").2.2.2 nested rfl).1, flat, rfl, hflat,
    ((expandBraces_language "\x7ba,b\x7d\x7bc,d\x7d").2.2.2 flat rfl).2 hflat⟩

end JuliaSession.Glob
