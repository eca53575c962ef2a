import JuliaSession.Proofs.Json.Lexing
import JuliaSession.Proofs.Json.Sizes

/-!
# Spelled texts are read as their values

The tokens of a tree are arranged to the value of the tree, and a walk over them goes as deep as the
tree is. Together with the cut into tokens, reading a commented text that is written as a tree gives
the tree's value (`readCommented_text`).
-/

namespace JuliaSession.Json.Spelling

open Commented (Token walkDepth walkLimit)

/-! ### The grammar -/

/-- A token that a value starts with is neither a comma nor a closing bracket. -/
theorem Tree.tokens_head (filling : List Char) (tree : Tree) :
    ∃ token more, tree.tokens filling = token :: more ∧ token ≠ .comma ∧
      token ≠ .closeBracket := by
  cases tree <;> exact ⟨_, _, rfl, nofun, nofun⟩

theorem Items.tokens_head (filling : List Char) (items : Items) :
    ∃ token more, items.tokens filling = token :: more ∧ token ≠ .comma ∧
      token ≠ .closeBracket := by
  cases items with
  | last before item after =>
    obtain ⟨token, more, htokens, hne⟩ := item.tokens_head filling
    rw [Items.tokens, htokens]
    exact ⟨token, _, rfl, hne⟩
  | more before item after rest =>
    obtain ⟨token, more, htokens, hne⟩ := item.tokens_head filling
    rw [Items.tokens, htokens]
    exact ⟨token, _, rfl, hne⟩

mutual

/-- The tokens of a value are arranged to the value. -/
theorem Tree.value_tokens {filling : List Char} (hliteral : ∀ c ∈ filling, isLiteral c = true)
    (complete : Bool) (tree : Tree) {fuel : Nat} (hfuel : (tree.tokens filling).length ≤ fuel)
    (rest : List Token) :
    Commented.value complete fuel (tree.tokens filling ++ rest) =
      .ok (some (tree.value filling), rest) := by
  obtain ⟨fuel, rfl⟩ : ∃ n, fuel = n + 1 := by
    obtain ⟨token, more, htokens, -⟩ := tree.tokens_head filling
    rw [htokens, List.length_cons] at hfuel
    exact ⟨fuel - 1, by omega⟩
  -- by the kind of value, together with items and members below; each token takes one unit of fuel
  cases tree with
  | null => rfl
  | bool b => rfl
  | number numeral value reads =>
    simp only [Tree.tokens, List.singleton_append, Commented.value, reads, Tree.value]
  | string parts =>
    have hreads := readChars?_string (reads_parts hliteral parts)
    simp only [Tree.tokens, stringOf, List.singleton_append, Commented.value, hreads, Tree.value]
  | emptyArray inside => rfl
  | array items =>
    obtain ⟨token, more, htokens, hcomma, hclose⟩ := items.tokens_head filling
    have hitems := Items.value_tokens hliteral complete items
      (Nat.le_of_succ_le_succ hfuel) [] rest
    rw [Tree.tokens, List.cons_append, Commented.value]
    · exact hitems
    -- the first token of an item is neither a bracket that closes the array nor a comma
    · intro more' h
      rw [htokens] at h
      exact hclose (List.cons.inj h).1
    · intro more' h
      rw [htokens] at h
      exact hcomma (List.cons.inj h).1
  | emptyObject inside => rfl
  | object members =>
    have hmembers := Members.value_tokens hliteral complete members
      (Nat.le_of_succ_le_succ hfuel) [] rest
    rw [Tree.tokens, List.cons_append, Commented.value]
    · exact hmembers
    · intro more' h
      cases members <;> cases h
    · intro more' h
      cases members <;> cases h

/-- The tokens of items are arranged to the items, after those that are done. -/
theorem Items.value_tokens {filling : List Char} (hliteral : ∀ c ∈ filling, isLiteral c = true)
    (complete : Bool) (items : Items) {fuel : Nat} (hfuel : (items.tokens filling).length ≤ fuel)
    (done : List Json) (rest : List Token) :
    Commented.items complete fuel (some done) (items.tokens filling ++ rest) =
      .ok (some (.arr (done.reverse ++ items.values filling)), rest) := by
  cases items with
  | last before item after =>
    rw [Items.tokens, List.length_append, List.length_singleton] at hfuel
    obtain ⟨fuel, rfl⟩ : ∃ n, fuel = n + 1 := ⟨fuel - 1, by omega⟩
    have hitem := Tree.value_tokens hliteral complete item (Nat.le_of_succ_le_succ hfuel)
      (.closeBracket :: rest)
    rw [Items.tokens, List.append_assoc, List.singleton_append, Commented.items, hitem]
    simp only [Items.values, bind, Except.bind, Option.bind, pure, List.reverse_cons,
      Option.map_some]
  | more before item after more =>
    simp only [Items.tokens, List.length_cons, List.length_append] at hfuel
    obtain ⟨fuel, rfl⟩ : ∃ n, fuel = n + 1 := ⟨fuel - 1, by omega⟩
    have hitem := Tree.value_tokens hliteral complete item
      (show (item.tokens filling).length ≤ fuel by omega)
      (.comma :: (more.tokens filling ++ rest))
    have hmore := Items.value_tokens hliteral complete more
      (show (more.tokens filling).length ≤ fuel by omega)
      (item.value filling :: done) rest
    obtain ⟨token, later, htokens, -, hclose⟩ := more.tokens_head filling
    rw [Items.tokens, List.append_assoc, List.cons_append, Commented.items, hitem]
    simp only [Items.values, bind, Except.bind, Option.bind, pure]
    -- behind the comma there is another item, not the end of the array
    split
    next heq => cases heq
    next heq =>
      rw [htokens] at heq
      exact absurd (List.cons.inj (List.cons.inj heq).2).1 hclose
    next heq =>
      cases heq
      rw [hmore, List.reverse_cons, List.append_assoc]
      rfl
    next heq => cases heq
    next hcomma _ => exact (hcomma _ rfl).elim

/-- The tokens of members are arranged to the members, added to those that are done. -/
theorem Members.value_tokens {filling : List Char}
    (hliteral : ∀ c ∈ filling, isLiteral c = true) (complete : Bool) (members : Members)
    {fuel : Nat} (hfuel : (members.tokens filling).length ≤ fuel) (done : List (String × Json))
    (rest : List Token) :
    Commented.members complete fuel (some done) (members.tokens filling ++ rest) =
      .ok (some (.obj (members.entries filling done)), rest) := by
  cases members with
  | last before key afterKey beforeValue item after =>
    have hkey := readChars?_string (reads_key key)
    simp only [Members.tokens, List.length_cons, List.length_append, List.length_nil] at hfuel
    obtain ⟨fuel, rfl⟩ : ∃ n, fuel = n + 1 := ⟨fuel - 1, by omega⟩
    have hitem := Tree.value_tokens hliteral complete item
      (show (item.tokens filling).length ≤ fuel by omega)
      (.closeBrace :: rest)
    rw [Members.tokens, List.cons_append, List.cons_append, List.append_assoc,
      List.singleton_append, stringOf, Commented.members, hitem]
    simp only [Members.entries, bind, Except.bind, Option.bind, pure, hkey]
    rfl
  | more before key afterKey beforeValue item after more =>
    have hkey := readChars?_string (reads_key key)
    simp only [Members.tokens, List.length_cons, List.length_append] at hfuel
    obtain ⟨fuel, rfl⟩ : ∃ n, fuel = n + 1 := ⟨fuel - 1, by omega⟩
    have hitem := Tree.value_tokens hliteral complete item
      (show (item.tokens filling).length ≤ fuel by omega)
      (.comma :: (more.tokens filling ++ rest))
    have hmore := Members.value_tokens hliteral complete more
      (show (more.tokens filling).length ≤ fuel by omega)
      (Assoc.insert (keyMeant key) (item.value filling) done) rest
    rw [Members.tokens, List.cons_append, List.cons_append, List.append_assoc,
      List.cons_append, stringOf, Commented.members, hitem]
    simp only [Members.entries, bind, Except.bind, Option.bind, pure, hkey]
    -- behind the comma there is another key, not the end of the object
    split
    next heq => cases heq
    next heq => cases more <;> cases heq
    next heq =>
      cases heq
      exact hmore
    next heq => cases heq
    next hcomma _ => exact (hcomma _ rfl).elim

end

/-! ### Depth -/

mutual

/-- A walk over the tokens of a value goes as deep as the value. -/
theorem Tree.walkDepth_tokens (filling : List Char) (tree : Tree) (outer : List Nat) (depth : Nat)
    (rest : List Token) :
    walkDepth outer depth (tree.tokens filling ++ rest) =
      max (tree.depth depth) (walkDepth outer depth rest) := by
  cases tree with
  | null | bool b | number numeral value reads | string parts | emptyArray inside
  | emptyObject inside => rfl
  | array items =>
    rw [Tree.tokens, List.cons_append, walkDepth, Items.walkDepth_tokens, Tree.depth, Nat.max_assoc]
    rfl
  | object members =>
    rw [Tree.tokens, List.cons_append, walkDepth, Members.walkDepth_tokens, Tree.depth,
      Nat.max_assoc]
    rfl

/-- A walk over the tokens of items goes as deep as the items, and back to the array. -/
theorem Items.walkDepth_tokens (filling : List Char) (items : Items) (outer : List Nat)
    (depth : Nat) (rest : List Token) :
    walkDepth outer depth (items.tokens filling ++ rest) =
      max (items.depth depth) (walkDepth outer.tail (outer.headD 0) rest) := by
  cases items with
  | last before item after =>
    rw [Items.tokens, List.append_assoc, Tree.walkDepth_tokens]
    rfl
  | more before item after more =>
    rw [Items.tokens, List.append_assoc, Tree.walkDepth_tokens, List.cons_append, walkDepth,
      Items.walkDepth_tokens filling more, Items.depth, Nat.max_assoc]

/-- A walk over the tokens of members goes as deep as the members, and back to the object. -/
theorem Members.walkDepth_tokens (filling : List Char) (members : Members) (outer : List Nat)
    (depth : Nat) (rest : List Token) :
    walkDepth outer depth (members.tokens filling ++ rest) =
      max (members.depth depth) (walkDepth outer.tail (outer.headD 0) rest) := by
  cases members with
  | last before key afterKey beforeValue item after =>
    rw [Members.tokens, List.cons_append, List.cons_append, stringOf, walkDepth, walkDepth,
      List.append_assoc, Tree.walkDepth_tokens, Members.depth, Nat.max_assoc]
    rfl
  | more before key afterKey beforeValue item after more =>
    rw [Members.tokens, List.cons_append, List.cons_append, stringOf, walkDepth, walkDepth,
      List.append_assoc, Tree.walkDepth_tokens, List.cons_append, walkDepth,
      Members.walkDepth_tokens filling more, Members.depth, Nat.max_assoc, Nat.max_assoc]

end

/-! ### Reading -/

/-- The text of a value with white space around it. -/
structure Source where
  /-- The white space before the value. -/
  before : Blank
  /-- The value. -/
  tree : Tree
  /-- The white space after the value. -/
  after : Blank

namespace Source

/-- The characters and holes of the text. -/
def pieces (source : Source) : List (Option Char) :=
  source.before.chars.map some ++ source.tree.pieces ++ source.after.chars.map some

/-- The text with its holes filled. -/
def text (source : Source) (filling : List Char) : List Char :=
  render filling source.pieces

/-- A text is cut into the tokens of its value. -/
theorem tokens_text (source : Source) {filling : List Char}
    (hliteral : ∀ c ∈ filling, isLiteral c = true) (fuel : Nat) :
    Commented.tokens (fuel + 1 + (source.tree.tokens filling).length) (source.text filling) =
      (source.tree.tokens filling, true) := by
  have hrest : Commented.tokens (fuel + 1) source.after.chars = ([], true) := by
    have hblank := tokens_blank source.after (fuel + 1) []
    rw [List.append_nil] at hblank
    exact hblank
  have hstops : Stops source.after.chars := by
    have hblank := stops_nil.blank source.after
    rwa [List.append_nil] at hblank
  rw [text, pieces, render_append, render_append, render_chars, render_chars, List.append_assoc,
    tokens_blank, source.tree.tokens_text hliteral (fuel + 1) hstops, hrest, prepend,
    List.append_nil]

/-- A text whose holes are filled with characters that stand for themselves is read as its value, if
it is not nested too deep. -/
theorem readCommented_text (source : Source) {filling : List Char}
    (hliteral : ∀ c ∈ filling, isLiteral c = true) (hdepth : source.tree.depth 0 ≤ walkLimit) :
    readCommented (String.ofList (source.text filling)) =
      .ok (source.tree.value filling) := by
  -- one more step than the text has characters is enough for its tokens and its end
  have htokens : Commented.tokens ((source.text filling).length + 1) (source.text filling) =
      (source.tree.tokens filling, true) := by
    have hlength := length_tokens_le
      ((source.text filling).length + 1 + (source.tree.tokens filling).length)
      (source.text filling)
    rw [source.tokens_text hliteral] at hlength
    obtain ⟨fuel, hfuel⟩ := Nat.exists_eq_add_of_le hlength
    have hsame : (source.text filling).length + 1 =
        fuel + 1 + (source.tree.tokens filling).length := by
      dsimp only at hfuel
      omega
    rw [hsame]
    exact source.tokens_text hliteral fuel
  have hvalue := source.tree.value_tokens hliteral true (Nat.le_succ _) []
  have hwalk := source.tree.walkDepth_tokens filling [] 0 []
  rw [List.append_nil] at hvalue hwalk
  simp only [readCommented, String.toList_ofList, htokens, hvalue, hwalk]
  rw [if_neg (by decide)]
  exact if_neg (Nat.not_lt.2 (Nat.max_le.2 ⟨hdepth, Nat.zero_le _⟩))

end Source

end JuliaSession.Json.Spelling
