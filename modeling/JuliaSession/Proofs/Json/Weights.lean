import JuliaSession.Proofs.Json.Sizes
import JuliaSession.Proofs.Json.Strings
import JuliaSession.Proofs.Step

/-!
# How much text a value takes

A value that is read from a text was written there, so it weighs no more than the text: each of its
characters takes a character of the text, those that cannot stand for themselves take two, and
brackets, quotes and colons are counted as well.

* `weight_le_of_readChars?`: a value that is read from a text of strict JSON.
* `weight_le_of_readCommented`: a value that is read from a commented text.
-/

namespace JuliaSession.Json

open Commented (Token)

/-! ### The reader of JSON -/

/-- A character that is allowed in a string of strict JSON stands for itself. -/
theorem charWeight_of_allowed {c : Char} (hquote : c ≠ '"') (hbackslash : c ≠ '\\')
    (hallowed : controlAllowed false c = true) : charWeight c = 1 := by
  have hcontrol : 32 ≤ c.toNat := by
    simpa [controlAllowed] using hallowed
  rw [charWeight, if_pos (Spelling.isLiteral_iff.2 ⟨hquote, hbackslash, hcontrol⟩)]

/-- A string takes at least its weight and its closing quote. -/
theorem weight_readString {done cs rest : List Char} {s : String}
    (h : readString false done cs = some (s, rest)) :
    charsWeight s.toList + 1 + rest.length ≤ charsWeight done + cs.length := by
  fun_induction readString false done cs with
  | case1 => cases h
  | case2 done more =>
    cases h
    simp only [String.toList_ofList, charsWeight_reverse, List.length_cons]
    omega
  | case3 done a b c d e f g h' more ihpair ihhigh ihlow =>
    obtain ⟨high, -, h⟩ := Option.bind_eq_some_iff.1 h
    have hhigh := charWeight_le (unitChar high)
    split at h
    · cases h
    next low _ =>
      have hlow := charWeight_le (unitChar low)
      split at h
      · have hle := ihpair high low h
        have hpair := charWeight_le
          (Char.ofNat (0x10000 + (high - 0xD800) * 1024 + (low - 0xDC00)))
        simp only [charsWeight_cons, List.length_cons] at hle ⊢
        omega
      · split at h
        · have hle := ihhigh high h
          simp only [charsWeight_cons, List.length_cons] at hle ⊢
          omega
        · have hle := ihlow high low h
          simp only [charsWeight_cons, List.length_cons] at hle ⊢
          omega
  | case4 done a b c d more hlone ih =>
    obtain ⟨unit, -, h⟩ := Option.bind_eq_some_iff.1 h
    have hle := ih unit h
    have hunit := charWeight_le (unitChar unit)
    simp only [charsWeight_cons, List.length_cons] at hle ⊢
    omega
  | case5 done c more hpair hunit ih =>
    obtain ⟨meant, -, h⟩ := Option.bind_eq_some_iff.1 h
    have hle := ih meant h
    have hmeant := charWeight_le meant
    simp only [charsWeight_cons, List.length_cons] at hle ⊢
    omega
  | case6 done c more hquote hpair hunit hescape hallowed ih =>
    -- a backslash that starts no escape stands at the end of the text
    have hbackslash : c ≠ '\\' := by
      rintro rfl
      cases more with
      | nil =>
        rw [readString] at h
        cases h
      | cons letter more => exact hescape letter more rfl rfl
    have hle := ih h
    rw [charsWeight_cons, charWeight_of_allowed hquote hbackslash hallowed] at hle
    rw [List.length_cons]
    omega
  | case7 => cases h

theorem length_skipSpace_le (cs : List Char) : (skipSpace cs).length ≤ cs.length :=
  (List.dropWhile_suffix _).length_le

theorem length_readExponent_le (cs : List Char) : (readExponent cs).2.length ≤ cs.length := by
  unfold readExponent
  dsimp only
  split
  next e rest =>
    split
    · split
      -- with either sign or none, the exponent has digits or is none
      all_goals
        split
        · exact Nat.le_refl _
        next hdigits =>
          have hspan := length_spanDigits hdigits
          simp only [List.length_cons]
          omega
    · exact Nat.le_refl _
  · exact Nat.le_refl _

theorem length_readFraction_le (loose : Bool) (cs : List Char) :
    (readFraction loose cs).2.length ≤ cs.length := by
  unfold readFraction
  split
  next rest =>
    rw [List.length_cons]
    split
    next hdigits =>
      have hspan := length_spanDigits hdigits
      split
      · dsimp only
        omega
      · exact Nat.le_refl _
    next hdigits =>
      have hspan := length_spanDigits hdigits
      dsimp only
      omega
  · exact Nat.le_refl _

theorem length_readWhole_le (loose : Bool) (cs : List Char) :
    (readWhole loose cs).2.length ≤ cs.length := by
  unfold readWhole
  split
  · exact Nat.le_succ _
  · exact Nat.le.intro ((Nat.add_comm _ _).trans (length_spanDigits rfl))

/-- A number has no strings in it. -/
theorem weight_readNumber {loose negative : Bool} {cs rest : List Char} {value : Json}
    (h : readNumber loose negative cs = .ok (value, rest)) :
    weight value = 0 ∧ rest.length ≤ cs.length := by
  have hwhole := length_readWhole_le loose cs
  have hfraction := length_readFraction_le loose (readWhole loose cs).2
  unfold readNumber at h
  dsimp only at h
  generalize readFraction loose (readWhole loose cs).2 = fraction at h hfraction
  generalize readWhole loose cs = whole at h hwhole hfraction
  -- a number without any digits has no exponent either
  have hexponent : (if (whole.1 ++ fraction.1.getD []).isEmpty then (none, fraction.2)
      else readExponent fraction.2).2.length ≤ fraction.2.length := by
    split
    · exact Nat.le_refl _
    · exact length_readExponent_le _
  generalize (if (whole.1 ++ fraction.1.getD []).isEmpty then (none, fraction.2)
    else readExponent fraction.2) = exponent at h hexponent
  have hrest : exponent.2.length ≤ cs.length := by omega
  split at h
  · cases h
  · split at h
    · split at h
      · cases h
      · cases h
        exact ⟨rfl, hrest⟩
    · split at h
      · cases h
      · cases h
        exact ⟨rfl, hrest⟩

theorem required_eq_ok_iff {α : Type} {read : Option α} {found : α} :
    required read = .ok found ↔ read = some found := by
  cases read with
  | none => exact ⟨nofun, nofun⟩
  | some other => simp only [required, Except.ok.injEq, Option.some.injEq]

mutual

/-- A value takes at least its weight. -/
theorem weight_readValue {depth fuel : Nat} {cs rest : List Char} {value : Json}
    (h : readValue false depth fuel cs = .ok (value, rest)) :
    weight value + rest.length ≤ cs.length := by
  cases fuel with
  | zero => cases h
  | succ fuel =>
    rw [readValue.eq_def] at h
    dsimp only at h
    split at h
    case h_1 more =>
      obtain ⟨⟨text, left⟩, htext, h⟩ := bind_eq_ok_iff.1 h
      cases h
      have hle := weight_readString (required_eq_ok_iff.1 htext)
      simp only [weight, charsWeight_nil, List.length_cons] at hle ⊢
      omega
    case h_8 more _ =>
      obtain ⟨hzero, hrest⟩ := weight_readNumber h
      rw [hzero, List.length_cons]
      omega
    case h_9 more =>
      have hmore := length_skipSpace_le more
      split at h
      next => cases h
      next left hskip =>
        cases h
        simp only [hskip, weight, itemsWeight, List.length_cons] at hmore ⊢
        omega
      next =>
        obtain ⟨⟨items, left⟩, hitems, h⟩ := bind_eq_ok_iff.1 h
        cases h
        have hle := weight_readItems hitems
        simp only [weight, itemsWeight, List.length_cons] at hle ⊢
        omega
    case h_10 c more _ _ _ _ _ _ _ _ _ =>
      have hmore := length_skipSpace_le more
      split at h
      · split at h
        next => cases h
        next => cases h
        next d left hskip =>
          rw [hskip, List.length_cons] at hmore
          split at h
          · cases h
            simp only [weight, membersWeight, List.length_cons]
            omega
          · obtain ⟨⟨members, left⟩, hmembers, h⟩ := bind_eq_ok_iff.1 h
            cases h
            have hle := weight_readMembers hmembers
            simp only [weight, membersWeight, List.length_cons] at hle ⊢
            omega
      · obtain ⟨hzero, hrest⟩ := weight_readNumber h
        omega
    case h_11 => cases h
    -- words have no strings in them
    all_goals
      cases h
      simp only [weight, List.length_cons]
      omega

/-- Items take at least their weight and the bracket that closes the array. -/
theorem weight_readItems {depth fuel : Nat} {done items : List Json} {cs rest : List Char}
    (h : readItems false depth fuel done cs = .ok (items, rest)) :
    itemsWeight items + 1 + rest.length ≤ itemsWeight done + cs.length := by
  cases fuel with
  | zero => cases h
  | succ fuel =>
    rw [readItems] at h
    obtain ⟨⟨item, left⟩, hitem, h⟩ := bind_eq_ok_iff.1 h
    have hleft := length_skipSpace_le left
    have hvalue := weight_readValue hitem
    dsimp only at h
    -- a comma and the next item, or the bracket at the end
    split at h
    next more hskip =>
      have hmore := length_skipSpace_le more
      have hrest := weight_readItems h
      simp only [hskip, itemsWeight, List.length_cons] at hleft hrest
      omega
    next more hskip =>
      cases h
      simp only [hskip, itemsWeight, itemsWeight_reverse, List.length_cons] at hleft ⊢
      omega
    · cases h

/-- Members take at least their weight and the brace that closes the object. -/
theorem weight_readMembers {depth fuel : Nat} {done members : List (String × Json)}
    {cs rest : List Char} (h : readMembers false depth fuel done cs = .ok (members, rest)) :
    membersWeight members + 1 + rest.length ≤ membersWeight done + cs.length := by
  cases fuel with
  | zero => cases h
  | succ fuel =>
    rw [readMembers.eq_def] at h
    dsimp only at h
    split at h
    next more =>
      obtain ⟨⟨key, left⟩, hkey, h⟩ := bind_eq_ok_iff.1 h
      have hkeyed := weight_readString (required_eq_ok_iff.1 hkey)
      have hleft := length_skipSpace_le left
      dsimp only at h
      split at h
      next afterColon hcolon =>
        obtain ⟨⟨item, afterItem⟩, hitem, h⟩ := bind_eq_ok_iff.1 h
        have hspace := length_skipSpace_le afterColon
        have hvalue := weight_readValue hitem
        -- a member that takes the place of an earlier one makes the object no heavier than both
        -- would
        have hinsert := membersWeight_insert_le key item done
        have hafter := length_skipSpace_le afterItem
        simp only [hcolon, charsWeight_nil, List.length_cons] at hleft hkeyed ⊢
        dsimp only at h
        split at h
        next later hcomma =>
          have hlater := length_skipSpace_le later
          have hrest := weight_readMembers h
          rw [hcomma, List.length_cons] at hafter
          omega
        next c later _ hbrace =>
          rw [hbrace, List.length_cons] at hafter
          split at h
          · cases h
            omega
          · cases h
        · cases h
      · cases h
    · cases h

end

/-- A value that is read from a text weighs no more than the text. -/
theorem weight_le_of_readChars? {cs : List Char} {value : Json} (h : readChars? cs = some value) :
    weight value ≤ cs.length := by
  have hread : readWith .strict cs = .ok value := by
    unfold readChars? at h
    cases hwith : readWith .strict cs with
    | error fault =>
      rw [hwith] at h
      cases h
    | ok found =>
      rw [hwith] at h
      cases h
      rfl
  obtain ⟨⟨found, rest⟩, hvalue, hend⟩ := bind_eq_ok_iff.1 hread
  have hle := weight_readValue hvalue
  have hskip := length_skipSpace_le cs
  dsimp only at hend
  split at hend
  · cases hend
    omega
  · cases hend

/-! ### The reader of commented JSON -/

/-- An item is added only to items that are all read, and it has to be read itself. -/
theorem itemsWeight_of_added {item : Option Json} {done : Option (List Json)} {later : List Json}
    (h : (do return (← item) :: (← done)) = some later) :
    ∃ found before, item = some found ∧ done = some before ∧
      itemsWeight later = weight found + itemsWeight before := by
  obtain ⟨found, hfound, h⟩ := Option.bind_eq_some_iff.1 h
  obtain ⟨before, hbefore, hcons⟩ := Option.bind_eq_some_iff.1 h
  cases hcons
  exact ⟨found, before, hfound, hbefore, rfl⟩

/-- A member is added only to members that are all read, and its key and its value have to be read
themselves. -/
theorem membersWeight_of_added {raw : List Char} {item : Option Json}
    {done : Option (List (String × Json))} {later : List (String × Json)}
    (h : (do
      let item ← item
      let done ← done
      match ← readChars? raw with
      | str key => return Assoc.insert key item done
      | _ => none) = some later) :
    ∃ found before, item = some found ∧ done = some before ∧
      membersWeight later ≤ raw.length + 1 + weight found + membersWeight before := by
  obtain ⟨found, hfound, h⟩ := Option.bind_eq_some_iff.1 h
  obtain ⟨before, hbefore, h⟩ := Option.bind_eq_some_iff.1 h
  obtain ⟨name, hname, h⟩ := Option.bind_eq_some_iff.1 h
  split at h
  next key =>
    cases h
    have hkey := weight_le_of_readChars? hname
    have hinsert := membersWeight_insert_le key found before
    rw [weight] at hkey
    exact ⟨found, before, hfound, hbefore, by omega⟩
  next => cases h

mutual

/-- A value takes tokens of at least its weight. -/
theorem weight_value {complete : Bool} {fuel : Nat} {ts rest : List Token} {value : Json}
    (h : Commented.value complete fuel ts = .ok (some value, rest)) :
    weight value + totalSize rest ≤ totalSize ts := by
  cases fuel with
  | zero => cases h
  | succ fuel =>
    rw [Commented.value.eq_def] at h
    split at h
    -- a string or a number weighs no more than its own text
    case h_3 raw more | h_4 raw more =>
      simp only [Except.ok.injEq, Prod.mk.injEq] at h
      obtain ⟨hread, rfl⟩ := h
      exact Nat.add_le_add_right (weight_le_of_readChars? hread) _
    case h_5 word more =>
      cases h
      simp only [totalSize_cons, Token.size]
      omega
    case h_6 more | h_9 more =>
      cases h
      simp only [weight, itemsWeight, membersWeight, totalSize_cons, Token.size]
      omega
    -- an empty array or object with a comma in it, and then one with items or members
    case h_7 more | h_10 more =>
      split at h
      · cases h
        simp only [weight, itemsWeight, membersWeight, totalSize_cons, Token.size]
        omega
      · cases h
      · cases h
    case h_8 more _ _ =>
      obtain ⟨before, hbefore, hle⟩ := weight_items h
      cases hbefore
      simp only [itemsWeight, totalSize_cons, Token.size] at hle ⊢
      omega
    case h_11 more _ _ =>
      obtain ⟨before, hbefore, hle⟩ := weight_members h
      cases hbefore
      simp only [membersWeight, totalSize_cons, Token.size] at hle ⊢
      omega
    all_goals cases h

/-- Items take tokens of at least their weight and the bracket that closes the array. -/
theorem weight_items {complete : Bool} {fuel : Nat} {done : Option (List Json)}
    {ts rest : List Token} {value : Json}
    (h : Commented.items complete fuel done ts = .ok (some value, rest)) :
    ∃ before, done = some before ∧
      weight value + totalSize rest ≤ itemsWeight before + 1 + totalSize ts := by
  cases fuel with
  | zero => cases h
  | succ fuel =>
    rw [Commented.items.eq_def] at h
    obtain ⟨⟨item, left⟩, hitem, h⟩ := bind_eq_ok_iff.1 h
    -- where the array ends, its closing bracket is among the tokens
    have hend : ∀ {after : List Token}, totalSize after + 1 ≤ totalSize left →
        Option.map (fun items => arr items.reverse) (do return (← item) :: (← done)) =
            some value →
          ∃ before, done = some before ∧
            weight value + totalSize after ≤ itemsWeight before + 1 + totalSize ts := by
      intro after hafter hvalue
      obtain ⟨later, hlater, rfl⟩ := Option.map_eq_some_iff.1 hvalue
      obtain ⟨found, before, rfl, rfl, hadded⟩ := itemsWeight_of_added hlater
      have hfound := weight_value hitem
      refine ⟨before, rfl, ?_⟩
      rw [weight, itemsWeight_reverse]
      omega
    dsimp only at h
    split at h
    case h_1 after | h_2 after =>
      simp only [Except.ok.injEq, Prod.mk.injEq] at h
      obtain ⟨hvalue, rfl⟩ := h
      refine hend ?_ hvalue
      simp only [totalSize_cons, Token.size]
      omega
    case h_3 after _ =>
      obtain ⟨later, hlater, hle⟩ := weight_items h
      obtain ⟨found, before, rfl, rfl, hadded⟩ := itemsWeight_of_added hlater
      have hfound := weight_value hitem
      refine ⟨before, rfl, ?_⟩
      simp only [totalSize_cons, Token.size] at hfound
      omega
    all_goals cases h

/-- Members take tokens of at least their weight and the brace that closes the object. -/
theorem weight_members {complete : Bool} {fuel : Nat} {done : Option (List (String × Json))}
    {ts rest : List Token} {value : Json}
    (h : Commented.members complete fuel done ts = .ok (some value, rest)) :
    ∃ before, done = some before ∧
      weight value + totalSize rest ≤ membersWeight before + 1 + totalSize ts := by
  cases fuel with
  | zero => cases h
  | succ fuel =>
    rw [Commented.members.eq_def] at h
    dsimp only at h
    split at h
    case h_1 raw more =>
      obtain ⟨⟨item, left⟩, hitem, h⟩ := bind_eq_ok_iff.1 h
      -- where the object ends, its closing brace is among the tokens
      have hend : ∀ {after : List Token}, totalSize after + 1 ≤ totalSize left →
          Option.map obj (do
            let item ← item
            let done ← done
            match ← readChars? raw with
            | str key => return Assoc.insert key item done
            | _ => none) = some value →
            ∃ before, done = some before ∧ weight value + totalSize after ≤
              membersWeight before + 1 + totalSize (.string raw :: .colon :: more) := by
        intro after hafter hvalue
        obtain ⟨later, hlater, rfl⟩ := Option.map_eq_some_iff.1 hvalue
        obtain ⟨found, before, rfl, rfl, hadded⟩ := membersWeight_of_added hlater
        have hfound := weight_value hitem
        refine ⟨before, rfl, ?_⟩
        simp only [weight, totalSize_cons, Token.size]
        omega
      dsimp only at h
      split at h
      case h_1 after | h_2 after =>
        simp only [Except.ok.injEq, Prod.mk.injEq] at h
        obtain ⟨hvalue, rfl⟩ := h
        refine hend ?_ hvalue
        simp only [totalSize_cons, Token.size]
        omega
      case h_3 after _ =>
        obtain ⟨later, hlater, hle⟩ := weight_members h
        obtain ⟨found, before, rfl, rfl, hadded⟩ := membersWeight_of_added hlater
        have hfound := weight_value hitem
        refine ⟨before, rfl, ?_⟩
        simp only [totalSize_cons, Token.size] at hfound ⊢
        omega
      all_goals cases h
    all_goals cases h

end

/-- A value that is read from a commented text weighs no more than the text. -/
theorem weight_le_of_readCommented {s : String} {value : Json}
    (h : readCommented s = .ok value) : weight value ≤ s.toList.length := by
  have hsize := (totalSize_tokens_le (s.toList.length + 1) s.toList).1
  unfold readCommented at h
  dsimp only at h
  split at h
  · cases h
  next read hread =>
    split at h
    · cases h
    · split at h
      · cases h
      · split at h
        next found =>
          cases h
          -- all tokens were used, and together they are no longer than the text
          have hle := weight_value hread
          rw [totalSize_nil] at hle
          omega
        · cases h
  · cases h

end JuliaSession.Json
