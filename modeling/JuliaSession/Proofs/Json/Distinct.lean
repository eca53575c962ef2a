import JuliaSession.Config.Merge
import JuliaSession.Proofs.Json.Weights

/-!
# Objects whose keys are given once

An object that was read has no key twice, and neither has an object in it: a key that a text gives
twice keeps its place and its last value.

* `Json.DistinctKeys`: no object that a path of keys leads to has a key twice.
* `distinctKeys_of_readWith`, `distinctKeys_of_readCommented`: what is read has distinct keys.
-/

namespace JuliaSession

namespace Json

open Commented (Token nextToken?)

/-- Is this an object? -/
def isObject : Json → Bool
  | obj _ => true
  | _ => false

/-! ### Keys that are given once -/

/-- No object that a path leads to has a key twice. -/
def DistinctKeys (json : Json) : Prop :=
  ∀ path members, follow? path json = some (obj members) → (Assoc.keys members).Nodup

@[simp]
theorem follow?_nil (json : Json) : follow? [] json = some json := by cases json <;> rfl

theorem follow?_cons (key : String) (path : List String) (members : Members) :
    follow? (key :: path) (obj members) = (Assoc.get? key members).bind (follow? path) := by
  rw [follow?]
  cases Assoc.get? key members <;> rfl

/-- A path leads through objects only. -/
theorem follow?_cons_eq_none {json : Json} (h : json.isObject = false) (key : String)
    (path : List String) : follow? (key :: path) json = none := by
  cases json with
  | obj members => cases h
  | _ => rfl

/-- A path is followed to its end, and from there on. -/
theorem follow?_append (path more : List String) (json : Json) :
    follow? (path ++ more) json = (follow? path json).bind (follow? more) := by
  induction path generalizing json with
  | nil => rw [List.nil_append, follow?_nil, Option.bind_some]
  | cons key path ih =>
    cases hobject : json.isObject with
    | false =>
      rw [List.cons_append, follow?_cons_eq_none hobject, follow?_cons_eq_none hobject]
      rfl
    | true =>
      cases json with
      | obj members =>
        rw [List.cons_append, follow?_cons, follow?_cons, Option.bind_assoc]
        exact congrArg _ (funext ih)
      | _ => cases hobject

theorem DistinctKeys.nodup {members : Members} (h : DistinctKeys (obj members)) :
    (Assoc.keys members).Nodup := h [] members (follow?_nil _)

/-- A member of an object has distinct keys if the object does. -/
theorem DistinctKeys.member {members : Members} (h : DistinctKeys (obj members)) {key : String}
    {value : Json} (hvalue : Assoc.get? key members = some value) : DistinctKeys value := by
  intro path inner hpath
  refine h (key :: path) inner ?_
  rw [follow?_cons, hvalue]
  exact hpath

theorem distinctKeys_of_not_isObject {json : Json} (h : json.isObject = false) :
    DistinctKeys json := by
  intro path members hpath
  cases path with
  | nil =>
    rw [follow?_nil] at hpath
    cases hpath
    cases h
  | cons key path =>
    rw [follow?_cons_eq_none h] at hpath
    cases hpath

/-- An object has distinct keys if its own keys are distinct and its members have distinct keys. -/
theorem distinctKeys_obj {members : Members} (hkeys : (Assoc.keys members).Nodup)
    (hvalues : ∀ key value, Assoc.get? key members = some value → DistinctKeys value) :
    DistinctKeys (obj members) := by
  intro path inner hpath
  cases path with
  | nil =>
    rw [follow?_nil] at hpath
    cases hpath
    exact hkeys
  | cons key path =>
    rw [follow?_cons] at hpath
    obtain ⟨value, hvalue, hpath⟩ := Option.bind_eq_some_iff.1 hpath
    exact hvalues key value hvalue path inner hpath

theorem distinctKeys_nil : DistinctKeys (obj []) :=
  distinctKeys_obj List.nodup_nil fun _ _ h => by cases h

/-- Setting a member keeps keys distinct. -/
theorem DistinctKeys.insert {members : Members} (h : DistinctKeys (obj members)) (key : String)
    {value : Json} (hvalue : DistinctKeys value) :
    DistinctKeys (obj (Assoc.insert key value members)) := by
  refine distinctKeys_obj (Assoc.nodup_keys_insert h.nodup key value) fun other found hfound => ?_
  rw [Assoc.get?_insert] at hfound
  split at hfound
  · cases hfound
    exact hvalue
  · exact h.member hfound

/-! ### The reader of JSON -/

/-- A number is no object. -/
theorem isObject_readNumber {loose negative : Bool} {cs rest : List Char} {value : Json}
    (h : readNumber loose negative cs = .ok (value, rest)) : value.isObject = false := by
  cases value with
  | obj members =>
    have hweight := (weight_readNumber h).1
    rw [weight] at hweight
    cases hweight
  | _ => rfl

mutual

/-- A value that is read has distinct keys. -/
theorem distinctKeys_readValue {loose : Bool} {depth fuel : Nat} {cs rest : List Char}
    {value : Json} (h : readValue loose depth fuel cs = .ok (value, rest)) :
    DistinctKeys value := by
  cases fuel with
  | zero => cases h
  | succ fuel =>
    rw [readValue.eq_def] at h
    dsimp only at h
    split at h
    case h_1 more =>
      obtain ⟨⟨text, left⟩, -, h⟩ := bind_eq_ok_iff.1 h
      cases h
      exact distinctKeys_of_not_isObject rfl
    case h_8 more _ => exact distinctKeys_of_not_isObject (isObject_readNumber h)
    case h_9 more =>
      split at h
      next => cases h
      next =>
        cases h
        exact distinctKeys_of_not_isObject rfl
      next =>
        obtain ⟨⟨items, left⟩, -, h⟩ := bind_eq_ok_iff.1 h
        cases h
        exact distinctKeys_of_not_isObject rfl
    case h_10 c more _ _ _ _ _ _ _ _ _ =>
      split at h
      · split at h
        next => cases h
        next => cases h
        next =>
          split at h
          · cases h
            exact distinctKeys_nil
          · obtain ⟨⟨members, left⟩, hmembers, h⟩ := bind_eq_ok_iff.1 h
            cases h
            exact distinctKeys_readMembers distinctKeys_nil hmembers
      · exact distinctKeys_of_not_isObject (isObject_readNumber h)
    case h_11 => cases h
    -- words are no objects
    all_goals
      cases h
      exact distinctKeys_of_not_isObject rfl

/-- Members that are read have distinct keys. -/
theorem distinctKeys_readMembers {loose : Bool} {depth fuel : Nat}
    {done members : List (String × Json)} {cs rest : List Char} (hdone : DistinctKeys (obj done))
    (h : readMembers loose depth fuel done cs = .ok (members, rest)) :
    DistinctKeys (obj members) := by
  cases fuel with
  | zero => cases h
  | succ fuel =>
    rw [readMembers.eq_def] at h
    dsimp only at h
    split at h
    next more =>
      obtain ⟨⟨key, left⟩, -, h⟩ := bind_eq_ok_iff.1 h
      dsimp only at h
      split at h
      next =>
        obtain ⟨⟨item, afterItem⟩, hitem, h⟩ := bind_eq_ok_iff.1 h
        -- a key that is read again replaces the member that has it
        have hadded := hdone.insert key (distinctKeys_readValue hitem)
        dsimp only at h
        split at h
        next => exact distinctKeys_readMembers hadded h
        next =>
          split at h
          · cases h
            exact hadded
          · cases h
        · cases h
      · cases h
    · cases h

end

/-- What a text of JSON gives has distinct keys. -/
theorem distinctKeys_of_readWith {rules : Rules} {cs : List Char} {value : Json}
    (h : readWith rules cs = .ok value) : DistinctKeys value := by
  obtain ⟨⟨found, rest⟩, hvalue, hend⟩ := bind_eq_ok_iff.1 h
  dsimp only at hend
  split at hend
  · cases hend
    exact distinctKeys_readValue hvalue
  · cases hend

theorem distinctKeys_of_readChars? {cs : List Char} {value : Json}
    (h : readChars? cs = some value) : DistinctKeys value := by
  unfold readChars? at h
  cases hread : readWith .strict cs with
  | error fault =>
    rw [hread] at h
    cases h
  | ok found =>
    rw [hread] at h
    cases h
    exact distinctKeys_of_readWith hread

/-! ### The reader of commented JSON -/

/-- No token is an object; words are `null`, `true` and `false`. -/
def PlainWords (ts : List Token) : Prop := ∀ word, .word word ∈ ts → word.isObject = false

theorem PlainWords.tail {token : Token} {ts : List Token} (h : PlainWords (token :: ts)) :
    PlainWords ts := fun word hword => h word (List.mem_cons_of_mem _ hword)

/-- The word that a text starts with is no object. -/
theorem isObject_nextToken? {cs rest : List Char} {word : Json}
    (h : nextToken? cs = some (.word word, rest)) : word.isObject = false := by
  unfold nextToken? at h
  split at h
  case h_1 =>
    obtain ⟨_, -, h⟩ := Option.map_eq_some_iff.1 h
    cases h
  case h_9 =>
    split_ifs at h
    · cases h
    · cases h
    · obtain ⟨_, -, h⟩ := Option.map_eq_some_iff.1 h
      cases h
  all_goals
    cases h
    try rfl

theorem plainWords_tokens (fuel : Nat) (cs : List Char) :
    PlainWords (Commented.tokens fuel cs).1 := by
  induction fuel generalizing cs with
  | zero => exact fun _ hword => by cases hword
  | succ fuel ih =>
    unfold Commented.tokens
    split
    · exact fun _ hword => by cases hword
    next =>
      split
      · exact fun _ hword => by cases hword
      next token rest htoken =>
        intro word hword
        rcases List.mem_cons.1 hword with rfl | hword
        · exact isObject_nextToken? htoken
        · exact ih rest word hword

/-- A member is added only to members that are all read. -/
theorem distinctKeys_added {raw : List Char} {item : Option Json}
    {done : Option (List (String × Json))} (hitem : ∀ value, item = some value → DistinctKeys value)
    (hdone : ∀ members, done = some members → DistinctKeys (obj members))
    {members : List (String × Json)}
    (h : (do
      let item ← item
      let done ← done
      match ← readChars? raw with
      | str key => return Assoc.insert key item done
      | _ => none) = some members) : DistinctKeys (obj members) := by
  obtain ⟨found, hfound, h⟩ := Option.bind_eq_some_iff.1 h
  obtain ⟨before, hbefore, h⟩ := Option.bind_eq_some_iff.1 h
  obtain ⟨name, -, h⟩ := Option.bind_eq_some_iff.1 h
  split at h
  next key =>
    cases h
    exact (hdone before hbefore).insert key (hitem found hfound)
  next => cases h

mutual

/-- A value that tokens give has distinct keys. -/
theorem distinctKeys_value {complete : Bool} {fuel : Nat} {ts rest : List Token}
    {read : Option Json} (hwords : PlainWords ts)
    (h : Commented.value complete fuel ts = .ok (read, rest)) :
    PlainWords rest ∧ ∀ value, read = some value → DistinctKeys value := by
  cases fuel with
  | zero => cases h
  | succ fuel =>
    rw [Commented.value.eq_def] at h
    have hplain : ∀ {value : Json}, value.isObject = false →
        ∀ found, some value = some found → DistinctKeys found := by
      rintro value hvalue _ ⟨⟩
      exact distinctKeys_of_not_isObject hvalue
    have hempty : ∀ found, some (obj []) = some found → DistinctKeys found := by
      rintro _ ⟨⟩
      exact distinctKeys_nil
    split at h
    -- strings and numbers are read on their own
    case h_3 | h_4 =>
      cases h
      exact ⟨hwords.tail, fun _ => distinctKeys_of_readChars?⟩
    case h_5 =>
      cases h
      exact ⟨hwords.tail, hplain (hwords _ List.mem_cons_self)⟩
    case h_6 =>
      cases h
      exact ⟨hwords.tail.tail, hplain rfl⟩
    case h_9 =>
      cases h
      exact ⟨hwords.tail.tail, hempty⟩
    -- a lone comma between brackets or braces is allowed, unlike one in front of an item
    case h_7 =>
      split at h
      · cases h
        exact ⟨hwords.tail.tail.tail, hplain rfl⟩
      · cases h
      · cases h
    case h_10 =>
      split at h
      · cases h
        exact ⟨hwords.tail.tail.tail, hempty⟩
      · cases h
      · cases h
    case h_8 => exact distinctKeys_items hwords.tail h
    case h_11 =>
      refine distinctKeys_members hwords.tail ?_ h
      rintro _ ⟨⟩
      exact distinctKeys_nil
    all_goals cases h

/-- Items that tokens give are an array. -/
theorem distinctKeys_items {complete : Bool} {fuel : Nat} {done : Option (List Json)}
    {ts rest : List Token} {read : Option Json} (hwords : PlainWords ts)
    (h : Commented.items complete fuel done ts = .ok (read, rest)) :
    PlainWords rest ∧ ∀ value, read = some value → DistinctKeys value := by
  cases fuel with
  | zero => cases h
  | succ fuel =>
    rw [Commented.items.eq_def] at h
    obtain ⟨⟨item, left⟩, hitem, h⟩ := bind_eq_ok_iff.1 h
    have hleft := (distinctKeys_value hwords hitem).1
    have harray : ∀ {items : Option (List Json)} {value : Json},
        items.map (fun items => arr items.reverse) = some value → DistinctKeys value := by
      intro items value hvalue
      obtain ⟨later, -, rfl⟩ := Option.map_eq_some_iff.1 hvalue
      exact distinctKeys_of_not_isObject rfl
    dsimp only at h
    split at h
    case h_1 =>
      cases h
      exact ⟨hleft.tail, fun _ => harray⟩
    case h_2 =>
      cases h
      exact ⟨hleft.tail.tail, fun _ => harray⟩
    case h_3 => exact distinctKeys_items hleft.tail h
    all_goals cases h

/-- Members that tokens give have distinct keys. -/
theorem distinctKeys_members {complete : Bool} {fuel : Nat} {done : Option (List (String × Json))}
    {ts rest : List Token} {read : Option Json} (hwords : PlainWords ts)
    (hdone : ∀ members, done = some members → DistinctKeys (obj members))
    (h : Commented.members complete fuel done ts = .ok (read, rest)) :
    PlainWords rest ∧ ∀ value, read = some value → DistinctKeys value := by
  cases fuel with
  | zero => cases h
  | succ fuel =>
    rw [Commented.members.eq_def] at h
    dsimp only at h
    split at h
    case h_1 raw more =>
      obtain ⟨⟨item, left⟩, hitem, h⟩ := bind_eq_ok_iff.1 h
      obtain ⟨hleft, hvalue⟩ := distinctKeys_value hwords.tail.tail hitem
      have hobject : ∀ value, Option.map obj (do
            let item ← item
            let done ← done
            match ← readChars? raw with
            | str key => return Assoc.insert key item done
            | _ => none) = some value → DistinctKeys value := by
        intro value hsome
        obtain ⟨members, hmembers, rfl⟩ := Option.map_eq_some_iff.1 hsome
        exact distinctKeys_added hvalue hdone hmembers
      dsimp only at h
      split at h
      case h_1 =>
        cases h
        exact ⟨hleft.tail, hobject⟩
      case h_2 =>
        cases h
        exact ⟨hleft.tail.tail, hobject⟩
      case h_3 =>
        exact distinctKeys_members hleft.tail (fun _ => distinctKeys_added hvalue hdone) h
      all_goals cases h
    all_goals cases h

end

/-- What a commented text gives has distinct keys. -/
theorem distinctKeys_of_readCommented {s : String} {value : Json}
    (h : readCommented s = .ok value) : DistinctKeys value := by
  have hwords := plainWords_tokens (s.toList.length + 1) s.toList
  unfold readCommented at h
  dsimp only at h
  split at h
  · cases h
  next read hread =>
    split_ifs at h
    split at h
    next found =>
      cases h
      exact (distinctKeys_value hwords hread).2 _ rfl
    next => cases h
  · cases h

end Json

end JuliaSession
