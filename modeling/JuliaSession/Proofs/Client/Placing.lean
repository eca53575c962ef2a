import Mathlib.Data.List.Induction
import JuliaSession.Client.Pushed
import JuliaSession.Proofs.Json.Distinct
import JuliaSession.Proofs.Step

/-!
# The tree of pushed settings

The values of dotted names are placed in one object after the other. A value that is placed changes
what its own path leads to, adds a member to the objects above it, and leaves everything beside the
path alone. So names that are in nobody's way can be placed in any number: none of them fails, and
none disturbs another.

* `follow?_place_below`, `follow?_place_apart`, `follow?_place_above`: what one value changes.
* `Above`: what is on the way to the values.
* `Spread`: every value stands where its name says, and nothing else is there.
* `Spread.concat`: one more value is placed.
* `exists_spread_tree`: all values are placed.
-/

namespace JuliaSession.Pushed

open Json (follow?)
open Text

variable {value : Json} {part : String} {rest : List String} {tree placed : Json.Members}

/-! ### Placing one value -/

/-- The members of the object that a route leads to, or none. -/
def membersAt (route : List String) (tree : Json.Members) : Json.Members :=
  match follow? route (.obj tree) with
  | some (.obj members) => members
  | _ => []

theorem membersAt_cases (route : List String) (tree : Json.Members) :
    membersAt route tree = [] ∨
      follow? route (.obj tree) = some (.obj (membersAt route tree)) := by
  unfold membersAt
  split
  next hfound => exact .inr hfound
  next => exact .inl rfl

/-- The members under a key: those of the object that is there, or none where nothing is. -/
inductive Under (part : String) (tree : Json.Members) : Json.Members → Prop where
  /-- There is an object. -/
  | present {below : Json.Members} (h : Assoc.get? part tree = some (.obj below)) :
    Under part tree below
  /-- There is nothing. -/
  | absent (h : Assoc.get? part tree = none) : Under part tree []

theorem place_nil (value : Json) (part : String) (tree : Json.Members) :
    place value part [] tree = .ok (Assoc.insert part value tree) := by
  rw [place]

/-- A value is placed in the object under the first key, which is made if there is none. -/
theorem place_cons_eq_ok_iff {next : String} :
    place value part (next :: rest) tree = .ok placed ↔
      ∃ below inner, Under part tree below ∧ place value next rest below = .ok inner ∧
        placed = Assoc.insert part (.obj inner) tree := by
  -- what is below the key is placed first, and then set under the key
  have hinto (below : Json.Members) :
      (do return Assoc.insert part (Json.obj (← place value next rest below)) tree) = .ok placed ↔
        ∃ inner, place value next rest below = .ok inner ∧
          placed = Assoc.insert part (.obj inner) tree := by
    rw [bind_eq_ok_iff]
    refine exists_congr fun inner => and_congr_right fun _ => ?_
    exact ⟨fun h => (Except.ok.inj h).symm, fun h => congrArg Except.ok h.symm⟩
  rw [place]
  constructor
  · intro h
    -- nothing but an object can take the rest of the path
    cases hmember : Assoc.get? part tree with
    | none =>
      rw [hmember] at h
      obtain ⟨inner, hplaced⟩ := (hinto []).1 h
      exact ⟨[], inner, .absent hmember, hplaced⟩
    | some member =>
      rw [hmember] at h
      cases member with
      | obj below =>
        obtain ⟨inner, hplaced⟩ := (hinto below).1 h
        exact ⟨below, inner, .present hmember, hplaced⟩
      | _ => cases h
  · rintro ⟨below, inner, hunder, hplaced⟩
    cases hunder with
    | present hmember =>
      rw [hmember]
      exact (hinto below).2 ⟨inner, hplaced⟩
    | absent hmember =>
      rw [hmember]
      exact (hinto []).2 ⟨inner, hplaced⟩

namespace Under

variable {below : Json.Members} (h : Under part tree below)
include h

/-- A route on from the first key leads through the members under it. -/
theorem follow?_cons_cons (key : String) (route : List String) :
    follow? (part :: key :: route) (.obj tree) = follow? (key :: route) (.obj below) := by
  rw [Json.follow?_cons]
  cases h with
  | present hmember =>
    rw [hmember]
    rfl
  | absent hmember =>
    rw [hmember]
    rfl

theorem membersAt_cons (route : List String) :
    membersAt (part :: route) tree = membersAt route below := by
  cases route with
  | nil =>
    unfold membersAt
    rw [Json.follow?_cons]
    cases h with
    | present hmember =>
      rw [hmember]
      rfl
    | absent hmember =>
      rw [hmember]
      rfl
  | cons key route => rw [membersAt, membersAt, h.follow?_cons_cons]

end Under

/-- From the end of its path on, a route leads into the value that was placed. -/
theorem follow?_place_below (h : place value part rest tree = .ok placed) (below : List String) :
    follow? (part :: rest ++ below) (.obj placed) = follow? below value := by
  induction rest generalizing part tree placed with
  | nil =>
    rw [place_nil] at h
    cases h
    rw [List.cons_append, Json.follow?_cons, Assoc.get?_insert_self]
    rfl
  | cons next rest ih =>
    obtain ⟨_, inner, -, hinner, rfl⟩ := place_cons_eq_ok_iff.1 h
    rw [List.cons_append, Json.follow?_cons, Assoc.get?_insert_self, Option.bind_some]
    exact ih hinner

/-- Beside the path of the value everything stays as it is. -/
theorem follow?_place_apart (h : place value part rest tree = .ok placed) {route : List String}
    (habove : ¬ route <+: part :: rest) (hbelow : ¬ part :: rest <+: route) :
    follow? route (.obj placed) = follow? route (.obj tree) := by
  -- along the path of the value, with the route shortened by the keys that the two share
  induction rest generalizing part tree placed route with
  | nil =>
    rw [place_nil] at h
    cases h
    cases route with
    | nil => exact absurd List.nil_prefix habove
    | cons key route =>
      have hkey : key ≠ part := fun heq => hbelow (by simp [heq])
      rw [Json.follow?_cons, Json.follow?_cons, Assoc.get?_insert_of_ne hkey]
  | cons next rest ih =>
    obtain ⟨below, inner, hunder, hinner, rfl⟩ := place_cons_eq_ok_iff.1 h
    match route, habove, hbelow with
    | [], habove, _ => exact absurd List.nil_prefix habove
    | key :: route, habove, hbelow =>
      by_cases hkey : key = part
      · -- the route and the path part further down
        subst hkey
        simp only [List.cons_prefix_cons, true_and] at habove hbelow
        have hrest := ih hinner habove hbelow
        match route, habove with
        | [], habove => exact absurd List.nil_prefix habove
        | second :: route, _ =>
          rw [hunder.follow?_cons_cons, ← hrest, Json.follow?_cons, Assoc.get?_insert_self]
          rfl
      · rw [Json.follow?_cons, Json.follow?_cons, Assoc.get?_insert_of_ne hkey]

/-- Above the end of its path, the value adds a member to the objects on the way at most. -/
theorem follow?_place_above (h : place value part rest tree = .ok placed) {route more : List String}
    {key : String} (hpath : part :: rest = route ++ key :: more) :
    ∃ member, follow? route (.obj placed) =
      some (.obj (Assoc.insert key member (membersAt route tree))) := by
  -- along the path of the value, of which the route is a beginning
  induction rest generalizing part tree placed route with
  | nil =>
    rw [place_nil] at h
    cases h
    obtain ⟨rfl, hkey⟩ : route = [] ∧ part = key := by
      cases route <;> simp_all
    subst hkey
    exact ⟨value, Json.follow?_nil _⟩
  | cons next rest ih =>
    obtain ⟨below, inner, hunder, hinner, rfl⟩ := place_cons_eq_ok_iff.1 h
    cases route with
    | nil =>
      obtain ⟨rfl, -⟩ := List.cons.inj hpath
      exact ⟨.obj inner, Json.follow?_nil _⟩
    | cons first route =>
      obtain ⟨rfl, hrest⟩ := List.cons.inj hpath
      obtain ⟨member, hfollow⟩ := ih hinner hrest
      refine ⟨member, ?_⟩
      rw [Json.follow?_cons, Assoc.get?_insert_self, Option.bind_some, hfollow,
        hunder.membersAt_cons]

/-- An object that is not part of the value is as before, or was given a member, which is on the
path. -/
theorem members_place (h : place value part rest tree = .ok placed) {route : List String}
    {members : Json.Members} (hmembers : follow? route (.obj placed) = some (.obj members))
    (hbelow : ¬ part :: rest <+: route) :
    follow? route (.obj tree) = some (.obj members) ∨
      ∃ key member more, part :: rest = route ++ key :: more ∧
        members = Assoc.insert key member (membersAt route tree) := by
  -- a route that is not above the value and not below it is apart from it
  by_cases habove : route <+: part :: rest
  · obtain ⟨tail, htail⟩ := habove
    cases tail with
    | nil => exact absurd ⟨[], by simpa using htail.symm⟩ hbelow
    | cons key more =>
      obtain ⟨member, hfollow⟩ := follow?_place_above h htail.symm
      refine .inr ⟨key, member, more, htail.symm, ?_⟩
      exact Json.obj.inj (Option.some.inj (hmembers.symm.trans hfollow))
  · rw [follow?_place_apart h habove hbelow] at hmembers
    exact .inl hmembers

/-- A value can be placed if nothing but objects is above it. -/
theorem exists_place (value : Json)
    (h : ∀ route key more found, part :: rest = route ++ key :: more →
      follow? route (.obj tree) = some found → found.isObject = true) :
    ∃ placed, place value part rest tree = .ok placed := by
  induction rest generalizing part tree with
  | nil => exact ⟨_, place_nil value part tree⟩
  | cons next rest ih =>
    -- what stands under the first key is an object, or there is nothing
    obtain ⟨below, hunder⟩ : ∃ below, Under part tree below := by
      cases hmember : Assoc.get? part tree with
      | none => exact ⟨[], .absent hmember⟩
      | some member =>
        have hobject : member.isObject = true := by
          apply h [part] next rest member rfl
          rw [Json.follow?_cons, hmember, Option.bind_some, Json.follow?_nil]
        cases member with
        | obj below => exact ⟨below, .present hmember⟩
        | _ => cases hobject
    obtain ⟨inner, hinner⟩ : ∃ inner, place value next rest below = .ok inner := by
      -- below the key the routes are those of the whole tree without their first key
      apply ih
      intro route key more found hpath hfound
      cases route with
      | nil =>
        rw [Json.follow?_nil] at hfound
        cases hfound
        rfl
      | cons first route =>
        rw [← hunder.follow?_cons_cons] at hfound
        exact h (part :: first :: route) key more found (by rw [hpath]; rfl) hfound
    exact ⟨_, place_cons_eq_ok_iff.2 ⟨below, inner, hunder, hinner, rfl⟩⟩

/-! ### Dotted names -/

/-- One name is a proper dotted prefix of another: the other one goes on after it with a dot. -/
def DottedPrefix (name longer : String) : Prop := ∃ rest, longer = name ++ "." ++ rest

/-- None of the names is a proper dotted prefix of another. A name may be given twice. -/
def Independent (names : List String) : Prop :=
  ∀ name ∈ names, ∀ other ∈ names, ¬ DottedPrefix name other

theorem dottedPrefix_iff {name longer : String} :
    DottedPrefix name longer ↔ (name ++ ".").toList <+: longer.toList := by
  constructor
  · rintro ⟨rest, rfl⟩
    exact ⟨rest.toList, by simp⟩
  · rintro ⟨rest, hrest⟩
    exact ⟨String.ofList rest, String.toList_injective (by simp [← hrest])⟩

instance (name longer : String) : Decidable (DottedPrefix name longer) :=
  decidable_of_iff _ dottedPrefix_iff.symm

instance : DecidablePred Independent := fun names =>
  inferInstanceAs (Decidable (∀ name ∈ names, ∀ other ∈ names, ¬ DottedPrefix name other))

theorem path_ne_nil (name : String) : path name ≠ [] :=
  mt List.map_eq_nil_iff.1 (splitOnChar_ne_nil '.' name.toList)

/-- A name is its path, joined by dots. -/
theorem joinWith_path (name : String) :
    joinWith ['.'] ((path name).map String.toList) = name.toList := by
  simp [path, split, Function.comp_def, joinWith_splitOnChar]

theorem Independent.subset {names more : List String} (h : Independent more)
    (hsubset : names ⊆ more) : Independent names :=
  fun name hname other hother => h name (hsubset hname) other (hsubset hother)

theorem path_append_dot (name rest : String) :
    path (name ++ "." ++ rest) = path name ++ path rest := by
  have htext : (name ++ "." ++ rest).toList = name.toList ++ '.' :: rest.toList := by simp
  rw [path, split, htext, splitOnChar_append_cons, List.map_append]
  rfl

/-- The path of a name starts with that of another exactly if the names are the same or the one goes
on after the other with a dot. -/
theorem path_prefix_iff {name longer : String} :
    path name <+: path longer ↔ name = longer ∨ DottedPrefix name longer := by
  constructor
  · rintro ⟨more, hmore⟩
    have hname := joinWith_path name
    have hlonger := joinWith_path longer
    obtain ⟨first, rest, hpath⟩ := List.exists_cons_of_ne_nil (path_ne_nil name)
    rw [hpath, List.map_cons, joinWith_cons] at hname
    -- the keys of the name come first, and each one after them comes with a dot before it
    rw [← hmore, hpath, List.cons_append, List.map_cons, List.map_append, joinWith_cons,
      List.flatMap_append, ← List.append_assoc, hname] at hlonger
    cases more with
    | nil => exact .inl (String.toList_injective (by simpa using hlonger))
    | cons next more =>
      refine .inr ⟨String.ofList (next.toList ++ (more.map String.toList).flatMap (['.'] ++ ·)), ?_⟩
      apply String.toList_injective
      simpa using hlonger.symm
  · rintro (rfl | ⟨rest, rfl⟩)
    · exact List.prefix_rfl
    · rw [path_append_dot]
      apply List.prefix_append

/-! ### Placing all values -/

/-- A route leads to this object, which is above the values of some names and not part of one. -/
structure Above (names : List String) (tree : Json.Members) (route : List String)
    (members : Json.Members) : Prop where
  /-- The route leads to the object. -/
  found : follow? route (.obj tree) = some (.obj members)
  /-- The route has not come to a value. -/
  above : ∀ name ∈ names, ¬ path name <+: route

/-- The values of dotted names are spread over a tree: each of them stands where its name says, and
nothing else is there. -/
structure Spread (lookup : String → Json) (names : List String) (tree : Json.Members) : Prop where
  /-- The path of a name leads to its value. -/
  value : ∀ name ∈ names, follow? (path name) (.obj tree) = some (lookup name)
  /-- A key of an object above the values is on the way to one of them. -/
  leads : ∀ route members, Above names tree route members →
    ∀ key ∈ Assoc.keys members, ∃ name ∈ names, route ++ [key] <+: path name
  /-- An object above the values has no key twice. -/
  distinct : ∀ route members, Above names tree route members → (Assoc.keys members).Nodup

/-- An object above the values, after one more value was placed, was above them before, or it was
given the next key on the path of this value. -/
theorem Above.of_place {names : List String} {name : String} (hpath : path name = part :: rest)
    (hplaced : place value part rest tree = .ok placed) {route : List String}
    {members : Json.Members} (h : Above (names ++ [name]) placed route members) :
    Above names tree route members ∨
      ∃ key member before, route ++ [key] <+: path name ∧
        members = Assoc.insert key member before ∧ (before = [] ∨ Above names tree route before) := by
  have hold : ∀ other ∈ names, ¬ path other <+: route :=
    fun other hother => h.above other (List.mem_append_left _ hother)
  have hbelow : ¬ part :: rest <+: route := hpath ▸ h.above name List.mem_concat_self
  -- only the object that the new value enters has changed, by the key on the way to it
  rcases members_place hplaced h.found hbelow with hsame | ⟨key, member, more, hroute, hmembers⟩
  · exact .inl ⟨hsame, hold⟩
  · refine .inr ⟨key, member, membersAt route tree, ⟨more, ?_⟩, hmembers, ?_⟩
    · rw [hpath, hroute, List.append_assoc]
      rfl
    · exact (membersAt_cases route tree).imp id fun hfound => ⟨hfound, hold⟩

namespace Spread

variable {lookup : String → Json} {names : List String}

theorem nil (lookup : String → Json) : Spread lookup [] [] := by
  -- the only object in an empty tree is the tree itself
  have hempty {route : List String} {members : Json.Members}
      (h : follow? route (.obj []) = some (.obj members)) : members = [] := by
    cases route with
    | nil =>
      rw [Json.follow?_nil] at h
      cases h
      rfl
    | cons key route => cases h
  constructor
  · exact fun name hname => nomatch hname
  · intro route members habove key hkey
    rw [hempty habove.found] at hkey
    cases hkey
  · intro route members habove
    rw [hempty habove.found]
    exact List.nodup_nil

/-- A route in the tree goes on from the end of the path of a name, or leads to it. -/
theorem route_cases (h : Spread lookup names tree) {route : List String} {found : Json}
    (hfound : follow? route (.obj tree) = some found) :
    route = [] ∨ (∃ name ∈ names, path name <+: route) ∨ ∃ name ∈ names, route <+: path name := by
  rcases List.eq_nil_or_concat route with rfl | ⟨start, key, rfl⟩
  · exact .inl rfl
  right
  rw [List.concat_eq_append] at hfound ⊢
  -- if no path ends on the way, the last key stands above the values, and leads to one of them
  by_cases hbelow : ∃ name ∈ names, path name <+: start
  · obtain ⟨name, hname, hstarts⟩ := hbelow
    exact .inl ⟨name, hname, hstarts.trans (List.prefix_append _ _)⟩
  rw [Json.follow?_append] at hfound
  obtain ⟨node, hnode, hmember⟩ := Option.bind_eq_some_iff.1 hfound
  cases node with
  | obj members =>
    rw [Json.follow?_cons] at hmember
    obtain ⟨member, hmember, -⟩ := Option.bind_eq_some_iff.1 hmember
    have hkey : key ∈ Assoc.keys members := by
      rw [← Assoc.has_iff_mem_keys, Assoc.has, hmember]
      rfl
    have habove : Above names tree start members :=
      ⟨hnode, fun name hname hstarts => hbelow ⟨name, hname, hstarts⟩⟩
    exact .inr (h.leads start members habove key hkey)
  | _ => cases hmember

/-- Nothing but objects is above the end of the path of a name, if no other name is in the way. -/
theorem isObject_above (h : Spread lookup names tree) {name : String}
    (hname : ∀ other ∈ names, ¬ DottedPrefix other name) {route more : List String} {key : String}
    (hpath : path name = route ++ key :: more) {found : Json}
    (hfound : follow? route (.obj tree) = some found) : found.isObject = true := by
  have hnone : ∀ other ∈ names, ¬ path other <+: route := by
    intro other hother hstarts
    rcases path_prefix_iff.1 (hstarts.trans ⟨key :: more, hpath.symm⟩) with rfl | hdotted
    · have hlength := hstarts.length_le
      rw [hpath, List.length_append, List.length_cons] at hlength
      omega
    · exact hname other hother hdotted
  rcases h.route_cases hfound with rfl | ⟨other, hother, hbelow⟩ | ⟨other, hother, tail, htail⟩
  · rw [Json.follow?_nil] at hfound
    cases hfound
    rfl
  · exact absurd hbelow (hnone other hother)
  · cases tail with
    | nil => exact absurd ⟨[], by simpa using htail.symm⟩ (hnone other hother)
    | cons next tail =>
      -- the value of the other name is further down
      have hvalue := h.value other hother
      rw [← htail, Json.follow?_append, hfound, Option.bind_some] at hvalue
      by_contra hobject
      rw [Json.follow?_cons_eq_none (Bool.eq_false_iff.2 hobject)] at hvalue
      cases hvalue

/-- One more value can be placed. -/
theorem concat (h : Spread lookup names tree) {name : String}
    (hindependent : Independent (names ++ [name])) :
    ∃ placed, placeNamed name (lookup name) tree = .ok placed ∧
      Spread lookup (names ++ [name]) placed := by
  obtain ⟨part, rest, hpath⟩ := List.exists_cons_of_ne_nil (path_ne_nil name)
  have hself : name ∈ names ++ [name] := List.mem_concat_self
  have hothers {other : String} (hother : other ∈ names) : other ∈ names ++ [name] :=
    List.mem_append_left _ hother
  obtain ⟨placed, hplaced⟩ := exists_place (lookup name) fun route key more found hroute hfound =>
    h.isObject_above (fun other hother => hindependent other (hothers hother) name hself)
      (hpath.trans hroute) hfound
  have hnamed : placeNamed name (lookup name) tree = .ok placed := by
    rw [placeNamed, hpath]
    exact hplaced
  refine ⟨placed, hnamed, ?_, ?_, ?_⟩
  · -- the paths of different names part from each other, so the other values stay
    intro other hother
    by_cases hname : other = name
    · subst hname
      have hbelow := follow?_place_below hplaced []
      rwa [List.append_nil, ← hpath, Json.follow?_nil] at hbelow
    · have hother := (List.mem_append.1 hother).resolve_right (mt List.mem_singleton.1 hname)
      have habove : ¬ path other <+: path name := fun hstarts =>
        (path_prefix_iff.1 hstarts).elim hname (hindependent other (hothers hother) name hself)
      have hbelow : ¬ path name <+: path other := fun hstarts =>
        (path_prefix_iff.1 hstarts).elim (hname ·.symm)
          (hindependent name hself other (hothers hother))
      rw [hpath] at habove hbelow
      rw [follow?_place_apart hplaced habove hbelow, h.value other hother]
  · intro route members habove key hkey
    rcases habove.of_place hpath hplaced with hsame | ⟨next, member, before, hnext, rfl, hbefore⟩
    · obtain ⟨other, hother, hleads⟩ := h.leads route members hsame key hkey
      exact ⟨other, hothers hother, hleads⟩
    rw [← Assoc.has_iff_mem_keys, Assoc.has_insert_iff, Assoc.has_iff_mem_keys] at hkey
    -- the key is the new one, or it was there before
    rcases hkey with rfl | hkey
    · exact ⟨name, hself, hnext⟩
    · rcases hbefore with rfl | hbefore
      · cases hkey
      · obtain ⟨other, hother, hleads⟩ := h.leads route before hbefore key hkey
        exact ⟨other, hothers hother, hleads⟩
  · intro route members habove
    rcases habove.of_place hpath hplaced with hsame | ⟨next, member, before, -, rfl, hbefore⟩
    · exact h.distinct route members hsame
    apply Assoc.nodup_keys_insert
    rcases hbefore with rfl | hbefore
    · exact List.nodup_nil
    · exact h.distinct route before hbefore

end Spread

theorem placeAll_concat (lookup : String → Json) (names : List String) (name : String)
    (tree : Json.Members) :
    placeAll lookup (names ++ [name]) tree =
      (placeAll lookup names tree >>= placeNamed name (lookup name)) := by
  induction names generalizing tree with
  | nil => exact bind_pure (placeNamed name (lookup name) tree)
  | cons first names ih =>
    rw [List.cons_append, placeAll, placeAll, bind_assoc]
    exact congrArg _ (funext ih)

/-- The values of names that are in nobody's way are spread over the tree that is made of them. -/
theorem exists_spread_tree (lookup : String → Json) {names : List String}
    (h : Independent names) : ∃ spread, Pushed.tree lookup names = .ok spread ∧
      Spread lookup names spread := by
  induction names using List.reverseRecOn with
  | nil => exact ⟨[], rfl, .nil lookup⟩
  | append_singleton names name ih =>
    -- the names that are given first are placed first
    obtain ⟨before, hbefore, hspread⟩ := ih (h.subset (List.subset_append_left _ _))
    obtain ⟨placed, hplaced, hnext⟩ := hspread.concat h
    refine ⟨placed, ?_, hnext⟩
    rw [Pushed.tree] at hbefore ⊢
    rw [placeAll_concat, hbefore]
    exact hplaced

end JuliaSession.Pushed
