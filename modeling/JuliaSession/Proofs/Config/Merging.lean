import Mathlib.Data.List.Induction
import JuliaSession.Proofs.Json.Distinct

/-!
# What a merge leaves

Layers of settings are laid over each other, and a path of keys leads to the value of the last layer
that says anything about it. A layer settles a path if it has a value there, or has something that
is no object on the way.

* `follow?_merge`: what one layer leaves of another.
* `follow?_mergeLayers`: what all layers leave of one.
* `leaf_iff_written_last`: the leaves of the merged layers, told by what each layer has on the way.
-/

namespace JuliaSession

namespace Config

open Json (DistinctKeys follow?)

/-! ### One layer over another -/

/-- A member of the upper layer is laid over the member of the lower one. -/
theorem get?_merge {upper : Json.Members} (hkeys : (Assoc.keys upper).Nodup)
    (lower : Json.Members) (key : String) :
    Assoc.get? key (merge lower upper) =
      match Assoc.get? key upper with
      | none => Assoc.get? key lower
      | some value => some (mergeValue (Assoc.get? key lower) value) := by
  -- the entries of the upper layer are inserted one after the other, so the lower layer varies
  induction upper generalizing lower with
  | nil => rw [merge_nil, Assoc.get?_nil]
  | cons entry rest ih =>
    obtain ⟨first, value⟩ := entry
    obtain ⟨hfirst, hrest⟩ := List.nodup_cons.1 hkeys
    rw [merge, ih hrest, Assoc.get?]
    split_ifs with h
    · -- the key is not given again in the rest
      subst h
      rw [Assoc.get?_eq_none_of_not_mem hfirst]
      exact Assoc.get?_insert_self _ _ _
    · have hne : key ≠ first := fun heq => h heq.symm
      simp only [Assoc.get?_insert_of_ne hne]

/-- A value over nothing is that value. -/
theorem mergeValue_none (value : Json) : mergeValue none value = value := by
  cases value <;> simp [mergeValue]

/-- A value replaces the one below it, unless both are objects; then the two are merged. -/
theorem mergeValue_cases (lower : Option Json) (value : Json) :
    mergeValue lower value = value ∧
        (value.isObject = true → ∀ outer, lower ≠ some (.obj outer)) ∨
      ∃ outer inner, lower = some (.obj outer) ∧ value = .obj inner ∧
        mergeValue lower value = .obj (merge outer inner) := by
  cases value with
  | obj inner =>
    rcases lower with _ | lower
    · exact .inl ⟨mergeValue_none _, by simp⟩
    · cases lower with
      | obj outer => exact .inr ⟨outer, inner, rfl, rfl, by simp [mergeValue]⟩
      | _ => exact .inl ⟨by simp [mergeValue], by simp⟩
  | _ => exact .inl ⟨by simp [mergeValue], by simp [Json.isObject]⟩

/-- A layer over one that it shares no keys with is put after it. -/
theorem merge_eq_append {lower upper : Json.Members}
    (hkeys : (Assoc.keys (lower ++ upper)).Nodup) : merge lower upper = lower ++ upper := by
  induction upper generalizing lower with
  | nil => rw [merge_nil, List.append_nil]
  | cons entry rest ih =>
    obtain ⟨key, value⟩ := entry
    have hkey : key ∉ Assoc.keys lower := by
      rw [Assoc.keys, List.map_append, List.nodup_append] at hkeys
      exact fun hmem => hkeys.2.2 key hmem key (List.mem_cons_self ..) rfl
    have hshift : lower ++ (key, value) :: rest = (lower ++ [(key, value)]) ++ rest := by
      rw [List.append_assoc, List.singleton_append]
    rw [hshift] at hkeys ⊢
    rw [merge, Assoc.get?_eq_none_of_not_mem hkey, mergeValue_none,
      Assoc.insert_of_not_mem hkey]
    exact ih hkeys

/-- A layer settles a path: it has a value there, or something that is no object above it. -/
def Settles (path : List String) (layer : Json) : Prop :=
  (∃ value, follow? path layer = some value) ∨
    ∃ above below value, path = above ++ below ∧ below ≠ [] ∧
      follow? above layer = some value ∧ value.isObject = false

theorem settles_nil (layer : Json) : Settles [] layer := .inl ⟨layer, Json.follow?_nil layer⟩

/-- What is no object settles every path. -/
theorem settles_of_not_isObject {layer : Json} (h : layer.isObject = false) (path : List String) :
    Settles path layer := by
  cases path with
  | nil => exact settles_nil layer
  | cons key path =>
    exact .inr ⟨[], key :: path, layer, rfl, List.cons_ne_nil _ _, Json.follow?_nil layer, h⟩

/-- An object without a key settles no path that starts with the key. -/
theorem not_settles_of_get?_eq_none {members : Json.Members} {key : String}
    (h : Assoc.get? key members = none) (path : List String) :
    ¬ Settles (key :: path) (.obj members) := by
  rintro (⟨value, hvalue⟩ | ⟨above, below, value, hsplit, -, habove, hvalue⟩)
  · rw [Json.follow?_cons, h] at hvalue
    cases hvalue
  · cases above with
    | nil =>
      rw [Json.follow?_nil] at habove
      cases habove
      cases hvalue
    | cons first above =>
      rw [List.cons_append] at hsplit
      cases hsplit
      rw [Json.follow?_cons, h] at habove
      cases habove

/-- An object settles a path that starts with one of its keys if the member settles the rest. -/
theorem settles_cons_iff {members : Json.Members} {key : String} {member : Json}
    (h : Assoc.get? key members = some member) (path : List String) :
    Settles (key :: path) (.obj members) ↔ Settles path member := by
  have hfollow : ∀ rest, follow? (key :: rest) (.obj members) = follow? rest member := by
    intro rest
    rw [Json.follow?_cons, h]
    rfl
  constructor
  · rintro (⟨value, hvalue⟩ | ⟨above, below, value, hsplit, hbelow, habove, hvalue⟩)
    · exact .inl ⟨value, (hfollow path).symm.trans hvalue⟩
    -- the value in the way is no object, so it is not at the very top
    · cases above with
      | nil =>
        rw [Json.follow?_nil] at habove
        cases habove
        cases hvalue
      | cons first above =>
        rw [List.cons_append] at hsplit
        cases hsplit
        exact .inr ⟨above, below, value, rfl, hbelow, (hfollow above).symm.trans habove, hvalue⟩
  · rintro (⟨value, hvalue⟩ | ⟨above, below, value, rfl, hbelow, habove, hvalue⟩)
    · exact .inl ⟨value, (hfollow path).trans hvalue⟩
    · exact .inr ⟨key :: above, below, value, rfl, hbelow, (hfollow above).trans habove, hvalue⟩

/-- A value is at a path of two layers if the upper one has it there, or the lower one has it there
and the upper one does not settle the path. -/
theorem follow?_merge {value : Json} (hvalue : value.isObject = false) {lower upper : Json.Members}
    (hdistinct : DistinctKeys (.obj upper)) (path : List String) :
    follow? path (.obj (merge lower upper)) = some value ↔
      follow? path (.obj upper) = some value ∨
        ¬ Settles path (.obj upper) ∧ follow? path (.obj lower) = some value := by
  induction path generalizing lower upper with
  | nil =>
    -- an object is at the empty path
    have hne : ∀ members : Json.Members, some (.obj members) ≠ some value := by
      rintro members heq
      cases heq
      cases hvalue
    simp [hne]
  | cons key path ih =>
    rw [Json.follow?_cons, get?_merge hdistinct.nodup, Json.follow?_cons key path upper]
    cases hupper : Assoc.get? key upper with
    | none =>
      have hfree := not_settles_of_get?_eq_none hupper path
      simp [hfree, Json.follow?_cons]
    | some member =>
      rw [settles_cons_iff hupper, Option.bind_some, Option.bind_some]
      rcases mergeValue_cases (Assoc.get? key lower) member with
        ⟨hmerged, hlower⟩ | ⟨outer, inner, hlower, rfl, hmerged⟩
      · rw [hmerged]
        -- what is replaced leads nowhere, unless the upper layer settles the path
        refine ⟨.inl, fun h => h.elim id fun ⟨hfree, hsome⟩ => absurd ?_ hfree⟩
        by_cases hobject : member.isObject = true
        · cases path with
          | nil => exact settles_nil _
          | cons next path =>
            rw [Json.follow?_cons] at hsome
            obtain ⟨other, hother, hsome⟩ := Option.bind_eq_some_iff.1 hsome
            have hleaf : other.isObject = false := by
              cases other with
              | obj outer => exact absurd hother (hlower hobject outer)
              | _ => rfl
            rw [Json.follow?_cons_eq_none hleaf] at hsome
            cases hsome
        · exact settles_of_not_isObject (by simpa using hobject) path
      · rw [hmerged, Json.follow?_cons, hlower, Option.bind_some]
        exact ih (hdistinct.member hupper)

/-! ### All layers -/

theorem mergeLayers_concat (layers : List Json.Members) (top : Json.Members) :
    mergeLayers (layers ++ [top]) = merge (mergeLayers layers) top := by
  rw [mergeLayers, List.foldl_append]
  rfl

/-- Two layers are merged into one. -/
theorem mergeLayers_pair {lower : Json.Members} (hkeys : (Assoc.keys lower).Nodup)
    (upper : Json.Members) : mergeLayers [lower, upper] = merge lower upper := by
  have hlower : merge [] lower = lower := merge_eq_append hkeys
  rw [mergeLayers, List.foldl_cons, List.foldl_cons, List.foldl_nil, hlower]

/-- A value is at a path of all layers if the last layer that settles the path has it there. -/
theorem follow?_mergeLayers {value : Json} (hvalue : value.isObject = false)
    {layers : List Json.Members} (hdistinct : ∀ layer ∈ layers, DistinctKeys (.obj layer))
    (path : List String) :
    follow? path (.obj (mergeLayers layers)) = some value ↔
      ∃ below layer above, layers = below ++ layer :: above ∧
        follow? path (.obj layer) = some value ∧ ∀ upper ∈ above, ¬ Settles path (.obj upper) := by
  -- by induction on the top layer: it has the value, or it leaves the path to the layers below
  induction layers using List.reverseRecOn with
  | nil =>
    constructor
    · intro h
      cases path with
      | nil =>
        rw [Json.follow?_nil] at h
        cases h
        cases hvalue
      | cons key path => cases h
    · rintro ⟨below, layer, above, hsplit, -⟩
      exact absurd hsplit.symm (by simp)
  | append_singleton layers top ih =>
    rw [mergeLayers_concat, follow?_merge hvalue (hdistinct top (by simp)),
      ih fun layer hlayer => hdistinct layer (List.mem_append_left _ hlayer)]
    constructor
    · rintro (htop | ⟨hfree, below, layer, above, rfl, hlayer, habove⟩)
      · exact ⟨layers, top, [], rfl, htop, nofun⟩
      · refine ⟨below, layer, above ++ [top], by simp, hlayer, fun upper hupper => ?_⟩
        rcases List.mem_append.1 hupper with hupper | hupper
        · exact habove upper hupper
        · rw [List.mem_singleton.1 hupper]
          exact hfree
    · rintro ⟨below, layer, above, hsplit, hlayer, habove⟩
      rcases List.eq_nil_or_concat above with rfl | ⟨above, last, rfl⟩
      · obtain ⟨-, hlast⟩ := List.append_inj' hsplit rfl
        cases hlast
        exact .inl hlayer
      · rw [List.concat_eq_append, ← List.cons_append, ← List.append_assoc] at hsplit
        obtain ⟨hinit, hlast⟩ := List.append_inj' hsplit rfl
        cases hlast
        exact .inr ⟨habove top (by simp), below, layer, above, hinit, hlayer,
          fun upper hupper => habove upper (by simp [hupper])⟩

/-! ### Leaves -/

theorem nodup_keys_merge {lower : Json.Members} (hlower : (Assoc.keys lower).Nodup)
    (upper : Json.Members) : (Assoc.keys (merge lower upper)).Nodup := by
  induction upper generalizing lower with
  | nil => simpa using hlower
  | cons entry rest ih =>
    rw [merge]
    apply ih
    exact Assoc.nodup_keys_insert hlower _ _

/-- Merging never makes a key appear twice, at any depth. -/
theorem distinctKeys_merge {lower upper : Json.Members} (hlower : DistinctKeys (.obj lower))
    (hupper : DistinctKeys (.obj upper)) : DistinctKeys (.obj (merge lower upper)) := by
  intro path
  -- one step along the path leads into one of the layers, or into two members that were merged
  induction path generalizing lower upper with
  | nil =>
    intro members hmembers
    rw [Json.follow?_nil] at hmembers
    cases hmembers
    exact nodup_keys_merge hlower.nodup upper
  | cons key path ih =>
    intro members hmembers
    rw [Json.follow?_cons, get?_merge hupper.nodup] at hmembers
    cases hkey : Assoc.get? key upper with
    | none =>
      rw [hkey, ← Json.follow?_cons] at hmembers
      exact hlower (key :: path) members hmembers
    | some value =>
      rw [hkey] at hmembers
      simp only [Option.bind_some] at hmembers
      -- only objects are merged; anything else comes from the upper layer as it is
      rcases mergeValue_cases (Assoc.get? key lower) value with
        ⟨hvalue, -⟩ | ⟨outer, inner, houter, rfl, hmerged⟩
      · rw [hvalue] at hmembers
        exact hupper.member hkey path members hmembers
      · rw [hmerged] at hmembers
        exact ih (hlower.member houter) (hupper.member hkey) members hmembers

theorem distinctKeys_mergeLayers {layers : List Json.Members}
    (hdistinct : ∀ layer ∈ layers, DistinctKeys (.obj layer)) :
    DistinctKeys (.obj (mergeLayers layers)) := by
  induction layers using List.reverseRecOn with
  | nil => exact Json.distinctKeys_nil
  | append_singleton layers top ih =>
    rw [mergeLayers_concat]
    apply distinctKeys_merge
    · exact ih fun layer hlayer => hdistinct layer (List.mem_append_left _ hlayer)
    · exact hdistinct top (by simp)

/-- A layer does not settle a path if it has nothing there and nothing but objects above it. -/
theorem not_settles_iff {path : List String} {layer : Json} :
    ¬ Settles path layer ↔
      follow? path layer = none ∧
        ∀ above, above <+: path → above ≠ path → ∀ found, follow? above layer = some found →
          found.isObject = true := by
  constructor
  · intro hfree
    constructor
    · by_contra hsome
      exact hfree (.inl (Option.ne_none_iff_exists'.1 hsome))
    · rintro above ⟨below, rfl⟩ hproper found hfound
      by_contra hobject
      -- a proper prefix leaves something of the path
      have hbelow : below ≠ [] := by simpa using hproper
      exact hfree (.inr ⟨above, below, found, rfl, hbelow, hfound, by simpa using hobject⟩)
  · rintro ⟨hnone, hobjects⟩ (⟨value, hvalue⟩ | ⟨above, below, value, rfl, hbelow, habove, hvalue⟩)
    · simp [hnone] at hvalue
    · have hobject := hobjects above (List.prefix_append above below) (by simpa using hbelow) value
        habove
      simp [hvalue] at hobject

/-- The leaves of the merged layers are those that were written last: a value that is no object
stands at a path exactly if some layer has it there and no later layer has anything there or, on the
way, something that is no object. The layers are objects, whose keys are given once, and so is what
they are merged into. -/
theorem leaf_iff_written_last {value : Json} (hvalue : value.isObject = false)
    {layers : List Json.Members} (hdistinct : ∀ layer ∈ layers, DistinctKeys (.obj layer))
    (path : List String) :
    DistinctKeys (.obj (mergeLayers layers)) ∧
      (follow? path (.obj (mergeLayers layers)) = some value ↔
        ∃ earlier layer later, layers = earlier ++ layer :: later ∧
          follow? path (.obj layer) = some value ∧
            ∀ upper ∈ later, follow? path (.obj upper) = none ∧
              ∀ above, above <+: path → above ≠ path →
                ∀ found, follow? above (.obj upper) = some found → found.isObject = true) := by
  refine ⟨distinctKeys_mergeLayers hdistinct, ?_⟩
  rw [follow?_mergeLayers hvalue hdistinct path]
  simp only [not_settles_iff]

/-- Layers in which a number takes the place of an object and an object that of the number. -/
def regrownLayers : List Json.Members :=
  [[("a", .obj [("b", .int 1)])], [("a", .int 5)], [("a", .obj [("c", .int 2)])]]

/-- The object that grew again has its new leaf, and the leaf of the first one is gone. -/
theorem leaf_regrown :
    (∀ layer ∈ regrownLayers, DistinctKeys (.obj layer)) ∧
      follow? ["a", "c"] (.obj (mergeLayers regrownLayers)) = some (.int 2) ∧
        follow? ["a", "b"] (.obj (mergeLayers regrownLayers)) ≠ some (.int 1) := by
  have hleaf : ∀ key i, DistinctKeys (.obj [(key, .int i)]) := fun key i =>
    Json.distinctKeys_nil.insert key (Json.distinctKeys_of_not_isObject rfl)
  have hdistinct : ∀ layer ∈ regrownLayers, DistinctKeys (.obj layer) := by
    intro layer hlayer
    simp only [regrownLayers, List.mem_cons, List.not_mem_nil, or_false] at hlayer
    rcases hlayer with rfl | rfl | rfl
    · exact Json.distinctKeys_nil.insert "a" (hleaf "b" 1)
    · exact hleaf "a" 5
    · exact Json.distinctKeys_nil.insert "a" (hleaf "c" 2)
  refine ⟨hdistinct, ?_, ?_⟩
  · apply (leaf_iff_written_last rfl hdistinct ["a", "c"]).2.2
    exact ⟨regrownLayers.take 2, _, [], rfl, rfl, by simp⟩
  · intro hold
    obtain ⟨earlier, layer, later, hsplit, hlayer, hlater⟩ :=
      (leaf_iff_written_last rfl hdistinct ["a", "b"]).2.1 hold
    -- only the first layer has the old leaf, and the number in the second one cuts it off
    match earlier, hsplit with
    | [], hsplit =>
      cases hsplit
      have hobject := (hlater [("a", .int 5)] (by simp)).2 ["a"] (by simp) (by simp) (.int 5) rfl
      cases hobject
    | [_], hsplit => cases hsplit; cases hlayer
    | [_, _], hsplit => cases hsplit; cases hlayer
    | _ :: _ :: _ :: _, hsplit => simp [regrownLayers] at hsplit

end Config

end JuliaSession
