import JuliaSession.Json.Basic

/-!
# Merging settings

Layers of settings are JSON objects. `Config.merge` lays one over another: where both have an object
the two are merged, elsewhere the upper layer replaces the lower one. `Json.follow?` looks a key
path up in the result.
-/

namespace JuliaSession

/-- The value at the end of a path of keys. -/
def Json.follow? : List String → Json → Option Json
  | [], value => some value
  | key :: path, .obj members =>
    match Assoc.get? key members with
    | some value => follow? path value
    | none => none
  | _ :: _, _ => none

namespace Config

mutual

/-- The upper value laid over the lower one, if there is a lower one. -/
def mergeValue (lower : Option Json) : Json → Json
  | .obj upper =>
    match lower with
    | some (.obj lower) => .obj (merge lower upper)
    | _ => .obj upper
  | upper => upper

/-- The layer `upper` laid over the layer `lower`. -/
def merge (lower : Json.Members) : List (String × Json) → Json.Members
  | [] => lower
  | (key, value) :: rest =>
    merge (Assoc.insert key (mergeValue (Assoc.get? key lower) value) lower) rest

end

/-- All layers, the lowest first, laid over each other. -/
def mergeLayers (layers : List Json.Members) : Json.Members := layers.foldl merge []

@[simp]
theorem merge_nil (lower : Json.Members) : merge lower [] = lower := by simp [merge]

end Config

end JuliaSession
