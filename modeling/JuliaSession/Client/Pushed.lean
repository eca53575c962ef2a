import JuliaSession.Failure
import JuliaSession.Text.Split

/-!
# Pushed settings

The client pushes some settings when a session starts. Each of them has a dotted name and a value;
the push is one object in which every value stands at the end of the path that its name spells.
-/

namespace JuliaSession.Pushed

/-- The path that a dotted name spells. -/
def path (name : String) : List String := Text.split name '.'

/-- An object with `value` at the end of the path `part :: rest`. Objects on the way are made where
there are none; a value of another type on the way is a failure. -/
def place (value : Json) (part : String) : List String → Json.Members → Except Failure Json.Members
  | [], tree => .ok (Assoc.insert part value tree)
  | next :: rest, tree =>
    match (Assoc.get? part tree).getD (.obj []) with
    | .obj below => do return Assoc.insert part (.obj (← place value next rest below)) tree
    -- a value in the way: it takes no members, or has none to go through
    | _ => .error (if rest.isEmpty then .wrongType else .noMembers)

/-- An object with the value of a dotted name. -/
def placeNamed (name : String) (value : Json) (tree : Json.Members) : Except Failure Json.Members :=
  match path name with
  | [] => .ok tree
  | part :: rest => place value part rest tree

/-- The values of dotted names placed one after the other. -/
def placeAll (lookup : String → Json) : List String → Json.Members → Except Failure Json.Members
  | [], tree => .ok tree
  | name :: names, tree => do placeAll lookup names (← placeNamed name (lookup name) tree)

/-- The object that is pushed for some dotted names. -/
def tree (lookup : String → Json) (names : List String) : Except Failure Json.Members :=
  placeAll lookup names []

end JuliaSession.Pushed
