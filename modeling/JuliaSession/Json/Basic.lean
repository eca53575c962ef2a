import JuliaSession.Assoc
import JuliaSession.Decimal.Binary64

/-!
# JSON values

The one dynamic value of the library: messages, settings and log fields are JSON. Integers are exact
and kept apart from numbers written with a fraction or an exponent. Objects keep the order of their
members.

`integerValue?` is the view in which `1`, `1.0` and `true` are one number, as response ids and
completion kinds are compared; `isTruthy` is the view in which empty values count as absent.
-/

namespace JuliaSession

/-- A JSON value. -/
inductive Json where
  /-- `null` -/
  | null
  /-- `true` or `false` -/
  | bool (b : Bool)
  /-- A number written without fraction and exponent. -/
  | int (i : Int)
  /-- A number written with a fraction or an exponent. -/
  | float (x : Binary64)
  /-- A string. -/
  | str (s : String)
  /-- An array. -/
  | arr (items : List Json)
  /-- An object, as its members in order. -/
  | obj (members : List (String × Json))
  deriving Inhabited

namespace Json

/-- The members of an object. -/
abbrev Members := Assoc String Json

/-- The member of an object, or nothing for every other value. -/
def get? (key : String) : Json → Option Json
  | obj members => Assoc.get? key members
  | _ => none

/-- The member of an object, with `null` for a member that is absent. -/
def member (key : String) (members : Members) : Json :=
  (Assoc.get? key members).getD null

/-- Integers, truth values (as 0 and 1) and the floating-point numbers that are integers. -/
def integerValue? : Json → Option Int
  | bool b => some (if b then 1 else 0)
  | int i => some i
  | float x => x.toInt?
  | _ => none

/-- Everything but null, false, zero and the empty string, array and object. -/
def isTruthy : Json → Bool
  | null => false
  | bool b => b
  | int i => i != 0
  | float x => !x.isZero
  | str s => s != ""
  | arr items => !items.isEmpty
  | obj members => !members.isEmpty

/-- A text, or null. -/
def ofText? : Option String → Json
  | none => null
  | some s => str s

/-- An integer, or null. -/
def ofInt? : Option Int → Json
  | none => null
  | some i => int i

/-- An array of texts. -/
def ofTexts (texts : List String) : Json := arr (texts.map str)

/-- An object of texts. -/
def ofTextTable (table : Assoc String String) : Json :=
  obj (table.map fun (k, v) => (k, str v))

mutual

/-- Structural equality. -/
def decEq : (a b : Json) → Decidable (a = b)
  | null, null => isTrue rfl
  | bool a, bool b => if h : a = b then isTrue (h ▸ rfl) else isFalse (by simp [h])
  | int a, int b => if h : a = b then isTrue (h ▸ rfl) else isFalse (by simp [h])
  | float a, float b => if h : a = b then isTrue (h ▸ rfl) else isFalse (by simp [h])
  | str a, str b => if h : a = b then isTrue (h ▸ rfl) else isFalse (by simp [h])
  | arr as, arr bs =>
    match decEqItems as bs with
    | isTrue h => isTrue (h ▸ rfl)
    | isFalse h => isFalse (by simp [h])
  | obj as, obj bs =>
    match decEqMembers as bs with
    | isTrue h => isTrue (h ▸ rfl)
    | isFalse h => isFalse (by simp [h])
  | null, bool _ | null, int _ | null, float _ | null, str _ | null, arr _ | null, obj _
  | bool _, null | bool _, int _ | bool _, float _ | bool _, str _ | bool _, arr _ | bool _, obj _
  | int _, null | int _, bool _ | int _, float _ | int _, str _ | int _, arr _ | int _, obj _
  | float _, null | float _, bool _ | float _, int _ | float _, str _ | float _, arr _
  | float _, obj _
  | str _, null | str _, bool _ | str _, int _ | str _, float _ | str _, arr _ | str _, obj _
  | arr _, null | arr _, bool _ | arr _, int _ | arr _, float _ | arr _, str _ | arr _, obj _
  | obj _, null | obj _, bool _ | obj _, int _ | obj _, float _ | obj _, str _ | obj _, arr _ =>
    isFalse (by simp)

/-- Equality of arrays' items. -/
def decEqItems : (as bs : List Json) → Decidable (as = bs)
  | [], [] => isTrue rfl
  | a :: as, b :: bs =>
    match decEq a b, decEqItems as bs with
    | isTrue h, isTrue hs => isTrue (h ▸ hs ▸ rfl)
    | isFalse h, _ => isFalse (by simp [h])
    | _, isFalse hs => isFalse (by simp [hs])
  | [], _ :: _ | _ :: _, [] => isFalse (by simp)

/-- Equality of objects' members, order included. -/
def decEqMembers : (as bs : List (String × Json)) → Decidable (as = bs)
  | [], [] => isTrue rfl
  | (k, a) :: as, (l, b) :: bs =>
    if hk : k = l then
      match decEq a b, decEqMembers as bs with
      | isTrue h, isTrue hs => isTrue (hk ▸ h ▸ hs ▸ rfl)
      | isFalse h, _ => isFalse (by simp [h])
      | _, isFalse hs => isFalse (by simp [hs])
    else isFalse (by simp [hk])
  | [], _ :: _ | _ :: _, [] => isFalse (by simp)

end

instance : DecidableEq Json := decEq

end Json

end JuliaSession
