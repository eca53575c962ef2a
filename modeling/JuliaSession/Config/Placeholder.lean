import JuliaSession.Text.Split
import JuliaSession.Assoc

/-!
# Placeholders

A configuration text may name environment variables: an opening brace, `env:`, the name and a
closing brace stand for the variable's value, or for nothing when it is not set. The text is read
once from left to right, and values are not read again.
-/

namespace JuliaSession.Config

open JuliaSession.Text

/-- What a placeholder starts with. -/
def placeholderStart : List Char := Char.ofNat 123 :: "env:".toList

/-- What a placeholder ends with. -/
def placeholderEnd : Char := Char.ofNat 125

/-- The name of the placeholder that a text starts with, and what follows it. The name is not
empty. -/
def placeholder? (cs : List Char) : Option (List Char × List Char) :=
  match afterStart? placeholderStart cs with
  | none => none
  | some rest =>
    let name := rest.takeWhile (· ≠ placeholderEnd)
    match name, rest.drop name.length with
    | _ :: _, _ :: after => some (name, after)
    | _, _ => none

/-- Replace the placeholders of a text; `skip` characters belong to one already replaced. -/
def substituteFrom (value : String → String) : Nat → List Char → List Char
  | _, [] => []
  | skip + 1, _ :: rest => substituteFrom value skip rest
  | 0, c :: rest =>
    match placeholder? (c :: rest) with
    -- the rest of the placeholder is skipped; its value is not read again
    | some (name, _) =>
      (value (String.ofList name)).toList
        ++ substituteFrom value (placeholderStart.length + name.length) rest
    | none => c :: substituteFrom value 0 rest

/-- Replace the placeholders of a text by the variables' values. -/
def substitute (environment : Assoc String String) (text : String) : String :=
  String.ofList (substituteFrom (fun name => (Assoc.get? name environment).getD "") 0 text.toList)

end JuliaSession.Config
