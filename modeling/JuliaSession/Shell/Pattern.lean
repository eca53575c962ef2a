import JuliaSession.Glob
import JuliaSession.Shell.Syntax

/-!
# Patterns of the shell

A pattern stands for texts: `*` for any text, `?` for any character and `[...]` for one character of
a set. Characters that were quoted stand for themselves. `matchesField` compares a text with a
pattern, and `trimmed` cuts what a pattern stands for off the start or the end of a text.
-/

namespace JuliaSession.Shell

/-- A character, and whether it was quoted. -/
abbrev Mark := Bool × Char

/-- Characters with one mark. -/
def marked (quoted : Bool) (chars : ByteText) : List Mark := chars.map fun c => (quoted, c)

/-- The characters of a field. -/
def plain (field : List Mark) : ByteText := field.map Prod.snd

/-- What one element of a pattern stands for. -/
inductive Element where
  /-- Any text. -/
  | star
  /-- Any character. -/
  | any
  /-- This character. -/
  | char (c : Char)
  /-- A character of one of the ranges or classes, or of none of them if `negated`. -/
  | set (negated : Bool) (ranges : List (Char × Char)) (classes : List String)
  deriving DecidableEq, Repr

/-- Is a character of the class with this name? -/
def isOfClass (c : Char) (name : String) : Bool :=
  let n := c.toNat
  let blank := c = ' ' || c = '\t'
  let graph := 32 < n && n < 127
  match name with
  | "alpha" => c.isAlpha
  | "digit" => c.isDigit
  | "alnum" => c.isAlphanum
  | "upper" => c.isUpper
  | "lower" => c.isLower
  | "space" => blank || (10 ≤ n && n ≤ 13)
  | "blank" => blank
  | "punct" => graph && !c.isAlphanum
  | "print" => graph || c = ' '
  | "graph" => graph
  | "cntrl" => n < 32 || n = 127
  | "xdigit" => c.isDigit || ('a' ≤ c.toLower && c.toLower ≤ 'f')
  | _ => false

/-- The name of a class at the start of a set's text, after its `[:`, and what follows its `:]`. -/
def className? (cs : List Mark) : Option (String × List Mark) :=
  let name := cs.takeWhile fun mark => mark.2.isAlpha
  match cs.drop name.length with
  | (_, ':') :: (_, ']') :: rest => some (String.ofList (plain name), rest)
  | _ => none

/-- The ranges and classes of a set up to its closing bracket, and what follows it. The bracket
counts only after the first member; `fuel` bounds the number of members. -/
def setMembers? : Nat → Bool → List Mark →
    Option (List (Char × Char) × List String × List Mark)
  | 0, _, _ => none
  | _, _, [] => none
  | fuel + 1, first, (quoted, c) :: rest =>
    if c = ']' ∧ !quoted ∧ !first then some ([], [], rest)
    else
      let single : Option (List (Char × Char) × List String × List Mark) :=
        match rest with
        | (false, '-') :: (quoted', d) :: after =>
          -- a hyphen before the closing bracket stands for itself
          if d = ']' ∧ !quoted' then
            (setMembers? fuel false rest).map fun (ranges, more) => ((c, c) :: ranges, more)
          else (setMembers? fuel false after).map fun (ranges, more) => ((c, d) :: ranges, more)
        | _ => (setMembers? fuel false rest).map fun (ranges, more) => ((c, c) :: ranges, more)
      match quoted, c, rest with
      | false, '[', (false, ':') :: after =>
        match className? after with
        | some (name, after) =>
          (setMembers? fuel false after).map fun (ranges, names, more) =>
            (ranges, name :: names, more)
        | none => single
      | _, _, _ => single

/-- The elements of a pattern; a bracket that is not closed stands for itself. `fuel` bounds the
number of elements. -/
def elements : Nat → List Mark → List Element
  | 0, _ => []
  | _, [] => []
  | fuel + 1, (true, c) :: rest => .char c :: elements fuel rest
  | fuel + 1, (false, c) :: rest =>
    match c with
    | '*' => .star :: elements fuel rest
    | '?' => .any :: elements fuel rest
    | '[' =>
      let (negated, inner) := match rest with
        | (false, '!') :: inner => (true, inner)
        | (false, '^') :: inner => (true, inner)
        | inner => (false, inner)
      match setMembers? (inner.length + 1) true inner with
      | some (ranges, names, after) => .set negated ranges names :: elements fuel after
      | none => .char '[' :: elements fuel rest
    | c => .char c :: elements fuel rest

/-- Does an element other than `*` stand for this character? -/
def Element.admits (c : Char) : Element → Bool
  | star => false
  | any => true
  | char d => c = d
  | set negated ranges names =>
    (ranges.any (fun (low, high) => low ≤ c && c ≤ high) || names.any (isOfClass c)) != negated

/-- For each suffix of the text, whether the elements stand for it. Every element is looked at once
for each suffix, so stars do not multiply. -/
def matchTable (text : ByteText) : List Element → List Bool
  | [] => (Glob.suffixes text).map List.isEmpty
  | .star :: rest => Glob.trueFrom (matchTable text rest)
  | element :: rest =>
    text.zipWith (fun c later => element.admits c && later) (matchTable text rest).tail ++ [false]

/-- Do the elements stand for the text? -/
def matchesElements (pattern : List Element) (text : ByteText) : Bool :=
  (matchTable text pattern).headD false

/-- Does a text match the pattern that a field is? -/
def matchesField (field : List Mark) (text : ByteText) : Bool :=
  matchesElements (elements field.length field) text

/-- A text without the part at its start, or at its end, that a pattern matches: the longest such
part, or the shortest. -/
def trimmed (start longest : Bool) (pattern : List Mark) (text : ByteText) : ByteText :=
  let pattern := elements pattern.length pattern
  let lengths := List.range (text.length + 1)
  let sizes := if longest then lengths.reverse else lengths
  let part (n : Nat) : ByteText := if start then text.take n else text.drop (text.length - n)
  match sizes.find? fun n => matchesElements pattern (part n) with
  | none => text
  | some n => if start then text.drop n else text.take (text.length - n)

/-- Does a field hold a character that makes it a pattern? -/
def isPattern (field : List Mark) : Bool :=
  field.any fun (quoted, c) => !quoted && (c = '*' || c = '?' || c = '[')

end JuliaSession.Shell
