import JuliaSession.Json.Read

/-!
# JSON with comments

The form of configuration files: JSON with `#` and `//` comments and at most one trailing comma in
an object or array. A text is first cut into tokens, whose class is wider than JSON's, then arranged
by the grammar, and at last every token has to be JSON. The earliest fault in the text decides
between the first two; the third is only looked at when the whole text is well arranged, and not
nested deeper than a walk over it may go.
-/

namespace JuliaSession.Json

/-- Why a commented text has no value. -/
inductive CommentedFault where
  /-- No token starts at some character. -/
  | badCharacter
  /-- The grammar does not allow some token, or the end, where it stands. -/
  | unexpectedToken
  /-- The text is well arranged, but one of its strings or numbers is not JSON. -/
  | notJson
  /-- The text is well arranged, but nested too deep. -/
  | tooDeep
  deriving DecidableEq, Repr

namespace Commented

/-- The parts of a commented text. -/
inductive Token where
  /-- A string with its quotes, as it stands. -/
  | string (raw : List Char)
  /-- A number, as it stands. -/
  | number (raw : List Char)
  /-- `null`, `true` or `false`. -/
  | word (value : Json)
  /-- An opening brace. -/
  | openBrace
  /-- A closing brace. -/
  | closeBrace
  /-- An opening bracket. -/
  | openBracket
  /-- A closing bracket. -/
  | closeBracket
  /-- A comma. -/
  | comma
  /-- A colon. -/
  | colon

/-- Space, tab, form feed, carriage return and line feed stand between tokens. -/
def isSpace (c : Char) : Bool := Json.isSpace c || c = Char.ofNat 12

/-- Skip spaces and comments. -/
def skipBlank : List Char → List Char
  | [] => []
  | c :: rest =>
    if isSpace c then skipBlank rest
    else if c = '#' then skipComment rest
    else if c = '/' then
      match rest with
      | '/' :: rest => skipComment rest
      | _ => c :: rest
    else c :: rest
where
  /-- Skip to the end of the line, then go on. -/
  skipComment : List Char → List Char
    | [] => []
    | c :: rest => if c = '\n' then skipBlank rest else skipComment rest

/-- The rest of a string token after its opening quote; `escaped` says whether an odd number of
backslashes stands right before. A string ends on its own line. -/
def stringToken : List Char → Bool → List Char → Option (List Char × List Char)
  | _, _, [] => none
  | done, escaped, c :: rest =>
    if c = '\n' then none
    else if c = '"' ∧ !escaped then some ((c :: done).reverse, rest)
    else stringToken (c :: done) (c = '\\' && !escaped) rest

/-- A sign, or nothing. -/
def signToken (cs : List Char) : List Char × List Char :=
  match cs with
  | '+' :: rest => (['+'], rest)
  | '-' :: rest => (['-'], rest)
  | _ => ([], cs)

/-- An exponent, or nothing. -/
def exponentToken (cs : List Char) : List Char × List Char :=
  match cs with
  | e :: rest =>
    if e = 'e' ∨ e = 'E' then
      let (sign, rest) := signToken rest
      match spanDigits rest with
      | ([], _) => ([], cs)
      | (ds, rest) => (e :: sign ++ ds, rest)
    else ([], cs)
  | [] => ([], cs)

/-- Digits with or without a point among or around them. -/
def digitsToken? (cs : List Char) : Option (List Char × List Char) :=
  match spanDigits cs with
  | ([], '.' :: rest) =>
    match spanDigits rest with
    | ([], _) => none
    | (ds, rest) => some ('.' :: ds, rest)
  | ([], _) => none
  | (ds, '.' :: rest) =>
    let (fraction, rest) := spanDigits rest
    some (ds ++ '.' :: fraction, rest)
  | (ds, rest) => some (ds, rest)

/-- A number: a sign or none, digits with or without a point among or around them, an exponent or
none. -/
def numberToken? (cs : List Char) : Option (List Char × List Char) :=
  let (sign, rest) := signToken cs
  (digitsToken? rest).map fun (ds, rest) =>
    let (exponent, rest) := exponentToken rest
    (sign ++ ds ++ exponent, rest)

/-- The token at the start of the text. -/
def nextToken? : List Char → Option (Token × List Char)
  | '"' :: rest => (stringToken ['"'] false rest).map fun (raw, rest) => (.string raw, rest)
  | '[' :: rest => some (.openBracket, rest)
  | ']' :: rest => some (.closeBracket, rest)
  | ',' :: rest => some (.comma, rest)
  | ':' :: rest => some (.colon, rest)
  | 'n' :: 'u' :: 'l' :: 'l' :: rest => some (.word null, rest)
  | 't' :: 'r' :: 'u' :: 'e' :: rest => some (.word (bool true), rest)
  | 'f' :: 'a' :: 'l' :: 's' :: 'e' :: rest => some (.word (bool false), rest)
  | c :: rest =>
    if c.toNat = 123 then some (.openBrace, rest)
    else if c.toNat = 125 then some (.closeBrace, rest)
    else (numberToken? (c :: rest)).map fun (raw, rest) => (.number raw, rest)
  | [] => none

/-- The tokens up to the end of the text or to a character where none starts, and whether the end
was reached. `fuel` bounds the number of tokens. -/
def tokens : Nat → List Char → List Token × Bool
  | 0, _ => ([], false)
  | fuel + 1, cs =>
    match skipBlank cs with
    | [] => ([], true)
    | cs =>
      match nextToken? cs with
      | none => ([], false)
      | some (token, rest) =>
        let (later, complete) := tokens fuel rest
        (token :: later, complete)

/-- The fault of a text that stops where the grammar needs more. -/
def missing (complete : Bool) : CommentedFault :=
  if complete then .unexpectedToken else .badCharacter

mutual

/-- A value at the start of the tokens; its JSON reading may be absent. -/
def value (complete : Bool) : Nat → List Token →
    Except CommentedFault (Option Json × List Token)
  | 0, _ => .error .unexpectedToken
  | _, [] => .error (missing complete)
  | _ + 1, .string raw :: rest => .ok (readChars? raw, rest)
  | _ + 1, .number raw :: rest => .ok (readChars? raw, rest)
  | _ + 1, .word v :: rest => .ok (some v, rest)
  | _ + 1, .openBracket :: .closeBracket :: rest => .ok (some (arr []), rest)
  | _ + 1, .openBracket :: .comma :: rest =>
    match rest with
    | .closeBracket :: rest => .ok (some (arr []), rest)
    | [] => .error (missing complete)
    | _ => .error .unexpectedToken
  | fuel + 1, .openBracket :: rest => items complete fuel (some []) rest
  | _ + 1, .openBrace :: .closeBrace :: rest => .ok (some (obj []), rest)
  | _ + 1, .openBrace :: .comma :: rest =>
    match rest with
    | .closeBrace :: rest => .ok (some (obj []), rest)
    | [] => .error (missing complete)
    | _ => .error .unexpectedToken
  | fuel + 1, .openBrace :: rest => members complete fuel (some []) rest
  | _ + 1, _ :: _ => .error .unexpectedToken

/-- The items of an array up to its closing bracket; `done` holds those read, reversed. -/
def items (complete : Bool) : Nat → Option (List Json) → List Token →
    Except CommentedFault (Option Json × List Token)
  | 0, _, _ => .error .unexpectedToken
  | fuel + 1, done, ts => do
    let (item, rest) ← value complete fuel ts
    -- one item that is no JSON spoils the whole, but the arrangement is still looked at
    let done := do return (← item) :: (← done)
    let whole := done.map fun items => arr items.reverse
    match rest with
    | .closeBracket :: rest => .ok (whole, rest)
    | .comma :: .closeBracket :: rest => .ok (whole, rest)
    | .comma :: rest => items complete fuel done rest
    | [] => .error (missing complete)
    | _ => .error .unexpectedToken

/-- The members of an object up to its closing brace; `done` holds those read. -/
def members (complete : Bool) : Nat → Option (List (String × Json)) → List Token →
    Except CommentedFault (Option Json × List Token)
  | 0, _, _ => .error .unexpectedToken
  | fuel + 1, done, ts =>
    match ts with
    | .string raw :: .colon :: rest => do
      let (item, rest) ← value complete fuel rest
      let done := do
        let item ← item
        let done ← done
        match ← readChars? raw with
        | str key => return Assoc.insert key item done
        | _ => none
      let whole := done.map obj
      match rest with
      | .closeBrace :: rest => .ok (whole, rest)
      | .comma :: .closeBrace :: rest => .ok (whole, rest)
      | .comma :: rest => members complete fuel done rest
      | [] => .error (missing complete)
      | _ => .error .unexpectedToken
    | [.string _] => .error (missing complete)
    | [] => .error (missing complete)
    | _ => .error .unexpectedToken

end

/-- How deep a walk over the nodes of a well arranged text goes. A node takes two steps, and a token
that stands in a node one more; arrays, objects, the members of objects, strings, numbers and words
are nodes. `outer` are the depths of the brackets that are open around `depth`. -/
def walkDepth (outer : List Nat) (depth : Nat) : List Token → Nat
  | [] => 0
  | .openBracket :: rest => max (depth + 2) (walkDepth (depth :: outer) (depth + 2) rest)
  | .openBrace :: rest => max (depth + 2) (walkDepth (depth :: outer) (depth + 4) rest)
  | .closeBracket :: rest | .closeBrace :: rest =>
    walkDepth outer.tail (outer.headD 0) rest
  | .string _ :: rest | .number _ :: rest => max (depth + 3) (walkDepth outer depth rest)
  | .word _ :: rest => max (depth + 2) (walkDepth outer depth rest)
  | .comma :: rest | .colon :: rest => walkDepth outer depth rest

/-- How deep a walk over a text may go. -/
def walkLimit : Nat := 992

end Commented

/-- The value of a commented text. -/
def readCommented (s : String) : Except CommentedFault Json :=
  let cs := s.toList
  let (tokens, complete) := Commented.tokens (cs.length + 1) cs
  match Commented.value complete (tokens.length + 1) tokens with
  | .error fault => .error fault
  | .ok (value, []) =>
    if !complete then .error .badCharacter
    else if Commented.walkLimit < Commented.walkDepth [] 0 tokens then .error .tooDeep
    else
      match value with
      | some value => .ok value
      | none => .error .notJson
  | .ok (_, _ :: _) => .error .unexpectedToken

end JuliaSession.Json
