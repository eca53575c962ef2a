import JuliaSession.Json.Commented

/-!
# Spellings of JSON

The ways a JSON value can be written, as trees over the grammar: white space, the characters and
escapes of each string, and the digits of each number are all there. String values may have holes,
which are filled in when the tree is written out, so one tree stands for a template and for all of
its fillings.

* `Tree.pieces`: the characters and holes of a text, in order; `render` fills the holes.
* `Tree.value`: the value of the text when the holes of its strings are filled, each filling
  standing for itself.
* `Tree.depth`: how deep a walk over the value goes.
-/

namespace JuliaSession.Json.Spelling

/-! ### Parts of a text -/

/-- White space between the parts of a text. -/
structure Blank where
  /-- Its characters. -/
  chars : List Char
  /-- All of them are white space. -/
  blank : ∀ c ∈ chars, isSpace c = true

/-- A character that stands for itself in a string: no quote, no backslash and no control
character. -/
def isLiteral (c : Char) : Bool := c != '"' && c != '\\' && 32 ≤ c.toNat

/-- Four hexadecimal digits. -/
structure HexFour where
  /-- The first digit. -/
  a : Char
  /-- The second digit. -/
  b : Char
  /-- The third digit. -/
  c : Char
  /-- The last digit. -/
  d : Char
  /-- The number that they write. -/
  code : Nat
  /-- They write it. -/
  reads : hexFour? a b c d = some code

/-- The escape of a code unit. -/
def HexFour.text (unit : HexFour) : List Char := ['\\', 'u', unit.a, unit.b, unit.c, unit.d]

/-- A character in a string, as it is written. Surrogates only come in pairs. -/
inductive Letter where
  /-- A character that stands for itself. -/
  | literal (c : Char) (h : isLiteral c = true)
  /-- A short escape. -/
  | escape (letter c : Char) (h : escaped? letter = some c)
  /-- The escape of a code unit that is a character. -/
  | unit (digits : HexFour)
    (h : (isHighSurrogate digits.code || isLowSurrogate digits.code) = false)
  /-- The escapes of a surrogate pair. -/
  | pair (high low : HexFour) (hhigh : isHighSurrogate high.code = true)
    (hlow : isLowSurrogate low.code = true)

namespace Letter

/-- How the character is written. -/
def text : Letter → List Char
  | .literal c _ => [c]
  | .escape letter _ _ => ['\\', letter]
  | .unit digits _ => digits.text
  | .pair high low _ _ => high.text ++ low.text

/-- The character that is meant. -/
def char : Letter → Char
  | .literal c _ => c
  | .escape _ c _ => c
  | .unit digits _ => Char.ofNat digits.code
  | .pair high low _ _ => Char.ofNat (0x10000 + (high.code - 0xD800) * 1024 + (low.code - 0xDC00))

end Letter

/-- Some decimal digits. -/
structure Digits where
  /-- The digits. -/
  chars : List Char
  /-- There are some. -/
  nonempty : chars ≠ []
  /-- They are digits. -/
  digit : ∀ c ∈ chars, c.isDigit = true

/-- The exponent of a number. -/
structure Exponent where
  /-- What it starts with. -/
  letter : Char
  /-- Its sign, or nothing. -/
  sign : List Char
  /-- Its digits. -/
  digits : Digits
  /-- It starts with the letter E. -/
  isLetter : letter = 'e' ∨ letter = 'E'
  /-- There is one sign at most. -/
  isSign : sign = [] ∨ sign = ['+'] ∨ sign = ['-']

/-- A number, as it is written. -/
structure Numeral where
  /-- Is there a minus sign? -/
  negative : Bool
  /-- The digits before the point. -/
  whole : Digits
  /-- The digits after the point. -/
  fraction : Option Digits
  /-- The exponent. -/
  exponent : Option Exponent

/-- How an exponent is written; nothing if there is none. -/
def exponentText (exponent : Option Exponent) : List Char :=
  exponent.elim [] fun exponent => exponent.letter :: (exponent.sign ++ exponent.digits.chars)

/-- How a fraction is written, with its point; nothing if there is none. -/
def fractionText (fraction : Option Digits) : List Char :=
  fraction.elim [] fun digits => '.' :: digits.chars

/-- How the number is written. -/
def Numeral.text (number : Numeral) : List Char :=
  (if number.negative then ['-'] else []) ++
    (number.whole.chars ++ (fractionText number.fraction ++ exponentText number.exponent))

/-! ### Trees -/

mutual

/-- A value, as it is written. The holes of a string are `none`. -/
inductive Tree where
  /-- The word `null`. -/
  | null
  /-- The words `true` and `false`. -/
  | bool (b : Bool)
  /-- A number that has a value. -/
  | number (numeral : Numeral) (value : Json) (reads : readChars? numeral.text = some value)
  /-- A string with holes. -/
  | string (parts : List (Option Letter))
  /-- An array without items. -/
  | emptyArray (inside : Blank)
  /-- An array. -/
  | array (items : Items)
  /-- An object without members. -/
  | emptyObject (inside : Blank)
  /-- An object. -/
  | object (members : Members)

/-- The items of an array, each with the white space around it. -/
inductive Items where
  /-- The last item. -/
  | last (before : Blank) (item : Tree) (after : Blank)
  /-- An item that is followed by another one. -/
  | more (before : Blank) (item : Tree) (after : Blank) (rest : Items)

/-- The members of an object, each with the white space around its key and its value. A key has no
holes. -/
inductive Members where
  /-- The last member. -/
  | last (before : Blank) (key : List Letter) (afterKey beforeValue : Blank) (item : Tree)
    (after : Blank)
  /-- A member that is followed by another one. -/
  | more (before : Blank) (key : List Letter) (afterKey beforeValue : Blank) (item : Tree)
    (after : Blank) (rest : Members)

end

/-! ### Texts -/

/-- The text of some characters and holes, all holes filled in the same way. -/
def render (filling : List Char) (pieces : List (Option Char)) : List Char :=
  pieces.flatMap fun piece => piece.elim filling fun c => [c]

@[simp]
theorem render_nil (filling : List Char) : render filling [] = [] := rfl

@[simp]
theorem render_append (filling : List Char) (pieces more : List (Option Char)) :
    render filling (pieces ++ more) = render filling pieces ++ render filling more :=
  List.flatMap_append

@[simp]
theorem render_char (filling : List Char) (c : Char) (pieces : List (Option Char)) :
    render filling (some c :: pieces) = c :: render filling pieces := rfl

@[simp]
theorem render_hole (filling : List Char) (pieces : List (Option Char)) :
    render filling (none :: pieces) = filling ++ render filling pieces := rfl

@[simp]
theorem render_chars (filling : List Char) (cs : List Char) :
    render filling (cs.map some) = cs := by
  induction cs with
  | nil => rfl
  | cons c rest ih => exact congrArg (c :: ·) ih

/-- The characters and holes of a string, without its quotes. -/
def partPieces (parts : List (Option Letter)) : List (Option Char) :=
  parts.flatMap fun part => part.elim [none] fun letter => letter.text.map some

/-- The text of a key, without its quotes. -/
def keyText (key : List Letter) : List Char := key.flatMap Letter.text

mutual

/-- The characters and holes of a value. -/
def Tree.pieces : Tree → List (Option Char)
  | .null => "null".toList.map some
  | .bool true => "true".toList.map some
  | .bool false => "false".toList.map some
  | .number numeral _ _ => numeral.text.map some
  | .string parts => some '"' :: partPieces parts ++ [some '"']
  | .emptyArray inside => some '[' :: inside.chars.map some ++ [some ']']
  | .array items => some '[' :: items.pieces
  | .emptyObject inside =>
    some (Char.ofNat 123) :: inside.chars.map some ++ [some (Char.ofNat 125)]
  | .object members => some (Char.ofNat 123) :: members.pieces

/-- The characters and holes of items, with the bracket that closes the array. -/
def Items.pieces : Items → List (Option Char)
  | .last before item after =>
    before.chars.map some ++ item.pieces ++ after.chars.map some ++ [some ']']
  | .more before item after rest =>
    before.chars.map some ++ item.pieces ++ after.chars.map some ++ some ',' :: rest.pieces

/-- The characters and holes of members, with the brace that closes the object. -/
def Members.pieces : Members → List (Option Char)
  | .last before key afterKey beforeValue item after =>
    before.chars.map some ++ some '"' :: (keyText key).map some ++ some '"' ::
      afterKey.chars.map some ++ some ':' :: beforeValue.chars.map some ++ item.pieces ++
        after.chars.map some ++ [some (Char.ofNat 125)]
  | .more before key afterKey beforeValue item after rest =>
    before.chars.map some ++ some '"' :: (keyText key).map some ++ some '"' ::
      afterKey.chars.map some ++ some ':' :: beforeValue.chars.map some ++ item.pieces ++
        after.chars.map some ++ some ',' :: rest.pieces

end

/-! ### Values -/

/-- The characters that a string means, its holes filled. -/
def meant (filling : List Char) (parts : List (Option Letter)) : List Char :=
  parts.flatMap fun part => part.elim filling fun letter => [letter.char]

/-- The text that a key means. -/
def keyMeant (key : List Letter) : String := String.ofList (key.map Letter.char)

mutual

/-- The value of a text whose holes are filled. -/
def Tree.value (filling : List Char) : Tree → Json
  | .null => .null
  | .bool b => .bool b
  | .number _ value _ => value
  | .string parts => .str (String.ofList (meant filling parts))
  | .emptyArray _ => .arr []
  | .array items => .arr (items.values filling)
  | .emptyObject _ => .obj []
  | .object members => .obj (members.entries filling [])

/-- The values of items. -/
def Items.values (filling : List Char) : Items → List Json
  | .last _ item _ => [item.value filling]
  | .more _ item _ rest => item.value filling :: rest.values filling

/-- The entries of members added to `done`; a key given twice keeps its last value. -/
def Members.entries (filling : List Char) (done : List (String × Json)) :
    Members → List (String × Json)
  | .last _ key _ _ item _ => Assoc.insert (keyMeant key) (item.value filling) done
  | .more _ key _ _ item _ rest =>
    rest.entries filling (Assoc.insert (keyMeant key) (item.value filling) done)

end

mutual

/-- How deep a walk over a value goes that starts at `depth`: a node takes two steps and a string or
number in it one more, and the members of an object are nodes of their own. -/
def Tree.depth (depth : Nat) : Tree → Nat
  | .null | .bool _ | .emptyArray _ | .emptyObject _ => depth + 2
  | .number .. | .string _ => depth + 3
  | .array items => max (depth + 2) (items.depth (depth + 2))
  | .object members => max (depth + 2) (members.depth (depth + 4))

/-- How deep a walk over items goes. -/
def Items.depth (depth : Nat) : Items → Nat
  | .last _ item _ => item.depth depth
  | .more _ item _ rest => max (item.depth depth) (rest.depth depth)

/-- How deep a walk over members goes. -/
def Members.depth (depth : Nat) : Members → Nat
  | .last _ _ _ _ item _ => max (depth + 3) (item.depth depth)
  | .more _ _ _ _ item _ rest => max (max (depth + 3) (item.depth depth)) (rest.depth depth)

end

end JuliaSession.Json.Spelling
