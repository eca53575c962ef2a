import JuliaSession.Text.Blank
import JuliaSession.Text.Lines
import JuliaSession.Text.Printable

/-!
# Literals

The values that a handler tag of the markup may carry: numbers, quoted texts, `True`, `False`,
`None` and `...`, put together by tuples, sets and dictionaries. Only whether a text is such a value
matters to the markup, so reading keeps no more of a value than its grammar asks for:
`Literal.Shape`. Main definition: `Literal.isValue`.
-/

namespace JuliaSession.Literal

/-- A part of a value's text. -/
inductive Token where
  /-- A number, real or imaginary. -/
  | number (imaginary : Bool)
  /-- A quoted text, of characters or of bytes. -/
  | quoted (bytes : Bool)
  /-- A name. -/
  | name (chars : List Char)
  /-- Three dots. -/
  | ellipsis
  /-- A bracket, comma, colon or sign. -/
  | mark (c : Char)
  /-- The end of a line on which there was a token, outside of brackets. -/
  | lineEnd
  deriving DecidableEq, Repr

/-- Can a name start with this character? -/
def startsName (c : Char) : Bool :=
  c.isAlpha || c = '_' || (128 ≤ c.toNat && Text.isPrintable c)

/-- Can a name go on with this character? -/
def continuesName (c : Char) : Bool := startsName c || c.isDigit

/-- Forms of the letters `s`, `e` and `t` that stand for these letters in a name. -/
def letterForms : Char → List Nat
  | 's' => [0x17F, 0x2E2, 0x209B, 0xFF53]
  | 'e' => [0x1D49, 0x2091, 0x212F, 0x2147, 0xFF45]
  | 't' => [0x1D57, 0x209C, 0xFF54]
  | _ => []

/-- Does a character stand for one of the letters `s`, `e` and `t` in a name? The letters of the
mathematical alphabets do, which are 52 characters apart and leave one place empty. -/
def standsFor (letter c : Char) : Bool :=
  let n := c.toNat
  let first := 0x1D41A + (letter.toNat - 'a'.toNat)
  c = letter || (letterForms letter).contains n
    || (first ≤ n && n ≤ first + 12 * 52 && (n - first) % 52 = 0 && n ≠ 0x1D4BA)

/-- Is a name the one of the empty set? -/
def isSetName (name : List Char) : Bool :=
  name.length = 3 && ("set".toList.zip name).all fun (letter, c) => standsFor letter c

/-! ### Numbers -/

/-- Digits with single underscores between them, and what follows; nothing if there are none. -/
def digits? (isDigit : Char → Bool) : List Char → Option (List Char × List Char)
  | [] => none
  | c :: '_' :: rest =>
    if isDigit c then (digits? isDigit rest).map fun found => (c :: found.1, found.2) else none
  | c :: rest =>
    if isDigit c then
      match digits? isDigit rest with
      | some (more, after) => some (c :: more, after)
      | none => some ([c], rest)
    else none

/-- What follows an exponent, if one comes first. -/
def afterExponent : List Char → List Char
  | e :: rest =>
    if e = 'e' ∨ e = 'E' then
      let unsigned := match rest with
        | '+' :: rest => rest
        | '-' :: rest => rest
        | rest => rest
      match digits? Char.isDigit unsigned with
      | some (_, after) => after
      | none => e :: rest
    else e :: rest
  | [] => []

/-- The digits of a base that a letter after a zero names. -/
def baseDigits? (letter : Char) : Option (Char → Bool) :=
  match letter.toLower with
  | 'x' => some fun c => c.isDigit || ('a' ≤ c.toLower && c.toLower ≤ 'f')
  | 'o' => some fun c => '0' ≤ c && c ≤ '7'
  | 'b' => some fun c => c = '0' || c = '1'
  | _ => none

/-- The most digits a decimal whole number may have. -/
def digitLimit : Nat := 4300

/-- A decimal number, and what follows it. A whole number starts with a zero only if it is zero, and
has no more digits than are converted. -/
def decimal? (cs : List Char) : Option (Token × List Char) := do
  let whole := digits? Char.isDigit cs
  let after := (whole.map Prod.snd).getD cs
  let tail ← match after with
    | '.' :: rest =>
      match digits? Char.isDigit rest with
      | some (_, after) => some (some after)
      | none => if whole.isSome then some (some rest) else none
    | _ => if whole.isSome then some none else none
  let rest := afterExponent (tail.getD after)
  let isWhole := tail.isNone && rest.length = after.length
  match rest with
  | j :: rest' =>
    if j = 'j' ∨ j = 'J' then return (.number true, rest')
  | [] => pure ()
  let shown := (whole.map Prod.fst).getD []
  let zeros := shown.takeWhile (· = '0')
  if isWhole && ((zeros ≠ [] && zeros.length < shown.length) || digitLimit < shown.length) then none
  else return (.number false, rest)

/-- A number, and what follows it; no letter, digit or underscore may follow it directly. -/
def number? (cs : List Char) : Option (Token × List Char) := do
  let found ← match cs with
    | '0' :: letter :: rest =>
      match baseDigits? letter with
      | some isDigit =>
        let rest := match rest with
          | '_' :: rest => rest
          | rest => rest
        (digits? isDigit rest).map fun found => (Token.number false, found.2)
      | none => decimal? cs
    | _ => decimal? cs
  match found.2 with
  | c :: _ => if continuesName c then none else some found
  | [] => some found

/-! ### Quoted texts -/

/-- How a quoted text is read. -/
structure QuoteStyle where
  /-- The quote that ends it. -/
  quote : Char
  /-- Is it ended by three quotes? -/
  long : Bool
  /-- Does a backslash stand for itself? -/
  raw : Bool
  /-- Does it hold bytes? -/
  bytes : Bool

/-- The number of hexadecimal digits that the letter of an escape asks for. -/
def escapeLength (style : QuoteStyle) (c : Char) : Nat :=
  match c with
  | 'x' => 2
  | 'u' => if style.bytes then 0 else 4
  | 'U' => if style.bytes then 0 else 8
  | _ => 0

/-- Is a character a hexadecimal digit? -/
def isHex (c : Char) : Bool := c.isDigit || ('a' ≤ c.toLower && c.toLower ≤ 'f')

/-- The value of hexadecimal digits. -/
def hexValue (digits : List Char) : Nat :=
  digits.foldl (fun n c =>
    16 * n + (if c.isDigit then c.toNat - '0'.toNat else c.toLower.toNat - 'a'.toNat + 10)) 0

/-- What follows the name of a character in braces; nothing if there is none. -/
def afterCharacterName? : List Char → Option (List Char)
  | '\x7b' :: rest =>
    let name := rest.takeWhile fun c => c.isAlphanum || c = ' ' || c = '-'
    match rest.drop name.length with
    | '\x7d' :: after => if name.isEmpty then none else some after
    | _ => none
  | _ => none

/-- What follows the end of a quoted text; nothing if it has no end or a bad escape. -/
def afterQuoted? (style : QuoteStyle) : Nat → List Char → Option (List Char)
  | 0, _ => none
  | fuel + 1, cs =>
    match cs with
    | [] => none
    | '\\' :: c :: rest =>
      if style.bytes && 128 ≤ c.toNat then none
      else if style.raw then afterQuoted? style fuel rest
      else if c = 'N' && !style.bytes then
        match afterCharacterName? rest with
        | some after => afterQuoted? style fuel after
        | none => none
      else
        let size := escapeLength style c
        let digits := rest.take size
        if digits.length = size ∧ digits.all isHex ∧ hexValue digits ≤ 0x10FFFF then
          afterQuoted? style fuel (rest.drop size)
        else none
    | c :: rest =>
      if c = style.quote then
        if !style.long then some rest
        else
          match rest with
          | d :: e :: after =>
            if d = c ∧ e = c then some after else afterQuoted? style fuel rest
          | _ => none
      else if (c = '\n' && !style.long) || (style.bytes && 128 ≤ c.toNat) then none
      else afterQuoted? style fuel rest

/-- A quoted text after the letters that say how it is read, and what follows it. -/
def quoted? (letters : List Char) (quote : Char) (rest : List Char) :
    Option (Token × List Char) := do
  let letters := letters.map Char.toLower
  let bytes := letters.contains 'b'
  if letters ∉ [[], ['r'], ['u'], ['b'], ['b', 'r'], ['r', 'b']] then none
  else
    let raw := letters.contains 'r'
    let after ← match rest with
      | a :: b :: inner =>
        if a = quote ∧ b = quote then
          afterQuoted? ⟨quote, true, raw, bytes⟩ (inner.length + 1) inner
        else afterQuoted? ⟨quote, false, raw, bytes⟩ (rest.length + 1) rest
      | _ => afterQuoted? ⟨quote, false, raw, bytes⟩ (rest.length + 1) rest
    return (.quoted bytes, after)

/-! ### Tokens -/

/-- The first token of a text that does not start with a blank, and what follows it. -/
def token? (c : Char) (rest : List Char) : Option (Token × List Char) :=
  let cs := c :: rest
  if c = '\'' ∨ c = '"' then quoted? [] c rest
  else if c.isDigit then number? cs
  else if c = '.' then
    match rest with
    | '.' :: '.' :: after => some (.ellipsis, after)
    | _ => number? cs
  else if startsName c then
    let name := cs.takeWhile continuesName
    match cs.drop name.length with
    | quote :: after =>
      if quote = '\'' ∨ quote = '"' then quoted? name quote after
      else some (.name name, quote :: after)
    | [] => some (.name name, [])
  else if c ∈ "()\x7b\x7d,:+-".toList then some (.mark c, rest)
  else none

/-- The most brackets that may be open at once. -/
def bracketLimit : Nat := 200

/-- Where the reading of a text stands. -/
inductive Place where
  /-- At the start of a line, after blanks up to a column; a backslash at the end of the line before
  keeps the column `kept` as the indentation. -/
  | lineStart (column kept : Nat)
  /-- Within a line. -/
  | inLine
  deriving DecidableEq, Repr

/-- The place behind a blank; nothing if the character is no blank. -/
def Place.afterBlank? (place : Place) (c : Char) : Option Place :=
  if c = ' ' ∨ c = '\t' ∨ c = Char.ofNat 12 then
    match place with
    | .lineStart column kept =>
      -- a form feed starts the line anew
      let column := if c = ' ' then column + 1 else if c = '\t' then (column / 8 + 1) * 8 else 0
      some (.lineStart column kept)
    | .inLine => some .inLine
  else none

/-- The place behind a backslash at the end of a line. -/
def Place.continued : Place → Place
  | .lineStart column kept => .lineStart column (if kept = 0 then column else kept)
  | .inLine => .inLine

/-- Is a line indented whose first token stands here? -/
def Place.isIndented : Place → Bool
  | .lineStart column kept => (if kept = 0 then column else kept) ≠ 0
  | .inLine => false

/-- The tokens of a text in which `depth` brackets are open. Within brackets lines do not matter;
outside of them no line is indented, and one without tokens has no end. -/
def tokensFrom? : Nat → Place → Nat → List Char → Option (List Token)
  | _, _, _, [] => some []
  | 0, _, _, _ => none
  | fuel + 1, place, depth, c :: rest =>
    match place.afterBlank? c with
    | some place => tokensFrom? fuel place depth rest
    | none =>
      if c = '#' then tokensFrom? fuel place depth (rest.dropWhile (· ≠ '\n'))
      else if c = '\n' then
        let tokens := tokensFrom? fuel (.lineStart 0 0) depth rest
        if place = .inLine ∧ depth = 0 then tokens.map (Token.lineEnd :: ·) else tokens
      else if c = '\\' then
        -- the text goes on behind the line
        match rest with
        | '\n' :: after =>
          if after.isEmpty then none else tokensFrom? fuel place.continued depth after
        | _ => none
      else if depth = 0 && place.isIndented then none
      else if c = '(' ∨ c = '\x7b' then
        if depth < bracketLimit then
          (tokensFrom? fuel .inLine (depth + 1) rest).map (Token.mark c :: ·)
        else none
      else if c = ')' ∨ c = '\x7d' then
        (tokensFrom? fuel .inLine (depth - 1) rest).map (Token.mark c :: ·)
      else
        match token? c rest with
        | some (token, rest) => (tokensFrom? fuel .inLine depth rest).map (token :: ·)
        | none => none

/-- The tokens of a text, which holds no null character. Every line end counts as a line feed, and
blanks at the start do not count. -/
def tokens? (cs : List Char) : Option (List Token) :=
  if Char.ofNat 0 ∈ cs then none
  else
    let cs := (Text.unifyNewlines cs).dropWhile fun c => c = ' ' || c = '\t'
    tokensFrom? (cs.length + 1) (.lineStart 0 0) 0 cs

/-! ### Values -/

/-- What the grammar asks of a value that was read. -/
inductive Shape where
  /-- A number without a sign, real or imaginary. -/
  | number (imaginary : Bool)
  /-- A real number with a sign. -/
  | signed
  /-- Another value that can be a member of a set or a key. -/
  | fixed
  /-- A value that holds a set or a dictionary. -/
  | changing
  deriving DecidableEq, Repr

/-- Can a value be a member of a set or a key? -/
def Shape.isFixed (shape : Shape) : Bool := shape ≠ .changing

/-- Drop the quoted texts of one kind that come first: they are joined to the one before them. -/
def afterJoined (bytes : Bool) : List Token → Option (List Token)
  | .quoted other :: rest => if other = bytes then afterJoined bytes rest else none
  | rest => some rest

mutual

/-- A value, a sum of a real and an imaginary number included, and what follows it. -/
def value? : Nat → List Token → Option (Shape × List Token)
  | 0, _ => none
  | fuel + 1, tokens =>
    match term? fuel tokens with
    | none => none
    | some (left, rest) =>
      match rest with
      | .mark c :: after =>
        if c = '+' ∨ c = '-' then
          match left, primary? fuel after with
          | .number false, some (.number true, rest) => some (.fixed, rest)
          | .signed, some (.number true, rest) => some (.fixed, rest)
          | _, _ => none
        else some (left, rest)
      | _ => some (left, rest)

/-- A value with at most one sign, and what follows it. -/
def term? : Nat → List Token → Option (Shape × List Token)
  | 0, _ => none
  | fuel + 1, tokens =>
    match tokens with
    | .mark c :: rest =>
      if c = '+' ∨ c = '-' then
        match primary? fuel rest with
        | some (.number false, rest) => some (.signed, rest)
        | some (.number true, rest) => some (.fixed, rest)
        | _ => none
      else primary? fuel tokens
    | _ => primary? fuel tokens

/-- A value without a sign, and what follows it. -/
def primary? : Nat → List Token → Option (Shape × List Token)
  | 0, _ => none
  | fuel + 1, tokens =>
    match tokens with
    | .number imaginary :: rest => some (.number imaginary, rest)
    | .quoted bytes :: rest => (afterJoined bytes rest).map (Shape.fixed, ·)
    | .ellipsis :: rest => some (.fixed, rest)
    | .name name :: rest =>
      if name ∈ ["True".toList, "False".toList, "None".toList] then some (.fixed, rest)
      else if isSetName name then
        match rest with
        | .mark '(' :: .mark ')' :: rest => some (.changing, rest)
        | _ => none
      else none
    | .mark '(' :: .mark ')' :: rest => some (.fixed, rest)
    | .mark '(' :: rest =>
      match value? fuel rest with
      | some (shape, .mark ')' :: rest) => some (shape, rest)
      | some (shape, .mark ',' :: rest) =>
        match elements? fuel ')' rest with
        | some (isFixed, rest) =>
          some (if isFixed && shape.isFixed then .fixed else .changing, rest)
        | none => none
      | _ => none
    | .mark '\x7b' :: .mark '\x7d' :: rest => some (.changing, rest)
    | .mark '\x7b' :: rest =>
      match value? fuel rest with
      | some (shape, .mark ':' :: rest) =>
        if !shape.isFixed then none
        else
          match value? fuel rest with
          | some (_, .mark '\x7d' :: rest) => some (.changing, rest)
          | some (_, .mark ',' :: rest) => (entries? fuel rest).map (Shape.changing, ·)
          | _ => none
      | some (shape, .mark '\x7d' :: rest) =>
        if shape.isFixed then some (.changing, rest) else none
      | some (shape, .mark ',' :: rest) =>
        match elements? fuel '\x7d' rest with
        | some (isFixed, rest) => if isFixed && shape.isFixed then some (.changing, rest) else none
        | none => none
      | _ => none
    | _ => none

/-- The elements up to a closing bracket, whether all of them can be members of a set, and what
follows the bracket. -/
def elements? : Nat → Char → List Token → Option (Bool × List Token)
  | 0, _, _ => none
  | fuel + 1, close, tokens =>
    if tokens.head? = some (.mark close) then some (true, tokens.drop 1)
    else
      match value? fuel tokens with
      | some (shape, .mark c :: rest) =>
        if c = close then some (shape.isFixed, rest)
        else if c = ',' then
          (elements? fuel close rest).map fun found => (shape.isFixed && found.1, found.2)
        else none
      | _ => none

/-- What follows the entries of a dictionary and its closing bracket. -/
def entries? : Nat → List Token → Option (List Token)
  | 0, _ => none
  | fuel + 1, tokens =>
    if tokens.head? = some (.mark '\x7d') then some (tokens.drop 1)
    else
      match value? fuel tokens with
      | some (shape, .mark ':' :: rest) =>
        if !shape.isFixed then none
        else
          match value? fuel rest with
          | some (_, .mark '\x7d' :: rest) => some rest
          | some (_, .mark ',' :: rest) => entries? fuel rest
          | _ => none
      | _ => none

end

/-- Values with commas between them, up to the end. -/
def areValues : Nat → List Token → Bool
  | 0, _ => false
  | fuel + 1, tokens =>
    match value? (4 * tokens.length + 4) tokens with
    | some (_, []) => true
    | some (_, [.mark ',']) => true
    | some (_, .mark ',' :: rest) => areValues fuel rest
    | _ => false

/-- Is a text a value, or several with commas between them? -/
def isValue (cs : List Char) : Bool :=
  match tokens? cs with
  | some tokens =>
    areValues (tokens.length + 1) (Text.dropRightWhile (fun token => token = .lineEnd) tokens)
  | none => false

end JuliaSession.Literal
