import JuliaSession.Shell.State
import JuliaSession.Text.Printable

/-!
# Names in complaints

How tools write the names that they complain about. `quotedName` and `inTicks` write a name so that
a shell reads it back as one word: `quotedName` leaves harmless names as they are, `inTicks` always
quotes. `inQuotes` puts a text between quotes for people. Characters that cannot be shown are
written as escapes; which ones these are depends on the character set of the environment.
-/

namespace JuliaSession.Shell

/-- The characters that texts are made of. -/
inductive Charset where
  /-- One for each byte, of which only those of ASCII can be shown. -/
  | ascii
  /-- All characters, as bytes of UTF-8. -/
  | utf8
  deriving DecidableEq, Repr

/-- The names of the character set UTF-8, without their punctuation. -/
def isUtf8Name (name : ByteText) : Bool :=
  (name.filter Char.isAlphanum).map Char.toLower = "utf8".toList

/-- The character set that environment variables ask for; of the languages only the neutral one is
known. -/
def Proc.charset (proc : Proc) : Charset :=
  let values := ["LC_ALL", "LC_CTYPE", "LANG"].filterMap fun name =>
    Assoc.get? name.toList proc.vars
  match values.find? (!·.isEmpty) with
  | some ('C' :: '.' :: name) => if isUtf8Name name then .utf8 else .ascii
  | _ => .ascii

/-- What is shown of a text at a time: a character, or a byte that belongs to none. -/
structure Glyph where
  /-- Its bytes. -/
  bytes : ByteText
  /-- Can it be shown? -/
  visible : Bool

/-- The glyph of a single byte. -/
def Glyph.ofByte (c : Char) : Glyph := ⟨[c], 32 ≤ c.toNat && c.toNat < 127⟩

/-- The glyphs of bytes in UTF-8 after skipping `skip` of them. -/
def utf8Glyphs : Nat → Text.Utf8.Bytes → List Glyph
  | _, [] => []
  | skip + 1, _ :: rest => utf8Glyphs skip rest
  | 0, b :: rest =>
    match Text.Utf8.nextChar b rest with
    | .char c size =>
      ⟨ofBytes (Text.Utf8.encodeChar c), Text.isPrintable c⟩ :: utf8Glyphs (size - 1) rest
    | .bad .. => .ofByte (Char.ofNat b.toNat) :: utf8Glyphs 0 rest

/-- The glyphs of a text. -/
def glyphs (charset : Charset) (text : ByteText) : List Glyph :=
  match charset with
  | .ascii => text.map Glyph.ofByte
  | .utf8 => utf8Glyphs 0 (toBytes text)

/-- The letter by which a control character is written after a backslash. -/
def controlName? (c : Char) : Option Char := Assoc.get? c.toNat
  [(7, 'a'), (8, 'b'), (9, 't'), (10, 'n'), (11, 'v'), (12, 'f'), (13, 'r')]

/-- A byte as a backslash and three octal digits. -/
def octalEscape (c : Char) : ByteText :=
  let n := c.toNat
  '\\' :: [n / 64, n / 8 % 8, n % 8].map fun digit => Char.ofNat (48 + digit)

/-- The escape of a glyph that cannot be shown. -/
def Glyph.escape (glyph : Glyph) : ByteText :=
  match glyph.bytes with
  | [c] =>
    match controlName? c with
    | some letter => ['\\', letter]
    | none => octalEscape c
  | bytes => bytes.flatMap octalEscape

/-- A text between the quotes that some complaints use. -/
def inQuotes (charset : Charset) (text : ByteText) : ByteText :=
  let (opening, closing) := match charset with
    | .ascii => (['\''], ['\''])
    | .utf8 => (ofString "‘", ofString "’")
  let shown (glyph : Glyph) : ByteText :=
    if !glyph.visible then glyph.escape
    else if glyph.bytes = ['\\'] ∨ glyph.bytes = closing then '\\' :: glyph.bytes
    else glyph.bytes
  opening ++ (glyphs charset text).flatMap shown ++ closing

/-- Characters that mean something to a shell wherever they stand. -/
def isShellSign (c : Char) : Bool := c ∈ " !\"$&()*;<=>?[\\^|'".toList || c = Char.ofNat 96

/-- Characters that mean something to a shell at the start of a word, or as a word of their own. -/
def isWordSign (text : ByteText) : Bool :=
  match text with
  | [c] => c = '#' || c = '~' || c = Char.ofNat 123 || c = Char.ofNat 125
  | c :: _ => c = '#' || c = '~'
  | [] => true

/-- Must a text be quoted for a shell to read it back? -/
def needsQuotes (charset : Charset) (text : ByteText) : Bool :=
  isWordSign text || text.any isShellSign || (glyphs charset text).any fun glyph => !glyph.visible

/-- Characters that mean the same between double quotes as between single ones. -/
def isQuoteNeutral (c : Char) : Bool :=
  c.isAlphanum || c ∈ "%+,-./:@]_ '".toList

/-- The inside of single quotes. Escapes stand in quotes of another kind, which `escaping` says are
open. -/
def tickedFrom : Bool → List Glyph → ByteText
  | _, [] => []
  | escaping, glyph :: rest =>
    if glyph.bytes = ['\''] then "'\\''".toList ++ tickedFrom false rest
    else if glyph.visible then
      (if escaping then ['\'', '\''] else []) ++ glyph.bytes ++ tickedFrom false rest
    else (if escaping then [] else "'$'".toList) ++ glyph.escape ++ tickedFrom true rest

/-- A text between quotes that a shell takes away. -/
def inTicks (charset : Charset) (text : ByteText) : ByteText :=
  if '\'' ∈ text ∧ (text.all isQuoteNeutral ∨
      (isWordSign text ∧ text.tail.all isQuoteNeutral)) then '"' :: text ++ ['"']
  else '\'' :: tickedFrom false (glyphs charset text) ++ ['\'']

/-- The name of a file that stands before a colon. -/
def quotedName (charset : Charset) (name : ByteText) : ByteText :=
  if needsQuotes charset name || ':' ∈ name then inTicks charset name else name

end JuliaSession.Shell
