import JuliaSession.Console.StyledText
import JuliaSession.Text.Word

/-!
# Highlights

Parts of a text that the console gives a style without being asked: tags in angle brackets, names
with values, brackets, addresses, numbers, paths, quoted texts and the like. Their styles are not
shown, but what they cover is drawn piece by piece, which matters where characters are joined.
Main definition: `highlighted`.
-/

namespace JuliaSession.Console.Highlight

open Text (Regex Span)
open Text.Regex

/-! ### Classes of characters -/

/-- A hexadecimal digit. -/
def isHex (c : Char) : Bool :=
  c.isDigit || ('a' ≤ c && c ≤ 'f') || ('A' ≤ c && c ≤ 'F')

/-- A character that the name of a file may have. -/
def isFileChar (c : Char) : Bool := Text.isWord c || c ∈ ['-', '.', '+']

/-- A character that an address of the network may have. -/
def isAddressChar (c : Char) : Bool :=
  c.isAlphanum || c ∈ Char.ofNat 96 :: "-$_+!(),.?/;:&=%#~@".toList

/-- A digit. -/
def digit : Regex := one Char.isDigit

/-- A digit of any script. -/
def anyDigit : Regex := one fun c => (Text.digitValue? c).isSome

/-- A character of a word. -/
def word : Regex := one Text.isWord

/-- A hexadecimal digit. -/
def hex : Regex := one isHex

/-- No character of a word stands before. -/
def notAfterWord : Regex := here fun before _ => !before.any Text.isWord

/-- The border of a word. -/
def border : Regex := here (isBorder Text.isWord)

/-! ### Kinds of highlights -/

/-- A tag in angle brackets: the brackets, its name and what it contains. -/
def angleTag : Regex :=
  inRow [group (char '<'), group (many (one fun c => Text.isWord c || c ∈ "-.:|".toList)),
    group (many (one fun _ => true)), group (char '>')]

/-- A name and a value with an equals sign between them. -/
def namedValue : Regex :=
  inRow [group (between 1 50 word), char '=',
    optional (group (inRow [optional (char '"'), atLeastOnce word, optional (char '"')]))]

/-- A bracket. -/
def bracket : Regex := group (one fun c => c ∈ "[]()\x7b\x7d".toList)

/-- An address of four numbers. -/
def address4 : Regex :=
  let part := between 1 3 digit
  group (inRow [part, char '.', part, char '.', part, char '.', part])

/-- An address of hexadecimal numbers with colons between them. -/
def address6 : Regex :=
  let part := between 1 4 hex
  group (inRow [between 1 7 (inRow [part, char ':', optional (char ':')]), part])

/-- An address of a device, which has `count` bytes. -/
def deviceAddress (count : Nat) : Regex :=
  let parts (mark : Char) := inRow
    [exactly (count - 1) (inRow [between 1 2 hex, char mark]), between 1 2 hex]
  group (firstOf [parts '-', parts ':',
    inRow [exactly (count / 2 - 1) (inRow [exactly 4 hex, char '.']), exactly 4 hex]])

/-- A universal identifier. -/
def identifier : Regex :=
  group (inRow [exactly 8 hex, char '-', exactly 4 hex, char '-', exactly 4 hex, char '-',
    exactly 4 hex, char '-', exactly 12 hex])

/-- A name before an opening bracket. -/
def call : Regex :=
  inRow [group (times false 0 none (one fun c => Text.isWord c || c = '.')), char '(']

/-- A word that names a value. -/
def value (name : String) : Regex := inRow [border, group (text name), border]

/-- Three dots. -/
def ellipsis : Regex := group (text "...")

/-- An exponent, whose digits are taken as often or as seldom as possible. -/
def exponent (greedy : Bool) : Regex :=
  inRow [char 'e', optional (one fun c => c = '-' || c = '+'), times greedy 1 none anyDigit]

/-- Digits and a fraction. -/
def decimal : Regex := inRow [atLeastOnce digit, optional (char '.'), many digit]

/-- A number with an imaginary part. -/
def imaginary : Regex :=
  group (inRow [notAfterWord, optional (char '-'), decimal, optional (exponent false),
    optional (inRow [one fun c => c = '-' || c = '+', decimal, optional (exponent true)]),
    char 'j'])

/-- A number. -/
def number : Regex :=
  group (firstOf
    [inRow [notAfterWord, optional (char '-'), decimal, optional (exponent false), border],
      inRow [text "0x", many hex]])

/-- A path: its directories and the name of its file. -/
def path : Regex :=
  let name := one isFileChar
  inRow
    [group (inRow [here (fun before after => !isBorder Text.isWord before after),
      many (inRow [char '/', atLeastOnce name]), char '/']),
      optional (group (many name))]

/-- A quoted text: between two quotes is what ends with no backslash and is as short as possible. -/
def quotedBy (quotes : String) : Regex :=
  inRow [optional (char 'b'), text quotes, times false 0 none (one (· ≠ '\n')),
    here (fun before _ => before ≠ some '\\'), text quotes]

/-- A quoted text. -/
def quoted : Regex :=
  inRow [here (fun before _ => !before.any fun c => c = '\\' || Text.isWord c),
    group (firstOf (["'''", "'", "\"\"\"", "\""].map quotedBy))]

/-- An address of the network. -/
def link : Regex :=
  group (inRow [firstOf (["file", "https", "http", "ws", "wss"].map text), text "://",
    many (one isAddressChar)])

/-- What is looked for in a text, one after the other. -/
def kinds : List Regex :=
  [angleTag, namedValue, bracket,
    firstOf [address4, address6, deviceAddress 8, deviceAddress 6, identifier, call, value "True",
      value "False", value "None", ellipsis, imaginary, number, path, quoted, link]]

/-- The spans of the highlights of a text. -/
def spans (cs : List Char) : List Span :=
  (kinds.flatMap fun kind => kind.findAll cs).filter fun span => span.start < span.stop

end Highlight

/-- Is a character measured together with the ones around it? -/
def isJoining (c : Char) : Bool := c = Text.joiner || c = Text.pictureSelector

/-- A text with its highlights. They matter to its drawing only where characters are joined. -/
def highlighted (text : StyledText) : StyledText :=
  if text.chars.any isJoining then
    { text with spans := Highlight.spans text.chars ++ text.spans }
  else text

end JuliaSession.Console
