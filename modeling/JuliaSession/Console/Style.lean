import JuliaSession.Text.Blank
import JuliaSession.Text.LowerCase
import JuliaSession.Text.Split
import JuliaSession.Text.Word

/-!
# Styles

A style is written as words: attributes such as `bold` or `not bold`, a colour, `on` and a
background colour, `link` and an address. `Style.ofWords` reads them and `Style.definition` writes
them in a fixed order with the attributes spelled out, so two ways of writing one style have one
definition.
-/

namespace JuliaSession

/-- How text looks: what is set or unset, and what was not mentioned. -/
structure Style where
  /-- The attributes mentioned, and whether they are on; a later mention wins. -/
  attributes : List (String × Bool)
  /-- The colour of the text. -/
  colour : Option (List Char)
  /-- The colour behind the text. -/
  background : Option (List Char)
  /-- The address the text leads to. -/
  link : Option (List Char)
  deriving DecidableEq, Repr

namespace Style

/-- Why words are no style. -/
inductive Fault where
  /-- A word is neither an attribute nor a colour, or is missing. -/
  | unknown
  /-- A component of a colour has this many digits, none or more than are converted. -/
  | badComponent (digits : Nat)
  deriving DecidableEq, Repr

/-- The style that sets nothing. -/
def plain : Style := ⟨[], none, none, none⟩

/-- The words for attributes, with the attribute each stands for. -/
def attributeWords : List (String × String) :=
  [("dim", "dim"), ("d", "dim"), ("bold", "bold"), ("b", "bold"), ("italic", "italic"),
    ("i", "italic"), ("underline", "underline"), ("u", "underline"), ("blink", "blink"),
    ("blink2", "blink2"), ("reverse", "reverse"), ("r", "reverse"), ("conceal", "conceal"),
    ("c", "conceal"), ("strike", "strike"), ("s", "strike"), ("underline2", "underline2"),
    ("uu", "underline2"), ("frame", "frame"), ("encircle", "encircle"), ("overline", "overline"),
    ("o", "overline")]

/-- The attributes in the order in which a style lists them. -/
def attributeOrder : List String :=
  ["bold", "dim", "italic", "underline", "blink", "blink2", "reverse", "conceal", "strike",
    "underline2", "frame", "encircle", "overline"]

/-- The names of the colours of a terminal. -/
def colourNames : List String := [
  "black", "red", "green", "yellow", "blue", "magenta", "cyan", "white", "bright_black",
  "bright_red", "bright_green", "bright_yellow", "bright_blue", "bright_magenta", "bright_cyan",
  "bright_white", "grey0", "gray0", "navy_blue", "dark_blue", "blue3", "blue1", "dark_green",
  "deep_sky_blue4", "dodger_blue3", "dodger_blue2", "green4", "spring_green4", "turquoise4",
  "deep_sky_blue3", "dodger_blue1", "green3", "spring_green3", "dark_cyan", "light_sea_green",
  "deep_sky_blue2", "deep_sky_blue1", "spring_green2", "cyan3", "dark_turquoise", "turquoise2",
  "green1", "spring_green1", "medium_spring_green", "cyan2", "cyan1", "dark_red", "deep_pink4",
  "purple4", "purple3", "blue_violet", "orange4", "grey37", "gray37", "medium_purple4",
  "slate_blue3", "royal_blue1", "chartreuse4", "dark_sea_green4", "pale_turquoise4", "steel_blue",
  "steel_blue3", "cornflower_blue", "chartreuse3", "cadet_blue", "sky_blue3", "steel_blue1",
  "pale_green3", "sea_green3", "aquamarine3", "medium_turquoise", "chartreuse2", "sea_green2",
  "sea_green1", "aquamarine1", "dark_slate_gray2", "dark_magenta", "dark_violet", "purple",
  "light_pink4", "plum4", "medium_purple3", "slate_blue1", "yellow4", "wheat4", "grey53", "gray53",
  "light_slate_grey", "light_slate_gray", "medium_purple", "light_slate_blue", "dark_olive_green3",
  "dark_sea_green", "light_sky_blue3", "sky_blue2", "dark_sea_green3", "dark_slate_gray3",
  "sky_blue1", "chartreuse1", "light_green", "pale_green1", "dark_slate_gray1", "red3",
  "medium_violet_red", "magenta3", "dark_orange3", "indian_red", "hot_pink3", "medium_orchid3",
  "medium_orchid", "medium_purple2", "dark_goldenrod", "light_salmon3", "rosy_brown", "grey63",
  "gray63", "medium_purple1", "gold3", "dark_khaki", "navajo_white3", "grey69", "gray69",
  "light_steel_blue3", "light_steel_blue", "yellow3", "dark_sea_green2", "light_cyan3",
  "light_sky_blue1", "green_yellow", "dark_olive_green2", "dark_sea_green1", "pale_turquoise1",
  "deep_pink3", "magenta2", "hot_pink2", "orchid", "medium_orchid1", "orange3", "light_pink3",
  "pink3", "plum3", "violet", "light_goldenrod3", "tan", "misty_rose3", "thistle3", "plum2",
  "khaki3", "light_goldenrod2", "light_yellow3", "grey84", "gray84", "light_steel_blue1",
  "yellow2", "dark_olive_green1", "honeydew2", "light_cyan1", "red1", "deep_pink2", "deep_pink1",
  "magenta1", "orange_red1", "indian_red1", "hot_pink", "dark_orange", "salmon1", "light_coral",
  "pale_violet_red1", "orchid2", "orchid1", "orange1", "sandy_brown", "light_salmon1",
  "light_pink1", "pink1", "plum1", "gold1", "navajo_white1", "misty_rose1", "thistle1", "yellow1",
  "light_goldenrod1", "khaki1", "wheat1", "cornsilk1", "grey100", "gray100", "grey3", "gray3",
  "grey7", "gray7", "grey11", "gray11", "grey15", "gray15", "grey19", "gray19", "grey23", "gray23",
  "grey27", "gray27", "grey30", "gray30", "grey35", "gray35", "grey39", "gray39", "grey42",
  "gray42", "grey46", "gray46", "grey50", "gray50", "grey54", "gray54", "grey58", "gray58",
  "grey62", "gray62", "grey66", "gray66", "grey70", "gray70", "grey74", "gray74", "grey78",
  "gray78", "grey82", "gray82", "grey85", "gray85", "grey89", "gray89", "grey93", "gray93"
]

/-- The attribute that a word stands for. -/
def attribute? (word : List Char) : Option String :=
  (attributeWords.find? fun entry => entry.1.toList = word).map Prod.snd

/-- A hexadecimal digit without capitals. -/
def isLowerHex (c : Char) : Bool := c.isDigit || ('a' ≤ c && c ≤ 'f')

/-- What stands between a name with an opening bracket and the closing bracket at the end. -/
def bracketed? (name : String) (word : List Char) : Option (List Char) :=
  match Text.afterStart? name.toList word with
  | none => none
  | some rest =>
    match rest.reverse with
    | ')' :: inner => some inner.reverse
    | _ => none

/-- The number of a text of decimal digits, of any script. -/
def number (digits : List Char) : Nat :=
  digits.foldl (fun total c => 10 * total + (Text.digitValue? c).getD 0) 0

/-- The most digits of a component that are converted to a number. -/
def digitLimit : Nat := 4300

/-- Has a component no digit or too many? -/
def isBadComponent (digits : List Char) : Bool := digits.isEmpty || digitLimit < digits.length

/-- Is a text without capitals a colour: the terminal's own, a name, a number sign with six
hexadecimal digits, `color(n)` or `rgb(r,g,b)` with numbers up to 255? -/
def checkColour (word : List Char) : Except Fault Unit :=
  let known (holds : Bool) : Except Fault Unit := if holds then .ok () else .error .unknown
  if word = "default".toList ∨ String.ofList word ∈ colourNames then .ok ()
  else
    match word with
    | '#' :: digits => known (digits.length = 6 && digits.all isLowerHex)
    | _ =>
      match bracketed? "color(" word, bracketed? "rgb(" word with
      | some digits, _ =>
        known (0 < digits.length && digits.length ≤ 3 && digits.all Char.isDigit
          && number digits ≤ 255)
      | none, some inner =>
        let parts := Text.splitOnChar ',' inner
        let isPart (c : Char) : Bool := c = ',' || (Text.digitValue? c).isSome
        if inner = [] ∨ ¬ inner.all isPart ∨ parts.length ≠ 3 then .error .unknown
        else
          match parts.find? isBadComponent with
          | some digits => .error (.badComponent digits.length)
          | none => known (parts.all fun part => number part ≤ 255)
      | none, none => .error .unknown

/-- The name of a colour: the word in lower case. -/
def colourName (word : List Char) : Except Fault (List Char) := do
  let name := Text.lower word
  checkColour name
  return name

/-- A style with the meaning of further words laid over it. -/
def ofWordsOver (style : Style) : List (List Char) → Except Fault Style
  | [] => .ok style
  | word :: rest =>
    let word := Text.lower word
    if word = "on".toList then
      match rest with
      | [] => .error .unknown
      | name :: rest => do
        let name ← colourName name
        ofWordsOver { style with background := some name } rest
    else if word = "not".toList then
      match rest with
      | [] => .error .unknown
      | name :: rest =>
        match attribute? name with
        | none => .error .unknown
        | some known =>
          ofWordsOver { style with attributes := (known, false) :: style.attributes } rest
    else if word = "link".toList then
      match rest with
      | [] => .error .unknown
      | address :: rest => ofWordsOver { style with link := some address } rest
    else
      match attribute? word with
      | some known =>
        ofWordsOver { style with attributes := (known, true) :: style.attributes } rest
      | none => do
        let name ← colourName word
        ofWordsOver { style with colour := some name } rest

/-- The style that words describe; `none` on its own is the style that sets nothing. -/
def ofWords (words : List (List Char)) : Except Fault Style :=
  if words = ["none".toList] then .ok plain else ofWordsOver plain words

/-- A style in words: attributes in their order, colour, background and address. -/
def definition (style : Style) : List Char :=
  let attributes := attributeOrder.filterMap fun name =>
    match style.attributes.find? fun entry => entry.1 = name with
    | some (_, true) => some name.toList
    | some (_, false) => some ("not ".toList ++ name.toList)
    | none => none
  let words := attributes ++ style.colour.toList
    ++ (style.background.map ("on ".toList ++ ·)).toList
    ++ (style.link.map ("link ".toList ++ ·)).toList
  if words = [] then "none".toList else Text.joinWith [' '] words

/-- The name under which a style is known: its definition, or, for words that are no style, the text
itself, trimmed and in lower case. The error is the number of digits of a bad component. -/
def canonical (text : List Char) : Except Nat (List Char) :=
  match ofWords (Text.words text) with
  | .ok style => .ok style.definition
  | .error .unknown => .ok (Text.lower (Text.strip text))
  | .error (.badComponent digits) => .error digits

end Style

end JuliaSession
