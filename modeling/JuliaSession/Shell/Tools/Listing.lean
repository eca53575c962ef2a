import JuliaSession.Shell.Pattern
import JuliaSession.Shell.Tools.Files
import JuliaSession.Shell.Tools.Keys
import JuliaSession.Text.Cells

/-!
# Listings

`ls` lists files and the contents of directories: which names (`Listing`), in which order, and in
which form each of them is written.
-/

namespace JuliaSession.Shell

/-! ### Kinds of listings -/

/-- How the names of a listing are laid out. -/
inductive ListLayout where
  /-- One on each line. -/
  | single
  /-- One on each line, with what is known of the file. -/
  | long
  /-- In columns, each filled from the top. -/
  | columns
  /-- In columns, each line filled from the left. -/
  | across
  /-- In lines, with commas between them. -/
  | commas
  deriving DecidableEq, Repr

/-- What names are put in order by. -/
inductive ListOrder where
  /-- Their bytes. -/
  | name
  /-- Nothing. -/
  | none
  /-- The time of the last change, the latest first. -/
  | time
  /-- The size, the largest first. -/
  | size
  /-- The ending. -/
  | ending
  /-- The numbers in them. -/
  | version
  /-- Their width. -/
  | width
  deriving DecidableEq, Repr

/-- Which kinds of files are marked after their names. -/
inductive ListMarks where
  /-- None. -/
  | none
  /-- Directories. -/
  | dirs
  /-- All kinds that differ from plain files. -/
  | types
  /-- These, and files that may be executed. -/
  | all
  deriving DecidableEq, Repr

/-- How names are written. -/
inductive NameStyle where
  /-- As they are. -/
  | literal
  /-- As they are, with question marks for what cannot be shown. -/
  | masked
  /-- As a shell reads them back, with quotes where they are needed. -/
  | shell
  /-- As a shell reads them back, always with quotes. -/
  | shellAlways
  /-- Between double quotes, with escapes. -/
  | quoted
  /-- Between double quotes, with escapes, if there is anything to escape. -/
  | quotedIfNeeded
  /-- With escapes. -/
  | escaped
  /-- Between the quotes of complaints. -/
  | typographic
  /-- Between the quotes of complaints, or double quotes. -/
  | neutral
  deriving DecidableEq, Repr

/-- How files are listed. -/
structure Listing where
  /-- The layout. -/
  layout : ListLayout
  /-- The order. -/
  order : ListOrder
  /-- Is the order turned around? -/
  reversed : Bool
  /-- Do directories come first? -/
  dirsFirst : Bool
  /-- The marks. -/
  marks : ListMarks
  /-- The form of names. -/
  style : NameStyle
  /-- Are names listed that start with a point, but for those of the directory itself? -/
  almostAll : Bool
  /-- Are all names listed? -/
  all : Bool
  /-- Are names left out that end with a tilde? -/
  noBackups : Bool
  /-- Are directories listed as such? -/
  dirsAsFiles : Bool
  /-- Are the contents of directories in directories listed? -/
  deep : Bool
  /-- Is the number of blocks listed? -/
  blocks : Bool
  /-- Is the owner listed in a long listing? -/
  owner : Bool
  /-- Is the group listed in a long listing? -/
  group : Bool
  /-- Are owner and group listed as numbers? -/
  numeric : Bool
  /-- The width of lines. -/
  width : Nat
  /-- What lines end with. -/
  ending : Char
  /-- The patterns of names that are left out. -/
  ignored : List ByteText
  /-- The patterns of names that are left out unless all are asked for. -/
  hidden : List ByteText
  /-- The characters of names. -/
  charset : Charset

/-- A file in a listing. -/
structure Listed where
  /-- The name it is listed by. -/
  name : ByteText
  /-- What it is. -/
  entry : Entry
  /-- The number of directories in it. -/
  subdirs : Nat

/-- The size that a file is listed with. -/
def Listed.size (file : Listed) : Nat :=
  match file.entry with
  | .file content _ _ => content.length
  | .dir .. => 4096

/-- The size of a file on the device, in blocks of 1024 bytes. -/
def Listed.blocks (file : Listed) : Nat := (file.size + 4095) / 4096 * 4

/-! ### Names -/

/-- A name between double quotes or without them, with escapes. -/
def escapedName (charset : Charset) (quotes : Bool) (name : ByteText) : ByteText :=
  let inside := (glyphs charset name).flatMap fun glyph =>
    if glyph.bytes = ['\\'] then ['\\', '\\']
    else if quotes && glyph.bytes = ['"'] then ['\\', '"']
    else if !quotes && glyph.bytes = [' '] then ['\\', ' ']
    else if glyph.visible then glyph.bytes
    else glyph.escape
  if quotes then '"' :: inside ++ ['"'] else inside

/-- A name in its form. -/
def Listing.nameText (listing : Listing) (name : ByteText) : ByteText :=
  match listing.style with
  | .literal => name
  | .masked => (glyphs listing.charset name).flatMap fun glyph =>
    if glyph.visible then glyph.bytes else ['?']
  | .shell => if needsQuotes listing.charset name then inTicks listing.charset name else name
  | .shellAlways => inTicks listing.charset name
  | .quoted => escapedName listing.charset true name
  | .escaped => escapedName listing.charset false name
  | .typographic => inQuotes listing.charset name
  | .quotedIfNeeded =>
    let shown := escapedName listing.charset true name
    if shown = '"' :: name ++ ['"'] then name else shown
  | .neutral =>
    match listing.charset with
    | .ascii => escapedName .ascii true name
    | .utf8 => inQuotes .utf8 name

/-- The mark after a name. -/
def Listing.mark (listing : Listing) (entry : Entry) : ByteText :=
  match entry with
  | .dir .. => if listing.marks = .none then [] else ['/']
  | .file _ mode _ => if listing.marks = .all && FileTree.mayExecute mode then ['*'] else []

/-- The columns that a name takes. -/
def nameCells (charset : Charset) (name : ByteText) : Nat :=
  match charset with
  | .ascii => name.length
  | .utf8 => Text.cells (asString name).toList

/-- The ending of a name, with its point. -/
def endingOf (name : ByteText) : ByteText :=
  if '.' ∈ name then '.' :: (name.reverse.takeWhile (· ≠ '.')).reverse else []

/-- Files in their order. -/
def Listing.ordered (listing : Listing) (files : List Listed) : List Listed :=
  let byName (a b : Listed) : Ordering := byteOrder a.name b.name
  let order (a b : Listed) : Ordering :=
    match listing.order with
    | .none => .eq
    | .name => byName a b
    | .time => (compare b.entry.changed a.entry.changed).then (byName a b)
    | .size => (compare b.size a.size).then (byName a b)
    | .ending => (byteOrder (endingOf a.name) (endingOf b.name)).then (byName a b)
    | .version => (versionOrder a.name b.name).then (byName a b)
    | .width =>
      (compare (nameCells listing.charset a.name) (nameCells listing.charset b.name)).then
        (byName a b)
  let turned (a b : Listed) : Ordering := if listing.reversed then order b a else order a b
  let rank (file : Listed) : Nat := if listing.dirsFirst && !file.entry.isDir then 1 else 0
  files.mergeSort fun a b => ((compare (rank a) (rank b)).then (turned a b)) ≠ .gt

/-! ### Layouts -/

/-- The names of the months as they stand in listings. -/
def shortMonths : List String :=
  ["Jan", "Feb", "Mar", "Apr", "May", "Jun", "Jul", "Aug", "Sep", "Oct", "Nov", "Dec"]

/-- The time of a file in a long listing: with its time of day if it is not long ago, otherwise with
its year. -/
def timeText (now changed : Int) : ByteText :=
  let seconds := changed.fdiv 1000000000
  let date := Clock.date (seconds.fdiv 86400)
  let second := (seconds.fmod 86400).toNat
  let day := (shortMonths[date.month - 1]?.getD "").toList ++ ' ' :: inPlaces ' ' 2 date.day
  let age := now.fdiv 1000000000 - seconds
  if 0 ≤ age ∧ age < 15778476 then
    day ++ ' ' :: inPlaces '0' 2 (second / 3600) ++ ':' :: inPlaces '0' 2 (second / 60 % 60)
  else day ++ "  ".toList ++ (toString date.year).toList
where
  /-- A number in a number of places, filled from the left. -/
  inPlaces (filler : Char) (places n : Nat) : ByteText :=
    let digits := decimal n
    List.replicate (places - digits.length) filler ++ digits

/-- A text at the right of a column. -/
def atRight (width : Nat) (text : ByteText) : ByteText :=
  List.replicate (width - text.length) ' ' ++ text

/-- The width of the widest text. -/
def widest (texts : List ByteText) : Nat := texts.foldl (fun width text => max width text.length) 0

/-- The lines of a long listing. The columns are wide enough for all files among which they are. -/
def Listing.longLines (listing : Listing) (now : Int) (among files : List Listed) :
    List ByteText :=
  let links (file : Listed) : ByteText := decimal (if file.entry.isDir then 2 + file.subdirs else 1)
  let size (file : Listed) : ByteText := decimal file.size
  let blocks (file : Listed) : ByteText := decimal file.blocks
  let who : ByteText := if listing.numeric then ['0'] else "root".toList
  let linksWidth := widest (among.map links)
  let sizeWidth := widest (among.map size)
  let blocksWidth := widest (among.map blocks)
  files.map fun file =>
    (if listing.blocks then atRight blocksWidth (blocks file) ++ [' '] else [])
      ++ (if file.entry.isDir then 'd' else '-') :: modeSigns file.entry.mode
      ++ ' ' :: atRight linksWidth (links file)
      ++ (if listing.owner then ' ' :: who else []) ++ (if listing.group then ' ' :: who else [])
      ++ ' ' :: atRight sizeWidth (size file)
      ++ ' ' :: timeText now file.entry.changed
      ++ ' ' :: listing.nameText file.name ++ listing.mark file.entry

/-- The widths of columns if names stand in a number of columns; `down` says that columns are filled
from the top. -/
def columnWidths (down : Bool) (columns : Nat) (widths : List Nat) : List Nat :=
  let rows := (widths.length + columns - 1) / columns
  (List.range columns).map fun (column : Nat) =>
    let members := widths.zipIdx.filterMap fun (width, n) =>
      if (if down then n / rows else n % columns) = column then
        some (if column = columns - 1 then width else width + 2)
      else none
    members.foldl max 3

/-- Blanks from one column of a line to another, as tabs where they reach. -/
def indentFrom : Nat → Nat → Nat → ByteText
  | 0, _, _ => []
  | fuel + 1, column, target =>
    if target ≤ column then []
    else if (column + 1) / 8 < target / 8 then
      '\t' :: indentFrom fuel (column + 8 - column % 8) target
    else ' ' :: indentFrom fuel (column + 1) target

/-- Texts with their widths in columns. -/
def inColumns (down : Bool) (width : Nat) (cells : List (ByteText × Nat)) : List ByteText :=
  let widths := cells.map Prod.snd
  let fits (columns : Nat) : Bool :=
    (columnWidths down columns widths).foldl (· + ·) 0 < width
  let most := min (max 1 (width / 3)) cells.length
  let columns := ((List.range most).map fun n => most - n).find? fits |>.getD 1
  let rows := (cells.length + columns - 1) / columns
  let starts := (columnWidths down columns widths).foldl (fun starts w =>
    starts ++ [starts.getLast?.getD 0 + w]) [0]
  (List.range rows).map fun (row : Nat) =>
    let line := (List.range columns).filterMap fun (column : Nat) =>
      let n := if down then column * rows + row else row * columns + column
      (cells[n]?).map fun cell => (starts[column]?.getD 0, cell)
    (line.foldl (fun (text, place) (start, cell, w) =>
      (text ++ indentFrom width place start ++ cell, start + w)) (([] : ByteText), 0)).1

/-- Texts with their widths in lines, with commas between them. -/
def withCommas (width : Nat) (cells : List (ByteText × Nat)) : ByteText :=
  (cells.foldl (fun (text, place) (cell, w) =>
    if text.isEmpty then (cell, w)
    else if place + w + 2 ≤ width then (text ++ ", ".toList ++ cell, place + w + 2)
    else (text ++ ",\n".toList ++ cell, w)) (([] : ByteText), 0)).1

/-- Write files, and those among which they are, in the layout of a listing. -/
def Listing.sayFiles (listing : Listing) (now : Int) (among files : List Listed) : ShellM Unit := do
  let sayRow (text : ByteText) : ShellM Unit := say (text ++ [listing.ending])
  let blocksWidth := widest (among.map fun file => decimal file.blocks)
  let cells := files.map fun file =>
    let text := (if listing.blocks then
        atRight blocksWidth (decimal file.blocks) ++ [' '] else [])
      ++ listing.nameText file.name ++ listing.mark file.entry
    (text, nameCells listing.charset text)
  match listing.layout with
  | .single => for (text, _) in cells do sayRow text
  | .long => for line in listing.longLines now among files do sayRow line
  | .commas => unless cells.isEmpty do sayRow (withCommas listing.width cells)
  | .columns => for line in inColumns true listing.width cells do sayRow line
  | .across => for line in inColumns false listing.width cells do sayRow line

/-! ### Directories -/

/-- A file that is listed by a name. -/
def listedAt (files : FileTree) (name : ByteText) (place : Place) : Option Listed :=
  (files.entry? place).map fun entry =>
    ⟨name, entry, ((files.names place).filter fun inner =>
      (files.entry? (place ++ [inner])).any Entry.isDir).length⟩

/-- The files that are listed of a directory. -/
def Listing.content (listing : Listing) (files : FileTree) (place : Place) : List Listed :=
  let names := (files.names place).filterMap fun name =>
    let fits (pattern : ByteText) : Bool := matchesField (marked false pattern) (ofString name)
    let partly := !listing.all && !listing.almostAll
    let hidden := partly && (name.toList.head? = some '.' || listing.hidden.any fits)
    let isBackup := listing.noBackups && name.toList.getLast? = some '~'
    if hidden || isBackup || listing.ignored.any fits then none
    else listedAt files (ofString name) (place ++ [name])
  let itself := if listing.all then
      [listedAt files ['.'] place, listedAt files ['.', '.'] place.dropLast].filterMap id
    else []
  listing.ordered (itself ++ names)

/-- List directories, each after its name if `titled`; `fuel` bounds their number. Returned is
whether none was listed. -/
def Listing.sayDirs (listing : Listing) (titled : Bool) : Nat → Bool → List (ByteText × Place) →
    ShellM Bool
  | 0, isFirst, _ => return isFirst
  | _, isFirst, [] => return isFirst
  | fuel + 1, isFirst, (path, place) :: rest => do
    let files := (← get).shared.files
    if titled then
      unless isFirst do sayLine []
      sayLine (listing.nameText path ++ [':'])
    let found := listing.content files place
    if listing.layout = .long || listing.blocks then
      sayLine ("total ".toList
        ++ decimal ((found.map fun file => file.blocks).foldl (· + ·) 0))
    listing.sayFiles files.now found found
    let inner := found.filter fun file =>
      listing.deep && file.entry.isDir && file.name ∉ [['.'], ['.', '.']]
    let below := inner.map fun file =>
      ((if path.getLast? = some '/' then path else path ++ ['/']) ++ file.name,
        place ++ [asString file.name])
    listing.sayDirs titled fuel false (below ++ rest)

/-! ### The tool -/

/-- The choices for the option `--sort`. -/
def sortWords : List (String × ListOrder) :=
  [("none", .none), ("time", .time), ("size", .size), ("extension", .ending), ("version", .version),
    ("width", .width)]

/-- The choices for the option `--format`. -/
def formatWords : List (String × ListLayout) :=
  [("verbose", .long), ("long", .long), ("commas", .commas), ("horizontal", .across),
    ("across", .across), ("vertical", .columns), ("single-column", .single)]

/-- The choices for the option `--indicator-style`. -/
def markWords : List (String × ListMarks) :=
  [("none", .none), ("slash", .dirs), ("file-type", .types), ("classify", .all)]

/-- The choices for the option `--quoting-style`. -/
def styleWords : List (String × NameStyle) :=
  [("literal", .literal), ("shell", .shell), ("shell-always", .shellAlways),
    ("shell-escape", .shell), ("shell-escape-always", .shellAlways), ("c", .quoted),
    ("c-maybe", .quotedIfNeeded), ("escape", .escaped), ("locale", .typographic),
    ("clocale", .neutral)]

/-- The options of the tool. -/
def lsOptions : List Known :=
  [.flag "a" "all", .flag "b" "escape", .flag "d" "directory", .flag "D" "dired",
    .flag "" "full-time", .flag "" "group-directories-first", .flag "h" "human-readable",
    .flag "i" "inode", .flag "k" "kibibytes", .flag "n" "numeric-uid-gid", .flag "G" "no-group",
    .flag "q" "hide-control-chars", .flag "r" "reverse", .flag "s" "size", .value "w" "width",
    .flag "A" "almost-all", .flag "B" "ignore-backups", .maybe "" "classify", .flag "F" "",
    .flag "" "file-type", .flag "" "si", .flag "" "dereference-command-line", .flag "H" "",
    .value "" "hide", .value "I" "ignore", .value "" "indicator-style", .flag "L" "dereference",
    .flag "N" "literal", .flag "Q" "quote-name", .value "" "quoting-style",
    .flag "R" "recursive", .value "" "format", .flag "" "show-control-chars",
    .value "" "sort", .value "T" "tabsize", .value "" "time", .value "" "time-style",
    .flag "" "zero", .maybe "" "color", .maybe "" "hyperlink",
    .value "" "block-size", .flag "Z" "context", .flag "" "author", .flag "c" "", .flag "f" "",
    .flag "g" "", .flag "l" "", .flag "m" "", .flag "o" "", .flag "p" "", .flag "t" "",
    .flag "u" "", .flag "v" "", .flag "x" "", .flag "C" "", .flag "S" "", .flag "U" "",
    .flag "X" "", .flag "1" ""]

/-- The listing that options ask for, one after the other. -/
def Call.listing (call : Call) (given : List Given) : ShellM Listing := do
  let columns := ((Assoc.get? "COLUMNS".toList (← get).vars).bind fun value =>
    if value.isEmpty || !value.all Char.isDigit then none else some (digitsValue value)).getD 80
  let mut listing : Listing :=
    { layout := .single, order := .name, reversed := false, dirsFirst := false, marks := .none
      style := .literal, almostAll := false, all := false, noBackups := false
      dirsAsFiles := false, deep := false, blocks := false, owner := true, group := true
      numeric := false, width := columns, ending := '\n', ignored := [], hidden := []
      charset := call.charset }
  for (key, value) in given do
    listing ← match key with
      | "a" => pure { listing with all := true }
      | "A" => pure { listing with almostAll := true, all := false }
      | "B" => pure { listing with noBackups := true }
      | "d" => pure { listing with dirsAsFiles := true }
      | "R" => pure { listing with deep := true }
      | "r" => pure { listing with reversed := true }
      | "s" => pure { listing with blocks := true }
      | "group-directories-first" => pure { listing with dirsFirst := true }
      | "t" => pure { listing with order := .time }
      | "S" => pure { listing with order := .size }
      | "X" => pure { listing with order := .ending }
      | "v" => pure { listing with order := .version }
      | "U" => pure { listing with order := .none }
      | "f" => pure { listing with order := .none, all := true }
      | "l" => pure { listing with layout := .long }
      | "g" => pure { listing with layout := .long, owner := false }
      | "o" => pure { listing with layout := .long, group := false }
      | "n" => pure { listing with layout := .long, numeric := true }
      | "G" => pure { listing with group := false }
      | "1" => pure { listing with layout := if listing.layout = .long then .long else .single }
      | "C" => pure { listing with layout := .columns }
      | "x" => pure { listing with layout := .across }
      | "m" => pure { listing with layout := .commas }
      | "F" => pure { listing with marks := .all }
      | "classify" => do
        let marks ← if value.isEmpty then pure ListMarks.all
          else call.choice "classify" [("always", .all), ("yes", .all), ("force", .all),
            ("never", .none), ("no", .none), ("none", .none), ("auto", .none), ("tty", .none),
            ("if-tty", .none)] value
        pure { listing with marks }
      | "p" => pure { listing with marks := .dirs }
      | "file-type" => pure { listing with marks := .types }
      | "indicator-style" => do
        pure { listing with marks := ← call.choice "indicator-style" markWords value }
      | "Q" => pure { listing with style := .quoted }
      | "b" => pure { listing with style := .escaped }
      | "N" => pure { listing with style := .literal }
      | "q" => pure { listing with style := .masked }
      | "quoting-style" => do
        pure { listing with style := ← call.choice "quoting-style" styleWords value }
      | "I" => pure { listing with ignored := value :: listing.ignored }
      | "hide" => pure { listing with hidden := value :: listing.hidden }
      | "zero" => pure { listing with ending := Char.ofNat 0 }
      | "color" => do
        unless value.isEmpty do
          let _ ← call.choice "color" [("always", true), ("yes", true), ("force", true),
            ("never", false), ("no", false), ("none", false), ("auto", true), ("tty", true),
            ("if-tty", true)] value
        pure listing
      | "sort" => do pure { listing with order := ← call.choice "sort" sortWords value }
      | "format" => do pure { listing with layout := ← call.choice "format" formatWords value }
      | "w" =>
        match amount value with
        | .ok width => pure { listing with width := if width = 0 then 1000000 else width }
        | .error _ => call.fail ("invalid line width: ".toList ++ call.quoted value)
      | _ => pure listing
  return listing

/-- List files and directories. -/
def lsTool (name : ByteText) (args : List ByteText) : ShellM Nat := do
  let call ← callOf name lsOptions 2
  let (given, words) ← call.read args
  let listing ← call.listing given
  let proc ← get
  let files := proc.shared.files
  let paths := if words.isEmpty then [['.']] else words
  let status ← forOperands paths fun path => do
    match ← entryAt path with
    | .ok _ => return true
    | .error reason => call.refused ("cannot access ".toList ++ call.ticked path) reason
  let found : List (Listed × Place) := paths.filterMap fun path =>
    match files.locate proc.cwd (asString path) with
    | .ok place => (listedAt files path place).map fun file => (file, place)
    | .error _ => none
  let isListed (file : Listed) : Bool := file.entry.isDir && !listing.dirsAsFiles
  let alone := listing.ordered ((found.map Prod.fst).filter fun file => !isListed file)
  let dirs := (listing.ordered ((found.map Prod.fst).filter isListed)).filterMap fun file =>
    (found.find? fun (other, _) => other.name = file.name).map fun (_, place) => (file.name, place)
  listing.sayFiles files.now (found.map Prod.fst) alone
  unless alone.isEmpty || dirs.isEmpty do sayLine []
  let titled := listing.deep || 1 < paths.length
  let _ ← listing.sayDirs titled (files.entries.length + dirs.length + 1) true dirs
  return if status = 0 then 0 else 2

end JuliaSession.Shell
