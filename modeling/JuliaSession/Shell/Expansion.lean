import JuliaSession.Shell.Fields
import JuliaSession.Shell.Variables

/-!
# Parameters, home directories and file names in words

The expansions that run no commands: the values of parameters (`Proc.parameter?`), a tilde that
stands for a home directory (`tildes`, `valueTildes`), and patterns that stand for the names of
files (`expandPath`).
-/

namespace JuliaSession.Shell

/-- The value of a parameter, if it is set. -/
def Proc.parameter? (proc : Proc) (name : ByteText) : Option ByteText :=
  match name with
  | ['@'] | ['*'] => some (joinAll (separators proc) proc.args)
  | ['#'] => some (decimal proc.args.length)
  | ['?'] => some (decimal proc.status)
  | ['-'] => some (flagText proc)
  | ['$'] => some (decimal proc.mainProcess)
  | ['!'] => proc.jobs.getLast?.map fun job => decimal job.process
  | _ =>
    if name.all Char.isDigit then
      match digitsValue name with
      | 0 => some proc.name
      | n + 1 => proc.args[n]?
    else Assoc.get? name proc.vars

/-! ### Home directories -/

/-- The home directory of a user; no name stands for the user who runs the shell. -/
def home? (proc : Proc) (user : ByteText) : Option ByteText :=
  if user.isEmpty then Assoc.get? "HOME".toList proc.vars
  else if user = "root".toList then some "/root".toList
  else none

/-- The text at the start of a word, where a tilde stands for a home directory. The name after the
tilde goes on to a slash, or to the end of the word if the text is `whole`. -/
def tildeText (proc : Proc) (whole : Bool) (text : ByteText) : List Part :=
  match text with
  | '~' :: rest =>
    let user := rest.takeWhile (· ≠ '/')
    let after := rest.drop user.length
    match after.isEmpty && !whole, home? proc user with
    | false, some home =>
      -- an empty directory leaves no trace of the tilde
      if home.isEmpty then [.text false after] else [.text true home, .text false after]
    | _, _ => [.text false text]
  | _ => [.text false text]

/-- The parts of a word with the home directory instead of a tilde at the start. -/
def tildes (proc : Proc) : List Part → List Part
  | .text false text :: more => tildeText proc more.isEmpty text ++ more
  | parts => parts

/-- The texts between colons, where each may start with a tilde; the last one ends with the word if
the text is `whole`. -/
def tildesBetween (proc : Proc) (whole : Bool) : List ByteText → List Part
  | [] => []
  | [text] => tildeText proc whole text
  | text :: rest => tildeText proc true text ++ .text false [':'] :: tildesBetween proc whole rest

/-- The later parts of a value, in which a tilde may follow a colon. -/
def laterTildes (proc : Proc) : List Part → List Part
  | [] => []
  | .text false text :: more =>
    match Text.splitOnChar ':' text with
    | first :: next :: rest =>
      .text false (first ++ [':']) :: tildesBetween proc more.isEmpty (next :: rest)
        ++ laterTildes proc more
    | _ => .text false text :: laterTildes proc more
  | part :: more => part :: laterTildes proc more

/-- The parts of a value that is assigned, with home directories instead of the tildes at its start
and after colons. -/
def valueTildes (proc : Proc) : List Part → List Part
  | .text false text :: more =>
    tildesBetween proc more.isEmpty (Text.splitOnChar ':' text) ++ laterTildes proc more
  | parts => laterTildes proc parts

/-- Does a word start with a name and an equals sign? -/
def isAssignment : List Part → Bool
  | .text false text :: _ =>
    let name := text.takeWhile isNameChar
    isName name && (text.drop name.length).head? = some '='
  | _ => false

/-- The parts of a word that holds an assignment, with home directories in its value. -/
def assignmentTildes (proc : Proc) : List Part → List Part
  | .text false text :: more =>
    let name := text.takeWhile (· ≠ '=')
    let value := (text.drop name.length).tail
    let rest := if value.isEmpty then more else .text false value :: more
    .text false (name ++ ['=']) :: valueTildes proc rest
  | parts => parts

/-! ### File names -/

/-- The components of a path, between slashes. -/
def components (field : List Mark) : List (List Mark) :=
  match field with
  | [] => [[]]
  | (quoted, c) :: rest =>
    let later := components rest
    if c = '/' then [] :: later
    else ((quoted, c) :: later.headD []) :: later.tail

/-- The names in a directory that match a pattern, in order. Names that start with a dot match only
a pattern that does. -/
def matchingNames (proc : Proc) (dir : ByteText) (pattern : List Mark) : List ByteText :=
  let place := if dir.isEmpty then "." else asString dir
  match proc.shared.files.list? proc.cwd place with
  | none => []
  | some names =>
    let shown := names.map ofString ++ [['.'], ['.', '.']]
    let dotted := (pattern.head?.map Prod.snd) = some '.'
    let hits := shown.filter fun name =>
      (dotted || name.head? ≠ some '.') && matchesField pattern name
    hits.mergeSort fun a b => String.ofList a ≤ String.ofList b

/-- The paths that components stand for, after the directory `dir`, which ends with a slash if it is
not empty. The flag says whether a pattern was matched already, so that the path has to exist. -/
def pathsFrom (proc : Proc) (dir : ByteText) (matched : Bool) : List (List Mark) → List ByteText
  | [] => []
  | [last] =>
    if isPattern last then (matchingNames proc dir last).map (dir ++ ·)
    else
      let path := dir ++ plain last
      if matched && !proc.shared.files.holds proc.cwd (asString path) then [] else [path]
  | component :: rest =>
    if isPattern component then
      let dirs := (matchingNames proc dir component).filter fun name =>
        proc.shared.files.isDirectory proc.cwd (asString (dir ++ name))
      dirs.flatMap fun name => pathsFrom proc (dir ++ name ++ ['/']) true rest
    else pathsFrom proc (dir ++ plain component ++ ['/']) matched rest

/-- The paths of the files that a field stands for, in order; the field itself if there are none. -/
def expandPath (proc : Proc) (field : List Mark) : List ByteText :=
  if proc.has 'f' || !isPattern field then [plain field]
  else
    match pathsFrom proc [] false (components field) with
    | [] => [plain field]
    | paths => paths

end JuliaSession.Shell
