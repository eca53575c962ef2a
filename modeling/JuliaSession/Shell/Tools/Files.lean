import JuliaSession.Clock
import JuliaSession.Shell.Builtin
import JuliaSession.Shell.Tools.Input
import JuliaSession.Shell.Tools.Modes

/-!
# Tools for files

The tools that make, remove, copy, move and change files and directories. Each of them gives its
status, and goes on after a file that it cannot handle.
-/

namespace JuliaSession.Shell

/-- The path of a place. -/
def pathOfPlace (place : Place) : String := "/" ++ String.intercalate "/" place

/-- Put the files after a change in place; a refused change is complained about. -/
def Call.change (call : Call) (about : ByteText) (found : Except OsFault FileTree) :
    ShellM Bool := do
  match found with
  | .ok files => do
    modifyShared fun shared => { shared with files }
    return true
  | .error fault => do
    call.warn (about ++ ": ".toList ++ reasonText fault.reason)
    return false

/-- Complain about what cannot be done, with the reason. -/
def Call.refused (call : Call) (about : ByteText) (reason : Errno) : ShellM Bool :=
  call.change about (.error ⟨reason, ""⟩)

/-- The last component of a path. -/
def baseName (path : ByteText) : ByteText :=
  match Text.dropRightWhile (· = '/') path with
  | [] => if path.isEmpty then [] else ['/']
  | trimmed => (trimmed.reverse.takeWhile (· ≠ '/')).reverse

/-- A path without its last component. -/
def dirName (path : ByteText) : ByteText :=
  let trimmed := Text.dropRightWhile (· = '/') path
  let above := Text.dropRightWhile (· ≠ '/') trimmed
  if trimmed.isEmpty then (if path.isEmpty then ['.'] else ['/'])
  else if above.isEmpty then ['.']
  else
    match Text.dropRightWhile (· = '/') above with
    | [] => ['/']
    | dir => dir

/-- A path, and those of the directories above it that it names, the shortest first; `fuel` bounds
their number. -/
def pathAndAbove : Nat → ByteText → List ByteText
  | 0, path => [path]
  | fuel + 1, path =>
    let dir := dirName path
    if dir = ['.'] ∨ dir = ['/'] ∨ dir = path then [path]
    else pathAndAbove fuel dir ++ [path]

/-- What is at a path. -/
def entryAt (path : ByteText) : ShellM (Except Errno Entry) := do
  let proc ← get
  let files := proc.shared.files
  match files.locate proc.cwd (asString path) with
  | .error reason => return .error reason
  | .ok place =>
    match files.entry? place with
    | none => return .error .noEntry
    | some entry => return .ok entry

/-- Ask a question on the error output; the input says yes with a line. -/
def Call.asks (call : Call) (question : ByteText) : ShellM Bool := do
  Shell.warn (call.name ++ ": ".toList ++ question ++ "? ".toList)
  match ← readLine 0 with
  | .ok (answer, _) => return answer.head?.any fun c => c = 'y' || c = 'Y'
  | .error _ => return false

/-! ### Directories -/

/-- Make a directory with the permission bits of a mode. -/
def makeDirectory (changes : Option (List ModeChange)) (path : ByteText) :
    ShellM (Except OsFault FileTree) := do
  let proc ← get
  let mode := match changes with
    | some changes => applyChanges changes true proc.mask 0o777
    | none => withoutBits 0o777 proc.mask
  let made := proc.shared.files.makeDir proc.cwd (asString path)
  return made.bind fun files => files.setMode proc.cwd (asString path) fun _ => mode

/-- Make directories. -/
def mkdirTool (name : ByteText) (args : List ByteText) : ShellM Nat := do
  let call ← callOf name
    [.value "m" "mode", .flag "p" "parents", .flag "v" "verbose", .flag "Z" "context"] 1
  let (given, paths) ← call.read args
  if paths.isEmpty then call.refuse "missing operand".toList
  let changes ← match givenValue? given "m" with
    | none => pure none
    | some mode =>
      match modeChanges? mode with
      | some changes => pure (some changes)
      | none => call.fail ("invalid mode ".toList ++ call.quoted mode)
  let cannot (path : ByteText) : ByteText :=
    "cannot create directory ".toList ++ call.quoted path
  let make (changes : Option (List ModeChange)) (path : ByteText) : ShellM Bool := do
    let done ← call.change (cannot path) (← makeDirectory changes path)
    if done && isGiven given "v" then
      sayLine (name ++ ": created directory ".toList ++ call.ticked path)
    return done
  forOperands paths fun path => do
    if !isGiven given "p" then make changes path
    else
      for above in (pathAndAbove path.length path).dropLast do
        match ← entryAt above with
        | .ok (.dir ..) => pure ()
        | .ok (.file ..) => return ← call.refused (cannot above) .notDirectory
        | .error _ => if !(← make none above) then return false
      match ← entryAt path with
      | .ok (.dir ..) => return true
      | _ => make changes path

/-- The paths below a directory, the deepest first. -/
def entriesBelow (files : FileTree) (place : Place) : List Place :=
  let below := files.entries.filterMap fun entry =>
    if place.isPrefixOf entry.1 ∧ place ≠ entry.1 then some entry.1 else none
  below.mergeSort fun a b => b.length ≤ a.length

/-- Remove what is at a place. -/
def removeAt (files : FileTree) (place : Place) : FileTree := files.remove "/" (pathOfPlace place)

/-- Remove a directory with all that it holds. -/
def removeTree (files : FileTree) (place : Place) : FileTree :=
  (entriesBelow files place ++ [place]).foldl removeAt files

/-- A path below a directory, whose own path and place are given. -/
def pathBelow (dir : ByteText) (root place : Place) : ByteText :=
  (place.drop root.length).foldl (fun path name =>
    (if path.getLast? = some '/' then path else path ++ ['/']) ++ ofString name) dir

/-- Remove files. -/
def rmTool (name : ByteText) (args : List ByteText) : ShellM Nat := do
  let call ← callOf name
    [.flag "f" "force", .flag "i" "", .flag "I" "", .maybe "" "interactive",
      .flag "" "one-file-system", .flag "" "no-preserve-root", .maybe "" "preserve-root",
      .flag "rR" "recursive", .flag "d" "dir", .flag "v" "verbose"] 1
  let (given, paths) ← call.read args
  let mode := lastGiven? given ["f", "i"]
  let lenient := mode.any fun option => option.1 = "f"
  let asks := mode.any fun option => option.1 = "i"
  let told (isDir : Bool) (path : ByteText) : ShellM Unit := do
    if isGiven given "v" then
      sayLine ((if isDir then "removed directory " else "removed ").toList ++ call.ticked path)
  if paths.isEmpty then
    if lenient then return 0 else call.refuse "missing operand".toList
  else forOperands paths fun path => do
    let proc ← get
    let files := proc.shared.files
    let refused (reason : Errno) : ShellM Bool :=
      call.refused ("cannot remove ".toList ++ call.ticked path) reason
    let deep := isGiven given "r"
    if deep && baseName path ∈ [['.'], ['.', '.']] then do
      call.warn ("refusing to remove '.' or '..' directory: skipping ".toList ++ call.ticked path)
      return false
    else
      match files.locate proc.cwd (asString path) with
      | .error reason =>
        if lenient && (reason = .noEntry || reason = .notDirectory) then return true
        else refused reason
      | .ok place =>
        match files.entry? place with
        | none => if lenient then return true else refused .noEntry
        | some (.dir ..) =>
          let isEmpty := (files.names place).isEmpty
          if !deep && !isGiven given "d" then refused .isDirectory
          else if deep && place.isEmpty && !isGiven given "no-preserve-root" then do
            call.warn "it is dangerous to operate recursively on '/'".toList
            call.warn "use --no-preserve-root to override this failsafe".toList
            return false
          else if !deep && !isEmpty then refused .notEmpty
          else
            if asks && !isEmpty then
              if !(← call.asks ("descend into directory ".toList ++ call.ticked path)) then
                return true
            for below in entriesBelow files place do
              let inner := pathBelow path place below
              let isDir := (files.entry? below).any Entry.isDir
              let kind := match files.entry? below with
                | some (.dir ..) => "directory "
                | some (.file [] ..) => "regular empty file "
                | _ => "regular file "
              let agreed ← if asks then
                  call.asks (("remove " ++ kind).toList ++ call.ticked inner)
                else pure true
              let now := (← get).shared.files
              if agreed && (!isDir || (now.names below).isEmpty) then
                let _ ← call.change [] (.ok (removeAt now below))
                told isDir inner
            if asks then
              if !(← call.asks ("remove directory ".toList ++ call.ticked path)) then return true
            let now := (← get).shared.files
            if !(now.names place).isEmpty then refused .notEmpty
            else
              let done ← call.change [] (.ok (removeAt now place))
              told true path
              return done
        | some (.file content ..) => do
          if asks then
            let kind := if content.isEmpty then "regular empty file " else "regular file "
            if !(← call.asks (("remove " ++ kind).toList ++ call.ticked path)) then return true
          let done ← call.change [] (.ok (files.remove proc.cwd (asString path)))
          told false path
          return done

/-- Remove empty directories. -/
def rmdirTool (name : ByteText) (args : List ByteText) : ShellM Nat := do
  let call ← callOf name
    [.flag "" "ignore-fail-on-non-empty", .flag "p" "parents", .flag "p" "path",
      .flag "v" "verbose"] 1
  let (given, paths) ← call.read args
  if paths.isEmpty then call.refuse "missing operand".toList
  let removeOne (kind path : ByteText) : ShellM Bool := do
    if isGiven given "v" then
      sayLine (name ++ ": removing directory, ".toList ++ call.ticked path)
    let refused (reason : Errno) : ShellM Bool :=
      call.refused ("failed to remove ".toList ++ kind ++ call.ticked path) reason
    let proc ← get
    let files := proc.shared.files
    match files.locate proc.cwd (asString path) with
    | .error reason => refused reason
    | .ok place =>
      match files.entry? place with
      | none => refused .noEntry
      | some (.file ..) => refused .notDirectory
      | some (.dir ..) =>
        if (files.names place).isEmpty then call.change [] (.ok (removeAt files place))
        else if isGiven given "ignore-fail-on-non-empty" then return true
        else refused .notEmpty
  forOperands paths fun path => do
    if !(← removeOne [] path) then return false
    if isGiven given "p" then
      for above in (pathAndAbove path.length path).dropLast.reverse do
        if !(← removeOne "directory ".toList above) then return false
    return true

/-! ### Times -/

/-- Two digits at the start of a text. -/
def twoDigits? : ByteText → Option (Nat × ByteText)
  | a :: b :: rest =>
    if a.isDigit && b.isDigit then some (digitsValue [a, b], rest) else none
  | _ => none

/-- A date with a time of day, in nanoseconds since the start of 1970; nothing if there is no such
day or time. -/
def instant? (year month day hour minute second : Nat) : Option Int :=
  let days := Clock.Date.days ⟨year, month, day⟩
  if Clock.date days = ⟨year, month, day⟩ && hour < 24 && minute < 60 && second ≤ 60 then
    some ((days * 86400 + (hour * 3600 + minute * 60 + second : Nat)) * 1000000000)
  else none

/-- The time that a stamp says: month, day, hour and minute in two digits each, perhaps after the
year, which is the present one otherwise, and before a point and the second. -/
def stampTime? (now : Int) (text : ByteText) : Option Int := do
  let digits := text.takeWhile Char.isDigit
  let second ← match text.drop digits.length with
    | [] => some 0
    | ['.', a, b] => (twoDigits? [a, b]).map Prod.fst
    | _ => none
  let found : Nat × ByteText ← match digits.length with
    | 8 => some ((Clock.date (now / 86400000000000)).year.toNat, digits)
    | 10 => (twoDigits? digits).map fun (n, rest) => (if n < 69 then 2000 + n else 1900 + n, rest)
    | 12 => some (digitsValue (digits.take 4), digits.drop 4)
    | _ => none
  let (year, rest) := found
  let (month, rest) ← twoDigits? rest
  let (day, rest) ← twoDigits? rest
  let (hour, rest) ← twoDigits? rest
  let (minute, _) ← twoDigits? rest
  instant? year month day hour minute second

/-- The time that a text says: seconds after an at sign, or a date in digits with a time of day; a
few words are about the present. -/
def saidTime? (now : Int) (text : ByteText) : Option Int :=
  match text with
  | '@' :: seconds =>
    let negative := seconds.head? = some '-'
    let (whole, places, rest) := pointed 10 (if negative then seconds.tail else seconds)
    if whole.isEmpty || !rest.isEmpty then none
    else
      let nanos := (places ++ List.replicate 9 '0').take 9
      let n : Int := digitsValue (whole ++ nanos)
      some (if negative then -n else n)
  | _ =>
    match (String.ofList text).trimAscii.toString with
    | "" | "now" | "today" => some now
    | "yesterday" => some (now - 86400000000000)
    | "tomorrow" => some (now + 86400000000000)
    | _ => do
      let number (digits : ByteText) : Option Nat :=
        if digits.isEmpty || !digits.all Char.isDigit then none else some (digitsValue digits)
      let isBetween (c : Char) : Bool := c = ' ' || c = 'T'
      let date := text.takeWhile fun c => !isBetween c
      let rest := text.drop (date.length + 1)
      match Text.splitOnChar '-' date with
      | [year, month, day] =>
        let year ← number year
        let month ← number month
        let day ← number day
        let time := Text.dropRightWhile (· = ' ') (Text.dropRightWhile (· = 'Z') rest)
        let time := if Text.endsWith time "UTC".toList then
            Text.dropRightWhile (· = ' ') (time.take (time.length - 3)) else time
        match Text.splitOnChar ':' time with
        | [[]] => instant? year month day 0 0 0
        | [hour, minute] => instant? year month day (← number hour) (← number minute) 0
        | [hour, minute, second] =>
          instant? year month day (← number hour) (← number minute) (← number second)
        | _ => none
      | _ => none

/-- Make files that do not exist yet, and stamp them with a time. -/
def touchTool (name : ByteText) (args : List ByteText) : ShellM Nat := do
  let call ← callOf name
    [.value "" "time", .flag "c" "no-create", .value "d" "date", .value "r" "reference",
      .flag "h" "no-dereference", .flag "a" "", .flag "f" "", .flag "m" "", .value "t" ""] 1
  let (given, paths) ← call.read args
  let now := (← get).shared.files.now
  let badDate {α : Type} (text : ByteText) : ShellM α :=
    call.fail ("invalid date format ".toList ++ call.quoted text)
  let mut time? : Option Int := none
  if let some stamp := givenValue? given "t" then
    match stampTime? now stamp with
    | some time => time? := some time
    | none => badDate stamp
  if let some path := givenValue? given "r" then
    match ← entryAt path with
    | .ok entry => time? := some entry.changed
    | .error reason =>
      call.fail ("failed to get attributes of ".toList ++ call.ticked path ++ ": ".toList
        ++ reasonText reason)
  if let some text := givenValue? given "d" then
    match saidTime? (time?.getD now) text with
    | some time => time? := some time
    | none => badDate text
  if paths.isEmpty then call.refuse "missing file operand".toList
  let onlyAccess := isGiven given "a" && !isGiven given "m"
  forOperands paths fun path => do
    let proc ← get
    let files := proc.shared.files
    let exists? := files.find? proc.cwd (asString path)
    if isAnyGiven given ["c", "h"] && exists?.isNone then return true
    -- a slash at the end asks for a directory
    else if 1 < path.length && path.getLast? = some '/' && !exists?.any Entry.isDir then
      call.refused ("setting times of ".toList ++ call.ticked path)
        (if files.holds proc.cwd (asString (Text.dropRightWhile (· = '/') path)) then .notDirectory
          else .noEntry)
    else
      let cannot := "cannot touch ".toList ++ call.ticked path
      let stamped (files : FileTree) : Except OsFault FileTree :=
        match time? with
        | some time =>
          if onlyAccess then .ok files
          else files.adjust proc.cwd (asString path) (Entry.withTime time)
        | none => .ok files
      match exists? with
      | some (.dir ..) =>
        call.change cannot ((files.adjust proc.cwd (asString path)
          (Entry.withTime (if onlyAccess then (exists?.map Entry.changed).getD now else now))).bind
          stamped)
      | some (.file ..) =>
        if onlyAccess then return true
        else call.change cannot ((files.append proc.cwd (asString path) []).bind stamped)
      | none =>
        match ← writePath .append path [] with
        | none => call.change cannot (stamped (← get).shared.files)
        | some reason => call.refused cannot reason

/-! ### Copies -/

/-- What is done with a target that exists. -/
inductive OnTarget where
  /-- It is replaced. -/
  | replace
  /-- It is kept. -/
  | keep
  /-- It is replaced if the input agrees. -/
  | ask
  deriving DecidableEq, Repr

/-- How files are copied or moved. -/
structure Transfer where
  /-- Is the source removed? -/
  moves : Bool
  /-- Are directories copied with what they hold? -/
  deep : Bool
  /-- What is done with a target that exists. -/
  onTarget : OnTarget
  /-- Are targets kept that are not older? -/
  onlyNewer : Bool
  /-- Do copies have the bits and times of their sources? -/
  preserves : Bool
  /-- Is every step reported? -/
  verbose : Bool
  /-- Does a target that is a directory stand for itself? -/
  plainTarget : Bool
  /-- The directory that is the target, if it was named as such. -/
  into : Option ByteText

/-- The path that a file gets in a directory: its own name there. -/
def pathInside (dir source : ByteText) : ByteText :=
  (if dir.getLast? = some '/' then dir else dir ++ ['/']) ++ baseName source

/-- Copy what is at one place to another one. A file that is there keeps its bits. -/
def Transfer.copyEntry (way : Transfer) (mask : Nat) (entry : Entry) (target : Place)
    (files : FileTree) : FileTree :=
  let old := files.entry? target
  let mode := match old with
    | some old => if way.preserves || way.moves then entry.mode else old.mode
    | none => if way.preserves || way.moves then entry.mode else withoutBits entry.mode mask
  let changed := if way.preserves || way.moves then entry.changed else files.now
  match entry, old with
  | .dir .., some (.dir ..) => files
  | entry, _ => files.put target ((entry.withMode mode).withTime changed)

/-- Copy what is at one place to another one, with all that it holds; a copy does not hold itself.
-/
def Transfer.copyTree (way : Transfer) (mask : Nat) (source target : Place) (files : FileTree) :
    FileTree :=
  let found := files.entries.filter fun (place, _) =>
    source.isPrefixOf place && !target.isPrefixOf place
  found.foldl (fun files (place, entry) =>
    way.copyEntry mask entry (target ++ place.drop source.length) files) files

/-- The sources and the target of a call. -/
def Call.ends (call : Call) (way : Transfer) (paths : List ByteText) :
    ShellM (List ByteText × ByteText) := do
  match way.into, paths.dropLast, paths.getLast? with
  | _, _, none => call.refuse "missing file operand".toList
  | some dir, _, _ => do
    match ← entryAt dir with
    | .ok (.dir ..) => return (paths, dir)
    | .ok (.file ..) =>
      call.fail ("target directory ".toList ++ call.ticked dir ++ ": Not a directory".toList)
    | .error reason =>
      call.fail ("target directory ".toList ++ call.ticked dir ++ ": ".toList ++ reasonText reason)
  | none, [], some only =>
    call.refuse ("missing destination file operand after ".toList ++ call.ticked only)
  | none, sources, some target => do
    if way.plainTarget then
      match sources.drop 1 with
      | [] => pure ()
      | _ => call.refuse ("extra operand ".toList ++ call.ticked target)
    else if 1 < sources.length then
      match ← entryAt target with
      | .ok (.dir ..) => pure ()
      | .ok (.file ..) =>
        call.fail ("target ".toList ++ call.ticked target ++ ": Not a directory".toList)
      | .error reason =>
        call.fail ("target ".toList ++ call.ticked target ++ ": ".toList ++ reasonText reason)
    return (sources, target)

/-- Report the copies of a directory and what it holds. -/
def Call.tellCopies (call : Call) (files : FileTree) (source target : ByteText)
    (fromPlace toPlace : Place) : ShellM Unit := do
  for (place, entry) in files.entries do
    if fromPlace.isPrefixOf place && !toPlace.isPrefixOf place then
      let goal := toPlace ++ place.drop fromPlace.length
      unless entry.isDir && (files.entry? goal).isSome do
        sayLine (call.ticked (pathBelow source fromPlace place) ++ " -> ".toList
          ++ call.ticked (pathBelow target fromPlace place))

/-- Copy or move one source to its goal. -/
def Call.transferOne (call : Call) (way : Transfer) (source goal : ByteText) : ShellM Bool := do
  let proc ← get
  let files := proc.shared.files
  match ← entryAt source with
  | .error reason => call.refused ("cannot stat ".toList ++ call.ticked source) reason
  | .ok entry =>
    if entry.isDir && !way.deep then
      call.warn ("-r not specified; omitting directory ".toList ++ call.ticked source)
      return false
    -- a directory that is made may have a slash at its end
    let bare := Text.dropRightWhile (· = '/') goal
    let found := if entry.isDir && !bare.isEmpty then files.locate proc.cwd (asString bare)
      else files.locateFile proc.cwd (asString goal)
    match files.locate proc.cwd (asString source), found with
    | .ok fromPlace, .ok toPlace =>
      let old := files.entry? toPlace
      if way.moves && fromPlace ≠ toPlace && fromPlace.isPrefixOf toPlace then
        call.warn ("cannot move ".toList ++ call.ticked source
          ++ " to a subdirectory of itself, ".toList ++ call.ticked goal)
        return false
      else if fromPlace = toPlace && !entry.isDir then
        if way.onTarget = .keep then return true
        call.warn (call.ticked source ++ " and ".toList ++ call.ticked goal
          ++ " are the same file".toList)
        return false
      else if fromPlace = toPlace then
        call.warn (call.ticked source ++ " and ".toList ++ call.ticked goal
          ++ " are the same file".toList)
        return false
      else if way.onTarget = .keep && old.any (fun old => !old.isDir || !entry.isDir) then
        return true
      else if way.onlyNewer && !entry.isDir && old.any (fun old => entry.changed ≤ old.changed) then
        return true
      else if entry.isDir && old.any (fun old => !old.isDir) then
        call.warn ("cannot overwrite non-directory ".toList ++ call.ticked goal
          ++ " with directory ".toList ++ call.ticked source)
        return false
      else if !entry.isDir && old.any Entry.isDir then
        call.warn ("cannot overwrite directory ".toList ++ call.ticked goal
          ++ " with non-directory".toList)
        return false
      else if way.moves && old.any Entry.isDir && !(files.names toPlace).isEmpty then
        call.refused ("cannot overwrite ".toList ++ call.ticked goal) .notEmpty
      else
        if way.onTarget = .ask && old.any (fun old => !old.isDir) then
          if !(← call.asks ("overwrite ".toList ++ call.ticked goal)) then return false
        let verb : ByteText :=
          if way.moves then "cannot move ".toList ++ call.ticked source ++ " to ".toList
          else if entry.isDir then "cannot create directory ".toList
          else "cannot create regular file ".toList
        match (if toPlace.isEmpty then some (.dir 0o755 0) else files.entry? toPlace.dropLast) with
        | some (.dir ..) =>
          if way.verbose then
            if way.moves then
              sayLine ("renamed ".toList ++ call.ticked source ++ " -> ".toList
                ++ call.ticked goal)
            else call.tellCopies files source goal fromPlace toPlace
          let copied := way.copyTree proc.mask fromPlace toPlace files
          let left := if way.moves then removeTree copied fromPlace else copied
          let done ← call.change [] (.ok left)
          if fromPlace.isPrefixOf toPlace && entry.isDir then
            call.warn ("cannot copy a directory, ".toList ++ call.ticked source
              ++ ", into itself, ".toList ++ call.ticked goal)
            return false
          return done
        | some (.file ..) => call.refused ("cannot stat ".toList ++ call.ticked goal) .notDirectory
        | none => call.refused (verb ++ call.ticked goal) .noEntry
    | _, .error reason =>
      let verb : ByteText :=
        if way.moves then "cannot move ".toList ++ call.ticked source ++ " to ".toList
        else if entry.isDir then "cannot create directory ".toList
        else "cannot create regular file ".toList
      let isFile := files.isFile proc.cwd (asString bare)
      if reason = .notDirectory ∨ isFile then
        call.refused ("cannot stat ".toList ++ call.ticked goal) .notDirectory
      else
        call.refused (verb ++ call.ticked goal)
          (if reason = .isDirectory then .notDirectory else reason)
    | .error reason, _ => call.refused ("cannot stat ".toList ++ call.ticked source) reason

/-- Copy or move files. -/
def Call.transfer (call : Call) (way : Transfer) (paths : List ByteText) : ShellM Nat := do
  let (sources, target) ← call.ends way paths
  forOperands sources fun source => do
    let isDir := match ← entryAt target with
      | .ok (.dir ..) => !way.plainTarget
      | _ => false
    let goal := if isDir then pathInside target source else target
    -- what a device holds is copied, and what is copied to it is written
    if !way.moves && ((← isDevice source) || (← isDevice goal)) then
      match ← readPath source with
      | .error reason => call.refused ("cannot stat ".toList ++ call.ticked source) reason
      | .ok text =>
        match ← writePath .write goal text with
        | none => return true
        | some .noSpace => call.refused ("error writing ".toList ++ call.ticked goal) .noSpace
        | some reason =>
          call.refused ("cannot create regular file ".toList ++ call.ticked goal) reason
    else call.transferOne way source goal
where
  /-- Is a path that of a device? -/
  isDevice (path : ByteText) : ShellM Bool := do
    return (device? (Path.absolute (← get).cwd (asString path))).isSome

/-- What is done with targets that exist, by the last option about them, and whether newer ones are
kept. -/
def Call.targets (call : Call) (given : List Given) : ShellM (OnTarget × Bool) := do
  let update? ← match givenValue? given "update" with
    | none => pure none
    | some [] => pure (some (OnTarget.replace, true))
    | some value =>
      pure (some (← call.choice "update" [("all", (OnTarget.replace, false)),
        ("none", (.keep, false)), ("older", (.replace, true))] value))
  let newer := isGiven given "u" || update?.any fun update => update.2
  match lastGiven? given ["n", "i", "f"] with
  | some ("n", _) => return (.keep, newer)
  | some ("i", _) => return (.ask, newer)
  | _ => return ((update?.map Prod.fst).getD .replace, newer)

/-- Copy files. -/
def cpTool (name : ByteText) (args : List ByteText) : ShellM Nat := do
  let call ← callOf name
    [.flag "a" "archive", .flag "" "attributes-only", .maybe "" "backup",
      .flag "" "copy-contents", .flag "d" "", .flag "L" "dereference", .flag "f" "force",
      .flag "H" "", .flag "i" "interactive", .flag "l" "link", .flag "n" "no-clobber",
      .flag "P" "no-dereference", .value "" "no-preserve", .flag "T" "no-target-directory",
      .flag "x" "one-file-system", .maybe "" "preserve", .flag "p" "", .flag "rR" "recursive",
      .flag "" "remove-destination", .value "t" "target-directory", .maybe "" "update",
      .flag "u" "", .flag "v" "verbose"] 1
  let (given, paths) ← call.read args
  let (onTarget, onlyNewer) ← call.targets given
  call.transfer
    { moves := false
      deep := isAnyGiven given ["r", "a"]
      onTarget, onlyNewer
      preserves := isAnyGiven given ["p", "a", "preserve"]
      verbose := isGiven given "v"
      plainTarget := isGiven given "T"
      into := givenValue? given "t" } paths

/-- Move files. -/
def mvTool (name : ByteText) (args : List ByteText) : ShellM Nat := do
  let call ← callOf name
    [.maybe "" "backup", .flag "f" "force", .flag "i" "interactive", .flag "n" "no-clobber",
      .flag "T" "no-target-directory", .value "t" "target-directory", .maybe "" "update",
      .flag "u" "", .flag "v" "verbose"] 1
  let (given, paths) ← call.read args
  let (onTarget, onlyNewer) ← call.targets given
  call.transfer
    { moves := true
      deep := true
      onTarget, onlyNewer
      preserves := true
      verbose := isGiven given "v"
      plainTarget := isGiven given "T"
      into := givenValue? given "t" } paths

/-! ### Permission bits -/

/-- Change the permission bits of what is at a path, and report it if that is asked for. -/
def Call.changeMode (call : Call) (given : List Given) (changes : List ModeChange)
    (fixed : Option Nat) (surprises : Bool) (path : ByteText) : ShellM Bool := do
  let proc ← get
  match ← entryAt path with
  | .error reason =>
    if isGiven given "f" then return false
    else call.refused ("cannot access ".toList ++ call.ticked path) reason
  | .ok entry =>
    let mode := fixed.getD (applyChanges changes entry.isDir proc.mask entry.mode)
    let expected := fixed.getD (applyChanges changes entry.isDir 0 entry.mode)
    let shown (mode : Nat) : ByteText := octal 4 mode ++ " (".toList ++ modeSigns mode ++ [')']
    let done ← call.change [] (proc.shared.files.setMode proc.cwd (asString path) fun _ => mode)
    let isChange := mode ≠ entry.mode
    if isGiven given "v" || (isGiven given "c" && isChange) then
      sayLine ("mode of ".toList ++ call.ticked path
        ++ (if isChange then " changed from ".toList ++ shown entry.mode ++ " to ".toList
          else " retained as ".toList) ++ shown mode)
    if surprises && withoutBits mode expected ≠ 0 then
      call.warn (call.named path ++ ": new permissions are ".toList ++ modeSigns mode
        ++ ", not ".toList ++ modeSigns expected)
      return false
    return done

/-- Change permission bits. -/
def chmodTool (name : ByteText) (args : List ByteText) : ShellM Nat := do
  let call ← callOf name
    [.flag "c" "changes", .flag "R" "recursive", .flag "" "no-preserve-root",
      .flag "" "preserve-root", .flag "f" "quiet", .value "" "reference", .flag "f" "silent",
      .flag "v" "verbose"] 1
  -- a mode that takes permissions away looks like an option
  let isMode (arg : ByteText) : Bool :=
    arg.head? = some '-' && arg.tail.head?.any fun c => c ∈ "rwxXstugoa,+=01234567".toList
  let before := args.takeWhile (· ≠ ['-', '-'])
  let modes := before.filter isMode
  let (given, words) ← call.read (before.filter (!isMode ·) ++ args.drop before.length)
  let reference := givenValue? given "reference"
  let (mode?, paths) := if reference.isSome then (none, words)
    else if !modes.isEmpty then (some (Text.joinWith [','] modes), words)
    else (words.head?, words.tail)
  if paths.isEmpty then
    match mode? with
    | some mode =>
      if modes.isEmpty then call.refuse ("missing operand after ".toList ++ call.quoted mode)
      else call.refuse "missing operand".toList
    | none => call.refuse "missing operand".toList
  let fixed ← match reference with
    | none => pure none
    | some path =>
      match ← entryAt path with
      | .ok entry => pure (some entry.mode)
      | .error reason =>
        call.fail ("failed to get attributes of ".toList ++ call.ticked path ++ ": ".toList
          ++ reasonText reason)
  let changes ← match mode? with
    | none => pure []
    | some mode =>
      match modeChanges? mode with
      | some changes => pure changes
      | none => call.refuse ("invalid mode: ".toList ++ call.quoted mode)
  forOperands paths fun path => do
    let proc ← get
    let mut done ← call.changeMode given changes fixed (!modes.isEmpty) path
    if isGiven given "R" then
      if let .ok place := proc.shared.files.locate proc.cwd (asString path) then
        for below in proc.shared.files.entries.map Prod.fst do
          if place.isPrefixOf below && place ≠ below then
            unless ← call.changeMode given changes fixed (!modes.isEmpty)
                (pathBelow path place below) do
              done := false
    return done

end JuliaSession.Shell
