import JuliaSession.Assoc
import JuliaSession.Machine.Fault
import JuliaSession.Path.Posix
import JuliaSession.Text.Blank
import JuliaSession.Text.Utf8

/-!
# Files

The files of a machine as a table from places to entries, where a place is the list of names that
lead to it from the root. `FileTree.locate` follows a path text from a directory: every place on the
way has to be a directory, the last one need not exist. All other operations are a step at the place
it finds.

Every change of a file stamps it with the next time of the tree's own clock, which is later than any
time that was given to a file explicitly.
-/

namespace JuliaSession

/-- The names that lead to a file from the root. -/
abbrev Place := List String

/-- What is at a place. -/
inductive Entry where
  /-- A file with its bytes, permission bits and time of last change in nanoseconds. -/
  | file (content : Text.Utf8.Bytes) (mode : Nat) (changed : Int)
  /-- A directory with its permission bits and time of last change in nanoseconds. -/
  | dir (mode : Nat) (changed : Int)
  deriving DecidableEq, Repr

/-- The time of the last change. -/
def Entry.changed : Entry → Int
  | file _ _ changed => changed
  | dir _ changed => changed

/-- The permission bits. -/
def Entry.mode : Entry → Nat
  | file _ mode _ => mode
  | dir mode _ => mode

/-- The entry with other permission bits. -/
def Entry.withMode (mode : Nat) : Entry → Entry
  | file content _ changed => file content mode changed
  | dir _ changed => dir mode changed

/-- The entry with another time of last change. -/
def Entry.withTime (changed : Int) : Entry → Entry
  | file content mode _ => file content mode changed
  | dir mode _ => dir mode changed

/-- Is this a directory? -/
def Entry.isDir : Entry → Bool
  | file .. => false
  | dir .. => true

/-- The files of a machine. -/
structure FileTree where
  /-- The entries below the root, in the order they were made. -/
  entries : Assoc Place Entry
  /-- The number of changes so far. -/
  changes : Nat
  deriving Inhabited

namespace FileTree

open Text (split)

/-- A tree with the root only. -/
def empty : FileTree := ⟨[], 0⟩

/-- What is at a place; the root is always a directory. -/
def entry? (tree : FileTree) (place : Place) : Option Entry :=
  if place = [] then some (.dir 0o755 0) else Assoc.get? place tree.entries

/-- The time of the next change, in nanoseconds. -/
def now (tree : FileTree) : Int := 1800000000 * 1000000000 + tree.changes

/-- The tree with `entry` at `place`. -/
def put (tree : FileTree) (place : Place) (entry : Entry) : FileTree :=
  ⟨Assoc.insert place entry tree.entries, tree.changes + 1⟩

/-- The most bytes of a name. -/
def nameLimit : Nat := 255

/-- The most bytes of a path. -/
def pathLimit : Nat := 4095

/-- Follow the segments of a path from `place`. -/
def walk (tree : FileTree) (place : Place) : List String → Except Errno Place
  | [] => .ok place
  | seg :: rest =>
    match tree.entry? place with
    | none => .error .noEntry
    | some (.file ..) => .error .notDirectory
    | some (.dir ..) =>
      if seg = "" ∨ seg = "." then walk tree place rest
      else if seg = ".." then walk tree place.dropLast rest
      else if nameLimit < seg.utf8ByteSize then .error .nameTooLong
      else walk tree (place ++ [seg]) rest

/-- The names in an absolute path. -/
def placeOf (path : String) : Place := (split path '/').filter (· ≠ "")

/-- The place that a path names when seen from the directory `cwd`. -/
def locate (tree : FileTree) (cwd path : String) : Except Errno Place :=
  if Char.ofNat 0 ∈ path.toList then .error .embeddedNul
  else if path = "" then .error .noEntry
  else if pathLimit < path.utf8ByteSize then .error .nameTooLong
  else walk tree (if Path.isAbsolute path.toList then [] else placeOf cwd) (split path '/')

/-- What a path names, if anything. -/
def find? (tree : FileTree) (cwd path : String) : Option Entry :=
  match tree.locate cwd path with
  | .ok place => tree.entry? place
  | .error _ => none

/-- What a path names, if anything. Only a path that is too long to be looked at is at fault. -/
def probe (tree : FileTree) (cwd path : String) : Except OsFault (Option Entry) :=
  match tree.locate cwd path with
  | .ok place => .ok (tree.entry? place)
  | .error .nameTooLong => .error ⟨.nameTooLong, path⟩
  | .error _ => .ok none

/-- Does the path name anything? -/
def holds (tree : FileTree) (cwd path : String) : Bool := (tree.find? cwd path).isSome

/-- Does the path name a directory? -/
def isDirectory (tree : FileTree) (cwd path : String) : Bool :=
  (tree.find? cwd path).any Entry.isDir

/-- Does the path name a file? -/
def isFile (tree : FileTree) (cwd path : String) : Bool :=
  match tree.find? cwd path with
  | some (.file ..) => true
  | _ => false

/-- May a file with these permission bits be executed? -/
def mayExecute (mode : Nat) : Bool := mode / 64 % 2 = 1 || mode / 8 % 2 = 1 || mode % 2 = 1

/-- Does the path name a file that may be executed? -/
def isExecutable (tree : FileTree) (cwd path : String) : Bool :=
  match tree.find? cwd path with
  | some (.file _ mode _) => mayExecute mode
  | _ => false

/-- What a path names; a path that names nothing is at fault. -/
def stat (tree : FileTree) (cwd path : String) : Except OsFault Entry :=
  match tree.locate cwd path with
  | .error reason => .error ⟨reason, path⟩
  | .ok place =>
    match tree.entry? place with
    | none => .error ⟨.noEntry, path⟩
    | some entry => .ok entry

/-- The bytes of a file. -/
def read (tree : FileTree) (cwd path : String) : Except OsFault Text.Utf8.Bytes :=
  match tree.locate cwd path with
  | .error reason => .error ⟨reason, path⟩
  | .ok place =>
    match tree.entry? place with
    | none => .error ⟨.noEntry, path⟩
    | some (.dir ..) => .error ⟨.isDirectory, path⟩
    | some (.file content _ _) => .ok content

/-- The place that a path names for a file to be written. A slash at the end of the path asks for a
directory, whatever is there. -/
def locateFile (tree : FileTree) (cwd path : String) : Except Errno Place :=
  let bare := Text.dropRightWhile (· = '/') path.toList
  if bare.length = path.length ∨ bare = [] then tree.locate cwd path
  else do
    let _ ← tree.locate cwd (String.ofList bare)
    throw .isDirectory

/-- Change the content of a file by `change`; a file that does not exist is made empty first. -/
def modify (tree : FileTree) (cwd path : String)
    (change : Text.Utf8.Bytes → Text.Utf8.Bytes) : Except OsFault FileTree :=
  match tree.locateFile cwd path with
  | .error reason => .error ⟨reason, path⟩
  | .ok place =>
    match tree.entry? place with
    | some (.dir ..) => .error ⟨.isDirectory, path⟩
    | some (.file content mode _) => .ok (tree.put place (.file (change content) mode tree.now))
    | none =>
      match tree.entry? place.dropLast with
      | some (.dir ..) => .ok (tree.put place (.file (change []) 0o644 tree.now))
      | some (.file ..) => .error ⟨.notDirectory, path⟩
      | none => .error ⟨.noEntry, path⟩

/-- The tree with the changes made in it that lead from `before` to `after`. -/
def replay (tree before after : FileTree) : FileTree :=
  let gone := before.entries.filter fun entry => (after.entry? entry.1).isNone
  let fresh := after.entries.filter fun entry => before.entry? entry.1 ≠ some entry.2
  let cleared := gone.foldl (fun entries entry => Assoc.erase entry.1 entries) tree.entries
  fresh.foldl (fun tree entry => tree.put entry.1 entry.2) { tree with entries := cleared }

/-- Write a file, replacing its content. -/
def write (tree : FileTree) (cwd path : String) (content : Text.Utf8.Bytes) :
    Except OsFault FileTree :=
  tree.modify cwd path fun _ => content

/-- Write at the end of a file. -/
def append (tree : FileTree) (cwd path : String) (content : Text.Utf8.Bytes) :
    Except OsFault FileTree :=
  tree.modify cwd path (· ++ content)

/-- Change what is known of a file or directory, without a new time of last change. -/
def adjust (tree : FileTree) (cwd path : String) (change : Entry → Entry) :
    Except OsFault FileTree :=
  match tree.locate cwd path with
  | .error reason => .error ⟨reason, path⟩
  | .ok place =>
    match tree.entry? place with
    | none => .error ⟨.noEntry, path⟩
    | some entry => .ok { tree with entries := Assoc.insert place (change entry) tree.entries }

/-- Change the permission bits of a file or directory. -/
def setMode (tree : FileTree) (cwd path : String) (change : Nat → Nat) : Except OsFault FileTree :=
  tree.adjust cwd path fun entry => entry.withMode (change entry.mode)

/-- Make a directory, which a slash at the end of the path asks for in any case. -/
def makeDir (tree : FileTree) (cwd path : String) : Except OsFault FileTree :=
  let bare := String.ofList (Text.dropRightWhile (· = '/') path.toList)
  match tree.locate cwd (if bare = "" then path else bare) with
  | .error reason => .error ⟨reason, path⟩
  | .ok place =>
    match tree.entry? place, tree.entry? place.dropLast with
    | some _, _ => .error ⟨.taken, path⟩
    | none, some (.dir ..) => .ok (tree.put place (.dir 0o755 tree.now))
    | none, some (.file ..) => .error ⟨.notDirectory, path⟩
    | none, none => .error ⟨.noEntry, path⟩

/-- Make a directory; an existing one is left alone. -/
def ensureDir (tree : FileTree) (cwd path : String) : Except OsFault FileTree :=
  match tree.makeDir cwd path with
  | .ok tree => .ok tree
  | .error fault => if tree.isDirectory cwd path then .ok tree else .error fault

/-- Make a directory and the missing ones above it, `depth` of them at most; an existing directory
is left alone. -/
def makeDirsWithin (tree : FileTree) (cwd : String) : Nat → String → Except OsFault FileTree
  | 0, path => tree.ensureDir cwd path
  | depth + 1, path =>
    match tree.makeDir cwd path with
    | .error ⟨.noEntry, _⟩ =>
      match makeDirsWithin tree cwd depth (Path.parent path) with
      | .ok tree => tree.ensureDir cwd path
      | .error fault => .error fault
    | _ => tree.ensureDir cwd path

/-- Make a directory and the missing ones above it. -/
def makeDirs (tree : FileTree) (cwd path : String) : Except OsFault FileTree :=
  let path := Path.tidy path
  tree.makeDirsWithin cwd (split path '/').length path

/-- The names in a directory, in the order they were made. -/
def names (tree : FileTree) (place : Place) : List String :=
  tree.entries.filterMap fun (p, _) =>
    if p.dropLast = place then p.getLast? else none

/-- The names in the directory that a path names. -/
def list? (tree : FileTree) (cwd path : String) : Option (List String) :=
  match tree.locate cwd path with
  | .error _ => none
  | .ok place => if (tree.entry? place).any Entry.isDir then some (tree.names place) else none

/-- Remove the file that a path names, if there is one. -/
def remove (tree : FileTree) (cwd path : String) : FileTree :=
  match tree.locate cwd path with
  | .error _ => tree
  | .ok place => ⟨Assoc.erase place tree.entries, tree.changes + 1⟩

end FileTree

end JuliaSession
