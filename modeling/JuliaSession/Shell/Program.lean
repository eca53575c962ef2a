import JuliaSession.Shell.State
import JuliaSession.Text.Blank

/-!
# Programs

Executable files are scripts with an interpreter line, or tools, whose content names them.
`programPath` finds the file of a program's name, and `image?` says which tool the execution of a
file comes down to. `launchable?` is the image for a shell, which takes a file of no known kind for
a script of its own.
-/

namespace JuliaSession.Shell

/-- What the execution of a file is. -/
structure Image where
  /-- The tool that runs. -/
  tool : String
  /-- The name it is called by. -/
  name : ByteText
  /-- Its arguments. -/
  args : List ByteText
  deriving Repr

/-- What the content of a tool starts with; the tool's name follows. -/
def toolMark : Text.Utf8.Bytes := [0x7F, 0x45, 0x4C, 0x46]

/-- The most files that an execution passes through: scripts with an interpreter line, and at last a
tool. -/
def scriptLimit : Nat := 6

/-- What the execution of a file with a name and arguments is: a script hands over to its
interpreter, with the argument of its first line, its own path and the arguments. -/
def image? (files : FileTree) (cwd : String) :
    Nat → String → ByteText → List ByteText → Except Errno Image
  | 0, _, _, _ => .error .tooManyLinks
  | depth + 1, path, name, args =>
    match files.locate cwd path with
    | .error reason => .error reason
    | .ok place =>
      match files.entry? place with
      | none => .error .noEntry
      | some (.dir ..) => .error .denied
      | some (.file content mode _) =>
        if !FileTree.mayExecute mode then .error .denied
        else if content.take toolMark.length = toolMark then
          .ok ⟨Text.Utf8.decodeLossy (content.drop toolMark.length), name, args⟩
        else
          match ofBytes content with
          | '#' :: '!' :: rest =>
            let isBlank (c : Char) : Bool := c = ' ' || c = '\t'
            let line := Text.dropRightWhile isBlank
              ((rest.takeWhile (· ≠ '\n')).dropWhile isBlank)
            let interpreter := line.takeWhile fun c => !isBlank c
            let option := (line.drop interpreter.length).dropWhile isBlank
            -- the depth bounds a chain of interpreters that are scripts themselves
            if interpreter.isEmpty then .error .execFormat
            else image? files cwd depth (asString interpreter) interpreter
              ((if option.isEmpty then [] else [option]) ++ ofString path :: args)
          | _ => .error .execFormat

/-- The paths at which a program with this name may be: a name with a slash is a path, any other one
stands in the given directories. -/
def candidates (path name : String) : List String :=
  if '/' ∈ name.toList then [name]
  else (Text.split path ':').map fun dir => Path.join dir name

/-- The path of the program that a name without a slash leads to: the first file that may be
executed, from the directory with the index `skip` on. Something else with that name is a different
fault than nothing at all. -/
def programPath (files : FileTree) (cwd path : String) (skip : Nat) (name : String) :
    Except Errno String :=
  let found := (candidates path name).drop skip
  match found.find? fun c => files.isExecutable cwd c with
  | some program => .ok program
  | none => if found.any fun c => files.holds cwd c then .error .denied else .error .noEntry

/-- The path of the shell itself. -/
def shellPath : String := "/bin/sh"

/-- What the execution of a file is when the shell asks for it. A file of no known kind is a script
for the shell. -/
def launchable? (files : FileTree) (cwd path : String) (name : ByteText) (args : List ByteText) :
    Except Errno Image :=
  match image? files cwd scriptLimit path name args with
  | .error .execFormat =>
    image? files cwd scriptLimit shellPath (ofString shellPath) (ofString path :: args)
  | found => found

end JuliaSession.Shell
