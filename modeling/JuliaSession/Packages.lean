import JuliaSession.Text.Split
import JuliaSession.Text.Blank

/-!
# Package status

The package manager prints one line for each package of a project: a state mark, a hash, a name, a
version and sometimes a repository, divided by single spaces. `Package.parseLines` keeps the lines
of this form, and `Package.writeLine` is the line of a package.
-/

namespace JuliaSession

/-- A package of a project. -/
structure Package where
  /-- The state mark; empty for a package that is as it should be. -/
  mark : String
  /-- The hash, with the brackets around it. -/
  hash : String
  /-- The name. -/
  name : String
  /-- The version. -/
  version : String
  /-- The repository, or nothing. -/
  repo : String
  deriving DecidableEq, Repr, Inhabited

namespace Package

/-- Whether something has to be done about a package. -/
inductive State where
  /-- Nothing. -/
  | unchanged
  /-- It is declared but not installed. -/
  | needsInstall
  /-- It carries another mark. -/
  | other
  deriving DecidableEq, Repr

/-- The name of a state. -/
def State.name : State → String
  | unchanged => "unchanged"
  | needsInstall => "needs-install"
  | other => "other"

/-- The mark of a package that is declared but not installed. -/
def installMark : String := "→"

/-- What the mark of a package says. -/
def state (package : Package) : State :=
  if package.mark = installMark then .needsInstall
  else if package.mark = "" then .unchanged
  else .other

/-- A package from its fields; the repository may be left out. -/
def ofFields? : List String → Option Package
  | [mark, hash, name, version] => some ⟨mark, hash, name, version, ""⟩
  | [mark, hash, name, version, repo] => some ⟨mark, hash, name, version, repo⟩
  | _ => none

/-- Is this a character that ends a line? -/
def isNewline (c : Char) : Bool := c = '\r' || c = '\n'

/-- The package of a status line; line ends behind it do not count. -/
def parseLine? (line : String) : Option Package :=
  ofFields? ((Text.splitOnChar ' ' (Text.dropRightWhile isNewline line.toList)).map String.ofList)

/-- The packages of those lines that have the form of a status line. -/
def parseLines (lines : List String) : List Package := lines.filterMap parseLine?

/-- The packages of a status output. -/
def parseOutput (output : String) : List Package := parseLines (Text.split output '\n')

/-- The fields of a package; an empty repository is left out. -/
def toFields (package : Package) : List String :=
  [package.mark, package.hash, package.name, package.version]
    ++ if package.repo = "" then [] else [package.repo]

/-- The status line of a package. -/
def writeLine (package : Package) : String :=
  String.ofList (Text.joinWith [' '] (package.toFields.map String.toList))

/-- The names of the packages that are declared but not installed. -/
def missingNames (packages : List Package) : List String :=
  (packages.filter fun package => package.state = .needsInstall).map (·.name)

end Package

end JuliaSession
