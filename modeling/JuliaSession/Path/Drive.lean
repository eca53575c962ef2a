import JuliaSession.Text.Split

/-!
# Drive paths

Paths in the backslash notation, where a path may start with a drive letter or with the name of a
server and a share. A slash counts as a backslash.
-/

namespace JuliaSession.Path.Drive

open JuliaSession.Text

/-- Either separator. -/
def isSeparator (c : Char) : Bool := c = '\\' || c = '/'

/-- The path with backslashes only. -/
def backslashes (cs : List Char) : List Char := cs.map fun c => if c = '/' then '\\' else c

/-- The number of characters before the first separator at or after index `start`. -/
def separatorFrom? (cs : List Char) (start : Nat) : Option Nat :=
  ((cs.drop start).findIdx? isSeparator).map (· + start)

/-- ASCII letters in upper case. -/
def upper (cs : List Char) : List Char := cs.map Char.toUpper

/-- The drive of a path and the rest. A drive is a letter with a colon, or a server and a share
after two separators; a server alone is all drive. -/
def splitDrive (cs : List Char) : List Char × List Char :=
  match cs with
  | a :: b :: _ =>
    if isSeparator a && isSeparator b then
      let start := if upper (backslashes (cs.take 8)) = "\\\\?\\UNC\\".toList then 8 else 2
      match separatorFrom? cs start with
      | none => (cs, [])
      | some server =>
        match separatorFrom? cs (server + 1) with
        | none => (cs, [])
        | some share => cs.splitAt share
    else if b = ':' then cs.splitAt 2
    else ([], cs)
  | _ => ([], cs)

/-- Add a segment to the normalized segments `done`, which are reversed. -/
def pushSegment (rooted : Bool) (done : List (List Char)) (seg : List Char) : List (List Char) :=
  if seg = [] ∨ seg = ['.'] then done
  else if seg = ['.', '.'] then
    match done with
    | [] => if rooted then [] else [seg]
    | last :: before => if last = ['.', '.'] then seg :: done else before
  else seg :: done

/-- A path without empty, `.` and removable `..` segments, in backslashes; the empty path is
`.`. -/
def normalizeChars (cs : List Char) : List Char :=
  let (drive, rest) := splitDrive (backslashes cs)
  let rooted := startsWith rest ['\\']
  let start := drive ++ if rooted then ['\\'] else []
  let segs := (splitOnChar '\\' rest).foldl (pushSegment (endsWith start ['\\'])) []
  if start = [] ∧ segs = [] then ['.'] else start ++ joinWith ['\\'] segs.reverse

/-- Does the path start with a separator, or with a drive letter and a separator? -/
def isAbsolute (cs : List Char) : Bool :=
  match cs with
  | a :: _ =>
    isSeparator a || (match cs with
      | _ :: ':' :: c :: _ => isSeparator c
      | _ => false)
  | [] => false

/-- `b` seen from the directory `a`, which has no drive. -/
def joinChars (a b : List Char) : List Char :=
  let (drive, rest) := splitDrive b
  if startsWith (backslashes rest) ['\\'] then b
  else if drive ≠ [] then b
  else if a = [] ∨ isSeparator (a.getLastD ' ') then a ++ rest
  else a ++ '\\' :: rest

/-- The normalized path from the root, for a path given in the directory `cwd`. -/
def absoluteChars (cwd cs : List Char) : List Char :=
  normalizeChars (if isAbsolute cs then cs else joinChars cwd cs)

/-- A path without empty, `.` and removable `..` segments, in backslashes. -/
def normalize (path : String) : String := String.ofList (normalizeChars path.toList)

/-- The normalized path from the root, for a path given in the directory `cwd`. -/
def absolute (cwd path : String) : String :=
  String.ofList (absoluteChars cwd.toList path.toList)

end JuliaSession.Path.Drive
