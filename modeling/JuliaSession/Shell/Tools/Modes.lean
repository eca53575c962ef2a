import JuliaSession.Machine.Files
import JuliaSession.Shell.Format

/-!
# Permission bits

Modes as tools take them: an octal number, or clauses such as `u+rw` that change the bits a file has
(`ModeChange`). `modeSigns` writes bits the way listings show them.
-/

namespace JuliaSession.Shell

/-- What a clause does with bits. -/
inductive ModeAction where
  /-- They are added. -/
  | add
  /-- They are taken away. -/
  | remove
  /-- No others are left. -/
  | set
  deriving DecidableEq, Repr

/-- Which bits a clause names. -/
inductive ModeBits where
  /-- These bits; those to execute count too if `maybeRun`, for what is a directory or may be
  executed by somebody. -/
  | given (bits : Nat) (maybeRun : Bool)
  /-- The bits that a class of users has, which is the one with this factor. -/
  | likeClass (factor : Nat)
  deriving DecidableEq, Repr

/-- A change of permission bits. -/
structure ModeChange where
  /-- What is done. -/
  action : ModeAction
  /-- The bits of the classes of users that it is about, if they were named. -/
  classes : Option Nat
  /-- The bits. -/
  bits : ModeBits
  /-- The special bits of a directory that the change may take away. -/
  mentioned : Nat
  deriving DecidableEq, Repr

/-- All permission bits. -/
def allModeBits : Nat := 0o7777

/-- Bits without some of them. -/
def withoutBits (bits others : Nat) : Nat := bits - (bits &&& others)

/-- The bits of a class of users. -/
def classBits? (letter : Char) : Option Nat :=
  match letter with
  | 'u' => some 0o4700
  | 'g' => some 0o2070
  | 'o' => some 0o1007
  | 'a' => some allModeBits
  | _ => none

/-- The bits of a permission letter. -/
def letterBits? (letter : Char) : Option Nat :=
  match letter with
  | 'r' => some 0o444
  | 'w' => some 0o222
  | 'x' => some 0o111
  | 's' => some 0o6000
  | 't' => some 0o1000
  | 'X' => some 0
  | _ => none

/-- What an operator does. -/
def modeAction? (c : Char) : Option ModeAction :=
  match c with
  | '+' => some .add
  | '-' => some .remove
  | '=' => some .set
  | _ => none

/-- The changes that follow the classes of a clause; `fuel` bounds their number. -/
def changesOf? (classes : Option Nat) : Nat → ByteText → Option (List ModeChange)
  | 0, _ => none
  | fuel + 1, text =>
    match text with
    | [] => none
    | op :: rest => do
      let action ← modeAction? op
      let further (bits : ModeBits) (rest : ByteText) : Option (List ModeChange) := do
        let change : ModeChange :=
          ⟨action, classes, bits, match bits, classes with
            | .given bits _, none => bits
            | .given bits _, some classes => classes &&& bits
            | .likeClass _, _ => 0⟩
        if rest.isEmpty then return [change]
        else return change :: (← changesOf? classes fuel rest)
      match rest with
      | 'u' :: rest => further (.likeClass 64) rest
      | 'g' :: rest => further (.likeClass 8) rest
      | 'o' :: rest => further (.likeClass 1) rest
      | rest =>
        let letters := rest.takeWhile fun c => (letterBits? c).isSome
        let bits := (letters.filterMap letterBits?).foldl (· ||| ·) 0
        further (.given bits ('X' ∈ letters)) (rest.drop letters.length)

/-- The changes of a mode: those of all its clauses, or a single one that sets all bits. -/
def modeChanges? (text : ByteText) : Option (List ModeChange) :=
  if text.head?.any Char.isDigit then
    if text.all isOctal && octalValue text ≤ allModeBits then
      -- a short number leaves the special bits of directories alone
      let mentioned := if text.length < 5 then octalValue text &&& 0o6000 else 0o6000
      some [⟨.set, some allModeBits, .given (octalValue text) false, mentioned⟩]
    else none
  else do
    let clauses ← (Text.splitOnChar ',' text).mapM fun clause =>
      let who := clause.takeWhile fun c => (classBits? c).isSome
      let classes := (who.filterMap classBits?).foldl (· ||| ·) 0
      changesOf? (if who.isEmpty then none else some classes) clause.length
        (clause.drop who.length)
    return clauses.flatten

/-- The bits after a change. A clause without classes does not give what the mask keeps back. -/
def ModeChange.apply (change : ModeChange) (isDir : Bool) (mask mode : Nat) : Nat :=
  let kept := if isDir then withoutBits 0o6000 change.mentioned else 0
  let bits := match change.bits with
    | .given bits maybeRun =>
      if maybeRun && (isDir || mode &&& 0o111 ≠ 0) then bits ||| 0o111 else bits
    | .likeClass factor => (mode / factor % 8) * 0o111
  let bits := withoutBits (bits &&& change.classes.getD (withoutBits allModeBits mask)) kept
  match change.action with
  | .add => mode ||| bits
  | .remove => withoutBits mode bits
  | .set =>
    let preserved := (match change.classes with
      | some classes => withoutBits allModeBits classes
      | none => 0) ||| kept
    (mode &&& preserved) ||| bits

/-- The bits after changes. -/
def applyChanges (changes : List ModeChange) (isDir : Bool) (mask mode : Nat) : Nat :=
  changes.foldl (fun mode change => change.apply isDir mask mode) mode

/-- Permission bits as listings show them. -/
def modeSigns (mode : Nat) : ByteText :=
  let part (factor special : Nat) (sign : Char) : ByteText :=
    let bits := mode / factor % 8
    let isSpecial := mode / special % 2 = 1
    let runs := bits % 2 = 1
    [if bits / 4 = 1 then 'r' else '-', if bits / 2 % 2 = 1 then 'w' else '-',
      if isSpecial then (if runs then sign else sign.toUpper) else if runs then 'x' else '-']
  part 64 0o4000 's' ++ part 8 0o2000 's' ++ part 1 0o1000 't'

end JuliaSession.Shell
