import JuliaSession.Decimal.Places
import JuliaSession.Shell.Syntax
import JuliaSession.Text.Split

/-!
# Formatted output of the shell

The texts that the commands `echo` and `printf` write: escapes, and conversions that use one
argument each. The format of `printf` is used again as long as arguments are left. Arguments that
are not the numbers they should be are reported (`Printing.complaints`), and the output goes on.
-/

namespace JuliaSession.Shell

/-! ### Escapes -/

/-- An octal digit. -/
def isOctal (c : Char) : Bool := '0' ≤ c && c ≤ '7'

/-- The number that octal digits write. -/
def octalValue (cs : List Char) : Nat := cs.foldl (fun n c => n * 8 + (c.toNat - 48)) 0

/-- The character that a letter after a backslash stands for. -/
def controlLetter? (c : Char) : Option Char :=
  match c with
  | 'a' => some (Char.ofNat 7)
  | 'b' => some (Char.ofNat 8)
  | 'e' => some (Char.ofNat 27)
  | 'f' => some (Char.ofNat 12)
  | 'n' => some '\n'
  | 'r' => some '\r'
  | 't' => some '\t'
  | 'v' => some (Char.ofNat 11)
  | '\\' => some '\\'
  | _ => none

/-- What the text after a backslash stands for, and what is left of it. -/
def escape (cs : ByteText) : Char × ByteText :=
  match cs with
  | [] => ('\\', [])
  | c :: rest =>
    if isOctal c then
      let digits := (cs.take 3).takeWhile isOctal
      (Char.ofNat (octalValue digits % 256), cs.drop digits.length)
    else
      match controlLetter? c with
      | some d => (d, rest)
      | none => ('\\', cs)

/-- Replace the escapes of an `echo` argument; the flag says that output ends here. Three octal
digits may follow a zero. -/
def echoEscapes : Nat → ByteText → ByteText × Bool
  | 0, cs => (cs, false)
  | _, [] => ([], false)
  | fuel + 1, '\\' :: rest =>
    if rest.head? = some 'c' then ([], true)
    else
      let rest := match rest with
        | '0' :: d :: more => if isOctal d then d :: more else rest
        | _ => rest
      let (c, rest) := escape rest
      let (later, stop) := echoEscapes fuel rest
      (c :: later, stop)
  | fuel + 1, c :: rest =>
    let (later, stop) := echoEscapes fuel rest
    (c :: later, stop)

/-- The arguments of `echo` with a blank between them, up to one that ends the output. -/
def echoWords : List ByteText → ByteText × Bool
  | [] => ([], false)
  | word :: rest =>
    let (text, stop) := echoEscapes (word.length + 1) word
    if stop then (text, true)
    else if rest.isEmpty then (text, false)
    else
      let (later, stop) := echoWords rest
      (text ++ ' ' :: later, stop)

/-- What `echo` writes. -/
def echoText (args : List ByteText) : ByteText :=
  let (quiet, args) := match args with
    | ['-', 'n'] :: rest => (true, rest)
    | _ => (false, args)
  let (text, stop) := echoWords args
  if quiet || stop then text else text ++ ['\n']

/-! ### Numbers -/

/-- White space before a number. -/
def isNumberSpace (c : Char) : Bool := c = ' ' || (9 ≤ c.toNat && c.toNat ≤ 13)

/-- The value of a digit, or 36 for any other character. -/
def digitValue (c : Char) : Nat :=
  if c.isDigit then c.toNat - 48
  else if 'a' ≤ c && c ≤ 'z' then c.toNat - 87
  else if 'A' ≤ c && c ≤ 'Z' then c.toNat - 55
  else 36

/-- The number that the digits to a base at the start of a text write, and what follows them. -/
def digitsTo (base : Nat) (cs : ByteText) : Nat × ByteText :=
  let digits := cs.takeWhile fun c => digitValue c < base
  (digits.foldl (fun n c => n * base + digitValue c) 0, cs.drop digits.length)

/-- A whole number at the start of a text, to base 8 after a zero and to base 16 after `0x`, and
what follows it; nothing if there is no digit. -/
def wholeNumber? (cs : ByteText) : Option (Int × ByteText) :=
  let cs := cs.dropWhile isNumberSpace
  let (negative, digits) := match cs with
    | '-' :: rest => (true, rest)
    | '+' :: rest => (false, rest)
    | rest => (false, rest)
  let found : Option (Nat × ByteText) := match digits with
    | '0' :: x :: d :: rest =>
      if (x = 'x' ∨ x = 'X') ∧ digitValue d < 16 then some (digitsTo 16 (d :: rest))
      else some (digitsTo 8 digits)
    | '0' :: _ => some (digitsTo 8 digits)
    | c :: _ => if c.isDigit then some (digitsTo 10 digits) else none
    | [] => none
  found.map fun (n, rest) => (if negative then -(n : Int) else n, rest)

/-- The number that a text says to base 10, with nothing but white space around it; nothing if it
says none, or one of more than 64 bits. -/
def decimalNumber? (cs : ByteText) : Option Int :=
  let cs := cs.dropWhile isNumberSpace
  let (negative, digits) := match cs with
    | '-' :: rest => (true, rest)
    | '+' :: rest => (false, rest)
    | rest => (false, rest)
  let (n, rest) := digitsTo 10 digits
  let n : Int := if negative then -(n : Int) else n
  if (digits.headD ' ').isDigit ∧ rest.all isNumberSpace ∧
      -(Int.pow 2 63) ≤ n ∧ n < Int.pow 2 63 then some n
  else none

/-- Why an argument is not quite a number. -/
inductive NumberFault where
  /-- It does not start with a digit. -/
  | notNumeric
  /-- Something follows the number. -/
  | incomplete
  /-- It is too large. -/
  | outOfRange
  deriving DecidableEq, Repr

/-- The wording of a fault. -/
def NumberFault.wording : NumberFault → String
  | notNumeric => "expected numeric value"
  | incomplete => "not completely converted"
  | outOfRange => "Numerical result out of range"

/-- The number that an argument says, brought into the range of signed or unsigned 64 bits, and what
is wrong with it. A character after a quote stands for its code. -/
def argumentNumber (signed : Bool) (arg : ByteText) : Int × Option NumberFault :=
  match arg with
  | '\'' :: rest | '"' :: rest => ((rest.headD (Char.ofNat 0)).toNat, none)
  | _ =>
    match wholeNumber? arg with
    | none => (0, if arg.isEmpty then none else some .notNumeric)
    | some (n, rest) =>
      let top : Int := if signed then Int.pow 2 63 - 1 else Int.pow 2 64 - 1
      let inRange := if signed then -(Int.pow 2 63) ≤ n ∧ n ≤ top else -top ≤ n ∧ n ≤ top
      let value : Int :=
        if inRange then if signed then n else n % Int.pow 2 64
        else if signed ∧ n < 0 then -(Int.pow 2 63) else top
      let fault := if !rest.isEmpty then some NumberFault.incomplete
        else if inRange then none else some .outOfRange
      (value, fault)

/-- Digits to a base with a point among them at the start of a text: the digits before and after the
point, and what follows. -/
def pointed (base : Nat) (cs : ByteText) : ByteText × ByteText × ByteText :=
  let isDigit (c : Char) : Bool := digitValue c < base
  let whole := cs.takeWhile isDigit
  let rest := cs.drop whole.length
  match rest with
  | '.' :: more =>
    let places := more.takeWhile isDigit
    if whole.isEmpty && places.isEmpty then ([], [], cs)
    else (whole, places, more.drop places.length)
  | _ => (whole, [], rest)

/-- An exponent after its letter at the start of a text, and what follows it; without digits there
is none. -/
def exponent (letter : Char) (cs : ByteText) : Int × ByteText :=
  match cs with
  | [] => (0, [])
  | e :: more =>
    if e.toLower ≠ letter then (0, cs)
    else
      let (minus, digits) := match more with
        | '-' :: digits => (true, digits)
        | '+' :: digits => (false, digits)
        | digits => (false, digits)
      let shown := digits.takeWhile Char.isDigit
      if shown.isEmpty then (0, cs)
      else
        let n : Int := (digitsTo 10 shown).1
        (if minus then -n else n, digits.drop shown.length)

/-- A fraction without its sign at the start of a text, and what follows it: decimal, to base 16
after `0x`, or the name of an infinity or of no number at all. -/
def unsigned? (negative : Bool) (cs : ByteText) : Option (Binary64 × ByteText) :=
  let lower := cs.map Char.toLower
  let isHex := Text.startsWith lower ['0', 'x'] &&
    (let (whole, places, _) := pointed 16 (cs.drop 2)
    !(whole.isEmpty && places.isEmpty))
  if isHex then
    let (whole, places, after) := pointed 16 (cs.drop 2)
    let (power, rest) := exponent 'p' after
    -- far outside of the range the exact power does not matter
    let power := max (-5000) (min 5000 (power - 4 * places.length))
    let digits := (digitsTo 16 (whole ++ places)).1
    let value := if 0 ≤ power then Decimal.round negative (digits * Nat.pow 2 power.toNat) 0
      else Decimal.round negative (digits * Nat.pow 5 (-power).toNat) power
    some (value, rest)
  else
    let (whole, places, after) := pointed 10 cs
    if whole.isEmpty && places.isEmpty then
      if Text.startsWith lower "infinity".toList then some (.infinity negative, cs.drop 8)
      else if Text.startsWith lower "inf".toList then some (.infinity negative, cs.drop 3)
      else if Text.startsWith lower "nan".toList then
        let after := cs.drop 3
        let note := after.takeWhile (· ≠ ')')
        let rest := if after.head? = some '(' ∧ note.length < after.length then
            after.drop (note.length + 1) else after
        some (.ofFields negative 2047 (Nat.pow 2 51), rest)
      else none
    else
      let (power, rest) := exponent 'e' after
      some (Decimal.round negative (digitsTo 10 (whole ++ places)).1 (power - places.length), rest)

/-- A fraction at the start of a text, and what follows it. -/
def fraction? (cs : ByteText) : Option (Binary64 × ByteText) :=
  match cs.dropWhile isNumberSpace with
  | '-' :: rest => unsigned? true rest
  | '+' :: rest => unsigned? false rest
  | rest => unsigned? false rest

/-- The fraction that an argument says, and what is wrong with it. -/
def argumentFraction (arg : ByteText) : Binary64 × Option NumberFault :=
  let zero := Binary64.ofFields false 0 0
  match arg with
  | '\'' :: rest | '"' :: rest => (Decimal.round false (rest.headD (Char.ofNat 0)).toNat 0, none)
  | _ =>
    match fraction? arg with
    | none => (zero, if arg.isEmpty then none else some .notNumeric)
    | some (x, rest) =>
      let named := arg.any fun c => c = 'n' || c = 'N'
      (x, if !rest.isEmpty then some .incomplete
        else if !x.isFinite && !named then some .outOfRange else none)

/-! ### Conversions -/

/-- How one conversion of a format is laid out. -/
structure Conversion where
  /-- The flags. -/
  flags : List Char
  /-- The least width. -/
  width : Nat
  /-- The precision, if it is given. -/
  precision : Option Nat
  /-- The letter of the conversion. -/
  letter : Char

/-- Fill a text up to the width with blanks. -/
def Conversion.fill (conversion : Conversion) (text : ByteText) : ByteText :=
  let missing := List.replicate (conversion.width - text.length) ' '
  if '-' ∈ conversion.flags then text ++ missing else missing ++ text

/-- Fill a number with its sign or mark up to the width, with zeros if they are asked for. -/
def Conversion.fillNumber (conversion : Conversion) (zeros : Bool) (sign digits : ByteText) :
    ByteText :=
  if zeros && '0' ∈ conversion.flags && '-' ∉ conversion.flags then
    let missing := conversion.width - sign.length - digits.length
    sign ++ List.replicate missing '0' ++ digits
  else conversion.fill (sign ++ digits)

/-- The sign of a number. -/
def Conversion.sign (conversion : Conversion) (negative : Bool) : ByteText :=
  if negative then ['-'] else if '+' ∈ conversion.flags then ['+']
  else if ' ' ∈ conversion.flags then [' '] else []

/-- Digits with zeros before them up to the precision. -/
def Conversion.toPrecision (conversion : Conversion) (digits : ByteText) : ByteText :=
  match conversion.precision with
  | some places =>
    let digits := if digits = ['0'] then [] else digits
    List.replicate (places - digits.length) '0' ++ digits
  | none => digits

/-- The text of a whole number. -/
def Conversion.whole (conversion : Conversion) (n : Int) : ByteText :=
  let digits (base : Nat) : ByteText := conversion.toPrecision (Nat.toDigits base n.natAbs)
  let marked := '#' ∈ conversion.flags && n ≠ 0
  let zeros := conversion.precision.isNone
  match conversion.letter with
  | 'x' => conversion.fillNumber zeros (if marked then ['0', 'x'] else []) (digits 16)
  | 'X' =>
    conversion.fillNumber zeros (if marked then ['0', 'X'] else []) ((digits 16).map Char.toUpper)
  | 'o' =>
    let text := digits 8
    let text := if '#' ∈ conversion.flags ∧ text.head? ≠ some '0' then '0' :: text else text
    conversion.fillNumber zeros [] text
  | 'u' => conversion.fillNumber zeros [] (digits 10)
  | _ => conversion.fillNumber zeros (conversion.sign (n < 0)) (digits 10)

/-- The text of a fraction. -/
def Conversion.decimal (conversion : Conversion) (x : Binary64) : ByteText :=
  let pointed := '#' ∈ conversion.flags
  let places := conversion.precision.getD 6
  let (num, den) := Decimal.quotient x
  let text : ByteText :=
    if x.isNaN then "nan".toList
    else if !x.isFinite then "inf".toList
    else
      match conversion.letter.toLower with
      | 'f' => Decimal.fixed pointed places num den
      | 'e' => Decimal.scientific pointed places num den
      | _ => Decimal.general pointed places num den
  let text := if conversion.letter.isUpper then text.map Char.toUpper else text
  conversion.fillNumber x.isFinite (conversion.sign x.isNegative) text

/-! ### Formats -/

/-- The output of `printf` so far. -/
structure Printing where
  /-- What is written. -/
  out : ByteText
  /-- The arguments left. -/
  args : List ByteText
  /-- The complaints about arguments. -/
  complaints : List ByteText

/-- What ends the use of a format. -/
inductive Stop where
  /-- The end of the format. -/
  | done
  /-- An escape that ends the output. -/
  | quiet
  /-- A conversion that is none. -/
  | bad (words : ByteText)

/-- Write a text. -/
def Printing.write (state : Printing) (text : ByteText) : Printing :=
  { state with out := state.out ++ text }

/-- Take the next argument; missing ones are empty. -/
def Printing.take (state : Printing) : ByteText × Printing :=
  (state.args.headD [], { state with args := state.args.tail })

/-- Report what is wrong with an argument. -/
def Printing.report (state : Printing) (arg : ByteText) (fault : Option NumberFault) : Printing :=
  match fault with
  | none => state
  | some fault =>
    { state with
      complaints := state.complaints ++ [arg ++ ": ".toList ++ fault.wording.toList] }

/-- Take the next argument as a number. -/
def Printing.takeNumber (state : Printing) (signed : Bool) : Int × Printing :=
  let (arg, state) := state.take
  let (n, fault) := argumentNumber signed arg
  (n, state.report arg fault)

/-- A width or precision at the start of a format: digits, or a star for an argument. -/
def Printing.size (state : Printing) (format : ByteText) : Option Int × Printing × ByteText :=
  match format with
  | '*' :: rest =>
    let (n, state) := state.takeNumber true
    (some n, state, rest)
  | _ =>
    let digits := format.takeWhile Char.isDigit
    if digits.isEmpty then (none, state, format)
    else (some ((digitsTo 10 digits).1 : Int), state, format.drop digits.length)

/-- One use of a format. -/
def formatOnce : Nat → Printing → ByteText → Printing × Stop
  | 0, state, _ => (state, .done)
  | _, state, [] => (state, .done)
  | fuel + 1, state, '\\' :: rest =>
    let (c, rest) := escape rest
    formatOnce fuel (state.write [c]) rest
  | fuel + 1, state, '%' :: '%' :: rest => formatOnce fuel (state.write ['%']) rest
  | fuel + 1, state, '%' :: spec =>
    let flags := spec.takeWhile fun c => c ∈ ['-', '0', '+', ' ', '#']
    let (width, state, rest) := state.size (spec.drop flags.length)
    let (precision, state, rest) := match rest with
      | '.' :: rest =>
        let (n, state, rest) := state.size rest
        let n := n.getD 0
        -- a negative precision counts as none
        (if n < 0 then none else some n.toNat, state, rest)
      | _ => (none, state, rest)
    match rest with
    | [] => (state, .bad "missing format character".toList)
    | letter :: rest =>
      let width := width.getD 0
      let flags := if width < 0 then '-' :: flags else flags
      let conversion : Conversion := ⟨flags, width.natAbs, precision, letter⟩
      let shorten (text : ByteText) : ByteText := match precision with
        | some n => text.take n
        | none => text
      let whole (signed : Bool) : Printing × Stop :=
        let (n, state) := state.takeNumber signed
        formatOnce fuel (state.write (conversion.whole n)) rest
      let decimal : Printing × Stop :=
        let (arg, state) := state.take
        let (x, fault) := argumentFraction arg
        formatOnce fuel ((state.report arg fault).write (conversion.decimal x)) rest
      match letter with
      | 's' =>
        let (arg, state) := state.take
        formatOnce fuel (state.write (conversion.fill (shorten arg))) rest
      | 'b' =>
        let (arg, state) := state.take
        let (text, stop) := echoEscapes (arg.length + 1) arg
        let state := state.write (conversion.fill (shorten text))
        if stop then (state, .quiet) else formatOnce fuel state rest
      | 'c' =>
        let (arg, state) := state.take
        formatOnce fuel (state.write (conversion.fill [arg.headD (Char.ofNat 0)])) rest
      | 'd' | 'i' => whole true
      | 'o' | 'u' | 'x' | 'X' => whole false
      | 'e' | 'E' | 'f' | 'F' | 'g' | 'G' => decimal
      | _ =>
        let shown := spec.take (spec.length - rest.length)
        (state, .bad ('%' :: shown ++ ": invalid directive".toList))
  | fuel + 1, state, c :: rest => formatOnce fuel (state.write [c]) rest

/-- Use a format as long as there are arguments left and it takes some. -/
def formatAll (format : ByteText) : Nat → Printing → Printing × Stop
  | 0, state => (state, .done)
  | fuel + 1, state =>
    match formatOnce (format.length + 1) state format with
    | (after, .done) =>
      if after.args.isEmpty || after.args.length = state.args.length then (after, .done)
      else formatAll format fuel after
    | stopped => stopped

/-- What `printf` writes for a format and arguments, and what it complains about. -/
def formatText (format : ByteText) (args : List ByteText) : Printing × Stop :=
  formatAll format (args.length + 1) ⟨[], args, []⟩

end JuliaSession.Shell
