/-!
# UTF-8

Text to bytes and back. `decodeChars?` accepts exactly well-formed UTF-8; `decodeLossy` replaces
every maximal ill-formed run by `U+FFFD`, one mark for each longest start of a character that breaks
off. Both read through `nextChar`, which looks at the first character of a byte string.
-/

namespace JuliaSession.Text.Utf8

/-- A byte string. -/
abbrev Bytes := List UInt8

/-- The bytes of a character. -/
def encodeChar (c : Char) : Bytes :=
  let n := c.toNat
  if n < 0x80 then [n.toUInt8]
  else if n < 0x800 then [(0xC0 + n / 64).toUInt8, (0x80 + n % 64).toUInt8]
  else if n < 0x10000 then
    [(0xE0 + n / 4096).toUInt8, (0x80 + n / 64 % 64).toUInt8, (0x80 + n % 64).toUInt8]
  else
    [(0xF0 + n / 262144).toUInt8, (0x80 + n / 4096 % 64).toUInt8, (0x80 + n / 64 % 64).toUInt8,
      (0x80 + n % 64).toUInt8]

/-- The bytes of a list of characters. -/
def encodeChars (cs : List Char) : Bytes := cs.flatMap encodeChar

/-- The bytes of a text. -/
def encode (s : String) : Bytes := encodeChars s.toList

/-- What a byte string starts with. -/
inductive Start where
  /-- A character, and the number of bytes it takes. -/
  | char (c : Char) (size : Nat)
  /-- An ill-formed run of `size` bytes; `cut` says that it only breaks off at the end of input. -/
  | bad (size : Nat) (cut : Bool)

/-- Is `b` a byte from `0x80` to `0xBF`, the only bytes inside a character? -/
def isTail (b : UInt8) : Bool := 0x80 ≤ b && b ≤ 0xBF

/-- For a first byte: the number of bytes that follow and the range of the second byte. The ranges
exclude overlong forms, surrogates and code points above `U+10FFFF`. -/
def lead? (b : UInt8) : Option (Nat × UInt8 × UInt8) :=
  if 0xC2 ≤ b && b ≤ 0xDF then some (1, 0x80, 0xBF)
  else if b == 0xE0 then some (2, 0xA0, 0xBF)
  else if b == 0xED then some (2, 0x80, 0x9F)
  else if 0xE1 ≤ b && b ≤ 0xEF then some (2, 0x80, 0xBF)
  else if b == 0xF0 then some (3, 0x90, 0xBF)
  else if 0xF1 ≤ b && b ≤ 0xF3 then some (3, 0x80, 0xBF)
  else if b == 0xF4 then some (3, 0x80, 0x8F)
  else none

/-- The value a first byte contributes when `more` bytes follow. -/
def leadBits (b : UInt8) (more : Nat) : Nat :=
  if more = 1 then b.toNat - 0xC0 else if more = 2 then b.toNat - 0xE0 else b.toNat - 0xF0

/-- The remaining bytes of a character: `more` are still due, `size` were read, `value` is what they
say so far. -/
def readTail : Nat → Nat → Nat → Bytes → Start
  | 0, size, value, _ => .char (Char.ofNat value) size
  | _ + 1, size, _, [] => .bad size true
  | more + 1, size, value, b :: rest =>
    if isTail b then readTail more (size + 1) (value * 64 + (b.toNat - 0x80)) rest
    else .bad size false

/-- The first character of a byte string that starts with `b`. -/
def nextChar (b : UInt8) (rest : Bytes) : Start :=
  if b < 0x80 then .char (Char.ofNat b.toNat) 1
  else match lead? b with
    | none => .bad 1 false
    | some (more, low, high) =>
      match rest with
      | [] => .bad 1 true
      | b₂ :: rest₂ =>
        if low ≤ b₂ && b₂ ≤ high then
          readTail (more - 1) 2 (leadBits b more * 64 + (b₂.toNat - 0x80)) rest₂
        else .bad 1 false

/-- Decode the bytes after skipping `skip` of them; `bad` stands for each ill-formed run, and
`none` there refuses the whole. -/
def decodeWith (bad : Option Char) : Nat → Bytes → Option (List Char)
  | _, [] => some []
  | skip + 1, _ :: rest => decodeWith bad skip rest
  | 0, b :: rest =>
    match nextChar b rest with
    | .char c size => (decodeWith bad (size - 1) rest).map (c :: ·)
    | .bad size _ => do
      let c ← bad
      let cs ← decodeWith bad (size - 1) rest
      return c :: cs

/-- The text of well-formed bytes. -/
def decodeChars? (bytes : Bytes) : Option (List Char) := decodeWith none 0 bytes

/-- The text of any bytes, with `U+FFFD` for each ill-formed run. -/
def decodeLossyChars (bytes : Bytes) : List Char :=
  (decodeWith (some (Char.ofNat 0xFFFD)) 0 bytes).getD []

/-- The text of any bytes, with `U+FFFD` for each ill-formed run. -/
def decodeLossy (bytes : Bytes) : String := String.ofList (decodeLossyChars bytes)

end JuliaSession.Text.Utf8
