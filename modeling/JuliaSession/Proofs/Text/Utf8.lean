import Mathlib.Tactic.SplitIfs
import JuliaSession.Text.Utf8

/-!
# Encoded text is read back

The bytes of a character are read as this character and no further, whatever follows them. So a
text that was encoded is decoded to itself, by the reader that refuses ill-formed bytes and by the
one that replaces them.

* `nextChar_encodeChar`: the first character of its own bytes.
* `decodeWith_encodeChars`: an encoded text comes back.
-/

namespace JuliaSession.Text

/-- Letters and digits are three ranges of characters of one byte. -/
theorem isAlphanum_iff {c : Char} :
    c.isAlphanum ↔ (65 ≤ c.toNat ∧ c.toNat ≤ 90) ∨ (97 ≤ c.toNat ∧ c.toNat ≤ 122) ∨
      (48 ≤ c.toNat ∧ c.toNat ≤ 57) := by
  delta Char.isAlphanum Char.isAlpha Char.isUpper Char.isLower Char.isDigit
  simp [UInt32.le_iff_toNat_le, ← Char.toNat_val, or_assoc]

namespace Utf8

/-! ### Bytes -/

theorem toNat_toUInt8 {n : Nat} (h : n < 256) : n.toUInt8.toNat = n :=
  UInt8.toNat_ofNat_of_lt' h

/-- A byte inside a character carries six bits. -/
theorem isTail_toUInt8 (n : Nat) : isTail (0x80 + n % 64).toUInt8 = true := by
  have hn : (0x80 + n % 64).toUInt8.toNat = 0x80 + n % 64 := toNat_toUInt8 (by omega)
  simp only [isTail, Bool.and_eq_true, decide_eq_true_eq, UInt8.le_iff_toNat_le, hn]
  constructor
  · show 0x80 ≤ _
    omega
  · show _ ≤ 0xBF
    omega

theorem readTail_cons (more size value n : Nat) (rest : Bytes) :
    readTail (more + 1) size value ((0x80 + n % 64).toUInt8 :: rest) =
      readTail more (size + 1) (value * 64 + n % 64) rest := by
  rw [readTail, if_pos (isTail_toUInt8 n), toNat_toUInt8 (by omega), Nat.add_sub_cancel_left]

/-! ### The first byte -/

theorem le_toUInt8 {n : Nat} (hn : n < 256) (b : UInt8) : b ≤ n.toUInt8 ↔ b.toNat ≤ n := by
  rw [UInt8.le_iff_toNat_le, toNat_toUInt8 hn]

theorem toUInt8_le {n : Nat} (hn : n < 256) (b : UInt8) : n.toUInt8 ≤ b ↔ n ≤ b.toNat := by
  rw [UInt8.le_iff_toNat_le, toNat_toUInt8 hn]

theorem toUInt8_eq {n : Nat} (hn : n < 256) (b : UInt8) : n.toUInt8 = b ↔ n = b.toNat := by
  rw [← UInt8.toNat_inj, toNat_toUInt8 hn]

theorem ite_le_toUInt8 {p : Prop} [Decidable p] {n : Nat} {a b : UInt8} (hn : n < 256)
    (ha : p → a.toNat ≤ n) (hb : ¬ p → b.toNat ≤ n) : (if p then a else b) ≤ n.toUInt8 := by
  rw [le_toUInt8 hn]
  split_ifs with hp
  · exact ha hp
  · exact hb hp

theorem toUInt8_le_ite {p : Prop} [Decidable p] {n : Nat} {a b : UInt8} (hn : n < 256)
    (ha : p → n ≤ a.toNat) (hb : ¬ p → n ≤ b.toNat) : n.toUInt8 ≤ if p then a else b := by
  rw [toUInt8_le hn]
  split_ifs with hp
  · exact ha hp
  · exact hb hp

theorem lead?_two {n : Nat} (hlow : 0xC2 ≤ n) (hhigh : n ≤ 0xDF) :
    lead? n.toUInt8 = some (1, 0x80, 0xBF) := by
  have hn : n < 256 := by omega
  simp only [lead?, Bool.and_eq_true, decide_eq_true_eq, le_toUInt8 hn, toUInt8_le hn]
  exact if_pos ⟨hlow, hhigh⟩

/-- The second of three bytes excludes overlong forms and surrogates. -/
theorem lead?_three {n : Nat} (hlow : 0xE0 ≤ n) (hhigh : n ≤ 0xEF) :
    lead? n.toUInt8 =
      some (2, if n = 0xE0 then 0xA0 else 0x80, if n = 0xED then 0x9F else 0xBF) := by
  have hn : n < 256 := by omega
  simp only [lead?, Bool.and_eq_true, decide_eq_true_eq, beq_iff_eq, le_toUInt8 hn,
    toUInt8_le hn, toUInt8_eq hn, UInt8.reduceToNat]
  rw [if_neg (by omega)]
  by_cases hfirst : n = 0xE0
  · simp [hfirst]
  · by_cases hsurrogates : n = 0xED
    · simp [hsurrogates]
    · simp [hfirst, hsurrogates, hhigh, show 225 ≤ n by omega]

/-- The second of four bytes excludes overlong forms and what is no character. -/
theorem lead?_four {n : Nat} (hlow : 0xF0 ≤ n) (hhigh : n ≤ 0xF4) :
    lead? n.toUInt8 =
      some (3, if n = 0xF0 then 0x90 else 0x80, if n = 0xF4 then 0x8F else 0xBF) := by
  have hn : n < 256 := by omega
  simp only [lead?, Bool.and_eq_true, decide_eq_true_eq, beq_iff_eq, le_toUInt8 hn,
    toUInt8_le hn, toUInt8_eq hn, UInt8.reduceToNat]
  rw [if_neg (by omega), if_neg (by omega), if_neg (by omega), if_neg (by omega)]
  by_cases hfirst : n = 0xF0
  · simp [hfirst]
  · by_cases hlast : n = 0xF4
    · simp [hlast]
    · simp [hfirst, hlast, show 241 ≤ n by omega, show n ≤ 243 by omega]

theorem nextChar_lead {b b₂ low high : UInt8} {more : Nat} (hb : 0x80 ≤ b.toNat)
    (hlead : lead? b = some (more, low, high)) (hlow : low ≤ b₂) (hhigh : b₂ ≤ high)
    (rest : Bytes) :
    nextChar b (b₂ :: rest) =
      readTail (more - 1) 2 (leadBits b more * 64 + (b₂.toNat - 0x80)) rest := by
  have hascii : ¬ b < 0x80 := by
    rw [UInt8.lt_iff_toNat_lt]
    exact Nat.not_lt.2 hb
  simp [nextChar, hascii, hlead, hlow, hhigh]

/-! ### A character -/

theorem nextChar_one {n : Nat} (hn : n < 0x80) (rest : Bytes) :
    nextChar n.toUInt8 rest = .char (Char.ofNat n) 1 := by
  have hbyte : n.toUInt8.toNat = n := toNat_toUInt8 (by omega)
  have hascii : n.toUInt8 < 0x80 := by
    rw [UInt8.lt_iff_toNat_lt, hbyte]
    exact hn
  rw [nextChar, if_pos hascii, hbyte]

theorem nextChar_two {n : Nat} (hlow : 0x80 ≤ n) (hhigh : n < 0x800) (rest : Bytes) :
    nextChar (0xC0 + n / 64).toUInt8 ((0x80 + n % 64).toUInt8 :: rest) =
      .char (Char.ofNat n) 2 := by
  have hfirst : (0xC0 + n / 64).toUInt8.toNat = 0xC0 + n / 64 := toNat_toUInt8 (by omega)
  have hsecond : (0x80 + n % 64).toUInt8.toNat = 0x80 + n % 64 := toNat_toUInt8 (by omega)
  rw [nextChar_lead (by omega) (lead?_two (by omega) (by omega))
    ((le_toUInt8 (by omega) _).2 (by simp)) ((toUInt8_le (by omega) _).2 (by simp; omega))]
  rw [hsecond, leadBits, hfirst]
  have hvalue : (0xC0 + n / 64 - 0xC0) * 64 + (0x80 + n % 64 - 0x80) = n := by omega
  show Start.char (Char.ofNat ((0xC0 + n / 64 - 0xC0) * 64 + (0x80 + n % 64 - 0x80))) 2 = _
  rw [hvalue]

theorem nextChar_three {n : Nat} (hlow : 0x800 ≤ n) (hhigh : n < 0x10000)
    (hsurrogate : n < 0xD800 ∨ 0xDFFF < n) (rest : Bytes) :
    nextChar (0xE0 + n / 4096).toUInt8
        ((0x80 + n / 64 % 64).toUInt8 :: (0x80 + n % 64).toUInt8 :: rest) =
      .char (Char.ofNat n) 3 := by
  have hfirst : (0xE0 + n / 4096).toUInt8.toNat = 0xE0 + n / 4096 := toNat_toUInt8 (by omega)
  have hsecond : (0x80 + n / 64 % 64).toUInt8.toNat = 0x80 + n / 64 % 64 :=
    toNat_toUInt8 (by omega)
  -- the bounds of the second byte exclude longer forms and surrogates
  have hleast : (if 0xE0 + n / 4096 = 0xE0 then 0xA0 else 0x80) ≤ (0x80 + n / 64 % 64).toUInt8 :=
    ite_le_toUInt8 (by omega) (fun _ => show 0xA0 ≤ _ by omega) fun _ => show 0x80 ≤ _ by omega
  have hmost : (0x80 + n / 64 % 64).toUInt8 ≤ if 0xE0 + n / 4096 = 0xED then 0x9F else 0xBF :=
    toUInt8_le_ite (by omega) (fun _ => show _ ≤ 0x9F by omega) fun _ => show _ ≤ 0xBF by omega
  rw [nextChar_lead (by omega) (lead?_three (by omega) (by omega)) hleast hmost, hsecond, leadBits,
    hfirst, readTail_cons]
  have hvalue : ((0xE0 + n / 4096 - 0xE0) * 64 + (0x80 + n / 64 % 64 - 0x80)) * 64 + n % 64 =
      n := by omega
  show Start.char (Char.ofNat (((0xE0 + n / 4096 - 0xE0) * 64 + (0x80 + n / 64 % 64 - 0x80)) * 64
    + n % 64)) 3 = _
  rw [hvalue]

theorem nextChar_four {n : Nat} (hlow : 0x10000 ≤ n) (hhigh : n < 0x110000) (rest : Bytes) :
    nextChar (0xF0 + n / 262144).toUInt8
        ((0x80 + n / 4096 % 64).toUInt8 :: (0x80 + n / 64 % 64).toUInt8 ::
          (0x80 + n % 64).toUInt8 :: rest) =
      .char (Char.ofNat n) 4 := by
  have hfirst : (0xF0 + n / 262144).toUInt8.toNat = 0xF0 + n / 262144 :=
    toNat_toUInt8 (by omega)
  have hsecond : (0x80 + n / 4096 % 64).toUInt8.toNat = 0x80 + n / 4096 % 64 :=
    toNat_toUInt8 (by omega)
  -- the bounds of the second byte exclude longer forms and numbers that are no characters
  have hleast : (if 0xF0 + n / 262144 = 0xF0 then 0x90 else 0x80) ≤
      (0x80 + n / 4096 % 64).toUInt8 :=
    ite_le_toUInt8 (by omega) (fun _ => show 0x90 ≤ _ by omega) fun _ => show 0x80 ≤ _ by omega
  have hmost : (0x80 + n / 4096 % 64).toUInt8 ≤ if 0xF0 + n / 262144 = 0xF4 then 0x8F else 0xBF :=
    toUInt8_le_ite (by omega) (fun _ => show _ ≤ 0x8F by omega) fun _ => show _ ≤ 0xBF by omega
  rw [nextChar_lead (by omega) (lead?_four (by omega) (by omega)) hleast hmost, hsecond, leadBits,
    hfirst, readTail_cons, readTail_cons]
  have hvalue : (((0xF0 + n / 262144 - 0xF0) * 64 + (0x80 + n / 4096 % 64 - 0x80)) * 64
      + n / 64 % 64) * 64 + n % 64 = n := by omega
  show Start.char (Char.ofNat ((((0xF0 + n / 262144 - 0xF0) * 64
    + (0x80 + n / 4096 % 64 - 0x80)) * 64 + n / 64 % 64) * 64 + n % 64)) 4 = _
  rw [hvalue]

/-- The bytes of a character are read as this character, whatever follows them. -/
theorem nextChar_encodeChar (c : Char) (rest : Bytes) :
    ∃ b more, encodeChar c = b :: more ∧
      nextChar b (more ++ rest) = .char c (more.length + 1) := by
  have hvalid : c.toNat < 0xD800 ∨ (0xDFFF < c.toNat ∧ c.toNat < 0x110000) := c.valid
  have hchar : Char.ofNat c.toNat = c := Char.ofNat_toNat c
  unfold encodeChar
  dsimp only
  by_cases hone : c.toNat < 0x80
  · rw [if_pos hone]
    exact ⟨_, _, rfl, by rw [nextChar_one hone, hchar]; rfl⟩
  rw [if_neg hone]
  by_cases htwo : c.toNat < 0x800
  · rw [if_pos htwo]
    exact ⟨_, _, rfl, (nextChar_two (by omega) htwo rest).trans (by rw [hchar]; rfl)⟩
  rw [if_neg htwo]
  by_cases hthree : c.toNat < 0x10000
  · rw [if_pos hthree]
    exact ⟨_, _, rfl,
      (nextChar_three (by omega) hthree (by omega) rest).trans (by rw [hchar]; rfl)⟩
  · rw [if_neg hthree]
    exact ⟨_, _, rfl, (nextChar_four (by omega) (by omega) rest).trans (by rw [hchar]; rfl)⟩

theorem encodeChar_ne_nil (c : Char) : encodeChar c ≠ [] := by
  obtain ⟨b, more, hbytes, -⟩ := nextChar_encodeChar c []
  rw [hbytes]
  exact List.cons_ne_nil b more

/-- The bytes of a character beyond the first half of a byte are all in the second half. -/
theorem le_of_mem_encodeChar {c : Char} {b : UInt8} (h : 0x80 ≤ c.toNat) (hb : b ∈ encodeChar c) :
    0x80 ≤ b.toNat := by
  have hbyte : ∀ n, 0x80 ≤ n → n < 0x100 → 0x80 ≤ n.toUInt8.toNat := by
    intro n hlow hhigh
    rwa [toNat_toUInt8 hhigh]
  have htail : ∀ n, 0x80 ≤ (0x80 + n % 64).toUInt8.toNat :=
    fun n => hbyte _ (by omega) (by omega)
  have hvalid : c.toNat < 0xD800 ∨ (0xDFFF < c.toNat ∧ c.toNat < 0x110000) := c.valid
  unfold encodeChar at hb
  dsimp only at hb
  -- by the number of bytes; all but the first hold six bits above the first half
  split_ifs at hb with hone htwo hthree
  · omega
  · simp only [List.mem_cons, List.not_mem_nil, or_false] at hb
    rcases hb with rfl | rfl
    · exact hbyte _ (by omega) (by omega)
    · exact htail _
  · simp only [List.mem_cons, List.not_mem_nil, or_false] at hb
    rcases hb with rfl | rfl | rfl
    · exact hbyte _ (by omega) (by omega)
    · exact htail _
    · exact htail _
  · simp only [List.mem_cons, List.not_mem_nil, or_false] at hb
    rcases hb with rfl | rfl | rfl | rfl
    · exact hbyte _ (by omega) (by omega)
    · exact htail _
    · exact htail _
    · exact htail _

/-! ### A text -/

theorem decodeWith_append (bad : Option Char) (skipped rest : Bytes) :
    decodeWith bad skipped.length (skipped ++ rest) = decodeWith bad 0 rest := by
  induction skipped with
  | nil => rfl
  | cons b more ih => exact ih

theorem decodeWith_encodeChar (bad : Option Char) (c : Char) (rest : Bytes) :
    decodeWith bad 0 (encodeChar c ++ rest) = (decodeWith bad 0 rest).map (c :: ·) := by
  obtain ⟨b, more, hbytes, hnext⟩ := nextChar_encodeChar c rest
  rw [hbytes, List.cons_append, decodeWith, hnext]
  dsimp only
  rw [Nat.add_sub_cancel, decodeWith_append]

/-- An encoded text comes back, whatever stands for ill-formed bytes. -/
theorem decodeWith_encodeChars (bad : Option Char) (cs : List Char) :
    decodeWith bad 0 (encodeChars cs) = some cs := by
  induction cs with
  | nil => rfl
  | cons c rest ih =>
    rw [encodeChars, List.flatMap_cons, decodeWith_encodeChar]
    rw [encodeChars] at ih
    rw [ih]
    rfl

theorem decodeLossyChars_encodeChars (cs : List Char) :
    decodeLossyChars (encodeChars cs) = cs := by
  rw [decodeLossyChars, decodeWith_encodeChars]
  rfl

end Utf8

end JuliaSession.Text
