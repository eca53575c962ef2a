import Mathlib.Tactic.SplitIfs
import JuliaSession.Json.Print
import JuliaSession.Proofs.Json.Spelling

/-!
# Reading spelled strings

A string that is written letter by letter is read as what its letters mean, and it is one token of a
commented text. Both readers go through the text from left to right, so both statements are made of
one statement a letter.

* `Reads cs out`: wherever `cs` stands in a string, it is read as `out`.
* `Passes cs`: wherever `cs` stands in a string token, it does not end the token.

The strings that are written are among these, so they tell where they end:
`eq_of_quoteChars_append`.
-/

namespace JuliaSession.Json.Spelling

open Commented (stringToken)

/-! ### What is read -/

/-- Wherever `cs` stands in a string, it is read as `out`. -/
def Reads (cs out : List Char) : Prop :=
  ∀ done rest, readString false done (cs ++ rest) = readString false (out.reverse ++ done) rest

theorem Reads.nil : Reads [] [] := fun _ _ => rfl

theorem Reads.append {cs out cs' out' : List Char} (h : Reads cs out) (h' : Reads cs' out') :
    Reads (cs ++ cs') (out ++ out') := by
  intro done rest
  rw [List.append_assoc, h, h', List.reverse_append, List.append_assoc]

/-- A character that stands for itself is neither a quote nor a backslash. -/
theorem isLiteral_iff {c : Char} :
    isLiteral c = true ↔ c ≠ '"' ∧ c ≠ '\\' ∧ 32 ≤ c.toNat := by
  simp only [isLiteral, Bool.and_eq_true, bne_iff_ne, decide_eq_true_eq, and_assoc]

theorem reads_literal {c : Char} (h : isLiteral c = true) : Reads [c] [c] := by
  intro done rest
  obtain ⟨hquote, hbackslash, hcontrol⟩ := isLiteral_iff.1 h
  have hallowed : controlAllowed false c = true := by
    simp [controlAllowed, hcontrol]
  rw [List.singleton_append, readString, if_pos hallowed]
  · rfl
  · exact hquote
  · exact fun _ _ _ _ _ _ _ _ _ h => absurd h hbackslash
  · exact fun _ _ _ _ _ h => absurd h hbackslash
  · exact fun _ _ h => absurd h hbackslash

theorem reads_escape {letter c : Char} (h : escaped? letter = some c) :
    Reads ['\\', letter] [c] := by
  intro done rest
  have hletter : letter ≠ 'u' := by
    rintro rfl
    cases h
  rw [List.cons_append, List.singleton_append, readString, h]
  · rfl
  · exact fun _ _ _ _ _ _ _ _ _ h => absurd h hletter
  · exact fun _ _ _ _ _ h => absurd h hletter

/-- Does a text go on with an escape of a code unit? -/
def goesOnWithUnit (rest : List Char) : Prop :=
  ∃ e f g h more, rest = '\\' :: 'u' :: e :: f :: g :: h :: more

/-- An escape of a code unit that is not followed by another one. -/
theorem readString_lone_unit {rest : List Char} (h : ¬ goesOnWithUnit rest)
    (done : List Char) (a b c d : Char) :
    readString false done ('\\' :: 'u' :: a :: b :: c :: d :: rest) =
      (hexFour? a b c d).bind fun unit => readString false (unitChar unit :: done) rest := by
  rw [readString]
  · rfl
  · intro e f g h' more hrest
    exact h ⟨e, f, g, h', more, hrest⟩

/-- An escape of what is no code unit is not read. -/
theorem readString_bad_unit {a b c d : Char} (h : hexFour? a b c d = none)
    (done rest : List Char) :
    readString false done ('\\' :: 'u' :: a :: b :: c :: d :: rest) = none := by
  by_cases hmore : goesOnWithUnit rest
  · obtain ⟨e, f, g, h', more, rfl⟩ := hmore
    rw [readString, h]
    rfl
  · rw [readString_lone_unit hmore, h]
    rfl

/-- A code unit that is no high surrogate stands for itself, whatever follows. -/
theorem readString_unit (digits : HexFour) (hhigh : isHighSurrogate digits.code = false)
    (done rest : List Char) :
    readString false done (digits.text ++ rest) =
      readString false (unitChar digits.code :: done) rest := by
  by_cases hmore : goesOnWithUnit rest
  · obtain ⟨e, f, g, h, more, rfl⟩ := hmore
    simp only [HexFour.text, List.cons_append, List.nil_append]
    rw [readString, digits.reads]
    -- the reader looks at two escapes at once, which is the same as one after the other
    cases hlow : hexFour? e f g h with
    | none => exact (readString_bad_unit hlow _ _).symm
    | some low =>
      simp only [Option.bind_eq_bind, Option.bind_some, hhigh, Bool.false_and, if_false,
        Bool.false_eq_true]
      split
      next => rfl
      next hlow' =>
        exact (readString_unit ⟨e, f, g, h, low, hlow⟩ (Bool.not_eq_true _ ▸ hlow') _ more).symm
  · exact (readString_lone_unit hmore done _ _ _ _).trans (by rw [digits.reads]; rfl)
termination_by rest.length

theorem reads_unit {digits : HexFour}
    (h : (isHighSurrogate digits.code || isLowSurrogate digits.code) = false) :
    Reads digits.text [Char.ofNat digits.code] := by
  intro done rest
  have hhigh := (Bool.or_eq_false_iff.1 h).1
  rw [readString_unit digits hhigh, unitChar, h]
  rfl

theorem reads_pair {high low : HexFour} (hhigh : isHighSurrogate high.code = true)
    (hlow : isLowSurrogate low.code = true) :
    Reads (high.text ++ low.text)
      [Char.ofNat (0x10000 + (high.code - 0xD800) * 1024 + (low.code - 0xDC00))] := by
  intro done rest
  simp only [HexFour.text, List.cons_append, List.nil_append]
  rw [readString]
  simp only [high.reads, low.reads, hhigh, hlow, Option.bind_eq_bind, Option.bind_some,
    Bool.and_self, if_true]
  rfl

theorem Letter.reads (letter : Letter) : Reads letter.text [letter.char] := by
  cases letter with
  | literal c h => exact reads_literal h
  | escape letter c h => exact reads_escape h
  | unit digits h => exact reads_unit h
  | pair high low hhigh hlow => exact reads_pair hhigh hlow

theorem reads_literals {cs : List Char} (h : ∀ c ∈ cs, isLiteral c = true) : Reads cs cs := by
  induction cs with
  | nil => exact .nil
  | cons c rest ih =>
    obtain ⟨hc, hrest⟩ := List.forall_mem_cons.1 h
    exact (reads_literal hc).append (ih hrest)

/-- A string whose holes are filled with characters that stand for themselves is read as what it
means. -/
theorem reads_parts {filling : List Char} (h : ∀ c ∈ filling, isLiteral c = true)
    (parts : List (Option Letter)) :
    Reads (render filling (partPieces parts)) (meant filling parts) := by
  induction parts with
  | nil => exact .nil
  | cons part rest ih =>
    cases part with
    | none => exact (reads_literals h).append ih
    | some letter =>
      rw [partPieces, List.flatMap_cons, render_append, meant, List.flatMap_cons]
      refine Reads.append ?_ ih
      rw [Option.elim_some, Option.elim_some, render_chars]
      exact letter.reads

theorem reads_key (key : List Letter) : Reads (keyText key) (key.map Letter.char) := by
  induction key with
  | nil => exact .nil
  | cons letter rest ih => exact letter.reads.append ih

/-- The value of a whole string. -/
theorem readChars?_string {cs out : List Char} (h : Reads cs out) :
    readChars? ('"' :: cs ++ ['"']) = some (.str (String.ofList out)) := by
  have hread : readString false [] (cs ++ ['"']) = some (String.ofList out, []) := by
    rw [h, readString_quote, List.append_nil, List.reverse_reverse]
  have hskip : skipSpace ('"' :: cs ++ ['"']) = '"' :: (cs ++ ['"']) := rfl
  rw [readChars?, readWith, hskip]
  simp only [readValue, Rules.strict, hread]
  rfl

/-! ### What is written -/

/-- Controls are written as code units. -/
theorem reads_control {n : Nat} (h : n < 32) :
    Reads ('\\' :: 'u' :: Text.hexFixed 4 n) [Char.ofNat n] := by
  have hread : ∀ m : Fin 32, hexFour? '0' '0' (Text.hexDigit (m / 16)) (Text.hexDigit (m % 16)) =
      some m.val := by decide
  have hdigits : Text.hexFixed 4 n =
      ['0', '0', Text.hexDigit (n / 16), Text.hexDigit (n % 16)] := by
    have hshort : n / 16 % 16 = n / 16 := Nat.mod_eq_of_lt (by omega)
    have hnone : n / 16 / 16 = 0 := by omega
    simp only [Text.hexFixed, hshort, hnone]
    rfl
  -- a control is no half of a pair, so it is a character by itself
  have hunit : (isHighSurrogate n || isLowSurrogate n) = false := by
    have hlow : n < 0xD800 := by omega
    simp only [isHighSurrogate, isLowSurrogate, Nat.not_le_of_lt hlow,
      Nat.not_le_of_lt (Nat.lt_trans hlow (by decide : 0xD800 < 0xDC00)), decide_false,
      Bool.false_and, Bool.or_self]
  let digits : HexFour := ⟨_, _, _, _, n, hread ⟨n, h⟩⟩
  have hreads : Reads digits.text [Char.ofNat digits.code] := reads_unit hunit
  rw [hdigits]
  exact hreads

/-- A character that is written is read again. -/
theorem reads_escapeChar (c : Char) : Reads (escapeChar c) [c] := by
  unfold escapeChar
  split_ifs with hquote hbackslash hline hreturn htab hback hfeed hcontrol
  iterate 7
    · subst c
      exact reads_escape rfl
  · have hread := reads_control hcontrol
    rwa [Char.ofNat_toNat] at hread
  · exact reads_literal (isLiteral_iff.2 ⟨hquote, hbackslash, Nat.le_of_not_lt hcontrol⟩)

theorem reads_flatMap_escapeChar (cs : List Char) : Reads (cs.flatMap escapeChar) cs := by
  induction cs with
  | nil => exact .nil
  | cons c cs ih => exact (reads_escapeChar c).append ih

/-- A quoted text tells where it ends, and what it quotes. -/
theorem eq_of_quoteChars_append {cs cs' rest rest' : List Char}
    (h : quoteChars cs ++ rest = quoteChars cs' ++ rest') : cs = cs' ∧ rest = rest' := by
  have hread (cs rest : List Char) :
      readString false [] ((quoteChars cs ++ rest).tail) = some (String.ofList cs, rest) := by
    rw [quoteChars, List.cons_append, List.cons_append, List.tail_cons, List.append_assoc,
      reads_flatMap_escapeChar, List.singleton_append, readString_quote, List.append_nil,
      List.reverse_reverse]
  have hboth : some (String.ofList cs, rest) = some (String.ofList cs', rest') := by
    rw [← hread, ← hread, h]
  obtain ⟨htext, hrest⟩ := Prod.mk.inj (Option.some.inj hboth)
  exact ⟨String.ofList_injective htext, hrest⟩

/-! ### String tokens -/

/-- Wherever `cs` stands in a string token, it does not end the token. -/
def Passes (cs : List Char) : Prop :=
  ∀ done rest, stringToken done false (cs ++ rest) = stringToken (cs.reverse ++ done) false rest

theorem Passes.nil : Passes [] := fun _ _ => rfl

theorem Passes.append {cs cs' : List Char} (h : Passes cs) (h' : Passes cs') :
    Passes (cs ++ cs') := by
  intro done rest
  rw [List.append_assoc, h, h', List.reverse_append, List.append_assoc]

theorem passes_literal {c : Char} (h : isLiteral c = true) : Passes [c] := by
  intro done rest
  obtain ⟨hquote, hbackslash, hcontrol⟩ := isLiteral_iff.1 h
  have hline : c ≠ '\n' := by
    rintro rfl
    exact absurd hcontrol (by decide)
  rw [List.singleton_append, stringToken, if_neg hline, if_neg fun h => hquote h.1,
    decide_eq_false hbackslash]
  rfl

/-- A backslash keeps the next character from ending the token. -/
theorem passes_escape {letter : Char} (h : letter ≠ '\n') : Passes ['\\', letter] := by
  intro done rest
  simp [stringToken, h]

theorem passes_literals {cs : List Char} (h : ∀ c ∈ cs, isLiteral c = true) : Passes cs := by
  induction cs with
  | nil => exact .nil
  | cons c rest ih =>
    obtain ⟨hc, hrest⟩ := List.forall_mem_cons.1 h
    exact (passes_literal hc).append (ih hrest)

/-- A hexadecimal digit stands for itself. -/
theorem isLiteral_of_hexValue? {c : Char} {n : Nat} (h : hexValue? c = some n) :
    isLiteral c = true := by
  have hcontrol : 32 ≤ c.toNat := by
    have hzero : '0' ≤ c ∨ 'a' ≤ c ∨ 'A' ≤ c := by
      unfold hexValue? at h
      grind
    rcases hzero with hle | hle | hle
    · exact Nat.le_trans (by decide) (UInt32.le_iff_toNat_le.1 hle)
    · exact Nat.le_trans (by decide) (UInt32.le_iff_toNat_le.1 hle)
    · exact Nat.le_trans (by decide) (UInt32.le_iff_toNat_le.1 hle)
  refine isLiteral_iff.2 ⟨?_, ?_, hcontrol⟩
  · rintro rfl
    cases h
  · rintro rfl
    cases h

/-- The digits that write a number are four hexadecimal digits. -/
theorem hexValue?_of_hexFour? {a b c d : Char} {n : Nat} (h : hexFour? a b c d = some n) :
    (hexValue? a).isSome ∧ (hexValue? b).isSome ∧ (hexValue? c).isSome ∧
      (hexValue? d).isSome := by
  simp only [hexFour?, Option.bind_eq_bind, Option.bind_eq_some_iff] at h
  obtain ⟨va, ha, vb, hb, vc, hc, vd, hd, -⟩ := h
  rw [ha, hb, hc, hd]
  exact ⟨rfl, rfl, rfl, rfl⟩

theorem HexFour.passes (digits : HexFour) : Passes digits.text := by
  obtain ⟨ha, hb, hc, hd⟩ := hexValue?_of_hexFour? digits.reads
  have hliteral : ∀ {c : Char}, (hexValue? c).isSome → isLiteral c = true := by
    intro c hc
    obtain ⟨n, hn⟩ := Option.isSome_iff_exists.1 hc
    exact isLiteral_of_hexValue? hn
  have hescape : Passes ['\\', 'u'] := passes_escape (by decide)
  refine hescape.append (passes_literals fun c hmem => ?_)
  simp only [List.mem_cons, List.not_mem_nil, or_false] at hmem
  rcases hmem with rfl | rfl | rfl | rfl
  · exact hliteral ha
  · exact hliteral hb
  · exact hliteral hc
  · exact hliteral hd

theorem Letter.passes (letter : Letter) : Passes letter.text := by
  cases letter with
  | literal c h => exact passes_literal h
  | escape letter c h =>
    refine passes_escape ?_
    rintro rfl
    cases h
  | unit digits h => exact digits.passes
  | pair high low hhigh hlow => exact high.passes.append low.passes

/-- A string whose holes are filled with characters that stand for themselves is one token. -/
theorem passes_parts {filling : List Char} (h : ∀ c ∈ filling, isLiteral c = true)
    (parts : List (Option Letter)) : Passes (render filling (partPieces parts)) := by
  induction parts with
  | nil => exact .nil
  | cons part rest ih =>
    cases part with
    | none => exact (passes_literals h).append ih
    | some letter =>
      rw [partPieces, List.flatMap_cons, render_append]
      refine Passes.append ?_ ih
      rw [Option.elim_some, render_chars]
      exact letter.passes

theorem passes_key (key : List Letter) : Passes (keyText key) := by
  induction key with
  | nil => exact .nil
  | cons letter rest ih => exact letter.passes.append ih

/-- The token of a whole string. -/
theorem stringToken_of_passes {cs : List Char} (h : Passes cs) (rest : List Char) :
    stringToken ['"'] false (cs ++ '"' :: rest) = some ('"' :: cs ++ ['"'], rest) := by
  rw [h, stringToken, if_neg (by decide), if_pos ⟨rfl, rfl⟩, List.reverse_cons,
    List.reverse_append, List.reverse_reverse]
  rfl

end JuliaSession.Json.Spelling
