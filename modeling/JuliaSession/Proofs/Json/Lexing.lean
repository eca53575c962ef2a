import JuliaSession.Proofs.Json.Strings
import Mathlib.Data.List.TakeDrop

/-!
# The tokens of a spelled text

A text that is written as a tree is cut into the tokens of the tree, whatever stands around it, as
long as what follows does not go on with a number.

* `numberToken?_text`: a number is one token.
* `Tree.tokens_text`: the tokens of a value.
-/

namespace JuliaSession.Json.Spelling

open Commented (Token nextToken? signToken exponentToken digitsToken? numberToken? skipBlank)

/-! ### Numbers -/

/-- A text that does not go on with a number that ends here. -/
def Stops (rest : List Char) : Prop :=
  ∀ c more, rest = c :: more → c.isDigit = false ∧ c ≠ '.' ∧ c ≠ 'e' ∧ c ≠ 'E'

theorem stops_nil : Stops [] := nofun

theorem stops_cons {c : Char} (more : List Char)
    (h : c.isDigit = false ∧ c ≠ '.' ∧ c ≠ 'e' ∧ c ≠ 'E') : Stops (c :: more) := by
  rintro _ _ ⟨⟩
  exact h

/-- White space does not go on with a number. -/
theorem Stops.blank {rest : List Char} (h : Stops rest) (blank : Blank) :
    Stops (blank.chars ++ rest) := by
  cases hchars : blank.chars with
  | nil => exact h
  | cons c more =>
    have hspace : isSpace c = true := blank.blank c (by rw [hchars]; exact List.mem_cons_self)
    refine stops_cons _ ⟨?_, ?_, ?_, ?_⟩
    · simp only [isSpace, Bool.or_eq_true, decide_eq_true_eq] at hspace
      rcases hspace with ((rfl | rfl) | rfl) | rfl <;> rfl
    all_goals
      rintro rfl
      cases hspace

/-- Digits end where no digit follows. -/
theorem spanDigits_append {ds rest : List Char} (hdigit : ∀ c ∈ ds, c.isDigit = true)
    (hrest : ∀ c more, rest = c :: more → c.isDigit = false) :
    spanDigits (ds ++ rest) = (ds, rest) := by
  have hstop : rest.takeWhile Char.isDigit = [] ∧ rest.dropWhile Char.isDigit = rest := by
    cases rest with
    | nil => exact ⟨rfl, rfl⟩
    | cons c more =>
      have hc := hrest c more rfl
      rw [List.takeWhile_cons, List.dropWhile_cons, hc]
      exact ⟨rfl, rfl⟩
  rw [spanDigits, List.span_eq_takeWhile_dropWhile, List.takeWhile_append_of_pos hdigit,
    List.dropWhile_append_of_pos hdigit, hstop.1, hstop.2, List.append_nil]

theorem Digits.span (digits : Digits) {rest : List Char}
    (hrest : ∀ c more, rest = c :: more → c.isDigit = false) :
    spanDigits (digits.chars ++ rest) = (digits.chars, rest) :=
  spanDigits_append digits.digit hrest

/-- The first of some digits. -/
theorem Digits.exists_cons (digits : Digits) :
    ∃ d ds, digits.chars = d :: ds ∧ d.isDigit = true := by
  cases hchars : digits.chars with
  | nil => exact absurd hchars digits.nonempty
  | cons d ds => exact ⟨d, ds, rfl, digits.digit d (by rw [hchars]; exact List.mem_cons_self)⟩

/-- A text without a sign at its start. -/
theorem signToken_of_digit {d : Char} (hd : d.isDigit = true) (cs : List Char) :
    signToken (d :: cs) = ([], d :: cs) := by
  unfold signToken
  split
  next heq =>
    cases heq
    cases hd
  next heq =>
    cases heq
    cases hd
  next => rfl

theorem exponentToken_text (exponent : Option Exponent) {rest : List Char} (h : Stops rest) :
    exponentToken (exponentText exponent ++ rest) = (exponentText exponent, rest) := by
  cases exponent with
  | none =>
    cases rest with
    | nil => rfl
    | cons c more =>
      -- what follows must not look like the beginning of an exponent
      obtain ⟨-, -, he, hE⟩ := h c more rfl
      simp [exponentText, exponentToken, he, hE]
  | some exponent =>
    obtain ⟨letter, sign, digits, hletter, hsign⟩ := exponent
    have hspan := digits.span fun c more h' => (h c more h').1
    obtain ⟨d, ds, hchars, hd⟩ := digits.exists_cons
    have hsigned : signToken (sign ++ (d :: (ds ++ rest))) = (sign, d :: (ds ++ rest)) := by
      rcases hsign with rfl | rfl | rfl
      · exact signToken_of_digit hd _
      · rfl
      · rfl
    rw [hchars, List.cons_append] at hspan
    simp only [exponentText, Option.elim_some, hchars, List.cons_append, List.append_assoc,
      exponentToken, if_pos hletter, hsigned, hspan]

/-- Neither an exponent nor what stops a number goes on with its digits. -/
theorem exponentText_head (exponent : Option Exponent) {rest : List Char} (h : Stops rest) :
    ∀ c more, exponentText exponent ++ rest = c :: more → c.isDigit = false ∧ c ≠ '.' := by
  intro c more heq
  cases exponent with
  | none => exact ⟨(h c more heq).1, (h c more heq).2.1⟩
  | some exponent =>
    have hletter := exponent.isLetter
    cases heq
    rcases hletter with hletter | hletter <;> rw [hletter] <;> decide

/-- Digits, with a fraction or none, are one part of a number. -/
theorem digitsToken?_text (whole : Digits) (fraction : Option Digits) {rest : List Char}
    (h : ∀ c more, rest = c :: more → c.isDigit = false ∧ c ≠ '.') :
    digitsToken? (whole.chars ++ fractionText fraction ++ rest) =
      some (whole.chars ++ fractionText fraction, rest) := by
  obtain ⟨d, ds, hchars, hd⟩ := whole.exists_cons
  cases fraction with
  | none =>
    have hwhole := whole.span fun c more h' => (h c more h').1
    rw [hchars] at hwhole ⊢
    simp only [fractionText, Option.elim_none, List.append_nil, digitsToken?, hwhole]
    cases rest with
    | nil => rfl
    | cons c more =>
      have hpoint : c ≠ '.' := (h c more rfl).2
      simp [hpoint]
  | some digits =>
    have hwhole : spanDigits (whole.chars ++ '.' :: (digits.chars ++ rest)) =
        (whole.chars, '.' :: (digits.chars ++ rest)) :=
      whole.span fun c more h' => by
        cases h'
        rfl
    have hfraction := digits.span fun c more h' => (h c more h').1
    rw [hchars] at hwhole ⊢
    simp only [fractionText, Option.elim_some, List.append_assoc, List.cons_append, digitsToken?]
    rw [← List.cons_append, hwhole]
    simp only [hfraction, List.cons_append]

/-- A number is one token. -/
theorem numberToken?_text (number : Numeral) {rest : List Char} (h : Stops rest) :
    numberToken? (number.text ++ rest) = some (number.text, rest) := by
  obtain ⟨negative, whole, fraction, exponent⟩ := number
  have hexponent := exponentToken_text exponent h
  have hdigits := digitsToken?_text whole fraction (exponentText_head exponent h)
  have hsign : ∀ more, signToken ((if negative then ['-'] else []) ++ (whole.chars ++ more)) =
      (if negative then ['-'] else [], whole.chars ++ more) := by
    intro more
    obtain ⟨d, ds, hchars, hd⟩ := whole.exists_cons
    rw [hchars]
    cases negative with
    | true => rfl
    | false => exact signToken_of_digit hd _
  simp only [Numeral.text, List.append_assoc] at hdigits ⊢
  simp only [numberToken?, hsign, hdigits, Option.map_some, hexponent, List.append_assoc]

/-! ### Tokens -/

/-- White space is skipped. -/
theorem skipBlank_append {blank : List Char} (h : ∀ c ∈ blank, isSpace c = true)
    (rest : List Char) : skipBlank (blank ++ rest) = skipBlank rest := by
  induction blank with
  | nil => rfl
  | cons c more ih =>
    obtain ⟨hc, hmore⟩ := List.forall_mem_cons.1 h
    have hspace : Commented.isSpace c = true := by
      rw [Commented.isSpace, hc, Bool.true_or]
    rw [← ih hmore]
    conv => lhs; unfold skipBlank
    simp only [List.cons_append, hspace, if_true]

/-- Neither white space nor a comment starts with the character. -/
def StartsToken (c : Char) : Prop := Commented.isSpace c = false ∧ c ≠ '#' ∧ c ≠ '/'

theorem skipBlank_cons {c : Char} (h : StartsToken c) (rest : List Char) :
    skipBlank (c :: rest) = c :: rest := by
  obtain ⟨hspace, hcomment, hslash⟩ := h
  unfold skipBlank
  simp only [hspace, Bool.false_eq_true, if_false, hcomment, hslash]

/-- Some tokens, and then those of the rest of a text. -/
def prepend (ts : List Token) (rest : List Token × Bool) : List Token × Bool :=
  (ts ++ rest.1, rest.2)

@[simp]
theorem prepend_append (ts more : List Token) (rest : List Token × Bool) :
    prepend (ts ++ more) rest = prepend ts (prepend more rest) := by
  rw [prepend, List.append_assoc]
  rfl

theorem tokens_blank (blank : Blank) (fuel : Nat) (rest : List Char) :
    Commented.tokens fuel (blank.chars ++ rest) = Commented.tokens fuel rest := by
  cases fuel with
  | zero => rfl
  | succ fuel => rw [Commented.tokens, Commented.tokens, skipBlank_append blank.blank]

/-- The token at the start of a text, and then those of the rest. -/
theorem tokens_cons {c : Char} {cs rest : List Char} {token : Token} (hc : StartsToken c)
    (h : nextToken? (c :: cs) = some (token, rest)) (fuel : Nat) :
    Commented.tokens (fuel + 1) (c :: cs) = prepend [token] (Commented.tokens fuel rest) := by
  simp only [Commented.tokens, skipBlank_cons hc, h]
  rfl

theorem nextToken?_number {c : Char} (hc : c = '-' ∨ c.isDigit = true) (cs : List Char) :
    nextToken? (c :: cs) =
      (numberToken? (c :: cs)).map fun (raw, rest) => (.number raw, rest) := by
  have hother : ∀ {d : Char}, d ≠ '-' → d.isDigit = false → c ≠ d := by
    rintro d hminus hdigit rfl
    rcases hc with rfl | hc
    · exact hminus rfl
    · rw [hdigit] at hc
      cases hc
  have hbrace : ∀ {n : Nat}, n = 123 ∨ n = 125 → c.toNat ≠ n := by
    rintro n hn rfl
    rcases hc with rfl | hc
    · revert hn
      decide
    · simp only [Char.isDigit, Bool.and_eq_true, decide_eq_true_eq] at hc
      have hle : c.toNat ≤ 57 := UInt32.le_iff_toNat_le.1 hc.2
      omega
  unfold nextToken?
  split
  case h_9 heq =>
    cases heq
    rw [if_neg (hbrace (.inl rfl)), if_neg (hbrace (.inr rfl))]
  case h_10 heq => cases heq
  -- all other tokens begin with a character of their own
  all_goals
    rename_i heq
    exact absurd (List.cons.inj heq).1 (hother (by decide) (by decide))

/-- The token of a string with the given text. -/
def stringOf (cs : List Char) : Token := .string ('"' :: cs ++ ['"'])

mutual

/-- The tokens of a value whose holes are filled. -/
def Tree.tokens (filling : List Char) : Tree → List Token
  | .null => [.word .null]
  | .bool b => [.word (.bool b)]
  | .number numeral _ _ => [.number numeral.text]
  | .string parts => [stringOf (render filling (partPieces parts))]
  | .emptyArray _ => [.openBracket, .closeBracket]
  | .array items => .openBracket :: items.tokens filling
  | .emptyObject _ => [.openBrace, .closeBrace]
  | .object members => .openBrace :: members.tokens filling

/-- The tokens of items, with the bracket that closes the array. -/
def Items.tokens (filling : List Char) : Items → List Token
  | .last _ item _ => item.tokens filling ++ [.closeBracket]
  | .more _ item _ rest => item.tokens filling ++ .comma :: rest.tokens filling

/-- The tokens of members, with the brace that closes the object. -/
def Members.tokens (filling : List Char) : Members → List Token
  | .last _ key _ _ item _ =>
    stringOf (keyText key) :: .colon :: (item.tokens filling ++ [.closeBrace])
  | .more _ key _ _ item _ rest =>
    stringOf (keyText key) :: .colon :: (item.tokens filling ++ .comma :: rest.tokens filling)

end

theorem tokens_number (numeral : Numeral) {rest : List Char} (h : Stops rest) (fuel : Nat) :
    Commented.tokens (fuel + 1) (numeral.text ++ rest) =
      prepend [.number numeral.text] (Commented.tokens fuel rest) := by
  have htoken := numberToken?_text numeral h
  -- a number starts with its sign or with a digit
  obtain ⟨c, cs, htext, hc⟩ : ∃ c cs, numeral.text ++ rest = c :: cs ∧
      (c = '-' ∨ c.isDigit = true) := by
    obtain ⟨d, ds, hchars, hd⟩ := numeral.whole.exists_cons
    rw [Numeral.text, hchars]
    cases numeral.negative with
    | true => exact ⟨_, _, rfl, .inl rfl⟩
    | false => exact ⟨_, _, rfl, .inr hd⟩
  have hstart : StartsToken c := by
    rcases hc with rfl | hc
    · exact ⟨rfl, by decide, by decide⟩
    · refine ⟨Bool.eq_false_iff.2 fun hspace => ?_, ?_, ?_⟩
      · simp only [Commented.isSpace, isSpace, Bool.or_eq_true, decide_eq_true_eq] at hspace
        rcases hspace with (((rfl | rfl) | rfl) | rfl) | rfl <;> cases hc
      all_goals
        rintro rfl
        cases hc
  rw [htext] at htoken ⊢
  exact tokens_cons hstart (by rw [nextToken?_number hc, htoken]; rfl) fuel

/-- A string of which no part ends it. -/
theorem tokens_string {cs : List Char} (h : Passes cs) (rest : List Char) (fuel : Nat) :
    Commented.tokens (fuel + 1) ('"' :: (cs ++ '"' :: rest)) =
      prepend [stringOf cs] (Commented.tokens fuel rest) := by
  refine tokens_cons ⟨rfl, by decide, by decide⟩ ?_ fuel
  rw [nextToken?, stringToken_of_passes h]
  rfl

section Punctuation

variable (fuel : Nat) (rest : List Char)

theorem tokens_openBracket : Commented.tokens (fuel + 1) ('[' :: rest) =
    prepend [.openBracket] (Commented.tokens fuel rest) :=
  tokens_cons ⟨rfl, by decide, by decide⟩ rfl fuel

theorem tokens_closeBracket : Commented.tokens (fuel + 1) (']' :: rest) =
    prepend [.closeBracket] (Commented.tokens fuel rest) :=
  tokens_cons ⟨rfl, by decide, by decide⟩ rfl fuel

theorem tokens_openBrace : Commented.tokens (fuel + 1) (Char.ofNat 123 :: rest) =
    prepend [.openBrace] (Commented.tokens fuel rest) :=
  tokens_cons ⟨rfl, by decide, by decide⟩ rfl fuel

theorem tokens_closeBrace : Commented.tokens (fuel + 1) (Char.ofNat 125 :: rest) =
    prepend [.closeBrace] (Commented.tokens fuel rest) :=
  tokens_cons ⟨rfl, by decide, by decide⟩ rfl fuel

theorem tokens_comma : Commented.tokens (fuel + 1) (',' :: rest) =
    prepend [.comma] (Commented.tokens fuel rest) :=
  tokens_cons ⟨rfl, by decide, by decide⟩ rfl fuel

theorem tokens_colon : Commented.tokens (fuel + 1) (':' :: rest) =
    prepend [.colon] (Commented.tokens fuel rest) :=
  tokens_cons ⟨rfl, by decide, by decide⟩ rfl fuel

end Punctuation

/-- The tokens of a key and its colon. -/
theorem tokens_key (before : Blank) (key : List Letter) (afterKey beforeValue : Blank)
    (fuel : Nat) (rest : List Char) :
    Commented.tokens (fuel + 2) (before.chars ++ '"' :: (keyText key ++ '"' ::
        (afterKey.chars ++ ':' :: (beforeValue.chars ++ rest)))) =
      prepend [stringOf (keyText key), .colon] (Commented.tokens fuel rest) := by
  rw [tokens_blank, tokens_string (passes_key key), tokens_blank, tokens_colon, tokens_blank]
  rfl

mutual

/-- The text of a value is cut into its tokens, as long as no number goes on. -/
theorem Tree.tokens_text {filling : List Char} (hliteral : ∀ c ∈ filling, isLiteral c = true)
    (tree : Tree) (fuel : Nat) {rest : List Char} (h : Stops rest) :
    Commented.tokens (fuel + (tree.tokens filling).length) (render filling tree.pieces ++ rest) =
      prepend (tree.tokens filling) (Commented.tokens fuel rest) := by
  cases tree with
  | null => exact tokens_cons ⟨rfl, by decide, by decide⟩ rfl fuel
  | bool b => cases b <;> exact tokens_cons ⟨rfl, by decide, by decide⟩ rfl fuel
  | number numeral value reads =>
    rw [Tree.pieces, render_chars]
    exact tokens_number numeral h fuel
  | string parts =>
    simp only [Tree.pieces, render_char, render_append, render_nil, List.cons_append,
      List.append_assoc, List.nil_append]
    exact tokens_string (passes_parts hliteral parts) rest fuel
  | emptyArray inside =>
    simp only [Tree.pieces, render_char, render_append, render_chars, render_nil,
      List.cons_append, List.append_assoc, List.nil_append]
    refine (tokens_openBracket (fuel + 1) _).trans ?_
    rw [tokens_blank, tokens_closeBracket]
    rfl
  | array items =>
    refine (tokens_openBracket (fuel + (items.tokens filling).length) _).trans ?_
    exact congrArg (prepend _) (Items.tokens_text hliteral items fuel rest)
  | emptyObject inside =>
    simp only [Tree.pieces, render_char, render_append, render_chars, render_nil,
      List.cons_append, List.append_assoc, List.nil_append]
    refine (tokens_openBrace (fuel + 1) _).trans ?_
    rw [tokens_blank, tokens_closeBrace]
    rfl
  | object members =>
    refine (tokens_openBrace (fuel + (members.tokens filling).length) _).trans ?_
    exact congrArg (prepend _) (Members.tokens_text hliteral members fuel rest)

/-- The text of items is cut into their tokens. -/
theorem Items.tokens_text {filling : List Char} (hliteral : ∀ c ∈ filling, isLiteral c = true)
    (items : Items) (fuel : Nat) (rest : List Char) :
    Commented.tokens (fuel + (items.tokens filling).length) (render filling items.pieces ++ rest) =
      prepend (items.tokens filling) (Commented.tokens fuel rest) := by
  cases items with
  | last before item after =>
    -- an item that is a number ends there, as a blank, a comma or a bracket does not go on with it
    have hstops : Stops (after.chars ++ ']' :: rest) :=
      (stops_cons rest (by decide)).blank after
    have hitem := Tree.tokens_text hliteral item (fuel + 1) hstops
    rw [tokens_blank, tokens_closeBracket, ← prepend_append] at hitem
    simp only [Items.pieces, Items.tokens, render_char, render_append, render_chars, render_nil,
      List.append_assoc, List.cons_append, List.nil_append, List.length_append,
      List.length_singleton]
    rw [tokens_blank, Nat.add_comm _ 1, ← Nat.add_assoc]
    exact hitem
  | more before item after more =>
    have hstops : Stops (after.chars ++ ',' :: (render filling more.pieces ++ rest)) :=
      (stops_cons _ (by decide)).blank after
    have hitem := Tree.tokens_text hliteral item (fuel + (more.tokens filling).length + 1) hstops
    rw [tokens_blank, tokens_comma, Items.tokens_text hliteral more fuel rest, ← prepend_append,
      ← prepend_append, List.append_assoc] at hitem
    have hfuel : fuel + ((item.tokens filling).length + ((more.tokens filling).length + 1)) =
        fuel + (more.tokens filling).length + 1 + (item.tokens filling).length := by omega
    simp only [Items.pieces, Items.tokens, render_char, render_append, render_chars,
      List.append_assoc, List.cons_append, List.length_append, List.length_cons]
    rw [tokens_blank, hfuel]
    exact hitem

/-- The text of members is cut into their tokens. -/
theorem Members.tokens_text {filling : List Char}
    (hliteral : ∀ c ∈ filling, isLiteral c = true) (members : Members) (fuel : Nat)
    (rest : List Char) :
    Commented.tokens (fuel + (members.tokens filling).length)
        (render filling members.pieces ++ rest) =
      prepend (members.tokens filling) (Commented.tokens fuel rest) := by
  cases members with
  | last before key afterKey beforeValue item after =>
    have hstops : Stops (after.chars ++ Char.ofNat 125 :: rest) :=
      (stops_cons rest (by decide)).blank after
    have hitem := Tree.tokens_text hliteral item (fuel + 1) hstops
    rw [tokens_blank, tokens_closeBrace, ← prepend_append] at hitem
    have hfuel : fuel + ((item.tokens filling).length + 1 + 1 + 1) =
        fuel + 1 + (item.tokens filling).length + 2 := by omega
    simp only [Members.pieces, Members.tokens, render_char, render_append, render_chars,
      render_nil, List.append_assoc, List.cons_append, List.nil_append, List.length_append,
      List.length_cons, List.length_nil, Nat.zero_add]
    rw [hfuel, tokens_key, hitem]
    rfl
  | more before key afterKey beforeValue item after more =>
    have hstops : Stops (after.chars ++ ',' :: (render filling more.pieces ++ rest)) :=
      (stops_cons _ (by decide)).blank after
    have hitem := Tree.tokens_text hliteral item (fuel + (more.tokens filling).length + 1) hstops
    rw [tokens_blank, tokens_comma, Members.tokens_text hliteral more fuel rest, ← prepend_append,
      ← prepend_append, List.append_assoc] at hitem
    have hfuel : fuel + ((item.tokens filling).length + ((more.tokens filling).length + 1) + 1 +
          1) =
        fuel + (more.tokens filling).length + 1 + (item.tokens filling).length + 2 := by omega
    simp only [Members.pieces, Members.tokens, render_char, render_append, render_chars,
      List.append_assoc, List.cons_append, List.length_append, List.length_cons]
    rw [hfuel, tokens_key, hitem]
    rfl

end

end JuliaSession.Json.Spelling
