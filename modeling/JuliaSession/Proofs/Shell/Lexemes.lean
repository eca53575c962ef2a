import JuliaSession.Proofs.Shell.Tokens
import JuliaSession.Proofs.Text.Utf8
import JuliaSession.Shell.State

/-!
# The words of a line, as the shell reads them

The shell works on bytes, and the lines that are written for it are texts. A line of words, joined
to further ones by operators, is read as these words and operators by the quoting rules and by the
shell itself.

* `ofChars_quoteChars`: quoting a text and taking its bytes can be done in any order.
* `lexemes?`: the words and operators that the shell finds in a line, if no word has an expansion.
* `Decodes`: a line is read as some words and operators in both ways; `decodes_written` says that
  this is so for every line that was written from them.
-/

namespace JuliaSession.Shell

variable {cs cs' : List Char} {c : Char}

/-! ### Bytes of a quoted text -/

/-- The bytes of some characters, one character for each. -/
def ofChars (cs : List Char) : ByteText := ofBytes (Text.Utf8.encodeChars cs)

theorem ofChars_append (cs cs' : List Char) : ofChars (cs ++ cs') = ofChars cs ++ ofChars cs' := by
  simp [ofChars, ofBytes, Text.Utf8.encodeChars]

theorem ofChars_cons (c : Char) (cs : List Char) : ofChars (c :: cs) = ofChars [c] ++ ofChars cs :=
  ofChars_append [c] cs

theorem toNat_ofNat_toNat (b : UInt8) : (Char.ofNat b.toNat).toNat = b.toNat := by
  have hvalid : b.toNat.isValidChar := .inl (Nat.lt_trans b.toNat_lt (by decide))
  rw [Char.ofNat, dif_pos hvalid]
  rfl

/-- A character of the first half of the bytes is its own byte. -/
theorem ofChars_ascii (h : c.toNat < 0x80) : ofChars [c] = [c] := by
  have hbyte : Text.Utf8.encodeChar c = [c.toNat.toUInt8] := if_pos h
  simp only [ofChars, ofBytes, Text.Utf8.encodeChars, List.flatMap_singleton, hbyte,
    List.map_singleton, Text.Utf8.toNat_toUInt8 (Nat.lt_trans h (by decide)), Char.ofNat_toNat]

/-- Bytes are read back as the text. -/
theorem asString_ofString (s : String) : asString (ofString s) = s := by
  have hbytes : toBytes (ofString s) = Text.Utf8.encodeChars s.toList := by
    unfold toBytes ofString ofBytes Text.Utf8.encode
    rw [List.map_map]
    refine (List.map_congr_left fun b _ => ?_).trans (List.map_id _)
    rw [Function.comp_apply, toNat_ofNat_toNat]
    exact UInt8.ofNat_toNat
  rw [asString, hbytes, Text.Utf8.decodeLossy, Text.Utf8.decodeLossyChars_encodeChars,
    String.ofList_toList]

/-- Only characters of the first half need no quotes. -/
theorem lt_of_isSafe (h : isSafe c = true) : c.toNat < 0x80 := by
  unfold isSafe at h
  simp only [Bool.or_eq_true, decide_eq_true_eq] at h
  rcases h with (((((((((halnum | rfl) | rfl) | rfl) | rfl) | rfl) | rfl) | rfl) | rfl) | rfl) | rfl
  · have hrange := Text.isAlphanum_iff.1 halnum
    omega
  all_goals decide

theorem isSafe_eq_false (h : 0x80 ≤ c.toNat) : isSafe c = false :=
  eq_false_of_ne_true fun hsafe => Nat.not_lt.2 h (lt_of_isSafe hsafe)

/-- A character is its own byte, or its bytes are all in the second half. -/
theorem ofChars_singleton (c : Char) :
    ofChars [c] = [c] ∨ 0x80 ≤ c.toNat ∧ ofChars [c] ≠ [] ∧ ∀ b ∈ ofChars [c], 0x80 ≤ b.toNat := by
  rcases Nat.lt_or_ge c.toNat 0x80 with h | h
  · exact .inl (ofChars_ascii h)
  · refine .inr ⟨h, ?_, ?_⟩
    · simpa [ofChars, ofBytes, Text.Utf8.encodeChars] using Text.Utf8.encodeChar_ne_nil c
    · intro b hb
      simp only [ofChars, ofBytes, Text.Utf8.encodeChars, List.flatMap_singleton,
        List.mem_map] at hb
      obtain ⟨byte, hbyte, rfl⟩ := hb
      rw [toNat_ofNat_toNat]
      exact Text.Utf8.le_of_mem_encodeChar h hbyte

theorem ofChars_eq_nil_iff : ofChars cs = [] ↔ cs = [] := by
  constructor
  · intro h
    cases cs with
    | nil => rfl
    | cons c cs =>
      rw [ofChars_cons, List.append_eq_nil_iff] at h
      rcases ofChars_singleton c with hself | ⟨-, hne, -⟩
      · rw [hself] at h
        cases h.1
      · exact absurd h.1 hne
  · rintro rfl
    rfl

theorem all_isSafe_ofChars (cs : List Char) : (ofChars cs).all isSafe = cs.all isSafe := by
  induction cs with
  | nil => rfl
  | cons c cs ih =>
    rw [ofChars_cons, List.all_append, ih, List.all_cons]
    congr 1
    rcases ofChars_singleton c with hself | ⟨hc, hne, hbytes⟩
    · rw [hself, List.all_cons, List.all_nil, Bool.and_true]
    · obtain ⟨b, hb⟩ := List.exists_mem_of_ne_nil _ hne
      rw [isSafe_eq_false hc, List.all_eq_false]
      exact ⟨b, hb, by rw [isSafe_eq_false (hbytes b hb)]; decide⟩

theorem flatMap_quoteChar_ofChars (cs : List Char) :
    (ofChars cs).flatMap quoteChar = ofChars (cs.flatMap quoteChar) := by
  induction cs with
  | nil => rfl
  | cons c cs ih =>
    rw [ofChars_cons, List.flatMap_append, ih, List.flatMap_cons, ofChars_append]
    congr 1
    rcases ofChars_singleton c with hself | ⟨hc, hne, hbytes⟩
    · rw [hself, List.flatMap_singleton, quoteChar]
      split_ifs with hquote
      · decide
      · exact hself.symm
    · have hquote : ∀ b : Char, 0x80 ≤ b.toNat → b ≠ '\'' := by
        rintro b hb rfl
        exact absurd hb (by decide)
      rw [quoteChar, if_neg (hquote c hc)]
      exact flatMap_quoteChar_eq_self fun hmem => hquote _ (hbytes _ hmem) rfl

/-- Quoting a text and taking its bytes can be done in any order. -/
theorem ofChars_quoteChars (cs : List Char) :
    ofChars (quoteChars cs) = quoteChars (ofChars cs) := by
  unfold quoteChars
  simp only [all_isSafe_ofChars, ne_eq, ofChars_eq_nil_iff]
  split_ifs with hsafe
  · rfl
  · rw [flatMap_quoteChar_ofChars, List.cons_append, ofChars_cons, ofChars_append]
    rfl

/-! ### Lexemes -/

/-- A word of a line, or the operator that runs a command after another one that succeeds. -/
inductive Lexeme where
  /-- A word. -/
  | word (text : String)
  /-- The operator. -/
  | and
  deriving DecidableEq, Repr

namespace Lexeme

/-- The characters of a lexeme without quotes. -/
def text : Lexeme → String
  | word text => text
  | and => "&&"

/-- How a lexeme is written. -/
def spelling : Lexeme → List Char
  | word text => quoteChars text.toList
  | and => ['&', '&']

/-- The token that a lexeme is read as. -/
def token : Lexeme → Parse.Token
  | word text => .word [.text (Parse.isQuoted (ofString text)) (ofString text)]
      (Parse.isQuoted (ofString text))
  | and => .mark "&&"

end Lexeme

/-- The characters of a part of a word, if it is no expansion. -/
def Part.chars? : Part → Option ByteText
  | .text _ chars => some chars
  | _ => none

/-- The lexeme of a token, if it is one. -/
def Parse.Token.lexeme? : Parse.Token → Option Lexeme
  | .word parts _ => (parts.mapM Part.chars?).map fun chars => .word (asString chars.flatten)
  | .mark "&&" => some .and
  | _ => none

/-- The lexemes that the shell reads from a line; nothing if anything else is on the line. -/
def lexemes? (s : String) : Option (List Lexeme) :=
  let cursor := Parse.Cursor.start (ofString s) 0
  match (Parse.tokens (Parse.stepLimit cursor)).run cursor with
  | .ok (tokens, _) => tokens.mapM Parse.Token.lexeme?
  | .error _ => none

/-- A line with spaces between its lexemes. -/
def written (lexemes : List Lexeme) : String :=
  String.ofList (Text.joinWith [' '] (lexemes.map Lexeme.spelling))

/-- A line is read as some lexemes, by the quoting rules and by the shell. -/
structure Decodes (line : String) (lexemes : List Lexeme) : Prop where
  /-- By the quoting rules the line is divided into the lexemes without their quotes. -/
  words : words? line = some (lexemes.map Lexeme.text)
  /-- The shell reads the lexemes as its tokens, and no word has an expansion. -/
  tokens : lexemes? line = some lexemes

theorem reads_spelling (lexeme : Lexeme) : Reads lexeme.spelling lexeme.text.toList := by
  cases lexeme with
  | word text => exact reads_quoteChars text.toList
  | and => exact reads_of_ordinary (by decide) (List.cons_ne_nil _ _)

theorem lexes_spelling (lexeme : Lexeme) :
    Parse.Lexes (ofChars lexeme.spelling) lexeme.token := by
  cases lexeme with
  | word text =>
    have hchars : ofChars (Lexeme.word text).spelling = quoteChars (ofString text) :=
      ofChars_quoteChars text.toList
    rw [hchars]
    exact Parse.lexes_quoteChars (ofString text)
  | and => exact Parse.lexes_and

theorem lexeme?_token (lexeme : Lexeme) : lexeme.token.lexeme? = some lexeme := by
  cases lexeme with
  | word text => simp [Lexeme.token, Parse.Token.lexeme?, Part.chars?, asString_ofString]
  | and => rfl

theorem mapM_lexeme?_token (lexemes : List Lexeme) :
    (lexemes.map Lexeme.token).mapM Parse.Token.lexeme? = some lexemes := by
  induction lexemes with
  | nil => rfl
  | cons lexeme lexemes ih => rw [List.map_cons, List.mapM_cons, lexeme?_token, ih]; rfl

theorem ofChars_joinWith (pieces : List (List Char)) :
    ofChars (Text.joinWith [' '] pieces) = Text.joinWith [' '] (pieces.map ofChars) := by
  have hspaced : ∀ pieces : List (List Char), ofChars (pieces.flatMap ([' '] ++ ·)) =
      (pieces.map ofChars).flatMap ([' '] ++ ·) := by
    intro pieces
    induction pieces with
    | nil => rfl
    | cons piece pieces ih =>
      rw [List.flatMap_cons, ofChars_append, ih, ofChars_append]
      rfl
  cases pieces with
  | nil => rfl
  | cons piece pieces =>
    rw [Text.joinWith_cons, ofChars_append, hspaced, List.map_cons, Text.joinWith_cons]

/-- The shell reads the tokens of the lexemes. -/
theorem lexemes?_written (lexemes : List Lexeme) : lexemes? (written lexemes) = some lexemes := by
  have hpieces : List.Forall₂ Parse.Lexes ((lexemes.map Lexeme.spelling).map ofChars)
      (lexemes.map Lexeme.token) := by
    simp only [List.forall₂_map_left_iff, List.forall₂_map_right_iff]
    exact List.forall₂_same.2 fun lexeme _ => lexes_spelling lexeme
  have htext : ofString (written lexemes) =
      Text.joinWith [' '] ((lexemes.map Lexeme.spelling).map ofChars) := by
    rw [← ofChars_joinWith]
    exact congrArg ofChars String.toList_ofList
  let cursor := Parse.Cursor.start (ofString (written lexemes)) 0
  -- the reader has more steps than there are characters
  have hlimit : (Text.joinWith [' '] ((lexemes.map Lexeme.spelling).map ofChars)).length + 7 ≤
      Parse.stepLimit cursor := by
    rw [← htext]
    unfold Parse.stepLimit
    dsimp only [cursor, Parse.Cursor.start]
    omega
  obtain ⟨line, hrun⟩ := Parse.tokens_joinWith hpieces hlimit cursor
    (by rw [← htext, List.append_nil]; rfl)
  unfold lexemes?
  dsimp only
  rw [hrun]
  exact mapM_lexeme?_token lexemes

/-- A line that was written from lexemes is read as these. -/
theorem decodes_written (lexemes : List Lexeme) : Decodes (written lexemes) lexemes := by
  refine ⟨?_, lexemes?_written lexemes⟩
  have hpieces : List.Forall₂ Reads (lexemes.map Lexeme.spelling)
      (lexemes.map (·.text.toList)) := by
    rw [List.forall₂_map_left_iff, List.forall₂_map_right_iff]
    exact List.forall₂_same.2 fun lexeme _ => reads_spelling lexeme
  unfold words? written
  rw [String.toList_ofList, wordsFrom_joinWith hpieces, Option.map_some, List.map_map]
  simp

/-- A line of words is read as these words. -/
theorem decodes_line (words : List String) : Decodes (line words) (words.map .word) := by
  have hline : line words = written (words.map .word) := by
    unfold line written
    rw [List.map_map]
    rfl
  rw [hline]
  exact decodes_written _

end JuliaSession.Shell
