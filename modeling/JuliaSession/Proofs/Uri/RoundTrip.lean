import Mathlib.Data.List.TakeWhile
import JuliaSession.Proofs.Text.Utf8
import JuliaSession.Proofs.Path.Normalizing
import JuliaSession.Uri

/-!
# Paths through URIs and back

The URI of a path is written in the characters that the path of a URI allows, all other characters
as the escapes of their bytes. Reading it back undoes the escapes, and the path read is already
normalized. So the URI names the absolute path it was made of, and no other.

* `PathText`: the texts that may stand in a URI path.
* `pathText_encode`: percent-encoding writes such a text.
* `decode_encode`: percent-decoding undoes percent-encoding.
* `toPath_ofPath`: the URI of a path names its absolute path.
-/

namespace JuliaSession.Uri

open JuliaSession.Text

/-! ### The characters of a URI path -/

/-- The marks that stand for themselves in the path of a URI. -/
def pathMarks : List Char := "-._~!$&'()*+,;=:@/".toList

/-- A text that may stand in the path of a URI: letters and digits, marks, and escaped bytes. -/
inductive PathText : List Char → Prop where
  /-- Nothing. -/
  | nil : PathText []
  /-- A character that stands for itself. -/
  | plain {c : Char} {rest : List Char} (hc : c.isAlphanum ∨ c ∈ pathMarks)
      (hrest : PathText rest) : PathText (c :: rest)
  /-- A byte as two hexadecimal digits after a percent sign. -/
  | escape {a b : Char} {rest : List Char} (ha : (Json.hexValue? a).isSome)
      (hb : (Json.hexValue? b).isSome) (hrest : PathText rest) : PathText ('%' :: a :: b :: rest)

theorem PathText.append {front rest : List Char} (hfront : PathText front)
    (hrest : PathText rest) : PathText (front ++ rest) := by
  induction hfront with
  | nil => exact hrest
  | plain hc _ ih => exact .plain hc ih
  | escape ha hb _ ih => exact .escape ha hb ih

theorem isAlphanum_of_hexValue? {c : Char} (h : (Json.hexValue? c).isSome) : c.isAlphanum := by
  rw [isAlphanum_iff]
  simp only [Json.hexValue?, Char.le_def, UInt32.le_iff_toNat_le, Char.toNat_val] at h
  split_ifs at h with hdigit hlower hupper
  · exact .inr (.inr hdigit)
  · exact .inr (.inl ⟨hlower.1, Nat.le_trans hlower.2 (by decide)⟩)
  · exact .inl ⟨hupper.1, Nat.le_trans hupper.2 (by decide)⟩
  · exact absurd h (by simp)

/-- A character in the path of a URI is a letter or digit, a mark or a percent sign. -/
theorem PathText.allowed {cs : List Char} (h : PathText cs) {c : Char} (hc : c ∈ cs) :
    c.isAlphanum ∨ c ∈ pathMarks ∨ c = '%' := by
  induction h with
  | nil => exact absurd hc List.not_mem_nil
  | plain hplain _ ih =>
    rcases List.mem_cons.1 hc with rfl | hc
    · exact hplain.imp_right Or.inl
    · exact ih hc
  | escape ha hb _ ih =>
    rcases List.mem_cons.1 hc with rfl | hc
    · exact .inr (.inr rfl)
    rcases List.mem_cons.1 hc with rfl | hc
    · exact .inl (isAlphanum_of_hexValue? ha)
    rcases List.mem_cons.1 hc with rfl | hc
    · exact .inl (isAlphanum_of_hexValue? hb)
    · exact ih hc

/-- The characters of a URI path are printable ASCII characters, none of which ends the path. -/
theorem PathText.ascii {cs : List Char} (h : PathText cs) {c : Char} (hc : c ∈ cs) :
    32 < c.toNat ∧ c.toNat < 128 ∧ c ≠ '?' ∧ c ≠ '#' := by
  rcases h.allowed hc with halphanum | hmark | rfl
  · have hrange := isAlphanum_iff.1 halphanum
    refine ⟨by omega, by omega, ?_, ?_⟩
    · rintro rfl
      exact absurd halphanum (by decide)
    · rintro rfl
      exact absurd halphanum (by decide)
  · have hmarks : (pathMarks.all fun mark =>
        32 < mark.toNat ∧ mark.toNat < 128 ∧ mark ≠ '?' ∧ mark ≠ '#') = true := by decide
    exact of_decide_eq_true (List.all_eq_true.1 hmarks c hmark)
  · decide

/-! ### Writing a path -/

theorem hexValue?_hexDigit {n : Nat} (h : n < 16) : Json.hexValue? (hexDigit n) = some n := by
  have hall : ∀ digit < 16, Json.hexValue? (hexDigit digit) = some digit := by decide
  exact hall n h

theorem pathText_flatMap_encodeByte (bytes : List UInt8) :
    PathText (bytes.flatMap encodeByte) := by
  induction bytes with
  | nil => exact .nil
  | cons b rest ih =>
    have hb := b.toNat_lt
    refine .escape ?_ ?_ ih
    · rw [hexValue?_hexDigit (by omega)]
      rfl
    · rw [hexValue?_hexDigit (by omega)]
      rfl

theorem isPlain_iff {c : Char} :
    isPlain c = true ↔ c.isAlphanum ∨ c ∈ ['_', '.', '-', '~', '/', ':'] := by
  simp [isPlain, or_assoc]

theorem pathText_encodeChar (c : Char) : PathText (encodeChar c) := by
  unfold encodeChar
  split_ifs with hplain
  · refine .plain ((isPlain_iff.1 hplain).imp_right fun hmark => ?_) .nil
    have hmarks : (['_', '.', '-', '~', '/', ':'].all fun mark => mark ∈ pathMarks) = true := by
      decide
    exact of_decide_eq_true (List.all_eq_true.1 hmarks c hmark)
  · exact pathText_flatMap_encodeByte _

/-- Percent-encoding writes a text that may stand in the path of a URI. -/
theorem pathText_encode (cs : List Char) : PathText (encode cs) := by
  induction cs with
  | nil => exact .nil
  | cons c rest ih => exact (pathText_encodeChar c).append ih

/-! ### Reading it back -/

theorem percentBytes_plain {c : Char} (hc : c ≠ '%') (rest : List Char) :
    percentBytes (c :: rest) = c.toUInt8 :: percentBytes rest := by
  rw [percentBytes]
  intro a b more heq
  exact absurd heq hc

theorem percentBytes_encodeByte (b : UInt8) (rest : List Char) :
    percentBytes (encodeByte b ++ rest) = b :: percentBytes rest := by
  have hb := b.toNat_lt
  have hvalue : b.toNat / 16 * 16 + b.toNat % 16 = b.toNat := by omega
  show percentBytes ('%' :: hexDigit (b.toNat / 16) :: hexDigit (b.toNat % 16) :: rest) = _
  rw [percentBytes, hexValue?_hexDigit (by omega), hexValue?_hexDigit (by omega)]
  dsimp only
  rw [hvalue]
  exact congrArg (· :: _) UInt8.ofNat_toNat

theorem percentBytes_flatMap (bytes : List UInt8) (rest : List Char) :
    percentBytes (bytes.flatMap encodeByte ++ rest) = bytes ++ percentBytes rest := by
  induction bytes with
  | nil => rfl
  | cons b more ih =>
    rw [List.flatMap_cons, List.append_assoc, percentBytes_encodeByte, ih]
    rfl

theorem percentBytes_encodeChar (c : Char) (rest : List Char) :
    percentBytes (encodeChar c ++ rest) = Utf8.encodeChar c ++ percentBytes rest := by
  unfold encodeChar
  split_ifs with hplain
  · have hpercent : c ≠ '%' := by
      rintro rfl
      exact absurd hplain (by decide)
    have hascii : c.toNat < 0x80 := ((pathText_encodeChar c).ascii
      (c := c) (by simp [encodeChar, hplain])).2.1
    rw [List.cons_append, List.nil_append, percentBytes_plain hpercent, Utf8.encodeChar,
      if_pos hascii]
    rfl
  · exact percentBytes_flatMap _ _

/-- The escapes of a text stand for its bytes. -/
theorem percentBytes_encode (cs : List Char) : percentBytes (encode cs) = Utf8.encodeChars cs := by
  induction cs with
  | nil => rw [encode, List.flatMap_nil, percentBytes]; rfl
  | cons c rest ih =>
    rw [encode, List.flatMap_cons, percentBytes_encodeChar]
    exact congrArg (Utf8.encodeChar c ++ ·) ih

theorem decodeFrom_ascii {cs : List Char} (h : ∀ c ∈ cs, c.toNat < 128) (run : List Char) :
    decodeFrom run cs = Utf8.decodeLossyChars (percentBytes (run.reverse ++ cs)) := by
  induction cs generalizing run with
  | nil => rw [decodeFrom, List.append_nil]
  | cons c rest ih =>
    rw [List.forall_mem_cons] at h
    rw [decodeFrom, if_pos h.1, ih h.2, List.reverse_cons, List.append_assoc]
    rfl

/-- Percent-decoding undoes percent-encoding. -/
theorem decode_encode (cs : List Char) : decode (encode cs) = cs := by
  rw [decode, decodeFrom_ascii fun c hc => ((pathText_encode cs).ascii hc).2.1]
  rw [List.reverse_nil, List.nil_append, percentBytes_encode, Utf8.decodeLossyChars_encodeChars]

theorem encode_injective {cs ds : List Char} (h : encode cs = encode ds) : cs = ds := by
  rw [← decode_encode cs, h, decode_encode]

/-! ### The path of a file URI -/

theorem splitScheme_file (rest : List Char) :
    splitScheme ("file:".toList ++ rest) = ("file".toList, rest) := rfl

theorem pathText_file {cs : List Char} (h : PathText cs) : PathText ("file://".toList ++ cs) :=
  PathText.append (pathText_encode "file://".toList) h

/-- What follows the scheme and the empty authority of a file URI is its path. -/
theorem pathPart_file {rest : List Char} (h : PathText ('/' :: rest)) :
    pathPart ("file://" ++ String.ofList ('/' :: rest)) = .ok ('/' :: rest) := by
  have htext : ("file://" ++ String.ofList ('/' :: rest)).toList =
      "file:".toList ++ '/' :: '/' :: '/' :: rest := by
    simp
  -- no blank is cut off at the start or taken out further on
  have hstart : ("file:".toList ++ '/' :: '/' :: '/' :: rest).dropWhile
      (fun c => c.toNat ≤ 32) = "file:".toList ++ '/' :: '/' :: '/' :: rest := rfl
  have hblanks : ("file:".toList ++ '/' :: '/' :: '/' :: rest).filter
      (fun c => c ≠ '\t' ∧ c ≠ '\r' ∧ c ≠ '\n') = "file:".toList ++ '/' :: '/' :: '/' :: rest := by
    rw [List.filter_eq_self]
    intro c hc
    have hprintable := ((pathText_file h).ascii hc).1
    apply decide_eq_true
    refine ⟨?_, ?_, ?_⟩ <;> rintro rfl <;> exact absurd hprintable (by decide)
  -- and no character of the path ends it
  have hfragment : ('/' :: rest).takeWhile (· ≠ '#') = '/' :: rest :=
    List.takeWhile_eq_self_iff.2 fun c hc => decide_eq_true (h.ascii hc).2.2.2
  have hquery : ('/' :: rest).takeWhile (· ≠ '?') = '/' :: rest :=
    List.takeWhile_eq_self_iff.2 fun c hc => decide_eq_true (h.ascii hc).2.2.1
  unfold pathPart
  rw [htext, hstart]
  dsimp only
  have hscheme : String.ofList "file".toList ∉ parameterSchemes := by decide
  rw [hblanks, splitScheme_file]
  dsimp only
  rw [if_neg hscheme]
  -- the authority is empty: the path starts at once
  show (do
    Authority.check []
    pure (('/' :: rest).takeWhile (· ≠ '#') |>.takeWhile (· ≠ '?'))) = _
  rw [hfragment, hquery]
  rfl

/-- The URI of a path names its absolute path. -/
theorem toPath_ofPath {cwd : String} (h : Path.isAbsolute cwd.toList) (path : String) :
    toPath .posix (ofPath .posix cwd path) = .ok (Path.absolute cwd path) := by
  obtain ⟨rest, hrest⟩ := Path.isAbsolute_iff.1 (Path.isAbsolute_absoluteChars h path.toList)
  have htext : encode (Path.absoluteChars cwd.toList path.toList) = '/' :: encode rest := by
    rw [hrest]
    rfl
  have hpath : PathText ('/' :: encode rest) := htext ▸ pathText_encode _
  unfold toPath ofPath
  dsimp only
  rw [htext, pathPart_file hpath, ← htext]
  show Except.ok (String.ofList (Path.normalizeChars (decode (encode _)))) = _
  rw [decode_encode, Path.normalizeChars_absoluteChars]
  rfl

/-- A URI is made of the absolute path alone, and of all of it. -/
theorem ofPath_eq_iff (cwd path elsewhere other : String) :
    ofPath .posix cwd path = ofPath .posix elsewhere other ↔
      Path.absolute cwd path = Path.absolute elsewhere other := by
  unfold ofPath Path.absolute
  dsimp only
  rw [String.append_right_inj, String.ofList_inj, String.ofList_inj]
  constructor
  · exact encode_injective
  · intro habsolute
    rw [habsolute]

theorem pathText_ofPath (cwd path : String) : PathText (ofPath .posix cwd path).toList := by
  have htext : (ofPath .posix cwd path).toList =
      "file://".toList ++ encode (Path.absoluteChars cwd.toList path.toList) := by
    simp [ofPath]
  rw [htext]
  exact pathText_file (pathText_encode _)

/-- The URI of a path in a directory given from the root is read back as the absolute path, whatever
characters and dot segments the path is made of. Two paths have the same URI exactly when they have
the same absolute path. The URI holds nothing but ASCII characters that may stand in a URI path. -/
theorem ofPath_faithful {cwd : String} (h : Path.isAbsolute cwd.toList) (path : String) :
    toPath .posix (ofPath .posix cwd path) = .ok (Path.absolute cwd path) ∧
      (∀ elsewhere other, ofPath .posix cwd path = ofPath .posix elsewhere other ↔
        Path.absolute cwd path = Path.absolute elsewhere other) ∧
      PathText (ofPath .posix cwd path).toList ∧
      ∀ c ∈ (ofPath .posix cwd path).toList, c.toNat < 128 := by
  refine ⟨toPath_ofPath h path, ofPath_eq_iff cwd path, pathText_ofPath cwd path, ?_⟩
  intro c hc
  exact ((pathText_ofPath cwd path).ascii hc).2.1

/-- Such a path with a blank, a percent sign, a question mark, a hash sign, a letter that is not
ASCII, and dot segments. -/
theorem ofPath_faithful_marks :
    Path.isAbsolute "/work/jl".toList ∧
      toPath .posix (ofPath .posix "/work/jl" ".././/ä b%41?#.jl") =
        .ok (Path.absolute "/work/jl" ".././/ä b%41?#.jl") ∧
      PathText (ofPath .posix "/work/jl" ".././/ä b%41?#.jl").toList ∧
      Path.absolute "/work/jl" ".././/ä b%41?#.jl" = "/work/ä b%41?#.jl" := by
  have hcwd : Path.isAbsolute "/work/jl".toList := by decide
  obtain ⟨hback, -, htext, -⟩ := ofPath_faithful hcwd ".././/ä b%41?#.jl"
  exact ⟨hcwd, hback, htext, by decide +kernel⟩

example : ofPath .posix "/work/jl" ".././/ä b%41?#.jl" =
    "file:///work/%C3%A4%20b%2541%3F%23.jl" := by decide +kernel

end JuliaSession.Uri
