import Mathlib.Tactic.SplitIfs
import JuliaSession.Console.Markup
import JuliaSession.Proofs.Step

/-!
# Texts that markup leaves alone

Some texts mean nothing as markup, and come out as they went in. What is left of any other text is
shorter, or nothing is left of it because it is no markup at all. The names of emoji between colons
are no part of markup here: they are text like any other.

* `Tagless`: a text without tags, said of its characters. `textOf_of_tagless` says what is read of
  it.
* `total_pieces_lt`: the pieces of a text with a tag hold less than the text.
* `chars_textOf`: the text of pieces is what reaches the console of each, which is not longer than
  the pieces.
* `Inert`: a text without tags, without brackets behind a backslash and without characters that
  never reach the console. `read_keeps_iff` says that these are the texts that are left as they are.
-/

namespace JuliaSession.Markup

variable {c : Char} {cs rest body : List Char}

/-! ### Tags -/

/-- Nowhere in a text is there a tag: an opening bracket, a character that a tag can start with, and
a closing bracket before another opening one. -/
def Tagless (cs : List Char) : Prop :=
  ∀ c body, startsTag c = true → '[' ∉ body → ']' ∉ body → ¬ '[' :: c :: body ++ [']'] <:+: cs

theorem Tagless.tail (h : Tagless (c :: cs)) : Tagless cs :=
  fun d body hd hopen hclose hwithin => h d body hd hopen hclose
    (hwithin.trans (List.suffix_cons c cs).isInfix)

/-- A tag is read wherever there is one. -/
theorem tag?_append (hc : startsTag c = true) (hopen : '[' ∉ body) (hclose : ']' ∉ body)
    (after : List Char) : tag? ('[' :: c :: (body ++ ']' :: after)) = some (c :: body, after) := by
  have htake : (body ++ ']' :: after).takeWhile (fun d => d ≠ '[' ∧ d ≠ ']') = body := by
    rw [List.takeWhile_append_of_pos]
    · simp
    · intro d hd
      exact decide_eq_true ⟨fun heq => hopen (heq ▸ hd), fun heq => hclose (heq ▸ hd)⟩
  rw [tag?, if_pos hc]
  dsimp only
  rw [htake, List.drop_left]
  rfl

/-- What is read as a tag is one. -/
theorem tag?_eq_some {tag after : List Char} (h : tag? cs = some (tag, after)) :
    ∃ c body, tag = c :: body ∧ cs = '[' :: c :: (body ++ ']' :: after) ∧ startsTag c = true ∧
      '[' ∉ body ∧ ']' ∉ body := by
  unfold tag? at h
  split at h
  · next c rest =>
    split_ifs at h with hc
    dsimp only at h
    split at h
    · next tail hdrop =>
      cases h
      -- the body of a tag reaches to the first bracket, which closes it
      have hbody : ∀ d ∈ rest.takeWhile fun d => d ≠ '[' ∧ d ≠ ']', d ≠ '[' ∧ d ≠ ']' :=
        fun d hd => of_decide_eq_true (List.all_eq_true.1 List.all_takeWhile d hd)
      refine ⟨c, _, rfl, ?_, hc, fun hmem => (hbody _ hmem).1 rfl, fun hmem => (hbody _ hmem).2 rfl⟩
      rw [← hdrop, List.prefix_iff_eq_append.1
        (List.takeWhile_prefix (l := rest) fun d => decide (d ≠ '[' ∧ d ≠ ']'))]
    · cases h
  · cases h

theorem Tagless.tag? (h : Tagless cs) : tag? cs = none := by
  cases htag : Markup.tag? cs with
  | none => rfl
  | some found =>
    obtain ⟨c, body, -, rfl, hc, hopen, hclose⟩ := tag?_eq_some htag
    refine absurd ?_ (h c body hc hopen hclose)
    exact ⟨[], found.2, by simp⟩

/-- A text that starts with no tag has none if there is none behind its first character. -/
theorem Tagless.cons (h : Tagless cs) (htag : Markup.tag? (c :: cs) = none) :
    Tagless (c :: cs) := by
  intro d body hd hopen hclose hwithin
  rcases List.infix_cons_iff.1 hwithin with ⟨after, hstart⟩ | hwithin
  · have hfound := tag?_append hd hopen hclose after
    rw [show '[' :: d :: (body ++ ']' :: after) = c :: cs by simpa using hstart, htag] at hfound
    cases hfound
  · exact h d body hd hopen hclose hwithin

/-! ### Texts without tags -/

/-- A text without tags is one piece. -/
theorem joinTexts_pieces (h : Tagless cs) (pending : Nat) :
    joinTexts (pieces 0 pending cs) = [.text (List.replicate pending '\\' ++ cs)] := by
  induction cs generalizing pending with
  | nil => simp [pieces, joinTexts]
  | cons c cs ih =>
    rw [pieces]
    by_cases hc : c = '\\'
    · rw [if_pos hc, ih h.tail, hc, List.replicate_succ', List.append_assoc, List.singleton_append]
    · rw [if_neg hc, h.tag?]
      dsimp only
      rw [joinTexts, ih h.tail]
      simp

/-- Of a text without tags, what reaches the console is left, wherever it stands. -/
theorem textOf_of_tagless (h : Tagless cs) (index : Nat) :
    textOf index [] (joinTexts (pieces 0 0 cs)) = .ok ⟨displayed (unescape cs), []⟩ := by
  rw [joinTexts_pieces h]
  change Except.ok (⟨displayed (unescape cs) ++ [], []⟩ : Console.StyledText) = _
  rw [List.append_nil]

/-! ### Lengths -/

/-- The number of characters that a piece holds of the text. -/
def Piece.size : Piece → Nat
  | .text chars => chars.length
  | .kept chars => chars.length
  | .tag _ => 0

/-- What reaches the console of a piece. -/
def Piece.shown : Piece → List Char
  | .text chars => displayed (unescape chars)
  | .kept chars => displayed chars
  | .tag _ => []

/-- The number of characters that pieces hold of the text. -/
def total : List Piece → Nat
  | [] => 0
  | piece :: pieces => piece.size + total pieces

@[simp]
theorem total_cons (piece : Piece) (pieces : List Piece) :
    total (piece :: pieces) = piece.size + total pieces := rfl

theorem unescape_sublist (cs : List Char) : (unescape cs).Sublist cs := by
  induction cs using unescape.induct with
  | case1 rest ih => exact (ih.cons_cons '[').cons '\\'
  | case2 c rest hescape ih =>
    rw [unescape]
    · exact ih.cons_cons c
    · exact hescape
  | case3 => exact .slnil

theorem Piece.length_shown_le (piece : Piece) : piece.shown.length ≤ piece.size := by
  cases piece with
  | text chars => exact Nat.le_trans (List.length_filter_le _ _) (unescape_sublist chars).length_le
  | kept chars => exact List.length_filter_le _ _
  | tag => exact Nat.le_refl 0

theorem total_joinTexts (pieces : List Piece) : total (joinTexts pieces) = total pieces := by
  induction pieces with
  | nil => rfl
  | cons piece pieces ih =>
    rw [total_cons, ← ih]
    cases piece with
    | kept | tag => rfl
    | text chars =>
      rw [joinTexts]
      split
      · next joined rest hjoin => simp [hjoin, Piece.size, Nat.add_assoc]
      · rw [total_cons]

/-- A tag is not longer than the text. -/
theorem length_of_tag? {tag after : List Char} (h : tag? (c :: cs) = some (tag, after)) :
    tag.length + 1 ≤ cs.length := by
  obtain ⟨d, body, rfl, htext, -, -, -⟩ := tag?_eq_some h
  rw [(List.cons.inj htext).2]
  simp

/-- At a tag some of the text goes: the tag itself, or one of the backslashes before it. -/
theorem total_tag_lt {tag : List Char} {pending left : Nat} {later : List Piece}
    (htag : tag.length + 1 ≤ left) (hlater : total later ≤ left - (tag.length + 1)) :
    total (.kept (List.replicate (pending / 2) '\\') ::
      (if pending % 2 = 1 then .kept ('[' :: tag ++ [']']) else .tag tag) :: later) <
      pending + (left + 1) := by
  split_ifs with hodd
  · simp only [total_cons, Piece.size, List.length_append, List.length_replicate, List.length_cons,
      List.length_nil]
    omega
  · simp only [total_cons, Piece.size, List.length_replicate]
    omega

/-- Backslashes are passed on, and the characters of a tag that was read are skipped. -/
theorem total_pieces_le (skip pending : Nat) (cs : List Char) :
    total (pieces skip pending cs) ≤ pending + (cs.length - skip) := by
  -- backslashes are counted until it is known what they stand before, so both numbers vary
  induction cs generalizing skip pending with
  | nil => cases skip <;> simp [pieces, total, Piece.size]
  | cons c cs ih =>
    cases skip with
    | succ skip =>
      rw [pieces, List.length_cons, Nat.add_sub_add_right]
      exact ih skip pending
    | zero =>
      have hplain := ih 0 0
      rw [pieces, List.length_cons]
      by_cases hc : c = '\\'
      · rw [if_pos hc]
        have hback := ih 0 (pending + 1)
        omega
      · rw [if_neg hc]
        split
        · next tag after htag =>
          have hlater := ih (tag.length + 1) 0
          rw [Nat.zero_add] at hlater
          exact Nat.le_of_lt (total_tag_lt (length_of_tag? htag) hlater)
        · simp only [total_cons, Piece.size, List.length_append, List.length_replicate,
            List.length_cons, List.length_nil]
          omega

/-- Where there is a tag, the pieces hold less than the text. -/
theorem total_pieces_lt (h : ¬Tagless cs) (pending : Nat) :
    total (pieces 0 pending cs) < pending + cs.length := by
  induction cs generalizing pending with
  | nil =>
    refine absurd ?_ h
    intro c body _ _ _ hwithin
    cases List.infix_nil.1 hwithin
  | cons c cs ih =>
    rw [pieces, List.length_cons]
    by_cases hc : c = '\\'
    · rw [if_pos hc]
      have hcs : ¬Tagless cs := fun hcs => h (hcs.cons (by rw [hc]; rfl))
      have hback := ih hcs (pending + 1)
      omega
    · rw [if_neg hc]
      -- a text without tags behind a character that starts none would have no tag at all
      split
      · next tag after htag =>
        have hlater := total_pieces_le (tag.length + 1) 0 cs
        rw [Nat.zero_add] at hlater
        exact total_tag_lt (length_of_tag? htag) hlater
      · next htag =>
        have hcs : ¬Tagless cs := fun hcs => h (hcs.cons htag)
        have hplain := ih hcs 0
        simp only [total_cons, Piece.size, List.length_append, List.length_replicate,
          List.length_cons, List.length_nil]
        omega

/-- The text of pieces is what reaches the console of them. -/
theorem chars_textOf {index : Nat} {opened : List OpenTag} {pieces : List Piece}
    {text : Console.StyledText} (h : textOf index opened pieces = .ok text) :
    text.chars = pieces.flatMap Piece.shown := by
  -- a tag changes only which styles are open, and shows nothing
  induction pieces generalizing index opened text with
  | nil =>
    cases h
    rfl
  | cons piece pieces ih =>
    rw [List.flatMap_cons]
    cases piece with
    | text chars | kept chars =>
      rw [textOf] at h
      obtain ⟨after, hafter, h⟩ := bind_eq_ok_iff.1 h
      cases h
      rw [← ih hafter]
      rfl
    | tag body =>
      rw [textOf] at h
      split at h
      · obtain ⟨⟨tag, opened⟩, -, h⟩ := bind_eq_ok_iff.1 h
        obtain ⟨after, hafter, h⟩ := bind_eq_ok_iff.1 h
        cases h
        have hchars := ih hafter
        exact hchars
      · obtain ⟨tag, -, h⟩ := bind_eq_ok_iff.1 h
        exact ih h

theorem length_flatMap_shown_le (pieces : List Piece) :
    (pieces.flatMap Piece.shown).length ≤ total pieces := by
  induction pieces with
  | nil => exact Nat.le_refl 0
  | cons piece pieces ih =>
    rw [List.flatMap_cons, List.length_append, total_cons]
    exact Nat.add_le_add piece.length_shown_le ih

/-! ### Inert texts -/

/-- A text that means nothing as markup and reaches the console. -/
structure Inert (cs : List Char) : Prop where
  /-- There are no tags. -/
  tagless : Tagless cs
  /-- No opening bracket stands behind a backslash. -/
  unescaped : ¬['\\', '['] <:+: cs
  /-- Every character reaches the console. -/
  displayed : ∀ c ∈ cs, isDropped c = false

theorem unescape_eq_self_iff : unescape cs = cs ↔ ¬['\\', '['] <:+: cs := by
  induction cs using unescape.induct with
  | case1 rest ih =>
    refine iff_of_false ?_ ?_
    · rw [unescape]
      exact fun heq => absurd (List.cons.inj heq).1 (by decide)
    · exact not_not_intro ⟨[], rest, rfl⟩
  | case2 c rest hescape ih =>
    rw [unescape]
    · rw [List.cons_inj_right, ih, List.infix_cons_iff, not_or]
      refine ⟨fun h => ⟨?_, h⟩, And.right⟩
      rintro ⟨after, heq⟩
      obtain ⟨rfl, rfl⟩ := List.cons.inj heq
      exact hescape after rfl rfl
    · exact hescape
  | case3 => exact iff_of_true rfl (by simp)

theorem displayed_eq_self_iff : displayed cs = cs ↔ ∀ c ∈ cs, isDropped c = false := by
  unfold displayed
  rw [List.filter_eq_self]
  simp

/-- What reaches the console of the pieces of a text is the text exactly if it is inert. -/
theorem shown_pieces_eq_self_iff :
    (joinTexts (pieces 0 0 cs)).flatMap Piece.shown = cs ↔ Inert cs := by
  have hshown (h : Tagless cs) :
      (joinTexts (pieces 0 0 cs)).flatMap Piece.shown = displayed (unescape cs) :=
    (chars_textOf (textOf_of_tagless h 0)).symm
  constructor
  · intro h
    have htagless : Tagless cs := by
      refine Classical.byContradiction fun htags => ?_
      have hlt := total_pieces_lt htags 0
      have hle := length_flatMap_shown_le (joinTexts (pieces 0 0 cs))
      rw [h, total_joinTexts] at hle
      omega
    have hleft : displayed (unescape cs) = cs := (hshown htagless).symm.trans h
    -- the text is a part of what is left once the backslashes are gone
    have hunescape : unescape cs = cs := by
      have hsublist : (displayed (unescape cs)).Sublist (unescape cs) := List.filter_sublist
      rw [hleft] at hsublist
      exact (unescape_sublist cs).eq_of_length_le hsublist.length_le
    rw [hunescape] at hleft
    exact ⟨htagless, unescape_eq_self_iff.1 hunescape, displayed_eq_self_iff.1 hleft⟩
  · intro h
    rw [hshown h.tagless, unescape_eq_self_iff.2 h.unescaped, displayed_eq_self_iff.2 h.displayed]

/-- A text is read as it is exactly if it is inert, wherever it stands. -/
theorem textOf_keeps_iff (index : Nat) (cs : List Char) :
    (∃ text, textOf index [] (joinTexts (pieces 0 0 cs)) = .ok text ∧ text.chars = cs) ↔
      Inert cs := by
  rw [← shown_pieces_eq_self_iff]
  constructor
  · rintro ⟨text, htext, hchars⟩
    rw [← chars_textOf htext, hchars]
  · intro h
    have htext := textOf_of_tagless (shown_pieces_eq_self_iff.1 h).tagless index
    exact ⟨_, htext, (chars_textOf htext).trans h⟩

/-- A text is read as it is exactly if it is inert. -/
theorem read_keeps_iff (cs : List Char) : (∃ text, read cs = .ok text ∧ text.chars = cs) ↔ Inert cs :=
  textOf_keeps_iff 0 cs

theorem plain_eq_self_iff : plain cs = .ok cs ↔ Inert cs := by
  rw [← read_keeps_iff, plain]
  cases read cs with
  | error fault => exact ⟨nofun, nofun⟩
  | ok text =>
    refine ⟨fun h => ⟨text, rfl, Except.ok.inj h⟩, ?_⟩
    rintro ⟨_, ⟨⟩, hchars⟩
    exact congrArg Except.ok hchars

end JuliaSession.Markup
