import JuliaSession.Proofs.Console.Markup

/-!
# Texts between tags

A text that is put between the tags of a style is read together with them: its own brackets are tags
as well, and backslashes at its end are read with the closing tag.

* `splits`: in front of an opening bracket a text has the pieces it has alone, but for the backslashes
  at its end.
* `Plain.read_tagged`: what is read of a text without tags between the tags of a style.
* `Plain.read_tagged_keeps_iff`: a text between tags is left as it is exactly if it is inert and does
  not end with a backslash.
-/

namespace JuliaSession.Markup

variable {c : Char} {cs rest body tail : List Char} {pending : Nat}

/-! ### Pieces -/

theorem pieces_backslash (pending : Nat) (cs : List Char) :
    pieces 0 pending ('\\' :: cs) = pieces 0 (pending + 1) cs := if_pos rfl

theorem pieces_text (hc : c ≠ '\\') (htag : tag? (c :: cs) = none) (pending : Nat) :
    pieces 0 pending (c :: cs) = .text (List.replicate pending '\\' ++ [c]) :: pieces 0 0 cs := by
  rw [pieces, if_neg hc, htag]

theorem pieces_skip (skip pending : Nat) (cs : List Char) (h : skip ≤ cs.length) :
    pieces skip pending cs = pieces 0 pending (cs.drop skip) := by
  induction cs generalizing skip with
  | nil => rw [Nat.le_zero.1 h, List.drop_zero]
  | cons c cs ih =>
    cases skip with
    | zero => rfl
    | succ skip => exact ih skip (Nat.le_of_succ_le_succ h)

/-- The pieces of a tag and the backslashes before it. -/
def tagPieces (pending : Nat) (tag : List Char) : List Piece :=
  [.kept (List.replicate (pending / 2) '\\'),
    if pending % 2 = 1 then .kept ('[' :: tag ++ [']']) else .tag tag]

/-- A tag is read as a whole, together with the backslashes before it. -/
theorem pieces_tag (hc : startsTag c = true) (hopen : '[' ∉ body) (hclose : ']' ∉ body)
    (pending : Nat) (after : List Char) :
    pieces 0 pending ('[' :: c :: (body ++ ']' :: after)) =
      tagPieces pending (c :: body) ++ pieces 0 0 after := by
  rw [pieces, if_neg (by decide), tag?_append hc hopen hclose after]
  dsimp only
  rw [pieces_skip]
  · simp [tagPieces]
  · simp

/-- A text in front of an opening bracket starts with a tag only if it does so alone. -/
theorem tag?_append_open (h : tag? (c :: cs) = none) (tail : List Char) :
    tag? (c :: (cs ++ '[' :: tail)) = none := by
  cases htag : tag? (c :: (cs ++ '[' :: tail)) with
  | none => rfl
  | some found =>
    obtain ⟨d, body, -, htext, hd, hopen, hclose⟩ := tag?_eq_some htag
    obtain ⟨rfl, hafter⟩ := List.cons.inj htext
    -- the body of a tag holds no opening bracket, so the tag ends before the one that follows
    have hinside : d :: body ++ [']'] <+: cs := by
      have hsplit : cs ++ '[' :: tail = (d :: body ++ [']']) ++ found.2 := by
        rw [hafter]
        simp
      rcases List.append_eq_append_iff.1 hsplit with ⟨more, hmore, hrest⟩ | ⟨more, hmore, -⟩
      · cases more with
        | nil => exact ⟨[], by rw [hmore]; simp⟩
        | cons e more =>
          obtain rfl : '[' = e := (List.cons.inj hrest).1
          have hmem : '[' ∈ d :: body ++ [']'] := hmore ▸ by simp
          simp [hopen] at hmem
          subst hmem
          cases hd
      · exact ⟨more, hmore.symm⟩
    obtain ⟨after, rfl⟩ := hinside
    have hfound := tag?_append hd hopen hclose after
    rw [show '[' :: d :: (body ++ ']' :: after) = '[' :: (d :: body ++ [']'] ++ after) by simp,
      h] at hfound
    cases hfound

theorem getLast?_append_cons_eq_iff {α : Type} {a b : α} (h : a ≠ b) (first second : List α) :
    (first ++ a :: second).getLast? = some b ↔ second.getLast? = some b := by
  cases second with
  | nil => simp [h]
  | cons c second => simp

/-- In front of an opening bracket a text has the pieces that it has alone; only the backslashes at
its end, of which there are `waiting`, wait for what the bracket begins. -/
def Splits (pending : Nat) (cs tail : List Char) : Prop :=
  ∃ front waiting, pieces 0 pending cs = front ++ [.text (List.replicate waiting '\\')] ∧
    pieces 0 pending (cs ++ '[' :: tail) = front ++ pieces 0 waiting ('[' :: tail) ∧
    (waiting = 0 ↔ (List.replicate pending '\\' ++ cs).getLast? ≠ some '\\')

theorem splits_nil (pending : Nat) (tail : List Char) : Splits pending [] tail := by
  refine ⟨[], pending, rfl, rfl, ?_⟩
  simp [List.getLast?_replicate]

theorem Splits.backslash (h : Splits (pending + 1) cs tail) : Splits pending ('\\' :: cs) tail := by
  obtain ⟨front, waiting, halone, hboth, hwaiting⟩ := h
  refine ⟨front, waiting, by rw [pieces_backslash, halone], ?_, ?_⟩
  · rw [List.cons_append, pieces_backslash, hboth]
  · rw [hwaiting, List.replicate_succ', List.append_assoc, List.singleton_append]

theorem Splits.text (h : Splits 0 cs tail) (hc : c ≠ '\\') (htag : tag? (c :: cs) = none)
    (pending : Nat) : Splits pending (c :: cs) tail := by
  obtain ⟨front, waiting, halone, hboth, hwaiting⟩ := h
  refine ⟨.text (List.replicate pending '\\' ++ [c]) :: front, waiting, ?_, ?_, ?_⟩
  · rw [pieces_text hc htag, halone, List.cons_append]
  · rw [List.cons_append, pieces_text hc (tag?_append_open htag tail), hboth, List.cons_append]
  · rw [hwaiting, ne_eq, ne_eq, getLast?_append_cons_eq_iff hc]
    rfl

theorem Splits.tag (h : Splits 0 cs tail) (hc : startsTag c = true) (hopen : '[' ∉ body)
    (hclose : ']' ∉ body) (pending : Nat) :
    Splits pending ('[' :: c :: (body ++ ']' :: cs)) tail := by
  obtain ⟨front, waiting, halone, hboth, hwaiting⟩ := h
  refine ⟨tagPieces pending (c :: body) ++ front, waiting, ?_, ?_, ?_⟩
  · rw [pieces_tag hc hopen hclose, halone, List.append_assoc]
  · have happend : '[' :: c :: (body ++ ']' :: cs) ++ '[' :: tail =
        '[' :: c :: (body ++ ']' :: (cs ++ '[' :: tail)) := by simp
    rw [happend, pieces_tag hc hopen hclose, hboth, List.append_assoc]
  · have hmiddle : List.replicate pending '\\' ++ '[' :: c :: (body ++ ']' :: cs) =
        (List.replicate pending '\\' ++ '[' :: c :: body) ++ ']' :: cs := by simp
    rw [hwaiting, hmiddle, ne_eq, ne_eq, getLast?_append_cons_eq_iff (by decide)]
    rfl

/-- Every text splits off what follows it. -/
theorem splits (pending : Nat) (cs tail : List Char) : Splits pending cs tail := by
  -- a tag is taken as a whole, so the induction is on the length
  induction hlength : cs.length using Nat.strongRecOn generalizing cs pending with
  | _ length ih =>
    cases cs with
    | nil => exact splits_nil pending tail
    | cons c cs =>
      rw [List.length_cons] at hlength
      by_cases hc : c = '\\'
      · subst hc
        exact (ih cs.length (by omega) (pending + 1) cs rfl).backslash
      · cases htag : tag? (c :: cs) with
        | none => exact (ih cs.length (by omega) 0 cs rfl).text hc htag pending
        | some found =>
          obtain ⟨d, body, -, htext, hd, hopen, hclose⟩ := tag?_eq_some htag
          have hshort : found.2.length < length := by
            have hsame := congrArg List.length htext
            simp only [List.length_cons, List.length_append] at hsame
            omega
          rw [htext]
          exact (ih _ hshort 0 found.2 rfl).tag hd hopen hclose pending

/-- A text without tags has pieces of text only. -/
theorem pieces_of_tagless (h : Tagless cs) (pending : Nat) :
    ∃ texts : List (List Char), pieces 0 pending cs = texts.map .text ∧
      texts.flatten = List.replicate pending '\\' ++ cs := by
  induction cs generalizing pending with
  | nil => exact ⟨[List.replicate pending '\\'], rfl, by simp⟩
  | cons c cs ih =>
    by_cases hc : c = '\\'
    · subst hc
      obtain ⟨texts, htexts, hflatten⟩ := ih h.tail (pending + 1)
      refine ⟨texts, by rw [pieces_backslash, htexts], ?_⟩
      rw [hflatten, List.replicate_succ', List.append_assoc, List.singleton_append]
    · obtain ⟨texts, htexts, hflatten⟩ := ih h.tail 0
      refine ⟨(List.replicate pending '\\' ++ [c]) :: texts, ?_, ?_⟩
      · rw [pieces_text hc h.tag?, htexts, List.map_cons]
      · rw [List.flatten_cons, hflatten]
        simp

theorem total_append (front later : List Piece) :
    total (front ++ later) = total front + total later := by
  induction front with
  | nil => exact (Nat.zero_add _).symm
  | cons piece front ih => rw [List.cons_append, total_cons, total_cons, ih, Nat.add_assoc]

/-! ### Joined pieces -/

/-- What is kept is joined with nothing. -/
theorem joinTexts_append_kept (front later : List Piece) (chars : List Char) :
    joinTexts (front ++ .kept chars :: later) =
      joinTexts front ++ .kept chars :: joinTexts later := by
  induction front with
  | nil => rfl
  | cons piece front ih =>
    cases piece with
    | kept | tag => simp [joinTexts, ih]
    | text first =>
      rw [List.cons_append, joinTexts, joinTexts, ih]
      cases joinTexts front with
      | nil => rfl
      | cons next more => cases next <;> rfl

/-- An empty text at the end shows nothing. -/
theorem shown_joinTexts_concat_nil (front : List Piece) :
    (joinTexts (front ++ [.text []])).flatMap Piece.shown =
      (joinTexts front).flatMap Piece.shown := by
  -- an empty text is joined to a text before it, or it stays as a text of its own
  have hlast : joinTexts (front ++ [.text []]) = joinTexts front ∨
      joinTexts (front ++ [.text []]) = joinTexts front ++ [.text []] := by
    induction front with
    | nil => exact .inr rfl
    | cons piece front ih =>
      cases piece with
      | kept | tag =>
        simp only [List.cons_append, joinTexts, List.cons.injEq, true_and]
        exact ih
      | text first =>
        rw [List.cons_append, joinTexts, joinTexts]
        rcases ih with ih | ih
        · exact .inl (by rw [ih])
        · rw [ih]
          cases joinTexts front with
          | nil => exact .inl (by simp)
          | cons next more => cases next <;> exact .inr rfl
  rcases hlast with hlast | hlast
  · rw [hlast]
  · rw [hlast, List.flatMap_append]
    exact List.append_nil _

/-- Texts are joined to one. -/
theorem joinTexts_map_text (text : List Char) (texts : List (List Char)) :
    joinTexts ((text :: texts).map .text) = [.text (text :: texts).flatten] := by
  induction texts generalizing text with
  | nil => simp [joinTexts]
  | cons next texts ih =>
    rw [List.map_cons, joinTexts, ih]
    simp

/-! ### Reading -/

/-- A style whose tags need no reading of their own: a word without brackets and equals signs that is
its own name. -/
structure Plain (style : List Char) : Prop where
  /-- It starts as a tag does, but not as a closing one or that of a handler. -/
  start : ∃ c body, style = c :: body ∧ startsTag c = true ∧ c ≠ '/' ∧ c ≠ '@'
  /-- It has no brackets and no equals sign. -/
  body : '[' ∉ style ∧ ']' ∉ style ∧ '=' ∉ style
  /-- There are no blanks around it. -/
  stripped : Text.strip style = style
  /-- It is the name of its style. -/
  named : styleName style = .ok style

variable {style : List Char}

/-- The pieces of what starts with a tag. -/
theorem Plain.pieces_open (h : Plain style) (pending : Nat) (after : List Char) :
    pieces 0 pending ('[' :: style ++ ']' :: after) =
      tagPieces pending style ++ pieces 0 0 after := by
  obtain ⟨c, body, rfl, hc, -, -⟩ := h.start
  have hopen := h.body.1
  have hclose := h.body.2.1
  rw [List.mem_cons, not_or] at hopen hclose
  rw [← pieces_tag hc hopen.2 hclose.2]
  simp

theorem Plain.pieces_close (h : Plain style) (pending : Nat) (after : List Char) :
    pieces 0 pending ('[' :: '/' :: style ++ ']' :: after) =
      tagPieces pending ('/' :: style) ++ pieces 0 0 after :=
  pieces_tag rfl h.body.1 h.body.2.1 pending after

/-- An opening tag opens its style. -/
theorem Plain.textOf_open (h : Plain style) (index : Nat) (opened : List OpenTag)
    (later : List Piece) : textOf index opened (.tag style :: later) =
      textOf index (⟨style, [], index⟩ :: opened) later := by
  have hname := Text.takeWhile_ne_eq_self h.body.2.2
  have hopen : openTag style index = .ok ⟨style, [], index⟩ := by
    unfold openTag
    dsimp only
    rw [hname, h.named, List.drop_of_length_le (Nat.le_succ _)]
    rfl
  obtain ⟨c, body, rfl, -, hslash, -⟩ := h.start
  rw [textOf, hname, hopen]
  split
  · next heq => exact absurd (List.cons.inj heq).1 hslash
  · rfl

/-- A closing tag closes the style that was opened last. -/
theorem Plain.textOf_close (h : Plain style) (index start : Nat) (opened : List OpenTag)
    (later : List Piece) :
    textOf index (⟨style, [], start⟩ :: opened) (.tag ('/' :: style) :: later) = do
      let after ← textOf index opened later
      return { after with spans := ⟨start, index⟩ :: after.spans } := by
  have hname : ('/' :: style).takeWhile (· ≠ '=') = '/' :: style :=
    Text.takeWhile_ne_eq_self fun hmem => (List.mem_cons.1 hmem).elim (by decide) h.body.2.2
  -- the style was opened last and has no parameters, so closing it is no error
  have hclosed : closed style (⟨style, [], start⟩ :: opened) = .ok (⟨style, [], start⟩, opened) := by
    have hne : style ≠ [] := by
      obtain ⟨c, body, rfl, -⟩ := h.start
      exact List.cons_ne_nil c body
    have htake : take? style (⟨style, [], start⟩ :: opened) = some (⟨style, [], start⟩, opened) :=
      if_pos rfl
    have hclose : OpenTag.close ⟨style, [], start⟩ = .ok () := if_neg fun hboth => hboth.2 rfl
    unfold closed
    rw [if_neg hne]
    simp only [pure_bind]
    refine bind_eq_ok_iff.2 ⟨style, h.named, ?_⟩
    rw [htake]
    exact bind_eq_ok_iff.2 ⟨(), hclose, rfl⟩
  rw [textOf, hname]
  split
  · next name heq =>
    obtain rfl := (List.cons.inj heq).2
    rw [h.stripped, hclosed]
    rfl
  · next hne => exact absurd rfl (hne style)

/-- The styles of messages, labels, commands and reports. -/
theorem plain_styles : ∀ style ∈ ["cyan", "yellow", "red", "bold", "dim"], Plain style.toList := by
  have hstart : ∀ style ∈ ["cyan", "yellow", "red", "bold", "dim"], ∃ c body,
      style.toList = c :: body ∧ startsTag c = true ∧ c ≠ '/' ∧ c ≠ '@' := by
    simp [startsTag]
  have hbody : ∀ style ∈ ["cyan", "yellow", "red", "bold", "dim"],
      '[' ∉ style.toList ∧ ']' ∉ style.toList ∧ '=' ∉ style.toList := by decide
  have hstripped : ∀ style ∈ ["cyan", "yellow", "red", "bold", "dim"],
      Text.strip style.toList = style.toList := by decide
  -- the names are compared by evaluation, which sees no further than to the options of the results
  have hnamed : ∀ style ∈ ["cyan", "yellow", "red", "bold", "dim"],
      (styleName style.toList).toOption = some style.toList := by decide +kernel
  refine fun style h => ⟨hstart style h, hbody style h, hstripped style h, ?_⟩
  have hname := hnamed style h
  cases hread : styleName style.toList with
  | error fault =>
    rw [hread] at hname
    cases hname
  | ok name =>
    rw [hread] at hname
    rw [Option.some.inj hname]

/-! ### Texts between tags -/

/-- A text between the tags of a style, and what follows. -/
def tagged (style cs rest : List Char) : List Char :=
  '[' :: style ++ ']' :: cs ++ '[' :: '/' :: style ++ ']' :: rest

/-- The pieces of a text between tags stand between those of the tags. -/
theorem Plain.pieces_tagged (h : Plain style) (cs rest : List Char) :
    ∃ front waiting, pieces 0 0 cs = front ++ [.text (List.replicate waiting '\\')] ∧
      joinTexts (pieces 0 0 (tagged style cs rest)) =
        .kept [] :: .tag style :: joinTexts front ++
          joinTexts (tagPieces waiting ('/' :: style) ++ pieces 0 0 rest) ∧
      (waiting = 0 ↔ cs.getLast? ≠ some '\\') := by
  obtain ⟨front, waiting, halone, hboth, hwaiting⟩ := splits 0 cs ('/' :: style ++ ']' :: rest)
  refine ⟨front, waiting, halone, ?_, hwaiting⟩
  have hopen := h.pieces_open 0 (cs ++ '[' :: ('/' :: style ++ ']' :: rest))
  have hsame : tagged style cs rest =
      '[' :: style ++ ']' :: (cs ++ '[' :: ('/' :: style ++ ']' :: rest)) := by simp [tagged]
  have hclose := h.pieces_close waiting rest
  rw [hsame, hopen, hboth, show '[' :: ('/' :: style ++ ']' :: rest) =
    '[' :: '/' :: style ++ ']' :: rest from rfl, hclose]
  change .kept [] :: .tag style :: joinTexts (front ++ .kept _ :: _) = _
  rw [joinTexts_append_kept]
  rfl

theorem textOf_kept_nil (index : Nat) (opened : List OpenTag) (later : List Piece) :
    textOf index opened (.kept [] :: later) = textOf index opened later := by
  rw [textOf]
  change (do
    let after ← textOf index opened later
    return { after with chars := [] ++ after.chars }) = _
  cases textOf index opened later <;> rfl

theorem textOf_texts (index : Nat) (opened : List OpenTag) (texts : List (List Char))
    (later : List Piece) : textOf index opened (joinTexts (texts.map .text) ++ later) = do
      let after ← textOf (index + (displayed (unescape texts.flatten)).length) opened later
      return { after with chars := displayed (unescape texts.flatten) ++ after.chars } := by
  cases texts with
  | nil =>
    change textOf index opened later = do
      let after ← textOf index opened later
      return { after with chars := [] ++ after.chars }
    cases textOf index opened later <;> rfl
  | cons text texts =>
    rw [joinTexts_map_text]
    rfl

/-- What is read of a text without tags between the tags of a style. -/
theorem Plain.read_tagged (h : Plain style) (htagless : Tagless cs)
    (hend : cs.getLast? ≠ some '\\') (rest : List Char) :
    read (tagged style cs rest) = do
      let after ← textOf (displayed (unescape cs)).length [] (joinTexts (pieces 0 0 rest))
      return ⟨displayed (unescape cs) ++ after.chars,
        ⟨0, (displayed (unescape cs)).length⟩ :: after.spans⟩ := by
  obtain ⟨front, waiting, halone, htagged, hwaiting⟩ := h.pieces_tagged cs rest
  obtain rfl : waiting = 0 := hwaiting.2 hend
  -- all pieces are texts, the last of them empty, and the others are the text
  obtain ⟨texts, htexts, hflatten⟩ := pieces_of_tagless htagless 0
  obtain ⟨first, last, rfl, rfl, hlast⟩ := List.append_eq_map_iff.1 (halone.symm.trans htexts)
  have hempty : last.flatten = [] := by
    obtain ⟨text, rfl, htext⟩ := List.map_eq_singleton_iff.1 hlast
    simpa using htext
  rw [List.flatten_append, hempty, List.append_nil] at hflatten
  obtain rfl : first.flatten = cs := hflatten
  unfold read
  rw [htagged]
  change textOf 0 [] (.kept [] :: .tag style :: (joinTexts (first.map .text) ++
    .kept [] :: .tag ('/' :: style) :: joinTexts (pieces 0 0 rest))) = _
  rw [textOf_kept_nil, h.textOf_open, textOf_texts, textOf_kept_nil, h.textOf_close, Nat.zero_add,
    bind_assoc]
  rfl

/-- What is shown of backslashes and a closing tag: a half of the backslashes, and the tag as well if
there is an odd one. -/
theorem shown_close (waiting : Nat) (style : List Char) :
    (joinTexts (tagPieces waiting ('/' :: style) ++ pieces 0 0 [])).flatMap Piece.shown =
      displayed (List.replicate (waiting / 2) '\\') ++
        if waiting % 2 = 1 then displayed ('[' :: '/' :: style) ++ [']'] else [] := by
  unfold tagPieces
  split_ifs <;> simp [joinTexts, pieces, Piece.shown, displayed, unescape, isDropped]

/-- No backslash waits for the closing tag if nothing of the text is lost and nothing is added. -/
theorem waiting_eq_zero {front : List Piece} {waiting : Nat}
    (halone : pieces 0 0 cs = front ++ [.text (List.replicate waiting '\\')])
    (hwaiting : waiting = 0 ↔ cs.getLast? ≠ some '\\')
    (hshown : cs = (joinTexts front).flatMap Piece.shown ++
      (joinTexts (tagPieces waiting ('/' :: style) ++ pieces 0 0 [])).flatMap Piece.shown) :
    waiting = 0 := by
  rw [shown_close] at hshown
  split_ifs at hshown with hodd
  · -- the closing tag is text, and the text ends with its bracket
    refine hwaiting.2 fun hback => ?_
    rw [hshown, ← List.append_assoc, ← List.append_assoc, List.getLast?_concat] at hback
    cases hback
  · -- one of two backslashes is lost
    have hlength := congrArg List.length hshown
    have hfront := length_flatMap_shown_le (joinTexts front)
    have hback : (displayed (List.replicate (waiting / 2) '\\')).length ≤ waiting / 2 :=
      Nat.le_trans (List.length_filter_le _ _) (Nat.le_of_eq List.length_replicate)
    have htotal := total_pieces_le 0 0 cs
    rw [halone, total_append] at htotal
    rw [List.append_nil, List.length_append] at hlength
    rw [total_joinTexts] at hfront
    simp only [total, Piece.size, List.length_replicate] at htotal
    omega

/-- A text between the tags of a style is read as it is exactly if it is inert and no backslash
stands before the closing tag. -/
theorem Plain.read_tagged_keeps_iff (h : Plain style) (cs : List Char) :
    (∃ text, read (tagged style cs []) = .ok text ∧ text.chars = cs) ↔
      Inert cs ∧ cs.getLast? ≠ some '\\' := by
  constructor
  -- without a backslash before the closing tag the text in between is read as if it stood alone
  · rintro ⟨text, htext, hchars⟩
    obtain ⟨front, waiting, halone, htagged, hwaiting⟩ := h.pieces_tagged cs []
    have hshown := chars_textOf htext
    rw [htagged, hchars, List.flatMap_append] at hshown
    change cs = (joinTexts front).flatMap Piece.shown ++ _ at hshown
    obtain rfl := waiting_eq_zero halone hwaiting hshown
    refine ⟨shown_pieces_eq_self_iff.1 ?_, hwaiting.1 rfl⟩
    rw [halone]
    change (joinTexts (front ++ [.text []])).flatMap Piece.shown = cs
    rw [shown_joinTexts_concat_nil]
    exact (hshown.trans (List.append_nil _)).symm
  · rintro ⟨hinert, hend⟩
    refine ⟨_, h.read_tagged hinert.tagless hend [], ?_⟩
    change displayed (unescape cs) ++ [] = cs
    rw [List.append_nil, unescape_eq_self_iff.2 hinert.unescaped,
      displayed_eq_self_iff.2 hinert.displayed]

end JuliaSession.Markup
