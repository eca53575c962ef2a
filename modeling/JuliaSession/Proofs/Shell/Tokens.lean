import JuliaSession.Proofs.Shell.Words
import JuliaSession.Shell.Parse

/-!
# The tokens of quoted words

The shell reads a script token by token. A quoted text is one token for it, a word that is nothing
but the text: no part of it is expanded, divides words or means something else to the shell.

* `Passes`: a reader passes over a text and comes to a value. `Passes.bind` puts readers one after
  the other.
* `parts_quoted`, `parts_word`: the parts of a word with and without quotes are its text.
* `Lexes`: a piece of a line is read as one token; `lexes_quoteChars` says which one a quoted text
  is.
* `tokens_joinWith`: the tokens of pieces with spaces between them.
-/

namespace JuliaSession.Shell.Parse

variable {α β : Type} {text rest : ByteText} {c : Char}

/-! ### Passing over text -/

/-- A reader passes over a text, before some rest, and comes to a value. Nothing else changes but
the number of the line. -/
def Passes (reader : Reader α) (text rest : ByteText) (value : α) : Prop :=
  ∀ cursor : Cursor, cursor.rest = text ++ rest →
    ∃ line, reader.run cursor = .ok (value, { cursor with rest, line })

namespace Passes

theorem pure (value : α) : Passes (pure value) [] rest value := fun cursor hrest =>
  ⟨cursor.line, by rw [List.nil_append] at hrest; subst hrest; rfl⟩

/-- One reader after the other passes over one text after the other. -/
theorem bind {reader : Reader α} {next : α → Reader β} {text' : ByteText} {value : α} {value' : β}
    (h : Passes reader text (text' ++ rest) value) (h' : Passes (next value) text' rest value') :
    Passes (reader >>= next) (text ++ text') rest value' := by
  intro cursor hrest
  obtain ⟨line, hrun⟩ := h cursor (by rw [hrest, List.append_assoc])
  obtain ⟨line', hrun'⟩ := h' { cursor with rest := text' ++ rest, line } rfl
  refine ⟨line', ?_⟩
  rw [StateT.run_bind, hrun]
  exact hrun'

/-- A reader that looks ahead goes before one that passes over a text. -/
theorem look {reader : Reader α} {next : α → Reader β} {value : α} {value' : β}
    (h : Passes reader [] (text ++ rest) value) (h' : Passes (next value) text rest value') :
    Passes (reader >>= next) text rest value' := h.bind h'

/-- A reader that passes over a text goes before one that looks ahead. -/
theorem last {reader : Reader α} {next : α → Reader β} {value : α} {value' : β}
    (h : Passes reader text rest value) (h' : Passes (next value) [] rest value') :
    Passes (reader >>= next) text rest value' := by
  rw [← List.append_nil text]
  exact h.bind h'

theorem map {reader : Reader α} {value : α} (f : α → β) (h : Passes reader text rest value) :
    Passes (do return f (← reader)) text rest (f value) :=
  h.last (.pure _)

end Passes

theorem passes_peek (rest : ByteText) : Passes peek [] rest rest := fun cursor hrest =>
  ⟨cursor.line, by rw [List.nil_append] at hrest; subst hrest; rfl⟩

theorem passes_advance (c : Char) (rest : ByteText) : Passes advance [c] rest () := by
  intro cursor hrest
  refine ⟨if c = '\n' then cursor.line + 1 else cursor.line, ?_⟩
  unfold advance
  rw [StateT.run_modify, hrest]
  rfl

/-- After one character has been taken, what follows passes over the others. -/
theorem passes_advance_bind {next : Unit → Reader β} {value : β} (c : Char)
    (h : Passes (next ()) text rest value) : Passes (advance >>= next) (c :: text) rest value :=
  (passes_advance c (text ++ rest)).bind h

theorem passes_advanceBy (text rest : ByteText) : Passes (advanceBy text.length) text rest () := by
  induction text with
  | nil => exact Passes.pure ()
  | cons c text ih => exact passes_advance_bind c ih

/-- Lines are joined at a backslash only. -/
theorem passes_joinLines (h : rest.head? ≠ some '\\') (fuel : Nat) :
    Passes (joinLines fuel) [] rest () := by
  cases fuel with
  | zero => exact Passes.pure ()
  | succ fuel =>
    refine (passes_peek rest).look ?_
    split
    · exact absurd rfl h
    · exact Passes.pure ()

theorem passes_peekChar (h : rest.head? ≠ some '\\') (fuel : Nat) :
    Passes (peekChar fuel) [] rest rest.head? :=
  (passes_joinLines h fuel).look ((passes_peek rest).look (Passes.pure _))

theorem passes_accept (h : c ≠ '\\') (fuel : Nat) (rest : ByteText) :
    Passes (accept fuel c) [c] rest true := by
  have hhead : ([c] ++ rest).head? ≠ some '\\' := by simpa using h
  refine (passes_peekChar hhead fuel).look ?_
  rw [List.singleton_append, List.head?_cons, if_pos rfl]
  exact (passes_advance c rest).map fun _ => true

/-! ### Parts of words -/

/-- What comes next ends a word. -/
def Stops (rest : ByteText) : Prop := ∀ c ∈ rest.head?, endsWord c = true

theorem Stops.head_ne (h : Stops rest) : rest.head? ≠ some '\\' := by
  intro hhead
  exact absurd (h '\\' hhead) (by decide)

theorem parts_stop (h : Stops rest) (fuel : Nat) :
    Passes (parts (fuel + 1) .word false) [] rest [] := by
  refine (passes_peekChar h.head_ne fuel).look ?_
  cases hhead : rest.head? with
  | none => exact Passes.pure []
  | some c =>
    dsimp only
    rw [if_pos ⟨rfl, h c hhead⟩]
    exact Passes.pure []

/-- A character without a meaning of its own is a part of the word. -/
theorem parts_safe {later : List Part} (hc : isSafe c = true) {fuel : Nat}
    (h : Passes (parts fuel .word false) text rest later) :
    Passes (parts (fuel + 1) .word false) (c :: text) rest (addPart (.text false [c]) later) := by
  have hne : ∀ d, isSafe d = false → c ≠ d := by
    rintro d hd rfl
    rw [hc] at hd
    cases hd
  -- none of the characters that end a word is safe
  have hends : endsWord c = false := by
    unfold endsWord
    simp [hne ' ' (by decide), hne '\t' (by decide), hne '\n' (by decide), hne ';' (by decide),
      hne '&' (by decide), hne '|' (by decide), hne '(' (by decide), hne ')' (by decide),
      hne '<' (by decide), hne '>' (by decide)]
  have hhead : ((c :: text) ++ rest).head? ≠ some '\\' := by
    simpa using hne '\\' (by decide)
  refine (passes_peekChar hhead fuel).look ?_
  simp only [List.cons_append, List.head?_cons, Ending.quoted, hends, reduceCtorEq, false_and,
    and_false, Bool.false_eq_true, decide_false, Bool.false_and, if_false, pure_bind,
    hne '$' (by decide), hne backQuote (by decide), hne '\\' (by decide), hne '\'' (by decide),
    hne '"' (by decide)]
  exact passes_advance_bind c (h.map _)

/-- Ordinary characters are a word as they stand. -/
theorem parts_word {cs : ByteText} (hsafe : cs.all isSafe = true) (hne : cs ≠ [])
    (hstops : Stops rest) {fuel : Nat} (hfuel : cs.length < fuel) :
    Passes (parts fuel .word false) cs rest [.text false cs] := by
  induction cs generalizing fuel with
  | nil => exact absurd rfl hne
  | cons c cs ih =>
    rw [List.all_cons, Bool.and_eq_true] at hsafe
    obtain ⟨fuel, rfl⟩ := Nat.exists_eq_succ_of_ne_zero (Nat.ne_of_gt (Nat.zero_lt_of_lt hfuel))
    have hfuel' : cs.length < fuel := Nat.lt_of_succ_lt_succ hfuel
    cases cs with
    | nil =>
      obtain ⟨fuel, rfl⟩ := Nat.exists_eq_succ_of_ne_zero (Nat.ne_of_gt hfuel')
      exact parts_safe hsafe.1 (parts_stop hstops fuel)
    | cons d cs => exact parts_safe hsafe.1 (ih hsafe.2 (List.cons_ne_nil d cs) hfuel')

/-- Characters between single quotes are a part of the word as they stand. -/
theorem parts_single {body : ByteText} {later : List Part} (hbody : '\'' ∉ body) {fuel : Nat}
    (h : Passes (parts fuel .word false) text rest later) :
    Passes (parts (fuel + 1) .word false) ('\'' :: (body ++ '\'' :: text)) rest
      (addPart (.text true body) later) := by
  have htake : (body ++ ('\'' :: (text ++ rest))).takeWhile (· ≠ '\'') = body :=
    Text.takeWhile_ne_separator hbody (text ++ rest)
  have hends : endsWord '\'' = false := by decide
  have hback : '\'' ≠ backQuote := by decide
  refine (passes_peekChar (by simp) fuel).look ?_
  simp only [List.cons_append, List.head?_cons, Ending.quoted, reduceCtorEq, false_and, hends,
    and_false, Bool.false_eq_true, if_false, pure_bind, Char.reduceEq, hback, decide_true,
    Bool.not_false, Bool.and_self, if_true]
  refine passes_advance_bind '\'' ?_
  refine (passes_peek _).look ?_
  rw [List.append_assoc, List.cons_append, htake]
  refine (passes_advanceBy body _).bind ?_
  refine (passes_peek _).look ?_
  exact passes_advance_bind '\'' (h.map _)

/-- Nothing more stands between double quotes before the closing one. -/
theorem parts_closing (fuel : Nat) :
    Passes (parts (fuel + 1) .quote false) [] ('"' :: rest) [] := by
  refine (passes_peekChar (by simp) fuel).look ?_
  simp only [reduceCtorEq, false_and, if_false]
  exact Passes.pure []

/-- A single quote between double quotes is a part of the word. -/
theorem parts_double {later : List Part} {fuel : Nat}
    (h : Passes (parts (fuel + 2) .word false) text rest later) :
    Passes (parts (fuel + 3) .word false) ('"' :: '\'' :: '"' :: text) rest
      (addPart (.text true ['\'']) later) := by
  have hends : endsWord '"' = false := by decide
  have hback : '\'' ≠ backQuote := by decide
  have hback' : '"' ≠ backQuote := by decide
  -- between the double quotes the single quote stands for itself
  have hinside : Passes (parts (fuel + 2) .quote false) ['\''] ('"' :: text ++ rest)
      [.text true ['\'']] := by
    refine (passes_peekChar (by simp) _).look ?_
    simp only [List.cons_append, List.head?_cons, Ending.quoted, reduceCtorEq, false_and,
      and_false, Bool.false_eq_true, if_false, pure_bind, Char.reduceEq, hback, decide_true,
      Bool.not_true, Bool.and_false]
    exact passes_advance_bind '\'' ((parts_closing fuel).map _)
  refine (passes_peekChar (by simp) _).look ?_
  simp only [List.cons_append, List.head?_cons, Ending.quoted, reduceCtorEq, false_and, hends,
    and_false, Bool.false_eq_true, if_false, pure_bind, Char.reduceEq, hback', decide_true,
    decide_false, Bool.false_and, Bool.not_false, Bool.and_self, if_true]
  refine passes_advance_bind '"' ?_
  refine hinside.bind ?_
  exact passes_advance_bind '"' (h.map _)

/-- A text between single quotes, with its own single quotes between double ones, is a word. -/
theorem parts_quoted (cs : ByteText) (hstops : Stops rest) {fuel : Nat}
    (hfuel : (cs.flatMap quoteChar).length + 3 ≤ fuel) :
    Passes (parts fuel .word false) ('\'' :: (cs.flatMap quoteChar ++ ['\''])) rest
      [.text true cs] := by
  -- by induction on the length of the text, one single quote after the other
  induction hlength : cs.length using Nat.strongRecOn generalizing cs fuel with
  | ind length ih =>
    by_cases hquote : '\'' ∈ cs
    · obtain ⟨body, more, rfl, hbody⟩ := List.eq_append_cons_of_mem hquote
      have hsplit : (body ++ '\'' :: more).flatMap quoteChar =
          body ++ '\'' :: '"' :: '\'' :: '"' :: '\'' :: more.flatMap quoteChar := by
        rw [List.flatMap_append, List.flatMap_cons, flatMap_quoteChar_eq_self hbody]
        rfl
      rw [hsplit] at hfuel ⊢
      simp only [List.length_append, List.length_cons] at hfuel hlength
      obtain ⟨fuel, rfl⟩ := Nat.exists_eq_add_of_le' (show 4 ≤ fuel by omega)
      have hmore : Passes (parts (fuel + 2) .word false)
          ('\'' :: (more.flatMap quoteChar ++ ['\''])) rest [.text true more] :=
        ih more.length (by omega) more (by omega) rfl
      have hword := parts_single hbody (parts_double hmore)
      simpa [addPart] using hword
    · obtain ⟨fuel, rfl⟩ := Nat.exists_eq_add_of_le' (Nat.le_of_add_left_le hfuel)
      rw [flatMap_quoteChar_eq_self hquote]
      exact parts_single hquote (parts_stop hstops (fuel + 1))

/-- Is a word of this text written between quotes? -/
def isQuoted (cs : ByteText) : Bool := !(cs ≠ [] ∧ cs.all isSafe)

theorem passes_wordToken (cs : ByteText) (hstops : Stops rest) {fuel : Nat}
    (hfuel : (quoteChars cs).length + 3 ≤ fuel) :
    Passes (wordToken fuel) (quoteChars cs) rest
      (.word [.text (isQuoted cs) cs] (isQuoted cs)) := by
  obtain ⟨fuel, rfl⟩ := Nat.exists_eq_add_of_le' (Nat.le_of_add_left_le hfuel)
  have hparts : Passes (parts (fuel + 2) .word false) (quoteChars cs) rest
      [.text (isQuoted cs) cs] := by
    unfold quoteChars at hfuel ⊢
    unfold isQuoted
    -- the text stands alone, or it is quoted
    split_ifs at hfuel ⊢ with hsafe
    · rw [decide_eq_true hsafe]
      exact parts_word hsafe.2 hsafe.1 hstops (by omega)
    · rw [decide_eq_false hsafe]
      simp only [List.length_append, List.length_cons] at hfuel
      exact parts_quoted cs hstops (by omega)
  refine hparts.last ?_
  cases isQuoted cs with
  | false => exact Passes.pure _
  | true => exact Passes.pure _

/-! ### Tokens -/

/-- A space before a token is passed over. -/
theorem freshToken_space {fuel : Nat} {token : Token}
    (h : Passes (freshToken fuel) text rest token) :
    Passes (freshToken (fuel + 1)) (' ' :: text) rest token := by
  refine (passes_peekChar (by simp) fuel).look ?_
  exact passes_advance_bind ' ' h

theorem freshToken_and {fuel : Nat} :
    Passes (freshToken (fuel + 1)) ['&', '&'] rest (.mark "&&") := by
  refine (passes_peekChar (by simp) fuel).look ?_
  refine passes_advance_bind '&' ?_
  exact (passes_accept (by decide) fuel rest).last (Passes.pure _)

theorem freshToken_eof (fuel : Nat) : Passes (freshToken (fuel + 1)) [] [] .eof := by
  exact (passes_peekChar (by simp) fuel).look (Passes.pure _)

/-- A word starts with a character that starts nothing else. -/
theorem freshToken_word {fuel : Nat} {token : Token} (hc : isSafe c = true ∨ c = '\'')
    (hnext : c.isDigit = true → ∀ d ∈ (text ++ rest).head?, d ≠ '<' ∧ d ≠ '>')
    (h : Passes (wordToken fuel) (c :: text) rest token) :
    Passes (freshToken (fuel + 1)) (c :: text) rest token := by
  have hne : ∀ d, isSafe d = false → d ≠ '\'' → c ≠ d := by
    rintro d hd hquote rfl
    rcases hc with hc | hc
    · rw [hc] at hd
      cases hd
    · exact hquote hc
  have hhead : ((c :: text) ++ rest).head? ≠ some '\\' := by
    simpa using hne '\\' (by decide) (by decide)
  refine (passes_peekChar hhead fuel).look ?_
  dsimp only [List.cons_append, List.head?_cons]
  -- all cases but the last are characters that start something else
  split
  case h_12 =>
    refine (passes_peek _).look ?_
    split
    next d e tail heq =>
      obtain ⟨rfl, htail⟩ := List.cons.inj heq
      have he : e ∈ (text ++ rest).head? := congrArg List.head? htail
      rw [if_neg fun ⟨hdigit, hredirect⟩ =>
        hredirect.elim (hnext hdigit e he).1 (hnext hdigit e he).2]
      exact h
    next => exact h
  all_goals exact absurd rfl (hne _ (by decide) (by decide))

/-- What comes next is a space or nothing. -/
def Apart (rest : ByteText) : Prop := ∀ c ∈ rest.head?, c = ' '

theorem Apart.stops (h : Apart rest) : Stops rest := by
  intro c hc
  rw [h c hc]
  decide

/-- A piece of a line is read as one token wherever it stands apart. -/
structure Lexes (piece : ByteText) (token : Token) : Prop where
  /-- The token is not the end of the text. -/
  ne_eof : token ≠ .eof
  /-- Reading a token passes over the piece. -/
  passes : ∀ fuel rest, piece.length + 4 ≤ fuel → Apart rest →
    Passes (freshToken fuel) piece rest token

theorem lexes_and : Lexes ['&', '&'] (.mark "&&") := by
  refine ⟨nofun, fun fuel rest hfuel _ => ?_⟩
  obtain ⟨fuel, rfl⟩ := Nat.exists_eq_add_of_le' (Nat.le_of_add_left_le hfuel)
  exact freshToken_and

/-- A quoted text is read as a word with the text in it. -/
theorem lexes_quoteChars (cs : ByteText) :
    Lexes (quoteChars cs) (.word [.text (isQuoted cs) cs] (isQuoted cs)) := by
  refine ⟨nofun, fun fuel rest hfuel hapart => ?_⟩
  obtain ⟨fuel, rfl⟩ := Nat.exists_eq_add_of_le' (Nat.le_of_add_left_le hfuel)
  have hword : Passes (wordToken (fuel + 3)) (quoteChars cs) rest
      (.word [.text (isQuoted cs) cs] (isQuoted cs)) :=
    passes_wordToken cs hapart.stops (by omega)
  -- what the word begins with decides that it is a word, and not a number before a redirection
  by_cases hsafe : cs ≠ [] ∧ cs.all isSafe
  · have hchars : quoteChars cs = cs := if_pos hsafe
    rw [hchars] at hword ⊢
    cases cs with
    | nil => exact absurd rfl hsafe.1
    | cons c text =>
      have hall := hsafe.2
      rw [List.all_cons, Bool.and_eq_true] at hall
      refine freshToken_word (.inl hall.1) (fun _ d hd => ?_) hword
      have hd' : isSafe d = true ∨ d = ' ' := by
        cases text with
        | nil => exact .inr (hapart d hd)
        | cons e text =>
          rw [List.all_cons, Bool.and_eq_true] at hall
          obtain rfl : e = d := Option.some.inj hd
          exact .inl hall.2.1
      constructor <;> rintro rfl <;> revert hd' <;> decide
  · have hchars : quoteChars cs = '\'' :: (cs.flatMap quoteChar ++ ['\'']) := if_neg hsafe
    rw [hchars] at hword ⊢
    exact freshToken_word (.inr rfl) (fun hdigit => absurd hdigit (by decide)) hword

/-- All tokens up to the end of a text. -/
def tokens : Nat → Reader (List Token)
  | 0 => refuse .exhausted
  | fuel + 1 => do
    match ← freshToken fuel with
    | .eof => return []
    | found => return found :: (← tokens fuel)

theorem tokens_nil (fuel : Nat) : Passes (tokens (fuel + 2)) [] [] [] := by
  exact (freshToken_eof fuel).look (Passes.pure _)

/-- A token comes before further ones. -/
theorem tokens_cons {fuel : Nat} {token : Token} {more : List Token} (hne : token ≠ .eof)
    (h : Passes (freshToken fuel) text rest token) (hmore : Passes (tokens fuel) rest [] more) :
    Passes (tokens (fuel + 1)) (text ++ rest) [] (token :: more) := by
  refine Passes.bind (by rwa [List.append_nil]) ?_
  split
  next => exact absurd rfl hne
  next => exact hmore.map _

theorem apart_spaced (pieces : List ByteText) : Apart (pieces.flatMap ([' '] ++ ·)) := by
  intro c hc
  cases pieces with
  | nil => cases hc
  | cons piece pieces => exact (Option.some.inj hc).symm

/-- Pieces, each behind a space, are read one by one. -/
theorem tokens_spaced {pieces : List ByteText} {found : List Token}
    (h : List.Forall₂ Lexes pieces found) {fuel : Nat}
    (hfuel : (pieces.flatMap ([' '] ++ ·)).length + 6 ≤ fuel) :
    Passes (tokens fuel) (pieces.flatMap ([' '] ++ ·)) [] found := by
  induction h generalizing fuel with
  | nil =>
    obtain ⟨fuel, rfl⟩ := Nat.exists_eq_add_of_le' (show 2 ≤ fuel by omega)
    exact tokens_nil fuel
  | @cons piece token pieces found hpiece hpieces ih =>
    rw [List.flatMap_cons] at hfuel ⊢
    simp only [List.length_append, List.length_singleton] at hfuel
    obtain ⟨fuel, rfl⟩ := Nat.exists_eq_add_of_le' (show 2 ≤ fuel by omega)
    have htoken := hpiece.passes fuel _ (by omega) (apart_spaced pieces)
    exact tokens_cons hpiece.ne_eof (freshToken_space htoken) (ih (by omega))

/-- Pieces with spaces between them are read one by one. -/
theorem tokens_joinWith {pieces : List ByteText} {found : List Token}
    (h : List.Forall₂ Lexes pieces found) {fuel : Nat}
    (hfuel : (Text.joinWith [' '] pieces).length + 7 ≤ fuel) :
    Passes (tokens fuel) (Text.joinWith [' '] pieces) [] found := by
  cases h with
  | nil =>
    obtain ⟨fuel, rfl⟩ := Nat.exists_eq_add_of_le' (Nat.le_of_add_left_le hfuel)
    exact tokens_nil (fuel + 5)
  | @cons piece token pieces found hpiece hpieces =>
    rw [Text.joinWith_cons] at hfuel ⊢
    rw [List.length_append] at hfuel
    change piece.length + (pieces.flatMap ([' '] ++ ·)).length + 7 ≤ fuel at hfuel
    obtain ⟨fuel, rfl⟩ := Nat.exists_eq_add_of_le' (Nat.le_of_add_left_le hfuel)
    have htoken := hpiece.passes (fuel + 6) _ (by omega) (apart_spaced pieces)
    exact tokens_cons hpiece.ne_eof htoken (tokens_spaced hpieces (by omega))

end JuliaSession.Shell.Parse
