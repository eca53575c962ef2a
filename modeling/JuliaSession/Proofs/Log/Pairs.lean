import Mathlib.Tactic.SplitIfs
import JuliaSession.Proofs.Json.Strings
import JuliaSession.Proofs.Log.Lines

/-!
# Reading fields back

In a `key=value` line a text that has a blank or an equals sign, or is empty, is quoted; any other
text is written as it stands, even one that begins with a quote. Such a text can be read as the
quoted form of another.

* `Log.Mistakable`: a text that is written as it stands and looks like a quoted one, or like the
  start of one.
* `Log.fieldText_append_inj`: values that are not mistakable tell where they end.
* `Log.pairsText_inj`: names and values are read back from their pairs.
* `Log.Record.line_withTexts`: the pairs of the fields follow what the line is without them.
* `Log.Record.told_apart`: fields can be told apart by their line unless a value is mistakable, and
  every mistakable value can stand in two lines that are the same.
-/

namespace JuliaSession

namespace Text

/-- What follows the first pieces comes after separators. -/
theorem joinWith_append {sep : List Char} {pieces : List (List Char)} (h : pieces ≠ [])
    (more : List (List Char)) :
    joinWith sep (pieces ++ more) = joinWith sep pieces ++ more.flatMap (sep ++ ·) := by
  obtain ⟨piece, pieces, rfl⟩ := List.exists_cons_of_ne_nil h
  rw [List.cons_append, joinWith_cons, joinWith_cons, List.flatMap_append, List.append_assoc]

/-- Pieces that are joined may be followed by others that are joined already. -/
theorem joinWith_append_joined {sep : List Char} {pieces more : List (List Char)}
    (h : pieces ≠ []) (hmore : ∀ piece ∈ more, piece ≠ []) :
    joinWith sep (pieces ++ [joinWith sep more].filter fun piece => !piece.isEmpty) =
      joinWith sep (pieces ++ more) := by
  cases more with
  | nil => rfl
  | cons piece more =>
    have hne : joinWith sep (piece :: more) ≠ [] := by
      rw [joinWith_cons]
      exact List.append_ne_nil_of_left_ne_nil (hmore piece List.mem_cons_self) _
    have hkeep : ([joinWith sep (piece :: more)].filter fun piece => !piece.isEmpty) =
        [joinWith sep (piece :: more)] := by
      simp [hne]
    rw [hkeep, joinWith_append h, joinWith_append h, joinWith_cons]
    simp

/-- What stands before the first separator tells where it ends. -/
theorem eq_of_append_cons {sep : Char} {start start' rest rest' : List Char} (h : sep ∉ start)
    (h' : sep ∉ start') (heq : start ++ sep :: rest = start' ++ sep :: rest') :
    start = start' ∧ rest = rest' := by
  have hsplit := congrArg (splitOnChar sep) heq
  rw [splitOnChar_append h, splitOnChar_append h'] at hsplit
  obtain rfl := (List.cons.inj hsplit).1
  exact ⟨rfl, (List.cons.inj (List.append_cancel_left heq)).2⟩

end Text

namespace Log

/-! ### Values -/

/-- A text that is written as it stands, and looks like another text in quotes or begins like one
that has a blank. -/
def Mistakable (cs : List Char) : Prop :=
  needsQuotes cs = false ∧
    ((∃ quoted, needsQuotes quoted = true ∧ cs = Json.quoteChars quoted) ∨
      ∃ start : List Char, cs = '"' :: start.flatMap Json.escapeChar)

theorem Mistakable.eq_cons {cs : List Char} (h : Mistakable cs) : ∃ tail, cs = '"' :: tail := by
  obtain ⟨-, ⟨quoted, -, rfl⟩ | ⟨start, rfl⟩⟩ := h <;> exact ⟨_, rfl⟩

theorem not_mistakable_of_quotes {cs : List Char} (h : needsQuotes cs = true) : ¬ Mistakable cs :=
  fun hcs => Bool.false_ne_true (hcs.1.symm.trans h)

/-- What follows a value: nothing, or a blank and the next pair. -/
def Ends (rest : List Char) : Prop := ∀ c tail, rest = c :: tail → c = ' '

variable {cs cs' rest rest' : List Char}

theorem fieldText_of_quotes (h : needsQuotes cs = true) : fieldText cs = Json.quoteChars cs :=
  if_pos h

theorem fieldText_of_plain (h : needsQuotes cs = false) : fieldText cs = cs :=
  if_neg (Bool.eq_false_iff.1 h)

theorem space_not_mem (h : needsQuotes cs = false) : ' ' ∉ cs := fun hmem =>
  absurd (isBlank_eq_false h hmem) (by decide)

/-- Only a space is written with a space. -/
theorem escapeChar_space {c : Char} (h : ' ' ∈ Json.escapeChar c) : c = ' ' := by
  have hhex : ∀ n : Fin 32, ' ' ∉ Text.hexFixed 4 n := by decide
  unfold Json.escapeChar at h
  split_ifs at h with _ _ _ _ _ _ _ hcontrol
  iterate 7 exact absurd h (by decide)
  · refine absurd h ?_
    rw [List.mem_cons, List.mem_cons, not_or, not_or]
    exact ⟨by decide, by decide, hhex ⟨c.toNat, hcontrol⟩⟩
  · exact (List.mem_singleton.1 h).symm

/-- A text with no blanks that is followed by the end of a value is what the text in front of the
first space is. -/
theorem takeWhile_append (h : ' ' ∉ cs) (hends : Ends rest) :
    (cs ++ rest).takeWhile (· ≠ ' ') = cs := by
  rw [Text.takeWhile_ne_append h]
  cases rest with
  | nil => rw [List.takeWhile_nil, List.append_nil]
  | cons c tail =>
    rw [hends c tail rfl, List.takeWhile_cons_of_neg (by decide), List.append_nil]

/-- A quoted text up to its first space. -/
theorem takeWhile_flatMap_escapeChar (cs rest : List Char) :
    (∃ start : List Char, (cs.flatMap Json.escapeChar ++ rest).takeWhile (· ≠ ' ') =
        start.flatMap Json.escapeChar) ∨
      (cs.flatMap Json.escapeChar ++ rest).takeWhile (· ≠ ' ') =
        cs.flatMap Json.escapeChar ++ rest.takeWhile (· ≠ ' ') := by
  induction cs with
  | nil => exact .inr rfl
  | cons c cs ih =>
    by_cases hc : c = ' '
    · subst hc
      exact .inl ⟨[], rfl⟩
    · have hnone : ' ' ∉ Json.escapeChar c := fun hmem => hc (escapeChar_space hmem)
      rw [List.flatMap_cons, List.append_assoc, Text.takeWhile_ne_append hnone]
      rcases ih with ⟨start, hstart⟩ | hall
      · exact .inl ⟨c :: start, by rw [hstart, List.flatMap_cons]⟩
      · exact .inr (by rw [hall, List.append_assoc])

/-- A text written as it stands that can be read as a quoted one is mistakable. -/
theorem mistakable_of_eq (hplain : needsQuotes cs = false) (hquotes : needsQuotes cs' = true)
    (hends : Ends rest) (hends' : Ends rest')
    (h : cs ++ rest = Json.quoteChars cs' ++ rest') : Mistakable cs := by
  refine ⟨hplain, ?_⟩
  have htake : cs = '"' :: (cs'.flatMap Json.escapeChar ++ '"' :: rest').takeWhile (· ≠ ' ') := by
    rw [← takeWhile_append (space_not_mem hplain) hends, h, Json.quoteChars]
    simp
  rcases takeWhile_flatMap_escapeChar cs' ('"' :: rest') with ⟨start, hstart⟩ | hall
  · exact .inr ⟨start, by rw [htake, hstart]⟩
  · refine .inl ⟨cs', hquotes, ?_⟩
    have hquote : ' ' ∉ ['"'] := by decide
    have hrest : ('"' :: rest').takeWhile (· ≠ ' ') = ['"'] := takeWhile_append hquote hends'
    rw [htake, hall, hrest, Json.quoteChars, List.cons_append]

/-- Values that are not mistakable tell where they end. -/
theorem fieldText_append_inj (hcs : ¬ Mistakable cs) (hcs' : ¬ Mistakable cs')
    (hends : Ends rest) (hends' : Ends rest')
    (h : fieldText cs ++ rest = fieldText cs' ++ rest') : cs = cs' ∧ rest = rest' := by
  cases hquotes : needsQuotes cs <;> cases hquotes' : needsQuotes cs'
  case false.false =>
    -- both end at the first space
    rw [fieldText_of_plain hquotes, fieldText_of_plain hquotes'] at h
    obtain rfl : cs = cs' := by
      rw [← takeWhile_append (space_not_mem hquotes) hends, h,
        takeWhile_append (space_not_mem hquotes') hends']
    exact ⟨rfl, List.append_cancel_left h⟩
  case false.true =>
    -- what is not quoted looks like the other in quotes
    rw [fieldText_of_plain hquotes, fieldText_of_quotes hquotes'] at h
    exact absurd (mistakable_of_eq hquotes hquotes' hends hends' h) hcs
  case true.false =>
    rw [fieldText_of_quotes hquotes, fieldText_of_plain hquotes'] at h
    exact absurd (mistakable_of_eq hquotes' hquotes hends' hends h.symm) hcs'
  case true.true =>
    -- the closing quote tells where each of them ends
    rw [fieldText_of_quotes hquotes, fieldText_of_quotes hquotes'] at h
    exact Json.Spelling.eq_of_quoteChars_append h

/-! ### Pairs -/

/-- Names and texts. -/
abbrev Texts := List (String × String)

/-- The pairs of names and texts, each after a blank. -/
def pairsText (entries : Texts) : List Char :=
  entries.flatMap fun (name, value) => ' ' :: (name.toList ++ '=' :: fieldText value.toList)

theorem ends_pairsText (entries : Texts) : Ends (pairsText entries) := by
  cases entries with
  | nil => exact nofun
  | cons entry entries =>
    intro c tail h
    exact (List.cons.inj h).1.symm

/-- Names and texts are read back if no name has an equals sign and no text is mistakable. -/
theorem pairsText_inj {first second : Texts}
    (hnames : ∀ entry ∈ first ++ second, '=' ∉ entry.1.toList)
    (hvalues : ∀ entry ∈ first ++ second, ¬ Mistakable entry.2.toList)
    (h : pairsText first = pairsText second) : first = second := by
  induction first generalizing second with
  | nil =>
    cases second with
    | nil => rfl
    | cons entry second => cases h
  | cons entry first ih =>
    cases second with
    | nil => cases h
    | cons entry' second =>
      obtain ⟨name, value⟩ := entry
      obtain ⟨name', value'⟩ := entry'
      have hmem : (name, value) ∈ (name, value) :: first ++ (name', value') :: second := by simp
      have hmem' : (name', value') ∈ (name, value) :: first ++ (name', value') :: second := by
        simp
      have hsub : first ++ second ⊆ (name, value) :: first ++ (name', value') :: second :=
        List.append_subset.2
          ⟨List.Subset.trans (List.subset_cons_self _ _) (List.subset_append_left _ _),
            List.Subset.trans (List.subset_cons_self _ _) (List.subset_append_right _ _)⟩
      -- a name ends at the first equals sign, and a value where the next pair begins
      simp only [pairsText, List.flatMap_cons, List.cons_append, List.append_assoc] at h
      obtain ⟨hname, h⟩ := Text.eq_of_append_cons (hnames _ hmem) (hnames _ hmem')
        (List.cons.inj h).2
      obtain ⟨hvalue, hrest⟩ := fieldText_append_inj (hvalues _ hmem) (hvalues _ hmem')
        (ends_pairsText first) (ends_pairsText second) h
      obtain rfl := String.toList_injective hname
      obtain rfl := String.toList_injective hvalue
      rw [ih (fun entry hentry => hnames entry (hsub hentry))
        (fun entry hentry => hvalues entry (hsub hentry)) hrest]

/-! ### Lines -/

/-- The texts of the standard members. -/
def headTexts (members : Json.Members) : List (List Char) :=
  [memberText "time" members, '+' :: memberText "delta_ms" members ++ ['m', 's'],
    "level=".toList ++ memberText "level" members,
    "msg=".toList ++ fieldValue (Json.member "msg" members)]

/-- The texts of the other members. -/
def pairTexts (members : Json.Members) : List (List Char) :=
  (members.filter fun entry => entry.1 ∉ standardNames).map
    fun (name, value) => name.toList ++ '=' :: fieldValue value

theorem pairTexts_append (members others : Json.Members) :
    pairTexts (members ++ others) = pairTexts members ++ pairTexts others := by
  rw [pairTexts, List.filter_append, List.map_append]
  rfl

/-- The time since the record before is always there. -/
theorem headTexts_ne_nil (members : Json.Members) :
    (headTexts members).filter (fun piece => !piece.isEmpty) ≠ [] := by
  refine List.ne_nil_of_mem (a := '+' :: memberText "delta_ms" members ++ ['m', 's']) ?_
  simp [headTexts]

theorem ne_nil_of_mem_pairTexts {members : Json.Members} {piece : List Char}
    (h : piece ∈ pairTexts members) : piece ≠ [] := by
  obtain ⟨entry, -, rfl⟩ := List.mem_map.1 h
  simp

namespace Record

variable {record : Record} {entries : Texts}

/-- The line is the texts of all members, with blanks between them. -/
theorem line_kv (record : Record) : record.line .kv =
    Text.joinWith [' '] ((headTexts record.members).filter (fun piece => !piece.isEmpty) ++
      pairTexts record.members) ++ ['\n'] := by
  rw [← Text.joinWith_append_joined (headTexts_ne_nil _) fun _ => ne_nil_of_mem_pairTexts, ← List.filter_append]
  rfl

/-- A record with texts as its fields. -/
def withTexts (record : Record) (entries : Texts) : Record :=
  { record with extra := entries.map fun (name, value) => (name, text value) }

/-- A name that is neither standard nor that of a tag and has no blank, no equals sign and no
quote. -/
structure Free (record : Record) (name : String) : Prop where
  /-- It is not standard. -/
  notStandard : name ∉ standardNames
  /-- It is not that of a tag. -/
  notTag : name ∉ Assoc.keys record.tags
  /-- It is a plain word. -/
  plain : ∀ c ∈ name.toList, Text.isBlank c = false ∧ c ≠ '=' ∧ c ≠ '"'

theorem Free.equals_not_mem {name : String} (h : record.Free name) : '=' ∉ name.toList :=
  fun hmem => (h.plain '=' hmem).2.1 rfl

/-- Fields with distinct free names. -/
structure Takes (record : Record) (entries : Texts) : Prop where
  /-- The names are distinct. -/
  nodup : (Assoc.keys entries).Nodup
  /-- The names are free. -/
  free : ∀ name ∈ Assoc.keys entries, record.Free name

theorem keys_map_snd {α β : Type} (f : α → β) (table : Assoc String α) :
    Assoc.keys (table.map fun (name, value) => (name, f value)) = Assoc.keys table := by
  simp [Assoc.keys]

theorem fields_withTexts (h : record.Takes entries) : (record.withTexts entries).fields =
    (record.withTexts []).fields ++ entries.map fun (name, value) => (name, Json.str value) := by
  have hkeys : Assoc.keys (record.withTexts entries).extra = Assoc.keys entries :=
    keys_map_snd text entries
  -- no field has the name of a tag, so the fields stand behind the tags
  have hnew : Assoc.insertAll record.tags (record.withTexts entries).extra =
      record.tags ++ (record.withTexts entries).extra :=
    Assoc.insertAll_of_new (hkeys ▸ h.nodup)
      fun name hname => (h.free name (hkeys ▸ hname)).notTag
  have hnone : ((record.withTexts entries).extra.filter fun entry => entry.2 ≠ .json .null) =
      (record.withTexts entries).extra := by
    refine List.filter_eq_self.2 fun entry hentry => ?_
    obtain ⟨given, -, rfl⟩ := List.mem_map.1 hentry
    rfl
  unfold fields
  change ((Assoc.insertAll record.tags (record.withTexts entries).extra).filter _).map _ = _
  rw [hnew, List.filter_append, hnone, List.map_append]
  congr 1
  simp [withTexts, text, Value.toJson]

/-- The members of a record with texts are its other members and then the texts. -/
theorem members_withTexts (h : record.Takes entries) : (record.withTexts entries).members =
    (record.withTexts []).members ++ entries.map fun (name, value) => (name, Json.str value) := by
  have hkeys := keys_map_snd Json.str entries
  unfold members
  rw [fields_withTexts h, Assoc.insertAll_append]
  refine Assoc.insertAll_of_new (hkeys ▸ h.nodup) fun name hname hmem => ?_
  rw [hkeys] at hname
  have hmembers : name ∈ Assoc.keys (record.withTexts []).members := hmem
  rcases mem_keys_members hmembers with hstandard | hnames
  · exact (h.free name hname).notStandard hstandard
  · exact (h.free name hname).notTag ((List.mem_append.1 hnames).resolve_right List.not_mem_nil)

theorem headTexts_withTexts (h : record.Takes entries) :
    headTexts (record.withTexts entries).members = headTexts (record.withTexts []).members := by
  have hmember (name : String) (hname : name ∈ standardNames) :
      Json.member name (record.withTexts entries).members =
        Json.member name (record.withTexts []).members := by
    have hnew : name ∉ Assoc.keys (entries.map fun (name, value) => (name, Json.str value)) := by
      rw [keys_map_snd Json.str entries]
      exact fun hmem => (h.free name hmem).notStandard hname
    unfold Json.member members
    rw [fields_withTexts h, Assoc.insertAll_append, Assoc.get?_insertAll_of_not_mem hnew]
    rfl
  unfold headTexts memberText
  rw [hmember "time" (by decide), hmember "delta_ms" (by decide), hmember "level" (by decide),
    hmember "msg" (by decide)]

theorem pairTexts_of_takes (h : record.Takes entries) :
    pairTexts (entries.map fun (name, value) => (name, Json.str value)) =
      entries.map fun (name, value) => name.toList ++ '=' :: fieldText value.toList := by
  unfold pairTexts
  rw [List.filter_eq_self.2]
  · rw [List.map_map]
    rfl
  · intro member hmember
    obtain ⟨entry, hentry, rfl⟩ := List.mem_map.1 hmember
    exact decide_eq_true (h.free _ (List.mem_map_of_mem (f := Prod.fst) hentry)).notStandard

/-- The pairs of the texts follow what the line is without them. -/
theorem line_withTexts (record : Record) : ∃ start, ∀ entries, record.Takes entries →
    (record.withTexts entries).line .kv = start ++ pairsText entries ++ ['\n'] := by
  let heads := (headTexts (record.withTexts []).members).filter fun piece => !piece.isEmpty
  have hheads : heads ≠ [] := headTexts_ne_nil _
  refine ⟨Text.joinWith [' '] (heads ++ pairTexts (record.withTexts []).members),
    fun entries h => ?_⟩
  rw [line_kv, headTexts_withTexts h, members_withTexts h, pairTexts_append,
    pairTexts_of_takes h, ← List.append_assoc,
    Text.joinWith_append (List.append_ne_nil_of_left_ne_nil hheads _), List.flatMap_map]
  rfl

/-! ### Mistaken values -/

/-- Long names of one letter are not among some names. -/
theorem exists_fresh (names : List String) :
    ∃ size, ∀ more, size ≤ more → String.ofList (List.replicate more 'k') ∉ names := by
  induction names with
  | nil => exact ⟨0, fun _ _ => List.not_mem_nil⟩
  | cons name names ih =>
    obtain ⟨size, hsize⟩ := ih
    refine ⟨max size (name.toList.length + 1), fun more hmore => ?_⟩
    rw [List.mem_cons, not_or]
    refine ⟨?_, hsize more (Nat.le_trans (Nat.le_max_left _ _) hmore)⟩
    rintro rfl
    have hlength := Nat.le_trans (Nat.le_max_right _ _) hmore
    rw [String.toList_ofList, List.length_replicate] at hlength
    omega

/-- Long names of one letter are free. -/
theorem exists_free (record : Record) :
    ∃ size, ∀ more, size ≤ more → record.Free (String.ofList (List.replicate more 'k')) := by
  obtain ⟨size, hsize⟩ := exists_fresh (standardNames ++ Assoc.keys record.tags)
  refine ⟨size, fun more hmore => ⟨fun hmem => ?_, fun hmem => ?_, fun c hc => ?_⟩⟩
  · exact hsize more hmore (List.mem_append_left _ hmem)
  · exact hsize more hmore (List.mem_append_right _ hmem)
  · rw [String.toList_ofList] at hc
    obtain rfl := List.eq_of_mem_replicate hc
    decide

theorem takes_singleton {name : String} (h : record.Free name) (value : String) :
    record.Takes [(name, value)] :=
  ⟨by simp [Assoc.keys], fun _ hmem => List.mem_singleton.1 hmem ▸ h⟩

theorem takes_pair {name other : String} (h : record.Free name) (hother : record.Free other)
    (hne : name ≠ other) (value otherValue : String) :
    record.Takes [(name, value), (other, otherValue)] := by
  refine ⟨by simpa [Assoc.keys] using hne, fun given hmem => ?_⟩
  rcases List.mem_cons.1 hmem with rfl | hmem
  · exact h
  · exact List.mem_singleton.1 hmem ▸ hother

/-- Text in quotes goes on to the closing quote, over what looks like another field. -/
theorem pairsText_open {name value : String} {start : List Char} {size : Nat}
    (hplain : needsQuotes value.toList = false)
    (hvalue : value.toList = '"' :: start.flatMap Json.escapeChar) :
    pairsText [(name, value), (String.ofList (List.replicate size 'k'), "z\"")] =
      pairsText [(name, String.ofList (start ++ ' ' :: List.replicate size 'k' ++ ['=', 'z']))] := by
  have hquotes : needsQuotes (start ++ ' ' :: List.replicate size 'k' ++ ['=', 'z']) = true := by
    simp [needsQuotes]
  have hletters : (List.replicate size 'k').flatMap Json.escapeChar = List.replicate size 'k' := by
    rw [List.flatMap_replicate]
    exact List.flatten_replicate_singleton
  have hother : fieldText "z\"".toList = ['z', '"'] := by decide
  have htext : fieldText value.toList = '"' :: start.flatMap Json.escapeChar := by
    rw [fieldText_of_plain hplain, hvalue]
  -- the letters and the last two characters are not escaped, and the value gets its quotes
  have hlong : fieldText (start ++ ' ' :: List.replicate size 'k' ++ ['=', 'z']) =
      '"' :: start.flatMap Json.escapeChar ++ ' ' :: List.replicate size 'k' ++
        ['=', 'z', '"'] := by
    have hend : ['=', 'z'].flatMap Json.escapeChar = ['=', 'z'] := by decide
    have hspace : Json.escapeChar ' ' = [' '] := by decide
    rw [fieldText_of_quotes hquotes, Json.quoteChars, List.flatMap_append, List.flatMap_append,
      List.flatMap_cons, hletters, hend, hspace]
    simp
  simp only [pairsText, List.flatMap_cons, List.flatMap_nil, String.toList_ofList, htext, hlong,
    hother]
  simp

/-- Every mistakable value can stand in one of two lists of fields that are written alike. -/
theorem exists_pairsText_eq (record : Record) {value : String} (h : Mistakable value.toList) :
    ∃ first second, record.Takes first ∧ record.Takes second ∧
      (∀ entry ∈ first ++ second, entry.2 = value ∨ ¬ Mistakable entry.2.toList) ∧
      pairsText first = pairsText second ∧ ¬ first.Perm second := by
  obtain ⟨size, hfree⟩ := record.exists_free
  have hname := hfree size (Nat.le_refl size)
  obtain ⟨hplain, ⟨quoted, hquotes, heq⟩ | ⟨start, heq⟩⟩ := h
  · -- the quoted text has the same line in the same field
    refine ⟨[(_, value)], [(_, String.ofList quoted)], takes_singleton hname _,
      takes_singleton hname _, ?_, ?_, fun hperm => ?_⟩
    · simp [not_mistakable_of_quotes hquotes]
    · have htext : fieldText value.toList = Json.quoteChars quoted := by
        rw [fieldText_of_plain hplain, heq]
      simp only [pairsText, List.flatMap_cons, String.toList_ofList, htext,
        fieldText_of_quotes hquotes]
    · have hvalue : value = String.ofList quoted :=
        (Prod.mk.inj (List.singleton_inj.1 (List.perm_singleton.1 hperm))).2
      rw [hvalue, String.toList_ofList, hquotes] at hplain
      cases hplain
  · -- the quoted text takes in what is the next field of the other list
    have hnext := hfree (size + 1) (Nat.le_succ size)
    have hne : String.ofList (List.replicate size 'k') ≠
        String.ofList (List.replicate (size + 1) 'k') := by
      intro hsame
      have hlength := congrArg List.length (String.ofList_injective hsame)
      simp at hlength
    refine ⟨[(_, value), (_, "z\"")], [(_, String.ofList _)], takes_pair hname hnext hne _ _,
      takes_singleton hname _, ?_, pairsText_open hplain heq, fun hperm => ?_⟩
    · have hother : ¬ Mistakable "z\"".toList := fun h => by
        obtain ⟨tail, htail⟩ := h.eq_cons
        cases htail
      have hlong : ¬ Mistakable (String.ofList
          (start ++ ' ' :: List.replicate (size + 1) 'k' ++ ['=', 'z'])).toList :=
        not_mistakable_of_quotes (by simp [needsQuotes])
      rw [List.forall_mem_append, List.forall_mem_cons, List.forall_mem_singleton,
        List.forall_mem_singleton]
      exact ⟨⟨.inl rfl, .inr hother⟩, .inr hlong⟩
    · simpa using hperm.length_eq

/-- Fields can be told apart by their line if no value is mistakable. Any mistakable value can stand
in one of two lines that are the same, the fields being different. -/
theorem told_apart (record : Record) :
    (∀ first second, record.Takes first → record.Takes second →
      (∀ entry ∈ first ++ second, ¬ Mistakable entry.2.toList) →
      (record.withTexts first).line .kv = (record.withTexts second).line .kv → first = second) ∧
    ∀ value : String, Mistakable value.toList →
      ∃ first second, record.Takes first ∧ record.Takes second ∧
        (∀ entry ∈ first ++ second, entry.2 = value ∨ ¬ Mistakable entry.2.toList) ∧
        (record.withTexts first).line .kv = (record.withTexts second).line .kv ∧
        ¬ first.Perm second := by
  obtain ⟨start, hline⟩ := record.line_withTexts
  refine ⟨fun first second hfirst hsecond hvalues heq => ?_, fun value hvalue => ?_⟩
  -- the lines begin alike, so only the fields at the end can differ
  · rw [hline first hfirst, hline second hsecond] at heq
    have hpairs := List.append_cancel_left (List.append_cancel_right heq)
    refine pairsText_inj (fun entry hentry => ?_) hvalues hpairs
    rcases List.mem_append.1 hentry with hentry | hentry
    · exact (hfirst.free _ (List.mem_map_of_mem hentry)).equals_not_mem
    · exact (hsecond.free _ (List.mem_map_of_mem hentry)).equals_not_mem
  · obtain ⟨first, second, hfirst, hsecond, hvalues, heq, hperm⟩ := record.exists_pairsText_eq hvalue
    refine ⟨first, second, hfirst, hsecond, hvalues, ?_, hperm⟩
    rw [hline first hfirst, hline second hsecond, heq]

/-- An empty text and a text of two quotes are written alike. -/
example (record : Record) (h : record.Free "k") :
    (record.withTexts [("k", "")]).line .kv = (record.withTexts [("k", "\"\"")]).line .kv := by
  obtain ⟨start, hline⟩ := record.line_withTexts
  rw [hline _ (takes_singleton h _), hline _ (takes_singleton h _)]
  rfl

end Record

end Log

end JuliaSession
