import JuliaSession.Log.Record
import JuliaSession.Proofs.Json.OneLine

/-!
# The lines of log records

A record is meant to be one line. Fields are quoted where they need it, and so is the message in a
`key=value` line, but some standard members are written as they stand: a text with a line feed among
these breaks the line in two, and what follows may look like a record of its own.

* `OneLine`: a text whose only line feed stands at its end.
* `Log.newline_not_mem_fieldPairs`: fields stay on one line if their names do.
* `Log.Format.bare`: the standard members that a format writes as they stand.
* `Log.Record.line_eq`: the line of a record has no line feeds but theirs and the last.
* `Log.Record.one_line_iff`: exactly when a record is one line.
-/

namespace JuliaSession

/-- The only line feed of a text stands at its end. -/
def OneLine (cs : List Char) : Prop := cs.count '\n' = 1 ∧ cs.getLast? = some '\n'

instance (cs : List Char) : Decidable (OneLine cs) := inferInstanceAs (Decidable (_ ∧ _))

theorem oneLine_concat_iff {cs : List Char} : OneLine (cs ++ ['\n']) ↔ '\n' ∉ cs := by
  simp [OneLine, List.count_append, List.count_eq_zero]

/-- What is joined has a character that does not separate if one of the pieces has it. -/
theorem Text.mem_joinWith_iff {c : Char} {sep : List Char} (h : c ∉ sep)
    {pieces : List (List Char)} : c ∈ joinWith sep pieces ↔ ∃ piece ∈ pieces, c ∈ piece := by
  cases pieces with
  | nil => simp [joinWith]
  | cons piece pieces =>
    rw [joinWith_cons]
    simp [h]

/-- Pieces that are empty may be left out. -/
theorem Text.mem_joinWith_nonempty_iff {c : Char} {sep : List Char} (h : c ∉ sep)
    {pieces : List (List Char)} :
    c ∈ joinWith sep (pieces.filter fun piece => !piece.isEmpty) ↔ ∃ piece ∈ pieces, c ∈ piece := by
  rw [mem_joinWith_iff h]
  refine exists_congr fun piece => ?_
  rw [List.mem_filter, and_assoc]
  refine and_congr_right fun _ => and_iff_right_of_imp fun hc => ?_
  rw [List.isEmpty_eq_false_iff_exists_mem.2 ⟨c, hc⟩]
  rfl

theorem Clock.newline_not_mem_padded (width n : Nat) : '\n' ∉ (padded width n).toList := by
  unfold padded
  rw [String.toList_append, String.toList_ofList, List.mem_append, not_or]
  exact ⟨newline_not_mem_replicate (by decide) _, newline_not_mem_toString n⟩

theorem Clock.newline_not_mem_stamp (moment : Millis) : '\n' ∉ (stamp moment).toList := by
  unfold stamp dateTime
  simp [newline_not_mem_padded]

namespace Log

/-! ### Fields -/

/-- A text that needs no quotes has no blank characters. -/
theorem isBlank_eq_false {cs : List Char} (h : needsQuotes cs = false) {c : Char} (hc : c ∈ cs) :
    Text.isBlank c = false := by
  unfold needsQuotes at h
  rw [Bool.or_eq_false_iff, List.any_eq_false] at h
  have hneither := h.2 c hc
  rw [Bool.or_eq_true, not_or] at hneither
  exact Bool.eq_false_iff.2 hneither.2

theorem newline_not_mem_fieldText (cs : List Char) : '\n' ∉ fieldText cs := by
  unfold fieldText
  cases h : needsQuotes cs with
  | true => exact Json.newline_not_mem_quoteChars cs
  | false => exact fun hmem => absurd (isBlank_eq_false h hmem) (by decide)

theorem newline_not_mem_fieldValue (value : Json) : '\n' ∉ fieldValue value := by
  cases value with
  | bool b => cases b <;> decide
  | arr items => exact Json.newline_not_mem_write Json.oneLine_compact 0 (.arr items)
  | obj members => exact Json.newline_not_mem_write Json.oneLine_compact 0 (.obj members)
  | int i => exact newline_not_mem_toString_int i
  | float x => exact x.newline_not_mem_text _ (by decide) (by decide)
  | null | str => exact newline_not_mem_fieldText _

variable {members : Json.Members}

/-- Fields stay on one line if their names do, whatever their values are. -/
theorem newline_not_mem_fieldPairs
    (hnames : ∀ name ∈ Assoc.keys members, '\n' ∉ name.toList) : '\n' ∉ fieldPairs members := by
  unfold fieldPairs
  rw [Text.mem_joinWith_iff (by decide)]
  rintro ⟨pair, hpair, hmem⟩
  obtain ⟨⟨name, value⟩, hentry, rfl⟩ := List.mem_map.1 hpair
  have hname : '\n' ∉ name.toList :=
    hnames name (List.mem_map_of_mem (f := Prod.fst) (List.mem_filter.1 hentry).1)
  rcases List.mem_append.1 hmem with hmem | hmem
  · exact hname hmem
  · rcases List.mem_cons.1 hmem with heq | hmem
    · cases heq
    · exact newline_not_mem_fieldValue value hmem

/-! ### Lines -/

/-- The standard members that a format writes as they stand. -/
def Format.bare : Format → List String
  | json => []
  | kv => ["time", "delta_ms", "level"]
  | pretty => ["time", "delta_ms", "msg"]

/-- Only texts that stand for themselves can have line feeds as standard members. -/
theorem newline_mem_memberText {name : String} (h : '\n' ∈ memberText name members) :
    (Json.member name members).isTruthy = true := by
  unfold memberText at h
  cases hvalue : Json.member name members with
  | str s =>
    rw [hvalue] at h
    refine bne_iff_ne.2 ?_
    rintro rfl
    cases h
  | null | bool | int | float | arr | obj =>
    rw [hvalue] at h
    exact absurd h (Json.newline_not_mem_plainText nofun)

namespace Record

variable {record : Record}

/-- The names of the tags and fields of a record. -/
def names (record : Record) : List String := Assoc.keys record.tags ++ Assoc.keys record.extra

theorem mem_names_of_mem_fields {name : String} (h : name ∈ Assoc.keys record.fields) :
    name ∈ record.names := by
  unfold fields Assoc.keys at h
  rw [List.map_map] at h
  obtain ⟨entry, hentry, rfl⟩ := List.mem_map.1 h
  have hkey : entry.1 ∈ Assoc.keys (Assoc.insertAll record.tags record.extra) :=
    List.mem_map_of_mem (f := Prod.fst) (List.mem_filter.1 hentry).1
  exact List.mem_append.2 (Assoc.mem_keys_insertAll_iff.1 hkey)

/-- The names of the members are standard, or those of tags and fields. -/
theorem mem_keys_members {name : String} (h : name ∈ Assoc.keys record.members) :
    name ∈ standardNames ∨ name ∈ record.names :=
  (Assoc.mem_keys_insertAll_iff.1 h).imp_right mem_names_of_mem_fields

/-- If the names of tags and fields have no line feed, the line of a record has only those of its
bare standard members, and one at its end. -/
theorem line_eq (hnames : ∀ name ∈ record.names, '\n' ∉ name.toList) (format : Format) :
    ∃ body, record.line format = body ++ ['\n'] ∧
      ('\n' ∈ body ↔ ∃ name ∈ format.bare, '\n' ∈ memberText name record.members) := by
  have hstandard : ∀ name ∈ standardNames, '\n' ∉ name.toList := by decide
  have hpairs : '\n' ∉ fieldPairs record.members := newline_not_mem_fieldPairs fun name hname =>
    (mem_keys_members hname).elim (hstandard name) (hnames name)
  cases format with
  | json =>
    refine ⟨_, rfl, iff_of_false ?_ nofun⟩
    exact Json.newline_not_mem_write Json.oneLine_compact 0 (.obj record.members)
  | kv =>
    refine ⟨_, rfl, ?_⟩
    have hmessage := newline_not_mem_fieldValue (Json.member "msg" record.members)
    rw [Text.mem_joinWith_nonempty_iff (by decide)]
    simp [Format.bare, hmessage, hpairs]
  | pretty =>
    generalize hshown : (let message := Json.member "msg" record.members
      if message.isTruthy then message.plainText.toList else []) = shown
    generalize hfields : (if (fieldPairs record.members).isEmpty then []
      else ' ' :: '(' :: fieldPairs record.members ++ [')']) = fields
    -- only a text that is not empty can have a line feed, and such a message is shown
    have hmessage : '\n' ∈ shown ↔ '\n' ∈ memberText "msg" record.members := by
      rw [← hshown]
      dsimp only
      split_ifs with htruthy
      · exact Iff.rfl
      · exact iff_of_false List.not_mem_nil fun hmem => htruthy (newline_mem_memberText hmem)
    have hnone : '\n' ∉ fields := by
      rw [← hfields]
      split_ifs <;> simp [hpairs]
    have hlevel : '\n' ∉ record.level.name.toList := by
      cases record.level <;> decide
    refine ⟨memberText "time" record.members ++ ' ' :: record.level.name.toList ++ ' ' :: shown ++
      fields ++ ' ' :: '+' :: memberText "delta_ms" record.members ++ ['m', 's'], ?_, ?_⟩
    · rw [line, ← hshown, ← hfields]
      simp
    · simp [Format.bare, hlevel, hmessage, hnone, or_comm]

/-- If no tag and no field has its name, a standard member is as the record has it. -/
theorem memberText_eq {name : String} (h : name ∉ record.names) :
    memberText name record.members = memberText name
      [("time", .str (Clock.stamp record.moment)), ("delta_ms", .int record.delta),
        ("level", .str record.level.tag), ("msg", record.message.toJson)] := by
  have hfields : name ∉ Assoc.keys record.fields := fun hmem => h (mem_names_of_mem_fields hmem)
  unfold memberText Json.member members
  rw [Assoc.get?_insertAll_of_not_mem hfields]

/-- If tags and fields leave them alone, only the message has line feeds among the standard members
that are written as they stand. -/
theorem newline_not_mem_bare_iff (h : ∀ name ∈ standardNames, name ∉ record.names)
    {format : Format} : (∀ name ∈ format.bare, '\n' ∉ memberText name record.members) ↔
      (format = .pretty → '\n' ∉ record.message.toJson.plainText.toList) := by
  have htime : '\n' ∉ memberText "time" record.members := by
    rw [memberText_eq (h "time" (by decide))]
    exact Clock.newline_not_mem_stamp record.moment
  have hdelta : '\n' ∉ memberText "delta_ms" record.members := by
    rw [memberText_eq (h "delta_ms" (by decide))]
    have hnumber : ∀ s, Json.int record.delta ≠ .str s := nofun
    exact Json.newline_not_mem_plainText hnumber
  have hlevel : '\n' ∉ memberText "level" record.members := by
    rw [memberText_eq (h "level" (by decide))]
    change '\n' ∉ record.level.tag.toList
    cases record.level <;> decide
  have hmessage : memberText "msg" record.members = record.message.toJson.plainText.toList :=
    memberText_eq (h "msg" (by decide))
  cases format <;> simp [Format.bare, htime, hdelta, hlevel, hmessage]

/-- A record whose tags and fields have names without line feeds is one line exactly if none of the
standard members that its format writes as they stand has a line feed. If tags and fields leave the
standard members alone, only the pretty line of a message with line feeds is not one line. -/
theorem one_line_iff (hnames : ∀ name ∈ record.names, '\n' ∉ name.toList) (format : Format) :
    (OneLine (record.line format) ↔
        ∀ name ∈ format.bare, '\n' ∉ memberText name record.members) ∧
      ((∀ name ∈ standardNames, name ∉ record.names) →
        (OneLine (record.line format) ↔
          (format = .pretty → '\n' ∉ record.message.toJson.plainText.toList))) := by
  obtain ⟨body, hline, hbody⟩ := line_eq hnames format
  have hiff : OneLine (record.line format) ↔
      ∀ name ∈ format.bare, '\n' ∉ memberText name record.members := by
    rw [hline, oneLine_concat_iff, hbody]
    simp only [not_exists, not_and]
  exact ⟨hiff, fun hstandard => hiff.trans (newline_not_mem_bare_iff hstandard)⟩

/-- A message of two lines, as a server may send it, is one line in the other two formats, and in
the pretty one is followed by what looks like a record of its own. -/
theorem forged_lines :
    ∃ record : Record, (∀ name ∈ record.names, '\n' ∉ name.toList) ∧
      (∀ name ∈ standardNames, name ∉ record.names) ∧
      '\n' ∈ record.message.toJson.plainText.toList ∧ ¬ OneLine (record.line .pretty) ∧
      OneLine (record.line .kv) ∧ OneLine (record.line .json) := by
  let record : Record :=
    { moment := 1700000000000, delta := 0, level := .info, tags := [("service", text "julia")],
      message := text "done\n2023-11-14T22:13:21+00:00 ERROR forged +1000ms", extra := [] }
  have hnames : ∀ name ∈ record.names, '\n' ∉ name.toList := by decide
  have hstandard : ∀ name ∈ standardNames, name ∉ record.names := by decide
  have hmessage : '\n' ∈ record.message.toJson.plainText.toList := by decide
  refine ⟨record, hnames, hstandard, hmessage, fun hone => ?_, ?_, ?_⟩
  · exact ((one_line_iff hnames .pretty).2 hstandard).1 hone rfl hmessage
  · exact ((one_line_iff hnames .kv).2 hstandard).2 nofun
  · exact ((one_line_iff hnames .json).2 hstandard).2 nofun

end Record

end Log

end JuliaSession
