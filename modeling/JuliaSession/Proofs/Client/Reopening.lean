import JuliaSession.Proofs.Client.Bookkeeping

/-!
# Documents that are opened again

A server is not to be told that a document is opened while it is open. A document that changes is
looked up in the client's table first, and a document that is closed as well. A document that is
opened is not, so it is opened again if the host opens it again.

* `Replica.Reopens`: a server is told that a document is opened while it is open.
* `Client.HoldsOpen`: the server was told by the uses of a session that a document is open.
* `Talk.tracks_after`: so it is exactly where the notes say so, and the table knows it.
* `Talk.reopens_iff`: documents are opened again exactly where a use opens one that is held open.
-/

namespace JuliaSession

open Step (Leads)

/-! ### In the notes -/

namespace Replica

variable {notes : List DocumentNote} {note : DocumentNote} {uri : String}

theorem not_openAfter_nil : ¬ OpenAfter [] uri := by
  rintro ⟨earlier, version, text, later, hnil, -⟩
  exact List.append_ne_nil_of_right_ne_nil earlier (List.cons_ne_nil _ later) hnil.symm

/-- After one more note a document is open if the note opens it, or it was open and the note does
not close it. -/
theorem openAfter_concat_iff :
    OpenAfter (notes ++ [note]) uri ↔ (∃ version text, note = .opened uri version text) ∨
      (OpenAfter notes uri ∧ note ≠ .closed uri) := by
  constructor
  · rintro ⟨earlier, version, text, later, hsplit, hclosed⟩
    rcases split_concat hsplit with ⟨-, hnote, -⟩ | ⟨between, rfl, rfl⟩
    · exact .inl ⟨version, text, hnote.symm⟩
    · rw [List.mem_append, List.mem_singleton, not_or] at hclosed
      exact .inr ⟨⟨earlier, version, text, between, rfl, hclosed.1⟩, Ne.symm hclosed.2⟩
  · rintro (⟨version, text, rfl⟩ | ⟨hopen, hnote⟩)
    · exact openAfter_concat_opened notes uri version text
    · exact hopen.concat hnote

/-- One of the notes opens a document that is open by the notes before it. -/
def Reopens (notes : List DocumentNote) (uri : String) : Prop :=
  Once (fun earlier note =>
    (∃ version text, note = .opened uri version text) ∧ OpenAfter earlier uri) notes

/-- What is said last, if anything, opens the document, or leaves it as it was. -/
theorem openAfter_append_iff (said : Option DocumentNote) :
    OpenAfter (notes ++ said.toList) uri ↔
      (∃ version text, said = some (.opened uri version text)) ∨
        (OpenAfter notes uri ∧ said ≠ some (.closed uri)) := by
  cases said with
  | none => simp
  | some note => simp only [Option.toList_some, openAfter_concat_iff, ne_eq, Option.some.injEq]

theorem reopens_append_iff (said : Option DocumentNote) :
    Reopens (notes ++ said.toList) uri ↔ Reopens notes uri ∨
      ((∃ version text, said = some (.opened uri version text)) ∧ OpenAfter notes uri) := by
  cases said with
  | none => simp
  | some note => simp only [Option.toList_some, Reopens, once_concat, Option.some.injEq]

end Replica

/-! ### In the uses -/

namespace Client

/-- In a session that begins with this client, a use that comes after others opens a document: it is
opened, or changed while it is not in the table. A document that the table has from before the
session is there until it is closed. -/
def Announces (client : Client) (uri : String) (earlier : List Use) (use : Use) : Prop :=
  ∃ document : Document, document.uri = uri ∧ client.serves document = true ∧
    (use = .openDocument document ∨ use = .changeDocument document ∧
      (Assoc.has uri client.opened = true → .closeDocument uri ∈ earlier))

/-- In a session that begins with this client, the server was told by the uses so far that a
document is open, and it was not closed since. -/
def HoldsOpen (client : Client) (uri : String) (uses : List Use) : Prop :=
  Since (client.Announces uri) (fun _ use => use = .closeDocument uri) uses

theorem holdsOpen_concat {client : Client} {uri : String} {uses : List Use} {use : Use} :
    client.HoldsOpen uri (uses ++ [use]) ↔ client.Announces uri uses use ∨
      (client.HoldsOpen uri uses ∧ use ≠ .closeDocument uri) :=
  since_concat

/-- In a session that begins with this client, one of the uses opens a document while the server
holds it open. -/
def OpensAgain (client : Client) (uri : String) (uses : List Use) : Prop :=
  Once (fun earlier use => (∃ document : Document, document.uri = uri ∧
    client.serves document = true ∧ use = .openDocument document) ∧
      client.HoldsOpen uri earlier) uses

theorem opensAgain_concat {client : Client} {uri : String} {uses : List Use} {use : Use} :
    client.OpensAgain uri (uses ++ [use]) ↔ client.OpensAgain uri uses ∨
      ((∃ document : Document, document.uri = uri ∧ client.serves document = true ∧
        use = .openDocument document) ∧ client.HoldsOpen uri uses) :=
  once_concat

end Client

namespace Talk

variable {before after : Talk} {said : Option DocumentNote}

/-- What was to be said is written. -/
theorem Told.notes (h : before.Told said after) :
    after.world.notes = before.world.notes ++ said.toList := by
  cases said with
  | none => exact (SameDocuments.notes h).trans (List.append_nil _).symm
  | some note => exact Tells.notes h

theorem Told.connected (h : before.Told said after) :
    after.session.client.connected = before.session.client.connected := by
  cases said with
  | none => exact SameDocuments.connected h
  | some note => exact Tells.connected h

/-- After uses of a session that begins with `talk`, the notes that were written, the client's table
and the uses say the same about which documents are open. -/
structure Tracks (talk : Talk) (uses : List Use) (written : List DocumentNote) : Prop where
  /-- The client is still connected. -/
  connected : (talk.after uses).session.client.connected = true
  /-- The options are the same. -/
  options : (talk.after uses).session.client.options = talk.session.client.options
  /-- This was written. -/
  notes : (talk.after uses).world.notes = talk.world.notes ++ written
  /-- A document is open by the notes if the server was told so by the uses. -/
  opened : ∀ uri, Replica.OpenAfter written uri ↔ talk.session.client.HoldsOpen uri uses
  /-- The table has these documents, and those that it had before and that were not closed. -/
  table : ∀ uri, Assoc.has uri (talk.after uses).session.client.opened = true ↔
    talk.session.client.HoldsOpen uri uses ∨
      (Assoc.has uri talk.session.client.opened = true ∧ .closeDocument uri ∉ uses)
  /-- A document is opened again by the notes if it is by the uses. -/
  reopened : ∀ uri, Replica.Reopens written uri ↔ talk.session.client.OpensAgain uri uses

theorem Tracks.nil {talk : Talk} (hconnected : talk.session.client.connected = true) :
    talk.Tracks [] [] where
  connected := hconnected
  options := rfl
  notes := (List.append_nil _).symm
  opened _ := iff_of_false Replica.not_openAfter_nil not_since_nil
  table uri := by
    have hnone : ¬ talk.session.client.HoldsOpen uri [] := not_since_nil
    rw [or_iff_right hnone]
    exact (and_iff_left List.not_mem_nil).symm
  reopened _ := iff_of_false not_once_nil not_once_nil

/-- What a use opens by the client's table is what it opens by the uses before it, apart from
documents that are held open anyway. -/
theorem Tracks.opens_iff {talk : Talk} {uses : List Use} {written : List DocumentNote}
    (h : talk.Tracks uses written) (uri : String) (use : Use) :
    use.Opens (talk.after uses).session.client uri ∨
        (talk.session.client.HoldsOpen uri uses ∧ use ≠ .closeDocument uri) ↔
      talk.session.client.HoldsOpen uri (uses ++ [use]) := by
  -- the table does not know a document if it was neither opened since nor kept from before
  have hunknown : Assoc.has uri (talk.after uses).session.client.opened = false ↔
      ¬ talk.session.client.HoldsOpen uri uses ∧
        (Assoc.has uri talk.session.client.opened = true → .closeDocument uri ∈ uses) := by
    rw [← Bool.not_eq_true, h.table]
    tauto
  rw [Client.holdsOpen_concat, Client.Announces, Use.Opens, hunknown]
  simp only [Client.serves_congr h.options]
  constructor
  · rintro (⟨document, huri, hserves, hopens | ⟨hchanges, -, hclosed⟩⟩ | hkept)
    · exact .inl ⟨document, huri, hserves, .inl hopens⟩
    · exact .inl ⟨document, huri, hserves, .inr ⟨hchanges, hclosed⟩⟩
    · exact .inr hkept
  · rintro (⟨document, huri, hserves, hopens | ⟨hchanges, hclosed⟩⟩ | hkept)
    · exact .inl ⟨document, huri, hserves, .inl hopens⟩
    · -- a change of a document that is held open is no opening, but leaves it open
      by_cases hheld : talk.session.client.HoldsOpen uri uses
      · refine .inr ⟨hheld, ?_⟩
        rw [hchanges]
        rintro ⟨⟩
      · exact .inl ⟨document, huri, hserves, .inr ⟨hchanges, hheld, hclosed⟩⟩
    · exact .inr hkept

/-- A document that is held open is in the table, so a change does not open it. -/
theorem Tracks.opens_held_iff {talk : Talk} {uses : List Use} {written : List DocumentNote}
    (h : talk.Tracks uses written) {uri : String} (use : Use)
    (hheld : talk.session.client.HoldsOpen uri uses) :
    use.Opens (talk.after uses).session.client uri ↔
      ∃ document : Document, document.uri = uri ∧ talk.session.client.serves document = true ∧
        use = .openDocument document := by
  have hhas : Assoc.has uri (talk.after uses).session.client.opened = true :=
    (h.table uri).2 (.inl hheld)
  simp only [Use.Opens, Client.serves_congr h.options, hhas, Bool.true_eq_false, and_false,
    or_false]

/-- One more use keeps notes, table and uses in step. -/
theorem Tracks.concat {talk : Talk} {uses : List Use} {written : List DocumentNote}
    (h : talk.Tracks uses written) {use : Use} (hsession : use.InSession) :
    ∃ said : Option DocumentNote, talk.Tracks (uses ++ [use]) (written ++ said.toList) := by
  have hup : use ≠ .start := by
    rintro rfl
    exact hsession
  have hdown : use ≠ .stop := by
    rintro rfl
    exact hsession
  have htold := told_use h.connected hsession
  have hattends := attends_use hup hdown (talk.after uses)
  rw [← after_concat] at htold hattends
  -- a document that the server has open is in the table, so it is closed where the host closes it
  have hclosed (uri : String) (hopen : Replica.OpenAfter written uri) :
      use.said? (talk.after uses).session.client ≠ some (.closed uri) ↔
        use ≠ .closeDocument uri := by
    have hhas := (h.table uri).2 (.inl ((h.opened uri).1 hopen))
    rw [ne_eq, Use.said?_closed_iff, and_iff_left hhas]
  refine ⟨use.said? (talk.after uses).session.client, ?_⟩
  refine ⟨htold.connected.trans h.connected, hattends.options.trans h.options, ?_, fun uri => ?_,
    fun uri => ?_, fun uri => ?_⟩
  · rw [htold.notes, h.notes, List.append_assoc]
  · rw [Replica.openAfter_append_iff, Use.said?_opened_iff, ← h.opens_iff, ← h.opened]
    exact or_congr_right (and_congr_right (hclosed uri))
  · have hmem : .closeDocument uri ∉ uses ++ [use] ↔
        .closeDocument uri ∉ uses ∧ use ≠ .closeDocument uri := by
      rw [List.mem_append, List.mem_singleton, not_or, ne_comm]
    rw [hattends.opened, Use.has_table_iff, ← h.opens_iff, h.table, hmem]
    tauto
  · rw [Replica.reopens_append_iff, Use.said?_opened_iff, h.reopened, h.opened,
      Client.opensAgain_concat]
    exact or_congr_right (and_congr_left (h.opens_held_iff use))

theorem tracks_after {talk : Talk} (hconnected : talk.session.client.connected = true)
    {uses : List Use} (hsession : ∀ use ∈ uses, use.InSession) :
    ∃ written, talk.Tracks uses written := by
  -- from the last use back: it meets the table that all uses before it have left
  induction uses using List.reverseRecOn with
  | nil => exact ⟨[], .nil hconnected⟩
  | append_singleton uses use ih =>
    obtain ⟨written, htracks⟩ :=
      ih fun other hother => hsession other (List.mem_append_left _ hother)
    obtain ⟨said, hnext⟩ := htracks.concat (hsession use (by simp))
    exact ⟨_, hnext⟩

/-- In a session that has started, whatever documents the table has from before, the server is told
of the opening of a document that is open exactly if the host opens one that is held open. -/
theorem reopens_iff {talk started : Talk}
    (hlaunch : ∀ server, Leads World.SameNotes (talk.session.launch server))
    (hidle : talk.session.running = false)
    (hstart : Dialog.start.perform talk = (.ok (), started)) {uses : List Use}
    (hsession : ∀ use ∈ uses, use.InSession) :
    ∃ written, (started.after uses).world.notes = talk.world.notes ++ written ∧
      ∀ uri, Replica.Reopens written uri ↔ started.session.client.OpensAgain uri uses := by
  obtain ⟨written, htracks⟩ :=
    tracks_after (Dialog.connected_of_start_ok hidle hstart) hsession
  obtain ⟨hnotes, -⟩ := documents_of_start_ok hlaunch hidle hstart
  exact ⟨written, by rw [htracks.notes, hnotes], htracks.reopened⟩

/-- A document is opened twice in a row, and the server is told so twice. -/
theorem reopens_opened_twice :
    ∃ started written,
      let document : Document := ⟨"a.jl", "julia", 1, "x"⟩
      Dialog.start.perform rehearsed = (.ok (), started) ∧
        (started.after [.openDocument document, .openDocument document]).world.notes = written ∧
        Replica.Reopens written "a.jl" := by
  have hserves : (Dialog.start.perform rehearsed).2.session.client.serves
      ⟨"a.jl", "julia", 1, "x"⟩ = true := by
    decide +kernel
  have hwell : (Dialog.start.perform rehearsed).1.isOk = true := by decide +kernel
  obtain ⟨_, started, hstart⟩ := Step.exists_run_of_isOk hwell
  rw [hstart] at hserves
  have hheld : started.session.client.HoldsOpen "a.jl"
      ([] ++ [.openDocument ⟨"a.jl", "julia", 1, "x"⟩]) :=
    .now ⟨_, rfl, hserves, .inl rfl⟩
  have hsession : ∀ use ∈ [Use.openDocument ⟨"a.jl", "julia", 1, "x"⟩,
      .openDocument ⟨"a.jl", "julia", 1, "x"⟩], use.InSession := by
    simp [Use.InSession]
  obtain ⟨written, hnotes, hreopens⟩ := reopens_iff
    (sameNotes_pretend (.ok { engine := .rehearsed [] })) rfl hstart hsession
  -- the second opening comes while the first one holds the document open
  refine ⟨started, written, hstart, hnotes, (hreopens "a.jl").2 ?_⟩
  exact ⟨_, _, [], rfl, ⟨_, rfl, hserves, rfl⟩, hheld⟩

end Talk

end JuliaSession
