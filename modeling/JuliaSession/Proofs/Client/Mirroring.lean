import JuliaSession.Proofs.Client.Documents

/-!
# The server's copies of the documents

In a session every use either leaves the documents alone, or it writes one note about a document and
enters it in the client's table; the table decides which (`Use.said?`, `Talk.told_use`). So a server
that applies the notes can follow all of them, and its copies are those of the table, with the texts
that were passed last (`documents_mirrored`).
-/

namespace JuliaSession

open Step (Leads)

/-! ### What a use says about documents -/

namespace Use

/-- A use within a session: the server is neither started nor stopped, and the host leaves the
notes about documents to the client. -/
def InSession : Use → Prop
  | .start | .stop => False
  | .notify method _ => method ∉ DocumentNote.methods
  | _ => True

/-- What a use says about a document, if it says something. A document that changes before it was
opened is opened. -/
inductive Says : Use → DocumentNote → Prop where
  /-- A document is opened. -/
  | opens (document : Document) :
    Says (.openDocument document) (.opened document.uri document.version document.text)
  /-- A document changes that is not open yet. -/
  | opensChanged (document : Document) :
    Says (.changeDocument document) (.opened document.uri document.version document.text)
  /-- A document changes. -/
  | changes (document : Document) :
    Says (.changeDocument document) (.changed document.uri document.version document.text)
  /-- A document is closed. -/
  | closes (uri : String) : Says (.closeDocument uri) (.closed uri)

/-- What a use says about a document, by the client's table of open documents. -/
def said? (client : Client) : Use → Option DocumentNote
  | .openDocument document =>
    if client.serves document then
      some (.opened document.uri document.version document.text)
    else none
  | .changeDocument document =>
    if Assoc.has document.uri client.opened then
      some (.changed document.uri document.version document.text)
    else if client.serves document then
      some (.opened document.uri document.version document.text)
    else none
  | .closeDocument uri => if Assoc.has uri client.opened then some (.closed uri) else none
  | _ => none

/-- Something is said about a document in one of four ways. -/
theorem said?_cases {client : Client} {use : Use} {note : DocumentNote}
    (h : use.said? client = some note) :
    (∃ document, use = .openDocument document ∧ client.serves document = true ∧
        note = .opened document.uri document.version document.text) ∨
      (∃ document, use = .changeDocument document ∧
        Assoc.has document.uri client.opened = true ∧
        note = .changed document.uri document.version document.text) ∨
      (∃ document, use = .changeDocument document ∧
        Assoc.has document.uri client.opened = false ∧ client.serves document = true ∧
        note = .opened document.uri document.version document.text) ∨
      ∃ uri, use = .closeDocument uri ∧ Assoc.has uri client.opened = true ∧
        note = .closed uri := by
  -- a changed document that is not open yet is opened, so this use has two of the four ways
  cases use with
  | openDocument document =>
    rw [said?] at h
    split_ifs at h with hserves
    exact .inl ⟨document, rfl, hserves, (Option.some.inj h).symm⟩
  | changeDocument document =>
    rw [said?] at h
    split_ifs at h with hopen hserves
    · exact .inr (.inl ⟨document, rfl, hopen, (Option.some.inj h).symm⟩)
    · exact .inr (.inr (.inl ⟨document, rfl, Bool.eq_false_iff.2 hopen, hserves,
        (Option.some.inj h).symm⟩))
  | closeDocument uri =>
    rw [said?] at h
    split_ifs at h with hopen
    exact .inr (.inr (.inr ⟨uri, rfl, hopen, (Option.some.inj h).symm⟩))
  | _ => cases h

/-- What is said by the table is something that the use says. -/
theorem says_of_said? {client : Client} {use : Use} {note : DocumentNote}
    (h : use.said? client = some note) : use.Says note := by
  rcases said?_cases h with ⟨document, rfl, -, rfl⟩ | ⟨document, rfl, -, rfl⟩ |
    ⟨document, rfl, -, -, rfl⟩ | ⟨uri, rfl, -, rfl⟩
  · exact .opens document
  · exact .changes document
  · exact .opensChanged document
  · exact .closes uri

/-- A use passes on a document. -/
def Passes (use : Use) (document : Document) : Prop :=
  use = .openDocument document ∨ use = .changeDocument document

/-- The copy of a document that something is said about is the one that the use passes on. -/
theorem Says.passes {use : Use} {note : DocumentNote} (h : use.Says note) {replica next : Replica}
    (hfollow : replica.follow note = some next) {uri : String} (habout : note.uri? = some uri)
    {version : Int} {text : String} (hcopy : Assoc.get? uri next = some (version, text)) :
    ∃ document : Document, document.uri = uri ∧ document.version = version ∧
      document.text = text ∧ use.Passes document := by
  have hpassed (document : Document) (hpasses : use.Passes document)
      (huri : some document.uri = some uri)
      (hnext : some (Assoc.insert document.uri (document.version, document.text) replica) =
        some next) :
      ∃ document : Document, document.uri = uri ∧ document.version = version ∧
        document.text = text ∧ use.Passes document := by
    cases huri
    cases hnext
    rw [Assoc.get?_insert_self, Option.some.injEq, Prod.mk.injEq] at hcopy
    exact ⟨document, rfl, hcopy.1, hcopy.2, hpasses⟩
  -- an opening and a change leave a copy of what they pass on; a closing leaves none
  cases h with
  | opens document => exact hpassed document (.inl rfl) habout hfollow
  | opensChanged document => exact hpassed document (.inr rfl) habout hfollow
  | changes document =>
    rw [Replica.follow] at hfollow
    split_ifs at hfollow
    exact hpassed document (.inr rfl) habout hfollow
  | closes other =>
    rw [Replica.follow] at hfollow
    split_ifs at hfollow
    cases habout
    cases hfollow
    rw [Assoc.get?_erase_self] at hcopy
    cases hcopy

end Use

namespace Client

/-- A client was asked to tell the server about a document, and has something to say or not: what it
says is written, and entered in the table. -/
inductive Says (client : Client) : Option DocumentNote → Client × List Json → Prop where
  /-- There is nothing to say. -/
  | nothing : Says client none (client, [])
  /-- A note is written that the table allows. -/
  | note {note : DocumentNote} {message : Json} (hallowed : note.Allowed client.opened)
    (hmessage : DocumentNote.of message = some note) :
    Says client (some note)
      ({ client with opened := note.record client.opened }, client.posted message)

variable (client : Client)

theorem says_openDocument (document : Document) :
    client.Says ((Use.openDocument document).said? client) (client.openDocument document) := by
  rw [Use.said?, openDocument]
  by_cases hserves : client.serves document = true
  · have hallowed : (DocumentNote.opened document.uri document.version document.text).Allowed
        client.opened := trivial
    rw [if_pos hserves, if_pos hserves]
    exact .note hallowed rfl
  · rw [if_neg hserves, if_neg hserves]
    exact .nothing

theorem says_changeDocument (document : Document) :
    client.Says ((Use.changeDocument document).said? client) (client.changeDocument document) := by
  rw [Use.said?, changeDocument]
  by_cases hopen : Assoc.has document.uri client.opened = true
  · have hallowed : (DocumentNote.changed document.uri document.version document.text).Allowed
        client.opened := hopen
    rw [if_pos hopen, if_pos hopen]
    exact .note hallowed rfl
  · rw [if_neg hopen, if_neg hopen]
    exact client.says_openDocument document

theorem says_closeDocument (uri : String) :
    client.Says ((Use.closeDocument uri).said? client) (client.closeDocument uri) := by
  rw [Use.said?, closeDocument]
  by_cases hopen : Assoc.has uri client.opened = true
  · have hallowed : (DocumentNote.closed uri).Allowed client.opened := hopen
    rw [if_pos hopen, if_pos hopen]
    exact .note hallowed rfl
  · rw [if_neg hopen, if_neg hopen]
    exact .nothing

end Client

namespace Talk

/-- A note about a document is written that the client's table allows, and entered there. -/
structure Tells (before : Talk) (note : DocumentNote) (after : Talk) : Prop where
  /-- The table allows the note. -/
  allowed : note.Allowed before.session.client.opened
  /-- The note is written. -/
  notes : after.world.notes = before.world.notes ++ [note]
  /-- The client is connected as before. -/
  connected : after.session.client.connected = before.session.client.connected
  /-- The note is in the table. -/
  opened : after.session.client.opened = note.record before.session.client.opened

theorem Tells.perform {before after : Talk} {note : DocumentNote} {α : Type} {step : Dialog α}
    (h : before.Tells note after) (hstep : Leads SameDocuments step) :
    before.Tells note (step.perform after).2 where
  allowed := h.allowed
  notes := (hstep after).notes.trans h.notes
  connected := (hstep after).connected.trans h.connected
  opened := (hstep after).opened.trans h.opened

/-- What was to be said about a document happened: a note was written, or nothing. -/
def Told (before : Talk) (said : Option DocumentNote) (after : Talk) : Prop :=
  match said with
  | none => before.SameDocuments after
  | some note => before.Tells note after

/-- What the client says about a document is written if it is connected. -/
theorem told_update {change : Client → Client × List Json} {said : Option DocumentNote}
    (talk : Talk) (hconnected : talk.session.client.connected = true)
    (h : talk.session.client.Says said (change talk.session.client)) :
    talk.Told said ((Dialog.update change).perform talk).2 := by
  unfold Dialog.update
  rw [Step.perform_bind_ok (Dialog.perform_client talk)]
  generalize change talk.session.client = result at h
  cases h with
  | nothing =>
    dsimp only
    rw [Step.perform_bind_ok (Dialog.perform_modifyClient _ talk)]
    refine SameDocuments.perform ⟨rfl, rfl, rfl⟩ ?_
    exact .bind (.pure _) fun _ => Dialog.respects_sameDocuments.reads.exchange
  | @note note message hallowed hmessage =>
    -- the note is in the table before it is written, and nothing that comes back takes it out
    rw [Client.posted, if_pos hconnected]
    dsimp only
    rw [Step.perform_bind_ok (Dialog.perform_modifyClient _ talk)]
    obtain ⟨hnotes, hsame, hopened⟩ := Dialog.tells_send hmessage { talk with
      session := { talk.session with
        client := { talk.session.client with opened := note.record talk.session.client.opened } } }
    refine Step.holds_bind ⟨hallowed, hnotes, hsame, hopened⟩ fun _ between htold => ?_
    exact htold.perform Dialog.respects_sameDocuments.reads.exchange

/-- Within a session every use says what it has to say by the client's table, and nothing else. -/
theorem told_use {talk : Talk} (hconnected : talk.session.client.connected = true) {use : Use}
    (hsession : use.InSession) :
    talk.Told (use.said? talk.session.client) (use.dialog.perform talk).2 := by
  have halone (h : Leads SameDocuments use.dialog) :
      talk.SameDocuments (use.dialog.perform talk).2 := h talk
  -- the uses for documents say what the table allows, and everything else is silent about documents
  cases use with
  | start => exact absurd hsession id
  | stop => exact absurd hsession id
  | openDocument document => exact told_update talk hconnected (Client.says_openDocument _ document)
  | changeDocument document =>
    exact told_update talk hconnected (Client.says_changeDocument _ document)
  | closeDocument uri => exact told_update talk hconnected (Client.says_closeDocument _ uri)
  | awaitReady => exact halone Dialog.leads_awaitReady
  | waitClosed => exact halone (.bind Dialog.sameDocuments_waitClosed fun _ => .pure _)
  | request method params =>
    exact halone (.bind (Dialog.sameDocuments_request _ _ _) fun _ => .pure _)
  | complete uri line character token =>
    exact halone (.bind (Dialog.sameDocuments_complete _ _ _ _) fun _ => .pure _)
  | pickUp id => exact halone (.bind (Dialog.sameDocuments_outcome id) fun _ => .pure _)
  | cancel id => exact halone (Dialog.respects_sameDocuments.settle id _)
  | notify method params => exact halone (Dialog.sameDocuments_notify hsession params)
  | forwardFile path kind =>
    exact halone (.bind (Dialog.sameDocuments_forwardFile path kind) fun _ => .pure _)
  | subscribe method handler =>
    exact halone (Dialog.sameDocuments_modifyClient fun _ => ⟨rfl, rfl⟩)
  | unsubscribe method handler => exact halone (Dialog.sameDocuments_unsubscribe method handler)
  | deliver message => exact halone (Dialog.respects_sameDocuments.handles.deliver message)
  | serverWrites bytes => exact halone (Dialog.respects_sameDocuments.reads.serverWrites bytes)
  | serverReports bytes => exact halone (Dialog.respects_sameDocuments.reads.serverReports bytes)
  | serverExits code => exact halone (Dialog.respects_sameDocuments.reads.serverExits code)

/-- Within a session every use leaves the documents alone, or it says one thing about one of
them. -/
theorem tells_use {talk : Talk} (hconnected : talk.session.client.connected = true) {use : Use}
    (hsession : use.InSession) :
    talk.SameDocuments (use.dialog.perform talk).2 ∨
      ∃ note, use.Says note ∧ talk.Tells note (use.dialog.perform talk).2 := by
  have htold := told_use hconnected hsession
  cases hsaid : use.said? talk.session.client with
  | none =>
    rw [hsaid] at htold
    exact .inl htold
  | some note =>
    rw [hsaid] at htold
    exact .inr ⟨note, Use.says_of_said? hsaid, htold⟩

/-! ### The server's copies -/

/-- The last use that said something about a document passed this document on: it wrote a note about
it, and what was written since is about other documents. -/
def LastPassed (talk : Talk) (uses : List Use) (document : Document) : Prop :=
  ∃ earlier use later note rest, uses = earlier ++ use :: later ∧ use.Passes document ∧
    note.uri? = some document.uri ∧
    (talk.after (earlier ++ [use])).world.notes = (talk.after earlier).world.notes ++ [note] ∧
    (talk.after uses).world.notes = (talk.after (earlier ++ [use])).world.notes ++ rest ∧
    ∀ other ∈ rest, other.uri? ≠ some document.uri

/-- It stays the last use as long as nothing is said about the document. -/
theorem LastPassed.concat {talk : Talk} {uses : List Use} {document : Document}
    (h : talk.LastPassed uses document) {use : Use} {more : List DocumentNote}
    (hnotes : (talk.after (uses ++ [use])).world.notes = (talk.after uses).world.notes ++ more)
    (hmore : ∀ other ∈ more, other.uri? ≠ some document.uri) :
    talk.LastPassed (uses ++ [use]) document := by
  obtain ⟨earlier, passing, later, note, rest, hsplit, hpasses, huri, hnote, hrest, hothers⟩ := h
  refine ⟨earlier, passing, later ++ [use], note, rest ++ more, ?_, hpasses, huri, hnote, ?_, ?_⟩
  · rw [hsplit, List.append_assoc, List.cons_append]
  · rw [hnotes, hrest, List.append_assoc]
  · intro other hother
    rcases List.mem_append.1 hother with hother | hother
    · exact hothers other hother
    · exact hmore other hother

theorem lastPassed_concat {talk : Talk} {uses : List Use} {use : Use} {document : Document}
    {note : DocumentNote} (hpasses : use.Passes document) (huri : note.uri? = some document.uri)
    (hnotes : (talk.after (uses ++ [use])).world.notes =
      (talk.after uses).world.notes ++ [note]) :
    talk.LastPassed (uses ++ [use]) document :=
  ⟨uses, use, [], note, [], rfl, hpasses, huri, hnotes, (List.append_nil _).symm, nofun⟩

/-- The copies of a server that applied what was written since `talk`: they are those of the
client's table, with the texts that were passed last. -/
structure Mirrors (talk : Talk) (uses : List Use) (written : List DocumentNote)
    (replica : Replica) : Prop where
  /-- The client is still connected. -/
  connected : (talk.after uses).session.client.connected = true
  /-- This was written. -/
  notes : (talk.after uses).world.notes = talk.world.notes ++ written
  /-- The server could follow all of it. -/
  followed : Replica.followAll [] written = some replica
  /-- It has copies of the documents in the table, with their versions. -/
  table : replica.Matches (talk.after uses).session.client.opened
  /-- It has the texts that were passed last. -/
  texts : ∀ {uri version text}, Assoc.get? uri replica = some (version, text) →
    ∃ document : Document, document.uri = uri ∧ document.version = version ∧
      document.text = text ∧ talk.LastPassed uses document

/-- A client without open documents is mirrored by a server without copies. -/
theorem Mirrors.nil {talk : Talk} (hconnected : talk.session.client.connected = true)
    (hclosed : talk.session.client.opened = []) : talk.Mirrors [] [] [] where
  connected := hconnected
  notes := (List.append_nil _).symm
  followed := rfl
  table uri := by
    change Assoc.get? uri talk.session.client.opened = _
    rw [hclosed]
    rfl
  texts hcopy := by cases hcopy

/-- Uses that leave the documents alone leave the copies alone. -/
theorem Mirrors.quiet {talk : Talk} {uses : List Use} {written : List DocumentNote}
    {replica : Replica} (h : talk.Mirrors uses written replica) {use : Use}
    (hsame : (talk.after uses).SameDocuments (talk.after (uses ++ [use]))) :
    talk.Mirrors (uses ++ [use]) written replica where
  connected := hsame.connected.trans h.connected
  notes := hsame.notes.trans h.notes
  followed := h.followed
  table := by
    rw [hsame.opened]
    exact h.table
  texts hcopy := by
    obtain ⟨document, huri, hversion, htext, hlast⟩ := h.texts hcopy
    refine ⟨document, huri, hversion, htext, @LastPassed.concat _ _ _ hlast _ [] ?_ nofun⟩
    rw [hsame.notes, List.append_nil]

/-- What is said about a document can be followed. -/
theorem Mirrors.told {talk : Talk} {uses : List Use} {written : List DocumentNote}
    {replica : Replica} (h : talk.Mirrors uses written replica) {use : Use} {note : DocumentNote}
    (hsaid : use.Says note) (htold : (talk.after uses).Tells note (talk.after (uses ++ [use]))) :
    ∃ next, talk.Mirrors (uses ++ [use]) (written ++ [note]) next := by
  obtain ⟨next, hfollow, htable⟩ := h.table.follow htold.allowed
  -- the note that is written is the one that is followed and the one that enters the table
  refine ⟨next, htold.connected.trans h.connected, ?_, ?_, ?_, ?_⟩
  · rw [htold.notes, h.notes, List.append_assoc]
  · rw [Replica.followAll_concat, h.followed, Option.bind_some, hfollow]
  · rw [htold.opened]
    exact htable
  · intro uri version text hcopy
    by_cases habout : note.uri? = some uri
    · -- the note is about this document, so the use has passed it on
      obtain ⟨document, rfl, hversion, htext, hpasses⟩ := hsaid.passes hfollow habout hcopy
      exact ⟨document, rfl, hversion, htext, lastPassed_concat hpasses habout htold.notes⟩
    · rw [Replica.get?_follow_of_ne hfollow habout] at hcopy
      obtain ⟨document, rfl, hversion, htext, hlast⟩ := h.texts hcopy
      refine ⟨document, rfl, hversion, htext, hlast.concat htold.notes ?_⟩
      intro other hother
      rwa [List.mem_singleton.1 hother]

/-- Within a session the server mirrors the documents of the client at every time. -/
theorem exists_mirrors {talk : Talk} (hconnected : talk.session.client.connected = true)
    (hclosed : talk.session.client.opened = []) {uses : List Use}
    (hsession : ∀ use ∈ uses, use.InSession) :
    ∃ written replica, talk.Mirrors uses written replica := by
  -- from the last use back: it meets the copies that all uses before it have left
  induction uses using List.reverseRecOn with
  | nil => exact ⟨[], [], .nil hconnected hclosed⟩
  | append_singleton uses use ih =>
    obtain ⟨written, replica, hmirrors⟩ :=
      ih fun other hother => hsession other (List.mem_append_left _ hother)
    have hstep := tells_use hmirrors.connected (hsession use (by simp))
    rw [← after_concat] at hstep
    rcases hstep with hsame | ⟨note, hsaid, htold⟩
    · exact ⟨written, replica, hmirrors.quiet hsame⟩
    · obtain ⟨next, hnext⟩ := hmirrors.told hsaid htold
      exact ⟨_, next, hnext⟩

/-- In a session that was started without open documents, the server is told about changes and the
closing of documents only while they are open, and if it applies what it is told, it has copies of
the documents in the client's table: with the versions there, and with the texts that were passed
last. The session lives as long as the client is connected, as it is after a start that ends well
(`Dialog.connected_of_start_ok`). -/
theorem documents_mirrored {talk : Talk} (hclosed : talk.session.client.opened = [])
    (hlaunch : ∀ server, Leads World.SameNotes (talk.session.launch server)) {started : Talk}
    (hstart : (Dialog.start.perform talk).2 = started)
    (hlive : started.session.client.connected = true) {uses : List Use}
    (hsession : ∀ use ∈ uses, use.InSession) :
    ∃ written replica,
      (started.after uses).world.notes = talk.world.notes ++ written ∧
      Replica.Ordered written ∧ Replica.followAll [] written = some replica ∧
      (∀ uri, Assoc.get? uri (started.after uses).session.client.opened =
        (Assoc.get? uri replica).map Prod.fst) ∧
      ∀ uri version text, Assoc.get? uri replica = some (version, text) →
        ∃ document : Document, document.uri = uri ∧ document.version = version ∧
          document.text = text ∧ started.LastPassed uses document := by
  -- whatever the start does, it neither writes notes nor opens documents
  have hstarted := Dialog.clearsDocuments_start talk hlaunch
  rw [hstart] at hstarted
  have hnone : started.session.client.opened = [] := by
    rcases hstarted.opened with hsame | hnone
    · rw [hsame, hclosed]
    · exact hnone
  obtain ⟨written, replica, hmirrors⟩ := exists_mirrors hlive hnone hsession
  refine ⟨written, replica, ?_, Replica.ordered_of_followAll hmirrors.followed,
    hmirrors.followed, hmirrors.table, fun _ _ _ => hmirrors.texts⟩
  rw [hmirrors.notes, hstarted.notes]

/-- A document is opened and changes, another one changes before it was opened, and is closed. -/
def rehearsal : List Use :=
  [.openDocument ⟨"a.jl", "julia", 1, "x"⟩, .changeDocument ⟨"a.jl", "julia", 2, "y"⟩,
    .changeDocument ⟨"b.jl", "julia", 1, "z"⟩, .closeDocument "b.jl"]

/-- The server has a copy of the document that stays open, and none of the other. -/
theorem rehearsal_mirrored :
    ∃ replica,
      Replica.followAll []
        ((Dialog.start.perform rehearsed).2.after rehearsal).world.notes = some replica ∧
      (Assoc.get? "a.jl" replica).map Prod.fst = some 2 ∧ Assoc.get? "b.jl" replica = none := by
  have hsession : ∀ use ∈ rehearsal, use.InSession := by
    simp [rehearsal, Use.InSession]
  obtain ⟨written, replica, hnotes, -, hfollowed, htable, -⟩ :=
    documents_mirrored rfl (sameNotes_pretend (.ok { engine := .rehearsed [] }))
      (rfl : (Dialog.start.perform rehearsed).2 = _) (by decide +kernel) hsession
  have hopened : ((Dialog.start.perform rehearsed).2.after rehearsal).session.client.opened =
      [("a.jl", 2)] := by decide +kernel
  rw [hopened] at htable
  have hbefore : rehearsed.world.notes = [] := rfl
  rw [hbefore, List.nil_append] at hnotes
  -- the table decides which copies there are
  refine ⟨replica, by rw [hnotes, hfollowed], (htable "a.jl").symm, ?_⟩
  exact Option.map_eq_none_iff.1 (htable "b.jl").symm

end Talk

end JuliaSession
