import JuliaSession.Proofs.Client.Mirroring
import JuliaSession.Proofs.Client.Starting
import JuliaSession.Proofs.Client.Upholding
import JuliaSession.Proofs.Histories

/-!
# The table of open documents

The client enters a document in its table when it is opened, and takes it out when it is closed,
whether or not there is a server to tell about it. The table is emptied when a process is taken
down, but not when a process ends on its own. So a process that is started may meet a table with
documents that it has never heard of.

* `Talk.attends_use`: a use that neither starts nor stops the server enters what it says.
* `Talk.clears_start`, `Talk.clears_stop`: they empty the table exactly where a process is let go.
* `Talk.books_after`: which documents are in the table after any uses of a new session.
* `Talk.started_told_iff`: a start that ends well has told the process about all documents in the
  table exactly if there are none.
-/

namespace JuliaSession

open Step (Leads)

/-! ### What a use says -/

namespace Use

/-- The table of open documents after a use that neither starts nor stops the server. -/
def table (client : Client) (use : Use) : Assoc String Int :=
  match use.said? client with
  | none => client.opened
  | some note => note.record client.opened

/-- A use opens a document with this URI: one that the client serves, and that is opened or changes
while it is not in the table. -/
def Opens (client : Client) (uri : String) (use : Use) : Prop :=
  ∃ document : Document, document.uri = uri ∧ client.serves document = true ∧
    (use = .openDocument document ∨
      use = .changeDocument document ∧ Assoc.has uri client.opened = false)

variable {client : Client} {use : Use} {uri : String}

/-- Documents are said to be opened by the uses that open them. -/
theorem said?_opened_iff :
    (∃ version text, use.said? client = some (.opened uri version text)) ↔
      use.Opens client uri := by
  constructor
  · rintro ⟨version, text, h⟩
    -- of the four uses that say something two can say that a document was opened
    rcases said?_cases h with ⟨document, rfl, hserves, hnote⟩ | ⟨_, _, _, hnote⟩ |
      ⟨document, rfl, hopen, hserves, hnote⟩ | ⟨_, _, _, hnote⟩
    · cases hnote
      exact ⟨document, rfl, hserves, .inl rfl⟩
    · cases hnote
    · cases hnote
      exact ⟨document, rfl, hserves, .inr ⟨rfl, hopen⟩⟩
    · cases hnote
  · rintro ⟨document, rfl, hserves, rfl | ⟨rfl, hopen⟩⟩
    · exact ⟨_, _, if_pos hserves⟩
    · refine ⟨document.version, document.text, ?_⟩
      rw [said?, hopen, if_neg Bool.false_ne_true, if_pos hserves]

/-- Documents are said to be closed when they are in the table. -/
theorem said?_closed_iff :
    use.said? client = some (.closed uri) ↔
      use = .closeDocument uri ∧ Assoc.has uri client.opened = true := by
  constructor
  · intro h
    rcases said?_cases h with ⟨_, _, _, hnote⟩ | ⟨_, _, _, hnote⟩ | ⟨_, _, _, _, hnote⟩ |
      ⟨other, huse, hopen, hnote⟩ <;> cases hnote
    exact ⟨huse, hopen⟩
  · rintro ⟨rfl, hopen⟩
    exact if_pos hopen

/-- Documents are said to change when they are in the table. -/
theorem has_of_said?_changed {version : Int} {text : String}
    (h : use.said? client = some (.changed uri version text)) :
    Assoc.has uri client.opened = true := by
  rcases said?_cases h with ⟨_, _, _, hnote⟩ | ⟨_, _, hopen, hnote⟩ | ⟨_, _, _, _, hnote⟩ |
    ⟨_, _, _, hnote⟩ <;> cases hnote
  exact hopen

/-- A document is in the table after a use if it is opened, or was there and is not closed. -/
theorem has_table_iff :
    Assoc.has uri (use.table client) = true ↔
      use.Opens client uri ∨
        (Assoc.has uri client.opened = true ∧ use ≠ .closeDocument uri) := by
  have hclosed : use.said? client = some (.closed uri) ↔
      use = .closeDocument uri ∧ Assoc.has uri client.opened = true := said?_closed_iff
  rw [← said?_opened_iff, table]
  -- what is entered is what is said, and what is said of other documents leaves this one alone
  cases hsaid : use.said? client with
  | none =>
    rw [hsaid] at hclosed
    grind
  | some note =>
    rw [hsaid] at hclosed
    cases note with
    | opened other version text =>
      simp only [DocumentNote.record, Assoc.has_insert_iff]
      grind
    | changed other version text =>
      have hopen := has_of_said?_changed hsaid
      simp only [DocumentNote.record, Assoc.has_insert_iff]
      grind
    | closed other =>
      simp only [DocumentNote.record, Assoc.has_erase_iff]
      grind
    | unreadable =>
      simp only [DocumentNote.record]
      grind

end Use

/-! ### Uses without a start or a stop -/

namespace Client

/-- What is said is entered in the table, and nothing else of the client changes. -/
theorem Says.table {client : Client} {use : Use} {result : Client × List Json}
    (h : client.Says (use.said? client) result) :
    result.1 = { client with opened := use.table client } := by
  unfold Use.table
  generalize use.said? client = said at h
  cases h <;> rfl

end Client

namespace Talk

open Dialog (steady_request steady_send reads_steady handles_steady)

/-- What a client says about documents is entered in its table, while the process is attended to. -/
theorem attends_update {change : Client → Client × List Json} {use : Use} (talk : Talk)
    (h : talk.session.client.Says (use.said? talk.session.client) (change talk.session.client)) :
    Attends { talk with session := { talk.session with
        client := { talk.session.client with opened := use.table talk.session.client } } }
      ((Dialog.update change).perform talk).2 := by
  have hrest := Leads.bind (steady_send (change talk.session.client).2) fun _ =>
    reads_steady.exchange
  rw [← h.table]
  exact (hrest _).toAttends

/-- A use that neither starts nor stops the server enters what it says in the table. Everything else
that a start depends on is as before. -/
theorem attends_use {use : Use} (hup : use ≠ .start) (hdown : use ≠ .stop) (talk : Talk) :
    Attends { talk with session := { talk.session with
        client := { talk.session.client with opened := use.table talk.session.client } } }
      (use.dialog.perform talk).2 := by
  have hsteady (h : Leads Steady use.dialog)
      (hsilent : use.table talk.session.client = talk.session.client.opened) :
      Attends { talk with session := { talk.session with
          client := { talk.session.client with opened := use.table talk.session.client } } }
        (use.dialog.perform talk).2 := by
    rw [hsilent]
    exact (h talk).toAttends
  -- only the three uses for documents change the table; all others leave the client as it was
  cases use with
  | start => exact absurd rfl hup
  | stop => exact absurd rfl hdown
  | openDocument document =>
    exact attends_update talk (talk.session.client.says_openDocument document)
  | changeDocument document =>
    exact attends_update talk (talk.session.client.says_changeDocument document)
  | closeDocument uri =>
    exact attends_update talk (talk.session.client.says_closeDocument uri)
  | awaitReady => exact hsteady Dialog.leads_awaitReady rfl
  | waitClosed =>
    exact hsteady (.bind (Dialog.leads_waitClosed (Dialog.steady_record _)) fun _ => .pure _) rfl
  | request method params => exact hsteady (.bind (steady_request _ _ _) fun _ => .pure _) rfl
  | complete uri line character token =>
    exact hsteady (.bind (.bind Dialog.leads_client fun _ => steady_request _ _ _) fun _ =>
      .pure _) rfl
  | pickUp id => exact hsteady (.bind (Dialog.steady_outcome id) fun _ => .pure _) rfl
  | cancel id => exact hsteady (handles_steady.settle id _) rfl
  | notify method params => exact hsteady (Dialog.steady_notify method params) rfl
  | forwardFile path kind =>
    exact hsteady (.bind (Dialog.leads_forwardFile steady_send reads_steady.exchange path kind)
      fun _ => .pure _) rfl
  | subscribe method handler => exact hsteady (fun _ => ⟨⟨rfl, rfl, rfl, id⟩, rfl, rfl⟩) rfl
  | unsubscribe method handler =>
    refine hsteady (fun before => ?_) rfl
    rw [Use.dialog, Dialog.perform_modifyClient]
    unfold Client.unsubscribe
    split
    · split <;> exact ⟨⟨rfl, rfl, rfl, id⟩, rfl, rfl⟩
    · exact ⟨⟨rfl, rfl, rfl, id⟩, rfl, rfl⟩
  | deliver message => exact hsteady (handles_steady.deliver message) rfl
  | serverWrites bytes => exact hsteady (reads_steady.serverWrites bytes) rfl
  | serverReports bytes => exact hsteady (reads_steady.serverReports bytes) rfl
  | serverExits code => exact hsteady (reads_steady.serverExits code) rfl

end Talk

/-! ### The start and the stop -/

namespace Dialog

open Talk (Attends Steady Releases SameSession)

/-- After everything was let go, the session does not change. -/
theorem releases_bind {α β : Type} {step : Dialog α} {next : α → Dialog β}
    (h : Leads Releases step) (hnext : ∀ value, Leads SameSession (next value)) :
    Leads Releases (step >>= next) := by
  refine h.bind_of hnext (fun hfirst => hfirst) fun hfirst hsame => ?_
  refine ⟨?_, ?_, ?_, ?_, ?_⟩ <;> rw [hsame]
  · exact hfirst.options
  · exact hfirst.launch
  · exact hfirst.peer
  · exact hfirst.pending
  · exact hfirst.opened

/-- A start that has launched a process attends to it, or lets everything go. -/
theorem start_launched {talk : Talk} {peer : Peer} {world : World}
    (hidle : talk.session.running = false) (h : talk.Launches (.ok peer) world) :
    Attends (talk.launched peer world) (start.perform talk).2 ∨
      talk.Releases (start.perform talk).2 := by
  -- a talk that has launched a process differs from this one in the process only
  have hfresh {after : Talk} (hreleases : (talk.launched peer world).Releases after) :
      talk.Releases after :=
    ⟨hreleases.options, hreleases.launch, hreleases.peer, hreleases.pending, hreleases.opened⟩
  rw [perform_start_launched hidle h]
  split
  · -- the documents are those of the client before it is connected
    have hjoined : Attends (talk.launched peer world) (talk.joined peer world) :=
      ⟨rfl, rfl, rfl, fun _ => rfl⟩
    have hends := ends_shakeHands (talk.joined peer world)
    cases hshake : shakeHands.perform (talk.joined peer world) with
    | mk result greeted =>
      rw [hshake] at hends
      cases hends with
      | well hsteady =>
        rw [Step.perform_bind_ok hshake]
        exact .inl (Trans.trans hjoined (Trans.trans hsteady.toAttends (attends_begin greeted)))
      | undated hsteady =>
        rw [Step.perform_bind_error hshake]
        exact .inl (Trans.trans hjoined hsteady.toAttends)
      | vacant hvacates =>
        rw [Step.perform_bind_error hshake]
        exact .inr (hfresh (hjoined.releases hvacates.toReleases))
  · have hkill : Leads Releases kill := vacates_kill.mono Talk.Vacates.toReleases
    refine .inr (hfresh (releases_bind hkill (fun _ => .bind leads_client fun _ => ?_) _))
    exact .throw _

/-- A stop attends to the process, or lets everything go. -/
theorem stop_cases (talk : Talk) :
    talk.Attends (stop.perform talk).2 ∨ talk.Releases (stop.perform talk).2 := by
  have hfirst {before after : Talk} (h : Attends before after) :
      Attends before after ∨ Releases before after := .inl h
  have hgoes {before between after : Talk} (h : Attends before between)
      (h' : Attends between after ∨ Releases between after) :
      Attends before after ∨ Releases before after :=
    h'.imp (Trans.trans h) h.releases
  have hkill : Leads Releases kill := vacates_kill.mono Talk.Vacates.toReleases
  -- the end of a stop, which follows whether or not the server was asked to shut down
  have hdown : Leads (fun before after => Attends before after ∨ Releases before after)
      ((modifyClient fun client => { client with ready := false }) >>= fun _ =>
        kill >>= fun _ => log .info "stopped" []) := by
    have hunready : Leads Attends (modifyClient fun client => { client with ready := false }) :=
      fun _ => ⟨rfl, rfl, rfl, id⟩
    refine hunready.bind_of (fun _ => ?_) hfirst hgoes
    exact (releases_bind hkill fun _ => sameSession_log _ _ _).mono .inr
  have hask : Leads Attends askToShutDown := by
    refine (Leads.bind (steady_request _ _ _) fun _ => .bind (steady_outcome _) fun _ => ?_).mono
      Steady.toAttends
    split
    · exact steady_notify _ _
    · exact handles_steady.log _ _ _
    · exact handles_steady.log _ _ _
  unfold stop
  rw [Step.perform_bind_ok (perform_session talk)]
  split
  · exact .inl (Std.Refl.refl talk)
  · have hlog : Leads Attends (log .info "stopping" []) :=
      (handles_steady.log _ _ _).mono Steady.toAttends
    refine hlog.bind_of (fun _ => ?_) hfirst hgoes talk
    refine (leads_client : Leads Attends client).bind_of (fun _ => ?_) hfirst hgoes
    refine (leads_session : Leads Attends session).bind_of (fun _ => ?_) hfirst hgoes
    split
    · exact hask.bind_of (fun _ => hdown) hfirst hgoes
    · exact hdown

end Dialog

namespace Talk

open Dialog (start stop)

/-- A use lets the process go that was held or launched: a stop, or a start that fails. -/
def LetsGo (talk : Talk) (use : Use) : Prop :=
  (use.dialog.perform talk).2.session.peer = none ∧
    (use = .stop ∧ talk.session.peer.isSome ∨
      use = .start ∧ talk.session.running = false ∧ ∃ peer world, talk.Launches (.ok peer) world)

/-- What a start or a stop does to the table: it is emptied where the process is let go, and left as
it is otherwise. -/
structure Clears (before : Talk) (use : Use) (after : Talk) : Prop where
  /-- The options are the same. -/
  options : after.session.client.options = before.session.client.options
  /-- A process is launched the same way. -/
  launch : after.session.launch = before.session.launch
  /-- A document is in the table if it was and no process is let go. -/
  opened : ∀ uri, Assoc.has uri after.session.client.opened = true ↔
    Assoc.has uri before.session.client.opened = true ∧ ¬ before.LetsGo use

/-- Where no process is let go, the table stays as it is. -/
theorem Clears.stays {before after : Talk} {use : Use}
    (hoptions : after.session.client.options = before.session.client.options)
    (hlaunch : after.session.launch = before.session.launch)
    (hopened : after.session.client.opened = before.session.client.opened)
    (hheld : ¬ before.LetsGo use) : before.Clears use after where
  options := hoptions
  launch := hlaunch
  opened uri := by
    rw [hopened]
    exact (and_iff_left hheld).symm

/-- Where everything is let go, the table is emptied. -/
theorem Releases.clears {before after : Talk} {use : Use} (h : before.Releases after)
    (hgone : before.LetsGo use) : before.Clears use after where
  options := h.options
  launch := h.launch
  opened uri := by
    rw [h.opened]
    exact ⟨nofun, fun hheld => absurd hgone hheld.2⟩

theorem clears_start (talk : Talk) : talk.Clears .start (start.perform talk).2 := by
  -- a start that launches nothing, or whose process stays, drops no document
  by_cases hidle : talk.session.running = false
  · cases hlaunch : (talk.session.launch talk.session.server).perform talk.world with
    | mk result world =>
      cases result with
      | error failure =>
        rw [Dialog.perform_start_unlaunched hidle hlaunch]
        refine .stays rfl rfl rfl ?_
        rintro ⟨-, ⟨⟨⟩, -⟩ | ⟨-, -, peer, other, h⟩⟩
        rw [Launches, hlaunch] at h
        cases h
      | ok peer =>
        rcases Dialog.start_launched hidle hlaunch with hattends | hreleases
        · refine .stays hattends.options hattends.launch hattends.opened ?_
          rintro ⟨hnone, -⟩
          exact absurd hnone (Option.isSome_iff_ne_none.1 (hattends.held rfl))
        · exact hreleases.clears ⟨hreleases.peer, .inr ⟨rfl, hidle, peer, world, hlaunch⟩⟩
  · -- a process that runs is not started again
    have hrunning : talk.session.running = true := by simpa using hidle
    have hrun : start.perform talk = (.ok (), talk) := by
      unfold start
      rw [Step.perform_bind_ok (Dialog.perform_session talk), hrunning]
      rfl
    rw [hrun]
    refine .stays rfl rfl rfl ?_
    rintro ⟨-, ⟨⟨⟩, -⟩ | ⟨-, h, -⟩⟩
    exact hidle h

theorem clears_stop (talk : Talk) : talk.Clears .stop (stop.perform talk).2 := by
  -- a client without a process stops at once and keeps what is in its table
  by_cases hnone : talk.session.peer = none
  · have hrun : stop.perform talk = (.ok (), talk) := by
      unfold stop
      rw [Step.perform_bind_ok (Dialog.perform_session talk), hnone]
      rfl
    rw [hrun]
    refine .stays rfl rfl rfl ?_
    rintro ⟨-, ⟨-, h⟩ | ⟨⟨⟩, -⟩⟩
    exact absurd hnone (Option.isSome_iff_ne_none.1 h)
  · have hsome : talk.session.peer.isSome := Option.isSome_iff_ne_none.2 hnone
    rcases Dialog.stop_cases talk with hattends | hreleases
    · refine .stays hattends.options hattends.launch hattends.opened ?_
      rintro ⟨hgone, -⟩
      exact absurd hgone (Option.isSome_iff_ne_none.1 (hattends.held hsome))
    · exact hreleases.clears ⟨hreleases.peer, .inl ⟨rfl, hsome⟩⟩

end Talk

/-! ### Across sessions -/

namespace Use

/-- A use enters a document with this URI in the table, unless it is there: it opens or changes one
that the client serves. -/
def Enters (client : Client) (uri : String) (use : Use) : Prop :=
  ∃ document : Document, document.uri = uri ∧ client.serves document = true ∧
    (use = .openDocument document ∨ use = .changeDocument document)

theorem has_table_iff_enters {client : Client} {use : Use} {uri : String} :
    Assoc.has uri (use.table client) = true ↔
      use.Enters client uri ∨
        (Assoc.has uri client.opened = true ∧ use ≠ .closeDocument uri) := by
  rw [has_table_iff]
  constructor
  · rintro (⟨document, huri, hserves, huse⟩ | hkept)
    · exact .inl ⟨document, huri, hserves, huse.imp_right And.left⟩
    · exact .inr hkept
  · rintro (⟨document, huri, hserves, rfl | rfl⟩ | hkept)
    · exact .inl ⟨document, huri, hserves, .inl rfl⟩
    · -- a document that is in the table stays there when it changes
      cases hopen : Assoc.has uri client.opened with
      | false => exact .inl ⟨document, huri, hserves, .inr ⟨rfl, hopen⟩⟩
      | true => exact .inr ⟨rfl, nofun⟩
    · exact .inr hkept

end Use

namespace Client

/-- Which documents are served depends on the options. -/
theorem serves_congr {client other : Client} (h : other.options = client.options)
    (document : Document) : other.serves document = client.serves document := by
  rw [serves, serves, h]

end Client

namespace Talk

open Dialog (start)

/-- A document was entered in the table by the uses so far, and since then neither closed nor
dropped together with a process that was let go. -/
def Lists (talk : Talk) (uri : String) (uses : List Use) : Prop :=
  Since (fun _ use => use.Enters talk.session.client uri)
    (fun earlier use => use = .closeDocument uri ∨ (talk.after earlier).LetsGo use) uses

/-- What a start depends on after some uses, from a table without documents. -/
structure Books (talk : Talk) (uses : List Use) : Prop where
  /-- The options are the same. -/
  options : (talk.after uses).session.client.options = talk.session.client.options
  /-- A process is launched the same way. -/
  launch : (talk.after uses).session.launch = talk.session.launch
  /-- These documents are in the table. -/
  opened : ∀ uri, Assoc.has uri (talk.after uses).session.client.opened = true ↔
    talk.Lists uri uses

theorem lists_concat {talk : Talk} {uri : String} {uses : List Use} {use : Use} :
    talk.Lists uri (uses ++ [use]) ↔ use.Enters talk.session.client uri ∨
      (talk.Lists uri uses ∧ use ≠ .closeDocument uri ∧ ¬ (talk.after uses).LetsGo use) := by
  rw [Lists, since_concat, not_or]
  rfl

/-- A use other than a start or a stop lets no process go. -/
theorem not_letsGo {talk : Talk} {use : Use} (hup : use ≠ .start) (hdown : use ≠ .stop) :
    ¬ talk.LetsGo use :=
  fun h => h.2.elim (fun h => hdown h.1) fun h => hup h.1

/-- What a start or a stop leaves is what it has left of the table before it. -/
theorem Books.concat_clears {talk : Talk} {uses : List Use} {use : Use} (h : talk.Books uses)
    (hclears : (talk.after uses).Clears use (talk.after (uses ++ [use])))
    (hsilent : ∀ uri, ¬ use.Enters talk.session.client uri)
    (hopen : ∀ uri, use ≠ .closeDocument uri) : talk.Books (uses ++ [use]) where
  options := hclears.options.trans h.options
  launch := hclears.launch.trans h.launch
  opened uri := by
    rw [hclears.opened, h.opened, lists_concat, or_iff_right (hsilent uri)]
    exact and_congr_right' (and_iff_right (hopen uri)).symm

/-- Any other use enters what it says. -/
theorem Books.concat_enters {talk : Talk} {uses : List Use} {use : Use} (h : talk.Books uses)
    (hup : use ≠ .start) (hdown : use ≠ .stop) : talk.Books (uses ++ [use]) := by
  have hattends := attends_use hup hdown (talk.after uses)
  rw [← after_concat] at hattends
  refine ⟨hattends.options.trans h.options, hattends.launch.trans h.launch, fun uri => ?_⟩
  have henters : use.Enters (talk.after uses).session.client uri ↔
      use.Enters talk.session.client uri := by
    simp only [Use.Enters, Client.serves_congr h.options]
  rw [hattends.opened, Use.has_table_iff_enters, h.opened, lists_concat, henters]
  exact or_congr_right (and_congr_right' (and_iff_left (not_letsGo hup hdown)).symm)

/-- Which documents are in the table after any uses. -/
theorem books_after {talk : Talk} (hclosed : talk.session.client.opened = []) (uses : List Use) :
    talk.Books uses := by
  -- from the last use back: it meets the table that all uses before it have left
  induction uses using List.reverseRecOn with
  | nil =>
    -- a new session has an empty table
    refine ⟨rfl, rfl, fun uri => ⟨fun h => ?_, fun h => absurd h not_since_nil⟩⟩
    change Assoc.has uri talk.session.client.opened = true at h
    rw [hclosed] at h
    cases h
  | append_singleton uses use ih =>
    by_cases hup : use = .start
    · subst hup
      refine ih.concat_clears ?_ (fun uri => ?_) nofun
      · rw [after_concat]
        exact clears_start _
      · rintro ⟨_, -, -, ⟨⟨⟩⟩ | ⟨⟨⟩⟩⟩
    by_cases hdown : use = .stop
    · subst hdown
      refine ih.concat_clears ?_ (fun uri => ?_) nofun
      · rw [after_concat]
        exact clears_stop _
      · rintro ⟨_, -, -, ⟨⟨⟩⟩ | ⟨⟨⟩⟩⟩
    exact ih.concat_enters hup hdown

/-- A start that ends well says nothing about documents, and has the table that it has met. -/
theorem documents_of_start_ok {talk started : Talk}
    (hlaunch : ∀ server, Leads World.SameNotes (talk.session.launch server))
    (hidle : talk.session.running = false) (hstart : start.perform talk = (.ok (), started)) :
    started.world.notes = talk.world.notes ∧
      started.session.client.opened = talk.session.client.opened := by
  obtain ⟨peer, world, hpeer, hjoined⟩ := Dialog.joined_of_start_ok hidle hstart
  obtain ⟨_, greeted, hgreet, hbegin⟩ := Step.perform_bind_eq_ok_iff.1 hjoined
  have hsame : (talk.joined peer world).SameDocuments started :=
    Trans.trans (Dialog.sameDocuments_shakeHands _ _ _ hgreet)
      (Dialog.sameDocuments_begin.ends hbegin)
  have hnotes : World.SameNotes talk.world world := (hlaunch _).ends hpeer
  exact ⟨hsame.notes.trans hnotes, hsame.opened⟩

/-- After any uses of a new session, in whatever order it was started and stopped, its processes
ended and documents were opened, changed and closed, a start that ends well has told the process it
launched about all documents in the table exactly if there are none: if all that were entered were
closed or dropped with a process that was let go. -/
theorem started_told_iff {talk : Talk} (hclosed : talk.session.client.opened = [])
    (hlaunch : ∀ server, Leads World.SameNotes (talk.session.launch server)) {uses : List Use}
    (hidle : (talk.after uses).session.running = false) {started : Talk}
    (hstart : start.perform (talk.after uses) = (.ok (), started)) :
    ∃ told, started.world.notes = (talk.after uses).world.notes ++ told ∧
      (∀ uri, Assoc.has uri started.session.client.opened = true ↔ talk.Lists uri uses) ∧
      ((∀ uri, Assoc.has uri started.session.client.opened = true →
          ∃ version text, .opened uri version text ∈ told) ↔
        ∀ uri, ¬ talk.Lists uri uses) := by
  have hbooks := books_after hclosed uses
  rw [← hbooks.launch] at hlaunch
  obtain ⟨hnotes, hopened⟩ := documents_of_start_ok hlaunch hidle hstart
  have hlists (uri : String) :
      Assoc.has uri started.session.client.opened = true ↔ talk.Lists uri uses := by
    rw [hopened]
    exact hbooks.opened uri
  -- the start says nothing of documents, so whatever is in the table is not announced
  refine ⟨[], by rw [hnotes, List.append_nil], hlists, ?_⟩
  simp only [List.not_mem_nil, exists_const, imp_false, hlists]

/-- A document is opened, and the process ends on its own. -/
def interruption : List Use :=
  [.start, .openDocument ⟨"a.jl", "julia", 1, "x"⟩, .serverExits 0]

/-- The next process is never told about the document. -/
theorem interruption_untold :
    ∃ started told, start.perform (rehearsed.after interruption) = (.ok (), started) ∧
      started.world.notes = (rehearsed.after interruption).world.notes ++ told ∧
      ¬ ∀ uri, Assoc.has uri started.session.client.opened = true →
        ∃ version text, .opened uri version text ∈ told := by
  have hidle : (rehearsed.after interruption).session.running = false := by decide +kernel
  have hopen : Assoc.has "a.jl"
      (start.perform (rehearsed.after interruption)).2.session.client.opened = true := by
    decide +kernel
  have hwell : (start.perform (rehearsed.after interruption)).1.isOk = true := by
    decide +kernel
  obtain ⟨_, started, hstart⟩ := Step.exists_run_of_isOk hwell
  rw [hstart] at hopen
  obtain ⟨told, hnotes, hlists, htold⟩ := started_told_iff rfl
    (sameNotes_pretend (.ok { engine := .rehearsed [] })) hidle hstart
  refine ⟨started, told, hstart, hnotes, fun hall => ?_⟩
  exact htold.1 hall "a.jl" ((hlists "a.jl").1 hopen)

end Talk

end JuliaSession
