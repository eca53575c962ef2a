import JuliaSession.Proofs.Client.Isolation
import JuliaSession.Proofs.Client.Replies

/-!
# The history of open documents

Documents are opened, from a text or from a file, changed and closed, in any order and not always
with success, while the server asks for whole texts. What is open under a URI is told by the
history alone: the document that was opened there last, with the text of the last change since, and
with a version that counts these changes.

* `DocumentStore.Current`: what is open under a URI after some changes.
* `DocumentStore.Recounts`: a store holds what its changes have left, and each operation keeps that.
* `Dialog.events_callHandler_asked`, `Dialog.sameEvents_callHandler_unasked`: a request for a whole
  text is answered once or not at all.
* `Talk.fullText_recounted`: both along every run of happenings.
-/

namespace JuliaSession

open Step (Leads)

namespace DocumentStore

/-! ### Changes -/

/-- A change of the open documents. -/
inductive Change where
  /-- A document is opened, in place of the one that was open under its URI. -/
  | opened (document : Document)
  /-- An open document gets a new text. -/
  | updated (uri text : String)
  /-- What is open under a URI is closed. -/
  | closed (uri : String)

/-- The URI that a change is about. -/
def Change.uri : Change → String
  | opened document => document.uri
  | updated uri _ => uri
  | closed uri => uri

/-- Does the change leave the document open that was open before? -/
def Change.isUpdate : Change → Bool
  | updated _ _ => true
  | _ => false

/-- The texts that some changes have given to the document of a URI. -/
def texts (uri : String) (changes : List Change) : List String :=
  changes.filterMap fun
    | .updated other text => if other = uri then some text else none
    | _ => none

/-- What is open under a URI after some changes: it was opened there and neither replaced nor closed
since, its text is the last one it was given, and its version counts the texts. -/
def Current (changes : List Change) (uri : String) (document : Document) : Prop :=
  ∃ earlier opened later, changes = earlier ++ .opened opened :: later ∧ opened.uri = uri ∧
    (∀ change ∈ later, change.uri = uri → change.isUpdate) ∧
    document = { opened with
      version := opened.version + (texts uri later).length
      text := (texts uri later).getLastD opened.text }

variable {changes earlier later : List Change} {change : Change} {uri text : String}
  {document before : Document}

theorem texts_append : texts uri (earlier ++ later) = texts uri earlier ++ texts uri later :=
  List.filterMap_append

theorem texts_updated : texts uri [.updated uri text] = [text] := by
  simp [texts]

theorem texts_of_ne (h : change.uri ≠ uri) : texts uri [change] = [] := by
  cases change with
  | opened => rfl
  | closed => rfl
  | updated other text =>
    have hother : other ≠ uri := h
    simp [texts, hother]

/-- Nothing is open at first. -/
theorem not_current_nil : ¬ Current [] uri document := by
  rintro ⟨earlier, opened, later, hchanges, -⟩
  exact absurd hchanges.symm (by simp)

/-- What is open after one more change was opened by it, or was open before and not closed. -/
theorem current_concat :
    Current (changes ++ [change]) uri document ↔
      (change = .opened document ∧ document.uri = uri) ∨
      ∃ earlier opened later, changes = earlier ++ .opened opened :: later ∧ opened.uri = uri ∧
        (∀ change ∈ later, change.uri = uri → change.isUpdate) ∧
        (change.uri = uri → change.isUpdate) ∧
        document = { opened with
          version := opened.version + (texts uri (later ++ [change])).length
          text := (texts uri (later ++ [change])).getLastD opened.text } := by
  constructor
  · rintro ⟨earlier, opened, later, hchanges, huri, hopen, rfl⟩
    -- the last change is the opening itself, or it came later
    rcases List.eq_nil_or_concat later with rfl | ⟨front, last, rfl⟩
    · obtain ⟨-, hlast⟩ := List.append_inj' hchanges rfl
      rw [List.cons.injEq] at hlast
      rw [hlast.1]
      exact .inl ⟨by simp [texts], huri⟩
    · rw [List.concat_eq_append] at hchanges hopen ⊢
      rw [← List.cons_append, ← List.append_assoc] at hchanges
      obtain ⟨hfront, hlast⟩ := List.append_inj' hchanges rfl
      obtain rfl : change = last := List.head_eq_of_cons_eq hlast
      rw [List.forall_mem_append, List.forall_mem_singleton] at hopen
      exact .inr ⟨earlier, opened, front, hfront, huri, hopen.1, hopen.2, rfl⟩
  · rintro (⟨rfl, huri⟩ | ⟨earlier, opened, later, rfl, huri, hopen, hlast, rfl⟩)
    · refine ⟨changes, document, [], rfl, huri, nofun, ?_⟩
      simp [texts]
    · refine ⟨earlier, opened, later ++ [change], by simp, huri, ?_, rfl⟩
      rw [List.forall_mem_append, List.forall_mem_singleton]
      exact ⟨hopen, hlast⟩

/-- A change under another URI matters to nobody. -/
theorem current_concat_of_ne (h : change.uri ≠ uri) :
    Current (changes ++ [change]) uri document ↔ Current changes uri document := by
  rw [current_concat]
  constructor
  · rintro (⟨rfl, huri⟩ | ⟨earlier, opened, later, rfl, huri, hopen, -, rfl⟩)
    · exact absurd huri h
    · exact ⟨earlier, opened, later, rfl, huri, hopen, by
        rw [texts_append, texts_of_ne h, List.append_nil]⟩
  · rintro ⟨earlier, opened, later, rfl, huri, hopen, rfl⟩
    exact .inr ⟨earlier, opened, later, rfl, huri, hopen, fun heq => absurd heq h, by
      rw [texts_append, texts_of_ne h, List.append_nil]⟩

theorem current_opened :
    Current (changes ++ [.opened document]) document.uri before ↔ before = document := by
  rw [current_concat]
  constructor
  · rintro (⟨heq, -⟩ | ⟨-, -, -, -, -, -, hlast, -⟩)
    · cases heq
      rfl
    · exact absurd (hlast rfl) (by simp [Change.isUpdate])
  · rintro rfl
    exact .inl ⟨rfl, rfl⟩

theorem not_current_closed : ¬ Current (changes ++ [.closed uri]) uri document := by
  rw [current_concat]
  rintro (⟨heq, -⟩ | ⟨-, -, -, -, -, -, hlast, -⟩)
  · cases heq
  · exact absurd (hlast rfl) (by simp [Change.isUpdate])

theorem Current.uri_eq (h : Current changes uri document) : document.uri = uri := by
  obtain ⟨-, opened, -, -, huri, -, rfl⟩ := h
  exact huri

theorem current_updated :
    Current (changes ++ [.updated uri text]) uri document ↔
      ∃ before, Current changes uri before ∧ document = revised before text := by
  rw [current_concat]
  constructor
  · rintro (⟨heq, -⟩ | ⟨earlier, opened, later, rfl, huri, hopen, -, rfl⟩)
    · cases heq
    · refine ⟨_, ⟨earlier, opened, later, rfl, huri, hopen, rfl⟩, ?_⟩
      rw [texts_append, texts_updated, List.getLastD_concat, List.length_append, revised]
      simp [Int.add_assoc]
  · rintro ⟨before, ⟨earlier, opened, later, rfl, huri, hopen, rfl⟩, rfl⟩
    refine .inr ⟨earlier, opened, later, rfl, huri, hopen, fun _ => rfl, ?_⟩
    rw [texts_append, texts_updated, List.getLastD_concat, List.length_append, revised]
    simp [Int.add_assoc]

/-! ### What a store holds -/

/-- The store holds what some changes have left. -/
def Recounts (store : DocumentStore) (changes : List Change) : Prop :=
  ∀ uri document, store.get? uri = some document ↔ Current changes uri document

variable {store after : DocumentStore}

theorem eq_empty (h : store.documents = []) : store = {} := by
  cases store
  exact congrArg mk h

theorem recounts_empty : Recounts {} [] := by
  intro uri document
  exact ⟨nofun, fun h => absurd h not_current_nil⟩

/-- An opened document is held under its URI. -/
theorem Recounts.add (h : Recounts store changes) (document : Document) :
    Recounts (store.add document) (changes ++ [.opened document]) := by
  intro uri found
  have hget : (store.add document).get? uri =
      if uri = document.uri then some document else store.get? uri := Assoc.get?_insert _ _ _ _
  rw [hget]
  by_cases huri : uri = document.uri
  · rw [if_pos huri, huri, current_opened, Option.some.injEq, eq_comm]
  · rw [if_neg huri, h uri found]
    exact (current_concat_of_ne fun heq => huri heq.symm).symm

/-- An update needs an open document. -/
theorem update_eq_ok_iff :
    store.update uri text = .ok (document, after) ↔
      ∃ before, store.get? uri = some before ∧ document = revised before text ∧
        after = store.add { revised before text with uri } := by
  unfold update
  cases hget : store.get? uri with
  | none => exact ⟨nofun, fun ⟨_, hsome, _⟩ => absurd hsome nofun⟩
  | some before =>
    constructor
    · intro h
      cases h
      exact ⟨before, rfl, rfl, rfl⟩
    · rintro ⟨_, hbefore, rfl, rfl⟩
      cases hbefore
      rfl

/-- An updated document is held with its new text and version. -/
theorem Recounts.update (h : Recounts store changes)
    (hupdate : store.update uri text = .ok (document, after)) :
    Recounts after (changes ++ [.updated uri text]) := by
  obtain ⟨before, hbefore, -, rfl⟩ := update_eq_ok_iff.1 hupdate
  have hcurrent := (h uri before).1 hbefore
  intro other found
  have hget : (store.add { revised before text with uri }).get? other =
      if other = uri then some { revised before text with uri } else store.get? other :=
    Assoc.get?_insert _ _ _ _
  rw [hget]
  -- an update is about one document; what is known of the others is not affected
  by_cases hother : other = uri
  · subst hother
    have hrevised : ({ revised before text with uri := other } : Document) =
        revised before text := by
      rw [← hcurrent.uri_eq]
      rfl
    rw [if_pos rfl, current_updated, hrevised, Option.some.injEq]
    constructor
    · rintro rfl
      exact ⟨before, hcurrent, rfl⟩
    · rintro ⟨other, hother, rfl⟩
      have hsame := hbefore.symm.trans ((h _ other).2 hother)
      cases hsame
      rfl
  · rw [if_neg hother, h other found]
    exact (current_concat_of_ne fun heq => hother heq.symm).symm

/-- The document of a file is opened if there is a text in the file. -/
theorem openFile_eq_ok_iff {machine : Machine} {path : String} :
    store.openFile machine path = .ok (document, after) ↔
      ofFile machine path = .ok document ∧ after = store.add document := by
  unfold openFile
  cases ofFile machine path with
  | error failure => exact ⟨nofun, fun h => absurd h.1 nofun⟩
  | ok found =>
    constructor
    · intro h
      cases h
      exact ⟨rfl, rfl⟩
    · rintro ⟨⟨⟩, rfl⟩
      rfl

/-- A closed document is not held any more. -/
theorem Recounts.close (h : Recounts store changes) (uri : String) :
    Recounts (store.close uri) (changes ++ [.closed uri]) := by
  intro other found
  have hget : (store.close uri).get? other = if other = uri then none else store.get? other :=
    Assoc.get?_erase _ _ _
  rw [hget]
  by_cases hother : other = uri
  · subst hother
    rw [if_pos rfl]
    exact ⟨nofun, fun hcurrent => absurd hcurrent not_current_closed⟩
  · rw [if_neg hother, h other found]
    exact (current_concat_of_ne fun heq => hother heq.symm).symm

end DocumentStore

/-! ### Requests for whole texts -/

/-- What answers a request for a whole text, if the request names an open document. -/
def DocumentStore.asked? (store : DocumentStore) : Json → Option Json
  | .str uri => store.reloadParams uri
  | _ => none

/-- The answer that carries a text. -/
def Client.wholeText (uri text : String) : Json :=
  notification DocumentStore.fullTextAnswer (.obj [("textDocument", .obj [("uri", .str uri),
    ("languageId", .str "julia"), ("version", .int 1), ("text", .str text)])])

theorem DocumentStore.asked?_open {store : DocumentStore} {uri : String} {document : Document}
    (h : store.get? uri = some document) :
    ∃ answer, store.asked? (.str uri) = some answer ∧
      Client.notification fullTextAnswer answer = Client.wholeText uri document.text := by
  rw [asked?, reloadParams, h]
  exact ⟨_, rfl, rfl⟩

theorem DocumentStore.asked?_eq_none {store : DocumentStore} {params : Json}
    (h : ∀ uri document, params = .str uri → store.get? uri ≠ some document) :
    store.asked? params = none := by
  cases params with
  | str uri =>
    have hnone : store.get? uri = none :=
      Option.eq_none_iff_forall_ne_some.2 fun document => h uri document rfl
    rw [asked?, reloadParams, hnone]
    rfl
  | _ => rfl

/-- While the time of day can be written a record changes nothing but the desk. -/
theorem Act.perform_log_dated {world : World} (h : world.Dated) (service : String)
    (level : Log.Level) (message : String) (fields : Log.Fields) :
    ∃ desk, (Act.log service level message fields).perform world =
      (.ok (), { world with desk }) := by
  unfold Act.log
  rw [perform_onDesk]
  exact ⟨_, Prod.ext (Desk.emit_fst_of_dated h _ _ _ _) rfl⟩

theorem DocumentStore.asked?_eq (store : DocumentStore) (params : Json) :
    store.asked? params =
      match store.fullText params with
      | .answer _ answer => some answer
      | _ => none := by
  cases params with
  | str uri =>
    rw [asked?, fullText]
    cases store.reloadParams uri <;> rfl
  | _ => rfl

/-- A request is answered by the text it asks for, and nothing is done to the outside. -/
theorem FullText.perform_answer {world : World} (h : world.Dated) (params : Json) :
    ∃ desk, (FullText.answer params).perform world =
      (.ok (world.documents.asked? params), { world with desk }) := by
  unfold FullText.answer
  rw [Step.perform_get_bind, world.documents.asked?_eq]
  -- each case writes one record first, which does not fail while the date can be written
  cases world.documents.fullText params with
  | noUri params =>
    obtain ⟨desk, hlog⟩ := Act.perform_log_dated h "lsp.fulltext" .warn
      "full text requested without a uri" [("params", .json params)]
    exact ⟨desk, Step.perform_bind_ok hlog⟩
  | unknown uri =>
    obtain ⟨desk, hlog⟩ := Act.perform_log_dated h "lsp.fulltext" .warn
      "full text requested for unknown document" [("uri", Log.text uri)]
    exact ⟨desk, Step.perform_bind_ok hlog⟩
  | answer uri answer =>
    obtain ⟨desk, hlog⟩ := Act.perform_log_dated h "lsp.fulltext" .debug
      "sending full text" [("uri", Log.text uri)]
    exact ⟨desk, Step.perform_bind_ok hlog⟩

/-- Whether or not that can be recorded, no other text answers the request. -/
theorem FullText.eq_asked?_of_ok {world after : World} {params : Json} {answer : Option Json}
    (h : (FullText.answer params).perform world = (.ok answer, after)) :
    answer = world.documents.asked? params := by
  have hlast : ∀ (step : Act Unit) (value : Option Json),
      (step >>= fun _ => pure value).perform world = (.ok answer, after) → answer = value := by
    intro step value hrun
    obtain ⟨_, _, -, hvalue⟩ := Step.perform_bind_eq_ok_iff.1 hrun
    cases hvalue
    rfl
  unfold FullText.answer at h
  rw [Step.perform_get_bind] at h
  rw [world.documents.asked?_eq]
  cases hreply : world.documents.fullText params with
  | noUri params => rw [hreply] at h; exact hlast _ _ h
  | unknown uri => rw [hreply] at h; exact hlast _ _ h
  | answer uri answer => rw [hreply] at h; exact hlast _ _ h

theorem FullText.sameEvents_answer (params : Json) :
    Leads World.SameEvents (FullText.answer params) := by
  refine .bind .get fun world => ?_
  split <;> exact .bind (Act.sameEvents_onDesk _) fun _ => .pure _

/-- The host has the same documents open. -/
def World.SameOpen (before after : World) : Prop := after.documents = before.documents

instance : Std.Refl World.SameOpen := ⟨fun _ => rfl⟩

instance : Trans World.SameOpen World.SameOpen World.SameOpen := ⟨fun h h' => h'.trans h⟩

/-- Two moments of a session with the same open documents, the same connection and the same
handlers. -/
structure Talk.Hosts (before after : Talk) : Prop where
  /-- The documents that are open in the host. -/
  documents : before.world.SameOpen after.world
  /-- Whether there is a stream to the server. -/
  connected : after.session.client.connected = before.session.client.connected
  /-- The handlers of notifications. -/
  handlers : after.session.client.handlers = before.session.client.handlers

instance : Std.Refl Talk.Hosts := ⟨fun _ => ⟨rfl, rfl, rfl⟩⟩

instance : Trans Talk.Hosts Talk.Hosts Talk.Hosts where
  trans h h' := ⟨h'.documents.trans h.documents, h'.connected.trans h.connected,
    h'.handlers.trans h.handlers⟩

namespace Dialog

open Talk (Hosts)

theorem hosts_act {step : Act α} (h : Leads World.SameOpen step) : Leads Hosts (act step) :=
  h.onPart fun hopen => ⟨hopen, rfl, rfl⟩

/-- Whatever comes from the server, the documents of the host stay as they are. -/
theorem handles_hosts : Handles Hosts where
  emit logger level message extra := hosts_act fun world => by
    rw [perform_onDesk]
    rfl
  accept peer message := hosts_act (leads_accept (fun _ => .modify fun _ => rfl) peer message)
  hold _ _ := ⟨rfl, rfl, rfl⟩
  feed _ _ := ⟨rfl, rfl, rfl⟩
  errLine _ _ := ⟨rfl, rfl, rfl⟩
  settle id outcome talk := by
    obtain ⟨pending, ended, hsettled⟩ := talk.session.client.settle_eq id outcome
    rw [perform_modifyClient, hsettled]
    exact ⟨rfl, rfl, rfl⟩
  sent _ := hosts_act fun _ => rfl
  handled _ _ := hosts_act fun _ => rfl

variable {talk : Talk}

/-- A request that names an open document is answered once. -/
theorem events_callHandler_asked (hconnected : talk.session.client.connected = true)
    (hdated : talk.world.Dated) {params answer : Json}
    (h : talk.world.documents.asked? params = some answer) (key : Nat) :
    ((callHandler ⟨key, .fullText⟩ params).perform talk).2.world.events =
      talk.world.events ++ [.sent (Client.notification DocumentStore.fullTextAnswer answer)] := by
  obtain ⟨desk, hanswer⟩ := FullText.perform_answer hdated params
  have hact : (act (FullText.answer params)).perform talk =
      (.ok (some answer), { talk with world := { talk.world with desk } }) := by
    rw [act, Step.perform_onPart, hanswer, h]
  have hstill : ({ talk with world := { talk.world with desk } } :
      Talk).session.client.connected = true := hconnected
  unfold callHandler
  dsimp only
  rw [Step.perform_bind_ok hact]
  exact events_posted hstill _

/-- Any other request is not answered. -/
theorem sameEvents_callHandler_unasked {params : Json}
    (h : talk.world.documents.asked? params = none) (key : Nat) :
    Talk.SameEvents talk ((callHandler ⟨key, .fullText⟩ params).perform talk).2 := by
  have hevents : Leads Talk.SameEvents (act (FullText.answer params)) :=
    (FullText.sameEvents_answer params).onPart fun hsame => hsame
  unfold callHandler
  dsimp only
  rcases hrun : (act (FullText.answer params)).perform talk with ⟨failure | answer, after⟩
  · rw [Step.perform_bind_error hrun]
    exact hevents.ends hrun
  · have hanswer : ((FullText.answer params).perform talk.world).1 = .ok answer :=
      congrArg Prod.fst hrun
    obtain rfl : answer = none := (FullText.eq_asked?_of_ok (Prod.ext hanswer rfl)).trans h
    rw [Step.perform_bind_ok hrun]
    exact hevents.ends hrun

/-- A report of a failure is a record at most. -/
theorem sameEvents_deliver (message : Json) (talk : Talk) :
    Talk.SameEvents ((handle message).perform talk).2 ((deliver message).perform talk).2 := by
  unfold deliver
  rw [Step.perform_bind_ok (Step.perform_attempt _ _)]
  split
  · exact rfl
  · exact Leads.bind (quiet_sameEvents.log _ _ _).attempt (fun _ => .pure _) _

/-- A request for a whole text is handled by the handler that is registered for it. -/
theorem sameEvents_deliver_fullText {key : Nat}
    (hbridge : Assoc.get? DocumentStore.fullTextRequest talk.session.client.handlers =
      some ⟨key, .fullText⟩) (params : Json) :
    Talk.SameEvents ((callHandler ⟨key, .fullText⟩ params).perform talk).2
      ((deliver (Client.notification DocumentStore.fullTextRequest params)).perform talk).2 := by
  have hreact : talk.session.client.react talk.world.desk.machine.cwd
      (Client.notification DocumentStore.fullTextRequest params) =
        .ok (.call ⟨key, .fullText⟩ params) := by
    show talk.session.client.reactToNotification (.str DocumentStore.fullTextRequest) params = _
    rw [Client.reactToNotification, Client.handlerFor, hbridge]
    rfl
  have hhandled :=
    sameEvents_deliver (Client.notification DocumentStore.fullTextRequest params) talk
  rwa [perform_handle, hreact, Step.perform_bind_ok (Step.perform_ofExcept _ _)] at hhandled

end Dialog

/-! ### Runs -/

/-- What happens around the open documents of a session. -/
inductive Happening where
  /-- A document is opened from a text. -/
  | opens (document : Document)
  /-- The document of a file is opened. -/
  | opensFile (path : String)
  /-- A document gets a new text. -/
  | updates (uri text : String)
  /-- A document is closed. -/
  | closes (uri : String)
  /-- The session handles a message of the server. -/
  | receives (message : Json)
  /-- Time passes, and other programs change files. -/
  | meanwhile (machine : Machine)

namespace Happening

open DocumentStore (Change Recounts Current)

/-- Let an operation on the open documents change them; if it fails they stay as they are. -/
def storing (operation : World → Except Failure (Document × DocumentStore)) : Act Unit := do
  let (_, documents) ← Step.ofExcept (operation (← get))
  modify fun world => { world with documents }

/-- What happens, as a step of the session. -/
def dialog : Happening → Dialog Unit
  | opens document =>
    Dialog.act (storing fun world => .ok (document, world.documents.add document))
  | opensFile path =>
    Dialog.act (storing fun world => world.documents.openFile world.desk.machine path)
  | updates uri text => Dialog.act (storing fun world => world.documents.update uri text)
  | closes uri =>
    Dialog.act (modify fun world => { world with documents := world.documents.close uri })
  | receives message => Dialog.deliver message
  | meanwhile machine => Dialog.act (Act.modifyDesk fun desk => { desk with machine })

/-- How the open documents are changed in a world, if they are. -/
def change? (world : World) : Happening → Option Change
  | opens document => some (.opened document)
  | opensFile path =>
    (world.documents.openFile world.desk.machine path).toOption.map fun result => .opened result.1
  | updates uri text =>
    (world.documents.update uri text).toOption.map fun _ => .updated uri text
  | closes uri => some (.closed uri)
  | receives _ => none
  | meanwhile _ => none

/-- An operation on the open documents that fails changes nothing. -/
theorem perform_storing (operation : World → Except Failure (Document × DocumentStore))
    (talk : Talk) :
    (Dialog.act (storing operation)).perform talk =
      match operation talk.world with
      | .ok (_, documents) => (.ok (), { talk with world := { talk.world with documents } })
      | .error failure => (.error failure, talk) := by
  unfold storing
  rw [Dialog.act, Step.perform_onPart, Step.perform_get_bind]
  cases operation talk.world <;> rfl

theorem storing_fails {operation : World → Except Failure (Document × DocumentStore)}
    {talk : Talk} {failure : Failure}
    (h : ((Dialog.act (storing operation)).perform talk).1 = .error failure) :
    ((Dialog.act (storing operation)).perform talk).2 = talk := by
  rw [perform_storing] at h ⊢
  cases hoperation : operation talk.world with
  | error other => rfl
  | ok result =>
    rw [hoperation] at h
    cases h

/-- Whatever happens, it changes nothing if it fails. -/
theorem unchanged_of_error {happening : Happening} {talk : Talk} {failure : Failure}
    (h : (happening.dialog.perform talk).1 = .error failure) :
    (happening.dialog.perform talk).2 = talk := by
  cases happening with
  | opens document => exact storing_fails h
  | opensFile path => exact storing_fails h
  | updates uri text => exact storing_fails h
  | closes uri => cases h
  | meanwhile machine => cases h
  | receives message =>
    obtain ⟨value, hvalue⟩ := Dialog.discipline_total.deliver (.attempt _) talk
    exact absurd (hvalue.symm.trans h) nofun

/-- The open documents follow whatever happens. -/
theorem recounts {talk : Talk} {changes : List Change}
    (h : Recounts talk.world.documents changes) (happening : Happening) :
    Recounts (happening.dialog.perform talk).2.world.documents
      (changes ++ (happening.change? talk.world).toList) := by
  cases happening with
  | opens document => exact h.add document
  | closes uri => exact h.close uri
  | opensFile path =>
    rw [dialog, perform_storing, change?]
    cases hopen : talk.world.documents.openFile talk.world.desk.machine path with
    | error failure =>
      show Recounts talk.world.documents (changes ++ [])
      rwa [List.append_nil]
    | ok result =>
      obtain ⟨-, hadded⟩ := DocumentStore.openFile_eq_ok_iff.1 hopen
      dsimp only
      rw [hadded]
      exact h.add result.1
  | updates uri text =>
    rw [dialog, perform_storing, change?]
    cases hupdate : talk.world.documents.update uri text with
    | error failure =>
      show Recounts talk.world.documents (changes ++ [])
      rwa [List.append_nil]
    | ok result => exact h.update hupdate
  -- a message from the server is answered from the documents, and changes none of them
  | receives message =>
    have hsame : ((Dialog.deliver message).perform talk).2.world.documents =
        talk.world.documents := (Dialog.handles_hosts.deliver message talk).documents
    rw [dialog, hsame, change?, Option.toList_none, List.append_nil]
    exact h
  | meanwhile machine =>
    rw [change?, Option.toList_none, List.append_nil]
    exact h

/-- Whatever happens, the session keeps its connection and its handlers. -/
theorem keeps (happening : Happening) (talk : Talk) :
    (happening.dialog.perform talk).2.session.client.connected = talk.session.client.connected ∧
      (happening.dialog.perform talk).2.session.client.handlers =
        talk.session.client.handlers := by
  have hact : ∀ step : Act Unit, ((Dialog.act step).perform talk).2.session = talk.session :=
    fun _ => rfl
  have hsame : ∀ step : Act Unit, happening.dialog = Dialog.act step →
      (happening.dialog.perform talk).2.session = talk.session := by
    intro step hdialog
    rw [hdialog, hact]
  cases happening with
  | receives message =>
    have hhosts := Dialog.handles_hosts.deliver message talk
    exact ⟨hhosts.connected, hhosts.handlers⟩
  | _ => rw [hsame _ rfl]; exact ⟨rfl, rfl⟩

end Happening

namespace Talk

open DocumentStore (Change Recounts Current)

/-- A session after some things have happened, each of which may have failed. -/
def through (talk : Talk) (happenings : List Happening) : Talk :=
  happenings.foldl (fun talk happening => (happening.dialog.perform talk).2) talk

/-- The changes of the open documents on the way. -/
def changes (talk : Talk) : List Happening → List Change
  | [] => []
  | happening :: rest =>
    (happening.change? talk.world).toList ++ (happening.dialog.perform talk).2.changes rest

/-- The open documents follow a whole run. -/
theorem recounts_through {talk : Talk} {earlier : List Change}
    (h : Recounts talk.world.documents earlier) (happenings : List Happening) :
    Recounts (talk.through happenings).world.documents (earlier ++ talk.changes happenings) := by
  induction happenings generalizing talk earlier with
  | nil => rwa [changes, List.append_nil]
  | cons happening rest ih =>
    rw [changes, ← List.append_assoc]
    exact ih (happening.recounts h)

theorem keeps_through (talk : Talk) (happenings : List Happening) :
    (talk.through happenings).session.client.connected = talk.session.client.connected ∧
      (talk.through happenings).session.client.handlers = talk.session.client.handlers := by
  induction happenings generalizing talk with
  | nil => exact ⟨rfl, rfl⟩
  | cons happening rest ih =>
    obtain ⟨hconnected, hhandlers⟩ := happening.keeps talk
    obtain ⟨hlater, hlater'⟩ := ih (happening.dialog.perform talk).2
    exact ⟨hlater.trans hconnected, hlater'.trans hhandlers⟩

/-- In a session that begins without open documents, whatever happens around them, the history
alone tells what is open: the document that was opened last under a URI, if it was not closed since,
with the text it was given last and a version that counts the updates. A request for a whole text is
answered by one message with this text if it names an open document, and by none else. What fails
changes nothing. -/
theorem fullText_recounted {talk : Talk} (hempty : talk.world.documents = {})
    (hconnected : talk.session.client.connected = true) {key : Nat}
    (hbridge : Assoc.get? DocumentStore.fullTextRequest talk.session.client.handlers =
      some ⟨key, .fullText⟩) (happenings : List Happening) :
    let before : Talk := talk.through happenings
    let changes : List Change := talk.changes happenings
    (∀ uri document,
      before.world.documents.get? uri = some document ↔ Current changes uri document) ∧
    (∀ params,
      let after : Talk := ((Happening.receives (Client.notification DocumentStore.fullTextRequest
        params)).dialog.perform before).2
      (before.world.Dated → ∀ uri document, params = .str uri → Current changes uri document →
        after.world.events =
          before.world.events ++ [Event.sent (Client.wholeText uri document.text)]) ∧
      ((∀ uri document, params = .str uri → ¬ Current changes uri document) →
        after.world.events = before.world.events)) ∧
    ∀ (happening : Happening) (failure : Failure),
      (happening.dialog.perform before).1 = .error failure →
        (happening.dialog.perform before).2 = before := by
  intro before changes
  -- the history tells which documents are open after any run, by induction on the run
  have hrecounts : Recounts before.world.documents changes := by
    have hstart : Recounts talk.world.documents [] := by
      rw [hempty]
      exact DocumentStore.recounts_empty
    exact recounts_through hstart happenings
  -- the session keeps its connection and its handlers, so the bridge answers at any later moment
  obtain ⟨hkept, hhandlers⟩ := talk.keeps_through happenings
  have hhandled :=
    Dialog.sameEvents_deliver_fullText ((congrArg (Assoc.get? _) hhandlers).trans hbridge)
  refine ⟨hrecounts, fun params => ⟨?_, fun hnone => ?_⟩, fun happening failure hfails => ?_⟩
  · rintro hdated uri document rfl hcurrent
    obtain ⟨answer, hasked, hcarries⟩ :=
      DocumentStore.asked?_open ((hrecounts uri document).2 hcurrent)
    rw [← hcarries]
    exact (hhandled (.str uri)).trans
      (Dialog.events_callHandler_asked (hkept.trans hconnected) hdated hasked key)
  · have hasked : before.world.documents.asked? params = none :=
      DocumentStore.asked?_eq_none fun uri document hparams hget =>
        hnone uri document hparams ((hrecounts uri document).1 hget)
    exact (hhandled params).trans (Dialog.sameEvents_callHandler_unasked hasked key)
  · exact Happening.unchanged_of_error hfails

/-- A document is opened, a file that is missing cannot be; a change of a document that is not open
fails, another one succeeds. -/
def revision : List Happening :=
  [.opens ⟨"file:///a.jl", "julia", 3, "x"⟩, .opensFile "/missing.jl",
    .updates "file:///b.jl" "z", .updates "file:///a.jl" "y", .closes "file:///c.jl"]

/-- In the end the document has the next version, and the server is sent its new text. -/
theorem fullText_recounted_revision :
    Dialog.attentive.world.documents = {} ∧
      Dialog.attentive.session.client.connected = true ∧
      Assoc.get? DocumentStore.fullTextRequest Dialog.attentive.session.client.handlers =
        some ⟨0, .fullText⟩ ∧
      (Dialog.attentive.through revision).world.Dated ∧
      (Dialog.attentive.through revision).world.documents.get? "file:///a.jl" =
        some ⟨"file:///a.jl", "julia", 4, "y"⟩ ∧
      ((Happening.receives (Client.notification DocumentStore.fullTextRequest
          (.str "file:///a.jl"))).dialog.perform
            (Dialog.attentive.through revision)).2.world.events =
        (Dialog.attentive.through revision).world.events ++
          [.sent (Client.wholeText "file:///a.jl" "y")] := by
  have hempty : Dialog.attentive.world.documents = {} :=
    DocumentStore.eq_empty (by decide +kernel)
  have hconnected : Dialog.attentive.session.client.connected = true := by decide +kernel
  have hbridge : Assoc.get? DocumentStore.fullTextRequest
      Dialog.attentive.session.client.handlers = some ⟨0, .fullText⟩ := by decide +kernel
  have hdated : (Dialog.attentive.through revision).world.Dated := by decide +kernel
  have hopen : (Dialog.attentive.through revision).world.documents.get? "file:///a.jl" =
      some ⟨"file:///a.jl", "julia", 4, "y"⟩ := by decide +kernel
  obtain ⟨hcurrent, hanswers, -⟩ := fullText_recounted hempty hconnected hbridge revision
  have hnamed := (hcurrent "file:///a.jl" ⟨"file:///a.jl", "julia", 4, "y"⟩).1 hopen
  have hsent := (hanswers (.str "file:///a.jl")).1 hdated "file:///a.jl" _ rfl hnamed
  exact ⟨hempty, hconnected, hbridge, hdated, hopen, hsent⟩

end Talk

end JuliaSession
