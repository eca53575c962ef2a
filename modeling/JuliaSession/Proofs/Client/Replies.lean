import Mathlib.Data.List.Forall2
import JuliaSession.Proofs.Client.Responses
import JuliaSession.Proofs.Machine.Logging

/-!
# Replies to requests of the server

The server asks the client for settings, for the folders of the workspace and for things that the
client just acknowledges; every other request is refused. The parameters of a request for settings
come from another program and are walked by the client: what it can walk is said by
`Client.AsksFor`.

* `mapM_itemValue_eq_ok_iff`, `askedValues_eq_ok_iff`: the settings that a request asks for.
* `request_answered_iff`: a request of the server gets exactly one response unless it asks for
  settings by parameters that the client cannot walk; then it gets none.
-/

namespace JuliaSession

/-- A record of this severity can be written: it is below the least severity, or the time of day can
be written. -/
def Desk.Records (desk : Desk) (level : Log.Level) : Prop :=
  level.passes desk.log.level → desk.checkYear = .ok ()

theorem Desk.emit_eq_ok_iff (desk : Desk) (logger : Log.Logger) (level : Log.Level)
    (message : Log.Value) (extra : Log.Fields) :
    (desk.emit logger level message extra).1 = .ok () ↔ desk.Records level := by
  rw [emit_fst, Records]
  split_ifs with hpasses
  · exact ⟨fun h _ => h, fun h => h hpasses⟩
  · exact ⟨fun _ h => absurd h hpasses, fun _ => rfl⟩

namespace Client

/-! ### What the server asks for -/

/-- The items in the parameters of a request for settings. Empty parameters have none, nor have
those with an empty text or object in place of the items. -/
inductive Items : Json → List Json → Prop where
  /-- The parameters are empty. -/
  | blank {params : Json} (h : params.isTruthy = false) : Items params []
  /-- No items are given. -/
  | absent {params : Json.Members} (h : Assoc.get? "items" params = none) : Items (.obj params) []
  /-- Items are given. -/
  | listed {params : Json.Members} {items : List Json}
    (h : Assoc.get? "items" params = some (.arr items)) : Items (.obj params) items
  /-- An empty text is given. -/
  | text {params : Json.Members} (h : Assoc.get? "items" params = some (.str "")) :
    Items (.obj params) []
  /-- An empty object is given. -/
  | object {params : Json.Members} (h : Assoc.get? "items" params = some (.obj [])) :
    Items (.obj params) []

/-- The name that an item asks for. An item without a section asks for the empty name. -/
inductive Asks : Json → String → Prop where
  /-- The section is a text. -/
  | named {item : Json.Members} {name : String}
    (h : Assoc.get? "section" item = some (.str name)) : Asks (.obj item) name
  /-- There is no section. -/
  | unnamed {item : Json.Members} (h : Assoc.get? "section" item = none) : Asks (.obj item) ""

/-- The parameters of a request for settings ask for the settings of these names. -/
def AsksFor (params : Json) (names : List String) : Prop :=
  ∃ items, Items params items ∧ List.Forall₂ Asks items names

/-- What asks for something is an object. -/
theorem exists_obj_of_asks {items : List Json} {names : List String}
    (h : List.Forall₂ Asks items names) : ∀ item ∈ items, ∃ members, item = .obj members := by
  induction h with
  | nil => exact nofun
  | cons hasks _ ih =>
    intro item hitem
    rcases List.mem_cons.1 hitem with rfl | hitem
    · cases hasks <;> exact ⟨_, rfl⟩
    · exact ih item hitem

theorem requestedItems_of_items {params : Json} {items : List Json} (h : Items params items) :
    requestedItems params = .ok items := by
  cases h with
  | blank hblank => simp [requestedItems, hblank]
  | @absent members hgiven =>
    cases members with
    | nil => rfl
    | cons entry rest => simp [requestedItems, Json.isTruthy, hgiven]
  | @listed members _ hgiven | @text members hgiven | @object members hgiven =>
    -- there are members, so the parameters are not empty
    cases members with
    | nil => cases hgiven
    | cons entry rest => simp [requestedItems, Json.isTruthy, hgiven]

/-- Texts and objects in place of the items give texts, which ask for nothing. -/
theorem items_of_requestedItems {params : Json} {items : List Json}
    (h : requestedItems params = .ok items)
    (hobjects : ∀ item ∈ items, ∃ members, item = .obj members) : Items params items := by
  unfold requestedItems at h
  cases hblank : params.isTruthy with
  | false =>
    rw [hblank] at h
    cases h
    exact .blank hblank
  | true =>
    rw [hblank, if_pos rfl] at h
    cases params with
    | obj members =>
      dsimp only at h
      cases hgiven : Assoc.get? "items" members with
      | none =>
        rw [hgiven] at h
        cases h
        exact .absent hgiven
      | some given =>
        rw [hgiven, Option.getD_some] at h
        -- a text gives its characters and an object its keys, which are no objects: so there are
        -- none
        cases given with
        | arr =>
          cases h
          exact .listed hgiven
        | str text =>
          cases h
          cases htext : text.toList with
          | nil =>
            rw [String.toList_eq_nil_iff.1 htext] at hgiven
            exact .text hgiven
          | cons c rest =>
            rw [htext] at hobjects
            obtain ⟨members, hmembers⟩ := hobjects _ List.mem_cons_self
            cases hmembers
        | obj entries =>
          cases h
          cases entries with
          | nil => exact .object hgiven
          | cons entry rest =>
            obtain ⟨members, hmembers⟩ := hobjects _ List.mem_cons_self
            cases hmembers
        | null | bool | int | float => cases h
    | null | bool | int | float | str | arr => cases h

section Settings

variable {client : Client} {lookup : String → Json}
  (hsettings : client.options.settings = some lookup)
include hsettings

/-- The value of an item is that of the name that it asks for. -/
theorem itemValue_eq_ok_iff {item value : Json} :
    client.itemValue item = .ok value ↔ ∃ name, Asks item name ∧ value = lookup name := by
  have hsetting (name : String) : client.options.setting name = lookup name := by
    rw [ClientOptions.setting, hsettings]
  constructor
  · intro h
    cases item with
    | obj members =>
      simp only [itemValue, hsetting, hsettings] at h
      cases hsection : Assoc.get? "section" members with
      | none =>
        rw [hsection] at h
        cases h
        exact ⟨"", .unnamed hsection, rfl⟩
      | some asked =>
        rw [hsection] at h
        -- there are settings to look a name up in, so a name that is no text fails
        cases asked with
        | str name =>
          cases h
          exact ⟨name, .named hsection, rfl⟩
        | null | bool | int | float | arr | obj => cases h
    | null | bool | int | float | str | arr => cases h
  · rintro ⟨name, hasks, rfl⟩
    cases hasks with
    | named hsection | unnamed hsection => simp [itemValue, hsection, hsetting]

/-- The values of items are those of the names that they ask for, one by one. -/
theorem mapM_itemValue_eq_ok_iff {items values : List Json} :
    items.mapM client.itemValue = .ok values ↔
      ∃ names, List.Forall₂ Asks items names ∧ values = names.map lookup := by
  -- one item after the other: the first one that asks for nothing ends it
  induction items generalizing values with
  | nil =>
    rw [List.mapM_nil]
    constructor
    · rintro ⟨⟩
      exact ⟨[], .nil, rfl⟩
    · rintro ⟨_, ⟨⟩, rfl⟩
      rfl
  | cons item rest ih =>
    rw [List.mapM_cons]
    constructor
    · intro h
      obtain ⟨value, hvalue, h⟩ := bind_eq_ok_iff.1 h
      obtain ⟨others, hothers, h⟩ := bind_eq_ok_iff.1 h
      cases h
      obtain ⟨name, hasks, rfl⟩ := (itemValue_eq_ok_iff hsettings).1 hvalue
      obtain ⟨names, hnames, rfl⟩ := ih.1 hothers
      exact ⟨name :: names, .cons hasks hnames, rfl⟩
    · rintro ⟨_, _ | ⟨hasks, hnames⟩, rfl⟩
      refine bind_eq_ok_iff.2 ⟨_, (itemValue_eq_ok_iff hsettings).2 ⟨_, hasks, rfl⟩, ?_⟩
      exact bind_eq_ok_iff.2 ⟨_, ih.2 ⟨_, hnames, rfl⟩, rfl⟩

/-- The values that a request for settings asks for. -/
theorem askedValues_eq_ok_iff {params : Json} {values : List Json} :
    (requestedItems params >>= fun items => items.mapM client.itemValue) = .ok values ↔
      ∃ names, AsksFor params names ∧ values = names.map lookup := by
  constructor
  · intro h
    obtain ⟨items, hitems, hvalues⟩ := bind_eq_ok_iff.1 h
    obtain ⟨names, hnames, rfl⟩ := (mapM_itemValue_eq_ok_iff hsettings).1 hvalues
    exact ⟨names, ⟨items, items_of_requestedItems hitems (exists_obj_of_asks hnames), hnames⟩, rfl⟩
  · rintro ⟨names, ⟨items, hitems, hnames⟩, rfl⟩
    refine bind_eq_ok_iff.2 ⟨items, requestedItems_of_items hitems, ?_⟩
    exact (mapM_itemValue_eq_ok_iff hsettings).2 ⟨names, hnames, rfl⟩

end Settings

/-! ### What the server gets -/

/-- A request that the client does not refuse. -/
def Supported (method : Json) : Prop :=
  ∃ name, method = .str name ∧ (name = "workspace/configuration" ∨
    name = "workspace/workspaceFolders" ∨ name ∈ acknowledged)

/-- The response to a request of the server, for a client in the directory `cwd` with some
settings. -/
inductive Reply (client : Client) (cwd : String) (settings : Config.Settings)
    (id method params : Json) : Json → Prop where
  /-- The values of the settings that it asks for. -/
  | configuration {names : List String} (hmethod : method = .str "workspace/configuration")
    (hnames : AsksFor params names) :
    Reply client cwd settings id method params
      (response id (.arr (names.map settings.valueAt)))
  /-- The folders of the workspace. -/
  | folders (hmethod : method = .str "workspace/workspaceFolders") :
    Reply client cwd settings id method params
      (response id (workspaceFolders (Uri.ofPath .posix cwd client.options.root)))
  /-- Null, as an acknowledgement. -/
  | acknowledgement {name : String} (hmethod : method = .str name) (hname : name ∈ acknowledged) :
    Reply client cwd settings id method params (response id .null)
  /-- A refusal. -/
  | refusal (hmethod : ¬ Supported method) :
    Reply client cwd settings id method params (refusal id method)

/-- A message that responds to the request with some id: it carries the id, and either a result or
an error. -/
def Responds (id message : Json) : Prop :=
  ∃ members, message = .obj members ∧ Assoc.get? "id" members = some id ∧
    (Assoc.has "result" members ↔ ¬ Assoc.has "error" members)

theorem Reply.responds {client : Client} {cwd : String} {settings : Config.Settings}
    {id method params reply : Json} (h : Reply client cwd settings id method params reply) :
    Responds id reply := by
  cases h with
  | configuration | folders | acknowledgement | refusal =>
    exact ⟨_, rfl, rfl, by simp [Assoc.has, Assoc.get?]⟩

/-! ### What a request leads to -/

section Reactions

variable (client : Client) (cwd : String) (id : Json)

/-- A request for settings is answered exactly if it asks for them by names. -/
theorem reactToRequest_configuration {client : Client} {lookup : String → Json}
    (hsettings : client.options.settings = some lookup) {params : Json} {reaction : Reaction} :
    client.reactToRequest cwd id (.str "workspace/configuration") params = .ok reaction ↔
      ∃ names, AsksFor params names ∧ reaction = .respond id (.arr (names.map lookup)) := by
  -- finding the items and looking them up is one step, which yields the values asked for
  have hbind : client.reactToRequest cwd id (.str "workspace/configuration") params =
      (requestedItems params >>= fun items => items.mapM client.itemValue) >>= fun values =>
        pure (.respond id (.arr values)) := (bind_assoc _ _ _).symm
  rw [hbind]
  constructor
  · intro h
    obtain ⟨values, hvalues, h⟩ := bind_eq_ok_iff.1 h
    cases h
    obtain ⟨names, hnames, rfl⟩ := (askedValues_eq_ok_iff hsettings).1 hvalues
    exact ⟨names, hnames, rfl⟩
  · rintro ⟨names, hnames, rfl⟩
    exact bind_eq_ok_iff.2 ⟨_, (askedValues_eq_ok_iff hsettings).2 ⟨names, hnames, rfl⟩, rfl⟩

theorem reactToRequest_acknowledged {name : String} (h : name ∈ acknowledged) (params : Json) :
    client.reactToRequest cwd id (.str name) params = .ok (.respond id .null) := by
  simp only [acknowledged, List.mem_cons, List.not_mem_nil, or_false] at h
  rcases h with rfl | rfl | rfl | rfl <;> rfl

theorem reactToRequest_refused {method : Json} (h : ¬ Supported method) (params : Json) :
    client.reactToRequest cwd id method params = .ok (.refuse id method) := by
  unfold reactToRequest
  split
  · exact absurd ⟨_, rfl, .inl rfl⟩ h
  · exact absurd ⟨_, rfl, .inr (.inl rfl)⟩ h
  · split
    next hname => exact absurd ⟨_, rfl, .inr (.inr hname)⟩ h
    next => rfl
  · rfl

end Reactions

end Client

namespace Dialog

/-- The client can respond to a request of the server: if it is asked for settings, it is asked for
them by names, and it can write down that it refuses a request. -/
structure Responsive (talk : Talk) (method params : Json) : Prop where
  /-- Settings are asked for by names. -/
  asked : method = .str "workspace/configuration" → ∃ names, Client.AsksFor params names
  /-- A refusal can be written down. -/
  recorded : ¬ Client.Supported method → talk.world.desk.Records .debug

section Request

variable {talk : Talk} {settings : Config.Settings} {message : Json.Members} {id method : Json}

/-- A message is written by a client that is connected. -/
theorem events_posted (hconnected : talk.session.client.connected = true) (message : Json) :
    ((send (talk.session.client.posted message)).perform talk).2.world.events =
      talk.world.events ++ [.sent message] := by
  rw [Client.posted, if_pos hconnected, events_send]

/-- A record is written or not, the session stays as it is. -/
theorem perform_log (level : Log.Level) (text : String) (more : Log.Fields) (talk : Talk) :
    ∃ desk, ((log level text more).perform talk).2 =
        { talk with world := { talk.world with desk } } ∧
      (((log level text more).perform talk).1 = .ok () ↔ talk.world.desk.Records level) := by
  have hrun : (log level text more).perform talk =
      (act (Act.log "lsp.client" level text
        (("client_id", Log.text talk.session.client.id) :: more))).perform talk := rfl
  rw [hrun, act, Step.perform_onPart, Act.log, perform_onDesk]
  exact ⟨_, rfl, Desk.emit_eq_ok_iff _ _ _ _ _⟩

/-- What a request of the server leads to is carried out, or handling it fails. -/
theorem perform_handle_request (hmethod : Assoc.get? "method" message = some method)
    (hid : Assoc.get? "id" message = some id) :
    (handle (.obj message)).perform talk =
      (Step.ofExcept (talk.session.client.reactToRequest talk.world.desk.machine.cwd id method
        (Json.member "params" message)) >>= carryOut).perform talk := by
  rw [perform_handle]
  simp only [Client.react, hmethod, hid]

/-- A refusal is written after the record of it, if that can be written. -/
theorem perform_refuse (hconnected : talk.session.client.connected = true) (id method : Json) :
    (talk.world.desk.Records .debug →
      ((carryOut (.refuse id method)).perform talk).2.world.events =
        talk.world.events ++ [.sent (Client.refusal id method)]) ∧
    (¬ talk.world.desk.Records .debug → ∃ failure,
      ((carryOut (.refuse id method)).perform talk).1 = .error failure ∧
      ((carryOut (.refuse id method)).perform talk).2.world.events = talk.world.events ∧
      ((carryOut (.refuse id method)).perform talk).2.session = talk.session) := by
  -- the record comes first, and nothing is written where it fails
  obtain ⟨desk, hafter, hresult⟩ :=
    perform_log .debug "unsupported server request" [("method", .json method)] talk
  unfold carryOut
  rw [Step.perform_bind]
  rcases hrun : (log .debug "unsupported server request" [("method", .json method)]).perform talk
    with ⟨result, after⟩
  rw [hrun] at hafter hresult
  obtain rfl : after = _ := hafter
  constructor
  · intro hrecords
    obtain rfl : result = .ok () := hresult.2 hrecords
    have hstill : ({ talk with world := { talk.world with desk } } :
        Talk).session.client.connected = true := hconnected
    exact events_posted hstill _
  · intro hnot
    cases result with
    | error failure => exact ⟨failure, rfl, rfl, rfl⟩
    | ok => exact absurd (hresult.1 rfl) hnot

variable (hconnected : talk.session.client.connected = true)
  (hsettings : talk.session.client.options.settings = some settings.valueAt)
  (hmethod : Assoc.get? "method" message = some method) (hid : Assoc.get? "id" message = some id)
include hconnected hsettings hmethod hid

/-- A client that can respond to a request writes one response to it. -/
theorem exists_reply (h : Responsive talk method (Json.member "params" message)) :
    ∃ reply, Client.Reply talk.session.client talk.world.desk.machine.cwd settings id method
        (Json.member "params" message) reply ∧
      ((handle (.obj message)).perform talk).2.world.events =
        talk.world.events ++ [.sent reply] := by
  rw [perform_handle_request hmethod hid]
  -- by the method: settings, folders and acknowledgements, and everything else is refused
  by_cases hsupported : Client.Supported method
  · obtain ⟨name, rfl, rfl | rfl | hname⟩ := hsupported
    · obtain ⟨names, hnames⟩ := h.asked rfl
      rw [(Client.reactToRequest_configuration _ _ hsettings).2 ⟨names, hnames, rfl⟩]
      exact ⟨_, .configuration rfl hnames, events_posted hconnected _⟩
    · exact ⟨_, .folders rfl, events_posted hconnected _⟩
    · rw [Client.reactToRequest_acknowledged _ _ _ hname]
      exact ⟨_, .acknowledgement rfl hname, events_posted hconnected _⟩
  · rw [Client.reactToRequest_refused _ _ _ hsupported]
    exact ⟨_, .refusal hsupported, (perform_refuse hconnected id method).1 (h.recorded hsupported)⟩

/-- A client that cannot respond to a request fails before it writes anything. -/
theorem fails_of_not_responsive (h : ¬ Responsive talk method (Json.member "params" message)) :
    ∃ failure, ((handle (.obj message)).perform talk).1 = .error failure ∧
      ((handle (.obj message)).perform talk).2.world.events = talk.world.events ∧
      ((handle (.obj message)).perform talk).2.session = talk.session := by
  rw [perform_handle_request hmethod hid]
  by_cases hsupported : Client.Supported method
  · -- only settings are asked for by parameters
    have hasked : ¬ (method = .str "workspace/configuration" →
        ∃ names, Client.AsksFor (Json.member "params" message) names) :=
      fun hasked => h ⟨hasked, absurd hsupported⟩
    obtain ⟨rfl, hnames⟩ := Classical.not_imp.1 hasked
    cases hreact : talk.session.client.reactToRequest talk.world.desk.machine.cwd id
        (.str "workspace/configuration") (Json.member "params" message) with
    | ok reaction =>
      obtain ⟨names, hasks, -⟩ := (Client.reactToRequest_configuration _ _ hsettings).1 hreact
      exact absurd ⟨names, hasks⟩ hnames
    | error failure =>
      rw [Step.perform_bind_error (Step.perform_ofExcept _ _)]
      exact ⟨failure, rfl, rfl, rfl⟩
  · rw [Client.reactToRequest_refused _ _ _ hsupported]
    refine (perform_refuse hconnected id method).2 fun hrecords => h ⟨?_, fun _ => hrecords⟩
    rintro rfl
    exact absurd ⟨_, rfl, .inl rfl⟩ hsupported

/-- A request of the server gets exactly one response, with the values that it asks for, an
acknowledgement or a refusal, if and only if it does not ask for settings other than by names and a
refusal can be written down. Otherwise handling it fails: nothing is written, and the session is as
it was. -/
theorem request_answered_iff :
    ((∃ reply, Client.Reply talk.session.client talk.world.desk.machine.cwd settings id method
          (Json.member "params" message) reply ∧ Client.Responds id reply ∧
        ((handle (.obj message)).perform talk).2.world.events =
          talk.world.events ++ [.sent reply]) ↔
      Responsive talk method (Json.member "params" message)) ∧
    (¬ Responsive talk method (Json.member "params" message) →
      ∃ failure, ((handle (.obj message)).perform talk).1 = .error failure ∧
        ((handle (.obj message)).perform talk).2.world.events = talk.world.events ∧
        ((handle (.obj message)).perform talk).2.session = talk.session) := by
  refine ⟨⟨?_, ?_⟩, fails_of_not_responsive hconnected hsettings hmethod hid⟩
  · rintro ⟨reply, -, -, hwritten⟩
    -- a client that cannot respond writes nothing, so no reply can have been written
    by_contra hnot
    obtain ⟨-, -, hnone, -⟩ := fails_of_not_responsive hconnected hsettings hmethod hid hnot
    rw [hnone, List.self_eq_append_right] at hwritten
    cases hwritten
  · intro hresponsive
    obtain ⟨reply, hreply, hwritten⟩ :=
      exists_reply hconnected hsettings hmethod hid hresponsive
    exact ⟨reply, hreply, hreply.responds, hwritten⟩

end Request

/-- A session with settings that is connected to its server. -/
def settled : Talk :=
  ⟨default,
    { client :=
        { id := "julia", name := "Julia", connected := true, ready := true,
          options := { root := "/", settings := some ({} : Config.Settings).valueAt } }
      server := default
      launch := Peer.pretend (.ok { engine := .rehearsed [] })
      peer := some { engine := .rehearsed [] }
      reader := some {} }⟩

/-- The server asks for settings by a section that is null: it gets no response. -/
theorem request_unanswered_section :
    let message : Json.Members := [("id", .int 7), ("method", .str "workspace/configuration"),
      ("params", .obj [("items", .arr [.obj [("section", .null)]])])]
    ((handle (.obj message)).perform settled).2.world.events = settled.world.events := by
  intro message
  have hunasked : ¬ ∃ names, Client.AsksFor (Json.member "params" message) names := by
    rintro ⟨names, items, hitems, hnames⟩
    have hobject : Client.requestedItems (Json.member "params" message) =
        .ok [.obj [("section", .null)]] := rfl
    obtain rfl := Except.ok.inj ((Client.requestedItems_of_items hitems).symm.trans hobject)
    -- the only item has a section, which is no name
    cases hnames with
    | cons hasks _ => rcases hasks with hsection | hsection <;> cases hsection
  have hunresponsive : ¬ Responsive settled (.str "workspace/configuration")
      (Json.member "params" message) := fun h => hunasked (h.asked rfl)
  have hmethod : Assoc.get? "method" message = some (.str "workspace/configuration") := rfl
  have hid : Assoc.get? "id" message = some (.int 7) := rfl
  obtain ⟨failure, -, hevents, -⟩ :=
    (request_answered_iff rfl rfl hmethod hid).2 hunresponsive
  exact hevents

end Dialog

end JuliaSession
