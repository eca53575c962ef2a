import JuliaSession.Supervisor
import JuliaSession.Proofs.Client.Bookkeeping
import JuliaSession.Proofs.Client.Pushing
import JuliaSession.Proofs.Client.Replies
import JuliaSession.Proofs.Config.Sections
import JuliaSession.Proofs.Supervisor.Lifetimes

/-!
# What the server learns of the settings

The server of a session gets the Julia section of the settings three times over: as a whole with the
first request, in parts with the settings that are pushed, and value by value where it asks for it
by dotted names.

* `Dialog.sent_start`: what a start writes to the process that it has launched, whatever becomes of
  the start.
* `Dialog.perform_deliver_inquiry`: how a request for settings is answered.
* `Supervisor.learns_alike`: whichever way the server learns of a setting, it is the same.
-/

namespace JuliaSession

open Config (JuliaSettings Settings)
open Step (Leads)

/-! ### The start of a session -/

namespace Client

/-- What a start writes to the process that it has launched: the first request with its parameters,
answers to what the server asks meanwhile, and, if the handshake ends well, the first notification
and the settings that are pushed, with answers after them. -/
inductive Greeting (number : Nat) (params : Json) (tree : Json.Members) : List Json → Prop where
  /-- The start fails before it has written anything. -/
  | silent : Greeting number params tree []
  /-- The handshake fails. -/
  | refused {answers : List Json} (hanswers : ∀ message ∈ answers, Automatic message) :
    Greeting number params tree (requestMessage number "initialize" params :: answers)
  /-- The settings are pushed. -/
  | pushed {answers later : List Json} (hanswers : ∀ message ∈ answers, Automatic message)
    (hlater : ∀ message ∈ later, Automatic message) :
    Greeting number params tree (requestMessage number "initialize" params :: answers ++
      notification "initialized" (.obj []) :: settingsPush tree :: later)

end Client

/-- Nothing was written to the server in between. -/
def Talk.SameSent (before after : Talk) : Prop := after.world.sent = before.world.sent

instance : Std.Refl Talk.SameSent := ⟨fun _ => rfl⟩

instance : Trans Talk.SameSent Talk.SameSent Talk.SameSent := ⟨fun h h' => h'.trans h⟩

namespace Dialog

open Talk (Answers SameSent)

variable {α : Type}

theorem sameSent_onDesk (step : Desk → Except Failure α × Desk) :
    Leads SameSent (act (Act.onDesk step)) :=
  (Act.sameEvents_onDesk step).onPart fun hsame => hsame.sent

theorem sameSent_kill : Leads SameSent kill := sent_kill

/-- A handshake writes the first request, and nothing but answers after it, unless it fails at
once. -/
theorem sent_shakeHands {talk : Talk} (hconnected : talk.session.client.connected = true) :
    ((∃ failure, (shakeHands.perform talk).1 = .error failure) ∧
        (shakeHands.perform talk).2.world.sent = talk.world.sent) ∨
      ∃ cwd answers, (∀ message ∈ answers, Client.Automatic message) ∧
        (shakeHands.perform talk).2.world.sent = talk.world.sent ++
          Client.requestMessage (talk.session.client.lastId + 1) "initialize"
            (talk.session.client.handshakeParams 0 cwd) :: answers := by
  have hfields : (fields []).perform talk =
      (.ok [("client_id", Log.text talk.session.client.id)], talk) := rfl
  unfold shakeHands
  rw [Step.perform_bind_ok hfields]
  cases htimer : (act (Act.startTimer "lsp.client" "initialize"
      [("client_id", Log.text talk.session.client.id)])).perform talk with
  | mk result timed =>
    have hsession : timed.session = talk.session := (sameSession_act _).ends htimer
    have hstill : timed.world.sent = talk.world.sent := (sameSent_onDesk _).ends htimer
    cases result with
    | error failure =>
      rw [Step.perform_bind_error htimer]
      exact .inl ⟨⟨failure, rfl⟩, hstill⟩
    | ok timer =>
      obtain ⟨answers, hanswers, hwritten⟩ := sent_request (hsession ▸ hconnected) "initialize"
        (timed.session.client.handshakeParams 0 timed.world.desk.machine.cwd) none
      rw [hstill, hsession] at hwritten
      rw [Step.perform_bind_ok htimer, Step.perform_bind_ok (perform_client timed),
        Step.perform_bind_ok (perform_cwd timed), hsession]
      refine .inr ⟨timed.world.desk.machine.cwd, answers, hanswers, ?_⟩
      let asks (after : Talk) : Prop := after.world.sent = talk.world.sent ++
        Client.requestMessage (talk.session.client.lastId + 1) "initialize"
          (talk.session.client.handshakeParams 0 timed.world.desk.machine.cwd) :: answers
      refine (Step.holds_bind (hwritten : asks _) fun id asked hasked => ?_ : asks _)
      -- whatever the outcome of the request is, nothing is written because of it
      refine Eq.trans ((?_ : Leads SameSent _) asked) hasked
      refine .bind (fun _ => rfl) fun outcome => ?_
      refine .bind (sameSent_onDesk _) fun _ => .bind leads_client fun _ => ?_
      dsimp only
      split
      · exact .bind sameSent_kill fun _ => .throw _
      · exact .bind sameSent_kill fun _ => .throw _
      · exact fun _ => rfl

theorem steady_of_shakeHands_ok {talk greeted : Talk}
    (h : shakeHands.perform talk = (.ok (), greeted)) : talk.Steady greeted := by
  have hends := ends_shakeHands talk
  rw [h] at hends
  cases hends with
  | well hsteady => exact hsteady

/-- A start greets the process that it has launched. If it ends well, it has pushed the settings. -/
theorem sent_start {talk : Talk} {tree : Json.Members}
    (hsections : talk.session.client.options.configurationSections ≠ [])
    (htree : Pushed.tree talk.session.client.options.setting
      talk.session.client.options.configurationSections = .ok tree)
    (hidle : talk.session.running = false) {peer : Peer} {world : World}
    (hlaunch : talk.Launches (.ok peer) world) :
    ∃ cwd written, Client.Greeting (talk.session.client.lastId + 1)
        (talk.session.client.handshakeParams 0 cwd) tree written ∧
      (start.perform talk).2.world.sent = world.sent ++ written ∧
      ((start.perform talk).1 = .ok () → Client.settingsPush tree ∈ written) := by
  rw [perform_start_launched hidle hlaunch]
  split
  · have hjoined : (talk.joined peer world).session.client.connected = true := rfl
    have hgreets := sent_shakeHands hjoined
    -- a handshake that fails ends the greeting, and one that ends well is followed by the settings
    cases hgreet : shakeHands.perform (talk.joined peer world) with
    | mk result greeted =>
      rw [hgreet] at hgreets
      cases result with
      | error failure =>
        rw [Step.perform_bind_error hgreet]
        rcases hgreets with ⟨-, hsilent⟩ | ⟨cwd, answers, hanswers, hasked⟩
        · exact ⟨"", [], .silent, hsilent.trans (List.append_nil _).symm, nofun⟩
        · exact ⟨cwd, _, .refused hanswers, hasked, nofun⟩
      | ok =>
        obtain ⟨⟨_, ⟨⟩⟩, -⟩ | ⟨cwd, answers, hanswers, hasked⟩ := hgreets
        -- the handshake has changed neither the connection nor the options
        have hconnected : greeted.session.client.connected = true :=
          (sameDocuments_shakeHands _ _ _ hgreet).connected
        have hoptions : greeted.session.client.options = talk.session.client.options :=
          (steady_of_shakeHands_ok hgreet).options
        rw [← hoptions] at hsections htree
        have hpushed : greeted.session.client.pushed =
            .ok (some (Client.settingsPush tree)).toList :=
          Client.pushed_eq hconnected hsections htree
        obtain ⟨later, hlater, htold⟩ := sent_begin hconnected hpushed
        rw [Step.perform_bind_ok hgreet]
        refine ⟨cwd, _, .pushed hanswers hlater, ?_, fun _ => by simp⟩
        rw [htold, hasked, List.append_assoc]
        rfl
  · -- a process without streams is told nothing
    obtain ⟨_, hkill⟩ := total_kill.exists_run (talk.launched peer world)
    rw [Step.perform_bind_ok hkill, Step.perform_bind_ok (perform_client _)]
    exact ⟨"", [], .silent, (sent_kill _).trans (List.append_nil _).symm, nofun⟩

/-! ### Requests for settings -/

end Dialog

namespace Client

/-- A message by which the server asks for the settings of some names. -/
structure Inquires (message : Json.Members) (id : Json) (names : List String) : Prop where
  /-- The method. -/
  method : Assoc.get? "method" message = some (.str "workspace/configuration")
  /-- The id of the request. -/
  id : Assoc.get? "id" message = some id
  /-- The names. -/
  names : AsksFor (Json.member "params" message) names

end Client

namespace Dialog

/-- A request for settings is answered by the values of the names in order. -/
theorem perform_deliver_inquiry {talk : Talk} {lookup : String → Json}
    (hconnected : talk.session.client.connected = true)
    (hsettings : talk.session.client.options.settings = some lookup) {message : Json.Members}
    {id : Json} {names : List String} (h : Client.Inquires message id names) :
    ∃ after, (deliver (.obj message)).perform talk = (.ok (), after) ∧
      after.world.events =
        talk.world.events ++ [.sent (Client.response id (.arr (names.map lookup)))] := by
  let reply := Client.response id (.arr (names.map lookup))
  let after := ((send (talk.session.client.posted reply)).perform talk).2
  obtain ⟨_, hsent⟩ := (discipline_total.send (talk.session.client.posted reply)).exists_run talk
  have hhandle : (handle (.obj message)).perform talk = (.ok (), after) := by
    rw [perform_handle_request h.method h.id,
      (Client.reactToRequest_configuration _ _ hsettings).2 ⟨names, h.names, rfl⟩]
    exact hsent
  refine ⟨after, ?_, events_posted hconnected reply⟩
  unfold deliver
  rw [Step.perform_bind_ok (Step.perform_attempt _ _), hhandle]
  rfl

end Dialog

/-! ### The settings of a supervisor -/

/-- Whatever is done with a session, its options stay the same. -/
theorem Talk.options_after (talk : Talk) (uses : List Use) :
    (talk.after uses).session.client.options = talk.session.client.options := by
  induction uses using List.reverseRecOn with
  | nil => rfl
  | append_singleton uses use ih =>
    rw [after_concat, ← ih]
    by_cases hup : use = .start
    · subst hup
      exact (clears_start _).options
    by_cases hdown : use = .stop
    · subst hdown
      exact (clears_stop _).options
    exact (attends_use hup hdown _).options

namespace Client

/-- The settings that are sent with the first request are those of the options. -/
theorem reach_handshakeParams (client : Client) (processId : Int) (cwd : String)
    (path : List String) :
    Json.reach ("initializationOptions" :: path) (client.handshakeParams processId cwd) =
      Json.reach path (.obj client.options.initializationOptions) := by
  unfold handshakeParams
  rw [Json.reach_cons]
  rfl

end Client

namespace Supervisor

/-- The settings that are pushed fit together, and each stands where its name says. -/
theorem exists_tree (lookup : String → Json) :
    ∃ tree, Pushed.tree lookup pushedSections = .ok tree ∧
      ∀ name ∈ pushedSections,
        Json.follow? (Pushed.path name) (.obj tree) = some (lookup name) := by
  have hlint : Pushed.path "julia.lint" = ["julia", "lint"] := by decide
  have hformat : Pushed.path "julia.format" = ["julia", "format"] := by decide
  refine ⟨[("julia", .obj [("lint", lookup "julia.lint"), ("format", lookup "julia.format")])],
    rfl, fun name hname => ?_⟩
  rcases List.mem_pair.1 hname with rfl | rfl
  · rw [hlint]
    rfl
  · rw [hformat]
    rfl

/-- Whichever way the server learns of the settings, they are the same. Let a session start by the
options of a supervisor whose settings were read, whatever becomes of the start. Then the path of a
name below the Julia section leads to one value in the first request and, for a name that is pushed,
in the settings that are pushed, and a request for the name is answered by this value at any moment
of a session with these options, which a session never changes (`Talk.options_after`). -/
theorem learns_alike {supervisor : Supervisor} {members : Json.Members}
    (hkeys : (Assoc.keys members).Nodup)
    (hread : JuliaSettings.read (.obj members) = .ok supervisor.settings)
    {talk : Talk} (hoptions : talk.session.client.options = supervisor.clientOptions)
    (hidle : talk.session.running = false) {peer : Peer} {world : World}
    (hlaunch : talk.Launches (.ok peer) world) :
    ∃ params tree written,
      Client.Greeting (talk.session.client.lastId + 1) params tree written ∧
      (Dialog.start.perform talk).2.world.sent = world.sent ++ written ∧
      ((Dialog.start.perform talk).1 = .ok () → Client.settingsPush tree ∈ written) ∧
      ∀ name key path, Pushed.path name = "julia" :: key :: path →
        let value := params.reach ("initializationOptions" :: key :: path)
        (name ∈ supervisor.clientOptions.configurationSections →
          Json.follow? ("julia" :: key :: path) (.obj tree) = some value) ∧
        ∀ (moment : Talk) (message : Json.Members) (id : Json) (names : List String),
          moment.session.client.options = supervisor.clientOptions →
          moment.session.client.connected = true → Client.Inquires message id names →
          ∃ after values, (Dialog.deliver (.obj message)).perform moment = (.ok (), after) ∧
            after.world.events = moment.world.events ++ [.sent (Client.response id (.arr values))] ∧
            values.length = names.length ∧
            ∀ i : Nat, names[i]? = some name → values[i]? = some value := by
  let lookup := Settings.valueAt { julia := supervisor.settings }
  obtain ⟨tree, htree, hplaced⟩ := exists_tree lookup
  have hsections : talk.session.client.options.configurationSections ≠ [] := by
    rw [hoptions]
    exact List.cons_ne_nil _ _
  have hfits : Pushed.tree talk.session.client.options.setting
      talk.session.client.options.configurationSections = .ok tree := by
    rw [hoptions]
    exact htree
  obtain ⟨cwd, written, hgreeting, hsent, hwell⟩ :=
    Dialog.sent_start hsections hfits hidle hlaunch
  refine ⟨_, tree, written, hgreeting, hsent, hwell, fun name key path hname => ?_⟩
  -- both the first request and the settings that are pushed look the name up in the same settings
  have hvalue : Json.reach ("initializationOptions" :: key :: path)
      (talk.session.client.handshakeParams 0 cwd) = lookup name := by
    rw [Client.reach_handshakeParams, hoptions]
    exact (Settings.valueAt_julia (JuliaSettings.nodup_dump hkeys hread) hname).symm
  dsimp only
  rw [hvalue]
  constructor
  · intro hpushed
    rw [← hname]
    exact hplaced name hpushed
  · intro moment message id names hmoment hconnected hinquires
    have hsettings : moment.session.client.options.settings = some lookup := by
      rw [hmoment]
      rfl
    obtain ⟨after, hrun, hevents⟩ :=
      Dialog.perform_deliver_inquiry hconnected hsettings hinquires
    refine ⟨after, names.map lookup, hrun, hevents, List.length_map _, fun i hi => ?_⟩
    rw [List.getElem?_map, hi]
    rfl

/-- Settings with other keys, and with null at the top and further down. -/
def sparse : JuliaSettings where
  lint := [("run", .null), ("call", .bool false)]
  extra := [("theme", .null), ("server", .obj [("threads", .null), ("workers", .int 2)])]

/-- A supervisor with these settings. -/
def sparing : Supervisor := { simple with settings := sparse }

/-- A session of this supervisor that was not started yet. -/
def fresh : Talk :=
  ⟨default,
    { client := { id := "julia", name := "Julia", options := sparing.clientOptions }
      server := default
      launch := Peer.pretend (.ok { engine := .rehearsed [] }) }⟩

/-- After the start the server asks for a setting under another key, and gets the value that it got
with the first request. -/
theorem fresh_learns_alike :
    let message : Json.Members := [("id", .int 7), ("method", .str "workspace/configuration"),
      ("params", .obj [("items", .arr [.obj [("section", .str "julia.server.workers")]])])]
    ∃ params tree written after, Client.Greeting 1 params tree written ∧
      (fresh.after [.start]).world.sent = written ∧ Client.settingsPush tree ∈ written ∧
      Json.follow? ["julia", "lint"] (.obj tree) =
        some (params.reach ["initializationOptions", "lint"]) ∧
      (Dialog.deliver (.obj message)).perform (fresh.after [.start]) = (.ok (), after) ∧
      after.world.events = (fresh.after [.start]).world.events ++ [.sent (Client.response (.int 7)
        (.arr [params.reach ["initializationOptions", "server", "workers"]]))] := by
  intro message
  have hread : JuliaSettings.read (.obj [("lint", .obj sparse.lint), ("theme", .null),
      ("server", .obj [("threads", .null), ("workers", .int 2)])]) = .ok sparing.settings := rfl
  have hoptions : fresh.session.client.options = sparing.clientOptions := rfl
  have hlaunch : fresh.Launches (.ok { engine := .rehearsed [] })
      { (default : World) with events := [.spawn [""] [] none] } := rfl
  have hnone : ({ (default : World) with events := [.spawn [""] [] none] }).sent = [] := rfl
  have hstart : (Dialog.start.perform fresh).1 = .ok () := by decide +kernel
  have hconnected : (fresh.after [.start]).session.client.connected = true := by decide +kernel
  obtain ⟨params, tree, written, hgreeting, hsent, hpushed, halike⟩ :=
    learns_alike (by decide) hread hoptions rfl hlaunch
  have hstarted : fresh.after [.start] = (Dialog.start.perform fresh).2 :=
    fresh.after_concat [] .start
  rw [hnone, List.nil_append, ← hstarted] at hsent
  have hlint := (halike "julia.lint" "lint" [] (by decide)).1 (by decide)
  -- the options are still those of the supervisor when the server asks
  obtain ⟨after, values, hrun, hevents, hlength, hvalues⟩ :=
    (halike "julia.server.workers" "server" ["workers"] (by decide)).2 (fresh.after [.start])
      message (.int 7) ["julia.server.workers"] (fresh.options_after [.start]) hconnected
      ⟨rfl, rfl, _, .listed rfl, .cons (.named rfl) .nil⟩
  obtain ⟨value, rfl⟩ := List.length_eq_one_iff.1 hlength
  cases hvalues 0 rfl
  exact ⟨params, tree, written, after, hgreeting, hsent, hpushed hstart, hlint, hrun, hevents⟩

end Supervisor

end JuliaSession
