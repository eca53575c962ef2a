import JuliaSession.Proofs.Client.Placing
import JuliaSession.Proofs.Client.Stopping

/-!
# How settings are pushed

When a session begins, the settings with the names of its options are pushed to the server by one
notification, and by none if there are no names.

* `Client.pushed_eq`: what is pushed.
* `Dialog.sent_begin`: the beginning of a session writes what is pushed.
* `Talk.begin_pushes_settings`: the settings that are pushed are spread over a tree by their names.
-/

namespace JuliaSession

open Step (Leads)

namespace Client

/-- The notification that pushes settings. -/
def settingsPush (tree : Json.Members) : Json :=
  notification "workspace/didChangeConfiguration" (.obj [("settings", .obj tree)])

/-- The settings are pushed by one notification, if there are any. -/
theorem pushed_eq {client : Client} {tree : Json.Members} (hconnected : client.connected = true)
    (hsections : client.options.configurationSections ≠ [])
    (htree : Pushed.tree client.options.setting client.options.configurationSections = .ok tree) :
    client.pushed = .ok [settingsPush tree] := by
  unfold pushed
  rw [if_neg (mt List.isEmpty_iff.1 hsections), htree]
  exact congrArg Except.ok (if_pos hconnected)

/-- Without names nothing is pushed. -/
theorem pushed_of_no_sections {client : Client} (h : client.options.configurationSections = []) :
    client.pushed = .ok [] := by
  unfold pushed
  rw [h]
  rfl

end Client

namespace Dialog

open Talk (Answers)

/-- The first notification is written when a session begins, then what is pushed, and nothing but
answers after it. -/
theorem sent_begin {talk : Talk} {push? : Option Json}
    (hconnected : talk.session.client.connected = true)
    (hpushed : talk.session.client.pushed = .ok push?.toList) :
    ∃ later, (∀ message ∈ later, Client.Automatic message) ∧
      (begin.perform talk).2.world.sent = talk.world.sent ++
        Client.notification "initialized" (.obj []) :: (push?.toList ++ later) := by
  let told := ((notify "initialized" (.obj [])).perform talk).2
  obtain ⟨_, htold⟩ := (discipline_total.notify "initialized" (.obj [])).exists_run talk
  have hfirst : told.world.sent = _ := sent_notify hconnected "initialized" (.obj [])
  -- what is pushed depends on the options and the connection, which are as before
  have hstill : told.session.client.connected = talk.session.client.connected :=
    (even_notify "initialized" (.obj []) talk).connected
  have hoptions : told.session.client.options = talk.session.client.options :=
    (steady_notify "initialized" (.obj []) talk).options
  have hsame : told.session.client.pushed = .ok push?.toList := by
    rw [← hpushed]
    unfold Client.pushed Client.posted
    rw [hoptions, hstill]
  obtain ⟨_, hsent⟩ := (discipline_total.send push?.toList).exists_run told
  have hsecond : ((send push?.toList).perform told).2.world.sent = _ := sent_sendOption push? told
  have hrest : Leads Answers (exchange >>= fun _ =>
      modifyClient (fun client => { client with ready := true }) >>= fun _ =>
        log .info "language client ready" [("pid", Log.number Peer.processNumber)]) :=
    .bind reads_answers.exchange fun _ => .bind (fun _ => Talk.SameEvents.answers rfl) fun _ =>
      reads_answers.log _ _ _
  obtain ⟨later, hlater, hwritten⟩ := hrest ((send push?.toList).perform told).2
  refine ⟨later, hlater, ?_⟩
  unfold begin
  rw [Step.perform_bind_ok htold, Step.perform_bind_ok (perform_client told), hsame,
    Step.perform_bind_ok (Step.perform_ofExcept _ _), Step.perform_bind_ok hsent, hwritten,
    hsecond, hfirst, List.append_assoc, List.append_assoc]
  rfl

end Dialog

namespace Talk

/-- When a session begins whose options have names none of which is a proper dotted prefix of
another, the settings are pushed by one notification, and by none if there are no names. In what is
pushed each name leads to the value that is looked up for it, whatever it is, and every other key
above these values is on the way to one of them. Nothing else is written but the first notification
and answers. -/
theorem begin_pushes_settings {talk : Talk} (hconnected : talk.session.client.connected = true)
    (hindependent : Pushed.Independent talk.session.client.options.configurationSections) :
    let options := talk.session.client.options
    ∃ tree, Pushed.Spread options.setting options.configurationSections tree ∧
      let pushes := if options.configurationSections = [] then [] else
        [Client.notification "workspace/didChangeConfiguration" (.obj [("settings", .obj tree)])]
      talk.session.client.pushed = .ok pushes ∧
        ∃ later, (∀ message ∈ later, Client.Automatic message) ∧
          (Dialog.begin.perform talk).2.world.sent = talk.world.sent ++
            Client.notification "initialized" (.obj []) :: (pushes ++ later) := by
  intro options
  obtain ⟨tree, htree, hspread⟩ := Pushed.exists_spread_tree options.setting hindependent
  refine ⟨tree, hspread, ?_⟩
  -- without names nothing is pushed, and an empty tree would not be either
  by_cases hsections : options.configurationSections = []
  · rw [if_pos hsections]
    have hpushed : talk.session.client.pushed = .ok (none : Option Json).toList :=
      Client.pushed_of_no_sections hsections
    exact ⟨hpushed, Dialog.sent_begin hconnected hpushed⟩
  · rw [if_neg hsections]
    have hpushed : talk.session.client.pushed =
        .ok (some (Client.settingsPush tree)).toList :=
      Client.pushed_eq hconnected hsections htree
    exact ⟨hpushed, Dialog.sent_begin hconnected hpushed⟩

/-- A client with some names, of which two share a part of their paths and one is given twice. Some
value is an object. -/
def nestedClient : Client where
  id := "julia"
  name := "Julia"
  options :=
    { root := "/"
      configurationSections := ["a.b", "c", "a.d.e", "a.b"]
      settings := some fun name => if name = "c" then .obj [("x", .null)] else .str name }
  connected := true

/-- The values that are pushed stand where the names say, also inside an object that is a value. -/
theorem nested_pushes :
    let talk : Talk :=
      ⟨default,
        { client := nestedClient
          server := default
          launch := Peer.pretend (.ok { engine := .rehearsed [] }) }⟩
    ∃ tree later, Json.follow? ["c", "x"] (.obj tree) = some .null ∧
      Json.follow? ["a", "d", "e"] (.obj tree) = some (.str "a.d.e") ∧
      (∀ message ∈ later, Client.Automatic message) ∧
      (Dialog.begin.perform talk).2.world.sent =
        [Client.notification "initialized" (.obj []), Client.settingsPush tree] ++ later := by
  intro talk
  obtain ⟨tree, hspread, -, later, hlater, hsent⟩ :=
    @begin_pushes_settings talk rfl (by decide)
  have hvalue := hspread.value "c" (by decide)
  have hdeep := hspread.value "a.d.e" (by decide)
  refine ⟨tree, later, ?_, hdeep, hlater, hsent⟩
  -- the value of this name is an object itself
  have hpath : Pushed.path "c" = ["c"] := by decide
  rw [hpath] at hvalue
  rw [← List.singleton_append, Json.follow?_append, hvalue]
  rfl

end Talk

end JuliaSession
