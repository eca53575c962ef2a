import JuliaSession.Supervisor
import JuliaSession.Proofs.Client.Stopping
import JuliaSession.Proofs.Glob.Matching

/-!
# Which changes of files are forwarded

The client forwards the change of a file to the server if the path matches its glob. With the glob
of a supervisor these are the paths whose last name ends in `.jl` or `.jmd`, wherever the file is.

* `Watched`: the paths of Julia files and of documents with Julia code.
* `Client.fileEvent_watched`: what the client makes of a change.
* `Dialog.sent_forwardFile`: forwarding writes that to the server, and then answers at most.
* `Talk.forwardFile_watched`: a change is forwarded exactly if the path is watched.
-/

namespace JuliaSession

open Step (Leads Safe)

/-! ### Watched paths -/

/-- The last name in a path ends in `.jl` or `.jmd`. Empty names and single dots do not count, and
the root is no name. -/
def Watched (path : String) : Prop :=
  ∃ name ∈ (Path.names path.toList).getLast?,
    ".jl".toList <:+ name ∨ ".jmd".toList <:+ name

instance : DecidablePred Watched := fun path =>
  inferInstanceAs (Decidable (∃ name ∈ (Path.names path.toList).getLast?, _))

/-- The glob of a supervisor is matched by the watched paths. -/
theorem Glob.matchesPath_watched (path : String) :
    matchesPath path "**/*.\x7bjl,jmd\x7d" = .ok (decide (Watched path)) := by
  have hexpanded : expandChars "**/*.\x7bjl,jmd\x7d".toList =
      [".jl".toList, ".jmd".toList].map fun ending => "**/*".toList ++ ending := by decide
  -- the alternatives in the braces are two endings
  rw [matchesPath, hexpanded, matchesSome_stars (by simp [isVerbatim])]
  simp [Watched]

/-- Every supervisor has this glob. -/
theorem Supervisor.fileEvents_clientOptions (supervisor : Supervisor) :
    supervisor.clientOptions.fileEvents = "**/*.\x7bjl,jmd\x7d" := by
  change String.ofList _ = _
  decide

namespace Client

/-- The notification that a file was changed. -/
def fileNotice (cwd path : String) (kind : Int) : Json :=
  notification "workspace/didChangeWatchedFiles" (.obj [("changes", .arr [.obj
    [("uri", .str (Uri.ofPath .posix cwd path)), ("type", .int kind)]])])

/-- A connected client makes one notification of the change of a watched file, and nothing of any
other change. -/
theorem fileEvent_watched {client : Client} (hconnected : client.connected = true)
    (hglob : client.options.fileEvents = "**/*.\x7bjl,jmd\x7d") (cwd path : String) (kind : Int) :
    client.fileEvent cwd path kind = .ok (decide (Watched path),
      (if Watched path then some (fileNotice cwd path kind) else none).toList) := by
  have hposted : client.posted (fileNotice cwd path kind) = [fileNotice cwd path kind] :=
    if_pos hconnected
  unfold fileEvent
  rw [hglob, Glob.matchesPath_watched]
  by_cases hwatched : Watched path
  · rw [decide_eq_true hwatched, if_pos hwatched]
    exact congrArg (fun messages => Except.ok (true, messages)) hposted
  · rw [decide_eq_false hwatched, if_neg hwatched]
    rfl

end Client

namespace Dialog

open Talk (Answers Dated)

/-- What the client makes of a change is written to the server, and nothing but answers after it. -/
theorem sent_forwardFile {talk : Talk} {path : String} {kind : Int} {watched : Bool}
    {message? : Option Json}
    (hevent : talk.session.client.fileEvent talk.world.desk.machine.cwd path kind =
      .ok (watched, message?.toList)) :
    (∃ answers, (∀ message ∈ answers, Client.Automatic message) ∧
      ((forwardFile path kind).perform talk).2.world.sent =
        talk.world.sent ++ message?.toList ++ answers) ∧
      (talk.Dated → ((forwardFile path kind).perform talk).1 = .ok watched) := by
  have hrun : (forwardFile path kind).perform talk =
      (send message?.toList >>= fun _ => exchange >>= fun _ => pure watched).perform talk := by
    unfold forwardFile
    rw [Step.perform_bind_ok (perform_client talk), Step.perform_bind_ok (perform_cwd talk)]
    rw [hevent]
  obtain ⟨_, hsent⟩ := (discipline_total.send message?.toList).exists_run talk
  rw [hrun, Step.perform_bind_ok hsent]
  constructor
  · have hrest : Leads Answers (exchange >>= fun _ => pure watched) :=
      reads_answers.exchange.bind fun _ => .pure _
    obtain ⟨answers, hanswers, hwritten⟩ := hrest ((send message?.toList).perform talk).2
    exact ⟨answers, hanswers, by rw [hwritten, sent_sendOption]⟩
  · intro hdated
    -- sending takes no time, so that the time of day can still be written
    have hstill := (steady_send message?.toList talk).dated hdated
    obtain ⟨_, after, hexchanged, -⟩ := safe_exchange _ hstill
    rw [Step.perform_bind_ok hexchanged]
    rfl

end Dialog

namespace Talk

/-- The change of a file is forwarded exactly if the last name in its path ends in `.jl` or `.jmd`:
then one notification is written with the URI of the path and the kind of the change, and otherwise
none. After it nothing is written but answers to what the server asks. The result says whether the
change was forwarded; only the report of an answer that cannot be read may fail instead, where the
time of day cannot be written. -/
theorem forwardFile_watched {talk : Talk} (hconnected : talk.session.client.connected = true)
    (hglob : talk.session.client.options.fileEvents = "**/*.\x7bjl,jmd\x7d") (path : String)
    (kind : Int) :
    let own := if Watched path then [Client.notification "workspace/didChangeWatchedFiles"
      (.obj [("changes", .arr [.obj
        [("uri", .str (Uri.ofPath .posix talk.world.desk.machine.cwd path)),
          ("type", .int kind)]])])] else []
    let run := (Dialog.forwardFile path kind).perform talk
    talk.session.client.fileEvent talk.world.desk.machine.cwd path kind =
        .ok (decide (Watched path), own) ∧
      (∃ answers, (∀ message ∈ answers, Client.Automatic message) ∧
        run.2.world.sent = talk.world.sent ++ own ++ answers) ∧
      (talk.Dated → run.1 = .ok (decide (Watched path))) := by
  intro own run
  let notice := Client.fileNotice talk.world.desk.machine.cwd path kind
  have hown : own = (if Watched path then some notice else none).toList := by
    by_cases hwatched : Watched path <;> simp [own, notice, hwatched, Client.fileNotice]
  have hevent := Client.fileEvent_watched hconnected hglob talk.world.desk.machine.cwd path kind
  rw [hown]
  exact ⟨hevent, Dialog.sent_forwardFile hevent⟩

/-- A file with a hidden name is watched, between dots and slashes; a file in a directory whose name
has the ending is not. -/
theorem rehearsed_forwards :
    let talk := rehearsed.after [.start]
    (∃ answers, (∀ message ∈ answers, Client.Automatic message) ∧
      ((Dialog.forwardFile "/a/./.jmd/" 3).perform talk).2.world.sent = talk.world.sent ++
        [Client.notification "workspace/didChangeWatchedFiles" (.obj [("changes", .arr [.obj
          [("uri", .str "file:///a/.jmd"), ("type", .int 3)]])])] ++ answers) ∧
      ((Dialog.forwardFile "/a/./.jmd/" 3).perform talk).1 = .ok true ∧
      (∃ answers, (∀ message ∈ answers, Client.Automatic message) ∧
        ((Dialog.forwardFile "a.jl/b.JL" 1).perform talk).2.world.sent =
          talk.world.sent ++ answers) ∧
      ((Dialog.forwardFile "a.jl/b.JL" 1).perform talk).1 = .ok false := by
  intro talk
  have hconnected : talk.session.client.connected = true := by decide +kernel
  have hglob : talk.session.client.options.fileEvents = "**/*.\x7bjl,jmd\x7d" := by
    decide +kernel
  have hdated : talk.Dated := by
    change Desk.checkYear _ = _
    decide +kernel
  have huri : Uri.ofPath .posix talk.world.desk.machine.cwd "/a/./.jmd/" = "file:///a/.jmd" := by
    decide +kernel
  obtain ⟨-, hsent, hwell⟩ := forwardFile_watched hconnected hglob "/a/./.jmd/" 3
  obtain ⟨-, hkept, hpassed⟩ := forwardFile_watched hconnected hglob "a.jl/b.JL" 1
  have hwatched : Watched "/a/./.jmd/" := by decide
  have hunwatched : ¬ Watched "a.jl/b.JL" := by decide
  -- the two paths settle what is sent of its own accord and what the result says
  rw [if_pos hwatched, huri] at hsent
  rw [if_neg hunwatched, List.append_nil] at hkept
  rw [decide_eq_true hwatched] at hwell
  rw [decide_eq_false hunwatched] at hpassed
  exact ⟨hsent, hwell hdated, hkept, hpassed hdated⟩

end Talk

end JuliaSession
