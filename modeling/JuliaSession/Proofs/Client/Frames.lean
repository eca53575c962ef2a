import JuliaSession.Proofs.Client.Uses

/-!
# What an exchange leaves alone

In an exchange the messages that have come are handled one after the other, and when there will be
no more of them the requests that wait end. A relation between moments of a session is respected by
a whole exchange (`Dialog.Reads.exchange`) if the handling of messages respects it
(`Dialog.Handles`), and so do the steps by which the output is read. That is so if the relation does
not depend on the process and what was read of it (`Dialog.Respects`).
-/

namespace JuliaSession

open Step (Leads)
open Text.Utf8 (Bytes)

variable {α : Type}

namespace Client

/-- Ending a request changes nothing but requests. -/
theorem settle_eq (client : Client) (id : Nat) (outcome : Except Failure Json) :
    ∃ pending ended, client.settle id outcome = { client with pending, ended } := by
  unfold settle
  split <;> exact ⟨_, _, rfl⟩

end Client

namespace Dialog

/-- A relation between moments of a session that the elementary steps respect by which the session
reads and handles what comes from the server. -/
structure Reads (relation : Talk → Talk → Prop) : Prop extends Handles relation where
  /-- The messages that have come are taken out of the output. -/
  drain {talk : Talk} {reader : Reader} (h : talk.session.reader = some reader) (rest : Reader) :
    relation talk { talk with session := { talk.session with reader := some rest } }
  /-- The output has ended. -/
  ended (talk : Talk) :
    relation talk { talk with
      session := { talk.session with reader := none, client := talk.session.client.streamEnded } }
  /-- The process ends. -/
  exit (talk : Talk) (code : Int) :
    relation talk { talk with
      session := { talk.session with peer := talk.session.peer.map fun peer => peer.exited code } }

namespace Reads

variable {relation : Talk → Talk → Prop} [hrefl : Std.Refl relation]
  [htrans : Trans relation relation relation]
variable (h : Reads relation)
include h

theorem exchangeWithin (rounds : Nat) : Leads relation (exchangeWithin rounds) := by
  induction rounds with
  | zero => exact .pure _
  | succ rounds ih =>
    intro talk
    unfold Dialog.exchangeWithin
    rw [Step.perform_bind_ok (perform_session talk)]
    cases hreader : talk.session.reader with
    | none => exact hrefl.refl talk
    | some reader =>
      dsimp only
      rw [Step.perform_bind_ok (perform_session talk)]
      refine htrans.trans (h.drain hreader _) (Leads.bind (h.deliverAll _) (fun _ => ?_) _)
      split
      · split
        · exact .pure _
        · exact ih
      · exact h.ended
      · exact .bind (h.log _ _ _) fun _ => h.ended

/-- A session handles whatever comes from the server. -/
theorem exchange : Leads relation exchange := h.exchangeWithin roundLimit

theorem serverWrites (bytes : Bytes) : Leads relation (serverWrites bytes) :=
  leads_serverWrites (h.takeIn _) h.exchange

theorem serverReports (bytes : Bytes) : Leads relation (serverReports bytes) :=
  leads_serverReports (h.takeIn _)

theorem serverExits (code : Int) : Leads relation (serverExits code) :=
  leads_serverExits (fun talk => h.exit talk code) h.endErrors h.exchange

end Reads

/-- A relation between moments of a session that the elementary steps respect by which the session
handles what comes from the server. -/
structure Respects (relation : Talk → Talk → Prop) : Prop where
  /-- A record is written. -/
  emit (logger : Log.Logger) (level : Log.Level) (message : Log.Value) (extra : Log.Fields) :
    Leads relation (act (Act.onDesk fun desk => desk.emit logger level message extra))
  /-- A server reacts to a message. -/
  accept (peer : Peer) (message : Json) : Leads relation (act (peer.accept message))
  /-- The process and what was read of it change. -/
  hold (talk : Talk) (peer : Option Peer) (reader : Option Reader) (errLine : Bytes) :
    relation talk { talk with session := { talk.session with peer, reader, errLine } }
  /-- A request ends. -/
  settle (id : Nat) (outcome : Except Failure Json) :
    Leads relation (modifyClient fun client => client.settle id outcome)
  /-- An answer is written. -/
  sent {message : Json} (h : Client.Automatic message) :
    Leads relation (act (Act.record (.sent message)))
  /-- The call of a handler is written down. -/
  handled (name : String) (params : Json) :
    Leads relation (act (Act.record (.handled name params)))

namespace Respects

variable {relation : Talk → Talk → Prop}

/-- What does not depend on the process is respected when it is held, and when its output is
kept. -/
theorem handles (h : Respects relation) : Handles relation where
  emit := h.emit
  accept := h.accept
  hold talk peer := h.hold talk (some peer) talk.session.reader talk.session.errLine
  feed talk bytes :=
    h.hold talk talk.session.peer (talk.session.reader.map fun reader => reader.feed bytes)
      talk.session.errLine
  errLine talk line := h.hold talk talk.session.peer talk.session.reader line
  settle := h.settle
  sent := h.sent
  handled := h.handled

/-- What does not depend on the process is respected when its output is read and when it ends. -/
theorem reads [Std.Refl relation] [htrans : Trans relation relation relation]
    (h : Respects relation) : Reads relation where
  toHandles := h.handles
  drain _ rest := h.hold _ _ (some rest) _
  ended talk :=
    htrans.trans (h.handles.settleAll talk (.error talk.session.client.closedFailure))
      (h.hold _ talk.session.peer none talk.session.errLine)
  exit talk code :=
    h.hold talk (talk.session.peer.map fun peer => peer.exited code) talk.session.reader
      talk.session.errLine

end Respects

end Dialog

end JuliaSession
