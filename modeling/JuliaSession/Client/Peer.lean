import JuliaSession.Client.Framing
import JuliaSession.Launch.Julia

/-!
# The server process

The other end of a client's streams: a program that runs, or a rehearsed server that answers
requests from a table. `Peer.accept` is what a message leads to on the streams back to the client.
-/

namespace JuliaSession

open Text.Utf8 (Bytes)

/-- How a rehearsed server reacts to a request. -/
inductive Reply where
  /-- It answers with these members beside the id of the request. -/
  | answer (members : Json.Members)
  /-- It does not answer. -/
  | silence
  /-- It closes its output. -/
  | hangUp
  /-- It writes a text as it stands. -/
  | raw (text : String)
  deriving DecidableEq

/-- What is behind a server's streams. -/
inductive Engine where
  /-- A table of replies by the method of the request. -/
  | rehearsed (replies : Assoc String Reply)
  /-- A program that was started on the files `start` and left them as `latest` when it was seen
  last, after some bytes of output and error output. -/
  | program (process : Process) (start latest : FileTree) (seen errSeen : Nat)

/-- A server process. -/
structure Peer where
  /-- What is behind its streams. -/
  engine : Engine
  /-- Can it be written to and read from? -/
  piped : Bool := true
  /-- Can its error output be read? -/
  errPiped : Bool := true
  /-- Does it go on when it is asked to end? -/
  stubborn : Bool := false
  /-- Is its output open? -/
  outOpen : Bool := true
  /-- Its exit code if it has ended. -/
  code : Option Int := none

/-- What comes from a server. -/
structure Arrival where
  /-- Its output. -/
  out : Bytes := []
  /-- Its error output. -/
  err : Bytes := []

namespace Peer

/-- The number of the process. -/
def processNumber : Int := 4242

/-- Has the process not ended? -/
def running (peer : Peer) : Bool := peer.code.isNone

/-- The process after it ended with an exit code. -/
def exited (peer : Peer) (code : Int) : Peer :=
  { peer with code := some (peer.code.getD code), outOpen := false }

/-- How a server reacts to a method that its table does not have. -/
def defaultReply (method : String) : Reply :=
  match method with
  | "initialize" => .answer [("result", .obj [("capabilities", .obj [])])]
  | "shutdown" => .answer [("result", .null)]
  | _ => .silence

/-- The answer to a request. -/
def answerTo (id : Json) (members : Json.Members) : Json :=
  .obj (Assoc.insertAll [("jsonrpc", .str "2.0"), ("id", id)] members)

/-- The reaction of a rehearsed server to a request. -/
def rehearse (peer : Peer) (replies : Assoc String Reply) (id : Json) (method : String) :
    Peer × Arrival :=
  if !peer.outOpen then (peer, {})
  else
    match (Assoc.get? method replies).getD (defaultReply method) with
    | .answer members => (peer, { out := Framing.encode (answerTo id members) })
    | .silence => (peer, {})
    | .hangUp => ({ peer with outOpen := false }, {})
    | .raw text => (peer, { out := Text.Utf8.encode text })

/-- Let a program go on with more input. -/
def resume (peer : Peer) (process : Process) (start latest : FileTree) (seen errSeen : Nat)
    (input : Bytes) : Act (Peer × Arrival) := do
  -- the program is run again on all of its input; what was seen before is dropped
  let process := process.withInput (process.input ++ input) false
  let found := process.observe start
  -- only what the program itself has changed meanwhile; others may have changed files as well
  Act.setFiles ((← Act.machine).files.replay latest found.files)
  let engine : Engine := .program process start found.files found.out.length found.err.length
  let peer := { peer with engine }
  let arrival : Arrival := ⟨found.out.drop seen, found.err.drop errSeen⟩
  match found.code with
  | some code => return (peer.exited code, arrival)
  | none => return (peer, arrival)

/-- What a message leads to. -/
def accept (peer : Peer) (message : Json) : Act (Peer × Arrival) :=
  match peer.engine with
  | .rehearsed replies =>
    match message.get? "id", message.get? "method" with
    | some id, some (.str method) => pure (peer.rehearse replies id method)
    | _, _ => pure (peer, {})
  | .program process start latest seen errSeen =>
    if peer.running then
      peer.resume process start latest seen errSeen (Framing.encode message)
    else pure (peer, {})

/-- Start a server as a program. -/
def launch (server : ServerOptions) : Act Peer := do
  let files := (← Act.machine).files
  let process ← Command.spawn server.argv server.env server.cwd
  return { engine := .program process files files 0 0 }

/-- Start a rehearsed server, or fail to. -/
def pretend (peer : Except Failure Peer) (server : ServerOptions) : Act Peer := do
  Act.record (.spawn server.argv server.env server.cwd)
  Step.ofExcept peer

end Peer

end JuliaSession
