import JuliaSession.Client.Incoming
import JuliaSession.Client.Peer
import JuliaSession.Completion.Provide
import JuliaSession.FullText

/-!
# Sessions

A client together with the server process it talks to. `Dialog` is a step in which the two exchange
messages: what the client sends reaches the process at once, and `Dialog.exchange` handles what
comes back until nothing is left. A message whose handling fails is reported, and the next one is
handled.

`Dialog.start` either makes the session ready or leaves the client without a process; `Dialog.stop`
takes the process down, politely if it still listens.
-/

namespace JuliaSession

open Text.Utf8 (Bytes)

/-- A client and its server process. -/
structure Session where
  /-- The client. -/
  client : Client
  /-- How the server process is started. -/
  server : ServerOptions
  /-- Start the server process. -/
  launch : ServerOptions → Act Peer
  /-- The process that the client holds. -/
  peer : Option Peer := none
  /-- Reads the process's output, while there is some to come. -/
  reader : Option Reader := none
  /-- The unfinished line of the process's error output. -/
  errLine : Bytes := []

namespace Session

/-- Does the client hold a process that has not ended? -/
def running (session : Session) : Bool := session.peer.any Peer.running

end Session

/-- A session in its world. -/
structure Talk where
  /-- The world. -/
  world : World
  /-- The session. -/
  session : Session

/-- Steps of a session. -/
abbrev Dialog (α : Type) := Step Talk α

namespace Dialog

/-- A step on the world. -/
def act {α : Type} (step : Act α) : Dialog α :=
  step.onPart Talk.world fun talk world => { talk with world }

/-- The session. -/
def session : Dialog Session := do return (← get).session

/-- The client. -/
def client : Dialog Client := do return (← session).client

/-- Change the session. -/
def modifySession (change : Session → Session) : Dialog Unit :=
  modify fun talk => { talk with session := change talk.session }

/-- Change the client. -/
def modifyClient (change : Client → Client) : Dialog Unit :=
  modifySession fun session => { session with client := change session.client }

/-- The working directory. -/
def cwd : Dialog String := do return (← get).world.desk.machine.cwd

/-- The fields of a record about the client. -/
def fields (more : Log.Fields) : Dialog Log.Fields := do
  return ("client_id", Log.text (← client).id) :: more

/-- Log a record about the client. -/
def log (level : Log.Level) (message : String) (more : Log.Fields) : Dialog Unit := do
  let all ← fields more
  act (Act.log "lsp.client" level message all)

/-- Pass on something that the server logs. -/
def trace (message : Json) (more : Log.Fields) : Dialog Unit := do
  let all ← fields more
  act (Act.onDesk fun desk => desk.emit (Act.logger "lsp.trace") .debug (.json message) all)

/-! ### Streams -/

/-- Pass on a line of the server's error output, unless it is blank. The error output is read apart
from what the client does, so a line that cannot be written down stops nothing. -/
def passLine (line : Bytes) : Dialog Unit := do
  let text := Text.stripRight (Text.Utf8.decodeLossyChars line)
  if text.isEmpty then return
  else do
    let _ ← (trace (.str (String.ofList text)) []).attempt
    return

/-- Pass on lines of the server's error output; the last one is unfinished. -/
def passLines : List Bytes → Dialog Unit
  | [] => modifySession fun session => { session with errLine := [] }
  | [rest] => modifySession fun session => { session with errLine := rest }
  | line :: rest => do
    passLine line
    passLines rest

/-- The pieces between line feeds. -/
def pieces : Bytes → List Bytes
  | [] => [[]]
  | b :: rest =>
    match pieces rest with
    | [] => [[b]]
    | piece :: more => if b = 10 then [] :: piece :: more else (b :: piece) :: more

/-- Take in what comes from the server. -/
def takeIn (arrival : Arrival) : Dialog Unit := do
  modifySession fun session =>
    { session with reader := session.reader.map fun reader => reader.feed arrival.out }
  if (← session).peer.any Peer.errPiped then
    passLines (pieces ((← session).errLine ++ arrival.err))

/-- The error output has ended: pass on its last line, though it is unfinished. -/
def endErrors : Dialog Unit := do
  passLine (← session).errLine
  modifySession fun session => { session with errLine := [] }

/-- Send messages to the server. -/
def send : List Json → Dialog Unit
  | [] => return
  | message :: rest => do
    act (Act.record (.sent message))
    match (← session).peer with
    | none => pure ()
    | some peer => do
      let (peer, arrival) ← act (peer.accept message)
      modifySession fun session => { session with peer := some peer }
      takeIn arrival
      -- the message made the process end
      if !peer.running then endErrors
    send rest

/-! ### Messages of the server -/

/-- The outcome of a request, reconciled with what it was sent for. Reconciling that fails is how
the request ends. -/
def reconciled (token : Option Completion.Token) (outcome : Except Failure Json) :
    Act (Except Failure Json) :=
  match outcome with
  | .ok response => (Completion.reconcile token response).attempt
  | .error failure => pure (.error failure)

/-- Notify the server. -/
def notify (method : String) (params : Json) : Dialog Unit := do
  send ((← client).posted (Client.notification method params))

/-- Call a handler. -/
def callHandler (handler : Handler) (params : Json) : Dialog Unit := do
  match handler.handling with
  | .fullText => do
    match ← act (FullText.answer params) with
    | none => return
    | some answer => notify DocumentStore.fullTextAnswer answer
  | .writeDown name fails => do
    act (Act.record (.handled name params))
    if fails then throw (.foreign "RuntimeError" "handler failed")

/-- Do what a message leads to. -/
def carryOut : Reaction → Dialog Unit
  | .ignore => return
  | .settle id outcome => do
    -- the token is looked up before the request leaves the table
    let token := (Assoc.get? id (← client).pending).getD none
    let outcome ← act (reconciled token outcome)
    modifyClient fun client => client.settle id outcome
  | .respond id result => do send ((← client).posted (Client.response id result))
  | .refuse id method => do
    log .debug "unsupported server request" [("method", .json method)]
    send ((← client).posted (Client.refusal id method))
  | .call handler params => callHandler handler params
  | .serverLog message type => trace message [("type", .json type)]
  | .progress kind title => log .debug "progress" [("kind", .json kind), ("title", .json title)]
  | .unhandled method => log .debug "unhandled notification" [("method", .json method)]

/-- Handle a message of the server. -/
def handle (message : Json) : Dialog Unit := do
  let reaction ← Step.ofExcept ((← client).react (← cwd) message)
  carryOut reaction

/-- Handle a message of the server; a failure is reported. Nobody waits for the message to be
handled, so a report that cannot be written down stops nothing. -/
def deliver (message : Json) : Dialog Unit := do
  match ← (handle message).attempt with
  | .ok () => return
  | .error failure => do
    let _ ← (log .error "error handling server message" [("error", .failure (.of failure))]).attempt
    return

/-- Handle messages of the server one after the other. -/
def deliverAll : List Json → Dialog Unit
  | [] => return
  | message :: rest => do
    deliver message
    deliverAll rest

/-- Reading the server's output is over. -/
def endReading : Dialog Unit := do
  modifySession fun session =>
    { session with reader := none, client := session.client.streamEnded }

/-- How many rounds an exchange may take. -/
def roundLimit : Nat := 1000

/-- Handle what has come from the server, and what comes in turn, until nothing is left. -/
def exchangeWithin : Nat → Dialog Unit
  | 0 => return
  | rounds + 1 => do
    match (← session).reader with
    | none => return
    | some reader => do
      -- what has come is handled even when the stream has ended meanwhile
      let closed := !(← session).peer.any Peer.outOpen
      let (messages, reader, outlook) := reader.drain closed
      modifySession fun session => { session with reader := some reader }
      deliverAll messages
      match outlook with
      -- the handling of a message may have led to more messages
      | .waiting => if messages.isEmpty then return else exchangeWithin rounds
      | .ended => endReading
      | .broken => do
        log .error "error reading server messages" [("error", Log.text "a length is no number")]
        endReading

/-- Handle what comes from the server until nothing is left. -/
def exchange : Dialog Unit := exchangeWithin roundLimit

/-! ### What the client does -/

/-- Send a request and let it be answered; the result is its number. -/
def request (method : String) (params : Json) (token : Option Completion.Token) : Dialog Nat := do
  let (id, client, messages) := (← client).request method params token
  modifyClient fun _ => client
  send messages
  exchange
  return id

/-- The outcome of a request, if it has ended; nobody waits for it any more. -/
def outcome (id : Nat) : Dialog (Option (Except Failure Json)) := do
  let (outcome, client) := (← client).collect id
  -- a request that nobody waits for any more is not pending either
  modifyClient fun _ => client.withdraw id
  return outcome

/-- Give up a request that waits. -/
def cancel (id : Nat) : Dialog Unit :=
  modifyClient fun client => client.settle id (.error .cancelled)

/-- Change the client, send what that leads to and handle what comes back. -/
def update (change : Client → Client × List Json) : Dialog Unit := do
  let (client, messages) := change (← client)
  modifyClient fun _ => client
  send messages
  exchange

/-- Request completions at a place of a document. -/
def complete (uri : String) (line character : Int) (token : Option Completion.Token) :
    Dialog Nat := do
  let params : Json := .obj [("textDocument", .obj [("uri", .str uri)]),
    ("position", .obj [("line", .int line), ("character", .int character)])]
  -- without widening the response passes as the server sent it
  let token := if (← client).options.widening then token else none
  request "textDocument/completion" params token

/-- Forward the change of a file, if the session watches the file. -/
def forwardFile (path : String) (kind : Int) : Dialog Bool := do
  match (← client).fileEvent (← cwd) path kind with
  | .error .emptyPattern => throw (.badValue "empty pattern")
  | .ok (watched, messages) => do
    send messages
    exchange
    return watched

/-! ### Life of the process -/

/-- End the process: ask it to end, wait, and kill it if it goes on. -/
def takeDown (peer : Peer) : Act Unit := do
  Act.record .terminate
  Act.record (.wait (some 5))
  -- it went on for all the time it was given
  if peer.running && peer.stubborn then
    Act.record .kill
    Act.record (.wait (some 1))

/-- Handle the messages that the end of the stream completes: an unfinished body counts as a
whole. -/
def readOut : Dialog Unit := do
  match (← session).reader with
  | none => return
  | some reader => deliverAll (reader.drain true).1

/-- Make sure that there is no process any more. Nothing is sent from here on; what the process left
unfinished is still handled, before the requests that wait are cancelled. -/
def kill : Dialog Unit := do
  modifyClient fun client => { client with connected := false }
  match (← session).peer with
  | none => pure ()
  | some peer => act (takeDown peer)
  endErrors
  readOut
  modifySession fun session =>
    { session with peer := none, reader := none, client := session.client.disconnected }

/-- Wait for the handshake and finish it. -/
def shakeHands : Dialog Unit := do
  let timer ← act (Act.startTimer "lsp.client" "initialize" (← fields []))
  let id ← request "initialize" ((← client).handshakeParams 0 (← cwd)) none
  let outcome ← outcome id
  act (Act.stopTimer timer)
  let name := (← client).name
  match outcome with
  | none => do
    kill
    throw (.serverStart (name ++ ": initialize timed out"))
  | some (.error failure) => do
    kill
    throw (.serverStart (name ++ ": initialize failed: " ++ failure.message))
  | some (.ok result) =>
    modifyClient fun client => { client with capabilities := Client.capabilitiesOf result }

/-- Tell the server that the session begins, and push the settings. -/
def begin : Dialog Unit := do
  notify "initialized" (.obj [])
  -- settings that do not fit together stop the start here, with the process running
  send (← Step.ofExcept (← client).pushed)
  exchange
  modifyClient fun client => { client with ready := true }
  log .info "language client ready" [("pid", Log.number Peer.processNumber)]

/-- Start the server process and shake hands, unless a process is running. -/
def start : Dialog Unit := do
  if (← session).running then return
  modifyClient fun client => { client with ready := false }
  let peer ← act ((← session).launch (← session).server)
  modifySession fun session => { session with peer := some peer }
  -- without streams there is nobody to talk to
  if !peer.piped then
    kill
    throw (.serverStart ((← client).name ++ ": server stdio not available"))
  modifySession fun session =>
    { session with
      reader := some {}, errLine := [], client := { session.client with connected := true } }
  shakeHands
  begin

/-- Ask the server to shut down; whatever it answers, the session ends. -/
def askToShutDown : Dialog Unit := do
  let id ← request "shutdown" .null none
  match ← outcome id with
  | some (.ok _) => notify "exit" .null
  | some (.error failure) =>
    log .warn "shutdown request failed" [("error", Log.text failure.message)]
  | none => log .warn "shutdown request failed" [("error", Log.text "")]

/-- Stop the session, if the client holds a process. -/
def stop : Dialog Unit := do
  if (← session).peer.isNone then return
  log .info "stopping" []
  -- a server that never became ready is not asked
  if (← client).ready && (← session).running then askToShutDown
  modifyClient fun client => { client with ready := false }
  kill
  log .info "stopped" []

/-- Wait until the session is ready; there is no point in waiting long. -/
def awaitReady : Dialog Unit := do
  if !(← client).ready then throw .timedOut

/-- Wait for the process to end; its exit code. -/
def waitClosed : Dialog (Option Int) := do
  match (← session).peer with
  | none => return none
  | some peer => do
    act (Act.record (.wait none))
    -- a process that runs is not waited for without end
    match peer.code with
    | some code => return some code
    | none => throw .stillRunning

/-! ### What the server does on its own -/

/-- The server writes to its output. -/
def serverWrites (bytes : Bytes) : Dialog Unit := do
  if (← session).peer.any Peer.outOpen then
    takeIn { out := bytes }
    exchange

/-- The server writes to its error output. -/
def serverReports (bytes : Bytes) : Dialog Unit := do
  if (← session).running then takeIn { err := bytes }

/-- The server process ends. -/
def serverExits (code : Int) : Dialog Unit := do
  if (← session).running then
    modifySession fun session =>
      { session with peer := session.peer.map fun peer => peer.exited code }
    endErrors
    exchange

end Dialog

end JuliaSession
