import JuliaSession.Client.Options
import JuliaSession.Client.Pushed
import JuliaSession.Completion
import JuliaSession.Directories
import JuliaSession.Documents
import JuliaSession.Glob

/-!
# The client

The client's side of a session: the requests that wait for an answer, the handlers of notifications
and the documents that were opened on the server. Everything here is a function on this state; what
is to be sent comes back as messages. Messages get nowhere while the client is not connected.

A request that ends leaves an entry in `ended`, where whoever waits for it picks it up.
-/

namespace JuliaSession

/-- What a handler does with a notification. -/
inductive Handling where
  /-- Answer a request for a whole text. -/
  | fullText
  /-- Write down the call under a name, and fail then if `fails`. -/
  | writeDown (name : String) (fails : Bool)
  deriving DecidableEq, Repr

/-- A handler of notifications. Handlers are the same if their keys agree. -/
structure Handler where
  /-- What tells handlers apart. -/
  key : Nat
  /-- What it does. -/
  handling : Handling
  deriving DecidableEq, Repr

/-- The client's side of a session. -/
structure Client where
  /-- What the host calls the client. -/
  id : String
  /-- What the user calls the client. -/
  name : String
  /-- How the client talks to the server. -/
  options : ClientOptions
  /-- The handlers by the method they were registered for. -/
  handlers : Assoc String Handler := []
  /-- The number of the last request. -/
  lastId : Nat := 0
  /-- The requests that wait for an answer, with the token by which the answer is reconciled. -/
  pending : Assoc Nat (Option Completion.Token) := []
  /-- The outcomes of requests that have ended. -/
  ended : Assoc Nat (Except Failure Json) := []
  /-- Is there a stream to the server? -/
  connected : Bool := false
  /-- Is the server ready to serve? -/
  ready : Bool := false
  /-- The documents that were opened on the server, with their versions. -/
  opened : Assoc String Int := []
  /-- What the server can do. -/
  capabilities : Json := .obj []
  deriving Inhabited

namespace Client

/-! ### Messages -/

/-- The message of a request. -/
def requestMessage (id : Nat) (method : String) (params : Json) : Json :=
  .obj [("jsonrpc", .str "2.0"), ("id", .int id), ("method", .str method), ("params", params)]

/-- The message of a notification. -/
def notification (method : String) (params : Json) : Json :=
  .obj [("jsonrpc", .str "2.0"), ("method", .str method), ("params", params)]

/-- The message that answers a request of the server. -/
def response (id result : Json) : Json :=
  .obj [("jsonrpc", .str "2.0"), ("id", id), ("result", result)]

/-- The code for a request that the client does not implement. -/
def methodNotFound : Int := -32601

/-- The message that refuses a request of the server. -/
def refusal (id method : Json) : Json :=
  .obj [("jsonrpc", .str "2.0"), ("id", id),
    ("error", .obj [("code", .int methodNotFound),
      ("message", .str ("Unhandled method " ++ method.plainText))])]

/-- What a message comes to: nothing without a stream to the server. -/
def posted (client : Client) (message : Json) : List Json :=
  if client.connected then [message] else []

/-! ### Requests -/

/-- Send a request; the answer is going to be reconciled with `token`. The result is the number of
the request, the client that waits for it and what is sent. -/
def request (client : Client) (method : String) (params : Json) (token : Option Completion.Token) :
    Nat × Client × List Json :=
  let id := client.lastId + 1
  (id, { client with lastId := id, pending := Assoc.insert id token client.pending },
    client.posted (requestMessage id method params))

/-- End a request that waits. -/
def settle (client : Client) (id : Nat) (outcome : Except Failure Json) : Client :=
  if Assoc.has id client.pending then
    { client with
      pending := Assoc.erase id client.pending, ended := Assoc.insert id outcome client.ended }
  else client

/-- Pick up the outcome of a request, if it has ended. -/
def collect (client : Client) (id : Nat) : Option (Except Failure Json) × Client :=
  (Assoc.get? id client.ended, { client with ended := Assoc.erase id client.ended })

/-- Wait for a request no longer. -/
def withdraw (client : Client) (id : Nat) : Client :=
  { client with pending := Assoc.erase id client.pending }

/-- End every request that waits. -/
def settleAll (client : Client) (outcome : Except Failure Json) : Client :=
  client.pending.foldl (fun client entry => client.settle entry.1 outcome) client

/-- The failure of a request when the server's output ends. -/
def closedFailure (client : Client) : Failure :=
  .response .null (.str (client.name ++ ": connection closed"))

/-- The output of the server has ended. -/
def streamEnded (client : Client) : Client := client.settleAll (.error client.closedFailure)

/-- The server process is gone: nothing can be sent, requests are cancelled and no document is open
any more. -/
def disconnected (client : Client) : Client :=
  let client := client.settleAll (.error .cancelled)
  { client with connected := false, opened := [] }

/-! ### The handshake -/

/-- A folder of the workspace. -/
def workspaceFolders (root : String) : Json :=
  .arr [.obj [("name", .str "workspace"), ("uri", .str root)]]

/-- The parameters of the first request, for a client in the directory `cwd`. -/
def handshakeParams (client : Client) (processId : Int) (cwd : String) : Json :=
  let root := Uri.ofPath .posix cwd client.options.root
  .obj [("processId", .int processId), ("clientInfo", .obj [("name", .str Directories.appName)]),
    ("rootUri", .str root), ("workspaceFolders", workspaceFolders root),
    ("initializationOptions", .obj client.options.initializationOptions),
    ("capabilities", .obj [
      ("window", .obj [("workDoneProgress", .bool true)]),
      ("workspace", .obj [("configuration", .bool true),
        ("didChangeWatchedFiles", .obj [("dynamicRegistration", .bool true)])]),
      ("textDocument", .obj [
        ("synchronization", .obj [("didOpen", .bool true), ("didChange", .bool true)]),
        ("completion", .obj [("completionItem", .obj [("snippetSupport", .bool true)])])])])]

/-- The capabilities in the answer to the first request. -/
def capabilitiesOf (result : Json) : Json :=
  match result with
  | .obj members => (Assoc.get? "capabilities" members).getD (.obj [])
  | _ => .obj []

/-- What is sent to push the settings: one notification if there are any. -/
def pushed (client : Client) : Except Failure (List Json) :=
  if client.options.configurationSections.isEmpty then .ok []
  else do
    let tree ← Pushed.tree client.options.setting client.options.configurationSections
    return client.posted
      (notification "workspace/didChangeConfiguration" (.obj [("settings", .obj tree)]))

/-! ### Handlers -/

/-- Register a handler for a method, in place of the one registered before. -/
def subscribe (client : Client) (method : String) (handler : Handler) : Client :=
  { client with handlers := Assoc.insert method handler client.handlers }

/-- Take back a registration; nothing happens if another handler was registered since. -/
def unsubscribe (client : Client) (method : String) (handler : Handler) : Client :=
  match Assoc.get? method client.handlers with
  | some current =>
    if current.key = handler.key then
      { client with handlers := Assoc.erase method client.handlers }
    else client
  | none => client

/-! ### Documents -/

/-- Is a document of a language that the session serves? -/
def serves (client : Client) (document : Document) : Bool :=
  client.options.documentSelector.contains document.language

/-- Open a document on the server. -/
def openDocument (client : Client) (document : Document) : Client × List Json :=
  if client.serves document then
    ({ client with opened := Assoc.insert document.uri document.version client.opened },
      client.posted (notification "textDocument/didOpen" (.obj [("textDocument", .obj [
        ("uri", .str document.uri), ("languageId", .str document.language),
        ("version", .int document.version), ("text", .str document.text)])])))
  else (client, [])

/-- Tell the server about a change; a document that is not open yet is opened. -/
def changeDocument (client : Client) (document : Document) : Client × List Json :=
  if Assoc.has document.uri client.opened then
    ({ client with opened := Assoc.insert document.uri document.version client.opened },
      client.posted (notification "textDocument/didChange" (.obj [
        ("textDocument", .obj [("uri", .str document.uri), ("version", .int document.version)]),
        ("contentChanges", .arr [.obj [("text", .str document.text)]])])))
  else client.openDocument document

/-- Close a document on the server, if it is open there. -/
def closeDocument (client : Client) (uri : String) : Client × List Json :=
  if Assoc.has uri client.opened then
    ({ client with opened := Assoc.erase uri client.opened },
      client.posted (notification "textDocument/didClose"
        (.obj [("textDocument", .obj [("uri", .str uri)])])))
  else (client, [])

/-! ### Files -/

/-- The kind of a change of a file when none is given. -/
def fileChanged : Int := 2

/-- Forward the change of a file, if it is a file that the session watches; the result says whether
it is. -/
def fileEvent (client : Client) (cwd path : String) (kind : Int) :
    Except Glob.GlobFault (Bool × List Json) := do
  if ← Glob.matchesPath path client.options.fileEvents then
    return (true, client.posted (notification "workspace/didChangeWatchedFiles"
      (.obj [("changes", .arr [.obj [("uri", .str (Uri.ofPath .posix cwd path)),
        ("type", .int kind)]])])))
  else return (false, [])

end Client

end JuliaSession
