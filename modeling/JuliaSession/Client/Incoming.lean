import JuliaSession.Client.Basic

/-!
# Incoming messages

What a message of the server leads to. `Client.react` decides it from the message and the client
alone: a message is refused as a whole, or it leads to exactly one `Reaction`. So a message that
cannot be handled changes nothing.
-/

namespace JuliaSession

/-- What the client does about a message. -/
inductive Reaction where
  /-- Nothing: it answers no request that waits. -/
  | ignore
  /-- A request ends. -/
  | settle (id : Nat) (outcome : Except Failure Json)
  /-- A request of the server is answered. -/
  | respond (id result : Json)
  /-- A request of the server is refused. -/
  | refuse (id method : Json)
  /-- A handler is called. -/
  | call (handler : Handler) (params : Json)
  /-- A log message of the server is passed on. -/
  | serverLog (message type : Json)
  /-- Progress of the server is noted. -/
  | progress (kind title : Json)
  /-- A notification is noted for which there is no handler. -/
  | unhandled (method : Json)

namespace Client

/-- The request that waits for the answer with this id; ids are compared as numbers. An array or an
object is no id. -/
def awaited (client : Client) (id : Json) : Except Failure (Option Nat) :=
  match id with
  | .arr _ | .obj _ => .error .wrongType
  | id => .ok ((Assoc.keys client.pending).find? fun n => id.integerValue? == some (n : Int))

/-- The outcome that an answer gives to its request. An error that is empty has no code. -/
def outcomeOf (message : Json.Members) : Except Failure (Except Failure Json) :=
  match Assoc.get? "error" message with
  | none => .ok (.ok (Json.member "result" message))
  | some error =>
    -- null, zero and empty values count as an error without members
    match (if error.isTruthy then error else .obj []) with
    | .obj members =>
      .ok (.error (.response (Json.member "code" members)
        ((Assoc.get? "message" members).getD (.str "Unknown error"))))
    | _ => .error .noMembers

/-- React to an answer of the server. -/
def reactToAnswer (client : Client) (message : Json.Members) : Except Failure Reaction := do
  match ← client.awaited (Json.member "id" message) with
  | none => return .ignore
  | some id => return .settle id (← outcomeOf message)

/-- The value of one of the settings that the server asks for. -/
def itemValue (client : Client) : Json → Except Failure Json
  | .obj item =>
    match (Assoc.get? "section" item).getD (.str "") with
    | .str name => .ok (client.options.setting name)
    -- a name that is no text matters only where there are settings to look it up in
    | _ => if client.options.settings.isNone then .ok .null else .error .noMembers
  | _ => .error .noMembers

/-- The settings that the server asks for. Where there are no members there are no items. -/
def requestedItems (params : Json) : Except Failure (List Json) :=
  match (if params.isTruthy then params else .obj []) with
  | .obj members =>
    match (Assoc.get? "items" members).getD (.arr []) with
    | .arr items => .ok items
    | .str text => .ok (text.toList.map fun c => .str (String.singleton c))
    | .obj entries => .ok (entries.map fun entry => .str entry.1)
    | _ => .error .wrongType
  | _ => .error .noMembers

/-- Requests of the server that are answered by null. -/
def acknowledged : List String :=
  ["window/workDoneProgress/create", "client/registerCapability", "client/unregisterCapability",
    "window/showMessageRequest"]

/-- React to a request of the server. -/
def reactToRequest (client : Client) (cwd : String) (id method params : Json) :
    Except Failure Reaction :=
  match method with
  | .str "workspace/configuration" => do
    return .respond id (.arr (← (← requestedItems params).mapM client.itemValue))
  | .str "workspace/workspaceFolders" =>
    .ok (.respond id (workspaceFolders (Uri.ofPath .posix cwd client.options.root)))
  | .str name => .ok (if name ∈ acknowledged then .respond id .null else .refuse id method)
  | _ => .ok (.refuse id method)

/-- The handler that is registered for a method. An array or an object is no method. -/
def handlerFor (client : Client) : Json → Except Failure (Option Handler)
  | .str name => .ok (Assoc.get? name client.handlers)
  | .arr _ | .obj _ => .error .wrongType
  | _ => .ok none

/-- React to a notification for which there is no handler. -/
def reactUnhandled (method params : Json) : Except Failure Reaction :=
  match method, params with
  | .str "window/logMessage", .obj members =>
    .ok (.serverLog (Json.member "message" members) (Json.member "type" members))
  | .str "$/progress", .obj members =>
    let value := Json.member "value" members
    match (if value.isTruthy then value else .obj []) with
    | .obj value => .ok (.progress (Json.member "kind" value) (Json.member "title" value))
    | _ => .error .noMembers
  | _, _ => .ok (.unhandled method)

/-- React to a notification. -/
def reactToNotification (client : Client) (method params : Json) : Except Failure Reaction := do
  match ← client.handlerFor method with
  | some handler => return .call handler params
  | none => reactUnhandled method params

/-- What a message of the server leads to, for a client in the directory `cwd`. -/
def react (client : Client) (cwd : String) : Json → Except Failure Reaction
  | .obj message =>
    match Assoc.get? "method" message with
    | none => client.reactToAnswer message
    | some method =>
      let params := Json.member "params" message
      match Assoc.get? "id" message with
      -- any id makes it a request, a null one too
      | some id => client.reactToRequest cwd id method params
      | none => client.reactToNotification method params
  | .str text =>
    .error (if Text.contains "method".toList text.toList then .wrongType else .noMembers)
  | .arr items => .error (if items.contains (.str "method") then .wrongType else .noMembers)
  | _ => .error .wrongType

end Client

end JuliaSession
