import JuliaSession.Client.Options

/-!
# Events

What the program does to the outside, in the order in which it happens: requests to the host's user
interface, the life of clients, messages to the server and what is done to its process.
-/

namespace JuliaSession

/-- How urgent a message to the user is. -/
inductive Severity where
  /-- For information. -/
  | info
  /-- A warning. -/
  | warning
  /-- An error. -/
  | error
  deriving DecidableEq, Repr

/-- The name of an urgency. -/
def Severity.name : Severity → String
  | info => "info"
  | warning => "warning"
  | error => "error"

/-- The urgency with the given name; an unknown name counts as information. -/
def Severity.named (name : String) : Severity :=
  match name with
  | "warning" => warning
  | "error" => error
  | _ => info

/-- Something done to the outside. -/
inductive Event where
  /-- The user was asked a question. -/
  | confirm (message : String)
  /-- A command was started where the user sees it. -/
  | runVisible (command label : String)
  /-- A message was shown to the user. -/
  | showMessage (message : String) (severity : Severity)
  /-- A launch was planned for a storage and an extension directory. -/
  | plan (storage extension : String)
  /-- A client was made to start the server with these options. -/
  | create (server : ServerOptions)
  /-- The options of a client that was made. -/
  | options (options : ClientOptions)
  /-- A client was started. -/
  | start (id : String)
  /-- A client was stopped. -/
  | stop (id : String)
  /-- The program waited for a client to be ready. -/
  | awaitReady (id : String)
  /-- A handler for a notification was registered. -/
  | subscribe (method : String)
  /-- The registration of a handler was taken back. -/
  | unsubscribe (method : String)
  /-- A notification was handed to a client. -/
  | notify (method : String) (params : Json)
  /-- Something of the host was disposed. -/
  | disposed (name : String)
  /-- The server process was started. -/
  | spawn (argv : List String) (env : Assoc String String) (cwd : Option String)
  /-- A message was written to the server. -/
  | sent (message : Json)
  /-- A handler was called. -/
  | handled (name : String) (params : Json)
  /-- The server process was asked to end. -/
  | terminate
  /-- The server process was killed. -/
  | kill
  /-- The program waited for the server process to end, for some seconds at most. -/
  | wait (limit : Option Nat)
  deriving Inhabited

end JuliaSession
