import JuliaSession.Completion
import JuliaSession.World

/-!
# Providing completions

The way of a completion request: it is forwarded to the server as it is, and the response is
widened if the token being completed is known. Without a token there is nothing to reconcile and
the response passes as the server sent it.
-/

namespace JuliaSession.Completion

/-- A response widened for the token; one that has no item list is reported. -/
def widenReported (token : Token) (response : Json) : Act Json := do
  match malformed? response with
  | some type =>
    Act.log "lsp.middleware" .warn "malformed completion response" [("type", Log.text type)]
  | none => pure ()
  return widen token response

/-- The response as the host gets it. -/
def reconcile (token : Option Token) (response : Json) : Act Json :=
  match token with
  | none => pure response
  | some token => widenReported token response

/-- Forward a request and reconcile the response. -/
def provide (token : Option Token) (forward : Json → Act Json) (request : Json) : Act Json := do
  reconcile token (← forward request)

end JuliaSession.Completion
