import JuliaSession.World

/-!
# Full text

The server asks for a document as a whole by a notification, and gets it by another one. A request
that does not name an open document is not answered.
-/

namespace JuliaSession.FullText

/-- Handle a request for a whole text; the result is the answer to send, if there is one. -/
def answer (params : Json) : Act (Option Json) := do
  match (← get).documents.fullText params with
  | .noUri params => do
    Act.log "lsp.fulltext" .warn "full text requested without a uri" [("params", .json params)]
    return none
  | .unknown uri => do
    Act.log "lsp.fulltext" .warn "full text requested for unknown document" [("uri", Log.text uri)]
    return none
  | .answer uri answer => do
    Act.log "lsp.fulltext" .debug "sending full text" [("uri", Log.text uri)]
    return some answer

end JuliaSession.FullText
