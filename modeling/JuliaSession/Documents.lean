import JuliaSession.Failure
import JuliaSession.Machine.Basic
import JuliaSession.Uri

/-!
# Open documents

The documents that are open in the host, by their URI and in the order in which they were opened.
The host owns their texts; the server may ask for one of them as a whole, and
`DocumentStore.reloadParams` is the answer.
-/

namespace JuliaSession

/-- An open document. -/
structure Document where
  /-- Its URI. -/
  uri : String
  /-- The identifier of its language. -/
  language : String
  /-- Its version, which grows with every change. -/
  version : Int
  /-- Its text. -/
  text : String
  deriving DecidableEq, Repr, Inhabited

/-- The language of a file by the suffix of its name. -/
def Document.languageOf (path : String) : String :=
  match Path.suffix path with
  | ".jl" => "julia"
  | ".jmd" => "juliamarkdown"
  | _ => "plaintext"

/-- The open documents by their URI. -/
structure DocumentStore where
  /-- The documents in the order in which they were first opened. -/
  documents : Assoc String Document := []
  deriving Inhabited

namespace DocumentStore

/-- The open document of a URI. -/
def get? (store : DocumentStore) (uri : String) : Option Document := Assoc.get? uri store.documents

/-- The URIs of the open documents. -/
def uris (store : DocumentStore) : List String := Assoc.keys store.documents

/-- Open a document; one that is open under its URI is replaced. -/
def add (store : DocumentStore) (document : Document) : DocumentStore :=
  ⟨Assoc.insert document.uri document store.documents⟩

/-- A document with a new text and the next version. -/
def revised (document : Document) (text : String) : Document :=
  { document with text, version := document.version + 1 }

/-- Change the text of an open document. -/
def update (store : DocumentStore) (uri text : String) :
    Except Failure (Document × DocumentStore) :=
  match store.get? uri with
  | none => .error (.missingKey uri)
  | some document => .ok (revised document text, store.add { revised document text with uri })

/-- Close a document, if it is open. -/
def close (store : DocumentStore) (uri : String) : DocumentStore :=
  ⟨Assoc.erase uri store.documents⟩

/-- The text of a file: well-formed UTF-8, with line feeds for all line ends. -/
def fileText (machine : Machine) (path : String) : Except Failure String :=
  match machine.files.read machine.cwd (Path.tidy path) with
  | .error fault => .error (.os fault)
  | .ok bytes =>
    match Text.Utf8.decodeChars? bytes with
    | none => .error .notText
    | some chars => .ok (String.ofList (Text.unifyNewlines chars))

/-- The document of a file. -/
def ofFile (machine : Machine) (path : String) : Except Failure Document := do
  let text ← fileText machine path
  return ⟨Uri.ofPath .posix machine.cwd path, Document.languageOf path, 0, text⟩

/-- Open the document of a file. -/
def openFile (machine : Machine) (store : DocumentStore) (path : String) :
    Except Failure (Document × DocumentStore) := do
  let document ← ofFile machine path
  return (document, store.add document)

/-! ### Full text -/

/-- The notification by which the server asks for a whole text. -/
def fullTextRequest : String := "julia/getFullText"

/-- The notification that answers it. -/
def fullTextAnswer : String := "julia/reloadText"

/-- The answer for a document that is open: its text, always as a Julia document of version 1. -/
def reloadParams (store : DocumentStore) (uri : String) : Option Json :=
  (store.get? uri).map fun document =>
    .obj [("textDocument", .obj [("uri", .str uri), ("languageId", .str "julia"),
      ("version", .int 1), ("text", .str document.text)])]

/-- What a request for a whole text leads to: a warning, or an answer. -/
inductive FullTextReply where
  /-- The request does not name a document. -/
  | noUri (params : Json)
  /-- The document is not open. -/
  | unknown (uri : String)
  /-- The text is sent. -/
  | answer (uri : String) (params : Json)

/-- The reply to a request for a whole text. -/
def fullText (store : DocumentStore) (params : Json) : FullTextReply :=
  match params with
  | .str uri =>
    match store.reloadParams uri with
    | none => .unknown uri
    | some answer => .answer uri answer
  | _ => .noUri params

end DocumentStore

end JuliaSession
