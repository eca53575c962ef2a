import Mathlib.Data.List.Induction
import Mathlib.Tactic.SplitIfs
import JuliaSession.Client.Basic
import JuliaSession.World

/-!
# What a server is told about documents

A server keeps its own copies of the documents that a client tells it about. It learns of them by
three notifications, and of nothing else: that a document is opened, that it has a new text, and
that it is closed.

* `DocumentNote`: what such a notification says, and `DocumentNote.of`, which messages are one.
* `World.notes`: the notifications about documents that were written, in order.
* `Replica.follow`: the copies of a server that applies them. A server cannot follow a change or the
  closing of a document that is not open.
* `Replica.Matches`: the copies are those of a table of documents with their versions, and stay so
  when a note is followed that the table allows (`Replica.Matches.follow`).
* `Replica.ordered_of_followAll`: what can be followed was told in order.
-/

namespace JuliaSession

/-- What a notification says about a document. -/
inductive DocumentNote where
  /-- A document is opened with a version and a text. -/
  | opened (uri : String) (version : Int) (text : String)
  /-- A document has a new version with a new text. -/
  | changed (uri : String) (version : Int) (text : String)
  /-- A document is closed. -/
  | closed (uri : String)
  /-- It is about a document, and does not say what it has to. -/
  | unreadable
  deriving DecidableEq, Repr

namespace DocumentNote

/-! ### Reading -/

/-- The methods of notifications about documents. -/
def methods : List String :=
  ["textDocument/didOpen", "textDocument/didChange", "textDocument/didClose"]

/-- The text that a member of an object holds. -/
def textOf? (key : String) (json : Json) : Option String :=
  match json.get? key with
  | some (.str text) => some text
  | _ => none

/-- The version of a document. -/
def versionOf? (document : Json) : Option Int :=
  match document.get? "version" with
  | some (.int version) => some version
  | _ => none

/-- What the parameters of a notification say. A change gives the whole text. -/
def read? (method : String) (params : Json) : Option DocumentNote := do
  let document ← params.get? "textDocument"
  let uri ← textOf? "uri" document
  match method, params.get? "contentChanges" with
  | "textDocument/didOpen", _ =>
    return opened uri (← versionOf? document) (← textOf? "text" document)
  | "textDocument/didChange", some (.arr [change]) =>
    return changed uri (← versionOf? document) (← textOf? "text" change)
  | "textDocument/didClose", _ => return closed uri
  | _, _ => none

/-- What a message says about a document, if it is a notification about one. A message with an id is
no notification. -/
def of (message : Json) : Option DocumentNote :=
  match message.get? "id", message.get? "method" with
  | none, some (.str method) =>
    if method ∈ methods then
      some (((message.get? "params").bind (read? method)).getD unreadable)
    else none
  | _, _ => none

theorem of_request (id : Nat) (method : String) (params : Json) :
    of (Client.requestMessage id method params) = none := rfl

theorem of_response (id result : Json) : of (Client.response id result) = none := rfl

theorem of_refusal (id method : Json) : of (Client.refusal id method) = none := rfl

/-- A notification is about a document if its method is one of the three. -/
theorem of_notification (method : String) (params : Json) :
    of (Client.notification method params) =
      if method ∈ methods then some ((read? method params).getD unreadable) else none := rfl

/-- Other notifications say nothing about documents. -/
theorem of_notification_eq_none {method : String} (h : method ∉ methods) (params : Json) :
    of (Client.notification method params) = none := by
  rw [of_notification, if_neg h]

/-! ### What a note does to a table of documents -/

/-- The document that a note is about. -/
def uri? : DocumentNote → Option String
  | opened uri _ _ | changed uri _ _ | closed uri => some uri
  | unreadable => none

/-- A note about a change or the closing of a document is allowed if the document is in the table of
those that are open. -/
def Allowed (table : Assoc String Int) : DocumentNote → Prop
  | opened .. => True
  | changed uri .. | closed uri => Assoc.has uri table = true
  | unreadable => False

/-- The table of open documents after a note. -/
def record (table : Assoc String Int) : DocumentNote → Assoc String Int
  | opened uri version _ | changed uri version _ => Assoc.insert uri version table
  | closed uri => Assoc.erase uri table
  | unreadable => table

end DocumentNote

/-- What a message to the server says about a document. -/
def Event.note? : Event → Option DocumentNote
  | .sent message => DocumentNote.of message
  | _ => none

/-- What was written to servers about documents. -/
def World.notes (world : World) : List DocumentNote := world.events.filterMap Event.note?

/-! ### Copies of documents -/

/-- The copies of documents that a server has: their versions and texts by their URIs. -/
abbrev Replica := Assoc String (Int × String)

namespace Replica

open DocumentNote (Allowed)

/-- Apply a note. Only documents that are open can change or be closed. -/
def follow (replica : Replica) : DocumentNote → Option Replica
  | .opened uri version text => some (Assoc.insert uri (version, text) replica)
  | .changed uri version text =>
    if Assoc.has uri replica then some (Assoc.insert uri (version, text) replica) else none
  | .closed uri => if Assoc.has uri replica then some (Assoc.erase uri replica) else none
  | .unreadable => none

/-- Apply notes one after the other. -/
def followAll (replica : Replica) (notes : List DocumentNote) : Option Replica :=
  notes.foldlM follow replica

theorem followAll_concat (replica : Replica) (notes : List DocumentNote) (note : DocumentNote) :
    replica.followAll (notes ++ [note]) = (replica.followAll notes).bind (follow · note) := by
  rw [followAll, List.foldlM_append]
  cases h : notes.foldlM follow replica with
  | none => simp [followAll, h]
  | some before => simp [followAll, h]

/-- The copies are those of the documents in a table, with their versions. -/
def Matches (replica : Replica) (table : Assoc String Int) : Prop :=
  ∀ uri, Assoc.get? uri table = (Assoc.get? uri replica).map Prod.fst

theorem Matches.has_eq {replica : Replica} {table : Assoc String Int} (h : replica.Matches table)
    (uri : String) : Assoc.has uri replica = Assoc.has uri table := by
  rw [Assoc.has, Assoc.has, h uri, Option.isSome_map]

theorem Matches.insert {replica : Replica} {table : Assoc String Int} (h : replica.Matches table)
    (uri : String) (version : Int) (text : String) :
    Matches (Assoc.insert uri (version, text) replica) (Assoc.insert uri version table) := by
  intro other
  rw [Assoc.get?_insert, Assoc.get?_insert]
  split_ifs
  · rfl
  · exact h other

theorem Matches.erase {replica : Replica} {table : Assoc String Int} (h : replica.Matches table)
    (uri : String) : Matches (Assoc.erase uri replica) (Assoc.erase uri table) := by
  intro other
  rw [Assoc.get?_erase, Assoc.get?_erase]
  split_ifs
  · rfl
  · exact h other

/-- A note that the table allows can be followed, and the copies are those of the table after it. -/
theorem Matches.follow {replica : Replica} {table : Assoc String Int} (h : replica.Matches table)
    {note : DocumentNote} (hallowed : note.Allowed table) :
    ∃ next, replica.follow note = some next ∧ next.Matches (note.record table) := by
  cases note with
  | opened uri version text => exact ⟨_, rfl, h.insert uri version text⟩
  | changed uri version text =>
    have hopen : Assoc.has uri replica = true := (h.has_eq uri).trans hallowed
    exact ⟨_, if_pos hopen, h.insert uri version text⟩
  | closed uri =>
    have hopen : Assoc.has uri replica = true := (h.has_eq uri).trans hallowed
    exact ⟨_, if_pos hopen, h.erase uri⟩
  | unreadable => exact absurd hallowed id

/-- A note does not change the copies of other documents. -/
theorem get?_follow_of_ne {replica next : Replica} {note : DocumentNote}
    (h : replica.follow note = some next) {uri : String} (hne : note.uri? ≠ some uri) :
    Assoc.get? uri next = Assoc.get? uri replica := by
  -- a copy is set or taken away under the name in the note, which is another one
  cases note with
  | opened other version text =>
    cases h
    exact Assoc.get?_insert_of_ne (fun heq => hne (congrArg some heq.symm)) _ _
  | changed other version text =>
    rw [Replica.follow] at h
    split_ifs at h
    cases h
    exact Assoc.get?_insert_of_ne (fun heq => hne (congrArg some heq.symm)) _ _
  | closed other =>
    rw [Replica.follow] at h
    split_ifs at h
    cases h
    exact Assoc.get?_erase_of_ne (fun heq => hne (congrArg some heq.symm)) _
  | unreadable => cases h

/-! ### Notes in order -/

/-- The document was opened by one of the notes, and not closed by a later one. -/
def OpenAfter (notes : List DocumentNote) (uri : String) : Prop :=
  ∃ earlier version text later,
    notes = earlier ++ .opened uri version text :: later ∧ .closed uri ∉ later

/-- Documents change and are closed only while they are open. -/
def Ordered (notes : List DocumentNote) : Prop :=
  ∀ earlier note later uri, notes = earlier ++ note :: later →
    (note = .closed uri ∨ ∃ version text, note = .changed uri version text) →
      OpenAfter earlier uri

theorem OpenAfter.concat {notes : List DocumentNote} {uri : String} (h : OpenAfter notes uri)
    {note : DocumentNote} (hnote : note ≠ .closed uri) : OpenAfter (notes ++ [note]) uri := by
  obtain ⟨earlier, version, text, later, rfl, hclosed⟩ := h
  refine ⟨earlier, version, text, later ++ [note], by simp, ?_⟩
  rw [List.mem_append, List.mem_singleton, not_or]
  exact ⟨hclosed, hnote.symm⟩

theorem openAfter_concat_opened (notes : List DocumentNote) (uri : String) (version : Int)
    (text : String) : OpenAfter (notes ++ [.opened uri version text]) uri :=
  ⟨notes, version, text, [], rfl, List.not_mem_nil⟩

/-- A server has copies of the documents that are open by what it was told. -/
theorem openAfter_of_followAll {notes : List DocumentNote} {replica : Replica}
    (h : followAll [] notes = some replica) {uri : String}
    (hopen : Assoc.has uri replica = true) : OpenAfter notes uri := by
  -- only the last note decides whether the document is open, if it is about this document
  induction notes using List.reverseRecOn generalizing replica with
  | nil =>
    cases h
    cases hopen
  | append_singleton notes note ih =>
    rw [followAll_concat, Option.bind_eq_some_iff] at h
    obtain ⟨before, hbefore, hfollow⟩ := h
    by_cases habout : note.uri? = some uri
    · -- the note is about this document, and leaves it open
      cases note with
      | opened other version text =>
        cases habout
        exact openAfter_concat_opened notes uri version text
      | changed other version text =>
        cases habout
        rw [Replica.follow] at hfollow
        split_ifs at hfollow with hhas
        exact (ih hbefore hhas).concat nofun
      | closed other =>
        cases habout
        rw [Replica.follow] at hfollow
        split_ifs at hfollow
        cases hfollow
        rw [Assoc.has, Assoc.get?_erase_self] at hopen
        cases hopen
      | unreadable => cases habout
    · rw [Assoc.has, get?_follow_of_ne hfollow habout] at hopen
      refine (ih hbefore hopen).concat ?_
      rintro rfl
      exact habout rfl

/-- What a server can follow was told in order. -/
theorem ordered_of_followAll {notes : List DocumentNote} {replica : Replica}
    (h : followAll [] notes = some replica) : Ordered notes := by
  rintro earlier note later uri rfl hnote
  rw [followAll, List.foldlM_append] at h
  obtain ⟨before, hbefore, h⟩ := Option.bind_eq_some_iff.1 h
  rw [List.foldlM_cons] at h
  obtain ⟨next, hfollow, -⟩ := Option.bind_eq_some_iff.1 h
  -- the server can follow a change or a closing only while it has a copy
  refine openAfter_of_followAll hbefore ?_
  rcases hnote with rfl | ⟨version, text, rfl⟩
  · rw [follow] at hfollow
    split_ifs at hfollow with hopen
    exact hopen
  · rw [follow] at hfollow
    split_ifs at hfollow with hopen
    exact hopen

end Replica

end JuliaSession
