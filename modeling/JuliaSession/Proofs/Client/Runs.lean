import JuliaSession.Proofs.Client.Messages

/-!
# What becomes of a request

The requests of a session over its whole life. A run is a list of moves in any order: requests are
sent and given up, messages arrive, the connection closes, the process goes and another one comes.

* `Fate`: what one move does to one request. Every move has one of four fates for every request
  (`Moves.fate`); the statements about runs follow from this alone.
* `Runs.waiting_since`: a request that waits was sent, and no answer to it arrived since.
* `Orderly`: the rules for requests over all runs, and `Idle.orderly`, that they hold.
-/

namespace JuliaSession

open Client (Answer)

/-- What can happen to the requests of a session. -/
inductive Move where
  /-- A request is sent, with a number and a token. -/
  | request (id : Nat) (token : Option Completion.Token)
  /-- A message of the server is handled. -/
  | receive (message : Json)
  /-- The output of the server ends. -/
  | close
  /-- The server process goes. -/
  | disconnect
  /-- A request is given up. -/
  | cancel (id : Nat)
  /-- Whoever waits for a request picks up its outcome, or waits no longer. -/
  | pickUp (id : Nat)
  /-- Something else happens. -/
  | other

/-- The number that a move gives out. -/
def Move.number? : Move → Option Nat
  | .request id _ => some id
  | _ => none

namespace Talk

/-- The moves of a session. A message is handled as the session handles it; every other move is one
of the client's own operations, and says nothing about what is not about requests. -/
inductive Moves (before : Talk) : Move → Talk → Prop where
  /-- The client sends a request. -/
  | request {after : Talk} (method : String) (params : Json) (token : Option Completion.Token)
    (h : (before.session.client.request method params token).2.1.SameRequests
      after.session.client) :
    Moves before (.request (before.session.client.request method params token).1 token) after
  /-- The session handles a message. -/
  | receive (message : Json) :
    Moves before (.receive message) ((Dialog.deliver message).perform before).2
  /-- The client notices that the output has ended. -/
  | close {after : Talk}
    (h : before.session.client.streamEnded.SameRequests after.session.client) :
    Moves before .close after
  /-- The client notices that the process is gone. -/
  | disconnect {after : Talk}
    (h : before.session.client.disconnected.SameRequests after.session.client) :
    Moves before .disconnect after
  /-- The client gives up a request. -/
  | cancel {after : Talk} (id : Nat)
    (h : (before.session.client.settle id (.error .cancelled)).SameRequests
      after.session.client) :
    Moves before (.cancel id) after
  /-- An outcome is picked up. -/
  | pickUp {after : Talk} (id : Nat)
    (h : ((before.session.client.collect id).2.withdraw id).SameRequests
      after.session.client) :
    Moves before (.pickUp id) after
  /-- The requests are left alone. -/
  | other {after : Talk} (h : before.SameRequests after) : Moves before .other after

/-- Some moves, one after the other. -/
inductive Runs : Talk → List Move → Talk → Prop where
  /-- Nothing has happened. -/
  | nil (talk : Talk) : Runs talk [] talk
  /-- A move, and then some moves. -/
  | cons {first second last : Talk} {move : Move} {moves : List Move}
    (hmove : Moves first move second) (hrest : Runs second moves last) :
    Runs first (move :: moves) last

theorem Runs.append {first second last : Talk} {moves moves' : List Move}
    (h : Runs first moves second) (h' : Runs second moves' last) :
    Runs first (moves ++ moves') last := by
  induction h with
  | nil => exact h'
  | cons hmove _ ih => exact .cons hmove (ih h')

/-! ### One move and one request -/

/-- How a move ends a request that waits. -/
inductive Ending (before : Talk) (id : Nat) : Move → Except Failure Json → Prop where
  /-- A message answers it: it ends with the content of the message. -/
  | answer {message : Json} {token : Option Completion.Token} {content : Except Failure Json}
    (hwaiting : before.waiting? id = some token) (hanswer : Answer message id content) :
    Ending before id (.receive message) (Dialog.answered before.world token content)
  /-- The output has ended: it cannot be answered any more. -/
  | close : Ending before id .close (.error before.session.client.closedFailure)
  /-- The process is gone: it is cancelled. -/
  | disconnect : Ending before id .disconnect (.error .cancelled)
  /-- It is given up. -/
  | cancel : Ending before id (.cancel id) (.error .cancelled)

/-- What a move does to a request. -/
inductive Fate (before after : Talk) (id : Nat) : Move → Prop where
  /-- It stays as it is, so it was not answered while it waited. -/
  | untouched {move : Move} (hwaiting : after.waiting? id = before.waiting? id)
    (houtcome : after.outcome? id = before.outcome? id)
    (hunanswered : ∀ {message content}, move = .receive message → Answer message id content →
      before.waiting? id = none) : Fate before after id move
  /-- It is sent, under a new number. -/
  | sent {token : Option Completion.Token} (hnew : id = before.session.client.lastId + 1)
    (hwaiting : after.waiting? id = some token)
    (houtcome : after.outcome? id = before.outcome? id) : Fate before after id (.request id token)
  /-- It ends. -/
  | ended {move : Move} {token : Option Completion.Token} {outcome : Except Failure Json}
    (hbefore : before.waiting? id = some token) (hwaiting : after.waiting? id = none)
    (houtcome : after.outcome? id = some outcome) (hending : Ending before id move outcome) :
    Fate before after id move
  /-- Nobody asks for it any more. -/
  | dropped (hwaiting : after.waiting? id = none) (houtcome : after.outcome? id = none) :
    Fate before after id (.pickUp id)

section Fate

variable {before after : Talk} {id : Nat} {move : Move}

/-- A move gives out the number after the last one, or none. -/
theorem Moves.number (h : Moves before move after) :
    move.number? = some (before.session.client.lastId + 1) ∧
        after.session.client.lastId = before.session.client.lastId + 1 ∨
      move.number? = none ∧
        after.session.client.lastId = before.session.client.lastId := by
  -- only a request gives a number out; an answer and the ends of requests leave the last one alone
  cases h with
  | request method params token h => exact .inl ⟨rfl, h.lastId⟩
  | receive message =>
    refine .inr ⟨rfl, ?_⟩
    rcases Dialog.answers_or_not before message with
      ⟨id, token, content, hanswer, hwaiting⟩ | hother
    · exact (Dialog.deliver_answer hanswer hwaiting).lastId.trans (Client.lastId_settle _ _ _)
    · exact (Dialog.deliver_other hother).lastId
  | close h => exact .inr ⟨rfl, h.lastId.trans (Client.lastId_settleAll _ _)⟩
  | disconnect h => exact .inr ⟨rfl, h.lastId.trans (Client.lastId_settleAll _ _)⟩
  | cancel other h => exact .inr ⟨rfl, h.lastId.trans (Client.lastId_settle _ _ _)⟩
  | pickUp other h => exact .inr ⟨rfl, h.lastId⟩
  | other h => exact .inr ⟨rfl, h.lastId⟩

/-- Settling a request ends it if it waits, and touches no other one. -/
private theorem fate_of_settle {other : Nat} {outcome : Except Failure Json}
    (h : (before.session.client.settle other outcome).SameRequests after.session.client)
    (hending : ∀ {token}, before.waiting? other = some token → Ending before other move outcome)
    (hunanswered : ∀ {message content}, move = .receive message → Answer message id content →
      id = other) : Fate before after id move := by
  have hwaiting : after.waiting? id = if id = other then none else before.waiting? id := by
    rw [waiting?, h.pending, Client.pending_settle]
    rfl
  have houtcome : after.outcome? id =
      if id = other ∧ (before.waiting? other).isSome then some outcome
      else before.outcome? id := by
    rw [outcome?, h.ended, Client.ended_settle]
    rfl
  -- a request that does not wait is left alone, also if it is the one to be settled
  by_cases hid : id = other
  · subst hid
    cases hbefore : before.waiting? id with
    | none =>
      rw [hbefore, if_pos rfl] at hwaiting
      rw [hbefore, if_neg fun h => Bool.noConfusion h.2] at houtcome
      exact .untouched (hwaiting.trans hbefore.symm) houtcome fun _ _ => hbefore
    | some token =>
      rw [if_pos rfl] at hwaiting
      rw [hbefore, if_pos ⟨rfl, rfl⟩] at houtcome
      exact .ended hbefore hwaiting houtcome (hending hbefore)
  · rw [if_neg hid] at hwaiting
    rw [if_neg fun h => hid h.1] at houtcome
    exact .untouched hwaiting houtcome fun hmove hanswer =>
      absurd (hunanswered hmove hanswer) hid

/-- Settling every request ends it if it waits. -/
private theorem fate_of_settleAll {outcome : Except Failure Json}
    (hpending : after.session.client.pending =
      (before.session.client.settleAll outcome).pending)
    (hended : after.session.client.ended = (before.session.client.settleAll outcome).ended)
    (hending : Ending before id move outcome) : Fate before after id move := by
  have hwaiting : after.waiting? id = none := by
    rw [waiting?, hpending, Client.pending_settleAll]
  have houtcome : after.outcome? id =
      if (before.waiting? id).isSome then some outcome else before.outcome? id := by
    rw [outcome?, hended, Client.ended_settleAll]
    rfl
  cases hbefore : before.waiting? id with
  | none =>
    rw [hbefore] at houtcome
    exact .untouched (hwaiting.trans hbefore.symm) houtcome fun _ _ => hbefore
  | some token =>
    rw [hbefore] at houtcome
    exact .ended hbefore hwaiting houtcome hending

/-- Every move has one of the four fates for every request. -/
theorem Moves.fate (h : Moves before move after) (id : Nat) : Fate before after id move := by
  -- a request that is sent has a new number, and everything else ends requests or leaves them alone
  cases h with
  | request method params token h =>
    have hwaiting : after.waiting? id =
        if id = before.session.client.lastId + 1 then some token else before.waiting? id := by
      rw [waiting?, h.pending]
      exact Assoc.get?_insert _ _ _ _
    have houtcome : after.outcome? id = before.outcome? id := congrArg (Assoc.get? id) h.ended
    by_cases hnew : id = before.session.client.lastId + 1
    · rw [if_pos hnew] at hwaiting
      subst hnew
      exact .sent rfl hwaiting houtcome
    · rw [if_neg hnew] at hwaiting
      refine .untouched hwaiting houtcome ?_
      rintro _ _ ⟨⟩
  | receive message =>
    rcases Dialog.answers_or_not before message with
      ⟨other, token, content, hanswer, hwaiting⟩ | hother
    · refine fate_of_settle (Dialog.deliver_answer hanswer hwaiting) ?_ ?_
      · intro _ _
        exact .answer hwaiting hanswer
      · rintro _ _ ⟨⟩ hanswer'
        exact hanswer'.id_unique hanswer
    · have hsame := Dialog.deliver_other hother
      refine .untouched (congrArg (Assoc.get? id) hsame.pending)
        (congrArg (Assoc.get? id) hsame.ended) ?_
      rintro _ _ ⟨⟩ hanswer
      exact hother hanswer
  | close h => exact fate_of_settleAll h.pending h.ended .close
  | disconnect h => exact fate_of_settleAll h.pending h.ended .disconnect
  | cancel other h =>
    refine fate_of_settle h (fun _ => .cancel) ?_
    rintro _ _ ⟨⟩
  | pickUp other h =>
    have hwaiting : after.waiting? id = if id = other then none else before.waiting? id := by
      rw [waiting?, h.pending]
      exact Assoc.get?_erase _ _ _
    have houtcome : after.outcome? id = if id = other then none else before.outcome? id := by
      rw [outcome?, h.ended]
      exact Assoc.get?_erase _ _ _
    by_cases hid : id = other
    · subst hid
      rw [if_pos rfl] at hwaiting houtcome
      exact .dropped hwaiting houtcome
    · rw [if_neg hid] at hwaiting houtcome
      refine .untouched hwaiting houtcome ?_
      rintro _ _ ⟨⟩
  | other h =>
    refine .untouched (congrArg (Assoc.get? id) h.pending) (congrArg (Assoc.get? id) h.ended) ?_
    rintro _ _ ⟨⟩

end Fate

/-! ### Runs -/

/-- A request whose number was given out and that does not wait any more. -/
structure Past (talk : Talk) (id : Nat) : Prop where
  /-- The number was given out. -/
  given : id ≤ talk.session.client.lastId
  /-- The request does not wait. -/
  gone : talk.waiting? id = none

/-- A request that is past stays past, and its outcome does not change until it is picked up. -/
theorem Moves.past {before after : Talk} {move : Move} {id : Nat} (h : Moves before move after)
    (hpast : Past before id) :
    Past after id ∧ (after.outcome? id = before.outcome? id ∨ after.outcome? id = none) := by
  have hgiven : id ≤ after.session.client.lastId := by
    have := hpast.given
    rcases h.number with ⟨-, hlast⟩ | ⟨-, hlast⟩ <;> omega
  cases h.fate id with
  | untouched hwaiting houtcome => exact ⟨⟨hgiven, hwaiting.trans hpast.gone⟩, .inl houtcome⟩
  | sent hnew =>
    have := hpast.given
    omega
  | ended hbefore => exact absurd (hpast.gone.symm.trans hbefore) nofun
  | dropped hwaiting houtcome => exact ⟨⟨hgiven, hwaiting⟩, .inr houtcome⟩

theorem Runs.past {first last : Talk} {moves : List Move} {id : Nat} (h : Runs first moves last)
    (hpast : Past first id) :
    Past last id ∧ (last.outcome? id = first.outcome? id ∨ last.outcome? id = none) := by
  induction h with
  | nil => exact ⟨hpast, .inl rfl⟩
  | cons hmove _ ih =>
    obtain ⟨hpast', hkept⟩ := hmove.past hpast
    obtain ⟨hlast, hstill | hnone⟩ := ih hpast'
    · rcases hkept with hkept | hnone
      · exact ⟨hlast, .inl (hstill.trans hkept)⟩
      · exact ⟨hlast, .inr (hstill.trans hnone)⟩
    · exact ⟨hlast, .inr hnone⟩

/-- A request that waits waited from the start, or it was sent on the way; no answer to it has
arrived since. -/
theorem Runs.waiting_since {first last : Talk} {moves : List Move} {id : Nat}
    {token : Option Completion.Token} (h : Runs first moves last)
    (hwaiting : last.waiting? id = some token) :
    (first.waiting? id = some token ∧
        ∀ message content, .receive message ∈ moves → ¬ Answer message id content) ∨
      ∃ before between, moves = before ++ .request id token :: between ∧
        ∀ message content, .receive message ∈ between → ¬ Answer message id content := by
  -- by the first move: what waits after it waited before, or was sent by it
  induction h with
  | nil => exact .inl ⟨hwaiting, nofun⟩
  | @cons first second last move moves hmove hrest ih =>
    rcases ih hwaiting with ⟨hsecond, hnone⟩ | ⟨before, between, rfl, hnone⟩
    · cases hmove.fate id with
      | untouched hsame houtcome hunanswered =>
        left
        rw [hsecond] at hsame
        refine ⟨hsame.symm, fun message content hmem hanswer => ?_⟩
        rcases List.mem_cons.1 hmem with hhead | htail
        · exact absurd (hsame.trans (hunanswered hhead.symm hanswer)) nofun
        · exact hnone message content htail hanswer
      | sent hnew hsent =>
        rw [hsecond] at hsent
        cases hsent
        exact .inr ⟨[], moves, rfl, hnone⟩
      | ended hbefore hover => exact absurd (hsecond.symm.trans hover) nofun
      | dropped hover => exact absurd (hsecond.symm.trans hover) nofun
    · exact .inr ⟨move :: before, between, rfl, hnone⟩

/-- The numbers that a run gives out grow, from the last one on. -/
theorem Runs.numbers {first last : Talk} {moves : List Move} (h : Runs first moves last) :
    (moves.filterMap Move.number?).Pairwise (· < ·) ∧
      ∀ id ∈ moves.filterMap Move.number?, first.session.client.lastId < id := by
  -- by the first move, whose number comes before all that the rest gives out
  induction h with
  | nil => exact ⟨.nil, nofun⟩
  | @cons first second last move moves hmove _ ih =>
    obtain ⟨hrest, hlater⟩ := ih
    rcases hmove.number with ⟨hnumber, hlast⟩ | ⟨hnumber, hlast⟩
    · rw [List.filterMap_cons_some hnumber]
      refine ⟨List.pairwise_cons.2 ⟨fun id hid => ?_, hrest⟩, fun id hid => ?_⟩
      · have := hlater id hid
        omega
      · rcases List.mem_cons.1 hid with rfl | hid
        · omega
        · have := hlater id hid
          omega
    · rw [List.filterMap_cons_none hnumber]
      exact ⟨hrest, fun id hid => hlast ▸ hlater id hid⟩

/-- The requests that wait and the outcomes are those of requests that were sent, and a request that
waits has no outcome. -/
structure Tidy (talk : Talk) : Prop where
  /-- What waits was sent and has not ended. -/
  waiting : ∀ {id token}, talk.waiting? id = some token →
    id ≤ talk.session.client.lastId ∧ talk.outcome? id = none
  /-- What has ended was sent. -/
  outcome : ∀ {id outcome}, talk.outcome? id = some outcome → id ≤ talk.session.client.lastId

theorem Moves.tidy {before after : Talk} {move : Move} (h : Moves before move after)
    (htidy : Tidy before) : Tidy after := by
  have hgrows : before.session.client.lastId ≤ after.session.client.lastId := by
    rcases h.number with ⟨-, hlast⟩ | ⟨-, hlast⟩ <;> omega
  -- a request that waits was sent and has no outcome, and outcomes are those of requests that were
  -- sent
  constructor
  · intro id token hwaiting
    cases h.fate id with
    | untouched hsame houtcome =>
      obtain ⟨hsent, hnone⟩ := htidy.waiting (hsame.symm.trans hwaiting)
      exact ⟨Nat.le_trans hsent hgrows, houtcome.trans hnone⟩
    | sent hnew hsent houtcome =>
      have hnone : before.outcome? id = none := by
        cases hsome : before.outcome? id with
        | none => rfl
        | some outcome =>
          have := htidy.outcome hsome
          omega
      rcases h.number with ⟨-, hlast⟩ | ⟨hnumber, -⟩
      · exact ⟨by omega, houtcome.trans hnone⟩
      · cases hnumber
    | ended hbefore hover => exact absurd (hwaiting.symm.trans hover) nofun
    | dropped hover => exact absurd (hwaiting.symm.trans hover) nofun
  · intro id outcome houtcome
    cases h.fate id with
    | untouched hsame hkept => exact Nat.le_trans (htidy.outcome (hkept.symm.trans houtcome)) hgrows
    | sent hnew hsent hkept => exact Nat.le_trans (htidy.outcome (hkept.symm.trans houtcome)) hgrows
    | ended hbefore => exact Nat.le_trans (htidy.waiting hbefore).1 hgrows
    | dropped hover hnone => exact absurd (houtcome.symm.trans hnone) nofun

theorem Runs.tidy {first last : Talk} {moves : List Move} (h : Runs first moves last)
    (htidy : Tidy first) : Tidy last := by
  induction h with
  | nil => exact htidy
  | cons hmove _ ih => exact ih (hmove.tidy htidy)

/-! ### The rules for requests -/

/-- A move completes a request: its outcome is there afterwards, and was not before. -/
structure Completes (before after : Talk) (id : Nat) (outcome : Except Failure Json) : Prop where
  /-- The outcome is not there before the move. -/
  fresh : before.outcome? id ≠ some outcome
  /-- The outcome is there after the move. -/
  there : after.outcome? id = some outcome

/-- A move completes only a request that waits, and ends it in one of the known ways. -/
theorem Moves.completes {before after : Talk} {move : Move} {id : Nat}
    {outcome : Except Failure Json} (h : Moves before move after)
    (hcompletes : Completes before after id outcome) :
    (∃ token, before.waiting? id = some token) ∧ after.waiting? id = none ∧
      Ending before id move outcome := by
  obtain ⟨hfresh, hthere⟩ := hcompletes
  cases h.fate id with
  | untouched _ hkept => exact absurd (hkept.symm.trans hthere) hfresh
  | sent _ _ hkept => exact absurd (hkept.symm.trans hthere) hfresh
  | ended hbefore hover houtcome hending =>
    cases houtcome.symm.trans hthere
    exact ⟨⟨_, hbefore⟩, hover, hending⟩
  | dropped _ hnone => exact absurd (hthere.symm.trans hnone) nofun

/-- The rules for requests, over all runs of a session from `start`. -/
structure Orderly (start : Talk) : Prop where
  /-- Numbers are given out in increasing order, so none is given out twice. -/
  numbers : ∀ {moves last}, Runs start moves last →
    (moves.filterMap Move.number?).Pairwise (· < ·)
  /-- What completes a request is an answer to it, the end of the connection or of the process, or
  that it is given up. -/
  causes : ∀ {moves before move after id outcome}, Runs start moves before →
    Moves before move after → Completes before after id outcome → Ending before id move outcome
  /-- A request that a message completes was sent, and the message is the first answer to it since;
  it completes with the content of the message. -/
  first : ∀ {moves before message after id outcome}, Runs start moves before →
    Moves before (.receive message) after → Completes before after id outcome →
      ∃ earlier token between content, moves = earlier ++ .request id token :: between ∧
        Answer message id content ∧ outcome = Dialog.answered before.world token content ∧
        ∀ message' content', .receive message' ∈ between → ¬ Answer message' id content'
  /-- An answer to a request that waits completes it. -/
  heard : ∀ {moves before message after id token content}, Runs start moves before →
    Moves before (.receive message) after → before.waiting? id = some token →
      Answer message id content →
        Completes before after id (Dialog.answered before.world token content)
  /-- A request completes once: nothing completes it later, and its outcome stays until it is picked
  up. -/
  once : ∀ {moves before move after id outcome later last}, Runs start moves before →
    Moves before move after → Completes before after id outcome → Runs after later last →
      (last.outcome? id = some outcome ∨ last.outcome? id = none) ∧
        ∀ {move' next outcome'}, Moves last move' next → ¬ Completes last next id outcome'
  /-- A message that is no answer to a request, or comes when the request does not wait, does not
  change what is known of it. -/
  spared : ∀ {moves before message after id}, Runs start moves before →
    Moves before (.receive message) after →
      (∀ token content, before.waiting? id = some token → ¬ Answer message id content) →
        after.waiting? id = before.waiting? id ∧ after.outcome? id = before.outcome? id

/-- A session without requests: none was sent, none waits and there is no outcome. -/
structure Idle (talk : Talk) : Prop where
  /-- No request waits. -/
  pending : talk.session.client.pending = []
  /-- There is no outcome. -/
  ended : talk.session.client.ended = []

theorem Idle.waiting {talk : Talk} (h : Idle talk) (id : Nat) : talk.waiting? id = none := by
  rw [waiting?, h.pending, Assoc.get?_nil]

theorem Idle.tidy {talk : Talk} (h : Idle talk) : Tidy talk where
  waiting hwaiting := absurd (hwaiting.symm.trans (h.waiting _)) nofun
  outcome houtcome := by
    rw [outcome?, h.ended, Assoc.get?_nil] at houtcome
    cases houtcome

/-- From a session without requests, all runs keep to the rules. -/
theorem Idle.orderly {start : Talk} (h : Idle start) : Orderly start where
  numbers hrun := hrun.numbers.1
  causes _ hmove hcompletes := (hmove.completes hcompletes).2.2
  first {moves before message after id outcome} hrun hmove hcompletes := by
    obtain ⟨-, -, hending⟩ := hmove.completes hcompletes
    obtain ⟨hwaiting, hanswer⟩ := hending
    rcases hrun.waiting_since hwaiting with ⟨hstart, -⟩ | ⟨earlier, between, hmoves, hnone⟩
    · exact absurd (hstart.symm.trans (h.waiting id)) nofun
    · exact ⟨earlier, _, between, _, hmoves, hanswer, rfl, hnone⟩
  heard {moves before message after id token content} hrun hmove hwaiting hanswer := by
    have hfresh := ((hrun.tidy h.tidy).waiting hwaiting).2
    cases hmove.fate id with
    | untouched _ _ hunanswered =>
      exact absurd (hwaiting.symm.trans (hunanswered rfl hanswer)) nofun
    | ended _ _ houtcome hending =>
      obtain ⟨hwaiting', hanswer'⟩ := hending
      cases hwaiting.symm.trans hwaiting'
      cases hanswer.content_unique hanswer'
      exact ⟨by rw [hfresh]; exact nofun, houtcome⟩
  once {moves before move after id outcome later last} hrun hmove hcompletes hlater := by
    have htidy := hmove.tidy (hrun.tidy h.tidy)
    have hpast : Past after id :=
      ⟨htidy.outcome hcompletes.there, (hmove.completes hcompletes).2.1⟩
    obtain ⟨hlast, hkept⟩ := hlater.past hpast
    rw [hcompletes.there] at hkept
    refine ⟨hkept, fun hnext hagain => ?_⟩
    obtain ⟨⟨token, hwaiting⟩, -⟩ := hnext.completes hagain
    exact absurd (hlast.gone.symm.trans hwaiting) nofun
  spared {moves before message after id} _ hmove hnone := by
    cases hmove.fate id with
    | untouched hwaiting houtcome => exact ⟨hwaiting, houtcome⟩
    | ended _ _ _ hending =>
      obtain ⟨hwaiting, hanswer⟩ := hending
      exact absurd hanswer (hnone _ _ hwaiting)

end Talk

end JuliaSession
