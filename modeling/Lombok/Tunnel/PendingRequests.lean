import Lombok.Tunnel.SessionHandler

/-!
Contract: the pending responses of a session and the requests they belong to.

Owns the invariant that ties `pendingHTTPResponses` to the admitted requests,
what a step that admits nothing does to them, and that every step keeps the
invariant.
-/

namespace Lombok.Tunnel

open Lombok.Core
open Lombok.Library
open Lombok.Library.Framing

/-! ### Handlers of pending responses -/

/-- Only one stream's entry changed, and none was added. -/
structure Bridge.Turns (streamId : String) (before after : Bridge) : Prop where
  others : ∀ other, other ≠ streamId → after.pending other = before.pending other
  kept : ∀ entry, after.pending streamId = some entry →
    ∃ held, before.pending streamId = some held ∧ held.streaming = entry.streaming

namespace Bridge.Turns

variable {bridge : Bridge} {streamId : String}

theorem refl : Turns streamId bridge bridge :=
  ⟨fun _ _ => rfl, fun entry pending => ⟨entry, pending, rfl⟩⟩

theorem expect {after : Bridge} (turns : Turns streamId bridge after) (other : String) :
    Turns streamId bridge (after.expect other) := ⟨turns.others, turns.kept⟩

theorem put_none (consumer : Consumer) : Turns streamId bridge
    (bridge.put streamId none consumer) := by
  constructor
  · intro other different
    exact bridge.put_pending_other _ _ _ different
  · simp

theorem put_some {held entry : Pending} (pending : bridge.pending streamId = some held)
    (streaming : held.streaming = entry.streaming) (consumer : Consumer) :
    Turns streamId bridge (bridge.put streamId (some entry) consumer) := by
  constructor
  · intro other different
    exact bridge.put_pending_other _ _ _ different
  · simp [pending, streaming]

theorem ite {condition : Prop} [Decidable condition] {first second : Bridge}
    (turnsFirst : Turns streamId bridge first) (turnsSecond : Turns streamId bridge second) :
    Turns streamId bridge (if condition then first else second) := by
  split
  · exact turnsFirst
  · exact turnsSecond

theorem handleHTTPResponse (head : Head) (bodyFollows : Bool) :
    Turns streamId bridge (Tunnel.handleHTTPResponse bridge streamId head bodyFollows) := by
  unfold Tunnel.handleHTTPResponse
  cases pending : bridge.pending streamId with
  | none => exact refl
  | some entry =>
      cases bodyFollows with
      | false => exact ite (put_none _) (put_none _)
      | true =>
          exact ite ((put_some pending (by rfl) _).expect _)
            ((put_some pending (by rfl) _).expect _)

theorem handleStreamClose (reason : Option String) :
    Turns streamId bridge (Tunnel.handleStreamClose bridge streamId reason) := by
  grind [Tunnel.handleStreamClose, refl, put_none]

theorem handleBodyChunk : Turns streamId bridge (Tunnel.handleBodyChunk bridge streamId) := by
  unfold Tunnel.handleBodyChunk
  cases pending : bridge.pending streamId with
  | none => exact refl
  | some entry => exact (put_some pending (by rfl) _).expect _

theorem handleBodyEnd : Turns streamId bridge (Tunnel.handleBodyEnd bridge streamId) := by
  unfold Tunnel.handleBodyEnd
  cases bridge.pending streamId with
  | none => exact refl
  | some entry => exact ite (put_none _) (put_none _)

theorem handlePayload (unread : String → Nat → Nat) (data : Bytes) :
    Turns streamId bridge (Tunnel.handlePayload bridge streamId unread data) := by
  unfold Tunnel.handlePayload
  cases pending : bridge.pending streamId with
  | none => exact refl
  | some entry =>
      apply ite
      · exact ite (put_none _) (put_some pending (by rfl) _)
      · exact ite (put_some pending (by rfl) _) refl

end Bridge.Turns

/-! ### Steps that admit nothing -/

def Request.identity (request : Request) : String × RequestKind := (request.streamId, request.kind)

namespace SessionHandler

variable {handler : SessionHandler}

def outcomeAt (handler : SessionHandler) (request : Nat) : Option Outcome :=
  handler.requests[request]?.bind Request.outcome

/-- The outcome of the request a caller made under a drawn id. -/
def outcome (handler : SessionHandler) (streamId : String) : Option Outcome :=
  handler.outcomeAt (handler.requestOf streamId)

theorem requestOf_eq (handler : SessionHandler) (streamId : String) :
    handler.requestOf streamId = (handler.requests.map Request.identity).findIdx
      fun identity => identity.1 == streamId && identity.2 != .client := by
  rw [List.findIdx_map]
  rfl

/-- The requests are the same and have gone on, and one that is no longer pending has been settled,
unless its response was streamed. A session that is closing stays so, unless the step reopens it. -/
structure Proceeds (reopens : Prop) (before after : SessionHandler) : Prop where
  identities : after.requests.map Request.identity = before.requests.map Request.identity
  outcomes : ∀ request outcome, before.outcomeAt request = some outcome →
    after.outcomeAt request = some outcome
  pending : ∀ streamId entry, after.bridge.pending streamId = some entry →
    ∃ held, before.bridge.pending streamId = some held ∧ held.streaming = entry.streaming
  left : ∀ streamId held, before.bridge.pending streamId = some held →
    after.bridge.pending streamId = none → held.streaming = false →
      (after.outcome streamId).isSome = true
  limiter : after.session.limiter = none →
    before.session.limiter = none ∨ ∀ streamId, after.bridge.pending streamId = none
  protocol : after.session.protocol = before.session.protocol
  status : before.status = .closing → after.status = .closing ∨ reopens

section Proceeding

variable {reopens : Prop}

namespace Proceeds

variable {before middle after : SessionHandler}

theorem requestOf (proceeds : Proceeds reopens before after) (streamId : String) :
    after.requestOf streamId = before.requestOf streamId := by
  rw [requestOf_eq, requestOf_eq, proceeds.identities]

theorem outcome (proceeds : Proceeds reopens before after) {streamId : String} {outcome : Outcome}
    (settled : before.outcome streamId = some outcome) :
    after.outcome streamId = some outcome := by
  rw [SessionHandler.outcome, proceeds.requestOf]
  exact proceeds.outcomes _ _ settled

theorem trans (first : Proceeds reopens before middle) (second : Proceeds reopens middle after) :
    Proceeds reopens before after := by
  constructor
  · rw [second.identities, first.identities]
  · intro request outcome settled
    exact second.outcomes _ _ (first.outcomes _ _ settled)
  · grind [second.pending, first.pending]
  · intro streamId held was gone buffered
    cases between : middle.bridge.pending streamId with
    | none =>
        have settled := first.left streamId held was between buffered
        obtain ⟨outcome, isOutcome⟩ := Option.isSome_iff_exists.mp settled
        rw [second.outcome isOutcome]
        rfl
    | some entry =>
        grind [first.pending, second.left]
  · intro unregistered
    rcases second.limiter unregistered with earlier | gone
    · rcases first.limiter earlier with before | gone
      · exact .inl before
      · right
        intro streamId
        cases later : after.bridge.pending streamId with
        | none => rfl
        | some entry =>
            grind [second.pending]
    · exact .inr gone
  · rw [second.protocol, first.protocol]
  · grind [first.status, second.status]

/-- The pending responses are left alone. -/
theorem of_requests (bridge : after.bridge.pending = before.bridge.pending)
    (identities : after.requests.map Request.identity = before.requests.map Request.identity)
    (outcomes : ∀ request outcome, before.outcomeAt request = some outcome →
      after.outcomeAt request = some outcome)
    (limiter : after.session.limiter = none → before.session.limiter = none)
    (protocol : after.session.protocol = before.session.protocol)
    (status : before.status = .closing → after.status = .closing ∨ reopens) :
        Proceeds reopens before after where
  identities := identities
  outcomes := outcomes
  pending := by
    grind
  left := by
    grind
  limiter := fun unregistered => .inl (limiter unregistered)
  protocol := protocol
  status := status

/-- Neither the requests nor the pending responses change. -/
theorem of_same (bridge : after.bridge.pending = before.bridge.pending)
    (requests : after.requests = before.requests)
    (limiter : after.session.limiter = before.session.limiter)
    (protocol : after.session.protocol = before.session.protocol)
    (status : before.status = .closing → after.status = .closing ∨ reopens) :
        Proceeds reopens before after := by
  apply of_requests bridge _ _ _ protocol status
  · rw [requests]
  · intro request outcome settled
    rw [outcomeAt, requests]
    exact settled
  · intro unregistered
    rw [← limiter]
    exact unregistered

theorem refl (handler : SessionHandler) : Proceeds reopens handler handler :=
    of_same rfl rfl rfl rfl .inl

/-- A request goes on. -/
theorem of_modify {request : Nat} {change : Request → Request}
    (bridge : after.bridge.pending = before.bridge.pending)
    (requests : after.requests = before.requests.modify request change)
    (identity : ∀ held, (change held).identity = held.identity)
    (outcome : ∀ held outcome, held.outcome = some outcome → (change held).outcome = some outcome)
    (limiter : after.session.limiter = none → before.session.limiter = none)
    (protocol : after.session.protocol = before.session.protocol)
    (status : before.status = .closing → after.status = .closing ∨ reopens) :
        Proceeds reopens before after := by
  apply of_requests bridge _ _ limiter protocol status
  · rw [requests]
    apply List.ext_getElem?
    grind
  · grind [outcomeAt]

/-- A step that changes the entry of one stream, if its response was streamed or the entry stays. -/
theorem turn {streamId : String} {bridge : Bridge}
    (turns : Bridge.Turns streamId handler.bridge bridge)
    (streamed : ∀ held, handler.bridge.pending streamId = some held →
      bridge.pending streamId = none → held.streaming = true) :
    Proceeds reopens handler { handler with bridge := bridge } where
  identities := rfl
  outcomes := fun _ _ settled => settled
  pending := by
    grind [turns.kept, turns.others]
  left := by
    grind [turns.others]
  limiter := .inl
  protocol := rfl
  status := .inl

theorem settle (handler : SessionHandler) (streamId : String) (outcome : Outcome) :
    Proceeds reopens handler (handler.settle streamId outcome) := by
  refine of_modify rfl rfl (fun _ => rfl) ?_ id rfl .inl
  grind

theorem outcome_settle (streamId : String) (outcome : Outcome)
    (known : handler.requestOf streamId < handler.requests.length) :
    ((handler.settle streamId outcome).outcome streamId).isSome = true := by
  rw [SessionHandler.outcome, (@settle False handler streamId outcome).requestOf]
  simp [outcomeAt, SessionHandler.settle, known]

/-- An entry of one stream changes, and the stream's request is settled. -/
theorem turn_settle {streamId : String} {bridge : Bridge} (outcome : Outcome)
    (turns : Bridge.Turns streamId handler.bridge bridge)
    (known : (handler.bridge.pending streamId).isSome = true →
      handler.requestOf streamId < handler.requests.length) :
    Proceeds reopens handler ({ handler with bridge := bridge }.settle streamId outcome) where
  identities := (@settle reopens { handler with bridge := bridge } streamId outcome).identities
  outcomes := (@settle reopens { handler with bridge := bridge } streamId outcome).outcomes
  pending := by
    intro other entry pending
    by_cases same : other = streamId
    · subst same
      exact turns.kept entry pending
    · have held : bridge.pending other = some entry := pending
      grind [turns.others]
  left := by
    intro other held was gone buffered
    by_cases same : other = streamId
    · subst same
      exact @outcome_settle { handler with bridge := bridge } other outcome
        (known (by rw [was]; rfl))
    · have stays : bridge.pending other = none := gone
      rw [turns.others other same, was] at stays
      cases stays
  limiter := .inl
  protocol := rfl
  status := .inl

/-! ### The parts of a step -/

theorem send (handler : SessionHandler) (client : Client) (item : Sent) :
    Proceeds reopens handler (handler.send client item) := by
  cases client with
  | socket id => exact of_same rfl rfl rfl rfl .inl
  | sentinel id => exact refl handler

theorem broadcast (handler : SessionHandler) (data : Bytes) :
    Proceeds reopens handler (handler.broadcast data) := by
  suffices sends : ∀ (clients : List Client) (start : SessionHandler), Proceeds reopens start
      (clients.foldl (fun handler client => handler.send client (.payload data)) start) from
    sends handler.clients handler
  intro clients
  induction clients with
  | nil => exact refl
  | cons client rest inductionHypothesis =>
      intro start
      exact (send start client _).trans (inductionHypothesis _)

theorem removeStream (handler : SessionHandler) (streamId : String) :
    Proceeds reopens handler (handler.removeStream streamId) := of_same rfl rfl rfl rfl .inl

theorem release (handler : SessionHandler) (request : Nat) :
    Proceeds reopens handler (handler.release request) := by
  refine of_modify rfl rfl (fun _ => rfl) (fun _ _ settled => settled) ?_ rfl .inl
  intro unregistered
  exact Option.map_eq_none_iff.mp unregistered

theorem releaseStream (handler : SessionHandler) (entry : StreamEntry) :
    Proceeds reopens handler (handler.releaseStream entry) := by
  grind [SessionHandler.releaseStream, release, refl]

theorem releasePending (handler : SessionHandler) (streamId : String) :
    Proceeds reopens handler (handler.releasePending streamId) := by
  grind [SessionHandler.releasePending, refl, release]

theorem endWriting (handler : SessionHandler) (request : Nat) :
    Proceeds reopens handler (handler.endWriting request) :=
  of_modify rfl rfl (fun _ => rfl) (fun _ _ settled => settled) id rfl .inl

theorem forwardToClient (handler : SessionHandler) (value : Json) (streamId : String) :
    Proceeds reopens handler (handler.forwardToClient value streamId) := by
  unfold SessionHandler.forwardToClient
  split
  · exact refl handler
  · exact send handler _ _

theorem forwardLast (handler : SessionHandler) (value : Json) (streamId : String) :
    Proceeds reopens handler (handler.forwardLast value streamId) := by
  unfold SessionHandler.forwardLast
  split
  · exact refl handler
  · exact ((send handler _ _).trans (releaseStream _ _)).trans (removeStream _ _)

theorem sendPayload (handler : SessionHandler) (streamId : String) (data : Bytes) :
    Proceeds reopens handler (handler.sendPayload streamId data) := by
  grind [SessionHandler.sendPayload, send, broadcast]

theorem detachStream (handler : SessionHandler) (client : Client) (streamId : String) :
    Proceeds reopens handler (handler.detachStream client streamId) := by
  unfold SessionHandler.detachStream
  split
  · exact refl handler
  · split
    · exact (releaseStream _ _).trans (removeStream _ _)
    · exact refl handler

/-- Steps that are made one after the other. -/
theorem foldl {α : Type} {step : SessionHandler → α → SessionHandler}
    (proceeds : ∀ handler item, Proceeds reopens handler (step handler item)) (items : List α)
    (handler : SessionHandler) : Proceeds reopens handler (items.foldl step handler) := by
  induction items generalizing handler with
  | nil => exact refl handler
  | cons item rest inductionHypothesis =>
      exact (proceeds handler item).trans (inductionHypothesis _)

theorem detach (handler : SessionHandler) (client : Client) :
    Proceeds reopens handler (handler.detach client) := by
  unfold SessionHandler.detach
  have left : Proceeds reopens handler
      { handler with clients := handler.clients.filter fun other => other != client } :=
    of_same rfl rfl rfl rfl .inl
  grind [foldl, detachStream, left.trans]

end Proceeds

/-! ### The invariant -/

/-- A drawn id finds its request; a pending response belongs to a request of its kind, and a direct
request that is not pending has been settled. -/
structure Registered (handler : SessionHandler) : Prop where
  drawn : ∀ (index : Nat) (request : Request), handler.requests[index]? = some request →
    request.kind ≠ .client → handler.requestOf request.streamId = index
  pending : ∀ streamId entry, handler.bridge.pending streamId = some entry →
    ∃ request, handler.requests[handler.requestOf streamId]? = some request ∧
      request.identity = (streamId, if entry.streaming then .streaming else .direct)
  settled : ∀ (index : Nat) (request : Request), handler.requests[index]? = some request →
    request.kind = .direct → handler.bridge.pending request.streamId = none →
      request.outcome.isSome = true
  raw : handler.session.protocol = .raw → handler.requests = []
  unregistered : handler.session.limiter = none → ∀ streamId, handler.bridge.pending streamId = none

namespace Registered

variable {before after : SessionHandler}

theorem known (registered : Registered handler) {streamId : String}
    (pending : (handler.bridge.pending streamId).isSome = true) :
    handler.requestOf streamId < handler.requests.length := by
  obtain ⟨entry, held⟩ := Option.isSome_iff_exists.mp pending
  grind [registered.pending]

theorem was (proceeds : Proceeds reopens before after) {index : Nat} {request : Request}
    (found : after.requests[index]? = some request) :
    ∃ earlier, before.requests[index]? = some earlier ∧ earlier.identity = request.identity := by
  have identities := congrArg (fun list : List (String × RequestKind) => list[index]?)
    proceeds.identities
  grind

theorem becomes (proceeds : Proceeds reopens before after) {index : Nat} {request : Request}
    (found : before.requests[index]? = some request) :
    ∃ later, after.requests[index]? = some later ∧ later.identity = request.identity := by
  have identities := congrArg (fun list : List (String × RequestKind) => list[index]?)
    proceeds.identities
  grind

/-- The invariant is kept where nothing is admitted. -/
theorem proceeds (registered : Registered before) (proceeds : Proceeds reopens before after) :
    Registered after := by
  constructor
  · intro index request found drawn
    obtain ⟨earlier, isEarlier, same⟩ := was proceeds found
    obtain ⟨sameId, sameKind⟩ := Prod.mk.inj same
    rw [proceeds.requestOf, ← sameId]
    grind [registered.drawn]
  · intro streamId entry pending
    grind [becomes, proceeds.pending, registered.pending, proceeds.requestOf]
  · intro index request found direct notPending
    obtain ⟨earlier, isEarlier, same⟩ := was proceeds found
    obtain ⟨sameId, sameKind⟩ := Prod.mk.inj same
    have kind : earlier.kind = .direct := sameKind.trans direct
    cases wasPending : before.bridge.pending request.streamId with
    | none =>
        have settled := registered.settled index earlier isEarlier kind (by rw [sameId, wasPending])
        obtain ⟨outcome, isOutcome⟩ := Option.isSome_iff_exists.mp settled
        have at_ : before.outcomeAt index = some outcome := by
          unfold outcomeAt
          rw [isEarlier]
          exact isOutcome
        have later := proceeds.outcomes index outcome at_
        unfold outcomeAt at later
        grind
    | some held =>
        have index_eq : before.requestOf request.streamId = index := by
          rw [← sameId]
          apply registered.drawn index earlier isEarlier
          rw [kind]
          exact RequestKind.noConfusion
        obtain ⟨own, isOwn, identity⟩ := registered.pending request.streamId held wasPending
        rw [index_eq, isEarlier] at isOwn
        cases isOwn
        have buffered : held.streaming = false := by
          have ownKind := (Prod.mk.inj identity).2
          rw [kind] at ownKind
          cases streaming : held.streaming with
          | false => rfl
          | true =>
              rw [streaming] at ownKind
              cases ownKind
        have settled := proceeds.left request.streamId held wasPending notPending buffered
        unfold SessionHandler.outcome outcomeAt at settled
        rw [proceeds.requestOf, index_eq, found] at settled
        exact settled
  · intro raw
    have none := registered.raw (proceeds.protocol.symm.trans raw)
    grind [proceeds.identities, List.map_eq_nil_iff.mp]
  · intro unregistered streamId
    rcases proceeds.limiter unregistered with earlier | gone
    · cases pending : after.bridge.pending streamId with
      | none => rfl
      | some entry =>
          grind [proceeds.pending, registered.unregistered]
    · exact gone streamId

end Registered

/-! ### Every step -/

section Stays

variable {bridge : Bridge} {streamId : String} {entry : Pending}

theorem stays_httpResponse (pending : bridge.pending streamId = some entry) (head : Head) :
    (Tunnel.handleHTTPResponse bridge streamId head true).pending streamId ≠ none := by
  unfold Tunnel.handleHTTPResponse
  rw [pending]
  dsimp only
  split <;> simp

theorem stays_bodyChunk (pending : bridge.pending streamId = some entry) :
    (Tunnel.handleBodyChunk bridge streamId).pending streamId ≠ none := by
  unfold Tunnel.handleBodyChunk
  rw [pending]
  simp

theorem stays_payload (pending : bridge.pending streamId = some entry)
    (buffered : entry.streaming = false) (unread : String → Nat → Nat) (data : Bytes) :
    (Tunnel.handlePayload bridge streamId unread data).pending streamId ≠ none := by
  unfold Tunnel.handlePayload
  rw [pending]
  dsimp only
  rw [buffered, if_neg Bool.false_ne_true]
  split
  · simp
  · rw [pending]
    exact Option.some_ne_none entry

end Stays

namespace Registered

theorem handleHTTPResponse (registered : Registered handler) (value : Json) (streamId : String)
    (head : Head) (bodyFollows : Bool) :
    Proceeds reopens handler (handler.handleHTTPResponse value streamId head bodyFollows) := by
  unfold SessionHandler.handleHTTPResponse
  have turns : Bridge.Turns streamId handler.bridge
      (Tunnel.handleHTTPResponse handler.bridge streamId head bodyFollows) :=
    Bridge.Turns.handleHTTPResponse head bodyFollows
  cases pending : handler.bridge.pending streamId with
  | none =>
      grind [Proceeds.forwardToClient, Proceeds.forwardLast]
  | some entry =>
      cases bodyFollows with
      | true =>
          have resolved : Proceeds reopens handler { handler with
              bridge := Tunnel.handleHTTPResponse handler.bridge streamId head true } :=
            Proceeds.turn turns fun held _ gone => absurd gone (stays_httpResponse pending head)
          dsimp only
          rw [if_pos rfl]
          grind [Proceeds.settle, resolved.trans]
      | false =>
          exact (Proceeds.turn_settle .resolved turns registered.known).trans
            (Proceeds.releasePending _ _)

theorem handleStreamClose (registered : Registered handler) (value : Json) (streamId : String)
    (reason : Option String) : Proceeds reopens handler
        (handler.handleStreamClose value streamId reason) := by
  unfold SessionHandler.handleStreamClose
  cases handler.bridge.pending streamId with
  | none => exact Proceeds.forwardLast handler value streamId
  | some entry =>
      exact (Proceeds.turn_settle _ (Bridge.Turns.handleStreamClose reason) registered.known).trans
        (Proceeds.releasePending _ _)

theorem handleBodyEnd (registered : Registered handler) (value : Json) (streamId : String) :
    Proceeds reopens handler (handler.handleBodyEnd value streamId) := by
  unfold SessionHandler.handleBodyEnd
  cases pending : handler.bridge.pending streamId with
  | none =>
      grind [Proceeds.refl, Proceeds.forwardToClient, Proceeds.forwardLast]
  | some entry =>
      dsimp only
      split
      · rename_i streaming
        apply Proceeds.trans _ (Proceeds.releasePending _ _)
        grind [Proceeds.turn, Bridge.Turns.handleBodyEnd]
      · exact (Proceeds.turn_settle _ Bridge.Turns.handleBodyEnd registered.known).trans
          (Proceeds.releasePending _ _)

end Registered

namespace Proceeds

theorem handleBodyChunk (handler : SessionHandler) (value : Json) (streamId : String) :
    Proceeds reopens handler (handler.handleBodyChunk value streamId) := by
  unfold SessionHandler.handleBodyChunk
  cases pending : handler.bridge.pending streamId with
  | none =>
      dsimp only
      split
      · exact refl handler
      · have expects : Proceeds reopens handler
            { handler with bridge := handler.bridge.expect streamId } :=
          of_same rfl rfl rfl rfl .inl
        exact expects.trans (send _ _ _)
  | some entry =>
      exact turn Bridge.Turns.handleBodyChunk fun held _ gone =>
          absurd gone (stays_bodyChunk pending)

theorem handleWSData (handler : SessionHandler) (value : Json) (streamId : String)
    (bodyFollows : Bool) : Proceeds reopens handler (handler.handleWSData value streamId
        bodyFollows) := by
  have expects : Proceeds reopens handler
      { handler with bridge := Tunnel.handleWSData handler.bridge streamId bodyFollows } := by
    refine of_same ?_ rfl rfl rfl .inl
    cases bodyFollows <;> rfl
  exact expects.trans (forwardToClient _ _ _)

/-- A message that says the agent is ready reopens the session. -/
theorem handleOther (handler : SessionHandler) (value : Json)
    (ready : messageType value = some "ready" → reopens) :
    Proceeds reopens handler (handler.handleOther value) := by
  unfold SessionHandler.handleOther
  split
  · split
    · rename_i isReady
      exact of_same rfl rfl rfl rfl fun _ => .inr (ready isReady)
    · grind [refl, forwardToClient]
  · exact refl handler

theorem handleAgentBinary (handler : SessionHandler) (unread : String → Nat → Nat) (data : Bytes) :
    Proceeds reopens handler (handler.handleAgentBinary unread data) := by
  unfold SessionHandler.handleAgentBinary
  split
  · exact broadcast handler data
  · rename_i streamId _
    have taken : Proceeds reopens handler
        { handler with bridge := { handler.bridge with nextBinaryStreamId := none } } :=
      of_same rfl rfl rfl rfl .inl
    apply taken.trans
    dsimp only
    cases pending : handler.bridge.pending streamId with
    | none => exact sendPayload _ _ _
    | some entry =>
        dsimp only
        split
        · have turns := @Bridge.Turns.handlePayload
            { handler.bridge with nextBinaryStreamId := none } streamId unread data
          have handed := @turn { handler with
            bridge := { handler.bridge with nextBinaryStreamId := none } } reopens streamId _ turns
              (by
                intro held isHeld gone
                cases streaming : held.streaming with
                | true => rfl
                | false => exact absurd gone (stays_payload isHeld streaming unread data))
          split
          · exact handed
          · exact handed.trans (releasePending _ _)
        · exact sendPayload _ _ _

end Proceeds

namespace Registered

theorem handleAgentMessage (registered : Registered handler) (value : Json)
    (ready : messageType value = some "ready" → reopens) :
    Proceeds reopens handler (handler.handleAgentMessage value) := by
  grind [SessionHandler.handleAgentMessage, Proceeds.refl, Proceeds.handleWSData,
    Proceeds.handleBodyChunk, Proceeds.handleOther, registered.handleHTTPResponse,
    registered.handleStreamClose, registered.handleBodyEnd]

theorem fail (registered : Registered handler) (streamId reason : String) :
    Proceeds reopens handler (handler.fail streamId reason) :=
  Proceeds.turn_settle _ (Bridge.Turns.put_none _) registered.known

theorem timeout (registered : Registered handler) (streamId : String) :
    Proceeds reopens handler (handler.timeout streamId) := by
  unfold SessionHandler.timeout
  split
  · exact Proceeds.refl handler
  · split
    · exact Proceeds.refl handler
    · exact (registered.fail streamId _).trans (Proceeds.releasePending _ _)

theorem cancel (handler : SessionHandler) (streamId : String) :
    Proceeds reopens handler (handler.cancel streamId) := by
  unfold SessionHandler.cancel
  cases pending : handler.bridge.pending streamId with
  | none => exact Proceeds.refl handler
  | some entry =>
      dsimp only
      split
      · rename_i streaming
        apply Proceeds.trans _ (Proceeds.releasePending _ _)
        apply Proceeds.turn (Bridge.Turns.put_none _)
        simp [pending, streaming]
      · exact Proceeds.refl handler

theorem writeFails (registered : Registered handler) (request : Nat) (error : String) :
    Proceeds reopens handler (handler.writeFails request error) := by
  unfold SessionHandler.writeFails
  split
  · exact Proceeds.refl handler
  · rename_i held _
    split
    · exact Proceeds.refl handler
    · have ended : Proceeds reopens handler (handler.endWriting request) :=
        Proceeds.endWriting handler request
      have stays := registered.proceeds ended
      apply ended.trans
      dsimp only
      cases held.kind with
      | client =>
          exact Proceeds.of_modify rfl rfl (fun _ => rfl) (fun _ _ settled => settled) id rfl .inl
      | direct =>
          dsimp only
          split
          · exact Proceeds.release _ _
          · exact (stays.fail _ _).trans (Proceeds.release _ _)
      | streaming =>
          dsimp only
          split
          · exact Proceeds.refl _
          · exact (stays.fail _ _).trans (Proceeds.releasePending _ _)

/-! ### Teardown -/

theorem rejectPending (registered : Registered handler) (streamId : String) :
    Proceeds reopens handler (handler.rejectPending streamId) := by
  unfold SessionHandler.rejectPending
  split
  · exact Proceeds.refl handler
  · exact (registered.fail streamId _).trans (Proceeds.releasePending _ _)

theorem bridge_releasePending (handler : SessionHandler) (streamId : String) :
    (handler.releasePending streamId).bridge = handler.bridge := by
  unfold SessionHandler.releasePending
  dsimp only
  split
  · rfl
  · split <;> rfl

theorem rejectPending_self (handler : SessionHandler) (streamId : String) :
    (handler.rejectPending streamId).bridge.pending streamId = none := by
  unfold SessionHandler.rejectPending
  split
  · assumption
  · rw [bridge_releasePending]
    exact handler.bridge.put_pending streamId none _

theorem rejectEach (registered : Registered handler) (ids : List String) :
    Proceeds reopens handler (ids.foldl SessionHandler.rejectPending handler) ∧
      ∀ streamId ∈ ids,
        (ids.foldl SessionHandler.rejectPending handler).bridge.pending streamId = none := by
  induction ids generalizing handler with
  | nil =>
      simp [Proceeds.refl]
  | cons first rest inductionHypothesis =>
      have here : Proceeds reopens handler (handler.rejectPending first) :=
        registered.rejectPending first
      obtain ⟨later, gone⟩ := inductionHypothesis (registered.proceeds here)
      constructor
      · exact here.trans later
      · intro streamId member
        rcases List.mem_cons.mp member with rfl | inRest
        · cases pending : ((streamId :: rest).foldl SessionHandler.rejectPending
            handler).bridge.pending streamId with
          | none => rfl
          | some entry =>
              obtain ⟨held, was, _⟩ := later.pending streamId entry pending
              rw [rejectPending_self] at was
              cases was
        · exact gone streamId inRest

theorem mem_drawnIds (registered : Registered handler) {streamId : String} {entry : Pending}
    (pending : handler.bridge.pending streamId = some entry) : streamId ∈ handler.drawnIds := by
  obtain ⟨request, found, identity⟩ := registered.pending streamId entry pending
  obtain ⟨sameId, sameKind⟩ := Prod.mk.inj identity
  apply List.mem_map.mpr
  refine ⟨request, List.mem_filter.mpr ⟨List.mem_of_getElem? found, ?_⟩, sameId⟩
  rw [sameKind]
  cases entry.streaming <;> rfl

/-- Nothing is pending after the loop of teardown. -/
theorem rejectAll (registered : Registered handler) :
    Proceeds reopens handler handler.rejectAll ∧
      ∀ streamId, handler.rejectAll.bridge.pending streamId = none := by
  obtain ⟨proceeds, gone⟩ := registered.rejectEach handler.drawnIds
  refine ⟨proceeds, ?_⟩
  intro streamId
  cases pending : handler.rejectAll.bridge.pending streamId with
  | none => rfl
  | some entry =>
      obtain ⟨held, was, _⟩ := proceeds.pending streamId entry pending
      have none := gone streamId (registered.mem_drawnIds was)
      rw [show handler.drawnIds.foldl SessionHandler.rejectPending handler = handler.rejectAll from
        rfl, pending] at none
      cases none

theorem unregister (gone : ∀ streamId, handler.bridge.pending streamId = none) :
    Proceeds reopens handler handler.unregister where
  identities := by
    unfold SessionHandler.unregister
    dsimp only
    rw [List.map_map]
    apply List.map_congr_left
    intro request _
    dsimp only [Function.comp]
    split <;> rfl
  outcomes := by
    intro index outcome settled
    unfold outcomeAt SessionHandler.unregister at *
    dsimp only
    rw [List.getElem?_map]
    cases found : handler.requests[index]? with
    | none =>
        rw [found] at settled
        cases settled
    | some request =>
        rw [found] at settled
        rw [Option.map_some, Option.bind_some]
        split
        · exact settled
        · exact settled
  pending := fun streamId entry pending => ⟨entry, pending, rfl⟩
  left := by
    simp [gone]
  limiter := fun _ => .inr gone
  protocol := rfl
  status := .inl

theorem noneOfRaw (registered : Registered handler) (raw : handler.session.protocol = .raw)
    (streamId : String) : handler.bridge.pending streamId = none := by
  cases pending : handler.bridge.pending streamId with
  | none => rfl
  | some entry =>
      grind [registered.pending, registered.raw]

theorem teardownKilled (registered : Registered handler) :
    Proceeds reopens handler handler.teardownKilled := by
  unfold SessionHandler.teardownKilled
  split
  · exact Proceeds.refl handler
  · have counted (ended : SessionHandler) : Proceeds reopens ended
        { ended with closingKills := handler.closingKills - 1 } :=
      Proceeds.of_same rfl rfl rfl rfl .inl
    refine Proceeds.trans ?_ (counted _)
    split
    · obtain ⟨rejects, gone⟩ := registered.rejectAll
      have dropped (rejected : SessionHandler) : Proceeds reopens rejected { rejected with
          streams := .empty
          bridge := { rejected.bridge with nextBinaryStreamId := none } } :=
        Proceeds.of_same rfl rfl rfl rfl .inl
      exact rejects.trans ((dropped _).trans (unregister (by exact gone)))
    · rename_i notFramed
      apply unregister
      apply registered.noneOfRaw
      cases isProtocol : handler.session.protocol with
      | framed => exact absurd isProtocol notFramed
      | raw => rfl

theorem teardown (handler : SessionHandler) : Proceeds reopens handler handler.teardown := by
  grind [SessionHandler.teardown, Proceeds.of_same]

theorem execEnds (registered : Registered handler) : Proceeds reopens handler handler.execEnds := by
  unfold SessionHandler.execEnds
  split
  · exact Proceeds.refl handler
  · split
    · rename_i raw
      unfold SessionHandler.handleExecEnd
      split
      · exact Proceeds.refl handler
      · have closing : Proceeds reopens handler { handler with status := .closing } :=
          Proceeds.of_same rfl rfl rfl rfl fun _ => .inl rfl
        exact closing.trans (unregister (by exact registered.noneOfRaw raw))
    · split
      · exact Proceeds.refl handler
      · exact teardown handler

/-! ### Admission -/

end Registered

end Proceeding

end SessionHandler

theorem Session.takeSlot_eq_some {session acquired : Session} (admitted :
    session.takeSlot = some acquired) :
    session.protocol = .framed ∧ ∃ entry, session.limiter = some entry ∧
        entry.inFlight < entry.max ∧
      acquired = { session with
        limiter := some { entry with inFlight := entry.inFlight + 1 } } := by
  grind [Session.takeSlot, Session.acquire]

/-- A client's request is admitted as a caller's is. -/
theorem takeSlot_of_sent {session acquired : Session} {streamId : String} {req : HTTPRequestMsg}
    {body : Option Bytes} {frames : List Frame}
    (sent : proxyHTTPRequest session streamId req body = .ok (.sent acquired frames)) :
    session.takeSlot = some acquired := by
  unfold proxyHTTPRequest at sent
  unfold Session.takeSlot
  grind

namespace SessionHandler

variable {handler : SessionHandler}

/-- Where the session takes no request, the client is told so at most. -/
theorem proxyHTTPRequest_cases (handler : SessionHandler) (asker : Client) (streamId : String)
    (req : HTTPRequestMsg) (body : Option Bytes) :
    (∃ sent, handler.proxyHTTPRequest asker streamId req body = { handler with sent := sent }) ∨
      ∃ ws acquired, handler.clients.getLast? = some ws ∧ handler.session.takeSlot = some acquired ∧
        handler.proxyHTTPRequest asker streamId req body =
          { handler with
            session := acquired
            streams := handler.streams.set streamId ⟨ws, .http handler.requests.length, asker⟩
            requests := handler.requests ++ [newRequest streamId .client]
            operations := handler.operations ++ [.proxyHTTPRequest streamId req body] } := by
  unfold SessionHandler.proxyHTTPRequest
  split
  · rename_i ws reply _ _
    cases ws with
    | socket id => exact .inl ⟨handler.sent ++ [(.socket id, .limited reply)], rfl⟩
    | sentinel id => exact .inl ⟨handler.sent, rfl⟩
  · rename_i ws acquired frames last sent
    exact .inr ⟨ws, acquired, last, takeSlot_of_sent sent, rfl⟩
  · exact .inl ⟨handler.sent, rfl⟩

section Proceeding

variable {reopens : Prop}

namespace Registered

theorem requestOf_append {after : SessionHandler} {request : Request}
    (requests : after.requests = handler.requests ++ [request]) {streamId : String}
    (known : handler.requestOf streamId < handler.requests.length) :
    after.requestOf streamId = handler.requestOf streamId := by
  grind [requestOf]

theorem requestOf_new {after : SessionHandler} {request : Request}
    (requests : after.requests = handler.requests ++ [request]) (drawn : request.kind ≠ .client)
    (fresh : ∀ other ∈ handler.requests, other.streamId ≠ request.streamId) :
    after.requestOf request.streamId = handler.requests.length := by
  have none : ¬handler.requests.findIdx (fun other =>
      other.streamId == request.streamId && other.kind != .client) < handler.requests.length := by
    intro found
    have holds := @List.findIdx_getElem _ _ _ found
    grind
  grind [requestOf]

/-- A request is admitted: a caller's under a new id, and its response is pending. -/
theorem append (registered : Registered handler) {after : SessionHandler} {request : Request}
    (requests : after.requests = handler.requests ++ [request])
    (fresh : request.kind ≠ .client → ∀ other ∈ handler.requests, other.streamId ≠ request.streamId)
    (pending : ∀ streamId entry, after.bridge.pending streamId = some entry →
      handler.bridge.pending streamId = some entry ∨
        request.identity = (streamId, if entry.streaming then .streaming else .direct))
    (kept : ∀ streamId, after.bridge.pending streamId = none →
      handler.bridge.pending streamId = none)
    (waits : request.kind = .direct → after.bridge.pending request.streamId ≠ none)
    (framed : after.session.protocol = .framed) (taken : after.session.limiter ≠ none) :
    Registered after := by
  have split : ∀ (index : Nat) (found : Request), after.requests[index]? = some found →
      handler.requests[index]? = some found ∨
        index = handler.requests.length ∧ found = request := by
    grind
  constructor
  · intro index found isFound drawn
    rcases split index found isFound with old | ⟨rfl, rfl⟩
    · have same := registered.drawn index found old drawn
      grind [requestOf_append]
    · exact requestOf_new requests drawn (fresh drawn)
  · intro streamId entry isPending
    rcases pending streamId entry isPending with old | new
    · grind [requestOf_append, registered.pending]
    · obtain ⟨sameId, sameKind⟩ := Prod.mk.inj new
      refine ⟨request, ?_, new⟩
      have drawn : request.kind ≠ .client := by
        rw [sameKind]
        split <;> exact RequestKind.noConfusion
      grind [requestOf_new]
  · grind [registered.settled]
  · intro raw
    rw [framed] at raw
    cases raw
  · intro unregistered
    exact absurd unregistered taken

theorem startRequest (registered : Registered handler) {kind : RequestKind} (drawn : kind ≠ .client)
    {streamId : String} (fresh : handler.isFresh streamId = true) (operation : Operation) :
    Registered (handler.startRequest kind streamId operation) := by
  unfold SessionHandler.startRequest
  split
  · exact registered
  · rename_i acquired admitted
    obtain ⟨framed, entry, _, _, rfl⟩ := Session.takeSlot_eq_some admitted
    refine registered.append rfl ?_ ?_ ?_ ?_ framed (Option.some_ne_none _)
    · intro _ other member same
      unfold isFresh at fresh
      rw [Bool.and_eq_true, List.all_eq_true] at fresh
      have different := fresh.2 other member
      rw [bne_iff_ne] at different
      exact different same
    · intro other held pending
      by_cases same : other = streamId
      · right
        subst same
        have registers : some (⟨kind == .streaming, none, [], false⟩ : Pending) = some held := by
          rw [← pending]
          exact (handler.bridge.put_pending other _ _).symm
        cases registers
        cases kind with
        | client => exact absurd rfl drawn
        | direct => rfl
        | streaming => rfl
      · left
        rw [← pending]
        exact (handler.bridge.put_pending_other _ _ _ same).symm
    · intro other gone
      by_cases same : other = streamId
      · subst same
        have registers := handler.bridge.put_pending other
          (some ⟨kind == .streaming, none, [], false⟩) Consumer.waiting
        rw [show (handler.bridge.put other (some ⟨kind == .streaming, none, [], false⟩)
          Consumer.waiting).pending other = none from gone] at registers
        cases registers
      · rw [← gone]
        exact (handler.bridge.put_pending_other _ _ _ same).symm
    · intro _ gone
      have registers := handler.bridge.put_pending streamId
        (some ⟨kind == .streaming, none, [], false⟩) Consumer.waiting
      rw [show (handler.bridge.put streamId (some ⟨kind == .streaming, none, [], false⟩)
        Consumer.waiting).pending streamId = none from gone] at registers
      cases registers

theorem proxyHTTPRequest (registered : Registered handler) (asker : Client) (streamId : String)
    (req : HTTPRequestMsg) (body : Option Bytes) :
    Registered (handler.proxyHTTPRequest asker streamId req body) := by
  rcases proxyHTTPRequest_cases handler asker streamId req body with
    ⟨sent, same⟩ | ⟨ws, acquired, _, admitted, same⟩
  · rw [same]
    exact registered.proceeds (@Proceeds.of_same False _ _ rfl rfl rfl rfl .inl)
  · rw [same]
    obtain ⟨framed, entry, _, _, rfl⟩ := Session.takeSlot_eq_some admitted
    refine registered.append rfl ?_ (fun _ _ pending => .inl pending) (fun _ gone => gone) ?_ framed
      (Option.some_ne_none _)
    · intro drawn
      exact absurd rfl drawn
    · intro direct
      cases direct

end Registered

/-- The input is a request, and the session takes it. -/
def admits (handler : SessionHandler) (input : HandlerInput) : Bool :=
  match input with
  | .direct .. => handler.session.takeSlot.isSome
  | .streaming .. => handler.session.takeSlot.isSome
  | .message client message =>
      match serverCall handler.pendingRequestBody client message with
      | .proxyHTTPRequest .. => handler.session.takeSlot.isSome
      | _ => false
  | _ => false

/-- The input sets the state to active, whatever it was. -/
def becomesActive (handler : SessionHandler) (input : HandlerInput) : Bool :=
  match input with
  | .agentText value => messageType value == some "ready"
  | .rawExecStarted => handler.rawStarts != 0
  | _ => false

theorem startRequest_none (kind : RequestKind) (streamId : String) (operation : Operation)
    (refused : ¬handler.session.takeSlot.isSome = true) :
    handler.startRequest kind streamId operation = handler := by
  grind [SessionHandler.startRequest]

theorem Proceeds.attach (handler : SessionHandler) (client : Client) :
    Proceeds reopens handler (handler.attach client) := by
  unfold SessionHandler.attach
  grind [of_same]

theorem Proceeds.proxyWSUpgrade (handler : SessionHandler) (ws : Client) (streamId : String)
    (msg : WSUpgradeMsg) : Proceeds reopens handler (handler.proxyWSUpgrade ws streamId msg) := by
  grind [SessionHandler.proxyWSUpgrade, of_same]

theorem Proceeds.forwardWSData (handler : SessionHandler) (streamId : String) (data : Bytes) :
    Proceeds reopens handler (handler.forwardWSData streamId data) := by
  grind [SessionHandler.forwardWSData, of_same]

/-- The handler, once a `Buffer` has been taken. -/
def awaitingAfter (handler : SessionHandler) (message : ClientMessage) : SessionHandler :=
  match message with
  | .text _ => handler
  | .buffer _ => { handler with pendingRequestBody := none }

theorem proceeds_awaitingAfter (handler : SessionHandler) (message : ClientMessage) :
    Proceeds reopens handler (handler.awaitingAfter message) := by
  cases message with
  | text text => exact Proceeds.refl handler
  | buffer data => exact Proceeds.of_same rfl rfl rfl rfl .inl

theorem session_awaitingAfter (handler : SessionHandler) (message : ClientMessage) :
    (handler.awaitingAfter message).session = handler.session := by
  cases message with
  | text text => rfl
  | buffer data => rfl

theorem handleMessage_eq (handler : SessionHandler) (client : Client) (message : ClientMessage) :
    handler.handleMessage client message = (handler.awaitingAfter message).perform client
      (serverCall handler.pendingRequestBody client message) := by
  cases message with
  | text text => rfl
  | buffer data => rfl

theorem handleMessage_proceeds (client : Client) (message : ClientMessage)
    (quiet : ¬handler.admits (.message client message) = true) :
    Proceeds reopens handler (handler.handleMessage client message) := by
  rw [handleMessage_eq]
  apply (proceeds_awaitingAfter handler message).trans
  unfold admits at quiet
  dsimp only at quiet
  cases call : serverCall handler.pendingRequestBody client message with
  | proxyHTTPRequest asker streamId req body =>
      rw [call] at quiet
      rcases proxyHTTPRequest_cases (handler.awaitingAfter message) asker streamId req body with
        ⟨sent, same⟩ | ⟨ws, acquired, _, admitted, _⟩
      · grind [perform, Proceeds.of_same]
      · grind [session_awaitingAfter]
  | proxyWSUpgrade streamId msg => exact Proceeds.proxyWSUpgrade _ _ _ _
  | forwardWSData streamId data => exact Proceeds.forwardWSData _ _ _
  | awaitBody pending => exact Proceeds.of_same rfl rfl rfl rfl .inl
  | nothing => exact Proceeds.refl _

namespace Registered

/-- A step that takes no request. -/
theorem step (registered : Registered handler) (unread : String → Nat → Nat)
    {input : HandlerInput} (quiet : ¬handler.admits input = true) :
    Proceeds (handler.becomesActive input = true) handler (handlerStep unread handler input) := by
  unfold handlerStep
  cases input with
  | attach client => exact Proceeds.attach handler client
  | detach client => exact Proceeds.detach handler client
  | message client message =>
      grind [handleMessage_proceeds, Proceeds.refl]
  | direct streamId method path headers body =>
      dsimp only [proxyHTTPDirect]
      rw [startRequest_none _ _ _ quiet, ite_self]
      exact Proceeds.refl handler
  | streaming streamId method path headers body =>
      dsimp only [proxyHTTPStreaming]
      rw [startRequest_none _ _ _ quiet, ite_self]
      exact Proceeds.refl handler
  | tunnelOpen client streamId msg =>
      grind [Proceeds.proxyWSUpgrade, Proceeds.refl]
  | tunnelMessage streamId data => exact Proceeds.forwardWSData handler streamId data
  | timeout streamId => exact registered.timeout streamId
  | cancel streamId => exact cancel handler streamId
  | written request => exact Proceeds.endWriting handler request
  | writeFails request error => exact registered.writeFails request error
  | spawned =>
      grind [Proceeds.of_same]
  | rawExecStarted =>
      dsimp only
      unfold SessionHandler.rawExecStarted
      split
      · exact Proceeds.refl handler
      · rename_i started
        exact Proceeds.of_same rfl rfl rfl rfl fun _ => .inr (bne_iff_ne.mpr started)
  | agentText value => exact registered.handleAgentMessage value beq_iff_eq.mpr
  | agentBinary data => exact Proceeds.handleAgentBinary handler unread data
  | execEnds => exact registered.execEnds
  | teardown => exact teardown handler
  | teardownWritten =>
      grind [SessionHandler.teardownWritten, Proceeds.of_same]
  | teardownKilled => exact registered.teardownKilled
  | sweep => exact Proceeds.of_same rfl rfl rfl rfl .inl

theorem handleMessage (registered : Registered handler) (client : Client)
    (message : ClientMessage) : Registered (handler.handleMessage client message) := by
  rw [handleMessage_eq]
  have left := registered.proceeds (@proceeds_awaitingAfter False handler message)
  cases serverCall handler.pendingRequestBody client message with
  | proxyHTTPRequest asker streamId req body => exact left.proxyHTTPRequest asker streamId req body
  | proxyWSUpgrade streamId msg => exact left.proceeds (@Proceeds.proxyWSUpgrade False _ _ _ _)
  | forwardWSData streamId data => exact left.proceeds (@Proceeds.forwardWSData False _ _ _)
  | awaitBody pending => exact left.proceeds (@Proceeds.of_same False _ _ rfl rfl rfl rfl .inl)
  | nothing => exact left

theorem kept (unread : String → Nat → Nat) (handler : SessionHandler) (input : HandlerInput)
    (registered : Registered handler) : Registered (handlerStep unread handler input) := by
  by_cases admits : handler.admits input = true
  · unfold handlerStep
    cases input with
    | direct streamId method path headers body =>
        dsimp only
        split
        · rename_i fresh
          exact registered.startRequest (by exact RequestKind.noConfusion) fresh _
        · exact registered
    | streaming streamId method path headers body =>
        dsimp only
        split
        · rename_i fresh
          exact registered.startRequest (by exact RequestKind.noConfusion) fresh _
        · exact registered
    | message client message =>
        grind [registered.handleMessage]
    | _ => cases admits
  · exact registered.proceeds (registered.step unread admits)

theorem newSessionHandler (protocol : TunnelProtocol) (max : Nat) :
    Registered (newSessionHandler protocol max) where
  drawn := nofun
  pending := nofun
  settled := nofun
  raw := fun _ => rfl
  unregistered := fun _ _ => rfl

end Registered

end Proceeding

end SessionHandler

end Lombok.Tunnel
