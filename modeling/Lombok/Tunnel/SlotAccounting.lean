import Lombok.Library.Pool
import Lombok.Tunnel.PendingRequests

/-!
Contract: the slots of a session's limiter.

Owns the limiter and the admitted requests as a pool and its holders, when a
step gives back the slots it should, and that a run of such steps accounts for
every slot.
-/

namespace Lombok.Tunnel

open Lombok.Core
open Lombok.Library
open Lombok.Library.Framing

/-! ### The limiter as a pool -/

def Request.holder (request : Request) : Holder := ⟨!request.finished, request.released⟩

/-- What the accounting sees of a request. -/
def Request.slot (request : Request) : (String × RequestKind) × Holder :=
  (request.identity, request.holder)

namespace SessionHandler

variable {handler : SessionHandler}

def pool (handler : SessionHandler) (entry : Limiter) : Pool :=
  ⟨entry.inFlight, entry.max, handler.requests.map Request.holder⟩

/-- What would give back the slot of a request: the pending response of a caller, the stream of a
client, or the teardown that has dropped the streams. -/
def Tracked (handler : SessionHandler) (index : Nat) (request : Request) : Prop :=
  match request.kind with
  | .client => 0 < handler.closingKills ∨
      ∃ entry, handler.streams.get? request.streamId = some entry ∧ entry.kind = .http index
  | _ => (handler.bridge.pending request.streamId).isSome = true

/-- Every slot is accounted for: the count is that of the admitted requests that have not ended, it
is within its bound, every ended one gave back one slot, and each other one can still end. -/
structure Accounted (handler : SessionHandler) : Prop where
  registered : ∀ entry, handler.session.limiter = some entry → (handler.pool entry).Sound
  unregistered : handler.session.limiter = none →
    ∀ request ∈ handler.requests, request.finished = true ∧ request.released = 1
  tracked : ∀ (index : Nat) (request : Request), handler.requests[index]? = some request →
    request.finished = false → handler.Tracked index request

/-- The stream of a client's request is there. -/
def servesHTTP (handler : SessionHandler) (streamId : String) : Bool :=
  match handler.streams.get? streamId with
  | some entry => entry.kind != .ws
  | none => false

/-- A write that fails is that of a direct request that has not been settled, of a streaming one,
or of a client's that has ended; and a client does not name the stream of a request that is there
when the session takes its message. -/
def keepsSlots (handler : SessionHandler) (input : HandlerInput) : Bool :=
  match input with
  | .writeFails request _ =>
      match handler.requests[request]? with
      | some held =>
          !held.writing || match held.kind with
            | .client => held.finished
            | .direct => held.outcome.isNone
            | .streaming => true
      | none => true
  | .message client message =>
      match serverCall handler.pendingRequestBody client message with
      | .proxyHTTPRequest _ streamId _ _ =>
          handler.session.takeSlot.isNone || !handler.servesHTTP streamId
      | .proxyWSUpgrade streamId _ => !handler.session.isReady || !handler.servesHTTP streamId
      | _ => true
  | _ => true

/-! ### Steps that give nothing back -/

/-- What holds a slot: pending responses and streams belong to requests that have not ended. -/
structure Holding (handler : SessionHandler) : Prop where
  accounted : handler.Accounted
  pending : ∀ streamId entry, handler.bridge.pending streamId = some entry →
    ∃ request, handler.requests[handler.requestOf streamId]? = some request ∧
      request.finished = false
  streams : ∀ streamId entry index, handler.streams.get? streamId = some entry →
    entry.kind = .http index → ∃ request, handler.requests[index]? = some request ∧
      request.finished = false ∧ request.identity = (streamId, .client)

/-- No slot was taken or given back, and what tracks one is still there. -/
structure Alike (before after : SessionHandler) : Prop where
  slots : after.requests.map Request.slot = before.requests.map Request.slot
  limiter : after.session.limiter = before.session.limiter
  pending : ∀ streamId, (after.bridge.pending streamId).isSome =
    (before.bridge.pending streamId).isSome
  streams : ∀ streamId entry index, entry.kind = .http index →
    (after.streams.get? streamId = some entry ↔ before.streams.get? streamId = some entry)
  kills : 0 < before.closingKills → 0 < after.closingKills

namespace Alike

variable {before middle after : SessionHandler}

theorem refl (handler : SessionHandler) : Alike handler handler :=
  ⟨rfl, rfl, fun _ => rfl, fun _ _ _ _ => Iff.rfl, id⟩

theorem trans (first : Alike before middle) (second : Alike middle after) : Alike before after where
  slots := second.slots.trans first.slots
  limiter := second.limiter.trans first.limiter
  pending := fun streamId => (second.pending streamId).trans (first.pending streamId)
  streams := fun streamId entry index http =>
    (second.streams streamId entry index http).trans (first.streams streamId entry index http)
  kills := second.kills ∘ first.kills

theorem of_same (requests : after.requests = before.requests)
    (limiter : after.session.limiter = before.session.limiter)
    (pending : after.bridge.pending = before.bridge.pending)
    (streams : after.streams = before.streams)
    (kills : before.closingKills ≤ after.closingKills) : Alike before after where
  slots := by rw [requests]
  limiter := limiter
  pending := by
    intro streamId
    rw [pending]
  streams := by
    intro streamId entry index _
    rw [streams]
  kills := fun some => Nat.lt_of_lt_of_le some kills

/-- The requests are the same ones, at the same places. -/
theorem was (alike : Alike before after) {index : Nat} {request : Request}
    (found : after.requests[index]? = some request) :
    ∃ earlier, before.requests[index]? = some earlier ∧ earlier.slot = request.slot := by
  have slots := congrArg (fun list : List ((String × RequestKind) × Holder) => list[index]?)
    alike.slots
  grind

theorem becomes (alike : Alike before after) {index : Nat} {request : Request}
    (found : before.requests[index]? = some request) :
    ∃ later, after.requests[index]? = some later ∧ later.slot = request.slot := by
  have slots := congrArg (fun list : List ((String × RequestKind) × Holder) => list[index]?)
    alike.slots
  grind

theorem requestOf (alike : Alike before after) (streamId : String) :
    after.requestOf streamId = before.requestOf streamId := by
  have identities := congrArg (List.map Prod.fst) alike.slots
  rw [List.map_map, List.map_map] at identities
  rw [requestOf_eq, requestOf_eq]
  exact congrArg _ identities

theorem holders (alike : Alike before after) :
    after.requests.map Request.holder = before.requests.map Request.holder := by
  have holders := congrArg (List.map Prod.snd) alike.slots
  rw [List.map_map, List.map_map] at holders
  exact holders

end Alike

/-- Requests with one slot agree on what the accounting reads. -/
theorem slot_inj {first second : Request} (same : first.slot = second.slot) :
    first.identity = second.identity ∧ first.finished = second.finished ∧
      first.released = second.released := by
  obtain ⟨identity, holder⟩ := Prod.mk.inj same
  obtain ⟨finished, released⟩ := Holder.mk.inj holder
  exact ⟨identity, Bool.not_inj finished, released⟩

theorem tracked_congr {before after : SessionHandler} {index : Nat} {first second : Request}
    (identity : first.identity = second.identity) (tracked : before.Tracked index first)
    (pending : second.kind ≠ .client → (before.bridge.pending second.streamId).isSome = true →
      (after.bridge.pending second.streamId).isSome = true)
    (streams : ∀ entry, entry.kind = .http index →
        before.streams.get? second.streamId = some entry →
      after.streams.get? second.streamId = some entry)
    (kills : 0 < before.closingKills → 0 < after.closingKills) : after.Tracked index second := by
  obtain ⟨sameId, sameKind⟩ := Prod.mk.inj identity
  unfold Tracked at tracked ⊢
  rw [sameKind, sameId] at tracked
  cases kind : second.kind with
  | client =>
      rw [kind] at tracked
      rcases tracked with torn | ⟨entry, held, http⟩
      · exact .inl (kills torn)
      · exact .inr ⟨entry, streams entry http held, http⟩
  | direct =>
      grind
  | streaming =>
      grind

namespace Holding

variable {before after : SessionHandler}

theorem alike (holding : Holding before) (alike : Alike before after) : Holding after := by
  constructor
  · constructor
    · intro entry registered
      have sound := holding.accounted.registered entry (alike.limiter ▸ registered)
      unfold pool at sound ⊢
      rw [alike.holders]
      exact sound
    · intro unregistered request member
      obtain ⟨index, found⟩ := List.mem_iff_getElem?.mp member
      obtain ⟨earlier, isEarlier, same⟩ := alike.was found
      obtain ⟨_, finished, released⟩ := slot_inj same
      grind [holding.accounted.unregistered, alike.limiter]
    · intro index request found active
      obtain ⟨earlier, isEarlier, same⟩ := alike.was found
      obtain ⟨identity, finished, _⟩ := slot_inj same
      apply tracked_congr identity
        (holding.accounted.tracked index earlier isEarlier (finished.trans active))
      · intro _ pending
        rw [alike.pending]
        exact pending
      · grind [alike.streams]
      · exact alike.kills
  · intro streamId entry pending
    have held := alike.pending streamId
    rw [pending] at held
    obtain ⟨earlierEntry, wasPending⟩ := Option.isSome_iff_exists.mp held.symm
    obtain ⟨earlier, isEarlier, active⟩ := holding.pending streamId earlierEntry wasPending
    obtain ⟨request, found, same⟩ := alike.becomes isEarlier
    refine ⟨request, ?_, (slot_inj same).2.1.trans active⟩
    rw [alike.requestOf]
    exact found
  · intro streamId entry index held http
    obtain ⟨earlier, isEarlier, active, identity⟩ :=
      holding.streams streamId entry index ((alike.streams _ entry index http).mp held) http
    grind [slot_inj, alike.becomes]

end Holding

/-! ### Giving back -/

/-- The slot of one request is given back, and what tracked it is gone. -/
structure GivesBack (index : Nat) (before after : SessionHandler) : Prop where
  requests : after.requests.map Request.slot =
    (before.requests.modify index (Request.finish before.session.limiter.isSome)).map Request.slot
  limiter : after.session.limiter =
    before.session.limiter.map fun entry => { entry with inFlight := entry.inFlight - 1 }
  pending : ∀ streamId, (after.bridge.pending streamId).isSome = true →
    (before.bridge.pending streamId).isSome = true ∧ before.requestOf streamId ≠ index
  stays : ∀ streamId, (before.bridge.pending streamId).isSome = true →
    before.requestOf streamId ≠ index → (after.bridge.pending streamId).isSome = true
  streams : ∀ streamId entry other, entry.kind = .http other →
    (after.streams.get? streamId = some entry ↔
      before.streams.get? streamId = some entry ∧ other ≠ index)
  kills : 0 < before.closingKills → 0 < after.closingKills

namespace GivesBack

variable {before after : SessionHandler} {index : Nat}

theorem was (gives : GivesBack index before after) {position : Nat} {request : Request}
    (found : after.requests[position]? = some request) :
    ∃ earlier, before.requests[position]? = some earlier ∧
      request.slot = (if index = position then
        earlier.finish before.session.limiter.isSome else earlier).slot := by
  have slots := congrArg (fun list : List ((String × RequestKind) × Holder) => list[position]?)
    gives.requests
  grind

theorem becomes (gives : GivesBack index before after) {position : Nat} {request : Request}
    (found : before.requests[position]? = some request) (other : position ≠ index) :
    ∃ later, after.requests[position]? = some later ∧ later.slot = request.slot := by
  have slots := congrArg (fun list : List ((String × RequestKind) × Holder) => list[position]?)
    gives.requests
  grind

theorem requestOf (gives : GivesBack index before after) (streamId : String) :
    after.requestOf streamId = before.requestOf streamId := by
  have identities := congrArg (List.map Prod.fst) gives.requests
  rw [List.map_map, List.map_map] at identities
  rw [requestOf_eq, requestOf_eq]
  refine (congrArg _ (identities.trans ?_))
  apply List.ext_getElem?
  intro position
  rw [List.getElem?_map, List.getElem?_map, List.getElem?_modify]
  cases before.requests[position]? with
  | none => rfl
  | some held =>
      split <;> rfl

end GivesBack

namespace Holding

variable {before after : SessionHandler} {index : Nat}

theorem givesBack (holding : Holding before) (drawn : Registered before)
    (gives : GivesBack index before after)
    {request : Request} (found : before.requests[index]? = some request)
    (active : request.finished = false) : Holding after := by
  obtain ⟨entry, registered⟩ : ∃ entry, before.session.limiter = some entry := by
    cases limiter : before.session.limiter with
    | some entry => exact ⟨entry, rfl⟩
    | none =>
        grind [holding.accounted.unregistered]
  have taken : before.session.limiter.isSome = true := by
    rw [registered]
    rfl
  have later : after.session.limiter = some { entry with inFlight := entry.inFlight - 1 } := by
    rw [gives.limiter, registered]
    rfl
  constructor
  · constructor
    · intro now registeredNow
      rw [later] at registeredNow
      cases registeredNow
      have sound := holding.accounted.registered entry registered
      have holder : (before.pool entry).holders[index]? = some request.holder := by
        unfold pool
        rw [List.getElem?_map, found]
        rfl
      have gaveBack := Pool.sound_giveBack sound holder (by
        unfold Request.holder
        rw [active]
        rfl)
      have holders : after.requests.map Request.holder =
          (before.requests.map Request.holder).modify index Holder.release := by
        have slots := congrArg (List.map Prod.snd) gives.requests
        rw [List.map_map, List.map_map, taken] at slots
        refine slots.trans ?_
        apply List.ext_getElem?
        intro position
        rw [List.getElem?_map, List.getElem?_modify, List.getElem?_modify, List.getElem?_map]
        cases before.requests[position]? with
        | none => rfl
        | some held =>
            rw [Option.map_eq_map, Option.map_some, Option.map_some, Option.map_some,
              Option.map_eq_map, Option.map_some]
            split <;> rfl
      grind [Pool.giveBack, pool]
    · simp [later]
    · intro position other isOther activeOther
      obtain ⟨earlier, isEarlier, same⟩ := gives.was isOther
      have notIndex : index ≠ position := by
        intro isIndex
        rw [if_pos isIndex] at same
        have finished := (slot_inj same).2.1
        rw [activeOther] at finished
        cases finished
      rw [if_neg notIndex] at same
      obtain ⟨identity, finished, _⟩ := slot_inj same
      have tracked := holding.accounted.tracked position earlier isEarlier
        (finished.symm.trans activeOther)
      apply tracked_congr identity.symm tracked
      · intro notClient pending
        apply gives.stays _ pending
        obtain ⟨sameId, sameKind⟩ := Prod.mk.inj identity
        rw [sameKind] at notClient
        grind [drawn.drawn]
      · grind [gives.streams]
      · exact gives.kills
  · intro streamId held pending
    have isPending : (after.bridge.pending streamId).isSome = true := by
      rw [pending]
      rfl
    obtain ⟨wasPending, other⟩ := gives.pending streamId isPending
    obtain ⟨earlierEntry, isEarlierEntry⟩ := Option.isSome_iff_exists.mp wasPending
    obtain ⟨earlier, isEarlier, activeEarlier⟩ := holding.pending streamId earlierEntry
        isEarlierEntry
    obtain ⟨request, isRequest, same⟩ := gives.becomes isEarlier other
    refine ⟨request, ?_, (slot_inj same).2.1.trans activeEarlier⟩
    rw [gives.requestOf]
    exact isRequest
  · intro streamId streamEntry position held http
    obtain ⟨wasHeld, other⟩ := (gives.streams _ streamEntry position http).mp held
    obtain ⟨earlier, isEarlier, activeEarlier, identity⟩ :=
      holding.streams streamId streamEntry position wasHeld http
    grind [slot_inj, gives.becomes]

end Holding

/-! ### The parts of a step -/

namespace Alike

theorem of_modify {before after : SessionHandler} {request : Nat} {change : Request → Request}
    (requests : after.requests = before.requests.modify request change)
    (slot : ∀ held, before.requests[request]? = some held → (change held).slot = held.slot)
    (limiter : after.session.limiter = before.session.limiter)
    (pending : after.bridge.pending = before.bridge.pending)
    (streams : after.streams = before.streams)
    (kills : before.closingKills ≤ after.closingKills) : Alike before after where
  slots := by
    rw [requests]
    apply List.ext_getElem?
    grind
  limiter := limiter
  pending := by
    intro streamId
    rw [pending]
  streams := by
    intro streamId entry index _
    rw [streams]
  kills := fun some => Nat.lt_of_lt_of_le some kills

theorem send (handler : SessionHandler) (client : Client) (item : Sent) :
    Alike handler (handler.send client item) := by
  cases client with
  | socket id => exact of_same rfl rfl rfl rfl le_rfl
  | sentinel id => exact refl handler

theorem broadcast (handler : SessionHandler) (data : Bytes) :
    Alike handler (handler.broadcast data) := by
  suffices sends : ∀ (clients : List Client) (start : SessionHandler), Alike start
      (clients.foldl (fun handler client => handler.send client (.payload data)) start) from
    sends handler.clients handler
  intro clients
  induction clients with
  | nil => exact refl
  | cons client rest inductionHypothesis =>
      intro start
      exact (send start client _).trans (inductionHypothesis _)

theorem settle (handler : SessionHandler) (streamId : String) (outcome : Outcome) :
    Alike handler (handler.settle streamId outcome) :=
  of_modify rfl (fun _ _ => rfl) rfl rfl rfl le_rfl

theorem endWriting (handler : SessionHandler) (request : Nat) :
    Alike handler (handler.endWriting request) :=
  of_modify rfl (fun _ _ => rfl) rfl rfl rfl le_rfl

theorem forwardToClient (handler : SessionHandler) (value : Json) (streamId : String) :
    Alike handler (handler.forwardToClient value streamId) := by
  unfold SessionHandler.forwardToClient
  split
  · exact refl handler
  · exact send handler _ _

theorem sendPayload (handler : SessionHandler) (streamId : String) (data : Bytes) :
    Alike handler (handler.sendPayload streamId data) := by
  grind [SessionHandler.sendPayload, send, broadcast]

/-- An entry of a pending response changes, and the response stays pending. -/
theorem turn {handler : SessionHandler} {streamId : String} {bridge : Bridge}
    (turns : Bridge.Turns streamId handler.bridge bridge)
    (stays : (handler.bridge.pending streamId).isSome = true → bridge.pending streamId ≠ none) :
    Alike handler { handler with bridge := bridge } where
  slots := rfl
  limiter := rfl
  pending := by
    intro other
    by_cases same : other = streamId
    · subst same
      show (bridge.pending other).isSome = _
      cases after : bridge.pending other with
      | none =>
          grind
      | some entry =>
          grind [turns.kept]
    · show (bridge.pending other).isSome = _
      rw [turns.others other same]
  streams := fun _ _ _ _ => Iff.rfl
  kills := id

end Alike

theorem map_slot_finish (requests : List Request) (index : Nat) (known : Bool) :
    (requests.modify index (Request.finish known)).map Request.slot =
      (requests.map Request.slot).modify index fun slot =>
        (slot.1, ⟨false, if known then slot.2.released + 1 else slot.2.released⟩) := by
  apply List.ext_getElem?
  intro position
  rw [List.getElem?_map, List.getElem?_modify, List.getElem?_modify, List.getElem?_map]
  cases requests[position]? with
  | none => rfl
  | some held =>
      simp only [Option.map_eq_map, Option.map_some, Option.some.injEq]
      split <;> rfl

theorem requestOf_identity (registered : Registered handler) {streamId : String}
    (pending : (handler.bridge.pending streamId).isSome = true) :
    ∃ request, handler.requests[handler.requestOf streamId]? = some request ∧
      request.streamId = streamId ∧ request.kind ≠ .client := by
  obtain ⟨entry, held⟩ := Option.isSome_iff_exists.mp pending
  obtain ⟨request, found, identity⟩ := registered.pending streamId entry held
  obtain ⟨sameId, sameKind⟩ := Prod.mk.inj identity
  grind

theorem releasePending_eq {streamId : String} {request : Request}
    (found : handler.requests[handler.requestOf streamId]? = some request)
    (active : request.finished = false) :
    handler.releasePending streamId = handler.release (handler.requestOf streamId) := by
  simp [SessionHandler.releasePending, found, active]

namespace Holding

/-- The stream of a client is dropped, and its slot given back. -/
theorem dropStream (holding : Holding handler) (registered : Registered handler)
    {streamId : String} {entry : StreamEntry}
    (held : handler.streams.get? streamId = some entry) :
    Holding ((handler.releaseStream entry).removeStream streamId) := by
  cases kind : entry.kind with
  | ws =>
      apply holding.alike
      have same : handler.releaseStream entry = handler := by
        unfold SessionHandler.releaseStream
        rw [kind]
      rw [same]
      refine ⟨rfl, rfl, fun _ => rfl, ?_, id⟩
      intro other found index http
      show (handler.streams.delete streamId).get? other = some found ↔ _
      rw [OrderedMap.get?_delete]
      grind
  | http index =>
      obtain ⟨request, found, active, identity⟩ :=
        holding.streams streamId entry index held kind
      have same : handler.releaseStream entry = handler.release index := by
        unfold SessionHandler.releaseStream
        rw [kind]
      rw [same]
      have notDrawn : ∀ other, (handler.bridge.pending other).isSome = true →
          handler.requestOf other ≠ index := by
        intro other pending isIndex
        obtain ⟨own, isOwn, _, drawn⟩ := requestOf_identity registered pending
        rw [isIndex, found] at isOwn
        cases isOwn
        exact drawn (Prod.mk.inj identity).2
      refine holding.givesBack registered ⟨rfl, rfl, ?_, ?_, ?_, id⟩ found active
      · intro other pending
        exact ⟨pending, notDrawn other pending⟩
      · intro other pending _
        exact pending
      · intro other otherEntry position http
        show (handler.streams.delete streamId).get? other = some otherEntry ↔ _
        rw [OrderedMap.get?_delete]
        by_cases sameId : other = streamId
        · subst sameId
          rw [if_pos rfl]
          constructor
          · intro impossible
            cases impossible
          · rintro ⟨isFound, different⟩
            rw [held] at isFound
            grind
        · rw [if_neg sameId]
          constructor
          · intro isFound
            refine ⟨isFound, ?_⟩
            rintro rfl
            obtain ⟨own, isOwn, _, ownIdentity⟩ :=
              holding.streams other otherEntry position isFound http
            rw [found] at isOwn
            cases isOwn
            grind
          · exact And.left

/-- A response is no longer pending, and the slot of its request is given back. -/
theorem dropPending (holding : Holding handler) (registered : Registered handler)
    {streamId : String} (was : (handler.bridge.pending streamId).isSome = true)
    (middle : SessionHandler) (slots : middle.requests.map Request.slot =
      handler.requests.map Request.slot)
    (limiter : middle.session.limiter = handler.session.limiter)
    (streams : middle.streams = handler.streams)
    (kills : handler.closingKills ≤ middle.closingKills)
    (turns : Bridge.Turns streamId handler.bridge middle.bridge)
    (gone : middle.bridge.pending streamId = none) :
    Holding (middle.release (handler.requestOf streamId)) ∧
      Holding (middle.releasePending streamId) := by
  obtain ⟨entry, pending⟩ := Option.isSome_iff_exists.mp was
  obtain ⟨request, found, active⟩ := holding.pending streamId entry pending
  obtain ⟨own, isOwn, ownId, drawn⟩ := requestOf_identity registered was
  rw [found] at isOwn
  cases isOwn
  have releases : Holding (middle.release (handler.requestOf streamId)) := by
    refine holding.givesBack registered ⟨?_, ?_, ?_, ?_, ?_, ?_⟩ found active
    · show (middle.requests.modify _ (Request.finish middle.session.limiter.isSome)).map _ = _
      rw [limiter, map_slot_finish, map_slot_finish, slots]
    · show (middle.session.release).limiter = _
      unfold Session.release
      dsimp only
      rw [limiter]
    · intro other pendingOther
      have pendingAfter : (middle.bridge.pending other).isSome = true := pendingOther
      have different : other ≠ streamId := by
        grind
      grind [requestOf_identity, turns.others]
    · intro other pendingOther notIndex
      have different : other ≠ streamId := by
        rintro rfl
        exact notIndex rfl
      show (middle.bridge.pending other).isSome = true
      rw [turns.others other different]
      exact pendingOther
    · intro other otherEntry position http
      show middle.streams.get? other = some otherEntry ↔ _
      rw [streams]
      constructor
      · intro isFound
        refine ⟨isFound, ?_⟩
        rintro rfl
        obtain ⟨theirs, isTheirs, _, identity⟩ :=
          holding.streams other otherEntry _ isFound http
        rw [found] at isTheirs
        cases isTheirs
        exact drawn (Prod.mk.inj identity).2
      · exact And.left
    · exact fun some => Nat.lt_of_lt_of_le some kills
  refine ⟨releases, ?_⟩
  have same := congrArg (fun list : List ((String × RequestKind) × Holder) =>
    list[handler.requestOf streamId]?) slots
  simp only [List.getElem?_map, found, Option.map_some] at same
  obtain ⟨later, isLater, sameSlot⟩ := Option.map_eq_some_iff.mp same
  have sameOf : middle.requestOf streamId = handler.requestOf streamId := by
    have identities := congrArg (List.map Prod.fst) slots
    rw [List.map_map, List.map_map] at identities
    rw [requestOf_eq, requestOf_eq]
    exact congrArg _ identities
  rw [releasePending_eq (by rw [sameOf]; exact isLater)
      ((slot_inj sameSlot).2.1.trans active), sameOf]
  exact releases

/-- A handler of a pending response takes it out. -/
theorem dropTurned (holding : Holding handler) (registered : Registered handler)
    {streamId : String} {entry : Pending} (pending : handler.bridge.pending streamId = some entry)
    {bridge : Bridge} (turns : Bridge.Turns streamId handler.bridge bridge)
    (gone : bridge.pending streamId = none) :
    Holding ({ handler with bridge := bridge }.releasePending streamId) ∧
      ∀ outcome, Holding
        (({ handler with bridge := bridge }.settle streamId outcome).releasePending streamId) := by
  have was : (handler.bridge.pending streamId).isSome = true := by
    rw [pending]
    rfl
  constructor
  · simp [holding.dropPending, registered, was, turns, gone]
  · intro outcome
    exact (holding.dropPending registered was
      ({ handler with bridge := bridge }.settle streamId outcome) (Alike.settle _ _ _).slots rfl
      rfl le_rfl turns gone).2

end Holding

/-! ### Messages of the agent -/

section Gone

variable {bridge : Bridge} {streamId : String} {entry : Pending}

theorem gone_httpResponse (pending : bridge.pending streamId = some entry) (head : Head) :
    (Tunnel.handleHTTPResponse bridge streamId head false).pending streamId = none := by
  unfold Tunnel.handleHTTPResponse
  rw [pending]
  dsimp only
  split <;> simp

theorem gone_streamClose (pending : bridge.pending streamId = some entry)
    (reason : Option String) :
    (Tunnel.handleStreamClose bridge streamId reason).pending streamId = none := by
  unfold Tunnel.handleStreamClose
  rw [pending]
  simp

theorem gone_bodyEnd (pending : bridge.pending streamId = some entry) :
    (Tunnel.handleBodyEnd bridge streamId).pending streamId = none := by
  unfold Tunnel.handleBodyEnd
  rw [pending]
  dsimp only
  split <;> simp

end Gone

theorem send_streams (handler : SessionHandler) (client : Client) (item : Sent) :
    (handler.send client item).streams = handler.streams := by
  cases client <;> rfl

namespace Holding

theorem forwardLast (holding : Holding handler) (registered : Registered handler) (value : Json)
    (streamId : String) : Holding (handler.forwardLast value streamId) := by
  unfold SessionHandler.forwardLast
  split
  · exact holding
  · rename_i entry held
    apply dropStream (holding.alike (Alike.send handler _ _))
      (registered.proceeds (@Proceeds.send False handler _ _))
    rw [send_streams]
    exact held

theorem handleHTTPResponse (holding : Holding handler) (registered : Registered handler)
    (value : Json) (streamId : String) (head : Head) (bodyFollows : Bool) :
    Holding (handler.handleHTTPResponse value streamId head bodyFollows) := by
  unfold SessionHandler.handleHTTPResponse
  have turns : Bridge.Turns streamId handler.bridge
      (Tunnel.handleHTTPResponse handler.bridge streamId head bodyFollows) :=
    Bridge.Turns.handleHTTPResponse head bodyFollows
  cases pending : handler.bridge.pending streamId with
  | none =>
      grind [Alike.forwardToClient, holding.alike, holding.forwardLast]
  | some entry =>
      cases bodyFollows with
      | true =>
          have resolved := holding.alike
            (Alike.turn turns fun _ => stays_httpResponse pending head)
          dsimp only
          rw [if_pos rfl]
          grind [Alike.settle, resolved.alike]
      | false =>
          exact (holding.dropTurned registered pending turns (gone_httpResponse pending head)).2 _

theorem handleStreamClose (holding : Holding handler) (registered : Registered handler)
    (value : Json) (streamId : String) (reason : Option String) :
    Holding (handler.handleStreamClose value streamId reason) := by
  unfold SessionHandler.handleStreamClose
  cases pending : handler.bridge.pending streamId with
  | none => exact holding.forwardLast registered value streamId
  | some entry =>
      exact (holding.dropTurned registered pending (Bridge.Turns.handleStreamClose reason)
        (gone_streamClose pending reason)).2 _

theorem handleBodyChunk (holding : Holding handler) (value : Json) (streamId : String) :
    Holding (handler.handleBodyChunk value streamId) := by
  unfold SessionHandler.handleBodyChunk
  cases pending : handler.bridge.pending streamId with
  | none =>
      dsimp only
      split
      · exact holding
      · have expects : Alike handler { handler with bridge := handler.bridge.expect streamId } :=
          Alike.of_same rfl rfl rfl rfl le_rfl
        exact holding.alike (expects.trans (Alike.send _ _ _))
  | some entry =>
      exact holding.alike
        (Alike.turn Bridge.Turns.handleBodyChunk fun _ => stays_bodyChunk pending)

theorem handleBodyEnd (holding : Holding handler) (registered : Registered handler) (value : Json)
    (streamId : String) : Holding (handler.handleBodyEnd value streamId) := by
  unfold SessionHandler.handleBodyEnd
  cases pending : handler.bridge.pending streamId with
  | none =>
      grind [Alike.forwardToClient, holding.alike, holding.forwardLast]
  | some entry =>
      dsimp only
      split
      · exact (holding.dropTurned registered pending Bridge.Turns.handleBodyEnd
          (gone_bodyEnd pending)).1
      · exact (holding.dropTurned registered pending Bridge.Turns.handleBodyEnd
          (gone_bodyEnd pending)).2 _

theorem handleWSData (holding : Holding handler) (value : Json) (streamId : String)
    (bodyFollows : Bool) : Holding (handler.handleWSData value streamId bodyFollows) := by
  have expects : Alike handler
      { handler with bridge := Tunnel.handleWSData handler.bridge streamId bodyFollows } := by
    refine Alike.of_same rfl rfl ?_ rfl le_rfl
    cases bodyFollows <;> rfl
  exact holding.alike (expects.trans (Alike.forwardToClient _ _ _))

theorem handleOther (holding : Holding handler) (value : Json) :
    Holding (handler.handleOther value) := by
  unfold SessionHandler.handleOther
  split
  · split
    · exact holding.alike (Alike.of_same rfl rfl rfl rfl le_rfl)
    · grind [Alike.forwardToClient, holding.alike]
  · exact holding

theorem handleAgentMessage (holding : Holding handler) (registered : Registered handler)
    (value : Json) : Holding (handler.handleAgentMessage value) := by
  unfold SessionHandler.handleAgentMessage
  split
  · grind [holding.handleHTTPResponse]
  · split
    · exact holding
    · exact holding.handleWSData _ _ _
  · split
    · exact holding
    · exact holding.handleStreamClose registered _ _ _
  · split
    · exact holding
    · exact holding.handleBodyChunk _ _
  · split
    · exact holding
    · exact holding.handleBodyEnd registered _ _
  · exact holding.handleOther _

theorem handleAgentBinary (holding : Holding handler) (registered : Registered handler)
    (unread : String → Nat → Nat) (data : Bytes) :
    Holding (handler.handleAgentBinary unread data) := by
  unfold SessionHandler.handleAgentBinary
  split
  · exact holding.alike (Alike.broadcast handler data)
  · rename_i streamId _
    have same : Alike handler
        { handler with bridge := { handler.bridge with nextBinaryStreamId := none } } :=
      Alike.of_same rfl rfl rfl rfl le_rfl
    have proceeds : Proceeds False handler
        { handler with bridge := { handler.bridge with nextBinaryStreamId := none } } :=
      Proceeds.of_same rfl rfl rfl rfl .inl
    have taken := holding.alike same
    dsimp only
    cases pending : handler.bridge.pending streamId with
    | none => exact taken.alike (Alike.sendPayload _ _ _)
    | some entry =>
        dsimp only
        have turns := @Bridge.Turns.handlePayload
          { handler.bridge with nextBinaryStreamId := none } streamId unread data
        split
        · split
          · rename_i stays
            apply taken.alike
            refine Alike.turn turns ?_
            grind
          · grind [taken.dropTurned, registered.proceeds, Option.not_isSome_iff_eq_none.mp]
        · exact taken.alike (Alike.sendPayload _ _ _)

end Holding

/-! ### Timers, writes and readers -/

theorem requestOf_found {streamId : String} {request : Request}
    (found : handler.requests[handler.requestOf streamId]? = some request) :
    request.streamId = streamId ∧ request.kind ≠ .client := by
  obtain ⟨within, isRequest⟩ := List.getElem?_eq_some_iff.mp found
  have holds : (handler.requests[handler.requestOf streamId].streamId == streamId &&
      handler.requests[handler.requestOf streamId].kind != .client) = true :=
    @List.findIdx_getElem _ _ handler.requests within
  grind

theorem releasePending_ended {streamId : String} {request : Request}
    (found : handler.requests[handler.requestOf streamId]? = some request)
    (streaming : request.kind = .streaming) (ended : request.finished = true) :
    handler.releasePending streamId = handler := by
  unfold SessionHandler.releasePending
  dsimp only
  rw [found]
  exact if_pos ⟨streaming, ended⟩

theorem Alike.fail_gone {streamId : String} (gone : handler.bridge.pending streamId = none)
    (reason : String) : Alike handler (handler.fail streamId reason) := by
  have removed : Alike handler (handler.removePending streamId reason) := by
    refine Alike.turn (Bridge.Turns.put_none _) ?_
    simp [gone]
  exact removed.trans (Alike.settle _ _ _)

namespace Holding

variable {streamId : String}

theorem fail (holding : Holding handler) (registered : Registered handler) {entry : Pending}
    (pending : handler.bridge.pending streamId = some entry) (reason : String) :
    Holding ((handler.fail streamId reason).releasePending streamId) :=
  (holding.dropTurned registered pending (Bridge.Turns.put_none _)
    (handler.bridge.put_pending ..)).2 _

/-- A request that is neither pending nor settled is a streaming one that gave back its slot. -/
theorem ended_of_gone (holding : Holding handler) (registered : Registered handler)
    {request : Request} (found : handler.requests[handler.requestOf streamId]? = some request)
    (gone : handler.bridge.pending streamId = none) (open' : request.outcome.isSome = false) :
    request.kind = .streaming ∧ request.finished = true := by
  obtain ⟨sameId, drawn⟩ := requestOf_found found
  have finished : request.finished = true := by
    cases active : request.finished with
    | true => rfl
    | false =>
        have tracked := holding.accounted.tracked _ request found active
        grind [Tracked]
  cases kind : request.kind with
  | client => exact absurd kind drawn
  | direct =>
      grind [registered.settled]
  | streaming => exact ⟨rfl, finished⟩

theorem timeout (holding : Holding handler) (registered : Registered handler) (streamId : String) :
    Holding (handler.timeout streamId) := by
  unfold SessionHandler.timeout
  split
  · exact holding
  · rename_i held found
    split
    · exact holding
    · rename_i notSettled
      have open' : held.outcome.isSome = false := Bool.eq_false_iff.mpr notSettled
      cases pending : handler.bridge.pending streamId with
      | some entry => exact holding.fail registered pending _
      | none =>
          obtain ⟨streaming, ended⟩ := holding.ended_of_gone registered found pending open'
          have alike := Alike.fail_gone pending
            (if held.kind = .streaming then "Tunnel proxy initial-headers timeout (30s)"
              else "Tunnel proxy timeout (30s)")
          obtain ⟨later, isLater, same⟩ := alike.becomes found
          obtain ⟨identity, finished, _⟩ := slot_inj same
          rw [releasePending_ended (by rw [alike.requestOf]; exact isLater)
            ((Prod.mk.inj identity).2.trans streaming) (finished.trans ended)]
          exact holding.alike alike

theorem cancel (holding : Holding handler) (registered : Registered handler) (streamId : String) :
    Holding (handler.cancel streamId) := by
  unfold SessionHandler.cancel
  cases pending : handler.bridge.pending streamId with
  | none => exact holding
  | some entry =>
      dsimp only
      split
      · exact (holding.dropTurned registered pending (Bridge.Turns.put_none _)
          (handler.bridge.put_pending ..)).1
      · exact holding

theorem writeFails (holding : Holding handler) (registered : Registered handler) {request : Nat}
    {error : String} (keeps : handler.keepsSlots (.writeFails request error) = true) :
    Holding (handler.writeFails request error) := by
  unfold keepsSlots at keeps
  dsimp only at keeps
  unfold SessionHandler.writeFails
  cases found : handler.requests[request]? with
  | none => exact holding
  | some held =>
      rw [found] at keeps
      dsimp only at keeps ⊢
      split
      · exact holding
      · rename_i writing
        rw [Bool.not_eq_false] at writing
        rw [writing, Bool.not_true, Bool.false_or] at keeps
        have ends := Alike.endWriting handler request
        have ended := holding.alike ends
        have endedRegistered := registered.proceeds (@Proceeds.endWriting False handler request)
        cases kind : held.kind with
        | client =>
            rw [kind] at keeps
            apply ended.alike
            refine Alike.of_modify rfl ?_ rfl rfl rfl le_rfl
            intro now isNow
            obtain ⟨earlier, isEarlier, same⟩ := ends.was isNow
            rw [found] at isEarlier
            cases isEarlier
            have finished : now.finished = true := (slot_inj same).2.1.symm.trans keeps
            unfold Request.slot Request.holder
            rw [finished]
            rfl
        | direct =>
            rw [kind] at keeps
            dsimp only
            have open' : held.outcome = none := Option.isNone_iff_eq_none.mp keeps
            rw [open', if_neg (by exact Bool.false_ne_true)]
            have isRequest : handler.requestOf held.streamId = request :=
              registered.drawn request held found (by rw [kind]; exact RequestKind.noConfusion)
            have was : (handler.bridge.pending held.streamId).isSome = true := by
              cases pending : handler.bridge.pending held.streamId with
              | some entry => rfl
              | none =>
                  have settled := registered.settled request held found kind pending
                  rw [open'] at settled
                  cases settled
            have drops := (ended.dropPending endedRegistered was
              ((handler.endWriting request).fail held.streamId error)
              (Alike.settle _ _ _).slots rfl rfl le_rfl (Bridge.Turns.put_none _)
              (handler.bridge.put_pending ..)).1
            rw [ends.requestOf, isRequest] at drops
            exact drops
        | streaming =>
            dsimp only
            split
            · exact ended
            · rename_i entry pending
              exact ended.fail endedRegistered pending error

/-! ### Clients -/

theorem attach (holding : Holding handler) (client : Client) : Holding (handler.attach client) := by
  unfold SessionHandler.attach
  grind [Alike.of_same, holding.alike]

theorem detachStream (holding : Holding handler) (registered : Registered handler)
    (client : Client) (streamId : String) : Holding (handler.detachStream client streamId) := by
  grind [SessionHandler.detachStream, holding.dropStream]

theorem detach (holding : Holding handler) (registered : Registered handler) (client : Client) :
    Holding (handler.detach client) := by
  unfold SessionHandler.detach
  dsimp only
  have left : Holding
      { handler with clients := handler.clients.filter fun other => other != client } :=
    holding.alike (Alike.of_same rfl rfl rfl rfl le_rfl)
  have leftRegistered : Registered
      { handler with clients := handler.clients.filter fun other => other != client } :=
    registered.proceeds (@Proceeds.of_same False _ _ rfl rfl rfl rfl .inl)
  split
  · exact left
  · suffices all : ∀ (ids : List String) (start : SessionHandler), Holding start →
      Registered start →
        Holding (ids.foldl (SessionHandler.detachStream client) start) from
      all _ _ left leftRegistered
    intro ids
    induction ids with
    | nil => exact fun _ holds _ => holds
    | cons first rest inductionHypothesis =>
        intro start holds registeredStart
        exact inductionHypothesis _ (holds.detachStream registeredStart client first)
          (registeredStart.proceeds (@Proceeds.detachStream False start client first))

/-- A request is admitted under an id that no stream has, and what will end it is there. -/
theorem append (holding : Holding handler) {after : SessionHandler} {request : Request}
    {entry : Limiter} (registered : handler.session.limiter = some entry)
    (room : entry.inFlight < entry.max)
    (limiter : after.session.limiter = some { entry with inFlight := entry.inFlight + 1 })
    (requests : after.requests = handler.requests ++ [request])
    (new : request.finished = false ∧ request.released = 0)
    (tracked : after.Tracked handler.requests.length request)
    (pending : ∀ streamId, (handler.bridge.pending streamId).isSome = true →
      (after.bridge.pending streamId).isSome = true)
    (requestOf : ∀ streamId entry, after.bridge.pending streamId = some entry →
      handler.bridge.pending streamId = some entry ∧
          after.requestOf streamId = handler.requestOf streamId ∨
        after.requestOf streamId = handler.requests.length)
    (streams : ∀ streamId entry index, entry.kind = .http index →
      handler.streams.get? streamId = some entry → after.streams.get? streamId = some entry)
    (streamsWere : ∀ streamId entry index, entry.kind = .http index →
      after.streams.get? streamId = some entry →
        handler.streams.get? streamId = some entry ∨
          index = handler.requests.length ∧ request.identity = (streamId, .client))
    (kills : handler.closingKills ≤ after.closingKills) : Holding after := by
  have old : ∀ (index : Nat) (held : Request), handler.requests[index]? = some held →
      after.requests[index]? = some held := by
    grind
  have last : after.requests[handler.requests.length]? = some request := by
    rw [requests, List.getElem?_concat_length]
  constructor
  · constructor
    · intro now isNow
      rw [limiter] at isNow
      cases isNow
      have taken := Pool.sound_take (holding.accounted.registered entry registered) room
      unfold pool
      rw [requests, List.map_append, List.map_singleton]
      have holder : request.holder = ⟨true, 0⟩ := by
        unfold Request.holder
        rw [new.1, new.2]
        rfl
      rw [holder]
      exact taken
    · simp [limiter]
    · intro index held found active
      by_cases within : index < handler.requests.length
      · have was : handler.requests[index]? = some held := by
          rw [requests, List.getElem?_append_left within] at found
          exact found
        apply tracked_congr rfl (holding.accounted.tracked index held was active)
        · exact fun _ => pending held.streamId
        · exact fun entry http => streams held.streamId entry index http
        · exact fun some => Nat.lt_of_lt_of_le some kills
      · grind
  · grind [holding.pending]
  · grind [holding.streams]

theorem fresh_of_isFresh (fresh : handler.isFresh streamId = true) :
    ∀ other ∈ handler.requests, other.streamId ≠ streamId := by
  intro other member
  unfold isFresh at fresh
  grind

theorem startRequest (holding : Holding handler) (registered : Registered handler)
    {kind : RequestKind} (drawn : kind ≠ .client) (fresh : handler.isFresh streamId = true)
    (operation : Operation) : Holding (handler.startRequest kind streamId operation) := by
  unfold SessionHandler.startRequest
  split
  · exact holding
  · rename_i acquired admitted
    obtain ⟨_, entry, limiter, room, rfl⟩ := Session.takeSlot_eq_some admitted
    have own : (handler.bridge.register streamId (kind == .streaming)).pending streamId =
        some ⟨kind == .streaming, none, [], false⟩ := handler.bridge.put_pending ..
    have others : ∀ other, other ≠ streamId →
        (handler.bridge.register streamId (kind == .streaming)).pending other =
          handler.bridge.pending other :=
      fun other different => handler.bridge.put_pending_other _ _ _ different
    refine @append handler holding _ (newRequest streamId kind) entry limiter room rfl rfl
      ⟨rfl, rfl⟩ ?_ ?_ ?_ (fun _ _ _ _ held => held) (fun _ _ _ _ held => .inl held) le_rfl
    · unfold Tracked
      cases kind with
      | client => exact absurd rfl drawn
      | direct => exact congrArg Option.isSome own
      | streaming => exact congrArg Option.isSome own
    · intro other pending
      show ((handler.bridge.register streamId (kind == .streaming)).pending other).isSome = true
      by_cases same : other = streamId
      · rw [same, own]
        rfl
      · rw [others other same]
        exact pending
    · intro other held pending
      by_cases same : other = streamId
      · right
        rw [same]
        exact @Registered.requestOf_new handler _ (newRequest streamId kind) rfl drawn
          (fresh_of_isFresh fresh)
      · grind [Registered.requestOf_append, registered.known]

theorem notServed (free : handler.servesHTTP streamId = false) {entry : StreamEntry} {index : Nat}
    (http : entry.kind = .http index) :
    handler.streams.get? streamId ≠ some entry := by
  grind [servesHTTP]

theorem proxyHTTPRequest (holding : Holding handler) (registered : Registered handler)
    (asker : Client) (streamId : String) (req : HTTPRequestMsg) (body : Option Bytes)
    (free : handler.session.takeSlot.isNone = true ∨ handler.servesHTTP streamId = false) :
    Holding (handler.proxyHTTPRequest asker streamId req body) := by
  rcases proxyHTTPRequest_cases handler asker streamId req body with
    ⟨sent, same⟩ | ⟨ws, acquired, _, admitted, same⟩
  · rw [same]
    exact holding.alike (Alike.of_same rfl rfl rfl rfl le_rfl)
  · rw [same]
    rw [admitted] at free
    replace free := free.resolve_left Bool.false_ne_true
    obtain ⟨_, entry, limiter, room, rfl⟩ := Session.takeSlot_eq_some admitted
    refine @append handler holding _ (newRequest streamId .client) entry limiter room rfl rfl
      ⟨rfl, rfl⟩ ?_ (fun _ pending => pending) ?_ ?_ ?_ le_rfl
    · exact .inr ⟨_, OrderedMap.get?_set_self .., rfl⟩
    · grind [Registered.requestOf_append, registered.known]
    · intro other held index http isHeld
      show (handler.streams.set streamId _).get? other = some held
      rw [OrderedMap.get?_set_other]
      · exact isHeld
      · rintro rfl
        exact notServed free http isHeld
    · intro other held index http isHeld
      by_cases sameId : other = streamId
      · right
        subst sameId
        have own := OrderedMap.get?_set_self handler.streams other
          (⟨ws, .http handler.requests.length, asker⟩ : StreamEntry)
        rw [show (handler.streams.set other ⟨ws, .http handler.requests.length, asker⟩).get? other =
          some held from isHeld] at own
        cases own
        cases http
        exact ⟨rfl, rfl⟩
      · left
        rw [← OrderedMap.get?_set_other handler.streams _ sameId]
        exact isHeld

theorem proxyWSUpgrade (holding : Holding handler) (ws : Client) (streamId : String)
    (msg : WSUpgradeMsg)
    (free : handler.session.isReady = false ∨ handler.servesHTTP streamId = false) :
    Holding (handler.proxyWSUpgrade ws streamId msg) := by
  unfold SessionHandler.proxyWSUpgrade
  split
  · rename_i ready
    rw [ready] at free
    replace free := free.resolve_left Bool.noConfusion
    apply holding.alike
    refine ⟨rfl, rfl, fun _ => rfl, ?_, id⟩
    intro other held index http
    show (handler.streams.set streamId _).get? other = some held ↔ _
    by_cases sameId : other = streamId
    · subst sameId
      rw [OrderedMap.get?_set_self]
      grind [notServed]
    · rw [OrderedMap.get?_set_other _ _ sameId]
  · exact holding

theorem forwardWSData (holding : Holding handler) (streamId : String) (data : Bytes) :
    Holding (handler.forwardWSData streamId data) := by
  grind [SessionHandler.forwardWSData, Alike.of_same, holding.alike]

theorem handleMessage (holding : Holding handler) (registered : Registered handler)
    {client : Client} {message : ClientMessage}
    (keeps : handler.keepsSlots (.message client message) = true) :
    Holding (handler.handleMessage client message) := by
  rw [handleMessage_eq]
  have left : Holding (handler.awaitingAfter message) := by
    cases message with
    | text text => exact holding
    | buffer data => exact holding.alike (Alike.of_same rfl rfl rfl rfl le_rfl)
  have leftRegistered := registered.proceeds (@proceeds_awaitingAfter False handler message)
  have streams : (handler.awaitingAfter message).servesHTTP = handler.servesHTTP := by
    cases message with
    | text text => rfl
    | buffer data => rfl
  unfold keepsSlots at keeps
  dsimp only at keeps
  cases call : serverCall handler.pendingRequestBody client message with
  | proxyHTTPRequest asker streamId req body =>
      rw [call] at keeps
      dsimp only at keeps
      rw [Bool.or_eq_true, Bool.not_eq_true'] at keeps
      apply left.proxyHTTPRequest leftRegistered
      rw [session_awaitingAfter, streams]
      exact keeps
  | proxyWSUpgrade streamId msg =>
      rw [call] at keeps
      dsimp only at keeps
      rw [Bool.or_eq_true, Bool.not_eq_true', Bool.not_eq_true'] at keeps
      apply left.proxyWSUpgrade
      rw [session_awaitingAfter, streams]
      exact keeps
  | forwardWSData streamId data => exact left.forwardWSData _ _
  | awaitBody pending => exact left.alike (Alike.of_same rfl rfl rfl rfl le_rfl)
  | nothing => exact left

/-! ### Teardown -/

theorem rejectAll (holding : Holding handler) (registered : Registered handler) :
    Holding handler.rejectAll := by
  unfold SessionHandler.rejectAll
  generalize handler.drawnIds = ids
  induction ids generalizing handler with
  | nil => exact holding
  | cons first rest inductionHypothesis =>
      apply inductionHypothesis _ (registered.proceeds (@Registered.rejectPending handler False
          registered first))
      grind [SessionHandler.rejectPending, holding.fail]

/-- Whoever still has a slot gives it back with the limiter's entry. -/
theorem unregister (holding : Holding handler) (gone : ∀ streamId,
    handler.bridge.pending streamId = none)
    (noStream : ∀ streamId entry index, entry.kind = .http index →
      handler.streams.get? streamId ≠ some entry) : Holding handler.unregister := by
  have ended : ∀ request ∈ handler.unregister.requests,
      request.finished = true ∧ request.released = 1 := by
    intro request member
    obtain ⟨earlier, wasThere, rfl⟩ := List.mem_map.mp member
    cases limiter : handler.session.limiter with
    | none =>
        simp [holding.accounted.unregistered, limiter, wasThere]
    | some entry =>
        have once := (holding.accounted.registered entry limiter).once earlier.holder
          (List.mem_map_of_mem wasThere)
        unfold Holder.Once Request.holder at once
        dsimp only at once
        cases finished : earlier.finished with
        | true =>
            simp [finished, once]
        | false =>
            rw [finished] at once
            rw [if_neg Bool.false_ne_true]
            refine ⟨rfl, ?_⟩
            show earlier.released + 1 = 1
            rw [show earlier.released = 0 from once]
  constructor
  · constructor
    · intro entry registered
      cases registered
    · exact fun _ => ended
    · grind
  · intro streamId entry pending
    have none := gone streamId
    rw [show handler.bridge.pending streamId = some entry from pending] at none
    cases none
  · intro streamId entry index held http
    exact absurd held (noStream streamId entry index http)

theorem dropStreams (holding : Holding handler) (torn : 0 < handler.closingKills) :
    Holding { handler with streams := .empty } := by
  constructor
  · constructor
    · exact holding.accounted.registered
    · exact holding.accounted.unregistered
    · intro index request found active
      have tracked := holding.accounted.tracked index request found active
      grind [Tracked]
  · exact holding.pending
  · intro streamId entry index held
    cases held

theorem teardownWritten (holding : Holding handler) : Holding handler.teardownWritten := by
  unfold SessionHandler.teardownWritten
  split
  · exact holding
  · have counted : Holding { handler with
        closingWrites := handler.closingWrites - 1
        closingKills := handler.closingKills + 1 } :=
      holding.alike (Alike.of_same rfl rfl rfl rfl (Nat.le_succ _))
    exact counted.dropStreams (Nat.succ_pos _)

theorem closingKills_rejectPending (handler : SessionHandler) (streamId : String) :
    (handler.rejectPending streamId).closingKills = handler.closingKills := by
  unfold SessionHandler.rejectPending
  split
  · rfl
  · unfold SessionHandler.releasePending
    dsimp only
    split
    · rfl
    · split <;> rfl

theorem closingKills_rejectAll (handler : SessionHandler) :
    handler.rejectAll.closingKills = handler.closingKills := by
  unfold SessionHandler.rejectAll
  generalize handler.drawnIds = ids
  induction ids generalizing handler with
  | nil => rfl
  | cons first rest inductionHypothesis =>
      rw [List.foldl_cons, inductionHypothesis, closingKills_rejectPending]

theorem noHTTP_of_raw (holding : Holding handler) (registered : Registered handler)
    (raw : handler.session.protocol = .raw) {entry : StreamEntry} {index : Nat}
    (http : entry.kind = .http index) : handler.streams.get? streamId ≠ some entry := by
  grind [holding.streams, registered.raw]

theorem teardown (holding : Holding handler) : Holding handler.teardown := by
  unfold SessionHandler.teardown
  split
  · exact holding.alike (Alike.of_same rfl rfl rfl rfl le_rfl)
  · exact holding.alike (Alike.of_same rfl rfl rfl rfl (Nat.le_succ _))

/-- A session that has left the limiter has no slot to track. -/
theorem of_unregistered (holding : Holding handler) (unregistered : handler.session.limiter = none)
    (kills : Nat) : Holding { handler with closingKills := kills } where
  accounted :=
    { registered := holding.accounted.registered
      unregistered := holding.accounted.unregistered
      tracked := by
        intro index request found active
        rw [(holding.accounted.unregistered unregistered request (List.mem_of_getElem? found)).1]
          at active
        cases active }
  pending := holding.pending
  streams := holding.streams

theorem teardownKilled (holding : Holding handler) (registered : Registered handler) :
    Holding handler.teardownKilled := by
  unfold SessionHandler.teardownKilled
  split
  · exact holding
  · dsimp only
    split
    · have dropped : Holding { handler.rejectAll with
          streams := .empty
          bridge := { handler.rejectAll.bridge with nextBinaryStreamId := none } } := by
        have torn : 0 < handler.rejectAll.closingKills := by
          rw [closingKills_rejectAll]
          omega
        exact ((holding.rejectAll registered).dropStreams torn).alike
          (Alike.of_same rfl rfl rfl rfl le_rfl)
      refine of_unregistered (unregister dropped ?_ ?_) rfl _
      · exact (@Registered.rejectAll handler False registered).2
      · intro streamId entry index _ held
        cases held
    · rename_i notFramed
      have raw : handler.session.protocol = .raw := by
        cases isProtocol : handler.session.protocol with
        | framed => exact absurd isProtocol notFramed
        | raw => rfl
      refine of_unregistered (unregister holding (registered.noneOfRaw raw) ?_) rfl _
      grind [holding.noHTTP_of_raw]

theorem execEnds (holding : Holding handler) (registered : Registered handler) :
    Holding handler.execEnds := by
  unfold SessionHandler.execEnds
  split
  · exact holding
  · split
    · rename_i raw
      unfold SessionHandler.handleExecEnd
      split
      · exact holding
      · have closing : Holding { handler with status := .closing } :=
          holding.alike (Alike.of_same rfl rfl rfl rfl le_rfl)
        grind [unregister, registered.noneOfRaw, holding.noHTTP_of_raw]
    · split
      · exact holding
      · exact holding.teardown

/-! ### Runs -/

theorem step (holding : Holding handler) (registered : Registered handler)
    (unread : String → Nat → Nat) {input : HandlerInput} (keeps : handler.keepsSlots input = true) :
    Holding (handlerStep unread handler input) := by
  unfold handlerStep
  cases input with
  | attach client => exact holding.attach client
  | detach client => exact holding.detach registered client
  | message client message =>
      grind [holding.handleMessage]
  | direct streamId method path headers body =>
      dsimp only
      split
      · rename_i fresh
        exact holding.startRequest registered (by exact RequestKind.noConfusion) fresh _
      · exact holding
  | streaming streamId method path headers body =>
      dsimp only
      split
      · rename_i fresh
        exact holding.startRequest registered (by exact RequestKind.noConfusion) fresh _
      · exact holding
  | tunnelOpen client streamId msg =>
      grind [isFresh, OrderedMap.has, servesHTTP, holding.proxyWSUpgrade]
  | tunnelMessage streamId data => exact holding.forwardWSData streamId data
  | timeout streamId => exact holding.timeout registered streamId
  | cancel streamId => exact holding.cancel registered streamId
  | written request => exact holding.alike (Alike.endWriting handler request)
  | writeFails request error => exact holding.writeFails registered keeps
  | spawned =>
      grind [Alike.of_same, holding.alike]
  | rawExecStarted =>
      grind [SessionHandler.rawExecStarted, Alike.of_same, holding.alike]
  | agentText value => exact holding.handleAgentMessage registered value
  | agentBinary data => exact holding.handleAgentBinary registered unread data
  | execEnds => exact holding.execEnds registered
  | teardown => exact holding.teardown
  | teardownWritten => exact holding.teardownWritten
  | teardownKilled => exact holding.teardownKilled registered
  | sweep => exact holding.alike (Alike.of_same rfl rfl rfl rfl le_rfl)

theorem newSessionHandler (protocol : TunnelProtocol) (max : Nat) :
    Holding (newSessionHandler protocol max) where
  accounted :=
    { registered := by
        intro entry registered
        cases registered
        refine ⟨rfl, Nat.zero_le _, ?_⟩
        nofun
      unregistered := nofun
      tracked := by
        intro index request found
        cases found }
  pending := nofun
  streams := nofun

end Holding

end SessionHandler

open SessionHandler

/-- In a run whose steps all keep the slots, every slot is accounted for in every state. -/
theorem slots_accounted (unread : String → Nat → Nat) (protocol : TunnelProtocol) (max : Nat)
    {inputs : List HandlerInput}
    (keeps : AlongRun (handlerStep unread)
      (fun handler input => handler.keepsSlots input = true)
      (newSessionHandler protocol max) inputs) :
    Accounted (run (handlerStep unread) (newSessionHandler protocol max) inputs) := by
  have kept : ∀ handler input, Registered handler ∧ Holding handler →
      handler.keepsSlots input = true →
        Registered (handlerStep unread handler input) ∧
          Holding (handlerStep unread handler input) := by
    intro handler input holds keeps
    exact ⟨Registered.kept unread handler input holds.1, holds.2.step holds.1 unread keeps⟩
  have both := run_invariant_of_alongRun kept
    ⟨Registered.newSessionHandler protocol max, Holding.newSessionHandler protocol max⟩ keeps
  exact both.2.accounted

/-- Two callers are admitted, and the agent closes the stream of the first one. -/
def closedEarly : List HandlerInput :=
  [.spawned, .agentText readyMessage, .direct "first" "PUT" "/" [] (some [1]),
    .direct "second" "GET" "/" [] none,
    .agentText (.obj [("type", .str "stream_close"), ("stream_id", .str "first")])]

theorem slots_closedEarly :
    Accounted (run (handlerStep fun _ _ => 0) (newSessionHandler .framed 4) closedEarly) :=
  slots_accounted (fun _ _ => 0) .framed 4 (by decide +kernel)

/-- The write of the first request's body fails after that: its slot is given back twice, and the
limiter counts none although the second request is still there. -/
theorem slots_writeFails :
    ¬Accounted (run (handlerStep fun _ _ => 0) (newSessionHandler .framed 4)
      (closedEarly ++ [.writeFails 0 "write after end"])) := by
  intro accounted
  have sound := accounted.registered ⟨0, 4⟩ (by decide +kernel)
  have count := sound.count
  revert count
  decide +kernel

end Lombok.Tunnel
