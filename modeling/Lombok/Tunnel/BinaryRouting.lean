import Lombok.Tunnel.SessionHandler

/-!
Contract: where the binary payloads of the agent go.

Owns which messages announce a payload, what stays of an announcement while
clients, callers and timers act, and whom the next payload is handed to.

A payload that finds neither a pending response nor a stream under the id it
was announced for is sent to every attached client.
-/

namespace Lombok.Tunnel

open Lombok.Core
open Lombok.Library
open Lombok.Library.Framing

namespace Client

def isSocket : Client → Bool
  | .socket _ => true
  | .sentinel _ => false

end Client

/-- What is sent to clients: a payload to each one that is a WebSocket. -/
def payloads (clients : List Client) (data : Bytes) : List (Client × Sent) :=
  (clients.filter Client.isSocket).map fun client => (client, .payload data)

namespace SessionHandler

variable {handler : SessionHandler}

/-! ### Announcements -/

def announced (handler : SessionHandler) (value : Json) : Option String :=
  match envelope value with
  | .httpResponse streamId _ true =>
      if streamId ≠ "" ∧ (handler.bridge.pending streamId).isSome then some streamId else none
  | .wsData streamId true => if streamId ≠ "" then some streamId else none
  | .bodyChunk streamId =>
      if streamId ≠ "" ∧
          ((handler.bridge.pending streamId).isSome ∨ handler.streams.has streamId) then
        some streamId
      else none
  | _ => none

def next (handler : SessionHandler) : Option String := handler.bridge.nextBinaryStreamId

theorem next_send (handler : SessionHandler) (client : Client) (item : Sent) :
    (handler.send client item).next = handler.next := by
  cases client <;> rfl

theorem next_forwardToClient (handler : SessionHandler) (value : Json) (streamId : String) :
    (handler.forwardToClient value streamId).next = handler.next := by
  unfold SessionHandler.forwardToClient
  split
  · rfl
  · exact next_send handler _ _

/-- An announcement is remembered. -/
theorem next_announced {value : Json} {streamId : String}
    (announces : handler.announced value = some streamId) :
    (handler.handleAgentMessage value).next = some streamId := by
  unfold announced at announces
  unfold SessionHandler.handleAgentMessage
  split at announces
  · rename_i named head reads
    split at announces
    · rename_i known
      cases announces
      rw [reads]
      dsimp only
      rw [if_neg known.1]
      unfold SessionHandler.handleHTTPResponse
      cases pending : handler.bridge.pending streamId with
      | none =>
          rw [pending] at known
          cases known.2
      | some entry =>
          dsimp only
          rw [if_pos rfl]
          have remembers : (Tunnel.handleHTTPResponse handler.bridge streamId head
              true).nextBinaryStreamId = some streamId := by
            rw [Tunnel.handleHTTPResponse, pending]
            dsimp only
            split <;> rfl
          split
          · exact remembers
          · exact remembers
    · cases announces
  · rename_i named reads
    split at announces
    · rename_i known
      cases announces
      rw [reads]
      dsimp only
      rw [if_neg known]
      rw [SessionHandler.handleWSData, next_forwardToClient]
      rfl
    · cases announces
  · rename_i named reads
    split at announces
    · rename_i known
      cases announces
      rw [reads]
      dsimp only
      rw [if_neg known.1]
      unfold SessionHandler.handleBodyChunk
      cases pending : handler.bridge.pending streamId with
      | some entry =>
          show (Tunnel.handleBodyChunk handler.bridge streamId).nextBinaryStreamId = some streamId
          rw [Tunnel.handleBodyChunk, pending]
          rfl
      | none =>
          have has := known.2.resolve_left (by rw [pending]; exact Bool.false_ne_true)
          obtain ⟨entry, held⟩ := Option.isSome_iff_exists.mp has
          rw [held]
          rw [next_send]
          rfl
    · cases announces
  · cases announces

/-! ### The payload -/

/-- Where a payload that was announced for a stream goes: to the caller whose response is pending,
to the client of the stream, or, when the stream is not known any more, to every client. -/
inductive Routed (streamId : String) (data : Bytes) (before after : SessionHandler) : Prop where
  | caller (entry : Pending) (pending : before.bridge.pending streamId = some entry)
      (takes : entry.streaming = true ∨ entry.expectingBinary = true)
      (streamed : entry.streaming = true → (after.bridge.consumer streamId).body =
        (before.bridge.consumer streamId).body ++ data)
      (buffered : entry.streaming = false → after.bridge.pending streamId =
        some { entry with expectingBinary := false, bodyChunks := entry.bodyChunks ++ [data] })
      (others : ∀ other, other ≠ streamId →
        after.bridge.consumer other = before.bridge.consumer other ∧
          after.bridge.pending other = before.bridge.pending other)
      (sent : after.sent = before.sent)
  | client (entry : StreamEntry) (held : before.streams.get? streamId = some entry)
      (callers : after.bridge.consumer = before.bridge.consumer ∧
        after.bridge.pending = before.bridge.pending)
      (sent : after.sent = before.sent ++ payloads [entry.ws] data)
  | everyone (gone : before.streams.get? streamId = none)
      (notTaken : ∀ entry, before.bridge.pending streamId = some entry →
        entry.streaming = false ∧ entry.expectingBinary = false)
      (callers : after.bridge.consumer = before.bridge.consumer ∧
        after.bridge.pending = before.bridge.pending)
      (sent : after.sent = before.sent ++ payloads before.clients data)

theorem sent_send (handler : SessionHandler) (client : Client) (data : Bytes) :
    (handler.send client (.payload data)).sent = handler.sent ++ payloads [client] data := by
  cases client with
  | socket id => rfl
  | sentinel id => exact (List.append_nil _).symm

theorem bridge_send (handler : SessionHandler) (client : Client) (item : Sent) :
    (handler.send client item).bridge = handler.bridge := by
  cases client <;> rfl

theorem broadcast_spec (handler : SessionHandler) (data : Bytes) :
    (handler.broadcast data).sent = handler.sent ++ payloads handler.clients data ∧
      (handler.broadcast data).bridge = handler.bridge := by
  unfold SessionHandler.broadcast
  generalize handler.clients = clients
  induction clients generalizing handler with
  | nil => exact ⟨(List.append_nil _).symm, rfl⟩
  | cons client rest inductionHypothesis =>
      obtain ⟨sent, bridge⟩ := inductionHypothesis (handler.send client (.payload data))
      constructor
      · rw [List.foldl_cons, sent, sent_send, List.append_assoc]
        grind [payloads]
      · rw [List.foldl_cons, bridge, bridge_send]

theorem releasePending_frame (handler : SessionHandler) (streamId : String) :
    (handler.releasePending streamId).sent = handler.sent ∧
      (handler.releasePending streamId).bridge = handler.bridge := by
  unfold SessionHandler.releasePending
  dsimp only
  split
  · exact ⟨rfl, rfl⟩
  · split
    · exact ⟨rfl, rfl⟩
    · exact ⟨rfl, rfl⟩

theorem routed_sendPayload {streamId : String} (data : Bytes)
    (notTaken : ∀ entry, handler.bridge.pending streamId = some entry →
      entry.streaming = false ∧ entry.expectingBinary = false) :
    Routed streamId data handler (SessionHandler.sendPayload
      { handler with bridge := { handler.bridge with nextBinaryStreamId := none } } streamId
        data) := by
  unfold SessionHandler.sendPayload
  cases held : handler.streams.get? streamId with
  | some entry =>
      simp [Routed.client, bridge_send, sent_send, held]
  | none =>
      have spec := broadcast_spec
        { handler with bridge := { handler.bridge with nextBinaryStreamId := none } } data
      grind [Routed.everyone]

theorem handlePayload_other (bridge : Bridge) (streamId : String)
    (unread : String → Nat → Nat) (data : Bytes) {other : String} (different : other ≠ streamId) :
    (handlePayload bridge streamId unread data).consumer other = bridge.consumer other ∧
      (handlePayload bridge streamId unread data).pending other = bridge.pending other := by
  have put (entry : Option Pending) (consumer : Consumer) :
      (bridge.put streamId entry consumer).consumer other = bridge.consumer other ∧
        (bridge.put streamId entry consumer).pending other = bridge.pending other :=
    ⟨bridge.put_consumer_other _ _ _ different, bridge.put_pending_other _ _ _ different⟩
  grind [handlePayload]

/-- The payload that comes next goes where it was announced for. -/
theorem routed_binary {streamId : String} (expected : handler.next = some streamId)
    (unread : String → Nat → Nat) (data : Bytes) :
    Routed streamId data handler (handler.handleAgentBinary unread data) := by
  unfold SessionHandler.handleAgentBinary
  rw [show handler.bridge.nextBinaryStreamId = some streamId from expected]
  dsimp only
  cases pending : handler.bridge.pending streamId with
  | none =>
      simp [routed_sendPayload, pending]
  | some entry =>
      dsimp only
      split
      · rename_i takes
        have streamed : entry.streaming = true →
            ((handlePayload { handler.bridge with nextBinaryStreamId := none } streamId unread
              data).consumer streamId).body =
                (handler.bridge.consumer streamId).body ++ data := by
          intro streaming
          unfold handlePayload
          rw [pending]
          dsimp only
          rw [if_pos streaming]
          split <;> simp
        have buffered : entry.streaming = false →
            (handlePayload { handler.bridge with nextBinaryStreamId := none } streamId unread
              data).pending streamId = some { entry with
                expectingBinary := false
                bodyChunks := entry.bodyChunks ++ [data] } := by
          intro notStreaming
          simp [handlePayload, takes.resolve_left, notStreaming, pending]
        have others := fun other different => @handlePayload_other
          { handler.bridge with nextBinaryStreamId := none } streamId unread data other different
        split
        · exact .caller entry pending takes streamed buffered others rfl
        · obtain ⟨sent, bridge⟩ := releasePending_frame
            { handler with
              bridge := handlePayload { handler.bridge with nextBinaryStreamId := none } streamId
                unread data } streamId
          refine .caller entry pending takes ?_ ?_ ?_ sent
          · rw [bridge]
            exact streamed
          · rw [bridge]
            exact buffered
          · rw [bridge]
            exact others
      · rename_i refuses
        apply routed_sendPayload
        grind

/-! ### Between an announcement and its payload -/

/-- The announcement and who is attached are left alone. -/
structure SameAudience (before after : SessionHandler) : Prop where
  next : after.next = before.next
  managed : after.managed = before.managed
  clients : after.clients = before.clients

namespace SameAudience

variable {before middle after : SessionHandler}

theorem refl (handler : SessionHandler) : SameAudience handler handler := ⟨rfl, rfl, rfl⟩

theorem trans (first : SameAudience before middle) (second : SameAudience middle after) :
    SameAudience before after :=
  ⟨second.next.trans first.next, second.managed.trans first.managed,
    second.clients.trans first.clients⟩

theorem releaseStream (handler : SessionHandler) (entry : StreamEntry) :
    SameAudience handler (handler.releaseStream entry) := by
  unfold SessionHandler.releaseStream
  cases entry.kind with
  | http request => exact ⟨rfl, rfl, rfl⟩
  | ws => exact refl handler

theorem releasePending (handler : SessionHandler) (streamId : String) :
    SameAudience handler (handler.releasePending streamId) := by
  unfold SessionHandler.releasePending
  dsimp only
  split
  · exact refl handler
  · split
    · exact refl handler
    · exact ⟨rfl, rfl, rfl⟩

theorem fail (handler : SessionHandler) (streamId reason : String) :
    SameAudience handler (handler.fail streamId reason) := ⟨rfl, rfl, rfl⟩

theorem detachStream (handler : SessionHandler) (client : Client) (streamId : String) :
    SameAudience handler (handler.detachStream client streamId) := by
  unfold SessionHandler.detachStream
  split
  · exact refl handler
  · split
    · exact (releaseStream handler _).trans ⟨rfl, rfl, rfl⟩
    · exact refl handler

theorem foldl {α : Type} {step : SessionHandler → α → SessionHandler}
    (same : ∀ handler item, SameAudience handler (step handler item)) (items : List α)
    (handler : SessionHandler) : SameAudience handler (items.foldl step handler) := by
  induction items generalizing handler with
  | nil => exact refl handler
  | cons item rest inductionHypothesis =>
      exact (same handler item).trans (inductionHypothesis _)

theorem proxyHTTPRequest (handler : SessionHandler) (asker : Client) (streamId : String)
    (req : HTTPRequestMsg) (body : Option Bytes) :
    SameAudience handler (handler.proxyHTTPRequest asker streamId req body) := by
  unfold SessionHandler.proxyHTTPRequest
  split
  · rename_i ws reply _ _
    cases ws with
    | socket id => exact ⟨rfl, rfl, rfl⟩
    | sentinel id => exact refl handler
  · exact ⟨rfl, rfl, rfl⟩
  · exact refl handler

theorem proxyWSUpgrade (handler : SessionHandler) (ws : Client) (streamId : String)
    (msg : WSUpgradeMsg) : SameAudience handler (handler.proxyWSUpgrade ws streamId msg) := by
  unfold SessionHandler.proxyWSUpgrade
  split
  · exact ⟨rfl, rfl, rfl⟩
  · exact refl handler

theorem forwardWSData (handler : SessionHandler) (streamId : String) (data : Bytes) :
    SameAudience handler (handler.forwardWSData streamId data) := by
  unfold SessionHandler.forwardWSData
  split
  · exact ⟨rfl, rfl, rfl⟩
  · exact refl handler

theorem handleMessage (handler : SessionHandler) (client : Client) (message : ClientMessage) :
    SameAudience handler (handler.handleMessage client message) := by
  unfold SessionHandler.handleMessage
  extract_lets left
  have same : SameAudience handler left := by
    cases message with
    | text text => exact refl handler
    | buffer data => exact ⟨rfl, rfl, rfl⟩
  apply same.trans
  cases serverCall handler.pendingRequestBody client message with
  | proxyHTTPRequest asker streamId req body => exact proxyHTTPRequest left asker streamId req body
  | proxyWSUpgrade streamId msg => exact proxyWSUpgrade left client streamId msg
  | forwardWSData streamId data => exact forwardWSData left streamId data
  | awaitBody pending => exact ⟨rfl, rfl, rfl⟩
  | nothing => exact refl left

theorem startRequest (handler : SessionHandler) (kind : RequestKind) (streamId : String)
    (operation : Operation) : SameAudience handler
        (handler.startRequest kind streamId operation) := by
  unfold SessionHandler.startRequest
  split
  · exact refl handler
  · exact ⟨rfl, rfl, rfl⟩

theorem timeout (handler : SessionHandler) (streamId : String) :
    SameAudience handler (handler.timeout streamId) := by
  unfold SessionHandler.timeout
  split
  · exact refl handler
  · split
    · exact refl handler
    · exact (fail handler streamId _).trans (releasePending _ _)

theorem cancel (handler : SessionHandler) (streamId : String) :
    SameAudience handler (handler.cancel streamId) := by
  unfold SessionHandler.cancel
  split
  · exact refl handler
  · split
    · have removed : SameAudience handler (handler.removePending streamId "client disconnect") :=
        ⟨rfl, rfl, rfl⟩
      exact removed.trans (releasePending _ _)
    · exact refl handler

theorem writeFails (handler : SessionHandler) (request : Nat) (error : String) :
    SameAudience handler (handler.writeFails request error) := by
  unfold SessionHandler.writeFails
  split
  · exact refl handler
  · rename_i held _
    split
    · exact refl handler
    · have ended : SameAudience handler (handler.endWriting request) := ⟨rfl, rfl, rfl⟩
      apply ended.trans
      cases held.kind with
      | client => exact ⟨rfl, rfl, rfl⟩
      | direct =>
          dsimp only
          split
          · exact ⟨rfl, rfl, rfl⟩
          · exact ⟨rfl, rfl, rfl⟩
      | streaming =>
          dsimp only
          split
          · exact refl _
          · exact (fail _ held.streamId error).trans (releasePending _ _)

end SameAudience

/-- The session is gone, and no WebSocket is attached. -/
structure Over (handler : SessionHandler) : Prop where
  managed : handler.managed = false
  clients : ∀ client ∈ handler.clients, client.isSocket = false

def isAgentFrame : HandlerInput → Bool
  | .agentText _ => true
  | .agentBinary _ => true
  | _ => false

/-- The announcement stays as it is, unless the session ends for good. -/
structure Unheard (before after : SessionHandler) : Prop where
  next : after.next = before.next ∨ after.next = none ∧ after.Over
  ended : before.Over → after.Over

namespace Unheard

theorem of_same {before after : SessionHandler} (same : SameAudience before after) :
    Unheard before after where
  next := .inl same.next
  ended := by
    intro ended
    constructor
    · rw [same.managed]
      exact ended.managed
    · rw [same.clients]
      exact ended.clients

theorem attach (handler : SessionHandler) (client : Client) :
    Unheard handler (handler.attach client) := by
  unfold SessionHandler.attach
  extract_lets known
  cases isKnown : known with
  | false => exact of_same (SameAudience.refl handler)
  | true =>
      rw [Bool.not_true, if_neg Bool.false_ne_true]
      refine ⟨.inl rfl, ?_⟩
      intro ended
      refine ⟨ended.managed, ?_⟩
      intro other member
      split at member
      · exact ended.clients other member
      · rcases List.mem_append.mp member with old | new
        · exact ended.clients other old
        · rw [List.mem_singleton.mp new]
          cases client with
          | sentinel id => rfl
          | socket id =>
              have managed : handler.managed = true := isKnown
              rw [ended.managed] at managed
              cases managed

theorem detach (handler : SessionHandler) (client : Client) :
    Unheard handler (handler.detach client) := by
  unfold SessionHandler.detach
  extract_lets left
  have leaves : Unheard handler left := by
    refine ⟨.inl rfl, ?_⟩
    intro ended
    exact ⟨ended.managed, fun other member => ended.clients other (List.mem_of_mem_filter member)⟩
  split
  · exact leaves
  · have same := of_same (SameAudience.foldl
      (fun handler streamId => SameAudience.detachStream handler client streamId)
      (handler.streams.entries.map Prod.fst) left)
    constructor
    · rcases same.next with next | ended
      · exact .inl next
      · exact .inr ended
    · exact fun ended => same.ended (leaves.ended ended)

theorem unregister_over (handler : SessionHandler) : handler.unregister.Over := by
  refine ⟨rfl, ?_⟩
  nofun

theorem teardownKilled (handler : SessionHandler) : Unheard handler handler.teardownKilled := by
  unfold SessionHandler.teardownKilled
  split
  · exact of_same (SameAudience.refl handler)
  · split
    · exact ⟨.inr ⟨rfl, rfl, fun _ member => by cases member⟩,
        fun _ => ⟨rfl, fun _ member => by cases member⟩⟩
    · exact ⟨.inl rfl, fun _ => ⟨rfl, fun _ member => by cases member⟩⟩

theorem teardown (handler : SessionHandler) : Unheard handler handler.teardown := by
  unfold SessionHandler.teardown
  split
  · exact of_same ⟨rfl, rfl, rfl⟩
  · exact of_same ⟨rfl, rfl, rfl⟩

theorem execEnds (handler : SessionHandler) : Unheard handler handler.execEnds := by
  unfold SessionHandler.execEnds
  split
  · exact of_same (SameAudience.refl handler)
  · split
    · unfold SessionHandler.handleExecEnd
      split
      · exact of_same (SameAudience.refl handler)
      · exact ⟨.inl rfl, fun _ => unregister_over _⟩
    · split
      · exact of_same (SameAudience.refl handler)
      · exact teardown handler

theorem of_step (unread : String → Nat → Nat) (handler : SessionHandler) {input : HandlerInput}
    (other : isAgentFrame input = false) :
    Unheard handler (handlerStep unread handler input) := by
  have same {after : SessionHandler} (same : SameAudience handler after) :
      Unheard handler after := of_same same
  cases input with
  | attach client => exact attach handler client
  | detach client => exact detach handler client
  | message client message =>
      grind [handlerStep, SameAudience.handleMessage, SameAudience.refl]
  | direct streamId method path headers body =>
      dsimp only [handlerStep]
      split
      · exact same (SameAudience.startRequest handler .direct streamId _)
      · exact same (SameAudience.refl handler)
  | streaming streamId method path headers body =>
      dsimp only [handlerStep]
      split
      · exact same (SameAudience.startRequest handler .streaming streamId _)
      · exact same (SameAudience.refl handler)
  | tunnelOpen client streamId msg =>
      grind [handlerStep, SameAudience.proxyWSUpgrade, SameAudience.refl]
  | tunnelMessage streamId data => exact same (SameAudience.forwardWSData handler streamId data)
  | timeout streamId => exact same (SameAudience.timeout handler streamId)
  | cancel streamId => exact same (SameAudience.cancel handler streamId)
  | written request => exact same ⟨rfl, rfl, rfl⟩
  | writeFails request error => exact same (SameAudience.writeFails handler request error)
  | spawned =>
      dsimp only [handlerStep]
      split
      · exact same ⟨rfl, rfl, rfl⟩
      · exact same (SameAudience.refl handler)
  | rawExecStarted =>
      apply same
      show SameAudience handler handler.rawExecStarted
      unfold SessionHandler.rawExecStarted
      split
      · exact SameAudience.refl handler
      · exact ⟨rfl, rfl, rfl⟩
  | agentText value => cases other
  | agentBinary data => cases other
  | execEnds => exact execEnds handler
  | teardown => exact teardown handler
  | teardownWritten =>
      apply same
      show SameAudience handler handler.teardownWritten
      unfold SessionHandler.teardownWritten
      split
      · exact SameAudience.refl handler
      · exact ⟨rfl, rfl, rfl⟩
  | teardownKilled => exact teardownKilled handler
  | sweep => exact ⟨.inl rfl, fun ended => ⟨rfl, ended.clients⟩⟩

theorem trans {before middle after : SessionHandler} (first : Unheard before middle)
    (second : Unheard middle after) : Unheard before after where
  next := by
    grind [second.next, first.next, second.ended]
  ended ended := second.ended (first.ended ended)

/-- Whatever clients, callers and timers do, the announcement stays until the agent sends. -/
theorem of_run (unread : String → Nat → Nat) {inputs : List HandlerInput}
    (others : ∀ input ∈ inputs, isAgentFrame input = false) (handler : SessionHandler) :
    Unheard handler (run (handlerStep unread) handler inputs) := by
  induction inputs generalizing handler with
  | nil => exact of_same (SameAudience.refl handler)
  | cons input rest inductionHypothesis =>
      have here := of_step unread handler (others input (List.mem_cons_self ..))
      apply here.trans
      exact inductionHypothesis (fun later member => others later (List.mem_cons_of_mem _ member)) _

end Unheard

/-- A payload that nobody is left for. -/
structure Undelivered (before after : SessionHandler) : Prop where
  managed : before.managed = false
  callers : after.bridge.consumer = before.bridge.consumer ∧
    after.bridge.pending = before.bridge.pending
  sent : after.sent = before.sent

/-- A payload that was not announced: every WebSocket that is attached gets it. -/
structure Broadcast (data : Bytes) (before after : SessionHandler) : Prop where
  callers : after.bridge.consumer = before.bridge.consumer ∧
    after.bridge.pending = before.bridge.pending
  sent : after.sent = before.sent ++ payloads before.clients data

theorem broadcast_binary (expected : handler.next = none) (unread : String → Nat → Nat)
    (data : Bytes) : Broadcast data handler (handler.handleAgentBinary unread data) := by
  have spec := broadcast_spec handler data
  rw [SessionHandler.handleAgentBinary, show handler.bridge.nextBinaryStreamId = none from expected]
  constructor
  · rw [spec.2]
    exact ⟨rfl, rfl⟩
  · exact spec.1

theorem payloads_over (ended : handler.Over) (data : Bytes) :
    payloads handler.clients data = [] := by
  grind [payloads, List.filter_eq_nil_iff, ended.clients]

namespace SameAudience

theorem send (handler : SessionHandler) (client : Client) (item : Sent) :
    SameAudience handler (handler.send client item) := by
  cases client with
  | socket id => exact ⟨rfl, rfl, rfl⟩
  | sentinel id => exact refl handler

theorem forwardToClient (handler : SessionHandler) (value : Json) (streamId : String) :
    SameAudience handler (handler.forwardToClient value streamId) := by
  unfold SessionHandler.forwardToClient
  split
  · exact refl handler
  · exact send handler _ _

theorem forwardLast (handler : SessionHandler) (value : Json) (streamId : String) :
    SameAudience handler (handler.forwardLast value streamId) := by
  unfold SessionHandler.forwardLast
  split
  · exact refl handler
  · rename_i entry _
    have released := (send handler entry.ws (.text value)).trans (releaseStream _ entry)
    exact released.trans ⟨rfl, rfl, rfl⟩

theorem settled {streamId : String} {bridge : Bridge} (handler : SessionHandler)
    (outcome : Outcome) (same : bridge.nextBinaryStreamId = handler.bridge.nextBinaryStreamId) :
    SameAudience handler ((({ handler with bridge := bridge }).settle streamId
      outcome).releasePending streamId) := by
  have settles : SameAudience handler (({ handler with bridge := bridge }).settle streamId
      outcome) := ⟨same, rfl, rfl⟩
  exact settles.trans (releasePending _ _)

/-- A response without a body announces nothing. -/
theorem handleHTTPResponse (handler : SessionHandler) (value : Json) (streamId : String)
    (head : Head) {bodyFollows : Bool}
    (announcesNone : bodyFollows = true → (handler.bridge.pending streamId).isSome = false) :
    SameAudience handler (handler.handleHTTPResponse value streamId head bodyFollows) := by
  unfold SessionHandler.handleHTTPResponse
  cases pending : handler.bridge.pending streamId with
  | some entry =>
      cases bodyFollows with
      | true =>
          grind
      | false =>
          apply settled
          rw [Tunnel.handleHTTPResponse, pending]
          dsimp only
          split <;> rfl
  | none =>
      grind [forwardToClient, forwardLast]

theorem handleStreamClose (handler : SessionHandler) (value : Json) (streamId : String)
    (reason : Option String) :
    SameAudience handler (handler.handleStreamClose value streamId reason) := by
  unfold SessionHandler.handleStreamClose
  cases pending : handler.bridge.pending streamId with
  | some entry =>
      apply settled
      rw [Tunnel.handleStreamClose, pending]
      rfl
  | none => exact forwardLast handler value streamId

theorem handleBodyChunk (handler : SessionHandler) (value : Json) {streamId : String}
    (pending : handler.bridge.pending streamId = none)
    (unknown : handler.streams.get? streamId = none) :
    SameAudience handler (handler.handleBodyChunk value streamId) := by
  rw [SessionHandler.handleBodyChunk, pending, unknown]
  exact refl handler

theorem handleBodyEnd (handler : SessionHandler) (value : Json) (streamId : String) :
    SameAudience handler (handler.handleBodyEnd value streamId) := by
  unfold SessionHandler.handleBodyEnd
  cases pending : handler.bridge.pending streamId with
  | some entry =>
      have same : (Tunnel.handleBodyEnd handler.bridge streamId).nextBinaryStreamId =
          handler.bridge.nextBinaryStreamId := by
        rw [Tunnel.handleBodyEnd, pending]
        dsimp only
        split <;> rfl
      dsimp only
      split
      · have ended : SameAudience handler
            { handler with bridge := Tunnel.handleBodyEnd handler.bridge streamId } :=
          ⟨same, rfl, rfl⟩
        exact ended.trans (releasePending _ _)
      · exact settled handler .resolved same
  | none =>
      grind [refl, forwardToClient, forwardLast]

theorem handleOther (handler : SessionHandler) (value : Json) :
    SameAudience handler (handler.handleOther value) := by
  unfold SessionHandler.handleOther
  split
  · split
    · exact ⟨rfl, rfl, rfl⟩
    · grind [refl, forwardToClient]
  · exact refl handler

end SameAudience

/-- A message that announces no payload leaves what is announced alone. -/
theorem same_unannounced {value : Json} (announcesNone : handler.announced value = none) :
    SameAudience handler (handler.handleAgentMessage value) := by
  have ignored : SameAudience handler handler := SameAudience.refl handler
  unfold announced at announcesNone
  unfold SessionHandler.handleAgentMessage
  cases reads : envelope value with
  | httpResponse streamId head bodyFollows =>
      grind [SameAudience.handleHTTPResponse]
  | wsData streamId bodyFollows =>
      dsimp only
      split
      · exact ignored
      · rename_i named
        rw [reads] at announcesNone
        cases bodyFollows with
        | true =>
            grind
        | false => exact SameAudience.forwardToClient handler value streamId
  | streamClose streamId reason =>
      grind [SameAudience.handleStreamClose]
  | bodyChunk streamId =>
      dsimp only
      split
      · exact ignored
      · rename_i named
        rw [reads] at announcesNone
        dsimp only at announcesNone
        split at announcesNone
        · cases announcesNone
        · rename_i unknown
          apply SameAudience.handleBodyChunk
          · cases pending : handler.bridge.pending streamId with
            | none => rfl
            | some entry => exact absurd ⟨named, .inl (by rw [pending]; rfl)⟩ unknown
          · cases held : handler.streams.get? streamId with
            | none => rfl
            | some entry =>
                have has : handler.streams.has streamId = true :=
                  Option.isSome_iff_exists.mpr ⟨entry, held⟩
                exact absurd ⟨named, .inr has⟩ unknown
  | bodyEnd streamId =>
      grind [SameAudience.handleBodyEnd]
  | other => exact SameAudience.handleOther handler value

end SessionHandler

open SessionHandler

/-- What becomes of a payload: a message that announces it for a stream says where it goes; one
that announces none, with none outstanding, leaves it to every client. -/
structure PayloadRouted (value : Json) (data : Bytes) (told before after : SessionHandler) :
    Prop where
  announced : ∀ streamId, told.announced value = some streamId →
    Routed streamId data before after ∨ Undelivered before after
  unannounced : told.announced value = none → told.next = none → Broadcast data before after

/-- Whatever clients, callers and timers do between a message of the agent and the payload behind
it, the payload goes to the stream it was announced for. -/
theorem payload_routed (unread : String → Nat → Nat) (protocol : TunnelProtocol) (max : Nat)
    (before : List HandlerInput) (value : Json) (data : Bytes) {between : List HandlerInput}
    (others : ∀ input ∈ between, isAgentFrame input = false) :
    let told := run (handlerStep unread) (newSessionHandler protocol max) before
    let heard := run (handlerStep unread) (newSessionHandler protocol max)
      (before ++ .agentText value :: between)
    PayloadRouted value data told heard (handlerStep unread heard (.agentBinary data)) := by
  intro told heard
  have unheard : Unheard (told.handleAgentMessage value) heard := by
    have later := Unheard.of_run unread others (told.handleAgentMessage value)
    have split : heard = run (handlerStep unread) (told.handleAgentMessage value) between := by
      show run _ _ _ = _
      rw [run_append, run_cons]
      rfl
    rw [split]
    exact later
  constructor
  · intro streamId announces
    have remembered := next_announced announces
    rcases unheard.next with still | ⟨cleared, ended⟩
    · exact .inl (routed_binary (still.trans remembered) unread data)
    · have lost := broadcast_binary cleared unread data
      refine .inr ⟨ended.managed, lost.callers, ?_⟩
      have sent := lost.sent
      rw [payloads_over ended, List.append_nil] at sent
      exact sent
  · intro announcesNone nothing
    have silent := (same_unannounced announcesNone).next.trans nothing
    apply broadcast_binary
    rcases unheard.next with still | ⟨cleared, _⟩
    · exact still.trans silent
    · exact cleared

/-! ### Runs -/

/-- A message about a stream, with a payload behind it. -/
def announcement (kind streamId : String) : Json :=
  .obj [("type", .str kind), ("stream_id", .str streamId), ("body_follows", .bool true)]

/-- A caller waits for a streamed response, and a WebSocket is attached. -/
def oneCaller : List HandlerInput :=
  [.spawned, .agentText readyMessage, .attach (.socket 1), .streaming "stream" "GET" "/" [] none]

theorem oneCaller_routed :
    let step := handlerStep fun _ _ => 0
    let heard := run step (newSessionHandler .framed 4)
      (oneCaller ++ .agentText (announcement "http_response" "stream") :: [.attach (.socket 2)])
    Routed "stream" [7] heard (step heard (.agentBinary [7])) ∨
      Undelivered heard (step heard (.agentBinary [7])) :=
  (payload_routed (fun _ _ => 0) .framed 4 oneCaller (announcement "http_response" "stream") [7]
    (by decide)).announced "stream" (by decide +kernel)

/-- A WebSocket gets the payload of a stream that nobody has. -/
theorem unknownStream_broadcast :
    let step := handlerStep fun _ _ => 0
    let told := run step (newSessionHandler .framed 4)
      [.spawned, .agentText readyMessage, .attach (.socket 1)]
    let heard := step told (.agentText (announcement "ws_data" "gone"))
    told.streams.get? "gone" = none ∧ told.bridge.pending "gone" = none ∧
      (step heard (.agentBinary [7])).sent = [(.socket 1, .payload [7])] := by
  refine ⟨rfl, rfl, rfl⟩

end Lombok.Tunnel
