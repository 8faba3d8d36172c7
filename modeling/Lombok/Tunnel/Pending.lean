import Lombok.Tunnel.AgentResponse
import Mathlib.Logic.Function.Basic

/-!
Contract: the bridge's handlers of the agent's frames, for proxied requests.

Owns the pending responses of a session, the stream the next binary payload is
for, what the callers of `proxyHTTPDirect` and `proxyHTTPStreaming` have been
handed, and one handler for each message of the agent.

Does not own WebSocket clients, the concurrency limiter, the initial timeouts
or what the bridge writes back to the agent.
-/

namespace Lombok.Tunnel

open Lombok.Core
open Lombok.Library.Framing

/-! ### State -/

/-- `SSE_MAX_BUFFERED_BYTES`. -/
def maxBufferedBytes : Nat := 16 * 1024 * 1024

/-- A status and headers, as they stand in a message. -/
structure Head where
  statusCode : Option Json
  headers : Option Json

inductive Ending where
  | completed
  | failed (reason : String)
deriving DecidableEq

/-- What a caller has been handed. -/
structure Consumer where
  head : Option Head
  body : Bytes
  ending : Option Ending

/-- Nothing has arrived. -/
def Consumer.waiting : Consumer := ⟨none, [], none⟩

/-- An entry of `pendingHTTPResponses`. -/
structure Pending where
  streaming : Bool
  responseMeta : Option Head
  bodyChunks : List Bytes
  expectingBinary : Bool

structure Bridge where
  pending : String → Option Pending
  nextBinaryStreamId : Option String
  consumer : String → Consumer

namespace Bridge

/-- Replaces a stream's entry and what its caller has. -/
def put (bridge : Bridge) (streamId : String) (entry : Option Pending) (consumer : Consumer) :
    Bridge :=
  { bridge with
    pending := Function.update bridge.pending streamId entry
    consumer := Function.update bridge.consumer streamId consumer }

/-- The next binary payload is the stream's. -/
def expect (bridge : Bridge) (streamId : String) : Bridge :=
  { bridge with nextBinaryStreamId := some streamId }

/-- A request is sent: its response is pending. -/
def register (bridge : Bridge) (streamId : String) (streaming : Bool) : Bridge :=
  bridge.put streamId (some ⟨streaming, none, [], false⟩) .waiting

section Put

variable (bridge : Bridge) (streamId : String) (entry : Option Pending) (consumer : Consumer)

@[simp] theorem put_pending : (bridge.put streamId entry consumer).pending streamId = entry :=
  Function.update_self ..

@[simp] theorem put_consumer : (bridge.put streamId entry consumer).consumer streamId = consumer :=
  Function.update_self ..

theorem put_pending_other {other : String} (different : other ≠ streamId) :
    (bridge.put streamId entry consumer).pending other = bridge.pending other :=
  Function.update_of_ne different ..

theorem put_consumer_other {other : String} (different : other ≠ streamId) :
    (bridge.put streamId entry consumer).consumer other = bridge.consumer other :=
  Function.update_of_ne different ..

@[simp] theorem expect_pending : (bridge.expect streamId).pending = bridge.pending := rfl

@[simp] theorem expect_consumer : (bridge.expect streamId).consumer = bridge.consumer := rfl

end Put

end Bridge

/-! ### Messages of the agent -/

/-- A message as the handlers read it. -/
inductive AgentEnvelope where
  | httpResponse (streamId : String) (head : Head) (bodyFollows : Bool)
  | wsData (streamId : String) (bodyFollows : Bool)
  | streamClose (streamId : String) (reason : Option String)
  | bodyChunk (streamId : String)
  | bodyEnd (streamId : String)
  | other

def textField (fields : Fields) (name : String) : Option String :=
  match fields.get? name with
  | some (.str text) => some text
  | _ => none

def flagField (fields : Fields) (name : String) : Bool :=
  match fields.get? name with
  | some (.bool flag) => flag
  | _ => false

/-- A message without a stream has the empty one. -/
def envelope (value : Json) : AgentEnvelope :=
  match value with
  | .obj fields =>
      let kind := textField fields "type"
      let streamId := (textField fields "stream_id").getD ""
      if kind = some "http_response" then
        .httpResponse streamId ⟨Fields.get? fields "status_code", Fields.get? fields "headers"⟩
          (flagField fields "body_follows")
      else if kind = some "ws_data" then .wsData streamId (flagField fields "body_follows")
      else if kind = some "stream_close" then .streamClose streamId (textField fields "reason")
      else if kind = some "body_chunk" then .bodyChunk streamId
      else if kind = some "body_end" then .bodyEnd streamId
      else .other
  | _ => .other

/-! ### Handlers -/

section Handlers

variable (bridge : Bridge) (streamId : String)

/-- `forwardToClient` for an `http_response`. The promise of a streaming caller keeps the first
head it is resolved with. -/
def handleHTTPResponse (head : Head) (bodyFollows : Bool) : Bridge :=
  match bridge.pending streamId with
  | none => bridge
  | some entry =>
      let consumer := bridge.consumer streamId
      if entry.streaming then
        let resolved := { consumer with head := some (consumer.head.getD head) }
        if bodyFollows then
          (bridge.put streamId
            (some { entry with responseMeta := some head, expectingBinary := true })
            resolved).expect streamId
        else bridge.put streamId none { resolved with ending := some .completed }
      else if bodyFollows then
        (bridge.put streamId
          (some { entry with responseMeta := some head, expectingBinary := true })
          consumer).expect streamId
      else bridge.put streamId none ⟨some head, [], some .completed⟩

/-- `forwardToClient` for a `ws_data`. -/
def handleWSData (bodyFollows : Bool) : Bridge :=
  if bodyFollows then bridge.expect streamId else bridge

def handleStreamClose (reason : Option String) : Bridge :=
  match bridge.pending streamId with
  | none => bridge
  | some _ =>
      bridge.put streamId none { bridge.consumer streamId with
        ending := some (.failed ("Stream closed: " ++ reason.getD "unknown")) }

def handleBodyChunk : Bridge :=
  match bridge.pending streamId with
  | none => bridge
  | some entry =>
      (bridge.put streamId (some { entry with expectingBinary := true })
        (bridge.consumer streamId)).expect streamId

/-- A body of no chunks is `null`. -/
def handleBodyEnd : Bridge :=
  match bridge.pending streamId with
  | none => bridge
  | some entry =>
      if entry.streaming then
        bridge.put streamId none { bridge.consumer streamId with ending := some .completed }
      else
        let statusCode := (entry.responseMeta.bind Head.statusCode).getD (.num "200")
        let headers := (entry.responseMeta.bind Head.headers).getD (.obj [])
        bridge.put streamId none
          ⟨some ⟨some statusCode, some headers⟩, entry.bodyChunks.flatten, some .completed⟩

/-- `handleAgentMessage`: a message without a stream is ignored. -/
def handleAgentMessage (bridge : Bridge) : AgentEnvelope → Bridge
  | .httpResponse streamId head bodyFollows =>
      if streamId = "" then bridge else handleHTTPResponse bridge streamId head bodyFollows
  | .wsData streamId bodyFollows =>
      if streamId = "" then bridge else handleWSData bridge streamId bodyFollows
  | .streamClose streamId reason =>
      if streamId = "" then bridge else handleStreamClose bridge streamId reason
  | .bodyChunk streamId => if streamId = "" then bridge else handleBodyChunk bridge streamId
  | .bodyEnd streamId => if streamId = "" then bridge else handleBodyEnd bridge streamId
  | .other => bridge

/-- The payload goes to a pending response. A stream whose caller is too far behind is ended;
`unread` is what the caller has not read yet, given all it has been handed. -/
def handlePayload (unread : String → Nat → Nat) (data : Bytes) : Bridge :=
  match bridge.pending streamId with
  | none => bridge
  | some entry =>
      let consumer := bridge.consumer streamId
      if entry.streaming then
        let handed := { consumer with body := consumer.body ++ data }
        if maxBufferedBytes < unread streamId handed.body.length then
          bridge.put streamId none
            { handed with ending := some (.failed "consumer backlog exceeded") }
        else bridge.put streamId (some { entry with expectingBinary := false }) handed
      else if entry.expectingBinary then
        bridge.put streamId
          (some { entry with expectingBinary := false, bodyChunks := entry.bodyChunks ++ [data] })
          consumer
      else bridge

/-- `handleAgentBinary`. -/
def handleAgentBinary (unread : String → Nat → Nat) (data : Bytes) : Bridge :=
  match bridge.nextBinaryStreamId with
  | none => bridge
  | some streamId =>
      handlePayload { bridge with nextBinaryStreamId := none } streamId unread data

/-- A frame as `ProtocolParser` hands it on: a TEXT payload that is no JSON is reported. -/
def handleFrame (unread : String → Nat → Nat) (frame : Frame) : Bridge :=
  if frame.kind = frameText then
    match Json.parse (repairUtf8 frame.payload) with
    | none => bridge
    | some value => handleAgentMessage bridge (envelope value)
  else if frame.kind = frameBinary then handleAgentBinary bridge unread frame.payload
  else bridge

/-- The frames of the agent, in order. -/
def handleFrames (unread : String → Nat → Nat) (received : List Frame) : Bridge :=
  received.foldl (fun bridge frame => handleFrame bridge unread frame) bridge

end Handlers

/-! ### What the handlers read -/

namespace AgentReply

/-- The handlers' reading of a message. -/
def toEnvelope : AgentReply → AgentEnvelope
  | .httpResponse streamId statusCode headers _ bodyFollows =>
      .httpResponse streamId
        ⟨some (.ofNat statusCode), some (headersJson (sortHeaders headers))⟩ bodyFollows
  | .bodyChunk streamId => .bodyChunk streamId
  | .bodyEnd streamId => .bodyEnd streamId
  | .streamClose streamId reason =>
      .streamClose streamId (if reason = "" then none else some reason)

theorem envelope_fields (reply : AgentReply) : envelope (.obj reply.fields) = reply.toEnvelope := by
  cases reply with
  | httpResponse streamId statusCode headers bodyLen bodyFollows =>
      by_cases noStream : streamId = "" <;> by_cases noBody : bodyLen = 0 <;>
        cases bodyFollows <;>
          simp [fields, omitEmpty, toEnvelope, envelope, textField, flagField, Fields.ofOptions,
            Fields.get?, noStream, noBody]
  | bodyChunk streamId =>
      by_cases noStream : streamId = "" <;>
        simp [fields, omitEmpty, toEnvelope, envelope, textField, Fields.ofOptions, Fields.get?,
          noStream]
  | bodyEnd streamId =>
      by_cases noStream : streamId = "" <;>
        simp [fields, omitEmpty, toEnvelope, envelope, textField, Fields.ofOptions, Fields.get?,
          noStream]
  | streamClose streamId reason =>
      by_cases noStream : streamId = "" <;> by_cases noReason : reason = "" <;>
        simp [fields, omitEmpty, toEnvelope, envelope, textField, Fields.ofOptions, Fields.get?,
          noStream, noReason]

end AgentReply

section Runs

variable {bridge : Bridge} {streamId : String} {unread : String → Nat → Nat}

theorem handleFrame_reply (bridge : Bridge) (unread : String → Nat → Nat) (reply : AgentReply) :
    handleFrame bridge unread reply.frame = handleAgentMessage bridge reply.toEnvelope := by
  have text : reply.frame.kind = frameText := rfl
  rw [handleFrame, if_pos text, reply.parse_frame]
  dsimp only
  rw [reply.envelope_fields]

theorem handleFrames_reply (bridge : Bridge) (unread : String → Nat → Nat) (reply : AgentReply)
    (rest : List Frame) :
    handleFrames bridge unread (reply.frame :: rest) =
      handleFrames (handleAgentMessage bridge reply.toEnvelope) unread rest := by
  unfold handleFrames
  rw [List.foldl_cons, handleFrame_reply]

theorem handleFrames_binary (bridge : Bridge) (unread : String → Nat → Nat) (data : Bytes)
    (rest : List Frame) :
    handleFrames bridge unread (binaryFrame data :: rest) =
      handleFrames (handleAgentBinary bridge unread data) unread rest := rfl

/-! ### Settled streams -/

/-- The stream is no longer pending, and its caller has what it had. -/
structure Settled (bridge : Bridge) (streamId : String) (consumer : Consumer) : Prop where
  pending : bridge.pending streamId = none
  consumer : bridge.consumer streamId = consumer

theorem settled_put (bridge : Bridge) (streamId : String) (consumer : Consumer) :
    Settled (bridge.put streamId none consumer) streamId consumer :=
  ⟨bridge.put_pending .., bridge.put_consumer ..⟩

theorem Settled.expect {consumer : Consumer} (settled : Settled bridge streamId consumer)
    (other : String) : Settled (bridge.expect other) streamId consumer :=
  ⟨settled.pending, settled.consumer⟩

/-- Handlers replace entries that are pending. -/
theorem Settled.put {consumer : Consumer} (settled : Settled bridge streamId consumer)
    {other : String} {held : Pending} (pending : bridge.pending other = some held)
    (entry : Option Pending) (handed : Consumer) :
    Settled (bridge.put other entry handed) streamId consumer := by
  have different : streamId ≠ other := by
    grind [settled.pending]
  constructor
  · rw [bridge.put_pending_other _ _ _ different]
    exact settled.pending
  · rw [bridge.put_consumer_other _ _ _ different]
    exact settled.consumer

theorem Settled.ite {consumer : Consumer} {condition : Prop} [Decidable condition]
    {other : Bridge} (settled : Settled bridge streamId consumer)
    (otherwise : Settled other streamId consumer) :
    Settled (if condition then bridge else other) streamId consumer := by
  grind

theorem Settled.handleAgentMessage {consumer : Consumer}
    (settled : Settled bridge streamId consumer) (message : AgentEnvelope) :
    Settled (handleAgentMessage bridge message) streamId consumer := by
  cases message with
  | httpResponse other head bodyFollows =>
      rw [Tunnel.handleAgentMessage]
      apply settled.ite
      unfold handleHTTPResponse
      cases held : bridge.pending other with
      | none => exact settled
      | some entry =>
          dsimp only
          cases bodyFollows with
          | false => exact (settled.put held ..).ite (settled.put held ..)
          | true =>
              exact ((settled.put held ..).expect other).ite ((settled.put held ..).expect other)
  | wsData other bodyFollows =>
      rw [Tunnel.handleAgentMessage]
      apply settled.ite
      cases bodyFollows with
      | false => exact settled
      | true => exact settled.expect other
  | streamClose other reason =>
      rw [Tunnel.handleAgentMessage]
      apply settled.ite
      grind [handleStreamClose, settled.put]
  | bodyChunk other =>
      rw [Tunnel.handleAgentMessage]
      apply settled.ite
      unfold handleBodyChunk
      cases held : bridge.pending other with
      | none => exact settled
      | some entry => exact (settled.put held ..).expect other
  | bodyEnd other =>
      rw [Tunnel.handleAgentMessage]
      apply settled.ite
      grind [handleBodyEnd, settled.put]
  | other => exact settled

theorem Settled.handleAgentBinary {consumer : Consumer}
    (settled : Settled bridge streamId consumer) (unread : String → Nat → Nat) (data : Bytes) :
    Settled (handleAgentBinary bridge unread data) streamId consumer := by
  unfold Tunnel.handleAgentBinary
  cases expected : bridge.nextBinaryStreamId with
  | none => exact settled
  | some other =>
      have cleared : Settled { bridge with nextBinaryStreamId := none } streamId consumer :=
        ⟨settled.pending, settled.consumer⟩
      grind [handlePayload, cleared.put]

theorem Settled.handleFrame {consumer : Consumer} (settled : Settled bridge streamId consumer)
    (unread : String → Nat → Nat) (frame : Frame) :
    Settled (handleFrame bridge unread frame) streamId consumer := by
  grind [Tunnel.handleFrame, settled.handleAgentMessage, settled.handleAgentBinary]

/-- Nothing that arrives later changes what a settled stream's caller has. -/
theorem Settled.handleFrames {consumer : Consumer} (settled : Settled bridge streamId consumer)
    (unread : String → Nat → Nat) (received : List Frame) :
    Settled (handleFrames bridge unread received) streamId consumer := by
  unfold Tunnel.handleFrames
  induction received generalizing bridge with
  | nil => exact settled
  | cons frame tail inductionHypothesis =>
      exact inductionHypothesis (settled.handleFrame unread frame)

end Runs

end Lombok.Tunnel
