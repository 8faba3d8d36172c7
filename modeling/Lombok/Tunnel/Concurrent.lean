import Lombok.Library.Paired
import Lombok.Tunnel.Request

/-!
Contract: concurrent operations on one tunnel session.

Owns the operations of the bridge that write to the agent, each a sequence of
awaited `writeFrame` calls on the session's exec stream, and every order in
which the calls of several operations can be made. `WriteSerializer` orders
writes to WebSocket clients only; nothing orders these.

When no operation writes between another's announcement and its payload, the
agent decodes every operation with its own payload.
-/

namespace Lombok.Tunnel

open Lombok.Core
open Lombok.Library
open Lombok.Library.Framing
open Lombok.Library.Paired

/-! ### Operations -/

inductive Operation where
  | proxyHTTPRequest (streamId : String) (req : HTTPRequestMsg) (body : Option Bytes)
  | proxyHTTPDirect (streamId method path : String) (headers : List (String × String))
      (body : Option Bytes)
  | proxyHTTPStreaming (streamId method path : String) (headers : List (String × String))
      (body : Option Bytes)
  | proxyWSUpgrade (streamId : String) (msg : WSUpgradeMsg)
  | forwardWSData (streamId : String) (data : Bytes)
  | closeStream (streamId reason : String)
deriving DecidableEq

/-- The message `proxyHTTPDirect` and `proxyHTTPStreaming` build. -/
def directMessage (streamId method path : String) (headers : List (String × String))
    (body : Bytes) : HTTPRequestMsg :=
  ⟨streamId, method, path, headers, if body.length = 0 then none else some body.length,
    some (decide (0 < body.length))⟩

/-- The writes of an operation, in the order they are awaited. -/
def Operation.frames : Operation → List Frame
  | .proxyHTTPRequest streamId req body =>
      requestFrames (requestMessage streamId req (body.getD [])) (body.getD [])
  | .proxyHTTPDirect streamId method path headers body =>
      requestFrames (directMessage streamId method path headers (body.getD [])) (body.getD [])
  | .proxyHTTPStreaming streamId method path headers body =>
      requestFrames (directMessage streamId method path headers (body.getD [])) (body.getD [])
  | .proxyWSUpgrade streamId msg =>
      [(BridgeMessage.wsUpgrade { msg with streamId := streamId }).frame]
  | .forwardWSData streamId data => [(BridgeMessage.wsData streamId).frame, binaryFrame data]
  | .closeStream streamId reason => [(BridgeMessage.streamClose streamId reason).frame]

/-- What the agent decodes when it reads the operation with its own payload. -/
def Operation.delivery : Operation → Delivery
  | .proxyHTTPRequest streamId req body =>
      .httpRequest (requestMessage streamId req (body.getD [])).received (body.getD [])
  | .proxyHTTPDirect streamId method path headers body =>
      .httpRequest (directMessage streamId method path headers (body.getD [])).received
        (body.getD [])
  | .proxyHTTPStreaming streamId method path headers body =>
      .httpRequest (directMessage streamId method path headers (body.getD [])).received
        (body.getD [])
  | .proxyWSUpgrade streamId msg => .wsUpgrade { msg with streamId := streamId }
  | .forwardWSData streamId data => .wsData streamId data
  | .closeStream streamId _ => .streamClose streamId

def Operation.InOneFrame (operation : Operation) : Prop :=
  (∀ frame ∈ operation.frames, frame.payload.length ≤ maxFrameSize) ∧
    match operation with
    | .proxyHTTPRequest _ req body =>
        ¬Misplaced req (body.getD []) ∧ (body.getD [] = [] → req.lengthInRange)
    | .proxyHTTPDirect _ _ _ _ body => (body.getD []).length ≤ maxBodyChunk
    | .proxyHTTPStreaming _ _ _ _ body => (body.getD []).length ≤ maxBodyChunk
    | _ => True

/-! ### The agent as a reader of pairs -/

/-- The agent's read loop, one frame at a time. -/
def tunnelReader : Reader Frame Delivery where
  announces frame :=
    if frame.kind = frameText then
      (decodeText frame.payload).bind fun message =>
        message.awaits.map fun deliver body => deliver (bodyPayload body)
    else none
  single frame :=
    if frame.kind = frameText then
      match decodeText frame.payload with
      | some message => message.immediate
      | none => []
    else []
  isPayload frame := frame.kind == frameBinary

section Reader

variable {frame : Frame} {message : AgentMessage}

theorem announces_notText (notText : frame.kind ≠ frameText) :
    tunnelReader.announces frame = none := if_neg notText

theorem announces_decoded (text : frame.kind = frameText)
    (decoded : decodeText frame.payload = some message) :
    tunnelReader.announces frame =
      message.awaits.map fun deliver body => deliver (bodyPayload body) := by
  show (if frame.kind = frameText then _ else none) = _
  rw [if_pos text, decoded, Option.bind_some]

theorem announces_undecoded (undecoded : decodeText frame.payload = none) :
    tunnelReader.announces frame = none := by
  show (if frame.kind = frameText then _ else none) = _
  rw [undecoded, Option.bind_none]
  split <;> rfl

theorem single_decoded (text : frame.kind = frameText)
    (decoded : decodeText frame.payload = some message) :
    tunnelReader.single frame = message.immediate := by
  show (if frame.kind = frameText then _ else []) = _
  rw [if_pos text, decoded]

theorem single_notText (notText : frame.kind ≠ frameText) : tunnelReader.single frame = [] :=
  if_neg notText

theorem single_undecoded (undecoded : decodeText frame.payload = none) :
    tunnelReader.single frame = [] := by
  show (if frame.kind = frameText then _ else []) = _
  rw [undecoded]
  split <;> rfl

theorem readLoop_eq_read : ∀ sent : List Frame, readLoop sent = read tunnelReader sent
  | [] => rfl
  | frame :: rest => by
      by_cases text : frame.kind = frameText
      · cases decoded : decodeText frame.payload with
        | none =>
            rw [readLoop_undecoded text decoded, read_single (announces_undecoded decoded),
              single_undecoded decoded, readLoop_eq_read rest]
            rfl
        | some message =>
            have announces := announces_decoded text decoded
            cases awaited : message.awaits with
            | none =>
                rw [awaited] at announces
                rw [readLoop_immediate text decoded awaited, read_single announces,
                  single_decoded text decoded, readLoop_eq_read rest]
            | some deliver =>
                rw [awaited, Option.map_some] at announces
                cases rest with
                | nil => rw [readLoop_waiting text decoded awaited, read_waiting announces]
                | cons body rest =>
                    rw [readLoop_awaits text decoded awaited, read_pair announces,
                      readLoop_eq_read rest]
      · rw [readLoop_notText text, read_single (announces_notText text), single_notText text,
          readLoop_eq_read rest]
        rfl

end Reader

/-! ### The shape of an operation -/

theorem shaped_of_single {message : BridgeMessage} {decoded : AgentMessage} {delivery : Delivery}
    (decodes : decodeText message.frame.payload = some decoded) (silent : decoded.awaits = none)
    (delivers : decoded.immediate = [delivery]) :
    Shaped tunnelReader delivery [message.frame] := by
  apply Shaped.single
  · rw [announces_decoded rfl decodes, silent]
    rfl
  · rw [single_decoded rfl decodes, delivers]

theorem shaped_of_pair {message : BridgeMessage} {decoded : AgentMessage}
    {deliver : Bytes → Delivery} (data : Bytes)
    (decodes : decodeText message.frame.payload = some decoded)
    (awaits : decoded.awaits = some deliver) :
    Shaped tunnelReader (deliver data) [message.frame, binaryFrame data] := by
  apply Shaped.pair message.frame (binaryFrame data)
    (fun body => deliver (bodyPayload body))
  · rw [announces_decoded rfl decodes, awaits]
    rfl
  · rfl
  · exact announces_notText (show frameBinary ≠ frameText by decide)
  · rfl

theorem shaped_requestFrames {msg : HTTPRequestMsg} {body : Bytes} (inRange : msg.lengthInRange)
    (small : body.length ≤ maxBodyChunk) (announced : body.length ≠ 0 → msg.bodyFollows = some true)
    (silent : body.length = 0 → msg.bodyFollows ≠ some true) :
    Shaped tunnelReader (.httpRequest msg.received body) (requestFrames msg body) := by
  have decodes := decode_httpRequest msg
  rw [if_pos inRange] at decodes
  unfold requestFrames
  by_cases empty : body.length = 0
  · rw [if_pos empty, List.eq_nil_of_length_eq_zero empty]
    exact shaped_of_single decodes (awaits_received_none (silent empty)) rfl
  · rw [if_neg empty, if_pos small]
    exact shaped_of_pair body decodes (awaits_received (announced empty))

theorem shaped_directMessage {streamId method path : String} {headers : List (String × String)}
    {body : Bytes} (small : body.length ≤ maxBodyChunk) :
    Shaped tunnelReader
        (.httpRequest (directMessage streamId method path headers body).received body)
      (requestFrames (directMessage streamId method path headers body) body) := by
  apply shaped_requestFrames _ small
  · intro nonempty
    exact congrArg some (decide_eq_true (Nat.pos_of_ne_zero nonempty))
  · intro empty announced
    have isSome : some (decide (0 < body.length)) = some true := announced
    rw [empty] at isSome
    cases isSome
  · intro length declared
    grind [maxBodyChunk, directMessage]

theorem shaped_of_inOneFrame {operation : Operation} (inOneFrame : operation.InOneFrame) :
    Shaped tunnelReader operation.delivery operation.frames := by
  cases operation with
  | proxyHTTPRequest streamId req body =>
      obtain ⟨_, placed, declared⟩ := inOneFrame
      rw [Misplaced, not_or, not_and] at placed
      have small : (body.getD []).length ≤ maxBodyChunk := Nat.le_of_not_lt placed.1
      apply shaped_requestFrames (lengthInRange_requestMessage small declared) small
      · grind [requestMessage]
      · grind [requestMessage]
  | proxyHTTPDirect streamId method path headers body => exact shaped_directMessage inOneFrame.2
  | proxyHTTPStreaming streamId method path headers body => exact shaped_directMessage inOneFrame.2
  | proxyWSUpgrade streamId msg => exact shaped_of_single (decode_wsUpgrade _) rfl rfl
  | forwardWSData streamId data => exact shaped_of_pair data (decode_wsData streamId) rfl
  | closeStream streamId reason => exact shaped_of_single (decode_streamClose _ _) rfl rfl

/-! ### Runs -/

/-- A session's operations and the frames on its exec stream. -/
abbrev TunnelState := State Operation Frame

/-- An operation starts, or the next write of one is made. -/
abbrev tunnelStep : TunnelState → Input Operation → TunnelState := step Operation.frames

def decoded (state : TunnelState) : List Delivery :=
  readLoop (Framing.frames maxFrameSize (writeFrames (state.wire.map Prod.snd)))

/-- Each announcement is directly followed by its own BINARY frame, and the agent decodes the
finished operations with their own payloads. -/
def Unmixed (state : TunnelState) : Prop :=
  OwnPairs tunnelReader state.wire ∧ decoded state = state.finished.map Operation.delivery

/-- No operation writes while another is between its announcement and its payload, and no payload
is cut or over the limit. -/
def InTurn (state : TunnelState) : Input Operation → Prop
  | .start operation => operation.InOneFrame
  | .write index => ∀ (other : Nat) (writing : Writing Operation Frame), other ≠ index →
      state.running[other]? = some writing → ¬Midway Operation.frames writing

theorem exclusive_of_inTurn {state : TunnelState} {input : Input Operation}
    (inTurn : InTurn state input) :
    Exclusive Operation.frames tunnelReader Operation.delivery state input := by
  cases input with
  | start operation => exact shaped_of_inOneFrame inTurn
  | write index => exact inTurn

/-- The frames on the wire of a run of operations that fit are read back as they are. -/
theorem decoded_eq {inputs : List (Input Operation)}
    (inTurn : AlongRun tunnelStep InTurn State.initial inputs) :
    decoded (run tunnelStep State.initial inputs) =
      read tunnelReader ((run tunnelStep State.initial inputs).wire.map Prod.snd) := by
  have small := @wire_of_started _ _ Operation.frames
    (fun frame => frame.payload.length ≤ maxFrameSize) inputs
    (inTurn.imp fun state input turn operation started => by
      subst started
      exact turn.1)
  grind [decoded, readLoop_eq_read, frames_writeFrames, maxFrameSize, fits_of_le,
    List.takeWhile_eq_self_iff.mpr]

/-- **In every run whose steps are taken in turn, the streams do not mix**, in every state it
reaches. -/
theorem streams_unmixed {inputs : List (Input Operation)}
    (inTurn : AlongRun tunnelStep InTurn State.initial inputs) :
    ∀ before after, inputs = before ++ after →
      Unmixed (run tunnelStep State.initial before) := by
  intro before after split
  subst split
  have front := inTurn.of_append
  have kept := delivered_of_exclusive (front.imp fun _ _ turn => exclusive_of_inTurn turn)
  exact ⟨kept.1, (decoded_eq front).trans kept.2⟩

/-! ### Two sockets -/

def sampleFirst : Operation := .forwardWSData "a" [1]

def sampleSecond : Operation := .forwardWSData "b" [2]

theorem sampleFirst_inOneFrame : sampleFirst.InOneFrame := by
  apply And.intro _ trivial
  decide +kernel

theorem sampleSecond_inOneFrame : sampleSecond.InOneFrame := by
  apply And.intro _ trivial
  decide +kernel

/-- Both sockets have a message to send, and send it in turn. -/
theorem streams_unmixed_inTurn :
    Unmixed (run tunnelStep State.initial
      [.start sampleFirst, .start sampleSecond, .write 0, .write 0, .write 1, .write 1]) := by
  have notBegun : ∀ operation : Operation,
      ¬Midway Operation.frames ⟨operation, operation.frames⟩ := fun _ midway => midway.2 rfl
  have done : ∀ operation : Operation, ¬Midway Operation.frames ⟨operation, []⟩ :=
    fun _ midway => midway.1 rfl
  apply streams_unmixed _ _ [] (List.append_nil _).symm
  refine ⟨sampleFirst_inOneFrame, sampleSecond_inOneFrame, ?_, ?_, ?_, ?_, trivial⟩
  · intro other writing different held
    rcases other with _ | _ | other
    · exact absurd rfl different
    · cases held
      exact notBegun sampleSecond
    · cases held
  · intro other writing different held
    rcases other with _ | _ | other
    · exact absurd rfl different
    · cases held
      exact notBegun sampleSecond
    · cases held
  · intro other writing different held
    rcases other with _ | _ | other
    · cases held
      exact done sampleFirst
    · exact absurd rfl different
    · cases held
  · intro other writing different held
    rcases other with _ | _ | other
    · cases held
      exact done sampleFirst
    · exact absurd rfl different
    · cases held

/-- Two messages written in step: each announcement is followed by the other socket's frame. -/
theorem interleaved_mixed :
    ¬∀ inputs : List (Input Operation), Unmixed (run tunnelStep State.initial inputs) := by
  intro unmixed
  have paired := (unmixed [.start sampleFirst, .start sampleSecond, .write 0, .write 1, .write 0,
    .write 1]).1
  have announced : (tunnelReader.announces (BridgeMessage.wsData "a").frame).isSome = true := by
    rw [announces_decoded rfl (decode_wsData "a")]
    rfl
  have next := paired.1 announced (1, (BridgeMessage.wsData "b").frame) rfl
  cases next.1

end Lombok.Tunnel
