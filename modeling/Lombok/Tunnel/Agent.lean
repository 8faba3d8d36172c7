import Lombok.Tunnel.Protocol
import Lombok.Tunnel.Headers

/-!
Contract: the read loop of the tunnel agent and the requests it makes.

Owns `Run` with `dispatchText`, which reads a body from the very next frame of
the stream, and `makeRequest` up to the request given to the HTTP client.

Does not own what `net/http` puts on the wire for that request, or which URLs
`url.Parse` takes. A Go map is ranged over in an order the agent does not
choose.
-/

namespace Lombok.Tunnel

open Lombok.Library.Framing

/-! ### The read loop -/

/-- What the loop hands to a handler. -/
inductive Delivery where
  | httpRequest (msg : AgentRequest) (body : Bytes)
  | wsUpgrade (msg : WSUpgradeMsg)
  | wsData (streamId : String) (data : Bytes)
  | streamClose (streamId : String)
deriving DecidableEq

def AgentMessage.awaits : AgentMessage → Option (Bytes → Delivery)
  | .httpRequest msg => if msg.bodyFollows then some (.httpRequest msg) else none
  | .wsData streamId true => some (.wsData streamId)
  | _ => none

/-- The deliveries of a message that announces no body. -/
def AgentMessage.immediate : AgentMessage → List Delivery
  | .httpRequest msg => [.httpRequest msg []]
  | .wsUpgrade msg => [.wsUpgrade msg]
  | .wsData _ _ => []
  | .streamClose streamId => [.streamClose streamId]
  | .other => []

def bodyPayload (frame : Frame) : Bytes :=
  if frame.kind = frameBinary then frame.payload else []

/-- `Run`: the deliveries of the frames that were read. -/
def readLoop : List Frame → List Delivery
  | [] => []
  | frame :: rest =>
      if frame.kind = frameText then
        match decodeText frame.payload with
        | none => readLoop rest
        | some message =>
            match message.awaits with
            | none => message.immediate ++ readLoop rest
            | some deliver =>
                match rest with
                | [] => []
                | body :: rest => deliver (bodyPayload body) :: readLoop rest
      else readLoop rest

variable {frame : Frame} {message : AgentMessage} (headers : List (String × String))

theorem readLoop_notText (notText : frame.kind ≠ frameText) (rest : List Frame) :
    readLoop (frame :: rest) = readLoop rest := by
  rw [readLoop.eq_def]
  dsimp only
  rw [if_neg notText]

theorem readLoop_undecoded (text : frame.kind = frameText)
    (undecoded : decodeText frame.payload = none) (rest : List Frame) :
    readLoop (frame :: rest) = readLoop rest := by
  rw [readLoop.eq_def]
  dsimp only
  rw [if_pos text, undecoded]

theorem readLoop_immediate (text : frame.kind = frameText)
    (decoded : decodeText frame.payload = some message) (complete : message.awaits = none)
    (rest : List Frame) : readLoop (frame :: rest) = message.immediate ++ readLoop rest := by
  rw [readLoop.eq_def]
  dsimp only
  rw [if_pos text, decoded]
  dsimp only
  rw [complete]

theorem readLoop_awaits {deliver : Bytes → Delivery} (text : frame.kind = frameText)
    (decoded : decodeText frame.payload = some message) (announced : message.awaits = some deliver)
    (body : Frame) (rest : List Frame) :
    readLoop (frame :: body :: rest) = deliver (bodyPayload body) :: readLoop rest := by
  rw [readLoop.eq_def]
  dsimp only
  rw [if_pos text, decoded]
  dsimp only
  rw [announced]

/-- An announcement at the end of the stream waits for its body. -/
theorem readLoop_waiting {deliver : Bytes → Delivery} (text : frame.kind = frameText)
    (decoded : decodeText frame.payload = some message)
    (announced : message.awaits = some deliver) :
    readLoop [frame] = [] := by
  simp [readLoop.eq_def, decoded, announced]

/-- Frames that decode to nothing the agent knows deliver nothing. -/
theorem readLoop_ignored (ignored : List Frame)
    (known : ∀ frame ∈ ignored,
      frame.kind = frameText → decodeText frame.payload = some .other) : readLoop ignored = [] := by
  induction ignored with
  | nil => rfl
  | cons frame tail inductionHypothesis =>
      have tailIgnored := inductionHypothesis fun other member =>
        known other (List.mem_cons_of_mem _ member)
      by_cases text : frame.kind = frameText
      · have other := known frame List.mem_cons_self text
        rw [readLoop_immediate text other rfl, tailIgnored]
        rfl
      · rw [readLoop_notText text, tailIgnored]

/-! ### The request upstream -/

/-- What the agent runs with. -/
structure Agent where
  port : Nat
  parsesURL : String → Bool
  rangeOrder : List (String × String) → List (String × String)

/-- The `http.Request` given to the client. -/
structure UpstreamRequest where
  method : String
  url : String
  header : Header String
  body : Bytes
deriving DecidableEq

/-- `validMethod` of `net/http`. -/
def validMethod (method : String) : Bool :=
  !method.toList.isEmpty && method.toList.all validHeaderFieldByte

def targetURL (agent : Agent) (path : String) : String :=
  "http://127.0.0.1:" ++ toString agent.port ++ path

/-- `msg.Headers["host"]`. -/
def hostOf (headers : List (String × String)) : String :=
  ((headers.find? fun header => header.1 == "host").map Prod.snd).getD ""

/-- `req.Header.Set` for each header, in the order they are ranged over. -/
def requestHeader (headers : List (String × String)) : Header String :=
  headers.foldl (fun header entry => header.set entry.1 entry.2) []

/-- `http.NewRequest` takes the empty method for GET. -/
def requestMethod (method : String) : String := if method = "" then "GET" else method

/-- `makeRequest` up to `client.Do`: nothing is sent when the request cannot be made. -/
def makeRequest (agent : Agent) (msg : AgentRequest) (body : Bytes) : Option UpstreamRequest :=
  if validMethod (requestMethod msg.method) && agent.parsesURL (targetURL agent msg.path) then
    some {
      method := requestMethod msg.method
      url := targetURL agent msg.path
      header := addForwardedHeaders
        (stripHopByHop splitCommaSeparated (requestHeader (agent.rangeOrder msg.headers)))
        (hostOf msg.headers)
      body := body }
  else none

def requestOf (agent : Agent) : Delivery → Option UpstreamRequest
  | .httpRequest msg body => makeRequest agent msg body
  | _ => none

def upstreamRequests (agent : Agent) (bytes : Bytes) : List UpstreamRequest :=
  (readLoop (frames maxFrameSize bytes)).filterMap (requestOf agent)

/-! ### The headers of the request -/

theorem mem_requestHeader_from {entry : String × List String} :
    ∀ start : Header String,
      entry ∈ headers.foldl (fun header pair => header.set pair.1 pair.2) start →
        entry ∈ start ∨ ∃ pair ∈ headers, entry = (canonicalKey pair.1, [pair.2]) := by
  induction headers with
  | nil =>
      intro start member
      exact .inl member
  | cons pair tail inductionHypothesis =>
      intro start member
      rcases inductionHypothesis _ member with inSet | ⟨other, inTail, same⟩
      · grind [Header.mem_set.mp]
      · exact .inr ⟨other, List.mem_cons_of_mem _ inTail, same⟩

theorem mem_requestHeader {entry : String × List String} {headers : List (String × String)}
    (member : entry ∈ requestHeader headers) :
    ∃ pair ∈ headers, entry = (canonicalKey pair.1, [pair.2]) := by
  rcases mem_requestHeader_from headers [] member with inNil | found
  · cases inNil
  · exact found

theorem values_requestHeader_from {key value : String} :
    ∀ start : Header String, (∀ pair ∈ headers, canonicalKey pair.1 = key → pair.2 = value) →
      (start.values key = [value] ∨ ∃ pair ∈ headers, canonicalKey pair.1 = key) →
        Header.values (headers.foldl (fun header pair => header.set pair.1 pair.2) start) key =
          [value] := by
  induction headers with
  | nil =>
      simp
  | cons pair tail inductionHypothesis =>
      intro start agree given
      apply inductionHypothesis
      · grind
      · by_cases sameKey : canonicalKey pair.1 = key
        · apply Or.inl
          rw [← sameKey, Header.values_set_same, agree pair List.mem_cons_self sameKey]
        · rcases given with held | ⟨other, member, otherKey⟩
          · apply Or.inl
            rw [Header.values_set_other _ _ (Ne.symm sameKey)]
            exact held
          · grind

theorem values_requestHeader {name value : String} {headers : List (String × String)}
    (member : (name, value) ∈ headers)
    (agree : ∀ pair ∈ headers, canonicalKey pair.1 = canonicalKey name → pair.2 = value) :
    (requestHeader headers).values (canonicalKey name) = [value] :=
  values_requestHeader_from headers [] agree (.inr ⟨(name, value), member, rfl⟩)

/-- The agent's `Connection` value is the message's, if it has one. -/
theorem first_requestHeader (name : String) :
    (requestHeader headers).first name = none ∨
      ∃ pair ∈ headers, canonicalKey pair.1 = canonicalKey name ∧
        (requestHeader headers).first name = some pair.2 := by
  unfold Header.first
  cases held : (requestHeader headers).values (canonicalKey name) with
  | nil => exact .inl rfl
  | cons value others =>
      apply Or.inr
      obtain ⟨entry, member, sameKey, isValue⟩ := Header.mem_of_values
        (show value ∈ (requestHeader headers).values (canonicalKey name) by
          rw [held]
          exact List.mem_cons_self)
      grind [mem_requestHeader]

end Lombok.Tunnel
