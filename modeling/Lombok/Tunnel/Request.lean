import Lombok.Tunnel.Agent

/-!
Contract: a request proxied through the tunnel reaches the upstream as it was.

Owns `proxyHTTPRequest` and the frames it writes, and the condition under which
the agent that reads them makes exactly one request with the same method, path,
headers and body.

A body over `MAX_BODY_CHUNK` is announced by the request and then written in
chunks that are announced once more; the agent reads the first of those
announcements where it expects the body.
-/

namespace Lombok.Tunnel

open Lombok.Core
open Lombok.Library.Framing

/-! ### The bridge -/

/-- `MAX_BODY_CHUNK`. -/
def maxBodyChunk : Nat := 256 * 1024

inductive TunnelProtocol where
  | framed
  | raw
deriving DecidableEq

/-- An entry of `SessionConcurrencyLimiter`. -/
structure Limiter where
  inFlight : Nat
  max : Nat
deriving DecidableEq

/-- What the proxying functions read of a session; a session that is not registered with the
limiter has no entry there. -/
structure Session where
  protocol : TunnelProtocol
  hasExecStream : Bool
  agentReady : Bool
  limiter : Option Limiter
deriving DecidableEq

/-- `SessionConcurrencyLimiter.acquire`. -/
def Session.acquire (session : Session) : Option Session :=
  match session.limiter with
  | none => none
  | some entry =>
      if entry.max ≤ entry.inFlight then none
      else some { session with limiter := some { entry with inFlight := entry.inFlight + 1 } }

/-- The loop that writes a large body. -/
def chunkFrames (streamId : String) (body : Bytes) (offset : Nat) : List Frame :=
  if offset < body.length then
    let last := min (offset + maxBodyChunk) body.length
    let chunk := (body.drop offset).take (last - offset)
    let message : BridgeMessage :=
      if body.length ≤ last then .bodyEnd streamId else .bodyChunk streamId
    message.frame :: binaryFrame chunk :: chunkFrames streamId body last
  else []
termination_by body.length - offset
decreasing_by
  unfold maxBodyChunk
  omega

def requestFrames (msg : HTTPRequestMsg) (body : Bytes) : List Frame :=
  (BridgeMessage.httpRequest msg).frame ::
    (if body.length = 0 then []
    else if body.length ≤ maxBodyChunk then [binaryFrame body]
    else chunkFrames msg.streamId body 0)

/-- The message `proxyHTTPRequest` builds: a body overrides what the request says about it. -/
def requestMessage (streamId : String) (req : HTTPRequestMsg) (body : Bytes) : HTTPRequestMsg :=
  if body.length = 0 then { req with streamId := streamId }
  else { req with streamId := streamId, bodyLen := some body.length, bodyFollows := some true }

/-- What `proxyHTTPRequest` does: a session at capacity answers its client with a 429. -/
inductive Proxied where
  | limited (reply : HTTPResponseMsg)
  | sent (session : Session) (written : List Frame)
deriving DecidableEq

def proxyHTTPRequest (session : Session) (streamId : String) (req : HTTPRequestMsg)
    (body : Option Bytes) : Except String Proxied :=
  if session.protocol ≠ .framed then
    .error "proxyHTTPRequest only supported for framed protocol"
  else if !session.hasExecStream || !session.agentReady then .error "Tunnel agent not ready"
  else
    match session.acquire with
    | none => .ok (.limited ⟨streamId, 429, [("Retry-After", "1")], false⟩)
    | some acquired =>
        .ok (.sent acquired
          (requestFrames (requestMessage streamId req (body.getD [])) (body.getD [])))

/-- The bytes a call puts on the agent's input. -/
def writtenBytes (outcome : Except String Proxied) : Bytes :=
  match outcome with
  | .ok (.sent _ written) => writeFrames written
  | _ => []

/-! ### What a faithful request is -/

/-- Headers the agent does not pass on: hop-by-hop ones, those a `Connection` header names, and
those it sets itself. -/
def Dropped (headers : List (String × String)) (name : String) : Prop :=
  canonicalKey name ∈ hopByHopHeaders ∨ canonicalKey name ∈ forwardedHeaders ∨
    ∃ header ∈ headers, canonicalKey header.1 = "Connection" ∧
      canonicalKey name ∈ (splitCommaSeparated header.2).map canonicalKey

/-- The upstream request is the proxied one. -/
structure Carries (port : Nat) (req : HTTPRequestMsg) (body : Bytes) (request : UpstreamRequest) :
    Prop where
  method : request.method = req.method
  path : request.url = "http://127.0.0.1:" ++ toString port ++ req.path
  body : request.body = body
  kept : ∀ header ∈ req.headers, ¬Dropped req.headers header.1 →
    request.header.values (canonicalKey header.1) = [header.2]
  only : ∀ entry ∈ request.header, entry.1 ∈ forwardedHeaders ∨
    ∃ header ∈ req.headers, entry = (canonicalKey header.1, [header.2])
  noHopByHop : ∀ entry ∈ request.header, entry.1 ∉ hopByHopHeaders

/-- Exactly one request goes upstream, and it is the proxied one. -/
def SentOnce (port : Nat) (req : HTTPRequestMsg) (body : Bytes)
    (requests : List UpstreamRequest) : Prop :=
  ∃ request, requests = [request] ∧ Carries port req body request

/-- Go ranges over a map in any order. -/
def IsRangeOrder (rangeOrder : List (String × String) → List (String × String)) : Prop :=
  ∀ headers, (rangeOrder headers).Perm headers

def Session.Takes (session : Session) : Prop :=
  session.protocol = .framed ∧ session.hasExecStream = true ∧ session.agentReady = true ∧
    ∃ entry, session.limiter = some entry ∧ entry.inFlight < entry.max

/-- When a request reaches the upstream as it was. -/
structure Carried (port : Nat) (parsesURL : String → Bool) (session : Session) (streamId : String)
    (req : HTTPRequestMsg) (body : Bytes) : Prop where
  takes : session.Takes
  oneFrame : body.length ≤ maxBodyChunk
  notAnnounced : body = [] → req.bodyFollows ≠ some true
  lengthInRange : body = [] → req.lengthInRange
  envelopeFits : (BridgeMessage.httpRequest (requestMessage streamId req body)).frame.payload.length
    ≤ maxFrameSize
  method : validMethod req.method = true
  url : parsesURL ("http://127.0.0.1:" ++ toString port ++ req.path) = true
  spellings : ∀ header ∈ req.headers, ∀ other ∈ req.headers,
    canonicalKey other.1 = canonicalKey header.1 → ¬Dropped req.headers header.1 →
      other.2 = header.2

/-! ### The frames of a large body -/

theorem chunkFrames_ignored (streamId : String) (body : Bytes) :
    ∀ rounds offset, body.length - offset ≤ rounds →
      ∀ frame ∈ chunkFrames streamId body offset,
        frame.kind = frameText → decodeText frame.payload = some .other := by
  intro rounds
  induction rounds with
  | zero =>
      intro offset done frame member
      rw [chunkFrames, if_neg (by omega)] at member
      cases member
  | succ rounds inductionHypothesis =>
      intro offset remaining frame member text
      by_cases inside : offset < body.length
      · rw [chunkFrames, if_pos inside] at member
        rcases List.mem_cons.mp member with rfl | member
        · grind [decode_bodyEnd, decode_bodyChunk]
        rcases List.mem_cons.mp member with rfl | member
        · cases text
        · exact inductionHypothesis _ (by unfold maxBodyChunk; omega) frame member text
      · grind

/-- The first frame after the request announces a chunk: it is no body. -/
theorem chunkFrames_head (streamId : String) {body : Bytes} (nonempty : 0 < body.length) :
    ∃ announcement rest, chunkFrames streamId body 0 = announcement :: rest ∧
      announcement.kind = frameText := by
  refine ⟨_, _, by rw [chunkFrames, if_pos nonempty], ?_⟩
  exact BridgeMessage.frame_kind _

/-! ### What the agent delivers -/

def delivered (msg : HTTPRequestMsg) (body : Bytes) : List Delivery :=
  if (BridgeMessage.httpRequest msg).frame.payload.length ≤ maxFrameSize ∧ msg.lengthInRange then
    [.httpRequest msg.received body]
  else []

section Reading

variable {msg : HTTPRequestMsg}

theorem awaits_received (announced : msg.bodyFollows = some true) :
    (AgentMessage.httpRequest msg.received).awaits = some (.httpRequest msg.received) := by
  unfold AgentMessage.awaits HTTPRequestMsg.received
  rw [announced]
  rfl

theorem awaits_received_none (silent : msg.bodyFollows ≠ some true) :
    (AgentMessage.httpRequest msg.received).awaits = none := by
  unfold AgentMessage.awaits HTTPRequestMsg.received
  cases held : msg.bodyFollows with
  | none => rfl
  | some follows =>
      grind

/-- The deliveries of a request followed by frames that deliver nothing of their own. -/
theorem readLoop_request (following : List Frame) (decoded : msg.lengthInRange)
    (announced : msg.bodyFollows = some true) (body : Frame) :
    readLoop ((BridgeMessage.httpRequest msg).frame :: body :: following) =
      .httpRequest msg.received (bodyPayload body) :: readLoop following := by
  have message := decode_httpRequest msg
  rw [if_pos decoded] at message
  exact readLoop_awaits rfl message (awaits_received announced) body following

theorem frames_empty_body (silent : msg.bodyFollows ≠ some true) :
    readLoop ((requestFrames msg []).takeWhile (fits maxFrameSize)) = delivered msg [] := by
  have message := decode_httpRequest msg
  unfold requestFrames delivered
  rw [if_pos List.length_nil, List.takeWhile_cons, List.takeWhile_nil, fits]
  by_cases within : (BridgeMessage.httpRequest msg).frame.payload.length ≤ maxFrameSize
  · rw [if_pos (decide_eq_true within)]
    by_cases decoded : msg.lengthInRange
    · rw [if_pos decoded] at message
      rw [if_pos ⟨within, decoded⟩, readLoop_immediate rfl message (awaits_received_none silent)]
      rfl
    · rw [if_neg decoded] at message
      rw [if_neg (fun both => decoded both.2), readLoop_undecoded rfl message]
      rfl
  · rw [if_neg (by simpa using within), if_neg (fun both => within both.1)]
    rfl

/-- An announced body that never comes: the agent waits. -/
theorem frames_stray_announcement (announced : msg.bodyFollows = some true) :
    readLoop ((requestFrames msg []).takeWhile (fits maxFrameSize)) = [] := by
  have message := decode_httpRequest msg
  rw [requestFrames, if_pos List.length_nil, List.takeWhile_cons, List.takeWhile_nil]
  by_cases within : fits maxFrameSize (BridgeMessage.httpRequest msg).frame = true
  · rw [if_pos within]
    by_cases decoded : msg.lengthInRange
    · rw [if_pos decoded] at message
      exact readLoop_waiting rfl message (awaits_received announced)
    · rw [if_neg decoded] at message
      rw [readLoop_undecoded rfl message]
      rfl
  · rw [if_neg within]
    rfl

theorem frames_small_body {body : Bytes} (announced : msg.bodyFollows = some true)
    (nonempty : body.length ≠ 0) (small : body.length ≤ maxBodyChunk) :
    readLoop ((requestFrames msg body).takeWhile (fits maxFrameSize)) = delivered msg body := by
  have message := decode_httpRequest msg
  have bodyFits : fits maxFrameSize (binaryFrame body) = true := by
    apply fits_of_le
    show body.length ≤ maxFrameSize
    unfold maxBodyChunk at small
    unfold maxFrameSize
    omega
  unfold requestFrames delivered
  rw [if_neg nonempty, if_pos small, List.takeWhile_cons, List.takeWhile_cons, List.takeWhile_nil,
    if_pos bodyFits, fits]
  by_cases within : (BridgeMessage.httpRequest msg).frame.payload.length ≤ maxFrameSize
  · rw [if_pos (decide_eq_true within)]
    by_cases decoded : msg.lengthInRange
    · rw [if_pos ⟨within, decoded⟩, readLoop_request [] decoded announced]
      rfl
    · rw [if_neg decoded] at message
      rw [if_neg (fun both => decoded both.2), readLoop_undecoded rfl message, readLoop_notText
          (show frameBinary ≠ frameText by decide)]
      rfl
  · rw [if_neg (by simpa using within), if_neg (fun both => within both.1)]
    rfl

/-- A body in chunks: whatever is delivered is delivered without it. -/
theorem frames_large_body {body : Bytes} (announced : msg.bodyFollows = some true)
    (large : maxBodyChunk < body.length) :
    ∀ delivery ∈ readLoop ((requestFrames msg body).takeWhile (fits maxFrameSize)),
      delivery = .httpRequest msg.received [] := by
  have message := decode_httpRequest msg
  have ignored := chunkFrames_ignored msg.streamId body _ 0 (Nat.le_refl _)
  obtain ⟨announcement, rest, chunks, text⟩ :=
    chunkFrames_head msg.streamId (by omega : 0 < body.length)
  have ignoredTaken : ∀ frames : List Frame, (∀ frame ∈ frames, frame ∈ announcement :: rest) →
      readLoop frames = [] := by
    grind [readLoop_ignored]
  unfold requestFrames
  rw [if_neg (by unfold maxBodyChunk at large; omega), if_neg (by omega), chunks,
    List.takeWhile_cons]
  intro delivery member
  by_cases within : fits maxFrameSize (BridgeMessage.httpRequest msg).frame = true
  · rw [if_pos within] at member
    by_cases decoded : msg.lengthInRange
    · rw [if_pos decoded] at message
      rw [List.takeWhile_cons] at member
      by_cases announcementFits : fits maxFrameSize announcement = true
      · rw [if_pos announcementFits, readLoop_request _ decoded announced,
          ignoredTaken _ (fun frame taken =>
            List.mem_cons_of_mem _ (List.takeWhile_subset _ taken)),
          List.mem_singleton] at member
        rw [member, bodyPayload, if_neg (by rw [text]; decide)]
      · rw [if_neg announcementFits,
          readLoop_waiting rfl message (awaits_received announced)] at member
        cases member
    · rw [if_neg decoded] at message
      rw [readLoop_undecoded rfl message,
        ignoredTaken _ (fun frame taken => List.takeWhile_subset _ taken)] at member
      cases member
  · rw [if_neg within] at member
    cases member

end Reading

/-! ### The upstream request -/

section Upstream

variable {port : Nat} {parsesURL : String → Bool}
  {rangeOrder : List (String × String) → List (String × String)}

theorem notMem_hopByHop_of_forwarded : ∀ key ∈ forwardedHeaders, key ∉ hopByHopHeaders := by
  decide

theorem not_stripped_of_not_dropped {headers : List (String × String)} {name : String}
    (order : IsRangeOrder rangeOrder) (kept : ¬Dropped headers name) :
    ¬stripped splitCommaSeparated (requestHeader (rangeOrder headers)) (canonicalKey name) := by
  unfold stripped listedNames
  rintro (hopByHop | listed)
  · exact kept (.inl hopByHop)
  · rcases first_requestHeader (rangeOrder headers) "Connection" with
      absent | ⟨pair, member, key, same⟩
    · rw [absent] at listed
      cases listed
    · rw [same] at listed
      exact kept (.inr (.inr ⟨pair, (order headers).mem_iff.mp member, key.trans (by decide),
        listed⟩))

theorem carries_makeRequest {req : HTTPRequestMsg} {msg : AgentRequest} {body : Bytes}
    (order : IsRangeOrder rangeOrder) (sameMethod : msg.method = req.method)
    (samePath : msg.path = req.path) (sameHeaders : msg.headers = req.headers)
    (method : validMethod req.method = true)
    (url : parsesURL ("http://127.0.0.1:" ++ toString port ++ req.path) = true)
    (spellings : ∀ header ∈ req.headers, ∀ other ∈ req.headers,
      canonicalKey other.1 = canonicalKey header.1 → ¬Dropped req.headers header.1 →
        other.2 = header.2) :
    ∃ request, makeRequest ⟨port, parsesURL, rangeOrder⟩ msg body = some request ∧
      Carries port req body request := by
  have named : requestMethod msg.method = req.method := by
    rw [sameMethod, requestMethod, if_neg]
    intro empty
    rw [empty] at method
    cases method
  have accepted : (validMethod req.method &&
      parsesURL ("http://127.0.0.1:" ++ toString port ++ req.path)) = true := by
    rw [method, url]
    rfl
  unfold makeRequest targetURL
  rw [named, samePath, sameHeaders]
  refine ⟨_, if_pos accepted, ⟨rfl, rfl, rfl, ?_, ?_, ?_⟩⟩
  · intro header member kept
    rw [values_addForwardedHeaders _ (fun forwarded => kept (.inr (.inl forwarded))),
      values_stripHopByHop (not_stripped_of_not_dropped order kept)]
    apply values_requestHeader ((order req.headers).mem_iff.mpr member)
    intro other otherMember sameKey
    exact spellings header member other ((order req.headers).mem_iff.mp otherMember) sameKey kept
  · intro entry member
    rcases mem_addForwardedHeaders member with inStripped | forwarded
    · obtain ⟨pair, inOrder, same⟩ := mem_requestHeader (mem_stripHopByHop.mp inStripped).1
      exact .inr ⟨pair, (order req.headers).mem_iff.mp inOrder, same⟩
    · exact .inl forwarded
  · intro entry member
    rcases mem_addForwardedHeaders member with inStripped | forwarded
    · exact fun hopByHop => (mem_stripHopByHop.mp inStripped).2 (.inl hopByHop)
    · exact notMem_hopByHop_of_forwarded _ forwarded

/-- What a request that arrives says about the message it was made from. -/
theorem carries_conditions {req : HTTPRequestMsg} {msg : AgentRequest} {body given : Bytes}
    {request : UpstreamRequest}
    (made : makeRequest ⟨port, parsesURL, rangeOrder⟩ msg given = some request)
    (samePath : msg.path = req.path) (carries : Carries port req body request) :
    given = body ∧ validMethod req.method = true ∧
      parsesURL ("http://127.0.0.1:" ++ toString port ++ req.path) = true ∧
      ∀ header ∈ req.headers, ∀ other ∈ req.headers,
        canonicalKey other.1 = canonicalKey header.1 → ¬Dropped req.headers header.1 →
          other.2 = header.2 := by
  unfold makeRequest targetURL at made
  split at made
  · rename_i accepted
    rw [Bool.and_eq_true, samePath] at accepted
    cases made
    refine ⟨carries.body, by rw [← carries.method]; exact accepted.1, accepted.2, ?_⟩
    intro header member other otherMember sameKey kept
    have otherKept : ¬Dropped req.headers other.1 := by
      unfold Dropped at kept ⊢
      rw [sameKey]
      exact kept
    have first := carries.kept header member kept
    have second := carries.kept other otherMember otherKept
    grind
  · cases made

end Upstream

/-! ### The whole way -/

theorem writtenBytes_proxyHTTPRequest {session : Session} {streamId : String}
    {req : HTTPRequestMsg} {body : Option Bytes} :
    writtenBytes (proxyHTTPRequest session streamId req body) =
        writeFrames (requestFrames (requestMessage streamId req (body.getD [])) (body.getD [])) ∧
        session.Takes ∨
      writtenBytes (proxyHTTPRequest session streamId req body) = [] ∧ ¬session.Takes := by
  unfold proxyHTTPRequest
  by_cases raw : session.protocol ≠ .framed
  · rw [if_pos raw]
    exact .inr ⟨rfl, fun takes => raw takes.1⟩
  rw [if_neg raw]
  by_cases notReady : (!session.hasExecStream || !session.agentReady) = true
  · rw [if_pos notReady]
    apply Or.inr
    apply And.intro rfl
    rintro ⟨_, stream, ready, _⟩
    rw [stream, ready] at notReady
    cases notReady
  rw [if_neg notReady]
  simp only [Bool.or_eq_true, Bool.not_eq_true', not_or, Bool.not_eq_false] at notReady
  unfold Session.acquire
  cases held : session.limiter with
  | none =>
      apply Or.inr
      apply And.intro rfl
      rintro ⟨_, _, _, entry, registered, _⟩
      rw [held] at registered
      cases registered
  | some entry =>
      dsimp only
      by_cases full : entry.max ≤ entry.inFlight
      · rw [if_pos full]
        apply Or.inr
        apply And.intro rfl
        rintro ⟨_, _, _, other, registered, free⟩
        grind
      · rw [if_neg full]
        exact .inl ⟨rfl, not_not.mp raw, notReady.1, notReady.2, entry, held, by omega⟩

theorem requestMessage_same (streamId : String) (req : HTTPRequestMsg) (body : Bytes) :
    (requestMessage streamId req body).received.method = req.method ∧
      (requestMessage streamId req body).received.path = req.path ∧
      (requestMessage streamId req body).received.headers = req.headers := by
  unfold requestMessage
  split
  · exact ⟨rfl, rfl, rfl⟩
  · exact ⟨rfl, rfl, rfl⟩

theorem lengthInRange_requestMessage {streamId : String} {req : HTTPRequestMsg} {body : Bytes}
    (small : body.length ≤ maxBodyChunk) (declared : body = [] → req.lengthInRange) :
    (requestMessage streamId req body).lengthInRange := by
  unfold requestMessage
  by_cases empty : body.length = 0
  · rw [if_pos empty]
    exact declared (List.eq_nil_of_length_eq_zero empty)
  · rw [if_neg empty]
    intro length same
    cases same
    unfold maxBodyChunk at small
    omega

/-- The deliveries of a request the session takes, when its body goes in one frame. -/
theorem readLoop_requestFrames {streamId : String} {req : HTTPRequestMsg} {body : Bytes}
    (small : body.length ≤ maxBodyChunk) (silent : body = [] → req.bodyFollows ≠ some true) :
    readLoop ((requestFrames (requestMessage streamId req body) body).takeWhile
        (fits maxFrameSize)) =
      delivered (requestMessage streamId req body) body := by
  by_cases empty : body.length = 0
  · obtain rfl := List.eq_nil_of_length_eq_zero empty
    apply frames_empty_body
    exact silent rfl
  · apply frames_small_body _ empty small
    rw [requestMessage, if_neg empty]

/-- The body is not in a frame of its own right behind the request that announces it. -/
def Misplaced (req : HTTPRequestMsg) (body : Bytes) : Prop :=
  maxBodyChunk < body.length ∨ body = [] ∧ req.bodyFollows = some true

theorem body_lost {streamId : String} {req : HTTPRequestMsg} {body : Bytes} {delivery : Delivery}
    (misplaced : Misplaced req body)
    (member : delivery ∈ readLoop
      ((requestFrames (requestMessage streamId req body) body).takeWhile (fits maxFrameSize))) :
    body ≠ [] ∧ delivery = .httpRequest (requestMessage streamId req body).received [] := by
  rcases misplaced with large | ⟨rfl, announced⟩
  · have nonempty : body.length ≠ 0 := by omega
    have message : (requestMessage streamId req body).bodyFollows = some true := by
      rw [requestMessage, if_neg nonempty]
    apply And.intro (fun empty => nonempty (by rw [empty]; rfl))
    exact frames_large_body message large delivery member
  · rw [frames_stray_announcement (by exact announced)] at member
    cases member

/-- A request that goes upstream comes from a delivery of the frames of one the session took. -/
theorem delivery_of_sentOnce {agent : Agent} {session : Session} {streamId : String}
    {req : HTTPRequestMsg} {body : Option Bytes} {request : UpstreamRequest}
    (only : upstreamRequests agent (writtenBytes (proxyHTTPRequest session streamId req body)) =
      [request]) :
    session.Takes ∧ ∃ delivery ∈ readLoop
        ((requestFrames (requestMessage streamId req (body.getD []))
      (body.getD [])).takeWhile (fits maxFrameSize)), requestOf agent delivery = some request := by
  rcases @writtenBytes_proxyHTTPRequest session streamId req body with
    ⟨written, takes⟩ | ⟨nothing, _⟩
  · apply And.intro takes
    grind [frames_writeFrames, maxFrameSize, upstreamRequests, List.mem_cons_self]
  · rw [nothing] at only
    cases only

theorem not_sentOnce_of_misplaced {port : Nat} {parsesURL : String → Bool}
    {rangeOrder : List (String × String) → List (String × String)} {session : Session}
    {streamId : String} {req : HTTPRequestMsg} {body : Option Bytes}
    (misplaced : Misplaced req (body.getD [])) :
    ¬SentOnce port req (body.getD []) (upstreamRequests ⟨port, parsesURL, rangeOrder⟩
      (writtenBytes (proxyHTTPRequest session streamId req body))) := by
  rintro ⟨request, only, carries⟩
  obtain ⟨_, delivery, member, made⟩ := delivery_of_sentOnce only
  obtain ⟨nonempty, rfl⟩ := body_lost misplaced member
  have path := (requestMessage_same streamId req (body.getD [])).2.1
  exact nonempty (carries_conditions made path carries).1.symm

/-- The agent makes exactly one request, and it is the proxied one, exactly when the body goes in
one frame that the request announces and nothing on the way refuses the request. -/
theorem bodyFidelity_iff (port : Nat) (parsesURL : String → Bool) (session : Session)
    (streamId : String) (req : HTTPRequestMsg) (body : Option Bytes) :
    (∀ rangeOrder, IsRangeOrder rangeOrder →
        SentOnce port req (body.getD [])
          (upstreamRequests ⟨port, parsesURL, rangeOrder⟩
            (writtenBytes (proxyHTTPRequest session streamId req body)))) ↔
      Carried port parsesURL session streamId req (body.getD []) := by
  have same := requestMessage_same streamId req (body.getD [])
  constructor
  · intro faithful
    have sentOnce := faithful id (fun _ => .refl _)
    obtain ⟨request, only, carries⟩ := sentOnce
    obtain ⟨takes, delivery, member, made⟩ := delivery_of_sentOnce only
    have placed : ¬Misplaced req (body.getD []) :=
      fun misplaced => not_sentOnce_of_misplaced misplaced ⟨request, only, carries⟩
    rw [Misplaced, not_or, not_and] at placed
    have small : (body.getD []).length ≤ maxBodyChunk := Nat.le_of_not_lt placed.1
    rw [readLoop_requestFrames small placed.2, delivered] at member
    split at member
    · rename_i arrives
      rw [List.mem_singleton] at member
      subst member
      obtain ⟨_, method, url, spellings⟩ := carries_conditions made same.2.1 carries
      refine ⟨takes, small, placed.2, ?_, arrives.1, method, url, spellings⟩
      intro empty
      have inRange := arrives.2
      rw [requestMessage, if_pos (by rw [empty]; rfl)] at inRange
      exact inRange
    · cases member
  · intro carried rangeOrder order
    rcases @writtenBytes_proxyHTTPRequest session streamId req body with
      ⟨written, _⟩ | ⟨_, refused⟩
    · have inRange := @lengthInRange_requestMessage streamId _ _ carried.oneFrame
        carried.lengthInRange
      obtain ⟨request, made, carries⟩ := @carries_makeRequest port parsesURL rangeOrder req
        (requestMessage streamId req (body.getD [])).received (body.getD []) order same.1 same.2.1
        same.2.2 carried.method carried.url carried.spellings
      refine ⟨request, ?_, carries⟩
      unfold upstreamRequests
      rw [written, frames_writeFrames (by unfold maxFrameSize; omega),
        readLoop_requestFrames carried.oneFrame carried.notAnnounced, delivered,
        if_pos ⟨carried.envelopeFits, inRange⟩, List.filterMap_cons, requestOf, made]
      rfl
    · exact absurd carried.takes refused

/-! ### An upload -/

def sampleSession : Session := ⟨.framed, true, true, some ⟨0, 100⟩⟩

def sampleUpload : HTTPRequestMsg :=
  ⟨"s1", "POST", "/upload", [("host", "app.local")], none, some true⟩

/-- One byte over the limit: the upload does not arrive. -/
theorem largeUpload_lost :
    ¬∀ rangeOrder, IsRangeOrder rangeOrder →
      SentOnce 3000 sampleUpload (List.replicate 262145 0)
        (upstreamRequests ⟨3000, fun _ => true, rangeOrder⟩
          (writtenBytes (proxyHTTPRequest sampleSession "s1" sampleUpload
            (some (List.replicate 262145 0))))) := by
  intro faithful
  have large : Misplaced sampleUpload (List.replicate 262145 0) := by
    apply Or.inl
    rw [List.length_replicate]
    decide
  exact @not_sentOnce_of_misplaced 3000 _ _ _ _ _ (some (List.replicate 262145 0)) large
    (faithful id fun _ => .refl _)

end Lombok.Tunnel
