import Lombok.Tunnel.Pending

/-!
Contract: an upstream response reaches the caller of the proxy as it was.

Owns the condition under which the status, the headers that are not hop-by-hop
and the body that `proxyHTTPDirect` and `proxyHTTPStreaming` hand out are the
upstream's, and under which a body that cannot be read ends in an error.

The agent passes on one value of each header, and it ends a streamed body in
the same way whether it was read to its end or not.
-/

namespace Lombok.Tunnel

open Lombok.Core
open Lombok.Library.Framing

/-! ### A response that is being received -/

/-- The head and this much of the body have arrived. A buffered caller has been handed nothing. -/
structure Receiving (bridge : Bridge) (streamId : String) (streaming : Bool) (head : Head)
    (got : Bytes) : Prop where
  pending : ∃ chunks expecting,
    bridge.pending streamId = some ⟨streaming, some head, chunks, expecting⟩ ∧
      (streaming = false → chunks.flatten = got)
  consumer : bridge.consumer streamId = if streaming then ⟨some head, got, none⟩ else .waiting

section Steps

variable {bridge : Bridge} {streamId : String} {streaming : Bool} {head : Head} {got : Bytes}

theorem receiving_head (bridge : Bridge) (named : streamId ≠ "") (streaming : Bool) (head : Head) :
    Receiving (handleAgentMessage (bridge.register streamId streaming)
      (.httpResponse streamId head true)) streamId streaming head [] := by
  rw [handleAgentMessage, if_neg named]
  unfold handleHTTPResponse Bridge.register
  rw [Bridge.put_pending]
  dsimp only
  cases streaming with
  | true =>
      rw [if_pos rfl, if_pos rfl, Bridge.put_consumer]
      constructor
      · simp
      · rw [Bridge.expect_consumer, Bridge.put_consumer]
        rfl
  | false =>
      rw [if_neg (by decide), if_pos rfl, Bridge.put_consumer]
      constructor
      · simp
      · simp

/-- A response without a body is complete with its head. -/
theorem settled_head (bridge : Bridge) (named : streamId ≠ "") (streaming : Bool) (head : Head) :
    Settled (handleAgentMessage (bridge.register streamId streaming)
      (.httpResponse streamId head false)) streamId ⟨some head, [], some .completed⟩ := by
  rw [handleAgentMessage, if_neg named]
  unfold handleHTTPResponse Bridge.register
  rw [Bridge.put_pending]
  dsimp only
  cases streaming with
  | true =>
      rw [if_pos rfl, if_neg (by decide), Bridge.put_consumer]
      exact settled_put ..
  | false =>
      exact settled_put ..

/-- A closed stream ends its caller in an error. -/
theorem settled_close (bridge : Bridge) (named : streamId ≠ "") (streaming : Bool)
    (reason : Option String) :
    Settled (handleAgentMessage (bridge.register streamId streaming)
      (.streamClose streamId reason)) streamId
      ⟨none, [], some (.failed ("Stream closed: " ++ reason.getD "unknown"))⟩ := by
  rw [handleAgentMessage, if_neg named]
  unfold handleStreamClose Bridge.register
  rw [Bridge.put_pending]
  rw [Bridge.put_consumer]
  exact settled_put ..

/-- An announced piece is added to what has arrived, or is what ends a caller that is too far
behind. -/
theorem receiving_piece (unread : String → Nat → Nat) (named : streamId ≠ "")
    (receiving : Receiving bridge streamId streaming head got) (piece : Bytes) :
    let after :=
      handleAgentBinary (handleAgentMessage bridge (.bodyChunk streamId)) unread piece
    if streaming = true ∧ maxBufferedBytes < unread streamId (got ++ piece).length then
      Settled after streamId
        ⟨some head, got ++ piece, some (.failed "consumer backlog exceeded")⟩
    else Receiving after streamId streaming head (got ++ piece) := by
  obtain ⟨⟨chunks, expecting, pending, stored⟩, consumer⟩ := receiving
  have announced : handleAgentMessage bridge (.bodyChunk streamId) =
      (bridge.put streamId (some ⟨streaming, some head, chunks, true⟩)
        (bridge.consumer streamId)).expect streamId := by
    rw [handleAgentMessage, if_neg named, handleBodyChunk, pending]
  rw [announced]
  unfold handleAgentBinary Bridge.expect handlePayload
  dsimp only
  rw [Bridge.put_pending, Bridge.put_consumer, consumer]
  dsimp only
  cases streaming with
  | true =>
      rw [if_pos rfl, if_pos rfl]
      by_cases behind : maxBufferedBytes < unread streamId (got ++ piece).length
      · rw [if_pos behind, if_pos ⟨rfl, behind⟩]
        exact settled_put ..
      · rw [if_neg behind, if_neg (fun both => behind both.2)]
        constructor
        · simp
        · exact Bridge.put_consumer ..
  | false =>
      have buffered : ¬(false = true ∧
          maxBufferedBytes < unread streamId (got ++ piece).length) := by
        intro both
        cases both.1
      rw [if_neg buffered, if_neg (by decide), if_pos rfl]
      constructor
      · simp [stored]
      · exact Bridge.put_consumer ..

theorem settled_end {statusCode headers : Json} (named : streamId ≠ "")
    (receiving : Receiving bridge streamId streaming ⟨some statusCode, some headers⟩ got) :
    Settled (handleAgentMessage bridge (.bodyEnd streamId)) streamId
      ⟨some ⟨some statusCode, some headers⟩, got, some .completed⟩ := by
  obtain ⟨⟨chunks, expecting, pending, stored⟩, consumer⟩ := receiving
  rw [handleAgentMessage, if_neg named, handleBodyEnd, pending]
  dsimp only
  cases streaming with
  | true =>
      rw [if_pos rfl, consumer, if_pos rfl]
      exact settled_put ..
  | false =>
      rw [if_neg (by decide), stored rfl]
      exact settled_put ..

end Steps

/-! ### A whole response -/

/-- At some piece the caller is further behind than it may be; `got` bytes came before. -/
def overflows (unread : Nat → Nat) (got : Nat) : List Bytes → Bool
  | [] => false
  | piece :: rest =>
      decide (maxBufferedBytes < unread (got + piece.length)) ||
        overflows unread (got + piece.length) rest

section Runs

variable {bridge : Bridge} {streamId : String} {streaming : Bool} {statusCode headers : Json}

/-- The pieces of a body and its end: the caller has the body, unless it was too far behind. -/
theorem handleFrames_pieces (unread : String → Nat → Nat) (named : streamId ≠ "")
    (pieces : List Bytes) :
    ∀ (bridge : Bridge) (got : Bytes),
      Receiving bridge streamId streaming ⟨some statusCode, some headers⟩ got →
      ∃ consumer, Settled (handleFrames bridge unread
          (pieceFrames streamId pieces ++ [(AgentReply.bodyEnd streamId).frame]))
            streamId consumer ∧
        if streaming = true ∧ overflows (unread streamId) got.length pieces = true then
          consumer.ending = some (.failed "consumer backlog exceeded")
        else
          consumer =
            ⟨some ⟨some statusCode, some headers⟩, got ++ pieces.flatten, some .completed⟩ := by
  induction pieces with
  | nil =>
      intro bridge got receiving
      have done := settled_end named receiving
      refine ⟨⟨some ⟨some statusCode, some headers⟩, got, some .completed⟩, ?_, ?_⟩
      · rw [pieceFrames, List.flatMap_nil, List.nil_append, handleFrames_reply]
        exact done
      · rw [if_neg (fun both => by cases both.2), List.flatten_nil, List.append_nil]
  | cons piece rest inductionHypothesis =>
      intro bridge got receiving
      have arrived := receiving_piece unread named receiving piece
      have steps : handleFrames bridge unread
          (pieceFrames streamId (piece :: rest) ++ [(AgentReply.bodyEnd streamId).frame]) =
        handleFrames
          (handleAgentBinary (handleAgentMessage bridge (.bodyChunk streamId)) unread piece) unread
          (pieceFrames streamId rest ++ [(AgentReply.bodyEnd streamId).frame]) := by
        rw [pieceFrames, List.flatMap_cons, List.append_assoc, List.cons_append, List.cons_append,
          handleFrames_reply, handleFrames_binary]
        rfl
      rw [steps]
      rw [List.length_append] at arrived
      by_cases behind : streaming = true ∧
          maxBufferedBytes < unread streamId (got.length + piece.length)
      · rw [if_pos behind] at arrived
        refine ⟨_, arrived.handleFrames unread _, ?_⟩
        rw [if_pos ⟨behind.1, by rw [overflows, decide_eq_true behind.2, Bool.true_or]⟩]
      · grind [overflows]

end Runs

/-! ### What a faithful response is -/

/-- Hop-by-hop headers: the standard ones, and those a `Connection` line lists. -/
def HopByHop (lines : List (String × Bytes)) (key : String) : Prop :=
  key ∈ hopByHopHeaders ∨
    ∃ line ∈ lines, canonicalKey line.1 = "Connection" ∧
      key ∈ (byteTokens line.2).map canonicalKey

/-- The caller has the whole response. -/
structure Delivers (response : UpstreamResponse) (consumer : Consumer) : Prop where
  completed : consumer.ending = some .completed
  head : ∃ headers, consumer.head =
      some ⟨some (.ofNat response.statusCode), some (headersJson headers)⟩ ∧
    ∀ key, ¬HopByHop response.lines key →
      (recordValues headers key).map toUtf8 = lineValues response.lines key
  body : consumer.body = response.reads.flatten

/-- The caller has the response, or an error when its body could not be read. -/
def Faithful (response : UpstreamResponse) (consumer : Consumer) : Prop :=
  if response.failed then ∃ reason, consumer.ending = some (.failed reason)
  else Delivers response consumer

/-- What the caller of the proxy is left with. -/
def proxied (size : Nat) (unread : String → Nat → Nat) (bridge : Bridge) (streamId : String)
    (streaming : Bool) (response : UpstreamResponse) : Consumer :=
  (handleFrames (bridge.register streamId streaming) unread
    ((respond size streamId response).getD [])).consumer streamId

def writtenPieces (size : Nat) (response : UpstreamResponse) : List Bytes :=
  if isStreamingResponse response then response.reads.filter fun piece => !piece.isEmpty
  else (buffered size response.reads.flatten).getD []

/-- The caller falls further behind than it may. -/
def Backlogged (size : Nat) (unread : String → Nat → Nat) (streamId : String) (streaming : Bool)
    (response : UpstreamResponse) : Prop :=
  streaming = true ∧ overflows (unread streamId) 0 (writtenPieces size response) = true

instance (size : Nat) (unread : String → Nat → Nat) (streamId : String) (streaming : Bool)
    (response : UpstreamResponse) :
    Decidable (Backlogged size unread streamId streaming response) :=
  inferInstanceAs (Decidable (_ ∧ _))

/-- Each header that is not hop-by-hop has one line, and its value is text. -/
def SingleLines (lines : List (String × Bytes)) : Prop :=
  ∀ line ∈ lines, ¬HopByHop lines (canonicalKey line.1) →
    lineValues lines (canonicalKey line.1) = [line.2] ∧ ∃ text, line.2 = toUtf8 text

/-- When the caller has what the upstream answered. -/
structure CarriedBack (size : Nat) (unread : String → Nat → Nat) (streamId : String)
    (streaming : Bool) (response : UpstreamResponse) : Prop where
  noticed : response.failed = true →
    isStreamingResponse response = false ∨ Backlogged size unread streamId streaming response
  written : response.failed = false →
    isStreamingResponse response = true ∨ response.reads.flatten = [] ∨ 0 < size
  keptUp : response.failed = false → ¬Backlogged size unread streamId streaming response
  singleLines : response.failed = false → SingleLines response.lines

/-! ### The headers -/

/-- The record of headers in the response's message. -/
def sentHeaders (lines : List (String × Bytes)) : List (String × String) :=
  sortHeaders (marshalHeaders (buildResponseHeaders (responseHeader lines)))

def sentHead (response : UpstreamResponse) : Head :=
  ⟨some (.ofNat response.statusCode), some (headersJson (sentHeaders response.lines))⟩

theorem headersJson_injective {headers others : List (String × String)}
    (same : headersJson headers = headersJson others) : headers = others := by
  injection same with fields
  apply List.map_injective_iff.mpr _ fields
  intro first second sameField
  grind

theorem hopByHop_of_stripped {lines : List (String × Bytes)} {key : String}
    (dropped : stripped byteTokens (responseHeader lines) key) : HopByHop lines key := by
  rcases dropped with standard | listed
  · exact .inl standard
  unfold listedNames Header.first at listed
  rw [values_responseHeader] at listed
  cases held : lineValues lines (canonicalKey "Connection") with
  | nil =>
      rw [held] at listed
      cases listed
  | cons value others =>
      rw [held] at listed
      have member : value ∈ lineValues lines (canonicalKey "Connection") := by
        rw [held]
        exact List.mem_cons_self
      obtain ⟨line, inLines, rfl⟩ := List.mem_map.mp member
      obtain ⟨inLines, isConnection⟩ := List.mem_filter.mp inLines
      refine .inr ⟨line, inLines, ?_, listed⟩
      rw [beq_iff_eq.mp isConnection]
      decide

theorem mem_lineValues {lines : List (String × Bytes)} {line : String × Bytes}
    (member : line ∈ lines) : line.2 ∈ lineValues lines (canonicalKey line.1) :=
  List.mem_map_of_mem (List.mem_filter.mpr ⟨member, beq_iff_eq.mpr rfl⟩)

theorem recordValues_sentHeaders {lines : List (String × Bytes)} {key : String}
    (kept : ¬HopByHop lines key) :
    recordValues (sentHeaders lines) key = ((lineValues lines key).head?.toList).map
        repairUtf8 := by
  rw [sentHeaders, recordValues_sent, if_neg (fun dropped => kept (hopByHop_of_stripped dropped))]

theorem sentHeaders_iff (lines : List (String × Bytes)) :
    (∀ key, ¬HopByHop lines key →
        (recordValues (sentHeaders lines) key).map toUtf8 = lineValues lines key) ↔
      SingleLines lines := by
  constructor
  · intro sent line member kept
    grind [mem_lineValues, recordValues_sentHeaders]
  · intro single key kept
    rw [recordValues_sentHeaders kept]
    cases held : lineValues lines key with
    | nil => rfl
    | cons value others =>
        have member : value ∈ lineValues lines key := by
          rw [held]
          exact List.mem_cons_self
        obtain ⟨line, inFilter, rfl⟩ := List.mem_map.mp member
        obtain ⟨inLines, sameKey⟩ := List.mem_filter.mp inFilter
        obtain rfl := beq_iff_eq.mp sameKey
        obtain ⟨only, text, isText⟩ := single line inLines kept
        rw [held] at only
        rw [only, isText]
        simp [repairUtf8_toUtf8]

/-- A caller that has the head that was sent and the whole body has the response exactly when its
headers are single lines. -/
theorem faithful_whole_iff {response : UpstreamResponse} (read : response.failed = false) :
    Faithful response ⟨some (sentHead response), response.reads.flatten, some .completed⟩ ↔
      SingleLines response.lines := by
  rw [Faithful, read, if_neg (by decide), ← sentHeaders_iff]
  constructor
  · intro delivers
    grind [sentHead, headersJson_injective, delivers.head]
  · intro values
    exact ⟨rfl, ⟨sentHeaders response.lines, rfl, values⟩, rfl⟩

/-! ### What the caller is left with -/

section Outcomes

variable {size : Nat} {unread : String → Nat → Nat} {streamId : String} {streaming : Bool}
  {response : UpstreamResponse}

def bodyFrames (streamId : String) (response : UpstreamResponse) (bodyLen : Nat)
    (pieces : List Bytes) : List Frame :=
  (AgentReply.httpResponse streamId response.statusCode
      (marshalHeaders (buildResponseHeaders (responseHeader response.lines))) bodyLen true).frame ::
    (pieceFrames streamId pieces ++ [(AgentReply.bodyEnd streamId).frame])

theorem respond_streaming (streamed : isStreamingResponse response = true) :
    respond size streamId response =
      some (bodyFrames streamId response 0 (writtenPieces size response)) := by
  unfold respond writtenPieces
  rw [if_pos streamed, if_pos streamed]
  rfl

/-- A body in pieces, none of them without a chunk size. -/
theorem respond_buffered (whole : isStreamingResponse response = false)
    (read : response.failed = false) (nonempty : response.reads.flatten ≠ []) :
    respond size streamId response =
      if size = 0 then none
      else some (bodyFrames streamId response response.reads.flatten.length
        (writtenPieces size response)) := by
  have long := List.length_pos_iff.mpr nonempty
  unfold respond writtenPieces buildResponses
  rw [whole, read, if_neg Bool.false_ne_true, if_neg Bool.false_ne_true,
    if_neg Bool.false_ne_true]
  by_cases noSize : size = 0
  · rw [if_pos noSize, buffered_eq_none_iff.mpr ⟨nonempty, noSize⟩]
    rfl
  · rw [if_neg noSize]
    cases written : buffered size response.reads.flatten with
    | none => exact absurd (buffered_eq_none_iff.mp written).2 noSize
    | some pieces =>
        rw [Option.map_some, if_neg (by omega), decide_eq_true long]
        rfl

theorem flatten_writtenPieces
    (whole : isStreamingResponse response = true ∨ response.reads.flatten = [] ∨ 0 < size) :
    (writtenPieces size response).flatten = response.reads.flatten := by
  unfold writtenPieces
  by_cases streamed : isStreamingResponse response = true
  · rw [if_pos streamed, flatten_filter_nonempty]
  · rw [if_neg streamed]
    grind [buffered, flatten_buffered]

/-- A body written in pieces arrives whole, unless the caller is too far behind. -/
theorem proxied_body (bridge : Bridge) (named : streamId ≠ "") {bodyLen : Nat}
    (written : respond size streamId response =
      some (bodyFrames streamId response bodyLen (writtenPieces size response))) :
    if Backlogged size unread streamId streaming response then
      (proxied size unread bridge streamId streaming response).ending =
        some (.failed "consumer backlog exceeded")
    else
      proxied size unread bridge streamId streaming response =
        ⟨some (sentHead response), (writtenPieces size response).flatten, some .completed⟩ := by
  have receiving := receiving_head bridge named streaming (sentHead response)
  obtain ⟨consumer, settled, outcome⟩ :=
    handleFrames_pieces unread named (writtenPieces size response) _ _ receiving
  have arrived : proxied size unread bridge streamId streaming response = consumer := by
    rw [proxied, written, Option.getD_some, bodyFrames, handleFrames_reply]
    exact settled.consumer
  rw [arrived]
  exact outcome

/-- A body that cannot be read before anything is written ends in an error. -/
theorem proxied_unread (bridge : Bridge) (named : streamId ≠ "")
    (whole : isStreamingResponse response = false) (unreadable : response.failed = true) :
    ∃ reason, (proxied size unread bridge streamId streaming response).ending =
      some (.failed reason) := by
  have closed := settled_close bridge named streaming (some "proxy_error")
  refine ⟨"Stream closed: " ++ "proxy_error", ?_⟩
  unfold proxied respond
  rw [whole, unreadable, if_neg (by decide), if_pos rfl, Option.getD_some, handleFrames_reply]
  exact congrArg Consumer.ending closed.consumer

theorem proxied_empty (bridge : Bridge) (named : streamId ≠ "")
    (whole : isStreamingResponse response = false) (read : response.failed = false)
    (empty : response.reads.flatten = []) :
    proxied size unread bridge streamId streaming response =
      ⟨some (sentHead response), [], some .completed⟩ := by
  have settled := settled_head bridge named streaming (sentHead response)
  unfold proxied respond buildResponses buffered
  rw [whole, read, empty, if_neg (by decide), if_neg (by decide), if_pos List.length_nil,
    Option.map_some, Option.getD_some, if_pos List.length_nil, handleFrames_reply]
  exact settled.consumer

end Outcomes

/-! ### Response fidelity -/

section Fidelity

variable {size : Nat} {unread : String → Nat → Nat} {bridge : Bridge} {streamId : String}
  {streaming : Bool} {response : UpstreamResponse}

theorem responseFidelity_body (named : streamId ≠ "") {bodyLen : Nat}
    (written : respond size streamId response =
      some (bodyFrames streamId response bodyLen (writtenPieces size response)))
    (whole : isStreamingResponse response = true ∨ response.reads.flatten = [] ∨ 0 < size)
    (noticed : response.failed = true → isStreamingResponse response = true) :
    Faithful response (proxied size unread bridge streamId streaming response) ↔
      CarriedBack size unread streamId streaming response := by
  have outcome := @proxied_body size unread streamId streaming response bridge named _ written
  by_cases behind : Backlogged size unread streamId streaming response
  · rw [if_pos behind] at outcome
    cases failed : response.failed with
    | true =>
        constructor
        · intro _
          exact ⟨fun _ => .inr behind, fun read => by simp [failed] at read,
            fun read => by simp [failed] at read, fun read => by simp [failed] at read⟩
        · simp [Faithful, failed, outcome]
    | false =>
        constructor
        · intro faithful
          rw [Faithful, failed, if_neg Bool.false_ne_true] at faithful
          grind [faithful.completed]
        · exact fun carried => absurd behind (carried.keptUp failed)
  · rw [if_neg behind, flatten_writtenPieces whole] at outcome
    rw [outcome]
    cases failed : response.failed with
    | true =>
        constructor
        · simp [Faithful, failed]
        · intro carried
          grind [carried.noticed]
    | false =>
        rw [faithful_whole_iff failed]
        constructor
        · exact fun single => ⟨fun unreadable => by simp [failed] at unreadable, fun _ => whole,
            fun _ => behind, fun _ => single⟩
        · exact fun carried => carried.singleLines failed

/-- A body that cannot be read and is not streamed. -/
theorem responseFidelity_unread (named : streamId ≠ "")
    (whole : isStreamingResponse response = false) (unreadable : response.failed = true) :
    Faithful response (proxied size unread bridge streamId streaming response) ↔
      CarriedBack size unread streamId streaming response := by
  have ended := @proxied_unread size unread streamId streaming response bridge named
      whole unreadable
  constructor
  · intro _
    exact ⟨fun _ => .inl whole, fun read => by simp [unreadable] at read,
      fun read => by simp [unreadable] at read, fun read => by simp [unreadable] at read⟩
  · intro _
    rw [Faithful, unreadable, if_pos rfl]
    exact ended

theorem responseFidelity_empty (named : streamId ≠ "")
    (whole : isStreamingResponse response = false) (read : response.failed = false)
    (empty : response.reads.flatten = []) :
    Faithful response (proxied size unread bridge streamId streaming response) ↔
      CarriedBack size unread streamId streaming response := by
  have noPieces : writtenPieces size response = [] := by
    unfold writtenPieces buffered
    rw [whole, empty]
    rfl
  have keepsUp : ¬Backlogged size unread streamId streaming response := by
    intro behind
    have overflows := behind.2
    rw [noPieces] at overflows
    cases overflows
  have wholeIff := faithful_whole_iff read
  rw [empty] at wholeIff
  rw [proxied_empty bridge named whole read empty, wholeIff]
  constructor
  · exact fun single => ⟨fun unreadable => by simp [read] at unreadable,
      fun _ => .inr (.inl empty), fun _ => keepsUp, fun _ => single⟩
  · exact fun carried => carried.singleLines read

/-- Without a chunk size nothing is written of a body. -/
theorem responseFidelity_noSize (whole : isStreamingResponse response = false)
    (read : response.failed = false) (nonempty : response.reads.flatten ≠ [])
    (noSize : size = 0) :
    Faithful response (proxied size unread bridge streamId streaming response) ↔
      CarriedBack size unread streamId streaming response := by
  constructor
  · intro faithful
    unfold Faithful proxied at faithful
    rw [read, respond_buffered whole read nonempty, if_pos noSize,
      if_neg Bool.false_ne_true] at faithful
    have completed := faithful.completed
    have waiting : ((bridge.register streamId streaming).consumer streamId).ending = none := by
      rw [Bridge.register, Bridge.put_consumer]
      rfl
    grind [handleFrames]
  · intro carried
    grind [carried.written]

end Fidelity

/-- The caller has the upstream's status, every value of every header that is not hop-by-hop and
the body, or an error when the body could not be read, exactly when each such header is one line of
text, the failure comes before a head is sent, and the caller keeps up. -/
theorem responseFidelity_iff (size : Nat) (unread : String → Nat → Nat) (bridge : Bridge)
    {streamId : String} (named : streamId ≠ "") (streaming : Bool) (response : UpstreamResponse) :
    Faithful response (proxied size unread bridge streamId streaming response) ↔
      CarriedBack size unread streamId streaming response := by
  cases streamed : isStreamingResponse response with
  | true =>
      apply responseFidelity_body named (respond_streaming streamed) (.inl streamed)
      exact fun _ => streamed
  | false =>
      cases failed : response.failed with
      | true => exact responseFidelity_unread named streamed failed
      | false =>
          by_cases empty : response.reads.flatten = []
          · exact responseFidelity_empty named streamed failed empty
          by_cases noSize : size = 0
          · exact responseFidelity_noSize streamed failed empty noSize
          · have written := @respond_buffered size streamId response streamed failed empty
            rw [if_neg noSize] at written
            apply responseFidelity_body named written (.inr (.inr (by omega)))
            intro unreadable
            rw [failed] at unreadable
            cases unreadable

def freshBridge : Bridge := ⟨fun _ => none, none, fun _ => .waiting⟩

/-- A page of three bytes. -/
def samplePage : UpstreamResponse where
  statusCode := 200
  lines := [("content-type", toUtf8 "text/html")]
  contentLength := 3
  transferEncoding := []
  reads := [[1, 2], [3]]
  bounded := by decide
  failed := false

theorem samplePage_singleLines : SingleLines samplePage.lines := by
  intro line member _
  rw [List.mem_singleton.mp member]
  exact ⟨rfl, "text/html", rfl⟩

/-- A page in chunks of two bytes. -/
theorem responseFidelity_page :
    Faithful samplePage (proxied 2 (fun _ _ => 0) freshBridge "s1" false samplePage) := by
  apply (responseFidelity_iff 2 (fun _ _ => 0) freshBridge (by decide : "s1" ≠ "") false
    samplePage).mpr
  constructor
  · nofun
  · exact fun _ => .inr (.inr (by decide))
  · intro _ behind
    cases behind.1
  · exact fun _ => samplePage_singleLines

def twoCookies : UpstreamResponse where
  statusCode := 204
  lines := [("Set-Cookie", [97]), ("Set-Cookie", [98])]
  contentLength := 0
  transferEncoding := []
  reads := []
  bounded := by decide
  failed := false

/-- A stream of events that breaks off. -/
def cutStream : UpstreamResponse where
  statusCode := 200
  lines := []
  contentLength := -1
  transferEncoding := ["chunked"]
  reads := [[1, 2, 3]]
  bounded := by decide
  failed := true

theorem lossyResponses :
    ¬Faithful twoCookies (proxied 1048576 (fun _ _ => 0) freshBridge "s1" false twoCookies) ∧
      ¬Faithful cutStream (proxied 1048576 (fun _ _ => 0) freshBridge "s1" false cutStream) := by
  have named : "s1" ≠ "" := by decide
  constructor
  · have whole : isStreamingResponse twoCookies = false := by decide +kernel
    have outcome := @proxied_empty 1048576 (fun _ _ => 0) "s1" false twoCookies freshBridge named
      whole rfl rfl
    rw [outcome]
    intro faithful
    have single := (@faithful_whole_iff twoCookies rfl).mp faithful
    have kept : ¬HopByHop twoCookies.lines (canonicalKey "Set-Cookie") := by
      rintro (standard | ⟨line, member, isConnection, _⟩)
      · exact absurd standard (by decide +kernel)
      · revert isConnection
        revert line
        decide +kernel
    have only := (single ("Set-Cookie", [97]) (by decide) kept).1
    exact absurd only (by decide +kernel)
  · have streamed : isStreamingResponse cutStream = true := by decide +kernel
    have outcome := @proxied_body 1048576 (fun _ _ => 0) "s1" false cutStream freshBridge named _
      (respond_streaming streamed)
    rw [outcome]
    rintro ⟨reason, ended⟩
    cases ended

end Lombok.Tunnel
