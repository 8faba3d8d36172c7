import Lombok.Tunnel.Agent

/-!
Contract: the frames the agent writes for an upstream response.

Owns the messages of a response and their JSON as `json.Marshal` prints it,
`buildResponseHeaders`, and the three ways `ExecuteStreaming` writes a body:
none, in chunks of the configured size, and as it is read.

Header values are bytes. A response is what `client.Do` returns, so what
`net/http` itself takes out of an answer is not part of it.
-/

namespace Lombok.Tunnel

open Lombok.Core
open Lombok.Library.Framing

/-! ### Messages -/

inductive AgentReply where
  | httpResponse (streamId : String) (statusCode : Nat) (headers : List (String × String))
      (bodyLen : Nat) (bodyFollows : Bool)
  | bodyChunk (streamId : String)
  | bodyEnd (streamId : String)
  | streamClose (streamId reason : String)

/-- A string under `omitempty`. -/
def omitEmpty (text : String) : Option Json := if text = "" then none else some (.str text)

/-- `json.Marshal` prints the keys of a map in order. -/
def sortHeaders (headers : List (String × String)) : List (String × String) :=
  headers.mergeSort fun first second => decide (first.1 ≤ second.1)

namespace AgentReply

def fields : AgentReply → Fields
  | .httpResponse streamId statusCode headers bodyLen bodyFollows =>
      .ofOptions [("type", some (.str "http_response")), ("stream_id", omitEmpty streamId),
        ("status_code", some (.ofNat statusCode)),
        ("headers", some (headersJson (sortHeaders headers))),
        ("body_len", if bodyLen = 0 then none else some (.ofNat bodyLen)),
        ("body_follows", if bodyFollows then some (.bool true) else none)]
  | .bodyChunk streamId =>
      .ofOptions [("type", some (.str "body_chunk")), ("stream_id", omitEmpty streamId)]
  | .bodyEnd streamId =>
      .ofOptions [("type", some (.str "body_end")), ("stream_id", omitEmpty streamId)]
  | .streamClose streamId reason =>
      .ofOptions [("type", some (.str "stream_close")), ("stream_id", omitEmpty streamId),
        ("reason", omitEmpty reason)]

def frame (reply : AgentReply) : Frame := ⟨frameText, toUtf8 (Json.obj reply.fields).marshal⟩

theorem isPlain_fields (reply : AgentReply) : (Json.obj reply.fields).isPlain = true := by
  cases reply with
  | httpResponse streamId statusCode headers bodyLen bodyFollows =>
      unfold fields omitEmpty
      by_cases noStream : streamId = "" <;> by_cases noBody : bodyLen = 0 <;>
        cases bodyFollows <;>
          simp [noStream, noBody, Fields.ofOptions, Json.isPlain, Json.isPlainFields,
            BridgeMessage.isPlain_headersJson, Json.isPlain_ofNat]
  | bodyChunk streamId =>
      unfold fields omitEmpty
      by_cases noStream : streamId = "" <;>
        simp [noStream, Fields.ofOptions, Json.isPlain, Json.isPlainFields]
  | bodyEnd streamId =>
      unfold fields omitEmpty
      by_cases noStream : streamId = "" <;>
        simp [noStream, Fields.ofOptions, Json.isPlain, Json.isPlainFields]
  | streamClose streamId reason =>
      unfold fields omitEmpty
      by_cases noStream : streamId = "" <;> by_cases noReason : reason = "" <;>
        simp [noStream, noReason, Fields.ofOptions, Json.isPlain, Json.isPlainFields]

/-- A message's text is read back as its fields. -/
theorem parse_frame (reply : AgentReply) :
    Json.parse (repairUtf8 reply.frame.payload) = some (.obj reply.fields) := by
  rw [frame, repairUtf8_toUtf8, Json.parse_marshal reply.isPlain_fields]

end AgentReply

/-! ### The upstream response -/

/-- What `client.Do` returns, and how reading its body goes: the pieces the reads return, each
within the 32 KiB buffer, and whether the last read failed. -/
structure UpstreamResponse where
  statusCode : Nat
  lines : List (String × Bytes)
  contentLength : Int
  transferEncoding : List String
  reads : List Bytes
  bounded : ∀ piece ∈ reads, piece.length ≤ 32 * 1024
  failed : Bool

/-- `resp.Header`. -/
def responseHeader (lines : List (String × Bytes)) : Header Bytes :=
  lines.foldl (fun header line => header.add line.1 line.2) []

/-- `isStreamingResponse`. -/
def isStreamingResponse (response : UpstreamResponse) : Bool :=
  ((responseHeader response.lines).first "Content-Type").any (fun value =>
      (toUtf8 "text/event-stream").isPrefixOf value) ||
    (decide (response.contentLength < 0) &&
      response.transferEncoding.any fun coding => coding.toLower == "chunked")

/-- The names in a `Connection` value. -/
def byteTokens (value : Bytes) : List String := splitCommaSeparated (repairUtf8 value)

/-- `buildResponseHeaders`: the first value under each name that is not hop-by-hop. -/
def buildResponseHeaders (header : Header Bytes) : List (String × Bytes) :=
  (stripHopByHop byteTokens header).filterMap fun entry =>
    entry.2.head?.map fun value => (entry.1, value)

/-- The headers as `json.Marshal` prints them. -/
def marshalHeaders (headers : List (String × Bytes)) : List (String × String) :=
  headers.map fun header => (header.1, repairUtf8 header.2)

/-! ### Writing it -/

/-- The loop of `buildResponses` over a large body. -/
def splitBody (size : Nat) (body : Bytes) (offset : Nat) : List Bytes :=
  if offset < body.length ∧ 0 < size then
    let last := min (offset + size) body.length
    (body.drop offset).take (last - offset) :: splitBody size body last
  else []
termination_by body.length - offset

/-- The pieces a body is written in. `buildResponses` does not return when the chunk size is not
positive and there is a body. -/
def buffered (size : Nat) (body : Bytes) : Option (List Bytes) :=
  if body.length = 0 then some []
  else if body.length ≤ size then some [body]
  else if size = 0 then none
  else some (splitBody size body 0)

/-- The frames of `WriteJSONThenBinary` for each piece. -/
def pieceFrames (streamId : String) (pieces : List Bytes) : List Frame :=
  pieces.flatMap fun piece => [(AgentReply.bodyChunk streamId).frame, binaryFrame piece]

/-- The frames of `buildResponses`. -/
def buildResponses (size : Nat) (streamId : String) (response : UpstreamResponse)
    (headers : List (String × String)) (body : Bytes) : Option (List Frame) :=
  (buffered size body).map fun pieces =>
    (AgentReply.httpResponse streamId response.statusCode headers body.length
        (decide (0 < body.length))).frame ::
      (if body.length = 0 then []
      else pieceFrames streamId pieces ++ [(AgentReply.bodyEnd streamId).frame])

/-- `handleHTTPRequest` from the response on: what is written for it, unless it does not return. A
streaming body whose read fails is only logged. -/
def respond (size : Nat) (streamId : String) (response : UpstreamResponse) : Option (List Frame) :=
  let headers := marshalHeaders (buildResponseHeaders (responseHeader response.lines))
  if isStreamingResponse response then
    some ((AgentReply.httpResponse streamId response.statusCode headers 0 true).frame ::
      (pieceFrames streamId (response.reads.filter fun piece => !piece.isEmpty) ++
        [(AgentReply.bodyEnd streamId).frame]))
  else if response.failed then some [(AgentReply.streamClose streamId "proxy_error").frame]
  else buildResponses size streamId response headers response.reads.flatten

/-! ### The pieces make up the body -/

variable {size : Nat} (lines : List (String × Bytes))

theorem flatten_splitBody (positive : 0 < size) (body : Bytes) :
    ∀ rounds offset, body.length - offset ≤ rounds →
      (splitBody size body offset).flatten = body.drop offset := by
  intro rounds
  induction rounds with
  | zero =>
      intro offset done
      rw [splitBody, if_neg (fun inside => by omega), List.drop_eq_nil_of_le (by omega)]
      rfl
  | succ rounds inductionHypothesis =>
      intro offset remaining
      by_cases inside : offset < body.length
      · rw [splitBody, if_pos ⟨inside, positive⟩]
        rw [List.flatten_cons, inductionHypothesis _ (by omega)]
        have split := List.take_append_drop (min (offset + size) body.length - offset)
          (body.drop offset)
        rw [List.drop_drop, Nat.add_sub_cancel' (by omega)] at split
        exact split
      · grind

theorem flatten_buffered {body : Bytes} {pieces : List Bytes}
    (written : buffered size body = some pieces) : pieces.flatten = body := by
  unfold buffered at written
  split at written
  · grind
  split at written
  · grind
  split at written
  · cases written
  · cases written
    rw [flatten_splitBody (by omega) body _ 0 (Nat.le_refl _), List.drop_zero]

/-- There are no pieces of a body without a chunk size. -/
theorem buffered_eq_none_iff {body : Bytes} :
    buffered size body = none ↔ body ≠ [] ∧ size = 0 := by
  grind [buffered]

theorem flatten_filter_nonempty (pieces : List Bytes) :
    (pieces.filter fun piece => !piece.isEmpty).flatten = pieces.flatten := by
  induction pieces with
  | nil => rfl
  | cons piece tail inductionHypothesis =>
      grind

/-! ### The headers -/

/-- The upstream's values under a name, in the order of its lines. -/
def lineValues (lines : List (String × Bytes)) (key : String) : List Bytes :=
  (lines.filter fun line => canonicalKey line.1 == key).map Prod.snd

theorem responseHeader_from (key : String) :
    ∀ start : Header Bytes,
      Header.values (lines.foldl (fun header line => header.add line.1 line.2) start) key =
        start.values key ++ lineValues lines key := by
  induction lines with
  | nil =>
      intro start
      exact (List.append_nil _).symm
  | cons line tail inductionHypothesis =>
      intro start
      rw [List.foldl_cons, inductionHypothesis, lineValues, lineValues, List.filter_cons]
      by_cases same : canonicalKey line.1 = key
      · rw [if_pos (beq_iff_eq.mpr same), ← same, Header.values_add_same, List.map_cons,
          List.append_assoc]
        rfl
      · rw [if_neg (by simpa using same), Header.values_add_other _ _ (Ne.symm same)]

theorem values_responseHeader (key : String) :
    (responseHeader lines).values key = lineValues lines key :=
  responseHeader_from lines key []

theorem distinct_responseHeader :
    (responseHeader lines).Distinct := by
  have kept : ∀ start : Header Bytes, start.Distinct →
      Header.Distinct (lines.foldl (fun header line => header.add line.1 line.2) start) := by
    induction lines with
    | nil => exact fun start distinct => distinct
    | cons line tail inductionHypothesis =>
        exact fun start distinct => inductionHypothesis _ (Header.distinct_add distinct _ _)
  exact kept [] List.nodup_nil

def recordValues {V : Type} (headers : List (String × V)) (key : String) : List V :=
  (headers.filter fun header => header.1 == key).map Prod.snd

theorem recordValues_firsts {V : Type} (header : Header V) (distinct : header.Distinct)
    (key : String) :
    recordValues (header.filterMap fun entry => entry.2.head?.map fun value => (entry.1, value))
      key = (header.values key).head?.toList := by
  induction header with
  | nil => rfl
  | cons entry tail inductionHypothesis =>
      rw [Header.Distinct, List.map_cons, List.nodup_cons] at distinct
      have tailRecord := inductionHypothesis distinct.2
      unfold recordValues at tailRecord ⊢
      rw [List.filterMap_cons]
      by_cases same : entry.1 = key
      · have absent : Header.values tail key = [] := by
          have none : ∀ other ∈ tail, other.1 ≠ key := by
            grind
          have nothing := Header.values_append_of_absent none []
          rw [List.append_nil] at nothing
          exact nothing
        rw [absent] at tailRecord
        have here : Header.values (entry :: tail) key = entry.2 := by
          rw [Header.values, List.find?_cons, beq_iff_eq.mpr same]
        rw [here]
        cases entry.2.head? with
        | none => exact tailRecord
        | some value =>
            simp [same, tailRecord]
      · have there : Header.values (entry :: tail) key = Header.values tail key := by
          unfold Header.values
          rw [List.find?_cons, (beq_eq_false_iff_ne.mpr same)]
        rw [there]
        cases entry.2.head? with
        | none => exact tailRecord
        | some value =>
            simp [same, tailRecord]

/-- What the agent passes on under a name: the first value, unless the name is stripped. -/
theorem recordValues_buildResponseHeaders (key : String) :
    recordValues (buildResponseHeaders (responseHeader lines)) key =
      if stripped byteTokens (responseHeader lines) key then []
      else (lineValues lines key).head?.toList := by
  unfold buildResponseHeaders
  rw [recordValues_firsts _ (distinct_stripHopByHop (distinct_responseHeader lines))]
  by_cases dropped : stripped byteTokens (responseHeader lines) key
  · rw [if_pos dropped]
    have none : ∀ entry ∈ stripHopByHop byteTokens (responseHeader lines), entry.1 ≠ key := by
      intro entry member same
      rw [← same] at dropped
      exact (mem_stripHopByHop.mp member).2 dropped
    have nothing := Header.values_append_of_absent none []
    rw [List.append_nil] at nothing
    rw [nothing]
    rfl
  · rw [if_neg dropped, values_stripHopByHop dropped, values_responseHeader]

theorem recordValues_marshalHeaders (headers : List (String × Bytes)) (key : String) :
    recordValues (marshalHeaders headers) key = (recordValues headers key).map repairUtf8 := by
  unfold recordValues marshalHeaders
  rw [List.filter_map, List.map_map, List.map_map]
  rfl

theorem recordValues_perm {V : Type} {headers others : List (String × V)}
    (same : headers.Perm others) (key : String) :
    (recordValues headers key).Perm (recordValues others key) :=
  (same.filter _).map _

/-- Sorting a record with at most one value under a name keeps that value. -/
theorem recordValues_sortHeaders {headers : List (String × String)} {key : String}
    (atMostOne : (recordValues headers key).length ≤ 1) :
    recordValues (sortHeaders headers) key = recordValues headers key := by
  have sorted := recordValues_perm (List.mergeSort_perm headers
    fun first second => decide (first.1 ≤ second.1)) key
  cases held : recordValues headers key with
  | nil =>
      rw [held] at sorted
      exact sorted.eq_nil
  | cons value others =>
      rw [held] at atMostOne sorted
      rw [List.length_cons] at atMostOne
      obtain rfl := List.eq_nil_of_length_eq_zero (by omega : others.length = 0)
      exact List.perm_singleton.mp sorted

/-- The headers in the JSON of a response. -/
theorem recordValues_sent (key : String) :
    recordValues (sortHeaders (marshalHeaders (buildResponseHeaders (responseHeader lines)))) key =
      if stripped byteTokens (responseHeader lines) key then []
      else ((lineValues lines key).head?.toList).map repairUtf8 := by
  have passed := recordValues_buildResponseHeaders lines key
  have marshalled := recordValues_marshalHeaders
    (buildResponseHeaders (responseHeader lines)) key
  rw [passed] at marshalled
  grind [recordValues_sortHeaders]

end Lombok.Tunnel
