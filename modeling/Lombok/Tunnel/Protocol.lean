import Lombok.Core.JsonReader
import Lombok.Library.Framing

/-!
Contract: the messages between the bridge and the tunnel agent, and their frames.

Owns the TEXT messages the bridge sends, their JSON, what Go's `json.Unmarshal`
makes of a TEXT payload, and the bytes of a sequence of `writeFrame` calls.

Does not own the messages the agent sends back. Properties are looked up under
their own names: neither side prints a name twice or in another case.
-/

namespace Lombok.Tunnel

open Lombok.Core
open Lombok.Library.Framing

/-! ### Frames -/

/-- `FrameType.TEXT`. -/
def frameText : UInt8 := 1

/-- `FrameType.BINARY`. -/
def frameBinary : UInt8 := 2

/-- `MaxFrameSize`, the agent's limit on one payload. -/
def maxFrameSize : Nat := 16 * 1024 * 1024

def textFrame (value : Json) : Frame := ⟨frameText, toUtf8 value.stringify⟩

def binaryFrame (data : Bytes) : Frame := ⟨frameBinary, data⟩

/-- The bytes of awaited `writeFrame` calls. `writeUInt32BE` throws on a length that has no four
bytes, and the calls after it are not made. -/
def writeFrames : List Frame → Bytes
  | [] => []
  | frame :: rest =>
      if 4294967296 ≤ frame.payload.length then [] else encode frame ++ writeFrames rest

theorem writeFrames_eq (sent : List Frame) :
    writeFrames sent =
      (sent.takeWhile fun frame => decide (frame.payload.length < 4294967296)).flatMap encode := by
  induction sent with
  | nil => rfl
  | cons frame tail inductionHypothesis =>
      rw [writeFrames, List.takeWhile_cons]
      grind

/-- A reader gets the frames up to the first one over its limit. -/
theorem frames_writeFrames {limit : Nat} (limited : limit < 4294967296) (sent : List Frame) :
    frames limit (writeFrames sent) = sent.takeWhile (fits limit) := by
  rw [writeFrames_eq, frames_encode]
  · rw [List.takeWhile_takeWhile]
    apply congrArg (fun keep => List.takeWhile keep sent)
    funext frame
    unfold fits
    grind
  · intro frame member
    have small := List.mem_takeWhile_imp member
    exact of_decide_eq_true small

/-! ### Messages of the bridge -/

/-- `HTTPRequestMsg` of the bridge. -/
structure HTTPRequestMsg where
  streamId : String
  method : String
  path : String
  headers : List (String × String)
  bodyLen : Option Nat
  bodyFollows : Option Bool
deriving DecidableEq

/-- `HTTPResponseMsg` of the bridge. -/
structure HTTPResponseMsg where
  streamId : String
  statusCode : Int
  headers : List (String × String)
  bodyFollows : Bool
deriving DecidableEq

/-- `WSUpgradeMsg`. -/
structure WSUpgradeMsg where
  streamId : String
  path : String
  headers : List (String × String)
deriving DecidableEq

def headersJson (headers : List (String × String)) : Json :=
  .obj (headers.map fun header => (header.1, .str header.2))

namespace HTTPRequestMsg

def fields (msg : HTTPRequestMsg) : Fields :=
  .ofOptions [("type", some (.str "http_request")), ("stream_id", some (.str msg.streamId)),
    ("method", some (.str msg.method)), ("path", some (.str msg.path)),
    ("headers", some (headersJson msg.headers)), ("body_len", msg.bodyLen.map Json.ofNat),
    ("body_follows", msg.bodyFollows.map Json.bool)]

end HTTPRequestMsg

/-- What the bridge sends in TEXT frames. -/
inductive BridgeMessage where
  | httpRequest (msg : HTTPRequestMsg)
  | wsUpgrade (msg : WSUpgradeMsg)
  | wsData (streamId : String)
  | streamClose (streamId : String) (reason : String)
  | bodyChunk (streamId : String)
  | bodyEnd (streamId : String)

namespace BridgeMessage

def toJson : BridgeMessage → Json
  | .httpRequest msg => .obj msg.fields
  | .wsUpgrade msg =>
      .obj [("type", .str "ws_upgrade"), ("stream_id", .str msg.streamId), ("path", .str msg.path),
        ("headers", headersJson msg.headers)]
  | .wsData streamId =>
      .obj [("type", .str "ws_data"), ("stream_id", .str streamId), ("body_follows", .bool true)]
  | .streamClose streamId reason =>
      .obj [("type", .str "stream_close"), ("stream_id", .str streamId), ("reason", .str reason)]
  | .bodyChunk streamId => .obj [("type", .str "body_chunk"), ("stream_id", .str streamId)]
  | .bodyEnd streamId => .obj [("type", .str "body_end"), ("stream_id", .str streamId)]

def frame (message : BridgeMessage) : Frame := textFrame message.toJson

theorem frame_kind (message : BridgeMessage) : message.frame.kind = frameText := rfl

theorem isPlain_headersJson (headers : List (String × String)) :
    (headersJson headers).isPlain = true := by
  rw [headersJson, Json.isPlain]
  induction headers with
  | nil => rfl
  | cons header tail inductionHypothesis =>
      rw [List.map_cons, Json.isPlainFields, inductionHypothesis]
      rfl

theorem isPlain_toJson (message : BridgeMessage) : message.toJson.isPlain = true := by
  cases message with
  | httpRequest msg =>
      rcases msg with ⟨streamId, method, path, headers, bodyLen, bodyFollows⟩
      cases bodyLen <;> cases bodyFollows <;>
        simp [toJson, HTTPRequestMsg.fields, Fields.ofOptions, Json.isPlain, Json.isPlainFields,
          isPlain_headersJson, Json.isPlain_ofNat]
  | wsUpgrade msg =>
      simp [toJson, Json.isPlain, Json.isPlainFields, isPlain_headersJson]
  | wsData streamId => rfl
  | streamClose streamId reason => rfl
  | bodyChunk streamId => rfl
  | bodyEnd streamId => rfl

end BridgeMessage

/-! ### What the agent unmarshals -/

/-- A string field of a Go struct: absent and `null` leave the zero value. -/
def stringField (fields : Fields) (name : String) : Option String :=
  match fields.get? name with
  | none => some ""
  | some .null => some ""
  | some (.str value) => some value
  | some _ => none

def boolField (fields : Fields) (name : String) : Option Bool :=
  match fields.get? name with
  | none => some false
  | some .null => some false
  | some (.bool value) => some value
  | some _ => none

def readDigits (digits : List Char) : Option Nat :=
  if digits.isEmpty || !digits.all Char.isDigit then none
  else some (Nat.ofDigitChars 10 digits 0)

/-- `strconv.ParseInt` of a literal, base 10 and 64 bits. -/
def readInt64 (literal : List Char) : Option Int :=
  match literal with
  | '-' :: digits => do
      let value ← readDigits digits
      if value ≤ 9223372036854775808 then some (-(value : Int)) else none
  | digits => do
      let value ← readDigits digits
      if value < 9223372036854775808 then some (value : Int) else none

def int64Field (fields : Fields) (name : String) : Option Int :=
  match fields.get? name with
  | none => some 0
  | some .null => some 0
  | some (.num literal) => readInt64 literal.toList
  | some _ => none

/-- The value of a `map[string]string` entry. -/
def stringEntry (entry : String × Json) : Option (String × String) :=
  match entry.2 with
  | .str value => some (entry.1, value)
  | .null => some (entry.1, "")
  | _ => none

def stringMapField (fields : Fields) (name : String) : Option (List (String × String)) :=
  match fields.get? name with
  | none => some []
  | some .null => some []
  | some (.obj entries) => entries.mapM stringEntry
  | some _ => none

/-- `HTTPRequestMsg` of the agent. -/
structure AgentRequest where
  streamId : String
  method : String
  path : String
  headers : List (String × String)
  bodyLen : Int
  bodyFollows : Bool
deriving DecidableEq

/-- What `dispatchText` makes of a TEXT payload. -/
inductive AgentMessage where
  | httpRequest (msg : AgentRequest)
  | wsUpgrade (msg : WSUpgradeMsg)
  | wsData (streamId : String) (bodyFollows : Bool)
  | streamClose (streamId : String)
  | other
deriving DecidableEq

def unmarshalRequest (fields : Fields) : Option AgentRequest := do
  let streamId ← stringField fields "stream_id"
  let method ← stringField fields "method"
  let path ← stringField fields "path"
  let headers ← stringMapField fields "headers"
  let bodyLen ← int64Field fields "body_len"
  let bodyFollows ← boolField fields "body_follows"
  some ⟨streamId, method, path, headers, bodyLen, bodyFollows⟩

def unmarshalUpgrade (fields : Fields) : Option WSUpgradeMsg := do
  let streamId ← stringField fields "stream_id"
  let path ← stringField fields "path"
  let headers ← stringMapField fields "headers"
  some ⟨streamId, path, headers⟩

/-- The envelope first, then the message its type names. A payload that does not unmarshal is
logged and skipped. -/
def unmarshal (value : Json) : Option AgentMessage :=
  match value with
  | .obj fields => do
      let kind ← stringField fields "type"
      let streamId ← stringField fields "stream_id"
      if kind = "http_request" then (unmarshalRequest fields).map .httpRequest
      else if kind = "ws_upgrade" then (unmarshalUpgrade fields).map .wsUpgrade
      else if kind = "ws_data" then (boolField fields "body_follows").map (.wsData streamId)
      else if kind = "stream_close" then some (.streamClose streamId)
      else some .other
  | .null => some .other
  | _ => none

def decodeText (payload : Bytes) : Option AgentMessage :=
  ((ofUtf8 payload).bind Json.parse).bind unmarshal

theorem decodeText_textFrame {value : Json} (plain : value.isPlain = true) :
    decodeText (textFrame value).payload = unmarshal value := by
  unfold decodeText textFrame
  rw [ofUtf8_toUtf8, Option.bind_some, Json.parse_stringify plain, Option.bind_some]

/-! ### What the agent makes of the bridge's messages -/

theorem readDigits_repr (value : Nat) : readDigits (toString value).toList = some value := by
  rw [readDigits, Nat.toString_eq_repr, Nat.toList_repr]
  have nonempty : (Nat.toDigits 10 value).isEmpty = false := by
    simp [Nat.toDigits_ne_nil]
  have digits : (Nat.toDigits 10 value).all Char.isDigit = true := by
    rw [List.all_eq_true]
    intro character member
    exact Nat.isDigit_of_mem_toDigits (by omega) (by omega) member
  rw [nonempty, digits]
  simp [Nat.ofDigitChars_toDigits]

theorem readInt64_repr (value : Nat) :
    readInt64 (toString value).toList =
      if value < 9223372036854775808 then some (value : Int) else none := by
  have read := readDigits_repr value
  unfold readInt64
  grind [readDigits]

theorem mapM_stringEntry (headers : List (String × String)) :
    (headers.map fun header => (header.1, Json.str header.2)).mapM stringEntry = some headers := by
  induction headers with
  | nil => rfl
  | cons header tail inductionHypothesis =>
      rw [List.map_cons, List.mapM_cons, inductionHypothesis]
      rfl

/-- The request as the agent has it, its `body_len` within 64 bits. -/
def HTTPRequestMsg.received (msg : HTTPRequestMsg) : AgentRequest :=
  ⟨msg.streamId, msg.method, msg.path, msg.headers, (msg.bodyLen.getD 0 : Nat),
    msg.bodyFollows.getD false⟩

/-- `body_len` is an `int64`. -/
def HTTPRequestMsg.lengthInRange (msg : HTTPRequestMsg) : Prop :=
  ∀ length, msg.bodyLen = some length → length < 9223372036854775808

instance (msg : HTTPRequestMsg) : Decidable msg.lengthInRange :=
  inferInstanceAs (Decidable (∀ length, msg.bodyLen = some length → length < 9223372036854775808))

theorem stringMapField_of_get? {fields : Fields} {name : String}
    {headers : List (String × String)} (held : fields.get? name = some (headersJson headers)) :
    stringMapField fields name = some headers := by
  rw [stringMapField, held]
  exact mapM_stringEntry headers

variable (msg : HTTPRequestMsg)

theorem HTTPRequestMsg.get?_bodyLen :
    msg.fields.get? "body_len" = msg.bodyLen.map Json.ofNat := by
  rcases msg with ⟨_, _, _, _, bodyLen, bodyFollows⟩
  cases bodyLen <;> cases bodyFollows <;> rfl

theorem HTTPRequestMsg.get?_bodyFollows :
    msg.fields.get? "body_follows" = msg.bodyFollows.map Json.bool := by
  rcases msg with ⟨_, _, _, _, bodyLen, bodyFollows⟩
  cases bodyLen <;> cases bodyFollows <;> rfl

theorem int64Field_bodyLen :
    int64Field msg.fields "body_len" =
      if msg.lengthInRange then some ((msg.bodyLen.getD 0 : Nat) : Int) else none := by
  rw [int64Field, msg.get?_bodyLen]
  by_cases inRange : msg.lengthInRange
  · rw [if_pos inRange]
    cases held : msg.bodyLen with
    | none => rfl
    | some length =>
        rw [Option.map_some, Json.ofNat]
        dsimp only
        rw [readInt64_repr, if_pos (inRange length held), Option.getD_some]
  · rw [if_neg inRange]
    cases held : msg.bodyLen with
    | none => exact absurd (fun length same => by rw [held] at same; cases same) inRange
    | some length =>
        have large : ¬length < 9223372036854775808 := by
          intro small
          apply inRange
          intro other same
          rw [held] at same
          cases same
          exact small
        rw [Option.map_some, Json.ofNat]
        dsimp only
        rw [readInt64_repr, if_neg large]

theorem boolField_bodyFollows :
    boolField msg.fields "body_follows" = some (msg.bodyFollows.getD false) := by
  rw [boolField, msg.get?_bodyFollows]
  cases msg.bodyFollows <;> rfl

theorem unmarshalRequest_fields :
    unmarshalRequest msg.fields = if msg.lengthInRange then some msg.received else none := by
  have stream : stringField msg.fields "stream_id" = some msg.streamId := rfl
  have method : stringField msg.fields "method" = some msg.method := rfl
  have path : stringField msg.fields "path" = some msg.path := rfl
  have headers : stringMapField msg.fields "headers" = some msg.headers :=
    stringMapField_of_get? rfl
  rw [unmarshalRequest, stream, method, path, headers, int64Field_bodyLen, boolField_bodyFollows]
  by_cases inRange : msg.lengthInRange
  · rw [if_pos inRange, if_pos inRange]
    rfl
  · rw [if_neg inRange, if_neg inRange]
    rfl

theorem decode_httpRequest :
    decodeText (BridgeMessage.httpRequest msg).frame.payload =
      if msg.lengthInRange then some (.httpRequest msg.received) else none := by
  rw [BridgeMessage.frame, decodeText_textFrame (BridgeMessage.isPlain_toJson _)]
  have kind : stringField msg.fields "type" = some "http_request" := rfl
  have stream : stringField msg.fields "stream_id" = some msg.streamId := rfl
  simp [BridgeMessage.toJson, unmarshal, unmarshalRequest_fields, kind, stream]

theorem decode_wsUpgrade (msg : WSUpgradeMsg) :
    decodeText (BridgeMessage.wsUpgrade msg).frame.payload = some (.wsUpgrade msg) := by
  rw [BridgeMessage.frame, decodeText_textFrame (BridgeMessage.isPlain_toJson _)]
  have headers : ∀ rest : Fields,
      stringMapField (("type", .str "ws_upgrade") :: ("stream_id", .str msg.streamId) ::
        ("path", .str msg.path) :: ("headers", headersJson msg.headers) :: rest) "headers" =
          some msg.headers :=
    fun _ => stringMapField_of_get? rfl
  rw [BridgeMessage.toJson, unmarshal]
  simp only [unmarshalUpgrade, headers]
  rfl

theorem decode_wsData (streamId : String) :
    decodeText (BridgeMessage.wsData streamId).frame.payload = some (.wsData streamId true) := by
  rw [BridgeMessage.frame, decodeText_textFrame (BridgeMessage.isPlain_toJson _)]
  simp [BridgeMessage.toJson, unmarshal, stringField, Fields.get?, boolField]

theorem decode_streamClose (streamId reason : String) :
    decodeText (BridgeMessage.streamClose streamId reason).frame.payload =
      some (.streamClose streamId) := by
  rw [BridgeMessage.frame, decodeText_textFrame (BridgeMessage.isPlain_toJson _)]
  simp [BridgeMessage.toJson, unmarshal, stringField, Fields.get?]

theorem decode_bodyChunk (streamId : String) :
    decodeText (BridgeMessage.bodyChunk streamId).frame.payload = some .other := by
  rw [BridgeMessage.frame, decodeText_textFrame (BridgeMessage.isPlain_toJson _)]
  simp [BridgeMessage.toJson, unmarshal, stringField, Fields.get?]

theorem decode_bodyEnd (streamId : String) :
    decodeText (BridgeMessage.bodyEnd streamId).frame.payload = some .other := by
  rw [BridgeMessage.frame, decodeText_textFrame (BridgeMessage.isPlain_toJson _)]
  simp [BridgeMessage.toJson, unmarshal, stringField, Fields.get?]

end Lombok.Tunnel
