import Lombok.Library.Refusal
import Lombok.Tunnel.Transport

/-!
Contract: the bridge's `ProtocolParser` with all it calls back with, its errors
included.

Owns `feed`, the reports of chunks fed one after another, and when these are the
reports of the same bytes in one chunk. A frame over the limit ends the chunk it
is completed in: the parser drops that chunk and reads the next one as if a frame
began with it.

Does not own what the callbacks do. They return: an `onMessage` that throws is
reported again through `onError`.
-/

namespace Lombok.Tunnel

open Lombok.Core
open Lombok.Library.Framing

/-- `MAX_FRAME_PAYLOAD`. -/
def maxFramePayload : Nat := 16 * 1024 * 1024

/-- A callback. -/
inductive ParserReport where
  | message (msg : Json)
  | binary (data : Bytes)
  | error (message : String)

/-- The engine's text for what `JSON.parse` throws. -/
structure ProtocolParser where
  syntaxError : String → String

def oversizedMessage (payloadLength : Nat) : String :=
  "Frame payload " ++ toString payloadLength ++ " exceeds maximum " ++ toString maxFramePayload

namespace ProtocolParser

variable (parser : ProtocolParser)

/-- The callbacks of one frame. -/
def dispatch (frame : Frame) : List ParserReport :=
  if frame.kind = frameText then
    match Json.parse (decodeUtf8 frame.payload) with
    | some msg => [.message msg]
    | none => [.error (parser.syntaxError (decodeUtf8 frame.payload))]
  else if frame.kind = frameBinary then [.binary frame.payload]
  else []

/-- The loop of `feed`; the rounds are at most the bytes that are pending. -/
def feedLoop : Nat → Bytes → List ParserReport × Bytes
  | 0, pending => ([], pending)
  | rounds + 1, pending =>
      match pending with
      | kind :: first :: second :: third :: fourth :: rest =>
          let payloadLength := ofBigEndian first second third fourth
          if maxFramePayload < payloadLength then ([.error (oversizedMessage payloadLength)], [])
          else if rest.length < payloadLength then ([], pending)
          else
            let later := feedLoop rounds (rest.drop payloadLength)
            (parser.dispatch ⟨kind, rest.take payloadLength⟩ ++ later.1, later.2)
      | _ => ([], pending)

/-- The callbacks of a chunk, and what is pending after it. -/
def feed (pending chunk : Bytes) : List ParserReport × Bytes :=
  parser.feedLoop (pending ++ chunk).length (pending ++ chunk)

/-- The callbacks of chunks that are fed one after another. -/
def feedAll : Bytes → List Bytes → List ParserReport
  | _, [] => []
  | pending, chunk :: chunks =>
      (parser.feed pending chunk).1 ++ feedAll (parser.feed pending chunk).2 chunks

/-! ### The parser as one that reports what it refuses -/

/-- `readUInt32BE(1)`. -/
def announced : Bytes → Nat
  | _ :: first :: second :: third :: fourth :: _ => ofBigEndian first second third fourth
  | _ => 0

def reporter : Reporter ParserReport where
  read := readFrame maxFramePayload
  ofFrame := parser.dispatch
  ofRefused pending := .error (oversizedMessage (announced pending))
  read_nil := rfl
  read_shorter := readFrame_shorter
  read_append := readFrame_append
  refused_append refused more := by
    obtain ⟨still, kind, first, second, third, fourth, tail, rfl⟩ :=
      readFrame_oversized_append refused more
    exact ⟨still, rfl⟩

variable {parser}

theorem read_reporter (pending : Bytes) :
    parser.reporter.read pending = readFrame maxFramePayload pending := rfl

theorem feedLoop_eq_drain : ∀ (rounds : Nat) (pending : Bytes),
    parser.feedLoop rounds pending = parser.reporter.drain rounds pending := by
  intro rounds
  induction rounds with
  | zero =>
      intro pending
      rfl
  | succ rounds inductionHypothesis =>
      intro pending
      match pending with
      | [] | [_] | [_, _] | [_, _, _] | [_, _, _, _] => rfl
      | kind :: first :: second :: third :: fourth :: rest =>
          rw [feedLoop, Reporter.drain, read_reporter, readFrame]
          by_cases large : maxFramePayload < ofBigEndian first second third fourth
          · rw [if_pos large, if_pos large]
            rfl
          · rw [if_neg large, if_neg large]
            by_cases short : rest.length < ofBigEndian first second third fourth
            · rw [if_pos short, if_pos short]
            · rw [if_neg short, if_neg short, inductionHypothesis]
              rfl

theorem feedAll_eq_reporter (chunks : List Bytes) : ∀ pending,
    parser.feedAll pending chunks = parser.reporter.feedAll pending chunks := by
  induction chunks with
  | nil =>
      intro pending
      rfl
  | cons chunk rest inductionHypothesis =>
      intro pending
      rw [feedAll, Reporter.feedAll, inductionHypothesis, feed, feedLoop_eq_drain]
      rfl

/-! ### Chunks -/

/-- The parser passes over types that it does not know. -/
def unknownType (frame : Frame) : Prop := frame.kind ≠ frameText ∧ frame.kind ≠ frameBinary

theorem passesOver_eq : parser.reporter.PassesOver = unknownType := by
  funext frame
  apply propext
  show parser.dispatch frame = [] ↔ _
  grind [dispatch, unknownType]

variable (parser)

/-- Chunks are reported like the same bytes in one chunk exactly when what follows the chunk with a
frame over the limit holds nothing to report: frames of unknown types, and less than a frame. -/
theorem feedAll_eq_feed_iff (chunks : List Bytes) :
    parser.feedAll [] chunks = (parser.feed [] chunks.flatten).1 ↔
      QuietAfterRefusal (readFrame maxFramePayload) unknownType [] chunks := by
  rw [feedAll_eq_reporter, ← @passesOver_eq parser]
  apply Reporter.feedAll_eq_iff chunks [] rfl
  rw [feed, feedLoop_eq_drain]
  exact Reporter.drains_feed [] chunks.flatten

/-- A header that announces too much, cut off before a frame that is whole. -/
theorem feedAll_cut : ¬ ∀ (parser : ProtocolParser) (chunks : List Bytes),
    parser.feedAll [] chunks = (parser.feed [] chunks.flatten).1 := by
  intro claim
  have same := claim ⟨id⟩ [[1, 1, 0, 0, 1], [2, 0, 0, 0, 1, 7]]
  have lengths := congrArg List.length same
  revert lengths
  decide

end ProtocolParser

end Lombok.Tunnel
