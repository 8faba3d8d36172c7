import Lombok.Tunnel.AgentResponse

/-!
Contract: what the agent writes to its standard output, as the bridge reads it.

Owns Docker's headers around the agent's output, the demuxer that takes them
off, the parser of the agent's frames behind it, and the round trip: whatever
way the output is cut into Docker frames and the result into chunks, the bridge
sees the frames as they were written, none before all of it has arrived.

A Docker frame over the demuxer's limit drops everything that is pending.
-/

namespace Lombok.Tunnel

open Lombok.Core
open Lombok.Library.Framing

/-! ### Docker frames -/

/-- `MAX_DEMUX_PAYLOAD`. -/
def maxDemuxPayload : Nat := 16 * 1024 * 1024

/-- The stream type of the agent's error output. -/
def stderrStream : UInt8 := 2

/-- A stream type, three bytes of padding, the length and the payload. -/
def encodeDocker (frame : Frame) : Bytes :=
  frame.kind :: 0 :: 0 :: 0 :: (bigEndian frame.payload.length ++ frame.payload)

def readDocker : Bytes → Reading
  | kind :: _ :: _ :: _ :: first :: second :: third :: fourth :: rest =>
      let length := ofBigEndian first second third fourth
      if maxDemuxPayload < length then .oversized
      else if rest.length < length then .incomplete
      else .frame ⟨kind, rest.take length⟩ (rest.drop length)
  | _ => .incomplete

theorem encodeDocker_length (frame : Frame) :
    (encodeDocker frame).length = frame.payload.length + 8 := by
  simp [encodeDocker, bigEndian]

theorem readDocker_encode {frame : Frame} (small : frame.payload.length < 4294967296)
    (rest : Bytes) :
    readDocker (encodeDocker frame ++ rest) =
      if frame.payload.length ≤ maxDemuxPayload then .frame frame rest else .oversized := by
  unfold encodeDocker bigEndian
  simp only [List.cons_append, List.nil_append, readDocker]
  rw [ofBigEndian_bigEndian small]
  by_cases within : frame.payload.length ≤ maxDemuxPayload
  · simp [if_neg, within]
  · rw [if_pos (by omega), if_neg within]

theorem readDocker_shorter {bytes rest : Bytes} {frame : Frame}
    (read : readDocker bytes = .frame frame rest) : rest.length < bytes.length := by
  unfold readDocker at read
  split at read
  · dsimp only at read
    split at read
    · cases read
    split at read
    · cases read
    · grind [List.length_cons]
  · cases read

theorem readDocker_front {frame : Frame} (within : frame.payload.length ≤ maxDemuxPayload)
    {front future rest : Bytes} (stream : front ++ future = encodeDocker frame ++ rest) :
    readDocker front = .incomplete ∨
      ∃ kept, readDocker front = .frame frame kept ∧ kept ++ future = rest := by
  have small : frame.payload.length < 4294967296 := by
    unfold maxDemuxPayload at within
    omega
  rcases List.append_eq_append_iff.mp stream with ⟨missing, whole, _⟩ | ⟨kept, whole, sameRest⟩
  · by_cases complete : missing = []
    · subst complete
      rw [List.append_nil] at whole
      apply Or.inr
      have read := readDocker_encode small []
      grind
    · apply Or.inl
      have shorter : front.length < frame.payload.length + 8 := by
        have lengths := congrArg List.length whole
        rw [encodeDocker_length, List.length_append] at lengths
        have positive := List.length_pos_iff.mpr complete
        omega
      unfold readDocker
      split
      · rw [encodeDocker, bigEndian] at whole
        simp only [List.cons_append, List.nil_append, List.cons.injEq] at whole
        obtain ⟨_, _, _, _, rfl, rfl, rfl, rfl, sameTail⟩ := whole
        simp only [List.length_cons] at shorter
        rw [ofBigEndian_bigEndian small, if_neg (by omega), if_pos (by omega)]
      · rfl
  · simp [readDocker_encode, sameRest.symm, small, within, whole]

def docker : Format where
  encode := encodeDocker
  read := readDocker
  Fits frame := frame.payload.length ≤ maxDemuxPayload
  encode_ne_nil _ := List.cons_ne_nil _ _
  read_shorter := readDocker_shorter
  read_encode within rest := by
    rw [readDocker_encode (by unfold maxDemuxPayload at within; omega), if_pos within]
  read_front := readDocker_front

/-- The payloads that are not error output. -/
def stdoutPieces (frames : List Frame) : List Bytes :=
  (frames.filter fun frame => frame.kind != stderrStream).map Frame.payload

/-! ### The bridge's side -/

inductive ParserEvent where
  | message (value : Json)
  | binary (data : Bytes)
  | failed

/-- What the parser calls back with for a frame; other types are passed over. -/
def parserEvents (frame : Frame) : List ParserEvent :=
  if frame.kind = frameText then
    match Json.parse (decodeUtf8 frame.payload) with
    | some value => [.message value]
    | none => [.failed]
  else if frame.kind = frameBinary then [.binary frame.payload]
  else []

/-- The bytes the demuxer and the parser have not used yet. -/
structure Receiver where
  demuxPending : Bytes
  parserPending : Bytes

def agentFrames : Format := framed maxFrameSize (by decide)

/-- A chunk of the exec stream. -/
def Receiver.receive (receiver : Receiver) (chunk : Bytes) : List ParserEvent × Receiver :=
  let demuxed := docker.feed receiver.demuxPending chunk
  let parsed := agentFrames.feedAll receiver.parserPending (stdoutPieces demuxed.1)
  (parsed.1.flatMap parserEvents, ⟨demuxed.2, parsed.2⟩)

def Receiver.receiveAll (receiver : Receiver) : List Bytes → List ParserEvent
  | [] => []
  | chunk :: chunks =>
      (receiver.receive chunk).1 ++ (receiver.receive chunk).2.receiveAll chunks

def Receiver.initial : Receiver := ⟨[], []⟩

/-! ### The agent's side -/

/-- What the agent writes: a value by `WriteJSON`, or data by `WriteBinary`. The numbers Go prints
are numerals. -/
inductive Written where
  | json (value : Json) (plain : value.isPlain = true)
  | binary (data : Bytes)

namespace Written

def frame : Written → Frame
  | .json value _ => ⟨frameText, toUtf8 value.marshal⟩
  | .binary data => binaryFrame data

/-- What it is to the bridge. -/
def event : Written → ParserEvent
  | .json value _ => .message value
  | .binary data => .binary data

theorem parserEvents_frame (written : Written) : parserEvents written.frame = [written.event] := by
  cases written with
  | json value plain =>
      have text : (Written.json value plain).frame.kind = frameText := rfl
      unfold parserEvents
      show (match Json.parse (decodeUtf8 (toUtf8 value.marshal)) with
        | some value => [ParserEvent.message value]
        | none => [.failed]) = _
      rw [decodeUtf8_toUtf8, Json.parse_marshal plain]
      rfl
  | binary data => rfl

theorem flatMap_parserEvents (written : List Written) :
    (written.map frame).flatMap parserEvents = written.map event := by
  induction written with
  | nil => rfl
  | cons first rest inductionHypothesis =>
      grind [parserEvents_frame]

end Written

/-- The bytes the agent puts on its output. -/
def writtenStream (written : List Written) : Bytes :=
  (written.map Written.frame).flatMap agentFrames.encode

/-! ### The round trip -/

theorem stdoutPieces_append (first second : List Frame) :
    stdoutPieces (first ++ second) = stdoutPieces first ++ stdoutPieces second := by
  unfold stdoutPieces
  rw [List.filter_append, List.map_append]

/-- Chunk by chunk is the same as demuxing everything first. -/
theorem receiveAll_eq (chunks : List Bytes) : ∀ receiver : Receiver,
    receiver.receiveAll chunks =
      (agentFrames.feedAll receiver.parserPending
        (stdoutPieces (docker.feedAll receiver.demuxPending chunks).1)).1.flatMap parserEvents := by
  induction chunks with
  | nil =>
      intro receiver
      rfl
  | cons chunk rest inductionHypothesis =>
      intro receiver
      rw [Receiver.receiveAll, inductionHypothesis, Format.feedAll]
      rw [stdoutPieces_append, Format.feedAll_append, List.flatMap_append]
      rfl

theorem parsed_front {written : List Written}
    (fit : ∀ each ∈ written, each.frame.payload.length ≤ maxFrameSize) {pieces : List Bytes}
    {future : Bytes} (stream : pieces.flatten ++ future = writtenStream written) :
    ∃ count, (agentFrames.feedAll [] pieces).1 = (written.take count).map Written.frame ∧
      writtenStream (written.take count) <+: pieces.flatten := by
  have framesFit : ∀ frame ∈ written.map Written.frame, agentFrames.Fits frame := by
    intro frame member
    obtain ⟨each, inWritten, rfl⟩ := List.mem_map.mp member
    exact fit each inWritten
  obtain ⟨given, left, split, givenNow, keptNow, _⟩ :=
    Format.feedAll_front pieces (written.map Written.frame) [] future framesFit
      (by rw [List.nil_append]; exact stream)
  have isFront : given = (written.take given.length).map Written.frame := by
    rw [List.map_take, split, List.take_left]
  refine ⟨given.length, givenNow.trans isFront, ?_⟩
  unfold writtenStream at stream ⊢
  rw [← isFront]
  grind [List.append_cancel_right]

/-- After some of the chunks: the frames that were seen are among the agent's first ones, and every
byte of them is in a Docker frame that has arrived as a whole. -/
def SeenWhole (written : List Written) (dockerFrames : List Frame) (early : List Bytes) : Prop :=
  ∃ count arrived rest, dockerFrames = arrived ++ rest ∧
    arrived.flatMap encodeDocker <+: early.flatten ∧
    Receiver.initial.receiveAll early = (written.take count).map Written.event ∧
    writtenStream (written.take count) <+: (stdoutPieces arrived).flatten

theorem seenWhole_early {written : List Written} {dockerFrames : List Frame}
    (fit : ∀ each ∈ written, each.frame.payload.length ≤ maxFrameSize)
    (dockerFit : ∀ frame ∈ dockerFrames, frame.payload.length ≤ maxDemuxPayload)
    (stdout : (stdoutPieces dockerFrames).flatten = writtenStream written) {early late : List Bytes}
    (stream : (early ++ late).flatten = dockerFrames.flatMap encodeDocker) :
    SeenWhole written dockerFrames early := by
  rw [List.flatten_append] at stream
  obtain ⟨arrived, rest, split, arrivedNow, keptNow, _⟩ :=
    @Format.feedAll_front docker early dockerFrames [] late.flatten dockerFit
      (by rw [List.nil_append]; exact stream)
  rw [split, stdoutPieces_append, List.flatten_append] at stdout
  obtain ⟨count, parsed, whole⟩ := parsed_front fit stdout
  refine ⟨count, arrived, rest, split, ?_, ?_, whole⟩
  · have keptDocker : (docker.feedAll [] early).2 ++ late.flatten = rest.flatMap encodeDocker :=
      keptNow
    grind [List.append_cancel_right]
  · rw [receiveAll_eq]
    show List.flatMap parserEvents
      (agentFrames.feedAll [] (stdoutPieces (docker.feedAll [] early).1)).1 = _
    rw [arrivedNow, parsed, Written.flatMap_parserEvents]

/-- The agent's frames, cut into Docker frames that fit and chunked in any way, are seen as they
were written, and none of them before its last byte has arrived. -/
theorem transported {written : List Written} {dockerFrames : List Frame} {chunks : List Bytes}
    (fit : ∀ each ∈ written, each.frame.payload.length ≤ maxFrameSize)
    (dockerFit : ∀ frame ∈ dockerFrames, frame.payload.length ≤ maxDemuxPayload)
    (stdout : (stdoutPieces dockerFrames).flatten = writtenStream written)
    (stream : chunks.flatten = dockerFrames.flatMap encodeDocker) :
    Receiver.initial.receiveAll chunks = written.map Written.event ∧
      ∀ early late, chunks = early ++ late → SeenWhole written dockerFrames early := by
  constructor
  · have demuxed : (docker.feedAll [] chunks).1 = dockerFrames :=
      Format.feedAll_encode dockerFit stream
    have framesFit : ∀ frame ∈ written.map Written.frame, agentFrames.Fits frame := by
      intro frame member
      obtain ⟨each, inWritten, rfl⟩ := List.mem_map.mp member
      exact fit each inWritten
    have parsed : (agentFrames.feedAll [] (stdoutPieces dockerFrames)).1 =
        written.map Written.frame :=
      Format.feedAll_encode framesFit stdout
    rw [receiveAll_eq]
    show List.flatMap parserEvents
      (agentFrames.feedAll [] (stdoutPieces (docker.feedAll [] chunks).1)).1 = _
    rw [demuxed, parsed, Written.flatMap_parserEvents]
  · intro early late split
    rw [split] at stream
    exact seenWhole_early fit dockerFit stdout stream

/-- A value and data, cut inside both headers, with error output between. -/
theorem transported_sample :
    Receiver.initial.receiveAll
        [[1, 0, 0, 0, 0, 0, 0, 7, 2, 0], [0, 0, 2, 9, 8, 2, 0, 0, 0, 0, 0, 0, 1, 65, 1],
          [0, 0, 0, 0, 0, 0, 5, 2, 0, 0, 0, 0]] =
      [Written.binary [9, 8], .binary []].map Written.event := by
  have sample := @transported [.binary [9, 8], .binary []]
    [⟨1, [2, 0, 0, 0, 2, 9, 8]⟩, ⟨2, [65]⟩, ⟨1, [2, 0, 0, 0, 0]⟩]
    [[1, 0, 0, 0, 0, 0, 0, 7, 2, 0], [0, 0, 2, 9, 8, 2, 0, 0, 0, 0, 0, 0, 1, 65, 1],
      [0, 0, 0, 0, 0, 0, 5, 2, 0, 0, 0, 0]]
  refine (sample ?_ ?_ (by decide) (by decide)).1
  · intro each member
    rcases List.mem_cons.mp member with rfl | member
    · decide
    · rw [List.mem_singleton.mp member]
      decide
  · decide

/-- A Docker frame over the limit is not seen at all. -/
theorem receiveAll_oversized {frame : Frame} (large : maxDemuxPayload < frame.payload.length)
    (small : frame.payload.length < 4294967296) :
    Receiver.initial.receiveAll [encodeDocker frame] = [] := by
  have refused := readDocker_encode small []
  rw [List.append_nil, if_neg (by omega)] at refused
  have refusedThere : docker.read (encodeDocker frame) = .oversized := refused
  have drained : docker.drain (encodeDocker frame).length (encodeDocker frame) = ([], []) := by
    apply docker.drain_oversized refusedThere
    rw [encodeDocker_length]
    omega
  have nothing : (docker.feedAll [] [encodeDocker frame]).1 = [] := by
    rw [Format.feedAll, Format.feed, List.nil_append, drained]
    rfl
  rw [receiveAll_eq]
  show List.flatMap parserEvents (agentFrames.feedAll []
    (stdoutPieces (docker.feedAll [] [encodeDocker frame]).1)).1 = []
  rw [nothing]
  rfl

def largestWrite : Written := .binary (List.replicate maxFrameSize 0)

def largestDockerFrame : Frame := ⟨1, encode largestWrite.frame⟩

/-- A Docker frame over the demuxer's limit is dropped with the agent's frame in it. -/
theorem oversized_dropped :
    largestWrite.frame.payload.length ≤ maxFrameSize ∧
      (stdoutPieces [largestDockerFrame]).flatten = writtenStream [largestWrite] ∧
      Receiver.initial.receiveAll [encodeDocker largestDockerFrame] ≠
        [largestWrite].map Written.event := by
  have payload : largestWrite.frame.payload.length = maxFrameSize := List.length_replicate
  have length : largestDockerFrame.payload.length = maxFrameSize + 5 := by
    show (encode largestWrite.frame).length = _
    rw [encode_length, payload]
  refine ⟨by rw [payload], ?_, ?_⟩
  · unfold stdoutPieces writtenStream
    rfl
  · have nothing : Receiver.initial.receiveAll [encodeDocker largestDockerFrame] = [] := by
      apply receiveAll_oversized
      · rw [length]
        unfold maxDemuxPayload maxFrameSize
        omega
      · rw [length]
        unfold maxFrameSize
        omega
    rw [nothing]
    exact (List.cons_ne_nil _ _).symm

end Lombok.Tunnel
