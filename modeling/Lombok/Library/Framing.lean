import Mathlib.Data.List.TakeWhile

/-!
Contract: byte streams cut into frames of a kind byte, a length of four bytes,
most significant first, and a payload.

Owns one frame and its bytes, reading one frame under a size limit, reading a
whole stream, and a parser that is fed the stream in pieces. A stream of frames
that fit is read back frame by frame, however it is cut into pieces; that is
proved once, for every format whose reader sees whether a frame is whole.

Does not own what a payload means.
-/

namespace Lombok.Library.Framing

abbrev Bytes := List UInt8

structure Frame where
  kind : UInt8
  payload : Bytes
deriving DecidableEq

/-! ### One frame -/

def bigEndian (value : Nat) : Bytes :=
  [UInt8.ofNat (value / 16777216), UInt8.ofNat (value / 65536), UInt8.ofNat (value / 256),
    UInt8.ofNat value]

def ofBigEndian (first second third fourth : UInt8) : Nat :=
  first.toNat * 16777216 + second.toNat * 65536 + third.toNat * 256 + fourth.toNat

def encode (frame : Frame) : Bytes :=
  frame.kind :: (bigEndian frame.payload.length ++ frame.payload)

/-- What stands at the front of a stream. -/
inductive Reading where
  | incomplete
  | oversized
  | frame (frame : Frame) (rest : Bytes)

def readFrame (limit : Nat) : Bytes → Reading
  | kind :: first :: second :: third :: fourth :: rest =>
      let length := ofBigEndian first second third fourth
      if limit < length then .oversized
      else if rest.length < length then .incomplete
      else .frame ⟨kind, rest.take length⟩ (rest.drop length)
  | _ => .incomplete

/-- The frame's payload is within the limit. -/
def fits (limit : Nat) (frame : Frame) : Bool := decide (frame.payload.length ≤ limit)

variable {limit : Nat} {frame : Frame}

theorem fits_of_le (within : frame.payload.length ≤ limit) :
    fits limit frame = true :=
  decide_eq_true within

theorem ofBigEndian_bigEndian {value : Nat} (small : value < 4294967296) :
    ofBigEndian (UInt8.ofNat (value / 16777216)) (UInt8.ofNat (value / 65536))
      (UInt8.ofNat (value / 256)) (UInt8.ofNat value) = value := by
  grind [ofBigEndian, UInt8.toNat_ofNat']

theorem encode_length (frame : Frame) : (encode frame).length = frame.payload.length + 5 := by
  simp [encode, bigEndian]

theorem readFrame_encode (small : frame.payload.length < 4294967296) (rest : Bytes) :
    readFrame limit (encode frame ++ rest) =
      if fits limit frame then .frame frame rest else .oversized := by
  unfold encode bigEndian fits
  simp only [List.cons_append, List.nil_append, readFrame]
  rw [ofBigEndian_bigEndian small]
  by_cases within : frame.payload.length ≤ limit
  · simp [if_neg, within]
  · rw [if_pos (by omega), decide_eq_false within]
    rfl

theorem readFrame_shorter {bytes rest : Bytes} (read : readFrame limit bytes = .frame frame rest) :
    rest.length < bytes.length := by
  unfold readFrame at read
  split at read
  · dsimp only at read
    split at read
    · cases read
    split at read
    · cases read
    · grind
  · cases read

/-! ### A whole stream -/

/-- The frames read until the stream ends or holds one that is too large. -/
def readAll (limit : Nat) : Nat → Bytes → List Frame
  | 0, _ => []
  | fuel + 1, bytes =>
      match readFrame limit bytes with
      | .frame frame rest => frame :: readAll limit fuel rest
      | _ => []

def frames (limit : Nat) (bytes : Bytes) : List Frame := readAll limit bytes.length bytes

theorem readAll_encode (sent : List Frame)
    (small : ∀ frame ∈ sent, frame.payload.length < 4294967296) :
    ∀ fuel, (sent.flatMap encode).length ≤ fuel →
      readAll limit fuel (sent.flatMap encode) = sent.takeWhile (fits limit) := by
  induction sent with
  | nil =>
      intro fuel _
      cases fuel with
      | zero => rfl
      | succ fuel => rfl
  | cons frame tail inductionHypothesis =>
      intro fuel enough
      rw [List.flatMap_cons, List.length_append, encode_length] at enough
      obtain ⟨smaller, rfl⟩ : ∃ smaller, fuel = smaller + 1 := ⟨fuel - 1, by omega⟩
      rw [readAll, List.flatMap_cons, readFrame_encode (small frame List.mem_cons_self),
        List.takeWhile_cons]
      grind

/-- What was encoded is read back, up to the first frame that is too large. -/
theorem frames_encode {sent : List Frame}
    (small : ∀ frame ∈ sent, frame.payload.length < 4294967296) :
    frames limit (sent.flatMap encode) = sent.takeWhile (fits limit) :=
  readAll_encode sent small _ (Nat.le_refl _)

/-! ### Formats -/

/-- A way to write frames such that the front of a stream shows whether its first frame is whole.
`Fits` says which frames a reader takes. -/
structure Format where
  encode : Frame → Bytes
  read : Bytes → Reading
  Fits : Frame → Prop
  encode_ne_nil : ∀ frame, encode frame ≠ []
  read_shorter : ∀ {bytes frame rest}, read bytes = .frame frame rest → rest.length < bytes.length
  read_encode : ∀ {frame}, Fits frame → ∀ rest, read (encode frame ++ rest) = .frame frame rest
  read_front : ∀ {frame}, Fits frame → ∀ {front future rest}, front ++
      future = encode frame ++ rest →
    read front = .incomplete ∨ ∃ kept, read front = .frame frame kept ∧ kept ++ future = rest

namespace Format

variable (format : Format)

/-- What one feed gives: the frames that are complete, and what is kept for the next feed. A frame
that is refused drops everything that is pending. -/
def drain : Nat → Bytes → List Frame × Bytes
  | 0, pending => ([], pending)
  | fuel + 1, pending =>
      match format.read pending with
      | .frame frame rest => (frame :: (drain fuel rest).1, (drain fuel rest).2)
      | .incomplete => ([], pending)
      | .oversized => ([], [])

def feed (pending piece : Bytes) : List Frame × Bytes :=
  format.drain (pending ++ piece).length (pending ++ piece)

/-- The frames given for several pieces, and what is kept in the end. -/
def feedAll : Bytes → List Bytes → List Frame × Bytes
  | pending, [] => ([], pending)
  | pending, piece :: pieces =>
      let fed := format.feed pending piece
      (fed.1 ++ (feedAll fed.2 pieces).1, (feedAll fed.2 pieces).2)

/-- A refused frame at the front drops everything. -/
theorem drain_oversized {pending : Bytes} (refused : format.read pending = .oversized) {fuel : Nat}
    (positive : 0 < fuel) : format.drain fuel pending = ([], []) := by
  obtain ⟨smaller, rfl⟩ : ∃ smaller, fuel = smaller + 1 := ⟨fuel - 1, by omega⟩
  rw [drain, refused]

theorem feedAll_append (first second : List Bytes) :
    ∀ pending, format.feedAll pending (first ++ second) =
      ((format.feedAll pending first).1 ++
          (format.feedAll (format.feedAll pending first).2 second).1,
        (format.feedAll (format.feedAll pending first).2 second).2) := by
  induction first with
  | nil =>
      intro pending
      rfl
  | cons piece rest inductionHypothesis =>
      intro pending
      rw [List.cons_append, feedAll, inductionHypothesis, feedAll]
      rw [List.append_assoc]

variable {format}

/-- Draining gives the frames that are complete and keeps what belongs to the rest. -/
theorem drain_front (sent : List Frame) (fit : ∀ frame ∈ sent, format.Fits frame) :
    ∀ (fuel : Nat) (front future : Bytes), front.length ≤ fuel →
      front ++ future = sent.flatMap format.encode →
        ∃ given left, sent = given ++ left ∧ (format.drain fuel front).1 = given ∧
          (format.drain fuel front).2 ++ future = left.flatMap format.encode ∧
          (future = [] → left = []) := by
  induction sent with
  | nil =>
      intro fuel front future _ stream
      obtain ⟨rfl, rfl⟩ := List.append_eq_nil_iff.mp stream
      have nothing : format.drain fuel [] = ([], []) := by
        cases fuel with
        | zero => rfl
        | succ fuel =>
            rw [drain]
            cases read : format.read [] with
            | frame frame rest =>
                have shorter := format.read_shorter read
                rw [List.length_nil] at shorter
                omega
            | incomplete => rfl
            | oversized => rfl
      rw [nothing]
      exact ⟨[], [], rfl, rfl, rfl, fun _ => rfl⟩
  | cons frame tail inductionHypothesis =>
      intro fuel front future enough stream
      rw [List.flatMap_cons] at stream
      have fitsHere := fit frame List.mem_cons_self
      rcases format.read_front fitsHere stream with waits | ⟨kept, read, tailStream⟩
      · have nothing : format.drain fuel front = ([], front) := by
          cases fuel with
          | zero => rfl
          | succ fuel => rw [drain, waits]
        rw [nothing]
        refine ⟨[], frame :: tail, rfl, rfl, by rw [List.flatMap_cons]; exact stream, ?_⟩
        intro ended
        rw [ended, List.append_nil] at stream
        rw [stream, format.read_encode fitsHere] at waits
        cases waits
      · have shorter := format.read_shorter read
        obtain ⟨smaller, rfl⟩ : ∃ smaller, fuel = smaller + 1 := ⟨fuel - 1, by omega⟩
        obtain ⟨given, left, split, givenNow, keptNow, ended⟩ := inductionHypothesis
          (fun other member => fit other (List.mem_cons_of_mem _ member)) smaller kept future
          (by omega) tailStream
        have drained : format.drain (smaller + 1) front =
            (frame :: (format.drain smaller kept).1, (format.drain smaller kept).2) := by
          rw [drain, read]
        grind

/-- The pieces of the front of a stream give its first frames, and nothing is lost. -/
theorem feedAll_front (pieces : List Bytes) :
    ∀ (sent : List Frame) (pending future : Bytes), (∀ frame ∈ sent, format.Fits frame) →
      pending ++ pieces.flatten ++ future = sent.flatMap format.encode →
        ∃ given left, sent = given ++ left ∧ (format.feedAll pending pieces).1 = given ∧
          (format.feedAll pending pieces).2 ++ future = left.flatMap format.encode ∧
          (pieces ≠ [] → future = [] → left = []) := by
  induction pieces with
  | nil =>
      intro sent pending future _ stream
      rw [List.flatten_nil, List.append_nil] at stream
      exact ⟨[], sent, rfl, rfl, stream, fun nonempty => absurd rfl nonempty⟩
  | cons piece tail inductionHypothesis =>
      intro sent pending future fit stream
      rw [List.flatten_cons, ← List.append_assoc, List.append_assoc] at stream
      obtain ⟨given, left, split, givenNow, keptNow, ended⟩ :=
        drain_front sent fit _ _ _ (Nat.le_refl _) stream
      have leftFit : ∀ frame ∈ left, format.Fits frame := by
        grind
      rw [← List.append_assoc] at keptNow
      obtain ⟨later, rest, leftSplit, laterNow, restNow, restEnded⟩ :=
        inductionHypothesis left _ future leftFit keptNow
      refine ⟨given ++ later, rest, by rw [split, leftSplit, List.append_assoc], ?_, restNow, ?_⟩
      · exact congrArg₂ (· ++ ·) givenNow laterNow
      · intro _ noFuture
        by_cases last : tail = []
        · have allGiven := ended (by rw [last, noFuture]; rfl)
          rw [allGiven] at leftSplit
          exact (List.append_eq_nil_iff.mp leftSplit.symm).2
        · exact restEnded last noFuture

/-- A stream of frames that fit is read frame by frame, however it is cut. -/
theorem feedAll_encode {sent : List Frame} {pieces : List Bytes}
    (fit : ∀ frame ∈ sent, format.Fits frame) (stream : pieces.flatten = sent.flatMap
        format.encode) :
    (format.feedAll [] pieces).1 = sent := by
  obtain ⟨given, left, split, givenNow, keptNow, ended⟩ := feedAll_front pieces sent [] [] fit
    (by rw [List.nil_append, List.append_nil]; exact stream)
  by_cases none : pieces = []
  · rw [none, List.flatten_nil] at stream
    cases sent with
    | nil =>
        rw [none]
        rfl
    | cons frame tail =>
        exact absurd (List.append_eq_nil_iff.mp stream.symm).1 (format.encode_ne_nil frame)
  · rw [split, ended none rfl, List.append_nil, givenNow]

end Format

/-! ### A stream fed in pieces -/

/-- The front of a stream that goes on is a whole frame, or does not hold one yet. -/
theorem readFrame_prefix {limit : Nat} (limited : limit < 4294967296) {front future : Bytes}
    {frame : Frame} {rest : Bytes} (within : frame.payload.length ≤ limit)
    (stream : front ++ future = encode frame ++ rest) :
    readFrame limit front = .incomplete ∨
      ∃ kept, readFrame limit front = .frame frame kept ∧ kept ++ future = rest := by
  rcases List.append_eq_append_iff.mp stream with ⟨missing, whole, _⟩ | ⟨kept, whole, sameRest⟩
  · by_cases complete : missing = []
    · subst complete
      rw [List.append_nil] at whole
      apply Or.inr
      have read := @readFrame_encode limit frame (by omega) []
      rw [List.append_nil, whole, if_pos (fits_of_le within)] at read
      exact ⟨[], read, by simpa [whole] using stream⟩
    · apply Or.inl
      have shorter : front.length < frame.payload.length + 5 := by
        have lengths := congrArg List.length whole
        rw [encode_length, List.length_append] at lengths
        have positive := List.length_pos_iff.mpr complete
        omega
      unfold readFrame
      split
      · rw [encode, bigEndian] at whole
        simp only [List.cons_append, List.nil_append, List.cons.injEq] at whole
        obtain ⟨_, rfl, rfl, rfl, rfl, sameTail⟩ := whole
        simp only [List.length_cons] at shorter
        rw [ofBigEndian_bigEndian (by omega), if_neg (by omega), if_pos (by omega)]
      · rfl
  · apply Or.inr
    have read := @readFrame_encode limit frame (by omega) kept
    rw [if_pos (fits_of_le within), ← whole] at read
    exact ⟨kept, read, sameRest.symm⟩

def framed (limit : Nat) (limited : limit < 4294967296) : Format where
  encode := encode
  read := readFrame limit
  Fits frame := frame.payload.length ≤ limit
  encode_ne_nil _ := List.cons_ne_nil _ _
  read_shorter := readFrame_shorter
  read_encode within rest := by
    rw [readFrame_encode (by omega), if_pos (fits_of_le within)]
  read_front within := readFrame_prefix limited within

end Lombok.Library.Framing
