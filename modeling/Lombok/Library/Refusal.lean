import Lombok.Library.Framing

/-!
Contract: parsers that are fed a stream in pieces and report what they refuse,
then drop what is pending and go on with the next piece.

Owns such a parser, what it reports of a stream that is cut into pieces, and
exactly when that is what it reports of the stream in one piece: nothing is
refused, or nothing worth a report stands in the pieces behind the refusal.

Does not own how the front of a stream is read, nor what is reported of a frame.
-/

namespace Lombok.Library.Framing

/-! ### What stands in a stream -/

/-- Behind whole frames stands one that is refused. -/
inductive Refused (read : Bytes → Reading) : Bytes → Prop where
  | here {bytes : Bytes} (refused : read bytes = .oversized) : Refused read bytes
  | later {bytes rest : Bytes} {frame : Frame} (whole : read bytes = .frame frame rest)
      (refused : Refused read rest) : Refused read bytes

/-- Whole frames that are passed over, and then less than a frame. -/
inductive Quiet (read : Bytes → Reading) (passedOver : Frame → Prop) : Bytes → Prop where
  | waits {bytes : Bytes} (incomplete : read bytes = .incomplete) : Quiet read passedOver bytes
  | passed {bytes rest : Bytes} {frame : Frame} (whole : read bytes = .frame frame rest)
      (passes : passedOver frame) (quiet : Quiet read passedOver rest) : Quiet read passedOver bytes

def QuietAfterRefusal (read : Bytes → Reading) (passedOver : Frame → Prop) (pending : Bytes)
    (pieces : List Bytes) : Prop :=
  ∀ before piece after, pieces = before ++ piece :: after →
    ¬Refused read (pending ++ before.flatten) →
      Refused read (pending ++ (before ++ [piece]).flatten) →
        Quiet read passedOver after.flatten

theorem Quiet.accepted {read : Bytes → Reading} {passedOver : Frame → Prop} {bytes : Bytes}
    (quiet : Quiet read passedOver bytes) : ¬Refused read bytes := by
  intro refused
  induction quiet with
  | waits incomplete =>
      cases refused with
      | here front => simp [incomplete] at front
      | later whole _ => simp [incomplete] at whole
  | passed whole _ _ inductionHypothesis =>
      cases refused with
      | here front => simp [whole] at front
      | later again refused =>
          rw [whole] at again
          cases again
          exact inductionHypothesis refused

theorem not_refused_of_incomplete {read : Bytes → Reading} {bytes : Bytes}
    (incomplete : read bytes = .incomplete) : ¬Refused read bytes :=
  (@Quiet.waits read (fun _ => True) bytes incomplete).accepted

/-! ### The parser -/

/-- What is reported of a frame, and of a front that is refused. Bytes behind what was read change
nothing about it. -/
structure Reporter (Report : Type) where
  read : Bytes → Reading
  ofFrame : Frame → List Report
  ofRefused : Bytes → Report
  read_nil : read [] = .incomplete
  read_shorter : ∀ {bytes frame rest}, read bytes = .frame frame rest → rest.length < bytes.length
  read_append : ∀ {bytes frame rest}, read bytes = .frame frame rest →
    ∀ more, read (bytes ++ more) = .frame frame (rest ++ more)
  refused_append : ∀ {bytes}, read bytes = .oversized →
    ∀ more, read (bytes ++ more) = .oversized ∧ ofRefused (bytes ++ more) = ofRefused bytes

namespace Reporter

variable {Report : Type} (reporter : Reporter Report)

def drain : Nat → Bytes → List Report × Bytes
  | 0, pending => ([], pending)
  | fuel + 1, pending =>
      match reporter.read pending with
      | .frame frame rest => (reporter.ofFrame frame ++ (drain fuel rest).1, (drain fuel rest).2)
      | .incomplete => ([], pending)
      | .oversized => ([reporter.ofRefused pending], [])

/-- What one piece gives: the reports, and what is kept for the next piece. -/
def feed (pending piece : Bytes) : List Report × Bytes :=
  reporter.drain (pending ++ piece).length (pending ++ piece)

def feedAll : Bytes → List Bytes → List Report
  | _, [] => []
  | pending, piece :: pieces =>
      (reporter.feed pending piece).1 ++ feedAll (reporter.feed pending piece).2 pieces

/-- The reports of a stream, and what is left of it. -/
inductive Drains : Bytes → List Report → Bytes → Prop where
  | waits {bytes : Bytes} (incomplete : reporter.read bytes = .incomplete) : Drains bytes [] bytes
  | refused {bytes : Bytes} (refused : reporter.read bytes = .oversized) :
      Drains bytes [reporter.ofRefused bytes] []
  | frame {bytes rest kept : Bytes} {frame : Frame} {reports : List Report}
      (whole : reporter.read bytes = .frame frame rest) (drains : Drains rest reports kept) :
      Drains bytes (reporter.ofFrame frame ++ reports) kept

variable {reporter}

theorem drains_drain : ∀ (fuel : Nat) (bytes : Bytes), bytes.length ≤ fuel →
    reporter.Drains bytes (reporter.drain fuel bytes).1 (reporter.drain fuel bytes).2 := by
  intro fuel
  induction fuel with
  | zero =>
      intro bytes enough
      rw [List.eq_nil_of_length_eq_zero (Nat.le_zero.mp enough)]
      exact .waits reporter.read_nil
  | succ fuel inductionHypothesis =>
      intro bytes enough
      rw [drain]
      cases front : reporter.read bytes with
      | incomplete => exact .waits front
      | oversized => exact .refused front
      | frame frame rest =>
          have shorter := reporter.read_shorter front
          exact .frame front (inductionHypothesis rest (by omega))

theorem drains_feed (pending piece : Bytes) :
    reporter.Drains (pending ++ piece) (reporter.feed pending piece).1
      (reporter.feed pending piece).2 :=
  drains_drain _ _ (Nat.le_refl _)

namespace Drains

variable {bytes kept kept' : Bytes} {reports reports' : List Report}

/-- A stream has one reading. -/
theorem unique (drains : reporter.Drains bytes reports kept) :
    reporter.Drains bytes reports' kept' → reports = reports' ∧ kept = kept' := by
  intro other
  induction drains generalizing reports' kept' with
  | waits incomplete =>
      cases other with
      | waits _ => exact ⟨rfl, rfl⟩
      | refused refused => simp [incomplete] at refused
      | frame whole _ => simp [incomplete] at whole
  | refused refused =>
      cases other with
      | waits incomplete => simp [refused] at incomplete
      | refused _ => exact ⟨rfl, rfl⟩
      | frame whole _ => simp [refused] at whole
  | frame whole _ inductionHypothesis =>
      cases other with
      | waits incomplete => simp [whole] at incomplete
      | refused refused => simp [whole] at refused
      | frame again drainsAgain =>
          grind

/-- What is kept without a refusal is less than a frame. -/
theorem kept_incomplete (drains : reporter.Drains bytes reports kept)
    (accepted : ¬Refused reporter.read bytes) : reporter.read kept = .incomplete := by
  induction drains with
  | waits incomplete => exact incomplete
  | refused refused => exact absurd (.here refused) accepted
  | frame whole _ inductionHypothesis =>
      exact inductionHypothesis fun refused => accepted (.later whole refused)

/-- Without a refusal the bytes that follow are read behind what was kept. -/
theorem append (drains : reporter.Drains bytes reports kept)
    (accepted : ¬Refused reporter.read bytes) {more left : Bytes} {later : List Report}
    (goesOn : reporter.Drains (kept ++ more) later left) :
    reporter.Drains (bytes ++ more) (reports ++ later) left := by
  induction drains with
  | waits _ => exact goesOn
  | refused refused => exact absurd (.here refused) accepted
  | frame whole _ inductionHypothesis =>
      rw [List.append_assoc]
      exact .frame (reporter.read_append whole more)
        (inductionHypothesis (fun refused => accepted (.later whole refused)) goesOn)

/-- A refusal hides the bytes that follow. -/
theorem append_of_refused (drains : reporter.Drains bytes reports kept)
    (refused : Refused reporter.read bytes) (more : Bytes) :
    kept = [] ∧ reporter.Drains (bytes ++ more) reports [] := by
  induction drains with
  | waits incomplete =>
      cases refused with
      | here front => simp [incomplete] at front
      | later whole _ => simp [incomplete] at whole
  | refused front =>
      obtain ⟨still, same⟩ := reporter.refused_append front more
      rw [← same]
      exact ⟨rfl, .refused still⟩
  | frame whole _ inductionHypothesis =>
      cases refused with
      | here front => simp [whole] at front
      | later again refused =>
          rw [whole] at again
          cases again
          obtain ⟨nothing, drains⟩ := inductionHypothesis refused
          exact ⟨nothing, .frame (reporter.read_append whole more) drains⟩

theorem refused_append_iff (drains : reporter.Drains bytes reports kept)
    (accepted : ¬Refused reporter.read bytes) (more : Bytes) :
    Refused reporter.read (bytes ++ more) ↔ Refused reporter.read (kept ++ more) := by
  induction drains with
  | waits _ => rfl
  | refused refused => exact absurd (.here refused) accepted
  | frame whole _ inductionHypothesis =>
      rw [← inductionHypothesis fun refused => accepted (.later whole refused)]
      have longer := reporter.read_append whole more
      constructor
      · intro refused
        cases refused with
        | here front => simp [longer] at front
        | later again refused =>
            rw [longer] at again
            cases again
            exact refused
      · exact .later longer

end Drains

theorem refused_of_append {bytes : Bytes} (refused : Refused reporter.read bytes) (more : Bytes) :
    Refused reporter.read (bytes ++ more) := by
  induction refused with
  | here front => exact .here (reporter.refused_append front more).1
  | later whole _ inductionHypothesis =>
      exact .later (reporter.read_append whole more) inductionHypothesis

/-! ### Pieces -/

/-- The frames of which nothing is reported. -/
def PassesOver (reporter : Reporter Report) (frame : Frame) : Prop := reporter.ofFrame frame = []

theorem Drains.nil_iff {bytes kept : Bytes} {reports : List Report}
    (drains : reporter.Drains bytes reports kept) :
    reports = [] ↔ Quiet reporter.read reporter.PassesOver bytes := by
  induction drains with
  | waits incomplete => exact ⟨fun _ => .waits incomplete, fun _ => rfl⟩
  | refused refused =>
      constructor
      · nofun
      · intro quiet
        cases quiet with
        | waits incomplete => simp [refused] at incomplete
        | passed whole _ _ => simp [refused] at whole
  | frame whole _ inductionHypothesis =>
      rw [List.append_eq_nil_iff, inductionHypothesis]
      constructor
      · intro ⟨nothing, quiet⟩
        exact .passed whole nothing quiet
      · intro quiet
        cases quiet with
        | waits incomplete => simp [whole] at incomplete
        | passed again passes quiet =>
            rw [whole] at again
            cases again
            exact ⟨passes, quiet⟩

/-- Nothing is reported of the pieces when nothing is reported of the stream. -/
theorem feedAll_nil_iff (pieces : List Bytes) : ∀ pending, reporter.read pending = .incomplete →
    (reporter.feedAll pending pieces = [] ↔
      Quiet reporter.read reporter.PassesOver (pending ++ pieces.flatten)) := by
  induction pieces with
  | nil =>
      intro pending incomplete
      rw [List.flatten_nil, List.append_nil]
      exact ⟨fun _ => .waits incomplete, fun _ => rfl⟩
  | cons piece tail inductionHypothesis =>
      intro pending incomplete
      have fed := reporter.drains_feed pending piece
      rw [feedAll, List.append_eq_nil_iff, List.flatten_cons, ← List.append_assoc]
      by_cases refused : Refused reporter.read (pending ++ piece)
      · constructor
        · intro ⟨nothing, _⟩
          exact absurd refused (fed.nil_iff.mp nothing).accepted
        · intro quiet
          exact absurd (refused_of_append refused tail.flatten) quiet.accepted
      · have later := reporter.drains_feed (reporter.feed pending piece).2 tail.flatten
        rw [inductionHypothesis _ (fed.kept_incomplete refused), ← later.nil_iff,
          ← (fed.append refused later).nil_iff, List.append_eq_nil_iff]

theorem quietAfterRefusal_cons_of_refused {passedOver : Frame → Prop} {pending piece : Bytes}
    {tail : List Bytes} (incomplete : reporter.read pending = .incomplete)
    (refused : Refused reporter.read (pending ++ piece)) :
    QuietAfterRefusal reporter.read passedOver pending (piece :: tail) ↔
      Quiet reporter.read passedOver tail.flatten := by
  constructor
  · intro quiet
    apply quiet [] piece tail rfl
    · rw [List.flatten_nil, List.append_nil]
      exact not_refused_of_incomplete incomplete
    · rw [List.nil_append, List.flatten_cons, List.flatten_nil, List.append_nil]
      exact refused
  · intro quiet before current after split accepted _
    cases before with
    | nil =>
        rw [List.nil_append, List.cons.injEq] at split
        rw [← split.2]
        exact quiet
    | cons first rest =>
        grind [refused_of_append]

theorem Drains.quietAfterRefusal_cons {passedOver : Frame → Prop} {pending piece kept : Bytes}
    {reports : List Report} {tail : List Bytes}
    (fed : reporter.Drains (pending ++ piece) reports kept)
    (accepted : ¬Refused reporter.read (pending ++ piece)) :
    QuietAfterRefusal reporter.read passedOver kept tail ↔
      QuietAfterRefusal reporter.read passedOver pending (piece :: tail) := by
  have moved : ∀ before : List Bytes, Refused reporter.read (pending ++ (piece :: before).flatten) ↔
      Refused reporter.read (kept ++ before.flatten) := by
    grind [fed.refused_append_iff]
  constructor
  · intro quiet before current after split acceptedBefore refused
    cases before with
    | nil =>
        grind
    | cons first rest =>
        rw [List.cons_append, List.cons.injEq] at split
        rw [← split.1] at acceptedBefore refused
        exact quiet rest current after split.2 (mt (moved rest).mpr acceptedBefore)
          ((moved (rest ++ [current])).mp refused)
  · intro quiet before current after split acceptedBefore refused
    exact quiet (piece :: before) current after (by rw [split]; rfl)
      (mt (moved before).mp acceptedBefore) ((moved (before ++ [current])).mpr refused)

/-- The reports of the pieces are those of the stream exactly when what follows a refusal is
quiet. -/
theorem feedAll_eq_iff (pieces : List Bytes) :
    ∀ pending, reporter.read pending = .incomplete → ∀ {reports kept},
      reporter.Drains (pending ++ pieces.flatten) reports kept →
        (reporter.feedAll pending pieces = reports ↔
          QuietAfterRefusal reporter.read reporter.PassesOver pending pieces) := by
  induction pieces with
  | nil =>
      intro pending incomplete reports kept whole
      rw [List.flatten_nil, List.append_nil] at whole
      obtain ⟨rfl, _⟩ := whole.unique (.waits incomplete)
      refine ⟨fun _ before piece after split => ?_, fun _ => rfl⟩
      have lengths := congrArg List.length split
      simp at lengths
  | cons piece tail inductionHypothesis =>
      intro pending incomplete reports kept whole
      have fed := reporter.drains_feed pending piece
      rw [List.flatten_cons, ← List.append_assoc] at whole
      rw [feedAll]
      by_cases refused : Refused reporter.read (pending ++ piece)
      · obtain ⟨nothing, sameWhole⟩ := fed.append_of_refused refused tail.flatten
        grind [List.append_right_eq_self, feedAll_nil_iff, quietAfterRefusal_cons_of_refused,
          whole.unique, reporter.read_nil]
      · have later := reporter.drains_feed (reporter.feed pending piece).2 tail.flatten
        obtain ⟨rfl, _⟩ := whole.unique (fed.append refused later)
        grind [List.append_cancel_left_eq, fed.kept_incomplete, fed.quietAfterRefusal_cons]

end Reporter

/-! ### Frames with a length of four bytes -/

theorem readFrame_append {limit : Nat} {bytes rest : Bytes} {frame : Frame}
    (read : readFrame limit bytes = .frame frame rest) (more : Bytes) :
    readFrame limit (bytes ++ more) = .frame frame (rest ++ more) := by
  unfold readFrame at read
  split at read
  · rename_i kind first second third fourth tail
    by_cases large : limit < ofBigEndian first second third fourth
    · rw [if_pos large] at read
      cases read
    rw [if_neg large] at read
    by_cases short : tail.length < ofBigEndian first second third fourth
    · rw [if_pos short] at read
      cases read
    rw [if_neg short] at read
    cases read
    simp only [List.cons_append, readFrame]
    rw [if_neg large, if_neg (by rw [List.length_append]; omega),
      List.take_append_of_le_length (by omega), List.drop_append_of_le_length (by omega)]
  · cases read

theorem readFrame_oversized_append {limit : Nat} {bytes : Bytes}
    (read : readFrame limit bytes = .oversized) (more : Bytes) :
    readFrame limit (bytes ++ more) = .oversized ∧
      ∃ kind first second third fourth tail,
        bytes = kind :: first :: second :: third :: fourth :: tail := by
  unfold readFrame at read
  split at read
  · rename_i kind first second third fourth tail
    by_cases large : limit < ofBigEndian first second third fourth
    · simp only [List.cons_append, readFrame]
      rw [if_pos large]
      exact ⟨rfl, kind, first, second, third, fourth, tail, rfl⟩
    · rw [if_neg large] at read
      split at read
      · cases read
      · cases read
  · cases read

end Lombok.Library.Framing
