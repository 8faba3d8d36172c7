import Lombok.Library.Run

/-!
Contract: writers of frames that come in pairs, and a reader that pairs them by
position.

A frame may announce that the next frame is its payload. Several operations
write their frames to one wire, one write at a time and in any order between
them. When no operation writes while another is between an announcement and its
payload, the reader delivers each finished operation with its own payload.

Does not own what frames are, or which order the writes take.
-/

namespace Lombok.Library.Paired

section Reading

variable {F D : Type}

/-- How a reader takes one frame. -/
structure Reader (F D : Type) where
  /-- The delivery an announcement is completed to by the next frame. -/
  announces : F → Option (F → D)
  /-- The deliveries of a frame that announces nothing. -/
  single : F → List D
  isPayload : F → Bool

variable (reader : Reader F D)

def read : List F → List D
  | [] => []
  | frame :: rest =>
      match reader.announces frame with
      | none => reader.single frame ++ read rest
      | some complete =>
          match rest with
          | [] => []
          | body :: rest => complete body :: read rest

variable {reader}

theorem read_single {frame : F} (silent : reader.announces frame = none) (rest : List F) :
    read reader (frame :: rest) = reader.single frame ++ read reader rest := by
  rw [read.eq_def]
  dsimp only
  rw [silent]

theorem read_pair {frame : F} {complete : F → D} (announced : reader.announces frame =
    some complete)
    (body : F) (rest : List F) :
    read reader (frame :: body :: rest) = complete body :: read reader rest := by
  rw [read.eq_def]
  dsimp only
  rw [announced]

theorem read_waiting {frame : F} {complete : F → D}
    (announced : reader.announces frame = some complete) : read reader [frame] = [] := by
  rw [read.eq_def]
  dsimp only
  rw [announced]

variable (reader)

/-- Every announcement is directly followed by a payload of the operation that announced it. -/
def OwnPairs : List (Nat × F) → Prop
  | [] => True
  | entry :: rest =>
      ((reader.announces entry.2).isSome = true →
        ∀ next ∈ rest.head?, next.1 = entry.1 ∧ reader.isPayload next.2 = true) ∧ OwnPairs rest

/-- The frames are one that announces nothing, or an announcement and its payload, and they stand
for the delivery. -/
inductive Shaped (delivery : D) : List F → Prop where
  | single (frame : F) (silent : reader.announces frame = none)
      (delivers : reader.single frame = [delivery]) : Shaped delivery [frame]
  | pair (frame body : F) (complete : F → D) (announced : reader.announces frame = some complete)
      (payload : reader.isPayload body = true) (silent : reader.announces body = none)
      (delivers : complete body = delivery) : Shaped delivery [frame, body]

end Reading

/-! ### Operations on one wire -/

section Writing

variable {O F D : Type}

/-- An operation and the frames it has yet to write. -/
structure Writing (O F : Type) where
  operation : O
  remaining : List F

structure State (O F : Type) where
  running : List (Writing O F)
  wire : List (Nat × F)
  finished : List O

inductive Input (O : Type) where
  | start (operation : O)
  | write (index : Nat)

def State.initial : State O F := ⟨[], [], []⟩

variable (framesOf : O → List F)

/-- Start an operation, or make the next write of one. An operation is finished by its
last write. -/
def step (state : State O F) : Input O → State O F
  | .start operation =>
      { state with running := state.running ++ [⟨operation, framesOf operation⟩] }
  | .write index =>
      match state.running[index]? with
      | some ⟨operation, frame :: rest⟩ =>
          { running := state.running.set index ⟨operation, rest⟩
            wire := state.wire ++ [(index, frame)]
            finished := if rest.isEmpty then state.finished ++ [operation] else state.finished }
      | _ => state

/-- The operation has written some of its frames but not all. -/
def Midway (writing : Writing O F) : Prop :=
  writing.remaining ≠ [] ∧ writing.remaining ≠ framesOf writing.operation

variable (reader : Reader F D) (delivery : O → D)

/-- Operations are of the right shape, and none writes while another is midway. -/
def Exclusive (state : State O F) : Input O → Prop
  | .start operation => Shaped reader (delivery operation) (framesOf operation)
  | .write index =>
      ∀ (other : Nat) (writing : Writing O F), other ≠ index →
        state.running[other]? = some writing → ¬Midway framesOf writing

/-- A wire that holds whole operations, in the order they finished. -/
inductive Whole : List (Nat × F) → List O → Prop where
  | nil : Whole [] []
  | single {wire : List (Nat × F)} {finished : List O} (index : Nat) (operation : O) (frame : F)
      (silent : reader.announces frame = none)
      (delivers : reader.single frame = [delivery operation]) (rest : Whole wire finished) :
      Whole ((index, frame) :: wire) (operation :: finished)
  | pair {wire : List (Nat × F)} {finished : List O} (index : Nat) (operation : O)
      (frame body : F) (complete : F → D) (announced : reader.announces frame = some complete)
      (payload : reader.isPayload body = true) (silent : reader.announces body = none)
      (delivers : complete body = delivery operation) (rest : Whole wire finished) :
      Whole ((index, frame) :: (index, body) :: wire) (operation :: finished)

variable {reader delivery}

theorem Whole.append {wire more : List (Nat × F)} {finished others : List O}
    (first : Whole reader delivery wire finished) (second : Whole reader delivery more others) :
    Whole reader delivery (wire ++ more) (finished ++ others) := by
  induction first with
  | nil => exact second
  | single index operation frame silent delivers _ inductionHypothesis =>
      exact .single index operation frame silent delivers inductionHypothesis
  | pair index operation frame body complete announced payload silent delivers _
      inductionHypothesis =>
      exact .pair index operation frame body complete announced payload silent delivers
        inductionHypothesis

theorem Whole.read {wire : List (Nat × F)} {finished : List O}
    (whole : Whole reader delivery wire finished) (rest : List F) :
    read reader (wire.map Prod.snd ++ rest) = finished.map delivery ++ read reader rest := by
  induction whole with
  | nil => rfl
  | single index operation frame silent delivers _ inductionHypothesis =>
      grind [read_single]
  | pair index operation frame body complete announced _ _ delivers _ inductionHypothesis =>
      grind [read_pair]

theorem Whole.ownPairs {wire : List (Nat × F)} {finished : List O}
    (whole : Whole reader delivery wire finished) {rest : List (Nat × F)}
    (paired : OwnPairs reader rest) : OwnPairs reader (wire ++ rest) := by
  induction whole with
  | nil => exact paired
  | single index operation frame silent _ _ inductionHypothesis =>
      apply And.intro _ inductionHypothesis
      simp [silent]
  | pair index operation frame body complete _ payload silent _ _ inductionHypothesis =>
      refine ⟨?_, ?_, inductionHypothesis⟩
      · simp [payload]
      · simp [silent]

variable (reader delivery)

/-- What every exclusive run keeps: at most the last frame of the wire waits for its payload, and
the operation that wrote it is the only one midway. -/
inductive Tidy (state : State O F) : Prop where
  | settled (whole : Whole reader delivery state.wire state.finished)
      (idle : ∀ (index : Nat) (writing : Writing O F), state.running[index]? = some writing →
        ¬Midway framesOf writing)
  | waiting (wire : List (Nat × F)) (index : Nat) (operation : O) (frame body : F)
      (complete : F → D) (begun : framesOf operation = [frame, body])
      (written : state.wire = wire ++ [(index, frame)])
      (whole : Whole reader delivery wire state.finished)
      (announced : reader.announces frame = some complete)
      (payload : reader.isPayload body = true) (silent : reader.announces body = none)
      (delivers : complete body = delivery operation)
      (midway : state.running[index]? = some ⟨operation, [body]⟩)
      (idle : ∀ (other : Nat) (writing : Writing O F), other ≠ index →
        state.running[other]? = some writing → ¬Midway framesOf writing)

/-- Every operation that was started is of the right shape. -/
def AllShaped (state : State O F) : Prop :=
  ∀ (index : Nat) (writing : Writing O F), state.running[index]? = some writing →
    Shaped reader (delivery writing.operation) (framesOf writing.operation)

variable {reader delivery framesOf}

theorem read_of_tidy {state : State O F} (tidy : Tidy framesOf reader delivery state) :
    read reader (state.wire.map Prod.snd) = state.finished.map delivery := by
  cases tidy with
  | settled whole _ =>
      have all := whole.read []
      grind [read]
  | waiting wire index operation frame body complete begun written whole announced _ _ _ _ _ =>
      simp [read_waiting, whole.read, written, announced]

theorem ownPairs_of_tidy {state : State O F} (tidy : Tidy framesOf reader delivery state) :
    OwnPairs reader state.wire := by
  cases tidy with
  | settled whole _ =>
      have all := @Whole.ownPairs _ _ _ _ _ _ _ whole [] trivial
      rw [List.append_nil] at all
      exact all
  | waiting wire index operation frame body complete begun written whole _ _ _ _ _ _ =>
      rw [written]
      apply whole.ownPairs
      apply And.intro _ trivial
      nofun

/-! ### One step -/

theorem step_write {state : State O F} {index : Nat} {operation : O} {frame : F} {rest : List F}
    (now : state.running[index]? = some ⟨operation, frame :: rest⟩) :
    step framesOf state (.write index) =
      { running := state.running.set index ⟨operation, rest⟩
        wire := state.wire ++ [(index, frame)]
        finished := if rest.isEmpty then state.finished ++ [operation] else state.finished } := by
  rw [step, now]

/-- A write of an operation that has written everything, or that is not there, does nothing. -/
theorem step_write_idle {state : State O F} {index : Nat}
    (nothing : ∀ writing ∈ state.running[index]?, writing.remaining = []) :
    step framesOf state (.write index) = state := by
  rw [step]
  cases held : state.running[index]? with
  | none => rfl
  | some writing =>
      have done := nothing writing held
      grind

theorem running_start {state : State O F} {operation : O} {index : Nat} {writing : Writing O F}
    (held : (step framesOf state (.start operation)).running[index]? = some writing) :
    state.running[index]? = some writing ∨ writing = ⟨operation, framesOf operation⟩ := by
  grind [step]

theorem allShaped_step {state : State O F} {input : Input O}
    (shaped : AllShaped framesOf reader delivery state)
    (exclusive : Exclusive framesOf reader delivery state input) :
    AllShaped framesOf reader delivery (step framesOf state input) := by
  cases input with
  | start operation =>
      intro index writing held
      rcases running_start held with old | rfl
      · exact shaped index writing old
      · exact exclusive
  | write written =>
      cases now : state.running[written]? with
      | none =>
          simp [step_write_idle, now, shaped]
      | some current =>
          rcases current with ⟨operation, remaining⟩
          cases remaining with
          | nil =>
              simp [step_write_idle, now, shaped]
          | cons frame rest =>
              rw [step_write now]
              intro index writing held
              by_cases same : written = index
              · subst same
                rw [List.getElem?_set_self (List.getElem?_eq_some_iff.mp now).1] at held
                cases held
                exact shaped written ⟨operation, frame :: rest⟩ now
              · rw [List.getElem?_set_ne same] at held
                exact shaped index writing held

theorem tidy_start {state : State O F} {operation : O}
    (tidy : Tidy framesOf reader delivery state) :
    Tidy framesOf reader delivery (step framesOf state (.start operation)) := by
  have fresh : ¬Midway framesOf ⟨operation, framesOf operation⟩ := fun midway => midway.2 rfl
  cases tidy with
  | settled whole idle =>
      apply Tidy.settled
      · exact whole
      · intro index writing held
        rcases running_start held with old | rfl
        · exact idle index writing old
        · exact fresh
  | waiting wire index writer frame body complete begun written whole announced payload silent
      delivers midway idle =>
      apply Tidy.waiting wire index writer frame body complete begun
      · exact written
      · exact whole
      · exact announced
      · exact payload
      · exact silent
      · exact delivers
      · grind [step]
      · intro other writing different held
        rcases running_start held with old | rfl
        · exact idle other writing different old
        · exact fresh

theorem running_write_other {state : State O F} {index other : Nat} {writing now : Writing O F}
    (different : other ≠ index)
    (held : (state.running.set index now)[other]? = some writing) :
    state.running[other]? = some writing := by
  grind

theorem tidy_first_write {state : State O F} {index : Nat} {operation : O} {frame : F}
    {rest : List F} (shaped : Shaped reader (delivery operation) (framesOf operation))
    (now : state.running[index]? = some ⟨operation, frame :: rest⟩)
    (whole : Whole reader delivery state.wire state.finished)
    (idle : ∀ (other : Nat) (writing : Writing O F), state.running[other]? = some writing →
      ¬Midway framesOf writing) :
    Tidy framesOf reader delivery (step framesOf state (.write index)) := by
  have inside := (List.getElem?_eq_some_iff.mp now).1
  have begins : frame :: rest = framesOf operation := by
    by_cases same : frame :: rest = framesOf operation
    · exact same
    · exact absurd ⟨List.cons_ne_nil frame rest, same⟩ (idle index _ now)
  have others : ∀ (other : Nat) (writing : Writing O F), other ≠ index →
      (state.running.set index ⟨operation, rest⟩)[other]? = some writing →
        ¬Midway framesOf writing :=
    fun other writing different held => idle other writing (running_write_other different held)
  rw [step_write now]
  rw [← begins] at shaped
  generalize frames : frame :: rest = written at shaped
  cases shaped with
  | single sole silent delivers =>
      cases frames
      apply Tidy.settled
      · exact whole.append (.single index operation frame silent delivers .nil)
      · intro other writing held
        by_cases same : other = index
        · subst same
          rw [List.getElem?_set_self inside] at held
          cases held
          exact fun midway => midway.1 rfl
        · exact others other writing same held
  | pair first body complete announced payload silent delivers =>
      grind [Tidy.waiting]

theorem tidy_second_write {state : State O F} {wire : List (Nat × F)} {index : Nat}
    {operation : O} {frame body : F} {complete : F → D}
    (written : state.wire = wire ++ [(index, frame)])
    (whole : Whole reader delivery wire state.finished)
    (announced : reader.announces frame = some complete)
    (payload : reader.isPayload body = true) (silent : reader.announces body = none)
    (delivers : complete body = delivery operation)
    (now : state.running[index]? = some ⟨operation, [body]⟩)
    (idle : ∀ (other : Nat) (writing : Writing O F), other ≠ index →
      state.running[other]? = some writing → ¬Midway framesOf writing) :
    Tidy framesOf reader delivery (step framesOf state (.write index)) := by
  have inside := (List.getElem?_eq_some_iff.mp now).1
  rw [step_write now, if_pos List.isEmpty_nil]
  apply Tidy.settled
  · rw [written, List.append_assoc]
    exact whole.append (.pair index operation frame body complete announced payload silent delivers
      .nil)
  · intro other writing held
    by_cases same : other = index
    · subst same
      rw [List.getElem?_set_self inside] at held
      cases held
      exact fun midway => midway.1 rfl
    · exact idle other writing same (running_write_other same held)

theorem tidy_step {state : State O F} {input : Input O}
    (shaped : AllShaped framesOf reader delivery state)
    (tidy : Tidy framesOf reader delivery state)
    (exclusive : Exclusive framesOf reader delivery state input) :
    Tidy framesOf reader delivery (step framesOf state input) := by
  cases input with
  | start operation => exact tidy_start tidy
  | write index =>
      cases held : state.running[index]? with
      | none =>
          simp [step_write_idle, held, tidy]
      | some writing =>
          rcases writing with ⟨operation, remaining⟩
          cases remaining with
          | nil =>
              simp [step_write_idle, held, tidy]
          | cons frame rest =>
              cases tidy with
              | settled whole idle =>
                  exact tidy_first_write (shaped index _ held) held whole idle
              | waiting wire writer operation frame body complete begun written whole announced
                  payload silent delivers midway idle =>
                  by_cases same : index = writer
                  · grind [tidy_second_write]
                  · have stillMidway : Midway framesOf ⟨operation, [body]⟩ := by
                      apply And.intro (List.cons_ne_nil _ _)
                      rw [begun]
                      intro sameFrames
                      cases congrArg List.length sameFrames
                    exact absurd stillMidway (exclusive writer _ (Ne.symm same) midway)

/-- **In every run in which no operation writes while another is midway**, announcements are
followed by their own payloads and the finished operations are delivered in order. -/
theorem delivered_of_exclusive {inputs : List (Input O)}
    (exclusive : AlongRun (step framesOf) (Exclusive framesOf reader delivery) State.initial
      inputs) :
    OwnPairs reader (run (step framesOf) State.initial inputs).wire ∧
      read reader ((run (step framesOf) State.initial inputs).wire.map Prod.snd) =
        (run (step framesOf) State.initial inputs).finished.map delivery := by
  have none : ∀ {index : Nat} {writing : Writing O F},
      (State.initial : State O F).running[index]? ≠ some writing := by
    nofun
  have initial : AllShaped framesOf reader delivery State.initial ∧
      Tidy framesOf reader delivery State.initial :=
    ⟨fun _ _ held => absurd held none, .settled .nil fun _ _ held => absurd held none⟩
  have kept := @run_invariant_of_alongRun _ _ _
    (fun state => AllShaped framesOf reader delivery state ∧ Tidy framesOf reader delivery state) _
    (fun state input holds exclusive =>
      ⟨allShaped_step holds.1 exclusive, tidy_step holds.1 holds.2 exclusive⟩) _ initial _ exclusive
  exact ⟨ownPairs_of_tidy kept.2, read_of_tidy kept.2⟩

theorem wire_of_started {property : F → Prop} {inputs : List (Input O)}
    (started : AlongRun (step framesOf) (fun _ input => ∀ operation, input = .start operation →
      ∀ frame ∈ framesOf operation, property frame) State.initial inputs) :
    ∀ entry ∈ (run (step framesOf) State.initial inputs).wire, property entry.2 := by
  have initial : (∀ entry ∈ (State.initial : State O F).wire, property entry.2) ∧
      ∀ writing ∈ (State.initial : State O F).running,
        ∀ frame ∈ writing.remaining, property frame := by
    apply And.intro
    · nofun
    · nofun
  have kept := @run_invariant_of_alongRun _ _ (step framesOf)
    (fun state => (∀ entry ∈ state.wire, property entry.2) ∧
      ∀ writing ∈ state.running, ∀ frame ∈ writing.remaining, property frame)
    _ ?_ State.initial initial inputs started
  · exact kept.1
  · rintro state input ⟨onWire, toCome⟩ condition
    cases input with
    | start operation =>
        apply And.intro onWire
        intro writing member
        rcases List.mem_append.mp member with old | new
        · exact toCome writing old
        · grind
    | write index =>
        cases held : state.running[index]? with
        | none =>
            grind [step_write_idle]
        | some writing =>
            rcases writing with ⟨operation, remaining⟩
            cases remaining with
            | nil =>
                grind [step_write_idle]
            | cons frame rest =>
                have own := toCome _ (List.mem_of_getElem? held)
                rw [step_write held]
                apply And.intro
                · intro entry member
                  rcases List.mem_append.mp member with old | new
                  · exact onWire entry old
                  · rw [List.mem_singleton] at new
                    subst new
                    exact own frame List.mem_cons_self
                · intro other member
                  rcases List.mem_or_eq_of_mem_set member with old | rfl
                  · exact toCome other old
                  · exact fun later inRest => own later (List.mem_cons_of_mem _ inRest)

end Writing

end Lombok.Library.Paired
