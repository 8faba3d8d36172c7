import Mathlib.Data.List.Perm.Basic
import Lombok.Agent.WorkerLog
import Lombok.Library.Lines
import Lombok.Library.Run

/-!
Contract: the output of a worker on its way to the logs and to the platform.

Owns the two interceptors of a worker's output, the loop that takes the ended
lines out of their buffers, what each line is turned into, and the progress
updates that are on their way while the worker goes on writing. Over every run
the lines that were ended are processed once each and in order, however the
output was cut, and the updates among them have been sent before the completion.

Does not own the order in which updates that are on their way at the same time
arrive, nor a last line that is not ended.
-/

namespace Lombok.Agent

open Lombok.Core Lombok.Core.GoJson Lombok.Library

/-! ### One line -/

/-- `platformProgressUpdatePrefix`. -/
def platformProgressUpdatePrefix : GoString := toUtf8 "__PLATFORM_PROGRESS_UPDATE__|"

/-- `parsePersistentWorkerLogLine`: the job and what it logs. -/
def parsePersistentWorkerLogLine (floats : Float64Text) (line : GoString) :
    Option (GoString × LogEntry) :=
  let trimmed := trimSpace line
  let prefixBytes := toUtf8 "JOB_ID_"
  if prefixBytes.isPrefixOf trimmed then
    match splitN pipe 3 (trimmed.drop prefixBytes.length) with
    | [jobPart, levelPart, jsonPart] =>
        let jobId := trimSpace jobPart
        if jobId.isEmpty then none
        else
          (logLevelOf (trimSpace levelPart)).bind fun level =>
            ((unmarshal floats (trimSpace jsonPart)).bind messageOf).map fun read =>
              (jobId, { level := level, message := read.1, data := read.2 })
    | _ => none
  else none

/-- What becomes of a line. -/
inductive Handling where
  | jobLog (jobId : GoString) (entry : LogEntry)
  | workerLog (entry : LogEntry)
  | forwarded (progressUpdate : GoString)
  | invalidUpdate
  | unopened (jobId : GoString)

/-- `jobLogInterceptor`, with or without `onPlatformProgressUpdate`, and
`persistentWorkerLogInterceptor`, with the job logs that can be opened. -/
inductive Interceptor where
  | exec (jobId : GoString) (defaultLevel : LogLevel) (forwards : Bool)
  | persistent (defaultLevel : LogLevel) (opens : GoString → Bool)

/-- `processLine` of either. -/
def Interceptor.processLine (floats : Float64Text) (interceptor : Interceptor) (line : GoString) :
    Handling :=
  match interceptor with
  | .exec jobId defaultLevel forwards =>
      if forwards && platformProgressUpdatePrefix.isPrefixOf line then
        let progressUpdate := line.drop platformProgressUpdatePrefix.length
        if valid progressUpdate then .forwarded progressUpdate else .invalidUpdate
      else
        match parseStructuredWorkerLogLine floats line with
        | some entry => .jobLog jobId entry
        | none => .jobLog jobId { level := defaultLevel, message := line, data := none }
  | .persistent defaultLevel opens =>
      match parsePersistentWorkerLogLine floats line with
      | some (jobId, entry) => if opens jobId then .jobLog jobId entry else .unopened jobId
      | none => .workerLog (workerLogEntry floats line (some defaultLevel))

def Handling.update? : Handling → Option GoString
  | .forwarded progressUpdate => some progressUpdate
  | _ => none

def Handling.isLogged : Handling → Bool
  | .jobLog _ _ | .workerLog _ => true
  | _ => false

/-! ### The stream -/

/-- The loop of `Write`: the lines in the buffer that are ended, and what is left in it. -/
def drainLines : Nat → GoString → List GoString × GoString
  | 0, buffer => ([], buffer)
  | fuel + 1, buffer =>
      if newline ∈ buffer then
        let drained := drainLines fuel (buffer.dropWhile (· != newline)).tail
        (buffer.takeWhile (· != newline) :: drained.1, drained.2)
      else ([], buffer)

inductive StreamCall where
  | progress (progressUpdate : GoString)
  | completion

/-- A worker's output, what its interceptor made of it, and the calls of the job. -/
structure StreamState where
  /-- Everything the worker has written. -/
  output : GoString := []
  buffer : GoString := []
  handled : List Handling := []
  /-- The updates handed to a goroutine that has not sent them yet. -/
  inFlight : List GoString := []
  calls : List StreamCall := []
  exited : Bool := false
  completed : Bool := false

inductive StreamStep where
  /-- The worker writes, and the chunk is passed to `Write`. -/
  | write (chunk : GoString)
  /-- One of the goroutines sends its update. -/
  | send (position : Nat)
  /-- The worker ends, and `cmd.Wait` returns. -/
  | exit
  /-- The job's completion is signalled. -/
  | complete

/-- `Write`. -/
def Interceptor.write (floats : Float64Text) (interceptor : Interceptor) (chunk : GoString)
    (state : StreamState) : StreamState :=
  let buffer := state.buffer ++ chunk
  let drained := drainLines buffer.length buffer
  let handled := drained.1.map (interceptor.processLine floats)
  { state with
    output := state.output ++ chunk
    buffer := drained.2
    handled := state.handled ++ handled
    inFlight := state.inFlight ++ handled.filterMap Handling.update? }

/-- An exec job waits for its worker and for `progressUpdateWg`; a job of a persistent worker
completes while the worker runs on. -/
def Interceptor.mayComplete (interceptor : Interceptor) (state : StreamState) : Bool :=
  match interceptor with
  | .exec _ _ _ => state.exited && state.inFlight.isEmpty
  | .persistent _ _ => true

def Interceptor.step (floats : Float64Text) (interceptor : Interceptor) (state : StreamState) :
    StreamStep → StreamState
  | .write chunk => if state.exited then state else interceptor.write floats chunk state
  | .send position =>
      match state.inFlight[position]? with
      | some progressUpdate =>
          { state with
            inFlight := state.inFlight.eraseIdx position
            calls := state.calls ++ [.progress progressUpdate] }
      | none => state
  | .exit => { state with exited := true }
  | .complete =>
      if interceptor.mayComplete state && !state.completed then
        { state with calls := state.calls ++ [.completion], completed := true }
      else state

def StreamCall.update? : StreamCall → Option GoString
  | .progress progressUpdate => some progressUpdate
  | .completion => none

/-- The updates that were sent, in the order of the calls. -/
def StreamState.sent (state : StreamState) : List GoString :=
  state.calls.filterMap StreamCall.update?

def StreamState.lines (state : StreamState) : List GoString :=
  (Lines.takeLines newline state.output).1

/-! ### What a run keeps -/

/-- The loop takes exactly the lines that are ended. -/
theorem drainLines_eq_takeLines (fuel : Nat) : ∀ buffer : GoString, buffer.length ≤ fuel →
    drainLines fuel buffer = Lines.takeLines newline buffer := by
  induction fuel with
  | zero =>
      intro buffer enough
      rw [List.length_eq_zero_iff.mp (Nat.le_zero.mp enough)]
      rfl
  | succ fuel inductionHypothesis =>
      intro buffer enough
      rw [drainLines]
      split
      · rename_i member
        obtain ⟨line, rest, rfl, noNewline⟩ := List.eq_append_cons_of_mem member
        grind [firstPart, Lines.takeLines_line]
      · rename_i noNewline
        rw [Lines.takeLines_of_noDelimiter noNewline]

/-- No line is handed to the platform. -/
def Interceptor.Silent (floats : Float64Text) (interceptor : Interceptor) : Prop :=
  ∀ line, (interceptor.processLine floats line).update? = none

theorem Interceptor.Silent.noUpdates {floats : Float64Text} {interceptor : Interceptor}
    (silent : interceptor.Silent floats) (lines : List GoString) :
    (lines.map (interceptor.processLine floats)).filterMap Handling.update? = [] := by
  rw [List.filterMap_map]
  exact List.filterMap_eq_nil_iff.mpr fun line _ => silent line

theorem silent_persistent (floats : Float64Text) (defaultLevel : LogLevel)
    (opens : GoString → Bool) : (Interceptor.persistent defaultLevel opens).Silent floats := by
  intro line
  unfold Interceptor.processLine
  dsimp only
  split
  · split
    · rfl
    · rfl
  · rfl

/-- What every step finds. -/
structure StreamInvariant (floats : Float64Text) (interceptor : Interceptor)
    (state : StreamState) : Prop where
  buffered : state.buffer = (Lines.takeLines newline state.output).2
  handled : state.handled = state.lines.map (interceptor.processLine floats)
  updates : (state.sent ++ state.inFlight).Perm (state.handled.filterMap Handling.update?)
  calls : state.calls =
    state.sent.map StreamCall.progress ++ if state.completed then [.completion] else []
  drained : state.completed = true →
    state.inFlight = [] ∧ (state.exited = true ∨ interceptor.Silent floats)

section Run

variable {floats : Float64Text} {interceptor : Interceptor} {state : StreamState}

theorem streamInvariant_start : StreamInvariant floats interceptor {} where
  buffered := rfl
  handled := rfl
  updates := List.Perm.refl _
  calls := rfl
  drained completed := by cases completed

theorem StreamInvariant.write (invariant : StreamInvariant floats interceptor state)
    (running : state.exited = false) (chunk : GoString) :
    StreamInvariant floats interceptor (interceptor.write floats chunk state) := by
  have grown := @Lines.takeLines_append UInt8 _ newline state.output chunk
  have drains := drainLines_eq_takeLines (state.buffer ++ chunk).length (state.buffer ++ chunk)
    (Nat.le_refl _)
  rw [← invariant.buffered] at grown
  refine ⟨?_, ?_, ?_, invariant.calls, ?_⟩
  · show (drainLines _ (state.buffer ++ chunk)).2 = (Lines.takeLines newline (_ ++ chunk)).2
    rw [drains, grown]
  · show state.handled ++ (drainLines _ (state.buffer ++ chunk)).1.map _ =
      (Lines.takeLines newline (state.output ++ chunk)).1.map _
    rw [drains, grown, List.map_append, invariant.handled]
    rfl
  · show (state.sent ++ (state.inFlight ++ _)).Perm ((state.handled ++ _).filterMap _)
    grind [invariant.updates.append_right]
  · intro completed
    obtain ⟨empty, exited | silent⟩ := invariant.drained completed
    · rw [running] at exited
      cases exited
    · refine ⟨?_, .inr silent⟩
      show state.inFlight ++ _ = []
      rw [empty, List.nil_append]
      exact silent.noUpdates _

theorem StreamInvariant.send (invariant : StreamInvariant floats interceptor state)
    (position : Nat) :
    StreamInvariant floats interceptor (interceptor.step floats state (.send position)) := by
  unfold Interceptor.step
  dsimp only
  cases found : state.inFlight[position]? with
  | none => exact invariant
  | some progressUpdate =>
      obtain ⟨inBounds, isUpdate⟩ := List.getElem?_eq_some_iff.mp found
      have open_ : state.completed = false := by
        refine Bool.eq_false_iff.mpr fun completed => ?_
        rw [(invariant.drained completed).1] at inBounds
        cases inBounds
      have calls := invariant.calls
      rw [open_, if_neg Bool.false_ne_true, List.append_nil] at calls
      have sends : (state.calls ++ [StreamCall.progress progressUpdate]).filterMap
          StreamCall.update? = state.sent ++ [progressUpdate] := by
        rw [List.filterMap_append]
        rfl
      refine ⟨invariant.buffered, invariant.handled, ?_, ?_, ?_⟩
      · show (_ ++ state.inFlight.eraseIdx position).Perm (state.handled.filterMap _)
        rw [StreamState.sent, sends, List.append_assoc, List.singleton_append, ← isUpdate]
        exact ((List.getElem_cons_eraseIdx_perm inBounds).append_left _).trans invariant.updates
      · show state.calls ++ _ = _ ++ if state.completed = true then _ else _
        unfold StreamState.sent
        grind
      · simp [open_]

theorem StreamInvariant.complete (invariant : StreamInvariant floats interceptor state) :
    StreamInvariant floats interceptor (interceptor.step floats state .complete) := by
  unfold Interceptor.step
  dsimp only
  split
  · rename_i enabled
    rw [Bool.and_eq_true, Bool.not_eq_true'] at enabled
    obtain ⟨may, open_⟩ := enabled
    have calls := invariant.calls
    rw [open_, if_neg Bool.false_ne_true, List.append_nil] at calls
    have sends : (state.calls ++ [StreamCall.completion]).filterMap StreamCall.update? =
        state.sent := by
      rw [List.filterMap_append]
      exact List.append_nil _
    refine ⟨invariant.buffered, invariant.handled, ?_, ?_, ?_⟩
    · rw [StreamState.sent, sends]
      exact invariant.updates
    · rw [StreamState.sent, sends, if_pos rfl, ← calls]
    · intro _
      cases interceptor with
      | exec jobId defaultLevel forwards =>
          have both := Bool.and_eq_true _ _ ▸ may
          exact ⟨List.isEmpty_iff.mp both.2, .inl both.1⟩
      | persistent defaultLevel opens =>
          have silent := silent_persistent floats defaultLevel opens
          refine ⟨?_, .inr silent⟩
          have updates := invariant.updates
          rw [invariant.handled, silent.noUpdates] at updates
          exact (List.append_eq_nil_iff.mp updates.eq_nil).2
  · exact invariant

theorem StreamInvariant.step (invariant : StreamInvariant floats interceptor state)
    (step : StreamStep) :
    StreamInvariant floats interceptor (interceptor.step floats state step) := by
  cases step with
  | write chunk =>
      unfold Interceptor.step
      dsimp only
      split
      · exact invariant
      · rename_i running
        exact invariant.write (Bool.eq_false_iff.mpr running) chunk
  | send position => exact invariant.send position
  | exit =>
      refine ⟨invariant.buffered, invariant.handled, invariant.updates, invariant.calls, ?_⟩
      intro completed
      exact ⟨(invariant.drained completed).1, .inl rfl⟩
  | complete => exact invariant.complete

theorem streamInvariant_run (steps : List StreamStep) :
    StreamInvariant floats interceptor (run (interceptor.step floats) {} steps) :=
  run_invariant (fun _ step invariant => invariant.step step) streamInvariant_start steps

end Run

/-! ### The lines of a run -/

/-- The lines that are not for the log: the updates of an exec job, and the lines of a job whose
log cannot be opened. -/
def Interceptor.setsAside (floats : Float64Text) (interceptor : Interceptor) (line : GoString) :
    Bool :=
  match interceptor with
  | .exec _ _ forwards => forwards && platformProgressUpdatePrefix.isPrefixOf line
  | .persistent _ opens =>
      (parsePersistentWorkerLogLine floats line).any fun read => !opens read.1

theorem isLogged_processLine (floats : Float64Text) (interceptor : Interceptor)
    (line : GoString) :
    (interceptor.processLine floats line).isLogged = !interceptor.setsAside floats line := by
  cases interceptor with
  | exec jobId defaultLevel forwards =>
      unfold Interceptor.processLine Interceptor.setsAside
      dsimp only
      split
      · rename_i isUpdate
        rw [isUpdate]
        split
        · rfl
        · rfl
      · rename_i notUpdate
        rw [Bool.eq_false_iff.mpr notUpdate]
        split
        · rfl
        · rfl
  | persistent defaultLevel opens =>
      unfold Interceptor.processLine Interceptor.setsAside
      dsimp only
      split
      · rename_i jobId entry read
        rw [read, Option.any_some]
        cases opens jobId
        · rfl
        · rfl
      · rename_i notTagged
        rw [notTagged]
        rfl

/-- The updates among the lines, in the order they were written. -/
def Interceptor.updatesOf (floats : Float64Text) (interceptor : Interceptor)
    (lines : List GoString) : List GoString :=
  lines.filterMap fun line => (interceptor.processLine floats line).update?

/-- Over every run and however the output is cut, each line that was ended has been processed once,
in order, as a line of the log or as one set aside, and each update has been sent once or is on its
way; when the completion is signalled, all of them have been sent. -/
theorem interceptor_processesLines (floats : Float64Text) (interceptor : Interceptor)
    (steps : List StreamStep) :
    let state := run (interceptor.step floats) {} steps
    state.handled = state.lines.map (interceptor.processLine floats) ∧
      (∀ line, (interceptor.processLine floats line).isLogged =
        !interceptor.setsAside floats line) ∧
      (state.sent ++ state.inFlight).Perm (interceptor.updatesOf floats state.lines) ∧
      (state.completed = true →
        state.sent.Perm (interceptor.updatesOf floats state.lines) ∧
          state.calls = state.sent.map StreamCall.progress ++ [.completion]) := by
  intro state
  have invariant : StreamInvariant floats interceptor state := streamInvariant_run steps
  have updates := invariant.updates
  rw [invariant.handled, List.filterMap_map] at updates
  refine ⟨invariant.handled, isLogged_processLine floats interceptor, updates, ?_⟩
  intro completed
  constructor
  · rw [(invariant.drained completed).1, List.append_nil] at updates
    exact updates
  · have calls := invariant.calls
    rw [completed, if_pos rfl] at calls
    exact calls

def allLines (output : GoString) : List GoString :=
  let taken := Lines.takeLines newline output
  taken.1 ++ if taken.2.isEmpty then [] else [taken.2]

def progressUpdateOf (line : GoString) : Option GoString :=
  if platformProgressUpdatePrefix.isPrefixOf line then
    some (line.drop platformProgressUpdatePrefix.length)
  else none

/-- Every line is in the log, and every update was sent in its turn. -/
structure ProcessedInOrder (state : StreamState) : Prop where
  logged : (state.handled.filter Handling.isLogged).length = (allLines state.output).length
  delivered : state.sent = (allLines state.output).filterMap progressUpdateOf

def updateLine (json : String) : GoString :=
  platformProgressUpdatePrefix ++ toUtf8 json ++ [newline]

def sampleExec : Interceptor := .exec (toUtf8 "job") .info true

def samplePersistent : Interceptor := .persistent .info fun _ => true

/-- A last line that is not ended is not logged, updates arrive in another order or, from a
persistent worker, not at all, and a line with an update is not logged. -/
theorem not_processedInOrder :
    let state := fun (interceptor : Interceptor) (steps : List StreamStep) =>
      run (interceptor.step digitFloats) {} steps
    ¬ ProcessedInOrder (state sampleExec [.write (toUtf8 "done"), .exit, .complete]) ∧
      ¬ ProcessedInOrder (state sampleExec
        [.write (updateLine "1" ++ updateLine "2"), .send 1, .send 0, .exit, .complete]) ∧
      ¬ ProcessedInOrder (state samplePersistent [.write (updateLine "1"), .complete]) ∧
      (state sampleExec [.write (updateLine "1" ++ updateLine "2"), .send 1, .send 0, .exit,
        .complete]).completed = true := by
  refine ⟨?_, ?_, ?_, by decide +kernel⟩
  · intro processed
    exact absurd processed.logged (by decide +kernel)
  · intro processed
    exact absurd processed.delivered (by decide +kernel)
  · intro processed
    exact absurd processed.delivered (by decide +kernel)

end Lombok.Agent
