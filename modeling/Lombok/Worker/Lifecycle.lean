import Lombok.Library.Pool
import Lombok.Worker.WorkerProcesses

/-!
Contract: at most one process for a worker id, none forgotten, none confused with a later one.

A state is safe where no process runs that is neither registered, nor being
created, nor told to stop, and where two running processes have two directories.
A step is safe where the exit of a process touches no other process, and where
the idle timer takes no process that a request is active on.

Entries are found by worker id and directories by the clock, so runs are safe
while no entry is overwritten or taken for that of a later process, and no two
creations get the same name.
-/

namespace Lombok.Worker

open Lombok.Library

/-! ### What is to hold -/

namespace Workers

structure Safe (workers : Workers) : Prop where
  /-- An entry is that of a process of its id, and no process is left running. -/
  registered : ∀ workerId index, workers.workerProcesses.get? workerId = some index →
    ∃ process, workers.processes[index]? = some process ∧ process.workerId = workerId
  noneLeft : ∀ index process, workers.processes[index]? = some process →
    process.running = true → workers.workerProcesses.get? process.workerId = some index ∨
      process.isStopping = true ∨
      workers.workerCreationPromises.get? process.workerId = some index
  directories : ∀ (first second : Nat) firstProcess secondProcess,
    workers.processes[first]? = some firstProcess →
      workers.processes[second]? = some secondProcess →
        firstProcess.running = true → secondProcess.running = true → first ≠ second →
          firstProcess.executionId ≠ secondProcess.executionId

def start : Workers := {}

/-- The process and its entry are the same after the step. -/
structure Untouched (before after : Workers) (index : Nat) : Prop where
  process : after.processes[index]? = before.processes[index]?
  entry : ∀ workerId, before.workerProcesses.get? workerId = some index →
    after.workerProcesses.get? workerId = some index

def StepSafe (workers : Workers) : WorkersInput → Prop
  | .exitHandled index => ∀ other ≠ index, Untouched workers (workers.exitHandled index) other
  | .killTimer index =>
      ∀ other ≠ index, Untouched workers (workersStep workers (.killTimer index)) other
  | .idleTimer => ∀ (index : Nat) process taken, workers.processes[index]? = some process →
      (workersStep workers .idleTimer).processes[index]? = some taken →
        process.asked = false → taken.asked = true →
          ∀ call ∈ workers.calls, ∀ entry, call.stage ≠ .active index entry
  | _ => True

/-! ### The condition -/

/-- No live process has the directory that a creation gets now. -/
def IsFresh (workers : Workers) (workerIdentifier : String) : Prop :=
  ∀ process ∈ workers.processes, process.isLive = true →
    process.executionId ≠ executionIdOf workerIdentifier workers.clock

def OnlyEntry (workers : Workers) (workerId : String) (own : Option Nat) : Prop :=
  workers.workerProcesses.get? workerId = none ∨ workers.workerProcesses.get? workerId = own

/-- A creation gets a fresh directory; a process is registered over none, and is connected in time;
an exit is handled, and a call is completed, while its id has no other entry. -/
def KeepsApart (workers : Workers) : WorkersInput → Prop
  | .call appIdentifier workerHash workerIdentifier =>
      workers.workerProcesses.get? (workerIdOf appIdentifier workerHash workerIdentifier) = none →
        workers.workerCreationPromises.get?
          (workerIdOf appIdentifier workerHash workerIdentifier) = none →
          IsFresh workers workerIdentifier
  | .cleaned index => ∀ call ∈ workers.calls[index]?, call.stage = .cleaning →
      workers.workerCreationPromises.get? call.workerId = none →
        IsFresh workers call.workerIdentifier
  | .connects index => ∀ process ∈ workers.processes[index]?, process.stage = .connecting →
      workers.workerProcesses.get? process.workerId = none
  | .connectionTimesOut index => ∀ process ∈ workers.processes[index]?,
      process.stage = .connecting → process.running = false
  | .exitHandled index => ∀ process ∈ workers.processes[index]?, process.stage = .done →
      process.running = false → OnlyEntry workers process.workerId (some index)
  | .complete index => ∀ call ∈ workers.calls[index]?, call.isActive = true →
      OnlyEntry workers call.workerId call.entry
  | _ => True

instance decidableIsFresh (workers : Workers) (workerIdentifier : String) :
    Decidable (IsFresh workers workerIdentifier) :=
  inferInstanceAs (Decidable (∀ process ∈ workers.processes, process.isLive = true →
    process.executionId ≠ executionIdOf workerIdentifier workers.clock))

instance decidableOnlyEntry (workers : Workers) (workerId : String) (own : Option Nat) :
    Decidable (OnlyEntry workers workerId own) :=
  inferInstanceAs (Decidable (_ ∨ _))

instance decidableKeepsApart (workers : Workers) :
    (input : WorkersInput) → Decidable (KeepsApart workers input)
  | .call _ _ _ => inferInstanceAs (Decidable (_ = none → _ = none → IsFresh _ _))
  | .cleaned index => inferInstanceAs (Decidable (∀ call ∈ workers.calls[index]?,
      call.stage = .cleaning → workers.workerCreationPromises.get? call.workerId = none →
        IsFresh workers call.workerIdentifier))
  | .connects index => inferInstanceAs (Decidable (∀ process ∈ workers.processes[index]?,
      process.stage = .connecting → workers.workerProcesses.get? process.workerId = none))
  | .connectionTimesOut index => inferInstanceAs (Decidable (∀ process ∈ workers.processes[index]?,
      process.stage = .connecting → process.running = false))
  | .exitHandled index => inferInstanceAs (Decidable (∀ process ∈ workers.processes[index]?,
      process.stage = .done → process.running = false →
        OnlyEntry workers process.workerId (some index)))
  | .complete index => inferInstanceAs (Decidable (∀ call ∈ workers.calls[index]?,
      call.isActive = true → OnlyEntry workers call.workerId call.entry))
  | .setClock _ | .prepareFails _ | .spawn _ | .exitsEarly _ | .resume _ | .exits _ |
    .killTimer _ | .idleTimer | .shutdownAll => isTrue trivial

end Workers

/-- Every step of the run, and every state it reaches, is safe. -/
structure LifecycleSafe (inputs : List WorkersInput) : Prop where
  steps : AlongRun workersStep Workers.StepSafe .start inputs
  states :
    AlongRun workersStep (fun workers input => (workersStep workers input).Safe) .start inputs

/-! ### The invariant -/

namespace Workers

/-- Entries and promises are those of processes at their stages. -/
structure Registry (workers : Workers) : Prop where
  registered : ∀ workerId index, workers.workerProcesses.get? workerId = some index →
    ∃ process, workers.processes[index]? = some process ∧ process.workerId = workerId ∧
      process.stage = .done
  created : ∀ workerId index, workers.workerCreationPromises.get? workerId = some index →
    ∃ process, workers.processes[index]? = some process ∧ process.workerId = workerId ∧
      process.isCreating = true
  creating : ∀ index process, workers.processes[index]? = some process →
    process.isCreating = true →
      workers.workerCreationPromises.get? process.workerId = some index
  prepared : ∀ (index : Nat) process, workers.processes[index]? = some process →
    process.stage = .preparing → process.running = false

/-- Live processes have directories of their own. -/
def Apart (workers : Workers) : Prop :=
  ∀ (first second : Nat) firstProcess secondProcess,
    workers.processes[first]? = some firstProcess →
      workers.processes[second]? = some secondProcess →
        firstProcess.isLive = true → secondProcess.isLive = true → first ≠ second →
          firstProcess.executionId ≠ secondProcess.executionId

def NoneLeft (workers : Workers) : Prop :=
  ∀ index process, workers.processes[index]? = some process → process.running = true →
    workers.workerProcesses.get? process.workerId = some index ∨ process.isStopping = true ∨
      workers.workerCreationPromises.get? process.workerId = some index

/-- A call has a process of its id, an active one is counted on the entry of its process, and no
entry is counted less than its calls. -/
structure Called (workers : Workers) : Prop where
  waiting : ∀ call ∈ workers.calls, ∀ index, call.stage = .waiting index →
    ∃ process, workers.processes[index]? = some process ∧ process.workerId = call.workerId
  active : ∀ call ∈ workers.calls, ∀ index entry, call.stage = .active index entry →
    (∃ process, workers.processes[index]? = some process ∧ process.workerId = call.workerId ∧
      process.stage = .done) ∧
    (workers.workerProcesses.get? call.workerId = some index → entry = some index)
  known : ∀ call ∈ workers.calls, ∀ index, call.entry = some index →
    ∃ process, workers.processes[index]? = some process
  counted : ∀ index process, workers.processes[index]? = some process →
    workers.calls.countP (fun call => call.entry == some index) ≤ process.activeRequests

structure Tracked (workers : Workers) : Prop where
  registry : workers.Registry
  apart : workers.Apart
  noneLeft : workers.NoneLeft
  called : workers.Called

theorem Tracked.safe {workers : Workers} (tracked : workers.Tracked) : workers.Safe where
  registered := by
    grind [tracked.registry.registered]
  noneLeft := tracked.noneLeft
  directories := by
    intro first second firstProcess secondProcess isFirst isSecond firstRuns secondRuns
    apply tracked.apart first second firstProcess secondProcess isFirst isSecond
    · rw [WorkerProcess.isLive, firstRuns, Bool.or_true]
    · rw [WorkerProcess.isLive, secondRuns, Bool.or_true]

/-! ### Steps that create nothing -/

/-- A process after a step that creates nothing: it may have exited or been told to stop. -/
structure Calmer (before after : WorkerProcess) : Prop where
  workerId : after.workerId = before.workerId
  executionId : after.executionId = before.executionId
  stage : after.stage = before.stage
  running : after.running = true → before.running = true
  stopping : before.isStopping = true → after.isStopping = true

theorem Calmer.refl (process : WorkerProcess) : Calmer process process :=
  ⟨rfl, rfl, rfl, id, id⟩

theorem Calmer.trans {first second third : WorkerProcess} (one : Calmer first second)
    (two : Calmer second third) : Calmer first third :=
  ⟨two.workerId.trans one.workerId, two.executionId.trans one.executionId,
    two.stage.trans one.stage,
    fun runs => one.running (two.running runs), fun stops => two.stopping (one.stopping stops)⟩

/-- A step after which the processes are calmer, and those whose entry is gone are told to stop. -/
structure Quiet (before after : Workers) : Prop where
  forward : ∀ (index : Nat) process, before.processes[index]? = some process →
    ∃ next, after.processes[index]? = some next ∧ Calmer process next
  backward : ∀ (index : Nat) next, after.processes[index]? = some next →
    ∃ process, before.processes[index]? = some process ∧ Calmer process next
  registered : ∀ workerId index, after.workerProcesses.get? workerId = some index →
    before.workerProcesses.get? workerId = some index
  removed : ∀ workerId index, before.workerProcesses.get? workerId = some index →
    after.workerProcesses.get? workerId = some index ∨
      ∀ next, after.processes[index]? = some next → next.isStopping = true
  creations : after.workerCreationPromises = before.workerCreationPromises

namespace Quiet

variable {before middle after : Workers}

theorem refl (workers : Workers) : Quiet workers workers :=
  ⟨fun _ process found => ⟨process, found, .refl process⟩,
    fun _ process found => ⟨process, found, .refl process⟩, fun _ _ => id, fun _ _ => .inl, rfl⟩

theorem trans (first : Quiet before middle) (second : Quiet middle after) :
    Quiet before after := by
  constructor
  · intro index process found
    obtain ⟨next, foundNext, calmer⟩ := first.forward index process found
    grind [second.forward, calmer.trans]
  · intro index last foundLast
    obtain ⟨next, foundNext, calmest⟩ := second.backward index last foundLast
    obtain ⟨process, found, calmer⟩ := first.backward index next foundNext
    exact ⟨process, found, calmer.trans calmest⟩
  · grind [first.registered, second.registered]
  · intro workerId index registered
    rcases first.removed workerId index registered with stays | stops
    · exact second.removed workerId index stays
    · right
      intro last foundLast
      obtain ⟨next, foundNext, calmest⟩ := second.backward index last foundLast
      exact calmest.stopping (stops next foundNext)
  · exact second.creations.trans first.creations

theorem isCreating {process next : WorkerProcess} (calmer : Calmer process next) :
    next.isCreating = process.isCreating := by
  unfold WorkerProcess.isCreating
  rw [calmer.stage]

theorem registry (moves : Quiet before after) (registry : before.Registry) : after.Registry := by
  constructor
  · intro workerId index registered
    obtain ⟨process, found, sameId, done⟩ :=
      registry.registered workerId index (moves.registered workerId index registered)
    obtain ⟨next, foundNext, calmer⟩ := moves.forward index process found
    exact ⟨next, foundNext, calmer.workerId.trans sameId, calmer.stage.trans done⟩
  · intro workerId index created
    rw [moves.creations] at created
    obtain ⟨process, found, sameId, creating⟩ := registry.created workerId index created
    obtain ⟨next, foundNext, calmer⟩ := moves.forward index process found
    exact ⟨next, foundNext, calmer.workerId.trans sameId, (isCreating calmer).trans creating⟩
  · intro index next foundNext creating
    obtain ⟨process, found, calmer⟩ := moves.backward index next foundNext
    rw [moves.creations, calmer.workerId]
    exact registry.creating index process found ((isCreating calmer) ▸ creating)
  · intro index next foundNext preparing
    obtain ⟨process, found, calmer⟩ := moves.backward index next foundNext
    have notRunning := registry.prepared index process found (calmer.stage ▸ preparing)
    grind [calmer.running]

theorem isLive {process next : WorkerProcess} (calmer : Calmer process next)
    (live : next.isLive = true) : process.isLive = true := by
  unfold WorkerProcess.isLive at live ⊢
  rcases Bool.or_eq_true_iff.mp live with creating | runs
  · rw [← isCreating calmer, creating, Bool.true_or]
  · rw [calmer.running runs, Bool.or_true]

theorem apart (moves : Quiet before after) (apart : before.Apart) : after.Apart := by
  intro first second firstNext secondNext isFirst isSecond firstLive secondLive different
  obtain ⟨firstProcess, wasFirst, firstCalmer⟩ := moves.backward first firstNext isFirst
  obtain ⟨secondProcess, wasSecond, secondCalmer⟩ := moves.backward second secondNext isSecond
  rw [firstCalmer.executionId, secondCalmer.executionId]
  exact apart first second firstProcess secondProcess wasFirst wasSecond
    (isLive firstCalmer firstLive) (isLive secondCalmer secondLive) different

theorem noneLeft (moves : Quiet before after) (noneLeft : before.NoneLeft) : after.NoneLeft := by
  intro index next foundNext runs
  obtain ⟨process, found, calmer⟩ := moves.backward index next foundNext
  rw [calmer.workerId, moves.creations]
  rcases noneLeft index process found (calmer.running runs) with registered | stops | created
  · grind [moves.removed]
  · exact .inr (.inl (calmer.stopping stops))
  · exact .inr (.inr created)

end Quiet

/-- A quiet step that also leaves the calls and their counts alone. -/
structure Moves (before after : Workers) : Prop extends Quiet before after where
  calls : after.calls = before.calls
  counts : ∀ (index : Nat) process next, before.processes[index]? = some process →
    after.processes[index]? = some next → next.activeRequests = process.activeRequests

namespace Moves

variable {before middle after : Workers}

theorem refl (workers : Workers) : Moves workers workers where
  toQuiet := .refl workers
  calls := rfl
  counts := by
    grind

theorem trans (first : Moves before middle) (second : Moves middle after) :
    Moves before after where
  toQuiet := first.toQuiet.trans second.toQuiet
  calls := second.calls.trans first.calls
  counts := by
    intro index process last found foundLast
    obtain ⟨next, foundNext, _⟩ := first.forward index process found
    exact (second.counts index next last foundNext foundLast).trans
      (first.counts index process next found foundNext)

theorem called (moves : Moves before after) (called : before.Called) : after.Called := by
  constructor
  · rw [moves.calls]
    intro call member index waits
    obtain ⟨process, found, sameId⟩ := called.waiting call member index waits
    obtain ⟨next, foundNext, calmer⟩ := moves.forward index process found
    exact ⟨next, foundNext, calmer.workerId.trans sameId⟩
  · rw [moves.calls]
    intro call member index entry isActive
    obtain ⟨⟨process, found, sameId, done⟩, onEntry⟩ :=
      called.active call member index entry isActive
    obtain ⟨next, foundNext, calmer⟩ := moves.forward index process found
    refine ⟨⟨next, foundNext, calmer.workerId.trans sameId, calmer.stage.trans done⟩, ?_⟩
    grind [moves.registered]
  · grind [moves.calls, called.known, moves.forward]
  · rw [moves.calls]
    intro index next foundNext
    obtain ⟨process, found, _⟩ := moves.backward index next foundNext
    rw [moves.counts index process next found foundNext]
    exact called.counted index process found

theorem tracked (moves : Moves before after) (tracked : before.Tracked) : after.Tracked :=
  ⟨moves.registry tracked.registry, moves.apart tracked.apart, moves.noneLeft tracked.noneLeft,
    moves.called tracked.called⟩

end Moves

variable {workers : Workers}

theorem processes_modify (workers : Workers) (index other : Nat)
    (change : WorkerProcess → WorkerProcess) :
    (workers.modifyProcess index change).processes[other]? =
      (workers.processes[other]?).map (if index = other then change else id) := by
  grind [modifyProcess]

theorem quiet_modify (index : Nat) {change : WorkerProcess → WorkerProcess}
    (calmer : ∀ process, Calmer process (change process)) :
    Quiet workers (workers.modifyProcess index change) := by
  have changed : ∀ other process, Calmer process ((if index = other then change else id)
      process) := by
    intro other process
    split
    · exact calmer process
    · exact .refl process
  constructor
  · intro other process found
    rw [processes_modify, found]
    exact ⟨_, rfl, changed other process⟩
  · intro other next foundNext
    rw [processes_modify] at foundNext
    obtain ⟨process, found, rfl⟩ := Option.map_eq_some_iff.mp foundNext
    exact ⟨process, found, changed other process⟩
  · intro _ _
    exact id
  · intro _ _
    exact .inl
  · rfl

theorem moves_modify (index : Nat) {change : WorkerProcess → WorkerProcess}
    (calmer : ∀ process, Calmer process (change process))
    (sameCount : ∀ process, (change process).activeRequests = process.activeRequests) :
    Moves workers (workers.modifyProcess index change) where
  toQuiet := quiet_modify index calmer
  calls := rfl
  counts := by
    grind [processes_modify]

theorem moves_cleanup (workers : Workers) (workerId : String) :
    Moves workers (workers.cleanupWorkerProcess workerId) := by
  unfold cleanupWorkerProcess
  split
  · exact .refl workers
  · rename_i taken isTaken
    have asked : Moves workers
        (workers.modifyProcess taken fun process => { process with asked := true }) := by
      apply moves_modify
      · intro process
        refine ⟨rfl, rfl, rfl, id, ?_⟩
        intro _
        rfl
      · intro process
        rfl
    refine ⟨⟨asked.forward, asked.backward, ?_, ?_, rfl⟩, rfl, asked.counts⟩
    · intro other index registered
      rw [OrderedMap.get?_delete] at registered
      grind
    · intro other index registered
      rw [OrderedMap.get?_delete]
      split
      · rename_i same
        right
        intro next foundNext
        rw [same, isTaken] at registered
        cases registered
        have isNext := processes_modify workers taken taken fun process =>
          { process with asked := true }
        rw [if_pos rfl] at isNext
        rw [isNext] at foundNext
        obtain ⟨process, _, rfl⟩ := Option.map_eq_some_iff.mp foundNext
        rfl
      · exact .inl registered

theorem moves_cleanupAll (workerIds : List String) (workers : Workers) :
    Moves workers (workers.cleanupAll workerIds) := by
  induction workerIds generalizing workers with
  | nil => exact .refl workers
  | cons workerId rest inductionHypothesis =>
      exact (moves_cleanup workers workerId).trans (inductionHypothesis _)

theorem moves_exitHandled (workers : Workers) (index : Nat) :
    Moves workers (workers.exitHandled index) := by
  unfold exitHandled
  split
  · split
    · rename_i process _ _
      have handled : Moves workers
          (workers.modifyProcess index fun process => { process with exitHandled := true }) :=
        moves_modify index (fun process => ⟨rfl, rfl, rfl, id, id⟩) fun _ => rfl
      exact handled.trans (moves_cleanup _ process.workerId)
    · exact .refl workers
  · exact .refl workers

theorem moves_killTimer (workers : Workers) (index : Nat) :
    Moves workers (workersStep workers (.killTimer index)) := by
  apply moves_modify
  · intro process
    split
    · refine ⟨rfl, rfl, rfl, id, ?_⟩
      intro _
      exact Bool.or_true _
    · exact .refl process
  · intro process
    split
    · rfl
    · rfl

theorem moves_exits (workers : Workers) (index : Nat) :
    Moves workers (workersStep workers (.exits index)) := by
  apply moves_modify
  · intro process
    refine ⟨rfl, rfl, rfl, ?_, id⟩
    nofun
  · intro process
    rfl

/-! ### Calls -/

theorem tracked_addCall (tracked : workers.Tracked) (workerIdentifier workerId : String)
    {stage : CallStage}
    (known : stage = .cleaning ∨ ∃ index process, stage = .waiting index ∧
      workers.processes[index]? = some process ∧ process.workerId = workerId) :
    (workers.addCall workerIdentifier workerId stage).Tracked := by
  have registry := tracked.registry
  refine ⟨⟨registry.registered, registry.created, registry.creating, registry.prepared⟩,
    tracked.apart, tracked.noneLeft, ?_⟩
  have called := tracked.called
  have uncounted : WorkerCall.entry ⟨workerIdentifier, workerId, stage⟩ = none := by
    rcases known with cleans | ⟨position, _, isWaiting, _⟩
    · rw [cleans]
      rfl
    · rw [isWaiting]
      rfl
  constructor
  · intro call member index waits
    rcases List.mem_append.mp member with old | new
    · exact called.waiting call old index waits
    · rw [List.mem_singleton.mp new] at waits ⊢
      rcases known with cleans | ⟨position, process, isWaiting, found, sameId⟩
      · rw [cleans] at waits
        cases waits
      · rw [isWaiting] at waits
        cases waits
        exact ⟨process, found, sameId⟩
  · intro call member index entry isActive
    rcases List.mem_append.mp member with old | new
    · exact called.active call old index entry isActive
    · rw [List.mem_singleton.mp new] at isActive
      rcases known with cleans | ⟨position, process, isWaiting, _⟩
      · rw [cleans] at isActive
        cases isActive
      · rw [isWaiting] at isActive
        cases isActive
  · intro call member index isEntry
    rcases List.mem_append.mp member with old | new
    · exact called.known call old index isEntry
    · rw [List.mem_singleton.mp new, uncounted] at isEntry
      cases isEntry
  · intro index process found
    unfold addCall
    rw [List.countP_append, List.countP_singleton, uncounted]
    exact called.counted index process found

/-- A call goes on to its next stage, and the counts of the entries go with it. -/
theorem tracked_setCall {after : Workers} (tracked : workers.Tracked) (quiet : Quiet workers after)
    (sameCalls : after.calls = workers.calls) {position : Nat} {next : WorkerCall}
    (waits : ∀ index, next.stage = .waiting index →
      ∃ process, after.processes[index]? = some process ∧ process.workerId = next.workerId)
    (acts : ∀ index entry, next.stage = .active index entry →
      (∃ process, after.processes[index]? = some process ∧ process.workerId = next.workerId ∧
        process.stage = .done) ∧
      (after.workerProcesses.get? next.workerId = some index → entry = some index))
    (known : ∀ index, next.entry = some index →
      ∃ process, after.processes[index]? = some process)
    (counts : ∀ (index : Nat) process changed, workers.processes[index]? = some process →
      after.processes[index]? = some changed →
        workers.calls.countP (fun call => call.entry == some index) ≤ process.activeRequests →
        (workers.calls.set position next).countP (fun call => call.entry == some index) ≤
          changed.activeRequests) : (after.setCall position next).Tracked := by
  have registry := quiet.registry tracked.registry
  refine ⟨⟨registry.registered, registry.created, registry.creating, registry.prepared⟩,
    quiet.apart tracked.apart, quiet.noneLeft tracked.noneLeft, ?_⟩
  have called := tracked.called
  have calls : (after.setCall position next).calls = workers.calls.set position next := by
    unfold setCall
    rw [sameCalls]
  constructor
  · rw [calls]
    intro other member index isWaiting
    rcases List.mem_or_eq_of_mem_set member with old | rfl
    · obtain ⟨process, isProcess, sameId⟩ := called.waiting other old index isWaiting
      obtain ⟨changed, isChanged, calmer⟩ := quiet.forward index process isProcess
      exact ⟨changed, isChanged, calmer.workerId.trans sameId⟩
    · exact waits index isWaiting
  · rw [calls]
    intro other member index entry isActive
    rcases List.mem_or_eq_of_mem_set member with old | rfl
    · obtain ⟨⟨process, isProcess, sameId, done⟩, onEntry⟩ :=
        called.active other old index entry isActive
      obtain ⟨changed, isChanged, calmer⟩ := quiet.forward index process isProcess
      refine ⟨⟨changed, isChanged, calmer.workerId.trans sameId, calmer.stage.trans done⟩, ?_⟩
      intro registered
      exact onEntry (quiet.registered other.workerId index registered)
    · exact acts index entry isActive
  · rw [calls]
    intro other member index isEntry
    rcases List.mem_or_eq_of_mem_set member with old | rfl
    · obtain ⟨process, isProcess⟩ := called.known other old index isEntry
      obtain ⟨changed, isChanged, _⟩ := quiet.forward index process isProcess
      exact ⟨changed, isChanged⟩
    · exact known index isEntry
  · rw [calls]
    intro index changed isChanged
    obtain ⟨process, isProcess, _⟩ := quiet.backward index changed isChanged
    exact counts index process changed isProcess isChanged
      (called.counted index process isProcess)

theorem tracked_setCall_uncounted (tracked : workers.Tracked) {position : Nat}
    {call next : WorkerCall} (found : workers.calls[position]? = some call)
    (before : call.entry = none) (after : next.entry = none)
    (waits : ∀ index, next.stage = .waiting index →
      ∃ process, workers.processes[index]? = some process ∧ process.workerId = next.workerId)
    (acts : ∀ index entry, next.stage = .active index entry →
      (∃ process, workers.processes[index]? = some process ∧ process.workerId = next.workerId ∧
        process.stage = .done) ∧
      (workers.workerProcesses.get? next.workerId = some index → entry = some index)) :
    (workers.setCall position next).Tracked := by
  have known : ∀ index, next.entry = some index →
      ∃ process, workers.processes[index]? = some process := by
    simp [after]
  apply tracked_setCall tracked (.refl workers) rfl waits acts known
  grind

theorem tracked_resume (tracked : workers.Tracked) (position : Nat) :
    (workers.resume position).Tracked := by
  unfold resume
  split
  · rename_i call found
    split
    · rename_i index isWaiting
      have uncounted : call.entry = none := by
        rw [WorkerCall.entry, isWaiting]
      obtain ⟨own, isOwn, sameId⟩ :=
        tracked.called.waiting call (List.mem_of_getElem? found) index isWaiting
      split
      · rename_i process isProcess
        rw [isOwn] at isProcess
        cases isProcess
        split
        · rename_i done
          split
          · rename_i entry isEntry
            have quiet : Quiet workers (workers.modifyProcess entry fun process =>
                { process with activeRequests := process.activeRequests + 1 }) :=
              quiet_modify entry fun process => ⟨rfl, rfl, rfl, id, id⟩
            obtain ⟨changedOwn, isChangedOwn, calmer⟩ := quiet.forward index own isOwn
            apply tracked_setCall tracked quiet rfl
            · nofun
            · intro other otherEntry isActive
              cases isActive
              refine ⟨⟨changedOwn, isChangedOwn, calmer.workerId.trans sameId,
                calmer.stage.trans done⟩, ?_⟩
              intro registered
              have same : workers.workerProcesses.get? call.workerId = some index := registered
              rw [isEntry] at same
              exact same
            · intro other isOther
              cases isOther
              grind [tracked.registry.registered, quiet.forward]
            · intro other otherProcess changed isOther isChanged counted
              have added := countP_set_of_found found
                { call with stage := .active index (some entry) }
                fun call => call.entry == some other
              rw [uncounted] at added
              rw [processes_modify, isOther] at isChanged
              cases isChanged
              by_cases here : entry = other
              · rw [if_pos here]
                grind
              · rw [if_neg here]
                have zero : (some entry == some other).toNat = 0 := by simp [here]
                have added' : _ + 0 = _ + (some entry == some other).toNat := added
                dsimp only [id]
                omega
          · rename_i noEntry
            apply tracked_setCall_uncounted tracked found uncounted rfl
            · nofun
            · simp [isOwn, sameId, done, noEntry]
        · split
          · apply tracked_setCall_uncounted tracked found uncounted rfl
            · nofun
            · nofun
          · exact tracked
      · exact tracked
    · exact tracked
  · exact tracked

theorem isActive_of_active (call : WorkerCall) {index : Nat} {entry : Option Nat}
    (active : call.stage = .active index entry) : call.isActive = true := by
  rw [WorkerCall.isActive, active]

theorem tracked_complete (tracked : workers.Tracked) (position : Nat)
    (keeps : KeepsApart workers (.complete position)) : (workers.complete position).Tracked := by
  unfold complete
  split
  · rename_i call found
    split
    · rename_i index own isActive
      have isOwn : call.entry = own := by
        rw [WorkerCall.entry, isActive]
      have gone := fun other => countP_set_of_found found { call with stage := .completed }
        fun call => call.entry == some other
      split
      · rename_i entry isEntry
        have sameEntry : own = some entry := by
          rcases keeps call found (isActive_of_active call isActive) with absurd | same
          · rw [isEntry] at absurd
            cases absurd
          · rw [isEntry, isOwn] at same
            exact same.symm
        apply tracked_setCall tracked (quiet_modify entry ?_) rfl
        · nofun
        · nofun
        · nofun
        · intro other process changed isProcess isChanged counted
          have removed := gone other
          rw [isOwn, sameEntry] at removed
          rw [processes_modify, isProcess] at isChanged
          cases isChanged
          have zero : ((none : Option Nat) == some other).toNat = 0 := rfl
          have removed' : _ + (some entry == some other).toNat =
            _ + ((none : Option Nat) == some other).toNat := removed
          by_cases here : entry = other
          · rw [if_pos here]
            grind
          · grind
        · intro process
          exact ⟨rfl, rfl, rfl, id, id⟩
      · apply tracked_setCall tracked (.refl workers) rfl
        · nofun
        · nofun
        · nofun
        · intro other process changed isProcess isChanged counted
          have removed := gone other
          rw [isProcess] at isChanged
          cases isChanged
          have zero : ((none : Option Nat) == some other).toNat = 0 := rfl
          have removed' : _ + (call.entry == some other).toNat =
            _ + ((none : Option Nat) == some other).toNat := removed
          omega
    · exact tracked
  · exact tracked

/-! ### Creations -/

/-- A process is an earlier one, or the one that is created. -/
theorem processes_create {workerIdentifier workerId : String} {index : Nat}
    {process : WorkerProcess}
    (found : (workers.create workerIdentifier workerId).processes[index]? = some process) :
    workers.processes[index]? = some process ∨
      (index = workers.processes.length ∧ process.workerId = workerId ∧
        process.isCreating = true ∧ process.running = false ∧
        process.executionId = executionIdOf workerIdentifier workers.clock) := by
  unfold create at found
  rw [List.getElem?_append] at found
  split at found
  · exact .inl found
  · right
    cases position : index - workers.processes.length with
    | zero =>
        rw [position] at found
        cases found
        exact ⟨by omega, rfl, rfl, rfl, rfl⟩
    | succ rest =>
        rw [position] at found
        cases found

theorem processes_create_old (workerIdentifier workerId : String) {index : Nat}
    {process : WorkerProcess} (found : workers.processes[index]? = some process) :
    (workers.create workerIdentifier workerId).processes[index]? = some process := by
  grind [create]

theorem processes_create_new (workers : Workers) (workerIdentifier workerId : String) :
    ∃ process, (workers.create workerIdentifier workerId).processes[workers.processes.length]? =
      some process ∧ process.workerId = workerId ∧ process.isCreating = true := by
  refine ⟨_, List.getElem?_concat_length, rfl, rfl⟩

theorem tracked_create (tracked : workers.Tracked) {workerIdentifier workerId : String}
    (fresh : IsFresh workers workerIdentifier)
    (none : workers.workerCreationPromises.get? workerId = none) :
    (workers.create workerIdentifier workerId).Tracked := by
  have stillCreated : ∀ (other : String) (index : Nat),
      workers.workerCreationPromises.get? other = some index →
        (workers.create workerIdentifier workerId).workerCreationPromises.get? other =
          some index := by
    intro other index created
    unfold create
    rw [OrderedMap.get?_set, if_neg, created]
    intro same
    rw [same, none] at created
    cases created
  constructor
  · constructor
    · intro other index registered
      obtain ⟨process, found, sameId, done⟩ := tracked.registry.registered other index registered
      exact ⟨process, processes_create_old _ _ found, sameId, done⟩
    · intro other index created
      unfold create at created
      rw [OrderedMap.get?_set] at created
      split at created
      · rename_i same
        cases created
        rw [same]
        exact processes_create_new workers workerIdentifier workerId
      · grind [processes_create_old, tracked.registry.created]
    · intro index process found creating
      rcases processes_create found with old | ⟨isNew, sameId, _⟩
      · exact stillCreated _ _ (tracked.registry.creating index process old creating)
      · simp [create, sameId, isNew]
    · intro index process found preparing
      rcases processes_create found with old | ⟨_, _, _, notRunning, _⟩
      · exact tracked.registry.prepared index process old preparing
      · exact notRunning
  · intro first second firstProcess secondProcess isFirst isSecond firstLive secondLive different
    rcases processes_create isFirst with firstOld | ⟨firstNew, _, _, _, firstName⟩
    · rcases processes_create isSecond with secondOld | ⟨_, _, _, _, secondName⟩
      · exact tracked.apart first second firstProcess secondProcess firstOld secondOld firstLive
          secondLive different
      · rw [secondName]
        exact fresh firstProcess (List.mem_of_getElem? firstOld) firstLive
    · rcases processes_create isSecond with secondOld | ⟨secondNew, _⟩
      · rw [firstName]
        exact (fresh secondProcess (List.mem_of_getElem? secondOld) secondLive).symm
      · exact absurd (firstNew.trans secondNew.symm) different
  · intro index process found runs
    rcases processes_create found with old | ⟨_, _, _, notRunning, _⟩
    · rcases tracked.noneLeft index process old runs with registered | stops | created
      · exact .inl registered
      · exact .inr (.inl stops)
      · exact .inr (.inr (stillCreated _ _ created))
    · rw [notRunning] at runs
      cases runs
  · have called := tracked.called
    constructor
    · intro call member index waits
      obtain ⟨process, found, sameId⟩ := called.waiting call member index waits
      exact ⟨process, processes_create_old _ _ found, sameId⟩
    · intro call member index entry isActive
      obtain ⟨⟨process, found, sameId, done⟩, onEntry⟩ :=
        called.active call member index entry isActive
      exact ⟨⟨process, processes_create_old _ _ found, sameId, done⟩, onEntry⟩
    · intro call member index isEntry
      obtain ⟨process, found⟩ := called.known call member index isEntry
      exact ⟨process, processes_create_old _ _ found⟩
    · intro index process found
      rcases processes_create found with old | ⟨isNew, _⟩
      · exact called.counted index process old
      · have uncounted : workers.calls.countP (fun call => call.entry == some index) = 0 := by
          rw [List.countP_eq_zero]
          intro call member isEntry
          obtain ⟨other, isOther⟩ := called.known call member index (beq_iff_eq.mp isEntry)
          have inside := (List.getElem?_eq_some_iff.mp isOther).1
          omega
        show workers.calls.countP (fun call => call.entry == some index) ≤ _
        omega

/-- What the end of a creation does to its process. -/
structure Settles (process next : WorkerProcess) : Prop where
  workerId : next.workerId = process.workerId
  executionId : next.executionId = process.executionId
  activeRequests : next.activeRequests = process.activeRequests
  running : next.running = process.running
  settled : next.isCreating = false

section Settle

variable {index : Nat} {process : WorkerProcess} {change : WorkerProcess → WorkerProcess}

/-- Another process is the same after a change at the index. -/
theorem processes_other (change : WorkerProcess → WorkerProcess) {other : Nat}
    (different : other ≠ index) :
    (workers.modifyProcess index change).processes[other]? = workers.processes[other]? := by
  rw [processes_modify, if_neg (Ne.symm different)]
  exact Option.map_id'

theorem processes_here (found : workers.processes[index]? = some process)
    (change : WorkerProcess → WorkerProcess) :
    (workers.modifyProcess index change).processes[index]? = some (change process) := by
  rw [processes_modify, if_pos rfl, found]
  rfl

/-- A promise of another creation is kept. -/
theorem creations_settle (registry : workers.Registry)
    (found : workers.processes[index]? = some process) (creating : process.isCreating = true)
    {other : Nat} (different : other ≠ index) {workerId : String}
    (created : workers.workerCreationPromises.get? workerId = some other) :
    (workers.settle index process change).workerCreationPromises.get? workerId = some other := by
  unfold settle
  rw [OrderedMap.get?_delete_other, created]
  intro same
  rw [same, registry.creating index process found creating] at created
  exact different (Option.some.inj created).symm

theorem registry_settle (registry : workers.Registry)
    (found : workers.processes[index]? = some process) (creating : process.isCreating = true)
    (settles : Settles process (change process)) :
    (workers.settle index process change).Registry := by
  constructor
  · intro workerId other registered
    obtain ⟨registeredProcess, isRegistered, sameId, done⟩ :=
      registry.registered workerId other registered
    refine ⟨registeredProcess, ?_, sameId, done⟩
    by_cases here : other = index
    · grind [WorkerProcess.isCreating]
    · exact (processes_other change here).trans isRegistered
  · intro workerId other created
    unfold settle at created
    rw [OrderedMap.get?_delete] at created
    split at created
    · cases created
    · rename_i different
      obtain ⟨createdProcess, isCreated, sameId, stillCreating⟩ :=
        registry.created workerId other created
      refine ⟨createdProcess, ?_, sameId, stillCreating⟩
      by_cases here : other = index
      · grind
      · exact (processes_other change here).trans isCreated
  · intro other next isNext stillCreating
    by_cases here : other = index
    · rw [here] at isNext
      have same := (processes_here found change).symm.trans isNext
      grind [settles.settled]
    · have wasNext := (processes_other change here).symm.trans isNext
      grind [creations_settle, registry.creating]
  · intro other next isNext preparing
    by_cases here : other = index
    · rw [here] at isNext
      have same := (processes_here found change).symm.trans isNext
      grind [WorkerProcess.isCreating, settles.settled]
    · exact registry.prepared other next ((processes_other change here).symm.trans isNext) preparing

theorem apart_settle (apart : workers.Apart) (found : workers.processes[index]? = some process)
    (settles : Settles process (change process)) :
    (workers.settle index process change).Apart := by
  have earlier : ∀ (other : Nat) next, (workers.settle index process change).processes[other]? =
      some next → next.isLive = true → ∃ old, workers.processes[other]? = some old ∧
        old.isLive = true ∧ next.executionId = old.executionId := by
    intro other next isNext live
    by_cases here : other = index
    · rw [here] at isNext ⊢
      have same := (processes_here found change).symm.trans isNext
      grind [WorkerProcess.isLive, settles.executionId, settles.settled, settles.running]
    · exact ⟨next, (processes_other change here).symm.trans isNext, live, rfl⟩
  intro first second firstNext secondNext isFirst isSecond firstLive secondLive different
  obtain ⟨firstOld, wasFirst, wasFirstLive, firstName⟩ := earlier first firstNext isFirst firstLive
  obtain ⟨secondOld, wasSecond, wasSecondLive, secondName⟩ :=
    earlier second secondNext isSecond secondLive
  rw [firstName, secondName]
  exact apart first second firstOld secondOld wasFirst wasSecond wasFirstLive
      wasSecondLive different

theorem called_settle (called : workers.Called) (found : workers.processes[index]? = some process)
    (creating : process.isCreating = true) (settles : Settles process (change process)) :
    (workers.settle index process change).Called := by
  constructor
  · intro call member other waits
    obtain ⟨waited, isWaited, sameId⟩ := called.waiting call member other waits
    by_cases here : other = index
    · rw [here, found] at isWaited
      cases isWaited
      rw [here]
      exact ⟨_, processes_here found change, settles.workerId.trans sameId⟩
    · exact ⟨waited, (processes_other change here).trans isWaited, sameId⟩
  · intro call member other entry isActive
    obtain ⟨⟨active, isOwn, sameId, done⟩, onEntry⟩ :=
      called.active call member other entry isActive
    refine ⟨⟨active, ?_, sameId, done⟩, onEntry⟩
    by_cases here : other = index
    · grind [WorkerProcess.isCreating]
    · exact (processes_other change here).trans isOwn
  · intro call member other isEntry
    obtain ⟨known, isKnown⟩ := called.known call member other isEntry
    by_cases here : other = index
    · rw [here]
      exact ⟨_, processes_here found change⟩
    · exact ⟨known, (processes_other change here).trans isKnown⟩
  · intro other next isNext
    by_cases here : other = index
    · rw [here] at isNext ⊢
      have same := (processes_here found change).symm.trans isNext
      cases same
      rw [settles.activeRequests]
      exact called.counted index process found
    · exact called.counted other next ((processes_other change here).symm.trans isNext)

/-- A creation that ends without a process that runs unstopped. -/
theorem tracked_settle (tracked : workers.Tracked)
    (found : workers.processes[index]? = some process) (creating : process.isCreating = true)
    (settles : Settles process (change process)) (notRunning : process.running = false) :
    (workers.settle index process change).Tracked := by
  refine ⟨registry_settle tracked.registry found creating settles,
    apart_settle tracked.apart found settles, ?_,
    called_settle tracked.called found creating settles⟩
  intro other next isNext runs
  by_cases here : other = index
  · rw [here] at isNext
    have same := (processes_here found change).symm.trans isNext
    cases same
    rw [settles.running, notRunning] at runs
    cases runs
  · have wasNext := (processes_other change here).symm.trans isNext
    rcases tracked.noneLeft other next wasNext runs with registered | stops | created
    · exact .inl registered
    · exact .inr (.inl stops)
    · exact .inr (.inr (creations_settle tracked.registry found creating here created))

theorem tracked_register (tracked : workers.Tracked)
    (found : workers.processes[index]? = some process) (creating : process.isCreating = true)
    (noEntry : workers.workerProcesses.get? process.workerId = none) :
    (workers.register index process).Tracked := by
  have settles : Settles process (process.connected workers.clock) := ⟨rfl, rfl, rfl, rfl, rfl⟩
  have registry := registry_settle tracked.registry found creating settles
  have here := processes_here found (WorkerProcess.connected workers.clock)
  have called := called_settle tracked.called found creating settles
  refine ⟨⟨?_, registry.created, registry.creating, registry.prepared⟩,
    apart_settle tracked.apart found settles, ?_, ⟨called.waiting, ?_, called.known,
      called.counted⟩⟩
  · intro workerId other registered
    unfold register at registered
    rw [OrderedMap.get?_set] at registered
    split at registered
    · rename_i same
      cases registered
      exact ⟨_, here, same.symm, rfl⟩
    · exact registry.registered workerId other registered
  · intro other next isNext runs
    by_cases isHere : other = index
    · left
      rw [isHere] at isNext ⊢
      have same := here.symm.trans isNext
      cases same
      exact OrderedMap.get?_set_self _ _ _
    · have wasNext := (processes_other _ isHere).symm.trans isNext
      rcases tracked.noneLeft other next wasNext runs with registered | stops | created
      · left
        unfold register
        rw [OrderedMap.get?_set, if_neg]
        · exact registered
        · grind
      · exact .inr (.inl stops)
      · right; right
        exact @creations_settle workers index process (WorkerProcess.connected workers.clock)
          tracked.registry found creating other isHere next.workerId created
  · intro call member other entry isActive
    obtain ⟨own, onEntry⟩ := called.active call member other entry isActive
    refine ⟨own, ?_⟩
    intro registered
    unfold register at registered
    rw [OrderedMap.get?_set] at registered
    split at registered
    · cases registered
      obtain ⟨⟨active, isOwn, _, done⟩, _⟩ :=
        tracked.called.active call member index entry isActive
      grind [WorkerProcess.isCreating]
    · exact onEntry registered

/-- The process of a creation is spawned; its promise is still there. -/
theorem tracked_spawn (tracked : workers.Tracked)
    (found : workers.processes[index]? = some process) (preparing : process.stage = .preparing) :
    (workers.spawn index process).Tracked := by
  have creating : process.isCreating = true := by
    rw [WorkerProcess.isCreating, preparing]
    rfl
  have here := processes_here found WorkerProcess.spawned
  -- Each process is an earlier one with its id, its name and its count; only its stage moves on.
  have earlier : ∀ (other : Nat) next, (workers.spawn index process).processes[other]? =
      some next → ∃ old, workers.processes[other]? = some old ∧ next.workerId = old.workerId ∧
        next.executionId = old.executionId ∧ next.activeRequests = old.activeRequests ∧
        (next = old ∨ (other = index ∧ old.isCreating = true)) := by
    intro other next isNext
    by_cases isHere : other = index
    · rw [isHere] at isNext ⊢
      have same := here.symm.trans isNext
      cases same
      exact ⟨process, found, rfl, rfl, rfl, .inr ⟨rfl, creating⟩⟩
    · exact ⟨next, (processes_other _ isHere).symm.trans isNext, rfl, rfl, rfl, .inl rfl⟩
  have later : ∀ (other : Nat) old, workers.processes[other]? = some old →
      ∃ next, (workers.spawn index process).processes[other]? = some next ∧
        next.workerId = old.workerId ∧ (old.stage = .done → next.stage = .done) ∧
        next.isCreating = old.isCreating := by
    intro other old wasOld
    by_cases isHere : other = index
    · rw [isHere, found] at wasOld
      cases wasOld
      rw [isHere]
      refine ⟨_, here, rfl, ?_, creating.symm⟩
      intro done
      rw [preparing] at done
      cases done
    · exact ⟨old, (processes_other _ isHere).trans wasOld, rfl, id, rfl⟩
  constructor
  · constructor
    · intro workerId other registered
      obtain ⟨old, wasOld, sameId, done⟩ := tracked.registry.registered workerId other registered
      grind
    · intro workerId other created
      obtain ⟨old, wasOld, sameId, wasCreating⟩ := tracked.registry.created workerId other created
      grind
    · intro other next isNext isCreating
      obtain ⟨old, wasOld, sameId, _, _, same | ⟨rfl, wasCreating⟩⟩ := earlier other next isNext
      · rw [same] at isCreating ⊢
        exact tracked.registry.creating other old wasOld isCreating
      · rw [sameId]
        exact tracked.registry.creating other old wasOld wasCreating
    · intro other next isNext isPreparing
      by_cases isHere : other = index
      · rw [isHere] at isNext
        have same := here.symm.trans isNext
        cases same
        cases isPreparing
      · grind [tracked.registry.prepared]
  · intro first second firstNext secondNext isFirst isSecond firstLive secondLive different
    have wasLive : ∀ {next old : WorkerProcess} {other : Nat}, next.isLive = true →
        (next = old ∨ (other = index ∧ old.isCreating = true)) → old.isLive = true := by
      grind [WorkerProcess.isLive]
    obtain ⟨firstOld, wasFirst, _, firstName, _, firstSame⟩ := earlier first firstNext isFirst
    obtain ⟨secondOld, wasSecond, _, secondName, _, secondSame⟩ :=
      earlier second secondNext isSecond
    rw [firstName, secondName]
    exact tracked.apart first second firstOld secondOld wasFirst wasSecond
      (wasLive firstLive firstSame) (wasLive secondLive secondSame) different
  · intro other next isNext runs
    obtain ⟨old, wasOld, sameId, _, _, same | ⟨rfl, wasCreating⟩⟩ := earlier other next isNext
    · rw [same] at runs ⊢
      exact tracked.noneLeft other old wasOld runs
    · right; right
      rw [sameId]
      exact tracked.registry.creating other old wasOld wasCreating
  · have called := tracked.called
    constructor
    · intro call member other waits
      obtain ⟨old, wasOld, sameId⟩ := called.waiting call member other waits
      grind
    · intro call member other entry isActive
      obtain ⟨⟨old, wasOld, sameId, done⟩, onEntry⟩ :=
        called.active call member other entry isActive
      obtain ⟨next, isNext, nextId, nextDone, _⟩ := later other old wasOld
      exact ⟨⟨next, isNext, nextId.trans sameId, nextDone done⟩, onEntry⟩
    · intro call member other isEntry
      obtain ⟨old, wasOld⟩ := called.known call member other isEntry
      grind
    · intro other next isNext
      obtain ⟨old, wasOld, _, _, sameCount, _⟩ := earlier other next isNext
      rw [sameCount]
      exact called.counted other old wasOld

end Settle

/-! ### Every step -/

theorem isCreating_connecting {process : WorkerProcess} (connecting : process.stage = .connecting) :
    process.isCreating = true := by
  rw [WorkerProcess.isCreating, connecting]
  rfl

theorem tracked_creationStep (tracked : workers.Tracked) {index : Nat} {stage : CreationStage}
    {move : Workers → Nat → WorkerProcess → Workers}
    (moves : ∀ process, workers.processes[index]? = some process → process.stage = stage →
      (move workers index process).Tracked) : (workers.creationStep index stage move).Tracked := by
  grind [creationStep]

/-- The process that a call waits for after `joinOrCreate`. -/
theorem tracked_joinOrCreate (tracked : workers.Tracked) (workerIdentifier workerId : String)
    (fresh : workers.workerCreationPromises.get? workerId = none →
      IsFresh workers workerIdentifier) :
    (workers.joinOrCreate workerIdentifier workerId).1.Tracked ∧
      (workers.joinOrCreate workerIdentifier workerId).1.calls = workers.calls ∧
      ∃ process, (workers.joinOrCreate workerIdentifier workerId).1.processes[
        (workers.joinOrCreate workerIdentifier workerId).2]? = some process ∧
        process.workerId = workerId := by
  unfold joinOrCreate
  split
  · grind [tracked.registry.created]
  · rename_i notCreated
    obtain ⟨process, found, sameId, _⟩ :=
      processes_create_new workers workerIdentifier workerId
    exact ⟨tracked_create tracked (fresh notCreated) notCreated, rfl, process, found, sameId⟩

theorem tracked_call (tracked : workers.Tracked)
    (appIdentifier workerHash workerIdentifier : String)
    (keeps : KeepsApart workers (.call appIdentifier workerHash workerIdentifier)) :
    (workers.call appIdentifier workerHash workerIdentifier).Tracked := by
  unfold call
  dsimp only
  split
  · rename_i index registered
    split
    · have used : Moves workers (workers.modifyProcess index fun process =>
          { process with lastUsed := workers.clock }) :=
        moves_modify index (fun _ => ⟨rfl, rfl, rfl, id, id⟩) fun _ => rfl
      obtain ⟨process, found, sameId, _⟩ := tracked.registry.registered _ index registered
      obtain ⟨next, isNext, calmer⟩ := used.forward index process found
      apply tracked_addCall (used.tracked tracked)
      exact .inr ⟨index, next, rfl, isNext, calmer.workerId.trans sameId⟩
    · exact tracked_addCall ((moves_cleanup workers _).tracked tracked) _ _ (.inl rfl)
  · rename_i notRegistered
    obtain ⟨joined, _, process, found, sameId⟩ :=
      tracked_joinOrCreate tracked workerIdentifier _ (keeps notRegistered)
    exact tracked_addCall joined _ _ (.inr ⟨_, process, rfl, found, sameId⟩)

theorem tracked_cleaned (tracked : workers.Tracked) (position : Nat)
    (keeps : KeepsApart workers (.cleaned position)) : (workers.cleaned position).Tracked := by
  unfold cleaned
  split
  · rename_i call found
    split
    · rename_i cleans
      obtain ⟨joined, sameCalls, process, isProcess, sameId⟩ :=
        tracked_joinOrCreate tracked call.workerIdentifier call.workerId
          (keeps call found cleans)
      have uncounted : call.entry = none := by
        rw [WorkerCall.entry, cleans]
      rw [← sameCalls] at found
      apply tracked_setCall_uncounted joined found uncounted rfl
      · intro index isWaiting
        cases isWaiting
        exact ⟨process, isProcess, sameId⟩
      · nofun
    · exact tracked
  · exact tracked

theorem tracked_step (tracked : workers.Tracked) {input : WorkersInput}
    (keeps : KeepsApart workers input) : (workersStep workers input).Tracked := by
  cases input with
  | setClock now =>
      have registry := tracked.registry
      have called := tracked.called
      exact ⟨⟨registry.registered, registry.created, registry.creating, registry.prepared⟩,
        tracked.apart, tracked.noneLeft,
        ⟨called.waiting, called.active, called.known, called.counted⟩⟩
  | call appIdentifier workerHash workerIdentifier =>
      exact tracked_call tracked appIdentifier workerHash workerIdentifier keeps
  | cleaned index => exact tracked_cleaned tracked index keeps
  | prepareFails index =>
      apply tracked_creationStep tracked
      intro process found preparing
      have creating : process.isCreating = true := by
        rw [WorkerProcess.isCreating, preparing]
        rfl
      exact tracked_settle tracked found creating ⟨rfl, rfl, rfl, rfl, rfl⟩
        (tracked.registry.prepared index process found preparing)
  | spawn index =>
      apply tracked_creationStep tracked
      grind [tracked_spawn]
  | connects index =>
      apply tracked_creationStep tracked
      intro process found connecting
      exact tracked_register tracked found (isCreating_connecting connecting)
        (keeps process found connecting)
  | connectionTimesOut index =>
      apply tracked_creationStep tracked
      intro process found connecting
      exact tracked_settle tracked found (isCreating_connecting connecting)
        ⟨rfl, rfl, rfl, rfl, rfl⟩ (keeps process found connecting)
  | exitsEarly index =>
      apply tracked_creationStep tracked
      intro process found connecting
      unfold exitsEarly
      split
      · exact tracked
      · rename_i notRunning
        exact tracked_settle tracked found (isCreating_connecting connecting)
          ⟨rfl, rfl, rfl, rfl, rfl⟩ (Bool.not_eq_true _ ▸ notRunning)
  | resume index => exact tracked_resume tracked index
  | complete index => exact tracked_complete tracked index keeps
  | exits index => exact (moves_exits workers index).tracked tracked
  | exitHandled index => exact (moves_exitHandled workers index).tracked tracked
  | killTimer index => exact (moves_killTimer workers index).tracked tracked
  | idleTimer => exact (moves_cleanupAll _ workers).tracked tracked
  | shutdownAll => exact (moves_cleanupAll _ workers).tracked tracked

/-! ### What a step does right -/

/-- What a clean-up of all the ids takes was registered under one of them. -/
theorem asked_cleanupAll (workerIds : List String) {workers : Workers} {index : Nat}
    {taken : WorkerProcess} (isTaken :
        (workers.cleanupAll workerIds).processes[index]? = some taken)
    (asked : taken.asked = true) :
    (∃ process, workers.processes[index]? = some process ∧ process.asked = true) ∨
      ∃ workerId ∈ workerIds, workers.workerProcesses.get? workerId = some index := by
  induction workerIds generalizing workers with
  | nil => exact .inl ⟨taken, isTaken, asked⟩
  | cons workerId rest inductionHypothesis =>
      rcases inductionHypothesis isTaken with ⟨process, isProcess, wasAsked⟩ | later
      · unfold cleanupWorkerProcess at isProcess
        split at isProcess
        · exact .inl ⟨process, isProcess, wasAsked⟩
        · rename_i registered isRegistered
          by_cases here : registered = index
          · simp [here, isRegistered]
          · left
            exact ⟨process, (processes_other _ (Ne.symm here)).symm.trans isProcess, wasAsked⟩
      · obtain ⟨laterId, member, isRegistered⟩ := later
        right
        exact ⟨laterId, List.mem_cons_of_mem _ member,
          (moves_cleanup workers workerId).registered laterId index isRegistered⟩

/-- An idle process has an entry, and nothing is counted on it. -/
theorem mem_idleIds {workerId : String} {index : Nat} (member : workerId ∈ workers.idleIds)
    (registered : workers.workerProcesses.get? workerId = some index) :
    workers.isIdle index = true := by
  obtain ⟨entry, inside, rfl⟩ := List.mem_map.mp member
  grind [workers.workerProcesses.mem_entries_iff]

theorem idle_uncalled (tracked : workers.Tracked) {index : Nat} {process : WorkerProcess}
    (found : workers.processes[index]? = some process) {workerId : String}
    (registered : workers.workerProcesses.get? workerId = some index)
    (idle : workers.isIdle index = true) :
    ∀ call ∈ workers.calls, ∀ entry, call.stage ≠ .active index entry := by
  intro call member entry isActive
  obtain ⟨⟨active, isOwn, sameId, _⟩, onEntry⟩ :=
    tracked.called.active call member index entry isActive
  obtain ⟨other, isOther, otherId, _⟩ := tracked.registry.registered workerId index registered
  rw [isOwn] at isOther
  cases isOther
  rw [← otherId, sameId] at registered
  have counted := tracked.called.counted index process found
  have isCounted : call.entry = some index := by
    rw [WorkerCall.entry, isActive]
    exact onEntry registered
  have some : 0 < workers.calls.countP fun call => call.entry == Option.some index :=
    List.countP_pos_iff.mpr ⟨call, member, beq_iff_eq.mpr isCounted⟩
  rw [isIdle, found] at idle
  grind

/-- The exit of a process touches no other, where its id has no other entry. -/
theorem exitHandled_untouched {index : Nat} (keeps : KeepsApart workers (.exitHandled index))
    {other : Nat} (different : other ≠ index) :
    Untouched workers (workers.exitHandled index) other := by
  unfold exitHandled
  split
  · rename_i process found
    split
    · rename_i exited
      unfold cleanupWorkerProcess
      have own := keeps process found exited.1 exited.2.1
      split
      · exact ⟨processes_other _ different, fun _ => id⟩
      · rename_i registered isRegistered
        have sameIndex : registered = index := by
          have wasRegistered :
              workers.workerProcesses.get? process.workerId = some registered := isRegistered
          rcases own with noEntry | same
          · grind
          · exact Option.some.inj (isRegistered.symm.trans same)
        rw [sameIndex] at isRegistered ⊢
        constructor
        · exact (processes_other _ different).trans (processes_other _ different)
        · intro workerId isOther
          rw [OrderedMap.get?_delete, if_neg]
          · exact isOther
          · intro same
            rw [same] at isOther
            exact different (Option.some.inj (isOther.symm.trans isRegistered))
    · exact ⟨rfl, fun _ => id⟩
  · exact ⟨rfl, fun _ => id⟩

theorem step_safe (tracked : workers.Tracked) {input : WorkersInput}
    (keeps : KeepsApart workers input) : StepSafe workers input := by
  cases input with
  | exitHandled index =>
      intro other different
      exact exitHandled_untouched keeps different
  | killTimer index =>
      intro other different
      exact ⟨processes_other _ different, fun _ => id⟩
  | idleTimer =>
      intro index process taken found isTaken notAsked asked
      rcases asked_cleanupAll workers.idleIds isTaken asked with
        ⟨old, wasOld, wasAsked⟩ | ⟨workerId, member, registered⟩
      · grind
      · exact idle_uncalled tracked found registered (mem_idleIds member registered)
  | _ => trivial

theorem tracked_start : start.Tracked := by
  refine ⟨⟨?_, ?_, ?_, ?_⟩, ?_, ?_, ⟨?_, ?_, ?_, ?_⟩⟩
  · nofun
  · nofun
  · nofun
  · nofun
  · intro _ _ _ _ absurd
    cases absurd
  · nofun
  · nofun
  · nofun
  · nofun
  · nofun

end Workers

open Workers in
/-- The lifecycle is safe in every run that keeps the processes of an id apart. -/
theorem lifecycle_safe (inputs : List WorkersInput)
    (keeps : AlongRun workersStep KeepsApart start inputs) : LifecycleSafe inputs := by
  have kept : ∀ (workers : Workers) input, workers.Tracked → KeepsApart workers input →
      (workersStep workers input).Tracked :=
    fun workers input tracked here => tracked_step tracked here
  constructor
  · apply @AlongRun.of_invariant _ _ _ Tracked KeepsApart StepSafe kept _ _ tracked_start _ keeps
    intro workers input tracked here
    exact step_safe tracked here
  · apply @AlongRun.of_invariant _ _ _ Tracked KeepsApart _ kept _ _ tracked_start _ keeps
    intro workers input tracked here
    exact (kept workers input tracked here).safe

/-- A worker that is idle exits, and a later call creates its successor. -/
theorem lifecycle_safe_restart : LifecycleSafe
    [.call "notes-0000aaaa" "h1" "search", .spawn 0, .connects 0, .resume 0, .complete 0,
      .setClock 300001, .idleTimer, .exits 0, .exitHandled 0,
      .call "notes-0000aaaa" "h1" "search", .spawn 1, .connects 1, .resume 1, .complete 1] :=
  lifecycle_safe _ (by decide +kernel)

/-! ### An exit that is late -/

/-- A worker is idle and cleaned up, a call creates its successor, and only then it exits. -/
def lateExit : List WorkersInput :=
  [.call "notes-0000aaaa" "h1" "search", .spawn 0, .connects 0, .resume 0, .complete 0,
    .setClock 300001, .idleTimer, .call "notes-0000aaaa" "h1" "search", .spawn 1, .connects 1,
    .resume 1, .killTimer 0, .exits 0, .exitHandled 0]

/-- The exit of the older process removes the newer one and tells it to stop. -/
theorem lateExit_unsafe : ¬ LifecycleSafe lateExit := by
  intro safe
  have untouched := alongRun_iff_split.mp safe.steps (lateExit.dropLast) (.exitHandled 0) [] rfl
  have same := (untouched 1 (by decide)).process
  revert same
  decide +kernel

end Lombok.Worker
