import Lombok.Agent.WorkerStart
import Mathlib

/-!
Contract: how many workers a port has.

Owns the condition on the steps of supervisors, what holds in every run that meets it, and
two runs that do not: a supervisor that crashes before it has recorded its worker, and one
that records the end of its worker over the record of the next.

A running worker is either named by the state file, or its supervisor has the start lock.
So a supervisor that gets the lock and finds no worker alive is alone.
-/

namespace Lombok.Agent

open Lombok.Library

/-! ### The condition -/

def SupervisorStage.worker? : SupervisorStage → Option Nat
  | .spawned worker | .writing worker _ _ | .awaitingReady worker | .releasing worker
  | .waiting worker => some worker
  | .acquiring | .locked | .spawning | .ended => none

def WorkerPort.mayLetGo (port : WorkerPort) (index : Nat) : Bool :=
  match port.supervisors[index]? with
  | some stage =>
      match stage.worker? with
      | some worker =>
          port.lock != some index || !port.isRunning worker || port.isRecorded worker
      | none => true
  | none => true

/-- The state file is the supervisor's to write: it has the lock, or no running worker is
recorded. -/
def WorkerPort.mayOverwrite (port : WorkerPort) (index : Nat) : Bool :=
  port.lock == some index ||
    (List.range port.workers.length).all fun worker =>
      !(port.isRunning worker && port.isRecorded worker)

/-- A write into the emptied file; and a failure of the first one, which ends the supervisor. -/
def WorkerPort.mayWrite (port : WorkerPort) (index : Nat) (outcome : WriteOutcome) : Bool :=
  match port.supervisors[index]? with
  | some (.writing worker status truncated) =>
      (!truncated || port.mayOverwrite index) &&
        !(status == .starting && outcome == .failed && port.isRunning worker)
  | _ => true

/-- The steps after which every running worker is still recorded or under the lock. -/
def mayStart (port : WorkerPort) : StartAction → Bool
  | .crash index => port.mayLetGo index
  | .release index => port.mayLetGo index
  | .truncate index =>
      match port.supervisors[index]? with
      | some (.writing _ _ _) => port.mayOverwrite index
      | _ => true
  | .write index outcome => port.mayWrite index outcome
  | _ => true

def AtMostOneRuns (port : WorkerPort) : Prop :=
  ∀ first second, port.isRunning first = true → port.isRunning second = true → first = second

/-! ### What holds in every run -/

def SupervisorStage.needsLock : SupervisorStage → Bool
  | .locked | .spawning | .spawned _ | .writing _ .starting _ | .writing _ .ready _
  | .writing _ .unhealthy _ | .awaitingReady _ | .releasing _ => true
  | .acquiring | .writing _ .stopped _ | .waiting _ | .ended => false

def WorkerPort.IsGuarded (port : WorkerPort) (worker : Nat) : Prop :=
  ∃ index stage, port.lock = some index ∧ port.supervisors[index]? = some stage ∧
    stage.worker? = some worker

structure PortSound (port : WorkerPort) : Prop where
  holder : ∀ (index : Nat) (stage : SupervisorStage),
    port.supervisors[index]? = some stage → stage.needsLock = true → port.lock = some index
  covered : ∀ worker, port.isRunning worker = true →
    port.isRecorded worker = true ∨ port.IsGuarded worker
  vacant : ∀ index : Nat, port.supervisors[index]? = some .spawning →
    ∀ worker, port.isRunning worker = false
  own : ∀ (index : Nat) (stage : SupervisorStage) (worker : Nat), port.lock = some index →
    port.supervisors[index]? = some stage → stage.worker? = some worker →
      ∀ other, port.isRunning other = true → other = worker
  stopped : ∀ (index worker : Nat) (truncated : Bool),
    port.supervisors[index]? = some (.writing worker .stopped truncated) →
      worker < port.workers.length ∧ port.isRunning worker = false
  single : AtMostOneRuns port

theorem portSound_start : PortSound WorkerPort.start where
  holder := nofun
  covered := nofun
  vacant := nofun
  own := nofun
  stopped := nofun
  single := nofun

theorem stage_cases {stages : List SupervisorStage} {index other : Nat}
    {next stage : SupervisorStage} (there : (stages.set index next)[other]? = some stage) :
    other = index ∧ stage = next ∨ other ≠ index ∧ stages[other]? = some stage := by
  grind

theorem guarded_other {port : WorkerPort} {index : Nat} {next : SupervisorStage} {worker : Nat}
    (apart : port.lock ≠ some index) (guarded : port.IsGuarded worker) :
    (port.put index next).IsGuarded worker := by
  obtain ⟨holder, stage, held, there, has⟩ := guarded
  have elsewhere : index ≠ holder := by
    rintro rfl
    exact apart held
  exact ⟨holder, stage, held, (List.getElem?_set_ne elsewhere).trans there, has⟩

theorem unlock_of_ne {port : WorkerPort} {index : Nat} (apart : port.lock ≠ some index) :
    port.unlock index = port := by
  rw [WorkerPort.unlock, if_neg apart]

/-- A supervisor that has let go of the lock does not have it. -/
theorem lock_unlock {port : WorkerPort} {index holder : Nat}
    (held : (port.unlock index).lock = some holder) :
    port.lock = some holder ∧ holder ≠ index := by
  have same : (if port.lock = some index then none else port.lock) = some holder := held
  grind

/-! ### The end of a worker -/

section SetPhase

variable {port : WorkerPort} {worker : Nat} {phase : ProcessPhase}

theorem supervisors_setPhase : (port.setPhase worker phase).supervisors = port.supervisors := by
  unfold WorkerPort.setPhase
  split <;> rfl

theorem lock_setPhase : (port.setPhase worker phase).lock = port.lock := by
  unfold WorkerPort.setPhase
  split <;> rfl

theorem length_setPhase : (port.setPhase worker phase).workers.length = port.workers.length := by
  grind [WorkerPort.setPhase]

/-- A worker keeps its place and its pid. -/
theorem workers_setPhase (other : Nat) :
    (port.setPhase worker phase).workers[other]? =
      if other = worker then
        port.workers[other]?.map fun process => { process with phase := phase }
      else port.workers[other]? := by
  grind [WorkerPort.setPhase]

theorem isRunning_of_setPhase {other : Nat} (ended : phase ≠ .running)
    (runs : (port.setPhase worker phase).isRunning other = true) :
    port.isRunning other = true := by
  unfold WorkerPort.isRunning at runs ⊢
  rw [workers_setPhase] at runs
  grind

theorem isRecorded_setPhase (other : Nat) :
    (port.setPhase worker phase).isRecorded other = port.isRecorded other := by
  grind [WorkerPort.setPhase, WorkerPort.isRecorded]

end SetPhase

theorem isProcessAlive_of_isRunning {port : WorkerPort} {worker : Nat} {process : WorkerProcess}
    (there : port.workers[worker]? = some process) (runs : port.isRunning worker = true)
    (taken : Bool) : port.isProcessAlive process.pid.val taken = true := by
  grind [WorkerPort.isRunning, WorkerPort.isProcessAlive]

theorem isRunning_of_spawned {port after : WorkerPort} {process : WorkerProcess} {worker : Nat}
    (workers : after.workers = port.workers ++ [process])
    (runs : after.isRunning worker = true) :
    port.isRunning worker = true ∨ worker = port.workers.length := by
  grind [WorkerPort.isRunning]

/-- The look at the state file finds a running worker that it records. -/
theorem isWorkerAlive_of_isRecorded {port : WorkerPort} {worker : Nat}
    (runs : port.isRunning worker = true) (recorded : port.isRecorded worker = true)
    (taken : Bool) : ∃ status, port.isWorkerAlive taken = some (true, status) := by
  unfold WorkerPort.isRecorded at recorded
  unfold WorkerPort.isWorkerAlive
  cases there : port.workers[worker]? with
  | none =>
      rw [there] at recorded
      cases recorded
  | some process =>
      rw [there] at recorded
      cases file : port.file with
      | missing =>
          rw [file] at recorded
          cases recorded
      | torn =>
          rw [file] at recorded
          cases recorded
      | state pid status =>
          rw [file] at recorded
          have same : process.pid.val = pid := of_decide_eq_true recorded
          refine ⟨some status, ?_⟩
          rw [← same]
          exact congrArg (fun alive => some (alive, some status))
            (isProcessAlive_of_isRunning there runs taken)

section Sound

variable {port : WorkerPort} (sound : PortSound port)

include sound

/-- One supervisor moves on, and the lock and the workers stay as they are. -/
theorem PortSound.change {after : WorkerPort} {index : Nat} {next : SupervisorStage}
    (supervisors : after.supervisors = port.supervisors.set index next)
    (workers : after.workers = port.workers) (lock : after.lock = port.lock)
    (needs : next.needsLock = true → port.lock = some index)
    (covered : ∀ worker, port.isRunning worker = true →
      after.isRecorded worker = true ∨ after.IsGuarded worker)
    (vacant : next = .spawning → ∀ worker, port.isRunning worker = false)
    (own : port.lock = some index → ∀ worker, next.worker? = some worker →
      ∀ other, port.isRunning other = true → other = worker)
    (stopped : ∀ worker truncated, next = .writing worker .stopped truncated →
      worker < port.workers.length ∧ port.isRunning worker = false) : PortSound after := by
  have running : ∀ worker, after.isRunning worker = port.isRunning worker := by
    intro worker
    unfold WorkerPort.isRunning
    rw [workers]
  exact {
    holder := by
      grind [sound.holder]
    covered := by
      grind
    vacant := by
      grind [sound.vacant]
    own := by
      grind [sound.own]
    stopped := by
      grind [sound.stopped]
    single := by
      intro first second firstRuns secondRuns
      rw [running] at firstRuns secondRuns
      exact sound.single first second firstRuns secondRuns }

/-- A supervisor moves on with the worker it had. -/
theorem PortSound.move {index : Nat} {before next : SupervisorStage}
    (found : port.supervisors[index]? = some before) (same : next.worker? = before.worker?)
    (needs : next.needsLock = true → port.lock = some index)
    (vacant : next = .spawning → ∀ worker, port.isRunning worker = false)
    (stopped : ∀ worker truncated, next = .writing worker .stopped truncated →
      worker < port.workers.length ∧ port.isRunning worker = false) :
    PortSound (port.put index next) := by
  refine sound.change rfl rfl rfl needs ?_ vacant ?_ stopped
  · intro worker runs
    rcases sound.covered worker runs with recorded | guarded
    · exact Or.inl recorded
    · refine Or.inr ?_
      by_cases held : port.lock = some index
      · obtain ⟨holder, stage, isHolder, there, has⟩ := guarded
        rw [held] at isHolder
        cases isHolder
        rw [found] at there
        cases there
        have inside : index < port.supervisors.length := (List.getElem?_eq_some_iff.mp found).1
        exact ⟨index, next, held, List.getElem?_set_self inside, same.trans has⟩
      · exact guarded_other held guarded
  · intro held worker has
    exact sound.own index before worker held found (same.symm.trans has)

theorem PortSound.letGo {index : Nat} {next : SupervisorStage}
    (free : next.needsLock = false)
    (stopped : ∀ worker truncated, next = .writing worker .stopped truncated →
      worker < port.workers.length ∧ port.isRunning worker = false)
    (lets : port.lock = some index → ∀ worker, port.isRunning worker = true →
      port.isRecorded worker = true) : PortSound ((port.put index next).unlock index) where
  holder := by
    intro other stage there need
    rcases stage_cases there with ⟨_, rfl⟩ | ⟨apart, old⟩
    · rw [free] at need
      cases need
    · have held := sound.holder other stage old need
      have notOwn : port.lock ≠ some index := by
        rw [held]
        exact fun same => apart (Option.some.inj same)
      exact (if_neg notOwn).trans held
  covered := by
    intro worker runs
    by_cases held : port.lock = some index
    · exact Or.inl (lets held worker runs)
    · rw [unlock_of_ne (show (port.put index next).lock ≠ some index from held)]
      rcases sound.covered worker runs with recorded | guarded
      · exact Or.inl recorded
      · exact Or.inr (guarded_other held guarded)
  vacant := by
    intro other there worker
    rcases stage_cases there with ⟨_, rfl⟩ | ⟨_, old⟩
    · cases free
    · exact sound.vacant other old worker
  own := by
    intro other stage worker held there has third runs
    obtain ⟨before, apart⟩ := lock_unlock held
    rcases stage_cases there with ⟨same, _⟩ | ⟨_, old⟩
    · exact absurd same apart
    · exact sound.own other stage worker before old has third runs
  stopped := by
    intro other worker truncated there
    rcases stage_cases there with ⟨_, same⟩ | ⟨_, old⟩
    · exact stopped worker truncated same.symm
    · exact sound.stopped other worker truncated old
  single := sound.single

theorem PortSound.finish {index : Nat}
    (lets : port.lock = some index → ∀ worker, port.isRunning worker = true →
      port.isRecorded worker = true) : PortSound (port.finish index) :=
  sound.letGo rfl (fun _ _ ended => SupervisorStage.noConfusion ended) lets

/-- The state file changes while every running worker is guarded. -/
theorem PortSound.refile (file : WorkerFile)
    (guarded : ∀ worker, port.isRunning worker = true → port.IsGuarded worker) :
    PortSound { port with file := file } where
  holder := sound.holder
  covered := fun worker runs => Or.inr (guarded worker runs)
  vacant := sound.vacant
  own := sound.own
  stopped := sound.stopped
  single := sound.single

theorem PortSound.setPhase {worker : Nat} {phase : ProcessPhase} (ended : phase ≠ .running) :
    PortSound (port.setPhase worker phase) := by
  have running : ∀ other, (port.setPhase worker phase).isRunning other = true →
      port.isRunning other = true :=
    fun other runs => isRunning_of_setPhase ended runs
  have quiet : ∀ other, port.isRunning other = false →
      (port.setPhase worker phase).isRunning other = false := by
    grind
  exact {
    holder := by
      grind [supervisors_setPhase, lock_setPhase, sound.holder]
    covered := by
      intro other runs
      rcases sound.covered other (running other runs) with recorded | guarded
      · exact Or.inl ((isRecorded_setPhase other).trans recorded)
      · obtain ⟨holder, stage, held, there, has⟩ := guarded
        refine Or.inr ⟨holder, stage, ?_, ?_, has⟩
        · rw [lock_setPhase]
          exact held
        · rw [supervisors_setPhase]
          exact there
    vacant := by
      grind [supervisors_setPhase, sound.vacant]
    own := by
      grind [lock_setPhase, supervisors_setPhase, sound.own]
    stopped := by
      intro index spawned truncated there
      rw [supervisors_setPhase] at there
      obtain ⟨known, rests⟩ := sound.stopped index spawned truncated there
      rw [length_setPhase]
      exact ⟨known, quiet spawned rests⟩
    single := by
      intro first second firstRuns secondRuns
      exact sound.single first second (running first firstRuns) (running second secondRuns) }

/-- A supervisor that may write the file leaves no running worker unguarded. -/
theorem PortSound.guarded_of_mayOverwrite {index worker : Nat} {before : SupervisorStage}
    (found : port.supervisors[index]? = some before) (has : before.worker? = some worker)
    (may : port.mayOverwrite index = true) :
    ∀ other, port.isRunning other = true → port.IsGuarded other := by
  intro other runs
  rcases Bool.or_eq_true_iff.mp may with held | unrecorded
  · have isHolder := beq_iff_eq.mp held
    rw [sound.own index before worker isHolder found has other runs]
    exact ⟨index, before, isHolder, found, has⟩
  · grind [WorkerPort.isRunning, sound.covered]

/-! ### The steps of a supervisor -/

theorem PortSound.launch :
    PortSound { port with supervisors := port.supervisors ++ [.acquiring] } := by
  have old : ∀ {index : Nat} {stage : SupervisorStage},
      (port.supervisors ++ [.acquiring])[index]? = some stage → stage ≠ .acquiring →
        port.supervisors[index]? = some stage := by
    intro index stage there apart
    by_cases inside : index < port.supervisors.length
    · grind
    · grind
  exact {
    holder := by
      intro index stage there need
      refine sound.holder index stage (old there ?_) need
      rintro rfl
      cases need
    covered := by
      intro worker runs
      rcases sound.covered worker runs with recorded | guarded
      · exact Or.inl recorded
      · obtain ⟨holder, stage, held, there, has⟩ := guarded
        have inside : holder < port.supervisors.length := (List.getElem?_eq_some_iff.mp there).1
        exact Or.inr ⟨holder, stage, held,
          (List.getElem?_append_left inside).trans there, has⟩
    vacant := fun index there => sound.vacant index (old there SupervisorStage.noConfusion)
    own := by
      intro index stage worker held there has
      refine sound.own index stage worker held (old there ?_) has
      rintro rfl
      cases has
    stopped := fun index worker truncated there =>
      sound.stopped index worker truncated (old there SupervisorStage.noConfusion)
    single := sound.single }

/-- The lock is taken while every running worker is recorded. -/
theorem PortSound.tryLock {index : Nat} (found : port.supervisors[index]? = some .acquiring) :
    PortSound (tryLock port index) := by
  unfold Agent.tryLock
  by_cases free : port.lock = none
  · rw [if_pos free]
    exact {
      holder := by
        intro other stage there need
        rcases stage_cases there with ⟨rfl, _⟩ | ⟨_, old⟩
        · rfl
        · grind [sound.holder]
      covered := by
        intro worker runs
        rcases sound.covered worker runs with recorded | guarded
        · exact Or.inl recorded
        · obtain ⟨holder, stage, held, _⟩ := guarded
          rw [free] at held
          cases held
      vacant := by
        intro other there
        rcases stage_cases there with ⟨_, same⟩ | ⟨_, old⟩
        · cases same
        · exact sound.vacant other old
      own := by
        intro other stage worker held there has
        cases held
        rcases stage_cases there with ⟨_, rfl⟩ | ⟨apart, _⟩
        · cases has
        · exact absurd rfl apart
      stopped := by
        intro other worker truncated there
        rcases stage_cases there with ⟨_, same⟩ | ⟨_, old⟩
        · cases same
        · exact sound.stopped other worker truncated old
      single := sound.single }
  · rw [if_neg free]
    exact sound

theorem PortSound.recorded_of_holder {index : Nat} {stage : SupervisorStage}
    (found : port.supervisors[index]? = some stage) (held : port.lock = some index)
    (none : stage.worker? = none) :
    ∀ worker, port.isRunning worker = true → port.isRecorded worker = true := by
  intro worker runs
  rcases sound.covered worker runs with recorded | guarded
  · exact recorded
  · obtain ⟨holder, other, isHolder, there, has⟩ := guarded
    grind

theorem PortSound.check {index : Nat} (found : port.supervisors[index]? = some .locked)
    (taken : Bool) : PortSound (checkWorker port index taken) := by
  have held := sound.holder index .locked found rfl
  have recorded := sound.recorded_of_holder found held rfl
  have spawning : (∀ worker, port.isRunning worker = false) →
      PortSound (port.put index .spawning) := by
    intro none
    refine sound.move found rfl (fun _ => held) (fun _ => none) ?_
    nofun
  unfold checkWorker
  cases alive : port.isWorkerAlive taken with
  | none =>
      refine spawning fun worker => Bool.eq_false_iff.mpr fun runs => ?_
      obtain ⟨status, finds⟩ := isWorkerAlive_of_isRecorded runs (recorded worker runs) taken
      rw [alive] at finds
      cases finds
  | some answer =>
      obtain ⟨lives, status⟩ := answer
      cases lives with
      | true => exact sound.finish fun _ => recorded
      | false =>
          refine spawning fun worker => Bool.eq_false_iff.mpr fun runs => ?_
          obtain ⟨_, finds⟩ := isWorkerAlive_of_isRecorded runs (recorded worker runs) taken
          rw [alive] at finds
          cases finds

theorem PortSound.spawn {index : Nat} (found : port.supervisors[index]? = some .spawning)
    (pid : Option Pid) : PortSound (spawnWorker port index pid) := by
  have held := sound.holder index .spawning found rfl
  have rest := sound.vacant index found
  have inside : index < port.supervisors.length := (List.getElem?_eq_some_iff.mp found).1
  cases pid with
  | none =>
      refine sound.finish fun _ worker runs => ?_
      rw [rest worker] at runs
      cases runs
  | some pid =>
      have runsAlone : ∀ worker, (spawnWorker port index (some pid)).isRunning worker = true →
          worker = port.workers.length := by
        intro worker runs
        rcases isRunning_of_spawned rfl runs with before | same
        · rw [rest worker] at before
          cases before
        · exact same
      have notHolder : ∀ other, other ≠ index → port.lock ≠ some other := by
        grind
      exact {
        holder := by
          intro other stage there need
          rcases stage_cases there with ⟨rfl, _⟩ | ⟨_, old⟩
          · exact held
          · exact sound.holder other stage old need
        covered := by
          intro worker runs
          rw [runsAlone worker runs]
          exact Or.inr ⟨index, _, held, List.getElem?_set_self inside, rfl⟩
        vacant := by
          intro other there
          rcases stage_cases there with ⟨_, same⟩ | ⟨apart, old⟩
          · cases same
          · exact absurd (sound.holder other .spawning old rfl) (notHolder other apart)
        own := by
          intro other stage worker isHolder there has third runs
          rcases stage_cases there with ⟨_, rfl⟩ | ⟨apart, _⟩
          · cases has
            exact runsAlone third runs
          · exact absurd isHolder (notHolder other apart)
        stopped := by
          intro other worker truncated there
          rcases stage_cases there with ⟨_, same⟩ | ⟨_, old⟩
          · cases same
          · obtain ⟨known, _⟩ := sound.stopped other worker truncated old
            have longer : worker < (spawnWorker port index (some pid)).workers.length := by
              show worker < (port.workers ++ _).length
              rw [List.length_append]
              exact Nat.lt_add_right _ known
            grind
        single := by
          intro first second firstRuns secondRuns
          rw [runsAlone first firstRuns, runsAlone second secondRuns] }

/-- The worker has exited immediately, or the supervisor goes on to record it. -/
theorem PortSound.look {index worker : Nat}
    (found : port.supervisors[index]? = some (.spawned worker)) (taken : Bool) :
    PortSound (lookAtWorker port index worker taken) := by
  have held := sound.holder index _ found rfl
  unfold lookAtWorker
  cases there : port.workers[worker]? with
  | none => exact sound
  | some process =>
      show PortSound (if port.isProcessAlive process.pid.val taken then _ else _)
      by_cases alive : port.isProcessAlive process.pid.val taken = true
      · rw [if_pos alive]
        exact sound.move found rfl (fun _ => held) nofun nofun
      · rw [if_neg alive]
        refine sound.finish fun _ other runs => ?_
        have same := sound.own index _ worker held found rfl other runs
        grind [isProcessAlive_of_isRunning]

/-- A supervisor whose worker does not run may let go of the lock. -/
theorem PortSound.finish_of_not_running {index worker : Nat} {stage : SupervisorStage}
    (found : port.supervisors[index]? = some stage) (has : stage.worker? = some worker)
    (ended : port.isRunning worker = false) : PortSound (port.finish index) := by
  grind [sound.finish, sound.own]

theorem PortSound.afterWrite {index worker : Nat} {status : WorkerStatus} {truncated : Bool}
    (found : port.supervisors[index]? = some (.writing worker status truncated))
    {failed : Bool}
    (first : status = .starting → failed = true → port.isRunning worker = false) :
    PortSound (afterWrite port index worker status failed) := by
  cases status with
  | starting =>
      have held := sound.holder index _ found rfl
      cases failed with
      | true => exact sound.finish_of_not_running found rfl (first rfl rfl)
      | false => exact sound.move found rfl (fun _ => held) nofun nofun
  | ready =>
      have held := sound.holder index _ found rfl
      exact sound.move found rfl (fun _ => held) nofun nofun
  | unhealthy => exact sound.move found rfl nofun nofun nofun
  | stopped =>
      exact sound.finish_of_not_running found rfl (sound.stopped index worker _ found).2

theorem PortSound.truncate {index worker : Nat} {status : WorkerStatus} {truncated : Bool}
    (found : port.supervisors[index]? = some (.writing worker status truncated))
    (may : port.mayOverwrite index = true) :
    PortSound { port.put index (.writing worker status true) with file := .torn } := by
  have emptied := sound.refile .torn (sound.guarded_of_mayOverwrite found rfl may)
  refine emptied.move found rfl ?_ nofun ?_
  · intro need
    refine sound.holder index _ found ?_
    cases status with
    | starting => rfl
    | ready => rfl
    | unhealthy => rfl
    | stopped => cases need
  · intro other _ same
    cases same
    exact sound.stopped index worker truncated found

/-- The write goes through: in each case the file may be anything from here on. -/
theorem PortSound.write {index worker : Nat} {status : WorkerStatus} {truncated : Bool}
    {outcome : WriteOutcome}
    (found : port.supervisors[index]? = some (.writing worker status truncated))
    (may : port.mayWrite index outcome = true) :
    PortSound (writeWorkerState port index worker status truncated outcome) := by
  have parts : (!truncated || port.mayOverwrite index) = true ∧
      (!(status == .starting && outcome == .failed && port.isRunning worker)) = true := by
    rw [WorkerPort.mayWrite, found] at may
    exact Bool.and_eq_true_iff.mp may
  have first : outcome = .failed → status = .starting → port.isRunning worker = false := by
    grind
  cases truncated with
  | false =>
      cases outcome with
      | failed => exact sound.afterWrite found fun starting _ => first rfl starting
      | mixed => exact sound
      | whole => exact sound
  | true =>
      have guarded := sound.guarded_of_mayOverwrite found rfl parts.1
      cases outcome with
      | failed =>
          exact (sound.refile .torn guarded).afterWrite found fun starting _ => first rfl starting
      | mixed => exact (sound.refile .torn guarded).afterWrite found nofun
      | whole =>
          unfold writeWorkerState
          cases port.workers[worker]? with
          | none => exact sound
          | some process =>
              have written := sound.refile (.state process.pid.val status) guarded
              exact written.afterWrite found nofun

theorem PortSound.awaited {index worker : Nat}
    (found : port.supervisors[index]? = some (.awaitingReady worker)) (ready : Bool) :
    PortSound (awaitedWorker port index worker ready) := by
  have held := sound.holder index _ found rfl
  refine sound.move found rfl (fun _ => held) nofun ?_
  intro _ _ same
  cases ready <;> cases same

/-- What `mayLetGo` says of a supervisor with the lock. -/
theorem PortSound.recorded_of_mayLetGo {index : Nat} {stage : SupervisorStage}
    (found : port.supervisors[index]? = some stage) (may : port.mayLetGo index = true)
    (held : port.lock = some index) :
    ∀ worker, port.isRunning worker = true → port.isRecorded worker = true := by
  grind [WorkerPort.mayLetGo, sound.recorded_of_holder, sound.own]

theorem PortSound.release {index worker : Nat}
    (found : port.supervisors[index]? = some (.releasing worker))
    (may : port.mayLetGo index = true) :
    PortSound ((port.put index (.waiting worker)).unlock index) :=
  sound.letGo rfl nofun (sound.recorded_of_mayLetGo found may)

theorem PortSound.reap {index worker : Nat}
    (found : port.supervisors[index]? = some (.waiting worker)) :
    PortSound (reapWorker port index worker) := by
  unfold reapWorker
  cases there : port.workers[worker]? with
  | none => exact sound
  | some process =>
      show PortSound (if process.phase = .running then _ else _)
      by_cases runs : process.phase = .running
      · rw [if_pos runs]
        exact sound
      · rw [if_neg runs]
        have rests : port.isRunning worker = false := by
          rw [WorkerPort.isRunning, there]
          exact decide_eq_false runs
        have known : worker < port.workers.length := (List.getElem?_eq_some_iff.mp there).1
        have reaped : PortSound (port.setPhase worker .gone) := sound.setPhase nofun
        have stays : (port.setPhase worker .gone).supervisors[index]? = some (.waiting worker) := by
          rw [supervisors_setPhase]
          exact found
        refine reaped.move stays rfl nofun nofun ?_
        intro other _ same
        cases same
        rw [length_setPhase]
        refine ⟨known, Bool.eq_false_iff.mpr fun still => ?_⟩
        grind [isRunning_of_setPhase]

end Sound

/-! ### Every run -/

theorem portSound_step {port : WorkerPort} {action : StartAction} (sound : PortSound port)
    (may : mayStart port action = true) : PortSound (startStep port action) := by
  cases action with
  | dispatch taken =>
      by_cases launches : port.launches taken = true
      · exact (congrArg PortSound (if_pos launches)).mpr sound.launch
      · exact (congrArg PortSound (if_neg launches)).mpr sound
  | warmup => exact sound.launch
  | tryLock index =>
      grind [startStep, sound.tryLock]
  | giveUp index =>
      rw [startStep]
      split
      case h_1 found =>
        exact sound.move found rfl (by simp [SupervisorStage.needsLock]) (by simp) (by simp)
      case h_2 => exact sound
  | check index taken =>
      grind [startStep, sound.check]
  | spawn index pid =>
      grind [startStep, sound.spawn]
  | look index taken =>
      grind [startStep, sound.look]
  | truncate index =>
      grind [startStep, mayStart, sound.truncate]
  | write index outcome =>
      rw [startStep]
      split
      case h_1 found => exact sound.write found may
      case h_2 => exact sound
  | awaited index ready =>
      grind [startStep, sound.awaited]
  | release index =>
      rw [startStep]
      split
      case h_1 found => exact sound.release found may
      case h_2 => exact sound
  | reap index =>
      grind [startStep, sound.reap]
  | crash index =>
      rw [startStep]
      split
      case h_1 found => exact sound.finish (sound.recorded_of_mayLetGo found may)
      case h_2 => exact sound
  | workerExit worker =>
      rw [startStep]
      split
      · exact sound.setPhase (by simp)
      · exact sound
  | reapOrphan worker =>
      rw [startStep]
      split
      · exact sound
      · exact sound.setPhase (by simp)

/-- **One worker**: however the supervisors of a port interleave, at most one of its workers
runs, where no supervisor lets go of the lock over a running worker that is not recorded, and
none without the lock writes over the record of a running worker. -/
theorem atMostOneWorker (actions : List StartAction)
    (along : AlongRun startStep (fun port action => mayStart port action = true)
      WorkerPort.start actions) :
    AtMostOneRuns (run startStep WorkerPort.start actions) := by
  have kept : ∀ port action, PortSound port → mayStart port action = true →
      PortSound (startStep port action) :=
    fun port action sound may => portSound_step sound may
  exact (run_invariant_of_alongRun kept portSound_start along).single
/-- The first steps of a supervisor, up to the record of its worker. -/
def recordsWorker (index : Nat) (pid : Pid) : List StartAction :=
  [.tryLock index, .check index false, .spawn index (some pid), .look index false,
    .truncate index, .write index .whole]

/-- The worker gets ready, and its supervisor lets go of the lock. -/
def getsReady (index : Nat) : List StartAction :=
  [.awaited index true, .truncate index, .write index .whole, .release index]

def firstWorker : Pid := ⟨10, by decide⟩

def secondWorker : Pid := ⟨11, by decide⟩

/-- A supervisor that is launched second finds the worker of the first; that worker ends, and
the third supervisor starts another. -/
def workerIsReplaced : List StartAction :=
  .dispatch false :: .warmup :: recordsWorker 0 firstWorker ++ getsReady 0 ++
    [.tryLock 1, .check 1 false, .workerExit 0, .reap 0, .truncate 0, .write 0 .whole,
      .dispatch false] ++ recordsWorker 2 secondWorker

theorem atMostOneWorker_replaced :
    AtMostOneRuns (run startStep WorkerPort.start workerIsReplaced) :=
  atMostOneWorker workerIsReplaced (by decide)

/-- The supervisor ends between the spawn of its worker and the record of it. -/
def supervisorCrashes : List StartAction :=
  [.warmup, .tryLock 0, .check 0 false, .spawn 0 (some firstWorker), .crash 0, .warmup,
    .tryLock 1, .check 1 false, .spawn 1 (some secondWorker)]

/-- The end of the first worker is recorded over the second, without the lock. -/
def recordIsOverwritten : List StartAction :=
  .warmup :: recordsWorker 0 firstWorker ++ getsReady 0 ++
    [.workerExit 0, .reap 0, .warmup] ++ recordsWorker 1 secondWorker ++ getsReady 1 ++
      [.truncate 0, .write 0 .whole, .warmup, .tryLock 2, .check 2 false,
        .spawn 2 (some firstWorker)]

/-- One supervisor crashes, or none does: two workers of the port run. -/
theorem not_atMostOneWorker :
    ¬ AtMostOneRuns (run startStep WorkerPort.start supervisorCrashes) ∧
      ¬ AtMostOneRuns (run startStep WorkerPort.start recordIsOverwritten) := by
  constructor
  · intro single
    exact absurd (single 0 1 rfl rfl) (by decide)
  · intro single
    exact absurd (single 1 2 rfl rfl) (by decide)

end Lombok.Agent
