import Lombok.Tasks.Transitions

/-!
Contract: where a completion leaves a task.

A completion that returns leaves its row terminal or ready to be started again,
with one exception: a failure that asks for a requeue once the attempts are used
up. `maxRequeuesReached` is no column, so that branch of the update sets neither
`completedAt` nor `startedAt`, and the row stays as if it were running.

Does not own: the counters and the log (see `History`).
-/

namespace Lombok.Tasks

open Lombok.Core Lombok.Library Lombok.Library.Action Lombok.Apps Lombok.Events

/-! ### The three ways a completion ends -/

/-- A requeue is asked for that the attempts no longer admit. -/
def refusesRequeue (row : Task) (completion : TaskCompletion) : Bool :=
  requeueRequested completion && hasAlreadyReachedMaxRequeues row

/-- `completedAt` is set and `success` is true or false. -/
def IsTerminal (row : Task) : Prop := row.completedAt.isSome = true ∧ row.success.isSome = true

/-- `startedAt`, `success` and `completedAt` are all null. -/
def IsReset (row : Task) : Prop :=
  row.startedAt = none ∧ row.success = none ∧ row.completedAt = none

section Outcome

variable (row : Task) {completion : TaskCompletion} (now : Date) (logs : List SystemLogEntry)

theorem completeRow_terminal (plain : requeueRequested completion = false) :
    (completeRow row completion now logs row).completedAt = some now ∧
      (completeRow row completion now logs row).success = some completion.success ∧
      (completeRow row completion now logs row).startedAt = row.startedAt := by
  cases completion with
  | succeeded result executorMetadata => exact ⟨rfl, rfl, rfl⟩
  | failed error requeueDelayMs executorMetadata =>
      simp [completeRow, shouldRequeue, plain, TaskCompletion.success]

theorem completeRow_requeued (requeued : shouldRequeue row completion = true) :
    IsReset (completeRow row completion now logs row) ∧
      (completeRow row completion now logs row).dontStartBefore =
        some (requeueTimestamp row completion now) := by
  cases completion with
  | succeeded result executorMetadata =>
      simp [shouldRequeue, requeueRequested, TaskCompletion.requeueDelayMs] at requeued
  | failed error requeueDelayMs executorMetadata =>
      simp [completeRow, requeued, IsReset]

/-- The refused requeue leaves the three columns as they were. -/
theorem completeRow_refused (refused : refusesRequeue row completion = true) :
    (completeRow row completion now logs row).completedAt = row.completedAt ∧
      (completeRow row completion now logs row).success = row.success ∧
      (completeRow row completion now logs row).startedAt = row.startedAt := by
  cases completion with
  | succeeded result executorMetadata =>
      simp [refusesRequeue, requeueRequested, TaskCompletion.requeueDelayMs] at refused
  | failed error requeueDelayMs executorMetadata =>
      grind [refusesRequeue, completeRow, shouldRequeue]

theorem requeue_cases (completion : TaskCompletion) :
    requeueRequested completion = false ∨ shouldRequeue row completion = true ∨
      refusesRequeue row completion = true := by
  grind [shouldRequeue, refusesRequeue]

theorem completeRow_settled (completable : isCompletable row = true) :
    (IsTerminal (completeRow row completion now logs row) ∨
        IsReset (completeRow row completion now logs row)) ↔
      refusesRequeue row completion = false := by
  simp only [isCompletable, Bool.and_eq_true, Option.isNone_iff_eq_none] at completable
  obtain ⟨⟨undecided, uncompleted⟩, started⟩ := completable
  rcases requeue_cases row completion with plain | requeued | refused
  · grind [completeRow_terminal, IsTerminal, refusesRequeue]
  · obtain ⟨reset, _⟩ := completeRow_requeued row now logs requeued
    grind [refusesRequeue, shouldRequeue]
  · obtain ⟨completedAt, _, startedAt⟩ := completeRow_refused row now logs refused
    refine ⟨?_, fun granted => ?_⟩
    · rintro (terminal | reset)
      · have isSet := terminal.1
        rw [completedAt, uncompleted] at isSet
        cases isSet
      · have cleared := reset.1
        grind
    · rw [refused] at granted
      cases granted

end Outcome

section Columns

variable {row : Task} {completion : TaskCompletion} {now : Date} {logs : List SystemLogEntry}

theorem completeRow_attemptCount :
    (completeRow row completion now logs row).attemptCount = row.attemptCount + 1 := by
  rcases completion with ⟨result, executorMetadata⟩ | ⟨error, requeueDelayMs, executorMetadata⟩
  · rfl
  · simp only [completeRow]
    split
    · rfl
    · split <;> rfl

theorem completeRow_ownerId :
    (completeRow row completion now logs row).ownerId = row.ownerId := by
  rcases completion with ⟨result, executorMetadata⟩ | ⟨error, requeueDelayMs, executorMetadata⟩
  · rfl
  · simp only [completeRow]
    split
    · rfl
    · split <;> rfl

theorem completeRow_systemLog :
    (completeRow row completion now logs row).systemLog = row.systemLog ++ logs := by
  rcases completion with ⟨result, executorMetadata⟩ | ⟨error, requeueDelayMs, executorMetadata⟩
  · rfl
  · simp only [completeRow]
    split
    · rfl
    · split <;> rfl

theorem completeRow_failureCount :
    (completeRow row completion now logs row).failureCount =
      row.failureCount + (!completion.success).toNat := by
  rcases completion with ⟨result, executorMetadata⟩ | ⟨error, requeueDelayMs, executorMetadata⟩
  · rfl
  · simp only [completeRow, TaskCompletion.success]
    split
    · rfl
    · split <;> rfl

end Columns

/-! ### Runs -/

theorem handleTaskUpdate_returns (task : Task) (before : World) :
    ∃ after, Returns (handleTaskUpdate task) before () after := by
  unfold handleTaskUpdate
  split
  · split
    · exact ⟨before, returns_pure.mpr ⟨rfl, rfl⟩⟩
    · exact ⟨_, returns_modify.mpr rfl⟩
  · exact ⟨before, returns_pure.mpr ⟨rfl, rfl⟩⟩

variable {taskId : String} {env : Env} {world : World}

theorem registerTaskStarted_accepts (env : Env) {before : World} {row : Task}
    (found : findTask taskId before.db = some row) (startable : isStartable row = true)
    (executorMetadata : Json) : ∃ started after,
      Returns (registerTaskStarted env taskId executorMetadata) before started after := by
  have unstarted : row.startedAt.isNone = true := by
    grind [isStartable]
  obtain ⟨written, update, _⟩ := Service.updateTasksReturning_returns
    (fun row => Task.hasId taskId row && row.startedAt.isNone)
    (startRow (env.clock before.draws) executorMetadata)
    (startRow_keeps (env.clock before.draws) executorMetadata) (Service.draw before)
  have hit : (Service.draw before).db.tasks.find?
      (fun row => Task.hasId taskId row && row.startedAt.isNone) = some row := by
    rw [find?_guarded]
    show (findTask taskId before.db).filter _ = some row
    simp [found, Option.filter_some, unstarted]
  rw [hit] at update
  obtain ⟨after, notified⟩ :=
    handleTaskUpdate_returns (startRow (env.clock before.draws) executorMetadata row) written
  refine ⟨startRow (env.clock before.draws) executorMetadata row, after, ?_⟩
  simp only [registerTaskStarted, registerTaskStartedInTx, returns_transaction, returns_bind,
    Service.returns_query, Service.returns_now, returns_orThrow, returns_require, returns_pure]
  grind

/-- The task is terminal, or it is reset and a start is accepted. -/
def IsSettled (env : Env) (taskId : String) (world : World) : Prop :=
  ∃ row, findTask taskId world.db = some row ∧
    (IsTerminal row ∨ IsReset row ∧ ∀ executorMetadata, ∃ started after,
      Returns (registerTaskStarted env taskId executorMetadata) world started after)

def CompletionReturns (env : Env) (world : World) (call : TaskCall) : Prop :=
  ∃ taskId completion result after, call = .complete taskId completion ∧
    Returns (registerTaskCompleted env taskId completion) world result after

def AsksRefusedRequeue (world : World) (call : TaskCall) : Prop :=
  ∃ taskId completion row, call = .complete taskId completion ∧
    findTask taskId world.db = some row ∧ refusesRequeue row completion = true

def SettlesOnReturn (env : Env) (world : World) (call : TaskCall) : Prop :=
  CompletionReturns env world call → IsSettled env call.taskId (call.step env world)

theorem isSettled_iff {row : Task} (found : findTask taskId world.db = some row) :
    IsSettled env taskId world ↔ IsTerminal row ∨ IsReset row := by
  constructor
  · rintro ⟨other, otherFound, settled⟩
    grind
  · intro settled
    refine ⟨row, found, settled.imp id fun reset => ⟨reset, ?_⟩⟩
    have startable : isStartable row = true := by simp [isStartable, reset.1, reset.2.2]
    exact registerTaskStarted_accepts env found startable

theorem settled_iff_of_returns {after : World} {completion : TaskCompletion} {result : Task}
    (returned : Returns (registerTaskCompleted env taskId completion) world result after) :
    IsSettled env taskId after ↔ ¬ AsksRefusedRequeue world (.complete taskId completion) := by
  obtain ⟨row, now, logs, rowFound, completable, _, left⟩ := registerTaskCompleted_row returned
  rw [isSettled_iff left, completeRow_settled row now logs completable]
  constructor
  · rintro granted ⟨_, _, other, equal, found, refused⟩
    cases equal
    have same : row = other := Option.some.inj (rowFound.symm.trans found)
    rw [← same, granted] at refused
    cases refused
  · intro unasked
    rw [Bool.eq_false_iff]
    intro refused
    exact unasked ⟨taskId, completion, row, rfl, rowFound, refused⟩

theorem complete_step_of_returns {after : World} {completion : TaskCompletion} {result : Task}
    (returned : Returns (registerTaskCompleted env taskId completion) world result after) :
    TaskCall.step env world (.complete taskId completion) = after := by
  unfold TaskCall.step TaskCall.perform
  rw [discard_state, returned]

/-- No task is stuck, along a run, exactly when none of the completions that return in it asks
for a requeue the attempts no longer admit. -/
theorem settlesAlong_iff (env : Env) (start : World) (calls : List TaskCall) :
    AlongRun (TaskCall.step env) (SettlesOnReturn env) start calls ↔
      AlongRun (TaskCall.step env)
        (fun world call => CompletionReturns env world call → ¬ AsksRefusedRequeue world call)
        start calls := by
  refine alongRun_congr fun world call => forall_congr' fun returns => ?_
  obtain ⟨taskId, completion, result, after, rfl, returned⟩ := returns
  rw [complete_step_of_returns returned]
  exact settled_iff_of_returns returned

/-- A platform task as it is created. -/
def sampleCoreTask : Task where
  id := "task"
  ownerId := coreIdentifier
  taskIdentifier := "analyze_object"
  taskDescription := "Generate metadata and previews for an object"
  data := .obj []
  invocation := { context := .userAction "user" "request" }
  idempotencyKey := "user_action:key"
  createdAt := 0
  updatedAt := 0
  handlerType := .core

def worldOfTask (task : Task) : World where
  db := { tasks := { rows := [task], distinct := List.pairwise_singleton _ _ } }

def sampleError : TaskError where
  code := "E"
  name := none
  message := "failed"
  stack := none
  cause := none
  details := none

/-- A failure that asks to be tried again right away. -/
def sampleRetry : TaskCompletion := .failed sampleError (some 0) systemExecutorMetadata

/-- The task is started and fails with a requeue, `rounds` times. -/
def retryRounds (rounds : Nat) : List TaskCall :=
  (List.replicate rounds
    [TaskCall.start "task" systemExecutorMetadata, .complete "task" sampleRetry]).flatten

/-- The run up to the last completion. -/
def beforeLastRetry (rounds : Nat) : List TaskCall :=
  retryRounds rounds ++ [.start "task" systemExecutorMetadata]

/-- The sixth requeue of a fresh task returns normally and leaves it stuck. -/
theorem sixthRequeue_stuck :
    IsReset sampleCoreTask ∧ sampleCoreTask.attemptCount = 0 ∧
      ¬ AlongRun (TaskCall.step Env.sample) (SettlesOnReturn Env.sample)
        (worldOfTask sampleCoreTask) (retryRounds 6) := by
  refine ⟨⟨rfl, rfl, rfl⟩, rfl, ?_⟩
  rw [alongRun_iff_split]
  intro settles
  have settled := settles (beforeLastRetry 5) (.complete "task" sampleRetry) [] rfl
  have isOk : (registerTaskCompleted Env.sample "task" sampleRetry
      (run (TaskCall.step Env.sample) (worldOfTask sampleCoreTask)
        (beforeLastRetry 5))).1.isOk = true := by
    decide +kernel
  obtain ⟨result, after, returned⟩ := returns_of_isOk isOk
  have refused : (findTask "task" (run (TaskCall.step Env.sample) (worldOfTask sampleCoreTask)
      (beforeLastRetry 5)).db).any (fun row => refusesRequeue row sampleRetry) = true := by
    decide +kernel
  obtain ⟨row, found, holds⟩ := (Option.any_eq_true _ _).mp refused
  have unsettled := settled ⟨"task", sampleRetry, result, after, rfl, returned⟩
  rw [complete_step_of_returns returned] at unsettled
  exact (settled_iff_of_returns returned).mp unsettled ⟨"task", sampleRetry, row, rfl, found, holds⟩

end Lombok.Tasks
