import Lombok.Tasks.History
import Mathlib

/-!
Contract: what no call on the task queue ever does to a task that is in it.

`Follows` compares one row with itself later: what was asked for stays, the three
logs only grow at their end, the counters only rise, and a row that has ended is
never written again. `RowStep.follows` has one case per step of a row;
`queued_follows` takes it through calls that create tasks and calls that work
on them, in any order.

Does not own: the deletion of a folder, which removes the tasks of the folder.
-/

namespace Lombok.Tasks

open Lombok.Core Lombok.Library Lombok.Library.Action Lombok.Apps Lombok.Events

/-! ### A row and the same row later -/

/-- The columns of a row that state what was asked for; the others are blanked. -/
def Task.requested (task : Task) : Task :=
  { task with
    startedAt := none, completedAt := none, attemptCount := 0, failureCount := 0,
    dontStartBefore := none, systemLog := [], taskLog := [], success := none, error := none,
    updatedAt := task.createdAt, latestHeartbeatAt := none, progressReports := [],
    progress := none }

/-- An entry without its payload, where a first heartbeat fills in the executor. -/
def SystemLogEntry.line (entry : SystemLogEntry) : Date × SystemLogType × String :=
  (entry.loggedAt, entry.logType, entry.message)

/-- A task ends only while it is started, and has an outcome exactly when it has ended. -/
structure WellEnded (row : Task) : Prop where
  started : row.completedAt.isSome = true → row.startedAt.isSome = true
  outcome : row.success.isSome = row.completedAt.isSome

structure Follows (before after : Task) : Prop where
  requested : after.requested = before.requested
  attempts : before.attemptCount ≤ after.attemptCount
  failures : before.failureCount ≤ after.failureCount
  failed : after.failureCount - before.failureCount ≤ after.attemptCount - before.attemptCount
  systemLog : before.systemLog.map SystemLogEntry.line <+: after.systemLog.map SystemLogEntry.line
  taskLog : before.taskLog <+: after.taskLog
  progressReports : before.progressReports <+: after.progressReports
  wellEnded : WellEnded before → WellEnded after
  ended : before.completedAt.isSome = true → before.startedAt.isSome = true → after = before

theorem Follows.refl (row : Task) : Follows row row :=
  ⟨rfl, Nat.le_refl _, Nat.le_refl _, by omega, List.prefix_rfl, List.prefix_rfl,
      List.prefix_rfl, id,
    fun _ _ => rfl⟩

theorem Follows.trans {first second third : Task} (left : Follows first second)
    (right : Follows second third) : Follows first third where
  requested := right.requested.trans left.requested
  attempts := Nat.le_trans left.attempts right.attempts
  failures := Nat.le_trans left.failures right.failures
  failed := by
    have leftAttempts := left.attempts
    have leftFailures := left.failures
    have leftFailed := left.failed
    have rightAttempts := right.attempts
    have rightFailures := right.failures
    have rightFailed := right.failed
    omega
  systemLog := left.systemLog.trans right.systemLog
  taskLog := left.taskLog.trans right.taskLog
  progressReports := left.progressReports.trans right.progressReports
  wellEnded := right.wellEnded ∘ left.wellEnded
  ended := by
    intro completed started
    have same := left.ended completed started
    subst same
    exact right.ended completed started

/-! ### The steps -/

theorem map_upgradeStartLog_line (executorMetadata : Json) (log : List SystemLogEntry) :
    (log.map (upgradeStartLog executorMetadata)).map SystemLogEntry.line =
      log.map SystemLogEntry.line := by
  rw [List.map_map]
  apply List.map_congr_left
  intro entry _
  simp only [Function.comp_apply, upgradeStartLog]
  split <;> rfl

theorem startRow_follows (now : Date) (executorMetadata : Json) {row : Task}
    (unstarted : row.startedAt = none) : Follows row (startRow now executorMetadata row) where
  requested := rfl
  attempts := Nat.le_refl _
  failures := Nat.le_refl _
  failed := by simp [startRow]
  systemLog := by
    rw [startRow, List.map_append]
    exact List.prefix_append _ _
  taskLog := List.prefix_rfl
  progressReports := List.prefix_rfl
  wellEnded ends := ⟨fun _ => rfl, ends.outcome⟩
  ended _ started := by rw [unstarted] at started; cases started

theorem heartbeatRow_follows (now : Date) (context : Option HeartbeatContext)
    (executorMetadata : Option Json) {row : Task} (running : isRunning row = true) :
    Follows row (heartbeatRow now context executorMetadata row) where
  requested := rfl
  attempts := Nat.le_refl _
  failures := Nat.le_refl _
  failed := by simp [heartbeatRow]
  systemLog := by
    unfold heartbeatRow
    rcases executorMetadata with _ | metadata
    · exact List.prefix_rfl
    · rcases row.latestHeartbeatAt with _ | earlier
      · show _ <+: (row.systemLog.map (upgradeStartLog metadata)).map SystemLogEntry.line
        exact ⟨[], (List.append_nil _).trans (map_upgradeStartLog_line _ _).symm⟩
      · exact List.prefix_rfl
  taskLog := by
    cases context with
    | none => exact List.prefix_rfl
    | some heartbeat => exact List.prefix_append _ _
  progressReports := List.prefix_rfl
  wellEnded ends := ⟨ends.started, ends.outcome⟩
  ended completed _ := by simp_all [isRunning]

theorem progressRow_follows (now : Date) (report : ReceivedTaskProgressReport) {row : Task}
    (running : isRunning row = true) : Follows row (progressRow now report row) where
  requested := rfl
  attempts := Nat.le_refl _
  failures := Nat.le_refl _
  failed := by simp [progressRow]
  systemLog := List.prefix_rfl
  taskLog := List.prefix_rfl
  progressReports := List.prefix_append _ _
  wellEnded ends := ⟨ends.started, ends.outcome⟩
  ended completed _ := by simp_all [isRunning]

/-- What no outcome of a completion changes. -/
theorem completeRow_kept (completion : TaskCompletion) (now : Date) (logs : List SystemLogEntry)
    (row : Task) :
    let after := completeRow row completion now logs row
    after.requested = row.requested ∧ after.taskLog = row.taskLog ∧
      after.progressReports = row.progressReports := by
  cases completion with
  | succeeded result executorMetadata => exact ⟨rfl, rfl, rfl⟩
  | failed error requeueDelayMs executorMetadata =>
      simp only [completeRow]
      split
      · exact ⟨rfl, rfl, rfl⟩
      · split <;> exact ⟨rfl, rfl, rfl⟩

theorem completeRow_wellEnded (completion : TaskCompletion) (now : Date)
    (logs : List SystemLogEntry) {row : Task} (completable : isCompletable row = true) :
    WellEnded (completeRow row completion now logs row) := by
  simp only [isCompletable, Bool.and_eq_true, Option.isNone_iff_eq_none] at completable
  obtain ⟨⟨undecided, uncompleted⟩, started⟩ := completable
  rcases requeue_cases row completion with plain | requeued | refused
  · obtain ⟨completedAt, success, startedAt⟩ := completeRow_terminal row now logs plain
    exact ⟨fun _ => by rw [startedAt]; exact started, by rw [success, completedAt]; rfl⟩
  · obtain ⟨⟨_, success, completedAt⟩, _⟩ := completeRow_requeued row now logs requeued
    exact ⟨by simp [completedAt], by rw [success, completedAt]; rfl⟩
  · obtain ⟨completedAt, success, startedAt⟩ := completeRow_refused row now logs refused
    exact ⟨fun _ => by rw [startedAt]; exact started,
      by rw [success, completedAt, undecided, uncompleted]; rfl⟩

theorem completeRow_follows (completion : TaskCompletion) (now : Date)
    (logs : List SystemLogEntry) {row : Task} (completable : isCompletable row = true) :
    Follows row (completeRow row completion now logs row) := by
  obtain ⟨requested, taskLog, reports⟩ := completeRow_kept completion now logs row
  have attempts := @completeRow_attemptCount row completion now logs
  have failures := @completeRow_failureCount row completion now logs
  have single := Bool.toNat_le (!completion.success)
  refine ⟨requested, by omega, by omega, by omega, ?_, ?_, ?_, ?_, ?_⟩
  · rw [completeRow_systemLog, List.map_append]
    exact List.prefix_append _ _
  · exact ⟨[], (List.append_nil _).trans taskLog.symm⟩
  · exact ⟨[], (List.append_nil _).trans reports.symm⟩
  · exact fun _ => completeRow_wellEnded completion now logs completable
  · intro completed _
    simp_all [isCompletable]

theorem RowStep.follows {row row' : Task} {call : TaskCall} (step : RowStep row call row') :
    Follows row row' := by
  cases step with
  | started now executorMetadata startable =>
      simp only [isStartable, Bool.and_eq_true, Option.isNone_iff_eq_none] at startable
      exact startRow_follows now executorMetadata startable.2
  | secured now startable later =>
      simp only [startableCoreTaskWhere, Bool.and_eq_true, Option.isNone_iff_eq_none] at startable
      exact startRow_follows later systemExecutorMetadata startable.1.1.1
  | heartbeat now context executorMetadata running =>
      exact heartbeatRow_follows now context executorMetadata running
  | progressed now report running => exact progressRow_follows now report running
  | completed completion now logs completable printed =>
      exact completeRow_follows completion now logs completable

/-! ### Runs -/

/-- A call on the queue: one that creates tasks or one that works on a task. -/
inductive QueueCall where
  | create (call : CreationCall)
  | work (call : TaskCall)

def QueueCall.step (env : Env) (world : World) : QueueCall → World
  | .create call => call.step env world
  | .work call => call.step env world

section Runs

variable (env : Env) {taskId : String} {row : Task} {world : World}

theorem taskCall_follows (call : TaskCall) (found : findTask taskId world.db = some row) :
    ∃ row', findTask taskId (call.step env world).db = some row' ∧ Follows row row' := by
  obtain ⟨row', found', same | step⟩ := perform_tracks env world call taskId row found
  · exact ⟨row', found', same ▸ .refl row⟩
  · exact ⟨row', found', step.follows⟩

theorem keepsTasks_of_created {α : Type} {operation : Service α}
    (moves : ∀ snapshot, Moves (GrowsOver snapshot CreatedRow fun _ => True) operation)
    (found : findTask taskId world.db = some row) :
    ∃ row', findTask taskId (operation world).2.db = some row' ∧ Follows row row' :=
  ⟨row, keepsTasks_of_grows (moves_grows moves world).1 taskId row found, .refl row⟩

theorem creationCall_follows (call : CreationCall) (found : findTask taskId world.db = some row) :
    ∃ row', findTask taskId (call.step env world).db = some row' ∧ Follows row row' := by
  unfold CreationCall.step
  cases call with
  | coreUserAction request =>
      rw [CreationCall.perform, discard_state]
      exact keepsTasks_of_created (fun _ => grows_triggerCoreUserActionTask env request) found
  | appUserAction appIdentifier request =>
      rw [CreationCall.perform, discard_state]
      exact keepsTasks_of_created (fun _ => grows_triggerAppUserActionTask env _ request) found
  | appAction appIdentifier request =>
      rw [CreationCall.perform, discard_state]
      exact keepsTasks_of_created (fun _ => grows_triggerAppActionTask env _ request) found
  | event args =>
      exact keepsTasks_of_created (fun _ => moves_emitEvent env args
        (fun _ emitted => createdRow_of_emitted emitted) fun _ _ => trivial) found
  | schedule => exact keepsTasks_of_created (fun _ => grows_processScheduledTaskTriggers env) found
  | completeChild parentTaskId completion =>
      exact taskCall_follows env (.complete parentTaskId completion) found
  | progressChild parentTaskId report =>
      exact taskCall_follows env (.progress parentTaskId report) found

theorem queueCall_follows (call : QueueCall) (found : findTask taskId world.db = some row) :
    ∃ row', findTask taskId (call.step env world).db = some row' ∧ Follows row row' := by
  cases call with
  | create call => exact creationCall_follows env call found
  | work call => exact taskCall_follows env call found

/-- No sequence of calls loses a task, takes back what its logs and counters say, or writes a
task that has ended. -/
theorem queued_follows (calls : List QueueCall) (found : findTask taskId world.db = some row) :
    ∃ row', findTask taskId (run (QueueCall.step env) world calls).db = some row' ∧
      Follows row row' := by
  induction calls generalizing world row with
  | nil => exact ⟨row, found, .refl row⟩
  | cons call rest inductionHypothesis =>
      obtain ⟨next, nextFound, first⟩ := queueCall_follows env call found
      obtain ⟨last, lastFound, later⟩ := inductionHypothesis nextFound
      exact ⟨last, lastFound, first.trans later⟩

end Runs

def sampleQueue : World where
  db := { tasks := { rows := [sampleRequested], distinct := List.pairwise_singleton _ _ } }

theorem queued_follows_sample :
    ∃ row', findTask sampleRequested.id (run (QueueCall.step Env.sample) sampleQueue
        [.work (.secure sampleRequested.id), .create .schedule]).db = some row' ∧
      Follows sampleRequested row' := by
  exact queued_follows Env.sample [.work (.secure sampleRequested.id), .create .schedule] rfl

end Lombok.Tasks
