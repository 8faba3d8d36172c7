import Lombok.Tasks.Lifecycle

/-!
Contract: retries of the platform's own tasks.

The completion decides about a requeue with the attempt count before it is
incremented, the drain selects with the count after. `pickedUpAlong_iff` says
which requeues are picked up again, `securedCount_le` bounds the attempts of one
task over any run.
-/

namespace Lombok.Tasks

open Lombok.Core Lombok.Library Lombok.Library.Action Lombok.Apps Lombok.Events

/-! ### Waiting for a start -/

def UnstartedAt (taskId : String) (world : World) : Prop :=
  ∀ row, findTask taskId world.db = some row → row.startedAt = none

def WaitsUnstarted (env : Env) (taskId : String) (world : World) (calls : List TaskCall) : Prop :=
  AlongRun (TaskCall.step env) (fun state _ => UnstartedAt taskId state) world calls ∧
    UnstartedAt taskId (run (TaskCall.step env) world calls)

theorem RowStep.starts {row row' : Task} {call : TaskCall} (step : RowStep row call row')
    (unstarted : row.startedAt = none) : row'.startedAt.isSome = true := by
  cases step with
  | started now executorMetadata startable => rfl
  | secured now startable later => rfl
  | heartbeat now context executorMetadata running => simp [isRunning, unstarted] at running
  | progressed now report running => simp [isRunning, unstarted] at running
  | completed completion now logs completable printed =>
      simp [isCompletable, unstarted] at completable

theorem WaitsUnstarted.unchanged {env : Env} {taskId : String} {world : World}
    {calls : List TaskCall} (waits : WaitsUnstarted env taskId world calls) {row : Task}
    (found : findTask taskId world.db = some row) :
    findTask taskId (run (TaskCall.step env) world calls).db = some row := by
  obtain ⟨along, atEnd⟩ := waits
  induction calls generalizing world with
  | nil => exact found
  | cons call rest inductionHypothesis =>
      have unstarted : row.startedAt = none := along.1 row found
      have unstartedNext : UnstartedAt taskId (TaskCall.step env world call) := by
        cases rest with
        | nil => exact atEnd
        | cons next later => exact along.2.1
      obtain ⟨row', found', tracked⟩ := perform_tracks env world call taskId row found
      have same : row' = row := by
        rcases tracked with same | step
        · exact same
        · have started := step.starts unstarted
          rw [unstartedNext row' found'] at started
          cases started
      rw [same] at found'
      exact inductionHypothesis found' along.2 atEnd

/-! ### What a requeue leaves -/

section Requeue

variable {row : Task} {completion : TaskCompletion} {now : Date} {logs : List SystemLogEntry}

/-- A requeued platform task is selected, from its date on, exactly when one more attempt is
left after the one that failed. -/
theorem requeued_startable_iff (core : row.ownerId = coreIdentifier)
    (requeued : shouldRequeue row completion = true) (date : Date)
    (due : requeueTimestamp row completion now ≤ date) :
    startableCoreTaskWhere date (completeRow row completion now logs row) = true ↔
      row.attemptCount + 1 < maxTaskAttempts := by
  obtain ⟨reset, dontStartBefore⟩ := completeRow_requeued row now logs requeued
  simp [startableCoreTaskWhere, reset.1, dontStartBefore, due, completeRow_attemptCount,
    completeRow_ownerId, core]

end Requeue

/-! ### Requeues along a run -/

def RequeuesCoreTask (env : Env) (world : World) (call : TaskCall) (row : Task) : Prop :=
  ∃ completion result after, call = .complete row.id completion ∧
    findTask row.id world.db = some row ∧ row.ownerId = coreIdentifier ∧
    shouldRequeue row completion = true ∧
    Returns (registerTaskCompleted env row.id completion) world result after

/-- A platform task the call requeues is selected by the drain at every time from its date on,
through whatever calls leave it unstarted. -/
def PickedUpAgain (env : Env) (world : World) (call : TaskCall) : Prop :=
  ∀ row, RequeuesCoreTask env world call row →
    ∀ later requeued date, WaitsUnstarted env row.id (TaskCall.step env world call) later →
      findTask row.id (run (TaskCall.step env) (TaskCall.step env world call) later).db =
        some requeued →
      (requeued.dontStartBefore.all fun dontStartBefore => decide (dontStartBefore ≤ date)) =
        true →
      startableCoreTaskWhere date requeued = true

/-- A platform task the call requeues has an attempt left after the one that failed. -/
def LeavesAnAttempt (env : Env) (world : World) (call : TaskCall) : Prop :=
  ∀ row, RequeuesCoreTask env world call row → row.attemptCount + 1 < maxTaskAttempts

theorem pickedUpAgain_iff (env : Env) (world : World) (call : TaskCall) :
    PickedUpAgain env world call ↔ LeavesAnAttempt env world call := by
  refine forall_congr' fun row => forall_congr' fun requeues => ?_
  obtain ⟨completion, result, after, rfl, found, core, requeue, returned⟩ := requeues
  obtain ⟨same, now, logs, sameFound, _, _, left⟩ := registerTaskCompleted_row returned
  have rowEqual : same = row := Option.some.inj (sameFound.symm.trans found)
  subst rowEqual
  obtain ⟨reset, dontStartBefore⟩ := completeRow_requeued same now logs requeue
  rw [complete_step_of_returns returned]
  constructor
  · intro pickedUp
    have unstarted : WaitsUnstarted env same.id after [] := by
      refine ⟨trivial, ?_⟩
      intro row rowFound
      have rowIs : row = _ := Option.some.inj (rowFound.symm.trans left)
      rw [rowIs]
      exact reset.1
    have due : ((completeRow same completion now logs same).dontStartBefore.all
        fun date => decide (date ≤ requeueTimestamp same completion now)) = true := by
      rw [dontStartBefore]
      simp
    have startable := pickedUp [] _ (requeueTimestamp same completion now) unstarted left due
    exact (requeued_startable_iff core requeue _ (Int.le_refl _)).mp startable
  · intro leaves later requeued date waits requeuedFound due
    have unchanged := waits.unchanged left
    have requeuedIs : requeued = _ := Option.some.inj (requeuedFound.symm.trans unchanged)
    subst requeuedIs
    rw [dontStartBefore] at due
    grind [requeued_startable_iff]

/-! ### Counting attempts -/

/-- The call is a drain round that starts the task. -/
def secures (env : Env) (taskId : String) (world : World) : TaskCall → Bool
  | .secure securedId =>
      securedId == taskId &&
        match (drainCoreTask env securedId world).1 with
        | .ok started => started.isSome
        | .error _ => false
  | _ => false

/-- How many attempts at the task a run begins. -/
def securedCount (env : Env) (taskId : String) : World → List TaskCall → Nat
  | _, [] => 0
  | world, call :: rest =>
      (if secures env taskId world call then 1 else 0) +
        securedCount env taskId (TaskCall.step env world call) rest

def runningAttempts (row : Task) : Nat := if isRunning row then 1 else 0

/-- The row accounts for `count` attempts, and for no more than there may be. -/
structure Attempted (count : Nat) (row : Task) : Prop where
  counted : count ≤ row.attemptCount + runningAttempts row
  bounded : row.attemptCount + runningAttempts row ≤ maxTaskAttempts
  completesStarted : row.startedAt = none → row.completedAt = none

variable {row : Task} {count : Nat}

theorem Attempted.secured (attempted : Attempted count row) {now : Date}
    (startable : startableCoreTaskWhere now row = true) (later : Date) :
    Attempted (count + 1) (startRow later systemExecutorMetadata row) := by
  simp only [startableCoreTaskWhere, Bool.and_eq_true, Option.isNone_iff_eq_none,
    decide_eq_true_eq] at startable
  obtain ⟨⟨⟨unstarted, left⟩, _⟩, _⟩ := startable
  have uncompleted := attempted.completesStarted unstarted
  have idle : runningAttempts row = 0 := by simp [runningAttempts, isRunning, unstarted]
  have busy : runningAttempts (startRow later systemExecutorMetadata row) = 1 := by
    simp [runningAttempts, isRunning, startRow, uncompleted]
  have counted := attempted.counted
  refine ⟨?_, ?_, fun cleared => by cases cleared⟩
  · rw [busy]
    show count + 1 ≤ row.attemptCount + 1
    omega
  · rw [busy]
    show row.attemptCount + 1 ≤ maxTaskAttempts
    omega

theorem Attempted.completed (attempted : Attempted count row) {completion : TaskCompletion}
    {now : Date} {logs : List SystemLogEntry} (completable : isCompletable row = true) :
    Attempted count (completeRow row completion now logs row) := by
  simp only [isCompletable, Bool.and_eq_true, Option.isNone_iff_eq_none] at completable
  obtain ⟨⟨undecided, uncompleted⟩, started⟩ := completable
  have busy : runningAttempts row = 1 := by
    simp [runningAttempts, isRunning, uncompleted, started]
  have counted := attempted.counted
  have bounded := attempted.bounded
  rcases requeue_cases row completion with plain | requeued | refused
  · obtain ⟨completedAt, _, startedAt⟩ := completeRow_terminal row now logs plain
    have idle : runningAttempts (completeRow row completion now logs row) = 0 := by
      simp [runningAttempts, isRunning, completedAt]
    refine ⟨?_, ?_, fun cleared => ?_⟩
    · rw [completeRow_attemptCount, idle]
      omega
    · rw [completeRow_attemptCount, idle]
      omega
    · grind
  · obtain ⟨reset, _⟩ := completeRow_requeued row now logs requeued
    have idle : runningAttempts (completeRow row completion now logs row) = 0 := by
      simp [runningAttempts, isRunning, reset.1]
    refine ⟨?_, ?_, fun _ => reset.2.2⟩
    · rw [completeRow_attemptCount, idle]
      omega
    · rw [completeRow_attemptCount, idle]
      omega
  · grind [refusesRequeue, hasAlreadyReachedMaxRequeues]

/-- Every step but a start by an app keeps the account. -/
theorem Attempted.step {row' : Task} {call : TaskCall} (attempted : Attempted count row)
    (step : RowStep row call row')
    (notStarted : ∀ executorMetadata, call ≠ .start row.id executorMetadata) :
    Attempted count row' := by
  cases step with
  | started now executorMetadata startable => exact absurd rfl (notStarted executorMetadata)
  | secured now startable later =>
      obtain ⟨counted, bounded, completesStarted⟩ := attempted.secured startable later
      exact ⟨Nat.le_of_succ_le counted, bounded, completesStarted⟩
  | heartbeat now context executorMetadata running =>
      exact ⟨attempted.counted, attempted.bounded, attempted.completesStarted⟩
  | progressed now report running =>
      exact ⟨attempted.counted, attempted.bounded, attempted.completesStarted⟩
  | completed completion now logs completable printed => exact attempted.completed completable

/-- A drain round that returns a task has started it. -/
theorem secures_starts {env : Env} {taskId : String} {world : World} {call : TaskCall}
    (secured : secures env taskId world call = true) (found : findTask taskId world.db = some row) :
    startableCoreTaskWhere (env.clock world.draws) row = true ∧ ∃ later,
      findTask taskId (TaskCall.step env world call).db =
        some (startRow later systemExecutorMetadata row) := by
  cases call with
  | secure securedId =>
      simp only [secures, Bool.and_eq_true, beq_iff_eq] at secured
      obtain ⟨rfl, returned⟩ := secured
      rcases startable : startableCoreTaskWhere (env.clock world.draws) row with _ | _
      · grind [drainCoreTask_skips]
      · obtain ⟨after, drained, rewrites⟩ := drainCoreTask_returns env found startable
        refine ⟨rfl, env.clock (world.draws + 1), ?_⟩
        unfold TaskCall.step TaskCall.perform
        rw [discard_state, drained]
        exact rewrites.keeps found (Std.Refl.refl after)
  | start _ _ => cases secured
  | heartbeat _ _ _ => cases secured
  | progress _ _ => cases secured
  | complete _ _ => cases secured

theorem securedCount_add_le {env : Env} {taskId : String} {world : World} {calls : List TaskCall}
    (found : findTask taskId world.db = some row) (attempted : Attempted count row)
    (notStarted : ∀ executorMetadata, TaskCall.start taskId executorMetadata ∉ calls) :
    count + securedCount env taskId world calls ≤ maxTaskAttempts := by
  induction calls generalizing world count row with
  | nil => exact Nat.le_trans attempted.counted attempted.bounded
  | cons call rest inductionHypothesis =>
      have laterNotStarted : ∀ executorMetadata, TaskCall.start taskId executorMetadata ∉ rest :=
        fun executorMetadata member =>
          notStarted executorMetadata (List.mem_cons_of_mem _ member)
      unfold securedCount
      split
      · rename_i secured
        obtain ⟨startable, later, started⟩ := secures_starts secured found
        have continued := inductionHypothesis started (attempted.secured startable later)
          laterNotStarted
        omega
      · obtain ⟨row', found', tracked⟩ := perform_tracks env world call taskId row found
        have attempted' : Attempted count row' := by
          grind [findTask_id, attempted.step]
        grind

/-- Along every run of a platform task, a requeue is picked up again exactly when it leaves an
attempt; and no run begins more attempts than there may be. -/
theorem coreTask_retries (env : Env) (start : World) (calls : List TaskCall) {row : Task}
    (found : findTask row.id start.db = some row) (reset : IsReset row)
    (unattempted : row.attemptCount = 0)
    (notStarted : ∀ executorMetadata, TaskCall.start row.id executorMetadata ∉ calls) :
    (AlongRun (TaskCall.step env) (PickedUpAgain env) start calls ↔
        AlongRun (TaskCall.step env) (LeavesAnAttempt env) start calls) ∧
      securedCount env row.id start calls ≤ maxTaskAttempts := by
  refine ⟨alongRun_congr (pickedUpAgain_iff env), ?_⟩
  have attempted : Attempted 0 row := by
    refine ⟨Nat.zero_le _, ?_, fun _ => reset.2.2⟩
    simp [runningAttempts, isRunning, reset.1, unattempted]
  have counted : 0 + securedCount env row.id start calls ≤ maxTaskAttempts :=
    securedCount_add_le found attempted notStarted
  omega

theorem coreTask_retries_once :
    (AlongRun (TaskCall.step Env.sample) (PickedUpAgain Env.sample) (worldOfTask sampleCoreTask)
        [.secure "task", .complete "task" sampleRetry] ↔
      AlongRun (TaskCall.step Env.sample) (LeavesAnAttempt Env.sample)
        (worldOfTask sampleCoreTask) [.secure "task", .complete "task" sampleRetry]) ∧
      securedCount Env.sample "task" (worldOfTask sampleCoreTask)
        [.secure "task", .complete "task" sampleRetry] ≤ maxTaskAttempts := by
  have found : findTask sampleCoreTask.id (worldOfTask sampleCoreTask).db = some sampleCoreTask :=
    rfl
  exact coreTask_retries Env.sample (worldOfTask sampleCoreTask)
    [.secure "task", .complete "task" sampleRetry] found ⟨rfl, rfl, rfl⟩ rfl (by simp)

/-- The task is drained and fails with a requeue, `rounds` times, and is drained once more. -/
def drainRounds (rounds : Nat) : List TaskCall :=
  (List.replicate rounds
    [TaskCall.secure "task", .complete "task" sampleRetry]).flatten ++ [.secure "task"]

/-- The fifth requeue of a fresh platform task strands it: no drain round selects it again. -/
theorem fifthRequeue_stranded :
    IsReset sampleCoreTask ∧ sampleCoreTask.attemptCount = 0 ∧
      ¬ AlongRun (TaskCall.step Env.sample) (PickedUpAgain Env.sample)
        (worldOfTask sampleCoreTask) (drainRounds 4 ++ [.complete "task" sampleRetry]) := by
  refine ⟨⟨rfl, rfl, rfl⟩, rfl, ?_⟩
  rw [alongRun_iff_split]
  intro pickedUp
  have pickedUpLast := pickedUp (drainRounds 4) (.complete "task" sampleRetry) [] rfl
  have isOk : (registerTaskCompleted Env.sample "task" sampleRetry
      (run (TaskCall.step Env.sample) (worldOfTask sampleCoreTask)
        (drainRounds 4))).1.isOk = true := by
    decide +kernel
  obtain ⟨result, after, returned⟩ := returns_of_isOk isOk
  have atLimit : (findTask "task" (run (TaskCall.step Env.sample) (worldOfTask sampleCoreTask)
      (drainRounds 4)).db).any (fun row => row.ownerId == coreIdentifier &&
        shouldRequeue row sampleRetry && row.attemptCount == 4) = true := by
    decide +kernel
  obtain ⟨row, found, holds⟩ := (Option.any_eq_true _ _).mp atLimit
  simp only [Bool.and_eq_true, beq_iff_eq] at holds
  obtain ⟨⟨core, requeued⟩, attempts⟩ := holds
  have rowId := findTask_id found
  have leaves := (pickedUpAgain_iff _ _ _).mp pickedUpLast row
    ⟨sampleRetry, result, after, by rw [rowId], by rw [rowId]; exact found, core, requeued,
      by rw [rowId]; exact returned⟩
  rw [attempts] at leaves
  exact absurd leaves (by decide)

end Lombok.Tasks
