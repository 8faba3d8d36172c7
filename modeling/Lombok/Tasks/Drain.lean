import Lombok.Tasks.Finality

/-!
Contract: the loop that works through the platform's own tasks.

Owns `_drainCoreTasks` and `startDrainCoreTasks`. One instance has one drain at a
time, so nothing of its own runs beside it; what other requests do meanwhile is
part of what a processor's run does to the state.

`Tended` is what a drain does to the tasks that are there. `executeCoreTask_tended`
proves it of one execution, however the processor and the registration of its
outcome end, and the rules for sequences take it through rounds and drains.
-/

namespace Lombok.Tasks

open Lombok.Core Lombok.Library Lombok.Library.Action Lombok.Apps Lombok.Events

/-! ### The drain -/

/-- `MAX_CONCURRENT_CORE_TASKS`. -/
def maxConcurrentCoreTasks : Nat := 10

def unstartedCoreTaskCount (env : Env) : Service Nat := do
  let now ← Service.now env
  Service.query fun db => (db.tasks.view (startableCoreTaskWhere now)).length

section Drain

variable (env : Env) (toEnvelope : ApiError → TaskError)
  (processors : String → Option CoreTaskProcessor) (runningTasksCount : Nat)

/-- The executions of one round, and how many they were. -/
def executeSelected : Service Nat :=
  if maxConcurrentCoreTasks - runningTasksCount = 0 then pure 0
  else do
    let now ← Service.now env
    let coreTasksToExecute ←
      Service.query (selectCoreTasks now (maxConcurrentCoreTasks - runningTasksCount))
    Action.each coreTasksToExecute fun task => executeCoreTask env toEnvelope processors task.id
    pure coreTasksToExecute.length

/-- `_drainCoreTasks`: the numbers of tasks `completed` and `pending`. `runningTasksCount` is back
at its value after every execution. -/
def drainCoreTasks : Service (Nat × Nat) := do
  let completed ← executeSelected env toEnvelope processors runningTasksCount
  let pending ← unstartedCoreTaskCount env
  pure (completed, pending)

/-- `startDrainCoreTasks` for a number of rounds: whether it ended in them. An error is logged and
ends it. -/
def startDrainCoreTasks : Nat → Service Bool
  | 0 => pure false
  | rounds + 1 => do
      let unstartedCoreTasksCount ← Action.tryCatch
        (do
          let drained ← drainCoreTasks env toEnvelope processors runningTasksCount
          pure drained.2)
        fun _ => pure 0
      if 0 < unstartedCoreTasksCount then startDrainCoreTasks rounds else pure true

end Drain

/-! ### What a drain does to the tasks -/

section Tended

variable (processors : String → Option CoreTaskProcessor)

/-- A task of the platform whose end the drain registers, with nothing to run after it. -/
def Attended (task : Task) : Prop :=
  task.ownerId = coreIdentifier ∧ task.invocation.onComplete = [] ∧
    ∃ processor, processors task.taskIdentifier = some processor ∧
      processor.shouldRegisterComplete = true

/-- No attended task is running or half ended, but for the exempt one. -/
def Settled (exempt : Option String) (world : World) : Prop :=
  ∀ taskId row, exempt ≠ some taskId → findTask taskId world.db = some row →
    Attended processors row → isRunning row = false ∧ WellEnded row

/-- Every task that was there follows itself. -/
def AllFollow (before after : World) : Prop :=
  ∀ taskId row, findTask taskId before.db = some row →
    ∃ row', findTask taskId after.db = some row' ∧ Follows row row'

structure Tended (exempt : Option String) (before after : World) : Prop where
  follows : AllFollow before after
  settled : Settled processors exempt before → Settled processors exempt after

/-- What a run of a processor may do, returning or throwing: it leaves no other attended task
running, and when the drain is to register the end of its own task, that is not ended yet. -/
structure RunsAside (processor : CoreTaskProcessor) : Prop where
  tends : ∀ task, Moves (Tended processors (some task.id)) (processor.run task)
  own : processor.shouldRegisterComplete = true → ∀ task before row,
    findTask task.id before.db = some row → isCompletable row = true →
      ∃ row', findTask task.id (processor.run task before).2.db = some row' ∧
        isCompletable row' = true

end Tended

section Rules

variable {processors : String → Option CoreTaskProcessor} {exempt : Option String}
  {taskId : String} {before after : World} {row row' : Task}

instance : DatabaseRelation AllFollow where
  refl _ _ row found := ⟨row, found, .refl row⟩
  trans _ _ _ left right taskId row found := by
    obtain ⟨middle, middleFound, first⟩ := left taskId row found
    obtain ⟨last, lastFound, second⟩ := right taskId middle middleFound
    exact ⟨last, lastFound, first.trans second⟩
  of_same_db same _ row found := ⟨row, by rw [same]; exact found, .refl row⟩

theorem Settled.of_same_db (same : after.db = before.db)
    (settled : Settled processors exempt before) : Settled processors exempt after := by
  intro other task apart found
  rw [same] at found
  exact settled other task apart found

instance : DatabaseRelation (Tended processors exempt) where
  refl world := ⟨Std.Refl.refl world, id⟩
  trans _ _ _ left right :=
    ⟨IsTrans.trans _ _ _ left.follows right.follows, right.settled ∘ left.settled⟩
  of_same_db same := ⟨DatabaseRelation.of_same_db same, Settled.of_same_db same⟩

theorem Follows.attended (follows : Follows row row') (attended : Attended processors row') :
    Attended processors row := by
  obtain ⟨owner, noHandlers, processor, registered, registers⟩ := attended
  have sameIdentifier := congrArg Task.taskIdentifier follows.requested
  refine ⟨(congrArg Task.ownerId follows.requested).symm.trans owner,
    (congrArg (·.invocation.onComplete) follows.requested).symm.trans noHandlers, processor, ?_,
    registers⟩
  exact (congrArg processors sameIdentifier).symm.trans registered

/-- A change of the exempt task alone keeps the others settled. -/
theorem Settled.rewrites {change : Task → Task} (rewrites : Rewrites taskId change before after)
    (settled : Settled processors (some taskId) before) :
    Settled processors (some taskId) after := by
  intro other task apart found
  have different : other ≠ taskId := fun same => apart (congrArg some same.symm)
  rw [rewrites other, if_neg different] at found
  exact settled other task apart found

theorem Settled.but (settled : Settled processors none before) :
    Settled processors (some taskId) before :=
  fun other task _ => settled other task nofun

/-- The exempt task is settled again when it is not running or was not attended. -/
theorem Settled.whole (settled : Settled processors (some taskId) after)
    (own : ∀ task, findTask taskId after.db = some task → Attended processors task →
      isRunning task = false ∧ WellEnded task) : Settled processors none after := by
  intro other task _ found attended
  by_cases same : taskId = other
  · subst same
    exact own task found attended
  · exact settled other task (fun equal => same (Option.some.inj equal)) found attended

theorem CreatedRow.unstarted (created : CreatedRow row) : row.startedAt = none := by
  rcases triggered : isEventTriggered row with _ | _
  · exact (created.plain triggered).startedAt
  · obtain ⟨_, isNew⟩ := created.triggered triggered
    exact isNew.startedAt

theorem CreatedRow.wellEnded (created : CreatedRow row) : WellEnded row := by
  rcases triggered : isEventTriggered row with _ | _
  · have isNew := created.plain triggered
    exact ⟨by rw [isNew.completedAt]; nofun, by rw [isNew.success, isNew.completedAt]; rfl⟩
  · obtain ⟨_, isNew⟩ := created.triggered triggered
    exact ⟨by rw [isNew.completedAt]; nofun, by rw [isNew.success, isNew.completedAt]; rfl⟩

/-- Registering a completion keeps the other tasks settled: it changes none of them, and starts
none of those it creates. -/
theorem Settled.complete (env : Env) (completion : TaskCompletion)
    (settled : Settled processors (some taskId) before) :
    Settled processors (some taskId) (registerTaskCompleted env taskId completion before).2 := by
  intro other task apart found attended
  have member : task ∈ (registerTaskCompleted env taskId completion before).2.db.tasks.rows :=
    List.mem_of_find?_eq_some found
  rcases addsCreated_registerTaskCompleted env taskId completion before task member with
    ⟨old, oldMember, sameId⟩ | created
  · rw [findTask_id found] at sameId
    have oldFound := findTask_of_mem oldMember
    rw [sameId] at oldFound
    obtain ⟨next, nextFound, same | step⟩ := tracks_complete env taskId before completion other
      old oldFound
    · have equal : task = old := by
        rw [found] at nextFound
        exact (Option.some.inj nextFound).trans same
      subst equal
      exact settled other task apart oldFound attended
    · exfalso
      cases step
      exact apart (congrArg some sameId)
  · exact ⟨by simp [isRunning, created.unstarted], created.wellEnded⟩

theorem complete_tended (env : Env) (completion : TaskCompletion) :
    Moves (Tended processors (some taskId)) (registerTaskCompleted env taskId completion) := by
  refine fun world => ⟨⟨?_, Settled.complete env completion⟩, fun _ _ => trivial⟩
  intro other row found
  obtain ⟨row', found', same | step⟩ := tracks_complete env taskId world completion other row found
  · exact ⟨row', found', same ▸ .refl row⟩
  · exact ⟨row', found', step.follows⟩

end Rules

/-! ### One execution -/

section Execution

variable (env : Env) (toEnvelope : ApiError → TaskError) {taskId : String} {before : World}
  {row : Task}

/-- A completion without a requeue and without handlers to run is always registered. -/
theorem registerTaskCompletedInTx_accepts {completion : TaskCompletion}
    (found : findTask taskId before.db = some row) (completable : isCompletable row = true)
    (noHandlers : row.invocation.onComplete = []) (plain : requeueRequested completion = false) :
    ∃ result after, Returns (registerTaskCompletedInTx env taskId completion) before result
      after := by
  let now := env.clock before.draws
  let logs := [completionLog completion now]
  have notRequeued : shouldRequeue row completion = false := by simp [shouldRequeue, plain]
  have printed : completionLogs row completion now = .ok logs := by
    simp [completionLogs, notRequeued, logs]
    rfl
  obtain ⟨written, update, _⟩ := Service.updateTasksReturning_returns
    (fun row => Task.hasId taskId row && isCompletable row) (completeRow row completion now logs)
    (completeRow_keeps row completion now logs) (Service.draw before)
  have hit : (Service.draw before).db.tasks.find?
      (fun row => Task.hasId taskId row && isCompletable row) = some row := by
    rw [find?_guarded]
    show (findTask taskId before.db).filter _ = some row
    rw [found, Option.filter_some, if_pos completable]
  rw [hit] at update
  have handled : Returns
      (executeOnCompleteHandlers env (completeRow row completion now logs row) completion) written
      () written := by
    have none_ : (completeRow row completion now logs row).invocation.onComplete = [] := by
      have same := congrArg Task.invocation (completeRow_kept completion now logs row).1
      exact (congrArg TaskInvocation.onComplete same).trans noHandlers
    unfold executeOnCompleteHandlers
    rw [none_]
    rfl
  obtain ⟨after, broadcast⟩ :=
    handleTaskUpdate_returns (completeRow row completion now logs row) written
  have completed := completable
  simp only [isCompletable, Bool.and_eq_true] at completed
  refine ⟨completeRow row completion now logs row, after, ?_⟩
  simp only [registerTaskCompletedInTx, returns_bind, Service.returns_query, Service.returns_now,
    returns_orThrow, returns_require, returns_ofExcept, returns_pure]
  refine ⟨now, _, ⟨rfl, rfl⟩, _, _, ⟨rfl, rfl⟩, row, _, ⟨found, rfl⟩, (), _,
    ⟨completed.2, rfl⟩, (), _, ⟨completed.1.2, rfl⟩, logs, _, ⟨printed, rfl⟩, _, written, update,
    (), written, ?_, _, written, ⟨rfl, rfl⟩, (), written, handled, (), after, ?_, rfl, rfl⟩
  · rw [notRequeued]
    rfl
  · simp only [broadcastCompletion, notRequeued, returns_bind]
    exact ⟨(), after, broadcast, rfl⟩

theorem registerTaskCompleted_ends {completion : TaskCompletion}
    (found : findTask taskId before.db = some row) (completable : isCompletable row = true)
    (noHandlers : row.invocation.onComplete = []) (plain : requeueRequested completion = false) :
    ∃ result after row', Returns (registerTaskCompleted env taskId completion) before result
      after ∧ findTask taskId after.db = some row' ∧ row'.completedAt.isSome = true := by
  obtain ⟨result, committed, inTx⟩ :=
    registerTaskCompletedInTx_accepts env found completable noHandlers plain
  obtain ⟨after, telemetry⟩ := emitTaskCompletionTelemetry_returns env result committed
  have returned : Returns (registerTaskCompleted env taskId completion) before result after := by
    simp only [registerTaskCompleted, returns_bind, returns_transaction, returns_pure]
    exact ⟨result, committed, inTx, (), after, telemetry, rfl, rfl⟩
  obtain ⟨same, now, logs, sameFound, _, _, foundAfter⟩ := registerTaskCompleted_row returned
  have equal : row = same := Option.some.inj (found.symm.trans sameFound)
  subst equal
  refine ⟨result, after, _, returned, foundAfter, ?_⟩
  rw [(completeRow_terminal row now logs plain).1]
  rfl

variable {processors : String → Option CoreTaskProcessor} {processor : CoreTaskProcessor}

theorem runCoreTask_tended (aside : RunsAside processors processor) (started : Task) :
    Moves (Tended processors (some started.id)) (runCoreTask env toEnvelope processor started) := by
  refine Ensures.tryCatch (Moves.bind (aside.tends started) fun _ => ?_) fun error => ?_
  · split
    · exact Moves.bind (complete_tended env _) fun _ => moves_pure ()
    · exact moves_pure ()
  · exact Moves.bind (complete_tended env _) fun _ => moves_pure ()

/-- A task whose end the drain registers has ended after its processor ran, whatever became of
that. -/
theorem runCoreTask_ends (aside : RunsAside processors processor)
    (registers : processor.shouldRegisterComplete = true) (started : Task)
    (found : findTask started.id before.db = some row) (completable : isCompletable row = true)
    (noHandlers : row.invocation.onComplete = []) :
    ∃ row', findTask started.id (runCoreTask env toEnvelope processor started before).2.db =
      some row' ∧ row'.completedAt.isSome = true := by
  obtain ⟨ran, ranFound, ranCompletable⟩ := aside.own registers started before row found completable
  have ranNoHandlers : ran.invocation.onComplete = [] := by
    obtain ⟨same, sameFound, follows⟩ :=
      (aside.tends started before).1.follows started.id row found
    rw [ranFound] at sameFound
    cases sameFound
    exact (congrArg (·.invocation.onComplete) follows.requested).trans noHandlers
  rw [runCoreTask, Action.tryCatch]
  rcases execution : processor.run started before with ⟨error | _, middle⟩
  · rw [execution] at ranFound
    obtain ⟨_, after, row', returned, ended⟩ := registerTaskCompleted_ends env ranFound
      ranCompletable ranNoHandlers
      (rfl : requeueRequested (.failed (toEnvelope error) none systemExecutorMetadata) = false)
    rw [bind_of_throws execution]
    dsimp only
    rw [bind_of_returns returned]
    exact ⟨row', ended⟩
  · rw [execution] at ranFound
    obtain ⟨_, after, row', returned, ended⟩ := registerTaskCompleted_ends env ranFound
      ranCompletable ranNoHandlers
      (rfl : requeueRequested (.succeeded none systemExecutorMetadata) = false)
    rw [bind_of_returns execution, if_pos registers, bind_of_returns returned]
    exact ⟨row', ended⟩

end Execution

/-- A task that was not started has not ended, so starting it makes it completable. -/
theorem WellEnded.completable {row : Task} (wellEnded : WellEnded row) (unstarted : row.startedAt = none)
    (now : Date) : isCompletable (startRow now systemExecutorMetadata row) = true := by
  have uncompleted : row.completedAt = none := by
    rcases completedAt : row.completedAt with _ | date
    · rfl
    · have started := wellEnded.started (by rw [completedAt]; rfl)
      rw [unstarted] at started
      cases started
  have undecided : row.success.isNone = true := by
    have outcome := wellEnded.outcome
    rw [uncompleted] at outcome
    rw [← Option.not_isSome, outcome]
    rfl
  simp [isCompletable, startRow, uncompleted, undecided]

/-- Securing a task starts it, or leaves everything as it was. -/
theorem secureCoreTask_cases (env : Env) (taskId : String) (before : World) :
    (∃ error, secureCoreTask env taskId before = (.error error, before)) ∨
      secureCoreTask env taskId before = (.ok none, before) ∨
      ∃ row now after, findTask taskId before.db = some row ∧ row.startedAt = none ∧
        Returns (secureCoreTask env taskId) before (some (startedAtRow now row)) after ∧
        Rewrites taskId (startRow now systemExecutorMetadata) before after := by
  have queried : Returns (Service.query (findTask taskId)) before (findTask taskId before.db)
      before := Service.returns_query.mpr ⟨rfl, rfl⟩
  rcases found : findTask taskId before.db with _ | row
  · refine .inl ⟨.error ("Task not found by ID \"" ++ taskId ++ "\"."), ?_⟩
    rw [secureCoreTask, bind_of_returns queried, found]
    rfl
  · have read : Returns (Action.orThrow (some row)
        (ApiError.error ("Task not found by ID \"" ++ taskId ++ "\".")) : Service Task) before row
        before := returns_orThrow.mpr ⟨rfl, rfl⟩
    rcases started : row.startedAt with _ | startedAt
    · by_cases core : row.ownerId = coreIdentifier
      · let now := env.clock before.draws
        obtain ⟨after, secured, rewrites⟩ :=
          startCoreTaskInTx_returns taskId now (Service.draw before)
        have drawn : findTask taskId (Service.draw before).db = some row := found
        rw [drawn] at secured
        refine .inr (.inr ⟨row, now, after, rfl, started, ?_, rewrites⟩)
        rw [Returns, secureCoreTask, bind_of_returns queried, found, bind_of_returns read, started]
        show Returns _ _ _ _
        simp only [core, Option.isSome_none, Bool.false_eq_true, ↓reduceIte, bne_self_eq_false,
          returns_bind, Service.returns_now, returns_orThrow, returns_pure]
        exact ⟨now, _, ⟨rfl, rfl⟩, _, after, secured, _, after, ⟨rfl, rfl⟩, rfl, rfl⟩
      · refine .inr (.inl ?_)
        rw [secureCoreTask, bind_of_returns queried, found, bind_of_returns read, started,
          if_neg nofun, if_pos (bne_iff_ne.mpr core)]
        rfl
    · refine .inr (.inl ?_)
      rw [secureCoreTask, bind_of_returns queried, found, bind_of_returns read, started,
        if_pos Option.isSome_some]
      rfl

/-! ### Rounds and drains -/

section Drains

variable (env : Env) (toEnvelope : ApiError → TaskError) {taskId : String}
  {processors : String → Option CoreTaskProcessor}
  (aside : ∀ identifier processor, processors identifier = some processor →
    RunsAside processors processor)

include aside

/-- However an execution ends, an attended task that it started has ended. -/
theorem executeCoreTask_tended :
    Moves (Tended processors none) (executeCoreTask env toEnvelope processors taskId) := by
  refine fun world => ⟨?_, fun _ _ => trivial⟩
  rcases secureCoreTask_cases env taskId world with
    ⟨error, failed⟩ | skipped | ⟨row, now, secured, found, unstarted, returned, rewrites⟩
  · rw [executeCoreTask, bind_of_throws failed]
    exact Std.Refl.refl world
  · rw [executeCoreTask, bind_of_returns skipped]
    exact Std.Refl.refl world
  · have sameId : (startedAtRow now row).id = taskId := by
      exact (findTask_id found : row.id = taskId)
    have first : Tended processors (some taskId) world secured := by
      refine ⟨fun other task otherFound => ?_, Settled.rewrites rewrites⟩
      have rewritten := rewrites other
      rw [otherFound] at rewritten
      by_cases same : other = taskId
      · subst same
        obtain rfl : row = task := Option.some.inj (found.symm.trans otherFound)
        rw [if_pos rfl] at rewritten
        exact ⟨_, rewritten, startRow_follows now systemExecutorMetadata unstarted⟩
      · rw [if_neg same] at rewritten
        exact ⟨task, rewritten, .refl task⟩
    have started : findTask taskId secured.db = some (startRow now systemExecutorMetadata row) := by
      rw [rewrites taskId, if_pos rfl, found]
      rfl
    rw [executeCoreTask, bind_of_returns returned]
    dsimp only
    rcases registered : processors (startedAtRow now row).taskIdentifier with _ | processor
    · -- without a processor the task stays started, but it is not attended
      refine ⟨first.follows, fun settled => (first.settled settled.but).whole ?_⟩
      intro task taskFound ⟨_, _, processor, isRegistered, _⟩
      rw [started] at taskFound
      cases taskFound
      exact absurd (registered.symm.trans isRegistered) nofun
    · have runs := runCoreTask_tended env toEnvelope (aside _ processor registered)
        (startedAtRow now row)
      rw [sameId] at runs
      have both : Tended processors (some taskId) world
          (runCoreTask env toEnvelope processor (startedAtRow now row) secured).2 :=
        IsTrans.trans _ _ _ first (runs secured).1
      refine ⟨both.follows, fun settled => (both.settled settled.but).whole ?_⟩
      intro task taskFound attended
      obtain ⟨same, sameFound, follows⟩ := both.follows taskId row found
      obtain rfl : task = same := Option.some.inj (taskFound.symm.trans sameFound)
      obtain ⟨owner, noHandlers, other, isRegistered, registers⟩ := follows.attended attended
      obtain rfl : processor = other := Option.some.inj (registered.symm.trans isRegistered)
      obtain ⟨_, wellEnded⟩ := settled taskId row nofun found
        ⟨owner, noHandlers, processor, isRegistered, registers⟩
      rw [← sameId] at started
      obtain ⟨ended, endedFound, isEnded⟩ := runCoreTask_ends env toEnvelope
        (aside _ processor registered) registers (startedAtRow now row) started
        (wellEnded.completable unstarted now) noHandlers
      rw [sameId] at endedFound
      obtain rfl : task = ended := Option.some.inj (taskFound.symm.trans endedFound)
      refine ⟨?_, follows.wellEnded wellEnded⟩
      simp [isRunning, Option.isSome_iff_ne_none.mp isEnded]

theorem drainCoreTasks_tended (runningTasksCount : Nat) :
    Moves (Tended processors none)
      (drainCoreTasks env toEnvelope processors runningTasksCount) := by
  refine Moves.bind ?_ fun completed => ?_
  · unfold executeSelected
    split
    · exact moves_pure 0
    · refine Moves.bind (Service.moves_now env) fun now => ?_
      refine Moves.bind (Service.moves_query _) fun selected => ?_
      refine Moves.bind ?_ fun _ => moves_pure _
      exact Moves.each selected fun task _ => executeCoreTask_tended env toEnvelope aside
  · refine Moves.bind (Moves.bind (Service.moves_now env) fun now => ?_) fun pending => moves_pure _
    exact Service.moves_query _

theorem startDrainCoreTasks_tended (runningTasksCount rounds : Nat) :
    Moves (Tended processors none)
      (startDrainCoreTasks env toEnvelope processors runningTasksCount rounds) := by
  induction rounds with
  | zero => exact moves_pure false
  | succ rounds inductionHypothesis =>
      rw [startDrainCoreTasks]
      refine Moves.bind ?_ fun unstartedCoreTasksCount => ?_
      · refine Ensures.tryCatch ?_ fun _ => moves_pure 0
        exact Moves.bind (drainCoreTasks_tended env toEnvelope aside runningTasksCount)
          fun drained => moves_pure drained.2
      · split
        · exact inductionHypothesis
        · exact moves_pure true

/-- A drain leaves no attended task running, whatever its processors return or throw, and writes
no task that had ended. -/
theorem startDrainCoreTasks_settles (runningTasksCount rounds : Nat) {world : World}
    (settled : Settled processors none world) :
    let drained := (startDrainCoreTasks env toEnvelope processors runningTasksCount rounds world).2
    Settled processors none drained ∧ AllFollow world drained := by
  have tended := (startDrainCoreTasks_tended env toEnvelope aside runningTasksCount rounds world).1
  exact ⟨tended.settled settled, tended.follows⟩

end Drains

/-- The platform with one processor, which always throws. -/
def throwingProcessors (identifier : String) : Option CoreTaskProcessor :=
  if identifier = sampleRequested.taskIdentifier then
    some ⟨true, fun _ => Action.throw (.error "failed")⟩
  else none

theorem startDrainCoreTasks_settles_throwing :
    let drained :=
      (startDrainCoreTasks Env.sample (fun _ => default) throwingProcessors 0 2 sampleQueue).2
    Settled throwingProcessors none drained ∧ AllFollow sampleQueue drained := by
  refine startDrainCoreTasks_settles Env.sample _ (fun identifier processor registered => ?_) 0 2
    fun taskId row _ found _ => ?_
  · simp only [throwingProcessors, Option.ite_none_right_eq_some, Option.some.injEq] at registered
    obtain ⟨_, rfl⟩ := registered
    exact ⟨fun _ => ensures_throw _, fun _ task before row found completable =>
      ⟨row, found, completable⟩⟩
  · obtain rfl := List.mem_singleton.mp (List.mem_of_find?_eq_some found)
    exact ⟨rfl, nofun, rfl⟩

end Lombok.Tasks
