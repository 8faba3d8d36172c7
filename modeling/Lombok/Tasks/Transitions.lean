import Lombok.Tasks.CoreTask
import Lombok.Tasks.Growth

/-!
Contract: what one call does to one task row.

`RowStep` is the abstract machine of a single row: the five things that can
happen to it, each with its guard. `perform_tracks` connects it to the services:
whatever call is made on whatever task, a row either stays as it is or makes one
step of the machine, and only a row the call names makes one. `Returns`-lemmas
say which step a normal return stands for.

Does not own: sequences of calls, and rows that are added along the way.
-/

namespace Lombok.Tasks

open Lombok.Core Lombok.Library Lombok.Library.Action Lombok.Apps Lombok.Events

/-! ### Rows that stay, and rows that are rewritten -/

/-- Every row that is there stays there, unchanged. -/
def KeepsTasks (before after : World) : Prop :=
  ∀ taskId task, findTask taskId before.db = some task → findTask taskId after.db = some task

instance : DatabaseRelation KeepsTasks where
  refl _ _ _ found := found
  trans _ _ _ first second taskId task found := second taskId task (first taskId task found)
  of_same_db same taskId task found := by rw [same]; exact found

/-- The row of one task is changed, every other row stays. -/
def Rewrites (taskId : String) (change : Task → Task) (before after : World) : Prop :=
  ∀ other, findTask other after.db =
    if other = taskId then (findTask other before.db).map change else findTask other before.db

theorem keepsTasks_of_grows {newTask : Task → Prop} {newEvent : Event → Prop} {before after : World}
    (grows : Grows newTask newEvent before after) : KeepsTasks before after :=
  fun _ _ found => grows.find?_task found

/-- A call that only adds rows keeps every row. -/
theorem moves_keepsTasks {α : Type} {operation : Service α}
    (moves : ∀ snapshot, Moves (GrowsOver snapshot (fun _ => True) fun _ => True) operation) :
    Moves KeepsTasks operation :=
  fun world => ⟨keepsTasks_of_grows (moves_grows moves world).1, fun _ _ => trivial⟩

/-- Looking a task up with a further guard is looking it up and testing the guard. -/
theorem find?_guarded (taskId : String) (guard : Task → Bool) (db : Database) :
    db.tasks.find? (fun row => Task.hasId taskId row && guard row) =
      (findTask taskId db).filter guard := by
  refine Table.find?_and_of_unique db.tasks ?_
  grind [Task.hasId, Task.eq_of_id]

theorem findTask_id {taskId : String} {db : Database} {task : Task}
    (found : findTask taskId db = some task) : task.id = taskId := by
  have holds := List.find?_some found
  simpa [Task.hasId] using holds

theorem findTask_of_mem {db : Database} {task : Task} (member : task ∈ db.tasks.rows) :
    findTask task.id db = some task := by
  rcases found : findTask task.id db with _ | other
  · have missing := List.find?_eq_none.mp found task member
    simp [Task.hasId] at missing
  · have otherMember := List.mem_of_find?_eq_some found
    rw [Task.eq_of_id db.tasks otherMember member (findTask_id found)]

/-- What a lookup finds after an update that leaves identifiers alone. -/
theorem findTask_update {condition : Task → Bool} {change : Task → Task}
    {keeps : Keeps Task.clash change} {before after : World}
    (sameId : ∀ task, (change task).id = task.id)
    (written : after.db = { before.db with
      tasks := before.db.tasks.update condition change keeps }) (taskId : String) :
    findTask taskId after.db = (findTask taskId before.db).map
      fun task => if condition task then change task else task := by
  have stable : ∀ task, Task.hasId taskId (change task) = Task.hasId taskId task := by
    intro task
    unfold Task.hasId
    rw [sameId]
  rw [written]
  show (before.db.tasks.update _ change keeps).find? (Task.hasId taskId) = _
  exact Table.find?_update stable

section Update

variable {taskId : String} {condition : Task → Bool} {change : Task → Task}
  {keeps : Keeps Task.clash change} {before after : World}

theorem rewrites_update (sameId : ∀ task, (change task).id = task.id)
    (named : ∀ row, condition row = true → row.id = taskId)
    (hit : ∀ row, findTask taskId before.db = some row → condition row = true)
    (written : after.db = { before.db with
      tasks := before.db.tasks.update condition change keeps }) :
    Rewrites taskId change before after := by
  intro other
  rw [findTask_update sameId written]
  rcases found : findTask other before.db with _ | task
  · simp
  · by_cases same : other = taskId
    · rw [same] at found
      simp [same, hit task found]
    · have missed : condition task = false := by
        rw [Bool.eq_false_iff]
        intro holds
        exact same ((findTask_id found).symm.trans (named task holds))
      simp [same, missed]

theorem named_of_guarded {guard : Task → Bool} (row : Task)
    (holds : (Task.hasId taskId row && guard row) = true) : row.id = taskId := by
  grind [Task.hasId]

end Update

theorem Rewrites.trans {taskId : String} {first second : Task → Task} {before middle after : World}
    (left : Rewrites taskId first before middle) (right : Rewrites taskId second middle after) :
    Rewrites taskId (second ∘ first) before after := by
  intro other
  rw [right other, left other]
  split
  · rw [Option.map_map]
  · rfl

theorem Rewrites.of_sameDb {taskId : String} {change : Task → Task}
    {before middle after : World} (rewrites : Rewrites taskId change before middle)
    (same : SameDb middle after) : Rewrites taskId change before after := by
  intro other
  rw [same]
  exact rewrites other

theorem Rewrites.keeps {taskId : String} {change : Task → Task} {before middle after : World}
    (rewrites : Rewrites taskId change before middle) {row : Task}
    (found : findTask taskId before.db = some row) (kept : KeepsTasks middle after) :
    findTask taskId after.db = some (change row) := by
  refine kept taskId (change row) ?_
  rw [rewrites taskId, if_pos rfl, found]
  rfl

theorem Rewrites.other {taskId : String} {change : Task → Task} {before middle after : World}
    (rewrites : Rewrites taskId change before middle) {otherId : String} {other : Task}
    (different : otherId ≠ taskId) (found : findTask otherId before.db = some other)
    (kept : KeepsTasks middle after) : findTask otherId after.db = some other := by
  refine kept otherId other ?_
  rw [rewrites otherId, if_neg different]
  exact found

/-! ### The calls -/

/-- The calls that change task rows. -/
inductive TaskCall where
  | start (taskId : String) (executorMetadata : Json)
  | secure (taskId : String)
  | heartbeat (taskId : String) (context : Option HeartbeatContext)
      (executorMetadata : Option Json)
  | progress (taskId : String) (report : TaskProgressReport)
  | complete (taskId : String) (completion : TaskCompletion)

namespace TaskCall

def taskId : TaskCall → String
  | start taskId _ => taskId
  | secure taskId => taskId
  | heartbeat taskId _ _ => taskId
  | progress taskId _ => taskId
  | complete taskId _ => taskId

/-- The service call, without the row it returns. -/
def perform (env : Env) : TaskCall → Service Unit
  | start taskId executorMetadata => do
      let _ ← registerTaskStarted env taskId executorMetadata
      pure ()
  | secure taskId => do
      let _ ← drainCoreTask env taskId
      pure ()
  | heartbeat taskId context executorMetadata => do
      let _ ← registerHeartbeat env taskId context executorMetadata
      pure ()
  | progress taskId report => do
      let _ ← registerTaskProgress env taskId report
      pure ()
  | complete taskId completion => do
      let _ ← registerTaskCompleted env taskId completion
      pure ()

/-- The state after a call, however it ended. -/
def step (env : Env) (world : World) (call : TaskCall) : World := (call.perform env world).2

end TaskCall

/-! ### The abstract machine -/

/-- The steps of a single task row, by the call that causes them. -/
inductive RowStep (row : Task) : TaskCall → Task → Prop where
  | started (now : Date) (executorMetadata : Json) (startable : isStartable row = true) :
      RowStep row (.start row.id executorMetadata) (startRow now executorMetadata row)
  | secured (now : Date) (startable : startableCoreTaskWhere now row = true) (later : Date) :
      RowStep row (.secure row.id) (startRow later systemExecutorMetadata row)
  | heartbeat (now : Date) (context : Option HeartbeatContext) (executorMetadata : Option Json)
      (running : isRunning row = true) :
      RowStep row (.heartbeat row.id context executorMetadata)
        (heartbeatRow now context executorMetadata row)
  | progressed (now : Date) (report : ReceivedTaskProgressReport) (running : isRunning row = true) :
      RowStep row (.progress row.id report.toTaskProgressReport) (progressRow now report row)
  | completed (completion : TaskCompletion) (now : Date) (logs : List SystemLogEntry)
      (completable : isCompletable row = true)
      (printed : completionLogs row completion now = .ok logs) :
      RowStep row (.complete row.id completion) (completeRow row completion now logs row)

/-- After the call the row is as before or one step further. -/
def Tracks (call : TaskCall) (before after : World) : Prop :=
  ∀ taskId row, findTask taskId before.db = some row →
    ∃ row', findTask taskId after.db = some row' ∧ (row' = row ∨ RowStep row call row')

theorem tracks_of_keeps {call : TaskCall} {before after : World}
    (kept : KeepsTasks before after) : Tracks call before after :=
  fun taskId row found => ⟨row, kept taskId row found, .inl rfl⟩

theorem Rewrites.tracks {call : TaskCall} {taskId : String} {change : Task → Task}
    {before middle after : World} (rewrites : Rewrites taskId change before middle) {named : Task}
    (namedFound : findTask taskId before.db = some named)
    (stepped : RowStep named call (change named)) (kept : KeepsTasks middle after) :
    Tracks call before after := by
  intro otherId row found
  by_cases same : otherId = taskId
  · subst same
    have rowEqual : named = row := Option.some.inj (namedFound.symm.trans found)
    grind [rewrites.keeps]
  · exact ⟨row, rewrites.other same found kept, .inl rfl⟩

/-! ### What the calls do besides their own update -/

section Frames

variable (env : Env)

theorem keepsTasks_announce (task : Task) :
    Moves KeepsTasks (emitRunnableTaskEnqueuedEvent (emitEventWithTx env) task) :=
  moves_keepsTasks fun snapshot => grows_announce env (.all snapshot) task

theorem keepsTasks_answerProgress (task : Task) (report : TaskProgressReport)
    (stored : ReceivedTaskProgressReport) :
    Moves KeepsTasks (answerProgress env report stored task) :=
  moves_keepsTasks fun snapshot =>
    grows_answerProgress env (.all snapshot) task report stored fun _ _ _ _ _ _ _ _ => trivial

theorem keepsTasks_announceRequeued (requeued : Bool) (updated : Option Task) :
    Moves KeepsTasks (announceRequeued env requeued updated) :=
  moves_keepsTasks fun snapshot => grows_announceRequeued env (.all snapshot) requeued updated

theorem keepsTasks_completeTurn (task : Task) (completion : TaskCompletion)
    (indexed : TaskOnCompleteConfig × Nat) :
    Moves KeepsTasks
      (if handlerFires env task.id completion indexed.1 then
        executeOnCompleteHandler env task completion.success indexed.1 indexed.2
      else pure ()) :=
  moves_keepsTasks fun snapshot =>
    grows_completeTurn env (.all snapshot) task completion indexed fun _ _ _ _ _ => trivial

theorem keepsTasks_executeOnCompleteHandlers (task : Task) (completion : TaskCompletion) :
    Moves KeepsTasks (executeOnCompleteHandlers env task completion) :=
  moves_keepsTasks fun snapshot =>
    grows_executeOnCompleteHandlers env (.all snapshot) task completion
      fun _ _ _ _ _ _ _ _ => trivial

theorem keepsTasks_emitTaskCompletionTelemetry (task : Task) :
    Moves KeepsTasks (emitTaskCompletionTelemetry env task) :=
  moves_keepsTasks fun _ =>
    grows_emitTaskCompletionTelemetry env task (fun _ _ _ _ => trivial) fun _ _ => trivial

theorem emitTaskCompletionTelemetry_returns (task : Task) (before : World) :
    ∃ after, Returns (emitTaskCompletionTelemetry env task) before () after := by
  unfold emitTaskCompletionTelemetry
  split
  · exact ⟨before, returns_pure.mpr ⟨rfl, rfl⟩⟩
  · exact returns_tryCatch_pure _ before ()

end Frames

/-! ### What a normal return stands for -/

section Returns

variable {env : Env} {taskId : String} {before after : World}

/-- A guarded update that hit a row hit the one the lookup finds. -/
theorem returns_guardedUpdate {guard : Task → Bool} {change : Task → Task}
    {keeps : Keeps Task.clash change} {updated : Option Task}
    (sameId : ∀ task, (change task).id = task.id)
    (returned : Returns (Service.updateTasksReturning
      (fun row => Task.hasId taskId row && guard row) change keeps) before updated after) :
    updated = ((findTask taskId before.db).filter guard).map change ∧
      ∀ row, findTask taskId before.db = some row → guard row = true →
        Rewrites taskId change before after := by
  obtain ⟨value, written, _, _⟩ := Service.returns_updateTasksReturning.mp returned
  rw [find?_guarded] at value
  refine ⟨value, fun row found admitted => ?_⟩
  refine rewrites_update sameId named_of_guarded (fun other otherFound => ?_) written
  have same : row = other := Option.some.inj (found.symm.trans otherFound)
  subst same
  simp [Task.hasId, findTask_id found, admitted]

theorem completeRow_id (task : Task) (completion : TaskCompletion) (now : Date)
    (logs : List SystemLogEntry) (row : Task) :
    (completeRow task completion now logs row).id = row.id := by
  cases completion with
  | succeeded result executorMetadata => rfl
  | failed error requeueDelayMs executorMetadata =>
      grind [completeRow]

theorem moves_broadcastCompletion {relation : World → World → Prop} [DatabaseRelation relation]
    (requeued : Bool) (updatedTask : Task) :
    Moves relation (broadcastCompletion requeued updatedTask) := by
  refine Moves.bind (moves_handleTaskUpdate updatedTask) fun _ => ?_
  split
  · exact moves_handleTaskUpdate updatedTask
  · exact moves_pure ()

theorem registerTaskStarted_returns {executorMetadata : Json} {result : Task}
    (returned : Returns (registerTaskStarted env taskId executorMetadata) before result after) :
    ∃ row now, findTask taskId before.db = some row ∧ isStartable row = true ∧
      result = startRow now executorMetadata row ∧
      Rewrites taskId (startRow now executorMetadata) before after := by
  simp only [registerTaskStarted, registerTaskStartedInTx, returns_transaction, returns_bind,
    Service.returns_query, returns_orThrow, returns_require, returns_pure] at returned
  obtain ⟨_, before, ⟨rfl, rfl⟩, row, before, ⟨found, rfl⟩, _, before, ⟨startable, rfl⟩, now,
    clocked, tick, updated, written, update, result, written, ⟨hit, rfl⟩, _, after, notified, rfl,
    rfl⟩ := returned
  obtain ⟨_, rfl⟩ := Service.returns_now.mp tick
  have sameId : ∀ task, (startRow now executorMetadata task).id = task.id := fun _ => rfl
  obtain ⟨value, rewrites⟩ := returns_guardedUpdate sameId update
  have unstarted : row.startedAt.isNone = true := by
    grind [isStartable]
  have sameDb : SameDb _ after :=
    ((moves_handleTaskUpdate result).of_returns notified).1
  refine ⟨row, now, found, startable, ?_, (rewrites row found unstarted).of_sameDb sameDb⟩
  grind [Service.draw]

theorem registerHeartbeat_returns {context : Option HeartbeatContext}
    {executorMetadata : Option Json} {result : Task}
    (returned : Returns (registerHeartbeat env taskId context executorMetadata) before result
      after) :
    ∃ row now, findTask taskId before.db = some row ∧ isRunning row = true ∧
      result = heartbeatRow now context executorMetadata row ∧
      Rewrites taskId (heartbeatRow now context executorMetadata) before after := by
  simp only [registerHeartbeat, registerHeartbeatInTx, returns_transaction, returns_bind,
    Service.returns_query, returns_orThrow, returns_require] at returned
  obtain ⟨_, before, ⟨rfl, rfl⟩, row, before, ⟨found, rfl⟩, _, before, ⟨running, rfl⟩, now,
    clocked, tick, updated, after, update, hit, rfl⟩ := returned
  obtain ⟨_, rfl⟩ := Service.returns_now.mp tick
  have sameId : ∀ task, (heartbeatRow now context executorMetadata task).id = task.id :=
    fun _ => rfl
  obtain ⟨value, rewrites⟩ := returns_guardedUpdate sameId update
  refine ⟨row, now, found, running, ?_, rewrites row found running⟩
  grind [Service.draw]

theorem registerHeartbeatInTx_accepts {world : World} {row : Task}
    (found : findTask taskId world.db = some row) (running : isRunning row = true)
    (context : Option HeartbeatContext) (executorMetadata : Option Json) : ∃ beaten after,
      Returns (registerHeartbeatInTx env taskId context executorMetadata) world beaten after := by
  obtain ⟨written, update, _⟩ := Service.updateTasksReturning_returns
    (fun row => Task.hasId taskId row && isRunning row)
    (heartbeatRow (env.clock world.draws) context executorMetadata)
    (heartbeatRow_keeps (env.clock world.draws) context executorMetadata) (Service.draw world)
  have hit : (Service.draw world).db.tasks.find?
      (fun row => Task.hasId taskId row && isRunning row) = some row := by
    rw [find?_guarded]
    show (findTask taskId world.db).filter _ = some row
    rw [found, Option.filter_some, if_pos running]
  rw [hit] at update
  refine ⟨heartbeatRow (env.clock world.draws) context executorMetadata row, written, ?_⟩
  simp only [registerHeartbeatInTx, returns_bind, Service.returns_query, Service.returns_now,
    returns_orThrow, returns_require]
  grind

/-- What a completion that returned normally found and did, statement by statement. -/
structure CompletionRun (env : Env) (taskId : String) (completion : TaskCompletion)
    (before : World) (row : Task) (now : Date) (logs : List SystemLogEntry)
    (written announced handled after : World) : Prop where
  found : findTask taskId before.db = some row
  completable : isCompletable row = true
  printed : completionLogs row completion now = .ok logs
  rewrites : Rewrites taskId (completeRow row completion now logs) before written
  writes : written.db = { before.db with
    tasks := before.db.tasks.update (fun row => Task.hasId taskId row && isCompletable row)
      (completeRow row completion now logs) (completeRow_keeps row completion now logs) }
  announces : Returns (announceRequeued env (shouldRequeue row completion)
    (some (completeRow row completion now logs row))) written () announced
  handles : Returns (executeOnCompleteHandlers env (completeRow row completion now logs row)
    completion) announced () handled
  rest : SameDb handled after

theorem registerTaskCompletedInTx_returns {completion : TaskCompletion} {result : Task}
    (returned : Returns (registerTaskCompletedInTx env taskId completion) before result after) :
    ∃ row now logs written announced handled,
      result = completeRow row completion now logs row ∧
      CompletionRun env taskId completion before row now logs written announced handled after := by
  simp only [registerTaskCompletedInTx, returns_bind, Service.returns_query, returns_orThrow,
    returns_require, returns_ofExcept, returns_pure] at returned
  obtain ⟨now, clocked, tick, _, clocked, ⟨rfl, rfl⟩, row, clocked, ⟨found, rfl⟩, _, clocked,
    ⟨started, rfl⟩, _, clocked, ⟨uncompleted, rfl⟩, logs, clocked, ⟨printed, rfl⟩, updated,
    written, update, _, announced, announces, updatedTask, announced, ⟨hit, rfl⟩, _, handled,
    handles, _, after, notified, rfl, rfl⟩ := returned
  obtain ⟨_, rfl⟩ := Service.returns_now.mp tick
  have written_db := (Service.returns_updateTasksReturning.mp update).2.1
  obtain ⟨value, rewrites⟩ :=
    returns_guardedUpdate (completeRow_id row completion now logs) update
  have drawn : findTask taskId (Service.draw before).db = some row := found
  rw [hit, drawn] at value
  have completable : isCompletable row = true := by
    grind
  have updatedEqual : result = completeRow row completion now logs row := by
    simpa [completable, Option.filter_some] using value
  rw [updatedEqual] at hit handles notified
  rw [hit] at announces
  refine ⟨row, now, logs, written, announced, handled, updatedEqual, found, completable, printed,
    rewrites row found completable, written_db, announces, handles, ?_⟩
  exact ((moves_broadcastCompletion _ _).of_returns notified).1

theorem registerTaskProgress_cases (env : Env) (taskId : String) (report : TaskProgressReport)
    (before : World) :
    SameDb before (registerTaskProgress env taskId report before).2 ∨
      ∃ row stored now written, stored.toTaskProgressReport = report ∧
        findTask taskId before.db = some row ∧ isRunning row = true ∧
        written.db = { before.db with
          tasks := before.db.tasks.update (fun row => Task.hasId taskId row && isRunning row)
            (progressRow now stored) (progressRow_keeps now stored) } ∧
        (registerTaskProgress env taskId report before).2 =
          (answerProgress env report stored (progressRow now stored row) written).2 := by
  have clocked : Returns (Service.now env) before (env.clock before.draws) (Service.draw before) :=
    Service.returns_now.mpr ⟨rfl, rfl⟩
  rw [registerTaskProgress, bind_of_returns clocked]
  generalize env.clock before.draws = now
  rcases printed : Date.toISOString now with error | receivedAt
  · exact .inl rfl
  · have converted : Returns (Action.ofExcept (.ok receivedAt) : Service String)
        (Service.draw before) receivedAt (Service.draw before) := returns_ofExcept.mpr ⟨rfl, rfl⟩
    rw [bind_of_returns converted]
    let stored : ReceivedTaskProgressReport :=
      { toTaskProgressReport := report, receivedAt := receivedAt }
    obtain ⟨written, update, writtenDb⟩ := Service.updateTasksReturning_returns
      (fun row => Task.hasId taskId row && isRunning row) (progressRow now stored)
      (progressRow_keeps now stored) (Service.draw before)
    rw [storeProgress, bind_of_returns update, find?_guarded]
    show SameDb before (_ : Except ApiError (Option Task) × World).2 ∨ _
    rcases hit : (findTask taskId before.db).filter isRunning with _ | row
    · have missed : ∀ row ∈ before.db.tasks.rows,
          (Task.hasId taskId row && isRunning row) = false := by
        have guarded := (find?_guarded taskId isRunning before.db).trans hit
        intro row member
        simpa using List.find?_eq_none.mp guarded row member
      have unchanged := Table.update_missed (progressRow_keeps now stored) missed
      refine .inl ?_
      have drawn : findTask taskId (Service.draw before).db = findTask taskId before.db := rfl
      rw [drawn, hit]
      show written.db = before.db
      refine writtenDb.trans ?_
      show { before.db with
        tasks := before.db.tasks.update (fun row => Task.hasId taskId row && isRunning row)
          (progressRow now stored) (progressRow_keeps now stored) } = before.db
      rw [unchanged]
    · obtain ⟨found, running⟩ := Option.filter_eq_some_iff.mp hit
      refine .inr ⟨row, stored, now, written, rfl, found, running, writtenDb, ?_⟩
      have drawn : findTask taskId (Service.draw before).db = findTask taskId before.db := rfl
      rw [drawn, hit]
      rfl

/-- A completion that returns has found its row and left it as its update says. -/
theorem registerTaskCompleted_returns {completion : TaskCompletion} {result : Task}
    (returned : Returns (registerTaskCompleted env taskId completion) before result after) :
    ∃ row now logs written announced handled committed,
      result = completeRow row completion now logs row ∧
      CompletionRun env taskId completion before row now logs written announced handled
        committed ∧
      Returns (emitTaskCompletionTelemetry env result) committed () after := by
  simp only [registerTaskCompleted, returns_bind, returns_transaction, returns_pure] at returned
  grind [registerTaskCompletedInTx_returns]

theorem CompletionRun.keeps {completion : TaskCompletion} {row : Task} {now : Date}
    {logs : List SystemLogEntry} {written announced handled : World}
    (run : CompletionRun env taskId completion before row now logs written announced handled
      after) : KeepsTasks written after := by
  have first := ((keepsTasks_announceRequeued env _ _).of_returns run.announces).1
  have second := ((keepsTasks_executeOnCompleteHandlers env _ completion).of_returns run.handles).1
  have third : KeepsTasks handled after := DatabaseRelation.of_same_db run.rest
  exact IsTrans.trans _ _ _ (IsTrans.trans _ _ _ first second) third

/-- A completion that returns leaves its row as the update says, whatever its handlers add. -/
theorem registerTaskCompleted_row {completion : TaskCompletion} {result : Task}
    (returned : Returns (registerTaskCompleted env taskId completion) before result after) :
    ∃ row now logs, findTask taskId before.db = some row ∧ isCompletable row = true ∧
      completionLogs row completion now = .ok logs ∧
      findTask taskId after.db = some (completeRow row completion now logs row) := by
  obtain ⟨row, now, logs, written, announced, handled, committed, _, run, telemetry⟩ :=
    registerTaskCompleted_returns returned
  have telemetryKeeps :=
    ((keepsTasks_emitTaskCompletionTelemetry env result).of_returns telemetry).1
  have left : findTask taskId after.db = some (completeRow row completion now logs row) :=
    run.rewrites.keeps run.found (IsTrans.trans _ _ _ run.keeps telemetryKeeps)
  exact ⟨row, now, logs, run.found, run.completable, run.printed, left⟩

/-- A completion returns or leaves the state as it was. -/
theorem registerTaskCompleted_cases (env : Env) (taskId : String) (completion : TaskCompletion)
    (before : World) :
    (∃ result after, Returns (registerTaskCompleted env taskId completion) before result after) ∨
      ∃ error, registerTaskCompleted env taskId completion before = (.error error, before) := by
  rcases transaction_cases (registerTaskCompletedInTx env taskId completion) before with
    ⟨result, committed, _, completed⟩ | ⟨error, failed⟩
  · obtain ⟨after, telemetry⟩ := emitTaskCompletionTelemetry_returns env result committed
    refine .inl ⟨result, after, ?_⟩
    simp only [registerTaskCompleted, returns_bind, returns_pure]
    exact ⟨result, committed, completed, (), after, telemetry, rfl, rfl⟩
  · refine .inr ⟨error, ?_⟩
    show Action.bind (Action.transaction _) _ before = _
    rw [Action.bind, failed]

theorem startCoreTaskInTx_returns (taskId : String) (startedTimestamp : Date) (before : World) :
    ∃ after, Returns (startCoreTaskInTx taskId startedTimestamp) before
        ((findTask taskId before.db).map (startedAtRow startedTimestamp)) after ∧
      Rewrites taskId (startRow startedTimestamp systemExecutorMetadata) before after := by
  obtain ⟨middle, update, middleDb⟩ := Service.updateTasksReturning_returns (Task.hasId taskId)
    (startedAtRow startedTimestamp) (startedAtRow_keeps startedTimestamp) before
  obtain ⟨after, secondUpdate, afterDb⟩ := Service.updateTasks_returns (Task.hasId taskId)
    (coreStartLogRow startedTimestamp) (coreStartLogRow_keeps startedTimestamp) middle
  have named : ∀ row, Task.hasId taskId row = true → row.id = taskId := by simp [Task.hasId]
  have hit : ∀ (world : World) row, findTask taskId world.db = some row →
      Task.hasId taskId row = true := by
    intro world row found
    simp [Task.hasId, findTask_id found]
  have first : Rewrites taskId (startedAtRow startedTimestamp) before middle :=
    rewrites_update (fun _ => rfl) named (hit before) middleDb
  have second : Rewrites taskId (coreStartLogRow startedTimestamp) middle after :=
    rewrites_update (fun _ => rfl) named (hit middle) afterDb
  refine ⟨after, ?_, first.trans second⟩
  simp only [startCoreTaskInTx, returns_transaction, returns_bind, returns_pure]
  exact ⟨_, middle, update, (), after, secondUpdate, rfl, rfl⟩

/-- A drain round passes over a task its predicate does not select. -/
theorem drainCoreTask_skips (env : Env) {taskId : String} {before : World}
    (skipped : (findTask taskId before.db).any
      (startableCoreTaskWhere (env.clock before.draws)) = false) :
    drainCoreTask env taskId before = (.ok none, Service.draw before) := by
  have clocked : Returns (Service.now env) before (env.clock before.draws) (Service.draw before) :=
    Service.returns_now.mpr ⟨rfl, rfl⟩
  have queried : Returns (Service.query (findTask taskId)) (Service.draw before)
      (findTask taskId before.db) (Service.draw before) := Service.returns_query.mpr ⟨rfl, rfl⟩
  rw [drainCoreTask, bind_of_returns clocked, bind_of_returns queried, skipped]
  rfl

theorem drainCoreTask_returns (env : Env) {taskId : String} {before : World} {row : Task}
    (found : findTask taskId before.db = some row)
    (startable : startableCoreTaskWhere (env.clock before.draws) row = true) :
    ∃ after, Returns (drainCoreTask env taskId) before
        (some (startedAtRow (env.clock (before.draws + 1)) row)) after ∧
      Rewrites taskId (startRow (env.clock (before.draws + 1)) systemExecutorMetadata) before
        after := by
  have clocked : Returns (Service.now env) before (env.clock before.draws) (Service.draw before) :=
    Service.returns_now.mpr ⟨rfl, rfl⟩
  have queried : Returns (Service.query (findTask taskId)) (Service.draw before) (some row)
      (Service.draw before) := Service.returns_query.mpr ⟨found.symm, rfl⟩
  have reclocked : Returns (Service.now env) (Service.draw before)
      (env.clock (before.draws + 1)) (Service.draw (Service.draw before)) :=
    Service.returns_now.mpr ⟨rfl, rfl⟩
  obtain ⟨after, secured, rewrites⟩ := startCoreTaskInTx_returns taskId
    (env.clock (before.draws + 1)) (Service.draw (Service.draw before))
  have twiceDrawn : findTask taskId (Service.draw (Service.draw before)).db = some row := found
  rw [twiceDrawn] at secured
  refine ⟨after, ?_, rewrites⟩
  simp only [startableCoreTaskWhere, Bool.and_eq_true, Option.isNone_iff_eq_none,
    beq_iff_eq] at startable
  obtain ⟨⟨⟨unstarted, _⟩, _⟩, core⟩ := id startable
  have selected : (some row).any (startableCoreTaskWhere (env.clock before.draws)) = true := by
    simp [startableCoreTaskWhere, startable]
  unfold drainCoreTask
  rw [Returns, bind_of_returns clocked, bind_of_returns queried, if_pos selected]
  rw [secureCoreTask, bind_of_returns queried]
  show Returns _ _ _ _
  simp only [returns_bind, returns_orThrow]
  refine ⟨row, _, ⟨rfl, rfl⟩, ?_⟩
  simp only [unstarted, Option.isSome_none, Bool.false_eq_true, ↓reduceIte, core, bne_self_eq_false,
    returns_bind, returns_orThrow, returns_pure]
  exact ⟨_, _, reclocked, _, after, secured, _, after, ⟨rfl, rfl⟩, rfl, rfl⟩

end Returns

/-! ### Every call tracks every row -/

section Tracking

variable (env : Env) (taskId : String) (before : World)

theorem tracks_start (executorMetadata : Json) :
    Tracks (.start taskId executorMetadata) before
      (registerTaskStarted env taskId executorMetadata before).2 := by
  rcases transaction_cases (registerTaskStartedInTx env taskId executorMetadata) before with
    ⟨result, after, _, started⟩ | ⟨error, failed⟩
  · obtain ⟨row, now, found, startable, _, rewrites⟩ := registerTaskStarted_returns started
    rw [registerTaskStarted, started]
    refine rewrites.tracks found ?_ (Std.Refl.refl after)
    rw [← findTask_id found]
    exact .started now executorMetadata startable
  · rw [registerTaskStarted, failed]
    exact tracks_of_keeps (Std.Refl.refl before)

theorem tracks_heartbeat (context : Option HeartbeatContext) (executorMetadata : Option Json) :
    Tracks (.heartbeat taskId context executorMetadata) before
      (registerHeartbeat env taskId context executorMetadata before).2 := by
  rcases transaction_cases (registerHeartbeatInTx env taskId context executorMetadata) before with
    ⟨result, after, _, beaten⟩ | ⟨error, failed⟩
  · obtain ⟨row, now, found, running, _, rewrites⟩ := registerHeartbeat_returns beaten
    rw [registerHeartbeat, beaten]
    refine rewrites.tracks found ?_ (Std.Refl.refl after)
    rw [← findTask_id found]
    exact .heartbeat now context executorMetadata running
  · rw [registerHeartbeat, failed]
    exact tracks_of_keeps (Std.Refl.refl before)

theorem tracks_complete (completion : TaskCompletion) :
    Tracks (.complete taskId completion) before
      (registerTaskCompleted env taskId completion before).2 := by
  rcases registerTaskCompleted_cases env taskId completion before with
    ⟨result, after, returned⟩ | ⟨error, failed⟩
  · obtain ⟨row, now, logs, written, announced, handled, committed, _, run, telemetry⟩ :=
      registerTaskCompleted_returns returned
    have telemetryKeeps :=
      ((keepsTasks_emitTaskCompletionTelemetry env result).of_returns telemetry).1
    rw [returned]
    refine run.rewrites.tracks run.found ?_ (IsTrans.trans _ _ _ run.keeps telemetryKeeps)
    rw [← findTask_id run.found]
    exact .completed completion now logs run.completable run.printed
  · rw [failed]
    exact tracks_of_keeps (Std.Refl.refl before)

theorem tracks_progress (report : TaskProgressReport) :
    Tracks (.progress taskId report) before (registerTaskProgress env taskId report before).2 := by
  rcases registerTaskProgress_cases env taskId report before with
    same | ⟨row, stored, now, written, rfl, found, running, writes, answers⟩
  · exact tracks_of_keeps (DatabaseRelation.of_same_db same)
  · rw [answers]
    have hit : ∀ other, findTask taskId before.db = some other →
        (Task.hasId taskId other && isRunning other) = true := by
      intro other otherFound
      have same : row = other := Option.some.inj (found.symm.trans otherFound)
      rw [← same, running, Bool.and_true, Task.hasId, findTask_id found]
      simp
    have rewrites : Rewrites taskId (progressRow now stored) before written :=
      rewrites_update (fun _ => rfl) named_of_guarded hit writes
    refine rewrites.tracks found ?_ (keepsTasks_answerProgress env _ _ stored written).1
    rw [← findTask_id found]
    exact .progressed now stored running

theorem tracks_secure :
    Tracks (.secure taskId) before (drainCoreTask env taskId before).2 := by
  rcases found : findTask taskId before.db with _ | row
  · rw [drainCoreTask_skips env (by simp [found])]
    exact tracks_of_keeps (DatabaseRelation.of_same_db rfl)
  · rcases startable : startableCoreTaskWhere (env.clock before.draws) row with _ | _
    · rw [drainCoreTask_skips env (by simp [found, startable])]
      exact tracks_of_keeps (DatabaseRelation.of_same_db rfl)
    · obtain ⟨after, returned, rewrites⟩ := drainCoreTask_returns env found startable
      rw [returned]
      refine rewrites.tracks found ?_ (Std.Refl.refl after)
      rw [← findTask_id found]
      exact .secured _ startable _

/-- Whatever the call, and however it ends, every row stays or makes one step. -/
theorem perform_tracks (call : TaskCall) : Tracks call before (call.step env before) := by
  unfold TaskCall.step
  cases call with
  | start taskId executorMetadata =>
      rw [TaskCall.perform, discard_state]
      exact tracks_start env taskId before executorMetadata
  | secure taskId =>
      rw [TaskCall.perform, discard_state]
      exact tracks_secure env taskId before
  | heartbeat taskId context executorMetadata =>
      simp [TaskCall.perform, discard_state, tracks_heartbeat]
  | progress taskId report =>
      rw [TaskCall.perform, discard_state]
      exact tracks_progress env taskId before report
  | complete taskId completion =>
      rw [TaskCall.perform, discard_state]
      exact tracks_complete env taskId before completion

end Tracking

end Lombok.Tasks
