import Lombok.Tasks.Service

/-!
Contract: picking up and executing the platform's own tasks.

Owns `CoreTaskService`: the predicate the drain selects by, the transaction that
secures a selected task, and the execution around a processor. One instance
drains one task at a time, so selecting and securing a task is one step here.
-/

namespace Lombok.Tasks

open Lombok.Core Lombok.Library Lombok.Events

/-- `startableCoreTaskWhere()` at the time `now`. -/
def startableCoreTaskWhere (now : Date) (task : Task) : Bool :=
  task.startedAt.isNone && decide (task.attemptCount < maxTaskAttempts) &&
    (task.dontStartBefore.all fun date => decide (date ≤ now)) && task.ownerId == coreIdentifier

/-- The rows one drain round works through; `limit` is what the running tasks leave of ten. -/
def selectCoreTasks (now : Date) (limit : Nat) (db : Database) : List Task :=
  (db.tasks.view (startableCoreTaskWhere now)).take limit

def startedAtRow (startedTimestamp : Date) (task : Task) : Task :=
  { task with startedAt := some startedTimestamp, updatedAt := startedTimestamp }

theorem startedAtRow_keeps (startedTimestamp : Date) :
    Keeps Task.clash (startedAtRow startedTimestamp) :=
  fun _ _ => ⟨rfl, rfl⟩

/-- `executorMetadata` of everything the core executor logs. -/
def systemExecutorMetadata : Json := .obj [("type", .str "system"), ("metadata", .obj [])]

def coreStartLogRow (startedTimestamp : Date) (task : Task) : Task :=
  { task with systemLog := task.systemLog ++ [startedLog startedTimestamp systemExecutorMetadata] }

theorem coreStartLogRow_keeps (startedTimestamp : Date) :
    Keeps Task.clash (coreStartLogRow startedTimestamp) :=
  fun _ _ => ⟨rfl, rfl⟩

/-- The transaction of `executeCoreTask`: two updates, the first one's row is returned. -/
def startCoreTaskInTx (taskId : String) (startedTimestamp : Date) : Service (Option Task) :=
  Action.transaction do
    let updated ← Service.updateTasksReturning (Task.hasId taskId)
      (startedAtRow startedTimestamp) (startedAtRow_keeps startedTimestamp)
    Service.updateTasks (Task.hasId taskId)
      (coreStartLogRow startedTimestamp) (coreStartLogRow_keeps startedTimestamp)
    pure updated

/-- The first half of `executeCoreTask`: `none` where it only logs a warning. -/
def secureCoreTask (env : Env) (taskId : String) : Service (Option Task) := do
  let found ← Service.query (findTask taskId)
  let task ← Action.orThrow found (.error ("Task not found by ID \"" ++ taskId ++ "\"."))
  if task.startedAt.isSome then
    pure none
  else if task.ownerId != coreIdentifier then
    pure none
  else do
    let startedTimestamp ← Service.now env
    let updated ← startCoreTaskInTx taskId startedTimestamp
    let startedTask ← Action.orThrow updated
      (.error ("Task by ID \"" ++ taskId ++ "\" not found when attempting to start."))
    pure (some startedTask)

/-- A registered processor. -/
structure CoreTaskProcessor where
  shouldRegisterComplete : Bool
  run : Task → Service Unit

/-- The second half: run the processor and register what became of it. A failure is registered
without a requeue, also when registering the success is what failed. -/
def runCoreTask (env : Env) (toEnvelope : ApiError → TaskError) (processor : CoreTaskProcessor)
    (startedTask : Task) : Service Unit :=
  Action.tryCatch
    (do
      processor.run startedTask
      if processor.shouldRegisterComplete then
        let _ ← registerTaskCompleted env startedTask.id
          (.succeeded none systemExecutorMetadata)
        pure ()
      else
        pure ())
    fun error => do
      let _ ← registerTaskCompleted env startedTask.id
        (.failed (toEnvelope error) none systemExecutorMetadata)
      pure ()

def executeCoreTask (env : Env) (toEnvelope : ApiError → TaskError)
    (processors : String → Option CoreTaskProcessor) (taskId : String) : Service Unit := do
  let secured ← secureCoreTask env taskId
  match secured with
  | none => pure ()
  | some startedTask => do
      let processor ← Action.orThrow (processors startedTask.taskIdentifier)
        (.error ("Processor not found by name \"" ++ startedTask.taskIdentifier ++ "\"."))
      runCoreTask env toEnvelope processor startedTask

/-- The drain reaching one task: it is secured when the predicate selects it. -/
def drainCoreTask (env : Env) (taskId : String) : Service (Option Task) := do
  let now ← Service.now env
  let found ← Service.query (findTask taskId)
  if found.any (startableCoreTaskWhere now) then
    secureCoreTask env taskId
  else
    pure none

end Lombok.Tasks
