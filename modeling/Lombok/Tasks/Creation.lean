import Lombok.Tasks.Service

/-!
Contract: the services that create tasks, other than handlers and events.

Owns the user, app and schedule paths. Each builds a row of its own and inserts
it with the same statement; what a path leaves out of its row keeps the column's
default.

Does not own: what holds of created rows (see `History`).
-/

namespace Lombok.Tasks

open Lombok.Core Lombok.Library Lombok.Apps Lombok.Events

/-! ### User actions -/

/-- The arguments both user action paths take. -/
structure UserActionRequest where
  userId : String
  requestId : String
  taskIdentifier : String
  taskData : Json
  targetUserId : Option String := none
  targetLocation : Option TargetLocation := none
  storageAccessPolicy : Option StorageAccessPolicy := none
deriving Inhabited

/-- The row of `triggerCoreUserActionTask` and `triggerAppUserActionTask`; both are handled by
the core. -/
def userActionRow (request : UserActionRequest) (ownerId taskDescription : String) (id : String)
    (now : Date) : Task where
  id := id
  ownerId := ownerId
  taskIdentifier := request.taskIdentifier
  taskDescription := taskDescription
  data := request.taskData
  invocation := { context := .userAction request.userId request.requestId }
  idempotencyKey := ""
  targetUserId := request.targetUserId
  targetLocationFolderId := request.targetLocation.map (·.folderId)
  targetLocationObjectKey := request.targetLocation.bind (·.objectKey)
  storageAccessPolicy := request.storageAccessPolicy
  createdAt := now
  updatedAt := now
  handlerType := .core

def triggerCoreUserActionTask (env : Env) (request : UserActionRequest) : Service Task := do
  let now ← Service.now env
  let id ← Service.randomUUID env
  let task ← withTaskIdempotencyKey env
    (userActionRow request coreIdentifier "Core task on user request" id now)
  Service.insertTask task
  pure task

def triggerAppUserActionTask (env : Env) (appIdentifier : String) (request : UserActionRequest) :
    Service Task := do
  let now ← Service.now env
  let taskDefinition ← Service.check (getTaskDefinition appIdentifier request.taskIdentifier)
  let id ← Service.randomUUID env
  let task ← withTaskIdempotencyKey env
    (userActionRow request appIdentifier taskDefinition.description id now)
  Action.transaction (insertAndAnnounce env task)

/-! ### App actions -/

structure AppActionRequest where
  requestId : String
  taskIdentifier : String
  taskData : Json
  correlationKey : Option String := none
  dontStartBefore : Option DontStartBefore := none
  targetUserId : Option String := none
  targetLocation : Option TargetLocation := none
  storageAccessPolicy : Option StorageAccessPolicy := none
  onComplete : List TaskOnCompleteConfig := []
  onProgress : List TaskOnProgressConfig := []
deriving Inhabited

/-- The checks of an app on the targets it names; empty identifiers are falsy. -/
def validateAppActionTargets (appIdentifier : String) (request : AppActionRequest)
    (db : Database) : Except ApiError Unit := do
  match request.targetUserId.filter fun userId => userId != "" with
  | some userId => validateAppUserAccess appIdentifier userId db
  | none => pure ()
  match request.targetLocation.filter fun location => location.folderId != "" with
  | some location => validateAppFolderAccess appIdentifier location.folderId db
  | none => pure ()
  match request.storageAccessPolicy with
  | some policy => validateAppStorageAccessPolicy appIdentifier policy db
  | none => pure ()

def appActionRow (request : AppActionRequest) (appIdentifier : String)
    (taskDefinition : AppTaskConfig) (id : String) (now : Date) : Task where
  id := id
  ownerId := appIdentifier
  taskIdentifier := request.taskIdentifier
  taskDescription := taskDefinition.description
  data := request.taskData
  invocation :=
    { context := .appAction request.requestId
      onComplete := request.onComplete
      onProgress := request.onProgress }
  idempotencyKey := ""
  targetUserId := request.targetUserId
  targetLocationFolderId := request.targetLocation.map (·.folderId)
  targetLocationObjectKey := request.targetLocation.bind (·.objectKey)
  dontStartBefore := request.dontStartBefore.map (DontStartBefore.resolve now)
  storageAccessPolicy := request.storageAccessPolicy
  createdAt := now
  updatedAt := now
  handlerType := taskDefinition.handlerType
  handlerIdentifier := some taskDefinition.handlerIdentifier
  correlationKey := request.correlationKey

def triggerAppActionTask (env : Env) (appIdentifier : String) (request : AppActionRequest) :
    Service Task := do
  let taskDefinition ← Service.check (getTaskDefinition appIdentifier request.taskIdentifier)
  Service.check (validateAppActionTargets appIdentifier request)
  let now ← Service.now env
  let id ← Service.randomUUID env
  let task ← withTaskIdempotencyKey env (appActionRow request appIdentifier taskDefinition id now)
  Action.transaction (insertAndAnnounce env task)

/-! ### Schedules -/

/-- `UNIT_SECONDS`. -/
def ScheduleUnit.seconds : ScheduleUnit → Int
  | minutes => 60
  | hours => 60 * 60
  | days => 24 * 60 * 60

/-- `getUtcScheduleBucket`: the start of the interval the date falls into, or the last time the
cron expression fired, cut off to the minute. -/
def getUtcScheduleBucket (env : Env) (schedule : ScheduleConfig) (date : Date) :
    Except ApiError Date :=
  match schedule with
  | .interval every unit =>
      if every = 0 then
        .error (.error "interval must be > 0")
      else
        let periodSeconds := (every : Int) * unit.seconds
        .ok (date / 1000 / periodSeconds * periodSeconds * 1000)
  | .cron expression timezone => do
      let previous ← env.cronPrev expression (timezone.getD "UTC") (date + 1)
      pure (previous / 60000 * 60000)

/-- A schedule trigger with the app it belongs to. -/
structure ScheduleCandidate where
  app : App
  trigger : ScheduleTaskTriggerConfig
  runtimeTriggerId : Option String

def scheduleCandidates (db : Database) : List ScheduleCandidate :=
  (db.apps.view (·.enabled)).flatMap (fun app =>
      app.config.triggers.filterMap fun trigger =>
        match trigger with
        | .schedule schedule => some ⟨app, schedule, none⟩
        | _ => none) ++
    db.appRuntimeTriggers.rows.filterMap fun row =>
      match row.definition with
      | .schedule schedule =>
          (db.apps.find? fun app => app.id == row.appId && app.enabled).map fun app =>
            ⟨app, schedule, some row.id⟩
      | _ => none

def scheduleRow (candidate : ScheduleCandidate) (taskDefinition : AppTaskConfig)
    (timestampBucket : String) (id : String) (now : Date) : Task where
  id := id
  ownerId := candidate.app.identifier
  taskIdentifier := taskDefinition.identifier
  taskDescription := taskDefinition.description
  data := .obj []
  invocation :=
    { context := .schedule timestampBucket candidate.trigger.triggerKey candidate.trigger.config
        candidate.runtimeTriggerId }
  idempotencyKey := ""
  createdAt := now
  updatedAt := now
  handlerType := taskDefinition.handlerType
  handlerIdentifier := some taskDefinition.handlerIdentifier

/-- The lookup for a task that already fired in the bucket. -/
def isExistingScheduleTask (task : Task) (earliestAllowed : Date) (row : Task) : Bool :=
  row.ownerId == task.ownerId && row.taskIdentifier == task.taskIdentifier &&
    row.idempotencyKey == task.idempotencyKey && decide (earliestAllowed ≤ row.createdAt)

/-- `tryEnqueueScheduleTask`: the task to insert, if its bucket has not fired yet. -/
def tryEnqueueScheduleTask (env : Env) (now : Date) (candidate : ScheduleCandidate) :
    Service (List Task) := do
  let bucketStart ← Action.ofExcept (getUtcScheduleBucket env candidate.trigger.config now)
  match candidate.app.config.tasks.find? fun task =>
      task.identifier == candidate.trigger.taskIdentifier with
  | none => pure []
  | some taskDefinition => do
      let id ← Service.randomUUID env
      let timestampBucket ← Action.ofExcept (Date.toISOString bucketStart)
      let task ← withTaskIdempotencyKey env
        (scheduleRow candidate taskDefinition timestampBucket id now)
      let existingTask ← Service.query fun db =>
        db.tasks.find? (isExistingScheduleTask task bucketStart)
      pure (if existingTask.isSome then [] else [task])

def insertScheduledTasks (env : Env) (tasksToInsert : List Task) : Service Unit :=
  if tasksToInsert.isEmpty then
    pure ()
  else
    Action.transaction do
      Service.insertTasks tasksToInsert
      Action.each tasksToInsert fun task =>
        emitRunnableTaskEnqueuedEvent (emitEventWithTx env) task

/-- `processScheduledTaskTriggers`, which logs its errors. -/
def processScheduledTaskTriggers (env : Env) : Service Unit :=
  Action.tryCatch
    (do
      let now ← Service.now env
      let candidates ← Service.query scheduleCandidates
      let due ← Action.collect candidates (tryEnqueueScheduleTask env now)
      insertScheduledTasks env due.flatten)
    fun _ => pure ()

end Lombok.Tasks
