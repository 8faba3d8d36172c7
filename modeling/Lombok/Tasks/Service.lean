import Lombok.Events.Emit

/-!
Contract: the calls of `TaskService` that change task rows.

Each transition is split into the row function its `SET` list stands for and the
call around it: lookup, state check, guarded update, and what the call does
afterwards. The row functions carry the arithmetic; the calls carry the errors,
the order of statements and the transaction boundaries.

Does not own: what holds over sequences of calls.
-/

namespace Lombok.Tasks

open Lombok.Core Lombok.Library Lombok.Apps Lombok.Events

def findTask (taskId : String) (db : Database) : Option Task := db.tasks.find? (Task.hasId taskId)

/-- `handleTaskUpdate`, of which only the channel of the owning app's user is kept. -/
def handleTaskUpdate (task : Task) : Service Unit :=
  match task.targetUserId with
  | some userId =>
      if task.ownerId == coreIdentifier then pure ()
      else Service.record task.ownerId (.appUserNotified userId)
  | none => pure ()

/-! ### Starting a task -/

def startedLog (now : Date) (executorMetadata : Json) : SystemLogEntry where
  loggedAt := now
  logType := .started
  message := "Task is started"
  payload := some [("executorMetadata", executorMetadata)]

/-- The `SET` list of `_registerTaskStartedInTx`. -/
def startRow (now : Date) (executorMetadata : Json) (task : Task) : Task :=
  { task with
    startedAt := some now
    updatedAt := now
    systemLog := task.systemLog ++ [startedLog now executorMetadata] }

theorem startRow_keeps (now : Date) (executorMetadata : Json) :
    Keeps Task.clash (startRow now executorMetadata) :=
  fun _ _ => ⟨rfl, rfl⟩

def taskNotFoundMessage : String := "Invalid request (no task found by id)."

/-- `task.completedAt || task.startedAt` is falsy. -/
def isStartable (task : Task) : Bool := task.completedAt.isNone && task.startedAt.isNone

def registerTaskStartedInTx (env : Env) (taskId : String) (executorMetadata : Json) :
    Service Task := do
  let found ← Service.query (findTask taskId)
  let task ← Action.orThrow found (.notFound taskNotFoundMessage)
  Action.require (isStartable task) (.conflict "Task not in a state to be started.")
  let now ← Service.now env
  let updated ← Service.updateTasksReturning
    (fun row => Task.hasId taskId row && row.startedAt.isNone)
    (startRow now executorMetadata) (startRow_keeps now executorMetadata)
  let updatedTask ← Action.orThrow updated (.conflict ("Failed to secure task: " ++ taskId))
  handleTaskUpdate updatedTask
  pure updatedTask

def registerTaskStarted (env : Env) (taskId : String) (executorMetadata : Json) : Service Task :=
  Action.transaction (registerTaskStartedInTx env taskId executorMetadata)

/-! ### Heartbeats -/

structure HeartbeatContext where
  message : String
  payload : Option Fields
deriving Inhabited

/-- Replace the executor metadata of every `started` entry. -/
def upgradeStartLog (executorMetadata : Json) (entry : SystemLogEntry) : SystemLogEntry :=
  if entry.logType = .started then
    { entry with
      payload := some (Fields.set (entry.payload.getD []) "executorMetadata" executorMetadata) }
  else
    entry

/-- The `SET` list of `_registerHeartbeatInTx`. The start log is upgraded by the first heartbeat
that brings metadata, judged by the row read before. -/
def heartbeatRow (now : Date) (context : Option HeartbeatContext)
    (executorMetadata : Option Json) (task : Task) : Task :=
  { task with
    updatedAt := now
    latestHeartbeatAt := some now
    taskLog :=
      match context with
      | some heartbeat =>
          task.taskLog ++
            [{ loggedAt := now, logType := "heartbeat", message := heartbeat.message,
               payload := heartbeat.payload }]
      | none => task.taskLog
    systemLog :=
      match executorMetadata, task.latestHeartbeatAt with
      | some metadata, none => task.systemLog.map (upgradeStartLog metadata)
      | _, _ => task.systemLog }

theorem heartbeatRow_keeps (now : Date) (context : Option HeartbeatContext)
    (executorMetadata : Option Json) :
    Keeps Task.clash (heartbeatRow now context executorMetadata) :=
  fun _ _ => ⟨rfl, rfl⟩

def isRunning (task : Task) : Bool := task.completedAt.isNone && task.startedAt.isSome

def registerHeartbeatInTx (env : Env) (taskId : String) (context : Option HeartbeatContext)
    (executorMetadata : Option Json) : Service Task := do
  let found ← Service.query (findTask taskId)
  let task ← Action.orThrow found (.notFound taskNotFoundMessage)
  Action.require (isRunning task) (.conflict "Task not in a state to register heartbeat.")
  let now ← Service.now env
  let updated ← Service.updateTasksReturning
    (fun row => Task.hasId taskId row && isRunning row)
    (heartbeatRow now context executorMetadata) (heartbeatRow_keeps now context executorMetadata)
  Action.orThrow updated (.conflict ("Failed to register heartbeat for task: " ++ taskId))

def registerHeartbeat (env : Env) (taskId : String) (context : Option HeartbeatContext)
    (executorMetadata : Option Json) : Service Task :=
  Action.transaction (registerHeartbeatInTx env taskId context executorMetadata)

/-! ### Children of a task -/

def getTaskDefinition (ownerId taskIdentifier : String) (db : Database) :
    Except ApiError AppTaskConfig :=
  match getApp ownerId (some true) db with
  | none => .error (.notFound ("App not found: " ++ ownerId))
  | some app =>
      match app.config.tasks.find? fun task => task.identifier == taskIdentifier with
      | none => .error (.notFound ("Task definition not found: " ++ taskIdentifier))
      | some taskDefinition => .ok taskDefinition

/-- `dontStartBefore` of a trigger request. -/
inductive DontStartBefore where
  | timestamp (date : Date)
  | delayMs (delay : Int)
deriving DecidableEq, Inhabited

def DontStartBefore.resolve (now : Date) : DontStartBefore → Date
  | timestamp date => date
  | delayMs delay => now.addMs delay

/-- The last success payload of a log: `reverse().find(…)`. -/
def lastSuccessPayload (log : List SystemLogEntry) : Option Fields :=
  (log.reverse.find? fun entry => entry.logType = .success).bind (·.payload)

/-- The first error payload of a log: the second `reverse()` undoes the one before it, in
place, so the search for an error runs forwards. -/
def firstErrorPayload (log : List SystemLogEntry) : Option Fields :=
  (log.find? fun entry => entry.logType = .error).bind (·.payload)

def payloadEntry (payload : Option Fields) (name : String) : Option Json :=
  payload.bind fun fields => Fields.get? fields name

/-- The parent as data templates see it. -/
def parentTaskContext (parent : Task) (extra : Fields) : Json :=
  .obj (Fields.ofOptions
    [("id", some (.str parent.id)),
      ("targetLocation", some (match parent.targetLocationFolderId with
        | some folderId =>
            .obj (Fields.ofOptions [("folderId", some (.str folderId)),
              ("objectKey", parent.targetLocationObjectKey.map .str)])
        | none => .obj [])),
      ("data", some parent.data),
      ("startedAt", some (.ofOption (parent.startedAt.map .ofInt))),
      ("completedAt", some (.ofOption (parent.completedAt.map .ofInt))),
      ("createdAt", some (.ofInt parent.createdAt)),
      ("updatedAt", some (.ofInt parent.updatedAt))] ++ extra)

/-- The evaluation context of an `onComplete` data template. -/
def onCompleteTemplateContext (parent : Task) (success : Bool) : Json :=
  let successPayload := lastSuccessPayload parent.systemLog
  let errorPayload := firstErrorPayload parent.systemLog
  let outcome : Fields :=
    if success then
      [("success", .bool true), ("result", (payloadEntry successPayload "result").getD (.obj []))]
    else
      [("success", .bool false), ("error", (payloadEntry errorPayload "error").getD (.obj []))]
  .obj (Fields.ofOptions
    [("task", some (parentTaskContext parent outcome)),
      ("executorMetadata",
        payloadEntry (if success then successPayload else errorPayload) "executorMetadata")])

/-- The row `executeOnCompleteHandler` inserts. -/
def completeChildRow (parent : Task) (success : Bool) (handler : TaskOnCompleteConfig)
    (handlerIndex : Nat) (taskDefinition : AppTaskConfig) (id : String) (data : Json)
    (now : Date) : Task where
  id := id
  ownerId := parent.ownerId
  taskIdentifier := handler.taskIdentifier
  taskDescription := taskDefinition.description
  data := data
  invocation :=
    { context := .taskCompleteChild parent.id parent.taskIdentifier success
        ((payloadEntry (lastSuccessPayload parent.systemLog) "result").getD (.obj []))
        handlerIndex
      onComplete := handler.onComplete }
  idempotencyKey := ""
  targetUserId := parent.targetUserId
  targetLocationFolderId := parent.targetLocationFolderId
  targetLocationObjectKey := parent.targetLocationFolderId.bind fun _ =>
      parent.targetLocationObjectKey
  storageAccessPolicy := parent.storageAccessPolicy
  createdAt := now
  updatedAt := now
  handlerType := taskDefinition.handlerType
  handlerIdentifier := some taskDefinition.handlerIdentifier
  correlationKey := parent.correlationKey

def insertAndAnnounce (env : Env) (task : Task) : Service Task := do
  Service.insertTask task
  Service.record task.ownerId (.taskCreated task.ownerId task.taskIdentifier)
  emitRunnableTaskEnqueuedEvent (emitEventWithTx env) task
  pure task

/-- `executeOnCompleteHandler` inside the completion's transaction. -/
def executeOnCompleteHandler (env : Env) (parent : Task) (success : Bool)
    (handler : TaskOnCompleteConfig) (handlerIndex : Nat) : Service Unit := do
  let taskDefinition ← Service.check (getTaskDefinition parent.ownerId handler.taskIdentifier)
  let now ← Service.now env
  let id ← Service.randomUUID env
  let db ← Service.query fun db => db
  let data ← Action.ofExcept
    (env.dataFromTemplate db parent.ownerId (handler.dataTemplate.getD (.obj []))
      (onCompleteTemplateContext parent success))
  let child ← withTaskIdempotencyKey env
    (completeChildRow parent success handler handlerIndex taskDefinition id data now)
  let _ ← insertAndAnnounce env child
  pure ()

/-- The evaluation context of an `onProgress` data template. -/
def TaskProgressReport.toFields (report : TaskProgressReport) : Fields :=
  Fields.ofOptions
    [("code", report.code.map .str), ("details", report.details), ("message", report.message),
      ("timestamp", report.timestamp.map .str), ("executorMetadata", report.executorMetadata)]

/-- The row `executeOnProgressHandler` inserts. -/
def progressChildRow (parent : Task) (report : ReceivedTaskProgressReport)
    (handler : TaskOnProgressConfig) (handlerIndex : Nat) (taskDefinition : AppTaskConfig)
    (id : String) (data : Json) (now : Date) : Task where
  id := id
  ownerId := parent.ownerId
  taskIdentifier := handler.taskIdentifier
  taskDescription := taskDefinition.description
  data := data
  invocation :=
    { context := .taskProgressChild parent.id parent.taskIdentifier report handlerIndex }
  idempotencyKey := ""
  targetUserId := parent.targetUserId
  targetLocationFolderId := parent.targetLocationFolderId
  targetLocationObjectKey := parent.targetLocationFolderId.bind fun _ =>
      parent.targetLocationObjectKey
  storageAccessPolicy := parent.storageAccessPolicy
  createdAt := now
  updatedAt := now
  handlerType := taskDefinition.handlerType
  handlerIdentifier := some taskDefinition.handlerIdentifier
  correlationKey := parent.correlationKey

def executeOnProgressHandler (env : Env) (parent : Task) (report : ReceivedTaskProgressReport)
    (handler : TaskOnProgressConfig) (handlerIndex : Nat) : Service Unit := do
  let taskDefinition ← Service.check (getTaskDefinition parent.ownerId handler.taskIdentifier)
  let now ← Service.now env
  let id ← Service.randomUUID env
  let db ← Service.query fun db => db
  let data ← Action.ofExcept
    (env.dataFromTemplate db parent.ownerId (handler.dataTemplate.getD (.obj []))
      (.obj (Fields.ofOptions
        [("task", some (parentTaskContext parent [])),
          ("progressReport", some (.obj (report.toTaskProgressReport.toFields ++
            [("receivedAt", .str report.receivedAt)]))),
          ("executorMetadata", report.executorMetadata)])))
  let child ← withTaskIdempotencyKey env
    (progressChildRow parent report handler handlerIndex taskDefinition id data now)
  let _ ← insertAndAnnounce env child
  pure ()

/-! ### Completing a task -/

/-- `requeueRequested`. -/
def requeueRequested (completion : TaskCompletion) : Bool := completion.requeueDelayMs.isSome

/-- `hasAlreadyReachedMaxRequeues`, on the row as it was read. -/
def hasAlreadyReachedMaxRequeues (task : Task) : Bool := maxTaskAttempts ≤ task.attemptCount

/-- `shouldRequeue`. -/
def shouldRequeue (task : Task) (completion : TaskCompletion) : Bool :=
  requeueRequested completion && !hasAlreadyReachedMaxRequeues task

/-- `requeueTimestamp`. -/
def requeueTimestamp (task : Task) (completion : TaskCompletion) (now : Date) : Date :=
  if shouldRequeue task completion then
    now.addMs ((completion.requeueDelayMs.getD 0 : Nat) : Int)
  else
    now

def completionLog (completion : TaskCompletion) (now : Date) : SystemLogEntry :=
  match completion with
  | .succeeded result executorMetadata =>
      { loggedAt := now
        logType := .success
        message := "Task completed successfully"
        payload := some (Fields.ofOptions
          [("result", result), ("executorMetadata", some executorMetadata)]) }
  | .failed error _ executorMetadata =>
      { loggedAt := now
        logType := .error
        message := "Task failed"
        payload := some
          [("error", error.toJson), ("executorMetadata", executorMetadata)] }

def requeueLog (requeueDelayMs : Nat) (dontStartBefore : String) (now : Date) :
    SystemLogEntry where
  loggedAt := now
  logType := .requeue
  message := "Task is requeued"
  payload := some
    [("requeueDelayMs", .ofNat requeueDelayMs), ("dontStartBefore", .str dontStartBefore)]

/-- The log entries a completion appends. Printing the requeue date throws when it is out of
range, before anything is written. -/
def completionLogs (task : Task) (completion : TaskCompletion) (now : Date) :
    Except ApiError (List SystemLogEntry) :=
  if shouldRequeue task completion then do
    let dontStartBefore ← Date.toISOString (requeueTimestamp task completion now)
    pure [completionLog completion now,
      requeueLog (completion.requeueDelayMs.getD 0) dontStartBefore now]
  else
    pure [completionLog completion now]

/-- The `error` column of a failed completion. -/
def storedError (error : TaskError) : TaskError :=
  { error with
    name := some (error.name.getD "Error")
    stack := error.stack.filter fun stack => stack != "" }

/-- The `SET` list of `_registerTaskCompletedInTx`, for the row `task` that was read. A refused
requeue sets `maxRequeuesReached`, which is no column of the table. -/
def completeRow (task : Task) (completion : TaskCompletion) (now : Date)
    (logs : List SystemLogEntry) (row : Task) : Task :=
  let counted : Task :=
    { row with
      attemptCount := row.attemptCount + 1
      updatedAt := now
      systemLog := row.systemLog ++ logs }
  match completion with
  | .succeeded _ _ =>
      { counted with success := some true, completedAt := some now, error := none }
  | .failed error _ _ =>
      let failed : Task :=
        { counted with
          failureCount := row.failureCount + 1
          error := some (storedError error) }
      if shouldRequeue task completion then
        { failed with
          dontStartBefore := some (requeueTimestamp task completion now)
          success := none
          completedAt := none
          startedAt := none }
      else if requeueRequested completion && hasAlreadyReachedMaxRequeues task then
        failed
      else
        { failed with success := some false, completedAt := some now }

theorem completeRow_keeps (task : Task) (completion : TaskCompletion) (now : Date)
    (logs : List SystemLogEntry) : Keeps Task.clash (completeRow task completion now logs) := by
  have sameIdentity : ∀ row, (completeRow task completion now logs row).id = row.id ∧
      (completeRow task completion now logs row).idempotencyKey = row.idempotencyKey := by
    intro row
    cases completion with
    | succeeded result executorMetadata => exact ⟨rfl, rfl⟩
    | failed error requeueDelayMs executorMetadata =>
        grind [completeRow]
  intro left right
  simp [Task.clash, sameIdentity]

/-- `conditionInput`, as the expression evaluator sees it. -/
def onCompleteConditionContext (taskId : String) (completion : TaskCompletion) : Json :=
  match completion with
  | .succeeded result _ =>
      .obj [("task", .obj [("id", .str taskId), ("success", .bool true),
        ("result", result.getD (.obj []))])]
  | .failed error _ _ =>
      .obj [("task", .obj [("id", .str taskId), ("success", .bool false),
        ("error", error.toJson)])]

/-- A handler runs when it has no condition or its condition evaluates to true. -/
def handlerFires (env : Env) (taskId : String) (completion : TaskCompletion)
    (handler : TaskOnCompleteConfig) : Bool :=
  (setCondition handler.condition).all fun condition =>
    env.evalCondition condition (onCompleteConditionContext taskId completion)

/-- The loop over `task.invocation.onComplete`. -/
def executeOnCompleteHandlers (env : Env) (updatedTask : Task) (completion : TaskCompletion) :
    Service Unit :=
  Action.each updatedTask.invocation.onComplete.zipIdx fun indexed =>
    if handlerFires env updatedTask.id completion indexed.1 then
      executeOnCompleteHandler env updatedTask completion.success indexed.1 indexed.2
    else
      pure ()

/-- The guard of the completion's update, besides the id. -/
def isCompletable (row : Task) : Bool :=
  row.success.isNone && row.completedAt.isNone && row.startedAt.isSome

/-- `if (updatedTask && shouldRequeue)`: a requeued row is announced like a new one. -/
def announceRequeued (env : Env) (requeued : Bool) (updated : Option Task) : Service Unit :=
  match updated with
  | some updatedTask =>
      if requeued then emitRunnableTaskEnqueuedEvent (emitEventWithTx env) updatedTask
      else pure ()
  | none => pure ()

/-- The broadcasts at the end: one for the outcome, one more for a requeue. -/
def broadcastCompletion (requeued : Bool) (updatedTask : Task) : Service Unit := do
  handleTaskUpdate updatedTask
  if requeued then handleTaskUpdate updatedTask else pure ()

def registerTaskCompletedInTx (env : Env) (taskId : String) (completion : TaskCompletion) :
    Service Task := do
  let now ← Service.now env
  let found ← Service.query (findTask taskId)
  let task ← Action.orThrow found (.error ("Task not found by ID \"" ++ taskId ++ "\"."))
  Action.require task.startedAt.isSome (.error ("Task \"" ++ taskId ++ "\" has not been started."))
  Action.require task.completedAt.isNone
    (.error ("Task \"" ++ taskId ++ "\"  has already been completed."))
  let logs ← Action.ofExcept (completionLogs task completion now)
  let updated ← Service.updateTasksReturning
    (fun row => Task.hasId taskId row && isCompletable row)
    (completeRow task completion now logs) (completeRow_keeps task completion now logs)
  announceRequeued env (shouldRequeue task completion) updated
  let updatedTask ← Action.orThrow updated
    (.conflict "Failed to register task completion task.")
  executeOnCompleteHandlers env updatedTask completion
  broadcastCompletion (shouldRequeue task completion) updatedTask
  pure updatedTask

/-- `emitTaskCompletionTelemetry`: skipped for a requeue, and its errors are only logged. -/
def emitTaskCompletionTelemetry (env : Env) (task : Task) : Service Unit :=
  match task.success with
  | none => pure ()
  | some success =>
      let durationMs : Option Json := do
        let startedAt ← task.startedAt
        let completedAt ← task.completedAt
        pure (.ofInt (completedAt - startedAt))
      Action.tryCatch
        (emitEvent env
          { emitterIdentifier := task.ownerId
            eventIdentifier :=
              if success then CoreEvent.identifier .taskCompleted
              else CoreEvent.identifier .taskFailed
            data := .obj [("taskIdentifier", .str task.taskIdentifier),
              ("durationMs", .ofOption durationMs),
              ("attemptCount", .ofNat task.attemptCount)] })
        fun _ => pure ()

/-- `registerTaskCompleted`: the transaction, then the telemetry event outside of it. -/
def registerTaskCompleted (env : Env) (taskId : String) (completion : TaskCompletion) :
    Service Task := do
  let updatedTask ← Action.transaction (registerTaskCompletedInTx env taskId completion)
  emitTaskCompletionTelemetry env updatedTask
  pure updatedTask

/-! ### Progress -/

/-- The `SET` list of `registerTaskProgress`. -/
def progressRow (now : Date) (report : ReceivedTaskProgressReport) (task : Task) : Task :=
  { task with
    updatedAt := now
    latestHeartbeatAt := some now
    progressReports := task.progressReports ++ [report]
    progress :=
      match report.details with
      | some details => some details
      | none => task.progress }

theorem progressRow_keeps (now : Date) (report : ReceivedTaskProgressReport) :
    Keeps Task.clash (progressRow now report) :=
  fun _ _ => ⟨rfl, rfl⟩

/-- An `onProgress` handler runs when it has no condition or its condition evaluates to true. -/
def progressHandlerFires (env : Env) (report : TaskProgressReport) (jobInput : Json)
    (handler : TaskOnProgressConfig) : Bool :=
  (setCondition handler.condition).all fun condition =>
    env.evalCondition condition
      (.obj [("progressReport", .obj report.toFields), ("jobInput", jobInput)])

/-- The loop over `updatedTask.invocation.onProgress`. -/
def executeOnProgressHandlers (env : Env) (updatedTask : Task) (report : TaskProgressReport)
    (stored : ReceivedTaskProgressReport) : Service Unit :=
  Action.each updatedTask.invocation.onProgress.zipIdx fun indexed =>
    if progressHandlerFires env report updatedTask.data indexed.1 then
      executeOnProgressHandler env updatedTask stored indexed.1 indexed.2
    else
      pure ()

/-- What `registerTaskProgress` does once its update hit a row. -/
def answerProgress (env : Env) (report : TaskProgressReport) (stored : ReceivedTaskProgressReport)
    (updatedTask : Task) : Service (Option Task) := do
  Service.record updatedTask.ownerId (.taskProgressed updatedTask.ownerId updatedTask.id)
  handleTaskUpdate updatedTask
  executeOnProgressHandlers env updatedTask report stored
  pure (some updatedTask)

/-- The update of `registerTaskProgress` and what follows; `none` when the task is not running. -/
def storeProgress (env : Env) (taskId : String) (report : TaskProgressReport) (now : Date)
    (receivedAt : String) : Service (Option Task) := do
  let stored : ReceivedTaskProgressReport :=
    { toTaskProgressReport := report, receivedAt := receivedAt }
  let updated ← Service.updateTasksReturning
    (fun row => Task.hasId taskId row && isRunning row)
    (progressRow now stored) (progressRow_keeps now stored)
  match updated with
  | none => pure none
  | some updatedTask => answerProgress env report stored updatedTask

/-- `registerTaskProgress` on the connection it is given: each statement commits on its own. -/
def registerTaskProgress (env : Env) (taskId : String) (report : TaskProgressReport) :
    Service (Option Task) := do
  let now ← Service.now env
  let receivedAt ← Action.ofExcept (Date.toISOString now)
  storeProgress env taskId report now receivedAt

end Lombok.Tasks
