import Lombok.Core.FormParams
import Lombok.Tasks.CoreTask

/-!
Contract: turning the events of an aggregation key into notifications.

Owns the batching decision, the content of a notification, the rows the
processor inserts, and the system of emissions in open transactions, of commits
and of executions of the notification task.

An emission inserts its event inside its transaction and its follow-up task
outside of it. One instance executes one task at a time, and a commit may come
between any two steps of an execution. Does not own the subscriptions and
triggers of an event, the deliveries of a notification, or the completion of a
task, which leaves it started.
-/

namespace Lombok.Notifications

open Lombok.Core Lombok.Library Lombok.Tasks Lombok.Events

/-! ### Content -/

/-- `encodeObjectKeyPreservingSlashes`. -/
def encodeObjectKeyPreservingSlashes (objectKey : String) : String :=
  String.ofList ((toUtf8 objectKey).flatMap fun byte =>
    let character := Char.ofNat byte.toNat
    if character.isAlphanum || "-_.!~*'()/".toList.contains character then
      [character]
    else
      ['%', upperHexDigit (byte.toNat / 16), upperHexDigit (byte.toNat % 16)])

/-- `defaultTitleFallback`, on the ASCII text of an identifier. -/
def defaultTitleFallback (eventIdentifier : String) : String :=
  if eventIdentifier = CoreEvent.identifier .serverlessTaskEnqueued ∨
      eventIdentifier = CoreEvent.identifier .dockerTaskEnqueued then
    "Task enqueued"
  else if eventIdentifier = CoreEvent.identifier .newUserRegistered then
    "New user registered"
  else
    " ".intercalate ((eventIdentifier.toList.splitOn '_').map fun word =>
      String.ofList (word.take 1 |>.map Char.toUpper) ++
        String.ofList (word.drop 1 |>.map Char.toLower))

def objectsTitle (events : List Event) (done : String) : String :=
  if 1 < events.length then toString events.length ++ " objects " ++ done else "Object " ++ done

def buildNotificationTitle (event : Event) (events : List Event) : String :=
  if event.eventIdentifier = CoreEvent.identifier .objectAdded then objectsTitle events "added"
  else if event.eventIdentifier = CoreEvent.identifier .objectRemoved then
    objectsTitle events "removed"
  else if event.eventIdentifier = CoreEvent.identifier .objectUpdated then
    objectsTitle events "updated"
  else if event.eventIdentifier = CoreEvent.identifier .folderScanned then "Folder scanned"
  else defaultTitleFallback event.eventIdentifier

def buildNotificationBody (event : Event) : Option String :=
  if event.eventIdentifier = CoreEvent.identifier .objectAdded ∨
      event.eventIdentifier = CoreEvent.identifier .objectRemoved ∨
      event.eventIdentifier = CoreEvent.identifier .objectUpdated then
    event.targetLocationObjectKey.filter fun key => key != ""
  else
    none

/-- `buildNotificationPath(event)`, which is called without the other events of the batch. -/
def buildNotificationPath (event : Event) : Option String :=
  (event.targetLocationFolderId.filter fun folderId => folderId != "").map fun folderId =>
    match event.targetLocationObjectKey.filter fun key => key != "" with
    | some objectKey =>
        "/folders/" ++ folderId ++ "/objects/" ++ encodeObjectKeyPreservingSlashes objectKey
    | none => "/folders/" ++ folderId

/-- A row of `notificationsTable`. -/
structure Notification where
  id : String
  eventIdentifier : String
  emitterIdentifier : String
  aggregationKey : String
  targetLocationFolderId : Option String
  targetLocationObjectKey : Option String
  targetUserId : Option String
  eventIds : List String
  title : String
  body : Option String
  path : Option String
  createdAt : Date
deriving Inhabited

def buildNotification (aggregationKey id : String) (firstEvent : Event)
    (eventsToProcess : List Event) (now : Date) : Notification where
  id := id
  eventIdentifier := firstEvent.eventIdentifier
  emitterIdentifier := firstEvent.emitterId
  aggregationKey := aggregationKey
  targetLocationFolderId := firstEvent.targetLocationFolderId
  targetLocationObjectKey := firstEvent.targetLocationObjectKey
  targetUserId := firstEvent.targetUserId
  eventIds := eventsToProcess.map Event.id
  title := buildNotificationTitle firstEvent eventsToProcess
  body := buildNotificationBody firstEvent
  path := buildNotificationPath firstEvent
  createdAt := now

/-! ### The batching decision -/

structure EventNotificationAggregationConfig where
  debounceSeconds : Int
  maxIntervalSeconds : Option Int
deriving DecidableEq, Inhabited

/-- The configuration of an event whose notifications are enabled. -/
def aggregationConfigOf (emitterIdentifier eventIdentifier : String) :
    Option EventNotificationAggregationConfig :=
  if emitterIdentifier == coreIdentifier then
    (getCoreEventAggregationConfig eventIdentifier).map fun _ =>
      { debounceSeconds := 5, maxIntervalSeconds := some 60 }
  else
    none

structure BatchingDecision where
  shouldFlush : Bool
  requeueDelayMs : Option Int := none
deriving DecidableEq, Inhabited

def absoluteMaxRequeues : Int := 100

/-- `maxIntervalSeconds`, where it is set and not zero. -/
def EventNotificationAggregationConfig.maxInterval (config : EventNotificationAggregationConfig) :
    Option Int :=
  config.maxIntervalSeconds.filter fun seconds => seconds != 0

def EventNotificationAggregationConfig.maxRequeues (config : EventNotificationAggregationConfig) :
    Int :=
  match config.maxInterval with
  | some seconds => seconds + 10
  | none => absoluteMaxRequeues

def lastUnhandledAt (first : Event) (rest : List Event) : Date :=
  rest.foldl (fun latest event => max latest event.createdAt) first.createdAt

def firstUnhandledAt (first : Event) (rest : List Event) : Date :=
  rest.foldl (fun earliest event => min earliest event.createdAt) first.createdAt

def shouldFlushEvents (emitterIdentifier eventIdentifier : String) (requeueCount : Nat)
    (unhandledEvents : List Event) (now : Date) : BatchingDecision :=
  match aggregationConfigOf emitterIdentifier eventIdentifier, unhandledEvents with
  | none, _ | _, [] => { shouldFlush := false }
  | some config, first :: rest =>
      let last := lastUnhandledAt first rest
      if config.debounceSeconds = 0 then
        { shouldFlush := true }
      -- the clock stepped back, or an event is as young as this reading of it
      else if now ≤ last then
        { shouldFlush := true }
      else
        let quietForMs := now - last
        let debounceMs := config.debounceSeconds * 1000
        if quietForMs < debounceMs then
          if config.maxRequeues ≤ requeueCount then
            { shouldFlush := true }
          else
            { shouldFlush := false, requeueDelayMs := some (max 1000 (debounceMs - quietForMs)) }
        else if config.maxInterval.any fun seconds =>
            decide (seconds * 1000 ≤ now - firstUnhandledAt first rest) then
          { shouldFlush := true }
        else
          { shouldFlush := true }

/-! ### Rows the processor reads and inserts -/

/-- `task.data.aggregationKey`. -/
def taskAggregationKey (task : Task) : Option String :=
  match task.data.get? "aggregationKey" with
  | some (.str key) => some key
  | _ => none

/-- `requeueCount = 0`. -/
def taskRequeueCount (task : Task) : Nat :=
  match task.data.get? "requeueCount" with
  | some (.num literal) => literal.toNat?.getD 0
  | _ => 0

def isUnhandled (aggregationKey : String) (event : Event) : Bool :=
  event.aggregationKey == some aggregationKey && event.aggregationHandledAt.isNone

/-- `getUnhandledEvents`. -/
def getUnhandledEvents (aggregationKey : String) (db : Database) : List Event :=
  db.events.view (isUnhandled aggregationKey)

/-- `withTaskIdempotencyKey` for an invocation that brings its own data. -/
def withKey (env : Env) (task : Task) : Task :=
  { task with idempotencyKey := buildTaskIdempotencyKey env "" task }

def followUpTask (env : Env) (aggregationKey id : String) (now : Date) : Task :=
  withKey env (buildNotificationTask env aggregationKey id now)

def requeueTask (env : Env) (aggregationKey : String) (requeueCount : Nat) (requeueDelayMs : Int)
    (id requestId : String) (now : Date) : Task :=
  withKey env
    { id := id
      ownerId := coreIdentifier
      taskIdentifier := CoreTaskName.identifier .createEventNotifications
      taskDescription := "Create event notifications"
      data := .obj [("aggregationKey", .str aggregationKey),
        ("requeueCount", .ofNat (requeueCount + 1))]
      invocation := { context := .userAction "system" requestId }
      idempotencyKey := ""
      dontStartBefore := some (now + requeueDelayMs)
      createdAt := now
      updatedAt := now
      handlerType := .core }

/-- `getUtcTimestampBucket(2, 'seconds', at).bucketIndex`. -/
def deliveryBucketIndex (date : Date) : Int := date / 1000 / 2

def deliveryTask (env : Env) (aggregationKey notificationId id : String) (now : Date) : Task :=
  withKey env
    { id := id
      ownerId := coreIdentifier
      taskIdentifier := "build_notification_deliveries"
      taskDescription := "Create notification deliveries"
      data := .obj [("notificationId", .str notificationId)]
      invocation := { context := .systemAction (some (.obj
        [("aggregationKey", .str aggregationKey),
          ("bucketIndex", .ofInt (deliveryBucketIndex (now + 2000)))])) }
      idempotencyKey := ""
      createdAt := now
      updatedAt := now
      handlerType := .core }

def handledRow (now : Date) (event : Event) : Event :=
    { event with aggregationHandledAt := some now }

theorem handledRow_keeps (now : Date) : Keeps Event.clash (handledRow now) := fun _ _ => ⟨rfl, rfl⟩

/-! ### The system -/

/-- An emission whose transaction is open; `scheduled` once its follow-up was inserted. -/
structure Emission where
  event : Event
  scheduled : Bool
deriving Inhabited

/-- The notification task being executed; `flushing` once that was decided. -/
structure Execution where
  task : Task
  flushing : Bool
deriving Inhabited

structure NotificationState where
  db : Database
  notifications : List Notification
  emissions : List Emission
  execution : Option Execution
deriving Inhabited

/-- No event yet, and any tasks. -/
def NotificationState.initial (tasks : TasksTable) : NotificationState where
  db := { tasks := tasks }
  notifications := []
  emissions := []
  execution := none

/-- The steps, with the times read and the identifiers drawn in them. -/
inductive NotificationInput where
  | emit (args : EmitEventArgs) (id : String) (now : Date)
  | schedule (eventId id : String)
  | commit (eventId : String)
  | rollback (eventId : String)
  | begin (taskId : String) (now startedTimestamp : Date)
  | decide (decidedAt now : Date) (id requestId : String)
  | flush (now : Date) (notificationId id : String)

namespace NotificationState

def emissionOf (state : NotificationState) (eventId : String) : Option Emission :=
  state.emissions.find? fun emission => emission.event.id == eventId

def close (state : NotificationState) (eventId : String) : NotificationState :=
  { state with
    emissions := state.emissions.eraseP fun emission => emission.event.id == eventId }

/-- The event is inserted in the transaction of the emission. -/
def emit (env : Env) (state : NotificationState) (args : EmitEventArgs) (id : String)
    (now : Date) : NotificationState :=
  let event := buildEvent env args id now
  if event.anchorOnlyOnRoot then
    { state with emissions := state.emissions ++ [{ event := event, scheduled := false }] }
  else
    state

def markScheduled (state : NotificationState) (eventId : String) (emission : Emission) :
    NotificationState :=
  { state.close eventId with
    emissions := (state.close eventId).emissions ++ [{ emission with scheduled := true }] }

def setTasks (state : NotificationState) (tasks : TasksTable) : NotificationState :=
  { state with db := { state.db with tasks := tasks } }

def setEvents (state : NotificationState) (events : EventsTable) : NotificationState :=
  { state with db := { state.db with events := events } }

/-- `insert(…).onConflictDoNothing()`. -/
def insertUnlessConflict (task : Task) (tasks : TasksTable) : TasksTable :=
  (tasks.insert task).getD tasks

/-- The end of `_emitEventInTx`: the follow-up is inserted outside of the transaction. -/
def schedule (env : Env) (state : NotificationState) (eventId id : String) : NotificationState :=
  match state.emissionOf eventId with
  | none => state
  | some emission =>
      match emission.event.aggregationKey with
      | none => state.markScheduled eventId emission
      | some key =>
          (state.markScheduled eventId emission).setTasks
            (insertUnlessConflict (followUpTask env key id emission.event.createdAt)
              state.db.tasks)

def commit (state : NotificationState) (eventId : String) : NotificationState :=
  match state.emissionOf eventId with
  | none => state
  | some emission =>
      if emission.scheduled then
        match state.db.events.insert emission.event with
        | none => state.close eventId
        | some events => (state.close eventId).setEvents events
      else
        state

/-- The two updates of the transaction that starts a task. -/
def securedTasks (taskId : String) (startedTimestamp : Date) (tasks : TasksTable) : TasksTable :=
  (tasks.update (Task.hasId taskId) (startedAtRow startedTimestamp)
    (startedAtRow_keeps startedTimestamp)).update (Task.hasId taskId)
    (coreStartLogRow startedTimestamp) (coreStartLogRow_keeps startedTimestamp)

/-- The executor secures a notification task. -/
def begin (state : NotificationState) (taskId : String) (now startedTimestamp : Date) :
    NotificationState :=
  match state.execution, findTask taskId state.db with
  | none, some task =>
      if startableCoreTaskWhere now task &&
          task.taskIdentifier == CoreTaskName.identifier .createEventNotifications then
        { state.setTasks (securedTasks taskId startedTimestamp state.db.tasks) with
          execution := some { task := task, flushing := false } }
      else
        state
  | _, _ => state

def finished (state : NotificationState) : NotificationState := { state with execution := none }

def decision (state : NotificationState) (decidedAt : Date) :
    Option (Task × String × BatchingDecision) := do
  let execution ← state.execution
  if execution.flushing then
    none
  else do
    let key ← taskAggregationKey execution.task
    let first ← (getUnhandledEvents key state.db).head?
    some (execution.task, key, shouldFlushEvents first.emitterId first.eventIdentifier
      (taskRequeueCount execution.task) (getUnhandledEvents key state.db) decidedAt)

/-- The row a requeue inserts. -/
def requeued (env : Env) (state : NotificationState) (decidedAt now : Date)
    (id requestId : String) : Option Task := do
  let (task, key, batchingDecision) ← state.decision decidedAt
  if batchingDecision.shouldFlush then
    none
  else do
    let requeueDelayMs ← batchingDecision.requeueDelayMs
    some (requeueTask env key (taskRequeueCount task) requeueDelayMs id requestId now)

/-- `run` up to the flush; an insertion that fails ends the execution with an error. -/
def decide (env : Env) (state : NotificationState) (decidedAt now : Date)
    (id requestId : String) : NotificationState :=
  match state.execution with
  | none => state
  | some execution =>
      if execution.flushing then
        state
      else if (state.decision decidedAt).any fun decided => decided.2.2.shouldFlush then
        { state with execution := some { execution with flushing := true } }
      else
        match state.requeued env decidedAt now id requestId with
        | none => state.finished
        | some task => state.finished.setTasks ((state.db.tasks.insert task).getD state.db.tasks)

def flushKey (state : NotificationState) : Option String := do
  let execution ← state.execution
  if execution.flushing then taskAggregationKey execution.task else none

/-- The transaction of a flush, `none` where it fails. -/
def flushed (env : Env) (state : NotificationState) (aggregationKey : String) (now : Date)
    (notificationId id : String) : Option NotificationState :=
  match getUnhandledEvents aggregationKey state.db with
  | [] => some state
  | firstEvent :: rest =>
      let eventIds := (firstEvent :: rest).map Event.id
      let isPicked := fun event : Event =>
        eventIds.contains event.id && event.aggregationHandledAt.isNone
      if (state.db.events.view isPicked).length = eventIds.length then
        (state.db.tasks.insert (deliveryTask env aggregationKey notificationId id now)).map
          fun tasks =>
            { (state.setTasks tasks).setEvents
                (state.db.events.update isPicked (handledRow now) (handledRow_keeps now)) with
              notifications := state.notifications ++
                [buildNotification aggregationKey notificationId firstEvent (firstEvent :: rest)
                  now] }
      else
        none

def flush (env : Env) (state : NotificationState) (now : Date) (notificationId id : String) :
    NotificationState :=
  match state.flushKey with
  | none => state
  | some key => ((state.flushed env key now notificationId id).getD state).finished

def step (env : Env) (state : NotificationState) : NotificationInput → NotificationState
  | .emit args id now => state.emit env args id now
  | .schedule eventId id => state.schedule env eventId id
  | .commit eventId => state.commit eventId
  | .rollback eventId => state.close eventId
  | .begin taskId now startedTimestamp => state.begin taskId now startedTimestamp
  | .decide decidedAt now id requestId => state.decide env decidedAt now id requestId
  | .flush now notificationId id => state.flush env now notificationId id

end NotificationState

end Lombok.Notifications
