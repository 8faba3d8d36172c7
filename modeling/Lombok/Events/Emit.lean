import Lombok.Apps.Access
import Lombok.Tasks.IdempotencyKey

/-!
Contract: emitting an event and creating the tasks it triggers.

Owns `EventService.emitEvent`, `_emitEventInTx` and
`emitRunnableTaskEnqueuedEvent`. The last two call each other: a task built for
a trigger is announced by a core event, which may trigger further tasks. The
nesting is bounded by a number of levels; below it a call is `unanswered`.

Concurrent `Promise.all` branches run in list order here.
-/

namespace Lombok.Events

open Lombok.Core Lombok.Library Lombok.Tasks Lombok.Apps

/-- The arguments of `emitEvent`. -/
structure EmitEventArgs where
  emitterIdentifier : String
  eventIdentifier : String
  data : Json
  targetLocation : Option TargetLocation := none
  targetUserId : Option String := none
  skipValidation : Bool := false
deriving Inhabited

/-- `isCoreEmitter`. -/
def EmitEventArgs.isCoreEmitter (args : EmitEventArgs) : Bool :=
  args.emitterIdentifier == coreIdentifier

/-- `toLowerCase` on the ASCII text of an identifier. -/
def toLowerCase (text : String) : String := String.ofList (text.toList.map Char.toLower)

def invalidEventIdentifierMessage (identifier : String) : String :=
  "Invalid event identifier: " ++ identifier

def noAppForIdentifierMessage (identifier : String) : String :=
  "No app found for identifier \"" ++ identifier ++ "\""

/-- `try … catch (UnauthorizedException)`: whether the check passed. -/
def passesUnlessUnauthorized (check : Except ApiError Unit) : Except ApiError Bool :=
  match check with
  | .ok () => .ok true
  | .error (.unauthorized _) => .ok false
  | .error other => .error other

def validateEmitterTarget (args : EmitEventArgs) (db : Database) : Except ApiError Unit := do
  match args.targetLocation with
  | some location => validateAppFolderAccess args.emitterIdentifier location.folderId db
  | none => pure ()
  match args.targetUserId with
  | some userId => validateAppUserAccess args.emitterIdentifier userId db
  | none => pure ()

/-- The emitting app, `none` for the core emitter and for an empty identifier. -/
def findEmitterApp (args : EmitEventArgs) (db : Database) : Except ApiError (Option App) :=
  if args.isCoreEmitter || args.emitterIdentifier == "" then
    .ok none
  else
    match getApp (toLowerCase args.emitterIdentifier) (some true) db with
    | some app => .ok (some app)
    | none => .error (.internal (noAppForIdentifierMessage args.emitterIdentifier))

/-! ### The event row -/

/-- `buildAggregationKey`. -/
def buildAggregationKey (env : Env) (emitterIdentifier eventIdentifier : String)
    (folderId objectKey : Option String) : String :=
  let hashedObjectKey := (objectKey.map env.sha256).getD ""
  emitterIdentifier ++ ":" ++ eventIdentifier ++ ":" ++ folderId.getD "" ++ ":" ++ hashedObjectKey

def aggregationKeyOf (env : Env) (args : EmitEventArgs) : Option String :=
  if args.isCoreEmitter then
    (getCoreEventAggregationConfig args.eventIdentifier).map fun scope =>
      buildAggregationKey env args.emitterIdentifier args.eventIdentifier
        (if scope = .folder then args.targetLocation.map (·.folderId) else none)
        (if scope = .folderObject then args.targetLocation.bind (·.objectKey) else none)
  else
    none

def buildEvent (env : Env) (args : EmitEventArgs) (id : String) (now : Date) : Event where
  id := id
  eventIdentifier := args.eventIdentifier
  emitterId := args.emitterIdentifier
  targetUserId := args.targetUserId
  targetLocationFolderId := args.targetLocation.map (·.folderId)
  targetLocationObjectKey := args.targetLocation.bind (·.objectKey)
  data := args.data
  aggregationKey := aggregationKeyOf env args
  createdAt := now

/-! ### Tasks built for a trigger -/

inductive TriggerRef where
  | config (index : Nat)
  | runtime (id : String)
deriving DecidableEq, Inhabited

def TriggerRef.configIndex : TriggerRef → Option Nat
  | config index => some index
  | runtime _ => none

def TriggerRef.runtimeId : TriggerRef → Option String
  | config _ => none
  | runtime id => some id

/-- `buildEventInvocation`; an empty trigger key is falsy and left out. -/
def buildEventInvocation (event : Event) (triggerRef : TriggerRef) (triggerKey : Option String) :
    EventInvokeContext where
  eventId := event.id
  emitterId := event.emitterId
  eventIdentifier := event.eventIdentifier
  eventTriggerConfigIndex := triggerRef.configIndex
  runtimeTriggerId := triggerRef.runtimeId
  triggerKey := triggerKey.filter fun key => key != ""
  targetUserId := event.targetUserId
  targetLocation := event.targetLocationFolderId.map fun folderId =>
    { folderId := folderId, objectKey := event.targetLocationObjectKey }
  eventData := event.data

/-- The event as the expression and template evaluators see it. -/
def Event.toJson (event : Event) : Json :=
  .obj (Fields.ofOptions
    [("id", some (.str event.id)), ("eventIdentifier", some (.str event.eventIdentifier)),
      ("emitterId", some (.str event.emitterId)),
      ("targetUserId", some (.ofOption (event.targetUserId.map .str))),
      ("targetLocationFolderId", some (.ofOption (event.targetLocationFolderId.map .str))),
      ("targetLocationObjectKey", some (.ofOption (event.targetLocationObjectKey.map .str))),
      ("data", some event.data)])

/-- The first log entry `buildEventTriggeredTask` writes into the new row. -/
def eventTriggeredStartLog (loggedAt : Date) : SystemLogEntry where
  loggedAt := loggedAt
  logType := .started
  message := "Task is started"
  payload := none

/-- Announce a task to the platform; `emit` is the nested emission. -/
def emitRunnableTaskEnqueuedEvent (emit : EmitEventArgs → Service Unit) (task : Task) :
    Service Unit :=
  match task.handlerType with
  | .core => pure ()
  | .runtime => do
      let dontStartBefore ← Action.ofExcept (task.dontStartBefore.mapM Date.toISOString)
      emit
        { emitterIdentifier := coreIdentifier
          eventIdentifier := CoreEvent.identifier .serverlessTaskEnqueued
          data := .obj [("dontStartBefore", .ofOption (dontStartBefore.map .str)),
            ("innerTaskId", .str task.id), ("appIdentifier", .str task.ownerId),
            ("workerIdentifier", .ofOption (task.handlerIdentifier.map .str))] }
  | .docker => do
      let dontStartBefore ← Action.ofExcept (task.dontStartBefore.mapM Date.toISOString)
      let parts := task.handlerIdentifier.map fun identifier => splitOnColon identifier.toList
      emit
        { emitterIdentifier := coreIdentifier
          eventIdentifier := CoreEvent.identifier .dockerTaskEnqueued
          data := .obj [("dontStartBefore", .ofOption (dontStartBefore.map .str)),
            ("innerTaskId", .str task.id), ("appIdentifier", .str task.ownerId),
            ("profileIdentifier", .ofOption (parts.bind fun found => found[0]?.map .str)),
            ("jobClassIdentifier", .ofOption (parts.bind fun found => found[1]?.map .str))] }
where
  /-- `split(':')`. -/
  splitOnColon : List Char → List String := fun characters =>
    (characters.splitOn ':').map String.ofList

/-- `buildEventTriggeredTask`: the tasks this trigger adds, none when it is skipped. -/
def buildEventTriggeredTask (env : Env) (emit : EmitEventArgs → Service Unit)
    (args : EmitEventArgs) (event : Event) (now : Date) (subscribedApp : App)
    (trigger : EventTaskTriggerConfig) (triggerRef : TriggerRef) : Service (List Task) :=
  match subscribedApp.config.tasks.find? fun task => task.identifier == trigger.taskIdentifier with
  | none => pure []
  | some taskDefinition =>
      if (setCondition trigger.condition).any fun condition =>
          !env.evalCondition condition (.obj [("event", event.toJson)]) then
        pure []
      else do
        let id ← Service.randomUUID env
        let db ← Service.query fun db => db
        let data ← Action.ofExcept (match trigger.dataTemplate with
          | some template =>
              env.dataFromTemplate db subscribedApp.identifier template
                (.obj [("event", event.toJson)])
          | none => .ok (.obj []))
        let loggedAt ← Service.now env
        let task ← withTaskIdempotencyKey env
          { id := id
            ownerId := subscribedApp.identifier
            taskIdentifier := taskDefinition.identifier
            taskDescription := taskDefinition.description
            data := data
            invocation :=
              { context := .event (buildEventInvocation event triggerRef trigger.triggerKey)
                onComplete := trigger.onComplete
                onProgress := trigger.onProgress }
            idempotencyKey := ""
            targetLocationFolderId := args.targetLocation.map (·.folderId)
            targetLocationObjectKey := args.targetLocation.bind (·.objectKey)
            systemLog := [eventTriggeredStartLog loggedAt]
            createdAt := now
            updatedAt := now
            handlerType := taskDefinition.handlerType
            handlerIdentifier := some taskDefinition.handlerIdentifier }
        emitRunnableTaskEnqueuedEvent emit task
        pure [task]

/-- `checkAppAccess`: whether the target admits the app. -/
def checkAppAccess (args : EmitEventArgs) (targetAppIdentifier : String) (db : Database) :
    Except ApiError Bool :=
  passesUnlessUnauthorized <|
    match args.targetLocation, args.targetUserId with
    | some location, _ => validateAppFolderAccess targetAppIdentifier location.folderId db
    | none, some userId => validateAppUserAccess targetAppIdentifier userId db
    | none, none => .ok ()

/-- A trigger an event has to look at, with the app it belongs to. -/
structure TriggerCandidate where
  subscribedApp : App
  trigger : EventTaskTriggerConfig
  triggerRef : TriggerRef

/-- `eventTriggerIdentifier`. -/
def eventTriggerIdentifier (args : EmitEventArgs) : String :=
  if args.isCoreEmitter then coreIdentifier ++ ":" ++ args.eventIdentifier
  else args.eventIdentifier

/-- `subscribedApps`, cut off at the query's limit for core events. -/
def subscribedApps (args : EmitEventArgs) (app : Option App) (db : Database) : List App :=
  if args.isCoreEmitter then
    (db.apps.view fun app =>
      app.subscribedCoreEvents.contains (eventTriggerIdentifier args) && app.enabled).take 100
  else
    app.toList

def configTriggers (identifier : String) (app : App) : List TriggerCandidate :=
  app.config.triggers.zipIdx.filterMap fun indexed =>
    match indexed.1 with
    | .event trigger =>
        if trigger.eventIdentifier == identifier then
          some { subscribedApp := app, trigger := trigger, triggerRef := .config indexed.2 }
        else
          none
    | _ => none

/-- `runtimeEventRows`: runtime triggers joined to their enabled apps; an app's own event only
reaches that app's triggers. -/
def runtimeTriggers (args : EmitEventArgs) (app : Option App) (db : Database) :
    List TriggerCandidate :=
  db.appRuntimeTriggers.rows.filterMap fun row =>
    match row.definition with
    | .event trigger =>
        if trigger.eventIdentifier == eventTriggerIdentifier args &&
            (args.isCoreEmitter || app.any fun emitter => emitter.id == row.appId) then
          (db.apps.find? fun owner => owner.id == row.appId && owner.enabled).map fun owner =>
            { subscribedApp := owner, trigger := trigger, triggerRef := .runtime row.id }
        else
          none
    | _ => none

def triggerCandidates (args : EmitEventArgs) (app : Option App) (db : Database) :
    List TriggerCandidate :=
  (subscribedApps args app db).flatMap (configTriggers (eventTriggerIdentifier args)) ++
    runtimeTriggers args app db

def buildCandidateTask (env : Env) (emit : EmitEventArgs → Service Unit) (args : EmitEventArgs)
    (event : Event) (now : Date) (candidate : TriggerCandidate) : Service (List Task) := do
  let admitted ← Service.check (checkAppAccess args candidate.subscribedApp.identifier)
  if admitted then
    buildEventTriggeredTask env emit args event now candidate.subscribedApp candidate.trigger
      candidate.triggerRef
  else
    pure []

/-! ### Core tasks -/

inductive CoreTaskName where
  | analyzeObject
  | runDockerWorker
  | runServerlessWorker
  | sendEmailVerificationLink
  | createEventNotifications
deriving DecidableEq, Inhabited

def CoreTaskName.identifier : CoreTaskName → String
  | analyzeObject => "analyze_object"
  | runDockerWorker => "run_docker_worker"
  | runServerlessWorker => "run_serverless_worker"
  | sendEmailVerificationLink => "send_email_verification_link"
  | createEventNotifications => "create_event_notifications"

/-- `CORE_TASKS[name].description`. -/
def CoreTaskName.description : CoreTaskName → String
  | analyzeObject => "Generate metadata and previews for an object"
  | runDockerWorker => "Run a docker worker to execute a task"
  | runServerlessWorker => "Run a serverless worker to execute a task"
  | sendEmailVerificationLink => "Send email verification link to a newly signed-up user"
  | createEventNotifications => "Create notification records for an event or group of events"

/-- JavaScript truthiness of a value that may be `undefined`. -/
def isTruthy : Option Json → Bool
  | none | some .null | some (.bool false) => false
  | some (.num literal) => literal != "0"
  | some (.str value) => value != ""
  | some _ => true

/-- `CORE_EVENT_TRIGGERS_TO_TASKS_MAP`: the core tasks of an event, with the data they get. -/
def coreTaskDefinitions (event : Event) : List (CoreTaskName × Json) :=
  if event.eventIdentifier = CoreEvent.identifier .objectAdded then
    [(.analyzeObject,
      .obj [("folderId", .ofOption (event.targetLocationFolderId.map .str)),
        ("objectKey", .ofOption (event.targetLocationObjectKey.map .str))])]
  else if event.eventIdentifier = CoreEvent.identifier .newUserRegistered then
    if isTruthy (event.data.get? "userEmail") &&
        (match event.data.get? "userEmailVerified" with
          | some (.bool false) => true
          | _ => false) then
      [(.sendEmailVerificationLink,
        .obj (Fields.ofOptions
          [("userId", event.data.get? "userId"), ("userEmail", event.data.get? "userEmail")]))]
    else
      []
  else if event.eventIdentifier = CoreEvent.identifier .dockerTaskEnqueued then
    [(.runDockerWorker,
      .obj [("innerTaskId", .ofOption (event.data.get? "innerTaskId")),
        ("appIdentifier", .ofOption (event.data.get? "appIdentifier")),
        ("profileIdentifier", .ofOption (event.data.get? "profileIdentifier")),
        ("jobClassIdentifier", .ofOption (event.data.get? "jobClassIdentifier"))])]
  else if event.eventIdentifier = CoreEvent.identifier .serverlessTaskEnqueued then
    [(.runServerlessWorker,
      .obj [("innerTaskId", .ofOption (event.data.get? "innerTaskId")),
        ("appIdentifier", .ofOption (event.data.get? "appIdentifier")),
        ("workerIdentifier", .ofOption (event.data.get? "workerIdentifier"))])]
  else
    []

/-- `calculateDontStartBefore` of the two runner tasks; the others have none. -/
def calculateDontStartBefore (name : CoreTaskName) (event : Event) : Option Date :=
  if name = .runDockerWorker ∨ name = .runServerlessWorker then
    match event.data.get? "dontStartBefore" with
    | some (.str text) => Date.parse text
    | _ => none
  else
    none

/-- `buildTargetLocation`, which only `analyze_object` has. -/
def buildTargetLocation (name : CoreTaskName) (event : Event) : Option String × Option String :=
  if name = .analyzeObject then
    (event.targetLocationFolderId,
      event.targetLocationFolderId.bind fun _ => event.targetLocationObjectKey)
  else
    (none, none)

/-- `gatherCoreTasksForEvent`, one task of it. -/
def buildCoreTask (env : Env) (event : Event) (timestamp : Date)
    (definition : (CoreTaskName × Json) × Nat) : Service Task := do
  let id ← Service.randomUUID env
  let name := definition.1.1
  let target := buildTargetLocation name event
  withTaskIdempotencyKey env
    { id := id
      ownerId := coreIdentifier
      taskIdentifier := name.identifier
      taskDescription := name.description
      data := definition.1.2
      invocation := { context := .event (buildEventInvocation event (.config definition.2) none) }
      idempotencyKey := ""
      targetLocationFolderId := target.1
      targetLocationObjectKey := target.2
      dontStartBefore := calculateDontStartBefore name event
      createdAt := timestamp
      updatedAt := timestamp
      handlerType := .core }

def gatherCoreTasksForEvent (env : Env) (event : Event) (timestamp : Date) :
    Service (List Task) :=
  if event.emitterId == coreIdentifier then
    Action.collect (coreTaskDefinitions event).zipIdx (buildCoreTask env event timestamp)
  else
    pure []

/-- The core tasks an emission adds: only the platform's own events have any. -/
def coreTasksOf (env : Env) (args : EmitEventArgs) (event : Event) (now : Date) :
    Service (List Task) :=
  if args.isCoreEmitter then gatherCoreTasksForEvent env event now else pure []

/-! ### Notifications -/

/-- `getUtcTimestampBucket(5, 'seconds', at)`: the bucket's index and start. -/
def notificationBucket (date : Date) : Int × Date :=
  let bucketIndex := date / 1000 / 5
  (bucketIndex, bucketIndex * 5 * 1000)

def buildNotificationTask (env : Env) (aggregationKey : String) (id : String) (now : Date) :
    Task :=
  let bucket := notificationBucket (now + 5000)
  { id := id
    ownerId := coreIdentifier
    taskIdentifier := CoreTaskName.identifier .createEventNotifications
    taskDescription := "Create event notifications"
    data := .obj [("aggregationKey", .str aggregationKey)]
    invocation :=
      { context := .systemAction (some (.obj
          [("aggregationKey", .str aggregationKey), ("bucketIndex", .ofInt bucket.1),
            ("bucketStart", .str (env.dateToString bucket.2))])) }
    idempotencyKey := ""
    dontStartBefore := some (now + 5500)
    createdAt := now
    updatedAt := now
    handlerType := .core }

/-- `insert(…).onConflictDoNothing()`. -/
def insertTaskUnlessConflict (task : Task) : Service Unit :=
  Action.tryCatch (Service.insertTask task) fun error =>
    match error with
    | .uniqueViolation _ => pure ()
    | other => Action.throw other

def scheduleNotifications (env : Env) (aggregationKey : Option String) (now : Date) :
    Service Unit :=
  match aggregationKey with
  | none => pure ()
  | some key => do
      let id ← Service.randomUUID env
      let task ← withTaskIdempotencyKey env (buildNotificationTask env key id now)
      insertTaskUnlessConflict task

/-! ### Emission -/

def recordCreatedTasks (actor : String) (tasks : List Task) : Service Unit :=
  Action.each tasks fun task =>
    Service.record actor (.taskCreated task.ownerId task.taskIdentifier)

def notifyTargetUser (args : EmitEventArgs) (app : Option App) : Service Unit :=
  match app, args.targetUserId with
  | some _, some userId => Service.record args.emitterIdentifier (.appUserNotified userId)
  | _, _ => pure ()

/-- `_emitEventInTx` after its checks; `emit` is the nested emission. -/
def emitValidatedEvent (env : Env) (emit : EmitEventArgs → Service Unit) (args : EmitEventArgs)
    (app : Option App) (now : Date) : Service Unit := do
  let id ← Service.randomUUID env
  let event := buildEvent env args id now
  Service.insertEvent event
  Service.record args.emitterIdentifier (.eventEmitted args.eventIdentifier)
  let candidates ← Service.query (triggerCandidates args app)
  let triggered ← Action.collect candidates (buildCandidateTask env emit args event now)
  let coreTasks ← coreTasksOf env args event now
  let tasks := triggered.flatten ++ coreTasks
  Service.insertTasks tasks
  recordCreatedTasks args.emitterIdentifier tasks
  notifyTargetUser args app
  scheduleNotifications env (aggregationKeyOf env args) now

/-- Whether the event goes out: an app that fails its own target checks is silently dropped. -/
def admitsEmitter (args : EmitEventArgs) (app : Option App) (validate : Bool) : Service Bool :=
  if app.isSome && validate then
    Service.check fun db => passesUnlessUnauthorized (validateEmitterTarget args db)
  else
    pure true

/-- `_emitEventInTx`, nested at most `depth` levels. -/
def emitEventInTx (env : Env) : Nat → EmitEventArgs → Service Unit
  | 0, _ => Action.throw .unanswered
  | depth + 1, args => do
      Action.require (eventIdentifierSchema args.eventIdentifier)
        (.internal (invalidEventIdentifierMessage args.eventIdentifier))
      let now ← Service.now env
      let app ← Service.check (findEmitterApp args)
      let admitted ← admitsEmitter args app (!args.skipValidation)
      if admitted then
        emitValidatedEvent env (fun nested => emitEventInTx env depth nested) args app now
      else
        pure ()

/-- `emitEvent(event, { tx })`: everything runs inside the caller's transaction. -/
def emitEventWithTx (env : Env) (args : EmitEventArgs) : Service Unit :=
  emitEventInTx env env.emissionDepth { args with skipValidation := false }

/-- `emitEvent(event)`: validate first, then write inside a transaction of its own. -/
def emitEvent (env : Env) (args : EmitEventArgs) : Service Unit := do
  Action.require (eventIdentifierSchema args.eventIdentifier)
    (.internal (invalidEventIdentifierMessage args.eventIdentifier))
  let app ← Service.check (findEmitterApp args)
  let admitted ← admitsEmitter args app true
  if admitted then
    Action.transaction (emitEventInTx env env.emissionDepth { args with skipValidation := true })
  else
    pure ()

end Lombok.Events
