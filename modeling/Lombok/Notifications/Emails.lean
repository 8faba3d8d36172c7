import Lombok.Notifications.Batching

/-!
Contract: the deliveries of a notification, and the tasks that send their emails.

Owns the rows of `notification_deliveries`, the runs of the delivery builder and
of the email sender statement by statement, and the system of any number of
both. Whom a notification concerns, the settings of a user, whether an email
provider is configured, what becomes of each email and which hundred deliveries
a limited query returns are inputs.

A delivery is identified by its notification and user, which are unique
together. Does not own the socket messages of a delivery, or the completion of a
task, which leaves it started.
-/

namespace Lombok.Notifications

open Lombok.Core Lombok.Library Lombok.Tasks

/-! ### Deliveries -/

inductive DeliveryStatus where
  | pending
  | sent
  | failed
deriving DecidableEq

/-- The notification and the user of a delivery. -/
abbrev DeliveryKey := String × String

/-- A row of `notificationDeliveriesTable`; a channel without a status is not requested. -/
structure NotificationDelivery where
  key : DeliveryKey
  emailStatus : Option DeliveryStatus
  mobileStatus : Option DeliveryStatus
deriving DecidableEq

def NotificationDelivery.clash (left right : NotificationDelivery) : Bool := left.key == right.key

abbrev NotificationDeliveriesTable := Table NotificationDelivery NotificationDelivery.clash

def NotificationDelivery.isPending (delivery : NotificationDelivery) : Bool :=
  delivery.emailStatus == some .pending

structure UpsertDeliveryOptions where
  email : Bool
  mobile : Bool
deriving DecidableEq

def requested (channel : Bool) : Option DeliveryStatus := if channel then some .pending else none

/-- `COALESCE(status, 'pending')`, for a channel that is requested. -/
def coalesced (channel : Bool) (status : Option DeliveryStatus) : Option DeliveryStatus :=
  if channel then some (status.getD .pending) else status

def NotificationDelivery.request (options : UpsertDeliveryOptions)
    (delivery : NotificationDelivery) : NotificationDelivery :=
  { delivery with
    emailStatus := coalesced options.email delivery.emailStatus
    mobileStatus := coalesced options.mobile delivery.mobileStatus }

theorem request_keeps (options : UpsertDeliveryOptions) :
    Keeps NotificationDelivery.clash (NotificationDelivery.request options) :=
  fun _ _ => ⟨rfl, rfl⟩

/-- One row per notification and user. -/
def upsertDelivery (key : DeliveryKey) (options : UpsertDeliveryOptions)
    (deliveries : NotificationDeliveriesTable) : NotificationDeliveriesTable :=
  let row : NotificationDelivery :=
    { key := key
      emailStatus := requested options.email
      mobileStatus := requested options.mobile }
  match deliveries.insert row with
  | some inserted => inserted
  | none =>
      deliveries.update (fun delivery => delivery.key == key)
        (NotificationDelivery.request options) (request_keeps options)

def NotificationDelivery.withEmailStatus (status : DeliveryStatus)
    (delivery : NotificationDelivery) : NotificationDelivery :=
  { delivery with emailStatus := some status }

theorem withEmailStatus_keeps (status : DeliveryStatus) :
    Keeps NotificationDelivery.clash (NotificationDelivery.withEmailStatus status) :=
  fun _ _ => ⟨rfl, rfl⟩

/-- `update(…).set({ emailStatus }).where(inArray(id, keys))`. -/
def markDeliveries (keys : List DeliveryKey) (status : DeliveryStatus)
    (deliveries : NotificationDeliveriesTable) : NotificationDeliveriesTable :=
  deliveries.update (fun delivery => keys.contains delivery.key)
    (NotificationDelivery.withEmailStatus status) (withEmailStatus_keeps status)

/-! ### Email tasks -/

/-- `getUtcTimestampBucket(seconds, 'seconds', at).bucketIndex`. -/
def secondsBucketIndex (seconds : Int) (date : Date) : Int := date / 1000 / seconds

/-- The email task keyed by the bucket of its start, `delayMs` after `now`. -/
def sendEmailsTask (env : Env) (bucketSeconds delayMs : Int) (id : String) (now : Date) : Task :=
  let dontStartBefore := now + delayMs
  let bucketIndex := Json.ofInt (secondsBucketIndex bucketSeconds dontStartBefore)
  withKey env
    { id := id
      ownerId := coreIdentifier
      taskIdentifier := "send_notification_emails"
      taskDescription := "Send batched notification emails"
      data := .obj [("bucketIndex", bucketIndex)]
      invocation := { context := .systemAction (some (.obj [("bucketIndex", bucketIndex)])) }
      idempotencyKey := ""
      dontStartBefore := some dontStartBefore
      createdAt := now
      updatedAt := now
      handlerType := .core }

/-- The task a delivery builder queues: 5 second buckets, 2 seconds ahead. -/
def emailTask (env : Env) (id : String) (now : Date) : Task := sendEmailsTask env 5 2000 id now

/-- The task a full batch queues: 1 second buckets, 1 second ahead. -/
def nextTask (env : Env) (id : String) (now : Date) : Task := sendEmailsTask env 1 1000 id now

/-! ### Runs in progress -/

/-- The delivery builder inside its loop over the relevant users. -/
structure BuilderRun where
  taskId : String
  notificationId : String
  handled : List String
  remaining : List String
  hasEmailDeliveries : Bool

inductive SenderPhase where
  | secured
  | read
  | tried
  | markedSent
  | markedFailed
deriving DecidableEq

/-- The email sender; the lists are empty until their phase. -/
structure SenderRun where
  taskId : String
  phase : SenderPhase
  batch : List DeliveryKey
  deliveryIds : List DeliveryKey
  failedDeliveryIds : List DeliveryKey

def batchSize : Nat := 100

/-- `pendingDeliveries.length === 100`. -/
def SenderRun.isFull (run : SenderRun) : Bool := run.batch.length == batchSize

/-- What becomes of an email; a user without an address makes it fail. -/
inductive SendOutcome where
  | sent
  | failed
  | notConfigured
deriving DecidableEq

/-- The loop over a batch: what was sent and what failed, up to a missing configuration. -/
def tryBatch (outcome : DeliveryKey → SendOutcome) :
    List DeliveryKey → List DeliveryKey × List DeliveryKey
  | [] => ([], [])
  | key :: rest =>
      let later := tryBatch outcome rest
      match outcome key with
      | .sent => (key :: later.1, later.2)
      | .failed => (later.1, key :: later.2)
      | .notConfigured => ([], [])

/-! ### The system -/

/-- `aborted` holds the tasks of the builder runs that threw at the insertion of an email task. -/
structure EmailState where
  tasks : TasksTable
  notifications : List Notification
  deliveries : NotificationDeliveriesTable
  builders : List BuilderRun
  senders : List SenderRun
  aborted : List String

/-- No deliveries yet, and any tasks and notifications. -/
def EmailState.initial (tasks : TasksTable) (notifications : List Notification) : EmailState where
  tasks := tasks
  notifications := notifications
  deliveries := .empty
  builders := []
  senders := []
  aborted := []

/-- The statements of both processors, and the flush that creates a notification. -/
inductive EmailInput where
  | notify (notification : Notification) (id : String) (now : Date)
  | beginBuild (taskId : String) (now startedTimestamp : Date) (relevantUserIds : List String)
  | deliver (taskId : String) (settings : UpsertDeliveryOptions)
  | queueEmails (taskId : String) (now : Date) (id : String)
  | beginSend (taskId : String) (now startedTimestamp : Date)
  | readPending (taskId : String) (configured : Bool) (chosen : List DeliveryKey)
  | sendEmails (taskId : String) (outcome : DeliveryKey → SendOutcome)
  | markSent (taskId : String)
  | markFailed (taskId : String)
  | queueNext (taskId : String) (now : Date) (id : String)

namespace EmailState

def builderOf (state : EmailState) (taskId : String) : Option BuilderRun :=
  state.builders.find? fun run => run.taskId == taskId

def senderOf (state : EmailState) (taskId : String) : Option SenderRun :=
  state.senders.find? fun run => run.taskId == taskId

def closeBuilder (state : EmailState) (taskId : String) : EmailState :=
  { state with builders := state.builders.eraseP fun run => run.taskId == taskId }

def closeSender (state : EmailState) (taskId : String) : EmailState :=
  { state with senders := state.senders.eraseP fun run => run.taskId == taskId }

def putBuilder (state : EmailState) (run : BuilderRun) : EmailState :=
  { state with builders := state.builders ++ [run] }

def putSender (state : EmailState) (run : SenderRun) : EmailState :=
  { state with senders := state.senders ++ [run] }

/-- A notification is created together with the task that builds its deliveries. -/
def notify (env : Env) (state : EmailState) (notification : Notification) (id : String)
    (now : Date) : EmailState :=
  match state.tasks.insert
      (deliveryTask env notification.aggregationKey notification.id id now) with
  | none => state
  | some tasks =>
      { state with tasks := tasks, notifications := state.notifications ++ [notification] }

/-- The task that an executor secures for a processor, at the time `now`. -/
def startable (state : EmailState) (taskIdentifier taskId : String) (now : Date) : Option Task :=
  (state.tasks.find? (Task.hasId taskId)).filter fun task =>
    startableCoreTaskWhere now task && task.taskIdentifier == taskIdentifier

def secure (state : EmailState) (taskId : String) (startedTimestamp : Date) : EmailState :=
  { state with
    tasks := NotificationState.securedTasks taskId startedTimestamp state.tasks }

/-- `task.data.notificationId`. -/
def taskNotificationId (task : Task) : Option String :=
  match task.data.get? "notificationId" with
  | some (.str notificationId) => some notificationId
  | _ => none

/-- The builder is secured and loads its notification; it throws when there is none. -/
def beginBuild (state : EmailState) (taskId : String) (now startedTimestamp : Date)
    (relevantUserIds : List String) : EmailState :=
  match state.startable "build_notification_deliveries" taskId now with
  | none => state
  | some task =>
      let notification := (taskNotificationId task).bind fun notificationId =>
        state.notifications.find? fun notification => notification.id == notificationId
      match notification with
      | none => state.secure taskId startedTimestamp
      | some notification =>
          (state.secure taskId startedTimestamp).putBuilder
            { taskId := taskId
              notificationId := notification.id
              handled := []
              remaining := relevantUserIds
              hasEmailDeliveries := false }

/-- One turn of the loop over the relevant users. -/
def deliver (state : EmailState) (taskId : String) (settings : UpsertDeliveryOptions) :
    EmailState :=
  match state.builderOf taskId with
  | none => state
  | some run =>
      match run.remaining with
      | [] => state
      | userId :: rest =>
          { (state.closeBuilder taskId).putBuilder
              { run with
                handled := run.handled ++ [userId]
                remaining := rest
                hasEmailDeliveries := run.hasEmailDeliveries || settings.email } with
            deliveries := upsertDelivery (run.notificationId, userId) settings state.deliveries }

/-- The end of the builder; a taken key aborts the run. -/
def queueEmails (env : Env) (state : EmailState) (taskId : String) (now : Date) (id : String) :
    EmailState :=
  match state.builderOf taskId with
  | none => state
  | some run =>
      if run.remaining.isEmpty then
        if run.hasEmailDeliveries then
          match state.tasks.insert (emailTask env id now) with
          | some tasks => { state.closeBuilder taskId with tasks := tasks }
          | none => { state.closeBuilder taskId with aborted := state.aborted ++ [taskId] }
        else
          state.closeBuilder taskId
      else
        state

def beginSend (state : EmailState) (taskId : String) (now startedTimestamp : Date) : EmailState :=
  match state.startable "send_notification_emails" taskId now with
  | none => state
  | some _ =>
      (state.secure taskId startedTimestamp).putSender
        { taskId := taskId
          phase := .secured
          batch := []
          deliveryIds := []
          failedDeliveryIds := [] }

def pendingKeys (state : EmailState) : List DeliveryKey :=
  (state.deliveries.view NotificationDelivery.isPending).map NotificationDelivery.key

/-- The query of the pending deliveries: all of them, or the hundred the database chooses. -/
def readPending (state : EmailState) (taskId : String) (configured : Bool)
    (chosen : List DeliveryKey) : EmailState :=
  match state.senderOf taskId with
  | none => state
  | some run =>
      if run.phase = .secured then
        if configured then
          let batch := state.pendingKeys.filter fun key => chosen.contains key
          if batch.length = min batchSize state.pendingKeys.length then
            if batch.isEmpty then
              state.closeSender taskId
            else
              (state.closeSender taskId).putSender
                { taskId := run.taskId
                  phase := .read
                  batch := batch
                  deliveryIds := []
                  failedDeliveryIds := [] }
          else
            state
        else
          state.closeSender taskId
      else
        state

def sendEmails (state : EmailState) (taskId : String) (outcome : DeliveryKey → SendOutcome) :
    EmailState :=
  match state.senderOf taskId with
  | none => state
  | some run =>
      if run.phase = .read then
        let tried := tryBatch outcome run.batch
        (state.closeSender taskId).putSender
          { run with
            phase := .tried
            deliveryIds := tried.1
            failedDeliveryIds := tried.2 }
      else
        state

def markSent (state : EmailState) (taskId : String) : EmailState :=
  match state.senderOf taskId with
  | none => state
  | some run =>
      if run.phase = .tried then
        { (state.closeSender taskId).putSender { run with phase := .markedSent } with
          deliveries := markDeliveries run.deliveryIds .sent state.deliveries }
      else
        state

def markFailed (state : EmailState) (taskId : String) : EmailState :=
  match state.senderOf taskId with
  | none => state
  | some run =>
      if run.phase = .markedSent then
        { (state.closeSender taskId).putSender { run with phase := .markedFailed } with
          deliveries := markDeliveries run.failedDeliveryIds .failed state.deliveries }
      else
        state

/-- The end of the sender: a full batch queues another task. -/
def queueNext (env : Env) (state : EmailState) (taskId : String) (now : Date) (id : String) :
    EmailState :=
  match state.senderOf taskId with
  | none => state
  | some run =>
      if run.phase = .markedFailed then
        if run.isFull then
          { state.closeSender taskId with
            tasks := (state.tasks.insert (nextTask env id now)).getD state.tasks }
        else
          state.closeSender taskId
      else
        state

def step (env : Env) (state : EmailState) : EmailInput → EmailState
  | .notify notification id now => state.notify env notification id now
  | .beginBuild taskId now startedTimestamp relevantUserIds =>
      state.beginBuild taskId now startedTimestamp relevantUserIds
  | .deliver taskId settings => state.deliver taskId settings
  | .queueEmails taskId now id => state.queueEmails env taskId now id
  | .beginSend taskId now startedTimestamp => state.beginSend taskId now startedTimestamp
  | .readPending taskId configured chosen => state.readPending taskId configured chosen
  | .sendEmails taskId outcome => state.sendEmails taskId outcome
  | .markSent taskId => state.markSent taskId
  | .markFailed taskId => state.markFailed taskId
  | .queueNext taskId now id => state.queueNext env taskId now id

end EmailState

end Lombok.Notifications
