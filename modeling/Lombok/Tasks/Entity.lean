import Lombok.Core.Values
import Lombok.Library.Table

/-!
Contract: the `tasks` table and the JSON documents stored in its columns.

Column names are the source's own; `loggedAt` stands for the property `at` of a
log entry. Executor metadata, results and progress details are documents that
no modelled function looks into, so they stay JSON.

Does not own: which service writes which column.
-/

namespace Lombok.Tasks

open Lombok.Core Lombok.Library

/-- `CORE_IDENTIFIER`, the owner of platform tasks and the emitter of core events. -/
def coreIdentifier : String := "core"

/-- `MAX_TASK_ATTEMPTS`. -/
def maxTaskAttempts : Nat := 5

/-! ### Configuration carried by an invocation -/

/-- `TaskOnCompleteConfig`; an absent nested list is the empty one. -/
inductive TaskOnCompleteConfig where
  | mk (taskIdentifier : String) (condition : Option String) (dataTemplate : Option Json)
      (onComplete : List TaskOnCompleteConfig)
deriving Inhabited

namespace TaskOnCompleteConfig

def taskIdentifier : TaskOnCompleteConfig → String
  | mk taskIdentifier _ _ _ => taskIdentifier

def condition : TaskOnCompleteConfig → Option String
  | mk _ condition _ _ => condition

def dataTemplate : TaskOnCompleteConfig → Option Json
  | mk _ _ dataTemplate _ => dataTemplate

def onComplete : TaskOnCompleteConfig → List TaskOnCompleteConfig
  | mk _ _ _ onComplete => onComplete

end TaskOnCompleteConfig

/-- A condition as the handlers test for it: an empty one is falsy and counts as absent. -/
def setCondition (condition : Option String) : Option String :=
  condition.filter fun text => text != ""

structure TaskOnProgressConfig where
  taskIdentifier : String
  condition : Option String
  dataTemplate : Option Json
deriving Inhabited

inductive ScheduleUnit where
  | minutes
  | hours
  | days
deriving DecidableEq, Inhabited

inductive ScheduleConfig where
  | interval (interval : Nat) (unit : ScheduleUnit)
  | cron (expression : String) (timezone : Option String)
deriving DecidableEq, Inhabited

structure TargetLocation where
  folderId : String
  objectKey : Option String
deriving DecidableEq, Inhabited

inductive SignedURLsRequestMethod where
  | get
  | head
  | put
  | delete
deriving DecidableEq, Inhabited

/-- The part of a folder that an access rule names. -/
inductive AccessRuleScope where
  | folder
  | object (objectKey : String)
  | prefixed (keyPrefix : String)
deriving DecidableEq, Inhabited

structure StorageAccessPolicyAccessRule where
  folderId : String
  scope : AccessRuleScope
  methods : List SignedURLsRequestMethod
deriving DecidableEq, Inhabited

structure StorageAccessPolicy where
  rules : List StorageAccessPolicyAccessRule
  outputLocation : Option (String × AccessRuleScope)
deriving DecidableEq, Inhabited

/-! ### Progress reports and logs -/

structure TaskProgressReport where
  code : Option String
  details : Option Json
  message : Option Json
  timestamp : Option String
  executorMetadata : Option Json
deriving Inhabited

structure ReceivedTaskProgressReport extends TaskProgressReport where
  receivedAt : String
deriving Inhabited

inductive SystemLogType where
  | started
  | error
  | requeue
  | success
deriving DecidableEq, Inhabited

structure SystemLogEntry where
  loggedAt : Date
  logType : SystemLogType
  message : String
  payload : Option Fields
deriving Inhabited

structure TaskLogEntry where
  loggedAt : Date
  logType : String
  message : String
  payload : Option Fields
deriving Inhabited

structure TaskErrorCause where
  code : String
  name : String
  message : String
  stack : Option String
  details : Option Json
deriving Inhabited

/-- The `error` of a failed completion; the stored column has the same shape. -/
structure TaskError where
  code : String
  name : Option String
  message : String
  stack : Option String
  cause : Option TaskErrorCause
  details : Option Json
deriving Inhabited

def TaskErrorCause.toJson (cause : TaskErrorCause) : Json :=
  .obj (Fields.ofOptions
    [("code", some (.str cause.code)), ("name", some (.str cause.name)),
      ("message", some (.str cause.message)), ("stack", cause.stack.map .str),
      ("details", cause.details)])

def TaskError.toJson (error : TaskError) : Json :=
  .obj (Fields.ofOptions
    [("name", error.name.map .str), ("code", some (.str error.code)),
      ("message", some (.str error.message)), ("stack", error.stack.map .str),
      ("cause", error.cause.map TaskErrorCause.toJson), ("details", error.details)])

/-- `TaskCompletion`, a discriminated union on `success`. -/
inductive TaskCompletion where
  | succeeded (result : Option Json) (executorMetadata : Json)
  | failed (error : TaskError) (requeueDelayMs : Option Nat) (executorMetadata : Json)
deriving Inhabited

namespace TaskCompletion

def success : TaskCompletion → Bool
  | succeeded _ _ => true
  | failed _ _ _ => false

/-- `completion.requeueDelayMs`, which only a failure has. -/
def requeueDelayMs : TaskCompletion → Option Nat
  | succeeded _ _ => none
  | failed _ requeueDelayMs _ => requeueDelayMs

end TaskCompletion

/-! ### Invocations -/

structure EventInvokeContext where
  eventId : String
  emitterId : String
  eventIdentifier : String
  eventTriggerConfigIndex : Option Nat
  runtimeTriggerId : Option String
  triggerKey : Option String
  targetUserId : Option String
  targetLocation : Option TargetLocation
  eventData : Json
deriving Inhabited

/-- `kind` and `invokeContext` of a `TaskInvocation`. -/
inductive InvokeContext where
  | systemAction (idempotencyData : Option Json)
  | event (context : EventInvokeContext)
  | schedule (timestampBucket : String) (triggerKey : String) (config : ScheduleConfig)
      (runtimeTriggerId : Option String)
  | userAction (userId : String) (requestId : String)
  | appAction (requestId : String)
  | taskCompleteChild (parentTaskId : String) (parentIdentifier : String)
      (parentSuccess : Bool) (parentResult : Json) (onCompleteHandlerIndex : Nat)
  | taskProgressChild (parentTaskId : String) (parentIdentifier : String)
      (progressReport : ReceivedTaskProgressReport) (onProgressHandlerIndex : Nat)
deriving Inhabited

/-- The discriminator of the union. -/
def InvokeContext.kind : InvokeContext → String
  | systemAction _ => "system_action"
  | event _ => "event"
  | schedule _ _ _ _ => "schedule"
  | userAction _ _ => "user_action"
  | appAction _ => "app_action"
  | taskCompleteChild _ _ _ _ _ => "task_complete_child"
  | taskProgressChild _ _ _ _ => "task_progress_child"

structure TaskInvocation where
  context : InvokeContext
  onComplete : List TaskOnCompleteConfig := []
  onProgress : List TaskOnProgressConfig := []
deriving Inhabited

/-! ### Rows -/

inductive HandlerType where
  | runtime
  | docker
  | core
deriving DecidableEq, Inhabited

/-- A row of `tasksTable`. -/
structure Task where
  id : String
  ownerId : String
  taskIdentifier : String
  taskDescription : String
  data : Json
  invocation : TaskInvocation
  idempotencyKey : String
  targetUserId : Option String := none
  targetLocationFolderId : Option String := none
  targetLocationObjectKey : Option String := none
  startedAt : Option Date := none
  completedAt : Option Date := none
  attemptCount : Nat := 0
  failureCount : Nat := 0
  dontStartBefore : Option Date := none
  systemLog : List SystemLogEntry := []
  taskLog : List TaskLogEntry := []
  storageAccessPolicy : Option StorageAccessPolicy := none
  success : Option Bool := none
  userVisible : Bool := true
  error : Option TaskError := none
  createdAt : Date
  updatedAt : Date
  latestHeartbeatAt : Option Date := none
  handlerType : HandlerType
  handlerIdentifier : Option String := none
  progressReports : List ReceivedTaskProgressReport := []
  correlationKey : Option String := none
  progress : Option Json := none
deriving Inhabited

/-- `id` is the primary key and `idempotencyKey` is unique. -/
def Task.clash (left right : Task) : Bool :=
  left.id == right.id || left.idempotencyKey == right.idempotencyKey

abbrev TasksTable := Table Task Task.clash

/-- `where eq(tasksTable.id, taskId)`. -/
def Task.hasId (taskId : String) (task : Task) : Bool := task.id == taskId

theorem Task.eq_of_id (tasks : TasksTable) {left right : Task} (leftMember : left ∈ tasks.rows)
    (rightMember : right ∈ tasks.rows) (sameId : left.id = right.id) : left = right := by
  grind [Task.clash, tasks.eq_of_clash]

theorem Task.eq_of_idempotencyKey (tasks : TasksTable) {left right : Task}
    (leftMember : left ∈ tasks.rows) (rightMember : right ∈ tasks.rows)
    (sameKey : left.idempotencyKey = right.idempotencyKey) : left = right := by
  grind [Task.clash, tasks.eq_of_clash]

end Lombok.Tasks
