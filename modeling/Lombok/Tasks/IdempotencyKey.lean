import Lombok.Core.World

/-!
Contract: the idempotency key of a task row.

The key is the invocation's kind and a hash of the owner, the task identifier
and the data that identifies the trigger. `taskCompleteChildKey` says what that
comes to for a completion child: parent and handler index, and no trace of the
attempt that fired the handler.
-/

namespace Lombok.Tasks

open Lombok.Core Lombok.Library

def ScheduleUnit.name : ScheduleUnit → String
  | minutes => "minutes"
  | hours => "hours"
  | days => "days"

def ScheduleConfig.toJson : ScheduleConfig → Json
  | .interval every unit =>
      .obj [("kind", .str "interval"), ("interval", .ofNat every), ("unit", .str unit.name)]
  | .cron expression timezone =>
      .obj (Fields.ofOptions
        [("kind", some (.str "cron")), ("expression", some (.str expression)),
          ("timezone", timezone.map .str)])

/-- `buildTriggerIdempotencyData`; `requestId` is the identifier drawn for a system action
that brings no data of its own. -/
def buildTriggerIdempotencyData (requestId : String) : InvokeContext → Json
  | .systemAction (some idempotencyData) => idempotencyData
  | .systemAction none => .obj [("requestId", .str requestId)]
  | .event context =>
      .obj [("eventIdentifier", .str context.eventIdentifier),
        ("emitterId", .str context.emitterId),
        ("eventId", .str context.eventId),
        ("eventTriggerConfigIndex", .ofOption (context.eventTriggerConfigIndex.map .ofNat)),
        ("runtimeTriggerId", .ofOption (context.runtimeTriggerId.map .str))]
  | .schedule timestampBucket triggerKey config _ =>
      .obj [("triggerKey", .str triggerKey), ("config", config.toJson),
        ("timestampBucket", .str timestampBucket)]
  | .userAction _ requestId => .obj [("requestId", .str requestId)]
  | .appAction requestId => .obj [("requestId", .str requestId)]
  | .taskCompleteChild parentTaskId _ _ _ onCompleteHandlerIndex =>
      .obj [("parentTaskId", .str parentTaskId),
        ("onCompleteHandlerIndex", .ofNat onCompleteHandlerIndex)]
  | .taskProgressChild parentTaskId _ progressReport onProgressHandlerIndex =>
      .obj [("parentTaskId", .str parentTaskId),
        ("onProgressHandlerIndex", .ofNat onProgressHandlerIndex),
        ("progressReportCode", .ofOption (progressReport.code.map .str)),
        ("progressReportTimestamp", .ofOption (progressReport.timestamp.map .str))]

def idempotencyKeyOf (env : Env) (kind ownerId taskIdentifier : String) (triggerData : Json) :
    String :=
  kind ++ ":" ++ env.hashData
    (Json.stringify
      (.obj [("ownerId", .str ownerId), ("taskIdentifier", .str taskIdentifier),
        ("triggerData", triggerData)]))

def buildTaskIdempotencyKey (env : Env) (requestId : String) (task : Task) : String :=
  idempotencyKeyOf env task.invocation.context.kind task.ownerId task.taskIdentifier
    (buildTriggerIdempotencyData requestId task.invocation.context)

/-- `withTaskIdempotencyKey`; only a system action without data draws an identifier. -/
def withTaskIdempotencyKey (env : Env) (task : Task) : Service Task :=
  match task.invocation.context with
  | .systemAction none => do
      let requestId ← Service.randomUUID env
      pure { task with idempotencyKey := buildTaskIdempotencyKey env requestId task }
  | _ => pure { task with idempotencyKey := buildTaskIdempotencyKey env "" task }

/-- The key of the child that handler `onCompleteHandlerIndex` of a task creates. -/
def taskCompleteChildKey (env : Env) (ownerId taskIdentifier parentTaskId : String)
    (onCompleteHandlerIndex : Nat) : String :=
  idempotencyKeyOf env "task_complete_child" ownerId taskIdentifier
    (.obj [("parentTaskId", .str parentTaskId),
      ("onCompleteHandlerIndex", .ofNat onCompleteHandlerIndex)])

def taskProgressChildKey (env : Env) (ownerId taskIdentifier parentTaskId : String)
    (onProgressHandlerIndex : Nat) (code timestamp : Option String) : String :=
  idempotencyKeyOf env "task_progress_child" ownerId taskIdentifier
    (.obj [("parentTaskId", .str parentTaskId),
      ("onProgressHandlerIndex", .ofNat onProgressHandlerIndex),
      ("progressReportCode", .ofOption (code.map .str)),
      ("progressReportTimestamp", .ofOption (timestamp.map .str))])

end Lombok.Tasks
