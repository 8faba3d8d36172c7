import Lombok.Apps.FolderAuthority
import Lombok.Tasks.Transitions

/-!
Contract: the calls a docker worker makes with its job token.

Owns `startJob`, `processProgress`, `requestPresignedStorageUrls` and
`completeJob` over the rows of the runner task a token names and of the inner
task that one runs, and the steps of the runner's processor that change rows.

Does not own the signature of a token, the execution of the job, which
completions the processor builds from an error, or the telemetry event a
completion sends off.
-/

namespace Lombok.Docker

open Lombok.Core Lombok.Library Lombok.Library.Action Lombok.Tasks Lombok.Apps

/-- The claims of a worker job token. -/
structure WorkerJobClaims extends Lombok.Apps.DockerWorkerJobClaims where
  jobId : String
  executorMetadata : Json
deriving Inhabited

def dockerExecutorMetadata (metadata : Json) : Json :=
  .obj [("type", .str "docker"), ("metadata", metadata)]

/-- `innerTaskId`, where it is a string that is not empty. -/
def innerTaskIdOf (dockerTask : Task) : Option String :=
  match dockerTask.data.get? "innerTaskId" with
  | some (.str innerTaskId) => if innerTaskId == "" then none else some innerTaskId
  | _ => none

/-! ### Completing a job -/

inductive ErrorOrigin where
  | platform
  | app
deriving DecidableEq, Inhabited

def ErrorOrigin.text : ErrorOrigin → String
  | platform => "platform"
  | app => "app"

structure JobError where
  name : Option String
  code : String
  message : String
  origin : ErrorOrigin
  details : Option Fields
deriving Inhabited

inductive CompleteJobRequest where
  | success (result : Json)
  | error (error : JobError)
deriving Inhabited

/-- The error that is stored, its origin beside the details of the worker. -/
def JobError.taskError (error : JobError) : TaskError where
  code := error.code
  name := some (error.name.getD "Error")
  message := error.message
  stack := none
  cause := none
  details := some (.obj (Fields.set (error.details.getD []) "origin" (.str error.origin.text)))

def innerTaskCompletion (metadata : Json) : CompleteJobRequest → TaskCompletion
  | .success result => .succeeded (some result) metadata
  | .error error => .failed error.taskError none metadata

def runnerTaskCompletion (metadata : Json) : CompleteJobRequest → TaskCompletion
  | .success _ => .succeeded (some (.obj [])) metadata
  | .error error =>
      match error.origin with
      | .app => .succeeded (some (.obj [])) metadata
      | .platform => .failed error.taskError none metadata

def missingInnerTask (dockerTask : Task) : String :=
  if (dockerTask.data.get? "innerTaskId").isSome then "undefined" else "false"

def notStartedMessage (dockerRunTaskId : String) : String :=
  "Task " ++ dockerRunTaskId ++ " cannot be completed because it has not been started"

def completeJobInTx (env : Env) (claims : WorkerJobClaims) (request : CompleteJobRequest) :
    Service Unit := do
  let found ← Service.query (findTask claims.taskId)
  let dockerTask ← Action.orThrow found (.notFound ("Task not found: " ++ claims.taskId))
  Action.require dockerTask.startedAt.isSome (.forbidden (notStartedMessage claims.taskId))
  Action.require dockerTask.completedAt.isNone (.forbidden (notStartedMessage claims.taskId))
  let foundInner ← Service.query (findInnerTask dockerTask)
  let innerTask ← Action.orThrow foundInner
    (.notFound ("Inner task not found: " ++ missingInnerTask dockerTask))
  let metadata := dockerExecutorMetadata claims.executorMetadata
  let _ ← registerTaskCompletedInTx env dockerTask.id (runnerTaskCompletion metadata request)
  let _ ← registerTaskCompletedInTx env innerTask.id (innerTaskCompletion metadata request)
  pure ()

def completeJob (env : Env) (claims : WorkerJobClaims) (request : CompleteJobRequest) :
    Service Unit :=
  Action.transaction (completeJobInTx env claims request)

/-! ### Starting a job -/

def startJobInTx (env : Env) (claims : WorkerJobClaims) : Service Unit := do
  let found ← Service.query (findTask claims.taskId)
  let dockerRunTask ← Action.orThrow found
    (.notFound ("Docker task not found: " ++ claims.taskId))
  let innerTaskId ← Action.orThrow (innerTaskIdOf dockerRunTask)
    (.notFound ("Docker job task has no inner task: " ++ claims.taskId))
  let foundInner ← Service.query (findTask innerTaskId)
  let innerTask ← Action.orThrow foundInner
    (.notFound ("Docker handled task not found: " ++ innerTaskId))
  let handled := "Docker handled task " ++ innerTask.id
  Action.require innerTask.completedAt.isNone (.conflict (handled ++
    " initial heartbeat cannot be registered because the task has already been completed"))
  Action.require innerTask.startedAt.isSome (.conflict (handled ++
    " initial heartbeat cannot be registered because the task has not been started"))
  Action.require innerTask.latestHeartbeatAt.isNone (.conflict (handled ++
    " initial heartbeat was already registered"))
  Action.require dockerRunTask.startedAt.isSome (.conflict (handled ++
    " cannot be started because the associated docker task (" ++ claims.taskId ++
    ") has not been started"))
  Action.require dockerRunTask.completedAt.isNone (.conflict (handled ++
    " cannot be started because the associated docker task (" ++ claims.taskId ++
    ") has already been completed"))
  let _ ← registerHeartbeatInTx env innerTask.id
    (some { message := "Task worker first heartbeat", payload := none })
    (some (dockerExecutorMetadata claims.executorMetadata))
  pure ()

def startJob (env : Env) (claims : WorkerJobClaims) : Service Unit :=
  Action.transaction (startJobInTx env claims)

/-! ### Progress and presigned URLs -/

def processProgressInTx (env : Env) (claims : WorkerJobClaims) (request : TaskProgressReport) :
    Service Unit := do
  let found ← Service.query (findTask claims.taskId)
  let dockerTask ← Action.orThrow found
    (.badRequest ("Docker task " ++ claims.taskId ++ " not found"))
  let innerTaskId ← Action.orThrow (innerTaskIdOf dockerTask)
    (.badRequest ("Docker job task has no inner task: " ++ claims.taskId))
  let result ← registerTaskProgress env innerTaskId
    { request with executorMetadata := some (dockerExecutorMetadata claims.executorMetadata) }
  let _ ← Action.orThrow result (.conflict ("Task " ++ innerTaskId ++
    " is not in a running state (may be completed or not started)"))
  pure ()

def processProgress (env : Env) (claims : WorkerJobClaims) (request : TaskProgressReport) :
    Service Unit :=
  Action.transaction (processProgressInTx env claims request)

/-- `requestPresignedStorageUrls`, up to the signing. -/
def requestPresignedStorageUrls (claims : WorkerJobClaims) (files : List ContentUrlRequest) :
    Service Unit :=
  Service.check (validatePresignedUrlsRequest claims.toDockerWorkerJobClaims files)

/-! ### The runner's processor -/

/-- `run` up to the execution of the job. -/
def beginRun (env : Env) (runnerTaskId : String) (metadata : Json) : Service Unit := do
  let found ← Service.query (findTask runnerTaskId)
  let task ← Action.orThrow found (.notFound ("Task not found: " ++ runnerTaskId))
  Action.require (task.invocation.context.kind == "event")
    (.notFound "RunDockerJobProcessor requires event trigger")
  let foundInner ← Service.query (findInnerTask task)
  let innerTask ← Action.orThrow foundInner
    (.notFound ("Inner task not found: " ++ missingInnerTask task ++ " for docker job task " ++
      task.id))
  let _ ← registerTaskStarted env innerTask.id (dockerExecutorMetadata metadata)
  pure ()

/-- The end of `run` where the job was not accepted, with the completions built from the error. -/
def failRun (env : Env) (innerTaskId runnerTaskId : String)
    (innerTaskCompletion runnerTaskCompletion : TaskCompletion) : Service Unit :=
  Action.transaction do
    let _ ← registerTaskCompletedInTx env innerTaskId innerTaskCompletion
    let _ ← registerTaskCompletedInTx env runnerTaskId runnerTaskCompletion
    pure ()

/-! ### Runs -/

inductive HookInput where
  | startJob (claims : WorkerJobClaims)
  | processProgress (claims : WorkerJobClaims) (request : TaskProgressReport)
  | requestPresignedStorageUrls (claims : WorkerJobClaims) (files : List ContentUrlRequest)
  | completeJob (claims : WorkerJobClaims) (request : CompleteJobRequest)
  | beginRun (runnerTaskId : String) (metadata : Json)
  | failRun (innerTaskId runnerTaskId : String)
      (innerTaskCompletion runnerTaskCompletion : TaskCompletion)
  | task (call : TaskCall)

namespace HookInput

def perform (env : Env) : HookInput → Service Unit
  | startJob claims => Docker.startJob env claims
  | processProgress claims request => Docker.processProgress env claims request
  | requestPresignedStorageUrls claims files => Docker.requestPresignedStorageUrls claims files
  | completeJob claims request => Docker.completeJob env claims request
  | beginRun runnerTaskId metadata => Docker.beginRun env runnerTaskId metadata
  | failRun innerTaskId runnerTaskId innerTaskCompletion runnerTaskCompletion =>
      Docker.failRun env innerTaskId runnerTaskId innerTaskCompletion runnerTaskCompletion
  | task call => call.perform env

/-- The state after an input, however it ended. -/
def step (env : Env) (world : World) (input : HookInput) : World := (input.perform env world).2

end HookInput

def RunnerCompleted (world : World) (claims : WorkerJobClaims) : Prop :=
  (findTask claims.taskId world.db).any (fun runner => runner.completedAt.isSome) = true

def innerOf (world : World) (claims : WorkerJobClaims) : Option (Task × Task) := do
  let runner ← findTask claims.taskId world.db
  let innerTaskId ← innerTaskIdOf runner
  let inner ← findTask innerTaskId world.db
  some (runner, inner)

def StartDue (runner inner : Task) : Prop :=
  isRunning runner = true ∧ isRunning inner = true ∧
    ∀ heartbeat ∈ inner.latestHeartbeatAt, ∀ started ∈ inner.startedAt, heartbeat ≤ started

/-- The call is answered with an error and changes nothing. -/
def Rejected (env : Env) (world : World) (input : HookInput) : Prop :=
  ∃ error, input.perform env world = (.error error, world)

/-- A call of a completed runner is rejected, and a start call that is due is accepted. -/
def AttemptsApart (env : Env) (world : World) : HookInput → Prop
  | .startJob claims =>
      ∀ pair ∈ innerOf world claims, StartDue pair.1 pair.2 →
        ∃ after, Returns (startJob env claims) world () after
  | .processProgress claims request =>
      RunnerCompleted world claims → Rejected env world (.processProgress claims request)
  | .requestPresignedStorageUrls claims files =>
      RunnerCompleted world claims → Rejected env world (.requestPresignedStorageUrls claims files)
  | .completeJob claims request =>
      RunnerCompleted world claims → Rejected env world (.completeJob claims request)
  | _ => True

/-- A progress call of a completed runner finds its inner task not running, and a start call that
is due finds no heartbeat of an earlier attempt. -/
def HeartbeatsApart (world : World) : HookInput → Prop
  | .startJob claims =>
      ∀ pair ∈ innerOf world claims, StartDue pair.1 pair.2 → pair.2.latestHeartbeatAt = none
  | .processProgress claims _ =>
      RunnerCompleted world claims → ∀ pair ∈ innerOf world claims, isRunning pair.2 = false
  | _ => True

instance (world : World) (claims : WorkerJobClaims) : Decidable (RunnerCompleted world claims) :=
  inferInstanceAs (Decidable (_ = _))

instance (runner inner : Task) : Decidable (StartDue runner inner) :=
  inferInstanceAs (Decidable (_ ∧ _ ∧
    ∀ heartbeat ∈ inner.latestHeartbeatAt, ∀ started ∈ inner.startedAt, _ ≤ _))

instance (world : World) : ∀ input, Decidable (HeartbeatsApart world input)
  | .startJob claims => inferInstanceAs (Decidable (∀ pair ∈ innerOf world claims, _ → _))
  | .processProgress claims _ =>
      inferInstanceAs (Decidable (_ → ∀ pair ∈ innerOf world claims, _ = _))
  | .requestPresignedStorageUrls .. | .completeJob .. | .beginRun .. | .failRun .. | .task _ =>
      isTrue trivial

end Lombok.Docker
