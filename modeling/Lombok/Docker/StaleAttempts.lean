import Lombok.Docker.WorkerHook
import Lombok.Tasks.Lifecycle

/-!
Contract: what the calls of an old attempt can do to a newer one.

Completion and presigned URLs look at the runner task of the token, so a call of
a completed runner is rejected. Progress looks at the inner task alone, and a
start asks for an inner task without a heartbeat, which a requeue does not
clear. So attempts stay apart along the runs in which a stale progress call
finds the inner task not running and no heartbeat of an earlier attempt is left.
-/

namespace Lombok.Docker

open Lombok.Core Lombok.Library Lombok.Library.Action Lombok.Tasks Lombok.Apps

variable {env : Env} {world : World} {claims : WorkerJobClaims}

theorem transaction_rejected {operation : Service Unit}
    (fails : ∀ value after, ¬ Returns operation world value after) :
    ∃ error, Action.transaction operation world = (.error error, world) := by
  unfold Action.transaction
  rcases execution : operation world with ⟨error | value, after⟩
  · exact ⟨error, rfl⟩
  · exact absurd execution (fails value after)

theorem innerOf_eq {runner inner : Task} (found : innerOf world claims = some (runner, inner)) :
    findTask claims.taskId world.db = some runner ∧
      ∃ innerTaskId, innerTaskIdOf runner = some innerTaskId ∧
        findTask innerTaskId world.db = some inner := by
  grind [innerOf, Option.bind_eq_some_iff]

theorem innerOf_of_found {runner inner : Task} {innerTaskId : String}
    (found : findTask claims.taskId world.db = some runner)
    (named : innerTaskIdOf runner = some innerTaskId)
    (innerFound : findTask innerTaskId world.db = some inner) :
    innerOf world claims = some (runner, inner) := by
  simp [innerOf, found, named, innerFound]

/-! ### Calls of a completed runner -/

theorem completeJob_rejected (completed : RunnerCompleted world claims)
    (request : CompleteJobRequest) : Rejected env world (.completeJob claims request) := by
  obtain ⟨runner, found, isCompleted⟩ := (Option.any_eq_true _ _).mp completed
  apply transaction_rejected
  grind [completeJobInTx, returns_bind, Service.returns_query, returns_orThrow, returns_require,
    Option.isNone_iff_eq_none]

theorem requestPresignedStorageUrls_rejected (completed : RunnerCompleted world claims)
    (files : List ContentUrlRequest) :
    Rejected env world (.requestPresignedStorageUrls claims files) := by
  obtain ⟨runner, found, isCompleted⟩ := (Option.any_eq_true _ _).mp completed
  have refused : ∃ error, validatePresignedUrlsRequest claims.toDockerWorkerJobClaims files
      world.db = .error error := by
    unfold validatePresignedUrlsRequest
    rw [found]
    dsimp only
    split
    · exact ⟨_, rfl⟩
    · exact ⟨_, rfl⟩
  obtain ⟨error, throws⟩ := refused
  exact ⟨error, Service.check_throws throws⟩

theorem isRunning_of_progress {taskId : String} {report : TaskProgressReport} {result : Task}
    {after : World} (returned : Returns (registerTaskProgress env taskId report) world
      (some result) after) :
    ∃ row, findTask taskId world.db = some row ∧ isRunning row = true := by
  simp only [registerTaskProgress, storeProgress, returns_bind, returns_ofExcept,
    Service.returns_updateTasksReturning] at returned
  obtain ⟨now, clocked, tick, _, _, ⟨_, rfl⟩, updated, written, ⟨hit, _⟩, answered⟩ := returned
  obtain ⟨_, rfl⟩ := Service.returns_now.mp tick
  rw [find?_guarded] at hit
  replace hit : updated = ((findTask taskId world.db).filter isRunning).map _ := hit
  cases found : findTask taskId world.db with
  | none =>
      rw [found] at hit
      subst hit
      cases answered
  | some row =>
      refine ⟨row, rfl, ?_⟩
      rw [found] at hit
      cases running : isRunning row with
      | true => rfl
      | false =>
          rw [Option.filter_some, running] at hit
          subst hit
          cases answered

theorem processProgress_rejected {request : TaskProgressReport}
    (apart : ∀ pair ∈ innerOf world claims, isRunning pair.2 = false) :
    Rejected env world (.processProgress claims request) := by
  apply transaction_rejected
  intro value after returned
  simp only [processProgressInTx, returns_bind, Service.returns_query,
    returns_orThrow] at returned
  obtain ⟨_, _, ⟨rfl, rfl⟩, runner, _, ⟨found, rfl⟩, innerTaskId, _, ⟨named, rfl⟩, result, _,
    stored, task, _, ⟨rfl, rfl⟩, _⟩ := returned
  obtain ⟨inner, innerFound, running⟩ := isRunning_of_progress stored
  have silent := apart (runner, inner) (innerOf_of_found found named innerFound)
  rw [silent] at running
  cases running

/-! ### The start of a newer attempt -/

theorem startJob_accepted {runner inner : Task} (isPair : innerOf world claims = some
    (runner, inner))
    (runnerRuns : isRunning runner = true) (innerRuns : isRunning inner = true)
    (silent : inner.latestHeartbeatAt = none) :
    ∃ after, Returns (startJob env claims) world () after := by
  obtain ⟨found, innerTaskId, named, innerFound⟩ := innerOf_eq isPair
  have sameId := findTask_id innerFound
  obtain ⟨beaten, after, beats⟩ := @registerHeartbeatInTx_accepts env innerTaskId world inner
    innerFound innerRuns (some { message := "Task worker first heartbeat", payload := none })
    (some (dockerExecutorMetadata claims.executorMetadata))
  simp only [isRunning, Bool.and_eq_true] at runnerRuns innerRuns
  refine ⟨after, ?_⟩
  simp only [startJob, startJobInTx, returns_transaction, returns_bind, Service.returns_query,
    returns_orThrow, returns_require, returns_pure]
  rw [← sameId] at beats
  exact ⟨_, world, ⟨rfl, rfl⟩, runner, world, ⟨found, rfl⟩, innerTaskId, world, ⟨named, rfl⟩, _,
    world, ⟨rfl, rfl⟩, inner, world, ⟨innerFound, rfl⟩, (), world, ⟨innerRuns.1, rfl⟩, (), world,
    ⟨innerRuns.2, rfl⟩, (), world, ⟨by rw [silent]; rfl, rfl⟩, (), world, ⟨runnerRuns.2, rfl⟩, (),
    world, ⟨runnerRuns.1, rfl⟩, beaten, after, beats, trivial, rfl⟩

/-! ### Runs -/

/-- One step: what the condition gives, whatever the database holds. -/
theorem attemptsApart_of_heartbeatsApart {input : HookInput}
    (apart : HeartbeatsApart world input) : AttemptsApart env world input := by
  cases input with
  | startJob claims =>
      intro pair isPair due
      exact startJob_accepted isPair due.1 due.2.1 (apart pair isPair due)
  | processProgress claims request =>
      intro completed
      exact processProgress_rejected (apart completed)
  | requestPresignedStorageUrls claims files =>
      exact fun completed => requestPresignedStorageUrls_rejected completed files
  | completeJob claims request => exact fun completed => completeJob_rejected completed request
  | beginRun | failRun | task => trivial

/-- **Attempts apart.** Along every run in which no stale progress call meets a running inner task
and no start call that is due meets an old heartbeat, calls of completed runners are rejected
without effect and the start call of each attempt is accepted. -/
theorem attemptsApart_along (env : Env) (start : World) (inputs : List HookInput)
    (apart : AlongRun (HookInput.step env) HeartbeatsApart start inputs) :
    AlongRun (HookInput.step env) (AttemptsApart env) start inputs :=
  apart.imp fun _ _ => attemptsApart_of_heartbeatsApart

/-! ### An inner task with two runners -/

def sampleInner : Task where
  id := "inner"
  ownerId := "app"
  taskIdentifier := "render"
  taskDescription := "Render a clip"
  data := .obj []
  invocation := { context := .userAction "user" "request" }
  idempotencyKey := "user_action:key"
  createdAt := 0
  updatedAt := 0
  handlerType := .docker
  handlerIdentifier := some "profile:job"

def sampleEvent : EventInvokeContext where
  eventId := "event"
  emitterId := coreIdentifier
  eventIdentifier := "docker_task_enqueued"
  eventTriggerConfigIndex := none
  runtimeTriggerId := none
  triggerKey := none
  targetUserId := none
  targetLocation := none
  eventData := .obj []

def sampleRunner (id : String) : Task where
  id := id
  ownerId := coreIdentifier
  taskIdentifier := "run_docker_worker"
  taskDescription := "Run a docker job"
  data := .obj [("innerTaskId", .str "inner")]
  invocation := { context := .event sampleEvent }
  idempotencyKey := id
  startedAt := some 0
  createdAt := 0
  updatedAt := 0
  handlerType := .core

def twoRunners : World where
  db := { tasks :=
    { rows := [sampleInner, sampleRunner "first", sampleRunner "second"]
      distinct := by decide } }

def claimsOf (runnerTaskId : String) : WorkerJobClaims where
  taskId := runnerTaskId
  storageAccessPolicy := { rules := [], outputLocation := none }
  jobId := "job"
  executorMetadata := .obj []

def secondBegins : List HookInput :=
  [.beginRun "first" (.obj []), .startJob (claimsOf "first"),
    .failRun "inner" "first" sampleRetry (.succeeded (some (.obj [])) (.obj [])),
    .beginRun "second" (.obj [])]

def sampleReport : TaskProgressReport where
  code := none
  details := none
  message := none
  timestamp := none
  executorMetadata := none

def firstAttempt : List HookInput :=
  [.beginRun "first" (.obj []), .startJob (claimsOf "first"),
    .processProgress (claimsOf "first") sampleReport,
    .completeJob (claimsOf "first") (.success (.obj [])),
    .processProgress (claimsOf "first") sampleReport,
    .completeJob (claimsOf "first") (.success (.obj []))]

theorem attemptsApart_along_firstAttempt :
    AlongRun (HookInput.step Env.sample) (AttemptsApart Env.sample) twoRunners firstAttempt :=
  attemptsApart_along Env.sample twoRunners firstAttempt (by decide +kernel)

/-- After the requeue the first attempt's progress is stored in the second, and the second's
start call is refused. -/
theorem attempts_not_apart : ¬ ∀ (env : Env) (start : World) (inputs : List HookInput),
    AlongRun (HookInput.step env) (AttemptsApart env) start inputs := by
  intro claim
  have along := alongRun_iff_split.mp (claim Env.sample twoRunners
    (secondBegins ++ [.processProgress (claimsOf "first") sampleReport]))
  have apart := along secondBegins (.processProgress (claimsOf "first") sampleReport) [] rfl
  have facts : RunnerCompleted (run (HookInput.step Env.sample) twoRunners secondBegins)
        (claimsOf "first") ∧
      (processProgress Env.sample (claimsOf "first") sampleReport
        (run (HookInput.step Env.sample) twoRunners secondBegins)).1.isOk = true := by
    decide +kernel
  obtain ⟨error, rejected⟩ := apart facts.1
  have stored := facts.2
  replace rejected : processProgress Env.sample (claimsOf "first") sampleReport
      (run (HookInput.step Env.sample) twoRunners secondBegins) = (.error error, _) := rejected
  rw [rejected] at stored
  cases stored

end Lombok.Docker
