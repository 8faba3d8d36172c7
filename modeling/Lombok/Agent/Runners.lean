import Lombok.Agent.Job

/-!
Contract: the two runners of the worker agent.

Owns `RunExecPerJob`, `RunPersistentHTTP`, `CancelJob` and
`HandleCompletionSignalFailure`, with every early return, in the order of the
source. A run takes the files and calls it starts with to the ones it leaves,
and ends by returning or by exiting.

Writes to a state file that exists succeed. The process that a run without
waiting launches makes the same run once more, with waiting.
-/

namespace Lombok.Agent

open Lombok.Core

abbrev AgentRun := Ending × AgentWorld

/-- `return fmt.Errorf(message)`, or `return err`. -/
def failWith (message : String) (world : AgentWorld) : AgentRun :=
  (.returned (some message), world)

/-- The message of the first of some steps that failed, each with what its error is prefixed by. -/
def firstFailure : List (String × Option String) → Option String
  | [] => none
  | (failed, some error) :: _ => some (failed ++ error)
  | (_, none) :: rest => firstFailure rest

/-! ### Signals that fail -/

/-- `HandleCompletionSignalFailure`: the state it leaves, in memory and in the file. -/
def handleCompletionSignalFailure (jobState : JobState) (signalError : String)
    (world : AgentWorld) : JobState × AgentWorld :=
  if jobState.status = "success" then
    (jobState, world)
  else
    let noted := { jobState with
      error :=
        if jobState.error ≠ "" then
          jobState.error ++ "; also failed to signal completion: " ++ signalError
        else
          "failed to signal completion: " ++ signalError }
    (noted, world.writeJobState noted)

/-- `SignalCompletion`, and what is done about its error. -/
def signalCompletion (outcome : Option String) (request : CompletionRequest) (jobState : JobState)
    (world : AgentWorld) : JobState × AgentWorld :=
  match outcome with
  | none => (jobState, world.call (.completion request))
  | some error => handleCompletionSignalFailure jobState error (world.call (.completion request))

def failedCompletion (error : JobError) : CompletionRequest where
  success := false
  result := none
  error := some error
  outputFiles := []

def reportFailure (payload : JobPayload) (outcome : Option String) (error : JobError)
    (jobState : JobState) (world : AgentWorld) : AgentWorld :=
  if payload.hasPlatformClient then
    (signalCompletion outcome (failedCompletion error) jobState world).2
  else
    world

/-! ### Cancelling -/

def cancelledKind (payload : JobPayload) (jobState : JobState) : String :=
  if jobState.workerKind = "" then payload.interface.kind else jobState.workerKind

/-- `CancelJob` up to stopping the worker; `platformClient` is whether its config has one. -/
def cancelJob (payload : JobPayload) (platformClient : Bool) (jobState : JobState)
    (completedAt : Date) (error : JobError) (world : AgentWorld) : AgentWorld :=
  if cancelledKind payload jobState = "exec_per_job" ∨
      cancelledKind payload jobState = "persistent_http" then
    let closed := world.writeJobState
      { jobState with status := "failed", error := error.message, completedAt := some completedAt }
    let signalled :=
      if platformClient then closed.call (.completion (failedCompletion error)) else closed
    signalled.writeJobResult
      { success := false
        jobId := payload.jobId
        jobClass := payload.jobClass
        result := none
        error := some error
        outputFiles := []
        exitCode := some 1 }
  else
    world

def startSignalError (underlying : String) (details : Fields) : JobError where
  code := "PLATFORM_START_SIGNAL_ERROR"
  message := "failed to signal start to platform: " ++ underlying
  origin := .platform
  details := ("underlying_error", .str underlying) :: details

/-- What becomes of the process that makes the run once more. -/
inductive LaunchOutcome where
  | launched
  | notPrepared (error : String)
  | notStarted (error : String)
deriving DecidableEq, Inhabited

/-! ### One process for each job -/

/-- What `cmd.Wait` reports. -/
inductive WaitOutcome where
  | success
  | exited (exitCode : Int) (message : String)
  | otherError
deriving DecidableEq, Inhabited

def WaitOutcome.exitCode : WaitOutcome → Int
  | success => 0
  | exited exitCode _ => exitCode
  | otherError => 1

def WaitOutcome.exitError : WaitOutcome → String
  | exited _ message => message
  | success | otherError => "no message"

/-- What decoding the worker's result file gives, as a value and as an error envelope. -/
structure ResultFile where
  value : Option Json
  envelopeError : Option JobError
deriving Inhabited

structure ExecSteps where
  ensureAllDirs : Option String
  ensureJobOutputDir : Option String
  writeInitialState : Option String
  openJobLog : Option String
  launchAsync : LaunchOutcome
  start : Except String Int
  startedAt : Date
  signalStart : Option String
  /-- The updates forwarded up to the completion signal; some may come before the start signal. -/
  progressUpdates : List Json
  wait : WaitOutcome
  completedAt : Date
  resultFile : Option ResultFile
  outputs : OutputSteps
  signalCompletion : Option String
deriving Inhabited

namespace ExecSteps

variable (steps : ExecSteps)

/-- `workerResult`. -/
def workerResult : Option Json := steps.resultFile.bind ResultFile.value

/-- `workerSuppliedError`: an envelope's error with a code. -/
def workerSuppliedError : Option JobError :=
  (steps.resultFile.bind ResultFile.envelopeError).filter fun error => error.code != ""

end ExecSteps

/-- `completionSuccess` and `finalSuccess`. -/
def execSuccess (payload : JobPayload) (steps : ExecSteps) : Bool :=
  steps.wait.exitCode == 0 && (uploadErrorOf payload steps.outputs).isNone &&
    steps.workerSuppliedError.isNone

/-- `finalError`, the error of the completion signal. -/
def execError (payload : JobPayload) (steps : ExecSteps) : Option JobError :=
  if steps.wait.exitCode ≠ 0 then
    some (steps.workerSuppliedError.getD
      { code := "WORKER_EXIT_ERROR"
        message := "worker exited with code " ++ toString steps.wait.exitCode ++ ": " ++
          steps.wait.exitError
        origin := .app
        details := [("exit_code", .ofInt steps.wait.exitCode)] })
  else
    steps.workerSuppliedError.or
      ((uploadErrorOf payload steps.outputs).map fun uploadError =>
        { code := "FILE_UPLOAD_ERROR"
          message := "failed to upload output files: " ++ uploadError
          origin := .platform
          details := [("underlying_error", .str uploadError)] })

def execCompletion (payload : JobPayload) (steps : ExecSteps) : CompletionRequest where
  success := execSuccess payload steps
  result := steps.workerResult
  error := execError payload steps
  outputFiles := outputFilesOf payload steps.outputs

def initialJobState (payload : JobPayload) (workerKind : String) : JobState where
  jobId := payload.jobId
  jobClass := payload.jobClass
  status := "pending"
  workerKind := workerKind

def execFinalState (payload : JobPayload) (steps : ExecSteps) (jobState : JobState) : JobState :=
  { jobState with
    completedAt := some steps.completedAt
    jobMeta := some { exitCode := steps.wait.exitCode }
    status := if execSuccess payload steps then "success" else "failed"
    error :=
      if execSuccess payload steps then jobState.error
      else ((execError payload steps).map JobError.message).getD jobState.error }

/-- `RunExecPerJob` once the worker has ended. Without a platform client nothing is uploaded. -/
def finishExec (payload : JobPayload) (steps : ExecSteps) (jobState : JobState)
    (world : AgentWorld) : AgentRun :=
  let used : ExecSteps :=
    if payload.hasPlatformClient then steps
    else { steps with outputs := { steps.outputs with readManifest := .ok none } }
  let signalled :=
    if payload.hasPlatformClient then
      signalCompletion steps.signalCompletion (execCompletion payload used) jobState world
    else
      (jobState, world)
  let written := signalled.2.writeJobResult
    { success := execSuccess payload used
      jobId := payload.jobId
      jobClass := payload.jobClass
      result := used.workerResult
      error := execError payload used
      outputFiles := outputFilesOf payload used.outputs
      exitCode := some steps.wait.exitCode }
  let final := written.writeJobState (execFinalState payload used signalled.1)
  let completionSignalFailed := payload.hasPlatformClient && steps.signalCompletion.isSome
  let ending : Ending :=
    if completionSignalFailed || (uploadErrorOf payload used.outputs).isSome ||
        steps.workerSuppliedError.isSome then
      .exited 1
    else if steps.wait.exitCode ≠ 0 then
      .exited steps.wait.exitCode
    else
      .returned none
  (ending, final)

def workerStartError (payload : JobPayload) (error : String) : JobError where
  code := "WORKER_START_ERROR"
  message := "failed to start worker: " ++ error
  origin := .platform
  details := [("worker_command", .arr (payload.workerCommand.map .str)),
    ("underlying_error", .str error)]

/-- `RunExecPerJob` from the start of the worker process on. -/
def startExec (payload : JobPayload) (steps : ExecSteps) (world : AgentWorld) : AgentRun :=
  let jobState := initialJobState payload "exec_per_job"
  match steps.start with
  | .error error =>
      let failed := { jobState with
        status := "failed"
        error := "failed to start worker: " ++ error
        completedAt := some steps.completedAt }
      let reported := reportFailure payload steps.signalCompletion (workerStartError payload error)
        failed (world.writeJobState failed)
      (.exited 1, reported.writeJobResult
        { success := false
          jobId := payload.jobId
          jobClass := payload.jobClass
          result := none
          error := some (workerStartError payload error)
          outputFiles := []
          exitCode := some 1 })
  | .ok pid =>
      let running := { jobState with
        workerPid := pid, status := "running", startedAt := some steps.startedAt }
      let started := world.writeJobState running
      if payload.hasPlatformClient then
        let signalled := started.call (.start steps.signalStart)
        match steps.signalStart with
        | some error =>
            (.exited 1, cancelJob payload false running steps.completedAt
              (startSignalError error []) signalled)
        | none =>
            finishExec payload steps running
              (steps.progressUpdates.foldl (fun world update => world.call (.progress update))
                signalled)
      else
        finishExec payload steps running started

def runExecPerJob (payload : JobPayload) (steps : ExecSteps) (world : AgentWorld) : AgentRun :=
  match firstFailure [("failed to ensure directories: ", steps.ensureAllDirs),
      ("failed to create job output directory: ", steps.ensureJobOutputDir),
      ("failed to write initial job state: ", steps.writeInitialState)] with
  | some message => failWith message world
  | none =>
      let jobState := initialJobState payload "exec_per_job"
      let pending := world.writeJobState jobState
      match steps.openJobLog with
      | some error => failWith ("failed to create job log file: " ++ error) pending
      | none =>
          if payload.waits then
            if payload.workerCommand.isEmpty then failWith "worker_command is empty" pending
            else startExec payload steps pending
          else
            match steps.launchAsync with
            | .launched => (.returned none, pending)
            | .notPrepared error => failWith error pending
            | .notStarted error =>
                failWith ("failed to start async completion process: " ++ error)
                  (pending.writeJobState
                    { jobState with
                      status := "failed", error := error, completedAt := some steps.completedAt })

/-! ### A persistent worker -/

structure HttpJobSubmitResponse where
  accepted : Bool
  error : Option JobError
deriving Inhabited

/-- The answer to a submission: its status, and its body once it was read and decoded. -/
structure SubmitReply where
  statusCode : Nat
  body : Except String (Except String HttpJobSubmitResponse)
deriving Inhabited

structure HttpJobStatusResponse where
  status : String
  result : Option Json
  error : Option JobError
  progressUpdates : List Json
deriving Inhabited

def HttpJobStatusResponse.isFinal (status : HttpJobStatusResponse) : Bool :=
  status.status == "success" || status.status == "failed"

structure HttpSteps where
  ensureAllDirs : Option String
  ensureJobOutputDir : Option String
  writeInitialState : Option String
  openJobLog : Option String
  workerAlive : Except String (Option Int)
  launchAsync : LaunchOutcome
  ensureWorkerReady : Except String Int
  marshalRequest : Option String
  signalStart : Option String
  newRequest : Option String
  submit : Except String SubmitReply
  startedAt : Date
  polls : List (Except String HttpJobStatusResponse)
  completedAt : Date
  outputs : OutputSteps
  signalCompletion : Option String
deriving Inhabited

/-- The error of a worker that rejects a job, with what the worker supplied. -/
def notAcceptedError (port : Int) (reply : SubmitReply) (response : HttpJobSubmitResponse) :
    JobError where
  code := "JOB_NOT_ACCEPTED"
  message := (response.error.map JobError.message).getD "job not accepted"
  origin := .app
  details := [("port", .ofInt port), ("http_status_code", .ofNat reply.statusCode)] ++
    match response.error with
    | none => []
    | some error =>
        (if error.code ≠ "" then [("worker_error_code", .str error.code)] else []) ++
          (if error.details.isEmpty then [] else [("worker_error_details", .obj error.details)])

def pollTimeoutMessage : String := "job polling timed out after 30m0s"

def pollTimeoutError (port : Int) : JobError where
  code := "JOB_POLL_TIMEOUT"
  message := pollTimeoutMessage
  origin := .app
  details := [("port", .ofInt port), ("timeout_seconds", .num "1800")]

def workerNotReadyError (port : Int) (error : String) : JobError where
  code := "WORKER_NOT_READY"
  message := error
  origin := .platform
  details := [("port", .ofInt port), ("readiness_error", .str error)]

/-- The polling loop: the world after the forwarded updates, and the final status, if one came
before the deadline. -/
def pollJob (payload : JobPayload) :
    List (Except String HttpJobStatusResponse) → AgentWorld →
      Option HttpJobStatusResponse × AgentWorld
  | [], world => (none, world)
  | .error _ :: rest, world => pollJob payload rest world
  | .ok status :: rest, world =>
      let forwarded :=
        if payload.hasPlatformClient then
          status.progressUpdates.foldl (fun world update => world.call (.progress update)) world
        else
          world
      if status.isFinal then (some status, forwarded) else pollJob payload rest forwarded

def httpCompletion (payload : JobPayload) (steps : HttpSteps) (finalStatus :
    HttpJobStatusResponse) :
    CompletionRequest where
  success := finalStatus.status == "success"
  result := finalStatus.result
  error := finalStatus.error
  outputFiles := outputFilesOf payload steps.outputs

/-- `RunPersistentHTTP` once a final status was polled. -/
def finishHttp (payload : JobPayload) (steps : HttpSteps) (finalStatus : HttpJobStatusResponse)
    (jobState : JobState) (world : AgentWorld) : AgentRun :=
  let success := finalStatus.status == "success"
  let done := { jobState with
    completedAt := some steps.completedAt
    status := finalStatus.status
    error :=
      if success then jobState.error
      else (finalStatus.error.map JobError.message).getD jobState.error }
  let signalled :=
    if payload.hasPlatformClient then
      signalCompletion steps.signalCompletion (httpCompletion payload steps finalStatus) done world
    else
      (done, world)
  let written := signalled.2.writeJobResult
    { success := success
      jobId := payload.jobId
      jobClass := payload.jobClass
      result := finalStatus.result
      error := finalStatus.error
      outputFiles := if payload.hasPlatformClient then outputFilesOf payload steps.outputs else []
      exitCode := none }
  let final := written.writeJobState signalled.1
  let ending : Ending :=
    if payload.hasPlatformClient && steps.signalCompletion.isSome then .exited 1
    else if signalled.1.status = "failed" then .exited 1
    else .returned none
  (ending, final)

/-- `RunPersistentHTTP` once the worker accepted the job. -/
def awaitHttp (payload : JobPayload) (steps : HttpSteps) (port : Int) (jobState : JobState)
    (world : AgentWorld) : AgentRun :=
  let running := { jobState with status := "running", startedAt := some steps.startedAt }
  match pollJob payload steps.polls (world.writeJobState running) with
  | (some finalStatus, polled) => finishHttp payload steps finalStatus running polled
  | (none, polled) =>
      let timedOut := { running with
        status := "failed", error := pollTimeoutMessage, completedAt := some steps.completedAt }
      (.exited 1, reportFailure payload steps.signalCompletion (pollTimeoutError port) timedOut
        (polled.writeJobState timedOut))

/-- `RunPersistentHTTP` from the submission of the job on. -/
def submitHttp (payload : JobPayload) (steps : HttpSteps) (port : Int) (jobState : JobState)
    (world : AgentWorld) : AgentRun :=
  match steps.newRequest with
  | some error => failWith ("failed to create HTTP request: " ++ error) world
  | none =>
      match steps.submit with
      | .error error =>
          failWith error (world.writeJobState
            { jobState with status := "failed", error := "job submission failed: " ++ error })
      | .ok reply =>
          match reply.body with
          | .error error => failWith ("failed to read submission response: " ++ error) world
          | .ok (.error error) => failWith ("failed to parse submission response: " ++ error) world
          | .ok (.ok response) =>
              if response.accepted then
                awaitHttp payload steps port jobState world
              else
                let error := notAcceptedError port reply response
                let failed := { jobState with status := "failed", error := error.message }
                failWith ("job not accepted: " ++ error.message)
                  (reportFailure payload steps.signalCompletion error failed
                    (world.writeJobState failed))

/-- `RunPersistentHTTP` from the readiness of the worker on. -/
def dispatchHttp (payload : JobPayload) (steps : HttpSteps) (port : Int) (world : AgentWorld) :
    AgentRun :=
  let jobState := initialJobState payload "persistent_http"
  match steps.ensureWorkerReady with
  | .error error =>
      let failed := { jobState with status := "failed", error := error }
      failWith error (reportFailure payload steps.signalCompletion (workerNotReadyError port error)
        failed (world.writeJobState failed))
  | .ok pid =>
      let ready := { jobState with workerStatePid := pid }
      let prepared := world.writeJobState ready
      match steps.marshalRequest with
      | some error => failWith ("failed to marshal job request: " ++ error) prepared
      | none =>
          if payload.hasPlatformClient then
            let signalled := prepared.call (.start steps.signalStart)
            match steps.signalStart with
            | some error =>
                (.exited 1, cancelJob payload false ready steps.completedAt
                  (startSignalError error [("worker_pid", .ofInt pid)]) signalled)
            | none => submitHttp payload steps port ready signalled
          else
            submitHttp payload steps port ready prepared

def failedDispatch (steps : HttpSteps) (jobState : JobState) (error : String) : JobState :=
  { jobState with status := "failed", error := error, completedAt := some steps.completedAt }

/-- `startAsyncDispatch`. -/
def startAsyncDispatch (steps : HttpSteps) (port : Int) (jobState : JobState)
    (world : AgentWorld) : AgentRun :=
  if port ≤ 0 then
    let error := "worker port is required"
    failWith error (world.writeJobState (failedDispatch steps jobState error))
  else
    match steps.workerAlive with
    | .error error => failWith ("failed to check worker state: " ++ error) world
    | .ok alive =>
        let known := { jobState with workerStatePid := alive.getD jobState.workerStatePid }
        let noted := if alive.isSome then world.writeJobState known else world
        match steps.launchAsync with
        | .launched => (.returned none, noted)
        | .notPrepared error | .notStarted error =>
            failWith error (noted.writeJobState (failedDispatch steps known error))

def runPersistentHttp (payload : JobPayload) (steps : HttpSteps) (world : AgentWorld) : AgentRun :=
  match payload.interface.port with
  | none => failWith "port is required" world
  | some port =>
      match firstFailure [("failed to ensure directories: ", steps.ensureAllDirs),
          ("failed to create job output directory: ", steps.ensureJobOutputDir),
          ("failed to write initial job state: ", steps.writeInitialState)] with
      | some message => failWith message world
      | none =>
          let jobState := initialJobState payload "persistent_http"
          let pending := world.writeJobState jobState
          match steps.openJobLog with
          | some error => failWith ("failed to create job log file: " ++ error) pending
          | none =>
              if payload.waits then dispatchHttp payload steps port pending
              else startAsyncDispatch steps port jobState pending

/-- `runJob` once its payload was decoded. -/
inductive JobRun where
  | exec (payload : JobPayload) (steps : ExecSteps)
  | http (payload : JobPayload) (steps : HttpSteps)
deriving Inhabited

namespace JobRun

def payload : JobRun → JobPayload
  | exec payload _ | http payload _ => payload

/-- A run that starts with no files and no calls. -/
def outcome : JobRun → AgentRun
  | exec payload steps => runExecPerJob payload steps {}
  | http payload steps => runPersistentHttp payload steps {}

def world (job : JobRun) : AgentWorld := job.outcome.2

end JobRun

end Lombok.Agent
