import Lombok.Agent.Runners

/-!
Contract: what a job leaves behind once the platform accepted its start.

The exec runner always signals the completion once and closes the state file.
The HTTP runner does so exactly where the worker accepted the job: each early
return around the submission misses the signal, the time of completion, or
both.
-/

namespace Lombok.Agent

open Lombok.Core

def PlatformCall.isAcceptedStart : PlatformCall → Bool
  | .start none => true
  | _ => false

/-- What a completion signal reports. -/
def PlatformCall.completion? : PlatformCall → Option CompletionRequest
  | .completion request => some request
  | _ => none

def StartAccepted (calls : List PlatformCall) : Prop :=
  calls.any PlatformCall.isAcceptedStart = true

def completionsAfterStart (calls : List PlatformCall) : List CompletionRequest :=
  (calls.dropWhile fun platformCall => !platformCall.isAcceptedStart).filterMap
    PlatformCall.completion?

/-- A terminal status with the time of completion. -/
def JobState.IsClosed (jobState : JobState) : Prop :=
  (jobState.status = "success" ∨ jobState.status = "failed") ∧ jobState.completedAt.isSome = true

/-- One completion signal was attempted, and the state file is closed. -/
structure EndsOnce (world : AgentWorld) : Prop where
  signalled : (completionsAfterStart world.calls).length = 1
  closed : ∃ jobState, world.stateFile = some jobState ∧ jobState.IsClosed

/-- The worker's reply to a submission was received, read and decoded, and accepts the job. -/
def SubmissionAccepted (steps : HttpSteps) : Prop :=
  steps.newRequest = none ∧ ∃ reply, steps.submit = .ok reply ∧
    ∃ response, reply.body = .ok (.ok response) ∧ response.accepted = true

/-- Nothing goes wrong around the submission to a persistent worker. -/
def JobRun.SubmissionHolds : JobRun → Prop
  | .exec .. => True
  | .http _ steps => SubmissionAccepted steps

instance (calls : List PlatformCall) : Decidable (StartAccepted calls) :=
  inferInstanceAs (Decidable (_ = _))

/-! ### Counting calls -/

variable {calls : List PlatformCall}

theorem not_startAccepted_nil : ¬ StartAccepted [] := nofun

theorem startAccepted_append {platformCall : PlatformCall} (accepted : StartAccepted calls) :
    StartAccepted (calls ++ [platformCall]) := by
  grind [StartAccepted]

theorem completionsAfterStart_append (accepted : StartAccepted calls)
    (platformCall : PlatformCall) :
    completionsAfterStart (calls ++ [platformCall]) =
      completionsAfterStart calls ++ platformCall.completion?.toList := by
  induction calls with
  | nil => exact absurd accepted not_startAccepted_nil
  | cons head tail inductionHypothesis =>
      unfold completionsAfterStart at inductionHypothesis ⊢
      cases isStart : head.isAcceptedStart with
      | true =>
          simp only [List.cons_append, List.dropWhile_cons, isStart, Bool.not_true,
            Bool.false_eq_true, if_false]
          rw [← List.cons_append, List.filterMap_append]
          congr 1
      | false =>
          have later : StartAccepted tail := by
            grind [StartAccepted]
          simpa [isStart] using inductionHypothesis later

/-- The start was accepted and no completion was signalled since. -/
structure Started (world : AgentWorld) : Prop where
  accepted : StartAccepted world.calls
  unsignalled : completionsAfterStart world.calls = []

variable {world : AgentWorld} (outcome : Option String)

theorem Started.progress (started : Started world) (update : Json) :
    Started (world.call (.progress update)) where
  accepted := startAccepted_append started.accepted
  unsignalled := by
    rw [AgentWorld.call_calls, completionsAfterStart_append started.accepted,
      started.unsignalled]
    rfl

theorem Started.forwarded (started : Started world) (updates : List Json) :
    Started (updates.foldl (fun world update => world.call (.progress update)) world) := by
  induction updates generalizing world with
  | nil => exact started
  | cons head tail inductionHypothesis => exact inductionHypothesis (started.progress head)

theorem Started.signalled (started : Started world) (request : CompletionRequest) :
    completionsAfterStart (world.calls ++ [.completion request]) = [request] := by
  rw [completionsAfterStart_append started.accepted, started.unsignalled]
  rfl

theorem Started.of_start (fresh : world.calls = []) :
    Started (world.call (.start none)) where
  accepted := by
    rw [AgentWorld.call_calls, fresh]
    rfl
  unsignalled := by
    rw [AgentWorld.call_calls, fresh]
    rfl

/-! ### Signals -/

theorem signalCompletion_calls (request : CompletionRequest) (jobState : JobState)
    (world : AgentWorld) :
    (signalCompletion outcome request jobState world).2.calls =
      world.calls ++ [.completion request] := by
  unfold signalCompletion handleCompletionSignalFailure
  cases outcome with
  | none => rfl
  | some error =>
      simp only
      split
      · rfl
      · rfl

/-- Noting a failed signal leaves the status and the time of completion alone. -/
theorem signalCompletion_state (request : CompletionRequest) (jobState : JobState)
    (world : AgentWorld) :
    (signalCompletion outcome request jobState world).1.status = jobState.status ∧
      (signalCompletion outcome request jobState world).1.completedAt = jobState.completedAt := by
  unfold signalCompletion handleCompletionSignalFailure
  grind

theorem signalCompletion_stateFile (request : CompletionRequest) (jobState : JobState)
    (world : AgentWorld) :
    ∃ stored, (signalCompletion outcome request jobState (world.writeJobState jobState)).2.stateFile
        = some stored ∧
      stored.status = jobState.status ∧ stored.completedAt = jobState.completedAt := by
  unfold signalCompletion handleCompletionSignalFailure
  cases outcome with
  | none => exact ⟨jobState, rfl, rfl, rfl⟩
  | some error =>
      simp only
      split
      · exact ⟨jobState, rfl, rfl, rfl⟩
      · exact ⟨_, rfl, rfl, rfl⟩

theorem reportFailure_calls {payload : JobPayload} (client : payload.hasPlatformClient = true)
    (outcome : Option String) (error : JobError) (jobState : JobState) (world : AgentWorld) :
    (reportFailure payload outcome error jobState world).calls =
      world.calls ++ [.completion (failedCompletion error)] := by
  rw [reportFailure, if_pos client]
  exact signalCompletion_calls outcome _ jobState world

theorem cancelJob_calls (payload : JobPayload) (jobState : JobState) (completedAt : Date)
    (error : JobError) (world : AgentWorld) :
    (cancelJob payload false jobState completedAt error world).calls = world.calls := by
  unfold cancelJob
  split
  · rfl
  · rfl

theorem endsOnce_reportFailure {payload : JobPayload} {jobState : JobState}
    (client : payload.hasPlatformClient = true) (started : Started world)
    (closed : jobState.IsClosed) (outcome : Option String) (error : JobError) :
    EndsOnce (reportFailure payload outcome error jobState (world.writeJobState jobState)) where
  signalled := by
    rw [reportFailure_calls client, AgentWorld.writeJobState_calls, started.signalled]
    rfl
  closed := by
    rw [reportFailure, if_pos client]
    obtain ⟨stored, isStored, sameStatus, sameTime⟩ :=
      signalCompletion_stateFile outcome (failedCompletion error) jobState world
    grind [JobState.IsClosed]

/-! ### The exec runner -/

variable {payload : JobPayload}

theorem finishExec_closed (steps : ExecSteps) (jobState : JobState) (world : AgentWorld) :
    ∃ stored, (finishExec payload steps jobState world).2.stateFile = some stored ∧
      stored.IsClosed :=
  ⟨_, rfl, ite_eq_or_eq _ _ _, rfl⟩

theorem finishExec_calls (client : payload.hasPlatformClient = true) (steps : ExecSteps)
    (jobState : JobState) (world : AgentWorld) :
    (finishExec payload steps jobState world).2.calls =
      world.calls ++ [.completion (execCompletion payload steps)] := by
  simp [signalCompletion_calls, finishExec, client]

variable {world : AgentWorld} {steps : HttpSteps} {jobState : JobState} {port : Int}

/-- A run whose start was accepted comes to the end of its worker. -/
theorem startExec_of_accepted (client : payload.hasPlatformClient = true) {steps : ExecSteps}
    (fresh : world.calls = []) (accepted : StartAccepted (startExec payload steps world).2.calls) :
    ∃ jobState started, Started started ∧
      startExec payload steps world = finishExec payload steps jobState started := by
  unfold startExec at accepted ⊢
  cases spawned : steps.start with
  | error error =>
      simp only [spawned, AgentWorld.writeJobResult_calls, reportFailure_calls client,
        AgentWorld.writeJobState_calls, fresh] at accepted
      cases accepted
  | ok pid =>
      simp only [spawned, client, if_true] at accepted ⊢
      cases signal : steps.signalStart with
      | some error =>
          simp only [signal, cancelJob_calls, AgentWorld.call_calls,
            AgentWorld.writeJobState_calls, fresh] at accepted
          cases accepted
      | none =>
          refine ⟨_, _, ?_, rfl⟩
          apply Started.forwarded
          exact Started.of_start fresh

theorem runExecPerJob_of_accepted (client : payload.hasPlatformClient = true) {steps : ExecSteps}
    (fresh : world.calls = [])
    (accepted : StartAccepted (runExecPerJob payload steps world).2.calls) :
    ∃ jobState started, Started started ∧
      runExecPerJob payload steps world = finishExec payload steps jobState started := by
  have silent : ¬ StartAccepted world.calls := by
    rw [fresh]
    exact not_startAccepted_nil
  unfold runExecPerJob at accepted ⊢
  -- every return before the worker process is started leaves no call
  split at accepted
  · exact absurd accepted silent
  · split at accepted
    · exact absurd accepted silent
    · split at accepted
      · split at accepted
        · exact absurd accepted silent
        · rename_i waits command
          rw [if_pos waits, if_neg command]
          exact startExec_of_accepted client fresh accepted
      · split at accepted
        · exact absurd accepted silent
        · exact absurd accepted silent
        · exact absurd accepted silent

theorem finishExec_reports (client : payload.hasPlatformClient = true) {steps : ExecSteps}
    (started : Started world) :
    completionsAfterStart (finishExec payload steps jobState world).2.calls =
      [execCompletion payload steps] := by
  rw [finishExec_calls client]
  exact started.signalled _

theorem runExecPerJob_endsOnce (client : payload.hasPlatformClient = true) {steps : ExecSteps}
    (fresh : world.calls = [])
    (accepted : StartAccepted (runExecPerJob payload steps world).2.calls) :
    EndsOnce (runExecPerJob payload steps world).2 := by
  obtain ⟨jobState, started, isStarted, same⟩ := runExecPerJob_of_accepted client fresh accepted
  rw [same]
  refine ⟨?_, finishExec_closed steps jobState started⟩
  rw [finishExec_reports client isStarted]
  rfl

/-! ### The HTTP runner -/

theorem pollJob_started (updates : List (Except String HttpJobStatusResponse))
    (started : Started world) : Started (pollJob payload updates world).2 := by
  induction updates generalizing world with
  | nil => exact started
  | cons head tail inductionHypothesis =>
      cases head with
      | error message => exact inductionHypothesis started
      | ok status =>
          grind [pollJob, started.forwarded]

theorem pollJob_isFinal {updates : List (Except String HttpJobStatusResponse)}
    {finalStatus : HttpJobStatusResponse}
    (found : (pollJob payload updates world).1 = some finalStatus) :
    finalStatus.isFinal = true := by
  induction updates generalizing world with
  | nil => cases found
  | cons head tail inductionHypothesis =>
      cases head with
      | error message => exact inductionHypothesis found
      | ok status =>
          grind [pollJob]

theorem finishHttp_reports (client : payload.hasPlatformClient = true)
    (finalStatus : HttpJobStatusResponse) (started : Started world) :
    completionsAfterStart (finishHttp payload steps finalStatus jobState world).2.calls =
      [httpCompletion payload steps finalStatus] := by
  simp [finishHttp, signalCompletion_calls, started.signalled, client]

theorem finishHttp_endsOnce (client : payload.hasPlatformClient = true)
    {finalStatus : HttpJobStatusResponse} (isFinal : finalStatus.isFinal = true)
    (started : Started world) :
    EndsOnce (finishHttp payload steps finalStatus jobState world).2 where
  signalled := by
    rw [finishHttp_reports client finalStatus started]
    rfl
  closed := by
    unfold finishHttp
    simp only [client, if_true]
    refine ⟨_, rfl, ?_⟩
    rw [JobState.IsClosed, (signalCompletion_state _ _ _ _).1, (signalCompletion_state _ _ _ _).2]
    grind [HttpJobStatusResponse.isFinal]

theorem awaitHttp_endsOnce (client : payload.hasPlatformClient = true) (started : Started world) :
    EndsOnce (awaitHttp payload steps port jobState world).2 := by
  unfold awaitHttp
  have polling : Started (pollJob payload steps.polls (world.writeJobState { jobState with
      status := "running", startedAt := some steps.startedAt })).2 :=
    pollJob_started steps.polls ⟨started.accepted, started.unsignalled⟩
  rcases polled : pollJob payload steps.polls (world.writeJobState { jobState with
      status := "running", startedAt := some steps.startedAt }) with ⟨_ | finalStatus, after⟩
  · rw [polled] at polling
    simp only [polled]
    exact endsOnce_reportFailure client polling ⟨Or.inr rfl, rfl⟩ _ _
  · have isFinal : finalStatus.isFinal = true := pollJob_isFinal (congrArg Prod.fst polled)
    grind [finishHttp_endsOnce]

theorem not_endsOnce_of_unsignalled (unsignalled : completionsAfterStart world.calls = []) :
    ¬ EndsOnce world := by
  intro ends
  have once := ends.signalled
  rw [unsignalled] at once
  cases once

/-- A failure that is signalled without the time of completion leaves the state file open. -/
theorem not_endsOnce_reportFailure (client : payload.hasPlatformClient = true)
    (unclosed : jobState.completedAt = none) (outcome : Option String) (error : JobError)
    (world : AgentWorld) :
    ¬ EndsOnce (reportFailure payload outcome error jobState (world.writeJobState jobState)) := by
  rintro ⟨_, closedState, isClosedState, _, closed⟩
  rw [reportFailure, if_pos client] at isClosedState
  obtain ⟨stored, isStored, _, sameTime⟩ :=
    signalCompletion_stateFile outcome (failedCompletion error) jobState world
  grind

/-- The submission decides whether the rest of the job is signalled and closed. -/
theorem submitHttp_endsOnce_iff (client : payload.hasPlatformClient = true)
    (unclosed : jobState.completedAt = none) (started : Started world) :
    EndsOnce (submitHttp payload steps port jobState world).2 ↔ SubmissionAccepted steps := by
  have missed : ¬ EndsOnce world := not_endsOnce_of_unsignalled started.unsignalled
  unfold submitHttp SubmissionAccepted failWith
  cases steps.newRequest with
  | some error => simp [missed]
  | none =>
      cases steps.submit with
      | error error =>
          simp [not_endsOnce_of_unsignalled, started.unsignalled]
      | ok reply =>
          obtain ⟨statusCode, body⟩ := reply
          cases body with
          | error error => simp [missed]
          | ok decoded =>
              grind [awaitHttp_endsOnce, not_endsOnce_reportFailure]

/-- A run whose start was accepted comes to the submission of the job. -/
theorem dispatchHttp_of_accepted (client : payload.hasPlatformClient = true)
    (fresh : world.calls = [])
    (accepted : StartAccepted (dispatchHttp payload steps port world).2.calls) :
    ∃ jobState started, jobState.completedAt = none ∧ Started started ∧
      dispatchHttp payload steps port world = submitHttp payload steps port jobState started := by
  unfold dispatchHttp failWith at accepted ⊢
  cases ready : steps.ensureWorkerReady with
  | error error =>
      simp only [ready, reportFailure_calls client, AgentWorld.writeJobState_calls,
        fresh] at accepted
      cases accepted
  | ok pid =>
      simp only [ready, client, if_true] at accepted ⊢
      cases marshalled : steps.marshalRequest with
      | some error =>
          simp only [marshalled, AgentWorld.writeJobState_calls, fresh] at accepted
          cases accepted
      | none =>
          simp only [marshalled] at accepted ⊢
          cases signal : steps.signalStart with
          | some error =>
              simp only [signal, cancelJob_calls, AgentWorld.call_calls,
                AgentWorld.writeJobState_calls, fresh] at accepted
              cases accepted
          | none =>
              refine ⟨_, _, ?_, ?_, rfl⟩
              · rfl
              · exact Started.of_start fresh

theorem startAsyncDispatch_calls (steps : HttpSteps) (port : Int) (jobState : JobState)
    (world : AgentWorld) :
    (startAsyncDispatch steps port jobState world).2.calls = world.calls := by
  unfold startAsyncDispatch failWith
  split
  · rfl
  · split
    · rfl
    · rename_i alive _
      have noted : (if alive.isSome = true then world.writeJobState { jobState with
          workerStatePid := alive.getD jobState.workerStatePid } else world).calls =
          world.calls := by
        split
        · rfl
        · rfl
      dsimp only
      split
      · exact noted
      · exact noted
      · exact noted

theorem runPersistentHttp_of_accepted (client : payload.hasPlatformClient = true)
    (fresh : world.calls = [])
    (accepted : StartAccepted (runPersistentHttp payload steps world).2.calls) :
    ∃ port jobState started, jobState.completedAt = none ∧ Started started ∧
      runPersistentHttp payload steps world = submitHttp payload steps port jobState started := by
  have silent : ¬ StartAccepted world.calls := by
    rw [fresh]
    exact not_startAccepted_nil
  unfold runPersistentHttp at accepted ⊢
  split at accepted
  · exact absurd accepted silent
  · split at accepted
    · exact absurd accepted silent
    · split at accepted
      · exact absurd accepted silent
      · split at accepted
        · rename_i waits
          simp only [waits, if_true]
          exact ⟨_, dispatchHttp_of_accepted client fresh accepted⟩
        · rw [startAsyncDispatch_calls] at accepted
          exact absurd accepted silent

theorem runPersistentHttp_endsOnce_iff (client : payload.hasPlatformClient = true)
    (fresh : world.calls = [])
    (accepted : StartAccepted (runPersistentHttp payload steps world).2.calls) :
    EndsOnce (runPersistentHttp payload steps world).2 ↔ SubmissionAccepted steps := by
  grind [runPersistentHttp_of_accepted, submitHttp_endsOnce_iff]

/-- **One signal and a closed file.** A job whose start the platform accepted ends with one
completion signal and a closed state file, exactly where nothing went wrong around its submission
to a persistent worker. -/
theorem endsOnce_iff (job : JobRun) (client : job.payload.hasPlatformClient = true)
    (accepted : StartAccepted job.world.calls) : EndsOnce job.world ↔ job.SubmissionHolds := by
  cases job with
  | exec payload steps => exact iff_of_true (runExecPerJob_endsOnce client rfl accepted) trivial
  | http payload steps => exact runPersistentHttp_endsOnce_iff client rfl accepted

/-! ### A job that is done, and one whose submission fails -/

def samplePayload : JobPayload where
  waitForCompletion := some true
  jobId := "job"
  jobClass := "render"
  workerCommand := ["worker"]
  interface := { kind := "persistent_http", port := some 3000 }
  jobInput := .obj []
  jobToken := "token"
  platformUrl := "https://platform"
  outputLocation := some { folderId := "folder", keyPrefix := "out" }

def sampleOutputs : OutputSteps where
  readManifest := .ok (some
    { files := [{ localPath := "clip.mp4", objectKey := "clip.mp4", contentType := "" }] })
  upload :=
    { requestUploadUrls := .ok
        [{ folderId := "folder", objectKey := "out/clip.mp4", method := "PUT", url := "signed" }]
      uploadFile := fun _ => none }

def sampleStatus : HttpJobStatusResponse where
  status := "success"
  result := some (.obj [])
  error := none
  progressUpdates := [.obj []]

def sampleHttpSteps : HttpSteps where
  ensureAllDirs := none
  ensureJobOutputDir := none
  writeInitialState := none
  openJobLog := none
  workerAlive := .ok (some 7)
  launchAsync := .launched
  ensureWorkerReady := .ok 7
  marshalRequest := none
  signalStart := none
  newRequest := none
  submit := .ok { statusCode := 200, body := .ok (.ok { accepted := true, error := none }) }
  startedAt := 1
  polls := [.error "status request failed", .ok sampleStatus]
  completedAt := 2
  outputs := sampleOutputs
  signalCompletion := none

theorem endsOnce_iff_sample : EndsOnce (JobRun.http samplePayload sampleHttpSteps).world :=
  (endsOnce_iff (.http samplePayload sampleHttpSteps) (by decide) (by decide)).mpr
    ⟨rfl, _, rfl, _, rfl, rfl⟩

/-- A job whose submission is refused by the network is never signalled, although its start was. -/
theorem not_endsOnce : ¬ ∀ job : JobRun, job.payload.hasPlatformClient = true →
    StartAccepted job.world.calls → EndsOnce job.world := by
  intro claim
  have ends := claim (.http samplePayload { sampleHttpSteps with submit := .error "refused" })
    (by decide) (by decide)
  have once := ends.signalled
  replace once : ([] : List CompletionRequest).length = 1 := once
  cases once

end Lombok.Agent
