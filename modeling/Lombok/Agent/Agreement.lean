import Lombok.Agent.Completion

/-!
Contract: when the two runners report one job alike.

Both runners upload the outputs of a job before they signal its completion. The
exec runner turns an upload that failed into a failure of the job; the HTTP
runner only logs it. So they agree on every job that failed by itself or whose
upload did not fail.
-/

namespace Lombok.Agent

open Lombok.Core

def ExecSteps.jobSucceeded (steps : ExecSteps) : Bool :=
  steps.wait.exitCode == 0 && steps.workerSuppliedError.isNone

def HttpJobStatusResponse.jobSucceeded (status : HttpJobStatusResponse) : Bool :=
  status.status == "success"

def polledStatus : List (Except String HttpJobStatusResponse) → Option HttpJobStatusResponse
  | [] => none
  | .error _ :: rest => polledStatus rest
  | .ok status :: rest => if status.isFinal then some status else polledStatus rest

/-- One job, run by either runner: the platform accepts its start, its worker comes to a result,
and result, output location and upload are the same on both sides. -/
structure SameJob (payload : JobPayload) (execSteps : ExecSteps) (httpSteps : HttpSteps)
    (finalStatus : HttpJobStatusResponse) : Prop where
  client : payload.hasPlatformClient = true
  execStarted : StartAccepted (JobRun.exec payload execSteps).world.calls
  httpStarted : StartAccepted (JobRun.http payload httpSteps).world.calls
  submitted : SubmissionAccepted httpSteps
  polled : polledStatus httpSteps.polls = some finalStatus
  sameResult : finalStatus.jobSucceeded = execSteps.jobSucceeded
  sameOutputs : execSteps.outputs = httpSteps.outputs

/-- Both runs report one completion, with the same flag and the same files, and none of them
reports a success where the upload failed. -/
def RunnersAgree (payload : JobPayload) (execSteps : ExecSteps) (httpSteps : HttpSteps) : Prop :=
  ∃ execReported httpReported,
    completionsAfterStart (JobRun.exec payload execSteps).world.calls = [execReported] ∧
    completionsAfterStart (JobRun.http payload httpSteps).world.calls = [httpReported] ∧
    execReported.success = httpReported.success ∧
    execReported.outputFiles = httpReported.outputFiles ∧
    ((uploadErrorOf payload httpSteps.outputs).isSome = true →
      execReported.success = false ∧ httpReported.success = false)

/-! ### What each runner reports -/

variable {payload : JobPayload}

theorem pollJob_status (polls : List (Except String HttpJobStatusResponse)) (world : AgentWorld) :
    (pollJob payload polls world).1 = polledStatus polls := by
  induction polls generalizing world with
  | nil => rfl
  | cons head tail inductionHypothesis =>
      cases head with
      | error message => exact inductionHypothesis world
      | ok status =>
          grind [pollJob, polledStatus]

theorem execRun_reports (client : payload.hasPlatformClient = true) {steps : ExecSteps}
    (accepted : StartAccepted (JobRun.exec payload steps).world.calls) :
    completionsAfterStart (JobRun.exec payload steps).world.calls =
      [execCompletion payload steps] := by
  obtain ⟨jobState, started, isStarted, same⟩ := runExecPerJob_of_accepted client rfl accepted
  show completionsAfterStart (runExecPerJob payload steps {}).2.calls = _
  rw [same]
  exact finishExec_reports client isStarted

theorem submitHttp_of_accepted {steps : HttpSteps} (submitted : SubmissionAccepted steps)
    (port : Int) (jobState : JobState) (world : AgentWorld) :
    submitHttp payload steps port jobState world =
      awaitHttp payload steps port jobState world := by
  obtain ⟨built, reply, received, response, decoded, accepts⟩ := submitted
  unfold submitHttp
  simp only [built, received, decoded, accepts, if_true]

theorem awaitHttp_reports (client : payload.hasPlatformClient = true) {steps : HttpSteps}
    {finalStatus : HttpJobStatusResponse} (polled : polledStatus steps.polls = some finalStatus)
    {port : Int} {jobState : JobState} {world : AgentWorld} (started : Started world) :
    completionsAfterStart (awaitHttp payload steps port jobState world).2.calls =
      [httpCompletion payload steps finalStatus] := by
  unfold awaitHttp
  have polling : Started (pollJob payload steps.polls (world.writeJobState { jobState with
      status := "running", startedAt := some steps.startedAt })).2 :=
    pollJob_started steps.polls ⟨started.accepted, started.unsignalled⟩
  have found := (@pollJob_status payload steps.polls (world.writeJobState { jobState with
      status := "running", startedAt := some steps.startedAt })).trans polled
  rcases result : pollJob payload steps.polls (world.writeJobState { jobState with
      status := "running", startedAt := some steps.startedAt }) with ⟨ending, after⟩
  grind [finishHttp_reports]

theorem httpRun_reports (client : payload.hasPlatformClient = true) {steps : HttpSteps}
    (accepted : StartAccepted (JobRun.http payload steps).world.calls)
    (submitted : SubmissionAccepted steps) {finalStatus : HttpJobStatusResponse}
    (polled : polledStatus steps.polls = some finalStatus) :
    completionsAfterStart (JobRun.http payload steps).world.calls =
      [httpCompletion payload steps finalStatus] := by
  obtain ⟨port, jobState, started, _, isStarted, same⟩ :=
    runPersistentHttp_of_accepted client rfl accepted
  show completionsAfterStart (runPersistentHttp payload steps {}).2.calls = _
  rw [same, submitHttp_of_accepted submitted]
  exact awaitHttp_reports client polled isStarted

/-- The exec runner's flag is the worker's, taken back by a failed upload. -/
theorem execSuccess_eq (payload : JobPayload) (steps : ExecSteps) :
    execSuccess payload steps =
      (steps.jobSucceeded && (uploadErrorOf payload steps.outputs).isNone) := by
  grind [execSuccess, ExecSteps.jobSucceeded]

/-- **The runners agree.** They report one job alike exactly where it failed by itself or the
upload of its outputs did not fail. -/
theorem runnersAgree_iff {execSteps : ExecSteps} {httpSteps : HttpSteps}
    {finalStatus : HttpJobStatusResponse} (same : SameJob payload execSteps httpSteps finalStatus) :
    RunnersAgree payload execSteps httpSteps ↔
      (execSteps.jobSucceeded = false ∨ uploadErrorOf payload httpSteps.outputs = none) := by
  have execReports := execRun_reports same.client same.execStarted
  have httpReports := httpRun_reports same.client same.httpStarted same.submitted same.polled
  have execFlag : (execCompletion payload execSteps).success =
      (execSteps.jobSucceeded && (uploadErrorOf payload httpSteps.outputs).isNone) := by
    rw [← same.sameOutputs]
    exact execSuccess_eq payload execSteps
  have httpFlag : (httpCompletion payload httpSteps finalStatus).success =
      execSteps.jobSucceeded := same.sameResult
  have sameFiles : (execCompletion payload execSteps).outputFiles =
      (httpCompletion payload httpSteps finalStatus).outputFiles := by
    show outputFilesOf payload execSteps.outputs = outputFilesOf payload httpSteps.outputs
    rw [same.sameOutputs]
  constructor
  · rintro ⟨execReported, httpReported, isExec, isHttp, sameFlag, _, noSuccess⟩
    obtain rfl := List.singleton_inj.mp (execReports.symm.trans isExec)
    obtain rfl := List.singleton_inj.mp (httpReports.symm.trans isHttp)
    rw [execFlag, httpFlag] at sameFlag
    cases succeeded : execSteps.jobSucceeded with
    | false => exact Or.inl rfl
    | true =>
        rw [succeeded, Bool.true_and, Option.isNone_iff_eq_none] at sameFlag
        exact Or.inr sameFlag
  · intro condition
    refine ⟨_, _, execReports, httpReports, ?_, sameFiles, ?_⟩
    · rw [execFlag, httpFlag]
      rcases condition with failed | uploaded
      · rw [failed, Bool.false_and]
      · rw [uploaded, Option.isNone_none, Bool.and_true]
    · intro uploadFailed
      rcases condition with failed | uploaded
      · rw [execFlag, httpFlag, failed, Bool.false_and]
        exact ⟨rfl, rfl⟩
      · rw [uploaded] at uploadFailed
        cases uploadFailed

/-! ### A job whose upload succeeds, and one whose upload fails -/

def sampleExecSteps (outputs : OutputSteps) : ExecSteps where
  ensureAllDirs := none
  ensureJobOutputDir := none
  writeInitialState := none
  openJobLog := none
  launchAsync := .launched
  start := .ok 9
  startedAt := 1
  signalStart := none
  progressUpdates := []
  wait := .success
  completedAt := 2
  resultFile := some { value := some (.obj []), envelopeError := none }
  outputs := outputs
  signalCompletion := none

def refusedOutputs : OutputSteps :=
  { sampleOutputs with
    upload := { sampleOutputs.upload with uploadFile := fun _ => some "status 403" } }

theorem sameJob_sample (outputs : OutputSteps)
    (execStarted : StartAccepted
      (JobRun.exec samplePayload (sampleExecSteps outputs)).world.calls)
    (httpStarted : StartAccepted
      (JobRun.http samplePayload { sampleHttpSteps with outputs := outputs }).world.calls) :
    SameJob samplePayload (sampleExecSteps outputs) { sampleHttpSteps with outputs := outputs }
      sampleStatus where
  client := by decide
  execStarted := execStarted
  httpStarted := httpStarted
  submitted := ⟨rfl, _, rfl, _, rfl, rfl⟩
  polled := rfl
  sameResult := rfl
  sameOutputs := rfl

theorem runnersAgree_iff_sample :
    RunnersAgree samplePayload (sampleExecSteps sampleOutputs) sampleHttpSteps :=
  (runnersAgree_iff (sameJob_sample sampleOutputs (by decide) (by decide))).mpr
    (Or.inr (by decide))

/-- The upload of a job that succeeded fails: one runner reports a failure, the other a success. -/
theorem not_runnersAgree : ¬ ∀ payload execSteps httpSteps finalStatus,
    SameJob payload execSteps httpSteps finalStatus →
      RunnersAgree payload execSteps httpSteps := by
  intro claim
  have agree := claim _ _ _ _ (sameJob_sample refusedOutputs (by decide) (by decide))
  obtain ⟨execReported, httpReported, _, isHttp, _, _, noSuccess⟩ := agree
  have httpReports := @httpRun_reports samplePayload (by decide)
    { sampleHttpSteps with outputs := refusedOutputs } (by decide) ⟨rfl, _, rfl, _, rfl, rfl⟩ _ rfl
  obtain rfl := List.singleton_inj.mp (httpReports.symm.trans isHttp)
  have contradiction := (noSuccess (by decide)).2
  cases contradiction

end Lombok.Agent
