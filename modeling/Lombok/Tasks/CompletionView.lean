import Lombok.Tasks.OnComplete

/-!
Contract: what the children of a completion see of it.

Owns the two searches a handler makes in the log of its parent, each of which
reverses the log in place, the values its data template and its invocation get
from them, and when these are the values of the completion that fired the handler:
the second search reads the log from its front, so a failure shows the first error
the task ever had.

Does not own what a template makes of the values.
-/

namespace Lombok.Tasks

open Lombok.Core Lombok.Apps Lombok.Library Lombok.Library.Action

/-! ### The searches -/

/-- `parentTask.systemLog.reverse().find(…)`, for a success and then for an error: the payloads,
and the log as it is left. -/
def searchLog (log : List SystemLogEntry) :
    (Option Fields × Option Fields) × List SystemLogEntry :=
  let reversed := log.reverse
  let parentTaskSuccessLog :=
    (reversed.find? fun entry => entry.logType = .success).bind (·.payload)
  let reversedAgain := reversed.reverse
  let parentTaskErrorLog :=
    (reversedAgain.find? fun entry => entry.logType = .error).bind (·.payload)
  ((parentTaskSuccessLog, parentTaskErrorLog), reversedAgain)

/-- The log of the parent once so many handlers have searched it. -/
def logAfter (log : List SystemLogEntry) : Nat → List SystemLogEntry
  | 0 => log
  | earlier + 1 => (searchLog (logAfter log earlier)).2

/-- The payloads the handler finds that runs after so many others. -/
def payloadsAt (parent : Task) (earlier : Nat) : Option Fields × Option Fields :=
  (searchLog (logAfter parent.systemLog earlier)).1

theorem searchLog_eq (log : List SystemLogEntry) :
    searchLog log = ((lastSuccessPayload log, firstErrorPayload log), log) := by
  unfold searchLog
  dsimp only
  rw [List.reverse_reverse]
  rfl

/-- Two reversals leave the log as it was. -/
theorem logAfter_eq (log : List SystemLogEntry) (earlier : Nat) : logAfter log earlier = log := by
  induction earlier with
  | zero => rfl
  | succ earlier inductionHypothesis => rw [logAfter, inductionHypothesis, searchLog_eq]

/-- Every handler finds what the first one does. -/
theorem payloadsAt_eq (parent : Task) (earlier : Nat) :
    payloadsAt parent earlier =
      (lastSuccessPayload parent.systemLog, firstErrorPayload parent.systemLog) := by
  rw [payloadsAt, logAfter_eq, searchLog_eq]

/-! ### What a handler sees -/

def templateObjects (parent : Task) (success : Bool) (payloads : Option Fields × Option Fields) :
    Json :=
  let outcome : Fields :=
    if success then
      [("success", .bool true), ("result", (payloadEntry payloads.1 "result").getD (.obj []))]
    else
      [("success", .bool false), ("error", (payloadEntry payloads.2 "error").getD (.obj []))]
  .obj (Fields.ofOptions
    [("task", some (parentTaskContext parent outcome)),
      ("executorMetadata",
        payloadEntry (if success then payloads.1 else payloads.2) "executorMetadata")])

/-- `invokeContext.parentTask.result`. -/
def invokedResult (payloads : Option Fields × Option Fields) : Json :=
  (payloadEntry payloads.1 "result").getD (.obj [])

def taskObject (objects : Json) (name : String) : Option Json :=
  (objects.get? "task").bind fun task => task.get? name

/-- The values are those of the completion; a success without a result has an empty one. -/
def SeesCompletion (parent : Task) (completion : TaskCompletion) (earlier : Nat) : Prop :=
  let objects := templateObjects parent completion.success (payloadsAt parent earlier)
  match completion with
  | .succeeded result executorMetadata =>
      taskObject objects "result" = some (result.getD (.obj [])) ∧
        invokedResult (payloadsAt parent earlier) = result.getD (.obj []) ∧
        objects.get? "executorMetadata" = some executorMetadata
  | .failed error _ executorMetadata =>
      taskObject objects "error" = some error.toJson ∧
        objects.get? "executorMetadata" = some executorMetadata

def FirstErrorIsSame (log : List SystemLogEntry) : TaskCompletion → Prop
  | .succeeded _ _ => True
  | .failed error _ executorMetadata =>
      ∀ entry, (log.find? fun entry => entry.logType = .error) = some entry →
        (payloadEntry entry.payload "error").getD (.obj []) = error.toJson ∧
          payloadEntry entry.payload "executorMetadata" = some executorMetadata

/-! ### The log of a completion -/

section

variable {row : Task} {completion : TaskCompletion} {now : Date} {logs : List SystemLogEntry}

theorem completionLogs_cons (printed : completionLogs row completion now = .ok logs) :
    ∃ rest, logs = completionLog completion now :: rest ∧
      (completion.success = true → rest = []) := by
  unfold completionLogs at printed
  split at printed
  · rename_i requeued
    obtain ⟨printedDate, _, printed⟩ := bind_eq_ok.mp printed
    cases printed
    refine ⟨_, rfl, fun success => ?_⟩
    cases completion with
    | succeeded result executorMetadata => cases requeued
    | failed error requeueDelayMs executorMetadata => cases success
  · cases printed
    exact ⟨[], rfl, fun _ => rfl⟩

theorem lastSuccessPayload_append {result : Option Json} {executorMetadata : Json}
    (log : List SystemLogEntry) :
    lastSuccessPayload (log ++ [completionLog (.succeeded result executorMetadata) now]) =
      some (Fields.ofOptions
        [("result", result), ("executorMetadata", some executorMetadata)]) := by
  rw [lastSuccessPayload, List.reverse_append]
  rfl

theorem firstErrorPayload_append {error : TaskError} {requeueDelayMs : Option Nat}
    {executorMetadata : Json} (log rest : List SystemLogEntry) :
    firstErrorPayload
        (log ++ completionLog (.failed error requeueDelayMs executorMetadata) now :: rest) =
      match log.find? fun entry => entry.logType = .error with
      | some entry => entry.payload
      | none => some [("error", error.toJson), ("executorMetadata", executorMetadata)] := by
  rw [firstErrorPayload, List.find?_append]
  cases log.find? fun entry => entry.logType = .error with
  | some entry => rfl
  | none => rfl

end

/-! ### The main result -/

theorem get?_executorMetadata (task : Json) (executorMetadata : Option Json) :
    (Json.obj (Fields.ofOptions
      [("task", some task), ("executorMetadata", executorMetadata)])).get? "executorMetadata" =
        executorMetadata := by
  cases executorMetadata with
  | none => rfl
  | some value => rfl

theorem sees_succeeded_iff (parent : Task) (result : Option Json) (executorMetadata : Json)
    (earlier : Nat) :
    SeesCompletion parent (.succeeded result executorMetadata) earlier ↔
      (payloadEntry (lastSuccessPayload parent.systemLog) "result").getD (.obj []) =
          result.getD (.obj []) ∧
        payloadEntry (lastSuccessPayload parent.systemLog) "executorMetadata" =
          some executorMetadata := by
  have metadata : (templateObjects parent true (payloadsAt parent earlier)).get?
      "executorMetadata" =
        payloadEntry (lastSuccessPayload parent.systemLog) "executorMetadata" := by
    rw [payloadsAt_eq]
    exact get?_executorMetadata _ _
  show _ ∧ _ ∧ (templateObjects parent true (payloadsAt parent earlier)).get? _ = _ ↔ _
  rw [metadata]
  rw [payloadsAt_eq]
  constructor
  · intro ⟨_, same, sameMetadata⟩
    exact ⟨same, sameMetadata⟩
  · intro ⟨same, sameMetadata⟩
    exact ⟨congrArg some same, same, sameMetadata⟩

theorem sees_failed_iff (parent : Task) (error : TaskError) (requeueDelayMs : Option Nat)
    (executorMetadata : Json) (earlier : Nat) :
    SeesCompletion parent (.failed error requeueDelayMs executorMetadata) earlier ↔
      (payloadEntry (firstErrorPayload parent.systemLog) "error").getD (.obj []) = error.toJson ∧
        payloadEntry (firstErrorPayload parent.systemLog) "executorMetadata" =
          some executorMetadata := by
  have metadata : (templateObjects parent false (payloadsAt parent earlier)).get?
      "executorMetadata" =
        payloadEntry (firstErrorPayload parent.systemLog) "executorMetadata" := by
    rw [payloadsAt_eq]
    exact get?_executorMetadata _ _
  show taskObject (templateObjects parent false (payloadsAt parent earlier)) _ = _ ∧
    (templateObjects parent false (payloadsAt parent earlier)).get? _ = _ ↔ _
  rw [metadata]
  apply and_congr_left'
  rw [payloadsAt_eq]
  exact Option.some_inj

theorem sees_completeRow_iff {row : Task} {completion : TaskCompletion} {now : Date}
    {logs : List SystemLogEntry} (printed : completionLogs row completion now = .ok logs)
    (earlier : Nat) :
    SeesCompletion (completeRow row completion now logs row) completion earlier ↔
      FirstErrorIsSame row.systemLog completion := by
  obtain ⟨rest, rfl, alone⟩ := completionLogs_cons printed
  cases completion with
  | succeeded result executorMetadata =>
      rw [alone rfl, sees_succeeded_iff, completeRow_systemLog, lastSuccessPayload_append]
      refine iff_of_true ⟨?_, ?_⟩ trivial
      · cases result with
        | none => rfl
        | some value => rfl
      · cases result with
        | none => rfl
        | some value => rfl
  | failed error requeueDelayMs executorMetadata =>
      rw [sees_failed_iff, completeRow_systemLog, firstErrorPayload_append]
      unfold FirstErrorIsSame
      cases row.systemLog.find? fun entry => entry.logType = .error with
      | none => exact iff_of_true ⟨rfl, rfl⟩ fun entry found => by cases found
      | some entry =>
          simp

/-- Every handler of a registered completion sees that completion exactly when it is a success, or
the log held no error before it, or the same one first. -/
theorem handlers_seeCompletion_iff {env : Env} {taskId : String} {completion : TaskCompletion}
    {before after : World} {updated row : Task}
    (returned : Returns (registerTaskCompletedInTx env taskId completion) before updated after)
    (found : findTask taskId before.db = some row) :
    (∀ earlier, SeesCompletion updated completion earlier) ↔
      FirstErrorIsSame row.systemLog completion := by
  obtain ⟨read, now, logs, _, _, _, rfl, completed⟩ := registerTaskCompletedInTx_returns returned
  obtain rfl : read = row := Option.some.inj (completed.found.symm.trans found)
  constructor
  · intro sees
    exact (sees_completeRow_iff completed.printed 0).mp (sees 0)
  · intro same earlier
    exact (sees_completeRow_iff completed.printed earlier).mpr same

def errorCode (error : Json) : Option String :=
  match error.get? "code" with
  | some (.str code) => some code
  | _ => none

/-- Conditions hold for one code of an error. -/
def onlyTimeouts : Env :=
  { Env.sample with
    evalCondition _ context :=
      ((taskObject context "error").bind errorCode) == some "TIMEOUT" }

/-- A task whose handler is for timeouts. -/
def timedParent : Task :=
  { sampleParent with
    invocation :=
      { sampleParent.invocation with
        onComplete := [.mk "notify" (some "task.error.code == 'TIMEOUT'") none []] } }

/-- It has failed with another error, was requeued and has started again. -/
def secondAttempt : World :=
  run (TaskCall.step onlyTimeouts)
    { db := { apps := .singleton App.sample, tasks := .singleton timedParent } }
    [.start "parent" systemExecutorMetadata, .complete "parent" sampleRetry,
      .start "parent" systemExecutorMetadata]

def sampleTimeout : TaskCompletion :=
  .failed { sampleError with code := "TIMEOUT" } none systemExecutorMetadata

def firstErrorCode (world : World) : Option String :=
  ((findTask "parent" world.db).bind fun row =>
    row.systemLog.find? fun entry => entry.logType = .error).bind fun entry =>
      (payloadEntry entry.payload "error").bind errorCode

theorem secondAttempt_returns : ∃ row updated after, findTask "parent" secondAttempt.db = some row ∧
    Returns (registerTaskCompletedInTx onlyTimeouts "parent" sampleTimeout) secondAttempt
      updated after := by
  have isOk : (registerTaskCompletedInTx onlyTimeouts "parent" sampleTimeout
      secondAttempt).1.isOk = true := by
    decide +kernel
  obtain ⟨updated, after, returned⟩ := returns_of_isOk isOk
  obtain ⟨row, _, _, _, _, _, _, completed⟩ := registerTaskCompletedInTx_returns returned
  exact ⟨row, updated, after, completed.found, returned⟩

theorem handlers_seeCompletion_sample :
    ∃ row updated after, findTask "parent" secondAttempt.db = some row ∧
      Returns (registerTaskCompletedInTx onlyTimeouts "parent" sampleTimeout) secondAttempt
        updated after ∧
      ((∀ earlier, SeesCompletion updated sampleTimeout earlier) ↔
        FirstErrorIsSame row.systemLog sampleTimeout) := by
  obtain ⟨row, updated, after, found, returned⟩ := secondAttempt_returns
  exact ⟨row, updated, after, found, returned, handlers_seeCompletion_iff returned found⟩

/-- The handler of the second attempt's timeout is shown the error of the first one. -/
theorem handlers_seeFirstError : ¬ ∀ (env : Env) (taskId : String) (completion : TaskCompletion)
    (before after : World) (updated row : Task),
    Returns (registerTaskCompletedInTx env taskId completion) before updated after →
      findTask taskId before.db = some row →
        ∀ earlier, SeesCompletion updated completion earlier := by
  intro claim
  obtain ⟨row, updated, after, found, returned⟩ := secondAttempt_returns
  have sees := claim _ _ _ _ _ _ _ returned found 0
  obtain ⟨read, now, logs, _, _, _, rfl, completed⟩ := registerTaskCompletedInTx_returns returned
  obtain rfl : read = row := Option.some.inj (completed.found.symm.trans found)
  have same := (sees_completeRow_iff completed.printed 0).mp sees
  have first : firstErrorCode secondAttempt = some "E" := by decide +kernel
  rw [firstErrorCode, found, Option.bind_some] at first
  cases entered : read.systemLog.find? fun entry => entry.logType = .error with
  | none =>
      rw [entered] at first
      cases first
  | some entry =>
      rw [entered, Option.bind_some] at first
      have codes := congrArg errorCode (same entry entered).1
      cases stored : payloadEntry entry.payload "error" with
      | none =>
          rw [stored] at first
          cases first
      | some error =>
          rw [stored, Option.bind_some] at first
          rw [stored, Option.getD_some, first] at codes
          exact absurd codes (by decide)

end Lombok.Tasks
