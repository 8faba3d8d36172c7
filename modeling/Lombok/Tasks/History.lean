import Lombok.Tasks.Creation
import Lombok.Tasks.Lifecycle

/-!
Contract: what the timestamps, counters and log of a task say about each other.

`HasHistory` is the agreement itself. A step of a row keeps it unless it refuses
a requeue, and no step restores it. A created row has it unless it was built for
an event trigger of an app, which writes a `started` entry for a task nobody has
started. `history_iff` puts the two together.
-/

namespace Lombok.Tasks

open Lombok.Core Lombok.Library Lombok.Library.Action Lombok.Apps Lombok.Events

/-! ### Reading a log -/

/-- Read the attempt entries of a log in order: whether an attempt is open at the end, and `none`
where they do not alternate. -/
def attemptOpen : Bool → List SystemLogEntry → Option Bool
  | isOpen, [] => some isOpen
  | isOpen, entry :: rest =>
      match entry.logType with
      | .started => if isOpen then none else attemptOpen true rest
      | .success => if isOpen then attemptOpen false rest else none
      | .error => if isOpen then attemptOpen false rest else none
      | .requeue => attemptOpen isOpen rest

def startedCount (log : List SystemLogEntry) : Nat :=
  log.countP fun entry => entry.logType == .started

def errorCount (log : List SystemLogEntry) : Nat :=
  log.countP fun entry => entry.logType == .error

/-- The entries that end an attempt. -/
def completionCount (log : List SystemLogEntry) : Nat :=
  log.countP fun entry => entry.logType == .success || entry.logType == .error

theorem attemptOpen_append (isOpen : Bool) (first second : List SystemLogEntry) :
    attemptOpen isOpen (first ++ second) =
      (attemptOpen isOpen first).bind fun reached => attemptOpen reached second := by
  induction first generalizing isOpen with
  | nil => rfl
  | cons entry rest inductionHypothesis =>
      grind [attemptOpen]

theorem attemptOpen_count {isOpen reached : Bool} {log : List SystemLogEntry}
    (alternates : attemptOpen isOpen log = some reached) :
    startedCount log + isOpen.toNat = completionCount log + reached.toNat := by
  induction log generalizing isOpen with
  | nil =>
      cases alternates
      rfl
  | cons entry rest inductionHypothesis =>
      grind [attemptOpen, startedCount, completionCount]

/-- Upgrading start entries changes no entry's type. -/
theorem attemptOpen_upgrade (metadata : Json) (isOpen : Bool) (log : List SystemLogEntry) :
    attemptOpen isOpen (log.map (upgradeStartLog metadata)) = attemptOpen isOpen log := by
  induction log generalizing isOpen with
  | nil => rfl
  | cons entry rest inductionHypothesis =>
      grind [upgradeStartLog, attemptOpen]

theorem countP_upgrade (metadata : Json) (counted : SystemLogType → Bool)
    (log : List SystemLogEntry) :
    (log.map (upgradeStartLog metadata)).countP (fun entry => counted entry.logType) =
      log.countP fun entry => counted entry.logType := by
  rw [List.countP_map]
  congr 1
  grind [upgradeStartLog]

/-! ### The agreement -/

/-- Timestamps, counters and log of a row agree. -/
structure HasHistory (row : Task) : Prop where
  decided : row.completedAt.isSome = row.success.isSome
  started : row.completedAt.isSome = true ∨ attemptOpen false row.systemLog = some true →
    row.startedAt.isSome = true
  attempts : row.attemptCount = completionCount row.systemLog
  failures : row.failureCount = errorCount row.systemLog
  alternates : (attemptOpen false row.systemLog).isSome = true
  balanced : startedCount row.systemLog =
    completionCount row.systemLog + if row.startedAt.isSome && row.completedAt.isNone then 1 else 0

/-- The log has an attempt open exactly when the columns say that the task is running. -/
def OpenAgrees (row : Task) : Prop := attemptOpen false row.systemLog = some (isRunning row)

theorem isRunning_toNat (row : Task) :
    (isRunning row).toNat = if row.startedAt.isSome && row.completedAt.isNone then 1 else 0 := by
  grind [isRunning]

theorem HasHistory.openAgrees {row : Task} (history : HasHistory row) : OpenAgrees row := by
  obtain ⟨reached, alternates⟩ := Option.isSome_iff_exists.mp history.alternates
  have counted := attemptOpen_count alternates
  have balanced := history.balanced
  rw [← isRunning_toNat] at balanced
  unfold OpenAgrees
  cases reached <;> cases running : isRunning row <;> simp_all

theorem hasHistory_of_openAgrees {row : Task} (agrees : OpenAgrees row)
    (decided : row.completedAt.isSome = row.success.isSome)
    (completed : row.completedAt.isSome = true → row.startedAt.isSome = true)
    (attempts : row.attemptCount = completionCount row.systemLog)
    (failures : row.failureCount = errorCount row.systemLog) : HasHistory row := by
  have counted := attemptOpen_count agrees
  refine ⟨decided, ?_, attempts, failures, by rw [agrees]; rfl, ?_⟩
  · rintro (isCompleted | isOpen)
    · exact completed isCompleted
    · rw [agrees, Option.some.injEq, isRunning, Bool.and_eq_true] at isOpen
      exact isOpen.2
  · rw [← isRunning_toNat]
    simpa using counted

/-! ### One step -/

section Completion

variable {row : Task} {completion : TaskCompletion} {now : Date} {logs : List SystemLogEntry}

theorem completionLogs_ends (printed : completionLogs row completion now = .ok logs) :
    attemptOpen true logs = some false ∧ attemptOpen false logs = none ∧
      completionCount logs = 1 ∧ errorCount logs = (!completion.success).toNat := by
  have oneEntry : ∀ rest, attemptOpen false rest = some false → completionCount rest = 0 →
      errorCount rest = 0 →
      attemptOpen true (completionLog completion now :: rest) = some false ∧
        attemptOpen false (completionLog completion now :: rest) = none ∧
        completionCount (completionLog completion now :: rest) = 1 ∧
        errorCount (completionLog completion now :: rest) = (!completion.success).toNat := by
    intro rest closed noCompletion noError
    unfold completionCount errorCount at *
    cases completion with
    | succeeded result executorMetadata =>
        simp [attemptOpen, completionLog, closed, noCompletion, noError, TaskCompletion.success]
    | failed error requeueDelayMs executorMetadata =>
        simp [attemptOpen, completionLog, closed, noCompletion, noError, TaskCompletion.success]
  unfold completionLogs at printed
  split at printed
  · cases shown : Date.toISOString (requeueTimestamp row completion now) with
    | error thrown =>
        rw [shown] at printed
        cases printed
    | ok dontStartBefore =>
        rw [shown] at printed
        cases printed
        exact oneEntry _ rfl rfl rfl
  · cases printed
    exact oneEntry [] rfl rfl rfl

end Completion

section Heartbeat

variable {row : Task} (now : Date) (context : Option HeartbeatContext)
  (executorMetadata : Option Json)

theorem heartbeatRow_systemLog :
    ((heartbeatRow now context executorMetadata row).systemLog = row.systemLog) ∨
      ∃ metadata, (heartbeatRow now context executorMetadata row).systemLog =
        row.systemLog.map (upgradeStartLog metadata) := by
  unfold heartbeatRow
  grind

theorem attemptOpen_heartbeatRow :
    attemptOpen false (heartbeatRow now context executorMetadata row).systemLog =
      attemptOpen false row.systemLog := by
  grind [heartbeatRow_systemLog, attemptOpen_upgrade]

theorem countP_heartbeatRow (counted : SystemLogType → Bool) :
    (heartbeatRow now context executorMetadata row).systemLog.countP
        (fun entry => counted entry.logType) =
      row.systemLog.countP fun entry => counted entry.logType := by
  rcases heartbeatRow_systemLog now context executorMetadata with same | ⟨metadata, upgraded⟩
  · rw [same]
  · rw [upgraded, countP_upgrade]

end Heartbeat

/-- The call asks for a requeue that the attempts of the row no longer admit. -/
def Refuses (row : Task) (call : TaskCall) : Prop :=
  ∃ completion, call = .complete row.id completion ∧ refusesRequeue row completion = true

theorem not_refuses {row : Task} {call : TaskCall}
    (other : ∀ completion, call ≠ .complete row.id completion) : ¬Refuses row call := by
  rintro ⟨completion, equal, _⟩
  exact other completion equal

theorem isRunning_completeRow {row : Task} {completion : TaskCompletion} (now : Date)
    (logs : List SystemLogEntry) (completable : isCompletable row = true) :
    isRunning (completeRow row completion now logs row) = refusesRequeue row completion := by
  simp only [isCompletable, Bool.and_eq_true, Option.isNone_iff_eq_none] at completable
  obtain ⟨⟨_, uncompleted⟩, started⟩ := completable
  rcases requeue_cases row completion with plain | requeued | refused
  · simp [completeRow_terminal, isRunning, refusesRequeue, plain]
  · have startedAt := (completeRow_requeued row now logs requeued).1.1
    grind [shouldRequeue, isRunning, refusesRequeue]
  · simp [completeRow_refused, isRunning, refused, uncompleted, started]

/-- A step that refuses no requeue keeps the agreement. -/
theorem HasHistory.step {row row' : Task} {call : TaskCall} (history : HasHistory row)
    (step : RowStep row call row') (granted : ¬ Refuses row call) : HasHistory row' := by
  have agrees := history.openAgrees
  unfold OpenAgrees at agrees
  cases step with
  | started now executorMetadata startable =>
      simp only [isStartable, Bool.and_eq_true, Option.isNone_iff_eq_none] at startable
      obtain ⟨uncompleted, unstarted⟩ := startable
      have idle : isRunning row = false := by simp [isRunning, unstarted]
      rw [idle] at agrees
      refine hasHistory_of_openAgrees ?_ history.decided (fun _ => rfl) ?_ ?_
      · simp [OpenAgrees, startRow, attemptOpen_append, agrees, attemptOpen, startedLog, isRunning,
          uncompleted]
      · simpa [startRow, completionCount, startedLog] using history.attempts
      · simpa [startRow, errorCount, startedLog] using history.failures
  | secured now startable later =>
      simp only [startableCoreTaskWhere, Bool.and_eq_true, Option.isNone_iff_eq_none] at startable
      have unstarted := startable.1.1.1
      have uncompleted : row.completedAt = none := by
        grind [Option.not_isSome_iff_eq_none, started]
      have idle : isRunning row = false := by simp [isRunning, unstarted]
      rw [idle] at agrees
      refine hasHistory_of_openAgrees ?_ history.decided (fun _ => rfl) ?_ ?_
      · simp [OpenAgrees, startRow, attemptOpen_append, agrees, attemptOpen, startedLog, isRunning,
          uncompleted]
      · simpa [startRow, completionCount, startedLog] using history.attempts
      · simpa [startRow, errorCount, startedLog] using history.failures
  | heartbeat now context executorMetadata running =>
      obtain ⟨decided, started, attempts, failures, _, _⟩ := history
      have sameOpen := @attemptOpen_heartbeatRow row now context executorMetadata
      refine hasHistory_of_openAgrees (sameOpen.trans agrees) decided
        (fun completed => started (.inl completed)) ?_ ?_
      · exact attempts.trans (countP_heartbeatRow now context executorMetadata
          fun logType => logType == .success || logType == .error).symm
      · exact failures.trans (countP_heartbeatRow now context executorMetadata
          fun logType => logType == .error).symm
  | progressed now report running =>
      exact ⟨history.decided, history.started, history.attempts, history.failures,
        history.alternates, history.balanced⟩
  | completed completion now logs completable printed =>
      have notRefused : refusesRequeue row completion = false := by
        rw [Bool.eq_false_iff]
        intro refused
        exact granted ⟨completion, rfl, refused⟩
      obtain ⟨closes, _, oneCompletion, errors⟩ := completionLogs_ends printed
      have busy : isRunning row = true := by
        grind [isCompletable, isRunning]
      rw [busy] at agrees
      refine hasHistory_of_openAgrees ?_ ?_ ?_ ?_ ?_
      · unfold OpenAgrees
        rw [completeRow_systemLog, attemptOpen_append, agrees, Option.bind_some, closes,
          isRunning_completeRow now logs completable, notRefused]
      · rcases (completeRow_settled row now logs completable).mpr notRefused with terminal | reset
        · rw [terminal.1, terminal.2]
        · rw [reset.2.1, reset.2.2]
          rfl
      · intro completed
        rcases requeue_cases row completion with plain | requeued | refused
        · rw [(completeRow_terminal row now logs plain).2.2]
          grind [isCompletable]
        · rw [(completeRow_requeued row now logs requeued).1.2.2] at completed
          cases completed
        · rw [notRefused] at refused
          cases refused
      · grind [completionCount, completeRow_attemptCount, completeRow_systemLog, history.attempts]
      · grind [errorCount, completeRow_failureCount, completeRow_systemLog, history.failures]

theorem attemptOpen_before_start {log : List SystemLogEntry} {now : Date} {metadata : Json}
    {reached : Bool}
    (alternates : attemptOpen false (log ++ [startedLog now metadata]) = some reached) :
    attemptOpen false log = some false := by
  rw [attemptOpen_append] at alternates
  rcases before : attemptOpen false log with _ | isOpen
  · rw [before] at alternates
    cases alternates
  · cases isOpen with
    | false => rfl
    | true =>
        rw [before] at alternates
        cases alternates

/-- No step restores the agreement of the log with the columns, and refusing a requeue breaks
it. -/
theorem RowStep.openAgrees_before {row row' : Task} {call : TaskCall} (step : RowStep row call row')
    (agrees' : OpenAgrees row') : OpenAgrees row ∧ ¬ Refuses row call := by
  unfold OpenAgrees at *
  cases step with
  | started now executorMetadata startable =>
      simp only [isStartable, Bool.and_eq_true, Option.isNone_iff_eq_none] at startable
      have idle : isRunning row = false := by simp [isRunning, startable.2]
      refine ⟨?_, not_refuses fun _ equal => by cases equal⟩
      rw [idle]
      exact attemptOpen_before_start agrees'
  | secured now startable later =>
      simp only [startableCoreTaskWhere, Bool.and_eq_true, Option.isNone_iff_eq_none] at startable
      have idle : isRunning row = false := by simp [isRunning, startable.1.1.1]
      refine ⟨?_, not_refuses fun _ equal => by cases equal⟩
      rw [idle]
      exact attemptOpen_before_start agrees'
  | heartbeat now context executorMetadata running =>
      refine ⟨?_, not_refuses fun _ equal => by cases equal⟩
      rw [attemptOpen_heartbeatRow] at agrees'
      exact agrees'
  | progressed now report running =>
      exact ⟨agrees', not_refuses fun _ equal => by cases equal⟩
  | completed completion now logs completable printed =>
      obtain ⟨closes, unopened, _, _⟩ := completionLogs_ends printed
      have busy : isRunning row = true := by
        grind [isCompletable, isRunning]
      rw [completeRow_systemLog, attemptOpen_append,
        isRunning_completeRow now logs completable] at agrees'
      rcases before : attemptOpen false row.systemLog with _ | isOpen
      · rw [before] at agrees'
        cases agrees'
      · rw [before, Option.bind_some] at agrees'
        cases isOpen with
        | false =>
            rw [unopened] at agrees'
            cases agrees'
        | true =>
            rw [closes, Option.some.injEq] at agrees'
            refine ⟨by rw [busy], ?_⟩
            rintro ⟨other, equal, refused⟩
            grind

/-! ### Runs -/

def RefusesRequeueOf (env : Env) (taskId : String) (world : World) (call : TaskCall) : Prop :=
  CompletionReturns env world call ∧ call.taskId = taskId ∧ AsksRefusedRequeue world call

theorem complete_step_of_not_returns {env : Env} {world : World} {taskId : String}
    {completion : TaskCompletion}
    (noReturn : ¬ CompletionReturns env world (.complete taskId completion)) :
    TaskCall.step env world (.complete taskId completion) = world := by
  unfold TaskCall.step TaskCall.perform
  rw [discard_state]
  rcases registerTaskCompleted_cases env taskId completion world with
    ⟨result, after, returned⟩ | ⟨error, failed⟩
  · exact absurd ⟨taskId, completion, result, after, rfl, returned⟩ noReturn
  · rw [failed]

section Runs

variable {env : Env} {taskId : String} {world : World} {call : TaskCall} {row row' : Task}

/-- A step that keeps the agreement, at the level of the calls. -/
theorem hasHistory_call (found : findTask taskId world.db = some row)
    (found' : findTask taskId (call.step env world).db = some row') (history : HasHistory row)
    (granted : ¬ RefusesRequeueOf env taskId world call) : HasHistory row' := by
  obtain ⟨tracked', trackedFound, tracked⟩ := perform_tracks env world call taskId row found
  have sameRow : tracked' = row' := Option.some.inj (trackedFound.symm.trans found')
  subst sameRow
  rcases tracked with same | step
  · rw [same]
    exact history
  · by_cases refuses : Refuses row call
    · obtain ⟨completion, isComplete, refused⟩ := refuses
      have rowId := findTask_id found
      rw [rowId] at isComplete
      subst isComplete
      by_cases returns : CompletionReturns env world (.complete taskId completion)
      · exact absurd ⟨returns, rfl, taskId, completion, row, rfl, found, refused⟩ granted
      · grind [complete_step_of_not_returns]
    · exact history.step step refuses

theorem openAgrees_call (found : findTask taskId world.db = some row)
    (found' : findTask taskId (call.step env world).db = some row') (agrees' : OpenAgrees row') :
    OpenAgrees row ∧ ¬ RefusesRequeueOf env taskId world call := by
  obtain ⟨tracked', trackedFound, tracked⟩ := perform_tracks env world call taskId row found
  have sameRow : tracked' = row' := Option.some.inj (trackedFound.symm.trans found')
  subst sameRow
  have agrees : OpenAgrees row := by
    rcases tracked with same | step
    · rw [← same]
      exact agrees'
    · exact (step.openAgrees_before agrees').1
  refine ⟨agrees, ?_⟩
  rintro ⟨⟨completedId, completion, result, after, rfl, returned⟩, rfl, _, _, other, equal,
    otherFound, refused⟩
  cases equal
  have foundAfter : findTask completedId after.db = some tracked' := by
    rw [complete_step_of_returns returned] at found'
    exact found'
  obtain ⟨same, now, logs, sameFound, completable, printed, left⟩ :=
    registerTaskCompleted_row returned
  have sameEqual : same = other := Option.some.inj (sameFound.symm.trans otherFound)
  subst sameEqual
  rw [left] at foundAfter
  have step := RowStep.completed completion now logs completable printed
  rw [Option.some.inj foundAfter] at step
  exact (step.openAgrees_before agrees').2 ⟨completion, rfl, refused⟩

theorem openAgrees_run {calls : List TaskCall} (found : findTask taskId world.db = some row)
    (atEnd : ∀ row', findTask taskId (run (TaskCall.step env) world calls).db = some row' →
      OpenAgrees row') :
    OpenAgrees row ∧ AlongRun (TaskCall.step env)
      (fun state call => ¬ RefusesRequeueOf env taskId state call) world calls := by
  induction calls generalizing world row with
  | nil => exact ⟨atEnd row found, trivial⟩
  | cons call rest inductionHypothesis =>
      obtain ⟨next, nextFound, _⟩ := perform_tracks env world call taskId row found
      obtain ⟨nextAgrees, restGranted⟩ := inductionHypothesis nextFound atEnd
      obtain ⟨agrees, granted⟩ := openAgrees_call found nextFound nextAgrees
      exact ⟨agrees, granted, restGranted⟩

theorem hasHistory_run {calls : List TaskCall} (found : findTask taskId world.db = some row)
    (history : HasHistory row)
    (granted : AlongRun (TaskCall.step env)
      (fun state call => ¬ RefusesRequeueOf env taskId state call) world calls)
    (foundAtEnd : findTask taskId (run (TaskCall.step env) world calls).db = some row') :
    HasHistory row' := by
  induction calls generalizing world row with
  | nil =>
      grind [run_nil]
  | cons call rest inductionHypothesis =>
      obtain ⟨next, nextFound, _⟩ := perform_tracks env world call taskId row found
      have nextHistory := hasHistory_call found nextFound history granted.1
      exact inductionHypothesis nextFound nextHistory granted.2 foundAtEnd

end Runs

/-! ### Created rows -/

def isEventTriggered (row : Task) : Bool :=
  match row.invocation.context with
  | .event _ => row.ownerId != coreIdentifier
  | _ => false

/-- A row as a creation path leaves it. -/
structure CreatedRow (row : Task) : Prop where
  plain : isEventTriggered row = false → IsNewRow [] row
  triggered : isEventTriggered row = true → ∃ loggedAt,
      IsNewRow [eventTriggeredStartLog loggedAt] row

theorem createdRow_of_isNew {row : Task} (isNew : IsNewRow [] row)
    (notEvent : isEventTriggered row = false) : CreatedRow row :=
  ⟨fun _ => isNew, fun isEvent => by rw [notEvent] at isEvent; cases isEvent⟩

theorem createdRow_of_emitted {snapshot : Database} {args : EmitEventArgs} {task : Task}
    (emitted : EmittedTask snapshot args task) : CreatedRow task := by
  cases emitted with
  | @triggered nested app candidate isNested found member row =>
      obtain ⟨context, isEvent⟩ := row.context
      have isTriggered : isEventTriggered task = true := by
        have notCore := candidate.subscribedApp.notCore
        simp [isEventTriggered, isEvent, row.ownerId, notCore]
      refine ⟨fun plain => ?_, fun _ => row.isNew⟩
      rw [isTriggered] at plain
      cases plain
  | core row =>
      grind [createdRow_of_isNew, isEventTriggered, row.isNew, row.ownerId]

/-- A new row has a history exactly when it was not built for an event trigger. -/
theorem CreatedRow.openAgrees_iff {row : Task} (created : CreatedRow row) :
    OpenAgrees row ↔ isEventTriggered row = false := by
  rcases isEvent : isEventTriggered row with _ | _
  · have isNew := created.plain isEvent
    simp [OpenAgrees, isNew.systemLog, attemptOpen, isRunning, isNew.startedAt]
  · obtain ⟨loggedAt, isNew⟩ := created.triggered isEvent
    simp [OpenAgrees, isNew.systemLog, attemptOpen, isRunning, isNew.startedAt,
      eventTriggeredStartLog]

theorem CreatedRow.hasHistory {row : Task} (created : CreatedRow row)
    (plain : isEventTriggered row = false) : HasHistory row := by
  have isNew := created.plain plain
  refine hasHistory_of_openAgrees (created.openAgrees_iff.mpr plain) ?_ ?_ ?_ ?_
  · rw [isNew.completedAt, isNew.success]
    rfl
  · simp [isNew.completedAt]
  · rw [isNew.attemptCount, isNew.systemLog]
    rfl
  · rw [isNew.failureCount, isNew.systemLog]
    rfl

/-- Every row of one state has the identifier of a row of the other. -/
def SameIds (before after : World) : Prop :=
  ∀ row ∈ after.db.tasks.rows, ∃ old ∈ before.db.tasks.rows, old.id = row.id

/-- Rows with a new identifier are as a creation path leaves them. -/
def AddsCreated (before after : World) : Prop :=
  ∀ row ∈ after.db.tasks.rows, (∃ old ∈ before.db.tasks.rows, old.id = row.id) ∨ CreatedRow row

abbrev GrowsCreated : World → World → Prop := Grows CreatedRow fun _ => True

theorem SameIds.adds {before middle after : World} (same : SameIds before middle)
    (grows : GrowsCreated middle after) : AddsCreated before after := by
  intro row member
  obtain ⟨added, equal, new⟩ := grows.tasks
  rw [equal] at member
  rcases List.mem_append.mp member with old | fresh
  · exact .inl (same row old)
  · exact .inr (new row fresh)

theorem SameIds.refl (world : World) : SameIds world world := fun row member => ⟨row, member, rfl⟩

theorem SameIds.of_update {condition : Task → Bool} {change : Task → Task}
    {keeps : Keeps Task.clash change} {before after : World}
    (sameId : ∀ task, (change task).id = task.id)
    (written : after.db = { before.db with
      tasks := before.db.tasks.update condition change keeps }) : SameIds before after := by
  intro row member
  rw [written] at member
  have updated : row ∈ (before.db.tasks.update condition change keeps).rows := member
  obtain ⟨old, oldMember, changed⟩ := Table.mem_update.mp updated
  grind

theorem admits_created (snapshot : Database) :
    AdmitsAnnounced snapshot CreatedRow fun _ => True :=
  ⟨fun _ _ _ emitted => createdRow_of_emitted emitted, fun _ _ => trivial⟩

/-! ### Creation paths -/

/-- The calls that create tasks. A completion and a progress report create the children of their
handlers, and anything emitted on the way. -/
inductive CreationCall where
  | coreUserAction (request : UserActionRequest)
  | appUserAction (appIdentifier : String) (request : UserActionRequest)
  | appAction (appIdentifier : String) (request : AppActionRequest)
  | event (args : EmitEventArgs)
  | schedule
  | completeChild (parentTaskId : String) (completion : TaskCompletion)
  | progressChild (parentTaskId : String) (report : TaskProgressReport)

def CreationCall.perform (env : Env) : CreationCall → Service Unit
  | coreUserAction request => do
      let _ ← triggerCoreUserActionTask env request
      pure ()
  | appUserAction appIdentifier request => do
      let _ ← triggerAppUserActionTask env appIdentifier request
      pure ()
  | appAction appIdentifier request => do
      let _ ← triggerAppActionTask env appIdentifier request
      pure ()
  | event args => emitEvent env args
  | schedule => processScheduledTaskTriggers env
  | completeChild parentTaskId completion => do
      let _ ← registerTaskCompleted env parentTaskId completion
      pure ()
  | progressChild parentTaskId report => do
      let _ ← registerTaskProgress env parentTaskId report
      pure ()

def CreationCall.step (env : Env) (world : World) (call : CreationCall) : World :=
  (call.perform env world).2

section Paths

variable (env : Env)

variable {snapshot : Database}

theorem grows_keyed {α : Type} {task : Task} (isNew : ∀ key, CreatedRow (task.withKey key))
    {next : Task → Service α}
    (nextMoves : ∀ keyed, CreatedRow keyed →
      Moves (GrowsOver snapshot CreatedRow fun _ => True) (next keyed)) :
    Moves (GrowsOver snapshot CreatedRow fun _ => True)
      (withTaskIdempotencyKey env task >>= next) := by
  refine Ensures.bind (ensures_withTaskIdempotencyKey env task) fun keyed isKeyed => ?_
  obtain ⟨key, rfl, _⟩ := isKeyed
  exact nextMoves _ (isNew key)

theorem userActionRow_created (request : UserActionRequest) (ownerId taskDescription id : String)
    (now : Date) (key : String) :
    CreatedRow ((userActionRow request ownerId taskDescription id now).withKey key) :=
  createdRow_of_isNew ⟨rfl, rfl, rfl, rfl, rfl, rfl⟩ rfl

theorem appActionRow_created (request : AppActionRequest) (appIdentifier : String)
    (taskDefinition : AppTaskConfig) (id : String) (now : Date) (key : String) :
    CreatedRow ((appActionRow request appIdentifier taskDefinition id now).withKey key) :=
  createdRow_of_isNew ⟨rfl, rfl, rfl, rfl, rfl, rfl⟩ rfl

theorem scheduleRow_created (candidate : ScheduleCandidate) (taskDefinition : AppTaskConfig)
    (timestampBucket id : String) (now : Date) (key : String) :
    CreatedRow ((scheduleRow candidate taskDefinition timestampBucket id now).withKey key) :=
  createdRow_of_isNew ⟨rfl, rfl, rfl, rfl, rfl, rfl⟩ rfl

theorem grows_triggerCoreUserActionTask (request : UserActionRequest) :
    Moves (GrowsOver snapshot CreatedRow fun _ => True)
      (triggerCoreUserActionTask env request) := by
  refine Moves.bind (Service.moves_now env) fun now => ?_
  refine Moves.bind (Service.moves_randomUUID env) fun id => ?_
  refine grows_keyed env (userActionRow_created request _ _ id now) fun keyed created => ?_
  exact Moves.bind (Service.moves_over (Service.moves_insertTask created)) fun _ => moves_pure keyed

theorem grows_triggerAppUserActionTask (appIdentifier : String) (request : UserActionRequest) :
    Moves (GrowsOver snapshot CreatedRow fun _ => True)
      (triggerAppUserActionTask env appIdentifier request) := by
  refine Moves.bind (Service.moves_now env) fun now => ?_
  refine Moves.bind (Service.moves_check _) fun taskDefinition => ?_
  refine Moves.bind (Service.moves_randomUUID env) fun id => ?_
  refine grows_keyed env (userActionRow_created request _ _ id now) fun keyed created => ?_
  exact Ensures.transaction (grows_insertAndAnnounce env (admits_created snapshot) created)

theorem grows_triggerAppActionTask (appIdentifier : String) (request : AppActionRequest) :
    Moves (GrowsOver snapshot CreatedRow fun _ => True)
      (triggerAppActionTask env appIdentifier request) := by
  refine Moves.bind (Service.moves_check _) fun taskDefinition => ?_
  refine Moves.bind (Service.moves_check _) fun _ => ?_
  refine Moves.bind (Service.moves_now env) fun now => ?_
  refine Moves.bind (Service.moves_randomUUID env) fun id => ?_
  refine grows_keyed env (appActionRow_created request _ taskDefinition id now)
    fun keyed created => ?_
  exact Ensures.transaction (grows_insertAndAnnounce env (admits_created snapshot) created)

theorem ensures_tryEnqueueScheduleTask {relation : World → World → Prop}
    [DatabaseRelation relation] (now : Date) (candidate : ScheduleCandidate) :
    Ensures relation (fun due => ∀ task ∈ due, CreatedRow task)
      (tryEnqueueScheduleTask env now candidate) := by
  refine Moves.bind (moves_ofExcept _) fun bucketStart => ?_
  split
  · exact ensures_pure (by simp)
  · rename_i taskDefinition _
    refine Moves.bind (Service.moves_randomUUID env) fun id => ?_
    refine Moves.bind (moves_ofExcept _) fun timestampBucket => ?_
    refine Ensures.bind (ensures_withTaskIdempotencyKey env _) fun task keyed => ?_
    obtain ⟨key, rfl, _⟩ := keyed
    refine Moves.bind (Service.moves_query _) fun existingTask => ?_
    refine ensures_pure ?_
    intro due member
    split at member
    · cases member
    · rw [List.mem_singleton.mp member]
      exact scheduleRow_created candidate taskDefinition timestampBucket id now key

theorem grows_processScheduledTaskTriggers :
    Moves (GrowsOver snapshot CreatedRow fun _ => True) (processScheduledTaskTriggers env) := by
  refine Ensures.tryCatch ?_ fun _ => moves_pure ()
  refine Moves.bind (Service.moves_now env) fun now => ?_
  refine Moves.bind (Service.moves_query _) fun candidates => ?_
  refine Ensures.bind (Ensures.collect candidates fun candidate _ =>
    ensures_tryEnqueueScheduleTask env now candidate) fun due created => ?_
  unfold insertScheduledTasks
  split
  · exact moves_pure ()
  · refine Ensures.transaction ?_
    have allCreated : ∀ task ∈ due.flatten, CreatedRow task := by
      intro task member
      obtain ⟨tasks, tasksMember, taskMember⟩ := List.mem_flatten.mp member
      exact created tasks tasksMember task taskMember
    refine Moves.bind (Service.moves_over (Service.moves_insertTasks allCreated)) fun _ => ?_
    exact Moves.each _ fun task _ => grows_announce env (admits_created snapshot) task

theorem addsCreated_of_moves {α : Type} {operation : Service α}
    (moves : ∀ snapshot, Moves (GrowsOver snapshot CreatedRow fun _ => True) operation)
    (world : World) : AddsCreated world (operation world).2 :=
  (SameIds.refl world).adds (moves_grows moves world).1

theorem addsCreated_registerTaskCompleted (taskId : String) (completion : TaskCompletion)
    (world : World) : AddsCreated world (registerTaskCompleted env taskId completion world).2 := by
  rcases registerTaskCompleted_cases env taskId completion world with
    ⟨result, after, returned⟩ | ⟨error, failed⟩
  · obtain ⟨row, now, logs, written, announced, handled, committed, _, run, telemetry⟩ :=
      registerTaskCompleted_returns returned
    have first : GrowsCreated written announced :=
      ((moves_grows fun snapshot => grows_announceRequeued env (admits_created snapshot) _
        _).of_returns run.announces).1
    have second : GrowsCreated announced handled := by
      refine ((moves_grows fun snapshot => ?_).of_returns run.handles).1
      refine grows_executeOnCompleteHandlers env (admits_created snapshot) _ completion ?_
      intro index handler _ _ taskDefinition id data now
      exact createdRow_of_isNew ⟨rfl, rfl, rfl, rfl, rfl, rfl⟩ rfl
    have third : GrowsCreated handled committed := Grows.of_same_db run.rest
    have fourth : GrowsCreated committed after := by
      refine ((moves_grows fun snapshot => ?_).of_returns telemetry).1
      exact grows_emitTaskCompletionTelemetry env result
        (fun _ _ _ emitted => createdRow_of_emitted emitted) fun _ _ => trivial
    rw [returned]
    exact (SameIds.of_update (completeRow_id row completion now logs) run.writes).adds
      (((first.trans second).trans third).trans fourth)
  · rw [failed]
    exact (SameIds.refl world).adds (Grows.of_same_db rfl)

theorem addsCreated_registerTaskProgress (taskId : String) (report : TaskProgressReport)
    (world : World) : AddsCreated world (registerTaskProgress env taskId report world).2 := by
  rcases registerTaskProgress_cases env taskId report world with
    same | ⟨row, stored, now, written, rfl, found, running, writes, answers⟩
  · exact (SameIds.refl world).adds (Grows.of_same_db same)
  · rw [answers]
    have sameId : ∀ task, (progressRow now stored task).id = task.id := fun _ => rfl
    refine (SameIds.of_update sameId writes).adds ?_
    refine (moves_grows (fun snapshot => ?_) written).1
    refine grows_answerProgress env (admits_created snapshot) _ _ stored ?_
    intro index handler declared fires taskDefinition id data now
    exact createdRow_of_isNew ⟨rfl, rfl, rfl, rfl, rfl, rfl⟩ rfl

theorem CreationCall.addsCreated (call : CreationCall) (world : World) :
    AddsCreated world (call.step env world) := by
  unfold CreationCall.step
  cases call with
  | coreUserAction request =>
      rw [CreationCall.perform, discard_state]
      exact addsCreated_of_moves (fun _ => grows_triggerCoreUserActionTask env request) world
  | appUserAction appIdentifier request =>
      simp [CreationCall.perform, discard_state, addsCreated_of_moves,
        grows_triggerAppUserActionTask]
  | appAction appIdentifier request =>
      simp [CreationCall.perform, discard_state, addsCreated_of_moves, grows_triggerAppActionTask]
  | event args =>
      exact addsCreated_of_moves (fun _ => moves_emitEvent env args
        (fun _ emitted => createdRow_of_emitted emitted) fun _ _ => trivial) world
  | schedule => exact addsCreated_of_moves (fun _ => grows_processScheduledTaskTriggers env) world
  | completeChild parentTaskId completion =>
      rw [CreationCall.perform, discard_state]
      exact addsCreated_registerTaskCompleted env parentTaskId completion world
  | progressChild parentTaskId report =>
      rw [CreationCall.perform, discard_state]
      exact addsCreated_registerTaskProgress env parentTaskId report world

end Paths

/-- A task, however it was created, has a history in every state its calls reach exactly when it
was not built for an event trigger and none of the completions that returned refused it a
requeue. -/
theorem history_iff (env : Env) (creation : CreationCall) (before : World) {row : Task}
    (member : row ∈ (creation.step env before).db.tasks.rows)
    (isNew : ∀ old ∈ before.db.tasks.rows, old.id ≠ row.id) (calls : List TaskCall) :
    (∀ row', findTask row.id (run (TaskCall.step env) (creation.step env before) calls).db =
        some row' → HasHistory row') ↔
      isEventTriggered row = false ∧ AlongRun (TaskCall.step env)
        (fun state call => ¬ RefusesRequeueOf env row.id state call) (creation.step env before)
        calls := by
  have created : CreatedRow row := by
    rcases creation.addsCreated env before row member with ⟨old, oldMember, oldId⟩ | created
    · exact absurd oldId (isNew old oldMember)
    · exact created
  have found := findTask_of_mem member
  constructor
  · intro historyAtEnd
    obtain ⟨agrees, granted⟩ := openAgrees_run found fun row' found' =>
      (historyAtEnd row' found').openAgrees
    exact ⟨created.openAgrees_iff.mp agrees, granted⟩
  · rintro ⟨plain, granted⟩ row' found'
    exact hasHistory_run found (created.hasHistory plain) granted found'

def sampleRequest : UserActionRequest where
  userId := "user"
  requestId := "request"
  taskIdentifier := "analyze_object"
  taskData := .obj []

/-- The row the request creates in an empty database. -/
def sampleRequested : Task :=
  let task := userActionRow sampleRequest coreIdentifier "Core task on user request" "uuid-1" 0
  task.withKey (buildTaskIdempotencyKey Env.sample "" task)

theorem history_iff_requested :
    (∀ row', findTask sampleRequested.id (run (TaskCall.step Env.sample)
        (CreationCall.step Env.sample {} (.coreUserAction sampleRequest))
        [.secure sampleRequested.id]).db = some row' → HasHistory row') ↔
      isEventTriggered sampleRequested = false ∧ AlongRun (TaskCall.step Env.sample)
        (fun state call => ¬ RefusesRequeueOf Env.sample sampleRequested.id state call)
        (CreationCall.step Env.sample {} (.coreUserAction sampleRequest))
        [.secure sampleRequested.id] := by
  have rows : (CreationCall.step Env.sample {} (.coreUserAction sampleRequest)).db.tasks.rows =
      [sampleRequested] := rfl
  exact history_iff Env.sample (.coreUserAction sampleRequest) {} (by rw [rows]; simp)
    (fun old member => by cases member) [.secure sampleRequested.id]

/-- An app that listens to its own `thing_happened` events. -/
def sampleListener : App :=
  { App.sample with
    config :=
      { App.sample.config with
        triggers :=
          [.event
            { condition := none, taskIdentifier := "notify", onComplete := [], onProgress := [],
              eventIdentifier := "thing_happened", dataTemplate := none, triggerKey := none }] } }

def sampleListenerWorld : World where
  db := { apps := { rows := [sampleListener], distinct := List.pairwise_singleton _ _ } }

def sampleEvent : EmitEventArgs where
  emitterIdentifier := "demo-0a1b2c3d"
  eventIdentifier := "thing_happened"
  data := .obj []

/-- The task an event creates has a `started` entry before anyone has started it. -/
theorem eventTriggered_unbalanced :
    ∃ row ∈ (CreationCall.step Env.sample sampleListenerWorld (.event sampleEvent)).db.tasks.rows,
      (∀ old ∈ sampleListenerWorld.db.tasks.rows, old.id ≠ row.id) ∧ ¬ HasHistory row := by
  have started : (CreationCall.step Env.sample sampleListenerWorld
      (.event sampleEvent)).db.tasks.rows.any (fun row => row.startedAt.isNone &&
        startedCount row.systemLog == 1 && completionCount row.systemLog == 0) = true := by
    decide +kernel
  obtain ⟨row, member, holds⟩ := List.any_eq_true.mp started
  simp only [Bool.and_eq_true, Option.isNone_iff_eq_none, beq_iff_eq] at holds
  obtain ⟨⟨unstarted, oneStart⟩, noCompletion⟩ := holds
  refine ⟨row, member, fun old oldMember => (by cases oldMember), ?_⟩
  intro history
  have balanced := history.balanced
  rw [oneStart, noCompletion, unstarted] at balanced
  simp at balanced

end Lombok.Tasks
