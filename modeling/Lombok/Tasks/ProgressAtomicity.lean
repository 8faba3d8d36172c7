import Lombok.Tasks.OnProgress

/-!
Contract: what a progress report leaves behind when it fails.

A report writes its parent row first and then lets the handlers insert their
children, one after the other. Inside the transaction of its caller a throw
undoes all of it. On the bare connection every statement stands by itself, so a
turn that throws leaves the report in the parent and the children of the turns
before it; the call is all-or-nothing exactly when no turn can throw.

Does not own: which keys collide over a run of reports (see `OnProgress`).
-/

namespace Lombok.Tasks

open Lombok.Core Lombok.Library Lombok.Library.Action Lombok.Apps Lombok.Events

/-- `registerTaskProgress`, in the transaction of the caller or on the bare connection. -/
def progressCall (env : Env) (inTransaction : Bool) (taskId : String)
    (report : TaskProgressReport) : Service (Option Task) :=
  if inTransaction then Action.transaction (registerTaskProgress env taskId report)
  else registerTaskProgress env taskId report

/-! ### One turn of the loop -/

section Turn

variable (env : Env) (parent : Task) (stored : ReceivedTaskProgressReport)

/-- The objects the data template of a handler is resolved against. -/
def progressTemplateObjects : Json :=
  .obj (Fields.ofOptions
    [("task", some (parentTaskContext parent [])),
      ("progressReport", some (.obj (stored.toTaskProgressReport.toFields ++
        [("receivedAt", .str stored.receivedAt)]))),
      ("executorMetadata", stored.executorMetadata)])

/-- The row a handler has to insert from that state. -/
def childAt (handler : TaskOnProgressConfig) (index : Nat) (taskDefinition : AppTaskConfig)
    (data : Json) (world : World) : Task :=
  (progressChildRow parent stored handler index taskDefinition
      (env.randomUUID (world.draws + 1)) data (env.clock world.draws)).withKey
    (taskProgressChildKey env parent.ownerId handler.taskIdentifier parent.id index stored.code
      stored.timestamp)

/-- `insertAndAnnounce` after the insert. -/
def announceChild (child : Task) : Service Unit := do
  Service.record child.ownerId (.taskCreated child.ownerId child.taskIdentifier)
  emitRunnableTaskEnqueuedEvent (emitEventWithTx env) child

/-- No stored row is in the way of the task, and it can be announced once it is there. -/
def ChildLands (child : Task) (world : World) : Prop :=
  (∀ row ∈ world.db.tasks.rows, Task.clash row child = false) ∧
    ∀ inserted, Returns (Service.insertTask child) world () inserted →
      ∃ announced, Returns (announceChild env child) inserted () announced

/-- The handler names a task of its app, its template resolves, and its child lands. -/
def HandlerPasses (handler : TaskOnProgressConfig) (index : Nat) (world : World) : Prop :=
  ∃ taskDefinition data,
    getTaskDefinition parent.ownerId handler.taskIdentifier world.db = .ok taskDefinition ∧
    env.dataFromTemplate world.db parent.ownerId (handler.dataTemplate.getD (.obj []))
      (progressTemplateObjects parent stored) = .ok data ∧
    ChildLands env (childAt env parent stored handler index taskDefinition data world)
      (Service.draw (Service.draw world))

end Turn

section Turn

variable {env : Env} {parent : Task} {stored : ReceivedTaskProgressReport}

theorem insertAndAnnounce_returns_iff {child : Task} {world : World} :
    (∃ result after, Returns (insertAndAnnounce env child) world result after) ↔
      ChildLands env child world := by
  simp only [insertAndAnnounce, returns_bind, returns_pure]
  constructor
  · rintro ⟨_, after, _, written, inserts, _, recorded, records, _, announced, announces, rfl, rfl⟩
    refine ⟨(Service.returns_insertTask inserts).1, ?_⟩
    intro inserted insertsAgain
    have same : inserted = written := congrArg Prod.snd (insertsAgain.symm.trans inserts)
    rw [same]
    exact ⟨_, returns_bind.mpr ⟨(), recorded, records, announces⟩⟩
  · rintro ⟨fresh, announced⟩
    obtain ⟨tasks, insertion⟩ := Table.insert_of_fresh fresh
    obtain ⟨inserted, inserts⟩ := Service.insertTask_returns insertion
    obtain ⟨after, announces⟩ := announced inserted inserts
    obtain ⟨_, recorded, records, emits⟩ := returns_bind.mp announces
    exact ⟨child, after, (), inserted, inserts, (), recorded, records, (), after, emits, rfl, rfl⟩

/-- A handler runs to its end exactly when nothing it depends on fails. -/
theorem executeOnProgressHandler_returns_iff {handler : TaskOnProgressConfig} {index : Nat}
    {world : World} :
    (∃ after, Returns (executeOnProgressHandler env parent stored handler index) world () after) ↔
      HandlerPasses env parent stored handler index world := by
  simp only [executeOnProgressHandler, returns_bind, returns_pure, returns_ofExcept,
    Service.returns_query, Service.returns_check, Service.returns_now, Service.returns_randomUUID,
    withTaskIdempotencyKey_progressChild]
  constructor
  · rintro ⟨after, taskDefinition, _, ⟨defined, rfl⟩, now, _, ⟨rfl, rfl⟩, id, _, ⟨rfl, rfl⟩, _, _,
      ⟨rfl, rfl⟩, data, _, ⟨resolved, rfl⟩, child, _, ⟨rfl, rfl⟩, result, _, inserts, _, rfl⟩
    refine ⟨taskDefinition, data, defined, resolved, ?_⟩
    exact insertAndAnnounce_returns_iff.mp ⟨_, _, inserts⟩
  · rintro ⟨taskDefinition, data, defined, resolved, lands⟩
    obtain ⟨_, after, inserts⟩ := insertAndAnnounce_returns_iff.mpr lands
    exact ⟨after, taskDefinition, _, ⟨defined, rfl⟩, _, _, ⟨rfl, rfl⟩, _, _, ⟨rfl, rfl⟩, _, _,
      ⟨rfl, rfl⟩, data, _, ⟨resolved, rfl⟩, _, _, ⟨rfl, rfl⟩, _, _, inserts, trivial, rfl⟩

end Turn

/-! ### The loop -/

section Loop

variable (env : Env) (parent : Task) (report : TaskProgressReport)
  (stored : ReceivedTaskProgressReport)

/-- The state one turn of the loop leaves, returning or not. -/
def turnStep (world : World) (indexed : TaskOnProgressConfig × Nat) : World :=
  ((if progressHandlerFires env report parent.data indexed.1 then
      executeOnProgressHandler env parent stored indexed.1 indexed.2
    else pure ()) world).2

def TurnPasses (world : World) (indexed : TaskOnProgressConfig × Nat) : Prop :=
  progressHandlerFires env report parent.data indexed.1 = true →
    HandlerPasses env parent stored indexed.1 indexed.2 world

theorem executeOnProgressHandlers_returns_iff (world : World) :
    (∃ after, Returns (executeOnProgressHandlers env parent report stored) world () after) ↔
      AlongRun (turnStep env parent report stored) (TurnPasses env parent report stored) world
        parent.invocation.onProgress.zipIdx := by
  rw [executeOnProgressHandlers, each_returns_iff]
  refine alongRun_congr fun state indexed => ?_
  unfold TurnPasses
  by_cases fires : progressHandlerFires env report parent.data indexed.1 = true
  · simp [executeOnProgressHandler_returns_iff, fires]
  · simp [fires]

def loopStart (written : World) : World :=
  (handleTaskUpdate parent
    (Service.record parent.ownerId (.taskProgressed parent.ownerId parent.id) written).2).2

/-- What follows the update of the parent is the loop. -/
theorem answerProgress_returns_iff (written : World) :
    (∃ result after, Returns (answerProgress env report stored parent) written result after) ↔
      AlongRun (turnStep env parent report stored) (TurnPasses env parent report stored)
        (loopStart parent written) parent.invocation.onProgress.zipIdx := by
  rw [← executeOnProgressHandlers_returns_iff]
  have records : Returns
      (Service.record parent.ownerId (.taskProgressed parent.ownerId parent.id)) written ()
      (Service.record parent.ownerId (.taskProgressed parent.ownerId parent.id) written).2 := rfl
  obtain ⟨started, notifies⟩ := handleTaskUpdate_returns parent
    (Service.record parent.ownerId (.taskProgressed parent.ownerId parent.id) written).2
  have starts : loopStart parent written = started := congrArg Prod.snd notifies
  rw [starts]
  unfold answerProgress Returns
  rw [bind_of_returns records, bind_of_returns notifies]
  constructor
  · rintro ⟨result, after, returned⟩
    obtain ⟨_, handled, handles, _⟩ := returns_bind.mp returned
    exact ⟨handled, handles⟩
  · rintro ⟨handled, handles⟩
    exact ⟨some parent, handled, returns_bind.mpr ⟨(), handled, handles, rfl⟩⟩

end Loop

/-! ### The call -/

section Call

variable (env : Env) (taskId : String) (report : TaskProgressReport) (world : World)

/-- The report as it is stored, received at the time the call reads. -/
def receivedReport (receivedAt : String) : ReceivedTaskProgressReport :=
  { toTaskProgressReport := report, receivedAt := receivedAt }

/-- The parent row as the update of the call leaves it. -/
def reportedRow (receivedAt : String) (row : Task) : Task :=
  progressRow (env.clock world.draws) (receivedReport report receivedAt) row

/-- The state the update of the call leaves. -/
def reportedWorld (receivedAt : String) : World :=
  { Service.draw world with
    db := { world.db with
      tasks := world.db.tasks.update (fun row => Task.hasId taskId row && isRunning row)
        (reportedRow env report world receivedAt) (progressRow_keeps _ _) } }

def HandlersPass : Prop :=
  ∀ row receivedAt, findTask taskId world.db = some row → isRunning row = true →
    Date.toISOString (env.clock world.draws) = .ok receivedAt →
    AlongRun
      (turnStep env (reportedRow env report world receivedAt row) report
        (receivedReport report receivedAt))
      (TurnPasses env (reportedRow env report world receivedAt row) report
        (receivedReport report receivedAt))
      (loopStart (reportedRow env report world receivedAt row)
        (reportedWorld env taskId report world receivedAt))
      row.invocation.onProgress.zipIdx

/-- A call that throws leaves the tasks as they were; one that returns a task appended the report
once and gave every handler it fires exactly one child. -/
structure AllOrNothing (inTransaction : Bool) : Prop where
  nothing : ∀ error after,
    progressCall env inTransaction taskId report world = (.error error, after) →
      after.db.tasks = world.db.tasks
  all : ∀ updated after,
    Returns (progressCall env inTransaction taskId report) world (some updated) after →
      ∃ row left stored, findTask taskId world.db = some row ∧
        findTask taskId after.db = some left ∧ stored.toTaskProgressReport = report ∧
        left.progressReports = row.progressReports ++ [stored] ∧
        ∀ index handler, Matches env row report index handler →
          ∃! child, child ∈ after.db.tasks.rows ∧ IsChildFor taskId report index child ∧
            findTask child.id world.db = none

end Call

section Call

variable {env : Env} {taskId : String} {report : TaskProgressReport} {world : World}

variable {row : Task} {receivedAt : String} {after : World}

theorem registerTaskProgress_running (found : findTask taskId world.db = some row)
    (running : isRunning row = true)
    (printed : Date.toISOString (env.clock world.draws) = .ok receivedAt) :
    registerTaskProgress env taskId report world =
      answerProgress env report (receivedReport report receivedAt)
        (reportedRow env report world receivedAt row)
        (reportedWorld env taskId report world receivedAt) := by
  have clocked : Returns (Service.now env) world (env.clock world.draws) (Service.draw world) :=
    Service.returns_now.mpr ⟨rfl, rfl⟩
  have converted : Returns (Action.ofExcept (.ok receivedAt) : Service String)
      (Service.draw world) receivedAt (Service.draw world) := returns_ofExcept.mpr ⟨rfl, rfl⟩
  have hit : (Service.draw world).db.tasks.find?
      (fun row => Task.hasId taskId row && isRunning row) = some row := by
    rw [find?_guarded]
    exact Option.filter_eq_some_iff.mpr ⟨found, running⟩
  have update : Returns (Service.updateTasksReturning
      (fun row => Task.hasId taskId row && isRunning row)
      (reportedRow env report world receivedAt) (progressRow_keeps _ _)) (Service.draw world)
      (some (reportedRow env report world receivedAt row))
      (reportedWorld env taskId report world receivedAt) := by
    refine Service.returns_updateTasksReturning.mpr ⟨?_, rfl, rfl, rfl⟩
    rw [hit]
    rfl
  rw [registerTaskProgress, bind_of_returns clocked, printed, bind_of_returns converted]
  exact bind_of_returns update

theorem registerTaskProgress_idle
    (idle : ∀ row receivedAt, findTask taskId world.db = some row → isRunning row = true →
      Date.toISOString (env.clock world.draws) ≠ .ok receivedAt) :
    SameDb world (registerTaskProgress env taskId report world).2 := by
  rcases registerTaskProgress_cases env taskId report world with same | running
  · exact same
  · obtain ⟨row, stored, now, written, _, found, running, _, _⟩ := running
    rcases printed : Date.toISOString (env.clock world.draws) with error | receivedAt
    · have clocked : Returns (Service.now env) world (env.clock world.draws)
          (Service.draw world) := Service.returns_now.mpr ⟨rfl, rfl⟩
      rw [registerTaskProgress, bind_of_returns clocked, printed]
      rfl
    · exact absurd printed (idle row receivedAt found running)

/-- The update of the parent stands when the loop throws. -/
theorem registerTaskProgress_keepsReport (report : TaskProgressReport)
    (found : findTask taskId world.db = some row) (running : isRunning row = true)
    (printed : Date.toISOString (env.clock world.draws) = .ok receivedAt) :
    findTask taskId (registerTaskProgress env taskId report world).2.db =
      some (reportedRow env report world receivedAt row) := by
  have sameId : ∀ task, (reportedRow env report world receivedAt task).id = task.id :=
    fun _ => rfl
  have written : findTask taskId (reportedWorld env taskId report world receivedAt).db =
      some (reportedRow env report world receivedAt row) := by
    have writes : (reportedWorld env taskId report world receivedAt).db = { world.db with
        tasks := world.db.tasks.update (fun row => Task.hasId taskId row && isRunning row)
          (reportedRow env report world receivedAt) (progressRow_keeps _ _) } := rfl
    rw [findTask_update sameId writes taskId, found, Option.map_some]
    simp [running, Task.hasId, findTask_id found]
  rw [registerTaskProgress_running found running printed]
  exact (keepsTasks_answerProgress env _ report _ _).1 _ _ written

/-- A report of a running task comes back exactly when every turn passes. -/
theorem registerTaskProgress_returns_iff (found : findTask taskId world.db = some row)
    (running : isRunning row = true)
    (printed : Date.toISOString (env.clock world.draws) = .ok receivedAt) :
    (∃ result after, Returns (registerTaskProgress env taskId report) world result after) ↔
      HandlersPass env taskId report world := by
  unfold Returns
  rw [registerTaskProgress_running found running printed]
  refine (answerProgress_returns_iff env _ report _ _).trans ?_
  constructor
  · intro along other otherAt otherFound _ otherPrinted
    obtain rfl : row = other := Option.some.inj (found.symm.trans otherFound)
    obtain rfl : receivedAt = otherAt := Except.ok.inj (printed.symm.trans otherPrinted)
    exact along
  · intro passes
    exact passes row receivedAt found running printed

theorem running_of_answered {updated : Task}
    (returned : Returns (registerTaskProgress env taskId report) world (some updated) after) :
    ∃ row receivedAt, findTask taskId world.db = some row ∧ isRunning row = true ∧
      Date.toISOString (env.clock world.draws) = .ok receivedAt := by
  simp only [registerTaskProgress, storeProgress, returns_bind, Service.returns_now,
    returns_ofExcept, Service.returns_updateTasksReturning] at returned
  obtain ⟨now, clocked, ⟨rfl, rfl⟩, receivedAt, _, ⟨printed, rfl⟩, hit, written, ⟨isHit, _⟩,
    answered⟩ := returned
  rw [find?_guarded] at isHit
  rcases guarded : (findTask taskId (Service.draw world).db).filter isRunning with _ | row
  · rw [guarded] at isHit
    subst isHit
    cases (returns_pure.mp answered).1
  · obtain ⟨found, running⟩ := Option.filter_eq_some_iff.mp guarded
    exact ⟨row, receivedAt, found, running, printed⟩

/-- What a report that came back did, with or without a transaction around it. -/
theorem progressCall_all {inTransaction : Bool} {updated : Task}
    (returned : Returns (progressCall env inTransaction taskId report) world (some updated) after) :
    ∃ row left stored, findTask taskId world.db = some row ∧
      findTask taskId after.db = some left ∧ stored.toTaskProgressReport = report ∧
      left.progressReports = row.progressReports ++ [stored] ∧
      ∀ index handler, Matches env row report index handler →
        ∃! child, child ∈ after.db.tasks.rows ∧ IsChildFor taskId report index child ∧
          findTask child.id world.db = none := by
  have bare : Returns (registerTaskProgress env taskId report) world (some updated) after := by
    cases inTransaction with
    | false => exact returned
    | true => exact returns_transaction.mp returned
  obtain ⟨row, receivedAt, found, running, printed⟩ := running_of_answered bare
  have stepLeaves : (registerTaskProgress env taskId report world).2 = after :=
    congrArg Prod.snd bare
  have kept := registerTaskProgress_keepsReport report found running printed
  rw [stepLeaves] at kept
  refine ⟨row, _, receivedReport report receivedAt, found, kept, rfl, rfl, ?_⟩
  intro index handler matching
  have yields := yieldsChildren env taskId world report row found ⟨updated, after, bare⟩ index
    handler matching
  rw [reportStep, stepLeaves] at yields
  exact yields

/-- A report of a running task that throws on the bare connection is in the row that is left, and
was not in the row before. -/
theorem not_allOrNothing_of_throws {error : ApiError} (found : findTask taskId world.db = some row)
    (running : isRunning row = true)
    (printed : Date.toISOString (env.clock world.draws) = .ok receivedAt)
    (threw : registerTaskProgress env taskId report world = (.error error, after)) :
    ¬ AllOrNothing env taskId report world false := by
  intro holds
  have same := holds.nothing error after threw
  have kept := registerTaskProgress_keepsReport report found running printed
  have stepLeaves : (registerTaskProgress env taskId report world).2 = after :=
    congrArg Prod.snd threw
  have unchanged : findTask taskId after.db = findTask taskId world.db := by
    unfold findTask
    rw [same]
  rw [stepLeaves, unchanged, found] at kept
  have appended : row.progressReports = row.progressReports ++ [_] :=
    congrArg Task.progressReports (Option.some.inj kept)
  exact absurd appended (by simp)

/-- A report is all-or-nothing exactly when it runs in a transaction or every handler it fires
passes in its turn. -/
theorem registerTaskProgress_allOrNothing_iff (env : Env) (taskId : String)
    (report : TaskProgressReport) (world : World) (inTransaction : Bool) :
    AllOrNothing env taskId report world inTransaction ↔
      inTransaction = true ∨ HandlersPass env taskId report world := by
  constructor
  · intro holds
    cases inTransaction with
    | true => exact .inl rfl
    | false =>
        refine .inr fun row receivedAt found running printed => ?_
        rcases outcome : registerTaskProgress env taskId report world with ⟨error | result, after⟩
        · exact absurd holds (not_allOrNothing_of_throws found running printed outcome)
        · exact (registerTaskProgress_returns_iff found running printed).mp ⟨result, after, outcome⟩
            row receivedAt found running printed
  · intro condition
    refine ⟨?_, fun _ _ => progressCall_all⟩
    intro error after threw
    cases inTransaction with
    | true =>
        rcases transaction_cases (registerTaskProgress env taskId report) world with
          ⟨value, committed, _, returned⟩ | ⟨other, rolledBack⟩
        · cases returned.symm.trans threw
        · cases rolledBack.symm.trans threw
          rfl
    | false =>
        have passes := condition.resolve_left Bool.false_ne_true
        have left : (registerTaskProgress env taskId report world).2 = after :=
          congrArg Prod.snd threw
        by_cases stored : ∃ row receivedAt, findTask taskId world.db = some row ∧
            isRunning row = true ∧ Date.toISOString (env.clock world.draws) = .ok receivedAt
        · obtain ⟨row, receivedAt, found, running, printed⟩ := stored
          obtain ⟨result, reached, returned⟩ :=
            (registerTaskProgress_returns_iff found running printed).mpr passes
          cases returned.symm.trans threw
        · have idle : SameDb world (registerTaskProgress env taskId report world).2 := by
            refine registerTaskProgress_idle fun row receivedAt found running printed => ?_
            exact stored ⟨row, receivedAt, found, running, printed⟩
          rw [left] at idle
          exact congrArg Database.tasks idle

end Call

/-- A running task whose second progress handler names a task its app does not have. -/
def halfHandledReporter : Task :=
  { sampleReporter with
    invocation :=
      { context := .appAction "request"
        onProgress :=
          [{ taskIdentifier := "notify", condition := none, dataTemplate := none },
            { taskIdentifier := "unknown", condition := none, dataTemplate := none }] } }

def halfHandledWorld : World where
  db :=
    { apps := .singleton App.sample
      tasks := .singleton halfHandledReporter }

/-- On the bare connection the call throws with the report stored and the first child inserted. -/
theorem halfHandled_notAllOrNothing :
    (registerTaskProgress Env.sample "parent" sampleReport halfHandledWorld).2.db.tasks.rows.map
          Task.taskIdentifier = ["resize", "notify", "run_serverless_worker"] ∧
      ¬ AllOrNothing Env.sample "parent" sampleReport halfHandledWorld false := by
  refine ⟨by decide +kernel, ?_⟩
  have found : findTask "parent" halfHandledWorld.db = some halfHandledReporter := rfl
  have failed : (registerTaskProgress Env.sample "parent" sampleReport halfHandledWorld).1.isOk =
      false := by
    decide +kernel
  rcases outcome : registerTaskProgress Env.sample "parent" sampleReport halfHandledWorld with
    ⟨error | result, after⟩
  · rcases printed : Date.toISOString (Env.sample.clock halfHandledWorld.draws) with
      unprintable | receivedAt
    · cases printed
    · exact not_allOrNothing_of_throws found rfl printed outcome
  · rw [outcome] at failed
    cases failed

end Lombok.Tasks
