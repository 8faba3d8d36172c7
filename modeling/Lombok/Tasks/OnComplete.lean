import Lombok.Tasks.Lifecycle

/-!
Contract: the children a task's completions insert.

`RowsFrom` is the frame of every task call: each row is an old row, rewritten
under its identity, or a new one. On a completion that returns, the new
completion children are those of the handlers that fire, each under the key of
its parent and handler index; no other call adds any. The key names no attempt,
so a handler that fires on an attempt that is retried leaves a child which the
next attempt collides with.
-/

namespace Lombok.Tasks

open Lombok.Core Lombok.Library Lombok.Library.Action Lombok.Apps Lombok.Events

/-! ### Rows keep their identity -/

/-- The columns no transition writes. -/
structure SameIdentity (before after : Task) : Prop where
  id : after.id = before.id
  ownerId : after.ownerId = before.ownerId
  invocation : after.invocation = before.invocation
  idempotencyKey : after.idempotencyKey = before.idempotencyKey

theorem SameIdentity.refl (task : Task) : SameIdentity task task := ⟨rfl, rfl, rfl, rfl⟩

theorem SameIdentity.trans {first second third : Task} (left : SameIdentity first second)
    (right : SameIdentity second third) : SameIdentity first third :=
  ⟨right.id.trans left.id, right.ownerId.trans left.ownerId,
    right.invocation.trans left.invocation, right.idempotencyKey.trans left.idempotencyKey⟩

theorem completeRow_sameIdentity (task : Task) (completion : TaskCompletion) (now : Date)
    (logs : List SystemLogEntry) (row : Task) :
    SameIdentity row (completeRow task completion now logs row) := by
  cases completion with
  | succeeded result executorMetadata => exact ⟨rfl, rfl, rfl, rfl⟩
  | failed error requeueDelayMs executorMetadata =>
      simp only [completeRow]
      split
      · exact ⟨rfl, rfl, rfl, rfl⟩
      · split <;> exact ⟨rfl, rfl, rfl, rfl⟩

theorem RowStep.sameIdentity {row row' : Task} {call : TaskCall} (step : RowStep row call row') :
    SameIdentity row row' := by
  cases step with
  | started now executorMetadata startable => exact ⟨rfl, rfl, rfl, rfl⟩
  | secured now startable later => exact ⟨rfl, rfl, rfl, rfl⟩
  | heartbeat now context executorMetadata running => exact ⟨rfl, rfl, rfl, rfl⟩
  | progressed now report running => exact ⟨rfl, rfl, rfl, rfl⟩
  | completed completion now logs completable printed =>
      exact completeRow_sameIdentity row completion now logs row

def RowsFrom (newTask : Task → Prop) (before after : World) : Prop :=
  ∀ row ∈ after.db.tasks.rows, ∃ origin, SameIdentity origin row ∧
    (origin ∈ before.db.tasks.rows ∨ newTask origin)

section RowsFrom

variable {newTask : Task → Prop} {before after : World}

theorem RowsFrom.of_same_db (same : after.db = before.db) : RowsFrom newTask before after := by
  intro row member
  grind [SameIdentity.refl]

instance : DatabaseRelation (RowsFrom newTask) where
  refl _ := RowsFrom.of_same_db rfl
  trans _ _ _ first second row member := by
    obtain ⟨middle, middleSame, old | new⟩ := second row member
    · obtain ⟨origin, originSame, source⟩ := first middle old
      exact ⟨origin, originSame.trans middleSame, source⟩
    · exact ⟨middle, middleSame, .inr new⟩
  of_same_db := RowsFrom.of_same_db

theorem RowsFrom.of_grows {newEvent : Event → Prop} (grows : Grows newTask newEvent before after) :
    RowsFrom newTask before after := by
  intro row member
  grind [SameIdentity.refl, grows.tasks]

variable {condition : Task → Bool} {change : Task → Task} {keeps : Keeps Task.clash change}

theorem RowsFrom.of_update (same : ∀ task, SameIdentity task (change task))
    (written : after.db = { before.db with
      tasks := before.db.tasks.update condition change keeps }) :
    RowsFrom newTask before after := by
  intro row member
  rw [written] at member
  have updated : row ∈ (before.db.tasks.update condition change keeps).rows := member
  obtain ⟨old, oldMember, changed⟩ := Table.mem_update.mp updated
  grind [SameIdentity.refl]

theorem RowsFrom.mono {weak : Task → Prop} (rowsFrom : RowsFrom newTask before after)
    (implies : ∀ task, newTask task → weak task) : RowsFrom weak before after := by
  intro row member
  obtain ⟨origin, same, source⟩ := rowsFrom row member
  exact ⟨origin, same, source.imp id (implies origin)⟩

theorem moves_rowsFrom {α : Type} {operation : Service α}
    (moves : ∀ snapshot, Moves (GrowsOver snapshot newTask fun _ => True) operation) :
    Moves (RowsFrom newTask) operation :=
  fun world => ⟨RowsFrom.of_grows (moves_grows moves world).1, fun _ _ => trivial⟩

theorem moves_updateTasksReturning (same : ∀ task, SameIdentity task (change task)) :
    Moves (RowsFrom newTask) (Service.updateTasksReturning condition change keeps) := by
  intro world
  obtain ⟨after, returned, written⟩ :=
    Service.updateTasksReturning_returns condition change keeps world
  refine ⟨?_, fun _ _ => trivial⟩
  rw [returned]
  exact RowsFrom.of_update same written

theorem moves_updateTasks (same : ∀ task, SameIdentity task (change task)) :
    Moves (RowsFrom newTask) (Service.updateTasks condition change keeps) := by
  intro world
  obtain ⟨after, returned, written⟩ := Service.updateTasks_returns condition change keeps world
  refine ⟨?_, fun _ _ => trivial⟩
  rw [returned]
  exact RowsFrom.of_update same written

end RowsFrom

/-! ### Completion children -/

def completionChildIndex (parentTaskId : String) (task : Task) : Option Nat :=
  match task.invocation.context with
  | .taskCompleteChild parent _ _ _ index => if parent = parentTaskId then some index else none
  | _ => none

/-- The row is the completion child of handler `index` of the task. -/
def isCompletionChild (parentTaskId : String) (index : Nat) (task : Task) : Bool :=
  completionChildIndex parentTaskId task == some index

theorem SameIdentity.childIndex {before after : Task} (same : SameIdentity before after)
    (parentTaskId : String) :
    completionChildIndex parentTaskId after = completionChildIndex parentTaskId before := by
  unfold completionChildIndex
  rw [same.invocation]

/-- The row is nobody's completion child. -/
def IsNoChild (task : Task) : Prop := ∀ parentTaskId, completionChildIndex parentTaskId task = none

/-- If the row is a completion child, it is one that the completion of the parent inserts: of a
handler that fires, under the key of the parent and the handler's index. -/
def IsChildOf (env : Env) (parent : Task) (completion : TaskCompletion) (task : Task) : Prop :=
  ∀ parentTaskId index, completionChildIndex parentTaskId task = some index →
    parentTaskId = parent.id ∧ ∃ handler, parent.invocation.onComplete[index]? = some handler ∧
      handlerFires env parent.id completion handler = true ∧
      task.idempotencyKey =
        taskCompleteChildKey env parent.ownerId handler.taskIdentifier parent.id index

theorem IsNoChild.isChildOf {env : Env} {parent : Task} {completion : TaskCompletion} {task : Task}
    (noChild : IsNoChild task) : IsChildOf env parent completion task := by
  intro parentTaskId index child
  rw [noChild parentTaskId] at child
  cases child

theorem IsChildOf.congr {env : Env} {parent other : Task} {completion : TaskCompletion}
    {task : Task} (same : SameIdentity parent other)
    (childOf : IsChildOf env other completion task) : IsChildOf env parent completion task := by
  unfold IsChildOf at *
  rw [same.id, same.ownerId, same.invocation] at childOf
  exact childOf

theorem isNoChild_of_emitted {snapshot : Database} {args : EmitEventArgs} {task : Task}
    (emitted : EmittedTask snapshot args task) : IsNoChild task := by
  intro parentTaskId
  unfold completionChildIndex
  cases emitted with
  | triggered isNested found member row =>
      obtain ⟨context, equal⟩ := row.context
      rw [equal]
  | core row =>
      grind [row.context]

section Handlers

variable (env : Env)

theorem admits_noChild (snapshot : Database) :
    AdmitsAnnounced snapshot IsNoChild fun _ => True :=
  ⟨fun _ _ _ emitted => isNoChild_of_emitted emitted, fun _ _ => trivial⟩

theorem rowsFrom_emitTaskCompletionTelemetry (task : Task) :
    Moves (RowsFrom IsNoChild) (emitTaskCompletionTelemetry env task) :=
  moves_rowsFrom fun _ =>
    grows_emitTaskCompletionTelemetry env task
      (fun _ _ _ emitted => isNoChild_of_emitted emitted) fun _ _ => trivial

theorem completeChildRow_isChildOf {parent : Task} {completion : TaskCompletion}
    {handler : TaskOnCompleteConfig} {handlerIndex : Nat}
    (declared : parent.invocation.onComplete[handlerIndex]? = some handler)
    (fires : handlerFires env parent.id completion handler = true) (success : Bool)
    (taskDefinition : AppTaskConfig) (id : String) (data : Json) (now : Date) :
    IsChildOf env parent completion
      ((completeChildRow parent success handler handlerIndex taskDefinition id data now).withKey
        (taskCompleteChildKey env parent.ownerId handler.taskIdentifier parent.id
          handlerIndex)) := by
  intro parentTaskId index child
  grind [completionChildIndex, completeChildRow, Task.withKey]

theorem rowsFrom_executeOnCompleteHandlers (parent : Task) (completion : TaskCompletion) :
    Moves (RowsFrom (IsChildOf env parent completion))
      (executeOnCompleteHandlers env parent completion) := by
  refine moves_rowsFrom fun snapshot => ?_
  have admits : AdmitsAnnounced snapshot (IsChildOf env parent completion) fun _ => True :=
    ⟨fun nested isNested created emitted =>
      ((admits_noChild snapshot).tasks nested isNested created emitted).isChildOf,
      fun _ _ => trivial⟩
  grind [grows_executeOnCompleteHandlers, completeChildRow_isChildOf]

end Handlers

/-! ### Calls -/

section Calls

variable {env : Env} {before after : World}

theorem rowsFrom_complete {taskId : String} {completion : TaskCompletion} {result : Task}
    (returned : Returns (registerTaskCompleted env taskId completion) before result after) :
    ∃ row, findTask taskId before.db = some row ∧ isCompletable row = true ∧
      RowsFrom (IsChildOf env row completion) before after := by
  obtain ⟨row, now, logs, written, announced, handled, committed, _, run, telemetry⟩ :=
    registerTaskCompleted_returns returned
  refine ⟨row, run.found, run.completable, ?_⟩
  have first : RowsFrom (IsChildOf env row completion) before written :=
    RowsFrom.of_update (completeRow_sameIdentity row completion now logs) run.writes
  have second : RowsFrom IsNoChild written announced :=
    ((moves_rowsFrom fun snapshot => grows_announceRequeued env (admits_noChild snapshot) _
      _).of_returns run.announces).1
  have third : RowsFrom (IsChildOf env row completion) announced handled :=
    ((rowsFrom_executeOnCompleteHandlers env _ completion).of_returns run.handles).1.mono
      fun _ => IsChildOf.congr (completeRow_sameIdentity row completion now logs row)
  have fourth : RowsFrom (IsChildOf env row completion) handled committed :=
    RowsFrom.of_same_db run.rest
  have fifth : RowsFrom IsNoChild committed after :=
    ((rowsFrom_emitTaskCompletionTelemetry env result).of_returns telemetry).1
  have weaken : ∀ task, IsNoChild task → IsChildOf env row completion task :=
    fun _ => IsNoChild.isChildOf
  exact IsTrans.trans _ _ _ first (IsTrans.trans _ _ _ (second.mono weaken)
    (IsTrans.trans _ _ _ third (IsTrans.trans _ _ _ fourth (fifth.mono weaken))))

theorem rowsFrom_registerTaskProgress (env : Env) (taskId : String) (report : TaskProgressReport) :
    Moves (RowsFrom IsNoChild) (registerTaskProgress env taskId report) := by
  refine Moves.bind (Service.moves_now env) fun now => ?_
  refine Moves.bind (moves_ofExcept _) fun receivedAt => ?_
  refine Moves.bind (moves_updateTasksReturning fun _ => ⟨rfl, rfl, rfl, rfl⟩) fun updated => ?_
  split
  · exact moves_pure none
  · exact moves_rowsFrom fun snapshot =>
      grows_answerProgress env (admits_noChild snapshot) _ report _
        fun _ _ _ _ _ _ _ _ _ => rfl

theorem rowsFrom_registerTaskStarted (env : Env) (taskId : String) (executorMetadata : Json) :
    Moves (RowsFrom IsNoChild) (registerTaskStarted env taskId executorMetadata) := by
  refine Ensures.transaction ?_
  refine Moves.bind (Service.moves_query _) fun found => ?_
  refine Moves.bind (moves_orThrow _ _) fun task => ?_
  refine Moves.bind (moves_require _ _) fun _ => ?_
  refine Moves.bind (Service.moves_now env) fun now => ?_
  refine Moves.bind (moves_updateTasksReturning fun _ => ⟨rfl, rfl, rfl, rfl⟩) fun updated => ?_
  refine Moves.bind (moves_orThrow _ _) fun updatedTask => ?_
  exact Moves.bind (moves_handleTaskUpdate updatedTask) fun _ => moves_pure updatedTask

theorem rowsFrom_registerHeartbeat (env : Env) (taskId : String)
    (context : Option HeartbeatContext) (executorMetadata : Option Json) :
    Moves (RowsFrom IsNoChild) (registerHeartbeat env taskId context executorMetadata) := by
  refine Ensures.transaction ?_
  refine Moves.bind (Service.moves_query _) fun found => ?_
  refine Moves.bind (moves_orThrow _ _) fun task => ?_
  refine Moves.bind (moves_require _ _) fun _ => ?_
  refine Moves.bind (Service.moves_now env) fun now => ?_
  refine Moves.bind (moves_updateTasksReturning fun _ => ⟨rfl, rfl, rfl, rfl⟩) fun updated => ?_
  exact moves_orThrow _ _

theorem rowsFrom_drainCoreTask (env : Env) (taskId : String) :
    Moves (RowsFrom IsNoChild) (drainCoreTask env taskId) := by
  refine Moves.bind (Service.moves_now env) fun now => ?_
  refine Moves.bind (Service.moves_query _) fun found => ?_
  split
  · refine Moves.bind (Service.moves_query _) fun found => ?_
    refine Moves.bind (moves_orThrow _ _) fun task => ?_
    split
    · exact moves_pure none
    · split
      · exact moves_pure none
      · refine Moves.bind (Service.moves_now env) fun startedTimestamp => ?_
        have starts : Moves (RowsFrom IsNoChild) (startCoreTaskInTx taskId startedTimestamp) := by
          refine Ensures.transaction ?_
          refine Moves.bind (moves_updateTasksReturning fun _ => ⟨rfl, rfl, rfl, rfl⟩) fun _ => ?_
          exact Moves.bind (moves_updateTasks fun _ => ⟨rfl, rfl, rfl, rfl⟩) fun _ => moves_pure _
        refine Moves.bind starts fun updated => ?_
        exact Moves.bind (moves_orThrow _ _) fun startedTask => moves_pure _
  · exact moves_pure none

/-- Whatever a call other than a completion that returns does, it inserts no completion child. -/
theorem rowsFrom_perform (env : Env) (world : World) (call : TaskCall)
    (noReturn : ¬ CompletionReturns env world call) :
    RowsFrom IsNoChild world (call.step env world) := by
  unfold TaskCall.step
  cases call with
  | start taskId executorMetadata =>
      rw [TaskCall.perform, discard_state]
      exact (rowsFrom_registerTaskStarted env taskId executorMetadata world).1
  | secure taskId =>
      rw [TaskCall.perform, discard_state]
      exact (rowsFrom_drainCoreTask env taskId world).1
  | heartbeat taskId context executorMetadata =>
      rw [TaskCall.perform, discard_state]
      exact (rowsFrom_registerHeartbeat env taskId context executorMetadata world).1
  | progress taskId report =>
      rw [TaskCall.perform, discard_state]
      exact (rowsFrom_registerTaskProgress env taskId report world).1
  | complete taskId completion =>
      rw [TaskCall.perform, discard_state]
      rcases registerTaskCompleted_cases env taskId completion world with
        ⟨result, after, returned⟩ | ⟨error, failed⟩
      · exact absurd ⟨taskId, completion, result, after, rfl, returned⟩ noReturn
      · rw [failed]
        exact Std.Refl.refl world

end Calls

/-! ### Children over a run -/

def NoChildren (taskId : String) (world : World) : Prop :=
  ∀ row ∈ world.db.tasks.rows, completionChildIndex taskId row = none

/-- The call fails on a unique constraint, while one of the handlers it fires has left its child
on an earlier attempt. -/
def RejectedByOwnChild (env : Env) (taskId : String) (world : World) (call : TaskCall) : Prop :=
  ∃ completion row handler index child constraint, call = .complete taskId completion ∧
    findTask taskId world.db = some row ∧ isCompletable row = true ∧
    row.invocation.onComplete[index]? = some handler ∧
    handlerFires env taskId completion handler = true ∧
    child ∈ world.db.tasks.rows ∧ isCompletionChild taskId index child = true ∧
    (registerTaskCompleted env taskId completion world).1 = .error (.uniqueViolation constraint)

/-- `RejectedByOwnChild` for one handler index, evaluated. -/
def rejectsForChild (env : Env) (taskId : String) (completion : TaskCompletion) (index : Nat)
    (world : World) : Bool :=
  (findTask taskId world.db).any (fun row => isCompletable row &&
      (row.invocation.onComplete[index]?).any (handlerFires env taskId completion)) &&
    world.db.tasks.rows.any (isCompletionChild taskId index) &&
    match (registerTaskCompleted env taskId completion world).1 with
    | .error (.uniqueViolation _) => true
    | _ => false

theorem rejectedByOwnChild_of_check {env : Env} {taskId : String} {completion : TaskCompletion}
    {index : Nat} {world : World}
    (check : rejectsForChild env taskId completion index world = true) :
    RejectedByOwnChild env taskId world (.complete taskId completion) := by
  simp only [rejectsForChild, Bool.and_eq_true, Option.any_eq_true, List.any_eq_true] at check
  obtain ⟨⟨⟨row, found, completable, handler, declared, fires⟩, child, member, isChild⟩,
    outcome⟩ := check
  split at outcome
  · rename_i constraint violated
    exact ⟨completion, row, handler, index, child, constraint, rfl, found, completable, declared,
      fires, member, isChild, violated⟩
  · cases outcome

def InsertsAtEnd (taskId : String) (before after : World) : Prop :=
  ∀ child ∈ after.db.tasks.rows, (completionChildIndex taskId child).isSome = true →
    (∃ old ∈ before.db.tasks.rows, old.id = child.id) ∨
      ∃ row, findTask taskId after.db = some row ∧ IsTerminal row

/-- What the handlers of the task are to do, in one call. -/
def HandlesOnce (env : Env) (taskId : String) (world : World) (call : TaskCall) : Prop :=
  ¬ RejectedByOwnChild env taskId world call ∧
    InsertsAtEnd taskId world (call.step env world)

def FiresAtEnd (env : Env) (taskId : String) (world : World) (call : TaskCall) : Prop :=
  ∀ completion row handler, call = .complete taskId completion →
    CompletionReturns env world call → findTask taskId world.db = some row →
    handler ∈ row.invocation.onComplete → handlerFires env taskId completion handler = true →
    requeueRequested completion = false

theorem RowStep.staysCompleted {row row' : Task} {call : TaskCall} (step : RowStep row call row')
    (completed : row.completedAt.isSome = true) : row'.completedAt.isSome = true := by
  cases step with
  | started now executorMetadata startable => exact completed
  | secured now startable later => exact completed
  | heartbeat now context executorMetadata running => exact completed
  | progressed now report running => exact completed
  | completed completion now logs completable printed =>
      simp only [isCompletable, Bool.and_eq_true, Option.isNone_iff_eq_none] at completable
      rw [completable.1.2] at completed
      cases completed

section Step

variable {env : Env} {taskId : String} {world : World} {call : TaskCall}

theorem child_origin {child : Task} {index : Nat}
    (member : child ∈ (call.step env world).db.tasks.rows)
    (isChild : completionChildIndex taskId child = some index) :
    (∃ old ∈ world.db.tasks.rows, SameIdentity old child) ∨
      ∃ completion row handler, call = .complete taskId completion ∧
        CompletionReturns env world call ∧ findTask taskId world.db = some row ∧
        row.invocation.onComplete[index]? = some handler ∧
        handlerFires env taskId completion handler = true ∧
        child.idempotencyKey =
          taskCompleteChildKey env row.ownerId handler.taskIdentifier taskId index := by
  by_cases returns : CompletionReturns env world call
  · obtain ⟨parentId, completion, result, after, rfl, returned⟩ := id returns
    obtain ⟨row, found, _, rowsFrom⟩ := rowsFrom_complete returned
    rw [complete_step_of_returns returned] at member
    obtain ⟨origin, same, old | new⟩ := rowsFrom child member
    · exact .inl ⟨origin, old, same⟩
    · have originChild := (same.childIndex taskId).symm.trans isChild
      obtain ⟨taskIdEqual, handler, declared, fires, key⟩ := new taskId index originChild
      have parentIdEqual : parentId = taskId := (findTask_id found).symm.trans taskIdEqual.symm
      subst parentIdEqual
      rw [← taskIdEqual] at fires key
      exact .inr ⟨completion, row, handler, rfl, returns, found, declared, fires,
        same.idempotencyKey.trans key⟩
  · obtain ⟨origin, same, old | new⟩ := rowsFrom_perform env world call returns child member
    · exact .inl ⟨origin, old, same⟩
    · have originChild := (same.childIndex taskId).symm.trans isChild
      rw [new taskId] at originChild
      cases originChild

/-- The task is there, and as long as it is not completed it has no children. -/
def ChildlessUntilEnd (taskId : String) (world : World) : Prop :=
  ∃ row, findTask taskId world.db = some row ∧ (row.completedAt = none → NoChildren taskId world)

theorem terminal_of_plain {completion : TaskCompletion}
    (plain : requeueRequested completion = false)
    (returns : CompletionReturns env world (.complete taskId completion)) :
    ∃ row, findTask taskId (TaskCall.step env world (.complete taskId completion)).db = some row ∧
      IsTerminal row := by
  obtain ⟨_, _, result, after, equal, returned⟩ := returns
  grind [registerTaskCompleted_row, completeRow_terminal, complete_step_of_returns, IsTerminal]

theorem ChildlessUntilEnd.step (childless : ChildlessUntilEnd taskId world)
    (firesAtEnd : FiresAtEnd env taskId world call) :
    ChildlessUntilEnd taskId (call.step env world) := by
  obtain ⟨row, found, none_⟩ := childless
  obtain ⟨row', found', tracked⟩ := perform_tracks env world call taskId row found
  refine ⟨row', found', ?_⟩
  intro uncompleted' child member
  have uncompleted : row.completedAt = none := by
    rcases tracked with same | step
    · rw [← same]
      exact uncompleted'
    · rw [← Option.not_isSome_iff_eq_none]
      intro completed
      have stays := step.staysCompleted completed
      rw [uncompleted'] at stays
      cases stays
  rcases isChild : completionChildIndex taskId child with _ | index
  · rfl
  · exfalso
    rcases child_origin member isChild with ⟨old, oldMember, same⟩ | fired
    · have oldChild := (same.childIndex taskId).symm.trans isChild
      rw [none_ uncompleted old oldMember] at oldChild
      cases oldChild
    · obtain ⟨completion, parent, handler, rfl, returns, parentFound, declared, fires, _⟩ := fired
      have plain := firesAtEnd completion parent handler rfl returns parentFound
        (List.mem_of_getElem? declared) fires
      obtain ⟨ended, endedFound, terminal⟩ := terminal_of_plain plain returns
      have endedEqual : row' = ended := Option.some.inj (found'.symm.trans endedFound)
      have completed := terminal.1
      grind

theorem ChildlessUntilEnd.handlesOnce (childless : ChildlessUntilEnd taskId world)
    (firesAtEnd : FiresAtEnd env taskId world call) : HandlesOnce env taskId world call := by
  obtain ⟨row, found, none_⟩ := childless
  constructor
  · rintro ⟨completion, same, handler, index, child, constraint, rfl, sameFound, completable, _, _,
      member, isChild, _⟩
    have rowEqual : row = same := Option.some.inj (found.symm.trans sameFound)
    simp only [isCompletable, Bool.and_eq_true, Option.isNone_iff_eq_none] at completable
    have noChild := none_ (by rw [rowEqual]; exact completable.1.2) child member
    rw [isCompletionChild, noChild] at isChild
    cases isChild
  · intro child member isChild
    obtain ⟨index, childIndex⟩ := Option.isSome_iff_exists.mp isChild
    rcases child_origin member childIndex with ⟨old, oldMember, same⟩ | fired
    · exact .inl ⟨old, oldMember, same.id.symm⟩
    · obtain ⟨completion, parent, handler, rfl, returns, parentFound, declared, fires, _⟩ := fired
      have plain := firesAtEnd completion parent handler rfl returns parentFound
        (List.mem_of_getElem? declared) fires
      exact .inr (terminal_of_plain plain returns)

end Step

/-! ### A handler that fires leaves a child -/

variable {env : Env} {before after : World} {parent : Task} {world : World}

theorem findTask_of_insertTask {task : Task}
    (returned : Returns (Service.insertTask task) before () after) :
    findTask task.id before.db = none ∧ findTask task.id after.db = some task := by
  obtain ⟨fresh, rows⟩ := Service.returns_insertTask returned
  have missing : findTask task.id before.db = none := by
    refine List.find?_eq_none.mpr ?_
    grind [Task.clash, Task.hasId]
  refine ⟨missing, findTask_of_mem ?_⟩
  rw [rows]
  simp

theorem insertAndAnnounce_returns {task result : Task}
    (returned : Returns (insertAndAnnounce env task) before result after) :
    findTask task.id before.db = none ∧ findTask task.id after.db = some task := by
  simp only [insertAndAnnounce, returns_bind, returns_pure] at returned
  obtain ⟨_, written, inserts, _, recorded, records, _, announced, announces, rfl, rfl⟩ := returned
  obtain ⟨missing, present⟩ := findTask_of_insertTask inserts
  have recordedKeeps : KeepsTasks written recorded :=
    ((Service.moves_record _ _).of_returns records).1
  have announcedKeeps := ((keepsTasks_announce env _).of_returns announces).1
  exact ⟨missing, announcedKeeps _ _ (recordedKeeps _ _ present)⟩

theorem executeOnCompleteHandler_inserts {success : Bool} {handler : TaskOnCompleteConfig}
    {handlerIndex : Nat}
    (returned : Returns (executeOnCompleteHandler env parent success handler handlerIndex) before
      () after) :
    ∃ child, completionChildIndex parent.id child = some handlerIndex ∧
      findTask child.id before.db = none ∧ findTask child.id after.db = some child := by
  simp only [executeOnCompleteHandler, returns_bind, returns_pure, returns_ofExcept,
    Service.returns_query, Service.returns_check, Service.returns_now] at returned
  obtain ⟨taskDefinition, before, ⟨_, rfl⟩, now, clocked, ⟨rfl, rfl⟩, id, drawn, draws, _, drawn,
    ⟨rfl, rfl⟩, data, drawn, ⟨_, rfl⟩, child, keyed, keys, _, after, inserts, _, rfl⟩ := returned
  obtain ⟨isChild, rfl⟩ := returns_pure.mp keys
  obtain ⟨missing, present⟩ := insertAndAnnounce_returns inserts
  have drawnDb : SameDb (Service.draw before) keyed :=
    ((Service.moves_randomUUID env : Moves SameDb _).of_returns draws).1
  rw [drawnDb] at missing
  refine ⟨child, ?_, missing, present⟩
  rw [isChild]
  simp [completionChildIndex, completeChildRow, Task.withKey]

theorem fired_inserts {taskId : String} {completion : TaskCompletion} {result : Task} {row : Task}
    {handler : TaskOnCompleteConfig}
    (returned : Returns (registerTaskCompleted env taskId completion) before result after)
    (found : findTask taskId before.db = some row) (member : handler ∈ row.invocation.onComplete)
    (fires : handlerFires env taskId completion handler = true) :
    ∃ child ∈ after.db.tasks.rows, (completionChildIndex taskId child).isSome = true ∧
      findTask child.id before.db = none := by
  obtain ⟨same, now, logs, written, announced, handled, committed, _, run, telemetry⟩ :=
    registerTaskCompleted_returns returned
  have rowEqual : same = row := Option.some.inj (run.found.symm.trans found)
  subst rowEqual
  have identity := completeRow_sameIdentity same completion now logs same
  have parentId : (completeRow same completion now logs same).id = taskId :=
    identity.id.trans (findTask_id found)
  obtain ⟨index, declared⟩ := List.mem_iff_getElem?.mp member
  have indexed : (handler, index) ∈
      (completeRow same completion now logs same).invocation.onComplete.zipIdx := by
    rw [identity.invocation]
    exact List.mem_zipIdx_iff_getElem?.mpr declared
  obtain ⟨reached, left, toReached, execution, onward⟩ :=
    returns_each_mem run.handles
      (fun indexed _ => keepsTasks_completeTurn env _ completion indexed) indexed
  simp only [parentId, fires, ↓reduceIte] at execution
  obtain ⟨child, childIndex, missing, present⟩ := executeOnCompleteHandler_inserts execution
  rw [parentId] at childIndex
  have telemetryKeeps :=
    ((keepsTasks_emitTaskCompletionTelemetry env result).of_returns telemetry).1
  have restKeeps : KeepsTasks handled committed := DatabaseRelation.of_same_db run.rest
  have kept := telemetryKeeps _ _ (restKeeps _ _ (onward _ _ present))
  refine ⟨child, List.mem_of_find?_eq_some kept, by simp [childIndex], ?_⟩
  rw [← Option.not_isSome_iff_eq_none, Option.isSome_iff_exists]
  rintro ⟨old, oldFound⟩
  have announcedKeeps := ((keepsTasks_announceRequeued env _ _).of_returns run.announces).1
  have oldWritten : ∃ row, findTask child.id written.db = some row := by
    rw [run.rewrites child.id, oldFound]
    split
    · exact ⟨_, rfl⟩
    · exact ⟨_, rfl⟩
  obtain ⟨oldRow, oldRowFound⟩ := oldWritten
  have stays := toReached _ _ (announcedKeeps _ _ oldRowFound)
  rw [missing] at stays
  cases stays

theorem HandlesOnce.firesAtEnd {taskId : String} {call : TaskCall}
    (handlesOnce : HandlesOnce env taskId world call) : FiresAtEnd env taskId world call := by
  rintro completion row handler rfl ⟨_, _, result, after, equal, returned⟩ found member fires
  cases equal
  obtain ⟨child, childMember, isChild, missing⟩ := fired_inserts returned found member fires
  have atEnd := handlesOnce.2
  rw [complete_step_of_returns returned] at atEnd
  rcases atEnd child childMember isChild with ⟨old, oldMember, oldId⟩ |
      ⟨ended, endedFound, terminal⟩
  · grind [findTask_of_mem]
  · obtain ⟨same, now, logs, sameFound, completable, _, left⟩ := registerTaskCompleted_row returned
    have endedEqual : ended = _ := Option.some.inj (endedFound.symm.trans left)
    have unresolved := terminal.1
    rw [endedEqual] at unresolved
    simp only [isCompletable, Bool.and_eq_true, Option.isNone_iff_eq_none] at completable
    rcases requeue_cases same completion with plain | requeued | refused
    · exact plain
    · have reset := (completeRow_requeued same now logs requeued).1
      rw [reset.2.2] at unresolved
      cases unresolved
    · grind [completeRow_refused]

/-! ### One child a handler -/

def ChildrenKeyed (env : Env) (parent : Task) (world : World) : Prop :=
  (∃ row, findTask parent.id world.db = some row ∧ SameIdentity parent row) ∧
    ∀ child ∈ world.db.tasks.rows, ∀ index, completionChildIndex parent.id child = some index →
      ∃ handler, parent.invocation.onComplete[index]? = some handler ∧
        child.idempotencyKey =
          taskCompleteChildKey env parent.ownerId handler.taskIdentifier parent.id index

theorem ChildrenKeyed.step (call : TaskCall) (keyed : ChildrenKeyed env parent world) :
    ChildrenKeyed env parent (TaskCall.step env world call) := by
  obtain ⟨⟨row, found, identity⟩, childKeys⟩ := keyed
  obtain ⟨row', found', tracked⟩ := perform_tracks env world call parent.id row found
  refine ⟨⟨row', found', ?_⟩, ?_⟩
  · rcases tracked with same | step
    · rw [same]
      exact identity
    · exact identity.trans step.sameIdentity
  · intro child member index isChild
    rcases child_origin member isChild with ⟨old, oldMember, same⟩ | fired
    · have oldChild := (same.childIndex parent.id).symm.trans isChild
      simp [same.idempotencyKey.trans, childKeys, oldMember, oldChild]
    · obtain ⟨completion, other, handler, _, _, otherFound, declared, _, key⟩ := fired
      have otherEqual : row = other := Option.some.inj (found.symm.trans otherFound)
      grind [identity.invocation, identity.ownerId]

theorem ChildrenKeyed.one (keyed : ChildrenKeyed env parent world) (index : Nat) :
    (world.db.tasks.view (isCompletionChild parent.id index)).length ≤ 1 := by
  refine Table.view_length_le_one _ ?_
  intro left leftMember right rightMember leftChild rightChild
  have leftIndex : completionChildIndex parent.id left = some index := by
    simpa [isCompletionChild] using leftChild
  have rightIndex : completionChildIndex parent.id right = some index := by
    simpa [isCompletionChild] using rightChild
  obtain ⟨handler, declared, leftKey⟩ := keyed.2 left leftMember index leftIndex
  obtain ⟨other, otherDeclared, rightKey⟩ := keyed.2 right rightMember index rightIndex
  have sameHandler : handler = other := Option.some.inj (declared.symm.trans otherDeclared)
  rw [← sameHandler] at rightKey
  simp [Task.clash, leftKey, rightKey]

/-- From a task without children, every run handles its completions once exactly when none of
those that fire a handler asks for a requeue; and a handler never has two children. -/
theorem onComplete_once (env : Env) (start : World) (calls : List TaskCall) {row : Task}
    (found : findTask row.id start.db = some row) (childless : NoChildren row.id start) :
    (AlongRun (TaskCall.step env) (HandlesOnce env row.id) start calls ↔
        AlongRun (TaskCall.step env) (FiresAtEnd env row.id) start calls) ∧
      ∀ index, ((run (TaskCall.step env) start calls).db.tasks.view
        (isCompletionChild row.id index)).length ≤ 1 := by
  have childlessStart : ChildlessUntilEnd row.id start := ⟨row, found, fun _ => childless⟩
  have keyedStart : ChildrenKeyed env row start := by
    refine ⟨⟨row, found, SameIdentity.refl row⟩, ?_⟩
    intro child member index isChild
    rw [childless child member] at isChild
    cases isChild
  have childlessKept : ∀ world call, ChildlessUntilEnd row.id world →
      FiresAtEnd env row.id world call →
      ChildlessUntilEnd row.id (TaskCall.step env world call) :=
    fun _ _ => ChildlessUntilEnd.step
  have keyedKept : ∀ world call, ChildrenKeyed env row world →
      ChildrenKeyed env row (TaskCall.step env world call) :=
    fun _ call => ChildrenKeyed.step call
  refine ⟨⟨AlongRun.imp fun _ _ => HandlesOnce.firesAtEnd, fun firesAtEnd => ?_⟩, fun index => ?_⟩
  · exact AlongRun.of_invariant childlessKept (fun _ _ => ChildlessUntilEnd.handlesOnce)
      childlessStart firesAtEnd
  · exact (run_invariant keyedKept keyedStart calls).one index

/-- An app task with one unconditional completion handler. -/
def sampleParent : Task where
  id := "parent"
  ownerId := App.sample.identifier
  taskIdentifier := "resize"
  taskDescription := "Resize"
  data := .obj []
  invocation :=
    { context := .appAction "request"
      onComplete := [.mk "notify" none none []] }
  idempotencyKey := "app_action:key"
  createdAt := 0
  updatedAt := 0
  handlerType := .runtime
  handlerIdentifier := some "worker"

def sampleParentWorld : World where
  db :=
    { apps := .singleton App.sample
      tasks := .singleton sampleParent }

theorem sampleParent_childless : NoChildren "parent" sampleParentWorld := by
  intro row member
  rw [List.mem_singleton.mp member]
  rfl

theorem onComplete_once_parent :
    (AlongRun (TaskCall.step Env.sample) (HandlesOnce Env.sample "parent") sampleParentWorld
          [.start "parent" systemExecutorMetadata] ↔
        AlongRun (TaskCall.step Env.sample) (FiresAtEnd Env.sample "parent") sampleParentWorld
          [.start "parent" systemExecutorMetadata]) ∧
      ∀ index, ((run (TaskCall.step Env.sample) sampleParentWorld
        [.start "parent" systemExecutorMetadata]).db.tasks.view
          (isCompletionChild "parent" index)).length ≤ 1 := by
  have found : findTask sampleParent.id sampleParentWorld.db = some sampleParent := rfl
  exact onComplete_once Env.sample sampleParentWorld [.start "parent" systemExecutorMetadata] found
    sampleParent_childless

/-- A first attempt that is retried, and the start of the second one. -/
def retriedOnce : List TaskCall :=
  [.start "parent" systemExecutorMetadata, .complete "parent" sampleRetry,
    .start "parent" systemExecutorMetadata]

/-- The retried attempt left a child, and the success of the second attempt is rejected for it. -/
theorem retriedHandler_rejects :
    NoChildren "parent" sampleParentWorld ∧
      ¬ AlongRun (TaskCall.step Env.sample) (HandlesOnce Env.sample "parent") sampleParentWorld
        (retriedOnce ++ [.complete "parent" (.succeeded none systemExecutorMetadata)]) := by
  refine ⟨sampleParent_childless, ?_⟩
  rw [alongRun_iff_split]
  intro handlesOnce
  have last := handlesOnce retriedOnce
    (.complete "parent" (.succeeded none systemExecutorMetadata)) [] rfl
  have rejects : rejectsForChild Env.sample "parent" (.succeeded none systemExecutorMetadata) 0
      (run (TaskCall.step Env.sample) sampleParentWorld retriedOnce) = true := by
    decide +kernel
  exact last.1 (rejectedByOwnChild_of_check rejects)

end Lombok.Tasks
