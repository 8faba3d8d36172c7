import Mathlib.Data.Set.Function
import Lombok.Tasks.OnComplete

/-!
Contract: the children the progress reports of a running task insert.

A report that is answered inserts one child for each handler it fires, under a
key made of the parent, the handler's index and the report's optional code and
timestamp. Reports that agree in both therefore compete for one key, whatever
else they say, and the later one is refused.

Does not own: the row update of a report (see `Transitions`).
-/

namespace Lombok.Tasks

open Lombok.Core Lombok.Library Lombok.Library.Action Lombok.Apps Lombok.Events

/-! ### Progress children -/

def progressChildOf (parentTaskId : String) (task : Task) :
    Option (Nat × ReceivedTaskProgressReport) :=
  match task.invocation.context with
  | .taskProgressChild parent _ report index =>
      if parent = parentTaskId then some (index, report) else none
  | _ => none

theorem progressChildOf_eq_some {parentTaskId : String} {task : Task} {index : Nat}
    {report : ReceivedTaskProgressReport}
    (isChild : progressChildOf parentTaskId task = some (index, report)) :
    ∃ parentIdentifier,
      task.invocation.context = .taskProgressChild parentTaskId parentIdentifier report index := by
  grind [progressChildOf]

theorem SameIdentity.progressChildOf {before after : Task} (same : SameIdentity before after)
    (parentTaskId : String) :
    progressChildOf parentTaskId after = progressChildOf parentTaskId before := by
  unfold Lombok.Tasks.progressChildOf
  rw [same.invocation]

def NoProgressChildren (taskId : String) (world : World) : Prop :=
  ∀ row ∈ world.db.tasks.rows, progressChildOf taskId row = none

/-- The handler of that index runs for the report. -/
def Matches (env : Env) (row : Task) (report : TaskProgressReport) (index : Nat)
    (handler : TaskOnProgressConfig) : Prop :=
  row.invocation.onProgress[index]? = some handler ∧
    progressHandlerFires env report row.data handler = true

def reportKey (env : Env) (row : Task) (report : TaskProgressReport) (index : Nat)
    (handler : TaskOnProgressConfig) : String :=
  taskProgressChildKey env row.ownerId handler.taskIdentifier row.id index report.code
    report.timestamp

def IsReportChild (env : Env) (parent : Task) (report : TaskProgressReport) (task : Task) : Prop :=
  KindFirst task ∧ ∀ parentTaskId index stored,
    progressChildOf parentTaskId task = some (index, stored) →
      parentTaskId = parent.id ∧ stored.toTaskProgressReport = report ∧
        ∃ handler, Matches env parent report index handler ∧
          task.idempotencyKey = reportKey env parent report index handler

theorem isReportChild_of_emitted (env : Env) (parent : Task) (report : TaskProgressReport)
    {snapshot : Database} {args : EmitEventArgs} {task : Task}
    (emitted : EmittedTask snapshot args task) : IsReportChild env parent report task := by
  cases emitted with
  | triggered isNested found member row =>
      refine ⟨row.kindFirst, ?_⟩
      grind [progressChildOf_eq_some, row.context]
  | core row =>
      refine ⟨row.kindFirst, ?_⟩
      grind [progressChildOf_eq_some, row.context]

theorem progressChildRow_isReportChild {env : Env} {parent : Task}
    {stored : ReceivedTaskProgressReport} {index : Nat} {handler : TaskOnProgressConfig}
    (matching : Matches env parent stored.toTaskProgressReport index handler)
    (taskDefinition : AppTaskConfig) (id : String) (data : Json) (now : Date) :
    IsReportChild env parent stored.toTaskProgressReport
      ((progressChildRow parent stored handler index taskDefinition id data now).withKey
        (taskProgressChildKey env parent.ownerId handler.taskIdentifier parent.id index stored.code
          stored.timestamp)) := by
  refine ⟨⟨_, rfl⟩, ?_⟩
  intro parentTaskId position report isChild
  obtain ⟨parentIdentifier, isProgress⟩ := progressChildOf_eq_some isChild
  cases isProgress
  exact ⟨rfl, rfl, handler, matching, rfl⟩

theorem IsReportChild.congr {env : Env} {parent other : Task} {report : TaskProgressReport}
    {task : Task} (same : SameIdentity parent other) (sameData : other.data = parent.data)
    (child : IsReportChild env other report task) : IsReportChild env parent report task := by
  unfold IsReportChild Matches reportKey at *
  rw [same.id, same.ownerId, same.invocation, sameData] at child
  exact child

/-! ### One report -/

section Report

variable {env : Env} {taskId : String} {report : TaskProgressReport} {world : World}

theorem rowsFrom_answerProgress (env : Env) (parent : Task) (stored : ReceivedTaskProgressReport) :
    Moves (RowsFrom (IsReportChild env parent stored.toTaskProgressReport))
      (answerProgress env stored.toTaskProgressReport stored parent) := by
  refine moves_rowsFrom fun snapshot => ?_
  refine grows_answerProgress env ⟨?_, fun _ _ => trivial⟩ parent _ stored ?_
  · grind [isReportChild_of_emitted]
  · intro index handler declared fires
    exact progressChildRow_isReportChild ⟨declared, fires⟩

/-- The rows a report leaves: those that were there, and the children it inserts. -/
theorem rowsFrom_report {row : Task} (found : findTask taskId world.db = some row) :
    RowsFrom (IsReportChild env row report) world (registerTaskProgress env taskId report
        world).2 := by
  rcases registerTaskProgress_cases env taskId report world with
    same | ⟨hit, stored, now, written, isReport, hitFound, running, writes, after⟩
  · exact RowsFrom.of_same_db same
  · have rowEqual : row = hit := Option.some.inj (found.symm.trans hitFound)
    subst rowEqual
    rw [after, ← isReport]
    have keepsIdentity : ∀ task, SameIdentity task (progressRow now stored task) :=
      fun _ => ⟨rfl, rfl, rfl, rfl⟩
    have first : RowsFrom (IsReportChild env row stored.toTaskProgressReport) world written :=
      RowsFrom.of_update keepsIdentity writes
    have second := ((rowsFrom_answerProgress env (progressRow now stored row) stored) written).1
    exact IsTrans.trans _ _ _ first (second.mono fun task =>
      IsReportChild.congr ⟨rfl, rfl, rfl, rfl⟩ rfl)

theorem report_tracks (taskId : String) (report : TaskProgressReport) (world : World) {row : Task}
    (found : findTask row.id world.db = some row) (running : isRunning row = true) :
    ∃ row', findTask row.id (registerTaskProgress env taskId report world).2.db = some row' ∧
      SameIdentity row row' ∧ row'.data = row.data ∧ isRunning row' = true := by
  obtain ⟨row', found', tracked⟩ := tracks_progress env taskId world report row.id row found
  refine ⟨row', found', ?_⟩
  rcases tracked with same | step
  · rw [same]
    exact ⟨SameIdentity.refl row, rfl, running⟩
  · cases step with
    | progressed now stored isRunning => exact ⟨⟨rfl, rfl, rfl, rfl⟩, rfl, running⟩

end Report

/-! ### A handler that fires leaves a child -/

def IsChildFor (parentTaskId : String) (report : TaskProgressReport) (index : Nat) (task : Task) :
    Prop :=
  ∃ stored, progressChildOf parentTaskId task = some (index, stored) ∧
    stored.toTaskProgressReport = report

theorem keepsTasks_progressTurn (env : Env) (parent : Task) (report : TaskProgressReport)
    (stored : ReceivedTaskProgressReport) (indexed : TaskOnProgressConfig × Nat) :
    Moves KeepsTasks
      (if progressHandlerFires env report parent.data indexed.1 then
        executeOnProgressHandler env parent stored indexed.1 indexed.2
      else pure ()) :=
  moves_keepsTasks fun snapshot =>
    grows_progressTurn env (.all snapshot) parent report stored indexed fun _ _ _ _ _ => trivial

theorem executeOnProgressHandler_inserts {env : Env} {parent : Task}
    {stored : ReceivedTaskProgressReport} {handler : TaskOnProgressConfig} {index : Nat}
    {before after : World}
    (returned : Returns (executeOnProgressHandler env parent stored handler index)
        before () after) :
    ∃ child, progressChildOf parent.id child = some (index, stored) ∧
      findTask child.id before.db = none ∧ findTask child.id after.db = some child := by
  simp only [executeOnProgressHandler, returns_bind, returns_pure, returns_ofExcept,
    Service.returns_query, Service.returns_check, Service.returns_now] at returned
  obtain ⟨taskDefinition, before, ⟨_, rfl⟩, now, clocked, ⟨rfl, rfl⟩, id, drawn, draws, _, drawn,
    ⟨rfl, rfl⟩, data, drawn, ⟨_, rfl⟩, child, keyed, keys, _, after, inserts, _, rfl⟩ := returned
  obtain ⟨isChild, rfl⟩ := returns_pure.mp keys
  obtain ⟨missing, present⟩ := insertAndAnnounce_returns inserts
  have drawnDb : SameDb (Service.draw before) keyed :=
    ((Service.moves_randomUUID env : Moves SameDb _).of_returns draws).1
  rw [drawnDb] at missing
  refine ⟨child, ?_, missing, present⟩
  rw [isChild]
  simp [progressChildOf, progressChildRow, Task.withKey]

/-- What a report that is answered did: it was stored in its running task, then the handlers ran. -/
structure AnsweredRun (env : Env) (taskId : String) (report : TaskProgressReport)
    (before after : World) (row : Task) (stored : ReceivedTaskProgressReport) (now : Date)
    (written : World) : Prop where
  isReport : stored.toTaskProgressReport = report
  found : findTask taskId before.db = some row
  writes : written.db = { before.db with
    tasks := before.db.tasks.update (fun row => Task.hasId taskId row && isRunning row)
      (progressRow now stored) (progressRow_keeps now stored) }
  handles : ∃ reached, SameDb written reached ∧
    Returns (executeOnProgressHandlers env (progressRow now stored row) report stored) reached ()
      after

theorem registerTaskProgress_returns {env : Env} {taskId : String} {report : TaskProgressReport}
    {updated : Task} {before after : World}
    (returned : Returns (registerTaskProgress env taskId report) before (some updated) after) :
    ∃ row stored now written, AnsweredRun env taskId report before after row stored
        now written := by
  simp only [registerTaskProgress, storeProgress, returns_bind, Service.returns_now,
    returns_ofExcept, Service.returns_updateTasksReturning] at returned
  obtain ⟨now, clocked, ⟨rfl, rfl⟩, receivedAt, _, ⟨_, rfl⟩, hit, written, ⟨isHit, writes, _, _⟩,
    answered⟩ := returned
  rw [find?_guarded] at isHit
  have drawn : findTask taskId (Service.draw before).db = findTask taskId before.db := rfl
  rw [drawn] at isHit
  rcases guarded : (findTask taskId before.db).filter isRunning with _ | row
  · rw [guarded] at isHit
    subst isHit
    cases (returns_pure.mp answered).1
  · obtain ⟨found, _⟩ := Option.filter_eq_some_iff.mp guarded
    rw [guarded] at isHit
    subst isHit
    simp only [Option.map_some, answerProgress, returns_bind, returns_pure] at answered
    obtain ⟨_, recorded, records, _, notified, notifies, _, handled, handles, _, rfl⟩ := answered
    have first : SameDb written recorded := ((Service.moves_record _ _).of_returns records).1
    have second : SameDb recorded notified := ((moves_handleTaskUpdate _).of_returns notifies).1
    exact ⟨row, _, _, written, rfl, found, writes, notified, IsTrans.trans _ _ _ first second,
      handles⟩

section Answered

variable {env : Env} {taskId : String} {report : TaskProgressReport} {before after written : World}
  {row : Task} {stored : ReceivedTaskProgressReport} {now : Date}

theorem AnsweredRun.keeps (answered : AnsweredRun env taskId report before after row
    stored now written)
    {id : String} {old : Task} (present : findTask id before.db = some old) :
    ∃ kept, findTask id written.db = some kept ∧ findTask id after.db = some kept ∧
      SameIdentity old kept := by
  have sameId : ∀ task, (progressRow now stored task).id = task.id := fun _ => rfl
  have updated := findTask_update sameId answered.writes id
  rw [present, Option.map_some] at updated
  obtain ⟨reached, sameDb, handles⟩ := answered.handles
  have first : KeepsTasks written reached := DatabaseRelation.of_same_db sameDb
  have turns : Moves KeepsTasks
      (executeOnProgressHandlers env (progressRow now stored row) report stored) :=
    Moves.each _ fun indexed _ => keepsTasks_progressTurn env _ report stored indexed
  have second := (turns.of_returns handles).1
  refine ⟨_, updated, second _ _ (first _ _ updated), ?_⟩
  split
  · exact ⟨rfl, rfl, rfl, rfl⟩
  · exact SameIdentity.refl old

theorem AnsweredRun.inserts
    (answered : AnsweredRun env taskId report before after row stored now written) {index : Nat}
    {handler : TaskOnProgressConfig} (matching : Matches env row report index handler) :
    ∃ child ∈ after.db.tasks.rows, IsChildFor taskId report index child ∧
      findTask child.id before.db = none := by
  obtain ⟨reached, sameDb, handles⟩ := answered.handles
  have indexed : (handler, index) ∈
      (progressRow now stored row).invocation.onProgress.zipIdx :=
    List.mem_zipIdx_iff_getElem?.mpr matching.1
  obtain ⟨turn, left, toTurn, execution, onward⟩ :=
    returns_each_mem handles
      (fun indexed _ => keepsTasks_progressTurn env _ report stored indexed) indexed
  have fires : progressHandlerFires env report (progressRow now stored row).data handler = true :=
    matching.2
  simp only [fires, ↓reduceIte] at execution
  obtain ⟨child, isChild, missing, present⟩ := executeOnProgressHandler_inserts execution
  have parentId : (progressRow now stored row).id = taskId := by
    show row.id = taskId
    exact findTask_id answered.found
  rw [parentId] at isChild
  have stays := onward _ _ present
  refine ⟨child, List.mem_of_find?_eq_some stays, ⟨stored, isChild, answered.isReport⟩, ?_⟩
  rcases old : findTask child.id before.db with _ | oldRow
  · rfl
  · obtain ⟨kept, keptWritten, _, _⟩ := answered.keeps old
    have first : KeepsTasks written reached := DatabaseRelation.of_same_db sameDb
    have stillThere := toTurn _ _ (first _ _ keptWritten)
    rw [missing] at stillThere
    cases stillThere

end Answered

/-! ### Reports over a run -/

/-- The state a report leaves. -/
def reportStep (env : Env) (taskId : String) (world : World) (report : TaskProgressReport) :
    World :=
  (registerTaskProgress env taskId report world).2

/-- The report comes back without an error, stored and handled. -/
def Answered (env : Env) (taskId : String) (world : World) (report : TaskProgressReport) : Prop :=
  ∃ updated after, Returns (registerTaskProgress env taskId report) world (some updated) after

/-- The report is not answered, and a stored row holds the key of a child it has to insert. -/
def RefusedForKey (env : Env) (taskId : String) (world : World) (report : TaskProgressReport) :
    Prop :=
  (∃ row index handler holder, findTask taskId world.db = some row ∧
    Matches env row report index handler ∧ holder ∈ world.db.tasks.rows ∧
    holder.idempotencyKey = reportKey env row report index handler) ∧
      ¬ Answered env taskId world report

/-- An answered report has given every matching handler exactly one child. -/
def YieldsChildren (env : Env) (taskId : String) (world : World) (report : TaskProgressReport) :
    Prop :=
  ∀ row, findTask taskId world.db = some row → Answered env taskId world report →
    ∀ index handler, Matches env row report index handler →
      ∃! child, child ∈ (reportStep env taskId world report).db.tasks.rows ∧
        IsChildFor taskId report index child ∧ findTask child.id world.db = none

def ReportKept (env : Env) (taskId : String) (world : World) (report : TaskProgressReport) : Prop :=
  ¬ RefusedForKey env taskId world report ∧ YieldsChildren env taskId world report

def ReportDistinct (env : Env) (taskId : String) (world : World) (report : TaskProgressReport) :
    Prop :=
  ∀ row, findTask taskId world.db = some row →
    ∀ index handler, Matches env row report index handler →
      ∀ child ∈ world.db.tasks.rows, ∀ stored,
        progressChildOf taskId child = some (index, stored) →
          ¬ (stored.code = report.code ∧ stored.timestamp = report.timestamp)

section Step

variable {env : Env} {taskId : String} {report : TaskProgressReport} {world : World} {row : Task}
  {index : Nat} {handler : TaskOnProgressConfig}

theorem newChild_key (found : findTask taskId world.db = some row)
    (matching : Matches env row report index handler) {child : Task}
    (member : child ∈ (reportStep env taskId world report).db.tasks.rows)
    (isChild : IsChildFor taskId report index child) (missing : findTask child.id world.db = none) :
    child.idempotencyKey = reportKey env row report index handler := by
  obtain ⟨stored, childOf, _⟩ := isChild
  obtain ⟨origin, same, old | new⟩ := rowsFrom_report found child member
  · grind [findTask_of_mem, same.id]
  · have originChild := (same.progressChildOf taskId).symm.trans childOf
    obtain ⟨_, _, other, ⟨declared, _⟩, key⟩ := new.2 taskId index stored originChild
    have sameHandler : other = handler := Option.some.inj (declared.symm.trans matching.1)
    rw [same.idempotencyKey, key, sameHandler]

theorem yieldsChildren (env : Env) (taskId : String) (world : World)
    (report : TaskProgressReport) : YieldsChildren env taskId world report := by
  rintro row found ⟨updated, after, returned⟩ index handler matching
  have left : (reportStep env taskId world report) = after := by
    rw [reportStep, returned]
  obtain ⟨hit, stored, now, written, answered⟩ := registerTaskProgress_returns returned
  have sameRow : hit = row := Option.some.inj (answered.found.symm.trans found)
  rw [sameRow] at answered
  obtain ⟨child, member, isChild, missing⟩ := answered.inserts matching
  rw [← left] at member
  refine ⟨child, ⟨member, isChild, missing⟩, ?_⟩
  rintro other ⟨otherMember, otherChild, otherMissing⟩
  have key := newChild_key found matching member isChild missing
  grind [newChild_key, Task.eq_of_idempotencyKey]

/-- While a row holds the key of a child the report has to insert, it is not answered. -/
theorem not_answered_of_held (found : findTask taskId world.db = some row)
    (matching : Matches env row report index handler) {holder : Task}
    (member : holder ∈ world.db.tasks.rows)
    (held : holder.idempotencyKey = reportKey env row report index handler) :
    ¬ Answered env taskId world report := by
  rintro ⟨updated, after, returned⟩
  have left : (reportStep env taskId world report) = after := by
    rw [reportStep, returned]
  obtain ⟨hit, stored, now, written, answered⟩ := registerTaskProgress_returns returned
  have sameRow : hit = row := Option.some.inj (answered.found.symm.trans found)
  rw [sameRow] at answered
  obtain ⟨child, childMember, isChild, missing⟩ := answered.inserts matching
  obtain ⟨kept, _, keptFound, same⟩ := answered.keeps (findTask_of_mem member)
  rw [← left] at childMember
  have childKey := newChild_key found matching childMember isChild missing
  rw [left] at childMember
  have keptKey : kept.idempotencyKey = child.idempotencyKey := by
    rw [same.idempotencyKey, held, childKey]
  have equal : kept = child := Task.eq_of_idempotencyKey _ (List.mem_of_find?_eq_some keptFound)
    childMember keptKey
  grind [findTask_of_mem, same.id]

end Step

/-! ### The keys along a run -/

def progressContext : InvokeContext := .taskProgressChild "" "" default 0

def progressText (ownerId taskIdentifier parentTaskId : String) (index : Nat)
    (code timestamp : Option String) : String :=
  keyText ownerId taskIdentifier (progressData parentTaskId index code timestamp)

def ProgressKeyed (env : Env) (texts : Set String) (world : World) : Prop :=
  ∀ task ∈ world.db.tasks.rows, ∀ parentTaskId index stored,
    progressChildOf parentTaskId task = some (index, stored) →
      ∃ ownerId taskIdentifier,
        progressText ownerId taskIdentifier parentTaskId index stored.code
            stored.timestamp ∈ texts ∧
        task.idempotencyKey = taskProgressChildKey env ownerId taskIdentifier parentTaskId index
          stored.code stored.timestamp

/-- The texts the report's children are keyed by are in the set. -/
def TextsIn (texts : Set String) (parent : Task) (report : TaskProgressReport) : Prop :=
  ∀ index handler, parent.invocation.onProgress[index]? = some handler →
    progressText parent.ownerId handler.taskIdentifier parent.id index report.code
      report.timestamp ∈ texts

/-- What every report of a run finds. -/
structure ReportInvariant (env : Env) (texts : Set String) (parent : Task) (world : World) :
    Prop where
  running : ∃ row, findTask parent.id world.db = some row ∧ SameIdentity parent row ∧
    row.data = parent.data ∧ isRunning row = true
  kindFirst : ∀ task ∈ world.db.tasks.rows, KindFirst task
  keyed : ProgressKeyed env texts world
  own : ∀ task ∈ world.db.tasks.rows, ∀ index stored,
    progressChildOf parent.id task = some (index, stored) →
      ∃ handler, parent.invocation.onProgress[index]? = some handler ∧
        task.idempotencyKey = taskProgressChildKey env parent.ownerId handler.taskIdentifier
          parent.id index stored.code stored.timestamp

section Invariant

variable {env : Env} {texts : Set String} {parent : Task} {world : World}
  {report : TaskProgressReport}

theorem ReportInvariant.step (invariant : ReportInvariant env texts parent world)
    (textsIn : TextsIn texts parent report) :
    ReportInvariant env texts parent (reportStep env parent.id world report) := by
  obtain ⟨row, found, identity, sameData, isRunning⟩ := invariant.running
  have rows := @rowsFrom_report env parent.id report world row found
  have rowFound : findTask row.id world.db = some row := by
    rw [identity.id]
    exact found
  obtain ⟨row', found', same', data', running'⟩ :=
    @report_tracks env row.id report world row rowFound isRunning
  rw [identity.id] at found'
  refine ⟨⟨row', found', identity.trans same', data'.trans sameData, running'⟩, ?_, ?_, ?_⟩
  · intro task member
    obtain ⟨origin, same, old | new⟩ := rows task member
    · obtain ⟨hash, key⟩ := invariant.kindFirst origin old
      exact ⟨hash, by rw [same.idempotencyKey, same.invocation, key]⟩
    · obtain ⟨hash, key⟩ := new.1
      exact ⟨hash, by rw [same.idempotencyKey, same.invocation, key]⟩
  · intro task member parentTaskId index stored isChild
    obtain ⟨origin, same, old | new⟩ := rows task member
    · have originChild := (same.progressChildOf parentTaskId).symm.trans isChild
      obtain ⟨ownerId, taskIdentifier, inTexts, key⟩ :=
        invariant.keyed origin old parentTaskId index stored originChild
      exact ⟨ownerId, taskIdentifier, inTexts, same.idempotencyKey.trans key⟩
    · have originChild := (same.progressChildOf parentTaskId).symm.trans isChild
      obtain ⟨rfl, isReport, handler, ⟨declared, _⟩, key⟩ :=
        new.2 parentTaskId index stored originChild
      rw [identity.invocation] at declared
      refine ⟨parent.ownerId, handler.taskIdentifier, ?_, ?_⟩
      · rw [identity.id, isReport]
        exact textsIn index handler declared
      · rw [same.idempotencyKey, key, isReport, ← identity.ownerId]
        rfl
  · intro task member index stored isChild
    obtain ⟨origin, same, old | new⟩ := rows task member
    · have originChild := (same.progressChildOf parent.id).symm.trans isChild
      simp [invariant.own, same.idempotencyKey.trans, old, originChild]
    · have originChild := (same.progressChildOf parent.id).symm.trans isChild
      obtain ⟨_, isReport, handler, ⟨declared, _⟩, key⟩ :=
        new.2 parent.id index stored originChild
      rw [identity.invocation] at declared
      refine ⟨handler, declared, ?_⟩
      rw [same.idempotencyKey, key, isReport, ← identity.ownerId, ← identity.id]
      rfl

theorem ReportInvariant.holder (invariant : ReportInvariant env texts parent world)
    (spread : Set.InjOn env.hashData texts) (textsIn : TextsIn texts parent report) {index : Nat}
    {handler : TaskOnProgressConfig} (declared :
        parent.invocation.onProgress[index]? = some handler)
    {task : Task} (member : task ∈ world.db.tasks.rows)
    (held : task.idempotencyKey = reportKey env parent report index handler) :
    ∃ stored, progressChildOf parent.id task = some (index, stored) ∧
      stored.code = report.code ∧ stored.timestamp = report.timestamp := by
  have kindFirst := invariant.kindFirst task member
  -- Every other kind of row begins its key with another word.
  have isProgress : ∃ parentTaskId parentIdentifier stored position,
      task.invocation.context =
        .taskProgressChild parentTaskId parentIdentifier stored position := by
    rcases isContext : task.invocation.context with _ | _ | _ | _ | _ | _ | ⟨first, second,
        third, fourth⟩
    case taskProgressChild => exact ⟨first, second, third, fourth, rfl⟩
    all_goals
      have otherKind : task.invocation.context.kind ≠ progressContext.kind := by
        rw [isContext]
        simp [InvokeContext.kind, progressContext]
      exact absurd held (kindFirst.key_ne otherKind _ _ _)
  obtain ⟨parentTaskId, parentIdentifier, stored, position, isContext⟩ := isProgress
  have isChild : progressChildOf parentTaskId task = some (position, stored) := by
    simp [progressChildOf, isContext]
  obtain ⟨ownerId, taskIdentifier, inTexts, key⟩ :=
    invariant.keyed task member parentTaskId position stored isChild
  rw [key] at held
  have sameKey : idempotencyKeyOf env progressContext.kind ownerId taskIdentifier
      (progressData parentTaskId position stored.code stored.timestamp) =
    idempotencyKeyOf env progressContext.kind parent.ownerId handler.taskIdentifier
      (progressData parent.id index report.code report.timestamp) := held
  have sameHash := (sameKey_kind sameKey).2
  have sameText := spread inTexts (textsIn index handler declared) sameHash
  obtain ⟨_, _, sameData⟩ := keyText_injective (isPlain_progressData ..) (isPlain_progressData ..)
    sameText
  grind [progressData_injective]

theorem ReportInvariant.kept_iff (invariant : ReportInvariant env texts parent world)
    (spread : Set.InjOn env.hashData texts) (textsIn : TextsIn texts parent report) :
    ReportKept env parent.id world report ↔ ReportDistinct env parent.id world report := by
  obtain ⟨row, found, identity, _, _⟩ := invariant.running
  have keyOf : ∀ index handler,
      reportKey env row report index handler = reportKey env parent report index handler := by
    intro index handler
    unfold reportKey
    rw [identity.ownerId, identity.id]
  constructor
  · rintro ⟨notRefused, _⟩ other otherFound index handler matching child member stored isChild
      ⟨sameCode, sameTimestamp⟩
    have rowEqual : other = row := Option.some.inj (otherFound.symm.trans found)
    rw [rowEqual] at matching
    obtain ⟨declaredHandler, declared, key⟩ := invariant.own child member index stored isChild
    rw [← identity.invocation] at declared
    have sameHandler : declaredHandler = handler :=
      Option.some.inj (declared.symm.trans matching.1)
    have held : child.idempotencyKey = reportKey env row report index handler := by
      rw [key, keyOf, sameHandler, sameCode, sameTimestamp]
      rfl
    exact notRefused ⟨⟨row, index, handler, child, found, matching, member, held⟩,
      not_answered_of_held found matching member held⟩
  · intro distinct
    refine ⟨?_, yieldsChildren env parent.id world report⟩
    rintro ⟨⟨other, index, handler, holder, otherFound, matching, member, held⟩, _⟩
    have rowEqual : other = row := Option.some.inj (otherFound.symm.trans found)
    rw [rowEqual] at matching held
    rw [keyOf] at held
    have declared := matching.1
    rw [identity.invocation] at declared
    obtain ⟨stored, isChild, same⟩ := invariant.holder spread textsIn declared member held
    exact distinct row found index handler matching holder member stored isChild same

end Invariant

/-- A running app task with one unconditional progress handler. -/
def sampleReporter : Task :=
  { sampleParent with
    invocation :=
      { context := .appAction "request"
        onProgress := [{ taskIdentifier := "notify", condition := none, dataTemplate := none }] }
    startedAt := some 0 }

def sampleReporterWorld : World where
  db :=
    { apps := .singleton App.sample
      tasks := .singleton sampleReporter }

def sampleReport : TaskProgressReport where
  code := none
  details := none
  message := some (.str "half way")
  timestamp := none
  executorMetadata := none

theorem sampleReporter_childless : NoProgressChildren "parent" sampleReporterWorld := by
  intro row member
  rw [List.mem_singleton.mp member]
  rfl

/-- `RefusedForKey` for one handler index, evaluated. -/
def refusesForKey (env : Env) (taskId : String) (report : TaskProgressReport) (index : Nat)
    (world : World) : Bool :=
  (findTask taskId world.db).any (fun row =>
    (row.invocation.onProgress[index]?).any fun handler =>
      progressHandlerFires env report row.data handler &&
        world.db.tasks.rows.any fun holder =>
          holder.idempotencyKey == reportKey env row report index handler) &&
    !(registerTaskProgress env taskId report world).1.isOk

theorem refusedForKey_of_check {env : Env} {taskId : String} {report : TaskProgressReport}
    {index : Nat} {world : World} (check : refusesForKey env taskId report index world = true) :
    RefusedForKey env taskId world report := by
  simp only [refusesForKey, Bool.and_eq_true, Option.any_eq_true, List.any_eq_true,
    beq_iff_eq, Bool.not_eq_true'] at check
  obtain ⟨⟨row, found, handler, declared, fires, holder, member, held⟩, failed⟩ := check
  refine ⟨⟨row, index, handler, holder, found, ⟨declared, fires⟩, member, held⟩, ?_⟩
  rintro ⟨updated, after, returned⟩
  rw [returned] at failed
  cases failed

end Lombok.Tasks
