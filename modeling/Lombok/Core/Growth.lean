import Lombok.Core.World

/-!
Contract: calls that only add task and event rows.

`Grows` is the frame condition of everything event emission does: rows already
there stay as they are, the new ones satisfy the given predicates, and no other
table changes. `GrowsOver` is the same from a state whose apps and runtime
triggers are those of a snapshot, which lets the predicates speak about the
apps that were looked up on the way.

Does not own: which calls grow the state; each service proves that beside
itself.
-/

namespace Lombok.Core

open Lombok.Library Lombok.Tasks Lombok.Apps Lombok.Events

/-! ### Relations on the state -/

/-- A preorder on worlds that neither the clock nor the random source can break. -/
class QuietRelation (relation : World → World → Prop) : Prop
    extends IsPreorder World relation where
  of_quiet : ∀ {before after : World}, after.db = before.db → after.effects = before.effects →
    relation before after

/-- A preorder on worlds that only the database can break. -/
class DatabaseRelation (relation : World → World → Prop) : Prop
    extends IsPreorder World relation where
  of_same_db : ∀ {before after : World}, after.db = before.db → relation before after

instance {relation : World → World → Prop} [DatabaseRelation relation] :
    QuietRelation relation where
  of_quiet same _ := DatabaseRelation.of_same_db same

/-- Task and event rows are added, nothing else changes. -/
structure Grows (newTask : Task → Prop) (newEvent : Event → Prop) (before after : World) :
    Prop where
  tasks : ∃ added, after.db.tasks.rows = before.db.tasks.rows ++ added ∧
    ∀ task ∈ added, newTask task
  events : ∃ added, after.db.events.rows = before.db.events.rows ++ added ∧
    ∀ event ∈ added, newEvent event
  rest : { after.db with tasks := before.db.tasks, events := before.db.events } = before.db

/-- The tables that decide which triggers an event meets. -/
def SameApps (snapshot db : Database) : Prop :=
  db.apps = snapshot.apps ∧ db.appRuntimeTriggers = snapshot.appRuntimeTriggers

/-- Growth, from states whose apps and runtime triggers are those of the snapshot. -/
def GrowsOver (snapshot : Database) (newTask : Task → Prop) (newEvent : Event → Prop)
    (before after : World) : Prop :=
  SameApps snapshot before.db → Grows newTask newEvent before after

section Grows

variable {newTask : Task → Prop} {newEvent : Event → Prop} {before after : World}

theorem Grows.of_same_db (same : after.db = before.db) : Grows newTask newEvent before after where
  tasks := ⟨[], by simp [same], by simp⟩
  events := ⟨[], by simp [same], by simp⟩
  rest := by rw [same]

theorem Grows.trans {middle : World} (first : Grows newTask newEvent before middle)
    (second : Grows newTask newEvent middle after) : Grows newTask newEvent before after := by
  obtain ⟨firstTasks, firstTasksEqual, firstTasksNew⟩ := first.tasks
  obtain ⟨secondTasks, secondTasksEqual, secondTasksNew⟩ := second.tasks
  obtain ⟨firstEvents, firstEventsEqual, firstEventsNew⟩ := first.events
  obtain ⟨secondEvents, secondEventsEqual, secondEventsNew⟩ := second.events
  refine ⟨⟨firstTasks ++ secondTasks, ?_, ?_⟩, ⟨firstEvents ++ secondEvents, ?_, ?_⟩, ?_⟩
  · rw [secondTasksEqual, firstTasksEqual, List.append_assoc]
  · grind
  · rw [secondEventsEqual, firstEventsEqual, List.append_assoc]
  · grind
  · grind [first.rest, second.rest]

instance : DatabaseRelation (Grows newTask newEvent) where
  refl _ := Grows.of_same_db rfl
  trans _ _ _ := Grows.trans
  of_same_db := Grows.of_same_db

theorem Grows.sameApps (grows : Grows newTask newEvent before after) :
    SameApps before.db after.db := by
  have apps := congrArg Database.apps grows.rest
  have triggers := congrArg Database.appRuntimeTriggers grows.rest
  exact ⟨apps, triggers⟩

/-- A row found before is found after, unchanged. -/
theorem Grows.find?_task (grows : Grows newTask newEvent before after) {condition : Task → Bool}
    {task : Task} (found : before.db.tasks.find? condition = some task) :
    after.db.tasks.find? condition = some task := by
  grind [Table.find?, grows.tasks]

end Grows

theorem SameApps.trans {first second third : Database} (left : SameApps first second)
    (right : SameApps second third) : SameApps first third :=
  ⟨right.1.trans left.1, right.2.trans left.2⟩

instance {snapshot : Database} {newTask : Task → Prop} {newEvent : Event → Prop} :
    DatabaseRelation (GrowsOver snapshot newTask newEvent) where
  refl _ _ := Grows.of_same_db rfl
  trans _ _ _ first second same :=
    Grows.trans (first same) (second (same.trans (first same).sameApps))
  of_same_db same _ := Grows.of_same_db same

/-- Growth over every snapshot is growth. -/
theorem moves_grows {newTask : Task → Prop} {newEvent : Event → Prop} {α : Type}
    {operation : Service α}
    (moves : ∀ snapshot, Action.Moves (GrowsOver snapshot newTask newEvent) operation) :
    Action.Moves (Grows newTask newEvent) operation :=
  fun world => ⟨(moves world.db world).1 ⟨rfl, rfl⟩, fun _ _ => trivial⟩

/-- The call touches no table. -/
def SameDb (before after : World) : Prop := after.db = before.db

instance : DatabaseRelation SameDb where
  refl _ := rfl
  trans _ _ _ first second := second.trans first
  of_same_db same := same

/-! ### Statements that write nothing -/

namespace Service

open Action

section Quiet

variable {relation : World → World → Prop} [QuietRelation relation]

theorem moves_draw : Moves relation (modify draw : Service Unit) :=
  moves_modify fun _ => QuietRelation.of_quiet rfl rfl

theorem moves_now (env : Env) : Moves relation (now env) :=
  Moves.bind (moves_gets _) fun _ => Moves.bind moves_draw fun _ => moves_pure _

theorem moves_randomUUID (env : Env) : Moves relation (randomUUID env) :=
  Moves.bind (moves_gets _) fun _ => Moves.bind moves_draw fun _ => moves_pure _

theorem moves_query {α : Type} (read : Database → α) : Moves relation (query read) :=
  moves_gets _

theorem moves_check {α : Type} (read : Database → Except ApiError α) :
    Moves relation (check read) :=
  fun world => ⟨Std.Refl.refl world, fun _ _ => trivial⟩

end Quiet

theorem moves_record {relation : World → World → Prop} [DatabaseRelation relation]
    (actor : String) (action : EffectAction) : Moves relation (record actor action) :=
  moves_modify fun _ => DatabaseRelation.of_same_db rfl

/-! ### Statements that return -/

variable {before after : World}

theorem returns_now {env : Env} {date : Date} :
    Returns (now env) before date after ↔ date = env.clock before.draws ∧ after = draw before := by
  simp [now, returns_bind]

theorem returns_randomUUID {env : Env} {id : String} :
    Returns (randomUUID env) before id after ↔
      id = env.randomUUID before.draws ∧ after = draw before := by
  simp [randomUUID, returns_bind]

theorem returns_query {α : Type} {read : Database → α} {value : α} :
    Returns (query read) before value after ↔ value = read before.db ∧ after = before :=
  returns_gets

theorem returns_check {α : Type} {read : Database → Except ApiError α} {value : α} :
    Returns (check read) before value after ↔
      read before.db = .ok value ∧ after = before := by
  unfold Returns check
  grind

theorem check_throws {α : Type} {read : Database → Except ApiError α} {world : World}
    {error : ApiError} (failed : read world.db = .error error) :
    check read world = (.error error, world) := by
  rw [check, failed]

theorem returns_updateTasksReturning {condition : Task → Bool} {change : Task → Task}
    {keeps : Keeps Task.clash change} {updated : Option Task} :
    Returns (updateTasksReturning condition change keeps) before updated after ↔
      updated = (before.db.tasks.find? condition).map change ∧
        after.db = { before.db with tasks := before.db.tasks.update condition change keeps } ∧
        after.effects = before.effects ∧ after.draws = before.draws := by
  simp only [updateTasksReturning, updateTasks, write, returns_bind, returns_query, returns_modify,
    returns_pure]
  constructor
  · grind
  · obtain ⟨db, effects, draws⟩ := after
    simp

theorem updateTasksReturning_returns (condition : Task → Bool) (change : Task → Task)
    (keeps : Keeps Task.clash change) (before : World) :
    ∃ after, Returns (updateTasksReturning condition change keeps) before
        ((before.db.tasks.find? condition).map change) after ∧
      after.db = { before.db with tasks := before.db.tasks.update condition change keeps } := by
  refine ⟨{ before with db := { before.db with
    tasks := before.db.tasks.update condition change keeps } }, ?_, rfl⟩
  exact returns_updateTasksReturning.mpr ⟨rfl, rfl, rfl, rfl⟩

theorem updateTasks_returns (condition : Task → Bool) (change : Task → Task)
    (keeps : Keeps Task.clash change) (before : World) :
    ∃ after, Returns (updateTasks condition change keeps) before () after ∧
      after.db = { before.db with tasks := before.db.tasks.update condition change keeps } :=
  ⟨_, returns_modify.mpr rfl, rfl⟩

theorem returns_insertTask {task : Task} (returned : Returns (insertTask task) before () after) :
    (∀ other ∈ before.db.tasks.rows, Task.clash other task = false) ∧
      after.db.tasks.rows = before.db.tasks.rows ++ [task] := by
  grind [insertTask, write, returns_bind, returns_query, returns_orThrow, returns_modify,
    Table.insert_fresh, Table.insert_rows]

/-- An event is stored, clashing with none, or nothing changes. -/
theorem insertEvent_cases (event : Event) (before : World) :
    (∃ after, Returns (insertEvent event) before () after ∧
        (∀ other ∈ before.db.events.rows, Event.clash other event = false) ∧
        ∃ events, after = { before with db := { before.db with events := events } } ∧
          events.rows = before.db.events.rows ++ [event]) ∨
      ∃ error, insertEvent event before = (.error error, before) := by
  unfold insertEvent
  cases anchored : event.anchorOnlyOnRoot with
  | false => exact .inr ⟨_, rfl⟩
  | true =>
      rcases inserted : before.db.events.insert event with _ | events
      · simp [require, query, bind, Action.bind, Action.pure, gets, orThrow, Action.throw, inserted]
      · apply Or.inl
        refine ⟨{ before with db := { before.db with events := events } }, ?_,
          Table.insert_fresh inserted, events, rfl, Table.insert_rows inserted⟩
        simp only [Returns, require, ↓reduceIte, query, bind, Action.bind, Action.pure, gets,
          inserted, orThrow, write, Action.modify]

theorem insertTask_returns {task : Task} {inserted : TasksTable}
    (insertion : before.db.tasks.insert task = some inserted) :
    ∃ after, Returns (insertTask task) before () after := by
  simp [insertTask, write, returns_bind, returns_query, insertion]

/-- Inserting several rows puts them at the end. -/
theorem returns_insertTasks {tasks : List Task}
    (returned : Returns (insertTasks tasks) before () after) :
    after.db.tasks.rows = before.db.tasks.rows ++ tasks := by
  have inserts := returns_transaction.mp returned
  induction tasks generalizing before with
  | nil =>
      obtain ⟨_, rfl⟩ := returns_pure.mp inserts
      simp
  | cons head tail inductionHypothesis =>
      obtain ⟨_, middle, headInserted, rest⟩ := returns_bind.mp inserts
      have headRows := (returns_insertTask headInserted).2
      have tailRows := inductionHypothesis (returns_transaction.mpr rest) rest
      rw [tailRows, headRows, List.append_assoc, List.singleton_append]

/-! ### Inserts -/

section Inserts

variable {newTask : Task → Prop} {newEvent : Event → Prop}

theorem moves_insertTask {task : Task} (new : newTask task) :
    Moves (Grows newTask newEvent) (insertTask task) := by
  intro world
  refine ⟨?_, fun _ _ => trivial⟩
  show Grows newTask newEvent world (insertTask task world).2
  rcases inserted : world.db.tasks.insert task with _ | after
  · simp [insertTask, query, bind, Action.bind, gets, orThrow, Action.throw, Grows.of_same_db,
      inserted]
  · have written : (insertTask task world).2 =
        { world with db := { world.db with tasks := after } } := by
      simp only [insertTask, query, bind, Action.bind, gets, inserted, orThrow, Action.pure,
        write, Action.modify]
    rw [written]
    exact ⟨⟨[task], Table.insert_rows inserted, by simpa using new⟩, ⟨[], by simp, by simp⟩, rfl⟩

theorem moves_insertTasks {tasks : List Task} (new : ∀ task ∈ tasks, newTask task) :
    Moves (Grows newTask newEvent) (insertTasks tasks) :=
  Ensures.transaction (Moves.each tasks fun task member => moves_insertTask (new task member))

theorem moves_insertEvent {event : Event} (new : newEvent event) :
    Moves (Grows newTask newEvent) (insertEvent event) := by
  refine Moves.bind (moves_require _ _) fun _ => ?_
  intro world
  refine ⟨?_, fun _ _ => trivial⟩
  rcases inserted : world.db.events.insert event with _ | after
  · simp only [query, bind, Action.bind, gets, inserted, orThrow,
        Action.throw]
    exact Grows.of_same_db rfl
  · simp only [query, bind, Action.bind, gets, inserted, orThrow, Action.pure, write,
      Action.modify]
    exact ⟨⟨[], by simp, by simp⟩, ⟨[event], Table.insert_rows inserted, by simpa using new⟩, rfl⟩

end Inserts

/-! ### Reading through a snapshot -/

section Snapshot

variable {snapshot : Database} {newTask : Task → Prop} {newEvent : Event → Prop} {α β : Type}

theorem moves_over {operation : Service α}
    (moves : Moves (Grows newTask newEvent) operation) :
    Moves (GrowsOver snapshot newTask newEvent) operation :=
  fun world => ⟨fun _ => (moves world).1, fun _ _ => trivial⟩

/-- A query that reads only the snapshot's tables may be taken to return what it returns there. -/
theorem moves_query_over {read : Database → α} {next : α → Service β}
    (same : ∀ db, SameApps snapshot db → read db = read snapshot)
    (moves : Moves (GrowsOver snapshot newTask newEvent) (next (read snapshot))) :
    Moves (GrowsOver snapshot newTask newEvent) (query read >>= next) := by
  intro world
  refine ⟨fun inScope => ?_, fun _ _ => trivial⟩
  have value := same world.db inScope
  show Grows newTask newEvent world (next (read world.db) world).2
  rw [value]
  exact (moves world).1 inScope

theorem moves_check_over {read : Database → Except ApiError α} {next : α → Service β}
    (same : ∀ db, SameApps snapshot db → read db = read snapshot)
    (moves : ∀ value, read snapshot = .ok value →
      Moves (GrowsOver snapshot newTask newEvent) (next value)) :
    Moves (GrowsOver snapshot newTask newEvent) (check read >>= next) := by
  intro world
  refine ⟨fun inScope => ?_, fun _ _ => trivial⟩
  have value := same world.db inScope
  rcases outcome : read snapshot with error | result
  · simp [check, bind, Action.bind, Grows.of_same_db, value, outcome]
  · have continued : ((check read >>= next) world).2 = (next result world).2 := by
      simp only [check, bind, Action.bind, value, outcome]
    rw [continued]
    exact (moves result outcome world).1 inScope

end Snapshot

end Service

end Lombok.Core
