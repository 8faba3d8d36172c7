import Lombok.Core.Growth
import Lombok.Events.Emit
import Lombok.Tasks.KeyText

/-!
Contract: what an emission may add.

Emitting an event, with everything nested below it, only adds rows: event rows
of the emitter or of the platform, task rows owned by the platform, and task
rows for triggers that the event or a nested announcement meets. All of them
are rows as a creation path leaves them; what differs is the first log entry of
the triggered ones.

Does not own: the rows a caller inserts around the emission.
-/

namespace Lombok.Events

open Lombok.Core Lombok.Library Lombok.Library.Action Lombok.Tasks Lombok.Apps

/-! ### Rows an emission creates -/

/-- A row as a creation path leaves it: no attempt yet, and the given log. -/
structure IsNewRow (log : List SystemLogEntry) (task : Task) : Prop where
  startedAt : task.startedAt = none
  completedAt : task.completedAt = none
  success : task.success = none
  attemptCount : task.attemptCount = 0
  failureCount : task.failureCount = 0
  systemLog : task.systemLog = log

/-- A row created for an event trigger of the app. -/
structure IsTriggeredRow (app : App) (task : Task) : Prop where
  ownerId : task.ownerId = app.identifier
  isNew : ∃ loggedAt, IsNewRow [eventTriggeredStartLog loggedAt] task
  context : ∃ context, task.invocation.context = .event context
  kindFirst : KindFirst task

/-- A platform task created for an event. -/
structure IsCoreRow (task : Task) : Prop where
  ownerId : task.ownerId = coreIdentifier
  isNew : IsNewRow [] task
  context : (∃ context, task.invocation.context = .event context) ∨
    ∃ data, task.invocation.context = .systemAction data
  kindFirst : KindFirst task

def IsEnqueuedEvent (args : EmitEventArgs) : Prop :=
  args.emitterIdentifier = coreIdentifier ∧
    (args.eventIdentifier = CoreEvent.identifier .dockerTaskEnqueued ∨
      args.eventIdentifier = CoreEvent.identifier .serverlessTaskEnqueued)

/-- The task rows an emission may add, over the apps and triggers of a snapshot. -/
inductive EmittedTask (snapshot : Database) (args : EmitEventArgs) (task : Task) : Prop where
  | triggered {nested : EmitEventArgs} {app : Option App} {candidate : TriggerCandidate}
      (isNested : nested = args ∨ IsEnqueuedEvent nested)
      (found : findEmitterApp nested snapshot = .ok app)
      (member : candidate ∈ triggerCandidates nested app snapshot)
      (row : IsTriggeredRow candidate.subscribedApp task)
  | core (row : IsCoreRow task)

/-- The event rows an emission may add. -/
def EmittedEvent (args : EmitEventArgs) (event : Event) : Prop :=
  event.emitterId = args.emitterIdentifier ∨ event.emitterId = coreIdentifier

variable {snapshot db : Database}

theorem EmittedTask.of_nested {args nested : EmitEventArgs} {task : Task}
    (isNested : IsEnqueuedEvent nested) (emitted : EmittedTask snapshot nested task) :
    EmittedTask snapshot args task := by
  cases emitted with
  | core row => exact .core row
  | triggered inner found member row =>
      rcases inner with rfl | deeper
      · exact .triggered (.inr isNested) found member row
      · exact .triggered (.inr deeper) found member row

theorem EmittedEvent.of_nested {args nested : EmitEventArgs} {event : Event}
    (isNested : IsEnqueuedEvent nested) (emitted : EmittedEvent nested event) :
    EmittedEvent args event := by
  rcases emitted with own | core
  · exact .inr (own.trans isNested.1)
  · exact .inr core

/-! ### Reads that depend on apps and triggers only -/

theorem getApp_sameApps (same : SameApps snapshot db) (appIdentifier : String)
    (enabled : Option Bool) :
    getApp appIdentifier enabled db = getApp appIdentifier enabled snapshot := by
  unfold getApp
  rw [same.1]

theorem findEmitterApp_sameApps (same : SameApps snapshot db) (args : EmitEventArgs) :
    findEmitterApp args db = findEmitterApp args snapshot := by
  unfold findEmitterApp
  rw [getApp_sameApps same]

theorem triggerCandidates_sameApps (same : SameApps snapshot db) (args : EmitEventArgs)
    (app : Option App) :
    triggerCandidates args app db = triggerCandidates args app snapshot := by
  unfold triggerCandidates subscribedApps runtimeTriggers
  rw [same.1, same.2]

/-! ### Building the tasks -/

section Build

variable {relation : World → World → Prop} [QuietRelation relation]

theorem ensures_withTaskIdempotencyKey (env : Env) (task : Task) :
    Ensures relation
      (fun keyed => ∃ key, keyed = { task with idempotencyKey := key } ∧ KindFirst keyed)
      (withTaskIdempotencyKey env task) := by
  grind [withTaskIdempotencyKey, Moves.bind, Service.moves_randomUUID, ensures_pure,
    kindFirst_build]

variable {emit : EmitEventArgs → Service Unit} (env : Env)

theorem moves_emitRunnableTaskEnqueuedEvent
    (nestedMoves : ∀ nested, IsEnqueuedEvent nested → Moves relation (emit nested)) (task : Task) :
    Moves relation (emitRunnableTaskEnqueuedEvent emit task) := by
  unfold emitRunnableTaskEnqueuedEvent
  split
  · exact moves_pure ()
  · exact Moves.bind (moves_ofExcept _) fun _ => nestedMoves _ ⟨rfl, .inr rfl⟩
  · exact Moves.bind (moves_ofExcept _) fun _ => nestedMoves _ ⟨rfl, .inl rfl⟩

theorem ensures_buildEventTriggeredTask
    (nestedMoves : ∀ nested, IsEnqueuedEvent nested → Moves relation (emit nested))
    (args : EmitEventArgs) (event : Event) (now : Date) (subscribedApp : App)
    (trigger : EventTaskTriggerConfig) (triggerRef : TriggerRef) :
    Ensures relation (fun tasks => ∀ task ∈ tasks, IsTriggeredRow subscribedApp task)
      (buildEventTriggeredTask env emit args event now subscribedApp trigger triggerRef) := by
  unfold buildEventTriggeredTask
  split
  · exact ensures_pure (by simp)
  · split
    · exact ensures_pure (by simp)
    · refine Moves.bind (Service.moves_randomUUID env) fun id => ?_
      refine Moves.bind (Service.moves_query _) fun db => ?_
      refine Moves.bind (moves_ofExcept _) fun data => ?_
      refine Moves.bind (Service.moves_now env) fun loggedAt => ?_
      refine Ensures.bind (ensures_withTaskIdempotencyKey env _) fun task keyed => ?_
      refine Moves.bind (moves_emitRunnableTaskEnqueuedEvent nestedMoves task) fun _ => ?_
      refine ensures_pure ?_
      obtain ⟨key, rfl, kindFirst⟩ := keyed
      intro built member
      rw [List.mem_singleton.mp member]
      exact ⟨rfl, ⟨loggedAt, ⟨rfl, rfl, rfl, rfl, rfl, rfl⟩⟩, ⟨_, rfl⟩, kindFirst⟩

theorem ensures_buildCandidateTask
    (nestedMoves : ∀ nested, IsEnqueuedEvent nested → Moves relation (emit nested))
    (args : EmitEventArgs) (event : Event) (now : Date) (candidate : TriggerCandidate) :
    Ensures relation (fun tasks => ∀ task ∈ tasks, IsTriggeredRow candidate.subscribedApp task)
      (buildCandidateTask env emit args event now candidate) := by
  refine Moves.bind (Service.moves_check _) fun admitted => ?_
  grind [ensures_buildEventTriggeredTask, ensures_pure]

theorem ensures_buildCoreTask (event : Event) (timestamp : Date)
    (definition : (CoreTaskName × Json) × Nat) :
    Ensures relation IsCoreRow (buildCoreTask env event timestamp definition) := by
  refine Moves.bind (Service.moves_randomUUID env) fun id => ?_
  refine (ensures_withTaskIdempotencyKey env _).weaken ?_
  rintro task ⟨key, rfl, kindFirst⟩
  exact ⟨rfl, ⟨rfl, rfl, rfl, rfl, rfl, rfl⟩, .inl ⟨_, rfl⟩, kindFirst⟩

theorem ensures_gatherCoreTasksForEvent (event : Event) (timestamp : Date) :
    Ensures relation (fun tasks => ∀ task ∈ tasks, IsCoreRow task)
      (gatherCoreTasksForEvent env event timestamp) := by
  unfold gatherCoreTasksForEvent
  split
  · exact Ensures.collect _ fun definition _ => ensures_buildCoreTask env event timestamp definition
  · exact ensures_pure (by simp)

theorem ensures_coreTasksOf (args : EmitEventArgs) (event : Event) (now : Date) :
    Ensures relation (fun tasks => ∀ task ∈ tasks, IsCoreRow task)
      (coreTasksOf env args event now) := by
  grind [coreTasksOf, ensures_gatherCoreTasksForEvent, ensures_pure]

theorem moves_admitsEmitter (args : EmitEventArgs) (app : Option App) (validate : Bool) :
    Moves relation (admitsEmitter args app validate) := by
  unfold admitsEmitter
  split
  · exact Service.moves_check _
  · exact moves_pure true

end Build

section Notes

variable {relation : World → World → Prop} [DatabaseRelation relation]

theorem moves_recordCreatedTasks (actor : String) (tasks : List Task) :
    Moves relation (recordCreatedTasks actor tasks) :=
  Moves.each tasks fun _ _ => Service.moves_record _ _

theorem moves_notifyTargetUser (args : EmitEventArgs) (app : Option App) :
    Moves relation (notifyTargetUser args app) := by
  unfold notifyTargetUser
  split
  · exact Service.moves_record _ _
  · exact moves_pure ()

end Notes

/-! ### The emission -/

section Emission

variable {newTask : Task → Prop} {newEvent : Event → Prop}

variable {snapshot : Database} (env : Env)

theorem moves_scheduleNotifications (aggregationKey : Option String) (now : Date)
    (coreNew : ∀ task, IsCoreRow task → newTask task) :
    Moves (Grows newTask newEvent) (scheduleNotifications env aggregationKey now) := by
  unfold scheduleNotifications
  split
  · exact moves_pure ()
  · refine Moves.bind (Service.moves_randomUUID env) fun id => ?_
    refine Ensures.bind (ensures_withTaskIdempotencyKey env _) fun task keyed => ?_
    obtain ⟨idempotencyKey, rfl, kindFirst⟩ := keyed
    refine Ensures.tryCatch (Service.moves_insertTask (coreNew _ ?_)) fun error => ?_
    · exact ⟨rfl, ⟨rfl, rfl, rfl, rfl, rfl, rfl⟩, .inr ⟨_, rfl⟩, kindFirst⟩
    · split
      · exact moves_pure ()
      · exact ensures_throw _

/-- One level of emission, given what the nested ones do. -/
theorem moves_emitValidatedEvent {emit : EmitEventArgs → Service Unit} {args : EmitEventArgs}
    {app : Option App} (now : Date) (found : findEmitterApp args snapshot = .ok app)
    (taskNew : ∀ task, EmittedTask snapshot args task → newTask task)
    (eventNew : ∀ event, EmittedEvent args event → newEvent event)
    (nestedMoves : ∀ nested, IsEnqueuedEvent nested →
      Moves (GrowsOver snapshot newTask newEvent) (emit nested)) :
    Moves (GrowsOver snapshot newTask newEvent) (emitValidatedEvent env emit args app now) := by
  have coreNew : ∀ task, IsCoreRow task → newTask task := fun task row => taskNew task (.core row)
  refine Moves.bind (Service.moves_randomUUID env) fun id => ?_
  refine Moves.bind (Service.moves_over (Service.moves_insertEvent (eventNew _ (.inl rfl))))
    fun _ => ?_
  refine Moves.bind (Service.moves_record _ _) fun _ => ?_
  refine Service.moves_query_over
    (fun db same => triggerCandidates_sameApps same args app) ?_
  have candidateEnsures : Ensures (GrowsOver snapshot newTask newEvent)
      (fun triggered => ∀ built ∈ triggered, ∀ task ∈ built, newTask task)
      (Action.collect (triggerCandidates args app snapshot)
        (buildCandidateTask env emit args (buildEvent env args id now) now)) := by
    refine Ensures.collect _ fun candidate member => ?_
    refine (ensures_buildCandidateTask env nestedMoves args _ now candidate).weaken ?_
    intro built rows task taskMember
    exact taskNew task (.triggered (.inl rfl) found member (rows task taskMember))
  refine Ensures.bind candidateEnsures fun triggered triggeredNew => ?_
  refine Ensures.bind (ensures_coreTasksOf env args _ now) fun coreTasks coreRows => ?_
  have allNew : ∀ task ∈ triggered.flatten ++ coreTasks, newTask task := by
    intro task member
    rcases List.mem_append.mp member with fromTrigger | fromCore
    · obtain ⟨built, builtMember, taskMember⟩ := List.mem_flatten.mp fromTrigger
      exact triggeredNew built builtMember task taskMember
    · exact coreNew task (coreRows task fromCore)
  refine Moves.bind (Service.moves_over (Service.moves_insertTasks allNew)) fun _ => ?_
  refine Moves.bind (moves_recordCreatedTasks _ _) fun _ => ?_
  refine Moves.bind (moves_notifyTargetUser args app) fun _ => ?_
  exact Service.moves_over (moves_scheduleNotifications env _ now coreNew)

/-- `_emitEventInTx` only grows the state, at every nesting depth. -/
theorem moves_emitEventInTx (depth : Nat) (args : EmitEventArgs)
    (taskNew : ∀ task, EmittedTask snapshot args task → newTask task)
    (eventNew : ∀ event, EmittedEvent args event → newEvent event) :
    Moves (GrowsOver snapshot newTask newEvent) (emitEventInTx env depth args) := by
  induction depth generalizing args with
  | zero => exact ensures_throw _
  | succ depth inductionHypothesis =>
      refine Moves.bind (moves_require _ _) fun _ => ?_
      refine Moves.bind (Service.moves_now env) fun now => ?_
      refine Service.moves_check_over
        (fun db same => findEmitterApp_sameApps same args) fun app found => ?_
      refine Moves.bind (moves_admitsEmitter args app _) fun admitted => ?_
      split
      · refine moves_emitValidatedEvent env now found taskNew eventNew fun nested isNested => ?_
        exact inductionHypothesis nested
          (fun task emitted => taskNew task (emitted.of_nested isNested))
          (fun event emitted => eventNew event (emitted.of_nested isNested))
      · exact moves_pure ()

theorem moves_emitEventWithTx (args : EmitEventArgs)
    (taskNew : ∀ task, EmittedTask snapshot { args with skipValidation := false } task →
      newTask task) (eventNew : ∀ event, EmittedEvent args event → newEvent event) :
    Moves (GrowsOver snapshot newTask newEvent) (emitEventWithTx env args) :=
  moves_emitEventInTx env _ _ taskNew eventNew

theorem moves_emitEvent (args : EmitEventArgs)
    (taskNew : ∀ task, EmittedTask snapshot { args with skipValidation := true } task →
      newTask task) (eventNew : ∀ event, EmittedEvent args event → newEvent event) :
    Moves (GrowsOver snapshot newTask newEvent) (emitEvent env args) := by
  refine Moves.bind (moves_require _ _) fun _ => ?_
  refine Moves.bind (Service.moves_check _) fun app => ?_
  refine Moves.bind (moves_admitsEmitter args app true) fun admitted => ?_
  split
  · exact Ensures.transaction (moves_emitEventInTx env _ _ taskNew eventNew)
  · exact moves_pure ()

/-- Announcing a task from inside a transaction only grows the state. -/
theorem moves_announce (task : Task)
    (taskNew : ∀ nested, IsEnqueuedEvent nested → ∀ created, EmittedTask snapshot nested created →
      newTask created)
    (eventNew : ∀ event : Event, event.emitterId = coreIdentifier → newEvent event) :
    Moves (GrowsOver snapshot newTask newEvent)
      (emitRunnableTaskEnqueuedEvent (emitEventWithTx env) task) := by
  refine moves_emitRunnableTaskEnqueuedEvent (fun nested isNested => ?_) task
  refine moves_emitEventWithTx env nested (taskNew _ isNested) ?_
  rintro event (own | core)
  · exact eventNew event (own.trans isNested.1)
  · exact eventNew event core

end Emission

end Lombok.Events
