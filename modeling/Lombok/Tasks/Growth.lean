import Lombok.Events.Growth
import Lombok.Tasks.Service

/-!
Contract: the rows the handlers of a task insert.

Besides its own update, a task call inserts children for handlers, announces
them, and emits a telemetry event. All of that only adds rows; each lemma says
which ones, for any predicate that admits them.

Does not own: the updates (see `Transitions`).
-/

namespace Lombok.Tasks

open Lombok.Core Lombok.Library Lombok.Library.Action Lombok.Apps Lombok.Events

/-- The predicates admit whatever announcing a task adds. -/
structure AdmitsAnnounced (snapshot : Database) (newTask : Task → Prop) (newEvent : Event → Prop) :
    Prop where
  tasks : ∀ nested, IsEnqueuedEvent nested → ∀ created, EmittedTask snapshot nested created →
    newTask created
  events : ∀ event : Event, event.emitterId = coreIdentifier → newEvent event

theorem AdmitsAnnounced.all (snapshot : Database) :
    AdmitsAnnounced snapshot (fun _ => True) fun _ => True :=
  ⟨fun _ _ _ _ => trivial, fun _ _ => trivial⟩

def Task.withKey (task : Task) (key : String) : Task := { task with idempotencyKey := key }

theorem moves_handleTaskUpdate {relation : World → World → Prop} [DatabaseRelation relation]
    (task : Task) : Moves relation (handleTaskUpdate task) := by
  grind [handleTaskUpdate, moves_pure, Service.moves_record]

theorem withTaskIdempotencyKey_progressChild (env : Env) (parent : Task)
    (report : ReceivedTaskProgressReport) (handler : TaskOnProgressConfig) (handlerIndex : Nat)
    (taskDefinition : AppTaskConfig) (id : String) (data : Json) (now : Date) :
    withTaskIdempotencyKey env
        (progressChildRow parent report handler handlerIndex taskDefinition id data now) =
      pure ((progressChildRow parent report handler handlerIndex taskDefinition id data now).withKey
        (taskProgressChildKey env parent.ownerId handler.taskIdentifier parent.id handlerIndex
          report.code report.timestamp)) :=
  rfl

section Growth

variable (env : Env) {snapshot : Database} {newTask : Task → Prop} {newEvent : Event → Prop}

theorem grows_announce (admits : AdmitsAnnounced snapshot newTask newEvent) (task : Task) :
    Moves (GrowsOver snapshot newTask newEvent)
      (emitRunnableTaskEnqueuedEvent (emitEventWithTx env) task) :=
  moves_announce env task admits.tasks admits.events

theorem grows_insertAndAnnounce (admits : AdmitsAnnounced snapshot newTask newEvent) {task : Task}
    (new : newTask task) :
    Moves (GrowsOver snapshot newTask newEvent) (insertAndAnnounce env task) := by
  refine Moves.bind (Service.moves_over (Service.moves_insertTask new)) fun _ => ?_
  refine Moves.bind (Service.moves_record _ _) fun _ => ?_
  exact Moves.bind (grows_announce env admits task) fun _ => moves_pure task

theorem grows_completeTurn (admits : AdmitsAnnounced snapshot newTask newEvent)
    (parent : Task) (completion : TaskCompletion) (indexed : TaskOnCompleteConfig × Nat)
    (child : handlerFires env parent.id completion indexed.1 = true →
      ∀ taskDefinition id data now,
      newTask ((completeChildRow parent completion.success indexed.1 indexed.2 taskDefinition id
        data now).withKey
          (taskCompleteChildKey env parent.ownerId indexed.1.taskIdentifier parent.id
            indexed.2))) :
    Moves (GrowsOver snapshot newTask newEvent)
      (if handlerFires env parent.id completion indexed.1 then
        executeOnCompleteHandler env parent completion.success indexed.1 indexed.2
      else pure ()) := by
  split
  · rename_i fires
    refine Moves.bind (Service.moves_check _) fun taskDefinition => ?_
    refine Moves.bind (Service.moves_now env) fun now => ?_
    refine Moves.bind (Service.moves_randomUUID env) fun id => ?_
    refine Moves.bind (Service.moves_query _) fun db => ?_
    refine Moves.bind (moves_ofExcept _) fun data => ?_
    refine Ensures.bind (ensures_pure rfl) fun row isChild => ?_
    subst isChild
    have new := child fires taskDefinition id data now
    exact Moves.bind (grows_insertAndAnnounce env admits new) fun _ => moves_pure ()
  · exact moves_pure ()

/-- The loop over the completion handlers inserts the children of those that fire. -/
theorem grows_executeOnCompleteHandlers (admits : AdmitsAnnounced snapshot newTask newEvent)
    (parent : Task) (completion : TaskCompletion)
    (child : ∀ index handler, parent.invocation.onComplete[index]? = some handler →
      handlerFires env parent.id completion handler = true → ∀ taskDefinition id data now,
      newTask ((completeChildRow parent completion.success handler index taskDefinition id data
        now).withKey
          (taskCompleteChildKey env parent.ownerId handler.taskIdentifier parent.id index))) :
    Moves (GrowsOver snapshot newTask newEvent)
      (executeOnCompleteHandlers env parent completion) := by
  refine Moves.each _ fun indexed member => ?_
  grind [grows_completeTurn]

theorem grows_progressTurn (admits : AdmitsAnnounced snapshot newTask newEvent)
    (parent : Task) (report : TaskProgressReport) (stored : ReceivedTaskProgressReport)
    (indexed : TaskOnProgressConfig × Nat)
    (child : progressHandlerFires env report parent.data indexed.1 = true →
      ∀ taskDefinition id data now,
      newTask ((progressChildRow parent stored indexed.1 indexed.2 taskDefinition id data
        now).withKey
          (taskProgressChildKey env parent.ownerId indexed.1.taskIdentifier parent.id indexed.2
            stored.code stored.timestamp))) :
    Moves (GrowsOver snapshot newTask newEvent)
      (if progressHandlerFires env report parent.data indexed.1 then
        executeOnProgressHandler env parent stored indexed.1 indexed.2
      else pure ()) := by
  split
  · rename_i fires
    refine Moves.bind (Service.moves_check _) fun taskDefinition => ?_
    refine Moves.bind (Service.moves_now env) fun now => ?_
    refine Moves.bind (Service.moves_randomUUID env) fun id => ?_
    refine Moves.bind (Service.moves_query _) fun db => ?_
    refine Moves.bind (moves_ofExcept _) fun data => ?_
    refine Ensures.bind (ensures_pure rfl) fun row keyed => ?_
    rw [← keyed]
    have new := child fires taskDefinition id data now
    exact Moves.bind (grows_insertAndAnnounce env admits new) fun _ => moves_pure ()
  · exact moves_pure ()

theorem grows_executeOnProgressHandlers (admits : AdmitsAnnounced snapshot newTask newEvent)
    (parent : Task) (report : TaskProgressReport) (stored : ReceivedTaskProgressReport)
    (child : ∀ index handler, parent.invocation.onProgress[index]? = some handler →
      progressHandlerFires env report parent.data handler = true → ∀ taskDefinition id data now,
      newTask ((progressChildRow parent stored handler index taskDefinition id data now).withKey
        (taskProgressChildKey env parent.ownerId handler.taskIdentifier parent.id index
          stored.code stored.timestamp))) :
    Moves (GrowsOver snapshot newTask newEvent)
      (executeOnProgressHandlers env parent report stored) := by
  refine Moves.each _ fun indexed member => ?_
  have declared : parent.invocation.onProgress[indexed.2]? = some indexed.1 :=
    List.mem_zipIdx_iff_getElem?.mp member
  exact grows_progressTurn env admits parent report stored indexed
    (child indexed.2 indexed.1 declared)

theorem grows_answerProgress (admits : AdmitsAnnounced snapshot newTask newEvent)
    (parent : Task) (report : TaskProgressReport) (stored : ReceivedTaskProgressReport)
    (child : ∀ index handler, parent.invocation.onProgress[index]? = some handler →
      progressHandlerFires env report parent.data handler = true → ∀ taskDefinition id data now,
      newTask ((progressChildRow parent stored handler index taskDefinition id data now).withKey
        (taskProgressChildKey env parent.ownerId handler.taskIdentifier parent.id index
          stored.code stored.timestamp))) :
    Moves (GrowsOver snapshot newTask newEvent) (answerProgress env report stored parent) := by
  refine Moves.bind (Service.moves_record _ _) fun _ => ?_
  refine Moves.bind (moves_handleTaskUpdate parent) fun _ => ?_
  exact Moves.bind (grows_executeOnProgressHandlers env admits parent report stored child) fun _ =>
    moves_pure _

theorem grows_announceRequeued (admits : AdmitsAnnounced snapshot newTask newEvent)
    (requeued : Bool) (updated : Option Task) :
    Moves (GrowsOver snapshot newTask newEvent) (announceRequeued env requeued updated) := by
  unfold announceRequeued
  grind [grows_announce, moves_pure]

theorem grows_emitTaskCompletionTelemetry (task : Task)
    (taskNew : ∀ args created, args.emitterIdentifier = task.ownerId →
      EmittedTask snapshot args created → newTask created)
    (eventNew : ∀ event : Event, event.emitterId = task.ownerId ∨ event.emitterId = coreIdentifier →
      newEvent event) :
    Moves (GrowsOver snapshot newTask newEvent) (emitTaskCompletionTelemetry env task) := by
  unfold emitTaskCompletionTelemetry
  split
  · exact moves_pure ()
  · refine Ensures.tryCatch ?_ fun _ => moves_pure ()
    exact moves_emitEvent env _ (fun created emitted => taskNew _ created rfl emitted) eventNew

end Growth

end Lombok.Tasks
