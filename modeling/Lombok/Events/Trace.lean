import Lombok.Core.Trace
import Lombok.Events.Growth

/-!
Contract: the effects an emission leaves.

Everything an emission does, nested announcements included, is done under the
identifier of the emitter or of the platform, and is an event, a task or a
notification of a user.
-/

namespace Lombok.Events

open Lombok.Core Lombok.Library Lombok.Library.Action Lombok.Tasks Lombok.Apps

/-- What an emission does besides writing rows. -/
def IsEmissionAction : EffectAction → Prop
  | .eventEmitted _ | .taskCreated _ _ | .appUserNotified _ => True
  | _ => False

/-- An effect of an emission by the emitter. -/
structure IsEmissionEffect (emitter : String) (effect : Effect) : Prop where
  actor : effect.actor = emitter ∨ effect.actor = coreIdentifier
  action : IsEmissionAction effect.action

theorem IsEmissionEffect.of_core {emitter : String} {effect : Effect}
    (fromCore : IsEmissionEffect coreIdentifier effect) : IsEmissionEffect emitter effect :=
  ⟨.inr (fromCore.actor.elim id id), fromCore.action⟩

variable {emitter : String}

theorem traces_recordCreatedTasks (tasks : List Task) :
    Moves (Traces (IsEmissionEffect emitter)) (recordCreatedTasks emitter tasks) :=
  Moves.each tasks fun _ _ => Service.traces_record ⟨.inl rfl, trivial⟩

theorem traces_notifyTargetUser (args : EmitEventArgs) (app : Option App) :
    Moves (Traces (IsEmissionEffect args.emitterIdentifier)) (notifyTargetUser args app) := by
  unfold notifyTargetUser
  split
  · exact Service.traces_record ⟨.inl rfl, trivial⟩
  · exact moves_pure ()

theorem traces_scheduleNotifications (env : Env) (aggregationKey : Option String) (now : Date) :
    Moves (Traces (IsEmissionEffect emitter)) (scheduleNotifications env aggregationKey now) := by
  unfold scheduleNotifications
  split
  · exact moves_pure ()
  · refine Moves.bind (Service.moves_randomUUID env) fun id => ?_
    refine Moves.bind (ensures_withTaskIdempotencyKey env _).moves fun task => ?_
    refine Ensures.tryCatch (Service.leaves_insertTask _) fun error => ?_
    split
    · exact moves_pure ()
    · exact ensures_throw _

/-- One level of emission, given what the nested ones leave. -/
theorem traces_emitValidatedEvent (env : Env) {emit : EmitEventArgs → Service Unit}
    (args : EmitEventArgs) (app : Option App) (now : Date)
    (nestedTraces : ∀ nested, IsEnqueuedEvent nested →
      Moves (Traces (IsEmissionEffect args.emitterIdentifier)) (emit nested)) :
    Moves (Traces (IsEmissionEffect args.emitterIdentifier))
      (emitValidatedEvent env emit args app now) := by
  refine Moves.bind (Service.moves_randomUUID env) fun id => ?_
  refine Moves.bind (Service.leaves_insertEvent _) fun _ => ?_
  refine Moves.bind (Service.traces_record ⟨.inl rfl, trivial⟩) fun _ => ?_
  refine Moves.bind (Service.moves_query _) fun candidates => ?_
  refine Moves.bind (Ensures.collect candidates fun candidate _ =>
    (ensures_buildCandidateTask env nestedTraces args _ now candidate).moves).moves
    fun triggered => ?_
  refine Moves.bind (ensures_coreTasksOf env args _ now).moves fun coreTasks => ?_
  refine Moves.bind (Service.leaves_insertTasks _) fun _ => ?_
  refine Moves.bind (traces_recordCreatedTasks _) fun _ => ?_
  refine Moves.bind (traces_notifyTargetUser args app) fun _ => ?_
  exact traces_scheduleNotifications env _ now

theorem traces_emitEventInTx (env : Env) (depth : Nat) (args : EmitEventArgs) :
    Moves (Traces (IsEmissionEffect args.emitterIdentifier)) (emitEventInTx env depth args) := by
  induction depth generalizing args with
  | zero => exact ensures_throw _
  | succ depth inductionHypothesis =>
      refine Moves.bind (moves_require _ _) fun _ => ?_
      refine Moves.bind (Service.moves_now env) fun now => ?_
      refine Moves.bind (Service.moves_check _) fun app => ?_
      refine Moves.bind (moves_admitsEmitter args app _) fun admitted => ?_
      split
      · refine traces_emitValidatedEvent env args app now fun nested isNested => ?_
        have traced := inductionHypothesis nested
        rw [isNested.1] at traced
        exact moves_traces_mono traced fun effect => IsEmissionEffect.of_core
      · exact moves_pure ()

theorem traces_emitEvent (env : Env) (args : EmitEventArgs) :
    Moves (Traces (IsEmissionEffect args.emitterIdentifier)) (emitEvent env args) := by
  refine Moves.bind (moves_require _ _) fun _ => ?_
  refine Moves.bind (Service.moves_check _) fun app => ?_
  refine Moves.bind (moves_admitsEmitter args app true) fun admitted => ?_
  split
  · exact Ensures.transaction (traces_emitEventInTx env _ _)
  · exact moves_pure ()

end Lombok.Events
