import Lombok.Core.Growth

/-!
Contract: the trace of effects a call leaves.

`Traces` is the relation of calls that only add effects, all of them admitted by
a predicate. Statements that write tables leave the trace alone, so along it
only `record` has to be looked at.

Does not own: which effects a service records.
-/

namespace Lombok.Core

open Lombok.Library Lombok.Library.Action Lombok.Tasks Lombok.Events

/-- A preorder on worlds that only the trace of effects can break. -/
class EffectRelation (relation : World → World → Prop) : Prop
    extends IsPreorder World relation where
  of_same_effects : ∀ {before after : World}, after.effects = before.effects →
    relation before after

instance {relation : World → World → Prop} [EffectRelation relation] : QuietRelation relation where
  of_quiet _ same := EffectRelation.of_same_effects same

/-- Effects are only added, and the predicate admits the added ones. -/
def Traces (admitted : Effect → Prop) (before after : World) : Prop :=
  ∃ added, after.effects = before.effects ++ added ∧ ∀ effect ∈ added, admitted effect

section Traces

variable {admitted : Effect → Prop} {before middle after : World}

theorem Traces.of_same_effects (same : after.effects = before.effects) :
    Traces admitted before after :=
  ⟨[], by rw [same, List.append_nil], by simp⟩

theorem Traces.trans (first : Traces admitted before middle)
    (second : Traces admitted middle after) : Traces admitted before after := by
  obtain ⟨early, earlyEqual, earlyAdmitted⟩ := first
  obtain ⟨late, lateEqual, lateAdmitted⟩ := second
  refine ⟨early ++ late, by rw [lateEqual, earlyEqual, List.append_assoc], ?_⟩
  grind

instance : EffectRelation (Traces admitted) where
  refl _ := Traces.of_same_effects rfl
  trans _ _ _ := Traces.trans
  of_same_effects := Traces.of_same_effects

theorem Traces.mono {weaker : Effect → Prop} (traces : Traces admitted before after)
    (implies : ∀ effect, admitted effect → weaker effect) : Traces weaker before after := by
  obtain ⟨added, equal, allAdmitted⟩ := traces
  exact ⟨added, equal, fun effect member => implies effect (allAdmitted effect member)⟩

end Traces

theorem moves_traces_mono {admitted weaker : Effect → Prop} {α : Type} {operation : Service α}
    (moves : Moves (Traces admitted) operation)
    (implies : ∀ effect, admitted effect → weaker effect) : Moves (Traces weaker) operation :=
  fun world => ⟨(moves world).1.mono implies, fun _ _ => trivial⟩

namespace Service

section Effects

variable {relation : World → World → Prop} [EffectRelation relation]

theorem leaves_write (change : Database → Database) : Moves relation (write change) :=
  moves_modify fun _ => EffectRelation.of_same_effects rfl

theorem leaves_insertTask (task : Task) : Moves relation (insertTask task) := by
  refine Moves.bind (moves_query _) fun tasks => ?_
  exact Moves.bind (moves_orThrow _ _) fun inserted => leaves_write _

theorem leaves_insertTasks (tasks : List Task) : Moves relation (insertTasks tasks) :=
  Ensures.transaction (Moves.each tasks fun task _ => leaves_insertTask task)

theorem leaves_insertEvent (event : Event) : Moves relation (insertEvent event) := by
  refine Moves.bind (moves_require _ _) fun _ => ?_
  refine Moves.bind (moves_query _) fun events => ?_
  exact Moves.bind (moves_orThrow _ _) fun inserted => leaves_write _

theorem answers_s3 {α : Type} (answer : Nat → Except ApiError α) :
    Ensures relation (fun value => ∃ request, answer request = .ok value) (s3 answer) := by
  refine Moves.bind (moves_gets _) fun draws => ?_
  grind [Moves.bind, moves_draw, ensures_ofExcept]

theorem leaves_s3 {α : Type} (answer : Nat → Except ApiError α) : Moves relation (s3 answer) :=
  (answers_s3 answer).moves

end Effects

theorem traces_record {admitted : Effect → Prop} {actor : String} {action : EffectAction}
    (isAdmitted : admitted { actor := actor, action := action }) :
    Moves (Traces admitted) (record actor action) := by
  refine moves_modify fun world => ?_
  refine ⟨[{ actor := actor, action := action }], rfl, ?_⟩
  intro effect member
  rw [List.mem_singleton.mp member]
  exact isAdmitted

end Service

end Lombok.Core
