import Mathlib.Data.List.Basic
import Mathlib.Order.Defs.Unbundled

/-!
Contract: finite runs of a deterministic step function.

`run` folds the step over a list of inputs. `AlongRun` says that a property of
a state and the input taken there holds at every step of a run. The rules below
carry a step lemma to whole runs: an invariant that is kept unconditionally,
an invariant that is kept by the steps meeting a condition, and the comparison
of two properties step by step.

Does not own: which states, inputs or steps there are.
-/

namespace Lombok.Library

variable {σ ι : Type}

/-- The state after a list of inputs. -/
def run (step : σ → ι → σ) (start : σ) (inputs : List ι) : σ :=
  inputs.foldl step start

def AlongRun (step : σ → ι → σ) (property : σ → ι → Prop) : σ → List ι → Prop
  | _, [] => True
  | state, input :: rest => property state input ∧ AlongRun step property (step state input) rest

instance decidableAlongRun {step : σ → ι → σ} {property : σ → ι → Prop}
    [decides : ∀ state input, Decidable (property state input)] :
    ∀ start inputs, Decidable (AlongRun step property start inputs)
  | _, [] => isTrue trivial
  | start, input :: rest =>
      match decides start input, decidableAlongRun (step start input) rest with
      | isTrue here, isTrue later => isTrue ⟨here, later⟩
      | isFalse broken, _ => isFalse fun along => broken along.1
      | _, isFalse broken => isFalse fun along => broken along.2

section Rules

variable {step : σ → ι → σ}

@[simp] theorem run_nil (start : σ) : run step start [] = start := rfl

@[simp] theorem run_cons (start : σ) (input : ι) (rest : List ι) :
    run step start (input :: rest) = run step (step start input) rest := rfl

theorem run_append (start : σ) (first second : List ι) :
    run step start (first ++ second) = run step (run step start first) second := by
  exact List.foldl_append

theorem alongRun_iff_split {property : σ → ι → Prop} {start : σ} {inputs : List ι} :
    AlongRun step property start inputs ↔
      ∀ before input after, inputs = before ++ input :: after →
        property (run step start before) input := by
  induction inputs generalizing start with
  | nil => simp [AlongRun]
  | cons head tail inductionHypothesis =>
      simp only [AlongRun]
      rw [inductionHypothesis]
      constructor
      · rintro ⟨headHolds, tailHolds⟩ before input after split
        cases before with
        | nil =>
            obtain ⟨rfl, _⟩ := List.cons.inj split
            exact headHolds
        | cons first middle =>
            obtain ⟨rfl, rest⟩ := List.cons.inj split
            exact tailHolds middle input after rest
      · intro holds
        refine ⟨holds [] head tail rfl, ?_⟩
        intro before input after split
        exact holds (head :: before) input after (by rw [split]; rfl)

theorem alongRun_append {property : σ → ι → Prop} {start : σ} {first second : List ι} :
    AlongRun step property start (first ++ second) ↔
      AlongRun step property start first ∧
        AlongRun step property (run step start first) second := by
  induction first generalizing start with
  | nil => exact (true_and _).to_iff.symm
  | cons head tail inductionHypothesis =>
      simp only [List.cons_append, AlongRun, run_cons]
      rw [inductionHypothesis, and_assoc]

theorem AlongRun.of_append {property : σ → ι → Prop} {start : σ} {first second : List ι}
    (holds : AlongRun step property start (first ++ second)) :
    AlongRun step property start first := (alongRun_append.mp holds).1

theorem AlongRun.imp {first second : σ → ι → Prop}
    (implies : ∀ state input, first state input → second state input) {start : σ}
    {inputs : List ι} (holds : AlongRun step first start inputs) :
    AlongRun step second start inputs := by
  induction inputs generalizing start with
  | nil => trivial
  | cons head tail inductionHypothesis =>
      exact ⟨implies start head holds.1, inductionHypothesis holds.2⟩

theorem alongRun_congr {first second : σ → ι → Prop}
    (agree : ∀ state input, first state input ↔ second state input) {start : σ}
    {inputs : List ι} :
    AlongRun step first start inputs ↔ AlongRun step second start inputs :=
  ⟨AlongRun.imp fun state input => (agree state input).mp,
    AlongRun.imp fun state input => (agree state input).mpr⟩

theorem run_invariant {invariant : σ → Prop}
    (kept : ∀ state input, invariant state → invariant (step state input)) {start : σ}
    (holds : invariant start) (inputs : List ι) : invariant (run step start inputs) := by
  induction inputs generalizing start with
  | nil => exact holds
  | cons head tail inductionHypothesis => exact inductionHypothesis (kept start head holds)

theorem run_invariant_of_alongRun {invariant : σ → Prop} {condition : σ → ι → Prop}
    (kept : ∀ state input, invariant state → condition state input →
      invariant (step state input))
    {start : σ} (holds : invariant start) {inputs : List ι}
    (along : AlongRun step condition start inputs) : invariant (run step start inputs) := by
  induction inputs generalizing start with
  | nil => exact holds
  | cons head tail inductionHypothesis =>
      exact inductionHypothesis (kept start head holds along.1) along.2

theorem AlongRun.of_invariant {invariant : σ → Prop} {condition property : σ → ι → Prop}
    (kept : ∀ state input, invariant state → condition state input →
      invariant (step state input))
    (gives : ∀ state input, invariant state → condition state input → property state input)
    {start : σ} (holds : invariant start) {inputs : List ι}
    (along : AlongRun step condition start inputs) : AlongRun step property start inputs := by
  induction inputs generalizing start with
  | nil => trivial
  | cons head tail inductionHypothesis =>
      exact ⟨gives start head holds along.1,
        inductionHypothesis (kept start head holds along.1) along.2⟩

/-- Where a step keeps an invariant exactly under a condition, a run keeps it exactly when all its
steps meet the condition. -/
theorem alongRun_kept_iff {invariant : σ → Prop} {admitted condition : σ → ι → Prop}
    (kept : ∀ state input, invariant state → admitted state input →
      (invariant (step state input) ↔ condition state input))
    {start : σ} (holds : invariant start) {inputs : List ι}
    (admits : AlongRun step admitted start inputs) :
    AlongRun step (fun state input => invariant (step state input)) start inputs ↔
      AlongRun step condition start inputs := by
  induction inputs generalizing start with
  | nil => exact Iff.rfl
  | cons head tail inductionHypothesis =>
      have here := kept start head holds admits.1
      constructor
      · intro along
        exact ⟨here.mp along.1, (inductionHypothesis along.1 admits.2).mp along.2⟩
      · intro along
        have next := here.mpr along.1
        exact ⟨next, (inductionHypothesis next admits.2).mpr along.2⟩

theorem alongRun_congr_of_invariant {invariant : σ → Prop} {admitted : ι → Prop}
    {first second : σ → ι → Prop}
    (kept : ∀ state input, invariant state → admitted input → invariant (step state input))
    (agree : ∀ state input, invariant state → admitted input →
      (first state input ↔ second state input))
    {start : σ} (holds : invariant start) {inputs : List ι}
    (all : ∀ input ∈ inputs, admitted input) :
    AlongRun step first start inputs ↔ AlongRun step second start inputs := by
  induction inputs generalizing start with
  | nil => exact Iff.rfl
  | cons head tail inductionHypothesis =>
      have headAdmitted := all head (List.mem_cons_self ..)
      have tailAdmitted : ∀ input ∈ tail, admitted input :=
        fun input member => all input (List.mem_cons_of_mem head member)
      exact and_congr (agree start head holds headAdmitted)
        (inductionHypothesis (kept start head holds headAdmitted) tailAdmitted)

end Rules

end Lombok.Library
