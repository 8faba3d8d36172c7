import Lombok.Library.Run

/-!
Contract: ledgers of authorised changes.

A system acts on a view of its state at every step. The ledger of a run starts
as the view and takes over the authorised acts only, so it holds what the last
authorised change made of the view. `agrees_iff` says for which runs the view
is the ledger in every state reached.

Does not own: what is viewed, or who is authorised.
-/

namespace Lombok.Library

variable {σ ι ν : Type} {step : σ → ι → σ} {view : σ → ν} {act : σ → ι → ν → ν}
  {authorised : σ → ι → Bool}

/-- The view after a step is what the input makes of the view before it. -/
def ActsOn (step : σ → ι → σ) (view : σ → ν) (act : σ → ι → ν → ν) : Prop :=
  ∀ state input, view (step state input) = act state input (view state)

/-- The entries after a run that only authorised inputs have changed. -/
def ledger (step : σ → ι → σ) (act : σ → ι → ν → ν) (authorised : σ → ι → Bool) :
    σ → ν → List ι → ν
  | _, entries, [] => entries
  | state, entries, input :: rest =>
      ledger step act authorised (step state input)
        (if authorised state input then act state input entries else entries) rest

/-- The step is authorised or leaves the view as it is. -/
def Harmless (view : σ → ν) (act : σ → ι → ν → ν) (authorised : σ → ι → Bool) (state : σ)
    (input : ι) : Prop :=
  authorised state input = true ∨ act state input (view state) = view state

/-- In every state reached, the view is the ledger. -/
def Agrees (step : σ → ι → σ) (view : σ → ν) (act : σ → ι → ν → ν) (authorised : σ → ι → Bool)
    (start : σ) (inputs : List ι) : Prop :=
  ∀ before after, inputs = before ++ after →
    view (run step start before) = ledger step act authorised start (view start) before

/-- One step keeps view and ledger together exactly if it is harmless. -/
theorem harmless_iff (acts : ActsOn step view act) (state : σ) (input : ι) :
    Harmless view act authorised state input ↔
      view (step state input) =
        if authorised state input then act state input (view state) else view state := by
  rw [Harmless, acts state input]
  grind

theorem agrees_cons (acts : ActsOn step view act) (start : σ) (input : ι) (rest : List ι) :
    Agrees step view act authorised start (input :: rest) ↔
      Harmless view act authorised start input ∧
        Agrees step view act authorised (step start input) rest := by
  rw [harmless_iff acts]
  constructor
  · intro agrees
    have head : view (step start input) =
        if authorised start input then act start input (view start) else view start :=
      agrees [input] rest rfl
    refine ⟨head, ?_⟩
    intro before after split
    have later := agrees (input :: before) after (by rw [split]; rfl)
    rw [run_cons, ledger, ← head] at later
    exact later
  · rintro ⟨head, tail⟩ before after split
    cases before with
    | nil => rfl
    | cons first middle =>
        obtain ⟨rfl, restSplit⟩ := List.cons.inj split
        rw [run_cons, ledger, ← head]
        exact tail middle after restSplit

/-- The view is the ledger throughout a run exactly if every step of it is harmless. -/
theorem agrees_iff (acts : ActsOn step view act) {start : σ} {inputs : List ι} :
    Agrees step view act authorised start inputs ↔
      AlongRun step (Harmless view act authorised) start inputs := by
  induction inputs generalizing start with
  | nil =>
      constructor
      · intro agrees
        trivial
      · intro along before after split
        obtain ⟨rfl, -⟩ := List.append_eq_nil_iff.mp split.symm
        rfl
  | cons head tail inductionHypothesis =>
      rw [agrees_cons acts, inductionHypothesis]
      exact Iff.rfl

end Lombok.Library
