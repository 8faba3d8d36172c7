import Mathlib.Data.List.Basic
import Mathlib.Data.List.ReduceOption
import Mathlib.Order.Basic
import Mathlib.Data.List.Nodup

/-!
Contract: lists with some of their items cut out.

Owns the list that shows a gap where an item was, what is kept of it, and when
another selection from the list, rewritten or not, is what is kept.

Does not own: what makes an item one to cut out.
-/

namespace Lombok.Library

def cutOut {A : Type} (secret : A → Bool) (items : List A) : List (Option A) :=
  items.map fun item => if secret item then none else some item

section CutOut

variable {A : Type} {secret : A → Bool} {items : List A}

theorem reduceOption_cutOut :
    (cutOut secret items).reduceOption = items.filter fun item => !secret item := by
  induction items with
  | nil => rfl
  | cons item rest inductionHypothesis =>
      unfold cutOut at inductionHypothesis ⊢
      rw [List.map_cons]
      by_cases cut : secret item = true
      · rw [if_pos cut, List.reduceOption_cons_of_none, inductionHypothesis,
          List.filter_cons_of_neg (by rw [cut]; decide)]
      · rw [if_neg cut, List.reduceOption_cons_of_some, inductionHypothesis,
          List.filter_cons_of_pos (by rw [Bool.not_eq_true] at cut; rw [cut]; decide)]

theorem none_mem_cutOut : none ∈ cutOut secret items ↔ ∃ item ∈ items, secret item = true := by
  simp [cutOut]

theorem some_mem_cutOut {item : A} :
    some item ∈ cutOut secret items ↔ item ∈ items ∧ secret item = false := by
  simp [cutOut]

end CutOut

/-! ### Selections -/

section Selections

variable {A : Type} {chosen kept : A → Bool} {items : List A}

theorem filter_eq_filter_iff :
    items.filter chosen = items.filter kept ↔ ∀ item ∈ items, chosen item = kept item := by
  constructor
  · intro same item member
    have both : item ∈ items.filter chosen ↔ item ∈ items.filter kept := by rw [same]
    grind
  · intro pointwise
    exact List.filter_congr pointwise

/-- A smaller selection that is rewritten is the larger one exactly when it is as large and
every item in it is rewritten to itself. -/
theorem map_filter_eq_filter_iff {rewrite : A → A}
    (smaller : ∀ item ∈ items, chosen item = true → kept item = true) :
    (items.filter chosen).map rewrite = items.filter kept ↔
      ∀ item ∈ items, kept item = true → chosen item = true ∧ rewrite item = item := by
  constructor
  · intro same
    have within : (items.filter chosen).Sublist (items.filter kept) := by
      have narrowed : (items.filter kept).filter chosen = items.filter chosen := by
        rw [List.filter_filter]
        apply List.filter_congr
        intro item member
        by_cases selected : chosen item = true
        · rw [selected, smaller item member selected]
          rfl
        · simp [selected]
      rw [← narrowed]
      exact List.filter_sublist
    have lengths : (items.filter chosen).length = (items.filter kept).length := by
      rw [← same, List.length_map]
    have selections := within.eq_of_length lengths
    have fixed : ∀ item ∈ items.filter chosen, rewrite item = id item := by
      apply List.map_inj_left.mp
      rw [same, List.map_id, selections]
    intro item member held
    have selected : item ∈ items.filter chosen := by
      rw [selections]
      exact List.mem_filter.mpr ⟨member, held⟩
    exact ⟨(List.mem_filter.mp selected).2, fixed item selected⟩
  · intro pointwise
    have selections : items.filter chosen = items.filter kept := by
      rw [filter_eq_filter_iff]
      intro item member
      rw [Bool.eq_iff_iff]
      exact ⟨smaller item member, fun held => (pointwise item member held).1⟩
    have fixed : (items.filter kept).map rewrite = (items.filter kept).map id := by
      apply List.map_inj_left.mpr
      grind
    rw [selections, fixed, List.map_id]

end Selections

end Lombok.Library
