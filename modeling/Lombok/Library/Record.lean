import Mathlib.Data.List.Basic

/-!
Contract: records from keys to values as lists of entries, where the first
entry of a key counts.

Owns looking up a key, setting one, overriding one record with another, and a
record carrying all entries that another one asks for.

Does not own: the order of the entries.
-/

namespace Lombok.Library

abbrev Record (K V : Type) := List (K × V)

namespace Record

variable {K V : Type} [DecidableEq K]

def get? (record : Record K V) (key : K) : Option V :=
  (record.find? fun entry => decide (entry.1 = key)).map Prod.snd

/-- The record with the overriding entries put first. -/
def override (record overrides : Record K V) : Record K V := overrides ++ record

@[simp] theorem get?_nil (key : K) : get? ([] : Record K V) key = none := rfl

theorem get?_cons (entry : K × V) (rest : Record K V) (key : K) :
    get? (entry :: rest) key = if entry.1 = key then some entry.2 else get? rest key := by
  grind [get?]

theorem get?_append (first second : Record K V) (key : K) :
    get? (first ++ second) key = (get? first key).or (get? second key) := by
  induction first with
  | nil => rfl
  | cons entry rest inductionHypothesis =>
      rw [List.cons_append, get?_cons, get?_cons]
      grind

theorem get?_override (record overrides : Record K V) (key : K) :
    (record.override overrides).get? key = (overrides.get? key).or (record.get? key) :=
  get?_append overrides record key

/-- Replace the value of a key in place, or add the key at the end. -/
def set (record : Record K V) (key : K) (value : V) : Record K V :=
  match record with
  | [] => [(key, value)]
  | entry :: rest =>
      if entry.1 = key then (key, value) :: rest else entry :: set rest key value

theorem get?_set (record : Record K V) (key other : K) (value : V) :
    (record.set key value).get? other = if other = key then some value else record.get? other := by
  induction record with
  | nil =>
      rw [set, get?_cons]
      grind
  | cons entry rest inductionHypothesis =>
      unfold set
      by_cases same : entry.1 = key
      · rw [if_pos same, get?_cons, get?_cons, same]
        grind
      · rw [if_neg same, get?_cons, inductionHypothesis, get?_cons]
        grind

theorem filter_key {record : Record K V} (distinct : (record.map Prod.fst).Nodup) (key : K) :
    (record.filter fun entry => entry.1 == key) =
      (record.get? key).toList.map fun value => (key, value) := by
  induction record with
  | nil => rfl
  | cons entry rest inductionHypothesis =>
      rw [List.map_cons, List.nodup_cons] at distinct
      rw [get?_cons]
      by_cases same : entry.1 = key
      · have others : (rest.filter fun entry => entry.1 == key) = [] := by
          rw [List.filter_eq_nil_iff]
          intro other member otherSame
          apply distinct.1
          rw [same, ← beq_iff_eq.mp otherSame]
          exact List.mem_map_of_mem member
        grind
      · grind

theorem mem_of_get? {record : Record K V} {key : K} {value : V}
    (held : record.get? key = some value) : (key, value) ∈ record := by
  induction record with
  | nil => cases held
  | cons entry rest inductionHypothesis =>
      rw [get?_cons] at held
      grind

section Carries

variable [DecidableEq V]

/-- Every entry that is asked for is the record's own. -/
def carries (record asked : Record K V) : Bool :=
  asked.all fun entry => decide (record.get? entry.1 = asked.get? entry.1)

theorem get?_of_carries {record asked : Record K V} (carried : record.carries asked = true)
    {key : K} {value : V} (held : asked.get? key = some value) : record.get? key = some value := by
  have own := List.all_eq_true.mp carried (key, value) (mem_of_get? held)
  rw [← held]
  exact of_decide_eq_true own

end Carries

end Record

end Lombok.Library
