import Lombok.Library.Record
import Mathlib.Data.List.Nodup

/-!
Contract: maps that keep their entries in the order of insertion.

A map carries the proof that no key has two entries. Setting a key that is there
replaces its value in place; setting another one appends an entry.

Owns lookups after each operation, the entries and the size.
-/

namespace Lombok.Library

structure OrderedMap (K V : Type) where
  entries : List (K × V)
  distinct : (entries.map Prod.fst).Nodup

namespace OrderedMap

variable {K V : Type} [DecidableEq K]

def empty : OrderedMap K V := ⟨[], List.nodup_nil⟩

def get? (map : OrderedMap K V) (key : K) : Option V := Record.get? map.entries key

def has (map : OrderedMap K V) (key : K) : Bool := (map.get? key).isSome

def size (map : OrderedMap K V) : Nat := map.entries.length

def replaced (entries : List (K × V)) (key : K) (value : V) : List (K × V) :=
  entries.map fun entry => if entry.1 = key then (key, value) else entry

theorem replaced_keys (entries : List (K × V)) (key : K) (value : V) :
    (replaced entries key value).map Prod.fst = entries.map Prod.fst := by
  rw [replaced, List.map_map]
  apply List.map_congr_left
  grind

variable {key : K} (map : OrderedMap K V)

theorem get?_eq_none {entries : List (K × V)} :
    Record.get? entries key = none ↔ key ∉ entries.map Prod.fst := by
  induction entries with
  | nil => exact ⟨fun _ => List.not_mem_nil, fun _ => rfl⟩
  | cons entry rest inductionHypothesis =>
      rw [Record.get?_cons, List.map_cons, List.mem_cons, not_or]
      grind

def set (map : OrderedMap K V) (key : K) (value : V) : OrderedMap K V :=
  if found : key ∈ map.entries.map Prod.fst then
    ⟨replaced map.entries key value, by rw [replaced_keys]; exact map.distinct⟩
  else
    ⟨map.entries ++ [(key, value)], by
      rw [List.map_append, List.map_singleton]
      exact map.distinct.append (List.nodup_singleton key)
        (List.disjoint_singleton.mpr found)⟩

def delete (map : OrderedMap K V) (key : K) : OrderedMap K V :=
  ⟨map.entries.filter fun entry => entry.1 != key,
    map.distinct.sublist (List.filter_sublist.map Prod.fst)⟩

/-! ### Lookups -/

theorem get?_replaced (entries : List (K × V)) (key other : K) (value : V) :
    Record.get? (replaced entries key value) other =
      if other = key then (Record.get? entries key).map fun _ => value
      else Record.get? entries other := by
  induction entries with
  | nil => simp [replaced]
  | cons entry rest inductionHypothesis =>
      unfold replaced at inductionHypothesis ⊢
      rw [List.map_cons, Record.get?_cons, Record.get?_cons, Record.get?_cons, inductionHypothesis]
      grind

theorem get?_set (key other : K) (value : V) :
    (map.set key value).get? other = if other = key then some value else map.get? other := by
  unfold set get?
  by_cases found : key ∈ map.entries.map Prod.fst
  · rw [dif_pos found]
    rw [get?_replaced]
    have present : Record.get? map.entries key ≠ none := fun none => get?_eq_none.mp none found
    obtain ⟨held, same⟩ := Option.ne_none_iff_exists'.mp present
    rw [same, Option.map_some]
  · rw [dif_neg found]
    rw [Record.get?_append, Record.get?_cons, Record.get?_nil]
    by_cases asked : other = key
    · rw [if_pos asked.symm, if_pos asked, asked, get?_eq_none.mpr found, Option.none_or]
    · rw [if_neg (Ne.symm asked), if_neg asked, Option.or_none]

@[simp] theorem get?_set_self (key : K) (value : V) :
    (map.set key value).get? key = some value := by
  rw [get?_set, if_pos rfl]

theorem get?_set_other {other : K} (value : V) (different : other ≠ key) :
    (map.set key value).get? other = map.get? other := by
  rw [get?_set, if_neg different]

theorem get?_delete (key other : K) :
    (map.delete key).get? other = if other = key then none else map.get? other := by
  unfold delete get?
  dsimp only
  induction map.entries with
  | nil => simp
  | cons entry rest inductionHypothesis =>
      rw [List.filter_cons, Record.get?_cons]
      by_cases same : entry.1 = key
      · grind
      · rw [if_pos (bne_iff_ne.mpr same), Record.get?_cons, inductionHypothesis]
        grind

theorem get?_delete_other {other : K} (different : other ≠ key) :
    (map.delete key).get? other = map.get? other := by
  rw [get?_delete, if_neg different]

/-- The entries are the pairs that are found. -/
theorem mem_entries_iff {value : V} :
    (key, value) ∈ map.entries ↔ map.get? key = some value := by
  constructor
  · intro member
    have inFilter : (key, value) ∈ map.entries.filter fun entry => entry.1 == key :=
      List.mem_filter.mpr ⟨member, beq_iff_eq.mpr rfl⟩
    rw [Record.filter_key map.distinct, List.mem_map] at inFilter
    obtain ⟨held, isHeld, same⟩ := inFilter
    cases same
    exact Option.mem_toList.mp isHeld
  · exact Record.mem_of_get?

end OrderedMap

end Lombok.Library
