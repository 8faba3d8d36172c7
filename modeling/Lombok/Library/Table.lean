import Mathlib.Data.List.Basic

/-!
Contract: tables of rows under unique constraints.

A table carries the proof that no two of its rows clash on a unique column.
`insert` fails on a clash, and `update` takes a change that is known to leave
the unique columns alone, so every table ever built is well formed.

Does not own: which columns a table has, or which of them are unique.
-/

namespace Lombok.Library

/-- Rows in insertion order, no two of them clashing. -/
structure Table (Row : Type) (clash : Row → Row → Bool) where
  rows : List Row
  distinct : rows.Pairwise fun earlier later => clash earlier later = false

/-- A change that no unique constraint can see. -/
def Keeps {Row : Type} (clash : Row → Row → Bool) (change : Row → Row) : Prop :=
  ∀ left right, clash (change left) right = clash left right ∧
    clash left (change right) = clash left right

namespace Table

variable {Row : Type} {clash : Row → Row → Bool}

def empty : Table Row clash := ⟨[], List.Pairwise.nil⟩

instance : Inhabited (Table Row clash) := ⟨empty⟩

def singleton (row : Row) : Table Row clash := ⟨[row], List.pairwise_singleton _ _⟩

def find? (table : Table Row clash) (condition : Row → Bool) : Option Row :=
  table.rows.find? condition

/-- Add a row at the end, unless a row already there clashes with it. -/
def insert (table : Table Row clash) (row : Row) : Option (Table Row clash) :=
  if fresh : ∀ other ∈ table.rows, clash other row = false then
    some
      { rows := table.rows ++ [row]
        distinct := by
          refine List.pairwise_append.mpr ⟨table.distinct, List.pairwise_singleton _ _, ?_⟩
          intro other member new isNew
          rw [List.mem_singleton.mp isNew]
          exact fresh other member }
  else
    none

/-- Change every row that satisfies the condition. -/
def update (table : Table Row clash) (condition : Row → Bool) (change : Row → Row)
    (keeps : Keeps clash change) : Table Row clash :=
  { rows := table.rows.map fun row => if condition row then change row else row
    distinct := by
      refine List.pairwise_map.mpr (table.distinct.imp ?_)
      intro earlier later apart
      have keepsLeft := fun other => (keeps earlier other).1
      have keepsRight := fun other => (keeps other later).2
      split <;> split <;> simp only [keepsLeft, keepsRight, apart] }

def delete (table : Table Row clash) (condition : Row → Bool) : Table Row clash :=
  { rows := table.rows.filter fun row => !condition row
    distinct := table.distinct.filter _ }

/-! ### Lookups after a write -/

theorem insert_rows {table after : Table Row clash} {row : Row}
    (inserted : table.insert row = some after) : after.rows = table.rows ++ [row] := by
  grind [insert]

theorem insert_fresh {table after : Table Row clash} {row : Row}
    (inserted : table.insert row = some after) : ∀ other ∈ table.rows, clash other row = false := by
  grind [insert]

theorem insert_of_fresh {table : Table Row clash} {row : Row}
    (fresh : ∀ other ∈ table.rows, clash other row = false) :
    ∃ after, table.insert row = some after := by
  rw [insert, dif_pos fresh]
  exact ⟨_, rfl⟩

theorem find?_insert_of_found {table after : Table Row clash} {row found : Row}
    {condition : Row → Bool} (inserted : table.insert row = some after)
    (before : table.find? condition = some found) : after.find? condition = some found := by
  unfold find? at before ⊢
  rw [insert_rows inserted, List.find?_append, before, Option.some_or]

theorem find?_insert {table after : Table Row clash} {row : Row} {condition : Row → Bool}
    (inserted : table.insert row = some after) :
    after.find? condition =
      (table.find? condition).or (if condition row then some row else none) := by
  unfold find?
  rw [insert_rows inserted, List.find?_append]
  simp

/-- Updating commutes with a lookup by columns the change does not touch. -/
theorem find?_update {table : Table Row clash} {condition selected : Row → Bool}
    {change : Row → Row} {keeps : Keeps clash change}
    (stable : ∀ row, selected (change row) = selected row) :
    (table.update condition change keeps).find? selected =
      (table.find? selected).map fun row => if condition row then change row else row := by
  unfold find? update
  rw [List.find?_map]
  congr 1
  apply congrArg (fun test => List.find? test table.rows)
  grind

/-- Deleting rows a lookup does not select keeps what it finds. -/
theorem find?_delete {table : Table Row clash} {condition selected : Row → Bool}
    (outside : ∀ row, selected row = true → condition row = false) :
    (table.delete condition).find? selected = table.find? selected := by
  unfold find? delete
  rw [List.find?_filter]
  apply congrArg (fun test => List.find? test table.rows)
  funext row
  cases isSelected : selected row with
  | false => simp
  | true => simp [outside row isSelected]

/-- An update whose condition no row meets changes nothing. -/
theorem update_missed {table : Table Row clash} {condition : Row → Bool} {change : Row → Row}
    (keeps : Keeps clash change) (missed : ∀ row ∈ table.rows, condition row = false) :
    table.update condition change keeps = table := by
  obtain ⟨rows, distinct⟩ := table
  have same : rows.map (fun row => if condition row then change row else row) = rows := by
    refine (List.map_congr_left fun row member => ?_).trans (List.map_id rows)
    rw [missed row member]
    rfl
  unfold update
  simp only [same]

theorem mem_insert {table after : Table Row clash} {row other : Row}
    (inserted : table.insert row = some after) :
    other ∈ after.rows ↔ other ∈ table.rows ∨ other = row := by
  rw [insert_rows inserted, List.mem_append, List.mem_singleton]

theorem mem_update {table : Table Row clash} {condition : Row → Bool} {change : Row → Row}
    {keeps : Keeps clash change} {row : Row} :
    row ∈ (table.update condition change keeps).rows ↔
      ∃ old ∈ table.rows, (if condition old then change old else old) = row := by
  exact List.mem_map

/-! ### Views: the rows a condition selects -/

/-- The rows that satisfy a condition, in table order. -/
def view (table : Table Row clash) (condition : Row → Bool) : List Row :=
  table.rows.filter condition

/-! ### Unique rows -/

theorem eq_of_clash (table : Table Row clash)
    (symmetric : ∀ left right, clash left right = clash right left) {left right : Row}
    (leftMember : left ∈ table.rows) (rightMember : right ∈ table.rows)
    (clashes : clash left right = true) : left = right := by
  obtain ⟨rows, distinct⟩ := table
  induction rows with
  | nil => simp at leftMember
  | cons head tail inductionHypothesis =>
      grind [List.pairwise_cons.mp]

theorem view_length_le_one (table : Table Row clash) {selected : Row → Bool}
    (clashes : ∀ left ∈ table.rows, ∀ right ∈ table.rows, selected left = true →
      selected right = true → clash left right = true) : (table.view selected).length ≤ 1 := by
  have apart := table.distinct.filter selected
  have member : ∀ row ∈ table.view selected, row ∈ table.rows ∧ selected row = true :=
    fun row inView => List.mem_filter.mp inView
  change (table.view selected).Pairwise _ at apart
  rcases viewed : table.view selected with _ | ⟨first, _ | ⟨second, rest⟩⟩
  · simp
  · simp
  · grind

/-- A view of at most one row is what the lookup finds. -/
theorem view_eq_find? (table : Table Row clash) {selected : Row → Bool}
    (clashes : ∀ left ∈ table.rows, ∀ right ∈ table.rows, selected left = true →
      selected right = true → clash left right = true) :
    table.view selected = (table.find? selected).toList := by
  have short := table.view_length_le_one clashes
  have head : (table.view selected).head? = table.find? selected := List.head?_filter ..
  rw [← head]
  rcases viewed : table.view selected with _ | ⟨first, _ | ⟨second, rest⟩⟩
  · rfl
  · rfl
  · rw [viewed] at short
    simp at short

/-- A lookup that adds a guard to a condition only one row meets. -/
theorem find?_and_of_unique (table : Table Row clash) {selected guard : Row → Bool}
    (unique : ∀ left ∈ table.rows, ∀ right ∈ table.rows, selected left = true →
      selected right = true → left = right) :
    table.find? (fun row => selected row && guard row) = (table.find? selected).filter guard := by
  rcases found : table.find? selected with _ | row
  · have noRow := List.find?_eq_none.mp found
    have noGuarded : table.find? (fun row => selected row && guard row) = none := by
      refine List.find?_eq_none.mpr ?_
      grind
    rw [noGuarded]
    rfl
  · have rowMember := List.mem_of_find?_eq_some found
    have rowSelected : selected row = true := List.find?_some found
    rcases guarded : table.find? (fun row => selected row && guard row) with _ | other
    · have noGuard := List.find?_eq_none.mp guarded row rowMember
      grind
    · have otherHolds : (selected other && guard other) = true :=
        @List.find?_some _ (fun row => selected row && guard row) _ _ guarded
      obtain ⟨otherSelected, otherGuard⟩ := Bool.and_eq_true_iff.mp otherHolds
      have same := unique other (List.mem_of_find?_eq_some guarded) row rowMember otherSelected
        rowSelected
      grind

end Table

end Lombok.Library
