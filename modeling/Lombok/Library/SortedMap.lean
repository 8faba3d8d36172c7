import Mathlib.Data.List.Basic
import Mathlib.Order.Lattice

/-!
Contract: maps that are printed in the order of their keys.

`ofList` reads entries from the front, a later one replacing an earlier one of
the same key, and keeps them sorted. The keys it leaves strictly increase, and a
list whose keys strictly increase is left as it is, so reading again what was
printed changes nothing.

Does not own what the keys and values are.
-/

namespace Lombok.Library.SortedMap

variable {κ β : Type} [LinearOrder κ]

/-- Put an entry at its place, in the place of the one with its key. -/
def insert (key : κ) (value : β) : List (κ × β) → List (κ × β)
  | [] => [(key, value)]
  | entry :: rest =>
      if key = entry.1 then (key, value) :: rest
      else if key < entry.1 then (key, value) :: entry :: rest
      else entry :: insert key value rest

def insertAll (entries : List (κ × β)) : List (κ × β) → List (κ × β)
  | [] => entries
  | entry :: rest => insertAll (insert entry.1 entry.2 entries) rest

/-- The map the entries make. -/
def ofList (entries : List (κ × β)) : List (κ × β) := insertAll [] entries

/-- The keys strictly increase. -/
def Sorted (entries : List (κ × β)) : Prop :=
  entries.Pairwise fun left right => left.1 < right.1

variable {entries : List (κ × β)} {key : κ} {value : β}

variable {entry : κ × β} (others : List (κ × β))

theorem mem_insert (member : entry ∈ insert key value entries) :
    entry = (key, value) ∨ entry ∈ entries := by
  induction entries with
  | nil => exact .inl (List.mem_singleton.mp member)
  | cons head tail inductionHypothesis =>
      grind [insert]

theorem Sorted.insert (sorted : Sorted entries) (key : κ) (value : β) :
    Sorted (insert key value entries) := by
  induction entries with
  | nil => exact List.pairwise_singleton _ _
  | cons head tail inductionHypothesis =>
      obtain ⟨below, tailSorted⟩ := List.pairwise_cons.mp sorted
      unfold SortedMap.insert
      split
      · rename_i same
        refine List.pairwise_cons.mpr ⟨?_, tailSorted⟩
        grind
      · rename_i different
        split
        · rename_i smaller
          refine List.pairwise_cons.mpr ⟨?_, sorted⟩
          grind
        · rename_i notSmaller
          refine List.pairwise_cons.mpr ⟨?_, inductionHypothesis tailSorted⟩
          intro entry member
          rcases mem_insert member with rfl | old
          · exact lt_of_le_of_ne (not_lt.mp notSmaller) (Ne.symm different)
          · exact below entry old

/-- A key above all others goes to the end. -/
theorem insert_of_above (above : ∀ entry ∈ entries, entry.1 < key) :
    insert key value entries = entries ++ [(key, value)] := by
  induction entries with
  | nil => rfl
  | cons head tail inductionHypothesis =>
      grind [insert]

theorem mem_insertAll :
    ∀ {entries : List (κ × β)}, entry ∈ insertAll entries others →
      entry ∈ entries ∨ entry ∈ others := by
  induction others with
  | nil => exact fun member => .inl member
  | cons head tail inductionHypothesis =>
      intro entries member
      rcases inductionHypothesis member with inserted | later
      · grind [mem_insert]
      · exact .inr (List.mem_cons_of_mem head later)

theorem Sorted.insertAll :
    ∀ {entries : List (κ × β)}, Sorted entries → Sorted (insertAll entries others) := by
  induction others with
  | nil => exact fun sorted => sorted
  | cons head tail inductionHypothesis =>
      intro entries sorted
      exact inductionHypothesis (sorted.insert head.1 head.2)

theorem insertAll_of_sorted :
    ∀ {entries : List (κ × β)}, Sorted (entries ++ others) →
      SortedMap.insertAll entries others = entries ++ others := by
  induction others with
  | nil => exact fun _ => (List.append_nil _).symm
  | cons head tail inductionHypothesis =>
      intro entries sorted
      have above : ∀ entry ∈ entries, entry.1 < head.1 := by
        intro entry member
        exact (List.pairwise_append.mp sorted).2.2 entry member head List.mem_cons_self
      grind [SortedMap.insertAll, insert_of_above]

theorem sorted_ofList (entries : List (κ × β)) : Sorted (ofList entries) :=
  Sorted.insertAll entries List.Pairwise.nil

/-- A map holds no entry its list does not hold. -/
theorem mem_of_mem_ofList (member : entry ∈ ofList entries) : entry ∈ entries :=
  (mem_insertAll entries member).resolve_left List.not_mem_nil

theorem ofList_of_sorted (sorted : Sorted entries) : ofList entries = entries :=
  insertAll_of_sorted entries sorted

end Lombok.Library.SortedMap
