import Mathlib.Data.List.Basic

/-!
Contract: keys below a prefix, with a separator between the two.

`join` puts a key below a prefix and adds the separator where the prefix has
none. Under prefixes of which none begins the other, joined keys never meet.

Does not own: which symbols a key is made of, or which one separates.
-/

namespace Lombok.Library

namespace KeyPrefix

variable {α : Type} [DecidableEq α] {separator : α} {keyPrefix other key otherKey : List α}

/-- The prefix with the separator that has to stand behind it; the empty prefix needs none. -/
def root (separator : α) (keyPrefix : List α) : List α :=
  if keyPrefix = [] ∨ keyPrefix.getLast? = some separator then keyPrefix
  else keyPrefix ++ [separator]

def join (separator : α) (keyPrefix key : List α) : List α := root separator keyPrefix ++ key

theorem prefix_root (separator : α) (keyPrefix : List α) :
    keyPrefix <+: root separator keyPrefix := by
  grind [root]

theorem prefix_join (separator : α) (keyPrefix key : List α) :
    keyPrefix <+: join separator keyPrefix key :=
  (prefix_root separator keyPrefix).trans (List.prefix_append _ _)

theorem join_injective (joined : join separator keyPrefix key = join separator keyPrefix otherKey) :
    key = otherKey :=
  List.append_cancel_left joined

theorem root_eq_nil : root separator keyPrefix = [] ↔ keyPrefix = [] := by
  unfold root
  split
  · exact Iff.rfl
  · simp_all

/-- Only below the empty prefix does a key stay itself. -/
theorem join_eq_self : join separator keyPrefix key = key ↔ keyPrefix = [] := by
  rw [join, List.append_left_eq_self, root_eq_nil]

/-- Neither of the two begins the other. -/
def PrefixFree (left right : List α) : Prop := ¬left <+: right ∧ ¬right <+: left

theorem join_ne_of_prefixFree (free : PrefixFree keyPrefix other) :
    join separator keyPrefix key ≠ join separator other otherKey := by
  intro meet
  have left := prefix_join separator keyPrefix key
  have right := prefix_join separator other otherKey
  rw [← meet] at right
  rcases List.prefix_or_prefix_of_prefix left right with begins | begins
  · exact free.1 begins
  · exact free.2 begins

/-- Cutting the root off a key and joining it again gives the key back exactly if it was there. -/
theorem join_drop_root :
    join separator keyPrefix (key.drop (root separator keyPrefix).length) = key ↔
      root separator keyPrefix <+: key := by
  unfold join
  constructor
  · grind
  · rintro ⟨rest, rfl⟩
    rw [List.drop_left]

end KeyPrefix

end Lombok.Library
