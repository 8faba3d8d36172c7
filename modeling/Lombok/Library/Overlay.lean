import Mathlib.Data.List.Basic

/-!
Contract: partial maps written one over another.

A write gives values to some keys. `written` is what a list of writes leaves,
where the last value of a key counts. A content keeps the writes when it has
every value they leave; laying one more write over the content keeps them all.

Does not own what keys and values are, or where the content is stored.
-/

namespace Lombok.Library.Overlay

variable {K V : Type}

/-- The value of a key after all writes, `none` for a key that none of them gives one. -/
def written (writes : List (K → Option V)) (key : K) : Option V :=
  writes.foldl (fun last write => (write key).or last) none

theorem written_concat (writes : List (K → Option V)) (write : K → Option V) (key : K) :
    written (writes ++ [write]) key = (write key).or (written writes key) := by
  rw [written, List.foldl_append]
  rfl

/-- The content has every value that the writes leave. -/
def Keeps (content : K → Option V) (writes : List (K → Option V)) : Prop :=
  ∀ key value, written writes key = some value → content key = some value

theorem keeps_nil (content : K → Option V) : Keeps content [] := nofun

theorem Keeps.write {content after : K → Option V} {writes : List (K → Option V)}
    (keeps : Keeps content writes) {write : K → Option V}
    (laid : ∀ key, after key = (write key).or (content key)) : Keeps after (writes ++ [write]) := by
  intro key value isWritten
  rw [written_concat] at isWritten
  rw [laid key]
  cases given : write key with
  | some held =>
      rw [given] at isWritten
      exact isWritten
  | none =>
      rw [given, Option.none_or] at isWritten
      exact keeps key value isWritten

end Lombok.Library.Overlay
