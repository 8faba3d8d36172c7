import Mathlib.Data.List.Basic

/-!
Contract: a bounded pool whose slots are counted, not named.

A pool knows how many slots are taken and how many there are. Its holders are a
ghost: who has taken a slot, whether the holder still needs it, and how often
one was given back for it. The pool is sound when its count is that of the
holders that need a slot and every other holder gave back exactly one.

Does not own: who the holders are, or when they are done.
-/

namespace Lombok.Library

structure Holder where
  active : Bool
  released : Nat
deriving DecidableEq

/-- One slot is given back for a holder. -/
def Holder.release (holder : Holder) : Holder := ⟨false, holder.released + 1⟩

/-- A holder that needs its slot has given back none, and every other one has given back one. -/
def Holder.Once (holder : Holder) : Prop := holder.released = if holder.active then 0 else 1

instance (holder : Holder) : Decidable holder.Once :=
  inferInstanceAs (Decidable (_ = _))

structure Pool where
  inFlight : Nat
  max : Nat
  holders : List Holder
deriving DecidableEq

/-- Replacing an element of a list replaces its part of a count. -/
theorem countP_set_of_found {α : Type} {items : List α} {index : Nat} {item : α}
    (found : items[index]? = some item) (other : α) (counts : α → Bool) :
    (items.set index other).countP counts + (counts item).toNat =
      items.countP counts + (counts other).toNat := by
  grind

theorem countP_pos_of_found {α : Type} {items : List α} {index : Nat} {item : α}
    (found : items[index]? = some item) {counts : α → Bool} (counted : counts item = true) :
    0 < items.countP counts :=
  List.countP_pos_iff.mpr ⟨item, List.mem_of_getElem? found, counted⟩

/-- Where at most one element counts, two that count are at one place. -/
theorem eq_of_countP_le_one {α : Type} {items : List α} {counts : α → Bool}
    (few : items.countP counts ≤ 1) {index other : Nat} {item otherItem : α}
    (found : items[index]? = some item) (counted : counts item = true)
    (otherFound : items[other]? = some otherItem) (otherCounted : counts otherItem = true) :
    index = other := by
  induction items generalizing index other with
  | nil => cases found
  | cons first rest inductionHypothesis =>
      grind

namespace Pool

structure Sound (pool : Pool) : Prop where
  count : pool.inFlight = pool.holders.countP Holder.active
  bounded : pool.inFlight ≤ pool.max
  once : ∀ holder ∈ pool.holders, holder.Once

def take (pool : Pool) : Pool :=
  { pool with inFlight := pool.inFlight + 1, holders := pool.holders ++ [⟨true, 0⟩] }

def giveBack (pool : Pool) (index : Nat) : Pool :=
  { pool with
    inFlight := pool.inFlight - 1
    holders := pool.holders.modify index Holder.release }

variable {pool : Pool}

theorem sound_take (sound : pool.Sound) (room : pool.inFlight < pool.max) : pool.take.Sound := by
  constructor
  · show pool.inFlight + 1 = List.countP Holder.active (pool.holders ++ [(⟨true, 0⟩ : Holder)])
    rw [List.countP_append, sound.count]
    rfl
  · exact room
  · intro holder member
    rcases List.mem_append.mp member with old | new
    · exact sound.once holder old
    · rw [List.mem_singleton.mp new]
      rfl

theorem countP_release {holders : List Holder} {index : Nat} {holder : Holder}
    (found : holders[index]? = some holder) (active : holder.active = true) :
    (holders.modify index Holder.release).countP Holder.active + 1 =
      holders.countP Holder.active := by
  induction holders generalizing index with
  | nil => cases found
  | cons first rest inductionHypothesis =>
      cases index with
      | zero =>
          cases found
          rw [List.modify_zero_cons, List.countP_cons_of_neg (by exact Bool.false_ne_true),
            List.countP_cons_of_pos active]
      | succ index =>
          grind

theorem sound_giveBack (sound : pool.Sound) {index : Nat} {holder : Holder}
    (found : pool.holders[index]? = some holder) (active : holder.active = true) :
    (pool.giveBack index).Sound := by
  have counted := countP_release found active
  constructor
  · show pool.inFlight - 1 = (pool.holders.modify index Holder.release).countP Holder.active
    rw [sound.count]
    omega
  · have bounded := sound.bounded
    show pool.inFlight - 1 ≤ pool.max
    omega
  · intro other member
    obtain ⟨position, isOther⟩ := List.mem_iff_getElem?.mp member
    unfold giveBack at isOther
    rw [List.getElem?_modify] at isOther
    obtain ⟨before, wasThere, rfl⟩ := Option.map_eq_some_iff.mp isOther
    have once := sound.once before (List.mem_of_getElem? wasThere)
    grind [Holder.Once, Holder.release]

end Pool

end Lombok.Library
