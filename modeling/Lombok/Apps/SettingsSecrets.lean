import Mathlib.Data.List.Forall2
import Lombok.Core.Values

/-!
Contract: secrets in the settings an app stores.

Owns `maskSecretValues` and its recursion, and when two values differ only in
the leaves it masks: they have the same shape, and the same content wherever
no key on the way is secret.

A pattern is compiled by the regular expression engine, a parameter; one that
does not compile throws where the first key is tested. The mask builds plain
objects, so a property called `__proto__` is lost in it.

Does not own: where the values come from.
-/

namespace Lombok.Apps

open Lombok.Core

def maskedValue : String := "********"

section Mask

variable (isSecretKey : String → Bool)

mutual

/-- Masks leaves under a secret-matched key while preserving object and array shape. -/
def maskDeep (secret : Bool) : Json → Json
  | .arr items => .arr (maskItems secret items)
  | .obj fields => .obj (maskFields secret fields)
  | .null => if secret then .str maskedValue else .null
  | .bool value => if secret then .str maskedValue else .bool value
  | .num literal => if secret then .str maskedValue else .num literal
  | .str value => if secret then .str maskedValue else .str value

def maskItems (secret : Bool) : List Json → List Json
  | [] => []
  | item :: rest => maskDeep secret item :: maskItems secret rest

def maskFields (secret : Bool) : Fields → Fields
  | [] => []
  | (key, child) :: rest =>
      if key = "__proto__" then maskFields secret rest
      else (key, maskDeep (secret || isSecretKey key) child) :: maskFields secret rest

end

/-! ### Values that differ in secret leaves only -/

def isLeaf : Json → Bool
  | .arr _ => false
  | .obj _ => false
  | _ => true

mutual

/-- The same shape, and the same leaves outside secret keys. -/
def AgreeOpenly (secret : Bool) : Json → Json → Prop
  | .arr items, other => ∃ others, other = .arr others ∧ AgreeItems secret items others
  | .obj fields, other => ∃ others, other = .obj others ∧ AgreeFields secret fields others
  | .null, other => isLeaf other = true ∧ (secret = false → other = .null)
  | .bool value, other => isLeaf other = true ∧ (secret = false → other = .bool value)
  | .num literal, other => isLeaf other = true ∧ (secret = false → other = .num literal)
  | .str value, other => isLeaf other = true ∧ (secret = false → other = .str value)

def AgreeItems (secret : Bool) : List Json → List Json → Prop
  | [], others => others = []
  | item :: rest, others =>
      ∃ other others', others = other :: others' ∧ AgreeOpenly secret item other ∧
        AgreeItems secret rest others'

def AgreeFields (secret : Bool) : Fields → Fields → Prop
  | [], others => others = []
  | (key, child) :: rest, others =>
      ∃ other others', others = (key, other) :: others' ∧
        AgreeOpenly (secret || isSecretKey key) child other ∧ AgreeFields secret rest others'

end

/-- A leaf agrees with the leaves it may be exchanged for. -/
theorem agreeOpenly_leaf {secret : Bool} {value other : Json} (leaf : isLeaf value = true) :
    AgreeOpenly isSecretKey secret value other ↔
      isLeaf other = true ∧ (secret = false → other = value) := by
  cases value with
  | arr items => cases leaf
  | obj fields => cases leaf
  | null => exact Iff.rfl
  | bool value => exact Iff.rfl
  | num literal => exact Iff.rfl
  | str value => exact Iff.rfl

theorem maskDeep_leaf {secret : Bool} {value : Json} (leaf : isLeaf value = true) :
    maskDeep isSecretKey secret value = if secret then .str maskedValue else value := by
  cases value with
  | arr items => cases leaf
  | obj fields => cases leaf
  | null => rfl
  | bool value => rfl
  | num literal => rfl
  | str value => rfl

/-- Two leaves that agree are masked alike. -/
theorem maskDeep_leaf_congr {secret : Bool} {value other : Json} (leaf : isLeaf value = true)
    (agree : AgreeOpenly isSecretKey secret value other) :
    maskDeep isSecretKey secret value = maskDeep isSecretKey secret other := by
  grind [agreeOpenly_leaf, maskDeep_leaf]

mutual

/-- The mask shows what agrees, and nothing else. -/
theorem maskDeep_congr (secret : Bool) :
    (value other : Json) → AgreeOpenly isSecretKey secret value other →
      maskDeep isSecretKey secret value = maskDeep isSecretKey secret other
  | .arr items, other => by
      rintro ⟨others, rfl, agree⟩
      rw [maskDeep, maskDeep, maskItems_congr secret items others agree]
  | .obj fields, other => by
      rintro ⟨others, rfl, agree⟩
      rw [maskDeep, maskDeep, maskFields_congr secret fields others agree]
  | .null, _ => maskDeep_leaf_congr isSecretKey rfl
  | .bool _, _ => maskDeep_leaf_congr isSecretKey rfl
  | .num _, _ => maskDeep_leaf_congr isSecretKey rfl
  | .str _, _ => maskDeep_leaf_congr isSecretKey rfl

theorem maskItems_congr (secret : Bool) :
    (items others : List Json) → AgreeItems isSecretKey secret items others →
      maskItems isSecretKey secret items = maskItems isSecretKey secret others
  | [], _ => by
      intro agree
      obtain rfl := agree
      rfl
  | item :: rest, _ => by
      rintro ⟨other, others, rfl, head, tail⟩
      rw [maskItems, maskItems, maskDeep_congr secret item other head,
        maskItems_congr secret rest others tail]

theorem maskFields_congr (secret : Bool) :
    (fields others : Fields) → AgreeFields isSecretKey secret fields others →
      maskFields isSecretKey secret fields = maskFields isSecretKey secret others
  | [], _ => by
      intro agree
      obtain rfl := agree
      rfl
  | (key, child) :: rest, _ => by
      rintro ⟨other, others, rfl, head, tail⟩
      rw [maskFields, maskFields, maskDeep_congr _ child other head,
        maskFields_congr secret rest others tail]

end

mutual

theorem agreeOpenly_refl (secret : Bool) :
    (value : Json) → AgreeOpenly isSecretKey secret value value
  | .arr items => ⟨items, rfl, agreeItems_refl secret items⟩
  | .obj fields => ⟨fields, rfl, agreeFields_refl secret fields⟩
  | .null => ⟨rfl, fun _ => rfl⟩
  | .bool _ => ⟨rfl, fun _ => rfl⟩
  | .num _ => ⟨rfl, fun _ => rfl⟩
  | .str _ => ⟨rfl, fun _ => rfl⟩

theorem agreeItems_refl (secret : Bool) :
    (items : List Json) → AgreeItems isSecretKey secret items items
  | [] => rfl
  | item :: rest => ⟨item, rest, rfl, agreeOpenly_refl secret item, agreeItems_refl secret rest⟩

theorem agreeFields_refl (secret : Bool) :
    (fields : Fields) → AgreeFields isSecretKey secret fields fields
  | [] => rfl
  | (_, child) :: rest =>
      ⟨child, rest, rfl, agreeOpenly_refl _ child, agreeFields_refl secret rest⟩

end

end Mask

mutual

/-- Where no key is secret, values that agree are equal. -/
theorem eq_of_agreeOpenly :
    (value other : Json) → AgreeOpenly (fun _ => false) false value other → other = value
  | .arr items, other => by
      rintro ⟨others, rfl, agree⟩
      rw [eq_of_agreeItems items others agree]
  | .obj fields, other => by
      rintro ⟨others, rfl, agree⟩
      rw [eq_of_agreeFields fields others agree]
  | .null, _ => fun agree => agree.2 rfl
  | .bool _, _ => fun agree => agree.2 rfl
  | .num _, _ => fun agree => agree.2 rfl
  | .str _, _ => fun agree => agree.2 rfl

theorem eq_of_agreeItems :
    (items others : List Json) → AgreeItems (fun _ => false) false items others → others = items
  | [], _ => fun agree => agree
  | item :: rest, _ => by
      rintro ⟨other, others, rfl, head, tail⟩
      rw [eq_of_agreeOpenly item other head, eq_of_agreeItems rest others tail]

theorem eq_of_agreeFields :
    (fields others : Fields) → AgreeFields (fun _ => false) false fields others → others = fields
  | [], _ => fun agree => agree
  | (key, child) :: rest, _ => by
      rintro ⟨other, others, rfl, head, tail⟩
      rw [eq_of_agreeOpenly child other head, eq_of_agreeFields rest others tail]

end

end Lombok.Apps
