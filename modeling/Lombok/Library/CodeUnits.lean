import Mathlib.Data.List.Basic

/-!
Contract: texts of 16-bit code units, where a surrogate may stand alone.

Owns pairs of surrogates, texts in which every surrogate is part of a pair, and the
replacement of single units. Replacing units that are no surrogates by texts without
surrogates neither joins nor parts a pair, as long as no replacement is empty.
-/

namespace Lombok.Library

/-- A text as its code units. -/
abbrev Text := List Nat

namespace Text

/-- A literal whose characters are one unit each. -/
def ofLiteral (literal : String) : Text := literal.toList.map Char.toNat

def isHighSurrogate (unit : Nat) : Bool := decide (0xD800 ≤ unit ∧ unit ≤ 0xDBFF)

def isLowSurrogate (unit : Nat) : Bool := decide (0xDC00 ≤ unit ∧ unit ≤ 0xDFFF)

def isSurrogate (unit : Nat) : Bool := isHighSurrogate unit || isLowSurrogate unit

/-- Every surrogate is part of a pair. -/
def isWellFormed : Text → Bool
  | [] => true
  | [unit] => !isSurrogate unit
  | unit :: next :: rest =>
      if isHighSurrogate unit then isLowSurrogate next && isWellFormed rest
      else !isLowSurrogate unit && isWellFormed (next :: rest)

theorem isSurrogate_eq_false {unit : Nat} :
    isSurrogate unit = false ↔ isHighSurrogate unit = false ∧ isLowSurrogate unit = false := by
  exact Bool.or_eq_false_iff

theorem isWellFormed_cons {unit : Nat} (notHigh : isHighSurrogate unit = false) (rest : Text) :
    isWellFormed (unit :: rest) = (!isLowSurrogate unit && isWellFormed rest) := by
  cases rest with
  | nil => simp [isWellFormed, isSurrogate, notHigh]
  | cons next rest => simp [isWellFormed, notHigh]

theorem isWellFormed_append {plain : Text} (free : ∀ unit ∈ plain, isSurrogate unit = false)
    (rest : Text) : isWellFormed (plain ++ rest) = isWellFormed rest := by
  induction plain with
  | nil => rfl
  | cons unit plain inductionHypothesis =>
      grind [isWellFormed_cons, isSurrogate_eq_false.mp]

theorem isWellFormed_of_free {plain : Text} (free : ∀ unit ∈ plain, isSurrogate unit = false) :
    isWellFormed plain = true := by
  have appended := isWellFormed_append free []
  rw [List.append_nil] at appended
  exact appended

/-- A replacement leaves a unit alone, or puts some units for it that are no surrogates. -/
def Plain (replace : Nat → Text) : Prop :=
  ∀ unit, replace unit = [unit] ∨
    isSurrogate unit = false ∧ replace unit ≠ [] ∧
      ∀ other ∈ replace unit, isSurrogate other = false

/-- After a high surrogate a replaced unit is as good as the unit. -/
theorem isWellFormed_pair {replace : Nat → Text} (plain : Plain replace) {high : Nat}
    (isHigh : isHighSurrogate high = true) (unit : Nat) (rest : Text) :
    isWellFormed (high :: (replace unit ++ rest)) =
      (isLowSurrogate unit && isWellFormed rest) := by
  rcases plain unit with kept | ⟨notSurrogate, nonempty, free⟩
  · rw [kept, List.singleton_append, isWellFormed, if_pos isHigh]
  · obtain ⟨first, others, replaced⟩ := List.exists_cons_of_ne_nil nonempty
    simp [isWellFormed, isSurrogate_eq_false.mp, free, replaced, isHigh, notSurrogate]

/-- Surrogates are paired after a replacement if and only if they were before. -/
theorem isWellFormed_flatMap {replace : Nat → Text} (plain : Plain replace) (text : Text) :
    isWellFormed (text.flatMap replace) = isWellFormed text := by
  induction text using isWellFormed.induct with
  | case1 => rfl
  | case2 unit =>
      rw [List.flatMap_cons, List.flatMap_nil, List.append_nil]
      rcases plain unit with kept | ⟨notSurrogate, _, free⟩
      · rw [kept]
      · grind [isWellFormed_of_free]
  | case3 unit next rest isHigh inductionHypothesis =>
      rcases plain unit with kept | ⟨notSurrogate, _, _⟩
      · rw [List.flatMap_cons, List.flatMap_cons, kept, List.singleton_append,
          isWellFormed_pair plain isHigh, inductionHypothesis, isWellFormed, if_pos isHigh]
      · grind [isSurrogate_eq_false.mp]
  | case4 unit next rest notHigh inductionHypothesis =>
      have isOther : isHighSurrogate unit = false := Bool.eq_false_iff.mpr notHigh
      rw [List.flatMap_cons, isWellFormed_cons isOther]
      rcases plain unit with kept | ⟨notSurrogate, _, free⟩
      · rw [kept, List.singleton_append, isWellFormed_cons isOther, inductionHypothesis]
      · rw [isWellFormed_append free, inductionHypothesis,
          (isSurrogate_eq_false.mp notSurrogate).2]
        rfl

/-- The units left alone are replaced by themselves. -/
theorem flatMap_eq_self {replace : Nat → Text} {text : Text}
    (kept : ∀ unit ∈ text, replace unit = [unit]) : text.flatMap replace = text := by
  induction text with
  | nil => rfl
  | cons unit rest inductionHypothesis =>
      grind

end Text

end Lombok.Library
