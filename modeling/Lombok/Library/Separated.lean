import Mathlib.Data.List.TakeWhile

/-!
Contract: a text cut at a separator into parts without white space around them.

Owns the parts, empty ones dropped, and how they come about: cutting the white
space off the whole text first changes nothing, the parts of a text with a
separator in it are those of what stands on its sides.

Does not own which elements are white space.
-/

namespace Lombok.Library

variable {α : Type} [DecidableEq α]

/-- A text without the white space around it. -/
def strip (white : α → Bool) (text : List α) : List α :=
  ((text.dropWhile white).reverse.dropWhile white).reverse

/-- The parts of a text that are not empty, without the white space around them. -/
def strippedParts (white : α → Bool) (separator : α) (text : List α) : List (List α) :=
  ((text.splitOn separator).map (strip white)).filter fun part => part != []

variable {white : α → Bool} {separator : α}

variable {space text : List α}

omit [DecidableEq α] in
theorem strip_append_left (allWhite : ∀ element ∈ space, white element = true) (text : List α) :
    strip white (space ++ text) = strip white text := by
  unfold strip
  rw [List.dropWhile_append_of_pos allWhite]

omit [DecidableEq α] in
theorem strip_append_right (allWhite : ∀ element ∈ space, white element = true) (text : List α) :
    strip white (text ++ space) = strip white text := by
  unfold strip
  have reversedWhite : ∀ element ∈ space.reverse, white element = true :=
    fun element member => allWhite element (List.mem_reverse.mp member)
  rw [List.dropWhile_append]
  cases blank : (text.dropWhile white).isEmpty with
  | true =>
      grind [List.dropWhile_eq_nil_iff.mpr]
  | false =>
      rw [if_neg Bool.false_ne_true, List.reverse_append,
        List.dropWhile_append_of_pos reversedWhite]

omit [DecidableEq α] in
/-- A text that is stripped already. -/
theorem strip_eq_self (front : ∀ element ∈ text.head?, white element = false)
    (back : ∀ element ∈ text.getLast?, white element = false) : strip white text = text := by
  unfold strip
  have noFront : text.dropWhile white = text := by
    cases text with
    | nil => rfl
    | cons head tail => rw [List.dropWhile_cons, front head rfl, if_neg Bool.false_ne_true]
  have noBack : text.reverse.dropWhile white = text.reverse := by
    rw [← List.head?_reverse] at back
    cases reversed : text.reverse with
    | nil => rfl
    | cons head tail =>
        simp [reversed, back]
  rw [noFront, noBack, List.reverse_reverse]

omit [DecidableEq α] in
/-- What is stripped off is white space. -/
theorem strip_spec (white : α → Bool) (text : List α) :
    ∃ before behind, text = before ++ strip white text ++ behind ∧
      (∀ element ∈ before, white element = true) ∧ ∀ element ∈ behind, white element = true := by
  refine ⟨text.takeWhile white, ((text.dropWhile white).reverse.takeWhile white).reverse, ?_, ?_,
    ?_⟩
  · grind [strip, List.takeWhile_append_dropWhile]
  · intro element member
    exact List.mem_takeWhile_imp member
  · grind [List.mem_takeWhile_imp]

/-- The parts of a text with a separator are those of its sides. -/
theorem strippedParts_append (front back : List α) :
    strippedParts white separator (front ++ separator :: back) =
      strippedParts white separator front ++ strippedParts white separator back := by
  unfold strippedParts
  rw [List.splitOn_append_cons_self, List.map_append, List.filter_append]

theorem strippedParts_single (absent : separator ∉ text) :
    strippedParts white separator text = [strip white text].filter fun part => part != [] := by
  rw [strippedParts, List.splitOn_eq_singleton absent]
  rfl

theorem strippedParts_append_left (allWhite : ∀ element ∈ space, white element = true)
    (text : List α) (separates : white separator = false) :
    strippedParts white separator (space ++ text) = strippedParts white separator text := by
  have notSpace : separator ∉ space := by
    grind
  by_cases present : separator ∈ text
  · obtain ⟨front, back, rfl, absent⟩ := List.eq_append_cons_of_mem present
    have notFront : separator ∉ space ++ front :=
      fun member => (List.mem_append.mp member).elim notSpace absent
    grind [strippedParts_append, strippedParts_single, strip_append_left]
  · have absent : separator ∉ space ++ text :=
      fun member => (List.mem_append.mp member).elim notSpace present
    rw [strippedParts_single absent, strippedParts_single present, strip_append_left allWhite]

theorem strippedParts_append_right (allWhite : ∀ element ∈ space, white element = true)
    (text : List α) (separates : white separator = false) :
    strippedParts white separator (text ++ space) = strippedParts white separator text := by
  have notSpace : separator ∉ space := by
    grind
  by_cases present : separator ∈ text
  · -- behind the last separator
    obtain ⟨back, front, isText, absent⟩ :=
      List.eq_append_cons_of_mem (List.mem_reverse.mpr present)
    have split : text = front.reverse ++ separator :: back.reverse := by
      grind
    have notBack : separator ∉ back.reverse := fun member => absent (List.mem_reverse.mp member)
    have notBehind : separator ∉ back.reverse ++ space :=
      fun member => (List.mem_append.mp member).elim notBack notSpace
    rw [split, List.append_assoc, List.cons_append, strippedParts_append, strippedParts_append,
      strippedParts_single notBehind, strippedParts_single notBack, strip_append_right allWhite]
  · have absent : separator ∉ text ++ space :=
      fun member => (List.mem_append.mp member).elim present notSpace
    rw [strippedParts_single absent, strippedParts_single present, strip_append_right allWhite]

/-- Stripping the whole text first changes nothing. -/
theorem strippedParts_strip (text : List α) (separates : white separator = false) :
    strippedParts white separator (strip white text) = strippedParts white separator text := by
  obtain ⟨before, behind, split, whiteBefore, whiteBehind⟩ := strip_spec white text
  grind [strippedParts_append_right, strippedParts_append_left]

theorem strippedParts_intercalate (texts : List (List α)) :
    strippedParts white separator ([separator].intercalate texts) =
      texts.flatMap (strippedParts white separator) := by
  induction texts with
  | nil => rfl
  | cons head tail inductionHypothesis =>
      cases tail with
      | nil => rw [List.intercalate_singleton, List.flatMap_singleton]
      | cons next rest =>
          grind [List.intercalate_cons_cons, strippedParts_append]

/-- A text with anything but white space and separators in it has a part. -/
theorem strippedParts_ne_nil {element : α} (member : element ∈ text)
    (notWhite : white element = false) (notSeparator : element ≠ separator) :
    strippedParts white separator text ≠ [] := by
  induction size : text.length using Nat.strongRecOn generalizing text with
  | _ size inductionHypothesis =>
      by_cases present : separator ∈ text
      · obtain ⟨front, back, rfl, absent⟩ := List.eq_append_cons_of_mem present
        rw [strippedParts_append]
        intro nothing
        obtain ⟨noFront, noBack⟩ := List.append_eq_nil_iff.mp nothing
        rw [List.length_append, List.length_cons] at size
        rcases List.mem_append.mp member with inFront | inRest
        · exact inductionHypothesis front.length (by omega) inFront rfl noFront
        · rcases List.mem_cons.mp inRest with isSeparator | inBack
          · exact notSeparator isSeparator
          · exact inductionHypothesis back.length (by omega) inBack rfl noBack
      · rw [strippedParts_single present]
        intro nothing
        obtain ⟨before, behind, split, whiteBefore, whiteBehind⟩ := strip_spec white text
        have blank : strip white text = [] := by
          by_contra full
          grind
        rw [split, blank, List.append_nil] at member
        rcases List.mem_append.mp member with inBefore | inBehind
        · grind
        · grind

end Lombok.Library
