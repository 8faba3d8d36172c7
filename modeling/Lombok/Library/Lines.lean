import Mathlib.Data.List.Basic

/-!
Contract: a stream cut into lines by a delimiter, and a reader that is fed it in pieces.

`takeLines` gives the lines that are ended and what is left. Feeding a piece
puts it behind what was left before, so the pieces give the lines of the whole
stream, however it is cut.

Does not own what a line means.
-/

namespace Lombok.Library.Lines

variable {α : Type} [DecidableEq α]

/-- The lines that are ended, without their delimiters, and what follows the last of them. -/
def takeLines (delimiter : α) : List α → List (List α) × List α
  | [] => ([], [])
  | first :: rest =>
      if first = delimiter then ([] :: (takeLines delimiter rest).1, (takeLines delimiter rest).2)
      else
        match (takeLines delimiter rest).1 with
        | [] => ([], first :: (takeLines delimiter rest).2)
        | line :: lines => ((first :: line) :: lines, (takeLines delimiter rest).2)

/-- What feeding the pieces gives, with what was left before. -/
def feedAll (delimiter : α) : List α → List (List α) → List (List α) × List α
  | buffer, [] => ([], buffer)
  | buffer, piece :: pieces =>
      let fed := takeLines delimiter (buffer ++ piece)
      (fed.1 ++ (feedAll delimiter fed.2 pieces).1, (feedAll delimiter fed.2 pieces).2)

variable {delimiter : α}

/-- More of the stream ends more lines, and no ended line changes. -/
theorem takeLines_append (front rest : List α) :
    takeLines delimiter (front ++ rest) =
      ((takeLines delimiter front).1 ++
          (takeLines delimiter ((takeLines delimiter front).2 ++ rest)).1,
        (takeLines delimiter ((takeLines delimiter front).2 ++ rest)).2) := by
  induction front with
  | nil => rfl
  | cons first tail inductionHypothesis =>
      grind [takeLines]

theorem feedAll_eq_takeLines (pieces : List (List α)) :
    ∀ buffer, (takeLines delimiter buffer).1 = [] → (takeLines delimiter buffer).2 = buffer →
      feedAll delimiter buffer pieces = takeLines delimiter (buffer ++ pieces.flatten) := by
  induction pieces with
  | nil =>
      grind [feedAll]
  | cons piece pieces inductionHypothesis =>
      intro buffer _ _
      have again : takeLines delimiter (takeLines delimiter (buffer ++ piece)).2 =
          ([], (takeLines delimiter (buffer ++ piece)).2) := by
        generalize buffer ++ piece = text
        induction text with
        | nil => rfl
        | cons first tail tailHypothesis =>
            grind [takeLines]
      rw [feedAll, List.flatten_cons, ← List.append_assoc, takeLines_append (buffer ++ piece),
        inductionHypothesis _ (by rw [again]) (by rw [again])]

/-- However a stream is cut, its pieces give the lines of the whole. -/
theorem feedAll_flatten (pieces : List (List α)) :
    feedAll delimiter [] pieces = takeLines delimiter pieces.flatten :=
  feedAll_eq_takeLines pieces [] rfl rfl

theorem takeLines_of_noDelimiter {text : List α} (noDelimiter : delimiter ∉ text) :
    takeLines delimiter text = ([], text) := by
  induction text with
  | nil => rfl
  | cons first tail inductionHypothesis =>
      grind [takeLines]

theorem takeLines_line {line : List α} (noDelimiter : delimiter ∉ line) (rest : List α) :
    takeLines delimiter (line ++ delimiter :: rest) =
      (line :: (takeLines delimiter rest).1, (takeLines delimiter rest).2) := by
  induction line with
  | nil => rw [List.nil_append, takeLines, if_pos rfl]
  | cons first tail inductionHypothesis =>
      grind [takeLines]

/-- Lines without a delimiter, each ended by one, are taken as they are. -/
theorem takeLines_flatMap {lines : List (List α)}
    (noDelimiter : ∀ line ∈ lines, delimiter ∉ line) :
    takeLines delimiter (lines.flatMap fun line => line ++ [delimiter]) = (lines, []) := by
  induction lines with
  | nil => rfl
  | cons line rest inductionHypothesis =>
      grind [takeLines_line]

end Lombok.Library.Lines
