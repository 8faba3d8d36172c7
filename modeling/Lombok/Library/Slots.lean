import Mathlib.Algebra.Ring.Nat
import Mathlib.Data.List.Basic

/-!
Contract: placeholders of a text that are replaced one after the other, each
where it first occurs in the text as it is by then.

Owns the first occurrence of a text, the replacement of it, and exactly when
every placeholder is replaced in its own place by its own value. To tell where
an element of the outcome comes from, an element of the text is marked: the
marked ones are those of the text between the placeholders and of the values.

Does not own what a value is expanded to when it is put in.
-/

namespace Lombok.Library

variable {α : Type} [DecidableEq α]

/-! ### The first occurrence -/

/-- What stands before and behind the first occurrence of a text. -/
def splitAtFirst (search : List α) : List α → Option (List α × List α)
  | [] => if search = [] then some ([], []) else none
  | element :: rest =>
      match (element :: rest).dropPrefix? search with
      | some behind => some ([], behind)
      | none => (splitAtFirst search rest).map fun parts => (element :: parts.1, parts.2)

theorem dropPrefix?_eq_some {search text behind : List α} :
    text.dropPrefix? search = some behind ↔ text = search ++ behind := by
  rw [List.dropPrefix?_eq_some_iff]
  simp

/-- The split is at an occurrence, and there is none before it. -/
theorem splitAtFirst_some {search text before behind : List α}
    (split : splitAtFirst search text = some (before, behind)) :
    text = before ++ search ++ behind ∧
      ∀ front back, text = front ++ search ++ back → before.length ≤ front.length := by
  induction text generalizing before behind with
  | nil =>
      grind [splitAtFirst]
  | cons element rest inductionHypothesis =>
      unfold splitAtFirst at split
      split at split
      · rename_i found
        cases split
        exact ⟨dropPrefix?_eq_some.mp found, fun _ _ _ => Nat.zero_le _⟩
      · rename_i notHere
        obtain ⟨⟨restBefore, restBehind⟩, restSplit, same⟩ := Option.map_eq_some_iff.mp split
        cases same
        obtain ⟨restText, first⟩ := inductionHypothesis restSplit
        refine ⟨by rw [restText]; rfl, ?_⟩
        intro front back occurs
        cases front with
        | nil =>
            rw [List.nil_append] at occurs
            have here := dropPrefix?_eq_some.mpr occurs
            rw [notHere] at here
            cases here
        | cons head tail =>
            grind

theorem splitAtFirst_of_occurs {search front back : List α} :
    ∃ before behind, splitAtFirst search (front ++ search ++ back) = some (before, behind) := by
  induction front with
  | nil =>
      rw [List.nil_append]
      cases text : search ++ back with
      | nil => exact ⟨[], [], if_pos (List.append_eq_nil_iff.mp text).1⟩
      | cons element rest =>
          rw [splitAtFirst, ← text, dropPrefix?_eq_some.mpr rfl]
          exact ⟨_, _, rfl⟩
  | cons head tail inductionHypothesis =>
      obtain ⟨before, behind, split⟩ := inductionHypothesis
      rw [List.cons_append, List.cons_append]
      unfold splitAtFirst
      cases (head :: (tail ++ search ++ back)).dropPrefix? search with
      | some rest => exact ⟨_, _, rfl⟩
      | none =>
          rw [split]
          exact ⟨_, _, rfl⟩

/-- A text that does not occur earlier is found in its place. -/
theorem splitAtFirst_own_iff {search front back : List α} (full : search ≠ []) :
    splitAtFirst search (front ++ search ++ back) = some (front, back) ↔
      ¬ search <:+: front ++ search.dropLast := by
  obtain ⟨before, behind, split⟩ :
      ∃ before behind, splitAtFirst search (front ++ search ++ back) = some (before, behind) :=
    splitAtFirst_of_occurs
  obtain ⟨text, first⟩ := splitAtFirst_some split
  have whole : front ++ search.dropLast <+: front ++ search ++ back := by
    grind [List.dropLast_append_getLast]
  have shorter : (front ++ search.dropLast).length + 1 = front.length + search.length := by
    have positive := List.length_pos_iff.mpr full
    rw [List.length_append, List.length_dropLast]
    omega
  rw [split]
  constructor
  · rintro ⟨⟩ ⟨earlier, rest, occurs⟩
    obtain ⟨last, isWhole⟩ := whole
    grind
  · intro notEarlier
    have atMost := first front back rfl
    by_cases own : before.length = front.length
    · rw [List.append_assoc, List.append_assoc] at text
      obtain ⟨sameFront, rest⟩ := List.append_inj text own.symm
      rw [sameFront, List.append_cancel_left rest]
    · refine absurd ?_ notEarlier
      have fits : (before ++ search).length ≤ (front ++ search.dropLast).length := by
        rw [List.length_append]
        omega
      have isPrefix := List.prefix_of_prefix_length_le ⟨behind, text.symm⟩ whole fits
      exact (List.suffix_append before search).isInfix.trans isPrefix.isInfix

/-! ### Replacing one occurrence -/

/-- An element of a text, marked unless it belongs to a placeholder or comes from an expansion. -/
abbrev Marked (α : Type) := α × Bool

def marks (mark : Bool) (text : List α) : List (Marked α) :=
  text.map fun element => (element, mark)

def unmarked (text : List (Marked α)) : List α := text.map Prod.fst

/-- How many elements are marked. -/
def markCount (text : List (Marked α)) : Nat := text.countP Prod.snd

/-- What a value is expanded to between what stands before and behind the text it replaces. -/
abbrev Expansion (α : Type) := List α → List α → List α → List α → List (Marked α)

/-- An expansion marks nothing but elements of the value, and all of them only if it is the
value. -/
structure Expansion.IsFair (expand : Expansion α) : Prop where
  atMost : ∀ before search behind value,
    markCount (expand before search behind value) ≤ value.length
  verbatim : ∀ before search behind value,
    markCount (expand before search behind value) = value.length →
      expand before search behind value = marks true value

/-- The first occurrence of a text is replaced by what the value is expanded to. -/
def replaceFirst (expand : Expansion α) (search value : List α) (text : List (Marked α)) :
    List (Marked α) :=
  match splitAtFirst search (unmarked text) with
  | none => text
  | some (before, behind) =>
      text.take before.length ++ expand before search behind value ++
        text.drop (before.length + search.length)

omit [DecidableEq α] in
theorem marked_of_mem {mark : Bool} {text : List α} {element : Marked α}
    (member : element ∈ marks mark text) : element.2 = mark := by
  obtain ⟨_, -, rfl⟩ := List.mem_map.mp member
  rfl

omit [DecidableEq α] in
@[simp] theorem markCount_append (front back : List (Marked α)) :
    markCount (front ++ back) = markCount front + markCount back :=
  List.countP_append

omit [DecidableEq α] in
@[simp] theorem markCount_marks_true (text : List α) :
    markCount (marks true text) = text.length := by
  induction text with
  | nil => rfl
  | cons head tail inductionHypothesis =>
      show List.countP _ (_ :: marks true tail) = _
      rw [List.countP_cons_of_pos rfl, List.length_cons, ← inductionHypothesis]
      rfl

omit [DecidableEq α] in
@[simp] theorem markCount_marks_false (text : List α) : markCount (marks false text) = 0 := by
  refine List.countP_eq_zero.mpr fun element member => ?_
  rw [marked_of_mem member]
  exact Bool.false_ne_true

omit [DecidableEq α] in
@[simp] theorem unmarked_append (front back : List (Marked α)) :
    unmarked (front ++ back) = unmarked front ++ unmarked back :=
  List.map_append

omit [DecidableEq α] in
@[simp] theorem unmarked_marks (mark : Bool) (text : List α) :
    unmarked (marks mark text) = text := by
  unfold unmarked marks
  rw [List.map_map]
  exact List.map_id text

omit [DecidableEq α] in
@[simp] theorem length_marks (mark : Bool) (text : List α) :
    (marks mark text).length = text.length :=
  List.length_map _

omit [DecidableEq α] in
/-- A text is what is taken out, and what stands around it. -/
theorem take_drop_drop (text : List (Marked α)) (front size : Nat) :
    text = text.take front ++ (text.drop front).take size ++ text.drop (front + size) := by
  rw [List.append_assoc, ← List.drop_drop, List.take_append_drop, List.take_append_drop]

/-- The marks of what is taken out are lost, and those of the expansion come in. -/
theorem markCount_replaced {expand : Expansion α} {search value before behind : List α}
    {text : List (Marked α)}
    (split : splitAtFirst search (unmarked text) = some (before, behind)) :
    markCount (replaceFirst expand search value text) +
        markCount ((text.drop before.length).take search.length) =
      markCount text + markCount (expand before search behind value) := by
  have apart := congrArg markCount (take_drop_drop text before.length search.length)
  rw [replaceFirst, split]
  rw [markCount_append, markCount_append] at apart ⊢
  omega

/-- A replacement adds no more marks than the value has elements. -/
theorem markCount_replaceFirst {expand : Expansion α} (fair : expand.IsFair)
    (search value : List α) (text : List (Marked α)) :
    markCount (replaceFirst expand search value text) ≤ markCount text + value.length := by
  rcases split : splitAtFirst search (unmarked text) with _ | ⟨before, behind⟩
  · rw [replaceFirst, split]
    exact Nat.le_add_right _ _
  · have replaced := @markCount_replaced _ _ expand search value before behind text split
    have bounded := fair.atMost before search behind value
    omega

/-- A placeholder that occurs first in its own place is replaced there. -/
theorem replaceFirst_own {expand : Expansion α} {search value front : List α}
    {back : List (Marked α)} (full : search ≠ [])
    (own : ¬ search <:+: front ++ search.dropLast)
    (verbatim : expand front search (unmarked back) value = marks true value) :
    replaceFirst expand search value (marks true front ++ marks false search ++ back) =
      marks true front ++ marks true value ++ back := by
  have split : splitAtFirst search (front ++ search ++ unmarked back) =
      some (front, unmarked back) := (splitAtFirst_own_iff full).mpr own
  grind [replaceFirst, unmarked_append, unmarked_marks, length_marks]

/-- A placeholder behind marked text that is replaced without the loss of a mark is replaced in its
own place, and by its value. -/
theorem own_of_markCount {expand : Expansion α} (fair : expand.IsFair) {search value front : List α}
    {back : List (Marked α)} (full : search ≠ [])
    (lossless : markCount (replaceFirst expand search value
        (marks true front ++ marks false search ++ back)) =
      markCount (marks true front ++ marks false search ++ back) + value.length) :
    ¬ search <:+: front ++ search.dropLast ∧
      expand front search (unmarked back) value = marks true value := by
  obtain ⟨before, behind, split⟩ : ∃ before behind,
      splitAtFirst search (front ++ search ++ unmarked back) = some (before, behind) :=
    splitAtFirst_of_occurs
  obtain ⟨plain, first⟩ := splitAtFirst_some split
  have atMost := first front (unmarked back) rfl
  have bounded := fair.atMost before search behind value
  have isSplit : splitAtFirst search
      (unmarked (marks true front ++ marks false search ++ back)) = some (before, behind) := by
    rw [unmarked_append, unmarked_append, unmarked_marks, unmarked_marks, split]
  have replaced := @markCount_replaced _ _ expand search value before behind _ isSplit
  have nothingTaken : markCount (((marks true front ++ marks false search ++ back).drop
      before.length).take search.length) = 0 := by
    omega
  have allKept : markCount (expand before search behind value) = value.length := by omega
  have samePlace : before.length = front.length := by
    by_contra otherPlace
    have inFront : before.length < (marks true front).length := by
      rw [length_marks]
      omega
    rw [List.append_assoc, List.drop_append_of_le_length (Nat.le_of_lt inFront),
      List.drop_eq_getElem_cons inFront] at nothingTaken
    obtain ⟨size, isSize⟩ := Nat.exists_eq_succ_of_ne_zero
      (Nat.pos_iff_ne_zero.mp (List.length_pos_iff.mpr full))
    grind [marked_of_mem, markCount]
  rw [List.append_assoc, List.append_assoc] at plain
  obtain ⟨sameFront, rest⟩ := List.append_inj plain samePlace.symm
  have sameBack := List.append_cancel_left rest
  grind [splitAtFirst_own_iff, fair.verbatim]

/-! ### Replacing every placeholder -/

/-- An element of a text, or a placeholder with the value it stands for. -/
inductive Slot (α : Type) where
  | literal (element : α)
  | placeholder (search value : List α)

namespace Slot

def written : Slot α → List (Marked α)
  | literal element => [(element, true)]
  | placeholder search _ => marks false search

/-- What it should become. -/
def filled : Slot α → List (Marked α)
  | literal element => [(element, true)]
  | placeholder _ value => marks true value

/-- The replacement of a placeholder in the text as it is by then. -/
def replaced (expand : Expansion α) (text : List (Marked α)) : Slot α → List (Marked α)
  | literal _ => text
  | placeholder search value => replaceFirst expand search value text

/-- How many marks the replacement can add. -/
def valueLength : Slot α → Nat
  | literal _ => 0
  | placeholder _ value => value.length

end Slot

def writtenText (slots : List (Slot α)) : List (Marked α) := slots.flatMap Slot.written

def filledText (slots : List (Slot α)) : List (Marked α) := slots.flatMap Slot.filled

/-- The placeholders are replaced one after the other. -/
def replaceAll (expand : Expansion α) (slots : List (Slot α)) (text : List (Marked α)) :
    List (Marked α) :=
  slots.foldl (Slot.replaced expand) text

def Slot.IsFull : Slot α → Prop
  | literal _ => True
  | placeholder search _ => search ≠ []

def Slot.FillsOwnPlace (expand : Expansion α) (before behind : List (Slot α)) : Slot α → Prop
  | literal _ => True
  | placeholder search value =>
      ¬ search <:+: unmarked (filledText before) ++ search.dropLast ∧
        expand (unmarked (filledText before)) search (unmarked (writtenText behind)) value =
          marks true value

def FillOwnPlaces (expand : Expansion α) (done slots : List (Slot α)) : Prop :=
  ∀ before slot behind, slots = before ++ slot :: behind →
    slot.FillsOwnPlace expand (done ++ before) behind

omit [DecidableEq α] in
theorem fillOwnPlaces_cons {expand : Expansion α} {done tail : List (Slot α)} {head : Slot α} :
    FillOwnPlaces expand done (head :: tail) ↔
      head.FillsOwnPlace expand done tail ∧ FillOwnPlaces expand (done ++ [head]) tail := by
  constructor
  · intro own
    refine ⟨?_, ?_⟩
    · have here := own [] head tail rfl
      rwa [List.append_nil] at here
    · intro before slot behind split
      have later := own (head :: before) slot behind (by rw [split]; rfl)
      rwa [List.append_cons] at later
  · rintro ⟨here, later⟩ before slot behind split
    cases before with
    | nil =>
        cases split
        rwa [List.append_nil]
    | cons first rest =>
        rw [List.cons_append, List.cons.injEq] at split
        obtain ⟨rfl, split⟩ := split
        rw [List.append_cons]
        exact later rest slot behind split

omit [DecidableEq α] in
theorem filledText_marked (slots : List (Slot α)) :
    filledText slots = marks true (unmarked (filledText slots)) := by
  induction slots with
  | nil => rfl
  | cons head tail inductionHypothesis =>
      unfold filledText at inductionHypothesis ⊢
      rw [List.flatMap_cons, unmarked_append]
      show _ = List.map _ (_ ++ _)
      rw [List.map_append]
      cases head with
      | literal element => exact congrArg (_ :: ·) inductionHypothesis
      | placeholder search value =>
          refine congr (congrArg _ ?_) inductionHypothesis
          show marks true value = marks true (unmarked (marks true value))
          rw [unmarked_marks]

/-- Replacing adds no more marks than the values have elements. -/
theorem markCount_replaceAll {expand : Expansion α} (fair : expand.IsFair)
    (slots : List (Slot α)) (text : List (Marked α)) :
    markCount (replaceAll expand slots text) ≤
      markCount text + (slots.map Slot.valueLength).sum := by
  induction slots generalizing text with
  | nil => exact Nat.le_refl _
  | cons head tail inductionHypothesis =>
      have onward := inductionHypothesis (Slot.replaced expand text head)
      have here : markCount (Slot.replaced expand text head) ≤
          markCount text + head.valueLength := by
        cases head with
        | literal element => exact Nat.le_refl _
        | placeholder search value => exact markCount_replaceFirst fair search value text
      grind [replaceAll]

omit [DecidableEq α] in
theorem markCount_filledText (slots : List (Slot α)) :
    markCount (filledText slots) =
      markCount (writtenText slots) + (slots.map Slot.valueLength).sum := by
  induction slots with
  | nil => rfl
  | cons head tail inductionHypothesis =>
      unfold filledText writtenText at inductionHypothesis ⊢
      rw [List.flatMap_cons, List.flatMap_cons, markCount_append, markCount_append, List.map_cons,
        List.sum_cons, inductionHypothesis]
      cases head with
      | literal element =>
          show markCount [(element, true)] + _ = markCount [(element, true)] + _ + (0 + _)
          omega
      | placeholder search value =>
          show markCount (marks true value) + _ = markCount (marks false search) + _ + (_ + _)
          rw [markCount_marks_true, markCount_marks_false]
          show value.length + _ = 0 + _ + (value.length + _)
          omega

omit [DecidableEq α] in
@[simp] theorem filledText_append (front back : List (Slot α)) :
    filledText (front ++ back) = filledText front ++ filledText back :=
  List.flatMap_append

omit [DecidableEq α] in
@[simp] theorem filledText_cons (head : Slot α) (tail : List (Slot α)) :
    filledText (head :: tail) = head.filled ++ filledText tail :=
  List.flatMap_cons

omit [DecidableEq α] in
@[simp] theorem writtenText_cons (head : Slot α) (tail : List (Slot α)) :
    writtenText (head :: tail) = head.written ++ writtenText tail :=
  List.flatMap_cons

theorem replaced_own {expand : Expansion α} {done tail : List (Slot α)} {search value : List α}
    (full : search ≠ [])
    (own : (Slot.placeholder search value).FillsOwnPlace expand done tail) :
    replaceFirst expand search value
        (filledText done ++ writtenText (.placeholder search value :: tail)) =
      filledText (done ++ [.placeholder search value]) ++ writtenText tail := by
  have place := replaceFirst_own full own.1 own.2
  rw [← filledText_marked] at place
  rw [writtenText_cons, Slot.written, ← List.append_assoc, place, filledText_append]
  show _ = filledText done ++ (marks true value ++ []) ++ writtenText tail
  rw [List.append_nil]

/-- Behind slots that are filled in, the rest is if and only if every placeholder of it fills its
own place. -/
theorem replaceAll_iff {expand : Expansion α} (fair : expand.IsFair) (done slots : List (Slot α))
    (full : ∀ slot ∈ slots, slot.IsFull) :
    replaceAll expand slots (filledText done ++ writtenText slots) =
        filledText (done ++ slots) ↔
      FillOwnPlaces expand done slots := by
  induction slots generalizing done with
  | nil =>
      refine iff_of_true ?_ ?_
      · rw [List.append_nil]
        exact List.append_nil _
      · intro before slot behind split
        exact absurd split.symm (by simp)
  | cons head tail inductionHypothesis =>
      have onward := inductionHypothesis (done ++ [head]) fun slot member =>
        full slot (List.mem_cons_of_mem head member)
      rw [List.append_assoc, List.singleton_append] at onward
      rw [fillOwnPlaces_cons, ← onward]
      cases head with
      | literal element =>
          have sameText : filledText (done ++ [.literal element]) ++ writtenText tail =
              filledText done ++ writtenText (.literal element :: tail) := by
            rw [filledText_append, List.append_assoc]
            rfl
          rw [sameText]
          exact (and_iff_right trivial).symm
      | placeholder search value =>
          have isFull : search ≠ [] := full _ List.mem_cons_self
          have step : replaceAll expand (.placeholder search value :: tail)
              (filledText done ++ writtenText (.placeholder search value :: tail)) =
            replaceAll expand tail (replaceFirst expand search value
              (filledText done ++ writtenText (.placeholder search value :: tail))) := rfl
          rw [step]
          constructor
          · intro filled
            have own : (Slot.placeholder search value).FillsOwnPlace expand done tail := by
              have text : filledText done ++ writtenText (.placeholder search value :: tail) =
                  marks true (unmarked (filledText done)) ++ marks false search ++
                    writtenText tail := by
                rw [← filledText_marked, List.append_assoc]
                rfl
              refine own_of_markCount fair isFull ?_
              rw [← text]
              refine Nat.le_antisymm (markCount_replaceFirst fair search value _) ?_
              have counted := markCount_replaceAll fair tail (replaceFirst expand search value
                (filledText done ++ writtenText (.placeholder search value :: tail)))
              have perSlot := markCount_filledText tail
              rw [filled, filledText_append, filledText_cons, Slot.filled, markCount_append,
                markCount_append, markCount_marks_true] at counted
              rw [writtenText_cons, Slot.written, markCount_append, markCount_append,
                markCount_marks_false]
              rw [writtenText_cons, Slot.written] at counted
              omega
            grind [replaced_own]
          · grind [replaced_own]

/-- Every placeholder is replaced in its own place by its own value if and only if none occurs
before its place by then, and every value is expanded to itself. -/
theorem replaceAll_eq_filledText_iff {expand : Expansion α} (fair : expand.IsFair)
    (slots : List (Slot α)) (full : ∀ slot ∈ slots, slot.IsFull) :
    replaceAll expand slots (writtenText slots) = filledText slots ↔
      FillOwnPlaces expand [] slots :=
  replaceAll_iff fair [] slots full

end Lombok.Library
