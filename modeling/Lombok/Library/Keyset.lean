import Mathlib.Data.List.Pairwise
import Mathlib.Data.List.Sort

/-!
Contract: reading an ordered list page by page, each page from a mark.

Owns the order that a list of comparisons makes, the rows of a list in that
order, and what is fetched on either side of a row: the rows behind it, or the
rows before it in the opposite order. `Apart` says that no two rows tie.

Does not own: how a mark is written down, or how many rows a page has.
-/

namespace Lombok.Library.Keyset

variable {Row : Type}

/-! ### Orders -/

/-- The first comparison that tells two rows apart decides. -/
def compareBy (comparisons : List (Row → Row → Ordering)) : Row → Row → Ordering :=
  comparisons.foldr compareLex fun _ _ => .eq

theorem compareBy_cons (first : Row → Row → Ordering) (rest : List (Row → Row → Ordering))
    (left right : Row) :
    compareBy (first :: rest) left right = (first left right).then (compareBy rest left right) :=
  rfl

theorem transCmp_compareBy {comparisons : List (Row → Row → Ordering)}
    (each : ∀ comparison ∈ comparisons, Std.TransCmp comparison) :
    Std.TransCmp (compareBy comparisons) := by
  induction comparisons with
  | nil => exact { eq_swap := rfl, isLE_trans := fun _ _ => rfl }
  | cons first rest inductionHypothesis =>
      have ofFirst := each first List.mem_cons_self
      have ofRest := inductionHypothesis fun comparison member =>
        each comparison (List.mem_cons_of_mem _ member)
      exact inferInstanceAs (Std.TransCmp (compareLex first (compareBy rest)))

theorem tie_of_compareBy {comparisons : List (Row → Row → Ordering)} {left right : Row}
    (tie : compareBy comparisons left right = .eq) :
    ∀ comparison ∈ comparisons, comparison left right = .eq := by
  induction comparisons with
  | nil => nofun
  | cons first rest inductionHypothesis =>
      rw [compareBy_cons, Ordering.then_eq_eq] at tie
      exact List.forall_mem_cons.mpr ⟨tie.1, inductionHypothesis tie.2⟩

/-- Turning every comparison around turns the order around. -/
theorem compareBy_opposite (comparisons : List (Row → Row → Ordering)) (left right : Row) :
    compareBy (comparisons.map fun comparison left right => (comparison left right).swap)
        left right =
      (compareBy comparisons left right).swap := by
  induction comparisons with
  | nil => rfl
  | cons first rest inductionHypothesis =>
      rw [List.map_cons, compareBy_cons, compareBy_cons, inductionHypothesis, Ordering.swap_then]

/-- A row is behind another if it is behind in the first comparison that tells them apart: the
comparisons before that one are asked to tie, one place at a time. -/
theorem any_mapIdx_or_all (less ties : α → Bool) (last : Bool) (items : List α) :
    ((items.mapIdx fun place item => less item && (items.take place).all ties).any id ||
        items.all ties && last) =
      items.foldr (fun item rest => less item || ties item && rest) last := by
  induction items with
  | nil => rfl
  | cons first rest inductionHypothesis =>
      have shifted : (rest.mapIdx fun place item =>
          less item && ((first :: rest).take (place + 1)).all ties).any id =
            (ties first &&
              (rest.mapIdx fun place item => less item && (rest.take place).all ties).any id) := by
        cases tied : ties first with
        | true => simp [tied]
        | false => simp [tied, List.any_eq_false]
      rw [List.mapIdx_cons, List.any_cons, shifted, List.all_cons, List.foldr_cons,
        ← inductionHypothesis]
      cases ties first <;> simp [Bool.or_assoc]

/-! ### Ordered rows -/

section Rows

variable {cmp : Row → Row → Ordering}

def Ordered (cmp : Row → Row → Ordering) (rows : List Row) : Prop :=
  rows.Pairwise fun earlier later => cmp earlier later = .lt

/-- No two rows tie. -/
def Apart (cmp : Row → Row → Ordering) (rows : List Row) : Prop :=
  rows.Pairwise fun earlier later => cmp earlier later ≠ .eq

def sort (cmp : Row → Row → Ordering) (rows : List Row) : List Row :=
  rows.insertionSort fun left right => (cmp left right).isLE = true

theorem perm_sort (rows : List Row) : (sort cmp rows).Perm rows := List.perm_insertionSort _ rows

theorem Ordered.apart {rows : List Row} (ordered : Ordered cmp rows) : Apart cmp rows := by
  apply ordered.imp
  intro left right less tie
  rw [less] at tie
  cases tie

variable [Std.TransCmp cmp]

theorem Apart.perm {rows others : List Row} (apart : Apart cmp rows) (same : rows.Perm others) :
    Apart cmp others := by
  refine same.pairwise apart ?_
  intro left right different tie
  exact different (Std.OrientedCmp.eq_symm tie)

theorem Apart.eq_of_tie {rows : List Row} (apart : Apart cmp rows) {left right : Row}
    (leftMember : left ∈ rows) (rightMember : right ∈ rows) (tie : cmp left right = .eq) :
    left = right := by
  have symmetric : Std.Symm fun left right => cmp left right ≠ .eq :=
    { symm := fun _ _ different other => different (Std.OrientedCmp.eq_symm other) }
  grind [apart.forall]

theorem pairwise_sort (rows : List Row) :
    (sort cmp rows).Pairwise fun left right => (cmp left right).isLE = true := by
  have total : Std.Total fun left right => (cmp left right).isLE = true := by
    refine { total := fun left right => ?_ }
    rw [@Std.OrientedCmp.eq_swap _ cmp _ right left]
    cases cmp left right <;> simp
  have transitive : IsTrans Row fun left right => (cmp left right).isLE = true :=
    ⟨fun _ _ _ => Std.TransCmp.isLE_trans⟩
  exact List.pairwise_insertionSort _ rows

theorem ordered_sort {rows : List Row} (apart : Apart cmp rows) : Ordered cmp (sort cmp rows) := by
  have different : Apart cmp (sort cmp rows) := apart.perm (perm_sort rows).symm
  refine ((pairwise_sort rows).and different).imp ?_
  intro left right both
  rcases both with ⟨notMore, noTie⟩
  cases order : cmp left right with
  | lt => rfl
  | eq => exact absurd order noTie
  | gt =>
      rw [order] at notMore
      cases notMore

/-- There is one way to order rows of which no two tie. -/
theorem sort_eq {rows ordering : List Row} (ordered : Ordered cmp ordering)
    (same : ordering.Perm rows) : sort cmp rows = ordering := by
  have weakly : ordering.Pairwise fun left right => (cmp left right).isLE = true := by
    apply ordered.imp
    intro left right less
    rw [less]
    rfl
  refine List.Perm.eq_of_pairwise ?_ (pairwise_sort rows) weakly ((perm_sort rows).trans same.symm)
  intro left right leftMember rightMember below above
  have leftThere := same.mem_iff.mpr ((perm_sort rows).mem_iff.mp leftMember)
  exact ordered.apart.eq_of_tie leftThere rightMember (Std.OrientedCmp.isLE_antisymm below above)

theorem sort_opposite {rows : List Row} (apart : Apart cmp rows) :
    sort (fun left right => cmp right left) rows = (sort cmp rows).reverse := by
  have ordered : Ordered (fun left right => cmp right left) (sort cmp rows).reverse :=
    List.pairwise_reverse.mpr (ordered_sort apart)
  exact sort_eq ordered ((List.reverse_perm _).trans (perm_sort rows))

/-! ### Either side of a row -/

theorem Ordered.filter_after {front back : List Row} {mark : Row}
    (ordered : Ordered cmp (front ++ mark :: back)) :
    (front ++ mark :: back).filter (fun row => (cmp mark row).isLT) = back := by
  rcases List.pairwise_append.mp ordered with ⟨_, fromMark, across⟩
  rcases List.pairwise_cons.mp fromMark with ⟨behind, _⟩
  have noneBefore : front.filter (fun row => (cmp mark row).isLT) = [] := by
    rw [List.filter_eq_nil_iff]
    intro row member
    rw [Std.OrientedCmp.gt_of_lt (across row member mark List.mem_cons_self)]
    decide
  have allBehind : back.filter (fun row => (cmp mark row).isLT) = back := by
    rw [List.filter_eq_self]
    intro row member
    rw [behind row member]
    rfl
  rw [List.filter_append, noneBefore, List.filter_cons, allBehind, @Std.ReflCmp.compare_self _ cmp]
  rfl

theorem Ordered.filter_before {front back : List Row} {mark : Row}
    (ordered : Ordered cmp (front ++ mark :: back)) :
    (front ++ mark :: back).filter (fun row => (cmp row mark).isLT) = front := by
  rcases List.pairwise_append.mp ordered with ⟨_, fromMark, across⟩
  rcases List.pairwise_cons.mp fromMark with ⟨behind, _⟩
  have allBefore : front.filter (fun row => (cmp row mark).isLT) = front := by
    rw [List.filter_eq_self]
    intro row member
    rw [across row member mark List.mem_cons_self]
    rfl
  have noneBehind : back.filter (fun row => (cmp row mark).isLT) = [] := by
    rw [List.filter_eq_nil_iff]
    intro row member
    rw [Std.OrientedCmp.gt_of_lt (behind row member)]
    decide
  simp [Std.ReflCmp.compare_self, allBefore, noneBehind]

variable {rows front back : List Row} {mark : Row}

/-- The rows behind the mark, in order. -/
theorem sort_filter_after (apart : Apart cmp rows)
    (sorted : sort cmp rows = front ++ mark :: back) :
    sort cmp (rows.filter fun row => (cmp mark row).isLT) = back := by
  have ordered : Ordered cmp (front ++ mark :: back) := sorted ▸ ordered_sort apart
  have same : (front ++ mark :: back).Perm rows := sorted ▸ perm_sort rows
  have kept := same.filter fun row => (cmp mark row).isLT
  rw [ordered.filter_after] at kept
  exact sort_eq (List.pairwise_cons.mp (List.pairwise_append.mp ordered).2.1).2 kept

theorem filter_before_perm (apart : Apart cmp rows)
    (sorted : sort cmp rows = front ++ mark :: back) :
    front.Perm (rows.filter fun row => (cmp row mark).isLT) := by
  have ordered : Ordered cmp (front ++ mark :: back) := sorted ▸ ordered_sort apart
  grind [perm_sort, ordered.filter_before]

theorem sort_filter_before (apart : Apart cmp rows)
    (sorted : sort cmp rows = front ++ mark :: back) :
    sort (fun left right => cmp right left) (rows.filter fun row => (cmp row mark).isLT) =
      front.reverse := by
  have ordered : Ordered cmp (front ++ mark :: back) := sorted ▸ ordered_sort apart
  have kept := filter_before_perm apart sorted
  have frontOrdered : Ordered cmp front := (List.pairwise_append.mp ordered).1
  rw [sort_opposite (frontOrdered.apart.perm kept), sort_eq frontOrdered kept]

end Rows

end Lombok.Library.Keyset
