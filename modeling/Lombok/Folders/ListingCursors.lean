import Lombok.Folders.ObjectListing

/-!
Contract: what a cursor asks for is one side of the row it was made of.

Owns the order of a request, that no two objects tie in it, and the agreement
with it of the three conditions the listing writes by hand: the condition of a
cursor in either direction, the `ORDER BY` with every sort turned around, and
the count of the rows before the first one of a page.

Does not own: which pages a client sees (see `ListingPages`).
-/

namespace Lombok.Folders

open Lombok.Core Lombok.Library Lombok.Library.Action

/-! ### The order of a request -/

def requestedOrder (texts : DatabaseText) (sort : List FolderObjectSort) :
    FolderObject → FolderObject → Ordering :=
  orderBy texts (orderSorts sort)

variable {texts : DatabaseText}

theorem orderSorts_eq (sort : List FolderObjectSort) :
    orderSorts sort = sort.map Subtype.val ++ [⟨.id, .asc⟩] := by
  have noId : (sort.map Subtype.val).any (fun sort => sort.column == .id) = false := by
    grind
  unfold orderSorts
  dsimp only
  rw [noId]
  rfl

theorem sortCols_orderSorts (sort : List FolderObjectSort) :
    sortCols (orderSorts sort) = sort.map Subtype.val := by
  have allKept : (sort.map Subtype.val).filter (fun sort => sort.column != .id) =
      sort.map Subtype.val := by
    grind [List.filter_eq_self]
  grind [sortCols, orderSorts_eq]

theorem transCmp_compareValues (texts : DatabaseText) (column : ListColumn) :
    Std.TransCmp (texts.compareValues column) := by
  cases column with
  | sizeBytes => exact inferInstanceAs (Std.TransCmp (Ord.compare : Int → Int → Ordering))
  | filename => exact texts.transCmp
  | objectKey => exact texts.transCmp
  | createdAt => exact inferInstanceAs (Std.TransCmp (Ord.compare : Int → Int → Ordering))
  | updatedAt => exact inferInstanceAs (Std.TransCmp (Ord.compare : Int → Int → Ordering))
  | id => exact inferInstanceAs (Std.TransCmp (Ord.compare : String → String → Ordering))

theorem transCmp_compare (texts : DatabaseText) (sort : OrderSort) :
    Std.TransCmp (sort.compare texts) := by
  have ofColumn := transCmp_compareValues texts sort.column
  have ascending : Std.TransCmp fun left right : FolderObject =>
      texts.compareValues sort.column (left.cell sort.column) (right.cell sort.column) :=
    { eq_swap := Std.OrientedCmp.eq_swap, isLE_trans := Std.TransCmp.isLE_trans }
  cases direction : sort.direction with
  | asc =>
      have same : sort.compare texts = fun left right : FolderObject =>
          texts.compareValues sort.column (left.cell sort.column) (right.cell sort.column) := by
        funext left right
        rw [OrderSort.compare, direction]
      rw [same]
      exact ascending
  | desc =>
      have same : sort.compare texts = fun left right : FolderObject =>
          texts.compareValues sort.column (right.cell sort.column) (left.cell sort.column) := by
        funext left right
        rw [OrderSort.compare, direction]
        exact Std.OrientedCmp.eq_swap.symm
      rw [same]
      exact Std.TransCmp.opposite

theorem transCmp_orderBy (texts : DatabaseText) (sorts : List OrderSort) :
    Std.TransCmp (orderBy texts sorts) := by
  apply Keyset.transCmp_compareBy
  simp [transCmp_compare]

instance transCmp_requestedOrder (texts : DatabaseText) (sort : List FolderObjectSort) :
    Std.TransCmp (requestedOrder texts sort) :=
  transCmp_orderBy texts _

/-- The flipped `ORDER BY` is the order read from the other end. -/
theorem orderBy_flipped (texts : DatabaseText) (sorts : List OrderSort) :
    orderBy texts (sorts.map OrderSort.flipped) =
      fun left right => orderBy texts sorts right left := by
  have turned : (sorts.map OrderSort.flipped).map (OrderSort.compare texts) =
      (sorts.map (OrderSort.compare texts)).map
        fun comparison left right => (comparison left right).swap := by
    rw [List.map_map, List.map_map]
    apply List.map_congr_left
    intro sort _
    funext left right
    rcases sort with ⟨column, direction⟩
    cases direction with
    | asc => rfl
    | desc => exact Ordering.swap_swap.symm
  have oriented := transCmp_orderBy texts sorts
  funext left right
  rw [@Std.OrientedCmp.eq_swap _ (orderBy texts sorts) _ right left, orderBy, turned,
    Keyset.compareBy_opposite]
  rfl

/-- Objects with distinct ids never tie. -/
theorem apart_requestedOrder {sort : List FolderObjectSort} {rows : List FolderObject}
    (distinct : rows.Pairwise fun earlier later => FolderObject.clash earlier later = false) :
    Keyset.Apart (requestedOrder texts sort) rows := by
  apply distinct.imp
  intro left right apart tie
  have idSort : (⟨.id, .asc⟩ : OrderSort) ∈ orderSorts sort := by
    simp [orderSorts_eq]
  have idTie : Ord.compare left.id right.id = .eq :=
    Keyset.tie_of_compareBy tie _ (List.mem_map_of_mem idSort)
  grind [FolderObject.clash]

/-! ### The conditions -/

/-- How a row lies to a mark, as seen in the direction of travel. -/
def facing (isNextDirection : Bool) (order : FolderObject → FolderObject → Ordering)
    (mark row : FolderObject) : Ordering :=
  if isNextDirection then order mark row else order row mark

variable {object : FolderObject} {keys : Fields} (isNextDirection : Bool)

theorem facing_cons (first : FolderObject → FolderObject → Ordering)
    (rest : List (FolderObject → FolderObject → Ordering)) (mark row : FolderObject) :
    facing isNextDirection (Keyset.compareBy (first :: rest)) mark row =
      (facing isNextDirection first mark row).then
        (facing isNextDirection (Keyset.compareBy rest) mark row) := by
  cases isNextDirection <;> rfl

theorem cursorComparison_eq (sort : OrderSort) (mark row : FolderObject) :
    cursorComparison texts isNextDirection sort (mark.cell sort.column) row =
      (facing isNextDirection (sort.compare texts) mark row).isLT := by
  have ofColumn := transCmp_compareValues texts sort.column
  have turned : ∀ left right : sort.column.Value,
      (texts.compareValues sort.column left right).isGT =
        (texts.compareValues sort.column right left).isLT :=
    fun _ _ => Std.OrientedCmp.isGT_eq_isLT
  cases direction : sort.direction <;> cases isNextDirection <;>
    simp [cursorComparison, facing, OrderSort.compare, Sql.gt, Sql.lt, direction, turned]

theorem eq_eq (sort : OrderSort) (mark row : FolderObject) :
    Sql.eq texts sort.column (mark.cell sort.column) row =
      (facing isNextDirection (sort.compare texts) mark row).isEq := by
  have ofColumn := transCmp_compareValues texts sort.column
  have turned : (texts.compareValues sort.column (row.cell sort.column)
      (mark.cell sort.column)).isEq =
        (texts.compareValues sort.column (mark.cell sort.column) (row.cell sort.column)).isEq := by
    rw [@Std.OrientedCmp.eq_swap _ (texts.compareValues sort.column), Ordering.isEq_swap]
  cases direction : sort.direction <;> cases isNextDirection <;>
    simp [facing, OrderSort.compare, Sql.eq, direction, turned]

theorem idComparison_eq (mark row : FolderObject) :
    idComparison texts isNextDirection mark.id row =
      (facing isNextDirection (OrderSort.compare texts ⟨.id, .asc⟩) mark row).isLT := by
  rw [← cursorComparison_eq]
  cases isNextDirection <;> rfl

/-- A row lies behind the mark if it does in the first column that tells them apart. -/
theorem isLT_facing_orderBy (chosen : List OrderSort) (mark row : FolderObject) :
    (facing isNextDirection (orderBy texts (chosen ++ [⟨.id, .asc⟩])) mark row).isLT =
      chosen.foldr
        (fun sort rest => (facing isNextDirection (sort.compare texts) mark row).isLT ||
          (facing isNextDirection (sort.compare texts) mark row).isEq && rest)
        (facing isNextDirection (OrderSort.compare texts ⟨.id, .asc⟩) mark row).isLT := by
  induction chosen with
  | nil =>
      grind [orderBy, facing_cons, facing, Keyset.compareBy]
  | cons first rest inductionHypothesis =>
      grind [orderBy, facing_cons, Ordering.isLT_then]

/-- The rows counted as before a page are the ones before its first row. -/
theorem sortsBeforeFirst_eq (sort : List FolderObjectSort) (first row : FolderObject) :
    sortsBeforeFirst texts (orderSorts sort) first row =
      (requestedOrder texts sort row first).isLT := by
  have named : ∀ chosen ∈ sort.map Subtype.val, chosen.column ≠ .id := by
    grind
  have before : ∀ chosen : OrderSort, previousComparison texts first chosen row =
      (facing false (chosen.compare texts) first row).isLT := by
    intro chosen
    rw [← cursorComparison_eq, previousComparison, cursorComparison]
    cases chosen.direction <;> rfl
  have byId : Sql.lt texts .id first.id row =
      (facing false (OrderSort.compare texts ⟨.id, .asc⟩) first row).isLT :=
    idComparison_eq false first row
  unfold sortsBeforeFirst requestedOrder
  rw [sortCols_orderSorts, orderSorts_eq]
  show _ = (facing false (orderBy texts _) first row).isLT
  rw [isLT_facing_orderBy, ← byId]
  revert named
  generalize sort.map Subtype.val = chosen
  intro named
  have prefixes : ∀ place,
      ((chosen ++ [(⟨.id, .asc⟩ : OrderSort)]).take place).all (matchesFirst texts first row) =
        (chosen.take place).all (matchesFirst texts first row) := by
    intro place
    grind [List.take_append, matchesFirst]
  simp only [prefixes]
  rw [Keyset.any_mapIdx_or_all]
  apply List.foldr_ext
  intro chosenSort member rest
  have noId : (chosenSort.column == .id) = false := by simp [named chosenSort member]
  rw [before, matchesFirst, noId, Bool.false_or, eq_eq false]

/-! ### Cursors -/

def FolderObject.HasDates (object : FolderObject) : Prop :=
  (-Date.maxTime ≤ object.createdAt ∧ object.createdAt ≤ Date.maxTime) ∧
    (-Date.maxTime ≤ object.updatedAt ∧ object.updatedAt ≤ Date.maxTime)

instance (object : FolderObject) : Decidable object.HasDates :=
  inferInstanceAs (Decidable (((-Date.maxTime : Int) ≤ object.createdAt ∧ _ ≤ Date.maxTime) ∧
    ((-Date.maxTime : Int) ≤ object.updatedAt ∧ _ ≤ Date.maxTime)))

theorem digitsValue_eq_ofDigitChars (digits : List Char) :
    digitsValue digits = Nat.ofDigitChars 10 digits 0 := by
  unfold digitsValue Nat.ofDigitChars
  congr 1
  funext value digit
  rw [Nat.mul_comm]
  rfl

/-- A size is read back from the number it is written as. -/
theorem wholeNumber_ofNat (value : Nat) :
    wholeNumber (decimalOf (toString value)) = some (value : Int) := by
  have digits : ∀ character ∈ (toString value).toList, character.isDigit = true := by
    intro character member
    rw [Nat.toString_eq_repr, Nat.toList_repr] at member
    exact Nat.isDigit_of_mem_toDigits (by omega) (by omega) member
  have amount : digitsValue (toString value).toList = value := by
    simp [digitsValue_eq_ofDigitChars]
  have unsigned : decimalOfUnsigned (toString value).toList = ⟨value, 0⟩ := by
    have allTaken := List.takeWhile_eq_self_iff.mpr digits
    have noneLeft := List.dropWhile_eq_nil_iff.mpr digits
    unfold decimalOfUnsigned
    simp only [allTaken, noneLeft, amount]
    rfl
  grind [decimalOf, List.mem_cons_self, wholeNumber, Decimal.isIntegral]

theorem toISOString_isOk {date : Date} (valid : -Date.maxTime ≤ date ∧ date ≤ Date.maxTime) :
    ∃ text, Date.toISOString date = .ok text := by
  have inRange : ¬(date < -Date.maxTime ∨ Date.maxTime < date) := by
    simp [valid]
  rw [Date.toISOString, if_neg inRange]
  exact ⟨_, rfl⟩

theorem typedValue_cursorValue (dates : object.HasDates) (column : ListColumn) :
    ∃ value, cursorValue object column = .ok value ∧ value.isPlain = true ∧
      typedValue column value = some (object.cell column) := by
  cases column with
  | sizeBytes =>
      exact ⟨_, rfl, Json.isPlain_ofNat _, wholeNumber_ofNat object.sizeBytes⟩
  | filename => exact ⟨_, rfl, rfl, rfl⟩
  | objectKey => exact ⟨_, rfl, rfl, rfl⟩
  | createdAt =>
      rcases toISOString_isOk dates.1 with ⟨text, printed⟩
      refine ⟨.str text, ?_, rfl, Date.parse_toISOString printed⟩
      rw [cursorValue, printed]
      rfl
  | updatedAt =>
      rcases toISOString_isOk dates.2 with ⟨text, printed⟩
      refine ⟨.str text, ?_, rfl, Date.parse_toISOString printed⟩
      rw [cursorValue, printed]
      rfl
  | id => exact ⟨_, rfl, rfl, rfl⟩

/-- The keys hold the value that an object has in a column. -/
def Carries (keys : Fields) (object : FolderObject) (column : ListColumn) : Prop :=
  ∃ value, keys.get? column.name = some value ∧ typedValue column value = some (object.cell column)

theorem name_injective {column other : ListColumn} (same : column.name = other.name) :
    column = other := by
  cases column <;> cases other <;> first | rfl | simp [ListColumn.name] at same

theorem Carries.set {column written : ListColumn} {value : Json}
    (carries : Carries keys object column)
    (read : typedValue written value = some (object.cell written)) :
    Carries (keys.set written.name value) object column := by
  by_cases same : column = written
  · subst same
    exact ⟨value, Fields.get?_set_same _ _ _, read⟩
  · rcases carries with ⟨carried, found, readCarried⟩
    refine ⟨carried, ?_, readCarried⟩
    rw [Fields.get?_set_other _ _ fun sameName => same (name_injective sameName)]
    exact found

theorem cursorKeys_spec (dates : object.HasDates) (sorts : List OrderSort)
    (plain : Json.isPlainFields keys = true) :
    ∃ written, cursorKeys object sorts keys = .ok written ∧
      Json.isPlainFields written = true ∧
      (∀ column, Carries keys object column → Carries written object column) ∧
      ∀ sort ∈ sorts, sort.column ≠ .id → Carries written object sort.column := by
  induction sorts generalizing keys with
  | nil => exact ⟨keys, rfl, plain, fun _ => id, nofun⟩
  | cons sort rest inductionHypothesis =>
      by_cases isId : sort.column = .id
      · grind [cursorKeys]
      · rcases typedValue_cursorValue dates sort.column with ⟨value, printed, plainValue, read⟩
        rcases inductionHypothesis (Json.isPlainFields_set plain sort.column.name plainValue) with
          ⟨written, done, plainWritten, kept, carried⟩
        have own : Carries (keys.set sort.column.name value) object sort.column :=
          ⟨value, Fields.get?_set_same _ _ _, read⟩
        refine ⟨written, ?_, plainWritten, ?_, ?_⟩
        · rw [cursorKeys, if_neg isId, printed]
          exact done
        · exact fun column carries => kept column (carries.set read)
        · grind

theorem keysetCondition_spec (texts : DatabaseText) (isNextDirection : Bool) {mark : FolderObject}
    (chosen : List OrderSort) (carried : ∀ sort ∈ chosen, Carries keys mark sort.column) :
    ∃ condition,
      keysetCondition texts isNextDirection (some (.obj keys)) mark.id chosen = .ok condition ∧
        ∀ row, condition.getD (idComparison texts isNextDirection mark.id) row =
          (facing isNextDirection (orderBy texts (chosen ++ [⟨.id, .asc⟩])) mark row).isLT := by
  induction chosen with
  | nil =>
      refine ⟨none, rfl, ?_⟩
      intro row
      rw [isLT_facing_orderBy]
      exact idComparison_eq isNextDirection mark row
  | cons sort rest inductionHypothesis =>
      rcases inductionHypothesis fun other member => carried other (List.mem_cons_of_mem _ member)
        with ⟨condition, made, holds⟩
      rcases carried sort List.mem_cons_self with ⟨value, found, read⟩
      refine ⟨some fun row =>
        cursorComparison texts isNextDirection sort (mark.cell sort.column) row ||
          (Sql.eq texts sort.column (mark.cell sort.column) row &&
          condition.getD (idComparison texts isNextDirection mark.id) row), ?_, ?_⟩
      · have mentioned : ((some (Json.obj keys)).bind fun keys => keys.get? sort.column.name) =
            some value := found
        rw [keysetCondition, made]
        simp only [mentioned, read]
        rfl
      · grind [cursorComparison_eq, eq_eq, isLT_facing_orderBy]

def CursorDirection.isNext : CursorDirection → Bool
  | next => true
  | previous => false

/-- A cursor that was made of a row asks for the rows on one side of it. -/
theorem keysetStart_cursorOf {sort : List FolderObjectSort} {mark : FolderObject}
    (dates : mark.HasDates) (direction : CursorDirection) :
    ∃ cursor, cursorOf direction (orderSorts sort) mark = .ok cursor ∧ cursor ≠ "" ∧
      ∃ holds, keysetStart texts (orderSorts sort) cursor = .ok ⟨direction.isNext, some holds⟩ ∧
        ∀ row, holds row = (facing direction.isNext (requestedOrder texts sort) mark row).isLT := by
  have noKeys : Json.isPlainFields [] = true := rfl
  rcases cursorKeys_spec dates (orderSorts sort) noKeys with ⟨keys, written, plain, _, carried⟩
  have carriedNamed : ∀ chosen ∈ sort.map Subtype.val, Carries keys mark chosen.column := by
    grind [orderSorts_eq]
  rcases keysetCondition_spec texts direction.isNext _ carriedNamed with ⟨condition, made, holds⟩
  have isPlain : (Json.obj [("lastId", .str mark.id), ("keys", .obj keys),
      ("direction", .str direction.name)]).isPlain = true := by
    simp [Json.isPlain, Json.isPlainFields, plain]
  have parsed : Json.parse (decodeUtf8 (Base64.decode
      (cursorText direction mark.id keys).toList)) = some (.obj [("lastId", .str mark.id),
        ("keys", .obj keys), ("direction", .str direction.name)]) := by
    rw [cursorText, String.toList_ofList, Base64.decode_encode, decodeUtf8_toUtf8,
      Json.parse_stringify isPlain]
  refine ⟨cursorText direction mark.id keys, ?_, ?_,
    condition.getD (idComparison texts direction.isNext mark.id), ?_, ?_⟩
  · rw [cursorOf, written]
    rfl
  · intro empty
    rw [empty] at parsed
    cases parsed
  · have isNext : (direction.name != "previous") = direction.isNext := by
      cases direction <;> decide
    rw [keysetStart, parsed]
    show ((keysetCondition texts (direction.name != "previous") (some (.obj keys)) mark.id
      (sortCols (orderSorts sort))).bind fun condition => Except.ok (KeysetStart.mk
        (direction.name != "previous")
        (some (condition.getD (idComparison texts (direction.name != "previous") mark.id))))) = _
    rw [isNext, sortCols_orderSorts, made]
    rfl
  · intro row
    rw [holds row, requestedOrder, orderSorts_eq]

end Lombok.Folders
