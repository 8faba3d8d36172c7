import Lombok.Folders.ListingCursors
import Lombok.Folders.StorageFailures

/-!
Contract: a client that follows the cursors of a listing.

Following `nextCursor` visits every matching object once, in the requested
order. Going back is another matter: a listing that goes back fetches one row
beyond the page as well, cuts the page from the wrong end of what it fetched,
and takes a page that was not overfull for the last one.

Does not own: how one page is fetched (see `ObjectListing`).
-/

namespace Lombok.Folders

open Lombok.Core Lombok.Library Lombok.Library.Action

/-! ### Following cursors -/

/-- The listings a client gets that follows `nextCursor` until it is absent. -/
inductive Follows (list : Option String → Except ApiError Listing) :
    Option String → List Listing → Prop where
  | last {cursor : Option String} {listing : Listing} (listed : list cursor = .ok listing)
      (ended : listing.nextCursor = none) : Follows list cursor [listing]
  | more {cursor : Option String} {listing : Listing} {next : String} {rest : List Listing}
      (listed : list cursor = .ok listing) (continued : listing.nextCursor = some next)
      (followed : Follows list (some next) rest) : Follows list cursor (listing :: rest)

/-- The listings a client can get, going to and fro from the first one. -/
inductive Reached (list : Option String → Except ApiError Listing) : Listing → Prop where
  | first {listing : Listing} (listed : list none = .ok listing) : Reached list listing
  | next {current listing : Listing} {cursor : String} (reached : Reached list current)
      (continued : current.nextCursor = some cursor)
      (listed : list (some cursor) = .ok listing) : Reached list listing
  | previous {current listing : Listing} {cursor : String} (reached : Reached list current)
      (continued : current.previousCursor = some cursor)
      (listed : list (some cursor) = .ok listing) : Reached list listing

/-- The pages are exact: following `nextCursor` visits the matching objects once and in order,
the previous page of a page is the one it was reached from, and a cursor is there iff there is
an object on its side of the page. -/
structure PagesAreExact (order : FolderObject → FolderObject → Ordering)
    (matching : List FolderObject) (list : Option String → Except ApiError Listing) : Prop where
  visits : ∃ pages, Follows list none pages ∧ (pages.flatMap Listing.result).Perm matching ∧
    Keyset.Ordered order (pages.flatMap Listing.result)
  back : ∀ pages, Follows list none pages → ∀ place page following,
    pages[place]? = some page → pages[place + 1]? = some following →
      ∃ cursor listing, following.previousCursor = some cursor ∧
        list (some cursor) = .ok listing ∧ listing.result = page.result
  nextCursors : ∀ listing, Reached list listing →
    (listing.nextCursor.isSome = true ↔
      ∃ object ∈ matching, ∀ shown ∈ listing.result, order shown object = .lt)
  previousCursors : ∀ listing, Reached list listing →
    (listing.previousCursor.isSome = true ↔
      ∃ object ∈ matching, ∀ shown ∈ listing.result, order object shown = .lt)

/-! ### One page -/

/-- The cursor that is made of a row, if its dates print. -/
def cursorFor (direction : CursorDirection) (orderSorts : List OrderSort) (object : FolderObject) :
    Option String :=
  (cursorOf direction orderSorts object).toOption

/-- The listing of a page, by whether there is something before it and behind it. -/
def listingAt (orderSorts : List OrderSort) (totalCount : Nat) (earlier later : Bool)
    (page : List FolderObject) : Listing where
  result := page
  totalCount := totalCount
  nextCursor := if later then page.getLast?.bind (cursorFor .next orderSorts) else none
  previousCursor := if earlier then page.head?.bind (cursorFor .previous orderSorts) else none

/-- The request of a client that goes on from a cursor, or starts with the first page. -/
def ListingQuery.continuing (query : ListingQuery) (cursor : Option String) : ListingQuery :=
  { query with cursor := cursor, offset := 0 }

section Pages

variable {texts : DatabaseText} {query : ListingQuery} {rows : List FolderObject}

def ListingQuery.matching (texts : DatabaseText) (query : ListingQuery)
    (rows : List FolderObject) : List FolderObject :=
  rows.filter (query.matchesObject texts)

def ListingQuery.ordered (texts : DatabaseText) (query : ListingQuery)
    (rows : List FolderObject) : List FolderObject :=
  Keyset.sort (requestedOrder texts query.sort) (query.matching texts rows)

/-- The rows of a table of objects whose dates print. -/
structure StoredObjects (rows : List FolderObject) : Prop where
  distinct : rows.Pairwise fun earlier later => FolderObject.clash earlier later = false
  dates : ∀ object ∈ rows, object.HasDates

theorem StoredObjects.apart (stored : StoredObjects rows) :
    Keyset.Apart (requestedOrder texts query.sort) (query.matching texts rows) :=
  apart_requestedOrder (stored.distinct.filter _)

variable {front back : List FolderObject} {object : FolderObject} {page : List FolderObject}
    {cursor : String}

theorem StoredObjects.hasDates (stored : StoredObjects rows)
    (member : object ∈ query.ordered texts rows) : object.HasDates :=
  stored.dates object (List.mem_filter.mp ((Keyset.perm_sort _).mem_iff.mp member)).1

theorem StoredObjects.ordered (stored : StoredObjects rows) :
    Keyset.Ordered (requestedOrder texts query.sort) (query.ordered texts rows) :=
  Keyset.ordered_sort stored.apart

theorem cursorFor_of_dates (dates : object.HasDates) (direction : CursorDirection)
    (sorts : List OrderSort) :
    ∃ cursor, cursorOf direction sorts object = .ok cursor ∧
      cursorFor direction sorts object = some cursor := by
  have noKeys : Json.isPlainFields [] = true := rfl
  rcases cursorKeys_spec dates sorts noKeys with ⟨keys, written, _⟩
  have made : cursorOf direction sorts object = .ok (cursorText direction object.id keys) := by
    rw [cursorOf, written]
    rfl
  refine ⟨_, made, ?_⟩
  rw [cursorFor, made]
  rfl

theorem countP_sortsBeforeFirst (stored : StoredObjects rows) {first : FolderObject}
    (place : query.ordered texts rows = front ++ first :: back) :
    (query.matching texts rows).countP (sortsBeforeFirst texts (orderSorts query.sort) first) =
      front.length := by
  have same : sortsBeforeFirst texts (orderSorts query.sort) first =
      fun row => (requestedOrder texts query.sort row first).isLT := by
    funext row
    exact sortsBeforeFirst_eq query.sort first row
  rw [same, List.countP_eq_length_filter]
  exact (Keyset.filter_before_perm stored.apart place).length_eq.symm

theorem nextCursorOf_eq {folderObjects : List FolderObject}
    (dates : ∀ object ∈ page, object.HasDates)
    (someRow : query.limit < folderObjects.length → page ≠ []) :
    nextCursorOf query folderObjects page =
      .ok (if decide (query.limit < folderObjects.length) then
        page.getLast?.bind (cursorFor .next (orderSorts query.sort)) else none) := by
  unfold nextCursorOf
  by_cases more : query.limit < folderObjects.length
  · rcases last : page.getLast? with _ | object
    · exact absurd (List.getLast?_eq_none_iff.mp last) (someRow more)
    · rcases cursorFor_of_dates (dates object (List.mem_of_getLast? last)) .next
        (orderSorts query.sort) with ⟨cursor, made, same⟩
      rw [if_pos more, if_pos (decide_eq_true more), Option.bind_some, same]
      show (cursorOf _ _ object).bind (fun cursor => .ok (some cursor)) = _
      rw [made]
      rfl
  · rw [if_neg more, if_neg (by simpa using more)]

theorem previousCursorOf_eq (stored : StoredObjects rows) (dates : ∀ object ∈ page, object.HasDates)
    (place : query.ordered texts rows = front ++ page ++ back) :
    previousCursorOf texts query (query.matching texts rows) page =
      .ok (if decide (0 < front.length) then
        page.head?.bind (cursorFor .previous (orderSorts query.sort)) else none) := by
  cases page with
  | nil => cases front <;> rfl
  | cons first rest =>
      rcases cursorFor_of_dates (dates first List.mem_cons_self) .previous
        (orderSorts query.sort) with ⟨cursor, made, same⟩
      have place' : query.ordered texts rows = front ++ first :: (rest ++ back) := by
        rw [place, List.append_assoc]
        rfl
      have counted := countP_sortsBeforeFirst stored place'
      show (cursorOf _ _ first).bind (fun cursor => .ok (if 0 < _ then some cursor else none)) = _
      rw [made, counted, List.head?_cons, Option.bind_some, same]
      cases front <;> rfl

/-- The answer for a page that stands between `front` and `back` in the requested order. -/
theorem listingOf_eq (stored : StoredObjects rows) (someLimit : 0 < query.limit)
    {folderObjects : List FolderObject} {isNextDirection : Bool}
    (place : query.ordered texts rows = front ++ page ++ back)
    (shown : (if isNextDirection then folderObjects else folderObjects.reverse).take query.limit =
      page) :
    listingOf texts query (query.matching texts rows) isNextDirection folderObjects =
      .ok (listingAt (orderSorts query.sort) (query.matching texts rows).length
        (decide (0 < front.length)) (decide (query.limit < folderObjects.length)) page) := by
  have dates : ∀ object ∈ page, object.HasDates := by
    intro object member
    have there : object ∈ query.ordered texts rows := by
      simp [place, member]
    exact stored.hasDates there
  have someRow : query.limit < folderObjects.length → page ≠ [] := by
    grind [List.length_take]
  unfold listingOf
  dsimp only
  rw [shown, nextCursorOf_eq dates someRow, previousCursorOf_eq stored dates place]
  rfl

/-- Going forward: the page is what comes first behind `front`. -/
theorem listingOf_forward (stored : StoredObjects rows) (someLimit : 0 < query.limit)
    (place : query.ordered texts rows = front ++ back) :
    listingOf texts query (query.matching texts rows) true (back.take (query.limit + 1)) =
      .ok (listingAt (orderSorts query.sort) (query.matching texts rows).length
        (decide (0 < front.length)) (decide (query.limit < back.length))
        (back.take query.limit)) := by
  have split : query.ordered texts rows =
      front ++ back.take query.limit ++ back.drop query.limit := by
    rw [List.append_assoc, List.take_append_drop, place]
  have shown : (if true then back.take (query.limit + 1)
      else (back.take (query.limit + 1)).reverse).take query.limit = back.take query.limit := by
    rw [if_pos rfl, List.take_take, Nat.min_eq_left (Nat.le_succ _)]
  have more : decide (query.limit < (back.take (query.limit + 1)).length) =
      decide (query.limit < back.length) := by
    rw [List.length_take, decide_eq_decide]
    omega
  rw [listingOf_eq stored someLimit split shown, more]

theorem listFolderObjects_first (stored : StoredObjects rows) (someLimit : 0 < query.limit) :
    listFolderObjects texts (query.continuing none) rows =
      .ok (listingAt (orderSorts query.sort) (query.matching texts rows).length false
        (decide (query.limit < (query.ordered texts rows).length))
        ((query.ordered texts rows).take query.limit)) := by
  have place : query.ordered texts rows = [] ++ query.ordered texts rows := rfl
  refine Eq.trans ?_ (listingOf_forward stored someLimit place)
  show listingOf texts query (query.matching texts rows) true
    (((Keyset.sort (requestedOrder texts query.sort)
      ((query.matching texts rows).filter fun _ => true)).drop 0).take (query.limit + 1)) = _
  rw [List.filter_true, List.drop_zero]
  rfl

theorem listFolderObjects_cursor (given : cursor ≠ "") {isNextDirection : Bool}
    {holds : FolderObject → Bool}
    (started : keysetStart texts (orderSorts query.sort) cursor = .ok ⟨isNextDirection,
        some holds⟩) :
    listFolderObjects texts (query.continuing (some cursor)) rows =
      listingOf texts query (query.matching texts rows) isNextDirection
        ((Keyset.sort (orderBy texts (if isNextDirection then orderSorts query.sort
            else (orderSorts query.sort).map OrderSort.flipped))
          ((query.matching texts rows).filter holds)).take (query.limit + 1)) := by
  have isGiven : (query.continuing (some cursor)).givenCursor = some cursor := by
    exact if_pos (by simpa using given)
  rw [listFolderObjects, isGiven]
  show ((keysetStart texts (orderSorts query.sort) cursor).bind fun start => _) = _
  rw [started]
  rfl

/-- The page behind a mark. -/
theorem listFolderObjects_next (stored : StoredObjects rows) (someLimit : 0 < query.limit)
    {mark : FolderObject} (place : query.ordered texts rows = front ++ mark :: back)
    (made : cursorOf .next (orderSorts query.sort) mark = .ok cursor) :
    listFolderObjects texts (query.continuing (some cursor)) rows =
      .ok (listingAt (orderSorts query.sort) (query.matching texts rows).length true
        (decide (query.limit < back.length)) (back.take query.limit)) := by
  have member : mark ∈ query.ordered texts rows := by
    simp [place]
  rcases @keysetStart_cursorOf texts query.sort mark (stored.hasDates member) .next with
    ⟨text, written, given, holds, started, behind⟩
  rw [made] at written
  cases written
  have after : holds = fun row => (requestedOrder texts query.sort mark row).isLT := funext behind
  have place' : query.ordered texts rows = (front ++ [mark]) ++ back := by
    rw [place, List.append_assoc]
    rfl
  have sorted : Keyset.sort (requestedOrder texts query.sort)
      ((query.matching texts rows).filter holds) = back := by
    rw [after]
    exact Keyset.sort_filter_after stored.apart place
  have someBefore : decide (0 < (front ++ [mark]).length) = true := by simp
  rw [listFolderObjects_cursor given started]
  show listingOf texts query (query.matching texts rows) true
    ((Keyset.sort (requestedOrder texts query.sort) _).take (query.limit + 1)) = _
  rw [sorted, listingOf_forward stored someLimit place', someBefore]

/-- The page before a mark: the rows before it, less what is cut off at the far end. -/
theorem listFolderObjects_previous (stored : StoredObjects rows) (someLimit : 0 < query.limit)
    {mark : FolderObject} (place : query.ordered texts rows = front ++ mark :: back)
    (made : cursorOf .previous (orderSorts query.sort) mark = .ok cursor) :
    listFolderObjects texts (query.continuing (some cursor)) rows =
      .ok (listingAt (orderSorts query.sort) (query.matching texts rows).length
        (decide (query.limit + 1 < front.length)) (decide (query.limit < front.length))
        ((front.drop (front.length - (query.limit + 1))).take query.limit)) := by
  have member : mark ∈ query.ordered texts rows := by
    simp [place]
  rcases @keysetStart_cursorOf texts query.sort mark (stored.hasDates member) .previous with
    ⟨text, written, given, holds, started, before⟩
  rw [made] at written
  cases written
  have isBefore : holds = fun row => (requestedOrder texts query.sort row mark).isLT :=
    funext before
  have sorted : Keyset.sort (orderBy texts ((orderSorts query.sort).map OrderSort.flipped))
      ((query.matching texts rows).filter holds) = front.reverse := by
    have sortedBefore := Keyset.sort_filter_before stored.apart place
    rw [isBefore, orderBy_flipped]
    exact sortedBefore
  have fetched : (front.reverse.take (query.limit + 1)).reverse =
      front.drop (front.length - (query.limit + 1)) := by
    rw [List.take_reverse, List.reverse_reverse]
  have split : query.ordered texts rows = front.take (front.length - (query.limit + 1)) ++
      (front.drop (front.length - (query.limit + 1))).take query.limit ++
        ((front.drop (front.length - (query.limit + 1))).drop query.limit ++ mark :: back) := by
    grind [List.take_append_drop]
  have shown : (if false then front.reverse.take (query.limit + 1)
      else (front.reverse.take (query.limit + 1)).reverse).take query.limit =
        (front.drop (front.length - (query.limit + 1))).take query.limit := by
    rw [if_neg Bool.false_ne_true, fetched]
  have earlier : decide (0 < (front.take (front.length - (query.limit + 1))).length) =
      decide (query.limit + 1 < front.length) := by
    rw [List.length_take, decide_eq_decide]
    omega
  have later : decide (query.limit < (front.reverse.take (query.limit + 1)).length) =
      decide (query.limit < front.length) := by
    simp
  rw [listFolderObjects_cursor given started]
  show listingOf texts query (query.matching texts rows) false ((Keyset.sort
    (orderBy texts ((orderSorts query.sort).map OrderSort.flipped)) _).take _) = _
  rw [sorted, listingOf_eq stored someLimit split shown, earlier, later]

/-! ### Following the pages -/

/-- The cursor behind a page that is not the last one is made of its last row. -/
theorem nextCursor_listingAt (stored : StoredObjects rows) (someLimit : 0 < query.limit)
    {rest : List FolderObject} (place : query.ordered texts rows = front ++ rest)
    (more : query.limit < rest.length) (earlier : Bool) (totalCount : Nat) :
    ∃ init last cursor, rest.take query.limit = init ++ [last] ∧
      cursorOf .next (orderSorts query.sort) last = .ok cursor ∧
      (listingAt (orderSorts query.sort) totalCount earlier
        (decide (query.limit < rest.length)) (rest.take query.limit)).nextCursor = some cursor := by
  rcases List.eq_nil_or_concat (rest.take query.limit) with empty | ⟨init, last, concat⟩
  · grind [List.length_nil]
  · have page : rest.take query.limit = init ++ [last] := by rw [concat, List.concat_eq_append]
    have member : last ∈ query.ordered texts rows := by
      rw [place, ← List.take_append_drop query.limit rest, page]
      simp
    rcases cursorFor_of_dates (stored.hasDates member) .next (orderSorts query.sort) with
      ⟨cursor, made, same⟩
    simp [listingAt, page, made, more, same]

/-- Following `nextCursor` from a page visits what is left from that page on. -/
theorem follows_from (stored : StoredObjects rows) (someLimit : 0 < query.limit)
    {rest : List FolderObject} {cursor : Option String} {earlier : Bool}
    (place : query.ordered texts rows = front ++ rest)
    (listed : listFolderObjects texts (query.continuing cursor) rows =
      .ok (listingAt (orderSorts query.sort) (query.matching texts rows).length earlier
      (decide (query.limit < rest.length)) (rest.take query.limit))) :
    ∃ pages, Follows (fun cursor => listFolderObjects texts (query.continuing cursor) rows)
      cursor pages ∧ pages.flatMap Listing.result = rest := by
  induction length : rest.length using Nat.strong_induction_on
    generalizing front rest cursor earlier with
  | _ total inductionHypothesis =>
      by_cases more : query.limit < rest.length
      · rcases nextCursor_listingAt stored someLimit place more earlier
          (query.matching texts rows).length with ⟨init, last, next, page, made, continued⟩
        have place' : query.ordered texts rows =
            (front ++ init) ++ last :: rest.drop query.limit := by
          rw [place, List.append_assoc, List.append_cons, ← page, List.take_append_drop]
        have listed' := listFolderObjects_next stored someLimit place' made
        have left : (rest.drop query.limit).length < total := by
          rw [List.length_drop]
          omega
        rw [List.append_cons] at place'
        rcases inductionHypothesis _ left place' listed' rfl with ⟨pages, followed, visited⟩
        refine ⟨_ :: pages, Follows.more listed continued followed, ?_⟩
        rw [List.flatMap_cons, visited]
        exact List.take_append_drop query.limit rest
      · refine ⟨[_], Follows.last listed ?_, ?_⟩
        · rw [listingAt, if_neg (by simpa using more)]
        · rw [List.flatMap_singleton]
          exact List.take_of_length_le (Nat.le_of_not_lt more)

/-- Following `nextCursor` from the first page visits every object once, in order. -/
theorem follows_visits (stored : StoredObjects rows) (someLimit : 0 < query.limit) :
    ∃ pages, Follows (fun cursor => listFolderObjects texts (query.continuing cursor) rows)
      none pages ∧ pages.flatMap Listing.result = query.ordered texts rows :=
  follows_from stored someLimit (List.nil_append _).symm
    (listFolderObjects_first stored someLimit)

theorem length_ordered (texts : DatabaseText) (query : ListingQuery) (rows : List FolderObject) :
    (query.ordered texts rows).length = (query.matching texts rows).length :=
  (Keyset.perm_sort _).length_eq

theorem mem_ordered :
    object ∈ query.ordered texts rows ↔ object ∈ query.matching texts rows :=
  (Keyset.perm_sort _).mem_iff

/-- Where one page shows everything, there is nowhere else to go. -/
theorem pagesAreExact_of_onePage (stored : StoredObjects rows) (someLimit : 0 < query.limit)
    (onePage : (query.matching texts rows).length ≤ query.limit) :
    PagesAreExact (requestedOrder texts query.sort) (query.matching texts rows)
      fun cursor => listFolderObjects texts (query.continuing cursor) rows := by
  have listed := @listFolderObjects_first texts query rows stored someLimit
  have fits : (query.ordered texts rows).length ≤ query.limit := by
    rw [length_ordered]
    exact onePage
  rw [List.take_of_length_le fits, decide_eq_false (Nat.not_lt.mpr fits)] at listed
  have reachedOne : ∀ listing,
      Reached (fun cursor => listFolderObjects texts (query.continuing cursor) rows) listing →
        listing = listingAt (orderSorts query.sort) (query.matching texts rows).length false false
          (query.ordered texts rows) := by
    intro listing reached
    induction reached with
    | first again => exact (Except.ok.inj (again.symm.trans listed))
    | next _ continued _ inductionHypothesis =>
        rw [inductionHypothesis] at continued
        cases continued
    | previous _ continued _ inductionHypothesis =>
        rw [inductionHypothesis] at continued
        cases continued
  have notBeyondItself : ∀ object,
      requestedOrder texts query.sort object object ≠ .lt := by
    grind
  rcases @follows_visits texts query rows stored someLimit with ⟨pages, followed, visited⟩
  refine { visits := ⟨pages, followed, ?_, ?_⟩, back := ?_, nextCursors := ?_,
           previousCursors := ?_ }
  · rw [visited]
    exact Keyset.perm_sort _
  · rw [visited]
    exact stored.ordered
  · intro pages followed place page following isPage isFollowing
    cases followed with
    | last => cases place <;> cases isFollowing
    | more again continued _ =>
        rw [listed] at again
        cases again
        cases continued
  · intro listing reached
    rw [reachedOne listing reached]
    refine ⟨nofun, ?_⟩
    rintro ⟨object, member, behind⟩
    exact absurd (behind object (mem_ordered.mpr member)) (notBeyondItself object)
  · intro listing reached
    rw [reachedOne listing reached]
    refine ⟨nofun, ?_⟩
    rintro ⟨object, member, before⟩
    exact absurd (before object (mem_ordered.mpr member)) (notBeyondItself object)

/-- The page before the second one is the first one, and it has no `nextCursor`. -/
theorem reached_without_next (stored : StoredObjects rows) (someLimit : 0 < query.limit)
    (several : query.limit < (query.matching texts rows).length) :
    ∃ listing, Reached (fun cursor => listFolderObjects texts (query.continuing cursor) rows)
        listing ∧ listing.nextCursor = none ∧
      listing.result = (query.ordered texts rows).take query.limit := by
  have more : query.limit < (query.ordered texts rows).length := by
    rw [length_ordered]
    exact several
  have first := @listFolderObjects_first texts query rows stored someLimit
  rcases nextCursor_listingAt stored someLimit (List.nil_append _).symm more false
    (query.matching texts rows).length with ⟨init, last, next, page, made, continued⟩
  have place : query.ordered texts rows =
      init ++ last :: (query.ordered texts rows).drop query.limit := by
    rw [List.append_cons, ← page, List.take_append_drop]
  have second := listFolderObjects_next stored someLimit place made
  rcases beyond : (query.ordered texts rows).drop query.limit with _ | ⟨mark, back⟩
  · rw [List.drop_eq_nil_iff] at beyond
    omega
  have place' : query.ordered texts rows =
      (query.ordered texts rows).take query.limit ++ mark :: back := by
    rw [← beyond, List.take_append_drop]
  have member : mark ∈ query.ordered texts rows := by
    rw [place']
    exact List.mem_append_right _ List.mem_cons_self
  rcases cursorFor_of_dates (stored.hasDates member) .previous (orderSorts query.sort) with
    ⟨previous, madePrevious, same⟩
  have third := listFolderObjects_previous stored someLimit place' madePrevious
  have length : ((query.ordered texts rows).take query.limit).length = query.limit := by
    rw [List.length_take, Nat.min_eq_left (Nat.le_of_lt more)]
  refine ⟨_, Reached.previous (Reached.next (Reached.first first) continued second) ?_ third,
    ?_, ?_⟩
  · rw [beyond, listingAt, if_pos rfl, List.head?_take, if_neg (Nat.ne_of_gt someLimit),
      List.head?_cons, Option.bind_some, same]
  · rw [listingAt, length, if_neg (by simp)]
  · simp [listingAt, List.take_take]

theorem pagesAreExact_rows_iff (stored : StoredObjects rows) (someLimit : 0 < query.limit) :
    PagesAreExact (requestedOrder texts query.sort) (query.matching texts rows)
        (fun cursor => listFolderObjects texts (query.continuing cursor) rows) ↔
      (query.matching texts rows).length ≤ query.limit := by
  refine ⟨?_, pagesAreExact_of_onePage stored someLimit⟩
  intro agreed
  by_contra notOne
  have several := Nat.lt_of_not_le notOne
  rcases reached_without_next stored someLimit several with ⟨listing, reached, ended, shown⟩
  have behind := (agreed.nextCursors listing reached).mpr
  rw [ended, shown] at behind
  rcases beyond : (query.ordered texts rows).drop query.limit with _ | ⟨mark, back⟩
  · rw [List.drop_eq_nil_iff, length_ordered] at beyond
    omega
  have place : query.ordered texts rows =
      (query.ordered texts rows).take query.limit ++ mark :: back := by
    rw [← beyond, List.take_append_drop]
  have ordered := @StoredObjects.ordered texts query rows stored
  rw [place] at ordered
  have across := (List.pairwise_append.mp ordered).2.2
  grind [mem_ordered, List.mem_cons_self]

end Pages

/-! ### The call of a user -/

theorem isOk_eq_true {outcome : Except ApiError FolderAccess} (isOk : outcome.isOk = true) :
    ∃ access, outcome = .ok access := by
  cases outcome with
  | error error => cases isOk
  | ok access => exact ⟨access, rfl⟩

theorem listFolderObjectsAsUser_eq {env : Env} {texts : DatabaseText} {actorId : String}
    {query : ListingQuery} {db : Database}
    (seen : (getFolderAsUser env actorId query.folderId db).isOk = true) (cursor : Option String) :
    listFolderObjectsAsUser env texts actorId (query.continuing cursor) db =
      listFolderObjects texts (query.continuing cursor) db.folderObjects.rows := by
  rcases isOk_eq_true seen with ⟨access, found⟩
  have sameId := getFolderAsUser_id found
  show ((getFolderAsUser env actorId query.folderId db).bind fun access => _) = _
  rw [found]
  show listFolderObjects texts { query.continuing cursor with folderId := access.folder.id } _ = _
  rw [sameId]
  rfl

/-- For a user who sees the folder, the pages are exact if and only if one page shows every
matching object. -/
theorem pagesAreExact_iff (env : Env) (texts : DatabaseText) (actorId : String)
    (query : ListingQuery) (db : Database)
    (seen : (getFolderAsUser env actorId query.folderId db).isOk = true)
    (dates : ∀ object ∈ db.folderObjects.rows, object.HasDates) (someLimit : 0 < query.limit) :
    PagesAreExact (requestedOrder texts query.sort) (query.matching texts db.folderObjects.rows)
        (fun cursor => listFolderObjectsAsUser env texts actorId (query.continuing cursor) db) ↔
      (query.matching texts db.folderObjects.rows).length ≤ query.limit := by
  have stored : StoredObjects db.folderObjects.rows := ⟨db.folderObjects.distinct, dates⟩
  have sameCalls := funext fun cursor =>
    @listFolderObjectsAsUser_eq env texts actorId query db seen cursor
  rw [sameCalls]
  exact pagesAreExact_rows_iff stored someLimit

/-! ### Two objects -/

/-- A database that compares texts by their characters, for listings without a search. -/
def byCharacters : DatabaseText where
  compare := Ord.compare
  transCmp := inferInstance
  ilike := fun _ _ => false

def otherObject : FolderObject := { mineObject with id := "other", objectKey := "b.jpg" }

theorem apart_twoObjects : [mineObject, otherObject].Pairwise fun earlier later =>
    FolderObject.clash earlier later = false := by
  decide

/-- The folder below `photos`, with two objects of one size. -/
def twoObjects : Database :=
  { photosWorld.db with folderObjects := ⟨[mineObject, otherObject], apart_twoObjects⟩ }

def bySize (limit : Nat) : ListingQuery where
  folderId := "mine"
  limit := limit
  sort := [⟨⟨.sizeBytes, .desc⟩, nofun⟩]

theorem twoObjects_seen : (getFolderAsUser Env.sample "alice" "mine" twoObjects).isOk = true := by
  decide +kernel

theorem twoObjects_dates : ∀ object ∈ twoObjects.folderObjects.rows, object.HasDates := by
  have both : ∀ object ∈ [mineObject, otherObject], object.HasDates := by decide
  exact both

theorem pagesAreExact_iff_bySize :
    PagesAreExact (requestedOrder byCharacters (bySize 2).sort)
        ((bySize 2).matching byCharacters twoObjects.folderObjects.rows)
        (fun cursor => listFolderObjectsAsUser Env.sample byCharacters "alice"
          ((bySize 2).continuing cursor) twoObjects) ↔
      ((bySize 2).matching byCharacters twoObjects.folderObjects.rows).length ≤ 2 :=
  pagesAreExact_iff Env.sample byCharacters "alice" (bySize 2) twoObjects twoObjects_seen
    twoObjects_dates (by decide)

/-- With one object to a page, the way back from the second page ends without a `nextCursor`. -/
theorem not_pagesAreExact : ¬ ∀ (env : Env) (texts : DatabaseText) (actorId : String)
    (query : ListingQuery) (db : Database),
    (getFolderAsUser env actorId query.folderId db).isOk = true →
    (∀ object ∈ db.folderObjects.rows, object.HasDates) → 0 < query.limit →
      PagesAreExact (requestedOrder texts query.sort) (query.matching texts db.folderObjects.rows)
        (fun cursor => listFolderObjectsAsUser env texts actorId (query.continuing cursor) db) := by
  intro always
  have agreed := always Env.sample byCharacters "alice" (bySize 1) twoObjects twoObjects_seen
    twoObjects_dates (by decide)
  have sameCalls := funext fun cursor =>
    @listFolderObjectsAsUser_eq Env.sample byCharacters "alice" (bySize 1) twoObjects
      twoObjects_seen cursor
  have stored : StoredObjects twoObjects.folderObjects.rows :=
    ⟨twoObjects.folderObjects.distinct, twoObjects_dates⟩
  rw [sameCalls, pagesAreExact_rows_iff stored (by decide)] at agreed
  revert agreed
  decide +kernel

end Lombok.Folders
