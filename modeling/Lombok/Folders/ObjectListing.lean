import Lombok.Core.DateText
import Lombok.Core.JsValue
import Lombok.Folders.Objects
import Lombok.Library.Base64
import Lombok.Library.Keyset
import Mathlib

/-!
Contract: one page of the objects of a folder.

Owns `listFolderObjectsAsUser`: what a listing filters by, the order it asks
the database for, the condition a cursor turns into, the row fetched beyond the
page, and the two cursors of the answer. How the database compares and matches
texts is a parameter. A cursor is the text the client sends back.

Does not own: what a client reads that follows the cursors (see
`ListingPages`). A cursor whose keys are not of the kinds a listing writes is
refused with the query; the conversions the driver would try first are left out.
-/

namespace Lombok.Folders

open Lombok.Core Lombok.Library

/-! ### Columns -/

inductive ListColumn where
  | sizeBytes
  | filename
  | objectKey
  | createdAt
  | updatedAt
  | id
deriving DecidableEq, Inhabited

namespace ListColumn

def name : ListColumn → String
  | sizeBytes => "sizeBytes"
  | filename => "filename"
  | objectKey => "objectKey"
  | createdAt => "createdAt"
  | updatedAt => "updatedAt"
  | id => "id"

abbrev Value : ListColumn → Type
  | sizeBytes => Int
  | filename => String
  | objectKey => String
  | createdAt => Date
  | updatedAt => Date
  | id => String

end ListColumn

/-- The value of a column in a row. -/
def FolderObject.cell (object : FolderObject) : (column : ListColumn) → column.Value
  | .sizeBytes => (object.sizeBytes : Int)
  | .filename => object.filename
  | .objectKey => object.objectKey
  | .createdAt => object.createdAt
  | .updatedAt => object.updatedAt
  | .id => object.id

/-- What the database does with texts: the collation of the text columns, and `ilike`. -/
structure DatabaseText where
  compare : String → String → Ordering
  transCmp : Std.TransCmp compare
  ilike : String → String → Bool

/-- The order of the values of a column. Ids are compared byte by byte. -/
def DatabaseText.compareValues (texts : DatabaseText) :
    (column : ListColumn) → column.Value → column.Value → Ordering
  | .sizeBytes, left, right => Ord.compare (left : Int) right
  | .filename, left, right => texts.compare left right
  | .objectKey, left, right => texts.compare left right
  | .createdAt, left, right => Ord.compare (left : Int) right
  | .updatedAt, left, right => Ord.compare (left : Int) right
  | .id, left, right => Ord.compare (left : String) right

/-! ### Sorts -/

inductive SortDirection where
  | asc
  | desc
deriving DecidableEq, Inhabited

def SortDirection.flipped : SortDirection → SortDirection
  | asc => desc
  | desc => asc

structure OrderSort where
  column : ListColumn
  direction : SortDirection
deriving DecidableEq, Inhabited

/-- The sorts a request may name: every column but the id. -/
abbrev FolderObjectSort := { sort : OrderSort // sort.column ≠ .id }

def FolderObjectSort.createdAtAsc : FolderObjectSort :=
  ⟨⟨.createdAt, .asc⟩, nofun⟩

namespace OrderSort

def flipped (sort : OrderSort) : OrderSort := { sort with direction := sort.direction.flipped }

/-- `asc(column)` or `desc(column)`, as `parseSort` makes of a sort. -/
def compare (texts : DatabaseText) (sort : OrderSort) (left right : FolderObject) : Ordering :=
  match sort.direction with
  | .asc => texts.compareValues sort.column (left.cell sort.column) (right.cell sort.column)
  | .desc => (texts.compareValues sort.column (left.cell sort.column) (right.cell sort.column)).swap

end OrderSort

/-- `gt(column, value)`. -/
def Sql.gt (texts : DatabaseText) (column : ListColumn) (value : column.Value)
    (row : FolderObject) : Bool :=
  (texts.compareValues column (row.cell column) value).isGT

/-- `lt(column, value)`. -/
def Sql.lt (texts : DatabaseText) (column : ListColumn) (value : column.Value)
    (row : FolderObject) : Bool :=
  (texts.compareValues column (row.cell column) value).isLT

/-- `eq(column, value)`. -/
def Sql.eq (texts : DatabaseText) (column : ListColumn) (value : column.Value)
    (row : FolderObject) : Bool :=
  (texts.compareValues column (row.cell column) value).isEq

def orderSorts (sort : List FolderObjectSort) : List OrderSort :=
  let chosen := sort.map Subtype.val
  if chosen.any (fun sort => sort.column == .id) then chosen else chosen ++ [⟨.id, .asc⟩]

/-- `orderSorts.filter((s) => !String(s).startsWith('id-'))`. -/
def sortCols (orderSorts : List OrderSort) : List OrderSort :=
  orderSorts.filter fun sort => sort.column != .id

/-- The `ORDER BY` of a list of sorts. -/
def orderBy (texts : DatabaseText) (sorts : List OrderSort) :
    FolderObject → FolderObject → Ordering :=
  Keyset.compareBy (sorts.map (OrderSort.compare texts))

/-! ### Requests and answers -/

structure ListingQuery where
  folderId : String
  search : Option String := none
  cursor : Option String := none
  offset : Nat := 0
  limit : Nat := 25
  sort : List FolderObjectSort := [FolderObjectSort.createdAtAsc]
  includeImage : Bool := false
  includeVideo : Bool := false
  includeAudio : Bool := false
  includeDocument : Bool := false
  includeOther : Bool := false

structure Listing where
  result : List FolderObject
  totalCount : Nat
  nextCursor : Option String
  previousCursor : Option String
deriving Inhabited

namespace ListingQuery

def mediaTypeFilters (query : ListingQuery) : List MediaType :=
  (if query.includeImage then [.image] else []) ++
  (if query.includeVideo then [.video] else []) ++
  (if query.includeAudio then [.audio] else []) ++
  (if query.includeDocument then [.document] else []) ++
  (if query.includeOther then [.other] else [])

/-- The `where` of a listing, without a cursor. -/
def matchesObject (texts : DatabaseText) (query : ListingQuery) (object : FolderObject) : Bool :=
  object.folderId == query.folderId &&
    (match query.search with
      | none => true
      | some search =>
          search == "" || texts.ilike object.objectKey ("%" ++ search ++ "%")) &&
    (query.mediaTypeFilters.isEmpty || query.mediaTypeFilters.contains object.mediaType)

/-- A cursor that is the empty text is none. -/
def givenCursor (query : ListingQuery) : Option String := query.cursor.filter (· != "")

end ListingQuery

/-! ### Cursors -/

def queryFailed : ApiError := .error "Failed query"

def cursorValue (object : FolderObject) : ListColumn → Except ApiError Json
  | .sizeBytes => .ok (.ofNat object.sizeBytes)
  | .filename => .ok (.str object.filename)
  | .objectKey => .ok (.str object.objectKey)
  | .createdAt => do .ok (.str (← object.createdAt.toISOString))
  | .updatedAt => do .ok (.str (← object.updatedAt.toISOString))
  | .id => .ok (.str object.id)

def cursorKeys (object : FolderObject) : List OrderSort → Fields → Except ApiError Fields
  | [], keys => .ok keys
  | sort :: rest, keys =>
      if sort.column = .id then
        cursorKeys object rest keys
      else do
        let value ← cursorValue object sort.column
        cursorKeys object rest (keys.set sort.column.name value)

inductive CursorDirection where
  | next
  | previous
deriving DecidableEq

def CursorDirection.name : CursorDirection → String
  | next => "next"
  | previous => "previous"

/-- `Buffer.from(JSON.stringify({ lastId, keys, direction })).toString('base64')`. -/
def cursorText (direction : CursorDirection) (lastId : String) (keys : Fields) : String :=
  String.ofList (Base64.encode (toUtf8 (Json.stringify (.obj
    [("lastId", .str lastId), ("keys", .obj keys), ("direction", .str direction.name)]))))

def cursorOf (direction : CursorDirection) (orderSorts : List OrderSort) (object : FolderObject) :
    Except ApiError String := do
  let keys ← cursorKeys object orderSorts []
  .ok (cursorText direction object.id keys)

def wholeNumber (decimal : Decimal) : Option Int :=
  if !decimal.isIntegral then none
  else if 0 ≤ decimal.exponent then some (decimal.mantissa * 10 ^ decimal.exponent.toNat)
  else some (decimal.mantissa / 10 ^ (-decimal.exponent).toNat)

def typedValue : (column : ListColumn) → Json → Option column.Value
  | .sizeBytes, .num literal => wholeNumber (decimalOf literal)
  | .filename, .str text => some text
  | .objectKey, .str text => some text
  | .createdAt, .str text => Date.parse text
  | .updatedAt, .str text => Date.parse text
  | .id, .str text => some text
  | _, _ => none

def cursorComparison (texts : DatabaseText) (isNextDirection : Bool) (sort : OrderSort)
    (value : sort.column.Value) (row : FolderObject) : Bool :=
  if (sort.direction = .asc ∧ isNextDirection) ∨ (sort.direction = .desc ∧ !isNextDirection) then
    Sql.gt texts sort.column value row
  else
    Sql.lt texts sort.column value row

def idComparison (texts : DatabaseText) (isNextDirection : Bool) (lastId : String)
    (row : FolderObject) : Bool :=
  if isNextDirection then Sql.gt texts .id lastId row else Sql.lt texts .id lastId row

/-- The condition of a cursor, column by column from the last one: a column without a key is
passed over, and the first condition made compares the id. -/
def keysetCondition (texts : DatabaseText) (isNextDirection : Bool) (keys : Option Json)
    (lastId : String) : List OrderSort → Except ApiError (Option (FolderObject → Bool))
  | [] => .ok none
  | sort :: rest => do
      let condition ← keysetCondition texts isNextDirection keys lastId rest
      match keys.bind fun keys => keys.get? sort.column.name with
      | none => .ok condition
      | some rawValue =>
          match typedValue sort.column rawValue with
          | none => .error queryFailed
          | some value =>
              let inner := condition.getD (idComparison texts isNextDirection lastId)
              .ok (some fun row => cursorComparison texts isNextDirection sort value row ||
                (Sql.eq texts sort.column value row && inner row))

/-- Where a listing starts: the way it goes, and the condition on its rows. -/
structure KeysetStart where
  isNextDirection : Bool
  keysetWhere : Option (FolderObject → Bool)

def KeysetStart.firstPage : KeysetStart := ⟨true, none⟩

/-- What a cursor asks for. One that is not JSON, or is `null`, is ignored. -/
def keysetStart (texts : DatabaseText) (orderSorts : List OrderSort) (cursor : String) :
    Except ApiError KeysetStart :=
  match Json.parse (decodeUtf8 (Base64.decode cursor.toList)) with
  | none => .ok .firstPage
  | some .null => .ok .firstPage
  | some decoded => do
      let isNextDirection :=
        match decoded.get? "direction" with
        | some (.str direction) => direction != "previous"
        | _ => true
      match decoded.get? "lastId" with
      | some (.str lastId) =>
          let condition ← keysetCondition texts isNextDirection (decoded.get? "keys") lastId
            (sortCols orderSorts)
          .ok
            { isNextDirection := isNextDirection
              keysetWhere := some (condition.getD (idComparison texts isNextDirection lastId)) }
      | _ => .error queryFailed

/-! ### One page -/

def previousComparison (texts : DatabaseText) (first : FolderObject) (sort : OrderSort)
    (row : FolderObject) : Bool :=
  match sort.direction with
  | .asc => Sql.lt texts sort.column (first.cell sort.column) row
  | .desc => Sql.gt texts sort.column (first.cell sort.column) row

/-- `eq` with the first row on a column, where the id is no column. -/
def matchesFirst (texts : DatabaseText) (first : FolderObject) (row : FolderObject)
    (sort : OrderSort) : Bool :=
  sort.column == .id || Sql.eq texts sort.column (first.cell sort.column) row

def sortsBeforeFirst (texts : DatabaseText) (orderSorts : List OrderSort) (first : FolderObject)
    (row : FolderObject) : Bool :=
  ((sortCols orderSorts).mapIdx fun place sort =>
      previousComparison texts first sort row &&
        (orderSorts.take place).all (matchesFirst texts first row)).any id ||
    (sortCols orderSorts).all (matchesFirst texts first row) && Sql.lt texts .id first.id row

/-- The cursor behind a page, if more rows were fetched than it shows. -/
def nextCursorOf (query : ListingQuery) (folderObjects page : List FolderObject) :
    Except ApiError (Option String) :=
  if query.limit < folderObjects.length then
    match page.getLast? with
    | none => .error (.error "Cannot read properties of undefined")
    | some last => do .ok (some (← cursorOf .next (orderSorts query.sort) last))
  else
    .ok none

def previousCursorOf (texts : DatabaseText) (query : ListingQuery)
    (matching page : List FolderObject) : Except ApiError (Option String) :=
  match page.head? with
  | none => .ok none
  | some first => do
      let cursor ← cursorOf .previous (orderSorts query.sort) first
      let previousCount := matching.countP (sortsBeforeFirst texts (orderSorts query.sort) first)
      .ok (if 0 < previousCount then some cursor else none)

/-- The answer for the rows that were fetched. -/
def listingOf (texts : DatabaseText) (query : ListingQuery) (matching : List FolderObject)
    (isNextDirection : Bool) (folderObjects : List FolderObject) : Except ApiError Listing := do
  let normalized := if isNextDirection then folderObjects else folderObjects.reverse
  let page := normalized.take query.limit
  let nextCursor ← nextCursorOf query folderObjects page
  let previousCursor ← previousCursorOf texts query matching page
  .ok
    { result := page
      totalCount := matching.length
      nextCursor := nextCursor
      previousCursor := previousCursor }

def listFolderObjects (texts : DatabaseText) (query : ListingQuery) (rows : List FolderObject) :
    Except ApiError Listing := do
  let matching := rows.filter (query.matchesObject texts)
  let sorts := orderSorts query.sort
  let start ←
    match query.givenCursor with
    | none => .ok .firstPage
    | some cursor => keysetStart texts sorts cursor
  let orderSortsForQuery := if start.isNextDirection then sorts else sorts.map OrderSort.flipped
  let found := matching.filter fun row => (start.keysetWhere.map fun holds => holds row).getD true
  let ordered := Keyset.sort (orderBy texts orderSortsForQuery) found
  let offset := if query.givenCursor.isSome then 0 else query.offset
  listingOf texts query matching start.isNextDirection
    ((ordered.drop offset).take (query.limit + 1))

def listFolderObjectsAsUser (env : Env) (texts : DatabaseText) (actorId : String)
    (query : ListingQuery) (db : Database) : Except ApiError Listing := do
  let access ← getFolderAsUser env actorId query.folderId db
  listFolderObjects texts { query with folderId := access.folder.id } db.folderObjects.rows

end Lombok.Folders
