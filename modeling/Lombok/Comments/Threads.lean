import Lombok.Folders.Objects

/-!
Contract: the comments on folder objects, their threads, and which comments they quote.

Owns `createCommentAsUser` and `deleteCommentAsUser`, one read or write at a time, so that other
requests run between any two of them, and the constraints of the comments table: what they
refuse, and what goes with a folder or an object. Identifiers are in the text that the database
returns.

Does not own: mentions and reactions, or what a thread shows.

Establishes that every comment fits its thread, and that no quote keeps an object or a folder from
being deleted.
-/

namespace Lombok.Comments

open Lombok.Core Lombok.Library Lombok.Library.Action Lombok.Apps Lombok.Folders

inductive CommentAnchor where
  | imagePoint (x y : Rat)
  | videoPoint (t : Rat) (x y : Option Rat)
  | audioPoint (t : Rat)
deriving DecidableEq

/-- A row of `commentsTable`. -/
structure Comment where
  id : String
  folderId : String
  folderObjectId : String
  rootId : Option String
  quoteId : Option String
  authorId : String
  content : String
  anchor : Option CommentAnchor
  createdAt : Date
  updatedAt : Date
  deletedAt : Option Date
deriving DecidableEq

def Comment.clash (left right : Comment) : Bool := left.id == right.id

abbrev CommentsTable := Table Comment Comment.clash

/-! ### Validation -/

def outsideUnit (value : Rat) : Bool := decide (value < 0) || decide (1 < value)

def validateRootCommentAnchor : CommentAnchor → Except ApiError Unit
  | .imagePoint x y =>
      if outsideUnit x || outsideUnit y then
        .error (.badRequest "Image point anchors must have x and y values between 0.0 and 1.0")
      else .ok ()
  | .videoPoint t x y =>
      if t < 0 then .error (.badRequest "Video point anchors must have a non-negative t value")
      else if x.any outsideUnit then
        .error (.badRequest "Video point anchor x must be between 0.0 and 1.0 if provided")
      else if y.any outsideUnit then
        .error (.badRequest "Video point anchor y must be between 0.0 and 1.0 if provided")
      else .ok ()
  | .audioPoint t =>
      if t < 0 then .error (.badRequest "Audio point anchors must have a non-negative t value")
      else .ok ()

def validateQuoteInSameThread (quotedCommentRootId threadRootId : Option String) :
    Except ApiError Unit :=
  if quotedCommentRootId ≠ threadRootId then
    .error (.badRequest "Quote must reference a comment in the same thread")
  else .ok ()

/-! ### Statements -/

def findComment (id : String) (comments : CommentsTable) : Option Comment :=
  comments.find? fun comment => comment.id == id

def findObjectById (id : String) (db : Database) : Option FolderObject :=
  db.folderObjects.find? fun object => object.id == id

def hasId (id : String) (rows : List Comment) : Bool := rows.any fun row => row.id == id

namespace Comment

variable (db : Database) (rows : List Comment) (comment : Comment)

/-- The foreign keys that delete a comment with the row they reference. -/
def isHeld : Bool :=
  (findFolder comment.folderId db).isSome && (findObjectById comment.folderObjectId db).isSome &&
    comment.rootId.all fun rootId => hasId rootId rows

/-- The foreign keys that keep the row they reference from being deleted. -/
def restricts : Bool :=
  (findUser comment.authorId db).isSome && comment.quoteId.all fun quoteId => hasId quoteId rows

/-- The checks `content_not_empty`, `anchor_only_on_root` and `no_self_quote`. -/
def passesChecks : Bool :=
  decide (comment.content ≠ "") && (comment.rootId.isNone || comment.anchor.isNone) &&
    comment.quoteId.all (· ≠ comment.id)

end Comment

/-- `none` where a constraint refuses the row. -/
def insertComment (db : Database) (comments : CommentsTable) (row : Comment) :
    Option CommentsTable :=
  if row.passesChecks && row.isHeld db comments.rows && row.restricts db comments.rows then
    comments.insert row
  else none

/-- Delete what references a row that is gone, until nothing does. -/
def cascade (db : Database) : Nat → CommentsTable → CommentsTable
  | 0, comments => comments
  | rounds + 1, comments =>
      cascade db rounds (comments.delete fun row => !row.isHeld db comments.rows)

/-- The comments after the other tables became `db`, `none` where a constraint refuses that. -/
def deleteOrphans (db : Database) (comments : CommentsTable) : Option CommentsTable :=
  let kept := cascade db comments.rows.length comments
  if kept.rows.all fun row => row.restricts db kept.rows then some kept else none

/-- The other tables: an object stays in the folder it was created in, and goes with it. -/
structure Tables (folderOf : String → String) where
  db : Database
  placed : ∀ object ∈ db.folderObjects.rows, folderOf object.id = object.folderId
  owned : ∀ object ∈ db.folderObjects.rows, (findFolder object.folderId db).isSome = true

def Tables.empty (folderOf : String → String) : Tables folderOf where
  db := default
  placed := fun _ absent => absurd absent List.not_mem_nil
  owned := fun _ absent => absurd absent List.not_mem_nil

/-! ### Requests -/

/-- The arguments of `createCommentAsUser`. The identifiers are checked to be UUIDs before, so an
optional one that is given is not empty. -/
structure CreateRequest where
  actorId : String
  folderId : String
  folderObjectId : String
  content : String
  anchor : Option CommentAnchor
  quoteId : Option String
  rootCommentId : Option String

/-- Where a request stands, with the rows it has read. -/
inductive CreateStage where
  | received
  | rootRead (rootComment : Comment)
  | threadQuote (rootComment : Comment) (quoteId : String)
  | folderSeen
  | rootQuote (quoteId : String)
  | insert (folderId folderObjectId : String)

def quotedCommentNotFound (quoteId : String) : ApiError :=
  .notFound ("Quoted comment with id " ++ quoteId ++ " not found")

/-- The read that a request does next. -/
def proceed (env : Env) (request : CreateRequest) (db : Database) (comments : CommentsTable) :
    CreateStage → Except ApiError CreateStage
  | .received =>
      match request.rootCommentId with
      | some rootCommentId =>
          match findComment rootCommentId comments with
          | none => .error (.notFound ("Comment with id " ++ rootCommentId ++ " not found"))
          | some rootComment =>
              if rootComment.rootId.isSome then
                .error (.badRequest ("Comment " ++ rootCommentId ++ " is not a root comment"))
              else if rootComment.anchor.isNone then
                .error (.badRequest
                  "Cannot create comment in thread - root comment must have an anchor")
              else .ok (.rootRead rootComment)
      | none => (getFolderAsUser env request.actorId request.folderId db).map fun _ => .folderSeen
  | .rootRead rootComment =>
      (getFolderAsUser env request.actorId rootComment.folderId db).map fun _ =>
        match request.quoteId with
        | some quoteId => .threadQuote rootComment quoteId
        | none => .insert rootComment.folderId rootComment.folderObjectId
  | .threadQuote rootComment quoteId =>
      match findComment quoteId comments with
      | none => .error (quotedCommentNotFound quoteId)
      | some quotedComment =>
          if quotedComment.rootId.isNone then
            if some quoteId ≠ request.rootCommentId then
              .error (.badRequest "Quote must reference a comment in the same thread")
            else .ok (.insert rootComment.folderId rootComment.folderObjectId)
          else
            (validateQuoteInSameThread quotedComment.rootId request.rootCommentId).map fun _ =>
              .insert rootComment.folderId rootComment.folderObjectId
  | .folderSeen =>
      match findObjectById request.folderObjectId db with
      | none => .error (folderObjectNotFoundException request.folderId "")
      | some folderObject =>
          if folderObject.folderId ≠ request.folderId then
            .error (.notFound ("Folder object " ++ request.folderObjectId ++
              " does not belong to folder " ++ request.folderId))
          else
            (match request.anchor with
              | some anchor => validateRootCommentAnchor anchor
              | none => .ok ()).map fun _ =>
              match request.quoteId with
              | some quoteId => .rootQuote quoteId
              | none => .insert request.folderId request.folderObjectId
  | .rootQuote quoteId =>
      match findComment quoteId comments with
      | none => .error (quotedCommentNotFound quoteId)
      | some quotedComment =>
          if quotedComment.folderObjectId ≠ request.folderObjectId then
            .error (.badRequest "Quote must reference a comment on the same folder object")
          else if quotedComment.rootId.isSome then
            .error (.badRequest
              "Quote must reference a root comment (not a comment in an anchored thread)")
          else .ok (.insert request.folderId request.folderObjectId)
  | .insert folderId folderObjectId => .ok (.insert folderId folderObjectId)

/-- The row that a request inserts. -/
def CreateRequest.row (request : CreateRequest) (folderId folderObjectId id : String) (now : Date) :
    Comment where
  id := id
  folderId := folderId
  folderObjectId := folderObjectId
  rootId := request.rootCommentId
  quoteId := request.quoteId
  authorId := request.actorId
  content := request.content
  anchor := if request.rootCommentId.isSome then none else request.anchor
  createdAt := now
  updatedAt := now
  deletedAt := none

/-- The arguments of `deleteCommentAsUser`. -/
structure DeleteRequest where
  actorId : String
  folderId : String
  commentId : String

/-- `deleteCommentAsUser` after the folder access check: the comment must be there and the
actor's. -/
def DeleteRequest.check (request : DeleteRequest) (comments : CommentsTable) :
    Except ApiError Unit :=
  match comments.find? fun comment =>
      comment.id == request.commentId && comment.folderId == request.folderId with
  | none => .error (.notFound "Comment not found")
  | some comment =>
      if comment.authorId ≠ request.actorId then
        .error (.notFound "Comment not found or unauthorized")
      else .ok ()

theorem deletedAt_keeps (now : Date) :
    Keeps Comment.clash fun comment => { comment with deletedAt := some now } :=
  fun _ _ => ⟨rfl, rfl⟩

def tombstone (commentId : String) (now : Date) (comments : CommentsTable) : CommentsTable :=
  comments.update (fun comment => comment.id == commentId) _ (deletedAt_keeps now)

/-! ### Runs -/

/-- `defaultRandom()`: no identifier is drawn twice. -/
structure IdSource where
  draw : Nat → String
  distinct : Function.Injective draw

structure CommentsState (folderOf : String → String) where
  tables : Tables folderOf
  comments : CommentsTable
  creating : List (CreateRequest × CreateStage)
  /-- The requests that wait for their comment, and the comments that wait for their date. -/
  deleting : List (DeleteRequest ⊕ String)
  drawn : Nat
  /-- Every row there ever was, as it was inserted. -/
  inserted : List Comment

def CommentsState.start (folderOf : String → String) : CommentsState folderOf where
  tables := .empty folderOf
  comments := .empty
  creating := []
  deleting := []
  drawn := 0
  inserted := []

inductive CommentsInput (folderOf : String → String) where
  | createCommentAsUser (request : CreateRequest)
  | continueCreate (index : Nat) (now : Date)
  | deleteCommentAsUser (request : DeleteRequest)
  | continueDelete (index : Nat) (now : Date)
  /-- Another service writes its tables. -/
  | otherTables (tables : Tables folderOf)

variable {folderOf : String → String}

def insertRow (ids : IdSource) (request : CreateRequest) (folderId folderObjectId : String)
    (now : Date) (state : CommentsState folderOf) : CommentsState folderOf :=
  let row := request.row folderId folderObjectId (ids.draw state.drawn) now
  match insertComment state.tables.db state.comments row with
  | some comments =>
      { state with
        comments := comments
        drawn := state.drawn + 1
        inserted := state.inserted ++ [row] }
  | none => { state with drawn := state.drawn + 1 }

def commentsStep (env : Env) (ids : IdSource) (state : CommentsState folderOf) :
    CommentsInput folderOf → CommentsState folderOf
  | .createCommentAsUser request =>
      { state with creating := state.creating ++ [(request, .received)] }
  | .continueCreate index now =>
      match state.creating[index]? with
      | some (request, .insert folderId folderObjectId) =>
          insertRow ids request folderId folderObjectId now
            { state with creating := state.creating.eraseIdx index }
      | some (request, stage) =>
          match proceed env request state.tables.db state.comments stage with
          | .ok next => { state with creating := state.creating.set index (request, next) }
          | .error _ => { state with creating := state.creating.eraseIdx index }
      | none => state
  | .deleteCommentAsUser request =>
      match getFolderAsUser env request.actorId request.folderId state.tables.db with
      | .ok _ => { state with deleting := state.deleting ++ [.inl request] }
      | .error _ => state
  | .continueDelete index now =>
      match state.deleting[index]? with
      | some (.inl request) =>
          match request.check state.comments with
          | .ok () => { state with deleting := state.deleting.set index (.inr request.commentId) }
          | .error _ => { state with deleting := state.deleting.eraseIdx index }
      | some (.inr commentId) =>
          { state with
            deleting := state.deleting.eraseIdx index
            comments := tombstone commentId now state.comments }
      | none => state
  | .otherTables tables =>
      match deleteOrphans tables.db state.comments with
      | some comments => { state with tables := tables, comments := comments }
      | none => state

/-! ### What fits a thread -/

/-- The comment is in the folder of its object, where its thread and what it quotes are too, the
thread hangs on an anchored root, and the quote stays in the thread. -/
structure Fits (folderOf : String → String) (rows : List Comment) (comment : Comment) : Prop where
  placed : folderOf comment.folderObjectId = comment.folderId
  root : ∀ rootId, comment.rootId = some rootId → comment.anchor = none ∧
    ∃ rootComment ∈ rows, rootComment.id = rootId ∧ rootComment.rootId = none ∧
      rootComment.anchor.isSome = true ∧ rootComment.folderObjectId = comment.folderObjectId
  quote : ∀ quoteId, comment.quoteId = some quoteId →
    ∃ quotedComment ∈ rows, quotedComment.id = quoteId ∧
      quotedComment.folderObjectId = comment.folderObjectId ∧
      (quotedComment.rootId = comment.rootId ∨ comment.rootId = some quoteId)
  anchor : ∀ anchor, comment.anchor = some anchor → validateRootCommentAnchor anchor = .ok ()

def Threaded (folderOf : String → String) (rows : List Comment) : Prop :=
  ∀ comment ∈ rows, Fits folderOf rows comment

theorem Fits.mono {rows more : List Comment} {comment : Comment}
    (fits : Fits folderOf rows comment) (subset : rows ⊆ more) : Fits folderOf more comment where
  placed := fits.placed
  root rootId isRoot := by
    grind [fits.root]
  quote quoteId quotes := by
    grind [fits.quote]
  anchor := fits.anchor

/-- The row as it was inserted: only its deletion date ever changes. -/
def Comment.asInserted (comment : Comment) : Comment := { comment with deletedAt := none }

def UniqueIds (rows : List Comment) : Prop :=
  ∀ first ∈ rows, ∀ second ∈ rows, first.id = second.id → first = second

/-- A request that answers in a thread has read the root of the thread. -/
structure HasRoot (inserted : List Comment) (request : CreateRequest) (rootComment : Comment) :
    Prop where
  asked : request.rootCommentId = some rootComment.id
  read : rootComment.asInserted ∈ inserted
  isRoot : rootComment.rootId = none
  anchored : rootComment.anchor.isSome = true

/-- What a request has established where it stands. -/
def Justified (folderOf : String → String) (inserted : List Comment) (request : CreateRequest) :
    CreateStage → Prop
  | .received => True
  | .rootRead rootComment => HasRoot inserted request rootComment
  | .threadQuote rootComment quoteId =>
      HasRoot inserted request rootComment ∧ request.quoteId = some quoteId
  | .folderSeen => request.rootCommentId = none
  | .rootQuote quoteId =>
      request.rootCommentId = none ∧ folderOf request.folderObjectId = request.folderId ∧
          request.quoteId = some quoteId ∧
        ∀ anchor, request.anchor = some anchor → validateRootCommentAnchor anchor = .ok ()
  | .insert folderId folderObjectId =>
      ∀ id now, Fits folderOf inserted (request.row folderId folderObjectId id now)

theorem Justified.mono {inserted more : List Comment} {request : CreateRequest}
    {stage : CreateStage} (justified : Justified folderOf inserted request stage)
    (subset : inserted ⊆ more) : Justified folderOf more request stage := by
  cases stage with
  | received => trivial
  | rootRead rootComment => exact { justified with read := subset justified.read }
  | threadQuote rootComment quoteId =>
      exact ⟨{ justified.1 with read := subset justified.1.read }, justified.2⟩
  | folderSeen => exact justified
  | rootQuote quoteId => exact justified
  | insert folderId folderObjectId => exact fun id now => (justified id now).mono subset

section Requests

variable {inserted : List Comment} {request : CreateRequest} {rootComment quotedComment : Comment}

/-- An answer fits once what it quotes, if anything, is of the thread. -/
theorem HasRoot.fits (hasRoot : HasRoot inserted request rootComment)
    (threaded : Threaded folderOf inserted)
    (quote : ∀ quoteId, request.quoteId = some quoteId → ∃ quotedComment ∈ inserted,
      quotedComment.id = quoteId ∧ quotedComment.folderObjectId = rootComment.folderObjectId ∧
        (quotedComment.rootId = request.rootCommentId ∨ request.rootCommentId = some quoteId)) :
    Justified folderOf inserted request
      (.insert rootComment.folderId rootComment.folderObjectId) := by
  intro id now
  have inThread : (request.row rootComment.folderId rootComment.folderObjectId id now).anchor =
      none := by
    rw [CreateRequest.row, hasRoot.asked]
    rfl
  refine ⟨(threaded _ hasRoot.read).placed,
    fun rootId isRoot => ⟨inThread, rootComment.asInserted, hasRoot.read, ?_⟩, quote, ?_⟩
  · exact ⟨Option.some.inj (hasRoot.asked.symm.trans isRoot), hasRoot.isRoot, hasRoot.anchored, rfl⟩
  · simp [inThread]

/-- A root comment fits once its anchor is valid and what it quotes is a root of its object. -/
theorem rootRow_fits (noThread : request.rootCommentId = none)
    (placed : folderOf request.folderObjectId = request.folderId)
    (valid : ∀ anchor, request.anchor = some anchor → validateRootCommentAnchor anchor = .ok ())
    (quote : ∀ quoteId, request.quoteId = some quoteId → ∃ quotedComment ∈ inserted,
      quotedComment.id = quoteId ∧ quotedComment.folderObjectId = request.folderObjectId ∧
        quotedComment.rootId = none) :
    Justified folderOf inserted request (.insert request.folderId request.folderObjectId) := by
  intro id now
  refine ⟨placed, fun rootId isRoot => ?_, fun quoteId quotes => ?_, fun anchor anchored => ?_⟩
  · have absent : some rootId = none := isRoot.symm.trans noThread
    cases absent
  · obtain ⟨quotedComment, member, sameId, sameObject, noRoot⟩ := quote quoteId quotes
    exact ⟨quotedComment, member, sameId, sameObject, .inl (noRoot.trans noThread.symm)⟩
  · grind [CreateRequest.row]

theorem map_eq_ok {α β : Type} {answer : Except ApiError α} {next : α → β} {value : β}
    (answers : answer.map next = .ok value) : ∃ before, answer = .ok before ∧
        next before = value := by
  cases answer with
  | error error => cases answers
  | ok before => exact ⟨before, rfl, Except.ok.inj answers⟩

theorem findComment_spec {id : String} {comments : CommentsTable} {comment : Comment}
    (found : findComment id comments = some comment) :
    comment ∈ comments.rows ∧ comment.id = id :=
  ⟨List.mem_of_find?_eq_some found,
    eq_of_beq (@List.find?_some _ (fun row : Comment => row.id == id) _ _ found)⟩

theorem findObjectById_id {id : String} {db : Database} {object : FolderObject}
    (found : findObjectById id db = some object) : object.id = id :=
  eq_of_beq (@List.find?_some _ (fun row : FolderObject => row.id == id) _ _ found)

/-- Each read of a request establishes what its next stage needs. -/
theorem proceed_justified {env : Env} {tables : Tables folderOf} {comments : CommentsTable}
    {stage next : CreateStage} (threaded : Threaded folderOf inserted) (unique : UniqueIds inserted)
    (live : ∀ comment ∈ comments.rows, comment.asInserted ∈ inserted)
    (justified : Justified folderOf inserted request stage)
    (proceeds : proceed env request tables.db comments stage = .ok next) :
    Justified folderOf inserted request next := by
  cases stage with
  | received =>
      rw [proceed] at proceeds
      cases asked : request.rootCommentId with
      | none =>
          rw [asked] at proceeds
          obtain ⟨_, _, rfl⟩ := map_eq_ok proceeds
          exact asked
      | some rootCommentId =>
          rw [asked] at proceeds
          dsimp only at proceeds
          split at proceeds
          · cases proceeds
          · rename_i rootComment found
            obtain ⟨member, sameId⟩ := findComment_spec found
            split at proceeds
            · cases proceeds
            · split at proceeds
              · cases proceeds
              · rename_i noRoot anchored
                cases proceeds
                exact ⟨asked.trans (congrArg some sameId.symm), live _ member,
                  Option.not_isSome_iff_eq_none.mp noRoot,
                  Option.isSome_iff_ne_none.mpr (anchored ∘ Option.isNone_iff_eq_none.mpr)⟩
  | rootRead rootComment =>
      rw [proceed] at proceeds
      obtain ⟨_, _, rfl⟩ := map_eq_ok proceeds
      cases quotes : request.quoteId with
      | none => exact justified.fits threaded (by simp [quotes])
      | some quoteId => exact ⟨justified, quotes⟩
  | threadQuote rootComment quoteId =>
      obtain ⟨hasRoot, quotes⟩ := justified
      rw [proceed] at proceeds
      split at proceeds
      · cases proceeds
      · rename_i quotedComment found
        obtain ⟨member, sameId⟩ := findComment_spec found
        have justifies (facts : quotedComment.folderObjectId = rootComment.folderObjectId ∧
            (quotedComment.rootId = request.rootCommentId ∨
              request.rootCommentId = some quoteId)) :
            Justified folderOf inserted request
              (.insert rootComment.folderId rootComment.folderObjectId) := by
          refine hasRoot.fits threaded fun other isQuote => ?_
          cases Option.some.inj (quotes.symm.trans isQuote)
          exact ⟨_, live _ member, sameId, facts⟩
        split at proceeds
        · split at proceeds
          · cases proceeds
          · rename_i isRoot
            have rootAsked : some quoteId = request.rootCommentId := not_not.mp isRoot
            have same : quotedComment.asInserted = rootComment.asInserted :=
              unique _ (live _ member) _ hasRoot.read
                (sameId.trans (Option.some.inj (rootAsked.trans hasRoot.asked)))
            have sameObject := congrArg Comment.folderObjectId same
            cases proceeds
            exact justifies ⟨sameObject, .inr rootAsked.symm⟩
        · obtain ⟨_, inThread, rfl⟩ := map_eq_ok proceeds
          have sameThread : quotedComment.rootId = request.rootCommentId := by
            grind [validateQuoteInSameThread]
          obtain ⟨_, quotedRoot, rootMember, sameRoot, _, _, sameObject⟩ :=
            (threaded _ (live _ member)).root rootComment.id (sameThread.trans hasRoot.asked)
          have same : quotedRoot = rootComment.asInserted :=
            unique _ rootMember _ hasRoot.read sameRoot
          rw [same] at sameObject
          exact justifies ⟨sameObject.symm, .inl sameThread⟩
  | folderSeen =>
      rw [proceed] at proceeds
      split at proceeds
      · cases proceeds
      · rename_i folderObject found
        split at proceeds
        · cases proceeds
        · rename_i sameFolder
          have placed := tables.placed _ (List.mem_of_find?_eq_some found)
          rw [findObjectById_id found, not_not.mp sameFolder] at placed
          obtain ⟨_, valid, rfl⟩ := map_eq_ok proceeds
          have validates : ∀ anchor, request.anchor = some anchor →
              validateRootCommentAnchor anchor = .ok () := by
            grind
          cases quotes : request.quoteId with
          | none => exact rootRow_fits justified placed validates (by simp [quotes])
          | some quoteId => exact ⟨justified, placed, quotes, validates⟩
  | rootQuote quoteId =>
      obtain ⟨noThread, placed, quotes, valid⟩ := justified
      rw [proceed] at proceeds
      split at proceeds
      · cases proceeds
      · rename_i quotedComment found
        obtain ⟨member, sameId⟩ := findComment_spec found
        split at proceeds
        · cases proceeds
        · rename_i sameObject
          split at proceeds
          · cases proceeds
          · rename_i noRoot
            cases proceeds
            refine rootRow_fits noThread placed valid ?_
            intro other isQuote
            cases Option.some.inj (quotes.symm.trans isQuote)
            exact ⟨_, live _ member, sameId, not_not.mp sameObject,
              Option.not_isSome_iff_eq_none.mp noRoot⟩
  | insert folderId folderObjectId =>
      grind [proceed]

end Requests

/-! ### References -/

section References

variable {db : Database} {rows more : List Comment} {comment : Comment} {id : String}

theorem hasId_iff : hasId id rows = true ↔ ∃ row ∈ rows, row.id = id := by
  simp [hasId]

theorem all_iff {test : String → Bool} {value : Option String} :
    value.all test = true ↔ ∀ held, value = some held → test held = true := by
  cases value <;> simp

theorem isHeld_iff : comment.isHeld db rows = true ↔
    (findFolder comment.folderId db).isSome = true ∧
      (findObjectById comment.folderObjectId db).isSome = true ∧
        ∀ rootId, comment.rootId = some rootId → hasId rootId rows = true := by
  simp [Comment.isHeld, and_assoc, all_iff]

theorem restricts_iff : comment.restricts db rows = true ↔
    (findUser comment.authorId db).isSome = true ∧
      ∀ quoteId, comment.quoteId = some quoteId → hasId quoteId rows = true := by
  simp [Comment.restricts, all_iff]

/-- Every foreign key of every row is met. -/
def References (db : Database) (rows : List Comment) : Prop :=
  ∀ comment ∈ rows, comment.isHeld db rows = true ∧ comment.restricts db rows = true

theorem references_mono (keeps : ∀ id, hasId id rows = true → hasId id more = true)
    (met : comment.isHeld db rows = true ∧ comment.restricts db rows = true) :
    comment.isHeld db more = true ∧ comment.restricts db more = true := by
  grind [isHeld_iff, restricts_iff]

theorem insertComment_spec {comments after : CommentsTable} {row : Comment}
    (inserted : insertComment db comments row = some after) :
    after.rows = comments.rows ++ [row] ∧
      row.isHeld db comments.rows = true ∧ row.restricts db comments.rows = true := by
  rw [insertComment] at inserted
  split at inserted
  · rename_i met
    simp only [Bool.and_eq_true] at met
    exact ⟨Table.insert_rows inserted, met.1.2, met.2⟩
  · cases inserted

theorem mem_tombstone {commentId : String} {now : Date} {comments : CommentsTable}
    (member : comment ∈ (tombstone commentId now comments).rows) :
    ∃ old ∈ comments.rows, comment = old ∨ comment = { old with deletedAt := some now } := by
  obtain ⟨old, oldMember, became⟩ := Table.mem_update.mp member
  grind

theorem hasId_tombstone (commentId : String) (now : Date) (comments : CommentsTable) :
    hasId id (tombstone commentId now comments).rows = hasId id comments.rows := by
  rw [tombstone, Table.update, hasId, hasId, List.any_map]
  grind

end References

/-! ### What every run keeps -/

structure Sound (ids : IdSource) (state : CommentsState folderOf) : Prop where
  threaded : Threaded folderOf state.inserted
  unique : UniqueIds state.inserted
  drawn : ∀ row ∈ state.inserted, ∃ index < state.drawn, row.id = ids.draw index
  live : ∀ comment ∈ state.comments.rows, comment.asInserted ∈ state.inserted
  references : References state.tables.db state.comments.rows
  justified : ∀ pending ∈ state.creating, Justified folderOf state.inserted pending.1 pending.2

section Steps

variable {ids : IdSource} {state : CommentsState folderOf}

theorem sound_start : Sound ids (.start folderOf) where
  threaded := fun _ absent => absurd absent List.not_mem_nil
  unique := fun _ absent => absurd absent List.not_mem_nil
  drawn := fun _ absent => absurd absent List.not_mem_nil
  live := fun _ absent => absurd absent List.not_mem_nil
  references := fun _ absent => absurd absent List.not_mem_nil
  justified := fun _ absent => absurd absent List.not_mem_nil

/-- A request moves on, or ends. -/
theorem Sound.creating (sound : Sound ids state) {creating : List (CreateRequest × CreateStage)}
    (justified : ∀ pending ∈ creating, pending ∈ state.creating ∨
      Justified folderOf state.inserted pending.1 pending.2) :
    Sound ids { state with creating := creating } :=
  { sound with
    justified := fun pending member =>
      (justified pending member).elim (sound.justified pending) id }

/-- The row of a request was never drawn before, and fits. -/
theorem Sound.insertRow (sound : Sound ids state) {request : CreateRequest}
    {folderId folderObjectId : String} (now : Date)
    (justified : Justified folderOf state.inserted request (.insert folderId folderObjectId)) :
    Sound ids (insertRow ids request folderId folderObjectId now state) := by
  have drawn : ∀ row ∈ state.inserted, ∃ index < state.drawn + 1, row.id = ids.draw index := by
    grind [sound.drawn]
  unfold Comments.insertRow
  dsimp only
  split
  · rename_i after inserted
    obtain ⟨rows, met⟩ := insertComment_spec inserted
    generalize isRow : request.row folderId folderObjectId (ids.draw state.drawn) now = row at *
    have sameId : row.id = ids.draw state.drawn := by rw [← isRow]; rfl
    have undeleted : row.asInserted = row := by rw [← isRow]; rfl
    have fresh : ∀ old ∈ state.inserted, old.id ≠ row.id := by
      grind [sound.drawn, ids.distinct]
    have subset : state.inserted ⊆ state.inserted ++ [row] := List.subset_append_left _ _
    constructor
    · intro other member
      rcases List.mem_append.mp member with old | new
      · exact (sound.threaded other old).mono subset
      · rw [List.mem_singleton.mp new, ← isRow]
        exact (justified _ _).mono (isRow ▸ subset)
    · intro first firstMember second secondMember same
      rcases List.mem_append.mp firstMember with firstOld | firstNew
      · rcases List.mem_append.mp secondMember with secondOld | secondNew
        · exact sound.unique first firstOld second secondOld same
        · rw [List.mem_singleton.mp secondNew] at same
          exact absurd same (fresh first firstOld)
      · rw [List.mem_singleton.mp firstNew] at same ⊢
        rcases List.mem_append.mp secondMember with secondOld | secondNew
        · exact absurd same.symm (fresh second secondOld)
        · exact (List.mem_singleton.mp secondNew).symm
    · intro other member
      rcases List.mem_append.mp member with old | new
      · exact drawn other old
      · rw [List.mem_singleton.mp new]
        exact ⟨state.drawn, Nat.lt_succ_self _, sameId⟩
    · intro comment member
      rw [rows] at member
      rcases List.mem_append.mp member with old | new
      · exact subset (sound.live comment old)
      · rw [List.mem_singleton.mp new, undeleted]
        exact List.mem_append_right _ (List.mem_singleton_self row)
    · intro comment member
      rw [rows] at member ⊢
      have keeps : ∀ id, hasId id state.comments.rows = true →
          hasId id (state.comments.rows ++ [row]) = true := by
        intro id held
        rw [hasId, List.any_append, Bool.or_eq_true]
        exact .inl held
      rcases List.mem_append.mp member with old | new
      · exact references_mono keeps (sound.references comment old)
      · rw [List.mem_singleton.mp new]
        exact references_mono keeps met
    · intro pending member
      exact (sound.justified pending member).mono subset
  · exact { sound with drawn := drawn }

theorem Sound.tombstone (sound : Sound ids state) (commentId : String) (now : Date) :
    Sound ids { state with comments := tombstone commentId now state.comments } := by
  refine { sound with live := ?_, references := ?_ }
  · intro comment member
    obtain ⟨old, oldMember, same | same⟩ := mem_tombstone member
    · rw [same]
      exact sound.live old oldMember
    · rw [same]
      exact sound.live old oldMember
  · intro comment member
    have keeps : ∀ id, hasId id state.comments.rows = true →
        hasId id (Comments.tombstone commentId now state.comments).rows = true := by
      intro id held
      rw [hasId_tombstone]
      exact held
    obtain ⟨old, oldMember, same | same⟩ := mem_tombstone member
    · rw [same]
      exact references_mono keeps (sound.references old oldMember)
    · rw [same]
      exact references_mono keeps (sound.references old oldMember)

/-- What a row references among the inserted rows is still there. -/
theorem Sound.still (sound : Sound ids state) {id : String}
    (held : hasId id state.comments.rows = true) {row : Comment} (member : row ∈ state.inserted)
    (sameId : row.id = id) : ∃ comment ∈ state.comments.rows, comment.asInserted = row := by
  obtain ⟨comment, isLive, same⟩ := hasId_iff.mp held
  exact ⟨comment, isLive,
    sound.unique _ (sound.live comment isLive) row member (same.trans sameId.symm)⟩

theorem Sound.threaded_live (sound : Sound ids state) :
    Threaded folderOf state.comments.rows := by
  intro comment member
  have fits := sound.threaded _ (sound.live comment member)
  obtain ⟨held, restricts⟩ := sound.references comment member
  refine ⟨fits.placed, fun rootId isRoot => ?_, fun quoteId quotes => ?_, fits.anchor⟩
  · obtain ⟨noAnchor, rootComment, inserted, sameId, facts⟩ := fits.root rootId isRoot
    obtain ⟨live, isLive, same⟩ :=
      sound.still ((isHeld_iff.mp held).2.2 rootId isRoot) inserted sameId
    rw [← same] at sameId facts
    exact ⟨noAnchor, live, isLive, sameId, facts⟩
  · obtain ⟨quotedComment, inserted, sameId, facts⟩ := fits.quote quoteId quotes
    obtain ⟨live, isLive, same⟩ :=
      sound.still ((restricts_iff.mp restricts).2 quoteId quotes) inserted sameId
    rw [← same] at sameId facts
    exact ⟨live, isLive, sameId, facts⟩

end Steps

/-! ### Deleting objects and folders -/

section Deletion

variable {ids : IdSource} {state : CommentsState folderOf}

/-- The object of the comment is left. -/
def Comment.onObject (db : Database) (comment : Comment) : Bool :=
  (findObjectById comment.folderObjectId db).isSome

theorem isHeld_eq_onObject (tables : Tables folderOf) {rows : List Comment} {comment : Comment}
    (placed : folderOf comment.folderObjectId = comment.folderId)
    (root : ∀ rootId, comment.rootId = some rootId → hasId rootId rows = true) :
    comment.isHeld tables.db rows = comment.onObject tables.db := by
  rw [Bool.eq_iff_iff, isHeld_iff, Comment.onObject]
  refine ⟨fun met => met.2.1, fun onObject => ⟨?_, onObject, root⟩⟩
  obtain ⟨object, found⟩ := Option.isSome_iff_exists.mp onObject
  have member := List.mem_of_find?_eq_some found
  rw [← placed, ← findObjectById_id found, tables.placed object member]
  exact tables.owned object member

theorem cascade_of_held {db : Database} {comments : CommentsTable}
    (held : ∀ comment ∈ comments.rows, comment.isHeld db comments.rows = true) (rounds : Nat) :
    cascade db rounds comments = comments := by
  have same : comments.delete (fun row => !row.isHeld db comments.rows) = comments := by
    obtain ⟨rows, distinct⟩ := comments
    grind [Table.delete, List.filter_eq_self.mpr]
  induction rounds with
  | zero => rfl
  | succ rounds inductionHypothesis => rw [cascade, same, inductionHypothesis]

/-- Whatever a comment references is on its object, so one round leaves nothing to delete. -/
theorem cascade_spec (sound : Sound ids state) (tables : Tables folderOf) :
    let kept := cascade tables.db state.comments.rows.length state.comments
    kept.rows = state.comments.rows.filter (Comment.onObject tables.db) ∧
      ∀ comment ∈ kept.rows, comment.isHeld tables.db kept.rows = true := by
  have threaded := sound.threaded_live
  have heldNow : ∀ comment ∈ state.comments.rows,
      comment.isHeld tables.db state.comments.rows = comment.onObject tables.db :=
    fun comment member => isHeld_eq_onObject tables (threaded comment member).placed
      (isHeld_iff.mp (sound.references comment member).1).2.2
  let first := state.comments.delete fun row => !row.isHeld tables.db state.comments.rows
  have rows : first.rows = state.comments.rows.filter (Comment.onObject tables.db) :=
    List.filter_congr fun comment member => (Bool.not_not _).trans (heldNow comment member)
  have held : ∀ comment ∈ first.rows, comment.isHeld tables.db first.rows = true := by
    intro comment member
    rw [rows] at member ⊢
    obtain ⟨isLive, onObject⟩ := List.mem_filter.mp member
    have fits := threaded comment isLive
    grind [isHeld_eq_onObject, Comment.onObject, fits.placed, fits.root, hasId_iff.mpr]
  cases rounds : state.comments.rows.length with
  | zero =>
      simp [cascade, List.length_eq_zero_iff.mp, rounds]
  | succ rounds =>
      rw [cascade, cascade_of_held held]
      exact ⟨rows, held⟩

theorem restricts_of_onObject (sound : Sound ids state) {tables : Tables folderOf}
    {comment : Comment}
    (member : comment ∈ state.comments.rows.filter (Comment.onObject tables.db)) :
    comment.restricts tables.db (state.comments.rows.filter (Comment.onObject tables.db)) =
      (findUser comment.authorId tables.db).isSome := by
  obtain ⟨isLive, onObject⟩ := List.mem_filter.mp member
  rw [Bool.eq_iff_iff, restricts_iff]
  refine ⟨And.left, fun author => ⟨author, fun quoteId quotes => ?_⟩⟩
  obtain ⟨quotedComment, quotedLive, sameId, sameObject, _⟩ :=
    (sound.threaded_live comment isLive).quote quoteId quotes
  refine hasId_iff.mpr ⟨quotedComment, List.mem_filter.mpr ⟨quotedLive, ?_⟩, sameId⟩
  rw [Comment.onObject, sameObject]
  exact onObject

/-- No quote keeps a row from being deleted; only an author who is to go does. -/
theorem Sound.deleteOrphans (sound : Sound ids state) (tables : Tables folderOf) :
    (deleteOrphans tables.db state.comments).map (·.rows) =
      let left := state.comments.rows.filter (Comment.onObject tables.db)
      if left.all fun comment => (findUser comment.authorId tables.db).isSome then some left
      else none := by
  obtain ⟨rows, _⟩ := cascade_spec sound tables
  have allowed : (state.comments.rows.filter (Comment.onObject tables.db)).all
      (fun comment => comment.restricts tables.db
        (state.comments.rows.filter (Comment.onObject tables.db))) =
      (state.comments.rows.filter (Comment.onObject tables.db)).all
        (fun comment => (findUser comment.authorId tables.db).isSome) := by
    rw [Bool.eq_iff_iff, List.all_eq_true, List.all_eq_true]
    refine forall₂_congr fun comment member => ?_
    rw [restricts_of_onObject sound member]
  unfold Comments.deleteOrphans
  dsimp only at rows ⊢
  rw [rows, allowed]
  split
  · rw [Option.map_some, rows]
  · rfl

theorem Sound.otherTables (sound : Sound ids state) (tables : Tables folderOf)
    {kept : CommentsTable} (deleted : Comments.deleteOrphans tables.db state.comments = some kept) :
    Sound ids { state with tables := tables, comments := kept } := by
  obtain ⟨rows, held⟩ := cascade_spec sound tables
  unfold Comments.deleteOrphans at deleted
  dsimp only at deleted rows held
  split at deleted
  · rename_i allowed
    cases deleted
    exact { sound with
      live := fun comment member =>
        sound.live comment (List.mem_filter.mp (rows ▸ member)).1
      references := fun comment member =>
        ⟨held comment member, List.all_eq_true.mp allowed comment member⟩ }
  · cases deleted

end Deletion

/-! ### Runs of the comments -/

theorem Sound.step {ids : IdSource} {state : CommentsState folderOf} (env : Env)
    (sound : Sound ids state) (input : CommentsInput folderOf) :
    Sound ids (commentsStep env ids state input) := by
  cases input with
  | createCommentAsUser request =>
      refine sound.creating fun pending member => ?_
      rcases List.mem_append.mp member with old | new
      · exact .inl old
      · rw [List.mem_singleton.mp new]
        exact .inr trivial
  | continueCreate index now =>
      rw [commentsStep]
      split
      · rename_i request folderId folderObjectId found
        have justified := sound.justified _ (List.mem_of_getElem? found)
        exact (sound.creating fun pending member =>
          .inl (List.mem_of_mem_eraseIdx member)).insertRow now justified
      · rename_i request stage notInsert found
        have justified := sound.justified _ (List.mem_of_getElem? found)
        grind [proceed_justified, List.mem_of_mem_eraseIdx, sound.creating, sound.threaded,
          sound.unique, sound.live]
      · exact sound
  | deleteCommentAsUser request =>
      rw [commentsStep]
      split
      · exact { sound with }
      · exact sound
  | continueDelete index now =>
      rw [commentsStep]
      split
      · split
        · exact { sound with }
        · exact { sound with }
      · rename_i commentId found
        have tombstoned := sound.tombstone commentId now
        exact { tombstoned with }
      · exact sound
  | otherTables tables =>
      grind [commentsStep, sound.otherTables]

theorem sound_run (env : Env) (ids : IdSource) (inputs : List (CommentsInput folderOf)) :
    Sound ids (run (commentsStep env ids) (.start folderOf) inputs) :=
  run_invariant (fun _ input sound => sound.step env input) sound_start inputs

/-- **Threads**: whatever requests run in whatever order, every comment fits its thread. -/
theorem threaded_run (env : Env) (ids : IdSource) (inputs : List (CommentsInput folderOf)) :
    Threaded folderOf (run (commentsStep env ids) (.start folderOf) inputs).comments.rows :=
  (sound_run env ids inputs).threaded_live

/-- **Deletion**: the comments of the objects that go are gone with them, whoever quotes whom. -/
theorem deleteOrphans_run (env : Env) (ids : IdSource) (inputs : List (CommentsInput folderOf))
    (tables : Tables folderOf) :
    let comments := (run (commentsStep env ids) (.start folderOf) inputs).comments
    let left := comments.rows.filter (Comment.onObject tables.db)
    (deleteOrphans tables.db comments).map (·.rows) =
      if left.all fun comment => (findUser comment.authorId tables.db).isSome then some left
      else none :=
  (sound_run env ids inputs).deleteOrphans tables

end Lombok.Comments
