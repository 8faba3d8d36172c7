import Lombok.Comments.Threads

/-!
Contract: what a user is shown of a thread, and of the comments on an object.

Owns `getThreadAsUser` and `listAllCommentsAsUser`. Comments of one time stay in table order.

Establishes that an answer holds every comment that was asked for and is not deleted, from a
folder the user sees, and shows what a comment quotes unless that is deleted.
-/

namespace Lombok.Comments

open Lombok.Core Lombok.Library Lombok.Library.Action Lombok.Apps Lombok.Folders

structure CommentView where
  comment : Comment
  author : User
  quotedComment : Option (Comment × User)

/-- The inner join with the users. -/
def withAuthors (db : Database) (comments : List Comment) : List (Comment × User) :=
  comments.filterMap fun comment =>
    (findUser comment.authorId db).map fun author => (comment, author)

/-- `commentsMap`, and the quoted comments looked up in it. -/
def withQuotes (rows : List (Comment × User)) : List CommentView :=
  rows.map fun row =>
    { comment := row.1
      author := row.2
      quotedComment := row.1.quoteId.bind fun quoteId =>
        rows.find? fun quoted => quoted.1.id == quoteId }

def Comment.isLive (comment : Comment) : Bool := comment.deletedAt.isNone

/-- The comments that are not deleted, by `createdAt`. -/
def selectComments (comments : CommentsTable) (condition : Comment → Bool) : List Comment :=
  (comments.view fun comment => condition comment && comment.isLive).mergeSort
    fun left right => decide (left.createdAt ≤ right.createdAt)

def readComments (db : Database) (comments : CommentsTable) (condition : Comment → Bool) :
    List CommentView :=
  withQuotes (withAuthors db (selectComments comments condition))

def Comment.inThread (rootCommentId : String) (comment : Comment) : Bool :=
  comment.id == rootCommentId || comment.rootId == some rootCommentId

def getThreadAsUser (env : Env) (actorId rootCommentId : String) (db : Database)
    (comments : CommentsTable) : Except ApiError (List CommentView) :=
  match findComment rootCommentId comments with
  | none => .error (.notFound ("Root comment with id " ++ rootCommentId ++ " not found"))
  | some rootComment =>
      (getFolderAsUser env actorId rootComment.folderId db).map fun _ =>
        readComments db comments (Comment.inThread rootCommentId)

def listAllCommentsAsUser (env : Env) (actorId folderObjectId : String) (db : Database)
    (comments : CommentsTable) : Except ApiError (List CommentView) :=
  match findObjectById folderObjectId db with
  | none => .error (.notFound ("Folder object with id " ++ folderObjectId ++ " not found"))
  | some folderObject =>
      (getFolderAsUser env actorId folderObject.folderId db).map fun _ =>
        readComments db comments fun comment => comment.folderObjectId == folderObjectId

/-! ### What is shown -/

structure Shown (db : Database) (comments : CommentsTable) (condition : Comment → Bool)
    (quoting : Comment → Prop) (views : List CommentView) : Prop where
  complete : views.map (·.comment) = selectComments comments condition
  authors : ∀ view ∈ views, findUser view.comment.authorId db = some view.author
  /-- The quoted comment is shown, unless it is deleted. -/
  quotes : ∀ view ∈ views, quoting view.comment → view.quotedComment.map Prod.fst =
    view.comment.quoteId.bind fun quoteId => (findComment quoteId comments).filter Comment.isLive

theorem mem_selectComments {comments : CommentsTable} {condition : Comment → Bool}
    {comment : Comment} : comment ∈ selectComments comments condition ↔
      comment ∈ comments.rows ∧ condition comment = true ∧ comment.isLive = true := by
  rw [selectComments, List.mem_mergeSort, Table.view, List.mem_filter, Bool.and_eq_true]

theorem clash_symm (left right : Comment) : left.clash right = right.clash left :=
  Bool.beq_comm

theorem find_id {quoteId : String} {rows : List Comment} {comment : Comment}
    (found : rows.find? (fun row => row.id == quoteId) = some comment) : comment.id = quoteId :=
  eq_of_beq (@List.find?_some _ (fun row : Comment => row.id == quoteId) _ _ found)

/-- Among selected rows a lookup finds what the table holds, unless it is deleted. -/
theorem find_selected {comments : CommentsTable} {condition : Comment → Bool} {quoteId : String}
    (selected : ∀ quoted ∈ comments.rows, quoted.id = quoteId → condition quoted = true) :
    (selectComments comments condition).find? (fun row => row.id == quoteId) =
      (findComment quoteId comments).filter Comment.isLive := by
  cases found : (selectComments comments condition).find? fun row => row.id == quoteId with
  | some comment =>
      obtain ⟨member, _, isLive⟩ := mem_selectComments.mp (List.mem_of_find?_eq_some found)
      have sameId := find_id found
      cases held : findComment quoteId comments with
      | none =>
          have absent := List.find?_eq_none.mp held comment member
          exact absurd (beq_iff_eq.mpr sameId) absent
      | some other =>
          obtain ⟨otherMember, otherId⟩ := findComment_spec held
          have same : other = comment := comments.eq_of_clash clash_symm otherMember member
            (beq_iff_eq.mpr (otherId.trans sameId.symm))
          rw [same, Option.filter_some, if_pos isLive]
  | none =>
      cases held : findComment quoteId comments with
      | none => rfl
      | some other =>
          obtain ⟨member, sameId⟩ := findComment_spec held
          have deleted : ¬ other.isLive = true := fun isLive =>
            List.find?_eq_none.mp found other
              (mem_selectComments.mpr ⟨member, selected other member sameId, isLive⟩)
              (beq_iff_eq.mpr sameId)
          rw [Option.filter_some, if_neg deleted]

section Answers

variable {folderOf : String → String} {ids : IdSource} {state : CommentsState folderOf}

theorem withAuthors_map {db : Database} {comments : List Comment}
    (authors : ∀ comment ∈ comments, (findUser comment.authorId db).isSome = true) :
    (withAuthors db comments).map Prod.fst = comments := by
  induction comments with
  | nil => rfl
  | cons comment rest inductionHypothesis =>
      obtain ⟨author, found⟩ := Option.isSome_iff_exists.mp (authors comment List.mem_cons_self)
      grind [withAuthors]

/-- A condition that takes what a comment quotes with the comment shows all there is to show. -/
theorem readComments_shown (sound : Sound ids state) {condition : Comment → Bool}
    {quoting : Comment → Prop}
    (closed : ∀ comment ∈ state.comments.rows, condition comment = true → quoting comment →
      ∀ quoted ∈ state.comments.rows, comment.quoteId = some quoted.id →
        condition quoted = true) :
    Shown state.tables.db state.comments condition quoting
      (readComments state.tables.db state.comments condition) := by
  have authored : ∀ comment ∈ selectComments state.comments condition,
      (findUser comment.authorId state.tables.db).isSome = true := fun comment member =>
    (restricts_iff.mp (sound.references comment (mem_selectComments.mp member).1).2).1
  have joined := withAuthors_map authored
  refine ⟨?_, fun view member => ?_, fun view member isQuoting => ?_⟩
  · rw [readComments, withQuotes, List.map_map]
    exact joined
  · obtain ⟨row, rowMember, rfl⟩ := List.mem_map.mp member
    obtain ⟨comment, _, isRow⟩ := List.mem_filterMap.mp rowMember
    obtain ⟨author, found, rfl⟩ := Option.map_eq_some_iff.mp isRow
    exact found
  · obtain ⟨row, rowMember, rfl⟩ := List.mem_map.mp member
    have selected : row.1 ∈ selectComments state.comments condition := by
      rw [← joined]
      exact List.mem_map_of_mem rowMember
    obtain ⟨isRow, chosen, _⟩ := mem_selectComments.mp selected
    dsimp only
    cases quotes : row.1.quoteId with
    | none => rfl
    | some quoteId =>
        have quotedChosen : ∀ quoted ∈ state.comments.rows, quoted.id = quoteId →
            condition quoted = true := fun quoted quotedMember sameId =>
          closed row.1 isRow chosen isQuoting quoted quotedMember
              (quotes.trans (congrArg some sameId.symm))
        have looked := congrArg (List.find? fun comment => comment.id == quoteId) joined
        rw [List.find?_map] at looked
        exact looked.trans (find_selected quotedChosen)

theorem quoted_live (sound : Sound ids state) {comment quoted : Comment}
    (isLive : comment ∈ state.comments.rows) (quotedLive : quoted ∈ state.comments.rows)
    (quotes : comment.quoteId = some quoted.id) :
    quoted.folderObjectId = comment.folderObjectId ∧
      (quoted.rootId = comment.rootId ∨ comment.rootId = some quoted.id) := by
  obtain ⟨other, otherLive, sameId, facts⟩ :=
    (sound.threaded_live comment isLive).quote quoted.id quotes
  have same : other = quoted := state.comments.eq_of_clash clash_symm otherLive quotedLive
    (beq_iff_eq.mpr sameId)
  rw [same] at facts
  exact facts

/-- Who sees the folder is answered with all the comments, when they are of that folder. -/
theorem readComments_answered (sound : Sound ids state) {env : Env} {actorId folderId : String}
    {condition : Comment → Bool} {quoting : Comment → Prop}
    (closed : ∀ comment ∈ state.comments.rows, condition comment = true → quoting comment →
      ∀ quoted ∈ state.comments.rows, comment.quoteId = some quoted.id → condition quoted = true)
    (placed : ∀ comment ∈ state.comments.rows, condition comment = true →
      comment.folderId = folderId)
    (sees : (getFolderAsUser env actorId folderId state.tables.db).isOk = true) :
    ∃ views, ((getFolderAsUser env actorId folderId state.tables.db).map fun _ =>
        readComments state.tables.db state.comments condition) = .ok views ∧
      Shown state.tables.db state.comments condition quoting views ∧
      ∀ view ∈ views, view.comment.folderId = folderId := by
  have shown := readComments_shown sound closed
  cases access : getFolderAsUser env actorId folderId state.tables.db with
  | error error =>
      rw [access] at sees
      cases sees
  | ok folder =>
      refine ⟨_, rfl, shown, fun view member => ?_⟩
      have selected := List.mem_map_of_mem (f := CommentView.comment) member
      rw [shown.complete] at selected
      obtain ⟨isLive, chosen, _⟩ := mem_selectComments.mp selected
      exact placed view.comment isLive chosen

/-- The thread of a root comment is one folder's, and shows what its answers quote. -/
theorem getThreadAsUser_spec (sound : Sound ids state) {env : Env} {actorId : String}
    {rootComment : Comment} (isRoot : rootComment.rootId = none)
    (found : findComment rootComment.id state.comments = some rootComment)
    (sees : (getFolderAsUser env actorId rootComment.folderId state.tables.db).isOk = true) :
    ∃ views,
      getThreadAsUser env actorId rootComment.id state.tables.db state.comments = .ok views ∧
        Shown state.tables.db state.comments (Comment.inThread rootComment.id)
          (fun comment => comment.rootId ≠ none) views ∧
        ∀ view ∈ views, view.comment.folderId = rootComment.folderId := by
  have rootLive := (findComment_spec found).1
  have isTheRoot : ∀ comment ∈ state.comments.rows, comment.id = rootComment.id →
      comment = rootComment := fun comment isLive sameId =>
    state.comments.eq_of_clash clash_symm isLive rootLive (beq_iff_eq.mpr sameId)
  rw [getThreadAsUser, found]
  refine readComments_answered sound ?_ (fun comment isLive inThread => ?_) sees
  · intro comment isLive inThread isAnswer quoted quotedLive quotes
    simp only [Comment.inThread, Bool.or_eq_true, beq_iff_eq] at inThread ⊢
    rcases inThread with sameId | ofRoot
    · exact absurd (isTheRoot comment isLive sameId ▸ isRoot) isAnswer
    · rcases (quoted_live sound isLive quotedLive quotes).2 with sameRoot | quotesRoot
      · exact .inr (sameRoot.trans ofRoot)
      · exact .inl (Option.some.inj (quotesRoot.symm.trans ofRoot))
  · simp only [Comment.inThread, Bool.or_eq_true, beq_iff_eq] at inThread
    rcases inThread with sameId | ofRoot
    · rw [isTheRoot comment isLive sameId]
    · have fits := sound.threaded_live comment isLive
      obtain ⟨_, other, otherLive, sameId, _, _, sameObject⟩ := fits.root _ ofRoot
      rw [isTheRoot other otherLive sameId] at sameObject
      rw [← fits.placed, ← sameObject, (sound.threaded_live rootComment rootLive).placed]

/-- All comments on an object are of its folder, and every quote among them is found. -/
theorem listAllCommentsAsUser_spec (sound : Sound ids state) {env : Env}
    {actorId folderObjectId : String} {folderObject : FolderObject}
    (found : findObjectById folderObjectId state.tables.db = some folderObject)
    (sees : (getFolderAsUser env actorId folderObject.folderId state.tables.db).isOk = true) :
    ∃ views,
      listAllCommentsAsUser env actorId folderObjectId state.tables.db state.comments = .ok views ∧
        Shown state.tables.db state.comments
          (fun comment => comment.folderObjectId == folderObjectId) (fun _ => True) views ∧
        ∀ view ∈ views, view.comment.folderId = folderObject.folderId := by
  rw [listAllCommentsAsUser, found]
  refine readComments_answered sound ?_ (fun comment isLive onObject => ?_) sees
  · intro comment isLive onObject _ quoted quotedLive quotes
    rw [(quoted_live sound isLive quotedLive quotes).1]
    exact onObject
  · rw [← (sound.threaded_live comment isLive).placed, beq_iff_eq.mp onObject,
      ← findObjectById_id found]
    exact state.tables.placed folderObject (List.mem_of_find?_eq_some found)

end Answers

/-! ### Answers in every run -/

/-- **Threads are answered whole**: after any run, a user who sees the folder of a root comment is
shown its thread, with every quote that is not deleted. -/
theorem getThreadAsUser_run {folderOf : String → String} (env : Env) (ids : IdSource)
    (inputs : List (CommentsInput folderOf)) (actorId : String) (rootComment : Comment) :
    let state := run (commentsStep env ids) (.start folderOf) inputs
    rootComment.rootId = none →
      findComment rootComment.id state.comments = some rootComment →
      (getFolderAsUser env actorId rootComment.folderId state.tables.db).isOk = true →
      ∃ views,
        getThreadAsUser env actorId rootComment.id state.tables.db state.comments = .ok views ∧
          Shown state.tables.db state.comments (Comment.inThread rootComment.id)
            (fun comment => comment.rootId ≠ none) views ∧
          ∀ view ∈ views, view.comment.folderId = rootComment.folderId :=
  getThreadAsUser_spec (sound_run env ids inputs)

def commentedObject : FolderObject :=
  { (default : FolderObject) with id := "object", folderId := "folder", objectKey := "a.jpg" }

/-- A folder of a user, with one object. -/
def commentedTables : Tables fun _ => "folder" where
  db :=
    { folders := .singleton
        { id := "folder", name := "Folder", ownerId := "alice", createdAt := 0, updatedAt := 0 }
      folderObjects := .singleton commentedObject
      users := .singleton { id := "alice", username := "alice" } }
  placed := by decide
  owned := by decide

/-- Identifiers of ever more letters. -/
def countingIds : IdSource where
  draw := fun drawn => String.ofList (List.replicate (drawn + 1) 'c')
  distinct := by
    intro first second same
    have sameLetters := String.ofList_injective same
    simpa using congrArg List.length sameLetters

/-- Alice comments on a point of the object. -/
def firstComment : CreateRequest where
  actorId := "alice"
  folderId := "folder"
  folderObjectId := "object"
  content := "Look here"
  anchor := some (.imagePoint 0 1)
  quoteId := none
  rootCommentId := none

/-- She answers, and quotes her comment. -/
def answeredThread : List (CommentsInput fun _ => "folder") :=
  [.otherTables commentedTables, .createCommentAsUser firstComment, .continueCreate 0 1,
    .continueCreate 0 1, .continueCreate 0 1,
    .createCommentAsUser
      { firstComment with anchor := none, quoteId := some "c", rootCommentId := some "c" },
    .continueCreate 0 2, .continueCreate 0 2, .continueCreate 0 2, .continueCreate 0 2]

theorem getThreadAsUser_run_answered :
    let comments := (run (commentsStep Env.sample countingIds) (.start _) answeredThread).comments
    ∃ views,
      getThreadAsUser Env.sample "alice" "c" commentedTables.db comments = .ok views ∧
        Shown commentedTables.db comments (Comment.inThread "c")
          (fun comment => comment.rootId ≠ none) views ∧
        ∀ view ∈ views, view.comment.folderId = "folder" :=
  getThreadAsUser_run Env.sample countingIds answeredThread "alice"
    (firstComment.row "folder" "object" "c" 1) rfl (by decide +kernel) (by decide +kernel)

/-- After any run a user who sees the folder of an object is shown every comment on it, with
every quote that is not deleted. -/
theorem listAllCommentsAsUser_run {folderOf : String → String} (env : Env) (ids : IdSource)
    (inputs : List (CommentsInput folderOf)) (actorId folderObjectId : String)
    (folderObject : FolderObject) :
    let state := run (commentsStep env ids) (.start folderOf) inputs
    findObjectById folderObjectId state.tables.db = some folderObject →
      (getFolderAsUser env actorId folderObject.folderId state.tables.db).isOk = true →
      ∃ views, listAllCommentsAsUser env actorId folderObjectId state.tables.db state.comments =
          .ok views ∧
        Shown state.tables.db state.comments
          (fun comment => comment.folderObjectId == folderObjectId) (fun _ => True) views ∧
        ∀ view ∈ views, view.comment.folderId = folderObject.folderId :=
  listAllCommentsAsUser_spec (sound_run env ids inputs)

theorem listAllCommentsAsUser_run_answered :
    let comments := (run (commentsStep Env.sample countingIds) (.start _) answeredThread).comments
    ∃ views,
      listAllCommentsAsUser Env.sample "alice" "object" commentedTables.db comments = .ok views ∧
        Shown commentedTables.db comments (fun comment => comment.folderObjectId == "object")
          (fun _ => True) views ∧
        ∀ view ∈ views, view.comment.folderId = "folder" :=
  listAllCommentsAsUser_run Env.sample countingIds answeredThread "alice" "object" commentedObject
    rfl (by decide +kernel)

end Lombok.Comments
