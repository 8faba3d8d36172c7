import Lombok.Folders.Reindex

/-!
Contract: what a failing storage service does to the index of a folder.

Owns the two calls that change the storage or follow it, and the outcomes of
their requests: `deleteFolderObjectAsUser` hands the response of its request
back unchecked and goes to the bare object key, `reindexFolder` empties the
index before it lists the first page.

Does not own: which keys a complete re-indexing records (see `Reindex`).
-/

namespace Lombok.Folders

open Lombok.Core Lombok.Library Lombok.Library.Action Lombok.Apps Lombok.Tasks Lombok.Events

/-! ### Outcomes of the storage requests -/

/-- How a DELETE request ends: the storage answers with a status, or the request fails on the way
there or back. -/
inductive DeleteOutcome where
  | response (status : Nat)
  | unreachable (error : ApiError) (reached : Bool)
deriving Inhabited

/-- The storage removed the key it was asked to remove. -/
def DeleteOutcome.carriedOut : DeleteOutcome → Bool
  | response status => decide (200 ≤ status) && decide (status < 300)
  | unreachable _ reached => reached

/-- `fetch` resolves with a response of any status. -/
def DeleteOutcome.answer : DeleteOutcome → Except ApiError Unit
  | response _ => .ok ()
  | unreachable error _ => .error error

structure StorageOutcome where
  delete : DeleteOutcome
  pages : List (Except ApiError (List S3ObjectInternal))

/-- The storage service of the environment answers as the outcome says. -/
structure Answers (env : Env) (outcome : StorageOutcome) : Prop where
  delete : ∀ request signed, env.s3.delete request signed = outcome.delete.answer
  pages : ∀ request location, env.s3.list request location = outcome.pages

/-! ### The calls -/

inductive IndexCall where
  | deleteFolderObjectAsUser (actorId folderId objectKey : String)
  | reindexFolder (folderId : String)
deriving Inhabited

def IndexCall.folderId : IndexCall → String
  | deleteFolderObjectAsUser _ folderId _ => folderId
  | reindexFolder folderId => folderId

/-- The call as a service action; a re-indexing has nothing to return. -/
def IndexCall.run (env : Env) : IndexCall → Service Bool
  | deleteFolderObjectAsUser actorId folderId objectKey =>
      Folders.deleteFolderObjectAsUser env actorId folderId objectKey
  | reindexFolder folderId => do
      Folders.reindexFolder env folderId
      pure true

/-- A deletion that gets as far as asking the storage. -/
def DeleteIsSent (env : Env) (actorId folderId objectKey : String) (db : Database) : Prop :=
  ∃ access object, getFolderAsUser env actorId folderId db = .ok access ∧
    access.permissions.contains .objectEdit = true ∧
    findFolderObject folderId objectKey db = some object

def IndexCall.Fails (env : Env) (outcome : StorageOutcome) (db : Database) : IndexCall → Prop
  | deleteFolderObjectAsUser actorId folderId objectKey =>
      DeleteIsSent env actorId folderId objectKey db ∧ outcome.delete.carriedOut = false
  | reindexFolder folderId =>
      (∃ folder, getFolder env folderId db = .ok folder) ∧
        ∃ error, Except.error error ∈ outcome.pages

def IndexCall.LeftInBucket (env : Env) (outcome : StorageOutcome) (db : Database)
    (bucket : List String) : IndexCall → String → Prop
  | deleteFolderObjectAsUser actorId folderId objectKey, storageKey =>
      storageKey ∈ bucket ∧
        (DeleteIsSent env actorId folderId objectKey db → outcome.delete.carriedOut = true →
          storageKey ≠ objectKey)
  | reindexFolder _, storageKey => storageKey ∈ bucket

def StillStored (env : Env) (outcome : StorageOutcome) (bucket : List String) (db : Database)
    (call : IndexCall) (objectKey : String) : Prop :=
  ∃ folder, getFolder env call.folderId db = .ok folder ∧
    call.LeftInBucket env outcome db bucket
      (joinStoragePrefix folder.contentLocation.keyPrefix objectKey)

/-- A request that was not carried out makes the call throw and leaves the rows of stored objects
as they were, and a deletion that returns leaves neither the object nor a row of it. -/
structure KeepsIndex (env : Env) (outcome : StorageOutcome) (bucket : List String)
    (before : World) (call : IndexCall) : Prop where
  throws : call.Fails env outcome before.db →
    ∀ returned after, ¬ Returns (call.run env) before returned after
  keeps : call.Fails env outcome before.db → ∀ row ∈ before.db.folderObjects.rows,
    row.folderId = call.folderId → StillStored env outcome bucket before.db call row.objectKey →
      row ∈ (call.run env before).2.db.folderObjects.rows
  gone : ∀ actorId folderId objectKey,
    call = .deleteFolderObjectAsUser actorId folderId objectKey →
    ∀ after, Returns (call.run env) before true after →
      ¬ StillStored env outcome bucket before.db call objectKey ∧
        ¬ IsRecorded folderId objectKey after.db

/-- When the calls keep the index. A deletion does when it asks for nothing, when `fetch` throws,
and when the storage deletes the bare key and has no object at the key with the prefix. A
re-indexing does when every page arrives and when there is no row to lose. -/
def IndexCall.IsSafe (env : Env) (outcome : StorageOutcome) (bucket : List String)
    (db : Database) : IndexCall → Prop
  | deleteFolderObjectAsUser actorId folderId objectKey =>
      DeleteIsSent env actorId folderId objectKey db → outcome.delete.answer = .ok () →
        outcome.delete.carriedOut = true ∧
          ∀ folder, getFolder env folderId db = .ok folder →
            folder.contentLocation.keyPrefix = "" ∨
              joinStoragePrefix folder.contentLocation.keyPrefix objectKey ∉ bucket
  | reindexFolder folderId =>
      (∃ error, Except.error error ∈ outcome.pages) →
        ∀ folder, getFolder env folderId db = .ok folder →
          ∀ row ∈ db.folderObjects.rows, row.folderId = folderId →
            joinStoragePrefix folder.contentLocation.keyPrefix row.objectKey ∉ bucket

/-! ### Deleting an object -/

section Deletion

theorem getFolderObject_eq_ok {folderId objectKey : String} {db : Database}
    {object : FolderObject} :
    getFolderObject folderId objectKey db = .ok object ↔
      findFolderObject folderId objectKey db = some object := by
  unfold getFolderObject
  rcases findFolderObject folderId objectKey db with _ | found
  · exact ⟨nofun, nofun⟩
  · exact ⟨fun same => congrArg some (Except.ok.inj same),
      fun same => congrArg Except.ok (Option.some.inj same)⟩

theorem FolderObject.clash_comm (left right : FolderObject) :
    left.clash right = right.clash left := by
  simp [FolderObject.clash, BEq.comm]

theorem not_isRecorded_deleted {folderId objectKey : String} {db : Database}
    {object : FolderObject} (found : findFolderObject folderId objectKey db = some object) :
    ¬ IsRecorded folderId objectKey { db with
      folderObjects := db.folderObjects.delete fun other => other.id == object.id } := by
  rintro ⟨row, member, isFolder, isKey⟩
  obtain ⟨isRow, isOther⟩ := List.mem_filter.mp member
  have isAt := FolderObject.isAt_iff.mp (List.find?_some found)
  have clashes : row.clash object = true := by
    simp [FolderObject.clash, isFolder, isKey, isAt]
  have same : row = object := db.folderObjects.eq_of_clash FolderObject.clash_comm isRow
    (List.mem_of_find?_eq_some found) clashes
  grind

variable {env : Env} {outcome : StorageOutcome} {actorId folderId objectKey : String}

/-- A deletion that asks the storage for nothing throws. -/
theorem not_returns_delete_unsent {before after : World} {returned : Bool}
    (unsent : ¬ DeleteIsSent env actorId folderId objectKey before.db) :
    ¬ Returns (deleteFolderObjectAsUser env actorId folderId objectKey) before returned after := by
  intro returns
  obtain ⟨access, checked, isAccess, afterAccess⟩ := returns_bind.mp returns
  obtain ⟨mayAccess, rfl⟩ := Service.returns_check.mp isAccess
  obtain ⟨_, permitted, isPermitted, afterPermission⟩ := returns_bind.mp afterAccess
  obtain ⟨mayEdit, rfl⟩ := returns_require.mp isPermitted
  obtain ⟨object, found, isFound, -⟩ := returns_bind.mp afterPermission
  obtain ⟨hasRow, rfl⟩ := Service.returns_check.mp isFound
  exact unsent ⟨access, object, mayAccess, mayEdit, getFolderObject_eq_ok.mp hasRow⟩

/-- A deletion that asks the storage ends as the request does, and then removes the row. -/
theorem deleteFolderObjectAsUser_sent {before : World} {access : FolderAccess}
    {object : FolderObject} (answers : Answers env outcome)
    (mayAccess : getFolderAsUser env actorId folderId before.db = .ok access)
    (mayEdit : access.permissions.contains .objectEdit = true)
    (found : findFolderObject folderId objectKey before.db = some object) :
    (∃ error world, outcome.delete.answer = .error error ∧
        deleteFolderObjectAsUser env actorId folderId objectKey before = (.error error, world) ∧
        world.db = before.db) ∨
      ∃ world, outcome.delete.answer = .ok () ∧
        deleteFolderObjectAsUser env actorId folderId objectKey before = (.ok true, world) ∧
        world.db = { before.db with folderObjects :=
          before.db.folderObjects.delete fun other => other.id == object.id } := by
  have hasRow := getFolderObject_eq_ok.mpr found
  unfold deleteFolderObjectAsUser
  rw [bind_of_returns (Service.returns_check.mpr ⟨mayAccess, rfl⟩),
    bind_of_returns (require_returns mayEdit _ _),
    bind_of_returns (Service.returns_check.mpr ⟨hasRow, rfl⟩)]
  simp only [answers.delete]
  cases outcome.delete with
  | response status => exact .inr ⟨_, rfl, rfl, rfl⟩
  | unreachable error reached => exact .inl ⟨error, _, rfl, rfl, rfl⟩

/-- A deletion keeps the index if and only if the storage deletes the object, or is not asked, or
cannot be reached. -/
theorem keepsIndex_delete_iff (answers : Answers env outcome) (bucket : List String)
    (before : World) :
    KeepsIndex env outcome bucket before
        (.deleteFolderObjectAsUser actorId folderId objectKey) ↔
      IndexCall.IsSafe env outcome bucket before.db
        (.deleteFolderObjectAsUser actorId folderId objectKey) := by
  by_cases sent : DeleteIsSent env actorId folderId objectKey before.db
  · obtain ⟨access, object, mayAccess, mayEdit, found⟩ := id sent
    rcases deleteFolderObjectAsUser_sent answers mayAccess mayEdit found with
      ⟨error, world, threw, run, sameDb⟩ | ⟨world, answered, run, deleted⟩
    · have neverReturns : ∀ returned after, ¬ Returns (deleteFolderObjectAsUser env actorId
          folderId objectKey) before returned after := by
        simp [Returns, run]
      refine iff_of_true ⟨fun _ => neverReturns, ?_, ?_⟩ ?_
      · intro _ row member _ _
        show row ∈ (deleteFolderObjectAsUser env actorId folderId objectKey
          before).2.db.folderObjects.rows
        rw [run, sameDb]
        exact member
      · rintro _ _ _ ⟨⟩ after returns
        exact absurd returns (neverReturns true after)
      · intro _ answered
        rw [threw] at answered
        cases answered
    · have returns : Returns (deleteFolderObjectAsUser env actorId folderId objectKey) before true
          world := run
      constructor
      · intro keeps _ _
        cases carriedOut : outcome.delete.carriedOut with
        | false => exact absurd returns (keeps.throws ⟨sent, carriedOut⟩ true world)
        | true =>
            refine ⟨rfl, ?_⟩
            intro folder isSame
            by_cases isBare : folder.contentLocation.keyPrefix = ""
            · exact .inl isBare
            · refine .inr fun inBucket => ?_
              apply (keeps.gone actorId folderId objectKey rfl world returns).1
              refine ⟨folder, isSame, inBucket, fun _ _ same => ?_⟩
              exact isBare (joinStoragePrefix_eq_key.mp same.symm)
      · intro safe
        obtain ⟨carriedOut, noPrefixed⟩ := safe sent answered
        refine ⟨?_, ?_, ?_⟩
        · rintro ⟨-, notCarriedOut⟩
          grind
        · rintro ⟨-, notCarriedOut⟩
          grind
        · rintro _ _ _ ⟨⟩ after isAfter
          have sameWorld : world = after := congrArg Prod.snd (run.symm.trans isAfter)
          rw [← sameWorld, deleted]
          refine ⟨?_, not_isRecorded_deleted found⟩
          rintro ⟨folder, isSame, inBucket, otherKey⟩
          rcases noPrefixed folder isSame with isBare | notInBucket
          · exact otherKey sent carriedOut (joinStoragePrefix_eq_key.mpr isBare).symm
          · exact notInBucket inBucket
  · refine iff_of_true ⟨?_, ?_, ?_⟩ fun isSent => absurd isSent sent
    · rintro ⟨isSent, -⟩
      exact absurd isSent sent
    · rintro ⟨isSent, -⟩
      exact absurd isSent sent
    · rintro _ _ _ ⟨⟩ after returns
      exact absurd returns (not_returns_delete_unsent sent)

end Deletion

/-! ### Re-indexing -/

section Reindexing

variable {env : Env} {outcome : StorageOutcome} {folderId : String}

theorem reindexPage_moves (env : Env) (folder : ResolvedFolder)
    (page : Except ApiError (List S3ObjectInternal)) :
    Moves (Indexes env folder.id fun _ => True) (reindexPage env folder page) := fun world =>
  ⟨(reindexPage_indexes env folder page world).1.mono fun _ _ => trivial, fun _ _ => trivial⟩

variable {before : World} {folder : ResolvedFolder}

/-- What a re-indexing of a folder that is found does: it empties the index, asks for the pages,
and indexes them. -/
theorem reindexFolder_found (answers : Answers env outcome)
    (found : getFolder env folderId before.db = .ok folder) :
    ∃ emptied, reindexFolder env folderId before =
        Action.each outcome.pages (reindexPage env folder) emptied ∧
      emptied.db = { before.db with
        folderObjects := before.db.folderObjects.delete fun object =>
          object.folderId == folder.id } := by
  rw [reindexFolder, bind_of_returns (Service.returns_check.mpr ⟨found, rfl⟩)]
  simp only [answers.pages]
  exact ⟨_, rfl, rfl⟩

theorem not_returns_pages {pages : List (Except ApiError (List S3ObjectInternal))}
    {error : ApiError} (failed : Except.error error ∈ pages) {after : World} :
    ¬ Returns (Action.each pages (reindexPage env folder)) before () after := by
  intro returns
  obtain ⟨reached, left, -, pageReturned, -⟩ :=
    returns_each_mem returns (fun page _ => reindexPage_moves env folder page) failed
  exact not_returns_error_bind pageReturned

/-- A row of the folder is not among the rows that a re-indexing leaves. -/
theorem not_mem_reindexed (answers : Answers env outcome)
    (found : getFolder env folderId before.db = .ok folder)
    (fresh : ∀ row ∈ before.db.folderObjects.rows, ∀ draw, row.id ≠ env.randomUUID draw)
    {row : FolderObject} (member : row ∈ before.db.folderObjects.rows)
    (isFolder : row.folderId = folderId) :
    row ∉ (reindexFolder env folderId before).2.db.folderObjects.rows := by
  obtain ⟨emptied, run, isEmptied⟩ := reindexFolder_found answers found
  have indexes : Indexes env folder.id (fun _ => True) emptied
      (reindexFolder env folderId before).2 := by
    rw [run]
    exact (Moves.each outcome.pages (fun page _ => reindexPage_moves env folder page) emptied).1
  intro stays
  rcases indexes.new row stays with ⟨old, isOld, same⟩ | ⟨-, -, draw, isDrawn⟩
  · have oldFolder : old.folderId = folder.id := by
      rw [← same.folderId, isFolder, getFolder_id found]
    have recorded : IsRecorded folder.id old.objectKey emptied.db := ⟨old, isOld, oldFolder, rfl⟩
    rw [isEmptied] at recorded
    exact not_isRecorded_delete recorded
  · exact fresh row member draw isDrawn

theorem keepsIndex_reindex_iff (answers : Answers env outcome) (bucket : List String)
    (before : World)
    (fresh : ∀ row ∈ before.db.folderObjects.rows, ∀ draw, row.id ≠ env.randomUUID draw) :
    KeepsIndex env outcome bucket before (.reindexFolder folderId) ↔
      IndexCall.IsSafe env outcome bucket before.db (.reindexFolder folderId) := by
  constructor
  · intro keeps failed folder found row member isFolder inBucket
    have stays := keeps.keeps ⟨⟨folder, found⟩, failed⟩ row member isFolder
      ⟨folder, found, inBucket⟩
    rw [IndexCall.run, discard_state] at stays
    exact not_mem_reindexed answers found fresh member isFolder stays
  · intro safe
    refine ⟨?_, ?_, ?_⟩
    · rintro ⟨⟨folder, found⟩, error, failed⟩ returned after returns
      obtain ⟨_, done, isDone, -⟩ := returns_bind.mp returns
      obtain ⟨emptied, run, -⟩ := reindexFolder_found answers found
      rw [Returns, run] at isDone
      exact not_returns_pages failed isDone
    · rintro ⟨-, failed⟩ row member isFolder ⟨folder, found, inBucket⟩
      exact absurd inBucket (safe failed folder found row member isFolder)
    · rintro _ _ _ ⟨⟩

end Reindexing

/-! ### Both calls -/

/-- A call keeps the index if and only if it is safe. -/
theorem keepsIndex_iff (env : Env) (outcome : StorageOutcome) (answers : Answers env outcome)
    (bucket : List String) (before : World)
    (fresh : ∀ row ∈ before.db.folderObjects.rows, ∀ draw, row.id ≠ env.randomUUID draw)
    (call : IndexCall) :
    KeepsIndex env outcome bucket before call ↔ call.IsSafe env outcome bucket before.db := by
  cases call with
  | deleteFolderObjectAsUser actorId folderId objectKey =>
      exact keepsIndex_delete_iff answers bucket before
  | reindexFolder folderId => exact keepsIndex_reindex_iff answers bucket before fresh

/-! ### A folder with one object -/

def mineObject : FolderObject where
  id := "object"
  objectKey := "a.jpg"
  filename := "a.jpg"
  eTag := ""
  sizeBytes := 1
  lastModified := 0
  hash := none
  contentMetadata := []
  folderId := "mine"
  mimeType := "image/jpeg"
  mediaType := .image
  createdAt := 0
  updatedAt := 0

/-- The folder below `photos`, with one object. -/
def oneObjectWorld : World :=
  { photosWorld with db := { photosWorld.db with folderObjects := .singleton mineObject } }

/-- The sample environment, with a storage service that answers as the outcome says. -/
def answering (outcome : StorageOutcome) : Env :=
  { Env.sample with
    s3 := { StorageBackend.sample with
      delete := fun _ _ => outcome.delete.answer
      list := fun _ _ => outcome.pages } }

theorem answers_answering (outcome : StorageOutcome) : Answers (answering outcome) outcome :=
  ⟨fun _ _ => rfl, fun _ _ => rfl⟩

theorem fresh_oneObject (outcome : StorageOutcome) :
    ∀ row ∈ oneObjectWorld.db.folderObjects.rows, ∀ draw,
      row.id ≠ (answering outcome).randomUUID draw := by
  intro row member draw same
  have isRow : row = mineObject := List.mem_singleton.mp member
  rw [isRow] at same
  have firstCharacters := congrArg (fun text => text.toList.take 1) same
  have drawn : ((answering outcome).randomUUID draw).toList.take 1 = ['u'] := by
    show ("uuid-" ++ toString draw).toList.take 1 = ['u']
    rw [String.toList_append]
    rfl
  rw [drawn] at firstCharacters
  exact absurd firstCharacters (by decide)

/-- A storage service that refuses the deletion, and has no second page. -/
def refusing : StorageOutcome where
  delete := .response 403
  pages := [.ok [], .error (.internal "Service unavailable")]

theorem keepsIndex_iff_refusing :
    KeepsIndex (answering refusing) refusing ["photos/a.jpg"] oneObjectWorld
        (.deleteFolderObjectAsUser "alice" "mine" "a.jpg") ↔
      IndexCall.IsSafe (answering refusing) refusing ["photos/a.jpg"] oneObjectWorld.db
        (.deleteFolderObjectAsUser "alice" "mine" "a.jpg") :=
  keepsIndex_iff (answering refusing) refusing (answers_answering refusing) ["photos/a.jpg"]
    oneObjectWorld (fresh_oneObject refusing) (.deleteFolderObjectAsUser "alice" "mine" "a.jpg")

/-- The refused deletion returns, and the row of the stored object is gone. -/
theorem not_keepsIndex : ¬ ∀ (env : Env) (outcome : StorageOutcome), Answers env outcome →
    ∀ (bucket : List String) (before : World),
      (∀ row ∈ before.db.folderObjects.rows, ∀ draw, row.id ≠ env.randomUUID draw) →
      ∀ call, KeepsIndex env outcome bucket before call := by
  intro keepsAlways
  have keeps := keepsAlways (answering refusing) refusing (answers_answering refusing)
    ["photos/a.jpg"] oneObjectWorld (fresh_oneObject refusing)
    (.deleteFolderObjectAsUser "alice" "mine" "a.jpg")
  have isOk : (deleteFolderObjectAsUser (answering refusing) "alice" "mine" "a.jpg"
      oneObjectWorld).1.isOk = true := by
    decide +kernel
  obtain ⟨returned, after, returns⟩ := returns_of_isOk isOk
  by_cases sent : DeleteIsSent (answering refusing) "alice" "mine" "a.jpg" oneObjectWorld.db
  · exact keeps.throws ⟨sent, rfl⟩ returned after returns
  · exact not_returns_delete_unsent sent returns

end Lombok.Folders
