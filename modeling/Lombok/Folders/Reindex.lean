import Lombok.Folders.StorageKey

/-!
Contract: which objects a folder has after it was re-indexed.

The storage service lists every key that starts with the characters of the
prefix, whether or not a separator follows them. `reindexFolder` cuts as many
characters off each listed key as the prefix and its separator have, so an
object beside the folder is recorded under what is left of its key.

Does not own: the other columns of a row, and the events of an indexed object.
-/

namespace Lombok.Folders

open Lombok.Core Lombok.Library Lombok.Library.Action Lombok.Apps Lombok.Tasks Lombok.Events

/-! ### The index of a folder -/

def IsRecorded (folderId key : String) (db : Database) : Prop :=
  ∃ row ∈ db.folderObjects.rows, row.folderId = folderId ∧ row.objectKey = key

/-- The columns that a refresh of a row leaves alone. -/
structure SameObject (old row : FolderObject) : Prop where
  id : row.id = old.id
  folderId : row.folderId = old.folderId
  objectKey : row.objectKey = old.objectKey

/-- Objects are added to the index of a folder, under admitted keys and drawn ids, and no object
is lost. -/
structure Indexes (env : Env) (folderId : String) (admitted : String → Prop)
    (before after : World) : Prop where
  kept : ∀ old ∈ before.db.folderObjects.rows,
    ∃ row ∈ after.db.folderObjects.rows, SameObject old row
  new : ∀ row ∈ after.db.folderObjects.rows,
    (∃ old ∈ before.db.folderObjects.rows, SameObject old row) ∨
      row.folderId = folderId ∧ admitted row.objectKey ∧ ∃ draw, row.id = env.randomUUID draw

theorem SameObject.rfl {row : FolderObject} : SameObject row row := ⟨.refl _, .refl _, .refl _⟩

theorem SameObject.trans {first second third : FolderObject} (left : SameObject first second)
    (right : SameObject second third) : SameObject first third :=
  ⟨right.id.trans left.id, right.folderId.trans left.folderId,
    right.objectKey.trans left.objectKey⟩

section Indexes

variable {env : Env} {folderId : String} {admitted : String → Prop} {before middle after : World}

theorem Indexes.of_same_objects (same : after.db.folderObjects = before.db.folderObjects) :
    Indexes env folderId admitted before after where
  kept old member := ⟨old, same ▸ member, .rfl⟩
  new row member := .inl ⟨row, same ▸ member, .rfl⟩

theorem Indexes.trans (first : Indexes env folderId admitted before middle)
    (second : Indexes env folderId admitted middle after) :
    Indexes env folderId admitted before after where
  kept old member := by
    obtain ⟨row, isRow, same⟩ := first.kept old member
    grind [second.kept, same.trans]
  new row member := by
    rcases second.new row member with ⟨old, isOld, same⟩ | late
    · rcases first.new old isOld with ⟨oldest, isOldest, still⟩ | ⟨isFolder, isKey, isDrawn⟩
      · exact .inl ⟨oldest, isOldest, still.trans same⟩
      · simp [same.folderId, same.objectKey, same.id, isFolder, isKey, isDrawn]
    · exact .inr late

instance : DatabaseRelation (Indexes env folderId admitted) where
  refl _ := Indexes.of_same_objects rfl
  trans _ _ _ := Indexes.trans
  of_same_db same := Indexes.of_same_objects (by rw [same])

theorem Indexes.mono {weaker : String → Prop} (indexes : Indexes env folderId admitted before after)
    (implies : ∀ key, admitted key → weaker key) : Indexes env folderId weaker before after where
  kept := indexes.kept
  new row member := (indexes.new row member).imp_right fun ⟨isFolder, isKey, isDrawn⟩ =>
    ⟨isFolder, implies _ isKey, isDrawn⟩

theorem Indexes.recorded (indexes : Indexes env folderId admitted before after) {key : String}
    (recorded : IsRecorded folderId key before.db) : IsRecorded folderId key after.db := by
  obtain ⟨old, member, isFolder, isKey⟩ := recorded
  obtain ⟨row, isRow, same⟩ := indexes.kept old member
  exact ⟨row, isRow, same.folderId.trans isFolder, same.objectKey.trans isKey⟩

theorem Indexes.recorded_cases (indexes : Indexes env folderId admitted before after) {key : String}
    (recorded : IsRecorded folderId key after.db) :
    IsRecorded folderId key before.db ∨ admitted key := by
  obtain ⟨row, member, isFolder, isKey⟩ := recorded
  rcases indexes.new row member with ⟨old, isOld, same⟩ | ⟨-, admits, -⟩
  · exact .inl ⟨old, isOld, same.folderId.symm.trans isFolder, same.objectKey.symm.trans isKey⟩
  · exact .inr (isKey ▸ admits)

end Indexes

/-! ### Writing one row -/

/-- A row is refreshed, a row is inserted, or nothing changes. -/
theorem upsertFolderObject_cases (new : FolderObject) (setsMedia : Bool) (world : World) :
    (∃ object, world.db.folderObjects.find? (FolderObject.isAt new.folderId new.objectKey) =
          some object ∧
        upsertFolderObject new setsMedia world = (.ok (FolderObject.refreshed new setsMedia object),
          { world with db := { world.db with
              folderObjects := world.db.folderObjects.update
                (FolderObject.isAt new.folderId new.objectKey)
                (FolderObject.refreshed new setsMedia) (keeps_refreshed new setsMedia) } })) ∨
      (∃ inserted, world.db.folderObjects.insert new = some inserted ∧
        upsertFolderObject new setsMedia world =
          (.ok new, { world with db := { world.db with folderObjects := inserted } })) ∨
      ∃ error, upsertFolderObject new setsMedia world = (.error error, world) := by
  unfold upsertFolderObject
  rw [bind_of_returns (Service.returns_query.mpr ⟨rfl, rfl⟩)]
  rcases found : world.db.folderObjects.find? (FolderObject.isAt new.folderId new.objectKey) with
    _ | object
  · rcases insertion : world.db.folderObjects.insert new with _ | inserted
    · exact .inr (.inr ⟨_, rfl⟩)
    · exact .inr (.inl ⟨inserted, rfl, rfl⟩)
  · exact .inl ⟨object, rfl, rfl⟩

variable {folderId : String} (env : Env) {folder : ResolvedFolder} {before after : World}
    {object : S3ObjectInternal}

theorem FolderObject.isAt_iff {objectKey : String} {object : FolderObject} :
    object.isAt folderId objectKey = true ↔
      object.folderId = folderId ∧ object.objectKey = objectKey := by
  unfold FolderObject.isAt
  rw [Bool.and_eq_true, beq_iff_eq, beq_iff_eq]

theorem sameObject_refreshed (condition : FolderObject → Bool) (new : FolderObject)
    (setsMedia : Bool) (old : FolderObject) :
    SameObject old (if condition old then FolderObject.refreshed new setsMedia old else old) := by
  split
  · exact ⟨rfl, rfl, rfl⟩
  · exact .rfl

theorem upsertFolderObject_indexes (new : FolderObject)
    (isDrawn : ∃ draw, new.id = env.randomUUID draw) (setsMedia : Bool) (world : World) :
    EnsuresAt (Indexes env new.folderId (· = new.objectKey)) (fun _ => True)
        (upsertFolderObject new setsMedia) world ∧
      ∀ record after, Returns (upsertFolderObject new setsMedia) world record after →
        IsRecorded new.folderId new.objectKey after.db := by
  rcases upsertFolderObject_cases new setsMedia world with
    ⟨object, found, refreshed⟩ | ⟨inserted, insertion, stored⟩ | ⟨error, threw⟩
  · have indexes : Indexes env new.folderId (· = new.objectKey) world
        (upsertFolderObject new setsMedia world).2 := by
      rw [refreshed]
      refine ⟨?_, ?_⟩
      · intro old member
        exact ⟨_, List.mem_map_of_mem member, sameObject_refreshed _ new setsMedia old⟩
      · intro row member
        obtain ⟨old, isOld, rfl⟩ := List.mem_map.mp member
        exact .inl ⟨old, isOld, sameObject_refreshed _ new setsMedia old⟩
    refine ⟨⟨indexes, fun _ _ => trivial⟩, ?_⟩
    intro record after returned
    have recorded : IsRecorded new.folderId new.objectKey world.db :=
      ⟨object, List.mem_of_find?_eq_some found, FolderObject.isAt_iff.mp (List.find?_some found)⟩
    have same : (upsertFolderObject new setsMedia world).2 = after := congrArg Prod.snd returned
    rw [← same]
    exact indexes.recorded recorded
  · unfold EnsuresAt Returns
    rw [stored]
    refine ⟨⟨⟨?_, ?_⟩, fun _ _ => trivial⟩, ?_⟩
    · intro old member
      exact ⟨old, (Table.mem_insert insertion).mpr (.inl member), .rfl⟩
    · intro row member
      rcases (Table.mem_insert insertion).mp member with old | rfl
      · exact .inl ⟨row, old, .rfl⟩
      · exact .inr ⟨rfl, rfl, isDrawn⟩
    · intro record after returned
      cases returned
      exact ⟨new, (Table.mem_insert insertion).mpr (.inr rfl), rfl, rfl⟩
  · simp [EnsuresAt, Returns, Std.Refl.refl, threw]

/-- Emitting an event leaves the folder objects alone. -/
theorem indexes_emitEvent (args : EmitEventArgs) {admitted : String → Prop} :
    Moves (Indexes env folderId admitted) (emitEvent env args) := by
  have grows : Moves (Grows (fun _ => True) (fun _ => True)) (emitEvent env args) :=
    moves_grows fun snapshot => moves_emitEvent env args (fun _ _ => trivial) fun _ _ => trivial
  intro world
  exact ⟨.of_same_objects (congrArg Database.folderObjects (grows world).1.rest :),
    fun _ _ => trivial⟩

theorem ensures_randomUUID {relation : World → World → Prop} [QuietRelation relation] :
    Ensures relation (fun id => ∃ draw, id = env.randomUUID draw) (Service.randomUUID env) := by
  refine Moves.bind (moves_gets _) fun draws => ?_
  refine Moves.bind Service.moves_draw fun _ => ?_
  exact ensures_pure ⟨draws, rfl⟩

theorem updateFolderObjectInDB_indexes (folderId objectKey : String)
    (updateRecord : FolderObjectUpdate) :
    Moves (Indexes env folderId (· = objectKey))
        (updateFolderObjectInDB env folderId objectKey updateRecord) ∧
      ∀ before record after,
        Returns (updateFolderObjectInDB env folderId objectKey updateRecord) before record after →
          IsRecorded folderId objectKey after.db := by
  have rest : ∀ record : FolderObject, Moves (Indexes env folderId (· = objectKey)) (do
      let data ← Action.ofExcept (folderObjectEventData record)
      emitEvent env
        { emitterIdentifier := coreIdentifier
          eventIdentifier := CoreEvent.identifier
            (if record.createdAt == record.updatedAt then .objectAdded else .objectUpdated)
          data := data
          targetLocation :=
            some { folderId := record.folderId, objectKey := some record.objectKey } }
      pure record) := by
    intro record
    refine Moves.bind (moves_ofExcept _) fun data => ?_
    exact Moves.bind (indexes_emitEvent env _) fun _ => moves_pure _
  constructor
  · refine Moves.bind (Service.moves_now env) fun now => ?_
    refine Ensures.bind (ensures_randomUUID env) fun id isDrawn => ?_
    refine Moves.bind ?_ rest
    intro world
    exact (upsertFolderObject_indexes env
      (newFolderObject env folderId objectKey id updateRecord now) isDrawn _ world).1
  · intro before record after returned
    obtain ⟨now, atNow, _, returned⟩ := returns_bind.mp returned
    obtain ⟨id, drawn, isDrawn, returned⟩ := returns_bind.mp returned
    obtain ⟨stored, written, upserted, returned⟩ := returns_bind.mp returned
    have recorded := (upsertFolderObject_indexes env
      (newFolderObject env folderId objectKey id updateRecord now)
      ⟨_, (Service.returns_randomUUID.mp isDrawn).1⟩ _ drawn).2 stored written upserted
    exact ((rest stored).of_returns returned).1.recorded recorded

/-! ### Indexing what is listed -/

theorem reindexObject_indexes (folder : ResolvedFolder) (object : S3ObjectInternal)
    {admitted : String → Prop}
    (admits : isIndexed folder.contentLocation.keyPrefix object = true →
      admitted (indexedObjectKey folder.contentLocation.keyPrefix object.key)) :
    Moves (Indexes env folder.id admitted) (reindexObject env folder object) := by
  unfold reindexObject
  dsimp only
  cases indexes : isIndexed folder.contentLocation.keyPrefix object with
  | false => exact moves_pure _
  | true =>
      refine Moves.bind (Service.moves_record _ _) fun _ => ?_
      refine Moves.bind ?_ fun _ => moves_pure _
      intro world
      have moved := ((updateFolderObjectInDB_indexes env folder.id
        (indexedObjectKey folder.contentLocation.keyPrefix object.key)
        { lastModified := some object.lastModified, size := some object.size,
          eTag := some object.eTag }).1 world).1
      refine ⟨moved.mono ?_, fun _ _ => trivial⟩
      rintro key rfl
      exact admits indexes

theorem returns_reindexObject {env : Env}
    (returned : Returns (reindexObject env folder object) before () after)
    (indexes : isIndexed folder.contentLocation.keyPrefix object = true) :
    IsRecorded folder.id (indexedObjectKey folder.contentLocation.keyPrefix object.key)
      after.db := by
  unfold reindexObject at returned
  dsimp only at returned
  rw [if_pos indexes] at returned
  obtain ⟨_, noted, _, returned⟩ := returns_bind.mp returned
  obtain ⟨record, updated, isUpdated, returned⟩ := returns_bind.mp returned
  obtain ⟨_, rfl⟩ := returns_pure.mp returned
  exact (updateFolderObjectInDB_indexes env folder.id _ _).2 noted record after isUpdated

def IsListedAs (keyPrefix : String) (listed : List S3ObjectInternal) (key : String) : Prop :=
  ∃ object ∈ listed, isIndexed keyPrefix object = true ∧
    indexedObjectKey keyPrefix object.key = key

/-- What `reindexFolder` does with a page, once it has arrived. -/
def reindexPage (env : Env) (folder : ResolvedFolder)
    (page : Except ApiError (List S3ObjectInternal)) : Service Unit := do
  let objects ← Action.ofExcept page
  Action.each objects (reindexObject env folder)

theorem reindexPage_indexes (folder : ResolvedFolder)
    (page : Except ApiError (List S3ObjectInternal)) :
    Moves (Indexes env folder.id fun key =>
        ∃ objects, page = .ok objects ∧
          IsListedAs folder.contentLocation.keyPrefix objects key)
      (reindexPage env folder page) := by
  refine Ensures.bind (ensures_ofExcept fun objects answered => answered) fun objects answered => ?_
  refine Moves.each objects fun object member => ?_
  exact reindexObject_indexes env folder object fun indexes =>
    ⟨objects, answered, object, member, indexes, rfl⟩

theorem returns_reindexPage {env : Env} {objects : List S3ObjectInternal}
    (returned : Returns (reindexPage env folder (.ok objects)) before () after)
    (member : object ∈ objects)
    (indexes : isIndexed folder.contentLocation.keyPrefix object = true) :
    IsRecorded folder.id (indexedObjectKey folder.contentLocation.keyPrefix object.key)
      after.db := by
  have moves : ∀ other ∈ objects, Moves (Indexes env folder.id fun _ => True)
      (reindexObject env folder other) :=
    fun other _ => reindexObject_indexes env folder other fun _ => trivial
  obtain ⟨here, done, _, objectReturned, onward⟩ :=
    returns_each_mem (returns_ok_bind.mp returned) moves member
  exact onward.recorded (returns_reindexObject objectReturned indexes)

theorem isRecorded_pages {env : Env} {pages : List (List S3ObjectInternal)}
    (returned : Returns (Action.each (pages.map Except.ok) (reindexPage env folder)) before ()
      after) :
    ∀ key, IsRecorded folder.id key after.db ↔ IsRecorded folder.id key before.db ∨
      IsListedAs folder.contentLocation.keyPrefix pages.flatten key := by
  have moves : ∀ page ∈ pages.map Except.ok, Moves (Indexes env folder.id
      (IsListedAs folder.contentLocation.keyPrefix pages.flatten))
      (reindexPage env folder page) := by
    intro page isPage world
    obtain ⟨objects, isObjects, rfl⟩ := List.mem_map.mp isPage
    refine ⟨(reindexPage_indexes env folder (.ok objects) world).1.mono ?_, fun _ _ => trivial⟩
    rintro key ⟨listed, same, object, member, indexedAs⟩
    cases same
    exact ⟨object, List.mem_flatten.mpr ⟨objects, isObjects, member⟩, indexedAs⟩
  have moved := ((Moves.each _ moves).of_returns returned).1
  intro key
  constructor
  · exact moved.recorded_cases
  · rintro (early | ⟨object, member, indexes, rfl⟩)
    · exact moved.recorded early
    · obtain ⟨page, isPage, inPage⟩ := List.mem_flatten.mp member
      obtain ⟨reached, left, _, pageReturned, onward⟩ :=
        returns_each_mem returned moves (List.mem_map_of_mem isPage)
      exact onward.recorded (returns_reindexPage pageReturned inPage indexes)

/-! ### Against the bucket -/

/-- The storage service lists the objects whose keys start with the prefix, split into pages in
any way. -/
def ListsBucket (env : Env) (location : FolderStorageTarget) (bucket : List S3ObjectInternal) :
    Prop :=
  ∀ request, ∃ pages : List (List S3ObjectInternal),
    env.s3.list request location = pages.map Except.ok ∧
      ∀ object, object ∈ pages.flatten ↔
        object ∈ bucket ∧ startsWith location.keyPrefix object.key = true

/-- The bucket has a non-empty object of the folder at the key, and the key is none of the
platform's. -/
def IsInBucket (bucket : List S3ObjectInternal) (keyPrefix key : String) : Prop :=
  startsWith ".lombok_" key = false ∧
    ∃ object ∈ bucket, object.key = joinStoragePrefix keyPrefix key ∧ object.size > 0

/-- The folder has exactly the objects that are in the bucket. -/
def IndexIsExact (folderId keyPrefix : String) (bucket : List S3ObjectInternal) (db : Database) :
    Prop :=
  ∀ key, IsRecorded folderId key db ↔ IsInBucket bucket keyPrefix key

/-- What is left of the key of an object that is listed and not passed over is the key of an
object of the folder. -/
def NothingBeside (keyPrefix : String) (bucket : List S3ObjectInternal) : Prop :=
  ∀ object ∈ bucket, startsWith keyPrefix object.key = true →
    isIndexed keyPrefix object = true → ∃ other ∈ bucket,
      other.key = joinStoragePrefix keyPrefix (indexedObjectKey keyPrefix object.key) ∧
        other.size > 0

theorem startsWith_join (keyPrefix key : String) :
    startsWith keyPrefix (joinStoragePrefix keyPrefix key) = true := by
  simp [startsWith, toList_joinStoragePrefix, KeyPrefix.prefix_join]

theorem indexedObjectKey_join (keyPrefix key : String) :
    indexedObjectKey keyPrefix (joinStoragePrefix keyPrefix key) = key := by
  have below : KeyPrefix.root '/' keyPrefix.toList <+:
      (joinStoragePrefix keyPrefix key).toList := by
    rw [toList_joinStoragePrefix]
    exact List.prefix_append _ _
  exact (joinStoragePrefix_injective (joinStoragePrefix_indexed.mpr below)).symm

theorem isIndexed_iff {keyPrefix : String} :
    isIndexed keyPrefix object = true ↔
      startsWith ".lombok_" (indexedObjectKey keyPrefix object.key) = false ∧ object.size > 0 := by
  simp [isIndexed]

theorem isListedAs_of_isInBucket {keyPrefix key : String} {bucket listed : List S3ObjectInternal}
    (lists : ∀ object, object ∈ listed ↔
      object ∈ bucket ∧ startsWith keyPrefix object.key = true)
    (stored : IsInBucket bucket keyPrefix key) : IsListedAs keyPrefix listed key := by
  obtain ⟨visible, object, member, isKey, isFull⟩ := stored
  have indexedAs : indexedObjectKey keyPrefix object.key = key := by
    rw [isKey, indexedObjectKey_join]
  refine ⟨object, (lists object).mpr ⟨member, ?_⟩, isIndexed_iff.mpr ⟨?_, isFull⟩, indexedAs⟩
  · rw [isKey, startsWith_join]
  · rw [indexedAs, visible]

/-- The rows of the folder are gone once they were deleted. -/
theorem not_isRecorded_delete {key : String} {db : Database} :
    ¬ IsRecorded folderId key { db with
      folderObjects := db.folderObjects.delete fun object => object.folderId == folderId } := by
  rintro ⟨row, member, isFolder, -⟩
  have outside : (!(row.folderId == folderId)) = true := (List.mem_filter.mp member).2
  rw [isFolder, beq_self_eq_true] at outside
  cases outside

/-- A re-indexing that returns leaves the keys of what was listed. -/
theorem isRecorded_reindexFolder {env : Env} (found : getFolder env folderId before.db = .ok folder)
    {bucket : List S3ObjectInternal} (lists : ListsBucket env folder.contentLocation bucket)
    (returned : Returns (reindexFolder env folderId) before () after) :
    ∃ listed, (∀ object, object ∈ listed ↔
        object ∈ bucket ∧ startsWith folder.contentLocation.keyPrefix object.key = true) ∧
      ∀ key, IsRecorded folderId key after.db ↔
        IsListedAs folder.contentLocation.keyPrefix listed key := by
  obtain ⟨resolved, checked, isResolved, returned⟩ := returns_bind.mp returned
  obtain ⟨isFolder, rfl⟩ := Service.returns_check.mp isResolved
  rw [found] at isFolder
  cases isFolder
  obtain ⟨_, emptied, isEmptied, returned⟩ := returns_bind.mp returned
  cases returns_modify.mp isEmptied
  obtain ⟨answers, reached, isListed, returned⟩ := returns_bind.mp returned
  obtain ⟨pages, isPages, lists⟩ := lists checked.draws
  obtain ⟨draws, _, isDraws, isListed⟩ := returns_bind.mp isListed
  obtain ⟨rfl, rfl⟩ := returns_gets.mp isDraws
  obtain ⟨_, _, isDrawn, isListed⟩ := returns_bind.mp isListed
  cases returns_modify.mp isDrawn
  obtain ⟨answered, rfl⟩ := returns_ofExcept.mp isListed
  cases answered
  refine ⟨pages.flatten, lists, ?_⟩
  dsimp only at returned
  rw [isPages] at returned
  intro key
  rw [← getFolder_id found, isRecorded_pages returned key, getFolder_id found]
  exact or_iff_right not_isRecorded_delete

/-- After a re-indexing the index is exact if and only if nothing beside the folder is listed. -/
theorem indexIsExact_iff (env : Env) (folderId : String) (before after : World)
    (folder : ResolvedFolder) (found : getFolder env folderId before.db = .ok folder)
    (bucket : List S3ObjectInternal) (lists : ListsBucket env folder.contentLocation bucket)
    (returned : Returns (reindexFolder env folderId) before () after) :
    IndexIsExact folderId folder.contentLocation.keyPrefix bucket after.db ↔
      NothingBeside folder.contentLocation.keyPrefix bucket := by
  obtain ⟨listed, isListed, recorded⟩ := isRecorded_reindexFolder found lists returned
  constructor
  · intro exactly object member starts indexes
    have isRecorded := (recorded _).mpr
      ⟨object, (isListed object).mpr ⟨member, starts⟩, indexes, rfl⟩
    exact ((exactly _).mp isRecorded).2
  · intro nothing key
    rw [recorded key]
    constructor
    · rintro ⟨object, member, indexes, rfl⟩
      obtain ⟨inBucket, starts⟩ := (isListed object).mp member
      exact ⟨(isIndexed_iff.mp indexes).1, nothing object inBucket starts indexes⟩
    · exact isListedAs_of_isInBucket isListed

/-! ### A bucket with a folder beside -/

def sampleLocation : StorageLocation where
  id := "location"
  accessKeyHashId := "hash"
  kind := .user
  label := "S3"
  endpoint := "https://s3.example.com"
  region := "auto"
  accessKeyId := "key"
  secretAccessKey := "secret"
  bucket := "bucket"
  keyPrefix := "photos"
  userId := "alice"

/-- A folder stored below `photos`. -/
def photosWorld : World where
  db :=
    { folders := .singleton
        { id := "mine", name := "Mine", ownerId := "alice", contentLocationId := some "location",
          createdAt := 0, updatedAt := 0 }
      storageLocations := .singleton sampleLocation }

def stored (key : String) : S3ObjectInternal where
  key := key
  size := 1
  eTag := ""
  lastModified := 0

/-- An environment whose bucket lists the objects, each on a page of its own. -/
def listing (objects : List S3ObjectInternal) : Env :=
  { Env.sample with
    s3 := { StorageBackend.sample with
      list := fun _ _ => (objects.map fun object => [object]).map Except.ok } }

theorem listsBucket_listing {objects : List S3ObjectInternal} {location : FolderStorageTarget}
    (all : objects.all fun object => startsWith location.keyPrefix object.key) :
    ListsBucket (listing objects) location objects := by
  intro request
  refine ⟨objects.map fun object => [object], rfl, ?_⟩
  intro object
  rw [List.mem_flatten]
  constructor
  · rintro ⟨page, isPage, member⟩
    obtain ⟨other, isOther, rfl⟩ := List.mem_map.mp isPage
    rw [List.mem_singleton.mp member]
    exact ⟨isOther, List.all_eq_true.mp all other isOther⟩
  · grind [List.mem_map_of_mem]

def photosFolder : ResolvedFolder where
  id := "mine"
  name := "Mine"
  ownerId := "alice"
  contentLocationId := some "location"
  createdAt := 0
  updatedAt := 0
  contentLocation := sampleLocation.toTarget
  metadataLocation :=
    { id := none, userId := none, kind := .builtin, label := "Built-in storage",
      endpoint := "http://s3.localhost", region := "auto", bucket := "provisions",
      keyPrefix := ".lombok_provision__user_alice_folder_mine/.lombok_folder_metadata_mine",
      accessKeyId := "key", accessKeyHashId := "http://s3.localhost:key",
      secretAccessKey := "secret" }

theorem getFolder_photos (objects : List S3ObjectInternal) :
    getFolder (listing objects) "mine" photosWorld.db = .ok photosFolder := by
  have found : getFolder Env.sample "mine" photosWorld.db = .ok photosFolder := by decide +kernel
  exact found

/-- One object of the folder, and one of the platform. -/
def ownObjects : List S3ObjectInternal :=
  [stored "photos/a.jpg", stored "photos/.lombok_x"]

theorem indexIsExact_iff_own :
    ∃ after, Returns (reindexFolder (listing ownObjects) "mine") photosWorld () after ∧
      (IndexIsExact "mine" photosFolder.contentLocation.keyPrefix ownObjects after.db ↔
        NothingBeside photosFolder.contentLocation.keyPrefix ownObjects) := by
  have isOk : (reindexFolder (listing ownObjects) "mine" photosWorld).1.isOk = true := by
    decide +kernel
  obtain ⟨_, after, returned⟩ := returns_of_isOk isOk
  exact ⟨after, returned, indexIsExact_iff (listing ownObjects) "mine" photosWorld after
    photosFolder (getFolder_photos ownObjects) ownObjects
    (listsBucket_listing (by decide)) returned⟩

def besideObjects : List S3ObjectInternal := [stored "photos/a.jpg", stored "photos-old/b.jpg"]

/-- The object of the folder beside is recorded in this one. -/
theorem not_indexIsExact : ¬ ∀ (env : Env) (folderId : String) (before after : World)
    (folder : ResolvedFolder), getFolder env folderId before.db = .ok folder →
    ∀ bucket, ListsBucket env folder.contentLocation bucket →
      Returns (reindexFolder env folderId) before () after →
      IndexIsExact folderId folder.contentLocation.keyPrefix bucket after.db := by
  intro exactly
  let reached := (reindexFolder (listing besideObjects) "mine" photosWorld).2
  -- the run is evaluated once, for both facts
  have evaluated : ((reindexFolder (listing besideObjects) "mine" photosWorld).1.isOk &&
      reached.db.folderObjects.rows.any (FolderObject.isAt "mine" "old/b.jpg")) = true := by
    decide +kernel
  obtain ⟨isOk, listed⟩ := (Bool.and_eq_true _ _).mp evaluated
  obtain ⟨_, after, returned⟩ := returns_of_isOk isOk
  have recorded : IsRecorded "mine" "old/b.jpg" reached.db := by
    obtain ⟨row, member, isAt⟩ := List.any_eq_true.mp listed
    exact ⟨row, member, FolderObject.isAt_iff.mp isAt⟩
  have stays : reached = after := congrArg Prod.snd returned
  rw [stays] at recorded
  obtain ⟨-, object, member, isKey, -⟩ := (exactly (listing besideObjects) "mine" photosWorld after
    photosFolder (getFolder_photos besideObjects) besideObjects
    (listsBucket_listing (by decide)) returned "old/b.jpg").mp recorded
  have noSuchObject : ∀ object ∈ besideObjects,
      object.key ≠ joinStoragePrefix photosFolder.contentLocation.keyPrefix "old/b.jpg" := by
    decide
  exact noSuchObject object member isKey

end Lombok.Folders
