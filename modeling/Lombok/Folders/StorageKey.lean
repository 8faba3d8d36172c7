import Lombok.Events.Trace
import Lombok.Folders.Objects

/-!
Contract: which storage key the operations on a folder object go to.

The one key of an object is its key below the prefix of its folder. The
operations build it by expressions of their own; `oneStorageKey_iff` says for
which prefixes and keys each of them arrives at it.
-/

namespace Lombok.Folders

open Lombok.Core Lombok.Library Lombok.Library.Action Lombok.Apps Lombok.Tasks Lombok.Events

/-! ### Calls and what they address -/

inductive ObjectCall where
  | presign (actorId folderId : String) (urls : List SignedURLsRequest)
  | refresh (actorId folderId objectKey : String) (eTag : Option String)
  | delete (actorId folderId objectKey : String)
  | reindexObject (folderId : String) (object : S3ObjectInternal)
deriving Inhabited

def performObjectCall (env : Env) : ObjectCall → Service Unit
  | .presign actorId folderId urls => do
      let _ ← createPresignedUrlsAsUser env actorId folderId urls
      pure ()
  | .refresh actorId folderId objectKey eTag => do
      let _ ← refreshFolderObjectS3MetadataAsUser env actorId folderId objectKey eTag
      pure ()
  | .delete actorId folderId objectKey => do
      let _ ← deleteFolderObjectAsUser env actorId folderId objectKey
      pure ()
  | .reindexObject folderId object => do
      let folder ← Service.check (getFolder env folderId)
      reindexObject env folder object

def storageAccess? (effect : Effect) : Option StorageAccess :=
  match effect.action with
  | .storageAccessed access => some access
  | _ => none

/-- The storage keys addressed so far. -/
def storageAccesses (world : World) : List StorageAccess :=
  world.effects.filterMap storageAccess?

/-- The storage keys a call addresses. -/
def accessesOf (env : Env) (call : ObjectCall) (world : World) : List StorageAccess :=
  (storageAccesses (performObjectCall env call world).2).drop (storageAccesses world).length

def locationFor (folder : ResolvedFolder) : LocationPurpose → FolderStorageTarget
  | .content => folder.contentLocation
  | .metadata => folder.metadataLocation

/-- Every storage key a call addresses is the one key of its object, and the key of no other
object, of the folder or of a folder beside it in the bucket. -/
structure OneStorageKey (env : Env) (call : ObjectCall) (world : World) : Prop where
  own : ∀ access ∈ accessesOf env call world, ∀ folder,
    getFolder env access.folderId world.db = .ok folder →
    access.bucket = (locationFor folder access.purpose).bucket ∧
      access.storageKey =
        joinStoragePrefix (locationFor folder access.purpose).keyPrefix access.objectKey
  apart : ∀ access ∈ accessesOf env call world, ∀ folder otherId other otherKey,
    getFolder env access.folderId world.db = .ok folder →
    getFolder env otherId world.db = .ok other →
    (otherId, otherKey) ≠ (access.folderId, access.objectKey) →
    (otherId = access.folderId ∨
      KeyPrefix.PrefixFree (locationFor folder access.purpose).keyPrefix.toList
        (locationFor other access.purpose).keyPrefix.toList) →
    access.storageKey ≠ joinStoragePrefix (locationFor other access.purpose).keyPrefix otherKey

/-- The requests none of which is refused with these permissions. -/
def presignAllowed (permissions : List FolderPermissionName) (urls : List SignedURLsRequest) :
    Bool :=
  urls.all fun url =>
    ((url.method != .delete && url.method != .put) || permissions.contains .objectEdit) &&
      match url.objectIdentifier with
      | .metadata _ _ => url.method == .get
      | .content _ => true

def KeyAgrees (env : Env) (db : Database) : ObjectCall → Prop
  | .presign actorId folderId urls =>
      ∀ access, getFolderAsUser env actorId folderId db = .ok access →
        presignAllowed access.permissions urls = true →
        ∀ url ∈ urls, resolvedObjectKey url = url.objectIdentifier.objectKey
  | .refresh actorId folderId _ _ =>
      ∀ access, getFolderAsUser env actorId folderId db = .ok access →
        access.folder.contentLocation.keyPrefix ≠ ""
  | .delete actorId folderId objectKey =>
      ∀ access, getFolderAsUser env actorId folderId db = .ok access →
        access.permissions.contains .objectEdit = true →
        (findFolderObject folderId objectKey db).isSome = true →
        access.folder.contentLocation.keyPrefix = ""
  | .reindexObject folderId object =>
      ∀ folder, getFolder env folderId db = .ok folder →
        isIndexed folder.contentLocation.keyPrefix object = true →
        KeyPrefix.root '/' folder.contentLocation.keyPrefix.toList <+: object.key.toList

/-! ### Keys -/

variable {keyPrefix key : String} (env : Env) {folderId : String} {db : Database}
    {folder : ResolvedFolder}

theorem joinStoragePrefix_injective {otherKey : String}
    (joined : joinStoragePrefix keyPrefix key = joinStoragePrefix keyPrefix otherKey) :
    key = otherKey := by
  have joinedLists := congrArg String.toList joined
  grind [toList_joinStoragePrefix, String.toList_injective, KeyPrefix.join_injective]

theorem joinStoragePrefix_eq_key :
    key = joinStoragePrefix keyPrefix key ↔ keyPrefix = "" := by
  rw [← String.toList_inj, toList_joinStoragePrefix, eq_comm, KeyPrefix.join_eq_self,
    String.toList_eq_nil_iff]

/-- The root of a prefix that is there, in the source's words. -/
theorem root_of_nonempty (nonempty : keyPrefix ≠ "") :
    KeyPrefix.root '/' keyPrefix.toList =
      keyPrefix.toList ++ if endsWithSlash keyPrefix then [] else ['/'] := by
  grind [KeyPrefix.root, endsWithSlash, String.toList_eq_nil_iff.mp]

theorem refreshedStorageKey_eq :
    refreshedStorageKey keyPrefix key = joinStoragePrefix keyPrefix key ↔ keyPrefix ≠ "" := by
  constructor
  · rintro same rfl
    have sameLength := congrArg (fun text => text.toList.length) same
    simp [refreshedStorageKey, joinStoragePrefix, endsWithSlash] at sameLength
  · intro nonempty
    rw [← String.toList_inj, toList_joinStoragePrefix]
    unfold KeyPrefix.join refreshedStorageKey
    rw [root_of_nonempty nonempty, String.toList_append, String.toList_append]
    split
    · rfl
    · rfl

theorem joinStoragePrefix_indexed {storageKey : String} :
    storageKey = joinStoragePrefix keyPrefix (indexedObjectKey keyPrefix storageKey) ↔
      KeyPrefix.root '/' keyPrefix.toList <+: storageKey.toList := by
  rw [← String.toList_inj, toList_joinStoragePrefix, eq_comm]
  by_cases empty : keyPrefix = ""
  · rw [empty]
    simp [indexedObjectKey, KeyPrefix.join, KeyPrefix.root]
  · have rootLength : (KeyPrefix.root '/' keyPrefix.toList).length =
        keyPrefix.length + if endsWithSlash keyPrefix then 0 else 1 := by
      grind [root_of_nonempty, String.length_toList]
    rw [indexedObjectKey, if_neg empty, String.toList_ofList, ← rootLength]
    exact KeyPrefix.join_drop_root

/-! ### What each call addresses -/

/-- Calls that address no storage key. -/
abbrev Silent : World → World → Prop := Traces fun effect => storageAccess? effect = none

theorem storageAccesses_of_silent {before after : World} (silent : Silent before after) :
    storageAccesses after = storageAccesses before := by
  obtain ⟨added, equal, none⟩ := silent
  grind [storageAccesses, List.filterMap_eq_nil_iff.mpr]

/-- A noted access is added to those addressed so far. -/
theorem storageAccesses_record {α : Type} (actor : String) (access : StorageAccess)
    {next : Service α} (silent : Moves Silent next) (world : World) :
    storageAccesses ((Service.record actor (.storageAccessed access) >>= fun _ => next) world).2 =
      storageAccesses world ++ [access] := by
  have recorded : Returns (Service.record actor (.storageAccessed access)) world ()
      { world with effects :=
          world.effects ++ [{ actor := actor, action := .storageAccessed access }] } := rfl
  rw [bind_of_returns recorded, storageAccesses_of_silent (silent _).1]
  rw [storageAccesses, List.filterMap_append]
  rfl

theorem storageAccesses_each (actor : String) (items : List ResolvedSignedURL) (world : World) :
    storageAccesses ((Action.each items fun item =>
        Service.record actor (.storageAccessed item.access)) world).2 =
      storageAccesses world ++ items.map (·.access) := by
  induction items generalizing world with
  | nil => simp [Action.each, Action.pure]
  | cons head tail inductionHypothesis =>
      have recorded : Returns (Service.record actor (.storageAccessed head.access)) world ()
          { world with effects :=
              world.effects ++ [{ actor := actor, action := .storageAccessed head.access }] } := rfl
      show storageAccesses ((Service.record actor (.storageAccessed head.access) >>= fun _ =>
        Action.each tail _) world).2 = _
      rw [bind_of_returns recorded, inductionHypothesis]
      rw [storageAccesses, List.filterMap_append, List.append_assoc]
      rfl

theorem silent_updateFolderObjectInDB (folderId objectKey : String)
    (updateRecord : FolderObjectUpdate) :
    Moves Silent (updateFolderObjectInDB env folderId objectKey updateRecord) := by
  refine Moves.bind (Service.moves_now env) fun now => ?_
  refine Moves.bind (Service.moves_randomUUID env) fun id => ?_
  refine Moves.bind ?_ fun record => ?_
  · refine Moves.bind (Service.moves_query _) fun objects => ?_
    split
    · exact Moves.bind (Service.leaves_write _) fun _ => moves_pure _
    · refine Moves.bind (moves_orThrow _ _) fun inserted => ?_
      exact Moves.bind (Service.leaves_write _) fun _ => moves_pure _
  · refine Moves.bind (moves_ofExcept _) fun data => ?_
    refine Moves.bind (moves_traces_mono (traces_emitEvent env _) ?_) fun _ => moves_pure _
    rintro ⟨actor, action⟩ emission
    cases action with
    | storageAccessed access => exact emission.action.elim
    | _ => rfl

def presignedAccess (folder : ResolvedFolder) (url : SignedURLsRequest) : StorageAccess :=
  match url.objectIdentifier with
  | .metadata objectKey metadataHash =>
      { operation := .presigned url.method, purpose := .metadata, folderId := folder.id,
        objectKey := objectKey ++ "/" ++ metadataHash, bucket := folder.metadataLocation.bucket,
        storageKey := joinStoragePrefix folder.metadataLocation.keyPrefix
          (resolvedObjectKey url ++ "/" ++ metadataHash) }
  | .content objectKey =>
      { operation := .presigned url.method, purpose := .content, folderId := folder.id,
        objectKey := objectKey, bucket := folder.contentLocation.bucket,
        storageKey := joinStoragePrefix folder.contentLocation.keyPrefix (resolvedObjectKey url) }

theorem resolveSignedURL_cases (access : FolderAccess) (url : SignedURLsRequest) :
    (presignAllowed access.permissions [url] = true ∧ ∃ resolved,
        resolveSignedURL access url = .ok resolved ∧
          resolved.access = presignedAccess access.folder url) ∨
      (presignAllowed access.permissions [url] = false ∧ ∃ error,
        resolveSignedURL access url = .error error) := by
  obtain ⟨identifier, method, literal⟩ := url
  unfold resolveSignedURL presignAllowed presignedAccess
  by_cases edits : FolderPermissionName.objectEdit ∈ access.permissions
  · cases identifier with
    | content objectKey => cases method <;> simp [edits]
    | metadata objectKey metadataHash => cases method <;> simp [edits]
  · cases identifier with
    | content objectKey => cases method <;> simp [edits]
    | metadata objectKey metadataHash => cases method <;> simp [edits]

theorem presignAllowed_cons (permissions : List FolderPermissionName) (url : SignedURLsRequest)
    (rest : List SignedURLsRequest) :
    presignAllowed permissions (url :: rest) =
      (presignAllowed permissions [url] && presignAllowed permissions rest) := by
  simp [presignAllowed]

/-- The requests are resolved together, or one of them is refused. -/
theorem resolveSignedURLs_cases (access : FolderAccess) (urls : List SignedURLsRequest) :
    (presignAllowed access.permissions urls = true ∧ ∃ resolved,
        resolveSignedURLs access urls = .ok resolved ∧
          resolved.map (·.access) = urls.map (presignedAccess access.folder)) ∨
      (presignAllowed access.permissions urls = false ∧ ∃ error,
        resolveSignedURLs access urls = .error error) := by
  induction urls with
  | nil => exact .inl ⟨rfl, [], rfl, rfl⟩
  | cons url rest inductionHypothesis =>
      rw [presignAllowed_cons]
      unfold resolveSignedURLs
      rcases resolveSignedURL_cases access url with
        ⟨allowed, resolved, isResolved, isAccess⟩ | ⟨refused, error, threw⟩
      · rcases inductionHypothesis with
          ⟨restAllowed, others, areResolved, areAccesses⟩ | ⟨refused, error, threw⟩
        · refine .inl ⟨by rw [allowed, restAllowed]; rfl, resolved :: others, ?_, ?_⟩
          · rw [isResolved, areResolved]
            rfl
          · rw [List.map_cons, List.map_cons, isAccess, areAccesses]
        · refine .inr ⟨by rw [refused, Bool.and_false], error, ?_⟩
          rw [isResolved, threw]
          rfl
      · refine .inr ⟨by rw [refused, Bool.false_and], error, ?_⟩
        rw [threw]
        rfl

/-- The accesses of a presign call, read off the state before it. -/
def presignedBy (env : Env) (actorId folderId : String) (urls : List SignedURLsRequest)
    (db : Database) : List StorageAccess :=
  match getFolderAsUser env actorId folderId db with
  | .error _ => []
  | .ok access =>
      if presignAllowed access.permissions urls then urls.map (presignedAccess access.folder)
      else []

def refreshedBy (env : Env) (actorId folderId objectKey : String) (db : Database) :
    List StorageAccess :=
  match getFolderAsUser env actorId folderId db with
  | .error _ => []
  | .ok access =>
      [{ operation := .head, purpose := .content, folderId := folderId, objectKey := objectKey,
         bucket := access.folder.contentLocation.bucket,
         storageKey := refreshedStorageKey access.folder.contentLocation.keyPrefix objectKey }]

def deletedBy (env : Env) (actorId folderId objectKey : String) (db : Database) :
    List StorageAccess :=
  match getFolderAsUser env actorId folderId db with
  | .error _ => []
  | .ok access =>
      if access.permissions.contains .objectEdit && (findFolderObject folderId objectKey db).isSome
      then
        [{ operation := .delete, purpose := .content, folderId := folderId, objectKey := objectKey,
           bucket := access.folder.contentLocation.bucket, storageKey := objectKey }]
      else
        []

def indexedBy (env : Env) (folderId : String) (object : S3ObjectInternal) (db : Database) :
    List StorageAccess :=
  match getFolder env folderId db with
  | .error _ => []
  | .ok folder =>
      if isIndexed folder.contentLocation.keyPrefix object then
        [{ operation := .index, purpose := .content, folderId := folder.id,
           objectKey := indexedObjectKey folder.contentLocation.keyPrefix object.key,
           bucket := folder.contentLocation.bucket, storageKey := object.key }]
      else
        []

def addressedBy (env : Env) (db : Database) : ObjectCall → List StorageAccess
  | .presign actorId folderId urls => presignedBy env actorId folderId urls db
  | .refresh actorId folderId objectKey _ => refreshedBy env actorId folderId objectKey db
  | .delete actorId folderId objectKey => deletedBy env actorId folderId objectKey db
  | .reindexObject folderId object => indexedBy env folderId object db

/-- What comes after the accesses of a call addresses nothing. -/
theorem storageAccesses_then {α β : Type} {operation : Service α} {next : α → Service β}
    (silent : ∀ value, Moves Silent (next value)) (world : World) :
    storageAccesses ((operation >>= next) world).2 = storageAccesses (operation world).2 := by
  rcases executed : operation world with ⟨error | value, after⟩
  · rw [bind_of_throws executed]
  · rw [bind_of_returns executed]
    exact storageAccesses_of_silent (silent value after).1

theorem storageAccesses_presign (actorId folderId : String) (urls : List SignedURLsRequest)
    (world : World) :
    storageAccesses (createPresignedUrlsAsUser env actorId folderId urls world).2 =
      storageAccesses world ++ presignedBy env actorId folderId urls world.db := by
  unfold createPresignedUrlsAsUser presignedBy
  rcases found : getFolderAsUser env actorId folderId world.db with error | access
  · rw [bind_of_throws (Service.check_throws found), List.append_nil]
  · rw [bind_of_returns (Service.returns_check.mpr ⟨found, rfl⟩)]
    rcases resolveSignedURLs_cases access urls with
      ⟨allowed, resolved, isResolved, areAccesses⟩ | ⟨refused, error, threw⟩
    · rw [bind_of_returns (returns_ofExcept.mpr ⟨isResolved, rfl⟩),
        storageAccesses_then fun _ => moves_pure _]
      simp [storageAccesses_each, allowed, areAccesses]
    · have ended : ofExcept (resolveSignedURLs access urls) world = (.error error, world) := by
        rw [threw]
        rfl
      rw [bind_of_throws ended]
      simp only [refused, Bool.false_eq_true, if_false, List.append_nil]

theorem storageAccesses_refresh (actorId folderId objectKey : String) (eTag : Option String)
    (world : World) :
    storageAccesses (refreshFolderObjectS3MetadataAsUser env actorId folderId objectKey eTag
        world).2 =
      storageAccesses world ++ refreshedBy env actorId folderId objectKey world.db := by
  unfold refreshFolderObjectS3MetadataAsUser refreshedBy
  rcases found : getFolderAsUser env actorId folderId world.db with error | access
  · rw [bind_of_throws (Service.check_throws found), List.append_nil]
  · rw [bind_of_returns (Service.returns_check.mpr ⟨found, rfl⟩)]
    apply storageAccesses_record
    refine Moves.bind (Service.leaves_s3 _) fun headResponse => ?_
    refine Moves.bind (moves_require _ _) fun _ => ?_
    exact silent_updateFolderObjectInDB env folderId objectKey headResponse

theorem storageAccesses_delete (actorId folderId objectKey : String) (world : World) :
    storageAccesses (deleteFolderObjectAsUser env actorId folderId objectKey world).2 =
      storageAccesses world ++ deletedBy env actorId folderId objectKey world.db := by
  unfold deleteFolderObjectAsUser deletedBy
  rcases found : getFolderAsUser env actorId folderId world.db with error | access
  · rw [bind_of_throws (Service.check_throws found), List.append_nil]
  · rw [bind_of_returns (Service.returns_check.mpr ⟨found, rfl⟩)]
    cases edits : access.permissions.contains FolderPermissionName.objectEdit with
    | false =>
        rw [bind_of_throws (require_throws rfl _ world)]
        simp only [edits, Bool.false_and, Bool.false_eq_true, if_false, List.append_nil]
    | true =>
        rw [bind_of_returns (require_returns rfl _ world)]
        rcases stored : findFolderObject folderId objectKey world.db with _ | object
        · have missing : getFolderObject folderId objectKey world.db =
              .error (folderObjectNotFoundException folderId objectKey) := by
            rw [getFolderObject, stored]
          rw [bind_of_throws (Service.check_throws missing)]
          simp
        · have present : getFolderObject folderId objectKey world.db = .ok object := by
            rw [getFolderObject, stored]
          rw [bind_of_returns (Service.returns_check.mpr ⟨present, rfl⟩)]
          simp only [edits, Option.isSome_some, Bool.and_true, if_true]
          apply storageAccesses_record
          refine Moves.bind (Service.leaves_s3 _) fun _ => ?_
          exact Moves.bind (Service.leaves_write _) fun _ => moves_pure _

theorem storageAccesses_reindexObject (folderId : String) (object : S3ObjectInternal)
    (world : World) :
    storageAccesses (performObjectCall env (.reindexObject folderId object) world).2 =
      storageAccesses world ++ indexedBy env folderId object world.db := by
  show storageAccesses ((Service.check (getFolder env folderId) >>= fun folder =>
    reindexObject env folder object) world).2 = _
  unfold indexedBy
  rcases found : getFolder env folderId world.db with error | folder
  · rw [bind_of_throws (Service.check_throws found), List.append_nil]
  · rw [bind_of_returns (Service.returns_check.mpr ⟨found, rfl⟩)]
    unfold reindexObject
    cases indexes : isIndexed folder.contentLocation.keyPrefix object with
    | false =>
        simp only [indexes, Bool.false_eq_true, if_false, List.append_nil]
        rfl
    | true =>
        simp only [indexes, if_true]
        apply storageAccesses_record
        exact Moves.bind (silent_updateFolderObjectInDB env _ _ _) fun _ => moves_pure _

/-- A call addresses what can be read off the state before it. -/
theorem accessesOf_eq (call : ObjectCall) (world : World) :
    accessesOf env call world = addressedBy env world.db call := by
  have spec : storageAccesses (performObjectCall env call world).2 =
      storageAccesses world ++ addressedBy env world.db call := by
    cases call with
    | presign actorId folderId urls =>
        rw [performObjectCall, discard_state]
        exact storageAccesses_presign env actorId folderId urls world
    | refresh actorId folderId objectKey eTag =>
        rw [performObjectCall, discard_state]
        exact storageAccesses_refresh env actorId folderId objectKey eTag world
    | delete actorId folderId objectKey =>
        rw [performObjectCall, discard_state]
        exact storageAccesses_delete env actorId folderId objectKey world
    | reindexObject folderId object => exact storageAccesses_reindexObject env folderId object world
  rw [accessesOf, spec, List.drop_left]

/-! ### Which calls go to the one key -/

def GoesToOneKey (env : Env) (db : Database) (access : StorageAccess) : Prop :=
  ∀ folder, getFolder env access.folderId db = .ok folder →
    access.bucket = (locationFor folder access.purpose).bucket ∧
      access.storageKey =
        joinStoragePrefix (locationFor folder access.purpose).keyPrefix access.objectKey

theorem getFolder_id {env : Env} (found : getFolder env folderId db = .ok folder) :
    folder.id = folderId :=
  findFolder_id (getFolder_row found)

theorem goesToOneKey_iff {env : Env} {access : StorageAccess}
    (found : getFolder env access.folderId db = .ok folder)
    (sameBucket : access.bucket = (locationFor folder access.purpose).bucket) :
    GoesToOneKey env db access ↔ access.storageKey =
      joinStoragePrefix (locationFor folder access.purpose).keyPrefix access.objectKey := by
  constructor
  · intro goes
    exact (goes folder found).2
  · intro sameKey other otherFound
    grind

theorem presignedAccess_goesToOneKey {env : Env} (found : getFolder env folderId db = .ok folder)
    (url : SignedURLsRequest)
    (refusesMetadataPut : ∀ objectKey metadataHash,
      url.objectIdentifier = .metadata objectKey metadataHash → url.method = .get) :
    GoesToOneKey env db (presignedAccess folder url) ↔
      resolvedObjectKey url = url.objectIdentifier.objectKey := by
  have sameId := getFolder_id found
  obtain ⟨identifier, method, literal⟩ := url
  cases identifier with
  | content objectKey =>
      rw [goesToOneKey_iff (by rw [presignedAccess, sameId]; exact found) rfl]
      constructor
      · intro sameKey
        exact joinStoragePrefix_injective sameKey
      · intro sameKey
        exact congrArg (joinStoragePrefix folder.contentLocation.keyPrefix) sameKey
  | metadata objectKey metadataHash =>
      have isGet := refusesMetadataPut objectKey metadataHash rfl
      subst isGet
      rw [goesToOneKey_iff (by rw [presignedAccess, sameId]; exact found) rfl]
      exact iff_of_true rfl rfl

theorem goesToOneKey_presign (actorId folderId : String) (urls : List SignedURLsRequest)
    (db : Database) :
    (∀ access ∈ presignedBy env actorId folderId urls db, GoesToOneKey env db access) ↔
      KeyAgrees env db (.presign actorId folderId urls) := by
  unfold presignedBy
  dsimp only [KeyAgrees]
  rcases found : getFolderAsUser env actorId folderId db with error | access
  · simp
  · have folderFound := getFolderAsUser_getFolder found
    cases allowed : presignAllowed access.permissions urls with
    | false => simp [allowed]
    | true =>
        simp only [allowed, if_true, List.forall_mem_map, Except.ok.injEq, forall_eq',
          forall_const]
        apply forall₂_congr
        intro url member
        apply presignedAccess_goesToOneKey folderFound
        intro objectKey metadataHash isMetadata
        have urlAllowed := List.all_eq_true.mp allowed url member
        grind

theorem goesToOneKey_refresh (actorId folderId objectKey : String) (eTag : Option String)
    (db : Database) :
    (∀ access ∈ refreshedBy env actorId folderId objectKey db, GoesToOneKey env db access) ↔
      KeyAgrees env db (.refresh actorId folderId objectKey eTag) := by
  unfold refreshedBy
  dsimp only [KeyAgrees]
  rcases found : getFolderAsUser env actorId folderId db with error | access
  · simp
  · have folderFound := getFolderAsUser_getFolder found
    simp only [List.forall_mem_singleton, Except.ok.injEq, forall_eq']
    rw [goesToOneKey_iff folderFound rfl]
    exact refreshedStorageKey_eq

theorem goesToOneKey_delete (actorId folderId objectKey : String) (db : Database) :
    (∀ access ∈ deletedBy env actorId folderId objectKey db, GoesToOneKey env db access) ↔
      KeyAgrees env db (.delete actorId folderId objectKey) := by
  unfold deletedBy
  dsimp only [KeyAgrees]
  rcases found : getFolderAsUser env actorId folderId db with error | access
  · simp
  · have folderFound := getFolderAsUser_getFolder found
    simp only [Except.ok.injEq, forall_eq']
    cases edits : access.permissions.contains FolderPermissionName.objectEdit with
    | false => simp
    | true =>
        cases stored : (findFolderObject folderId objectKey db).isSome with
        | false => simp
        | true =>
            simp only [Bool.and_self, if_true, List.forall_mem_singleton, forall_const]
            rw [goesToOneKey_iff folderFound rfl]
            exact joinStoragePrefix_eq_key

theorem goesToOneKey_reindexObject (folderId : String) (object : S3ObjectInternal) (db : Database) :
    (∀ access ∈ indexedBy env folderId object db, GoesToOneKey env db access) ↔
      KeyAgrees env db (.reindexObject folderId object) := by
  unfold indexedBy
  dsimp only [KeyAgrees]
  rcases found : getFolder env folderId db with error | folder
  · simp
  · simp only [Except.ok.injEq, forall_eq']
    cases indexes : isIndexed folder.contentLocation.keyPrefix object with
    | false => simp
    | true =>
        simp only [if_true, List.forall_mem_singleton, forall_const]
        have folderFound : getFolder env folder.id db = .ok folder := by
          rw [getFolder_id found]
          exact found
        rw [goesToOneKey_iff folderFound rfl]
        exact joinStoragePrefix_indexed

theorem goesToOneKey_call (call : ObjectCall) (db : Database) :
    (∀ access ∈ addressedBy env db call, GoesToOneKey env db access) ↔ KeyAgrees env db call := by
  cases call with
  | presign actorId folderId urls => exact goesToOneKey_presign env actorId folderId urls db
  | refresh actorId folderId objectKey eTag =>
      exact goesToOneKey_refresh env actorId folderId objectKey eTag db
  | delete actorId folderId objectKey => exact goesToOneKey_delete env actorId folderId objectKey db
  | reindexObject folderId object => exact goesToOneKey_reindexObject env folderId object db

theorem oneKey_apart {otherPrefix objectKey otherKey otherId : String}
    (different : (otherId, otherKey) ≠ (folderId, objectKey))
    (samePrefix : otherId = folderId → otherPrefix = keyPrefix)
    (beside : otherId = folderId ∨ KeyPrefix.PrefixFree keyPrefix.toList otherPrefix.toList) :
    joinStoragePrefix keyPrefix objectKey ≠ joinStoragePrefix otherPrefix otherKey := by
  intro meet
  rcases beside with sameFolder | free
  · grind [joinStoragePrefix_injective]
  · have meetLists := congrArg String.toList meet
    grind [toList_joinStoragePrefix, KeyPrefix.join_ne_of_prefixFree]

/-- A call goes to the one key of each of its objects exactly where its own expression agrees
with the common one. -/
theorem oneStorageKey_iff (env : Env) (call : ObjectCall) (world : World) :
    OneStorageKey env call world ↔ KeyAgrees env world.db call := by
  rw [← goesToOneKey_call env call world.db, ← accessesOf_eq env call world]
  constructor
  · intro one access member
    exact one.own access member
  · intro goes
    refine ⟨goes, ?_⟩
    intro access member folder otherId other otherKey found otherFound different beside
    rw [(goes access member folder found).2]
    refine oneKey_apart different ?_ beside
    intro sameFolder
    rw [sameFolder, found] at otherFound
    cases otherFound
    rfl

/-! ### A deletion reaches into another folder -/

/-- The key of an object of Bob's folder in the built-in storage. -/
def bobsKey : String :=
  ".lombok_provision__user_bob_folder_yours/.lombok_folder_content_yours/b.txt"

/-- Two folders in the built-in storage; an object of Alice's is named by a key of Bob's. -/
def builtinFolders : World where
  db :=
    { folders := ⟨[{ id := "mine", name := "Mine", ownerId := "alice", createdAt := 0,
                     updatedAt := 0 },
                   { id := "yours", name := "Yours", ownerId := "bob", createdAt := 0,
                     updatedAt := 0 }], by decide⟩
      folderObjects := ⟨[{ id := "object", objectKey := bobsKey, filename := "b.txt", eTag := "",
                           sizeBytes := 1, lastModified := 0, hash := none, contentMetadata := [],
                           folderId := "mine", mimeType := "text/plain", mediaType := .document,
                           createdAt := 0, updatedAt := 0 }], List.pairwise_singleton _ _⟩ }

/-- Alice deletes the object of her own folder. -/
def deletesBobsKey : ObjectCall := .delete "alice" "mine" bobsKey

theorem deletion_reachesOtherFolder : ¬∀ env call world, OneStorageKey env call world := by
  intro always
  have one := always Env.sample deletesBobsKey builtinFolders
  have addressed : ∃ access ∈ accessesOf Env.sample deletesBobsKey builtinFolders,
      access.purpose = .content ∧ access.folderId = "mine" ∧ access.objectKey = bobsKey ∧
        access.storageKey = bobsKey := by decide +kernel
  obtain ⟨access, member, isContent, isMine, isBobsKey, isRaw⟩ := addressed
  have found : (getFolder Env.sample "mine" builtinFolders.db).isOk = true := by decide +kernel
  rcases resolved : getFolder Env.sample "mine" builtinFolders.db with error | folder
  · rw [resolved] at found
    cases found
  · have sameKey := (one.own access member folder (by rw [isMine]; exact resolved)).2
    have prefixed : ∀ folder ∈ (getFolder Env.sample "mine" builtinFolders.db).toOption,
        folder.contentLocation.keyPrefix ≠ "" := by decide +kernel
    rw [resolved] at prefixed
    rw [isRaw, isContent, isBobsKey] at sameKey
    exact prefixed folder rfl (joinStoragePrefix_eq_key.mp sameKey)

end Lombok.Folders
