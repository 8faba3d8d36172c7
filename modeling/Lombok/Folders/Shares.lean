import Mathlib.Logic.Function.Basic
import Lombok.Folders.Access
import Lombok.Core.Growth
import Lombok.Library.Ledger

/-!
Contract: sharing a folder, and what a run of sharing calls does to permissions.

Owns the share calls of `FolderService` and `updateFolderAsUser`. Sharing and
unsharing look the folder up as the caller and compare no permission, so a
sharee changes shares like the owner. `noEscalation_iff` says for which runs no
permission is gained or lost by that.
-/

namespace Lombok.Folders

open Lombok.Core Lombok.Library Lombok.Library.Action Lombok.Apps

/-! ### The calls -/

def FolderShare.setPermissions (permissions : List FolderPermissionName) (share : FolderShare) :
    FolderShare := { share with permissions := permissions }

theorem keeps_setPermissions (permissions : List FolderPermissionName) :
    Keeps FolderShare.clash (FolderShare.setPermissions permissions) :=
  fun _ _ => ⟨rfl, rfl⟩

def newFolderShare (folderId userId : String) (permissions : List FolderPermissionName)
    (currentTimestamp : Date) : FolderShare where
  folderId := folderId
  userId := userId
  permissions := permissions
  createdAt := currentTimestamp
  updatedAt := currentTimestamp

/-- `insert(folderSharesTable).values(…)`; the dates are the database's defaults. -/
def insertFolderShare (env : Env) (folderId userId : String)
    (permissions : List FolderPermissionName) : Service Unit := do
  let currentTimestamp ← Service.now env
  let shares ← Service.query Database.folderShares
  let inserted ← Action.orThrow
    (shares.insert (newFolderShare folderId userId permissions currentTimestamp))
    (.uniqueViolation "folder_shares_folder_user_unique")
  Service.write fun db => { db with folderShares := inserted }

/-- The write of `upsertFolderShare`. -/
def writeFolderShare (env : Env) (folderId userId : String)
    (permissions : List FolderPermissionName) : Option FolderShare → Service Unit
  | some _ =>
      Service.write fun db => { db with
        folderShares := db.folderShares.update (FolderShare.isFor folderId userId)
          (FolderShare.setPermissions permissions) (keeps_setPermissions permissions) }
  | none => insertFolderShare env folderId userId permissions

/-- What a share call answers. -/
structure FolderShareDTO where
  userId : String
  permissions : List FolderPermissionName
deriving DecidableEq, Inhabited

def upsertFolderShare (env : Env) (actorId folderId userId : String)
    (permissions : List FolderPermissionName) : Service FolderShareDTO := do
  let access ← Service.check (getFolderAsUser env actorId folderId)
  let user ← Service.query (findUser userId)
  Action.require user.isSome userNotFoundException
  let existingShare ← Service.query (findFolderShare access.folder.id userId)
  writeFolderShare env access.folder.id userId permissions existingShare
  pure { userId := userId, permissions := permissions }

def removeFolderShare (env : Env) (actorId folderId userId : String) : Service Unit := do
  let access ← Service.check (getFolderAsUser env actorId folderId)
  let user ← Service.query (findUser userId)
  Action.require user.isSome userNotFoundException
  Service.write fun db => { db with
    folderShares := db.folderShares.delete (FolderShare.isFor access.folder.id userId) }

/-- `getFolderShare`; the actor is not looked at. -/
def getFolderShare (folderId userId : String) (db : Database) : Except ApiError FolderShare :=
  match findFolderShare folderId userId db with
  | none => .error folderShareNotFoundException
  | some share => .ok share

structure FolderShareList where
  result : List FolderShareDTO
  totalCount : Nat
deriving DecidableEq, Inhabited

def listFolderShares (env : Env) (actorId folderId : String) (db : Database) :
    Except ApiError FolderShareList := do
  let access ← getFolderAsUser env actorId folderId db
  let shares := db.folderShares.view fun share => share.folderId == access.folder.id
  .ok
    { result := shares.map fun share => { userId := share.userId, permissions := share.permissions }
      totalCount := shares.length }

def Folder.rename (name : String) (now : Date) (folder : Folder) : Folder :=
  { folder with name := name, updatedAt := now }

theorem keeps_rename (name : String) (now : Date) : Keeps Folder.clash (Folder.rename name now) :=
  fun _ _ => ⟨rfl, rfl⟩

def updateFolderAsUser (env : Env) (actorId folderId name : String) : Service ResolvedFolder := do
  let access ← Service.check (getFolderAsUser env actorId folderId)
  Action.require (access.permissions.contains .folderEdit) folderOperationForbiddenException
  let now ← Service.now env
  Service.write fun db => { db with
    folders := db.folders.update (fun folder => folder.id == folderId) (Folder.rename name now)
      (keeps_rename name now) }
  pure
    { access.folder.toFolder.rename name now with
      contentLocation := access.folder.contentLocation
      metadataLocation := access.folder.metadataLocation }

/-! ### Runs of sharing calls -/

inductive ShareCall where
  | upsert (folderId userId : String) (permissions : List FolderPermissionName)
  | remove (folderId userId : String)
  | update (folderId name : String)
deriving DecidableEq, Inhabited

/-- A call and the user who makes it. -/
structure ShareRequest where
  actorId : String
  call : ShareCall
deriving DecidableEq, Inhabited

def performShareCall (env : Env) (request : ShareRequest) : Service Unit :=
  match request.call with
  | .upsert folderId userId permissions => do
      let _ ← upsertFolderShare env request.actorId folderId userId permissions
      pure ()
  | .remove folderId userId => removeFolderShare env request.actorId folderId userId
  | .update folderId name => do
      let _ ← updateFolderAsUser env request.actorId folderId name
      pure ()

def shareStep (env : Env) (world : World) (request : ShareRequest) : World :=
  (performShareCall env request world).2

/-- The permissions shared with each user on each folder. -/
abbrev ShareEntries := String × String → Option (List FolderPermissionName)

def sharePermissions (world : World) : ShareEntries :=
  fun key => (findFolderShare key.1 key.2 world.db).map (·.permissions)

def acceptsShareCall (env : Env) (actorId folderId userId : String) (db : Database) : Bool :=
  (getFolderAsUser env actorId folderId db).isOk && (findUser userId db).isSome

def applyShareCall (env : Env) (world : World) (request : ShareRequest) (entries : ShareEntries) :
    ShareEntries :=
  match request.call with
  | .upsert folderId userId permissions =>
      if acceptsShareCall env request.actorId folderId userId world.db then
        Function.update entries (folderId, userId) (some permissions)
      else
        entries
  | .remove folderId userId =>
      if acceptsShareCall env request.actorId folderId userId world.db then
        Function.update entries (folderId, userId) none
      else
        entries
  | .update _ _ => entries

/-- The owner may change every share, a sharee may leave. No permission name gives more. -/
def authorisesShareCall (world : World) (request : ShareRequest) : Bool :=
  match request.call with
  | .upsert folderId _ _ => ownsFolder request.actorId folderId world.db
  | .remove folderId userId =>
      ownsFolder request.actorId folderId world.db || userId == request.actorId
  | .update _ _ => true

/-- The entries as the authorised calls of a run leave them. -/
def shareLedger (env : Env) (start : World) (requests : List ShareRequest) : ShareEntries :=
  ledger (shareStep env) (applyShareCall env) authorisesShareCall start (sharePermissions start)
    requests

/-- A run in which nobody gains or loses a permission the owner did not give or take. -/
structure NoEscalation (env : Env) (start : World) (requests : List ShareRequest) : Prop where
  lastAuthorised : ∀ before after, requests = before ++ after →
    sharePermissions (run (shareStep env) start before) = shareLedger env start before
  effective : ∀ before after, requests = before ++ after → ∀ folderId userId access,
    getFolderAsUser env userId folderId (run (shareStep env) start before).db = .ok access →
    ownsFolder userId folderId start.db = false →
    shareLedger env start before (folderId, userId) = some access.permissions
  givenByOwner : ∀ before after, requests = before ++ after → ∀ folderId userId permissions,
    sharePermissions (run (shareStep env) start before) (folderId, userId) = some permissions →
    ∀ permission ∈ permissions,
      (∃ initial, sharePermissions start (folderId, userId) = some initial ∧
          permission ∈ initial) ∨
        ∃ ownerId given, ownsFolder ownerId folderId start.db = true ∧ permission ∈ given ∧
          { actorId := ownerId, call := .upsert folderId userId given } ∈ before
  othersUntouched : AlongRun (shareStep env) (fun world request => ∀ folderId userId,
    ownsFolder request.actorId folderId world.db = false → userId ≠ request.actorId →
    sharePermissions (shareStep env world request) (folderId, userId) =
      sharePermissions world (folderId, userId)) start requests

/-- A call of a user who does not own the folder is refused, or asks for what is already so. -/
def OwnersShare (env : Env) (world : World) (request : ShareRequest) : Prop :=
  match request.call with
  | .upsert folderId userId permissions =>
      ownsFolder request.actorId folderId world.db = true ∨
        acceptsShareCall env request.actorId folderId userId world.db = false ∨
        sharePermissions world (folderId, userId) = some permissions
  | .remove folderId userId =>
      ownsFolder request.actorId folderId world.db = true ∨ userId = request.actorId ∨
        acceptsShareCall env request.actorId folderId userId world.db = false ∨
        sharePermissions world (folderId, userId) = none
  | .update _ _ => True

/-! ### One call -/

theorem isFor_iff {folderId userId : String} {share : FolderShare} :
    FolderShare.isFor folderId userId share = true ↔
      share.folderId = folderId ∧ share.userId = userId := by
  rw [FolderShare.isFor, Bool.and_eq_true, beq_iff_eq, beq_iff_eq]

theorem isFor_of_ne {folderId userId otherFolder otherUser : String} {share : FolderShare}
    (isFor : share.folderId = otherFolder ∧ share.userId = otherUser)
    (other : (otherFolder, otherUser) ≠ (folderId, userId)) :
    FolderShare.isFor folderId userId share = false := by
  grind [FolderShare.isFor]

/-- Setting the permissions of a stored share changes that entry. -/
theorem findFolderShare_set (table : FolderSharesTable) {folderId userId : String}
    {permissions : List FolderPermissionName} {share : FolderShare}
    (found : table.find? (FolderShare.isFor folderId userId) = some share) :
    (fun key : String × String => ((table.update (FolderShare.isFor folderId userId)
        (FolderShare.setPermissions permissions) (keeps_setPermissions permissions)).find?
          (FolderShare.isFor key.1 key.2)).map (·.permissions)) =
      Function.update (fun key => (table.find? (FolderShare.isFor key.1 key.2)).map (·.permissions))
        (folderId, userId) (some permissions) := by
  funext key
  have stable : ∀ row, FolderShare.isFor key.1 key.2 (row.setPermissions permissions) =
      FolderShare.isFor key.1 key.2 row := fun _ => rfl
  rw [Table.find?_update stable]
  by_cases same : key = (folderId, userId)
  · subst same
    have isFor : FolderShare.isFor folderId userId share = true := List.find?_some found
    rw [Function.update_self, found]
    simp only [Option.map_some, isFor, if_true]
    rfl
  · rw [Function.update_of_ne same]
    rcases other : table.find? (FolderShare.isFor key.1 key.2) with _ | row
    · rfl
    · have holds : FolderShare.isFor key.1 key.2 row = true := List.find?_some other
      have missed := isFor_of_ne (isFor_iff.mp holds) same
      simp only [Option.map_some, missed, Bool.false_eq_true, if_false]

theorem findFolderShare_insert {table after : FolderSharesTable} {share : FolderShare}
    (absent : table.find? (FolderShare.isFor share.folderId share.userId) = none)
    (inserted : table.insert share = some after) :
    (fun key : String × String =>
        (after.find? (FolderShare.isFor key.1 key.2)).map (·.permissions)) =
      Function.update (fun key => (table.find? (FolderShare.isFor key.1 key.2)).map (·.permissions))
        (share.folderId, share.userId) (some share.permissions) := by
  funext key
  rw [Table.find?_insert inserted]
  grind [isFor_of_ne, isFor_iff.mpr]

/-- Deleting a share clears its entry. -/
theorem findFolderShare_delete (table : FolderSharesTable) (folderId userId : String) :
    (fun key : String × String => ((table.delete (FolderShare.isFor folderId userId)).find?
        (FolderShare.isFor key.1 key.2)).map (·.permissions)) =
      Function.update (fun key => (table.find? (FolderShare.isFor key.1 key.2)).map (·.permissions))
        (folderId, userId) none := by
  funext key
  by_cases same : key = (folderId, userId)
  · subst same
    rw [Function.update_self, Option.map_eq_none_iff]
    refine List.find?_eq_none.mpr ?_
    intro row member isFor
    have kept := (List.mem_filter.mp member).2
    rw [isFor] at kept
    cases kept
  · rw [Function.update_of_ne same, Table.find?_delete]
    intro row isFor
    exact isFor_of_ne (isFor_iff.mp isFor) same

theorem writeFolderShare_returns (env : Env) (folderId userId : String)
    (permissions : List FolderPermissionName) (world : World) :
    ∃ after, Returns (writeFolderShare env folderId userId permissions
        (findFolderShare folderId userId world.db)) world () after ∧
      sharePermissions after =
        Function.update (sharePermissions world) (folderId, userId) (some permissions) := by
  rcases found : findFolderShare folderId userId world.db with _ | share
  · have fresh : ∀ other ∈ world.db.folderShares.rows, FolderShare.clash other
        (newFolderShare folderId userId permissions (env.clock world.draws)) = false := by
      intro other member
      exact eq_false_of_ne_true (List.find?_eq_none.mp found other member)
    obtain ⟨inserted, insertion⟩ := Table.insert_of_fresh fresh
    refine ⟨{ Service.draw world with db := { world.db with folderShares := inserted } }, ?_, ?_⟩
    · unfold writeFolderShare insertFolderShare
      simp only [returns_bind, Service.returns_now, Service.returns_query, returns_orThrow,
        Service.write, returns_modify]
      exact ⟨_, _, ⟨rfl, rfl⟩, _, _, ⟨rfl, rfl⟩, _, _, ⟨insertion, rfl⟩, rfl⟩
    · exact @findFolderShare_insert _ _ (newFolderShare folderId userId permissions _) found
        insertion
  · exact ⟨_, returns_modify.mpr rfl, findFolderShare_set world.db.folderShares found⟩

/-- An accepted share call sets one entry, a refused one none. -/
theorem sharePermissions_upsert (env : Env) (actorId folderId userId : String)
    (permissions : List FolderPermissionName) (world : World) :
    sharePermissions (upsertFolderShare env actorId folderId userId permissions world).2 =
      if acceptsShareCall env actorId folderId userId world.db then
        Function.update (sharePermissions world) (folderId, userId) (some permissions)
      else
        sharePermissions world := by
  unfold acceptsShareCall upsertFolderShare
  rcases found : getFolderAsUser env actorId folderId world.db with error | access
  · rw [bind_of_throws (Service.check_throws found)]
    rfl
  · rw [bind_of_returns (Service.returns_check.mpr ⟨found, rfl⟩),
      bind_of_returns (Service.returns_query.mpr ⟨rfl, rfl⟩), getFolderAsUser_id found]
    rcases user : findUser userId world.db with _ | stored
    · rfl
    · obtain ⟨after, written, entries⟩ :=
        writeFolderShare_returns env folderId userId permissions world
      rw [bind_of_returns (require_returns Option.isSome_some _ world),
        bind_of_returns (Service.returns_query.mpr ⟨rfl, rfl⟩), bind_of_returns written]
      exact entries

/-- An accepted unshare call clears one entry, a refused one none. -/
theorem sharePermissions_remove (env : Env) (actorId folderId userId : String) (world : World) :
    sharePermissions (removeFolderShare env actorId folderId userId world).2 =
      if acceptsShareCall env actorId folderId userId world.db then
        Function.update (sharePermissions world) (folderId, userId) none
      else
        sharePermissions world := by
  unfold acceptsShareCall removeFolderShare
  rcases found : getFolderAsUser env actorId folderId world.db with error | access
  · rw [bind_of_throws (Service.check_throws found)]
    rfl
  · rw [bind_of_returns (Service.returns_check.mpr ⟨found, rfl⟩),
      bind_of_returns (Service.returns_query.mpr ⟨rfl, rfl⟩), getFolderAsUser_id found]
    rcases user : findUser userId world.db with _ | stored
    · rfl
    · exact findFolderShare_delete world.db.folderShares folderId userId

/-- Updating a folder leaves the share table as it is. -/
theorem updateFolderAsUser_folderShares (env : Env) (actorId folderId name : String)
    (world : World) :
    (updateFolderAsUser env actorId folderId name world).2.db.folderShares =
      world.db.folderShares := by
  unfold updateFolderAsUser
  rcases found : getFolderAsUser env actorId folderId world.db with error | access
  · rw [bind_of_throws (Service.check_throws found)]
  · rw [bind_of_returns (Service.returns_check.mpr ⟨found, rfl⟩)]
    cases permitted : access.permissions.contains .folderEdit with
    | false => rw [bind_of_throws (require_throws rfl _ world)]
    | true =>
        rfl

theorem shareStep_actsOn (env : Env) :
    ActsOn (shareStep env) sharePermissions (applyShareCall env) := by
  rintro world ⟨actorId, call⟩
  cases call with
  | upsert folderId userId permissions =>
      unfold shareStep performShareCall
      rw [discard_state, sharePermissions_upsert]
      rfl
  | remove folderId userId => exact sharePermissions_remove env actorId folderId userId world
  | update folderId name =>
      unfold shareStep performShareCall
      rw [discard_state]
      funext key
      unfold sharePermissions findFolderShare
      rw [updateFolderAsUser_folderShares]
      rfl

/-! ### Owners stay owners -/

def SameOwners (before after : World) : Prop :=
  ∀ userId folderId, ownsFolder userId folderId after.db = ownsFolder userId folderId before.db

instance : DatabaseRelation SameOwners where
  refl _ _ _ := rfl
  trans _ _ _ first second userId folderId :=
    (second userId folderId).trans (first userId folderId)
  of_same_db same _ _ := by rw [same]

/-- Writes to other tables leave the owners alone. -/
theorem sameOwners_write {change : Database → Database}
    (same : ∀ db, (change db).folders = db.folders) : Moves SameOwners (Service.write change) := by
  refine moves_modify fun world userId folderId => ?_
  unfold ownsFolder findFolder
  rw [same]

theorem sameOwners_rename (folderId name : String) (now : Date) :
    Moves SameOwners (Service.write fun db => { db with
      folders := db.folders.update (fun folder => folder.id == folderId) (Folder.rename name now)
        (keeps_rename name now) }) := by
  refine moves_modify fun world userId other => ?_
  have stable : ∀ row : Folder, ((row.rename name now).id == other) = (row.id == other) :=
    fun _ => rfl
  unfold ownsFolder findFolder
  rw [Table.find?_update stable]
  rcases world.db.folders.find? fun folder => folder.id == other with _ | folder
  · rfl
  · simp only [Option.map_some, Option.any_some]
    split
    · rfl
    · rfl

theorem sameOwners_writeFolderShare (env : Env) (folderId userId : String)
    (permissions : List FolderPermissionName) (existing : Option FolderShare) :
    Moves SameOwners (writeFolderShare env folderId userId permissions existing) := by
  cases existing with
  | some share => exact sameOwners_write fun _ => rfl
  | none =>
      refine Moves.bind (Service.moves_now env) fun now => ?_
      refine Moves.bind (Service.moves_query _) fun shares => ?_
      refine Moves.bind (moves_orThrow _ _) fun inserted => ?_
      exact sameOwners_write fun _ => rfl

theorem sameOwners_performShareCall (env : Env) (request : ShareRequest) :
    Moves SameOwners (performShareCall env request) := by
  obtain ⟨actorId, call⟩ := request
  cases call with
  | upsert folderId userId permissions =>
      refine Moves.bind (Moves.bind (Service.moves_check _) fun access => ?_) fun _ => moves_pure _
      refine Moves.bind (Service.moves_query _) fun user => ?_
      refine Moves.bind (moves_require _ _) fun _ => ?_
      refine Moves.bind (Service.moves_query _) fun existing => ?_
      refine Moves.bind (sameOwners_writeFolderShare env _ _ _ _) fun _ => moves_pure _
  | remove folderId userId =>
      refine Moves.bind (Service.moves_check _) fun access => ?_
      refine Moves.bind (Service.moves_query _) fun user => ?_
      refine Moves.bind (moves_require _ _) fun _ => ?_
      exact sameOwners_write fun _ => rfl
  | update folderId name =>
      refine Moves.bind (Moves.bind (Service.moves_check _) fun access => ?_) fun _ => moves_pure _
      refine Moves.bind (moves_require _ _) fun _ => ?_
      refine Moves.bind (Service.moves_now env) fun now => ?_
      exact Moves.bind (sameOwners_rename folderId name now) fun _ => moves_pure _

theorem shareStep_owners (env : Env) (world : World) (request : ShareRequest) :
    SameOwners world (shareStep env world request) :=
  (sameOwners_performShareCall env request world).1

theorem run_owners (env : Env) (start : World) (requests : List ShareRequest) :
    SameOwners start (run (shareStep env) start requests) := by
  have kept : ∀ world (request : ShareRequest), SameOwners start world →
      SameOwners start (shareStep env world request) := by
    intro world request same userId folderId
    exact (shareStep_owners env world request userId folderId).trans (same userId folderId)
  exact run_invariant kept (fun _ _ => rfl) requests

/-! ### Which runs escalate nothing -/

/-- A conditional change of one entry leaves all entries as they are if it does not happen, or if
the entry is already so. -/
theorem update_if_eq_self {entries : ShareEntries} {key : String × String}
    {entry : Option (List FolderPermissionName)} {accepted : Bool} :
    (if accepted then Function.update entries key entry else entries) = entries ↔
      accepted = false ∨ entries key = entry := by
  cases accepted with
  | false => simp
  | true =>
      simp [eq_comm]

theorem harmless_iff_ownersShare (env : Env) (world : World) (request : ShareRequest) :
    Harmless sharePermissions (applyShareCall env) authorisesShareCall world request ↔
      OwnersShare env world request := by
  obtain ⟨actorId, call⟩ := request
  cases call with
  | upsert folderId userId permissions =>
      simp only [Harmless, authorisesShareCall, applyShareCall, OwnersShare, update_if_eq_self]
  | remove folderId userId =>
      simp only [Harmless, authorisesShareCall, applyShareCall, OwnersShare, update_if_eq_self,
        Bool.or_eq_true, beq_iff_eq, or_assoc]
  | update folderId name => simp [Harmless, authorisesShareCall, OwnersShare]

/-- An authorised call changes entries of folders the caller owns, or the caller's own entry. -/
theorem applyShareCall_untouched {env : Env} {world : World} {request : ShareRequest}
    {folderId userId : String} (entries : ShareEntries)
    (authorised : authorisesShareCall world request = true)
    (notOwner : ownsFolder request.actorId folderId world.db = false)
    (other : userId ≠ request.actorId) :
    applyShareCall env world request entries (folderId, userId) = entries (folderId, userId) := by
  obtain ⟨actorId, call⟩ := request
  cases call with
  | upsert target sharee permissions =>
      have otherKey : (folderId, userId) ≠ (target, sharee) := by
        rintro equal
        cases equal
        rw [show ownsFolder actorId folderId world.db = true from authorised] at notOwner
        cases notOwner
      unfold applyShareCall
      grind
  | remove target sharee =>
      have otherKey : (folderId, userId) ≠ (target, sharee) := by
        rintro equal
        cases equal
        rcases Bool.or_eq_true_iff.mp authorised with owns | self
        · grind
        · exact other (beq_iff_eq.mp self)
      unfold applyShareCall
      grind
  | update target name => rfl

/-- An entry an authorised call leaves behind was there before, or the owner gave it. -/
theorem applyShareCall_given {env : Env} {world : World} {request : ShareRequest}
    {folderId userId : String} {entries : ShareEntries} {permissions : List FolderPermissionName}
    (authorised : authorisesShareCall world request = true)
    (entry : applyShareCall env world request entries (folderId, userId) = some permissions) :
    entries (folderId, userId) = some permissions ∨
      (ownsFolder request.actorId folderId world.db = true ∧
        request.call = .upsert folderId userId permissions) := by
  obtain ⟨actorId, call⟩ := request
  cases call with
  | upsert target sharee given =>
      unfold applyShareCall at entry
      dsimp only at entry
      split at entry
      · by_cases same : (folderId, userId) = (target, sharee)
        · rw [same, Function.update_self] at entry
          cases same
          cases entry
          exact .inr ⟨authorised, rfl⟩
        · grind
      · exact .inl entry
  | remove target sharee =>
      unfold applyShareCall at entry
      grind
  | update target name => exact .inl entry

theorem ledger_given {env : Env} {start : World} {entries : ShareEntries}
    {requests : List ShareRequest} {folderId userId : String}
    {permissions : List FolderPermissionName}
    (entry : ledger (shareStep env) (applyShareCall env) authorisesShareCall start entries requests
      (folderId, userId) = some permissions) :
    entries (folderId, userId) = some permissions ∨
      ∃ ownerId, ownsFolder ownerId folderId start.db = true ∧
        { actorId := ownerId, call := .upsert folderId userId permissions } ∈ requests := by
  induction requests generalizing start entries with
  | nil => exact .inl entry
  | cons head tail inductionHypothesis =>
      rcases inductionHypothesis entry with early | ⟨ownerId, owns, member⟩
      · cases authorised : authorisesShareCall start head with
        | false =>
            rw [authorised] at early
            exact .inl early
        | true =>
            rw [authorised] at early
            rcases applyShareCall_given authorised early with before | ⟨owns, isUpsert⟩
            · exact .inl before
            · refine .inr ⟨head.actorId, owns, ?_⟩
              rw [← isUpsert]
              exact List.mem_cons_self
      · rw [shareStep_owners env start head] at owns
        exact .inr ⟨ownerId, owns, List.mem_cons_of_mem _ member⟩

theorem noEscalation_of_agrees {env : Env} {start : World} {requests : List ShareRequest}
    (agrees : Agrees (shareStep env) sharePermissions (applyShareCall env) authorisesShareCall
      start requests) : NoEscalation env start requests where
  lastAuthorised := agrees
  effective := by
    intro before after split folderId userId access found notOwner
    rw [← run_owners env start before] at notOwner
    have entry := getFolderAsUser_share found notOwner
    rw [shareLedger, ← agrees before after split]
    exact entry
  givenByOwner := by
    intro before after split folderId userId permissions entry permission member
    rw [agrees before after split] at entry
    grind [ledger_given]
  othersUntouched := by
    have along := (agrees_iff (shareStep_actsOn env)).mp agrees
    refine along.imp ?_
    intro world request harmless folderId userId notOwner other
    rw [shareStep_actsOn env world request]
    rcases harmless with authorised | unchanged
    · exact applyShareCall_untouched _ authorised notOwner other
    · rw [unchanged]

/-- Nobody escalates exactly in the runs where sharees' share calls change nothing. -/
theorem noEscalation_iff (env : Env) (start : World) (requests : List ShareRequest) :
    NoEscalation env start requests ↔
      AlongRun (shareStep env) (OwnersShare env) start requests := by
  have steps : AlongRun (shareStep env) (OwnersShare env) start requests ↔
      Agrees (shareStep env) sharePermissions (applyShareCall env) authorisesShareCall start
        requests := by
    rw [agrees_iff (shareStep_actsOn env)]
    exact alongRun_congr fun world request => (harmless_iff_ownersShare env world request).symm
  rw [steps]
  constructor
  · intro safe
    exact safe.lastAuthorised
  · intro agrees
    exact noEscalation_of_agrees agrees

/-! ### A sharee gives themselves every permission -/

def sharedFolder : World where
  db :=
    { folders := ⟨[{ id := "folder", name := "Photos", ownerId := "owner", createdAt := 0,
                     updatedAt := 0 }], List.pairwise_singleton _ _⟩
      folderShares := ⟨[{ folderId := "folder", userId := "sharee", permissions := [],
                          createdAt := 0, updatedAt := 0 }], List.pairwise_singleton _ _⟩
      users := ⟨[{ id := "sharee", username := "sharee" }], List.pairwise_singleton _ _⟩ }

/-- The sharee shares the folder with themselves. -/
def selfShare : ShareRequest where
  actorId := "sharee"
  call := .upsert "folder" "sharee" ownerPermissions

theorem sharee_escalates : ¬∀ env start requests, NoEscalation env start requests := by
  intro always
  have safe := always Env.sample sharedFolder [selfShare]
  have entry : sharePermissions (shareStep Env.sample sharedFolder selfShare) ("folder", "sharee") =
      some ownerPermissions := by decide +kernel
  have start : sharePermissions sharedFolder ("folder", "sharee") = some [] := by decide +kernel
  rcases safe.givenByOwner [selfShare] [] rfl "folder" "sharee" ownerPermissions entry .folderEdit
    (by decide) with ⟨initial, found, member⟩ | ⟨ownerId, given, owns, member, call⟩
  · cases found
    cases member
  · have isSharee : ownerId = "sharee" := by
      rw [List.mem_singleton] at call
      exact congrArg ShareRequest.actorId call
    rw [isSharee] at owns
    have notOwner : ownsFolder "sharee" "folder" sharedFolder.db = false := by decide +kernel
    cases owns

end Lombok.Folders
