import Lombok.Apps.Access

/-!
Contract: which folders a user may see, and with which permissions.

`getFolderAsUser` is the lookup every folder call of a user starts with. It
establishes that the user sees the folder; what the permissions in its answer
allow is for the caller to compare.
-/

namespace Lombok.Folders

open Lombok.Core Lombok.Library Lombok.Library.Action Lombok.Apps

/-! ### Exceptions, by their service error key -/

def folderNotFoundException : ApiError := .notFound "folder.notFound"

def userNotFoundException : ApiError := .notFound "user.notFound"

def folderShareNotFoundException : ApiError := .notFound "folderShare.notFound"

def folderOperationForbiddenException : ApiError := .forbidden "folder.permissionUnauthorized"

/-! ### Lookups -/

def findStorageLocation (id : String) (db : Database) : Option StorageLocation :=
  db.storageLocations.find? fun location => location.id == id

def findUser (id : String) (db : Database) : Option User :=
  db.users.find? fun user => user.id == id

def FolderShare.isFor (folderId userId : String) (share : FolderShare) : Bool :=
  share.folderId == folderId && share.userId == userId

def findFolderShare (folderId userId : String) (db : Database) : Option FolderShare :=
  db.folderShares.find? (FolderShare.isFor folderId userId)

def findFolderUserPreference (folderId userId : String) (db : Database) :
    Option FolderUserPreference :=
  db.folderUserPreferences.find? fun preference =>
    preference.folderId == folderId && preference.userId == userId

/-- `attachResolvedLocations`, for the row and the locations joined to it. -/
def attachResolvedLocations (env : Env) (folder : Folder) (db : Database) :
    Except ApiError ResolvedFolder := do
  let contentRow := folder.contentLocationId.bind fun id => findStorageLocation id db
  let metadataRow := folder.metadataLocationId.bind fun id => findStorageLocation id db
  let contentLocation ← resolveFolderLocation env.storage folder .content contentRow
  let metadataLocation ← resolveFolderLocation env.storage folder .metadata metadataRow
  .ok { folder with contentLocation := contentLocation, metadataLocation := metadataLocation }

/-- `OWNER_PERMISSIONS`. -/
def ownerPermissions : List FolderPermissionName :=
  [.folderEdit, .folderForget, .folderReindex, .objectEdit, .objectManage]

/-- What `getFolderAsUser` answers. -/
structure FolderAccess where
  folder : ResolvedFolder
  permissions : List FolderPermissionName
  starred : Bool
deriving DecidableEq, Inhabited

/-- `getFolder`. -/
def getFolder (env : Env) (folderId : String) (db : Database) : Except ApiError ResolvedFolder :=
  match findFolder folderId db with
  | none => .error folderNotFoundException
  | some folderRow => attachResolvedLocations env folderRow db

def getFolderAsUser (env : Env) (actorId folderId : String) (db : Database) :
    Except ApiError FolderAccess := do
  let folder ← getFolder env folderId db
  let starred := ((findFolderUserPreference folder.id actorId db).map (·.starred)).getD false
  if folder.ownerId == actorId then
    .ok { folder := folder, permissions := ownerPermissions, starred := starred }
  else
    match findFolderShare folder.id actorId db with
    | none => .error folderNotFoundException
    | some share => .ok { folder := folder, permissions := share.permissions, starred := starred }

/-! ### Who sees a folder -/

def ownsFolder (userId folderId : String) (db : Database) : Bool :=
  (findFolder folderId db).any fun folder => folder.ownerId == userId

variable {env : Env} {db : Database} {folderId : String} {access : FolderAccess}

theorem attachResolvedLocations_row {folder : Folder} {resolved : ResolvedFolder}
    (attached : attachResolvedLocations env folder db = .ok resolved) :
    resolved.toFolder = folder := by
  obtain ⟨content, -, attached⟩ := bind_eq_ok.mp attached
  obtain ⟨metadata, -, attached⟩ := bind_eq_ok.mp attached
  cases attached
  rfl

theorem getFolder_row {resolved : ResolvedFolder}
    (found : getFolder env folderId db = .ok resolved) :
    findFolder folderId db = some resolved.toFolder := by
  grind [getFolder, attachResolvedLocations_row]

theorem getFolderAsUser_getFolder {actorId : String}
    (found : getFolderAsUser env actorId folderId db = .ok access) :
    getFolder env folderId db = .ok access.folder := by
  obtain ⟨folder, resolved, answered⟩ := bind_eq_ok.mp found
  grind

theorem getFolderAsUser_id {actorId : String}
    (found : getFolderAsUser env actorId folderId db = .ok access) :
    access.folder.id = folderId :=
  findFolder_id (getFolder_row (getFolderAsUser_getFolder found))

theorem getFolderAsUser_share {userId : String}
    (found : getFolderAsUser env userId folderId db = .ok access)
    (notOwner : ownsFolder userId folderId db = false) :
    (findFolderShare folderId userId db).map (·.permissions) = some access.permissions := by
  have resolves := getFolderAsUser_getFolder found
  have sameId := getFolderAsUser_id found
  have notOwnerRow : (access.folder.ownerId == userId) = false := by
    rw [ownsFolder, getFolder_row resolves] at notOwner
    exact notOwner
  obtain ⟨folder, resolved, answered⟩ := bind_eq_ok.mp found
  grind

end Lombok.Folders
