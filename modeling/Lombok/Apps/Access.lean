import Lombok.Core.World

/-!
Contract: which folders and users an app may work on.

Owns the lookup of apps, the resolution of user- and folder-level settings and
the checks of `AppService` built on it. All of them only read, so they are
functions of the database that may throw.
-/

namespace Lombok.Apps

open Lombok.Core Lombok.Library Lombok.Tasks Lombok.Folders

/-- `getApp(appIdentifier, { enabled })`; without `enabled` the column is not compared. -/
def getApp (appIdentifier : String) (enabled : Option Bool) (db : Database) : Option App :=
  db.apps.find? fun app =>
    app.identifier == appIdentifier && (enabled.isNone || enabled == some app.enabled)

/-! ### Resolved settings -/

inductive SettingSource where
  | user
  | system
deriving DecidableEq, Inhabited

/-- A value with the level it comes from. -/
structure Fallback (α : Type) where
  value : α
  source : SettingSource
deriving DecidableEq, Inhabited

structure ResolvedFolderAppSettings where
  appIdentifier : String
  enabledFallback : Fallback Bool
  permissionsFallback : Fallback (List FolderScopeAppPermissions)
  permissions : Option (List FolderScopeAppPermissions)
  enabled : Option Bool
deriving DecidableEq, Inhabited

def resolveFolderAppSettings (app : App) (userSettings : Option AppUserSettings)
    (folderSettings : Option AppFolderSettings) : ResolvedFolderAppSettings :=
  let explicitlyDisabledAtUserLevel := userSettings.bind (·.enabled) == some false
  { appIdentifier := app.identifier
    enabledFallback :=
      match userSettings.bind (·.folderScopeEnabledDefault) with
      | some value => ⟨value, .user⟩
      | none => ⟨app.userScopeEnabledDefault && app.folderScopeEnabledDefault, .system⟩
    permissionsFallback :=
      match userSettings.bind (·.folderScopePermissionsDefault) with
      | some value => ⟨value, .user⟩
      | none => ⟨app.folderPermissions, .system⟩
    permissions := folderSettings.bind (·.permissions)
    enabled :=
      if explicitlyDisabledAtUserLevel then none else folderSettings.bind (·.enabled) }

namespace ResolvedFolderAppSettings

/-- `enabled === null ? enabledFallback.value : enabled`. -/
def isEnabled (settings : ResolvedFolderAppSettings) : Bool :=
  settings.enabled.getD settings.enabledFallback.value

/-- `permissions === null ? permissionsFallback.value : permissions`. -/
def grantedPermissions (settings : ResolvedFolderAppSettings) :
    List FolderScopeAppPermissions :=
  settings.permissions.getD settings.permissionsFallback.value

end ResolvedFolderAppSettings

/-- The part of `resolveUserAppSettings` the checks read: `enabled ?? enabledFallback`. -/
def userSettingsEnabled (app : App) (userSettings : Option AppUserSettings) : Bool :=
  (userSettings.bind (·.enabled)).getD app.userScopeEnabledDefault

def findUserSettings (appId : String) (userId : String) (db : Database) :
    Option AppUserSettings :=
  db.appUserSettings.find? fun settings => settings.appId == appId && settings.userId == userId

def findFolderSettings (appId : String) (folderId : String) (db : Database) :
    Option AppFolderSettings :=
  db.appFolderSettings.find? fun settings =>
    settings.appId == appId && settings.folderId == folderId

def findFolder (folderId : String) (db : Database) : Option Folder :=
  db.folders.find? fun folder => folder.id == folderId

theorem findFolder_id {folderId : String} {db : Database} {folder : Folder}
    (found : findFolder folderId db = some folder) : folder.id = folderId := by
  have holds := List.find?_some found
  exact beq_iff_eq.mp holds

def resolvedFolderSettings (app : App) (folder : Folder) (db : Database) :
    ResolvedFolderAppSettings :=
  resolveFolderAppSettings app (findUserSettings app.id folder.ownerId db)
    (findFolderSettings app.id folder.id db)

/-! ### Checks -/

def appNotEnabledMessage (appIdentifier : String) : String :=
  "Unauthorized: app \"" ++ appIdentifier ++ "\" is not enabled or does not exist."

def notEnabledForFolderMessage (appIdentifier folderId : String) : String :=
  "Unauthorized: app \"" ++ appIdentifier ++ "\" is not enabled for folder \"" ++ folderId ++ "\"."

def notEnabledForUserMessage (appIdentifier userId : String) : String :=
  "Unauthorized: app \"" ++ appIdentifier ++ "\" is not enabled for user \"" ++ userId ++ "\"."

def folderNotFoundMessage (folderId : String) : String := "Folder not found: " ++ folderId

def getEnabledApp (appIdentifier : String) (db : Database) : Except ApiError App :=
  match getApp appIdentifier (some true) db with
  | some app => .ok app
  | none => .error (.unauthorized (appNotEnabledMessage appIdentifier))

def validateAppUserAccess (appIdentifier userId : String) (db : Database) :
    Except ApiError Unit := do
  let app ← getEnabledApp appIdentifier db
  if userSettingsEnabled app (findUserSettings app.id userId db) then
    pure ()
  else
    .error (.unauthorized (notEnabledForUserMessage appIdentifier userId))

def validateAppFolderAccess (appIdentifier folderId : String) (db : Database) :
    Except ApiError Unit := do
  let app ← getEnabledApp appIdentifier db
  match findFolder folderId db with
  | none => .error (.notFound (folderNotFoundMessage folderId))
  | some folder =>
      if (resolvedFolderSettings app folder db).isEnabled then
        pure ()
      else
        .error (.unauthorized (notEnabledForFolderMessage appIdentifier folder.id))

/-- `getRequiredPermissionsForFolderFromPolicy`. -/
def getRequiredPermissionsForFolderFromPolicy (policy : StorageAccessPolicy)
    (folderId : String) : List FolderScopeAppPermissions :=
  let methods := (policy.rules.filter fun rule => rule.folderId == folderId).flatMap (·.methods)
  (if methods.any fun method => method == .get || method == .head then [.readObjects] else []) ++
    (if methods.any fun method => method == .put || method == .delete then [.writeObjects] else [])

/-- The text of a permission in error messages. -/
def FolderScopeAppPermissions.name : FolderScopeAppPermissions → String
  | readObjects => "READ_OBJECTS"
  | writeObjects => "WRITE_OBJECTS"
  | writeObjectsMetadata => "WRITE_OBJECTS_METADATA"
  | writeFolderMetadata => "WRITE_FOLDER_METADATA"
  | reindexFolder => "REINDEX_FOLDER"

def validateFolderOfPolicy (appIdentifier : String) (app : App) (policy : StorageAccessPolicy)
    (db : Database) (folder : Folder) : Except ApiError Unit := do
  let resolved := resolvedFolderSettings app folder db
  if !resolved.isEnabled then
    .error (.unauthorized (notEnabledForFolderMessage appIdentifier folder.id))
  else
    match (getRequiredPermissionsForFolderFromPolicy policy folder.id).find? fun permission =>
      !resolved.grantedPermissions.contains permission with
    | some missing =>
        .error (.unauthorized ("Unauthorized: app \"" ++ appIdentifier ++ "\" is missing \"" ++
          missing.name ++ "\" permission for folder \"" ++ folder.id ++ "\"."))
    | none => pure ()

/-- Check the folders one after another; the first failure is thrown. -/
def validateFoldersOfPolicy (appIdentifier : String) (app : App) (policy : StorageAccessPolicy)
    (db : Database) : List Folder → Except ApiError Unit
  | [] => .ok ()
  | folder :: rest => do
      validateFolderOfPolicy appIdentifier app policy db folder
      validateFoldersOfPolicy appIdentifier app policy db rest

def validateAppStorageAccessPolicy (appIdentifier : String) (policy : StorageAccessPolicy)
    (db : Database) : Except ApiError Unit := do
  let uniqueFolderIds := (policy.rules.map (·.folderId)).eraseDups
  if uniqueFolderIds.isEmpty then
    pure ()
  else
    let app ← getEnabledApp appIdentifier db
    let folders := db.folders.view fun folder => uniqueFolderIds.contains folder.id
    if folders.length != uniqueFolderIds.length then
      let missingIds := uniqueFolderIds.filter fun id => !folders.any fun folder => folder.id == id
      .error (.notFound ("Folder" ++ (if missingIds.length > 1 then "s" else "") ++
          " not found: " ++
        ", ".intercalate missingIds))
    else
      validateFoldersOfPolicy appIdentifier app policy db folders

end Lombok.Apps
