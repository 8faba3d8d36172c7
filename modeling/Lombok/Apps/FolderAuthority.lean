import Lombok.Tasks.Service

/-!
Contract: who decides whether an app may touch the objects of a folder.

Four places decide: signing content URLs for an app, a docker job asking for
presigned URLs, the check of a storage access policy, and the check of a docker
worker's uploads. `MayTouch` is the one answer they are to give.
`oneAuthority_iff` says for which settings they all do.

Does not own: the resolution of settings (see `Access`), or the URLs themselves.
-/

namespace Lombok.Apps

open Lombok.Core Lombok.Library Lombok.Library.Action Lombok.Tasks Lombok.Folders

/-! ### Signed content URLs -/

structure ContentUrlRequest where
  folderId : String
  objectKey : String
  method : SignedURLsRequestMethod
deriving DecidableEq, Inhabited

/-- The checks of `createSignedContentUrlsAsApp`, in front of the signing. -/
def validateContentUrlRequests (appIdentifier : String) (db : Database) :
    List ContentUrlRequest → Except ApiError Unit
  | [] => .ok ()
  | request :: rest => do
      validateAppFolderAccess appIdentifier request.folderId db
      validateContentUrlRequests appIdentifier db rest

/-! ### Docker jobs -/

structure DockerWorkerJobClaims where
  taskId : String
  storageAccessPolicy : StorageAccessPolicy
deriving Inhabited

def ruleCovers (rule : StorageAccessPolicyAccessRule) (file : ContentUrlRequest) : Bool :=
  rule.folderId == file.folderId && rule.methods.contains file.method &&
    match rule.scope with
    | .folder => true
    | .object objectKey => objectKey != "" && file.objectKey == objectKey
    | .prefixed keyPrefix =>
        keyPrefix != "" && keyPrefix.toList.isPrefixOf file.objectKey.toList

def methodText : SignedURLsRequestMethod → String
  | .get => "GET"
  | .head => "HEAD"
  | .put => "PUT"
  | .delete => "DELETE"

def validateFilesOfClaims (claims : DockerWorkerJobClaims) :
    List ContentUrlRequest → Except ApiError Unit
  | [] => .ok ()
  | file :: rest =>
      if claims.storageAccessPolicy.rules.any fun rule => ruleCovers rule file then
        validateFilesOfClaims claims rest
      else
        .error (.forbidden ("Access to folder " ++ file.folderId ++ ", with method " ++
          methodText file.method ++ " and object key " ++ file.objectKey ++ ", is not allowed"))

/-- `dockerTask.data.innerTaskId` and the task it names. -/
def findInnerTask (dockerTask : Task) (db : Database) : Option Task :=
  match dockerTask.data.get? "innerTaskId" with
  | some (.str innerTaskId) => findTask innerTaskId db
  | _ => none

/-- `requestPresignedStorageUrls`, up to the signing. -/
def validatePresignedUrlsRequest (claims : DockerWorkerJobClaims) (files : List ContentUrlRequest)
    (db : Database) : Except ApiError Unit := do
  match findTask claims.taskId db with
  | none => .error (.notFound ("Task not found: " ++ claims.taskId))
  | some dockerTask =>
      if dockerTask.startedAt.isNone then
        .error (.forbidden ("Task " ++ claims.taskId ++ " has not been started yet"))
      else if dockerTask.completedAt.isSome then
        .error (.forbidden ("Task " ++ claims.taskId ++ " has already been completed"))
      else
        match findInnerTask dockerTask db with
        | none => .error (.notFound "Inner task not found: undefined")
        | some innerTask => do
            validateFilesOfClaims claims files
            validateContentUrlRequests innerTask.ownerId db files

/-! ### Docker worker uploads -/

/-- The lookup of `validateStorageAccess`, which compares the `appId` column with the identifier
of the app. -/
def findUploadSettings (app : App) (folderId : String) (db : Database) :
    Option AppFolderSettings :=
  findFolderSettings app.identifier folderId db

/-- The per-folder part of `validateStorageAccess`. -/
def validateUploadFolder (app : App) (db : Database) (folderId : String) : Except ApiError Unit :=
  let folderSetting := findUploadSettings app folderId db
  if !(folderSetting.bind (·.enabled)).getD app.folderScopeEnabledDefault then
    .error (.forbidden ("App \"" ++ app.identifier ++ "\" is not enabled for folder \"" ++
      folderId ++ "\""))
  else if !((folderSetting.bind (·.permissions)).getD app.folderPermissions).contains
      .writeObjects then
    .error (.forbidden ("App \"" ++ app.identifier ++
      "\" does not have WRITE_OBJECTS permission for folder \"" ++ folderId ++ "\""))
  else
    .ok ()

def validateUploadFolders (app : App) (db : Database) : List String → Except ApiError Unit
  | [] => .ok ()
  | folderId :: rest => do
      validateUploadFolder app db folderId
      validateUploadFolders app db rest

/-- `validateStorageAccess`; the requested uploads are the entries of an object, whose keys are
the folders. -/
def validateStorageAccess (appIdentifier : String)
    (requestedUploads : List (String × List String)) (db : Database) :
    Except ApiError (List (String × List String)) := do
  let folderIds := requestedUploads.map Prod.fst
  if folderIds.isEmpty then
    .ok []
  else
    match getApp appIdentifier (some true) db with
    | none =>
        .error (.notFound ("App \"" ++ appIdentifier ++ "\" not found or is not enabled"))
    | some app =>
        if !app.folderPermissions.contains .writeObjects then
          .error (.forbidden ("App \"" ++ appIdentifier ++
            "\" does not have WRITE_OBJECTS permission"))
        else
          let folders := db.folders.view fun folder => folderIds.contains folder.id
          if folders.length != folderIds.length then
            let missingIds := folderIds.filter fun id => !folders.any fun folder => folder.id == id
            .error (.notFound ("Folders not found: " ++ ", ".intercalate missingIds))
          else do
            validateUploadFolders app db folderIds
            .ok requestedUploads

/-! ### The one answer -/

def requiredPermission : SignedURLsRequestMethod → FolderScopeAppPermissions
  | .get | .head => .readObjects
  | .put | .delete => .writeObjects

def isDisabledByOwner (app : App) (folder : Folder) (db : Database) : Bool :=
  (findUserSettings app.id folder.ownerId db).bind (·.enabled) == some false

/-- The app may touch the object: it is enabled, the resolved settings enable it on the folder and
grant the permission the method needs, and the owner has not disabled it. -/
def MayTouch (appIdentifier : String) (request : ContentUrlRequest) (db : Database) : Prop :=
  ∃ app folder, getApp appIdentifier (some true) db = some app ∧
    findFolder request.folderId db = some folder ∧
    (resolvedFolderSettings app folder db).isEnabled = true ∧
    (resolvedFolderSettings app folder db).grantedPermissions.contains
      (requiredPermission request.method) = true ∧
    isDisabledByOwner app folder db = false

def policyOf (request : ContentUrlRequest) (scope : AccessRuleScope) : StorageAccessPolicy where
  rules := [{ folderId := request.folderId, scope := scope, methods := [request.method] }]
  outputLocation := none

/-- The token belongs to a running job of the app and covers the request. -/
structure IsJobOf (appIdentifier : String) (claims : DockerWorkerJobClaims)
    (request : ContentUrlRequest) (db : Database) : Prop where
  running : ∃ dockerTask innerTask, findTask claims.taskId db = some dockerTask ∧
    dockerTask.startedAt.isSome = true ∧ dockerTask.completedAt = none ∧
    findInnerTask dockerTask db = some innerTask ∧ innerTask.ownerId = appIdentifier
  covered : claims.storageAccessPolicy.rules.any (fun rule => ruleCovers rule request) = true

/-- All four places give the one answer. The upload check is asked about uploads only. -/
structure OneAuthority (appIdentifier : String) (request : ContentUrlRequest) (db : Database) :
    Prop where
  contentUrls : (validateContentUrlRequests appIdentifier db [request]).isOk = true ↔
    MayTouch appIdentifier request db
  presignedUrls : ∀ claims, IsJobOf appIdentifier claims request db →
    ((validatePresignedUrlsRequest claims [request] db).isOk = true ↔
      MayTouch appIdentifier request db)
  policy : ∀ scope,
    (validateAppStorageAccessPolicy appIdentifier (policyOf request scope) db).isOk = true ↔
      MayTouch appIdentifier request db
  uploads : request.method = .put →
    ((validateStorageAccess appIdentifier [(request.folderId, [request.objectKey])]
        db).isOk = true ↔
      MayTouch appIdentifier request db)

/-- What the upload check makes of the app's defaults and the settings it looks up. -/
def defaultsAllowUploads (app : App) (folderSetting : Option AppFolderSettings) : Bool :=
  app.folderPermissions.contains .writeObjects &&
    (folderSetting.bind (·.enabled)).getD app.folderScopeEnabledDefault &&
    ((folderSetting.bind (·.permissions)).getD app.folderPermissions).contains .writeObjects

/-- The settings of an app on a folder leave the four places no room to differ. -/
structure SettingsCoincide (app : App) (folder : Folder) (method : SignedURLsRequestMethod)
    (db : Database) : Prop where
  granted : (resolvedFolderSettings app folder db).isEnabled = true →
    (resolvedFolderSettings app folder db).grantedPermissions.contains
      (requiredPermission method) = true
  notOverridden : (resolvedFolderSettings app folder db).isEnabled = true →
    isDisabledByOwner app folder db = false
  sameDefaults : method = .put →
    defaultsAllowUploads app (findUploadSettings app folder.id db) =
      (resolvedFolderSettings app folder db).isEnabled

/-! ### What each place decides -/

variable {db : Database} {appIdentifier : String} {request : ContentUrlRequest} {app : App}
    {folderId : String} {folder : Folder}

theorem getEnabledApp_ok :
    getEnabledApp appIdentifier db = .ok app ↔ getApp appIdentifier (some true) db = some app := by
  grind [getEnabledApp]

theorem view_singleton_folder (folderId : String) (db : Database) :
    (db.folders.view fun folder => [folderId].contains folder.id) =
      (findFolder folderId db).toList := by
  have sameTest : (fun folder : Folder => [folderId].contains folder.id) =
      fun folder => folder.id == folderId := by
    grind
  rw [sameTest]
  refine db.folders.view_eq_find? ?_
  grind [Folder.clash]

theorem validateAppFolderAccess_isOk :
    (validateAppFolderAccess appIdentifier folderId db).isOk = true ↔
      ∃ app folder, getApp appIdentifier (some true) db = some app ∧
        findFolder folderId db = some folder ∧
        (resolvedFolderSettings app folder db).isEnabled = true := by
  rw [validateAppFolderAccess, isOk_bind]
  apply exists_congr
  intro app
  rw [getEnabledApp_ok, exists_and_left]
  apply and_congr_right
  intro appFound
  cases findFolder folderId db with
  | none => simp
  | some folder =>
      cases enabled : (resolvedFolderSettings app folder db).isEnabled with
      | false => simp [enabled]
      | true => simp [enabled]

theorem validateContentUrlRequests_isOk :
    (validateContentUrlRequests appIdentifier db [request]).isOk = true ↔
      ∃ app folder, getApp appIdentifier (some true) db = some app ∧
        findFolder request.folderId db = some folder ∧
        (resolvedFolderSettings app folder db).isEnabled = true := by
  grind [validateContentUrlRequests, isOk_bind, validateAppFolderAccess_isOk, isOk_unit.mp]

theorem validatePresignedUrlsRequest_ofJob {claims : DockerWorkerJobClaims}
    (job : IsJobOf appIdentifier claims request db) :
    validatePresignedUrlsRequest claims [request] db =
      validateContentUrlRequests appIdentifier db [request] := by
  obtain ⟨dockerTask, innerTask, dockerFound, started, notCompleted, innerFound, owner⟩ :=
    job.running
  obtain ⟨startedAt, startedWhen⟩ := Option.isSome_iff_exists.mp started
  have filesPass : validateFilesOfClaims claims [request] = .ok () := by
    rw [validateFilesOfClaims, if_pos job.covered]
    rfl
  unfold validatePresignedUrlsRequest
  simp only [dockerFound, startedWhen, notCompleted, innerFound, filesPass, owner,
    Option.isNone_some, Option.isSome_none, Bool.false_eq_true, if_false]
  rfl

theorem requiredPermissions_policyOf (request : ContentUrlRequest) (scope : AccessRuleScope) :
    getRequiredPermissionsForFolderFromPolicy (policyOf request scope) request.folderId =
      [requiredPermission request.method] := by
  unfold getRequiredPermissionsForFolderFromPolicy policyOf
  cases request.method with
  | get => simp [requiredPermission]
  | head => simp [requiredPermission]
  | put => simp [requiredPermission]
  | delete => simp [requiredPermission]

theorem validateFolderOfPolicy_isOk {scope : AccessRuleScope}
    (sameFolder : folder.id = request.folderId) :
    (validateFolderOfPolicy appIdentifier app (policyOf request scope) db folder).isOk = true ↔
      (resolvedFolderSettings app folder db).isEnabled = true ∧
        (resolvedFolderSettings app folder db).grantedPermissions.contains
          (requiredPermission request.method) = true := by
  unfold validateFolderOfPolicy
  rw [sameFolder, requiredPermissions_policyOf]
  dsimp only
  cases enabled : (resolvedFolderSettings app folder db).isEnabled with
  | false => simp
  | true =>
      cases granted : (resolvedFolderSettings app folder db).grantedPermissions.contains
          (requiredPermission request.method) with
      | false =>
          simp only [List.find?_cons, granted]
          simp
      | true =>
          simp only [List.find?_cons, granted]
          simp

theorem validateAppStorageAccessPolicy_isOk {scope : AccessRuleScope} :
    (validateAppStorageAccessPolicy appIdentifier (policyOf request scope) db).isOk = true ↔
      ∃ app folder, getApp appIdentifier (some true) db = some app ∧
        findFolder request.folderId db = some folder ∧
        (resolvedFolderSettings app folder db).isEnabled = true ∧
        (resolvedFolderSettings app folder db).grantedPermissions.contains
          (requiredPermission request.method) = true := by
  have oneFolder : ((policyOf request scope).rules.map (·.folderId)).eraseDups =
      [request.folderId] := rfl
  unfold validateAppStorageAccessPolicy
  simp only [oneFolder, view_singleton_folder, List.isEmpty_cons, Bool.false_eq_true, if_false]
  rw [isOk_bind]
  apply exists_congr
  intro app
  rw [getEnabledApp_ok, exists_and_left]
  apply and_congr_right
  intro appFound
  cases found : findFolder request.folderId db with
  | none => simp
  | some folder =>
      have sameFolder := findFolder_id found
      simp only [Option.toList_some, List.length_singleton, bne_self_eq_false,
        Bool.false_eq_true, if_false, validateFoldersOfPolicy, isOk_bind, isOk_ok, and_true,
        Option.some.injEq, exists_eq_left']
      rw [← validateFolderOfPolicy_isOk sameFolder, isOk_unit]
      constructor
      · rintro ⟨_, passes⟩
        exact passes
      · intro passes
        exact ⟨(), passes⟩

theorem validateUploadFolder_isOk :
    (validateUploadFolder app db folderId).isOk = true ↔
      ((findUploadSettings app folderId db).bind (·.enabled)).getD app.folderScopeEnabledDefault =
          true ∧
        (((findUploadSettings app folderId db).bind (·.permissions)).getD
          app.folderPermissions).contains .writeObjects = true := by
  unfold validateUploadFolder
  dsimp only
  split
  · simp_all
  · split
    · simp_all
    · simp_all

theorem validateUploadFolders_isOk :
    (validateUploadFolders app db [folderId]).isOk = true ↔
      (validateUploadFolder app db folderId).isOk = true := by
  grind [validateUploadFolders, isOk_bind, isOk_unit.mp]

theorem validateStorageAccess_isOk {objectKey : String} :
    (validateStorageAccess appIdentifier [(folderId, [objectKey])] db).isOk = true ↔
      ∃ app folder, getApp appIdentifier (some true) db = some app ∧
        findFolder folderId db = some folder ∧
        defaultsAllowUploads app (findUploadSettings app folder.id db) = true := by
  unfold validateStorageAccess
  simp only [List.map_cons, List.map_nil, view_singleton_folder, List.isEmpty_cons,
    Bool.false_eq_true, if_false]
  cases getApp appIdentifier (some true) db with
  | none => simp
  | some app =>
      simp only [Option.some.injEq, exists_and_left, exists_eq_left', defaultsAllowUploads]
      cases app.folderPermissions.contains FolderScopeAppPermissions.writeObjects with
      | false =>
          simp
      | true =>
          cases found : findFolder folderId db with
          | none => simp
          | some folder =>
              have sameFolder := findFolder_id found
              rw [if_neg (by simp), if_neg (by simp), isOk_bind]
              simp only [Option.some.injEq, exists_eq_left', sameFolder, Bool.true_and,
                Bool.and_eq_true, isOk_ok, and_true]
              rw [← validateUploadFolder_isOk, ← validateUploadFolders_isOk, isOk_unit]
              constructor
              · rintro ⟨_, passes⟩
                exact passes
              · intro passes
                exact ⟨(), passes⟩

/-! ### When they agree -/

/-- Where the app and the folder exist, the answer is read off the resolved settings. -/
theorem mayTouch_iff (appFound : getApp appIdentifier (some true) db = some app)
    (folderFound : findFolder request.folderId db = some folder) :
    MayTouch appIdentifier request db ↔
      (resolvedFolderSettings app folder db).isEnabled = true ∧
        (resolvedFolderSettings app folder db).grantedPermissions.contains
          (requiredPermission request.method) = true ∧
        isDisabledByOwner app folder db = false := by
  simp [MayTouch, appFound, folderFound]

/-- Without room to differ, enablement alone is the answer. -/
theorem mayTouch_iff_enabled
    (coincide : ∀ app folder, getApp appIdentifier (some true) db = some app →
      findFolder request.folderId db = some folder →
      SettingsCoincide app folder request.method db) :
    (∃ app folder, getApp appIdentifier (some true) db = some app ∧
        findFolder request.folderId db = some folder ∧
        (resolvedFolderSettings app folder db).isEnabled = true) ↔
      MayTouch appIdentifier request db := by
  constructor
  · rintro ⟨app, folder, appFound, folderFound, enabled⟩
    have settings := coincide app folder appFound folderFound
    exact ⟨app, folder, appFound, folderFound, enabled, settings.granted enabled,
      settings.notOverridden enabled⟩
  · rintro ⟨app, folder, appFound, folderFound, enabled, -, -⟩
    exact ⟨app, folder, appFound, folderFound, enabled⟩

theorem oneAuthority_of_coincide
    (coincide : ∀ app folder, getApp appIdentifier (some true) db = some app →
      findFolder request.folderId db = some folder →
      SettingsCoincide app folder request.method db) :
    OneAuthority appIdentifier request db where
  contentUrls := by
    rw [validateContentUrlRequests_isOk]
    exact mayTouch_iff_enabled coincide
  presignedUrls := by
    intro claims job
    rw [validatePresignedUrlsRequest_ofJob job, validateContentUrlRequests_isOk]
    exact mayTouch_iff_enabled coincide
  policy := by
    intro scope
    rw [validateAppStorageAccessPolicy_isOk]
    constructor
    · rintro ⟨app, folder, appFound, folderFound, enabled, granted⟩
      have settings := coincide app folder appFound folderFound
      exact ⟨app, folder, appFound, folderFound, enabled, granted,
        settings.notOverridden enabled⟩
    · rintro ⟨app, folder, appFound, folderFound, enabled, granted, -⟩
      exact ⟨app, folder, appFound, folderFound, enabled, granted⟩
  uploads := by
    intro isPut
    rw [validateStorageAccess_isOk, ← mayTouch_iff_enabled coincide]
    constructor
    · rintro ⟨app, folder, appFound, folderFound, allowed⟩
      have settings := coincide app folder appFound folderFound
      grind [settings.sameDefaults]
    · rintro ⟨app, folder, appFound, folderFound, enabled⟩
      have settings := coincide app folder appFound folderFound
      rw [← settings.sameDefaults isPut] at enabled
      exact ⟨app, folder, appFound, folderFound, enabled⟩

theorem coincide_of_oneAuthority (authority : OneAuthority appIdentifier request db)
    (appFound : getApp appIdentifier (some true) db = some app)
    (folderFound : findFolder request.folderId db = some folder) :
    SettingsCoincide app folder request.method db := by
  have answer := mayTouch_iff appFound folderFound
  have touches (enabled : (resolvedFolderSettings app folder db).isEnabled = true) :
      MayTouch appIdentifier request db :=
    authority.contentUrls.mp (validateContentUrlRequests_isOk.mpr
      ⟨app, folder, appFound, folderFound, enabled⟩)
  refine ⟨?_, ?_, ?_⟩
  · intro enabled
    exact (answer.mp (touches enabled)).2.1
  · intro enabled
    exact (answer.mp (touches enabled)).2.2
  · intro isPut
    have uploads := authority.uploads isPut
    rw [validateStorageAccess_isOk] at uploads
    rw [Bool.eq_iff_iff]
    constructor
    · intro allowed
      simp [uploads.mp, answer.mp, appFound, folderFound, allowed]
    · intro enabled
      obtain ⟨otherApp, otherFolder, otherAppFound, otherFolderFound, allowed⟩ :=
        uploads.mpr (touches enabled)
      rw [appFound] at otherAppFound
      rw [folderFound] at otherFolderFound
      grind

/-- All paths give the one answer exactly where the settings leave them no room to differ. -/
theorem oneAuthority_iff (appIdentifier : String) (request : ContentUrlRequest) (db : Database) :
    OneAuthority appIdentifier request db ↔
      ∀ app folder, getApp appIdentifier (some true) db = some app →
        findFolder request.folderId db = some folder →
        SettingsCoincide app folder request.method db := by
  constructor
  · intro authority app folder appFound folderFound
    exact coincide_of_oneAuthority authority appFound folderFound
  · intro coincide
    exact oneAuthority_of_coincide coincide

/-! ### A read-only app is given an upload URL -/

/-- The sample app, which may read objects, and one folder without settings. -/
def sampleFolders : Database where
  apps := .singleton App.sample
  folders :=
    .singleton
      { id := "folder", name := "Photos", ownerId := "owner", createdAt := 0, updatedAt := 0 }

def sampleUpload : ContentUrlRequest where
  folderId := "folder"
  objectKey := "a.txt"
  method := .put

theorem readOnlyApp_signsUploads :
    ¬∀ appIdentifier request db, OneAuthority appIdentifier request db := by
  intro always
  have authority := always App.sample.identifier sampleUpload sampleFolders
  have signs : (validateContentUrlRequests App.sample.identifier sampleFolders
      [sampleUpload]).isOk = true := by decide +kernel
  obtain ⟨app, folder, appFound, folderFound, -, granted, -⟩ := authority.contentUrls.mp signs
  have denied : ∀ app ∈ getApp App.sample.identifier (some true) sampleFolders,
      ∀ folder ∈ findFolder "folder" sampleFolders,
        (resolvedFolderSettings app folder sampleFolders).grantedPermissions.contains
          .writeObjects = false := by decide +kernel
  rw [show requiredPermission sampleUpload.method = .writeObjects from rfl,
    denied app appFound folder folderFound] at granted
  cases granted

end Lombok.Apps
