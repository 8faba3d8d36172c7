import Lombok.Folders.Shares

/-!
Contract: deleting a folder, and who can see a folder at all.

Owns `deleteFolderAsUser`. The deletion is one transaction, and the constraints
on the folder's id refuse it while the folder is shared or an app has settings
for it; preferences, objects and custom settings go with the folder.
`hasAccess` is what `getFolderAsUser` asks of the rows.
-/

namespace Lombok.Folders

open Lombok.Core Lombok.Library Lombok.Library.Action Lombok.Apps

/-- The user owns the folder or is a sharee of it. -/
def hasAccess (userId folderId : String) (db : Database) : Bool :=
  ownsFolder userId folderId db || (findFolderShare folderId userId db).isSome

/-- The constraint that refuses the deletion of a folder; `referencedBy` is that of another table
with a row of the folder. -/
def folderConstraint (folderId : String) (referencedBy : Option String) (db : Database) :
    Option String :=
  if db.folderShares.rows.any fun share => share.folderId == folderId then
    some "folder_shares_folder_id_folders_id_fk"
  else if db.appFolderSettings.rows.any fun settings => settings.folderId == folderId then
    some "app_folder_settings_folder_id_folders_id_fk"
  else referencedBy

/-- The rows that go with a folder. -/
def withoutFolder (folderId : String) (db : Database) : Database :=
  { db with
    folders := db.folders.delete fun folder => folder.id == folderId
    folderObjects := db.folderObjects.delete fun object => object.folderId == folderId
    folderUserPreferences :=
      db.folderUserPreferences.delete fun preference => preference.folderId == folderId
    appCustomFolderSettings :=
      db.appCustomFolderSettings.delete fun setting => setting.scopeId == folderId }

/-- The transaction of `deleteFolderAsUser`. -/
def deleteFolderRows (folderId : String) (referencedBy : Option String) : Service Unit := do
  Service.write fun db => { db with
    tasks := db.tasks.delete fun task => task.targetLocationFolderId == some folderId }
  Service.write fun db => { db with
    events := db.events.delete fun event => event.targetLocationFolderId == some folderId }
  let refused ← Service.query (folderConstraint folderId referencedBy)
  Action.require refused.isNone (.error (refused.getD ""))
  Service.write (withoutFolder folderId)

def deleteFolderAsUser (env : Env) (actorId folderId : String) (referencedBy : Option String) :
    Service Bool := do
  let access ← Service.check (getFolderAsUser env actorId folderId)
  Action.require (access.permissions.contains .folderForget) folderOperationForbiddenException
  Action.transaction (deleteFolderRows folderId referencedBy)
  pure true

/-- The service deletes the folder: the caller may forget it, and no row holds on to it. -/
def acceptsDeletion (env : Env) (actorId folderId : String) (referencedBy : Option String)
    (db : Database) : Bool :=
  match getFolderAsUser env actorId folderId db with
  | .ok access =>
      access.permissions.contains .folderForget &&
        (folderConstraint folderId referencedBy db).isNone
  | .error _ => false

/-! ### What a deletion leaves -/

theorem deleteFolderRows_returns {folderId : String} {referencedBy : Option String}
    {before after : World} :
    Returns (deleteFolderRows folderId referencedBy) before () after →
      (folderConstraint folderId referencedBy before.db).isNone = true ∧
        after.db.folders = before.db.folders.delete (fun folder => folder.id == folderId) ∧
          after.db.folderShares = before.db.folderShares := by
  unfold deleteFolderRows
  simp only [returns_bind, Service.write, returns_modify, Service.returns_query, returns_require]
  intro deleted
  obtain ⟨_, _, first, _, _, second, _, _, ⟨isRefused, third⟩, _, _, ⟨notRefused, fourth⟩,
    last⟩ := deleted
  rw [isRefused, second, first] at notRefused
  rw [last, fourth, third, second, first]
  exact ⟨notRefused, rfl, rfl⟩

/-- A deletion removes the folder and no share, or changes nothing. -/
theorem deleteFolderAsUser_cases (env : Env) (actorId folderId : String)
    (referencedBy : Option String) (world : World) :
    (deleteFolderAsUser env actorId folderId referencedBy world).2 = world ∨
      acceptsDeletion env actorId folderId referencedBy world.db = true ∧
        (deleteFolderAsUser env actorId folderId referencedBy world).2.db.folders =
          world.db.folders.delete (fun folder => folder.id == folderId) ∧
        (deleteFolderAsUser env actorId folderId referencedBy world).2.db.folderShares =
          world.db.folderShares := by
  unfold deleteFolderAsUser acceptsDeletion
  rcases found : getFolderAsUser env actorId folderId world.db with error | access
  · rw [bind_of_throws (Service.check_throws found)]
    exact .inl rfl
  · rw [bind_of_returns (Service.returns_check.mpr ⟨found, rfl⟩)]
    cases permitted : access.permissions.contains .folderForget with
    | false =>
        exact .inl rfl
    | true =>
        rw [bind_of_returns (require_returns rfl _ world)]
        rcases transaction_cases (deleteFolderRows folderId referencedBy) world with
          ⟨value, after, returned, committed⟩ | ⟨error, rolledBack⟩
        · right
          rw [bind_of_returns committed]
          obtain ⟨deletable, folders, shares⟩ := deleteFolderRows_returns returned
          exact ⟨Bool.and_eq_true_iff.mpr ⟨permitted, deletable⟩, folders, shares⟩
        · rw [bind_of_throws rolledBack]
          exact .inl rfl

/-- Whoever has access keeps it, unless it is the folder that is deleted. -/
theorem hasAccess_deletion {env : Env} {actorId folderId : String}
    {referencedBy : Option String} {world : World} {userId other : String}
    (access : hasAccess userId other world.db = true)
    (apart : acceptsDeletion env actorId folderId referencedBy world.db = false ∨
      other ≠ folderId) :
    hasAccess userId other (deleteFolderAsUser env actorId folderId referencedBy world).2.db =
      true := by
  rcases deleteFolderAsUser_cases env actorId folderId referencedBy world with
    same | ⟨accepted, folders, shares⟩
  · rw [same]
    exact access
  · rcases apart with refused | different
    · rw [refused] at accepted
      cases accepted
    · unfold hasAccess ownsFolder findFolder findFolderShare at access ⊢
      rw [folders, shares, Table.find?_delete]
      · exact access
      · grind

/-- Sharing a folder takes access from nobody, and unsharing it from one user at most. -/
theorem hasAccess_share {env : Env} {world : World} {request : ShareRequest}
    {userId folderId : String} (access : hasAccess userId folderId world.db = true)
    (keeps : request.call = .remove folderId userId →
      acceptsShareCall env request.actorId folderId userId world.db = false ∨
        ownsFolder userId folderId world.db = true) :
    hasAccess userId folderId (shareStep env world request).db = true := by
  unfold hasAccess at access ⊢
  rw [shareStep_owners env world request userId folderId]
  rcases Bool.or_eq_true_iff.mp access with owns | shared
  · rw [owns]
    rfl
  · have entries := congrFun (shareStep_actsOn env world request) (folderId, userId)
    have isShared : (findFolderShare folderId userId (shareStep env world request).db).isSome =
        (sharePermissions (shareStep env world request) (folderId, userId)).isSome := by
      rw [sharePermissions, Option.isSome_map]
    have wasShared : (sharePermissions world (folderId, userId)).isSome = true := by
      rw [sharePermissions, Option.isSome_map]
      exact shared
    rw [isShared, entries, Bool.or_eq_true]
    obtain ⟨actorId, call⟩ := request
    unfold applyShareCall
    cases call with
    | upsert sharedId shareeId permissions =>
        right
        dsimp only
        split
        · by_cases same : (folderId, userId) = (sharedId, shareeId)
          · rw [same, Function.update_self]
            rfl
          · rw [Function.update_of_ne same]
            exact wasShared
        · exact wasShared
    | remove sharedId shareeId =>
        dsimp only at keeps ⊢
        split
        · rename_i accepted
          by_cases same : (folderId, userId) = (sharedId, shareeId)
          · left
            cases same
            rcases keeps rfl with refused | owns
            · rw [refused] at accepted
              cases accepted
            · exact owns
          · simp [same, wasShared]
        · exact .inr wasShared
    | update updatedId name => exact .inr wasShared

end Lombok.Folders
