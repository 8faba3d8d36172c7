import Lombok.Core.Values
import Lombok.Library.Table

/-!
Contract: the folder tables: folders, their shares, their objects, the storage
locations they resolve to, and the users they belong to.

Does not own: who may see a folder, or which storage key an object has.
-/

namespace Lombok.Folders

open Lombok.Core Lombok.Library

inductive FolderPermissionName where
  | folderReindex
  | folderForget
  | folderEdit
  | objectEdit
  | objectManage
deriving DecidableEq, Inhabited

/-- A row of `foldersTable`; an absent location is the builtin provision. -/
structure Folder where
  id : String
  name : String
  contentLocationId : Option String := none
  metadataLocationId : Option String := none
  ownerId : String
  accessError : Option (String × String) := none
  iconUpdatedAt : Option Date := none
  createdAt : Date
  updatedAt : Date
deriving DecidableEq, Inhabited

def Folder.clash (left right : Folder) : Bool := left.id == right.id

abbrev FoldersTable := Table Folder Folder.clash

/-- A row of `folderSharesTable`. -/
structure FolderShare where
  folderId : String
  userId : String
  permissions : List FolderPermissionName
  createdAt : Date
  updatedAt : Date
deriving DecidableEq, Inhabited

def FolderShare.clash (left right : FolderShare) : Bool :=
  left.folderId == right.folderId && left.userId == right.userId

abbrev FolderSharesTable := Table FolderShare FolderShare.clash

inductive MediaType where
  | image
  | video
  | audio
  | document
  | other
deriving DecidableEq, Inhabited

def MediaType.name : MediaType → String
  | image => "IMAGE"
  | video => "VIDEO"
  | audio => "AUDIO"
  | document => "DOCUMENT"
  | other => "OTHER"

/-- A row of `folderObjectsTable`; `contentMetadata` maps content hashes to metadata entries. -/
structure FolderObject where
  id : String
  objectKey : String
  filename : String
  eTag : String
  sizeBytes : Nat
  lastModified : Int
  hash : Option String
  contentMetadata : List (String × Fields)
  folderId : String
  mimeType : String
  mediaType : MediaType
  createdAt : Date
  updatedAt : Date
deriving Inhabited

def FolderObject.clash (left right : FolderObject) : Bool :=
  left.id == right.id || (left.folderId == right.folderId && left.objectKey == right.objectKey)

abbrev FolderObjectsTable := Table FolderObject FolderObject.clash

inductive StorageLocationKind where
  | server
  | user
deriving DecidableEq, Inhabited

/-- A row of `storageLocationsTable`: where a folder's objects live. -/
structure StorageLocation where
  id : String
  kind : StorageLocationKind
  label : String
  endpoint : String
  region : String
  accessKeyId : String
  accessKeyHashId : String
  secretAccessKey : String
  bucket : String
  keyPrefix : String
  userId : String
deriving DecidableEq, Inhabited

def StorageLocation.clash (left right : StorageLocation) : Bool := left.id == right.id

abbrev StorageLocationsTable := Table StorageLocation StorageLocation.clash

/-- A row of `folderUserPreferencesTable`. -/
structure FolderUserPreference where
  userId : String
  folderId : String
  starred : Bool
  createdAt : Date
  updatedAt : Date
deriving DecidableEq, Inhabited

def FolderUserPreference.clash (left right : FolderUserPreference) : Bool :=
  left.userId == right.userId && left.folderId == right.folderId

abbrev FolderUserPreferencesTable := Table FolderUserPreference FolderUserPreference.clash

/-- A row of `usersTable`. -/
structure User where
  id : String
  username : String
deriving DecidableEq, Inhabited

def User.clash (left right : User) : Bool :=
  left.id == right.id || left.username == right.username

abbrev UsersTable := Table User User.clash

end Lombok.Folders
