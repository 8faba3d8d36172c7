import Lombok.Folders.Entity
import Lombok.Library.KeyPrefix
import Lombok.Tasks.Entity

/-!
Contract: where the objects of a folder are stored.

A folder either has stored locations or resolves to the embedded provision, with
a prefix made of its owner and its id. The storage service itself is outside
the repository: `StorageBackend` holds its answers, which may change from one
request to the next.

Does not own: which key an operation addresses under a location.
-/

namespace Lombok.Folders

open Lombok.Core Lombok.Library Lombok.Tasks

/-- The embedded storage service, as far as its configuration is read. -/
structure EmbeddedS3Config where
  accessKeyId : String
  secretAccessKey : String
  region : String
  endpoint : String
deriving DecidableEq, Inhabited

/-- The storage configuration of the server; `embedded` is absent when credentials or host are.
`buildAccessKeyHashId` hashes endpoint, key id, secret and region. -/
structure StorageConfig where
  embedded : Option EmbeddedS3Config
  provisionsBucket : String
  buildAccessKeyHashId : String → String → String → String → String

/-- An embedded storage service on the local host. -/
def StorageConfig.sample : StorageConfig where
  embedded := some
    { accessKeyId := "key", secretAccessKey := "secret", region := "auto",
      endpoint := "http://s3.localhost" }
  provisionsBucket := "provisions"
  buildAccessKeyHashId endpoint accessKeyId _ _ := endpoint ++ ":" ++ accessKeyId

inductive FolderStorageTargetKind where
  | builtin
  | server
  | user
deriving DecidableEq, Inhabited

/-- `FolderStorageTarget`: the embedded provision has neither id nor user. -/
structure FolderStorageTarget where
  id : Option String
  userId : Option String
  kind : FolderStorageTargetKind
  label : String
  endpoint : String
  region : String
  bucket : String
  keyPrefix : String
  accessKeyId : String
  accessKeyHashId : String
  secretAccessKey : String
deriving DecidableEq, Inhabited

/-- A folder with its locations attached. -/
structure ResolvedFolder extends Folder where
  contentLocation : FolderStorageTarget
  metadataLocation : FolderStorageTarget
deriving DecidableEq, Inhabited

inductive LocationPurpose where
  | content
  | metadata
deriving DecidableEq, Inhabited

def StorageLocation.toTarget (location : StorageLocation) : FolderStorageTarget where
  id := some location.id
  userId := some location.userId
  kind := match location.kind with
    | .server => .server
    | .user => .user
  label := location.label
  endpoint := location.endpoint
  region := location.region
  bucket := location.bucket
  keyPrefix := location.keyPrefix
  accessKeyId := location.accessKeyId
  accessKeyHashId := location.accessKeyHashId
  secretAccessKey := location.secretAccessKey

/-- The prefix `buildEmbeddedStorageProvision` gives a folder. -/
def embeddedProvisionPrefix (userId folderId : String) : String :=
  ".lombok_provision__user_" ++ userId ++ "_folder_" ++ folderId

/-- `normalisePrefix`. -/
def normalisePrefix (keyPrefix : String) : String :=
  if keyPrefix.toList.getLast? = some '/' then keyPrefix else keyPrefix ++ "/"

def prefixSuffix (purpose : LocationPurpose) (folderId : String) : String :=
  match purpose with
  | .metadata => ".lombok_folder_metadata_" ++ folderId
  | .content => ".lombok_folder_content_" ++ folderId

/-- `resolveFolderLocation`. The embedded provision of a folder always has a prefix, so the
branch without one is not reached. -/
def resolveFolderLocation (config : StorageConfig) (folder : Folder) (purpose : LocationPurpose)
    (rawRow : Option StorageLocation) : Except ApiError FolderStorageTarget :=
  match rawRow with
  | some location => .ok location.toTarget
  | none =>
      match config.embedded with
      | none => .error (.error "Embedded storage is not configured")
      | some embedded =>
          let provisionPrefix := embeddedProvisionPrefix folder.ownerId folder.id
          .ok
            { id := none
              userId := none
              kind := .builtin
              label := "Built-in storage"
              endpoint := embedded.endpoint
              region := embedded.region
              bucket := config.provisionsBucket
              keyPrefix :=
                if provisionPrefix = "" then prefixSuffix purpose folder.id
                else normalisePrefix provisionPrefix ++ prefixSuffix purpose folder.id
              accessKeyId := embedded.accessKeyId
              accessKeyHashId :=
                config.buildAccessKeyHashId embedded.endpoint embedded.accessKeyId
                  embedded.secretAccessKey embedded.region
              secretAccessKey := embedded.secretAccessKey }

/-- `joinStoragePrefix` of `@lombokapp/utils`. -/
def joinStoragePrefix (keyPrefix key : String) : String :=
  if keyPrefix = "" ∨ keyPrefix.toList.getLast? = some '/' then keyPrefix ++ key
  else keyPrefix ++ "/" ++ key

theorem toList_joinStoragePrefix (keyPrefix key : String) :
    (joinStoragePrefix keyPrefix key).toList =
      KeyPrefix.join '/' keyPrefix.toList key.toList := by
  unfold joinStoragePrefix KeyPrefix.join KeyPrefix.root
  by_cases empty : keyPrefix = ""
  · simp [empty]
  · have notNil : keyPrefix.toList ≠ [] := by
      intro nil
      exact empty (String.toList_eq_nil_iff.mp nil)
    by_cases ends : keyPrefix.toList.getLast? = some '/'
    · simp [ends]
    · simp [ends, empty, notNil]

/-! ### The storage service -/

/-- What a request addresses and how it is signed. -/
structure PresignRequest where
  endpoint : String
  region : String
  accessKeyId : String
  secretAccessKey : String
  bucket : String
  objectKey : String
  method : SignedURLsRequestMethod
  expirySeconds : Nat
deriving DecidableEq, Inhabited

/-- An object of a listing. -/
structure S3ObjectInternal where
  key : String
  size : Nat
  eTag : String
  lastModified : Int
deriving DecidableEq, Inhabited

/-- `FolderObjectUpdate`, which is also what `s3HeadObject` answers. -/
structure FolderObjectUpdate where
  lastModified : Option Int := none
  size : Option Nat := none
  eTag : Option String := none
  mimeType : Option String := none
deriving DecidableEq, Inhabited

/-- The answers of the storage service to the request of a given number. A listing is a list of
pages, each of which may fail. -/
structure StorageBackend where
  presign : PresignRequest → String
  list : Nat → FolderStorageTarget → List (Except ApiError (List S3ObjectInternal))
  head : Nat → PresignRequest → Except ApiError FolderObjectUpdate
  delete : Nat → PresignRequest → Except ApiError Unit

/-- An empty storage that is always reachable. -/
def StorageBackend.sample : StorageBackend where
  presign request := request.endpoint ++ "/" ++ request.bucket ++ "/" ++ request.objectKey
  list _ _ := [.ok []]
  head _ _ := .ok {}
  delete _ _ := .ok ()

end Lombok.Folders
