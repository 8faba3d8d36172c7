import Lombok.Folders.Access
import Lombok.Events.Emit

/-!
Contract: the operations on the objects of a folder.

Owns presigning, deletion, refresh and re-indexing in `FolderService`. Each
operation notes, as an effect, which storage key it goes to for which object.
Realtime messages are left out.

Does not own: which key an operation should go to (see `StorageKey`).
-/

namespace Lombok.Folders

open Lombok.Core Lombok.Library Lombok.Library.Action Lombok.Apps Lombok.Tasks Lombok.Events

def folderObjectNotFoundException (folderId objectKey : String) : ApiError :=
  .notFound ("Folder object not found: folderId=" ++ folderId ++ ", objectKey=" ++ objectKey)

def folderMetadataWriteUnauthorisedException : ApiError :=
  .unauthorized "folderMetadata.writeUnauthorized"

/-! ### Text -/

/-- `endsWith('/')`. -/
def endsWithSlash (text : String) : Bool := text.toList.getLast? == some '/'

def startsWith (start text : String) : Bool := start.toList.isPrefixOf text.toList

/-- `value.replace(/%2f/gi, '_')`, on characters. -/
def replaceEncodedSlashes : List Char → List Char
  | '%' :: '2' :: character :: rest =>
      if character = 'f' ∨ character = 'F' then '_' :: replaceEncodedSlashes rest
      else '%' :: replaceEncodedSlashes ('2' :: character :: rest)
  | character :: rest => character :: replaceEncodedSlashes rest
  | [] => []

def replaceEncodedForwardSlashes (value : String) : String :=
  String.ofList (replaceEncodedSlashes value.toList)

/-! ### Presigned URLs -/

inductive ObjectIdentifier where
  | content (objectKey : String)
  | metadata (objectKey metadataHash : String)
deriving DecidableEq, Inhabited

def ObjectIdentifier.objectKey : ObjectIdentifier → String
  | content objectKey => objectKey
  | metadata objectKey _ => objectKey

structure SignedURLsRequest where
  objectIdentifier : ObjectIdentifier
  method : SignedURLsRequestMethod
  dontReplaceEncodedForwardSlashes : Bool := false
deriving DecidableEq, Inhabited

structure SignedURLResult where
  url : String
  objectKey : String
deriving DecidableEq, Inhabited

/-- A request with the key it resolves to and the object it was made for. -/
structure ResolvedSignedURL where
  resolvedObjectKey : String
  signRequest : PresignRequest
  access : StorageAccess
deriving DecidableEq, Inhabited

def signRequestOf (location : FolderStorageTarget) (method : SignedURLsRequestMethod)
    (objectKey : String) : PresignRequest where
  endpoint := location.endpoint
  region := location.region
  accessKeyId := location.accessKeyId
  secretAccessKey := location.secretAccessKey
  bucket := location.bucket
  objectKey := objectKey
  method := method
  expirySeconds := 3600

/-- The key a request is signed for: on PUT, encoded slashes become underscores unless the
request opts out. -/
def resolvedObjectKey (request : SignedURLsRequest) : String :=
  if request.method = .put ∧ !request.dontReplaceEncodedForwardSlashes then
    replaceEncodedForwardSlashes request.objectIdentifier.objectKey
  else
    request.objectIdentifier.objectKey

def resolveSignedURL (access : FolderAccess) (request : SignedURLsRequest) :
    Except ApiError ResolvedSignedURL :=
  let writes := request.method = .delete ∨ request.method = .put
  if writes ∧ !access.permissions.contains .objectEdit then
    .error folderOperationForbiddenException
  else
    match request.objectIdentifier with
    | .metadata objectKey metadataHash =>
        if request.method ≠ .get then
          .error folderMetadataWriteUnauthorisedException
        else
          let location := access.folder.metadataLocation
          let absoluteObjectKey :=
            joinStoragePrefix location.keyPrefix (resolvedObjectKey request ++ "/" ++ metadataHash)
          .ok
            { resolvedObjectKey := resolvedObjectKey request
              signRequest := signRequestOf location request.method absoluteObjectKey
              access :=
                { operation := .presigned request.method, purpose := .metadata,
                  folderId := access.folder.id, objectKey := objectKey ++ "/" ++ metadataHash,
                  bucket := location.bucket, storageKey := absoluteObjectKey } }
    | .content objectKey =>
        let location := access.folder.contentLocation
        let absoluteObjectKey := joinStoragePrefix location.keyPrefix (resolvedObjectKey request)
        .ok
          { resolvedObjectKey := resolvedObjectKey request
            signRequest := signRequestOf location request.method absoluteObjectKey
            access :=
              { operation := .presigned request.method, purpose := .content,
                folderId := access.folder.id, objectKey := objectKey,
                bucket := location.bucket, storageKey := absoluteObjectKey } }

/-- Resolve all requests; the first refusal is thrown. -/
def resolveSignedURLs (access : FolderAccess) :
    List SignedURLsRequest → Except ApiError (List ResolvedSignedURL)
  | [] => .ok []
  | request :: rest => do
      let resolved ← resolveSignedURL access request
      let others ← resolveSignedURLs access rest
      .ok (resolved :: others)

def createPresignedUrlsAsUser (env : Env) (actorId folderId : String)
    (urls : List SignedURLsRequest) : Service (List SignedURLResult) := do
  let access ← Service.check (getFolderAsUser env actorId folderId)
  let resolved ← Action.ofExcept (resolveSignedURLs access urls)
  Action.each resolved fun item => Service.record actorId (.storageAccessed item.access)
  pure (resolved.map fun item =>
    { url := env.s3.presign item.signRequest, objectKey := item.resolvedObjectKey })

/-! ### Object rows -/

def FolderObject.isAt (folderId objectKey : String) (object : FolderObject) : Bool :=
  object.folderId == folderId && object.objectKey == objectKey

def findFolderObject (folderId objectKey : String) (db : Database) : Option FolderObject :=
  db.folderObjects.find? (FolderObject.isAt folderId objectKey)

/-- `getFolderObject`. -/
def getFolderObject (folderId objectKey : String) (db : Database) : Except ApiError FolderObject :=
  match findFolderObject folderId objectKey db with
  | none => .error (folderObjectNotFoundException folderId objectKey)
  | some object => .ok object

def getFolderObjectAsUser (env : Env) (actorId folderId objectKey : String) (db : Database) :
    Except ApiError FolderObject := do
  let _ ← getFolderAsUser env actorId folderId db
  getFolderObject folderId objectKey db

/-- `APPLICATION_DOCUMENT_MIME_TYPES`. -/
def applicationDocumentMimeTypes : List String :=
  ["application/pdf", "application/epub+zip", "application/json", "application/dash+xml",
    "application/vnd.apple.mpegurl", "application/vnd.ms-excel", "application/xml",
    "application/vnd.openxmlformats-officedocument.spreadsheetml.sheet", "application/msword",
    "application/vnd.openxmlformats-officedocument.wordprocessingml.document",
    "application/vnd.ms-powerpoint",
    "application/vnd.openxmlformats-officedocument.presentationml.presentation",
    "application/vnd.oasis.opendocument.text", "application/vnd.oasis.opendocument.spreadsheet",
    "application/vnd.oasis.opendocument.presentation", "application/rtf"]

/-- `trim` for the white space of a header value. -/
def trimCharacters (characters : List Char) : List Char :=
  let isSpace := fun character : Char => character.isWhitespace
  ((characters.dropWhile isSpace).reverse.dropWhile isSpace).reverse

def mediaTypeFromMimeType (mimeType : String) : MediaType :=
  let normalized := (trimCharacters (mimeType.toList.takeWhile (· ≠ ';'))).map Char.toLower
  let topLevel := String.ofList (normalized.takeWhile (· ≠ '/'))
  if !normalized.contains '/' then .other
  else if topLevel = "image" then .image
  else if topLevel = "video" then .video
  else if topLevel = "audio" then .audio
  else if topLevel = "text" then .document
  else if applicationDocumentMimeTypes.contains (String.ofList normalized) then .document
  else .other

/-- The media columns of a new row: the given MIME type decides unless it classifies as other. -/
def insertMediaColumns (env : Env) (objectKey : String) (mimeType : Option String) :
    MediaType × String :=
  let parts := objectKey.toList.splitOn '.'
  let extension := if parts.length > 1 then parts.getLast?.map String.ofList else none
  let fromExtension :=
    match extension.filter fun text => text != "" with
    | some text => (env.mimeFromExtension text).getD ""
    | none => ""
  let provided := mimeType.filter fun text => text != ""
  let mediaTypeFromProvidedMime := (provided.map mediaTypeFromMimeType).getD .other
  if mediaTypeFromProvidedMime ≠ .other then
    (mediaTypeFromProvidedMime, mimeType.getD fromExtension)
  else
    ((extension.filter fun text => text != "").elim .other fun _ =>
        mediaTypeFromMimeType fromExtension,
      if fromExtension = "" then mimeType.getD "" else fromExtension)

/-- The row `updateFolderObjectInDB` inserts. -/
def newFolderObject (env : Env) (folderId objectKey id : String) (updateRecord : FolderObjectUpdate)
    (now : Date) : FolderObject :=
  let media := insertMediaColumns env objectKey updateRecord.mimeType
  { id := id
    objectKey := objectKey
    filename := ((objectKey.toList.splitOn '/').getLast?.map String.ofList).getD objectKey
    eTag := updateRecord.eTag.getD ""
    sizeBytes := updateRecord.size.getD 0
    lastModified := updateRecord.lastModified.getD 0
    hash := none
    contentMetadata := []
    folderId := folderId
    mimeType := media.2
    mediaType := media.1
    createdAt := now
    updatedAt := now }

/-- The change of a row that is already there; the media columns only follow a given MIME type. -/
def FolderObject.refreshed (new : FolderObject) (setsMedia : Bool) (object : FolderObject) :
    FolderObject :=
  { object with
    sizeBytes := new.sizeBytes
    lastModified := new.lastModified
    eTag := new.eTag
    updatedAt := new.updatedAt
    mimeType := if setsMedia then new.mimeType else object.mimeType
    mediaType := if setsMedia then new.mediaType else object.mediaType }

theorem keeps_refreshed (new : FolderObject) (setsMedia : Bool) :
    Keeps FolderObject.clash (FolderObject.refreshed new setsMedia) :=
  fun _ _ => ⟨rfl, rfl⟩

/-- `insert(folderObjectsTable).values(…).onConflictDoUpdate(…).returning()`. -/
def upsertFolderObject (new : FolderObject) (setsMedia : Bool) : Service FolderObject := do
  let objects ← Service.query Database.folderObjects
  match objects.find? (FolderObject.isAt new.folderId new.objectKey) with
  | some object => do
      Service.write fun db => { db with
        folderObjects := db.folderObjects.update (FolderObject.isAt new.folderId new.objectKey)
          (FolderObject.refreshed new setsMedia) (keeps_refreshed new setsMedia) }
      pure (FolderObject.refreshed new setsMedia object)
  | none => do
      let inserted ← Action.orThrow (objects.insert new) (.uniqueViolation "folder_objects_pkey")
      Service.write fun db => { db with folderObjects := inserted }
      pure new

/-- `ContentMetadataByHash` as a document. -/
def contentMetadataJson (contentMetadata : List (String × Fields)) : Json :=
  .obj (contentMetadata.map fun entry => (entry.1, .obj entry.2))

def folderObjectEventData (record : FolderObject) : Except ApiError Json := do
  let createdAt ← record.createdAt.toISOString
  let updatedAt ← record.updatedAt.toISOString
  .ok (.obj
    [("id", .str record.id), ("objectKey", .str record.objectKey),
      ("filename", .str record.filename), ("eTag", .str record.eTag),
      ("sizeBytes", .ofNat record.sizeBytes), ("lastModified", .ofInt record.lastModified),
      ("hash", .ofOption (record.hash.map .str)),
      ("contentMetadata", contentMetadataJson record.contentMetadata),
      ("folderId", .str record.folderId), ("mimeType", .str record.mimeType),
      ("mediaType", .str record.mediaType.name), ("createdAt", .str createdAt),
      ("updatedAt", .str updatedAt)])

def updateFolderObjectInDB (env : Env) (folderId objectKey : String)
    (updateRecord : FolderObjectUpdate) : Service FolderObject := do
  let now ← Service.now env
  let id ← Service.randomUUID env
  let new := newFolderObject env folderId objectKey id updateRecord now
  let setsMedia := (updateRecord.mimeType.filter fun text => text != "").isSome
  let record ← upsertFolderObject new setsMedia
  let wasAdded := record.createdAt == record.updatedAt
  let data ← Action.ofExcept (folderObjectEventData record)
  emitEvent env
    { emitterIdentifier := coreIdentifier
      eventIdentifier :=
        CoreEvent.identifier (if wasAdded then .objectAdded else .objectUpdated)
      data := data
      targetLocation :=
        some { folderId := record.folderId, objectKey := some record.objectKey } }
  pure record

/-! ### Deletion and refresh -/

def deleteFolderObjectAsUser (env : Env) (actorId folderId objectKey : String) : Service Bool := do
  let access ← Service.check (getFolderAsUser env actorId folderId)
  Action.require (access.permissions.contains .objectEdit) folderOperationForbiddenException
  let folderObject ← Service.check (getFolderObject folderId objectKey)
  let location := access.folder.contentLocation
  Service.record actorId (.storageAccessed
    { operation := .delete, purpose := .content, folderId := folderId, objectKey := objectKey,
      bucket := location.bucket, storageKey := objectKey })
  Service.s3 fun request => env.s3.delete request (signRequestOf location .delete objectKey)
  Service.write fun db => { db with
    folderObjects := db.folderObjects.delete fun object => object.id == folderObject.id }
  pure true

/-- The key `refreshFolderObjectS3MetadataAsUser` asks for. -/
def refreshedStorageKey (keyPrefix objectKey : String) : String :=
  keyPrefix ++ (if endsWithSlash keyPrefix then "" else "/") ++ objectKey

def refreshFolderObjectS3MetadataAsUser (env : Env) (actorId folderId objectKey : String)
    (eTag : Option String) : Service FolderObject := do
  let access ← Service.check (getFolderAsUser env actorId folderId)
  let location := access.folder.contentLocation
  let absoluteObjectKey := refreshedStorageKey location.keyPrefix objectKey
  Service.record actorId (.storageAccessed
    { operation := .head, purpose := .content, folderId := folderId, objectKey := objectKey,
      bucket := location.bucket, storageKey := absoluteObjectKey })
  let headResponse ← Service.s3 fun request =>
    env.s3.head request (signRequestOf location .get absoluteObjectKey)
  Action.require (eTag.all fun expected => expected == "" || headResponse.eTag == some expected)
    (.notFound ("Object " ++ objectKey ++ " eTag mismatch."))
  updateFolderObjectInDB env folderId objectKey headResponse

/-! ### Re-indexing -/

def indexedObjectKey (keyPrefix storageKey : String) : String :=
  if keyPrefix = "" then storageKey
  else
    String.ofList
      (storageKey.toList.drop (keyPrefix.length + if endsWithSlash keyPrefix then 0 else 1))

/-- Listed objects of the platform itself and empty ones are passed over. -/
def isIndexed (keyPrefix : String) (object : S3ObjectInternal) : Bool :=
  !startsWith ".lombok_" (indexedObjectKey keyPrefix object.key) && decide (object.size > 0)

def reindexObject (env : Env) (folder : ResolvedFolder) (object : S3ObjectInternal) :
    Service Unit :=
  let location := folder.contentLocation
  let objectKey := indexedObjectKey location.keyPrefix object.key
  if isIndexed location.keyPrefix object then do
    Service.record coreIdentifier (.storageAccessed
      { operation := .index, purpose := .content, folderId := folder.id, objectKey := objectKey,
        bucket := location.bucket, storageKey := object.key })
    let _ ← updateFolderObjectInDB env folder.id objectKey
      { lastModified := some object.lastModified, size := some object.size,
        eTag := some object.eTag }
    pure ()
  else
    pure ()

def reindexFolder (env : Env) (folderId : String) : Service Unit := do
  let folder ← Service.check (getFolder env folderId)
  Service.write fun db => { db with
    folderObjects := db.folderObjects.delete fun object => object.folderId == folder.id }
  let pages ← Service.s3 fun request => .ok (env.s3.list request folder.contentLocation)
  Action.each pages fun page => do
    let objects ← Action.ofExcept page
    Action.each objects (reindexObject env folder)

end Lombok.Folders
