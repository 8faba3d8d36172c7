import Lombok.Core.FormParams
import Lombok.Folders.Location
import Lombok.Library.Run

/-!
Contract: the access keys of storage locations and provisions.

Owns `buildAccessKeyHashId`, the statements of `createFolder` that store a
location, `createStorageProvisionAsAdmin`, `updateStorageProvisionAsAdmin` and
the two rotations, and runs in which calls take their statements in any order.
The digest is a parameter.

A folder is created in one transaction and a key is rotated by the admin in
another. What a transaction writes is seen by the other calls once it commits,
and a row that it changed is locked until then. Does not own the folder row,
the check of the bucket, or the domain of an endpoint.
-/

namespace Lombok.Storage

open Lombok.Core Lombok.Library Lombok.Folders

/-! ### Access keys -/

structure AccessKey where
  endpoint : String
  accessKeyId : String
  secretAccessKey : String
  region : String
deriving DecidableEq, Inhabited

/-- The bytes `encodeURIComponent` leaves as they are. -/
def isUriByte (byte : UInt8) : Bool :=
  (Char.ofNat byte.toNat).isAlphanum || [33, 39, 40, 41, 42, 45, 46, 95, 126].contains byte.toNat

def uriByte (byte : UInt8) : List Char :=
  if isUriByte byte then [Char.ofNat byte.toNat]
  else ['%', upperHexDigit (byte.toNat / 16), upperHexDigit (byte.toNat % 16)]

def encodeURIComponent (text : String) : List Char := (toUtf8 text).flatMap uriByte

def accessKeyText (key : AccessKey) : List Char :=
  [':'].intercalate
    ([key.endpoint, key.accessKeyId, key.secretAccessKey, key.region].map encodeURIComponent)

/-- `sha1` is `createHash('sha1').update(text).digest('hex')`. -/
def buildAccessKeyHashId (sha1 : String → String) (key : AccessKey) : String :=
  sha1 (String.ofList (accessKeyText key))

/-! ### Rows -/

inductive StorageProvisionType where
  | content
  | metadata
  | redundancy
deriving DecidableEq, Inhabited

/-- A row of `externalStorageProvisionsTable`. -/
structure ExternalStorageProvision where
  id : String
  label : String
  description : String
  endpoint : String
  bucket : String
  region : String
  accessKeyId : String
  secretAccessKey : String
  accessKeyHashId : String
  keyPrefix : Option String
  provisionTypes : List StorageProvisionType
  createdAt : Date
  updatedAt : Date
deriving DecidableEq, Inhabited

def ExternalStorageProvision.clash (left right : ExternalStorageProvision) : Bool :=
  left.id == right.id

abbrev ProvisionsTable := Table ExternalStorageProvision ExternalStorageProvision.clash

def locationKey (row : StorageLocation) : AccessKey :=
  ⟨row.endpoint, row.accessKeyId, row.secretAccessKey, row.region⟩

def ExternalStorageProvision.accessKey (row : ExternalStorageProvision) : AccessKey :=
  ⟨row.endpoint, row.accessKeyId, row.secretAccessKey, row.region⟩

/-! ### Requests -/

/-- A custom location of `StorageTargetInputDTO`. -/
structure CustomLocation where
  accessKeyId : String
  secretAccessKey : String
  endpoint : String
  bucket : String
  region : String
  keyPrefix : Option String
deriving DecidableEq

inductive StorageTarget where
  | builtin
  | custom (location : CustomLocation)
  | userLocation (userLocationId bucketOverride : String) (prefixOverride : Option String)
  | serverProvision (storageProvisionId : String)
deriving DecidableEq

structure StorageProvisionInput where
  label : String
  description : String
  endpoint : String
  bucket : String
  region : String
  accessKeyId : String
  secretAccessKey : String
  keyPrefix : Option String
  provisionTypes : List StorageProvisionType
deriving DecidableEq

/-- What is absent is left as it is; the credentials are never taken from an update. -/
structure StorageProvisionUpdate where
  label : Option String := none
  description : Option String := none
  endpoint : Option String := none
  bucket : Option String := none
  region : Option String := none
  keyPrefix : Option (Option String) := none
  provisionTypes : Option (List StorageProvisionType) := none
deriving DecidableEq

/-- `RotateAccessKeyInputDTO`. -/
structure NewAccessKey where
  accessKeyId : String
  secretAccessKey : String
deriving DecidableEq

structure KeyRotation where
  accessKeyHashId : String
  newAccessKey : NewAccessKey
deriving DecidableEq

def KeyRotation.rotated (rotation : KeyRotation) (found : AccessKey) : AccessKey :=
  { found with
    accessKeyId := rotation.newAccessKey.accessKeyId
    secretAccessKey := rotation.newAccessKey.secretAccessKey }

inductive KeyCall where
  /-- The targets are those of the content and the metadata, in this order. -/
  | createFolder (userId folderId : String) (contentLocation metadataLocation : StorageTarget)
  | createProvision (isAdmin : Bool) (now : Date) (input : StorageProvisionInput)
  | updateProvision (isAdmin : Bool) (now : Date) (storageProvisionId : String)
      (update : StorageProvisionUpdate)
  | rotateAsUser (userId : String) (rotation : KeyRotation)
  | rotateAsAdmin (isAdmin : Bool) (rotation : KeyRotation)
deriving DecidableEq

section Hashed

variable (sha1 : String → String)

/-! ### What the calls write -/

def customRow (id userId : String) (location : CustomLocation) : StorageLocation where
  id := id
  kind := .user
  label := location.endpoint ++ " - " ++ location.accessKeyId
  endpoint := location.endpoint
  region := location.region
  accessKeyId := location.accessKeyId
  accessKeyHashId := buildAccessKeyHashId sha1
    ⟨location.endpoint, location.accessKeyId, location.secretAccessKey, location.region⟩
  secretAccessKey := location.secretAccessKey
  bucket := location.bucket
  keyPrefix := location.keyPrefix.getD ""
  userId := userId

def copiedRow (id userId bucketOverride prefixOverride : String) (existing : StorageLocation) :
    StorageLocation where
  id := id
  kind := .user
  label := existing.label
  endpoint := existing.endpoint
  region := existing.region
  accessKeyId := existing.accessKeyId
  accessKeyHashId := buildAccessKeyHashId sha1 (locationKey existing)
  secretAccessKey := existing.secretAccessKey
  bucket := bucketOverride
  keyPrefix := prefixOverride
  userId := userId

def provisionedRow (id userId folderId : String) (purpose : LocationPurpose)
    (provision : ExternalStorageProvision) : StorageLocation where
  id := id
  kind := .server
  label := "SERVER:" ++ provision.id
  endpoint := provision.endpoint
  region := provision.region
  accessKeyId := provision.accessKeyId
  accessKeyHashId := buildAccessKeyHashId sha1 provision.accessKey
  secretAccessKey := provision.secretAccessKey
  bucket := provision.bucket
  keyPrefix := joinStoragePrefix (provision.keyPrefix.getD "") (prefixSuffix purpose folderId)
  userId := userId

def createdProvision (id : String) (now : Date) (input : StorageProvisionInput) :
    ExternalStorageProvision where
  id := id
  label := input.label
  description := input.description
  endpoint := input.endpoint
  bucket := input.bucket
  region := input.region
  accessKeyId := input.accessKeyId
  secretAccessKey := input.secretAccessKey
  accessKeyHashId := buildAccessKeyHashId sha1
    ⟨input.endpoint, input.accessKeyId, input.secretAccessKey, input.region⟩
  keyPrefix := input.keyPrefix
  provisionTypes := input.provisionTypes
  createdAt := now
  updatedAt := now

/-- The row an update writes: what it gives, and the rest of the row that was read. -/
def mergedProvision (now : Date) (update : StorageProvisionUpdate)
    (existing : ExternalStorageProvision) : ExternalStorageProvision :=
  let endpoint := update.endpoint.getD existing.endpoint
  let region := update.region.getD existing.region
  { existing with
    label := update.label.getD existing.label
    description := update.description.getD existing.description
    endpoint := endpoint
    bucket := update.bucket.getD existing.bucket
    region := region
    accessKeyHashId := buildAccessKeyHashId sha1
      ⟨endpoint, existing.accessKeyId, existing.secretAccessKey, region⟩
    keyPrefix := update.keyPrefix.getD existing.keyPrefix
    provisionTypes := update.provisionTypes.getD existing.provisionTypes
    updatedAt := now }

/-- `set({ accessKeyId, secretAccessKey, accessKeyHashId })` on a location. -/
def rotatedLocation (rotation : KeyRotation) (found : AccessKey) (row : StorageLocation) :
    StorageLocation :=
  { row with
    accessKeyId := rotation.newAccessKey.accessKeyId
    secretAccessKey := rotation.newAccessKey.secretAccessKey
    accessKeyHashId := buildAccessKeyHashId sha1 (rotation.rotated found) }

def rotatedProvision (rotation : KeyRotation) (found : AccessKey) (now : Date)
    (row : ExternalStorageProvision) : ExternalStorageProvision :=
  { row with
    accessKeyId := rotation.newAccessKey.accessKeyId
    secretAccessKey := rotation.newAccessKey.secretAccessKey
    accessKeyHashId := buildAccessKeyHashId sha1 (rotation.rotated found)
    updatedAt := now }

theorem keeps_rotatedLocation (rotation : KeyRotation) (found : AccessKey) :
    Keeps StorageLocation.clash (rotatedLocation sha1 rotation found) := fun _ _ => ⟨rfl, rfl⟩

theorem keeps_rotatedProvision (rotation : KeyRotation) (found : AccessKey) (now : Date) :
    Keeps ExternalStorageProvision.clash (rotatedProvision sha1 rotation found now) :=
  fun _ _ => ⟨rfl, rfl⟩

end Hashed

/-! ### Statements -/

/-- The next statement of a call, with what the statements before it have read and written. -/
inductive KeyStatement where
  /-- The rows that are inserted are seen by others when the folder's transaction commits. -/
  | locate (userId folderId : String) (targets : List (LocationPurpose × StorageTarget))
      (inserted : List StorageLocation)
  | insertProvision (now : Date) (input : StorageProvisionInput)
  | readProvision (now : Date) (id : String) (update : StorageProvisionUpdate)
  | writeProvision (merged : ExternalStorageProvision)
  | readUserKey (userId : String) (rotation : KeyRotation)
  | findUserLocation (userId : String) (rotation : KeyRotation) (accessKey : AccessKey)
  | writeUserLocations (userId : String) (rotation : KeyRotation) (accessKey : AccessKey)
  | findServerLocation (rotation : KeyRotation)
  | writeServerLocations (rotation : KeyRotation) (found : AccessKey)
  | writeProvisions (rotation : KeyRotation) (found : AccessKey) (locations : List String)
  | commitRotation (rotation : KeyRotation) (found : AccessKey) (now : Date)
      (locations provisions : List String)
deriving DecidableEq

def unauthorizedException : ApiError := .unauthorized "Unauthorized"

def notFoundException : ApiError := .notFound "Not Found"

def KeyCall.first : KeyCall → Except ApiError KeyStatement
  | .createFolder userId folderId contentLocation metadataLocation =>
      .ok (.locate userId folderId [(.content, contentLocation), (.metadata, metadataLocation)] [])
  | .createProvision isAdmin now input =>
      if isAdmin then .ok (.insertProvision now input) else .error unauthorizedException
  | .updateProvision isAdmin now storageProvisionId update =>
      if isAdmin then .ok (.readProvision now storageProvisionId update)
      else .error unauthorizedException
  | .rotateAsUser userId rotation => .ok (.readUserKey userId rotation)
  | .rotateAsAdmin isAdmin rotation =>
      if isAdmin then .ok (.findServerLocation rotation) else .error unauthorizedException

/-- `where` of a rotation by a user. -/
def isUserLocation (userId accessKeyHashId : String) (row : StorageLocation) : Bool :=
  row.accessKeyHashId == accessKeyHashId && row.userId == userId && row.kind == .user

/-- `where` of a rotation by the admin. -/
def isServerLocation (accessKeyHashId : String) (row : StorageLocation) : Bool :=
  row.accessKeyHashId == accessKeyHashId && row.kind == .server

def hasKeyHash (accessKeyHashId : String) (row : ExternalStorageProvision) : Bool :=
  row.accessKeyHashId == accessKeyHashId

/-- What the surroundings give a statement: an id, the time, and which row a `findFirst` without
an order takes. -/
structure Draw where
  id : String
  now : Date
  choice : Nat
deriving DecidableEq, Inhabited

/-- Some row of those that match, if there are any. -/
def Draw.pick (draw : Draw) (rows : List StorageLocation) : Option StorageLocation :=
  rows[draw.choice % rows.length]?

/-- What a statement leaves: the tables, the next statement, and the key that a rotation by the
admin which has committed has replaced. -/
structure KeyProgress where
  locations : StorageLocationsTable
  provisions : ProvisionsTable
  next : Option KeyStatement
  replaced : Option AccessKey := none

def targetRow (sha1 : String → String) (locations : StorageLocationsTable)
    (provisions : ProvisionsTable) (id userId folderId : String) (purpose : LocationPurpose) :
    StorageTarget → Except ApiError (Option StorageLocation)
  | .builtin => .ok none
  | .custom location => .ok (some (customRow sha1 id userId location))
  | .userLocation userLocationId bucketOverride prefixOverride =>
      match locations.find? fun row =>
          row.kind == .user && row.userId == userId && row.id == userLocationId with
      | none => .error (.notFound "storageLocation.notFound")
      | some existing =>
          match prefixOverride with
          | none => .error (.error "null value in column prefix")
          | some prefixText =>
              .ok (some (copiedRow sha1 id userId bucketOverride prefixText existing))
  | .serverProvision storageProvisionId =>
      match provisions.find? fun row => row.id == storageProvisionId with
      | none => .error (.notFound "storageProvision.notFound")
      | some provision => .ok (some (provisionedRow sha1 id userId folderId purpose provision))

def insertAll (locations : StorageLocationsTable) :
    List StorageLocation → Except ApiError StorageLocationsTable
  | [] => .ok locations
  | row :: rest =>
      match locations.insert row with
      | none => .error (.uniqueViolation "storage_locations_pkey")
      | some inserted => insertAll inserted rest

/-- `set(merged).where(eq(id, merged.id))`. -/
def writeMerged (merged : ExternalStorageProvision) (provisions : ProvisionsTable) :
    ProvisionsTable :=
  provisions.update (fun row => row.id == merged.id) (fun row => { merged with id := row.id })
    fun _ _ => ⟨rfl, rfl⟩

def KeyStatement.execute (sha1 : String → String) (locations : StorageLocationsTable)
    (provisions : ProvisionsTable) (draw : Draw) : KeyStatement → Except ApiError KeyProgress
  | .locate userId folderId ((purpose, target) :: targets) inserted => do
      let row ← targetRow sha1 locations provisions draw.id userId folderId purpose target
      .ok ⟨locations, provisions,
        some (.locate userId folderId targets (inserted ++ row.toList)), none⟩
  | .locate _ _ [] inserted => do
      let committed ← insertAll locations inserted
      .ok ⟨committed, provisions, none, none⟩
  | .insertProvision now input =>
      match provisions.insert (createdProvision sha1 draw.id now input) with
      | none => .error (.uniqueViolation "external_storage_provisions_pkey")
      | some inserted => .ok ⟨locations, inserted, none, none⟩
  | .readProvision now id update =>
      match provisions.find? fun row => row.id == id with
      | none => .error notFoundException
      | some existing =>
          .ok ⟨locations, provisions,
            some (.writeProvision (mergedProvision sha1 now update existing)), none⟩
  | .writeProvision merged => .ok ⟨locations, writeMerged merged provisions, none, none⟩
  | .readUserKey userId rotation =>
      match draw.pick (locations.view (isUserLocation userId rotation.accessKeyHashId)) with
      | none => .error notFoundException
      | some row =>
          .ok ⟨locations, provisions, some (.findUserLocation userId rotation (locationKey row)),
            none⟩
  | .findUserLocation userId rotation accessKey =>
      match draw.pick (locations.view (isUserLocation userId rotation.accessKeyHashId)) with
      | none => .error notFoundException
      | some _ =>
          .ok ⟨locations, provisions, some (.writeUserLocations userId rotation accessKey), none⟩
  | .writeUserLocations userId rotation accessKey =>
      .ok ⟨locations.update (isUserLocation userId rotation.accessKeyHashId)
          (rotatedLocation sha1 rotation accessKey) (keeps_rotatedLocation sha1 rotation accessKey),
        provisions, none, none⟩
  | .findServerLocation rotation =>
      match draw.pick (locations.view (isServerLocation rotation.accessKeyHashId)) with
      | none => .error notFoundException
      | some row =>
          .ok ⟨locations, provisions, some (.writeServerLocations rotation (locationKey row)),
            none⟩
  | .writeServerLocations rotation found =>
      let written := locations.view (isServerLocation rotation.accessKeyHashId)
      .ok ⟨locations, provisions,
        some (.writeProvisions rotation found (written.map StorageLocation.id)), none⟩
  | .writeProvisions rotation found written =>
      let alsoWritten := provisions.view (hasKeyHash rotation.accessKeyHashId)
      .ok ⟨locations, provisions, some (.commitRotation rotation found draw.now written
        (alsoWritten.map ExternalStorageProvision.id)), none⟩
  | .commitRotation rotation found now writtenLocations writtenProvisions =>
      .ok
        ⟨locations.update (fun row => writtenLocations.contains row.id)
            (rotatedLocation sha1 rotation found) (keeps_rotatedLocation sha1 rotation found),
          provisions.update (fun row => writtenProvisions.contains row.id)
            (rotatedProvision sha1 rotation found now)
            (keeps_rotatedProvision sha1 rotation found now),
          none, some found⟩

/-! ### Locks -/

def KeyStatement.lockedLocations : KeyStatement → List String
  | .writeProvisions _ _ locations => locations
  | .commitRotation _ _ _ locations _ => locations
  | _ => []

def KeyStatement.lockedProvisions : KeyStatement → List String
  | .commitRotation _ _ _ _ provisions => provisions
  | _ => []

def KeyStatement.waits (locations : StorageLocationsTable) (provisions : ProvisionsTable)
    (lockedLocations lockedProvisions : List String) : KeyStatement → Bool
  | .writeProvision merged => lockedProvisions.contains merged.id
  | .writeServerLocations rotation _ =>
      (locations.view (isServerLocation rotation.accessKeyHashId)).any fun row =>
        lockedLocations.contains row.id
  | .writeProvisions rotation _ _ =>
      (provisions.view (hasKeyHash rotation.accessKeyHashId)).any fun row =>
        lockedProvisions.contains row.id
  | _ => false

/-! ### Runs -/

/-- `none` is a call that has finished. -/
structure KeysState where
  locations : StorageLocationsTable
  provisions : ProvisionsTable
  calls : List (Option KeyStatement)
  /-- The keys that rotations by the admin which have returned have replaced. -/
  replaced : List AccessKey

def KeysState.start (locations : StorageLocationsTable) (provisions : ProvisionsTable) :
    KeysState where
  locations := locations
  provisions := provisions
  calls := []
  replaced := []

inductive KeysEvent where
  | begin (call : KeyCall)
  /-- The call executes its statement; where it fails, or the call is rolled back, it is over. -/
  | advance (call : Nat) (draw : Draw) (fails : Bool)
deriving DecidableEq

namespace KeysState

def lockedLocations (state : KeysState) : List String :=
  state.calls.flatMap fun call => (call.map KeyStatement.lockedLocations).getD []

def lockedProvisions (state : KeysState) : List String :=
  state.calls.flatMap fun call => (call.map KeyStatement.lockedProvisions).getD []

def finish (state : KeysState) (call : Nat) : KeysState :=
  { state with calls := state.calls.set call none }

def goOn (state : KeysState) (call : Nat) (progress : KeyProgress) : KeysState where
  locations := progress.locations
  provisions := progress.provisions
  calls := state.calls.set call progress.next
  replaced := progress.replaced.toList ++ state.replaced

/-- What a call takes of its next statement. -/
def advance (sha1 : String → String) (state : KeysState) (call : Nat) (draw : Draw)
    (statement : KeyStatement) : KeysState :=
  if statement.waits state.locations state.provisions state.lockedLocations
      state.lockedProvisions then
    state
  else
    match statement.execute sha1 state.locations state.provisions draw with
    | .error _ => state.finish call
    | .ok progress => state.goOn call progress

def step (sha1 : String → String) (state : KeysState) : KeysEvent → KeysState
  | .begin call => { state with calls := state.calls ++ [call.first.toOption] }
  | .advance call draw fails =>
      match state.calls[call]? with
      | some (some statement) =>
          if fails then state.finish call else state.advance sha1 call draw statement
      | _ => state

end KeysState

end Lombok.Storage
