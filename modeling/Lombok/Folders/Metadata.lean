import Lombok.Core.ObjectSpread
import Lombok.Folders.Objects
import Lombok.Library.OrderedMap
import Lombok.Library.Overlay

/-!
Contract: content metadata of an object, written by any number of calls at a time.

Owns `updateFolderObjectMetadata`. For each item a call reads the row, merges
the item into the metadata it read, and writes the whole of it back by the id of
the row; between the two it waits, so reading and writing are inputs of their
own. The state keeps the list of what was written.

Does not own: realtime messages, and who may send an update.
-/

namespace Lombok.Folders

open Lombok.Core Lombok.Library

/-! ### Previews -/

def isString : Json → Bool
  | .str _ => true
  | _ => false

def isNumber : Json → Bool
  | .num _ => true
  | _ => false

/-- `z.object`, for properties that are all required. -/
def hasProperties (checks : List (String × (Json → Bool))) : Json → Bool
  | .obj fields => checks.all fun check =>
      ((Json.obj fields).ownProperties.get? check.1).any check.2
  | _ => false

def previewPurposes : List String :=
  ["list", "card", "detail", "hero", "background", "poster", "overview", "preview"]

def isPurpose : Json → Bool
  | .str purpose => previewPurposes.contains purpose
  | _ => false

/-- `previewMetadataSchema`. -/
def previewMetadataSchema : Json → Bool :=
  hasProperties
    [("mimeType", isString), ("profile", isString), ("label", isString),
      ("purpose", isPurpose), ("sizeBytes", isNumber),
      ("dimensions", hasProperties
        [("width", isNumber), ("height", isNumber), ("durationMs", isNumber)]),
      ("hash", isString)]

/-- `z.record(z.string(), previewMetadataSchema)`. -/
def previewsSchema : Json → Bool
  | .obj fields => (Json.obj fields).ownProperties.all fun field => previewMetadataSchema field.2
  | _ => false

/-- The text of an inline entry, `'{}'` for any other one and for none. -/
def previewsText (entry : Option Json) : Except ApiError String :=
  match entry.bind fun value => value.get? "type" with
  | some (.str "inline") =>
      match entry.bind fun value => value.get? "content" with
      | some (.str content) => .ok content
      | _ => .error (.serviceError "SyntaxError")
  | _ => .ok (Json.stringify (.obj []))

def jsonParse (text : String) : Except ApiError Json :=
  match Json.parse text with
  | some value => .ok value
  | none => .error (.serviceError "SyntaxError")

/-- `JSON.parse` of the text of an entry. -/
def parsePreviews (entry : Option Json) : Except ApiError Json := do
  let text ← previewsText entry
  jsonParse text

def previewName (appIdentifier variant : String) : String := appIdentifier ++ ":" ++ variant

def ownPreviews (appIdentifier : String) (previews : Fields) : Fields :=
  previews.map fun preview => (previewName appIdentifier preview.1, preview.2)

def inlineEntry (content : String) : Json :=
  .obj [("type", .str "inline"), ("sizeBytes", .ofNat content.utf8ByteSize),
    ("mimeType", .str "application/json"), ("content", .str content)]

def entryOf (entries : Option Fields) (name : String) : Option Json :=
  entries.bind fun fields => fields.get? name

/-- `updatePreviews`. -/
def updatePreviews (appIdentifier : String) (existing : Option Fields)
    (metadata : OrderedMap String Json) : Except ApiError Json := do
  let existingPreviews ← parsePreviews (entryOf existing "previews")
  let incomingPreviews ← parsePreviews (metadata.get? "previews")
  if previewsSchema incomingPreviews then
    .ok (inlineEntry (Json.stringify (.obj (existingPreviews.ownProperties.spread
      (ownPreviews appIdentifier incomingPreviews.ownProperties)))))
  else
    .error (.badRequest
      "Invalid previews. Expected a record of string keys and preview metadata.")

/-! ### One item -/

/-- An item of the payload. -/
structure ContentMetadataPayload where
  folderId : String
  objectKey : String
  hash : String
  metadata : OrderedMap String Json

def mergedEntries (appIdentifier : String) (existing : Option Fields)
    (metadata : OrderedMap String Json) : Except ApiError Fields :=
  let merged := (existing.getD []).spread metadata.entries
  if metadata.has "previews" then do
    let previews ← updatePreviews appIdentifier existing metadata
    .ok (merged.set "previews" previews)
  else .ok merged

/-- The `SET` list of the update, from the row that was read. -/
def metadataUpdates (appIdentifier : String) (item : ContentMetadataPayload)
    (folderObject : FolderObject) : Except ApiError (String × List (String × Fields)) := do
  let entries ← mergedEntries appIdentifier (Record.get? folderObject.contentMetadata item.hash)
    item.metadata
  .ok (item.hash, Record.set folderObject.contentMetadata item.hash entries)

def FolderObject.withMetadata (updates : String × List (String × Fields)) (object : FolderObject) :
    FolderObject :=
  { object with hash := some updates.1, contentMetadata := updates.2 }

theorem keeps_withMetadata (updates : String × List (String × Fields)) :
    Keeps FolderObject.clash (FolderObject.withMetadata updates) :=
  fun _ _ => ⟨rfl, rfl⟩

/-! ### Calls -/

/-- A call between two of its awaited steps. -/
inductive MetadataPhase where
  | reading (payload : List ContentMetadataPayload)
  | loaded (folderObject : FolderObject) (item : ContentMetadataPayload)
      (rest : List ContentMetadataPayload)
  | finished
  | failed (error : ApiError)

structure MetadataCall where
  appIdentifier : String
  phase : MetadataPhase

/-- An item that was written to a row. -/
structure MetadataWrite where
  folderObjectId : String
  appIdentifier : String
  hash : String
  metadata : OrderedMap String Json

structure MetadataState where
  folderObjects : FolderObjectsTable
  calls : List MetadataCall := []
  written : List MetadataWrite := []

namespace MetadataState

variable (state : MetadataState)

def setCall (index : Nat) (appIdentifier : String) (phase : MetadataPhase) : MetadataState :=
  { state with calls := state.calls.set index ⟨appIdentifier, phase⟩ }

/-- Look up the object of the next item. -/
def read (index : Nat) : MetadataState :=
  match state.calls[index]? with
  | some ⟨appIdentifier, .reading []⟩ => setCall state index appIdentifier .finished
  | some ⟨appIdentifier, .reading (item :: rest)⟩ =>
      match state.folderObjects.find? (FolderObject.isAt item.folderId item.objectKey) with
      | none => setCall state index appIdentifier
          (.failed (folderObjectNotFoundException item.folderId item.objectKey))
      | some folderObject => setCall state index appIdentifier (.loaded folderObject item rest)
  | _ => state

/-- Merge the item into the row that was read, and update the row by its id. -/
def write (index : Nat) : MetadataState :=
  match state.calls[index]? with
  | some ⟨appIdentifier, .loaded folderObject item rest⟩ =>
      match metadataUpdates appIdentifier item folderObject with
      | .error error => setCall state index appIdentifier (.failed error)
      | .ok updates =>
          setCall
            { state with
              folderObjects := state.folderObjects.update
                (fun object => object.id == folderObject.id) (FolderObject.withMetadata updates)
                (keeps_withMetadata updates)
              written := state.written ++
                [⟨folderObject.id, appIdentifier, item.hash, item.metadata⟩] }
            index appIdentifier (.reading rest)
  | _ => state

end MetadataState

inductive MetadataInput where
  | call (appIdentifier : String) (payload : List ContentMetadataPayload)
  | read (index : Nat)
  | write (index : Nat)

/-- One step of `updateFolderObjectMetadata`, of one of the calls. -/
def metadataStep (state : MetadataState) : MetadataInput → MetadataState
  | .call appIdentifier payload =>
      { state with calls := state.calls ++ [⟨appIdentifier, .reading payload⟩] }
  | .read index => state.read index
  | .write index => state.write index

/-! ### What the calls leave -/

/-- The entries an item brings, but for the previews. -/
def plainEntries (entries : Option Fields) (name : String) : Option Json :=
  if name = "previews" then none else entryOf entries name

def storedPreviews (entries : Option Fields) (name : String) : Option Json :=
  match parsePreviews (entryOf entries "previews") with
  | .ok previews => previews.ownProperties.get? name
  | .error _ => none

namespace MetadataWrite

variable (write : MetadataWrite)

def entries : String → Option Json := plainEntries (some write.metadata.entries)

/-- The previews an item brings, under the names of its app. -/
def previews (name : String) : Option Json :=
  match parsePreviews (write.metadata.get? "previews") with
  | .ok previews => (ownPreviews write.appIdentifier previews.ownProperties).get? name
  | .error _ => none

def isTo (folderObjectId hash : String) : Bool :=
  write.folderObjectId == folderObjectId && write.hash == hash

end MetadataWrite

/-- What was written to a hash of an object, in order. -/
def MetadataState.writesTo (state : MetadataState) (folderObjectId hash : String) :
    List MetadataWrite :=
  state.written.filter fun write => write.isTo folderObjectId hash

/-- Each object has for each hash the last value of every entry that was written, and of every
preview under the name of its app. -/
structure MetadataKept (state : MetadataState) : Prop where
  entries : ∀ row ∈ state.folderObjects.rows, ∀ hash,
    Overlay.Keeps (plainEntries (Record.get? row.contentMetadata hash))
      ((state.writesTo row.id hash).map MetadataWrite.entries)
  previews : ∀ row ∈ state.folderObjects.rows, ∀ hash,
    Overlay.Keeps (storedPreviews (Record.get? row.contentMetadata hash))
      ((state.writesTo row.id hash).map MetadataWrite.previews)

def RowUnchanged (state : MetadataState) : MetadataInput → Prop
  | .write index =>
      match state.calls[index]? with
      | some ⟨_, .loaded folderObject _ _⟩ => ∀ row ∈ state.folderObjects.rows,
          row.id = folderObject.id → row.contentMetadata = folderObject.contentMetadata
      | _ => True
  | _ => True

end Lombok.Folders
