import Lombok.Folders.Metadata

/-!
Contract: what is left of content metadata after calls in any order.

Merging one item lays its entries and its previews over those of the row it was
read from (`mergedEntries_plain`, `mergedEntries_previews`). So as long as each
row is written as it was read, nothing that was written is lost.
-/

namespace Lombok.Folders

open Lombok.Core Lombok.Library

/-! ### One item -/

theorem get?_eq_record (fields : Fields) (name : String) :
    fields.get? name = Record.get? fields name := by
  induction fields with
  | nil => rfl
  | cons field rest inductionHypothesis =>
      rw [Fields.get?_cons, Record.get?_cons, inductionHypothesis]
      simp

theorem entryOf_getD (existing : Option Fields) (name : String) :
    (existing.getD []).get? name = entryOf existing name := by
  cases existing with
  | none => rfl
  | some fields => rfl

theorem get?_merged (existing : Option Fields) (metadata : OrderedMap String Json)
    (name : String) :
    ((existing.getD []).spread metadata.entries).get? name =
      (metadata.get? name).or (entryOf existing name) := by
  rw [Fields.get?_spread _ metadata.distinct, entryOf_getD, get?_eq_record]
  rfl

variable {appIdentifier : String} {existing : Option Fields} {metadata : OrderedMap String Json}
    {value : Json}

/-- The entries of an item are laid over those that were read. -/
theorem mergedEntries_plain {merged : Fields}
    (made : mergedEntries appIdentifier existing metadata = .ok merged) (name : String) :
    plainEntries (some merged) name =
      (plainEntries (some metadata.entries) name).or (plainEntries existing name) := by
  unfold plainEntries
  by_cases isPreviews : name = "previews"
  · simp [isPreviews]
  rw [if_neg isPreviews, if_neg isPreviews, if_neg isPreviews]
  have own : entryOf (some metadata.entries) name = metadata.get? name :=
    get?_eq_record metadata.entries name
  rw [own, ← get?_merged]
  unfold mergedEntries at made
  split at made
  · cases updated : updatePreviews appIdentifier existing metadata with
    | error error =>
        rw [updated] at made
        cases made
    | ok previews =>
        rw [updated] at made
        cases made
        exact Fields.get?_set_other _ _ isPreviews
  · cases made
    rfl

/-! ### Previews -/

theorem previewName_injective (appIdentifier : String) {left right : String}
    (same : previewName appIdentifier left = previewName appIdentifier right) : left = right := by
  unfold previewName at same
  have lists := congrArg String.toList same
  simp only [String.toList_append] at lists
  exact String.toList_inj.mp (List.append_cancel_left lists)

theorem ownPreviews_distinct (appIdentifier : String) {previews : Fields}
    (distinct : previews.Distinct) : (ownPreviews appIdentifier previews).Distinct := by
  have names : (ownPreviews appIdentifier previews).map Prod.fst =
      (previews.map Prod.fst).map (previewName appIdentifier) := by
    rw [ownPreviews, List.map_map, List.map_map]
    rfl
  grind [Fields.Distinct, previewName_injective]

theorem ownPreviews_plain (appIdentifier : String) {previews : Fields}
    (plain : Json.isPlainFields previews = true) :
    Json.isPlainFields (ownPreviews appIdentifier previews) = true := by
  rw [Json.isPlainFields_iff] at plain ⊢
  intro field member
  obtain ⟨preview, inside, rfl⟩ := List.mem_map.mp member
  exact plain preview inside

theorem jsonParse_plain {text : String} (parsed : jsonParse text = .ok value) :
    value.isPlain = true := by
  grind [jsonParse, Json.parse_isPlain]

theorem jsonParse_stringify (plain : value.isPlain = true) :
    jsonParse (Json.stringify value) = .ok value := by
  rw [jsonParse, Json.parse_stringify plain]

theorem parsePreviews_plain {entry : Option Json} (parsed : parsePreviews entry = .ok value) :
    value.isPlain = true := by
  unfold parsePreviews at parsed
  cases text : previewsText entry with
  | error error =>
      rw [text] at parsed
      cases parsed
  | ok content =>
      rw [text] at parsed
      exact jsonParse_plain parsed

/-- What is stored inline is read back. -/
theorem parsePreviews_inlineEntry {fields : Fields} (plain : Json.isPlainFields fields = true) :
    parsePreviews (some (inlineEntry (Json.stringify (.obj fields)))) = .ok (.obj fields) :=
  @jsonParse_stringify (.obj fields) plain

theorem parsePreviews_none : parsePreviews none = .ok (.obj []) :=
  @jsonParse_stringify (.obj []) rfl

/-- The previews of an item are laid over those that were read. -/
theorem updatePreviews_stored {entry : Json}
    (made : updatePreviews appIdentifier existing metadata = .ok entry) :
    ∃ incoming stored,
      parsePreviews (metadata.get? "previews") = .ok incoming ∧
        parsePreviews (some entry) = .ok (.obj stored) ∧
        ∀ name, (Json.ownProperties (.obj stored)).get? name =
          ((ownPreviews appIdentifier incoming.ownProperties).get? name).or
            (storedPreviews existing name) := by
  unfold updatePreviews at made
  cases existingRead : parsePreviews (entryOf existing "previews") with
  | error error =>
      rw [existingRead] at made
      cases made
  | ok existingPreviews =>
      cases incomingRead : parsePreviews (metadata.get? "previews") with
      | error error =>
          rw [existingRead, incomingRead] at made
          cases made
      | ok incoming =>
          rw [existingRead, incomingRead] at made
          dsimp only [bind, Except.bind] at made
          split at made
          · cases made
            have overlaid : (ownPreviews appIdentifier incoming.ownProperties).Distinct :=
              ownPreviews_distinct appIdentifier incoming.ownProperties_distinct
            refine ⟨incoming, _, rfl, parsePreviews_inlineEntry ?_, ?_⟩
            · grind [Json.isPlainFields_spread, Json.ownProperties_plain, parsePreviews_plain,
                ownPreviews_plain]
            · intro name
              rw [Json.get?_ownProperties (existingPreviews.ownProperties_distinct.spread _),
                Fields.get?_spread _ overlaid]
              rw [storedPreviews, existingRead]
          · cases made

theorem mergedEntries_previews {merged : Fields}
    (made : mergedEntries appIdentifier existing metadata = .ok merged) (write : MetadataWrite)
    (isApp : write.appIdentifier = appIdentifier) (isMetadata : write.metadata = metadata)
    (name : String) :
    storedPreviews (some merged) name = (write.previews name).or
        (storedPreviews existing name) := by
  rw [MetadataWrite.previews, isApp, isMetadata]
  unfold mergedEntries at made
  split at made
  · cases updated : updatePreviews appIdentifier existing metadata with
    | error error =>
        rw [updated] at made
        cases made
    | ok entry =>
        rw [updated] at made
        cases made
        obtain ⟨incoming, stored, isIncoming, isStored, laid⟩ := updatePreviews_stored updated
        rw [isIncoming, ← laid]
        unfold storedPreviews entryOf
        dsimp only [Option.bind_some]
        rw [Fields.get?_set_same, isStored]
  · rename_i noPreviews
    cases made
    have absent : metadata.get? "previews" = none := by
      exact Option.not_isSome_iff_eq_none.mp noPreviews
    have same : entryOf (some ((existing.getD []).spread metadata.entries)) "previews" =
        entryOf existing "previews" := by
      refine (get?_merged existing metadata "previews").trans ?_
      rw [absent, Option.none_or]
    rw [absent, parsePreviews_none]
    rw [storedPreviews, same]
    rfl

/-- The columns that are set: the metadata of one hash, the others as they were read. -/
theorem metadataUpdates_ok {item : ContentMetadataPayload} {folderObject : FolderObject}
    {updates : String × List (String × Fields)}
    (made : metadataUpdates appIdentifier item folderObject = .ok updates) :
    ∃ entries,
      mergedEntries appIdentifier (Record.get? folderObject.contentMetadata item.hash)
        item.metadata = .ok entries ∧
      updates = (item.hash, Record.set folderObject.contentMetadata item.hash entries) := by
  unfold metadataUpdates at made
  cases merged : mergedEntries appIdentifier
      (Record.get? folderObject.contentMetadata item.hash) item.metadata with
  | error error =>
      rw [merged] at made
      cases made
  | ok entries =>
      rw [merged] at made
      cases made
      exact ⟨entries, rfl, rfl⟩

/-! ### One step -/

/-- One hash of one row has what was written to it. -/
structure KeptIn (writes : List MetadataWrite) (row : FolderObject) (hash : String) : Prop where
  entries : Overlay.Keeps (plainEntries (Record.get? row.contentMetadata hash))
    ((writes.filter fun write => write.isTo row.id hash).map MetadataWrite.entries)
  previews : Overlay.Keeps (storedPreviews (Record.get? row.contentMetadata hash))
    ((writes.filter fun write => write.isTo row.id hash).map MetadataWrite.previews)

theorem metadataKept_iff (state : MetadataState) :
    MetadataKept state ↔
      ∀ row ∈ state.folderObjects.rows, ∀ hash, KeptIn state.written row hash := by
  constructor
  · intro kept row member hash
    exact ⟨kept.entries row member hash, kept.previews row member hash⟩
  · intro kept
    exact ⟨fun row member hash => (kept row member hash).entries,
      fun row member hash => (kept row member hash).previews⟩

theorem KeptIn.other {writes : List MetadataWrite} {row after : FolderObject} {hash : String}
    (kept : KeptIn writes row hash) {write : MetadataWrite}
    (elsewhere : write.isTo row.id hash = false) (sameId : after.id = row.id)
    (same : Record.get? after.contentMetadata hash = Record.get? row.contentMetadata hash) :
    KeptIn (writes ++ [write]) after hash := by
  have writesSame : (writes ++ [write]).filter (fun other => other.isTo row.id hash) =
      writes.filter fun other => other.isTo row.id hash := by
    simp [elsewhere]
  constructor
  · rw [sameId, writesSame, same]
    exact kept.entries
  · rw [sameId, writesSame, same]
    exact kept.previews

theorem KeptIn.laid {writes : List MetadataWrite} {row after : FolderObject} {hash : String}
    (kept : KeptIn writes row hash) {write : MetadataWrite}
    (here : write.isTo row.id hash = true) (sameId : after.id = row.id)
    (plain : ∀ name, plainEntries (Record.get? after.contentMetadata hash) name =
      (write.entries name).or (plainEntries (Record.get? row.contentMetadata hash) name))
    (previews : ∀ name, storedPreviews (Record.get? after.contentMetadata hash) name =
      (write.previews name).or (storedPreviews (Record.get? row.contentMetadata hash) name)) :
    KeptIn (writes ++ [write]) after hash := by
  have writesGrown : (writes ++ [write]).filter (fun other => other.isTo row.id hash) =
      (writes.filter fun other => other.isTo row.id hash) ++ [write] := by
    rw [List.filter_append, List.filter_singleton, here]
    rfl
  constructor
  · rw [sameId, writesGrown, List.map_append]
    exact kept.entries.write plain
  · rw [sameId, writesGrown, List.map_append]
    exact kept.previews.write previews

namespace MetadataKept

variable {state : MetadataState}

theorem setCall (kept : MetadataKept state) (index : Nat) (appIdentifier : String)
    (phase : MetadataPhase) : MetadataKept (state.setCall index appIdentifier phase) :=
  ⟨kept.entries, kept.previews⟩

theorem read (kept : MetadataKept state) (index : Nat) : MetadataKept (state.read index) := by
  grind [MetadataState.read, kept.setCall]

theorem update (kept : MetadataKept state) {appIdentifier : String}
    {item : ContentMetadataPayload} {folderObject : FolderObject}
    {updates : String × List (String × Fields)}
    (made : metadataUpdates appIdentifier item folderObject = .ok updates)
    (unchanged : ∀ row ∈ state.folderObjects.rows, row.id = folderObject.id →
      row.contentMetadata = folderObject.contentMetadata) :
    MetadataKept
      { state with
        folderObjects := state.folderObjects.update (fun object => object.id == folderObject.id)
          (FolderObject.withMetadata updates) (keeps_withMetadata updates)
        written := state.written ++
          [⟨folderObject.id, appIdentifier, item.hash, item.metadata⟩] } := by
  obtain ⟨entries, merged, isUpdates⟩ := metadataUpdates_ok made
  rw [metadataKept_iff] at kept ⊢
  intro changed inside hash
  obtain ⟨row, member, isChanged⟩ :=
    (@Table.mem_update _ _ _ _ _ (keeps_withMetadata updates) _).mp inside
  have here := kept row member hash
  by_cases isRow : row.id = folderObject.id
  · rw [if_pos (beq_iff_eq.mpr isRow)] at isChanged
    have same := unchanged row member isRow
    have changedMetadata : Record.get? changed.contentMetadata hash =
        if hash = item.hash then some entries else Record.get? row.contentMetadata hash := by
      rw [← isChanged, same, isUpdates]
      exact Record.get?_set folderObject.contentMetadata item.hash hash entries
    have changedId : changed.id = row.id := by rw [← isChanged]; rfl
    by_cases isHash : hash = item.hash
    · rw [if_pos isHash] at changedMetadata
      apply here.laid _ changedId
      · intro name
        rw [changedMetadata, same, isHash]
        exact mergedEntries_plain merged name
      · grind [mergedEntries_previews]
      · unfold MetadataWrite.isTo
        simp [isRow, isHash]
    · grind [MetadataWrite.isTo, here.other]
  · rw [if_neg (fun equal => isRow (beq_iff_eq.mp equal))] at isChanged
    grind [MetadataWrite.isTo, here.other]

theorem write (kept : MetadataKept state) {index : Nat}
    (unchanged : RowUnchanged state (.write index)) : MetadataKept (state.write index) := by
  unfold RowUnchanged at unchanged
  unfold MetadataState.write
  split
  · rename_i isLoaded
    dsimp only at unchanged
    rw [isLoaded] at unchanged
    split
    · exact kept.setCall _ _ _
    · rename_i made
      exact (kept.update made unchanged).setCall _ _ _
  · exact kept

theorem step (kept : MetadataKept state) {input : MetadataInput}
    (unchanged : RowUnchanged state input) : MetadataKept (metadataStep state input) := by
  cases input with
  | call appIdentifier payload => exact ⟨kept.entries, kept.previews⟩
  | read index => exact kept.read index
  | write index => exact kept.write unchanged

end MetadataKept

theorem metadataKept_start (folderObjects : FolderObjectsTable) :
    MetadataKept { folderObjects := folderObjects } :=
  ⟨fun _ _ _ => Overlay.keeps_nil _, fun _ _ _ => Overlay.keeps_nil _⟩

/-- Nothing that was written is lost in a run that writes every row as it was read. -/
theorem metadata_kept (folderObjects : FolderObjectsTable) (inputs : List MetadataInput)
    (unchanged : AlongRun metadataStep RowUnchanged { folderObjects := folderObjects } inputs) :
    MetadataKept (run metadataStep { folderObjects := folderObjects } inputs) :=
  run_invariant_of_alongRun (fun _ _ kept here => kept.step here)
    (metadataKept_start folderObjects) unchanged

/-! ### Reads followed by their writes, and reads followed by another write -/

theorem object_unique (objects : FolderObjectsTable) {left right : FolderObject}
    (leftMember : left ∈ objects.rows) (rightMember : right ∈ objects.rows)
    (sameId : left.id = right.id) : left = right := by
  apply objects.eq_of_clash _ leftMember rightMember
  · rw [FolderObject.clash, beq_iff_eq.mpr sameId, Bool.true_or]
  · simp [FolderObject.clash, BEq.comm]

theorem rowUnchanged_of_read {state : MetadataState} {index : Nat} {appIdentifier : String}
    {payload : List ContentMetadataPayload}
    (isReading : state.calls[index]? = some ⟨appIdentifier, .reading payload⟩) :
    RowUnchanged (state.read index) (.write index) := by
  obtain ⟨inside, -⟩ := List.getElem?_eq_some_iff.mp isReading
  unfold RowUnchanged MetadataState.read MetadataState.setCall
  rw [isReading]
  cases payload with
  | nil =>
      simp [inside]
  | cons item rest =>
      cases found : state.folderObjects.find? (FolderObject.isAt item.folderId item.objectKey) with
      | none =>
          simp [found, inside]
      | some folderObject =>
          dsimp only
          rw [found, List.getElem?_set_self inside]
          intro row member sameId
          rw [object_unique _ member (List.mem_of_find?_eq_some found) sameId]

def sampleObject : FolderObject where
  id := "2c1f7f5e-0000-4000-8000-000000000000"
  objectKey := "photo.jpg"
  filename := "photo.jpg"
  eTag := "e"
  sizeBytes := 1
  lastModified := 0
  hash := none
  contentMetadata := []
  folderId := "7b1f7f5e-0000-4000-8000-000000000000"
  mimeType := "image/jpeg"
  mediaType := .image
  createdAt := 0
  updatedAt := 0

def sampleItem (name content : String) : ContentMetadataPayload where
  folderId := sampleObject.folderId
  objectKey := sampleObject.objectKey
  hash := "h1"
  metadata := OrderedMap.empty.set name (inlineEntry content)

def sampleMetadataState : MetadataState := { folderObjects := .singleton sampleObject }

/-- Two apps read the object before either of them writes it. -/
def lostInputs : List MetadataInput :=
  [.call "tagger-0000aaaa" [sampleItem "tags" "[]"], .call "core" [sampleItem "exif" "1"],
    .read 0, .read 1, .write 0, .write 1, .read 0, .read 1]

theorem metadata_lost : ¬ MetadataKept (run metadataStep sampleMetadataState lostInputs) := by
  intro kept
  have lost : ∃ row ∈ (run metadataStep sampleMetadataState lostInputs).folderObjects.rows,
      (plainEntries (Record.get? row.contentMetadata "h1") "tags").isNone = true ∧
        (Overlay.written (((run metadataStep sampleMetadataState lostInputs).writesTo row.id
          "h1").map MetadataWrite.entries) "tags").isSome = true := by decide +kernel
  obtain ⟨row, member, absent, present⟩ := lost
  obtain ⟨value, isWritten⟩ := Option.isSome_iff_exists.mp present
  rw [kept.entries row member "h1" "tags" value isWritten] at absent
  cases absent

theorem metadata_kept_single : MetadataKept (run metadataStep sampleMetadataState
    [.call "tagger-0000aaaa" [sampleItem "tags" "[]"], .read 0, .write 0]) := by
  have isReading : (metadataStep sampleMetadataState
      (.call "tagger-0000aaaa" [sampleItem "tags" "[]"])).calls[0]? =
        some ⟨"tagger-0000aaaa", .reading [sampleItem "tags" "[]"]⟩ := rfl
  exact metadata_kept (.singleton sampleObject) _
    ⟨trivial, trivial, rowUnchanged_of_read isReading, trivial⟩

end Lombok.Folders
