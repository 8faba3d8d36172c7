import Lombok.Library.Action
import Lombok.Storage.KeyHashes

/-!
Contract: what every statement of a call leaves.

Owns the hash every row has of its own key, what a call knows of the rows it
has read and locked, and that no statement touches what another call has
locked. Does not own runs (see `KeyRuns`).
-/

namespace Lombok.Storage

open Lombok.Core Lombok.Library Lombok.Folders

/-- Every row has the hash of its own credentials, endpoint and region. -/
structure OwnHashes (sha1 : String → String) (locations : StorageLocationsTable)
    (provisions : ProvisionsTable) : Prop where
  ofLocation : ∀ row ∈ locations.rows,
    row.accessKeyHashId = buildAccessKeyHashId sha1 (locationKey row)
  ofProvision : ∀ row ∈ provisions.rows,
    row.accessKeyHashId = buildAccessKeyHashId sha1 row.accessKey

/-! ### What a statement knows -/

def LocksLocations (locations : StorageLocationsTable) (found : AccessKey) (ids : List String) :
    Prop :=
  ∀ id ∈ ids, ∃ row ∈ locations.rows, row.id = id ∧ row.kind = .server ∧ locationKey row = found

def LocksProvisions (provisions : ProvisionsTable) (found : AccessKey) (ids : List String) : Prop :=
  ∀ id ∈ ids, ∃ row ∈ provisions.rows, row.id = id ∧ row.accessKey = found

def KeyStatement.Fits (sha1 : String → String) (locations : StorageLocationsTable)
    (provisions : ProvisionsTable) : KeyStatement → Prop
  | .locate _ _ _ inserted =>
      ∀ row ∈ inserted, row.accessKeyHashId = buildAccessKeyHashId sha1 (locationKey row)
  | .writeProvision merged => merged.accessKeyHashId = buildAccessKeyHashId sha1 merged.accessKey
  | .findUserLocation _ rotation accessKey =>
      buildAccessKeyHashId sha1 accessKey = rotation.accessKeyHashId
  | .writeUserLocations _ rotation accessKey =>
      buildAccessKeyHashId sha1 accessKey = rotation.accessKeyHashId
  | .writeServerLocations rotation found =>
      buildAccessKeyHashId sha1 found = rotation.accessKeyHashId
  | .writeProvisions rotation found written =>
      buildAccessKeyHashId sha1 found = rotation.accessKeyHashId ∧
        LocksLocations locations found written
  | .commitRotation _ found _ writtenLocations writtenProvisions =>
      LocksLocations locations found writtenLocations ∧
        LocksProvisions provisions found writtenProvisions
  | _ => True

def KeyStatement.writtenProvisions : KeyStatement → List String
  | .writeProvision merged => [merged.id]
  | .commitRotation _ _ _ _ provisions => provisions
  | _ => []

/-- Locked rows that stay in the tables keep what a statement knows true. -/
theorem KeyStatement.Fits.frame {sha1 : String → String}
    {locations locationsAfter : StorageLocationsTable}
    {provisions provisionsAfter : ProvisionsTable}
    {statement : KeyStatement} (fits : statement.Fits sha1 locations provisions)
    (keepsLocations : ∀ row ∈ locations.rows, row.kind = .server →
      row.id ∈ statement.lockedLocations → row ∈ locationsAfter.rows)
    (keepsProvisions : ∀ row ∈ provisions.rows, row.id ∈ statement.lockedProvisions →
      row ∈ provisionsAfter.rows) :
    statement.Fits sha1 locationsAfter provisionsAfter := by
  have locks : ∀ found ids, ids = statement.lockedLocations → LocksLocations locations found ids →
      LocksLocations locationsAfter found ids := by
    intro found ids same locked id member
    rcases locked id member with ⟨row, there, sameId, isServer, sameKey⟩
    grind
  cases statement with
  | writeProvisions rotation found written => exact ⟨fits.1, locks found written rfl fits.2⟩
  | commitRotation rotation found now writtenLocations writtenProvisions =>
      refine ⟨locks found writtenLocations rfl fits.1, ?_⟩
      intro id member
      rcases fits.2 id member with ⟨row, there, sameId, sameKey⟩
      refine ⟨row, keepsProvisions row there ?_, sameId, sameKey⟩
      rw [sameId]
      exact member
  | _ => exact fits

theorem location_eq_of_id {locations : StorageLocationsTable} {left right : StorageLocation}
    (leftMember : left ∈ locations.rows) (rightMember : right ∈ locations.rows)
    (same : left.id = right.id) : left = right := by
  refine locations.eq_of_clash ?_ leftMember rightMember (beq_iff_eq.mpr same)
  intro first second
  exact Bool.beq_comm

theorem provision_eq_of_id {provisions : ProvisionsTable} {left right : ExternalStorageProvision}
    (leftMember : left ∈ provisions.rows) (rightMember : right ∈ provisions.rows)
    (same : left.id = right.id) : left = right := by
  refine provisions.eq_of_clash ?_ leftMember rightMember (beq_iff_eq.mpr same)
  intro first second
  exact Bool.beq_comm

theorem pick_mem {draw : Draw} {rows : List StorageLocation} {row : StorageLocation}
    (picked : draw.pick rows = some row) : row ∈ rows :=
  List.mem_of_getElem? picked

/-- What a transaction commits: the old rows and the inserted ones. -/
theorem mem_insertAll {locations committed : StorageLocationsTable}
    {inserted : List StorageLocation}
    (done : insertAll locations inserted = .ok committed) {row : StorageLocation} :
    row ∈ committed.rows ↔ row ∈ locations.rows ∨ row ∈ inserted := by
  induction inserted generalizing locations with
  | nil =>
      cases done
      simp
  | cons first rest inductionHypothesis =>
      rw [insertAll] at done
      rcases added : locations.insert first with _ | more
      · rw [added] at done
        cases done
      · rw [added] at done
        rw [inductionHypothesis done, Table.mem_insert added, List.mem_cons, or_assoc]

/-! ### What a statement leaves -/

section Statements

variable {sha1 : String → String} {locations : StorageLocationsTable} {provisions : ProvisionsTable}
  {lockedLocations lockedProvisions : List String}

/-- What every statement leaves that does not wait: rows with their own hashes, what the next
statement knows, the rows it has not written, and locks on rows that nobody had locked. -/
structure Leaves (sha1 : String → String) (statement : KeyStatement)
    (locations : StorageLocationsTable) (provisions : ProvisionsTable)
    (lockedLocations lockedProvisions : List String) (progress : KeyProgress) : Prop where
  ownHashes : OwnHashes sha1 progress.locations progress.provisions
  fits : ∀ next, progress.next = some next → next.Fits sha1 progress.locations progress.provisions
  keepsLocations : ∀ row ∈ locations.rows, row.kind = .server →
    row.id ∉ statement.lockedLocations → row ∈ progress.locations.rows
  keepsProvisions : ∀ row ∈ provisions.rows, row.id ∉ statement.writtenProvisions →
    row ∈ progress.provisions.rows
  locksLocations : ∀ next, progress.next = some next → ∀ id ∈ next.lockedLocations,
    id ∈ statement.lockedLocations ∨ id ∉ lockedLocations
  locksProvisions : ∀ next, progress.next = some next → ∀ id ∈ next.lockedProvisions,
    id ∈ statement.lockedProvisions ∨ id ∉ lockedProvisions

/-- A statement that reads. -/
theorem leaves_of_read (own : OwnHashes sha1 locations provisions) {statement next : KeyStatement}
    (fits : next.Fits sha1 locations provisions) (noLocations : next.lockedLocations = [])
    (noProvisions : next.lockedProvisions = []) :
    Leaves sha1 statement locations provisions lockedLocations lockedProvisions
      ⟨locations, provisions, some next, none⟩ where
  ownHashes := own
  fits := by
    rintro _ ⟨⟩
    exact fits
  keepsLocations _ member _ _ := member
  keepsProvisions _ member _ := member
  locksLocations := by
    simp [noLocations]
  locksProvisions := by
    simp [noProvisions]

theorem leaves_of_last {statement : KeyStatement} {locationsAfter : StorageLocationsTable}
    {provisionsAfter : ProvisionsTable} {replaced : Option AccessKey}
    (own : OwnHashes sha1 locationsAfter provisionsAfter)
    (keepsLocations : ∀ row ∈ locations.rows, row.kind = .server →
      row.id ∉ statement.lockedLocations → row ∈ locationsAfter.rows)
    (keepsProvisions : ∀ row ∈ provisions.rows, row.id ∉ statement.writtenProvisions →
      row ∈ provisionsAfter.rows) :
    Leaves sha1 statement locations provisions lockedLocations lockedProvisions
      ⟨locationsAfter, provisionsAfter, none, replaced⟩ where
  ownHashes := own
  fits _ ended := absurd ended (Option.some_ne_none _).symm
  keepsLocations := keepsLocations
  keepsProvisions := keepsProvisions
  locksLocations _ ended := absurd ended (Option.some_ne_none _).symm
  locksProvisions _ ended := absurd ended (Option.some_ne_none _).symm

theorem targetRow_ownHash {id userId folderId : String} {purpose : LocationPurpose}
    {target : StorageTarget} {row : Option StorageLocation}
    (made : targetRow sha1 locations provisions id userId folderId purpose target = .ok row) :
    ∀ made ∈ row, made.accessKeyHashId = buildAccessKeyHashId sha1 (locationKey made) := by
  cases target with
  | builtin =>
      cases made
      nofun
  | custom location =>
      cases made
      rintro _ ⟨⟩
      rfl
  | userLocation userLocationId bucketOverride prefixOverride =>
      dsimp only [targetRow] at made
      split at made
      · cases made
      split at made
      · cases made
      · cases made
        rintro _ ⟨⟩
        rfl
  | serverProvision storageProvisionId =>
      dsimp only [targetRow] at made
      split at made
      · cases made
      · cases made
        rintro _ ⟨⟩
        rfl

/-- The rows of a rotation's `where` all have the key of any of them. -/
theorem key_of_hash (collisionFree : Function.Injective sha1)
    (own : OwnHashes sha1 locations provisions) {row : StorageLocation}
    (member : row ∈ locations.rows) {key : AccessKey}
    (same : buildAccessKeyHashId sha1 key = row.accessKeyHashId) : locationKey row = key := by
  apply buildAccessKeyHashId_injective collisionFree
  rw [same, own.ofLocation row member]

theorem leaves_writeUserLocations (collisionFree : Function.Injective sha1)
    (own : OwnHashes sha1 locations provisions) {userId : String} {rotation : KeyRotation}
    {accessKey : AccessKey}
    (known : buildAccessKeyHashId sha1 accessKey = rotation.accessKeyHashId) :
    Leaves sha1 (.writeUserLocations userId rotation accessKey) locations provisions
      lockedLocations lockedProvisions
      ⟨locations.update (isUserLocation userId rotation.accessKeyHashId)
        (rotatedLocation sha1 rotation accessKey) (keeps_rotatedLocation sha1 rotation accessKey),
        provisions, none, none⟩ := by
  apply leaves_of_last
  · refine ⟨?_, own.ofProvision⟩
    intro row member
    rcases List.mem_map.mp member with ⟨old, there, changed⟩
    by_cases selected : isUserLocation userId rotation.accessKeyHashId old = true
    · rw [if_pos selected] at changed
      have sameHash : old.accessKeyHashId = rotation.accessKeyHashId := by
        grind [isUserLocation]
      have sameKey := key_of_hash collisionFree own there (known.trans sameHash.symm)
      rw [← changed, ← sameKey]
      rfl
    · grind [own.ofLocation]
  · intro row member isServer _
    refine List.mem_map.mpr ⟨row, member, ?_⟩
    simp [isUserLocation, isServer]
  · exact fun _ member _ => member

theorem leaves_commitRotation (own : OwnHashes sha1 locations provisions) {rotation : KeyRotation}
    {found : AccessKey} {now : Date} {writtenLocations writtenProvisions : List String}
    (locks : LocksLocations locations found writtenLocations)
    (alsoLocks : LocksProvisions provisions found writtenProvisions) :
    Leaves sha1 (.commitRotation rotation found now writtenLocations writtenProvisions) locations
      provisions lockedLocations lockedProvisions
      ⟨locations.update (fun row => writtenLocations.contains row.id)
          (rotatedLocation sha1 rotation found) (keeps_rotatedLocation sha1 rotation found),
        provisions.update (fun row => writtenProvisions.contains row.id)
          (rotatedProvision sha1 rotation found now)
          (keeps_rotatedProvision sha1 rotation found now), none, some found⟩ := by
  apply leaves_of_last
  · refine ⟨?_, ?_⟩
    · intro row member
      rcases List.mem_map.mp member with ⟨old, there, changed⟩
      by_cases selected : writtenLocations.contains old.id = true
      · rw [if_pos selected] at changed
        rcases locks old.id (List.contains_iff_mem.mp selected) with
          ⟨locked, isRow, sameId, _, sameKey⟩
        rw [location_eq_of_id isRow there sameId] at sameKey
        rw [← changed, ← sameKey]
        rfl
      · grind [own.ofLocation]
    · intro row member
      rcases List.mem_map.mp member with ⟨old, there, changed⟩
      by_cases selected : writtenProvisions.contains old.id = true
      · rw [if_pos selected] at changed
        rcases alsoLocks old.id (List.contains_iff_mem.mp selected) with
          ⟨locked, isRow, sameId, sameKey⟩
        rw [provision_eq_of_id isRow there sameId] at sameKey
        rw [← changed, ← sameKey]
        rfl
      · grind [own.ofProvision]
  · intro row member _ unwritten
    refine List.mem_map.mpr ⟨row, member, ?_⟩
    exact if_neg fun selected => unwritten (List.contains_iff_mem.mp selected)
  · intro row member unwritten
    refine List.mem_map.mpr ⟨row, member, ?_⟩
    exact if_neg fun selected => unwritten (List.contains_iff_mem.mp selected)

theorem execute_leaves (collisionFree : Function.Injective sha1)
    (own : OwnHashes sha1 locations provisions) {statement : KeyStatement}
    (fits : statement.Fits sha1 locations provisions)
    (ready : statement.waits locations provisions lockedLocations lockedProvisions = false)
    {draw : Draw} {progress : KeyProgress}
    (done : statement.execute sha1 locations provisions draw = .ok progress) :
    Leaves sha1 statement locations provisions lockedLocations lockedProvisions progress := by
  cases statement with
  | locate userId folderId targets inserted =>
      cases targets with
      | nil =>
          rcases Action.bind_eq_ok.mp done with ⟨committed, isCommitted, result⟩
          cases result
          apply leaves_of_last
          · refine ⟨?_, own.ofProvision⟩
            intro row member
            rcases (mem_insertAll isCommitted).mp member with old | new
            · exact own.ofLocation row old
            · exact fits row new
          · exact fun row member _ _ => (mem_insertAll isCommitted).mpr (.inl member)
          · exact fun _ member _ => member
      | cons first rest =>
          rcases first with ⟨purpose, target⟩
          rcases Action.bind_eq_ok.mp done with ⟨row, made, result⟩
          cases result
          refine leaves_of_read own ?_ rfl rfl
          intro other member
          rcases List.mem_append.mp member with old | new
          · exact fits other old
          · exact targetRow_ownHash made other (Option.mem_toList.mp new)
  | insertProvision now input =>
      dsimp only [KeyStatement.execute] at done
      split at done
      · cases done
      · rename_i inserted added
        cases done
        apply leaves_of_last
        · refine ⟨own.ofLocation, ?_⟩
          intro row member
          rcases (Table.mem_insert added).mp member with old | rfl
          · exact own.ofProvision row old
          · rfl
        · exact fun _ member _ _ => member
        · exact fun row member _ => (Table.mem_insert added).mpr (.inl member)
  | readProvision now id update =>
      dsimp only [KeyStatement.execute] at done
      split at done
      · cases done
      · cases done
        exact leaves_of_read own rfl rfl rfl
  | writeProvision merged =>
      cases done
      apply leaves_of_last
      · refine ⟨own.ofLocation, ?_⟩
        intro row member
        rcases List.mem_map.mp member with ⟨old, there, changed⟩
        by_cases selected : (old.id == merged.id) = true
        · rw [if_pos selected] at changed
          rw [← changed]
          exact fits
        · grind [own.ofProvision]
      · exact fun _ member _ _ => member
      · intro row member unwritten
        refine List.mem_map.mpr ⟨row, member, ?_⟩
        exact if_neg fun selected => unwritten (List.mem_singleton.mpr (beq_iff_eq.mp selected))
  | readUserKey userId rotation =>
      dsimp only [KeyStatement.execute] at done
      split at done
      · cases done
      · rename_i row picked
        cases done
        refine leaves_of_read own ?_ rfl rfl
        rcases List.mem_filter.mp (pick_mem picked) with ⟨member, selected⟩
        simp only [isUserLocation, Bool.and_eq_true, beq_iff_eq] at selected
        exact (own.ofLocation row member).symm.trans selected.1.1
  | findUserLocation userId rotation accessKey =>
      dsimp only [KeyStatement.execute] at done
      split at done
      · cases done
      · cases done
        exact leaves_of_read own fits rfl rfl
  | writeUserLocations userId rotation accessKey =>
      cases done
      exact leaves_writeUserLocations collisionFree own fits
  | findServerLocation rotation =>
      dsimp only [KeyStatement.execute] at done
      split at done
      · cases done
      · rename_i row picked
        cases done
        refine leaves_of_read own ?_ rfl rfl
        rcases List.mem_filter.mp (pick_mem picked) with ⟨member, selected⟩
        simp only [isServerLocation, Bool.and_eq_true, beq_iff_eq] at selected
        exact (own.ofLocation row member).symm.trans selected.1
  | writeServerLocations rotation found =>
      cases done
      refine
        { ownHashes := own, fits := ?_, keepsLocations := fun _ member _ _ => member,
          keepsProvisions := fun _ member _ => member, locksLocations := ?_, locksProvisions := ?_ }
      · rintro _ ⟨⟩
        refine ⟨fits, ?_⟩
        intro id locked
        rcases List.mem_map.mp locked with ⟨row, viewed, rfl⟩
        rcases List.mem_filter.mp viewed with ⟨member, selected⟩
        simp only [isServerLocation, Bool.and_eq_true, beq_iff_eq] at selected
        exact ⟨row, member, rfl, selected.2,
          key_of_hash collisionFree own member (fits.trans selected.1.symm)⟩
      · rintro _ ⟨⟩ id locked
        rcases List.mem_map.mp locked with ⟨row, viewed, rfl⟩
        have free := List.any_eq_false.mp ready row viewed
        exact .inr fun already => free (List.contains_iff_mem.mpr already)
      · rintro _ ⟨⟩ id locked
        cases locked
  | writeProvisions rotation found written =>
      cases done
      refine
        { ownHashes := own, fits := ?_, keepsLocations := fun _ member _ _ => member,
          keepsProvisions := fun _ member _ => member,
          locksLocations := ?_, locksProvisions := ?_ }
      · rintro _ ⟨⟩
        refine ⟨fits.2, ?_⟩
        intro id locked
        rcases List.mem_map.mp locked with ⟨row, viewed, rfl⟩
        rcases List.mem_filter.mp viewed with ⟨member, selected⟩
        refine ⟨row, member, rfl, buildAccessKeyHashId_injective collisionFree ?_⟩
        rw [← own.ofProvision row member, fits.1]
        exact beq_iff_eq.mp selected
      · rintro _ ⟨⟩ id locked
        exact .inl locked
      · rintro _ ⟨⟩ id locked
        rcases List.mem_map.mp locked with ⟨row, viewed, rfl⟩
        have free := List.any_eq_false.mp ready row viewed
        exact .inr fun already => free (List.contains_iff_mem.mpr already)
  | commitRotation rotation found now writtenLocations writtenProvisions =>
      cases done
      exact leaves_commitRotation own fits.1 fits.2

end Statements

end Lombok.Storage
