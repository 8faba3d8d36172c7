import Lombok.Storage.KeyRuns
import Mathlib.Logic.Equiv.Basic

/-!
Contract: what a rotation by the admin leaves of the key it replaces.

Every row has the hash of its own key in every run, and a rotation touches no
row of another key. That no row has the replaced key once all calls are over
needs more: a call that read the key before the rotation committed writes it
back afterwards, and a row that commits while the rotation is under way is not
seen by it.

Does not own: the statements of the calls (see `AccessKeys`).
-/

namespace Lombok.Storage

open Lombok.Core Lombok.Library Lombok.Folders

/-! ### What is claimed of a rotation -/

/-- No server location and no provision has the key. -/
structure KeyIsGone (state : KeysState) (key : AccessKey) : Prop where
  ofLocation : ∀ row ∈ state.locations.rows, row.kind = .server → locationKey row ≠ key
  ofProvision : ∀ row ∈ state.provisions.rows, row.accessKey ≠ key

/-- Where a rotation by the admin returns, it has changed no row of another key. -/
def LeavesOtherKeys (sha1 : String → String) (state : KeysState) (event : KeysEvent) : Prop :=
  ∀ key, (state.step sha1 event).replaced = key :: state.replaced →
    (∀ row ∈ state.locations.rows, locationKey row ≠ key →
      row ∈ (state.step sha1 event).locations.rows) ∧
    ∀ row ∈ state.provisions.rows, row.accessKey ≠ key →
      row ∈ (state.step sha1 event).provisions.rows

structure RotationsHold (sha1 : String → String) (start : KeysState) (events : List KeysEvent) :
    Prop where
  ownHashes : OwnHashes sha1 (run (KeysState.step sha1) start events).locations
    (run (KeysState.step sha1) start events).provisions
  gone : (∀ call ∈ (run (KeysState.step sha1) start events).calls, call = none) →
    ∀ key ∈ (run (KeysState.step sha1) start events).replaced,
      KeyIsGone (run (KeysState.step sha1) start events) key
  others : AlongRun (KeysState.step sha1) (LeavesOtherKeys sha1) start events

def KeyStatement.PutsNothingBack (state : KeysState) : KeyStatement → Prop
  | .locate _ _ [] inserted =>
      ∀ row ∈ inserted, row.kind = .server → locationKey row ∉ state.replaced
  | .insertProvision _ input =>
      AccessKey.mk input.endpoint input.accessKeyId input.secretAccessKey input.region ∉
        state.replaced
  | .writeProvision merged => merged.accessKey ∉ state.replaced
  | .commitRotation rotation found _ locations provisions =>
      rotation.rotated found ∉ found :: state.replaced ∧
      (∀ row ∈ state.locations.rows, row.kind = .server → locationKey row = found →
        row.id ∈ locations) ∧
      ∀ row ∈ state.provisions.rows, row.accessKey = found → row.id ∈ provisions
  | _ => True

def PutsNothingBack (state : KeysState) : KeysEvent → Prop
  | .begin _ => True
  | .advance call _ fails =>
      match state.calls[call]? with
      | some (some statement) => fails = true ∨ statement.PutsNothingBack state
      | _ => True

instance decidablePutsNothingBackStatement (state : KeysState) :
    ∀ statement : KeyStatement, Decidable (statement.PutsNothingBack state)
  | .locate _ _ [] inserted => inferInstanceAs (Decidable
      (∀ row ∈ inserted, row.kind = .server → locationKey row ∉ state.replaced))
  | .locate _ _ (_ :: _) _ => isTrue trivial
  | .insertProvision _ input => inferInstanceAs (Decidable
      (AccessKey.mk input.endpoint input.accessKeyId input.secretAccessKey input.region ∉
        state.replaced))
  | .readProvision _ _ _ => isTrue trivial
  | .writeProvision merged => inferInstanceAs (Decidable (merged.accessKey ∉ state.replaced))
  | .readUserKey _ _ => isTrue trivial
  | .findUserLocation _ _ _ => isTrue trivial
  | .writeUserLocations _ _ _ => isTrue trivial
  | .findServerLocation _ => isTrue trivial
  | .writeServerLocations _ _ => isTrue trivial
  | .writeProvisions _ _ _ => isTrue trivial
  | .commitRotation rotation found _ locations provisions => inferInstanceAs (Decidable
      (rotation.rotated found ∉ found :: state.replaced ∧
      (∀ row ∈ state.locations.rows, row.kind = .server → locationKey row = found →
        row.id ∈ locations) ∧
      ∀ row ∈ state.provisions.rows, row.accessKey = found → row.id ∈ provisions))

instance decidablePutsNothingBack (state : KeysState) :
    ∀ event : KeysEvent, Decidable (PutsNothingBack state event)
  | .begin _ => isTrue trivial
  | .advance call _ fails =>
      match running : state.calls[call]? with
      | some (some statement) => decidable_of_iff (fails = true ∨ statement.PutsNothingBack state)
          (by rw [PutsNothingBack, running])
      | some none => isTrue (by rw [PutsNothingBack, running]; trivial)
      | none => isTrue (by rw [PutsNothingBack, running]; trivial)

/-! ### Replaced keys -/

section Replaced

variable {sha1 : String → String} {state : KeysState}

/-- What a statement writes: nothing, the rows of a folder, a provision, the locations of a user,
or what a rotation by the admin has locked. -/
theorem execute_writes {statement : KeyStatement} {draw : Draw} {progress : KeyProgress}
    (done : statement.execute sha1 state.locations state.provisions draw = .ok progress) :
    (∃ next, progress = ⟨state.locations, state.provisions, some next, none⟩) ∨
    (∃ userId folderId inserted committed, statement = .locate userId folderId [] inserted ∧
      insertAll state.locations inserted = .ok committed ∧
      progress = ⟨committed, state.provisions, none, none⟩) ∨
    (∃ now input inserted, statement = .insertProvision now input ∧
      state.provisions.insert (createdProvision sha1 draw.id now input) = some inserted ∧
      progress = ⟨state.locations, inserted, none, none⟩) ∨
    (∃ merged, statement = .writeProvision merged ∧
      progress = ⟨state.locations, writeMerged merged state.provisions, none, none⟩) ∨
    (∃ userId rotation accessKey, statement = .writeUserLocations userId rotation accessKey ∧
      progress = ⟨state.locations.update (isUserLocation userId rotation.accessKeyHashId)
        (rotatedLocation sha1 rotation accessKey) (keeps_rotatedLocation sha1 rotation accessKey),
        state.provisions, none, none⟩) ∨
    ∃ rotation found now writtenLocations writtenProvisions,
      statement = .commitRotation rotation found now writtenLocations writtenProvisions ∧
      progress = ⟨state.locations.update (fun row => writtenLocations.contains row.id)
          (rotatedLocation sha1 rotation found) (keeps_rotatedLocation sha1 rotation found),
        state.provisions.update (fun row => writtenProvisions.contains row.id)
          (rotatedProvision sha1 rotation found now)
          (keeps_rotatedProvision sha1 rotation found now), none, some found⟩ := by
  cases statement with
  | locate userId folderId targets inserted =>
      cases targets with
      | nil =>
          rcases Action.bind_eq_ok.mp done with ⟨committed, isCommitted, result⟩
          grind
      | cons first rest =>
          rcases Action.bind_eq_ok.mp done with ⟨row, _, result⟩
          cases result
          exact .inl ⟨_, rfl⟩
  | insertProvision now input =>
      grind [KeyStatement.execute]
  | readProvision now id update =>
      grind [KeyStatement.execute]
  | writeProvision merged =>
      cases done
      exact .inr (.inr (.inr (.inl ⟨merged, rfl, rfl⟩)))
  | readUserKey userId rotation =>
      grind [KeyStatement.execute]
  | findUserLocation userId rotation accessKey =>
      grind [KeyStatement.execute]
  | writeUserLocations userId rotation accessKey =>
      cases done
      exact .inr (.inr (.inr (.inr (.inl ⟨userId, rotation, accessKey, rfl, rfl⟩))))
  | findServerLocation rotation =>
      grind [KeyStatement.execute]
  | writeServerLocations rotation found =>
      cases done
      exact .inl ⟨_, rfl⟩
  | writeProvisions rotation found written =>
      cases done
      exact .inl ⟨_, rfl⟩
  | commitRotation rotation found now writtenLocations writtenProvisions =>
      cases done
      simp

def KeysAreGone (state : KeysState) : Prop := ∀ key ∈ state.replaced, KeyIsGone state key

theorem keysAreGone_commit (gone : KeysAreGone state) {rotation : KeyRotation} {found : AccessKey}
    {now : Date} {writtenLocations writtenProvisions : List String}
    (fresh : rotation.rotated found ∉ found :: state.replaced)
    (seenLocations : ∀ row ∈ state.locations.rows, row.kind = .server → locationKey row = found →
      row.id ∈ writtenLocations)
    (seenProvisions : ∀ row ∈ state.provisions.rows, row.accessKey = found →
      row.id ∈ writtenProvisions)
    (locks : LocksLocations state.locations found writtenLocations)
    (alsoLocks : LocksProvisions state.provisions found writtenProvisions) (call : Nat) :
    KeysAreGone (state.goOn call
      ⟨state.locations.update (fun row => writtenLocations.contains row.id)
          (rotatedLocation sha1 rotation found) (keeps_rotatedLocation sha1 rotation found),
        state.provisions.update (fun row => writtenProvisions.contains row.id)
          (rotatedProvision sha1 rotation found now)
          (keeps_rotatedProvision sha1 rotation found now), none, some found⟩) := by
  intro key isReplaced
  have inList : key ∈ found :: state.replaced := isReplaced
  have notNew : rotation.rotated found ≠ key := fun same => fresh (same ▸ inList)
  refine ⟨?_, ?_⟩
  · intro row member isServer
    rcases List.mem_map.mp member with ⟨old, there, changed⟩
    by_cases selected : writtenLocations.contains old.id = true
    · rw [if_pos selected] at changed
      rcases locks old.id (List.contains_iff_mem.mp selected) with
        ⟨locked, isRow, sameId, _, sameKey⟩
      rw [location_eq_of_id isRow there sameId] at sameKey
      have newKey : locationKey row = rotation.rotated found := by
        rw [← changed, ← sameKey]
        rfl
      rw [newKey]
      exact notNew
    · rw [if_neg selected] at changed
      rw [← changed] at isServer ⊢
      rcases List.mem_cons.mp inList with same | before
      · grind
      · exact (gone key before).ofLocation old there isServer
  · intro row member
    rcases List.mem_map.mp member with ⟨old, there, changed⟩
    by_cases selected : writtenProvisions.contains old.id = true
    · rw [if_pos selected] at changed
      rcases alsoLocks old.id (List.contains_iff_mem.mp selected) with
        ⟨locked, isRow, sameId, sameKey⟩
      rw [provision_eq_of_id isRow there sameId] at sameKey
      have newKey : row.accessKey = rotation.rotated found := by
        rw [← changed, ← sameKey]
        rfl
      rw [newKey]
      exact notNew
    · rw [if_neg selected] at changed
      rw [← changed]
      rcases List.mem_cons.mp inList with same | before
      · grind
      · exact (gone key before).ofProvision old there

theorem keysAreGone_goOn (gone : KeysAreGone state) {statement : KeyStatement}
    (fits : statement.Fits sha1 state.locations state.provisions)
    (putsNothing : statement.PutsNothingBack state) {draw : Draw} {progress : KeyProgress}
    (done : statement.execute sha1 state.locations state.provisions draw = .ok progress)
    (call : Nat) : KeysAreGone (state.goOn call progress) := by
  rcases execute_writes done with ⟨next, rfl⟩ |
    ⟨userId, folderId, inserted, committed, rfl, isCommitted, rfl⟩ |
    ⟨now, input, inserted, rfl, added, rfl⟩ | ⟨merged, rfl, rfl⟩ |
    ⟨userId, rotation, accessKey, rfl, rfl⟩ |
    ⟨rotation, found, now, writtenLocations, writtenProvisions, rfl, rfl⟩
  · exact fun key replaced => ⟨(gone key replaced).ofLocation, (gone key replaced).ofProvision⟩
  · intro key replaced
    refine ⟨?_, (gone key replaced).ofProvision⟩
    intro row member isServer same
    rcases (mem_insertAll isCommitted).mp member with old | new
    · exact (gone key replaced).ofLocation row old isServer same
    · apply putsNothing row new isServer
      rw [same]
      exact replaced
  · intro key replaced
    refine ⟨(gone key replaced).ofLocation, ?_⟩
    intro row member same
    rcases (Table.mem_insert added).mp member with old | rfl
    · exact (gone key replaced).ofProvision row old same
    · rw [← same] at replaced
      exact putsNothing replaced
  · intro key replaced
    refine ⟨(gone key replaced).ofLocation, ?_⟩
    intro row member same
    rcases List.mem_map.mp member with ⟨old, there, changed⟩
    by_cases selected : (old.id == merged.id) = true
    · rw [if_pos selected] at changed
      rw [← same, ← changed] at replaced
      exact putsNothing replaced
    · rw [if_neg selected] at changed
      rw [← changed] at same
      exact (gone key replaced).ofProvision old there same
  · intro key replaced
    refine ⟨?_, (gone key replaced).ofProvision⟩
    intro row member isServer same
    rcases List.mem_map.mp member with ⟨old, there, changed⟩
    by_cases selected : isUserLocation userId rotation.accessKeyHashId old = true
    · rw [if_pos selected] at changed
      rw [← changed] at isServer
      have isUser : old.kind = .user := by
        grind [isUserLocation]
      have stillServer : old.kind = .server := isServer
      rw [isUser] at stillServer
      cases stillServer
    · rw [if_neg selected] at changed
      rw [← changed] at same isServer
      exact (gone key replaced).ofLocation old there isServer same
  · exact keysAreGone_commit gone putsNothing.1 putsNothing.2.1 putsNothing.2.2 fits.1 fits.2 call

theorem leavesOtherKeys (holds : KeysInvariant sha1 state) (event : KeysEvent) :
    LeavesOtherKeys sha1 state event := by
  intro key grown
  rcases step_cases sha1 state event with same | ⟨call, _, after⟩ | ⟨call, ended⟩ |
    ⟨call, draw, statement, progress, rfl, running, _, done, after⟩
  · grind
  · grind
  · rw [ended] at grown
    exact absurd grown.symm (List.cons_ne_self key _)
  · rw [after] at grown ⊢
    have fits := holds.fits call statement running
    rcases execute_writes done with ⟨next, rfl⟩ | ⟨_, _, _, _, _, _, rfl⟩ |
      ⟨_, _, _, _, _, rfl⟩ | ⟨_, _, rfl⟩ | ⟨_, _, _, _, rfl⟩ |
      ⟨rotation, found, now, writtenLocations, writtenProvisions, rfl, rfl⟩
    · exact absurd grown.symm (List.cons_ne_self key _)
    · exact absurd grown.symm (List.cons_ne_self key _)
    · exact absurd grown.symm (List.cons_ne_self key _)
    · exact absurd grown.symm (List.cons_ne_self key _)
    · exact absurd grown.symm (List.cons_ne_self key _)
    · have isFound : found = key := (List.cons.inj grown).1
      refine ⟨?_, ?_⟩
      · intro row member otherKey
        refine List.mem_map.mpr ⟨row, member, if_neg ?_⟩
        intro selected
        rcases fits.1 row.id (List.contains_iff_mem.mp selected) with
          ⟨locked, isRow, sameId, _, sameKey⟩
        grind [location_eq_of_id]
      · intro row member otherKey
        refine List.mem_map.mpr ⟨row, member, if_neg ?_⟩
        intro selected
        rcases fits.2 row.id (List.contains_iff_mem.mp selected) with
          ⟨locked, isRow, sameId, sameKey⟩
        grind [provision_eq_of_id]

theorem keysAreGone_step (holds : KeysInvariant sha1 state) (gone : KeysAreGone state)
    {event : KeysEvent} (putsNothing : PutsNothingBack state event) :
    KeysAreGone (state.step sha1 event) := by
  rcases step_cases sha1 state event with same | ⟨call, _, after⟩ | ⟨call, ended⟩ |
    ⟨call, draw, statement, progress, rfl, running, _, done, after⟩
  · rw [same]
    exact gone
  · rw [after]
    exact fun key replaced => ⟨(gone key replaced).ofLocation, (gone key replaced).ofProvision⟩
  · rw [ended]
    exact fun key replaced => ⟨(gone key replaced).ofLocation, (gone key replaced).ofProvision⟩
  · rw [after]
    rw [PutsNothingBack, running] at putsNothing
    rcases putsNothing with failed | putsNothing
    · cases failed
    · exact keysAreGone_goOn gone (holds.fits call statement running) putsNothing done call

end Replaced

variable {sha1 : String → String} {locations : StorageLocationsTable} {provisions : ProvisionsTable}

/-- Before the first call. -/
theorem KeysInvariant.ofStart (own : OwnHashes sha1 locations provisions) :
    KeysInvariant sha1 (.start locations provisions) := by
  have noCall : ∀ (call : Nat) statement,
      (KeysState.start locations provisions).calls[call]? ≠ some (some statement) := by
    intro call statement running
    have inNone : ([] : List (Option KeyStatement))[call]? = some (some statement) := running
    cases inNone
  refine ⟨own, ?_, ?_⟩
  · exact fun call statement running => absurd running (noCall call statement)
  · exact fun call _ statement _ _ running => absurd running (noCall call statement)

theorem keysInvariant_run (collisionFree : Function.Injective sha1)
    (own : OwnHashes sha1 locations provisions) (events : List KeysEvent) :
    KeysInvariant sha1 (run (KeysState.step sha1) (.start locations provisions) events) :=
  run_invariant (fun _ event holds => holds.step collisionFree event) (.ofStart own) events

theorem leavesOtherKeys_run (collisionFree : Function.Injective sha1)
    (own : OwnHashes sha1 locations provisions) (events : List KeysEvent) :
    AlongRun (KeysState.step sha1) (LeavesOtherKeys sha1) (.start locations provisions) events := by
  simp [alongRun_iff_split, leavesOtherKeys, keysInvariant_run, collisionFree, own]

theorem keysAreGone_run (collisionFree : Function.Injective sha1)
    (own : OwnHashes sha1 locations provisions) {events : List KeysEvent}
    (along : AlongRun (KeysState.step sha1) PutsNothingBack (.start locations provisions) events) :
    KeysAreGone (run (KeysState.step sha1) (.start locations provisions) events) := by
  have kept : ∀ state event, KeysInvariant sha1 state ∧ KeysAreGone state →
      PutsNothingBack state event →
        KeysInvariant sha1 (state.step sha1 event) ∧ KeysAreGone (state.step sha1 event) :=
    fun _ event holds putsNothing =>
      ⟨holds.1.step collisionFree event, keysAreGone_step holds.1 holds.2 putsNothing⟩
  have atStart : KeysInvariant sha1 (.start locations provisions) ∧
      KeysAreGone (.start locations provisions) := ⟨.ofStart own, nofun⟩
  exact (run_invariant_of_alongRun kept atStart along).2

/-- In every state reached by steps that put no replaced key back, what is claimed holds. -/
theorem rotationsHold (sha1 : String → String) (collisionFree : Function.Injective sha1)
    (locations : StorageLocationsTable) (provisions : ProvisionsTable)
    (own : OwnHashes sha1 locations provisions) (taken rest : List KeysEvent)
    (along : AlongRun (KeysState.step sha1) PutsNothingBack (.start locations provisions)
      (taken ++ rest)) :
    RotationsHold sha1 (.start locations provisions) taken where
  ownHashes := (keysInvariant_run collisionFree own taken).ownHashes
  gone _ := keysAreGone_run collisionFree own along.of_append
  others := leavesOtherKeys_run collisionFree own taken

/-! ### One location and one provision -/

def oldKey : AccessKey := ⟨"https://s3.example.com", "old", "first secret", "auto"⟩

def oldDigest : String := "6250c51540e06c81c6da12ae83856009d363e877"

def newDigest : String := "316e15e4f58bb3a17b2c802b17fecaf0cdfafa59"

def twoDigests : String → String := fun text =>
  Equiv.swap "https%3A%2F%2Fs3.example.com:old:first%20secret:auto" oldDigest
    (Equiv.swap "https%3A%2F%2Fs3.example.com:new:second%20secret:auto" newDigest text)

theorem twoDigests_injective : Function.Injective twoDigests :=
  (Equiv.injective _).comp (Equiv.injective _)

def oldLocation : StorageLocation where
  id := "location"
  kind := .server
  label := "SERVER:provision"
  endpoint := oldKey.endpoint
  region := oldKey.region
  accessKeyId := oldKey.accessKeyId
  accessKeyHashId := oldDigest
  secretAccessKey := oldKey.secretAccessKey
  bucket := "folders"
  keyPrefix := ".lombok_folder_content_mine"
  userId := "alice"

def oldProvision : ExternalStorageProvision where
  id := "provision"
  label := "Folders"
  description := ""
  endpoint := oldKey.endpoint
  bucket := "folders"
  region := oldKey.region
  accessKeyId := oldKey.accessKeyId
  secretAccessKey := oldKey.secretAccessKey
  accessKeyHashId := oldDigest
  keyPrefix := none
  provisionTypes := [.content]
  createdAt := 0
  updatedAt := 0

theorem ownHashes_old :
    OwnHashes twoDigests (.singleton oldLocation) (.singleton oldProvision) := by
  refine ⟨?_, ?_⟩
  · intro row member
    rw [List.mem_singleton.mp member]
    decide +kernel
  · intro row member
    rw [List.mem_singleton.mp member]
    decide +kernel

def replaceOld : KeyRotation := ⟨oldDigest, ⟨"new", "second secret"⟩⟩

/-- A statement of a call, with some id, time and row. -/
def takes (call : Nat) : KeysEvent := .advance call default false

def rotationAlone : List KeysEvent :=
  [.begin (.rotateAsAdmin true replaceOld), takes 0, takes 0, takes 0, takes 0]

theorem rotationsHold_alone :
    RotationsHold twoDigests (.start (.singleton oldLocation) (.singleton oldProvision))
      rotationAlone :=
  rotationsHold twoDigests twoDigests_injective (.singleton oldLocation) (.singleton oldProvision)
    ownHashes_old rotationAlone [] (by decide +kernel)

/-- A rotation by the admin between the two statements of an update of the provision. -/
def rotationWithin : List KeysEvent :=
  [.begin (.updateProvision true 1 "provision" { label := some "All folders" }), takes 0,
    .begin (.rotateAsAdmin true replaceOld), takes 1, takes 1, takes 1, takes 1, takes 0]

/-- The update writes the replaced key back. -/
theorem not_rotationsHold : ¬ ∀ (sha1 : String → String), Function.Injective sha1 →
    ∀ (locations : StorageLocationsTable) (provisions : ProvisionsTable),
      OwnHashes sha1 locations provisions → ∀ events : List KeysEvent,
        RotationsHold sha1 (.start locations provisions) events := by
  intro always
  have holds := always twoDigests twoDigests_injective (.singleton oldLocation)
    (.singleton oldProvision) ownHashes_old rotationWithin
  have ended : ∀ call ∈ (run (KeysState.step twoDigests)
      (.start (.singleton oldLocation) (.singleton oldProvision)) rotationWithin).calls,
        call = none := by
    decide +kernel
  have replaced : oldKey ∈ (run (KeysState.step twoDigests)
      (.start (.singleton oldLocation) (.singleton oldProvision)) rotationWithin).replaced := by
    decide +kernel
  have back : ∃ row ∈ (run (KeysState.step twoDigests)
      (.start (.singleton oldLocation) (.singleton oldProvision)) rotationWithin).provisions.rows,
        row.accessKey = oldKey := by
    decide +kernel
  rcases back with ⟨row, member, same⟩
  exact (holds.gone ended oldKey replaced).ofProvision row member same

end Lombok.Storage
