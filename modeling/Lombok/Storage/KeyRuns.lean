import Lombok.Storage.KeyStatements

/-!
Contract: the invariant of every run of the calls.

Owns that each call knows what is true, that no row is locked twice, and what
a step can be. Does not own the keys that are replaced (see `KeyRotation`).
-/

namespace Lombok.Storage

open Lombok.Core Lombok.Library Lombok.Folders

/-! ### Runs -/

/-- Own hashes, what the statements of the calls know, and locks that no two calls share. -/
structure KeysInvariant (sha1 : String → String) (state : KeysState) : Prop where
  ownHashes : OwnHashes sha1 state.locations state.provisions
  fits : ∀ (call : Nat) statement, state.calls[call]? = some (some statement) →
    statement.Fits sha1 state.locations state.provisions
  apart : ∀ (call other : Nat) statement otherStatement, call ≠ other →
    state.calls[call]? = some (some statement) →
    state.calls[other]? = some (some otherStatement) →
      (∀ id ∈ statement.lockedLocations, id ∉ otherStatement.lockedLocations) ∧
        ∀ id ∈ statement.lockedProvisions, id ∉ otherStatement.lockedProvisions

section Runs

variable {sha1 : String → String} {state : KeysState}

variable {statement : KeyStatement} {call : Nat} {id : String}

theorem mem_lockedLocations (running : state.calls[call]? = some (some statement))
    (locked : id ∈ statement.lockedLocations) : id ∈ state.lockedLocations :=
  List.mem_flatMap.mpr ⟨some statement, List.mem_of_getElem? running, locked⟩

theorem mem_lockedProvisions (running : state.calls[call]? = some (some statement))
    (locked : id ∈ statement.lockedProvisions) : id ∈ state.lockedProvisions :=
  List.mem_flatMap.mpr ⟨some statement, List.mem_of_getElem? running, locked⟩

/-- Before its first statement a call knows nothing and has locked nothing. -/
theorem first_fits {call : KeyCall} (started : call.first.toOption = some statement) :
    statement.Fits sha1 state.locations state.provisions ∧ statement.lockedLocations = [] ∧
      statement.lockedProvisions = [] := by
  cases call with
  | createFolder userId folderId contentLocation metadataLocation =>
      cases started
      exact ⟨nofun, rfl, rfl⟩
  | createProvision isAdmin now input =>
      cases isAdmin <;> cases started
      exact ⟨trivial, rfl, rfl⟩
  | updateProvision isAdmin now storageProvisionId update =>
      cases isAdmin <;> cases started
      exact ⟨trivial, rfl, rfl⟩
  | rotateAsUser userId rotation =>
      cases started
      exact ⟨trivial, rfl, rfl⟩
  | rotateAsAdmin isAdmin rotation =>
      cases isAdmin <;> cases started
      exact ⟨trivial, rfl, rfl⟩

theorem running_begin {calls : List (Option KeyStatement)} {first : Option KeyStatement}
    (running : (calls ++ [first])[call]? = some (some statement)) :
    calls[call]? = some (some statement) ∨ (call = calls.length ∧ first = some statement) := by
  grind

theorem running_set {calls : List (Option KeyStatement)} {next : Option KeyStatement} {other : Nat}
    (running : (calls.set call next)[other]? = some (some statement)) :
    (other = call ∧ next = some statement) ∨
      (other ≠ call ∧ calls[other]? = some (some statement)) := by
  grind

theorem KeysInvariant.begin (holds : KeysInvariant sha1 state) (call : KeyCall) :
    KeysInvariant sha1 (state.step sha1 (.begin call)) := by
  refine ⟨holds.ownHashes, ?_, ?_⟩
  · intro index statement running
    rcases running_begin running with old | ⟨_, started⟩
    · exact holds.fits index statement old
    · exact (first_fits started).1
  · intro index other statement otherStatement different running otherRunning
    rcases running_begin running with old | ⟨isLast, started⟩
    · rcases running_begin otherRunning with otherOld | ⟨_, otherStarted⟩
      · exact holds.apart index other statement otherStatement different old otherOld
      · rcases @first_fits sha1 state _ _ otherStarted with ⟨_, noLocations, noProvisions⟩
        simp [noLocations, noProvisions]
    · rcases @first_fits sha1 state _ _ started with ⟨_, noLocations, noProvisions⟩
      rw [noLocations, noProvisions]
      exact ⟨nofun, nofun⟩

theorem KeysInvariant.finish (holds : KeysInvariant sha1 state) (call : Nat) :
    KeysInvariant sha1 (state.finish call) := by
  refine ⟨holds.ownHashes, ?_, ?_⟩
  · intro index statement running
    rcases running_set running with ⟨_, ⟨⟩⟩ | ⟨_, old⟩
    exact holds.fits index statement old
  · intro index other statement otherStatement different running otherRunning
    rcases running_set running with ⟨_, ⟨⟩⟩ | ⟨_, old⟩
    rcases running_set otherRunning with ⟨_, ⟨⟩⟩ | ⟨_, otherOld⟩
    exact holds.apart index other statement otherStatement different old otherOld

theorem not_mem_writtenProvisions (holds : KeysInvariant sha1 state) {other : Nat}
    {otherStatement : KeyStatement} (different : other ≠ call)
    (running : state.calls[call]? = some (some statement))
    (otherRunning : state.calls[other]? = some (some otherStatement))
    (ready : statement.waits state.locations state.provisions state.lockedLocations
      state.lockedProvisions = false) (locked : id ∈ otherStatement.lockedProvisions) :
    id ∉ statement.writtenProvisions := by
  have apart := (holds.apart other call otherStatement statement different otherRunning running).2
  cases statement with
  | writeProvision merged =>
      intro written
      rw [List.mem_singleton.mp written] at locked
      have waits : state.lockedProvisions.contains merged.id = true :=
        List.contains_iff_mem.mpr (mem_lockedProvisions otherRunning locked)
      have noWait : state.lockedProvisions.contains merged.id = false := ready
      rw [noWait] at waits
      cases waits
  | commitRotation rotation found now writtenLocations writtenProvisions => exact apart id locked
  | _ => exact List.not_mem_nil

theorem KeysInvariant.goOn (holds : KeysInvariant sha1 state)
    (running : state.calls[call]? = some (some statement))
    (ready : statement.waits state.locations state.provisions state.lockedLocations
      state.lockedProvisions = false) {progress : KeyProgress}
    (leaves : Leaves sha1 statement state.locations state.provisions state.lockedLocations
      state.lockedProvisions progress) :
    KeysInvariant sha1 (state.goOn call progress) := by
  have notLocked : ∀ (other : Nat) otherStatement next, other ≠ call →
      state.calls[other]? = some (some otherStatement) → progress.next = some next →
        (∀ id ∈ next.lockedLocations, id ∉ otherStatement.lockedLocations) ∧
          ∀ id ∈ next.lockedProvisions, id ∉ otherStatement.lockedProvisions := by
    intro other otherStatement next different otherRunning isNext
    have apart := holds.apart call other statement otherStatement different.symm running
      otherRunning
    grind [mem_lockedLocations, mem_lockedProvisions, leaves.locksLocations, leaves.locksProvisions]
  refine ⟨leaves.ownHashes, ?_, ?_⟩
  · intro other otherStatement otherRunning
    rcases running_set otherRunning with ⟨_, isNext⟩ | ⟨different, old⟩
    · exact leaves.fits otherStatement isNext
    · refine (holds.fits other otherStatement old).frame ?_ ?_
      · intro row member isServer locked
        have apart := holds.apart other call otherStatement statement different old running
        exact leaves.keepsLocations row member isServer (apart.1 row.id locked)
      · intro row member locked
        exact leaves.keepsProvisions row member
          (not_mem_writtenProvisions holds different running old ready locked)
  · intro index other first second different firstRunning secondRunning
    rcases running_set firstRunning with ⟨isCall, isNext⟩ | ⟨notCall, old⟩
    · rcases running_set secondRunning with ⟨otherIsCall, _⟩ | ⟨otherNotCall, otherOld⟩
      · exact absurd (isCall.trans otherIsCall.symm) different
      · exact notLocked other second first otherNotCall otherOld isNext
    · rcases running_set secondRunning with ⟨_, otherIsNext⟩ | ⟨_, otherOld⟩
      · grind
      · exact holds.apart index other first second different old otherOld

/-- What an event comes to: nothing, a new call, a call that is over, or a statement done. -/
theorem step_cases (sha1 : String → String) (state : KeysState) (event : KeysEvent) :
    state.step sha1 event = state ∨
    (∃ call, event = .begin call ∧
      state.step sha1 event = { state with calls := state.calls ++ [call.first.toOption] }) ∨
    (∃ call, state.step sha1 event = state.finish call) ∨
    ∃ call draw statement progress, event = .advance call draw false ∧
      state.calls[call]? = some (some statement) ∧
      statement.waits state.locations state.provisions state.lockedLocations
        state.lockedProvisions = false ∧
      statement.execute sha1 state.locations state.provisions draw = .ok progress ∧
      state.step sha1 event = state.goOn call progress := by
  cases event with
  | begin call => exact .inr (.inl ⟨call, rfl, rfl⟩)
  | advance call draw fails =>
      grind [KeysState.step, KeysState.advance]

theorem KeysInvariant.step (collisionFree : Function.Injective sha1)
    (holds : KeysInvariant sha1 state) (event : KeysEvent) :
    KeysInvariant sha1 (state.step sha1 event) := by
  rcases step_cases sha1 state event with same | ⟨call, rfl, _⟩ | ⟨call, ended⟩ |
    ⟨call, draw, statement, progress, rfl, running, ready, done, after⟩
  · rw [same]
    exact holds
  · exact holds.begin call
  · rw [ended]
    exact holds.finish call
  · grind [execute_leaves, holds.fits, holds.goOn, holds.ownHashes]

end Runs

end Lombok.Storage
