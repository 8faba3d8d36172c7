import Lombok.Orm.AppMigrations

/-!
Contract: which files of an app have taken effect, after any overlapping calls.

The files of all calls begin one list. At any time the committed changes and the
records are those of the first files of that list, in order: no file twice, none
left out. The invariant says of every call which file it is at, and that a file
whose record waits for its commit is the first that has not taken effect.

This holds for files that leave their transaction and the records alone. A file
that commits in its middle can take effect without a record.
-/

namespace Lombok.Orm

open Lombok.Library

variable {ε : Type}

/-! ### What the database is to hold -/

/-- The change of a statement to the app's own data. -/
def Statement.effect? : Statement ε → Option ε
  | .change effect => some effect
  | _ => none

section Files

variable (read : String → List (Statement ε))

/-- What the SQL of a file does to the app's own data. -/
def MigrationFile.effects (file : MigrationFile) : List ε :=
  (read file.content).filterMap Statement.effect?

def schemaAfter (files : List MigrationFile) : AppSchema ε where
  effects := files.flatMap (MigrationFile.effects read)
  records := files.map MigrationFile.record

/-- The first files of the list have taken effect, each once and in order, and they are recorded;
no other has, and no other is. -/
def RunsInOrder (all : List MigrationFile) (state : MigrationState ε) : Prop :=
  ∃ count, state.schema = schemaAfter read (all.take count)

/-- The statement leaves its transaction open and the records alone. -/
def Statement.staysInside : Statement ε → Prop
  | .change _ | .beginTransaction => True
  | _ => False

/-- No statement of the file ends its transaction or writes to `__migrations__`. -/
def MigrationFile.StaysInside (file : MigrationFile) : Prop :=
  ∀ statement ∈ read file.content, statement.staysInside

/-! ### Between two statements -/

/-- The call is at the file at the position, and the files before it have taken effect. -/
structure AtFile (all : List MigrationFile) (count position : Nat) (file : MigrationFile)
    (rest : List MigrationFile) (call : MigrationCall ε) : Prop where
  ahead : file :: rest <+: all.drop position
  reached : position ≤ count
  inBlock : call.inBlock = true

/-- Where a call can be when the first files of the list have taken effect. -/
def StageSound (all : List MigrationFile) (count : Nat) (call : MigrationCall ε) : Prop :=
  match call.stage with
  | .creating files | .reading files => files <+: all ∧ call.pending = []
  | .next files => ∃ position ≤ count, files <+: all.drop position ∧ call.pending = []
  | .running file statements rest => ∃ position, AtFile all count position file rest call ∧
      (∀ statement ∈ statements, statement.staysInside) ∧
      ∃ ran, call.pending = ran.map .effect ∧
        file.effects read = ran ++ statements.filterMap Statement.effect?
  | .recording file rest => ∃ position, AtFile all count position file rest call ∧
      call.pending = (file.effects read).map .effect
  | .committing file rest => AtFile all count count file rest call ∧
      call.pending = (file.effects read).map .effect ++ [.record file.record]
  | .returned | .threw => call.pending = []

structure CallSound (all : List MigrationFile) (count : Nat) (call : MigrationCall ε) : Prop where
  stage : StageSound read all count call
  executed : ∀ filename ∈ call.executedFilenames,
    filename ∈ (all.take count).map MigrationFile.filename

/-- The record of the call's file waits for its commit. -/
def MigrationCall.isCommitting (call : MigrationCall ε) : Bool :=
  match call.stage with
  | .committing .. => true
  | _ => false

/-- The invariant of the runs. At most one record waits for its commit. -/
structure MigrationsSound (all : List MigrationFile) (state : MigrationState ε) (count : Nat) :
    Prop where
  inside : count ≤ all.length
  schema : state.schema = schemaAfter read (all.take count)
  calls : ∀ call ∈ state.calls, CallSound read all count call
  single : ∀ (first second : Nat) (call other : MigrationCall ε),
    state.calls[first]? = some call → state.calls[second]? = some other →
      call.isCommitting = true → other.isCommitting = true → first = second

end Files

section Positions

variable {read : String → List (Statement ε)} {all : List MigrationFile} {count position : Nat}
  {file : MigrationFile} {rest : List MigrationFile} {call : MigrationCall ε}

theorem getElem?_of_ahead (ahead : file :: rest <+: all.drop position) :
    all[position]? = some file := by
  obtain ⟨behind, split⟩ := ahead
  have first := congrArg (fun files => files[0]?) split
  grind

theorem rest_ahead (ahead : file :: rest <+: all.drop position) :
    rest <+: all.drop (position + 1) := by
  obtain ⟨behind, split⟩ := ahead
  refine ⟨behind, ?_⟩
  rw [← List.tail_drop, ← split]
  rfl

theorem take_succ_of_ahead (ahead : file :: rest <+: all.drop count) :
    all.take (count + 1) = all.take count ++ [file] := by
  rw [List.take_add_one, getElem?_of_ahead ahead]
  rfl

/-- A file before the count is among those that have taken effect. -/
theorem filename_mem_take (there : all[position]? = some file) (before : position < count) :
    file.filename ∈ (all.take count).map MigrationFile.filename := by
  have inTake : (all.take count)[position]? = some file := by
    rw [List.getElem?_take, if_pos before, there]
  exact List.mem_map_of_mem (List.mem_of_getElem? inTake)

/-- A file with a name of those that have taken effect is before the count. -/
theorem lt_of_filename_mem (distinct : (all.map MigrationFile.filename).Nodup)
    (there : all[position]? = some file)
    (member : file.filename ∈ (all.take count).map MigrationFile.filename) : position < count := by
  obtain ⟨other, otherMember, sameName⟩ := List.mem_map.mp member
  obtain ⟨index, inTake⟩ := List.mem_iff_getElem?.mp otherMember
  rw [List.getElem?_take] at inTake
  split at inTake
  · have inside : index < (all.map MigrationFile.filename).length := by
      rw [List.length_map]
      exact (List.getElem?_eq_some_iff.mp inTake).1
    have sameEntry : (all.map MigrationFile.filename)[index]? =
        (all.map MigrationFile.filename)[position]? := by
      simp [inTake, there, sameName]
    rwa [← (List.getElem?_inj inside distinct).mp sameEntry]
  · cases inTake

theorem take_filenames_mono {later : Nat} (grows : count ≤ later) {filename : String}
    (member : filename ∈ (all.take count).map MigrationFile.filename) :
    filename ∈ (all.take later).map MigrationFile.filename :=
  ((List.take_prefix_take_left grows).map _).subset member

theorem AtFile.mono {later : Nat} (atFile : AtFile all count position file rest call)
    (grows : count ≤ later) : AtFile all later position file rest call :=
  { atFile with reached := Nat.le_trans atFile.reached grows }

/-- A call whose record does not wait for its commit stays sound while files take effect. -/
theorem CallSound.mono {later : Nat} (sound : CallSound read all count call)
    (grows : count ≤ later) (notCommitting : call.isCommitting = false) :
    CallSound read all later call := by
  refine ⟨?_, fun filename member => take_filenames_mono grows (sound.executed filename member)⟩
  have stage := sound.stage
  unfold StageSound MigrationCall.isCommitting at *
  split at stage
  · exact stage
  · exact stage
  · grind
  · obtain ⟨position, atFile, rest⟩ := stage
    exact ⟨position, atFile.mono grows, rest⟩
  · obtain ⟨position, atFile, pending⟩ := stage
    exact ⟨position, atFile.mono grows, pending⟩
  · grind
  · exact stage
  · exact stage

theorem CallSound.thrown (sound : CallSound read all count call) :
    CallSound read all count call.thrown := by
  unfold MigrationCall.thrown
  split
  · exact sound
  · exact ⟨rfl, sound.executed⟩

theorem isCommitting_thrown (call : MigrationCall ε) : call.thrown.isCommitting = false := by
  grind [MigrationCall.thrown, MigrationCall.isOver, MigrationCall.isCommitting]

theorem applyAll_effects (schema : AppSchema ε) (effects : List ε) :
    schema.applyAll (effects.map .effect) =
      { schema with effects := schema.effects ++ effects } := by
  induction effects generalizing schema with
  | nil =>
      rw [List.append_nil]
      rfl
  | cons effect effects inductionHypothesis =>
      have applied := inductionHypothesis (schema.apply (.effect effect))
      rw [AppSchema.apply] at applied
      rw [List.append_assoc] at applied
      exact applied

/-- Committing the changes of a file and its record makes it the last that has taken effect. -/
theorem applyAll_file (ahead : file :: rest <+: all.drop count) :
    (schemaAfter read (all.take count)).applyAll
        ((file.effects read).map .effect ++ [.record file.record]) =
      schemaAfter read (all.take (count + 1)) := by
  have applied := applyAll_effects (schemaAfter read (all.take count)) (file.effects read)
  unfold AppSchema.applyAll at applied ⊢
  rw [List.foldl_append, applied, take_succ_of_ahead ahead]
  unfold schemaAfter
  rw [List.flatMap_append, List.map_append, List.flatMap_singleton]
  rfl

end Positions

/-! ### One statement -/

section Advance

variable {read : String → List (Statement ε)} {all : List MigrationFile} {count : Nat}
  {call : MigrationCall ε} {schema : AppSchema ε} {held : String → Bool}

/-- The record of a file that was run goes in only where the file is the first that has not taken
effect. -/
theorem insertRow_recording
    (current : schema = schemaAfter read (all.take count))
    (sound : CallSound read all count call) {file : MigrationFile} {rest : List MigrationFile}
    (stage : call.stage = .recording file rest) :
    call.inBlock = true ∧
    CallSound read all count (call.insertRow schema held file.record (.committing file rest)) ∧
    ((call.insertRow schema held file.record (.committing file rest)).isCommitting = true →
      held file.filename = false ∧ all[count]? = some file) := by
  have atStage := sound.stage
  rw [StageSound, stage] at atStage
  obtain ⟨position, atFile, pending⟩ := atStage
  refine ⟨atFile.inBlock, ?_⟩
  unfold MigrationCall.insertRow
  split
  · simp [MigrationCall.isCommitting, sound, stage]
  · rename_i notHeld
    split
    · simp [isCommitting_thrown, sound.thrown]
    · rename_i fresh
      have there := getElem?_of_ahead atFile.ahead
      have notBefore : ¬ position < count := by
        intro before
        apply fresh
        rw [pending, applyAll_effects, current]
        obtain ⟨other, member, sameName⟩ :=
          List.mem_map.mp (filename_mem_take there before)
        exact List.any_eq_true.mpr ⟨other.record, List.mem_map_of_mem member,
          beq_iff_eq.mpr sameName⟩
      obtain rfl : position = count := by
        have reached := atFile.reached
        omega
      refine ⟨⟨⟨⟨atFile.ahead, Nat.le_refl _, atFile.inBlock⟩, ?_⟩, sound.executed⟩, ?_⟩
      · rw [pending]
      · intro _
        exact ⟨Bool.eq_false_iff.mpr notHeld, there⟩

/-- A statement of a file that stays inside. -/
theorem execute_running {file : MigrationFile} {statement : Statement ε}
    {statements : List (Statement ε)} {rest : List MigrationFile}
    (sound : CallSound read all count call)
    (stage : call.stage = .running file (statement :: statements) rest) :
    (call.execute schema held statement (.running file statements rest)).1 = schema ∧
    CallSound read all count
      (call.execute schema held statement (.running file statements rest)).2 ∧
    (call.execute schema held statement (.running file statements rest)).2.isCommitting =
      false := by
  have atStage := sound.stage
  rw [StageSound, stage] at atStage
  obtain ⟨position, atFile, inside, ran, pending, effects⟩ := atStage
  have laterInside : ∀ later ∈ statements, later.staysInside :=
    fun later member => inside later (List.mem_cons_of_mem statement member)
  have here := inside statement List.mem_cons_self
  cases statement with
  | change effect =>
      refine ⟨rfl, ⟨⟨position, ⟨atFile.ahead, atFile.reached, atFile.inBlock⟩, laterInside,
        ran ++ [effect], ?_, ?_⟩, sound.executed⟩, rfl⟩
      · show call.pending ++ [.effect effect] = _
        rw [pending, List.map_append]
        rfl
      · rw [effects, List.append_assoc]
        rfl
  | beginTransaction =>
      exact ⟨rfl, ⟨⟨position, ⟨atFile.ahead, atFile.reached, rfl⟩, laterInside, ran, pending,
        effects⟩, sound.executed⟩, rfl⟩
  | commit => exact here.elim
  | rollback => exact here.elim
  | insertRecord row => exact here.elim
  | deleteRecord filename => exact here.elim

/-- What the next statement of a sound call does: the committed state stays, and a record that
starts to wait is that of the first file that has not taken effect; or the waiting record is
committed, and its file has taken effect. -/
theorem advance_cases (distinct : (all.map MigrationFile.filename).Nodup)
    (stayInside : ∀ file ∈ all, file.StaysInside read)
    (current : schema = schemaAfter read (all.take count))
    (sound : CallSound read all count call) :
    ((call.advance read schema held).1 = schema ∧
      CallSound read all count (call.advance read schema held).2 ∧
      ((call.advance read schema held).2.isCommitting = true → call.isCommitting = false ∧
        ∃ file, all[count]? = some file ∧ held file.filename = false)) ∨
    (call.isCommitting = true ∧ count < all.length ∧
      (call.advance read schema held).1 = schemaAfter read (all.take (count + 1)) ∧
      CallSound read all (count + 1) (call.advance read schema held).2 ∧
      (call.advance read schema held).2.isCommitting = false) := by
  have atStage := sound.stage
  unfold StageSound at atStage
  unfold MigrationCall.advance
  cases stage : call.stage with
  | creating files =>
      rw [stage] at atStage
      exact .inl ⟨rfl, ⟨atStage, sound.executed⟩, nofun⟩
  | reading files =>
      rw [stage] at atStage
      refine .inl ⟨rfl, ⟨⟨0, Nat.zero_le _, atStage⟩, ?_⟩, nofun⟩
      intro filename member
      rw [current] at member
      obtain ⟨row, rowMember, rfl⟩ := List.mem_map.mp member
      obtain ⟨file, fileMember, rfl⟩ := List.mem_map.mp rowMember
      exact List.mem_map_of_mem fileMember
  | next files =>
      rw [stage] at atStage
      obtain ⟨position, reached, ahead, pending⟩ := atStage
      cases files with
      | nil => exact .inl ⟨rfl, ⟨pending, sound.executed⟩, nofun⟩
      | cons file rest =>
          have there := getElem?_of_ahead ahead
          dsimp only
          split
          · rename_i skipped
            have before := lt_of_filename_mem distinct there
              (sound.executed _ (List.contains_iff_mem.mp skipped))
            exact .inl ⟨rfl, ⟨⟨position + 1, before, rest_ahead ahead, pending⟩, sound.executed⟩,
              nofun⟩
          · have inside := stayInside file (List.mem_of_getElem? there)
            exact .inl ⟨rfl, ⟨⟨position, ⟨ahead, reached, rfl⟩, inside, [], rfl, rfl⟩,
              sound.executed⟩, nofun⟩
  | running file statements rest =>
      cases statements with
      | nil =>
          rw [stage] at atStage
          obtain ⟨position, atFile, _, ran, pending, effects⟩ := atStage
          rw [List.filterMap_nil, List.append_nil] at effects
          dsimp only
          rw [if_pos atFile.inBlock]
          refine .inl ⟨rfl, ⟨⟨position, ⟨atFile.ahead, atFile.reached, atFile.inBlock⟩, ?_⟩,
            sound.executed⟩, nofun⟩
          rw [effects]
          exact pending
      | cons statement statements =>
          obtain ⟨same, after, notCommitting⟩ := execute_running sound stage
          refine .inl ⟨same, after, fun isCommitting => ?_⟩
          exact absurd (notCommitting.symm.trans isCommitting) Bool.false_ne_true
  | recording file rest =>
      obtain ⟨inBlock, after, committing⟩ := insertRow_recording current sound stage
      dsimp only
      rw [if_pos inBlock]
      refine .inl ⟨rfl, after, fun isCommitting => ⟨?_, file, ?_⟩⟩
      · rw [MigrationCall.isCommitting, stage]
      · exact (committing isCommitting).symm
  | committing file rest =>
      rw [stage] at atStage
      obtain ⟨atFile, pending⟩ := atStage
      have there := getElem?_of_ahead atFile.ahead
      refine .inr ⟨?_, (List.getElem?_eq_some_iff.mp there).1, ?_, ?_, rfl⟩
      · rw [MigrationCall.isCommitting, stage]
      · show schema.applyAll call.pending = _
        rw [pending, current]
        exact applyAll_file atFile.ahead
      · refine ⟨⟨count + 1, Nat.le_refl _, rest_ahead atFile.ahead, rfl⟩, ?_⟩
        exact fun filename member =>
          take_filenames_mono (Nat.le_succ count) (sound.executed filename member)
  | returned =>
      refine .inl ⟨rfl, sound, ?_⟩
      rw [MigrationCall.isCommitting, stage]
      exact nofun
  | threw =>
      refine .inl ⟨rfl, sound, ?_⟩
      rw [MigrationCall.isCommitting, stage]
      exact nofun

end Advance

/-! ### Runs -/

section Runs

variable {read : String → List (Statement ε)} {all : List MigrationFile} {count : Nat}
  {state : MigrationState ε}

/-- A committing call has written the key of the first file that has not taken effect. -/
theorem holds_of_committing {call : MigrationCall ε} (sound : CallSound read all count call)
    (isCommitting : call.isCommitting = true) {file : MigrationFile}
    (there : all[count]? = some file) : call.holds file.filename = true := by
  have atStage := sound.stage
  unfold StageSound at atStage
  unfold MigrationCall.isCommitting at isCommitting
  split at isCommitting
  · rename_i stage
    rw [stage] at atStage
    obtain ⟨atFile, pending⟩ := atStage
    rw [getElem?_of_ahead atFile.ahead] at there
    cases there
    rw [MigrationCall.holds, pending, List.any_append, Bool.or_eq_true]
    exact .inr (List.any_eq_true.mpr ⟨_, List.mem_singleton.mpr rfl, beq_iff_eq.mpr rfl⟩)
  · cases isCommitting

/-- Where a replaced call commits, no other does. -/
theorem single_set {calls : List (MigrationCall ε)} {index : Nat} {call next : MigrationCall ε}
    (single : ∀ (first second : Nat) (call other : MigrationCall ε),
      calls[first]? = some call → calls[second]? = some other →
        call.isCommitting = true → other.isCommitting = true → first = second)
    (there : calls[index]? = some call)
    (alone : next.isCommitting = true → call.isCommitting = true ∨
      ∀ other ∈ calls.eraseIdx index, other.isCommitting = false)
    (first second : Nat) (one other : MigrationCall ε)
    (isFirst : (calls.set index next)[first]? = some one)
    (isSecond : (calls.set index next)[second]? = some other)
    (oneCommits : one.isCommitting = true) (otherCommits : other.isCommitting = true) :
    first = second := by
  have elsewhere {position : Nat} {found : MigrationCall ε} (apart : position ≠ index)
      (isThere : calls[position]? = some found) (commits : found.isCommitting = true)
      (nextCommits : next.isCommitting = true) : position = index := by
    grind [List.mem_eraseIdx_iff_getElem?.mpr]
  grind

theorem MigrationsSound.replace (sound : MigrationsSound read all state count) {index : Nat}
    {call next : MigrationCall ε} (there : state.calls[index]? = some call)
    (nextSound : CallSound read all count next)
    (alone : next.isCommitting = true → call.isCommitting = true ∨
      ∀ other ∈ state.calls.eraseIdx index, other.isCommitting = false) :
    MigrationsSound read all { state with calls := state.calls.set index next } count := by
  refine { sound with calls := ?_, single := single_set sound.single there alone }
  grind [sound.calls]

theorem MigrationsSound.commit (sound : MigrationsSound read all state count) {index : Nat}
    {call next : MigrationCall ε} (there : state.calls[index]? = some call)
    (commits : call.isCommitting = true) (inside : count < all.length)
    (nextSound : CallSound read all (count + 1) next) (notCommitting : next.isCommitting = false) :
    MigrationsSound read all
      { schema := schemaAfter read (all.take (count + 1)), calls := state.calls.set index next }
      (count + 1) := by
  refine ⟨inside, rfl, ?_, single_set sound.single there fun isCommitting => ?_⟩
  · intro other member
    obtain ⟨position, isThere⟩ := List.mem_iff_getElem?.mp member
    rw [List.getElem?_set] at isThere
    split at isThere
    · grind
    · rename_i apart
      refine (sound.calls other (List.mem_of_getElem? isThere)).mono (Nat.le_succ count) ?_
      rw [Bool.eq_false_iff]
      grind [sound.single]
  · rw [notCommitting] at isCommitting
    cases isCommitting

theorem MigrationsSound.call (sound : MigrationsSound read all state count)
    {files : List MigrationFile} (begins : files <+: all) :
    MigrationsSound read all { state with calls := state.calls ++ [.start files] } count := by
  have startSound : CallSound read all count (.start files) := by
    refine ⟨?_, fun filename member => by cases member⟩
    grind [StageSound, MigrationCall.start]
  have startIdle : (MigrationCall.start files : MigrationCall ε).isCommitting = false := by
    cases files with
    | nil => rfl
    | cons file rest => rfl
  have earlier {position : Nat} {found : MigrationCall ε}
      (isThere : (state.calls ++ [.start files])[position]? = some found)
      (commits : found.isCommitting = true) : state.calls[position]? = some found := by
    grind
  refine { sound with calls := ?_, single := ?_ }
  · intro other member
    rcases List.mem_append.mp member with old | new
    · exact sound.calls other old
    · rw [List.mem_singleton.mp new]
      exact startSound
  · intro first second one other isFirst isSecond oneCommits otherCommits
    grind [sound.single]

theorem migrationsSound_step (distinct : (all.map MigrationFile.filename).Nodup)
    (stayInside : ∀ file ∈ all, file.StaysInside read)
    (sound : MigrationsSound read all state count) (input : MigrationInput)
    (begins : ∀ files, input = .call files → files <+: all) :
    ∃ later, MigrationsSound read all (migrationStep read state input) later := by
  cases input with
  | call files => exact ⟨count, sound.call (begins files rfl)⟩
  | step index outcome =>
      unfold migrationStep
      dsimp only
      cases there : state.calls[index]? with
      | none => exact ⟨count, sound⟩
      | some call =>
          have callSound := sound.calls call (List.mem_of_getElem? there)
          have thrownIdle {thrower : MigrationCall ε} {result : Prop}
              (isCommitting : thrower.thrown.isCommitting = true) : result := by
            rw [isCommitting_thrown] at isCommitting
            cases isCommitting
          rcases advance_cases distinct stayInside sound.schema callSound with
            ⟨same, next, waits⟩ | ⟨commits, inside, committed, next, idle⟩
          · have alone (isCommitting : (call.advance read state.schema
                (state.heldElsewhere index)).2.isCommitting = true) :
                ∀ other ∈ state.calls.eraseIdx index, other.isCommitting = false := by
              obtain ⟨_, file, isNext, notHeld⟩ := waits isCommitting
              intro other member
              rw [Bool.eq_false_iff]
              intro otherCommits
              have holds := holds_of_committing
                (sound.calls other (List.mem_of_mem_eraseIdx member)) otherCommits isNext
              have held : state.heldElsewhere index file.filename = true :=
                List.any_eq_true.mpr ⟨other, member, holds⟩
              exact Bool.false_ne_true (notHeld.symm.trans held)
            cases outcome with
            | done =>
                dsimp only
                rw [same]
                exact ⟨count, sound.replace there next fun waiting => .inr (alone waiting)⟩
            | fails => exact ⟨count, sound.replace there callSound.thrown thrownIdle⟩
            | answerLost =>
                dsimp only
                rw [same]
                exact ⟨count, sound.replace there next.thrown thrownIdle⟩
          · cases outcome with
            | done =>
                dsimp only
                rw [committed]
                exact ⟨count + 1, sound.commit there commits inside next idle⟩
            | fails => exact ⟨count, sound.replace there callSound.thrown thrownIdle⟩
            | answerLost =>
                dsimp only
                rw [committed]
                exact ⟨count + 1, sound.commit there commits inside next.thrown
                  (isCommitting_thrown _)⟩

theorem migrationsSound_run (distinct : (all.map MigrationFile.filename).Nodup)
    (stayInside : ∀ file ∈ all, file.StaysInside read)
    (sound : MigrationsSound read all state count) (inputs : List MigrationInput)
    (begins : ∀ files, .call files ∈ inputs → files <+: all) :
    ∃ later, MigrationsSound read all (run (migrationStep read) state inputs) later := by
  induction inputs generalizing state count with
  | nil => exact ⟨count, sound⟩
  | cons input inputs inductionHypothesis =>
      obtain ⟨later, next⟩ := migrationsSound_step distinct stayInside sound input
        fun files isCall => begins files (isCall ▸ List.mem_cons_self)
      exact inductionHypothesis next fun files member =>
        begins files (List.mem_cons_of_mem input member)

def calledLists (inputs : List MigrationInput) : List (List MigrationFile) :=
  inputs.filterMap fun
    | .call files => some files
    | .step .. => none

def latestList (inputs : List MigrationInput) : List MigrationFile :=
  (calledLists inputs).getLast?.getD []

theorem prefix_latestList {inputs : List MigrationInput}
    (eachExtends : (calledLists inputs).Pairwise (· <+: ·)) {files : List MigrationFile}
    (member : .call files ∈ inputs) : files <+: latestList inputs := by
  have called : files ∈ calledLists inputs := List.mem_filterMap.mpr ⟨_, member, rfl⟩
  unfold latestList
  rcases List.eq_nil_or_concat (calledLists inputs) with none | ⟨earlier, last, split⟩
  · rw [none] at called
    cases called
  · rw [List.concat_eq_append] at split
    rw [split, List.getLast?_concat, Option.getD_some]
    rw [split] at called eachExtends
    rcases List.mem_append.mp called with before | isLast
    · grind
    · grind

/-- Calls whose lists extend one another run their files in order and once, however they overlap
and wherever they fail, for files that stay inside their transactions. -/
theorem runsInOrder (read : String → List (Statement ε)) (inputs : List MigrationInput)
    (eachExtends : (calledLists inputs).Pairwise (· <+: ·))
    (distinct : ((latestList inputs).map MigrationFile.filename).Nodup)
    (stayInside : ∀ file ∈ latestList inputs, file.StaysInside read) :
    RunsInOrder read (latestList inputs) (run (migrationStep read) {} inputs) := by
  have start : MigrationsSound read (latestList inputs) ({} : MigrationState ε) 0 :=
    ⟨Nat.zero_le _, rfl, nofun, nofun⟩
  obtain ⟨count, sound⟩ := migrationsSound_run distinct stayInside start inputs
    fun files member => prefix_latestList eachExtends member
  exact ⟨count, sound.schema⟩

end Runs

/-! ### Two apps -/

instance (statement : Statement ε) : Decidable statement.staysInside :=
  match statement with
  | .change _ | .beginTransaction => isTrue trivial
  | .commit | .rollback | .insertRecord _ | .deleteRecord _ => isFalse id

instance (read : String → List (Statement ε)) (file : MigrationFile) :
    Decidable (file.StaysInside read) :=
  inferInstanceAs (Decidable (∀ statement ∈ read file.content, statement.staysInside))

/-- A file is a change, or two with a commit in between. -/
def sampleRead (content : String) : List (Statement String) :=
  if content = "CREATE TABLE notes (id int); COMMIT; CREATE TABLE tags (id int);" then
    [.change "CREATE TABLE notes (id int)", .commit, .change "CREATE TABLE tags (id int)"]
  else [.change content]

def notesFile : MigrationFile := ⟨"0001_notes.sql", "CREATE TABLE notes (id int);"⟩

def tagsFile : MigrationFile := ⟨"0002_tags.sql", "CREATE TABLE tags (id int);"⟩

def committingFile : MigrationFile :=
  ⟨"0001_notes.sql", "CREATE TABLE notes (id int); COMMIT; CREATE TABLE tags (id int);"⟩

/-- An update begins while the install still runs, waits for its record, and fails at it. -/
def overlappingInputs : List MigrationInput :=
  [.call [notesFile], .step 0 .done, .step 0 .done, .call [notesFile, tagsFile], .step 1 .done,
    .step 1 .done, .step 0 .done, .step 0 .done, .step 0 .done, .step 0 .done, .step 1 .done,
    .step 1 .done, .step 1 .done, .step 1 .done, .step 0 .answerLost, .step 1 .done]

theorem runsInOrder_overlapping :
    RunsInOrder sampleRead [notesFile, tagsFile]
      (run (migrationStep sampleRead) {} overlappingInputs) :=
  runsInOrder sampleRead overlappingInputs (by decide) (by decide) (by decide)

/-- The second half of the file fails, and so the file is run again. -/
def retriedInputs : List MigrationInput :=
  .call [committingFile] :: List.replicate 5 (.step 0 .done) ++ [.step 0 .fails] ++
    .call [committingFile] :: List.replicate 5 (.step 1 .done)

/-- A file that commits in its middle takes effect twice, and is not recorded. -/
theorem not_runsInOrder :
    ¬ ∀ (read : String → List (Statement String)) (inputs : List MigrationInput),
      (calledLists inputs).Pairwise (· <+: ·) →
        ((latestList inputs).map MigrationFile.filename).Nodup →
          RunsInOrder read (latestList inputs) (run (migrationStep read) {} inputs) := by
  intro always
  obtain ⟨count, same⟩ := always sampleRead retriedInputs (by decide) (by decide)
  have reached : (run (migrationStep sampleRead) {} retriedInputs).schema =
      ⟨["CREATE TABLE notes (id int)", "CREATE TABLE notes (id int)"], []⟩ := by decide +kernel
  have noRecord := congrArg AppSchema.records same
  have effects := congrArg AppSchema.effects same
  have noFile : (latestList retriedInputs).take count = [] :=
    List.map_eq_nil_iff.mp noRecord.symm
  rw [noFile] at effects
  cases effects

end Lombok.Orm
