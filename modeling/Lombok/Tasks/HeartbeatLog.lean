import Lombok.Tasks.Lifecycle

/-!
Contract: the executor metadata that a heartbeat leaves in the log of its task.

Owns which entries a heartbeat with metadata may change, whether the running
attempt has sent metadata before, and when such a heartbeat lands on its own
attempt: it rewrites every `started` entry of the log, and only while the row has
never had a heartbeat, which progress reports set too and no requeue clears.

Does not own the heartbeat's entry in the task log.
-/

namespace Lombok.Tasks

open Lombok.Core Lombok.Library Lombok.Library.Action

/-! ### The last start of a log -/

def NoStart (log : List SystemLogEntry) : Prop := ∀ entry ∈ log, entry.logType ≠ .started

/-- Every entry is as it was, but for the last `started` one. -/
structure ChangesOnlyLastStart (before after : List SystemLogEntry) : Prop where
  sameLength : after.length = before.length
  others : ∀ earlier entry later, before = earlier ++ entry :: later →
    (entry.logType = .started → ¬NoStart later) → after[earlier.length]? = some entry

/-- The last `started` entry carries the metadata. -/
def LastStartCarries (metadata : Json) (log : List SystemLogEntry) : Prop :=
  ∃ earlier entry later, log = earlier ++ entry :: later ∧ entry.logType = .started ∧
    NoStart later ∧ payloadEntry entry.payload "executorMetadata" = some metadata

theorem exists_lastStart {log : List SystemLogEntry} (started : ¬NoStart log) :
    ∃ earlier entry later, log = earlier ++ entry :: later ∧ entry.logType = .started ∧
      NoStart later := by
  induction log with
  | nil => exact absurd (fun entry member => by cases member) started
  | cons head tail inductionHypothesis =>
      by_cases last : NoStart tail
      · refine ⟨[], head, tail, rfl, ?_, last⟩
        by_contra other
        apply started
        intro entry member
        rcases List.mem_cons.mp member with rfl | inTail
        · exact other
        · exact last entry inTail
      · grind

section

variable {metadata : Json}

theorem upgradeStartLog_logType (entry : SystemLogEntry) :
    (upgradeStartLog metadata entry).logType = entry.logType := by
  unfold upgradeStartLog
  split <;> rfl

/-- A `started` entry is left alone when it carries the metadata already. -/
theorem upgradeStartLog_eq_self_iff {entry : SystemLogEntry} (started : entry.logType = .started) :
    upgradeStartLog metadata entry = entry ↔
      payloadEntry entry.payload "executorMetadata" = some metadata := by
  rcases entry with ⟨loggedAt, logType, message, payload⟩
  rw [upgradeStartLog, if_pos started]
  simp only [SystemLogEntry.mk.injEq, true_and]
  cases payload with
  | none => simp [payloadEntry]
  | some fields =>
      rw [Option.getD_some, Option.some_inj, Fields.set_eq_self_iff]
      rfl

theorem upgradeStartLog_carries {entry : SystemLogEntry} (started : entry.logType = .started) :
    payloadEntry (upgradeStartLog metadata entry).payload "executorMetadata" = some metadata := by
  rw [upgradeStartLog, if_pos started]
  exact Fields.get?_set_same _ _ _

theorem noStart_map_iff (log : List SystemLogEntry) :
    NoStart (log.map (upgradeStartLog metadata)) ↔ NoStart log := by
  unfold NoStart
  rw [List.forall_mem_map]
  simp only [upgradeStartLog_logType]

/-- The upgrade of a whole log touches its last start alone exactly when the earlier ones carry the
metadata already. -/
theorem changesOnly_map_iff (log : List SystemLogEntry) :
    ChangesOnlyLastStart log (log.map (upgradeStartLog metadata)) ↔
      ∀ earlier entry later, log = earlier ++ entry :: later → entry.logType = .started →
        ¬NoStart later → payloadEntry entry.payload "executorMetadata" = some metadata := by
  have entryAt : ∀ earlier entry later, log = earlier ++ entry :: later →
      (log.map (upgradeStartLog metadata))[earlier.length]? =
        some (upgradeStartLog metadata entry) := by
    grind
  constructor
  · intro changes earlier entry later split started more
    have same := changes.others earlier entry later split fun _ => more
    rw [entryAt earlier entry later split] at same
    exact (upgradeStartLog_eq_self_iff started).mp (Option.some.inj same)
  · intro carried
    refine ⟨List.length_map _, fun earlier entry later split notLast => ?_⟩
    rw [entryAt earlier entry later split]
    congr 1
    by_cases started : entry.logType = .started
    · exact (upgradeStartLog_eq_self_iff started).mpr
        (carried earlier entry later split started (notLast started))
    · exact if_neg started

theorem lastStartCarries_map_iff (log : List SystemLogEntry) :
    LastStartCarries metadata (log.map (upgradeStartLog metadata)) ↔ ¬NoStart log := by
  constructor
  · intro ⟨earlier, entry, later, split, started, _⟩ noStart
    apply (noStart_map_iff log).mpr noStart entry
    · rw [split]
      exact List.mem_append_right _ List.mem_cons_self
    · exact started
  · intro starts
    obtain ⟨earlier, entry, later, rfl, started, noStart⟩ := exists_lastStart starts
    refine ⟨earlier.map (upgradeStartLog metadata), upgradeStartLog metadata entry,
      later.map (upgradeStartLog metadata), ?_, ?_, (noStart_map_iff later).mpr noStart,
      upgradeStartLog_carries started⟩
    · rw [List.map_append, List.map_cons]
    · rw [upgradeStartLog_logType, started]

end

theorem ChangesOnlyLastStart.refl (log : List SystemLogEntry) : ChangesOnlyLastStart log log := by
  refine ⟨rfl, fun earlier entry later split _ => ?_⟩
  grind

/-! ### Runs -/

/-- A world, and whether the running attempt of the task has sent metadata. -/
structure Reported where
  world : World
  sent : Bool

/-- A start begins an attempt; a heartbeat with metadata is accepted while the task runs. -/
def Reported.step (env : Env) (taskId : String) (state : Reported) (call : TaskCall) : Reported :=
  let after := call.step env state.world
  ⟨after, match call with
    | .heartbeat id _ (some _) =>
        state.sent || (id == taskId && (findTask taskId state.world.db).any isRunning)
    | _ =>
        state.sent && !((findTask taskId state.world.db).any (·.startedAt.isNone) &&
          (findTask taskId after.db).any (·.startedAt.isSome))⟩

/-- A heartbeat with metadata changes the last start of its task only, and the first one of an
attempt leaves its metadata there. -/
def HeartbeatLands (env : Env) (taskId : String) (state : Reported) (call : TaskCall) : Prop :=
  ∀ context metadata, call = .heartbeat taskId context (some metadata) →
    ∀ row after, findTask taskId state.world.db = some row →
      findTask taskId (call.step env state.world).db = some after →
        ChangesOnlyLastStart row.systemLog after.systemLog ∧
          (isRunning row = true → state.sent = false → LastStartCarries metadata after.systemLog)

/-- What the row has to be like before the heartbeat. While it has had no heartbeat at all, the
starts before the last one carry the metadata already; and for the first heartbeat with metadata,
either that is so and there is a start, or the last start carries the metadata already. -/
structure HeartbeatFits (row : Task) (metadata : Json) (sent : Bool) : Prop where
  earlier : row.latestHeartbeatAt = none → ∀ before entry later,
    row.systemLog = before ++ entry :: later → entry.logType = .started → ¬NoStart later →
      payloadEntry entry.payload "executorMetadata" = some metadata
  first : sent = false →
    if row.latestHeartbeatAt.isNone then ¬NoStart row.systemLog
    else LastStartCarries metadata row.systemLog

def MetadataFits (taskId : String) (state : Reported) (call : TaskCall) : Prop :=
  ∀ context metadata, call = .heartbeat taskId context (some metadata) →
    ∀ row, findTask taskId state.world.db = some row → isRunning row = true →
      HeartbeatFits row metadata state.sent

theorem heartbeat_step {env : Env} {taskId : String} {world : World} {row : Task}
    (found : findTask taskId world.db = some row) (context : Option HeartbeatContext)
    (executorMetadata : Option Json) : ∃ now,
      findTask taskId ((TaskCall.heartbeat taskId context executorMetadata).step env world).db =
        some (if isRunning row then heartbeatRow now context executorMetadata row else row) := by
  by_cases running : isRunning row = true
  · obtain ⟨beaten, after, beats⟩ :=
      @registerHeartbeatInTx_accepts env _ _ _ found running context executorMetadata
    have returned : Returns (registerHeartbeat env taskId context executorMetadata) world beaten
        after := returns_transaction.mpr beats
    obtain ⟨read, now, readFound, _, _, rewrites⟩ := registerHeartbeat_returns returned
    obtain rfl : read = row := Option.some.inj (readFound.symm.trans found)
    refine ⟨now, ?_⟩
    unfold TaskCall.step
    rw [TaskCall.perform, discard_state, if_pos running]
    have left : (registerHeartbeat env taskId context executorMetadata world).2 = after :=
      congrArg Prod.snd returned
    rw [left, rewrites taskId, if_pos rfl, found]
    rfl
  · obtain ⟨after, foundAfter, same | stepped⟩ :=
      perform_tracks env world (.heartbeat taskId context executorMetadata) taskId row found
    · refine ⟨0, ?_⟩
      rw [foundAfter, if_neg running, same]
    · cases stepped with
      | heartbeat now _ _ runs => exact absurd runs running

theorem changesOnly_heartbeatRow_iff {row : Task} {now : Date} {context : Option HeartbeatContext}
    {metadata : Json} :
    ChangesOnlyLastStart row.systemLog
        (heartbeatRow now context (some metadata) row).systemLog ↔
      (row.latestHeartbeatAt = none → ∀ before entry later,
        row.systemLog = before ++ entry :: later → entry.logType = .started → ¬NoStart later →
          payloadEntry entry.payload "executorMetadata" = some metadata) := by
  unfold heartbeatRow
  cases row.latestHeartbeatAt with
  | none =>
      dsimp only
      rw [changesOnly_map_iff, imp_iff_right rfl]
  | some beaten =>
      dsimp only
      refine iff_of_true (.refl _) fun never => ?_
      cases never

theorem carries_heartbeatRow_iff {row : Task} {now : Date} {context : Option HeartbeatContext}
    {metadata : Json} :
    LastStartCarries metadata (heartbeatRow now context (some metadata) row).systemLog ↔
      if row.latestHeartbeatAt.isNone then ¬NoStart row.systemLog
      else LastStartCarries metadata row.systemLog := by
  unfold heartbeatRow
  cases row.latestHeartbeatAt with
  | none => exact lastStartCarries_map_iff row.systemLog
  | some beaten => rfl

theorem heartbeatLands_iff (env : Env) (taskId : String) (state : Reported) (call : TaskCall) :
    HeartbeatLands env taskId state call ↔ MetadataFits taskId state call := by
  constructor
  · intro lands context metadata isHeartbeat row found running
    subst isHeartbeat
    obtain ⟨now, left⟩ := @heartbeat_step env _ _ _ found context (some metadata)
    rw [if_pos running] at left
    obtain ⟨changes, carries⟩ := lands context metadata rfl row _ found left
    exact ⟨changesOnly_heartbeatRow_iff.mp changes,
      fun fresh => carries_heartbeatRow_iff.mp (carries running fresh)⟩
  · intro fits context metadata isHeartbeat row after found foundAfter
    subst isHeartbeat
    obtain ⟨now, left⟩ := @heartbeat_step env _ _ _ found context (some metadata)
    obtain rfl := Option.some.inj (left.symm.trans foundAfter)
    by_cases running : isRunning row = true
    · obtain ⟨earlier, first⟩ := fits context metadata rfl row found running
      grind [changesOnly_heartbeatRow_iff.mpr, carries_heartbeatRow_iff.mpr]
    · rw [if_neg running]
      exact ⟨.refl _, fun runs => absurd runs running⟩

/-- In every run, from every state, the heartbeats with metadata land exactly when each of them
fits the row it finds. -/
theorem heartbeats_land_iff (env : Env) (taskId : String) (start : Reported)
    (calls : List TaskCall) :
    AlongRun (Reported.step env taskId) (HeartbeatLands env taskId) start calls ↔
      AlongRun (Reported.step env taskId) (MetadataFits taskId) start calls :=
  alongRun_congr (heartbeatLands_iff env taskId)

def workerMetadata : Json :=
  .obj [("type", .str "system"), ("metadata", .obj [("worker", .str "w1")])]

def namesWorker (entry : SystemLogEntry) : Bool :=
  ((payloadEntry entry.payload "executorMetadata").bind fun metadata =>
    (metadata.get? "metadata").bind fun details => details.get? "worker").isSome

def isBeaten (row : Task) : Bool :=
  isRunning row && row.latestHeartbeatAt.isSome && !row.systemLog.any namesWorker

/-- The first heartbeat brings no metadata, and the second one is too late. -/
theorem heartbeat_tooLate : ¬ ∀ (env : Env) (taskId : String) (world : World)
    (calls : List TaskCall),
    AlongRun (Reported.step env taskId) (HeartbeatLands env taskId) ⟨world, false⟩ calls := by
  intro claim
  have lands := claim Env.sample "task" (worldOfTask sampleCoreTask)
    [.start "task" systemExecutorMetadata, .heartbeat "task" none none,
      .heartbeat "task" none (some workerMetadata)]
  obtain ⟨_, _, last, _⟩ := lands
  revert last
  have fresh : (Reported.step Env.sample "task" (Reported.step Env.sample "task"
      ⟨worldOfTask sampleCoreTask, false⟩ (.start "task" systemExecutorMetadata))
      (.heartbeat "task" none none)).sent = false := by
    decide +kernel
  have beaten : (findTask "task" (Reported.step Env.sample "task" (Reported.step Env.sample "task"
      ⟨worldOfTask sampleCoreTask, false⟩ (.start "task" systemExecutorMetadata))
      (.heartbeat "task" none none)).world.db).any isBeaten = true := by
    decide +kernel
  generalize Reported.step Env.sample "task" (Reported.step Env.sample "task"
      ⟨worldOfTask sampleCoreTask, false⟩ (.start "task" systemExecutorMetadata))
      (.heartbeat "task" none none) = state at fresh beaten
  intro last
  obtain ⟨row, found, isBeaten⟩ := (Option.any_eq_true _ _).mp beaten
  simp only [Lombok.Tasks.isBeaten, Bool.and_eq_true, Bool.not_eq_true'] at isBeaten
  obtain ⟨⟨running, hasBeaten⟩, noWorker⟩ := isBeaten
  have fits := (heartbeatLands_iff _ _ state _).mp last none workerMetadata rfl row found running
  have carries := fits.first fresh
  have notNone : row.latestHeartbeatAt.isNone = false := by
    rw [Option.isSome_iff_exists] at hasBeaten
    obtain ⟨at', isAt⟩ := hasBeaten
    rw [isAt]
    rfl
  rw [notNone, if_neg Bool.false_ne_true] at carries
  obtain ⟨earlier, entry, later, split, _, _, isWorker⟩ := carries
  have member : entry ∈ row.systemLog := by
    rw [split]
    exact List.mem_append_right _ List.mem_cons_self
  have named : row.systemLog.any namesWorker = true :=
    List.any_eq_true.mpr ⟨entry, member, by rw [namesWorker, isWorker]; rfl⟩
  rw [named] at noWorker
  cases noWorker

end Lombok.Tasks
