import Mathlib.Data.Set.Function
import Lombok.Core.DateText
import Lombok.Tasks.Creation
import Lombok.Tasks.Growth

/-!
Contract: schedule ticks fire every trigger once in each bucket they hit.

A bucket is an interval of the schedule, or the minute a cron expression last
fired in; its start is part of the key of the task. A tick that runs to the end
leaves a task for the bucket it falls into, of its own or of an earlier tick,
and no task is left for another bucket.

Does not own: ticks that fail (see `ScheduleBatch`).
-/

namespace Lombok.Tasks

open Lombok.Core Lombok.Library Lombok.Library.Action Lombok.Apps Lombok.Events

/-! ### Buckets -/

/-- The date lies in the bucket of the schedule that starts at `bucketStart`. -/
def ScheduleConfig.InBucket (env : Env) (config : ScheduleConfig) (bucketStart date : Date) :
    Prop :=
  match config with
  | .interval every unit =>
      let period := (every : Int) * unit.seconds * 1000
      0 < every ∧ (∃ index, bucketStart = index * period) ∧ bucketStart ≤ date ∧
        date < bucketStart + period
  | .cron expression timezone =>
      ∃ fired, env.cronPrev expression (timezone.getD "UTC") (date + 1) = .ok fired ∧
        bucketStart ≤ fired ∧ fired < bucketStart + 60000 ∧ ∃ minute, bucketStart = minute * 60000

theorem ScheduleUnit.seconds_pos (unit : ScheduleUnit) : 0 < unit.seconds := by
  cases unit <;> decide

/-- The start of the period a date falls into is the one multiple of the period at most the date
and less than a period before it. -/
theorem floor_eq_iff {period start date : Int} (positive : 0 < period) :
    start = date / period * period ↔
      (∃ index, start = index * period) ∧ start ≤ date ∧ date < start + period := by
  constructor
  · rintro rfl
    have split := Int.mul_ediv_add_emod date period
    have rest := Int.emod_lt_of_pos date positive
    have nonneg := Int.emod_nonneg date (by omega : period ≠ 0)
    grind
  · rintro ⟨⟨index, rfl⟩, low, high⟩
    have quotient : date / period = index := by
      refine Int.le_antisymm ?_ ?_
      · have above : date < (index + 1) * period := by
          rw [Int.add_mul, Int.one_mul]
          exact high
        exact Int.lt_add_one_iff.mp (Int.ediv_lt_of_lt_mul positive above)
      · exact (Int.le_ediv_iff_mul_le positive).mpr low
    rw [quotient]

/-- What `getUtcScheduleBucket` computes is the start of the bucket the date lies in. -/
theorem getUtcScheduleBucket_iff (env : Env) (config : ScheduleConfig) (date bucketStart : Date) :
    getUtcScheduleBucket env config date = .ok bucketStart ↔
      config.InBucket env bucketStart date := by
  cases config with
  | interval every unit =>
      unfold getUtcScheduleBucket ScheduleConfig.InBucket
      by_cases zero : every = 0
      · simp [zero]
      · have periodPos : 0 < (every : Int) * unit.seconds * 1000 := by
          have everyPos : 0 < (every : Int) := by omega
          have := Int.mul_pos everyPos unit.seconds_pos
          omega
        have sameFloor : date / 1000 / ((every : Int) * unit.seconds) *
            ((every : Int) * unit.seconds) * 1000 =
              date / ((every : Int) * unit.seconds * 1000) *
                ((every : Int) * unit.seconds * 1000) := by
          rw [Int.ediv_ediv_of_nonneg (by omega), Int.mul_comm 1000, Int.mul_assoc]
        dsimp only
        rw [if_neg zero, sameFloor, Except.ok.injEq, eq_comm, floor_eq_iff periodPos]
        exact ⟨fun inBucket => ⟨by omega, inBucket⟩, fun inBucket => inBucket.2⟩
  | cron expression timezone =>
      unfold getUtcScheduleBucket ScheduleConfig.InBucket
      dsimp only
      rw [bind_eq_ok]
      refine exists_congr fun fired => and_congr_right fun _ => ?_
      rw [show (pure (fired / 60000 * 60000) : Except ApiError Date) =
        .ok (fired / 60000 * 60000) from rfl, Except.ok.injEq, eq_comm,
        floor_eq_iff (by omega : (0 : Int) < 60000)]
      grind

/-- `prev()` returns a time strictly before the date it is asked about. -/
def CronPrevBefore (env : Env) : Prop :=
  ∀ expression timezone date fired, env.cronPrev expression timezone date = .ok fired → fired < date

theorem bucketStart_le {env : Env} (cron : CronPrevBefore env) {config : ScheduleConfig}
    {bucketStart date : Date} (inBucket : config.InBucket env bucketStart date) :
    bucketStart ≤ date := by
  cases config with
  | interval every unit => exact inBucket.2.2.1
  | cron expression timezone =>
      obtain ⟨fired, previous, low, _, _⟩ := inBucket
      exact Int.le_trans low (Int.lt_add_one_iff.mp (cron _ _ _ _ previous))

/-! ### One candidate -/

/-- The tick inside `processScheduledTaskTriggers`, before its errors are caught. -/
def scheduleTick (env : Env) : Service Unit := do
  let now ← Service.now env
  let candidates ← Service.query scheduleCandidates
  let due ← Action.collect candidates (tryEnqueueScheduleTask env now)
  insertScheduledTasks env due.flatten

theorem processScheduledTaskTriggers_eq (env : Env) :
    processScheduledTaskTriggers env = Action.tryCatch (scheduleTick env) fun _ => pure () :=
  rfl

theorem processScheduledTaskTriggers_of_returns {env : Env} {before after : World}
    (returned : Returns (scheduleTick env) before () after) :
    Returns (processScheduledTaskTriggers env) before () after := by
  rw [processScheduledTaskTriggers_eq]
  unfold Returns Action.tryCatch
  rw [returned]

namespace ScheduleCandidate

def definition? (candidate : ScheduleCandidate) : Option AppTaskConfig :=
  candidate.app.config.tasks.find? fun task =>
    task.identifier == candidate.trigger.taskIdentifier

def text (candidate : ScheduleCandidate) (timestampBucket : String) : String :=
  keyText candidate.app.identifier candidate.trigger.taskIdentifier
    (scheduleData timestampBucket candidate.trigger.triggerKey candidate.trigger.config)

def key (candidate : ScheduleCandidate) (env : Env) (timestampBucket : String) : String :=
  idempotencyKeyOf env "schedule" candidate.app.identifier candidate.trigger.taskIdentifier
    (scheduleData timestampBucket candidate.trigger.triggerKey candidate.trigger.config)

/-- The row a tick builds for the trigger. -/
def row (candidate : ScheduleCandidate) (env : Env) (taskDefinition : AppTaskConfig)
    (timestampBucket id : String) (now : Date) : Task :=
  (scheduleRow candidate taskDefinition timestampBucket id now).withKey
    (candidate.key env timestampBucket)

theorem definition?_identifier {candidate : ScheduleCandidate} {taskDefinition : AppTaskConfig}
    (declared : candidate.definition? = some taskDefinition) :
    taskDefinition.identifier = candidate.trigger.taskIdentifier := by
  have holds := List.find?_some declared
  simpa using holds

end ScheduleCandidate

variable {env : Env} {candidate : ScheduleCandidate} {before after : World}

theorem key_of_isExisting {taskDefinition : AppTaskConfig} {timestampBucket id : String}
    {now bucketStart : Date} {existing : Task}
    (isExisting : isExistingScheduleTask (candidate.row env taskDefinition timestampBucket id now)
      bucketStart existing = true) :
    existing.idempotencyKey = candidate.key env timestampBucket := by
  simp only [isExistingScheduleTask, Bool.and_eq_true, beq_iff_eq] at isExisting
  exact isExisting.1.2

theorem withTaskIdempotencyKey_schedule (env : Env) {taskDefinition : AppTaskConfig}
    (declared : candidate.definition? = some taskDefinition) (timestampBucket id : String)
    (now : Date) :
    withTaskIdempotencyKey env (scheduleRow candidate taskDefinition timestampBucket id now) =
      pure (candidate.row env taskDefinition timestampBucket id now) := by
  unfold ScheduleCandidate.row ScheduleCandidate.key
  rw [← candidate.definition?_identifier declared]
  rfl

/-- What one candidate of a tick comes to, in the database the tick reads. -/
def CandidateResult (env : Env) (now : Date) (db : Database) (candidate : ScheduleCandidate)
    (result : List Task) : Prop :=
  ∃ bucketStart, candidate.trigger.config.InBucket env bucketStart now ∧
    ((candidate.definition? = none ∧ result = []) ∨
      ∃ taskDefinition timestampBucket id, candidate.definition? = some taskDefinition ∧
        Date.toISOString bucketStart = .ok timestampBucket ∧
        let task := candidate.row env taskDefinition timestampBucket id now
        ((∃ existing ∈ db.tasks.rows,
            isExistingScheduleTask task bucketStart existing = true) ∧ result = [] ∨
          result = [task]))

theorem tryEnqueueScheduleTask_returns {now : Date} {result : List Task}
    (returned : Returns (tryEnqueueScheduleTask env now candidate) before result after) :
    CandidateResult env now before.db candidate result := by
  simp only [tryEnqueueScheduleTask, returns_bind, returns_ofExcept] at returned
  obtain ⟨bucketStart, before, ⟨bucket, rfl⟩, rest⟩ := returned
  refine ⟨bucketStart, (getUtcScheduleBucket_iff ..).mp bucket, ?_⟩
  rcases declared : candidate.definition? with _ | taskDefinition
  · have missing := declared
    unfold ScheduleCandidate.definition? at missing
    rw [missing] at rest
    exact .inl ⟨rfl, (returns_pure.mp rest).1⟩
  · have found := declared
    unfold ScheduleCandidate.definition? at found
    rw [found] at rest
    simp only [returns_bind, returns_ofExcept, returns_pure,
      withTaskIdempotencyKey_schedule env declared, Service.returns_query] at rest
    obtain ⟨id, drawn, draws, timestampBucket, drawn, ⟨printed, rfl⟩, task, drawn, ⟨rfl, rfl⟩,
      existing, drawn, ⟨isExisting, rfl⟩, isResult, _⟩ := rest
    have sameDb : SameDb before drawn :=
      ((Service.moves_randomUUID env : Moves SameDb _).of_returns draws).1
    refine .inr ⟨taskDefinition, timestampBucket, id, rfl, printed, ?_⟩
    rcases existing with _ | existing
    · exact .inr isResult
    · rw [sameDb] at isExisting
      exact .inl ⟨⟨existing, List.mem_of_find?_eq_some isExisting.symm,
        List.find?_some isExisting.symm⟩, isResult⟩

/-! ### One tick -/

/-- The row was not created by a schedule. -/
def NotScheduled (task : Task) : Prop :=
  ∀ timestampBucket triggerKey config runtimeTriggerId,
    task.invocation.context ≠ .schedule timestampBucket triggerKey config runtimeTriggerId

theorem notScheduled_of_emitted {snapshot : Database} {args : EmitEventArgs} {task : Task}
    (emitted : EmittedTask snapshot args task) : KindFirst task ∧ NotScheduled task := by
  cases emitted with
  | triggered isNested found member row =>
      refine ⟨row.kindFirst, ?_⟩
      intro timestampBucket triggerKey config runtimeTriggerId isSchedule
      grind [row.context]
  | core row =>
      refine ⟨row.kindFirst, ?_⟩
      intro timestampBucket triggerKey config runtimeTriggerId isSchedule
      grind [row.context]

/-- The rows the batch leaves: those that were there, its own, and what its announcements add. -/
theorem insertScheduledTasks_returns {tasksToInsert : List Task}
    (returned : Returns (insertScheduledTasks env tasksToInsert) before () after) :
    SameApps before.db after.db ∧
      ∃ emitted, after.db.tasks.rows = before.db.tasks.rows ++ tasksToInsert ++ emitted ∧
        ∀ task ∈ emitted, KindFirst task ∧ NotScheduled task := by
  unfold insertScheduledTasks at returned
  split at returned
  · rename_i isEmpty
    obtain ⟨_, rfl⟩ := returns_pure.mp returned
    rw [List.isEmpty_iff] at isEmpty
    exact ⟨⟨rfl, rfl⟩, [], by simp [isEmpty], by simp⟩
  · obtain ⟨_, inserted, inserts, announces⟩ := returns_bind.mp (returns_transaction.mp returned)
    have rows := Service.returns_insertTasks inserts
    have insertGrows : Grows (fun _ => True) (fun _ => True) before inserted :=
      ((Service.moves_insertTasks fun _ _ => trivial).of_returns inserts).1
    have announceMoves : Moves (Grows (fun task => KindFirst task ∧ NotScheduled task)
        fun _ => True) (Action.each tasksToInsert fun task =>
          emitRunnableTaskEnqueuedEvent (emitEventWithTx env) task) := by
      refine moves_grows fun snapshot => Moves.each _ fun task _ => ?_
      exact moves_announce env task (fun _ _ _ emitted => notScheduled_of_emitted emitted)
        fun _ _ => trivial
    have announceGrows := (announceMoves.of_returns announces).1
    obtain ⟨emitted, emittedRows, emittedNew⟩ := announceGrows.tasks
    grind [insertGrows.sameApps.trans, announceGrows.sameApps]

/-- What a tick that runs to the end did. -/
structure TickResult (env : Env) (now : Date) (before after : World) (due : List (List Task)) :
    Prop where
  each : List.Forall₂ (CandidateResult env now before.db) (scheduleCandidates before.db) due
  sameApps : SameApps before.db after.db
  rows : ∃ emitted, after.db.tasks.rows = before.db.tasks.rows ++ due.flatten ++ emitted ∧
    ∀ task ∈ emitted, KindFirst task ∧ NotScheduled task

theorem moves_tryEnqueueScheduleTask (env : Env) (now : Date) (candidate : ScheduleCandidate) :
    Moves SameDb (tryEnqueueScheduleTask env now candidate) := by
  unfold tryEnqueueScheduleTask
  refine Moves.bind (moves_ofExcept _) fun bucketStart => ?_
  split
  · exact moves_pure _
  · refine Moves.bind (Service.moves_randomUUID env) fun id => ?_
    refine Moves.bind (moves_ofExcept _) fun timestampBucket => ?_
    refine Moves.bind (ensures_withTaskIdempotencyKey env _).moves fun task => ?_
    exact Moves.bind (Service.moves_query _) fun existing => moves_pure _

theorem scheduleTick_returns (returned : Returns (scheduleTick env) before () after) :
    ∃ due, TickResult env (env.clock before.draws) before after due := by
  simp only [scheduleTick, returns_bind, Service.returns_now, Service.returns_query] at returned
  obtain ⟨now, clocked, ⟨rfl, rfl⟩, candidates, _, ⟨rfl, rfl⟩, due, collected, collects,
    inserts⟩ := returned
  obtain ⟨sameDb, each⟩ := returns_collect
    (fun candidate _ => moves_tryEnqueueScheduleTask env (env.clock before.draws)
        candidate) collects
  obtain ⟨sameApps, emitted, rows, new⟩ := insertScheduledTasks_returns inserts
  rw [sameDb] at sameApps rows
  refine ⟨due, ?_, sameApps, emitted, rows, new⟩
  refine each.imp fun candidate result => ?_
  rintro ⟨reached, left, reachedDb, execution⟩
  have candidateResult := tryEnqueueScheduleTask_returns execution
  rw [reachedDb] at candidateResult
  exact candidateResult

/-! ### Runs of ticks -/

/-- The task was created for the trigger, in the bucket that starts at `bucketStart`. -/
structure FiredFor (candidate : ScheduleCandidate) (bucketStart : Date) (task : Task) : Prop where
  owner : task.ownerId = candidate.app.identifier
  identifier : task.taskIdentifier = candidate.trigger.taskIdentifier
  context : ∃ timestampBucket runtimeTriggerId,
    Date.toISOString bucketStart = .ok timestampBucket ∧ task.invocation.context =
      .schedule timestampBucket candidate.trigger.triggerKey candidate.trigger.config
        runtimeTriggerId

/-- The task was created for the trigger, in some bucket. -/
structure FiredBy (candidate : ScheduleCandidate) (task : Task) : Prop where
  owner : task.ownerId = candidate.app.identifier
  identifier : task.taskIdentifier = candidate.trigger.taskIdentifier
  context : ∃ timestampBucket runtimeTriggerId, task.invocation.context =
    .schedule timestampBucket candidate.trigger.triggerKey candidate.trigger.config runtimeTriggerId

def ScheduleKeyed (env : Env) (texts : Set String) (ticks : Set Date) (task : Task) : Prop :=
  ∀ timestampBucket triggerKey config runtimeTriggerId,
    task.invocation.context = .schedule timestampBucket triggerKey config runtimeTriggerId →
      keyText task.ownerId task.taskIdentifier (scheduleData timestampBucket triggerKey config) ∈
          texts ∧
        task.idempotencyKey = idempotencyKeyOf env "schedule" task.ownerId task.taskIdentifier
          (scheduleData timestampBucket triggerKey config) ∧
        ∃ bucketStart tick, tick ∈ ticks ∧ Date.toISOString bucketStart = .ok timestampBucket ∧
          config.InBucket env bucketStart tick ∧ bucketStart ≤ task.createdAt

/-- What a tick finds after the given ticks. -/
structure ScheduleInvariant (env : Env) (texts : Set String) (candidates : List ScheduleCandidate)
    (ticks : Set Date) (world : World) : Prop where
  sameCandidates : scheduleCandidates world.db = candidates
  kindFirst : ∀ task ∈ world.db.tasks.rows, KindFirst task
  keyed : ∀ task ∈ world.db.tasks.rows, ScheduleKeyed env texts ticks task
  fired : ∀ candidate ∈ candidates, candidate.definition?.isSome = true →
    ∀ tick ∈ ticks, ∃ bucketStart, candidate.trigger.config.InBucket env bucketStart tick ∧
      ∃ task ∈ world.db.tasks.rows, FiredFor candidate bucketStart task

def TickTextsIn (env : Env) (texts : Set String) (candidates : List ScheduleCandidate)
    (tick : Date) : Prop :=
  ∀ candidate ∈ candidates, ∀ bucketStart timestampBucket,
    candidate.trigger.config.InBucket env bucketStart tick →
      Date.toISOString bucketStart = .ok timestampBucket → candidate.text timestampBucket ∈ texts

/-- Ticks that run to the end, at the times the clock shows them. -/
inductive TickRun (env : Env) : World → List Date → World → Prop where
  | nil (world : World) : TickRun env world [] world
  | tick {before after final : World} {ticks : List Date}
      (returned : Returns (scheduleTick env) before () after)
          (rest : TickRun env after ticks final) :
      TickRun env before (env.clock before.draws :: ticks) final

theorem scheduleCandidates_sameApps {snapshot db : Database} (same : SameApps snapshot db) :
    scheduleCandidates db = scheduleCandidates snapshot := by
  unfold scheduleCandidates
  rw [same.1, same.2]

section Tick

variable {env : Env} {texts : Set String} {candidates : List ScheduleCandidate} {ticks : Set Date}
  {before after : World} {now : Date} {due : List (List Task)}

/-- The row a tick builds, and nothing else about it. -/
theorem due_row (tick : TickResult env now before after due)
    (isCandidates : scheduleCandidates before.db = candidates) {task : Task}
    (member : task ∈ due.flatten) :
    ∃ candidate ∈ candidates, ∃ taskDefinition timestampBucket id bucketStart,
      candidate.definition? = some taskDefinition ∧
      Date.toISOString bucketStart = .ok timestampBucket ∧
      candidate.trigger.config.InBucket env bucketStart now ∧
      task = candidate.row env taskDefinition timestampBucket id now := by
  obtain ⟨result, resultMember, taskMember⟩ := List.mem_flatten.mp member
  obtain ⟨candidate, candidateMember, bucketStart, inBucket, candidateResult⟩ :=
    forall₂_right tick.each resultMember
  rw [isCandidates] at candidateMember
  rcases candidateResult with
    ⟨_, rfl⟩ | ⟨taskDefinition, timestampBucket, id, declared, printed, ⟨_, rfl⟩ | rfl⟩
  · cases taskMember
  · cases taskMember
  · exact ⟨candidate, candidateMember, taskDefinition, timestampBucket, id, bucketStart, declared,
      printed, inBucket, List.mem_singleton.mp taskMember⟩

/-- A stored row with the key of a candidate's bucket is the candidate's task for the bucket. -/
theorem firedFor_of_key (spread : Set.InjOn env.hashData texts) {candidate : ScheduleCandidate}
    {timestampBucket : String} {bucketStart : Date}
    (inTexts : candidate.text timestampBucket ∈ texts)
    (printed : Date.toISOString bucketStart = .ok timestampBucket) {existing : Task}
    (kindFirst : KindFirst existing) (keyed : ScheduleKeyed env texts ticks existing)
    (key : existing.idempotencyKey = candidate.key env timestampBucket) :
    FiredFor candidate bucketStart existing := by
  have isSchedule : ∃ bucket triggerKey config runtimeTriggerId,
      existing.invocation.context = .schedule bucket triggerKey config runtimeTriggerId := by
    rcases isContext : existing.invocation.context with
      _ | _ | ⟨first, second, third, fourth⟩ | _ | _ | _ | _
    case schedule => exact ⟨first, second, third, fourth, rfl⟩
    all_goals
      have otherKind : existing.invocation.context.kind ≠
          (InvokeContext.schedule "" "" default none).kind := by
        rw [isContext]
        simp [InvokeContext.kind]
      exact absurd key (kindFirst.key_ne otherKind _ _ _)
  obtain ⟨bucket, triggerKey, config, runtimeTriggerId, isContext⟩ := isSchedule
  obtain ⟨existingText, existingKey, _⟩ := keyed bucket triggerKey config runtimeTriggerId isContext
  rw [existingKey] at key
  have sameKey : idempotencyKeyOf env (InvokeContext.schedule "" "" default none).kind
      existing.ownerId existing.taskIdentifier (scheduleData bucket triggerKey config) =
    idempotencyKeyOf env (InvokeContext.schedule "" "" default none).kind candidate.app.identifier
      candidate.trigger.taskIdentifier (scheduleData timestampBucket candidate.trigger.triggerKey
        candidate.trigger.config) := key
  have sameText := spread existingText inTexts (sameKey_kind sameKey).2
  obtain ⟨sameOwner, sameIdentifier, sameData⟩ :=
    keyText_injective (isPlain_scheduleData ..) (isPlain_scheduleData ..) sameText
  obtain ⟨sameBucket, sameTriggerKey, sameConfig⟩ := scheduleData_injective sameData
  refine ⟨sameOwner, sameIdentifier, timestampBucket, runtimeTriggerId, printed, ?_⟩
  rw [isContext, sameBucket, sameTriggerKey, sameConfig]

theorem ScheduleInvariant.tick (invariant : ScheduleInvariant env texts candidates ticks before)
    (cron : CronPrevBefore env) (spread : Set.InjOn env.hashData texts)
    (textsIn : TickTextsIn env texts candidates now)
    (result : TickResult env now before after due) :
    ScheduleInvariant env texts candidates (insert now ticks) after := by
  obtain ⟨emitted, rows, emittedNew⟩ := result.rows
  have rowCases : ∀ task ∈ after.db.tasks.rows,
      task ∈ before.db.tasks.rows ∨ task ∈ due.flatten ∨ task ∈ emitted := by
    simp [rows]
  have oldRow : ∀ task ∈ before.db.tasks.rows, task ∈ after.db.tasks.rows := by
    grind
  refine ⟨?_, ?_, ?_, ?_⟩
  · rw [scheduleCandidates_sameApps result.sameApps, invariant.sameCandidates]
  · intro task member
    rcases rowCases task member with old | new | announced
    · exact invariant.kindFirst task old
    · obtain ⟨candidate, _, _, _, _, _, _, _, _, rfl⟩ := due_row result invariant.sameCandidates new
      exact ⟨_, rfl⟩
    · exact (emittedNew task announced).1
  · intro task member bucket triggerKey config runtimeTriggerId isContext
    rcases rowCases task member with old | new | announced
    · obtain ⟨inTexts, key, bucketStart, tick, tickMember, rest⟩ :=
        invariant.keyed task old bucket triggerKey config runtimeTriggerId isContext
      exact ⟨inTexts, key, bucketStart, tick, Set.mem_insert_of_mem _ tickMember, rest⟩
    · obtain ⟨candidate, candidateMember, taskDefinition, timestampBucket, id,
        bucketStart, declared,
        printed, inBucket, rfl⟩ := due_row result invariant.sameCandidates new
      have identifier := candidate.definition?_identifier declared
      cases isContext
      have inTexts := textsIn candidate candidateMember bucketStart bucket inBucket printed
      refine ⟨?_, ?_, bucketStart, now, Set.mem_insert _ _, printed, inBucket,
        bucketStart_le cron inBucket⟩
      · show keyText _ taskDefinition.identifier _ ∈ texts
        rw [identifier]
        exact inTexts
      · show _ = idempotencyKeyOf env "schedule" _ taskDefinition.identifier _
        rw [identifier]
        rfl
    · exact absurd isContext ((emittedNew task announced).2 _ _ _ _)
  · intro candidate candidateMember declares tick tickMember
    rcases Set.mem_insert_iff.mp tickMember with rfl | earlier
    · rw [← invariant.sameCandidates] at candidateMember
      obtain ⟨candidateResult, resultMember, bucketStart, inBucket, outcome⟩ :=
        forall₂_left result.each candidateMember
      rw [invariant.sameCandidates] at candidateMember
      refine ⟨bucketStart, inBucket, ?_⟩
      rcases outcome with ⟨undeclared, _⟩ | ⟨taskDefinition, timestampBucket, id, declared, printed,
        ⟨⟨existing, existingMember, isExisting⟩, _⟩ | isNew⟩
      · rw [undeclared] at declares
        cases declares
      · have inTexts := textsIn candidate candidateMember bucketStart timestampBucket
          inBucket printed
        exact ⟨existing, oldRow existing existingMember,
          firedFor_of_key spread inTexts printed (invariant.kindFirst existing existingMember)
            (invariant.keyed existing existingMember) (key_of_isExisting isExisting)⟩
      · refine ⟨candidate.row env taskDefinition timestampBucket id tick, ?_, rfl,
          candidate.definition?_identifier declared, timestampBucket, _, printed, rfl⟩
        grind [List.mem_flatten.mpr]
    · grind [invariant.fired]

end Tick

section Run

variable {env : Env} {texts : Set String} {candidates : List ScheduleCandidate}

theorem ScheduleInvariant.run {seen : Set Date} {start final : World} {ticks : List Date}
    (run : TickRun env start ticks final)
    (invariant : ScheduleInvariant env texts candidates seen start) (cron : CronPrevBefore env)
    (spread : Set.InjOn env.hashData texts)
    (textsIn : ∀ tick ∈ ticks, TickTextsIn env texts candidates tick) :
    ScheduleInvariant env texts candidates (seen ∪ {tick | tick ∈ ticks}) final := by
  induction run generalizing seen with
  | nil world =>
      simp [invariant]
  | @tick before after final ticks returned rest inductionHypothesis =>
      obtain ⟨due, result⟩ := scheduleTick_returns returned
      have next := invariant.tick cron spread (textsIn _ (List.mem_cons_self ..)) result
      have last := inductionHypothesis next fun tick member =>
        textsIn tick (List.mem_cons_of_mem _ member)
      have same : seen ∪ {tick | tick ∈ env.clock before.draws :: ticks} =
          insert (env.clock before.draws) seen ∪ {tick | tick ∈ ticks} := by
        grind
      rw [same]
      exact last

theorem inBucket_unique {config : ScheduleConfig} {bucketStart other date : Date}
    (inBucket : config.InBucket env bucketStart date) (inOther : config.InBucket env other date) :
    bucketStart = other := by
  have computed := (getUtcScheduleBucket_iff env config date bucketStart).mpr inBucket
  rw [(getUtcScheduleBucket_iff env config date other).mpr inOther] at computed
  cases computed
  rfl

theorem firedFor_unique {ticks : Set Date} {world : World}
    (invariant : ScheduleInvariant env texts candidates ticks world)
    {candidate : ScheduleCandidate} {bucketStart : Date} {task other : Task}
    (member : task ∈ world.db.tasks.rows) (otherMember : other ∈ world.db.tasks.rows)
    (firedFor : FiredFor candidate bucketStart task)
    (otherFired : FiredFor candidate bucketStart other) : task = other := by
  obtain ⟨owner, identifier, timestampBucket, runtimeTriggerId, printed, isContext⟩ := firedFor
  obtain ⟨otherOwner, otherIdentifier, otherBucket, otherTriggerId, otherPrinted, otherContext⟩ :=
    otherFired
  have sameBucket : timestampBucket = otherBucket := by
    rw [printed] at otherPrinted
    cases otherPrinted
    rfl
  have key := (invariant.keyed task member _ _ _ _ isContext).2.1
  have otherKey := (invariant.keyed other otherMember _ _ _ _ otherContext).2.1
  grind [Task.eq_of_idempotencyKey]

end Run

/-- The texts under the keys of the tasks that the ticks may create. -/
def scheduleTexts (env : Env) (candidates : List ScheduleCandidate) (ticks : List Date) :
    Set String :=
  { text | ∃ candidate ∈ candidates, ∃ tick ∈ ticks, ∃ bucketStart timestampBucket,
      candidate.trigger.config.InBucket env bucketStart tick ∧
        Date.toISOString bucketStart = .ok timestampBucket ∧
        text = candidate.text timestampBucket }

def BucketHit (env : Env) (candidate : ScheduleCandidate) (ticks : List Date)
    (bucketStart : Date) : Prop :=
  ∃ tick ∈ ticks, candidate.trigger.config.InBucket env bucketStart tick

/-- The tasks of a trigger are in bijection with the buckets hit: one for each bucket that contains
a tick, and each for one such bucket. -/
theorem schedule_firesOnce (env : Env) {start final : World} {ticks : List Date}
    (run : TickRun env start ticks final)
    (unfired : ∀ task ∈ start.db.tasks.rows, KindFirst task ∧ NotScheduled task)
    (cron : CronPrevBefore env)
    (spread : Set.InjOn env.hashData (scheduleTexts env (scheduleCandidates start.db) ticks))
    {candidate : ScheduleCandidate} (member : candidate ∈ scheduleCandidates start.db)
    (declared : candidate.definition?.isSome = true) :
    (∀ bucketStart, BucketHit env candidate ticks bucketStart →
        ∃! task, task ∈ final.db.tasks.rows ∧ FiredFor candidate bucketStart task) ∧
      ∀ task ∈ final.db.tasks.rows, FiredBy candidate task →
        ∃! bucketStart, BucketHit env candidate ticks bucketStart ∧
          FiredFor candidate bucketStart task := by
  have atStart : ScheduleInvariant env (scheduleTexts env (scheduleCandidates start.db) ticks)
      (scheduleCandidates start.db) ∅ start := by
    refine ⟨rfl, fun task member => (unfired task member).1, ?_, ?_⟩
    · intro task member bucket triggerKey config runtimeTriggerId isContext
      exact absurd isContext ((unfired task member).2 _ _ _ _)
    · intro candidate _ _ tick tickMember
      cases tickMember
  have textsIn : ∀ tick ∈ ticks, TickTextsIn env
      (scheduleTexts env (scheduleCandidates start.db) ticks) (scheduleCandidates start.db) tick :=
    fun tick tickMember candidate member bucketStart timestampBucket inBucket printed =>
      ⟨candidate, member, tick, tickMember, bucketStart, timestampBucket, inBucket, printed, rfl⟩
  have invariant := atStart.run run cron spread textsIn
  rw [Set.empty_union] at invariant
  constructor
  · rintro bucketStart ⟨tick, tickMember, inBucket⟩
    obtain ⟨other, inOther, task, taskMember, firedFor⟩ :=
      invariant.fired candidate member declared tick tickMember
    have sameBucket := inBucket_unique inOther inBucket
    rw [sameBucket] at firedFor
    refine ⟨task, ⟨taskMember, firedFor⟩, ?_⟩
    rintro rival ⟨rivalMember, rivalFired⟩
    exact firedFor_unique invariant rivalMember taskMember rivalFired firedFor
  · intro task taskMember firedBy
    obtain ⟨owner, identifier, timestampBucket, runtimeTriggerId, isContext⟩ := firedBy
    obtain ⟨_, _, bucketStart, tick, tickMember, printed, inBucket, _⟩ :=
      invariant.keyed task taskMember _ _ _ _ isContext
    refine ⟨bucketStart, ⟨⟨tick, tickMember, inBucket⟩, owner, identifier, timestampBucket,
      runtimeTriggerId, printed, isContext⟩, ?_⟩
    rintro other ⟨_, otherFired⟩
    obtain ⟨otherBucket, otherTriggerId, otherPrinted, otherContext⟩ := otherFired.context
    rw [isContext] at otherContext
    cases otherContext
    exact Date.toISOString_injective otherPrinted printed

def sampleSchedule : ScheduleTaskTriggerConfig where
  taskIdentifier := "resize"
  triggerKey := "hourly"
  config := .interval 1 .hours
  condition := none
  onComplete := []
  onProgress := []

def sampleScheduledApp : App :=
  { App.sample with config := { App.sample.config with triggers := [.schedule sampleSchedule] } }

/-- The app in a database without tasks. -/
def sampleScheduleWorld : World where
  db := { apps := { rows := [sampleScheduledApp], distinct := List.pairwise_singleton _ _ } }

theorem schedule_firesOnce_hourly :
    (∀ bucketStart, BucketHit Env.sample ⟨sampleScheduledApp, sampleSchedule, none⟩
        [0] bucketStart →
        ∃! task, task ∈ (scheduleTick Env.sample sampleScheduleWorld).2.db.tasks.rows ∧
          FiredFor ⟨sampleScheduledApp, sampleSchedule, none⟩ bucketStart task) ∧
      ∀ task ∈ (scheduleTick Env.sample sampleScheduleWorld).2.db.tasks.rows,
        FiredBy ⟨sampleScheduledApp, sampleSchedule, none⟩ task →
        ∃! bucketStart,
          BucketHit Env.sample ⟨sampleScheduledApp, sampleSchedule, none⟩ [0] bucketStart ∧
            FiredFor ⟨sampleScheduledApp, sampleSchedule, none⟩ bucketStart task := by
  have isOk : (scheduleTick Env.sample sampleScheduleWorld).1.isOk = true := by decide +kernel
  obtain ⟨_, after, returned⟩ := returns_of_isOk isOk
  have left : (scheduleTick Env.sample sampleScheduleWorld).2 = after := by rw [returned]
  rw [left]
  refine schedule_firesOnce Env.sample (.tick returned (.nil after)) ?_ ?_ ?_ ?_ rfl
  · intro task member
    cases member
  · intro expression timezone date fired previous
    cases previous
    exact Int.sub_one_lt_iff.mpr (Int.le_refl date)
  · exact fun _ _ _ _ same => same
  · exact List.mem_singleton.mpr rfl

end Lombok.Tasks
