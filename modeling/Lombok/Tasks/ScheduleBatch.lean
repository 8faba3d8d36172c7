import Lombok.Tasks.Schedule

/-!
Contract: when the due triggers of one tick all fire.

A tick inserts its tasks in one statement and announces them in the same
transaction, for all apps together. Two due triggers of one app that agree in
task, trigger key and schedule have one key; a trigger whose bucket cannot be
computed throws; and so may an announcement. Each of these leaves every due
trigger of every app without its task.

Does not own: what completed ticks leave behind (see `Schedule`).
-/

namespace Lombok.Tasks

open Lombok.Core Lombok.Library Lombok.Library.Action Lombok.Apps Lombok.Events

/-! ### Inserting a batch -/

/-- A batch is inserted exactly when its rows clash neither with each other nor with stored ones. -/
theorem insertTasks_returns_iff (tasks : List Task) (before : World) :
    (∃ after, Returns (Service.insertTasks tasks) before () after) ↔
      tasks.Pairwise (fun left right => Task.clash left right = false) ∧
        ∀ task ∈ tasks, ∀ row ∈ before.db.tasks.rows, Task.clash row task = false := by
  have unwrap : ∀ tasks before, (∃ after, Returns (Service.insertTasks tasks) before () after) ↔
      ∃ after, Returns (Action.each tasks Service.insertTask) before () after := by
    simp [Service.insertTasks]
  rw [unwrap]
  induction tasks generalizing before with
  | nil => exact ⟨fun _ => ⟨List.Pairwise.nil, by simp⟩, fun _ => ⟨before, rfl⟩⟩
  | cons head tail inductionHypothesis =>
      constructor
      · rintro ⟨after, returned⟩
        obtain ⟨_, middle, inserts, rest⟩ := returns_bind.mp returned
        obtain ⟨fresh, rows⟩ := Service.returns_insertTask inserts
        grind [List.pairwise_cons.mpr]
      · rintro ⟨pairwise, apart⟩
        obtain ⟨headApart, tailPairwise⟩ := List.pairwise_cons.mp pairwise
        obtain ⟨inserted, insertion⟩ := Table.insert_of_fresh (apart head (List.mem_cons_self ..))
        obtain ⟨middle, inserts⟩ := Service.insertTask_returns insertion
        have rows := (Service.returns_insertTask inserts).2
        have tailApart : ∀ task ∈ tail, ∀ row ∈ middle.db.tasks.rows,
            Task.clash row task = false := by
          intro task member row rowMember
          rw [rows] at rowMember
          rcases List.mem_append.mp rowMember with old | isHead
          · exact apart task (List.mem_cons_of_mem _ member) row old
          · grind
        obtain ⟨after, rest⟩ := (inductionHypothesis middle).mpr ⟨tailPairwise, tailApart⟩
        exact ⟨after, returns_bind.mpr ⟨(), middle, inserts, rest⟩⟩

/-! ### Due triggers -/

namespace ScheduleCandidate

def bucketText (candidate : ScheduleCandidate) (env : Env) (now : Date) :
    Except ApiError String := do
  let bucketStart ← getUtcScheduleBucket env candidate.trigger.config now
  Date.toISOString bucketStart

def computes (candidate : ScheduleCandidate) (env : Env) (now : Date) : Bool :=
  (getUtcScheduleBucket env candidate.trigger.config now).isOk &&
    (candidate.definition?.isNone || (candidate.bucketText env now).isOk)

/-- The task was created for the trigger in the bucket of that text. -/
def hasFired (candidate : ScheduleCandidate) (timestampBucket : String) (task : Task) : Bool :=
  task.ownerId == candidate.app.identifier &&
    task.taskIdentifier == candidate.trigger.taskIdentifier &&
    match task.invocation.context with
    | .schedule bucket triggerKey config _ =>
        bucket == timestampBucket && triggerKey == candidate.trigger.triggerKey &&
          decide (config = candidate.trigger.config)
    | _ => false

/-- The trigger's task is declared, and its bucket has none yet. -/
def isDue (candidate : ScheduleCandidate) (env : Env) (now : Date) (db : Database) : Bool :=
  candidate.definition?.isSome &&
    match candidate.bucketText env now with
    | .ok timestampBucket => !db.tasks.rows.any (candidate.hasFired timestampBucket)
    | .error _ => false

def sameTrigger (candidate other : ScheduleCandidate) : Bool :=
  candidate.app.identifier == other.app.identifier &&
    candidate.trigger.taskIdentifier == other.trigger.taskIdentifier &&
    candidate.trigger.triggerKey == other.trigger.triggerKey &&
    decide (candidate.trigger.config = other.trigger.config)

/-- The tasks the trigger adds to a tick's batch. -/
def turn (candidate : ScheduleCandidate) (env : Env) (now : Date) (db : Database) (draws : Nat) :
    List Task :=
  match candidate.definition?, candidate.bucketText env now with
  | some taskDefinition, .ok timestampBucket =>
      if candidate.isDue env now db then
        [candidate.row env taskDefinition timestampBucket (env.randomUUID draws) now]
      else
        []
  | _, _ => []

/-- The draws after the trigger's turn: a declared task has an identifier drawn. -/
def drawsAfter (candidate : ScheduleCandidate) (draws : Nat) : Nat :=
  if candidate.definition?.isSome then draws + 1 else draws

theorem bucketText_eq_ok {candidate : ScheduleCandidate} {env : Env} {now : Date} {text : String} :
    candidate.bucketText env now = .ok text ↔
      ∃ bucketStart, candidate.trigger.config.InBucket env bucketStart now ∧
        Date.toISOString bucketStart = .ok text := by
  rw [bucketText, bind_eq_ok]
  simp only [getUtcScheduleBucket_iff]

theorem hasFired_iff {candidate : ScheduleCandidate} {text : String} {task : Task} :
    candidate.hasFired text task = true ↔
      task.ownerId = candidate.app.identifier ∧
        task.taskIdentifier = candidate.trigger.taskIdentifier ∧
        ∃ runtimeTriggerId, task.invocation.context =
          .schedule text candidate.trigger.triggerKey candidate.trigger.config
              runtimeTriggerId := by
  grind [hasFired]

end ScheduleCandidate

/-! ### The turn of a trigger -/

section Turn

variable {env : Env} {texts : Set String} {ticks : Set Date} {now : Date} {db : Database}
  {candidate : ScheduleCandidate}

/-- Rows as completed ticks leave them. -/
def StoredRows (env : Env) (texts : Set String) (ticks : Set Date) (db : Database) : Prop :=
  ∀ row ∈ db.tasks.rows, KindFirst row ∧ ScheduleKeyed env texts ticks row

/-- The lookup of a tick finds a task exactly if the trigger has fired in the bucket. -/
theorem isExisting_iff_hasFired (spread : Set.InjOn env.hashData texts)
    (stored : StoredRows env texts ticks db) {bucketStart : Date} {text id : String}
    (inTexts : candidate.text text ∈ texts) (printed : Date.toISOString bucketStart = .ok text)
    {taskDefinition : AppTaskConfig} (declared : candidate.definition? = some taskDefinition)
    {row : Task} (member : row ∈ db.tasks.rows) :
    isExistingScheduleTask (candidate.row env taskDefinition text id now) bucketStart row = true ↔
      candidate.hasFired text row = true := by
  obtain ⟨kindFirst, keyed⟩ := stored row member
  constructor
  · intro isExisting
    obtain ⟨owner, identifier, bucket, runtimeTriggerId, bucketPrinted, isContext⟩ :=
      firedFor_of_key spread inTexts printed kindFirst keyed (key_of_isExisting isExisting)
    have sameBucket : text = bucket := Except.ok.inj (printed.symm.trans bucketPrinted)
    simp [ScheduleCandidate.hasFired_iff.mpr, sameBucket, isContext, owner, identifier]
  · intro fired
    obtain ⟨owner, identifier, runtimeTriggerId, isContext⟩ :=
      ScheduleCandidate.hasFired_iff.mp fired
    obtain ⟨_, key, start, tick, _, startPrinted, _, created⟩ := keyed _ _ _ _ isContext
    have sameStart : start = bucketStart := Date.toISOString_injective startPrinted printed
    simp only [isExistingScheduleTask, Bool.and_eq_true, beq_iff_eq, decide_eq_true_eq]
    refine ⟨⟨⟨owner, ?_⟩, ?_⟩, ?_⟩
    · rw [identifier]
      exact (candidate.definition?_identifier declared).symm
    · rw [key, owner, identifier]
      rfl
    · rw [← sameStart]
      exact created

theorem tryEnqueueScheduleTask_returns_iff (spread : Set.InjOn env.hashData texts) {before : World}
    (stored : StoredRows env texts ticks before.db)
    (textsIn : TickTextsIn env texts [candidate] now) {result : List Task} {after : World} :
    Returns (tryEnqueueScheduleTask env now candidate) before result after ↔
      candidate.computes env now = true ∧ result = candidate.turn env now before.db before.draws ∧
        after = { before with draws := candidate.drawsAfter before.draws } := by
  unfold tryEnqueueScheduleTask
  rcases bucket : getUtcScheduleBucket env candidate.trigger.config now with error | bucketStart
  · simp [ScheduleCandidate.computes, not_returns_error_bind, bucket]
  · rw [returns_ok_bind]
    rcases declared : candidate.definition? with _ | taskDefinition
    · have missing := declared
      unfold ScheduleCandidate.definition? at missing
      simp [ScheduleCandidate.computes, ScheduleCandidate.turn, ScheduleCandidate.drawsAfter,
        bucket, declared, missing]
    · have found := declared
      unfold ScheduleCandidate.definition? at found
      have sameText : candidate.bucketText env now = Date.toISOString bucketStart := by
        rw [ScheduleCandidate.bucketText, bucket]
        rfl
      rw [found]
      simp only [returns_bind, Service.returns_randomUUID]
      rcases printed : Date.toISOString bucketStart with error | text
      · simp [ScheduleCandidate.computes, declared, sameText, printed]
      · have isText : candidate.bucketText env now = .ok text := sameText.trans printed
        have computes : candidate.computes env now = true := by
          simp [ScheduleCandidate.computes, bucket, isText]
        have inBucket := (getUtcScheduleBucket_iff ..).mp bucket
        have inTexts := textsIn candidate (List.mem_singleton.mpr rfl) bucketStart text
            inBucket printed
        have sameLookup : ∀ id, (before.db.tasks.find? (isExistingScheduleTask
            (candidate.row env taskDefinition text id now) bucketStart)).isSome =
              before.db.tasks.rows.any (candidate.hasFired text) := by
          intro id
          rw [Table.find?, Bool.eq_iff_iff, List.find?_isSome, List.any_eq_true]
          refine exists_congr fun row => and_congr_right fun member => ?_
          exact isExisting_iff_hasFired spread stored inTexts printed declared member
        have isTurn : candidate.turn env now before.db before.draws =
            if before.db.tasks.rows.any (candidate.hasFired text) then []
            else [candidate.row env taskDefinition text (env.randomUUID before.draws) now] := by
          simp only [ScheduleCandidate.turn, ScheduleCandidate.isDue, declared, isText,
            Option.isSome_some, Bool.true_and]
          cases before.db.tasks.rows.any (candidate.hasFired text) <;> rfl
        have drawsAfter : candidate.drawsAfter before.draws = before.draws + 1 := by
          simp [ScheduleCandidate.drawsAfter, declared]
        rw [isTurn, drawsAfter, ← sameLookup (env.randomUUID before.draws)]
        simp only [withTaskIdempotencyKey_schedule env declared, returns_ofExcept, returns_pure,
          Service.returns_query, computes, true_and]
        constructor
        · rintro ⟨id, _, ⟨rfl, rfl⟩, bucket, _, ⟨isBucket, rfl⟩, task, _, ⟨rfl, rfl⟩, existing, _,
            ⟨rfl, rfl⟩, rfl, rfl⟩
          cases isBucket
          exact ⟨rfl, rfl⟩
        · rintro ⟨rfl, rfl⟩
          exact ⟨_, _, ⟨rfl, rfl⟩, text, _, ⟨rfl, rfl⟩, _, _, ⟨rfl, rfl⟩, _, _,
              ⟨rfl, rfl⟩, rfl, rfl⟩

end Turn

/-! ### The batch of a tick -/

/-- The tasks the candidates add to a tick's batch, from a number of draws on. -/
def scheduleBatch (env : Env) (now : Date) (db : Database) : List ScheduleCandidate →
    Nat → List Task
  | [], _ => []
  | candidate :: rest, draws =>
      candidate.turn env now db draws ++
        scheduleBatch env now db rest (candidate.drawsAfter draws)

/-- The draws after the candidates' turns. -/
def drawsAfterAll : List ScheduleCandidate → Nat → Nat
  | [], draws => draws
  | candidate :: rest, draws => drawsAfterAll rest (candidate.drawsAfter draws)

section Batch

variable {env : Env} {texts : Set String} {ticks : Set Date} {now : Date} {db : Database}

theorem drawsAfter_bounds (candidate : ScheduleCandidate) (draws : Nat) :
    draws ≤ candidate.drawsAfter draws ∧ candidate.drawsAfter draws ≤ draws + 1 := by
  unfold ScheduleCandidate.drawsAfter
  split <;> omega

/-- The loop over the candidates returns exactly when everything it computes does. -/
theorem collect_returns_iff (spread : Set.InjOn env.hashData texts)
    {candidates : List ScheduleCandidate} {before : World}
    (stored : StoredRows env texts ticks before.db)
    (textsIn : TickTextsIn env texts candidates now) {after : World} {batch : List Task} :
    (∃ due, due.flatten = batch ∧
        Returns (Action.collect candidates (tryEnqueueScheduleTask env now)) before due after) ↔
      (∀ candidate ∈ candidates, candidate.computes env now = true) ∧
        batch = scheduleBatch env now before.db candidates before.draws ∧
        after = { before with draws := drawsAfterAll candidates before.draws } := by
  induction candidates generalizing before batch with
  | nil =>
      constructor
      · rintro ⟨due, rfl, returned⟩
        obtain ⟨rfl, rfl⟩ := returns_pure.mp returned
        exact ⟨by simp, rfl, rfl⟩
      · rintro ⟨_, rfl, rfl⟩
        exact ⟨[], rfl, rfl⟩
  | cons candidate rest inductionHypothesis =>
      have headTexts : TickTextsIn env texts [candidate] now := by
        intro other member
        rw [List.mem_singleton.mp member]
        exact textsIn candidate (List.mem_cons_self ..)
      have restTexts : TickTextsIn env texts rest now :=
        fun other member => textsIn other (List.mem_cons_of_mem _ member)
      have restStored : StoredRows env texts ticks
          ({ before with draws := candidate.drawsAfter before.draws } : World).db := stored
      have turn := fun result after =>
        @tryEnqueueScheduleTask_returns_iff env texts ticks now candidate spread before stored
          headTexts result after
      constructor
      · rintro ⟨due, rfl, returned⟩
        obtain ⟨first, middle, headReturned, tail⟩ := returns_bind.mp returned
        obtain ⟨others, last, tailReturned, wraps⟩ := returns_bind.mp tail
        obtain ⟨rfl, rfl⟩ := returns_pure.mp wraps
        obtain ⟨headComputes, rfl, rfl⟩ := (turn first middle).mp headReturned
        obtain ⟨restComputes, restBatch, rfl⟩ :=
          (inductionHypothesis restStored restTexts).mp ⟨others, rfl, tailReturned⟩
        refine ⟨?_, ?_, rfl⟩
        · intro other member
          rcases List.mem_cons.mp member with rfl | later
          · exact headComputes
          · exact restComputes other later
        · rw [List.flatten_cons, restBatch]
          rfl
      · rintro ⟨computes, rfl, rfl⟩
        have headReturned := (turn _ _).mpr ⟨computes candidate (List.mem_cons_self ..), rfl, rfl⟩
        have restComputes := fun other member => computes other (List.mem_cons_of_mem _ member)
        obtain ⟨others, isBatch, tailReturned⟩ :=
          (inductionHypothesis restStored restTexts).mpr ⟨restComputes, rfl, rfl⟩
        refine ⟨_ :: others, ?_, returns_bind.mpr ⟨_, _, headReturned, returns_bind.mpr
          ⟨others, _, tailReturned, rfl⟩⟩⟩
        rw [List.flatten_cons, isBatch]
        rfl

/-- A task of the batch is the row of a due trigger, under one of the identifiers drawn. -/
theorem mem_scheduleBatch {candidates : List ScheduleCandidate} {draws : Nat} {task : Task}
    (member : task ∈ scheduleBatch env now db candidates draws) :
    ∃ candidate ∈ candidates, candidate.isDue env now db = true ∧
      ∃ taskDefinition text index, candidate.definition? = some taskDefinition ∧
        candidate.bucketText env now = .ok text ∧ draws ≤ index ∧
        index < draws + candidates.length ∧
        task = candidate.row env taskDefinition text (env.randomUUID index) now := by
  induction candidates generalizing draws with
  | nil => cases member
  | cons candidate rest inductionHypothesis =>
      have bounds := drawsAfter_bounds candidate draws
      rcases List.mem_append.mp member with own | later
      · refine ⟨candidate, List.mem_cons_self .., ?_⟩
        unfold ScheduleCandidate.turn at own
        split at own
        · rename_i taskDefinition text declared printed
          split at own
          · rename_i isDue
            refine ⟨isDue, taskDefinition, text, draws, declared, printed, le_refl _, ?_,
              List.mem_singleton.mp own⟩
            simp
          · cases own
        · cases own
      · obtain ⟨other, otherMember, isDue, taskDefinition, text, index, declared,
          printed, low, high,
          isRow⟩ := inductionHypothesis later
        refine ⟨other, List.mem_cons_of_mem _ otherMember, isDue, taskDefinition, text, index,
          declared, printed, by omega, ?_, isRow⟩
        rw [List.length_cons]
        omega

theorem turn_of_due {candidate : ScheduleCandidate} (isDue : candidate.isDue env now db = true)
    (draws : Nat) :
    ∃ taskDefinition text, candidate.definition? = some taskDefinition ∧
      candidate.bucketText env now = .ok text ∧
      candidate.drawsAfter draws = draws + 1 ∧
      candidate.turn env now db draws =
        [candidate.row env taskDefinition text (env.randomUUID draws) now] := by
  have due := isDue
  simp only [ScheduleCandidate.isDue, Bool.and_eq_true] at due
  obtain ⟨taskDefinition, declared⟩ := Option.isSome_iff_exists.mp due.1
  grind [ScheduleCandidate.drawsAfter, ScheduleCandidate.turn]

theorem turn_of_not_due {candidate : ScheduleCandidate}
    (notDue : candidate.isDue env now db = false) (draws : Nat) :
    candidate.turn env now db draws = [] := by
  unfold ScheduleCandidate.turn
  split
  · simp [notDue]
  · rfl

theorem due_in_scheduleBatch {candidates : List ScheduleCandidate} (draws : Nat)
    {candidate : ScheduleCandidate} (member : candidate ∈ candidates)
    (isDue : candidate.isDue env now db = true) :
    ∃ task ∈ scheduleBatch env now db candidates draws, ∃ index taskDefinition text,
      candidate.definition? = some taskDefinition ∧ candidate.bucketText env now = .ok text ∧
        draws ≤ index ∧ index < draws + candidates.length ∧
        task = candidate.row env taskDefinition text (env.randomUUID index) now := by
  induction candidates generalizing draws with
  | nil => cases member
  | cons head rest inductionHypothesis =>
      have bounds := drawsAfter_bounds head draws
      rcases List.mem_cons.mp member with rfl | later
      · obtain ⟨taskDefinition, text, declared, printed, _, isTurn⟩ := turn_of_due isDue draws
        refine ⟨_, List.mem_append_left _ ?_, draws, taskDefinition, text, declared, printed,
          le_refl _, by simp, rfl⟩
        rw [isTurn]
        exact List.mem_singleton.mpr rfl
      · obtain ⟨task, inRest, index, taskDefinition, text, declared, printed, low, high, isRow⟩ :=
          inductionHypothesis (head.drawsAfter draws) later
        refine ⟨task, List.mem_append_right _ inRest, index, taskDefinition, text,
            declared, printed,
          by omega, ?_, isRow⟩
        rw [List.length_cons]
        omega

/-- Two due triggers have one key exactly if they are the same trigger. -/
theorem key_eq_iff (spread : Set.InjOn env.hashData texts)
    {candidate other : ScheduleCandidate} {text otherText : String} (inTexts :
        candidate.text text ∈ texts)
    (otherIn : other.text otherText ∈ texts) (printed : candidate.bucketText env now = .ok text)
    (otherPrinted : other.bucketText env now = .ok otherText) :
    candidate.key env text = other.key env otherText ↔ candidate.sameTrigger other = true := by
  have sameTrigger : candidate.sameTrigger other = true ↔
      candidate.app.identifier = other.app.identifier ∧
        candidate.trigger.taskIdentifier = other.trigger.taskIdentifier ∧
        candidate.trigger.triggerKey = other.trigger.triggerKey ∧
        candidate.trigger.config = other.trigger.config := by
    simp [ScheduleCandidate.sameTrigger, and_assoc]
  rw [sameTrigger]
  constructor
  · intro same
    have sameKey : idempotencyKeyOf env (InvokeContext.schedule "" "" default none).kind
        candidate.app.identifier candidate.trigger.taskIdentifier
        (scheduleData text candidate.trigger.triggerKey candidate.trigger.config) =
      idempotencyKeyOf env (InvokeContext.schedule "" "" default none).kind other.app.identifier
        other.trigger.taskIdentifier (scheduleData otherText other.trigger.triggerKey
          other.trigger.config) := same
    have sameText := spread inTexts otherIn (sameKey_kind sameKey).2
    obtain ⟨sameOwner, sameIdentifier, sameData⟩ :=
      keyText_injective (isPlain_scheduleData ..) (isPlain_scheduleData ..) sameText
    grind [scheduleData_injective]
  · rintro ⟨sameOwner, sameIdentifier, sameTriggerKey, sameConfig⟩
    have sameBucket : text = otherText := by
      unfold ScheduleCandidate.bucketText at printed otherPrinted
      grind
    unfold ScheduleCandidate.key
    rw [sameOwner, sameIdentifier, sameTriggerKey, sameConfig, sameBucket]

/-- The batch is free of clashes exactly if no two due triggers are the same. -/
theorem scheduleBatch_pairwise_iff (spread : Set.InjOn env.hashData texts)
    {candidates : List ScheduleCandidate} (textsIn : TickTextsIn env texts candidates now)
    {draws : Nat}
    (idsApart : ∀ index later, draws ≤ index → index < later → later < draws + candidates.length →
      env.randomUUID index ≠ env.randomUUID later) :
    (scheduleBatch env now db candidates draws).Pairwise
        (fun left right => Task.clash left right = false) ↔
      (candidates.filter fun candidate => candidate.isDue env now db).Pairwise
        fun left right => left.sameTrigger right = false := by
  induction candidates generalizing draws with
  | nil => exact ⟨fun _ => List.Pairwise.nil, fun _ => List.Pairwise.nil⟩
  | cons candidate rest inductionHypothesis =>
      have bounds := drawsAfter_bounds candidate draws
      have restTexts : TickTextsIn env texts rest now :=
        fun other member => textsIn other (List.mem_cons_of_mem _ member)
      have restApart : ∀ index later, candidate.drawsAfter draws ≤ index → index < later →
          later < candidate.drawsAfter draws + rest.length →
            env.randomUUID index ≠ env.randomUUID later := by
        grind
      have tail := inductionHypothesis restTexts restApart
      unfold scheduleBatch
      cases isDue : candidate.isDue env now db with
      | false =>
          rw [turn_of_not_due isDue, List.nil_append, tail, List.filter_cons_of_neg
              (by simp [isDue])]
      | true =>
          obtain ⟨taskDefinition, text, declared, printed, nextDraws, isTurn⟩ :=
            turn_of_due isDue draws
          obtain ⟨bucketStart, inBucket, isText⟩ := ScheduleCandidate.bucketText_eq_ok.mp printed
          have inTexts := textsIn candidate (List.mem_cons_self ..) bucketStart text inBucket isText
          rw [isTurn, List.singleton_append, List.filter_cons_of_pos (by simp [isDue]),
            List.pairwise_cons, List.pairwise_cons, tail]
          refine and_congr_left fun _ => ?_
          -- The keys decide: the identifiers are drawn apart.
          have clash_iff : ∀ other ∈ rest, ∀ otherDefinition otherText index,
              other.bucketText env now = .ok otherText → draws < index →
                index < draws + 1 + rest.length →
              (Task.clash (candidate.row env taskDefinition text (env.randomUUID draws) now)
                  (other.row env otherDefinition otherText (env.randomUUID index) now) = false ↔
                candidate.sameTrigger other = false) := by
            intro other otherMember otherDefinition otherText index otherPrinted low high
            obtain ⟨otherStart, otherBucket, otherIsText⟩ :=
              ScheduleCandidate.bucketText_eq_ok.mp otherPrinted
            have otherIn := restTexts other otherMember otherStart otherText otherBucket otherIsText
            have apart : env.randomUUID draws ≠ env.randomUUID index := by
              grind
            have sameKey := key_eq_iff spread inTexts otherIn printed otherPrinted
            rw [← Bool.not_eq_true, ← Bool.not_eq_true, not_iff_not, ← sameKey]
            simp only [Task.clash, Bool.or_eq_true, beq_iff_eq]
            constructor
            · rintro (sameId | same)
              · exact absurd sameId apart
              · exact same
            · intro same
              exact .inr same
          constructor
          · intro apart other member
            obtain ⟨otherMember, otherDue⟩ := List.mem_filter.mp member
            obtain ⟨task, taskMember, index, otherDefinition, otherText, _, otherPrinted, low, high,
              rfl⟩ := due_in_scheduleBatch (candidate.drawsAfter draws) otherMember otherDue
            grind
          · grind [mem_scheduleBatch]

theorem scheduleBatch_fresh (spread : Set.InjOn env.hashData texts)
    (stored : StoredRows env texts ticks db) {candidates : List ScheduleCandidate}
    (textsIn : TickTextsIn env texts candidates now) {draws : Nat}
    (idsFresh : ∀ row ∈ db.tasks.rows, ∀ index, draws ≤ index →
      index < draws + candidates.length → row.id ≠ env.randomUUID index) {task row : Task}
    (member : task ∈ scheduleBatch env now db candidates draws)
    (rowMember : row ∈ db.tasks.rows) : Task.clash row task = false := by
  obtain ⟨candidate, candidateMember, isDue, taskDefinition, text, index, declared, printed, low,
    high, rfl⟩ := mem_scheduleBatch member
  obtain ⟨bucketStart, inBucket, isText⟩ := ScheduleCandidate.bucketText_eq_ok.mp printed
  have inTexts := textsIn candidate candidateMember bucketStart text inBucket isText
  have apart := idsFresh row rowMember index low high
  rw [← Bool.not_eq_true]
  simp only [Task.clash, Bool.or_eq_true, beq_iff_eq]
  rintro (sameId | sameKey)
  · exact apart sameId
  · obtain ⟨kindFirst, keyed⟩ := stored row rowMember
    obtain ⟨owner, identifier, bucket, runtimeTriggerId, bucketPrinted, isContext⟩ :=
      firedFor_of_key spread inTexts isText kindFirst keyed sameKey
    have sameBucket : text = bucket := Except.ok.inj (isText.symm.trans bucketPrinted)
    grind [ScheduleCandidate.isDue, ScheduleCandidate.hasFired_iff.mpr]

end Batch

/-! ### Ticks -/

section Tick

variable {env : Env} {texts : Set String} {ticks : Set Date} {world : World}

def tickTime (env : Env) (world : World) : Date := env.clock world.draws

def tickBatch (env : Env) (world : World) : List Task :=
  scheduleBatch env (tickTime env world) world.db (scheduleCandidates world.db) (world.draws + 1)

/-- The state in which the batch is inserted. -/
def beforeBatch (world : World) : World :=
  { world with draws := drawsAfterAll (scheduleCandidates world.db) (world.draws + 1) }

/-- A tick that fails leaves the database as it was. -/
theorem scheduleTick_throws {error : ApiError} {after : World}
    (threw : scheduleTick env world = (.error error, after)) : after.db = world.db := by
  have clocked : Returns (Service.now env) world (tickTime env world) (Service.draw world) :=
    Service.returns_now.mpr ⟨rfl, rfl⟩
  have queried : Returns (Service.query scheduleCandidates) (Service.draw world)
      (scheduleCandidates world.db) (Service.draw world) :=
    Service.returns_query.mpr ⟨rfl, rfl⟩
  rw [scheduleTick, bind_of_returns clocked, bind_of_returns queried] at threw
  have collects : Moves SameDb (Action.collect (scheduleCandidates world.db)
      (tryEnqueueScheduleTask env (tickTime env world))) :=
    (Ensures.collect _ fun candidate _ =>
      moves_tryEnqueueScheduleTask env (tickTime env world) candidate).moves
  rcases collected : Action.collect (scheduleCandidates world.db)
      (tryEnqueueScheduleTask env (tickTime env world)) (Service.draw world) with
    ⟨failure | due, middle⟩
  · have sameDb := (collects (Service.draw world)).1
    rw [bind_of_throws collected] at threw
    rw [collected] at sameDb
    cases threw
    exact sameDb
  · have sameDb := (collects.of_returns collected).1
    have returned : Returns (Action.collect (scheduleCandidates world.db)
      (tryEnqueueScheduleTask env (tickTime env world))) (Service.draw world) due
          middle := collected
    rw [bind_of_returns returned] at threw
    unfold insertScheduledTasks at threw
    split at threw
    · cases threw
    · rcases transaction_cases _ middle with ⟨value, last, _, committed⟩ | ⟨failure, rolledBack⟩
      · rw [committed] at threw
        cases threw
      · rw [rolledBack] at threw
        cases threw
        exact sameDb

def BatchAnnounced (env : Env) (world : World) : Prop :=
  ∀ inserted, Returns (Service.insertTasks (tickBatch env world)) (beforeBatch world) () inserted →
    ∃ after, Returns (Action.each (tickBatch env world) fun task =>
      emitRunnableTaskEnqueuedEvent (emitEventWithTx env) task) inserted () after

/-- A tick runs to the end exactly when everything it computes does and its batch is empty, or is
inserted and announced. -/
theorem scheduleTick_returns_iff (spread : Set.InjOn env.hashData texts)
    (stored : StoredRows env texts ticks world.db)
    (textsIn : TickTextsIn env texts (scheduleCandidates world.db) (tickTime env world))
    {after : World} :
    Returns (scheduleTick env) world () after ↔
      (∀ candidate ∈ scheduleCandidates world.db,
          candidate.computes env (tickTime env world) = true) ∧
        Returns (insertScheduledTasks env (tickBatch env world)) (beforeBatch world) () after := by
  have drawn : StoredRows env texts ticks (Service.draw world).db := stored
  have collect := fun batch after =>
    @collect_returns_iff env texts ticks (tickTime env world) spread (scheduleCandidates world.db)
      (Service.draw world) drawn textsIn after batch
  simp only [scheduleTick, returns_bind, Service.returns_now, Service.returns_query]
  constructor
  · rintro ⟨now, _, ⟨rfl, rfl⟩, candidates, _, ⟨rfl, rfl⟩, due, collected, collects, inserts⟩
    obtain ⟨computes, isBatch, rfl⟩ := (collect due.flatten collected).mp ⟨due, rfl, collects⟩
    rw [isBatch] at inserts
    exact ⟨computes, inserts⟩
  · rintro ⟨computes, inserts⟩
    obtain ⟨due, isBatch, collects⟩ := (collect (tickBatch env world) (beforeBatch world)).mpr
      ⟨computes, rfl, rfl⟩
    refine ⟨_, _, ⟨rfl, rfl⟩, _, _, ⟨rfl, rfl⟩, due, beforeBatch world, collects, ?_⟩
    rw [isBatch]
    exact inserts

def EachDueFires (env : Env) (world : World) : Prop :=
  ∀ candidate ∈ scheduleCandidates world.db,
    candidate.isDue env (tickTime env world) world.db = true →
      ∃ text, candidate.bucketText env (tickTime env world) = .ok text ∧
        ∃ task ∈ (processScheduledTaskTriggers env world).2.db.tasks.rows,
          candidate.hasFired text task = true

/-- Nothing is due; or every bucket is computed, no two due triggers are the same, and the batch is
announced. -/
def TickClear (env : Env) (world : World) : Prop :=
  (∀ candidate ∈ scheduleCandidates world.db,
      candidate.isDue env (tickTime env world) world.db = false) ∨
    ((∀ candidate ∈ scheduleCandidates world.db,
        candidate.computes env (tickTime env world) = true) ∧
      ((scheduleCandidates world.db).filter fun candidate =>
        candidate.isDue env (tickTime env world) world.db).Pairwise
          (fun left right => left.sameTrigger right = false) ∧
      BatchAnnounced env world)

/-- The identifiers the tick may draw are new and all different. -/
structure FreshIds (env : Env) (world : World) : Prop where
  apart : ∀ index later, world.draws + 1 ≤ index → index < later →
    later < world.draws + 1 + (scheduleCandidates world.db).length →
      env.randomUUID index ≠ env.randomUUID later
  unused : ∀ row ∈ world.db.tasks.rows, ∀ index, world.draws + 1 ≤ index →
    index < world.draws + 1 + (scheduleCandidates world.db).length → row.id ≠ env.randomUUID index

/-- Every due trigger fires exactly if the tick is clear. -/
theorem eachDueFires_iff (env : Env) (world : World) (texts : Set String) (ticks : Set Date)
    (stored : StoredRows env texts ticks world.db)
    (textsIn : TickTextsIn env texts (scheduleCandidates world.db) (tickTime env world))
    (spread : Set.InjOn env.hashData texts) (freshIds : FreshIds env world) :
    EachDueFires env world ↔ TickClear env world := by
  have tick := fun after => @scheduleTick_returns_iff env texts ticks world spread
      stored textsIn after
  have insert_iff : (∃ inserted, Returns (Service.insertTasks (tickBatch env world))
      (beforeBatch world) () inserted) ↔
        ((scheduleCandidates world.db).filter fun candidate =>
          candidate.isDue env (tickTime env world) world.db).Pairwise
            fun left right => left.sameTrigger right = false := by
    rw [insertTasks_returns_iff, tickBatch,
      scheduleBatch_pairwise_iff spread textsIn freshIds.apart]
    refine and_iff_left fun task member row rowMember => ?_
    exact scheduleBatch_fresh spread stored textsIn freshIds.unused member rowMember
  constructor
  · intro fires
    by_cases someDue : ∃ candidate ∈ scheduleCandidates world.db,
        candidate.isDue env (tickTime env world) world.db = true
    · obtain ⟨candidate, member, isDue⟩ := someDue
      refine .inr ?_
      obtain ⟨text, printed, task, taskMember, fired⟩ := fires candidate member isDue
      rcases outcome : scheduleTick env world with ⟨error | value, after⟩
      · -- The tick failed: the trigger would have fired before.
        have caught : (processScheduledTaskTriggers env world).2 = after := by
          rw [processScheduledTaskTriggers_eq]
          rw [Action.tryCatch, outcome]
          rfl
        rw [caught, scheduleTick_throws outcome] at taskMember
        simp only [ScheduleCandidate.isDue, printed, Bool.and_eq_true, Bool.not_eq_true',
          List.any_eq_false] at isDue
        exact absurd fired (isDue.2 task taskMember)
      · obtain ⟨computes, inserts⟩ := (tick after).mp outcome
        have notEmpty : (tickBatch env world).isEmpty = false := by
          obtain ⟨row, rowMember, _⟩ := due_in_scheduleBatch (world.draws + 1) member isDue
          rw [List.isEmpty_eq_false_iff_exists_mem]
          exact ⟨row, rowMember⟩
        rw [insertScheduledTasks, notEmpty] at inserts
        obtain ⟨_, inserted, insertion, announces⟩ :=
          returns_bind.mp (returns_transaction.mp inserts)
        refine ⟨computes, insert_iff.mp ⟨inserted, insertion⟩, ?_⟩
        intro other otherInsertion
        have same : inserted = other := by
          unfold Returns at insertion otherInsertion
          rw [insertion] at otherInsertion
          cases otherInsertion
          rfl
        rw [← same]
        exact ⟨after, announces⟩
    · refine .inl fun candidate member => ?_
      rw [← Bool.not_eq_true]
      exact fun isDue => someDue ⟨candidate, member, isDue⟩
  · rintro (noneDue | ⟨computes, distinct, announced⟩) candidate member isDue
    · rw [noneDue candidate member] at isDue
      cases isDue
    · obtain ⟨inserted, insertion⟩ := insert_iff.mpr distinct
      obtain ⟨last, announces⟩ := announced inserted insertion
      obtain ⟨row, rowMember, index, taskDefinition, text, declared, printed, _, _, rfl⟩ :=
        due_in_scheduleBatch (world.draws + 1) member isDue
      have notEmpty : (tickBatch env world).isEmpty = false := by
        rw [List.isEmpty_eq_false_iff_exists_mem]
        exact ⟨_, rowMember⟩
      have inserts : Returns (insertScheduledTasks env (tickBatch env world)) (beforeBatch world) ()
          last := by
        rw [insertScheduledTasks, notEmpty]
        exact returns_transaction.mpr (returns_bind.mpr ⟨(), inserted, insertion, announces⟩)
      have returned := processScheduledTaskTriggers_of_returns ((tick last).mpr ⟨computes, inserts⟩)
      obtain ⟨_, emitted, rows, _⟩ := insertScheduledTasks_returns inserts
      have left : (processScheduledTaskTriggers env world).2 = last := by rw [returned]
      refine ⟨text, printed, candidate.row env taskDefinition text (env.randomUUID index)
        (tickTime env world), ?_, ScheduleCandidate.hasFired_iff.mpr
        ⟨rfl, candidate.definition?_identifier declared, candidate.runtimeTriggerId, rfl⟩⟩
      rw [left, rows]
      exact List.mem_append_left _ (List.mem_append_right _ rowMember)

end Tick

theorem eachDueFires_iff_hourly :
    EachDueFires Env.sample sampleScheduleWorld ↔ TickClear Env.sample sampleScheduleWorld := by
  have stored : StoredRows Env.sample Set.univ ∅ sampleScheduleWorld.db := by
    intro row member
    cases member
  have one : (scheduleCandidates sampleScheduleWorld.db).length = 1 := rfl
  have freshIds : FreshIds Env.sample sampleScheduleWorld := by
    refine ⟨?_, ?_⟩
    · intro index later low order high
      omega
    · intro row member
      cases member
  exact eachDueFires_iff Env.sample sampleScheduleWorld Set.univ ∅ stored
    (fun _ _ _ _ _ _ => trivial) (fun _ _ _ _ same => same) freshIds

def sampleDaily : ScheduleTaskTriggerConfig :=
  { sampleSchedule with
    taskIdentifier := "notify", triggerKey := "daily", config := .interval 1 .days }

/-- The app that declares its hourly trigger twice, beside the daily one. -/
def sampleRepeatedWorld : World where
  db :=
    { apps :=
        { rows := [{ App.sample with config := { App.sample.config with
            triggers := [.schedule sampleSchedule, .schedule sampleSchedule,
              .schedule sampleDaily] } }]
          distinct := List.pairwise_singleton _ _ } }

/-- The trigger declared twice keeps the daily one from firing, too. -/
theorem repeatedTrigger_blocks :
    (∃ candidate ∈ scheduleCandidates sampleRepeatedWorld.db,
        candidate.trigger.triggerKey = "daily" ∧
        candidate.isDue Env.sample (tickTime Env.sample sampleRepeatedWorld)
          sampleRepeatedWorld.db = true) ∧
      (processScheduledTaskTriggers Env.sample sampleRepeatedWorld).2.db.tasks.rows.length = 0 ∧
      ¬ EachDueFires Env.sample sampleRepeatedWorld := by
  have someDue : (scheduleCandidates sampleRepeatedWorld.db).any (fun candidate =>
      candidate.trigger.triggerKey == "daily" &&
        candidate.isDue Env.sample (tickTime Env.sample sampleRepeatedWorld)
          sampleRepeatedWorld.db) = true := by
    decide +kernel
  have noTasks :
      (processScheduledTaskTriggers Env.sample sampleRepeatedWorld).2.db.tasks.rows.length = 0 := by
    decide +kernel
  rw [List.any_eq_true] at someDue
  obtain ⟨candidate, member, holds⟩ := someDue
  rw [Bool.and_eq_true, beq_iff_eq] at holds
  refine ⟨⟨candidate, member, holds⟩, noTasks, ?_⟩
  intro fires
  obtain ⟨text, _, task, taskMember, _⟩ := fires candidate member holds.2
  rw [List.eq_nil_of_length_eq_zero noTasks] at taskMember
  cases taskMember

end Lombok.Tasks
