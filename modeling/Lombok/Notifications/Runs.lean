import Lombok.Notifications.Batching
import Lombok.Tasks.Transitions
import Mathlib.Data.List.Nodup

/-!
Contract: which events the notification tasks reach.

No event is counted twice, in any run. No event is forgotten along the runs in
which an emission commits before its follow-up task was started and in which
the rows an execution inserts find their idempotency keys free.
-/

namespace Lombok.Notifications

open Lombok.Core Lombok.Library Lombok.Tasks Lombok.Events

/-- A notification task for the key that can still be picked up. -/
def awaits (aggregationKey : String) (task : Task) : Bool :=
  task.startedAt.isNone && decide (task.attemptCount < maxTaskAttempts) &&
    task.ownerId == coreIdentifier &&
    task.taskIdentifier == CoreTaskName.identifier .createEventNotifications &&
    task.dontStartBefore.isSome && taskAggregationKey task == some aggregationKey

def HasWaitingTask (state : NotificationState) (aggregationKey : String) : Prop :=
  ∃ task ∈ state.db.tasks.rows, awaits aggregationKey task = true

def NotificationState.executingKey (state : NotificationState) : Option String :=
  state.execution.bind fun execution => taskAggregationKey execution.task

def NotificationState.notifiedIds (state : NotificationState) : List String :=
  state.notifications.flatMap Notification.eventIds

/-- A committed event that is not handled has a waiting task, unless its key is just being
executed, and no event is notified twice. -/
structure NotificationsSound (state : NotificationState) : Prop where
  notForgotten : ∀ key, state.executingKey ≠ some key →
    ∀ event ∈ state.db.events.rows, isUnhandled key event = true → HasWaitingTask state key
  notifiedOnce : ∀ eventId, state.notifiedIds.count eventId ≤ 1

/-- No stored task clashes with the row. -/
def Unclashing (state : NotificationState) (row : Task) : Prop :=
  ∀ other ∈ state.db.tasks.rows, Task.clash other row = false

def FollowUpWaits (env : Env) (state : NotificationState) (event : Event) : Prop :=
  ∀ key ∈ event.aggregationKey,
    (state.db.tasks.find? fun task =>
      task.idempotencyKey == (followUpTask env key "" event.createdAt).idempotencyKey).any
      (awaits key) = true

/-- An emission commits before its follow-up is started, and the row an execution inserts finds
its key free. -/
def CommitsInTime (env : Env) (state : NotificationState) : NotificationInput → Prop
  | .commit eventId => ∀ emission ∈ state.emissionOf eventId, FollowUpWaits env state emission.event
  | .decide decidedAt now id requestId =>
      ∀ row ∈ state.requeued env decidedAt now id requestId, Unclashing state row
  | .flush now notificationId id =>
      ∀ key ∈ state.flushKey, Unclashing state (deliveryTask env key notificationId id now)
  | _ => True

instance (state : NotificationState) (row : Task) : Decidable (Unclashing state row) :=
  inferInstanceAs (Decidable (∀ other ∈ state.db.tasks.rows, _ = _))

instance (env : Env) (state : NotificationState) (event : Event) :
    Decidable (FollowUpWaits env state event) :=
  inferInstanceAs (Decidable (∀ key ∈ event.aggregationKey, _ = _))

instance (env : Env) (state : NotificationState) : ∀ input,
    Decidable (CommitsInTime env state input)
  | .commit eventId =>
      inferInstanceAs (Decidable (∀ emission ∈ state.emissionOf eventId, FollowUpWaits env _ _))
  | .decide decidedAt now id requestId =>
      inferInstanceAs (Decidable
        (∀ row ∈ state.requeued env decidedAt now id requestId, Unclashing state row))
  | .flush now notificationId id =>
      inferInstanceAs (Decidable
        (∀ key ∈ state.flushKey, Unclashing state (deliveryTask env key notificationId id now)))
  | .emit .. | .schedule .. | .rollback _ | .begin .. => isTrue trivial

/-! ### The decision -/

variable {env : Env} {state : NotificationState}

/-- An event with an aggregation key has its notifications enabled. -/
def IsAggregatedWell (event : Event) : Prop :=
  event.aggregationKey.isSome = true →
    (aggregationConfigOf event.emitterId event.eventIdentifier).isSome = true

theorem buildEvent_aggregatedWell (env : Env) (args : EmitEventArgs) (id : String) (now : Date) :
    IsAggregatedWell (buildEvent env args id now) := by
  intro aggregated
  replace aggregated : (aggregationKeyOf env args).isSome = true := aggregated
  show (aggregationConfigOf args.emitterIdentifier args.eventIdentifier).isSome = true
  grind [aggregationKeyOf, EmitEventArgs.isCoreEmitter, aggregationConfigOf]

theorem shouldFlushEvents_acts {emitterIdentifier eventIdentifier : String} {requeueCount : Nat}
    {first : Event} {rest : List Event} {now : Date}
    (enabled : (aggregationConfigOf emitterIdentifier eventIdentifier).isSome = true) :
    let decided := shouldFlushEvents emitterIdentifier eventIdentifier requeueCount
      (first :: rest) now
    decided.shouldFlush = true ∨ decided.requeueDelayMs.isSome = true := by
  obtain ⟨config, isConfig⟩ := Option.isSome_iff_exists.mp enabled
  simp only [shouldFlushEvents, isConfig]
  grind

/-! ### What every step keeps -/

structure Kept (state : NotificationState) : Prop extends NotificationsSound state where
  storedWell : ∀ event ∈ state.db.events.rows, IsAggregatedWell event
  openWell : ∀ emission ∈ state.emissions, IsAggregatedWell emission.event
  notifiedHandled : ∀ eventId ∈ state.notifiedIds, ∃ event ∈ state.db.events.rows,
    event.id = eventId ∧ event.aggregationHandledAt.isSome = true

theorem kept_initial (tasks : TasksTable) : Kept (.initial tasks) where
  notForgotten := nofun
  notifiedOnce := by
    intro eventId
    exact Nat.zero_le 1
  storedWell := nofun
  openWell := nofun
  notifiedHandled := nofun

theorem HasWaitingTask.mono {after : NotificationState} {key : String}
    (waits : HasWaitingTask state key)
    (grows : ∀ task ∈ state.db.tasks.rows, task ∈ after.db.tasks.rows) :
    HasWaitingTask after key := by
  obtain ⟨task, member, awaitsKey⟩ := waits
  exact ⟨task, grows task member, awaitsKey⟩

theorem mem_insertUnlessConflict {tasks : TasksTable} {row task : Task}
    (member : task ∈ tasks.rows) :
    task ∈ (NotificationState.insertUnlessConflict row tasks).rows := by
  unfold NotificationState.insertUnlessConflict
  cases inserted : tasks.insert row with
  | none => exact member
  | some after => exact (Table.mem_insert inserted).mpr (Or.inl member)

theorem Kept.emit (kept : Kept state) (args : EmitEventArgs) (id : String) (now : Date) :
    Kept (state.emit env args id now) := by
  unfold NotificationState.emit
  simp only
  split
  · refine { kept with openWell := ?_ }
    intro emission member
    rcases List.mem_append.mp member with earlier | new
    · exact kept.openWell emission earlier
    · grind [buildEvent_aggregatedWell]
  · exact kept

theorem Kept.close (kept : Kept state) (eventId : String) : Kept (state.close eventId) where
  notForgotten := kept.notForgotten
  notifiedOnce := kept.notifiedOnce
  storedWell := kept.storedWell
  openWell emission member := kept.openWell emission (List.mem_of_mem_eraseP member)
  notifiedHandled := kept.notifiedHandled

theorem openWell_of_emissionOf (kept : Kept state) {eventId : String} {emission : Emission}
    (found : state.emissionOf eventId = some emission) : IsAggregatedWell emission.event :=
  kept.openWell emission (List.mem_of_find?_eq_some found)

theorem Kept.markScheduled (kept : Kept state) {eventId : String} {emission : Emission}
    (found : state.emissionOf eventId = some emission) :
    Kept (state.markScheduled eventId emission) := by
  have closed := kept.close eventId
  refine { closed with openWell := ?_ }
  intro other member
  rcases List.mem_append.mp member with earlier | new
  · exact closed.openWell other earlier
  · grind [openWell_of_emissionOf]

theorem Kept.schedule (kept : Kept state) (eventId id : String) :
    Kept (state.schedule env eventId id) := by
  unfold NotificationState.schedule
  cases found : state.emissionOf eventId with
  | none => exact kept
  | some emission =>
      have marked := kept.markScheduled found
      cases isKey : emission.event.aggregationKey with
      | none => simpa only [isKey] using marked
      | some key =>
          simp only [isKey]
          refine { marked with notForgotten := ?_ }
          intro otherKey apart event member unhandled
          apply (marked.notForgotten otherKey apart event member unhandled).mono
          intro task stored
          exact mem_insertUnlessConflict stored

theorem hasWaitingTask_of_followUpWaits {event : Event} (waits : FollowUpWaits env state event)
    {key : String} (isKey : event.aggregationKey = some key) : HasWaitingTask state key := by
  obtain ⟨task, found, awaitsKey⟩ := (Option.any_eq_true _ _).mp (waits key isKey)
  exact ⟨task, List.mem_of_find?_eq_some found, awaitsKey⟩

theorem Kept.commit (kept : Kept state) {eventId : String}
    (waits : ∀ emission ∈ state.emissionOf eventId, FollowUpWaits env state emission.event) :
    Kept (state.commit eventId) := by
  unfold NotificationState.commit
  cases found : state.emissionOf eventId with
  | none => exact kept
  | some emission =>
      simp only
      split
      · have closed := kept.close eventId
        cases inserted : state.db.events.insert emission.event with
        | none => exact closed
        | some events =>
            refine { closed with notForgotten := ?_, storedWell := ?_, notifiedHandled := ?_ }
            · intro key apart event member unhandled
              rcases (Table.mem_insert inserted).mp member with earlier | rfl
              · exact closed.notForgotten key apart event earlier unhandled
              · simp only [isUnhandled, Bool.and_eq_true, beq_iff_eq] at unhandled
                exact hasWaitingTask_of_followUpWaits (waits emission found) unhandled.1
            · intro event member
              rcases (Table.mem_insert inserted).mp member with earlier | rfl
              · exact closed.storedWell event earlier
              · exact openWell_of_emissionOf kept found
            · intro notified member
              obtain ⟨event, stored, isHandled⟩ := closed.notifiedHandled notified member
              exact ⟨event, (Table.mem_insert inserted).mpr (Or.inl stored), isHandled⟩
      · exact kept

/-! ### Executions -/

theorem mem_securedTasks {tasks : TasksTable} {taskId : String} {startedTimestamp : Date}
    {task : Task} (member : task ∈ tasks.rows) (other : Task.hasId taskId task = false) :
    task ∈ (NotificationState.securedTasks taskId startedTimestamp tasks).rows := by
  have untouched : ∀ change : Task → Task,
      (if Task.hasId taskId task = true then change task else task) = task := by
    intro change
    rw [other]
    rfl
  apply Table.mem_update.mpr
  grind [Table.mem_update.mpr]

theorem Kept.begin (kept : Kept state) (taskId : String) (now startedTimestamp : Date) :
    Kept (state.begin taskId now startedTimestamp) := by
  unfold NotificationState.begin
  cases idle : state.execution with
  | some execution => exact kept
  | none =>
      cases found : findTask taskId state.db with
      | none => exact kept
      | some task =>
          simp only
          split
          · refine { kept with notForgotten := ?_ }
            intro key apart event member unhandled
            have free : state.executingKey ≠ some key := by
              rw [NotificationState.executingKey, idle]
              nofun
            obtain ⟨waiting, stored, awaitsKey⟩ :=
              kept.notForgotten key free event member unhandled
            refine ⟨waiting, mem_securedTasks stored ?_, awaitsKey⟩
            -- the secured task has another key
            cases same : Task.hasId taskId waiting with
            | false => rfl
            | true =>
                have isTask : waiting = task := Task.eq_of_id state.db.tasks stored
                  (List.mem_of_find?_eq_some found)
                  ((beq_iff_eq.mp same).trans (findTask_id found).symm)
                simp only [awaits, Bool.and_eq_true, beq_iff_eq] at awaitsKey
                rw [isTask] at awaitsKey
                exact absurd awaitsKey.2 apart
          · exact kept

theorem decision_of_unhandled (kept : Kept state) {execution : Execution} {key : String}
    (executing : state.execution = some execution) (undecided : execution.flushing = false)
    (isKey : taskAggregationKey execution.task = some key) {event : Event}
    (member : event ∈ state.db.events.rows) (unhandled : isUnhandled key event = true)
    (decidedAt : Date) : ∃ decided, state.decision decidedAt = some (execution.task, key, decided) ∧
      (decided.shouldFlush = true ∨ decided.requeueDelayMs.isSome = true) := by
  have inView : event ∈ getUnhandledEvents key state.db := List.mem_filter.mpr ⟨member, unhandled⟩
  rcases viewed : getUnhandledEvents key state.db with _ | ⟨first, rest⟩
  · rw [viewed] at inView
    cases inView
  · have firstInView : first ∈ getUnhandledEvents key state.db := by
      rw [viewed]
      exact List.mem_cons_self
    obtain ⟨firstStored, firstUnhandled⟩ := List.mem_filter.mp firstInView
    simp only [isUnhandled, Bool.and_eq_true, beq_iff_eq] at firstUnhandled
    have enabled := kept.storedWell first firstStored (by rw [firstUnhandled.1]; rfl)
    refine ⟨shouldFlushEvents first.emitterId first.eventIdentifier
      (taskRequeueCount execution.task) (first :: rest) decidedAt, ?_,
      shouldFlushEvents_acts enabled⟩
    simp [NotificationState.decision, executing, undecided, isKey, viewed]

/-- What a requeue inserts is a waiting task for the key being executed. -/
theorem requeued_awaits {decidedAt now : Date} {id requestId : String} {row : Task}
    (isRow : state.requeued env decidedAt now id requestId = some row) {key : String}
    (isKey : state.executingKey = some key) : awaits key row = true := by
  simp only [NotificationState.requeued, NotificationState.decision, Option.bind_eq_bind,
    Option.bind_eq_some_iff] at isRow
  obtain ⟨⟨task, rowKey, decided⟩, ⟨execution, executing, branch⟩, chosen⟩ := isRow
  split at branch
  · cases branch
  · simp only [Option.bind_eq_some_iff, Option.some.injEq, Prod.mk.injEq] at branch
    obtain ⟨_, isRowKey, _, _, rfl, rfl, rfl⟩ := branch
    rw [NotificationState.executingKey, executing, Option.bind_some, isRowKey] at isKey
    obtain rfl := Option.some.inj isKey
    split at chosen
    · cases chosen
    · simp only [Option.bind_eq_some_iff, Option.some.injEq] at chosen
      obtain ⟨delay, _, rfl⟩ := chosen
      simp [awaits, requeueTask, withKey, taskAggregationKey, Json.get?, Fields.get?,
        maxTaskAttempts]

theorem insert_of_unclashing {row : Task} (fresh : Unclashing state row) :
    ∃ tasks, state.db.tasks.insert row = some tasks := Table.insert_of_fresh fresh

theorem Kept.decide (kept : Kept state) {decidedAt now : Date} {id requestId : String}
    (fresh : ∀ row ∈ state.requeued env decidedAt now id requestId, Unclashing state row) :
    Kept (state.decide env decidedAt now id requestId) := by
  unfold NotificationState.decide
  cases executing : state.execution with
  | none => exact kept
  | some execution =>
      have isExecuting : state.executingKey = taskAggregationKey execution.task := by
        rw [NotificationState.executingKey, executing, Option.bind_some]
      simp only
      split
      · exact kept
      · rename_i undecided
        rw [Bool.not_eq_true] at undecided
        split
        · refine { kept with notForgotten := ?_ }
          intro key apart
          exact kept.notForgotten key (isExecuting ▸ apart)
        · rename_i noFlush
          rw [Bool.not_eq_true] at noFlush
          -- an unhandled event of the executing key makes the decision a requeue
          have requeues : ∀ key, state.executingKey = some key →
              ∀ event ∈ state.db.events.rows, isUnhandled key event = true →
                ∃ row, state.requeued env decidedAt now id requestId = some row := by
            intro key isKey event member unhandled
            obtain ⟨decided, isDecided, acts⟩ := decision_of_unhandled kept executing undecided
              (isExecuting.symm.trans isKey) member unhandled decidedAt
            rw [isDecided, Option.any_some] at noFlush
            rw [noFlush] at acts
            obtain ⟨delay, isDelay⟩ := Option.isSome_iff_exists.mp (acts.resolve_left (by simp))
            replace noFlush : decided.shouldFlush = false := noFlush
            simp [NotificationState.requeued, isDecided, noFlush, isDelay]
          cases isRow : state.requeued env decidedAt now id requestId with
          | none =>
              refine { kept with notForgotten := ?_ }
              intro key _ event member unhandled
              by_cases isKey : state.executingKey = some key
              · obtain ⟨row, contradiction⟩ := requeues key isKey event member unhandled
                grind
              · exact kept.notForgotten key isKey event member unhandled
          | some row =>
              obtain ⟨tasks, inserted⟩ := insert_of_unclashing (fresh row isRow)
              simp only [inserted, Option.getD_some]
              refine { kept with notForgotten := ?_ }
              intro key _ event member unhandled
              by_cases isKey : state.executingKey = some key
              · exact ⟨row, (Table.mem_insert inserted).mpr (Or.inr rfl),
                  requeued_awaits isRow isKey⟩
              · apply (kept.notForgotten key isKey event member unhandled).mono
                intro task stored
                exact (Table.mem_insert inserted).mpr (Or.inl stored)

/-! ### Flushes -/

theorem Event.eq_of_id (events : EventsTable) {left right : Event}
    (leftMember : left ∈ events.rows) (rightMember : right ∈ events.rows)
    (sameId : left.id = right.id) : left = right := by
  apply events.eq_of_clash _ leftMember rightMember (beq_iff_eq.mpr sameId)
  intro first second
  exact BEq.comm

/-- The unhandled events of a key are the ones whose identifiers a flush of it picked. -/
theorem isPicked_iff {events : EventsTable} {key : String} {event : Event}
    (member : event ∈ events.rows) :
    (((events.view (isUnhandled key)).map Event.id).contains event.id &&
        event.aggregationHandledAt.isNone) = isUnhandled key event := by
  apply Bool.eq_iff_iff.mpr
  simp only [Bool.and_eq_true, List.contains_iff_mem, List.mem_map]
  constructor
  · rintro ⟨⟨other, inView, sameId⟩, _⟩
    obtain ⟨stored, unhandled⟩ := List.mem_filter.mp inView
    rwa [Event.eq_of_id events stored member sameId] at unhandled
  · intro unhandled
    refine ⟨⟨event, List.mem_filter.mpr ⟨member, unhandled⟩, rfl⟩, ?_⟩
    grind [isUnhandled]

theorem nodup_ids (events : EventsTable) (selected : Event → Bool) :
    ((events.view selected).map Event.id).Nodup := by
  apply List.pairwise_map.mpr
  apply (events.distinct.filter selected).imp
  intro left right apart
  exact beq_eq_false_iff_ne.mp apart

theorem notified_apart (kept : Kept state) {key eventId : String}
    (notified : eventId ∈ state.notifiedIds)
    (picked : eventId ∈ (getUnhandledEvents key state.db).map Event.id) : False := by
  obtain ⟨handled, stored, sameId, isHandled⟩ := kept.notifiedHandled eventId notified
  obtain ⟨event, inView, isId⟩ := List.mem_map.mp picked
  obtain ⟨member, unhandled⟩ := List.mem_filter.mp inView
  simp only [isUnhandled, Bool.and_eq_true, Option.isNone_iff_eq_none] at unhandled
  rw [Event.eq_of_id state.db.events stored member (sameId.trans isId.symm), unhandled.2]
    at isHandled
  cases isHandled

/-- What the transaction of a flush does. -/
structure Flushes (state : NotificationState) (key : String) (now : Date)
    (after : NotificationState) : Prop where
  keepsTasks : ∀ task ∈ state.db.tasks.rows, task ∈ after.db.tasks.rows
  handles : after.db.events.rows = state.db.events.rows.map fun event =>
    if isUnhandled key event then handledRow now event else event
  notifies : after.notifiedIds =
    state.notifiedIds ++ (getUnhandledEvents key state.db).map Event.id
  keepsEmissions : after.emissions = state.emissions

/-- A flush whose delivery task finds its key free succeeds. -/
theorem flushed_returns {key notificationId id : String} {now : Date}
    (fresh : Unclashing state (deliveryTask env key notificationId id now)) :
    ∃ after, state.flushed env key now notificationId id = some after ∧
      Flushes state key now after := by
  unfold NotificationState.flushed
  rcases viewed : getUnhandledEvents key state.db with _ | ⟨firstEvent, rest⟩
  · refine ⟨state, rfl, fun _ member => member, ?_, ?_, rfl⟩
    · have untouched : ∀ event ∈ state.db.events.rows,
          (if isUnhandled key event = true then handledRow now event else event) = event := by
        intro event member
        apply if_neg
        exact List.filter_eq_nil_iff.mp viewed event member
      exact ((List.map_congr_left untouched).trans (List.map_id _)).symm
    · rw [viewed, List.map_nil, List.append_nil]
  · obtain ⟨tasks, inserted⟩ := insert_of_unclashing fresh
    have picks : ∀ event ∈ state.db.events.rows,
        (((firstEvent :: rest).map Event.id).contains event.id &&
          event.aggregationHandledAt.isNone) = isUnhandled key event := by
      intro event member
      rw [← viewed]
      exact isPicked_iff member
    have sameView : state.db.events.view (fun event =>
        ((firstEvent :: rest).map Event.id).contains event.id &&
          event.aggregationHandledAt.isNone) = firstEvent :: rest :=
      (List.filter_congr picks).trans viewed
    simp only [sameView, List.length_map, if_true, inserted, Option.map_some]
    refine ⟨_, rfl, ?_, ?_, ?_, rfl⟩
    · intro task member
      exact (Table.mem_insert inserted).mpr (Or.inl member)
    · apply List.map_congr_left
      grind
    · rw [viewed]
      simp [NotificationState.notifiedIds, buildNotification]

theorem Flushes.event_cases {key : String} {now : Date} {after : NotificationState}
    (flushes : Flushes state key now after) {event : Event}
    (member : event ∈ after.db.events.rows) : ∃ old ∈ state.db.events.rows,
      isUnhandled key old = true ∧ event = handledRow now old ∨
        isUnhandled key old = false ∧ event = old := by
  grind [flushes.handles]

theorem Flushes.reaches {key : String} {now : Date} {after : NotificationState}
    (flushes : Flushes state key now after) (kept : Kept state)
    (isKey : state.executingKey = some key) (otherKey : String) (event : Event)
    (member : event ∈ after.db.events.rows) (unhandled : isUnhandled otherKey event = true) :
    HasWaitingTask after otherKey := by
  obtain ⟨old, stored, ⟨_, rfl⟩ | ⟨notPicked, rfl⟩⟩ := flushes.event_cases member
  · simp [isUnhandled, handledRow] at unhandled
  · have apart : state.executingKey ≠ some otherKey := by
      intro same
      obtain rfl := Option.some.inj (isKey.symm.trans same)
      rw [notPicked] at unhandled
      cases unhandled
    exact (kept.notForgotten otherKey apart event stored unhandled).mono flushes.keepsTasks

theorem Flushes.kept {key : String} {now : Date} {after : NotificationState}
    (flushes : Flushes state key now after) (kept : Kept state)
    (isKey : state.executingKey = some key) : Kept after where
  notForgotten otherKey _ := flushes.reaches kept isKey otherKey
  notifiedOnce := by
    apply List.nodup_iff_count_le_one.mp
    rw [flushes.notifies]
    refine List.nodup_append.mpr ⟨List.nodup_iff_count_le_one.mpr kept.notifiedOnce,
      nodup_ids state.db.events _, ?_⟩
    grind [notified_apart]
  storedWell := by
    intro event member
    obtain ⟨old, stored, ⟨_, rfl⟩ | ⟨_, rfl⟩⟩ := flushes.event_cases member
    · exact kept.storedWell old stored
    · exact kept.storedWell event stored
  openWell := by
    rw [flushes.keepsEmissions]
    exact kept.openWell
  notifiedHandled := by
    intro eventId notified
    rw [flushes.notifies] at notified
    rw [flushes.handles]
    rcases List.mem_append.mp notified with earlier | new
    · obtain ⟨event, stored, sameId, isHandled⟩ := kept.notifiedHandled eventId earlier
      refine ⟨event, List.mem_map.mpr ⟨event, stored, if_neg ?_⟩, sameId, isHandled⟩
      simp only [isUnhandled, Bool.and_eq_true, Option.isNone_iff_eq_none]
      grind
    · obtain ⟨event, inView, sameId⟩ := List.mem_map.mp new
      obtain ⟨stored, picked⟩ := List.mem_filter.mp inView
      exact ⟨handledRow now event, List.mem_map.mpr ⟨event, stored, if_pos picked⟩, sameId, rfl⟩

theorem Kept.flush (kept : Kept state) {now : Date} {notificationId id : String}
    (fresh : ∀ key ∈ state.flushKey, Unclashing state
        (deliveryTask env key notificationId id now)) :
    Kept (state.flush env now notificationId id) := by
  unfold NotificationState.flush
  cases flushing : state.flushKey with
  | none => exact kept
  | some key =>
      have isKey : state.executingKey = some key := by
        grind [NotificationState.flushKey, Option.bind_eq_some_iff, NotificationState.executingKey]
      obtain ⟨after, returned, flushes⟩ := flushed_returns (fresh key flushing)
      simp only [returned, Option.getD_some]
      refine { flushes.kept kept isKey with notForgotten := ?_ }
      intro otherKey _
      exact flushes.reaches kept isKey otherKey

/-! ### Runs -/

theorem Kept.step (kept : Kept state) {input : NotificationInput}
    (inTime : CommitsInTime env state input) : Kept (state.step env input) := by
  cases input with
  | emit args id now => exact kept.emit args id now
  | schedule eventId id => exact kept.schedule eventId id
  | commit eventId => exact kept.commit inTime
  | rollback eventId => exact kept.close eventId
  | begin taskId now startedTimestamp => exact kept.begin taskId now startedTimestamp
  | decide => exact kept.decide inTime
  | flush => exact kept.flush inTime

/-- **No event is forgotten.** In every run whose commits come before their follow-up tasks are
started, and whose executions find the keys of the rows they insert free, every committed event is
handled or has a waiting task, and no event is notified twice. -/
theorem notificationsSound_of_commitsInTime (env : Env) (tasks : TasksTable)
    (inputs : List NotificationInput)
    (inTime : AlongRun (NotificationState.step env) (CommitsInTime env) (.initial tasks) inputs) :
    NotificationsSound (run (NotificationState.step env) (.initial tasks) inputs) :=
  (@run_invariant_of_alongRun _ _ (NotificationState.step env) Kept (CommitsInTime env)
    (fun _ _ kept => kept.step) _ (kept_initial tasks) _ inTime).toNotificationsSound

/-! ### A commit before and after its follow-up is started -/

def sampleAdded : EmitEventArgs where
  emitterIdentifier := coreIdentifier
  eventIdentifier := CoreEvent.identifier .objectAdded
  data := .obj []
  targetLocation := some { folderId := "folder", objectKey := some "clip.mp4" }

def emitted : List NotificationInput := [.emit sampleAdded "event" 0, .schedule "event" "follow-up"]

def executed : List NotificationInput :=
  [.begin "follow-up" 5500 5500, .decide 5501 5501 "requeued" "request",
    .flush 5502 "notification" "deliveries"]

theorem notificationsSound_of_commitsInTime_sample :
    NotificationsSound (run (NotificationState.step Env.sample) (.initial .empty)
      (emitted ++ .commit "event" :: executed)) :=
  notificationsSound_of_commitsInTime Env.sample .empty _ (by decide +kernel)

/-- An emission that commits after its follow-up was executed leaves an event no task is for. -/
theorem not_notificationsSound : ¬ ∀ (env : Env) (tasks : TasksTable)
    (inputs : List NotificationInput),
    NotificationsSound (run (NotificationState.step env) (.initial tasks) inputs) := by
  intro claim
  have sound := claim Env.sample .empty (emitted ++ executed ++ [.commit "event"])
  have facts : (run (NotificationState.step Env.sample) (.initial .empty)
      (emitted ++ executed ++ [.commit "event"])).executingKey = none ∧
      (∃ event ∈ (run (NotificationState.step Env.sample) (.initial .empty)
        (emitted ++ executed ++ [.commit "event"])).db.events.rows,
        isUnhandled "core:object_added:folder:" event = true) ∧
      ∀ task ∈ (run (NotificationState.step Env.sample) (.initial .empty)
        (emitted ++ executed ++ [.commit "event"])).db.tasks.rows,
        awaits "core:object_added:folder:" task = false := by
    decide +kernel
  obtain ⟨idle, ⟨event, member, unhandled⟩, noneWaits⟩ := facts
  obtain ⟨task, stored, awaitsKey⟩ :=
    sound.notForgotten "core:object_added:folder:" (by rw [idle]; simp) event member unhandled
  rw [noneWaits task stored] at awaitsKey
  cases awaitsKey

end Lombok.Notifications
