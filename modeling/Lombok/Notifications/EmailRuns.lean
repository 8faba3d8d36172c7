import Lombok.Notifications.Emails
import Lombok.Notifications.Runs

/-!
Contract: which pending deliveries an email task will still read.

A delivery that is pending has an unread email task or is in the hands of a run,
and no builder is aborted, along the runs in which the rows that are inserted
find their idempotency keys free and no sender is stopped by a missing email
configuration; a sender may also be stopped, or find its key taken, while
another email task has yet to read.
-/

namespace Lombok.Notifications

open Lombok.Core Lombok.Library Lombok.Tasks

/-! ### What is claimed -/

/-- An email task that can still be picked up. -/
def awaitsEmails (task : Task) : Bool :=
  task.startedAt.isNone && decide (task.attemptCount < maxTaskAttempts) &&
    task.ownerId == coreIdentifier && task.taskIdentifier == "send_notification_emails"

/-- An email task that has not read the pending deliveries: not picked up, or just secured. -/
def HasUnreadTask (state : EmailState) : Prop :=
  (∃ task ∈ state.tasks.rows, awaitsEmails task = true) ∨
    ∃ run ∈ state.senders, run.phase = .secured

/-- The builder wrote the delivery, and will queue an email task at its end. -/
def BuilderRun.Attends (run : BuilderRun) (key : DeliveryKey) : Prop :=
  run.hasEmailDeliveries = true ∧ run.notificationId = key.1 ∧ key.2 ∈ run.handled

/-- The sender read the delivery, or read a full batch and will queue the next task at its end. -/
def SenderRun.Attends (run : SenderRun) (key : DeliveryKey) : Prop :=
  key ∈ run.batch ∨ run.isFull = true

def InHand (state : EmailState) (key : DeliveryKey) : Prop :=
  (∃ run ∈ state.builders, run.Attends key) ∨ ∃ run ∈ state.senders, run.Attends key

/-- No builder was aborted, and every pending email delivery has an email task that has not read
the pending deliveries, unless a run has it in hand. -/
structure EmailsSound (state : EmailState) : Prop where
  noneAborted : state.aborted = []
  reached : ∀ key ∈ state.pendingKeys, HasUnreadTask state ∨ InHand state key

/-! ### The condition -/

/-- No stored task clashes with the row. -/
def KeyIsFree (tasks : TasksTable) (row : Task) : Prop :=
  ∀ other ∈ tasks.rows, Task.clash other row = false

/-- No email of the batch met a missing configuration. -/
def SenderRun.IsTried (run : SenderRun) : Prop :=
  ∀ key ∈ run.batch, key ∈ run.deliveryIds ++ run.failedDeliveryIds

/-- The step finds the key of its row free, or another email task has yet to read where it leaves
deliveries behind. -/
def EmailsInTime (env : Env) (state : EmailState) : EmailInput → Prop
  | .queueEmails taskId now id =>
      ∀ run ∈ state.builderOf taskId, run.remaining = [] → run.hasEmailDeliveries = true →
        KeyIsFree state.tasks (emailTask env id now)
  | .readPending taskId configured _ =>
      configured = true ∨ state.pendingKeys = [] ∨ HasUnreadTask (state.closeSender taskId)
  | .queueNext taskId now id =>
      ∀ run ∈ state.senderOf taskId, HasUnreadTask (state.closeSender taskId) ∨
        if run.isFull = true then KeyIsFree state.tasks (nextTask env id now) else run.IsTried
  | _ => True

/-! ### Deciding it on a run -/

instance (state : EmailState) : Decidable (HasUnreadTask state) :=
  inferInstanceAs (Decidable ((∃ task ∈ state.tasks.rows, _ = _) ∨
    ∃ run ∈ state.senders, run.phase = .secured))

instance (run : BuilderRun) (key : DeliveryKey) : Decidable (run.Attends key) :=
  inferInstanceAs (Decidable (_ = _ ∧ _ = _ ∧ key.2 ∈ run.handled))

instance (run : SenderRun) (key : DeliveryKey) : Decidable (run.Attends key) :=
  inferInstanceAs (Decidable (key ∈ run.batch ∨ _ = _))

instance (state : EmailState) (key : DeliveryKey) : Decidable (InHand state key) :=
  inferInstanceAs (Decidable ((∃ run ∈ state.builders, run.Attends key) ∨
    ∃ run ∈ state.senders, run.Attends key))

instance (tasks : TasksTable) (row : Task) : Decidable (KeyIsFree tasks row) :=
  inferInstanceAs (Decidable (∀ other ∈ tasks.rows, _ = _))

instance (run : SenderRun) : Decidable run.IsTried :=
  inferInstanceAs (Decidable (∀ key ∈ run.batch, key ∈ run.deliveryIds ++ run.failedDeliveryIds))

instance (env : Env) (state : EmailState) : ∀ input, Decidable (EmailsInTime env state input)
  | .queueEmails taskId now id =>
      inferInstanceAs (Decidable (∀ run ∈ state.builderOf taskId, run.remaining = [] →
        run.hasEmailDeliveries = true → KeyIsFree state.tasks (emailTask env id now)))
  | .readPending taskId configured _ =>
      inferInstanceAs (Decidable
        (configured = true ∨ state.pendingKeys = [] ∨ HasUnreadTask (state.closeSender taskId)))
  | .queueNext taskId now id =>
      inferInstanceAs (Decidable
        (∀ run ∈ state.senderOf taskId, HasUnreadTask (state.closeSender taskId) ∨
          if run.isFull = true then KeyIsFree state.tasks (nextTask env id now) else run.IsTried))
  | .notify .. | .beginBuild .. | .deliver .. | .beginSend .. | .sendEmails .. | .markSent ..
  | .markFailed .. => isTrue trivial

/-! ### A batch -/

section Batch

variable {outcome : DeliveryKey → SendOutcome} {batch : List DeliveryKey}

/-- What was tried belongs to the batch and met a configuration. -/
theorem of_mem_tryBatch {key : DeliveryKey}
    (tried : key ∈ (tryBatch outcome batch).1 ++ (tryBatch outcome batch).2) :
    key ∈ batch ∧ outcome key ≠ .notConfigured := by
  induction batch with
  | nil => simp [tryBatch] at tried
  | cons head rest inductionHypothesis =>
      grind [tryBatch]

end Batch

/-! ### The rows of the deliveries -/

def NotificationDelivery.isDecided (delivery : NotificationDelivery) : Bool :=
  delivery.emailStatus == some .sent || delivery.emailStatus == some .failed

theorem isPending_of_decided {delivery : NotificationDelivery}
    (decided : delivery.isDecided = true) : delivery.isPending = false := by
  unfold NotificationDelivery.isPending
  rcases Bool.or_eq_true_iff.mp decided with sent | failed
  · rw [beq_iff_eq.mp sent]
    rfl
  · rw [beq_iff_eq.mp failed]
    rfl

theorem delivery_eq_of_key (deliveries : NotificationDeliveriesTable)
    {left right : NotificationDelivery} (leftMember : left ∈ deliveries.rows)
    (rightMember : right ∈ deliveries.rows) (sameKey : left.key = right.key) : left = right := by
  apply deliveries.eq_of_clash _ leftMember rightMember (beq_iff_eq.mpr sameKey)
  intro first second
  exact BEq.comm

theorem mem_pendingKeys {state : EmailState} {key : DeliveryKey} :
    key ∈ state.pendingKeys ↔
      ∃ delivery ∈ state.deliveries.rows, delivery.isPending = true ∧ delivery.key = key := by
  simp [EmailState.pendingKeys, Table.view, and_assoc]

/-- Every row is still there, and one that was decided still is. -/
def DeliveriesGrow (before after : NotificationDeliveriesTable) : Prop :=
  ∀ delivery ∈ before.rows, ∃ later ∈ after.rows, later.key = delivery.key ∧
    (delivery.isDecided = true → later.isDecided = true)

theorem DeliveriesGrow.refl (deliveries : NotificationDeliveriesTable) :
    DeliveriesGrow deliveries deliveries :=
  fun delivery member => ⟨delivery, member, rfl, id⟩

theorem deliveriesGrow_update {deliveries : NotificationDeliveriesTable}
    {condition : NotificationDelivery → Bool}
    {change : NotificationDelivery → NotificationDelivery}
    {keeps : Keeps NotificationDelivery.clash change}
    (sameKey : ∀ delivery, (change delivery).key = delivery.key)
    (decided : ∀ delivery, delivery.isDecided = true → (change delivery).isDecided = true) :
    DeliveriesGrow deliveries (deliveries.update condition change keeps) := by
  intro delivery member
  grind [Table.mem_update.mpr]

theorem isDecided_request {options : UpsertDeliveryOptions} {delivery : NotificationDelivery}
    (decided : delivery.isDecided = true) : (delivery.request options).isDecided = true := by
  have unchanged : (delivery.request options).emailStatus = delivery.emailStatus := by
    unfold NotificationDelivery.isDecided at decided
    show coalesced options.email delivery.emailStatus = delivery.emailStatus
    grind [coalesced]
  grind [NotificationDelivery.isDecided]

theorem upsertDelivery_grows (key : DeliveryKey) (options : UpsertDeliveryOptions)
    (deliveries : NotificationDeliveriesTable) :
    DeliveriesGrow deliveries (upsertDelivery key options deliveries) := by
  unfold upsertDelivery
  dsimp only
  split
  · rename_i inserted isInserted
    intro delivery member
    exact ⟨delivery, (Table.mem_insert isInserted).mpr (Or.inl member), rfl, id⟩
  · exact deliveriesGrow_update (fun _ => rfl) fun _ => isDecided_request

theorem upsertDelivery_pending {key : DeliveryKey} {options : UpsertDeliveryOptions}
    {deliveries : NotificationDeliveriesTable} {delivery : NotificationDelivery}
    (member : delivery ∈ (upsertDelivery key options deliveries).rows)
    (pending : delivery.isPending = true) :
    (∃ old ∈ deliveries.rows, old.isPending = true ∧ old.key = delivery.key) ∨
      (delivery.key = key ∧ options.email = true) := by
  unfold upsertDelivery at member
  dsimp only at member
  split at member
  · rename_i inserted isInserted
    rcases (Table.mem_insert isInserted).mp member with earlier | rfl
    · exact Or.inl ⟨delivery, earlier, pending, rfl⟩
    · cases email : options.email with
      | true => exact Or.inr ⟨rfl, rfl⟩
      | false =>
          rw [email] at pending
          cases pending
  · obtain ⟨old, stored, isDelivery⟩ := Table.mem_update.mp member
    by_cases touched : (old.key == key) = true
    · rw [if_pos touched] at isDelivery
      subst isDelivery
      cases email : options.email with
      | true => exact Or.inr ⟨beq_iff_eq.mp touched, rfl⟩
      | false =>
          have unchanged : (old.request options).isPending = old.isPending := by
            unfold NotificationDelivery.isPending NotificationDelivery.request coalesced
            rw [email]
            rfl
          rw [unchanged] at pending
          exact Or.inl ⟨old, stored, pending, rfl⟩
    · grind

theorem markDeliveries_grows (keys : List DeliveryKey) {status : DeliveryStatus}
    (decides : status ≠ .pending) (deliveries : NotificationDeliveriesTable) :
    DeliveriesGrow deliveries (markDeliveries keys status deliveries) := by
  refine deliveriesGrow_update (fun _ => rfl) fun delivery _ => ?_
  cases status with
  | pending => exact absurd rfl decides
  | sent => rfl
  | failed => rfl

theorem markDeliveries_pending {keys : List DeliveryKey} {status : DeliveryStatus}
    (decides : status ≠ .pending) {deliveries : NotificationDeliveriesTable}
    {delivery : NotificationDelivery}
    (member : delivery ∈ (markDeliveries keys status deliveries).rows)
    (pending : delivery.isPending = true) : delivery ∈ deliveries.rows := by
  obtain ⟨old, stored, isDelivery⟩ := Table.mem_update.mp member
  by_cases touched : keys.contains old.key = true
  · rw [if_pos touched] at isDelivery
    subst isDelivery
    have isStatus : status = .pending := Option.some.inj (beq_iff_eq.mp pending)
    exact absurd isStatus decides
  · grind

theorem markDeliveries_decides {keys : List DeliveryKey} {status : DeliveryStatus}
    (decides : status ≠ .pending) {deliveries : NotificationDeliveriesTable} {key : DeliveryKey}
    (named : key ∈ keys) (known : ∃ delivery ∈ deliveries.rows, delivery.key = key) :
    ∃ delivery ∈ (markDeliveries keys status deliveries).rows, delivery.key = key ∧
      delivery.isDecided = true := by
  obtain ⟨delivery, member, rfl⟩ := known
  have touched : keys.contains delivery.key = true := List.contains_iff_mem.mpr named
  refine ⟨delivery.withEmailStatus status, ?_, rfl, ?_⟩
  · exact Table.mem_update.mpr ⟨delivery, member, if_pos touched⟩
  · cases status with
    | pending => exact absurd rfl decides
    | sent => rfl
    | failed => rfl

/-! ### What every step keeps -/

def SenderRun.marked (run : SenderRun) : List DeliveryKey :=
  match run.phase with
  | .markedSent => run.deliveryIds
  | .markedFailed => run.deliveryIds ++ run.failedDeliveryIds
  | _ => []

/-- What a sender holds are stored deliveries, and those it marked are decided. -/
structure SenderRun.Sound (deliveries : NotificationDeliveriesTable) (run : SenderRun) : Prop where
  known : ∀ key ∈ run.batch, ∃ delivery ∈ deliveries.rows, delivery.key = key
  tried : ∀ key ∈ run.deliveryIds ++ run.failedDeliveryIds, key ∈ run.batch
  decided : ∀ key ∈ run.marked, ∃ delivery ∈ deliveries.rows, delivery.key = key ∧
    delivery.isDecided = true

structure EmailsKept (state : EmailState) : Prop extends EmailsSound state where
  sendersSound : ∀ run ∈ state.senders, run.Sound state.deliveries

theorem SenderRun.Sound.grow {before after : NotificationDeliveriesTable} {run : SenderRun}
    (sound : run.Sound before) (grows : DeliveriesGrow before after) : run.Sound after where
  known := by
    intro key member
    obtain ⟨delivery, stored, rfl⟩ := sound.known key member
    obtain ⟨later, laterStored, sameKey, _⟩ := grows delivery stored
    exact ⟨later, laterStored, sameKey⟩
  tried := sound.tried
  decided := by
    intro key member
    obtain ⟨delivery, stored, rfl, isDecided⟩ := sound.decided key member
    obtain ⟨later, laterStored, sameKey, stays⟩ := grows delivery stored
    exact ⟨later, laterStored, sameKey, stays isDecided⟩

theorem emailsKept_initial (tasks : TasksTable) (notifications : List Notification) :
    EmailsKept (.initial tasks notifications) where
  noneAborted := rfl
  reached := nofun
  sendersSound := nofun

/-- An element of a list is the one a search finds, or survives its removal. -/
theorem found_or_mem_eraseP {A : Type} {items : List A} {selected : A → Bool} {item : A}
    (member : item ∈ items) : items.find? selected = some item ∨ item ∈ items.eraseP selected := by
  induction items with
  | nil => cases member
  | cons head tail inductionHypothesis =>
      grind

section Steps

variable {env : Env} {state : EmailState}

/-- A step that keeps the rows and the runs, and every task that waits. -/
theorem EmailsKept.tasks {after : EmailState} (kept : EmailsKept state)
    (sameDeliveries : after.deliveries = state.deliveries) (sameAborted : after.aborted = [])
    (buildersGrow : ∀ run ∈ state.builders, run ∈ after.builders)
    (sendersGrow : ∀ run ∈ state.senders, run ∈ after.senders)
    (newSenders : ∀ run ∈ after.senders, run.Sound state.deliveries)
    (unread : HasUnreadTask state → HasUnreadTask after) : EmailsKept after where
  noneAborted := sameAborted
  reached := by
    intro key pending
    rw [EmailState.pendingKeys, sameDeliveries] at pending
    rcases kept.reached key pending with waits | ⟨run, member, attends⟩ | ⟨run, member, attends⟩
    · exact Or.inl (unread waits)
    · exact Or.inr (Or.inl ⟨run, buildersGrow run member, attends⟩)
    · exact Or.inr (Or.inr ⟨run, sendersGrow run member, attends⟩)
  sendersSound := by
    rw [sameDeliveries]
    exact newSenders

theorem EmailsKept.notify (kept : EmailsKept state) (notification : Notification) (id : String)
    (now : Date) : EmailsKept (state.notify env notification id now) := by
  unfold EmailState.notify
  cases inserted : state.tasks.insert
      (deliveryTask env notification.aggregationKey notification.id id now) with
  | none => exact kept
  | some tasks =>
      refine kept.tasks rfl kept.noneAborted (fun _ member => member)
        (fun _ member => member) kept.sendersSound ?_
      rintro (⟨task, member, awaits⟩ | secured)
      · exact Or.inl ⟨task, (Table.mem_insert inserted).mpr (Or.inl member), awaits⟩
      · exact Or.inr secured

/-! ### Builders -/

theorem startable_spec {taskIdentifier taskId : String} {now : Date} {task : Task}
    (found : state.startable taskIdentifier taskId now = some task) :
    task ∈ state.tasks.rows ∧ task.id = taskId ∧ task.taskIdentifier = taskIdentifier := by
  obtain ⟨lookup, accepted⟩ := Option.filter_eq_some_iff.mp found
  obtain ⟨_, identifier⟩ := Bool.and_eq_true_iff.mp accepted
  have sameId : Task.hasId taskId task = true := List.find?_some lookup
  exact ⟨List.mem_of_find?_eq_some lookup, beq_iff_eq.mp sameId, beq_iff_eq.mp identifier⟩

theorem HasUnreadTask.secure {taskIdentifier taskId : String} {now : Date} {task : Task}
    (found : state.startable taskIdentifier taskId now = some task)
    (another : taskIdentifier ≠ "send_notification_emails") (startedTimestamp : Date)
    (unread : HasUnreadTask state) : HasUnreadTask (state.secure taskId startedTimestamp) := by
  obtain ⟨stored, sameId, identifier⟩ := startable_spec found
  rcases unread with ⟨waiting, member, awaits⟩ | secured
  · refine Or.inl ⟨waiting, mem_securedTasks member ?_, awaits⟩
    refine Bool.eq_false_iff.mpr fun same => another ?_
    have isTask : waiting = task := Task.eq_of_id state.tasks member stored
      ((beq_iff_eq.mp same).trans sameId.symm)
    grind [awaitsEmails]
  · exact Or.inr secured

theorem EmailsKept.beginBuild (kept : EmailsKept state) (taskId : String)
    (now startedTimestamp : Date) (relevantUserIds : List String) :
    EmailsKept (state.beginBuild taskId now startedTimestamp relevantUserIds) := by
  unfold EmailState.beginBuild
  cases found : state.startable "build_notification_deliveries" taskId now with
  | none => exact kept
  | some task =>
      have unread := HasUnreadTask.secure found (by decide) startedTimestamp
      dsimp only
      split
      · exact kept.tasks rfl kept.noneAborted (fun _ member => member) (fun _ member => member)
          kept.sendersSound unread
      · exact kept.tasks rfl kept.noneAborted (fun _ member => List.mem_append_left _ member)
          (fun _ member => member) kept.sendersSound unread

theorem builder_cases {taskId : String} {run other : BuilderRun}
    (found : state.builderOf taskId = some run) (member : other ∈ state.builders) :
    other = run ∨ other ∈ (state.closeBuilder taskId).builders := by
  rcases found_or_mem_eraseP member with isFound | stays
  · exact Or.inl (Option.some.inj (isFound.symm.trans found))
  · exact Or.inr stays

theorem EmailsKept.deliver (kept : EmailsKept state) (taskId : String)
    (settings : UpsertDeliveryOptions) : EmailsKept (state.deliver taskId settings) := by
  unfold EmailState.deliver
  cases found : state.builderOf taskId with
  | none => exact kept
  | some run =>
      dsimp only
      cases remaining : run.remaining with
      | nil => exact kept
      | cons userId rest =>
          have grows := upsertDelivery_grows (run.notificationId, userId) settings state.deliveries
          refine ⟨⟨kept.noneAborted, ?_⟩, ?_⟩
          · intro key pending
            obtain ⟨delivery, member, isPending, rfl⟩ := mem_pendingKeys.mp pending
            rcases upsertDelivery_pending member isPending with ⟨old, stored, wasPending, sameKey⟩
              | ⟨isKey, email⟩
            · have before := kept.reached _ (mem_pendingKeys.mpr ⟨old, stored, wasPending, sameKey⟩)
              rcases before with waits | ⟨other, otherMember, attends⟩ | bySender
              · exact Or.inl waits
              · rcases builder_cases found otherMember with rfl | stays
                · obtain ⟨email, sameNotification, handled⟩ := attends
                  refine Or.inr (Or.inl ⟨_, List.mem_append_right _ List.mem_cons_self, ?_⟩)
                  exact ⟨by simp [email], sameNotification, List.mem_append_left _ handled⟩
                · exact Or.inr (Or.inl ⟨other, List.mem_append_left _ stays, attends⟩)
              · exact Or.inr (Or.inr bySender)
            · refine Or.inr (Or.inl ⟨_, List.mem_append_right _ List.mem_cons_self, ?_⟩)
              exact ⟨by simp [email], by rw [isKey], by rw [isKey]; simp⟩
          · intro other otherMember
            exact (kept.sendersSound other otherMember).grow grows

theorem awaitsEmails_sendEmailsTask (env : Env) (bucketSeconds delayMs : Int) (id : String)
    (now : Date) : awaitsEmails (sendEmailsTask env bucketSeconds delayMs id now) = true := by
  unfold awaitsEmails sendEmailsTask withKey
  simp [maxTaskAttempts]

theorem EmailsKept.queueEmails (kept : EmailsKept state) {taskId : String} {now : Date}
    {id : String}
    (free : ∀ run ∈ state.builderOf taskId, run.remaining = [] → run.hasEmailDeliveries = true →
      KeyIsFree state.tasks (emailTask env id now)) :
    EmailsKept (state.queueEmails env taskId now id) := by
  unfold EmailState.queueEmails
  cases found : state.builderOf taskId with
  | none => exact kept
  | some run =>
      dsimp only
      split
      · rename_i finished
        split
        · rename_i email
          obtain ⟨tasks, inserted⟩ := Table.insert_of_fresh
            (free run found (List.isEmpty_iff.mp finished) email)
          rw [inserted]
          refine ⟨⟨kept.noneAborted, fun _ _ => Or.inl (Or.inl ?_)⟩, kept.sendersSound⟩
          exact ⟨emailTask env id now, (Table.mem_insert inserted).mpr (Or.inr rfl),
            awaitsEmails_sendEmailsTask env 5 2000 id now⟩
        · rename_i noEmail
          refine ⟨⟨kept.noneAborted, ?_⟩, kept.sendersSound⟩
          intro key pending
          rcases kept.reached key pending with waits | ⟨other, member, attends⟩ | bySender
          · exact Or.inl waits
          · rcases builder_cases found member with rfl | stays
            · exact absurd attends.1 noEmail
            · exact Or.inr (Or.inl ⟨other, stays, attends⟩)
          · exact Or.inr (Or.inr bySender)
      · exact kept

/-! ### Senders -/

theorem sender_cases {taskId : String} {run other : SenderRun}
    (found : state.senderOf taskId = some run) (member : other ∈ state.senders) :
    other = run ∨ other ∈ (state.closeSender taskId).senders := by
  rcases found_or_mem_eraseP member with isFound | stays
  · exact Or.inl (Option.some.inj (isFound.symm.trans found))
  · exact Or.inr stays

theorem sound_of_found (kept : EmailsKept state) {taskId : String} {run : SenderRun}
    (found : state.senderOf taskId = some run) : run.Sound state.deliveries :=
  kept.sendersSound run (List.mem_of_find?_eq_some found)

theorem sound_of_closed (kept : EmailsKept state) {taskId : String} {other : SenderRun}
    (member : other ∈ (state.closeSender taskId).senders) : other.Sound state.deliveries :=
  kept.sendersSound other (List.mem_of_mem_eraseP member)

theorem EmailsKept.beginSend (kept : EmailsKept state) (taskId : String)
    (now startedTimestamp : Date) : EmailsKept (state.beginSend taskId now startedTimestamp) := by
  unfold EmailState.beginSend
  cases found : state.startable "send_notification_emails" taskId now with
  | none => exact kept
  | some task =>
      refine ⟨⟨kept.noneAborted, ?_⟩, ?_⟩
      · intro key _
        exact Or.inl (Or.inr ⟨_, List.mem_append_right _ List.mem_cons_self, rfl⟩)
      · intro run member
        rcases List.mem_append.mp member with earlier | new
        · exact kept.sendersSound run earlier
        · rw [List.mem_singleton.mp new]
          exact ⟨by simp, by simp, by simp [SenderRun.marked]⟩

/-- A run that goes on to its next phase, with what it attended still attended. -/
theorem EmailsKept.advance (kept : EmailsKept state) {taskId : String} {run next : SenderRun}
    (found : state.senderOf taskId = some run) (read : run.phase ≠ .secured)
    (sameBatch : next.batch = run.batch) {deliveries : NotificationDeliveriesTable}
    (grows : DeliveriesGrow state.deliveries deliveries)
    (pending : ∀ delivery ∈ deliveries.rows, delivery.isPending = true →
      delivery ∈ state.deliveries.rows) (sound : next.Sound deliveries) :
    EmailsKept { (state.closeSender taskId).putSender next with deliveries := deliveries } := by
  refine ⟨⟨kept.noneAborted, ?_⟩, ?_⟩
  · intro key isPending
    obtain ⟨delivery, member, stillPending, sameKey⟩ := mem_pendingKeys.mp isPending
    have before := kept.reached key
      (mem_pendingKeys.mpr ⟨delivery, pending delivery member stillPending, stillPending, sameKey⟩)
    rcases before with (waits | ⟨other, member, secured⟩) | byBuilder | ⟨other, member, attends⟩
    · exact Or.inl (Or.inl waits)
    · rcases sender_cases found member with rfl | stays
      · exact absurd secured read
      · exact Or.inl (Or.inr ⟨other, List.mem_append_left _ stays, secured⟩)
    · exact Or.inr (Or.inl byBuilder)
    · rcases sender_cases found member with rfl | stays
      · refine Or.inr (Or.inr ⟨next, List.mem_append_right _ List.mem_cons_self, ?_⟩)
        unfold SenderRun.Attends SenderRun.isFull
        rw [sameBatch]
        exact attends
      · exact Or.inr (Or.inr ⟨other, List.mem_append_left _ stays, attends⟩)
  · intro other member
    rcases List.mem_append.mp member with earlier | new
    · exact (sound_of_closed kept earlier).grow grows
    · rw [List.mem_singleton.mp new]
      exact sound

theorem EmailsKept.sendEmails (kept : EmailsKept state) (taskId : String)
    (outcome : DeliveryKey → SendOutcome) : EmailsKept (state.sendEmails taskId outcome) := by
  unfold EmailState.sendEmails
  cases found : state.senderOf taskId with
  | none => exact kept
  | some run =>
      dsimp only
      split
      · rename_i phase
        refine kept.advance found (by simp [phase]) ?_ (DeliveriesGrow.refl _)
          (fun _ member _ => member) ⟨(sound_of_found kept found).known, ?_, ?_⟩
        · rfl
        · intro key tried
          exact (of_mem_tryBatch tried).1
        · nofun
      · exact kept

theorem EmailsKept.markSent (kept : EmailsKept state) (taskId : String) :
    EmailsKept (state.markSent taskId) := by
  unfold EmailState.markSent
  cases found : state.senderOf taskId with
  | none => exact kept
  | some run =>
      dsimp only
      split
      · rename_i phase
        have sound := sound_of_found kept found
        have grows := @markDeliveries_grows run.deliveryIds .sent (by decide) state.deliveries
        refine kept.advance found (by simp [phase]) ?_ grows
          (fun _ member pending => markDeliveries_pending (by decide) member pending)
          ⟨(sound.grow grows).known, sound.tried, ?_⟩
        · rfl
        · intro key marked
          exact markDeliveries_decides (by decide) marked
            (sound.known key (sound.tried key (List.mem_append_left _ marked)))
      · exact kept

theorem EmailsKept.markFailed (kept : EmailsKept state) (taskId : String) :
    EmailsKept (state.markFailed taskId) := by
  unfold EmailState.markFailed
  cases found : state.senderOf taskId with
  | none => exact kept
  | some run =>
      dsimp only
      split
      · rename_i phase
        have sound := sound_of_found kept found
        have grows := @markDeliveries_grows run.failedDeliveryIds .failed (by decide)
          state.deliveries
        refine kept.advance found (by simp [phase]) ?_ grows
          (fun _ member pending => markDeliveries_pending (by decide) member pending)
          ⟨(sound.grow grows).known, sound.tried, ?_⟩
        · rfl
        · intro key marked
          rcases List.mem_append.mp marked with sent | failed
          · exact (sound.grow grows).decided key (by simpa [SenderRun.marked, phase] using sent)
          · exact markDeliveries_decides (by decide) failed
              (sound.known key (sound.tried key (List.mem_append_right _ failed)))
      · exact kept

theorem EmailsKept.end (kept : EmailsKept state) {taskId : String} {run : SenderRun}
    (found : state.senderOf taskId = some run)
    (left : HasUnreadTask (state.closeSender taskId) ∨
      run.phase ≠ .secured ∧ ∀ key ∈ state.pendingKeys, ¬run.Attends key) :
    EmailsKept (state.closeSender taskId) := by
  refine ⟨⟨kept.noneAborted, ?_⟩, fun other member => sound_of_closed kept member⟩
  intro key pending
  rcases left with waits | ⟨read, notOwn⟩
  · exact Or.inl waits
  · rcases kept.reached key pending with (waits | ⟨other, member, secured⟩) | byBuilder |
      ⟨other, member, attends⟩
    · exact Or.inl (Or.inl waits)
    · rcases sender_cases found member with rfl | stays
      · exact absurd secured read
      · exact Or.inl (Or.inr ⟨other, stays, secured⟩)
    · exact Or.inr (Or.inl byBuilder)
    · rcases sender_cases found member with rfl | stays
      · exact absurd attends (notOwn key pending)
      · exact Or.inr (Or.inr ⟨other, stays, attends⟩)

/-- What a limited query leaves out, it leaves out of a full batch. -/
theorem mem_batch_or_full {pending : List DeliveryKey} {chosen : DeliveryKey → Bool}
    (limited : (pending.filter chosen).length = min batchSize pending.length) {key : DeliveryKey}
    (member : key ∈ pending) :
    key ∈ pending.filter chosen ∨ (pending.filter chosen).length = batchSize := by
  grind [List.filter_sublist.eq_of_length]

theorem EmailsKept.readPending (kept : EmailsKept state) {taskId : String} {configured : Bool}
    {chosen : List DeliveryKey}
    (reads : configured = true ∨ state.pendingKeys = [] ∨
      HasUnreadTask (state.closeSender taskId)) :
    EmailsKept (state.readPending taskId configured chosen) := by
  have close : state.pendingKeys = [] → EmailsKept (state.closeSender taskId) := by
    intro nothing
    refine ⟨⟨kept.noneAborted, ?_⟩, fun other member => sound_of_closed kept member⟩
    intro key pending
    have isPending : key ∈ state.pendingKeys := pending
    rw [nothing] at isPending
    cases isPending
  unfold EmailState.readPending
  cases found : state.senderOf taskId with
  | none => exact kept
  | some run =>
      dsimp only
      split
      · split
        · split
          · rename_i limited
            split
            · grind [batchSize]
            · refine ⟨⟨kept.noneAborted, ?_⟩, ?_⟩
              · intro key pending
                refine Or.inr (Or.inr ⟨_, List.mem_append_right _ List.mem_cons_self, ?_⟩)
                rcases mem_batch_or_full limited pending with inBatch | full
                · exact Or.inl inBatch
                · exact Or.inr (beq_iff_eq.mpr full)
              · intro other member
                rcases List.mem_append.mp member with earlier | new
                · exact sound_of_closed kept earlier
                · rw [List.mem_singleton.mp new]
                  refine ⟨?_, by simp, by simp [SenderRun.marked]⟩
                  intro key inBatch
                  obtain ⟨delivery, stored, _, sameKey⟩ :=
                    mem_pendingKeys.mp (List.mem_filter.mp inBatch).1
                  exact ⟨delivery, stored, sameKey⟩
          · exact kept
        · grind [kept.end]
      · exact kept

/-- A sender that was not full and tried its whole batch left none of it pending. -/
theorem not_attends_of_tried (kept : EmailsKept state) {taskId : String} {run : SenderRun}
    (found : state.senderOf taskId = some run) (marked : run.phase = .markedFailed)
    (notFull : ¬run.isFull = true) (tried : run.IsTried) {key : DeliveryKey}
    (pending : key ∈ state.pendingKeys) : ¬run.Attends key := by
  intro attends
  rcases attends with inBatch | full
  · obtain ⟨delivery, stored, isPending, rfl⟩ := mem_pendingKeys.mp pending
    have isMarked : delivery.key ∈ run.marked := by
      rw [SenderRun.marked, marked]
      exact tried _ inBatch
    obtain ⟨other, otherStored, sameKey, decided⟩ :=
      (sound_of_found kept found).decided _ isMarked
    grind [delivery_eq_of_key, isPending_of_decided]
  · exact notFull full

theorem EmailsKept.queueNext (kept : EmailsKept state) {taskId : String} {now : Date}
    {id : String}
    (queues : ∀ run ∈ state.senderOf taskId, HasUnreadTask (state.closeSender taskId) ∨
      if run.isFull = true then KeyIsFree state.tasks (nextTask env id now) else run.IsTried) :
    EmailsKept (state.queueNext env taskId now id) := by
  unfold EmailState.queueNext
  cases found : state.senderOf taskId with
  | none => exact kept
  | some run =>
      dsimp only
      split
      · rename_i marked
        have ready := queues run found
        split
        · rename_i full
          rw [if_pos full] at ready
          refine ⟨⟨kept.noneAborted, fun _ _ => Or.inl ?_⟩,
            fun other member => sound_of_closed kept member⟩
          cases inserted : state.tasks.insert (nextTask env id now) with
          | some tasks =>
              refine Or.inl ⟨nextTask env id now, (Table.mem_insert inserted).mpr (Or.inr rfl), ?_⟩
              exact awaitsEmails_sendEmailsTask env 1 1000 id now
          | none =>
              rcases ready with waits | free
              · exact waits
              · obtain ⟨tasks, isInserted⟩ := Table.insert_of_fresh free
                rw [inserted] at isInserted
                cases isInserted
        · rename_i notFull
          rw [if_neg notFull] at ready
          refine kept.end found (ready.imp_right fun tried => ⟨by simp [marked], ?_⟩)
          grind [not_attends_of_tried]
      · exact kept

/-! ### Runs -/

theorem EmailsKept.step (kept : EmailsKept state) {input : EmailInput}
    (inTime : EmailsInTime env state input) : EmailsKept (state.step env input) := by
  cases input with
  | notify notification id now => exact kept.notify notification id now
  | beginBuild taskId now startedTimestamp relevantUserIds =>
      exact kept.beginBuild taskId now startedTimestamp relevantUserIds
  | deliver taskId settings => exact kept.deliver taskId settings
  | queueEmails => exact kept.queueEmails inTime
  | beginSend taskId now startedTimestamp => exact kept.beginSend taskId now startedTimestamp
  | readPending => exact kept.readPending inTime
  | sendEmails taskId outcome => exact kept.sendEmails taskId outcome
  | markSent taskId => exact kept.markSent taskId
  | markFailed taskId => exact kept.markFailed taskId
  | queueNext => exact kept.queueNext inTime

end Steps

/-- **No pending email is left behind.** In every run of any number of builders and senders whose
steps find the keys of their rows free, or leave deliveries behind only while another email task
has yet to read, no builder is aborted and every pending email delivery has an unread email task,
or is in the hands of a run. -/
theorem emailsSound_of_inTime (env : Env) (tasks : TasksTable)
    (notifications : List Notification) (inputs : List EmailInput)
    (inTime : AlongRun (EmailState.step env) (EmailsInTime env) (.initial tasks notifications)
      inputs) :
    EmailsSound (run (EmailState.step env) (.initial tasks notifications) inputs) :=
  (@run_invariant_of_alongRun _ _ (EmailState.step env) EmailsKept (EmailsInTime env)
    (fun _ _ kept => kept.step) _ (emailsKept_initial tasks notifications) _ inTime).toEmailsSound

/-! ### Two notifications in one bucket -/

/-- A notification for the user `user`, built at the time `now`. -/
def builtAt (notificationId : String) (now : Date) (id : String) : List EmailInput :=
  let buildId := "build-" ++ notificationId
  [.notify { (default : Notification) with id := notificationId, aggregationKey := notificationId }
      buildId now,
    .beginBuild buildId now now ["user"],
    .deliver buildId { email := true, mobile := false },
    .queueEmails buildId now id]

/-- The email task is executed at the time `now`, and every email is sent. -/
def sentAt (taskId : String) (now : Date) (chosen : List DeliveryKey) : List EmailInput :=
  [.beginSend taskId now now, .readPending taskId true chosen, .sendEmails taskId fun _ => .sent,
    .markSent taskId, .markFailed taskId, .queueNext taskId now "next"]

/-- A second notification that is built one bucket later. -/
theorem emailsSound_of_inTime_apart :
    EmailsSound (run (EmailState.step Env.sample) (.initial .empty [])
      (builtAt "first" 0 "emails-1" ++ sentAt "emails-1" 2000 [("first", "user")] ++
        builtAt "second" 3000 "emails-2")) :=
  emailsSound_of_inTime Env.sample .empty [] _ (by decide +kernel)

/-- A second notification that is built in the bucket of an email task that was executed: its
builder is aborted, and its delivery stays pending without an email task. -/
theorem not_emailsSound :
    let state := run (EmailState.step Env.sample) (.initial .empty [])
      (builtAt "first" 0 "emails-1" ++ sentAt "emails-1" 2000 [("first", "user")] ++
        builtAt "second" 2500 "emails-2")
    state.aborted = ["build-second"] ∧ ("second", "user") ∈ state.pendingKeys ∧
      ¬HasUnreadTask state ∧ ¬InHand state ("second", "user") := by
  decide +kernel

end Lombok.Notifications
