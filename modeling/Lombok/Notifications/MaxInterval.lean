import Lombok.Notifications.Batching

/-!
Contract: the maximum interval of a batch of events.

Owns the answer of `shouldFlushEvents` for any configuration, and when that
answer honours `maxIntervalSeconds`: a batch whose oldest event is that old is
flushed, and the next look at a younger one comes in time.

The quiet check comes first and answers by itself, so a stream of events inside
the debounce window keeps the age of the batch from being looked at. Does not
own the static configuration or the requeue of the task.
-/

namespace Lombok.Notifications

open Lombok.Core Lombok.Tasks Lombok.Events

/-- `shouldFlushEvents` with the configuration and an unhandled event at hand. -/
def decideFlush (config : EventNotificationAggregationConfig) (requeueCount : Nat)
    (first : Event) (rest : List Event) (now : Date) : BatchingDecision :=
  let last := lastUnhandledAt first rest
  if config.debounceSeconds = 0 then
    { shouldFlush := true }
  else if now ≤ last then
    { shouldFlush := true }
  else
    let quietForMs := now - last
    let debounceMs := config.debounceSeconds * 1000
    if quietForMs < debounceMs then
      if config.maxRequeues ≤ requeueCount then
        { shouldFlush := true }
      else
        { shouldFlush := false, requeueDelayMs := some (max 1000 (debounceMs - quietForMs)) }
    else if config.maxInterval.any fun seconds =>
        decide (seconds * 1000 ≤ now - firstUnhandledAt first rest) then
      { shouldFlush := true }
    else
      { shouldFlush := true }

/-- The time of the oldest event by which a batch is due. -/
def dueAt (maxIntervalSeconds : Int) (first : Event) (rest : List Event) : Date :=
  firstUnhandledAt first rest + maxIntervalSeconds * 1000

/-- A due batch is flushed, and one that is not flushed is looked at again before it is due. -/
structure HonoursInterval (decision : BatchingDecision) (now due : Date) : Prop where
  flushesDue : due ≤ now → decision.shouldFlush = true
  looksAgain : decision.shouldFlush = false →
    ∃ delay, decision.requeueDelayMs = some delay ∧ now < now + delay ∧ now + delay ≤ due

/-- The batch has been quiet for the debounce interval, or the clock did not move on. -/
def IsQuiet (config : EventNotificationAggregationConfig) (first : Event) (rest : List Event)
    (now : Date) : Prop :=
  now ≤ lastUnhandledAt first rest ∨
    lastUnhandledAt first rest + config.debounceSeconds * 1000 ≤ now

/-- The next look, a second from now or once the newest event is quiet, is not after the batch
is due. -/
def LooksInTime (config : EventNotificationAggregationConfig) (first : Event) (rest : List Event)
    (now due : Date) : Prop :=
  now + 1000 ≤ due ∧ lastUnhandledAt first rest + config.debounceSeconds * 1000 ≤ due

theorem quiet_iff (last now debounceMs : Int) :
    ¬ now - last < debounceMs ↔ last + debounceMs ≤ now := by
  omega

/-- The delay of a requeue ends in time. -/
theorem delay_le_iff (last now debounceMs due : Int) :
    now + max 1000 (debounceMs - (now - last)) ≤ due ↔
      now + 1000 ≤ due ∧ last + debounceMs ≤ due := by
  omega

theorem lt_add_delay (now wait : Int) : now < now + max 1000 wait := by
  omega

section Decisions

variable {config : EventNotificationAggregationConfig} {requeueCount : Nat} {first : Event}
  {rest : List Event} {now : Date}

theorem decideFlush_of_quiet (quiet : IsQuiet config first rest now) :
    (decideFlush config requeueCount first rest now).shouldFlush = true := by
  unfold decideFlush
  by_cases immediate : config.debounceSeconds = 0
  · rw [if_pos immediate]
  · rw [if_neg immediate]
    by_cases ahead : now ≤ lastUnhandledAt first rest
    · rw [if_pos ahead]
    · rw [if_neg ahead]
      rcases quiet with behind | settled
      · exact absurd behind ahead
      · rw [if_neg ((quiet_iff _ _ _).mpr settled), ite_self]

theorem decideFlush_of_requeued (exhausted : config.maxRequeues ≤ requeueCount) :
    (decideFlush config requeueCount first rest now).shouldFlush = true := by
  simp [decideFlush, exhausted]

/-- Inside the debounce window the age of the batch is not looked at. -/
theorem decideFlush_of_noisy (delayed : 0 < config.debounceSeconds)
    (noisy : ¬ IsQuiet config first rest now) (requeueable : ¬ config.maxRequeues ≤ requeueCount) :
    decideFlush config requeueCount first rest now =
      { shouldFlush := false
        requeueDelayMs := some (max 1000
          (config.debounceSeconds * 1000 - (now - lastUnhandledAt first rest))) } := by
  have notImmediate : config.debounceSeconds ≠ 0 := by omega
  have unsettled : now - lastUnhandledAt first rest < config.debounceSeconds * 1000 :=
    Decidable.not_not.mp fun settled => noisy (.inr ((quiet_iff _ _ _).mp settled))
  unfold decideFlush
  rw [if_neg notImmediate, if_neg fun behind => noisy (.inl behind), if_pos unsettled,
    if_neg requeueable]

end Decisions

theorem HonoursInterval.of_flush {decision : BatchingDecision} {now due : Date}
    (flushes : decision.shouldFlush = true) : HonoursInterval decision now due where
  flushesDue _ := flushes
  looksAgain holds := by
    rw [flushes] at holds
    cases holds

/-- The answer honours the interval exactly when it flushes without looking at the age of the
batch, or would look again before the batch is due. -/
theorem honoursInterval_iff (config : EventNotificationAggregationConfig)
    (maxIntervalSeconds : Int) (isMaximum : config.maxIntervalSeconds = some maxIntervalSeconds)
    (delayed : 0 < config.debounceSeconds)
    (ordered : config.debounceSeconds ≤ maxIntervalSeconds)
    (requeueCount : Nat) (first : Event) (rest : List Event) (now : Date) :
    HonoursInterval (decideFlush config requeueCount first rest now) now
        (dueAt maxIntervalSeconds first rest) ↔
      IsQuiet config first rest now ∨ maxIntervalSeconds + 10 ≤ requeueCount ∨
        LooksInTime config first rest now (dueAt maxIntervalSeconds first rest) := by
  have maxRequeues : config.maxRequeues = maxIntervalSeconds + 10 := by
    have set : (maxIntervalSeconds != 0) = true := bne_iff_ne.mpr (by omega)
    unfold EventNotificationAggregationConfig.maxRequeues
      EventNotificationAggregationConfig.maxInterval
    rw [isMaximum, Option.filter_some, if_pos set]
  rw [← maxRequeues]
  by_cases quiet : IsQuiet config first rest now
  · exact iff_of_true (.of_flush (decideFlush_of_quiet quiet)) (.inl quiet)
  · by_cases exhausted : config.maxRequeues ≤ requeueCount
    · exact iff_of_true (.of_flush (decideFlush_of_requeued exhausted)) (.inr (.inl exhausted))
    · rw [decideFlush_of_noisy delayed quiet exhausted]
      constructor
      · intro honours
        obtain ⟨delay, isDelay, -, inTime⟩ := honours.looksAgain rfl
        cases isDelay
        exact .inr (.inr ((delay_le_iff _ _ _ _).mp inTime))
      · intro holds
        rcases holds with isQuiet | isExhausted | inTime
        · exact absurd isQuiet quiet
        · exact absurd isExhausted exhausted
        · have checks := (delay_le_iff _ _ _ _).mpr inTime
          refine ⟨fun due => ?_, fun _ => ⟨_, rfl, lt_add_delay _ _, checks⟩⟩
          exact absurd due (Int.not_le.mpr (Int.lt_of_lt_of_le (lt_add_delay _ _) checks))

def addedAt (createdAt : Date) : Event :=
  { (default : Event) with
    emitterId := coreIdentifier
    eventIdentifier := CoreEvent.identifier .objectAdded
    createdAt := createdAt }

/-- The configuration of `object_added`. -/
def objectAddedConfig : EventNotificationAggregationConfig where
  debounceSeconds := 5
  maxIntervalSeconds := some 60

theorem honoursInterval_iff_stream :
    HonoursInterval (decideFlush objectAddedConfig 12 (addedAt 0) [addedAt 61000] 62000) 62000
        (dueAt 60 (addedAt 0) [addedAt 61000]) ↔
      IsQuiet objectAddedConfig (addedAt 0) [addedAt 61000] 62000 ∨ (60 : Int) + 10 ≤ 12 ∨
        LooksInTime objectAddedConfig (addedAt 0) [addedAt 61000] 62000
          (dueAt 60 (addedAt 0) [addedAt 61000]) :=
  honoursInterval_iff objectAddedConfig 60 rfl (by decide) (by decide) 12 (addedAt 0)
    [addedAt 61000] 62000

/-- A minute-long stream of events: the oldest is older than a minute, and the answer waits. -/
theorem not_honoursInterval : ¬ ∀ (config : EventNotificationAggregationConfig)
    (maxIntervalSeconds : Int), config.maxIntervalSeconds = some maxIntervalSeconds →
    0 < config.debounceSeconds → config.debounceSeconds ≤ maxIntervalSeconds →
    ∀ (requeueCount : Nat) (first : Event) (rest : List Event) (now : Date),
      HonoursInterval (decideFlush config requeueCount first rest now) now
        (dueAt maxIntervalSeconds first rest) := by
  intro honours
  have flushes := (honours objectAddedConfig 60 rfl (by decide) (by decide) 12 (addedAt 0)
    [addedAt 61000] 62000).flushesDue (by decide)
  revert flushes
  decide

example : shouldFlushEvents coreIdentifier (CoreEvent.identifier .objectAdded) 12
    [addedAt 0, addedAt 61000] 62000 = { shouldFlush := false, requeueDelayMs := some 4000 } := by
  decide

end Lombok.Notifications
