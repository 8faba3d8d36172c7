import Lombok.Docker.DurableTunnel
import Mathlib.Data.List.Nodup

/-!
Contract: the promise that concurrent `ensureLive` calls share.

A ticket belongs to one call, calls wait only on the promise of the in-flight
map, and a promise answers all of them at once. So calls that wait at the same
time are answered alike, in every run.

Does not own: what the answer is, and what is left on the bridge.
-/

namespace Lombok.Docker

open Lombok.Core Lombok.Library

variable {tunnel : DurableTunnel}

/-! ### One promise -/

/-- A ticket is that of one call, which is still made or has its outcome, and calls wait on the
promise of the in-flight map only. -/
structure Numbered (state : TunnelState) : Prop where
  calls : (state.calls.map Prod.fst).Nodup
  outcomes : (state.outcomes.map Prod.fst).Nodup
  apart : ∀ ticket ∈ state.calls.map Prod.fst, ticket ∉ state.outcomes.map Prod.fst
  callsBelow : ∀ ticket ∈ state.calls.map Prod.fst, ticket < state.nextTicket
  outcomesBelow : ∀ ticket ∈ state.outcomes.map Prod.fst, ticket < state.nextTicket
  promised : ∀ ticket flight, (ticket, TunnelCall.waiting flight) ∈ state.calls →
    state.inFlight.map Rebind.flight = some flight
  current : ∀ flight, state.inFlight.map Rebind.flight = some flight → flight < state.flights
  past : ∀ ticket flight answer, (ticket, TunnelOutcome.answered flight answer) ∈ state.outcomes →
    flight < state.flights ∧ state.inFlight.map Rebind.flight ≠ some flight
  alike : ∀ ticket other flight answer otherAnswer,
    (ticket, TunnelOutcome.answered flight answer) ∈ state.outcomes →
    (other, TunnelOutcome.answered flight otherAnswer) ∈ state.outcomes → answer = otherAnswer

/-- The call waits on the promise, or was answered by it. -/
def Follows (state : TunnelState) (ticket flight : Nat) : Prop :=
  (ticket, TunnelCall.waiting flight) ∈ state.calls ∨
    ∃ answer, (ticket, TunnelOutcome.answered flight answer) ∈ state.outcomes

/-- Tickets stay numbered, and no call leaves its promise. -/
structure Moved (before after : TunnelState) : Prop where
  numbered : Numbered after
  follows : ∀ ticket flight, Follows before ticket flight → Follows after ticket flight

namespace Moved

variable {state : TunnelState}

theorem trans {first second third : TunnelState} (one : Moved first second)
    (two : Moved second third) : Moved first third :=
  ⟨two.numbered, fun ticket flight follows => two.follows ticket flight
    (one.follows ticket flight follows)⟩

/-- What changes neither the calls nor the promise. -/
theorem frame (numbered : Numbered state) {after : TunnelState} (calls : after.calls = state.calls)
    (outcomes : after.outcomes = state.outcomes) (next : after.nextTicket = state.nextTicket)
    (flights : after.flights = state.flights)
    (promise : after.inFlight.map Rebind.flight = state.inFlight.map Rebind.flight) :
    Moved state after := by
  constructor
  · constructor
    · rw [calls]
      exact numbered.calls
    · rw [outcomes]
      exact numbered.outcomes
    · rw [calls, outcomes]
      exact numbered.apart
    · rw [calls, next]
      exact numbered.callsBelow
    · rw [outcomes, next]
      exact numbered.outcomesBelow
    · rw [calls, promise]
      exact numbered.promised
    · rw [promise, flights]
      exact numbered.current
    · rw [outcomes, flights, promise]
      exact numbered.past
    · rw [outcomes]
      exact numbered.alike
  · simp [Follows, calls, outcomes]

theorem refl (numbered : Numbered state) : Moved state state :=
  frame numbered rfl rfl rfl rfl rfl

theorem begin (numbered : Numbered state) {call : TunnelCall}
    (promised : ∀ flight, call = .waiting flight →
      state.inFlight.map Rebind.flight = some flight) : Moved state (state.begin call) := by
  have tickets : (state.begin call).calls.map Prod.fst =
      state.calls.map Prod.fst ++ [state.nextTicket] := by
    unfold TunnelState.begin
    rw [List.map_append, List.map_singleton]
  constructor
  · constructor
    · rw [tickets]
      apply numbered.calls.append (List.nodup_singleton _)
      rw [List.disjoint_singleton]
      intro member
      exact absurd (numbered.callsBelow _ member) (Nat.lt_irrefl _)
    · exact numbered.outcomes
    · rw [tickets]
      intro ticket member inOutcomes
      rcases List.mem_append.mp member with old | new
      · exact numbered.apart ticket old inOutcomes
      · have below := numbered.outcomesBelow ticket inOutcomes
        grind
    · rw [tickets]
      intro ticket member
      rcases List.mem_append.mp member with old | new
      · exact Nat.lt_succ_of_lt (numbered.callsBelow ticket old)
      · rw [List.mem_singleton.mp new]
        exact Nat.lt_succ_self _
    · intro ticket member
      exact Nat.lt_succ_of_lt (numbered.outcomesBelow ticket member)
    · intro ticket flight member
      rcases List.mem_append.mp member with old | new
      · exact numbered.promised ticket flight old
      · exact promised flight (Prod.mk.inj (List.mem_singleton.mp new)).2.symm
    · exact numbered.current
    · exact numbered.past
    · exact numbered.alike
  · intro ticket flight follows
    rcases follows with waits | answered
    · exact .inl (List.mem_append_left _ waits)
    · exact .inr answered

theorem joinRebind (numbered : Numbered state) : Moved state state.joinRebind.1 := by
  unfold TunnelState.joinRebind
  split
  · exact refl numbered
  · rename_i idle
    constructor
    · constructor
      · exact numbered.calls
      · exact numbered.outcomes
      · exact numbered.apart
      · exact numbered.callsBelow
      · exact numbered.outcomesBelow
      · grind [numbered.promised]
      · simp
      · intro ticket flight answer member
        have below := (numbered.past ticket flight answer member).1
        refine ⟨Nat.lt_succ_of_lt below, ?_⟩
        grind
      · exact numbered.alike
    · intro ticket flight follows
      exact follows

theorem joined (state : TunnelState) :
    state.joinRebind.1.inFlight.map Rebind.flight = some state.joinRebind.2 := by
  grind [TunnelState.joinRebind]

theorem mem_of_callOf {ticket : Nat} {call : TunnelCall}
    (found : state.callOf ticket = some call) : (ticket, call) ∈ state.calls := by
  unfold TunnelState.callOf at found
  obtain ⟨entry, isEntry, rfl⟩ := Option.map_eq_some_iff.mp found
  grind

theorem call_unique (numbered : Numbered state) {ticket : Nat} {call other : TunnelCall}
    (first : (ticket, call) ∈ state.calls) (second : (ticket, other) ∈ state.calls) :
    call = other := by
  have same := List.inj_on_of_nodup_map numbered.calls first second rfl
  exact (Prod.mk.inj same).2

theorem advance (numbered : Numbered state) {ticket : Nat} {old call : TunnelCall}
    (found : state.callOf ticket = some old) (notWaiting : ∀ flight, old ≠ .waiting flight)
    (promised : ∀ flight, call = .waiting flight →
      state.inFlight.map Rebind.flight = some flight) :
    Moved state (state.advance ticket call) := by
  have tickets : (state.advance ticket call).calls.map Prod.fst = state.calls.map Prod.fst := by
    unfold TunnelState.advance
    dsimp only
    rw [List.map_map]
    apply List.map_congr_left
    grind
  constructor
  · constructor
    · rw [tickets]
      exact numbered.calls
    · exact numbered.outcomes
    · rw [tickets]
      exact numbered.apart
    · rw [tickets]
      exact numbered.callsBelow
    · exact numbered.outcomesBelow
    · intro other flight member
      obtain ⟨entry, entryMember, changed⟩ := List.mem_map.mp member
      split at changed
      · exact promised flight (Prod.mk.inj changed).2
      · rw [changed] at entryMember
        exact numbered.promised other flight entryMember
    · exact numbered.current
    · exact numbered.past
    · exact numbered.alike
  · intro other flight follows
    rcases follows with waits | answered
    · left
      refine List.mem_map.mpr ⟨(other, .waiting flight), waits, ?_⟩
      rw [if_neg]
      intro same
      have sameTicket : other = ticket := same
      rw [sameTicket] at waits
      exact notWaiting flight (call_unique numbered (mem_of_callOf found) waits)
    · exact .inr answered

theorem finish (numbered : Numbered state) {ticket : Nat} {old : TunnelCall}
    {outcome : TunnelOutcome} (found : state.callOf ticket = some old)
    (notWaiting : ∀ flight, old ≠ .waiting flight)
    (notAnswered : ∀ flight answer, outcome ≠ .answered flight answer) :
    Moved state (state.finish ticket outcome) := by
  have member := mem_of_callOf found
  have isCall : ticket ∈ state.calls.map Prod.fst := List.mem_map_of_mem member
  have kept : ∀ other ∈ (state.finish ticket outcome).calls.map Prod.fst,
      other ∈ state.calls.map Prod.fst ∧ other ≠ ticket := by
    intro other inCalls
    obtain ⟨entry, entryMember, rfl⟩ := List.mem_map.mp inCalls
    obtain ⟨inside, different⟩ := List.mem_filter.mp entryMember
    exact ⟨List.mem_map_of_mem inside, bne_iff_ne.mp different⟩
  have recorded : ∀ other flight answer,
      (other, TunnelOutcome.answered flight answer) ∈ (state.finish ticket outcome).outcomes →
        (other, TunnelOutcome.answered flight answer) ∈ state.outcomes := by
    intro other flight answer inOutcomes
    rcases List.mem_append.mp inOutcomes with before | new
    · exact before
    · exact absurd (Prod.mk.inj (List.mem_singleton.mp new)).2.symm (notAnswered flight answer)
  have outcomeTickets : (state.finish ticket outcome).outcomes.map Prod.fst =
      state.outcomes.map Prod.fst ++ [ticket] := by
    unfold TunnelState.finish
    rw [List.map_append, List.map_singleton]
  constructor
  · constructor
    · exact numbered.calls.sublist (List.filter_sublist.map Prod.fst)
    · rw [outcomeTickets]
      apply numbered.outcomes.append (List.nodup_singleton _)
      rw [List.disjoint_singleton]
      exact numbered.apart ticket isCall
    · rw [outcomeTickets]
      intro other inCalls inOutcomes
      obtain ⟨wasCall, different⟩ := kept other inCalls
      rcases List.mem_append.mp inOutcomes with before | new
      · exact numbered.apart other wasCall before
      · exact different (List.mem_singleton.mp new)
    · intro other inCalls
      exact numbered.callsBelow other (kept other inCalls).1
    · rw [outcomeTickets]
      intro other inOutcomes
      rcases List.mem_append.mp inOutcomes with before | new
      · exact numbered.outcomesBelow other before
      · rw [List.mem_singleton.mp new]
        exact numbered.callsBelow ticket isCall
    · intro other flight inCalls
      exact numbered.promised other flight (List.mem_filter.mp inCalls).1
    · exact numbered.current
    · intro other flight answer inOutcomes
      exact numbered.past other flight answer (recorded other flight answer inOutcomes)
    · intro first second flight answer otherAnswer inFirst inSecond
      grind [numbered.alike]
  · intro other flight follows
    rcases follows with waits | ⟨answer, answered⟩
    · left
      refine List.mem_filter.mpr ⟨waits, ?_⟩
      rw [bne_iff_ne]
      intro same
      have sameTicket : other = ticket := same
      grind [call_unique]
    · exact .inr ⟨answer, List.mem_append_left _ answered⟩

theorem promiseSettled (numbered : Numbered state) : Moved state state.promiseSettled := by
  unfold TunnelState.promiseSettled
  split
  · rename_i flight answer running
    have isCurrent : state.inFlight.map Rebind.flight = some flight := by
      rw [running]
      rfl
    have answered : ∀ ticket other given,
        (ticket, TunnelOutcome.answered other given) ∈
            (state.calls.filter fun entry => entry.2 == .waiting flight).map
              (fun entry => (entry.1, TunnelOutcome.answered flight answer)) →
          (ticket, TunnelCall.waiting flight) ∈ state.calls ∧ other = flight ∧ given = answer := by
      intro ticket other given member
      obtain ⟨entry, entryMember, same⟩ := List.mem_map.mp member
      obtain ⟨inCalls, waits⟩ := List.mem_filter.mp entryMember
      obtain ⟨rfl, sameOutcome⟩ := Prod.mk.inj same
      obtain ⟨rfl, rfl⟩ := TunnelOutcome.answered.inj sameOutcome
      grind
    have tickets : ((state.calls.filter fun entry => entry.2 == .waiting flight).map
          fun entry => (entry.1, TunnelOutcome.answered flight answer)).map Prod.fst =
        (state.calls.filter fun entry => entry.2 == .waiting flight).map Prod.fst := by
      rw [List.map_map]
      rfl
    have waitingTicket : ∀ ticket,
        ticket ∈ (state.calls.filter fun entry => entry.2 == .waiting flight).map Prod.fst →
          (ticket, TunnelCall.waiting flight) ∈ state.calls := by
      intro ticket member
      obtain ⟨entry, entryMember, rfl⟩ := List.mem_map.mp member
      obtain ⟨inCalls, waits⟩ := List.mem_filter.mp entryMember
      rw [← beq_iff_eq.mp waits]
      exact inCalls
    constructor
    · constructor
      · exact numbered.calls.sublist (List.filter_sublist.map Prod.fst)
      · dsimp only
        rw [List.map_append, tickets]
        apply numbered.outcomes.append
        · exact numbered.calls.sublist (List.filter_sublist.map Prod.fst)
        · intro ticket inOutcomes waits
          exact numbered.apart ticket (List.mem_map_of_mem (waitingTicket ticket waits)) inOutcomes
      · dsimp only
        rw [List.map_append, tickets]
        intro ticket inCalls inOutcomes
        obtain ⟨entry, entryMember, rfl⟩ := List.mem_map.mp inCalls
        obtain ⟨wasCall, stays⟩ := List.mem_filter.mp entryMember
        rcases List.mem_append.mp inOutcomes with before | now
        · exact numbered.apart entry.1 (List.mem_map_of_mem wasCall) before
        · exact bne_iff_ne.mp stays (call_unique numbered wasCall (waitingTicket entry.1 now))
      · intro ticket inCalls
        obtain ⟨entry, entryMember, rfl⟩ := List.mem_map.mp inCalls
        exact numbered.callsBelow entry.1 (List.mem_map_of_mem (List.mem_filter.mp entryMember).1)
      · dsimp only
        rw [List.map_append, tickets]
        intro ticket inOutcomes
        rcases List.mem_append.mp inOutcomes with before | now
        · exact numbered.outcomesBelow ticket before
        · exact numbered.callsBelow ticket (List.mem_map_of_mem (waitingTicket ticket now))
      · intro ticket other member
        obtain ⟨wasCall, stays⟩ := List.mem_filter.mp member
        have promised := numbered.promised ticket other wasCall
        rw [isCurrent] at promised
        grind
      · intro other none
        cases none
      · intro ticket other given member
        refine ⟨?_, fun none => by cases none⟩
        rcases List.mem_append.mp member with before | now
        · exact (numbered.past ticket other given before).1
        · rw [(answered ticket other given now).2.1]
          exact numbered.current flight isCurrent
      · intro ticket second other given otherGiven inFirst inSecond
        rcases List.mem_append.mp inFirst with before | now
        · rcases List.mem_append.mp inSecond with secondBefore | secondNow
          · exact numbered.alike ticket second other given otherGiven before secondBefore
          · have past := (numbered.past ticket other given before).2
            rw [(answered second other otherGiven secondNow).2.1] at past
            exact absurd isCurrent past
        · obtain ⟨_, isFlight, isAnswer⟩ := answered ticket other given now
          rcases List.mem_append.mp inSecond with secondBefore | secondNow
          · have past := (numbered.past second other otherGiven secondBefore).2
            rw [isFlight] at past
            exact absurd isCurrent past
          · rw [isAnswer, (answered second other otherGiven secondNow).2.2]
    · intro ticket other follows
      right
      rcases follows with waits | ⟨given, before⟩
      · have promised := numbered.promised ticket other waits
        rw [isCurrent] at promised
        have same : flight = other := Option.some.inj promised
        refine ⟨answer, List.mem_append_right _
          (List.mem_map.mpr ⟨(ticket, .waiting other), ?_, by rw [same]⟩)⟩
        simp [waits, same]
      · exact ⟨given, List.mem_append_left _ before⟩
  · exact refl numbered

/-! ### The steps -/

theorem enter (numbered : Numbered state) {rebind : Rebind} (phase : RebindPhase)
    (running : state.inFlight = some rebind) : Moved state (state.enter rebind phase) :=
  frame numbered rfl rfl rfl rfl (congrArg (Option.map Rebind.flight) running).symm

theorem goOnEnsureLive (numbered : Numbered state) {ticket : Nat} {old : TunnelCall}
    (found : state.callOf ticket = some old) (notWaiting : ∀ flight, old ≠ .waiting flight) :
    Moved state (state.goOnEnsureLive ticket) := by
  have join := joinRebind numbered
  have stillFound : state.joinRebind.1.callOf ticket = some old := by
    unfold TunnelState.joinRebind
    split
    · exact found
    · exact found
  apply join.trans
  apply advance join.numbered stillFound notWaiting
  intro flight same
  rw [joined, TunnelCall.waiting.inj same]

theorem beginEnsureLive (numbered : Numbered state) : Moved state state.beginEnsureLive := by
  have join := joinRebind numbered
  apply join.trans
  apply begin join.numbered
  intro flight same
  rw [joined, TunnelCall.waiting.inj same]

theorem containerFound (numbered : Numbered state) (ticket : Nat)
    (container : Option ContainerInfo) :
    Moved state (state.containerFound tunnel ticket container) := by
  unfold TunnelState.containerFound
  split
  · rename_i input found
    split
    · exact finish numbered found (fun _ same => by cases same) (fun _ _ same => by cases same)
    · exact advance numbered found (fun _ same => by cases same) (fun _ same => by cases same)
  · exact refl numbered

theorem rowFound (numbered : Numbered state) (ticket : Nat) :
    Moved state (state.rowFound ticket) := by
  unfold TunnelState.rowFound
  split
  · rename_i input selector found
    split
    · exact advance numbered found (fun _ same => by cases same) (fun _ same => by cases same)
    · exact advance numbered found (fun _ same => by cases same) (fun _ same => by cases same)
  · exact refl numbered

theorem upserted (numbered : Numbered state) (ticket : Nat) (now : Date) :
    Moved state (state.upserted ticket now) := by
  unfold TunnelState.upserted
  split
  · rename_i input selector found
    split
    · exact finish numbered found (fun _ same => by cases same) (fun _ _ same => by cases same)
    · rename_i row isRow
      have changed := @frame state numbered { state with
        row := some { row with
          hostId := input.hostId, containerSelector := selector, label := input.label,
          command := input.command, updatedAt := now } } rfl rfl rfl rfl rfl
      exact changed.trans (goOnEnsureLive changed.numbered found fun _ same => by cases same)
  · rename_i input selector found
    split
    · exact finish numbered found (fun _ same => by cases same) (fun _ _ same => by cases same)
    · split
      · exact finish numbered found (fun _ same => by cases same) (fun _ _ same => by cases same)
      · have changed := @frame state numbered { state with
          row := some {
            hostId := input.hostId, containerSelector := selector, label := input.label,
            command := input.command, sessionId := none, status := .pending, lastError := none,
            lastBoundAt := none, createdAt := now, updatedAt := now }
          inserted := true } rfl rfl rfl rfl rfl
        exact changed.trans (goOnEnsureLive changed.numbered found fun _ same => by cases same)
  · exact refl numbered

theorem ownerChecked (numbered : Numbered state) (ticket : Nat) :
    Moved state (state.ownerChecked tunnel ticket) := by
  unfold TunnelState.ownerChecked
  split
  · rename_i scope found
    split
    · exact finish numbered found (fun _ same => by cases same) (fun _ _ same => by cases same)
    · exact goOnEnsureLive numbered found fun _ same => by cases same
  · exact refl numbered

theorem deleteChecked (numbered : Numbered state) (ticket : Nat) :
    Moved state (state.deleteChecked tunnel ticket) := by
  unfold TunnelState.deleteChecked
  split
  · rename_i scope found
    split
    · exact finish numbered found (fun _ same => by cases same) (fun _ _ same => by cases same)
    · split
      · exact advance numbered found (fun _ same => by cases same) (fun _ same => by cases same)
      · exact advance numbered found (fun _ same => by cases same) (fun _ same => by cases same)
  · exact refl numbered

theorem sessionDeleted (numbered : Numbered state) (ticket : Nat) (succeeded : Bool) :
    Moved state (state.sessionDeleted ticket succeeded) := by
  unfold TunnelState.sessionDeleted
  split
  · rename_i read sessionId found
    have changed := @frame state numbered { state with
      bridge := if succeeded then dropped state.bridge sessionId else state.bridge }
        rfl rfl rfl rfl rfl
    exact changed.trans
      (advance changed.numbered found (fun _ same => by cases same) (fun _ same => by cases same))
  · exact refl numbered

theorem rowDeleted (numbered : Numbered state) (ticket : Nat) :
    Moved state (state.rowDeleted ticket) := by
  unfold TunnelState.rowDeleted
  split
  · rename_i read found
    have changed := @frame state numbered { state with row := none } rfl rfl rfl rfl rfl
    exact changed.trans
      (finish changed.numbered found (fun _ same => by cases same) (fun _ _ same => by cases same))
  · exact refl numbered

theorem rowRead (numbered : Numbered state) : Moved state (state.rowRead tunnel) := by
  grind [TunnelState.rowRead, enter, refl]

theorem listed (numbered : Numbered state) (containers : Except String (List ContainerInfo)) :
    Moved state (state.listed containers) := by
  unfold TunnelState.listed
  split
  · grind [enter]
  · exact refl numbered

theorem lookedUp (numbered : Numbered state) (failure : Option String) :
    Moved state (state.lookedUp failure) := by
  grind [TunnelState.lookedUp, enter, refl]

theorem staleDropped (numbered : Numbered state) (succeeded : Bool) :
    Moved state (state.staleDropped succeeded) := by
  unfold TunnelState.staleDropped
  split
  · rename_i flight row sessionId container running
    exact frame numbered rfl rfl rfl rfl (congrArg (Option.map Rebind.flight) running).symm
  · exact refl numbered

theorem requestRefused (numbered : Numbered state) (message : String) :
    Moved state (state.requestRefused message) := by
  grind [TunnelState.requestRefused, enter, refl]

theorem sessionRegistered (numbered : Numbered state) (drawn : String) :
    Moved state (state.sessionRegistered drawn) := by
  unfold TunnelState.sessionRegistered
  split
  · rename_i flight row container running
    split
    · exact refl numbered
    · exact frame numbered rfl rfl rfl rfl (congrArg (Option.map Rebind.flight) running).symm
  · exact refl numbered

theorem creationAnswered (numbered : Numbered state) (failure : Option String) :
    Moved state (state.creationAnswered failure) := by
  grind [TunnelState.creationAnswered, enter, refl]

theorem patchRow (numbered : Numbered state) {rebind : Rebind} {read : TunnelRow} {now : Date}
    {change : TunnelRow → TunnelRow} {token : Option DurableToken}
    (running : state.inFlight = some rebind) :
    Moved state (state.patchRow tunnel rebind read now change token) := by
  unfold TunnelState.patchRow
  split
  · exact enter numbered _ running
  · exact frame numbered rfl rfl rfl rfl (congrArg (Option.map Rebind.flight) running).symm

theorem patched (numbered : Numbered state) (now : Date) :
    Moved state (state.patched tunnel now) := by
  grind [TunnelState.patched, patchRow, enter, refl]

end Moved

theorem numbered_newTunnel : Numbered newTunnel := by
  constructor
  · exact List.nodup_nil
  · exact List.nodup_nil
  · intro ticket member
    cases member
  · intro ticket member
    cases member
  · intro ticket member
    cases member
  · intro ticket flight member
    cases member
  · intro flight isCurrent
    cases isCurrent
  · intro ticket flight answer member
    cases member
  · intro ticket other flight answer otherAnswer member
    cases member

theorem moved_step (state : TunnelState) (input : TunnelInput) (numbered : Numbered state) :
    Moved state (tunnelStep tunnel state input) := by
  cases input with
  | create input => exact Moved.begin numbered fun _ same => by cases same
  | get scope => exact Moved.begin numbered fun _ same => by cases same
  | ensureLive => exact Moved.beginEnsureLive numbered
  | delete scope => exact Moved.begin numbered fun _ same => by cases same
  | containerFound ticket container => exact Moved.containerFound numbered ticket container
  | rowFound ticket => exact Moved.rowFound numbered ticket
  | upserted ticket now => exact Moved.upserted numbered ticket now
  | ownerChecked ticket => exact Moved.ownerChecked numbered ticket
  | deleteChecked ticket => exact Moved.deleteChecked numbered ticket
  | sessionDeleted ticket succeeded => exact Moved.sessionDeleted numbered ticket succeeded
  | rowDeleted ticket => exact Moved.rowDeleted numbered ticket
  | rowRead => exact Moved.rowRead numbered
  | listed containers => exact Moved.listed numbered containers
  | lookedUp failure => exact Moved.lookedUp numbered failure
  | staleDropped succeeded => exact Moved.staleDropped numbered succeeded
  | requestRefused message => exact Moved.requestRefused numbered message
  | sessionRegistered drawn => exact Moved.sessionRegistered numbered drawn
  | creationAnswered failure => exact Moved.creationAnswered numbered failure
  | patched now => exact Moved.patched numbered now
  | promiseSettled => exact Moved.promiseSettled numbered
  | agentReady => exact Moved.frame numbered rfl rfl rfl rfl rfl
  | sessionEnded => exact Moved.frame numbered rfl rfl rfl rfl rfl

theorem moved_run (inputs : List TunnelInput) : ∀ state, Numbered state →
    Moved state (run (tunnelStep tunnel) state inputs) := by
  induction inputs with
  | nil =>
      intro state numbered
      exact Moved.refl numbered
  | cons input rest inductionHypothesis =>
      intro state numbered
      have first := @moved_step tunnel state input numbered
      exact first.trans (inductionHypothesis _ first.numbered)

theorem numbered_run (inputs : List TunnelInput) :
    Numbered (run (tunnelStep tunnel) newTunnel inputs) :=
  (moved_run inputs newTunnel numbered_newTunnel).numbered

theorem Moved.answer {before after : TunnelState} (moved : Moved before after)
    {ticket flight other : Nat} {answer : Except ApiError DurableTunnelView}
    (waits : (ticket, .waiting flight) ∈ before.calls)
    (answered : (ticket, .answered other answer) ∈ after.outcomes) :
    (ticket, .answered flight answer) ∈ after.outcomes := by
  rcases moved.follows ticket flight (.inl waits) with stillWaits | ⟨given, isGiven⟩
  · grind [List.mem_map_of_mem, moved.numbered.apart]
  · have same := List.inj_on_of_nodup_map moved.numbered.outcomes isGiven answered rfl
    obtain ⟨_, rfl⟩ := TunnelOutcome.answered.inj (Prod.mk.inj same).2
    exact isGiven

theorem answered_alike (before after : List TunnelInput) {first second flight other : Nat}
    {answer otherAnswer : Except ApiError DurableTunnelView} {firstFlight secondFlight : Nat}
    (firstWaits : (first, .waiting flight) ∈ (run (tunnelStep tunnel) newTunnel before).calls)
    (secondWaits : (second, .waiting other) ∈ (run (tunnelStep tunnel) newTunnel before).calls)
    (firstAnswered : (first, .answered firstFlight answer) ∈
      (run (tunnelStep tunnel) newTunnel (before ++ after)).outcomes)
    (secondAnswered : (second, .answered secondFlight otherAnswer) ∈
      (run (tunnelStep tunnel) newTunnel (before ++ after)).outcomes) :
    answer = otherAnswer := by
  have numbered := @numbered_run tunnel before
  have moved := @moved_run tunnel after _ numbered
  rw [run_append] at firstAnswered secondAnswered
  have samePromise : flight = other := by
    have isCurrent := numbered.promised first flight firstWaits
    rw [numbered.promised second other secondWaits] at isCurrent
    exact (Option.some.inj isCurrent).symm
  have firstGiven := moved.answer firstWaits firstAnswered
  have secondGiven := moved.answer secondWaits secondAnswered
  grind [moved.numbered.alike]

end Lombok.Docker
