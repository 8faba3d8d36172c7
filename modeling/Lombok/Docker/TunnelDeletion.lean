import Lombok.Docker.TunnelPromise
import Lombok.Tunnel.SessionManager

/-!
Contract: what is left on the bridge when a durable tunnel is deleted.

Where no step leaves a session behind, every session the bridge has under the
tunnel's public id is the row's, or the one a rebind is about to record. A
delete that falls into a rebind leaves one behind.

The session of a public id is what `SessionManager` keeps under it.
-/

namespace Lombok.Docker

open Lombok.Core Lombok.Library

variable {tunnel : DurableTunnel}

/-! ### Steps that leave no session behind -/

def RebindPhase.created : RebindPhase → Option String
  | .creating _ sessionId => some sessionId
  | .recordingCreated _ sessionId => some sessionId
  | _ => none

def RecordsBridge (state : TunnelState) : Prop :=
  ∀ session ∈ state.bridge, ∃ row ∈ state.row, row.sessionId = some session.id

instance (state : TunnelState) : Decidable (RecordsBridge state) := by
  unfold RecordsBridge
  infer_instance

/-- The step leaves no session behind: a created session finds its row, a row is dropped with the
session it had when the delete read it, a deletion on the bridge succeeds, a creation that fails
leaves nothing, and a tunnel without a running container has no session. -/
def LeavesNothing (state : TunnelState) : TunnelInput → Prop
  | .patched _ =>
      match state.inFlight.map Rebind.phase with
      | some (.recordingCreated _ _) => state.row ≠ none
      | some (.patchingUnavailable _) => state.bridge = none
      | _ => True
  | .rowDeleted ticket =>
      match state.callOf ticket, state.row with
      | some (.deletingRow read), some row => row.sessionId = read.sessionId
      | _, _ => True
  | .sessionDeleted ticket succeeded =>
      match state.callOf ticket with
      | some (.deletingSession _ sessionId) =>
          succeeded = true ∨ ∀ session ∈ state.bridge, session.id ≠ sessionId
      | _ => True
  | .creationAnswered failure => failure = none ∨ RecordsBridge state
  | _ => True

instance (state : TunnelState) (input : TunnelInput) : Decidable (LeavesNothing state input) := by
  unfold LeavesNothing
  split
  all_goals first | infer_instance | (split <;> infer_instance)

/-! ### What is accounted for -/

def CallFits (state : TunnelState) : TunnelCall → Prop
  | .deletingSession read sessionId => read.sessionId = some sessionId ∧ sessionId ∈ state.drawn
  | .deletingRow read => ∀ sessionId, read.sessionId = some sessionId →
      sessionId ∈ state.drawn ∧ ∀ session, state.bridge = some session → session.id ≠ sessionId
  | _ => True

/-- The bridge's session is the row's, or the one that is about to be recorded. -/
structure Accounted (state : TunnelState) : Prop where
  bridgeDrawn : ∀ session, state.bridge = some session → session.id ∈ state.drawn
  rowDrawn : ∀ row sessionId, state.row = some row → row.sessionId = some sessionId →
    sessionId ∈ state.drawn
  calls : ∀ entry ∈ state.calls, CallFits state entry.2
  created : ∀ rebind sessionId, state.inFlight = some rebind →
    rebind.phase.created = some sessionId → sessionId ∈ state.drawn ∧
      ∀ session, state.bridge = some session → session.id = sessionId
  held : (∀ rebind, state.inFlight = some rebind → rebind.phase.created = none) →
    RecordsBridge state

namespace Accounted

variable {state : TunnelState}

theorem newTunnel : Accounted newTunnel where
  bridgeDrawn := by
    intro session found
    cases found
  rowDrawn := by
    intro row sessionId found
    cases found
  calls := by
    intro entry member
    cases member
  created := by
    intro rebind sessionId found
    cases found
  held := by
    intro _ session found
    cases found

theorem withCalls (accounted : Accounted state) {calls : List (Nat × TunnelCall)} {next : Nat}
    {outcomes : List (Nat × TunnelOutcome)} (fit : ∀ entry ∈ calls, CallFits state entry.2) :
    Accounted { state with calls := calls, nextTicket := next, outcomes := outcomes } :=
  ⟨accounted.bridgeDrawn, accounted.rowDrawn, fit, accounted.created, accounted.held⟩

variable {rebind : Rebind} {call : TunnelCall} {row : TunnelRow} {ticket : Nat} {now : Date}

theorem begin (accounted : Accounted state) (fits : CallFits state call) :
    Accounted (state.begin call) := by
  apply accounted.withCalls
  intro entry member
  rcases List.mem_append.mp member with old | new
  · exact accounted.calls entry old
  · rw [List.mem_singleton.mp new]
    exact fits

theorem advance (accounted : Accounted state) (ticket : Nat) (fits : CallFits state call) :
    Accounted (state.advance ticket call) := by
  apply accounted.withCalls
  grind [accounted.calls]

theorem finish (accounted : Accounted state) (ticket : Nat) (outcome : TunnelOutcome) :
    Accounted (state.finish ticket outcome) := by
  apply accounted.withCalls
  intro entry member
  exact accounted.calls entry (List.mem_filter.mp member).1

/-- A rebind goes on to a phase in which it has no session, where it had none. -/
theorem enter (accounted : Accounted state) {phase : RebindPhase} (none : phase.created = none)
    (records : RecordsBridge state) :
    Accounted (state.enter rebind phase) where
  bridgeDrawn := accounted.bridgeDrawn
  rowDrawn := accounted.rowDrawn
  calls := accounted.calls
  created := by
    intro other sessionId found created
    rw [← Option.some.inj found, none] at created
    cases created
  held := fun _ => records

theorem records (accounted : Accounted state) (running : state.inFlight = some rebind)
    (none : rebind.phase.created = none) :
    RecordsBridge state := by
  grind [accounted.held]

theorem joinRebind (accounted : Accounted state) : Accounted state.joinRebind.1 := by
  unfold TunnelState.joinRebind
  split
  · exact accounted
  · rename_i idle
    have records : RecordsBridge state := by
      simp [accounted.held, idle]
    exact {
      bridgeDrawn := accounted.bridgeDrawn
      rowDrawn := accounted.rowDrawn
      calls := accounted.calls
      created := by
        intro rebind sessionId found created
        rw [← Option.some.inj found] at created
        cases created
      held := fun _ => records }

theorem goOnEnsureLive (accounted : Accounted state) (ticket : Nat) :
    Accounted (state.goOnEnsureLive ticket) :=
  accounted.joinRebind.advance ticket trivial

theorem beginEnsureLive (accounted : Accounted state) : Accounted state.beginEnsureLive :=
  accounted.joinRebind.begin trivial

/-- The row can change, as long as it keeps its session. -/
theorem withRow (accounted : Accounted state) {changed : TunnelRow} (found : state.row = some row)
    (same : changed.sessionId = row.sessionId) :
    Accounted { state with row := some changed } where
  bridgeDrawn := accounted.bridgeDrawn
  rowDrawn := by
    grind [accounted.rowDrawn]
  calls := accounted.calls
  created := accounted.created
  held := by
    intro idle session live
    obtain ⟨other, isRow, held⟩ := accounted.held idle session live
    grind

/-- The bridge can lose its session, or learn that its agent is ready. -/
theorem withBridge (accounted : Accounted state) {bridge : Option BridgeSession}
    (fewer : ∀ session, bridge = some session →
      ∃ before, state.bridge = some before ∧ before.id = session.id) :
    Accounted { state with bridge := bridge } where
  bridgeDrawn := by
    grind [accounted.bridgeDrawn]
  rowDrawn := accounted.rowDrawn
  calls := by
    intro entry member
    have fits := accounted.calls entry member
    cases call : entry.2 with
    | deletingRow read =>
        rw [call] at fits
        intro sessionId held
        refine ⟨(fits sessionId held).1, ?_⟩
        intro session live
        obtain ⟨before, wasLive, same⟩ := fewer session live
        rw [← same]
        exact (fits sessionId held).2 before wasLive
    | deletingSession read sessionId =>
        rw [call] at fits
        exact fits
    | _ => trivial
  created := by
    grind [accounted.created]
  held := by
    intro idle session live
    obtain ⟨before, wasLive, same⟩ := fewer session live
    rw [← same]
    exact accounted.held idle before wasLive

theorem dropped_fewer {bridge : Option BridgeSession} {sessionId : String} :
    ∀ session, dropped bridge sessionId = some session →
      bridge = some session ∧ session.id ≠ sessionId := by
  simp [dropped]

/-! ### The calls -/

theorem callFits (accounted : Accounted state) (found : state.callOf ticket = some call) :
    CallFits state call := by
  obtain ⟨entry, isEntry, rfl⟩ := Option.map_eq_some_iff.mp found
  exact accounted.calls entry (List.mem_of_find?_eq_some isEntry)

theorem containerFound (accounted : Accounted state) (ticket : Nat)
    (container : Option ContainerInfo) :
    Accounted (state.containerFound tunnel ticket container) := by
  unfold TunnelState.containerFound
  split
  · split
    · exact accounted.finish ticket _
    · exact accounted.advance ticket trivial
  · exact accounted

theorem rowFound (accounted : Accounted state) (ticket : Nat) :
    Accounted (state.rowFound ticket) := by
  unfold TunnelState.rowFound
  split
  · split
    · exact accounted.advance ticket trivial
    · exact accounted.advance ticket trivial
  · exact accounted

theorem inserted (accounted : Accounted state) (noRow : state.row = none)
    (noSession : row.sessionId = none) :
    Accounted { state with row := some row, inserted := true } where
  bridgeDrawn := accounted.bridgeDrawn
  rowDrawn := by
    grind
  calls := accounted.calls
  created := accounted.created
  held := by
    intro idle session live
    obtain ⟨other, isRow, _⟩ := accounted.held idle session live
    rw [noRow] at isRow
    cases isRow

theorem upserted (accounted : Accounted state) (ticket : Nat) (now : Date) :
    Accounted (state.upserted ticket now) := by
  unfold TunnelState.upserted
  split
  · split
    · exact accounted.finish ticket _
    · rename_i row found
      apply Accounted.goOnEnsureLive
      exact accounted.withRow found rfl
  · split
    · exact accounted.finish ticket _
    · rename_i noRow
      split
      · exact accounted.finish ticket _
      · exact (accounted.inserted noRow rfl).goOnEnsureLive ticket
  · exact accounted

theorem ownerChecked (accounted : Accounted state) (ticket : Nat) :
    Accounted (state.ownerChecked tunnel ticket) := by
  grind [TunnelState.ownerChecked, accounted.finish, accounted.goOnEnsureLive]

theorem row_of_requireOwned {scope : OwnerScope}
    (owned : state.requireOwned tunnel scope = .ok row) :
    state.row = some row := by
  grind [TunnelState.requireOwned]

theorem deleteChecked (accounted : Accounted state) (ticket : Nat) :
    Accounted (state.deleteChecked tunnel ticket) := by
  unfold TunnelState.deleteChecked
  split
  · split
    · exact accounted.finish ticket _
    · rename_i row owned
      have found := row_of_requireOwned owned
      split
      · rename_i sessionId held
        exact accounted.advance ticket ⟨held, accounted.rowDrawn row sessionId found held⟩
      · rename_i noSession
        apply accounted.advance ticket
        intro sessionId held
        rw [noSession] at held
        cases held
  · exact accounted

/-- The session the delete has read is on the bridge no more. -/
theorem sessionDeleted (accounted : Accounted state) {succeeded : Bool}
    (leaves : LeavesNothing state (.sessionDeleted ticket succeeded)) :
    Accounted (state.sessionDeleted ticket succeeded) := by
  unfold TunnelState.sessionDeleted
  split
  · rename_i read sessionId found
    unfold LeavesNothing at leaves
    dsimp only at leaves
    rw [found] at leaves
    obtain ⟨held, drawn⟩ := accounted.callFits found
    have gone : ∀ session, (if succeeded then dropped state.bridge sessionId else state.bridge) =
        some session → state.bridge = some session ∧ session.id ≠ sessionId := by
      intro session live
      cases succeeded with
      | true => exact dropped_fewer session live
      | false => exact ⟨live, leaves.resolve_left Bool.false_ne_true session live⟩
    have fewer := @withBridge state accounted
      (if succeeded then dropped state.bridge sessionId else state.bridge) (by
        intro session live
        exact ⟨session, (gone session live).1, rfl⟩)
    apply fewer.advance ticket
    intro other isOther
    grind
  · exact accounted

/-- The row goes with the session its delete has read, which the bridge has no more. -/
theorem rowDeleted (accounted : Accounted state)
    (leaves : LeavesNothing state (.rowDeleted ticket)) :
    Accounted (state.rowDeleted ticket) := by
  unfold TunnelState.rowDeleted
  split
  · rename_i read found
    have fits := accounted.callFits found
    apply Accounted.finish
    exact {
      bridgeDrawn := accounted.bridgeDrawn
      rowDrawn := nofun
      calls := accounted.calls
      created := accounted.created
      held := by
        intro idle session live
        obtain ⟨row, isRow, held⟩ := accounted.held idle session live
        unfold LeavesNothing at leaves
        dsimp only at leaves
        rw [found, isRow] at leaves
        rw [show row.sessionId = read.sessionId from leaves] at held
        exact absurd rfl ((fits session.id held).2 session live) }
  · exact accounted

/-! ### The rebind -/

theorem rowRead (accounted : Accounted state) : Accounted (state.rowRead tunnel) := by
  unfold TunnelState.rowRead
  split
  · rename_i flight running
    have records := accounted.records running rfl
    split
    · exact accounted.enter rfl records
    · exact accounted.enter rfl records
  · exact accounted

theorem listed (accounted : Accounted state) (containers : Except String (List ContainerInfo)) :
    Accounted (state.listed containers) := by
  unfold TunnelState.listed
  split
  · rename_i flight row running
    have records := accounted.records running rfl
    split
    · exact accounted.enter rfl records
    · split
      · exact accounted.enter rfl records
      · split
        · exact accounted.enter rfl records
        · exact accounted.enter rfl records
  · exact accounted

theorem lookedUp (accounted : Accounted state) (failure : Option String) :
    Accounted (state.lookedUp failure) := by
  unfold TunnelState.lookedUp
  split
  · rename_i flight row sessionId container running
    have records := accounted.records running rfl
    split
    · exact accounted.enter rfl records
    · split
      · exact accounted.enter rfl records
      · split
        · exact accounted.enter rfl records
        · exact accounted.enter rfl records
  · exact accounted

theorem staleDropped (accounted : Accounted state) (succeeded : Bool) :
    Accounted (state.staleDropped succeeded) := by
  unfold TunnelState.staleDropped
  split
  · rename_i flight row sessionId container running
    have fewer : Accounted { state with
        bridge := if succeeded then dropped state.bridge sessionId else state.bridge } := by
      grind [dropped_fewer, accounted.withBridge]
    exact fewer.enter rfl (fewer.records running rfl)
  · exact accounted

theorem requestRefused (accounted : Accounted state) (message : String) :
    Accounted (state.requestRefused message) := by
  unfold TunnelState.requestRefused
  split
  · rename_i flight row container running
    exact accounted.enter rfl (accounted.records running rfl)
  · exact accounted

/-- The bridge's session is the one it had, or has an id that nobody knows. -/
theorem sessionRegistered (accounted : Accounted state) (drawn : String) :
    Accounted (state.sessionRegistered drawn) := by
  unfold TunnelState.sessionRegistered
  split
  · rename_i flight row container running
    split
    · exact accounted
    · rename_i fresh
      have known : (registered state.bridge container.id drawn).id ∈ drawn :: state.drawn := by
        cases live : state.bridge with
        | none => exact List.mem_cons_self
        | some session => exact List.mem_cons_of_mem _ (accounted.bridgeDrawn session live)
      exact {
        bridgeDrawn := by
          intro session live
          rw [← Option.some.inj live]
          exact known
        rowDrawn := by
          intro other sessionId isRow held
          exact List.mem_cons_of_mem _ (accounted.rowDrawn other sessionId isRow held)
        calls := by
          intro entry member
          have fits := accounted.calls entry member
          cases call : entry.2 with
          | deletingSession read sessionId =>
              rw [call] at fits
              exact ⟨fits.1, List.mem_cons_of_mem _ fits.2⟩
          | deletingRow read =>
              rw [call] at fits
              intro sessionId held
              obtain ⟨wasDrawn, other⟩ := fits sessionId held
              refine ⟨List.mem_cons_of_mem _ wasDrawn, ?_⟩
              intro session live
              rw [← Option.some.inj live]
              cases before : state.bridge with
              | none =>
                  intro same
                  rw [← same] at wasDrawn
                  exact fresh wasDrawn
              | some session => exact other session before
          | _ => trivial
        created := by
          intro rebind sessionId found created
          rw [← Option.some.inj found] at created
          rw [← Option.some.inj created]
          refine ⟨known, ?_⟩
          intro session live
          rw [← Option.some.inj live]
        held := by
          intro idle
          cases idle _ rfl }
  · exact accounted

theorem creationAnswered (accounted : Accounted state) {failure : Option String}
    (leaves : LeavesNothing state (.creationAnswered failure)) :
    Accounted (state.creationAnswered failure) := by
  unfold TunnelState.creationAnswered
  split
  · rename_i flight row sessionId running
    cases failure with
    | some message => exact accounted.enter rfl (leaves.resolve_left (Option.some_ne_none message))
    | none =>
        exact {
          bridgeDrawn := accounted.bridgeDrawn
          rowDrawn := accounted.rowDrawn
          calls := accounted.calls
          created := by
            intro rebind other found created
            rw [← Option.some.inj found] at created
            rw [← Option.some.inj created]
            exact accounted.created _ sessionId running rfl
          held := by
            intro idle
            cases idle _ rfl }
  · exact accounted

theorem patchRow (accounted : Accounted state) {read : TunnelRow} {change : TunnelRow → TunnelRow}
    {token : Option DurableToken} (missing : state.row = none → RecordsBridge state)
    (drawn : ∀ row sessionId, state.row = some row → (change row).sessionId = some sessionId →
      sessionId ∈ state.drawn)
    (writes : ∀ row session, state.row = some row → state.bridge = some session →
      (change row).sessionId = some session.id) :
    Accounted (state.patchRow tunnel rebind read now change token) := by
  unfold TunnelState.patchRow
  split
  · rename_i noRow
    exact accounted.enter rfl (missing noRow)
  · rename_i row found
    exact {
      bridgeDrawn := accounted.bridgeDrawn
      rowDrawn := by
        intro other sessionId isRow held
        rw [← Option.some.inj isRow] at held
        exact drawn row sessionId found held
      calls := accounted.calls
      created := by
        intro other sessionId isRebind created
        rw [← Option.some.inj isRebind] at created
        cases created
      held := by
        intro _ session live
        exact ⟨_, rfl, writes row session found live⟩ }

theorem patchRow_kept (accounted : Accounted state) {other : Rebind} {read : TunnelRow}
    {change : TunnelRow → TunnelRow} {token : Option DurableToken}
    (running : state.inFlight = some other) (none : other.phase.created = none)
    (keeps : ∀ row, (change row).sessionId = row.sessionId) :
    Accounted (state.patchRow tunnel rebind read now change token) := by
  have records := accounted.records running none
  apply accounted.patchRow
  · intro _
    exact records
  · grind [accounted.rowDrawn]
  · intro row session found live
    obtain ⟨held, isRow, isHeld⟩ := records session live
    grind

theorem patched (accounted : Accounted state) (leaves : LeavesNothing state (.patched now)) :
    Accounted (state.patched tunnel now) := by
  unfold TunnelState.patched
  split
  · rename_i flight read running
    have noSession : state.bridge = none := by
      rw [LeavesNothing, running] at leaves
      exact leaves
    apply accounted.patchRow
    · intro _
      exact accounted.records running rfl
    · nofun
    · simp [noSession]
  · rename_i flight read sessionId running
    exact accounted.patchRow_kept running rfl fun row => rfl
  · rename_i flight read sessionId running
    obtain ⟨drawn, only⟩ := accounted.created _ sessionId running rfl
    apply accounted.patchRow
    · grind [LeavesNothing]
    · simp [drawn]
    · grind
  · rename_i flight read message running
    split
    · exact accounted.enter rfl (accounted.records running rfl)
    · exact accounted.patchRow_kept running rfl fun row => rfl
  · exact accounted

theorem promiseSettled (accounted : Accounted state) : Accounted state.promiseSettled := by
  unfold TunnelState.promiseSettled
  split
  · rename_i flight answer running
    have records := accounted.records running rfl
    exact {
      bridgeDrawn := accounted.bridgeDrawn
      rowDrawn := accounted.rowDrawn
      calls := by
        intro entry member
        exact accounted.calls entry (List.mem_filter.mp member).1
      created := by
        intro rebind sessionId found
        cases found
      held := fun _ => records }
  · exact accounted

end Accounted

/-- A step that leaves nothing behind keeps the bridge's session accounted for. -/
theorem accounted_step (state : TunnelState) (input : TunnelInput) (accounted : Accounted state)
    (leaves : LeavesNothing state input) : Accounted (tunnelStep tunnel state input) := by
  cases input with
  | create input => exact accounted.begin trivial
  | get scope => exact accounted.begin trivial
  | ensureLive => exact accounted.beginEnsureLive
  | delete scope => exact accounted.begin trivial
  | containerFound ticket container => exact accounted.containerFound ticket container
  | rowFound ticket => exact accounted.rowFound ticket
  | upserted ticket now => exact accounted.upserted ticket now
  | ownerChecked ticket => exact accounted.ownerChecked ticket
  | deleteChecked ticket => exact accounted.deleteChecked ticket
  | sessionDeleted ticket succeeded => exact accounted.sessionDeleted leaves
  | rowDeleted ticket => exact accounted.rowDeleted leaves
  | rowRead => exact accounted.rowRead
  | listed containers => exact accounted.listed containers
  | lookedUp failure => exact accounted.lookedUp failure
  | staleDropped succeeded => exact accounted.staleDropped succeeded
  | requestRefused message => exact accounted.requestRefused message
  | sessionRegistered drawn => exact accounted.sessionRegistered drawn
  | creationAnswered failure => exact accounted.creationAnswered leaves
  | patched now => exact accounted.patched leaves
  | promiseSettled => exact accounted.promiseSettled
  | agentReady =>
      apply accounted.withBridge
      intro session live
      obtain ⟨before, wasLive, same⟩ := Option.map_eq_some_iff.mp live
      exact ⟨before, wasLive, by rw [← same]⟩
  | sessionEnded =>
      apply accounted.withBridge
      nofun

/-! ### Deletion -/

/-- No call and no rebind is on its way. -/
def TunnelState.Finished (state : TunnelState) : Prop := state.calls = [] ∧ state.inFlight = none

/-- Where no step leaves a session behind, a deleted tunnel has none; and calls that wait at the
same time are answered alike. -/
theorem deletion_final (tunnel : DurableTunnel) (inputs : List TunnelInput) :
    (AlongRun (tunnelStep tunnel) LeavesNothing newTunnel inputs →
      (run (tunnelStep tunnel) newTunnel inputs).Finished →
        (run (tunnelStep tunnel) newTunnel inputs).row = none →
          (run (tunnelStep tunnel) newTunnel inputs).bridge = none) ∧
      ∀ before after, inputs = before ++ after →
        ∀ first second flight other firstFlight secondFlight answer otherAnswer,
          (first, TunnelCall.waiting flight) ∈ (run (tunnelStep tunnel) newTunnel before).calls →
          (second, TunnelCall.waiting other) ∈ (run (tunnelStep tunnel) newTunnel before).calls →
          (first, TunnelOutcome.answered firstFlight answer) ∈
            (run (tunnelStep tunnel) newTunnel inputs).outcomes →
          (second, TunnelOutcome.answered secondFlight otherAnswer) ∈
            (run (tunnelStep tunnel) newTunnel inputs).outcomes →
          answer = otherAnswer := by
  constructor
  · intro leaves finished deleted
    have accounted := run_invariant_of_alongRun (@accounted_step tunnel) Accounted.newTunnel leaves
    have records : RecordsBridge (run (tunnelStep tunnel) newTunnel inputs) := by
      apply accounted.held
      intro rebind running
      rw [finished.2] at running
      cases running
    cases live : (run (tunnelStep tunnel) newTunnel inputs).bridge with
    | none => rfl
    | some session =>
        obtain ⟨row, isRow, _⟩ := records session live
        rw [deleted] at isRow
        cases isRow
  · rintro before after rfl first second flight other firstFlight secondFlight answer otherAnswer
      firstWaits secondWaits firstAnswered secondAnswered
    exact answered_alike before after firstWaits secondWaits firstAnswered secondAnswered

def sampleTunnel : DurableTunnel where
  id := "7f3a"
  appId := "coder"
  userId := "u1"
  selectorKey := "workspace-1"
  port := 3000
  publicId := "tn-0a1b2c3d4e"

def tunnelContainer : ContainerInfo where
  id := "c1"
  labels := [(appIdLabel, "coder"), (userIdLabel, "u1")]
  state := .running

def rebindBegins : List TunnelInput :=
  [.create ⟨"h1", "c1", "web", ["tunnel-agent"]⟩, .containerFound 0 (some tunnelContainer),
    .rowFound 0, .upserted 0 1000, .rowRead, .listed (.ok [tunnelContainer])]

/-- A rebind that is left alone, then a delete. -/
def deletedAfterwards : List TunnelInput :=
  rebindBegins ++
    [.sessionRegistered "sess_1", .agentReady, .ensureLive, .creationAnswered none, .patched 2000,
      .promiseSettled, .delete ⟨"coder", "u1"⟩, .deleteChecked 2, .sessionDeleted 2 true,
      .rowDeleted 2]

/-- The delete comes before the bridge has registered the session. -/
def deletedMeanwhile : List TunnelInput :=
  rebindBegins ++
    [.delete ⟨"coder", "u1"⟩, .deleteChecked 1, .rowDeleted 1, .sessionRegistered "sess_1",
      .agentReady, .creationAnswered none, .patched 2000, .patched 2000, .promiseSettled]

/-- What both calls are told: the session that is running. -/
def sampleAnswer : Except ApiError DurableTunnelView :=
  .ok {
    id := "7f3a", port := 3000, label := "web", publicId := "tn-0a1b2c3d4e",
    token := some ⟨"sess_1", "tn-0a1b2c3d4e"⟩, state := .live, createdAt := 1000,
    updatedAt := 2000 }

theorem deletedAfterwards_final :
    (run (tunnelStep sampleTunnel) newTunnel deletedAfterwards).bridge = none ∧
      ∀ answer, (1, TunnelOutcome.answered 0 answer) ∈
        (run (tunnelStep sampleTunnel) newTunnel deletedAfterwards).outcomes →
          sampleAnswer = answer := by
  have final := deletion_final sampleTunnel deletedAfterwards
  constructor
  · apply final.1
    · decide +kernel
    · refine ⟨?_, Option.isNone_iff_eq_none.mp ?_⟩
      · decide +kernel
      · decide +kernel
    · decide +kernel
  · intro answer answered
    refine final.2 (deletedAfterwards.take 9) (deletedAfterwards.drop 9) ?_ 0 1 0 0 0 0 _ _ ?_ ?_ ?_
      answered
    · exact (List.take_append_drop 9 _).symm
    · decide +kernel
    · decide +kernel
    · decide +kernel

theorem deletedMeanwhile_left :
    (run (tunnelStep sampleTunnel) newTunnel deletedMeanwhile).Finished ∧
      (run (tunnelStep sampleTunnel) newTunnel deletedMeanwhile).row = none ∧
      (run (tunnelStep sampleTunnel) newTunnel deletedMeanwhile).bridge =
        some ⟨"sess_1", "c1", true⟩ := by
  refine ⟨⟨?_, ?_⟩, ?_, ?_⟩
  · decide +kernel
  · apply Option.isNone_iff_eq_none.mp
    decide +kernel
  · decide +kernel
  · decide +kernel

end Lombok.Docker
