import Lombok.Tunnel.SessionManager

/-!
Contract: creating the session of a durable tunnel and starting its agent.

Owns the calls of `TunnelSessionHandler.create` step by step: the session is
registered before the exec is created, the exec is started, and the call waits
until the agent says it is ready.

A call for a session that is still being created starts a second agent in it,
and a call that fails leaves its session where it is.
-/

namespace Lombok.Tunnel

open Lombok.Library

/-! ### Calls -/

/-- What a call awaits. -/
inductive SpawnPhase where
  | creatingExec
  | startingExec
  | awaitingReady
deriving DecidableEq

/-- A call of `create` that has not returned; `before` is the manager it was made on. -/
structure Spawning where
  ticket : Nat
  sessionId : String
  protocol : TunnelProtocol
  before : SessionManager
  phase : SpawnPhase

inductive CreateOutcome where
  | returned (sessionId : String) (state : SessionState)
  | threw (before after : SessionManager)

/-- The calls in progress, who is waiting for which session's agent, and the sessions in which an
agent was started. -/
structure SpawnState where
  manager : SessionManager
  next : Nat
  running : List Spawning
  readyWaiters : OrderedMap String Nat
  agents : List String
  outcomes : List CreateOutcome

inductive SpawnInput where
  | create (options : CreateOptions) (drawn : Drawn)
  | execCreated (ticket : Nat) (succeeded : Bool)
  | execStarted (ticket : Nat) (succeeded : Bool)
  | ready (sessionId : String)
  | readyTimeout (ticket : Nat)
deriving DecidableEq

namespace SpawnState

variable (state : SpawnState)

def awaiting (ticket : Nat) (phase : SpawnPhase) : Option Spawning :=
  state.running.find? fun call => call.ticket == ticket && call.phase == phase

/-- The call ends. -/
def settle (ticket : Nat) (outcome : CreateOutcome) : SpawnState :=
  { state with
    running := state.running.filter fun call => call.ticket != ticket
    outcomes := state.outcomes ++ [outcome] }

/-- The call goes on. -/
def advance (ticket : Nat) (phase : SpawnPhase) : SpawnState :=
  { state with
    running := state.running.map fun call =>
      if call.ticket = ticket then { call with phase := phase } else call }

def throwing (call : Spawning) : SpawnState :=
  state.settle call.ticket (.threw call.before state.manager)

/-- `create`, until it first awaits. -/
def begin (options : CreateOptions) (drawn : Drawn) : SpawnState :=
  match state.manager.create options drawn with
  | .error _ => { state with outcomes := state.outcomes ++ [.threw state.manager state.manager] }
  | .ok (session, manager) =>
      if session.state ≠ .created then
        { state with
          manager := manager
          outcomes := state.outcomes ++ [.returned session.id session.state] }
      else
        { state with
          manager := manager
          next := state.next + 1
          running := state.running ++
            [⟨state.next, session.id, options.protocol, state.manager, .creatingExec⟩] }

/-- `createExec` settles; a raw session is left at that. -/
def execCreated (ticket : Nat) (succeeded : Bool) : SpawnState :=
  match state.awaiting ticket .creatingExec with
  | none => state
  | some call =>
      if !succeeded then state.throwing call
      else if call.protocol = .framed then state.advance ticket .startingExec
      else
        state.settle ticket
          (.returned call.sessionId
              (((state.manager.get call.sessionId).map TunnelSession.state).getD
            .created))

/-- `startExec` settles: an agent runs, and the call waits for it. -/
def execStarted (ticket : Nat) (succeeded : Bool) : SpawnState :=
  match state.awaiting ticket .startingExec with
  | none => state
  | some call =>
      if !succeeded then state.throwing call
      else
        { state.advance ticket .awaitingReady with
          agents := state.agents ++ [call.sessionId]
          readyWaiters := state.readyWaiters.set call.sessionId ticket }

/-- `handleReady`. -/
def ready (sessionId : String) : SpawnState :=
  if sessionId ∉ state.agents then state
  else
    let active := { state with manager := state.manager.assign sessionId .active true }
    match state.readyWaiters.get? sessionId with
    | none => active
    | some ticket =>
        { active.settle ticket (.returned sessionId .active) with
          readyWaiters := state.readyWaiters.delete sessionId }

/-- The timer of `waitForReady`. -/
def readyTimeout (ticket : Nat) : SpawnState :=
  match state.awaiting ticket .awaitingReady with
  | none => state
  | some call =>
      { state.throwing call with readyWaiters := state.readyWaiters.delete call.sessionId }

end SpawnState

def spawnStep (state : SpawnState) : SpawnInput → SpawnState
  | .create options drawn => state.begin options drawn
  | .execCreated ticket succeeded => state.execCreated ticket succeeded
  | .execStarted ticket succeeded => state.execStarted ticket succeeded
  | .ready sessionId => state.ready sessionId
  | .readyTimeout ticket => state.readyTimeout ticket

/-- No call has been made yet. -/
def SpawnState.before (manager : SessionManager) : SpawnState :=
  ⟨manager, 0, [], .empty, [], []⟩

/-! ### One agent -/

/-- The calls are those for one durable tunnel. -/
def SpawnInput.IsFor (publicId : String) : SpawnInput → Prop
  | .create options _ => options.durable = true ∧ options.desired = some publicId
  | _ => True

/-- What was returned is the tunnel's session, and it was active; a call that threw left the
sessions and the index as they were. -/
def CreateOutcome.Proper (publicId : String) (manager : SessionManager) : CreateOutcome → Prop
  | .returned sessionId state => state = .active ∧
      ∃ session, manager.getByPublicId publicId = some session ∧ session.id = sessionId
  | .threw before after =>
      after.sessions.entries.map Prod.fst = before.sessions.entries.map Prod.fst ∧
        after.tunnelIndex.entries = before.tunnelIndex.entries

/-- At most one agent was started, and every call that ended ended properly. -/
structure SingleAgent (publicId : String) (state : SpawnState) : Prop where
  agents : state.agents.length ≤ 1
  outcomes : ∀ outcome ∈ state.outcomes, outcome.Proper publicId state.manager

/-- A call is only made when the tunnel's session, if there is one, is active, and the exec and the
agent of the call start. -/
def OneAtATime (publicId : String) (state : SpawnState) : SpawnInput → Prop
  | .create options drawn => options.isPublic = true ∧ options.protocol = .framed ∧
      state.manager.get drawn.sessionId = none ∧
      ∀ session, state.manager.getByPublicId publicId = some session → session.state = .active
  | .execCreated _ succeeded => succeeded = true
  | .execStarted _ succeeded => succeeded = true
  | .ready _ => True
  | .readyTimeout ticket => state.awaiting ticket .awaitingReady = none

/-- The one call in progress has created the tunnel's session. -/
structure Creating (publicId : String) (state : SpawnState) (call : Spawning) : Prop where
  session : ∃ session, state.manager.getByPublicId publicId = some session ∧
    session.id = call.sessionId ∧ session.state = .created
  framed : call.protocol = .framed
  agents : state.agents = if call.phase = .awaitingReady then [call.sessionId] else []
  waiters : ∀ sessionId ticket, state.readyWaiters.get? sessionId = some ticket ↔
    call.phase = .awaitingReady ∧ sessionId = call.sessionId ∧ ticket = call.ticket

/-- No call is in progress; every agent is in the tunnel's session. -/
structure Resting (publicId : String) (state : SpawnState) : Prop where
  agents : state.agents.length ≤ 1
  started : ∀ sessionId ∈ state.agents, ∃ session,
    state.manager.getByPublicId publicId = some session ∧ session.id = sessionId
  waiters : ∀ sessionId, state.readyWaiters.get? sessionId = none

structure SpawnInvariant (publicId : String) (state : SpawnState) : Prop where
  consistent : Consistent state.manager
  outcomes : ∀ outcome ∈ state.outcomes, outcome.Proper publicId state.manager
  calls : (state.running = [] ∧ Resting publicId state) ∨
    ∃ call, state.running = [call] ∧ Creating publicId state call

/-! ### The manager's part -/

section Manager

variable {manager : SessionManager}

theorem tunnelIndex_update (sessionId : String) (change : TunnelSession → TunnelSession) :
    (manager.update sessionId change).tunnelIndex = manager.tunnelIndex := by
  unfold SessionManager.update
  split
  · rfl
  · rfl

theorem getByPublicId_update (consistent : Consistent manager) (sessionId : String)
    (change : TunnelSession → TunnelSession) (publicId : String) :
    (manager.update sessionId change).getByPublicId publicId =
      (manager.getByPublicId publicId).map fun session =>
        if session.id = sessionId then change session else session := by
  unfold SessionManager.getByPublicId
  rw [tunnelIndex_update]
  cases entry : manager.tunnelIndex.get? publicId with
  | none => rfl
  | some id =>
      obtain ⟨session, isHeld, _⟩ := consistent.indexed publicId id entry
      have named := consistent.held id session isHeld
      have lookup : manager.sessions.get? id = some session := isHeld
      dsimp only
      rw [if_neg named.2.1, if_neg named.2.1, lookup, Option.map_some, named.1]
      by_cases same : id = sessionId
      · subst same
        rw [if_pos rfl]
        have changed := get_update isHeld change id
        rw [if_pos rfl] at changed
        exact changed
      · rw [if_neg same]
        cases other : manager.get sessionId with
        | none =>
            have missing : manager.sessions.get? sessionId = none := other
            rw [SessionManager.update, missing]
            exact lookup
        | some holder =>
            have unchanged := get_update other change id
            rw [if_neg same] at unchanged
            exact unchanged.trans isHeld

/-- An assignment to a session leaves it under its public id. -/
theorem found_assign (consistent : Consistent manager) (sessionId : String) (state : SessionState)
    (agentReady : Bool) {publicId : String} {session : TunnelSession}
    (found : manager.getByPublicId publicId = some session) :
    ∃ later, (manager.assign sessionId state agentReady).getByPublicId publicId = some later ∧
      later.id = session.id := by
  have lookup := getByPublicId_update consistent sessionId
    (fun session => { session with state := state, agentReady := agentReady }) publicId
  rw [found, Option.map_some] at lookup
  refine ⟨_, lookup, ?_⟩
  split
  · rfl
  · rfl

theorem getByPublicId_add {session : TunnelSession} (consistent : Consistent (manager.add session))
    {publicId : String} (carries : session.publicId = some publicId) :
    (manager.add session).getByPublicId publicId = some session := by
  apply consistent.found session.id session publicId _ carries
  rw [get_add, if_pos rfl]

end Manager

/-! ### One step -/

section Steps

variable {publicId : String} {state : SpawnState}

variable {call : Spawning} {ticket : Nat} {manager : SessionManager} {outcome : CreateOutcome}

theorem awaiting_single (single : state.running = [call]) {phase : SpawnPhase} {found : Spawning}
    (awaits : state.awaiting ticket phase = some found) :
    found = call ∧ call.ticket = ticket ∧ call.phase = phase := by
  rw [SpawnState.awaiting, single] at awaits
  grind

theorem awaiting_nil (none : state.running = []) (ticket : Nat) (phase : SpawnPhase) :
    state.awaiting ticket phase = Option.none := by
  rw [SpawnState.awaiting, none]
  rfl

theorem running_settle (single : state.running = [call]) (outcome : CreateOutcome) :
    (state.settle call.ticket outcome).running = [] := by
  rw [SpawnState.settle, single]
  simp

theorem running_advance (single : state.running = [call]) (phase : SpawnPhase) :
    (state.advance call.ticket phase).running = [{ call with phase := phase }] := by
  rw [SpawnState.advance, single]
  simp

/-- What was returned stays proper as long as the tunnel's session keeps its id. -/
theorem proper_of_found {after : SessionManager}
    (kept : ∀ session, manager.getByPublicId publicId = some session →
      ∃ later, after.getByPublicId publicId = some later ∧ later.id = session.id)
    (proper : outcome.Proper publicId manager) : outcome.Proper publicId after := by
  cases outcome with
  | returned sessionId status =>
      obtain ⟨isActive, session, found, named⟩ := proper
      obtain ⟨later, foundLater, sameId⟩ := kept session found
      exact ⟨isActive, later, foundLater, sameId.trans named⟩
  | threw before later => exact proper

theorem proper_append {outcomes : List CreateOutcome}
    (earlier : ∀ other ∈ outcomes, other.Proper publicId manager)
    (now : outcome.Proper publicId manager) :
    ∀ other ∈ outcomes ++ [outcome], other.Proper publicId manager := by
  intro other member
  rcases List.mem_append.mp member with before | last
  · exact earlier other before
  · rw [List.mem_singleton.mp last]
    exact now

/-- An outcome is added; everything else stays. -/
theorem invariant_outcome (invariant : SpawnInvariant publicId state)
    (proper : outcome.Proper publicId state.manager) :
    SpawnInvariant publicId { state with outcomes := state.outcomes ++ [outcome] } := by
  refine ⟨invariant.consistent, proper_append invariant.outcomes proper, ?_⟩
  rcases invariant.calls with ⟨none, resting⟩ | ⟨call, single, creating⟩
  · exact .inl ⟨none, resting.agents, resting.started, resting.waiters⟩
  · exact .inr ⟨call, single, creating.session, creating.framed, creating.agents,
      creating.waiters⟩

theorem create_added {after : SessionManager} {options : CreateOptions} {drawn : Drawn}
    {session : TunnelSession} (missing : manager.existing options = none)
    (isPublic : options.isPublic = true) (asked : options.desired = some publicId)
    (created : manager.create options drawn = .ok (session, after)) :
    session = SessionManager.newSession options drawn (some publicId) ∧
      after = manager.add session := by
  by_cases room : manager.sessions.size < manager.maxSessions
  · rw [create_eq missing room] at created
    rw [SessionManager.resolvePublicId, isPublic, asked] at created
    dsimp only at created
    rw [if_neg (by decide)] at created
    split at created
    · cases created
      exact ⟨rfl, rfl⟩
    · cases created
  · grind [SessionManager.create]

theorem invariant_create (invariant : SpawnInvariant publicId state) {options : CreateOptions}
    {drawn : Drawn} (isFor : (SpawnInput.create options drawn).IsFor publicId)
    (oneAtATime : OneAtATime publicId state (.create options drawn)) :
    SpawnInvariant publicId (spawnStep state (.create options drawn)) := by
  obtain ⟨durable, asked⟩ := isFor
  obtain ⟨isPublic, framed, fresh, active⟩ := oneAtATime
  have existing : state.manager.existing options = state.manager.getByPublicId publicId := by
    rw [SessionManager.existing, durable, if_pos rfl, asked, Option.bind_some]
  have harmless : ¬Overwrites state.manager (.create options drawn) := by
    intro overwrites
    have notDurable := overwrites.1
    rw [durable] at notDurable
    cases notDurable
  have consistent := (consistent_create_iff invariant.consistent fresh).mpr harmless
  unfold spawnStep SpawnState.begin
  unfold managerStep at consistent
  dsimp only at consistent ⊢
  cases found : state.manager.getByPublicId publicId with
  | some session =>
      -- the session is there: it is returned
      have returns : state.manager.create options drawn = .ok (session, state.manager) := by
        rw [SessionManager.create, existing, found]
      have isActive := active session found
      rw [returns]
      dsimp only
      rw [if_pos (by rw [isActive]; decide)]
      exact invariant_outcome invariant ⟨isActive, session, found, rfl⟩
  | none =>
      rcases invariant.calls with ⟨none, resting⟩ | ⟨call, single, creating⟩
      · cases created : state.manager.create options drawn with
        | error message => exact invariant_outcome invariant ⟨rfl, rfl⟩
        | ok made =>
            obtain ⟨session, manager⟩ := made
            rw [created] at consistent
            dsimp only at consistent ⊢
            obtain ⟨rfl, rfl⟩ := create_added (existing.trans found) isPublic asked created
            rw [if_neg (fun notCreated => notCreated rfl), none, List.nil_append]
            have added := getByPublicId_add consistent rfl
            have noAgents : state.agents = [] := by
              apply List.eq_nil_iff_forall_not_mem.mpr
              grind [resting.started]
            refine ⟨consistent, ?_, .inr ⟨_, rfl, ?_⟩⟩
            · intro outcome member
              apply proper_of_found _ (invariant.outcomes outcome member)
              simp [found]
            · refine ⟨⟨_, added, rfl, rfl⟩, framed, noAgents, ?_⟩
              simp [resting.waiters]
      · grind [creating.session]

/-- The call in progress goes on to `startExec`. -/
theorem invariant_execCreated (invariant : SpawnInvariant publicId state) {succeeded : Bool}
    (succeeds : succeeded = true) :
    SpawnInvariant publicId (spawnStep state (.execCreated ticket succeeded)) := by
  unfold spawnStep SpawnState.execCreated
  dsimp only
  rcases invariant.calls with ⟨none, resting⟩ | ⟨call, single, creating⟩
  · rw [awaiting_nil none]
    exact invariant
  cases awaits : state.awaiting ticket .creatingExec with
  | none => exact invariant
  | some found =>
      obtain ⟨rfl, rfl, phase⟩ := awaiting_single single awaits
      dsimp only
      rw [if_neg (by rw [succeeds]; decide), if_pos creating.framed]
      refine ⟨invariant.consistent, invariant.outcomes, .inr ⟨_, running_advance single _, ?_⟩⟩
      have agents := creating.agents
      have waiters := creating.waiters
      rw [if_neg (by rw [phase]; decide)] at agents
      refine ⟨creating.session, creating.framed, agents, ?_⟩
      intro sessionId ticket
      constructor
      · intro waits
        have awaitsReady := ((waiters sessionId ticket).mp waits).1
        rw [phase] at awaitsReady
        cases awaitsReady
      · intro both
        cases both.1

theorem invariant_execStarted (invariant : SpawnInvariant publicId state) {succeeded : Bool}
    (succeeds : succeeded = true) :
    SpawnInvariant publicId (spawnStep state (.execStarted ticket succeeded)) := by
  unfold spawnStep SpawnState.execStarted
  dsimp only
  rcases invariant.calls with ⟨none, resting⟩ | ⟨call, single, creating⟩
  · rw [awaiting_nil none]
    exact invariant
  cases awaits : state.awaiting ticket .startingExec with
  | none => exact invariant
  | some found =>
      obtain ⟨rfl, rfl, phase⟩ := awaiting_single single awaits
      dsimp only
      rw [if_neg (by rw [succeeds]; decide)]
      have agents := creating.agents
      have waiters := creating.waiters
      rw [if_neg (by rw [phase]; decide)] at agents
      refine ⟨invariant.consistent, invariant.outcomes, .inr ⟨_, running_advance single _, ?_⟩⟩
      refine ⟨creating.session, creating.framed, by rw [agents]; rfl, ?_⟩
      intro sessionId ticket
      rw [OrderedMap.get?_set]
      by_cases own : sessionId = found.sessionId
      · rw [if_pos own]
        constructor
        · grind
        · intro both
          rw [both.2.2]
      · rw [if_neg own]
        constructor
        · intro waits
          have awaitsReady := ((waiters sessionId ticket).mp waits).1
          rw [phase] at awaitsReady
          cases awaitsReady
        · intro both
          exact absurd both.2.1 own

theorem invariant_ready (invariant : SpawnInvariant publicId state) (sessionId : String) :
    SpawnInvariant publicId (spawnStep state (.ready sessionId)) := by
  unfold spawnStep SpawnState.ready
  dsimp only
  by_cases started : sessionId ∈ state.agents
  · rw [if_neg (fun missing => missing started)]
    have consistent : Consistent (state.manager.assign sessionId .active true) :=
      consistent_update invariant.consistent sessionId fun _ => ⟨rfl, rfl⟩
    have kept : ∀ session, state.manager.getByPublicId publicId = some session →
        ∃ later, (state.manager.assign sessionId .active true).getByPublicId publicId = some later ∧
          later.id = session.id :=
      fun _ => found_assign invariant.consistent sessionId .active true
    have outcomes : ∀ outcome ∈ state.outcomes,
        outcome.Proper publicId (state.manager.assign sessionId .active true) :=
      fun outcome member => proper_of_found kept (invariant.outcomes outcome member)
    rcases invariant.calls with ⟨none, resting⟩ | ⟨call, single, creating⟩
    · rw [resting.waiters sessionId]
      refine ⟨consistent, outcomes, .inl ⟨none, resting.agents, ?_, resting.waiters⟩⟩
      grind [resting.started]
    · have agents := creating.agents
      have awaitsReady : call.phase = .awaitingReady := by
        by_cases phase : call.phase = .awaitingReady
        · exact phase
        · grind
      rw [if_pos awaitsReady] at agents
      have own : sessionId = call.sessionId := by
        grind
      have waits := (creating.waiters sessionId call.ticket).mpr ⟨awaitsReady, own, rfl⟩
      obtain ⟨session, isFound, named, _⟩ := creating.session
      obtain ⟨later, foundLater, sameId⟩ := kept session isFound
      have returned : CreateOutcome.Proper publicId (state.manager.assign sessionId .active true)
          (.returned sessionId .active) :=
        ⟨rfl, later, foundLater, (sameId.trans named).trans own.symm⟩
      rw [waits]
      refine ⟨consistent, proper_append outcomes returned, .inl ⟨?_, ?_, ?_, ?_⟩⟩
      · exact running_settle single (.returned sessionId .active)
      · show state.agents.length ≤ 1
        rw [agents]
        exact Nat.le_refl 1
      · intro other member
        have same : other = call.sessionId := by
          have inAgents : other ∈ state.agents := member
          grind
        exact ⟨later, foundLater, by rw [same, sameId, named]⟩
      · intro other
        show (state.readyWaiters.delete sessionId).get? other = none
        rw [OrderedMap.get?_delete]
        by_cases same : other = sessionId
        · rw [if_pos same]
        · rw [if_neg same]
          cases waiting : state.readyWaiters.get? other with
          | none => rfl
          | some ticket =>
              grind [creating.waiters]
  · rw [if_pos started]
    exact invariant

theorem invariant_step (invariant : SpawnInvariant publicId state) {input : SpawnInput}
    (isFor : input.IsFor publicId) (oneAtATime : OneAtATime publicId state input) :
    SpawnInvariant publicId (spawnStep state input) := by
  cases input with
  | create options drawn => exact invariant_create invariant isFor oneAtATime
  | execCreated ticket succeeded => exact invariant_execCreated invariant oneAtATime
  | execStarted ticket succeeded => exact invariant_execStarted invariant oneAtATime
  | ready sessionId => exact invariant_ready invariant sessionId
  | readyTimeout ticket =>
      unfold spawnStep SpawnState.readyTimeout
      have idle : state.awaiting ticket .awaitingReady = none := oneAtATime
      dsimp only
      rw [idle]
      exact invariant

theorem SpawnInvariant.singleAgent (invariant : SpawnInvariant publicId state) :
    SingleAgent publicId state := by
  refine ⟨?_, invariant.outcomes⟩
  rcases invariant.calls with ⟨_, resting⟩ | ⟨call, _, creating⟩
  · exact resting.agents
  · grind [creating.agents]

end Steps

/-! ### All runs -/

theorem invariant_before {manager : SessionManager} (consistent : Consistent manager)
    (publicId : String) : SpawnInvariant publicId (.before manager) := by
  constructor
  · exact consistent
  · nofun
  · refine .inl ⟨rfl, Nat.zero_le 1, ?_, fun _ => rfl⟩
    nofun

/-- Calls for a durable tunnel that are made one at a time, and whose agents start, start one
agent, return the tunnel's one session when it is active, and change nothing when they throw. -/
theorem single_agent {manager : SessionManager} (consistent : Consistent manager)
    (publicId : String) (inputs : List SpawnInput)
    (isFor : ∀ input ∈ inputs, input.IsFor publicId)
    (oneAtATime : AlongRun spawnStep (OneAtATime publicId) (.before manager) inputs) :
    SingleAgent publicId (run spawnStep (.before manager) inputs) := by
  apply SpawnInvariant.singleAgent
  have start := invariant_before consistent publicId
  generalize SpawnState.before manager = state at oneAtATime start ⊢
  induction inputs generalizing state with
  | nil => exact start
  | cons input rest inductionHypothesis =>
      apply inductionHypothesis
      · intro other member
        exact isFor other (List.mem_cons_of_mem _ member)
      · exact oneAtATime.2
      · exact invariant_step start (isFor input List.mem_cons_self) oneAtATime.1

def createdInTurn : List SpawnInput :=
  [.create (tunnelOptions (some "tn-web") true) ⟨"a", [], 0⟩, .execCreated 0 true,
    .execStarted 0 true, .ready "sess_a", .create (tunnelOptions (some "tn-web") true) ⟨"b", [], 1⟩]

theorem single_agent_inTurn :
    SingleAgent "tn-web" (run spawnStep (.before (newManager 8 3600000)) createdInTurn) := by
  apply single_agent (consistent_newManager 8 3600000)
  · intro input member
    simp only [createdInTurn, List.mem_cons, List.not_mem_nil, or_false] at member
    rcases member with rfl | rfl | rfl | rfl | rfl
    · exact ⟨rfl, by decide⟩
    · trivial
    · trivial
    · trivial
    · exact ⟨rfl, by decide⟩
  · refine ⟨⟨rfl, rfl, by decide +kernel, ?_⟩, rfl, rfl, trivial, ⟨rfl, rfl, by decide +kernel, ?_⟩,
      trivial⟩
    · nofun
    · have found : SessionManager.getByPublicId (run spawnStep (.before (newManager 8 3600000))
          (createdInTurn.take 4)).manager "tn-web" = some
            { SessionManager.newSession (tunnelOptions (some "tn-web") true) ⟨"a", [], 0⟩
                (some "tn-web") with
              state := .active
              agentReady := true } := by
        decide +kernel
      intro session isFound
      have same := found.symm.trans isFound
      cases same
      rfl

/-- Two calls for one tunnel, the second made before the agent of the first is ready. -/
def createdTwice : List SpawnInput :=
  [.create (tunnelOptions (some "tn-web") true) ⟨"a", [], 0⟩,
    .create (tunnelOptions (some "tn-web") true) ⟨"b", [], 1⟩, .execCreated 0 true,
    .execCreated 1 true, .execStarted 0 true, .execStarted 1 true]

def createdInVain : List SpawnInput :=
  [.create (tunnelOptions (some "tn-web") true) ⟨"a", [], 0⟩, .execCreated 0 false]

theorem second_agent :
    ¬SingleAgent "tn-web" (run spawnStep (.before (newManager 8 3600000)) createdTwice) ∧
      ¬SingleAgent "tn-web" (run spawnStep (.before (newManager 8 3600000)) createdInVain) := by
  constructor
  · intro single
    exact absurd single.agents (by decide +kernel)
  · intro single
    have threw := single.outcomes
      (.threw (newManager 8 3600000) (run spawnStep (.before (newManager 8 3600000))
        (createdInVain.take 1)).manager) (List.mem_singleton.mpr rfl)
    exact absurd threw.1 (by decide +kernel)

end Lombok.Tunnel
