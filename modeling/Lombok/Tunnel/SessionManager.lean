import Lombok.Library.OrderedMap
import Lombok.Library.Run
import Lombok.Tunnel.Request

/-!
Contract: the bridge's sessions and the index of their public ids.

Owns creation, deletion, lookup and the sweep, and when the index agrees with
the sessions.

A created session takes a public id that the caller asks for without a look at
the index, unless the session is durable and the id's session is returned.
-/

namespace Lombok.Tunnel

open Lombok.Library

/-! ### Sessions -/

inductive SessionMode where
  | ephemeral
  | persistent
deriving DecidableEq

inductive SessionState where
  | created
  | active
  | closing
deriving DecidableEq

/-- A `TunnelSession`, without its clients and its exec stream. Times are in milliseconds. -/
structure TunnelSession where
  id : String
  containerId : String
  hostId : String
  mode : SessionMode
  state : SessionState
  createdAt : Nat
  lastActivityAt : Nat
  command : List String
  protocol : TunnelProtocol
  tty : Bool
  agentReady : Bool
  publicId : Option String
  label : String
  appId : Option String
  durable : Bool
deriving DecidableEq

/-- The arguments of `create`. -/
structure CreateOptions where
  hostId : String
  containerId : String
  command : List String
  label : String
  appId : Option String
  mode : SessionMode
  protocol : TunnelProtocol
  tty : Bool
  isPublic : Bool
  desiredPublicId : Option String
  durable : Bool
deriving DecidableEq

/-- What a call draws: the random part of a new session's id, and of the public ids that are
tried. -/
structure Drawn where
  suffix : String
  publicSuffixes : List String
  now : Nat
deriving DecidableEq

/-- `generateId`. -/
def Drawn.sessionId (drawn : Drawn) : String := "sess_" ++ drawn.suffix

/-- The public ids `generatePublicId` tries. -/
def Drawn.publicIds (drawn : Drawn) : List String :=
  (drawn.publicSuffixes.take 10).map ("tn-" ++ ·)

/-- The public id a caller asks for; an empty one is none. -/
def CreateOptions.desired (options : CreateOptions) : Option String :=
  options.desiredPublicId.filter fun publicId => publicId != ""

structure SessionManager where
  sessions : OrderedMap String TunnelSession
  tunnelIndex : OrderedMap String String
  maxSessions : Nat
  sessionIdleTimeout : Nat

namespace SessionManager

variable (manager : SessionManager)

def get (sessionId : String) : Option TunnelSession := manager.sessions.get? sessionId

def getByPublicId (publicId : String) : Option TunnelSession :=
  match manager.tunnelIndex.get? publicId with
  | none => none
  | some sessionId => if sessionId = "" then none else manager.sessions.get? sessionId

/-- `PUBLIC_ID_SHAPE`. -/
def publicIdShape (publicId : String) : Bool :=
  match publicId.toList with
  | 't' :: 'n' :: '-' :: rest =>
      !rest.isEmpty && rest.all fun character =>
        character.isLower || character.isDigit || character == '-'
  | _ => false

/-- `generatePublicId`. -/
def generatePublicId (publicIds : List String) : Except String String :=
  match publicIds.find? fun publicId => !manager.tunnelIndex.has publicId with
  | some publicId => .ok publicId
  | none => .error "Failed to generate unique public ID"

/-- `resolvePublicId`. -/
def resolvePublicId (options : CreateOptions) (publicIds : List String) :
    Except String (Option String) :=
  if !options.isPublic then .ok none
  else
    match options.desired with
    | some publicId =>
        if publicIdShape publicId then .ok (some publicId) else .error "Invalid public_id shape"
    | none => (manager.generatePublicId publicIds).map some

/-- The session a durable creation returns without creating one. -/
def existing (options : CreateOptions) : Option TunnelSession :=
  if options.durable then (options.desired).bind manager.getByPublicId else none

/-- The session a creation adds. -/
def newSession (options : CreateOptions) (drawn : Drawn) (publicId : Option String) :
    TunnelSession where
  id := drawn.sessionId
  containerId := options.containerId
  hostId := options.hostId
  mode := options.mode
  state := .created
  createdAt := drawn.now
  lastActivityAt := drawn.now
  command := options.command
  protocol := options.protocol
  tty := options.tty
  agentReady := false
  publicId := publicId
  label := options.label
  appId := options.appId
  durable := options.durable

def add (session : TunnelSession) : SessionManager :=
  { manager with
    sessions := manager.sessions.set session.id session
    tunnelIndex :=
      match session.publicId with
      | none => manager.tunnelIndex
      | some publicId =>
          if publicId = "" then manager.tunnelIndex
          else manager.tunnelIndex.set publicId session.id }

def create (options : CreateOptions) (drawn : Drawn) :
    Except String (TunnelSession × SessionManager) :=
  match manager.existing options with
  | some session => .ok (session, manager)
  | none =>
      if manager.maxSessions ≤ manager.sessions.size then .error "Maximum session limit reached"
      else
        (manager.resolvePublicId options drawn.publicIds).map fun publicId =>
          let session := newSession options drawn publicId
          (session, manager.add session)

def delete (sessionId : String) : SessionManager :=
  match manager.sessions.get? sessionId with
  | none => manager
  | some session =>
      { manager with
        tunnelIndex :=
          match session.publicId with
          | none => manager.tunnelIndex
          | some publicId =>
              if publicId = "" then manager.tunnelIndex else manager.tunnelIndex.delete publicId
        sessions := manager.sessions.delete sessionId }

/-- A change of a session that is there, by its handler. -/
def update (sessionId : String) (change : TunnelSession → TunnelSession) : SessionManager :=
  match manager.sessions.get? sessionId with
  | none => manager
  | some session => { manager with sessions := manager.sessions.set sessionId (change session) }

def touch (sessionId : String) (now : Nat) : SessionManager :=
  manager.update sessionId fun session => { session with lastActivityAt := now }

/-- A handler's assignment to a session's state. -/
def assign (sessionId : String) (state : SessionState) (agentReady : Bool) : SessionManager :=
  manager.update sessionId fun session => { session with state := state, agentReady := agentReady }

/-- The sessions a sweep drops. -/
def expired (now : Nat) (session : TunnelSession) : Bool :=
  !session.durable &&
    (decide (manager.sessionIdleTimeout < now - session.lastActivityAt) ||
      session.state == .created && decide (60000 < now - session.createdAt))

def sweep (now : Nat) : SessionManager :=
  ((manager.sessions.entries.filter fun entry => manager.expired now entry.2).map Prod.fst).foldl
    delete manager

end SessionManager

/-! ### Runs -/

inductive ManagerInput where
  | create (options : CreateOptions) (drawn : Drawn)
  | delete (sessionId : String)
  | touch (sessionId : String) (now : Nat)
  | assign (sessionId : String) (state : SessionState) (agentReady : Bool)
  | sweep (now : Nat)
deriving DecidableEq

/-- A creation that throws changes nothing. -/
def managerStep (manager : SessionManager) : ManagerInput → SessionManager
  | .create options drawn =>
      match manager.create options drawn with
      | .ok (_, after) => after
      | .error _ => manager
  | .delete sessionId => manager.delete sessionId
  | .touch sessionId now => manager.touch sessionId now
  | .assign sessionId state agentReady => manager.assign sessionId state agentReady
  | .sweep now => manager.sweep now

def newManager (maxSessions sessionIdleTimeout : Nat) : SessionManager :=
  ⟨.empty, .empty, maxSessions, sessionIdleTimeout⟩

/-- A new session's id is not taken. -/
def DrawsFresh (manager : SessionManager) : ManagerInput → Prop
  | .create _ drawn => manager.get drawn.sessionId = none
  | _ => True

/-- The index and the sessions agree. -/
structure Consistent (manager : SessionManager) : Prop where
  held : ∀ id session, manager.get id = some session →
    session.id = id ∧ id ≠ "" ∧ session.publicId ≠ some ""
  indexed : ∀ publicId id, manager.tunnelIndex.get? publicId = some id →
    ∃ session, manager.get id = some session ∧ session.publicId = some publicId
  found : ∀ id session publicId, manager.get id = some session →
    session.publicId = some publicId → manager.getByPublicId publicId = some session
  unshared : ∀ id other session otherSession publicId, manager.get id = some session →
    manager.get other = some otherSession → session.publicId = some publicId →
    otherSession.publicId = some publicId → id = other

/-- A session that is not durable is created under a public id that has a session. -/
def Overwrites (manager : SessionManager) : ManagerInput → Prop
  | .create options _ => options.durable = false ∧ options.isPublic = true ∧
      manager.sessions.size < manager.maxSessions ∧
      ∃ publicId, options.desired = some publicId ∧
        SessionManager.publicIdShape publicId = true ∧
        (manager.getByPublicId publicId).isSome = true
  | _ => False

theorem consistent_newManager (maxSessions sessionIdleTimeout : Nat) :
    Consistent (newManager maxSessions sessionIdleTimeout) := by
  constructor
  · intro id session found
    cases found
  · intro publicId id found
    cases found
  · intro id session publicId found
    cases found
  · intro id other session otherSession publicId found
    cases found

namespace Consistent

variable {manager : SessionManager}

theorem getByPublicId_eq (consistent : Consistent manager) {publicId id : String}
    (entry : manager.tunnelIndex.get? publicId = some id) :
    manager.getByPublicId publicId = manager.get id := by
  obtain ⟨session, isHeld, _⟩ := consistent.indexed publicId id entry
  unfold SessionManager.getByPublicId
  rw [entry]
  exact if_neg (consistent.held id session isHeld).2.1

theorem getByPublicId_none (consistent : Consistent manager) {publicId : String} :
    manager.getByPublicId publicId = none ↔ manager.tunnelIndex.get? publicId = none := by
  grind [SessionManager.getByPublicId, consistent.indexed, consistent.getByPublicId_eq]

theorem publicId_of_found (consistent : Consistent manager) {publicId : String}
    {session : TunnelSession} (found : manager.getByPublicId publicId = some session) :
    session.publicId = some publicId ∧ manager.get session.id = some session := by
  cases entry : manager.tunnelIndex.get? publicId with
  | none =>
      rw [consistent.getByPublicId_none.mpr entry] at found
      cases found
  | some id =>
      grind [consistent.indexed, consistent.getByPublicId_eq, consistent.held]

end Consistent

/-! ### One step -/

section Steps

variable {manager : SessionManager}

theorem get_add (session : TunnelSession) (id : String) :
    (manager.add session).get id = if id = session.id then some session else manager.get id :=
  manager.sessions.get?_set session.id id session

variable {session : TunnelSession} {options : CreateOptions} {drawn : Drawn}

theorem tunnelIndex_add (named : session.publicId ≠ some "") (publicId : String) :
    (manager.add session).tunnelIndex.get? publicId =
      if session.publicId = some publicId then some session.id
      else manager.tunnelIndex.get? publicId := by
  unfold SessionManager.add
  dsimp only
  cases carried : session.publicId with
  | none => rw [if_neg (by intro same; cases same)]
  | some own =>
      have ownNamed : own ≠ "" := by
        grind
      dsimp only
      rw [if_neg ownNamed, OrderedMap.get?_set]
      grind

theorem consistent_add (consistent : Consistent manager) (fresh : manager.get session.id = none)
    (identified : session.id ≠ "") (named : session.publicId ≠ some "")
    (free : ∀ publicId, session.publicId = some publicId →
        manager.tunnelIndex.get? publicId = none) :
    Consistent (manager.add session) := by
  have own : (manager.add session).get session.id = some session := by
    rw [get_add, if_pos rfl]
  have other : ∀ id holder, manager.get id = some holder → id ≠ session.id := by
    grind
  have kept : ∀ id holder, manager.get id = some holder →
      (manager.add session).get id = some holder := by
    intro id holder isHeld
    rw [get_add, if_neg (other id holder isHeld), isHeld]
  have apart : ∀ id holder publicId, manager.get id = some holder →
      holder.publicId = some publicId → session.publicId ≠ some publicId := by
    intro id holder publicId isHeld carries same
    have missing := free publicId same
    have found := consistent.found id holder publicId isHeld carries
    rw [consistent.getByPublicId_none.mpr missing] at found
    cases found
  constructor
  · grind [get_add, consistent.held]
  · grind [tunnelIndex_add, consistent.indexed]
  · intro id holder publicId isHeld carries
    rw [get_add] at isHeld
    unfold SessionManager.getByPublicId
    rw [tunnelIndex_add named]
    split at isHeld
    · cases isHeld
      rw [if_pos carries]
      dsimp only
      rw [if_neg identified]
      exact own
    · rw [if_neg (apart id holder publicId isHeld carries)]
      have found := consistent.found id holder publicId isHeld carries
      cases entry : manager.tunnelIndex.get? publicId with
      | none =>
          rw [consistent.getByPublicId_none.mpr entry] at found
          cases found
      | some holderId =>
          rw [consistent.getByPublicId_eq entry] at found
          dsimp only
          rw [if_neg (consistent.held holderId holder found).2.1]
          exact kept holderId holder found
  · grind [get_add, consistent.unshared]

/-- A session under the public id of another one: the two share it. -/
theorem not_consistent_add (consistent : Consistent manager) (fresh : manager.get session.id = none)
    {publicId : String} (carries : session.publicId = some publicId)
    (taken : (manager.getByPublicId publicId).isSome = true) :
    ¬Consistent (manager.add session) := by
  intro after
  obtain ⟨holder, found⟩ := Option.isSome_iff_exists.mp taken
  obtain ⟨holderCarries, isHeld⟩ := consistent.publicId_of_found found
  have different : holder.id ≠ session.id := by
    intro same
    rw [same, fresh] at isHeld
    cases isHeld
  apply different
  apply after.unshared holder.id session.id holder session publicId
  · rw [get_add, if_neg different, isHeld]
  · rw [get_add, if_pos rfl]
  · exact holderCarries
  · exact carries

theorem get_delete (sessionId id : String) :
    (manager.delete sessionId).get id = if id = sessionId then none else manager.get id := by
  unfold SessionManager.delete
  cases isHeld : manager.sessions.get? sessionId with
  | none =>
      dsimp only
      by_cases same : id = sessionId
      · rw [if_pos same, same]
        exact isHeld
      · rw [if_neg same]
  | some session => exact manager.sessions.get?_delete sessionId id

theorem tunnelIndex_delete {sessionId : String} (isHeld : manager.get sessionId = some session)
    (named : session.publicId ≠ some "") (publicId : String) :
    (manager.delete sessionId).tunnelIndex.get? publicId =
      if session.publicId = some publicId then none else manager.tunnelIndex.get? publicId := by
  have here : manager.sessions.get? sessionId = some session := isHeld
  unfold SessionManager.delete
  rw [here]
  dsimp only
  cases carried : session.publicId with
  | none => rw [if_neg (by intro same; cases same)]
  | some own =>
      have ownNamed : own ≠ "" := by
        grind
      dsimp only
      rw [if_neg ownNamed, OrderedMap.get?_delete]
      grind

theorem consistent_delete (consistent : Consistent manager) (sessionId : String) :
    Consistent (manager.delete sessionId) := by
  cases isHeld : manager.get sessionId with
  | none =>
      have same : manager.delete sessionId = manager := by
        have here : manager.sessions.get? sessionId = none := isHeld
        unfold SessionManager.delete
        rw [here]
      rw [same]
      exact consistent
  | some session =>
      have named := (consistent.held sessionId session isHeld).2.2
      have before : ∀ id holder, (manager.delete sessionId).get id = some holder →
          id ≠ sessionId ∧ manager.get id = some holder := by
        simp [get_delete]
      constructor
      · grind [consistent.held]
      · grind [tunnelIndex_delete, get_delete, consistent.indexed]
      · intro id holder publicId after carries
        obtain ⟨different, holderHeld⟩ := before id holder after
        have notCarried : session.publicId ≠ some publicId := by
          grind [consistent.unshared]
        have found := consistent.found id holder publicId holderHeld carries
        unfold SessionManager.getByPublicId
        rw [tunnelIndex_delete isHeld named, if_neg notCarried]
        cases entry : manager.tunnelIndex.get? publicId with
        | none =>
            rw [consistent.getByPublicId_none.mpr entry] at found
            cases found
        | some holderId =>
            rw [consistent.getByPublicId_eq entry] at found
            have sameId := consistent.unshared holderId id holder holder publicId found holderHeld
              carries carries
            dsimp only
            rw [sameId, if_neg (consistent.held id holder holderHeld).2.1]
            exact after
      · grind [consistent.unshared]

theorem get_update {sessionId : String} (isHeld : manager.get sessionId = some session)
    (change : TunnelSession → TunnelSession) (id : String) :
    (manager.update sessionId change).get id =
      if id = sessionId then some (change session) else manager.get id := by
  have here : manager.sessions.get? sessionId = some session := isHeld
  unfold SessionManager.update
  rw [here]
  exact manager.sessions.get?_set sessionId id (change session)

/-- A change that leaves the ids alone. -/
theorem consistent_update (consistent : Consistent manager) (sessionId : String)
    {change : TunnelSession → TunnelSession}
    (keeps : ∀ session, (change session).id = session.id ∧
      (change session).publicId = session.publicId) :
    Consistent (manager.update sessionId change) := by
  cases isHeld : manager.get sessionId with
  | none =>
      have same : manager.update sessionId change = manager := by
        have here : manager.sessions.get? sessionId = none := isHeld
        unfold SessionManager.update
        rw [here]
      rw [same]
      exact consistent
  | some session =>
      have index : (manager.update sessionId change).tunnelIndex = manager.tunnelIndex := by
        unfold SessionManager.update
        split
        · rfl
        · rfl
      -- every session of the changed manager comes from one with the same ids
      have before : ∀ id holder, (manager.update sessionId change).get id = some holder →
          ∃ old, manager.get id = some old ∧ holder.id = old.id ∧
            holder.publicId = old.publicId := by
        grind [get_update]
      have kept : ∀ id old, manager.get id = some old →
          ∃ holder, (manager.update sessionId change).get id = some holder ∧
            holder.publicId = old.publicId := by
        intro id old oldHeld
        rw [get_update isHeld]
        grind
      constructor
      · grind [consistent.held]
      · grind [consistent.indexed]
      · intro id holder publicId after carries
        obtain ⟨old, oldHeld, _, samePublicId⟩ := before id holder after
        rw [samePublicId] at carries
        have found := consistent.found id old publicId oldHeld carries
        unfold SessionManager.getByPublicId
        rw [index]
        cases entry : manager.tunnelIndex.get? publicId with
        | none =>
            rw [consistent.getByPublicId_none.mpr entry] at found
            cases found
        | some holderId =>
            rw [consistent.getByPublicId_eq entry] at found
            have sameId := consistent.unshared holderId id old old publicId found oldHeld
              carries carries
            dsimp only
            rw [sameId, if_neg (consistent.held id old oldHeld).2.1]
            exact after
      · intro id other holder otherHolder publicId after otherAfter carries otherCarries
        grind [consistent.unshared]

theorem consistent_sweep (consistent : Consistent manager) (now : Nat) :
    Consistent (manager.sweep now) := by
  unfold SessionManager.sweep
  generalize (List.map Prod.fst _) = dropped
  induction dropped generalizing manager with
  | nil => exact consistent
  | cons sessionId rest inductionHypothesis =>
      exact inductionHypothesis (consistent_delete consistent sessionId)

theorem generatePublicId_spec {publicIds : List String} {publicId : String}
    (generated : manager.generatePublicId publicIds = .ok publicId) :
    publicId ∈ publicIds ∧ manager.tunnelIndex.get? publicId = none := by
  grind [SessionManager.generatePublicId, OrderedMap.has, Option.isNone_iff_eq_none]

theorem resolvePublicId_spec {resolved : Option String}
    (resolves : manager.resolvePublicId options drawn.publicIds = .ok resolved) :
    resolved = none ∨
      (options.isPublic = true ∧ ∃ publicId, resolved = some publicId ∧ publicId ≠ "" ∧
        (options.desired = some publicId ∧ SessionManager.publicIdShape publicId = true ∨
          manager.tunnelIndex.get? publicId = none)) := by
  unfold SessionManager.resolvePublicId at resolves
  split at resolves
  · cases resolves
    exact .inl rfl
  rename_i isPublic
  rw [Bool.not_eq_true, Bool.not_eq_false'] at isPublic
  apply Or.inr
  refine ⟨isPublic, ?_⟩
  split at resolves
  · rename_i publicId asked
    split at resolves
    · rename_i shaped
      cases resolves
      have nonempty : publicId ≠ "" := by
        unfold CreateOptions.desired at asked
        exact bne_iff_ne.mp (Option.filter_eq_some_iff.mp asked).2
      exact ⟨publicId, rfl, nonempty, .inl ⟨asked, shaped⟩⟩
    · cases resolves
  · cases generated : manager.generatePublicId drawn.publicIds with
    | error message =>
        rw [generated] at resolves
        cases resolves
    | ok publicId =>
        rw [generated] at resolves
        cases resolves
        obtain ⟨member, free⟩ := generatePublicId_spec generated
        obtain ⟨suffix, _, rfl⟩ := List.mem_map.mp member
        exact ⟨_, rfl, by simp, .inr free⟩

/-- What a creation that adds a session does. -/
theorem create_eq (missing : manager.existing options = none)
    (room : manager.sessions.size < manager.maxSessions) :
    manager.create options drawn =
      (manager.resolvePublicId options drawn.publicIds).map fun publicId =>
        (SessionManager.newSession options drawn publicId,
          manager.add (SessionManager.newSession options drawn publicId)) := by
  unfold SessionManager.create
  rw [missing]
  exact if_neg (by omega)

theorem sessionId_ne_empty (drawn : Drawn) : drawn.sessionId ≠ "" := by
  unfold Drawn.sessionId
  simp

theorem consistent_create_iff (consistent : Consistent manager)
    (fresh : manager.get drawn.sessionId = none) :
    Consistent (managerStep manager (.create options drawn)) ↔
      ¬Overwrites manager (.create options drawn) := by
  constructor
  · intro after overwrites
    obtain ⟨notDurable, isPublic, room, publicId, asked, shaped, taken⟩ := overwrites
    have missing : manager.existing options = none := by
      unfold SessionManager.existing
      rw [notDurable]
      rfl
    have resolved : manager.resolvePublicId options drawn.publicIds = .ok (some publicId) := by
      unfold SessionManager.resolvePublicId
      rw [isPublic, asked]
      dsimp only
      rw [shaped]
      rfl
    have added : managerStep manager (.create options drawn) =
        manager.add (SessionManager.newSession options drawn (some publicId)) := by
      unfold managerStep
      dsimp only
      rw [create_eq missing room, resolved]
      rfl
    rw [added] at after
    exact not_consistent_add consistent fresh rfl taken after
  · intro harmless
    unfold managerStep
    dsimp only
    cases missing : manager.existing options with
    | some session =>
        unfold SessionManager.create
        rw [missing]
        exact consistent
    | none =>
        by_cases room : manager.sessions.size < manager.maxSessions
        · rw [create_eq missing room]
          cases resolves : manager.resolvePublicId options drawn.publicIds with
          | error message => exact consistent
          | ok resolved =>
              show Consistent (manager.add (SessionManager.newSession options drawn resolved))
              apply consistent_add consistent fresh (sessionId_ne_empty drawn)
              · rcases resolvePublicId_spec resolves with none | ⟨_, publicId, same, nonempty, _⟩
                · rw [none]
                  intro named
                  cases named
                · rw [same]
                  intro named
                  exact nonempty (Option.some.inj named)
              · intro publicId carried
                have sameId : resolved = some publicId := carried
                rcases resolvePublicId_spec resolves with none | ⟨isPublic, own, same, _, free⟩
                · rw [none] at sameId
                  cases sameId
                rw [sameId] at same
                cases same
                rcases free with ⟨asked, shaped⟩ | free
                · rw [← consistent.getByPublicId_none, ← Option.not_isSome_iff_eq_none]
                  intro taken
                  cases durability : options.durable with
                  | false =>
                      exact harmless ⟨durability, isPublic, room, publicId, asked, shaped, taken⟩
                  | true =>
                      grind [SessionManager.existing]
                · exact free
        · grind [SessionManager.create]

/-- A step keeps the agreement exactly when it does not take another session's public id. -/
theorem consistent_step_iff {input : ManagerInput} (consistent : Consistent manager)
    (fresh : DrawsFresh manager input) :
    Consistent (managerStep manager input) ↔ ¬Overwrites manager input := by
  cases input with
  | create options drawn => exact consistent_create_iff consistent fresh
  | delete sessionId => exact iff_of_true (consistent_delete consistent sessionId) id
  | touch sessionId now =>
      exact iff_of_true (consistent_update consistent sessionId fun _ => ⟨rfl, rfl⟩) id
  | assign sessionId state agentReady =>
      exact iff_of_true (consistent_update consistent sessionId fun _ => ⟨rfl, rfl⟩) id
  | sweep now => exact iff_of_true (consistent_sweep consistent now) id

end Steps

/-! ### All runs -/

/-- In every run of the manager the index and the sessions agree after every step exactly when no
session that is not durable is created under a public id that has a session. -/
theorem index_consistent_iff (maxSessions sessionIdleTimeout : Nat) (inputs : List ManagerInput)
    (fresh : AlongRun managerStep DrawsFresh (newManager maxSessions sessionIdleTimeout) inputs) :
    AlongRun managerStep (fun manager input => Consistent (managerStep manager input))
        (newManager maxSessions sessionIdleTimeout) inputs ↔
      AlongRun managerStep (fun manager input => ¬Overwrites manager input)
        (newManager maxSessions sessionIdleTimeout) inputs :=
  alongRun_kept_iff (fun _ _ consistent draws => consistent_step_iff consistent draws)
    (consistent_newManager maxSessions sessionIdleTimeout) fresh

def tunnelOptions (publicId : Option String) (durable : Bool) : CreateOptions where
  hostId := "local"
  containerId := "container"
  command := ["tunnel-agent"]
  label := "web"
  appId := some "app"
  mode := .persistent
  protocol := .framed
  tty := false
  isPublic := true
  desiredPublicId := publicId
  durable := durable

/-- A durable tunnel, created twice, beside one that takes what it is given. -/
def sampleCreations : List ManagerInput :=
  [.create (tunnelOptions (some "tn-web") true) ⟨"a", [], 0⟩,
    .create (tunnelOptions (some "tn-web") true) ⟨"b", [], 1⟩,
    .create (tunnelOptions none false) ⟨"c", ["0123456789"], 2⟩, .delete "sess_c", .sweep 9]

theorem index_consistent_sample :
    AlongRun managerStep (fun manager input => Consistent (managerStep manager input))
      (newManager 8 3600000) sampleCreations := by
  apply (index_consistent_iff 8 3600000 sampleCreations ?_).mpr
  · refine ⟨?_, ?_, ?_, id, id, trivial⟩
    · intro overwrites
      exact absurd overwrites.1 (by decide)
    · intro overwrites
      exact absurd overwrites.1 (by decide)
    · intro overwrites
      obtain ⟨_, _, _, publicId, asked, _⟩ := overwrites
      cases asked
  · have fresh : ∀ manager : SessionManager, ∀ options drawn,
        manager.get drawn.sessionId = none → DrawsFresh manager (.create options drawn) :=
      fun _ _ _ free => free
    exact ⟨fresh _ _ _ (by decide +kernel), fresh _ _ _ (by decide +kernel),
      fresh _ _ _ (by decide +kernel), trivial, trivial, trivial⟩

/-- Two sessions that are not durable, created under one public id. -/
def sharedCreations : List ManagerInput :=
  [.create (tunnelOptions (some "tn-web") false) ⟨"a", [], 0⟩,
    .create (tunnelOptions (some "tn-web") false) ⟨"b", [], 1⟩]

theorem index_shared : ¬Consistent (run managerStep (newManager 8 3600000) sharedCreations) := by
  intro consistent
  have same := consistent.unshared "sess_a" "sess_b"
    (SessionManager.newSession (tunnelOptions (some "tn-web") false) ⟨"a", [], 0⟩ (some "tn-web"))
    (SessionManager.newSession (tunnelOptions (some "tn-web") false) ⟨"b", [], 1⟩ (some "tn-web"))
    "tn-web" (by decide +kernel) (by decide +kernel) rfl rfl
  exact absurd same (by decide)

end Lombok.Tunnel
