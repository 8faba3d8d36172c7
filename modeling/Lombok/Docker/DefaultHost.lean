import Lombok.Core.Values
import Lombok.Library.Run
import Lombok.Library.Table

/-!
Contract: the default among the docker hosts.

Owns `createHost`, `updateHost`, `deleteHost` and `clearDefaultHost` statement
by statement, `resolveProfileConfig`, and runs in which calls take their
statements in any order and every statement may fail.

The flag is taken from the old default and given to the new one by two
statements outside of a transaction, and no constraint keeps two rows from
having it. Does not own the notice to the bridge, or the writers of apps,
assignments, containers and tunnels, which may change at every step.
-/

namespace Lombok.Docker.Hosts

open Lombok.Core Lombok.Library

/-! ### The tables -/

structure TlsConfig where
  ca : Option String
  cert : Option String
  key : Option String
deriving DecidableEq

inductive HealthStatus where
  | healthy
  | unhealthy
  | unknown
deriving DecidableEq

/-- A row of `dockerHostsTable`. -/
structure HostRow where
  id : String
  label : String
  type : String
  host : String
  tlsConfig : Option TlsConfig
  isDefault : Bool
  enabled : Bool
  healthStatus : HealthStatus
  lastHealthCheck : Option Date
  createdAt : Date
  updatedAt : Date
deriving DecidableEq

/-- The primary key. -/
def HostRow.clash (left right : HostRow) : Bool := left.id == right.id

abbrev HostsTable := Table HostRow HostRow.clash

def HostRow.hasId (id : String) (row : HostRow) : Bool := row.id == id

structure ProfileApp where
  id : String
  identifier : String
  slug : String
deriving DecidableEq

/-- A row of `dockerProfileResourceAssignmentsTable`. -/
structure ProfileAssignment where
  appId : String
  profileKey : String
  dockerHostId : String
  config : Json

/-- The rows beside the hosts: apps, and what refers to a host. Of a container or a tunnel its
host is kept. -/
structure HostReferences where
  apps : List ProfileApp := []
  assignments : List ProfileAssignment := []
  containers : List String := []
  tunnels : List String := []

namespace HostReferences

def assignmentsTo (references : HostReferences) (hostId : String) : Nat :=
  references.assignments.countP fun assignment => assignment.dockerHostId == hostId

def containersOn (references : HostReferences) (hostId : String) : Nat :=
  references.containers.countP fun container => container == hostId

/-- A foreign key keeps the host from being deleted. -/
def holds (references : HostReferences) (hostId : String) : Bool :=
  0 < references.assignmentsTo hostId || 0 < references.containersOn hostId ||
    references.tunnels.contains hostId

end HostReferences

/-! ### Resolution -/

def getHost (hosts : HostsTable) (id : String) : Option HostRow := hosts.find? (HostRow.hasId id)

def getHostOrThrow (hosts : HostsTable) (id : String) : Except ApiError HostRow :=
  match getHost hosts id with
  | none => .error (.notFound ("Docker host not found: " ++ id))
  | some host => .ok host

structure ResolvedProfile where
  hostId : String
  host : HostRow
  resourceConfig : Option Json

def findProfileApp (references : HostReferences) (appIdentifier : String) : Option ProfileApp :=
  (references.apps.find? fun app => app.identifier == appIdentifier).or
    (references.apps.find? fun app => app.slug == appIdentifier)

def findAssignment (references : HostReferences) (appIdentifier profileKey : String) :
    Option ProfileAssignment :=
  (findProfileApp references appIdentifier).bind fun app =>
    references.assignments.find? fun assignment =>
      assignment.appId == app.id && assignment.profileKey == profileKey

/-- The row a `findFirst` without an order gives of the rows that match. -/
structure FirstRow where
  pick : List HostRow → Option HostRow
  picksSome : ∀ rows, rows ≠ [] → (pick rows).isSome = true
  picksMember : ∀ rows, ∀ row ∈ pick rows, row ∈ rows

def resolveProfileConfig (first : FirstRow) (hosts : HostsTable) (references : HostReferences)
    (appIdentifier profileKey : String) : Except ApiError ResolvedProfile :=
  let assigned := fun assignment : ProfileAssignment => do
    let host ← getHostOrThrow hosts assignment.dockerHostId
    .ok { hostId := host.id, host := host, resourceConfig := some assignment.config }
  match findAssignment references appIdentifier profileKey with
  | some exact => assigned exact
  | none =>
      match findAssignment references appIdentifier "_default" with
      | some appDefault => assigned appDefault
      | none =>
          match first.pick (hosts.view HostRow.isDefault) with
          | none =>
              .error (.notFound ("No docker host configured for profile " ++ appIdentifier ++ ":" ++
                profileKey ++ " and no default host set."))
          | some defaultHost =>
              .ok { hostId := defaultHost.id, host := defaultHost, resourceConfig := none }

/-! ### Calls -/

structure HostInput where
  label : String
  type : String
  host : String
  tlsConfig : Option TlsConfig := none
  isDefault : Option Bool := none
  enabled : Option Bool := none

structure HostUpdate where
  label : Option String := none
  type : Option String := none
  host : Option String := none
  tlsConfig : Option TlsConfig := none
  isDefault : Option Bool := none
  enabled : Option Bool := none

def createdHost (id : String) (now : Date) (input : HostInput) : HostRow where
  id := id
  label := input.label
  type := input.type
  host := input.host
  tlsConfig := input.tlsConfig
  isDefault := input.isDefault.getD false
  enabled := input.enabled.getD true
  healthStatus := .unknown
  lastHealthCheck := none
  createdAt := now
  updatedAt := now

/-- `set({ ...input, updatedAt })`, which leaves the columns alone that are not given. -/
def HostRow.updated (input : HostUpdate) (now : Date) (row : HostRow) : HostRow :=
  { row with
    label := input.label.getD row.label
    type := input.type.getD row.type
    host := input.host.getD row.host
    tlsConfig := input.tlsConfig.or row.tlsConfig
    isDefault := input.isDefault.getD row.isDefault
    enabled := input.enabled.getD row.enabled
    updatedAt := now }

def HostRow.cleared (now : Date) (row : HostRow) : HostRow :=
  { row with isDefault := false, updatedAt := now }

def HostRow.checked (status : HealthStatus) (now : Date) (row : HostRow) : HostRow :=
  { row with healthStatus := status, lastHealthCheck := some now, updatedAt := now }

theorem keeps_updated (input : HostUpdate) (now : Date) :
    Keeps HostRow.clash (HostRow.updated input now) := fun _ _ => ⟨rfl, rfl⟩

theorem keeps_cleared (now : Date) : Keeps HostRow.clash (HostRow.cleared now) :=
  fun _ _ => ⟨rfl, rfl⟩

theorem keeps_checked (status : HealthStatus) (now : Date) :
    Keeps HostRow.clash (HostRow.checked status now) := fun _ _ => ⟨rfl, rfl⟩

def clearDefaultHost (hosts : HostsTable) (now : Date) : HostsTable :=
  hosts.update HostRow.isDefault (HostRow.cleared now) (keeps_cleared now)

def updateHostHealth (hosts : HostsTable) (id : String) (status : HealthStatus) (now : Date) :
    HostsTable :=
  hosts.update (HostRow.hasId id) (HostRow.checked status now) (keeps_checked status now)

inductive HostCall where
  | create (id : String) (now : Date) (input : HostInput)
  | update (id : String) (input : HostUpdate)
  | delete (id : String)

/-- The next statement of a call. -/
inductive HostStatement where
  | createClearing (id : String) (now : Date) (input : HostInput)
  | createWriting (id : String) (now : Date) (input : HostInput)
  | updateReading (id : String) (input : HostUpdate)
  | updateClearing (id : String) (input : HostUpdate)
  | updateWriting (id : String) (input : HostUpdate)
  | deleteAssignments (id : String)
  | deleteContainers (id : String) (assignments : Nat)
  | deleteWriting (id : String)

def HostCall.first : HostCall → HostStatement
  | .create id now input =>
      if input.isDefault = some true then .createClearing id now input
      else .createWriting id now input
  | .update id input => .updateReading id input
  | .delete id => .deleteAssignments id

def HostStatement.execute (references : HostReferences) (hosts : HostsTable) (now : Date) :
    HostStatement → Except ApiError (HostsTable × Option HostStatement)
  | createClearing id at' input =>
      .ok (clearDefaultHost hosts now, some (.createWriting id at' input))
  | createWriting id at' input =>
      match hosts.insert (createdHost id at' input) with
      | none => .error (.uniqueViolation "docker_hosts_pkey")
      | some inserted => .ok (inserted, none)
  | updateReading id input => do
      let _ ← getHostOrThrow hosts id
      .ok (hosts, some (if input.isDefault = some true then .updateClearing id input
        else .updateWriting id input))
  | updateClearing id input => .ok (clearDefaultHost hosts now, some (.updateWriting id input))
  | updateWriting id input =>
      if (getHost hosts id).isSome then
        .ok (hosts.update (HostRow.hasId id) (HostRow.updated input now) (keeps_updated input now),
          none)
      else
        .error (.internal "Failed to update docker host")
  | deleteAssignments id =>
      .ok (hosts, some (.deleteContainers id (references.assignmentsTo id)))
  | deleteContainers id assignments =>
      let containers := references.containersOn id
      if assignments > 0 ∨ containers > 0 then
        .error (.badRequest ("Cannot delete host: still referenced by " ++ toString assignments ++
          " profile assignment(s) and " ++ toString containers ++
          " standalone container(s). Delete or reassign them first."))
      else
        .ok (hosts, some (.deleteWriting id))
  | deleteWriting id =>
      if (getHost hosts id).isNone then
        .error (.notFound ("Docker host not found: " ++ id))
      else if references.holds id then
        .error (.error "docker_hosts is still referenced")
      else
        .ok (hosts.delete (HostRow.hasId id), none)

def HostStatement.givesDefault : HostStatement → Option String
  | createWriting id _ input => if input.isDefault = some true then some id else none
  | updateWriting id input => if input.isDefault = some true then some id else none
  | _ => none

/-! ### Runs -/

/-- A call that is running; `disturbed` once a statement of it changed which hosts are default. -/
structure RunningHostCall where
  statement : HostStatement
  disturbed : Bool

structure HostsState where
  hosts : HostsTable
  references : HostReferences
  calls : List RunningHostCall
  /-- The calls that threw, each as it was at the statement that failed. -/
  thrown : List RunningHostCall

def HostsState.start (hosts : HostsTable) : HostsState where
  hosts := hosts
  references := {}
  calls := []
  thrown := []

inductive HostsEvent where
  | begin (call : HostCall)
  /-- The call at the index executes its statement, which the database may fail. -/
  | advance (index : Nat) (now : Date) (failure : Option ApiError)
  | health (id : String) (status : HealthStatus) (now : Date)
  | refer (references : HostReferences)

def defaultHosts (hosts : HostsTable) : List String :=
  (hosts.view HostRow.isDefault).map HostRow.id

namespace HostsState

/-- What the statement of a running call comes to. -/
def outcome (state : HostsState) (running : RunningHostCall) (now : Date)
    (failure : Option ApiError) : Except ApiError (HostsTable × Option HostStatement) :=
  match failure with
  | some error => .error error
  | none => running.statement.execute state.references state.hosts now

def throwAt (state : HostsState) (index : Nat) (running : RunningHostCall) : HostsState :=
  { state with
    calls := state.calls.eraseIdx index
    thrown := state.thrown ++ [running] }

def goOn (state : HostsState) (index : Nat) (running : RunningHostCall) (hosts : HostsTable)
    (next : Option HostStatement) : HostsState :=
  let disturbed := running.disturbed || defaultHosts state.hosts != defaultHosts hosts
  { state with
    hosts := hosts
    calls :=
      match next with
      | none => state.calls.eraseIdx index
      | some statement => state.calls.set index { statement := statement, disturbed := disturbed } }

def advance (state : HostsState) (index : Nat) (now : Date) (failure : Option ApiError) :
    HostsState :=
  match state.calls[index]? with
  | none => state
  | some running =>
      match state.outcome running now failure with
      | .error _ => state.throwAt index running
      | .ok (hosts, next) => state.goOn index running hosts next

def step (state : HostsState) : HostsEvent → HostsState
  | .begin call =>
      { state with calls := state.calls ++ [{ statement := call.first, disturbed := false }] }
  | .advance index now failure => state.advance index now failure
  | .health id status now => { state with hosts := updateHostHealth state.hosts id status now }
  | .refer references => { state with references := references }

/-- Neither the profile nor its app has an assignment. -/
def Unassigned (state : HostsState) (appIdentifier profileKey : String) : Prop :=
  findAssignment state.references appIdentifier profileKey = none ∧
    findAssignment state.references appIdentifier "_default" = none

def hostOf (state : HostsState) (first : FirstRow) (appIdentifier profileKey : String) :
    Option HostRow :=
  (resolveProfileConfig first state.hosts state.references appIdentifier profileKey).toOption.map
    ResolvedProfile.host

end HostsState

structure OneDefaultHost (state : HostsState) : Prop where
  atMostOne : state.calls = [] → (defaultHosts state.hosts).length ≤ 1
  throwsKeep : ∀ running ∈ state.thrown, running.disturbed = false
  sameHost : state.calls = [] → ∀ (first second : FirstRow) (appIdentifier profileKey
    otherIdentifier otherKey : String), state.Unassigned appIdentifier profileKey →
    state.Unassigned otherIdentifier otherKey →
    state.hostOf first appIdentifier profileKey = state.hostOf second otherIdentifier otherKey

/-- A call that took the flag from a host gets to give it, and no other host has got it in the
meantime. -/
structure TakesOver (state : HostsState) (running : RunningHostCall) (now : Date)
    (failure : Option ApiError) : Prop where
  completes : running.disturbed = true → ∃ result, state.outcome running now failure = .ok result
  alone : ∀ id, running.statement.givesDefault = some id →
    ∀ row ∈ state.hosts.rows, row.isDefault = true → row.id = id

def TakesOverAlone (state : HostsState) : HostsEvent → Prop
  | .advance index now failure =>
      ∀ running, state.calls[index]? = some running → TakesOver state running now failure
  | _ => True

/-! ### What a statement leaves -/

/-- No two hosts have the flag. -/
def AtMostOneDefault (hosts : HostsTable) : Prop :=
  ∀ left ∈ hosts.rows, ∀ right ∈ hosts.rows, left.isDefault = true → right.isDefault = true →
    left.id = right.id

variable {hosts : HostsTable} {now : Date} {state : HostsState} {after : HostsTable}
    (first : FirstRow)

theorem AtMostOneDefault.length_le_one (atMostOne : AtMostOneDefault hosts) :
    (hosts.view HostRow.isDefault).length ≤ 1 := by
  refine hosts.view_length_le_one ?_
  intro left leftMember right rightMember leftDefault rightDefault
  exact beq_iff_eq.mpr (atMostOne left leftMember right rightMember leftDefault rightDefault)

/-- Hosts that only take the flag away keep it with one host at most. -/
theorem AtMostOneDefault.of_fewer (atMostOne : AtMostOneDefault hosts)
    (fewer : ∀ row ∈ after.rows, row.isDefault = true →
      ∃ old ∈ hosts.rows, old.id = row.id ∧ old.isDefault = true) : AtMostOneDefault after := by
  intro left leftMember right rightMember leftDefault rightDefault
  obtain ⟨oldLeft, oldLeftMember, leftSame, oldLeftDefault⟩ := fewer left leftMember leftDefault
  obtain ⟨oldRight, oldRightMember, rightSame, oldRightDefault⟩ :=
    fewer right rightMember rightDefault
  rw [← leftSame, ← rightSame]
  exact atMostOne oldLeft oldLeftMember oldRight oldRightMember oldLeftDefault oldRightDefault

theorem AtMostOneDefault.update (atMostOne : AtMostOneDefault hosts) {condition : HostRow → Bool}
    {change : HostRow → HostRow} {keeps : Keeps HostRow.clash change}
    (sameId : ∀ row, (change row).id = row.id)
    (takes : ∀ row, (change row).isDefault = true → row.isDefault = true) :
    AtMostOneDefault (hosts.update condition change keeps) := by
  grind [atMostOne.of_fewer, Table.mem_update.mp]

theorem AtMostOneDefault.clear (atMostOne : AtMostOneDefault hosts) (now : Date) :
    AtMostOneDefault (clearDefaultHost hosts now) :=
  atMostOne.update (fun _ => rfl) fun _ isDefault => Bool.noConfusion isDefault

theorem AtMostOneDefault.health (atMostOne : AtMostOneDefault hosts) (id : String)
    (status : HealthStatus) (now : Date) :
    AtMostOneDefault (updateHostHealth hosts id status now) :=
  atMostOne.update (fun _ => rfl) fun _ isDefault => isDefault

theorem AtMostOneDefault.create (atMostOne : AtMostOneDefault hosts) {id : String}
    {input : HostInput} (inserted : hosts.insert (createdHost id now input) = some after)
    (alone : input.isDefault = some true → ∀ row ∈ hosts.rows, row.isDefault = true → row.id = id) :
    AtMostOneDefault after := by
  by_cases gives : input.isDefault = some true
  · have onlyOwn : ∀ row ∈ after.rows, row.isDefault = true → row.id = id := by
      intro row member isDefault
      rcases (Table.mem_insert inserted).mp member with old | rfl
      · exact alone gives row old isDefault
      · rfl
    intro left leftMember right rightMember leftDefault rightDefault
    rw [onlyOwn left leftMember leftDefault, onlyOwn right rightMember rightDefault]
  · refine atMostOne.of_fewer ?_
    intro row member isDefault
    rcases (Table.mem_insert inserted).mp member with old | rfl
    · exact ⟨row, old, rfl, isDefault⟩
    · exfalso
      change input.isDefault.getD false = true at isDefault
      cases given : input.isDefault with
      | none =>
          rw [given] at isDefault
          cases isDefault
      | some flag =>
          grind

theorem AtMostOneDefault.change (atMostOne : AtMostOneDefault hosts) {id : String}
    {input : HostUpdate}
    (alone : input.isDefault = some true → ∀ row ∈ hosts.rows, row.isDefault = true → row.id = id) :
    AtMostOneDefault (hosts.update (HostRow.hasId id) (HostRow.updated input now)
      (keeps_updated input now)) := by
  by_cases gives : input.isDefault = some true
  · have onlyOwn : ∀ row ∈ (hosts.update (HostRow.hasId id) (HostRow.updated input now)
        (keeps_updated input now)).rows, row.isDefault = true → row.id = id := by
      intro row member isDefault
      obtain ⟨old, oldMember, rfl⟩ := Table.mem_update.mp member
      split
      · rename_i selected
        exact beq_iff_eq.mp selected
      · grind
    intro left leftMember right rightMember leftDefault rightDefault
    rw [onlyOwn left leftMember leftDefault, onlyOwn right rightMember rightDefault]
  · refine atMostOne.update (fun _ => rfl) ?_
    intro row isDefault
    change input.isDefault.getD row.isDefault = true at isDefault
    cases given : input.isDefault with
    | none =>
        rw [given] at isDefault
        exact isDefault
    | some flag =>
        grind

theorem AtMostOneDefault.execute (atMostOne : AtMostOneDefault hosts) {references : HostReferences}
    {statement : HostStatement} {next : Option HostStatement}
    (executed : statement.execute references hosts now = .ok (after, next))
    (alone : ∀ id, statement.givesDefault = some id →
      ∀ row ∈ hosts.rows, row.isDefault = true → row.id = id) : AtMostOneDefault after := by
  cases statement with
  | createClearing id created input =>
      cases executed
      exact atMostOne.clear now
  | createWriting id created input =>
      dsimp only [HostStatement.execute] at executed
      split at executed
      · cases executed
      · rename_i inserted insertion
        cases executed
        exact atMostOne.create insertion fun gives => alone id (if_pos gives)
  | updateReading id input =>
      dsimp only [HostStatement.execute] at executed
      cases found : getHostOrThrow hosts id with
      | error message =>
          rw [found] at executed
          cases executed
      | ok host =>
          rw [found] at executed
          cases executed
          exact atMostOne
  | updateClearing id input =>
      cases executed
      exact atMostOne.clear now
  | updateWriting id input =>
      dsimp only [HostStatement.execute] at executed
      split at executed
      · cases executed
        exact atMostOne.change fun gives => alone id (if_pos gives)
      · cases executed
  | deleteAssignments id =>
      cases executed
      exact atMostOne
  | deleteContainers id assignments =>
      grind [HostStatement.execute]
  | deleteWriting id =>
      dsimp only [HostStatement.execute] at executed
      split at executed
      · cases executed
      · split at executed
        · cases executed
        · cases executed
          refine atMostOne.of_fewer ?_
          intro row member isDefault
          exact ⟨row, (List.mem_filter.mp member).1, rfl, isDefault⟩

/-! ### What a step keeps -/

structure KeepsDefault (state : HostsState) : Prop where
  atMostOne : AtMostOneDefault state.hosts
  throwsKeep : ∀ running ∈ state.thrown, running.disturbed = false

theorem KeepsDefault.advance (kept : KeepsDefault state) {index : Nat} {failure : Option ApiError}
    (takesOver : ∀ running, state.calls[index]? = some running →
      TakesOver state running now failure) : KeepsDefault (state.advance index now failure) := by
  unfold HostsState.advance
  cases isRunning : state.calls[index]? with
  | none => exact kept
  | some running =>
      have takes := takesOver running isRunning
      dsimp only
      cases came : state.outcome running now failure with
      | error message =>
          refine ⟨kept.atMostOne, ?_⟩
          intro other member
          rcases List.mem_append.mp member with earlier | isNew
          · exact kept.throwsKeep other earlier
          · rw [List.mem_singleton.mp isNew, ← Bool.not_eq_true]
            intro disturbed
            obtain ⟨result, completed⟩ := takes.completes disturbed
            rw [came] at completed
            cases completed
      | ok result =>
          refine ⟨?_, kept.throwsKeep⟩
          cases failure with
          | some message => cases came
          | none => exact kept.atMostOne.execute came takes.alone

theorem KeepsDefault.step {event : HostsEvent} (kept : KeepsDefault state)
    (alone : TakesOverAlone state event) : KeepsDefault (state.step event) := by
  cases event with
  | begin call => exact ⟨kept.atMostOne, kept.throwsKeep⟩
  | advance index now failure => exact kept.advance alone
  | health id status now => exact ⟨kept.atMostOne.health id status now, kept.throwsKeep⟩
  | refer references => exact ⟨kept.atMostOne, kept.throwsKeep⟩

/-! ### Resolution with one default host -/

theorem FirstRow.pick_nil : first.pick [] = none := by
  rw [Option.eq_none_iff_forall_not_mem]
  intro row picked
  exact List.not_mem_nil (first.picksMember [] row picked)

theorem FirstRow.pick_single (row : HostRow) : first.pick [row] = some row := by
  obtain ⟨picked, isPicked⟩ := Option.isSome_iff_exists.mp
    (first.picksSome [row] (List.cons_ne_nil row []))
  rw [isPicked, List.mem_singleton.mp (first.picksMember [row] picked isPicked)]

theorem hostOf_unassigned {appIdentifier profileKey : String}
    (unassigned : state.Unassigned appIdentifier profileKey)
    (short : (state.hosts.view HostRow.isDefault).length ≤ 1) :
    state.hostOf first appIdentifier profileKey = (state.hosts.view HostRow.isDefault).head? := by
  unfold HostsState.hostOf resolveProfileConfig
  rw [unassigned.1, unassigned.2]
  rcases listed : state.hosts.view HostRow.isDefault with _ | ⟨row, _ | ⟨other, rest⟩⟩
  · rw [first.pick_nil]
    rfl
  · rw [first.pick_single]
    rfl
  · grind

theorem KeepsDefault.sound (kept : KeepsDefault state) :
    OneDefaultHost state where
  atMostOne _ := by
    rw [defaultHosts, List.length_map]
    exact kept.atMostOne.length_le_one
  throwsKeep := kept.throwsKeep
  sameHost _ first second appIdentifier profileKey otherIdentifier otherKey unassigned other := by
    simp [hostOf_unassigned, kept.atMostOne.length_le_one, unassigned, other]

/-- In a run where every call that gives a host the flag takes it over alone, and completes once
it has taken it from a host, the default host stays one and is kept by the calls that throw. -/
theorem oneDefaultHost_of_takesOverAlone (hosts : HostsTable) (atMostOne : AtMostOneDefault hosts)
    (events : List HostsEvent)
    (alone : AlongRun HostsState.step TakesOverAlone (.start hosts) events) :
    OneDefaultHost (run HostsState.step (.start hosts) events) := by
  have start : KeepsDefault (.start hosts) :=
    ⟨atMostOne, fun running member => absurd member List.not_mem_nil⟩
  exact (run_invariant_of_alongRun (fun _ _ kept here => kept.step here) start alone).sound

def sampleInput : HostInput where
  label := "Docker"
  type := "docker_endpoint"
  host := "unix:///var/run/docker.sock"
  isDefault := some true

def sampleHosts : HostsTable := .singleton (createdHost "old" 0 sampleInput)

/-- One host becomes the default after another. -/
def takeOver : List HostsEvent :=
  [.begin (.create "new" 1 sampleInput), .advance 0 1 none, .advance 0 2 none]

theorem oneDefaultHost_of_takesOverAlone_takeOver :
    OneDefaultHost (run HostsState.step (.start sampleHosts) takeOver) := by
  refine oneDefaultHost_of_takesOverAlone sampleHosts ?_ takeOver ⟨trivial, ?_, ?_, trivial⟩
  · intro left leftMember right rightMember _ _
    rw [List.mem_singleton.mp leftMember, List.mem_singleton.mp rightMember]
  · intro running isRunning
    cases isRunning
    refine ⟨fun disturbed => Bool.noConfusion disturbed, ?_⟩
    nofun
  · intro running isRunning
    cases isRunning
    refine ⟨fun _ => ⟨_, rfl⟩, ?_⟩
    intro id _ row member isDefault
    cases List.mem_singleton.mp member
    cases isDefault

/-- Two calls clear the flag before either gives it. -/
def overtaken : List HostsEvent :=
  [.begin (.create "left" 1 sampleInput), .begin (.create "right" 1 sampleInput),
    .advance 0 1 none, .advance 1 1 none, .advance 0 2 none, .advance 0 2 none]

theorem not_oneDefaultHost : ¬ ∀ (hosts : HostsTable) (events : List HostsEvent),
    AtMostOneDefault hosts → OneDefaultHost (run HostsState.step (.start hosts) events) := by
  intro sound
  have none : AtMostOneDefault .empty := fun left member => absurd member List.not_mem_nil
  have atMostOne := (sound .empty overtaken none).atMostOne rfl
  revert atMostOne
  decide

/-- The insertion fails after the flag was taken: no host is left with it. -/
example : defaultHosts (run HostsState.step (.start sampleHosts)
    [.begin (.create "new" 1 sampleInput), .advance 0 1 none,
      .advance 0 2 (some (.serviceError "database"))]).hosts = [] := by
  decide

end Lombok.Docker.Hosts
