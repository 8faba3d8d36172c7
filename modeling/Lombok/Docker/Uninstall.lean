import Lombok.Docker.Isolation
import Lombok.Tunnel.SessionManager

/-!
Contract: uninstalling an app, as far as docker and the bridge go.

Owns the rows that place an app's containers, `resolveProfileConfig`, and what
`uninstallApp` does to the containers of the hosts, to the sessions of the bridge
and to these rows. Uninstalling visits the hosts that the app's profile
assignments name by then, and goes on where a call to a host or the bridge
fails.

A host is a row with the endpoint of a docker daemon, and several rows may have
one endpoint. Does not own: the other effects of uninstalling (live workers, the
search config, the schema and role, bundles, app hashes), and a database that
fails, which throws out of the call.
-/

namespace Lombok.Docker

open Lombok.Core Lombok.Library Lombok.Tunnel

/-! ### Rows -/

/-- A row of the apps. Its identifier is its slug and its id, with a dash between. -/
structure AppRow where
  id : String
  identifier : String
  slug : String
  named : identifier ≠ ""
deriving DecidableEq

def AppRow.clash (left right : AppRow) : Bool :=
  left.id == right.id || left.identifier == right.identifier

/-- A row of the docker hosts, with the endpoint that `host` names. -/
structure RegisteredHost where
  id : String
  endpoint : String
  isDefault : Bool
  enabled : Bool
deriving DecidableEq

def RegisteredHost.clash (left right : RegisteredHost) : Bool := left.id == right.id

/-- A `DockerProfileResourceAssignment`, with the labels of its config. -/
structure ProfileAssignment where
  id : String
  appId : String
  profileKey : String
  dockerHostId : String
  labels : Labels
deriving DecidableEq

/-- The primary key, and the unique index on app and profile. -/
def ProfileAssignment.clash (left right : ProfileAssignment) : Bool :=
  left.id == right.id || (left.appId == right.appId && left.profileKey == right.profileKey)

def sameContainer (left right : ContainerInfo) : Bool := left.id == right.id

abbrev Daemon := Table ContainerInfo sameContainer

/-- The bridge holds every session under its own id. -/
def KeyedById (manager : SessionManager) : Prop :=
  ∀ id session, manager.get id = some session → session.id = id

/-- The rows, the daemons by their endpoints, and the bridge. -/
structure PlatformState where
  apps : Table AppRow AppRow.clash
  hosts : Table RegisteredHost RegisteredHost.clash
  assignments : Table ProfileAssignment ProfileAssignment.clash
  daemons : String → Daemon
  bridge : SessionManager
  keyed : KeyedById bridge

namespace PlatformState

variable (state : PlatformState)

def getHost (hostId : String) : Option RegisteredHost :=
  state.hosts.find? fun host => host.id == hostId

def endpointOf (hostId : String) : Option String :=
  (state.getHost hostId).map RegisteredHost.endpoint

/-! ### The host of a profile -/

def findApp (appIdentifier : String) : Option AppRow :=
  (state.apps.find? fun app => app.identifier == appIdentifier).or
    (state.apps.find? fun app => app.slug == appIdentifier)

def findAssignment (appId profileKey : String) : Option ProfileAssignment :=
  state.assignments.find? fun assignment =>
    assignment.appId == appId && assignment.profileKey == profileKey

def assignmentFor (appIdentifier profileKey : String) : Option ProfileAssignment :=
  (state.findApp appIdentifier).bind fun app =>
    (state.findAssignment app.id profileKey).or (state.findAssignment app.id "_default")

def resolveProfileConfig (appIdentifier profileKey : String) :
    Except DockerFailure ProfileHostConfig :=
  match state.assignmentFor appIdentifier profileKey with
  | some assignment =>
      match state.getHost assignment.dockerHostId with
      | some host => .ok ⟨host.id, assignment.labels⟩
      | none => .error (.notFound ("Docker host not found: " ++ assignment.dockerHostId))
  | none =>
      match state.hosts.find? RegisteredHost.isDefault with
      | some host => .ok ⟨host.id, []⟩
      | none => .error (.notFound ("No docker host configured for profile " ++ appIdentifier ++
          ":" ++ profileKey ++ " and no default host set."))

/-! ### Containers of the hosts -/

def setDaemon (endpoint : String) (daemon : Daemon) : PlatformState :=
  { state with
    daemons := fun other => if other = endpoint then daemon else state.daemons other }

/-- The containers a host has; one that is not registered has none. -/
def daemonOf (hostId : String) : Daemon :=
  match state.endpointOf hostId with
  | some endpoint => state.daemons endpoint
  | none => Table.empty

def listContainersByLabels (hostId : String) (labels : Labels) : List ContainerInfo :=
  (state.daemonOf hostId).rows.filter fun container => container.labels.carries labels

def removeContainer (hostId containerId : String) : PlatformState :=
  match state.endpointOf hostId with
  | some endpoint =>
      state.setDaemon endpoint
        ((state.daemons endpoint).delete fun container => container.id == containerId)
  | none => state

end PlatformState

/-! ### Sessions of the bridge -/

/-- `GET /sessions` with an app. -/
def listTunnelSessionsByApp (manager : SessionManager) (appIdentifier : String) : List String :=
  ((manager.sessions.entries.map Prod.snd).filter fun session =>
    session.appId == some appIdentifier).map TunnelSession.id

def deleteTunnelSession (manager : SessionManager) (sessionId appIdentifier : String) :
    Except String SessionManager :=
  match manager.get sessionId with
  | none => .ok manager
  | some session =>
      match present session.appId with
      | some owner =>
          if owner ≠ appIdentifier then .error "Session not owned by this app"
          else .ok (manager.delete sessionId)
      | none => .ok (manager.delete sessionId)

/-! ### Uninstalling -/

/-- The calls to a docker host or the bridge that fail. -/
structure UninstallFailures where
  listContainers : String → Bool
  removeContainer : String → String → Bool
  listSessions : Bool
  deleteSession : String → Bool

def noFailures : UninstallFailures :=
  ⟨fun _ => false, fun _ _ => false, false, fun _ => false⟩

namespace PlatformState

def removeContainersOf (failures : UninstallFailures) (appIdentifier : String)
    (state : PlatformState) (hostId : String) : PlatformState :=
  if failures.listContainers hostId then state
  else
    (state.listContainersByLabels hostId [(appIdLabel, appIdentifier)]).foldl
      (fun reached container =>
        if failures.removeContainer hostId container.id then reached
        else reached.removeContainer hostId container.id)
      state

/-- One session of an app; where its deletion throws, the next one follows. -/
def deleteSessionOf (failures : UninstallFailures) (appIdentifier : String)
    (manager : SessionManager) (sessionId : String) : SessionManager :=
  if failures.deleteSession sessionId then manager
  else
    match deleteTunnelSession manager sessionId appIdentifier with
    | .ok after => after
    | .error _ => manager

def deleteSessionsOf (failures : UninstallFailures) (appIdentifier : String)
    (manager : SessionManager) : SessionManager :=
  if failures.listSessions then manager
  else
    (listTunnelSessionsByApp manager appIdentifier).foldl (deleteSessionOf failures appIdentifier)
      manager

/-- `uniqueHostIds`. -/
def uniqueHostIds (state : PlatformState) (app : AppRow) : List String :=
  ((state.assignments.rows.filter fun assignment => assignment.appId == app.id).map
    ProfileAssignment.dockerHostId).eraseDups

end PlatformState

/-! ### Sessions under their own ids -/

theorem keyedById_delete {manager : SessionManager} (keyed : KeyedById manager)
    (sessionId : String) : KeyedById (manager.delete sessionId) := by
  intro id session held
  rw [get_delete] at held
  split at held
  · cases held
  · exact keyed id session held

theorem keyedById_deleteSessionOf {manager : SessionManager} (keyed : KeyedById manager)
    (failures : UninstallFailures) (appIdentifier sessionId : String) :
    KeyedById (PlatformState.deleteSessionOf failures appIdentifier manager sessionId) := by
  grind [PlatformState.deleteSessionOf, deleteTunnelSession, keyedById_delete]

theorem keyedById_deleteSessionsOf {manager : SessionManager} (keyed : KeyedById manager)
    (failures : UninstallFailures) (appIdentifier : String) :
    KeyedById (PlatformState.deleteSessionsOf failures appIdentifier manager) := by
  unfold PlatformState.deleteSessionsOf
  split
  · exact keyed
  · generalize listTunnelSessionsByApp manager appIdentifier = sessionIds
    induction sessionIds generalizing manager with
    | nil => exact keyed
    | cons sessionId rest inductionHypothesis =>
        exact inductionHypothesis (keyedById_deleteSessionOf keyed failures appIdentifier sessionId)

namespace PlatformState

/-- `uninstallApp`: the containers on the hosts of the app's assignments, its sessions, and its row
with the assignments. -/
def uninstallApp (failures : UninstallFailures) (app : AppRow) (state : PlatformState) :
    PlatformState :=
  let cleared := (state.uniqueHostIds app).foldl (removeContainersOf failures app.identifier) state
  { cleared with
    apps := cleared.apps.delete fun row => row.identifier == app.identifier
    assignments := cleared.assignments.delete fun assignment =>
      cleared.apps.rows.any fun row =>
        row.identifier == app.identifier && row.id == assignment.appId
    bridge := deleteSessionsOf failures app.identifier cleared.bridge
    keyed := keyedById_deleteSessionsOf cleared.keyed failures app.identifier }

/-! ### What is removed from the daemons -/

/-- Only the daemons differ. -/
structure SameRows (before after : PlatformState) : Prop where
  apps : after.apps = before.apps
  hosts : after.hosts = before.hosts
  assignments : after.assignments = before.assignments
  bridge : after.bridge = before.bridge

theorem SameRows.refl (state : PlatformState) : SameRows state state := ⟨rfl, rfl, rfl, rfl⟩

theorem SameRows.trans {first second third : PlatformState} (before : SameRows first second)
    (after : SameRows second third) : SameRows first third :=
  ⟨after.apps.trans before.apps, after.hosts.trans before.hosts,
    after.assignments.trans before.assignments, after.bridge.trans before.bridge⟩

theorem SameRows.endpointOf {before after : PlatformState} (same : SameRows before after)
    (hostId : String) : after.endpointOf hostId = before.endpointOf hostId := by
  unfold PlatformState.endpointOf PlatformState.getHost
  rw [same.hosts]

theorem removeContainer_sameRows (state : PlatformState) (hostId containerId : String) :
    SameRows state (state.removeContainer hostId containerId) := by
  unfold removeContainer
  split
  · exact ⟨rfl, rfl, rfl, rfl⟩
  · exact SameRows.refl state

variable {state : PlatformState} {id : String} {app : AppRow} {appIdentifier : String}
    {manager : SessionManager} {session : TunnelSession} {container : ContainerInfo}
    (failures : UninstallFailures)

theorem mem_removeContainer {hostId containerId endpoint : String} :
    container ∈ ((state.removeContainer hostId containerId).daemons endpoint).rows ↔
      container ∈ (state.daemons endpoint).rows ∧
        ¬ (state.endpointOf hostId = some endpoint ∧ container.id = containerId) := by
  grind [removeContainer, setDaemon, Table.delete]

/-- A call to remove the container is made, and does not fail. -/
def Removes (failures : UninstallFailures) (hostId : String) (container : ContainerInfo) : Prop :=
  failures.listContainers hostId = false ∧ failures.removeContainer hostId container.id = false

theorem removeListed_spec (failures : UninstallFailures) (hostId : String)
    (listed : List ContainerInfo) (state : PlatformState) :
    let after := listed.foldl (fun reached container =>
      if failures.removeContainer hostId container.id then reached
      else reached.removeContainer hostId container.id) state
    SameRows state after ∧ ∀ endpoint container,
      container ∈ (after.daemons endpoint).rows ↔
        container ∈ (state.daemons endpoint).rows ∧
          ¬ (state.endpointOf hostId = some endpoint ∧ ∃ removed ∈ listed,
            removed.id = container.id ∧
              failures.removeContainer hostId container.id = false) := by
  induction listed generalizing state with
  | nil => exact ⟨SameRows.refl state, by simp⟩
  | cons first rest inductionHypothesis =>
      cases fails : failures.removeContainer hostId first.id with
      | true =>
          grind
      | false =>
          have removes := removeContainer_sameRows state hostId first.id
          obtain ⟨same, members⟩ := inductionHypothesis (state.removeContainer hostId first.id)
          simp only [List.foldl_cons, fails, Bool.false_eq_true, if_false]
          refine ⟨removes.trans same, fun endpoint container => ?_⟩
          rw [members, mem_removeContainer, removes.endpointOf, and_assoc]
          grind

/-- The container carries the label of the app. -/
def Labelled (appIdentifier : String) (container : ContainerInfo) : Prop :=
  container.labels.get? appIdLabel = some appIdentifier

theorem carries_label :
    container.labels.carries [(appIdLabel, appIdentifier)] = true ↔
      Labelled appIdentifier container := by
  unfold Record.carries Labelled
  simp [Record.get?_cons]

theorem container_unique (daemon : Daemon) {left right : ContainerInfo}
    (leftMember : left ∈ daemon.rows) (rightMember : right ∈ daemon.rows)
    (same : left.id = right.id) : left = right := by
  refine daemon.eq_of_clash ?_ leftMember rightMember (beq_iff_eq.mpr same)
  intro first second
  exact Bool.beq_comm

/-- Which containers stay when those of an app are removed from a host. -/
theorem removeContainersOf_spec (appIdentifier : String) (state : PlatformState) (hostId : String) :
    SameRows state (removeContainersOf failures appIdentifier state hostId) ∧
      ∀ endpoint container,
        container ∈ ((removeContainersOf failures appIdentifier state hostId).daemons
            endpoint).rows ↔
          container ∈ (state.daemons endpoint).rows ∧
            ¬ (state.endpointOf hostId = some endpoint ∧ Labelled appIdentifier container ∧
              Removes failures hostId container) := by
  unfold removeContainersOf
  cases fails : failures.listContainers hostId with
  | true => simp [SameRows.refl, Removes, fails]
  | false =>
      rw [if_neg (by decide)]
      obtain ⟨same, members⟩ := removeListed_spec failures hostId
        (state.listContainersByLabels hostId [(appIdLabel, appIdentifier)]) state
      refine ⟨same, fun endpoint container => ?_⟩
      rw [members]
      refine and_congr_right fun member => not_congr (and_congr_right fun located => ?_)
      have daemon : state.daemonOf hostId = state.daemons endpoint := by
        rw [daemonOf, located]
      refine ⟨?_, ?_⟩
      · rintro ⟨removed, listed, sameId, works⟩
        obtain ⟨removedMember, carries⟩ := List.mem_filter.mp listed
        rw [daemon] at removedMember
        rw [← container_unique _ removedMember member sameId] at works ⊢
        exact ⟨carries_label.mp carries, fails, works⟩
      · rintro ⟨labelled, _, works⟩
        refine ⟨container, List.mem_filter.mpr ⟨?_, carries_label.mpr labelled⟩, rfl, works⟩
        rw [daemon]
        exact member

/-- Which containers stay when those of an app are removed from several hosts. -/
theorem removeFromHosts_spec (appIdentifier : String) (hostIds : List String)
    (state : PlatformState) :
    SameRows state (hostIds.foldl (removeContainersOf failures appIdentifier) state) ∧
      ∀ endpoint container,
        container ∈ ((hostIds.foldl (removeContainersOf failures appIdentifier) state).daemons
            endpoint).rows ↔
          container ∈ (state.daemons endpoint).rows ∧
            ¬ ∃ hostId ∈ hostIds, state.endpointOf hostId = some endpoint ∧
              Labelled appIdentifier container ∧ Removes failures hostId container := by
  induction hostIds generalizing state with
  | nil => exact ⟨SameRows.refl state, by simp⟩
  | cons hostId rest inductionHypothesis =>
      obtain ⟨firstSame, firstMembers⟩ := removeContainersOf_spec failures
          appIdentifier state hostId
      grind [firstSame.trans, firstSame.endpointOf]

/-! ### Which sessions are deleted -/

def AllOf (appIdentifier : String) (manager : SessionManager) (sessionIds : List String) : Prop :=
  ∀ id ∈ sessionIds, ∀ session, manager.get id = some session → session.appId = some appIdentifier

/-- A session of the app is deleted, unless the call fails. -/
theorem get_deleteSessionOf {failures : UninstallFailures} {sessionId : String}
    (named : appIdentifier ≠ "")
    (owned : ∀ session, manager.get sessionId = some session → session.appId = some appIdentifier) :
    (deleteSessionOf failures appIdentifier manager sessionId).get id = some session ↔
      manager.get id = some session ∧ ¬ (id = sessionId ∧ failures.deleteSession id = false) := by
  unfold deleteSessionOf
  cases fails : failures.deleteSession sessionId with
  | true =>
      grind
  | false =>
      rw [if_neg (by decide)]
      have deleted : ∀ manager' : SessionManager, manager' = manager.delete sessionId →
          (manager'.get id = some session ↔
            manager.get id = some session ∧
              ¬ (id = sessionId ∧ failures.deleteSession id = false)) := by
        grind [get_delete]
      unfold deleteTunnelSession
      cases held : manager.get sessionId with
      | none =>
          grind
      | some own =>
          simp [present_of_ne_empty, owned, held, named, deleted]

theorem get_deleteSessions {failures : UninstallFailures} (named : appIdentifier ≠ "")
    (sessionIds : List String) (owned : AllOf appIdentifier manager sessionIds) :
    (sessionIds.foldl (deleteSessionOf failures appIdentifier) manager).get id = some session ↔
      manager.get id = some session ∧ ¬ (id ∈ sessionIds ∧ failures.deleteSession id = false) := by
  induction sessionIds generalizing manager with
  | nil => simp
  | cons sessionId rest inductionHypothesis =>
      have ownedHere := owned sessionId (List.mem_cons_self ..)
      have ownedLater : AllOf appIdentifier (deleteSessionOf failures appIdentifier
          manager sessionId)
          rest := by
        intro other member held isHeld
        exact owned other (List.mem_cons_of_mem _ member) held
          ((get_deleteSessionOf named ownedHere).mp isHeld).1
      rw [List.foldl_cons, inductionHypothesis ownedLater, get_deleteSessionOf named ownedHere,
        and_assoc]
      simp [or_and_right]

theorem mem_listTunnelSessionsByApp (keyed : KeyedById manager) :
    id ∈ listTunnelSessionsByApp manager appIdentifier ↔
      ∃ session, manager.get id = some session ∧ session.appId = some appIdentifier := by
  unfold listTunnelSessionsByApp
  simp only [List.mem_map, List.mem_filter, beq_iff_eq]
  refine ⟨?_, ?_⟩
  · rintro ⟨session, ⟨⟨⟨key, held⟩, member, rfl⟩, isOf⟩, rfl⟩
    have isHeld := (manager.sessions.mem_entries_iff).mp member
    have sameKey := keyed key held isHeld
    exact ⟨held, by rw [sameKey]; exact isHeld, isOf⟩
  · rintro ⟨session, isHeld, isOf⟩
    have member := (manager.sessions.mem_entries_iff).mpr isHeld
    exact ⟨session, ⟨⟨(id, session), member, rfl⟩, isOf⟩, keyed id session isHeld⟩

theorem get_deleteSessionsOf {failures : UninstallFailures} (keyed : KeyedById manager) :
    (deleteSessionsOf failures app.identifier manager).get id = some session ↔
      manager.get id = some session ∧
        ¬ (session.appId = some app.identifier ∧ failures.listSessions = false ∧
          failures.deleteSession id = false) := by
  unfold deleteSessionsOf
  cases fails : failures.listSessions with
  | true => simp
  | false =>
      have owned : AllOf app.identifier manager
          (listTunnelSessionsByApp manager app.identifier) := by
        intro other member held isHeld
        grind [mem_listTunnelSessionsByApp]
      rw [if_neg (by decide), get_deleteSessions app.named _ owned]
      refine and_congr_right fun isHeld => not_congr ?_
      rw [mem_listTunnelSessionsByApp keyed, isHeld]
      simp

/-! ### What uninstalling leaves -/

def Holds (state : PlatformState) (appIdentifier endpoint : String) : Prop :=
  ∃ container ∈ (state.daemons endpoint).rows, Labelled appIdentifier container

/-- An assignment of the app names a host of the daemon. -/
def Assigned (state : PlatformState) (appId endpoint : String) : Prop :=
  ∃ assignment ∈ state.assignments.rows, assignment.appId = appId ∧
    state.endpointOf assignment.dockerHostId = some endpoint

/-- Every registered host with a container of the app is one that an assignment of it names, or
one of the same daemon. -/
def Covered (app : AppRow) (state : PlatformState) : Prop :=
  ∀ host ∈ state.hosts.rows, state.Holds app.identifier host.endpoint →
    state.Assigned app.id host.endpoint

/-- Uninstalling an app whose calls are all answered leaves no container of it on a registered host
and no session of it on the bridge, and takes nothing of another app. -/
structure LeavesNothing (app : AppRow) (state : PlatformState) : Prop where
  containers : ∀ host ∈ (uninstallApp noFailures app state).hosts.rows,
    ¬ (uninstallApp noFailures app state).Holds app.identifier host.endpoint
  sessions : ∀ id session, (uninstallApp noFailures app state).bridge.get id = some session →
    session.appId ≠ some app.identifier
  otherContainers : ∀ endpoint, ∀ container ∈ (state.daemons endpoint).rows,
    ¬ Labelled app.identifier container →
      container ∈ ((uninstallApp noFailures app state).daemons endpoint).rows
  otherSessions : ∀ id session, state.bridge.get id = some session →
    session.appId ≠ some app.identifier →
      (uninstallApp noFailures app state).bridge.get id = some session

theorem mem_uniqueHostIds {hostId : String} :
    hostId ∈ state.uniqueHostIds app ↔
      ∃ assignment ∈ state.assignments.rows, assignment.appId = app.id ∧
        assignment.dockerHostId = hostId := by
  simp [uniqueHostIds, and_assoc]

/-- Which containers stay: those of others, and those of hosts that no assignment names. -/
theorem mem_uninstalled {endpoint : String} :
    container ∈ ((uninstallApp noFailures app state).daemons endpoint).rows ↔
      container ∈ (state.daemons endpoint).rows ∧
        ¬ (state.Assigned app.id endpoint ∧ Labelled app.identifier container) := by
  obtain ⟨_, members⟩ := removeFromHosts_spec noFailures app.identifier (state.uniqueHostIds app)
    state
  have cleared := members endpoint container
  rw [uninstallApp, cleared]
  refine and_congr_right fun _ => not_congr ?_
  refine ⟨?_, ?_⟩
  · rintro ⟨hostId, member, located, labelled, _⟩
    obtain ⟨assignment, assignmentMember, isOf, rfl⟩ := mem_uniqueHostIds.mp member
    exact ⟨⟨assignment, assignmentMember, isOf, located⟩, labelled⟩
  · rintro ⟨⟨assignment, assignmentMember, isOf, located⟩, labelled⟩
    exact ⟨_, mem_uniqueHostIds.mpr ⟨assignment, assignmentMember, isOf, rfl⟩, located, labelled,
      rfl, rfl⟩

theorem uninstalled_hosts (app : AppRow) (state : PlatformState) :
    (uninstallApp failures app state).hosts = state.hosts :=
  (removeFromHosts_spec failures app.identifier (state.uniqueHostIds app) state).1.hosts

theorem get_uninstalled :
    (uninstallApp noFailures app state).bridge.get id = some session ↔
      state.bridge.get id = some session ∧ session.appId ≠ some app.identifier := by
  have bridge := (removeFromHosts_spec noFailures app.identifier (state.uniqueHostIds app)
    state).1.bridge
  unfold uninstallApp
  dsimp only
  rw [bridge, get_deleteSessionsOf state.keyed]
  simp [noFailures]

theorem leavesNothing_iff_covered :
    LeavesNothing app state ↔ Covered app state := by
  refine ⟨?_, fun covered => ⟨?_, ?_, ?_, ?_⟩⟩
  · rintro ⟨noneLeft, _, _, _⟩ host member ⟨container, containerMember, labelled⟩
    by_cases assigned : state.Assigned app.id host.endpoint
    · exact assigned
    · have hostStays : host ∈ (uninstallApp noFailures app state).hosts.rows := by
        rw [uninstalled_hosts]
        exact member
      have stays := mem_uninstalled.mpr ⟨containerMember, fun removed => assigned removed.1⟩
      exact absurd ⟨container, stays, labelled⟩ (noneLeft host hostStays)
  · rintro host member ⟨container, stays, labelled⟩
    rw [uninstalled_hosts] at member
    obtain ⟨containerMember, kept⟩ := mem_uninstalled.mp stays
    exact kept ⟨covered host member ⟨container, containerMember, labelled⟩, labelled⟩
  · intro id session held
    exact (get_uninstalled.mp held).2
  · grind [mem_uninstalled.mpr]
  · intro id session held other
    exact get_uninstalled.mpr ⟨held, other⟩

end PlatformState

end Lombok.Docker
