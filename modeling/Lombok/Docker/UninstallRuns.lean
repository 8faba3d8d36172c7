import Lombok.Docker.Uninstall

/-!
Contract: what an app is left with on docker, over any history before it is
uninstalled.

Owns the calls that change which hosts there are, where an app is placed and
what runs on the daemons: hosts, profile assignments, docker jobs, containers
that come and go otherwise, and sessions of the bridge. A job of an app is run
where its profile resolves to by then, and uninstalling visits what is assigned
by then, so the two agree in runs whose steps keep the app's containers covered.

Does not own: what a job does in its container, and calls of one history that
overlap with an uninstall.
-/

namespace Lombok.Docker

open Lombok.Core Lombok.Library Lombok.Library.Action Lombok.Apps Lombok.Tunnel

/-- What docker jobs take from outside the state. `refersTo` is how docker finds a container by a
reference to it. -/
structure JobSettings where
  platformHost : String
  platformUrl : String
  hashProfileSpec : ContainerProfileConfig → String
  renderTemplate : String → Json → Except DockerFailure Json
  imageLabels : String → Labels
  refersTo : String → ContainerInfo → Bool

/-- What `updateHost` is given. -/
structure HostInput where
  endpoint : Option String
  isDefault : Option Bool
  enabled : Option Bool
deriving DecidableEq

/-- What happens before an uninstall. Of a deleted host it is told whether a standalone container
or a durable tunnel still refers to it; `otherContainer` is one that no job started. -/
inductive PlatformEvent where
  | installApp (app : AppRow)
  | uninstallApp (app : AppRow) (failures : UninstallFailures)
  | createHost (host : RegisteredHost)
  | updateHost (hostId : String) (input : HostInput)
  | deleteHost (hostId : String) (referenced : Bool)
  | createProfileAssignment (id appIdentifier profileKey dockerHostId : String) (labels : Labels)
  | updateProfileAssignment (id : String) (dockerHostId : Option String) (labels : Option Labels)
  | deleteProfileAssignment (id : String)
  | job (options : DockerExecuteJobOptions) (drawnId : String)
  | otherContainer (endpoint : String) (container : ContainerInfo)
  | containerGone (endpoint containerId : String)
  | bridge (input : ManagerInput)

/-! ### The bridge keeps its sessions under their ids -/

theorem keyedById_update {manager : SessionManager} (keyed : KeyedById manager) (sessionId : String)
    {change : TunnelSession → TunnelSession} (keeps : ∀ session, (change session).id = session.id) :
    KeyedById (manager.update sessionId change) := by
  intro id session held
  cases isHeld : manager.get sessionId with
  | none =>
      have same : manager.update sessionId change = manager := by
        have here : manager.sessions.get? sessionId = none := isHeld
        rw [SessionManager.update, here]
      rw [same] at held
      exact keyed id session held
  | some own =>
      rw [get_update isHeld] at held
      split at held
      · rename_i same
        cases held
        rw [keeps, keyed sessionId own isHeld, same]
      · exact keyed id session held

theorem keyedById_add {manager : SessionManager} (keyed : KeyedById manager)
    (session : TunnelSession) : KeyedById (manager.add session) := by
  intro id other held
  rw [get_add] at held
  split at held
  · rename_i same
    cases held
    exact same.symm
  · exact keyed id other held

theorem keyedById_step {manager : SessionManager} (keyed : KeyedById manager)
    (input : ManagerInput) : KeyedById (managerStep manager input) := by
  cases input with
  | create options drawn =>
      unfold managerStep
      dsimp only
      split
      · rename_i session after created
        unfold SessionManager.create at created
        split at created
        · cases created
          exact keyed
        · split at created
          · cases created
          · cases resolved : manager.resolvePublicId options drawn.publicIds with
            | error message =>
                rw [resolved] at created
                cases created
            | ok publicId =>
                rw [resolved] at created
                cases created
                exact keyedById_add keyed _
      · exact keyed
  | delete sessionId => exact keyedById_delete keyed sessionId
  | touch sessionId now => exact keyedById_update keyed sessionId fun _ => rfl
  | assign sessionId state agentReady => exact keyedById_update keyed sessionId fun _ => rfl
  | sweep now =>
      unfold managerStep SessionManager.sweep
      dsimp only
      generalize (List.map Prod.fst _) = dropped
      induction dropped generalizing manager with
      | nil => exact keyed
      | cons sessionId rest inductionHypothesis =>
          exact inductionHypothesis (keyedById_delete keyed sessionId)

namespace PlatformState

/-! ### Hosts -/

def clearDefaultHost (state : PlatformState) : PlatformState :=
  { state with
    hosts := state.hosts.update RegisteredHost.isDefault (fun host =>
        { host with isDefault := false })
      fun _ _ => ⟨rfl, rfl⟩ }

def clearedFor (isDefault : Bool) (state : PlatformState) : PlatformState :=
  if isDefault then state.clearDefaultHost else state

def createHost (host : RegisteredHost) (state : PlatformState) : PlatformState :=
  let cleared := state.clearedFor host.isDefault
  match cleared.hosts.insert host with
  | some hosts => { cleared with hosts := hosts }
  | none => cleared

def HostInput.apply (input : HostInput) (host : RegisteredHost) : RegisteredHost :=
  { host with
    endpoint := input.endpoint.getD host.endpoint
    isDefault := input.isDefault.getD host.isDefault
    enabled := input.enabled.getD host.enabled }

def updateHost (hostId : String) (input : HostInput) (state : PlatformState) : PlatformState :=
  match state.getHost hostId with
  | none => state
  | some _ =>
      let cleared := state.clearedFor (input.isDefault.getD false)
      { cleared with
        hosts := cleared.hosts.update (fun host => host.id == hostId) (HostInput.apply input)
          fun _ _ => ⟨rfl, rfl⟩ }

/-- A host that something refers to is not deleted. -/
def deleteHost (hostId : String) (referenced : Bool) (state : PlatformState) : PlatformState :=
  if referenced || state.assignments.rows.any fun assignment => assignment.dockerHostId == hostId
  then state
  else { state with hosts := state.hosts.delete fun host => host.id == hostId }

/-! ### Profile assignments -/

def createProfileAssignment (id appIdentifier profileKey dockerHostId : String) (labels : Labels)
    (state : PlatformState) : PlatformState :=
  match state.getHost dockerHostId, state.findApp appIdentifier with
  | some _, some app =>
      match state.assignments.insert ⟨id, app.id, profileKey, dockerHostId, labels⟩ with
      | some assignments => { state with assignments := assignments }
      | none => state
  | _, _ => state

def ProfileAssignment.apply (dockerHostId : Option String) (labels : Option Labels)
    (assignment : ProfileAssignment) : ProfileAssignment :=
  { assignment with
    dockerHostId := dockerHostId.getD assignment.dockerHostId
    labels := labels.getD assignment.labels }

/-- The host that is asked for has to be there; an empty id is none. -/
def updateProfileAssignment (id : String) (dockerHostId : Option String) (labels : Option Labels)
    (state : PlatformState) : PlatformState :=
  if (present dockerHostId).all fun hostId => (state.getHost hostId).isSome then
    { state with
      assignments := state.assignments.update (fun assignment => assignment.id == id)
        (ProfileAssignment.apply dockerHostId labels) fun _ _ => ⟨rfl, rfl⟩ }
  else state

def deleteProfileAssignment (id : String) (state : PlatformState) : PlatformState :=
  { state with assignments := state.assignments.delete fun assignment => assignment.id == id }

/-! ### Containers -/

def dockerHost (settings : JobSettings) (drawnId : String) (state : PlatformState)
    (hostId : String) : DockerHost where
  enabled := (state.getHost hostId).any RegisteredHost.enabled
  containers := (state.daemonOf hostId).rows
  inspect := fun reference => (state.daemonOf hostId).rows.find? (settings.refersTo reference)
  inspected := fun _ _ found => List.mem_of_find?_eq_some found
  imageLabels := settings.imageLabels
  nextId := drawnId

def jobEnv (settings : JobSettings) (drawnId : String) (state : PlatformState) : DockerEnv where
  platformHost := settings.platformHost
  platformUrl := settings.platformUrl
  hashProfileSpec := settings.hashProfileSpec
  renderTemplate := settings.renderTemplate
  resolveProfileConfig := state.resolveProfileConfig
  host := state.dockerHost settings drawnId

/-- A container that runs on a daemon: a new one, or one that is there and was started. -/
def put (daemon : Daemon) (container : ContainerInfo) : Daemon :=
  match daemon.insert container with
  | some after => after
  | none =>
      daemon.update (fun other => other.id == container.id)
        (fun other => { other with state := container.state }) fun _ _ => ⟨rfl, rfl⟩

def putOn (endpoint : String) (container : ContainerInfo) (state : PlatformState) : PlatformState :=
  state.setDaemon endpoint (put (state.daemons endpoint) container)

def runJob (settings : JobSettings) (options : DockerExecuteJobOptions) (drawnId : String)
    (state : PlatformState) : PlatformState :=
  match executeDockerJob (state.jobEnv settings drawnId) options with
  | .error _ => state
  | .ok run =>
      match state.endpointOf run.hostId with
      | some endpoint => state.putOn endpoint run.container
      | none => state

def containerGone (endpoint containerId : String) (state : PlatformState) : PlatformState :=
  state.setDaemon endpoint
    ((state.daemons endpoint).delete fun container => container.id == containerId)

def installApp (app : AppRow) (state : PlatformState) : PlatformState :=
  match state.apps.insert app with
  | some apps => { state with apps := apps }
  | none => state

def bridgeStep (input : ManagerInput) (state : PlatformState) : PlatformState :=
  { state with bridge := managerStep state.bridge input, keyed := keyedById_step state.keyed input }

def step (settings : JobSettings) (state : PlatformState) : PlatformEvent → PlatformState
  | .installApp app => state.installApp app
  | .uninstallApp app failures => uninstallApp failures app state
  | .createHost host => state.createHost host
  | .updateHost hostId input => state.updateHost hostId input
  | .deleteHost hostId referenced => state.deleteHost hostId referenced
  | .createProfileAssignment id appIdentifier profileKey dockerHostId labels =>
      state.createProfileAssignment id appIdentifier profileKey dockerHostId labels
  | .updateProfileAssignment id dockerHostId labels =>
      state.updateProfileAssignment id dockerHostId labels
  | .deleteProfileAssignment id => state.deleteProfileAssignment id
  | .job options drawnId => state.runJob settings options drawnId
  | .otherContainer endpoint container => state.putOn endpoint container
  | .containerGone endpoint containerId => state.containerGone endpoint containerId
  | .bridge input => state.bridgeStep input

/-! ### Steps that keep the containers covered -/

/-- An assignment of the app that is not set apart names a host of the daemon. -/
def AssignedBesides (state : PlatformState) (apart : ProfileAssignment → Prop)
    (appId endpoint : String) : Prop :=
  ∃ assignment ∈ state.assignments.rows, ¬ apart assignment ∧ assignment.appId = appId ∧
    state.endpointOf assignment.dockerHostId = some endpoint

def KeepsHost (state : PlatformState) (app : AppRow) (hostId endpoint : String) : Prop :=
  (state.Holds app.identifier endpoint →
    state.Assigned app.id endpoint ∨
      ∃ assignment ∈ state.assignments.rows, assignment.appId = app.id ∧
        assignment.dockerHostId = hostId) ∧
    ∀ other ∈ state.hosts.rows, other.id ≠ hostId → state.Holds app.identifier other.endpoint →
      other.endpoint = endpoint ∨
        state.AssignedBesides (fun assignment => assignment.dockerHostId = hostId) app.id
          other.endpoint

/-- The assignment can leave its host for another one: containers of the app that are there are
those of the other host too, or assigned besides. -/
def KeepsAssignment (state : PlatformState) (app : AppRow) (id : String)
    (movedTo : Option String) : Prop :=
  ∀ assignment ∈ state.assignments.rows, assignment.id = id → assignment.appId = app.id →
    ∀ endpoint, state.endpointOf assignment.dockerHostId = some endpoint →
      state.Holds app.identifier endpoint →
        movedTo = some endpoint ∨
          state.AssignedBesides (fun other => other.id = id) app.id endpoint

/-- A step after which the assignments still cover the app's containers. A job of the app is to run
on a host that shares its daemon with an assigned one, which a job that falls back to the default
host need not do. -/
def KeepsCovered (settings : JobSettings) (app : AppRow) (state : PlatformState) :
    PlatformEvent → Prop
  | .uninstallApp other failures =>
      (other = app ∧ failures = noFailures) ∨
        ∀ row ∈ state.apps.rows, row.identifier = other.identifier → row.id ≠ app.id
  | .createHost host =>
      state.Holds app.identifier host.endpoint → state.Assigned app.id host.endpoint
  | .updateHost hostId input =>
      ∀ endpoint, input.endpoint = some endpoint → state.KeepsHost app hostId endpoint
  | .updateProfileAssignment id (some dockerHostId) _ =>
      state.KeepsAssignment app id (state.endpointOf dockerHostId)
  | .deleteProfileAssignment id => state.KeepsAssignment app id none
  | .job options drawnId =>
      options.appIdentifier = app.identifier → ∀ config endpoint,
        resolveDockerHostConfigForProfile (state.jobEnv settings drawnId) options.profileKey =
            .ok config →
          state.endpointOf config.hostId = some endpoint → state.Assigned app.id endpoint
  | .otherContainer endpoint container =>
      Labelled app.identifier container → ∀ host ∈ state.hosts.rows, host.endpoint = endpoint →
        state.Assigned app.id endpoint
  | _ => True

section Kept

variable {settings : JobSettings} {app : AppRow} {state before after : PlatformState}

/-- Containers of the app are on the hosts they were on, and their assignments stay. -/
theorem Covered.of_change (covered : Covered app before)
    (hosts : ∀ host ∈ after.hosts.rows, after.Holds app.identifier host.endpoint →
      ∃ old ∈ before.hosts.rows, old.endpoint = host.endpoint ∧
        before.Holds app.identifier old.endpoint)
    (assigned : ∀ endpoint, before.Holds app.identifier endpoint →
      before.Assigned app.id endpoint → after.Assigned app.id endpoint) : Covered app after := by
  intro host member holds
  obtain ⟨old, oldMember, same, held⟩ := hosts host member holds
  have assignedBefore := covered old oldMember held
  grind

theorem endpointOf_congr (hosts : after.hosts = before.hosts) (hostId : String) :
    after.endpointOf hostId = before.endpointOf hostId := by
  unfold endpointOf getHost
  rw [hosts]

/-- Hosts and assignments stay, and no daemon holds more of the app. -/
theorem Covered.of_fewer (covered : Covered app before) (hosts : after.hosts = before.hosts)
    (assignments : after.assignments = before.assignments)
    (fewer : ∀ endpoint, after.Holds app.identifier endpoint →
      before.Holds app.identifier endpoint) : Covered app after := by
  refine covered.of_change ?_ ?_
  · grind
  · intro endpoint _ ⟨assignment, member, isOf, names⟩
    rw [← assignments] at member
    rw [← endpointOf_congr hosts] at names
    exact ⟨assignment, member, isOf, names⟩

theorem holds_congr (daemons : after.daemons = before.daemons) {endpoint : String}
    (holds : after.Holds app.identifier endpoint) : before.Holds app.identifier endpoint := by
  unfold Holds at holds ⊢
  rw [← daemons]
  exact holds

/-! ### Hosts that change -/

theorem getHost_member {hostId : String} {host : RegisteredHost}
    (found : state.getHost hostId = some host) : host ∈ state.hosts.rows ∧ host.id = hostId := by
  have meets := @List.find?_some _ (fun host : RegisteredHost => host.id == hostId) _ _ found
  exact ⟨List.mem_of_find?_eq_some found, eq_of_beq meets⟩

theorem getHost_of_member {host : RegisteredHost} (member : host ∈ state.hosts.rows) :
    state.getHost host.id = some host := by
  cases found : state.getHost host.id with
  | none =>
      have missed := List.find?_eq_none.mp found host member
      simp at missed
  | some other =>
      obtain ⟨otherMember, same⟩ := getHost_member found
      refine congrArg some (state.hosts.eq_of_clash ?_ otherMember member (beq_iff_eq.mpr same))
      intro first second
      exact Bool.beq_comm

theorem endpointOf_of_member {host : RegisteredHost} (member : host ∈ state.hosts.rows) :
    state.endpointOf host.id = some host.endpoint := by
  rw [endpointOf, getHost_of_member member]
  rfl

theorem endpointOf_member {hostId endpoint : String}
    (located : state.endpointOf hostId = some endpoint) :
    ∃ host ∈ state.hosts.rows, host.id = hostId ∧ host.endpoint = endpoint := by
  obtain ⟨host, found, isEndpoint⟩ := Option.map_eq_some_iff.mp located
  grind [getHost_member]

theorem endpointOf_changed (condition : RegisteredHost → Bool)
    (change : RegisteredHost → RegisteredHost) (keeps : Keeps RegisteredHost.clash change)
    (stable : ∀ host, (change host).id = host.id) (hostId : String) :
    PlatformState.endpointOf { state with hosts := state.hosts.update condition change keeps }
        hostId =
      (state.getHost hostId).map fun host =>
        if condition host then (change host).endpoint else host.endpoint := by
  have found : PlatformState.getHost
      { state with hosts := state.hosts.update condition change keeps } hostId =
        (state.getHost hostId).map fun host => if condition host then change host else host :=
    @Table.find?_update _ _ _ _ _ _ keeps fun host => by rw [stable]
  rw [endpointOf, found, Option.map_map]
  simp [Option.map, apply_ite]

theorem endpointOf_clearedFor (isDefault : Bool) (hostId : String) :
    (state.clearedFor isDefault).endpointOf hostId = state.endpointOf hostId := by
  cases isDefault with
  | false => rfl
  | true =>
      refine (endpointOf_changed RegisteredHost.isDefault
        (fun host => { host with isDefault := false }) (fun _ _ => ⟨rfl, rfl⟩) (fun _ => rfl)
        hostId).trans ?_
      unfold endpointOf
      simp only [ite_self]

theorem clearedFor_rest (isDefault : Bool) :
    (state.clearedFor isDefault).assignments = state.assignments ∧
      (state.clearedFor isDefault).daemons = state.daemons := by
  cases isDefault with
  | false => exact ⟨rfl, rfl⟩
  | true => exact ⟨rfl, rfl⟩

theorem clearedFor_member {isDefault : Bool} {host : RegisteredHost}
    (member : host ∈ (state.clearedFor isDefault).hosts.rows) :
    state.endpointOf host.id = some host.endpoint := by
  rw [← endpointOf_clearedFor isDefault]
  exact endpointOf_of_member member

theorem covered_clearedFor (covered : Covered app state) (isDefault : Bool) :
    Covered app (state.clearedFor isDefault) := by
  obtain ⟨assignments, daemons⟩ := @clearedFor_rest state isDefault
  refine covered.of_change ?_ ?_
  · intro host member holds
    obtain ⟨old, oldMember, _, same⟩ := endpointOf_member (clearedFor_member member)
    grind [holds_congr]
  · intro endpoint _ ⟨assignment, member, isOf, names⟩
    rw [← assignments] at member
    rw [← endpointOf_clearedFor isDefault] at names
    exact ⟨assignment, member, isOf, names⟩

theorem endpointOf_insert {host : RegisteredHost}
    {hosts : Table RegisteredHost RegisteredHost.clash}
    (inserted : state.hosts.insert host = some hosts) {hostId endpoint : String}
    (located : state.endpointOf hostId = some endpoint) :
    PlatformState.endpointOf { state with hosts := hosts } hostId = some endpoint := by
  obtain ⟨found, isFound, isEndpoint⟩ := Option.map_eq_some_iff.mp located
  have stays : PlatformState.getHost { state with hosts := hosts } hostId = some found :=
    Table.find?_insert_of_found inserted isFound
  rw [endpointOf, stays]
  exact congrArg some isEndpoint

theorem covered_createHost (covered : Covered app state) {host : RegisteredHost}
    (keeps : state.Holds app.identifier host.endpoint → state.Assigned app.id host.endpoint) :
    Covered app (state.createHost host) := by
  have coveredCleared := covered_clearedFor covered host.isDefault
  obtain ⟨assignments, daemons⟩ := @clearedFor_rest state host.isDefault
  unfold createHost
  dsimp only
  split
  · rename_i hosts inserted
    intro other member holds
    have assigned : (state.clearedFor host.isDefault).Assigned app.id other.endpoint := by
      rcases (Table.mem_insert inserted).mp member with isOld | rfl
      · exact coveredCleared other isOld holds
      · obtain ⟨assignment, assignmentMember, isOf, names⟩ := keeps (holds_congr daemons holds)
        rw [← assignments] at assignmentMember
        rw [← endpointOf_clearedFor other.isDefault] at names
        exact ⟨assignment, assignmentMember, isOf, names⟩
    obtain ⟨assignment, assignmentMember, isOf, names⟩ := assigned
    exact ⟨assignment, assignmentMember, isOf, endpointOf_insert inserted names⟩
  · exact coveredCleared

theorem covered_deleteHost (covered : Covered app state) (hostId : String) (referenced : Bool) :
    Covered app (state.deleteHost hostId referenced) := by
  unfold deleteHost
  split
  · exact covered
  · rename_i unreferenced
    intro host member holds
    obtain ⟨assignment, assignmentMember, isOf, names⟩ :=
      covered host (List.mem_filter.mp member).1 holds
    refine ⟨assignment, assignmentMember, isOf, ?_⟩
    -- The host of an assignment is not the one that is deleted.
    have other : assignment.dockerHostId ≠ hostId := by
      grind
    have found : PlatformState.getHost { state with
        hosts := state.hosts.delete fun host => host.id == hostId } assignment.dockerHostId =
          state.getHost assignment.dockerHostId := by
      refine Table.find?_delete ?_
      grind
    rw [endpointOf, found]
    exact names

theorem endpointOf_updateHost {hostId : String} {host : RegisteredHost}
    (found : state.getHost hostId = some host) (input : HostInput) (other : String) :
    (state.updateHost hostId input).endpointOf other =
      if other = hostId then some (input.endpoint.getD host.endpoint)
      else state.endpointOf other := by
  rw [updateHost, found]
  have cleared := @endpointOf_clearedFor state (input.isDefault.getD false) other
  refine (endpointOf_changed (fun host => host.id == hostId) (HostInput.apply input)
    (fun _ _ => ⟨rfl, rfl⟩) (fun _ => rfl) other).trans ?_
  unfold endpointOf at cleared
  by_cases same : other = hostId
  · subst same
    rw [found] at cleared
    obtain ⟨own, isOwn, sameEndpoint⟩ := Option.map_eq_some_iff.mp cleared
    rw [if_pos rfl, isOwn, Option.map_some, if_pos (beq_iff_eq.mpr (getHost_member isOwn).2)]
    exact congrArg (fun endpoint => some (input.endpoint.getD endpoint)) sameEndpoint
  · rw [if_neg same]
    rw [endpointOf, ← cleared]
    cases found' : (state.clearedFor (input.isDefault.getD false)).getHost other with
    | none => rfl
    | some own =>
        have apart : own.id ≠ hostId := by
          rw [(getHost_member found').2]
          exact same
        simp [apart]

theorem updateHost_rest (hostId : String) (input : HostInput) :
    (state.updateHost hostId input).assignments = state.assignments ∧
      (state.updateHost hostId input).daemons = state.daemons := by
  unfold updateHost
  split
  · exact ⟨rfl, rfl⟩
  · exact clearedFor_rest _

theorem covered_updateHost (covered : Covered app state) {hostId : String} {input : HostInput}
    (keeps : ∀ endpoint, input.endpoint = some endpoint → state.KeepsHost app hostId endpoint) :
    Covered app (state.updateHost hostId input) := by
  cases found : state.getHost hostId with
  | none =>
      rw [updateHost, found]
      exact covered
  | some host =>
      intro changed member holds
      obtain ⟨assignments, daemons⟩ := @updateHost_rest state hostId input
      have located := endpointOf_of_member member
      rw [endpointOf_updateHost found] at located
      have held := holds_congr daemons holds
      have own : state.endpointOf hostId = some host.endpoint := by
        rw [endpointOf, found]
        rfl
      -- What an assignment names before gives what it names after the update.
      have suffices_named : (∃ assignment ∈ state.assignments.rows, assignment.appId = app.id ∧
          (if assignment.dockerHostId = hostId then some (input.endpoint.getD host.endpoint)
            else state.endpointOf assignment.dockerHostId) = some changed.endpoint) →
          (state.updateHost hostId input).Assigned app.id changed.endpoint := by
        rintro ⟨assignment, assignmentMember, isOf, names⟩
        rw [← assignments] at assignmentMember
        rw [← endpointOf_updateHost found] at names
        exact ⟨assignment, assignmentMember, isOf, names⟩
      apply suffices_named
      cases given : input.endpoint with
      | none =>
          rw [given, Option.getD_none] at located
          have locatedBefore : state.endpointOf changed.id = some changed.endpoint := by
            grind
          obtain ⟨old, oldMember, _, same⟩ := endpointOf_member locatedBefore
          rw [← same] at held
          obtain ⟨assignment, assignmentMember, isOf, names⟩ := covered old oldMember held
          grind
      | some endpoint =>
          rw [given, Option.getD_some] at located
          obtain ⟨here, elsewhere⟩ := keeps endpoint given
          have onEndpoint : changed.endpoint = endpoint →
              ∃ assignment ∈ state.assignments.rows, assignment.appId = app.id ∧
                (if assignment.dockerHostId = hostId then some endpoint
                  else state.endpointOf assignment.dockerHostId) = some changed.endpoint := by
            intro isEndpoint
            rw [isEndpoint] at held ⊢
            rcases here held with ⟨assignment, assignmentMember, isOf, names⟩ |
              ⟨assignment, assignmentMember, isOf, names⟩
            · exact ⟨assignment, assignmentMember, isOf, by rw [names, ite_self]⟩
            · exact ⟨assignment, assignmentMember, isOf, by rw [if_pos names]⟩
          split at located
          · exact onEndpoint (Option.some.inj located).symm
          · rename_i apart
            obtain ⟨other, otherMember, isOther, same⟩ := endpointOf_member located
            rw [← same] at held
            rcases elsewhere other otherMember (by rw [isOther]; exact apart) held with
              isEndpoint | ⟨assignment, assignmentMember, besides, isOf, names⟩
            · exact onEndpoint (same.symm.trans isEndpoint)
            · exact ⟨assignment, assignmentMember, isOf, by rw [if_neg besides, names, same]⟩

/-! ### Assignments that change -/

theorem covered_createProfileAssignment (covered : Covered app state)
    (id appIdentifier profileKey dockerHostId : String) (labels : Labels) :
    Covered app
      (state.createProfileAssignment id appIdentifier profileKey dockerHostId labels) := by
  unfold createProfileAssignment
  split
  · split
    · rename_i assignments inserted
      intro host member holds
      obtain ⟨assignment, assignmentMember, isOf, names⟩ := covered host member holds
      exact ⟨assignment, (Table.mem_insert inserted).mpr (Or.inl assignmentMember), isOf, names⟩
    · exact covered
  · exact covered

theorem covered_updateProfileAssignment (covered : Covered app state) {id : String}
    {dockerHostId : Option String} (labels : Option Labels)
    (keeps : ∀ hostId, dockerHostId = some hostId →
      state.KeepsAssignment app id (state.endpointOf hostId)) :
    Covered app (state.updateProfileAssignment id dockerHostId labels) := by
  unfold updateProfileAssignment
  split
  · intro host member holds
    obtain ⟨assignment, assignmentMember, isOf, names⟩ := covered host member holds
    -- An assignment as the update leaves it.
    have changed : ∀ other ∈ state.assignments.rows, other.appId = app.id →
        state.endpointOf (if other.id == id then dockerHostId.getD other.dockerHostId
          else other.dockerHostId) = some host.endpoint →
        Assigned { state with
          assignments := state.assignments.update (fun assignment => assignment.id == id)
            (ProfileAssignment.apply dockerHostId labels) fun _ _ => ⟨rfl, rfl⟩ } app.id
          host.endpoint := by
      intro other otherMember otherOf located
      refine ⟨_, List.mem_map.mpr ⟨other, otherMember, rfl⟩, ?_, ?_⟩
      · split
        · exact otherOf
        · exact otherOf
      · rw [apply_ite ProfileAssignment.dockerHostId]
        exact located
    cases dockerHostId with
    | none =>
        grind
    | some hostId =>
        by_cases isMoved : assignment.id = id
        · rcases keeps hostId rfl assignment assignmentMember isMoved isOf host.endpoint names holds
            with located | ⟨other, otherMember, besides, otherOf, otherNames⟩
          · grind
          · grind
        · grind
  · exact covered

theorem covered_deleteProfileAssignment (covered : Covered app state) {id : String}
    (keeps : state.KeepsAssignment app id none) :
    Covered app (state.deleteProfileAssignment id) := by
  intro host member holds
  obtain ⟨assignment, assignmentMember, isOf, names⟩ := covered host member holds
  have stays : ∀ other ∈ state.assignments.rows, other.id ≠ id →
      other ∈ (state.deleteProfileAssignment id).assignments.rows := by
    intro other otherMember apart
    refine List.mem_filter.mpr ⟨otherMember, ?_⟩
    simp [apart]
  by_cases isDeleted : assignment.id = id
  · rcases keeps assignment assignmentMember isDeleted isOf host.endpoint names holds with
      nowhere | ⟨other, otherMember, besides, otherOf, otherNames⟩
    · cases nowhere
    · exact ⟨other, stays other otherMember besides, otherOf, otherNames⟩
  · exact ⟨assignment, stays assignment assignmentMember isDeleted, isOf, names⟩

/-! ### Containers that change -/

/-- A container that is put on a daemon keeps its labels there, or brings its own. -/
theorem mem_put {daemon : Daemon} {container held : ContainerInfo}
    (member : held ∈ (put daemon container).rows) :
    held = container ∨ ∃ old ∈ daemon.rows, old.labels = held.labels := by
  unfold put at member
  split at member
  · rename_i daemon' inserted
    rcases (Table.mem_insert inserted).mp member with isOld | isNew
    · exact Or.inr ⟨held, isOld, rfl⟩
    · exact Or.inl isNew
  · obtain ⟨old, oldMember, rfl⟩ := Table.mem_update.mp member
    grind

theorem covered_putOn (covered : Covered app state) {endpoint : String} {container : ContainerInfo}
    (keeps : Labelled app.identifier container → ∀ host ∈ state.hosts.rows,
      host.endpoint = endpoint → state.Assigned app.id endpoint) :
    Covered app (state.putOn endpoint container) := by
  rintro host member ⟨held, heldMember, labelled⟩
  change held ∈ (if host.endpoint = endpoint then _ else _ : Daemon).rows at heldMember
  split at heldMember
  · rename_i here
    rcases mem_put heldMember with rfl | ⟨old, oldMember, same⟩
    · have assigned := keeps labelled host member here
      rw [← here] at assigned
      exact assigned
    · rw [← here] at oldMember
      refine covered host member ⟨old, oldMember, ?_⟩
      rw [Labelled, same]
      exact labelled
  · exact covered host member ⟨held, heldMember, labelled⟩

theorem covered_containerGone (covered : Covered app state) (endpoint containerId : String) :
    Covered app (state.containerGone endpoint containerId) := by
  refine covered.of_fewer rfl rfl ?_
  rintro other ⟨container, member, labelled⟩
  change container ∈ (if other = endpoint then _ else _ : Daemon).rows at member
  split at member
  · rename_i here
    subst here
    exact ⟨container, (List.mem_filter.mp member).1, labelled⟩
  · exact ⟨container, member, labelled⟩

theorem executeDockerJob_container {env : DockerEnv} {options : DockerExecuteJobOptions}
    {run : JobRun} (ran : executeDockerJob env options = .ok run) :
    ∃ config, resolveDockerHostConfigForProfile env options.profileKey = .ok config ∧
      run.hostId = config.hostId ∧
      (Labelled options.appIdentifier run.container ∨
        ∃ container ∈ (env.host config.hostId).containers,
          container.labels = run.container.labels) := by
  obtain ⟨target, _, ran⟩ := bind_eq_ok.mp ran
  have ofScope : ∀ request : Option ContainerTarget,
      scopeOf env options request >>= resolveContainerForProfile env options = .ok run →
      ∃ config, resolveDockerHostConfigForProfile env options.profileKey = .ok config ∧
        run.hostId = config.hostId ∧
        (Labelled options.appIdentifier run.container ∨
          ∃ container ∈ (env.host config.hostId).containers,
            container.labels = run.container.labels) := by
    intro request ran
    obtain ⟨scope, _, ran⟩ := bind_eq_ok.mp ran
    obtain ⟨config, configured, rfl⟩ := (resolveContainerForProfile_returns_iff env options).mp ran
    exact ⟨config, configured, rfl, Or.inl (scoped_app env options scope _ config _)⟩
  rcases target with _ | ⟨template, userIsolation⟩ | ⟨template, userIsolation⟩
  · exact ofScope _ ran
  · obtain ⟨containerId, config, container, _, configured, _, found, _, rfl⟩ :=
      (executeInstanceJob_returns_iff env options).mp ran
    exact ⟨config, configured, rfl,
      Or.inr ⟨container, (env.host config.hostId).inspected _ _ found, rfl⟩⟩
  · exact ofScope _ ran

theorem covered_job (covered : Covered app state) {options : DockerExecuteJobOptions}
    {drawnId : String} (keeps : state.KeepsCovered settings app (.job options drawnId)) :
    Covered app (state.runJob settings options drawnId) := by
  unfold runJob
  split
  · exact covered
  rename_i run ran
  split
  · rename_i endpoint located
    obtain ⟨config, configured, isHost, container⟩ := executeDockerJob_container ran
    rw [isHost] at located
    apply covered_putOn covered
    intro labelled host member here
    rcases container with own | ⟨old, oldMember, same⟩
    · exact keeps (Option.some.inj (own.symm.trans labelled)) config endpoint configured located
    · -- A container that was there is covered where it is.
      have daemon : state.daemonOf config.hostId = state.daemons endpoint := by
        rw [daemonOf, located]
      change old ∈ (state.daemonOf config.hostId).rows at oldMember
      rw [daemon, ← here] at oldMember
      rw [← here]
      refine covered host member ⟨old, oldMember, ?_⟩
      rw [Labelled, same]
      exact labelled
  · exact covered

/-! ### Uninstalling this app or another one -/

theorem covered_uninstallApp (covered : Covered app state) {other : AppRow}
    {failures : UninstallFailures}
    (keeps : state.KeepsCovered settings app (.uninstallApp other failures)) :
    Covered app (uninstallApp failures other state) := by
  rcases keeps with ⟨rfl, rfl⟩ | apart
  · have leaves := leavesNothing_iff_covered.mpr covered
    intro host member holds
    exact absurd holds (leaves.containers host member)
  · obtain ⟨same, members⟩ := removeFromHosts_spec failures other.identifier
      (state.uniqueHostIds other) state
    rintro host member ⟨container, containerMember, labelled⟩
    rw [uninstalled_hosts] at member
    have held := ((members host.endpoint container).mp containerMember).1
    obtain ⟨assignment, assignmentMember, isOf, names⟩ :=
      covered host member ⟨container, held, labelled⟩
    refine ⟨assignment, List.mem_filter.mpr ⟨?_, ?_⟩, isOf, ?_⟩
    · rw [same.assignments]
      exact assignmentMember
    · rw [Bool.not_eq_true', List.any_eq_false, same.apps]
      intro row rowMember isRow
      grind
    · rw [endpointOf_congr (uninstalled_hosts failures other state)]
      exact names

/-! ### Runs -/

theorem covered_step (covered : Covered app state) (event : PlatformEvent)
    (keeps : state.KeepsCovered settings app event) : Covered app (state.step settings event) := by
  cases event with
  | installApp row =>
      unfold step installApp
      dsimp only
      split
      · exact covered
      · exact covered
  | uninstallApp other failures => exact covered_uninstallApp covered keeps
  | createHost host => exact covered_createHost covered keeps
  | updateHost hostId input => exact covered_updateHost covered keeps
  | deleteHost hostId referenced => exact covered_deleteHost covered hostId referenced
  | createProfileAssignment id appIdentifier profileKey dockerHostId labels =>
      exact covered_createProfileAssignment covered id appIdentifier profileKey dockerHostId labels
  | updateProfileAssignment id dockerHostId labels =>
      apply covered_updateProfileAssignment covered
      rintro hostId rfl
      exact keeps
  | deleteProfileAssignment id => exact covered_deleteProfileAssignment covered keeps
  | job options drawnId => exact covered_job covered keeps
  | otherContainer endpoint container => exact covered_putOn covered keeps
  | containerGone endpoint containerId => exact covered_containerGone covered endpoint containerId
  | bridge input => exact covered

/-- A profile with an assignment, its own or the default one of its app, resolves to an assigned
host, so only jobs that fall back to the default host can leave the covered ones. -/
theorem assigned_of_resolved {appIdentifier profileKey : String} {assignment : ProfileAssignment}
    (found : state.assignmentFor appIdentifier profileKey = some assignment)
    (isOf : assignment.appId = app.id) {config : ProfileHostConfig}
    (resolved : state.resolveProfileConfig appIdentifier profileKey = .ok config)
    {endpoint : String} (located : state.endpointOf config.hostId = some endpoint) :
    state.Assigned app.id endpoint := by
  have member : assignment ∈ state.assignments.rows := by
    obtain ⟨row, _, isFound⟩ := Option.bind_eq_some_iff.mp found
    rcases Option.or_eq_some_iff.mp isFound with exact_ | ⟨_, byDefault⟩
    · exact List.mem_of_find?_eq_some exact_
    · exact List.mem_of_find?_eq_some byDefault
  rw [resolveProfileConfig, found] at resolved
  dsimp only at resolved
  cases isHost : state.getHost assignment.dockerHostId with
  | none =>
      rw [isHost] at resolved
      cases resolved
  | some host =>
      rw [isHost] at resolved
      cases resolved
      rw [(getHost_member isHost).2] at located
      exact ⟨assignment, member, isOf, located⟩

end Kept

/-- After any history, uninstalling an app leaves nothing of it exactly when the assignments it has
by then cover its containers, and they do after every history whose steps keep them covered. -/
theorem uninstall_leavesNothing (settings : JobSettings) (app : AppRow) (start : PlatformState)
    (events : List PlatformEvent) :
    (LeavesNothing app (run (step settings) start events) ↔
        Covered app (run (step settings) start events)) ∧
      (Covered app start → AlongRun (step settings) (KeepsCovered settings app) start events →
        LeavesNothing app (run (step settings) start events)) := by
  refine ⟨leavesNothing_iff_covered, ?_⟩
  intro covered along
  apply leavesNothing_iff_covered.mpr
  exact @run_invariant_of_alongRun _ _ (step settings) (Covered app) (KeepsCovered settings app)
    (fun _ event kept keeps => covered_step kept event keeps) start covered events along

/-! ### A job of an app without an assignment -/

def sampleSettings : JobSettings where
  platformHost := "lombok.local"
  platformUrl := "https://lombok.local"
  hashProfileSpec _ := "0"
  renderTemplate _ jobData := .ok jobData
  imageLabels _ := []
  refersTo reference container := container.id == reference

theorem sampleIdentifier_ne : "media-12345678" ≠ "" := by decide

def sampleApp : AppRow := ⟨"a1", "media-12345678", "media", sampleIdentifier_ne⟩

def sampleProfileJob : DockerExecuteJobOptions where
  appIdentifier := "media-12345678"
  named := sampleIdentifier_ne
  profileKey := "media-12345678:shell"
  profileSpec := ⟨"alpine", [.exec ["run"] "open" none], none⟩
  jobIdentifier := "open"
  jobData := .null
  userId := none

def emptyPlatform : PlatformState where
  apps := Table.empty
  hosts := Table.empty
  assignments := Table.empty
  daemons _ := Table.empty
  bridge := newManager 8 3600000
  keyed _ _ held := by cases held

/-- A default host, the app, and maybe its assignment before the job. -/
def sampleHistory (assignment : List PlatformEvent) : List PlatformEvent :=
  [.createHost ⟨"h1", "unix:///var/run/docker.sock", true, true⟩, .installApp sampleApp] ++
    assignment ++ [.job sampleProfileJob "c1"]

theorem not_holds_emptyPlatform (appIdentifier endpoint : String) :
    ¬ emptyPlatform.Holds appIdentifier endpoint := by
  rintro ⟨container, member, _⟩
  cases member

theorem uninstall_leavesNothing_sample :
    LeavesNothing sampleApp (run (step sampleSettings) emptyPlatform
      (sampleHistory [.createProfileAssignment "p1" "media" "_default" "h1" []])) := by
  apply (uninstall_leavesNothing sampleSettings sampleApp emptyPlatform _).2
  · nofun
  · refine ⟨?_, trivial, trivial, ?_, trivial⟩
    · intro holds
      exact absurd holds (not_holds_emptyPlatform _ _)
    · intro _ config endpoint resolved located
      have found : assignmentFor (run (step sampleSettings) emptyPlatform
          [.createHost ⟨"h1", "unix:///var/run/docker.sock", true, true⟩, .installApp sampleApp,
            .createProfileAssignment "p1" "media" "_default" "h1" []]) "media-12345678" "shell" =
          some ⟨"p1", "a1", "_default", "h1", []⟩ := by
        decide +kernel
      exact assigned_of_resolved found rfl resolved located

/-- The container of the job is on the default host, and uninstalling does not go there. -/
theorem uninstall_leavesContainer :
    ¬ LeavesNothing sampleApp (run (step sampleSettings) emptyPlatform (sampleHistory [])) := by
  rw [leavesNothing_iff_covered]
  intro covered
  have placed : ⟨"h1", "unix:///var/run/docker.sock", true, true⟩ ∈
      (run (step sampleSettings) emptyPlatform (sampleHistory [])).hosts.rows := by
    decide +kernel
  have containers : ((run (step sampleSettings) emptyPlatform (sampleHistory [])).daemons
      "unix:///var/run/docker.sock").rows.any (fun container =>
        container.labels.get? appIdLabel == some "media-12345678") = true := by
    decide +kernel
  have noAssignments : (run (step sampleSettings) emptyPlatform
      (sampleHistory [])).assignments.rows = [] := by
    decide +kernel
  obtain ⟨container, member, isOf⟩ := List.any_eq_true.mp containers
  obtain ⟨assignment, assignmentMember, _⟩ := covered _ placed ⟨container, member, eq_of_beq isOf⟩
  cases assignmentMember

end PlatformState

end Lombok.Docker
