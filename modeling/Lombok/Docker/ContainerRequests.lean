import Lombok.Docker.Jobs
import Lombok.Library.Run

/-!
Contract: `findOrCreateContainer` as the awaited steps it takes on a host.

Any number of job executions ask for the container of one scope at a time. Each
lists the containers, then starts the one it found or has a new one created and
started; every step is an input of its own. The host creates what it is asked to
create, under an id it has not given before, and lists what it has.

Does not own: the labels of a scope, and what is run in the container (see
`Jobs`).
-/

namespace Lombok.Docker

open Lombok.Core Lombok.Library

/-! ### Containers of a host -/

/-- `State` of a container, in docker's words. -/
inductive DockerStatus where
  | created
  | running
  | paused
  | restarting
  | removing
  | exited
  | dead
deriving DecidableEq

/-- `toBridgeContainerInfo`, of a state. -/
def DockerStatus.containerState : DockerStatus → ContainerState
  | created => .created
  | running => .running
  | paused => .paused
  | exited => .exited
  | restarting | removing | dead => .unknown

structure HostContainer where
  id : String
  labels : Labels
  status : DockerStatus
deriving DecidableEq

def HostContainer.clash (left right : HostContainer) : Bool := left.id == right.id

abbrev HostContainers := Table HostContainer HostContainer.clash

def HostContainer.info (container : HostContainer) : ContainerInfo :=
  ⟨container.id, container.labels, container.status.containerState⟩

theorem status_of_running {container : HostContainer}
    (isRunning : (container.info.state == .running) = true) : container.status = .running := by
  unfold HostContainer.info at isRunning
  cases status : container.status with
  | running => rfl
  | created => simp [status, DockerStatus.containerState] at isRunning
  | paused => simp [status, DockerStatus.containerState] at isRunning
  | restarting => simp [status, DockerStatus.containerState] at isRunning
  | removing => simp [status, DockerStatus.containerState] at isRunning
  | exited => simp [status, DockerStatus.containerState] at isRunning
  | dead => simp [status, DockerStatus.containerState] at isRunning

def HostContainer.started (container : HostContainer) : HostContainer :=
  { container with status := .running }

theorem keeps_started : Keeps HostContainer.clash HostContainer.started := fun _ _ => ⟨rfl, rfl⟩

def listContainersByLabels (containers : HostContainers) (labels : Labels) : List ContainerInfo :=
  (containers.rows.map HostContainer.info).filter fun container => container.labels.carries labels

/-- The container that is reused of those listed: a running one, or else a stopped one. -/
def reusableOf (labels : Labels) (existingContainers : List ContainerInfo) :
    Option ContainerInfo :=
  let matching := existingContainers.filter (asksFor labels)
  (matching.find? fun container => container.state == .running).or
    (matching.find? fun container => container.state == .exited || container.state == .created)

/-! ### Requests -/

/-- What the job executions of one scope ask for, and what the host adds to it. -/
structure ContainerOptions where
  image : String
  configLabels : Labels
  workerLabels : Labels
  imageLabels : Labels
  newId : Nat → String

/-- `labels: { ...config.labels, ...labels }`. -/
def ContainerOptions.labels (options : ContainerOptions) : Labels :=
  options.configLabels.override options.workerLabels

def ContainerOptions.createdLabels (options : ContainerOptions) : Labels :=
  options.imageLabels.override options.labels

/-- A request between two of its awaited steps. -/
inductive ContainerRequest where
  | listing
  | creating (existingContainers : List ContainerInfo)
  | starting (containerId : String)
  | resolved (containerId : String)
deriving DecidableEq

structure ContainersState where
  containers : HostContainers
  created : Nat := 0
  requests : List ContainerRequest := []

inductive ContainerInput where
  | request
  | list (index : Nat)
  | create (index : Nat)
  | start (index : Nat)
deriving DecidableEq

namespace ContainersState

variable (options : ContainerOptions) (state : ContainersState)

def setRequest (index : Nat) (request : ContainerRequest) : ContainersState :=
  { state with requests := state.requests.set index request }

def list (index : Nat) : ContainersState :=
  match state.requests[index]? with
  | some .listing =>
      let existingContainers := listContainersByLabels state.containers options.labels
      setRequest state index
        (match reusableOf options.labels existingContainers with
        | some container =>
            if container.state == .running then .resolved container.id
            else .starting container.id
        | none => .creating existingContainers)
  | _ => state

/-- The first half of creating with `start: true`. An id that is taken is never given. -/
def create (index : Nat) : ContainersState :=
  match state.requests[index]? with
  | some (.creating _) =>
      let container := ⟨options.newId state.created, options.createdLabels, .created⟩
      match state.containers.insert container with
      | none => state
      | some containers =>
          setRequest { state with containers := containers, created := state.created + 1 } index
            (.starting container.id)
  | _ => state

def start (index : Nat) : ContainersState :=
  match state.requests[index]? with
  | some (.starting containerId) =>
      setRequest
        { state with
          containers := state.containers.update (fun container => container.id == containerId)
            HostContainer.started keeps_started }
        index (.resolved containerId)
  | _ => state

end ContainersState

def containerStep (options : ContainerOptions) (state : ContainersState) :
    ContainerInput → ContainersState
  | .request => { state with requests := state.requests ++ [.listing] }
  | .list index => state.list options index
  | .create index => state.create options index
  | .start index => state.start index

/-- `findRunningAppWorkerContainer`. -/
def findRunningAppWorkerContainer (containers : HostContainers) (labels : Labels) :
    Option String :=
  ((listContainersByLabels containers labels).find?
    fun container => container.state == .running).map ContainerInfo.id

/-! ### What the containers are to be -/

/-- The container is one of the scope: it has the labels asked for, and no user or isolation key
beside them. -/
def isOfScope (options : ContainerOptions) (container : HostContainer) : Bool :=
  container.labels.carries options.labels && asksFor options.labels container.info

def HostContainer.isLive (container : HostContainer) : Bool := container.status != .dead

/-- One container of a scope at most, and it is the one that jobs were run in. -/
structure OneContainer (options : ContainerOptions) (state : ContainersState) : Prop where
  one : (state.containers.rows.filter fun container =>
    isOfScope options container && container.isLive).length ≤ 1
  resolves : ∀ containerId, .resolved containerId ∈ state.requests →
    findRunningAppWorkerContainer state.containers options.workerLabels = some containerId

/-- The host before the first request: what carries the worker labels is of the scope, and at most
one of the scope is alive. -/
structure Prepared (options : ContainerOptions) (containers : HostContainers) : Prop where
  own : ∀ container ∈ containers.rows, container.labels.carries options.workerLabels = true →
    isOfScope options container = true
  one : (containers.rows.filter fun container =>
    isOfScope options container && container.isLive).length ≤ 1

/-- No container of the scope is in a state it is neither reused in nor gone. -/
def NoneStuck (options : ContainerOptions) (containers : HostContainers) : Prop :=
  ∀ container ∈ containers.rows, isOfScope options container = true →
    container.status ≠ .paused ∧ container.status ≠ .restarting ∧ container.status ≠ .removing

/-- A request that is to create has a listing that still holds, and its container will be of the
scope. -/
def CreatesAlone (options : ContainerOptions) (state : ContainersState) :
    Option ContainerRequest → Prop
  | some (.creating existingContainers) =>
      (listContainersByLabels state.containers options.labels).filter (asksFor options.labels) =
          existingContainers.filter (asksFor options.labels) ∧
        NoneStuck options state.containers ∧
        asksFor options.labels ⟨"", options.createdLabels, .created⟩ = true
  | _ => True

/-- The step creates no container while another one of the scope is there or on its way. -/
def CreatesOnce (options : ContainerOptions) (state : ContainersState) : ContainerInput → Prop
  | .create index => CreatesAlone options state state.requests[index]?
  | _ => True

section Decidability

variable (options : ContainerOptions) (state : ContainersState)

instance (containers : HostContainers) : Decidable (NoneStuck options containers) :=
  inferInstanceAs (Decidable (∀ container ∈ containers.rows, _ → _ ∧ _ ∧ _))

instance : ∀ request, Decidable (CreatesAlone options state request)
  | some (.creating _) => inferInstanceAs (Decidable (_ ∧ _ ∧ _))
  | some .listing => instDecidableTrue
  | some (.starting _) => instDecidableTrue
  | some (.resolved _) => instDecidableTrue
  | none => instDecidableTrue

instance : ∀ input, Decidable (CreatesOnce options state input)
  | .create index => inferInstanceAs (Decidable (CreatesAlone options state state.requests[index]?))
  | .request => instDecidableTrue
  | .list _ => instDecidableTrue
  | .start _ => instDecidableTrue

end Decidability

/-! ### Labels -/

section Labels

variable (options : ContainerOptions)

theorem carries_override {record overrides asked : Labels}
    (carried : record.carries (asked.override overrides) = true) :
    record.carries overrides = true := by
  unfold Record.carries at carried ⊢
  rw [List.all_eq_true] at carried ⊢
  intro entry member
  have here := of_decide_eq_true (carried entry (List.mem_append_left _ member))
  apply decide_eq_true
  rw [here, Record.get?_override]
  cases held : overrides.get? entry.1 with
  | some value => rfl
  | none =>
      have missing := List.find?_eq_none.mp (Option.map_eq_none_iff.mp held) entry member
      simp at missing

theorem override_carries (record overrides : Labels) :
    (record.override overrides).carries overrides = true := by
  rw [Record.carries, List.all_eq_true]
  intro entry member
  apply decide_eq_true
  rw [Record.get?_override]
  cases held : overrides.get? entry.1 with
  | some value => rfl
  | none =>
      have missing := List.find?_eq_none.mp (Option.map_eq_none_iff.mp held) entry member
      simp at missing

theorem carries_workerLabels {container : HostContainer}
    (ofScope : isOfScope options container = true) :
    container.labels.carries options.workerLabels = true := by
  exact carries_override (Bool.and_eq_true_iff.mp ofScope).1

theorem isOfScope_started (container : HostContainer) :
    isOfScope options container.started = isOfScope options container := rfl

theorem mem_listed {containers : HostContainers} {listed : ContainerInfo} :
    listed ∈ (listContainersByLabels containers options.labels).filter (asksFor options.labels) ↔
      ∃ container ∈ containers.rows, isOfScope options container = true ∧
        container.info = listed := by
  unfold listContainersByLabels isOfScope
  simp only [List.mem_filter, List.mem_map, Bool.and_eq_true]
  constructor
  · rintro ⟨⟨⟨container, member, rfl⟩, carried⟩, asked⟩
    exact ⟨container, member, ⟨carried, asked⟩, rfl⟩
  · rintro ⟨container, member, ⟨carried, asked⟩, rfl⟩
    exact ⟨⟨⟨container, member, rfl⟩, carried⟩, asked⟩

/-- What is reused is one of the containers of the scope that were listed, and can be used. -/
theorem reusableOf_some {containers : HostContainers} {found : ContainerInfo}
    (reused : reusableOf options.labels (listContainersByLabels containers options.labels) =
      some found) :
    ∃ container ∈ containers.rows, isOfScope options container = true ∧ container.info = found ∧
      container.isLive = true := by
  have picked : found ∈ (listContainersByLabels containers options.labels).filter
      (asksFor options.labels) ∧ found.state ≠ .unknown := by
    rcases Option.or_eq_some_iff.mp reused with running | ⟨-, stopped⟩
    · grind
    · grind
  obtain ⟨container, member, ofScope, isInfo⟩ := (mem_listed options).mp picked.1
  refine ⟨container, member, ofScope, isInfo, ?_⟩
  rw [HostContainer.isLive, bne_iff_ne]
  intro isDead
  apply picked.2
  rw [← isInfo]
  rw [HostContainer.info, isDead]
  rfl

/-- Where nothing is reused and nothing is stuck, every container of the scope is dead. -/
theorem noneLive_of_none {containers : HostContainers} {existingContainers : List ContainerInfo}
    (unchanged : (listContainersByLabels containers options.labels).filter
      (asksFor options.labels) = existingContainers.filter (asksFor options.labels))
    (nothing : reusableOf options.labels existingContainers = none)
    (noneStuck : NoneStuck options containers) :
    ∀ container ∈ containers.rows, isOfScope options container = true →
      container.status = .dead := by
  intro container member ofScope
  have listed : container.info ∈ existingContainers.filter (asksFor options.labels) := by
    grind [mem_listed]
  obtain ⟨noneRunning, noneStopped⟩ := Option.or_eq_none_iff.mp nothing
  have notRunning := List.find?_eq_none.mp noneRunning container.info listed
  have notStopped := List.find?_eq_none.mp noneStopped container.info listed
  obtain ⟨notPaused, notRestarting, notRemoving⟩ := noneStuck container member ofScope
  unfold HostContainer.info at notRunning notStopped
  cases status : container.status with
  | created => simp [status, DockerStatus.containerState] at notStopped
  | running => simp [status, DockerStatus.containerState] at notRunning
  | exited => simp [status, DockerStatus.containerState] at notStopped
  | paused => exact absurd status notPaused
  | restarting => exact absurd status notRestarting
  | removing => exact absurd status notRemoving
  | dead => rfl

end Labels

/-! ### Every step -/

/-- The container of a request that has found or created one. -/
def HasContainer (options : ContainerOptions) (containers : HostContainers) (containerId : String)
    (condition : HostContainer → Bool) : Prop :=
  ∃ container ∈ containers.rows, container.id = containerId ∧
    isOfScope options container = true ∧ condition container = true

def HostContainer.isRunning (container : HostContainer) : Bool := container.status == .running

def RequestSound (options : ContainerOptions) (containers : HostContainers) :
    ContainerRequest → Prop
  | .listing => True
  | .creating existingContainers => reusableOf options.labels existingContainers = none
  | .starting containerId => HasContainer options containers containerId HostContainer.isLive
  | .resolved containerId => HasContainer options containers containerId HostContainer.isRunning

structure Sole (options : ContainerOptions) (state : ContainersState) : Prop where
  prepared : Prepared options state.containers
  requests : ∀ request ∈ state.requests, RequestSound options state.containers request

theorem container_unique (containers : HostContainers) {left right : HostContainer}
    (leftMember : left ∈ containers.rows) (rightMember : right ∈ containers.rows)
    (sameId : left.id = right.id) : left = right := by
  apply containers.eq_of_clash _ leftMember rightMember
  · exact beq_iff_eq.mpr sameId
  · intro first second
    exact BEq.comm

variable {options : ContainerOptions} {containers : HostContainers}

theorem HasContainer.insert {after : HostContainers} {added : HostContainer} {containerId : String}
    {condition : HostContainer → Bool} (inserted : containers.insert added = some after)
    (has : HasContainer options containers containerId condition) :
    HasContainer options after containerId condition := by
  obtain ⟨container, member, rest⟩ := has
  exact ⟨container, (Table.mem_insert inserted).mpr (.inl member), rest⟩

theorem HasContainer.start {containerId : String} {condition : HostContainer → Bool}
    (selected : HostContainer → Bool)
    (kept : ∀ container, condition container = true → condition container.started = true)
    (has : HasContainer options containers containerId condition) :
    HasContainer options (containers.update selected HostContainer.started keeps_started)
      containerId condition := by
  obtain ⟨container, member, isId, ofScope, holds⟩ := has
  have moved : (if selected container = true then container.started else container) ∈
      (containers.update selected HostContainer.started keeps_started).rows :=
    (@Table.mem_update _ _ _ _ _ keeps_started _).mpr ⟨container, member, rfl⟩
  refine ⟨_, moved, ?_⟩
  split
  · exact ⟨isId, ofScope, kept container holds⟩
  · exact ⟨isId, ofScope, holds⟩

theorem RequestSound.insert {after : HostContainers} {added : HostContainer}
    (inserted : containers.insert added = some after) {request : ContainerRequest}
    (sound : RequestSound options containers request) :
    RequestSound options after request := by
  cases request with
  | listing => trivial
  | creating existingContainers => exact sound
  | starting containerId => exact HasContainer.insert inserted sound
  | resolved containerId => exact HasContainer.insert inserted sound

theorem RequestSound.start (selected : HostContainer → Bool) {request : ContainerRequest}
    (sound : RequestSound options containers request) :
    RequestSound options (containers.update selected HostContainer.started keeps_started)
      request := by
  cases request with
  | listing => trivial
  | creating existingContainers => exact sound
  | starting containerId =>
      apply HasContainer.start selected _ sound
      intro container isLive
      rfl
  | resolved containerId =>
      apply HasContainer.start selected _ sound
      intro container isRunning
      rfl

namespace Sole

variable {options : ContainerOptions} {state : ContainersState}

theorem sound_setRequest {containers : HostContainers} {requests : List ContainerRequest}
    {request : ContainerRequest}
    (sound : ∀ other ∈ requests, RequestSound options containers other)
    (isSound : RequestSound options containers request) (index : Nat) :
    ∀ other ∈ requests.set index request, RequestSound options containers other := by
  grind

theorem list (sole : Sole options state) (index : Nat) :
    Sole options (state.list options index) := by
  unfold ContainersState.list
  split
  · refine ⟨sole.prepared, sound_setRequest sole.requests ?_ index⟩
    cases reused : reusableOf options.labels
        (listContainersByLabels state.containers options.labels) with
    | none => exact reused
    | some found =>
        obtain ⟨container, member, ofScope, rfl, isLive⟩ := reusableOf_some options reused
        dsimp only
        split
        · rename_i isRunning
          exact ⟨container, member, rfl, ofScope, beq_iff_eq.mpr (status_of_running isRunning)⟩
        · exact ⟨container, member, rfl, ofScope, isLive⟩
  · exact sole

theorem create (sole : Sole options state) {index : Nat}
    (alone : CreatesOnce options state (.create index)) :
    Sole options (state.create options index) := by
  unfold CreatesOnce CreatesAlone at alone
  unfold ContainersState.create
  dsimp only at alone
  split
  · rename_i existingContainers isCreating
    rw [isCreating] at alone
    obtain ⟨unchanged, noneStuck, asked⟩ := alone
    have nothing : reusableOf options.labels existingContainers = none :=
      sole.requests _ (List.mem_of_getElem? isCreating)
    have allDead := noneLive_of_none options unchanged nothing noneStuck
    dsimp only
    split
    · exact sole
    · rename_i containers inserted
      have addedOfScope : isOfScope options
          ⟨options.newId state.created, options.createdLabels, .created⟩ = true :=
        Bool.and_eq_true_iff.mpr ⟨override_carries options.imageLabels options.labels, asked⟩
      refine ⟨⟨?_, ?_⟩, ?_⟩
      · intro container member carried
        rcases (Table.mem_insert inserted).mp member with old | rfl
        · exact sole.prepared.own container old carried
        · exact addedOfScope
      · have noneLive : (state.containers.rows.filter fun container =>
            isOfScope options container && container.isLive) = [] := by
          rw [List.filter_eq_nil_iff]
          intro container member holds
          obtain ⟨ofScope, isLive⟩ := Bool.and_eq_true_iff.mp holds
          grind [HostContainer.isLive]
        show (containers.rows.filter _).length ≤ 1
        rw [Table.insert_rows inserted, List.filter_append, noneLive, List.nil_append]
        exact List.length_filter_le _ _
      · apply sound_setRequest
        · intro other member
          exact (sole.requests other member).insert inserted
        · exact ⟨_, (Table.mem_insert inserted).mpr (.inr rfl), rfl, addedOfScope, rfl⟩
  · exact sole

theorem start (sole : Sole options state) (index : Nat) : Sole options (state.start index) := by
  unfold ContainersState.start
  split
  · rename_i containerId isStarting
    obtain ⟨target, targetMember, isTarget, ofScope, isLive⟩ :=
      sole.requests _ (List.mem_of_getElem? isStarting)
    refine ⟨⟨?_, ?_⟩, ?_⟩
    · intro changed inside carried
      obtain ⟨container, member, rfl⟩ :=
        (@Table.mem_update _ _ _ _ _ keeps_started _).mp inside
      split at carried
      · rw [if_pos ‹_›]
        exact sole.prepared.own container member carried
      · grind [sole.prepared.own]
    · -- Starting the one container that is alive leaves as many alive.
      have sameLive : ∀ container ∈ state.containers.rows,
          (isOfScope options
              (if (container.id == containerId) = true then container.started else container) &&
            (if (container.id == containerId) = true then container.started
              else container).isLive) = (isOfScope options container && container.isLive) := by
        intro container member
        split
        · rename_i selected
          have equal : container = target := container_unique _ member targetMember
            ((beq_iff_eq.mp selected).trans isTarget.symm)
          rw [isOfScope_started, equal, isLive]
          rfl
        · rfl
      show ((state.containers.rows.map _).filter _).length ≤ 1
      grind [List.filter_congr, sole.prepared.one]
    · apply sound_setRequest
      · intro other member
        exact (sole.requests other member).start _
      · have moved := (@Table.mem_update _ _ state.containers
          (fun container => container.id == containerId) _ keeps_started _).mpr
          ⟨target, targetMember, rfl⟩
        rw [if_pos (beq_iff_eq.mpr isTarget)] at moved
        exact ⟨_, moved, isTarget, ofScope, rfl⟩
  · exact sole

theorem step (sole : Sole options state) {input : ContainerInput}
    (once : CreatesOnce options state input) :
        Sole options (containerStep options state input) := by
  cases input with
  | request =>
      refine ⟨sole.prepared, ?_⟩
      intro request member
      rcases List.mem_append.mp member with old | new
      · exact sole.requests request old
      · rw [List.mem_singleton.mp new]
        trivial
  | list index => exact sole.list index
  | create index => exact sole.create once
  | start index => exact sole.start index

end Sole

/-! ### Runs -/

theorem eq_of_filter_le_one {containers : List HostContainer} {selected : HostContainer → Bool}
    (short : (containers.filter selected).length ≤ 1) {left right : HostContainer}
    (leftMember : left ∈ containers) (leftSelected : selected left = true)
    (rightMember : right ∈ containers) (rightSelected : selected right = true) : left = right := by
  have leftInside := List.mem_filter.mpr ⟨leftMember, leftSelected⟩
  have rightInside := List.mem_filter.mpr ⟨rightMember, rightSelected⟩
  rcases filtered : containers.filter selected with _ | ⟨only, _ | ⟨next, rest⟩⟩
  · rw [filtered] at leftInside
    cases leftInside
  · grind
  · rw [filtered] at short
    simp at short

theorem Sole.oneContainer {options : ContainerOptions} {state : ContainersState}
    (sole : Sole options state) : OneContainer options state := by
  refine ⟨sole.prepared.one, ?_⟩
  intro containerId isResolved
  obtain ⟨container, member, rfl, ofScope, isRunning⟩ := sole.requests _ isResolved
  have running : container.status = .running := beq_iff_eq.mp isRunning
  have live : ∀ other : HostContainer, other.status = .running → other.isLive = true := by
    intro other otherRunning
    rw [HostContainer.isLive, otherRunning]
    rfl
  have listed : container.info ∈
      listContainersByLabels state.containers options.workerLabels :=
    List.mem_filter.mpr ⟨List.mem_map_of_mem member, carries_workerLabels options ofScope⟩
  unfold findRunningAppWorkerContainer
  cases found : (listContainersByLabels state.containers options.workerLabels).find?
      fun container => container.state == .running with
  | none =>
      have missed := List.find?_eq_none.mp found container.info listed
      rw [HostContainer.info, running] at missed
      exact absurd rfl missed
  | some first =>
      obtain ⟨inside, carried⟩ := List.mem_filter.mp (List.mem_of_find?_eq_some found)
      obtain ⟨other, otherMember, rfl⟩ := List.mem_map.mp inside
      have isRunning : (other.info.state == .running) = true :=
        @List.find?_some _ (fun listed : ContainerInfo => listed.state == .running) _ _ found
      have otherRunning := status_of_running isRunning
      have otherOfScope := sole.prepared.own other otherMember carried
      have equal : other = container := eq_of_filter_le_one sole.prepared.one otherMember
        (Bool.and_eq_true_iff.mpr ⟨otherOfScope, live other otherRunning⟩) member
        (Bool.and_eq_true_iff.mpr ⟨ofScope, live container running⟩)
      rw [equal]
      rfl

/-- At most one container of the scope is alive, and jobs find it, in every run whose creations
are alone. -/
theorem oneContainer_run (options : ContainerOptions) (containers : HostContainers)
    (prepared : Prepared options containers) (inputs : List ContainerInput)
    (once : AlongRun (containerStep options) (CreatesOnce options) { containers := containers }
      inputs) :
    OneContainer options (run (containerStep options) { containers := containers } inputs) := by
  have start : Sole options { containers := containers } := by
    refine ⟨prepared, ?_⟩
    nofun
  exact (run_invariant_of_alongRun (fun _ _ sole here => sole.step here) start once).oneContainer

/-! ### Two requests between a listing and a creation -/

def sampleOptions : ContainerOptions where
  image := "worker:1"
  configLabels := []
  workerLabels := [("lombok.container_type", "worker"), (isolationKeyLabel, "k1")]
  imageLabels := []
  newId count := if count = 0 then "c0" else "c1"

/-- Both requests list before either creates. -/
def twoRequests : List ContainerInput :=
  [.request, .request, .list 0, .list 1, .create 0, .create 1, .start 0, .start 1]

theorem twoContainers_created :
    Prepared sampleOptions .empty ∧
      ¬ OneContainer sampleOptions
        (run (containerStep sampleOptions) { containers := .empty } twoRequests) := by
  refine ⟨⟨fun container member => absurd member List.not_mem_nil, Nat.zero_le 1⟩, ?_⟩
  intro oneContainer
  have two : ¬ ((run (containerStep sampleOptions) { containers := .empty }
      twoRequests).containers.rows.filter fun container =>
        isOfScope sampleOptions container && container.isLive).length ≤ 1 := by decide +kernel
  exact two oneContainer.one

theorem oneContainer_sequential :
    OneContainer sampleOptions (run (containerStep sampleOptions) { containers := .empty }
      [.request, .list 0, .create 0, .start 0, .request, .list 1]) :=
  oneContainer_run sampleOptions .empty
    ⟨fun container member => absurd member List.not_mem_nil, Nat.zero_le 1⟩ _ (by decide +kernel)

end Lombok.Docker
