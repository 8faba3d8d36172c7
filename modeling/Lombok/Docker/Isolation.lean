import Lombok.Docker.Jobs
import Lombok.Library.Action

/-!
Contract: a docker job runs in a container of its own app, user and isolation
key.

Owns the condition under which the container of every job carries the labels of
its request's scope.

A container that a job's data names is checked for another user at most, and
only where the target asks for it; labels of the host's config and of an image
that the scope leaves open are not overridden.
-/

namespace Lombok.Docker

open Lombok.Core Lombok.Library Lombok.Library.Action Lombok.Apps

/-! ### The property -/

/-- The container is the app's, and of the scope's user and isolation key. -/
structure Isolated (appIdentifier : String) (scope : Scope) (labels : Labels) : Prop where
  app : labels.get? appIdLabel = some appIdentifier
  user : present (labels.get? userIdLabel) = present scope.userId
  isolationKey : present (labels.get? isolationKeyLabel) = present scope.isolationKey

def requestScope (env : DockerEnv) (options : DockerExecuteJobOptions) :
    Except DockerFailure Scope := do
  let target ← resolveProfileJobDefinition options.profileSpec options.jobIdentifier
  scopeOf env options target

def RunsIsolated (env : DockerEnv) (options : DockerExecuteJobOptions) : Prop :=
  ∀ run, executeDockerJob env options = .ok run →
    ∃ scope, requestScope env options = .ok scope ∧
      Isolated options.appIdentifier scope run.container.labels

/-! ### The condition -/

def LeavesOpen (host : DockerHost) (config : ProfileHostConfig) (image : String) (asked : Labels)
    (key : String) (wanted : Option String) : Prop :=
  present wanted = none →
    present (config.labels.get? key) = none ∧
      (host.reusable asked = none →
        present (((host.imageLabels image).override config.labels).get? key) = none)

def OwnContainer (env : DockerEnv) (options : DockerExecuteJobOptions)
    (containerIdTemplate : String) (userIsolation : Bool) : Prop :=
  ∀ containerId config container,
    renderText env containerIdTemplate options.jobData = .ok (some containerId) →
    resolveDockerHostConfigForProfile env options.profileKey = .ok config →
    (env.host config.hostId).enabled = true →
    (env.host config.hostId).inspect containerId = some container →
    refusesUser userIsolation options.userId (some container) = false →
      Isolated options.appIdentifier ⟨options.userId, none⟩ container.labels

def OwnScope (env : DockerEnv) (options : DockerExecuteJobOptions) (scope : Scope) : Prop :=
  ∀ config, resolveDockerHostConfigForProfile env options.profileKey = .ok config →
    let asked := config.labels.override (buildWorkerContainerLabels env options scope)
    let image := options.profileSpec.image
    LeavesOpen (env.host config.hostId) config image asked userIdLabel scope.userId ∧
      LeavesOpen (env.host config.hostId) config image asked isolationKeyLabel scope.isolationKey

def Contained (env : DockerEnv) (options : DockerExecuteJobOptions) : Prop :=
  ∀ target, resolveProfileJobDefinition options.profileSpec options.jobIdentifier = .ok target →
    match target with
    | some (.instanceTarget containerIdTemplate userIsolation) =>
        OwnContainer env options containerIdTemplate userIsolation
    | _ => ∀ scope, scopeOf env options target = .ok scope → OwnScope env options scope

/-! ### Labels that are asked for -/

theorem present_of_ne_empty {text : String} (nonempty : text ≠ "") :
    present (some text) = some text := by
  rw [present, Option.filter_some, if_pos (bne_iff_ne.mpr nonempty)]

theorem present_of_present {text : Option String} {value : String}
    (held : present text = some value) : present (some value) = some value := by
  exact present_of_ne_empty (bne_iff_ne.mp (Option.filter_eq_some_iff.mp held).2)

theorem get?_labelOf_same (key : String) (text : Option String) :
    (labelOf key text).get? key = present text := by
  unfold labelOf
  cases present text with
  | none => rfl
  | some value => rw [Record.get?_cons, if_pos rfl]

theorem get?_labelOf_other {key other : String} (different : key ≠ other) (text : Option String) :
    (labelOf key text).get? other = none := by
  unfold labelOf
  cases present text with
  | none => rfl
  | some value =>
      rw [Record.get?_cons, if_neg different]
      rfl

section Built

variable (env : DockerEnv) (options : DockerExecuteJobOptions) (scope : Scope)

theorem get?_built_app :
    (buildWorkerContainerLabels env options scope).get? appIdLabel =
        some options.appIdentifier := by
  unfold buildWorkerContainerLabels
  rw [Record.get?_append, Record.get?_append, Record.get?_append, get?_labelOf_same,
    present_of_ne_empty options.named]
  rfl

theorem get?_built_user :
    (buildWorkerContainerLabels env options scope).get? userIdLabel = present scope.userId := by
  unfold buildWorkerContainerLabels
  rw [Record.get?_append, Record.get?_append, Record.get?_append, get?_labelOf_same,
    get?_labelOf_other (by decide), get?_labelOf_other (by decide), Option.or_none]
  rfl

theorem get?_built_isolationKey :
    (buildWorkerContainerLabels env options scope).get? isolationKeyLabel =
      present scope.isolationKey := by
  unfold buildWorkerContainerLabels
  rw [Record.get?_append, Record.get?_append, Record.get?_append, get?_labelOf_same,
    get?_labelOf_other (by decide), get?_labelOf_other (by decide)]
  rfl

end Built

/-! ### The container of a scope -/

section Selection

variable {host : DockerHost} {config : ProfileHostConfig} {image : String} {built : Labels}
  {key : String} {wanted : Option String}

/-- A container that is found carries what is asked for and nothing unasked for. -/
theorem reusable_spec {asked : Labels} {container : ContainerInfo}
    (found : host.reusable asked = some container) :
    container.labels.carries asked = true ∧ asksFor asked container = true := by
  have matching : container ∈ (host.listContainersByLabels asked).filter (asksFor asked) := by
    rcases Option.or_eq_some_iff.mp found with running | ⟨_, stopped⟩
    · exact List.mem_of_find?_eq_some running
    · exact List.mem_of_find?_eq_some stopped
  obtain ⟨listed, asks⟩ := List.mem_filter.mp matching
  exact ⟨(List.mem_filter.mp listed).2, asks⟩

theorem present_isNone {text : Option String} (absent : ¬(present text).isSome = true) :
    present text = none := by
  cases held : present text with
  | none => rfl
  | some value =>
      rw [held] at absent
      exact absurd rfl absent

theorem unasked_absent {asked : Labels} {container : ContainerInfo}
    (asks : asksFor asked container = true) :
    (present (asked.get? userIdLabel) = none →
        present (container.labels.get? userIdLabel) = none) ∧
      (present (asked.get? isolationKeyLabel) = none →
        present (container.labels.get? isolationKeyLabel) = none) := by
  unfold asksFor at asks
  rw [Bool.and_eq_true, Bool.not_eq_true', Bool.not_eq_true', Bool.and_eq_false_iff,
    Bool.and_eq_false_iff] at asks
  grind [present_isNone]

/-- The labels asked for, over those of the host's config. -/
theorem get?_asked (composed : built.get? key = present wanted) :
    (config.labels.override built).get? key = (present wanted).or (config.labels.get? key) := by
  rw [Record.get?_override, composed]

/-- The container of a scope has the wanted value under a key exactly when nothing else is put
where the scope leaves it open. -/
theorem scoped_iff (composed : built.get? key = present wanted)
    (excluded : ∀ container, host.reusable (config.labels.override built) = some container →
      present ((config.labels.override built).get? key) = none →
        present (container.labels.get? key) = none) :
    present ((findOrCreateContainer host image (config.labels.override built)).labels.get? key) =
        present wanted ↔
      LeavesOpen host config image (config.labels.override built) key wanted := by
  have asked := @get?_asked config built key wanted composed
  unfold LeavesOpen findOrCreateContainer
  cases found : host.reusable (config.labels.override built) with
  | some container =>
      have carried := (reusable_spec found).1
      cases isWanted : present wanted with
      | some value =>
          rw [isWanted, Option.some_or] at asked
          rw [Record.get?_of_carries carried asked]
          exact ⟨fun _ unwanted => (by cases unwanted), fun _ => present_of_present isWanted⟩
      | none =>
          rw [isWanted, Option.none_or] at asked
          constructor
          · intro absent _
            refine ⟨?_, fun none => by cases none⟩
            cases held : config.labels.get? key with
            | none => rfl
            | some value =>
                rw [held] at asked
                rw [Record.get?_of_carries carried asked] at absent
                exact absent
          · grind
  | none =>
      have created : (host.createContainer image (config.labels.override built)).labels.get? key =
          ((present wanted).or (config.labels.get? key)).or
              ((host.imageLabels image).get? key) := by
        rw [← asked]
        exact Record.get?_override ..
      rw [created]
      cases isWanted : present wanted with
      | some value =>
          exact ⟨fun _ unwanted => (by cases unwanted), fun _ => present_of_present isWanted⟩
      | none =>
          rw [Option.none_or, Record.get?_override]
          constructor
          · intro absent _
            refine ⟨?_, fun _ => absent⟩
            cases held : config.labels.get? key with
            | none => rfl
            | some value =>
                grind
          · exact fun leaves => (leaves rfl).2 rfl

end Selection

/-! ### Jobs -/

section Jobs

variable (env : DockerEnv) (options : DockerExecuteJobOptions)

/-- The app's own identifier is asked for, and nothing overrides it. -/
theorem scoped_app (scope : Scope) (host : DockerHost) (config : ProfileHostConfig)
    (image : String) :
    (findOrCreateContainer host image
      (config.labels.override (buildWorkerContainerLabels env options scope))).labels.get?
        appIdLabel = some options.appIdentifier := by
  have asked : (config.labels.override (buildWorkerContainerLabels env options scope)).get?
      appIdLabel = some options.appIdentifier := by
    rw [Record.get?_override, get?_built_app, Option.some_or]
  unfold findOrCreateContainer
  cases found : host.reusable
      (config.labels.override (buildWorkerContainerLabels env options scope)) with
  | some container => exact Record.get?_of_carries (reusable_spec found).1 asked
  | none =>
      unfold DockerHost.createContainer
      rw [Record.get?_override, asked, Option.some_or]

theorem scope_isolated_iff (scope : Scope) (host : DockerHost) (config : ProfileHostConfig)
    (image : String) :
    let asked := config.labels.override (buildWorkerContainerLabels env options scope)
    Isolated options.appIdentifier scope (findOrCreateContainer host image asked).labels ↔
      LeavesOpen host config image asked userIdLabel scope.userId ∧
        LeavesOpen host config image asked isolationKeyLabel scope.isolationKey := by
  intro asked
  have user := @scoped_iff host config image _ _ _ (get?_built_user env options scope)
    fun container found => (unasked_absent (reusable_spec found).2).1
  have isolationKey := @scoped_iff host config image _ _ _
    (get?_built_isolationKey env options scope)
    fun container found => (unasked_absent (reusable_spec found).2).2
  rw [← user, ← isolationKey]
  constructor
  · exact fun isolated => ⟨isolated.user, isolated.isolationKey⟩
  · exact fun both => ⟨scoped_app env options scope host config image, both.1, both.2⟩

theorem resolveContainerById_returns_iff {hostId containerId : String} {run : JobRun} :
    resolveContainerById env hostId containerId = .ok run ↔
      ∃ container, (env.host hostId).enabled = true ∧
        (env.host hostId).inspect containerId = some container ∧
        run = ⟨hostId, { container with state := .running }, none⟩ := by
  grind [resolveContainerById]

theorem executeInstanceJob_returns_iff {containerIdTemplate : String} {userIsolation : Bool}
    {run : JobRun} :
    executeInstanceJob env options containerIdTemplate userIsolation = .ok run ↔
      ∃ containerId config container,
        renderText env containerIdTemplate options.jobData = .ok (some containerId) ∧
          resolveDockerHostConfigForProfile env options.profileKey = .ok config ∧
          (env.host config.hostId).enabled = true ∧
          (env.host config.hostId).inspect containerId = some container ∧
          refusesUser userIsolation options.userId (some container) = false ∧
          run = ⟨config.hostId, { container with state := .running }, none⟩ := by
  constructor
  · intro ran
    obtain ⟨resolved, rendered, ran⟩ := bind_eq_ok.mp ran
    cases resolved with
    | none => cases ran
    | some containerId =>
        obtain ⟨config, configured, ran⟩ := bind_eq_ok.mp ran
        split at ran
        · cases ran
        · rename_i accepted
          obtain ⟨container, enabled, found, isRun⟩ :=
            (resolveContainerById_returns_iff env).mp ran
          grind
  · rintro ⟨containerId, config, container, rendered, configured, enabled, found, accepted, isRun⟩
    apply bind_eq_ok.mpr
    simp [resolveContainerById_returns_iff, bind_eq_ok.mpr, rendered, configured, found, accepted,
      enabled, isRun]

theorem resolveContainerForProfile_returns_iff {scope : Scope} {run : JobRun} :
    resolveContainerForProfile env options scope = .ok run ↔
      ∃ config, resolveDockerHostConfigForProfile env options.profileKey = .ok config ∧
        run = ⟨config.hostId,
          findOrCreateContainer (env.host config.hostId) options.profileSpec.image
            (config.labels.override (buildWorkerContainerLabels env options scope)),
          some ⟨options.appIdentifier, scope.userId⟩⟩ := by
  grind [resolveContainerForProfile, bind_eq_ok]

/-- A named container is the request's own exactly when every run of it is isolated. -/
theorem instance_isolated_iff {containerIdTemplate : String} {userIsolation : Bool} :
    (∀ run, executeInstanceJob env options containerIdTemplate userIsolation = .ok run →
        Isolated options.appIdentifier ⟨options.userId, none⟩ run.container.labels) ↔
      OwnContainer env options containerIdTemplate userIsolation := by
  constructor
  · intro isolated containerId config container rendered configured enabled found accepted
    exact isolated _ ((executeInstanceJob_returns_iff env options).mpr
      ⟨containerId, config, container, rendered, configured, enabled, found, accepted, rfl⟩)
  · intro own run ran
    obtain ⟨containerId, config, container, rendered, configured, enabled, found, accepted, rfl⟩ :=
      (executeInstanceJob_returns_iff env options).mp ran
    exact own containerId config container rendered configured enabled found accepted

theorem profile_isolated_iff (scope : Scope) :
    (∀ run, resolveContainerForProfile env options scope = .ok run →
        Isolated options.appIdentifier scope run.container.labels) ↔
      OwnScope env options scope := by
  constructor
  · intro isolated config configured
    have isolatedRun := isolated _ ((resolveContainerForProfile_returns_iff env options).mpr
      ⟨config, configured, rfl⟩)
    exact (scope_isolated_iff env options scope _ config _).mp isolatedRun
  · intro own run ran
    obtain ⟨config, configured, rfl⟩ := (resolveContainerForProfile_returns_iff env options).mp ran
    exact (scope_isolated_iff env options scope _ config _).mpr (own config configured)

theorem scoped_job_iff {target : Option ContainerTarget}
    (resolved : resolveProfileJobDefinition options.profileSpec options.jobIdentifier = .ok target)
    (executes : executeDockerJob env options =
      scopeOf env options target >>= resolveContainerForProfile env options) :
    RunsIsolated env options ↔
      ∀ scope, scopeOf env options target = .ok scope → OwnScope env options scope := by
  have requested : requestScope env options = scopeOf env options target := by
    rw [requestScope, resolved]
    rfl
  rw [RunsIsolated, executes, requested]
  constructor
  · intro isolated scope computed
    rw [← profile_isolated_iff]
    intro run ran
    obtain ⟨other, isScope, isolatedRun⟩ :=
      isolated run (bind_eq_ok.mpr ⟨scope, computed, ran⟩)
    grind
  · intro own run ran
    obtain ⟨scope, computed, ran⟩ := bind_eq_ok.mp ran
    exact ⟨scope, computed, (profile_isolated_iff env options scope).mpr
        (own scope computed) run ran⟩

end Jobs

/-- Every container that a request's job is run in carries the labels of the request's scope exactly
when a container its data names is its own, and neither the host's config nor the image puts a user
or an isolation key where the scope has none. -/
theorem runsIsolated_iff (env : DockerEnv) (options : DockerExecuteJobOptions) :
    RunsIsolated env options ↔ Contained env options := by
  unfold Contained
  cases resolved : resolveProfileJobDefinition options.profileSpec options.jobIdentifier with
  | error failure =>
      have executes : executeDockerJob env options = .error failure := by
        rw [executeDockerJob, resolved]
        rfl
      constructor
      · nofun
      · intro _ run ran
        rw [executes] at ran
        cases ran
  | ok target =>
      have onTarget : ∀ condition : Option ContainerTarget → Prop,
          (∀ other, (.ok target : Except DockerFailure _) = .ok other → condition other) ↔
            condition target := by
        intro condition
        constructor
        · exact fun each => each target rfl
        · intro holds other same
          cases same
          exact holds
      rw [onTarget]
      rcases target with _ | ⟨template, userIsolation⟩ | ⟨template, userIsolation⟩
      · exact scoped_job_iff env options resolved (by unfold executeDockerJob; rw [resolved]; rfl)
      · dsimp only
        rw [← instance_isolated_iff]
        have requested : requestScope env options = .ok ⟨options.userId, none⟩ := by
          rw [requestScope, resolved]
          rfl
        have executes : executeDockerJob env options =
            executeInstanceJob env options template userIsolation := by
          rw [executeDockerJob, resolved]
          rfl
        rw [RunsIsolated, executes, requested]
        constructor
        · intro isolated run ran
          obtain ⟨scope, isScope, isolatedRun⟩ := isolated run ran
          cases isScope
          exact isolatedRun
        · exact fun isolated run ran => ⟨_, rfl, isolated run ran⟩
      · exact scoped_job_iff env options resolved (by unfold executeDockerJob; rw [resolved]; rfl)

/-! ### A container of another app -/

def sampleContainer : ContainerInfo where
  id := "c1"
  labels := [("lombok.container_app_id", "other-0a1b2c3d"), ("lombok.container_user_id", "u2")]
  state := .running

/-- A host with that container. A template resolves to the container id in the job's data. -/
def sampleDockerEnv : DockerEnv where
  platformHost := "lombok.local"
  platformUrl := "https://lombok.local"
  hashProfileSpec _ := "0"
  renderTemplate _ jobData := .ok ((jobData.get? "containerId").getD .null)
  resolveProfileConfig _ _ := .ok ⟨"host-1", []⟩
  host _ :=
    { enabled := true
      containers := [sampleContainer]
      inspect := fun reference => if reference = "c1" then some sampleContainer else none
      inspected := by
        intro reference container found
        split at found
        · cases found
          exact List.mem_singleton_self _
        · cases found
      imageLabels := fun _ => []
      nextId := "c2" }

def sampleJob : DockerExecuteJobOptions where
  appIdentifier := "media-12345678"
  named := by decide
  profileKey := "media-12345678:shell"
  profileSpec :=
    ⟨"alpine", [.exec ["run"] "open" none],
      some (.instanceTarget "{{inputData.containerId}}" false)⟩
  jobIdentifier := "open"
  jobData := .obj [("containerId", .str "c1")]
  userId := none

/-- The job runs in the other app's container. -/
theorem sampleJob_runsOutside : ¬RunsIsolated sampleDockerEnv sampleJob := by
  have ran : executeDockerJob sampleDockerEnv sampleJob = .ok ⟨"host-1",
      sampleContainer, none⟩ := by
    decide +kernel
  intro isolated
  obtain ⟨scope, _, isolatedRun⟩ := isolated _ ran
  exact absurd isolatedRun.app (by decide +kernel)

end Lombok.Docker
