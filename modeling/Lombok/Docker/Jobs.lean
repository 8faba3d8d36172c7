import Lombok.Apps.Config
import Lombok.Library.Record

/-!
Contract: the container a docker job is run in.

Owns the labels of worker containers, `resolveProfileJobDefinition`, the three
ways `executeDockerJob` comes to a container (a container named by the job's
data, an isolation class, the profile's shared container), and
`findOrCreateContainer` over the containers of a host.

A host is one that answers: where a request to it fails, the call throws and no
job is run. Mounts, environment, job tokens and what the job itself does are
left out.
-/

namespace Lombok.Docker

open Lombok.Core Lombok.Library Lombok.Apps

/-! ### Labels -/

abbrev Labels := Record String String

/-- `DOCKER_LABELS.APP_ID`. -/
def appIdLabel : String := "lombok.container_app_id"

/-- `DOCKER_LABELS.USER_ID`. -/
def userIdLabel : String := "lombok.container_user_id"

/-- `DOCKER_LABELS.ISOLATION_KEY`. -/
def isolationKeyLabel : String := "lombok.container_isolation_key"

/-- A text as JavaScript takes it for true: an empty one is as absent. -/
def present (text : Option String) : Option String := text.filter fun value => value != ""

/-- An entry that is there when its text is. -/
def labelOf (key : String) (text : Option String) : Labels :=
  match present text with
  | some value => [(key, value)]
  | none => []

/-! ### Hosts -/

inductive ContainerState where
  | running
  | exited
  | paused
  | created
  | unknown
deriving DecidableEq

/-- `ContainerInfo`. -/
structure ContainerInfo where
  id : String
  labels : Labels
  state : ContainerState
deriving DecidableEq

/-- A docker host that answers. A container is found by whatever names it, and a new one has the
labels of its image where it is not given others. -/
structure DockerHost where
  enabled : Bool
  containers : List ContainerInfo
  inspect : String → Option ContainerInfo
  inspected : ∀ reference container, inspect reference = some container → container ∈ containers
  imageLabels : String → Labels
  nextId : String

def DockerHost.createContainer (host : DockerHost) (image : String) (labels : Labels) :
    ContainerInfo :=
  ⟨host.nextId, (host.imageLabels image).override labels, .running⟩

def DockerHost.listContainersByLabels (host : DockerHost) (labels : Labels) :
    List ContainerInfo :=
  host.containers.filter fun container => container.labels.carries labels

def asksFor (labels : Labels) (container : ContainerInfo) : Bool :=
  !((present (labels.get? userIdLabel)).isNone &&
      (present (container.labels.get? userIdLabel)).isSome) &&
    !((present (labels.get? isolationKeyLabel)).isNone &&
      (present (container.labels.get? isolationKeyLabel)).isSome)

/-- The container `findOrCreateContainer` finds: a running one, or else a stopped one. -/
def DockerHost.reusable (host : DockerHost) (labels : Labels) : Option ContainerInfo :=
  let matching := (host.listContainersByLabels labels).filter (asksFor labels)
  (matching.find? fun container => container.state == .running).or
    (matching.find? fun container => container.state == .exited || container.state == .created)

def findOrCreateContainer (host : DockerHost) (image : String) (labels : Labels) : ContainerInfo :=
  match host.reusable labels with
  | some container => { container with state := .running }
  | none => host.createContainer image labels

/-! ### Requests -/

inductive DockerFailure where
  | asyncWork (code message : String)
  | notFound (message : String)
deriving DecidableEq

/-- What `resolveProfileConfig` answers for a profile. -/
structure ProfileHostConfig where
  hostId : String
  labels : Labels
deriving DecidableEq

/-- What a docker job takes from outside. `renderTemplate` is `dataFromTemplate` of one string over
the job's data. -/
structure DockerEnv where
  platformHost : String
  platformUrl : String
  hashProfileSpec : ContainerProfileConfig → String
  renderTemplate : String → Json → Except DockerFailure Json
  resolveProfileConfig : String → String → Except DockerFailure ProfileHostConfig
  host : String → DockerHost

/-- `DockerExecuteJobOptions`. Apps have identifiers. -/
structure DockerExecuteJobOptions where
  appIdentifier : String
  named : appIdentifier ≠ ""
  profileKey : String
  profileSpec : ContainerProfileConfig
  jobIdentifier : String
  jobData : Json
  userId : Option String

/-- The user and isolation key a container is for. -/
structure Scope where
  userId : Option String
  isolationKey : Option String
deriving DecidableEq

def buildWorkerContainerLabels (env : DockerEnv) (options : DockerExecuteJobOptions)
    (scope : Scope) : Labels :=
  [("lombok.platform_host", env.platformHost), ("lombok.platform_url", env.platformUrl),
      ("lombok.container_type", "worker"),
      ("lombok.container_profile_hash", env.hashProfileSpec options.profileSpec),
      ("lombok.container_image", options.profileSpec.image),
      ("lombok.container_profile_id", "lombok:profile_" ++ options.profileKey)] ++
    labelOf appIdLabel (some options.appIdentifier) ++ labelOf userIdLabel scope.userId ++
    labelOf isolationKeyLabel scope.isolationKey

/-! ### The job's definition -/

def containerTargetOf (worker : DockerWorkerConfig) (jobIdentifier : String) :
    Option ContainerTarget :=
  match worker with
  | .exec _ _ containerTarget => containerTarget
  | .http _ _ jobs =>
      (jobs.find? fun job => job.identifier == jobIdentifier).bind HttpJobDefinition.containerTarget

/-- `resolveProfileJobDefinition`: the target of the job, or else of its profile. -/
def resolveProfileJobDefinition (profileSpec : ContainerProfileConfig) (jobIdentifier : String) :
    Except DockerFailure (Option ContainerTarget) :=
  match profileSpec.workers.find? fun worker => worker.jobIdentifiers.contains jobIdentifier with
  | none =>
      let available := profileSpec.workers.flatMap DockerWorkerConfig.jobIdentifiers
      .error (.notFound ("Job class \"" ++ jobIdentifier ++ "\" not found. Available: " ++
        if available.isEmpty then "(none)" else String.intercalate ", " available))
  | some worker =>
      .ok ((containerTargetOf worker jobIdentifier).or profileSpec.containerTarget)

/-- `resolveDockerHostConfigForProfile`. -/
def resolveDockerHostConfigForProfile (env : DockerEnv) (profileKey : String) :
    Except DockerFailure ProfileHostConfig :=
  let parts := (profileKey.toList.splitOn ':').map String.ofList
  match present parts[0]?, present parts[1]? with
  | some appIdentifier, some profileName => env.resolveProfileConfig appIdentifier profileName
  | _, _ => .error (.asyncWork "DOCKER_NOT_CONFIGURED" ("Invalid profile key \"" ++ profileKey ++
      "\" — expected \"appIdentifier:profileName\""))

/-! ### Scopes -/

/-- The text a template resolves to; an empty one and anything else count as none. -/
def renderText (env : DockerEnv) (template : String) (jobData : Json) :
    Except DockerFailure (Option String) := do
  let value ← env.renderTemplate template jobData
  match value with
  | .str text => .ok (present (some text))
  | _ => .ok none

def isolationKeyOf (env : DockerEnv) (template : Option String) (userIsolation : Bool)
    (options : DockerExecuteJobOptions) : Except DockerFailure (Option String) := do
  let rendered ← match present template with
    | some text => renderText env text options.jobData
    | none => .ok none
  match userIsolation, present options.userId with
  | true, some userId =>
      .ok (some (match rendered with
        | some key => "user:" ++ userId ++ ":" ++ key
        | none => "user:" ++ userId))
  | _, _ => .ok rendered

def scopeOf (env : DockerEnv) (options : DockerExecuteJobOptions) :
    Option ContainerTarget → Except DockerFailure Scope
  | some (.classTarget template userIsolation) => do
      let isolationKey ← isolationKeyOf env template userIsolation options
      .ok ⟨if userIsolation then options.userId else none, isolationKey⟩
  | _ => .ok ⟨options.userId, none⟩

/-! ### Containers -/

/-- The credentials a container is provisioned with. -/
structure Provision where
  appIdentifier : String
  userId : Option String
deriving DecidableEq

/-- The container a job is run in, and the credentials it was given for it. -/
structure JobRun where
  hostId : String
  container : ContainerInfo
  provisioned : Option Provision
deriving DecidableEq

/-- `resolveContainer` with a container id. -/
def resolveContainerById (env : DockerEnv) (hostId containerId : String) :
    Except DockerFailure JobRun :=
  let host := env.host hostId
  if !host.enabled then
    .error (.asyncWork "DOCKER_NOT_CONFIGURED"
      ("Unrecognized Docker host \"" ++ hostId ++ "\" for container \"" ++ containerId ++ "\""))
  else
    match host.inspect containerId with
    | none => .error (.asyncWork "CONTAINER_NOT_FOUND"
        ("Container \"" ++ containerId ++ "\" not found on host \"" ++ hostId ++ "\""))
    | some container => .ok ⟨hostId, { container with state := .running }, none⟩

/-- `resolveContainer` with a profile: the labels of the host's config are asked for as well, and
the container is provisioned. -/
def resolveContainerForProfile (env : DockerEnv) (options : DockerExecuteJobOptions)
    (scope : Scope) : Except DockerFailure JobRun := do
  let config ← resolveDockerHostConfigForProfile env options.profileKey
  let labels := config.labels.override (buildWorkerContainerLabels env options scope)
  .ok ⟨config.hostId,
    findOrCreateContainer (env.host config.hostId) options.profileSpec.image labels,
    some ⟨options.appIdentifier, scope.userId⟩⟩

def userMismatch (container : Option ContainerInfo) (userId : String) : Bool :=
  match container.bind fun found => present (found.labels.get? userIdLabel) with
  | some owner => owner != userId
  | none => false

/-- The check of `userIsolation` on a container that is named. -/
def refusesUser (userIsolation : Bool) (userId : Option String)
    (container : Option ContainerInfo) : Bool :=
  match userIsolation, present userId with
  | true, some user => userMismatch container user
  | _, _ => false

def executeInstanceJob (env : DockerEnv) (options : DockerExecuteJobOptions)
    (containerIdTemplate : String) (userIsolation : Bool) : Except DockerFailure JobRun := do
  let resolved ← renderText env containerIdTemplate options.jobData
  match resolved with
  | none => .error (.asyncWork "INVALID_CONTAINER_TARGET"
      "containerIdTemplate did not resolve to a valid container ID")
  | some containerId =>
      let config ← resolveDockerHostConfigForProfile env options.profileKey
      if refusesUser userIsolation options.userId
          ((env.host config.hostId).inspect containerId) then
        .error (.asyncWork "CONTAINER_USER_MISMATCH" ("Container \"" ++ containerId ++
          "\" does not belong to user \"" ++ options.userId.getD "" ++ "\""))
      else resolveContainerById env config.hostId containerId

/-- `executeDockerJob`, up to the container the job is run in. -/
def executeDockerJob (env : DockerEnv) (options : DockerExecuteJobOptions) :
    Except DockerFailure JobRun := do
  let target ← resolveProfileJobDefinition options.profileSpec options.jobIdentifier
  match target with
  | some (.instanceTarget containerIdTemplate userIsolation) =>
      executeInstanceJob env options containerIdTemplate userIsolation
  | _ => do
      let scope ← scopeOf env options target
      resolveContainerForProfile env options scope

end Lombok.Docker
