import Lombok.Apps.Entity

/-!
Contract: an app config as the shape of its schema parses it.

Owns container profiles, contributions and mobile queries: what the checks
across fields and the docker jobs read of them.

Keys that the shape does not know are stripped, so a completion handler has no
progress handlers.
-/

namespace Lombok.Apps

open Lombok.Core Lombok.Tasks

/-! ### Container profiles -/

/-- `containerTargetSchema`; an absent `userIsolation` is false. -/
inductive ContainerTarget where
  | instanceTarget (containerIdTemplate : String) (userIsolation : Bool)
  | classTarget (isolationKeyTemplate : Option String) (userIsolation : Bool)
deriving DecidableEq

/-- A job's own target; `null` and absent are the same. -/
structure HttpJobDefinition where
  identifier : String
  containerTarget : Option ContainerTarget
deriving DecidableEq

inductive DockerWorkerConfig where
  | exec (command : List String) (jobIdentifier : String)
      (containerTarget : Option ContainerTarget)
  | http (command : List String) (port : Nat) (jobs : List HttpJobDefinition)
deriving DecidableEq

structure ContainerProfileConfig where
  image : String
  workers : List DockerWorkerConfig
  containerTarget : Option ContainerTarget
deriving DecidableEq

def DockerWorkerConfig.jobIdentifiers : DockerWorkerConfig → List String
  | exec _ jobIdentifier _ => [jobIdentifier]
  | http _ _ jobs => jobs.map HttpJobDefinition.identifier

/-! ### Contributions -/

inductive IconSource where
  | builtin
  | custom
deriving DecidableEq

/-- `appContributionEmbedLinkSchema`. -/
structure AppContributionEmbedLink where
  path : String
  label : String
  icon : Option IconSource
deriving DecidableEq

structure MobileQueryRef where
  name : String
deriving DecidableEq

structure MobileQueryBinding where
  query : MobileQueryRef
deriving DecidableEq

structure MobilePollBinding where
  query : MobileQueryRef
deriving DecidableEq

inductive MobileQueryDefinition where
  | lombok (path : String)
  | app (path worker : String)
deriving DecidableEq

structure MobileEvent where
  name : String
  context : Fields

/-- A component; `properties` are the freeform ones. -/
structure MobileComponent where
  id : String
  action : Option MobileEvent
  properties : Fields

structure MobileRootView where
  id : String
  navRoot : Bool
  components : List MobileComponent
  initialQueries : List MobileQueryBinding
  actionMap : List (String × List MobileQueryBinding)
  pollQueries : List MobilePollBinding

structure MobileContributions where
  queries : List (String × MobileQueryDefinition)
  root : Option (List MobileRootView)

structure AppContributions where
  uiEntrypoints : List AppContributionEmbedLink
  folderSidebarViews : List AppContributionEmbedLink
  objectSidebarViews : List AppContributionEmbedLink
  objectDetailViews : List AppContributionEmbedLink
  folderDetailViews : List AppContributionEmbedLink
  mobile : Option MobileContributions

/-- What the refinements read of a config. The records are the lists of their entries. -/
structure ParsedConfig where
  icon : IconSource
  subscribedCoreEvents : List String
  triggers : List TaskTriggerConfig
  tasks : List AppTaskConfig
  containerProfiles : List (String × ContainerProfileConfig)
  runtimeWorkers : List String
  performSearch : List String
  uiEnabled : Bool
  contributions : Option AppContributions

/-- The shared fields of a trigger. -/
def TaskTriggerConfig.base : TaskTriggerConfig → TaskTriggerConfigBase
  | .event trigger => trigger.toTaskTriggerConfigBase
  | .schedule trigger => trigger.toTaskTriggerConfigBase
  | .userAction trigger => trigger

end Lombok.Apps
