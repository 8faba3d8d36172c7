import Lombok.Tasks.Entity

/-!
Contract: the `apps` table, what an app's config declares, and the settings
tables that hang off it.

Does not own: how settings are resolved, or who may read them.
-/

namespace Lombok.Apps

open Lombok.Core Lombok.Library Lombok.Tasks

/-! ### Config -/

inductive FolderScopeAppPermissions where
  | readObjects
  | writeObjects
  | writeObjectsMetadata
  | writeFolderMetadata
  | reindexFolder
deriving DecidableEq, Inhabited

/-- `taskConfigSchema`, without the label. -/
structure AppTaskConfig where
  identifier : String
  description : String
  handlerType : HandlerType
  handlerIdentifier : String
deriving DecidableEq, Inhabited

/-- The fields every trigger kind shares. -/
structure TaskTriggerConfigBase where
  condition : Option String
  taskIdentifier : String
  onComplete : List TaskOnCompleteConfig
  onProgress : List TaskOnProgressConfig
deriving Inhabited

structure EventTaskTriggerConfig extends TaskTriggerConfigBase where
  eventIdentifier : String
  dataTemplate : Option Json
  triggerKey : Option String
deriving Inhabited

structure ScheduleTaskTriggerConfig extends TaskTriggerConfigBase where
  config : ScheduleConfig
  triggerKey : String
deriving Inhabited

inductive TaskTriggerConfig where
  | event (trigger : EventTaskTriggerConfig)
  | schedule (trigger : ScheduleTaskTriggerConfig)
  | userAction (trigger : TaskTriggerConfigBase)
deriving Inhabited

/-- `definition ->> 'triggerKey'`. -/
def TaskTriggerConfig.triggerKey : TaskTriggerConfig → Option String
  | event trigger => trigger.triggerKey
  | schedule trigger => some trigger.triggerKey
  | userAction _ => none

structure AppSettingsConfig where
  secretKeyPattern : Option String
  user : Option Json
  folder : Option Json
deriving Inhabited

structure AppConfig where
  tasks : List AppTaskConfig := []
  triggers : List TaskTriggerConfig := []
  containerProfiles : Fields := []
  settings : Option AppSettingsConfig := none
deriving Inhabited

/-! ### Rows -/

/-- A row of `appsTable`. The identifier is a slug and an install suffix, which `core` is not. -/
structure App where
  id : String
  identifier : String
  notCore : identifier ≠ coreIdentifier := by decide
  subscribedCoreEvents : List String := []
  config : AppConfig := {}
  userScopeEnabledDefault : Bool
  folderScopeEnabledDefault : Bool
  folderPermissions : List FolderScopeAppPermissions := []
  database : Bool := false
  enabled : Bool

def App.sample : App where
  id := "app-id"
  identifier := "demo-0a1b2c3d"
  config :=
    { tasks :=
        [{ identifier := "resize", description := "Resize", handlerType := .runtime,
           handlerIdentifier := "worker" },
          { identifier := "notify", description := "Notify", handlerType := .runtime,
            handlerIdentifier := "worker" }] }
  userScopeEnabledDefault := true
  folderScopeEnabledDefault := true
  folderPermissions := [.readObjects]
  enabled := true

def App.clash (left right : App) : Bool :=
  left.id == right.id || left.identifier == right.identifier

abbrev AppsTable := Table App App.clash

/-- A row of `appUserSettingsTable`. -/
structure AppUserSettings where
  userId : String
  appId : String
  enabled : Option Bool
  folderScopeEnabledDefault : Option Bool
  folderScopePermissionsDefault : Option (List FolderScopeAppPermissions)
deriving DecidableEq, Inhabited

def AppUserSettings.clash (left right : AppUserSettings) : Bool :=
  left.userId == right.userId && left.appId == right.appId

abbrev AppUserSettingsTable := Table AppUserSettings AppUserSettings.clash

/-- A row of `appFolderSettingsTable`. -/
structure AppFolderSettings where
  folderId : String
  appId : String
  enabled : Option Bool
  permissions : Option (List FolderScopeAppPermissions)
deriving DecidableEq, Inhabited

def AppFolderSettings.clash (left right : AppFolderSettings) : Bool :=
  left.folderId == right.folderId && left.appId == right.appId

abbrev AppFolderSettingsTable := Table AppFolderSettings AppFolderSettings.clash

/-- A row of `appCustomUserSettingsTable` or `appCustomFolderSettingsTable`; `scopeId` is
the user or the folder. -/
structure AppCustomSetting where
  scopeId : String
  appId : String
  key : String
  value : Json
deriving Inhabited

def AppCustomSetting.clash (left right : AppCustomSetting) : Bool :=
  left.scopeId == right.scopeId && left.appId == right.appId && left.key == right.key

abbrev AppCustomSettingsTable := Table AppCustomSetting AppCustomSetting.clash

/-- A row of `appRuntimeTriggersTable`. -/
structure AppRuntimeTrigger where
  id : String
  appId : String
  definition : TaskTriggerConfig
  createdAt : Date
  updatedAt : Date
deriving Inhabited

/-- A set `triggerKey` is unique for its app; rows without one never clash on it. -/
def AppRuntimeTrigger.clash (left right : AppRuntimeTrigger) : Bool :=
  left.id == right.id ||
    (left.appId == right.appId && left.definition.triggerKey.isSome &&
      left.definition.triggerKey == right.definition.triggerKey)

abbrev AppRuntimeTriggersTable := Table AppRuntimeTrigger AppRuntimeTrigger.clash

end Lombok.Apps
