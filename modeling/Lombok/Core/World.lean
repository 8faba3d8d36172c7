import Lombok.Library.Action
import Lombok.Apps.Entity
import Lombok.Events.Entity
import Lombok.Folders.Location

/-!
Contract: the state every service works on, and the single statements services
are written in.

`Database` is the part of the schema the modelled services touch. `World` adds
the trace of effects a call has outside its own rows and the number of clock
readings and random identifiers drawn so far. `Env` supplies what the source
takes from elsewhere: the clock, `crypto.randomUUID`, the hash functions, the
local text of a date, the expression, template and cron evaluators, the storage
configuration and the storage service, the media type table, and how deep event
emission may nest before a call counts as unanswered.

Inserts enforce the unique constraints; each statement names the only table it
writes.
-/

namespace Lombok.Core

open Lombok.Library Lombok.Tasks Lombok.Apps Lombok.Events Lombok.Folders

structure Database where
  apps : AppsTable := .empty
  appUserSettings : AppUserSettingsTable := .empty
  appFolderSettings : AppFolderSettingsTable := .empty
  appCustomUserSettings : AppCustomSettingsTable := .empty
  appCustomFolderSettings : AppCustomSettingsTable := .empty
  appRuntimeTriggers : AppRuntimeTriggersTable := .empty
  tasks : TasksTable := .empty
  events : EventsTable := .empty
  folders : FoldersTable := .empty
  folderShares : FolderSharesTable := .empty
  folderObjects : FolderObjectsTable := .empty
  folderUserPreferences : FolderUserPreferencesTable := .empty
  storageLocations : StorageLocationsTable := .empty
  users : UsersTable := .empty
deriving Inhabited

/-! ### Effects -/

/-- What the docker service is asked to run. -/
structure DockerJobSubmission where
  profileSpec : Json
  profileKey : String
  jobIdentifier : String
  jobData : Json
  asyncTaskId : Option Json
  jobId : Json
  storageAccessPolicy : Option StorageAccessPolicy
  waitForCompletion : Bool
  containerId : Option String
  userId : Option String
deriving Inhabited

inductive StorageOperation where
  | presigned (method : SignedURLsRequestMethod)
  | head
  | delete
  | index
deriving DecidableEq, Inhabited

/-- An operation on a folder object and the storage key it goes to. -/
structure StorageAccess where
  operation : StorageOperation
  purpose : LocationPurpose
  folderId : String
  objectKey : String
  bucket : String
  storageKey : String
deriving DecidableEq, Inhabited

inductive ContainerOperation where
  | destroy
  | resolve
  | inspect
  | start
deriving DecidableEq, Inhabited

inductive TunnelOperation where
  | create
  | list
  | ensure
  | delete
deriving DecidableEq, Inhabited

/-- What a call does beyond answering: rows it creates or changes, requests it sends. -/
inductive EffectAction where
  | eventEmitted (eventIdentifier : String)
  | taskCreated (ownerId : String) (taskIdentifier : String)
  | taskProgressed (ownerId : String) (taskId : String)
  | taskRead (taskId : String)
  | logEntrySaved (message : String)
  | contentUrlSigned (folderId : String) (objectKey : String) (method : SignedURLsRequestMethod)
  | metadataUrlSigned (folderId : String) (objectKey : String) (method : SignedURLsRequestMethod)
  | metadataUpdated (folderId : String) (objectKey : String)
  | appStorageUrlSigned (objectKey : String) (userId : Option String)
  | dockerJobSubmitted (submission : DockerJobSubmission)
  | appUserTokenMinted (userId : String)
  | databaseCredentialsRead
  | customSettingsRead (userId : String)
  | customSettingsPatched (userId : String)
  | runtimeTriggerRegistered
  | runtimeTriggerUnregistered (triggerId : String)
  | runtimeTriggersListed
  | containerOperated (operation : ContainerOperation) (profileIdentifier : String)
  | tunnelOperated (operation : TunnelOperation) (userId : String)
  | appUserNotified (targetUserId : String)
  | storageAccessed (access : StorageAccess)
deriving Inhabited

/-- An effect, with the identifier it is performed under. -/
structure Effect where
  actor : String
  action : EffectAction
deriving Inhabited

/-! ### The state of a call -/

structure World where
  db : Database := {}
  effects : List Effect := []
  draws : Nat := 0
deriving Inhabited

/-- What a service call takes from outside the repository. -/
structure Env where
  clock : Nat → Date
  randomUUID : Nat → String
  hashData : String → String
  sha256 : String → String
  dateToString : Date → String
  evalCondition : String → Json → Bool
  dataFromTemplate : Database → String → Json → Json → Except ApiError Json
  cronPrev : String → String → Date → Except ApiError Date
  emissionDepth : Nat
  storage : StorageConfig := .sample
  s3 : StorageBackend := .sample
  mimeFromExtension : String → Option String := fun _ => none

/-- A concrete outside world: the clock ticks once per reading, identifiers count up, nothing is
hashed, and every condition holds. -/
def Env.sample : Env where
  clock draws := draws
  randomUUID draws := "uuid-" ++ toString draws
  hashData text := text
  sha256 text := text
  dateToString date := toString date
  evalCondition _ _ := true
  dataFromTemplate _ _ template _ := .ok template
  cronPrev _ _ date := .ok (date - 1)
  emissionDepth := 3

abbrev Service := Action World ApiError

namespace Service

/-- Count one reading of the clock or of the random source. -/
def draw (world : World) : World := { world with draws := world.draws + 1 }

/-- `new Date()`. -/
def now (env : Env) : Service Date := do
  let draws ← Action.gets World.draws
  Action.modify draw
  pure (env.clock draws)

/-- `crypto.randomUUID()`. -/
def randomUUID (env : Env) : Service String := do
  let draws ← Action.gets World.draws
  Action.modify draw
  pure (env.randomUUID draws)

/-- One request to the storage service. -/
def s3 {α : Type} (answer : Nat → Except ApiError α) : Service α := do
  let draws ← Action.gets World.draws
  Action.modify draw
  Action.ofExcept (answer draws)

def query {α : Type} (read : Database → α) : Service α := Action.gets fun world => read world.db

/-- Run a check that reads the database and may throw. -/
def check {α : Type} (read : Database → Except ApiError α) : Service α :=
  fun world => (read world.db, world)

def write (change : Database → Database) : Service Unit :=
  Action.modify fun world => { world with db := change world.db }

/-- Note an effect, under the identifier it is performed with. -/
def record (actor : String) (action : EffectAction) : Service Unit :=
  Action.modify fun world =>
    { world with effects := world.effects ++ [{ actor := actor, action := action }] }

/-- `insert(tasksTable).values(task)`, for one row. -/
def insertTask (task : Task) : Service Unit := do
  let tasks ← query Database.tasks
  let sameId := (tasks.find? (Task.hasId task.id)).isSome
  let inserted ← Action.orThrow (tasks.insert task)
    (.uniqueViolation (if sameId then "tasks_pkey" else "tasks_idempotency_key_unique"))
  write fun db => { db with tasks := inserted }

/-- `insert(tasksTable).values(tasks)`: all rows or none. -/
def insertTasks (tasks : List Task) : Service Unit :=
  Action.transaction (Action.each tasks insertTask)

/-- `update(tasksTable).set(change).where(condition)`. -/
def updateTasks (condition : Task → Bool) (change : Task → Task)
    (keeps : Keeps Task.clash change) : Service Unit :=
  write fun db => { db with tasks := db.tasks.update condition change keeps }

/-- `update(tasksTable).set(change).where(condition).returning()`: the first changed row. -/
def updateTasksReturning (condition : Task → Bool) (change : Task → Task)
    (keeps : Keeps Task.clash change) : Service (Option Task) := do
  let tasks ← query Database.tasks
  updateTasks condition change keeps
  pure ((tasks.find? condition).map change)

def insertEvent (event : Event) : Service Unit := do
  Action.require event.anchorOnlyOnRoot (.error "anchor_only_on_root")
  let events ← query Database.events
  let inserted ← Action.orThrow (events.insert event) (.uniqueViolation "events_pkey")
  write fun db => { db with events := inserted }

end Service

end Lombok.Core
