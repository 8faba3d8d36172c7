import Lombok.Core.Values
import Lombok.Library.Table

/-!
Contract: the `events` table and the core events the platform itself emits.
-/

namespace Lombok.Events

open Lombok.Core Lombok.Library

inductive CoreEvent where
  | objectAdded
  | objectRemoved
  | objectUpdated
  | folderScanned
  | serverlessTaskEnqueued
  | dockerTaskEnqueued
  | newUserRegistered
  | taskCompleted
  | taskFailed
deriving DecidableEq, Inhabited

def CoreEvent.identifier : CoreEvent → String
  | objectAdded => "object_added"
  | objectRemoved => "object_removed"
  | objectUpdated => "object_updated"
  | folderScanned => "folder_scanned"
  | serverlessTaskEnqueued => "serverless_task_enqueued"
  | dockerTaskEnqueued => "docker_task_enqueued"
  | newUserRegistered => "new_user_registered"
  | taskCompleted => "task_completed"
  | taskFailed => "task_failed"

/-- A row of `eventsTable`. -/
structure Event where
  id : String
  eventIdentifier : String
  emitterId : String
  targetUserId : Option String := none
  targetLocationFolderId : Option String := none
  targetLocationObjectKey : Option String := none
  data : Json
  aggregationKey : Option String := none
  aggregationHandledAt : Option Date := none
  createdAt : Date
deriving Inhabited

def Event.clash (left right : Event) : Bool := left.id == right.id

abbrev EventsTable := Table Event Event.clash

/-- The check constraint `anchor_only_on_root`. -/
def Event.anchorOnlyOnRoot (event : Event) : Bool :=
  (event.targetUserId.isNone ||
    event.targetLocationFolderId.isNone && event.targetLocationObjectKey.isNone) &&
  (event.targetLocationObjectKey.isNone || event.targetLocationFolderId.isSome)

/-- `eventIdentifierSchema`: nonempty, lower-case letters and underscores. -/
def eventIdentifierSchema (identifier : String) : Bool :=
  !identifier.toList.isEmpty &&
    identifier.toList.all fun character =>
      character == '_' || ('a' ≤ character && character ≤ 'z')

/-- The rooms an aggregated notification is built for. -/
inductive EventNotificationAggregationScope where
  | server
  | folder
  | folderObject
deriving DecidableEq, Inhabited

/-- `getCoreEventAggregationConfig`: the scope of an event whose notifications are enabled. -/
def getCoreEventAggregationConfig (eventIdentifier : String) :
    Option EventNotificationAggregationScope :=
  if eventIdentifier = CoreEvent.identifier .objectAdded ∨
      eventIdentifier = CoreEvent.identifier .objectRemoved ∨
      eventIdentifier = CoreEvent.identifier .objectUpdated ∨
      eventIdentifier = CoreEvent.identifier .folderScanned then
    some .folder
  else
    none

end Lombok.Events
