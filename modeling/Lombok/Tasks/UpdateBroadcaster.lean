import Lombok.Library.Action
import Lombok.Library.OrderedMap
import Lombok.Tasks.Entity
import Mathlib.Data.List.Induction

/-!
Contract: what is sent to sockets about a task.

Owns `TaskUpdateBroadcasterService`: the update of a frame, the rooms it goes to, and the
timer that holds the progress of a task back. An update whose date has no ISO text throws
before it touches a timer.

Establishes that the frames of a task keep the order of its updates, that only progress
is left out, and that the last update is the last frame once the timer has fired.
-/

namespace Lombok.Tasks

open Lombok.Core Lombok.Library

inductive TaskUpdateType where
  | taskStarted
  | taskProgress
  | taskCompleted
  | taskRequeued
  | taskFailed
deriving DecidableEq

namespace TaskUpdateType

def name : TaskUpdateType → String
  | .taskStarted => "task_started"
  | .taskProgress => "task_progress"
  | .taskCompleted => "task_completed"
  | .taskRequeued => "task_requeued"
  | .taskFailed => "task_failed"

/-- `TASK_UPDATE_AUDIENCES_MAP`. -/
def audience : TaskUpdateType → String
  | .taskStarted | .taskRequeued => "system"
  | .taskProgress | .taskCompleted | .taskFailed => "user"

/-- `taskUpdateDescriptionForType`. -/
def description (updateType : TaskUpdateType) (task : Task) : String :=
  match updateType with
  | .taskStarted => "Task started: " ++ task.taskIdentifier
  | .taskProgress => "Task progress: " ++ task.taskIdentifier
  | .taskCompleted => "Task completed: " ++ task.taskIdentifier
  | .taskFailed => "Task failed: " ++ task.taskIdentifier
  | .taskRequeued => "Task requeued: " ++ task.taskIdentifier

end TaskUpdateType

/-- The arguments of `handleTaskUpdate`. -/
structure TaskUpdate where
  task : Task
  updateType : TaskUpdateType
  ts : Date
  progressReport : Option ReceivedTaskProgressReport

namespace TaskUpdate

variable (update : TaskUpdate)

def isProgress : Bool := decide (update.updateType = .taskProgress)

/-- The object `update`. -/
def content : Except ApiError Fields := do
  let receivedAt ← update.ts.toISOString
  let level := if update.updateType = .taskFailed then "error" else "info"
  let message := (update.progressReport.bind (·.message)).getD (.obj
    [("level", .str level), ("text", .str (update.updateType.description update.task)),
      ("audience", .str update.updateType.audience)])
  let completed :=
    if update.updateType = .taskCompleted then some (.obj [("percent", .ofNat 100)]) else none
  .ok (Fields.ofOptions
    [("message", some message),
      ("data", some (.obj [("taskId", .str update.task.id),
        ("correlationKey", .ofOption (update.task.correlationKey.map .str))])),
      ("progress", (update.progressReport.bind (·.details)).or completed),
      ("receivedAt", some (.str receivedAt))])

end TaskUpdate

inductive Emission where
  | toServer (id : String) (data : Fields)
  | toFolder (folderId id : String) (data : Fields)
  | toUser (userId id : String) (data : Fields)
  /-- To the channel of the app that owns the task. -/
  | appUpdate (code : String) (data : Fields) (targetUserId : String)
      (targetLocationFolderId : Option String) (targetAppIdentifier : String)

/-- `emit`. -/
def emissions (update : TaskUpdate) (data : Fields) : List Emission :=
  let task := update.task
  .toServer task.id data ::
    (match task.targetLocationFolderId with
      | some folderId => if folderId = "" then [] else [.toFolder folderId task.id data]
      | none => []) ++
    match task.targetUserId with
    | some userId =>
        if userId = "" then []
        else .toUser userId task.id data ::
          if task.ownerId = coreIdentifier then []
          else [.appUpdate ("platform:tasks:" ++ update.updateType.name) data userId
            task.targetLocationFolderId task.ownerId]
    | none => []

structure Broadcaster where
  /-- The update each timer will emit. -/
  progressTimers : OrderedMap String TaskUpdate
  /-- The updates that were emitted. -/
  frames : List TaskUpdate

namespace Broadcaster

def start : Broadcaster where
  progressTimers := .empty
  frames := []

/-- What was sent so far. -/
def emitted (broadcaster : Broadcaster) : List Emission :=
  broadcaster.frames.flatMap fun update =>
    match update.content with
    | .ok data => emissions update data
    | .error _ => []

end Broadcaster

/-- `handleTaskUpdate`. -/
def broadcastTaskUpdate (broadcaster : Broadcaster) (update : TaskUpdate) : Broadcaster :=
  match update.content with
  | .error _ => broadcaster
  | .ok _ =>
      if update.isProgress then
        { broadcaster with
          progressTimers := broadcaster.progressTimers.set update.task.id update }
      else
        { progressTimers := broadcaster.progressTimers.delete update.task.id
          frames := broadcaster.frames ++ [update] }

/-- The timer of a task's progress fires. -/
def progressTimerFires (broadcaster : Broadcaster) (taskId : String) : Broadcaster :=
  match broadcaster.progressTimers.get? taskId with
  | some update =>
      { progressTimers := broadcaster.progressTimers.delete taskId
        frames := broadcaster.frames ++ [update] }
  | none => broadcaster

inductive BroadcastInput where
  | update (update : TaskUpdate)
  | timerFires (taskId : String)

def broadcastStep (broadcaster : Broadcaster) : BroadcastInput → Broadcaster
  | .update update => broadcastTaskUpdate broadcaster update
  | .timerFires taskId => progressTimerFires broadcaster taskId

/-! ### Coalescing -/

def isOf (taskId : String) (update : TaskUpdate) : Bool := update.task.id == taskId

/-- The updates of a task among the inputs, those that throw left out. -/
def updatesOf (taskId : String) : List BroadcastInput → List TaskUpdate
  | [] => []
  | .update update :: rest =>
      if update.content.isOk && isOf taskId update then update :: updatesOf taskId rest
      else updatesOf taskId rest
  | .timerFires _ :: rest => updatesOf taskId rest

def Broadcaster.framesOf (broadcaster : Broadcaster) (taskId : String) : List TaskUpdate :=
  broadcaster.frames.filter (isOf taskId)

def Broadcaster.pendingOf (broadcaster : Broadcaster) (taskId : String) : List TaskUpdate :=
  (broadcaster.progressTimers.get? taskId).toList

/-- The frames of a task and the one its timer holds, beside the updates it had. -/
structure Coalesced (taskId : String) (updates : List TaskUpdate) (broadcaster : Broadcaster) :
    Prop where
  /-- In order, each at most once, and none that was not received. -/
  kept : (broadcaster.framesOf taskId ++ broadcaster.pendingOf taskId).Sublist updates
  /-- The last update is not left out. -/
  last : (broadcaster.framesOf taskId ++ broadcaster.pendingOf taskId).getLast? = updates.getLast?
  /-- Whatever is not progress has been sent. -/
  lifecycle : (broadcaster.framesOf taskId).filter (!·.isProgress) = updates.filter (!·.isProgress)
  pending : ∀ update ∈ broadcaster.pendingOf taskId, isOf taskId update = true ∧
    update.isProgress = true

theorem updatesOf_append (taskId : String) (first second : List BroadcastInput) :
    updatesOf taskId (first ++ second) = updatesOf taskId first ++ updatesOf taskId second := by
  induction first with
  | nil => rfl
  | cons input rest inductionHypothesis =>
      cases input with
      | update update =>
          grind [updatesOf]
      | timerFires _ => exact inductionHypothesis

namespace Coalesced

variable {taskId : String} {updates : List TaskUpdate} {before after : Broadcaster}
  {update : TaskUpdate}

theorem start (taskId : String) : Coalesced taskId [] .start where
  kept := List.Sublist.refl []
  last := rfl
  lifecycle := rfl
  pending := fun _ absent => absurd absent List.not_mem_nil

/-- Nothing of this task happens. -/
theorem same (coalesced : Coalesced taskId updates before)
    (frames : after.framesOf taskId = before.framesOf taskId)
    (timers : after.pendingOf taskId = before.pendingOf taskId) :
    Coalesced taskId updates after := by
  obtain ⟨kept, last, lifecycle, pending⟩ := coalesced
  constructor
  · rw [frames, timers]
    exact kept
  · rw [frames, timers]
    exact last
  · rw [frames]
    exact lifecycle
  · rw [timers]
    exact pending

/-- An update of this task is held back in the place of an earlier one. -/
theorem held (coalesced : Coalesced taskId updates before) (own : isOf taskId update = true)
    (progress : update.isProgress = true)
    (frames : after.framesOf taskId = before.framesOf taskId)
    (timers : after.pendingOf taskId = [update]) :
    Coalesced taskId (updates ++ [update]) after where
  kept := by
    rw [frames, timers]
    exact ((List.sublist_append_left _ _).trans coalesced.kept).append (List.Sublist.refl _)
  last := by
    rw [timers, List.getLast?_concat, List.getLast?_concat]
  lifecycle := by
    rw [frames, coalesced.lifecycle, List.filter_append]
    simp [progress]
  pending := by
    simp [timers, own, progress]

/-- An update of this task is sent, and what was held back is dropped. -/
theorem sent (coalesced : Coalesced taskId updates before)
    (frames : after.framesOf taskId = before.framesOf taskId ++ [update])
    (timers : after.pendingOf taskId = []) : Coalesced taskId (updates ++ [update]) after where
  kept := by
    rw [frames, timers, List.append_nil]
    exact ((List.sublist_append_left _ _).trans coalesced.kept).append (List.Sublist.refl _)
  last := by
    rw [frames, timers, List.append_nil, List.getLast?_concat, List.getLast?_concat]
  lifecycle := by
    rw [frames, List.filter_append, List.filter_append, coalesced.lifecycle]
  pending := by
    simp [timers]

/-- What was held back is sent. -/
theorem fired (coalesced : Coalesced taskId updates before)
    (held : before.pendingOf taskId = [update])
    (frames : after.framesOf taskId = before.framesOf taskId ++ [update])
    (timers : after.pendingOf taskId = []) : Coalesced taskId updates after := by
  obtain ⟨kept, last, lifecycle, pending⟩ := coalesced
  rw [held] at kept last
  have progress : update.isProgress = true :=
    (pending update (by rw [held]; exact List.mem_singleton_self update)).2
  constructor
  · rw [frames, timers, List.append_nil]
    exact kept
  · rw [frames, timers, List.append_nil]
    exact last
  · rw [frames, List.filter_append, lifecycle]
    simp [progress]
  · simp [timers]

end Coalesced

theorem coalesced_update {updates : String → List TaskUpdate} {broadcaster : Broadcaster}
    (coalesced : ∀ taskId, Coalesced taskId (updates taskId) broadcaster) (update : TaskUpdate)
    (taskId : String) :
    Coalesced taskId (updates taskId ++ updatesOf taskId [.update update])
      (broadcastTaskUpdate broadcaster update) := by
  unfold broadcastTaskUpdate updatesOf
  cases update.content with
  | error error =>
      simp [updatesOf, coalesced]
  | ok data =>
      dsimp only
      by_cases own : isOf taskId update = true
      · have sameId : update.task.id = taskId := eq_of_beq own
        rw [if_pos (by simp [own]), updatesOf]
        by_cases progress : update.isProgress = true
        · rw [if_pos progress]
          refine (coalesced taskId).held own progress rfl ?_
          rw [← sameId]
          exact congrArg Option.toList (OrderedMap.get?_set_self _ _ _)
        · rw [if_neg progress]
          refine (coalesced taskId).sent ?_ ?_
          · simp [Broadcaster.framesOf, own]
          · simp [Broadcaster.pendingOf, OrderedMap.get?_delete, sameId]
      · have different : taskId ≠ update.task.id := fun same => own (beq_iff_eq.mpr same.symm)
        rw [if_neg (by simp [own]), updatesOf, List.append_nil]
        by_cases progress : update.isProgress = true
        · rw [if_pos progress]
          exact (coalesced taskId).same rfl
            (congrArg Option.toList (OrderedMap.get?_set_other _ _ different))
        · rw [if_neg progress]
          refine (coalesced taskId).same ?_
            (congrArg Option.toList (OrderedMap.get?_delete_other _ different))
          simp [Broadcaster.framesOf, own]

theorem coalesced_timerFires {updates : String → List TaskUpdate} {broadcaster : Broadcaster}
    (coalesced : ∀ taskId, Coalesced taskId (updates taskId) broadcaster) (fires taskId : String) :
    Coalesced taskId (updates taskId) (progressTimerFires broadcaster fires) := by
  unfold progressTimerFires
  cases held : broadcaster.progressTimers.get? fires with
  | none => exact coalesced taskId
  | some update =>
      have isHeld : broadcaster.pendingOf fires = [update] := congrArg Option.toList held
      have ofFires : isOf fires update = true :=
        ((coalesced fires).pending update
          (by rw [isHeld]; exact List.mem_singleton_self update)).1
      by_cases own : taskId = fires
      · subst own
        refine (coalesced taskId).fired isHeld ?_ ?_
        · simp [Broadcaster.framesOf, ofFires]
        · simp [Broadcaster.pendingOf, OrderedMap.get?_delete]
      · have other : isOf taskId update = false := by
          have sameId : update.task.id = fires := eq_of_beq ofFires
          simp [isOf, sameId, Ne.symm own]
        refine (coalesced taskId).same ?_
          (congrArg Option.toList (OrderedMap.get?_delete_other _ own))
        simp [Broadcaster.framesOf, other]

/-- **Coalescing**: whatever updates and timers come in whatever order, the frames of each task
are its updates in their order, with only progress left out, and none of it that is last. -/
theorem broadcast_coalesced (inputs : List BroadcastInput) :
    ∀ taskId, Coalesced taskId (updatesOf taskId inputs) (run broadcastStep .start inputs) := by
  induction inputs using List.reverseRecOn with
  | nil => exact Coalesced.start
  | append_singleton inputs input inductionHypothesis =>
      intro taskId
      rw [run_append, updatesOf_append]
      cases input with
      | update update => exact coalesced_update inductionHypothesis update taskId
      | timerFires fires =>
          rw [updatesOf, updatesOf, List.append_nil]
          exact coalesced_timerFires inductionHypothesis fires taskId

end Lombok.Tasks
