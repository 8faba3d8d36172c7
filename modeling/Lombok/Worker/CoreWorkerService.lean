import Lombok.Library.Pool
import Lombok.Library.Run

/-!
Contract: the core worker as a child process of the API, across both programs.

Owns `startCoreWorkerThread` with its init sequence, its exit handler and its
restart timer, and of the child's program what ends it: the signal handlers, the
`close` and `error` handlers of its IPC socket, and the `cleanup` they share. A
step of the run is an event of one of the two programs; answers, timeouts, exit
codes and the order of all events are free.

The exit of a child and the handler of its `exited` promise are one event. Does
not own: a socket server that cannot listen, a process that cannot be spawned,
and what init tells the child.
-/

namespace Lombok.Worker

open Lombok.Library

/-! ### The child's program -/

/-- How far a child process is. -/
inductive ProcessStage where
  | loading
  | running
  | terminated
  | closing
  | exited (code : Nat)
deriving DecidableEq

/-- What happens in a child process; `dies` is every exit that the handlers below do not ask for. -/
inductive ChildEvent where
  | loads
  | socketCloses
  | socketFails
  | signalEnds
  | dies (code : Nat)
deriving DecidableEq

namespace ProcessStage

def alive : ProcessStage → Bool
  | .exited _ => false
  | _ => true

/-- SIGTERM arrives: it ends a process that has no handlers yet, and the handler destroys the IPC
socket. -/
def kill : ProcessStage → ProcessStage
  | .loading => .terminated
  | .running => .closing
  | stage => stage

def exitCode : ProcessStage → ChildEvent → Option Nat
  | .exited _, _ => none
  | _, .dies code => some code
  | .running, .socketCloses => some 0
  | .closing, .socketCloses => some 0
  | .running, .socketFails => some 1
  | .terminated, .signalEnds => some 143
  | _, _ => none

/-- The stage after an event that the process does not exit at. -/
def next : ProcessStage → ChildEvent → ProcessStage
  | .loading, .loads => .running
  | stage, _ => stage

end ProcessStage

/-! ### The service -/

/-- How far the init sequence of a start is. -/
inductive InitStage where
  | connecting
  | requested
  | readingHashes
  | updating
  | done
  | failed
deriving DecidableEq

/-- A call of `startCoreWorkerThread` that has spawned its child. -/
structure CoreWorkerStart where
  process : ProcessStage := .loading
  init : InitStage := .connecting
  hasScheduledRetry : Bool := false
deriving DecidableEq

namespace CoreWorkerStart

def alive (start : CoreWorkerStart) : Bool := start.process.alive

def kill (start : CoreWorkerStart) : CoreWorkerStart := { start with process := start.process.kill }

end CoreWorkerStart

/-- `CoreWorkerService`, with the starts that wait for their socket server and the restart timers
that run; a child, a socket and a server are named by their start. -/
structure CoreWorkerService where
  disableCoreWorker : Bool
  moduleStarted : Bool := false
  shuttingDown : Bool := false
  listening : Nat := 0
  timers : Nat := 0
  starts : List CoreWorkerStart := []
  child : Option Nat := none
  serverlessWorkerThreadReady : Bool := false
  ipcSocket : Option Nat := none
  socketServer : Option Nat := none
deriving DecidableEq

/-- The service as the API constructs it. -/
def CoreWorkerService.boot (disableCoreWorker : Bool) : CoreWorkerService where
  disableCoreWorker := disableCoreWorker

inductive CoreWorkerInput where
  | onModuleInit
  | listens
  | childEvent (index : Nat) (event : ChildEvent)
  | retryTimer
  | connection (index : Nat)
  | socketClosed
  | connectionTimeout (index : Nat)
  | initAnswered (index : Nat) (success : Bool)
  | hashesRead (index : Nat) (success : Bool)
  | updateAnswered (index : Nat) (success : Bool)
  | shutdown
deriving DecidableEq

namespace CoreWorkerService

variable (service : CoreWorkerService)

def setStart (index : Nat) (start : CoreWorkerStart) : CoreWorkerService :=
  { service with starts := service.starts.set index start }

/-- `startCoreWorkerThread` up to the socket server that it awaits. -/
def startCoreWorkerThread : CoreWorkerService :=
  if service.disableCoreWorker then service
  else { service with listening := service.listening + 1, serverlessWorkerThreadReady := false }

def spawn : CoreWorkerService :=
  match service.listening with
  | 0 => service
  | others + 1 =>
      { service with
        listening := others
        starts := service.starts ++ [{}]
        child := some service.starts.length
        socketServer := some service.starts.length }

/-- `this.child?.kill()`, whichever start the child is of. -/
def killChild : CoreWorkerService :=
  match service.child with
  | none => service
  | some index =>
      match service.starts[index]? with
      | none => service
      | some start => service.setStart index start.kill

/-- The handler of the `exited` promise of a start. -/
def exited (index : Nat) (start : CoreWorkerStart) (exitCode : Nat) : CoreWorkerService :=
  { service with
    serverlessWorkerThreadReady := false
    ipcSocket := none
    socketServer := none
    starts := service.starts.set index
      { start with
        process := .exited exitCode
        hasScheduledRetry := start.hasScheduledRetry || exitCode != 0 }
    timers :=
      if exitCode ≠ 0 ∧ start.hasScheduledRetry = false then service.timers + 1
      else service.timers }

def childEvent (index : Nat) (event : ChildEvent) : CoreWorkerService :=
  match service.starts[index]? with
  | none => service
  | some start =>
      match start.process.exitCode event with
      | some exitCode => service.exited index start exitCode
      | none => service.setStart index { start with process := start.process.next event }

def retryTimer : CoreWorkerService :=
  match service.timers with
  | 0 => service
  | others + 1 => startCoreWorkerThread { service with timers := others }

/-- Init failed: the child is killed "so the `exited` handler restarts it". -/
def failInit (index : Nat) (start : CoreWorkerStart) : CoreWorkerService :=
  (service.setStart index { start with init := .failed }).killChild

def finishInit (index : Nat) (start : CoreWorkerStart) : CoreWorkerService :=
  { service.setStart index { start with init := .done } with serverlessWorkerThreadReady := true }

/-- A child that runs connects to the server of its start, and a start that waits for it sends
`init`. -/
def connection (index : Nat) : CoreWorkerService :=
  match service.starts[index]? with
  | none => service
  | some start =>
      if start.process = .running ∧ service.socketServer = some index then
        { service.setStart index
            { start with
              init := if start.init = .connecting then .requested else start.init } with
          ipcSocket := some index }
      else service

/-- The init sequence of a start moves on, where it is at the given stage. -/
def initStep (index : Nat) (stage : InitStage)
    (move : CoreWorkerService → Nat → CoreWorkerStart → CoreWorkerService) : CoreWorkerService :=
  match service.starts[index]? with
  | none => service
  | some start => if start.init = stage then move service index start else service

def sendHashes (index : Nat) (start : CoreWorkerStart) : CoreWorkerService :=
  match service.ipcSocket with
  | none => service.finishInit index start
  | some _ => service.setStart index { start with init := .updating }

/-- The hooks of `setupParentShutdownHooks`, one for each child that was spawned. -/
def shutdown : CoreWorkerService :=
  { service with
    shuttingDown := true
    starts := service.starts.map CoreWorkerStart.kill
    socketServer := none }

end CoreWorkerService

def coreWorkerStep (service : CoreWorkerService) : CoreWorkerInput → CoreWorkerService
  | .onModuleInit =>
      if service.moduleStarted then service
      else { service with moduleStarted := true }.startCoreWorkerThread
  | .listens => service.spawn
  | .childEvent index event => service.childEvent index event
  | .retryTimer => service.retryTimer
  | .connection index => service.connection index
  | .socketClosed => { service with ipcSocket := none }
  | .connectionTimeout index => service.initStep index .connecting CoreWorkerService.failInit
  | .initAnswered index true =>
      service.initStep index .requested fun service index start =>
        service.setStart index { start with init := .readingHashes }
  | .initAnswered index false => service.initStep index .requested CoreWorkerService.failInit
  | .hashesRead index true => service.initStep index .readingHashes CoreWorkerService.sendHashes
  | .hashesRead index false => service.initStep index .readingHashes CoreWorkerService.failInit
  | .updateAnswered index true => service.initStep index .updating CoreWorkerService.finishInit
  | .updateAnswered index false => service.initStep index .updating CoreWorkerService.failInit
  | .shutdown => service.shutdown

/-! ### What is to hold -/

namespace CoreWorkerService

/-- The core worker was started and is not disabled, and the API is not shutting down. -/
def Wanted (service : CoreWorkerService) : Prop :=
  service.moduleStarted = true ∧ service.disableCoreWorker = false ∧ service.shuttingDown = false

/-- A child is alive or starting, or a restart is scheduled; and no two children are alive. -/
structure Safe (service : CoreWorkerService) : Prop where
  present : service.Wanted → (∃ start ∈ service.starts, start.alive = true) ∨
    0 < service.listening ∨ 0 < service.timers
  single : ∀ (first second : Nat) (firstStart secondStart : CoreWorkerStart),
    service.starts[first]? = some firstStart → service.starts[second]? = some secondStart →
      firstStart.alive = true → secondStart.alive = true → first = second

end CoreWorkerService

/-- Every state that the run reaches is safe. -/
def ComesBack (disableCoreWorker : Bool) (inputs : List CoreWorkerInput) : Prop :=
  AlongRun coreWorkerStep (fun service input => (coreWorkerStep service input).Safe)
    (.boot disableCoreWorker) inputs

/-- A child whose IPC socket is there handles its `close`, or a child that is alive exits with
code 0 of itself. -/
def EndsCleanly (stage : ProcessStage) : ChildEvent → Prop
  | .socketCloses => stage = .running ∨ stage = .closing
  | .dies code => stage.alive = true ∧ code = 0
  | _ => False

def NotCleanly (service : CoreWorkerService) : CoreWorkerInput → Prop
  | .childEvent index event => service.shuttingDown = false →
      ∀ start ∈ service.starts[index]?, ¬ EndsCleanly start.process event
  | _ => True

/-! ### One step -/

theorem endsCleanly_iff (stage : ProcessStage) (event : ChildEvent) :
    EndsCleanly stage event ↔ stage.exitCode event = some 0 := by
  cases stage <;> cases event <;> simp [EndsCleanly, ProcessStage.exitCode, ProcessStage.alive]

theorem ProcessStage.alive_of_exitCode {stage : ProcessStage} {event : ChildEvent} {code : Nat}
    (ends : stage.exitCode event = some code) : stage.alive = true := by
  cases stage with
  | exited earlier => cases ends
  | loading => rfl
  | running => rfl
  | terminated => rfl
  | closing => rfl

@[simp] theorem ProcessStage.alive_kill (stage : ProcessStage) :
    stage.kill.alive = stage.alive := by
  cases stage <;> rfl

@[simp] theorem ProcessStage.alive_next (stage : ProcessStage) (event : ChildEvent) :
    (stage.next event).alive = stage.alive := by
  cases stage <;> cases event <;> rfl

@[simp] theorem CoreWorkerStart.alive_kill (start : CoreWorkerStart) :
    start.kill.alive = start.alive := start.process.alive_kill

namespace CoreWorkerService

/-- How much stands for the core worker: starts under way, restarts, and children. -/
def held (service : CoreWorkerService) : Nat :=
  service.listening + service.timers + service.starts.countP CoreWorkerStart.alive

/-- No child that is alive has a restart of its own. -/
def Unscheduled (service : CoreWorkerService) : Prop :=
  ∀ start ∈ service.starts, start.alive = true → start.hasScheduledRetry = false

/-- At most one thing stands for the core worker, and none before it is started. -/
structure Counted (service : CoreWorkerService) : Prop where
  atMostOne : service.held ≤ 1
  unstarted : service.moduleStarted = false → service.held = 0
  disabled : service.disableCoreWorker = true → service.held = 0
  unscheduled : service.Unscheduled

/-- The core worker is as much there after a step as before it. -/
structure Keeps (before after : CoreWorkerService) : Prop where
  moduleStarted : after.moduleStarted = before.moduleStarted
  disableCoreWorker : after.disableCoreWorker = before.disableCoreWorker
  goingDown : after.shuttingDown = false → before.shuttingDown = false
  held : after.held = before.held
  unscheduled : before.Unscheduled → after.Unscheduled

namespace Keeps

variable {before middle after : CoreWorkerService}

theorem refl (service : CoreWorkerService) : Keeps service service :=
  ⟨rfl, rfl, id, rfl, id⟩

theorem trans (first : Keeps before middle) (second : Keeps middle after) : Keeps before after where
  moduleStarted := second.moduleStarted.trans first.moduleStarted
  disableCoreWorker := second.disableCoreWorker.trans first.disableCoreWorker
  goingDown goesOn := first.goingDown (second.goingDown goesOn)
  held := second.held.trans first.held
  unscheduled clear := second.unscheduled (first.unscheduled clear)

theorem wanted (keeps : Keeps before after) (isWanted : after.Wanted) : before.Wanted :=
  ⟨keeps.moduleStarted ▸ isWanted.1, keeps.disableCoreWorker ▸ isWanted.2.1,
    keeps.goingDown isWanted.2.2⟩

theorem counted (keeps : Keeps before after) (isCounted : before.Counted) : after.Counted where
  atMostOne := by
    rw [keeps.held]
    exact isCounted.atMostOne
  unstarted notStarted := by
    rw [keeps.held]
    exact isCounted.unstarted (keeps.moduleStarted ▸ notStarted)
  disabled isDisabled := by
    rw [keeps.held]
    exact isCounted.disabled (keeps.disableCoreWorker ▸ isDisabled)
  unscheduled := keeps.unscheduled isCounted.unscheduled

end Keeps

variable {service : CoreWorkerService} {index : Nat} {start : CoreWorkerStart}

/-- A start is replaced by one whose child is as alive, and that has scheduled no more. -/
theorem keeps_setStart (found : service.starts[index]? = some start) {other : CoreWorkerStart}
    (sameAlive : other.alive = start.alive)
    (sameRetry : other.hasScheduledRetry = start.hasScheduledRetry) :
    Keeps service (service.setStart index other) := by
  constructor
  · rfl
  · rfl
  · exact id
  · grind [held, setStart]
  · intro clear each member isAlive
    rcases List.mem_or_eq_of_mem_set member with old | rfl
    · exact clear each old isAlive
    · rw [sameRetry]
      exact clear start (List.mem_of_getElem? found) (sameAlive ▸ isAlive)

theorem keeps_killChild (service : CoreWorkerService) : Keeps service service.killChild := by
  unfold killChild
  split
  · exact .refl service
  · split
    · exact .refl service
    · rename_i found
      exact keeps_setStart found (CoreWorkerStart.alive_kill _) rfl

theorem keeps_failInit (found : service.starts[index]? = some start) :
    Keeps service (service.failInit index start) := by
  have failed := keeps_setStart found
    (show CoreWorkerStart.alive { start with init := .failed } = start.alive from rfl) rfl
  exact failed.trans (keeps_killChild _)

/-- What is not counted may change. -/
theorem Keeps.uncounted {after : CoreWorkerService} (keeps : Keeps service after)
    (ready : Bool) (ipcSocket : Option Nat) :
    Keeps service
      { after with serverlessWorkerThreadReady := ready, ipcSocket := ipcSocket } :=
  ⟨keeps.moduleStarted, keeps.disableCoreWorker, keeps.goingDown, keeps.held, keeps.unscheduled⟩

theorem keeps_finishInit (found : service.starts[index]? = some start) :
    Keeps service (service.finishInit index start) := by
  have finished := keeps_setStart found
    (show CoreWorkerStart.alive { start with init := .done } = start.alive from rfl) rfl
  exact finished.uncounted true service.ipcSocket

theorem keeps_sendHashes (found : service.starts[index]? = some start) :
    Keeps service (service.sendHashes index start) := by
  unfold sendHashes
  split
  · exact keeps_finishInit found
  · exact keeps_setStart found rfl rfl

theorem keeps_initStep {move : CoreWorkerService → Nat → CoreWorkerStart → CoreWorkerService}
    (moves : ∀ start, service.starts[index]? = some start → Keeps service
        (move service index start))
    (stage : InitStage) : Keeps service (service.initStep index stage move) := by
  unfold initStep
  split
  · exact .refl service
  · rename_i start found
    split
    · exact moves start found
    · exact .refl service

theorem keeps_connection (service : CoreWorkerService) (index : Nat) :
    Keeps service (service.connection index) := by
  unfold connection
  split
  · exact .refl service
  · rename_i start found
    split
    · have connected := keeps_setStart found
        (show CoreWorkerStart.alive
          { start with
            init := if start.init = .connecting then .requested else start.init } = start.alive
          from rfl) rfl
      exact connected.uncounted service.serverlessWorkerThreadReady (some index)
    · exact .refl service

/-- The start that listened is now a child. -/
theorem keeps_spawn (service : CoreWorkerService) : Keeps service service.spawn := by
  unfold spawn
  split
  · exact .refl service
  · rename_i others isListening
    constructor
    · rfl
    · rfl
    · exact id
    · unfold held
      rw [List.countP_append, isListening]
      have one : [({} : CoreWorkerStart)].countP CoreWorkerStart.alive = 1 := rfl
      dsimp only
      omega
    · intro clear start member isAlive
      rcases List.mem_append.mp member with old | new
      · exact clear start old isAlive
      · rw [List.mem_singleton.mp new]

theorem keeps_shutdown (service : CoreWorkerService) : Keeps service service.shutdown := by
  constructor
  · rfl
  · rfl
  · nofun
  · unfold held shutdown
    rw [List.countP_map]
    congr 2
    funext start
    exact start.alive_kill
  · intro clear start member isAlive
    obtain ⟨earlier, wasThere, rfl⟩ := List.mem_map.mp member
    exact clear earlier wasThere (earlier.alive_kill ▸ isAlive)

/-- A restart that is due is a start again; where the core worker is disabled there is none. -/
theorem keeps_retryTimer (counted : service.Counted) : Keeps service service.retryTimer := by
  unfold retryTimer
  split
  · exact .refl service
  · have isEnabled : service.disableCoreWorker = false := by
      cases disabled : service.disableCoreWorker with
      | false => rfl
      | true =>
          have none := counted.disabled disabled
          unfold held at none
          omega
    unfold startCoreWorkerThread
    rw [isEnabled]
    constructor
    · rfl
    · exact isEnabled.symm
    · exact id
    · unfold held
      simp
      omega
    · exact id

theorem keeps_childEvent {event : ChildEvent} (found : service.starts[index]? = some start)
    (stays : start.process.exitCode event = none) :
    Keeps service (service.childEvent index event) := by
  rw [childEvent, found]
  dsimp only
  rw [stays]
  exact keeps_setStart found (start.process.alive_next event) rfl

/-- A child that exits leaves a restart behind just when its code is not 0. -/
theorem held_exited {code : Nat} (found : service.starts[index]? = some start)
    (isAlive : start.alive = true) (clear : start.hasScheduledRetry = false) :
    (service.exited index start code).held + 1 = service.held + if code ≠ 0 then 1 else 0 := by
  have counted := countP_set_of_found found
    { start with
      process := .exited code
      hasScheduledRetry := start.hasScheduledRetry || code != 0 } CoreWorkerStart.alive
  rw [isAlive] at counted
  unfold held exited
  dsimp only
  have gone : ({ start with
      process := .exited code
      hasScheduledRetry := start.hasScheduledRetry || code != 0 } : CoreWorkerStart).alive =
        false := rfl
  grind

/-- Where at most one thing stands for the core worker, it is safe just when one does. -/
theorem Counted.safe_iff (counted : service.Counted) :
    service.Safe ↔ (service.Wanted → service.held = 1) := by
  have atMostOne := counted.atMostOne
  unfold held at atMostOne ⊢
  constructor
  · intro safe isWanted
    rcases safe.present isWanted with someChild | listens | isDue
    · have some := List.countP_pos_iff.mpr someChild
      omega
    · omega
    · omega
  · intro one
    constructor
    · intro isWanted
      have here := one isWanted
      by_cases someChild : 0 < service.starts.countP CoreWorkerStart.alive
      · exact .inl (List.countP_pos_iff.mp someChild)
      · omega
    · intro first second firstStart secondStart isFirst isSecond firstAlive secondAlive
      by_contra different
      have without := countP_set_of_found isFirst { firstStart with process := .exited 0 }
        CoreWorkerStart.alive
      rw [firstAlive] at without
      have gone : ({ firstStart with process := .exited 0 } : CoreWorkerStart).alive = false := rfl
      rw [gone, Bool.toNat_true, Bool.toNat_false] at without
      have stillThere :
          0 < (service.starts.set first { firstStart with process := .exited 0 }).countP
            CoreWorkerStart.alive := by
        apply List.countP_pos_iff.mpr
        refine ⟨secondStart, ?_, secondAlive⟩
        apply List.mem_of_getElem?
        rw [List.getElem?_set_ne different]
        exact isSecond
      omega

theorem Keeps.safe {after : CoreWorkerService} (keeps : Keeps service after)
    (counted : service.Counted) (safe : service.Safe) : after.Safe := by
  apply (keeps.counted counted).safe_iff.mpr
  intro isWanted
  rw [keeps.held]
  exact counted.safe_iff.mp safe (keeps.wanted isWanted)

/-- The module is initialised: the first start stands for the core worker, where it is enabled. -/
theorem counted_onModuleInit (counted : service.Counted) :
    (coreWorkerStep service .onModuleInit).Counted := by
  unfold coreWorkerStep
  dsimp only
  split
  · exact counted
  · rename_i notStarted
    have none := counted.unstarted (Bool.not_eq_true _ ▸ notStarted)
    unfold held at none
    unfold startCoreWorkerThread
    split
    · constructor
      · unfold held
        dsimp only
        omega
      · nofun
      · intro _
        exact none
      · exact counted.unscheduled
    · rename_i isEnabled
      constructor
      · unfold held
        dsimp only
        omega
      · nofun
      · intro isDisabled
        exact absurd isDisabled isEnabled
      · exact counted.unscheduled

theorem safe_onModuleInit (counted : service.Counted) (safe : service.Safe) :
    (coreWorkerStep service .onModuleInit).Safe := by
  apply (counted_onModuleInit counted).safe_iff.mpr
  unfold coreWorkerStep
  dsimp only
  split
  · exact counted.safe_iff.mp safe
  · rename_i notStarted
    have none := counted.unstarted (Bool.not_eq_true _ ▸ notStarted)
    unfold held at none
    unfold startCoreWorkerThread
    intro isWanted
    split
    · rename_i isDisabled
      exact absurd isWanted.2.1 (by rw [isDisabled]; exact Bool.noConfusion)
    · unfold held
      dsimp only
      omega

theorem counted_exited {code : Nat} (counted : service.Counted)
    (found : service.starts[index]? = some start) (isAlive : start.alive = true) :
    (service.exited index start code).Counted := by
  have atMostOne := counted.atMostOne
  have clear := counted.unscheduled start (List.mem_of_getElem? found) isAlive
  have after := @held_exited service index start code found isAlive clear
  have here : 0 < service.held := by
    grind [held]
  constructor
  · split at after <;> omega
  · intro notStarted
    have none := counted.unstarted notStarted
    omega
  · intro isDisabled
    have none := counted.disabled isDisabled
    omega
  · intro other member otherAlive
    rcases List.mem_or_eq_of_mem_set member with old | rfl
    · exact counted.unscheduled other old otherAlive
    · cases otherAlive

/-- A child that exits is replaced just when its code is not 0, or the API is shutting down. -/
theorem safe_exited_iff {code : Nat} (counted : service.Counted)
    (found : service.starts[index]? = some start) (isAlive : start.alive = true) :
    (service.exited index start code).Safe ↔ (service.shuttingDown = false → code ≠ 0) := by
  have clear := counted.unscheduled start (List.mem_of_getElem? found) isAlive
  have after := @held_exited service index start code found isAlive clear
  have here : 0 < service.held := by
    grind [held]
  have atMostOne := counted.atMostOne
  rw [(counted_exited counted found isAlive).safe_iff]
  constructor
  · intro one goesOn isZero
    have isStarted : service.moduleStarted = true := by
      grind [counted.unstarted]
    have isEnabled : service.disableCoreWorker = false := by
      grind [counted.disabled]
    have left := one ⟨isStarted, isEnabled, goesOn⟩
    rw [if_neg (not_not.mpr isZero)] at after
    omega
  · intro notZero isWanted
    rw [if_pos (notZero isWanted.2.2)] at after
    omega

theorem step_cases (counted : service.Counted) (input : CoreWorkerInput) :
    input = .onModuleInit ∨
    (∃ index event start code, input = .childEvent index event ∧
      service.starts[index]? = some start ∧ start.process.exitCode event = some code ∧
      coreWorkerStep service input = service.exited index start code) ∨
    (Keeps service (coreWorkerStep service input) ∧ NotCleanly service input) := by
  have afterFailure : ∀ index stage,
      Keeps service (service.initStep index stage failInit) :=
    fun index stage => keeps_initStep (fun start found => keeps_failInit found) stage
  cases input with
  | onModuleInit => exact .inl rfl
  | listens => exact .inr (.inr ⟨keeps_spawn service, trivial⟩)
  | childEvent index event =>
      cases found : service.starts[index]? with
      | none =>
          right; right
          constructor
          · unfold coreWorkerStep childEvent
            dsimp only
            rw [found]
            exact .refl service
          · intro _ start isStart
            rw [found] at isStart
            cases isStart
      | some start =>
          cases ends : start.process.exitCode event with
          | some code =>
              simp [coreWorkerStep, childEvent, found, ends]
          | none =>
              right; right
              constructor
              · exact keeps_childEvent found ends
              · intro _ other isOther
                grind [endsCleanly_iff]
  | retryTimer => exact .inr (.inr ⟨keeps_retryTimer counted, trivial⟩)
  | connection index => exact .inr (.inr ⟨keeps_connection service index, trivial⟩)
  | socketClosed => exact .inr (.inr ⟨(Keeps.refl service).uncounted _ none, trivial⟩)
  | connectionTimeout index => exact .inr (.inr ⟨afterFailure index _, trivial⟩)
  | initAnswered index success =>
      cases success with
      | false => exact .inr (.inr ⟨afterFailure index _, trivial⟩)
      | true =>
          right; right
          constructor
          · apply keeps_initStep
            intro start found
            exact keeps_setStart found rfl rfl
          · trivial
  | hashesRead index success =>
      cases success with
      | false => exact .inr (.inr ⟨afterFailure index _, trivial⟩)
      | true =>
          exact .inr (.inr ⟨keeps_initStep (fun start found => keeps_sendHashes found) _, trivial⟩)
  | updateAnswered index success =>
      cases success with
      | false => exact .inr (.inr ⟨afterFailure index _, trivial⟩)
      | true =>
          exact .inr (.inr ⟨keeps_initStep (fun start found => keeps_finishInit found) _, trivial⟩)
  | shutdown => exact .inr (.inr ⟨keeps_shutdown service, trivial⟩)

theorem counted_step (counted : service.Counted) (input : CoreWorkerInput) :
    (coreWorkerStep service input).Counted := by
  rcases step_cases counted input with rfl | ⟨index, event, start, code, _, found,
      ends, step⟩ | kept
  · exact counted_onModuleInit counted
  · rw [step]
    exact counted_exited counted found (ProcessStage.alive_of_exitCode ends)
  · exact kept.1.counted counted

theorem safe_step_iff (counted : service.Counted) (safe : service.Safe)
    (input : CoreWorkerInput) :
    (coreWorkerStep service input).Safe ↔ NotCleanly service input := by
  rcases step_cases counted input with
    rfl | ⟨index, event, start, code, rfl, found, ends, step⟩ | ⟨keeps, notCleanly⟩
  · exact iff_of_true (safe_onModuleInit counted safe) trivial
  · rw [step, safe_exited_iff counted found (ProcessStage.alive_of_exitCode ends)]
    simp [NotCleanly, endsCleanly_iff, found, ends]
  · exact iff_of_true (keeps.safe counted safe) notCleanly

theorem counted_boot (disableCoreWorker : Bool) : (boot disableCoreWorker).Counted := by
  constructor
  · exact Nat.zero_le 1
  · intro _
    rfl
  · intro _
    rfl
  · nofun

theorem safe_boot (disableCoreWorker : Bool) : (boot disableCoreWorker).Safe := by
  apply (counted_boot disableCoreWorker).safe_iff.mpr
  intro isWanted
  cases isWanted.1

theorem counted_run (disableCoreWorker : Bool) (inputs : List CoreWorkerInput) :
    (run coreWorkerStep (boot disableCoreWorker) inputs).Counted :=
  @run_invariant _ _ coreWorkerStep Counted (fun _ input counted => counted_step counted input) _
    (counted_boot disableCoreWorker) inputs

instance (service : CoreWorkerService) : Decidable service.Wanted :=
  inferInstanceAs (Decidable (_ ∧ _ ∧ _))

end CoreWorkerService

open CoreWorkerService in
/-- The core worker comes back in exactly the runs in which no child ends cleanly. -/
theorem comesBack_iff (disableCoreWorker : Bool) (inputs : List CoreWorkerInput) :
    ComesBack disableCoreWorker inputs ↔
      AlongRun coreWorkerStep NotCleanly (boot disableCoreWorker) inputs := by
  have counted : AlongRun coreWorkerStep (fun service _ => service.Counted)
      (boot disableCoreWorker) inputs := by
    apply alongRun_iff_split.mpr
    intro before input after _
    exact counted_run disableCoreWorker before
  apply alongRun_kept_iff _ (safe_boot disableCoreWorker) counted
  intro service input safe isCounted
  exact safe_step_iff isCounted safe input

/-! ### An init that fails -/

/-- Init is answered with a failure, and the child that is killed closes its socket and exits. -/
def failedInit : List CoreWorkerInput :=
  [.onModuleInit, .listens, .childEvent 0 .loads, .connection 0, .initAnswered 0 false,
    .childEvent 0 .socketCloses]

theorem failedInit_notBack : ¬ ComesBack false failedInit := by
  intro comesBack
  have gone := (alongRun_iff_split.mp comesBack (failedInit.take 5)
    (.childEvent 0 .socketCloses) [] rfl).present
  revert gone
  decide +kernel

end Lombok.Worker
