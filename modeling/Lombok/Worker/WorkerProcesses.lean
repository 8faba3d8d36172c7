import Lombok.Library.OrderedMap
import Lombok.Library.Run

/-!
Contract: the processes that a core worker runs for the workers of apps.

Owns `workerProcesses`, `workerCreationPromises`, `getOrCreateWorkerProcess`,
`createWorkerProcess` from its directory to its exit handler,
`cleanupWorkerProcess`, the idle timer, and how `runWorker` counts a request on
the entry of its worker id. A process is named by the order of creation; the
clock is free to move, and each awaited step may come at any time.

Does not own: the bundle, the sandbox, and what travels on the socket.
-/

namespace Lombok.Worker

open Lombok.Library

def maxWorkerIdleTime : Nat := 5 * 60 * 1000

/-- How far `createWorkerProcess` is. -/
inductive CreationStage where
  | preparing
  | connecting
  | done
  | failed
deriving DecidableEq

/-- A process, or the creation of one; `asked` says that `cleanupWorkerProcess` has taken it. -/
structure WorkerProcess where
  workerId : String
  executionId : String
  stage : CreationStage := .preparing
  running : Bool := false
  killed : Bool := false
  asked : Bool := false
  exitHandled : Bool := false
  activeRequests : Nat := 0
  lastUsed : Nat := 0
deriving DecidableEq

namespace WorkerProcess

def isCreating (process : WorkerProcess) : Bool :=
  process.stage == .preparing || process.stage == .connecting

/-- A creation under way, or a process that has not exited. -/
def isLive (process : WorkerProcess) : Bool := process.isCreating || process.running

/-- It was told to stop, or killed. -/
def isStopping (process : WorkerProcess) : Bool := process.asked || process.killed

def connected (now : Nat) (process : WorkerProcess) : WorkerProcess :=
  { process with stage := .done, lastUsed := now }

def spawned (process : WorkerProcess) : WorkerProcess :=
  { process with stage := .connecting, running := true }

def failed (process : WorkerProcess) : WorkerProcess := { process with stage := .failed }

end WorkerProcess

/-- A call of `runWorker`: `active` has the process it writes to and the entry that it counted
itself on. -/
inductive CallStage where
  | cleaning
  | waiting (process : Nat)
  | active (process : Nat) (entry : Option Nat)
  | completed
deriving DecidableEq

structure WorkerCall where
  workerIdentifier : String
  workerId : String
  stage : CallStage
deriving DecidableEq

def WorkerCall.entry (call : WorkerCall) : Option Nat :=
  match call.stage with
  | .active _ entry => entry
  | _ => none

def WorkerCall.isActive (call : WorkerCall) : Bool :=
  match call.stage with
  | .active _ _ => true
  | _ => false

structure Workers where
  clock : Nat := 0
  processes : List WorkerProcess := []
  workerProcesses : OrderedMap String Nat := .empty
  workerCreationPromises : OrderedMap String Nat := .empty
  calls : List WorkerCall := []

inductive WorkersInput where
  | setClock (now : Nat)
  | call (appIdentifier workerHash workerIdentifier : String)
  | cleaned (call : Nat)
  | prepareFails (process : Nat)
  | spawn (process : Nat)
  | connects (process : Nat)
  | connectionTimesOut (process : Nat)
  | exitsEarly (process : Nat)
  | resume (call : Nat)
  | complete (call : Nat)
  | exits (process : Nat)
  | exitHandled (process : Nat)
  | killTimer (process : Nat)
  | idleTimer
  | shutdownAll

def workerIdOf (appIdentifier workerHash workerIdentifier : String) : String :=
  appIdentifier ++ "--" ++ workerHash ++ "--" ++ workerIdentifier

/-- The name of the directory of a process; its socket is in it. -/
def executionIdOf (workerIdentifier : String) (now : Nat) : String :=
  workerIdentifier.toLower ++ "__daemon__" ++ toString now

namespace Workers

variable (workers : Workers)

def modifyProcess (index : Nat) (change : WorkerProcess → WorkerProcess) : Workers :=
  { workers with processes := workers.processes.modify index change }

/-- `cleanupWorkerProcess` up to its first await: the entry is removed, the router is stopped. -/
def cleanupWorkerProcess (workerId : String) : Workers :=
  match workers.workerProcesses.get? workerId with
  | none => workers
  | some index =>
      { workers.modifyProcess index (fun process => { process with asked := true }) with
        workerProcesses := workers.workerProcesses.delete workerId }

def cleanupAll (workerIds : List String) : Workers :=
  workerIds.foldl cleanupWorkerProcess workers

def addCall (workerIdentifier workerId : String) (stage : CallStage) : Workers :=
  { workers with calls := workers.calls ++ [⟨workerIdentifier, workerId, stage⟩] }

def setCall (index : Nat) (call : WorkerCall) : Workers :=
  { workers with calls := workers.calls.set index call }

/-- A creation begins: the directory gets its name from the clock. -/
def create (workerIdentifier workerId : String) : Workers :=
  { workers with
    processes := workers.processes ++
      [{ workerId := workerId, executionId := executionIdOf workerIdentifier workers.clock }]
    workerCreationPromises :=
      workers.workerCreationPromises.set workerId workers.processes.length }

/-- The process that a call waits for, where it has none: that of a creation under way, or a new
one. -/
def joinOrCreate (workerIdentifier workerId : String) : Workers × Nat :=
  match workers.workerCreationPromises.get? workerId with
  | some index => (workers, index)
  | none => (workers.create workerIdentifier workerId, workers.processes.length)

/-- The entry is used only while its process is neither killed nor exited. -/
def isUsable (index : Nat) : Bool :=
  match workers.processes[index]? with
  | some process => !process.killed && process.running
  | none => false

/-- `getOrCreateWorkerProcess` up to its first await. -/
def call (appIdentifier workerHash workerIdentifier : String) : Workers :=
  let workerId := workerIdOf appIdentifier workerHash workerIdentifier
  match workers.workerProcesses.get? workerId with
  | some index =>
      if workers.isUsable index then
        (workers.modifyProcess index fun process =>
          { process with lastUsed := workers.clock }).addCall workerIdentifier workerId
            (.waiting index)
      else (workers.cleanupWorkerProcess workerId).addCall workerIdentifier workerId .cleaning
  | none =>
      let (after, index) := workers.joinOrCreate workerIdentifier workerId
      after.addCall workerIdentifier workerId (.waiting index)

/-- The clean-up of the stale process is done. -/
def cleaned (index : Nat) : Workers :=
  match workers.calls[index]? with
  | some call =>
      if call.stage = .cleaning then
        let (after, process) := workers.joinOrCreate call.workerIdentifier call.workerId
        after.setCall index { call with stage := .waiting process }
      else workers
  | none => workers

/-- The creation of a process ends, and its promise is forgotten. -/
def settle (index : Nat) (process : WorkerProcess) (change : WorkerProcess → WorkerProcess) :
    Workers :=
  { workers.modifyProcess index change with
    workerCreationPromises := workers.workerCreationPromises.delete process.workerId }

def creationStep (index : Nat) (stage : CreationStage)
    (move : Workers → Nat → WorkerProcess → Workers) : Workers :=
  match workers.processes[index]? with
  | some process => if process.stage = stage then move workers index process else workers
  | none => workers

def failCreation (index : Nat) (process : WorkerProcess) : Workers :=
  workers.settle index process WorkerProcess.failed

def spawn (index : Nat) (_ : WorkerProcess) : Workers :=
  workers.modifyProcess index WorkerProcess.spawned

def register (index : Nat) (process : WorkerProcess) : Workers :=
  { workers.settle index process (WorkerProcess.connected workers.clock) with
    workerProcesses := workers.workerProcesses.set process.workerId index }

def exitsEarly (index : Nat) (process : WorkerProcess) : Workers :=
  if process.running then workers
  else workers.settle index process fun process => { process.failed with killed := true }

/-- The promise a call waits for is settled; the call counts itself on the entry of its id. -/
def resume (index : Nat) : Workers :=
  match workers.calls[index]? with
  | some call =>
      match call.stage with
      | .waiting position =>
          match workers.processes[position]? with
          | some process =>
              if process.stage = .done then
                match workers.workerProcesses.get? call.workerId with
                | some entry =>
                    (workers.modifyProcess entry fun process =>
                      { process with activeRequests := process.activeRequests + 1 }).setCall index
                        { call with stage := .active position (some entry) }
                | none => workers.setCall index { call with stage := .active position none }
              else if process.stage = .failed then
                workers.setCall index { call with stage := .completed }
              else workers
          | none => workers
      | _ => workers
  | none => workers

/-- `completeRequest`: the entry that the id has now is the one that is counted down. -/
def complete (index : Nat) : Workers :=
  match workers.calls[index]? with
  | some call =>
      match call.stage with
      | .active _ _ =>
          match workers.workerProcesses.get? call.workerId with
          | some entry =>
              (workers.modifyProcess entry fun process =>
                { process with
                  activeRequests := process.activeRequests - 1
                  lastUsed := workers.clock }).setCall index { call with stage := .completed }
          | none => workers.setCall index { call with stage := .completed }
      | _ => workers
  | none => workers

/-- The handler of `proc.exited`, which every registered process has. -/
def exitHandled (index : Nat) : Workers :=
  match workers.processes[index]? with
  | some process =>
      if process.stage = .done ∧ process.running = false ∧ process.exitHandled = false then
        (workers.modifyProcess index fun process =>
          { process with exitHandled := true }).cleanupWorkerProcess process.workerId
      else workers
  | none => workers

/-- A process is idle without requests for more than five minutes. -/
def isIdle (index : Nat) : Bool :=
  match workers.processes[index]? with
  | some process =>
      process.activeRequests == 0 && decide (maxWorkerIdleTime < workers.clock - process.lastUsed)
  | none => false

def idleIds : List String :=
  (workers.workerProcesses.entries.filter fun entry => workers.isIdle entry.2).map Prod.fst

end Workers

def workersStep (workers : Workers) : WorkersInput → Workers
  | .setClock now => { workers with clock := now }
  | .call appIdentifier workerHash workerIdentifier =>
      workers.call appIdentifier workerHash workerIdentifier
  | .cleaned index => workers.cleaned index
  | .prepareFails index => workers.creationStep index .preparing Workers.failCreation
  | .spawn index => workers.creationStep index .preparing Workers.spawn
  | .connects index => workers.creationStep index .connecting Workers.register
  | .connectionTimesOut index => workers.creationStep index .connecting Workers.failCreation
  | .exitsEarly index => workers.creationStep index .connecting Workers.exitsEarly
  | .resume index => workers.resume index
  | .complete index => workers.complete index
  | .exits index => workers.modifyProcess index fun process => { process with running := false }
  | .exitHandled index => workers.exitHandled index
  | .killTimer index =>
      workers.modifyProcess index fun process =>
        if process.asked then { process with killed := true } else process
  | .idleTimer => workers.cleanupAll workers.idleIds
  | .shutdownAll => workers.cleanupAll (workers.workerProcesses.entries.map Prod.fst)

end Lombok.Worker
