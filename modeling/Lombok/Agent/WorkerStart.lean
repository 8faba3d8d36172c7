import Lombok.Library.Run

/-!
Contract: starting the persistent worker of a port.

Owns `IsWorkerAlive`, the decision of a job process to launch a supervisor, and
`runWorkerSupervisor` from the start lock to the `stopped` record, with each of its steps
apart: the lock, the look at the state file, the spawn, the second look, each write of the
state file (which is emptied first), the release, and the wait for the worker. Supervisors
and workers end at any moment. The lock is the holder's until it lets go of it or ends.

What holds of runs is in `atMostOneWorker`: where no supervisor lets go of the lock before
the state file has its running worker, and none without the lock writes over the record of
a running worker. Neither is a promise of the program.

Does not own the logs, the readiness probe, and the fields of the record that nothing
here reads. A process that has ended and is not yet waited for still has its pid; a pid
may also belong to a process that is no worker.
-/

namespace Lombok.Agent

open Lombok.Library

/-! ### The port -/

inductive WorkerStatus where
  | starting
  | ready
  | unhealthy
  | stopped
deriving DecidableEq

/-- The state file. -/
inductive WorkerFile where
  | missing
  /-- Empty, or text that does not parse. -/
  | torn
  | state (pid : Nat) (status : WorkerStatus)
deriving DecidableEq

inductive ProcessPhase where
  | running
  /-- Ended, and not waited for. -/
  | zombie
  | gone
deriving DecidableEq

/-- The id of a process. -/
abbrev Pid := { pid : Nat // 0 < pid }

structure WorkerProcess where
  pid : Pid
  phase : ProcessPhase

/-- Where a supervisor is. A worker is named by its place among those that were spawned. -/
inductive SupervisorStage where
  | acquiring
  | locked
  /-- It found no worker alive. -/
  | spawning
  | spawned (worker : Nat)
  | writing (worker : Nat) (status : WorkerStatus) (truncated : Bool)
  | awaitingReady (worker : Nat)
  | releasing (worker : Nat)
  | waiting (worker : Nat)
  | ended
deriving DecidableEq

structure WorkerPort where
  file : WorkerFile
  /-- The supervisor that has the start lock. -/
  lock : Option Nat
  supervisors : List SupervisorStage
  workers : List WorkerProcess

def WorkerPort.start : WorkerPort where
  file := .missing
  lock := none
  supervisors := []
  workers := []

namespace WorkerPort

variable (port : WorkerPort)

def isRunning (worker : Nat) : Bool :=
  match port.workers[worker]? with
  | some process => decide (process.phase = .running)
  | none => false

/-- The state file names the worker's process. -/
def isRecorded (worker : Nat) : Bool :=
  match port.workers[worker]?, port.file with
  | some process, .state pid _ => decide (process.pid.val = pid)
  | _, _ => false

/-- `IsProcessAlive`, where `taken` says that another process has the pid. -/
def isProcessAlive (pid : Nat) (taken : Bool) : Bool :=
  decide (0 < pid) &&
    (taken || port.workers.any fun process => process.pid.val == pid && process.phase != .gone)

/-- `IsWorkerAlive`: nothing where the file cannot be read. -/
def isWorkerAlive (taken : Bool) : Option (Bool × Option WorkerStatus) :=
  match port.file with
  | .missing => some (false, none)
  | .torn => none
  | .state pid status => some (port.isProcessAlive pid taken, some status)

/-- `ensureWorkerReady` launches a supervisor: the state is read, no worker is alive, and none
is starting. -/
def launches (taken : Bool) : Bool :=
  match port.isWorkerAlive taken with
  | some (alive, status) => !alive && status != some .starting
  | none => false

def put (index : Nat) (stage : SupervisorStage) : WorkerPort :=
  { port with supervisors := port.supervisors.set index stage }

def unlock (index : Nat) : WorkerPort :=
  { port with lock := if port.lock = some index then none else port.lock }

/-- A supervisor returns or crashes: what it has of the lock is let go. -/
def finish (index : Nat) : WorkerPort := (port.put index .ended).unlock index

def setPhase (worker : Nat) (phase : ProcessPhase) : WorkerPort :=
  match port.workers[worker]? with
  | some process =>
      { port with workers := port.workers.set worker { process with phase := phase } }
  | none => port

end WorkerPort

/-- How `os.WriteFile` ends after the file is emptied. -/
inductive WriteOutcome where
  | whole
  /-- It returns without an error, over what another process has written meanwhile. -/
  | mixed
  | failed
deriving DecidableEq

inductive StartAction where
  /-- A job process looks for the worker. -/
  | dispatch (taken : Bool)
  /-- `start --warmup` launches a supervisor. -/
  | warmup
  | tryLock (index : Nat)
  /-- The wait for the lock times out. -/
  | giveUp (index : Nat)
  | check (index : Nat) (taken : Bool)
  /-- `cmdExec.Start()`, with the pid of the worker where it succeeds. -/
  | spawn (index : Nat) (pid : Option Pid)
  | look (index : Nat) (taken : Bool)
  | truncate (index : Nat)
  | write (index : Nat) (outcome : WriteOutcome)
  /-- `waitForWorkerReady` returns. -/
  | awaited (index : Nat) (ready : Bool)
  | release (index : Nat)
  /-- `cmdExec.Wait()` returns. -/
  | reap (index : Nat)
  | crash (index : Nat)
  | workerExit (worker : Nat)
  /-- The worker of a supervisor that has ended is waited for by another process. -/
  | reapOrphan (worker : Nat)

/-! ### The supervisor -/

section Supervisor

variable (port : WorkerPort) (index : Nat)

/-- `AcquireWorkerStartLock`, once round its loop. -/
def tryLock : WorkerPort :=
  if port.lock = none then { port.put index .locked with lock := some index } else port

def checkWorker (taken : Bool) : WorkerPort :=
  match port.isWorkerAlive taken with
  | some (true, _) => port.finish index
  | _ => port.put index .spawning

def spawnWorker : Option Pid → WorkerPort
  | some pid =>
      { port.put index (.spawned port.workers.length) with
        workers := port.workers ++ [⟨pid, .running⟩] }
  | none => port.finish index

def lookAtWorker (worker : Nat) (taken : Bool) : WorkerPort :=
  match port.workers[worker]? with
  | some process =>
      if port.isProcessAlive process.pid.val taken then
        port.put index (.writing worker .starting false)
      else port.finish index
  | none => port

/-- After `WriteWorkerState`: only the first write ends the supervisor where it fails. -/
def afterWrite (worker : Nat) (status : WorkerStatus) (failed : Bool) : WorkerPort :=
  match status with
  | .starting =>
      if failed then port.finish index else port.put index (.awaitingReady worker)
  | .ready => port.put index (.releasing worker)
  | .unhealthy => port.put index (.waiting worker)
  | .stopped => port.finish index

/-- `WriteWorkerState`, which may also fail ahead of emptying the file. -/
def writeWorkerState (worker : Nat) (status : WorkerStatus) (truncated : Bool)
    (outcome : WriteOutcome) : WorkerPort :=
  match truncated, outcome with
  | false, .failed => afterWrite port index worker status true
  | false, _ => port
  | true, .failed => afterWrite { port with file := .torn } index worker status true
  | true, .mixed => afterWrite { port with file := .torn } index worker status false
  | true, .whole =>
      match port.workers[worker]? with
      | some process =>
          afterWrite { port with file := .state process.pid.val status } index worker status false
      | none => port

/-- Ready, it writes so and lets go of the lock; else it keeps the lock while it waits. -/
def awaitedWorker (worker : Nat) (ready : Bool) : WorkerPort :=
  port.put index (.writing worker (if ready then .ready else .unhealthy) false)

/-- `Wait` returns once the worker has ended. -/
def reapWorker (worker : Nat) : WorkerPort :=
  match port.workers[worker]? with
  | some process =>
      if process.phase = .running then port
      else (port.setPhase worker .gone).put index (.writing worker .stopped false)
  | none => port

end Supervisor

def startStep (port : WorkerPort) : StartAction → WorkerPort
  | .dispatch taken =>
      if port.launches taken then { port with supervisors := port.supervisors ++ [.acquiring] }
      else port
  | .warmup => { port with supervisors := port.supervisors ++ [.acquiring] }
  | .tryLock index =>
      match port.supervisors[index]? with
      | some .acquiring => tryLock port index
      | _ => port
  | .giveUp index =>
      match port.supervisors[index]? with
      | some .acquiring => port.put index .ended
      | _ => port
  | .check index taken =>
      match port.supervisors[index]? with
      | some .locked => checkWorker port index taken
      | _ => port
  | .spawn index pid =>
      match port.supervisors[index]? with
      | some .spawning => spawnWorker port index pid
      | _ => port
  | .look index taken =>
      match port.supervisors[index]? with
      | some (.spawned worker) => lookAtWorker port index worker taken
      | _ => port
  | .truncate index =>
      match port.supervisors[index]? with
      | some (.writing worker status _) =>
          { port.put index (.writing worker status true) with file := .torn }
      | _ => port
  | .write index outcome =>
      match port.supervisors[index]? with
      | some (.writing worker status truncated) =>
          writeWorkerState port index worker status truncated outcome
      | _ => port
  | .awaited index ready =>
      match port.supervisors[index]? with
      | some (.awaitingReady worker) => awaitedWorker port index worker ready
      | _ => port
  | .release index =>
      match port.supervisors[index]? with
      | some (.releasing worker) => (port.put index (.waiting worker)).unlock index
      | _ => port
  | .reap index =>
      match port.supervisors[index]? with
      | some (.waiting worker) => reapWorker port index worker
      | _ => port
  | .crash index =>
      match port.supervisors[index]? with
      | some _ => port.finish index
      | none => port
  | .workerExit worker => if port.isRunning worker then port.setPhase worker .zombie else port
  | .reapOrphan worker => if port.isRunning worker then port else port.setPhase worker .gone

end Lombok.Agent
