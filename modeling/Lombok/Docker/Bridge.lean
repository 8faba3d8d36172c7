import Lombok.Library.Pool
import Lombok.Library.Run

/-!
Contract: the docker bridge of the platform and the hosts it knows.

Owns `startBridge`, `syncHosts` and `buildHostsMap`, every call of them under
way and where it waits, the bridge children with the host map each received
last, the socket, the ready flag and the restart timers. A change of the hosts
writes the rows and begins a sync.

A message that is written to the socket of a living child is received, in the
order it is written. Whether and when a child connects, answers, fails or
exits is up to the run.

Does not own the secrets and limits of the init message, logs, or the bundle of
the bridge, which is taken to be there.
-/

namespace Lombok.Docker

open Lombok.Library

/-! ### Hosts -/

structure BridgeHost where
  type : String
  host : String
deriving DecidableEq

abbrev HostsMap := List (String × BridgeHost)

/-- A row of the docker hosts, with what the bridge is told of it. -/
structure DockerHostRow where
  id : String
  type : String
  host : String
  enabled : Bool
deriving DecidableEq

/-- `buildHostsMap`. -/
def buildHostsMap (rows : List DockerHostRow) : HostsMap :=
  (rows.filter DockerHostRow.enabled).map fun row => (row.id, ⟨row.type, row.host⟩)

/-! ### Children and calls -/

structure BridgeChild where
  alive : Bool
  /-- It connected to its server. -/
  connected : Bool
  /-- The host map it received last. -/
  hosts : Option HostsMap
deriving DecidableEq

/-- Where a call of `startBridge` or `syncHosts` waits. -/
inductive BridgeCall where
  /-- For the hosts. -/
  | startReading
  /-- The hosts are on their way back. -/
  | startRead (hosts : HostsMap)
  /-- For the socket server. -/
  | startListening (hosts : HostsMap)
  /-- In `waitForConnection`, which is resolved at once where there is a socket. -/
  | startConnecting (hosts : HostsMap) (child : Nat) (resolved : Bool)
  /-- For the answer to the init that was written to a child. -/
  | startInit (target : Nat)
  | syncReading
  | syncRead (hosts : HostsMap)
  | syncUpdating
  | done
deriving DecidableEq

namespace BridgeCall

/-- A start that has not spawned its child. -/
def isStarting : BridgeCall → Bool
  | startReading | startRead _ | startListening _ => true
  | _ => false

/-- The hosts a start has read before it spawned its child. -/
def holds : BridgeCall → Option HostsMap
  | startRead hosts | startListening hosts => some hosts
  | _ => none

/-- The call is yet to send the current hosts: to any bridge, or to the child it spawned. -/
def brings (current : HostsMap) (child : Option Nat) : BridgeCall → Bool
  | syncReading => true
  | syncRead hosts => hosts == current
  | startConnecting hosts own _ => hosts == current && child == some own
  | _ => false

end BridgeCall

/-- The service, its children and the database. -/
structure DockerBridge where
  rows : List DockerHostRow
  children : List BridgeChild
  calls : List BridgeCall
  ipcSocket : Option Nat
  ready : Bool
  stopping : Bool
  timers : Nat
deriving DecidableEq

namespace DockerBridge

def start (rows : List DockerHostRow) : DockerBridge where
  rows := rows
  children := []
  calls := []
  ipcSocket := none
  ready := false
  stopping := false
  timers := 0

variable (bridge : DockerBridge)

def hosts : HostsMap := buildHostsMap bridge.rows

def beginCall (call : BridgeCall) : DockerBridge := { bridge with calls := bridge.calls ++ [call] }

def setCall (index : Nat) (call : BridgeCall) : DockerBridge :=
  { bridge with calls := bridge.calls.set index call }

/-- A map is written to the socket of a child. -/
def tell (target : Nat) (hosts : HostsMap) : DockerBridge :=
  match bridge.children[target]? with
  | some child =>
      { bridge with children := bridge.children.set target { child with hosts := hosts } }
  | none => bridge

def hasConnected (child : Nat) : Bool := bridge.children[child]?.any BridgeChild.connected

/-! ### The steps of a call -/

/-- The child is spawned, and the call waits for its connection. -/
def spawn (index : Nat) (hosts : HostsMap) : DockerBridge :=
  { bridge with
    children := bridge.children ++ [{ alive := true, connected := false, hosts := none }]
    calls := bridge.calls.set index
      (.startConnecting hosts bridge.children.length bridge.ipcSocket.isSome) }

/-- `sendInit` fails where there is no socket. -/
def sendInit (index : Nat) (hosts : HostsMap) : DockerBridge :=
  match bridge.ipcSocket with
  | none => bridge.setCall index .done
  | some target => (bridge.tell target hosts).setCall index (.startInit target)

/-- `syncHosts` after it has read the hosts. -/
def syncWith (index : Nat) (hosts : HostsMap) : DockerBridge :=
  if bridge.ready then
    match bridge.ipcSocket with
    | none => bridge.setCall index .done
    | some target => (bridge.tell target hosts).setCall index .syncUpdating
  else if hosts.isEmpty then bridge.setCall index .done
  else bridge.setCall index .startReading

/-- What a call waits for comes. -/
def advance (index : Nat) : DockerBridge :=
  match bridge.calls[index]? with
  | some .startReading => bridge.setCall index (.startRead bridge.hosts)
  | some (.startRead hosts) =>
      if hosts.isEmpty then bridge.setCall index .done
      else bridge.setCall index (.startListening hosts)
  | some (.startListening hosts) => bridge.spawn index hosts
  | some (.startConnecting hosts child resolved) =>
      if resolved || bridge.hasConnected child then bridge.sendInit index hosts else bridge
  | some (.startInit _) => { bridge.setCall index .done with ready := true }
  | some .syncReading => bridge.setCall index (.syncRead bridge.hosts)
  | some (.syncRead hosts) => bridge.syncWith index hosts
  | some .syncUpdating => bridge.setCall index .done
  | _ => bridge

/-- What a call waits for fails: the socket server, the connection in time, an answer. -/
def fail (index : Nat) : DockerBridge :=
  match bridge.calls[index]? with
  | some (.startConnecting _ child resolved) =>
      if resolved || bridge.hasConnected child then bridge else bridge.setCall index .done
  | some (.startListening _) | some (.startInit _) | some .syncUpdating =>
      bridge.setCall index .done
  | _ => bridge

/-! ### Events -/

def connects (index : Nat) : DockerBridge :=
  match bridge.children[index]? with
  | some child =>
      if child.alive && !child.connected then
        { bridge with
          children := bridge.children.set index { child with connected := true }
          ipcSocket := some index }
      else bridge
  | none => bridge

def closes (index : Nat) : DockerBridge :=
  if bridge.hasConnected index then { bridge with ipcSocket := none, ready := false } else bridge

def exits (index : Nat) : DockerBridge :=
  match bridge.children[index]? with
  | some child =>
      if child.alive then
        { bridge with
          children := bridge.children.set index { child with alive := false }
          ipcSocket := none
          ready := false
          timers := if bridge.stopping then bridge.timers else bridge.timers + 1 }
      else bridge
  | none => bridge

def restartTimer : DockerBridge :=
  if bridge.timers = 0 then bridge
  else { bridge with timers := bridge.timers - 1 }.beginCall .startReading

end DockerBridge

inductive BridgeInput where
  | startBridge
  /-- Hosts are created, updated or deleted: the rows are written and a sync begins. -/
  | hostsChange (rows : List DockerHostRow)
  | restartTimer
  | advance (call : Nat)
  | fail (call : Nat)
  | connects (child : Nat)
  | closes (child : Nat)
  | exits (child : Nat)
  | terminate
deriving DecidableEq

def bridgeStep (bridge : DockerBridge) : BridgeInput → DockerBridge
  | .startBridge => bridge.beginCall .startReading
  | .hostsChange rows => { bridge with rows := rows }.beginCall .syncReading
  | .restartTimer => bridge.restartTimer
  | .advance call => bridge.advance call
  | .fail call => bridge.fail call
  | .connects child => bridge.connects child
  | .closes child => bridge.closes child
  | .exits child => bridge.exits child
  | .terminate => { bridge with stopping := true }

namespace DockerBridge

/-! ### One bridge, with the current hosts -/

def live (bridge : DockerBridge) : Nat := bridge.children.countP BridgeChild.alive

def starting (bridge : DockerBridge) : Nat := bridge.calls.countP BridgeCall.isStarting

/-- At most one child lives or is being started, and when no call is under way the child that
lives has the current hosts. -/
structure OneCurrent (bridge : DockerBridge) : Prop where
  one : bridge.live + bridge.starting ≤ 1
  current : (∀ call ∈ bridge.calls, call = .done) →
    ∀ child ∈ bridge.children, child.alive = true → child.hosts = some bridge.hosts

/-- No child lives or is being started. -/
def Free (bridge : DockerBridge) : Prop := bridge.live = 0 ∧ bridge.starting = 0

/-- A map that is sent does not replace the current one by another. -/
def Timely (bridge : DockerBridge) (target : Nat) (hosts : HostsMap) : Prop :=
  ∀ child ∈ bridge.children[target]?, child.hosts = some bridge.hosts → hosts = bridge.hosts

def Lives (bridge : DockerBridge) (child : Nat) : Prop :=
  bridge.children[child]?.any BridgeChild.alive = true

/-- When a call goes on where it waits. -/
def Orderly (bridge : DockerBridge) : BridgeCall → Prop
  | .startConnecting hosts child resolved =>
      (resolved || bridge.hasConnected child) = true →
        (bridge.ipcSocket = none → ¬ bridge.Lives child) ∧
          ∀ target ∈ bridge.ipcSocket, bridge.Timely target hosts
  | .startInit target => bridge.ipcSocket = some target
  | .syncRead hosts =>
      if bridge.ready then ∀ target ∈ bridge.ipcSocket, bridge.Timely target hosts
      else if hosts.isEmpty then bridge.live = 0 ∧ ∀ call ∈ bridge.calls, call.holds = none
      else bridge.Free
  | _ => True

def FailsOrderly (bridge : DockerBridge) : BridgeCall → Prop
  | .startConnecting _ child resolved =>
      (resolved || bridge.hasConnected child) = false → ¬ bridge.Lives child
  | _ => True

instance (bridge : DockerBridge) : Decidable bridge.Free :=
  inferInstanceAs (Decidable (_ ∧ _))

instance (bridge : DockerBridge) (target : Nat) (hosts : HostsMap) :
    Decidable (bridge.Timely target hosts) :=
  inferInstanceAs (Decidable (∀ child ∈ bridge.children[target]?, _ → _))

instance (bridge : DockerBridge) (child : Nat) : Decidable (bridge.Lives child) :=
  inferInstanceAs (Decidable (_ = _))

instance (bridge : DockerBridge) : ∀ call, Decidable (bridge.Orderly call)
  | .startConnecting hosts child _ =>
      inferInstanceAs (Decidable (_ →
        (_ → ¬ bridge.Lives child) ∧ ∀ target ∈ bridge.ipcSocket, bridge.Timely target hosts))
  | .startInit target => inferInstanceAs (Decidable (_ = _))
  | .syncRead hosts =>
      inferInstanceAs (Decidable (if bridge.ready then
          ∀ target ∈ bridge.ipcSocket, bridge.Timely target hosts
        else if hosts.isEmpty then bridge.live = 0 ∧ ∀ call ∈ bridge.calls, call.holds = none
        else bridge.Free))
  | .startReading | .startRead _ | .startListening _ | .syncReading | .syncUpdating | .done =>
      isTrue trivial

end DockerBridge

/-- The branch that goes wrong is not taken: a start begins only where no child lives or is being
started; a sync that finds no bridge ready gives up only where none is on its way; a map that is
sent does not replace the current one by an older one; a start is not given up while its child
lives and waits for its hosts; an init is answered on the socket in use. -/
def BridgeOrderly (bridge : DockerBridge) : BridgeInput → Prop
  | .startBridge => bridge.Free
  | .restartTimer => bridge.timers ≠ 0 → bridge.Free
  | .advance index => ∀ call ∈ bridge.calls[index]?, bridge.Orderly call
  | .fail index => ∀ call ∈ bridge.calls[index]?, bridge.FailsOrderly call
  | _ => True

instance (bridge : DockerBridge) : ∀ call, Decidable (bridge.FailsOrderly call)
  | .startConnecting _ child _ => inferInstanceAs (Decidable (_ → ¬ bridge.Lives child))
  | .startReading | .startRead _ | .startListening _ | .startInit _ | .syncReading | .syncRead _
  | .syncUpdating | .done => isTrue trivial

instance (bridge : DockerBridge) : ∀ input, Decidable (BridgeOrderly bridge input)
  | .startBridge => inferInstanceAs (Decidable bridge.Free)
  | .restartTimer => inferInstanceAs (Decidable (_ → bridge.Free))
  | .advance index =>
      inferInstanceAs (Decidable (∀ call ∈ bridge.calls[index]?, bridge.Orderly call))
  | .fail index =>
      inferInstanceAs (Decidable (∀ call ∈ bridge.calls[index]?, bridge.FailsOrderly call))
  | .hostsChange _ | .connects _ | .closes _ | .exits _ | .terminate => isTrue trivial

end Lombok.Docker
