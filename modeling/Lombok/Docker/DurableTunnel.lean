import Lombok.Docker.Jobs
import Lombok.Library.Run

/-!
Contract: the calls of `DurableTunnelService` for one durable tunnel.

Owns the tunnel's row, the in-flight map, and `create`, `get`, `ensureLive` and
`delete` cut at every `await`: an input says which call or which part of the
rebind goes on, and what the docker host or the bridge answered.

The bridge is seen through the session it has under the tunnel's public id. A
durable creation returns that session where there is one. Log lines and the
listing are left out.
-/

namespace Lombok.Docker

open Lombok.Core Lombok.Library

/-! ### Rows and views -/

inductive TunnelStatus where
  | pending
  | live
  | unavailable
  | error
deriving DecidableEq

/-- The columns of the tunnel's row that no call changes. -/
structure DurableTunnel where
  id : String
  appId : String
  userId : String
  selectorKey : String
  port : Nat
  publicId : String
deriving DecidableEq

/-- The other columns. -/
structure TunnelRow where
  hostId : String
  containerSelector : Labels
  label : String
  command : List String
  sessionId : Option String
  status : TunnelStatus
  lastError : Option String
  lastBoundAt : Option Date
  createdAt : Date
  updatedAt : Date
deriving DecidableEq

inductive DurableTunnelState where
  | live
  | containerNotRunning
  | error
deriving DecidableEq

/-- The claims of a minted token. -/
structure DurableToken where
  sessionId : String
  publicId : String
deriving DecidableEq

/-- `DurableTunnelView`, without the URL that is built from its public id and its label. -/
structure DurableTunnelView where
  id : String
  port : Nat
  label : String
  publicId : String
  token : Option DurableToken
  state : DurableTunnelState
  createdAt : Date
  updatedAt : Date
deriving DecidableEq

def toState : TunnelStatus → DurableTunnelState
  | .live => .live
  | .unavailable => .containerNotRunning
  | .error => .error
  | .pending => .error

def toView (tunnel : DurableTunnel) (row : TunnelRow) (token : Option DurableToken) :
    DurableTunnelView where
  id := tunnel.id
  port := tunnel.port
  label := row.label
  publicId := tunnel.publicId
  token := token
  state := toState row.status
  createdAt := row.createdAt
  updatedAt := row.updatedAt

/-! ### Containers -/

def profileIdLabel : String := "lombok.container_profile_id"

/-- `SELECTOR_LABELS`. -/
def selectorLabels : List String := [appIdLabel, userIdLabel, isolationKeyLabel, profileIdLabel]

def snapshotSelector (container : ContainerInfo) : Labels :=
  selectorLabels.flatMap fun key => labelOf key (container.labels.get? key)

/-- `resolveRunningContainer`, over the containers the host lists for the selector. -/
def runningContainer (row : TunnelRow) (containers : List ContainerInfo) : Option ContainerInfo :=
  (containers.filter fun container =>
      (row.containerSelector.get? isolationKeyLabel).isSome ||
        (present (container.labels.get? isolationKeyLabel)).isNone).find?
    fun container => container.state == .running

/-! ### The bridge -/

/-- What a lookup of a session tells. -/
structure BridgeSession where
  id : String
  containerId : String
  agentReady : Bool
deriving DecidableEq

/-- A durable creation: the session of the public id, or a new one. -/
def registered (bridge : Option BridgeSession) (containerId drawn : String) : BridgeSession :=
  bridge.getD ⟨drawn, containerId, false⟩

/-- A deletion, or a session that ends. -/
def dropped (bridge : Option BridgeSession) (sessionId : String) : Option BridgeSession :=
  bridge.filter fun session => session.id != sessionId

/-! ### Calls -/

structure OwnerScope where
  appId : String
  userId : String
deriving DecidableEq

/-- What a `create` for the tunnel brings; its app, user, selector key and port are the tunnel's. -/
structure CreateTunnelInput where
  hostId : String
  containerId : String
  label : String
  command : List String
deriving DecidableEq

/-- Where a call waits. -/
inductive TunnelCall where
  | findingContainer (input : CreateTunnelInput)
  | findingRow (input : CreateTunnelInput) (containerSelector : Labels)
  | updating (input : CreateTunnelInput) (containerSelector : Labels)
  | inserting (input : CreateTunnelInput) (containerSelector : Labels)
  | checkingOwner (scope : OwnerScope)
  /-- On the promise of a rebind. -/
  | waiting (flight : Nat)
  | checkingDelete (scope : OwnerScope)
  | deletingSession (row : TunnelRow) (sessionId : String)
  | deletingRow (row : TunnelRow)
deriving DecidableEq

inductive TunnelOutcome where
  | refused (error : ApiError)
  | deleted
  | answered (flight : Nat) (answer : Except ApiError DurableTunnelView)
  /-- The row that was inserted is another tunnel's. -/
  | elsewhere
deriving DecidableEq

/-- Where `runEnsureLive` waits; `row` is the row as it was read. -/
inductive RebindPhase where
  | readingRow
  | listing (row : TunnelRow)
  | patchingUnavailable (row : TunnelRow)
  | lookingUp (row : TunnelRow) (sessionId : String) (container : ContainerInfo)
  | recordingReused (row : TunnelRow) (sessionId : String)
  | dropping (row : TunnelRow) (sessionId : String) (container : ContainerInfo)
  | requesting (row : TunnelRow) (container : ContainerInfo)
  | creating (row : TunnelRow) (sessionId : String)
  | recordingCreated (row : TunnelRow) (sessionId : String)
  | failing (row : TunnelRow) (message : String)
  | settled (answer : Except ApiError DurableTunnelView)

/-- The promise of the in-flight map. -/
structure Rebind where
  flight : Nat
  phase : RebindPhase

structure TunnelState where
  row : Option TunnelRow
  /-- The row's id has been drawn. -/
  inserted : Bool
  bridge : Option BridgeSession
  /-- The session ids that were drawn. -/
  drawn : List String
  inFlight : Option Rebind
  flights : Nat
  nextTicket : Nat
  calls : List (Nat × TunnelCall)
  outcomes : List (Nat × TunnelOutcome)

inductive TunnelInput where
  | create (input : CreateTunnelInput)
  | get (scope : OwnerScope)
  | ensureLive
  | delete (scope : OwnerScope)
  | containerFound (ticket : Nat) (container : Option ContainerInfo)
  | rowFound (ticket : Nat)
  | upserted (ticket : Nat) (now : Date)
  | ownerChecked (ticket : Nat)
  | deleteChecked (ticket : Nat)
  | sessionDeleted (ticket : Nat) (succeeded : Bool)
  | rowDeleted (ticket : Nat)
  | rowRead
  | listed (containers : Except String (List ContainerInfo))
  | lookedUp (failure : Option String)
  | staleDropped (succeeded : Bool)
  | requestRefused (message : String)
  | sessionRegistered (drawn : String)
  | creationAnswered (failure : Option String)
  | patched (now : Date)
  | promiseSettled
  | agentReady
  | sessionEnded

/-! ### Errors -/

def tunnelNotFound (tunnel : DurableTunnel) : String := s!"Durable tunnel not found: {tunnel.id}"

def containerStateText : ContainerState → String
  | .running => "running"
  | .exited => "exited"
  | .paused => "paused"
  | .created => "created"
  | .unknown => "unknown"

/-- The checks of `create` on the container. -/
def checkContainer (tunnel : DurableTunnel) (input : CreateTunnelInput) :
    Option ContainerInfo → Except ApiError ContainerInfo
  | none => .error (.notFound s!"No container found for \"{input.containerId}\"")
  | some container =>
      if container.state ≠ .running then
        .error (.notFound (s!"Container \"{input.containerId}\" is not running (state: " ++
          s!"{containerStateText container.state})"))
      else if container.labels.get? appIdLabel ≠ some tunnel.appId then
        .error (.forbidden "Container not owned by this app")
      else if container.labels.get? userIdLabel ≠ some tunnel.userId then
        .error (.forbidden "Container not owned by this user")
      else .ok container

namespace TunnelState

variable (tunnel : DurableTunnel) (state : TunnelState)

/-! ### Bookkeeping -/

def callOf (ticket : Nat) : Option TunnelCall :=
  (state.calls.find? fun entry => entry.1 == ticket).map Prod.snd

def begin (call : TunnelCall) : TunnelState :=
  { state with
    nextTicket := state.nextTicket + 1
    calls := state.calls ++ [(state.nextTicket, call)] }

def advance (ticket : Nat) (call : TunnelCall) : TunnelState :=
  { state with
    calls := state.calls.map fun entry => if entry.1 = ticket then (ticket, call) else entry }

def finish (ticket : Nat) (outcome : TunnelOutcome) : TunnelState :=
  { state with
    calls := state.calls.filter fun entry => entry.1 != ticket
    outcomes := state.outcomes ++ [(ticket, outcome)] }

/-- The call waits on the promise of the in-flight map, or on a new one. -/
def joinRebind : TunnelState × Nat :=
  match state.inFlight with
  | some rebind => (state, rebind.flight)
  | none =>
      ({ state with inFlight := some ⟨state.flights, .readingRow⟩, flights := state.flights + 1 },
        state.flights)

def beginEnsureLive : TunnelState :=
  let joined := state.joinRebind
  joined.1.begin (.waiting joined.2)

def goOnEnsureLive (ticket : Nat) : TunnelState :=
  let joined := state.joinRebind
  joined.1.advance ticket (.waiting joined.2)

def enter (rebind : Rebind) (phase : RebindPhase) : TunnelState :=
  { state with inFlight := some { rebind with phase := phase } }

/-! ### `create` -/

def containerFound (ticket : Nat) (container : Option ContainerInfo) : TunnelState :=
  match state.callOf ticket with
  | some (.findingContainer input) =>
      match checkContainer tunnel input container with
      | .error error => state.finish ticket (.refused error)
      | .ok found => state.advance ticket (.findingRow input (snapshotSelector found))
  | _ => state

def rowFound (ticket : Nat) : TunnelState :=
  match state.callOf ticket with
  | some (.findingRow input containerSelector) =>
      match state.row with
      | some _ => state.advance ticket (.updating input containerSelector)
      | none => state.advance ticket (.inserting input containerSelector)
  | _ => state

/-- A row that is gone cannot be updated; one that is there cannot be inserted again. -/
def upserted (ticket : Nat) (now : Date) : TunnelState :=
  match state.callOf ticket with
  | some (.updating input containerSelector) =>
      match state.row with
      | none => state.finish ticket (.refused (.error "Failed to persist durable tunnel row"))
      | some row =>
          let updated := { row with
            hostId := input.hostId, containerSelector := containerSelector, label := input.label,
            command := input.command, updatedAt := now }
          { state with row := some updated }.goOnEnsureLive ticket
  | some (.inserting input containerSelector) =>
      match state.row with
      | some _ =>
          state.finish ticket (.refused (.uniqueViolation "docker_bridge_tunnels_scope_port_uq"))
      | none =>
          if state.inserted then state.finish ticket .elsewhere
          else
            let row : TunnelRow := {
              hostId := input.hostId, containerSelector := containerSelector, label := input.label,
              command := input.command, sessionId := none, status := .pending, lastError := none,
              lastBoundAt := none, createdAt := now, updatedAt := now }
            { state with row := some row, inserted := true }.goOnEnsureLive ticket
  | _ => state

/-! ### `get` and `delete` -/

/-- `requireOwned`. -/
def requireOwned (scope : OwnerScope) : Except ApiError TunnelRow :=
  match state.row with
  | none => .error (.notFound (tunnelNotFound tunnel))
  | some row =>
      if tunnel.appId ≠ scope.appId ∨ tunnel.userId ≠ scope.userId then
        .error (.notFound (tunnelNotFound tunnel))
      else .ok row

def ownerChecked (ticket : Nat) : TunnelState :=
  match state.callOf ticket with
  | some (.checkingOwner scope) =>
      match state.requireOwned tunnel scope with
      | .error error => state.finish ticket (.refused error)
      | .ok _ => state.goOnEnsureLive ticket
  | _ => state

def deleteChecked (ticket : Nat) : TunnelState :=
  match state.callOf ticket with
  | some (.checkingDelete scope) =>
      match state.requireOwned tunnel scope with
      | .error error => state.finish ticket (.refused error)
      | .ok row =>
          match row.sessionId with
          | some sessionId => state.advance ticket (.deletingSession row sessionId)
          | none => state.advance ticket (.deletingRow row)
  | _ => state

def sessionDeleted (ticket : Nat) (succeeded : Bool) : TunnelState :=
  match state.callOf ticket with
  | some (.deletingSession row sessionId) =>
      { state with
        bridge := if succeeded then dropped state.bridge sessionId else state.bridge }.advance
          ticket (.deletingRow row)
  | _ => state

def rowDeleted (ticket : Nat) : TunnelState :=
  match state.callOf ticket with
  | some (.deletingRow _) => { state with row := none }.finish ticket .deleted
  | _ => state

/-! ### `runEnsureLive` -/

def rowRead : TunnelState :=
  match state.inFlight with
  | some ⟨flight, .readingRow⟩ =>
      match state.row with
      | none =>
          state.enter ⟨flight, .readingRow⟩ (.settled (.error (.notFound (tunnelNotFound tunnel))))
      | some row => state.enter ⟨flight, .readingRow⟩ (.listing row)
  | _ => state

def listed (containers : Except String (List ContainerInfo)) : TunnelState :=
  match state.inFlight with
  | some ⟨flight, .listing row⟩ =>
      match containers with
      | .error message => state.enter ⟨flight, .listing row⟩ (.failing row message)
      | .ok all =>
          match runningContainer row all with
          | none => state.enter ⟨flight, .listing row⟩ (.patchingUnavailable row)
          | some container =>
              match row.sessionId with
              | some sessionId =>
                  state.enter ⟨flight, .listing row⟩ (.lookingUp row sessionId container)
              | none => state.enter ⟨flight, .listing row⟩ (.requesting row container)
  | _ => state

def lookedUp (failure : Option String) : TunnelState :=
  match state.inFlight with
  | some ⟨flight, .lookingUp row sessionId container⟩ =>
      let rebind : Rebind := ⟨flight, .lookingUp row sessionId container⟩
      match failure with
      | some message => state.enter rebind (.failing row message)
      | none =>
          match state.bridge.filter fun session => session.id == sessionId with
          | none => state.enter rebind (.requesting row container)
          | some session =>
              if session.agentReady ∧ session.containerId = container.id then
                state.enter rebind (.recordingReused row sessionId)
              else state.enter rebind (.dropping row sessionId container)
  | _ => state

/-- A stale session that cannot be deleted is left. -/
def staleDropped (succeeded : Bool) : TunnelState :=
  match state.inFlight with
  | some ⟨flight, .dropping row sessionId container⟩ =>
      { state with
        bridge := if succeeded then dropped state.bridge sessionId else state.bridge }.enter
          ⟨flight, .dropping row sessionId container⟩ (.requesting row container)
  | _ => state

/-- The bridge answers an error before it has a session. -/
def requestRefused (message : String) : TunnelState :=
  match state.inFlight with
  | some ⟨flight, .requesting row container⟩ =>
      state.enter ⟨flight, .requesting row container⟩ (.failing row message)
  | _ => state

def sessionRegistered (drawn : String) : TunnelState :=
  match state.inFlight with
  | some ⟨flight, .requesting row container⟩ =>
      if drawn ∈ state.drawn then state
      else
        let session := registered state.bridge container.id drawn
        { state with bridge := some session, drawn := drawn :: state.drawn }.enter
          ⟨flight, .requesting row container⟩ (.creating row session.id)
  | _ => state

/-- The bridge answers: its agent is ready, or did not start. -/
def creationAnswered (failure : Option String) : TunnelState :=
  match state.inFlight with
  | some ⟨flight, .creating row sessionId⟩ =>
      match failure with
      | some message => state.enter ⟨flight, .creating row sessionId⟩ (.failing row message)
      | none => state.enter ⟨flight, .creating row sessionId⟩ (.recordingCreated row sessionId)
  | _ => state

def patchRow (rebind : Rebind) (read : TunnelRow) (now : Date) (change : TunnelRow → TunnelRow)
    (token : Option DurableToken) : TunnelState :=
  match state.row with
  | none => state.enter rebind (.failing read (tunnelNotFound tunnel))
  | some row =>
      let updated := { change row with updatedAt := now }
      { state with row := some updated }.enter rebind (.settled (.ok (toView tunnel updated token)))

def patched (now : Date) : TunnelState :=
  match state.inFlight with
  | some ⟨flight, .patchingUnavailable read⟩ =>
      state.patchRow tunnel ⟨flight, .patchingUnavailable read⟩ read now
        (fun row => { row with status := .unavailable, sessionId := none, lastError := none }) none
  | some ⟨flight, .recordingReused read sessionId⟩ =>
      state.patchRow tunnel ⟨flight, .recordingReused read sessionId⟩ read now
        (fun row => { row with status := .live, lastError := none, lastBoundAt := some now })
        (some ⟨sessionId, tunnel.publicId⟩)
  | some ⟨flight, .recordingCreated read sessionId⟩ =>
      state.patchRow tunnel ⟨flight, .recordingCreated read sessionId⟩ read now
        (fun row => { row with
          sessionId := some sessionId, status := .live, lastError := none,
          lastBoundAt := some now })
        (some ⟨sessionId, tunnel.publicId⟩)
  | some ⟨flight, .failing read message⟩ =>
      match state.row with
      | none =>
          state.enter ⟨flight, .failing read message⟩
            (.settled (.error (.notFound (tunnelNotFound tunnel))))
      | some _ =>
          state.patchRow tunnel ⟨flight, .failing read message⟩ read now
            (fun row => { row with status := .error, lastError := some message }) none
  | _ => state

def promiseSettled : TunnelState :=
  match state.inFlight with
  | some ⟨flight, .settled answer⟩ =>
      { state with
        inFlight := none
        calls := state.calls.filter fun entry => entry.2 != .waiting flight
        outcomes := state.outcomes ++
          (state.calls.filter fun entry => entry.2 == .waiting flight).map fun entry =>
            (entry.1, .answered flight answer) }
  | _ => state

end TunnelState

def tunnelStep (tunnel : DurableTunnel) (state : TunnelState) : TunnelInput → TunnelState
  | .create input => state.begin (.findingContainer input)
  | .get scope => state.begin (.checkingOwner scope)
  | .ensureLive => state.beginEnsureLive
  | .delete scope => state.begin (.checkingDelete scope)
  | .containerFound ticket container => state.containerFound tunnel ticket container
  | .rowFound ticket => state.rowFound ticket
  | .upserted ticket now => state.upserted ticket now
  | .ownerChecked ticket => state.ownerChecked tunnel ticket
  | .deleteChecked ticket => state.deleteChecked tunnel ticket
  | .sessionDeleted ticket succeeded => state.sessionDeleted ticket succeeded
  | .rowDeleted ticket => state.rowDeleted ticket
  | .rowRead => state.rowRead tunnel
  | .listed containers => state.listed containers
  | .lookedUp failure => state.lookedUp failure
  | .staleDropped succeeded => state.staleDropped succeeded
  | .requestRefused message => state.requestRefused message
  | .sessionRegistered drawn => state.sessionRegistered drawn
  | .creationAnswered failure => state.creationAnswered failure
  | .patched now => state.patched tunnel now
  | .promiseSettled => state.promiseSettled
  | .agentReady =>
      { state with bridge := state.bridge.map fun session => { session with agentReady := true } }
  | .sessionEnded => { state with bridge := none }

/-- Before the first call: no row, and no session under the public id. -/
def newTunnel : TunnelState where
  row := none
  inserted := false
  bridge := none
  drawn := []
  inFlight := none
  flights := 0
  nextTicket := 0
  calls := []
  outcomes := []

end Lombok.Docker
