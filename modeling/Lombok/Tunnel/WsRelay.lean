import Lombok.Library.OrderedMap
import Lombok.Library.Run
import Lombok.Tunnel.Agent

/-!
Contract: the tunnel agent's WebSocket streams.

Owns the reader's side of a stream (`dispatchText` with `wsChanMap` and the
registry), the goroutine of `WSProxy.Handle` with its writer, and the order in
which a stream's frames reach its socket. A step is what a goroutine does
between two operations that another one can see.

A frame that finds the channel full is dropped, and a channel that is closed
loses what no one took out of it. What the socket sends back is left out.
-/

namespace Lombok.Tunnel

open Lombok.Library Lombok.Library.Framing

/-! ### Streams -/

/-- The buffer of an inbound channel. -/
def channelSize : Nat := 32

/-- A frame at the channel, and how many were waiting in it. -/
structure Arrival where
  frame : Bytes
  waiting : Nat
deriving DecidableEq

/-- Goroutine 1 of `Handle`. -/
inductive WriterPhase where
  | absent
  | ready
  | writing (frame : Bytes)
  | stopped
deriving DecidableEq

/-- The goroutine that a `ws_upgrade` starts. -/
inductive HandlePhase where
  | dialing
  | acking
  | relaying
  /-- `Handle` has returned. -/
  | ended
  /-- The stream was still in the map, and the channel is about to be closed. -/
  | closing
  | gone
deriving DecidableEq

/-- What one `ws_upgrade` opens. `received`, `arrivals` and `handed` are what the reader found the
channel for, what came to the channel and what was taken out of it. -/
structure Opening where
  streamId : String
  queue : List Bytes
  closed : Bool
  handle : HandlePhase
  writer : WriterPhase
  cancelled : Bool
  upstreamEnded : Bool
  received : List Bytes
  arrivals : List Arrival
  handed : List Bytes
  written : List Bytes
deriving DecidableEq

/-- The frames that were put into the channel. -/
def Opening.accepted (opening : Opening) : List Bytes :=
  (opening.arrivals.filter fun arrival => arrival.waiting < channelSize).map Arrival.frame

def newOpening (streamId : String) : Opening where
  streamId := streamId
  queue := []
  closed := false
  handle := .dialing
  writer := .absent
  cancelled := false
  upstreamEnded := false
  received := []
  arrivals := []
  handed := []
  written := []

namespace Opening

variable (opening : Opening)

/-- A frame at the channel: a full one drops it. -/
def arrive (frame : Bytes) : Opening :=
  { opening with
    arrivals := opening.arrivals ++ [⟨frame, opening.queue.length⟩]
    queue := if opening.queue.length < channelSize then opening.queue ++
        [frame] else opening.queue }

/-- The writer receives from the channel; one that is closed and empty ends it. -/
def take : Opening :=
  match opening.queue with
  | frame :: rest =>
      { opening with queue := rest, handed := opening.handed ++ [frame], writer := .writing frame }
  | [] => if opening.closed then { opening with writer := .stopped } else opening

def wrote (succeeded : Bool) : Opening :=
  match opening.writer with
  | .writing frame =>
      if succeeded then { opening with written := opening.written ++ [frame], writer := .ready }
      else { opening with writer := .stopped }
  | _ => opening

end Opening

/-! ### The agent -/

inductive ReaderPhase where
  | idle
  /-- `wsChanMap.Load` has found the channel. -/
  | sending (opening : Nat) (frame : Bytes)
  /-- `wsChanMap.LoadAndDelete` has found the channel. -/
  | closing (opening : Nat) (streamId : String)
  | cancelling (streamId : String)
deriving DecidableEq

def ReaderPhase.pending : ReaderPhase → Nat → List Bytes
  | .sending opening frame, asked => if opening = asked then [frame] else []
  | _, _ => []

/-- Whose cancel function the registry holds. -/
inductive CancelTarget where
  | webSocket (opening : Nat)
  | http
deriving DecidableEq

structure WsAgent where
  reader : ReaderPhase
  openings : List Opening
  wsChanMap : OrderedMap String Nat
  registry : OrderedMap String CancelTarget
  panicked : Option String

inductive WsInput where
  | deliver (delivery : Delivery)
  | send
  | closeChannel
  | cancelStream
  | dialed (opening : Nat) (succeeded : Bool)
  | acked (opening : Nat) (succeeded : Bool)
  | take (opening : Nat)
  | wrote (opening : Nat) (succeeded : Bool)
  | seesDone (opening : Nat)
  | upstreamEnds (opening : Nat)
  | ends (opening : Nat)
  | unregisters (opening : Nat)
  | closesOwn (opening : Nat)
  | httpRegisters (streamId : String)
  | httpEnds (streamId : String)
  | shutdown

namespace WsAgent

variable (agent : WsAgent)

def update (opening : Nat) (change : Opening → Opening) : WsAgent :=
  { agent with openings := agent.openings.modify opening change }

/-- A change of an opening that is there and for which the goroutine is at that point. -/
def updateIf (opening : Nat) (enabled : Opening → Bool) (change : Opening → Opening) : WsAgent :=
  agent.update opening fun held => if enabled held then change held else held

/-! ### The reader -/

/-- `dispatchText`, up to its first operation on a channel. -/
def deliver (delivery : Delivery) : WsAgent :=
  if agent.reader ≠ .idle then agent
  else
    match delivery with
    | .httpRequest _ _ => agent
    | .wsUpgrade msg =>
        { agent with
          openings := agent.openings ++ [newOpening msg.streamId]
          wsChanMap := agent.wsChanMap.set msg.streamId agent.openings.length }
    | .wsData streamId data =>
        match agent.wsChanMap.get? streamId with
        | none => agent
        | some opening =>
            { agent.update opening fun held =>
                { held with received := held.received ++ [data] } with
              reader := .sending opening data }
    | .streamClose streamId =>
        match agent.wsChanMap.get? streamId with
        | none => { agent with reader := .cancelling streamId }
        | some opening =>
            { agent with
              reader := .closing opening streamId
              wsChanMap := agent.wsChanMap.delete streamId }

/-- The `select` of `dispatchText`: a send on a closed channel panics. -/
def send : WsAgent :=
  match agent.reader with
  | .sending opening frame =>
      match agent.openings[opening]? with
      | none => agent
      | some held =>
          if held.closed then { agent with panicked := some "send on closed channel" }
          else
            { agent.update opening fun held => held.arrive frame with reader := .idle }
  | _ => agent

/-- `close(ch)`, after which the goroutine goes on as `next` says. -/
def close (opening : Nat) (next : WsAgent) : WsAgent :=
  match agent.openings[opening]? with
  | none => next
  | some held =>
      if held.closed then { agent with panicked := some "close of closed channel" }
      else next.update opening fun held => { held with closed := true }

def closeChannel : WsAgent :=
  match agent.reader with
  | .closing opening streamId => agent.close opening { agent with reader := .cancelling streamId }
  | _ => agent

def cancelOpening (opening : Nat) : WsAgent :=
  agent.update opening fun held => { held with cancelled := true }

def cancelStream : WsAgent :=
  match agent.reader with
  | .cancelling streamId =>
      let removed := { agent with reader := .idle, registry := agent.registry.delete streamId }
      match agent.registry.get? streamId with
      | some (.webSocket opening) => removed.cancelOpening opening
      | _ => removed
  | _ => agent

/-! ### The goroutine of a stream -/

/-- `websocket.Dial` returns; a connected stream is registered. -/
def dialed (opening : Nat) (succeeded : Bool) : WsAgent :=
  match agent.openings[opening]? with
  | none => agent
  | some held =>
      if held.handle ≠ .dialing then agent
      else if succeeded then
        { agent.update opening fun held => { held with handle := .acking } with
          registry := agent.registry.set held.streamId (.webSocket opening) }
      else agent.update opening fun held => { held with handle := .ended }

/-- The deferred part of `Handle`. -/
def leave (opening : Nat) (held : Opening) : WsAgent :=
  { agent.update opening fun held => { held with handle := .ended, cancelled := true } with
    registry := agent.registry.delete held.streamId }

/-- The acknowledgement is written, and both goroutines start. -/
def acked (opening : Nat) (succeeded : Bool) : WsAgent :=
  match agent.openings[opening]? with
  | none => agent
  | some held =>
      if held.handle ≠ .acking then agent
      else if succeeded then
        agent.update opening fun held => { held with handle := .relaying, writer := .ready }
      else agent.leave opening held

/-- `Handle` returns once a goroutine is done or the stream is cancelled. -/
def ends (opening : Nat) : WsAgent :=
  match agent.openings[opening]? with
  | none => agent
  | some held =>
      if held.handle = .relaying ∧
          (held.writer = .stopped ∨ held.upstreamEnded = true ∨ held.cancelled = true) then
        agent.leave opening held
      else agent

/-- `wsChanMap.LoadAndDelete`: what is found under the stream's id need not be its own channel. -/
def unregisters (opening : Nat) : WsAgent :=
  match agent.openings[opening]? with
  | none => agent
  | some held =>
      if held.handle ≠ .ended then agent
      else if agent.wsChanMap.has held.streamId then
        { agent.update opening fun held => { held with handle := .closing } with
          wsChanMap := agent.wsChanMap.delete held.streamId }
      else agent.update opening fun held => { held with handle := .gone }

def closesOwn (opening : Nat) : WsAgent :=
  match agent.openings[opening]? with
  | none => agent
  | some held =>
      if held.handle ≠ .closing then agent
      else agent.close opening (agent.update opening fun held => { held with handle := .gone })

end WsAgent

/-- A panic ends the agent. -/
def wsStep (agent : WsAgent) (input : WsInput) : WsAgent :=
  if agent.panicked.isSome then agent
  else
    match input with
    | .deliver delivery => agent.deliver delivery
    | .send => agent.send
    | .closeChannel => agent.closeChannel
    | .cancelStream => agent.cancelStream
    | .dialed opening succeeded => agent.dialed opening succeeded
    | .acked opening succeeded => agent.acked opening succeeded
    | .take opening =>
        agent.updateIf opening (fun held => held.writer == .ready) Opening.take
    | .wrote opening succeeded =>
        agent.update opening fun held => held.wrote succeeded
    | .seesDone opening =>
        agent.updateIf opening (fun held => held.cancelled && held.writer == .ready)
          fun held => { held with writer := .stopped }
    | .upstreamEnds opening =>
        agent.updateIf opening (fun held => held.handle == .relaying)
          fun held => { held with upstreamEnded := true }
    | .ends opening => agent.ends opening
    | .unregisters opening => agent.unregisters opening
    | .closesOwn opening => agent.closesOwn opening
    | .httpRegisters streamId =>
        { agent with registry := agent.registry.set streamId .http }
    | .httpEnds streamId => { agent with registry := agent.registry.delete streamId }
    | .shutdown =>
        { agent with
          openings := agent.openings.map fun held => { held with cancelled := true }
          registry := .empty }

def newWsAgent : WsAgent where
  reader := .idle
  openings := []
  wsChanMap := .empty
  registry := .empty
  panicked := none

/-! ### Order -/

def WriterPhase.Has (writer : WriterPhase) (handed written : List Bytes) : Prop :=
  match writer with
  | .absent => written = handed
  | .ready => written = handed
  | .writing frame => written ++ [frame] = handed
  | .stopped => written <+: handed

theorem WriterPhase.Has.isPrefix {writer : WriterPhase} {handed written : List Bytes}
    (has : writer.Has handed written) : written <+: handed := by
  cases writer with
  | absent => exact ⟨[], by rw [List.append_nil]; exact has⟩
  | ready => exact ⟨[], by rw [List.append_nil]; exact has⟩
  | writing frame => exact ⟨[frame], has⟩
  | stopped => exact has

/-- The goroutines of the stream have not been started. -/
def HandlePhase.early : HandlePhase → Bool
  | .dialing => true
  | .acking => true
  | _ => false

/-- The accepted frames are those the writer was handed and those that wait. -/
structure Opening.InOrder (opening : Opening) : Prop where
  accepted : opening.handed ++ opening.queue = opening.accepted
  writer : opening.writer.Has opening.handed opening.written
  queue : opening.queue.length ≤ channelSize
  arrivals : ∀ arrival ∈ opening.arrivals, arrival.waiting ≤ channelSize
  early : opening.handle.early = true → opening.writer = .absent

/-- A goroutine of the stream did something: no frame came to the channel. -/
structure Opening.Keeps (before after : Opening) : Prop where
  inOrder : before.InOrder → after.InOrder
  received : after.received = before.received
  arrivals : after.arrivals = before.arrivals

namespace Opening

variable {opening : Opening}

theorem newOpening_inOrder (streamId : String) : (newOpening streamId).InOrder where
  accepted := rfl
  writer := rfl
  queue := Nat.zero_le _
  arrivals := nofun
  early := fun _ => rfl

/-- A change of what is not about frames. -/
theorem Keeps.of_frames {before after : Opening} (queue : after.queue = before.queue)
    (writer : after.writer = before.writer) (received : after.received = before.received)
    (arrivals : after.arrivals = before.arrivals) (handed : after.handed = before.handed)
    (written : after.written = before.written)
    (early : after.handle.early = true → before.handle.early = true) : Keeps before after := by
  refine ⟨?_, received, arrivals⟩
  intro inOrder
  constructor
  · rw [accepted, handed, queue, arrivals]
    exact inOrder.accepted
  · rw [writer, handed, written]
    exact inOrder.writer
  · rw [queue]
    exact inOrder.queue
  · rw [arrivals]
    exact inOrder.arrivals
  · intro isEarly
    rw [writer]
    exact inOrder.early (early isEarly)

theorem Keeps.refl (opening : Opening) : Keeps opening opening :=
  of_frames rfl rfl rfl rfl rfl rfl id

theorem Keeps.stop (started : opening.writer ≠ .absent) :
    Keeps opening { opening with writer := .stopped } := by
  refine ⟨?_, rfl, rfl⟩
  intro inOrder
  refine ⟨inOrder.accepted, inOrder.writer.isPrefix, inOrder.queue, inOrder.arrivals, ?_⟩
  intro isEarly
  exact absurd (inOrder.early isEarly) started

theorem Keeps.take (ready : opening.writer = .ready) : Keeps opening opening.take := by
  unfold Opening.take
  split
  · rename_i frame rest waiting
    refine ⟨?_, rfl, rfl⟩
    intro inOrder
    have accepted := inOrder.accepted
    have writer := inOrder.writer
    have queue := inOrder.queue
    rw [ready] at writer
    rw [waiting] at accepted queue
    have all : opening.written = opening.handed := writer
    constructor
    · rw [List.append_assoc, List.singleton_append]
      exact accepted
    · show opening.written ++ [frame] = opening.handed ++ [frame]
      rw [all]
    · exact Nat.le_of_succ_le queue
    · exact inOrder.arrivals
    · grind [inOrder.early]
  · split
    · exact Keeps.stop (by rw [ready]; exact WriterPhase.noConfusion)
    · exact Keeps.refl opening

theorem Keeps.wrote (succeeded : Bool) : Keeps opening (opening.wrote succeeded) := by
  unfold Opening.wrote
  split
  · rename_i frame writing
    split
    · refine ⟨?_, rfl, rfl⟩
      intro inOrder
      have writer := inOrder.writer
      rw [writing] at writer
      refine ⟨inOrder.accepted, writer, inOrder.queue, inOrder.arrivals, ?_⟩
      grind [inOrder.early]
    · exact Keeps.stop (by rw [writing]; exact WriterPhase.noConfusion)
  · exact Keeps.refl opening

theorem Keeps.start (early : opening.handle.early = true) :
    Keeps opening { opening with handle := .relaying, writer := .ready } := by
  refine ⟨?_, rfl, rfl⟩
  intro inOrder
  have writer := inOrder.writer
  rw [inOrder.early early] at writer
  exact ⟨inOrder.accepted, writer, inOrder.queue, inOrder.arrivals, fun isEarly => by cases isEarly⟩

/-- A frame joins the accepted ones unless the channel is full. -/
theorem arrive_inOrder (inOrder : opening.InOrder) (frame : Bytes) :
    (opening.arrive frame).InOrder := by
  have bounded := inOrder.queue
  have accepted := inOrder.accepted
  unfold Opening.accepted at accepted
  constructor
  · grind [Opening.accepted, arrive]
  · exact inOrder.writer
  · grind [arrive]
  · intro arrival member
    rcases List.mem_append.mp member with before | now
    · exact inOrder.arrivals arrival before
    · rw [List.mem_singleton.mp now]
      exact bounded
  · exact inOrder.early

end Opening

/-! ### Steps -/

/-- Every opening is in order, and every frame it was found for has come to its channel, but for
the one the reader holds. -/
structure Relays (agent : WsAgent) : Prop where
  inOrder : ∀ (index : Nat) (opening : Opening), agent.openings[index]? = some opening →
      opening.InOrder
  received : ∀ (index : Nat) (opening : Opening), agent.openings[index]? = some opening →
    opening.received = opening.arrivals.map Arrival.frame ++ agent.reader.pending index

namespace Relays

variable {agent : WsAgent}

theorem newWsAgent : Relays newWsAgent := by
  constructor
  · intro index opening found
    cases found
  · intro index opening found
    cases found

variable {after : WsAgent} {change : Opening → Opening}

/-- Each opening went on, or was left alone, and the reader holds the frame it held. -/
theorem of_keeps (relays : Relays agent) (reader : after.reader.pending = agent.reader.pending)
    (openings : ∀ (index : Nat) (opening : Opening), after.openings[index]? = some opening →
      ∃ before, agent.openings[index]? = some before ∧ before.Keeps opening) : Relays after := by
  constructor
  · intro index opening found
    obtain ⟨before, wasFound, keeps⟩ := openings index opening found
    exact keeps.inOrder (relays.inOrder index before wasFound)
  · intro index opening found
    obtain ⟨before, wasFound, keeps⟩ := openings index opening found
    rw [keeps.received, keeps.arrivals, reader]
    exact relays.received index before wasFound

theorem update_cases {changed index : Nat} {opening : Opening}
    (found : (agent.update changed change).openings[index]? = some opening) :
    ∃ before, agent.openings[index]? = some before ∧
      opening = if changed = index then change before else before := by
  grind [WsAgent.update]

/-- One opening went on. -/
theorem update (relays : Relays agent) {changed : Nat}
    (openings : after.openings = (agent.update changed change).openings)
    (reader : after.reader.pending = agent.reader.pending)
    (keeps : ∀ before, agent.openings[changed]? = some before → before.Keeps (change before)) :
    Relays after := by
  apply relays.of_keeps reader
  intro index opening found
  rw [openings] at found
  obtain ⟨before, wasFound, rfl⟩ := update_cases found
  refine ⟨before, wasFound, ?_⟩
  by_cases same : changed = index
  · rw [if_pos same]
    rw [← same] at wasFound
    exact keeps before wasFound
  · rw [if_neg same]
    exact Opening.Keeps.refl before

/-- The maps can change, and the reader can go on without a frame. -/
theorem same (relays : Relays agent) (openings : after.openings = agent.openings)
    (reader : after.reader.pending = agent.reader.pending) : Relays after := by
  grind [Opening.Keeps.refl, relays.of_keeps]

theorem deliver (relays : Relays agent) (delivery : Delivery) :
    Relays (agent.deliver delivery) := by
  unfold WsAgent.deliver
  split
  · exact relays
  · rename_i idle
    have idle : agent.reader = .idle := not_not.mp idle
    have nothing (index : Nat) : agent.reader.pending index = [] := by
      rw [idle]
      rfl
    cases delivery with
    | httpRequest msg body => exact relays
    | wsUpgrade msg =>
        have opened : ∀ (index : Nat) (opening : Opening),
            (agent.openings ++ [newOpening msg.streamId])[index]? = some opening →
              agent.openings[index]? = some opening ∨ opening = newOpening msg.streamId := by
          intro index opening found
          by_cases old : index < agent.openings.length
          · grind
          · rw [List.getElem?_append_right (Nat.le_of_not_lt old)] at found
            right
            have member := List.mem_of_getElem? found
            exact List.mem_singleton.mp member
        constructor
        · grind [Opening.newOpening_inOrder, relays.inOrder]
        · intro index opening found
          rw [nothing]
          rcases opened index opening found with old | rfl
          · have received := relays.received index opening old
            rw [nothing] at received
            exact received
          · rfl
    | wsData streamId data =>
        dsimp only
        split
        · exact relays
        · constructor
          · intro index opening found
            obtain ⟨before, wasFound, rfl⟩ := update_cases found
            have inOrder := relays.inOrder index before wasFound
            split
            · exact ⟨inOrder.accepted, inOrder.writer, inOrder.queue, inOrder.arrivals,
                inOrder.early⟩
            · exact inOrder
          · intro index opening found
            obtain ⟨before, wasFound, rfl⟩ := update_cases found
            have received := relays.received index before wasFound
            grind [ReaderPhase.pending]
    | streamClose streamId =>
        dsimp only
        split
        · exact relays.same rfl (by rw [idle]; rfl)
        · exact relays.same rfl (by rw [idle]; rfl)

theorem send (relays : Relays agent) : Relays agent.send := by
  unfold WsAgent.send
  split
  · rename_i target frame sending
    split
    · exact relays
    · split
      · exact relays.same rfl rfl
      · constructor
        · grind [update_cases, Opening.arrive_inOrder, relays.inOrder]
        · intro index opening found
          obtain ⟨before, wasFound, rfl⟩ := update_cases found
          have received := relays.received index before wasFound
          grind [ReaderPhase.pending, Opening.arrive]
  · exact relays

theorem close (relays : Relays agent) {next : WsAgent} (relaysNext : Relays next) (index : Nat) :
    Relays (agent.close index next) := by
  unfold WsAgent.close
  split
  · exact relaysNext
  · split
    · exact relays.same rfl rfl
    · exact relaysNext.update rfl rfl fun before _ =>
        Opening.Keeps.of_frames rfl rfl rfl rfl rfl rfl id

theorem closeChannel (relays : Relays agent) : Relays agent.closeChannel := by
  unfold WsAgent.closeChannel
  split
  · rename_i target streamId closing
    have next : Relays { agent with reader := .cancelling streamId } := by
      refine relays.same rfl ?_
      rw [closing]
      rfl
    exact relays.close next target
  · exact relays

theorem cancelStream (relays : Relays agent) : Relays agent.cancelStream := by
  unfold WsAgent.cancelStream
  split
  · rename_i streamId cancelling
    split
    · exact relays.update rfl (by rw [cancelling]; rfl) fun before _ =>
        Opening.Keeps.of_frames rfl rfl rfl rfl rfl rfl id
    · exact relays.same rfl (by rw [cancelling]; rfl)
  · exact relays

theorem leave (relays : Relays agent) (target : Nat) (held : Opening) :
    Relays (agent.leave target held) :=
  relays.update rfl rfl fun _ _ =>
    Opening.Keeps.of_frames rfl rfl rfl rfl rfl rfl fun isEarly => by cases isEarly

theorem dialed (relays : Relays agent) (target : Nat) (succeeded : Bool) :
    Relays (agent.dialed target succeeded) := by
  unfold WsAgent.dialed
  split
  · exact relays
  · rename_i held isHeld
    split
    · exact relays
    · rename_i dialing
      have keeps : ∀ before, agent.openings[target]? = some before →
          before.Keeps { before with handle := .acking } := by
        intro before isBefore
        refine Opening.Keeps.of_frames rfl rfl rfl rfl rfl rfl ?_
        intro _
        rw [isHeld] at isBefore
        rw [← Option.some.inj isBefore, not_not.mp dialing]
        rfl
      split
      · exact relays.update rfl rfl keeps
      · exact relays.update rfl rfl fun _ _ =>
          Opening.Keeps.of_frames rfl rfl rfl rfl rfl rfl fun isEarly => by cases isEarly

theorem acked (relays : Relays agent) (target : Nat) (succeeded : Bool) :
    Relays (agent.acked target succeeded) := by
  unfold WsAgent.acked
  split
  · exact relays
  · rename_i held isHeld
    split
    · exact relays
    · rename_i acking
      split
      · apply relays.update rfl rfl
        intro before isBefore
        apply Opening.Keeps.start
        rw [isHeld] at isBefore
        rw [← Option.some.inj isBefore, not_not.mp acking]
        rfl
      · exact relays.leave target held

theorem ends (relays : Relays agent) (target : Nat) : Relays (agent.ends target) := by
  grind [WsAgent.ends, relays.leave]

theorem unregisters (relays : Relays agent) (target : Nat) :
    Relays (agent.unregisters target) := by
  unfold WsAgent.unregisters
  split
  · exact relays
  · split
    · exact relays
    · split
      · exact relays.update rfl rfl fun _ _ =>
          Opening.Keeps.of_frames rfl rfl rfl rfl rfl rfl fun isEarly => by cases isEarly
      · exact relays.update rfl rfl fun _ _ =>
          Opening.Keeps.of_frames rfl rfl rfl rfl rfl rfl fun isEarly => by cases isEarly

theorem closesOwn (relays : Relays agent) (target : Nat) : Relays (agent.closesOwn target) := by
  unfold WsAgent.closesOwn
  split
  · exact relays
  · split
    · exact relays
    · apply relays.close
      exact relays.update rfl rfl fun _ _ =>
        Opening.Keeps.of_frames rfl rfl rfl rfl rfl rfl fun isEarly => by cases isEarly

/-- A goroutine goes on where it is at that point. -/
theorem updateIf (relays : Relays agent) (target : Nat) {enabled : Opening → Bool}
    (keeps : ∀ before, enabled before = true → before.Keeps (change before)) :
    Relays (agent.updateIf target enabled change) := by
  apply relays.update rfl rfl
  grind [Opening.Keeps.refl]

end Relays

theorem relays_step (agent : WsAgent) (input : WsInput) (relays : Relays agent) :
    Relays (wsStep agent input) := by
  unfold wsStep
  split
  · exact relays
  · cases input with
    | deliver delivery => exact relays.deliver delivery
    | send => exact relays.send
    | closeChannel => exact relays.closeChannel
    | cancelStream => exact relays.cancelStream
    | dialed target succeeded => exact relays.dialed target succeeded
    | acked target succeeded => exact relays.acked target succeeded
    | take target =>
        exact relays.updateIf target fun before ready => Opening.Keeps.take (beq_iff_eq.mp ready)
    | wrote target succeeded =>
        exact relays.update rfl rfl fun before _ => Opening.Keeps.wrote succeeded
    | seesDone target =>
        apply relays.updateIf target
        intro before both
        rw [Bool.and_eq_true, beq_iff_eq] at both
        apply Opening.Keeps.stop
        rw [both.2]
        exact WriterPhase.noConfusion
    | upstreamEnds target =>
        simp [Opening.Keeps.of_frames, relays.updateIf]
    | ends target => exact relays.ends target
    | unregisters target => exact relays.unregisters target
    | closesOwn target => exact relays.closesOwn target
    | httpRegisters streamId => exact relays.same rfl rfl
    | httpEnds streamId => exact relays.same rfl rfl
    | shutdown =>
        grind [Opening.Keeps.of_frames, relays.of_keeps]

/-- A stream is opened and its socket is connected. -/
def connects : List WsInput :=
  [.deliver (.wsUpgrade ⟨"s1", "/", []⟩), .dialed 0 true, .acked 0 true]

def comes (byte : UInt8) : List WsInput := [.deliver (.wsData "s1" [byte]), .send]

/-- The writer writes the next frame. -/
def writes : List WsInput := [.take 0, .wrote 0 true]

/-- Thirty-three frames come before the writer has taken one. -/
def burst : List WsInput :=
  connects ++ ((List.range 33).map UInt8.ofNat).flatMap comes ++
    (List.replicate 33 writes).flatten

end Lombok.Tunnel
