import Mathlib.Data.List.Infix
import Mathlib.Logic.Function.Iterate
import Lombok.Core.JsValue
import Lombok.Worker.IpcLines

/-!
Contract: the main loop of the worker daemon and the socket it reads from.

Owns `SocketReader` after it is connected, with its buffer, its queue, the resolvers of
pending reads and what it remembers of the end of the socket, and the loop that reads
requests, dispatches them and looks at the text of what a read throws. Socket events
and turns of the loop come in any order; a read that was resolved keeps its message
until the loop's next turn.

A pending read is dropped when the socket is closed or fails, and a later read throws at
once, before it looks at the queue. The loop leaves on the text of an error that the
reader itself never throws.

Does not own what becomes of a request after its dispatch. A number is named by the
numeral it is spelled as.
-/

namespace Lombok.Worker

open Lombok.Core
open Lombok.Library
open Lombok.Tunnel (trim)

/-! ### Messages -/

/-- The text stands for zero, or for a number too small to be told from it. -/
def isZeroNumeral (literal : String) : Bool :=
  let decimal := decimalOf literal
  decide (decimal.mantissa = 0 ∨ decimal.exponent < 0 ∧
    decimal.mantissa.natAbs * 2 ^ 1075 ≤ 10 ^ (-decimal.exponent).toNat)

/-- JavaScript's falsy values among those of JSON. -/
def isFalsyJson : Json → Bool
  | .null | .bool false => true
  | .num literal => isZeroNumeral literal
  | .str text => text == ""
  | _ => false

def messageType (message : Json) : Option Json := message.ownProperties.get? "type"

def isShutdown (message : Json) : Bool :=
  match messageType message with
  | some (.str text) => text == "shutdown"
  | _ => false

def requestPayload (message : Json) : Option Json :=
  match messageType message with
  | some (.str text) =>
      if text = "request" then
        (message.ownProperties.get? "payload").filter fun payload => !isFalsyJson payload
      else none
  | _ => none

mutual

/-- `String(value)`; nothing where an object has a `toString` of its own, which throws. -/
def textOfJson : Json → Option String
  | .null => some "null"
  | .bool value => some (if value then "true" else "false")
  | .num literal => some literal
  | .str text => some text
  | .arr items => (textsOfItems items).map (String.intercalate ",")
  | .obj fields => if (Fields.get? fields "toString").isSome then none else some "[object Object]"

/-- The items of an array as `join` writes them. -/
def textsOfItems : List Json → Option (List String)
  | [] => some []
  | .null :: rest => (textsOfItems rest).map ("" :: ·)
  | item :: rest =>
      match textOfJson item, textsOfItems rest with
      | some text, some others => some (text :: others)
      | _, _ => none

end

/-- The message of the error that a message which is no request is answered with. -/
def refusalText (message : Json) : String :=
  let type :=
    match messageType message with
    | none => some "undefined"
    | some value => textOfJson value
  match type with
  | some text => "Expected request message, got: " ++ text
  | none => "Cannot convert object to primitive value"

/-! ### The loop and its socket -/

/-- Where the loop is. -/
inductive LoopPhase where
  /-- It is about to read. -/
  | reading
  /-- It awaits a read. -/
  | pending
  /-- Its read is resolved, and it has not gone on yet. -/
  | resolved (message : Json)
  | left

structure Daemon where
  /-- The text carried over, and every message that was delivered so far. -/
  lines : LineReader Json
  messageQueue : List Json
  /-- How many reads are in `messageResolvers`. -/
  messageResolvers : Nat
  connectionError : Option String
  closed : Bool
  phase : LoopPhase
  /-- The messages the loop has taken. -/
  taken : List Json
  /-- The payloads it has dispatched. -/
  dispatched : List Json

/-- Connected, ahead of the first read. -/
def Daemon.start : Daemon where
  lines := LineReader.start
  messageQueue := []
  messageResolvers := 0
  connectionError := none
  closed := false
  phase := .reading
  taken := []
  dispatched := []

/-- What `SocketReader.handleData` takes from a line. -/
def takeMessage (line : List Char) : Option Json :=
  if (trim line).isEmpty then none else parseMessage line

def deliverMessage (daemon : Daemon) (message : Json) : Daemon :=
  if 0 < daemon.messageResolvers then
    { daemon with
      messageResolvers := daemon.messageResolvers - 1
      phase := .resolved message }
  else { daemon with messageQueue := daemon.messageQueue ++ [message] }

/-- `handleData`: the messages of one data event. -/
def handleData (daemon : Daemon) (data : List UInt8) : Daemon :=
  let arrived := (Lines.takeLines '\n' (daemon.lines.buffer ++ decodeChars data)).1.filterMap
    takeMessage
  arrived.foldl deliverMessage { daemon with lines := daemon.lines.onData takeMessage data }

/-- `message.includes('Pipe closed')`. -/
def saysPipeClosed (text : String) : Bool := decide ("Pipe closed".toList <:+: text.toList)

/-- The handler of what a read throws. -/
def catchPipeError (daemon : Daemon) (text : String) : Daemon :=
  { daemon with phase := if saysPipeClosed text then .left else .reading }

/-- What the loop does with a message: `readRequest` after its read, and the loop's body. -/
def consume (daemon : Daemon) (message : Json) : Daemon :=
  let taken := { daemon with taken := daemon.taken ++ [message] }
  if isShutdown message then { taken with phase := .left }
  else
    match requestPayload message with
    | some payload =>
        { taken with dispatched := daemon.dispatched ++ [payload], phase := .reading }
    | none => catchPipeError taken (refusalText message)

/-- A new promise in `readMessage`. -/
def awaitMessage (daemon : Daemon) : Daemon :=
  { daemon with
    messageResolvers := daemon.messageResolvers + 1
    phase := .pending }

/-- `readMessage` from its call on. A queued message that is falsy is passed over. -/
def readMessage (daemon : Daemon) : Daemon :=
  match daemon.connectionError with
  | some error => catchPipeError daemon error
  | none =>
      if daemon.closed then catchPipeError daemon "Socket is closed"
      else
        match daemon.messageQueue with
        | [] => awaitMessage daemon
        | message :: rest =>
            if isFalsyJson message then
              awaitMessage
                { daemon with messageQueue := rest, taken := daemon.taken ++ [message] }
            else consume { daemon with messageQueue := rest } message

/-- One turn of the loop. It has none while it awaits a read. -/
def turn (daemon : Daemon) : Daemon :=
  match daemon.phase with
  | .reading => readMessage daemon
  | .pending => daemon
  | .resolved message => consume daemon message
  | .left => daemon

inductive DaemonAction where
  | data (bytes : List UInt8)
  | error (text : String)
  | close
  | turn

/-- The socket's listeners and the loop. `rejectPendingReads` forgets the pending reads. -/
def daemonStep (daemon : Daemon) : DaemonAction → Daemon
  | .data bytes => handleData daemon bytes
  | .error text => { daemon with connectionError := some text, messageResolvers := 0 }
  | .close => { daemon with closed := true, messageResolvers := 0 }
  | .turn => turn daemon

/-- The socket is closed or has failed. -/
def Daemon.isGone (daemon : Daemon) : Bool := daemon.closed || daemon.connectionError.isSome

def dataEvents (actions : List DaemonAction) : List (List UInt8) :=
  actions.filterMap fun action =>
    match action with
    | .data bytes => some bytes
    | _ => none

def askedRequests (messages : List Json) : List Json :=
  (messages.takeWhile fun message => !isShutdown message).filterMap requestPayload

/-! ### What is asked for -/

theorem askedRequests_append_of_shutdown {messages : List Json}
    (ended : ∃ message ∈ messages, isShutdown message = true) (rest : List Json) :
    askedRequests (messages ++ rest) = askedRequests messages := by
  obtain ⟨message, member, shutdown⟩ := ended
  unfold askedRequests
  rw [List.takeWhile_append, if_neg]
  intro whole
  have all := List.takeWhile_eq_self_iff.mp
    (List.IsPrefix.eq_of_length (List.takeWhile_prefix _) whole) message member
  rw [shutdown] at all
  exact Bool.false_ne_true all

theorem askedRequests_append {messages : List Json}
    (going : ∀ message ∈ messages, isShutdown message = false) (rest : List Json) :
    askedRequests (messages ++ rest) = messages.filterMap requestPayload ++ askedRequests rest := by
  grind [askedRequests, List.takeWhile_append_of_pos]

theorem askedRequests_of_going {messages : List Json}
    (going : ∀ message ∈ messages, isShutdown message = false) :
    askedRequests messages = messages.filterMap requestPayload := by
  have appended := askedRequests_append going []
  rw [List.append_nil] at appended
  rw [appended]
  exact List.append_nil _

theorem requestPayload_of_isShutdown {message : Json} (shutdown : isShutdown message = true) :
    requestPayload message = none := by
  unfold isShutdown at shutdown
  unfold requestPayload
  grind

/-! ### What holds in every run -/

def LoopPhase.underWay : LoopPhase → List Json
  | .resolved message => [message]
  | _ => []

def LoopPhase.hasLeft : LoopPhase → Bool
  | .left => true
  | _ => false

def isObject : Json → Bool
  | .obj _ => true
  | _ => false

theorem isFalsyJson_of_isObject {message : Json} (object : isObject message = true) :
    isFalsyJson message = false := by
  cases message with
  | obj fields => rfl
  | null => exact absurd object Bool.false_ne_true
  | bool value => exact absurd object Bool.false_ne_true
  | num literal => exact absurd object Bool.false_ne_true
  | str text => exact absurd object Bool.false_ne_true
  | arr items => exact absurd object Bool.false_ne_true

/-- Every message is taken, under way or queued, in the order of its arrival; what was taken
is dispatched up to a shutdown; a read is pending only where nothing is queued. -/
structure DaemonSound (received : List Json) (daemon : Daemon) : Prop where
  received : received = daemon.taken ++ (daemon.phase.underWay ++ daemon.messageQueue)
  dispatches : daemon.dispatched = askedRequests daemon.taken
  going : daemon.phase.hasLeft = false →
    ∀ message ∈ daemon.taken, isShutdown message = false
  single : daemon.messageResolvers ≤ 1
  waits : 0 < daemon.messageResolvers → daemon.phase = .pending ∧ daemon.messageQueue = []
  gone : daemon.isGone = true → daemon.messageResolvers = 0

theorem daemonSound_start : DaemonSound [] Daemon.start where
  received := rfl
  dispatches := rfl
  going := fun _ _ member => absurd member List.not_mem_nil
  single := Nat.zero_le 1
  waits := fun pending => absurd pending (by decide)
  gone := fun _ => rfl

/-- A message that arrives goes to the pending read or behind the queue. -/
theorem DaemonSound.deliver {received : List Json} {daemon : Daemon}
    (sound : DaemonSound received daemon) (message : Json) :
    DaemonSound (received ++ [message]) (deliverMessage daemon message) := by
  have accounted := sound.received
  unfold deliverMessage
  by_cases pending : 0 < daemon.messageResolvers
  · obtain ⟨waiting, empty⟩ := sound.waits pending
    have none : daemon.messageResolvers - 1 = 0 := by
      have single := sound.single
      omega
    rw [waiting, empty] at accounted
    rw [if_pos pending]
    exact {
      received := by
        rw [accounted, empty]
        simp [LoopPhase.underWay]
      dispatches := sound.dispatches
      going := fun _ => sound.going (by rw [waiting]; rfl)
      single := by
        dsimp only
        omega
      waits := fun more => absurd more (by dsimp only; omega)
      gone := fun _ => none }
  · rw [if_neg pending]
    exact {
      received := by
        rw [accounted, List.append_assoc, List.append_assoc]
      dispatches := sound.dispatches
      going := sound.going
      single := sound.single
      waits := fun more => absurd more pending
      gone := sound.gone }

theorem DaemonSound.deliverAll {received : List Json} {daemon : Daemon}
    (sound : DaemonSound received daemon) (messages : List Json) :
    DaemonSound (received ++ messages) (messages.foldl deliverMessage daemon) := by
  induction messages generalizing received daemon with
  | nil =>
      rw [List.append_nil]
      exact sound
  | cons message rest inductionHypothesis =>
      have next := inductionHypothesis (sound.deliver message)
      rw [List.append_assoc] at next
      exact next

/-- The loop takes the next message; it leaves on a shutdown or on the text of an error. -/
theorem DaemonSound.consume {received : List Json} {daemon : Daemon} {message : Json}
    (accounted : received = daemon.taken ++ (message :: daemon.messageQueue))
    (dispatches : daemon.dispatched = askedRequests daemon.taken)
    (going : ∀ message ∈ daemon.taken, isShutdown message = false)
    (idle : daemon.messageResolvers = 0) :
    DaemonSound received (consume daemon message) := by
  have taken : received = daemon.taken ++ [message] ++ daemon.messageQueue := by
    rw [accounted, List.append_assoc, List.singleton_append]
  have asked : askedRequests (daemon.taken ++ [message]) =
      daemon.dispatched ++ (requestPayload message).toList := by
    rw [askedRequests_append going, dispatches, askedRequests_of_going going]
    cases shutdown : isShutdown message with
    | true =>
        rw [requestPayload_of_isShutdown shutdown, askedRequests,
          List.takeWhile_cons_of_neg (by rw [shutdown]; decide)]
        rfl
    | false =>
        rw [askedRequests, List.takeWhile_cons_of_pos (by rw [shutdown]; rfl)]
        cases payload : requestPayload message with
        | none => rw [List.takeWhile_nil, List.filterMap_cons_none payload]; rfl
        | some value => rw [List.takeWhile_nil, List.filterMap_cons_some payload]; rfl
  have others : isShutdown message = false →
      ∀ other ∈ daemon.taken ++ [message], isShutdown other = false := by
    intro going' other member
    rcases List.mem_append.mp member with before | last
    · exact going other before
    · rw [List.mem_singleton.mp last]
      exact going'
  unfold Worker.consume
  cases shutdown : isShutdown message with
  | true =>
      rw [if_pos rfl]
      rw [requestPayload_of_isShutdown shutdown] at asked
      exact {
        received := taken
        dispatches := by rw [asked]; exact (List.append_nil _).symm
        going := fun stays => Bool.noConfusion stays
        single := by dsimp only; omega
        waits := fun more => absurd more (by dsimp only; omega)
        gone := fun _ => idle }
  | false =>
      rw [if_neg Bool.false_ne_true]
      cases payload : requestPayload message with
      | some value =>
          rw [payload] at asked
          exact {
            received := taken
            dispatches := asked.symm
            going := fun _ => others shutdown
            single := by dsimp only; omega
            waits := fun more => absurd more (by dsimp only; omega)
            gone := fun _ => idle }
      | none =>
          rw [payload] at asked
          unfold catchPipeError
          exact {
            received := by
              dsimp only
              split
              · exact taken
              · exact taken
            dispatches := by rw [asked]; exact (List.append_nil _).symm
            going := fun _ => others shutdown
            single := by dsimp only; omega
            waits := fun more => absurd more (by dsimp only; omega)
            gone := fun _ => idle }

/-- A loop that is not waiting has no read pending. -/
theorem DaemonSound.idle {received : List Json} {daemon : Daemon}
    (sound : DaemonSound received daemon) (awake : daemon.phase ≠ .pending) :
    daemon.messageResolvers = 0 := by
  grind [sound.waits]

/-- A read that throws leaves everything but the phase. -/
theorem DaemonSound.catchPipeError {received : List Json} {daemon : Daemon}
    (sound : DaemonSound received daemon) (reading : daemon.phase = .reading) (text : String) :
    DaemonSound received (catchPipeError daemon text) := by
  have idle := sound.idle (by rw [reading]; nofun)
  have accounted := sound.received
  rw [reading] at accounted
  unfold Worker.catchPipeError
  exact {
    received := by
      dsimp only
      split
      · exact accounted
      · exact accounted
    dispatches := sound.dispatches
    going := fun _ => sound.going (by rw [reading]; rfl)
    single := sound.single
    waits := fun more => absurd more (by dsimp only; omega)
    gone := fun _ => idle }

theorem DaemonSound.turn {received : List Json} {daemon : Daemon}
    (sound : DaemonSound received daemon)
    (objects : ∀ message ∈ received, isObject message = true) :
    DaemonSound received (turn daemon) := by
  have accounted := sound.received
  unfold Worker.turn
  cases phase : daemon.phase with
  | pending => exact sound
  | left => exact sound
  | resolved message =>
      have idle := sound.idle (by rw [phase]; nofun)
      rw [phase] at accounted
      exact DaemonSound.consume accounted sound.dispatches
        (sound.going (by rw [phase]; rfl)) idle
  | reading =>
      have idle := sound.idle (by rw [phase]; nofun)
      have going := sound.going (by rw [phase]; rfl)
      dsimp only
      unfold readMessage
      cases failed : daemon.connectionError with
      | some error => exact sound.catchPipeError phase error
      | none =>
          cases closed : daemon.closed with
          | true =>
              rw [if_pos rfl]
              exact sound.catchPipeError phase "Socket is closed"
          | false =>
              rw [if_neg Bool.false_ne_true]
              have present : daemon.isGone = false := by
                unfold Daemon.isGone
                rw [failed, closed]
                rfl
              rw [phase] at accounted
              cases queue : daemon.messageQueue with
              | nil =>
                  rw [queue] at accounted
                  exact {
                    received := by
                      rw [accounted]
                      show _ = daemon.taken ++ ([] ++ daemon.messageQueue)
                      rw [queue]
                      rfl
                    dispatches := sound.dispatches
                    going := fun _ => going
                    single := by
                      show daemon.messageResolvers + 1 ≤ 1
                      omega
                    waits := fun _ => ⟨rfl, queue⟩
                    gone := fun isGone => by
                      have same : daemon.isGone = true := isGone
                      rw [present] at same
                      exact Bool.noConfusion same }
              | cons message rest =>
                  rw [queue] at accounted
                  have object : isObject message = true := by
                    simp [objects, accounted]
                  dsimp only
                  rw [isFalsyJson_of_isObject object, if_neg Bool.false_ne_true]
                  exact DaemonSound.consume accounted sound.dispatches going idle

/-- A read that is pending when the socket ends is forgotten. -/
theorem DaemonSound.forgetReads {received : List Json} {daemon : Daemon}
    (sound : DaemonSound received daemon) (error : Option String) (closed : Bool) :
    DaemonSound received
      { daemon with connectionError := error, closed := closed, messageResolvers := 0 } where
  received := sound.received
  dispatches := sound.dispatches
  going := sound.going
  single := Nat.zero_le 1
  waits := fun more => absurd more (Nat.lt_irrefl 0)
  gone := fun _ => rfl

/-! ### The lines of a run -/

theorem deliverMessage_lines (daemon : Daemon) (message : Json) :
    (deliverMessage daemon message).lines = daemon.lines := by
  unfold deliverMessage
  split
  · rfl
  · rfl

theorem foldl_deliverMessage_lines (messages : List Json) (daemon : Daemon) :
    (messages.foldl deliverMessage daemon).lines = daemon.lines := by
  induction messages generalizing daemon with
  | nil => rfl
  | cons message rest inductionHypothesis =>
      rw [List.foldl_cons, inductionHypothesis, deliverMessage_lines]

theorem consume_lines (daemon : Daemon) (message : Json) :
    (consume daemon message).lines = daemon.lines := by
  unfold consume
  split
  · rfl
  · split
    · rfl
    · rfl

theorem turn_lines (daemon : Daemon) : (turn daemon).lines = daemon.lines := by
  unfold turn
  split
  · unfold readMessage
    split
    · rfl
    · split
      · rfl
      · split
        · rfl
        · split
          · rfl
          · exact consume_lines _ _
  · rfl
  · exact consume_lines _ _
  · rfl

theorem handleData_lines (daemon : Daemon) (bytes : List UInt8) :
    (handleData daemon bytes).lines = daemon.lines.onData takeMessage bytes :=
  foldl_deliverMessage_lines _ _

theorem run_lines (actions : List DaemonAction) (daemon : Daemon) :
    (run daemonStep daemon actions).lines =
      (dataEvents actions).foldl (LineReader.onData takeMessage) daemon.lines := by
  induction actions generalizing daemon with
  | nil => rfl
  | cons action rest inductionHypothesis =>
      rw [run_cons, inductionHypothesis]
      cases action with
      | data bytes =>
          simp [dataEvents, daemonStep, handleData_lines]
      | error text => rfl
      | close => rfl
      | turn =>
          show _ = (dataEvents rest).foldl _ daemon.lines
          rw [daemonStep, turn_lines]

theorem run_delivered (actions : List DaemonAction) :
    (run daemonStep Daemon.start actions).lines.delivered =
      socketReaderHandleData (dataEvents actions) := by
  rw [run_lines]
  rfl

/-- A step keeps the account, as long as every message is an object. -/
theorem daemonSound_step {daemon : Daemon} (action : DaemonAction)
    (sound : (∀ message ∈ daemon.lines.delivered, isObject message = true) →
      DaemonSound daemon.lines.delivered daemon)
    (objects : ∀ message ∈ (daemonStep daemon action).lines.delivered, isObject message = true) :
    DaemonSound (daemonStep daemon action).lines.delivered (daemonStep daemon action) := by
  cases action with
  | data bytes =>
      rw [daemonStep, handleData_lines] at objects ⊢
      have before := sound fun message member =>
        objects message (List.mem_append_left _ member)
      have carried : DaemonSound daemon.lines.delivered
          { daemon with lines := daemon.lines.onData takeMessage bytes } :=
        ⟨before.received, before.dispatches, before.going, before.single, before.waits,
          before.gone⟩
      exact carried.deliverAll _
  | error text => exact (sound objects).forgetReads (some text) daemon.closed
  | close => exact (sound objects).forgetReads daemon.connectionError true
  | turn =>
      rw [daemonStep, turn_lines] at objects ⊢
      exact (sound objects).turn objects

theorem daemonSound_run {actions : List DaemonAction}
    (objects : ∀ message ∈ socketReaderHandleData (dataEvents actions),
      isObject message = true) :
    DaemonSound (socketReaderHandleData (dataEvents actions))
      (run daemonStep Daemon.start actions) := by
  have kept := @run_invariant _ _ daemonStep
    (fun daemon => (∀ message ∈ daemon.lines.delivered, isObject message = true) →
      DaemonSound daemon.lines.delivered daemon)
    (fun _ action sound => daemonSound_step action sound) Daemon.start
    (fun _ => daemonSound_start) actions
  rw [run_delivered] at kept
  exact kept objects

/-! ### The end of the host -/

/-- After finitely many turns the loop has left, and what was asked for is dispatched. -/
def LeavesDone (asked : List Json) (daemon : Daemon) : Prop :=
  ∃ turns : Nat, (turn^[turns] daemon).phase.hasLeft = true ∧
    (turn^[turns] daemon).dispatched = asked

/-- The error that reads throw has the text the loop leaves on. -/
def failsWithPipeClosed (daemon : Daemon) : Bool :=
  match daemon.connectionError with
  | some error => saysPipeClosed error
  | none => false

/-- Once the socket is gone: the loop is not waiting for a read, what it takes next or the
error it stumbles on next makes it leave, and then nothing that was asked for is queued. -/
def EndsWell (daemon : Daemon) : Prop :=
  match daemon.phase with
  | .left => (∃ message ∈ daemon.taken, isShutdown message = true) ∨
      askedRequests daemon.messageQueue = []
  | .pending => False
  | .reading => failsWithPipeClosed daemon = true ∧ askedRequests daemon.messageQueue = []
  | .resolved message => isShutdown message = true ∨
      (requestPayload message = none ∧ saysPipeClosed (refusalText message) = true ∨
        failsWithPipeClosed daemon = true) ∧ askedRequests daemon.messageQueue = []

/-- A daemon whose turns change nothing has done what it ever does. -/
theorem leavesDone_of_fixed {asked : List Json} {daemon : Daemon} (fixed : turn daemon = daemon) :
    LeavesDone asked daemon ↔ daemon.phase.hasLeft = true ∧ daemon.dispatched = asked := by
  have same := Function.iterate_fixed fixed
  constructor
  · rintro ⟨turns, done⟩
    rw [same turns] at done
    exact done
  · intro done
    exact ⟨0, done⟩

/-- While the loop has not left, one turn more or less makes no difference. -/
theorem leavesDone_turn {asked : List Json} {daemon : Daemon}
    (stays : daemon.phase.hasLeft = false) :
    LeavesDone asked daemon ↔ LeavesDone asked (turn daemon) := by
  constructor
  · rintro ⟨turns, left, dispatched⟩
    cases turns with
    | zero =>
        rw [Function.iterate_zero, id, stays] at left
        exact Bool.noConfusion left
    | succ turns => exact ⟨turns, left, dispatched⟩
  · rintro ⟨turns, done⟩
    exact ⟨turns + 1, done⟩

section Gone

variable {received : List Json} {daemon : Daemon} (sound : DaemonSound received daemon)

include sound

/-- A loop that has left dispatches nothing more. -/
theorem leavesDone_left (left : daemon.phase = .left) :
    LeavesDone (askedRequests received) daemon ↔ EndsWell daemon := by
  have fixed : turn daemon = daemon := by
    rw [turn, left]
  have accounted := sound.received
  rw [left] at accounted
  rw [leavesDone_of_fixed fixed, left, EndsWell, left, sound.dispatches, accounted]
  have hasLeft : LoopPhase.left.hasLeft = true := rfl
  rw [and_iff_right hasLeft]
  show askedRequests daemon.taken = askedRequests (daemon.taken ++ daemon.messageQueue) ↔
    (∃ message ∈ daemon.taken, isShutdown message = true) ∨ askedRequests daemon.messageQueue = []
  by_cases ended : ∃ message ∈ daemon.taken, isShutdown message = true
  · rw [askedRequests_append_of_shutdown ended]
    exact iff_of_true rfl (Or.inl ended)
  · have going : ∀ message ∈ daemon.taken, isShutdown message = false :=
      fun message member => Bool.eq_false_iff.mpr fun shutdown => ended ⟨message, member, shutdown⟩
    rw [askedRequests_append going, askedRequests_of_going going, List.self_eq_append_right]
    exact ⟨Or.inr, fun either => either.resolve_left ended⟩

omit sound in
/-- A read that is pending is never resolved. -/
theorem leavesDone_pending {asked : List Json} (waiting : daemon.phase = .pending) :
    LeavesDone asked daemon ↔ EndsWell daemon := by
  have fixed : turn daemon = daemon := by
    rw [turn, waiting]
  rw [leavesDone_of_fixed fixed, EndsWell, waiting]
  exact iff_of_false (fun done => Bool.noConfusion done.1) id

/-- Reads throw at once: the loop leaves on the text, or goes round for ever. -/
theorem leavesDone_reading (isGone : daemon.isGone = true) (reading : daemon.phase = .reading) :
    LeavesDone (askedRequests received) daemon ↔ EndsWell daemon := by
  have going := sound.going (by rw [reading]; rfl)
  have throws : turn daemon =
      catchPipeError daemon (daemon.connectionError.getD "Socket is closed") := by
    unfold turn readMessage
    rw [reading]
    cases failed : daemon.connectionError with
    | some error => rfl
    | none =>
        have closed : daemon.closed = true := by
          grind [Daemon.isGone]
        rw [closed, if_pos rfl]
        rfl
  have sameText : saysPipeClosed (daemon.connectionError.getD "Socket is closed") =
      failsWithPipeClosed daemon := by
    unfold failsWithPipeClosed
    cases daemon.connectionError with
    | some error => rfl
    | none => decide
  rw [EndsWell, reading]
  cases leaves : failsWithPipeClosed daemon with
  | true =>
      have next : turn daemon = { daemon with phase := .left } := by
        rw [throws, catchPipeError, sameText, leaves]
        rfl
      have stays : daemon.phase.hasLeft = false := by rw [reading]; rfl
      have soundNext : DaemonSound received (turn daemon) := by
        rw [throws]
        exact sound.catchPipeError reading _
      rw [leavesDone_turn stays, leavesDone_left soundNext (by rw [next]), next]
      show (∃ message ∈ daemon.taken, isShutdown message = true) ∨ _ ↔ _
      constructor
      · rintro (⟨message, member, shutdown⟩ | empty)
        · grind
        · exact ⟨rfl, empty⟩
      · intro both
        exact Or.inr both.2
  | false =>
      have fixed : turn daemon = daemon := by
        rw [throws, catchPipeError, sameText, leaves]
        cases daemon
        cases reading
        rfl
      rw [leavesDone_of_fixed fixed, reading]
      exact iff_of_false (fun done => Bool.noConfusion done.1) fun both => Bool.noConfusion both.1

theorem leavesDone_resolved (isGone : daemon.isGone = true) {message : Json}
    (resolved : daemon.phase = .resolved message) :
    LeavesDone (askedRequests received) daemon ↔ EndsWell daemon := by
  have stays : daemon.phase.hasLeft = false := by rw [resolved]; rfl
  have going := sound.going stays
  have next : turn daemon = consume daemon message := by
    rw [turn, resolved]
  have accounted := sound.received
  rw [resolved] at accounted
  have soundNext : DaemonSound received (consume daemon message) :=
    DaemonSound.consume accounted sound.dispatches going (sound.idle (by rw [resolved]; nofun))
  rw [leavesDone_turn stays, next, EndsWell, resolved]
  dsimp only
  unfold consume at soundNext ⊢
  cases shutdown : isShutdown message with
  | true =>
      rw [shutdown, if_pos rfl] at soundNext
      rw [if_pos rfl, leavesDone_left soundNext rfl]
      refine iff_of_true (Or.inl ⟨message, ?_, shutdown⟩) (Or.inl rfl)
      exact List.mem_append_right _ List.mem_cons_self
  | false =>
      rw [shutdown, if_neg Bool.false_ne_true] at soundNext
      rw [if_neg Bool.false_ne_true]
      cases payload : requestPayload message with
      | some value =>
          rw [payload] at soundNext
          rw [leavesDone_reading soundNext isGone rfl]
          show failsWithPipeClosed daemon = true ∧ _ ↔ _
          simp
      | none =>
          rw [payload] at soundNext
          unfold catchPipeError at soundNext ⊢
          cases leaves : saysPipeClosed (refusalText message) with
          | true =>
              rw [leaves, if_pos rfl] at soundNext
              rw [if_pos rfl, leavesDone_left soundNext rfl]
              show (∃ other ∈ daemon.taken ++ [message], isShutdown other = true) ∨ _ ↔ _
              have unended : ¬ ∃ other ∈ daemon.taken ++ [message], isShutdown other = true := by
                rintro ⟨other, member, ends⟩
                rcases List.mem_append.mp member with before | last
                · grind
                · grind
              rw [or_iff_right unended]
              simp
          | false =>
              rw [leaves, if_neg Bool.false_ne_true] at soundNext
              rw [if_neg Bool.false_ne_true, leavesDone_reading soundNext isGone rfl]
              show failsWithPipeClosed daemon = true ∧ _ ↔ _
              simp

end Gone

/-- **The end of the daemon.** In every run of a socket on which objects arrive, once the
socket is closed or has failed, the loop goes on to leave with everything dispatched that was
asked for just where the state it is in ends well. -/
theorem leavesDone_iff (actions : List DaemonAction)
    (objects : ∀ message ∈ socketReaderHandleData (dataEvents actions),
      isObject message = true)
    (gone : (run daemonStep Daemon.start actions).isGone = true) :
    LeavesDone (askedRequests (socketReaderHandleData (dataEvents actions)))
        (run daemonStep Daemon.start actions) ↔
      EndsWell (run daemonStep Daemon.start actions) := by
  have sound := daemonSound_run objects
  cases phase : (run daemonStep Daemon.start actions).phase with
  | reading => exact leavesDone_reading sound gone phase
  | pending => exact leavesDone_pending phase
  | resolved message => exact leavesDone_resolved sound gone phase
  | left => exact leavesDone_left sound phase

/-- A socket that fails with the text the loop looks for. -/
theorem leavesDone_iff_failed :
    LeavesDone (askedRequests (socketReaderHandleData (dataEvents [.error "Pipe closed"])))
        (run daemonStep Daemon.start [.error "Pipe closed"]) ↔
      EndsWell (run daemonStep Daemon.start [.error "Pipe closed"]) :=
  leavesDone_iff [.error "Pipe closed"] (fun _ member => absurd member List.not_mem_nil) rfl

/-- The socket is closed while the first read is pending, or ahead of the first read: the
loop waits for ever, or it goes round for ever. -/
theorem not_leavesDone :
    ¬ LeavesDone (askedRequests (socketReaderHandleData (dataEvents [.turn, .close])))
        (run daemonStep Daemon.start [.turn, .close]) ∧
      ¬ LeavesDone (askedRequests (socketReaderHandleData (dataEvents [.close])))
        (run daemonStep Daemon.start [.close]) := by
  constructor
  · intro done
    exact (leavesDone_pending rfl).mp done
  · intro done
    have sound := @daemonSound_run [.close] fun _ member => absurd member List.not_mem_nil
    have ends := (leavesDone_reading sound rfl rfl).mp done
    exact Bool.noConfusion ends.1

end Lombok.Worker
