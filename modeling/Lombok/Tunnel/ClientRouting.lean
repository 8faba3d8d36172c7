import Lombok.Tunnel.BinaryRouting
import Lombok.Tunnel.PendingRequests

/-!
Contract: whom a session answers, and for whom it asks.

Owns what each client's own messages leave waiting for a body, what a session
does for a message as if its client were the only one, and whom the messages
and payloads of the agent are delivered to.

Three pieces of state are shared by all clients of a session: the body the
server waits for, the client that was attached last, and the stream ids.
-/

namespace Lombok.Tunnel

open Lombok.Core
open Lombok.Library
open Lombok.Library.Framing

/-! ### Messages of the agent -/

def nameOf (streamId : String) : Option String := if streamId = "" then none else some streamId

/-- The stream that a message is about, if it is one that is passed on to clients. -/
def subject (value : Json) : Option String :=
  match envelope value with
  | .httpResponse streamId _ _ => nameOf streamId
  | .wsData streamId _ => nameOf streamId
  | .streamClose streamId _ => nameOf streamId
  | .bodyChunk streamId => nameOf streamId
  | .bodyEnd streamId => nameOf streamId
  | .other =>
      match value with
      | .obj fields =>
          if textField fields "type" = some "ws_upgrade_ack" then
            (textField fields "stream_id").bind nameOf
          else none
      | _ => none

/-- The stream whose payload is the next frame of the agent, as the message itself says. -/
def bodyOf (value : Json) : Option String :=
  match envelope value with
  | .httpResponse streamId _ true => nameOf streamId
  | .wsData streamId true => nameOf streamId
  | .bodyChunk streamId => nameOf streamId
  | _ => none

/-- What a client is handed; one that is no WebSocket gets nothing. -/
def deliveredTo (client : Option Client) (item : Sent) : List (Client × Sent) :=
  (client.toList.filter Client.isSocket).map fun client => (client, item)

/-! ### Clients and their messages -/

/-- A session, the request each client's own messages leave waiting for its body, and the message
that the next frame of the agent stands behind. -/
structure Exchange where
  handler : SessionHandler
  awaiting : Client → Option PendingRequestBody
  told : Option Json

namespace SessionHandler

/-- The message is read by the server. -/
def reads (handler : SessionHandler) (client : Client) : Bool :=
  handler.managed && decide (client ∈ handler.clients) && handler.session.protocol == .framed

end SessionHandler

/-- What a message leaves waiting for a body. -/
def stillAwaited (held : Option PendingRequestBody) (client : Client) (message : ClientMessage) :
    Option PendingRequestBody :=
  match serverCall held client message with
  | .awaitBody pending => some pending
  | _ =>
      match message with
      | .text _ => held
      | .buffer _ => none

def Exchange.ownCall (exchange : Exchange) (client : Client) (message : ClientMessage) :
    ServerCall :=
  serverCall (exchange.awaiting client) client message

def exchangeStep (unread : String → Nat → Nat) (exchange : Exchange) (input : HandlerInput) :
    Exchange where
  handler := handlerStep unread exchange.handler input
  awaiting :=
    match input with
    | .message client message =>
        if exchange.handler.reads client then
          Function.update exchange.awaiting client
            (stillAwaited (exchange.awaiting client) client message)
        else exchange.awaiting
    | _ => exchange.awaiting
  told :=
    match input with
    | .agentText value => some value
    | .agentBinary _ => none
    | _ => exchange.told

def newExchange (protocol : TunnelProtocol) (max : Nat) : Exchange where
  handler := newSessionHandler protocol max
  awaiting := fun _ => none
  told := none

/-! ### What is right -/

/-- Nothing is sent to a client, and nothing to the agent in the name of one. -/
structure Silent (before after : SessionHandler) : Prop where
  sent : after.sent = before.sent
  operations : after.operations = before.operations

/-- A request that is taken is sent on with its own body, under a stream of its client; one over
the limit is answered to its client. -/
structure Requested (client : Client) (streamId : String) (req : HTTPRequestMsg)
    (body : Option Bytes) (before after : SessionHandler) : Prop where
  refused : before.session.isReady = false → Silent before after
  limited : before.session.isReady = true → before.session.acquire = none →
    after.operations = before.operations ∧ ∃ reply, reply.streamId = streamId ∧
      reply.statusCode = 429 ∧ after.sent = before.sent ++ deliveredTo client (.limited reply)
  taken : before.session.isReady = true → before.session.acquire.isSome = true →
    after.sent = before.sent ∧
      after.operations = before.operations ++ [.proxyHTTPRequest streamId req body] ∧
      ∃ index, after.streams.get? streamId = some ⟨client, .http index, client⟩

structure Upgraded (client : Client) (streamId : String) (msg : WSUpgradeMsg)
    (before after : SessionHandler) : Prop where
  refused : before.session.isReady = false → Silent before after
  taken : before.session.isReady = true → after.sent = before.sent ∧
    after.operations = before.operations ++ [.proxyWSUpgrade streamId msg] ∧
      after.streams.get? streamId = some ⟨client, .ws, client⟩

/-- A `ws_data` envelope is no payload: nothing is forwarded for it. -/
def Served (client : Client) (call : ServerCall) (before after : SessionHandler) : Prop :=
  match call with
  | .proxyHTTPRequest _ streamId req body => Requested client streamId req body before after
  | .proxyWSUpgrade streamId msg => Upgraded client streamId msg before after
  | .forwardWSData _ _ => Silent before after
  | .awaitBody _ => Silent before after
  | .nothing => Silent before after

/-- The client that asked for the stream is handed the item, and nobody else. -/
structure Answered (streamId : Option String) (item : Sent) (before after : SessionHandler) :
    Prop where
  sent : after.sent = before.sent ++
    deliveredTo ((streamId.bind before.streams.get?).map StreamEntry.asker) item
  operations : after.operations = before.operations

/-- The requests that were sent to the agent in the name of clients. -/
def clientRequests (handler : SessionHandler) : List Operation :=
  handler.operations.filter fun operation =>
    match operation with
    | .proxyHTTPRequest _ _ _ => true
    | _ => false

/-- What a step sends, to clients and for them. -/
def Exchanged (exchange : Exchange) (input : HandlerInput) (after : SessionHandler) : Prop :=
  match input with
  | .message client message =>
      if exchange.handler.reads client then
        Served client (exchange.ownCall client message) exchange.handler after
      else Silent exchange.handler after
  | .tunnelMessage streamId data =>
      after.sent = exchange.handler.sent ∧ (exchange.handler.session.isReady = true →
        after.operations = exchange.handler.operations ++ [.forwardWSData streamId data])
  | .agentText value => Answered (subject value) (.text value) exchange.handler after
  | .agentBinary data =>
      ∀ streamId, exchange.told.bind bodyOf = some streamId →
        Answered (some streamId) (.payload data) exchange.handler after
  | _ =>
      after.sent = exchange.handler.sent ∧
        clientRequests after = clientRequests exchange.handler

def ServerCall.opens (call : ServerCall) (streamId : String) : Prop :=
  match call with
  | .proxyHTTPRequest _ other _ _ => other = streamId
  | .proxyWSUpgrade other _ => other = streamId
  | _ => False

def Opens (exchange : Exchange) (input : HandlerInput) (streamId : String) (asker : Client) :
    Prop :=
  match input with
  | .message client message => asker = client ∧ (exchange.ownCall client message).opens streamId
  | .tunnelOpen client other _ => asker = client ∧ other = streamId
  | _ => False

/-- The streams that a step may end: those of a client that goes away or uses their id again, the
one that a message of the agent is about, and all of them in teardown. -/
def Ends (exchange : Exchange) (input : HandlerInput) (streamId : String) (asker : Client) :
    Prop :=
  match input with
  | .message client message => asker = client ∧ (exchange.ownCall client message).opens streamId
  | .detach client => asker = client
  | .agentText value => subject value = some streamId
  | .teardownWritten => True
  | .teardownKilled => True
  | _ => False

/-- A step answers the client that asked, asks for each client what it asked for, and leaves the
streams of the others alone. -/
structure Unbiased (unread : String → Nat → Nat) (exchange : Exchange) (input : HandlerInput) :
    Prop where
  exchanged : Exchanged exchange input (handlerStep unread exchange.handler input)
  opened : ∀ streamId entry,
    (handlerStep unread exchange.handler input).streams.get? streamId = some entry →
      exchange.handler.streams.get? streamId = some entry ∨
        Opens exchange input streamId entry.asker
  kept : ∀ streamId entry, exchange.handler.streams.get? streamId = some entry →
    ¬Ends exchange input streamId entry.asker →
      (handlerStep unread exchange.handler input).streams.get? streamId = some entry

/-! ### When it is -/

namespace SessionHandler

/-- The id belongs to no pending response and to no stream of another client. -/
def isFree (handler : SessionHandler) (client : Client) (streamId : String) : Bool :=
  (handler.bridge.pending streamId).isNone &&
    (handler.streams.get? streamId).all fun entry => entry.asker == client

def usesBody (handler : SessionHandler) (client : Client) (message : ClientMessage) : Bool :=
  match message, serverCall handler.pendingRequestBody client message with
  | .buffer _, _ => true
  | .text _, .awaitBody _ => true
  | .text _, _ => false

/-- No other client's body is awaited, the request comes from the client attached last and under a
free id, and what is sent is no `ws_data`. -/
def servesApart (handler : SessionHandler) (client : Client) (message : ClientMessage) : Bool :=
  (handler.pendingRequestBody.all fun held =>
      held.asker == client || !handler.usesBody client message) &&
    match serverCall handler.pendingRequestBody client message with
    | .proxyHTTPRequest _ streamId _ _ =>
        !handler.session.isReady || handler.clients.getLast? == some client &&
          (handler.session.acquire.isNone || handler.isFree client streamId)
    | .proxyWSUpgrade streamId _ => !handler.session.isReady || handler.isFree client streamId
    | .forwardWSData _ _ => !handler.session.isReady
    | _ => true

def takesPayload (handler : SessionHandler) (streamId : String) : Bool :=
  (handler.bridge.pending streamId).any fun entry => entry.streaming || entry.expectingBinary

/-- A payload for what is still there is the one expected, and one for what is gone finds no
WebSocket attached and nothing else expected. -/
def payloadExpected (handler : SessionHandler) (streamId : String) : Bool :=
  if handler.takesPayload streamId || handler.streams.has streamId then
    handler.next == some streamId
  else handler.next.all (fun other => other == streamId) &&
    handler.clients.all fun client => !client.isSocket

end SessionHandler

/-- Clients that stay out of each other's way, and an agent that sends each payload for what is
there. -/
def Exchange.apart (exchange : Exchange) (input : HandlerInput) : Bool :=
  match input with
  | .message client message =>
      !exchange.handler.reads client || exchange.handler.servesApart client message
  | .agentBinary _ => (exchange.told.bind bodyOf).all exchange.handler.payloadExpected
  | _ => true

/-! ### Steps that open no stream -/

/-- What is delivered, and the streams that may be gone afterwards. -/
structure Moves (delivered : List (Client × Sent)) (ends : String → Client → Prop)
    (before after : SessionHandler) : Prop where
  sent : after.sent = before.sent ++ delivered
  operations : after.operations = before.operations
  body : after.pendingRequestBody = before.pendingRequestBody
  opened : ∀ streamId entry, after.streams.get? streamId = some entry →
    before.streams.get? streamId = some entry
  kept : ∀ streamId entry, before.streams.get? streamId = some entry →
    ¬ends streamId entry.asker → after.streams.get? streamId = some entry
  pending : ∀ streamId, before.bridge.pending streamId = none →
    after.bridge.pending streamId = none

namespace Moves

variable {before middle after : SessionHandler} {delivered later : List (Client × Sent)}
  {ends : String → Client → Prop} {handler : SessionHandler}

theorem of_same (sent : after.sent = before.sent ++ delivered)
    (operations : after.operations = before.operations)
    (body : after.pendingRequestBody = before.pendingRequestBody)
    (streams : after.streams = before.streams)
    (pending : ∀ streamId, before.bridge.pending streamId = none →
      after.bridge.pending streamId = none) : Moves delivered ends before after where
  sent := sent
  operations := operations
  body := body
  opened := by
    intro streamId entry held
    rw [← streams]
    exact held
  kept := by
    intro streamId entry held _
    rw [streams]
    exact held
  pending := pending

theorem refl (handler : SessionHandler) : Moves [] ends handler handler :=
  of_same (List.append_nil _).symm rfl rfl rfl fun _ none => none

theorem trans (first : Moves delivered ends before middle)
    (second : Moves later ends middle after) :
    Moves (delivered ++ later) ends before after where
  sent := by rw [second.sent, first.sent, List.append_assoc]
  operations := second.operations.trans first.operations
  body := second.body.trans first.body
  opened streamId entry held := first.opened streamId entry (second.opened streamId entry held)
  kept := by
    grind [second.kept, first.kept]
  pending streamId none := second.pending streamId (first.pending streamId none)

/-- A step behind which nothing more is delivered. -/
theorem then_silent (first : Moves delivered ends before middle)
    (second : Moves [] ends middle after) :
    Moves delivered ends before after := by
  have both := first.trans second
  rw [List.append_nil] at both
  exact both

theorem after_silent (first : Moves [] ends before middle)
    (second : Moves delivered ends middle after) :
    Moves delivered ends before after := first.trans second

theorem imp {more : String → Client → Prop} (moves : Moves delivered ends before after)
    (implies : ∀ streamId asker, ends streamId asker → more streamId asker) :
    Moves delivered more before after :=
  { moves with
    kept := fun streamId entry held notEnded =>
      moves.kept streamId entry held fun ended => notEnded (implies streamId entry.asker ended) }

theorem foldl {α : Type} {step : SessionHandler → α → SessionHandler}
    (moves : ∀ handler item, Moves [] ends handler (step handler item)) (items : List α)
    (handler : SessionHandler) : Moves [] ends handler (items.foldl step handler) := by
  induction items generalizing handler with
  | nil => exact refl handler
  | cons item rest inductionHypothesis =>
      exact (moves handler item).then_silent (inductionHypothesis _)

theorem send (handler : SessionHandler) (client : Client) (item : Sent) :
    Moves (deliveredTo (some client) item) ends handler (handler.send client item) := by
  cases client with
  | socket id => exact of_same rfl rfl rfl rfl fun _ none => none
  | sentinel id => exact refl handler

theorem release (handler : SessionHandler) (request : Nat) :
    Moves [] ends handler (handler.release request) :=
  of_same (List.append_nil _).symm rfl rfl rfl fun _ none => none

theorem releaseStream (handler : SessionHandler) (entry : StreamEntry) :
    Moves [] ends handler (handler.releaseStream entry) := by
  grind [SessionHandler.releaseStream, release, refl]

theorem releasePending (handler : SessionHandler) (streamId : String) :
    Moves [] ends handler (handler.releasePending streamId) := by
  grind [SessionHandler.releasePending, refl, release]

theorem settle (handler : SessionHandler) (streamId : String) (outcome : Outcome) :
    Moves [] ends handler (handler.settle streamId outcome) :=
  of_same (List.append_nil _).symm rfl rfl rfl fun _ none => none

theorem turn {streamId : String} {bridge : Bridge}
    (turns : Bridge.Turns streamId handler.bridge bridge) :
    Moves [] ends handler { handler with bridge := bridge } := by
  have pending : ∀ other, handler.bridge.pending other = none → bridge.pending other = none := by
    intro other none
    by_cases same : other = streamId
    · subst same
      cases pending : bridge.pending other with
      | none => rfl
      | some entry =>
          grind [turns.kept]
    · exact (turns.others other same).trans none
  exact of_same (List.append_nil _).symm rfl rfl rfl pending

theorem removePending (handler : SessionHandler) (streamId reason : String) :
    Moves [] ends handler (handler.removePending streamId reason) :=
  turn (Bridge.Turns.put_none _)

theorem fail (handler : SessionHandler) (streamId reason : String) :
    Moves [] ends handler (handler.fail streamId reason) :=
  (removePending handler streamId reason).then_silent (settle _ _ _)

theorem endWriting (handler : SessionHandler) (request : Nat) :
    Moves [] ends handler (handler.endWriting request) :=
  of_same (List.append_nil _).symm rfl rfl rfl fun _ none => none

theorem removeStream (handler : SessionHandler) {streamId : String}
    (ended : ∀ entry, handler.streams.get? streamId = some entry → ends streamId entry.asker) :
    Moves [] ends handler (handler.removeStream streamId) where
  sent := (List.append_nil _).symm
  operations := rfl
  body := rfl
  opened := by
    intro other entry held
    change (handler.streams.delete streamId).get? other = some entry at held
    rw [OrderedMap.get?_delete] at held
    split at held
    · cases held
    · exact held
  kept := by
    intro other entry held notEnded
    show (handler.streams.delete streamId).get? other = some entry
    rw [OrderedMap.get?_delete]
    grind
  pending _ none := none

end Moves

/-! ### Messages of the agent -/

/-- A stream delivers to the client that asked for it, and is under the id of no pending
response. -/
structure Owned (handler : SessionHandler) : Prop where
  asker : ∀ streamId entry, handler.streams.get? streamId = some entry → entry.ws = entry.asker
  free : ∀ streamId entry, handler.streams.get? streamId = some entry →
    handler.bridge.pending streamId = none

def handed (handler : SessionHandler) (streamId : String) (item : Sent) : List (Client × Sent) :=
  deliveredTo ((handler.streams.get? streamId).map StreamEntry.asker) item

def About (streamId : String) (other : String) (_ : Client) : Prop := streamId = other

namespace Owned

variable {handler : SessionHandler} {streamId : String}

theorem unserved (owned : Owned handler) {entry : Pending}
    (pending : handler.bridge.pending streamId = some entry) :
    handler.streams.get? streamId = none := by
  cases held : handler.streams.get? streamId with
  | none => rfl
  | some stream =>
      rw [owned.free streamId stream held] at pending
      cases pending

/-- What a pending response takes is delivered to no client. -/
theorem handed_pending (owned : Owned handler) {entry : Pending}
    (pending : handler.bridge.pending streamId = some entry) (item : Sent) :
    handed handler streamId item = [] := by
  rw [handed, owned.unserved pending]
  rfl

theorem send (owned : Owned handler) {ends : String → Client → Prop} {entry : StreamEntry}
    (held : handler.streams.get? streamId = some entry) (item : Sent) :
    Moves (handed handler streamId item) ends handler (handler.send entry.ws item) := by
  grind [handed, Moves.send, owned.asker]

theorem handed_none (gone : handler.streams.get? streamId = none) (item : Sent) :
    handed handler streamId item = [] := by
  rw [handed, gone]
  rfl

theorem forwardToClient (owned : Owned handler) {ends : String → Client → Prop} (value : Json)
    (streamId : String) :
    Moves (handed handler streamId (.text value)) ends handler
      (handler.forwardToClient value streamId) := by
  grind [SessionHandler.forwardToClient, handed_none, Moves.refl, owned.send]

theorem forwardLast (owned : Owned handler) (value : Json) (streamId : String) :
    Moves (handed handler streamId (.text value)) (About streamId) handler
      (handler.forwardLast value streamId) := by
  unfold SessionHandler.forwardLast
  split
  · rename_i gone
    rw [handed_none gone]
    exact Moves.refl handler
  · rename_i entry held
    apply (owned.send held (.text value)).then_silent
    apply (Moves.releaseStream _ entry).then_silent
    apply Moves.removeStream
    intro _ _
    rfl

/-- A pending response is turned, its promise settled and its slot given back. -/
theorem settled (owned : Owned handler) {ends : String → Client → Prop} {entry : Pending}
    (pending : handler.bridge.pending streamId = some entry) {bridge : Bridge}
    (turns : Bridge.Turns streamId handler.bridge bridge) (outcome : Outcome) (item : Sent) :
    Moves (handed handler streamId item) ends handler
      ((({ handler with bridge := bridge }).settle streamId outcome).releasePending streamId) := by
  rw [owned.handed_pending pending]
  exact ((Moves.turn turns).then_silent (Moves.settle _ streamId outcome)).then_silent
    (Moves.releasePending _ streamId)

theorem handleHTTPResponse (owned : Owned handler) (value : Json) (streamId : String) (head : Head)
    (bodyFollows : Bool) :
    Moves (handed handler streamId (.text value)) (About streamId) handler
      (handler.handleHTTPResponse value streamId head bodyFollows) := by
  have turns : Bridge.Turns streamId handler.bridge
      (Tunnel.handleHTTPResponse handler.bridge streamId head bodyFollows) :=
    Bridge.Turns.handleHTTPResponse head bodyFollows
  unfold SessionHandler.handleHTTPResponse
  cases pending : handler.bridge.pending streamId with
  | some entry =>
      dsimp only
      split
      · rw [owned.handed_pending pending]
        split
        · exact (Moves.turn turns).then_silent (Moves.settle _ streamId .resolved)
        · exact Moves.turn turns
      · exact owned.settled pending turns .resolved (.text value)
  | none =>
      grind [owned.forwardToClient, owned.forwardLast]

theorem handleWSData (owned : Owned handler) {ends : String → Client → Prop} (value : Json)
    (streamId : String) (bodyFollows : Bool) :
    Moves (handed handler streamId (.text value)) ends handler
      (handler.handleWSData value streamId bodyFollows) := by
  have turns : Bridge.Turns streamId handler.bridge
      (Tunnel.handleWSData handler.bridge streamId bodyFollows) := by
    exact Bridge.Turns.ite (Bridge.Turns.refl.expect streamId) Bridge.Turns.refl
  have told : Owned
      { handler with bridge := Tunnel.handleWSData handler.bridge streamId bodyFollows } := by
    have moves := @Moves.turn (About streamId) handler streamId _ turns
    exact ⟨owned.asker, fun other entry held => moves.pending other (owned.free other entry held)⟩
  exact (Moves.turn turns).after_silent (told.forwardToClient value streamId)

theorem handleStreamClose (owned : Owned handler) (value : Json) (streamId : String)
    (reason : Option String) :
    Moves (handed handler streamId (.text value)) (About streamId) handler
      (handler.handleStreamClose value streamId reason) := by
  grind [SessionHandler.handleStreamClose, Bridge.Turns.handleStreamClose, owned.settled,
    owned.forwardLast]

theorem handleBodyChunk (owned : Owned handler) {ends : String → Client → Prop} (value : Json)
    (streamId : String) :
    Moves (handed handler streamId (.text value)) ends handler
      (handler.handleBodyChunk value streamId) := by
  unfold SessionHandler.handleBodyChunk
  cases pending : handler.bridge.pending streamId with
  | some entry =>
      rw [owned.handed_pending pending]
      exact Moves.turn Bridge.Turns.handleBodyChunk
  | none =>
      dsimp only
      split
      · rename_i gone
        rw [handed_none gone]
        exact Moves.refl handler
      · rename_i entry held
        have turns : Bridge.Turns streamId handler.bridge (handler.bridge.expect streamId) :=
          Bridge.Turns.refl.expect streamId
        apply (Moves.turn turns).after_silent
        grind [handed, Moves.send, owned.asker]

theorem handleBodyEnd (owned : Owned handler) (value : Json) (streamId : String) :
    Moves (handed handler streamId (.text value)) (About streamId) handler
      (handler.handleBodyEnd value streamId) := by
  have turns : Bridge.Turns streamId handler.bridge
      (Tunnel.handleBodyEnd handler.bridge streamId) :=
    Bridge.Turns.handleBodyEnd
  unfold SessionHandler.handleBodyEnd
  cases pending : handler.bridge.pending streamId with
  | some entry =>
      dsimp only
      split
      · rw [owned.handed_pending pending]
        exact (Moves.turn turns).then_silent (Moves.releasePending _ streamId)
      · exact owned.settled pending turns .resolved (.text value)
  | none =>
      grind [handed_none, Moves.refl, owned.forwardToClient, owned.forwardLast]

def EndedBy (value : Json) (streamId : String) (_ : Client) : Prop := subject value = some streamId

theorem of_subject {value : Json} {after : SessionHandler} (isSubject :
    subject value = nameOf streamId)
    (moves : Moves (handed handler streamId (.text value)) (About streamId) handler after) :
    Moves (deliveredTo (((subject value).bind handler.streams.get?).map StreamEntry.asker)
      (.text value)) (EndedBy value) handler (if streamId = "" then handler else after) := by
  rw [isSubject]
  unfold nameOf
  split
  · exact Moves.refl handler
  · rename_i named
    have about : ∀ other asker, About streamId other asker → EndedBy value other asker := by
      intro other asker same
      cases same
      show subject value = some streamId
      rw [isSubject]
      exact if_neg named
    exact moves.imp about

theorem handleOther (owned : Owned handler) {value : Json} (other : envelope value = .other) :
    Moves (deliveredTo (((subject value).bind handler.streams.get?).map StreamEntry.asker)
      (.text value)) (EndedBy value) handler (handler.handleOther value) := by
  have silent (unnamed : subject value = none) {after : SessionHandler}
      (same : Moves [] (EndedBy value) handler after) :
      Moves (deliveredTo (((subject value).bind handler.streams.get?).map StreamEntry.asker)
        (.text value)) (EndedBy value) handler after := by
    rw [unnamed]
    exact same
  cases value with
  | obj fields =>
      have isSubject : subject (.obj fields) =
          if textField fields "type" = some "ws_upgrade_ack" then
            (textField fields "stream_id").bind nameOf
          else none := by
        rw [subject, other]
      unfold SessionHandler.handleOther SessionHandler.messageType
      dsimp only
      split
      · rename_i ready
        rw [ready, if_neg (by decide)] at isSubject
        exact silent isSubject (Moves.of_same (List.append_nil _).symm rfl rfl rfl
          fun _ none => none)
      · split
        · rename_i acknowledges
          rw [if_pos acknowledges] at isSubject
          split
          · rename_i streamId names
            rw [names] at isSubject
            exact of_subject isSubject (owned.forwardToClient _ streamId)
          · grind [Moves.refl]
        · rename_i otherType
          rw [if_neg otherType] at isSubject
          exact silent isSubject (Moves.refl handler)
  | _ =>
      have unnamed : ∀ value : Json, envelope value = .other → (∀ fields, value ≠ .obj fields) →
          subject value = none := by
        intro value isOther notObject
        unfold subject
        grind
      exact silent (unnamed _ other (fun _ same => by cases same)) (Moves.refl handler)

/-- A message of the agent is handed to the client that asked for the stream it is about. -/
theorem handleAgentMessage (owned : Owned handler) (value : Json) :
    Moves (deliveredTo (((subject value).bind handler.streams.get?).map StreamEntry.asker)
      (.text value)) (EndedBy value) handler (handler.handleAgentMessage value) := by
  unfold SessionHandler.handleAgentMessage
  cases envelops : envelope value with
  | httpResponse streamId head bodyFollows =>
      apply of_subject
      · unfold subject
        rw [envelops]
      · exact owned.handleHTTPResponse value streamId head bodyFollows
  | wsData streamId bodyFollows =>
      apply of_subject
      · unfold subject
        rw [envelops]
      · exact owned.handleWSData value streamId bodyFollows
  | streamClose streamId reason =>
      apply of_subject
      · unfold subject
        rw [envelops]
      · exact owned.handleStreamClose value streamId reason
  | bodyChunk streamId =>
      apply of_subject
      · unfold subject
        rw [envelops]
      · exact owned.handleBodyChunk value streamId
  | bodyEnd streamId =>
      apply of_subject
      · unfold subject
        rw [envelops]
      · exact owned.handleBodyEnd value streamId
  | other => exact owned.handleOther envelops

/-! ### Payloads of the agent -/

theorem broadcast_silent {ends : String → Client → Prop}
    (nobody : handler.clients.all (fun client => !client.isSocket) = true) (data : Bytes) :
    Moves [] ends handler (handler.broadcast data) := by
  unfold SessionHandler.broadcast
  have sentinels : ∀ client ∈ handler.clients, client.isSocket = false := by
    grind
  have same : handler.clients.foldl (fun handler client => handler.send client (.payload data))
      handler = handler := by
    generalize handler.clients = clients at sentinels
    induction clients with
    | nil => rfl
    | cons client rest inductionHypothesis =>
        have skips : handler.send client (.payload data) = handler := by
          cases client with
          | socket id => cases sentinels (.socket id) (List.mem_cons_self ..)
          | sentinel id => rfl
        grind
  rw [same]
  exact Moves.refl handler

/-- What is expected next is forgotten. -/
theorem forgets {ends : String → Client → Prop} (handler : SessionHandler) :
    Moves [] ends handler
      { handler with bridge := { handler.bridge with nextBinaryStreamId := none } } :=
  Moves.of_same (List.append_nil _).symm rfl rfl rfl fun _ none => none

/-- A payload that a pending response takes. -/
theorem taken_silent (owned : Owned handler) {ends : String → Client → Prop} {entry : Pending}
    (pending : handler.bridge.pending streamId = some entry)
    (takes : entry.streaming = true ∨ entry.expectingBinary = true)
    (expected : handler.bridge.nextBinaryStreamId = some streamId) (unread : String → Nat → Nat)
    (data : Bytes) :
    Moves (handed handler streamId (.payload data)) ends handler
      (handler.handleAgentBinary unread data) := by
  have turns : Bridge.Turns streamId handler.bridge (handlePayload
      { handler.bridge with nextBinaryStreamId := none } streamId unread data) := by
    have forgot := @Bridge.Turns.handlePayload
      { handler.bridge with nextBinaryStreamId := none } streamId unread data
    exact ⟨forgot.others, forgot.kept⟩
  have turned := @Moves.turn ends handler streamId _ turns
  rw [SessionHandler.handleAgentBinary, owned.handed_pending pending, expected]
  dsimp only
  rw [pending]
  dsimp only
  rw [if_pos takes]
  split
  · exact turned
  · exact turned.then_silent (Moves.releasePending _ streamId)

/-- A payload that no pending response takes goes to the stream it is expected for. -/
theorem refused_eq (expected : handler.bridge.nextBinaryStreamId = some streamId)
    (refuses : handler.takesPayload streamId = false) (unread : String → Nat → Nat)
    (data : Bytes) :
    handler.handleAgentBinary unread data = SessionHandler.sendPayload
      { handler with bridge := { handler.bridge with nextBinaryStreamId := none } } streamId
        data := by
  grind [SessionHandler.takesPayload, SessionHandler.handleAgentBinary]

/-- Whom a payload is handed to, when it comes for what is still there or nobody is attached. -/
theorem handleAgentBinary (owned : Owned handler) {ends : String → Client → Prop}
    (expected : handler.payloadExpected streamId = true) (unread : String → Nat → Nat)
    (data : Bytes) :
    Moves (handed handler streamId (.payload data)) ends handler
      (handler.handleAgentBinary unread data) := by
  have forgot : Moves [] ends handler
      { handler with bridge := { handler.bridge with nextBinaryStreamId := none } } :=
          forgets handler
  unfold SessionHandler.payloadExpected at expected
  by_cases takes : handler.takesPayload streamId = true
  · rw [takes, Bool.true_or, if_pos rfl] at expected
    have next : handler.bridge.nextBinaryStreamId = some streamId := eq_of_beq expected
    unfold SessionHandler.takesPayload at takes
    cases pending : handler.bridge.pending streamId with
    | none =>
        rw [pending] at takes
        cases takes
    | some entry =>
        grind [owned.taken_silent]
  · rw [Bool.not_eq_true] at takes
    rw [takes, Bool.false_or] at expected
    by_cases serves : handler.streams.has streamId = true
    · rw [if_pos serves] at expected
      have next : handler.bridge.nextBinaryStreamId = some streamId := eq_of_beq expected
      obtain ⟨entry, held⟩ := Option.isSome_iff_exists.mp serves
      have held' : handler.streams.get? streamId = some entry := held
      rw [refused_eq next takes]
      grind [SessionHandler.sendPayload, handed, Moves.send, forgot.after_silent, owned.asker]
    · rw [if_neg serves, Bool.and_eq_true] at expected
      have gone : handler.streams.get? streamId = none := by
        cases held : handler.streams.get? streamId with
        | none => rfl
        | some entry => exact absurd (Option.isSome_iff_exists.mpr ⟨entry, held⟩) serves
      rw [handed_none gone]
      cases next : handler.bridge.nextBinaryStreamId with
      | none =>
          rw [SessionHandler.handleAgentBinary, next]
          exact broadcast_silent expected.2 data
      | some other =>
          have same : other = streamId := by
            have isNext : handler.next = some other := next
            grind
          rw [same] at next
          rw [refused_eq next takes]
          simp [SessionHandler.sendPayload, broadcast_silent, forgot.then_silent, gone, expected]

end Owned

/-! ### The other steps -/

theorem Owned.moves {before after : SessionHandler} {delivered : List (Client × Sent)}
    {ends : String → Client → Prop} (owned : Owned before)
    (moves : Moves delivered ends before after) : Owned after where
  asker streamId entry held := owned.asker streamId entry (moves.opened streamId entry held)
  free streamId entry held :=
    moves.pending streamId (owned.free streamId entry (moves.opened streamId entry held))

namespace Moves

variable {handler : SessionHandler} {ends : String → Client → Prop}

theorem broadcast (handler : SessionHandler) (data : Bytes) :
    ∃ delivered, Moves delivered ends handler (handler.broadcast data) := by
  unfold SessionHandler.broadcast
  generalize handler.clients = clients
  induction clients generalizing handler with
  | nil => exact ⟨[], refl handler⟩
  | cons client rest inductionHypothesis =>
      obtain ⟨delivered, moves⟩ := inductionHypothesis (handler.send client (.payload data))
      exact ⟨_, (send handler client (.payload data)).trans moves⟩

theorem sendPayload (handler : SessionHandler) (streamId : String) (data : Bytes) :
    ∃ delivered, Moves delivered ends handler (handler.sendPayload streamId data) := by
  unfold SessionHandler.sendPayload
  split
  · rename_i entry _
    exact ⟨_, send handler entry.ws (.payload data)⟩
  · exact broadcast handler data

/-- Whatever a payload is, no stream ends with it. -/
theorem handleAgentBinary (handler : SessionHandler) (unread : String → Nat → Nat) (data : Bytes) :
    ∃ delivered, Moves delivered ends handler (handler.handleAgentBinary unread data) := by
  unfold SessionHandler.handleAgentBinary
  split
  · exact broadcast handler data
  · rename_i streamId _
    have forgot : Moves [] ends handler
        { handler with bridge := { handler.bridge with nextBinaryStreamId := none } } :=
      Owned.forgets handler
    have sends := @sendPayload ends
      { handler with bridge := { handler.bridge with nextBinaryStreamId := none } } streamId data
    obtain ⟨delivered, sent⟩ := sends
    dsimp only
    split
    · split
      · have turns : Bridge.Turns streamId handler.bridge (handlePayload
            { handler.bridge with nextBinaryStreamId := none } streamId unread data) := by
          have forgotten := @Bridge.Turns.handlePayload
            { handler.bridge with nextBinaryStreamId := none } streamId unread data
          exact ⟨forgotten.others, forgotten.kept⟩
        have turned := @turn ends handler streamId _ turns
        split
        · exact ⟨_, turned⟩
        · exact ⟨_, turned.then_silent (releasePending _ streamId)⟩
      · exact ⟨_, forgot.after_silent sent⟩
    · exact ⟨_, forgot.after_silent sent⟩

theorem attach (handler : SessionHandler) (client : Client) :
    Moves [] ends handler (handler.attach client) := by
  unfold SessionHandler.attach
  grind [of_same]

theorem timeout (handler : SessionHandler) (streamId : String) :
    Moves [] ends handler (handler.timeout streamId) := by
  unfold SessionHandler.timeout
  split
  · exact refl handler
  · split
    · exact refl handler
    · exact (fail handler streamId _).then_silent (releasePending _ _)

theorem cancel (handler : SessionHandler) (streamId : String) :
    Moves [] ends handler (handler.cancel streamId) := by
  unfold SessionHandler.cancel
  split
  · exact refl handler
  · split
    · exact (removePending handler streamId _).then_silent (releasePending _ _)
    · exact refl handler

theorem writeFails (handler : SessionHandler) (request : Nat) (error : String) :
    Moves [] ends handler (handler.writeFails request error) := by
  unfold SessionHandler.writeFails
  split
  · exact refl handler
  · rename_i held _
    split
    · exact refl handler
    · apply (endWriting handler request).then_silent
      cases held.kind with
      | client => exact of_same (List.append_nil _).symm rfl rfl rfl fun _ none => none
      | direct =>
          dsimp only
          split
          · exact release _ request
          · exact (fail _ held.streamId error).then_silent (release _ request)
      | streaming =>
          dsimp only
          split
          · exact refl _
          · exact (fail _ held.streamId error).then_silent (releasePending _ _)

theorem rejectAll (handler : SessionHandler) : Moves [] ends handler handler.rejectAll := by
  apply foldl
  intro handler streamId
  unfold SessionHandler.rejectPending
  split
  · exact refl handler
  · exact (fail handler streamId _).then_silent (releasePending _ _)

theorem dropStreams (handler : SessionHandler) :
    Moves [] (fun _ _ => True) handler { handler with streams := .empty } where
  sent := (List.append_nil _).symm
  operations := rfl
  body := rfl
  opened := nofun
  kept _ _ _ notEnded := absurd trivial notEnded
  pending _ none := none

theorem teardownWritten (handler : SessionHandler) :
    Moves [] (fun _ _ => True) handler handler.teardownWritten := by
  unfold SessionHandler.teardownWritten
  split
  · exact refl handler
  · apply (dropStreams handler).then_silent
    exact of_same (List.append_nil _).symm rfl rfl rfl fun _ none => none

theorem teardownKilled (handler : SessionHandler) :
    Moves [] (fun _ _ => True) handler handler.teardownKilled := by
  unfold SessionHandler.teardownKilled
  split
  · exact refl handler
  · split
    · apply (rejectAll handler).then_silent
      apply (dropStreams handler.rejectAll).then_silent
      exact of_same (List.append_nil _).symm rfl rfl rfl fun _ none => none
    · exact of_same (List.append_nil _).symm rfl rfl rfl fun _ none => none

theorem execEnds (handler : SessionHandler) : Moves [] ends handler handler.execEnds := by
  have closes : Moves [] ends handler handler.teardown := by
    grind [SessionHandler.teardown, of_same]
  unfold SessionHandler.execEnds
  split
  · exact refl handler
  · split
    · unfold SessionHandler.handleExecEnd
      split
      · exact refl handler
      · exact of_same (List.append_nil _).symm rfl rfl rfl fun _ none => none
    · split
      · exact refl handler
      · exact closes

end Moves

/-- A client that goes away ends the streams it asked for. -/
theorem Owned.detach {handler : SessionHandler} (owned : Owned handler) (client : Client) :
    Moves [] (fun _ asker => asker = client) handler (handler.detach client) := by
  have each (streamIds : List String) (left : SessionHandler) (leftOwned : Owned left) :
      Moves [] (fun _ asker => asker = client) left
        (streamIds.foldl (SessionHandler.detachStream client) left) := by
    induction streamIds generalizing left with
    | nil => exact Moves.refl left
    | cons streamId rest inductionHypothesis =>
        have one : Moves [] (fun _ asker => asker = client) left
            (SessionHandler.detachStream client left streamId) := by
          unfold SessionHandler.detachStream
          split
          · exact Moves.refl left
          · rename_i entry held
            split
            · rename_i isClient
              apply (Moves.releaseStream left entry).then_silent
              apply Moves.removeStream
              intro found isFound
              have sameStreams : (left.releaseStream entry).streams = left.streams := by
                unfold SessionHandler.releaseStream
                cases entry.kind <;> rfl
              grind [leftOwned.asker]
            · exact Moves.refl left
        exact one.then_silent (inductionHypothesis _ (leftOwned.moves one))
  have leaves : Moves [] (fun _ asker => asker = client) handler
      { handler with clients := handler.clients.filter fun other => other != client } :=
    Moves.of_same (List.append_nil _).symm rfl rfl rfl fun _ none => none
  grind [SessionHandler.detach, leaves.then_silent, owned.moves]

/-! ### Messages of clients -/

/-- What a step that opens streams for a client does to the streams. -/
structure Placed (client : Client) (opens : String → Prop) (before after : SessionHandler) :
    Prop where
  owned : Owned after
  opened : ∀ streamId entry, after.streams.get? streamId = some entry →
    before.streams.get? streamId = some entry ∨ entry.asker = client ∧ opens streamId
  kept : ∀ streamId entry, before.streams.get? streamId = some entry →
    ¬(entry.asker = client ∧ opens streamId) → after.streams.get? streamId = some entry

namespace Placed

variable {before left after : SessionHandler} {client : Client} {opens : String → Prop}

theorem of_same (owned : Owned before) (streams : after.streams = before.streams)
    (pending : after.bridge.pending = before.bridge.pending) :
        Placed client opens before after where
  owned := by
    constructor
    · rw [streams]
      exact owned.asker
    · rw [streams, pending]
      exact owned.free
  opened := by
    grind
  kept := by
    intro streamId entry held _
    rw [streams]
    exact held

theorem of_set (owned : Owned before) {streamId : String} {kind : StreamKind}
    (streams : after.streams = before.streams.set streamId ⟨client, kind, client⟩)
    (pending : after.bridge.pending = before.bridge.pending)
    (free : before.isFree client streamId = true) (isOpened : opens streamId) :
    Placed client opens before after := by
  rw [SessionHandler.isFree, Bool.and_eq_true, Option.isNone_iff_eq_none] at free
  constructor
  · constructor
    · intro other entry held
      rw [streams, OrderedMap.get?_set] at held
      grind [owned.asker]
    · intro other entry held
      rw [pending]
      rw [streams, OrderedMap.get?_set] at held
      grind [owned.free]
  · intro other entry held
    rw [streams, OrderedMap.get?_set] at held
    grind
  · intro other entry held notOpened
    rw [streams, OrderedMap.get?_set]
    split
    · rename_i same
      subst same
      have own := free.2
      grind
    · exact held

theorem of_left (placed : Placed client opens left after) (streams :
    left.streams = before.streams) :
    Placed client opens before after where
  owned := placed.owned
  opened := by
    rw [← streams]
    exact placed.opened
  kept := by
    rw [← streams]
    exact placed.kept

end Placed

/-- The parts of a session that what is sent depends on. -/
structure SameAccount (before left : SessionHandler) : Prop where
  session : left.session = before.session
  sent : left.sent = before.sent
  operations : left.operations = before.operations

theorem proxyHTTPRequest_ready {session : Session} (ready : session.isReady = true)
    (streamId : String) (req : HTTPRequestMsg) (body : Option Bytes) :
    Tunnel.proxyHTTPRequest session streamId req body =
      match session.acquire with
      | none => .ok (.limited ⟨streamId, 429, [("Retry-After", "1")], false⟩)
      | some acquired =>
          .ok (.sent acquired
            (requestFrames (requestMessage streamId req (body.getD [])) (body.getD []))) := by
  rw [Session.isReady, Bool.and_eq_true, Bool.and_eq_true] at ready
  have framed : session.protocol = .framed := eq_of_beq ready.1.1
  grind [Tunnel.proxyHTTPRequest]

theorem proxyHTTPRequest_notReady {session : Session} (notReady : session.isReady = false)
    (streamId : String) (req : HTTPRequestMsg) (body : Option Bytes) :
    ∃ error, Tunnel.proxyHTTPRequest session streamId req body = .error error := by
  unfold Tunnel.proxyHTTPRequest
  by_cases framed : session.protocol = .framed
  · rw [if_neg (not_not_intro framed)]
    have waits : (!session.hasExecStream || !session.agentReady) = true := by
      grind [Session.isReady]
    rw [if_pos waits]
    exact ⟨_, rfl⟩
  · rw [if_pos framed]
    exact ⟨_, rfl⟩

namespace Owned

variable {before left : SessionHandler} {client : Client}

theorem requested (owned : Owned left) (same : SameAccount before left) {streamId : String}
    (req : HTTPRequestMsg) (body : Option Bytes)
    (last : before.session.isReady = true → left.clients.getLast? = some client)
    (free : before.session.isReady = true → before.session.acquire.isSome = true →
      left.isFree client streamId = true) :
    Requested client streamId req body before
        (left.proxyHTTPRequest client streamId req body) ∧
      Placed client (fun other => streamId = other) left
        (left.proxyHTTPRequest client streamId req body) := by
  cases ready : before.session.isReady with
  | false =>
      have leftReady : left.session.isReady = false := by
        rw [same.session]
        exact ready
      obtain ⟨error, refuses⟩ := proxyHTTPRequest_notReady leftReady streamId req body
      have unchanged : left.proxyHTTPRequest client streamId req body = left := by
        rw [SessionHandler.proxyHTTPRequest, refuses]
        cases left.clients.getLast? <;> rfl
      rw [unchanged]
      constructor
      · constructor
        · exact fun _ => ⟨same.sent, same.operations⟩
        · simp [ready]
        · simp [ready]
      · exact Placed.of_same owned rfl rfl
  | true =>
      have leftReady : left.session.isReady = true := by
        rw [same.session]
        exact ready
      have proxied := proxyHTTPRequest_ready leftReady streamId req body
      rw [same.session] at proxied
      have isLast := last ready
      cases acquires : before.session.acquire with
      | none =>
          rw [acquires] at proxied
          have limits : left.proxyHTTPRequest client streamId req body = left.send client
              (.limited ⟨streamId, 429, [("Retry-After", "1")], false⟩) := by
            rw [SessionHandler.proxyHTTPRequest, isLast, same.session, proxied]
          have moves := @Moves.send (fun _ _ => False) left client
            (.limited ⟨streamId, 429, [("Retry-After", "1")], false⟩)
          rw [limits]
          constructor
          · constructor
            · simp [ready]
            · intro _ _
              refine ⟨moves.operations.trans same.operations,
                ⟨streamId, 429, [("Retry-After", "1")], false⟩, rfl, rfl, ?_⟩
              rw [moves.sent, same.sent]
            · simp [acquires]
          · constructor
            · exact owned.moves moves
            · exact fun other entry held => .inl (moves.opened other entry held)
            · exact fun other entry held _ => moves.kept other entry held id
      | some acquired =>
          rw [acquires] at proxied
          have isFree := free ready (by rw [acquires]; rfl)
          have takes : left.proxyHTTPRequest client streamId req body =
              { left with
                session := acquired
                streams := left.streams.set streamId
                  ⟨client, .http left.requests.length, client⟩
                requests := left.requests ++ [newRequest streamId .client]
                operations := left.operations ++ [.proxyHTTPRequest streamId req body] } := by
            rw [SessionHandler.proxyHTTPRequest, isLast, same.session, proxied]
          rw [takes]
          constructor
          · constructor
            · simp [ready]
            · simp [acquires]
            · simp [same.sent, same.operations]
          · exact Placed.of_set owned rfl rfl isFree rfl

theorem upgraded (owned : Owned left) (same : SameAccount before left) {streamId : String}
    (msg : WSUpgradeMsg)
    (free : before.session.isReady = true → left.isFree client streamId = true) :
    Upgraded client streamId msg before (left.proxyWSUpgrade client streamId msg) ∧
      Placed client (fun other => streamId = other) left
        (left.proxyWSUpgrade client streamId msg) := by
  rw [SessionHandler.proxyWSUpgrade, same.session]
  cases ready : before.session.isReady with
  | false =>
      constructor
      · constructor
        · exact fun _ => ⟨same.sent, same.operations⟩
        · simp [ready]
      · exact Placed.of_same owned rfl rfl
  | true =>
      constructor
      · constructor
        · simp [ready]
        · simp [same.sent, same.operations]
      · exact Placed.of_set owned rfl rfl (free ready) rfl

end Owned

/-! ### Each client as if it were the only one -/

/-- What a client has left waiting, as the session sees it. -/
def ownPart (held : Option PendingRequestBody) (client : Client) : Option PendingRequestBody :=
  held.filter fun pending => pending.asker == client

namespace SessionHandler

variable {handler : SessionHandler} {client : Client} {message : ClientMessage}

theorem own_of_usesBody (apart : handler.servesApart client message = true)
    (uses : handler.usesBody client message = true) {held : PendingRequestBody}
    (isHeld : handler.pendingRequestBody = some held) : held.asker = client := by
  grind [servesApart]

theorem ownPart_self {held : PendingRequestBody} (isOwn : held.asker = client) :
    ownPart (some held) client = some held := by
  rw [ownPart, Option.filter_some, isOwn, beq_self_eq_true, if_pos rfl]

theorem ownPart_other {held : PendingRequestBody} (notOwn : held.asker ≠ client) :
    ownPart (some held) client = none := by
  rw [ownPart, Option.filter_some, beq_false_of_ne notOwn, if_neg Bool.false_ne_true]

theorem serverCall_own (apart : handler.servesApart client message = true) :
    serverCall (ownPart handler.pendingRequestBody client) client message =
      serverCall handler.pendingRequestBody client message := by
  cases held : handler.pendingRequestBody with
  | none => rfl
  | some pending =>
      by_cases isOwn : pending.asker = client
      · rw [ownPart_self isOwn]
      · cases message with
        | text text => rfl
        | buffer data => exact absurd (own_of_usesBody apart rfl held) isOwn

theorem asker_of_envelopeCall {raw : Bytes} {envelope : ClientEnvelope} {asker : Client}
    {streamId : String} {req : HTTPRequestMsg} {body : Option Bytes}
    (call : envelopeCall client raw envelope = .proxyHTTPRequest asker streamId req body) :
    asker = client := by
  unfold envelopeCall at call
  grind

theorem asker_of_awaitBody {raw : Bytes} {envelope : ClientEnvelope} {pending : PendingRequestBody}
    (call : envelopeCall client raw envelope = .awaitBody pending) : pending.asker = client := by
  unfold envelopeCall at call
  grind

/-- A request is the client's own. -/
theorem asker_of_serverCall (apart : handler.servesApart client message = true) {asker : Client}
    {streamId : String} {req : HTTPRequestMsg} {body : Option Bytes}
    (call : serverCall handler.pendingRequestBody client message =
      .proxyHTTPRequest asker streamId req body) : asker = client := by
  cases message with
  | text text => exact asker_of_envelopeCall call
  | buffer data =>
      cases held : handler.pendingRequestBody with
      | some pending =>
          have isOwn := own_of_usesBody apart rfl held
          rw [held] at call
          cases call
          exact isOwn
      | none =>
          grind [serverCall, asker_of_envelopeCall]

/-- A body that comes to be awaited is the client's own. -/
theorem asker_of_awaits {pending : PendingRequestBody}
    (call : serverCall handler.pendingRequestBody client message = .awaitBody pending) :
    pending.asker = client := by
  cases message with
  | text text => exact asker_of_awaitBody call
  | buffer data =>
      unfold serverCall at call
      grind [asker_of_awaitBody]

theorem pendingRequestBody_handleMessage (handler : SessionHandler) (client : Client)
    (message : ClientMessage) :
    (handler.handleMessage client message).pendingRequestBody =
      stillAwaited handler.pendingRequestBody client message := by
  have proxied (left : SessionHandler) (asker : Client) (streamId : String) (req : HTTPRequestMsg)
      (body : Option Bytes) :
      (left.proxyHTTPRequest asker streamId req body).pendingRequestBody =
        left.pendingRequestBody := by
    rcases proxyHTTPRequest_cases left asker streamId req body with ⟨_, same⟩ | ⟨_, _, _, _, same⟩
    · rw [same]
    · rw [same]
  have left : (handler.awaitingAfter message).pendingRequestBody =
      match message with
      | .text _ => handler.pendingRequestBody
      | .buffer _ => none := by
    cases message <;> rfl
  rw [handleMessage_eq]
  unfold stillAwaited
  cases serverCall handler.pendingRequestBody client message with
  | proxyHTTPRequest asker streamId req body => exact (proxied _ _ _ _ _).trans left
  | proxyWSUpgrade streamId msg =>
      apply Eq.trans _ left
      show (SessionHandler.proxyWSUpgrade _ client streamId msg).pendingRequestBody = _
      unfold SessionHandler.proxyWSUpgrade
      split <;> rfl
  | forwardWSData streamId data =>
      apply Eq.trans _ left
      show (SessionHandler.forwardWSData _ streamId data).pendingRequestBody = _
      unfold SessionHandler.forwardWSData
      split <;> rfl
  | awaitBody pending => rfl
  | nothing => exact left

theorem ownPart_stillAwaited (apart : handler.servesApart client message = true)
    (other : Client) :
    Function.update (ownPart handler.pendingRequestBody) client
        (stillAwaited (ownPart handler.pendingRequestBody client) client message) other =
      ownPart (stillAwaited handler.pendingRequestBody client message) other := by
  have nothingElse (uses : handler.usesBody client message = true) (different : other ≠ client) :
      ownPart handler.pendingRequestBody other = none := by
    cases held : handler.pendingRequestBody with
    | none => rfl
    | some pending =>
        grind [own_of_usesBody, ownPart_other]
  by_cases isClient : other = client
  · subst isClient
    rw [Function.update_self]
    unfold stillAwaited
    rw [serverCall_own apart]
    cases call : serverCall handler.pendingRequestBody other message with
    | awaitBody pending => exact (ownPart_self (asker_of_awaits call)).symm
    | _ => cases message <;> rfl
  · rw [Function.update_of_ne isClient]
    unfold stillAwaited
    cases call : serverCall handler.pendingRequestBody client message with
    | awaitBody pending =>
        have uses : handler.usesBody client message = true := by
          unfold usesBody
          rw [call]
          cases message <;> rfl
        grind [ownPart_other, asker_of_awaits]
    | _ =>
        cases message with
        | text text => rfl
        | buffer data => exact nothingElse rfl isClient

/-- A message of a client that keeps out of the others' way is served as if it were the only
one. -/
theorem served (owned : Owned handler) (apart : handler.servesApart client message = true) :
    Served client (serverCall handler.pendingRequestBody client message) handler
        (handler.handleMessage client message) ∧
      Placed client (serverCall handler.pendingRequestBody client message).opens handler
        (handler.handleMessage client message) := by
  have same : SameAccount handler (handler.awaitingAfter message) := by
    cases message <;> exact ⟨rfl, rfl, rfl⟩
  have sameClients : (handler.awaitingAfter message).clients = handler.clients := by
    cases message <;> rfl
  have sameFree (streamId : String) :
      (handler.awaitingAfter message).isFree client streamId = handler.isFree client streamId := by
    cases message <;> rfl
  have sameStreams : (handler.awaitingAfter message).streams = handler.streams := by
    cases message <;> rfl
  have leftOwned : Owned (handler.awaitingAfter message) := by
    cases message with
    | text text => exact owned
    | buffer data => exact ⟨owned.asker, owned.free⟩
  have unchanged {after : SessionHandler} (isLeft : after = handler.awaitingAfter message)
      (opens : String → Prop) : Silent handler after ∧ Placed client opens handler after := by
    rw [isLeft]
    exact ⟨⟨same.sent, same.operations⟩, (Placed.of_same leftOwned rfl rfl).of_left sameStreams⟩
  rw [handleMessage_eq]
  have condition := apart
  rw [servesApart, Bool.and_eq_true] at condition
  have allowed := condition.2
  cases call : serverCall handler.pendingRequestBody client message with
  | proxyHTTPRequest asker streamId req body =>
      have isClient := asker_of_serverCall apart call
      subst isClient
      rw [call] at allowed
      dsimp only at allowed
      have ready (isReady : handler.session.isReady = true) :
          handler.clients.getLast? = some asker ∧ (handler.session.acquire.isSome = true →
            handler.isFree asker streamId = true) := by
        rw [isReady, Bool.not_true, Bool.false_or, Bool.and_eq_true] at allowed
        constructor
        · exact eq_of_beq allowed.1
        · intro acquires
          rcases Bool.or_eq_true_iff.mp allowed.2 with isNone | free
          · grind
          · exact free
      have requests := @Owned.requested handler (handler.awaitingAfter message) asker leftOwned same
        streamId req body
        (fun isReady => (congrArg List.getLast? sameClients).trans (ready isReady).1)
        (fun isReady acquires => (sameFree streamId).trans ((ready isReady).2 acquires))
      exact ⟨requests.1, requests.2.of_left sameStreams⟩
  | proxyWSUpgrade streamId msg =>
      rw [call] at allowed
      dsimp only at allowed
      have free (isReady : handler.session.isReady = true) :
          (handler.awaitingAfter message).isFree client streamId = true := by
        grind
      have upgrades := leftOwned.upgraded same msg free
      exact ⟨upgrades.1, upgrades.2.of_left sameStreams⟩
  | forwardWSData streamId data =>
      rw [call] at allowed
      have notReady : handler.session.isReady = false := by
        rw [← Bool.not_eq_true']
        exact allowed
      apply unchanged
      show SessionHandler.forwardWSData _ streamId data = _
      rw [SessionHandler.forwardWSData, same.session, notReady, if_neg Bool.false_ne_true]
  | awaitBody pending =>
      refine ⟨⟨same.sent, same.operations⟩, ?_⟩
      have placed : Placed client (ServerCall.awaitBody pending).opens
          (handler.awaitingAfter message) ((handler.awaitingAfter message).perform client
            (.awaitBody pending)) := Placed.of_same leftOwned rfl rfl
      exact placed.of_left sameStreams
  | nothing => exact unchanged rfl _

end SessionHandler

/-! ### Runs of apart steps -/

open SessionHandler

/-- The streams belong to those who asked for them, and what the session awaits is what the clients'
own messages leave waiting. -/
structure Sound (exchange : Exchange) : Prop where
  registered : Registered exchange.handler
  owned : Owned exchange.handler
  own : exchange.awaiting = ownPart exchange.handler.pendingRequestBody

namespace Sound

variable {exchange : Exchange} {unread : String → Nat → Nat}

theorem of_moves (sound : Sound exchange) {input : HandlerInput}
    {delivered : List (Client × Sent)} {ends : String → Client → Prop}
    (moves : Moves delivered ends exchange.handler (handlerStep unread exchange.handler input))
    (implies : ∀ streamId asker, ends streamId asker → Ends exchange input streamId asker)
    (quiet : (exchangeStep unread exchange input).awaiting = exchange.awaiting)
    (exchanged : Exchanged exchange input (handlerStep unread exchange.handler input)) :
    Unbiased unread exchange input ∧ Sound (exchangeStep unread exchange input) := by
  constructor
  · constructor
    · exact exchanged
    · exact fun streamId entry held => .inl (moves.opened streamId entry held)
    · exact (moves.imp implies).kept
  · constructor
    · exact Registered.kept unread exchange.handler input sound.registered
    · exact sound.owned.moves moves
    · rw [quiet, sound.own]
      exact congrArg ownPart moves.body.symm

/-- A step of which clients hear nothing, and that no request comes with. -/
theorem of_quiet (sound : Sound exchange) {input : HandlerInput} {ends : String → Client → Prop}
    (moves : Moves [] ends exchange.handler (handlerStep unread exchange.handler input))
    (implies : ∀ streamId asker, ends streamId asker → Ends exchange input streamId asker)
    (quiet : (exchangeStep unread exchange input).awaiting = exchange.awaiting)
    (exchanged : Exchanged exchange input (handlerStep unread exchange.handler input) =
      ((handlerStep unread exchange.handler input).sent = exchange.handler.sent ∧
        clientRequests (handlerStep unread exchange.handler input) =
          clientRequests exchange.handler)) :
    Unbiased unread exchange input ∧ Sound (exchangeStep unread exchange input) := by
  grind [clientRequests, sound.of_moves, moves.sent, moves.operations]

/-- A request of a caller gets a stream id that no client has. -/
theorem admits (sound : Sound exchange) {streamId : String}
    (fresh : exchange.handler.isFresh streamId = true) (kind : RequestKind) {operation : Operation}
    (notClient : clientRequests { exchange.handler with operations := [operation] } = []) :
    let after := exchange.handler.startRequest kind streamId operation
    Owned after ∧ after.sent = exchange.handler.sent ∧ after.streams = exchange.handler.streams ∧
      after.pendingRequestBody = exchange.handler.pendingRequestBody ∧
        clientRequests after = clientRequests exchange.handler := by
  intro after
  have isAfter : after = exchange.handler.startRequest kind streamId operation := rfl
  unfold SessionHandler.startRequest at isAfter
  split at isAfter
  · rw [isAfter]
    exact ⟨sound.owned, rfl, rfl, rfl, rfl⟩
  · rw [isAfter]
    refine ⟨⟨sound.owned.asker, ?_⟩, rfl, rfl, rfl, ?_⟩
    · intro other entry held
      have different : other ≠ streamId := by
        intro same
        rw [SessionHandler.isFresh, Bool.and_eq_true, Bool.not_eq_true'] at fresh
        have has : exchange.handler.streams.has other = true :=
          Option.isSome_iff_exists.mpr ⟨entry, held⟩
        rw [same, fresh.1] at has
        cases has
      simp [Bridge.register, Bridge.put_pending_other, sound.owned.free, different, held]
    · grind [clientRequests]

theorem of_startRequest (sound : Sound exchange) {input : HandlerInput} {streamId : String}
    (kind : RequestKind) {operation : Operation}
    (step : handlerStep unread exchange.handler input =
      if exchange.handler.isFresh streamId then exchange.handler.startRequest kind
          streamId operation
      else exchange.handler)
    (notClient : clientRequests { exchange.handler with operations := [operation] } = [])
    (quiet : (exchangeStep unread exchange input).awaiting = exchange.awaiting)
    (exchanged : Exchanged exchange input (handlerStep unread exchange.handler input) =
      ((handlerStep unread exchange.handler input).sent = exchange.handler.sent ∧
        clientRequests (handlerStep unread exchange.handler input) =
          clientRequests exchange.handler)) :
    Unbiased unread exchange input ∧ Sound (exchangeStep unread exchange input) := by
  by_cases fresh : exchange.handler.isFresh streamId = true
  · rw [if_pos fresh] at step
    obtain ⟨owned, sent, streams, body, requests⟩ := sound.admits fresh kind notClient
    constructor
    · constructor
      · rw [exchanged, step]
        exact ⟨sent, requests⟩
      · grind
      · grind
    · constructor
      · exact Registered.kept unread exchange.handler input sound.registered
      · show Owned (handlerStep unread exchange.handler input)
        rw [step]
        exact owned
      · rw [quiet, sound.own]
        show _ = ownPart (handlerStep unread exchange.handler input).pendingRequestBody
        rw [step, body]
  · rw [if_neg fresh] at step
    apply @of_quiet exchange unread sound input fun _ _ => False
    · rw [step]
      exact Moves.refl _
    · exact fun _ _ impossible => impossible.elim
    · exact quiet
    · exact exchanged

theorem of_tunnelOpen (sound : Sound exchange) (client : Client) (streamId : String)
    (msg : WSUpgradeMsg) :
    Unbiased unread exchange (.tunnelOpen client streamId msg) ∧
      Sound (exchangeStep unread exchange (.tunnelOpen client streamId msg)) := by
  have registered := Registered.kept unread exchange.handler (.tunnelOpen client streamId msg)
    sound.registered
  by_cases fresh : exchange.handler.isFresh streamId = true
  · have step : handlerStep unread exchange.handler (.tunnelOpen client streamId msg) =
        exchange.handler.proxyWSUpgrade client streamId msg := if_pos fresh
    rw [SessionHandler.isFresh, Bool.and_eq_true, Bool.not_eq_true'] at fresh
    have free : exchange.handler.isFree client streamId = true := by
      have noStream : exchange.handler.streams.get? streamId = none :=
        Option.not_isSome_iff_eq_none.mp fun has => by
          have serves : exchange.handler.streams.has streamId = true := has
          rw [fresh.1] at serves
          cases serves
      have notPending : exchange.handler.bridge.pending streamId = none := by
        cases pending : exchange.handler.bridge.pending streamId with
        | none => rfl
        | some entry =>
            obtain ⟨request, found, identity⟩ := sound.registered.pending streamId entry pending
            have new := List.all_eq_true.mp fresh.2 request (List.mem_of_getElem? found)
            have same : request.streamId = streamId := congrArg Prod.fst identity
            rw [same, bne_self_eq_false] at new
            cases new
      rw [SessionHandler.isFree, noStream, notPending]
      rfl
    have opens := @Owned.upgraded exchange.handler exchange.handler client sound.owned
      ⟨rfl, rfl, rfl⟩ streamId msg fun _ => free
    have quiet : (exchange.handler.proxyWSUpgrade client streamId msg).sent =
          exchange.handler.sent ∧
        clientRequests (exchange.handler.proxyWSUpgrade client streamId msg) =
          clientRequests exchange.handler ∧
        (exchange.handler.proxyWSUpgrade client streamId msg).pendingRequestBody =
          exchange.handler.pendingRequestBody := by
      grind [SessionHandler.proxyWSUpgrade, clientRequests]
    constructor
    · constructor
      · rw [step]
        exact ⟨quiet.1, quiet.2.1⟩
      · rw [step]
        exact opens.2.opened
      · rw [step]
        intro other entry held notOpened
        refine opens.2.kept other entry held ?_
        rintro ⟨_, same⟩
        rw [← same] at held
        have has : exchange.handler.streams.has streamId = true :=
          Option.isSome_iff_exists.mpr ⟨entry, held⟩
        rw [fresh.1] at has
        cases has
    · constructor
      · exact registered
      · show Owned (handlerStep unread exchange.handler (.tunnelOpen client streamId msg))
        rw [step]
        exact opens.2.owned
      · show exchange.awaiting = ownPart (handlerStep unread exchange.handler _).pendingRequestBody
        rw [step, quiet.2.2]
        exact sound.own
  · have step : handlerStep unread exchange.handler (.tunnelOpen client streamId msg) =
        exchange.handler := if_neg fresh
    apply @of_quiet exchange unread sound _ fun _ _ => False
    · rw [step]
      exact Moves.refl _
    · exact fun _ _ impossible => impossible.elim
    · rfl
    · rfl

theorem of_tunnelMessage (sound : Sound exchange) (streamId : String) (data : Bytes) :
    Unbiased unread exchange (.tunnelMessage streamId data) ∧
      Sound (exchangeStep unread exchange (.tunnelMessage streamId data)) := by
  have registered := Registered.kept unread exchange.handler (.tunnelMessage streamId data)
    sound.registered
  have step : handlerStep unread exchange.handler (.tunnelMessage streamId data) =
      exchange.handler.forwardWSData streamId data := rfl
  have same : (exchange.handler.forwardWSData streamId data).streams = exchange.handler.streams ∧
      (exchange.handler.forwardWSData streamId data).bridge = exchange.handler.bridge ∧
      (exchange.handler.forwardWSData streamId data).sent = exchange.handler.sent ∧
      (exchange.handler.forwardWSData streamId data).pendingRequestBody =
        exchange.handler.pendingRequestBody := by
    grind [SessionHandler.forwardWSData]
  constructor
  · constructor
    · refine ⟨same.2.2.1, ?_⟩
      intro ready
      rw [step]
      rw [SessionHandler.forwardWSData, if_pos ready]
    · grind
    · grind
  · constructor
    · exact registered
    · show Owned (exchange.handler.forwardWSData streamId data)
      constructor
      · rw [same.1]
        exact sound.owned.asker
      · rw [same.1, same.2.1]
        exact sound.owned.free
    · show exchange.awaiting = ownPart (exchange.handler.forwardWSData streamId
        data).pendingRequestBody
      rw [same.2.2.2]
      exact sound.own

theorem of_message (sound : Sound exchange) {client : Client} {message : ClientMessage}
    (apart : exchange.apart (.message client message) = true) :
    Unbiased unread exchange (.message client message) ∧
      Sound (exchangeStep unread exchange (.message client message)) := by
  have registered := Registered.kept unread exchange.handler (.message client message)
    sound.registered
  have isReads : exchange.handler.reads client = true ↔ exchange.handler.managed = true ∧
      client ∈ exchange.handler.clients ∧ exchange.handler.session.protocol = .framed := by
    simp [SessionHandler.reads, and_assoc]
  by_cases readsIt : exchange.handler.reads client = true
  · have step : handlerStep unread exchange.handler (.message client message) =
        exchange.handler.handleMessage client message := if_pos (isReads.mp readsIt)
    have serves : exchange.handler.servesApart client message = true := by
      grind [Exchange.apart]
    have own : exchange.ownCall client message =
        serverCall exchange.handler.pendingRequestBody client message := by
      rw [Exchange.ownCall, sound.own]
      exact serverCall_own serves
    obtain ⟨served, placed⟩ := SessionHandler.served sound.owned serves
    constructor
    · constructor
      · show if exchange.handler.reads client then _ else _
        rw [if_pos readsIt, own, step]
        exact served
      · rw [step]
        intro streamId entry held
        rcases placed.opened streamId entry held with was | opened
        · exact .inl was
        · refine .inr ⟨opened.1, ?_⟩
          rw [own]
          exact opened.2
      · rw [step]
        intro streamId entry held notEnded
        apply placed.kept streamId entry held
        rintro ⟨isClient, opens⟩
        apply notEnded
        refine ⟨isClient, ?_⟩
        rw [own]
        exact opens
    · constructor
      · exact registered
      · show Owned (handlerStep unread exchange.handler (.message client message))
        rw [step]
        exact placed.owned
      · show (if exchange.handler.reads client then _ else _) =
          ownPart (handlerStep unread exchange.handler _).pendingRequestBody
        rw [if_pos readsIt, step, pendingRequestBody_handleMessage, sound.own]
        funext other
        exact ownPart_stillAwaited serves other
  · have step : handlerStep unread exchange.handler (.message client message) =
        exchange.handler := if_neg fun reads => readsIt (isReads.mpr reads)
    apply @of_moves exchange unread sound _ [] fun _ _ => False
    · rw [step]
      exact Moves.refl _
    · exact fun _ _ impossible => impossible.elim
    · exact if_neg readsIt
    · show if exchange.handler.reads client then _ else _
      rw [if_neg readsIt, step]
      exact ⟨rfl, rfl⟩

theorem of_agentText (sound : Sound exchange) (value : Json) :
    Unbiased unread exchange (.agentText value) ∧
      Sound (exchangeStep unread exchange (.agentText value)) := by
  have moves := sound.owned.handleAgentMessage value
  apply sound.of_moves moves
  · exact fun _ _ isSubject => isSubject
  · rfl
  · exact ⟨moves.sent, moves.operations⟩

theorem of_agentBinary (sound : Sound exchange) (data : Bytes)
    (apart : exchange.apart (.agentBinary data) = true) :
    Unbiased unread exchange (.agentBinary data) ∧
      Sound (exchangeStep unread exchange (.agentBinary data)) := by
  obtain ⟨delivered, moves⟩ := @Moves.handleAgentBinary (fun _ _ => False) exchange.handler unread
    data
  apply sound.of_moves moves
  · exact fun _ _ impossible => impossible.elim
  · rfl
  · intro streamId names
    unfold Exchange.apart at apart
    rw [names, Option.all_some] at apart
    have hands := @Owned.handleAgentBinary exchange.handler streamId sound.owned
      (fun _ _ => False) apart unread data
    exact ⟨hands.sent, hands.operations⟩

/-- A step that keeps clients apart is faithful to each of them. -/
theorem step (sound : Sound exchange) (input : HandlerInput) (apart : exchange.apart input = true) :
    Unbiased unread exchange input ∧ Sound (exchangeStep unread exchange input) := by
  have never : ∀ (streamId : String) (asker : Client), False →
      Ends exchange input streamId asker := fun _ _ impossible => impossible.elim
  have plain {after : SessionHandler} (isAfter : after = handlerStep unread exchange.handler input)
      (sent : after.sent = exchange.handler.sent)
      (operations : after.operations = exchange.handler.operations)
      (body : after.pendingRequestBody = exchange.handler.pendingRequestBody)
      (streams : after.streams = exchange.handler.streams)
      (bridge : after.bridge = exchange.handler.bridge) :
      Moves [] (fun _ _ => False) exchange.handler
        (handlerStep unread exchange.handler input) := by
    grind [Moves.of_same]
  cases input with
  | attach client => exact sound.of_quiet (Moves.attach _ client) never rfl rfl
  | detach client =>
      exact sound.of_quiet (sound.owned.detach client) (fun _ _ isClient => isClient) rfl rfl
  | message client message => exact sound.of_message apart
  | direct streamId method path headers body => exact sound.of_startRequest .direct rfl rfl rfl rfl
  | streaming streamId method path headers body =>
      exact sound.of_startRequest .streaming rfl rfl rfl rfl
  | tunnelOpen client streamId msg => exact sound.of_tunnelOpen client streamId msg
  | tunnelMessage streamId data => exact sound.of_tunnelMessage streamId data
  | timeout streamId => exact sound.of_quiet (Moves.timeout _ streamId) never rfl rfl
  | cancel streamId => exact sound.of_quiet (Moves.cancel _ streamId) never rfl rfl
  | written request => exact sound.of_quiet (Moves.endWriting _ request) never rfl rfl
  | writeFails request error =>
      exact sound.of_quiet (Moves.writeFails _ request error) never rfl rfl
  | spawned =>
      refine sound.of_quiet ?_ never rfl rfl
      grind [handlerStep]
  | rawExecStarted =>
      refine sound.of_quiet ?_ never rfl rfl
      grind [handlerStep, SessionHandler.rawExecStarted]
  | agentText value => exact sound.of_agentText value
  | agentBinary data => exact sound.of_agentBinary data apart
  | execEnds => exact sound.of_quiet (Moves.execEnds _) never rfl rfl
  | teardown =>
      refine sound.of_quiet ?_ never rfl rfl
      grind [handlerStep, SessionHandler.teardown]
  | teardownWritten =>
      exact sound.of_quiet (Moves.teardownWritten _) (fun _ _ _ => trivial) rfl rfl
  | teardownKilled =>
      exact sound.of_quiet (Moves.teardownKilled _) (fun _ _ _ => trivial) rfl rfl
  | sweep => exact sound.of_quiet (plain rfl rfl rfl rfl rfl rfl) never rfl rfl

theorem newExchange (protocol : TunnelProtocol) (max : Nat) : Sound (newExchange protocol max) where
  registered := Registered.newSessionHandler protocol max
  owned := by
    constructor
    · intro streamId entry held
      cases held
    · intro streamId entry held
      cases held
  own := rfl

end Sound

/-- In every run whose clients keep apart, each client is answered, and its requests are sent on, as
it asked. -/
theorem clients_answered (unread : String → Nat → Nat) (protocol : TunnelProtocol) (max : Nat)
    {inputs : List HandlerInput}
    (apart : AlongRun (exchangeStep unread) (fun exchange input => exchange.apart input = true)
      (newExchange protocol max) inputs) :
    AlongRun (exchangeStep unread) (Unbiased unread) (newExchange protocol max) inputs := by
  apply AlongRun.of_invariant _ _ (Sound.newExchange protocol max) apart
  · exact fun exchange input sound isApart => (sound.step input isApart).2
  · exact fun exchange input sound isApart => (sound.step input isApart).1

/-! ### Runs -/

def requestText (streamId : String) (bodyFollows : Bool) : ClientMessage :=
  .text (Json.stringify (.obj [("type", .str "http_request"), ("stream_id", .str streamId),
    ("method", .str "GET"), ("path", .str "/"), ("headers", .obj []),
    ("body_follows", .bool bodyFollows)]))

def responseTo (streamId : String) : Json :=
  .obj [("type", .str "http_response"), ("stream_id", .str streamId), ("status_code", .num "200")]

/-- Two clients ask one after the other, each while it is the one attached last. -/
def inTurn : List HandlerInput :=
  [.spawned, .agentText readyMessage, .attach (.socket 1),
    .message (.socket 1) (requestText "first" false), .attach (.socket 2),
    .message (.socket 2) (requestText "second" true), .message (.socket 2) (.buffer [7]),
    .agentText (responseTo "second"), .agentText (responseTo "first")]

theorem inTurn_answered :
    AlongRun (exchangeStep fun _ _ => 0) (Unbiased fun _ _ => 0) (newExchange .framed 4) inTurn :=
  clients_answered (fun _ _ => 0) .framed 4 (by decide +kernel)

/-- The first of two clients asks, and the second is sent the response. -/
theorem lastAttached_answered :
    let asked := run (handlerStep fun _ _ => 0) (newSessionHandler .framed 4)
      [.spawned, .agentText readyMessage, .attach (.socket 1), .attach (.socket 2),
        .message (.socket 1) (requestText "first" false)]
    let answered := handlerStep (fun _ _ => 0) asked (.agentText (responseTo "first"))
    (asked.streams.get? "first").map StreamEntry.asker = some (.socket 1) ∧
      asked.sent.map Prod.fst = [] ∧ answered.sent.map Prod.fst = [.socket 2] := by
  decide +kernel

end Lombok.Tunnel
