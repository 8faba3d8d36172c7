import Lombok.Tunnel.Concurrent
import Lombok.Tunnel.Pending
import Lombok.Tunnel.SessionManager

/-!
Contract: one session of `TunnelSessionHandler`, between the clients of the two
WebSocket servers, the callers of the http server and the agent.

Owns who is attached, the streams and who they belong to, the pending responses
and the limiter, the body the server waits for, and teardown. A step is what
the event loop does between two awaits.

Does not own the bytes of the frames, the raw stream of a terminal, or the
`stream_close` messages that the bridge sends.
-/

namespace Lombok.Tunnel

open Lombok.Core
open Lombok.Library
open Lombok.Library.Framing

/-! ### State -/

/-- What is attached to a session: a WebSocket, or the object that stands for a streamed response
and has no `send`. -/
inductive Client where
  | socket (id : Nat)
  | sentinel (id : Nat)
deriving DecidableEq

/-- The type of a stream; an http stream belongs to a request. -/
inductive StreamKind where
  | http (request : Nat)
  | ws
deriving DecidableEq

/-- An entry of `sessionStreams`, and who asked for the stream. -/
structure StreamEntry where
  ws : Client
  kind : StreamKind
  asker : Client
deriving DecidableEq

inductive RequestKind where
  | client
  | direct
  | streaming
deriving DecidableEq

/-- How the promise of a caller is settled. -/
inductive Outcome where
  | resolved
  | rejected (reason : String)
deriving DecidableEq

/-- A request that the limiter admitted. `released` counts the calls of `release` for it that found
the session with the limiter; the closures of a streaming request call it once. -/
structure Request where
  streamId : String
  kind : RequestKind
  writing : Bool
  outcome : Option Outcome
  finished : Bool
  released : Nat
deriving DecidableEq

def newRequest (streamId : String) (kind : RequestKind) : Request where
  streamId := streamId
  kind := kind
  writing := true
  outcome := none
  finished := false
  released := 0

/-- The entry of `pendingRequestBodies`, and who sent the envelope. -/
structure PendingRequestBody where
  asker : Client
  streamId : String
  req : HTTPRequestMsg
deriving DecidableEq

/-- What a client is sent. -/
inductive Sent where
  | limited (reply : HTTPResponseMsg)
  | text (value : Json)
  | payload (data : Bytes)

/-- `closingWrites` and `closingKills` are the teardowns that wait for the `stream_close` messages
and for the kill; `rawStarts` are the attaches that wait for the exec. -/
structure SessionHandler where
  session : Session
  status : SessionState
  managed : Bool
  clients : List Client
  streams : OrderedMap String StreamEntry
  bridge : Bridge
  pendingRequestBody : Option PendingRequestBody
  requests : List Request
  operations : List Operation
  sent : List (Client × Sent)
  rawStarts : Nat
  closingWrites : Nat
  closingKills : Nat

/-! ### Messages of a client -/

/-- An envelope as `handleMessage` reads it; the members it does not look at are taken to be of
their types. -/
inductive ClientEnvelope where
  | httpRequest (streamId : String) (req : HTTPRequestMsg)
  | wsUpgrade (streamId : String) (msg : WSUpgradeMsg)
  | wsData (streamId : String)
  | other
deriving DecidableEq

def headersField (fields : Fields) : List (String × String) :=
  (stringMapField fields "headers").getD []

def lengthField (fields : Fields) : Option Nat :=
  match fields.get? "body_len" with
  | some (.num literal) => readDigits literal.toList
  | _ => none

def clientRequest (fields : Fields) (streamId : String) : HTTPRequestMsg :=
  ⟨streamId, (textField fields "method").getD "", (textField fields "path").getD "",
    headersField fields, lengthField fields,
    match fields.get? "body_follows" with
    | some (.bool flag) => some flag
    | _ => none⟩

def clientEnvelope (value : Json) : ClientEnvelope :=
  match value with
  | .obj fields =>
      let kind := textField fields "type"
      let streamId := (textField fields "stream_id").getD ""
      if streamId = "" then .other
      else if kind = some "http_request" then .httpRequest streamId (clientRequest fields streamId)
      else if kind = some "ws_upgrade" then
        .wsUpgrade streamId ⟨streamId, (textField fields "path").getD "", headersField fields⟩
      else if kind = some "ws_data" then .wsData streamId
      else .other
  | _ => .other

/-- A message of a WebSocket: a string, or a `Buffer`. -/
inductive ClientMessage where
  | text (text : String)
  | buffer (data : Bytes)
deriving DecidableEq

def isParsableJSON (data : Bytes) : Bool := data.head? == some 0x7b

/-- A call of the server. -/
inductive ServerCall where
  | proxyHTTPRequest (asker : Client) (streamId : String) (req : HTTPRequestMsg)
      (body : Option Bytes)
  | proxyWSUpgrade (streamId : String) (msg : WSUpgradeMsg)
  | forwardWSData (streamId : String) (data : Bytes)
  | awaitBody (pending : PendingRequestBody)
  | nothing
deriving DecidableEq

/-- A message that is read as JSON. The message itself is what a `ws_data` sends on. -/
def envelopeCall (client : Client) (raw : Bytes) (envelope : ClientEnvelope) : ServerCall :=
  match envelope with
  | .httpRequest streamId req =>
      if req.bodyFollows = some true then .awaitBody ⟨client, streamId, req⟩
      else .proxyHTTPRequest client streamId req none
  | .wsUpgrade streamId msg => .proxyWSUpgrade streamId msg
  | .wsData streamId => .forwardWSData streamId raw
  | .other => .nothing

def readEnvelope (text : String) : ClientEnvelope :=
  match Json.parse text with
  | some value => clientEnvelope value
  | none => .other

/-- A `Buffer` is the body of the request that waits for one, whatever it holds. -/
def serverCall (pending : Option PendingRequestBody) (client : Client) (message : ClientMessage) :
    ServerCall :=
  match message with
  | .text text => envelopeCall client (toUtf8 text) (readEnvelope text)
  | .buffer data =>
      match pending with
      | some held => .proxyHTTPRequest held.asker held.streamId held.req (some data)
      | none =>
          if isParsableJSON data then envelopeCall client data (readEnvelope (repairUtf8 data))
          else .nothing

/-! ### The limiter -/

/-- `SessionConcurrencyLimiter.release`. -/
def Session.release (session : Session) : Session :=
  { session with
    limiter := session.limiter.map fun entry => { entry with inFlight := entry.inFlight - 1 } }

/-- The checks of `proxyHTTPDirect` and `proxyHTTPStreaming`, and the slot they take. -/
def Session.takeSlot (session : Session) : Option Session :=
  if session.protocol = .framed ∧ session.hasExecStream = true ∧ session.agentReady = true then
    session.acquire
  else none

/-- The checks of `proxyWSUpgrade` and `forwardWSData`. -/
def Session.isReady (session : Session) : Bool :=
  session.protocol == .framed && session.hasExecStream && session.agentReady

def Request.finish (registered : Bool) (request : Request) : Request :=
  { request with
    finished := true
    released := if registered then request.released + 1 else request.released }

namespace SessionHandler

variable (handler : SessionHandler)

/-! ### Sending and releasing -/

/-- What has no `send` gets nothing. -/
def send (client : Client) (item : Sent) : SessionHandler :=
  match client with
  | .socket _ => { handler with sent := handler.sent ++ [(client, item)] }
  | .sentinel _ => handler

def removeStream (streamId : String) : SessionHandler :=
  { handler with streams := handler.streams.delete streamId }

/-- `limiter.release`, for a request. -/
def release (request : Nat) : SessionHandler :=
  { handler with
    session := handler.session.release
    requests := handler.requests.modify request (Request.finish handler.session.limiter.isSome) }

def releaseStream (entry : StreamEntry) : SessionHandler :=
  match entry.kind with
  | .http request => handler.release request
  | .ws => handler

/-- The request whose closures `pendingHTTPResponses` holds under an id. -/
def requestOf (streamId : String) : Nat :=
  handler.requests.findIdx fun request => request.streamId == streamId && request.kind != .client

def releasePending (streamId : String) : SessionHandler :=
  let request := handler.requestOf streamId
  match handler.requests[request]? with
  | none => handler
  | some held =>
      if held.kind = .streaming ∧ held.finished = true then handler else handler.release request

/-- A promise keeps how it was settled first. -/
def settle (streamId : String) (outcome : Outcome) : SessionHandler :=
  { handler with
    requests := handler.requests.modify (handler.requestOf streamId) fun held =>
      { held with outcome := held.outcome.or (some outcome) } }

/-- An entry leaves `pendingHTTPResponses`. -/
def removePending (streamId reason : String) : SessionHandler :=
  { handler with
    bridge := handler.bridge.put streamId none
      { handler.bridge.consumer streamId with ending := some (.failed reason) } }

/-- Its `reject` is called as well. -/
def fail (streamId reason : String) : SessionHandler :=
  (handler.removePending streamId reason).settle streamId (.rejected reason)

/-! ### Clients -/

/-- A WebSocket is attached as long as the manager has the session. The first attach of a terminal
starts its exec. -/
def attach (client : Client) : SessionHandler :=
  let known := match client with
    | .socket _ => handler.managed
    | .sentinel _ => true
  if !known then handler
  else
    { handler with
      clients := if client ∈ handler.clients then handler.clients else handler.clients ++ [client]
      rawStarts :=
        if handler.session.protocol = .raw ∧ handler.session.hasExecStream = false then
          handler.rawStarts + 1
        else handler.rawStarts }

/-- One turn of the loop of `detach`. -/
def detachStream (client : Client) (handler : SessionHandler) (streamId : String) :
    SessionHandler :=
  match handler.streams.get? streamId with
  | none => handler
  | some entry =>
      if entry.ws = client then (handler.releaseStream entry).removeStream streamId else handler

def detach (client : Client) : SessionHandler :=
  let left := { handler with clients := handler.clients.filter fun other => other != client }
  if handler.status = .closing ∨ handler.session.protocol = .raw then left
  else (handler.streams.entries.map Prod.fst).foldl (detachStream client) left

/-- The response goes to the client that was attached last. -/
def proxyHTTPRequest (asker : Client) (streamId : String) (req : HTTPRequestMsg)
    (body : Option Bytes) : SessionHandler :=
  match handler.clients.getLast?, Tunnel.proxyHTTPRequest handler.session streamId req body with
  | some ws, .ok (.limited reply) => handler.send ws (.limited reply)
  | some ws, .ok (.sent session _) =>
      { handler with
        session := session
        streams := handler.streams.set streamId ⟨ws, .http handler.requests.length, asker⟩
        requests := handler.requests ++ [newRequest streamId .client]
        operations := handler.operations ++ [.proxyHTTPRequest streamId req body] }
  | _, _ => handler

def proxyWSUpgrade (ws : Client) (streamId : String) (msg : WSUpgradeMsg) : SessionHandler :=
  if handler.session.isReady then
    { handler with
      streams := handler.streams.set streamId ⟨ws, .ws, ws⟩
      operations := handler.operations ++ [.proxyWSUpgrade streamId msg] }
  else handler

def forwardWSData (streamId : String) (data : Bytes) : SessionHandler :=
  if handler.session.isReady then
    { handler with operations := handler.operations ++ [.forwardWSData streamId data] }
  else handler

/-- What the server does with a message, and with which arguments. -/
def perform (client : Client) (call : ServerCall) : SessionHandler :=
  match call with
  | .proxyHTTPRequest asker streamId req body => handler.proxyHTTPRequest asker streamId req body
  | .proxyWSUpgrade streamId msg => handler.proxyWSUpgrade client streamId msg
  | .forwardWSData streamId data => handler.forwardWSData streamId data
  | .awaitBody pending => { handler with pendingRequestBody := some pending }
  | .nothing => handler

/-- `message` of the WebSocket server. A `Buffer` finds no body awaited afterwards. -/
def handleMessage (client : Client) (message : ClientMessage) : SessionHandler :=
  let left := match message with
    | .text _ => handler
    | .buffer _ => { handler with pendingRequestBody := none }
  left.perform client (serverCall handler.pendingRequestBody client message)

/-! ### Callers of the http server -/

/-- A drawn id is a new one. -/
def isFresh (streamId : String) : Bool :=
  !handler.streams.has streamId && handler.requests.all fun request => request.streamId != streamId

def startRequest (kind : RequestKind) (streamId : String) (operation : Operation) :
    SessionHandler :=
  match handler.session.takeSlot with
  | none => handler
  | some acquired =>
      { handler with
        session := acquired
        bridge := handler.bridge.register streamId (kind == .streaming)
        requests := handler.requests ++ [newRequest streamId kind]
        operations := handler.operations ++ [operation] }

def proxyHTTPDirect (streamId method path : String) (headers : List (String × String))
    (body : Option Bytes) : SessionHandler :=
  handler.startRequest .direct streamId (.proxyHTTPDirect streamId method path headers body)

def proxyHTTPStreaming (streamId method path : String) (headers : List (String × String))
    (body : Option Bytes) : SessionHandler :=
  handler.startRequest .streaming streamId (.proxyHTTPStreaming streamId method path headers body)

/-- The 30 s timer of a request, which is cleared when its promise is settled. -/
def timeout (streamId : String) : SessionHandler :=
  match handler.requests[handler.requestOf streamId]? with
  | none => handler
  | some held =>
      if held.outcome.isSome then handler
      else
        (handler.fail streamId
          (if held.kind = .streaming then "Tunnel proxy initial-headers timeout (30s)"
          else "Tunnel proxy timeout (30s)")).releasePending streamId

/-- The reader of a streamed response goes away. -/
def cancel (streamId : String) : SessionHandler :=
  match handler.bridge.pending streamId with
  | none => handler
  | some entry =>
      if entry.streaming ∧ (handler.bridge.consumer streamId).head.isSome = true then
        (handler.removePending streamId "client disconnect").releasePending streamId
      else handler

def endWriting (request : Nat) : SessionHandler :=
  { handler with
    requests := handler.requests.modify request fun held => { held with writing := false } }

/-- A write of a request fails. That of a client's request is logged; the other two call what
`catch` was given, and a direct request gives its slot back whether or not it is pending. -/
def writeFails (request : Nat) (error : String) : SessionHandler :=
  match handler.requests[request]? with
  | none => handler
  | some held =>
      if held.writing = false then handler
      else
        let ended := handler.endWriting request
        match held.kind with
        | .client =>
            { ended with
              requests := ended.requests.modify request fun held => { held with finished := true } }
        | .direct =>
            if held.outcome.isSome then ended.release request
            else (ended.fail held.streamId error).release request
        | .streaming =>
            match handler.bridge.pending held.streamId with
            | none => ended
            | some _ => (ended.fail held.streamId error).releasePending held.streamId

/-! ### Messages of the agent -/

def handleReady : SessionHandler :=
  { handler with
    session := { handler.session with agentReady := true }
    status := .active }

/-- `forwardToClient`, behind the pending responses. -/
def forwardToClient (value : Json) (streamId : String) : SessionHandler :=
  match handler.streams.get? streamId with
  | none => handler
  | some entry => handler.send entry.ws (.text value)

/-- A message that ends an http stream is passed on first. -/
def forwardLast (value : Json) (streamId : String) : SessionHandler :=
  match handler.streams.get? streamId with
  | none => handler
  | some entry =>
      ((handler.send entry.ws (.text value)).releaseStream entry).removeStream streamId

def handleHTTPResponse (value : Json) (streamId : String) (head : Head) (bodyFollows : Bool) :
    SessionHandler :=
  match handler.bridge.pending streamId with
  | some entry =>
      let resolved := { handler with
        bridge := Tunnel.handleHTTPResponse handler.bridge streamId head bodyFollows }
      if bodyFollows then
        -- The head settles the promise of a streaming caller only.
        if entry.streaming then resolved.settle streamId .resolved else resolved
      else (resolved.settle streamId .resolved).releasePending streamId
  | none =>
      if bodyFollows then handler.forwardToClient value streamId
      else handler.forwardLast value streamId

def handleWSData (value : Json) (streamId : String) (bodyFollows : Bool) : SessionHandler :=
  { handler with
    bridge := Tunnel.handleWSData handler.bridge streamId bodyFollows }.forwardToClient
        value streamId

def handleStreamClose (value : Json) (streamId : String) (reason : Option String) :
    SessionHandler :=
  match handler.bridge.pending streamId with
  | some _ =>
      (({ handler with
        bridge := Tunnel.handleStreamClose handler.bridge streamId reason }).settle streamId
          (.rejected ("Stream closed: " ++ reason.getD "unknown"))).releasePending streamId
  | none => handler.forwardLast value streamId

def handleBodyChunk (value : Json) (streamId : String) : SessionHandler :=
  match handler.bridge.pending streamId with
  | some _ => { handler with bridge := Tunnel.handleBodyChunk handler.bridge streamId }
  | none =>
      match handler.streams.get? streamId with
      | none => handler
      | some entry =>
          { handler with bridge := handler.bridge.expect streamId }.send entry.ws (.text value)

/-- The stream of a WebSocket stays. -/
def handleBodyEnd (value : Json) (streamId : String) : SessionHandler :=
  match handler.bridge.pending streamId with
  | some entry =>
      let ended := { handler with bridge := Tunnel.handleBodyEnd handler.bridge streamId }
      -- The end of a stream settles nothing: a caller without a head waits for its timer.
      if entry.streaming then ended.releasePending streamId
      else (ended.settle streamId .resolved).releasePending streamId
  | none =>
      match handler.streams.get? streamId with
      | none => handler
      | some entry =>
          if entry.kind = .ws then handler.forwardToClient value streamId
          else handler.forwardLast value streamId

def messageType (value : Json) : Option String :=
  match value with
  | .obj fields => textField fields "type"
  | _ => none

/-- The acknowledgement of an upgrade is passed on; what else there is only logged. -/
def handleOther (value : Json) : SessionHandler :=
  match value with
  | .obj fields =>
      if messageType value = some "ready" then handler.handleReady
      else if messageType value = some "ws_upgrade_ack" then
        match textField fields "stream_id" with
        | some streamId => if streamId = "" then handler else handler.forwardToClient value streamId
        | none => handler
      else handler
  | _ => handler

/-- A message about a stream that names none is ignored. -/
def handleAgentMessage (value : Json) : SessionHandler :=
  match envelope value with
  | .httpResponse streamId head bodyFollows =>
      if streamId = "" then handler
      else handler.handleHTTPResponse value streamId head bodyFollows
  | .wsData streamId bodyFollows =>
      if streamId = "" then handler else handler.handleWSData value streamId bodyFollows
  | .streamClose streamId reason =>
      if streamId = "" then handler else handler.handleStreamClose value streamId reason
  | .bodyChunk streamId =>
      if streamId = "" then handler else handler.handleBodyChunk value streamId
  | .bodyEnd streamId => if streamId = "" then handler else handler.handleBodyEnd value streamId
  | .other => handler.handleOther value

/-- Raw protocol or unknown stream. -/
def broadcast (data : Bytes) : SessionHandler :=
  handler.clients.foldl (fun handler client => handler.send client (.payload data)) handler

def sendPayload (streamId : String) (data : Bytes) : SessionHandler :=
  match handler.streams.get? streamId with
  | some entry => handler.send entry.ws (.payload data)
  | none => handler.broadcast data

def handleAgentBinary (unread : String → Nat → Nat) (data : Bytes) : SessionHandler :=
  match handler.bridge.nextBinaryStreamId with
  | none => handler.broadcast data
  | some streamId =>
      let taken := { handler with bridge := { handler.bridge with nextBinaryStreamId := none } }
      match handler.bridge.pending streamId with
      | some entry =>
          if entry.streaming ∨ entry.expectingBinary then
            let handed := { taken with bridge := handlePayload taken.bridge streamId unread data }
            -- A caller too far behind is dropped, and its slot given back.
            if (handed.bridge.pending streamId).isSome then handed
            else handed.releasePending streamId
          else taken.sendPayload streamId data
      | none => taken.sendPayload streamId data

/-! ### The end of a session -/

/-- Teardown up to its first await. -/
def teardown : SessionHandler :=
  if handler.session.protocol = .framed then
    { handler with status := .closing, closingWrites := handler.closingWrites + 1 }
  else { handler with status := .closing, closingKills := handler.closingKills + 1 }

/-- The `stream_close` messages are written, and the streams are dropped. -/
def teardownWritten : SessionHandler :=
  if handler.closingWrites = 0 then handler
  else
    { handler with
      streams := .empty
      closingWrites := handler.closingWrites - 1
      closingKills := handler.closingKills + 1 }

/-- The session leaves the limiter and the manager: no slot is taken any more. -/
def unregister : SessionHandler :=
  { handler with
    session := { handler.session with limiter := none }
    requests := handler.requests.map fun request =>
      if request.finished then request
      else request.finish handler.session.limiter.isSome
    clients := []
    managed := false }

/-- One turn of the loop over `pendingHTTPResponses`. -/
def rejectPending (handler : SessionHandler) (streamId : String) : SessionHandler :=
  match handler.bridge.pending streamId with
  | none => handler
  | some _ => (handler.fail streamId "Session torn down").releasePending streamId

def drawnIds : List String :=
  (handler.requests.filter fun request => request.kind != .client).map Request.streamId

def rejectAll : SessionHandler := handler.drawnIds.foldl rejectPending handler

/-- Teardown after its last await. -/
def teardownKilled : SessionHandler :=
  if handler.closingKills = 0 then handler
  else
    let ended :=
      if handler.session.protocol = .framed then
        let rejected := handler.rejectAll
        { rejected with
          streams := .empty
          bridge := { rejected.bridge with nextBinaryStreamId := none } }.unregister
      else handler.unregister
    { ended with closingKills := handler.closingKills - 1 }

/-- `handleExecEnd`, of a terminal. -/
def handleExecEnd : SessionHandler :=
  if handler.status = .closing then handler
  else { handler with status := .closing }.unregister

def execEnds : SessionHandler :=
  if handler.session.hasExecStream = false then handler
  else if handler.session.protocol = .raw then handler.handleExecEnd
  else if handler.status = .closing then handler
  else handler.teardown

/-- `startRawExec`, after the exec has been started. -/
def rawExecStarted : SessionHandler :=
  if handler.rawStarts = 0 then handler
  else
    { handler with
      rawStarts := handler.rawStarts - 1
      session := { handler.session with hasExecStream := true }
      status := .active }

end SessionHandler

/-! ### Steps -/

inductive HandlerInput where
  | attach (client : Client)
  | detach (client : Client)
  | message (client : Client) (message : ClientMessage)
  | direct (streamId method path : String) (headers : List (String × String))
      (body : Option Bytes)
  | streaming (streamId method path : String) (headers : List (String × String))
      (body : Option Bytes)
  | tunnelOpen (client : Client) (streamId : String) (msg : WSUpgradeMsg)
  | tunnelMessage (streamId : String) (data : Bytes)
  | timeout (streamId : String)
  | cancel (streamId : String)
  | written (request : Nat)
  | writeFails (request : Nat) (error : String)
  | spawned
  | rawExecStarted
  | agentText (value : Json)
  | agentBinary (data : Bytes)
  | execEnds
  | teardown
  | teardownWritten
  | teardownKilled
  | sweep

/-- A message comes from a client that is attached to a session the manager has. `unread` is what a
caller has not read of what it was handed. -/
def handlerStep (unread : String → Nat → Nat) (handler : SessionHandler) (input : HandlerInput) :
    SessionHandler :=
  match input with
  | .attach client => handler.attach client
  | .detach client => handler.detach client
  | .message client message =>
      if handler.managed ∧ client ∈ handler.clients ∧ handler.session.protocol = .framed then
        handler.handleMessage client message
      else handler
  | .direct streamId method path headers body =>
      if handler.isFresh streamId then handler.proxyHTTPDirect streamId method path headers body
      else handler
  | .streaming streamId method path headers body =>
      if handler.isFresh streamId then
        handler.proxyHTTPStreaming streamId method path headers body
      else handler
  | .tunnelOpen client streamId msg =>
      if handler.isFresh streamId then handler.proxyWSUpgrade client streamId msg else handler
  | .tunnelMessage streamId data => handler.forwardWSData streamId data
  | .timeout streamId => handler.timeout streamId
  | .cancel streamId => handler.cancel streamId
  | .written request => handler.endWriting request
  | .writeFails request error => handler.writeFails request error
  | .spawned =>
      if handler.session.protocol = .framed then
        { handler with session := { handler.session with hasExecStream := true } }
      else handler
  | .rawExecStarted => handler.rawExecStarted
  | .agentText value => handler.handleAgentMessage value
  | .agentBinary data => handler.handleAgentBinary unread data
  | .execEnds => handler.execEnds
  | .teardown => handler.teardown
  | .teardownWritten => handler.teardownWritten
  | .teardownKilled => handler.teardownKilled
  | .sweep => { handler with managed := false }

/-- `ReadyMsg`. -/
def readyMessage : Json := .obj [("type", .str "ready")]

def newSessionHandler (protocol : TunnelProtocol) (max : Nat) : SessionHandler where
  session := ⟨protocol, false, false, some ⟨0, max⟩⟩
  status := .created
  managed := true
  clients := []
  streams := .empty
  bridge := ⟨fun _ => none, none, fun _ => .waiting⟩
  pendingRequestBody := none
  requests := []
  operations := []
  sent := []
  rawStarts := 0
  closingWrites := 0
  closingKills := 0

end Lombok.Tunnel
