import Lombok.Core.FormParams
import Lombok.Library.Record
import Lombok.Tunnel.Concurrent

/-!
Contract: the two entry points of the bridge that forward a client's request to
the agent in a container.

Owns the parts of `handleRoute` and `handleTunnelTraffic` that decide whether a
request to the proxy of a session or to a tunnel is accepted, which of its
credentials is the accepted one, and what is handed to the proxying operation.

Does not own: the check of a token's signature, the URL parser and what
becomes of the operation.
-/

namespace Lombok.Tunnel

open Lombok.Core
open Lombok.Library
open Lombok.Library.Framing

/-! ### Requests -/

/-- What is read of a `Request` and the `URL` made of it. `headers` is what `forEach` goes
through: every name once, in lower case. `query` is `url.search` without its question mark. -/
structure ClientRequest where
  method : String
  pathname : String
  query : String
  headers : Record String String
  body : Bytes
  pathOnly : '?' ∉ pathname.toList
  lower : ∀ header ∈ headers, header.1.toLower = header.1
  distinct : (headers.map Prod.fst).Nodup

namespace ClientRequest

/-- `req.headers.get(name)`, for a name in lower case. -/
def header (request : ClientRequest) (name : String) : Option String := request.headers.get? name

/-- `url.search`. -/
def search (request : ClientRequest) : String :=
  if request.query = "" then "" else "?" ++ request.query

/-- `url.searchParams.get('token')`. -/
def queryToken (request : ClientRequest) : Option String :=
  getParam (searchParams request.query.toList) "token"

/-- The request asks for a WebSocket. -/
def upgrades (request : ClientRequest) : Bool :=
  (request.header "upgrade").map String.toLower == some "websocket"

end ClientRequest

/-! ### Credentials -/

/-- The credentials the bridge can check, and the sessions it knows. A tunnel token that is
valid has a `public_id`. -/
structure HttpServer where
  bridgeApiSecret : String
  bridgeJwtSecret : String
  authenticateSessionToken : String → String → String → Bool
  validateTunnelJWT : String → String → Option String
  get : String → Option Session
  getByPublicId : String → Option Session

/-- The characters `trim` removes. -/
def isTrimmed (character : Char) : Bool :=
  [9, 10, 11, 12, 13, 32, 0xA0, 0x1680, 0x2028, 0x2029, 0x202F, 0x205F, 0x3000, 0xFEFF].contains
    character.toNat || (0x2000 ≤ character.toNat && character.toNat ≤ 0x200A)

def trim (text : List Char) : List Char :=
  ((text.dropWhile isTrimmed).reverse.dropWhile isTrimmed).reverse

/-- The parts of a `Cookie` header. -/
def cookieParts (value : String) : List (List Char) := (value.toList.splitOn ';').map trim

/-- The name and the value of a cookie; a part without `=` is a name. -/
def cookiePair (part : List Char) : String × String :=
  let name := part.takeWhile (· != '=')
  (String.ofList name, String.ofList (part.drop (name.length + 1)))

/-- `extractCookie`. -/
def extractCookie (request : ClientRequest) (name : String) : Option String :=
  match request.header "cookie" with
  | none => none
  | some value =>
      if value = "" then none
      else (((cookieParts value).map cookiePair).find? fun cookie => cookie.1 == name).map Prod.snd

/-- A token that is there and valid, with the `public_id` it is valid for. -/
def HttpServer.validated (bridge : HttpServer) (token : Option String) : Option (String × String) :=
  match token with
  | none => none
  | some token =>
      if token = "" then none
      else (bridge.validateTunnelJWT token bridge.bridgeJwtSecret).map fun publicId =>
        (token, publicId)

/-- `authenticateTunnel`: header, cookie, query. -/
def HttpServer.authenticateTunnel (bridge : HttpServer) (request : ClientRequest)
    (queryToken : Option String) : Option (String × String) :=
  if bridge.bridgeJwtSecret = "" then none
  else
    (bridge.validated (request.header "x-tunnel-token")).or
      ((bridge.validated (extractCookie request "tunnel_auth")).or (bridge.validated queryToken))

/-- The token of an `Authorization: Bearer` header; an empty one is none. -/
def bearerToken (request : ClientRequest) : Option String :=
  match request.header "authorization" with
  | none => none
  | some value =>
      match value.toList.dropPrefix? "Bearer ".toList with
      | some (character :: rest) => some (String.ofList (character :: rest))
      | _ => none

/-! ### Routes -/

inductive Route where
  | sessionProxy (sessionId rest : String)
  | tunnel (forwardPath : String)
deriving DecidableEq

/-- A dot in a pattern matches none of these. -/
def isLineTerminator (character : Char) : Bool :=
  [10, 13, 0x2028, 0x2029].contains character.toNat

/-- `path.match(/^\/sessions\/([^/]+)\/proxy(\/.*)?$/)`. -/
def proxyMatch (path : List Char) : Option (List Char × List Char) :=
  match path.dropPrefix? "/sessions/".toList with
  | none => none
  | some behind =>
      let sessionId := behind.takeWhile (· != '/')
      if sessionId = [] then none
      else
        match (behind.drop sessionId.length).dropPrefix? "/proxy".toList with
        | none => none
        | some rest =>
            if rest = [] ∨ (rest.head? = some '/' ∧ rest.all (!isLineTerminator ·)) then
              some (sessionId, rest)
            else none

/-- Traffic from nginx is looked at first. -/
def ClientRequest.route (request : ClientRequest) : Option Route :=
  match request.pathname.toList.dropPrefix? "/-/tunnel/".toList with
  | some rest => some (.tunnel (String.ofList ('/' :: rest)))
  | none =>
      (proxyMatch request.pathname.toList).map fun parts =>
        .sessionProxy (String.ofList parts.1) (String.ofList parts.2)

def Route.path : Route → String
  | .sessionProxy _ rest => if rest = "" then "/" else rest
  | .tunnel forwardPath => forwardPath

/-! ### What is forwarded -/

/-- `HOP_BY_HOP_HEADERS`. -/
def bridgeHopByHop : List String :=
  ["connection", "keep-alive", "proxy-authenticate", "proxy-authorization", "te", "trailers",
    "transfer-encoding", "upgrade"]

/-- The header is neither a hop-by-hop nor an `x-tunnel-` one. -/
def isEndToEnd (header : String × String) : Bool :=
  !bridgeHopByHop.contains header.1.toLower && !"x-tunnel-".toList.isPrefixOf
      header.1.toLower.toList

/-- The loop that fills `forwardHeaders`: a plain object takes no text as its `__proto__`. -/
def forwardHeaders (headers : Record String String) : Record String String :=
  (headers.filter isEndToEnd).filter fun header => header.1 != "__proto__"

def forwardBody (request : ClientRequest) : Option Bytes :=
  if request.method = "GET" ∨ request.method = "HEAD" ∨ request.body = [] then none
  else some request.body

/-- The query of a request with every `token` deleted. -/
def forwardQuery (request : ClientRequest) : String :=
  String.ofList (printParams (deleteParam (searchParams request.query.toList) "token"))

def forwardPath (request : ClientRequest) : Route → String
  | .sessionProxy sessionId rest =>
      (Route.sessionProxy sessionId rest).path ++
        (if forwardQuery request = "" then "" else "?" ++ forwardQuery request)
  | .tunnel path => path ++ request.search

def upgradeHeaders (request : ClientRequest) : Record String String :=
  match request.header "sec-websocket-protocol" with
  | none => []
  | some subprotocol => if subprotocol = "" then [] else [("Sec-WebSocket-Protocol", subprotocol)]

/-- What an accepted request is turned into. -/
def handOn (request : ClientRequest) (streamId : String) (route : Route) : Operation :=
  if request.upgrades then
    .proxyWSUpgrade streamId ⟨streamId, forwardPath request route, upgradeHeaders request⟩
  else
    match route with
    | .sessionProxy _ _ =>
        .proxyHTTPStreaming streamId request.method (forwardPath request route)
          (forwardHeaders request.headers) (forwardBody request)
    | .tunnel _ =>
        .proxyHTTPDirect streamId request.method (forwardPath request route)
          (forwardHeaders request.headers) (forwardBody request)

namespace HttpServer

def acceptedToken (bridge : HttpServer) (request : ClientRequest) : Route → Option String
  | .sessionProxy sessionId _ =>
      match (bearerToken request).or request.queryToken with
      | none => none
      | some token =>
          if token = "" || bridge.bridgeApiSecret = "" ||
              !bridge.authenticateSessionToken token sessionId bridge.bridgeApiSecret then none
          else
            match bridge.get sessionId with
            | none => none
            | some session =>
                if session.protocol ≠ .framed ∨ session.agentReady = false then none
                else some token
  | .tunnel _ =>
      match request.header "x-tunnel-public-id" with
      | none => none
      | some publicId =>
          match (bridge.authenticateTunnel request none).or
              (bridge.authenticateTunnel request request.queryToken) with
          | none => none
          | some (token, tokenPublicId) =>
              if publicId = "" ∨ tokenPublicId ≠ publicId then none
              else
                match bridge.getByPublicId publicId with
                | none => none
                | some session => if session.agentReady = false then none else some token

/-- The accepted token and the operation of a request that is forwarded. -/
def forward (bridge : HttpServer) (streamId : String) (request : ClientRequest) :
    Option (String × Operation) :=
  if request.method = "OPTIONS" then none
  else
    match request.route with
    | none => none
    | some route =>
        (bridge.acceptedToken request route).map fun token =>
          (token, handOn request streamId route)

theorem forward_eq_some {bridge : HttpServer} {streamId token : String} {request : ClientRequest}
    {operation : Operation} (forwarded : bridge.forward streamId request = some
        (token, operation)) :
    ∃ route, request.route = some route ∧ bridge.acceptedToken request route = some token ∧
      operation = handOn request streamId route := by
  unfold forward at forwarded
  split at forwarded
  · cases forwarded
  split at forwarded
  · cases forwarded
  · rename_i route matched
    obtain ⟨accepted, found, same⟩ := Option.map_eq_some_iff.mp forwarded
    cases same
    exact ⟨route, matched, found, rfl⟩

end HttpServer

/-! ### The path of a route -/

theorem mem_of_dropPrefix {text start rest : List Char}
    (dropped : text.dropPrefix? start = some rest) {character : Char}
    (member : character ∈ rest) : character ∈ text := by
  obtain ⟨before, same, _⟩ := List.dropPrefix?_eq_some_iff.mp dropped
  rw [same]
  exact List.mem_append_right before member

theorem route_path_subset {request : ClientRequest} {route : Route}
    (matched : request.route = some route) {character : Char}
    (member : character ∈ route.path.toList) :
    character = '/' ∨ character ∈ request.pathname.toList := by
  unfold ClientRequest.route at matched
  split at matched
  · grind [Route.path, String.toList_ofList, mem_of_dropPrefix]
  · obtain ⟨parts, found, same⟩ := Option.map_eq_some_iff.mp matched
    subst same
    unfold proxyMatch at found
    split at found
    · cases found
    rename_i behind dropped
    dsimp only at found
    split at found
    · cases found
    split at found
    · cases found
    rename_i rest droppedProxy
    split at found
    · cases found
      rw [Route.path] at member
      by_cases root : String.ofList rest = ""
      · rw [if_pos root] at member
        exact .inl (List.mem_singleton.mp member)
      · rw [if_neg root, String.toList_ofList] at member
        grind [mem_of_dropPrefix, List.mem_of_mem_drop]
    · cases found

theorem notMem_route_path {request : ClientRequest} {route : Route}
    (matched : request.route = some route) : '?' ∉ route.path.toList := by
  grind [route_path_subset, request.pathOnly]

end Lombok.Tunnel
