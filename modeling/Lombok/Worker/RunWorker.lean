import Lombok.Core.FormBody

/-!
Contract: an HTTP request on its way into the process of an app's worker.

Owns the request, what the two processes take from their platform (URLs,
methods, multipart forms), the serialised request of `runWorker`, its line on
the socket, and the request the daemon builds from it.

Does not own: what the handler answers, the worker process and its logs.
-/

namespace Lombok.Worker

open Lombok.Core
open Lombok.Library

/-! ### Requests -/

/-- A `Request`, as far as a handler can tell two of them apart. -/
structure Request where
  method : String
  pathname : String
  search : String
  headers : FetchHeaders
  body : Option (List UInt8)
deriving DecidableEq

/-- `Request` normalises the case of the methods it knows. -/
def normalizeMethod (method : String) : String :=
  if ["DELETE", "GET", "HEAD", "OPTIONS", "POST", "PUT"].contains method.toUpper then method.toUpper
  else method

/-- What `runWorker` and the daemon take from the platform they run on. -/
structure Platform where
  /-- The hosts a URL can have. -/
  isAuthority : String → Bool
  /-- The path and the query of an absolute URL. -/
  parseUrl : String → Option (String × String)
  admitsMethod : String → Bool
  refusesBody : String → Bool
  /-- The MIME type of a `Content-Type`, without its parameters. -/
  essence : String → String
  multipart : String → List UInt8 → Except String (List (String × String))
  /-- What `formData()` says of a body that is no form. -/
  noForm : String
  /-- `headers.get('host')` of a request without one is printed. -/
  nullAuthority : isAuthority "null" = true
  /-- A path and a query that were parsed are parsed again behind any host. -/
  parsesAgain : ∀ host path query url, isAuthority host = true →
    parseUrl url = some (path, query) →
      parseUrl ("http://" ++ host ++ path ++ query) = some (path, query)
  refusesOnly : ∀ method, refusesBody method = true → method = "GET" ∨ method = "HEAD"
  /-- A multipart body starts with a boundary or has a line before it. -/
  multipartLine : ∀ contentType bytes entries, multipart contentType bytes = .ok entries →
    [45, 45] <+: bytes ∨ (10 : UInt8) ∈ bytes

/-- A request a worker is sent: its host is one, and its path and query are those of its URL. -/
structure HttpRequest (platform : Platform) extends Request where
  url : String
  methodNormal : normalizeMethod method = method
  parsed : platform.parseUrl url = some (pathname, search)
  hostPlain : ∀ host, headers.get "host" = some host → platform.isAuthority host = true

/-! ### Text -/

/-- `text.includes(part)`. -/
def includes (text part : String) : Bool := text.toList.tails.any part.toList.isPrefixOf

/-- `request.text()`: UTF-8, without the byte order mark. -/
def text (body : Option (List UInt8)) : String :=
  match body.getD [] with
  | 0xEF :: 0xBB :: 0xBF :: rest => decodeUtf8 rest
  | bytes => decodeUtf8 bytes

/-! ### Forms -/

def arrayIndex (name : String) : Option Nat :=
  name.toNat?.bind fun index =>
    if toString index = name ∧ index < 4294967295 then some index else none

/-- The order of own properties: indices first, then names as they were added. -/
def propertyOrder (properties : List (String × String)) : List (String × String) :=
  (properties.filter fun property => (arrayIndex property.1).isSome).insertionSort
      (fun first second => (arrayIndex first.1).getD 0 ≤ (arrayIndex second.1).getD 0) ++
    properties.filter fun property => (arrayIndex property.1).isNone

/-- `formObject`: assigning a string to `__proto__` does nothing. -/
def formObject (entries : List (String × String)) : List (String × String) :=
  propertyOrder (FetchHeaders.fromEntries (entries.filter fun entry =>
      entry.1 != "__proto__")).entries

/-! ### `run-worker.ts` -/

inductive ParsedBody where
  | undefined
  | string (text : String)
  | object (properties : List (String × String))

def methodsWithoutBody : List String := ["GET", "HEAD", "OPTIONS"]

def contentTypeOf (headers : FetchHeaders) : String := (headers.get "content-type").getD ""

namespace Platform

variable (platform : Platform)

/-- `request.formData()`. -/
def formData (contentType : String) (body : Option (List UInt8)) :
    Except String (List (String × String)) :=
  if platform.essence contentType = "multipart/form-data" then
    platform.multipart contentType (body.getD [])
  else if platform.essence contentType = "application/x-www-form-urlencoded" then
    .ok (formEntries (body.getD []))
  else .error platform.noForm

def parseRequestBody (request : Request) : Except String ParsedBody :=
  if methodsWithoutBody.contains request.method then .ok .undefined
  else
    let contentType := contentTypeOf request.headers
    if request.headers.get "content-length" = some "0" ∨ contentType = "" then .ok .undefined
    else if includes contentType "application/json" then .ok (.string (text request.body))
    else if includes contentType "text/plain" || "text/".toList.isPrefixOf contentType.toList then
      .ok (.string (text request.body))
    else if includes contentType "application/x-www-form-urlencoded" then
      match platform.formData contentType request.body with
      | .ok entries => .ok (.object (formObject entries))
      | .error message =>
          .error (s!"Failed to parse request body (Content-Type: {contentType}): {message}")
    else .ok (.string (text request.body))

end Platform

/-- `SerializeableRequest`. -/
structure SerializeableRequest where
  url : String
  method : String
  headers : OrderedMap String String
  body : String

def bodyString : ParsedBody → String
  | .undefined => Json.stringify (.str "")
  | .string text => text
  | .object properties => Json.stringify (.obj (stringFields properties))

namespace Platform

variable (platform : Platform)

def serialize (request : Request) : Except String SerializeableRequest :=
  (platform.parseRequestBody request).map fun parsedBody =>
    { url := request.pathname ++ request.search
      method := request.method
      headers := FetchHeaders.fromEntries request.headers.entries
      body := bodyString parsedBody }

end Platform

/-! ### The line on the socket -/

/-- What `runWorker` sends along with a request. -/
structure Dispatch where
  requestId : String
  timestamp : Nat
  isSystemRequest : Bool
  outLogPath : String
  errLogPath : String
  appIdentifier : String

/-- `token.replace('Bearer ', '')`: the first occurrence goes. -/
def withoutBearer : List Char → List Char
  | [] => []
  | character :: rest =>
      if "Bearer ".toList.isPrefixOf (character :: rest) then (character :: rest).drop 7
      else character :: withoutBearer rest

def requestJson (data : SerializeableRequest) : Json :=
  .obj [("url", .str data.url), ("method", .str data.method),
    ("headers", .obj (stringFields data.headers.entries)), ("body", .str data.body)]

def pipeRequest (dispatch : Dispatch) (request : Request) (data : SerializeableRequest) : Json :=
  .obj (Fields.ofOptions
    [("id", some (.str dispatch.requestId)),
      ("type", some (.str "request")),
      ("isSystemRequest", some (.bool dispatch.isSystemRequest)),
      ("timestamp", some (.ofNat dispatch.timestamp)),
      ("data", some (requestJson data)),
      ("outputLogFilepath", some (.str dispatch.outLogPath)),
      ("errorLogFilepath", some (.str dispatch.errLogPath)),
      ("authToken", (request.headers.get "authorization").map fun value =>
        .str (String.ofList (withoutBearer value.toList))),
      ("appIdentifier", some (.str dispatch.appIdentifier))])

/-- `writeRequest`: the message of a line. -/
def requestMessage (payload : Json) : Json := .obj [("type", .str "request"), ("payload", payload)]

/-! ### `worker-daemon.ts` -/

/-- `readRequest`: the payload of a request message. -/
def readRequest (message : Json) : Option Json :=
  match message.get? "type" with
  | some (.str "request") => message.get? "payload"
  | _ => none

def stringProperties : Fields → Option (List (String × String))
  | [] => some []
  | (name, .str value) :: rest => (stringProperties rest).map fun others => (name, value) :: others
  | _ :: _ => none

/-- The `data` of a request, read as an HTTP request. -/
def requestData (payload : Json) : Option SerializeableRequest :=
  match payload.get? "data" with
  | some data =>
      match data.get? "url", data.get? "method", data.get? "headers", data.get? "body" with
      | some (.str url), some (.str method), some (.obj fields), some (.str body) =>
          (stringProperties fields).map fun properties =>
            { url := url, method := method, headers := FetchHeaders.fromEntries properties,
              body := body }
      | _, _, _, _ => none
  | none => none

namespace Platform

variable (platform : Platform)

/-- `new Request(url, { method, headers, body })`. -/
def newRequest (url method : String) (headers : FetchHeaders) (body : Option String) :
    Option Request :=
  match platform.parseUrl url with
  | none => none
  | some (pathname, search) =>
      if !platform.admitsMethod method then none
      else if body.isSome && platform.refusesBody (normalizeMethod method) then none
      else
        some {
          method := normalizeMethod method
          pathname := pathname
          search := search
          headers :=
            if body.isSome ∧ headers.get "content-type" = none then
              headers ++ [("content-type", "text/plain;charset=UTF-8")]
            else headers
          body := body.map toUtf8 }

/-- Every branch on the `Content-Type` keeps a body that is a string. -/
def reconstructRequest (serialized : SerializeableRequest) : Option Request :=
  let headers := FetchHeaders.ofRecord serialized.headers
  let body := if serialized.body.toList.isEmpty then none else some serialized.body
  platform.newRequest ("http://" ++ (headers.get "host").getD "null" ++ serialized.url)
    serialized.method headers body

/-- The request the daemon builds from what `runWorker` sends, where both do. -/
def relay (dispatch : Dispatch) (request : Request) : Option Request :=
  match platform.serialize request with
  | .error _ => none
  | .ok data =>
      let line := Json.stringify (requestMessage (pipeRequest dispatch request data))
      (((Json.parse line).bind readRequest).bind requestData).bind platform.reconstructRequest

end Platform

end Lombok.Worker
