import Lombok.Library.Lines
import Lombok.Library.Run
import Mathlib.Data.List.Nodup

/-!
Contract: the UI bundles that the core worker serves from its cache.

Owns `handleUiBundleRequest`, with every awaited statement as a step of its own: the
look into the cache, the reads of `manifest.json` and `csp.txt`, the fetch of a bundle
with its writes, its download and its extraction, and the file that is served. Any number
of requests are under way at a time, over one disk and one mapping of apps to hashes.

A file that is being written holds anything until the write is done. A fetch may fail, or
stop for ever, at each of its steps; what it wrote before stays. The cache is empty when
the worker starts. `settled` is not part of the program: it remembers of a directory
whether a fetch began in it alone and none has failed in it since.

Does not own JSON and UTF-8: what is written into `manifest.json` and `csp.txt` is read
back as it was, which is the law of `UiFormats`. What is published under a hash does not
change, and every path of a manifest is a file of its bundle. A stream that is cut is not
taken for a zip, so an extraction that ends well has written the files of the bundle.
-/

namespace Lombok.Apps

open Lombok.Library

/-! ### Paths -/

/-- One more segment; the segments so far are innermost first. -/
def pushSegment (absolute : Bool) (above : List (List Char)) (segment : List Char) :
    List (List Char) :=
  if segment = [] ∨ segment = ['.'] then above
  else if segment = ['.', '.'] then
    match above with
    | [] => if absolute then [] else [segment]
    | last :: rest => if last = ['.', '.'] then segment :: above else rest
  else segment :: above

/-- The segments of a path without `.` and `..`. -/
def pathSegments (absolute : Bool) (path : List Char) : List (List Char) :=
  let cut := Lines.takeLines '/' path
  ((cut.1 ++ [cut.2]).foldl (pushSegment absolute) []).reverse

def joinSegments (segments : List (List Char)) : List Char := ['/'].intercalate segments

/-- `path.join(pathname, 'index.html')`. -/
def indexPath (pathname : String) : String :=
  let joined := (if pathname = "" then "index.html" else pathname ++ "/index.html").toList
  match joined with
  | '/' :: _ => String.ofList ('/' :: joinSegments (pathSegments true joined))
  | _ => String.ofList (joinSegments (pathSegments false joined))

/-- Where `path.join(appBundleCacheDir, targetPath)` is in the directory. -/
def relativePath (targetPath : String) : String :=
  let segments := pathSegments false targetPath.toList
  if targetPath.toList.getLast? = some '/' ∧ segments ≠ [] then
    String.ofList (joinSegments segments ++ ['/'])
  else String.ofList (joinSegments segments)

/-! ### Bundles -/

structure UiManifestEntry where
  hash : String
  size : Nat
  mimeType : String
deriving DecidableEq

/-- Own properties of an object, so no path has two entries. -/
abbrev UiManifest := List (String × UiManifestEntry)

/-- What an app's bundle has under one hash. -/
structure UiBundle (Content : Type) where
  manifest : UiManifest
  csp : Option String
  zip : Content
  /-- What the zip extracts to. -/
  files : List (String × Content)
  ownPaths : (manifest.map Prod.fst).Nodup
  ownFiles : (files.map Prod.fst).Nodup
  listed : ∀ entry ∈ manifest, ∃ content, (relativePath entry.1, content) ∈ files

/-- JSON and UTF-8 on the disk. -/
structure UiFormats (Content : Type) where
  /-- `JSON.stringify(manifest, null, 2)`. -/
  stringify : UiManifest → Content
  /-- `JSON.parse`, nothing where it throws. -/
  parse : Content → Option UiManifest
  encode : String → Content
  decode : Content → String
  parse_stringify : ∀ manifest, parse (stringify manifest) = some manifest
  decode_encode : ∀ text, decode (encode text) = text

/-- A directory of the cache: an app and a hash. -/
abbrev UiDir := String × String

def manifestFile : String := "manifest.json"

def cspFile : String := "csp.txt"

def zipFile : String := "bundle.zip"

/-! ### Responses -/

inductive UiResponse (Content : Type) where
  | file (content : Content) (contentType : Option String) (csp : String)
  | error (status : Nat) (message : String)

/-- What every object inherits, so that `in` finds it. -/
def inheritedNames : List String :=
  ["constructor", "__defineGetter__", "__defineSetter__", "hasOwnProperty", "__lookupGetter__",
    "__lookupSetter__", "isPrototypeOf", "propertyIsEnumerable", "toString", "valueOf",
    "__proto__", "toLocaleString"]

/-- `path in manifest`. -/
def isIn (manifest : UiManifest) (path : String) : Bool :=
  manifest.any (fun entry => entry.1 == path) || inheritedNames.contains path

def chooseTarget (manifest : UiManifest) (pathname : String) : String :=
  if isIn manifest pathname then pathname
  else if isIn manifest (indexPath pathname) then indexPath pathname
  else "index.html"

def manifestEntryAt (manifest : UiManifest) (path : String) : Option UiManifestEntry :=
  (manifest.find? fun entry => entry.1 == path).map Prod.snd

/-- The end of the handler. An inherited name has no `mimeType`. -/
def serveFile {Content : Type} (manifest : UiManifest) (csp pathname : String)
    (read : String → Option Content) : UiResponse Content :=
  let target := chooseTarget manifest pathname
  if isIn manifest target then
    match read (relativePath target) with
    | some content =>
        .file content
          (if pathname = "/" then some "text/html"
            else (manifestEntryAt manifest target).map UiManifestEntry.mimeType) csp
    | none => .error 500 "Internal server error"
  else .error 404 "Not Found"

/-! ### Fetching -/

/-- A step of a fetch after the directory is made. -/
inductive UiJob (Content : Type) where
  | write (path : String) (content : Content)
  /-- `fetch` and `arrayBuffer`. -/
  | download
  /-- A file that `unzip` writes. -/
  | extract (path : String) (content : Content)
  /-- `unzip` exits. -/
  | exit

/-- The file a step writes. -/
def UiJob.target? {Content : Type} : UiJob Content → Option (String × Content)
  | .write path content => some (path, content)
  | .extract path content => some (path, content)
  | .download | .exit => none

inductive UiOutcome where
  | done
  /-- A download that is not `ok`, or an exit code other than zero. -/
  | failed
  | thrown
deriving DecidableEq

/-- The answer to a step that did not work out. -/
def UiJob.failure {Content : Type} : UiJob Content → UiOutcome → UiResponse Content
  | .download, .failed => .error 500 "Failed to download bundle"
  | .extract _ _, _ => .error 500 "Failed to extract bundle"
  | .exit, .failed => .error 500 "Failed to extract bundle"
  | _, _ => .error 500 "Internal server error"

section Fetch

variable {Content : Type} (formats : UiFormats Content)

/-- `bundleResponse.csp ?? ''`. -/
def UiBundle.cspText (bundle : UiBundle Content) : String := bundle.csp.getD ""

/-- From the first write to the exit of `unzip`. -/
def fetchJobs (bundle : UiBundle Content) : List (UiJob Content) :=
  [.write manifestFile (formats.stringify bundle.manifest),
    .write cspFile (formats.encode bundle.cspText), .download, .write zipFile bundle.zip] ++
    (bundle.files.map fun file => .extract file.1 file.2) ++ [.exit]

end Fetch

/-! ### Requests -/

inductive UiStage (Content : Type) where
  | readingManifest (uiHash : String)
  | readingCsp (uiHash : String) (manifestContent : Content)
  /-- Awaiting `getUiBundle`. -/
  | asking (uiHash : String)
  | makingDir (uiHash : String) (manifest : UiManifest) (csp : String)
  | filling (uiHash : String) (manifest : UiManifest) (csp : String)
      (jobs : List (UiJob Content))
  /-- Ahead of the look for the file. -/
  | loaded (uiHash : String) (manifest : UiManifest) (csp : String)
  | answered (uiHash : Option String) (response : UiResponse Content)

structure UiRequest (Content : Type) where
  appIdentifier : String
  pathname : String
  stage : UiStage Content
  /-- A step of the fetch of this request did not work out. -/
  failed : Bool

structure UiServer (Content : Type) where
  appUiHashMapping : String → Option String
  disk : UiDir → String → Option Content
  requests : List (UiRequest Content)
  settled : UiDir → Bool

/-- `getUiBundle`, as far as it is not what is published. -/
structure UiBundleResponse where
  uiHash : String
  bundleUrl : String

inductive UiAction (Content : Type) where
  /-- The host sets or removes the hash of an app. -/
  | mapped (appIdentifier : String) (uiHash : Option String)
  | arrive (appIdentifier pathname : String)
  /-- `getUiBundle` returns, or throws. -/
  | respond (index : Nat) (response : Option UiBundleResponse)
  | makeDir (index : Nat) (outcome : UiOutcome)
  /-- The file that is being written holds this for now. -/
  | tear (index : Nat) (content : Content)
  | job (index : Nat) (outcome : UiOutcome)
  /-- A read of `manifest.json` or `csp.txt`. -/
  | read (index : Nat)
  | serve (index : Nat)

section Steps

variable {Content : Type}

/-- The directory a request writes into. -/
def UiRequest.fillingDir (request : UiRequest Content) : Option UiDir :=
  match request.stage with
  | .filling uiHash _ _ _ => some (request.appIdentifier, uiHash)
  | _ => none

def UiRequest.readingDir (request : UiRequest Content) : Option UiDir :=
  match request.stage with
  | .readingManifest uiHash => some (request.appIdentifier, uiHash)
  | .readingCsp uiHash _ => some (request.appIdentifier, uiHash)
  | .loaded uiHash _ _ => some (request.appIdentifier, uiHash)
  | _ => none

def UiRequest.answer (request : UiRequest Content) (uiHash : Option String)
    (response : UiResponse Content) (failed : Bool) : UiRequest Content :=
  { request with stage := .answered uiHash response, failed := failed }

def UiServer.put (server : UiServer Content) (index : Nat) (request : UiRequest Content) :
    UiServer Content :=
  { server with requests := server.requests.set index request }

def UiServer.writeFile (server : UiServer Content) (dir : UiDir) (path : String)
    (content : Content) : UiServer Content :=
  { server with
    disk := fun other file =>
      if other = dir ∧ file = path then some content else server.disk other file }

def UiServer.settle (server : UiServer Content) (dir : UiDir) (value : Bool) : UiServer Content :=
  { server with settled := fun other => if other = dir then value else server.settled other }

/-- No request writes into the directory. -/
def UiServer.isQuiet (server : UiServer Content) (dir : UiDir) : Bool :=
  server.requests.all fun request => decide (request.fillingDir ≠ some dir)

/-- The handler up to its first `await`. -/
def arriveRequest (server : UiServer Content) (appIdentifier pathname : String) :
    UiRequest Content :=
  let uiHash := (server.appUiHashMapping appIdentifier).getD ""
  { appIdentifier, pathname, failed := false
    stage :=
      if uiHash ≠ "" ∧ (server.disk (appIdentifier, uiHash) manifestFile).isSome = true then
        .readingManifest uiHash
      else .asking uiHash }

variable (published : UiDir → UiBundle Content) (formats : UiFormats Content)

/-- After `getUiBundle`, up to `mkdir`. -/
def respondRequest (server : UiServer Content) (index : Nat) (request : UiRequest Content)
    (uiHash : String) : Option UiBundleResponse → UiServer Content
  | none => server.put index (request.answer none (.error 500 "Internal server error") true)
  | some response =>
      if response.uiHash = "" then
        server.put index (request.answer none (.error 409 "App not ready") true)
      else
        let mapped :=
          if response.uiHash ≠ uiHash then
            { server with
              appUiHashMapping := fun other =>
                if other = request.appIdentifier then some response.uiHash
                else server.appUiHashMapping other }
          else server
        if response.bundleUrl = "" then
          mapped.put index (request.answer none (.error 404 "Bundle URL not found") true)
        else
          let bundle := published (request.appIdentifier, response.uiHash)
          mapped.put index
            { request with
              stage := .makingDir response.uiHash bundle.manifest bundle.cspText }

/-- `mkdir` returns. A fetch that begins alone settles the directory. -/
def makeDirRequest (server : UiServer Content) (index : Nat) (request : UiRequest Content)
    (uiHash : String) (manifest : UiManifest) (csp : String) : UiOutcome → UiServer Content
  | .done =>
      let dir := (request.appIdentifier, uiHash)
      (server.settle dir (server.settled dir || server.isQuiet dir)).put index
        { request with
          stage := .filling uiHash manifest csp (fetchJobs formats (published dir)) }
  | _ => server.put index (request.answer none (.error 500 "Internal server error") true)

/-- The file under the next step of a fetch, as far as it is written. -/
def tearRequest (server : UiServer Content) (request : UiRequest Content) (content : Content) :
    UiServer Content :=
  match request.stage with
  | .filling uiHash _ _ (job :: _) =>
      match job.target? with
      | some (path, _) => server.writeFile (request.appIdentifier, uiHash) path content
      | none => server
  | _ => server

/-- The next step of a fetch is over. -/
def jobRequest (server : UiServer Content) (index : Nat) (request : UiRequest Content)
    (uiHash : String) (manifest : UiManifest) (csp : String) (job : UiJob Content)
    (rest : List (UiJob Content)) : UiOutcome → UiServer Content
  | .done =>
      let dir := (request.appIdentifier, uiHash)
      let stage :=
        match rest with
        | [] => UiStage.loaded uiHash manifest csp
        | next :: others => .filling uiHash manifest csp (next :: others)
      let written :=
        match job.target? with
        | some (path, content) => server.writeFile dir path content
        | none => server
      written.put index { request with stage := stage }
  | outcome =>
      (server.settle (request.appIdentifier, uiHash) false).put index
        (request.answer none (job.failure outcome) true)

/-- The reads of the cached branch. Where one throws, the manifest stays empty. -/
def readRequest (server : UiServer Content) (request : UiRequest Content) :
    Option (UiStage Content) :=
  match request.stage with
  | .readingManifest uiHash =>
      match server.disk (request.appIdentifier, uiHash) manifestFile with
      | some content => some (.readingCsp uiHash content)
      | none => some (.loaded uiHash [] "")
  | .readingCsp uiHash manifestContent =>
      match server.disk (request.appIdentifier, uiHash) cspFile with
      | some content =>
          some (.loaded uiHash ((formats.parse manifestContent).getD [])
            (formats.decode content))
      | none => some (.loaded uiHash [] "")
  | _ => none

def uiStep (server : UiServer Content) : UiAction Content → UiServer Content
  | .mapped appIdentifier uiHash =>
      { server with
        appUiHashMapping := fun other =>
          if other = appIdentifier then uiHash else server.appUiHashMapping other }
  | .arrive appIdentifier pathname =>
      { server with
        requests := server.requests ++ [arriveRequest server appIdentifier pathname] }
  | .respond index response =>
      match server.requests[index]? with
      | some request =>
          match request.stage with
          | .asking uiHash => respondRequest published server index request uiHash response
          | _ => server
      | none => server
  | .makeDir index outcome =>
      match server.requests[index]? with
      | some request =>
          match request.stage with
          | .makingDir uiHash manifest csp =>
              makeDirRequest published formats server index request uiHash manifest csp outcome
          | _ => server
      | none => server
  | .tear index content =>
      match server.requests[index]? with
      | some request => tearRequest server request content
      | none => server
  | .job index outcome =>
      match server.requests[index]? with
      | some request =>
          match request.stage with
          | .filling uiHash manifest csp (job :: rest) =>
              jobRequest server index request uiHash manifest csp job rest outcome
          | _ => server
      | none => server
  | .read index =>
      match server.requests[index]? with
      | some request =>
          match readRequest formats server request with
          | some stage => server.put index { request with stage := stage }
          | none => server
      | none => server
  | .serve index =>
      match server.requests[index]? with
      | some request =>
          match request.stage with
          | .loaded uiHash manifest csp =>
              server.put index (request.answer (some uiHash)
                (serveFile manifest csp request.pathname
                  (server.disk (request.appIdentifier, uiHash))) request.failed)
          | _ => server
      | none => server

/-- The worker starts with an empty cache. -/
def UiServer.start : UiServer Content where
  appUiHashMapping := fun _ => none
  disk := fun _ _ => none
  requests := []
  settled := fun _ => false

end Steps

end Lombok.Apps
