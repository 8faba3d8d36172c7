import Lombok.Core.Values

/-!
Contract: what a worker agent keeps and sends while it runs a job.

Owns the payload, the state and result files of a job, the calls the agent makes
to the platform, and the upload of a job's output files.

The outcome of every step outside of the agent is an argument: what a call to
the platform or to the worker answers, and what a file read or decoded gives.
Durations, agent logs and what is printed are left out.
-/

namespace Lombok.Agent

open Lombok.Core

/-! ### Data -/

structure InterfaceConfig where
  kind : String
  port : Option Int
deriving Inhabited

structure OutputLocation where
  folderId : String
  keyPrefix : String
deriving Inhabited

structure JobPayload where
  waitForCompletion : Option Bool
  jobId : String
  jobClass : String
  workerCommand : List String
  interface : InterfaceConfig
  jobInput : Json
  jobToken : String
  platformUrl : String
  outputLocation : Option OutputLocation
deriving Inhabited

def JobPayload.waits (payload : JobPayload) : Bool := payload.waitForCompletion == some true

/-- `platformClient != nil`. -/
def JobPayload.hasPlatformClient (payload : JobPayload) : Bool :=
  payload.platformUrl != "" && payload.jobToken != ""

inductive ErrorOrigin where
  | app
  | platform
deriving DecidableEq, Inhabited

structure JobError where
  code : String
  message : String
  origin : ErrorOrigin
  details : Fields
deriving Inhabited

structure JobMeta where
  exitCode : Int
deriving DecidableEq, Inhabited

/-- The state of a job; what its file leaves out is `none` or empty. -/
structure JobState where
  jobId : String
  jobClass : String
  status : String
  startedAt : Option Date := none
  completedAt : Option Date := none
  workerKind : String
  workerPid : Int := 0
  workerStatePid : Int := 0
  error : String := ""
  jobMeta : Option JobMeta := none
deriving DecidableEq, Inhabited

structure OutputFileRef where
  folderId : String
  objectKey : String
deriving DecidableEq, Inhabited

structure JobResult where
  success : Bool
  jobId : String
  jobClass : String
  result : Option Json
  error : Option JobError
  outputFiles : List OutputFileRef
  exitCode : Option Int
deriving Inhabited

structure CompletionRequest where
  success : Bool
  result : Option Json
  error : Option JobError
  outputFiles : List OutputFileRef
deriving Inhabited

/-- A call to the platform; a start carries the error it was answered with. -/
inductive PlatformCall where
  | start (error : Option String)
  | progress (update : Json)
  | completion (request : CompletionRequest)
deriving Inhabited

/-- The files of a job and the calls made for it. -/
structure AgentWorld where
  stateFile : Option JobState := none
  resultFile : Option JobResult := none
  calls : List PlatformCall := []
deriving Inhabited

namespace AgentWorld

/-- `WriteJobState`, after the state file was created. -/
def writeJobState (world : AgentWorld) (jobState : JobState) : AgentWorld :=
  { world with stateFile := some jobState }

def writeJobResult (world : AgentWorld) (jobResult : JobResult) : AgentWorld :=
  { world with resultFile := some jobResult }

def call (world : AgentWorld) (platformCall : PlatformCall) : AgentWorld :=
  { world with calls := world.calls ++ [platformCall] }

variable (world : AgentWorld)

@[simp] theorem writeJobState_stateFile (jobState : JobState) :
    (world.writeJobState jobState).stateFile = some jobState := rfl

@[simp] theorem writeJobState_calls (jobState : JobState) :
    (world.writeJobState jobState).calls = world.calls := rfl

@[simp] theorem writeJobResult_stateFile (jobResult : JobResult) :
    (world.writeJobResult jobResult).stateFile = world.stateFile := rfl

@[simp] theorem writeJobResult_calls (jobResult : JobResult) :
    (world.writeJobResult jobResult).calls = world.calls := rfl

@[simp] theorem call_stateFile (platformCall : PlatformCall) :
    (world.call platformCall).stateFile = world.stateFile := rfl

@[simp] theorem call_calls (platformCall : PlatformCall) :
    (world.call platformCall).calls = world.calls ++ [platformCall] := rfl

end AgentWorld

/-- How a run of the agent ends. -/
inductive Ending where
  | returned (error : Option String)
  | exited (code : Int)
deriving DecidableEq, Inhabited

/-! ### Uploads -/

structure OutputFile where
  localPath : String
  objectKey : String
  contentType : String
deriving Inhabited

structure OutputManifest where
  files : List OutputFile
deriving Inhabited

structure UploadUrl where
  folderId : String
  objectKey : String
  method : String
  url : String
deriving Inhabited

/-- What the steps of an upload answer: the request for URLs, and the transfer of each file by its
position in the manifest. -/
structure UploadSteps where
  requestUploadUrls : Except String (List UploadUrl)
  uploadFile : Nat → Option String
deriving Inhabited

def trimSlashPrefix (text : String) : String :=
  match text.toList with
  | '/' :: rest => String.ofList rest
  | _ => text

def trimSlashSuffix (text : String) : String :=
  match text.toList.reverse with
  | '/' :: rest => String.ofList rest.reverse
  | _ => text

def buildObjectKey (keyPrefix objectKey : String) : String :=
  if keyPrefix == "" then trimSlashPrefix objectKey
  else trimSlashSuffix keyPrefix ++ "/" ++ trimSlashPrefix objectKey

/-- The key of a URL in `urlMap`. -/
def urlKey (folderId objectKey method : String) : String :=
  folderId ++ ":" ++ objectKey ++ ":" ++ method

/-- A lookup in `urlMap`, where a later URL has replaced an earlier one of its key. -/
def findUploadUrl (urls : List UploadUrl) (key : String) : Option UploadUrl :=
  urls.reverse.find? fun url => urlKey url.folderId url.objectKey url.method == key

/-- The loop over the manifest from a position on: the files uploaded, and the error it
ends with. -/
def uploadFrom (steps : UploadSteps) (urls : List UploadUrl) (location : OutputLocation) :
    Nat → List OutputFileRef → List OutputFile → List OutputFileRef × Option String
  | _, uploaded, [] => (uploaded, none)
  | position, uploaded, file :: rest =>
      let finalObjectKey := buildObjectKey location.keyPrefix file.objectKey
      let place := location.folderId ++ "/" ++ finalObjectKey
      match findUploadUrl urls (urlKey location.folderId finalObjectKey "PUT") with
      | none => (uploaded, some ("no presigned URL for " ++ place))
      | some uploadUrl =>
          if uploadUrl.method ≠ "PUT" then
            (uploaded, some ("unexpected presigned method " ++ uploadUrl.method ++
                " for " ++ place))
          else
            match steps.uploadFile position with
            | some error =>
                (uploaded, some ("failed to upload " ++ file.localPath ++ ": " ++ error))
            | none =>
                uploadFrom steps urls location (position + 1)
                  (uploaded ++ [{ folderId := uploadUrl.folderId
                                  objectKey := uploadUrl.objectKey }]) rest

/-- `UploadFiles`. -/
def uploadFiles (steps : UploadSteps) (manifest : OutputManifest) (location : OutputLocation) :
    List OutputFileRef × Option String :=
  if manifest.files.isEmpty then
    ([], none)
  else
    match steps.requestUploadUrls with
    | .error error => ([], some ("failed to get upload URLs: " ++ error))
    | .ok urls => uploadFrom steps urls location 0 [] manifest.files

/-- What becomes of a job's outputs: the manifest read, and the steps of their upload. -/
structure OutputSteps where
  readManifest : Except String (Option OutputManifest)
  upload : UploadSteps
deriving Inhabited

/-- The upload a runner attempts: the outcome of `UploadFiles`, and nothing where the manifest
cannot be read, is missing or empty, or where there is no output location. -/
def attemptUpload (payload : JobPayload) (outputs : OutputSteps) :
    List OutputFileRef × Option String :=
  match outputs.readManifest, payload.outputLocation with
  | .ok (some manifest), some location => uploadFiles outputs.upload manifest location
  | _, _ => ([], none)

/-- `outputFiles`: the files of an upload that succeeded. -/
def outputFilesOf (payload : JobPayload) (outputs : OutputSteps) : List OutputFileRef :=
  match attemptUpload payload outputs with
  | (uploaded, none) => uploaded
  | (_, some _) => []

def uploadErrorOf (payload : JobPayload) (outputs : OutputSteps) : Option String :=
  (attemptUpload payload outputs).2

end Lombok.Agent
