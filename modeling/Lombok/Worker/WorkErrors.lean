import Lombok.Core.JsValue

/-!
Contract: work errors, their envelopes, and how they are built from what was thrown.

Owns `AsyncWorkError` with `toEnvelope` and `fromEnvelope`, `errorEnvelopeSchema`,
`stringifyError`, `convertUnknownThrownToSerializable`, `buildUnexpectedError`,
`convertErrorToAsyncWorkError`, and `getAsyncWorkErrorFromAppTaskError` with its
validation. The stacks that the engine fills in are arguments.

Cause chains end. Does not own the names and codes that the callers choose.
-/

namespace Lombok.Worker

open Lombok.Core

/-! ### Envelopes -/

inductive ErrorOrigin where
  | platform
  | app

/-- `details`: a value of the caller, or an object of entries that were parsed. -/
inductive ErrorDetails where
  | given (value : JsValue)
  | parsed (fields : List (String × Json))

/-- The fields of an error beside its cause; an absent field is `undefined`. -/
structure WorkErrorFields (Message : Type) where
  name : JsValue
  origin : ErrorOrigin
  code : String
  message : Message
  stack : Option String := none
  details : ErrorDetails := .given .undefined
  requeueDelayMs : JsValue := .undefined
  executionMetadata : JsValue := .undefined

def WorkErrorFields.withMessage {First Second : Type} (fields : WorkErrorFields First)
    (message : Second) : WorkErrorFields Second where
  name := fields.name
  origin := fields.origin
  code := fields.code
  message := message
  stack := fields.stack
  details := fields.details
  requeueDelayMs := fields.requeueDelayMs
  executionMetadata := fields.executionMetadata

inductive AsyncWorkErrorEnvelope where
  | mk (fields : WorkErrorFields JsValue) (cause : Option AsyncWorkErrorEnvelope)

inductive AsyncWorkError where
  | mk (fields : WorkErrorFields String) (cause : Option AsyncWorkError)

namespace AsyncWorkError

/-- The constructor, with a cause that is a work error: `super` makes a text of the message. -/
def construct (fields : WorkErrorFields JsValue) (cause : Option AsyncWorkError) :
    Except JsFailure AsyncWorkError := do
  let message ← fields.message.messageText
  .ok (.mk (fields.withMessage message) cause)

/-- `fromEnvelope`, which is the constructor with a cause that is an envelope. -/
def fromEnvelope : AsyncWorkErrorEnvelope → Except JsFailure AsyncWorkError
  | .mk fields none => construct fields none
  | .mk fields (some cause) => do
      let error ← fromEnvelope cause
      construct fields (some error)

def toEnvelope : AsyncWorkError → AsyncWorkErrorEnvelope
  | .mk fields none => .mk (fields.withMessage (.string fields.message)) none
  | .mk fields (some cause) =>
      .mk (fields.withMessage (.string fields.message)) (some cause.toEnvelope)

end AsyncWorkError

/-- `z.string().min(1)`. -/
def isNonEmptyString : JsValue → Bool
  | .string text => text != ""
  | _ => false

namespace ErrorDetails

/-- `jsonSerializableObjectSchema.optional()`. -/
def isAccepted : ErrorDetails → Bool
  | .given value => value.isUndefined || value.isSerializableObject
  | .parsed fields => Json.allFields isFiniteNumeral fields

end ErrorDetails

/-- `requeueSchema.optional()`. -/
def isRequeueDelay : JsValue → Bool
  | .undefined => true
  | .number delay => delay.isRequeue
  | _ => false

/-- `errorEnvelopeBaseSchema`, the message apart. -/
def WorkErrorFields.isAccepted {Message : Type} (fields : WorkErrorFields Message) : Bool :=
  isNonEmptyString fields.name && fields.code != "" && fields.details.isAccepted &&
    isRequeueDelay fields.requeueDelayMs &&
    (fields.executionMetadata.isUndefined || fields.executionMetadata.isSerializableObject)

/-- `errorEnvelopeSchema`. -/
def AsyncWorkErrorEnvelope.isAccepted : AsyncWorkErrorEnvelope → Bool
  | .mk fields none => fields.isAccepted && isNonEmptyString fields.message
  | .mk fields (some cause) =>
      fields.isAccepted && isNonEmptyString fields.message && cause.isAccepted

/-! ### What is thrown -/

/-- The fields of an `Error` that is not a work error, its cause apart. -/
structure ErrorObject where
  name : JsValue
  message : JsValue
  stack : Option String := none
  code : Option JsValue := none

/-- An `Error`: its cause is a value that is none, or an `Error` again. -/
inductive JsError where
  | error (object : ErrorObject) (cause : JsValue)
  | caused (object : ErrorObject) (cause : JsError)
  | asyncWorkError (error : AsyncWorkError)

inductive Thrown where
  | value (value : JsValue)
  | error (error : JsError)

namespace JsError

def name : JsError → JsValue
  | .error object _ => object.name
  | .caused object _ => object.name
  | .asyncWorkError (.mk fields _) => fields.name

def message : JsError → JsValue
  | .error object _ => object.message
  | .caused object _ => object.message
  | .asyncWorkError (.mk fields _) => .string fields.message

def stack : JsError → Option String
  | .error object _ => object.stack
  | .caused object _ => object.stack
  | .asyncWorkError (.mk fields _) => fields.stack

def cause : JsError → Thrown
  | .error _ cause => .value cause
  | .caused _ cause => .error cause
  | .asyncWorkError (.mk _ none) => .value .undefined
  | .asyncWorkError (.mk _ (some cause)) => .error (.asyncWorkError cause)

end JsError

def Thrown.isFalsy : Thrown → Bool
  | .value plain => plain.isFalsy
  | .error _ => false

/-! ### Serialization -/

def optionalString (text : Option String) : JsValue :=
  match text with
  | some text => .string text
  | none => .undefined

/-- The object that `stringifyError` prints for an error. -/
def stringifyRecord (name message : JsValue) (stack cause : Option String) :
    Except JsFailure String := do
  let fields ← JsValue.toJsonFields
    [("name", name), ("message", message), ("stack", optionalString stack),
      ("cause", optionalString cause)]
  .ok (Json.stringify (.obj fields))

/-- `stringifyError` of a value that is no error. -/
def stringifyValue (value : JsValue) : Except JsFailure String :=
  if value.isSerializableWithUndefined then
    match value.toJson with
    | .ok (some json) => .ok (Json.stringify json)
    | _ => value.toText
  else value.toText

def stringifyWorkError : AsyncWorkError → Except JsFailure String
  | .mk fields none => stringifyRecord fields.name (.string fields.message) fields.stack none
  | .mk fields (some cause) => do
      let causeText ← stringifyWorkError cause
      stringifyRecord fields.name (.string fields.message) fields.stack (some causeText)

def stringifyJsError : JsError → Except JsFailure String
  | .error object cause =>
      if cause.isFalsy then stringifyRecord object.name object.message object.stack none
      else do
        let causeText ← stringifyValue cause
        stringifyRecord object.name object.message object.stack (some causeText)
  | .caused object cause => do
      let causeText ← stringifyJsError cause
      stringifyRecord object.name object.message object.stack (some causeText)
  | .asyncWorkError error => stringifyWorkError error

def stringifyError : Thrown → Except JsFailure String
  | .value value => stringifyValue value
  | .error error => stringifyJsError error

def convertUnknownThrownToSerializable (thrown : Thrown) : Except JsFailure Json := do
  let text ← stringifyError thrown
  match Json.parseText text with
  | some value => .ok value
  | none => .error .syntaxError

/-! ### The builders -/

structure UnexpectedError where
  code : String
  message : String
  isAppError : Bool := false
  details : JsValue := .undefined
  stack : Option String := none

def UnexpectedError.fields (unexpected : UnexpectedError) : WorkErrorFields JsValue where
  origin := .platform
  code := unexpected.code
  message := .string unexpected.message
  name := .string "UnexpectedError"
  stack := unexpected.stack
  details := .given unexpected.details

/-- The cause that `buildUnexpectedError` names for an error. -/
def unexpectedCause (isAppError : Bool) (error : JsError) (details : ErrorDetails) :
    WorkErrorFields JsValue where
  origin := if isAppError then .app else .platform
  code := "UNEXPECTED_ERROR"
  name := error.name
  message := error.message
  stack := error.stack
  details := details

def nonErrorCause (serializedCause : Json) : WorkErrorFields JsValue where
  origin := .platform
  code := "THROWN_NON_ERROR"
  name := .string "UnexpectedError"
  message := .string "Non-error object thrown"
  details := .parsed [("serializedCause", serializedCause)]

def buildUnexpectedError (unexpected : UnexpectedError) :
    Thrown → Except JsFailure AsyncWorkError
  | .error error => do
      let details ←
        if error.cause.isFalsy then Except.ok (ErrorDetails.given .undefined)
        else do
          let originalCause ← convertUnknownThrownToSerializable error.cause
          .ok (.parsed [("originalCause", originalCause)])
      AsyncWorkError.fromEnvelope
        (.mk unexpected.fields
          (some (.mk (unexpectedCause unexpected.isAppError error details) none)))
  | .value value => do
      -- `new Error(String(error))` comes first, and is not used any further.
      let _ ← value.toText
      let serializedCause ← convertUnknownThrownToSerializable (.value value)
      AsyncWorkError.fromEnvelope
        (.mk unexpected.fields (some (.mk (nonErrorCause serializedCause) none)))

def codeText (object : ErrorObject) : Except JsFailure String :=
  match object.code with
  | some code => code.toText
  | none => .ok "ERROR"

def errorRepr (object : ErrorObject) (code : String) (newStack : Option String) :
    WorkErrorFields JsValue where
  origin := .platform
  code := code
  name := object.name
  message := object.message
  stack := object.stack.or newStack

/-- `convertErrorToAsyncWorkError` without a wrapper. -/
def convertErrorToAsyncWorkError (newStack : Option String) :
    JsError → Except JsFailure AsyncWorkError
  | .asyncWorkError error => .ok error
  | .error object _ => do
      let code ← codeText object
      AsyncWorkError.construct (errorRepr object code newStack) none
  | .caused object cause => do
      let code ← codeText object
      let causeError ← convertErrorToAsyncWorkError newStack cause
      AsyncWorkError.construct (errorRepr object code newStack) (some causeError)

structure ErrorWrapper where
  name : String
  origin : Option ErrorOrigin := none
  code : String
  details : JsValue := .undefined
  message : String
  stack : Option String := none

def ErrorWrapper.fields (wrapper : ErrorWrapper) : WorkErrorFields JsValue where
  name := .string wrapper.name
  origin := wrapper.origin.getD .platform
  code := wrapper.code
  message := .string wrapper.message
  stack := wrapper.stack
  details := .given wrapper.details

/-- `convertErrorToAsyncWorkError` with a wrapper, which keeps a work error's delay and metadata. -/
def wrapErrorToAsyncWorkError (newStack : Option String) (wrapper : ErrorWrapper)
    (error : JsError) : Except JsFailure AsyncWorkError := do
  let cause ← convertErrorToAsyncWorkError newStack error
  match error with
  | .asyncWorkError (.mk fields _) =>
      AsyncWorkError.construct
        { wrapper.fields with
          requeueDelayMs := fields.requeueDelayMs
          executionMetadata := fields.executionMetadata }
        (some cause)
  | _ => AsyncWorkError.construct wrapper.fields (some cause)

/-! ### Errors of apps -/

structure AppTaskError where
  name : JsValue
  code : JsValue
  message : JsValue
  requeueDelayMs : JsValue
  details : JsValue
  stack : Option String := none

/-- The texts of an error that is valid. -/
structure ValidAppTaskError where
  name : String
  code : String
  message : String

def isDelayValid : JsValue → Bool
  | .undefined => true
  | .number delay => !delay.isNegative && delay.isIntegral
  | _ => false

def validateAppTaskError (error : AppTaskError) : Except String ValidAppTaskError :=
  if isDelayValid error.requeueDelayMs then
    match error.code, error.name, error.message with
    | .string code, .string name, .string message => .ok ⟨name, code, message⟩
    | .string _, .string _, _ => .error "Message must be a string"
    | .string _, _, _ => .error "Name must be a string"
    | _, _, _ => .error "Code must be a string"
  else .error "Requeue delay must be a non-negative number"

def maxStringLength : Nat := 256

def maxStackLength : Nat := 2048

def slice (text : String) (length : Nat) : String := String.ofList (text.toList.take length)

def appTaskErrorFields (stack : Option String) : WorkErrorFields JsValue where
  name := .string "Error"
  origin := .platform
  message := .string "App threw an AppTaskError"
  code := "APP_TASK_ERROR"
  stack := stack

def validCause (error : AppTaskError) (valid : ValidAppTaskError) (hasKeys : Bool) :
    WorkErrorFields JsValue where
  origin := .app
  name := .string (slice valid.name maxStringLength)
  code := slice valid.code maxStringLength
  requeueDelayMs := error.requeueDelayMs
  message := .string (slice valid.message maxStringLength)
  stack := error.stack.map fun stack => slice stack maxStackLength
  details := .given (if hasKeys then error.details else .undefined)

def invalidAppTaskErrorFields (newStack : Option String) : WorkErrorFields JsValue where
  name := .string "Error"
  origin := .platform
  message := .string "App threw an AppTaskError which was invalid"
  code := "APP_THREW_INVALID_APP_TASK_ERROR"
  stack := newStack

/-- `JSON.parse(JSON.stringify(serializableAppTaskError))`, where neither throws. -/
def originalError (error : AppTaskError) : Option Json :=
  match JsValue.toJsonFields
    [("name", error.name), ("code", error.code), ("requeueDelayMs", error.requeueDelayMs),
      ("message", error.message), ("stack", optionalString error.stack),
      ("details", error.details)] with
  | .ok fields => Json.parseText (Json.stringify (.obj fields))
  | .error _ => none

def invalidCause (error : AppTaskError) (stack : Option String) (errorMessage : String) :
    WorkErrorFields JsValue where
  origin := .app
  name := .string "InvalidAppTaskError"
  code := "INVALID_APP_TASK_ERROR"
  message := .string "The thrown AppTaskError was invalid"
  stack := stack
  details := .parsed
    [("originalError", (originalError error).getD
        (.obj [("error", .str "Could not serialize original AppTaskError")])),
      ("validationError", .str errorMessage)]

def getAsyncWorkErrorFromAppTaskError (error : AppTaskError) (stack newStack : Option String) :
    Except JsFailure AsyncWorkError :=
  match validateAppTaskError error with
  | .ok valid => do
      let hasKeys ← error.details.hasKeys
      AsyncWorkError.fromEnvelope
        (.mk (appTaskErrorFields stack) (some (.mk (validCause error valid hasKeys) none)))
  | .error errorMessage =>
      AsyncWorkError.fromEnvelope
        (.mk (invalidAppTaskErrorFields newStack)
          (some (.mk (invalidCause error stack errorMessage) none)))

end Lombok.Worker
