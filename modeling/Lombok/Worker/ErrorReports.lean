import Lombok.Worker.WorkErrors

/-!
Contract: which thrown values become an error that can be reported.

An error is reported where its builder returns, its envelope passes the schema,
and the envelope is the same after being rebuilt. The last holds of every
envelope; the first two hold exactly under `Reportable`, one condition for each
builder, on what was thrown and on what the caller says of it.
-/

namespace Lombok.Worker

open Lombok.Core

/-- The builder returns, its envelope is accepted, and rebuilding the error gives it again. -/
def IsReported (built : Except JsFailure AsyncWorkError) : Prop :=
  ∃ error, built = .ok error ∧ error.toEnvelope.isAccepted = true ∧
    ∃ again, AsyncWorkError.fromEnvelope error.toEnvelope = .ok again ∧
      again.toEnvelope = error.toEnvelope

/-! ### Conditions -/

/-- The constructor of an error makes a text of the message, and it is not empty. -/
def HasMessage (message : JsValue) : Prop := ∃ text, message.messageText = .ok text ∧ text ≠ ""

/-- The value is an object of data, or its text is JSON with finite numbers. -/
def IsData (value : JsValue) : Prop :=
  value.isSerializableWithUndefined = true ∨
    ∃ text json, value.toText = .ok text ∧ Json.parseText text = some json ∧
      json.isProper = true

/-- `JSON.stringify` does not throw for the value. -/
def IsPrintable (value : JsValue) : Prop := ∃ json, value.toJson = .ok json

def IsPrintableWork : AsyncWorkError → Prop
  | .mk fields none => IsPrintable fields.name
  | .mk fields (some cause) => IsPrintable fields.name ∧ IsPrintableWork cause

/-- The names and messages of the chain can be printed, and the value at its end has a text. -/
def IsPrintableError : JsError → Prop
  | .error object cause => IsPrintable object.name ∧ IsPrintable object.message ∧
      (cause.isFalsy = false → cause.isSerializableWithUndefined = false →
        ∃ text, cause.toText = .ok text)
  | .caused object cause =>
      IsPrintable object.name ∧ IsPrintable object.message ∧ IsPrintableError cause
  | .asyncWorkError error => IsPrintableWork error

def IsSerializable : Thrown → Prop
  | .value plain => IsData plain
  | .error error => IsPrintableError error

/-- What `buildUnexpectedError` is given can be reported. -/
def UnexpectedReportable : Thrown → Prop
  | .value plain => (∃ text, plain.toText = .ok text) ∧ IsData plain
  | .error error => isNonEmptyString error.name = true ∧ HasMessage error.message ∧
      (error.cause.isFalsy = false → IsSerializable error.cause)

/-- Every error of the chain has a name, a code and a message. -/
def ConvertedReportable : JsError → Prop
  | .error object _ => isNonEmptyString object.name = true ∧ HasMessage object.message ∧
      ∃ code, codeText object = .ok code ∧ code ≠ ""
  | .caused object cause => isNonEmptyString object.name = true ∧ HasMessage object.message ∧
      (∃ code, codeText object = .ok code ∧ code ≠ "") ∧ ConvertedReportable cause
  | .asyncWorkError error => error.toEnvelope.isAccepted = true

/-- The name, code and message are not empty, the delay is a safe integer, and the details are
data or have no entries. -/
def AppTaskReportable (error : AppTaskError) : Prop :=
  ∀ valid, validateAppTaskError error = .ok valid →
    valid.name ≠ "" ∧ valid.code ≠ "" ∧ valid.message ≠ "" ∧
      isRequeueDelay error.requeueDelayMs = true ∧
      (error.details.hasKeys = .ok false ∨
        (error.details.hasKeys = .ok true ∧ error.details.isSerializableObject = true))

/-- A builder with what it is given. -/
inductive ErrorReport where
  | unexpected (given : UnexpectedError) (thrown : Thrown)
  | converted (newStack : Option String) (error : JsError)
  | wrapped (newStack : Option String) (wrapper : ErrorWrapper) (error : JsError)
  | appTask (error : AppTaskError) (stack newStack : Option String)

namespace ErrorReport

def build : ErrorReport → Except JsFailure AsyncWorkError
  | .unexpected given thrown => buildUnexpectedError given thrown
  | .converted newStack error => convertErrorToAsyncWorkError newStack error
  | .wrapped newStack wrapper error => wrapErrorToAsyncWorkError newStack wrapper error
  | .appTask error stack newStack => getAsyncWorkErrorFromAppTaskError error stack newStack

def Reportable : ErrorReport → Prop
  | .unexpected given thrown => given.code ≠ "" ∧ given.message ≠ "" ∧
      (ErrorDetails.given given.details).isAccepted = true ∧ UnexpectedReportable thrown
  | .converted _ error => ConvertedReportable error
  | .wrapped _ wrapper error => wrapper.name ≠ "" ∧ wrapper.code ≠ "" ∧ wrapper.message ≠ "" ∧
      (ErrorDetails.given wrapper.details).isAccepted = true ∧ ConvertedReportable error
  | .appTask error _ _ => AppTaskReportable error

end ErrorReport

/-! ### Envelopes -/

theorem isNonEmptyString_string (text : String) :
    isNonEmptyString (.string text) = true ↔ text ≠ "" := by
  exact bne_iff_ne

theorem isAccepted_withMessage {First Second : Type} (fields : WorkErrorFields First)
    (message : Second) : (fields.withMessage message).isAccepted = fields.isAccepted := rfl

namespace AsyncWorkError

theorem fromEnvelope_toEnvelope : ∀ error : AsyncWorkError,
    fromEnvelope error.toEnvelope = .ok error
  | .mk fields none => rfl
  | .mk fields (some cause) => by
      rw [toEnvelope, fromEnvelope, fromEnvelope_toEnvelope cause]
      rfl

theorem isAccepted_toEnvelope (fields : WorkErrorFields String) (cause : Option AsyncWorkError) :
    (mk fields cause).toEnvelope.isAccepted = true ↔
      fields.isAccepted = true ∧ fields.message ≠ "" ∧
        ∀ error ∈ cause, error.toEnvelope.isAccepted = true := by
  cases cause with
  | none =>
      rw [toEnvelope, AsyncWorkErrorEnvelope.isAccepted, isAccepted_withMessage, Bool.and_eq_true]
      apply and_congr_right
      intro _
      constructor
      · intro named
        refine ⟨(isNonEmptyString_string _).mp named, ?_⟩
        nofun
      · intro named
        exact (isNonEmptyString_string _).mpr named.1
  | some error =>
      rw [toEnvelope, AsyncWorkErrorEnvelope.isAccepted, isAccepted_withMessage, Bool.and_eq_true,
        Bool.and_eq_true, and_assoc]
      apply and_congr_right
      intro _
      apply and_congr
      · exact isNonEmptyString_string _
      · simp

end AsyncWorkError

open AsyncWorkError

/-- The envelope of an error is always the same after being rebuilt. -/
theorem isReported_iff (built : Except JsFailure AsyncWorkError) :
    IsReported built ↔ ∃ error, built = .ok error ∧ error.toEnvelope.isAccepted = true := by
  constructor
  · rintro ⟨error, isBuilt, accepted, _⟩
    exact ⟨error, isBuilt, accepted⟩
  · rintro ⟨error, isBuilt, accepted⟩
    exact ⟨error, isBuilt, accepted, error, fromEnvelope_toEnvelope error, rfl⟩

variable {text : String} (fields : WorkErrorFields JsValue)

theorem isReported_construct (cause : Option AsyncWorkError) :
    IsReported (construct fields cause) ↔
      fields.isAccepted = true ∧ HasMessage fields.message ∧
        ∀ error ∈ cause, error.toEnvelope.isAccepted = true := by
  rw [isReported_iff]
  unfold construct HasMessage
  cases message : fields.message.messageText with
  | error failure =>
      constructor
      · rintro ⟨error, isBuilt, _⟩
        cases isBuilt
      · simp
  | ok text =>
      constructor
      · rintro ⟨error, isBuilt, accepted⟩
        cases isBuilt
        obtain ⟨isAccepted, notEmpty, causes⟩ := (isAccepted_toEnvelope _ _).mp accepted
        exact ⟨isAccepted, ⟨text, rfl, notEmpty⟩, causes⟩
      · rintro ⟨isAccepted, ⟨other, isText, notEmpty⟩, causes⟩
        cases isText
        exact ⟨_, rfl, (isAccepted_toEnvelope _ _).mpr ⟨isAccepted, notEmpty, causes⟩⟩

/-- After a step that may throw, what is built is reported just when the step returns and what
follows is. -/
theorem isReported_bind {Value : Type} (given : Except JsFailure Value)
    (next : Value → Except JsFailure AsyncWorkError) :
    IsReported (given >>= next) ↔ ∃ value, given = .ok value ∧ IsReported (next value) := by
  cases given with
  | error failure =>
      constructor
      · rintro ⟨error, isBuilt, _⟩
        cases isBuilt
      · rintro ⟨value, isGiven, _⟩
        cases isGiven
  | ok value =>
      constructor
      · intro reported
        exact ⟨value, rfl, reported⟩
      · rintro ⟨other, isGiven, reported⟩
        cases isGiven
        exact reported

theorem isReported_root :
    IsReported (fromEnvelope (.mk fields none)) ↔
      fields.isAccepted = true ∧ HasMessage fields.message := by
  simp [fromEnvelope, isReported_construct]

theorem isReported_over (cause : AsyncWorkErrorEnvelope) :
    IsReported (fromEnvelope (.mk fields (some cause))) ↔
      (fields.isAccepted = true ∧ HasMessage fields.message) ∧
        IsReported (fromEnvelope cause) := by
  grind [fromEnvelope, isReported_bind, isReported_iff, isReported_construct]

/-! ### Serialization -/

/-- A step of a `do` block returns just when it and the rest do. -/
theorem bind_ok_iff {First Second : Type} (given : Except JsFailure First)
    (next : First → Except JsFailure Second) (result : Second) :
    given >>= next = .ok result ↔ ∃ value, given = .ok value ∧ next value = .ok result := by
  cases given with
  | error failure =>
      constructor
      · nofun
      · rintro ⟨value, isGiven, _⟩
        cases isGiven
  | ok value =>
      constructor
      · intro returned
        exact ⟨value, rfl, returned⟩
      · rintro ⟨other, isGiven, returned⟩
        cases isGiven
        exact returned

theorem toJsonFields_cons_ok (name : String) (value : JsValue) (rest : List (String × JsValue)) :
    (∃ fields, JsValue.toJsonFields ((name, value) :: rest) = .ok fields) ↔
      IsPrintable value ∧ ∃ fields, JsValue.toJsonFields rest = .ok fields := by
  rw [JsValue.toJsonFields]
  simp only [bind_ok_iff]
  constructor
  · rintro ⟨fields, json, isJson, others, isOthers, _⟩
    exact ⟨⟨json, isJson⟩, others, isOthers⟩
  · rintro ⟨⟨json, isJson⟩, others, isOthers⟩
    grind

theorem printable_optionalString (text : Option String) : IsPrintable (optionalString text) := by
  cases text with
  | none => exact ⟨none, rfl⟩
  | some text => exact ⟨some (.str text), rfl⟩

theorem stringifyRecord_ok (name message : JsValue) (stack cause : Option String) :
    (∃ text, stringifyRecord name message stack cause = .ok text) ↔
      IsPrintable name ∧ IsPrintable message := by
  have printed : (∃ fields, JsValue.toJsonFields
      [("name", name), ("message", message), ("stack", optionalString stack),
        ("cause", optionalString cause)] = .ok fields) ↔ IsPrintable name ∧
            IsPrintable message := by
    rw [toJsonFields_cons_ok, toJsonFields_cons_ok, toJsonFields_cons_ok, toJsonFields_cons_ok]
    constructor
    · grind
    · rintro ⟨printableName, printableMessage⟩
      exact ⟨printableName, printableMessage, printable_optionalString stack,
        printable_optionalString cause, [], rfl⟩
  simp [stringifyRecord, bind_ok_iff, printed]

/-- What is printed for an error is read back as data. -/
theorem parse_stringifyRecord {name message : JsValue} {stack cause : Option String}
    (printed : stringifyRecord name message stack cause = .ok text) :
    ∃ json, Json.parseText text = some json ∧ json.isProper = true := by
  obtain ⟨fields, isFields, isText⟩ := (bind_ok_iff _ _ _).mp printed
  cases isText
  have proper : (Json.obj fields).isProper = true := JsValue.proper_toJsonFields _ _ isFields
  exact ⟨_, Json.parseText_stringify proper, proper⟩

theorem stringifyValue_data {value : JsValue} (isObject :
    value.isSerializableWithUndefined = true) :
    ∃ json, stringifyValue value = .ok (Json.stringify json) ∧ json.isProper = true := by
  cases value with
  | record fields text =>
      obtain ⟨jsons, given⟩ := JsValue.toJsonFields_of_undefined isObject
      have made : (JsValue.record fields text).toJson = .ok (some (.obj jsons)) := by
        rw [JsValue.toJson, given]
        rfl
      refine ⟨.obj jsons, ?_, JsValue.proper_toJson _ _ made⟩
      rw [stringifyValue, if_pos isObject, made]
  | _ => cases isObject

theorem stringifyValue_text {value : JsValue}
    (notObject : value.isSerializableWithUndefined = false) : stringifyValue value =
        value.toText := by
  rw [stringifyValue, notObject]
  rfl

theorem stringifyWorkError_ok : ∀ error : AsyncWorkError,
    (∃ text, stringifyWorkError error = .ok text) ↔ IsPrintableWork error
  | .mk fields none => by
      rw [stringifyWorkError, stringifyRecord_ok, IsPrintableWork]
      exact and_iff_left ⟨_, rfl⟩
  | .mk fields (some cause) => by
      rw [stringifyWorkError, IsPrintableWork, ← stringifyWorkError_ok cause]
      simp only [bind_ok_iff]
      constructor
      · rintro ⟨text, causeText, isCause, isText⟩
        have printable := (stringifyRecord_ok _ _ _ _).mp ⟨text, isText⟩
        exact ⟨printable.1, causeText, isCause⟩
      · rintro ⟨printable, causeText, isCause⟩
        obtain ⟨text, isText⟩ :=
          (stringifyRecord_ok fields.name (.string fields.message) fields.stack
              (some causeText)).mpr
            ⟨printable, _, rfl⟩
        exact ⟨text, causeText, isCause, isText⟩

theorem stringifyValue_ok (value : JsValue) :
    (∃ text, stringifyValue value = .ok text) ↔
      (value.isSerializableWithUndefined = false → ∃ text, value.toText = .ok text) := by
  cases isObject : value.isSerializableWithUndefined with
  | true =>
      obtain ⟨json, printed, _⟩ := stringifyValue_data isObject
      exact iff_of_true ⟨_, printed⟩ (fun absurd => by cases absurd)
  | false =>
      simp [stringifyValue_text, isObject]

theorem stringifyJsError_ok : ∀ error : JsError,
    (∃ text, stringifyJsError error = .ok text) ↔ IsPrintableError error
  | .error object cause => by
      rw [stringifyJsError, IsPrintableError]
      cases isFalsy : cause.isFalsy with
      | true =>
          simp [stringifyRecord_ok]
      | false =>
          rw [if_neg Bool.false_ne_true, forall_prop_of_true rfl, ← stringifyValue_ok]
          simp only [bind_ok_iff]
          constructor
          · rintro ⟨text, causeText, isCause, isText⟩
            have printable := (stringifyRecord_ok _ _ _ _).mp ⟨text, isText⟩
            exact ⟨printable.1, printable.2, causeText, isCause⟩
          · rintro ⟨printableName, printableMessage, causeText, isCause⟩
            simp [stringifyRecord_ok, printableName, printableMessage, isCause]
  | .caused object cause => by
      rw [stringifyJsError, IsPrintableError, ← stringifyJsError_ok cause]
      simp only [bind_ok_iff]
      constructor
      · rintro ⟨text, causeText, isCause, isText⟩
        have printable := (stringifyRecord_ok _ _ _ _).mp ⟨text, isText⟩
        exact ⟨printable.1, printable.2, causeText, isCause⟩
      · rintro ⟨printableName, printableMessage, causeText, isCause⟩
        simp [stringifyRecord_ok, printableName, printableMessage, isCause]
  | .asyncWorkError error => stringifyWorkError_ok error

theorem parse_stringifyWorkError {error : AsyncWorkError}
    (printed : stringifyWorkError error = .ok text) :
    ∃ json, Json.parseText text = some json ∧ json.isProper = true := by
  obtain ⟨fields, cause⟩ := error
  cases cause with
  | none => exact parse_stringifyRecord printed
  | some cause =>
      obtain ⟨_, _, isText⟩ := (bind_ok_iff _ _ _).mp printed
      exact parse_stringifyRecord isText

theorem parse_stringifyJsError {error : JsError} (printed : stringifyJsError error = .ok text) :
    ∃ json, Json.parseText text = some json ∧ json.isProper = true := by
  cases error with
  | error object cause =>
      grind [stringifyJsError, parse_stringifyRecord, bind_ok_iff]
  | caused object cause =>
      obtain ⟨_, _, isText⟩ := (bind_ok_iff _ _ _).mp printed
      exact parse_stringifyRecord isText
  | asyncWorkError error => exact parse_stringifyWorkError printed

theorem convert_ok_iff (thrown : Thrown) (json : Json) :
    convertUnknownThrownToSerializable thrown = .ok json ↔
      ∃ text, stringifyError thrown = .ok text ∧ Json.parseText text = some json := by
  rw [convertUnknownThrownToSerializable, bind_ok_iff]
  grind

/-- What was thrown is made into accepted data just when it is serializable. -/
theorem convert_proper_iff (thrown : Thrown) :
    (∃ json, convertUnknownThrownToSerializable thrown = .ok json ∧ json.isProper = true) ↔
      IsSerializable thrown := by
  simp only [convert_ok_iff]
  cases thrown with
  | value plain =>
      unfold IsSerializable IsData
      unfold stringifyError
      dsimp only
      cases isObject : plain.isSerializableWithUndefined with
      | true =>
          obtain ⟨json, printed, proper⟩ := stringifyValue_data isObject
          exact iff_of_true ⟨json, ⟨_, printed, Json.parseText_stringify proper⟩, proper⟩ (.inl rfl)
      | false =>
          grind [stringifyValue_text]
  | error error =>
      grind [IsSerializable, stringifyError, stringifyJsError_ok, parse_stringifyJsError]

/-! ### The builders -/

theorem isAccepted_parsed (name : String) (json : Json) :
    (ErrorDetails.parsed [(name, json)]).isAccepted = json.isProper := by
  rw [ErrorDetails.isAccepted, Json.allFields, Json.allFields, Bool.and_true]
  rfl

theorem hasMessage_string (text : String) : HasMessage (.string text) ↔ text ≠ "" := by
  constructor
  · rintro ⟨other, isText, notEmpty⟩
    cases isText
    exact notEmpty
  · intro notEmpty
    exact ⟨text, rfl, notEmpty⟩

theorem unexpectedFields_reported (given : UnexpectedError) :
    given.fields.isAccepted = true ∧ HasMessage given.fields.message ↔
      given.code ≠ "" ∧ given.message ≠ "" ∧
        (ErrorDetails.given given.details).isAccepted = true := by
  unfold UnexpectedError.fields WorkErrorFields.isAccepted
  rw [hasMessage_string]
  grind [isNonEmptyString, isRequeueDelay, JsValue.isUndefined]

theorem unexpectedCause_reported (isAppError : Bool) (error : JsError) (details : ErrorDetails) :
    (unexpectedCause isAppError error details).isAccepted = true ∧
        HasMessage (unexpectedCause isAppError error details).message ↔
      isNonEmptyString error.name = true ∧ HasMessage error.message ∧
        details.isAccepted = true := by
  grind [unexpectedCause, WorkErrorFields.isAccepted, isRequeueDelay, JsValue.isUndefined]

theorem nonErrorCause_reported (json : Json) :
    (nonErrorCause json).isAccepted = true ∧ HasMessage (nonErrorCause json).message ↔
      json.isProper = true := by
  simp [nonErrorCause, WorkErrorFields.isAccepted, isAccepted_parsed, isNonEmptyString,
    isRequeueDelay, JsValue.isUndefined, hasMessage_string]

/-- The error over the cause of an `Error`. -/
theorem unexpected_over_iff (given : UnexpectedError) (error : JsError) (details : ErrorDetails) :
    IsReported (fromEnvelope
        (.mk given.fields (some (.mk (unexpectedCause given.isAppError error details) none)))) ↔
      (given.fields.isAccepted = true ∧ HasMessage given.fields.message) ∧
        isNonEmptyString error.name = true ∧ HasMessage error.message ∧
          details.isAccepted = true := by
  rw [isReported_over, isReported_root, unexpectedCause_reported]

/-- `buildUnexpectedError` reports exactly what is reportable. -/
theorem unexpected_reported_iff (given : UnexpectedError) (thrown : Thrown) :
    IsReported (buildUnexpectedError given thrown) ↔
      given.code ≠ "" ∧ given.message ≠ "" ∧
        (ErrorDetails.given given.details).isAccepted = true ∧ UnexpectedReportable thrown := by
  have top := unexpectedFields_reported given
  suffices rest : IsReported (buildUnexpectedError given thrown) ↔
      (given.fields.isAccepted = true ∧ HasMessage given.fields.message) ∧
        UnexpectedReportable thrown by
    rw [rest, top]
    simp only [and_assoc]
  cases thrown with
  | value plain =>
      unfold buildUnexpectedError UnexpectedReportable
      simp only [isReported_bind, isReported_over, isReported_root, nonErrorCause_reported]
      have converted := convert_proper_iff (.value plain)
      unfold IsSerializable at converted
      dsimp only at converted ⊢
      rw [← converted]
      constructor
      · grind
      · grind
  | error error =>
      unfold buildUnexpectedError UnexpectedReportable
      dsimp only
      cases isFalsy : error.cause.isFalsy with
      | true =>
          rw [if_pos rfl, isReported_bind]
          constructor
          · rintro ⟨details, _, reported⟩
            obtain ⟨topReported, named, message, _⟩ :=
              (unexpected_over_iff given error details).mp reported
            exact ⟨topReported, named, message, fun absurd => by cases absurd⟩
          · rintro ⟨topReported, named, message, _⟩
            exact ⟨_, rfl, (unexpected_over_iff given error _).mpr
              ⟨topReported, named, message, rfl⟩⟩
      | false =>
          rw [if_neg Bool.false_ne_true, forall_prop_of_true rfl, ← convert_proper_iff,
            isReported_bind]
          constructor
          · rintro ⟨json, isJson, reported⟩
            obtain ⟨topReported, named, message, accepted⟩ :=
              (unexpected_over_iff given error (.parsed [("originalCause", json)])).mp reported
            grind [isAccepted_parsed]
          · rintro ⟨topReported, named, message, json, isJson, proper⟩
            rw [← isAccepted_parsed "originalCause"] at proper
            exact ⟨json, isJson, (unexpected_over_iff given error _).mpr
              ⟨topReported, named, message, proper⟩⟩

theorem errorRepr_reported (object : ErrorObject) (code : String) (newStack : Option String) :
    (errorRepr object code newStack).isAccepted = true ∧
        HasMessage (errorRepr object code newStack).message ↔
      isNonEmptyString object.name = true ∧ HasMessage object.message ∧ code ≠ "" := by
  grind [errorRepr, WorkErrorFields.isAccepted, isRequeueDelay, ErrorDetails.isAccepted,
    JsValue.isUndefined]

/-- `convertErrorToAsyncWorkError` reports exactly the chains whose errors can be reported. -/
theorem converted_reported_iff (newStack : Option String) : ∀ error : JsError,
    IsReported (convertErrorToAsyncWorkError newStack error) ↔ ConvertedReportable error
  | .asyncWorkError error => by
      simp [isReported_iff, convertErrorToAsyncWorkError, ConvertedReportable]
  | .error object cause => by
      grind [convertErrorToAsyncWorkError, isReported_bind, ConvertedReportable,
        isReported_construct, errorRepr_reported]
  | .caused object cause => by
      rw [convertErrorToAsyncWorkError, isReported_bind, ConvertedReportable,
        ← converted_reported_iff newStack cause, isReported_iff (convertErrorToAsyncWorkError _ _)]
      grind [isReported_bind, isReported_construct, errorRepr_reported]

/-- The delay and the metadata of a work error that is accepted are accepted again. -/
theorem wrapperFields_reported (wrapper : ErrorWrapper) (requeueDelayMs executionMetadata : JsValue)
    (delay : isRequeueDelay requeueDelayMs = true)
    (metadata : (executionMetadata.isUndefined || executionMetadata.isSerializableObject) = true) :
    ({ wrapper.fields with
        requeueDelayMs := requeueDelayMs
        executionMetadata := executionMetadata } : WorkErrorFields JsValue).isAccepted = true ∧
        HasMessage wrapper.fields.message ↔
      wrapper.name ≠ "" ∧ wrapper.code ≠ "" ∧ wrapper.message ≠ "" ∧
        (ErrorDetails.given wrapper.details).isAccepted = true := by
  unfold ErrorWrapper.fields WorkErrorFields.isAccepted
  rw [hasMessage_string, delay, metadata]
  grind [isNonEmptyString]

theorem construct_over_iff (newStack : Option String) (error : JsError) :
    (∃ cause, convertErrorToAsyncWorkError newStack error = .ok cause ∧
        IsReported (construct fields (some cause))) ↔
      (fields.isAccepted = true ∧ HasMessage fields.message) ∧ ConvertedReportable error := by
  rw [← converted_reported_iff newStack, isReported_iff (convertErrorToAsyncWorkError _ _)]
  grind [isReported_construct]

theorem accepted_fields {fields : WorkErrorFields String} {cause : Option AsyncWorkError}
    (accepted : (mk fields cause).toEnvelope.isAccepted = true) :
    isRequeueDelay fields.requeueDelayMs = true ∧
      (fields.executionMetadata.isUndefined || fields.executionMetadata.isSerializableObject) =
        true := by
  have isAccepted := ((isAccepted_toEnvelope _ _).mp accepted).1
  grind [WorkErrorFields.isAccepted]

theorem wrapped_reported_iff (newStack : Option String) (wrapper : ErrorWrapper)
    (error : JsError) :
    IsReported (wrapErrorToAsyncWorkError newStack wrapper error) ↔
      (wrapper.name ≠ "" ∧ wrapper.code ≠ "" ∧ wrapper.message ≠ "" ∧
        (ErrorDetails.given wrapper.details).isAccepted = true) ∧ ConvertedReportable error := by
  have plainFields := wrapperFields_reported wrapper .undefined .undefined rfl rfl
  rw [wrapErrorToAsyncWorkError, isReported_bind]
  cases error with
  | error object cause => exact (construct_over_iff _ _ _).trans (and_congr_left' plainFields)
  | caused object cause => exact (construct_over_iff _ _ _).trans (and_congr_left' plainFields)
  | asyncWorkError error =>
      obtain ⟨fields, cause⟩ := error
      rw [construct_over_iff]
      apply and_congr_left
      intro accepted
      obtain ⟨delay, metadata⟩ := accepted_fields accepted
      exact wrapperFields_reported wrapper _ _ delay metadata

theorem slice_ne_empty (text : String) {length : Nat} (some : 0 < length) :
    slice text length ≠ "" ↔ text ≠ "" := by
  rw [slice, Ne, Ne, ← String.toList_inj, ← String.toList_inj, String.toList_ofList]
  grind [List.take_eq_nil_iff]

/-- The details of an error without entries are left out. -/
theorem validDetails_accepted {details : JsValue} {hasKeys : Bool}
    (isGiven : details.hasKeys = .ok hasKeys) :
    (ErrorDetails.given (if hasKeys then details else .undefined)).isAccepted = true ↔
      details.hasKeys = .ok false ∨
        (details.hasKeys = .ok true ∧ details.isSerializableObject = true) := by
  cases hasKeys with
  | false => exact iff_of_true rfl (.inl isGiven)
  | true =>
      have notUndefined : details.isUndefined = false := by
        cases details with
        | undefined => cases isGiven
        | _ => rfl
      simp [ErrorDetails.isAccepted, notUndefined, isGiven]

theorem validCause_reported (error : AppTaskError) (valid : ValidAppTaskError) {hasKeys : Bool}
    (isGiven : error.details.hasKeys = .ok hasKeys) :
    (validCause error valid hasKeys).isAccepted = true ∧
        HasMessage (validCause error valid hasKeys).message ↔
      valid.name ≠ "" ∧ valid.code ≠ "" ∧ valid.message ≠ "" ∧
        isRequeueDelay error.requeueDelayMs = true ∧
        (error.details.hasKeys = .ok false ∨
          (error.details.hasKeys = .ok true ∧ error.details.isSerializableObject = true)) := by
  have whole : ∀ text, slice text maxStringLength ≠ "" ↔ text ≠ "" :=
    fun text => slice_ne_empty text (by decide)
  rw [← validDetails_accepted isGiven, ← whole valid.name, ← whole valid.code,
    ← whole valid.message]
  unfold validCause WorkErrorFields.isAccepted
  rw [hasMessage_string]
  grind [isNonEmptyString, JsValue.isUndefined]

/-- What is kept of an error that is not valid is data. -/
theorem originalError_proper {error : AppTaskError} {json : Json}
    (isOriginal : originalError error = some json) : json.isProper = true := by
  unfold originalError at isOriginal
  split at isOriginal
  · rename_i fields isFields
    have proper : (Json.obj fields).isProper = true := JsValue.proper_toJsonFields _ _ isFields
    grind [Json.parseText_stringify]
  · cases isOriginal

theorem invalidCause_accepted (error : AppTaskError) (stack : Option String)
    (errorMessage : String) : (invalidCause error stack errorMessage).isAccepted = true := by
  have kept : ((originalError error).getD
      (.obj [("error", .str "Could not serialize original AppTaskError")])).isProper = true := by
    cases isOriginal : originalError error with
    | none => rfl
    | some json => exact originalError_proper isOriginal
  have details : (invalidCause error stack errorMessage).details.isAccepted = true := by
    unfold invalidCause ErrorDetails.isAccepted
    dsimp only
    exact Bool.and_eq_true_iff.mpr ⟨kept, rfl⟩
  rw [WorkErrorFields.isAccepted, details]
  rfl

/-- An error that is not valid is always reported, and a valid one where its fields allow it. -/
theorem appTask_reported_iff (error : AppTaskError) (stack newStack : Option String) :
    IsReported (getAsyncWorkErrorFromAppTaskError error stack newStack) ↔
      AppTaskReportable error := by
  unfold getAsyncWorkErrorFromAppTaskError AppTaskReportable
  cases isValid : validateAppTaskError error with
  | error errorMessage =>
      rw [isReported_over, isReported_root]
      apply iff_of_true
      · refine ⟨⟨rfl, _, rfl, by decide⟩, invalidCause_accepted error stack errorMessage, _, rfl,
          by decide⟩
      · nofun
  | ok valid =>
      rw [isReported_bind]
      have top : (appTaskErrorFields stack).isAccepted = true ∧
          HasMessage (appTaskErrorFields stack).message := ⟨rfl, _, rfl, by decide⟩
      grind [isReported_over, validCause_reported, isReported_root]

/-- Every builder reports exactly what is reportable. -/
theorem reported_iff (report : ErrorReport) : IsReported report.build ↔ report.Reportable := by
  cases report with
  | unexpected given thrown => exact unexpected_reported_iff given thrown
  | converted newStack error => exact converted_reported_iff newStack error
  | wrapped newStack wrapper error =>
      refine (wrapped_reported_iff newStack wrapper error).trans ?_
      unfold ErrorReport.Reportable
      simp only [and_assoc]
  | appTask error stack newStack => exact appTask_reported_iff error stack newStack

/-! ### A text that is thrown -/

/-- What a handler's wrapper says of an error that it did not expect. -/
def sampleUnexpected : UnexpectedError where
  code := "UNEXPECTED_ERROR_DURING_TASK_HANDLER_EXECUTION"
  message := "Unexpected error during task handler execution"
  isAppError := true

/-- A handler throws the text `boom`, which is not JSON. -/
theorem boom_notReported :
    ¬ IsReported (ErrorReport.build (.unexpected sampleUnexpected (.value (.string "boom")))) := by
  intro reported
  obtain ⟨_, _, _, _, isData⟩ :=
    (unexpected_reported_iff sampleUnexpected (.value (.string "boom"))).mp reported
  rcases isData with isObject | ⟨text, json, isText, read, _⟩
  · cases isObject
  · cases isText
    have unread : (Json.parse "boom").isNone = true := by decide +kernel
    unfold Json.parseText at read
    cases read

end Lombok.Worker
