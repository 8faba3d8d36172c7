import Lombok.Core.DateText
import Lombok.Core.JsonReader

/-!
Contract: what a client is given to complete an SSO sign-up with, and how it is
checked when it comes back.

Owns the reply of `handleSSOCallback` to a new user, the signature of
`authHelper`, `CompleteSSOSignupDTO`, and the checks of `completeSSOSignup` that
read no table. The signature is over a JSON text, which is printed once from the
user info of the provider and once from what the DTO kept of it.

Does not own: the hash function, the acceptance of a date text by the schema
library, and the tables (see `SsoSignup`).
-/

namespace Lombok.Auth

open Lombok.Core

/-! ### Hexadecimal text -/

/-- `digest('hex')`. -/
def hexEncode (bytes : List UInt8) : String :=
  String.ofList (bytes.flatMap fun byte =>
    [Json.hexDigit (byte.toNat / 16), Json.hexDigit (byte.toNat % 16)])

def hexPairs : List Char → List UInt8
  | high :: low :: rest =>
      match Json.hexDigitValue high, Json.hexDigitValue low with
      | some highValue, some lowValue => UInt8.ofNat (highValue * 16 + lowValue) :: hexPairs rest
      | _, _ => []
  | _ => []

/-- `Buffer.from(text, 'hex')`. -/
def hexDecode (text : String) : List UInt8 := hexPairs text.toList

theorem hexPairs_encode (bytes : List UInt8) :
    hexPairs (bytes.flatMap fun byte =>
      [Json.hexDigit (byte.toNat / 16), Json.hexDigit (byte.toNat % 16)]) = bytes := by
  induction bytes with
  | nil => rfl
  | cons byte rest inductionHypothesis =>
      grind [Json.hexDigitValue_hexDigit, hexPairs, UInt8.ofNat_toNat, byte.toNat_lt]

@[simp] theorem hexDecode_hexEncode (bytes : List UInt8) : hexDecode (hexEncode bytes) = bytes := by
  unfold hexDecode hexEncode
  rw [String.toList_ofList]
  exact hexPairs_encode bytes

/-! ### Usernames -/

/-- `text.length`: the number of UTF-16 code units. -/
def utf16Length (text : String) : Nat :=
  (text.toList.map fun character => if character.toNat < 65536 then 1 else 2).sum

/-- `/^\w+$/`. -/
def isWord (text : String) : Bool :=
  !text.toList.isEmpty && text.toList.all fun character =>
    character.isAlphanum || character == '_'

/-- `USERNAME_VALIDATORS_COMBINED`, without the test for the empty text that the others imply. -/
def passesUsernameValidators (username : String) : Bool :=
  decide (2 ≤ utf16Length username) && decide (utf16Length username ≤ 64) && isWord username

/-- `toLowerCase` of a character, as far as the result is ASCII. -/
def lowerChar (character : Char) : List Char :=
  if character.toNat = 0x212A then ['k']
  else if character.toNat = 0x130 then ['i', Char.ofNat 0x307]
  else [character.toLower]

/-- `text.toLowerCase()`, as far as the result is ASCII. -/
def toLowerCase (text : String) : String := String.ofList (text.toList.flatMap lowerChar)

/-! ### The environment -/

/-- What the calls take from elsewhere: the keyed hash under the server's secret, the date texts
that `z.iso.datetime()` accepts, and `lower` of the database, which agrees with `toLowerCase` on
the texts that a username can be. -/
structure SsoEnv where
  hmac : String → List UInt8
  hmac_length : ∀ data, (hmac data).length = 32
  isIsoDatetime : String → Bool
  lower : String → String
  lower_word : ∀ text, isWord text = true → lower text = toLowerCase text

/-- The errors that are answered with a status from 400 on below 500. -/
def isClientError : ApiError → Bool
  | .notFound _ | .conflict _ | .unauthorized _ | .forbidden _ | .badRequest _ => true
  | _ => false

/-! ### `authHelper` -/

def createSSOSignature (env : SsoEnv) (data : String) : String := hexEncode (env.hmac data)

/-- `crypto.timingSafeEqual`, which throws when the lengths differ. -/
def timingSafeEqual (left right : List UInt8) : Except ApiError Bool :=
  if left.length = right.length then .ok (left == right) else .error .rangeError

def verifySSOSignature (env : SsoEnv) (signature data : String) : Except ApiError Bool :=
  let expectedSignature := hexEncode (env.hmac data)
  timingSafeEqual (hexDecode signature) (hexDecode expectedSignature)

/-! ### The reply of the callback -/

structure ProviderUserInfo where
  id : String
  email : Option String
  name : Option String
  picture : Option String
deriving DecidableEq

def ProviderUserInfo.toJson (info : ProviderUserInfo) : Json :=
  .obj (Fields.ofOptions [("id", some (.str info.id)), ("email", info.email.map .str),
    ("name", info.name.map .str), ("picture", info.picture.map .str)])

/-- `providerData` of a submission. -/
structure ProviderData where
  provider : String
  providerUserInfo : ProviderUserInfo
  expiry : String
deriving DecidableEq

namespace ProviderData

def toJson (data : ProviderData) : Json :=
  .obj [("provider", .str data.provider), ("providerUserInfo", data.providerUserInfo.toJson),
    ("expiry", .str data.expiry)]

/-- `dataToSign`, and `dataToVerify`: both are the text of one object literal. -/
def dataToSign (data : ProviderData) : String := Json.stringify data.toJson

end ProviderData

def isLowerAlphanum (character : Char) : Bool :=
  character.isDigit || decide ('a' ≤ character ∧ character ≤ 'z')

def generateUsernameFromEmail (email : String) : String :=
  if email = "" then "user"
  else
    let localPart := email.toList.takeWhile (· != '@')
    let kept := ((toLowerCase (String.ofList localPart)).toList.filter isLowerAlphanum).take 20
    if kept = [] then "user" else String.ofList kept

/-- The reply to a new user, with the text of its expiry: a date that has none is never
returned. -/
structure SsoCallback where
  provider : String
  providerUserInfo : ProviderUserInfo
  expiry : Date
  expiryText : String
  printed : Date.toISOString expiry = .ok expiryText
  signature : String
  suggestedUsername : String

namespace SsoCallback

/-- The part of the reply that a client submits unchanged. -/
def providerData (callback : SsoCallback) : ProviderData :=
  { provider := callback.provider
    providerUserInfo := callback.providerUserInfo
    expiry := callback.expiryText }

end SsoCallback

/-- `handleSSOCallback` where the identity is new. -/
def offerUsernameSelection (env : SsoEnv) (provider : String) (info : ProviderUserInfo)
    (now : Date) : Except ApiError SsoCallback :=
  let expiry := Date.addMs now (10 * 60 * 1000)
  match printed : Date.toISOString expiry with
  | .error error => .error error
  | .ok expiryText =>
      .ok
        { provider := provider
          providerUserInfo := info
          expiry := expiry
          expiryText := expiryText
          printed := printed
          signature := createSSOSignature env (ProviderData.dataToSign
            { provider := provider, providerUserInfo := info, expiry := expiryText })
          suggestedUsername := generateUsernameFromEmail (info.email.getD "") }

/-! ### `CompleteSSOSignupDTO` -/

/-- `z.string()`. -/
def readString : Option Json → Option String
  | some (.str value) => some value
  | _ => none

/-- `z.string().optional()`. -/
def readOptionalString : Option Json → Option (Option String)
  | none => some none
  | some (.str value) => some (some value)
  | some _ => none

/-- The object of the schema, whose `email` and `name` are not optional. -/
def ProviderUserInfo.parse (json : Json) : Option ProviderUserInfo := do
  let id ← readString (json.get? "id")
  let email ← readString (json.get? "email")
  let name ← readString (json.get? "name")
  let picture ← readOptionalString (json.get? "picture")
  some { id := id, email := some email, name := some name, picture := picture }

/-- `googleSsoProviderDataDTOSchema`. -/
def ProviderData.parse (env : SsoEnv) (json : Json) : Option ProviderData := do
  let provider ← (readString (json.get? "provider")).filter (· == "google")
  let providerUserInfo ← (json.get? "providerUserInfo").bind ProviderUserInfo.parse
  let expiry ← (readString (json.get? "expiry")).filter env.isIsoDatetime
  some { provider := provider, providerUserInfo := providerUserInfo, expiry := expiry }

structure CompleteSSOSignupDTO where
  username : String
  providerData : ProviderData
  signature : String
deriving DecidableEq

/-- `z.string().min(3).max(64)`. -/
def isUsernameOfDto (username : String) : Bool :=
  decide (3 ≤ utf16Length username) && decide (utf16Length username ≤ 64)

/-- `completeSSOSignupDTOSchema`. -/
def CompleteSSOSignupDTO.parse (env : SsoEnv) (body : Json) : Option CompleteSSOSignupDTO := do
  let username ← (readString (body.get? "username")).filter isUsernameOfDto
  let providerData ← (body.get? "providerData").bind (ProviderData.parse env)
  let signature ← readString (body.get? "signature")
  some { username := username, providerData := providerData, signature := signature }

/-- The body that a client sends. -/
def submissionBody (username : String) (providerData : Json) (signature : String) : Json :=
  .obj [("username", .str username), ("providerData", providerData), ("signature", .str signature)]

/-- `ZodValidationPipe`. -/
def validateBody (env : SsoEnv) (body : Json) : Except ApiError CompleteSSOSignupDTO :=
  match CompleteSSOSignupDTO.parse env body with
  | some dto => .ok dto
  | none => .error (.badRequest "Validation failed")

/-! ### The checks of `completeSSOSignup` -/

/-- `new Date(text)` for the texts that `z.iso.datetime()` accepts: seconds and their fraction
may be missing, and a fraction may have any number of digits. -/
def newDate (text : String) : Option Date :=
  let minutes := text.toList.take 16
  match text.toList.drop 16 with
  | ['Z'] => Date.parse (String.ofList (minutes ++ ":00.000Z".toList))
  | [':', s1, s2, 'Z'] => Date.parse (String.ofList (minutes ++ ':' :: s1 :: s2 :: ".000Z".toList))
  | ':' :: s1 :: s2 :: '.' :: fraction =>
      let millis := (fraction.takeWhile Char.isDigit ++ ['0', '0']).take 3
      Date.parse (String.ofList (minutes ++ ':' :: s1 :: s2 :: '.' :: (millis ++ ['Z'])))
  | _ => Date.parse text

/-- `new Date() > expiryDate`, which is false for an invalid date. -/
def hasExpired (now : Date) (expiry : String) : Bool :=
  (newDate expiry).any fun date => decide (date < now)

/-- The checks in front of the first statement. -/
def verifySubmission (env : SsoEnv) (now : Date) (dto : CompleteSSOSignupDTO) :
    Except ApiError Unit :=
  if hasExpired now dto.providerData.expiry then
    .error (.badRequest "SSO signup request has expired")
  else
    match verifySSOSignature env dto.signature dto.providerData.dataToSign with
    | .error error => .error error
    | .ok false => .error (.badRequest "Invalid signature")
    | .ok true =>
        if passesUsernameValidators dto.username then .ok ()
        else .error (.badRequest "Invalid username")

/-! ### Dates are read back -/

theorem takeWhile_digits (millis : Nat) :
    (Date.digits 3 millis ++ ['Z']).takeWhile Char.isDigit = Date.digits 3 millis := by
  have isDigit : ∀ value, (Date.digit value).isDigit = true := by
    intro value
    have bounded := Nat.mod_lt value (show 0 < 10 by omega)
    have all : ∀ rest < 10, (Char.ofNat (48 + rest)).isDigit = true := by decide
    exact all _ bounded
  show [Date.digit (millis / 10 / 10), Date.digit (millis / 10), Date.digit millis, 'Z'].takeWhile
    Char.isDigit = _
  rw [List.takeWhile_cons, isDigit, List.takeWhile_cons, isDigit, List.takeWhile_cons, isDigit]
  rfl

theorem newDate_printed {date : Date} {text : String}
    (printed : Date.toISOString date = .ok text) : newDate text = some date := by
  have read := Date.parse_toISOString printed
  have parts := (Date.toISOString_eq_ok printed).2
  unfold Date.isoText Date.yearText at parts
  split at parts
  · rw [← read]
    have millis := takeWhile_digits ((date % 86400000).toNat % 1000)
    have same : text = String.ofList text.toList := String.ofList_toList.symm
    rw [newDate, parts]
    show Date.parse (String.ofList (_ ++ ':' :: _ :: _ :: '.' ::
      ((((Date.digits 3 ((date % 86400000).toNat % 1000) ++ ['Z']).takeWhile Char.isDigit ++
        ['0', '0']).take 3) ++ ['Z']))) = _
    rw [millis, same, parts]
    rfl
  split at parts
  · rw [← read]
    rw [newDate, parts]
    rfl
  · rw [← read]
    rw [newDate, parts]
    rfl

/-! ### The DTO and the reply -/

/-- The DTO reads back user info that has an email and a name, and no other. -/
theorem parse_infoJson (info : ProviderUserInfo) :
    ProviderUserInfo.parse info.toJson =
      if info.email.isSome = true ∧ info.name.isSome = true then some info else none := by
  obtain ⟨id, email, name, picture⟩ := info
  cases email with
  | none => cases name <;> cases picture <;> rfl
  | some email =>
      cases name with
      | none => cases picture <;> rfl
      | some name => cases picture <;> rfl

/-- What the DTO reads from submitted data of the reply: all of it, or nothing. -/
theorem parse_dataJson (env : SsoEnv) (data : ProviderData) :
    ProviderData.parse env data.toJson =
      if data.provider = "google" ∧ (data.providerUserInfo.email.isSome = true ∧
        data.providerUserInfo.name.isSome = true) ∧ env.isIsoDatetime data.expiry = true
      then some data else none := by
  obtain ⟨provider, info, expiry⟩ := data
  have infoRead := parse_infoJson info
  have parts : ProviderData.parse env (ProviderData.toJson ⟨provider, info, expiry⟩) =
      (Option.filter (· == "google") (some provider)).bind fun provider =>
        (ProviderUserInfo.parse info.toJson).bind fun providerUserInfo =>
          (Option.filter env.isIsoDatetime (some expiry)).bind fun expiry =>
            some ⟨provider, providerUserInfo, expiry⟩ := rfl
  grind

theorem parse_submissionBody (env : SsoEnv) (username : String) (providerData : Json)
    (signature : String) :
    CompleteSSOSignupDTO.parse env (submissionBody username providerData signature) =
      if isUsernameOfDto username = true then
        (ProviderData.parse env providerData).map fun data =>
          { username := username, providerData := data, signature := signature }
      else none := by
  have parts : CompleteSSOSignupDTO.parse env (submissionBody username providerData signature) =
      (Option.filter isUsernameOfDto (some username)).bind fun username =>
        (ProviderData.parse env providerData).bind fun data =>
          some { username := username, providerData := data, signature := signature } := rfl
  rw [parts]
  by_cases accepted : isUsernameOfDto username = true
  · rw [Option.filter_some_pos accepted, if_pos accepted]
    cases ProviderData.parse env providerData <;> rfl
  · simp [accepted]

theorem isPlain_infoJson (info : ProviderUserInfo) : info.toJson.isPlain = true := by
  obtain ⟨id, email, name, picture⟩ := info
  cases email <;> cases name <;> cases picture <;> rfl

theorem isPlain_dataJson (data : ProviderData) : data.toJson.isPlain = true := by
  simp [ProviderData.toJson, Json.isPlain, Json.isPlainFields, isPlain_infoJson]

theorem get?_infoJson (info : ProviderUserInfo) :
    info.toJson.get? "id" = some (.str info.id) ∧
      info.toJson.get? "email" = info.email.map .str ∧
      info.toJson.get? "name" = info.name.map .str ∧
      info.toJson.get? "picture" = info.picture.map .str := by
  obtain ⟨id, email, name, picture⟩ := info
  cases email <;> cases name <;> cases picture <;> exact ⟨rfl, rfl, rfl, rfl⟩

theorem infoJson_injective {info other : ProviderUserInfo} (same : info.toJson = other.toJson) :
    info = other := by
  obtain ⟨hasId, hasEmail, hasName, hasPicture⟩ := get?_infoJson info
  obtain ⟨otherId, otherEmail, otherName, otherPicture⟩ := get?_infoJson other
  rw [same, otherId] at hasId
  rw [same, otherEmail] at hasEmail
  rw [same, otherName] at hasName
  rw [same, otherPicture] at hasPicture
  have strInjective : Function.Injective Json.str := fun text other equal => Json.str.inj equal
  have mapInjective := Option.map_injective strInjective
  have sameId := strInjective (Option.some.inj hasId)
  have sameEmail := mapInjective hasEmail
  have sameName := mapInjective hasName
  have samePicture := mapInjective hasPicture
  cases info
  cases other
  grind

theorem dataToSign_injective {data other : ProviderData}
    (same : data.dataToSign = other.dataToSign) :
    data = other := by
  have sameJson := Json.stringify_injective (isPlain_dataJson data) (isPlain_dataJson other) same
  obtain ⟨provider, info, expiry⟩ := data
  injection sameJson with sameFields
  simp only [List.cons.injEq, Prod.mk.injEq, Json.str.injEq, true_and, and_true] at sameFields
  obtain ⟨sameProvider, sameInfo, sameExpiry⟩ := sameFields
  rw [sameProvider, infoJson_injective sameInfo, sameExpiry]

/-! ### The signature -/

/-- A signature is compared by its bytes, when it has as many as a hash. -/
theorem verifySSOSignature_eq (env : SsoEnv) (signature data : String) :
    verifySSOSignature env signature data =
      if (hexDecode signature).length = 32 then .ok (hexDecode signature == env.hmac data)
      else .error .rangeError := by
  unfold verifySSOSignature timingSafeEqual
  simp only [hexDecode_hexEncode, env.hmac_length]

theorem verifySubmission_ok {env : SsoEnv} {now : Date} {dto : CompleteSSOSignupDTO} :
    verifySubmission env now dto = .ok () ↔
      hasExpired now dto.providerData.expiry = false ∧
        hexDecode dto.signature = env.hmac dto.providerData.dataToSign ∧
        passesUsernameValidators dto.username = true := by
  have hashLength := env.hmac_length dto.providerData.dataToSign
  rw [verifySubmission, verifySSOSignature_eq]
  grind

/-- The checks refuse with a client error what has expired, and what has a signature of the right
length that is another one or comes with an invalid username. -/
theorem verifySubmission_clientError {env : SsoEnv} {now : Date} {dto : CompleteSSOSignupDTO} :
    (∃ error, verifySubmission env now dto = .error error ∧ isClientError error = true) ↔
      hasExpired now dto.providerData.expiry = true ∨
        (hexDecode dto.signature).length = 32 ∧
          (hexDecode dto.signature ≠ env.hmac dto.providerData.dataToSign ∨
            passesUsernameValidators dto.username = false) := by
  have hashLength := env.hmac_length dto.providerData.dataToSign
  rw [verifySubmission, verifySSOSignature_eq]
  by_cases length : (hexDecode dto.signature).length = 32
  · by_cases same : hexDecode dto.signature = env.hmac dto.providerData.dataToSign
    · cases hasExpired now dto.providerData.expiry <;>
        cases passesUsernameValidators dto.username <;> simp [hashLength, same, isClientError]
    · rw [beq_false_of_ne same]
      cases hasExpired now dto.providerData.expiry <;> simp [length, same, isClientError]
  · cases hasExpired now dto.providerData.expiry <;> simp [length, isClientError]

end Lombok.Auth
