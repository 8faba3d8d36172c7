import Lombok.Auth.Session
import Lombok.Library.Action
import Lombok.Tunnel.Forward

/-!
Contract: verifying an email address.

Owns `createEmailVerificationToken`, `verifyEmailVerificationToken` and
`verifyEmail`, whose awaited statements are steps of their own: the token is
verified, the user row is read and compared, the row is updated where it still
has the key. Any number of calls are under way at a time, and emails change in
between, each change with a new key.

`verification_exact_iff` says in which runs a call returns just when it took
effect: those in which no call comes to its update. Does not own: the signature
of a token, and who asks for the mail.
-/

namespace Lombok.Auth

open Lombok.Core Lombok.Library Lombok.Library.Framing

/-! ### Keys and tokens -/

inductive EmailAlgorithm where
  | rs
  | hs
deriving DecidableEq, Inhabited

def EmailAlgorithm.alg : EmailAlgorithm → String
  | rs => "RS256"
  | hs => "HS256"

/-- The auth configuration, as far as it is about emails, and how a key is imported. -/
structure EmailConfig where
  algorithm : EmailAlgorithm
  privateKey : Option String
  publicKey : Option String
  secret : Option String
  importPKCS8 : String → Except ApiError String
  importSPKI : String → Except ApiError String

/-- A configured text, or the error that it is missing. An empty text counts as missing. -/
def requireKey (configured : Option String) (message : String) : Except ApiError String :=
  match configured.filter fun text => text ≠ "" with
  | some text => .ok text
  | none => .error (.internal message)

section Keys

variable (config : EmailConfig)

def getEmailVerificationSignKey : Except ApiError String :=
  match config.algorithm with
  | .rs => do
      let pem ← requireKey config.privateKey
        "Email verification not configured (missing private key)"
      config.importPKCS8 pem
  | .hs => requireKey config.secret "Email verification not configured (missing secret)"

def getEmailVerificationVerifyKey : Except ApiError String :=
  match config.algorithm with
  | .rs => do
      let pem ← requireKey config.publicKey
        "Email verification not configured (missing public key)"
      config.importSPKI pem
  | .hs => requireKey config.secret "Email verification not configured (missing secret)"

end Keys

/-- The error of a token that does not verify. -/
inductive JoseError where
  | jwtExpired
  | other
deriving DecidableEq, Inhabited

def emailVerifyKid : String := "email-verify"

def emailVerifyAud : String := "email-verify"

def emailVerifyIss : String := "lombok-api"

/-- `AuthDurationSeconds.EmailVerification`. -/
def emailVerificationSeconds : Int := 24 * 60 * 60

/-- What the service takes from elsewhere. A token signed under the configured key is verified
under its counterpart for the issuer and the audience it names, up to its expiration time. -/
structure EmailEnv extends EmailConfig where
  toLowerCase : String → String
  sha256 : Bytes → Bytes
  sign : String → Option String → SignedJWT → String
  jwtVerify : String → String → Date → Except JoseError Fields
  verifiable : ∀ key, getEmailVerificationSignKey toEmailConfig = .ok key →
    ∃ counterpart, getEmailVerificationVerifyKey toEmailConfig = .ok counterpart ∧
      ∀ kid token now expiresAt, token.alg = algorithm.alg →
        Json.isPlain (.obj token.payload) = true →
        Fields.get? token.payload "iss" = some (.str emailVerifyIss) →
        Fields.get? token.payload "aud" = some (.str emailVerifyAud) →
        Fields.get? token.payload "exp" = some (.ofInt expiresAt) → now / 1000 < expiresAt →
          jwtVerify counterpart (sign key kid token) now = .ok token.payload

section Tokens

variable (env : EmailEnv)

def normalizeEmail (email : String) : String :=
  env.toLowerCase (String.ofList (Tunnel.trim email.toList))

/-- The text in base64url. -/
def emailHash (normalizedEmail : String) : String :=
  String.ofList (stripPadding
    ((Base64.encode (env.sha256 (toUtf8 normalizedEmail))).map toUrlSafe))

theorem isPlain_ofInt (value : Int) : (Json.ofInt value).isPlain = true := by
  cases value with
  | ofNat value => exact Json.isPlain_ofNat value
  | negSucc value =>
      have digits := Json.isPlain_ofNat (value + 1)
      rw [Json.ofNat, Json.isPlain, Bool.and_eq_true] at digits
      have text : (toString (Int.negSucc value)).toList = '-' :: (toString (value + 1)).toList := by
        show ("-" ++ toString (value + 1)).toList = _
        rw [String.toList_append]
        rfl
      rw [Json.ofInt, Json.isPlain, text, List.all_cons, digits.2]
      rfl

def emailClaims (userId email emailVerifyKey jti : String) (now : Date) : SignedJWT :=
  signJWT env.algorithm.alg
    [("evk", .str emailVerifyKey), ("eh", .str (emailHash env (normalizeEmail env email)))]
    ([("iss", .str emailVerifyIss), ("aud", .str emailVerifyAud), ("sub", .str userId),
      ("jti", .str jti)] ++ issuedFor now emailVerificationSeconds)

theorem emailClaims_isPlain (userId email emailVerifyKey jti : String) (now : Date) :
    Json.isPlain (.obj (emailClaims env userId email emailVerifyKey jti now).payload) = true := by
  simp [isPlain_ofInt, emailClaims, signJWT, issuedFor, Fields.spread, Fields.set, Json.isPlain,
    Json.isPlainFields]

def createEmailVerificationToken (userId email emailVerifyKey jti : String) (now : Date) :
    Except ApiError String := do
  let key ← getEmailVerificationSignKey env.toEmailConfig
  let kid := if env.algorithm = .rs then some emailVerifyKid else none
  .ok (env.sign key kid (emailClaims env userId email emailVerifyKey jti now))

/-- `AuthTokenExpiredError`, `AuthTokenInvalidError`, or an error of the configuration. -/
inductive AuthTokenError where
  | expired
  | invalid
  | other (error : ApiError)
deriving DecidableEq, Inhabited

def mapJoseError : JoseError → AuthTokenError
  | .jwtExpired => .expired
  | .other => .invalid

structure VerificationClaims where
  sub : String
  evk : String
  eh : String
deriving DecidableEq, Inhabited

def verifyEmailVerificationToken (token : String) (now : Date) :
    Except AuthTokenError VerificationClaims :=
  match getEmailVerificationVerifyKey env.toEmailConfig with
  | .error error => .error (.other error)
  | .ok key =>
      match env.jwtVerify key token now with
      | .error error => .error (mapJoseError error)
      | .ok payload =>
          match Fields.get? payload "sub", Fields.get? payload "evk", Fields.get? payload "eh" with
          | some (.str sub), some (.str evk), some (.str eh) => .ok ⟨sub, evk, eh⟩
          | _, _, _ => .error .invalid

/-- A token that was made is verified before it expires, with the claims it was made for. -/
theorem verify_createEmailVerificationToken {userId email emailVerifyKey jti token : String}
    {madeAt now : Date}
    (made : createEmailVerificationToken env userId email emailVerifyKey jti madeAt = .ok token)
    (unexpired : now / 1000 < madeAt / 1000 + emailVerificationSeconds) :
    verifyEmailVerificationToken env token now =
      .ok ⟨userId, emailVerifyKey, emailHash env (normalizeEmail env email)⟩ := by
  obtain ⟨key, signKey, signed⟩ := Action.bind_eq_ok.mp made
  cases signed
  obtain ⟨counterpart, verifyKey, verifies⟩ := env.verifiable key signKey
  have verified := verifies (if env.algorithm = .rs then some emailVerifyKid else none)
    (emailClaims env userId email emailVerifyKey jti madeAt) now
    (madeAt / 1000 + emailVerificationSeconds) rfl
    (emailClaims_isPlain env userId email emailVerifyKey jti madeAt) rfl rfl rfl unexpired
  rw [verifyEmailVerificationToken, verifyKey]
  dsimp only
  rw [verified]
  rfl

end Tokens

/-! ### Calls and rows -/

/-- A user, by the columns that a verification reads or writes. -/
structure EmailUser where
  id : String
  email : Option String
  emailVerified : Bool
  emailVerificationKey : Option String
  updatedAt : Date
deriving DecidableEq

def EmailUser.clash (left right : EmailUser) : Bool := left.id == right.id

abbrev EmailUsers := Table EmailUser EmailUser.clash

/-- A token that was verified when it was presented, and its claims. -/
structure PresentedToken (env : EmailEnv) where
  token : String
  presentedAt : Date
  claims : VerificationClaims
  verified : verifyEmailVerificationToken env token presentedAt = .ok claims

/-- How far a call is, or how it ended. A call that returned or threw keeps its token. -/
inductive VerifyCall (env : EmailEnv) where
  | verified (presented : PresentedToken env)
  | checked (presented : PresentedToken env) (user : EmailUser)
  | returned (token : String)
  | threw (token : String) (error : ApiError)

structure EmailState (env : EmailEnv) where
  users : EmailUsers
  calls : List (VerifyCall env) := []

def invalidLink : ApiError := .badRequest "Invalid verification link"

def expiredLink : ApiError := .badRequest "Verification link has expired"

/-- The error of `verifyEmail` for a token that is not verified. -/
def linkError : AuthTokenError → ApiError
  | .expired => expiredLink
  | .invalid => invalidLink
  | .other error => error

/-- A text that is not null and not empty. -/
def truthy (text : Option String) : Option String := text.filter fun value => value ≠ ""

/-- The row has an email and a key, and the claims are about them. -/
def matchesUser (env : EmailEnv) (claims : VerificationClaims) (user : EmailUser) :
    Bool :=
  match truthy user.email, truthy user.emailVerificationKey with
  | some email, some key =>
      claims.evk == key && claims.eh == emailHash env (normalizeEmail env email)
  | _, _ => false

/-- The columns of the row after the update. -/
def EmailUser.verifiedAt (now : Date) (row : EmailUser) : EmailUser :=
  { row with emailVerified := true, emailVerificationKey := none, updatedAt := now }

namespace EmailState

variable {env : EmailEnv} (state : EmailState env)

def setCall (index : Nat) (call : VerifyCall env) : EmailState env :=
  { state with calls := state.calls.set index call }

/-- A call begins: its token is verified. -/
def present (token : String) (now : Date) : EmailState env :=
  match verified : verifyEmailVerificationToken env token now with
  | .error error =>
      { state with calls := state.calls ++ [.threw token (linkError error)] }
  | .ok claims =>
      { state with calls := state.calls ++ [.verified ⟨token, now, claims, verified⟩] }

def readUser (index : Nat) : EmailState env :=
  match state.calls[index]? with
  | some (.verified presented) =>
      match state.users.find? fun row => row.id == presented.claims.sub with
      | none => state.setCall index (.threw presented.token invalidLink)
      | some user =>
          if matchesUser env presented.claims user then
            state.setCall index (.checked presented user)
          else state.setCall index (.threw presented.token invalidLink)
  | _ => state

/-- The `where` of the update. -/
def isDue (presented : PresentedToken env) (user row : EmailUser) : Bool :=
  row.id == user.id && row.emailVerificationKey == some presented.claims.evk

/-- The rows after the update. -/
def verifiedUsers (presented : PresentedToken env) (user : EmailUser) (now : Date) : EmailUsers :=
  state.users.update (isDue presented user) (EmailUser.verifiedAt now) fun _ _ => ⟨rfl, rfl⟩

/-- The row is updated where it still has the key. The call throws if a row came back. -/
def updateUser (index : Nat) (now : Date) : EmailState env :=
  match state.calls[index]? with
  | some (.checked presented user) =>
      let updated := { state with users := state.verifiedUsers presented user now }
      if state.users.rows.any (isDue presented user) then
        updated.setCall index (.threw presented.token invalidLink)
      else updated.setCall index (.returned presented.token)
  | _ => state

def changeEmail (userId : String) (email : Option String) (key : String) (now : Date) :
    EmailState env :=
  { state with
    users := state.users.update (fun row => row.id == userId)
      (fun row =>
        { row with
          email := email
          emailVerified := false
          emailVerificationKey := some key
          updatedAt := now })
      fun _ _ => ⟨rfl, rfl⟩ }

end EmailState

inductive EmailInput where
  | changeEmail (userId : String) (email : Option String) (key : String) (now : Date)
  | present (token : String) (now : Date)
  | readUser (index : Nat)
  | updateUser (index : Nat) (now : Date)
deriving DecidableEq

def emailStep (env : EmailEnv) (state : EmailState env) : EmailInput → EmailState env
  | .changeEmail userId email key now => state.changeEmail userId email key now
  | .present token now => state.present token now
  | .readUser index => state.readUser index
  | .updateUser index now => state.updateUser index now

/-! ### What a step does -/

namespace EmailState

variable {env : EmailEnv} (state : EmailState env)

theorem present_cases (token : String) (now : Date) :
    (∃ error, verifyEmailVerificationToken env token now = .error error ∧
      state.present token now =
        { state with calls := state.calls ++ [.threw token (linkError error)] }) ∨
    ∃ presented : PresentedToken env, state.present token now =
      { state with calls := state.calls ++ [.verified presented] } := by
  unfold present
  split
  · grind
  · exact .inr ⟨_, rfl⟩

variable {presented : PresentedToken env} {user : EmailUser} (now : Date)

theorem readUser_cases {index : Nat} (waiting : state.calls[index]? = some (.verified presented)) :
    (∃ user ∈ state.users.rows, user.id = presented.claims.sub ∧
      matchesUser env presented.claims user = true ∧
      state.readUser index = state.setCall index (.checked presented user)) ∨
    (∀ user ∈ state.users.rows, user.id = presented.claims.sub →
      matchesUser env presented.claims user = false) ∧
      state.readUser index = state.setCall index (.threw presented.token invalidLink) := by
  rw [readUser, waiting]
  dsimp only
  cases found : state.users.find? fun row => row.id == presented.claims.sub with
  | none =>
      refine .inr ⟨?_, rfl⟩
      intro user member same
      have notFound := List.find?_eq_none.mp found user member
      exact absurd (beq_iff_eq.mpr same) notFound
  | some user =>
      have member : user ∈ state.users.rows := List.mem_of_find?_eq_some found
      have same : user.id = presented.claims.sub := beq_iff_eq.mp
        (@List.find?_some _ (fun row : EmailUser => row.id == presented.claims.sub) _ _ found)
      cases compared : matchesUser env presented.claims user with
      | true =>
          grind
      | false =>
          dsimp only
          rw [compared]
          refine .inr ⟨?_, rfl⟩
          intro other otherMember otherSame
          have one := state.users.eq_of_clash (fun _ _ => BEq.comm) otherMember member
            (beq_iff_eq.mpr (otherSame.trans same.symm))
          rwa [one]

theorem verifiedUsers_ne (due : state.users.rows.any (isDue presented user) = true) :
    state.verifiedUsers presented user now ≠ state.users := by
  intro same
  obtain ⟨row, member, isDueRow⟩ := List.any_eq_true.mp due
  have written : row.verifiedAt now ∈ (state.verifiedUsers presented user now).rows :=
    Table.mem_update.mpr ⟨row, member, if_pos isDueRow⟩
  rw [same] at written
  have one := state.users.eq_of_clash (fun _ _ => BEq.comm) member written (beq_iff_eq.mpr rfl)
  have key : row.emailVerificationKey = none := by
    rw [one]
    rfl
  have held := (Bool.and_eq_true_iff.mp isDueRow).2
  rw [key] at held
  cases held

theorem verifiedUsers_eq (notDue : state.users.rows.any (isDue presented user) = false) :
    state.verifiedUsers presented user now = state.users :=
  Table.update_missed _ fun row member =>
    Bool.eq_false_iff.mpr (List.any_eq_false.mp notDue row member)

/-- An update throws where it wrote a row, and returns where it wrote none. -/
theorem updateUser_cases {index : Nat}
    (waiting : state.calls[index]? = some (.checked presented user)) :
    ((state.updateUser index now).users ≠ state.users ∧
      (state.updateUser index now).calls =
        state.calls.set index (.threw presented.token invalidLink)) ∨
    (state.updateUser index now).users = state.users ∧
      (state.updateUser index now).calls =
        state.calls.set index (.returned presented.token) := by
  rw [updateUser, waiting]
  dsimp only
  cases due : state.users.rows.any (isDue presented user) with
  | true => exact .inl ⟨state.verifiedUsers_ne now due, rfl⟩
  | false => exact .inr ⟨state.verifiedUsers_eq now due, rfl⟩

end EmailState

/-! ### What a verification is to do -/

section Claims

variable (env : EmailEnv)

/-- The token was made for the row's key and email, in any case and with any blanks around the
email, and has not expired. -/
def MadeFor (user : EmailUser) (token : String) (now : Date) : Prop :=
  ∃ userEmail key email jti madeAt, truthy user.email = some userEmail ∧
    truthy user.emailVerificationKey = some key ∧
    normalizeEmail env email = normalizeEmail env userEmail ∧
    createEmailVerificationToken env user.id email key jti madeAt = .ok token ∧
    now / 1000 < madeAt / 1000 + emailVerificationSeconds

/-- The step is one of the call at the index, for a token that was presented at the date. -/
inductive StepOf (state : EmailState env) : EmailInput → Nat → String → Date → Prop
  | present (token : String) (now : Date) :
      StepOf state (.present token now) state.calls.length token now
  | readUser {index : Nat} {presented : PresentedToken env}
      (waiting : state.calls[index]? = some (.verified presented)) :
      StepOf state (.readUser index) index presented.token presented.presentedAt
  | updateUser {index : Nat} {presented : PresentedToken env} {user : EmailUser} (now : Date)
      (waiting : state.calls[index]? = some (.checked presented user)) :
      StepOf state (.updateUser index now) index presented.token presented.presentedAt

/-- The step wrote a row. -/
def TakesEffect (state : EmailState env) (input : EmailInput) : Prop :=
  (emailStep env state input).users ≠ state.users

def StepExact (state : EmailState env) (input : EmailInput) : Prop :=
  ∀ index token presentedAt, StepOf env state input index token presentedAt →
    ∀ call, (emailStep env state input).calls[index]? = some call →
      (call = .returned token ↔ TakesEffect env state input) ∧
      (call = .returned token → ∃ user ∈ state.users.rows, MadeFor env user token presentedAt) ∧
      ∀ error, call = .threw token error →
        (¬ ∃ user ∈ state.users.rows, MadeFor env user token presentedAt) ∧
          (emailStep env state input).users = state.users

/-- Every step is exact, and no token is accepted twice. -/
structure VerificationExact (users : EmailUsers) (inputs : List EmailInput) : Prop where
  steps : AlongRun (emailStep env) (StepExact env) ⟨users, []⟩ inputs
  once : ∀ (token : String) (first second : Nat),
    (run (emailStep env) ⟨users, []⟩ inputs).calls[first]? =
      some (VerifyCall.returned token) →
    (run (emailStep env) ⟨users, []⟩ inputs).calls[second]? =
      some (VerifyCall.returned token) → first = second

def ComesToUpdate (state : EmailState env) (input : EmailInput) : Prop :=
  ∃ index now presented user, input = .updateUser index now ∧
    state.calls[index]? = some (.checked presented user)

instance (state : EmailState env) (input : EmailInput) :
    Decidable (ComesToUpdate env state input) :=
  match input with
  | .updateUser index now =>
      match held : state.calls[index]? with
      | some (.checked presented user) => isTrue ⟨index, now, presented, user, rfl, held⟩
      | some (.verified _) | some (.returned _) | some (.threw ..) | none => isFalse (by
          rintro ⟨_, _, _, _, equal, waiting⟩
          cases equal
          rw [held] at waiting
          cases waiting)
  | .changeEmail .. | .present .. | .readUser _ => isFalse (by
      rintro ⟨_, _, _, _, equal, _⟩
      cases equal)

end Claims

/-! ### The runs that are exact -/

section Exact

variable {env : EmailEnv}

variable {state : EmailState env} {call : VerifyCall env} {token : String} {input : EmailInput}

theorem MadeFor.verifies {user : EmailUser} {now : Date} (made : MadeFor env user token now) :
    ∃ claims, verifyEmailVerificationToken env token now = .ok claims ∧
      claims.sub = user.id ∧ matchesUser env claims user = true := by
  obtain ⟨userEmail, key, email, jti, madeAt, hasEmail, hasKey, sameEmail, made, unexpired⟩ := made
  have verified := verify_createEmailVerificationToken env made unexpired
  simp [matchesUser, verified, hasEmail, hasKey, sameEmail]

/-- At an update that a call comes to, it throws where it wrote a row and returns where not. -/
theorem not_stepExact_of_update (comes : ComesToUpdate env state input) :
    ¬ StepExact env state input := by
  obtain ⟨index, now, presented, user, rfl, waiting⟩ := comes
  intro exactly
  have inside : index < state.calls.length := (List.getElem?_eq_some_iff.mp waiting).1
  have ends := exactly index presented.token presented.presentedAt (.updateUser now waiting)
  rcases state.updateUser_cases now waiting with ⟨written, calls⟩ | ⟨unwritten, calls⟩
  · grind [emailStep]
  · have returned : (emailStep env state (.updateUser index now)).calls[index]? =
        some (.returned presented.token) := by
      rw [emailStep, calls, List.getElem?_set_self inside]
    exact (ends _ returned).1.mp rfl unwritten

theorem exact_of_notReturned {presentedAt : Date}
    (unchanged : (emailStep env state input).users = state.users)
    (notReturned : call ≠ .returned token)
    (refused : ∀ error, call = .threw token error →
      ¬ ∃ user ∈ state.users.rows, MadeFor env user token presentedAt) :
    (call = .returned token ↔ TakesEffect env state input) ∧
      (call = .returned token → ∃ user ∈ state.users.rows, MadeFor env user token presentedAt) ∧
      ∀ error, call = .threw token error →
        (¬ ∃ user ∈ state.users.rows, MadeFor env user token presentedAt) ∧
          (emailStep env state input).users = state.users := by
  refine ⟨⟨fun returned => absurd returned notReturned, fun wrote => absurd unchanged wrote⟩,
    fun returned => absurd returned notReturned, ?_⟩
  grind

theorem exact_of_present {now : Date}
    (held : (state.present token now).calls[state.calls.length]? = some call) :
    (state.present token now).users = state.users ∧ call ≠ .returned token ∧
      ∀ error, call = .threw token error →
        ¬ ∃ user ∈ state.users.rows, MadeFor env user token now := by
  rcases state.present_cases token now with ⟨error, failed, after⟩ | ⟨presented, after⟩
  · rw [after, List.getElem?_concat_length] at held
    cases held
    refine ⟨by rw [after], nofun, ?_⟩
    rintro _ _ ⟨user, _, made⟩
    grind [made.verifies]
  · grind

theorem exact_of_readUser {index : Nat} {presented : PresentedToken env}
    (waiting : state.calls[index]? = some (.verified presented))
    (held : (state.readUser index).calls[index]? = some call) :
    (state.readUser index).users = state.users ∧ call ≠ .returned presented.token ∧
      ∀ error, call = .threw presented.token error →
        ¬ ∃ user ∈ state.users.rows, MadeFor env user presented.token presented.presentedAt := by
  have inside : index < state.calls.length := (List.getElem?_eq_some_iff.mp waiting).1
  rcases state.readUser_cases waiting with ⟨user, _, _, _, after⟩ | ⟨unmatched, after⟩
  · grind [EmailState.setCall]
  · rw [after, EmailState.setCall, List.getElem?_set_self inside] at held
    cases held
    refine ⟨by rw [after]; rfl, nofun, ?_⟩
    rintro _ _ ⟨user, member, made⟩
    grind [made.verifies, presented.verified]

theorem stepExact_of_noUpdate (noUpdate : ¬ ComesToUpdate env state input) :
    StepExact env state input := by
  intro index token presentedAt step call held
  cases step with
  | present token now =>
      obtain ⟨unchanged, notReturned, refused⟩ := exact_of_present held
      exact exact_of_notReturned unchanged notReturned refused
  | readUser waiting =>
      obtain ⟨unchanged, notReturned, refused⟩ := exact_of_readUser waiting held
      exact exact_of_notReturned unchanged notReturned refused
  | updateUser now waiting => exact absurd ⟨_, _, _, _, rfl, waiting⟩ noUpdate

/-! ### Runs -/

def NoneReturned (state : EmailState env) : Prop :=
  ∀ call ∈ state.calls, ∀ token, call ≠ .returned token

theorem noneReturned_set (none : NoneReturned state) (index : Nat)
    (notReturned : ∀ token, call ≠ .returned token) :
    NoneReturned (state.setCall index call) := by
  intro other member
  rcases List.mem_or_eq_of_mem_set member with old | rfl
  · exact none other old
  · exact notReturned

theorem noneReturned_append (none : NoneReturned state)
    (notReturned : ∀ token, call ≠ .returned token) :
    NoneReturned { state with calls := state.calls ++ [call] } := by
  intro other member
  rcases List.mem_append.mp member with old | new
  · exact none other old
  · rw [List.mem_singleton.mp new]
    exact notReturned

theorem noneReturned_step (input : EmailInput) (none : NoneReturned state)
    (noUpdate : ¬ ComesToUpdate env state input) : NoneReturned (emailStep env state input) := by
  cases input with
  | changeEmail userId email key now => exact none
  | present token now =>
      rcases state.present_cases token now with ⟨error, _, after⟩ | ⟨presented, after⟩
      · rw [emailStep, after]
        exact noneReturned_append none nofun
      · rw [emailStep, after]
        exact noneReturned_append none nofun
  | readUser index =>
      grind [emailStep, EmailState.readUser, noneReturned_set]
  | updateUser index now =>
      rw [emailStep]
      unfold EmailState.updateUser
      split
      · rename_i waiting
        exact absurd ⟨_, _, _, _, rfl, waiting⟩ noUpdate
      · exact none

/-- A run is exact if and only if no call comes to its update in it. -/
theorem verification_exact_iff (env : EmailEnv) (users : EmailUsers) (inputs : List EmailInput) :
    VerificationExact env users inputs ↔
      AlongRun (emailStep env) (fun state input => ¬ ComesToUpdate env state input) ⟨users, []⟩
        inputs := by
  constructor
  · intro exactly
    exact exactly.steps.imp fun state input here comes => not_stepExact_of_update comes here
  · intro along
    have start : NoneReturned (⟨users, []⟩ : EmailState env) := fun _ member => by cases member
    have none := run_invariant_of_alongRun (fun _ input none noUpdate =>
      noneReturned_step input none noUpdate) start along
    refine ⟨along.imp fun _ _ noUpdate => stepExact_of_noUpdate noUpdate, ?_⟩
    intro token first second held
    exact absurd rfl (none _ (List.mem_of_getElem? held) token)

end Exact

/-! ### A server with a secret -/

/-- A token is the text of its payload; it is presented on the day it was made. -/
def sampleJwtVerify (token : String) : Except JoseError Fields :=
  match Json.parse token with
  | some (.obj payload) =>
      match Fields.get? payload "iss", Fields.get? payload "aud" with
      | some (.str iss), some (.str aud) =>
          if iss = emailVerifyIss ∧ aud = emailVerifyAud then .ok payload else .error .other
      | _, _ => .error .other
  | _ => .error .other

def sampleEmailEnv : EmailEnv where
  algorithm := .hs
  privateKey := none
  publicKey := none
  secret := some "secret"
  importPKCS8 _ := .error internalServerError
  importSPKI _ := .error internalServerError
  toLowerCase text := String.ofList (text.toList.map Char.toLower)
  sha256 bytes := bytes.take 3
  sign _ _ token := Json.stringify (.obj token.payload)
  jwtVerify _ token _ := sampleJwtVerify token
  verifiable := by
    intro key signKey
    refine ⟨key, signKey, ?_⟩
    intro kid token now expiresAt alg plain iss aud exp unexpired
    unfold sampleJwtVerify
    rw [Json.parse_stringify plain]
    dsimp only
    rw [iss, aud]
    rfl

def unverifiedUser : EmailUser where
  id := "7c1d6a2e"
  email := some "Mona@Example.org"
  emailVerified := false
  emailVerificationKey := some "key-1"
  updatedAt := 0

def sampleEmailToken : String :=
  match createEmailVerificationToken sampleEmailEnv unverifiedUser.id " mona@example.org" "key-1"
      "jti-1" 0 with
  | .ok token => token
  | .error _ => ""

/-- The token of the user is presented once. -/
def sampleEmailInputs : List EmailInput :=
  [.present sampleEmailToken 1000, .readUser 0, .updateUser 0 1000]

/-- The call comes to its update, so it throws and takes effect. -/
theorem not_verificationExact :
    ¬ ∀ env users inputs, VerificationExact env users inputs := by
  intro always
  have along := (verification_exact_iff sampleEmailEnv _ _).mp
    (always _ (.singleton unverifiedUser) sampleEmailInputs)
  apply along.2.2.1
  decide +kernel

end Lombok.Auth
