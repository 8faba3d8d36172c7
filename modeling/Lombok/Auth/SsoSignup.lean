import Lombok.Auth.SsoSubmission
import Lombok.Library.Action
import Lombok.Library.Table

/-!
Contract: SSO sign-ups, from the callback of the provider to the rows they leave.

Owns `handleSSOCallback`, `completeSSOSignup` and `createIdentity`, the tables
they write, and runs in which sign-ups take their statements in any order among
each other and among the calls that insert or delete such rows. A user row and
its identity are inserted by two statements, and the second may fail.

Does not own: the exchange with the provider, tokens and the other columns of a
session (see `Session`), and other changes of a user row.
-/

namespace Lombok.Auth

open Lombok.Core Lombok.Library

/-! ### The tables -/

structure SsoUser where
  id : String
  username : String
  email : Option String
  passwordHash : Option String
  passwordSalt : Option String
  isAdmin : Bool
  emailVerified : Bool
  permissions : List String
  createdAt : Date
  updatedAt : Date
deriving DecidableEq

/-- The primary key, and `users_username_unique_lower`. -/
def SsoUser.clash (env : SsoEnv) (left right : SsoUser) : Bool :=
  left.id == right.id || env.lower left.username == env.lower right.username

structure UserIdentity where
  id : String
  userId : String
  provider : String
  providerUserId : String
  providerEmail : Option String
  providerName : Option String
  createdAt : Date
  updatedAt : Date
deriving DecidableEq

/-- The primary key, `unique_provider_user` and `unique_user_provider`. -/
def UserIdentity.clash (left right : UserIdentity) : Bool :=
  left.id == right.id ||
    (left.provider == right.provider && left.providerUserId == right.providerUserId) ||
    (left.userId == right.userId && left.provider == right.provider)

/-- The tables under their constraints: an identity refers to a user that is there. Of a session
the user is kept. -/
structure SsoTables (env : SsoEnv) where
  users : Table SsoUser (SsoUser.clash env)
  identities : Table UserIdentity UserIdentity.clash
  sessions : List String
  owned : ∀ identity ∈ identities.rows, ∃ user ∈ users.rows, user.id = identity.userId

namespace SsoTables

variable {env : SsoEnv}

def empty (env : SsoEnv) : SsoTables env :=
  { users := Table.empty
    identities := Table.empty
    sessions := []
    owned := fun identity member => by cases member }

def hasUser (tables : SsoTables env) (userId : String) : Bool :=
  tables.users.rows.any fun user => user.id == userId

def hasIdentity (tables : SsoTables env) (userId : String) : Bool :=
  tables.identities.rows.any fun identity => identity.userId == userId

/-- `findIdentityByProvider`. -/
def findIdentityByProvider (tables : SsoTables env) (provider providerUserId : String) :
    Option UserIdentity :=
  tables.identities.find? fun identity =>
    identity.provider == provider && identity.providerUserId == providerUserId

/-- `usernameExists`. -/
def usernameExists (tables : SsoTables env) (username : String) : Bool :=
  tables.users.rows.any fun user => env.lower user.username == toLowerCase username

theorem hasUser_iff {tables : SsoTables env} {userId : String} :
    tables.hasUser userId = true ↔ ∃ user ∈ tables.users.rows, user.id = userId := by
  rw [hasUser, List.any_eq_true]
  simp only [beq_iff_eq]

theorem hasIdentity_iff {tables : SsoTables env} {userId : String} :
    tables.hasIdentity userId = true ↔
      ∃ identity ∈ tables.identities.rows, identity.userId = userId := by
  rw [hasIdentity, List.any_eq_true]
  simp only [beq_iff_eq]

theorem hasIdentity_of_absent {tables : SsoTables env} {userId : String}
    (absent : tables.hasUser userId = false) : tables.hasIdentity userId = false := by
  rw [Bool.eq_false_iff] at absent ⊢
  intro found
  obtain ⟨identity, member, same⟩ := hasIdentity_iff.mp found
  grind [tables.owned, hasUser_iff.mpr]

/-- `insert(usersTable)`. -/
def insertUser? (tables : SsoTables env) (user : SsoUser) : Option (SsoTables env) :=
  match inserted : tables.users.insert user with
  | none => none
  | some users =>
      some
        { tables with
          users := users
          owned := by
            intro identity member
            obtain ⟨owner, ownerMember, same⟩ := tables.owned identity member
            exact ⟨owner, (Table.mem_insert inserted).mpr (.inl ownerMember), same⟩ }

/-- `insert(userIdentitiesTable)` of an identity whose user is there. -/
def insertIdentity? (tables : SsoTables env) (identity : UserIdentity)
    (present : tables.hasUser identity.userId = true) : Option (SsoTables env) :=
  match inserted : tables.identities.insert identity with
  | none => none
  | some identities =>
      some
        { tables with
          identities := identities
          owned := by
            intro other member
            rcases (Table.mem_insert inserted).mp member with before | isNew
            · exact tables.owned other before
            · rw [isNew]
              exact hasUser_iff.mp present }

/-- `delete(usersTable)`, with the identities and sessions that go along. -/
def deleteUser (tables : SsoTables env) (userId : String) : SsoTables env :=
  { users := tables.users.delete fun user => user.id == userId
    identities := tables.identities.delete fun identity => identity.userId == userId
    sessions := tables.sessions.filter (· != userId)
    owned := by
      intro identity member
      obtain ⟨before, other⟩ := List.mem_filter.mp member
      obtain ⟨owner, ownerMember, same⟩ := tables.owned identity before
      refine ⟨owner, List.mem_filter.mpr ⟨ownerMember, ?_⟩, same⟩
      show (!(owner.id == userId)) = true
      rw [same]
      exact other }

theorem insertUser?_eq_some {tables after : SsoTables env} {user : SsoUser}
    (inserted : tables.insertUser? user = some after) :
    after.users.rows = tables.users.rows ++ [user] ∧ after.identities = tables.identities := by
  unfold insertUser? at inserted
  split at inserted
  · cases inserted
  · rename_i users isInserted
    cases inserted
    exact ⟨Table.insert_rows isInserted, rfl⟩

theorem insertIdentity?_eq_some {tables after : SsoTables env} {identity : UserIdentity}
    {present : tables.hasUser identity.userId = true}
    (inserted : tables.insertIdentity? identity present = some after) :
    after.users = tables.users ∧
      after.identities.rows = tables.identities.rows ++ [identity] := by
  unfold insertIdentity? at inserted
  split at inserted
  · cases inserted
  · rename_i identities isInserted
    cases inserted
    exact ⟨rfl, Table.insert_rows isInserted⟩

theorem insertUser?_of_fresh {tables : SsoTables env} {user : SsoUser}
    (fresh : ∀ other ∈ tables.users.rows, SsoUser.clash env other user = false) :
    ∃ after, tables.insertUser? user = some after := by
  obtain ⟨users, inserted⟩ := Table.insert_of_fresh fresh
  unfold insertUser?
  split
  · grind
  · exact ⟨_, rfl⟩

/-- An identity goes in exactly when it clashes with none. -/
theorem insertIdentity?_isSome {tables : SsoTables env} {identity : UserIdentity}
    {present : tables.hasUser identity.userId = true} :
    (tables.insertIdentity? identity present).isSome = true ↔
      ∀ other ∈ tables.identities.rows, UserIdentity.clash other identity = false := by
  unfold insertIdentity?
  split
  · rename_i failed
    refine ⟨fun isSome => ?_, fun fresh => ?_⟩
    · cases isSome
    · obtain ⟨identities, inserted⟩ := Table.insert_of_fresh fresh
      rw [failed] at inserted
      cases inserted
  · rename_i identities inserted
    exact ⟨fun _ => Table.insert_fresh inserted, fun _ => rfl⟩

end SsoTables

/-! ### The calls -/

section Calls

variable {env : SsoEnv}

def databaseError : ApiError := .error "database error"

def insertUser (user : SsoUser) : Action (SsoTables env) ApiError Unit := fun tables =>
  match tables.insertUser? user with
  | none => (.error (.uniqueViolation "users"), tables)
  | some after => (.ok (), after)

def newIdentity (identityId userId : String) (now : Date) (provider : String)
    (info : ProviderUserInfo) : UserIdentity :=
  { id := identityId
    userId := userId
    provider := provider
    providerUserId := info.id
    providerEmail := info.email
    providerName := info.name
    createdAt := now
    updatedAt := now }

def createIdentity (identityId userId : String) (now : Date) (provider : String)
    (info : ProviderUserInfo) : Action (SsoTables env) ApiError Unit := fun tables =>
  if present : tables.hasUser userId = true then
    match tables.insertIdentity? (newIdentity identityId userId now provider info) present with
    | none => (.error (.uniqueViolation "user_identities"), tables)
    | some after => (.ok (), after)
  else (.error (.error "foreign key violation"), tables)

/-- `createUserSession`, as far as the tables here go. -/
def createUserSession (userId : String) : Action (SsoTables env) ApiError Unit := fun tables =>
  if tables.hasUser userId then (.ok (), { tables with sessions := tables.sessions ++ [userId] })
  else (.error (.error "foreign key violation"), tables)

inductive SsoReply where
  | login (userId : String)
  | selectUsername (callback : SsoCallback)

/-- `handleSSOCallback`, with the user info that the provider gave for the code. -/
def handleSSOCallback (env : SsoEnv) (provider : String) (info : ProviderUserInfo) (now : Date) :
    Action (SsoTables env) ApiError SsoReply := do
  Action.require (provider == "google") (.badRequest ("Unsupported provider: " ++ provider))
  let existingIdentity ← Action.gets fun tables => tables.findIdentityByProvider provider info.id
  match existingIdentity with
  | some identity =>
      let present ← Action.gets fun tables => tables.hasUser identity.userId
      Action.require present (.unauthorized "Unauthorized")
      createUserSession identity.userId
      pure (.login identity.userId)
  | none =>
      let callback ← Action.ofExcept (offerUsernameSelection env provider info now)
      pure (.selectUsername callback)

/-- The identifiers that a sign-up draws for its rows. -/
structure DrawnIds where
  user : String
  identity : String
deriving DecidableEq

/-- `newUser`. -/
def newUser (userId : String) (now : Date) (dto : CompleteSSOSignupDTO) : SsoUser :=
  { id := userId
    username := dto.username
    email := dto.providerData.providerUserInfo.email
    passwordHash := none
    passwordSalt := none
    isAdmin := false
    emailVerified := (dto.providerData.providerUserInfo.email.getD "") != ""
    permissions := []
    createdAt := now
    updatedAt := now }

/-- What `completeSSOSignup` does in front of its first insertion. -/
def checkSubmission (now : Date) (dto : CompleteSSOSignupDTO) :
    Action (SsoTables env) ApiError Unit := do
  Action.ofExcept (verifySubmission env now dto)
  let taken ← Action.gets fun tables => tables.usernameExists dto.username
  Action.require (!taken)
    (.conflict ("Username \"" ++ dto.username ++ "\" is already taken"))

def completeSSOSignup (now : Date) (ids : DrawnIds) (dto : CompleteSSOSignupDTO) :
    Action (SsoTables env) ApiError SsoUser := do
  checkSubmission now dto
  insertUser (newUser ids.user now dto)
  createIdentity ids.identity ids.user now dto.providerData.provider
    dto.providerData.providerUserInfo
  createUserSession ids.user
  pure (newUser ids.user now dto)

/-- `completeSignup` of the controller, behind its validation pipe. -/
def completeSignup (now : Date) (ids : DrawnIds) (body : Json) :
    Action (SsoTables env) ApiError SsoUser := do
  let dto ← Action.ofExcept (validateBody env body)
  completeSSOSignup now ids dto

/-! ### What the callback returns -/

/-- The reply to a new user carries what the provider gave, under a signature over all of it. -/
structure Offers (env : SsoEnv) (info : ProviderUserInfo) (callback : SsoCallback) : Prop where
  provider : callback.provider = "google"
  info : callback.providerUserInfo = info
  signature : callback.signature = createSSOSignature env callback.providerData.dataToSign

theorem offerUsernameSelection_eq_ok {provider : String} {info : ProviderUserInfo} {now : Date}
    {callback : SsoCallback} (offered : offerUsernameSelection env provider info now =
        .ok callback) :
    callback.provider = provider ∧ callback.providerUserInfo = info ∧
      callback.signature = createSSOSignature env callback.providerData.dataToSign := by
  unfold offerUsernameSelection at offered
  dsimp only at offered
  split at offered
  · cases offered
  · cases offered
    exact ⟨rfl, rfl, rfl⟩

theorem offers_of_callback {provider : String} {info : ProviderUserInfo} {now : Date}
    {callback : SsoCallback} {before after : SsoTables env}
    (returned : Action.Returns (handleSSOCallback env provider info now) before
      (.selectUsername callback) after) : Offers env info callback := by
  obtain ⟨_, _, guarded, rest⟩ := Action.returns_bind.mp returned
  have google : provider = "google" := beq_iff_eq.mp (Action.returns_require.mp guarded).1
  obtain ⟨existing, _, _, rest⟩ := Action.returns_bind.mp rest
  cases existing with
  | some identity =>
      obtain ⟨_, _, _, rest⟩ := Action.returns_bind.mp rest
      obtain ⟨_, _, _, rest⟩ := Action.returns_bind.mp rest
      obtain ⟨_, _, _, rest⟩ := Action.returns_bind.mp rest
      cases (Action.returns_pure.mp rest).1
  | none =>
      obtain ⟨offered, _, isOffered, rest⟩ := Action.returns_bind.mp rest
      cases (Action.returns_pure.mp rest).1
      obtain ⟨sameProvider, sameInfo, signature⟩ :=
        offerUsernameSelection_eq_ok (Action.returns_ofExcept.mp isOffered).1
      exact ⟨sameProvider.trans google, sameInfo, signature⟩

/-! ### What the calls throw -/

/-- The call is answered with a status from 400 on below 500. -/
def ClientError {σ α : Type} (result : Except ApiError α × σ) : Prop :=
  ∃ error, result.1 = .error error ∧ isClientError error = true

def NoClientError {σ α : Type} (operation : Action σ ApiError α) : Prop :=
  ∀ state, ¬ ClientError (operation state)

theorem NoClientError.bind {σ α β : Type} {first : Action σ ApiError α}
    {next : α → Action σ ApiError β} (firstClean : NoClientError first)
    (nextClean : ∀ value, NoClientError (next value)) : NoClientError (first >>= next) := by
  intro state
  rcases execution : first state with ⟨error | value, reached⟩
  · rw [Action.bind_of_throws execution]
    rintro ⟨other, isError, isClient⟩
    cases isError
    refine firstClean state ⟨error, ?_, isClient⟩
    rw [execution]
  · rw [Action.bind_of_returns execution]
    exact nextClean value reached

theorem noClientError_pure {σ α : Type} (value : α) :
    NoClientError (pure value : Action σ ApiError α) := by
  rintro state ⟨error, threw, _⟩
  cases threw

theorem noClientError_insertUser (user : SsoUser) :
    NoClientError (insertUser user : Action (SsoTables env) ApiError Unit) := by
  intro tables
  unfold insertUser
  rintro ⟨error, threw, isClient⟩
  split at threw
  · cases threw
    cases isClient
  · cases threw

theorem noClientError_createIdentity (identityId userId : String) (now : Date) (provider : String)
    (info : ProviderUserInfo) :
    NoClientError (createIdentity identityId userId now provider info :
      Action (SsoTables env) ApiError Unit) := by
  intro tables
  unfold createIdentity
  rintro ⟨error, threw, isClient⟩
  split at threw
  · split at threw
    · cases threw
      cases isClient
    · cases threw
  · cases threw
    cases isClient

theorem noClientError_createUserSession (userId : String) :
    NoClientError (createUserSession userId : Action (SsoTables env) ApiError Unit) := by
  intro tables
  unfold createUserSession
  rintro ⟨error, threw, isClient⟩
  split at threw
  · cases threw
  · cases threw
    cases isClient

/-- The checks read the tables and leave them as they are. -/
theorem checkSubmission_eq (now : Date) (dto : CompleteSSOSignupDTO) (tables : SsoTables env) :
    checkSubmission now dto tables =
      (match verifySubmission env now dto with
        | .error error => .error error
        | .ok () =>
            if tables.usernameExists dto.username = true then
              .error (.conflict ("Username \"" ++ dto.username ++ "\" is already taken"))
            else .ok (), tables) := by
  unfold checkSubmission
  cases verified : verifySubmission env now dto with
  | error error => rfl
  | ok value =>
      show Action.require (!tables.usernameExists dto.username) _ tables = _
      cases tables.usernameExists dto.username <;> rfl

theorem completeSSOSignup_of_refused {now : Date} {ids : DrawnIds} {dto : CompleteSSOSignupDTO}
    {tables : SsoTables env} {error : ApiError}
    (refused : checkSubmission now dto tables = (.error error, tables)) :
    completeSSOSignup now ids dto tables = (.error error, tables) := by
  exact Action.bind_of_throws refused

/-- Behind the checks, no failure is the client's. -/
theorem completeSSOSignup_of_checked {now : Date} {ids : DrawnIds} {dto : CompleteSSOSignupDTO}
    {tables : SsoTables env} (checked : checkSubmission now dto tables = (.ok (), tables)) :
    ¬ ClientError (completeSSOSignup now ids dto tables) := by
  rw [completeSSOSignup, Action.bind_of_returns checked]
  apply NoClientError.bind (noClientError_insertUser _)
  simp [NoClientError.bind, noClientError_createIdentity, noClientError_createUserSession,
    noClientError_pure]

theorem clientError_iff_checks {now : Date} {ids : DrawnIds} {dto : CompleteSSOSignupDTO}
    {tables : SsoTables env} :
    ClientError (completeSSOSignup now ids dto tables) ↔
      (∃ error, verifySubmission env now dto = .error error ∧ isClientError error = true) ∨
        (verifySubmission env now dto = .ok () ∧ tables.usernameExists dto.username = true) := by
  have checks := checkSubmission_eq now dto tables
  cases verified : verifySubmission env now dto with
  | error error =>
      rw [verified] at checks
      rw [completeSSOSignup_of_refused checks]
      refine ⟨?_, ?_⟩
      · rintro ⟨other, isError, isClient⟩
        cases isError
        exact .inl ⟨error, rfl, isClient⟩
      · rintro (⟨other, isError, isClient⟩ | ⟨isOk, _⟩)
        · cases isError
          exact ⟨error, rfl, isClient⟩
        · cases isOk
  | ok value =>
      rw [verified] at checks
      cases taken : tables.usernameExists dto.username with
      | true =>
          rw [taken] at checks
          rw [completeSSOSignup_of_refused checks]
          exact ⟨fun _ => .inr ⟨rfl, rfl⟩, fun _ => ⟨_, rfl, rfl⟩⟩
      | false =>
          simp [completeSSOSignup_of_checked, taken, checks]

theorem clientError_completeSSOSignup {now : Date} {ids : DrawnIds} {dto : CompleteSSOSignupDTO}
    {tables : SsoTables env} :
    ClientError (completeSSOSignup now ids dto tables) ↔
      hasExpired now dto.providerData.expiry = true ∨
        (hexDecode dto.signature).length = 32 ∧
          (hexDecode dto.signature ≠ env.hmac dto.providerData.dataToSign ∨
            passesUsernameValidators dto.username = false ∨
            tables.usernameExists dto.username = true) := by
  grind [clientError_iff_checks, verifySubmission_clientError, verifySubmission_ok, env.hmac_length]

theorem clientError_completeSignup {now : Date} {ids : DrawnIds} {body : Json}
    {tables : SsoTables env} :
    ClientError (completeSignup now ids body tables) ↔
      CompleteSSOSignupDTO.parse env body = none ∨
        ∃ dto, CompleteSSOSignupDTO.parse env body = some dto ∧
          ClientError (completeSSOSignup now ids dto tables) := by
  unfold completeSignup validateBody
  cases CompleteSSOSignupDTO.parse env body with
  | none => exact ⟨fun _ => .inl rfl, fun _ => ⟨_, rfl, rfl⟩⟩
  | some dto =>
      refine ⟨fun refused => .inr ⟨dto, rfl, refused⟩, ?_⟩
      rintro (isNone | ⟨other, isSome, refused⟩)
      · cases isNone
      · cases isSome
        exact refused

/-- Which submissions are refused with a client error, when the signature that comes with them is
not one for a text that the server did not sign. -/
theorem refused_iff {info : ProviderUserInfo} {callback : SsoCallback}
    (offers : Offers env info callback) {signature : String}
    (unforged : ∀ text, text ≠ callback.providerData.dataToSign →
      hexDecode signature ≠ env.hmac text)
    (username : String) (providerData : Json) (now : Date) (ids : DrawnIds)
    (tables : SsoTables env) :
    ClientError (completeSignup now ids (submissionBody username providerData signature) tables) ↔
      isUsernameOfDto username = false ∨ ProviderData.parse env providerData = none ∨
        ∃ data, ProviderData.parse env providerData = some data ∧
          (hasExpired now data.expiry = true ∨
            (hexDecode signature).length = 32 ∧
              (data ≠ callback.providerData ∨
                hexDecode signature ≠ hexDecode callback.signature ∨
                passesUsernameValidators username = false ∨
                tables.usernameExists username = true)) := by
  rw [clientError_completeSignup, parse_submissionBody]
  cases accepted : isUsernameOfDto username with
  | false => simp
  | true =>
      cases parsed : ProviderData.parse env providerData with
      | none => simp
      | some data =>
          have original : hexDecode callback.signature =
              env.hmac callback.providerData.dataToSign := by
            rw [offers.signature, createSSOSignature, hexDecode_hexEncode]
          -- The signature fits the data only where it fits the original data.
          have fits : hexDecode signature ≠ env.hmac data.dataToSign ↔
              data ≠ callback.providerData ∨
                hexDecode signature ≠ hexDecode callback.signature := by
            grind [dataToSign_injective]
          simp [clientError_completeSSOSignup, or_assoc, fits]

/-! ### What the calls complete -/

/-- The identifiers drawn for a sign-up are those of no row. -/
structure FreshIds (tables : SsoTables env) (ids : DrawnIds) : Prop where
  user : tables.hasUser ids.user = false
  identity : ∀ identity ∈ tables.identities.rows, identity.id ≠ ids.identity

theorem returns_insertUser {user : SsoUser} {before after : SsoTables env} :
    Action.Returns (insertUser user) before () after ↔ before.insertUser? user = some after := by
  grind [Action.Returns, insertUser]

theorem returns_createIdentity {identityId userId provider : String} {now : Date}
    {info : ProviderUserInfo} {before after : SsoTables env} :
    Action.Returns (createIdentity identityId userId now provider info) before () after ↔
      ∃ present, before.insertIdentity? (newIdentity identityId userId now provider info) present =
        some after := by
  unfold Action.Returns createIdentity
  split
  · rename_i present
    split
    · grind
    · rename_i reached inserted
      refine ⟨fun returned => ?_, ?_⟩
      · cases returned
        exact ⟨present, inserted⟩
      · simp [inserted]
  · rename_i absent
    refine ⟨fun returned => ?_, ?_⟩
    · cases returned
    · rintro ⟨present, _⟩
      exact absurd present absent

theorem returns_createUserSession {userId : String} {tables : SsoTables env}
    (present : tables.hasUser userId = true) :
    Action.Returns (createUserSession userId) tables ()
      { tables with sessions := tables.sessions ++ [userId] } := by
  unfold Action.Returns createUserSession
  rw [if_pos present]

theorem user_fresh {tables : SsoTables env} {ids : DrawnIds} (fresh : FreshIds tables ids)
    {now : Date} {dto : CompleteSSOSignupDTO}
    (valid : passesUsernameValidators dto.username = true)
    (free : tables.usernameExists dto.username = false) :
    ∀ other ∈ tables.users.rows, SsoUser.clash env other (newUser ids.user now dto) = false := by
  intro other member
  rw [passesUsernameValidators, Bool.and_eq_true] at valid
  rw [SsoUser.clash, Bool.or_eq_false_iff]
  refine ⟨?_, ?_⟩
  · exact Bool.eq_false_iff.mpr (List.any_eq_false.mp fresh.user other member)
  · have otherName := Bool.eq_false_iff.mpr (List.any_eq_false.mp free other member)
    show (env.lower other.username == env.lower dto.username) = false
    rw [env.lower_word dto.username valid.2]
    exact otherName

theorem identity_fresh_iff {tables : SsoTables env} {ids : DrawnIds} (fresh : FreshIds tables ids)
    {now : Date} {provider : String} {info : ProviderUserInfo} :
    (∀ other ∈ tables.identities.rows, UserIdentity.clash other
        (newIdentity ids.identity ids.user now provider info) = false) ↔
      tables.findIdentityByProvider provider info.id = none := by
  have noIdentity := SsoTables.hasIdentity_of_absent fresh.user
  unfold SsoTables.findIdentityByProvider Table.find?
  rw [List.find?_eq_none]
  refine forall₂_congr fun other member => ?_
  have otherId : (other.id == ids.identity) = false := beq_false_of_ne (fresh.identity other member)
  have otherUser : (other.userId == ids.user) = false :=
    Bool.eq_false_iff.mpr (List.any_eq_false.mp noIdentity other member)
  show (other.id == ids.identity || (other.provider == provider && other.providerUserId
      == info.id) ||
    (other.userId == ids.user && other.provider == provider)) = false ↔ _
  rw [otherId, otherUser, Bool.false_or, Bool.false_and, Bool.or_false, Bool.not_eq_true]

theorem checkSubmission_ok {tables : SsoTables env} {now : Date} {dto : CompleteSSOSignupDTO} :
    checkSubmission now dto tables = (.ok (), tables) ↔
      verifySubmission env now dto = .ok () ∧ tables.usernameExists dto.username = false := by
  grind [checkSubmission_eq]

/-- Behind its checks, a sign-up completes exactly when its identity is free. -/
theorem isOk_of_checked {tables : SsoTables env} {ids : DrawnIds} (fresh : FreshIds tables ids)
    {now : Date} {dto : CompleteSSOSignupDTO}
    (checked : checkSubmission now dto tables = (.ok (), tables)) :
    (completeSSOSignup now ids dto tables).1.isOk = true ↔
      tables.findIdentityByProvider dto.providerData.provider dto.providerData.providerUserInfo.id =
        none := by
  obtain ⟨verified, free⟩ := checkSubmission_ok.mp checked
  have valid := (verifySubmission_ok.mp verified).2.2
  obtain ⟨withUser, inserted⟩ :=
    SsoTables.insertUser?_of_fresh (@user_fresh env tables ids fresh now dto valid free)
  obtain ⟨rows, sameIdentities⟩ := SsoTables.insertUser?_eq_some inserted
  have present : withUser.hasUser ids.user = true :=
    SsoTables.hasUser_iff.mpr ⟨newUser ids.user now dto, by rw [rows]; simp, rfl⟩
  have fits := @identity_fresh_iff env tables ids fresh now dto.providerData.provider
    dto.providerData.providerUserInfo
  have goesIn := @SsoTables.insertIdentity?_isSome env withUser
    (newIdentity ids.identity ids.user now dto.providerData.provider
      dto.providerData.providerUserInfo) present
  rw [← fits, ← sameIdentities, ← goesIn]
  unfold completeSSOSignup
  rw [Action.bind_of_returns checked, Action.bind_of_returns (returns_insertUser.mpr inserted)]
  rcases execution : (createIdentity ids.identity ids.user now dto.providerData.provider
    dto.providerData.providerUserInfo : Action (SsoTables env) ApiError Unit) withUser with
    ⟨error | value, reached⟩
  · rw [Action.bind_of_throws execution]
    refine ⟨(fun isOk => by cases isOk), fun isSome => ?_⟩
    obtain ⟨after, added⟩ := Option.isSome_iff_exists.mp isSome
    have returned := returns_createIdentity.mpr ⟨present, added⟩
    rw [Action.Returns, execution] at returned
    cases returned
  · rw [Action.bind_of_returns execution]
    obtain ⟨_, added⟩ := returns_createIdentity.mp execution
    have stillPresent : reached.hasUser ids.user = true := by
      rw [SsoTables.hasUser, (SsoTables.insertIdentity?_eq_some added).1]
      exact present
    rw [Action.bind_of_returns (returns_createUserSession stillPresent), added]
    exact ⟨fun _ => rfl, fun _ => rfl⟩

theorem isOk_completeSignup {now : Date} {ids : DrawnIds} {body : Json} {tables : SsoTables env} :
    (completeSignup now ids body tables).1.isOk = true ↔
      ∃ dto, CompleteSSOSignupDTO.parse env body = some dto ∧
        (completeSSOSignup now ids dto tables).1.isOk = true := by
  unfold completeSignup validateBody
  cases CompleteSSOSignupDTO.parse env body with
  | none =>
      refine ⟨?_, ?_⟩
      · nofun
      · rintro ⟨dto, isSome, _⟩
        cases isSome
  | some dto =>
      refine ⟨fun isOk => ⟨dto, rfl, isOk⟩, ?_⟩
      rintro ⟨other, isSome, isOk⟩
      cases isSome
      exact isOk

/-- What is submitted unchanged is checked in the same words in which it was signed. -/
theorem checked_of_unchanged {info : ProviderUserInfo} {callback : SsoCallback}
    (offers : Offers env info callback) {username : String}
    (valid : passesUsernameValidators username = true) {now : Date} (inTime : now ≤ callback.expiry)
    {tables : SsoTables env} (free : tables.usernameExists username = false) :
    checkSubmission now ⟨username, callback.providerData, callback.signature⟩ tables =
      (.ok (), tables) := by
  refine checkSubmission_ok.mpr ⟨verifySubmission_ok.mpr ⟨?_, ?_, valid⟩, free⟩
  · show hasExpired now callback.expiryText = false
    rw [hasExpired, newDate_printed callback.printed]
    simpa using inTime
  · grind [createSSOSignature, hexDecode_hexEncode, offers.signature]

theorem parse_unchanged {info : ProviderUserInfo} {callback : SsoCallback}
    (offers : Offers env info callback)
    (accepts : env.isIsoDatetime callback.expiryText = true)
    (complete : info.email.isSome = true ∧ info.name.isSome = true) {username : String}
    (usernameOfDto : isUsernameOfDto username = true) (signature : String) :
    CompleteSSOSignupDTO.parse env
        (submissionBody username callback.providerData.toJson signature) =
      some ⟨username, callback.providerData, signature⟩ := by
  have dataRead := parse_dataJson env callback.providerData
  have provider : callback.providerData.provider = "google" := offers.provider
  have sameInfo : callback.providerData.providerUserInfo = info := offers.info
  have sameExpiry : env.isIsoDatetime callback.providerData.expiry = true := accepts
  simp [parse_submissionBody, provider, sameInfo, sameExpiry, complete, dataRead, usernameOfDto]

theorem completeSignup_of_parsed {now : Date} {ids : DrawnIds} {body : Json}
    {dto : CompleteSSOSignupDTO} {tables : SsoTables env}
    (parsed : CompleteSSOSignupDTO.parse env body = some dto) :
    completeSignup now ids body tables = completeSSOSignup now ids dto tables := by
  unfold completeSignup validateBody
  rw [parsed]
  rfl

theorem accepted_iff {info : ProviderUserInfo} {callback : SsoCallback}
    (offers : Offers env info callback)
    (accepts : env.isIsoDatetime callback.expiryText = true) {username : String}
    (valid : passesUsernameValidators username = true) {now : Date} (inTime : now ≤ callback.expiry)
    {tables : SsoTables env} (free : tables.usernameExists username = false) {ids : DrawnIds}
    (fresh : FreshIds tables ids) :
    (completeSignup now ids (submissionBody username callback.providerData.toJson
        callback.signature) tables).1.isOk = true ↔
      info.email.isSome = true ∧ info.name.isSome = true ∧ 3 ≤ utf16Length username ∧
        tables.findIdentityByProvider "google" info.id = none := by
  have dataRead := parse_dataJson env callback.providerData
  have provider : callback.providerData.provider = "google" := offers.provider
  have sameInfo : callback.providerData.providerUserInfo = info := offers.info
  have sameExpiry : env.isIsoDatetime callback.providerData.expiry = true := accepts
  have completes := isOk_of_checked fresh (checked_of_unchanged offers valid inTime free)
  simp only [provider, sameInfo, sameExpiry, true_and, and_true] at dataRead completes
  have notLong : utf16Length username ≤ 64 := by
    grind [passesUsernameValidators]
  have accepted : isUsernameOfDto username = true ↔ 3 ≤ utf16Length username := by
    unfold isUsernameOfDto
    simp [notLong]
  rw [isOk_completeSignup, parse_submissionBody, dataRead]
  grind

end Calls

end Lombok.Auth
