import Lombok.Auth.Rotation

/-!
Contract: tokens after the end of their session.

Owns `verifyAppToken`, the user tokens of `AuthGuard`, the two calls that make a
new session for the bearer of an access token (`generateAppUserAccessToken` and
`refreshPlatformToken`), `revokeSession`, and `deleteUserAsAdmin`. Whatever
verifies is a token that was handed out, so a bearer names one of those.

A session descends from another where an access token of it was shown to get
it. An access token is good until it expires, and what it is shown for looks at
the app and the user, not at the session; `revocation_final` says in which runs
the end of a session is final all the same.

Does not own: signatures, the rows of the apps, and the exchange of a refresh
token, which is that of `Session`.
-/

namespace Lombok.Auth

open Lombok.Core Lombok.Library AuthState

/-! ### Reading an access token -/

namespace SignedJWT

def strClaim (token : SignedJWT) (name : String) : Option String :=
  match Fields.get? token.payload name with
  | some (.str value) => some value
  | _ => none

/-- A claim in whole seconds. -/
def numericClaim (token : SignedJWT) (name : String) : Option Int :=
  match Fields.get? token.payload name with
  | some (.num literal) =>
      match literal.toList with
      | '-' :: digits => some (-Date.ofDigits digits)
      | digits => some (Date.ofDigits digits)
  | _ => none

/-- `jwtVerify` of a token that was handed out: the algorithm, one claim, the expiry. -/
def verifies (alg claim value : String) (now : Date) (token : SignedJWT) : Bool :=
  token.alg == alg && token.strClaim claim == some value &&
    (token.numericClaim "exp").any fun exp => decide (now / 1000 < exp)

end SignedJWT

def authTokenInvalidError : ApiError := .unauthorized "Unauthorized"

/-- `AppJwtClaims`, without those that are checked. -/
inductive AppJwtClaims where
  | app (appIdentifier : String)
  | appUser (appIdentifier userId sessionId : String) (worker : Option String)
      (platformAccess : Bool) (extra : Option Fields)

namespace AppJwtClaims

def appIdentifier : AppJwtClaims → String
  | app appIdentifier => appIdentifier
  | appUser appIdentifier _ _ _ _ _ => appIdentifier

def expectedSubject : AppJwtClaims → String
  | app appIdentifier => "app:" ++ appIdentifier
  | appUser appIdentifier userId _ _ _ _ => "app_user:" ++ userId ++ ":" ++ appIdentifier

/-- `worker: z.string().optional()`. -/
def workerOf (token : SignedJWT) : Option (Option String) :=
  match Fields.get? token.payload "worker" with
  | none => some none
  | some (.str worker) => some (some worker)
  | some _ => none

/-- `platformAccess: z.boolean()`. -/
def platformAccessOf (token : SignedJWT) : Option Bool :=
  match Fields.get? token.payload "platformAccess" with
  | some (.bool allowed) => some allowed
  | _ => none

/-- `extra: jsonSerializableObjectSchema.optional()`. -/
def extraOf (token : SignedJWT) : Option (Option Fields) :=
  match Fields.get? token.payload "extra" with
  | none => some none
  | some (.obj fields) => some (some fields)
  | some _ => none

/-- `appUserActorClaimsSchema`, after the claims of both kinds. -/
def parseAppUser (appIdentifier : String) (token : SignedJWT) : Option AppJwtClaims := do
  let userId ← token.strClaim "userId"
  let sessionId ← token.strClaim "sessionId"
  let worker ← workerOf token
  let platformAccess ← platformAccessOf token
  let extra ← extraOf token
  some (.appUser appIdentifier userId sessionId worker platformAccess extra)

/-- `appJwtClaimsSchema`. -/
def parse (token : SignedJWT) : Option AppJwtClaims := do
  let _ ← token.strClaim "aud"
  let _ ← token.strClaim "sub"
  let _ ← token.strClaim "jti"
  let _ ← token.numericClaim "iat"
  let _ ← token.numericClaim "exp"
  let appIdentifier ← token.strClaim "appIdentifier"
  let actorType ← token.strClaim "actorType"
  if actorType = "app" then some (.app appIdentifier)
  else if actorType = "app_user" then parseAppUser appIdentifier token
  else none

end AppJwtClaims

def verifyAppToken (token : SignedJWT) (now : Date) : Except ApiError AppJwtClaims :=
  if token.verifies "EdDSA" "iss" "lombok" now then
    match AppJwtClaims.parse token with
    | none => .error authTokenInvalidError
    | some claims =>
        if token.strClaim "sub" ≠ some claims.expectedSubject then .error authTokenInvalidError
        else if token.strClaim "aud" ≠ some claims.appIdentifier then .error authTokenInvalidError
        else .ok claims
  else .error authTokenInvalidError

/-- The user that `AuthGuard` finds for the token of a user. -/
def guardUser (env : AuthEnv) (users : List String) (token : SignedJWT) (now : Date) :
    Option String :=
  match token.strClaim "sub" with
  | some subject =>
      if "user:".toList.isPrefixOf subject.toList &&
          token.verifies "HS256" "aud" env.platformHost now then
        let userId := String.ofList ((subject.toList.splitOn ':').getD 1 [])
        if users.contains userId then some userId else none
      else none
  | none => none

/-! ### The state -/

/-- What a call bears: a token of a session, by its place among those handed out, or of an app. -/
inductive Bearer where
  | session (position : Nat)
  | app (position : Nat)
deriving DecidableEq

/-- A session was created, for the bearer of a token of its parent if it has one. -/
structure Creation where
  sessionId : String
  userId : String
  parent : Option String
deriving DecidableEq

/-- A session ended when so many exchanges had been started. -/
structure Death where
  sessionId : String
  exchanges : Nat
deriving DecidableEq

structure TokenState where
  auth : AuthState
  appTokens : List SignedJWT := []
  log : List Creation := []
  deaths : List Death := []

def dockerContainerAppUserTokenSeconds : Int := 24 * 60 * 60

def appActorAccessTokenSeconds : Int := 15 * 60

/-- The session and those that descend from it. -/
def descendants (log : List Creation) (root : String) : List String :=
  log.foldl (fun found creation =>
    if creation.parent.any found.contains then found ++ [creation.sessionId] else found) [root]

namespace TokenState

def withUsers (users : List String) : TokenState := { auth := .withUsers users }

variable (env : AuthEnv) (state : TokenState)

def tokenOf : Bearer → Option SignedJWT
  | .session position => state.auth.issued[position]?.map Issued.accessToken
  | .app position => state.appTokens[position]?

def sessionOf : Bearer → Option String
  | .session position => state.auth.issued[position]?.map Issued.sessionId
  | .app _ => none

def nextId : String := env.randomUUID (state.auth.draws + 1)

def logCreation (userId : String) (parent : Option String) (after : AuthState) : TokenState :=
  { state with auth := after, log := state.log ++ [⟨nextId env state, userId, parent⟩] }

def createFor (params : AppUserSessionParams) (parent : Option String) (now later : Date) :
    TokenState :=
  logCreation env state params.userId parent (state.auth.createAppUserSession env params now later)

/-- `mintAppToken`, for the container of an app. -/
def mintAppToken (appIdentifier : String) (now : Date) : TokenState :=
  { state with
    auth := { state.auth with draws := state.auth.draws + 1 }
    appTokens := state.appTokens ++
      [signJWT "EdDSA" [("actorType", .str "app"), ("appIdentifier", .str appIdentifier)]
        ([("iss", .str "lombok"), ("aud", .str appIdentifier),
          ("sub", .str ("app:" ++ appIdentifier)),
          ("jti", .str (env.randomUUID state.auth.draws))] ++
            issuedFor now appActorAccessTokenSeconds)] }

/-- `mintAppUserToken`; `allowed` says that the app is enabled, and for the user. -/
def mintAppUserToken (params : AppUserSessionParams) (allowed : Bool) (parent : Option String)
    (now later : Date) : TokenState :=
  if allowed && state.auth.users.contains params.userId then
    createFor env state params parent now later
  else state

def refreshPlatformToken (bearer : Bearer) (allowed : Bool) (now later : Date) : TokenState :=
  match tokenOf state bearer with
  | none => state
  | some token =>
      match verifyAppToken token now with
      | .error _ => state
      | .ok (.app appIdentifier) => mintAppToken env state appIdentifier later
      | .ok (.appUser appIdentifier userId _ worker platformAccess extra) =>
          mintAppUserToken env state
            { userId := userId, appIdentifier := appIdentifier, worker := worker
              platformAccess := some platformAccess, extra := extra
              accessTokenExpiresInSec := some dockerContainerAppUserTokenSeconds }
            allowed (sessionOf state bearer) now later

def generateAppUserAccessToken (bearer : Bearer) (appIdentifier : String) (allowed : Bool)
    (now later : Date) : TokenState :=
  match (tokenOf state bearer).bind fun token => guardUser env state.auth.users token now with
  | none => state
  | some userId =>
      if allowed then
        createFor env state { userId := userId, appIdentifier := appIdentifier }
          (sessionOf state bearer) now later
      else state

def revokeSession (sessionId : String) : TokenState :=
  { state with
    auth := { state.auth with
      sessions := state.auth.sessions.delete fun session => session.id == sessionId }
    deaths := state.deaths ++ [⟨sessionId, state.auth.exchanges.length⟩] }

/-- The user's row is deleted; the rows of the sessions stay. -/
def deleteUser (userId : String) : TokenState :=
  { state with
    auth := { state.auth with users := state.auth.users.filter (· != userId) }
    deaths := state.deaths ++ (state.log.filter fun creation => creation.userId == userId).map
      fun creation => ⟨creation.sessionId, state.auth.exchanges.length⟩ }

/-- The steps of `Session`, with a note of the sessions they create. -/
def authInput (input : AuthInput) : TokenState :=
  match input with
  | .createUserSession userId _ _ => logCreation env state userId none
      (authStep env state.auth input)
  | .createAppUserSession params _ _ =>
      logCreation env state params.userId none (authStep env state.auth input)
  | _ => { state with auth := authStep env state.auth input }

end TokenState

inductive TokenInput where
  | auth (input : AuthInput)
  | mintAppToken (appIdentifier : String) (now : Date)
  | refreshPlatformToken (bearer : Bearer) (allowed : Bool) (now later : Date)
  | generateAppUserAccessToken (bearer : Bearer) (appIdentifier : String) (allowed : Bool)
      (now later : Date)
  | revokeSession (sessionId : String)
  | deleteUser (userId : String)

def tokenStep (env : AuthEnv) (state : TokenState) : TokenInput → TokenState
  | .auth input => state.authInput env input
  | .mintAppToken appIdentifier now => state.mintAppToken env appIdentifier now
  | .refreshPlatformToken bearer allowed now later =>
      state.refreshPlatformToken env bearer allowed now later
  | .generateAppUserAccessToken bearer appIdentifier allowed now later =>
      state.generateAppUserAccessToken env bearer appIdentifier allowed now later
  | .revokeSession sessionId => state.revokeSession sessionId
  | .deleteUser userId => state.deleteUser userId

/-! ### What is to hold -/

namespace TokenState

/-- The session has ended, or one that it descends from. -/
def IsDead (state : TokenState) (sessionId : String) : Prop :=
  ∃ death ∈ state.deaths, sessionId ∈ descendants state.log death.sessionId

/-- No exchange of a dead session that was started after its end gets to the update. -/
def NoneExchanged (state : TokenState) : Prop :=
  ∀ death ∈ state.deaths, ∀ index given session secret, death.exchanges ≤ index →
    state.auth.exchanges[index]? = some (.updated given session secret) →
      session.id ∉ descendants state.log death.sessionId

/-- Nothing comes of a token of a dead session: no session, no token. -/
def Refuses (env : AuthEnv) (state : TokenState) : TokenInput → Prop
  | .refreshPlatformToken bearer allowed now later =>
      ∀ sessionId ∈ state.sessionOf bearer, state.IsDead sessionId →
        state.refreshPlatformToken env bearer allowed now later = state
  | .generateAppUserAccessToken bearer appIdentifier allowed now later =>
      ∀ sessionId ∈ state.sessionOf bearer, state.IsDead sessionId →
        state.generateAppUserAccessToken env bearer appIdentifier allowed now later = state
  | _ => True

end TokenState

structure RevocationFinal (env : AuthEnv) (users : List String) (inputs : List TokenInput) :
    Prop where
  exchanges : AlongRun (tokenStep env)
    (fun state input => (tokenStep env state input).NoneExchanged) (.withUsers users) inputs
  bearers : AlongRun (tokenStep env) (TokenState.Refuses env) (.withUsers users) inputs

/-! ### The condition -/

namespace TokenState

def FreshId (env : AuthEnv) (state : TokenState) : Prop :=
  (∀ creation ∈ state.log, creation.sessionId ≠ nextId env state) ∧
    ∀ death ∈ state.deaths, death.sessionId ≠ nextId env state

def HasSession (state : TokenState) (bearer : Bearer) : Prop :=
  ∀ sessionId ∈ state.sessionOf bearer,
    ∃ session ∈ state.auth.sessions.rows, session.id = sessionId

/-- The token is one of an app user that `refreshPlatformToken` makes a session for. -/
def refreshes (state : TokenState) (bearer : Bearer) (allowed : Bool) (now : Date) : Bool :=
  match (state.tokenOf bearer).map fun token => verifyAppToken token now with
  | some (.ok (.appUser _ userId _ _ _ _)) => allowed && state.auth.users.contains userId
  | _ => false

/-- The token is one of a user that an app's session is made for. -/
def opensApp (env : AuthEnv) (state : TokenState) (bearer : Bearer) (allowed : Bool)
    (now : Date) : Bool :=
  allowed && ((state.tokenOf bearer).bind fun token =>
    guardUser env state.auth.users token now).isSome

/-- Ids of sessions are new; an access token is accepted while its session has its row; and a
session that is revoked has no other with a row that descends from it. -/
def Outlived (env : AuthEnv) (state : TokenState) : TokenInput → Prop
  | .auth (.createUserSession _ _ _) => FreshId env state
  | .auth (.createAppUserSession _ _ _) => FreshId env state
  | .refreshPlatformToken bearer allowed now _ =>
      state.refreshes bearer allowed now = true → FreshId env state ∧ state.HasSession bearer
  | .generateAppUserAccessToken bearer _ allowed now _ =>
      opensApp env state bearer allowed now = true → FreshId env state ∧ state.HasSession bearer
  | .revokeSession sessionId =>
      ∀ descendant ∈ descendants state.log sessionId, descendant ≠ sessionId →
        ∀ session ∈ state.auth.sessions.rows, session.id ≠ descendant
  | _ => True

section Decidability

variable (env : AuthEnv) (state : TokenState)

instance : Decidable (FreshId env state) := inferInstanceAs (Decidable (_ ∧ _))

instance (bearer : Bearer) : Decidable (state.HasSession bearer) :=
  inferInstanceAs (Decidable (∀ sessionId ∈ state.sessionOf bearer, ∃ session ∈ _, _))

instance : (input : TokenInput) → Decidable (Outlived env state input)
  | .auth (.createUserSession _ _ _) => inferInstanceAs (Decidable (FreshId env state))
  | .auth (.createAppUserSession _ _ _) => inferInstanceAs (Decidable (FreshId env state))
  | .refreshPlatformToken bearer _ _ _ =>
      inferInstanceAs (Decidable (_ = true → FreshId env state ∧ state.HasSession bearer))
  | .generateAppUserAccessToken bearer _ _ _ _ =>
      inferInstanceAs (Decidable (_ = true → FreshId env state ∧ state.HasSession bearer))
  | .revokeSession sessionId =>
      inferInstanceAs (Decidable (∀ descendant ∈ descendants state.log sessionId,
        descendant ≠ sessionId → ∀ session ∈ state.auth.sessions.rows, session.id ≠ descendant))
  | .auth (.present _ _) | .auth (.findUser _) | .auth (.extend _ _ _) | .auth (.issue _ _) |
    .mintAppToken _ _ | .deleteUser _ => isTrue trivial

end Decidability

end TokenState

/-! ### Whose token it is -/

/-- Whatever reads the token finds this user. -/
structure Reads (env : AuthEnv) (token : SignedJWT) (userId : String) : Prop where
  app : ∀ now claims, verifyAppToken token now = .ok claims →
    ∃ appIdentifier sessionId worker platformAccess extra,
      claims = .appUser appIdentifier userId sessionId worker platformAccess extra
  user : ∀ users now found, guardUser env users token now = some found → found = userId

theorem verifies_alg {alg claim value : String} {now : Date} {token : SignedJWT}
    (verified : token.verifies alg claim value now = true) : token.alg = alg := by
  exact beq_iff_eq.mp (Bool.and_eq_true_iff.mp (Bool.and_eq_true_iff.mp verified).1).1

theorem verifyAppToken_ok {token : SignedJWT} {now : Date} {claims : AppJwtClaims}
    (verified : verifyAppToken token now = .ok claims) :
    token.alg = "EdDSA" ∧ AppJwtClaims.parse token = some claims := by
  grind [verifyAppToken, verifies_alg]

theorem guardUser_alg {env : AuthEnv} {users : List String} {token : SignedJWT} {now : Date}
    {found : String} (guarded : guardUser env users token now = some found) :
    token.alg = "HS256" := by
  unfold guardUser at guarded
  split at guarded
  · split at guarded
    · rename_i holds
      exact verifies_alg (Bool.and_eq_true_iff.mp holds).2
    · cases guarded
  · cases guarded

theorem parse_appUser {token : SignedJWT} {claims : AppJwtClaims} {userId : String}
    (parsed : AppJwtClaims.parse token = some claims)
    (isAppUser : token.strClaim "actorType" = some "app_user")
    (isUser : token.strClaim "userId" = some userId) :
    ∃ appIdentifier sessionId worker platformAccess extra,
      claims = .appUser appIdentifier userId sessionId worker platformAccess extra := by
  unfold AppJwtClaims.parse at parsed
  simp only [isAppUser, Option.bind_eq_bind, Option.bind_eq_some_iff] at parsed
  obtain ⟨_, _, _, _, _, _, _, _, _, _, appIdentifier, _, actorType, isActor, parsed⟩ := parsed
  cases isActor
  rw [if_neg (by decide), if_pos rfl] at parsed
  unfold AppJwtClaims.parseAppUser at parsed
  simp only [isUser, Option.bind_eq_bind, Option.bind_eq_some_iff] at parsed
  grind

theorem reads_appUser (env : AuthEnv) {session : Session} {params : AppUserClaims}
    {seconds : Option Int} {draw : Nat} {now : Date} {token : SignedJWT}
    (made : createAppUserToken env session params seconds draw now = .ok token) :
    Reads env token session.userId := by
  have claims := createAppUserToken_claims made
  have strOf : ∀ name ∈ keptClaims, ∀ value,
      Fields.get? (appUserFields session params) name = some (.str value) →
        token.strClaim name = some value := by
    grind [SignedJWT.strClaim, claims.claims]
  constructor
  · intro later parsed verified
    exact parse_appUser (verifyAppToken_ok verified).2
      (strOf "actorType" (by decide) "app_user" rfl) (strOf "userId" (by decide) _ rfl)
  · intro users later found guarded
    grind [guardUser_alg, claims.alg]

theorem split_userSubject {userId : String} (guid : isGuid userId = true) :
    ("user:" ++ userId).toList.splitOn ':' = ["user".toList, userId.toList] := by
  have idParts : ∀ character ∈ userId.toList, (character == ':') = false := by
    grind [isGuid_noColon]
  have userParts : ∀ character ∈ "user".toList, (character == ':') = false := by
    simp
  have characters : ("user:" ++ userId).toList = "user".toList ++ ':' :: userId.toList := by
    rw [String.toList_append]
    rfl
  rw [characters, List.splitOn_eq_splitOnP,
    List.splitOnP_append_cons_of_forall_mem userParts ':' (beq_self_eq_true ':'),
        List.splitOnP_eq_singleton idParts]

theorem reads_user {env : AuthEnv} {users : List String} {session : Session}
    (uuids : ∀ user ∈ users, isGuid user = true) {draw : Nat} {now : Date} {token : SignedJWT}
    (made : createSessionAccessToken env users session draw now = .ok token) :
    Reads env token session.userId := by
  have claims := createSessionAccessToken_claims made
  constructor
  · intro later parsed verified
    have wrong : "EdDSA" = "HS256" := (verifyAppToken_ok verified).1.symm.trans claims.alg
    exact absurd wrong (by decide)
  · intro others later found guarded
    unfold createSessionAccessToken at made
    split at made
    · rename_i exists_
      have guid := uuids _ (List.contains_iff_mem.mp exists_)
      cases made
      have subject : SignedJWT.strClaim (signJWT "HS256" [("scp", .arr [])]
          ([("aud", .str env.platformHost), ("sub", .str ("user:" ++ session.userId)),
            ("jti", .str (session.id ++ ":" ++ env.randomUUID draw))] ++
              issuedFor now AuthDuration.sessionSliding.seconds)) "sub" =
          some ("user:" ++ session.userId) := rfl
      rw [guardUser, subject] at guarded
      dsimp only at guarded
      rw [split_userSubject guid] at guarded
      split at guarded
      · simp only [List.getD_cons_succ, List.getD_cons_zero, String.ofList_toList] at guarded
        grind
      · cases guarded
    · cases made

theorem reads_session {env : AuthEnv} {users : List String} {session : Session}
    (uuids : ∀ user ∈ users, isGuid user = true) {draw : Nat} {now : Date} {token : SignedJWT}
    (made : accessTokenForSession env users session draw now = .ok token) :
    Reads env token session.userId := by
  grind [accessTokenForSession, createAppUserAccessTokenForSession, reads_appUser, reads_user]

/-! ### Descent -/

theorem descendants_append (log : List Creation) (creation : Creation) (root : String) :
    descendants (log ++ [creation]) root =
      if creation.parent.any (descendants log root).contains then
        descendants log root ++ [creation.sessionId]
      else descendants log root := by
  rw [descendants, List.foldl_append]
  rfl

/-- What holds of a session and passes from parents to children holds of its descendants. -/
theorem descendants_induct {property : String → Prop} {log : List Creation} {root : String}
    (ofRoot : property root)
    (ofChild : ∀ creation ∈ log, ∀ parent, creation.parent = some parent → property parent →
      property creation.sessionId) :
    ∀ id ∈ descendants log root, property id := by
  have step : ∀ (rest : List Creation) (found : List String),
      (∀ creation ∈ rest, creation ∈ log) → (∀ id ∈ found, property id) →
        ∀ id ∈ rest.foldl (fun found creation =>
          if creation.parent.any found.contains then found ++ [creation.sessionId]
          else found) found, property id := by
    intro rest
    induction rest with
    | nil =>
        intro found _ holds
        exact holds
    | cons head tail inductionHypothesis =>
        intro found inside holds
        apply inductionHypothesis _ fun creation member =>
          inside creation (List.mem_cons_of_mem head member)
        intro id member
        dsimp only at member
        split at member
        · rename_i isChild
          obtain ⟨parent, isParent, known⟩ := Option.any_eq_true _ _ |>.mp isChild
          rcases List.mem_append.mp member with old | new
          · exact holds id old
          · rw [List.mem_singleton.mp new]
            grind
        · exact holds id member
  apply step log [root] fun _ member => member
  simp [ofRoot]

namespace TokenState

variable {env : AuthEnv} {state : TokenState}

/-! ### What the log says -/

/-- The session was created for the user. -/
def Owns (state : TokenState) (sessionId userId : String) : Prop :=
  ∃ creation ∈ state.log, creation.sessionId = sessionId ∧ creation.userId = userId

/-- Rows, exchanges and tokens are those of the sessions in the log, and of their users. -/
structure Logged (env : AuthEnv) (state : TokenState) : Prop where
  uuids : ∀ user ∈ state.auth.users, isGuid user = true
  rows : ∀ row ∈ state.auth.sessions.rows, state.Owns row.id row.userId
  exchanges : ∀ exchange ∈ state.auth.exchanges, ∀ session, exchange.session? = some session →
    state.Owns session.id session.userId
  issued : ∀ tokens ∈ state.auth.issued, ∃ userId, state.Owns tokens.sessionId userId ∧
    Reads env tokens.accessToken userId
  unique : ∀ first ∈ state.log, ∀ second ∈ state.log, first.sessionId = second.sessionId →
    first = second
  kin : ∀ creation ∈ state.log, ∀ parent, creation.parent = some parent →
    state.Owns parent creation.userId

/-- Dead sessions have rows of deleted users only, and their later exchanges get nowhere. -/
structure Ended (state : TokenState) : Prop where
  rows : ∀ death ∈ state.deaths, ∀ row ∈ state.auth.sessions.rows,
    row.id ∈ descendants state.log death.sessionId → row.userId ∉ state.auth.users
  exchanges : ∀ death ∈ state.deaths, ∀ index exchange session, death.exchanges ≤ index →
    state.auth.exchanges[index]? = some exchange → exchange.session? = some session →
      session.id ∈ descendants state.log death.sessionId →
        (∃ given, exchange = .verified given session) ∧ session.userId ∉ state.auth.users

structure Kept (env : AuthEnv) (state : TokenState) : Prop where
  logged : state.Logged env
  ended : state.Ended

theorem Logged.owner_unique (logged : state.Logged env) {sessionId first second : String}
    (isFirst : state.Owns sessionId first) (isSecond : state.Owns sessionId second) :
    first = second := by
  obtain ⟨one, oneMember, oneId, rfl⟩ := isFirst
  obtain ⟨two, twoMember, twoId, rfl⟩ := isSecond
  rw [logged.unique one oneMember two twoMember (oneId.trans twoId.symm)]

theorem Logged.owns_descendants (logged : state.Logged env) {root userId : String}
    (isOwner : state.Owns root userId) :
    ∀ id ∈ descendants state.log root, state.Owns id userId := by
  apply @descendants_induct (fun id => state.Owns id userId) _ _ isOwner
  intro creation member parent isParent parentOwner
  have same := logged.owner_unique parentOwner (logged.kin creation member parent isParent)
  exact ⟨creation, member, rfl, same.symm⟩

/-- A session with a row and a user is alive. -/
theorem Kept.not_dead (kept : state.Kept env) {sessionId userId : String}
    (isOwner : state.Owns sessionId userId) (isUser : userId ∈ state.auth.users)
    (hasRow : ∃ session ∈ state.auth.sessions.rows, session.id = sessionId) :
    ¬ state.IsDead sessionId := by
  intro ⟨death, isDeath, descends⟩
  obtain ⟨row, member, sameId⟩ := hasRow
  rw [← sameId] at isOwner descends
  have sameUser := kept.logged.owner_unique (kept.logged.rows row member) isOwner
  grind [kept.ended.rows]

/-! ### New sessions -/

theorem FreshId.not_descendant (fresh : FreshId env state) {death : Death}
    (isDeath : death ∈ state.deaths) :
    nextId env state ∉ descendants state.log death.sessionId := by
  intro member
  have different := @descendants_induct (fun id => id ≠ nextId env state) _ _
    (fresh.2 death isDeath) (fun creation inside _ _ _ => fresh.1 creation inside) _ member
  exact different rfl

theorem insertSession_frame (env : AuthEnv) (auth : AuthState) (session : Session)
    (accessToken : Except ApiError SignedJWT) :
    (insertSession env auth session accessToken).users = auth.users ∧
      (insertSession env auth session accessToken).exchanges = auth.exchanges ∧
      (∀ row ∈ (insertSession env auth session accessToken).sessions.rows,
        row ∈ auth.sessions.rows ∨ row = session) ∧
      ∀ tokens ∈ (insertSession env auth session accessToken).issued, tokens ∈ auth.issued ∨
        tokens.sessionId = session.id ∧ accessToken = .ok tokens.accessToken := by
  rcases insertSession_cases env auth session accessToken with
    same | ⟨sessions, inserted, ⟨error, _, same⟩ | ⟨token, made, same⟩⟩
  · grind
  · grind [Table.mem_insert]
  · rw [same]
    refine ⟨rfl, rfl, fun row => (Table.mem_insert inserted).mp, ?_⟩
    intro tokens member
    rcases List.mem_append.mp member with old | new
    · exact .inl old
    · rw [List.mem_singleton.mp new]
      exact .inr ⟨rfl, made⟩

/-- A session that is created for a user, by nobody or by the bearer of a token that is alive. -/
theorem Kept.creation (kept : state.Kept env) (fresh : FreshId env state) {userId : String}
    {parent : Option String} {session : Session} {accessToken : Except ApiError SignedJWT}
    (isNew : session.id = nextId env state) (isUsers : session.userId = userId)
    (reads : ∀ token, accessToken = .ok token → Reads env token userId)
    (ofAlive : ∀ other, parent = some other → state.Owns other userId ∧ ¬ state.IsDead other) :
    (logCreation env state userId parent
      (insertSession env state.auth session accessToken)).Kept env := by
  obtain ⟨sameUsers, sameExchanges, rows, issued⟩ :=
    insertSession_frame env state.auth session accessToken
  have owned : ∀ {id user}, state.Owns id user → (logCreation env state userId parent
      (insertSession env state.auth session accessToken)).Owns id user := by
    intro id user ⟨creation, member, sameId, sameUser⟩
    exact ⟨creation, List.mem_append_left _ member, sameId, sameUser⟩
  have ownsNew : (logCreation env state userId parent
      (insertSession env state.auth session accessToken)).Owns (nextId env state) userId :=
    ⟨_, List.mem_append_right _ (List.mem_singleton.mpr rfl), rfl, rfl⟩
  have sameDescendants : ∀ death ∈ state.deaths,
      descendants (state.log ++ [⟨nextId env state, userId, parent⟩]) death.sessionId =
        descendants state.log death.sessionId := by
    intro death isDeath
    rw [descendants_append, if_neg]
    intro isChild
    obtain ⟨other, isParent, known⟩ := Option.any_eq_true _ _ |>.mp isChild
    exact (ofAlive other isParent).2 ⟨death, isDeath, List.contains_iff_mem.mp known⟩
  refine ⟨⟨?_, ?_, ?_, ?_, ?_, ?_⟩, ⟨?_, ?_⟩⟩
  · rw [logCreation, sameUsers]
    exact kept.logged.uuids
  · intro row member
    rcases rows row member with old | rfl
    · exact owned (kept.logged.rows row old)
    · rw [isNew, isUsers]
      exact ownsNew
  · grind [logCreation, kept.logged.exchanges]
  · intro tokens member
    rcases issued tokens member with old | ⟨sameId, made⟩
    · grind [kept.logged.issued]
    · grind
  · intro first firstMember second secondMember same
    rcases List.mem_append.mp firstMember with oldFirst | newFirst
    · rcases List.mem_append.mp secondMember with oldSecond | newSecond
      · exact kept.logged.unique first oldFirst second oldSecond same
      · rw [List.mem_singleton.mp newSecond] at same
        exact absurd same (fresh.1 first oldFirst)
    · rcases List.mem_append.mp secondMember with oldSecond | newSecond
      · rw [List.mem_singleton.mp newFirst] at same
        exact absurd same.symm (fresh.1 second oldSecond)
      · rw [List.mem_singleton.mp newFirst, List.mem_singleton.mp newSecond]
  · intro creation member other isParent
    rcases List.mem_append.mp member with old | new
    · exact owned (kept.logged.kin creation old other isParent)
    · grind
  · grind [logCreation, kept.ended.rows, fresh.not_descendant]
  · grind [logCreation, kept.ended.exchanges]

theorem Kept.createFor (kept : state.Kept env) (fresh : FreshId env state)
    {params : AppUserSessionParams} {parent : Option String} (now later : Date)
    (ofAlive : ∀ other, parent = some other →
      state.Owns other params.userId ∧ ¬ state.IsDead other) :
    (createFor env state params parent now later).Kept env := by
  apply kept.creation fresh rfl rfl _ ofAlive
  intro token made
  exact reads_appUser env made

/-! ### Exchanges -/

/-- The log, the users and the ends of sessions are the same, and so are the owners of rows. -/
theorem Kept.of_exchange (kept : state.Kept env) (after : AuthState)
    (sameUsers : after.users = state.auth.users)
    (rows : ∀ row ∈ after.sessions.rows, ∃ old ∈ state.auth.sessions.rows,
      old.id = row.id ∧ old.userId = row.userId)
    (issued : ∀ tokens ∈ after.issued, ∃ userId, state.Owns tokens.sessionId userId ∧
      Reads env tokens.accessToken userId)
    (exchanges : ∀ index exchange session, after.exchanges[index]? = some exchange →
      exchange.session? = some session → state.Owns session.id session.userId ∧
        ∀ death ∈ state.deaths, death.exchanges ≤ index →
          session.id ∈ descendants state.log death.sessionId →
            (∃ given, exchange = .verified given session) ∧
              session.userId ∉ state.auth.users) :
    ({ state with auth := after } : TokenState).Kept env := by
  refine ⟨⟨?_, ?_, ?_, issued, kept.logged.unique, kept.logged.kin⟩, ⟨?_, ?_⟩⟩
  · rw [sameUsers]
    exact kept.logged.uuids
  · intro row member
    obtain ⟨old, oldMember, sameId, sameUser⟩ := rows row member
    rw [← sameId, ← sameUser]
    exact kept.logged.rows old oldMember
  · intro exchange member session isSession
    obtain ⟨index, found⟩ := List.getElem?_of_mem member
    exact (exchanges index exchange session found isSession).1
  · grind [kept.ended.rows]
  · grind

theorem Kept.exchange (kept : state.Kept env) {index : Nat} {exchange : Exchange}
    {session : Session} (found : state.auth.exchanges[index]? = some exchange)
    (isSession : exchange.session? = some session) :
    state.Owns session.id session.userId ∧ ∀ death ∈ state.deaths, death.exchanges ≤ index →
      session.id ∈ descendants state.log death.sessionId →
        (∃ given, exchange = .verified given session) ∧ session.userId ∉ state.auth.users :=
  ⟨kept.logged.exchanges exchange (List.mem_of_getElem? found) session isSession,
    fun death isDeath late descends =>
      kept.ended.exchanges death isDeath index exchange session late found isSession descends⟩

theorem Kept.setExchange (kept : state.Kept env) (auth : AuthState) {index : Nat}
    {next : Exchange} (sameUsers : auth.users = state.auth.users)
    (sameExchanges : auth.exchanges = state.auth.exchanges)
    (rows : ∀ row ∈ auth.sessions.rows, ∃ old ∈ state.auth.sessions.rows,
      old.id = row.id ∧ old.userId = row.userId)
    (issued : ∀ tokens ∈ auth.issued, ∃ userId, state.Owns tokens.sessionId userId ∧
      Reads env tokens.accessToken userId)
    (moves : ∀ session, next.session? = some session →
      state.Owns session.id session.userId ∧ ∀ death ∈ state.deaths, death.exchanges ≤ index →
        session.id ∉ descendants state.log death.sessionId) :
    ({ state with auth := auth.setExchange index next } : TokenState).Kept env := by
  apply kept.of_exchange (auth.setExchange index next) sameUsers rows issued
  intro position exchange session found isSession
  have placed : (state.auth.exchanges.set index next)[position]? = some exchange := by
    rw [← sameExchanges]
    exact found
  grind [kept.exchange]

theorem same_rows (auth : AuthState) : ∀ row ∈ auth.sessions.rows,
    ∃ old ∈ auth.sessions.rows, old.id = row.id ∧ old.userId = row.userId :=
  fun row member => ⟨row, member, rfl, rfl⟩

theorem finished_moves (index : Nat) : ∀ session, Exchange.finished.session? = some session →
    state.Owns session.id session.userId ∧ ∀ death ∈ state.deaths, death.exchanges ≤ index →
      session.id ∉ descendants state.log death.sessionId := by
  nofun

theorem Kept.present (kept : state.Kept env) (refreshToken : String) (now : Date) :
    ({ state with auth := state.auth.present env refreshToken now } : TokenState).Kept env := by
  rcases present_cases env state.auth refreshToken now with same | ⟨session, verified, same⟩
  · rw [same]
    exact kept
  · rw [same]
    have member := (verify_ok verified).1
    apply kept.of_exchange { state.auth with
      exchanges := state.auth.exchanges ++ [.verified refreshToken session] } rfl (same_rows _)
      kept.logged.issued
    intro index exchange other found isSession
    rw [List.getElem?_append] at found
    split at found
    · exact kept.exchange found isSession
    · have isNew := List.mem_singleton.mp (List.mem_of_getElem? found)
      rw [isNew] at isSession ⊢
      cases isSession
      refine ⟨kept.logged.rows session member, ?_⟩
      grind [kept.ended.rows]

theorem Kept.findUser (kept : state.Kept env) (index : Nat) :
    ({ state with auth := state.auth.findUser index } : TokenState).Kept env := by
  unfold AuthState.findUser
  split
  · rename_i refreshToken session isVerified
    apply kept.setExchange state.auth rfl rfl (same_rows _) kept.logged.issued
    intro other isSession
    split at isSession
    · rename_i exists_
      cases isSession
      obtain ⟨isOwner, ended⟩ := kept.exchange isVerified rfl
      grind
    · cases isSession
  · exact kept

theorem Kept.alive_of_found (kept : state.Kept env) {index : Nat} {exchange : Exchange}
    {session : Session} (found : state.auth.exchanges[index]? = some exchange)
    (isSession : exchange.session? = some session)
    (notVerified : ∀ given, exchange ≠ .verified given session) :
    ∀ death ∈ state.deaths, death.exchanges ≤ index →
      session.id ∉ descendants state.log death.sessionId := by
  intro death isDeath late descends
  obtain ⟨⟨given, isVerified⟩, _⟩ := (kept.exchange found isSession).2 death isDeath late descends
  exact notVerified given isVerified

theorem Kept.extend (kept : state.Kept env) (index : Nat) (now later : Date) :
    ({ state with auth := state.auth.extend env index now later } : TokenState).Kept env := by
  rcases extend_cases env state.auth index now later with
    same | ⟨refreshToken, session, isFound, same | same | ⟨row, -, found, same⟩⟩
  · rw [same]
    exact kept
  · rw [same]
    exact kept.setExchange state.auth rfl rfl (same_rows _) kept.logged.issued
      (finished_moves index)
  · rw [same]
    exact kept.setExchange { state.auth with draws := state.auth.draws + 1 } rfl rfl (same_rows _)
      kept.logged.issued (finished_moves index)
  · rw [same]
    have isRow : (row.id == session.id) = true :=
      @List.find?_some _ (fun row : Session => row.id == session.id) _ _ found
    have sameId := beq_iff_eq.mp isRow
    refine kept.setExchange _ ?_ ?_ ?_ ?_ ?_
    · rfl
    · rfl
    · intro changed member
      obtain ⟨old, oldMember, isChanged⟩ := List.mem_map.mp member
      refine ⟨old, oldMember, ?_⟩
      rw [← isChanged]
      split
      · exact ⟨rfl, rfl⟩
      · exact ⟨rfl, rfl⟩
    · exact kept.logged.issued
    · intro other isSession
      cases isSession
      refine ⟨kept.logged.rows row (List.mem_of_find?_eq_some found), ?_⟩
      show ∀ death ∈ state.deaths, death.exchanges ≤ index →
        row.id ∉ descendants state.log death.sessionId
      rw [sameId]
      apply kept.alive_of_found isFound rfl
      nofun

theorem Kept.issue (kept : state.Kept env) (index : Nat) (now : Date) :
    ({ state with auth := state.auth.issue env index now } : TokenState).Kept env := by
  rcases issue_cases env state.auth index now with
    same | ⟨refreshToken, session, secret, isUpdated, ⟨error, -, same⟩ | ⟨token, made, same⟩⟩
  · rw [same]
    exact kept
  · rw [same]
    exact kept.setExchange { state.auth with draws := state.auth.draws + 1 } rfl rfl (same_rows _)
      kept.logged.issued (finished_moves index)
  · rw [same]
    have isOwner := (kept.exchange isUpdated rfl).1
    refine kept.setExchange { state.auth with
        draws := state.auth.draws + 1
        issued := state.auth.issued ++ [⟨session.id, some refreshToken,
          HashedTokenHelper.encode session.id secret, token⟩] } rfl rfl (same_rows _) ?_
      (finished_moves index)
    intro tokens member
    rcases List.mem_append.mp member with old | new
    · exact kept.logged.issued tokens old
    · grind [reads_session, kept.logged.uuids]

/-! ### Ends of sessions -/

theorem Kept.ends (kept : state.Kept env) (after : AuthState) (deaths : List Death)
    (sameExchanges : after.exchanges = state.auth.exchanges)
    (sameIssued : after.issued = state.auth.issued)
    (fewerUsers : ∀ user ∈ after.users, user ∈ state.auth.users)
    (fewerRows : ∀ row ∈ after.sessions.rows, row ∈ state.auth.sessions.rows)
    (now : ∀ death ∈ deaths, death.exchanges = state.auth.exchanges.length)
    (ended : ∀ death ∈ deaths, ∀ row ∈ after.sessions.rows,
      row.id ∈ descendants state.log death.sessionId → row.userId ∉ after.users) :
    ({ state with auth := after, deaths := state.deaths ++ deaths } : TokenState).Kept env := by
  refine ⟨⟨?_, ?_, ?_, ?_, kept.logged.unique, kept.logged.kin⟩, ⟨?_, ?_⟩⟩
  · intro user member
    exact kept.logged.uuids user (fewerUsers user member)
  · intro row member
    exact kept.logged.rows row (fewerRows row member)
  · rw [sameExchanges]
    exact kept.logged.exchanges
  · rw [sameIssued]
    exact kept.logged.issued
  · grind [kept.ended.rows]
  · intro death isDeath index exchange session late found isSession descends
    rw [sameExchanges] at found
    rcases List.mem_append.mp isDeath with old | new
    · grind [kept.ended.exchanges]
    · grind

theorem Kept.revokeSession (kept : state.Kept env) {sessionId : String}
    (keeps : Outlived env state (.revokeSession sessionId)) :
    (state.revokeSession sessionId).Kept env := by
  apply kept.ends
  · rfl
  · rfl
  · exact fun _ => id
  · exact fun row member => (List.mem_filter.mp member).1
  · intro death isDeath
    rw [List.mem_singleton.mp isDeath]
  · intro death isDeath row member descends
    rw [List.mem_singleton.mp isDeath] at descends
    obtain ⟨inside, notRevoked⟩ := List.mem_filter.mp member
    by_cases same : row.id = sessionId
    · grind
    · exact absurd rfl (keeps row.id descends same row inside)

theorem Kept.deleteUser (kept : state.Kept env) (userId : String) :
    (state.deleteUser userId).Kept env := by
  apply kept.ends
  · rfl
  · rfl
  · exact fun user member => (List.mem_filter.mp member).1
  · exact fun row member => member
  · grind
  · intro death isDeath row member descends
    obtain ⟨creation, isCreation, rfl⟩ := List.mem_map.mp isDeath
    obtain ⟨inLog, isUsers⟩ := List.mem_filter.mp isCreation
    have owner := kept.logged.owns_descendants ⟨creation, inLog, rfl, rfl⟩ row.id descends
    have sameUser := kept.logged.owner_unique (kept.logged.rows row member) owner
    rw [sameUser, beq_iff_eq.mp isUsers]
    intro stays
    grind

/-! ### Bearers -/

theorem Logged.bearer (logged : state.Logged env) {bearer : Bearer} {sessionId : String}
    {token : SignedJWT} (isSession : state.sessionOf bearer = some sessionId)
    (isToken : state.tokenOf bearer = some token) :
    ∃ userId, state.Owns sessionId userId ∧ Reads env token userId := by
  cases bearer with
  | app position => cases isSession
  | session position =>
      unfold tokenOf at isToken
      dsimp only at isSession isToken
      obtain ⟨tokens, found, rfl⟩ := Option.map_eq_some_iff.mp isSession
      rw [found] at isToken
      cases isToken
      exact logged.issued tokens (List.mem_of_getElem? found)

theorem Kept.bearer_alive (kept : state.Kept env) {bearer : Bearer} {sessionId userId : String}
    {token : SignedJWT} (isSession : state.sessionOf bearer = some sessionId)
    (isToken : state.tokenOf bearer = some token)
    (reads : ∀ user, Reads env token user → user = userId)
    (isUser : state.auth.users.contains userId = true) (hasSession : state.HasSession bearer) :
    state.Owns sessionId userId ∧ ¬ state.IsDead sessionId := by
  obtain ⟨owner, isOwner, read⟩ := kept.logged.bearer isSession isToken
  rw [reads owner read] at isOwner
  exact ⟨isOwner, kept.not_dead isOwner (List.contains_iff_mem.mp isUser)
    (hasSession sessionId isSession)⟩

theorem Kept.refresh_cases (kept : state.Kept env) {bearer : Bearer} {allowed : Bool}
    {now later : Date} (keeps : Outlived env state
        (.refreshPlatformToken bearer allowed now later)) :
    state.refreshPlatformToken env bearer allowed now later = state ∨
      (∃ appIdentifier, state.sessionOf bearer = none ∧
        state.refreshPlatformToken env bearer allowed now later =
          state.mintAppToken env appIdentifier later) ∨
      ∃ params : AppUserSessionParams, FreshId env state ∧
        (∀ sessionId, state.sessionOf bearer = some sessionId →
          state.Owns sessionId params.userId ∧ ¬ state.IsDead sessionId) ∧
        state.refreshPlatformToken env bearer allowed now later =
          state.createFor env params (state.sessionOf bearer) now later := by
  unfold TokenState.refreshPlatformToken
  have refreshing : state.refreshes bearer allowed now = true →
      FreshId env state ∧ state.HasSession bearer := keeps
  unfold refreshes at refreshing
  cases isToken : state.tokenOf bearer with
  | none => exact .inl rfl
  | some token =>
      rw [isToken] at refreshing
      dsimp only [Option.map_some] at refreshing ⊢
      cases verified : verifyAppToken token now with
      | error error => exact .inl rfl
      | ok claims =>
          rw [verified] at refreshing
          cases claims with
          | app appIdentifier =>
              right
              left
              refine ⟨appIdentifier, ?_, rfl⟩
              cases isSession : state.sessionOf bearer with
              | none => rfl
              | some sessionId =>
                  obtain ⟨owner, _, read⟩ := kept.logged.bearer isSession isToken
                  grind [read.app]
          | appUser appIdentifier userId sessionId worker platformAccess extra =>
              dsimp only at refreshing ⊢
              unfold mintAppUserToken
              split
              · rename_i accepted
                obtain ⟨fresh, hasSession⟩ := refreshing accepted
                right
                right
                refine ⟨_, fresh, ?_, rfl⟩
                intro parent isSession
                apply kept.bearer_alive isSession isToken _
                  (Bool.and_eq_true_iff.mp accepted).2 hasSession
                intro user read
                grind [read.app]
              · exact .inl rfl

/-- An app's session is made for the bearer of a user token of a session that is alive, or the
call is refused. -/
theorem Kept.generate_cases (kept : state.Kept env) {bearer : Bearer} {appIdentifier : String}
    {allowed : Bool} {now later : Date}
    (keeps : Outlived env state
      (.generateAppUserAccessToken bearer appIdentifier allowed now later)) :
    state.generateAppUserAccessToken env bearer appIdentifier allowed now later = state ∨
      ∃ params : AppUserSessionParams, FreshId env state ∧
        (∀ sessionId, state.sessionOf bearer = some sessionId →
          state.Owns sessionId params.userId ∧ ¬ state.IsDead sessionId) ∧
        state.generateAppUserAccessToken env bearer appIdentifier allowed now later =
          state.createFor env params (state.sessionOf bearer) now later := by
  unfold TokenState.generateAppUserAccessToken
  have opening : opensApp env state bearer allowed now = true →
      FreshId env state ∧ state.HasSession bearer := keeps
  unfold opensApp at opening
  split
  · exact .inl rfl
  · rename_i userId guarded
    split
    · rename_i isAllowed
      obtain ⟨fresh, hasSession⟩ := opening (by rw [isAllowed, guarded]; rfl)
      obtain ⟨token, isToken, isGuarded⟩ := Option.bind_eq_some_iff.mp guarded
      right
      refine ⟨_, fresh, ?_, rfl⟩
      intro sessionId isSession
      apply kept.bearer_alive isSession isToken _ _ hasSession
      · intro user read
        exact (read.user _ now userId isGuarded).symm
      · unfold guardUser at isGuarded
        split at isGuarded
        · split at isGuarded
          · dsimp only at isGuarded
            split at isGuarded
            · grind
            · cases isGuarded
          · cases isGuarded
        · cases isGuarded
    · exact .inl rfl

/-! ### Runs -/

theorem Kept.mintAppToken (kept : state.Kept env) (appIdentifier : String) (now : Date) :
    (state.mintAppToken env appIdentifier now).Kept env := by
  have logged := kept.logged
  exact ⟨⟨logged.uuids, logged.rows, logged.exchanges, logged.issued, logged.unique, logged.kin⟩,
    ⟨kept.ended.rows, kept.ended.exchanges⟩⟩

theorem Kept.step (kept : state.Kept env) {input : TokenInput}
    (keeps : Outlived env state input) : (tokenStep env state input).Kept env := by
  have byNobody : ∀ (userId : String) other, (none : Option String) = some other →
      state.Owns other userId ∧ ¬ state.IsDead other := by
    nofun
  cases input with
  | auth input =>
      cases input with
      | createUserSession userId now later =>
          apply kept.creation keeps rfl rfl _ (byNobody userId)
          intro token made
          exact reads_user kept.logged.uuids made
      | createAppUserSession params now later =>
          exact kept.createFor keeps now later (byNobody params.userId)
      | present refreshToken now => exact kept.present refreshToken now
      | findUser index => exact kept.findUser index
      | extend index now later => exact kept.extend index now later
      | issue index now => exact kept.issue index now
  | mintAppToken appIdentifier now => exact kept.mintAppToken appIdentifier now
  | refreshPlatformToken bearer allowed now later =>
      rcases kept.refresh_cases keeps with same | ⟨appIdentifier, _, same⟩ |
        ⟨params, fresh, ofAlive, same⟩
      · show (state.refreshPlatformToken env bearer allowed now later).Kept env
        rw [same]
        exact kept
      · show (state.refreshPlatformToken env bearer allowed now later).Kept env
        rw [same]
        exact kept.mintAppToken appIdentifier later
      · show (state.refreshPlatformToken env bearer allowed now later).Kept env
        rw [same]
        exact kept.createFor fresh now later ofAlive
  | generateAppUserAccessToken bearer appIdentifier allowed now later =>
      rcases kept.generate_cases keeps with same | ⟨params, fresh, ofAlive, same⟩
      · show (state.generateAppUserAccessToken env bearer appIdentifier allowed now later).Kept env
        rw [same]
        exact kept
      · show (state.generateAppUserAccessToken env bearer appIdentifier allowed now later).Kept env
        rw [same]
        exact kept.createFor fresh now later ofAlive
  | revokeSession sessionId => exact kept.revokeSession keeps
  | deleteUser userId => exact kept.deleteUser userId

/-- Nothing comes of the tokens of dead sessions. -/
theorem Kept.refuses (kept : state.Kept env) {input : TokenInput}
    (keeps : Outlived env state input) : Refuses env state input := by
  cases input with
  | refreshPlatformToken bearer allowed now later =>
      intro sessionId isSession isDead
      grind [Option.mem_def, kept.refresh_cases]
  | generateAppUserAccessToken bearer appIdentifier allowed now later =>
      intro sessionId isSession isDead
      rcases kept.generate_cases keeps with same | ⟨_, _, ofAlive, _⟩
      · exact same
      · exact absurd isDead (ofAlive sessionId isSession).2
  | _ => trivial

theorem Kept.noneExchanged (kept : state.Kept env) : state.NoneExchanged := by
  intro death isDeath index given session secret late found
  apply kept.alive_of_found found rfl _ death isDeath late
  nofun

theorem kept_withUsers {users : List String} (uuids : ∀ user ∈ users, isGuid user = true) :
    (withUsers users).Kept env := by
  refine ⟨⟨uuids, ?_, ?_, ?_, ?_, ?_⟩, ⟨?_, ?_⟩⟩
  · nofun
  · nofun
  · nofun
  · nofun
  · nofun
  · nofun
  · nofun

end TokenState

open TokenState in
/-- The end of a session is final in every run in which access tokens are accepted with their
session only, and a session is revoked after those that descend from it. -/
theorem revocation_final (env : AuthEnv) (users : List String)
    (uuids : ∀ user ∈ users, isGuid user = true) (inputs : List TokenInput)
    (keeps : AlongRun (tokenStep env) (Outlived env) (.withUsers users) inputs) :
    RevocationFinal env users inputs := by
  have kept : ∀ state input, Kept env state → Outlived env state input →
      (tokenStep env state input).Kept env :=
    fun state input kept here => kept.step here
  constructor
  · apply @AlongRun.of_invariant _ _ _ (Kept env) (Outlived env) _ kept _ _
      (kept_withUsers uuids) _ keeps
    intro state input here condition
    exact (here.step condition).noneExchanged
  · apply @AlongRun.of_invariant _ _ _ (Kept env) (Outlived env) _ kept _ _
      (kept_withUsers uuids) _ keeps
    intro state input here condition
    exact here.refuses condition

/-! ### A container that goes on after its session -/

def sampleUser : String := sampleUuid 15

def containerSession : TokenInput :=
  .auth (.createAppUserSession
    { userId := sampleUser, appIdentifier := "notes-0000aaaa", worker := some "platform-container"
      accessTokenExpiresInSec := some dockerContainerAppUserTokenSeconds } 0 0)

/-- A user opens an app; its session is revoked before that of the user, then the user goes. -/
theorem revocation_final_ordered : RevocationFinal sampleAuthEnv [sampleUser]
    [.auth (.createUserSession sampleUser 0 0),
      .generateAppUserAccessToken (.session 0) "notes-0000aaaa" true 0 0,
      .revokeSession (sampleUuid 4), .revokeSession (sampleUuid 1),
      .refreshPlatformToken (.session 1) true (dayOf1970 1) (dayOf1970 1),
          .deleteUser sampleUser] :=
  revocation_final sampleAuthEnv [sampleUser] (by decide +kernel) _ (by decide +kernel)

/-- The session is revoked, and its token is shown once more. -/
def revokedInputs : List TokenInput :=
  [containerSession, .revokeSession (sampleUuid 1), .refreshPlatformToken (.session 0) true 0 0]

theorem revocation_not_final : ¬ ∀ env users, (∀ user ∈ users, isGuid user = true) →
    ∀ inputs, RevocationFinal env users inputs := by
  intro always
  have final := always sampleAuthEnv [sampleUser] (by decide +kernel) revokedInputs
  have refused := alongRun_iff_split.mp final.bearers [containerSession, .revokeSession
      (sampleUuid 1)]
    (.refreshPlatformToken (.session 0) true 0 0) [] rfl (sampleUuid 1) (by decide +kernel)
    ⟨⟨sampleUuid 1, 0⟩, by decide +kernel, by decide +kernel⟩
  have issued := congrArg (fun state => state.auth.issued.length) refused
  revert issued
  decide +kernel

end Lombok.Auth
