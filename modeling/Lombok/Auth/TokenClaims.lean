import Lombok.Auth.Session

/-!
Contract: what an access token says stays what the first one of its session said.

The claims of an app user are written to a JSON column when the session is
created, and read back with a test of each type when it is extended.
`detailClaims_typeDetailsOf` says that what is read is what was written;
`refresh_keepsClaims` carries that over runs, in which any number of exchanges
of any sessions overlap.

Does not own: which refresh token is good for an exchange (see `Rotation`).
-/

namespace Lombok.Auth

open Lombok.Core Lombok.Library Lombok.Library.Framing AuthState

/-! ### Claims -/

/-- The claims a token is to keep, and the one that tells the types of tokens apart. -/
def keptClaims : List String :=
  ["actorType", "appIdentifier", "userId", "sessionId", "platformAccess", "worker", "extra"]

/-- Two tokens are signed in one way and agree on every claim that is kept. -/
structure SameClaims (first later : SignedJWT) : Prop where
  alg : later.alg = first.alg
  claims : ∀ name ∈ keptClaims, Fields.get? later.payload name = Fields.get? first.payload name

variable {token : SignedJWT} {env : AuthEnv} {session : Session} {draw : Nat} {now : Date}
    {first : SignedJWT} {users : List String}

theorem SameClaims.trans {second third : SignedJWT} (before : SameClaims first second)
    (after : SameClaims second third) : SameClaims first third :=
  ⟨after.alg.trans before.alg,
    fun name kept => (after.claims name kept).trans (before.claims name kept)⟩

theorem SameClaims.symm {later : SignedJWT} (same : SameClaims first later) :
    SameClaims later first :=
  ⟨same.alg.symm, fun name kept => (same.claims name kept).symm⟩

def IsTokenOf (type : SessionType) (token : SignedJWT) : Prop :=
  match type with
  | .user => token.alg = "HS256" ∧ Fields.get? token.payload "actorType" = none
  | .appUser =>
      token.alg = "EdDSA" ∧ Fields.get? token.payload "actorType" = some (.str "app_user")

def appUserFields (session : Session) (params : AppUserClaims) : Fields :=
  Fields.ofOptions
    [("actorType", some (.str "app_user")), ("appIdentifier", some (.str params.appIdentifier)),
      ("userId", some (.str session.userId)), ("sessionId", some (.str session.id)),
      ("platformAccess",
        some (.bool (resolvePlatformAccess params.worker params.platformAccess))),
      ("worker", params.worker.map .str), ("extra", params.extra)]

def expectedToken (session : Session) : SignedJWT :=
  match session.type with
  | .user => { alg := "HS256", payload := [] }
  | .appUser =>
      let details := session.typeDetails.getD (.obj [])
      match details.get? "app" with
      | some (.str app) =>
          { alg := "EdDSA", payload := appUserFields session (detailClaims details app) }
      | _ => { alg := "EdDSA", payload := [] }

theorem expectedToken_congr {before after : Session} (same : SameSession before after) :
    expectedToken after = expectedToken before := by
  unfold expectedToken appUserFields
  rw [same.type, same.typeDetails, same.id, same.userId]

/-- The registered claims leave the kept ones alone. -/
theorem signJWT_kept (alg : String) (claims : Fields) {registered : Fields}
    (absent : ∀ name ∈ keptClaims, Fields.get? registered name = none) :
    ∀ name ∈ keptClaims,
      Fields.get? (signJWT alg claims registered).payload name = Fields.get? claims name :=
  fun name kept => Fields.get?_spread_of_absent claims registered (absent name kept)

/-- Fields with other names say nothing about the kept claims. -/
theorem registered_absent {fields : Fields} {names : List String}
    (named : fields.map Prod.fst = names) (other : ∀ kept ∈ keptClaims, kept ∉ names)
    {name : String} (kept : name ∈ keptClaims) : Fields.get? fields name = none := by
  grind [Fields.get?]

theorem createAppUserToken_claims {params : AppUserClaims} {seconds : Option Int}
    (made : createAppUserToken env session params seconds draw now = .ok token) :
    SameClaims { alg := "EdDSA", payload := appUserFields session params } token := by
  unfold createAppUserToken at made
  cases checked : assertExtraSize params.extra with
  | error error =>
      rw [checked] at made
      cases made
  | ok value =>
      rw [checked] at made
      cases made
      refine ⟨rfl, signJWT_kept _ _ ?_⟩
      intro name kept
      exact @registered_absent _ ["iss", "aud", "sub", "jti", "iat", "exp"] rfl (by decide) _ kept

theorem createSessionAccessToken_claims
    (made : createSessionAccessToken env users session draw now = .ok token) :
    SameClaims { alg := "HS256", payload := [] } token := by
  unfold createSessionAccessToken at made
  split at made
  · cases made
    refine ⟨rfl, ?_⟩
    intro name kept
    rw [signJWT_kept "HS256" [("scp", .arr [])] _ name kept]
    · exact @registered_absent _ ["scp"] rfl (by decide) _ kept
    · intro other otherKept
      exact @registered_absent _ ["aud", "sub", "jti", "iat", "exp"] rfl (by decide) _ otherKept
  · cases made

/-- The token says what the row of its session stands for, and is of its type. -/
structure IsTokenFor (session : Session) (token : SignedJWT) : Prop where
  claims : SameClaims (expectedToken session) token
  type : IsTokenOf session.type token

theorem IsTokenOf.congr {type : SessionType} {later : SignedJWT} (same : SameClaims first later)
    (isToken : IsTokenOf type first) : IsTokenOf type later := by
  have actor := same.claims "actorType" (by decide)
  cases type with
  | user => exact ⟨same.alg.trans isToken.1, actor.trans isToken.2⟩
  | appUser => exact ⟨same.alg.trans isToken.1, actor.trans isToken.2⟩

theorem IsTokenFor.congr {before after : Session} (same : SameSession before after)
    (isToken : IsTokenFor before token) : IsTokenFor after token := by
  refine ⟨?_, ?_⟩
  · rw [expectedToken_congr same]
    exact isToken.claims
  · rw [same.type]
    exact isToken.type

theorem isTokenFor_user (isUser : session.type = .user)
    (made : createSessionAccessToken env users session draw now = .ok token) :
    IsTokenFor session token := by
  have claims := createSessionAccessToken_claims made
  refine ⟨?_, ?_⟩
  · rw [expectedToken, isUser]
    exact claims
  · rw [isUser]
    exact IsTokenOf.congr claims ⟨rfl, rfl⟩

theorem isTokenFor_appUser {app : String} {params : AppUserClaims} {seconds : Option Int}
    (isAppUser : session.type = .appUser)
    (isApp : (session.typeDetails.getD (.obj [])).get? "app" = some (.str app))
    (isParams : detailClaims (session.typeDetails.getD (.obj [])) app = params)
    (made : createAppUserToken env session params seconds draw now = .ok token) :
    IsTokenFor session token := by
  have claims := createAppUserToken_claims made
  refine ⟨?_, ?_⟩
  · simp [expectedToken, isAppUser, isApp, isParams, claims]
  · rw [isAppUser]
    exact IsTokenOf.congr claims ⟨rfl, rfl⟩

theorem isTokenFor_stored (made : accessTokenForSession env users session draw now = .ok token) :
    IsTokenFor session token := by
  grind [accessTokenForSession, isTokenFor_user, createAppUserAccessTokenForSession,
    isTokenFor_appUser]

/-! ### The claims of a new session -/

/-- What is read from the details of a session is what they were written from. -/
theorem detailClaims_typeDetailsOf (params : AppUserSessionParams) :
    (typeDetailsOf params).get? "app" = some (.str params.appIdentifier) ∧
      detailClaims (typeDetailsOf params) params.appIdentifier = claimsOf params := by
  obtain ⟨userId, appIdentifier, worker, platformAccess, extra, seconds⟩ := params
  constructor
  · rfl
  · cases worker with
    | none =>
        cases extra with
        | none => rfl
        | some fields => rfl
    | some worker =>
        cases extra with
        | none => rfl
        | some fields => rfl

/-! ### Runs -/

/-- Every token says what the row of its session stands for, and every exchange is about a
stored session. -/
structure Traceable (state : AuthState) : Prop where
  exchanges : ∀ exchange ∈ state.exchanges, ∀ session, exchange.session? = some session →
    Stored state.sessions session
  issued : ∀ tokens ∈ state.issued, ∃ row ∈ state.sessions.rows, row.id = tokens.sessionId ∧
    IsTokenFor row tokens.accessToken

theorem traceable_withUsers (users : List String) : Traceable (.withUsers users) := by
  constructor
  · nofun
  · nofun

namespace Traceable

variable {state : AuthState}

theorem drew (traceable : Traceable state) (draws : Nat) :
    Traceable { state with draws := draws } := ⟨traceable.exchanges, traceable.issued⟩

theorem setExchange (traceable : Traceable state) {index : Nat} {exchange : Exchange}
    (stored : ∀ session, exchange.session? = some session → Stored state.sessions session) :
    Traceable (state.setExchange index exchange) := by
  refine ⟨?_, traceable.issued⟩
  intro other member session isSession
  rcases List.mem_or_eq_of_mem_set member with old | rfl
  · exact traceable.exchanges other old session isSession
  · exact stored session isSession

/-- Sessions are added or extended. -/
theorem sessions (traceable : Traceable state) {sessions : SessionsTable}
    (kept : ∀ session, Stored state.sessions session → Stored sessions session) :
    Traceable { state with sessions := sessions } := by
  constructor
  · grind [traceable.exchanges]
  · intro tokens member
    obtain ⟨row, rowMember, sameId, isToken⟩ := traceable.issued tokens member
    obtain ⟨row', member', same⟩ := kept row ⟨row, rowMember, SameSession.refl row⟩
    exact ⟨row', member', same.id.trans sameId, isToken.congr same⟩

theorem handsOut (traceable : Traceable state) {tokens : Issued}
    (isToken : ∃ row ∈ state.sessions.rows, row.id = tokens.sessionId ∧
      IsTokenFor row tokens.accessToken) :
    Traceable { state with issued := state.issued ++ [tokens] } := by
  refine ⟨traceable.exchanges, ?_⟩
  intro other member
  rcases List.mem_append.mp member with old | new
  · exact traceable.issued other old
  · rw [List.mem_singleton.mp new]
    exact isToken

theorem insertSession (traceable : Traceable state) (env : AuthEnv) {session : Session}
    {accessToken : Except ApiError SignedJWT}
    (isToken : ∀ token, accessToken = .ok token → IsTokenFor session token) :
    Traceable (state.insertSession env session accessToken) := by
  rcases insertSession_cases env state session accessToken with
    same | ⟨sessions, inserted, ⟨error, -, same⟩ | ⟨token, made, same⟩⟩
  · rw [same]
    exact traceable.drew _
  · rw [same]
    exact (traceable.drew (state.draws + 3)).sessions fun other => Stored.insert inserted
  · rw [same]
    have grown := (traceable.drew (state.draws + 3)).sessions
      fun other => Stored.insert inserted
    apply grown.handsOut
    exact ⟨session, (Table.mem_insert inserted).mpr (.inr rfl), rfl, isToken token made⟩

theorem present (traceable : Traceable state) (env : AuthEnv) (refreshToken : String)
    (now : Date) : Traceable (state.present env refreshToken now) := by
  rcases present_cases env state refreshToken now with same | ⟨session, verified, same⟩
  · rw [same]
    exact traceable
  · rw [same]
    have member : session ∈ state.sessions.rows := (verify_ok verified).1
    refine ⟨?_, traceable.issued⟩
    intro exchange inside other isSession
    rcases List.mem_append.mp inside with old | new
    · exact traceable.exchanges exchange old other isSession
    · rw [List.mem_singleton.mp new] at isSession
      cases isSession
      exact ⟨session, member, SameSession.refl session⟩

theorem findUser (traceable : Traceable state) (index : Nat) :
    Traceable (state.findUser index) := by
  rcases findUser_cases state index with
    same | ⟨refreshToken, session, isVerified, same | same⟩
  · rw [same]
    exact traceable
  · rw [same]
    apply traceable.setExchange
    intro other isSession
    exact traceable.exchanges _ (List.mem_of_getElem? isVerified) other isSession
  · rw [same]
    apply traceable.setExchange
    nofun

theorem extend (traceable : Traceable state) (env : AuthEnv) (index : Nat) (now later : Date) :
    Traceable (state.extend env index now later) := by
  rcases extend_cases env state index now later with
    same | ⟨refreshToken, session, isFound, same | same | ⟨row, -, found, same⟩⟩
  · rw [same]
    exact traceable
  · rw [same]
    apply traceable.setExchange
    nofun
  · rw [same]
    apply (traceable.drew _).setExchange
    nofun
  · rw [same]
    have extended := (traceable.drew (state.draws + 1)).sessions fun other =>
      Stored.update env (fun row => row.id == session.id)
        (env.createHash (env.randomBytes state.draws)) session.createdAt later
    apply extended.setExchange
    intro other isSession
    cases isSession
    have isRow : (row.id == session.id) = true :=
      @List.find?_some _ (fun row : Session => row.id == session.id) _ _ found
    refine ⟨_, ?_, SameSession.refl _⟩
    apply Table.mem_update.mpr
    · exact ⟨row, List.mem_of_find?_eq_some found, if_pos isRow⟩
    · exact keeps_extended env _ _ _

theorem issue (traceable : Traceable state) (env : AuthEnv) (index : Nat) (now : Date) :
    Traceable (state.issue env index now) := by
  have finished : ∀ draws,
      Traceable (({ state with draws := draws } : AuthState).setExchange index .finished) := by
    intro draws
    apply (traceable.drew draws).setExchange
    nofun
  rcases issue_cases env state index now with
    same | ⟨refreshToken, session, secret, isUpdated, ⟨error, -, same⟩ | ⟨token, made, same⟩⟩
  · rw [same]
    exact traceable
  · rw [same]
    exact finished _
  · rw [same]
    apply (finished _).handsOut
    obtain ⟨row, member, sameRow⟩ :=
      traceable.exchanges _ (List.mem_of_getElem? isUpdated) session rfl
    exact ⟨row, member, sameRow.id, (isTokenFor_stored made).congr sameRow⟩

theorem step (traceable : Traceable state) (env : AuthEnv) (input : AuthInput) :
    Traceable (authStep env state input) := by
  cases input with
  | createUserSession userId now later =>
      apply traceable.insertSession
      intro token made
      exact isTokenFor_user rfl made
  | createAppUserSession params now later =>
      apply traceable.insertSession
      intro token made
      obtain ⟨isApp, sameClaims⟩ := detailClaims_typeDetailsOf params
      exact isTokenFor_appUser rfl isApp sameClaims made
  | present refreshToken now => exact traceable.present env refreshToken now
  | findUser index => exact traceable.findUser index
  | extend index now later => exact traceable.extend env index now later
  | issue index now => exact traceable.issue env index now

end Traceable

theorem traceable_run (env : AuthEnv) (users : List String) (inputs : List AuthInput) :
    Traceable (run (authStep env) (.withUsers users) inputs) :=
  run_invariant (fun _ input traceable => traceable.step env input) (traceable_withUsers users)
    inputs

/-! ### The tokens of one session -/

/-- All tokens of a session agree on the user, the app, the worker, the access to the platform and
the extra claims, and are of the session's type. -/
structure TokensKept (state : AuthState) : Prop where
  claims : ∀ first ∈ state.issued, ∀ later ∈ state.issued, first.sessionId = later.sessionId →
    SameClaims first.accessToken later.accessToken
  type : ∀ session ∈ state.sessions.rows, ∀ tokens ∈ state.issued,
    tokens.sessionId = session.id → IsTokenOf session.type tokens.accessToken

/-- However many exchanges there are, and whatever the sessions were created for. -/
theorem refresh_keepsClaims (env : AuthEnv) (users : List String) (inputs : List AuthInput) :
    TokensKept (run (authStep env) (.withUsers users) inputs) := by
  have traceable := traceable_run env users inputs
  constructor
  · intro first firstMember later laterMember same
    obtain ⟨row, member, sameId, isToken⟩ := traceable.issued first firstMember
    obtain ⟨row', member', sameId', isToken'⟩ := traceable.issued later laterMember
    have rowEqual : row' = row := row_unique _ member' member (by rw [sameId', sameId, same])
    rw [rowEqual] at isToken'
    exact isToken.claims.symm.trans isToken'.claims
  · intro session sessionMember tokens member same
    obtain ⟨row, rowMember, sameId, isToken⟩ := traceable.issued tokens member
    have rowEqual : row = session := row_unique _ rowMember sessionMember (by rw [sameId, same])
    rw [rowEqual] at isToken
    exact isToken.type

end Lombok.Auth
