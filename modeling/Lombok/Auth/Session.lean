import Lombok.Auth.RefreshToken
import Lombok.Library.Run
import Lombok.Library.Table

/-!
Contract: sessions, the tokens they hand out, and their extension.

Owns the `session` table, `SessionService` and `extendSessionWithRefreshToken`.
An exchange of a refresh token is a sequence of awaited steps, and any number of
exchanges are under way at a time, so each step is an input of its own: the
token is presented, the user is looked up, the session is updated, the tokens
are issued.

The random source is one stream of draws. A clock reading is part of the input
that makes it. The day of the month is that of the server's time zone.

Does not own: the signature of a token, and who else reads it.
-/

namespace Lombok.Auth

open Lombok.Core Lombok.Library Lombok.Library.Framing

/-! ### Rows -/

inductive SessionType where
  | user
  | appUser
deriving DecidableEq, Inhabited

/-- A row of `sessionsTable`. The id is a `uuid` column. -/
structure Session where
  id : String
  isUuid : isGuid id = true
  hash : String
  userId : String
  type : SessionType
  typeDetails : Option Json
  expiresAt : Date
  createdAt : Date
  updatedAt : Date

def Session.clash (left right : Session) : Bool := left.id == right.id

abbrev SessionsTable := Table Session Session.clash

/-! ### What comes from elsewhere -/

/-- The random source, the hash, and the calendar of the server. -/
structure AuthEnv where
  randomUUID : Nat → String
  randomUUID_isGuid : ∀ draw, isGuid (randomUUID draw) = true
  randomBytes : Nat → Bytes
  randomBytes_length : ∀ draw, (randomBytes draw).length = 32
  sha512 : Bytes → String
  getDate : Date → Int
  platformHost : String

namespace AuthEnv

/-- `hashedTokenHelper.createHash`. -/
def createHash (env : AuthEnv) (secret : Bytes) : String := env.sha512 secret

theorem randomBytes_ne_nil (env : AuthEnv) (draw : Nat) : env.randomBytes draw ≠ [] := by
  intro empty
  have length := env.randomBytes_length draw
  rw [empty] at length
  exact absurd length (by decide)

end AuthEnv

/-! ### Durations -/

/-- `AuthDurationSeconds`. -/
inductive AuthDuration where
  | sessionAbsolute
  | sessionSliding
  | appUserActorAccessToken
deriving DecidableEq, Inhabited

def AuthDuration.seconds : AuthDuration → Int
  | sessionAbsolute => 30 * 24 * 60 * 60
  | sessionSliding => 15 * 24 * 60 * 60
  | appUserActorAccessToken => 2 * 60

def AuthDuration.milliseconds (duration : AuthDuration) : Int := duration.seconds * 1000

/-- `earliest` of two dates, which compares their days of the month. -/
def earliest (env : AuthEnv) (first second : Date) : Date :=
  if env.getDate first ≤ env.getDate second then first else second

def sessionExpiresAt (env : AuthEnv) (createdAt now : Date) : Date :=
  earliest env (Date.addMs now AuthDuration.sessionSliding.milliseconds)
    (Date.addMs createdAt AuthDuration.sessionAbsolute.milliseconds)

/-! ### Errors -/

def sessionInvalidException : ApiError := .unauthorized "Session invalid."

def sessionExpiredException : ApiError := .unauthorized "Session expired."

def internalServerError : ApiError := .internal "Internal Server Error"

/-! ### Access tokens -/

/-- What is signed, and how. -/
structure SignedJWT where
  alg : String
  payload : Fields
deriving Inhabited

/-- The registered claims are set over the others. -/
def signJWT (alg : String) (claims registered : Fields) : SignedJWT :=
  { alg := alg, payload := Fields.spread claims registered }

/-- `setIssuedAt` and `setExpirationTime`, in seconds. -/
def issuedFor (now seconds : Int) : Fields :=
  [("iat", .ofInt (now / 1000)), ("exp", .ofInt (now / 1000 + seconds))]

/-- `createSessionAccessToken`. -/
def createSessionAccessToken (env : AuthEnv) (users : List String) (session : Session)
    (draw : Nat) (now : Date) : Except ApiError SignedJWT :=
  if users.contains session.userId then
    .ok (signJWT "HS256" [("scp", .arr [])]
      ([("aud", .str env.platformHost), ("sub", .str ("user:" ++ session.userId)),
        ("jti", .str (session.id ++ ":" ++ env.randomUUID draw))] ++
          issuedFor now AuthDuration.sessionSliding.seconds))
  else .error internalServerError

/-- `resolvePlatformAccess`. -/
def resolvePlatformAccess (worker : Option String) (platformAccess : Option Bool) : Bool :=
  match platformAccess with
  | some allowed => allowed
  | none => worker.isNone

def appTokenExtraMaxBytes : Nat := 1024

/-- `assertExtraSize`. -/
def assertExtraSize (extra : Option Json) : Except ApiError Unit :=
  match extra with
  | none => .ok ()
  | some value =>
      let size := (Json.stringify value).utf8ByteSize
      if appTokenExtraMaxBytes < size then
        .error (.badRequest ("App token \"extra\" payload exceeds " ++
          toString appTokenExtraMaxBytes ++ " bytes (got " ++ toString size ++ ")"))
      else .ok ()

/-- What an app user token says about the app, its worker and what the token is good for. -/
structure AppUserClaims where
  appIdentifier : String
  worker : Option String
  platformAccess : Option Bool
  extra : Option Json
deriving Inhabited

/-- `createAppUserToken`. -/
def createAppUserToken (env : AuthEnv) (session : Session) (params : AppUserClaims)
    (accessTokenExpiresInSec : Option Int) (draw : Nat) (now : Date) :
    Except ApiError SignedJWT := do
  assertExtraSize params.extra
  let platformAccess := resolvePlatformAccess params.worker params.platformAccess
  pure (signJWT "EdDSA"
    (Fields.ofOptions
      [("actorType", some (.str "app_user")), ("appIdentifier", some (.str params.appIdentifier)),
        ("userId", some (.str session.userId)), ("sessionId", some (.str session.id)),
        ("platformAccess", some (.bool platformAccess)), ("worker", params.worker.map .str),
        ("extra", params.extra)])
    ([("iss", .str "lombok"), ("aud", .str params.appIdentifier),
      ("sub", .str ("app_user:" ++ session.userId ++ ":" ++ params.appIdentifier)),
      ("jti", .str (session.id ++ ":" ++ env.randomUUID draw))] ++
        issuedFor now
          (accessTokenExpiresInSec.getD AuthDuration.appUserActorAccessToken.seconds)))

/-- The claims that the details of a session stand for: a member of another type is passed over. -/
def detailClaims (details : Json) (app : String) : AppUserClaims where
  appIdentifier := app
  worker :=
    match details.get? "worker" with
    | some (.str worker) => some worker
    | _ => none
  platformAccess :=
    match details.get? "platformAccess" with
    | some (.bool allowed) => some allowed
    | _ => none
  extra :=
    match details.get? "extra" with
    | some (.obj fields) => some (.obj fields)
    | some (.arr items) => some (.arr items)
    | _ => none

/-- `createAppUserAccessTokenForSession`. -/
def createAppUserAccessTokenForSession (env : AuthEnv) (session : Session) (draw : Nat)
    (now : Date) : Except ApiError SignedJWT :=
  let details := session.typeDetails.getD (.obj [])
  match details.get? "app" with
  | some (.str app) =>
      createAppUserToken env session (detailClaims details app) none draw now
  | _ => .error sessionInvalidException

theorem createAppUserAccessTokenForSession_of_app (env : AuthEnv) {session : Session}
    {details : Json} {app : String} (stored : session.typeDetails = some details)
    (isApp : details.get? "app" = some (.str app)) (draw : Nat) (now : Date) :
    createAppUserAccessTokenForSession env session draw now =
      createAppUserToken env session (detailClaims details app) none draw now := by
  rw [createAppUserAccessTokenForSession, stored]
  dsimp only [Option.getD_some]
  rw [isApp]

def accessTokenForSession (env : AuthEnv) (users : List String) (session : Session) (draw : Nat)
    (now : Date) : Except ApiError SignedJWT :=
  match session.type with
  | .appUser => createAppUserAccessTokenForSession env session draw now
  | .user => createSessionAccessToken env users session draw now

/-- The `SET` list of `extendSession`. -/
def Session.extended (env : AuthEnv) (hash : String) (createdAt now : Date) (session : Session) :
    Session :=
  { session with expiresAt := sessionExpiresAt env createdAt now, hash := hash }

theorem keeps_extended (env : AuthEnv) (hash : String) (createdAt now : Date) :
    Keeps Session.clash (Session.extended env hash createdAt now) :=
  fun _ _ => ⟨rfl, rfl⟩

/-! ### The state -/

/-- An exchange under way, between two of its awaited steps. -/
inductive Exchange where
  | verified (refreshToken : String) (session : Session)
  | found (refreshToken : String) (session : Session)
  | updated (refreshToken : String) (session : Session) (secret : Bytes)
  | finished

/-- What a call returned: the tokens of a session, and the refresh token given for them. -/
structure Issued where
  sessionId : String
  given : Option String
  refreshToken : String
  accessToken : SignedJWT

structure AuthState where
  sessions : SessionsTable := .empty
  users : List String := []
  draws : Nat := 0
  exchanges : List Exchange := []
  issued : List Issued := []

def AuthState.withUsers (users : List String) : AuthState := { users := users }

namespace AuthState

variable (env : AuthEnv) (state : AuthState)

def setExchange (index : Nat) (exchange : Exchange) : AuthState :=
  { state with exchanges := state.exchanges.set index exchange }

/-! ### New sessions -/

def newSession (userId : String) (type : SessionType) (typeDetails : Option Json)
    (now later : Date) : Session where
  id := env.randomUUID (state.draws + 1)
  isUuid := env.randomUUID_isGuid _
  hash := env.createHash (env.randomBytes state.draws)
  userId := userId
  type := type
  typeDetails := typeDetails
  expiresAt := sessionExpiresAt env now later
  createdAt := now
  updatedAt := now

def insertSession (session : Session) (accessToken : Except ApiError SignedJWT) : AuthState :=
  let drawn := { state with draws := state.draws + 3 }
  match state.sessions.insert session with
  | none => drawn
  | some sessions =>
      match accessToken with
      | .error _ => { drawn with sessions := sessions }
      | .ok token =>
          { drawn with
            sessions := sessions
            issued := state.issued ++
              [{ sessionId := session.id
                 given := none
                 refreshToken :=
                   HashedTokenHelper.encode session.id (env.randomBytes state.draws)
                 accessToken := token }] }

def createUserSession (userId : String) (now later : Date) : AuthState :=
  let session := newSession env state userId .user none now later
  insertSession env state session
    (createSessionAccessToken env state.users session (state.draws + 2) later)

/-- The parameters of `createAppUserSession`. -/
structure AppUserSessionParams where
  userId : String
  appIdentifier : String
  worker : Option String := none
  platformAccess : Option Bool := none
  extra : Option Fields := none
  accessTokenExpiresInSec : Option Int := none
deriving Inhabited

/-- `typeDetails` of a new session. -/
def typeDetailsOf (params : AppUserSessionParams) : Json :=
  .obj (Fields.ofOptions
    [("app", some (.str params.appIdentifier)),
      ("platformAccess",
        some (.bool (resolvePlatformAccess params.worker params.platformAccess))),
      ("worker", params.worker.map .str), ("extra", params.extra.map .obj)])

def claimsOf (params : AppUserSessionParams) : AppUserClaims where
  appIdentifier := params.appIdentifier
  worker := params.worker
  platformAccess := some (resolvePlatformAccess params.worker params.platformAccess)
  extra := params.extra.map .obj

def createAppUserSession (params : AppUserSessionParams) (now later : Date) : AuthState :=
  let session :=
    newSession env state params.userId .appUser (some (typeDetailsOf params)) now later
  insertSession env state session
    (createAppUserToken env session (claimsOf params) params.accessTokenExpiresInSec
      (state.draws + 2) later)

/-! ### Exchanges -/

/-- `verifySessionWithRefreshToken`. -/
def verifySessionWithRefreshToken (refreshToken : String) (now : Date) :
    Except ApiError Session := do
  let (id, secret) ← HashedTokenHelper.decodeRefreshToken refreshToken
  match state.sessions.find? fun session =>
      session.id == id && session.hash == env.createHash secret with
  | none => .error sessionInvalidException
  | some session =>
      if session.expiresAt < now then .error sessionExpiredException else .ok session

def present (refreshToken : String) (now : Date) : AuthState :=
  match verifySessionWithRefreshToken env state refreshToken now with
  | .error _ => state
  | .ok session => { state with exchanges := state.exchanges ++ [.verified refreshToken session] }

def findUser (index : Nat) : AuthState :=
  match state.exchanges[index]? with
  | some (.verified refreshToken session) =>
      setExchange state index
        (if state.users.contains session.userId then .found refreshToken session else .finished)
  | _ => state

/-- The update of `extendSession`, by the id of the session that was verified. -/
def extend (index : Nat) (now later : Date) : AuthState :=
  match state.exchanges[index]? with
  | some (.found refreshToken session) =>
      if session.expiresAt < now then setExchange state index .finished
      else
        let secret := env.randomBytes state.draws
        let change := Session.extended env (env.createHash secret) session.createdAt later
        let drawn := { state with draws := state.draws + 1 }
        match state.sessions.find? fun row => row.id == session.id with
        | none => setExchange drawn index .finished
        | some row =>
            setExchange
              { drawn with
                sessions := state.sessions.update (fun row => row.id == session.id) change
                  (keeps_extended env _ _ _) }
              index (.updated refreshToken (change row) secret)
  | _ => state

/-- The end of `extendSession`. -/
def issue (index : Nat) (now : Date) : AuthState :=
  match state.exchanges[index]? with
  | some (.updated refreshToken session secret) =>
      let drawn := setExchange { state with draws := state.draws + 1 } index .finished
      match accessTokenForSession env state.users session state.draws now with
      | .error _ => drawn
      | .ok token =>
          { drawn with
            issued := state.issued ++
              [{ sessionId := session.id
                 given := some refreshToken
                 refreshToken := HashedTokenHelper.encode session.id secret
                 accessToken := token }] }
  | _ => state

end AuthState

/-! ### Runs -/

inductive AuthInput where
  | createUserSession (userId : String) (now later : Date)
  | createAppUserSession (params : AuthState.AppUserSessionParams) (now later : Date)
  | present (refreshToken : String) (now : Date)
  | findUser (index : Nat)
  | extend (index : Nat) (now later : Date)
  | issue (index : Nat) (now : Date)

def authStep (env : AuthEnv) (state : AuthState) : AuthInput → AuthState
  | .createUserSession userId now later => state.createUserSession env userId now later
  | .createAppUserSession params now later => state.createAppUserSession env params now later
  | .present refreshToken now => state.present env refreshToken now
  | .findUser index => state.findUser index
  | .extend index now later => state.extend env index now later
  | .issue index now => state.issue env index now

/-! ### What a step does -/

namespace AuthState

variable (env : AuthEnv) (state : AuthState)

theorem insertSession_cases (session : Session) (accessToken : Except ApiError SignedJWT) :
    insertSession env state session accessToken = { state with draws := state.draws + 3 } ∨
      ∃ sessions, state.sessions.insert session = some sessions ∧
        ((∃ error, accessToken = .error error ∧
            insertSession env state session accessToken =
              { state with draws := state.draws + 3, sessions := sessions }) ∨
          ∃ token, accessToken = .ok token ∧
            insertSession env state session accessToken =
              { state with
                draws := state.draws + 3
                sessions := sessions
                issued := state.issued ++
                  [⟨session.id, none,
                    HashedTokenHelper.encode session.id (env.randomBytes state.draws),
                        token⟩] }) := by
  unfold insertSession
  grind

/-- A session is verified by its own id and the hash of its secret. -/
theorem verify_ok {env : AuthEnv} {state : AuthState} {refreshToken : String} {now : Date}
    {session : Session}
    (verified : verifySessionWithRefreshToken env state refreshToken now = .ok session) :
    session ∈ state.sessions.rows ∧ ∃ secret,
      HashedTokenHelper.decodeRefreshToken refreshToken = .ok (session.id, secret) ∧
        session.hash = env.createHash secret := by
  unfold verifySessionWithRefreshToken at verified
  cases decoded : HashedTokenHelper.decodeRefreshToken refreshToken with
  | error error =>
      rw [decoded] at verified
      cases verified
  | ok parts =>
      obtain ⟨id, secret⟩ := parts
      rw [decoded] at verified
      dsimp only [bind, Except.bind] at verified
      split at verified
      · cases verified
      · rename_i row found
        split at verified
        · cases verified
        · cases verified
          have matched : (session.id == id && session.hash == env.createHash secret) = true :=
            @List.find?_some _ (fun row : Session =>
              row.id == id && row.hash == env.createHash secret) _ _ found
          obtain ⟨sameId, sameHash⟩ := Bool.and_eq_true_iff.mp matched
          rw [beq_iff_eq.mp sameId]
          exact ⟨List.mem_of_find?_eq_some found, secret, rfl, beq_iff_eq.mp sameHash⟩

theorem present_cases (refreshToken : String) (now : Date) :
    present env state refreshToken now = state ∨
      ∃ session, verifySessionWithRefreshToken env state refreshToken now = .ok session ∧
        present env state refreshToken now =
          { state with exchanges := state.exchanges ++ [.verified refreshToken session] } := by
  grind [present]

theorem findUser_cases (index : Nat) :
    findUser state index = state ∨
      ∃ refreshToken session,
        state.exchanges[index]? = some (.verified refreshToken session) ∧
          (findUser state index = setExchange state index (.found refreshToken session) ∨
            findUser state index = setExchange state index .finished) := by
  grind [findUser]

/-- The state after the update of `extendSession` hit a row. -/
def afterUpdate (index : Nat) (later : Date) (refreshToken : String) (session row : Session) :
    AuthState :=
  let secret := env.randomBytes state.draws
  let change := Session.extended env (env.createHash secret) session.createdAt later
  setExchange
    { state with
      draws := state.draws + 1
      sessions := state.sessions.update (fun row => row.id == session.id) change
        (keeps_extended env _ _ _) }
    index (.updated refreshToken (change row) secret)

theorem extend_cases (index : Nat) (now later : Date) :
    extend env state index now later = state ∨
      ∃ refreshToken session, state.exchanges[index]? = some (.found refreshToken session) ∧
        (extend env state index now later = setExchange state index .finished ∨
          extend env state index now later =
            setExchange { state with draws := state.draws + 1 } index .finished ∨
          ∃ row, now ≤ session.expiresAt ∧
            (state.sessions.find? fun row => row.id == session.id) = some row ∧
            extend env state index now later =
              afterUpdate env state index later refreshToken session row) := by
  unfold extend
  split
  · rename_i refreshToken session isFound
    refine .inr ⟨refreshToken, session, isFound, ?_⟩
    split
    · exact .inl rfl
    · rename_i unexpired
      cases found : state.sessions.find? fun row => row.id == session.id with
      | none => exact .inr (.inl rfl)
      | some row => exact .inr (.inr ⟨row, Int.not_lt.mp unexpired, rfl, rfl⟩)
  · exact .inl rfl

theorem issue_cases (index : Nat) (now : Date) :
    issue env state index now = state ∨
      ∃ refreshToken session secret,
        state.exchanges[index]? = some (.updated refreshToken session secret) ∧
          ((∃ error,
              accessTokenForSession env state.users session state.draws now = .error error ∧
              issue env state index now =
                setExchange { state with draws := state.draws + 1 } index .finished) ∨
            ∃ token,
              accessTokenForSession env state.users session state.draws now = .ok token ∧
              issue env state index now =
                { setExchange { state with draws := state.draws + 1 } index .finished with
                  issued := state.issued ++
                    [⟨session.id, some refreshToken,
                      HashedTokenHelper.encode session.id secret, token⟩] }) := by
  grind [issue]

end AuthState

def Exchange.session? : Exchange → Option Session
  | verified _ session => some session
  | found _ session => some session
  | updated _ session _ => some session
  | finished => none

/-- The columns of a session that no step changes. -/
structure SameSession (before after : Session) : Prop where
  id : after.id = before.id
  userId : after.userId = before.userId
  type : after.type = before.type
  typeDetails : after.typeDetails = before.typeDetails
  createdAt : after.createdAt = before.createdAt

theorem SameSession.refl (session : Session) : SameSession session session :=
  ⟨rfl, rfl, rfl, rfl, rfl⟩

theorem SameSession.trans {first second third : Session} (before : SameSession first second)
    (after : SameSession second third) : SameSession first third :=
  ⟨after.id.trans before.id, after.userId.trans before.userId, after.type.trans before.type,
    after.typeDetails.trans before.typeDetails, after.createdAt.trans before.createdAt⟩

theorem SameSession.extended (env : AuthEnv) (hash : String) (createdAt now : Date)
    (session : Session) : SameSession session (Session.extended env hash createdAt now session) :=
  ⟨rfl, rfl, rfl, rfl, rfl⟩

def Stored (sessions : SessionsTable) (session : Session) : Prop :=
  ∃ row ∈ sessions.rows, SameSession session row

theorem row_unique (sessions : SessionsTable) {left right : Session}
    (leftMember : left ∈ sessions.rows) (rightMember : right ∈ sessions.rows)
    (sameId : left.id = right.id) : left = right := by
  apply sessions.eq_of_clash _ leftMember rightMember
  · exact beq_iff_eq.mpr sameId
  · intro first second
    exact BEq.comm

/-- The converse of `verify_ok`, for a session that has not expired. -/
theorem AuthState.verify_of_row {env : AuthEnv} {state : AuthState} {refreshToken : String}
    {now : Date} {session : Session} {secret : Bytes} (member : session ∈ state.sessions.rows)
    (decoded : HashedTokenHelper.decodeRefreshToken refreshToken = .ok (session.id, secret))
    (sameHash : session.hash = env.createHash secret) (unexpired : now ≤ session.expiresAt) :
    verifySessionWithRefreshToken env state refreshToken now = .ok session := by
  have found : (state.sessions.find? fun row =>
      row.id == session.id && row.hash == env.createHash secret) = some session := by
    cases looked : state.sessions.find? fun row =>
        row.id == session.id && row.hash == env.createHash secret with
    | none =>
        have missed := List.find?_eq_none.mp looked session member
        rw [sameHash] at missed
        simp at missed
    | some row =>
        have matched : (row.id == session.id && row.hash == env.createHash secret) = true :=
          @List.find?_some _ (fun row : Session =>
            row.id == session.id && row.hash == env.createHash secret) _ _ looked
        have sameId := beq_iff_eq.mp (Bool.and_eq_true_iff.mp matched).1
        rw [row_unique _ (List.mem_of_find?_eq_some looked) member sameId]
  simp [verifySessionWithRefreshToken, bind, Except.bind, decoded, found, unexpired]

theorem Stored.insert {sessions after : SessionsTable} {added session : Session}
    (inserted : sessions.insert added = some after) (stored : Stored sessions session) :
    Stored after session := by
  obtain ⟨row, member, same⟩ := stored
  exact ⟨row, (Table.mem_insert inserted).mpr (.inl member), same⟩

theorem Stored.update {sessions : SessionsTable} {session : Session} (env : AuthEnv)
    (condition : Session → Bool) (hash : String) (createdAt now : Date)
    (stored : Stored sessions session) :
    Stored (sessions.update condition (Session.extended env hash createdAt now)
      (keeps_extended env _ _ _)) session := by
  obtain ⟨row, member, same⟩ := stored
  refine ⟨_, Table.mem_update.mpr ⟨row, member, rfl⟩, ?_⟩
  grind [SameSession.extended, same.trans]

end Lombok.Auth
