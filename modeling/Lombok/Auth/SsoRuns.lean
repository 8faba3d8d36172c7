import Lombok.Auth.SsoSignup

/-!
Contract: SSO sign-ups that run concurrently.

A sign-up takes one statement at a time, among those of other sign-ups, sign-ups
with a password, links of a provider to an account, deletions of users, and
restarts of the server. A statement of a sign-up may fail in the database. No
user row stays without its identity in runs whose identities go in; a sign-up
for an identity that is there by then leaves one.

Does not own: the single statements (see `SsoSignup`).
-/

namespace Lombok.Auth

open Lombok.Core Lombok.Library

/-- How far a sign-up has come: the statements it has had, or how it ended. -/
inductive SignupStage where
  | usernameFree
  | userInserted (userId : String)
  | identityInserted (userId : String)
  | returned (userId : String)
  | threw (error : ApiError)
deriving DecidableEq

/-- The user whose identity comes next. -/
def SignupStage.awaitingUser : SignupStage → Option String
  | .userInserted userId => some userId
  | _ => none

structure SignupCall where
  dto : CompleteSSOSignupDTO
  stage : SignupStage
deriving DecidableEq

structure SsoState (env : SsoEnv) where
  tables : SsoTables env
  calls : List SignupCall

/-- `submit` is a request up to its first insertion, `proceed` the next statement of a sign-up with
the identifier that it draws. -/
inductive SsoEvent where
  | submit (body : Json) (now : Date) (fails : Bool)
  | proceed (position : Nat) (id : String) (now : Date) (fails : Bool)
  | signup (id username : String) (email : Option String) (passwordHash passwordSalt : String)
      (now : Date)
  | link (identityId userId : String) (info : ProviderUserInfo) (now : Date)
  | deleteUser (userId : String)
  | restart

namespace SsoState

variable {env : SsoEnv}

def statement (fails : Bool) (operation : Action (SsoTables env) ApiError Unit) :
    Action (SsoTables env) ApiError Unit :=
  if fails then Action.throw databaseError else operation

def settle (next : SignupStage) (outcome : Except ApiError Unit × SsoTables env) :
    SignupStage × SsoTables env :=
  match outcome with
  | (.ok (), tables) => (next, tables)
  | (.error error, tables) => (.threw error, tables)

/-- The next statement of `completeSSOSignup`. -/
def nextStage (call : SignupCall) (id : String) (now : Date) (fails : Bool)
    (tables : SsoTables env) : SignupStage × SsoTables env :=
  match call.stage with
  | .usernameFree =>
      settle (.userInserted id) (statement fails (insertUser (newUser id now call.dto)) tables)
  | .userInserted userId =>
      settle (.identityInserted userId)
        (statement fails (createIdentity id userId now call.dto.providerData.provider
          call.dto.providerData.providerUserInfo) tables)
  | .identityInserted userId =>
      settle (.returned userId) (statement fails (createUserSession userId) tables)
  | ended => (ended, tables)

def submit (state : SsoState env) (body : Json) (now : Date) (fails : Bool) : SsoState env :=
  match validateBody env body with
  | .error _ => state
  | .ok dto =>
      let checked := settle .usernameFree (statement fails (checkSubmission now dto) state.tables)
      { state with calls := state.calls ++ [{ dto := dto, stage := checked.1 }] }

def proceed (state : SsoState env) (position : Nat) (id : String) (now : Date) (fails : Bool) :
    SsoState env :=
  match state.calls[position]? with
  | none => state
  | some call =>
      let next := nextStage call id now fails state.tables
      { tables := next.2, calls := state.calls.set position { call with stage := next.1 } }

/-- The row that `createSignup` inserts. -/
def passwordUser (id username : String) (email : Option String) (passwordHash passwordSalt : String)
    (now : Date) : SsoUser :=
  { id := id
    username := username
    email := email
    passwordHash := some passwordHash
    passwordSalt := some passwordSalt
    isAdmin := false
    emailVerified := false
    permissions := []
    createdAt := now
    updatedAt := now }

def step (state : SsoState env) : SsoEvent → SsoState env
  | .submit body now fails => state.submit body now fails
  | .proceed position id now fails => state.proceed position id now fails
  | .signup id username email passwordHash passwordSalt now =>
      { state with
        tables := (insertUser (passwordUser id username email passwordHash passwordSalt now)
          state.tables).2 }
  | .link identityId userId info now =>
      { state with tables := (createIdentity identityId userId now "google" info state.tables).2 }
  | .deleteUser userId => { state with tables := state.tables.deleteUser userId }
  | .restart => { state with calls := [] }

/-! ### What holds between the statements -/

/-- A sign-up has inserted the user and is about to insert its identity. -/
def Awaits (state : SsoState env) (userId : String) : Prop :=
  ∃ call ∈ state.calls, call.stage = .userInserted userId

/-- A user without a password has an identity, or is still getting one. -/
def NoStrayUser (state : SsoState env) : Prop :=
  ∀ user ∈ state.tables.users.rows, user.passwordHash = none →
    state.tables.hasIdentity user.id = true ∨ state.Awaits user.id

abbrev LacksIdentity (tables : SsoTables env) (userId : String) : Prop :=
  tables.hasUser userId = true ∧ tables.hasIdentity userId = false

def IdentityGoesIn (state : SsoState env) : SsoEvent → Prop
  | .proceed position id _ fails =>
      ∀ call ∈ state.calls[position]?, ∀ userId ∈ call.stage.awaitingUser,
        LacksIdentity state.tables userId →
          fails = false ∧
            state.tables.findIdentityByProvider call.dto.providerData.provider
              call.dto.providerData.providerUserInfo.id = none ∧
            ∀ identity ∈ state.tables.identities.rows, identity.id ≠ id
  | .restart =>
      ∀ call ∈ state.calls, ∀ userId ∈ call.stage.awaitingUser, ¬ LacksIdentity state.tables userId
  | _ => True

instance decidableIdentityGoesIn (state : SsoState env) :
    ∀ event, Decidable (state.IdentityGoesIn event)
  | .proceed position id _ fails =>
      inferInstanceAs (Decidable (∀ call ∈ state.calls[position]?,
          ∀ userId ∈ call.stage.awaitingUser,
        LacksIdentity state.tables userId →
          fails = false ∧
            state.tables.findIdentityByProvider call.dto.providerData.provider
              call.dto.providerData.providerUserInfo.id = none ∧
            ∀ identity ∈ state.tables.identities.rows, identity.id ≠ id))
  | .restart =>
      inferInstanceAs (Decidable (∀ call ∈ state.calls, ∀ userId ∈ call.stage.awaitingUser,
        ¬ LacksIdentity state.tables userId))
  | .submit .. | .signup .. | .link .. | .deleteUser _ => inferInstanceAs (Decidable True)

/-! ### What a statement does to the tables -/

/-- A throw leaves the tables as they were. -/
def AllOrNothing (operation : Action (SsoTables env) ApiError Unit) : Prop :=
  ∀ tables error after, operation tables = (.error error, after) → after = tables

theorem insertUser_allOrNothing (user : SsoUser) :
    AllOrNothing (insertUser user : Action (SsoTables env) ApiError Unit) := by
  intro tables error after threw
  grind [insertUser]

theorem createIdentity_allOrNothing (identityId userId : String) (now : Date) (provider : String)
    (info : ProviderUserInfo) :
    AllOrNothing (createIdentity identityId userId now provider info :
      Action (SsoTables env) ApiError Unit) := by
  intro tables error after threw
  grind [createIdentity]

theorem createUserSession_allOrNothing (userId : String) :
    AllOrNothing (createUserSession userId : Action (SsoTables env) ApiError Unit) := by
  intro tables error after threw
  grind [createUserSession]

theorem statement_allOrNothing {operation : Action (SsoTables env) ApiError Unit}
    (allOrNothing : AllOrNothing operation) (fails : Bool) :
    AllOrNothing (statement fails operation) := by
  intro tables error after threw
  unfold statement at threw
  split at threw
  · cases threw
    rfl
  · exact allOrNothing tables error after threw

theorem returns_statement {operation : Action (SsoTables env) ApiError Unit} {fails : Bool}
    {before after : SsoTables env} :
    Action.Returns (statement fails operation) before () after ↔
      fails = false ∧ Action.Returns operation before () after := by
  unfold statement
  cases fails with
  | true => simp
  | false => simp

/-- Every user row is one that was there, or the one added, and every identity stays. -/
structure Widens (before after : SsoTables env) (added : Option SsoUser) : Prop where
  users : ∀ user ∈ after.users.rows, user ∈ before.users.rows ∨ added = some user
  identities : ∀ userId, before.hasIdentity userId = true → after.hasIdentity userId = true

theorem Widens.refl (tables : SsoTables env) (added : Option SsoUser) :
    Widens tables tables added :=
  ⟨fun _ member => .inl member, fun _ found => found⟩

theorem widens_of_insertUser {user : SsoUser} {tables after : SsoTables env}
    (returned : Action.Returns (insertUser user) tables () after) :
    Widens tables after (some user) := by
  obtain ⟨rows, sameIdentities⟩ := SsoTables.insertUser?_eq_some (returns_insertUser.mp returned)
  refine ⟨fun other member => ?_, fun userId found => ?_⟩
  · grind
  · grind [SsoTables.hasIdentity]

theorem widens_of_createIdentity {identityId userId provider : String} {now : Date}
    {info : ProviderUserInfo} {tables after : SsoTables env}
    (returned : Action.Returns (createIdentity identityId userId now provider info)
        tables () after) :
    Widens tables after none := by
  obtain ⟨_, inserted⟩ := returns_createIdentity.mp returned
  obtain ⟨sameUsers, rows⟩ := SsoTables.insertIdentity?_eq_some inserted
  refine ⟨fun user member => ?_, fun other found => ?_⟩
  · rw [sameUsers] at member
    exact .inl member
  · simp [SsoTables.hasIdentity_iff.mp, SsoTables.hasIdentity_iff.mpr, found, rows]

theorem widens_of_createUserSession {userId : String} {tables after : SsoTables env}
    (returned : Action.Returns (createUserSession userId) tables () after) :
    Widens tables after none := by
  unfold Action.Returns createUserSession at returned
  split at returned
  · cases returned
    exact ⟨fun _ member => .inl member, fun _ found => found⟩
  · cases returned

theorem createIdentity_gives {identityId userId provider : String} {now : Date}
    {info : ProviderUserInfo} {tables after : SsoTables env}
    (returned : Action.Returns (createIdentity identityId userId now provider info)
        tables () after) :
    after.hasIdentity userId = true := by
  obtain ⟨_, inserted⟩ := returns_createIdentity.mp returned
  have rows := (SsoTables.insertIdentity?_eq_some inserted).2
  simp [newIdentity, SsoTables.hasIdentity_iff.mpr, rows]

theorem createIdentity_returns {identityId userId provider : String} {now : Date}
    {info : ProviderUserInfo} {tables : SsoTables env} (lacks : LacksIdentity tables userId)
    (free : tables.findIdentityByProvider provider info.id = none)
    (fresh : ∀ identity ∈ tables.identities.rows, identity.id ≠ identityId) :
    ∃ after,
      Action.Returns (createIdentity identityId userId now provider info) tables () after := by
  have goesIn : (tables.insertIdentity? (newIdentity identityId userId now provider info)
      lacks.1).isSome = true := by
    refine SsoTables.insertIdentity?_isSome.mpr fun other member => ?_
    have otherId : (other.id == identityId) = false := beq_false_of_ne (fresh other member)
    have otherUser : (other.userId == userId) = false :=
      Bool.eq_false_iff.mpr (List.any_eq_false.mp lacks.2 other member)
    have otherProvider : (other.provider == provider && other.providerUserId == info.id) = false :=
      Bool.eq_false_iff.mpr (List.find?_eq_none.mp free other member)
    show (other.id == identityId ||
      (other.provider == provider && other.providerUserId == info.id) ||
      (other.userId == userId && other.provider == provider)) = false
    rw [otherId, otherUser, otherProvider]
    rfl
  obtain ⟨after, inserted⟩ := Option.isSome_iff_exists.mp goesIn
  exact ⟨after, returns_createIdentity.mpr ⟨lacks.1, inserted⟩⟩

/-! ### One step -/

/-- A sign-up that awaits an identity does so still when another one has moved on. -/
theorem awaits_set {calls : List SignupCall} {position : Nat} {call next : SignupCall}
    {userId : String} (at_ : calls[position]? = some call)
    (other : call.stage ≠ .userInserted userId)
    (awaits : ∃ call ∈ calls, call.stage = .userInserted userId) :
    ∃ call ∈ calls.set position next, call.stage = .userInserted userId := by
  obtain ⟨waiting, member, isWaiting⟩ := awaits
  obtain ⟨index, found⟩ := List.mem_iff_getElem?.mp member
  refine ⟨waiting, ?_, isWaiting⟩
  apply List.mem_iff_getElem?.mpr
  refine ⟨index, ?_⟩
  grind

/-- What a change has to see to: the user it adds, and those whose identity was to come. -/
theorem NoStrayUser.of_widens {before after : SsoState env} {added : Option SsoUser}
    (sound : before.NoStrayUser) (widens : Widens before.tables after.tables added)
    (addedCovered : ∀ user, added = some user → user.passwordHash = none → after.Awaits user.id)
    (awaits : ∀ userId, before.Awaits userId → after.tables.hasUser userId = true →
      after.tables.hasIdentity userId = true ∨ after.Awaits userId) :
    after.NoStrayUser := by
  intro user member noPassword
  rcases widens.users user member with old | new
  · rcases sound user old noPassword with found | waits
    · exact .inl (widens.identities user.id found)
    · exact awaits user.id waits (SsoTables.hasUser_iff.mpr ⟨user, member, rfl⟩)
  · exact .inr (addedCovered user new noPassword)

theorem awaits_of_moved {state : SsoState env} {tables : SsoTables env} {position : Nat}
    {call : SignupCall} {stage : SignupStage} (at_ : state.calls[position]? = some call)
    (notAwaiting : ∀ userId, call.stage ≠ .userInserted userId) (userId : String)
    (awaits : state.Awaits userId) :
    (SsoState.mk tables (state.calls.set position { call with stage := stage })).Awaits userId :=
  awaits_set at_ (notAwaiting userId) awaits

theorem proceed_eq {state : SsoState env} {position : Nat} {call : SignupCall} {id : String}
    {now : Date} {fails : Bool} {stage : SignupStage} {tables : SsoTables env}
    (at_ : state.calls[position]? = some call)
    (next : nextStage call id now fails state.tables = (stage, tables)) :
    state.proceed position id now fails =
      { tables := tables, calls := state.calls.set position { call with stage := stage } } := by
  unfold proceed
  rw [at_]
  simp only [next]

theorem noStrayUser_insertUser {state : SsoState env} (sound : state.NoStrayUser) {position : Nat}
    {call : SignupCall} (at_ : state.calls[position]? = some call) {id : String} {now : Date}
    {fails : Bool} (stage : call.stage = .usernameFree) :
    (state.proceed position id now fails).NoStrayUser := by
  have notAwaiting : ∀ userId, call.stage ≠ .userInserted userId := by
    intro userId same
    rw [stage] at same
    cases same
  have bounded : position < state.calls.length := (List.getElem?_eq_some_iff.mp at_).1
  have next : nextStage call id now fails state.tables = settle (.userInserted id)
      (statement fails (insertUser (newUser id now call.dto)) state.tables) := by
    unfold nextStage
    rw [stage]
  rcases execution : statement fails (insertUser (newUser id now call.dto)) state.tables with
    ⟨error | value, after⟩
  · have same := statement_allOrNothing (insertUser_allOrNothing _) fails _ _ _ execution
    rw [proceed_eq at_ (next.trans (congrArg _ execution)), same]
    refine sound.of_widens (Widens.refl _ none) (fun _ isNone => by cases isNone) ?_
    grind [awaits_of_moved]
  · rw [proceed_eq at_ (next.trans (congrArg _ execution))]
    refine sound.of_widens (widens_of_insertUser (returns_statement.mp execution).2) ?_ ?_
    · intro user isNew _
      cases isNew
      exact ⟨_, List.mem_set bounded _, rfl⟩
    · grind [awaits_of_moved]

theorem noStrayUser_createIdentity {state : SsoState env} (sound : state.NoStrayUser)
    {position : Nat} {call : SignupCall} (at_ : state.calls[position]? = some call) {id : String}
    {now : Date} {fails : Bool} {userId : String} (stage : call.stage = .userInserted userId)
    (goesIn : state.IdentityGoesIn (.proceed position id now fails)) :
    (state.proceed position id now fails).NoStrayUser := by
  have next : nextStage call id now fails state.tables = settle (.identityInserted userId)
      (statement fails (createIdentity id userId now call.dto.providerData.provider
        call.dto.providerData.providerUserInfo) state.tables) := by
    unfold nextStage
    rw [stage]
  have others : ∀ tables stage other, other ≠ userId → state.Awaits other →
      (SsoState.mk tables (state.calls.set position { call with stage := stage }) :
        SsoState env).Awaits other := by
    intro tables after other different waits
    refine awaits_set at_ ?_ waits
    grind
  rcases execution : statement fails (createIdentity id userId now call.dto.providerData.provider
    call.dto.providerData.providerUserInfo) state.tables with ⟨error | value, after⟩
  · have same := statement_allOrNothing (createIdentity_allOrNothing _ _ _ _ _) fails _ _ _
      execution
    rw [proceed_eq at_ (next.trans (congrArg _ execution)), same]
    refine sound.of_widens (Widens.refl _ none) (fun _ isNone => by cases isNone) ?_
    intro other waits present
    by_cases isOwn : other = userId
    · -- A user that lacks an identity would have got it.
      rw [isOwn] at present ⊢
      cases found : state.tables.hasIdentity userId with
      | true => exact .inl rfl
      | false =>
          obtain ⟨works, free, fresh⟩ := goesIn call at_ userId (by rw [stage]; rfl)
              ⟨present, found⟩
          obtain ⟨reached, returned⟩ := @createIdentity_returns env id userId _ now _ state.tables
            ⟨present, found⟩ free fresh
          have executed := returns_statement.mpr ⟨works, returned⟩
          grind [Action.Returns]
    · exact .inr (others _ _ other isOwn waits)
  · have returned := (returns_statement.mp execution).2
    rw [proceed_eq at_ (next.trans (congrArg _ execution))]
    refine sound.of_widens (widens_of_createIdentity returned) (fun _ isNone => by cases isNone) ?_
    grind [createIdentity_gives]

/-- A statement that comes after both insertions, or no statement at all. -/
theorem noStrayUser_later {state : SsoState env} (sound : state.NoStrayUser) {position : Nat}
    {call : SignupCall} (at_ : state.calls[position]? = some call) {id : String} {now : Date}
    {fails : Bool} {stage : SignupStage} {tables : SsoTables env}
    (notAwaiting : ∀ userId, call.stage ≠ .userInserted userId)
    (next : nextStage call id now fails state.tables = (stage, tables))
    (widens : Widens state.tables tables none) :
    (state.proceed position id now fails).NoStrayUser := by
  rw [proceed_eq at_ next]
  refine sound.of_widens widens (fun _ isNone => by cases isNone) ?_
  grind [awaits_of_moved]

theorem noStrayUser_proceed {state : SsoState env} (sound : state.NoStrayUser) {position : Nat}
    {id : String} {now : Date} {fails : Bool}
    (goesIn : state.IdentityGoesIn (.proceed position id now fails)) :
    (state.proceed position id now fails).NoStrayUser := by
  cases at_ : state.calls[position]? with
  | none =>
      unfold proceed
      rw [at_]
      exact sound
  | some call =>
      cases stage : call.stage with
      | usernameFree => exact noStrayUser_insertUser sound at_ stage
      | userInserted userId => exact noStrayUser_createIdentity sound at_ stage goesIn
      | identityInserted userId =>
          have next : nextStage call id now fails state.tables = settle (.returned userId)
              (statement fails (createUserSession userId) state.tables) := by
            unfold nextStage
            rw [stage]
          have notAwaiting : ∀ other, call.stage ≠ .userInserted other := by
            simp [stage]
          rcases execution : statement fails (createUserSession userId) state.tables with
            ⟨error | value, after⟩
          · have same := statement_allOrNothing (createUserSession_allOrNothing _) fails _ _ _
              execution
            rw [same] at execution
            exact noStrayUser_later sound at_ notAwaiting (next.trans (congrArg _ execution))
              (Widens.refl _ none)
          · exact noStrayUser_later sound at_ notAwaiting (next.trans (congrArg _ execution))
              (widens_of_createUserSession (returns_statement.mp execution).2)
      | returned userId | threw error =>
          have notAwaiting : ∀ other, call.stage ≠ .userInserted other := by
            simp [stage]
          have next : nextStage call id now fails state.tables = (call.stage, state.tables) := by
            unfold nextStage
            rw [stage]
          exact noStrayUser_later sound at_ notAwaiting next (Widens.refl _ none)

theorem noStrayUser_submit {state : SsoState env} (sound : state.NoStrayUser) (body : Json)
    (now : Date) (fails : Bool) : (state.submit body now fails).NoStrayUser := by
  unfold submit
  split
  · exact sound
  · refine sound.of_widens (Widens.refl _ none) (fun _ isNone => by cases isNone) ?_
    rintro userId ⟨call, member, isWaiting⟩ _
    exact .inr ⟨call, List.mem_append_left _ member, isWaiting⟩

/-- A call that is no sign-up leaves those that await an identity alone. -/
theorem noStrayUser_tables {state : SsoState env} (sound : state.NoStrayUser)
    {tables : SsoTables env} {added : Option SsoUser} (widens : Widens state.tables tables added)
    (hasPassword : ∀ user, added = some user → user.passwordHash ≠ none) :
    ({ state with tables := tables } : SsoState env).NoStrayUser := by
  refine sound.of_widens widens ?_ fun userId waits _ => .inr waits
  grind

theorem noStrayUser_deleteUser {state : SsoState env} (sound : state.NoStrayUser)
    (userId : String) :
    ({ state with tables := state.tables.deleteUser userId } : SsoState env).NoStrayUser := by
  intro user member noPassword
  obtain ⟨before, other⟩ := List.mem_filter.mp member
  rcases sound user before noPassword with found | waits
  · obtain ⟨identity, identityMember, same⟩ := SsoTables.hasIdentity_iff.mp found
    refine .inl (SsoTables.hasIdentity_iff.mpr ⟨identity, ?_, same⟩)
    refine List.mem_filter.mpr ⟨identityMember, ?_⟩
    simp [same, other]
  · exact .inr waits

theorem noStrayUser_step {state : SsoState env} (sound : state.NoStrayUser) (event : SsoEvent)
    (goesIn : state.IdentityGoesIn event) : (state.step event).NoStrayUser := by
  cases event with
  | submit body now fails => exact noStrayUser_submit sound body now fails
  | proceed position id now fails => exact noStrayUser_proceed sound goesIn
  | signup id username email passwordHash passwordSalt now =>
      show ({ state with
        tables := (insertUser (passwordUser id username email passwordHash passwordSalt now)
          state.tables).2 } : SsoState env).NoStrayUser
      rcases execution : insertUser (passwordUser id username email passwordHash passwordSalt now)
        state.tables with ⟨error | value, after⟩
      · rw [insertUser_allOrNothing _ _ _ _ execution]
        exact sound
      · refine noStrayUser_tables sound (widens_of_insertUser execution) ?_
        intro user isNew noPassword
        cases isNew
        cases noPassword
  | link identityId userId info now =>
      show ({ state with
        tables := (createIdentity identityId userId now "google" info state.tables).2 } :
          SsoState env).NoStrayUser
      rcases execution : createIdentity identityId userId now "google" info state.tables with
        ⟨error | value, after⟩
      · rw [createIdentity_allOrNothing _ _ _ _ _ _ _ _ execution]
        exact sound
      · refine noStrayUser_tables sound (widens_of_createIdentity execution) ?_
        intro user isNew
        cases isNew
  | deleteUser userId => exact noStrayUser_deleteUser sound userId
  | restart =>
      intro user member noPassword
      rcases sound user member noPassword with found | ⟨call, callMember, isWaiting⟩
      · exact .inl found
      · have present := SsoTables.hasUser_iff.mpr ⟨user, member, rfl⟩
        have notLacking := goesIn call callMember user.id (by rw [isWaiting]; rfl)
        cases found : state.tables.hasIdentity user.id with
        | true => exact .inl found
        | false => exact absurd ⟨present, found⟩ notLacking

/-- No user row without its identity remains in a run whose identities go in. -/
theorem noStrayUser_run {start : SsoState env} (sound : start.NoStrayUser) {events : List SsoEvent}
    (goesIn : AlongRun step IdentityGoesIn start events) : (run step start events).NoStrayUser :=
  @run_invariant_of_alongRun _ _ step NoStrayUser IdentityGoesIn
    (fun _ event kept condition => noStrayUser_step kept event condition) start sound events goesIn

/-! ### A sign-up on its own -/

/-- An unchanged submission that the DTO accepts starts a sign-up. -/
theorem submit_unchanged {state : SsoState env} {info : ProviderUserInfo} {callback : SsoCallback}
    (offers : Offers env info callback)
    (accepts : env.isIsoDatetime callback.expiryText = true)
    (complete : info.email.isSome = true ∧ info.name.isSome = true) {username : String}
    (usernameOfDto : isUsernameOfDto username = true)
    (valid : passesUsernameValidators username = true) {now : Date}
    (inTime : now ≤ callback.expiry) (free : state.tables.usernameExists username = false) :
    state.submit (submissionBody username callback.providerData.toJson callback.signature) now
        false =
      { state with
        calls := state.calls ++
          [⟨⟨username, callback.providerData, callback.signature⟩, .usernameFree⟩] } := by
  have checked := checked_of_unchanged offers valid inTime free
  unfold submit validateBody
  rw [parse_unchanged offers accepts complete usernameOfDto]
  simp only [statement, Bool.false_eq_true, ↓reduceIte, checked, settle]

end SsoState

open SsoState

/-! ### What a sign-up can rely on -/

/-- A sign-up with what the callback returned is accepted, what was altered is refused, and no
failure leaves a user without an identity, exactly in the cases that are named here. -/
theorem ssoSignup_iff (env : SsoEnv) :
    (∀ (provider : String) (info : ProviderUserInfo) (calledAt now : Date)
        (before afterCallback tables : SsoTables env) (callback : SsoCallback) (username : String)
        (ids : DrawnIds),
      Action.Returns (handleSSOCallback env provider info calledAt) before
          (.selectUsername callback) afterCallback →
        env.isIsoDatetime callback.expiryText = true → now ≤ callback.expiry →
        passesUsernameValidators username = true → tables.usernameExists username = false →
        FreshIds tables ids →
          ((completeSignup now ids (submissionBody username callback.providerData.toJson
              callback.signature) tables).1.isOk = true ↔
            info.email.isSome = true ∧ info.name.isSome = true ∧ 3 ≤ utf16Length username ∧
              tables.findIdentityByProvider "google" info.id = none)) ∧
    (∀ (provider : String) (info : ProviderUserInfo) (calledAt now : Date)
        (before afterCallback tables : SsoTables env) (callback : SsoCallback)
        (username signature : String) (providerData : Json) (ids : DrawnIds),
      Action.Returns (handleSSOCallback env provider info calledAt) before
          (.selectUsername callback) afterCallback →
        (∀ text, text ≠ callback.providerData.dataToSign →
          hexDecode signature ≠ env.hmac text) →
          (ClientError (completeSignup now ids
              (submissionBody username providerData signature) tables) ↔
            isUsernameOfDto username = false ∨ ProviderData.parse env providerData = none ∨
              ∃ data, ProviderData.parse env providerData = some data ∧
                (hasExpired now data.expiry = true ∨
                  (hexDecode signature).length = 32 ∧
                    (data ≠ callback.providerData ∨
                      hexDecode signature ≠ hexDecode callback.signature ∨
                      passesUsernameValidators username = false ∨
                      tables.usernameExists username = true)))) ∧
    (∀ (start : SsoState env) (events : List SsoEvent), start.NoStrayUser →
      AlongRun step IdentityGoesIn start events → (run step start events).NoStrayUser) := by
  refine ⟨?_, ?_, ?_⟩
  · intro provider info calledAt now before afterCallback tables callback username ids returned
      accepts inTime valid free fresh
    exact accepted_iff (offers_of_callback returned) accepts valid inTime free fresh
  · intro provider info calledAt now before afterCallback tables callback username signature
      providerData ids returned unforged
    exact refused_iff (offers_of_callback returned) unforged username providerData now ids tables
  · intro start events sound goesIn
    exact noStrayUser_run sound goesIn

def sampleText : String :=
  "\x7b\"provider\":\"google\",\"providerUserInfo\":\x7b\"id\":\"117\",\"email\":\"ada@example.com\"," ++
    "\"name\":\"Ada\"\x7d,\"expiry\":\"2025-12-25T09:24:38.765Z\"\x7d"

def sampleTextWithoutEmail : String :=
  "\x7b\"provider\":\"google\",\"providerUserInfo\":\x7b\"id\":\"117\",\"name\":\"Ada\"\x7d," ++
    "\"expiry\":\"2025-12-25T09:24:38.765Z\"\x7d"

/-- HMAC-SHA256 under the secret `secret`, of the two texts that are signed below. -/
def sampleHmac (data : String) : List UInt8 :=
  if data = sampleText then
    [32, 48, 106, 124, 77, 41, 241, 241, 57, 90, 135, 82, 132, 144, 34, 231, 185, 141, 174, 11,
      92, 32, 132, 132, 17, 178, 69, 59, 109, 32, 197, 218]
  else if data = sampleTextWithoutEmail then
    [22, 72, 25, 238, 188, 148, 147, 93, 99, 250, 131, 165, 129, 226, 193, 36, 32, 112, 57, 37,
      214, 169, 217, 125, 166, 217, 164, 127, 213, 100, 37, 155]
  else List.replicate 32 0

theorem sampleHmac_length (data : String) : (sampleHmac data).length = 32 := by
  unfold sampleHmac
  split
  · rfl
  · split
    · rfl
    · rfl

def sampleSsoEnv : SsoEnv where
  hmac := sampleHmac
  hmac_length := sampleHmac_length
  isIsoDatetime := fun text => (Date.parse text).isSome
  lower := toLowerCase
  lower_word := fun _ _ => rfl

def sampleInfo (email : Option String) : ProviderUserInfo :=
  { id := "117", email := email, name := some "Ada", picture := none }

def sampleCallback (email : Option String) : SsoCallback where
  provider := "google"
  providerUserInfo := sampleInfo email
  expiry := 1766654678765
  expiryText := "2025-12-25T09:24:38.765Z"
  printed := by decide
  signature := createSSOSignature sampleSsoEnv (ProviderData.dataToSign
    { provider := "google"
      providerUserInfo := sampleInfo email
      expiry := "2025-12-25T09:24:38.765Z" })
  suggestedUsername := generateUsernameFromEmail (email.getD "")

theorem sampleCallback_returned (email : Option String) :
    Action.Returns (handleSSOCallback sampleSsoEnv "google" (sampleInfo email) 1766654078765)
      (SsoTables.empty sampleSsoEnv) (.selectUsername (sampleCallback email))
      (SsoTables.empty sampleSsoEnv) := by
  rfl

theorem sampleCallback_offers (email : Option String) :
    Offers sampleSsoEnv (sampleInfo email) (sampleCallback email) := ⟨rfl, rfl, rfl⟩

theorem sampleCallback_length (email : Option String) :
    (hexDecode (sampleCallback email).signature).length = 32 := by
  rw [(sampleCallback_offers email).signature, createSSOSignature, hexDecode_hexEncode]
  exact sampleSsoEnv.hmac_length _

/-- A text with another hash than the one submitted was not signed with it. -/
theorem sampleCallback_unforged (text : String)
    (other : text ≠ (sampleCallback (some "ada@example.com")).providerData.dataToSign) :
    hexDecode (sampleCallback (some "ada@example.com")).signature ≠ sampleHmac text := by
  have signed : (sampleCallback (some "ada@example.com")).providerData.dataToSign = sampleText := by
    decide +kernel
  rw [(sampleCallback_offers _).signature, createSSOSignature, hexDecode_hexEncode]
  rw [signed] at other ⊢
  unfold sampleSsoEnv sampleHmac
  grind

def sampleDto (username : String) : CompleteSSOSignupDTO :=
  ⟨username, (sampleCallback (some "ada@example.com")).providerData,
    (sampleCallback (some "ada@example.com")).signature⟩

def emptyTables : SsoTables sampleSsoEnv := SsoTables.empty sampleSsoEnv

theorem emptyTables_fresh : FreshIds emptyTables ⟨"u1", "i1"⟩ :=
  ⟨rfl, fun _ member => by cases member⟩

def alteredData : ProviderData :=
  { (sampleCallback (some "ada@example.com")).providerData with
    providerUserInfo := sampleInfo (some "eve@example.com") }

theorem ssoSignup_iff_sample :
    (completeSignup 1766654078765 ⟨"u1", "i1"⟩
        (submissionBody "ada" (sampleCallback (some "ada@example.com")).providerData.toJson
          (sampleCallback (some "ada@example.com")).signature) emptyTables).1.isOk = true ∧
      ClientError (completeSignup 1766654078765 ⟨"u1", "i1"⟩
        (submissionBody "ada" alteredData.toJson
          (sampleCallback (some "ada@example.com")).signature) emptyTables) ∧
      (run step { tables := emptyTables, calls := [⟨sampleDto "ada", .usernameFree⟩] }
        [.proceed 0 "u1" 0 false, .proceed 0 "i1" 0 false, .proceed 0 "" 0 false]).NoStrayUser := by
  refine ⟨?_, ?_, ?_⟩
  · exact ((ssoSignup_iff sampleSsoEnv).1 "google" (sampleInfo (some "ada@example.com"))
      1766654078765 1766654078765 _ _ emptyTables _ "ada" ⟨"u1", "i1"⟩ (sampleCallback_returned _)
      (by decide) (by decide) (by decide) rfl emptyTables_fresh).mpr ⟨rfl, rfl, by decide, rfl⟩
  · exact ((ssoSignup_iff sampleSsoEnv).2.1 "google" (sampleInfo (some "ada@example.com"))
      1766654078765 1766654078765 _ _ emptyTables _ "ada" _ _ ⟨"u1", "i1"⟩
      (sampleCallback_returned _) sampleCallback_unforged).mpr
      (.inr (.inr ⟨alteredData, rfl, .inr ⟨sampleCallback_length _, .inl (by decide)⟩⟩))
  · exact (ssoSignup_iff sampleSsoEnv).2.2 _ _ (fun _ member => by cases member)
      (by decide +kernel)

def sampleBody (username : String) : Json :=
  submissionBody username (sampleCallback (some "ada@example.com")).providerData.toJson
    (sampleCallback (some "ada@example.com")).signature

/-- Both sign-ups pass their checks before either inserts. -/
theorem sample_submitted :
    ((SsoState.mk emptyTables []).submit (sampleBody "ada") 1766654078765 false).submit
        (sampleBody "ada_2") 1766654078765 false =
      { tables := emptyTables
        calls := [⟨sampleDto "ada", .usernameFree⟩, ⟨sampleDto "ada_2", .usernameFree⟩] } := by
  have offers := sampleCallback_offers (some "ada@example.com")
  unfold sampleBody
  rw [submit_unchanged offers (by decide) ⟨rfl, rfl⟩ (by decide) (by decide) (by decide) rfl,
    submit_unchanged offers (by decide) ⟨rfl, rfl⟩ (by decide) (by decide) (by decide) rfl]
  rfl

theorem sample_tooShort :
    (completeSignup 1766654078765 ⟨"u1", "i1"⟩
        (submissionBody "ada" (sampleCallback (some "ada@example.com")).providerData.toJson "20")
          emptyTables).1 = .error .rangeError := by
  have verified : verifySubmission sampleSsoEnv 1766654078765
      { sampleDto "ada" with signature := "20" } = .error .rangeError := by
    have inTime : hasExpired 1766654078765
        (sampleCallback (some "ada@example.com")).providerData.expiry = false := by decide
    have short : ¬ (hexDecode "20").length = 32 := by decide
    unfold verifySubmission
    rw [verifySSOSignature_eq]
    show (if hasExpired 1766654078765
      (sampleCallback (some "ada@example.com")).providerData.expiry = true then _ else _) = _
    rw [inTime]
    simp only [Bool.false_eq_true, short, ↓reduceIte]
  have refused := checkSubmission_eq 1766654078765 { sampleDto "ada" with signature := "20" }
    emptyTables
  rw [verified] at refused
  have parsed := @parse_unchanged _ _ _ (sampleCallback_offers (some "ada@example.com")) (by decide)
    ⟨rfl, rfl⟩ "ada" (by decide) "20"
  rw [completeSignup_of_parsed parsed]
  exact congrArg Prod.fst (completeSSOSignup_of_refused refused)

/-- Without an email of the provider, nothing can be completed; a signature that is too short is
answered with an internal error; and of two sign-ups for one identity, the second leaves its
user. -/
theorem not_ssoSignup :
    (completeSignup 1766654078765 ⟨"u1", "i1"⟩
        (submissionBody "ada" (sampleCallback none).providerData.toJson
          (sampleCallback none).signature) emptyTables).1 =
        .error (.badRequest "Validation failed") ∧
      (completeSignup 1766654078765 ⟨"u1", "i1"⟩
        (submissionBody "ada" (sampleCallback (some "ada@example.com")).providerData.toJson "20")
          emptyTables).1 = .error .rangeError ∧
      ¬ (run step { tables := emptyTables, calls := [] }
        [.submit (sampleBody "ada") 1766654078765 false,
          .submit (sampleBody "ada_2") 1766654078765 false,
          .proceed 0 "u1" 1766654078765 false, .proceed 1 "u2" 1766654078765 false,
          .proceed 0 "i1" 1766654078765 false,
          .proceed 1 "i2" 1766654078765 false]).NoStrayUser := by
  refine ⟨by rfl, sample_tooShort, ?_⟩
  intro sound
  simp only [run_cons, run_nil, step, sample_submitted] at sound
  rcases sound (newUser "u2" 1766654078765 (sampleDto "ada_2")) (by decide +kernel) rfl with
    found | ⟨call, member, isWaiting⟩
  · exact absurd found (by decide +kernel)
  · revert call
    decide +kernel

end Lombok.Auth
