import Lombok.Auth.TokenClaims
import Mathlib.Data.List.Nodup

/-!
Contract: which refresh token of a session is good for an exchange.

The row of a session holds the hash of one secret. A `History` is the list of
draws whose hashes the row has held: the secrets that were presented are those
of all but the last, and the tokens that were returned are those of all. It is
kept by every step that updates a row no other exchange has updated since it
was verified, or is still to answer for.

Does not own: what the access tokens say.
-/

namespace Lombok.Auth

open Lombok.Core Lombok.Library Lombok.Library.Framing AuthState

/-! ### Turns: what is presented and what is returned -/

/-- The token presented, none for a new session, and the token returned for it. -/
structure Turn where
  sessionId : String
  given : Option String
  refreshToken : String
deriving DecidableEq

def Issued.turn (tokens : Issued) : Turn := ⟨tokens.sessionId, tokens.given, tokens.refreshToken⟩

def Exchange.turn? : Exchange → Option Turn
  | updated given session secret =>
      some ⟨session.id, some given, HashedTokenHelper.encode session.id secret⟩
  | _ => none

namespace AuthState

def returned (state : AuthState) (id : String) : List Turn :=
  (state.issued.map Issued.turn).filter fun turn => turn.sessionId == id

def pendingOf (exchanges : List Exchange) (id : String) : List Turn :=
  (exchanges.filterMap Exchange.turn?).filter fun turn => turn.sessionId == id

def pending (state : AuthState) (id : String) : List Turn := pendingOf state.exchanges id

/-- The turns of a session: those answered, then the one that is not. -/
def turns (state : AuthState) (id : String) : List Turn := state.returned id ++ state.pending id

end AuthState

/-! ### The property -/

/-- No refresh token is exchanged twice; with no exchange under way the token returned last is the
one that is accepted; and no session outlives its absolute lifetime. -/
structure RotationSafe (env : AuthEnv) (state : AuthState) : Prop where
  once : state.issued.Pairwise fun earlier later => ∀ first second,
    earlier.given = some first → later.given = some second →
      HashedTokenHelper.decodeRefreshToken first ≠ HashedTokenHelper.decodeRefreshToken second
  lastAccepted : (∀ exchange ∈ state.exchanges, exchange = .finished) →
    ∀ row ∈ state.sessions.rows, ∀ turn ∈ state.returned row.id, ∀ now ≤ row.expiresAt,
      (state.verifySessionWithRefreshToken env turn.refreshToken now = .ok row ↔
        ((state.returned row.id).getLast?).map Turn.refreshToken = some turn.refreshToken)
  bounded : ∀ row ∈ state.sessions.rows,
    row.expiresAt ≤ Date.addMs row.createdAt AuthDuration.sessionAbsolute.milliseconds

/-! ### The condition -/

/-- The comparison of the days of the month does not pick the later date for the earlier. -/
def SlidesWithin (env : AuthEnv) (createdAt now : Date) : Prop :=
  let sliding := Date.addMs now AuthDuration.sessionSliding.milliseconds
  let absolute := Date.addMs createdAt AuthDuration.sessionAbsolute.milliseconds
  sliding ≤ absolute ∨ env.getDate absolute < env.getDate sliding

theorem sessionExpiresAt_le_iff (env : AuthEnv) (createdAt now : Date) :
    sessionExpiresAt env createdAt now ≤
        Date.addMs createdAt AuthDuration.sessionAbsolute.milliseconds ↔
      SlidesWithin env createdAt now := by
  grind [sessionExpiresAt, earliest, SlidesWithin]

/-- The row is the one that was verified, and no other exchange of it is still to answer. -/
def Uncontended (state : AuthState) (session : Session) : Prop :=
  state.pending session.id = [] ∧
    ∀ row ∈ state.sessions.rows, row.id = session.id → row.hash = session.hash

def ExtendsAlone (env : AuthEnv) (state : AuthState) (now later : Date) : Option Exchange → Prop
  | some (.found _ session) => now ≤ session.expiresAt →
      Uncontended state session ∧ SlidesWithin env session.createdAt later
  | _ => True

/-- A step that updates a session nobody else is about to, within its absolute lifetime. -/
def RotatesAlone (env : AuthEnv) (state : AuthState) : AuthInput → Prop
  | .createUserSession _ now later => SlidesWithin env now later
  | .createAppUserSession _ now later => SlidesWithin env now later
  | .extend index now later => ExtendsAlone env state now later state.exchanges[index]?
  | _ => True

section Decidability

variable (env : AuthEnv) (state : AuthState)

instance (createdAt now : Date) : Decidable (SlidesWithin env createdAt now) :=
  inferInstanceAs (Decidable ((_ : Int) ≤ _ ∨ (_ : Int) < _))

instance (session : Session) : Decidable (Uncontended state session) :=
  inferInstanceAs (Decidable (_ ∧ _))

instance (now later : Date) : ∀ exchange, Decidable (ExtendsAlone env state now later exchange)
  | some (.found _ session) =>
      inferInstanceAs (Decidable ((now : Int) ≤ session.expiresAt →
        Uncontended state session ∧ SlidesWithin env session.createdAt later))
  | some (.verified _ _) => instDecidableTrue
  | some (.updated _ _ _) => instDecidableTrue
  | some .finished => instDecidableTrue
  | none => instDecidableTrue

instance : ∀ input, Decidable (RotatesAlone env state input)
  | .createUserSession _ now later => inferInstanceAs (Decidable (SlidesWithin env now later))
  | .createAppUserSession _ now later => inferInstanceAs (Decidable (SlidesWithin env now later))
  | .extend index now later =>
      inferInstanceAs (Decidable (ExtendsAlone env state now later state.exchanges[index]?))
  | .present _ _ => instDecidableTrue
  | .findUser _ => instDecidableTrue
  | .issue _ _ => instDecidableTrue

end Decidability

def AuthEnv.hashAt (env : AuthEnv) (draw : Nat) : String := env.createHash (env.randomBytes draw)

/-- Of the secrets drawn so far no two have one hash. -/
def Fresh (env : AuthEnv) (draws : Nat) : Prop :=
  ∀ first < draws, ∀ second < draws, env.hashAt first = env.hashAt second → first = second

/-! ### Histories -/

def AuthEnv.tokenAt (env : AuthEnv) (id : String) (draw : Nat) : String :=
  HashedTokenHelper.encode id (env.randomBytes draw)

/-- The hash a presented token is looked up by. -/
def AuthEnv.givenHash (env : AuthEnv) (given : String) : String :=
  match HashedTokenHelper.decodeRefreshToken given with
  | .ok (_, secret) => env.createHash secret
  | .error _ => ""

/-- Whether an access token can be made for the session. -/
def issuable (env : AuthEnv) (users : List String) (session : Session) : Bool :=
  (accessTokenForSession env users session 0 0).isOk

/-- The draws whose hashes the row has held, in order. -/
structure History (env : AuthEnv) (state : AuthState) (row : Session) (draws : List Nat) :
    Prop where
  ordered : draws.Pairwise (· < ·)
  drawn : ∀ draw ∈ draws, draw < state.draws
  current : draws.getLast?.map env.hashAt = some row.hash
  exchanged : (((state.turns row.id).filterMap Turn.given).map env.givenHash).Sublist
    (draws.dropLast.map env.hashAt)
  answered :
    if issuable env state.users row then
      (state.turns row.id).map Turn.refreshToken = draws.map (env.tokenAt row.id)
    else state.returned row.id = []

/-- Steps that leave the turns of a session alone keep its history. -/
theorem History.frame {env : AuthEnv} {before after : AuthState} {row : Session}
    {draws : List Nat} (history : History env before row draws)
    (sameReturned : after.returned row.id = before.returned row.id)
    (samePending : after.pending row.id = before.pending row.id)
    (sameUsers : after.users = before.users) (grown : before.draws ≤ after.draws) :
    History env after row draws := by
  have sameTurns : after.turns row.id = before.turns row.id := by
    unfold turns
    rw [sameReturned, samePending]
  refine ⟨history.ordered, ?_, history.current, ?_, ?_⟩
  · intro draw member
    exact Nat.lt_of_lt_of_le (history.drawn draw member) grown
  · rw [sameTurns]
    exact history.exchanged
  · rw [sameTurns, sameReturned, sameUsers]
    exact history.answered

/-! ### Access tokens are made for a session always or never -/

theorem createAppUserToken_isOk (env : AuthEnv) (session : Session) (params : AppUserClaims)
    (seconds : Option Int) (draw : Nat) (now : Date) :
    (createAppUserToken env session params seconds draw now).isOk =
      (assertExtraSize params.extra).isOk := by
  unfold createAppUserToken
  cases assertExtraSize params.extra with
  | error error => rfl
  | ok value => rfl

theorem createSessionAccessToken_isOk (env : AuthEnv) (users : List String) (session : Session)
    (draw : Nat) (now : Date) :
    (createSessionAccessToken env users session draw now).isOk =
      users.contains session.userId := by
  unfold createSessionAccessToken
  split
  · rename_i known
    rw [known]
    rfl
  · rename_i unknown
    exact (Bool.eq_false_iff.mpr unknown).symm

/-- Neither the random source nor the clock nor the hash of the session decides it. -/
theorem accessTokenForSession_isOk (env : AuthEnv) (users : List String)
    {before after : Session} (same : SameSession before after) (draw : Nat) (now : Date) :
    (accessTokenForSession env users after draw now).isOk = issuable env users before := by
  grind [issuable, accessTokenForSession, createSessionAccessToken_isOk,
    createAppUserAccessTokenForSession, createAppUserToken_isOk, same.type, same.userId,
    same.typeDetails]

theorem issuable_congr (env : AuthEnv) (users : List String) {before after : Session}
    (same : SameSession before after) : issuable env users after = issuable env users before :=
  accessTokenForSession_isOk env users same 0 0

/-! ### What a step does to the pending turns -/

def Exchange.turnOf (exchange : Exchange) (id : String) : List Turn :=
  exchange.turn?.toList.filter fun turn => turn.sessionId == id

namespace AuthState

variable {state : AuthState} {index : Nat} {old : Exchange}

theorem pendingOf_append (first second : List Exchange) (id : String) :
    pendingOf (first ++ second) id = pendingOf first id ++ pendingOf second id := by
  simp [pendingOf]

theorem pendingOf_cons (exchange : Exchange) (rest : List Exchange) (id : String) :
    pendingOf (exchange :: rest) id = exchange.turnOf id ++ pendingOf rest id := by
  grind [pendingOf, Exchange.turnOf]

theorem pending_split (held : state.exchanges[index]? = some old) (id : String) :
    ∃ before after, state.pending id = before ++ (old.turnOf id ++ after) ∧
      ∀ exchange, (state.setExchange index exchange).pending id =
        before ++ (exchange.turnOf id ++ after) := by
  obtain ⟨inside, isOld⟩ := List.getElem?_eq_some_iff.mp held
  have around : state.exchanges =
      state.exchanges.take index ++ old :: state.exchanges.drop (index + 1) := by
    rw [← isOld, List.getElem_cons_drop, List.take_append_drop]
  refine ⟨pendingOf (state.exchanges.take index) id,
    pendingOf (state.exchanges.drop (index + 1)) id, ?_, ?_⟩
  · rw [pending, ← pendingOf_cons, ← pendingOf_append, ← around]
  · intro exchange
    unfold pending setExchange
    rw [List.set_eq_take_append_cons_drop, if_pos inside, ← pendingOf_cons, ← pendingOf_append]

theorem pending_kept (held : state.exchanges[index]? = some old) {exchange : Exchange}
    {id : String} (same : exchange.turnOf id = old.turnOf id) :
    (state.setExchange index exchange).pending id = state.pending id := by
  obtain ⟨before, after, atFirst, later⟩ := pending_split held id
  rw [later, atFirst, same]

theorem pending_added (held : state.exchanges[index]? = some old) (exchange : Exchange)
    {id : String} (none : state.pending id = []) :
    (state.setExchange index exchange).pending id = exchange.turnOf id := by
  obtain ⟨before, after, atFirst, later⟩ := pending_split held id
  rw [none] at atFirst
  obtain ⟨rfl, backEmpty⟩ := List.append_eq_nil_iff.mp atFirst.symm
  obtain ⟨-, rfl⟩ := List.append_eq_nil_iff.mp backEmpty
  rw [later, List.nil_append, List.append_nil]

theorem pending_removed (held : state.exchanges[index]? = some old) {exchange : Exchange}
    {id : String} {turn : Turn} (isTurn : old.turnOf id = [turn])
    (single : (state.pending id).length ≤ 1) (silent : exchange.turnOf id = []) :
    state.pending id = [turn] ∧ (state.setExchange index exchange).pending id = [] := by
  obtain ⟨before, after, atFirst, later⟩ := pending_split held id
  rw [atFirst, isTurn, List.length_append, List.length_append, List.length_singleton] at single
  have frontEmpty : before = [] := List.eq_nil_of_length_eq_zero (by omega)
  grind

/-! ### What a step does to the answers -/

theorem returned_append_same {before after : AuthState} (tokens : Issued)
    (grown : after.issued = before.issued ++ [tokens]) :
    after.returned tokens.sessionId = before.returned tokens.sessionId ++ [tokens.turn] := by
  simp [returned, Issued.turn, grown]

theorem returned_append_other {before after : AuthState} (tokens : Issued)
    (grown : after.issued = before.issued ++ [tokens]) {id : String}
    (other : id ≠ tokens.sessionId) : after.returned id = before.returned id := by
  simp [returned, Issued.turn, other.symm, grown]

theorem noTurns_of_absent (traceable : Traceable state) {id : String}
    (absent : ∀ row ∈ state.sessions.rows, row.id ≠ id) :
    state.returned id = [] ∧ state.pending id = [] := by
  constructor
  · apply List.filter_eq_nil_iff.mpr
    intro turn member same
    obtain ⟨tokens, isIssued, rfl⟩ := List.mem_map.mp member
    obtain ⟨row, inside, sameId, -⟩ := traceable.issued tokens isIssued
    exact absent row inside (sameId.trans (beq_iff_eq.mp same))
  · apply List.filter_eq_nil_iff.mpr
    intro turn member same
    obtain ⟨exchange, inside, isTurn⟩ := List.mem_filterMap.mp member
    cases exchange with
    | updated given session secret =>
        obtain ⟨row, rowMember, sameSession⟩ := traceable.exchanges _ inside session rfl
        cases isTurn
        exact absent row rowMember (sameSession.id.trans (beq_iff_eq.mp same))
    | verified given session => cases isTurn
    | found given session => cases isTurn
    | finished => cases isTurn

end AuthState

theorem turnOf_updated (given : String) (session : Session) (secret : Bytes) :
    (Exchange.updated given session secret).turnOf session.id =
      [⟨session.id, some given, HashedTokenHelper.encode session.id secret⟩] := by
  unfold Exchange.turnOf Exchange.turn?
  simp

theorem turnOf_other {given : String} {session : Session} {secret : Bytes} {id : String}
    (other : id ≠ session.id) : (Exchange.updated given session secret).turnOf id = [] := by
  unfold Exchange.turnOf Exchange.turn?
  simp [other.symm]

/-! ### Histories that grow -/

variable {env : AuthEnv} {row : Session} {before after : AuthState} {draws : List Nat}

/-- An update by the one exchange of the session, whose token has the hash of the row. -/
theorem History.advance {row' : Session} {given : String} (history : History env before row draws)
    (alone : before.pending row.id = []) (current : env.givenHash given = row.hash)
    (sameReturned : after.returned row.id = before.returned row.id)
    (added : after.pending row.id = [⟨row.id, some given, env.tokenAt row.id before.draws⟩])
    (sameUsers : after.users = before.users) (drew : before.draws < after.draws)
    (sameSession : SameSession row row') (updated : row'.hash = env.hashAt before.draws) :
    History env after row' (draws ++ [before.draws]) := by
  have turnsAfter : after.turns row'.id =
      before.turns row.id ++ [⟨row.id, some given, env.tokenAt row.id before.draws⟩] := by
    unfold turns
    rw [sameSession.id, sameReturned, added, alone, List.append_nil]
  obtain ⟨last, isLast, lastHash⟩ := Option.map_eq_some_iff.mp history.current
  have draws_eq : draws.dropLast ++ [last] = draws :=
    List.dropLast_append_getLast? last isLast
  refine ⟨?_, ?_, ?_, ?_, ?_⟩
  · apply List.pairwise_append.mpr
    refine ⟨history.ordered, List.pairwise_singleton _ _, ?_⟩
    intro earlier member later isNew
    rw [List.mem_singleton.mp isNew]
    exact history.drawn earlier member
  · intro draw member
    rcases List.mem_append.mp member with old | new
    · exact Nat.lt_trans (history.drawn draw old) drew
    · rw [List.mem_singleton.mp new]
      exact drew
  · simp [updated]
  · rw [turnsAfter, List.filterMap_append, List.map_append, List.dropLast_concat]
    have grown : (draws.dropLast ++ [last]).map env.hashAt = draws.map env.hashAt := by
      rw [draws_eq]
    rw [← grown, List.map_append]
    apply history.exchanged.append
    simp [current, lastHash]
  · have answered := history.answered
    rw [issuable_congr env after.users sameSession, sameUsers]
    cases canIssue : issuable env before.users row with
    | true =>
        rw [if_pos canIssue] at answered
        grind [sameSession.id]
    | false =>
        grind [sameSession.id]

theorem History.answer {turn : Turn} (history : History env before row draws)
    (wasPending : before.pending row.id = [turn]) (isAnswered : after.pending row.id = [])
    (handedOut : after.returned row.id = before.returned row.id ++ [turn])
    (canIssue : issuable env before.users row = true) (sameUsers : after.users = before.users)
    (grown : before.draws ≤ after.draws) : History env after row draws := by
  have sameTurns : after.turns row.id = before.turns row.id := by
    unfold turns
    rw [isAnswered, handedOut, wasPending, List.append_nil]
  have answered := history.answered
  rw [if_pos canIssue] at answered
  refine ⟨history.ordered, ?_, history.current, ?_, ?_⟩
  · intro draw member
    exact Nat.lt_of_lt_of_le (history.drawn draw member) grown
  · rw [sameTurns]
    exact history.exchanged
  · rw [sameUsers, if_pos canIssue, sameTurns]
    exact answered

/-- An exchange of a session that no access token is made for has no answer. -/
theorem History.failed (history : History env before row draws)
    (isAnswered : after.pending row.id = [])
    (sameReturned : after.returned row.id = before.returned row.id)
    (cannotIssue : issuable env before.users row = false) (sameUsers : after.users = before.users)
    (grown : before.draws ≤ after.draws) : History env after row draws := by
  have answered := history.answered
  rw [if_neg (by rw [cannotIssue]; simp)] at answered
  refine ⟨history.ordered, ?_, history.current, ?_, ?_⟩
  · intro draw member
    exact Nat.lt_of_lt_of_le (history.drawn draw member) grown
  · refine List.Sublist.trans ?_ history.exchanged
    apply List.Sublist.map
    apply List.Sublist.filterMap
    simp [turns, isAnswered, sameReturned]
  · rw [sameUsers, if_neg (by rw [cannotIssue]; simp), sameReturned]
    exact answered

/-- A new session, with the token that was returned for it or without one. -/
theorem History.created {state : AuthState} {draw : Nat} (drawn : draw < state.draws)
    (current : row.hash = env.hashAt draw) (noPending : state.pending row.id = [])
    (handedOut : state.returned row.id =
      if issuable env state.users row then [⟨row.id, none, env.tokenAt row.id draw⟩] else []) :
    History env state row [draw] := by
  have turnsAre : state.turns row.id = state.returned row.id := by
    rw [turns, noPending, List.append_nil]
  refine ⟨List.pairwise_singleton _ _, ?_, ?_, ?_, ?_⟩
  · intro other member
    rw [List.mem_singleton.mp member]
    exact drawn
  · rw [current]
    rfl
  · simp [turnsAre, handedOut]
  · grind

/-! ### Every step that rotates alone -/

/-- An exchange presents a token of its session; until the update, one with the hash verified. -/
def Exchange.Sound (env : AuthEnv) : Exchange → Prop
  | verified given session | found given session => ∃ secret,
      HashedTokenHelper.decodeRefreshToken given = .ok (session.id, secret) ∧
        session.hash = env.createHash secret
  | updated given session _ => ∃ secret,
      HashedTokenHelper.decodeRefreshToken given = .ok (session.id, secret)
  | finished => True

theorem Exchange.sound_finished (env : AuthEnv) : Exchange.finished.Sound env := trivial

structure Rotating (env : AuthEnv) (state : AuthState) : Prop where
  traceable : Traceable state
  histories : ∀ row ∈ state.sessions.rows, ∃ draws, History env state row draws
  single : ∀ id, (state.pending id).length ≤ 1
  sound : ∀ exchange ∈ state.exchanges, exchange.Sound env
  given : ∀ tokens ∈ state.issued, ∀ given, tokens.given = some given → ∃ secret,
    HashedTokenHelper.decodeRefreshToken given = .ok (tokens.sessionId, secret)
  bounded : ∀ row ∈ state.sessions.rows,
    row.expiresAt ≤ Date.addMs row.createdAt AuthDuration.sessionAbsolute.milliseconds

theorem rotating_withUsers (env : AuthEnv) (users : List String) :
    Rotating env (.withUsers users) := by
  refine ⟨traceable_withUsers users, ?_, ?_, ?_, ?_, ?_⟩
  · nofun
  · intro id
    exact Nat.zero_le 1
  · nofun
  · nofun
  · nofun

namespace Rotating

variable {env : AuthEnv} {state : AuthState}

/-- Exchanges move without touching sessions, answers or pending turns. -/
theorem move (rotating : Rotating env state) {after : AuthState} (traceable : Traceable after)
    (sameSessions : after.sessions = state.sessions) (sameIssued : after.issued = state.issued)
    (sameUsers : after.users = state.users) (grown : state.draws ≤ after.draws)
    (samePending : ∀ id, after.pending id = state.pending id)
    (sound : ∀ exchange ∈ after.exchanges, exchange.Sound env) : Rotating env after := by
  refine ⟨traceable, ?_, ?_, sound, ?_, ?_⟩
  · intro row member
    rw [sameSessions] at member
    obtain ⟨draws, history⟩ := rotating.histories row member
    refine ⟨draws, history.frame ?_ (samePending row.id) sameUsers grown⟩
    unfold returned
    rw [sameIssued]
  · intro id
    rw [samePending]
    exact rotating.single id
  · rw [sameIssued]
    exact rotating.given
  · rw [sameSessions]
    exact rotating.bounded

theorem sound_setExchange (rotating : Rotating env state) {exchange : Exchange}
    (sound : exchange.Sound env) (index : Nat) :
    ∀ other ∈ (state.setExchange index exchange).exchanges, other.Sound env := by
  intro other member
  rcases List.mem_or_eq_of_mem_set member with old | rfl
  · exact rotating.sound other old
  · exact sound

theorem present (rotating : Rotating env state) (refreshToken : String) (now : Date) :
    Rotating env (state.present env refreshToken now) := by
  have traceable := rotating.traceable.present env refreshToken now
  rcases present_cases env state refreshToken now with same | ⟨session, verified, same⟩
  · rw [same]
    exact rotating
  · rw [same] at traceable ⊢
    apply rotating.move traceable rfl rfl rfl (Nat.le_refl _)
    · intro id
      rw [pending, pendingOf_append]
      exact List.append_nil _
    · intro exchange member
      rcases List.mem_append.mp member with old | new
      · exact rotating.sound exchange old
      · rw [List.mem_singleton.mp new]
        exact (verify_ok verified).2

theorem findUser (rotating : Rotating env state) (index : Nat) :
    Rotating env (state.findUser index) := by
  have traceable := rotating.traceable.findUser index
  rcases findUser_cases state index with
    same | ⟨refreshToken, session, isVerified, same | same⟩
  · rw [same]
    exact rotating
  · rw [same] at traceable ⊢
    have verified : (Exchange.found refreshToken session).Sound env :=
      rotating.sound (.verified refreshToken session) (List.mem_of_getElem? isVerified)
    apply rotating.move traceable rfl rfl rfl (Nat.le_refl _)
    · intro id
      exact pending_kept isVerified rfl
    · exact rotating.sound_setExchange verified index
  · rw [same] at traceable ⊢
    apply rotating.move traceable rfl rfl rfl (Nat.le_refl _)
    · intro id
      exact pending_kept isVerified rfl
    · exact rotating.sound_setExchange (Exchange.sound_finished env) index

theorem mem_afterUpdate {index : Nat} {later : Date} {given : String}
    {session row changed : Session}
    (found : (state.sessions.find? fun row => row.id == session.id) = some row)
    (inside : changed ∈ (afterUpdate env state index later given session row).sessions.rows) :
    changed = Session.extended env (env.hashAt state.draws) session.createdAt later row ∨
      (changed ∈ state.sessions.rows ∧ changed.id ≠ row.id) := by
  have member : row ∈ state.sessions.rows := List.mem_of_find?_eq_some found
  have sameId : row.id = session.id :=
    beq_iff_eq.mp (@List.find?_some _ (fun row : Session => row.id == session.id) _ _ found)
  obtain ⟨old, oldMember, isChanged⟩ :=
    (@Table.mem_update _ _ _ _ _ (keeps_extended env _ _ _) _).mp inside
  by_cases selected : (old.id == session.id) = true
  · rw [if_pos selected] at isChanged
    have oldEqual : old = row :=
      row_unique _ oldMember member ((beq_iff_eq.mp selected).trans sameId.symm)
    rw [← isChanged, oldEqual]
    exact .inl rfl
  · grind

theorem extend (rotating : Rotating env state) {index : Nat} {now later : Date}
    (alone : RotatesAlone env state (.extend index now later)) :
    Rotating env (state.extend env index now later) := by
  have traceable := rotating.traceable.extend env index now later
  rcases extend_cases env state index now later with
    same | ⟨given, session, isFound, same | same | ⟨row, unexpired, found, same⟩⟩
  · rw [same]
    exact rotating
  · rw [same] at traceable ⊢
    apply rotating.move traceable rfl rfl rfl (Nat.le_refl _)
    · intro id
      exact pending_kept isFound rfl
    · exact rotating.sound_setExchange (Exchange.sound_finished env) index
  · rw [same] at traceable ⊢
    apply rotating.move traceable rfl rfl rfl (Nat.le_succ _)
    · intro id
      exact pending_kept isFound rfl
    · exact rotating.sound_setExchange (Exchange.sound_finished env) index
  · rw [same] at traceable ⊢
    unfold RotatesAlone ExtendsAlone at alone
    dsimp only at alone
    rw [isFound] at alone
    obtain ⟨⟨nonePending, sameHash⟩, slides⟩ := alone unexpired
    obtain ⟨secret, decoded, verifiedHash⟩ :=
      rotating.sound _ (List.mem_of_getElem? isFound)
    have member : row ∈ state.sessions.rows := List.mem_of_find?_eq_some found
    have sameId : row.id = session.id :=
      beq_iff_eq.mp (@List.find?_some _ (fun row : Session => row.id == session.id) _ _ found)
    obtain ⟨stored, storedMember, sameSession⟩ :=
      rotating.traceable.exchanges _ (List.mem_of_getElem? isFound) session rfl
    have storedEqual : stored = row :=
      row_unique _ storedMember member (sameSession.id.trans sameId.symm)
    have createdEqual : session.createdAt = row.createdAt :=
      storedEqual ▸ sameSession.createdAt.symm
    have currentHash : env.givenHash given = row.hash := by
      rw [AuthEnv.givenHash, decoded, sameHash row member sameId, verifiedHash]
    have pendingHere : (afterUpdate env state index later given session row).pending row.id =
        [⟨row.id, some given, env.tokenAt row.id state.draws⟩] := by
      rw [sameId]
      refine (pending_added isFound _ nonePending).trans ?_
      rw [← sameId]
      exact turnOf_updated given (Session.extended env _ _ _ row) _
    have pendingOther : ∀ id, id ≠ row.id →
        (afterUpdate env state index later given session row).pending id = state.pending id := by
      intro id other
      apply pending_kept isFound
      exact turnOf_other other
    refine ⟨traceable, ?_, ?_, ?_, rotating.given, ?_⟩
    · intro changed inside
      rcases mem_afterUpdate found inside with rfl | ⟨old, other⟩
      · obtain ⟨draws, history⟩ := rotating.histories row member
        exact ⟨_, history.advance (sameId ▸ nonePending) currentHash rfl pendingHere rfl
          (Nat.lt_succ_self _) (SameSession.extended env _ _ _ row) rfl⟩
      · obtain ⟨draws, history⟩ := rotating.histories changed old
        exact ⟨draws, history.frame rfl (pendingOther _ other) rfl (Nat.le_succ _)⟩
    · intro id
      by_cases here : id = row.id
      · rw [here, pendingHere]
        exact Nat.le_refl 1
      · rw [pendingOther id here]
        exact rotating.single id
    · apply rotating.sound_setExchange
      exact ⟨secret, decoded.trans (by rw [← sameId]; rfl)⟩
    · intro changed inside
      rcases mem_afterUpdate found inside with rfl | ⟨old, -⟩
      · show sessionExpiresAt env session.createdAt later ≤ _
        simp [Session.extended, sessionExpiresAt_le_iff, createdEqual.symm, slides]
      · exact rotating.bounded changed old

theorem issue (rotating : Rotating env state) (index : Nat) (now : Date) :
    Rotating env (state.issue env index now) := by
  have traceable := rotating.traceable.issue env index now
  rcases issue_cases env state index now with
    same | ⟨given, session, secret, isUpdated, outcome⟩
  · rw [same]
    exact rotating
  have inside := List.mem_of_getElem? isUpdated
  obtain ⟨row, member, sameSession⟩ := rotating.traceable.exchanges _ inside session rfl
  obtain ⟨wasPending, isAnswered⟩ := @pending_removed state index _ isUpdated .finished _ _
    (turnOf_updated given session secret) (rotating.single session.id) rfl
  have pendingOther : ∀ id, id ≠ session.id →
      (state.setExchange index .finished).pending id = state.pending id := by
    intro id other
    apply pending_kept isUpdated
    exact (turnOf_other other).symm
  have single : ∀ id, ((state.setExchange index .finished).pending id).length ≤ 1 := by
    intro id
    by_cases here : id = session.id
    · rw [here, isAnswered]
      exact Nat.zero_le 1
    · rw [pendingOther id here]
      exact rotating.single id
  have finished := rotating.sound_setExchange (Exchange.sound_finished env) index
  have issuableIff := accessTokenForSession_isOk env state.users (SameSession.refl session)
    state.draws now
  rw [← issuable_congr env state.users sameSession] at issuableIff
  rcases outcome with ⟨error, failed, same⟩ | ⟨token, made, same⟩
  · rw [same] at traceable ⊢
    rw [failed] at issuableIff
    refine ⟨traceable, ?_, single, finished, rotating.given, rotating.bounded⟩
    intro other otherMember
    obtain ⟨draws, history⟩ := rotating.histories other otherMember
    refine ⟨draws, ?_⟩
    by_cases here : other.id = session.id
    · have otherEqual : other = row :=
        row_unique _ otherMember member (here.trans sameSession.id.symm)
      exact history.failed (here ▸ isAnswered) rfl (otherEqual ▸ issuableIff.symm) rfl
        (Nat.le_succ _)
    · exact history.frame rfl (pendingOther _ here) rfl (Nat.le_succ _)
  · rw [same] at traceable ⊢
    rw [made] at issuableIff
    refine ⟨traceable, ?_, single, finished, ?_, rotating.bounded⟩
    · intro other otherMember
      obtain ⟨draws, history⟩ := rotating.histories other otherMember
      refine ⟨draws, ?_⟩
      by_cases here : other.id = session.id
      · have otherEqual : other = row :=
          row_unique _ otherMember member (here.trans sameSession.id.symm)
        refine history.answer (here ▸ wasPending) (here ▸ isAnswered) ?_
          (otherEqual ▸ issuableIff.symm) rfl (Nat.le_succ _)
        rw [here]
        exact returned_append_same ⟨session.id, some given, _, token⟩ rfl
      · refine history.frame ?_ (pendingOther _ here) rfl (Nat.le_succ _)
        exact returned_append_other ⟨session.id, some given, _, token⟩ rfl here
    · intro tokens isIssued other isGiven
      rcases List.mem_append.mp isIssued with old | new
      · exact rotating.given tokens old other isGiven
      · rw [List.mem_singleton.mp new] at isGiven ⊢
        cases isGiven
        exact rotating.sound _ inside

theorem insertSession (rotating : Rotating env state) {session : Session}
    {accessToken : Except ApiError SignedJWT}
    (made : accessToken.isOk = issuable env state.users session)
    (current : session.hash = env.hashAt state.draws)
    (bounded : session.expiresAt ≤
      Date.addMs session.createdAt AuthDuration.sessionAbsolute.milliseconds)
    (traceable : Traceable (state.insertSession env session accessToken)) :
    Rotating env (state.insertSession env session accessToken) := by
  have grown : state.draws ≤ state.draws + 3 := Nat.le_add_right _ 3
  rcases insertSession_cases env state session accessToken with
    same | ⟨sessions, inserted, outcome⟩
  · rw [same] at traceable ⊢
    exact rotating.move traceable rfl rfl rfl grown (fun _ => rfl) rotating.sound
  have others : ∀ row ∈ state.sessions.rows, row.id ≠ session.id := by
    intro row member
    exact beq_eq_false_iff_ne.mp (Table.insert_fresh inserted row member)
  obtain ⟨noReturned, noPending⟩ := noTurns_of_absent rotating.traceable others
  have rowsBounded : ∀ row ∈ sessions.rows,
      row.expiresAt ≤ Date.addMs row.createdAt AuthDuration.sessionAbsolute.milliseconds := by
    intro row member
    rcases (Table.mem_insert inserted).mp member with old | rfl
    · exact rotating.bounded row old
    · exact bounded
  have drawn : state.draws < state.draws + 3 := Nat.lt_add_of_pos_right (by decide)
  rcases outcome with ⟨error, notMade, same⟩ | ⟨token, isMade, same⟩
  · rw [same] at traceable ⊢
    refine ⟨traceable, ?_, rotating.single, rotating.sound, rotating.given, rowsBounded⟩
    intro row member
    rcases (Table.mem_insert inserted).mp member with old | rfl
    · obtain ⟨draws, history⟩ := rotating.histories row old
      exact ⟨draws, history.frame rfl rfl rfl grown⟩
    · refine ⟨_, History.created drawn current noPending ?_⟩
      rw [notMade] at made
      rw [← made]
      exact noReturned
  · rw [same] at traceable ⊢
    refine ⟨traceable, ?_, rotating.single, rotating.sound, ?_, rowsBounded⟩
    · intro row member
      rcases (Table.mem_insert inserted).mp member with old | rfl
      · obtain ⟨draws, history⟩ := rotating.histories row old
        refine ⟨draws, history.frame ?_ rfl rfl grown⟩
        exact returned_append_other ⟨session.id, none, _, token⟩ rfl (others row old)
      · refine ⟨_, History.created drawn current noPending ?_⟩
        rw [isMade] at made
        rw [← made]
        refine (returned_append_same ⟨row.id, none, _, token⟩ rfl).trans ?_
        rw [noReturned]
        rfl
    · intro tokens isIssued other isGiven
      rcases List.mem_append.mp isIssued with old | new
      · exact rotating.given tokens old other isGiven
      · grind

theorem step (rotating : Rotating env state) {input : AuthInput}
    (alone : RotatesAlone env state input) : Rotating env (authStep env state input) := by
  have traceable := rotating.traceable.step env input
  cases input with
  | createUserSession userId now later =>
      apply rotating.insertSession _ rfl ((sessionExpiresAt_le_iff env now later).mpr alone)
        traceable
      exact accessTokenForSession_isOk env state.users
        (SameSession.refl (state.newSession env userId .user none now later)) _ later
  | createAppUserSession params now later =>
      apply rotating.insertSession _ rfl ((sessionExpiresAt_le_iff env now later).mpr alone)
        traceable
      obtain ⟨isApp, sameClaims⟩ := detailClaims_typeDetailsOf params
      rw [createAppUserToken_isOk]
      have given : accessTokenForSession env state.users
          (state.newSession env params.userId .appUser (some (typeDetailsOf params))
              now later) 0 0 =
            createAppUserToken env
              (state.newSession env params.userId .appUser (some (typeDetailsOf params)) now later)
              (detailClaims (typeDetailsOf params) params.appIdentifier) none 0 0 := by
        unfold accessTokenForSession
        exact createAppUserAccessTokenForSession_of_app env rfl isApp 0 0
      rw [issuable, given, createAppUserToken_isOk, sameClaims]
  | present refreshToken now => exact rotating.present refreshToken now
  | findUser index => exact rotating.findUser index
  | extend index now later => exact rotating.extend alone
  | issue index now => exact rotating.issue index now

end Rotating

theorem rotating_run (env : AuthEnv) (users : List String) {inputs : List AuthInput}
    (alone : AlongRun (authStep env) (RotatesAlone env) (.withUsers users) inputs) :
    Rotating env (run (authStep env) (.withUsers users) inputs) :=
  run_invariant_of_alongRun (fun _ _ rotating here => rotating.step here)
    (rotating_withUsers env users) alone

/-! ### What the histories say -/

section Safety

variable {env : AuthEnv} {state : AuthState}

theorem History.dropLast_nodup {row : Session} {draws : List Nat}
    (history : History env state row draws) (fresh : Fresh env state.draws) :
    (draws.dropLast.map env.hashAt).Nodup := by
  have inDraws : ∀ draw ∈ draws.dropLast, draw < state.draws :=
    fun draw member => history.drawn draw ((List.dropLast_sublist draws).subset member)
  have distinct : draws.Nodup := history.ordered.imp fun before => Nat.ne_of_lt before
  apply List.Nodup.map_on
  · intro first firstMember second secondMember same
    exact fresh first (inDraws first firstMember) second (inDraws second secondMember) same
  · exact distinct.sublist (List.dropLast_sublist draws)

theorem Rotating.once (rotating : Rotating env state) (fresh : Fresh env state.draws) :
    state.issued.Pairwise fun earlier later => ∀ first second,
      earlier.given = some first → later.given = some second →
        HashedTokenHelper.decodeRefreshToken first ≠
          HashedTokenHelper.decodeRefreshToken second := by
  rw [List.pairwise_iff_forall_sublist]
  intro earlier later both first second isFirst isSecond same
  have earlierMember : earlier ∈ state.issued := both.subset (by simp)
  have laterMember : later ∈ state.issued := both.subset (by simp)
  obtain ⟨secret, decoded⟩ := rotating.given earlier earlierMember first isFirst
  obtain ⟨secret', decoded'⟩ := rotating.given later laterMember second isSecond
  have sameSession : later.sessionId = earlier.sessionId := by
    rw [same, decoded'] at decoded
    exact (Prod.mk.inj (Except.ok.inj decoded)).1
  obtain ⟨row, member, sameId, -⟩ := rotating.traceable.issued earlier earlierMember
  obtain ⟨draws, history⟩ := rotating.histories row member
  have turnsBoth : [earlier.turn, later.turn].Sublist (state.turns row.id) := by
    refine List.Sublist.trans ?_ (List.sublist_append_left _ _)
    have selected := (both.map Issued.turn).filter fun turn => turn.sessionId == row.id
    unfold returned
    simpa [Issued.turn, sameId, sameSession] using selected
  have hashesBoth : [env.givenHash first, env.givenHash second].Sublist
      (draws.dropLast.map env.hashAt) := by
    refine List.Sublist.trans ?_ history.exchanged
    have presented := (turnsBoth.filterMap Turn.given).map env.givenHash
    simpa [Issued.turn, List.filterMap_cons, isFirst, isSecond] using presented
  have apart := (history.dropLast_nodup fresh).sublist hashesBoth
  have sameHash : env.givenHash first = env.givenHash second := by
    unfold AuthEnv.givenHash
    rw [same]
  rw [sameHash] at apart
  simp at apart

theorem pending_of_finished (finished : ∀ exchange ∈ state.exchanges, exchange = .finished)
    (id : String) : state.pending id = [] := by
  apply List.filter_eq_nil_iff.mpr
  intro turn member
  obtain ⟨exchange, inside, isTurn⟩ := List.mem_filterMap.mp member
  rw [finished exchange inside] at isTurn
  cases isTurn

theorem decode_tokenAt (env : AuthEnv) (row : Session) (draw : Nat) :
    HashedTokenHelper.decodeRefreshToken (env.tokenAt row.id draw) =
      .ok (row.id, env.randomBytes draw) :=
  HashedTokenHelper.decode_encode row.isUuid (env.randomBytes_ne_nil draw)

theorem Rotating.lastAccepted (rotating : Rotating env state) (fresh : Fresh env state.draws)
    (finished : ∀ exchange ∈ state.exchanges, exchange = .finished) {row : Session}
    (member : row ∈ state.sessions.rows) {turn : Turn} (isReturned : turn ∈ state.returned row.id)
    {now : Date} (unexpired : now ≤ row.expiresAt) :
    state.verifySessionWithRefreshToken env turn.refreshToken now = .ok row ↔
      ((state.returned row.id).getLast?).map Turn.refreshToken = some turn.refreshToken := by
  obtain ⟨draws, history⟩ := rotating.histories row member
  have turnsAre : state.turns row.id = state.returned row.id := by
    rw [turns, pending_of_finished finished, List.append_nil]
  have tokensAre : (state.returned row.id).map Turn.refreshToken =
      draws.map (env.tokenAt row.id) := by
    grind [history.answered]
  obtain ⟨last, isLast, lastHash⟩ := Option.map_eq_some_iff.mp history.current
  have lastMember : last ∈ draws := List.mem_of_getLast? isLast
  have lastToken : ((state.returned row.id).getLast?).map Turn.refreshToken =
      some (env.tokenAt row.id last) := by
    grind
  obtain ⟨draw, drawMember, isToken⟩ : ∃ draw ∈ draws, env.tokenAt row.id draw =
      turn.refreshToken := by
    grind [List.mem_map_of_mem]
  rw [lastToken, ← isToken]
  constructor
  · intro verified
    obtain ⟨-, secret, decoded, sameHash⟩ := verify_ok verified
    rw [decode_tokenAt] at decoded
    cases decoded
    have isCurrent : draw = last :=
      fresh draw (history.drawn draw drawMember) last (history.drawn last lastMember)
        (sameHash.symm.trans lastHash.symm)
    rw [isCurrent]
  · intro same
    apply verify_of_row member (decode_tokenAt env row draw) _ unexpired
    have decodedSame := congrArg HashedTokenHelper.decodeRefreshToken (Option.some.inj same)
    rw [decode_tokenAt, decode_tokenAt] at decodedSame
    rw [← (Prod.mk.inj (Except.ok.inj decodedSame)).2]
    exact lastHash.symm

theorem Rotating.safe (rotating : Rotating env state) (fresh : Fresh env state.draws) :
    RotationSafe env state := by
  refine ⟨rotating.once fresh, ?_, rotating.bounded⟩
  intro finished row member turn isReturned now unexpired
  exact rotating.lastAccepted fresh finished member isReturned unexpired

end Safety

/-- Rotation is safe in every run whose updates find the row that was verified, and whose sessions
are extended within their lifetime. -/
theorem rotation_safe (env : AuthEnv) (users : List String) (inputs : List AuthInput)
    (alone : AlongRun (authStep env) (RotatesAlone env) (.withUsers users) inputs)
    (fresh : Fresh env (run (authStep env) (.withUsers users) inputs).draws) :
    RotationSafe env (run (authStep env) (.withUsers users) inputs) :=
  (rotating_run env users alone).safe fresh

/-! ### Two exchanges of one token, and one of a late day of the month -/

def sampleUuid (digit : Nat) : String :=
  String.ofList ("0000000".toList ++ "0123456789abcdef".toList.getD digit '0' ::
    "-0000-4000-8000-000000000000".toList)

theorem sampleUuid_isGuid (draw : Nat) : isGuid (sampleUuid (draw % 16)) = true := by
  have all : (List.range 16).all (fun digit => isGuid (sampleUuid digit)) = true := by
    decide +kernel
  exact List.all_eq_true.mp all _ (List.mem_range.mpr (Nat.mod_lt _ (by decide)))

/-- Distinct draws for a while, and the calendar of a server in UTC. -/
def sampleAuthEnv : AuthEnv where
  randomUUID draw := sampleUuid (draw % 16)
  randomUUID_isGuid := sampleUuid_isGuid
  randomBytes draw := UInt8.ofNat draw :: List.replicate 31 0
  randomBytes_length _ := rfl
  sha512 bytes := String.ofList (bytes.map fun byte => Char.ofNat byte.toNat)
  getDate date := (Date.civilOfDays (date / 86400000)).2.2
  platformHost := "localhost"

def afterInputs (inputs : List AuthInput) : AuthState :=
  run (authStep sampleAuthEnv) (.withUsers ["u1"]) inputs

def sampleToken (draw : Nat) : String := sampleAuthEnv.tokenAt (sampleUuid 1) draw

def dayOf1970 (day : Int) : Date := day * 86400000

/-- One token is presented twice before either exchange updates the session. -/
def replayInputs : List AuthInput :=
  [.createUserSession "u1" 0 0, .present (sampleToken 0) 0, .present (sampleToken 0) 0,
    .findUser 0, .findUser 1, .extend 0 0 0, .extend 1 0 0, .issue 0 0, .issue 1 0]

/-- A session of January 1 is extended on January 15 and 19, the second time to February 3. -/
def lateInputs : List AuthInput :=
  [.createUserSession "u1" 0 0, .present (sampleToken 0) (dayOf1970 14), .findUser 0,
    .extend 0 (dayOf1970 14) (dayOf1970 14), .issue 0 (dayOf1970 14),
    .present (sampleToken 3) (dayOf1970 18), .findUser 1,
    .extend 1 (dayOf1970 18) (dayOf1970 18), .issue 1 (dayOf1970 18)]

instance (env : AuthEnv) (draws : Nat) : Decidable (Fresh env draws) :=
  inferInstanceAs (Decidable (∀ first < draws, ∀ second < draws, _ → _))

theorem rotation_unsafe :
    (Fresh sampleAuthEnv (afterInputs replayInputs).draws ∧
      ¬ RotationSafe sampleAuthEnv (afterInputs replayInputs)) ∧
    (Fresh sampleAuthEnv (afterInputs lateInputs).draws ∧
      ¬ RotationSafe sampleAuthEnv (afterInputs lateInputs)) := by
  have replayed : Fresh sampleAuthEnv (afterInputs replayInputs).draws ∧
      (afterInputs replayInputs).issued.map Issued.given =
        [none, some (sampleToken 0), some (sampleToken 0)] := by decide +kernel
  have late : Fresh sampleAuthEnv (afterInputs lateInputs).draws ∧
      ¬ ∀ row ∈ (afterInputs lateInputs).sessions.rows, (row.expiresAt : Int) ≤
        Date.addMs row.createdAt AuthDuration.sessionAbsolute.milliseconds := by decide +kernel
  refine ⟨⟨replayed.1, ?_⟩, late.1, fun safe => late.2 safe.bounded⟩
  intro safe
  have once : ((afterInputs replayInputs).issued.map Issued.given).Pairwise
      fun earlier later => ∀ first second, earlier = some first → later = some second →
        HashedTokenHelper.decodeRefreshToken first ≠
          HashedTokenHelper.decodeRefreshToken second := List.pairwise_map.mpr safe.once
  rw [replayed.2] at once
  simp at once

/-- One exchange after another. -/
def singleInputs : List AuthInput :=
  [.createUserSession "u1" 0 0, .present (sampleToken 0) 0, .findUser 0, .extend 0 0 0, .issue 0 0,
    .present (sampleToken 3) (dayOf1970 1), .findUser 1, .extend 1 (dayOf1970 1) (dayOf1970 1),
    .issue 1 (dayOf1970 1)]

theorem rotation_safe_single : RotationSafe sampleAuthEnv (afterInputs singleInputs) := by
  have premises : AlongRun (authStep sampleAuthEnv) (RotatesAlone sampleAuthEnv)
      (.withUsers ["u1"]) singleInputs ∧
        Fresh sampleAuthEnv (afterInputs singleInputs).draws := by decide +kernel
  exact rotation_safe sampleAuthEnv ["u1"] singleInputs premises.1 premises.2

end Lombok.Auth
