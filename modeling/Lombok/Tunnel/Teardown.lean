import Lombok.Tunnel.PendingRequests

/-!
Contract: teardown of a session is final.

Owns what a session does that has entered the closing state: which inputs make
it active again or let it take a request, and what happens to the requests that
are pending.
-/

namespace Lombok.Tunnel

open Lombok.Core
open Lombok.Library

namespace SessionHandler

variable {handler : SessionHandler}

/-- While the session is closing, the agent does not say that it is ready, no exec of a terminal
has been started, and no request comes that the session takes. -/
def Quiet (handler : SessionHandler) (input : HandlerInput) : Prop :=
  handler.status = .closing → handler.admits input = false ∧ handler.becomesActive input = false

instance (handler : SessionHandler) (input : HandlerInput) : Decidable (handler.Quiet input) :=
  inferInstanceAs (Decidable (_ → _))

theorem proceeds_closing (registered : Registered handler) (unread : String → Nat → Nat)
    {input : HandlerInput} (closing : handler.status = .closing) (quiet : handler.Quiet input) :
    Proceeds False handler (handlerStep unread handler input) := by
  obtain ⟨admitsNone, staysClosing⟩ := quiet closing
  grind [registered.step]

theorem closing_of_proceeds {before after : SessionHandler} (proceeds : Proceeds False before after)
    (closing : before.status = .closing) : after.status = .closing := by
  grind [proceeds.status]

/-- A session that is closing takes nothing and stays closing. -/
theorem proceeds_run (unread : String → Nat → Nat) {start : SessionHandler}
    (registered : Registered start) (closing : start.status = .closing) {inputs : List HandlerInput}
    (quiet : AlongRun (handlerStep unread) Quiet start inputs) :
    Proceeds False start (run (handlerStep unread) start inputs) := by
  induction inputs generalizing start with
  | nil => exact Proceeds.refl start
  | cons input rest inductionHypothesis =>
      have here := proceeds_closing registered unread closing quiet.1
      exact here.trans (inductionHypothesis (registered.proceeds here)
        (closing_of_proceeds here closing) quiet.2)

/-- The timer of a request settles it if nothing else has. -/
theorem timeout_settles (handler : SessionHandler) {streamId : String}
    (known : handler.requestOf streamId < handler.requests.length) :
    ((handler.timeout streamId).outcome streamId).isSome = true := by
  rw [SessionHandler.timeout, List.getElem?_eq_getElem known]
  dsimp only
  split
  · grind [outcome, outcomeAt]
  · have fails (reason : String) :
      ((handler.fail streamId reason).outcome streamId).isSome = true :=
      @Proceeds.outcome_settle (handler.removePending streamId reason) streamId _ known
    obtain ⟨outcome, isOutcome⟩ := Option.isSome_iff_exists.mp (fails _)
    rw [(@Proceeds.releasePending False _ streamId).outcome isOutcome]
    rfl

end SessionHandler

open SessionHandler

theorem registered_run (unread : String → Nat → Nat) (protocol : TunnelProtocol) (max : Nat)
    (inputs : List HandlerInput) :
    Registered (run (handlerStep unread) (newSessionHandler protocol max) inputs) :=
  run_invariant (Registered.kept unread) (Registered.newSessionHandler protocol max) inputs

/-- What holds of a session that is closing, at two later points of its run. -/
structure Final (unread : String → Nat → Nat) (entered between later : SessionHandler) : Prop where
  status : later.status = .closing
  requests : later.requests.map Request.identity = entered.requests.map Request.identity
  /-- A promise that is settled stays settled as it was. -/
  once : ∀ streamId outcome, between.outcome streamId = some outcome →
    later.outcome streamId = some outcome
  /-- A session that teardown is done with has nothing pending. -/
  gone : later.session.limiter = none → ∀ streamId, later.bridge.pending streamId = none
  /-- A buffered response that was pending is settled by then. -/
  buffered : later.session.limiter = none → ∀ streamId entry,
    entered.bridge.pending streamId = some entry → entry.streaming = false →
      (later.outcome streamId).isSome = true
  /-- A streamed one that the agent ended without a head has its timer. -/
  streamed : ∀ streamId entry, entered.bridge.pending streamId = some entry →
    ((handlerStep unread later (.timeout streamId)).outcome streamId).isSome = true

/-- Once a session is closing it stays so and takes no request, and what was pending when it became
so is settled exactly once. -/
theorem teardown_final (unread : String → Nat → Nat) (protocol : TunnelProtocol) (max : Nat)
    {before middle rest : List HandlerInput}
    (quiet : AlongRun (handlerStep unread) Quiet (newSessionHandler protocol max)
      (before ++ (middle ++ rest)))
    (closing : (run (handlerStep unread) (newSessionHandler protocol max) before).status =
      .closing) :
    Final unread (run (handlerStep unread) (newSessionHandler protocol max) before)
      (run (handlerStep unread) (newSessionHandler protocol max) (before ++ middle))
      (run (handlerStep unread) (newSessionHandler protocol max) (before ++ (middle ++ rest))) := by
  have registered := registered_run unread protocol max before
  have registeredLater := registered_run unread protocol max (before ++ (middle ++ rest))
  have quietAfter := (alongRun_append.mp quiet).2
  have proceeds := proceeds_run unread registered closing quietAfter
  have quietMiddle := (alongRun_append.mp quietAfter).1
  have toBetween := proceeds_run unread registered closing quietMiddle
  have fromBetween := proceeds_run unread (registered.proceeds toBetween)
    (closing_of_proceeds toBetween closing) (alongRun_append.mp quietAfter).2
  rw [← run_append] at toBetween fromBetween proceeds
  rw [← run_append, List.append_assoc] at fromBetween
  constructor
  · exact closing_of_proceeds proceeds closing
  · exact proceeds.identities
  · intro streamId outcome settled
    exact fromBetween.outcome settled
  · exact registeredLater.unregistered
  · intro unregistered streamId entry pending isBuffered
    exact proceeds.left streamId entry pending (registeredLater.unregistered unregistered streamId)
      isBuffered
  · intro streamId entry pending
    apply timeout_settles
    have known := registered.known (by rw [pending]; rfl)
    have same := congrArg List.length proceeds.identities
    rw [List.length_map, List.length_map] at same
    rw [proceeds.requestOf, same]
    exact known

/-! ### Runs -/

def quietTeardown : List HandlerInput :=
  [.spawned, .agentText readyMessage, .direct "stream" "GET" "/" [] none, .teardown]

theorem quietTeardown_final :
    Final (fun _ _ => 0)
      (run (handlerStep fun _ _ => 0) (newSessionHandler .framed 4) quietTeardown)
      (run (handlerStep fun _ _ => 0) (newSessionHandler .framed 4)
        (quietTeardown ++ [.teardownWritten]))
      (run (handlerStep fun _ _ => 0) (newSessionHandler .framed 4)
        (quietTeardown ++ ([.teardownWritten] ++ [.teardownKilled]))) :=
  teardown_final (fun _ _ => 0) .framed 4 (by decide +kernel) (by decide +kernel)

/-- The agent becomes ready while the session is torn down, and a request is admitted. -/
def lateReady : List HandlerInput :=
  [.spawned, .teardown, .agentText readyMessage, .direct "stream" "GET" "/" [] none]

theorem lateReady_reopens :
    (run (handlerStep fun _ _ => 0) (newSessionHandler .framed 4) (lateReady.take 2)).status =
        .closing ∧
      (run (handlerStep fun _ _ => 0) (newSessionHandler .framed 4) (lateReady.take 3)).status =
        .active ∧
      (run (handlerStep fun _ _ => 0) (newSessionHandler .framed 4)
          lateReady).requests.length = 1 := by
  decide +kernel

end Lombok.Tunnel
