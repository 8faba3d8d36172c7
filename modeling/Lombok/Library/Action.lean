import Mathlib.Data.List.Forall2
import Lombok.Library.Run

/-!
Contract: operations that read and write a state, may throw, and may roll back.

An `Action` is the meaning of one service call against a store: from a state it
returns a value or throws, and it ends in a state either way. Writes made
before a throw stay, unless the call ran inside `transaction`.

Two judgements carry the proofs. `Returns` inverts a call that came back
normally, one bind at a time. `Moves relation` says that every execution of the
call, returning or throwing, moves the state along `relation`; it is closed
under every constructor as soon as the relation is reflexive and transitive, so
a frame condition on a whole service follows from its single statements.

Does not own: what the state is, or which errors exist.
-/

namespace Lombok.Library

/-- An operation on states `σ` that returns an `α` or throws an `ε`. -/
def Action (σ ε α : Type) : Type := σ → Except ε α × σ

namespace Action

variable {σ ε α β : Type}

/-! ### Constructors -/

protected def pure (value : α) : Action σ ε α := fun state => (.ok value, state)

protected def bind (first : Action σ ε α) (next : α → Action σ ε β) : Action σ ε β :=
  fun state =>
    match first state with
    | (.ok value, state') => next value state'
    | (.error error, state') => (.error error, state')

instance : Monad (Action σ ε) where
  pure := Action.pure
  bind := Action.bind

def throw (error : ε) : Action σ ε α := fun state => (.error error, state)

/-- Read a part of the state. -/
def gets (read : σ → α) : Action σ ε α := fun state => (.ok (read state), state)

def modify (change : σ → σ) : Action σ ε Unit := fun state => (.ok (), change state)

/-- Go on only when the condition holds. -/
def require (condition : Bool) (error : ε) : Action σ ε Unit :=
  if condition then Action.pure () else throw error

/-- The value of an optional lookup, or the given error. -/
def orThrow (found : Option α) (error : ε) : Action σ ε α :=
  match found with
  | some value => Action.pure value
  | none => throw error

/-- A computation that may fail but does not touch the state. -/
def ofExcept (result : Except ε α) : Action σ ε α := fun state => (result, state)

/-- Run the operation and put the old state back when it throws. -/
def transaction (operation : Action σ ε α) : Action σ ε α := fun state =>
  match operation state with
  | (.ok value, state') => (.ok value, state')
  | (.error error, _) => (.error error, state)

/-- Run the operation and let a handler answer a throw, in the state it left. -/
def tryCatch (operation : Action σ ε α) (handler : ε → Action σ ε α) : Action σ ε α :=
  fun state =>
    match operation state with
    | (.ok value, state') => (.ok value, state')
    | (.error error, state') => handler error state'

/-- Run one operation for each element, in order, and stop at the first throw. -/
def each (items : List α) (operation : α → Action σ ε Unit) : Action σ ε Unit :=
  match items with
  | [] => Action.pure ()
  | head :: tail => Action.bind (operation head) fun _ => each tail operation

/-- Like `each`, collecting the results. -/
def collect (items : List α) (operation : α → Action σ ε β) : Action σ ε (List β) :=
  match items with
  | [] => Action.pure []
  | head :: tail =>
      Action.bind (operation head) fun first =>
        Action.bind (collect tail operation) fun rest => Action.pure (first :: rest)

/-! ### Calls that return normally -/

/-- The call started in `before` returns `value` and ends in `after`. -/
def Returns (operation : Action σ ε α) (before : σ) (value : α) (after : σ) : Prop :=
  operation before = (.ok value, after)

variable {before after : σ} {result : α} {error : ε} {next : α → Action σ ε β}
    {operation : Action σ ε α} {value : α} {relation : σ → σ → Prop} {first : Action σ ε α}
    {condition : Bool}

@[simp] theorem returns_pure :
    Returns (pure value : Action σ ε α) before result after ↔
      result = value ∧ after = before := by
  show ((Except.ok value, before) : Except ε α × σ) = (.ok result, after) ↔ _
  grind

@[simp] theorem returns_throw :
    ¬ Returns (throw error : Action σ ε α) before result after := by
  nofun

@[simp] theorem returns_gets {read : σ → α} :
    Returns (gets read : Action σ ε α) before result after ↔
      result = read before ∧ after = before := by
  show ((Except.ok (read before), before) : Except ε α × σ) = (.ok result, after) ↔ _
  grind

@[simp] theorem returns_modify {change : σ → σ} {result : Unit} :
    Returns (modify change : Action σ ε Unit) before result after ↔ after = change before := by
  show ((Except.ok (), change before) : Except ε Unit × σ) = (.ok result, after) ↔ _
  grind

/-- A sequence returns exactly when both halves do. -/
theorem returns_bind {result : β} :
    Returns (first >>= next) before result after ↔
      ∃ value middle, Returns first before value middle ∧
        Returns (next value) middle result after := by
  show Action.bind first next before = _ ↔ _
  unfold Action.bind Returns
  grind

@[simp] theorem returns_require {result : Unit} :
    Returns (require condition error : Action σ ε Unit) before result after ↔
      condition = true ∧ after = before := by
  unfold require
  cases condition
  · simp
  · show Returns (pure () : Action σ ε Unit) before result after ↔ _
    simp

@[simp] theorem returns_orThrow {found : Option α} :
    Returns (orThrow found error : Action σ ε α) before result after ↔
      found = some result ∧ after = before := by
  cases found with
  | none => simp [orThrow]
  | some value =>
      show Returns (pure value : Action σ ε α) before result after ↔ _
      rw [returns_pure, Option.some.injEq, eq_comm]

@[simp] theorem returns_ofExcept {outcome : Except ε α} :
    Returns (ofExcept outcome) before result after ↔ outcome = .ok result ∧ after = before := by
  show ((outcome, before) : Except ε α × σ) = (.ok result, after) ↔ _
  rw [Prod.mk.injEq]
  exact and_congr_right fun _ => eq_comm

/-- A sequence whose first half is a value goes on with it. -/
theorem returns_ok_bind {result : β} :
    Returns (ofExcept (.ok value) >>= next) before result after ↔
      Returns (next value) before result after :=
  Iff.rfl

theorem not_returns_error_bind {result : β} :
    ¬ Returns (ofExcept (.error error) >>= next) before result after := by
  nofun

@[simp] theorem returns_transaction :
    Returns (transaction operation) before result after ↔
      Returns operation before result after := by
  grind [Returns, transaction]

/-- A loop returns exactly when every element's turn does, each from where the one before ended. -/
theorem each_returns_iff {operation : α → Action σ ε Unit} {items : List α} {start : σ} :
    (∃ after, Returns (each items operation) start () after) ↔
      AlongRun (fun state item => (operation item state).2)
        (fun state item => ∃ after, Returns (operation item) state () after) start items := by
  induction items generalizing start with
  | nil => exact ⟨fun _ => trivial, fun _ => ⟨start, rfl⟩⟩
  | cons head tail inductionHypothesis =>
      constructor
      · rintro ⟨after, returned⟩
        obtain ⟨_, middle, first, rest⟩ := returns_bind.mp returned
        obtain rfl : (operation head start).2 = middle := congrArg Prod.snd first
        exact ⟨⟨_, first⟩, inductionHypothesis.mp ⟨after, rest⟩⟩
      · rintro ⟨⟨middle, first⟩, later⟩
        obtain rfl : (operation head start).2 = middle := congrArg Prod.snd first
        obtain ⟨after, rest⟩ := inductionHypothesis.mpr later
        exact ⟨after, returns_bind.mpr ⟨(), _, first, rest⟩⟩

theorem returns_tryCatch_pure (operation : Action σ ε Unit) (before : σ) (value : Unit) :
    ∃ after, Returns (tryCatch operation fun _ => pure value) before value after := by
  unfold Returns tryCatch
  rcases operation before with ⟨error | result, middle⟩
  · exact ⟨middle, rfl⟩
  · exact ⟨middle, rfl⟩

theorem returns_of_isOk (isOk : (operation before).1.isOk = true) :
    ∃ value after, Returns operation before value after := by
  rcases execution : operation before with ⟨error | value, after⟩
  · rw [execution] at isOk
    cases isOk
  · exact ⟨value, after, execution⟩

/-! ### Checks: outcomes without a state -/

@[simp] theorem isOk_ok (value : α) : (Except.ok value : Except ε α).isOk = true := rfl

@[simp] theorem isOk_error (error : ε) : (Except.error error : Except ε α).isOk = false := rfl

@[simp] theorem isOk_pure (value : α) : (pure value : Except ε α).isOk = true := rfl

/-- A sequence of checks returns what its second half makes of the result of the first. -/
theorem bind_eq_ok {first : Except ε α} {next : α → Except ε β} {result : β} :
    (first >>= next) = .ok result ↔ ∃ value, first = .ok value ∧ next value = .ok result := by
  cases first with
  | error error =>
      constructor
      · nofun
      · rintro ⟨value, equal, returned⟩
        cases equal
  | ok value =>
      constructor
      · intro returned
        exact ⟨value, rfl, returned⟩
      · rintro ⟨other, equal, returned⟩
        cases equal
        exact returned

/-- A sequence of checks passes when its second half does on the result of the first. -/
@[simp] theorem isOk_bind {first : Except ε α} {next : α → Except ε β} :
    (first >>= next).isOk = true ↔ ∃ value, first = .ok value ∧ (next value).isOk = true := by
  cases first with
  | error error =>
      constructor
      · nofun
      · rintro ⟨value, equal, passes⟩
        cases equal
  | ok value =>
      constructor
      · intro passes
        exact ⟨value, rfl, passes⟩
      · rintro ⟨other, equal, passes⟩
        cases equal
        exact passes

/-- A check without a result passes exactly when it returns. -/
theorem isOk_unit {check : Except ε Unit} : check.isOk = true ↔ check = .ok () := by
  cases check with
  | error error => simp
  | ok value => simp

/-- A sequence goes on from where its first half returned. -/
theorem bind_of_returns {middle : σ} (returned : Returns first before value middle) :
    (first >>= next) before = next value middle := by
  show Action.bind first next before = _
  rw [Action.bind, returned]

/-- A sequence whose first half throws ends there. -/
theorem bind_of_throws (threw : first before = (.error error, after)) :
    (first >>= next) before = (.error error, after) := by
  show Action.bind first next before = _
  rw [Action.bind, threw]

theorem require_throws (failed : condition = false) (error : ε) (state : σ) :
    (require condition error : Action σ ε Unit) state = (.error error, state) := by
  rw [failed]
  rfl

theorem require_returns (holds : condition = true) (error : ε) (state : σ) :
    Returns (require condition error : Action σ ε Unit) state () state :=
  returns_require.mpr ⟨holds, rfl⟩

/-- Discarding the result does not change what the operation does to the state. -/
theorem discard_state (operation : Action σ ε α) (value : β) (state : σ) :
    (((do let _ ← operation; pure value) : Action σ ε β) state).2 = (operation state).2 := by
  show (Action.bind operation _ state).2 = _
  unfold Action.bind
  rcases operation state with ⟨error | value, after⟩
  · rfl
  · rfl

/-- A transaction either commits a normal return or leaves the state as it was. -/
theorem transaction_cases (operation : Action σ ε α) (before : σ) :
    (∃ value after, Returns operation before value after ∧
        transaction operation before = (.ok value, after)) ∨
      ∃ error, transaction operation before = (.error error, before) := by
  unfold Returns transaction
  rcases operation before with ⟨error | value, after⟩
  · exact .inr ⟨error, rfl⟩
  · exact .inl ⟨value, after, rfl, rfl⟩

/-! ### What every execution ensures -/

/-- From this state the operation moves the state along the relation, returning or throwing,
and a value it returns satisfies the postcondition. -/
def EnsuresAt (relation : σ → σ → Prop) (post : α → Prop) (operation : Action σ ε α)
    (state : σ) : Prop :=
  relation state (operation state).2 ∧ ∀ value, (operation state).1 = .ok value → post value

def Ensures (relation : σ → σ → Prop) (post : α → Prop) (operation : Action σ ε α) : Prop :=
  ∀ state, EnsuresAt relation post operation state

def Moves (relation : σ → σ → Prop) (operation : Action σ ε α) : Prop :=
  Ensures relation (fun _ => True) operation

theorem Ensures.moves {post : α → Prop} (ensures : Ensures relation post operation) :
    Moves relation operation :=
  fun state => ⟨(ensures state).1, fun _ _ => trivial⟩

theorem Ensures.of_returns {post : α → Prop} (ensures : Ensures relation post operation)
    (returned : Returns operation before value after) : relation before after ∧ post value := by
  have moved := (ensures before).1
  have result := (ensures before).2 value
  rw [returned] at moved result
  exact ⟨moved, result rfl⟩

theorem Ensures.weaken {strong weak : α → Prop} (ensures : Ensures relation strong operation)
    (implies : ∀ value, strong value → weak value) : Ensures relation weak operation :=
  fun state => ⟨(ensures state).1, fun value returned =>
    implies value ((ensures state).2 value returned)⟩

theorem moves_modify {change : σ → σ} (moved : ∀ state, relation state (change state)) :
    Moves relation (modify change : Action σ ε Unit) :=
  fun state => ⟨moved state, fun _ _ => trivial⟩

section Preorder

variable {relation : σ → σ → Prop} [IsPreorder σ relation] {post : α → Prop}

theorem ensures_pure {value : α} (holds : post value) :
    Ensures relation post (pure value : Action σ ε α) := by
  intro state
  refine ⟨Std.Refl.refl state, ?_⟩
  intro result returned
  cases returned
  exact holds

theorem ensures_throw (error : ε) : Ensures relation post (throw error : Action σ ε α) := by
  intro state
  refine ⟨Std.Refl.refl state, ?_⟩
  nofun

theorem ensures_ofExcept {result : Except ε α} (holds : ∀ value, result = .ok value → post value) :
    Ensures relation post (ofExcept result : Action σ ε α) :=
  fun state => ⟨Std.Refl.refl state, holds⟩

theorem ensures_orThrow {found : Option α} (error : ε)
    (holds : ∀ value, found = some value → post value) :
    Ensures relation post (orThrow found error : Action σ ε α) := by
  cases found with
  | none => exact ensures_throw error
  | some value => exact ensures_pure (holds value rfl)

theorem moves_pure (value : α) : Moves relation (pure value : Action σ ε α) :=
  ensures_pure trivial

theorem moves_gets (read : σ → α) : Moves relation (gets read : Action σ ε α) :=
  fun state => ⟨Std.Refl.refl state, fun _ _ => trivial⟩

theorem moves_ofExcept (result : Except ε α) :
    Moves relation (ofExcept result : Action σ ε α) :=
  ensures_ofExcept fun _ _ => trivial

theorem moves_orThrow (found : Option α) (error : ε) :
    Moves relation (orThrow found error : Action σ ε α) :=
  ensures_orThrow error fun _ _ => trivial

theorem moves_require (condition : Bool) (error : ε) :
    Moves relation (require condition error : Action σ ε Unit) := by
  cases condition
  · exact ensures_throw error
  · exact moves_pure ()

variable {last : β → Prop} {first : Action σ ε α} {next : α → Action σ ε β}

/-- The rule for a sequence, at one state: the second half starts where the first one ended. -/
theorem EnsuresAt.bind {middle : α → Prop} {state : σ}
    (firstEnsures : EnsuresAt relation middle first state)
    (nextEnsures : ∀ value, (first state).1 = .ok value → middle value →
      EnsuresAt relation last (next value) (first state).2) :
    EnsuresAt relation last (first >>= next) state := by
  show EnsuresAt relation last (Action.bind first next) state
  unfold EnsuresAt Action.bind at *
  rcases execution : first state with ⟨error | value, reached⟩
  · grind
  · rw [execution] at firstEnsures nextEnsures
    have continued := nextEnsures value rfl (firstEnsures.2 value rfl)
    exact ⟨IsTrans.trans _ _ _ firstEnsures.1 continued.1, continued.2⟩

theorem Ensures.bind {middle : α → Prop} (firstEnsures : Ensures relation middle first)
    (nextEnsures : ∀ value, middle value → Ensures relation last (next value)) :
    Ensures relation last (first >>= next) :=
  fun state => EnsuresAt.bind (firstEnsures state) fun value _ holds =>
    nextEnsures value holds _

theorem Moves.bind (firstMoves : Moves relation first)
    (nextEnsures : ∀ value, Ensures relation last (next value)) :
    Ensures relation last (first >>= next) :=
  Ensures.bind firstMoves fun value _ => nextEnsures value

theorem Ensures.transaction {operation : Action σ ε α}
    (ensures : Ensures relation post operation) :
    Ensures relation post (Action.transaction operation) := by
  intro state
  have moved := ensures state
  unfold EnsuresAt Action.transaction at *
  rcases execution : operation state with ⟨error | value, reached⟩
  · refine ⟨Std.Refl.refl state, ?_⟩
    nofun
  · rw [execution] at moved
    exact moved

theorem Ensures.tryCatch {operation : Action σ ε α} {handler : ε → Action σ ε α}
    (ensures : Ensures relation post operation)
    (handlerEnsures : ∀ error, Ensures relation post (handler error)) :
    Ensures relation post (Action.tryCatch operation handler) := by
  intro state
  have moved := ensures state
  unfold EnsuresAt Action.tryCatch at *
  rcases execution : operation state with ⟨error | value, reached⟩
  · rw [execution] at moved
    have handled := handlerEnsures error reached
    exact ⟨IsTrans.trans _ _ _ moved.1 handled.1, handled.2⟩
  · rw [execution] at moved
    exact moved

theorem Moves.each {operation : α → Action σ ε Unit} (items : List α)
    (moves : ∀ item ∈ items, Moves relation (operation item)) :
    Moves relation (Action.each items operation) := by
  induction items with
  | nil => exact moves_pure ()
  | cons head tail inductionHypothesis =>
      have headMoves := moves head (by simp)
      have tailMoves := inductionHypothesis fun item member =>
        moves item (List.mem_cons_of_mem _ member)
      exact Moves.bind headMoves fun _ => tailMoves

/-- Inside a loop that returned, every element had its turn: the loop reached it, and went on. -/
theorem returns_each_mem {operation : α → Action σ ε Unit} {items : List α} {before after : σ}
    (returned : Returns (Action.each items operation) before () after)
    (moves : ∀ item ∈ items, Moves relation (operation item)) {item : α} (member : item ∈ items) :
    ∃ reached left, relation before reached ∧ Returns (operation item) reached () left ∧
      relation left after := by
  induction items generalizing before with
  | nil => cases member
  | cons head tail inductionHypothesis =>
      obtain ⟨_, middle, first, rest⟩ := returns_bind.mp returned
      have tailMoves := fun item member => moves item (List.mem_cons_of_mem head member)
      rcases List.mem_cons.mp member with rfl | later
      · exact ⟨before, middle, Std.Refl.refl before, first,
          ((Moves.each tail tailMoves).of_returns rest).1⟩
      · obtain ⟨reached, left, toReached, execution, onward⟩ :=
          inductionHypothesis rest tailMoves later
        have headMoved := ((moves head (List.mem_cons_self ..)).of_returns first).1
        exact ⟨reached, left, IsTrans.trans _ _ _ headMoved toReached, execution, onward⟩

theorem Ensures.collect {operation : α → Action σ ε β} {element : β → Prop} (items : List α)
    (ensures : ∀ item ∈ items, Ensures relation element (operation item)) :
    Ensures relation (fun results => ∀ result ∈ results, element result)
      (Action.collect items operation) := by
  induction items with
  | nil => exact ensures_pure (by simp)
  | cons head tail inductionHypothesis =>
      have headEnsures := ensures head (by simp)
      have tailEnsures := inductionHypothesis fun item member =>
        ensures item (List.mem_cons_of_mem _ member)
      refine Ensures.bind headEnsures fun first firstHolds => ?_
      refine Ensures.bind tailEnsures fun rest restHolds => ?_
      refine ensures_pure ?_
      grind

/-- The results of a loop that returned belong to its elements, one by one. -/
theorem returns_collect {operation : α → Action σ ε β} {items : List α} {before after : σ}
    {results : List β} (moves : ∀ item ∈ items, Moves relation (operation item))
    (returned : Returns (Action.collect items operation) before results after) :
    relation before after ∧
      List.Forall₂ (fun item result => ∃ reached left, relation before reached ∧
        Returns (operation item) reached result left) items results := by
  induction items generalizing before results with
  | nil =>
      obtain ⟨rfl, rfl⟩ := returns_pure.mp returned
      exact ⟨Std.Refl.refl _, List.Forall₂.nil⟩
  | cons head tail inductionHypothesis =>
      obtain ⟨first, middle, headReturned, rest⟩ := returns_bind.mp returned
      obtain ⟨others, last, tailReturned, wraps⟩ := returns_bind.mp rest
      obtain ⟨rfl, rfl⟩ := returns_pure.mp wraps
      have headMoved := ((moves head (List.mem_cons_self ..)).of_returns headReturned).1
      have tailMoves := fun item member => moves item (List.mem_cons_of_mem head member)
      obtain ⟨tailMoved, tailResults⟩ := inductionHypothesis tailMoves tailReturned
      refine ⟨IsTrans.trans _ _ _ headMoved tailMoved, ?_⟩
      refine List.Forall₂.cons ⟨before, middle, Std.Refl.refl _, headReturned⟩ ?_
      refine tailResults.imp fun item result => ?_
      rintro ⟨reached, left, toReached, execution⟩
      exact ⟨reached, left, IsTrans.trans _ _ _ headMoved toReached, execution⟩

end Preorder

/-! ### Lists matched element by element -/

theorem forall₂_left {matched : α → β → Prop} {items : List α} {results : List β}
    (each : List.Forall₂ matched items results) {item : α} (member : item ∈ items) :
    ∃ result ∈ results, matched item result := by
  induction each with
  | nil => cases member
  | cons head tail inductionHypothesis =>
      grind

theorem forall₂_right {matched : α → β → Prop} {items : List α} {results : List β}
    (each : List.Forall₂ matched items results) {result : β} (member : result ∈ results) :
    ∃ item ∈ items, matched item result :=
  forall₂_left each.flip member

end Action

end Lombok.Library
