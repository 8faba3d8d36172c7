import Lombok.Events.Growth

/-!
Contract: which app tasks an emitted event leaves.

The triggers an event is for are those of every enabled app (of the emitter
only, for an app's own event) and the runtime triggers for its identifier. Each
that serves, with access to the target, a declared task and no false condition,
is to have one task. The query for subscribed apps stops after a hundred, so
the config triggers of the apps behind are not looked at.

Does not own: the platform's own tasks for an event, or nested announcements.
-/

namespace Lombok.Events

open Lombok.Core Lombok.Library Lombok.Library.Action Lombok.Tasks Lombok.Apps

/-! ### The triggers an event is for -/

/-- The enabled apps whose config triggers the event is for. -/
def audience (args : EmitEventArgs) (app : Option App) (db : Database) : List App :=
  if args.isCoreEmitter then db.apps.view (·.enabled) else app.toList

def matchingTriggers (args : EmitEventArgs) (app : Option App) (db : Database) :
    List TriggerCandidate :=
  (audience args app db).flatMap (configTriggers (eventTriggerIdentifier args)) ++
    runtimeTriggers args app db

/-- The apps the query for a core event leaves out. -/
def cutOffApps (args : EmitEventArgs) (db : Database) : List App :=
  if args.isCoreEmitter then
    (db.apps.view fun app =>
      app.subscribedCoreEvents.contains (eventTriggerIdentifier args) && app.enabled).drop 100
  else
    []

def hasAccess (args : EmitEventArgs) (appIdentifier : String) (db : Database) : Bool :=
  match checkAppAccess args appIdentifier db with
  | .ok admitted => admitted
  | .error _ => false

/-- The trigger is to have a task for the event: its app has access, declares the task, and the
condition is absent or true. -/
def serves (env : Env) (args : EmitEventArgs) (event : Event) (db : Database)
    (candidate : TriggerCandidate) : Bool :=
  hasAccess args candidate.subscribedApp.identifier db &&
    candidate.subscribedApp.config.tasks.any (fun task =>
      task.identifier == candidate.trigger.taskIdentifier) &&
    (setCondition candidate.trigger.condition).all fun condition =>
      env.evalCondition condition (.obj [("event", event.toJson)])

/-- The task was built for the trigger and the event. -/
structure TaskFor (event : Event) (candidate : TriggerCandidate) (task : Task) : Prop where
  owner : task.ownerId = candidate.subscribedApp.identifier
  identifier : task.taskIdentifier = candidate.trigger.taskIdentifier
  context : task.invocation.context =
    .event (buildEventInvocation event candidate.triggerRef candidate.trigger.triggerKey)

def isAppTaskOf (eventId : String) (task : Task) : Bool :=
  task.ownerId != coreIdentifier &&
    match task.invocation.context with
    | .event context => context.eventId == eventId
    | _ => false

/-! ### One trigger -/

section Candidate

variable {env : Env} {emit : EmitEventArgs → Service Unit} {args : EmitEventArgs} {event : Event}
  {now : Date} {candidate : TriggerCandidate}

/-- What one trigger comes to. -/
def CandidateTasks (env : Env) (args : EmitEventArgs) (event : Event) (db : Database)
    (candidate : TriggerCandidate) (tasks : List Task) : Prop :=
  (serves env args event db candidate = false ∧ tasks = []) ∨
    (serves env args event db candidate = true ∧
      ∃ task, tasks = [task] ∧ TaskFor event candidate task)

theorem buildEventTriggeredTask_returns {before after : World} {tasks : List Task}
    (access : hasAccess args candidate.subscribedApp.identifier before.db = true)
    (returned : Returns (buildEventTriggeredTask env emit args event now candidate.subscribedApp
      candidate.trigger candidate.triggerRef) before tasks after) :
    CandidateTasks env args event before.db candidate tasks := by
  unfold buildEventTriggeredTask at returned
  split at returned
  · rename_i undeclared
    have noTask : candidate.subscribedApp.config.tasks.any (fun task =>
        task.identifier == candidate.trigger.taskIdentifier) = false := by
      grind
    exact .inl ⟨by simp [serves, noTask], (returns_pure.mp returned).1⟩
  · rename_i taskDefinition declared
    have isTask : candidate.subscribedApp.config.tasks.any (fun task =>
        task.identifier == candidate.trigger.taskIdentifier) = true :=
      List.any_eq_true.mpr ⟨taskDefinition, List.mem_of_find?_eq_some declared,
        @List.find?_some _ (fun task : AppTaskConfig =>
          task.identifier == candidate.trigger.taskIdentifier) _ _ declared⟩
    have identifier : taskDefinition.identifier = candidate.trigger.taskIdentifier := by
      grind
    have conditionHolds : ∀ value, (setCondition candidate.trigger.condition).any (fun condition =>
          !env.evalCondition condition (.obj [("event", event.toJson)])) = !value →
        serves env args event before.db candidate = value := by
      intro value skipped
      unfold serves
      rw [access, isTask, Bool.true_and, Bool.true_and]
      cases isSet : setCondition candidate.trigger.condition with
      | none =>
          grind
      | some condition =>
          rw [isSet] at skipped
          simpa using skipped
    split at returned
    · rename_i skipped
      exact .inl ⟨conditionHolds false skipped, (returns_pure.mp returned).1⟩
    · rename_i goesOn
      apply Or.inr
      apply And.intro (conditionHolds true (by simpa using goesOn))
      simp only [returns_bind, returns_pure, returns_ofExcept, Service.returns_now,
        Service.returns_query, Service.returns_randomUUID] at returned
      obtain ⟨id, _, ⟨rfl, rfl⟩, db, _, ⟨rfl, rfl⟩, data, _, ⟨_, rfl⟩, loggedAt, _, ⟨rfl, rfl⟩,
        task, keyed, keys, _, announced, announces, rfl, rfl⟩ := returned
      have sameTask : ∃ key, task = _ ∧ KindFirst task :=
        ((ensures_withTaskIdempotencyKey env _ : Ensures SameDb _ _).of_returns keys).2
      obtain ⟨key, rfl, _⟩ := sameTask
      exact ⟨_, rfl, rfl, identifier, rfl⟩

theorem buildCandidateTask_returns {before after : World} {tasks : List Task}
    (returned : Returns (buildCandidateTask env emit args event now candidate) before tasks after) :
    CandidateTasks env args event before.db candidate tasks := by
  simp only [buildCandidateTask, returns_bind, Service.returns_check] at returned
  obtain ⟨admitted, before, ⟨checked, rfl⟩, built⟩ := returned
  have access : hasAccess args candidate.subscribedApp.identifier before.db = admitted := by
    unfold hasAccess
    rw [checked]
  cases admitted with
  | false =>
      apply Or.inl
      exact ⟨by simp [serves, access], (returns_pure.mp built).1⟩
  | true => exact buildEventTriggeredTask_returns access built

/-- What a trigger is to have does not depend on the task and event rows. -/
theorem serves_sameRest {before after : Database}
    (rest : { after with tasks := before.tasks, events := before.events } = before) :
    serves env args event after candidate = serves env args event before candidate := by
  rw [← rest]
  rfl

end Candidate

/-! ### Nested announcements -/

def OtherEvents (eventId : String) (before after : World) : Prop :=
  (∃ event ∈ before.db.events.rows, event.id = eventId) →
    Grows (fun task => isAppTaskOf eventId task = false) (fun _ => True) before after

section OtherEvents

variable {eventId : String}

theorem storesEvent_of_grows {newTask : Task → Prop} {newEvent : Event → Prop}
    {before after : World}
    (grows : Grows newTask newEvent before after)
    (stored : ∃ event ∈ before.db.events.rows, event.id = eventId) :
    ∃ event ∈ after.db.events.rows, event.id = eventId := by
  grind [grows.events]

instance : DatabaseRelation (OtherEvents eventId) where
  refl _ _ := Grows.of_same_db rfl
  trans _ _ _ first second stored :=
    (first stored).trans (second (storesEvent_of_grows (first stored) stored))
  of_same_db same _ := Grows.of_same_db same

theorem moves_otherEvents {α : Type} {operation : Service α}
    (moves : Moves (Grows (fun task => isAppTaskOf eventId task = false) fun _ => True) operation) :
    Moves (OtherEvents eventId) operation :=
  fun world => ⟨fun _ => (moves world).1, fun _ _ => trivial⟩

/-- An event that is stored under the identifier keeps another from being stored. -/
theorem insertEvent_otherEvents {α : Type} (event : Event) {next : Unit → Service α}
    (moves : event.id ≠ eventId → ∀ value, Moves (OtherEvents eventId) (next value)) :
    Moves (OtherEvents eventId) (Service.insertEvent event >>= next) := by
  by_cases same : event.id = eventId
  · intro world
    apply And.intro _ (fun _ _ => trivial)
    rintro ⟨other, member, otherId⟩
    have clashes : Event.clash other event = true := by
      simp [Event.clash, otherId, same]
    rcases Service.insertEvent_cases event world with ⟨_, _, fresh, _⟩ | ⟨error, threw⟩
    · rw [fresh other member] at clashes
      cases clashes
    · rw [bind_of_throws threw]
      exact Grows.of_same_db rfl
  · exact Moves.bind (moves_otherEvents (Service.moves_insertEvent trivial)) (moves same)

theorem isAppTaskOf_coreRow {task : Task} (row : IsCoreRow task) :
    isAppTaskOf eventId task = false := by
  simp [isAppTaskOf, row.ownerId]

theorem TaskFor.isAppTaskOf_eq {event : Event} {candidate : TriggerCandidate} {task : Task}
    (taskFor : TaskFor event candidate task) :
    isAppTaskOf eventId task = (event.id == eventId) := by
  have isApp : (task.ownerId != coreIdentifier) = true := by
    rw [taskFor.owner, bne_iff_ne]
    exact candidate.subscribedApp.notCore
  unfold isAppTaskOf
  rw [isApp, taskFor.context]
  rfl

theorem ensures_candidateTasks (env : Env) {emit : EmitEventArgs → Service Unit}
    (nestedMoves : ∀ nested, IsEnqueuedEvent nested → Moves (OtherEvents eventId) (emit nested))
    (args : EmitEventArgs) (event : Event) (now : Date) (candidate : TriggerCandidate) :
    Ensures (OtherEvents eventId)
      (fun tasks => ∀ task ∈ tasks, isAppTaskOf eventId task = (event.id == eventId))
      (buildCandidateTask env emit args event now candidate) := by
  intro world
  have moves := ensures_buildCandidateTask env nestedMoves args event now candidate world
  apply And.intro moves.1
  intro tasks built task member
  have returned : Returns (buildCandidateTask env emit args event now candidate) world tasks
      (buildCandidateTask env emit args event now candidate world).2 := by
    rw [Returns, ← built]
  rcases buildCandidateTask_returns returned with ⟨_, rfl⟩ | ⟨_, only, rfl, taskFor⟩
  · cases member
  · rw [List.mem_singleton.mp member]
    exact taskFor.isAppTaskOf_eq

/-- One level of emission adds no task for the stored event. -/
theorem otherEvents_emitValidatedEvent (env : Env) {emit : EmitEventArgs → Service Unit}
    (nestedMoves : ∀ nested, IsEnqueuedEvent nested → Moves (OtherEvents eventId) (emit nested))
    (args : EmitEventArgs) (app : Option App) (now : Date) :
    Moves (OtherEvents eventId) (emitValidatedEvent env emit args app now) := by
  unfold emitValidatedEvent
  apply Moves.bind (Service.moves_randomUUID env)
  intro id
  dsimp only
  apply insertEvent_otherEvents
  intro different _
  apply Moves.bind (Service.moves_record _ _)
  intro _
  apply Moves.bind (Service.moves_query _)
  intro candidates
  have noneHere : ((buildEvent env args id now).id == eventId) = false := by
    simpa using different
  have collects : Ensures (OtherEvents eventId)
      (fun triggered => ∀ built ∈ triggered, ∀ task ∈ built, isAppTaskOf eventId task = false)
      (Action.collect candidates (buildCandidateTask env emit args
          (buildEvent env args id now) now)) := by
    apply Ensures.collect
    grind [ensures_candidateTasks]
  apply Ensures.bind collects
  intro triggered others
  apply Ensures.bind (ensures_coreTasksOf env args _ now)
  intro coreTasks coreRows
  have allOthers : ∀ task ∈ triggered.flatten ++ coreTasks, isAppTaskOf eventId task = false := by
    intro task member
    rcases List.mem_append.mp member with fromTrigger | fromCore
    · obtain ⟨built, builtMember, taskMember⟩ := List.mem_flatten.mp fromTrigger
      exact others built builtMember task taskMember
    · exact isAppTaskOf_coreRow (coreRows task fromCore)
  apply Moves.bind (moves_otherEvents (Service.moves_insertTasks allOthers))
  intro _
  apply Moves.bind (moves_recordCreatedTasks _ _)
  intro _
  apply Moves.bind (moves_notifyTargetUser args app)
  intro _
  exact moves_otherEvents
    (moves_scheduleNotifications env _ now fun _ row => isAppTaskOf_coreRow row)

theorem otherEvents_emitEventInTx (env : Env) (depth : Nat) (args : EmitEventArgs) :
    Moves (OtherEvents eventId) (emitEventInTx env depth args) := by
  induction depth generalizing args with
  | zero => exact ensures_throw _
  | succ depth inductionHypothesis =>
      apply Moves.bind (moves_require _ _)
      intro _
      apply Moves.bind (Service.moves_now env)
      intro now
      apply Moves.bind (Service.moves_check _)
      intro app
      apply Moves.bind (moves_admitsEmitter args app _)
      intro admitted
      split
      · exact otherEvents_emitValidatedEvent env (fun nested _ => inductionHypothesis nested) args
          app now
      · exact moves_pure ()

end OtherEvents

/-! ### One emission -/

def insertedFor (eventId : String) (before after : World) : List Task :=
  (after.db.tasks.rows.drop before.db.tasks.rows.length).filter (isAppTaskOf eventId)

/-- The event row a call emits, from the state it is called in. -/
def emittedEvent (env : Env) (args : EmitEventArgs) (world : World) : Event :=
  buildEvent env args (env.randomUUID (world.draws + 1)) (env.clock world.draws)

section Emission

variable {env : Env} {args : EmitEventArgs} {app : Option App} {now : Date} {before after : World}

theorem filter_isAppTaskOf_nil {eventId : String} {tasks : List Task}
    (others : ∀ task ∈ tasks, isAppTaskOf eventId task = false) :
    tasks.filter (isAppTaskOf eventId) = [] := by
  rw [List.filter_eq_nil_iff]
  intro task member
  simp [others task member]

/-- The tasks of the triggers the code looks at, one by one. -/
theorem emitValidatedEvent_returns {depth : Nat}
    (returned : Returns (emitValidatedEvent env (emitEventInTx env depth) args app now) before ()
      after) :
    ∃ triggered, List.Forall₂
        (CandidateTasks env args (buildEvent env args (env.randomUUID before.draws) now) before.db)
        (triggerCandidates args app before.db) triggered ∧
      insertedFor (env.randomUUID before.draws) before after = triggered.flatten := by
  simp only [emitValidatedEvent, returns_bind, Service.returns_query,
    Service.returns_randomUUID] at returned
  obtain ⟨id, _, ⟨rfl, rfl⟩, _, stored, stores, _, recorded, records, candidates,
      recorded, ⟨rfl, rfl⟩,
    triggered, collected, collects, coreTasks, gathered, gathers, _, inserted, inserts, _, noted,
    notes, _, notified, notifies, schedules⟩ := returned
  generalize isId : env.randomUUID before.draws = id at *
  generalize isEvent : buildEvent env args id now = event at *
  have eventId : event.id = id := by rw [← isEvent]; rfl
  -- The event row is there before any trigger is looked at.
  obtain ⟨events, storedWorld, eventRows⟩ : ∃ events, stored =
      { Service.draw before with db := { before.db with events := events } } ∧
        events.rows = before.db.events.rows ++ [event] := by
    rcases Service.insertEvent_cases event (Service.draw before) with
      ⟨other, otherStores, _, events, isOther, rows⟩ | ⟨error, threw⟩
    · rw [Returns, otherStores] at stores
      cases stores
      exact ⟨events, isOther, rows⟩
    · rw [Returns, threw] at stores
      cases stores
  have recordedDb : recorded.db = { before.db with events := events } := by
    have same : SameDb stored recorded := ((Service.moves_record _ _).of_returns records).1
    rw [same, storedWorld]
  have isStored : ∃ other ∈ recorded.db.events.rows, other.id = id := by
    rw [recordedDb]
    exact ⟨event, by rw [eventRows]; simp, eventId⟩
  have sameCandidates : triggerCandidates args app recorded.db = triggerCandidates args
      app before.db :=
    triggerCandidates_sameApps (by rw [recordedDb]; exact ⟨rfl, rfl⟩) args app
  rw [sameCandidates] at collects
  have candidateMoves : ∀ candidate ∈ triggerCandidates args app before.db,
      Moves (OtherEvents id) (buildCandidateTask env (emitEventInTx env depth) args event now
        candidate) :=
    fun candidate _ => (ensures_candidateTasks env
      (fun nested _ => otherEvents_emitEventInTx env depth nested) args event now candidate).moves
  obtain ⟨collectedMoved, each⟩ := returns_collect candidateMoves collects
  have matched : List.Forall₂ (CandidateTasks env args event before.db)
      (triggerCandidates args app before.db) triggered := by
    apply each.imp
    rintro candidate tasks ⟨reached, left, toReached, built⟩
    have rest := (toReached isStored).rest
    have sameRest : { reached.db with tasks := before.db.tasks, events := before.db.events } =
        before.db := by
      have sameTables := congrArg
        (fun db : Database => { db with tasks := before.db.tasks, events := before.db.events }) rest
      dsimp only at sameTables
      rw [sameTables, recordedDb]
    have result := buildCandidateTask_returns built
    unfold CandidateTasks at result ⊢
    rwa [serves_sameRest sameRest] at result
  refine ⟨triggered, matched, ?_⟩
  have coreEnsures : Ensures SameDb (fun tasks => ∀ task ∈ tasks, IsCoreRow task)
      (coreTasksOf env args event now) := ensures_coreTasksOf env args event now
  obtain ⟨gatheredDb, coreRows⟩ := coreEnsures.of_returns gathers
  have insertedRows := Service.returns_insertTasks inserts
  have notedDb : SameDb inserted noted := ((moves_recordCreatedTasks _ _).of_returns notes).1
  have notifiedDb : SameDb noted notified :=
      ((moves_notifyTargetUser args app).of_returns notifies).1
  have scheduled : Grows (fun task => isAppTaskOf id task = false) (fun _ => True) notified after :=
    ((moves_scheduleNotifications env _ now fun _ row => isAppTaskOf_coreRow row).of_returns
      schedules).1
  obtain ⟨nested, nestedRows, nestedOthers⟩ := (collectedMoved isStored).tasks
  obtain ⟨last, lastRows, lastOthers⟩ := scheduled.tasks
  have allRows : after.db.tasks.rows =
      before.db.tasks.rows ++ (nested ++ (triggered.flatten ++ coreTasks) ++ last) := by
    rw [lastRows, notifiedDb, notedDb, insertedRows, gatheredDb, nestedRows, recordedDb]
    simp only [List.append_assoc]
  have triggeredOwn : triggered.flatten.filter (isAppTaskOf id) = triggered.flatten := by
    rw [List.filter_eq_self]
    intro task member
    obtain ⟨built, builtMember, taskMember⟩ := List.mem_flatten.mp member
    obtain ⟨candidate, _, ⟨_, rfl⟩ | ⟨_, only, rfl, taskFor⟩⟩ := forall₂_right matched builtMember
    · cases taskMember
    · rw [List.mem_singleton.mp taskMember, taskFor.isAppTaskOf_eq, eventId, beq_self_eq_true]
  unfold insertedFor
  rw [allRows, List.drop_left, List.filter_append, List.filter_append, List.filter_append,
    triggeredOwn, filter_isAppTaskOf_nil nestedOthers, filter_isAppTaskOf_nil lastOthers,
    filter_isAppTaskOf_nil fun task member => isAppTaskOf_coreRow (coreRows task member)]
  simp

end Emission

/-! ### The tasks of an event -/

def emitterApp (args : EmitEventArgs) (db : Database) : Option App :=
  match findEmitterApp args db with
  | .ok app => app
  | .error _ => none

def FanOutExact (env : Env) (args : EmitEventArgs) (before after : World) : Prop :=
  ∃ listed, listed.Perm (insertedFor (emittedEvent env args before).id before after) ∧
    List.Forall₂ (TaskFor (emittedEvent env args before))
      ((matchingTriggers args (emitterApp args before.db) before.db).filter
        (serves env args (emittedEvent env args before) before.db)) listed

/-- No trigger of an app that the query leaves out serves the event. -/
def NoneCutOff (env : Env) (args : EmitEventArgs) (before : World) : Prop :=
  ∀ app ∈ cutOffApps args before.db,
    ∀ candidate ∈ configTriggers (eventTriggerIdentifier args) app,
      serves env args (emittedEvent env args before) before.db candidate = false

/-- The column of subscribed core events covers the core events of an app's config triggers, as
`appConfigSchema` checks before the config is stored. -/
def Subscribed (db : Database) : Prop :=
  ∀ app ∈ db.apps.rows, ∀ trigger, TaskTriggerConfig.event trigger ∈ app.config.triggers →
    ∀ name, trigger.eventIdentifier = coreIdentifier ++ ":" ++ name →
      trigger.eventIdentifier ∈ app.subscribedCoreEvents

theorem flatten_matched {env : Env} {args : EmitEventArgs} {event : Event} {db : Database}
    {candidates : List TriggerCandidate} {triggered : List (List Task)}
    (each : List.Forall₂ (CandidateTasks env args event db) candidates triggered) :
    List.Forall₂ (TaskFor event) (candidates.filter (serves env args event db))
      triggered.flatten := by
  induction each with
  | nil => exact List.Forall₂.nil
  | cons head tail inductionHypothesis =>
      rcases head with ⟨notServed, rfl⟩ | ⟨served, task, rfl, taskFor⟩
      · grind
      · grind [List.Forall₂.cons]

theorem flatMap_filter_and {α β : Type} (contribution : α → List β) (wide narrow : α → Bool)
    (items : List α)
    (nothing : ∀ item ∈ items, wide item = true → narrow item = false → contribution item = []) :
    (items.filter wide).flatMap contribution =
      (items.filter fun item => narrow item && wide item).flatMap contribution := by
  induction items with
  | nil => rfl
  | cons head tail inductionHypothesis =>
      grind

/-- The triggers an event is for are those the code looks at, and those of the apps left out. -/
theorem audience_eq {args : EmitEventArgs} {app : Option App} {db : Database}
    (subscribed : Subscribed db) :
    (audience args app db).flatMap (configTriggers (eventTriggerIdentifier args)) =
      (subscribedApps args app db).flatMap (configTriggers (eventTriggerIdentifier args)) ++
        (cutOffApps args db).flatMap (configTriggers (eventTriggerIdentifier args)) := by
  unfold audience subscribedApps cutOffApps
  cases isCore : args.isCoreEmitter with
  | false => simp
  | true =>
      have coreEvent : eventTriggerIdentifier args = coreIdentifier ++ ":" ++
          args.eventIdentifier := by
        unfold eventTriggerIdentifier
        rw [isCore]
        rfl
      have nothing : ∀ item ∈ db.apps.rows, item.enabled = true →
          item.subscribedCoreEvents.contains (eventTriggerIdentifier args) = false →
            configTriggers (eventTriggerIdentifier args) item = [] := by
        intro item member _ notSubscribed
        rw [List.eq_nil_iff_forall_not_mem]
        intro candidate isTrigger
        obtain ⟨⟨config, index⟩, indexed, built⟩ := List.mem_filterMap.mp isTrigger
        have inConfig : config ∈ item.config.triggers := (List.mem_zipIdx' indexed).2 ▸
          List.getElem_mem _
        cases config with
        | event trigger =>
            dsimp only at built
            split at built
            · rename_i sameEvent
              have isEvent := beq_iff_eq.mp sameEvent
              have covered := subscribed item member trigger inConfig args.eventIdentifier
                (isEvent.trans coreEvent)
              grind
            · cases built
        | schedule trigger => cases built
        | userAction trigger => cases built
      simp only [↓reduceIte]
      rw [← List.flatMap_append, List.take_append_drop]
      exact flatMap_filter_and _ _ _ db.apps.rows nothing

theorem admitsEmitter_same {args : EmitEventArgs} {app : Option App} {validate admitted : Bool}
    {before after : World} (admits : Returns (admitsEmitter args app validate) before
        admitted after) :
    after = before := by
  unfold admitsEmitter at admits
  split at admits
  · exact (Service.returns_check.mp admits).2
  · exact (returns_pure.mp admits).2

/-- A platform event without a target. -/
def sampleScan : EmitEventArgs where
  emitterIdentifier := coreIdentifier
  eventIdentifier := "folder_scanned"
  data := .obj []

def sampleListener : App :=
  { App.sample with
    subscribedCoreEvents := ["core:folder_scanned"]
    config := { App.sample.config with
      triggers := [.event
        { condition := none
          taskIdentifier := "resize"
          onComplete := []
          onProgress := []
          eventIdentifier := "core:folder_scanned"
          dataTemplate := none
          triggerKey := none }] } }

/-- The listener in a database of its own. -/
def sampleListenerWorld : World where
  db := { apps := { rows := [sampleListener], distinct := List.pairwise_singleton _ _ } }

theorem sampleListener_subscribed {trigger : EventTaskTriggerConfig}
    (declared : TaskTriggerConfig.event trigger ∈ sampleListener.config.triggers) :
    trigger.eventIdentifier ∈ sampleListener.subscribedCoreEvents := by
  cases List.mem_singleton.mp declared
  exact List.mem_singleton.mpr rfl

/-- An app that subscribes to the event and has no trigger. -/
def sampleSubscriber (index : Nat) : App :=
  { App.sample with
    id := "subscriber-" ++ toString index
    identifier := "subscriber-" ++ toString index
    notCore := by
      intro same
      have first := congrArg (fun text => text.toList.head?) same
      simp [coreIdentifier] at first
    subscribedCoreEvents := ["core:folder_scanned"] }

theorem sampleSubscriber_inj {first second : Nat}
    (same : "subscriber-" ++ toString first = "subscriber-" ++ toString second) :
    first = second := by
  have sameText := congrArg String.toList ((String.append_right_inj "subscriber-").mp same)
  rw [Nat.toString_eq_repr, Nat.toString_eq_repr, Nat.toList_repr, Nat.toList_repr] at sameText
  have sameValue := congrArg (fun digits => Nat.ofDigitChars 10 digits 0) sameText
  rwa [Nat.ofDigitChars_ten_toDigits, Nat.ofDigitChars_ten_toDigits] at sameValue

theorem sampleSubscriber_apart {first second : Nat} (differ : first ≠ second) :
    App.clash (sampleSubscriber first) (sampleSubscriber second) = false := by
  have otherText := beq_false_of_ne (mt sampleSubscriber_inj differ)
  unfold App.clash sampleSubscriber
  dsimp only
  rw [otherText, Bool.or_self]

theorem sampleListener_apart (index : Nat) :
    App.clash (sampleSubscriber index) sampleListener = false := by
  have otherStart {text : String} (start : text.toList.head? ≠ some 's') :
      ("subscriber-" ++ toString index == text) = false := by
    grind [String.toList_append]
  unfold App.clash
  rw [Bool.or_eq_false_iff]
  exact ⟨otherStart (by decide), otherStart (by decide)⟩

/-- A hundred subscribers, and the listener behind them. -/
def sampleCrowd : AppsTable where
  rows := (List.range 100).map sampleSubscriber ++ [sampleListener]
  distinct := by
    rw [List.pairwise_append, List.pairwise_map]
    refine ⟨List.nodup_range.imp sampleSubscriber_apart, List.pairwise_singleton _ _, ?_⟩
    intro subscriber member listener isListener
    obtain ⟨index, _, rfl⟩ := List.mem_map.mp member
    rw [List.mem_singleton.mp isListener]
    exact sampleListener_apart index

end Lombok.Events
