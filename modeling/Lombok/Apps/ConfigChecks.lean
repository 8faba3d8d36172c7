import Lombok.Apps.Config

/-!
Contract: the checks that the config schema makes across fields.

Owns the issues that the refinements of a view, of the mobile root, of the
mobile contributions and of the config itself add, which configs are accepted,
and which of an accepted config's references are to something declared.

The formats of single fields are the shape's; of these only the format of a
task identifier and the handler types are checked here.
-/

namespace Lombok.Apps

open Lombok.Core Lombok.Tasks

/-! ### Issues -/

inductive PathSegment where
  | key (name : String)
  | index (position : Nat)
deriving DecidableEq

structure Issue where
  message : String
  path : List PathSegment
deriving DecidableEq

def Issue.within (path : List PathSegment) (issue : Issue) : Issue :=
  { issue with path := path ++ issue.path }

def eachIndexed {α : Type} (check : Nat → α → List Issue) (members : List α) : List Issue :=
  members.zipIdx.flatMap fun member => check member.2 member.1

theorem eachIndexed_eq_nil_iff {α : Type} {check : Nat → α → List Issue} {members : List α} :
    eachIndexed check members = [] ↔
      ∀ (index : Nat) (member : α), members[index]? = some member → check index member = [] := by
  rw [eachIndexed, List.flatMap_eq_nil_iff]
  constructor
  · intro none index member held
    exact none (member, index) (List.mem_zipIdx_iff_getElem?.mpr held)
  · grind

def repeatedKeys {α : Type} (key : α → String) (issue : Nat → α → Issue) :
    List String → Nat → List α → List Issue
  | _, _, [] => []
  | seen, index, member :: rest =>
      if seen.contains (key member) then
        issue index member :: repeatedKeys key issue seen (index + 1) rest
      else repeatedKeys key issue (key member :: seen) (index + 1) rest

def listed (names : List String) : String :=
  if names.isEmpty then "(none)" else String.intercalate ", " names

/-! ### Views and the mobile root -/

/-- `collectChildReferences`. -/
def collectChildReferences (component : MobileComponent) : List String :=
  let children : List String :=
    match component.properties.get? "children" with
    | some (.arr entries) => entries.filterMap fun entry =>
        match entry with
        | .str name => some name
        | _ => none
    | some (.obj template) =>
        match Fields.get? template "componentId" with
        | some (.str name) => [name]
        | _ => []
    | _ => []
  let child : List String :=
    match component.properties.get? "child" with
    | some (.str name) => [name]
    | _ => []
  children ++ child

/-- `refineComponentTree`. -/
def refineComponentTree (components : List MobileComponent) : List Issue :=
  let ids := components.map MobileComponent.id
  repeatedKeys MobileComponent.id
      (fun index component => ⟨"Duplicate component id \"" ++ component.id ++ "\"",
        [.key "components", .index index, .key "id"]⟩) [] 0 components ++
    (if ids.contains "root" then []
    else [⟨"A component tree must contain a component with id \"root\"", [.key "components"]⟩]) ++
    eachIndexed (fun index component =>
      (collectChildReferences component).flatMap fun ref =>
        if ids.contains ref then []
        else [⟨"Component \"" ++ component.id ++ "\" references unknown component id \"" ++ ref ++
          "\"", [.key "components", .index index]⟩]) components

/-- The view a component navigates to, when that is a string. -/
def navigationTarget (component : MobileComponent) : Option String := do
  let event ← component.action
  if event.name ≠ "navigate" then none
  else
    match event.context.get? "target" with
    | some (.str target) => some target
    | _ => none

/-- The refinement of `mobileRootSchema`. -/
def mobileRootIssues (views : List MobileRootView) : List Issue :=
  let ids := views.map MobileRootView.id
  let navRootCount := (views.filter MobileRootView.navRoot).length
  repeatedKeys MobileRootView.id
      (fun index view => ⟨"Duplicate view id \"" ++ view.id ++ "\"",
        [.key "views", .index index, .key "id"]⟩) [] 0 views ++
    (if navRootCount = 1 then []
    else
      [⟨if navRootCount = 0 then
          "Exactly one mobile root view must be flagged \x60navRoot: true\x60"
        else "Only one mobile root view may be flagged \x60navRoot: true\x60", [.key "views"]⟩]) ++
    eachIndexed (fun viewIndex view =>
      eachIndexed (fun componentIndex component =>
        match navigationTarget component with
        | none => []
        | some target =>
            if ids.contains target then []
            else [⟨"navigate action targets unknown view id \"" ++ target ++ "\"",
              [.key "views", .index viewIndex, .key "components", .index componentIndex,
                .key "action", .key "event", .key "context", .key "target"]⟩])
        view.components) views

/-! ### Mobile contributions -/

/-- `checkBindings`. -/
def checkBindings (queryKeys : List String) (path : List PathSegment)
    (bindings : List MobileQueryBinding) : List Issue :=
  eachIndexed (fun index binding =>
    if queryKeys.contains binding.query.name then []
    else [⟨"Unknown query \"" ++ binding.query.name ++ "\". Must be one of: " ++ listed queryKeys,
      path ++ [.index index, .key "query", .key "name"]⟩]) bindings

def MobileContributions.queryKeys (mobile : MobileContributions) : List String :=
  mobile.queries.map Prod.fst

def MobileContributions.views (mobile : MobileContributions) : List MobileRootView :=
  mobile.root.getD []

/-- The refinement of `mobileContributionsSchema`: it walks `initialQueries` and `actionMap`. -/
def bindingIssues (mobile : MobileContributions) : List Issue :=
  eachIndexed (fun viewIndex view =>
    let path : List PathSegment := [.key "root", .key "views", .index viewIndex]
    checkBindings mobile.queryKeys (path ++ [.key "initialQueries"]) view.initialQueries ++
      view.actionMap.flatMap fun entry =>
        checkBindings mobile.queryKeys (path ++ [.key "actionMap", .key entry.1]) entry.2)
    mobile.views

def mobileContributionsIssues (mobile : MobileContributions) : List Issue :=
  (match mobile.root with
  | none => []
  | some views =>
      (eachIndexed (fun index view =>
          (refineComponentTree view.components).map
            (Issue.within [.key "views", .index index])) views ++
        mobileRootIssues views).map (Issue.within [.key "root"])) ++
    bindingIssues mobile

/-! ### The config -/

namespace ParsedConfig

def mobile (value : ParsedConfig) : Option MobileContributions :=
  value.contributions.bind AppContributions.mobile

def taskIdentifiers (value : ParsedConfig) : List String :=
  value.tasks.map AppTaskConfig.identifier

def containerProfilesKeys (value : ParsedConfig) : List String :=
  value.containerProfiles.map Prod.fst

/-- `checkCustomIconRequiresUi`. -/
def checkCustomIconRequiresUi (value : ParsedConfig) (path : List PathSegment) :
    Option IconSource → List Issue
  | some .custom =>
      if value.uiEnabled then []
      else [⟨"Custom icons require \x60ui.enabled: true\x60 — they are resolved against the app's UI bundle.",
        path⟩]
  | _ => []

def linkIcons (value : ParsedConfig) (key : String) (links : List AppContributionEmbedLink) :
    List Issue :=
  eachIndexed (fun index link => value.checkCustomIconRequiresUi
    [.key "contributions", .key key, .index index, .key "icon"] link.icon) links

def iconIssues (value : ParsedConfig) : List Issue :=
  value.checkCustomIconRequiresUi [.key "icon"] (some value.icon) ++
    match value.contributions with
    | none => []
    | some contributions =>
        value.linkIcons "uiEntrypoints" contributions.uiEntrypoints ++
          value.linkIcons "folderSidebarViews" contributions.folderSidebarViews ++
          value.linkIcons "objectSidebarViews" contributions.objectSidebarViews ++
          value.linkIcons "objectDetailViews" contributions.objectDetailViews ++
          value.linkIcons "folderDetailViews" contributions.folderDetailViews

def queryWorkerIssues (value : ParsedConfig) : List Issue :=
  match value.mobile with
  | none => []
  | some mobile => mobile.queries.flatMap fun query =>
      match query.2 with
      | .lombok _ => []
      | .app _ worker =>
          if value.runtimeWorkers.contains worker then []
          else [⟨"Unknown worker \"" ++ worker ++ "\" in mobile query \"" ++ query.1 ++
            "\". Must be one of: " ++ listed value.runtimeWorkers,
            [.key "contributions", .key "mobile", .key "queries", .key query.1, .key "worker"]⟩]

def profileJobDefinitions (profile : ContainerProfileConfig) : List (Nat × String) :=
  profile.workers.zipIdx.flatMap fun worker =>
    worker.1.jobIdentifiers.map fun jobIdentifier => (worker.2, jobIdentifier)

def duplicateJobIssues (value : ParsedConfig) : List Issue :=
  value.containerProfiles.flatMap fun profile =>
    repeatedKeys Prod.snd
      (fun _ job => ⟨"Duplicate container job name \"" ++ job.2 ++
          "\" in profile \"" ++ profile.1 ++
        "\". Each job name within a container profile must be unique.",
        [.key "containerProfiles", .key profile.1, .key "workers", .index job.1]⟩)
      [] 0 (profileJobDefinitions profile.2)

/-- The path names the first place of the worker. -/
def systemRequestIssues (value : ParsedConfig) : List Issue :=
  value.performSearch.flatMap fun worker =>
    if value.runtimeWorkers.contains worker then []
    else [⟨"Unknown worker \"" ++ worker ++
      "\" in systemRequestRuntimeWorkers.performSearch. Must be one of: " ++
        listed value.runtimeWorkers,
      [.key "systemRequestRuntimeWorkers", .key "performSearch",
        .index (value.performSearch.idxOf worker)]⟩]

/-- `split(':')` of a handler's identifier. -/
def handlerParts (identifier : String) : List String :=
  (identifier.toList.splitOn ':').map String.ofList

/-- `undefined` in a message. -/
def textOf (part : Option String) : String := part.getD "undefined"

def taskIssues (value : ParsedConfig) (index : Nat) (task : AppTaskConfig) : List Issue :=
  let path : List PathSegment := [.key "tasks", .index index, .key "worker"]
  match task.handlerType with
  | .runtime =>
      if value.runtimeWorkers.contains task.handlerIdentifier then []
      else [⟨"Unknown worker \"" ++ task.handlerIdentifier ++ "\" in task \"" ++ task.identifier ++
        "\". Must be one of: " ++ listed value.runtimeWorkers, path⟩]
  | .docker =>
      let parts := handlerParts task.handlerIdentifier
      let profileName := textOf parts[0]?
      match value.containerProfiles.find? fun profile =>
          profile.1 == profileName && profileName != "" with
      | none => [⟨"Unknown container profile \"" ++ profileName ++ "\". Must be one of: " ++
          listed value.containerProfilesKeys, path⟩]
      | some profile =>
          let jobs := (profileJobDefinitions profile.2).map Prod.snd
          if jobs.any fun job => parts[1]? == some job then []
          else [⟨"Unknown container job class \"" ++ textOf parts[1]? ++ "\". Must be one of: " ++
            String.intercalate ", " jobs, path⟩]
  | .core => []

def unknownTask (value : ParsedConfig) (triggerIndex : Nat) (taskIdentifier : String)
    (path : List PathSegment) : Issue :=
  ⟨"Unknown task \"" ++ taskIdentifier ++ "\" in trigger at index " ++ toString triggerIndex ++
    ". Must be one of: " ++ listed value.taskIdentifiers, path⟩

mutual

/-- `validateOnCompleteTaskIdentifiers`; `index` is the place of the first handler. -/
def validateOnCompleteTaskIdentifiers (value : ParsedConfig) (triggerIndex : Nat)
    (path : List PathSegment) : Nat → List TaskOnCompleteConfig → List Issue
  | _, [] => []
  | index, handler :: rest =>
      handlerIssues value triggerIndex (path ++ [.index index]) handler ++
        validateOnCompleteTaskIdentifiers value triggerIndex path (index + 1) rest

def handlerIssues (value : ParsedConfig) (triggerIndex : Nat) (path : List PathSegment) :
    TaskOnCompleteConfig → List Issue
  | .mk taskIdentifier _ _ onComplete =>
      (if taskIdentifier ≠ "" ∧ !value.taskIdentifiers.contains taskIdentifier then
        [value.unknownTask triggerIndex taskIdentifier (path ++ [.key "taskIdentifier"])]
      else []) ++
        validateOnCompleteTaskIdentifiers value triggerIndex (path ++ [.key "onComplete"]) 0
          onComplete

end

def subscriptionIssues (value : ParsedConfig) (index : Nat) : TaskTriggerConfig → List Issue
  | .event trigger =>
      if (coreIdentifier ++ ":").toList.isPrefixOf trigger.eventIdentifier.toList ∧
          !value.subscribedCoreEvents.contains trigger.eventIdentifier then
        [⟨"Platform event identifier \"" ++ trigger.eventIdentifier ++ "\" in trigger at index " ++
          toString index ++ " is not subscribed to by the app",
          [.key "triggers", .index index, .key "eventIdentifier"]⟩]
      else []
  | _ => []

def triggerIssues (value : ParsedConfig) (index : Nat) (trigger : TaskTriggerConfig) : List Issue :=
  value.subscriptionIssues index trigger ++
    (if value.taskIdentifiers.contains trigger.base.taskIdentifier then []
    else [value.unknownTask index trigger.base.taskIdentifier
      [.key "triggers", .index index, .key "taskIdentifier"]]) ++
    value.validateOnCompleteTaskIdentifiers index [.key "triggers", .index index, .key "onComplete"]
      0 trigger.base.onComplete

/-- The refinement of `appConfigSchema`. -/
def issues (value : ParsedConfig) : List Issue :=
  value.iconIssues ++ value.queryWorkerIssues ++ value.duplicateJobIssues ++
    value.systemRequestIssues ++ eachIndexed value.taskIssues value.tasks ++
    eachIndexed value.triggerIssues value.triggers

end ParsedConfig

/-! ### Accepted configs -/

/-- `genericIdentifierSchema`. -/
def genericIdentifier (text : String) : Bool :=
  !text.toList.isEmpty && text.toList.all fun character => character.isLower || character == '_'

mutual

/-- `taskOnCompleteConfigSchema`, as far as task identifiers go. -/
def handlersFormatted : List TaskOnCompleteConfig → Bool
  | [] => true
  | handler :: rest => handlerFormatted handler && handlersFormatted rest

def handlerFormatted : TaskOnCompleteConfig → Bool
  | .mk taskIdentifier _ _ onComplete =>
      genericIdentifier taskIdentifier && handlersFormatted onComplete

end

namespace ParsedConfig

/-- Task identifiers and handler types have their formats. -/
def formatted (value : ParsedConfig) : Bool :=
  (value.tasks.all fun task =>
      genericIdentifier task.identifier && task.handlerType != .core) &&
    value.triggers.all fun trigger =>
      genericIdentifier trigger.base.taskIdentifier &&
        handlersFormatted trigger.base.onComplete &&
        trigger.base.onProgress.all fun handler => genericIdentifier handler.taskIdentifier

def accepts (value : ParsedConfig) : Bool :=
  value.formatted &&
    (match value.mobile with
    | none => true
    | some mobile => (mobileContributionsIssues mobile).isEmpty) &&
    value.issues.isEmpty

end ParsedConfig

/-! ### References -/

/-- Some handler, however deep, names the task. -/
inductive NamesTask : List TaskOnCompleteConfig → String → Prop where
  | direct {handlers : List TaskOnCompleteConfig} {handler : TaskOnCompleteConfig}
      (member : handler ∈ handlers) : NamesTask handlers handler.taskIdentifier
  | deeper {handlers : List TaskOnCompleteConfig} {handler : TaskOnCompleteConfig} {name : String}
      (member : handler ∈ handlers) (nested : NamesTask handler.onComplete name) :
      NamesTask handlers name

def MobileRootView.NamesQuery (view : MobileRootView) (name : String) : Prop :=
  (∃ binding ∈ view.initialQueries, binding.query.name = name) ∨
    (∃ binding ∈ view.pollQueries, binding.query.name = name) ∨
    ∃ entry ∈ view.actionMap, ∃ binding ∈ entry.2, binding.query.name = name

def HandlerDeclared (value : ParsedConfig) (task : AppTaskConfig) : Prop :=
  match task.handlerType with
  | .runtime => task.handlerIdentifier ∈ value.runtimeWorkers
  | .docker => ∃ profile ∈ value.containerProfiles, ∃ worker ∈ profile.2.workers,
      ∃ job ∈ worker.jobIdentifiers,
        (ParsedConfig.handlerParts task.handlerIdentifier)[0]? = some profile.1 ∧
          (ParsedConfig.handlerParts task.handlerIdentifier)[1]? = some job
  | .core => False

def ProgressDeclared (value : ParsedConfig) : Prop :=
  ∀ trigger ∈ value.triggers, ∀ handler ∈ trigger.base.onProgress,
    handler.taskIdentifier ∈ value.taskIdentifiers

def PollsDeclared (value : ParsedConfig) : Prop :=
  ∀ mobile, value.mobile = some mobile → ∀ view ∈ mobile.views, ∀ binding ∈ view.pollQueries,
    binding.query.name ∈ mobile.queryKeys

/-- Every reference of the config is to something declared. -/
structure ReferencesDeclared (value : ParsedConfig) : Prop where
  triggers : ∀ trigger ∈ value.triggers, trigger.base.taskIdentifier ∈ value.taskIdentifiers
  onComplete : ∀ trigger ∈ value.triggers, ∀ name, NamesTask trigger.base.onComplete name →
    name ∈ value.taskIdentifiers
  onProgress : ∀ trigger ∈ value.triggers, ∀ handler ∈ trigger.base.onProgress,
    handler.taskIdentifier ∈ value.taskIdentifiers
  handlers : ∀ task ∈ value.tasks, HandlerDeclared value task
  queries : ∀ mobile, value.mobile = some mobile → ∀ view ∈ mobile.views, ∀ name,
    view.NamesQuery name → name ∈ mobile.queryKeys

/-! ### What the checks find -/

section Checks

variable {value : ParsedConfig}

theorem ne_empty_of_genericIdentifier {text : String} (formatted : genericIdentifier text = true) :
    text ≠ "" := by
  intro empty
  rw [empty] at formatted
  exact absurd formatted (by decide)

variable {triggerIndex : Nat} {path : List PathSegment}

theorem handlerIssues_eq_nil (handlers : List TaskOnCompleteConfig) :
    ∀ index, value.validateOnCompleteTaskIdentifiers triggerIndex path index handlers = [] →
      ∀ handler ∈ handlers, ∃ below, value.handlerIssues triggerIndex below handler = [] := by
  induction handlers with
  | nil =>
      nofun
  | cons head tail inductionHypothesis =>
      grind [ParsedConfig.validateOnCompleteTaskIdentifiers, List.append_eq_nil_iff]

theorem handlerFormatted_of_mem (handlers : List TaskOnCompleteConfig)
    (formatted : handlersFormatted handlers = true) :
    ∀ handler ∈ handlers, handlerFormatted handler = true := by
  induction handlers with
  | nil =>
      nofun
  | cons head tail inductionHypothesis =>
      grind [handlersFormatted]

theorem declared_of_handlerIssues {handler : TaskOnCompleteConfig}
    (none : value.handlerIssues triggerIndex path handler = [])
    (formatted : handlerFormatted handler = true) :
    handler.taskIdentifier ∈ value.taskIdentifiers ∧
      handlersFormatted handler.onComplete = true ∧
        ∃ below, value.validateOnCompleteTaskIdentifiers triggerIndex below 0
          handler.onComplete = [] := by
  rcases handler with ⟨taskIdentifier, condition, dataTemplate, onComplete⟩
  rw [ParsedConfig.handlerIssues, List.append_eq_nil_iff] at none
  rw [handlerFormatted, Bool.and_eq_true] at formatted
  refine ⟨?_, formatted.2, _, none.2⟩
  by_cases known : value.taskIdentifiers.contains taskIdentifier = true
  · exact List.contains_iff_mem.mp known
  · have named := ne_empty_of_genericIdentifier formatted.1
    grind

/-- The walk goes to every depth. -/
theorem declared_of_namesTask {handlers : List TaskOnCompleteConfig} {name : String}
    (names : NamesTask handlers name) :
    ∀ path, value.validateOnCompleteTaskIdentifiers triggerIndex path 0 handlers = [] →
      handlersFormatted handlers = true → name ∈ value.taskIdentifiers := by
  induction names with
  | direct member =>
      grind [handlerIssues_eq_nil, declared_of_handlerIssues, handlerFormatted_of_mem]
  | deeper member nested inductionHypothesis =>
      intro path none formatted
      obtain ⟨below, noIssues⟩ := handlerIssues_eq_nil _ 0 none _ member
      obtain ⟨_, nestedFormatted, deeper, nestedNone⟩ :=
        declared_of_handlerIssues noIssues (handlerFormatted_of_mem _ formatted _ member)
      exact inductionHypothesis deeper nestedNone nestedFormatted

theorem mem_of_checkBindings {queryKeys : List String} {bindings : List MobileQueryBinding}
    (none : checkBindings queryKeys path bindings = []) :
    ∀ binding ∈ bindings, binding.query.name ∈ queryKeys := by
  intro binding member
  obtain ⟨index, held⟩ := List.mem_iff_getElem?.mp member
  have noIssue := eachIndexed_eq_nil_iff.mp none index binding held
  grind

/-- The walk over a view covers its initial queries and its actions. -/
theorem mem_of_bindingIssues {mobile : MobileContributions} (none : bindingIssues mobile = [])
    {view : MobileRootView} (inViews : view ∈ mobile.views) :
    (∀ binding ∈ view.initialQueries, binding.query.name ∈ mobile.queryKeys) ∧
      ∀ entry ∈ view.actionMap, ∀ binding ∈ entry.2, binding.query.name ∈ mobile.queryKeys := by
  obtain ⟨index, held⟩ := List.mem_iff_getElem?.mp inViews
  have noIssue := eachIndexed_eq_nil_iff.mp none index view held
  rw [List.append_eq_nil_iff, List.flatMap_eq_nil_iff] at noIssue
  constructor
  · exact mem_of_checkBindings noIssue.1
  · grind [mem_of_checkBindings]

theorem mem_profileJobDefinitions {profile : ContainerProfileConfig} {job : String}
    (member : job ∈ (ParsedConfig.profileJobDefinitions profile).map Prod.snd) :
    ∃ worker ∈ profile.workers, job ∈ worker.jobIdentifiers := by
  obtain ⟨indexed, inJobs, rfl⟩ := List.mem_map.mp member
  obtain ⟨worker, inWorkers, inIdentifiers⟩ := List.mem_flatMap.mp inJobs
  grind

/-- A text has a part before its first colon. -/
theorem handlerParts_head (identifier : String) :
    ∃ part, (ParsedConfig.handlerParts identifier)[0]? = some part := by
  unfold ParsedConfig.handlerParts
  cases held : identifier.toList.splitOn ':' with
  | nil => exact absurd held (List.splitOn_ne_nil _ _)
  | cons part rest => exact ⟨String.ofList part, rfl⟩

theorem handlerDeclared_of_taskIssues {index : Nat} {task : AppTaskConfig}
    (none : value.taskIssues index task = []) (ownHandler : task.handlerType ≠ .core) :
    HandlerDeclared value task := by
  unfold ParsedConfig.taskIssues at none
  unfold HandlerDeclared
  cases kind : task.handlerType with
  | runtime =>
      grind
  | docker =>
      rw [kind] at none
      dsimp only at none ⊢
      cases found : value.containerProfiles.find? fun profile =>
          profile.1 == ParsedConfig.textOf (ParsedConfig.handlerParts task.handlerIdentifier)[0]? &&
            ParsedConfig.textOf (ParsedConfig.handlerParts task.handlerIdentifier)[0]? != "" with
      | none =>
          rw [found] at none
          cases none
      | some profile =>
          rw [found] at none
          dsimp only at none
          obtain ⟨part, isPart⟩ := handlerParts_head task.handlerIdentifier
          have named := List.find?_some found
          rw [isPart, Bool.and_eq_true, beq_iff_eq] at named
          split at none
          · rename_i hasJob
            obtain ⟨job, isJob, sameJob⟩ := List.any_eq_true.mp hasJob
            obtain ⟨worker, inWorkers, inIdentifiers⟩ := mem_profileJobDefinitions isJob
            refine ⟨profile, List.mem_of_find?_eq_some found, worker, inWorkers, job, inIdentifiers,
              ?_, beq_iff_eq.mp sameJob⟩
            rw [isPart, named.1]
            rfl
          · cases none
  | core => exact absurd kind ownHandler

theorem declared_of_triggerIssues {index : Nat} {trigger : TaskTriggerConfig}
    (none : value.triggerIssues index trigger = [])
    (formatted : handlersFormatted trigger.base.onComplete = true) :
    trigger.base.taskIdentifier ∈ value.taskIdentifiers ∧
      ∀ name, NamesTask trigger.base.onComplete name → name ∈ value.taskIdentifiers := by
  rw [ParsedConfig.triggerIssues, List.append_eq_nil_iff, List.append_eq_nil_iff] at none
  constructor
  · by_cases known : value.taskIdentifiers.contains trigger.base.taskIdentifier = true
    · exact List.contains_iff_mem.mp known
    · rw [if_neg known] at none
      cases none.1.2
  · grind [declared_of_namesTask]

end Checks

/-- Of an accepted config, the references that no check goes over are the tasks of progress
handlers and the queries that are polled: all references are declared exactly when these are. -/
theorem referencesDeclared_iff {value : ParsedConfig} (accepted : value.accepts = true) :
    ReferencesDeclared value ↔ ProgressDeclared value ∧ PollsDeclared value := by
  unfold ParsedConfig.accepts ParsedConfig.formatted at accepted
  simp only [Bool.and_eq_true, List.all_eq_true, List.isEmpty_iff] at accepted
  obtain ⟨⟨⟨tasksFormatted, triggersFormatted⟩, mobileAccepted⟩, noIssues⟩ := accepted
  rw [ParsedConfig.issues, List.append_eq_nil_iff, List.append_eq_nil_iff] at noIssues
  obtain ⟨⟨_, noTaskIssues⟩, noTriggerIssues⟩ := noIssues
  constructor
  · intro references
    constructor
    · exact references.onProgress
    · intro mobile isMobile view inViews binding member
      exact references.queries mobile isMobile view inViews _ (.inr (.inl ⟨binding, member, rfl⟩))
  · rintro ⟨progress, polls⟩
    have declared : ∀ trigger ∈ value.triggers,
        trigger.base.taskIdentifier ∈ value.taskIdentifiers ∧
          ∀ name, NamesTask trigger.base.onComplete name → name ∈ value.taskIdentifiers := by
      intro trigger member
      obtain ⟨index, held⟩ := List.mem_iff_getElem?.mp member
      exact declared_of_triggerIssues (eachIndexed_eq_nil_iff.mp noTriggerIssues index trigger held)
        (triggersFormatted trigger member).1.2
    constructor
    · exact fun trigger member => (declared trigger member).1
    · exact fun trigger member => (declared trigger member).2
    · exact progress
    · intro task member
      obtain ⟨index, held⟩ := List.mem_iff_getElem?.mp member
      apply handlerDeclared_of_taskIssues (eachIndexed_eq_nil_iff.mp noTaskIssues index task held)
      exact bne_iff_ne.mp (tasksFormatted task member).2
    · intro mobile isMobile view inViews name names
      rw [isMobile] at mobileAccepted
      rw [List.isEmpty_iff, mobileContributionsIssues, List.append_eq_nil_iff] at mobileAccepted
      obtain ⟨initial, actions⟩ := mem_of_bindingIssues mobileAccepted.2 inViews
      rcases names with ⟨binding, member, rfl⟩ | ⟨binding, member, rfl⟩ |
        ⟨entry, inActions, binding, member, rfl⟩
      · exact initial binding member
      · exact polls mobile isMobile view inViews binding member
      · exact actions entry inActions binding member

/-! ### Configs -/

def sampleView (polled : String) : MobileRootView where
  id := "home"
  navRoot := true
  components := [{ id := "root", action := none, properties := [] }]
  initialQueries := [⟨⟨"app.jobs"⟩⟩]
  actionMap := [("refresh", [⟨⟨"app.jobs"⟩⟩])]
  pollQueries := [⟨⟨polled⟩⟩]

/-- A config with a task of each kind, a trigger whose completions are chained, and a view. -/
def sampleConfig (reported polled : String) : ParsedConfig where
  icon := .builtin
  subscribedCoreEvents := ["core:object_added"]
  triggers :=
    [.event
      { condition := none
        taskIdentifier := "index"
        onComplete := [.mk "transcode" none none [.mk "index" none none []]]
        onProgress := [⟨reported, none, none⟩]
        eventIdentifier := "core:object_added"
        dataTemplate := none
        triggerKey := none }]
  tasks :=
    [{ identifier := "index", description := "", handlerType := .runtime,
       handlerIdentifier := "worker" },
      { identifier := "transcode", description := "", handlerType := .docker,
        handlerIdentifier := "media:transcode_video" }]
  containerProfiles := [("media", ⟨"ffmpeg", [.exec ["run"] "transcode_video" none], none⟩)]
  runtimeWorkers := ["worker"]
  performSearch := []
  uiEnabled := false
  contributions := some
    { uiEntrypoints := []
      folderSidebarViews := []
      objectSidebarViews := []
      objectDetailViews := []
      folderDetailViews := []
      mobile := some ⟨[("app.jobs", .app "/jobs" "worker")], some [sampleView polled]⟩ }

theorem referencesDeclared_sample : ReferencesDeclared (sampleConfig "transcode" "app.jobs") := by
  have accepted : (sampleConfig "transcode" "app.jobs").accepts = true := by decide +kernel
  apply (referencesDeclared_iff accepted).mpr
  constructor
  · unfold ProgressDeclared
    decide +kernel
  · intro mobile isMobile view inViews binding member
    cases isMobile
    rw [List.mem_singleton.mp inViews] at member
    rw [List.mem_singleton.mp member]
    decide +kernel

/-- A progress handler's task and a polled query that do not exist pass the checks. -/
theorem undeclared_accepted :
    ((sampleConfig "missing" "app.jobs").accepts = true ∧
        ¬ReferencesDeclared (sampleConfig "missing" "app.jobs")) ∧
      (sampleConfig "transcode" "app.gone").accepts = true ∧
        ¬ReferencesDeclared (sampleConfig "transcode" "app.gone") := by
  refine ⟨⟨by decide +kernel, ?_⟩, by decide +kernel, ?_⟩
  · intro references
    have declared := references.onProgress _ List.mem_cons_self _ List.mem_cons_self
    exact absurd declared (by decide +kernel)
  · intro references
    have declared := references.queries _ rfl _ List.mem_cons_self "app.gone"
      (.inr (.inl ⟨_, List.mem_cons_self, rfl⟩))
    exact absurd declared (by decide +kernel)

end Lombok.Apps
