import Lombok.Library.OrderedMap
import Lombok.Library.Run

/-!
Contract: the core worker's view of the apps of its server.

Owns `getAppHashMapping` on the server, `updateAppHashMapping` of the core worker,
and the steps of `handleUiBundleRequest` that read and write the mapping and the
bundle cache. Pushes arrive in the order they are sent; between the steps of a
UI request anything else may happen.

The state remembers whether the apps changed since they were last pushed. Does
not own: what a bundle contains, and whether it can be downloaded.
-/

namespace Lombok.Worker

open Lombok.Library

/-! ### The server -/

/-- The columns of an app that the core worker is told about; a hash may be the empty text. -/
structure InstalledApp where
  enabled : Bool
  uiHash : String
  hasManifest : Bool
  workerHash : String
deriving DecidableEq

abbrev HashMapping := OrderedMap String String

def hashesOf (hash : InstalledApp → String) (apps : OrderedMap String InstalledApp) :
    HashMapping where
  entries := (apps.entries.filter fun entry => hash entry.2 != "").map fun entry =>
    (entry.1, hash entry.2)
  distinct := by
    rw [List.map_map]
    exact apps.distinct.sublist (List.filter_sublist.map Prod.fst)

/-- `update_app_hash_mapping`. -/
structure AppHashMapping where
  uiHashMapping : HashMapping
  workerHashMapping : HashMapping

/-- `getAppHashMapping`. -/
def getAppHashMapping (apps : OrderedMap String InstalledApp) : AppHashMapping where
  uiHashMapping := hashesOf InstalledApp.uiHash apps
  workerHashMapping := hashesOf InstalledApp.workerHash apps

/-- `getAppUIbundle`: the hash of the bundle, `none` where the app is not found. -/
def getAppUIbundle (apps : OrderedMap String InstalledApp) (appIdentifier : String) :
    Option String :=
  ((apps.get? appIdentifier).filter fun app => app.enabled && app.hasManifest).map
    InstalledApp.uiHash

/-! ### The core worker -/

/-- Each app of the update is deleted and set again; an app that is not in it stays. -/
def updateHashes (mapping updated : HashMapping) : HashMapping :=
  updated.entries.foldl (fun mapping entry => mapping.set entry.1 entry.2)
    (updated.entries.foldl (fun mapping entry => mapping.delete entry.1) mapping)

/-- What a UI request is answered with. -/
inductive UiAnswer where
  | cached (uiHash : String)
  | fetched (uiHash : String)
  | notReady
  | failed
deriving DecidableEq

/-- A UI request between two of its awaited steps, with the hash it read from the mapping. -/
inductive UiRequest where
  | asking (appIdentifier uiHash : String)
  | told (appIdentifier uiHash : String) (bundle : Option String)
  | storing (appIdentifier uiHash : String)
  | answered (appIdentifier : String) (answer : UiAnswer)
deriving DecidableEq

structure AppView where
  apps : OrderedMap String InstalledApp := .empty
  changed : Bool := true
  pushes : List AppHashMapping := []
  appUiHashMapping : HashMapping := .empty
  appWorkerHashMapping : HashMapping := .empty
  bundleCache : List (String × String) := []
  requests : List UiRequest := []

inductive AppViewInput where
  | install (appIdentifier : String) (app : InstalledApp)
  | setEnabled (appIdentifier : String) (enabled : Bool)
  | uninstall (appIdentifier : String)
  | push
  | handlePush
  | request (appIdentifier : String)
  | tell (index : Nat)
  | store (index : Nat)
  | cache (index : Nat)

namespace AppView

variable (view : AppView)

def setRequest (index : Nat) (request : UiRequest) : AppView :=
  { view with requests := view.requests.set index request }

def setEnabled (appIdentifier : String) (enabled : Bool) : AppView :=
  match view.apps.get? appIdentifier with
  | none => view
  | some app =>
      { view with
        apps := view.apps.set appIdentifier { app with enabled := enabled }
        changed := true }

/-- `updateAppHashMapping` of the core worker, on the oldest push that is on its way. -/
def handlePush : AppView :=
  match view.pushes with
  | [] => view
  | pushed :: rest =>
      { view with
        pushes := rest
        appUiHashMapping := updateHashes view.appUiHashMapping pushed.uiHashMapping
        appWorkerHashMapping := updateHashes view.appWorkerHashMapping pushed.workerHashMapping }

/-- The start of `handleUiBundleRequest`: a bundle in the cache is served at once. -/
def request (appIdentifier : String) : AppView :=
  let uiHash := (view.appUiHashMapping.get? appIdentifier).getD ""
  let next :=
    if uiHash != "" && view.bundleCache.contains (appIdentifier, uiHash) then
      .answered appIdentifier (.cached uiHash)
    else .asking appIdentifier uiHash
  { view with requests := view.requests ++ [next] }

/-- The server answers `get_ui_bundle`. -/
def tell (index : Nat) : AppView :=
  match view.requests[index]? with
  | some (.asking appIdentifier uiHash) =>
      setRequest view index (.told appIdentifier uiHash (getAppUIbundle view.apps appIdentifier))
  | _ => view

/-- The hash of the bundle is written to the mapping where it differs from the one read. -/
def store (index : Nat) : AppView :=
  match view.requests[index]? with
  | some (.told appIdentifier _ none) => setRequest view index (.answered appIdentifier .failed)
  | some (.told appIdentifier uiHash (some bundleHash)) =>
      if bundleHash = "" then setRequest view index (.answered appIdentifier .notReady)
      else
        setRequest
          { view with
            appUiHashMapping :=
              if bundleHash ≠ uiHash then view.appUiHashMapping.set appIdentifier bundleHash
              else view.appUiHashMapping }
          index (.storing appIdentifier bundleHash)
  | _ => view

/-- The manifest is written, and the bundle is served. -/
def cache (index : Nat) : AppView :=
  match view.requests[index]? with
  | some (.storing appIdentifier uiHash) =>
      setRequest { view with bundleCache := view.bundleCache ++ [(appIdentifier, uiHash)] } index
        (.answered appIdentifier (.fetched uiHash))
  | _ => view

end AppView

def appViewStep (view : AppView) : AppViewInput → AppView
  | .install appIdentifier app =>
      { view with apps := view.apps.set appIdentifier app, changed := true }
  | .setEnabled appIdentifier enabled => view.setEnabled appIdentifier enabled
  | .uninstall appIdentifier =>
      { view with apps := view.apps.delete appIdentifier, changed := true }
  | .push =>
      { view with pushes := view.pushes ++ [getAppHashMapping view.apps], changed := false }
  | .handlePush => view.handlePush
  | .request appIdentifier => view.request appIdentifier
  | .tell index => view.tell index
  | .store index => view.store index
  | .cache index => view.cache index

/-! ### What the view is to be -/

def SameHashes (left right : HashMapping) : Prop :=
  ∀ appIdentifier, left.get? appIdentifier = right.get? appIdentifier

def HasPushed (view : AppView) (pushed : AppHashMapping) : Prop :=
  SameHashes view.appUiHashMapping pushed.uiHashMapping ∧
    SameHashes view.appWorkerHashMapping pushed.workerHashMapping

/-- The apps were pushed after their last change, and no push is on its way. -/
def Synced (view : AppView) : Prop := view.changed = false ∧ view.pushes = []

/-- A push that is handled leaves its own mappings, and an app that is gone by a push that was
handled is not served from the cache. -/
def StepFollows (view : AppView) : AppViewInput → Prop
  | .handlePush => ∀ first rest, view.pushes = first :: rest → HasPushed view.handlePush first
  | .request appIdentifier => Synced view → view.apps.get? appIdentifier = none →
      ∀ uiHash, (view.request appIdentifier).requests.getLast? ≠
        some (.answered appIdentifier (.cached uiHash))
  | _ => True

/-- Every step of the run follows the server, and what it ends with is what was pushed. -/
structure ViewFollows (inputs : List AppViewInput) : Prop where
  steps : AlongRun appViewStep StepFollows {} inputs
  synced : Synced (run appViewStep {} inputs) →
    HasPushed (run appViewStep {} inputs) (getAppHashMapping (run appViewStep {} inputs).apps)

/-! ### The condition -/

/-- The push has every app that the core worker has a hash of. -/
def Covers (view : AppView) (pushed : AppHashMapping) : Prop :=
  (∀ entry ∈ view.appUiHashMapping.entries, pushed.uiHashMapping.has entry.1 = true) ∧
    ∀ entry ∈ view.appWorkerHashMapping.entries, pushed.workerHashMapping.has entry.1 = true

/-- A bundle answer that is written over a view in step with the server is still what the server
has. -/
def AnswerCurrent (view : AppView) : Option UiRequest → Prop
  | some (.told appIdentifier uiHash (some bundleHash)) =>
      Synced view → bundleHash ≠ "" → bundleHash ≠ uiHash →
        (getAppHashMapping view.apps).uiHashMapping.get? appIdentifier = some bundleHash
  | _ => True

def KeepsFollowing (view : AppView) : AppViewInput → Prop
  | .handlePush => ∀ pushed ∈ view.pushes.head?, Covers view pushed
  | .store index => AnswerCurrent view view.requests[index]?
  | _ => True

/-! ### Mappings -/

theorem get?_foldl_delete (updated : List (String × String)) (mapping : HashMapping)
    (appIdentifier : String) :
    (updated.foldl (fun mapping entry => mapping.delete entry.1) mapping).get? appIdentifier =
      if appIdentifier ∈ updated.map Prod.fst then none else mapping.get? appIdentifier := by
  induction updated generalizing mapping with
  | nil => simp
  | cons entry rest inductionHypothesis =>
      rw [List.foldl_cons, inductionHypothesis, OrderedMap.get?_delete, List.map_cons]
      grind

theorem get?_foldl_set {updated : List (String × String)}
    (distinct : (updated.map Prod.fst).Nodup) (mapping : HashMapping) (appIdentifier : String) :
    (updated.foldl (fun mapping entry => mapping.set entry.1 entry.2) mapping).get?
        appIdentifier = (Record.get? updated appIdentifier).or (mapping.get? appIdentifier) := by
  induction updated generalizing mapping with
  | nil => rfl
  | cons entry rest inductionHypothesis =>
      obtain ⟨absent, restDistinct⟩ := List.nodup_cons.mp distinct
      rw [List.foldl_cons, inductionHypothesis restDistinct, OrderedMap.get?_set, Record.get?_cons]
      by_cases here : appIdentifier = entry.1
      · rw [if_pos here, if_pos here.symm, here, OrderedMap.get?_eq_none.mpr absent,
          Option.none_or, Option.some_or]
      · rw [if_neg here, if_neg (Ne.symm here)]

/-- What is pushed is set, and what is not pushed stays. -/
theorem get?_updateHashes (mapping updated : HashMapping) (appIdentifier : String) :
    (updateHashes mapping updated).get? appIdentifier =
      (updated.get? appIdentifier).or (mapping.get? appIdentifier) := by
  rw [updateHashes, get?_foldl_set updated.distinct, get?_foldl_delete]
  cases held : Record.get? updated.entries appIdentifier with
  | some hash =>
      simp [OrderedMap.get?, held]
  | none =>
      rw [if_neg (OrderedMap.get?_eq_none.mp held)]
      unfold OrderedMap.get?
      rw [held]

theorem updateHashes_exact_iff (mapping updated : HashMapping) :
    SameHashes (updateHashes mapping updated) updated ↔
      ∀ entry ∈ mapping.entries, updated.has entry.1 = true := by
  unfold SameHashes OrderedMap.has
  constructor
  · intro same entry member
    have held := (mapping.mem_entries_iff).mp
        (show (entry.1, entry.2) ∈ mapping.entries from member)
    have here := same entry.1
    rw [get?_updateHashes, held] at here
    grind
  · intro covered appIdentifier
    rw [get?_updateHashes]
    cases pushed : updated.get? appIdentifier with
    | some hash => rfl
    | none =>
        cases held : mapping.get? appIdentifier with
        | none => rfl
        | some hash =>
            have isPushed := covered _ ((mapping.mem_entries_iff).mpr held)
            rw [pushed] at isPushed
            cases isPushed

theorem get?_hashesOf_of_absent (hash : InstalledApp → String)
    {apps : OrderedMap String InstalledApp} {appIdentifier : String}
    (absent : apps.get? appIdentifier = none) : (hashesOf hash apps).get? appIdentifier = none := by
  cases held : (hashesOf hash apps).get? appIdentifier with
  | none => rfl
  | some value =>
      obtain ⟨entry, member, isEntry⟩ :=
        List.mem_map.mp (((hashesOf hash apps).mem_entries_iff).mpr held)
      grind [apps.mem_entries_iff]

/-! ### Every step -/

/-- The push that is sent last says what the apps are, and so does a view in step with it. -/
structure Following (view : AppView) : Prop where
  last : view.changed = false → ∀ pushed, view.pushes.getLast? = some pushed →
    pushed = getAppHashMapping view.apps
  synced : Synced view → HasPushed view (getAppHashMapping view.apps)

/-- A push is handled exactly where it covers the mappings. -/
theorem handlePush_exact_iff {view : AppView} {first : AppHashMapping}
    {rest : List AppHashMapping} (isFirst : view.pushes = first :: rest) :
    HasPushed view.handlePush first ↔ Covers view first := by
  simp [HasPushed, Covers, AppView.handlePush, updateHashes_exact_iff, isFirst]

namespace Following

variable {view : AppView}

theorem change (view : AppView) (apps : OrderedMap String InstalledApp) :
    Following { view with apps := apps, changed := true } := by
  constructor
  · nofun
  · intro synced
    cases synced.1

/-- A UI request moves without writing to the mapping. -/
theorem move (following : Following view) {after : AppView} (apps : after.apps = view.apps)
    (changed : after.changed = view.changed) (pushes : after.pushes = view.pushes)
    (uiHashes : SameHashes after.appUiHashMapping view.appUiHashMapping)
    (workerHashes : after.appWorkerHashMapping = view.appWorkerHashMapping) :
    Following after := by
  constructor
  · rw [changed, pushes, apps]
    exact following.last
  · intro synced
    rw [Synced, changed, pushes] at synced
    obtain ⟨sameUi, sameWorker⟩ := following.synced synced
    rw [apps]
    refine ⟨fun appIdentifier => (uiHashes appIdentifier).trans (sameUi appIdentifier), ?_⟩
    rw [workerHashes]
    exact sameWorker

theorem setEnabled (following : Following view) (appIdentifier : String) (enabled : Bool) :
    Following (view.setEnabled appIdentifier enabled) := by
  unfold AppView.setEnabled
  split
  · exact following
  · exact change view _

theorem push (view : AppView) :
    Following
      { view with pushes := view.pushes ++ [getAppHashMapping view.apps], changed := false } := by
  constructor
  · simp
  · intro synced
    exact absurd synced.2 (by simp)

theorem handlePush (following : Following view)
    (covers : KeepsFollowing view .handlePush) : Following view.handlePush := by
  cases isPushes : view.pushes with
  | nil =>
      rw [AppView.handlePush, isPushes]
      exact following
  | cons first rest =>
      have exact := (handlePush_exact_iff isPushes).mpr (covers first (by rw [isPushes]; rfl))
      have after : view.handlePush.pushes = rest ∧ view.handlePush.changed = view.changed ∧
          view.handlePush.apps = view.apps := by
        rw [AppView.handlePush, isPushes]
        exact ⟨rfl, rfl, rfl⟩
      obtain ⟨restLeft, sameChanged, sameApps⟩ := after
      constructor
      · grind [following.last]
      · intro synced
        rw [Synced, restLeft, sameChanged] at synced
        have isLast : first = getAppHashMapping view.apps := by
          apply following.last synced.1
          rw [isPushes, synced.2]
          rfl
        rw [sameApps, ← isLast]
        exact exact

theorem tell (following : Following view) (index : Nat) : Following (view.tell index) := by
  unfold AppView.tell
  split
  · exact following.move rfl rfl rfl (fun _ => rfl) rfl
  · exact following

theorem cache (following : Following view) (index : Nat) : Following (view.cache index) := by
  unfold AppView.cache
  split
  · exact following.move rfl rfl rfl (fun _ => rfl) rfl
  · exact following

/-- Over a view in step with the server, an answer that is current writes what is there. -/
theorem store (following : Following view) {index : Nat}
    (current : KeepsFollowing view (.store index)) : Following (view.store index) := by
  unfold KeepsFollowing AnswerCurrent at current
  unfold AppView.store
  dsimp only at current
  split
  · exact following.move rfl rfl rfl (fun _ => rfl) rfl
  · rename_i appIdentifier uiHash bundleHash isTold
    rw [isTold] at current
    split
    · exact following.move rfl rfl rfl (fun _ => rfl) rfl
    · rename_i notEmpty
      by_cases differs : bundleHash ≠ uiHash
      · constructor
        · exact following.last
        · intro synced
          obtain ⟨sameUi, sameWorker⟩ := following.synced synced
          refine ⟨?_, sameWorker⟩
          intro other
          show (if bundleHash ≠ uiHash then view.appUiHashMapping.set appIdentifier bundleHash
            else view.appUiHashMapping).get? other = _
          rw [if_pos differs, OrderedMap.get?_set]
          by_cases here : other = appIdentifier
          · rw [if_pos here, here]
            exact (current synced notEmpty differs).symm
          · rw [if_neg here]
            exact sameUi other
      · have unwritten : ∀ other,
            (if bundleHash ≠ uiHash then view.appUiHashMapping.set appIdentifier bundleHash
              else view.appUiHashMapping).get? other = view.appUiHashMapping.get? other := by
          intro other
          rw [if_neg differs]
        exact following.move rfl rfl rfl unwritten rfl
  · exact following

theorem step (following : Following view) {input : AppViewInput}
    (keeps : KeepsFollowing view input) : Following (appViewStep view input) := by
  cases input with
  | install appIdentifier app => exact change view _
  | setEnabled appIdentifier enabled => exact following.setEnabled appIdentifier enabled
  | uninstall appIdentifier => exact change view _
  | push => exact push view
  | handlePush => exact following.handlePush keeps
  | request appIdentifier => exact following.move rfl rfl rfl (fun _ => rfl) rfl
  | tell index => exact following.tell index
  | store index => exact following.store keeps
  | cache index => exact following.cache index

theorem stepFollows (following : Following view) {input : AppViewInput}
    (keeps : KeepsFollowing view input) : StepFollows view input := by
  cases input with
  | handlePush =>
      intro first rest isPushes
      exact (handlePush_exact_iff isPushes).mpr (keeps first (by rw [isPushes]; rfl))
  | request appIdentifier =>
      intro synced gone uiHash served
      have noHash : view.appUiHashMapping.get? appIdentifier = none := by
        rw [(following.synced synced).1 appIdentifier]
        exact get?_hashesOf_of_absent InstalledApp.uiHash gone
      rw [AppView.request, noHash] at served
      simp at served
  | install appIdentifier app => trivial
  | setEnabled appIdentifier enabled => trivial
  | uninstall appIdentifier => trivial
  | push => trivial
  | tell index => trivial
  | store index => trivial
  | cache index => trivial

end Following

theorem following_start : Following {} := by
  constructor
  · nofun
  · intro synced
    cases synced.1

section Decidability

variable (view : AppView)

instance (pushed : AppHashMapping) : Decidable (Covers view pushed) :=
  inferInstanceAs (Decidable (_ ∧ _))

instance : Decidable (Synced view) :=
  decidable_of_iff (view.changed = false ∧ view.pushes.isEmpty = true)
    (and_congr Iff.rfl List.isEmpty_iff)

instance : ∀ request, Decidable (AnswerCurrent view request)
  | some (.told _ _ (some _)) => inferInstanceAs (Decidable (_ → _ → _ → _))
  | some (.told _ _ none) => instDecidableTrue
  | some (.asking _ _) => instDecidableTrue
  | some (.storing _ _) => instDecidableTrue
  | some (.answered _ _) => instDecidableTrue
  | none => instDecidableTrue

instance : ∀ input, Decidable (KeepsFollowing view input)
  | .handlePush =>
      inferInstanceAs (Decidable (∀ pushed ∈ view.pushes.head?, Covers view pushed))
  | .store index => inferInstanceAs (Decidable (AnswerCurrent view view.requests[index]?))
  | .install _ _ => instDecidableTrue
  | .setEnabled _ _ => instDecidableTrue
  | .uninstall _ => instDecidableTrue
  | .push => instDecidableTrue
  | .request _ => instDecidableTrue
  | .tell _ => instDecidableTrue
  | .cache _ => instDecidableTrue

end Decidability

/-! ### An app that is gone -/

def sampleApp : InstalledApp where
  enabled := true
  uiHash := "u1"
  hasManifest := true
  workerHash := "w1"

/-- An app is installed and its bundle served; then it is uninstalled, and that is pushed. -/
def goneInputs : List AppViewInput :=
  [.install "notes-0000aaaa" sampleApp, .push, .handlePush, .request "notes-0000aaaa", .tell 0,
    .store 0, .cache 0, .uninstall "notes-0000aaaa", .push, .handlePush,
    .request "notes-0000aaaa"]

end Lombok.Worker
