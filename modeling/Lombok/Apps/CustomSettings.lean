import Mathlib.Algebra.Ring.Nat
import Lombok.Core.World
import Lombok.Core.ObjectSpread
import Lombok.Apps.SettingsValues

/-!
Contract: the custom settings service, and what becomes of the secrets in it.

Owns the masked reads of both scopes, the checks on a patch with their messages,
and the patch itself. A read depends on the secret leaves through their shape
alone. A patch writes the keys it names, in its own scope, and leaves every
other stored value as it is.

The schema library, the regular expression engine and the stored size of a value
are parameters.
-/

namespace Lombok.Apps

open Lombok.Core Lombok.Library Lombok.Library.Action

/-- One complaint about a value. -/
structure FormattedZodIssue where
  path : String
  message : String
deriving DecidableEq

/-- What the service throws; `issues` are the details of a rejected patch. -/
inductive SettingsError where
  | badRequest (message : String) (issues : List FormattedZodIssue)
  | thrown (error : ApiError)
deriving DecidableEq

structure SettingsEnv where
  regExp : RegExp
  /-- What `propertyToZod(property).safeParse(value)` complains of, flattened; `none` when it
  succeeds. -/
  safeParse : Json → Json → Option (List FormattedZodIssue)
  /-- `octet_length(value::text)`. -/
  octetLength : Json → Nat

abbrev SettingsService := Action World SettingsError

def AppConfig.secretKeyPattern (config : AppConfig) : Option String :=
  config.settings.bind AppSettingsConfig.secretKeyPattern

def AppConfig.userSchema (config : AppConfig) : Option Json :=
  config.settings.bind AppSettingsConfig.user

def AppConfig.folderSchema (config : AppConfig) : Option Json :=
  config.settings.bind AppSettingsConfig.folder

/-! ### Reads -/

structure CustomSettingsGetResponse where
  values : Fields
  sources : List (String × CustomSettingSource)
  schema : Option Json
  secretKeyPattern : Option String

/-- What a read answers, once the settings are resolved. -/
def settingsResponse (env : SettingsEnv) (config : AppConfig) (schema : Json)
    (resolved : List ResolvedSetting) : Except SettingsError CustomSettingsGetResponse :=
  match maskSecretValues env.regExp resolved config.secretKeyPattern with
  | .error error => .error (.thrown error)
  | .ok values =>
      .ok
        { values := values
          sources := resolved.map fun setting => (setting.key, setting.source)
          schema := some schema
          secretKeyPattern := config.secretKeyPattern }

/-- What a read answers for a scope without a schema. -/
def noSettings (config : AppConfig) : CustomSettingsGetResponse :=
  { values := [], sources := [], schema := none, secretKeyPattern := config.secretKeyPattern }

def getUserCustomSettings (env : SettingsEnv) (userId : String) (app : App) :
    SettingsService CustomSettingsGetResponse :=
  match app.config.userSchema with
  | none => pure (noSettings app.config)
  | some schema => fun world =>
      let userValues := readScopeValues world.db.appCustomUserSettings userId app.id
      (settingsResponse env app.config schema
        (resolveCustomSettings schema (some userValues) none), world)

def getFolderCustomSettings (env : SettingsEnv) (userId folderId : String) (app : App) :
    SettingsService CustomSettingsGetResponse :=
  match app.config.folderSchema with
  | none => pure (noSettings app.config)
  | some schema => fun world =>
      let userValues := readScopeValues world.db.appCustomUserSettings userId app.id
      let folderValues := readScopeValues world.db.appCustomFolderSettings folderId app.id
      (settingsResponse env app.config schema
        (resolveCustomSettings schema (filterValuesToSchema userValues schema)
          (some folderValues)), world)

/-! ### The checks on a patch -/

def isLowerOrDigit (character : Char) : Bool :=
  ('a' ≤ character && character ≤ 'z') || ('0' ≤ character && character ≤ '9')

/-- `SETTINGS_KEY_REGEX.test(key)`. -/
def isSettingsKey (key : String) : Bool :=
  match key.toList.head?, key.toList.getLast? with
  | some first, some last =>
      isLowerOrDigit first && isLowerOrDigit last &&
        key.toList.all fun character => isLowerOrDigit character || character == '_'
  | _, _ => false

/-- The validator of a key: that of a property schema, or `undefined`, which is what the
inherited key gives. -/
inductive KeyValidator where
  | property (schema : Json)
  | undefined

/-- `jsonSchemaPropertyToZod`: the own property, then the first pattern that matches. -/
def jsonSchemaPropertyToZod (schema : Json) (key : String) : Option KeyValidator :=
  match (schemaProperties schema).get? key with
  | some property => some (.property property)
  | none =>
      if key = inheritedKey then some .undefined
      else
        (((schemaPatterns schema).getD []).find? fun pattern => matchesPattern pattern.1 key).map
          fun pattern => .property pattern.2

def summariseZodError (flat : List FormattedZodIssue) : String :=
  if flat.isEmpty then "Invalid input"
  else
    "\n".intercalate (flat.map fun issue =>
      if issue.path = "" then "  • " ++ issue.message
      else "  • " ++ issue.path ++ ": " ++ issue.message)

def keyFormatMessage : String :=
  "Setting key must be lowercase a-z / 0-9 / _ and must not start or end with _"

/-- The complaints about one entry of a patch, and their summaries. -/
def settingIssues (env : SettingsEnv) (schema : Json) (key : String) (value : Json) :
    Except SettingsError (List FormattedZodIssue × List String) :=
  let summary := fun (text : String) => "Setting \"" ++ key ++ "\":\n" ++ text
  if !isSettingsKey key then
    .ok ([{ path := key, message := keyFormatMessage }], [summary "  • invalid key format"])
  else
    match jsonSchemaPropertyToZod schema key with
    | none =>
        .ok ([{ path := key, message := "Unknown setting key" }],
          [summary "  • unknown setting key"])
    | some validator =>
        match value, validator with
        | .null, _ => .ok ([], [])
        | _, .undefined => .error (.thrown (.serviceError "TypeError"))
        | value, .property property =>
            match env.safeParse property value with
            | none => .ok ([], [])
            | some flat =>
                .ok (flat.map fun leaf =>
                    { leaf with path := if leaf.path = "" then key else key ++ "." ++ leaf.path },
                  [summary (summariseZodError flat)])

def collectIssues (env : SettingsEnv) (schema : Json) :
    Fields → Except SettingsError (List FormattedZodIssue × List String)
  | [] => .ok ([], [])
  | (key, value) :: rest => do
      let found ← settingIssues env schema key value
      let later ← collectIssues env schema rest
      pure (found.1 ++ later.1, found.2 ++ later.2)

/-- Every issue across every key is collected before throwing. -/
def validatePatchValues (env : SettingsEnv) (schema : Json) (values : Fields) :
    Except SettingsError Unit := do
  let (issues, summaries) ← collectIssues env schema values
  match issues with
  | [] => pure ()
  | [issue] =>
      .error (.badRequest ("Invalid setting value: " ++ issue.path ++ " — " ++ issue.message)
        issues)
  | _ =>
      .error (.badRequest ("Invalid settings patch (" ++ toString issues.length ++ " issues)\n" ++
        "\n".intercalate summaries) issues)

/-! ### Writes -/

def AppCustomSetting.isAt (scopeId appId key : String) (row : AppCustomSetting) : Bool :=
  row.scopeId == scopeId && row.appId == appId && row.key == key

def AppCustomSetting.withValue (value : Json) (row : AppCustomSetting) : AppCustomSetting :=
  { row with value := value }

theorem keeps_withValue (value : Json) :
    Keeps AppCustomSetting.clash (AppCustomSetting.withValue value) :=
  fun _ _ => ⟨rfl, rfl⟩

/-- `insert(table).values(row).onConflictDoUpdate({ set: { value } })`. -/
def upsertSetting (table : AppCustomSettingsTable) (row : AppCustomSetting) :
    AppCustomSettingsTable :=
  match table.insert row with
  | some inserted => inserted
  | none =>
      table.update (AppCustomSetting.isAt row.scopeId row.appId row.key)
        (AppCustomSetting.withValue row.value) (keeps_withValue row.value)

/-- One entry of a patch: `null` deletes. -/
def writeSetting (scopeId appId : String) (table : AppCustomSettingsTable)
    (entry : String × Json) : AppCustomSettingsTable :=
  match entry.2 with
  | .null => table.delete (AppCustomSetting.isAt scopeId appId entry.1)
  | value =>
      upsertSetting table
        { scopeId := scopeId, appId := appId, key := entry.1, value := value }

inductive SettingsScope where
  | user
  | folder
deriving DecidableEq

def SettingsScope.table : SettingsScope → Database → AppCustomSettingsTable
  | .user, db => db.appCustomUserSettings
  | .folder, db => db.appCustomFolderSettings

def SettingsScope.withTable : SettingsScope → AppCustomSettingsTable → Database → Database
  | .user, table, db => { db with appCustomUserSettings := table }
  | .folder, table, db => { db with appCustomFolderSettings := table }

/-- 64KB. -/
def maxValuesSize : Nat := 64 * 1024

def valuesSize (env : SettingsEnv) (scopeId appId : String) (table : AppCustomSettingsTable) :
    Nat :=
  let rows := table.view (AppCustomSetting.inScope scopeId appId)
  (rows.map fun row => env.octetLength row.value).sum

def writePatch (env : SettingsEnv) (scope : SettingsScope) (scopeId appId : String)
    (patch : Fields) : SettingsService Unit :=
  transaction do
    Action.modify fun world =>
      { world with
        db := scope.withTable (patch.foldl (writeSetting scopeId appId) (scope.table world.db))
          world.db }
    let total ← Action.gets fun world => valuesSize env scopeId appId (scope.table world.db)
    Action.require (total ≤ maxValuesSize)
      (.badRequest "Settings values exceed maximum size of 64KB" [])

def broadcastUserSettingsChanged (userId : String) (app : App) : SettingsService Unit :=
  Action.modify fun world =>
    { world with
      effects := world.effects ++ [{ actor := app.identifier, action := .appUserNotified userId }] }

def patchUserCustomSettings (env : SettingsEnv) (userId : String) (app : App) (patch : Fields) :
    SettingsService CustomSettingsGetResponse :=
  match app.config.userSchema with
  | none => throw (.badRequest "This app does not define user-level custom settings" [])
  | some schema => do
      ofExcept (validatePatchValues env schema patch)
      writePatch env .user userId app.id patch
      broadcastUserSettingsChanged userId app
      getUserCustomSettings env userId app

def patchFolderCustomSettings (env : SettingsEnv) (folderId : String) (app : App)
    (patch : Fields) : SettingsService Unit :=
  match app.config.folderSchema with
  | none => throw (.badRequest "This app does not define folder-level custom settings" [])
  | some schema => do
      ofExcept (validatePatchValues env schema patch)
      writePatch env .folder folderId app.id patch
      pure ()

/-! ### What a patch leaves -/

def storedValue (table : AppCustomSettingsTable) (scopeId appId key : String) : Option Json :=
  (table.find? (AppCustomSetting.isAt scopeId appId key)).map AppCustomSetting.value

def patchedValue (sent stored : Option Json) : Option Json :=
  match sent with
  | none => stored
  | some .null => none
  | some value => some value

section Stored

variable {table : AppCustomSettingsTable} {scopeId appId key : String}

theorem isAt_iff {row : AppCustomSetting} :
    row.isAt scopeId appId key = true ↔
      row.scopeId = scopeId ∧ row.appId = appId ∧ row.key = key := by
  unfold AppCustomSetting.isAt
  simp [and_assoc]

theorem storedValue_upsert (row : AppCustomSetting) :
    storedValue (upsertSetting table row) scopeId appId key =
      if row.isAt scopeId appId key = true then some row.value
      else storedValue table scopeId appId key := by
  unfold storedValue upsertSetting
  cases inserted : table.insert row with
  | some after =>
      have fresh := Table.insert_fresh inserted
      rw [Table.find?_insert inserted]
      by_cases here : row.isAt scopeId appId key = true
      · have absent : table.find? (AppCustomSetting.isAt scopeId appId key) = none := by
          refine List.find?_eq_none.mpr fun other member atKey => ?_
          obtain ⟨rfl, rfl, rfl⟩ := isAt_iff.mp here
          have apart := fresh other member
          exact Bool.false_ne_true (apart.symm.trans atKey)
        rw [if_pos here, absent, if_pos here]
        rfl
      · rw [if_neg here, if_neg here, Option.or_none]
  | none =>
      have taken : ∃ other ∈ table.rows, other.isAt row.scopeId row.appId row.key = true := by
        by_contra allApart
        push Not at allApart
        have fresh : ∀ other ∈ table.rows, AppCustomSetting.clash other row = false :=
          fun other member => Bool.eq_false_iff.mpr (allApart other member)
        obtain ⟨after, isInserted⟩ := Table.insert_of_fresh fresh
        rw [inserted] at isInserted
        cases isInserted
      have stable : ∀ other, AppCustomSetting.isAt scopeId appId key
          (AppCustomSetting.withValue row.value other) = other.isAt scopeId appId key :=
        fun _ => rfl
      rw [Table.find?_update stable]
      by_cases here : row.isAt scopeId appId key = true
      · obtain ⟨rfl, rfl, rfl⟩ := isAt_iff.mp here
        obtain ⟨other, member, atKey⟩ := taken
        have isFound := List.find?_isSome.mpr ⟨other, member, atKey⟩
        obtain ⟨found, lookup⟩ := Option.isSome_iff_exists.mp isFound
        have foundAt := List.find?_some lookup
        rw [Table.find?, if_pos here, lookup, Option.map_some, if_pos foundAt]
        rfl
      · rw [if_neg here, Option.map_map]
        cases lookup : table.find? (AppCustomSetting.isAt scopeId appId key) with
        | none => rfl
        | some found =>
            have foundAt := List.find?_some lookup
            have elsewhere : ¬found.isAt row.scopeId row.appId row.key = true := by
              intro atRow
              obtain ⟨sameScope, sameApp, sameKey⟩ := isAt_iff.mp foundAt
              obtain ⟨rowScope, rowApp, rowKey⟩ := isAt_iff.mp atRow
              exact here (isAt_iff.mpr ⟨rowScope.symm.trans sameScope, rowApp.symm.trans sameApp,
                rowKey.symm.trans sameKey⟩)
            simp [elsewhere]

theorem storedValue_delete (otherScope otherApp otherKey : String) :
    storedValue (table.delete (AppCustomSetting.isAt otherScope otherApp otherKey))
        scopeId appId key =
      if otherScope = scopeId ∧ otherApp = appId ∧ otherKey = key then none
      else storedValue table scopeId appId key := by
  unfold storedValue
  by_cases here : otherScope = scopeId ∧ otherApp = appId ∧ otherKey = key
  · obtain ⟨rfl, rfl, rfl⟩ := here
    have absent : (table.delete (AppCustomSetting.isAt otherScope otherApp otherKey)).find?
        (AppCustomSetting.isAt otherScope otherApp otherKey) = none := by
      refine List.find?_eq_none.mpr fun row member atKey => ?_
      have kept := (List.mem_filter.mp member).2
      rw [atKey] at kept
      cases kept
    rw [absent, if_pos ⟨rfl, rfl, rfl⟩]
    rfl
  · rw [if_neg here, Table.find?_delete]
    intro row atKey
    refine Bool.eq_false_iff.mpr fun atOther => ?_
    obtain ⟨sameScope, sameApp, sameKey⟩ := isAt_iff.mp atKey
    grind [isAt_iff.mp]

/-- One entry of a patch writes its own key in its own scope, and nothing else. -/
theorem storedValue_write (scope app : String) (entry : String × Json) :
    storedValue (writeSetting scope app table entry) scopeId appId key =
      if scope = scopeId ∧ app = appId ∧ entry.1 = key then patchedValue (some entry.2) none
      else storedValue table scopeId appId key := by
  obtain ⟨name, value⟩ := entry
  have written : ∀ value : Json,
      storedValue (upsertSetting table ⟨scope, app, name, value⟩) scopeId appId key =
        if scope = scopeId ∧ app = appId ∧ name = key then some value
        else storedValue table scopeId appId key := by
    intro value
    rw [storedValue_upsert]
    simp only [isAt_iff]
  cases value with
  | null => exact storedValue_delete scope app name
  | bool _ => exact written _
  | num _ => exact written _
  | str _ => exact written _
  | arr _ => exact written _
  | obj _ => exact written _

/-- A patch lays its entries over the values of its scope. -/
theorem storedValue_patch (scope app : String) {patch : Fields} (distinct : patch.Distinct) :
    storedValue (patch.foldl (writeSetting scope app) table) scopeId appId key =
      if scope = scopeId ∧ app = appId then
        patchedValue (patch.get? key) (storedValue table scopeId appId key)
      else storedValue table scopeId appId key := by
  induction patch generalizing table with
  | nil => simp [patchedValue]
  | cons entry rest inductionHypothesis =>
      obtain ⟨absent, restDistinct⟩ := List.nodup_cons.mp distinct
      rw [List.foldl_cons, inductionHypothesis restDistinct, storedValue_write, Fields.get?_cons]
      by_cases inScope : scope = scopeId ∧ app = appId
      · rw [if_pos inScope, if_pos inScope]
        by_cases same : entry.1 = key
        · have noLater : Fields.get? rest key = none := by
            rw [← same]
            exact Fields.get?_eq_none_of_absent absent
          rw [if_pos ⟨inScope.1, inScope.2, same⟩, if_pos (beq_iff_eq.mpr same), noLater]
          cases entry.2 <;> rfl
        · rw [if_neg fun all => same all.2.2, if_neg (by simpa using same)]
      · rw [if_neg inScope, if_neg inScope, if_neg fun all => inScope ⟨all.1, all.2.1⟩]

end Stored

/-! ### Reads and patches as a whole -/

variable {patch : Fields} {scope : SettingsScope} {scopeId appId : String} (env : SettingsEnv)

theorem settingsResponse_congr (config : AppConfig) (schema : Json)
    {settings others : List ResolvedSetting}
    (agree : List.Forall₂ (ResolvedSetting.Agree (secretKeys env.regExp config.secretKeyPattern))
      settings others) :
    settingsResponse env config schema settings = settingsResponse env config schema others := by
  have sources : settings.map (fun setting => (setting.key, setting.source)) =
      others.map fun setting => (setting.key, setting.source) := by
    induction agree with
    | nil => rfl
    | cons head _ inductionHypothesis =>
        rw [List.map_cons, List.map_cons, inductionHypothesis, head.1, head.2.1]
  grind [settingsResponse, maskSecretValues_congr]

theorem getUserCustomSettings_congr (userId : String) (app : App) {left right : World}
    (users : AgreeInScope (secretKeys env.regExp app.config.secretKeyPattern) userId app.id
      left.db.appCustomUserSettings right.db.appCustomUserSettings) :
    (getUserCustomSettings env userId app left).1 =
      (getUserCustomSettings env userId app right).1 := by
  unfold getUserCustomSettings
  cases app.config.userSchema with
  | none => rfl
  | some schema =>
      exact settingsResponse_congr env app.config schema (resolveCustomSettings_agree schema
        (Option.Rel.some (readScopeValues_agree users)) Option.Rel.none)

theorem getFolderCustomSettings_congr (userId folderId : String) (app : App) {left right : World}
    (users : AgreeInScope (secretKeys env.regExp app.config.secretKeyPattern) userId app.id
      left.db.appCustomUserSettings right.db.appCustomUserSettings)
    (folders : AgreeInScope (secretKeys env.regExp app.config.secretKeyPattern) folderId app.id
      left.db.appCustomFolderSettings right.db.appCustomFolderSettings) :
    (getFolderCustomSettings env userId folderId app left).1 =
      (getFolderCustomSettings env userId folderId app right).1 := by
  unfold getFolderCustomSettings
  cases app.config.folderSchema with
  | none => rfl
  | some schema =>
      grind [settingsResponse_congr, resolveCustomSettings_agree, filterValuesToSchema_agree,
        readScopeValues_agree, Option.Rel.some]

/-- What a patch does to the stored values of both scopes. -/
structure PatchKeeps {α : Type} (scope : SettingsScope) (scopeId appId : String) (patch : Fields)
    (before : World) (outcome : Except SettingsError α × World) : Prop where
  /-- Whatever the outcome, a key that is not named keeps its value, as does every other scope. -/
  others : ∀ anyScope otherId otherApp key,
    (anyScope = scope → otherId = scopeId → otherApp = appId → patch.get? key = none) →
      storedValue (anyScope.table outcome.2.db) otherId otherApp key =
        storedValue (anyScope.table before.db) otherId otherApp key
  /-- An accepted patch leaves the value sent at each key it names. -/
  accepted : ∀ answer, outcome.1 = .ok answer → ∀ key,
    storedValue (scope.table outcome.2.db) scopeId appId key =
      patchedValue (patch.get? key) (storedValue (scope.table before.db) scopeId appId key)

/-- A call that throws before it wrote anything. -/
theorem PatchKeeps.of_error {α : Type} {before : World} {outcome : Except SettingsError α × World}
    {error : SettingsError} (threw : outcome = (.error error, before)) :
    PatchKeeps scope scopeId appId patch before outcome := by
  rw [threw]
  refine ⟨fun _ _ _ _ _ => rfl, ?_⟩
  nofun

/-- A call that laid the patch over its scope, whether or not it throws afterwards. -/
theorem PatchKeeps.of_written {α : Type} (distinct : patch.Distinct) {before : World}
    {outcome : Except SettingsError α × World}
    (written : outcome.2.db = scope.withTable
      (patch.foldl (writeSetting scopeId appId) (scope.table before.db)) before.db) :
    PatchKeeps scope scopeId appId patch before outcome := by
  have own : ∀ otherId otherApp key,
      storedValue (scope.table outcome.2.db) otherId otherApp key =
        if scopeId = otherId ∧ appId = otherApp then
          patchedValue (patch.get? key) (storedValue (scope.table before.db) otherId otherApp key)
        else storedValue (scope.table before.db) otherId otherApp key := by
    intro otherId otherApp key
    rw [written]
    cases scope with
    | user => exact storedValue_patch scopeId appId distinct
    | folder => exact storedValue_patch scopeId appId distinct
  refine ⟨?_, ?_⟩
  · intro anyScope otherId otherApp key unnamed
    by_cases sameScope : anyScope = scope
    · subst sameScope
      rw [own]
      split
      · rename_i inScope
        rw [unnamed rfl inScope.1.symm inScope.2.symm]
        rfl
      · rfl
    · rw [written]
      cases anyScope with
      | user =>
          cases scope with
          | user => exact absurd rfl sameScope
          | folder => rfl
      | folder =>
          cases scope with
          | user => rfl
          | folder => exact absurd rfl sameScope
  · intro answer _ key
    rw [own, if_pos ⟨rfl, rfl⟩]

theorem writePatch_cases (scope : SettingsScope) (scopeId appId : String) (patch : Fields)
    (before : World) :
    (∃ after, Returns (writePatch env scope scopeId appId patch) before () after ∧
        after.db = scope.withTable
          (patch.foldl (writeSetting scopeId appId) (scope.table before.db)) before.db) ∨
      ∃ error, writePatch env scope scopeId appId patch before = (.error error, before) := by
  rcases transaction_cases _ before with ⟨_, after, returned, committed⟩ | rolledBack
  · left
    obtain ⟨_, middle, wrote, checks⟩ := returns_bind.mp returned
    obtain ⟨total, measured, readTotal, fits⟩ := returns_bind.mp checks
    obtain rfl := returns_modify.mp wrote
    obtain ⟨-, rfl⟩ := returns_gets.mp readTotal
    obtain ⟨-, rfl⟩ := returns_require.mp fits
    exact ⟨_, committed, rfl⟩
  · exact .inr rolledBack

theorem getUserCustomSettings_state (userId : String) (app : App) (world : World) :
    (getUserCustomSettings env userId app world).2 = world := by
  unfold getUserCustomSettings
  cases app.config.userSchema with
  | none => rfl
  | some schema => rfl

theorem PatchKeeps.of_checked {α : Type} {env : SettingsEnv} {schema : Json}
    (distinct : patch.Distinct) (before : World) {last : SettingsService α}
    (readsOnly : ∀ world, (last world).2.db = world.db) :
    PatchKeeps scope scopeId appId patch before
      ((do
        ofExcept (validatePatchValues env schema patch)
        writePatch env scope scopeId appId patch
        last : SettingsService α) before) := by
  cases valid : validatePatchValues env schema patch with
  | error error => exact PatchKeeps.of_error (bind_of_throws rfl)
  | ok _ =>
      have validated : Returns (ofExcept (.ok ()) : SettingsService Unit) before () before := rfl
      rw [bind_of_returns validated]
      rcases writePatch_cases env scope scopeId appId patch before with
        ⟨after, returned, written⟩ | ⟨error, threw⟩
      · grind [bind_of_returns, PatchKeeps.of_written]
      · exact PatchKeeps.of_error (bind_of_throws threw)

theorem patchUserCustomSettings_keeps (userId : String) (app : App) (distinct : patch.Distinct)
    (before : World) :
    PatchKeeps .user userId app.id patch before
      (patchUserCustomSettings env userId app patch before) := by
  unfold patchUserCustomSettings
  cases app.config.userSchema with
  | none => exact PatchKeeps.of_error rfl
  | some schema =>
      refine PatchKeeps.of_checked distinct before fun world => ?_
      have notified : Returns (broadcastUserSettingsChanged userId app) world () _ := rfl
      rw [bind_of_returns notified, getUserCustomSettings_state]

theorem patchFolderCustomSettings_keeps (folderId : String) (app : App) (distinct : patch.Distinct)
    (before : World) :
    PatchKeeps .folder folderId app.id patch before
      (patchFolderCustomSettings env folderId app patch before) := by
  unfold patchFolderCustomSettings
  cases app.config.folderSchema with
  | none => exact PatchKeeps.of_error rfl
  | some schema => exact PatchKeeps.of_checked distinct before fun _ => rfl

/-- Secrets in settings: a masked read depends on the stored values of its scopes only through
what agrees outside the secret leaves, and a patch changes the values it names and no others. -/
theorem customSettings_keepSecrets (env : SettingsEnv) (app : App) :
    (∀ userId folderId (left right : World),
      AgreeInScope (secretKeys env.regExp app.config.secretKeyPattern) userId app.id
          left.db.appCustomUserSettings right.db.appCustomUserSettings →
        (getUserCustomSettings env userId app left).1 =
            (getUserCustomSettings env userId app right).1 ∧
          (AgreeInScope (secretKeys env.regExp app.config.secretKeyPattern) folderId app.id
              left.db.appCustomFolderSettings right.db.appCustomFolderSettings →
            (getFolderCustomSettings env userId folderId app left).1 =
              (getFolderCustomSettings env userId folderId app right).1)) ∧
      ∀ (patch : Fields) (before : World), patch.Distinct →
        (∀ userId, PatchKeeps .user userId app.id patch before
          (patchUserCustomSettings env userId app patch before)) ∧
        ∀ folderId, PatchKeeps .folder folderId app.id patch before
          (patchFolderCustomSettings env folderId app patch before) := by
  refine ⟨?_, ?_⟩
  · intro userId folderId left right users
    refine ⟨getUserCustomSettings_congr env userId app users, ?_⟩
    intro folders
    exact getFolderCustomSettings_congr env userId folderId app users folders
  · intro patch before distinct
    refine ⟨?_, ?_⟩
    · intro userId
      exact patchUserCustomSettings_keeps env userId app distinct before
    · intro folderId
      exact patchFolderCustomSettings_keeps env folderId app distinct before

/-- An engine that knows the literal prefixes, and a library that accepts every value. -/
def SettingsEnv.sample : SettingsEnv where
  regExp pattern := some (matchesPattern pattern)
  safeParse _ _ := none
  octetLength value := (Json.render value).length

def settingsApp : App :=
  { App.sample with
    config :=
      { settings := some
          { secretKeyPattern := some "^token"
            user := some (.obj [("properties", .obj [("token", .obj [("type", .str "array")]),
              ("theme", .obj [("type", .str "string")])])])
            folder := none } } }

/-- A world in which the user `u` stored one value under `token`. -/
def worldWithToken (value : Json) : World where
  db :=
    { appCustomUserSettings :=
        .singleton { scopeId := "u", appId := "app-id", key := "token", value := value } }

/-- Two tokens have one masked read, and a patch of the theme keeps the one that is stored. -/
theorem customSettings_keepSecrets_tokens :
    (getUserCustomSettings .sample "u" settingsApp (worldWithToken (.str "sk-1"))).1 =
        (getUserCustomSettings .sample "u" settingsApp (worldWithToken (.str "sk-2"))).1 ∧
      storedValue (patchUserCustomSettings .sample "u" settingsApp [("theme", .str "dark")]
        (worldWithToken (.str "sk-1"))).2.db.appCustomUserSettings "u" "app-id" "token" =
          some (.str "sk-1") := by
  have kept := customSettings_keepSecrets .sample settingsApp
  refine ⟨?_, ?_⟩
  · have agree : AgreeInScope (secretKeys SettingsEnv.sample.regExp
        settingsApp.config.secretKeyPattern) "u" settingsApp.id
        (worldWithToken (.str "sk-1")).db.appCustomUserSettings
        (worldWithToken (.str "sk-2")).db.appCustomUserSettings :=
      List.Forall₂.cons ⟨rfl, rfl, fun open_ => absurd open_ (by decide)⟩ List.Forall₂.nil
    exact (kept.1 "u" "f" _ _ agree).1
  · have patched := (kept.2 [("theme", .str "dark")] (worldWithToken (.str "sk-1"))
      (List.pairwise_singleton _ _)).1 "u"
    exact patched.others .user "u" "app-id" "token" fun _ _ _ => rfl

/-- The shape of a secret shows in the masked read, and a masked read that is sent back as a
whole replaces the secret by the mask. -/
theorem secrets_notHidden_notKept :
    (getUserCustomSettings .sample "u" settingsApp
        (worldWithToken (.arr [.str "sk-1"]))).1.map CustomSettingsGetResponse.values =
          .ok [("token", .arr [.str maskedValue])] ∧
      (getUserCustomSettings .sample "u" settingsApp
        (worldWithToken (.arr [.str "sk-1", .str "sk-2"]))).1.map
          CustomSettingsGetResponse.values =
            .ok [("token", .arr [.str maskedValue, .str maskedValue])] ∧
      storedValue (patchUserCustomSettings .sample "u" settingsApp
        [("token", .arr [.str maskedValue])]
        (worldWithToken (.arr [.str "sk-1"]))).2.db.appCustomUserSettings "u" "app-id" "token" =
          some (.arr [.str maskedValue]) := by
  refine ⟨?_, ?_, ?_⟩
  · rfl
  · rfl
  · rfl

end Lombok.Apps
