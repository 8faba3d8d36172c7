import Lombok.Apps.CustomSettings

/-!
Contract: the value that a read of the settings shows for a key.

Owns `getUserCustomSettingsUnmasked`, and what becomes of one key in the
cascade, in the stored rows of a scope and in the answer of a read. The key that
every object inherits is left out: a read looks it up with `in`.

Does not own: patches (see `SettingsPatch`).
-/

namespace Lombok.Apps

open Lombok.Core Lombok.Library Lombok.Library.Action

/-! ### One key of the resolved settings -/

def resolvedValue (settings : List ResolvedSetting) (key : String) : Option Json :=
  (settings.find? fun setting => setting.key == key).bind ResolvedSetting.value

/-- The first of the folder, the user and the default that has the key; a key of a pattern has no
default, and another one is not shown. -/
def cascade (schema : Json) (userValue folderValue : Option Json) (key : String) : Option Json :=
  if (knownKeys schema).contains key = true then
    (folderValue.or userValue).or ((extractSchemaDefaults schema).get? key)
  else if matchesPatternProperty schema key = true then folderValue.or userValue
  else none

theorem hasKey_eq {values : Fields} {key : String} (other : key ≠ inheritedKey) :
    hasKey values key = (values.get? key).isSome := by
  grind [hasKey]

theorem filter_hasKey_bind {values : Option Fields} {key : String} (other : key ≠ inheritedKey) :
    (values.filter (hasKey · key)).bind (fun fields => fields.get? key) =
      (values.getD []).get? key := by
  cases values with
  | none => rfl
  | some fields =>
      rw [Option.filter_some, hasKey_eq other, Option.getD_some]
      cases found : fields.get? key with
      | none => rfl
      | some value => exact found

theorem filter_hasKey_eq_none {values : Option Fields} {key : String} (other : key ≠ inheritedKey) :
    values.filter (hasKey · key) = none ↔ (values.getD []).get? key = none := by
  cases values with
  | none => simp
  | some fields =>
      simp [hasKey_eq, other]

theorem resolveKnown_key {defaults : Fields} {users folders : Option Fields} {key : String}
    {setting : ResolvedSetting}
    (resolved : resolveKnown defaults users folders key = some setting) : setting.key = key := by
  grind [resolveKnown]

theorem resolveKnown_value {defaults : Fields} {users folders : Option Fields} {key : String}
    (other : key ≠ inheritedKey) :
    (resolveKnown defaults users folders key).bind ResolvedSetting.value =
      (((folders.getD []).get? key).or ((users.getD []).get? key)).or (defaults.get? key) := by
  rw [resolveKnown, ← filter_hasKey_bind other, ← filter_hasKey_bind other]
  have folderValue := @filter_hasKey_eq_none folders key other
  have userValue := @filter_hasKey_eq_none users key other
  rw [← filter_hasKey_bind other] at folderValue userValue
  cases fromFolder : folders.filter (hasKey · key) with
  | some fields =>
      rw [fromFolder] at folderValue
      cases found : fields.get? key with
      | none => exact absurd (folderValue.mpr found) (Option.some_ne_none _)
      | some value => simp [found]
  | none =>
      cases fromUser : users.filter (hasKey · key) with
      | some fields =>
          rw [fromUser] at userValue
          cases found : fields.get? key with
          | none => exact absurd (userValue.mpr found) (Option.some_ne_none _)
          | some value => simp [found]
      | none =>
          rw [hasKey_eq other]
          cases defaults.get? key <;> simp

theorem find?_filterMap_keyed {resolve : String → Option ResolvedSetting}
    (keyed : ∀ key setting, resolve key = some setting → setting.key = key) (keys : List String)
    (key : String) :
    (keys.filterMap resolve).find? (fun setting => setting.key == key) =
      if keys.contains key = true then resolve key else none := by
  induction keys with
  | nil => rfl
  | cons first rest inductionHypothesis =>
      grind

theorem find?_resolvePatterns (schema : Json) (source : CustomSettingSource) (seen : List String)
    (values : Fields) (key : String) :
    (resolvePatterns schema source seen values).find? (fun setting => setting.key == key) =
      if (!(knownKeys schema).contains key && !seen.contains key &&
          matchesPatternProperty schema key) = true then
        (values.get? key).map fun value => { key := key, value := some value, source := source }
      else none := by
  unfold resolvePatterns
  induction values with
  | nil => simp
  | cons field rest inductionHypothesis =>
      rw [List.filterMap_cons, Fields.get?_cons]
      grind

theorem not_contains_of_find? {settings : List ResolvedSetting} {key : String}
    (absent : settings.find? (fun setting => setting.key == key) = none) :
    (settings.map ResolvedSetting.key).contains key = false := by
  grind

theorem resolvedValue_eq (schema : Json) (users folders : Option Fields) {key : String}
    (other : key ≠ inheritedKey) :
    resolvedValue (resolveCustomSettings schema users folders) key =
      cascade schema ((users.getD []).get? key) ((folders.getD []).get? key) key := by
  unfold resolvedValue resolveCustomSettings cascade
  rw [List.find?_append, List.find?_append, find?_resolvePatterns, find?_resolvePatterns,
    find?_filterMap_keyed fun _ _ => resolveKnown_key]
  by_cases known : (knownKeys schema).contains key = true
  · rw [if_pos known, if_pos known, known]
    simp [resolveKnown_value, other]
  · have unknown := Bool.eq_false_iff.mpr known
    rw [if_neg known, if_neg known, unknown]
    by_cases shown : matchesPatternProperty schema key = true
    · rw [if_pos shown, shown]
      cases fromFolder : (folders.getD []).get? key with
      | some value => simp
      | none =>
          have unseen := find?_resolvePatterns schema .folder [] (folders.getD []) key
          rw [fromFolder, Option.map_none, ite_self] at unseen
          have absent := not_contains_of_find? unseen
          rw [absent]
          cases (users.getD []).get? key <;> simp
    · simp [shown]

theorem isSome_of_resolved {schema : Json} {users folders : Option Fields}
    {setting : ResolvedSetting} (member : setting ∈ resolveCustomSettings schema users folders)
    (other : setting.key ≠ inheritedKey) : setting.value.isSome = true := by
  have ofPatterns : ∀ source seen values, setting ∈ resolvePatterns schema source seen values →
      setting.value.isSome = true := by
    intro source seen values within
    rcases List.mem_filterMap.mp within with ⟨field, _, shown⟩
    grind
  have ofKeys : setting ∈ (knownKeys schema).filterMap
      (resolveKnown (extractSchemaDefaults schema) users folders) →
        setting.value.isSome = true := by
    intro within
    rcases List.mem_filterMap.mp within with ⟨key, _, resolved⟩
    have sameKey := resolveKnown_key resolved
    unfold resolveKnown at resolved
    split at resolved
    · rename_i values kept
      cases resolved
      rw [← hasKey_eq other]
      exact (Option.filter_eq_some_iff.mp kept).2
    · split at resolved
      · rename_i values kept
        grind [hasKey_eq, Option.filter_eq_some_iff.mp]
      · split at resolved
        · grind [hasKey_eq]
        · cases resolved
  rcases List.mem_append.mp member with first | fromUser
  · grind
  · exact ofPatterns _ _ _ fromUser

/-! ### The stored rows -/

theorem get?_foldl_rows {rows : List AppCustomSetting}
    (distinct : (rows.map AppCustomSetting.key).Nodup) (fields : Fields) (key : String) :
    (rows.foldl (fun values row => values.set row.key row.value) fields).get? key =
      ((rows.find? fun row => row.key == key).map AppCustomSetting.value).or (fields.get? key) := by
  induction rows generalizing fields with
  | nil => rfl
  | cons row rest inductionHypothesis =>
      rw [List.map_cons, List.nodup_cons] at distinct
      rw [List.foldl_cons, inductionHypothesis distinct.2, Fields.get?_set, List.find?_cons]
      grind

theorem get?_readScopeValues (table : AppCustomSettingsTable) (scopeId appId key : String) :
    (readScopeValues table scopeId appId).get? key = storedValue table scopeId appId key := by
  have distinct : ((table.view (AppCustomSetting.inScope scopeId appId)).map
      AppCustomSetting.key).Nodup := by
    refine List.pairwise_map.mpr ?_
    refine (table.distinct.filter (AppCustomSetting.inScope scopeId appId)).imp_of_mem ?_
    grind [AppCustomSetting.inScope, AppCustomSetting.clash]
  rw [readScopeValues, get?_foldl_rows distinct, Fields.get?_nil, Option.or_none]
  have sameRow : (fun row => decide (AppCustomSetting.inScope scopeId appId row = true ∧
      (row.key == key) = true)) = AppCustomSetting.isAt scopeId appId key := by
    funext row
    rw [Bool.eq_iff_iff, decide_eq_true_iff]
    simp [AppCustomSetting.inScope, AppCustomSetting.isAt]
  unfold storedValue Table.find? Table.view
  rw [List.find?_filter, sameRow]

/-! ### Answers -/

/-- The first property of a list of optional ones, all of whose properties of the key are there. -/
theorem get?_ofOptions_settings {shown : ResolvedSetting → Option Json}
    {settings : List ResolvedSetting} {key : String}
    (present : ∀ setting ∈ settings, setting.key = key → (shown setting).isSome = true) :
    (Fields.ofOptions (settings.map fun setting => (setting.key, shown setting))).get? key =
      (settings.find? fun setting => setting.key == key).bind shown := by
  induction settings with
  | nil => rfl
  | cons setting rest inductionHypothesis =>
      have tail := inductionHypothesis fun other member =>
        present other (List.mem_cons_of_mem _ member)
      unfold Fields.ofOptions at tail ⊢
      rw [List.map_cons, List.filterMap_cons, List.find?_cons]
      by_cases same : setting.key = key
      · have isThere := present setting List.mem_cons_self same
        rcases Option.isSome_iff_exists.mp isThere with ⟨value, found⟩
        simp [found, same, Fields.get?_cons]
      · have different : (setting.key == key) = false := beq_eq_false_iff_ne.mpr same
        rw [different]
        cases shown setting with
        | none => exact tail
        | some value =>
            rw [Option.map_some]
            rw [Fields.get?_cons, different, if_neg Bool.false_ne_true]
            exact tail

def shownValue (regExp : RegExp) (config : AppConfig) (key : String) (value : Json) : Json :=
  match config.secretKeyPattern with
  | none => value
  | some pattern =>
      if pattern = "" then value
      else
        maskDeep (secretKeys regExp (some pattern)) (secretKeys regExp (some pattern) key) value

def SecretsUsable (regExp : RegExp) (config : AppConfig) : Prop :=
  ∀ pattern, config.secretKeyPattern = some pattern → pattern ≠ "" → (regExp pattern).isSome = true

/-- A property of the answer, where each setting of the key shows its value changed. -/
theorem get?_shown {schema : Json} {users folders : Option Fields}
    {mask : ResolvedSetting → Option Json} {key : String} {change : Json → Json}
    (other : key ≠ inheritedKey)
    (masks : ∀ setting value, setting.key = key → setting.value = some value →
      mask setting = some (change value)) :
    (Fields.ofOptions ((resolveCustomSettings schema users folders).map fun setting =>
      (setting.key, mask setting))).get? key =
        (cascade schema ((users.getD []).get? key) ((folders.getD []).get? key) key).map
          change := by
  have masked : ∀ setting ∈ resolveCustomSettings schema users folders, setting.key = key →
      ∃ value, setting.value = some value ∧ mask setting = some (change value) := by
    intro setting member sameKey
    have isThere := isSome_of_resolved member (by rw [sameKey]; exact other)
    rcases Option.isSome_iff_exists.mp isThere with ⟨value, held⟩
    exact ⟨value, held, masks setting value sameKey held⟩
  rw [get?_ofOptions_settings, ← resolvedValue_eq schema users folders other]
  · unfold resolvedValue
    cases found : (resolveCustomSettings schema users folders).find? fun setting =>
        setting.key == key with
    | none => rfl
    | some setting =>
        have sameKey : setting.key = key := by simpa using List.find?_some found
        rcases masked setting (List.mem_of_find?_eq_some found) sameKey with
          ⟨value, held, maskedValue⟩
        rw [Option.bind_some, Option.bind_some, held, maskedValue, Option.map_some]
  · grind

/-- A read answers, and shows the resolved value of a key, masked. -/
theorem settingsResponse_shows {env : SettingsEnv} {config : AppConfig} (schema : Json)
    (users folders : Option Fields) (usable : SecretsUsable env.regExp config) :
    ∃ response, settingsResponse env config schema (resolveCustomSettings schema users folders) =
        .ok response ∧
      ∀ key, key ≠ inheritedKey → response.values.get? key =
        (cascade schema ((users.getD []).get? key) ((folders.getD []).get? key) key).map
          (shownValue env.regExp config key) := by
  have shows := fun {mask} {key} {change} => @get?_shown schema users folders mask key change
  have openly : ∀ key, key ≠ inheritedKey →
      (Fields.ofOptions ((resolveCustomSettings schema users folders).map fun setting =>
        (setting.key, setting.value))).get? key =
          (cascade schema ((users.getD []).get? key) ((folders.getD []).get? key) key).map
            fun value => value :=
    fun key other => shows other fun _ _ _ held => held
  unfold settingsResponse maskSecretValues shownValue
  cases given : config.secretKeyPattern with
  | none => exact ⟨_, rfl, openly⟩
  | some pattern =>
      dsimp only
      by_cases empty : pattern = ""
      · rw [if_pos empty]
        refine ⟨_, rfl, ?_⟩
        intro key other
        simp only [if_pos empty]
        exact openly key other
      · rcases Option.isSome_iff_exists.mp (usable pattern given empty) with ⟨test, compiled⟩
        have sameTest : secretKeys env.regExp (some pattern) = test := by
          simp [secretKeys, empty, compiled]
        rw [if_neg empty, compiled]
        refine ⟨_, rfl, ?_⟩
        intro key other
        simp only [if_neg empty, sameTest]
        refine shows other fun setting value sameKey held => ?_
        rw [maskSetting, held, sameKey]

/-! ### Reads -/

/-- `getUserCustomSettingsUnmasked`. -/
def getUserCustomSettingsUnmasked (userId : String) (app : App) : SettingsService Fields :=
  match app.config.userSchema with
  | none => pure []
  | some schema => fun world =>
      let userValues := readScopeValues world.db.appCustomUserSettings userId app.id
      let resolved := resolveCustomSettings schema (some userValues) none
      (.ok (Fields.ofOptions (resolved.map fun setting => (setting.key, setting.value))), world)

def userValue (schema : Json) (userId appId : String) (world : World) (key : String) :
    Option Json :=
  cascade schema (storedValue world.db.appCustomUserSettings userId appId key) none key

def folderValue (schema : Json) (userId folderId appId : String) (world : World) (key : String) :
    Option Json :=
  cascade schema (storedValue world.db.appCustomUserSettings userId appId key)
    (storedValue world.db.appCustomFolderSettings folderId appId key) key

section Answers

variable {schema : Json} {app : App}

theorem getUserCustomSettingsUnmasked_shows (declared : app.config.userSchema = some schema)
    (userId : String) (world : World) :
    ∃ values, getUserCustomSettingsUnmasked userId app world = (.ok values, world) ∧
      ∀ key, key ≠ inheritedKey →
        values.get? key = userValue schema userId app.id world key := by
  rw [getUserCustomSettingsUnmasked, declared]
  refine ⟨_, rfl, ?_⟩
  intro key other
  have shown := @get?_shown schema (some (readScopeValues world.db.appCustomUserSettings userId
    app.id)) none ResolvedSetting.value key id other fun _ _ _ held => held
  rw [shown, Option.map_id, id_eq, Option.getD_some, get?_readScopeValues]
  rfl

theorem getUserCustomSettings_shows {env : SettingsEnv}
    (declared : app.config.userSchema = some schema)
    (usable : SecretsUsable env.regExp app.config) (userId : String) (world : World) :
    ∃ response, getUserCustomSettings env userId app world = (.ok response, world) ∧
      ∀ key, key ≠ inheritedKey → response.values.get? key =
        (userValue schema userId app.id world key).map
          (shownValue env.regExp app.config key) := by
  rcases settingsResponse_shows schema (some (readScopeValues world.db.appCustomUserSettings
    userId app.id)) none usable with ⟨response, answered, shows⟩
  refine ⟨response, ?_, ?_⟩
  · rw [getUserCustomSettings, declared]
    dsimp only
    rw [answered]
  · intro key other
    rw [shows key other, Option.getD_some, get?_readScopeValues]
    rfl

theorem get?_filtered (keep : String → Bool) (fields : Fields) (key : String) :
    Fields.get? (fields.filter fun field => keep field.1) key =
      if keep key = true then fields.get? key else none := by
  induction fields with
  | nil => simp
  | cons field rest inductionHypothesis =>
      rw [List.filter_cons, Fields.get?_cons]
      by_cases same : field.1 = key
      · rw [same, if_pos (beq_iff_eq.mpr rfl)]
        by_cases kept : keep key = true
        · rw [if_pos kept, if_pos kept, Fields.get?_cons, same, if_pos (beq_iff_eq.mpr rfl)]
        · grind
      · have different : ¬(field.1 == key) = true := fun equal => same (beq_iff_eq.mp equal)
        split
        · rw [Fields.get?_cons, if_neg different]
          exact inductionHypothesis
        · exact inductionHypothesis

/-- What the filter drops is not shown. -/
theorem cascade_filterValuesToSchema (values : Fields) (folderValue : Option Json) (key : String) :
    cascade schema (((filterValuesToSchema values schema).getD []).get? key) folderValue key =
      cascade schema (values.get? key) folderValue key := by
  have filtered : ((filterValuesToSchema values schema).getD []).get? key =
      if ((knownKeys schema).contains key || matchesPatternProperty schema key) = true then
        values.get? key
      else none := by
    rw [← get?_filtered fun key =>
      (knownKeys schema).contains key || matchesPatternProperty schema key]
    grind [filterValuesToSchema]
  grind [cascade]

theorem getFolderCustomSettings_shows {env : SettingsEnv}
    (declared : app.config.folderSchema = some schema)
    (usable : SecretsUsable env.regExp app.config) (userId folderId : String) (world : World) :
    ∃ response, getFolderCustomSettings env userId folderId app world = (.ok response, world) ∧
      ∀ key, key ≠ inheritedKey → response.values.get? key =
        (folderValue schema userId folderId app.id world key).map
          (shownValue env.regExp app.config key) := by
  rcases settingsResponse_shows schema
    (filterValuesToSchema (readScopeValues world.db.appCustomUserSettings userId app.id) schema)
    (some (readScopeValues world.db.appCustomFolderSettings folderId app.id)) usable with
      ⟨response, answered, shows⟩
  refine ⟨response, ?_, ?_⟩
  · rw [getFolderCustomSettings, declared]
    dsimp only
    rw [answered]
  · intro key other
    rw [shows key other, cascade_filterValuesToSchema, Option.getD_some, get?_readScopeValues,
      get?_readScopeValues]
    rfl

end Answers

end Lombok.Apps
