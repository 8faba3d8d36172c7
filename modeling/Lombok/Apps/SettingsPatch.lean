import Lombok.Apps.SettingsLibrary
import Lombok.Apps.SettingsScope

/-!
Contract: what a patch of the settings accepts, and what a read shows after it.

A key has to be declared, and its value has to be what the schema asks. A
rejected patch writes nothing. After an accepted one a read shows the values
that were sent, what the cascade has below a key that was deleted, and the other
keys as before.

The key that every object inherits, patterns that do not compile and items that
name no variant are outside: there the checks throw, or miss the value.
-/

namespace Lombok.Apps

open Lombok.Core Lombok.Library Lombok.Library.Action

/-! ### Entries of a patch -/

/-- The validators of the service are those of the library, made of the schema's properties. -/
structure ChecksWith (env : SettingsEnv) (safeParse : SafeParse) (schema : SettingsSchema) :
    Prop where
  complaints : ∀ property ∈ schema.allProperties, ∀ validator,
    propertyToZod env.regExp property.schema = .ok validator → ∀ value,
      env.safeParse property.toJson value = (safeParse validator value).map flattenZodIssues

section Entries

variable (regExp : RegExp) (schema : SettingsSchema)

/-- Every property can be translated. -/
def SettingsSchema.Usable : Prop :=
  ∀ property ∈ schema.allProperties, property.schema.Usable regExp

/-- The key is declared and the value is null or what its schema asks for. -/
def EntryValid (declared : String → Option SettingsProperty) (entry : String × Json) : Prop :=
  ∃ property, declared entry.1 = some property ∧
    (entry.2 = .null ∨ property.schema.Satisfied regExp entry.2)

/-- Every entry has the format of a key, and is declared by a property or a pattern. -/
def PatchValid (patch : Fields) : Prop :=
  ∀ entry ∈ patch, isSettingsKey entry.1 = true ∧ EntryValid regExp schema.property? entry

/-- The discriminated items of the values name their variants. -/
def NamesVariants (patch : Fields) : Prop :=
  ∀ entry ∈ patch, ∀ property, schema.property? entry.1 = some property →
    property.schema.NamesVariants entry.2

def NotInherited (patch : Fields) : Prop :=
  (schema.own inheritedKey).isSome = true ∨ inheritedKey ∉ patch.map Prod.fst

end Entries

section Checks

variable {env : SettingsEnv} {safeParse : SafeParse} {schema : SettingsSchema}

theorem flattenZodIssues_ne_nil {issues : List ZodIssue} (someIssue : issues ≠ [])
    (leaves : ∀ issue ∈ issues, issue.isLeaf = true) : flattenZodIssues issues ≠ [] := by
  cases issues with
  | nil => exact absurd rfl someIssue
  | cons first rest =>
      have isLeaf := leaves first List.mem_cons_self
      cases first with
      | leaf path message =>
          intro none_
          cases none_
      | invalidUnion path errors => cases isLeaf

/-- What the service says of a value that is checked with a property. -/
theorem safeParse_spec (documented : Documented safeParse)
    (checks : ChecksWith env safeParse schema) (usable : schema.Usable env.regExp)
    {property : SettingsProperty} (member : property ∈ schema.allProperties) {value : Json}
    (names : property.schema.NamesVariants value) :
    (property.schema.Satisfied env.regExp value ∧ env.safeParse property.toJson value = none) ∨
      ¬property.schema.Satisfied env.regExp value ∧
        ∃ flat, env.safeParse property.toJson value = some flat ∧ flat ≠ [] := by
  rcases propertyToZod_spec documented (usable property member) with
    ⟨validator, made, passes, matched⟩
  rw [checks.complaints property member validator made, ← passes]
  unfold Passes
  cases parsed : safeParse validator value with
  | none => exact .inl ⟨rfl, rfl⟩
  | some issues =>
      have raised := documented.issues validator value issues parsed
      refine .inr ⟨Option.some_ne_none _, flattenZodIssues issues, rfl, ?_⟩
      exact flattenZodIssues_ne_nil raised.1 (raised.2 (matched value names))

theorem jsonSchemaPropertyToZod_toJson {key : String}
    (covered : (schema.own inheritedKey).isSome = true ∨ key ≠ inheritedKey) :
    jsonSchemaPropertyToZod schema.toJson key =
      (schema.property? key).map fun property => .property property.toJson := by
  unfold jsonSchemaPropertyToZod SettingsSchema.property?
  rw [SettingsSchema.schemaProperties_toJson, SettingsSchema.get?_entriesJson,
    SettingsSchema.schemaPatterns_toJson]
  cases isOwn : schema.own key with
  | some property =>
      unfold SettingsSchema.own at isOwn
      rw [isOwn]
      rfl
  | none =>
      have notInherited : key ≠ inheritedKey := by
        grind
      unfold SettingsSchema.own at isOwn
      rw [isOwn, Option.map_none]
      rw [if_neg notInherited, Option.none_or]
      cases schema.patternProperties with
      | none => rfl
      | some entries =>
          unfold SettingsSchema.entriesJson
          rw [Option.map_some, Option.getD_some, Option.getD_some, List.find?_map, Option.map_map,
            Option.map_map]
          rfl

/-- What is said of a declared entry that is not deleted. -/
theorem settingIssues_complaints {schema property value : Json} {key : String}
    (wellFormed : isSettingsKey key = true)
    (declared : jsonSchemaPropertyToZod schema key = some (.property property))
    (given : value ≠ .null) :
    (env.safeParse property value = none →
        settingIssues env schema key value = .ok ([], [])) ∧
      ∀ flat, env.safeParse property value = some flat → ∃ issues texts,
        settingIssues env schema key value = .ok (issues, texts) ∧
          issues.length = flat.length := by
  grind [settingIssues]

/-- The complaints about an entry: none exactly where it is valid, and nothing is thrown. -/
theorem settingIssues_spec (documented : Documented safeParse)
    (checks : ChecksWith env safeParse schema) (usable : schema.Usable env.regExp) {key : String}
    {value : Json} (covered : (schema.own inheritedKey).isSome = true ∨ key ≠ inheritedKey)
    (names : ∀ property, schema.property? key = some property →
      property.schema.NamesVariants value) :
    ∃ found, settingIssues env schema.toJson key value = .ok found ∧
      (found.1 = [] ↔ isSettingsKey key = true ∧
        EntryValid env.regExp schema.property? (key, value)) := by
  have known := jsonSchemaPropertyToZod_toJson covered
  by_cases wellFormed : isSettingsKey key = true
  · cases declared : schema.property? key with
    | none =>
        simp [settingIssues, EntryValid, declared, known, wellFormed]
    | some property =>
        have spec := fun {value} => @safeParse_spec env safeParse schema documented checks usable
          property (SettingsSchema.mem_of_property? declared) value
        have valid : EntryValid env.regExp schema.property? (key, value) ↔
            value = .null ∨ property.schema.Satisfied env.regExp value := by
          simp [EntryValid, declared]
        rw [valid]
        rw [declared, Option.map_some] at known
        by_cases deleted : value = .null
        · simp [settingIssues, deleted, wellFormed, known]
        · have complaints := @settingIssues_complaints env _ _ _ _ wellFormed known deleted
          grind
  · simp [settingIssues, wellFormed]

theorem collectIssues_spec (documented : Documented safeParse)
    (checks : ChecksWith env safeParse schema) (usable : schema.Usable env.regExp)
    {patch : Fields} (covered : NotInherited schema patch) (names : NamesVariants schema patch) :
    ∃ found, collectIssues env schema.toJson patch = .ok found ∧
      (found.1 = [] ↔ PatchValid env.regExp schema patch) := by
  induction patch with
  | nil => exact ⟨([], []), rfl, by simp [PatchValid]⟩
  | cons entry rest inductionHypothesis =>
      rcases entry with ⟨key, value⟩
      have coveredKey : (schema.own inheritedKey).isSome = true ∨ key ≠ inheritedKey :=
        covered.imp_right fun absent same => absent (same ▸ List.mem_cons_self)
      have coveredRest : NotInherited schema rest :=
        covered.imp_right fun absent later => absent (List.mem_cons_of_mem _ later)
      rcases settingIssues_spec documented checks usable coveredKey
        (names (key, value) List.mem_cons_self) with ⟨first, checked, firstValid⟩
      rcases inductionHypothesis coveredRest fun other member =>
        names other (List.mem_cons_of_mem _ member) with ⟨later, collected, restValid⟩
      refine ⟨(first.1 ++ later.1, first.2 ++ later.2), ?_, ?_⟩
      · rw [collectIssues, checked, collected]
        rfl
      · simp [PatchValid, restValid, firstValid]

/-- The checks on a patch succeed exactly where it is valid, and else raise a client error. -/
theorem validatePatchValues_spec (documented : Documented safeParse)
    (checks : ChecksWith env safeParse schema) (usable : schema.Usable env.regExp)
    {patch : Fields} (covered : NotInherited schema patch) (names : NamesVariants schema patch) :
    (PatchValid env.regExp schema patch ∧ validatePatchValues env schema.toJson patch = .ok ()) ∨
      ¬PatchValid env.regExp schema patch ∧ ∃ message issues,
        validatePatchValues env schema.toJson patch = .error (.badRequest message issues) := by
  rcases collectIssues_spec documented checks usable covered names with ⟨found, collected, valid⟩
  rw [validatePatchValues, collected, ← valid]
  rcases found with ⟨issues, summaries⟩
  cases issues with
  | nil => exact .inl ⟨rfl, rfl⟩
  | cons first rest =>
      refine .inr ⟨List.cons_ne_nil _ _, ?_⟩
      cases rest with
      | nil => exact ⟨_, _, rfl⟩
      | cons second others => exact ⟨_, _, rfl⟩

end Checks

/-! ### What a read shows after a patch -/

/-- A key that was sent, one that was deleted with what lies below it, and one left alone. -/
def shownAfter (mask : Json → Json) (sent lower previous : Option Json) : Option Json :=
  match sent with
  | none => previous
  | some .null => lower.map mask
  | some value => some (mask value)

/-- What a scope's patch is claimed to do, where `valid` says which patches are in order. -/
structure PatchExact (env : SettingsEnv) (schema : SettingsSchema) (patch : Fields)
    (valid : Prop) : Prop where
  accepts : validatePatchValues env schema.toJson patch = .ok () ↔ valid
  rejectsUser : ¬valid → ∀ (app : App) userId world,
    app.config.userSchema = some schema.toJson → ∃ message issues,
      patchUserCustomSettings env userId app patch world =
        (.error (.badRequest message issues), world)
  rejectsFolder : ¬valid → ∀ (app : App) folderId world,
    app.config.folderSchema = some schema.toJson → ∃ message issues,
      patchFolderCustomSettings env folderId app patch world =
        (.error (.badRequest message issues), world)
  /-- A read by the app itself, which sees secrets. -/
  readsUnmasked : ∀ (app : App) userId before answer after,
    app.config.userSchema = some schema.toJson →
    patchUserCustomSettings env userId app patch before = (.ok answer, after) →
      ∃ earlier later, getUserCustomSettingsUnmasked userId app before = (.ok earlier, before) ∧
        getUserCustomSettingsUnmasked userId app after = (.ok later, after) ∧
        ∀ key, key ≠ inheritedKey → later.get? key =
          shownAfter id (patch.get? key) (schema.defaultOf key) (earlier.get? key)
  readsUser : ∀ (app : App) userId before answer after,
    app.config.userSchema = some schema.toJson → SecretsUsable env.regExp app.config →
    patchUserCustomSettings env userId app patch before = (.ok answer, after) →
      ∃ earlier later, getUserCustomSettings env userId app before = (.ok earlier, before) ∧
        getUserCustomSettings env userId app after = (.ok later, after) ∧
        ∀ key, key ≠ inheritedKey → later.values.get? key =
          shownAfter (shownValue env.regExp app.config key) (patch.get? key)
            (schema.defaultOf key) (earlier.values.get? key)
  /-- Below a folder's value lies that of the user who reads. -/
  readsFolder : ∀ (app : App) userId folderId before answer after,
    app.config.folderSchema = some schema.toJson → SecretsUsable env.regExp app.config →
    patchFolderCustomSettings env folderId app patch before = (.ok answer, after) →
      ∃ earlier later,
        getFolderCustomSettings env userId folderId app before = (.ok earlier, before) ∧
        getFolderCustomSettings env userId folderId app after = (.ok later, after) ∧
        ∀ key, key ≠ inheritedKey → later.values.get? key =
          shownAfter (shownValue env.regExp app.config key) (patch.get? key)
            ((storedValue before.db.appCustomUserSettings userId app.id key).or
              (schema.defaultOf key)) (earlier.values.get? key)

section Reads

variable {env : SettingsEnv} {schema : SettingsSchema} {patch : Fields}

theorem PatchValid.declared {regExp : RegExp} (valid : PatchValid regExp schema patch)
    {key : String} {value : Json} (sent : patch.get? key = some value) :
    ∃ property, schema.property? key = some property := by
  rcases Option.map_eq_some_iff.mp sent with ⟨entry, found, rfl⟩
  have sameKey : entry.1 = key := by simpa using List.find?_some found
  rcases (valid entry (List.mem_of_find?_eq_some found)).2 with ⟨property, declared, _⟩
  exact ⟨property, sameKey ▸ declared⟩

theorem cascade_patched {regExp : RegExp} (valid : PatchValid regExp schema patch) (key : String)
    (mask : Json → Json) (stored lower : Option Json) :
    ((schema.property? key).bind fun _ =>
        (patchedValue (patch.get? key) stored).or lower).map mask =
      shownAfter mask (patch.get? key) lower
        (((schema.property? key).bind fun _ => stored.or lower).map mask) := by
  cases sent : patch.get? key with
  | none => rfl
  | some value =>
      rcases valid.declared sent with ⟨property, declared⟩
      rw [declared]
      cases value <;> rfl

theorem stored_of_patch {α : Type} {scope : SettingsScope} {scopeId appId : String}
    {before after : World} {answer : α} {outcome : Except SettingsError α × World}
    (kept : PatchKeeps scope scopeId appId patch before outcome)
    (accepted : outcome = (.ok answer, after)) (key : String) :
    storedValue (scope.table after.db) scopeId appId key =
      patchedValue (patch.get? key) (storedValue (scope.table before.db) scopeId appId key) := by
  grind [kept.accepted]

theorem userValue_patched (valid : PatchValid env.regExp schema patch) (distinct : patch.Distinct)
    {app : App} {userId : String} {before after : World} {answer : CustomSettingsGetResponse}
    (accepted : patchUserCustomSettings env userId app patch before = (.ok answer, after))
    (key : String) (mask : Json → Json) :
    (userValue schema.toJson userId app.id after key).map mask =
      shownAfter mask (patch.get? key) (schema.defaultOf key)
        ((userValue schema.toJson userId app.id before key).map mask) := by
  have stored : storedValue after.db.appCustomUserSettings userId app.id key =
      patchedValue (patch.get? key)
        (storedValue before.db.appCustomUserSettings userId app.id key) :=
    stored_of_patch (patchUserCustomSettings_keeps env userId app distinct before) accepted key
  unfold userValue
  rw [SettingsSchema.cascade_toJson, SettingsSchema.cascade_toJson]
  simp only [Option.none_or]
  rw [← cascade_patched valid key mask, ← stored]

theorem folderValue_patched (valid : PatchValid env.regExp schema patch)
    (distinct : patch.Distinct) {app : App} (userId : String) {folderId : String}
    {before after : World} {answer : Unit}
    (accepted : patchFolderCustomSettings env folderId app patch before = (.ok answer, after))
    (key : String) (mask : Json → Json) :
    (folderValue schema.toJson userId folderId app.id after key).map mask =
      shownAfter mask (patch.get? key)
        ((storedValue before.db.appCustomUserSettings userId app.id key).or (schema.defaultOf key))
        ((folderValue schema.toJson userId folderId app.id before key).map mask) := by
  have kept := patchFolderCustomSettings_keeps env folderId app distinct before
  have stored : storedValue after.db.appCustomFolderSettings folderId app.id key =
      patchedValue (patch.get? key)
        (storedValue before.db.appCustomFolderSettings folderId app.id key) :=
    stored_of_patch kept accepted key
  have users : storedValue after.db.appCustomUserSettings userId app.id key =
      storedValue before.db.appCustomUserSettings userId app.id key := by
    have others := kept.others .user userId app.id key nofun
    rw [accepted] at others
    exact others
  unfold folderValue
  rw [SettingsSchema.cascade_toJson, SettingsSchema.cascade_toJson]
  simp only [Option.or_assoc]
  rw [← cascade_patched valid key mask, ← stored, users]

end Reads

/-! ### Patches -/

/-- A patch of a declared scope whose values were rejected throws what the checks threw. -/
theorem patch_rejected {env : SettingsEnv} {schema : Json} {patch : Fields}
    {error : SettingsError} (rejected : validatePatchValues env schema patch = .error error)
    (app : App) (world : World) :
    (app.config.userSchema = some schema → ∀ userId,
        patchUserCustomSettings env userId app patch world = (.error error, world)) ∧
      (app.config.folderSchema = some schema → ∀ folderId,
        patchFolderCustomSettings env folderId app patch world = (.error error, world)) := by
  refine ⟨?_, ?_⟩
  · intro declared userId
    rw [patchUserCustomSettings, declared]
    dsimp only
    rw [rejected]
    rfl
  · intro declared folderId
    rw [patchFolderCustomSettings, declared]
    dsimp only
    rw [rejected]
    rfl

theorem valid_of_accepted {env : SettingsEnv} {schema : Json} {patch : Fields} {app : App}
    {before after : World} :
    (∀ {userId answer}, app.config.userSchema = some schema →
        patchUserCustomSettings env userId app patch before = (.ok answer, after) →
          validatePatchValues env schema patch = .ok ()) ∧
      ∀ {folderId answer}, app.config.folderSchema = some schema →
        patchFolderCustomSettings env folderId app patch before = (.ok answer, after) →
          validatePatchValues env schema patch = .ok () := by
  refine ⟨?_, ?_⟩
  · intro userId answer declared accepted
    cases checked : validatePatchValues env schema patch with
    | ok _ => rfl
    | error error =>
        rw [(patch_rejected checked app before).1 declared userId] at accepted
        cases accepted
  · intro folderId answer declared accepted
    cases checked : validatePatchValues env schema patch with
    | ok _ => rfl
    | error error =>
        rw [(patch_rejected checked app before).2 declared folderId] at accepted
        cases accepted

def themeProperty : SettingsProperty :=
  ⟨.primitive (.string false (some ["light", "dark"]) none none none), some (.str "light")⟩

def providerProperty : SettingsProperty := ⟨.primitive (.string false none none none none), none⟩

theorem themeKey_format : ∀ entry ∈ [("theme", themeProperty)], isSettingsKey entry.1 = true := by
  intro entry member
  rw [List.mem_singleton.mp member]
  decide +kernel

theorem providerKey_format : ∀ entry ∈ (some [("^provider_", providerProperty)]).getD [],
    isPatternKey entry.1 = true := by
  intro entry member
  rw [List.mem_singleton.mp member]
  decide +kernel

def providerSchema : SettingsSchema where
  properties := [("theme", themeProperty)]
  patternProperties := some [("^provider_", providerProperty)]
  distinct := List.pairwise_singleton _ _
  keyFormat := themeKey_format
  patternFormat := providerKey_format

/-- An engine that knows the literal prefixes, and the two validators of the schema. -/
def providerEnv : SettingsEnv where
  regExp pattern := some (matchesPattern pattern)
  safeParse property value :=
    (parseSafely
      (if (property.get? "enum").isSome then .enum ["light", "dark"] else .string none none none)
      value).map flattenZodIssues
  octetLength value := (Json.render value).length

theorem providerEnv_checks : ChecksWith providerEnv parseSafely providerSchema where
  complaints property member validator made value := by
    rcases List.mem_cons.mp member with rfl | other
    · cases made
      rfl
    · rw [List.mem_singleton.mp other] at made ⊢
      cases made
      rfl

theorem providerSchema_usable : providerSchema.Usable providerEnv.regExp := by
  intro property member
  rcases List.mem_cons.mp member with rfl | other
  · exact trivial
  · rw [List.mem_singleton.mp other]
    exact trivial

/-- A theme of its own, and a key that a pattern declares. -/
def providerPatch : Fields := [("theme", .str "dark"), ("provider_a", .str "key")]

end Lombok.Apps
