import Lombok.Apps.Entity
import Lombok.Apps.SettingsSecrets

/-!
Contract: an app's settings as a read resolves them.

Owns the schema lookups, `resolveCustomSettings`, `maskSecretValues` and the
stored values of a scope, and that values which agree outside secret leaves are
resolved from the same places and masked alike.

A schema is one an installed config holds: its pattern properties are literal
prefixes, and `constructor` is the only name an object literal inherits that has
the format of a settings key. A value of that name which nobody stored is a
function, `none` here: it is dropped from an answer, unless it is masked.

Does not own: who may read, or how values are checked and written.
-/

namespace Lombok.Apps

open Lombok.Core Lombok.Library

/-! ### The schema -/

/-- `schema.properties`. -/
def schemaProperties (schema : Json) : Fields :=
  match schema.get? "properties" with
  | some (.obj properties) => properties
  | _ => []

/-- `schema.patternProperties`. -/
def schemaPatterns (schema : Json) : Option Fields :=
  match schema.get? "patternProperties" with
  | some (.obj patterns) => some patterns
  | _ => none

/-- `new RegExp(pattern).test(key)`, for a pattern `^prefix_`. -/
def matchesPattern (pattern key : String) : Bool :=
  (pattern.toList.drop 1).isPrefixOf key.toList

def matchesPatternProperty (schema : Json) (key : String) : Bool :=
  match schemaPatterns schema with
  | none => false
  | some patterns => patterns.any fun pattern => matchesPattern pattern.1 key

def extractSchemaDefaults (schema : Json) : Fields :=
  (schemaProperties schema).filterMap fun property =>
    (property.2.get? "default").map fun value => (property.1, value)

/-- `Object.keys(schema.properties)`. -/
def knownKeys (schema : Json) : List String := (schemaProperties schema).map Prod.fst

/-! ### The cascade -/

inductive CustomSettingSource where
  | folder
  | user
  | default
deriving DecidableEq

/-- One property of the resolved `values`, and of `sources`. -/
structure ResolvedSetting where
  key : String
  value : Option Json
  source : CustomSettingSource

def inheritedKey : String := "constructor"

/-- `key in values`. -/
def hasKey (values : Fields) (key : String) : Bool :=
  (values.get? key).isSome || key == inheritedKey

/-- The cascade for one key of `properties`. -/
def resolveKnown (defaults : Fields) (userValues folderValues : Option Fields) (key : String) :
    Option ResolvedSetting :=
  match folderValues.filter (hasKey · key) with
  | some values => some { key := key, value := values.get? key, source := .folder }
  | none =>
      match userValues.filter (hasKey · key) with
      | some values => some { key := key, value := values.get? key, source := .user }
      | none =>
          if hasKey defaults key then
            some { key := key, value := defaults.get? key, source := .default }
          else none

/-- The stored values that a pattern of the schema lets in, less the keys seen already. -/
def resolvePatterns (schema : Json) (source : CustomSettingSource) (seen : List String)
    (values : Fields) : List ResolvedSetting :=
  values.filterMap fun field =>
    if !(knownKeys schema).contains field.1 && !seen.contains field.1 &&
        matchesPatternProperty schema field.1 then
      some { key := field.1, value := some field.2, source := source }
    else none

def resolveCustomSettings (schema : Json) (userValues folderValues : Option Fields) :
    List ResolvedSetting :=
  let known := (knownKeys schema).filterMap
    (resolveKnown (extractSchemaDefaults schema) userValues folderValues)
  let fromFolder := resolvePatterns schema .folder [] (folderValues.getD [])
  let fromUser := resolvePatterns schema .user (fromFolder.map ResolvedSetting.key)
    (userValues.getD [])
  known ++ fromFolder ++ fromUser

/-- The user's values that the folder schema knows, `none` when there are none. -/
def filterValuesToSchema (values : Fields) (schema : Json) : Option Fields :=
  let filtered := values.filter fun field =>
    (knownKeys schema).contains field.1 || matchesPatternProperty schema field.1
  if filtered.isEmpty then none else some filtered

/-! ### The stored values of a scope -/

def AppCustomSetting.inScope (scopeId appId : String) (row : AppCustomSetting) : Bool :=
  row.scopeId == scopeId && row.appId == appId

def readScopeValues (table : AppCustomSettingsTable) (scopeId appId : String) : Fields :=
  (table.view (AppCustomSetting.inScope scopeId appId)).foldl
    (fun values row => values.set row.key row.value) []

/-! ### The mask over a settings object -/

/-- A regular expression engine: the test of a pattern that compiles. -/
abbrev RegExp := String → Option (String → Bool)

def secretKeys (regExp : RegExp) (secretKeyPattern : Option String) : String → Bool :=
  match secretKeyPattern with
  | none => fun _ => false
  | some pattern => if pattern = "" then fun _ => false else (regExp pattern).getD fun _ => false

/-- One value of the settings object, which may be the function that is inherited. -/
def maskSetting (isSecretKey : String → Bool) (setting : ResolvedSetting) : Option Json :=
  match setting.value with
  | some value => some (maskDeep isSecretKey (isSecretKey setting.key) value)
  | none => if isSecretKey setting.key then some (.str maskedValue) else none

def maskSecretValues (regExp : RegExp) (settings : List ResolvedSetting)
    (secretKeyPattern : Option String) : Except ApiError Fields :=
  let shown := fun (mask : ResolvedSetting → Option Json) =>
    Fields.ofOptions (settings.map fun setting => (setting.key, mask setting))
  match secretKeyPattern with
  | none => .ok (shown ResolvedSetting.value)
  | some pattern =>
      if pattern = "" then .ok (shown ResolvedSetting.value)
      else
        match regExp pattern with
        | some isSecretKey => .ok (shown (maskSetting isSecretKey))
        | none => if settings.isEmpty then .ok [] else .error (.serviceError "SyntaxError")

/-! ### Reads of values that agree -/

section Agreement

variable {isSecretKey : String → Bool}

/-- Two optional values, either both absent or in agreement under the key. -/
def AgreeAt (isSecretKey : String → Bool) (key : String) (value other : Option Json) : Prop :=
  Option.Rel (AgreeOpenly isSecretKey (isSecretKey key)) value other

theorem AgreeFields.get? {fields others : Fields}
    (agree : AgreeFields isSecretKey false fields others) (key : String) :
    AgreeAt isSecretKey key (fields.get? key) (others.get? key) := by
  induction fields generalizing others with
  | nil =>
      obtain rfl := agree
      exact Option.Rel.none
  | cons field rest inductionHypothesis =>
      obtain ⟨other, others, rfl, head, tail⟩ := agree
      rw [Fields.get?_cons, Fields.get?_cons]
      by_cases same : (field.1 == key) = true
      · rw [if_pos same, if_pos same, ← eq_of_beq same]
        exact Option.Rel.some head
      · grind

theorem AgreeAt.isSome {key : String} {value other : Option Json}
    (agree : AgreeAt isSecretKey key value other) : value.isSome = other.isSome := by
  cases agree with
  | none => rfl
  | some related => rfl

theorem AgreeFields.hasKey {fields others : Fields}
    (agree : AgreeFields isSecretKey false fields others) (key : String) :
    hasKey fields key = hasKey others key := by
  unfold Apps.hasKey
  rw [(agree.get? key).isSome]

theorem AgreeFields.set {fields others : Fields}
    (agree : AgreeFields isSecretKey false fields others) {key : String} {value other : Json}
    (agreeValue : AgreeOpenly isSecretKey (isSecretKey key) value other) :
    AgreeFields isSecretKey false (fields.set key value) (others.set key other) := by
  induction fields generalizing others with
  | nil =>
      obtain rfl := agree
      exact ⟨other, [], rfl, agreeValue, rfl⟩
  | cons field rest inductionHypothesis =>
      obtain ⟨held, others, rfl, head, tail⟩ := agree
      unfold Fields.set
      by_cases same : (field.1 == key) = true
      · rw [if_pos same, if_pos same]
        exact ⟨other, others, rfl, agreeValue, tail⟩
      · rw [if_neg same, if_neg same]
        exact ⟨held, _, rfl, head, inductionHypothesis tail⟩

theorem AgreeFields.filter {fields others : Fields} (keep : String → Bool)
    (agree : AgreeFields isSecretKey false fields others) :
    AgreeFields isSecretKey false (fields.filter fun field => keep field.1)
      (others.filter fun field => keep field.1) := by
  induction fields generalizing others with
  | nil =>
      obtain rfl := agree
      rfl
  | cons field rest inductionHypothesis =>
      obtain ⟨other, others, rfl, head, tail⟩ := agree
      by_cases kept : keep field.1 = true
      · simp only [List.filter_cons, if_pos kept]
        exact ⟨other, _, rfl, head, inductionHypothesis tail⟩
      · grind

/-- Two settings of one key and source whose values agree. -/
def ResolvedSetting.Agree (isSecretKey : String → Bool) (left right : ResolvedSetting) : Prop :=
  left.key = right.key ∧ left.source = right.source ∧
    AgreeAt isSecretKey left.key left.value right.value

theorem ResolvedSetting.agree_refl (setting : ResolvedSetting) :
    setting.Agree isSecretKey setting := by
  refine ⟨rfl, rfl, ?_⟩
  cases setting.value with
  | none => exact Option.Rel.none
  | some value => exact Option.Rel.some (agreeOpenly_refl isSecretKey _ value)

/-- Values that may be absent as a whole. -/
abbrev AgreeValues (isSecretKey : String → Bool) (values others : Option Fields) : Prop :=
  Option.Rel (AgreeFields isSecretKey false) values others

/-- The level of the cascade that has the key is the same, and what it has agrees. -/
theorem AgreeValues.filter_hasKey {values others : Option Fields}
    (agree : AgreeValues isSecretKey values others) (key : String) :
    AgreeValues isSecretKey (values.filter (hasKey · key)) (others.filter (hasKey · key)) := by
  cases agree with
  | none => exact Option.Rel.none
  | @some fields others related =>
      grind [Option.Rel.some, Option.Rel.none, related.hasKey]

theorem AgreeValues.getD {values others : Option Fields}
    (agree : AgreeValues isSecretKey values others) :
    AgreeFields isSecretKey false (values.getD []) (others.getD []) := by
  cases agree with
  | none => rfl
  | some related => exact related

theorem resolveKnown_agree {defaults : Fields} {users users' folders folders' : Option Fields}
    (agreeUsers : AgreeValues isSecretKey users users')
    (agreeFolders : AgreeValues isSecretKey folders folders') (key : String) :
    Option.Rel (ResolvedSetting.Agree isSecretKey) (resolveKnown defaults users folders key)
      (resolveKnown defaults users' folders' key) := by
  have inFolder := agreeFolders.filter_hasKey key
  have inUser := agreeUsers.filter_hasKey key
  unfold resolveKnown
  revert inFolder inUser
  generalize folders.filter (hasKey · key) = folder
  generalize folders'.filter (hasKey · key) = folder'
  generalize users.filter (hasKey · key) = user
  generalize users'.filter (hasKey · key) = user'
  intro inFolder inUser
  cases inFolder with
  | some related => exact Option.Rel.some ⟨rfl, rfl, related.get? key⟩
  | none =>
      cases inUser with
      | some related => exact Option.Rel.some ⟨rfl, rfl, related.get? key⟩
      | none =>
          grind [Option.Rel.some, ResolvedSetting.agree_refl, Option.Rel.none]

theorem resolvePatterns_agree (schema : Json) (source : CustomSettingSource) (seen : List String)
    {values others : Fields} (agree : AgreeFields isSecretKey false values others) :
    List.Forall₂ (ResolvedSetting.Agree isSecretKey) (resolvePatterns schema source seen values)
      (resolvePatterns schema source seen others) := by
  unfold resolvePatterns
  induction values generalizing others with
  | nil =>
      obtain rfl := agree
      exact List.Forall₂.nil
  | cons field rest inductionHypothesis =>
      obtain ⟨other, others, rfl, head, tail⟩ := agree
      have later := inductionHypothesis tail
      by_cases included : (!(knownKeys schema).contains field.1 && !seen.contains field.1 &&
          matchesPatternProperty schema field.1) = true
      · simp only [List.filterMap_cons, if_pos included]
        refine List.Forall₂.cons ⟨rfl, rfl, ?_⟩ later
        exact Option.Rel.some head
      · grind

theorem forall₂_filterMap {A B : Type} {related : B → B → Prop} {left right : A → Option B}
    (each : ∀ item, Option.Rel related (left item) (right item)) (items : List A) :
    List.Forall₂ related (items.filterMap left) (items.filterMap right) := by
  induction items with
  | nil => exact List.Forall₂.nil
  | cons item rest inductionHypothesis =>
      have here := each item
      rw [List.filterMap_cons, List.filterMap_cons]
      revert here
      generalize left item = first
      generalize right item = second
      intro here
      cases here with
      | none => exact inductionHypothesis
      | some related => exact List.Forall₂.cons related inductionHypothesis

theorem forall₂_agree_keys {settings others : List ResolvedSetting}
    (agree : List.Forall₂ (ResolvedSetting.Agree isSecretKey) settings others) :
    others.map ResolvedSetting.key = settings.map ResolvedSetting.key := by
  induction agree with
  | nil => rfl
  | cons head _ inductionHypothesis => simp [inductionHypothesis, head.1]

theorem resolveCustomSettings_agree (schema : Json)
    {users users' folders folders' : Option Fields}
    (agreeUsers : AgreeValues isSecretKey users users')
    (agreeFolders : AgreeValues isSecretKey folders folders') :
    List.Forall₂ (ResolvedSetting.Agree isSecretKey) (resolveCustomSettings schema users folders)
      (resolveCustomSettings schema users' folders') := by
  have each := @resolveKnown_agree isSecretKey (extractSchemaDefaults schema) users users' folders
    folders' agreeUsers agreeFolders
  have known := forall₂_filterMap each (knownKeys schema)
  have fromFolder := resolvePatterns_agree schema .folder [] agreeFolders.getD
  have fromUser := resolvePatterns_agree schema .user
    ((resolvePatterns schema .folder [] (folders.getD [])).map ResolvedSetting.key)
    agreeUsers.getD
  unfold resolveCustomSettings
  dsimp only
  rw [forall₂_agree_keys fromFolder]
  exact List.rel_append (List.rel_append known fromFolder) fromUser

theorem filterValuesToSchema_agree (schema : Json) {values others : Fields}
    (agree : AgreeFields isSecretKey false values others) :
    AgreeValues isSecretKey (filterValuesToSchema values schema)
      (filterValuesToSchema others schema) := by
  have filtered := agree.filter fun key =>
    (knownKeys schema).contains key || matchesPatternProperty schema key
  unfold filterValuesToSchema
  revert filtered
  generalize values.filter _ = kept
  generalize others.filter _ = kept'
  intro filtered
  cases kept with
  | nil =>
      obtain rfl := filtered
      exact Option.Rel.none
  | cons field rest =>
      obtain ⟨other, others, rfl, head, tail⟩ := filtered
      exact Option.Rel.some ⟨other, others, rfl, head, tail⟩

/-! ### The stored rows -/

/-- Two rows of one key whose values agree. -/
def AppCustomSetting.Agree (isSecretKey : String → Bool) (left right : AppCustomSetting) : Prop :=
  left.key = right.key ∧ AgreeOpenly isSecretKey (isSecretKey left.key) left.value right.value

/-- The rows of a scope hold the same keys, with values that agree outside secret leaves. -/
def AgreeInScope (isSecretKey : String → Bool) (scopeId appId : String)
    (left right : AppCustomSettingsTable) : Prop :=
  List.Forall₂ (AppCustomSetting.Agree isSecretKey)
    (left.view (AppCustomSetting.inScope scopeId appId))
    (right.view (AppCustomSetting.inScope scopeId appId))

theorem foldl_set_agree {rows others : List AppCustomSetting}
    (related : List.Forall₂ (AppCustomSetting.Agree isSecretKey) rows others)
    {values values' : Fields} (held : AgreeFields isSecretKey false values values') :
    AgreeFields isSecretKey false
      (rows.foldl (fun values row => values.set row.key row.value) values)
      (others.foldl (fun values row => values.set row.key row.value) values') := by
  induction related generalizing values values' with
  | nil => exact held
  | cons head _ inductionHypothesis =>
      have here := held.set head.2
      rw [List.foldl_cons, List.foldl_cons, ← head.1]
      exact inductionHypothesis here

theorem readScopeValues_agree {scopeId appId : String} {left right : AppCustomSettingsTable}
    (agree : AgreeInScope isSecretKey scopeId appId left right) :
    AgreeFields isSecretKey false (readScopeValues left scopeId appId)
      (readScopeValues right scopeId appId) :=
  foldl_set_agree agree rfl

end Agreement

/-! ### The answer -/

theorem ofOptions_congr {settings others : List ResolvedSetting}
    {mask mask' : ResolvedSetting → Option Json}
    (alike : List.Forall₂ (fun left right => left.key = right.key ∧ mask left = mask' right)
      settings others) :
    Fields.ofOptions (settings.map fun setting => (setting.key, mask setting)) =
      Fields.ofOptions (others.map fun setting => (setting.key, mask' setting)) := by
  have entries : settings.map (fun setting => (setting.key, mask setting)) =
      others.map fun setting => (setting.key, mask' setting) := by
    induction alike with
    | nil => rfl
    | cons head _ inductionHypothesis =>
        rw [List.map_cons, List.map_cons, inductionHypothesis, head.1, head.2]
  rw [entries]

theorem maskSetting_congr {isSecretKey : String → Bool} {left right : ResolvedSetting}
    (agree : left.Agree isSecretKey right) :
    maskSetting isSecretKey left = maskSetting isSecretKey right := by
  obtain ⟨sameKey, -, value⟩ := agree
  unfold maskSetting
  rw [← sameKey]
  revert value
  generalize left.value = here
  generalize right.value = there
  intro value
  cases value with
  | none => rfl
  | some related =>
      dsimp only
      rw [maskDeep_congr isSecretKey _ _ _ related]

/-- Settings without a secret key that agree are equal. -/
theorem ResolvedSetting.value_eq_of_agree {left right : ResolvedSetting}
    (agree : left.Agree (fun _ => false) right) : left.value = right.value := by
  obtain ⟨-, -, value⟩ := agree
  revert value
  generalize left.value = here
  generalize right.value = there
  intro value
  cases value with
  | none => rfl
  | some related => rw [eq_of_agreeOpenly _ _ related]

theorem maskSecretValues_congr (regExp : RegExp) (secretKeyPattern : Option String)
    {settings others : List ResolvedSetting}
    (agree : List.Forall₂ (ResolvedSetting.Agree (secretKeys regExp secretKeyPattern))
      settings others) :
    maskSecretValues regExp settings secretKeyPattern =
      maskSecretValues regExp others secretKeyPattern := by
  have unmasked : List.Forall₂ (ResolvedSetting.Agree fun _ => false) settings others →
      Fields.ofOptions (settings.map fun setting => (setting.key, setting.value)) =
        Fields.ofOptions (others.map fun setting => (setting.key, setting.value)) := by
    intro open_
    refine ofOptions_congr (open_.imp fun left right related => ?_)
    exact ⟨related.1, ResolvedSetting.value_eq_of_agree related⟩
  unfold maskSecretValues
  unfold secretKeys at agree
  cases secretKeyPattern with
  | none => exact congrArg Except.ok (unmasked agree)
  | some pattern =>
      dsimp only at agree ⊢
      by_cases blank : pattern = ""
      · grind
      · rw [if_neg blank] at agree
        rw [if_neg blank, if_neg blank]
        cases compiled : regExp pattern with
        | some isSecretKey =>
            rw [compiled] at agree
            refine congrArg Except.ok (ofOptions_congr (agree.imp fun left right related => ?_))
            exact ⟨related.1, maskSetting_congr related⟩
        | none =>
            cases agree with
            | nil => rfl
            | cons head tail => rfl

end Lombok.Apps
