import Lombok.Apps.SettingsReads
import Lombok.Apps.SettingsSchema

/-!
Contract: the schema of a scope of settings, and how a key is looked up in it.

A key is declared by a property of its name or else by the first pattern that it
matches. Owns the format of keys and patterns, the JSON of the schema, and what
the service's lookups make of it: the validator of a key, the known keys, the
defaults and the cascade.

Does not own: values (see `SettingsDialect`).
-/

namespace Lombok.Apps

open Lombok.Core Lombok.Library

/-- `SETTINGS_PATTERN_PROPERTY_REGEX.test(pattern)`. -/
def isPatternKey (pattern : String) : Bool :=
  match pattern.toList with
  | '^' :: first :: rest =>
      isLowerOrDigit first && rest.getLast? == some '_' &&
        rest.all fun character => isLowerOrDigit character || character == '_'
  | _ => false

/-- `jsonSchema07ObjectSchema`. -/
structure SettingsSchema where
  properties : List (String × SettingsProperty)
  patternProperties : Option (List (String × SettingsProperty))
  distinct : (properties.map Prod.fst).Nodup
  keyFormat : ∀ entry ∈ properties, isSettingsKey entry.1 = true
  patternFormat : ∀ entry ∈ patternProperties.getD [], isPatternKey entry.1 = true

theorem get?_ofOptions_of_absent {entries : List (String × Option Json)} {name : String}
    (absent : name ∉ entries.map Prod.fst) : (Fields.ofOptions entries).get? name = none := by
  refine Fields.get?_eq_none_of_absent fun member => ?_
  rcases List.mem_map.mp member with ⟨field, within, same⟩
  rcases List.mem_filterMap.mp within with ⟨entry, isEntry, given⟩
  rcases Option.map_eq_some_iff.mp given with ⟨value, _, rfl⟩
  exact absent (List.mem_map.mpr ⟨entry, isEntry, same⟩)

theorem SchemaProperty.get?_default (property : SchemaProperty) :
    Fields.get? property.fields "default" = none := by
  have others : ∀ {key : String} {value : Json} {rest : Fields}, key ≠ "default" →
      rest.get? "default" = none → Fields.get? ((key, value) :: rest) "default" = none := by
    intro key value rest different absent
    rw [Fields.get?_cons, if_neg (by simpa using different), absent]
  have ofPrimitive : ∀ primitive : PrimitiveProperty, primitive.fields.get? "default" = none := by
    intro primitive
    cases primitive with
    | string nullable enum minLength maxLength pattern =>
        exact others (by decide) (get?_ofOptions_of_absent (by simp))
    | number nullable minimum maximum =>
        exact others (by decide) (get?_ofOptions_of_absent (by simp))
    | integer nullable minimum maximum =>
        exact others (by decide) (get?_ofOptions_of_absent (by simp))
    | boolean nullable => exact others (by decide) rfl
  have ofArray : ∀ items minItems maxItems,
      (arrayFields items minItems maxItems).get? "default" = none := fun _ _ _ =>
    others (by decide) (others (by decide) (get?_ofOptions_of_absent (by simp)))
  cases property with
  | primitive primitive => exact ofPrimitive primitive
  | primitiveArray items minItems maxItems => exact ofArray _ _ _
  | itemArray items minItems maxItems => exact ofArray _ _ _
  | discriminatedArray discriminator oneOf minItems maxItems => exact ofArray _ _ _
  | object nested =>
      cases nested with
      | known properties required =>
          exact others (by decide) (others (by decide) (others (by decide) rfl))
      | dynamic properties additionalProperties required =>
          exact others (by decide) (others (by decide) (others (by decide)
            (others (by decide) rfl)))

theorem SettingsProperty.get?_default (property : SettingsProperty) :
    property.toJson.get? "default" = property.defaultValue := by
  unfold SettingsProperty.toJson Json.get?
  cases given : property.defaultValue with
  | none => exact property.schema.get?_default
  | some value => rfl

namespace SettingsSchema

def entriesJson (entries : List (String × SettingsProperty)) : Fields :=
  entries.map fun entry => (entry.1, entry.2.toJson)

def toJson (schema : SettingsSchema) : Json :=
  .obj (Fields.ofOptions
    [("type", some (.str "object")), ("properties", some (.obj (entriesJson schema.properties))),
      ("patternProperties",
        schema.patternProperties.map fun entries => .obj (entriesJson entries))])

def own (schema : SettingsSchema) (key : String) : Option SettingsProperty :=
  (schema.properties.find? fun entry => entry.1 == key).map Prod.snd

def property? (schema : SettingsSchema) (key : String) : Option SettingsProperty :=
  (schema.own key).or
    (((schema.patternProperties.getD []).find? fun entry => matchesPattern entry.1 key).map
      Prod.snd)

def allProperties (schema : SettingsSchema) : List SettingsProperty :=
  schema.properties.map Prod.snd ++ (schema.patternProperties.getD []).map Prod.snd

variable {schema : SettingsSchema} {key : String}

theorem mem_of_property? {property : SettingsProperty}
    (declared : schema.property? key = some property) : property ∈ schema.allProperties := by
  have found : ∀ {entries : List (String × SettingsProperty)} {condition},
      (entries.find? condition).map Prod.snd = some property →
        property ∈ entries.map Prod.snd := by
    grind [Option.map_eq_some_iff.mp]
  rcases Option.or_eq_some_iff.mp declared with isOwn | ⟨_, ofPattern⟩
  · exact List.mem_append_left _ (found isOwn)
  · exact List.mem_append_right _ (found ofPattern)

theorem schemaProperties_toJson :
    schemaProperties schema.toJson = entriesJson schema.properties := rfl

theorem schemaPatterns_toJson :
    schemaPatterns schema.toJson = schema.patternProperties.map entriesJson := by
  unfold schemaPatterns toJson
  cases schema.patternProperties <;> rfl

theorem get?_entriesJson (entries : List (String × SettingsProperty)) :
    (entriesJson entries).get? key =
      ((entries.find? fun entry => entry.1 == key).map Prod.snd).map SettingsProperty.toJson := by
  unfold entriesJson Fields.get?
  rw [List.find?_map, Option.map_map, Option.map_map]
  rfl

theorem knownKeys_toJson :
    (knownKeys schema.toJson).contains key = true ↔ (schema.own key).isSome = true := by
  simp [knownKeys, own, schemaProperties_toJson, entriesJson]

theorem matchesPatternProperty_toJson :
    matchesPatternProperty schema.toJson key =
      ((schema.patternProperties.getD []).find? fun entry =>
        matchesPattern entry.1 key).isSome := by
  rw [matchesPatternProperty, schemaPatterns_toJson]
  cases schema.patternProperties with
  | none => rfl
  | some entries =>
      unfold entriesJson
      rw [Option.map_some, Option.getD_some, Bool.eq_iff_iff, List.find?_isSome]
      simp

def defaultOf (schema : SettingsSchema) (key : String) : Option Json :=
  (schema.own key).bind SettingsProperty.defaultValue

theorem get?_extractSchemaDefaults :
    (extractSchemaDefaults schema.toJson).get? key = schema.defaultOf key := by
  unfold extractSchemaDefaults defaultOf own
  rw [schemaProperties_toJson]
  have distinct := schema.distinct
  revert distinct
  generalize schema.properties = entries
  intro distinct
  induction entries with
  | nil => rfl
  | cons entry rest inductionHypothesis =>
      rw [List.map_cons, List.nodup_cons] at distinct
      have tail := inductionHypothesis distinct.2
      unfold entriesJson at tail ⊢
      rw [List.map_cons, List.filterMap_cons, List.find?_cons]
      rw [SettingsProperty.get?_default]
      by_cases same : entry.1 = key
      · have noLater : rest.find? (fun other => other.1 == key) = none := by
          refine List.find?_eq_none.mpr fun other member sameKey => ?_
          refine distinct.1 (List.mem_map.mpr ⟨other, member, ?_⟩)
          rw [same]
          exact beq_iff_eq.mp sameKey
        rw [noLater] at tail
        cases given : entry.2.defaultValue with
        | none => exact tail.trans (by simp [same, given])
        | some value => simp [same, given, Fields.get?_cons]
      · have different : (entry.1 == key) = false := beq_eq_false_iff_ne.mpr same
        rw [different]
        cases entry.2.defaultValue with
        | none => exact tail
        | some value =>
            rw [Option.map_some]
            rw [Fields.get?_cons, different, if_neg Bool.false_ne_true]
            exact tail

/-- A declared key shows the first value there is; another one shows none. -/
theorem cascade_toJson (userValue folderValue : Option Json) :
    cascade schema.toJson userValue folderValue key =
      (schema.property? key).bind fun _ =>
        (folderValue.or userValue).or (schema.defaultOf key) := by
  unfold cascade property?
  rw [get?_extractSchemaDefaults, matchesPatternProperty_toJson]
  cases isOwn : schema.own key with
  | some property =>
      grind [knownKeys_toJson.mpr]
  | none =>
      have unknown : ¬(knownKeys schema.toJson).contains key = true := by
        rw [knownKeys_toJson, isOwn]
        exact Bool.false_ne_true
      rw [if_neg unknown, Option.none_or]
      have noDefault : schema.defaultOf key = none := by
        rw [defaultOf, isOwn, Option.bind_none]
      rw [noDefault, Option.or_none]
      cases (schema.patternProperties.getD []).find? fun entry => matchesPattern entry.1 key with
      | none => rfl
      | some entry => rfl

end SettingsSchema

end Lombok.Apps
