import Lombok.Apps.SettingsSchema
import Mathlib

/-!
Contract: what a settings schema asks of a value, and that its validator asks
the same.

Owns the meaning of a schema, the documented behaviour of the library's schemas
that are built, and the translation between them. An object has no other
properties than the known ones, `additionalProperties` speaks of every property
in their place, and an object with neither is free. An enumeration with values
stands alone.

The library is a parameter. Does not own keys, patches, or what is read back.
-/

namespace Lombok.Apps

open Lombok.Core Lombok.Library Lombok.Library.Action Lombok.Auth

/-! ### Numbers and sizes -/

/-- `left <= right`, for decimals. -/
def isAtMost (left right : Decimal) : Bool :=
  let exponent := min left.exponent right.exponent
  decide (left.mantissa * 10 ^ (left.exponent - exponent).toNat ≤
    right.mantissa * 10 ^ (right.exponent - exponent).toNat)

/-- `Number.isSafeInteger`. -/
def isSafeInteger (number : Decimal) : Bool := number.isIntegral && number.isBelow (2 ^ 53)

def WithinBounds (minimum maximum : Option Nat) (size : Nat) : Prop :=
  (∀ bound, minimum = some bound → bound ≤ size) ∧ ∀ bound, maximum = some bound → size ≤ bound

/-- A finite number, whole where it has to be, within its bounds. -/
def IsNumber (int : Bool) (minimum maximum : Option Numeral) (literal : String) : Prop :=
  isFiniteNumeral literal = true ∧ (int = true → isSafeInteger (decimalOf literal) = true) ∧
    (∀ bound, minimum = some bound →
      isAtMost (decimalOf bound.literal) (decimalOf literal) = true) ∧
    ∀ bound, maximum = some bound → isAtMost (decimalOf literal) (decimalOf bound.literal) = true

/-! ### What a schema asks of a value -/

section Meaning

variable (regExp : RegExp)

def PatternSatisfied (pattern : Option String) (text : String) : Prop :=
  ∀ source, pattern = some source →
    source = "" ∨ ∃ test, regExp source = some test ∧ test text = true

def OrNull (nullable : Bool) (satisfied : Json → Prop) (value : Json) : Prop :=
  (nullable = true ∧ value = .null) ∨ satisfied value

def PrimitiveProperty.Satisfied : PrimitiveProperty → Json → Prop
  | .string nullable (some values) _ _ _ =>
      OrNull nullable fun value => ∃ text, value = .str text ∧ (values = [] ∨ text ∈ values)
  | .string nullable none minLength maxLength pattern =>
      OrNull nullable fun value => ∃ text, value = .str text ∧
        WithinBounds minLength maxLength (utf16Length text) ∧ PatternSatisfied regExp pattern text
  | .number nullable minimum maximum =>
      OrNull nullable fun value => ∃ literal, value = .num literal ∧
        IsNumber false minimum maximum literal
  | .integer nullable minimum maximum =>
      OrNull nullable fun value => ∃ literal, value = .num literal ∧
        IsNumber true minimum maximum literal
  | .boolean nullable => OrNull nullable fun value => ∃ truth, value = .bool truth

def ArraySatisfied (satisfied : Json → Prop) (minItems maxItems : Option Nat) (value : Json) :
    Prop :=
  ∃ items, value = .arr items ∧ (∀ item ∈ items, satisfied item) ∧
    WithinBounds minItems maxItems items.length

/-- A property is there and right, or is absent and not required. -/
def FieldSatisfied (required : List String) (fields : Fields) (key : String)
    (satisfied : Json → Prop) : Prop :=
  match fields.get? key with
  | some value => satisfied value
  | none => key ∉ required

def Properties.keys : Properties → List String
  | .nil => []
  | .cons key _ rest => key :: rest.keys

mutual

def ObjectItemProperty.Satisfied : ObjectItemProperty → Json → Prop
  | .primitive property => property.Satisfied regExp
  | .primitiveArray items minItems maxItems =>
      ArraySatisfied (items.property.Satisfied regExp) minItems maxItems
  | .objectArray items minItems maxItems => fun value =>
      ArraySatisfied (fun item => items.Satisfied item) minItems maxItems value
  | .object nested => fun value => nested.Satisfied value

def NestedObject.Satisfied : NestedObject → Json → Prop
  | .dynamic _ additionalProperties _ => fun value =>
      ∃ fields, value = .obj fields ∧ ∀ field ∈ fields, additionalProperties.Satisfied field.2
  | .known properties required => fun value =>
      ∃ fields, value = .obj fields ∧
        (properties.keys = [] ∨
          (∀ field ∈ fields, field.1 ∈ properties.keys) ∧ properties.Satisfied required fields)

def Properties.Satisfied (required : List String) (fields : Fields) : Properties → Prop
  | .nil => True
  | .cons key property rest =>
      FieldSatisfied required fields key (fun value => property.Satisfied value) ∧
        rest.Satisfied required fields

end

def ObjectItem.Satisfied (item : ObjectItem) (value : Json) : Prop :=
  ∃ fields, value = .obj fields ∧ (∀ field ∈ fields, field.1 ∈ item.properties.keys) ∧
    item.properties.Satisfied regExp item.required fields

def SchemaProperty.Satisfied : SchemaProperty → Json → Prop
  | .object nested => nested.Satisfied regExp
  | .primitive property => property.Satisfied regExp
  | .discriminatedArray _ oneOf minItems maxItems =>
      ArraySatisfied (fun item => ∃ variant ∈ oneOf, variant.Satisfied regExp item)
        minItems maxItems
  | .itemArray items minItems maxItems =>
      ArraySatisfied (items.Satisfied regExp) minItems maxItems
  | .primitiveArray items minItems maxItems =>
      ArraySatisfied (items.property.Satisfied regExp) minItems maxItems

end Meaning

/-! ### Schemas that can be translated -/

section Usable

variable (regExp : RegExp)

/-- The pattern compiles, where it is used. -/
def PrimitiveProperty.Usable : PrimitiveProperty → Prop
  | .string _ none _ _ (some source) => source = "" ∨ (regExp source).isSome = true
  | _ => True

mutual

def ObjectItemProperty.Usable : ObjectItemProperty → Prop
  | .primitive property => property.Usable regExp
  | .primitiveArray _ _ _ => True
  | .objectArray items _ _ => items.Usable
  | .object nested => nested.Usable

def NestedObject.Usable : NestedObject → Prop
  | .dynamic _ additionalProperties _ => additionalProperties.Usable
  | .known properties _ => properties.Usable

/-- No object that the library has read has a property `__proto__` of its own. -/
def Properties.Usable : Properties → Prop
  | .nil => True
  | .cons key property rest => key ≠ "__proto__" ∧ property.Usable ∧ rest.Usable

end

def Properties.get? : Properties → String → Option ObjectItemProperty
  | .nil, _ => none
  | .cons key property rest, name => if key = name then some property else rest.get? name

/-- The single value that a variant gives the discriminator, which it requires. -/
def ObjectItem.HasTag (discriminator : String) (item : ObjectItem) (tag : String) : Prop :=
  discriminator ∈ item.required ∧ ∃ minLength maxLength pattern,
    item.properties.get? discriminator =
      some (.primitive (.string false (some [tag]) minLength maxLength pattern))

/-- Every variant defines the discriminator as an enumeration of one value, each of its own. -/
def WellDiscriminated (discriminator : String) (oneOf : List ObjectItem) : Prop :=
  ∃ tags : List String, tags.Nodup ∧ List.Forall₂ (ObjectItem.HasTag discriminator) oneOf tags

def SchemaProperty.Usable : SchemaProperty → Prop
  | .object nested => nested.Usable regExp
  | .primitive property => property.Usable regExp
  | .discriminatedArray discriminator oneOf _ _ =>
      (∀ variant ∈ oneOf, variant.properties.Usable regExp) ∧
        WellDiscriminated discriminator oneOf
  | .itemArray items _ _ => items.properties.Usable regExp
  | .primitiveArray _ _ _ => True

end Usable

def SchemaProperty.NamesVariants : SchemaProperty → Json → Prop
  | .discriminatedArray discriminator oneOf _ _ => fun value =>
      ∀ items, value = .arr items → ∀ fields : Fields, .obj fields ∈ items →
        ∃ variant ∈ oneOf, ∃ tag, variant.HasTag discriminator tag ∧
          fields.get? discriminator = some (.str tag)
  | _ => fun _ => True

/-! ### The library -/

/-- `schema.safeParse(value)`: the issues of a failure. -/
abbrev SafeParse := ZodType → Json → Option (List ZodIssue)

def ZodShape.get? (shape : ZodShape) (key : String) : Option ZodType :=
  (shape.find? fun entry => entry.1 == key).map Prod.snd

/-- The schema accepts `undefined`. -/
def ZodType.acceptsAbsent : ZodType → Bool
  | .optional _ => true
  | .unknown => true
  | .nullable inner => inner.acceptsAbsent
  | _ => false

/-- Every option has an enumeration of one value for the discriminator, each of its own. -/
def Discriminates (discriminator : String) (options : List ZodShape) : Prop :=
  ∃ tags : List String, tags.Nodup ∧
    List.Forall₂ (fun shape tag => shape.get? discriminator = some (.enum [tag])) options tags

def OptionNamed (discriminator : String) (fields : Fields) (shape : ZodShape) : Prop :=
  ∃ values text, shape.get? discriminator = some (.enum values) ∧ text ∈ values ∧
    fields.get? discriminator = some (.str text)

/-- Somewhere in the value an object names no option of the union it is checked with. -/
inductive ZodType.Unmatched : ZodType → Json → Prop
  | named {discriminator : String} {options : List ZodShape} {fields : Fields}
      (noOption : ∀ shape ∈ options, ¬OptionNamed discriminator fields shape) :
      Unmatched (.discriminatedUnion discriminator options) (.obj fields)
  | inOption {discriminator : String} {options : List ZodShape} {shape : ZodShape} {value : Json}
      (member : shape ∈ options) (within : Unmatched (.strictObject shape) value) :
      Unmatched (.discriminatedUnion discriminator options) value
  | inField {shape : ZodShape} {entry : String × ZodType} {fields : Fields} {value : Json}
      (member : entry ∈ shape) (found : fields.get? entry.1 = some value)
      (within : Unmatched entry.2 value) : Unmatched (.strictObject shape) (.obj fields)
  | inRecord {schema : ZodType} {fields : Fields} {field : String × Json}
      (member : field ∈ fields) (within : Unmatched schema field.2) :
      Unmatched (.record schema) (.obj fields)
  | inItem {schema : ZodType} {min max : Option Nat} {items : List Json} {item : Json}
      (member : item ∈ items) (within : Unmatched schema item) :
      Unmatched (.array schema min max) (.arr items)
  | inNullable {schema : ZodType} {value : Json} (within : Unmatched schema value) :
      Unmatched (.nullable schema) value
  | inOptional {schema : ZodType} {value : Json} (within : Unmatched schema value) :
      Unmatched (.optional schema) value

def ZodIssue.isLeaf : ZodIssue → Bool
  | .leaf _ _ => true
  | .invalidUnion _ _ => false

def Passes (safeParse : SafeParse) (schema : ZodType) (value : Json) : Prop :=
  safeParse schema value = none

/-- A strict object's check of one property. -/
def FieldPasses (safeParse : SafeParse) (fields : Fields) (entry : String × ZodType) : Prop :=
  match fields.get? entry.1 with
  | some value => Passes safeParse entry.2 value
  | none => entry.2.acceptsAbsent = true

/-- What is documented of the schemas: the values they accept, and that a failure has issues, of
which only a union without a matching option raises one of its own. -/
structure Documented (safeParse : SafeParse) : Prop where
  string : ∀ min max regex value, Passes safeParse (.string min max regex) value ↔
    ∃ text, value = .str text ∧ WithinBounds min max (utf16Length text) ∧
      ∀ test, regex = some test → test text = true
  enum : ∀ values value, Passes safeParse (.enum values) value ↔
    ∃ text, value = .str text ∧ text ∈ values
  number : ∀ int min max value, Passes safeParse (.number int min max) value ↔
    ∃ literal, value = .num literal ∧ IsNumber int min max literal
  boolean : ∀ value, Passes safeParse .boolean value ↔ ∃ truth, value = .bool truth
  unknown : ∀ value, Passes safeParse .unknown value
  nullable : ∀ inner value, Passes safeParse (.nullable inner) value ↔
    value = .null ∨ Passes safeParse inner value
  optional : ∀ inner value, Passes safeParse (.optional inner) value ↔ Passes safeParse inner value
  array : ∀ item min max value, Passes safeParse (.array item min max) value ↔
    ArraySatisfied (Passes safeParse item) min max value
  record : ∀ inner value, Passes safeParse (.record inner) value ↔
    ∃ fields, value = .obj fields ∧ ∀ field ∈ fields, Passes safeParse inner field.2
  strictObject : ∀ shape value, Passes safeParse (.strictObject shape) value ↔
    ∃ fields, value = .obj fields ∧ (∀ field ∈ fields, field.1 ∈ shape.map Prod.fst) ∧
      ∀ entry ∈ shape, FieldPasses safeParse fields entry
  discriminatedUnion : ∀ discriminator options value, Discriminates discriminator options →
    (Passes safeParse (.discriminatedUnion discriminator options) value ↔
      ∃ shape ∈ options, Passes safeParse (.strictObject shape) value)
  issues : ∀ schema value issues, safeParse schema value = some issues → issues ≠ [] ∧
    (¬schema.Unmatched value → ∀ issue ∈ issues, issue.isLeaf = true)

/-! ### The translation -/

section Translation

variable {safeParse : SafeParse} {regExp : RegExp}

/-- A validator accepts what is asked for, and has no union to match. -/
structure Translates (safeParse : SafeParse) (schema : ZodType) (satisfied : Json → Prop) :
    Prop where
  passes : ∀ value, Passes safeParse schema value ↔ satisfied value
  matched : ∀ value, ¬schema.Unmatched value
  present : schema.acceptsAbsent = false

theorem Translates.orNull (documented : Documented safeParse) {schema : ZodType}
    {satisfied : Json → Prop} (translates : Translates safeParse schema satisfied)
    (nullable : Bool) :
    Translates safeParse (Apps.orNull nullable schema) (OrNull nullable satisfied) := by
  unfold Apps.orNull OrNull
  cases nullable with
  | false =>
      grind
  | true =>
      refine ⟨?_, ?_, translates.present⟩
      · simp [documented.nullable, translates.passes]
      · intro value unmatched
        cases unmatched with
        | inNullable within => exact translates.matched value within

theorem Translates.array (documented : Documented safeParse) {schema : ZodType}
    {satisfied : Json → Prop} (translates : Translates safeParse schema satisfied)
    (minItems maxItems : Option Nat) :
    Translates safeParse (.array schema minItems maxItems)
      (ArraySatisfied satisfied minItems maxItems) := by
  refine ⟨?_, ?_, rfl⟩
  · intro value
    rw [documented.array]
    unfold ArraySatisfied
    simp only [translates.passes]
  · intro value unmatched
    cases unmatched with
    | inItem member within => exact translates.matched _ within

theorem Translates.record (documented : Documented safeParse) {schema : ZodType}
    {satisfied : Json → Prop} (passes : ∀ value, Passes safeParse schema value ↔ satisfied value)
    (matched : ∀ value, ¬schema.Unmatched value) :
    Translates safeParse (.record schema)
      (fun value => ∃ fields, value = .obj fields ∧ ∀ field ∈ fields, satisfied field.2) := by
  refine ⟨?_, ?_, rfl⟩
  · intro value
    rw [documented.record]
    simp only [passes]
  · intro value unmatched
    cases unmatched with
    | inRecord member within => exact matched _ within

/-! #### Primitives -/

theorem patternToRegex_ok {pattern : Option String}
    (usable : ∀ source, pattern = some source → source = "" ∨ (regExp source).isSome = true) :
    ∃ regex, patternToRegex regExp pattern = .ok regex ∧
      ∀ text, (∀ test, regex = some test → test text = true) ↔
        PatternSatisfied regExp pattern text := by
  unfold PatternSatisfied patternToRegex
  cases pattern with
  | none => exact ⟨none, rfl, by simp⟩
  | some source =>
      dsimp only
      by_cases empty : source = ""
      · simp [empty]
      · have compiles := (usable source rfl).resolve_left empty
        rcases Option.isSome_iff_exists.mp compiles with ⟨test, compiled⟩
        rw [if_neg empty]
        refine ⟨some test, ?_, ?_⟩
        · rw [newRegExp, compiled]
          rfl
        · intro text
          simp [empty, compiled]

theorem primitivePropertyToZod_translates (documented : Documented safeParse)
    {property : PrimitiveProperty} (usable : property.Usable regExp) :
    ∃ schema, primitivePropertyToZod regExp property = .ok schema ∧
      Translates safeParse schema (property.Satisfied regExp) := by
  cases property with
  | string nullable enum minLength maxLength pattern =>
      cases enum with
      | some values =>
          refine ⟨_, rfl, ?_⟩
          cases values with
          | nil =>
              refine @Translates.orNull safeParse documented (.string none none none) _
                ⟨?_, fun _ => nofun, rfl⟩ nullable
              simp [WithinBounds, documented.string]
          | cons first rest =>
              refine @Translates.orNull safeParse documented (.enum (first :: rest)) _
                ⟨?_, fun _ => nofun, rfl⟩ nullable
              simp [documented.enum]
      | none =>
          have compiles : ∀ source, pattern = some source →
              source = "" ∨ (regExp source).isSome = true := by
            rintro source rfl
            exact usable
          rcases patternToRegex_ok compiles with ⟨regex, made, matchesPattern⟩
          refine ⟨orNull nullable (.string minLength maxLength regex), ?_, ?_⟩
          · rw [primitivePropertyToZod, made]
            rfl
          · refine @Translates.orNull safeParse documented (.string minLength maxLength regex) _
              ⟨?_, fun _ => nofun, rfl⟩ nullable
            intro value
            rw [documented.string]
            simp only [matchesPattern]
  | number nullable minimum maximum =>
      exact ⟨_, rfl, Translates.orNull documented
        ⟨documented.number false minimum maximum, fun _ => nofun, rfl⟩ nullable⟩
  | integer nullable minimum maximum =>
      exact ⟨_, rfl, Translates.orNull documented
        ⟨documented.number true minimum maximum, fun _ => nofun, rfl⟩ nullable⟩
  | boolean nullable =>
      exact ⟨_, rfl, Translates.orNull documented
        ⟨documented.boolean, fun _ => nofun, rfl⟩ nullable⟩

theorem PrimitiveType.usable (type : PrimitiveType) : type.property.Usable regExp := by
  cases type <;> exact trivial

/-! #### Objects -/

/-- A shape checks the properties it is made of. -/
structure ShapeTranslates (safeParse : SafeParse) (regExp : RegExp) (required : List String)
    (shape : ZodShape) (properties : Properties) : Prop where
  keys : shape.map Prod.fst = properties.keys
  passes : ∀ fields, (∀ entry ∈ shape, FieldPasses safeParse fields entry) ↔
    properties.Satisfied regExp required fields
  matched : ∀ entry ∈ shape, ∀ value, ¬entry.2.Unmatched value

theorem fieldPasses_iff (documented : Documented safeParse) {schema : ZodType}
    {satisfied : Json → Prop} (translates : Translates safeParse schema satisfied)
    (required : List String) (fields : Fields) (key : String) :
    FieldPasses safeParse fields
        (key, if required.contains key then schema else .optional schema) ↔
      FieldSatisfied required fields key satisfied := by
  unfold FieldPasses FieldSatisfied
  by_cases isRequired : required.contains key = true
  · grind [translates.passes, translates.present]
  · grind [ZodType.acceptsAbsent, documented.optional, translates.passes]

theorem ShapeTranslates.cons (documented : Documented safeParse) {required : List String}
    {key : String} {schema : ZodType} {property : ObjectItemProperty} {shape : ZodShape}
    {rest : Properties} (plainName : key ≠ "__proto__")
    (head : Translates safeParse schema (property.Satisfied regExp))
    (tail : ShapeTranslates safeParse regExp required shape rest) :
    ShapeTranslates safeParse regExp required
      (assignField key (if required.contains key then schema else .optional schema) shape)
      (.cons key property rest) := by
  rw [assignField, if_neg plainName]
  refine ⟨?_, ?_, ?_⟩
  · rw [List.map_cons, tail.keys]
    rfl
  · intro fields
    rw [List.forall_mem_cons, tail.passes, fieldPasses_iff documented head]
    rfl
  · intro entry member value unmatched
    rcases List.mem_cons.mp member with rfl | later
    · split at unmatched
      · exact head.matched value unmatched
      · cases unmatched with
        | inOptional within => exact head.matched value within
    · exact tail.matched entry later value unmatched

theorem ShapeTranslates.strictObject (documented : Documented safeParse) {required : List String}
    {shape : ZodShape} {properties : Properties}
    (translates : ShapeTranslates safeParse regExp required shape properties) :
    Translates safeParse (.strictObject shape)
      (ObjectItem.Satisfied regExp ⟨properties, required⟩) := by
  refine ⟨?_, ?_, rfl⟩
  · intro value
    rw [documented.strictObject, translates.keys]
    simp only [translates.passes]
    rfl
  · intro value unmatched
    cases unmatched with
    | inField member found within => exact translates.matched _ member _ within

theorem ShapeTranslates.isEmpty_iff {required : List String} {shape : ZodShape}
    {properties : Properties}
    (translates : ShapeTranslates safeParse regExp required shape properties) :
    shape.isEmpty = true ↔ properties.keys = [] := by
  rw [← translates.keys, List.isEmpty_iff, List.map_eq_nil_iff]

theorem free_translates (documented : Documented safeParse) {properties : Properties}
    {required : List String} (noKeys : properties.keys = []) :
    Translates safeParse (.record .unknown)
      (NestedObject.Satisfied regExp (.known properties required)) := by
  have free := @Translates.record safeParse documented .unknown (fun _ => True)
    (fun value => iff_true_intro (documented.unknown value)) (fun _ => nofun)
  refine ⟨?_, free.matched, rfl⟩
  intro value
  rw [free.passes]
  simp [NestedObject.Satisfied, noKeys]

theorem known_translates (documented : Documented safeParse) {properties : Properties}
    {required : List String} {shape : ZodShape}
    (translates : ShapeTranslates safeParse regExp required shape properties)
    (someKeys : properties.keys ≠ []) :
    Translates safeParse (.strictObject shape)
      (NestedObject.Satisfied regExp (.known properties required)) := by
  have strict := translates.strictObject documented
  refine ⟨?_, strict.matched, rfl⟩
  intro value
  rw [strict.passes]
  simp [NestedObject.Satisfied, ObjectItem.Satisfied, someKeys]

mutual

/-- The validator of a property asks what its schema asks. -/
theorem objectItemPropertyToZod_translates (documented : Documented safeParse) :
    ∀ property : ObjectItemProperty, property.Usable regExp →
      ∃ schema, objectItemPropertyToZod regExp property = .ok schema ∧
        Translates safeParse schema (property.Satisfied regExp)
  | .primitive property, usable => primitivePropertyToZod_translates documented usable
  | .primitiveArray items minItems maxItems, _ => by
      rcases @primitivePropertyToZod_translates safeParse regExp documented _ items.usable with
        ⟨schema, made, translates⟩
      refine ⟨.array schema minItems maxItems, ?_, translates.array documented minItems maxItems⟩
      rw [objectItemPropertyToZod, made]
      rfl
  | .objectArray items minItems maxItems, usable => by
      rcases nestedObjectToZod_translates documented items usable with ⟨schema, made, translates⟩
      refine ⟨.array schema minItems maxItems, ?_, translates.array documented minItems maxItems⟩
      rw [objectItemPropertyToZod, made]
      rfl
  | .object nested, usable => nestedObjectToZod_translates documented nested usable

theorem nestedObjectToZod_translates (documented : Documented safeParse) :
    ∀ nested : NestedObject, nested.Usable regExp →
      ∃ schema, nestedObjectToZod regExp nested = .ok schema ∧
        Translates safeParse schema (nested.Satisfied regExp)
  | .dynamic _ additionalProperties _, usable => by
      rcases objectItemPropertyToZod_translates documented additionalProperties usable with
        ⟨schema, made, translates⟩
      refine ⟨.record schema, ?_, .record documented translates.passes translates.matched⟩
      rw [nestedObjectToZod, made]
      rfl
  | .known properties required, usable => by
      rcases shapeToZod_translates documented required properties usable with
        ⟨shape, made, translates⟩
      refine ⟨if shape.isEmpty then .record .unknown else .strictObject shape, ?_, ?_⟩
      · rw [nestedObjectToZod, made]
        rfl
      · by_cases empty : shape.isEmpty = true
        · rw [if_pos empty]
          exact free_translates documented (translates.isEmpty_iff.mp empty)
        · rw [if_neg empty]
          exact known_translates documented translates
            (mt translates.isEmpty_iff.mpr empty)

theorem shapeToZod_translates (documented : Documented safeParse) (required : List String) :
    ∀ properties : Properties, properties.Usable regExp →
      ∃ shape, shapeToZod regExp required properties = .ok shape ∧
        ShapeTranslates safeParse regExp required shape properties
  | .nil, _ => ⟨[], rfl, rfl, fun _ => by simp [Properties.Satisfied], nofun⟩
  | .cons key property rest, usable => by
      rcases objectItemPropertyToZod_translates documented property usable.2.1 with
        ⟨schema, made, head⟩
      rcases shapeToZod_translates documented required rest usable.2.2 with ⟨shape, rests, tail⟩
      refine ⟨_, ?_, .cons documented usable.1 head tail⟩
      rw [shapeToZod, made, rests]
      rfl

end

/-! #### Variants -/

/-- A variant and the shape made of it: the shape checks the variant, and has its tag. -/
structure VariantTranslates (safeParse : SafeParse) (regExp : RegExp) (discriminator : String)
    (variant : ObjectItem) (shape : ZodShape) : Prop where
  checks : ShapeTranslates safeParse regExp variant.required shape variant.properties
  tag : ∀ tag, variant.HasTag discriminator tag →
    shape.get? discriminator = some (.enum [tag])

theorem get?_assignField {key name : String} {schema : ZodType} {shape : ZodShape}
    (plainName : key ≠ "__proto__") :
    (assignField key schema shape).get? name =
      if key = name then some schema else shape.get? name := by
  grind [assignField, ZodShape.get?]

theorem get?_shapeToZod {required : List String} {key : String} (isRequired : key ∈ required)
    {property : ObjectItemProperty} {schema : ZodType}
    (made : objectItemPropertyToZod regExp property = .ok schema) :
    ∀ {properties : Properties} {shape : ZodShape}, properties.Usable regExp →
      shapeToZod regExp required properties = .ok shape →
        properties.get? key = some property → shape.get? key = some schema
  | .nil, _, _, _, found => by cases found
  | .cons name first rest, _, usable, built, found => by
      rw [shapeToZod] at built
      rcases bind_eq_ok.mp built with ⟨fieldSchema, field, others⟩
      rcases bind_eq_ok.mp others with ⟨shape, tail, result⟩
      cases result
      rw [get?_assignField usable.1]
      rw [Properties.get?] at found
      by_cases same : name = key
      · grind
      · rw [if_neg same] at found ⊢
        exact get?_shapeToZod isRequired made usable.2.2 tail found

theorem variantsToZod_translates (documented : Documented safeParse) (discriminator : String)
    {oneOf : List ObjectItem} (usable : ∀ variant ∈ oneOf, variant.properties.Usable regExp) :
    ∃ shapes, variantsToZod regExp oneOf = .ok shapes ∧
      List.Forall₂ (VariantTranslates safeParse regExp discriminator) oneOf shapes := by
  induction oneOf with
  | nil => exact ⟨[], rfl, .nil⟩
  | cons variant rest inductionHypothesis =>
      have here := usable variant List.mem_cons_self
      rcases shapeToZod_translates documented variant.required variant.properties here with
        ⟨shape, made, translates⟩
      rcases inductionHypothesis fun other member =>
        usable other (List.mem_cons_of_mem _ member) with ⟨shapes, others, tail⟩
      refine ⟨shape :: shapes, ?_, .cons ⟨translates, ?_⟩ tail⟩
      · rw [variantsToZod, objectItemToZod, made, others]
        rfl
      · intro tag hasTag
        rcases hasTag with ⟨isRequired, minLength, maxLength, pattern, found⟩
        exact get?_shapeToZod isRequired rfl here made found

section Union

variable {discriminator : String} {oneOf : List ObjectItem} {shapes : List ZodShape}

theorem discriminates_of_variants
    (translates : List.Forall₂ (VariantTranslates safeParse regExp discriminator) oneOf shapes)
    (well : WellDiscriminated discriminator oneOf) : Discriminates discriminator shapes := by
  rcases well with ⟨tags, distinct, tagged⟩
  refine ⟨tags, distinct, ?_⟩
  clear distinct
  induction translates generalizing tags with
  | nil =>
      cases tagged
      exact .nil
  | cons head _ inductionHypothesis =>
      cases tagged with
      | cons hasTag others => exact .cons (head.tag _ hasTag) (inductionHypothesis _ others)

theorem union_passes (documented : Documented safeParse)
    (translates : List.Forall₂ (VariantTranslates safeParse regExp discriminator) oneOf shapes)
    (well : WellDiscriminated discriminator oneOf) (value : Json) :
    Passes safeParse (.discriminatedUnion discriminator shapes) value ↔
      ∃ variant ∈ oneOf, variant.Satisfied regExp value := by
  rw [documented.discriminatedUnion _ _ _ (discriminates_of_variants translates well)]
  constructor
  · rintro ⟨shape, member, passes⟩
    rcases forall₂_right translates member with ⟨variant, isVariant, related⟩
    exact ⟨variant, isVariant, ((related.checks.strictObject documented).passes value).mp passes⟩
  · rintro ⟨variant, isVariant, satisfied⟩
    rcases forall₂_left translates isVariant with ⟨shape, member, related⟩
    exact ⟨shape, member, ((related.checks.strictObject documented).passes value).mpr satisfied⟩

theorem union_matched (documented : Documented safeParse)
    (translates : List.Forall₂ (VariantTranslates safeParse regExp discriminator) oneOf shapes)
    {value : Json}
    (names : ∀ fields : Fields, value = .obj fields → ∃ variant ∈ oneOf, ∃ tag,
      variant.HasTag discriminator tag ∧ fields.get? discriminator = some (.str tag)) :
    ¬(ZodType.discriminatedUnion discriminator shapes).Unmatched value := by
  intro unmatched
  cases unmatched with
  | named noOption =>
      rcases names _ rfl with ⟨variant, isVariant, tag, hasTag, found⟩
      rcases forall₂_left translates isVariant with ⟨shape, member, related⟩
      exact noOption shape member
        ⟨[tag], tag, related.tag tag hasTag, List.mem_singleton_self tag, found⟩
  | inOption member within =>
      rcases forall₂_right translates member with ⟨variant, _, related⟩
      exact (related.checks.strictObject documented).matched value within

end Union

/-- The validator of a setting accepts what the schema asks for, and raises no issue of a union
for a value whose items name their variants. -/
theorem propertyToZod_spec (documented : Documented safeParse) {property : SchemaProperty}
    (usable : property.Usable regExp) :
    ∃ schema, propertyToZod regExp property = .ok schema ∧
      (∀ value, Passes safeParse schema value ↔ property.Satisfied regExp value) ∧
      ∀ value, property.NamesVariants value → ¬schema.Unmatched value := by
  cases property with
  | primitive property =>
      rcases primitivePropertyToZod_translates documented usable with ⟨schema, made, translates⟩
      exact ⟨schema, made, translates.passes, fun value _ => translates.matched value⟩
  | object nested =>
      rcases nestedObjectToZod_translates documented nested usable with ⟨schema, made, translates⟩
      exact ⟨schema, made, translates.passes, fun value _ => translates.matched value⟩
  | primitiveArray items minItems maxItems =>
      rcases @primitivePropertyToZod_translates safeParse regExp documented _ items.usable with
        ⟨item, made, translates⟩
      have asArray := translates.array documented minItems maxItems
      refine ⟨.array item minItems maxItems, ?_, asArray.passes, fun value _ =>
        asArray.matched value⟩
      rw [propertyToZod, made]
      rfl
  | itemArray items minItems maxItems =>
      rcases shapeToZod_translates documented items.required items.properties usable with
        ⟨shape, made, translates⟩
      have asArray := (translates.strictObject documented).array documented minItems maxItems
      refine ⟨.array (.strictObject shape) minItems maxItems, ?_, asArray.passes, fun value _ =>
        asArray.matched value⟩
      rw [propertyToZod, objectItemToZod, made]
      rfl
  | discriminatedArray discriminator oneOf minItems maxItems =>
      rcases variantsToZod_translates documented discriminator usable.1 with
        ⟨shapes, made, translates⟩
      refine ⟨.array (.discriminatedUnion discriminator shapes) minItems maxItems, ?_, ?_, ?_⟩
      · rw [propertyToZod, made]
        rfl
      · intro value
        rw [documented.array]
        simp only [SchemaProperty.Satisfied, ArraySatisfied,
          union_passes documented translates usable.2]
      · intro value names unmatched
        cases unmatched with
        | @inItem _ _ _ items item member within =>
            refine union_matched documented translates ?_ within
            rintro fields rfl
            exact names items rfl fields member

end Translation

end Lombok.Apps
