import Lombok.Apps.CustomSettings
import Lombok.Auth.SsoSubmission
import Lombok.Core.JsValue

/-!
Contract: the schemas of custom settings, and the validators made of them.

Owns the JSON schemas an app may declare for its settings, `propertyToZod`, and
`flattenZodIssues`. What the library makes of a validator is not said here: its
schemas are data, built as the code builds them.

The properties of a nested object are a list; one that is absent is the empty
one, as it is for the code. Does not own descriptions, nested defaults, or the
required keys of the whole, which a patch never reads.
-/

namespace Lombok.Apps

open Lombok.Core Lombok.Library Lombok.Auth

/-! ### Schemas -/

inductive PrimitiveType where
  | string
  | number
  | integer
  | boolean
deriving DecidableEq

/-- `jsonSchema07PrimitivePropertySchema`; `nullable` is the type with `"null"`. -/
inductive PrimitiveProperty where
  | string (nullable : Bool) (enum : Option (List String)) (minLength maxLength : Option Nat)
      (pattern : Option String)
  | number (nullable : Bool) (minimum maximum : Option Numeral)
  | integer (nullable : Bool) (minimum maximum : Option Numeral)
  | boolean (nullable : Bool)

mutual

/-- `jsonSchema07ObjectItemPropertySchema`. -/
inductive ObjectItemProperty where
  | primitive (property : PrimitiveProperty)
  | primitiveArray (items : PrimitiveType) (minItems maxItems : Option Nat)
  | objectArray (items : NestedObject) (minItems maxItems : Option Nat)
  | object (object : NestedObject)

/-- A nested object without and with `additionalProperties`. -/
inductive NestedObject where
  | known (properties : Properties) (required : List String)
  | dynamic (properties : Properties) (additionalProperties : ObjectItemProperty)
      (required : List String)

inductive Properties where
  | nil
  | cons (key : String) (property : ObjectItemProperty) (rest : Properties)

end

/-- `jsonSchema07ObjectItemSchema`. -/
structure ObjectItem where
  properties : Properties
  required : List String

/-- `jsonSchema07PropertySchema`. -/
inductive SchemaProperty where
  | primitive (property : PrimitiveProperty)
  | primitiveArray (items : PrimitiveType) (minItems maxItems : Option Nat)
  | itemArray (items : ObjectItem) (minItems maxItems : Option Nat)
  | discriminatedArray (discriminator : String) (oneOf : List ObjectItem)
      (minItems maxItems : Option Nat)
  | object (object : NestedObject)

/-- A property of the whole, with the default a read falls back to. -/
structure SettingsProperty where
  schema : SchemaProperty
  defaultValue : Option Json

/-! ### Their JSON -/

def PrimitiveType.text : PrimitiveType → String
  | .string => "string"
  | .number => "number"
  | .integer => "integer"
  | .boolean => "boolean"

def typeField (nullable : Bool) (type : PrimitiveType) : String × Json :=
  ("type", if nullable then .arr [.str type.text, .str "null"] else .str type.text)

def boundFields (low high : String) (minimum maximum : Option Json) : Fields :=
  Fields.ofOptions [(low, minimum), (high, maximum)]

def PrimitiveProperty.fields : PrimitiveProperty → Fields
  | .string nullable enum minLength maxLength pattern =>
      typeField nullable .string ::
        Fields.ofOptions [("enum", enum.map fun values => .arr (values.map Json.str)),
          ("minLength", minLength.map Json.ofNat), ("maxLength", maxLength.map Json.ofNat),
          ("pattern", pattern.map Json.str)]
  | .number nullable minimum maximum =>
      typeField nullable .number :: boundFields "minimum" "maximum"
        (minimum.map fun bound => .num bound.literal) (maximum.map fun bound => .num bound.literal)
  | .integer nullable minimum maximum =>
      typeField nullable .integer :: boundFields "minimum" "maximum"
        (minimum.map fun bound => .num bound.literal) (maximum.map fun bound => .num bound.literal)
  | .boolean nullable => [typeField nullable .boolean]

def arrayFields (items : Json) (minItems maxItems : Option Nat) : Fields :=
  ("type", .str "array") :: ("items", items) ::
    boundFields "minItems" "maxItems" (minItems.map Json.ofNat) (maxItems.map Json.ofNat)

def requiredField (required : List String) : String × Json :=
  ("required", .arr (required.map Json.str))

mutual

def ObjectItemProperty.fields : ObjectItemProperty → Fields
  | .primitive property => property.fields
  | .primitiveArray items minItems maxItems =>
      arrayFields (.obj [typeField false items]) minItems maxItems
  | .objectArray items minItems maxItems => arrayFields (.obj items.fields) minItems maxItems
  | .object nested => nested.fields

def NestedObject.fields : NestedObject → Fields
  | .known properties required =>
      [("type", .str "object"), ("properties", .obj properties.fields), requiredField required]
  | .dynamic properties additionalProperties required =>
      [("type", .str "object"), ("properties", .obj properties.fields),
        ("additionalProperties", .obj additionalProperties.fields), requiredField required]

def Properties.fields : Properties → Fields
  | .nil => []
  | .cons key property rest => (key, .obj property.fields) :: rest.fields

end

def ObjectItem.toJson (item : ObjectItem) : Json :=
  .obj [("type", .str "object"), ("properties", .obj item.properties.fields),
    requiredField item.required]

def SchemaProperty.fields : SchemaProperty → Fields
  | .primitive property => property.fields
  | .primitiveArray items minItems maxItems =>
      arrayFields (.obj [typeField false items]) minItems maxItems
  | .itemArray items minItems maxItems => arrayFields items.toJson minItems maxItems
  | .discriminatedArray discriminator oneOf minItems maxItems =>
      let variants := Json.arr (oneOf.map ObjectItem.toJson)
      arrayFields (.obj [("discriminator", .str discriminator), ("oneOf", variants)])
        minItems maxItems
  | .object nested => nested.fields

def SettingsProperty.toJson (property : SettingsProperty) : Json :=
  .obj (Fields.ofOptions [("default", property.defaultValue)] ++ property.schema.fields)

/-! ### Validators -/

/-- The schemas of the library that are built here. -/
inductive ZodType where
  | string (min max : Option Nat) (regex : Option (String → Bool))
  | enum (values : List String)
  | number (int : Bool) (min max : Option Numeral)
  | boolean
  | unknown
  | nullable (inner : ZodType)
  | optional (inner : ZodType)
  | array (item : ZodType) (min max : Option Nat)
  /-- `z.record(z.string(), value)`. -/
  | record (value : ZodType)
  /-- `z.object(shape).strict()`. -/
  | strictObject (shape : List (String × ZodType))
  /-- The options are strict objects, by their shapes. -/
  | discriminatedUnion (discriminator : String) (options : List (List (String × ZodType)))

abbrev ZodShape := List (String × ZodType)

/-- `new RegExp(source)`. -/
def newRegExp (regExp : RegExp) (source : String) : Except ApiError (String → Bool) :=
  match regExp source with
  | some test => .ok test
  | none => .error (.serviceError "SyntaxError")

/-- The regular expression of a pattern; an empty one is none. -/
def patternToRegex (regExp : RegExp) : Option String → Except ApiError (Option (String → Bool))
  | none => .ok none
  | some source => if source = "" then .ok none else (newRegExp regExp source).map some

def orNull (nullable : Bool) (schema : ZodType) : ZodType :=
  if nullable then .nullable schema else schema

def primitivePropertyToZod (regExp : RegExp) : PrimitiveProperty → Except ApiError ZodType
  | .string nullable (some values) _ _ _ =>
      .ok (orNull nullable (if values.isEmpty then .string none none none else .enum values))
  | .string nullable none minLength maxLength pattern => do
      let regex ← patternToRegex regExp pattern
      .ok (orNull nullable (.string minLength maxLength regex))
  | .number nullable minimum maximum => .ok (orNull nullable (.number false minimum maximum))
  | .integer nullable minimum maximum => .ok (orNull nullable (.number true minimum maximum))
  | .boolean nullable => .ok (orNull nullable .boolean)

/-- `{ type }`, the items of an array of primitives. -/
def PrimitiveType.property : PrimitiveType → PrimitiveProperty
  | .string => .string false none none none none
  | .number => .number false none none
  | .integer => .integer false none none
  | .boolean => .boolean false

/-- `shape[key] = schema`: the name `__proto__` adds no property. -/
def assignField (key : String) (schema : ZodType) (shape : ZodShape) : ZodShape :=
  if key = "__proto__" then shape else (key, schema) :: shape

mutual

def objectItemPropertyToZod (regExp : RegExp) : ObjectItemProperty → Except ApiError ZodType
  | .primitive property => primitivePropertyToZod regExp property
  | .primitiveArray items minItems maxItems => do
      let item ← primitivePropertyToZod regExp items.property
      .ok (.array item minItems maxItems)
  | .objectArray items minItems maxItems => do
      let item ← nestedObjectToZod regExp items
      .ok (.array item minItems maxItems)
  | .object nested => nestedObjectToZod regExp nested

def nestedObjectToZod (regExp : RegExp) : NestedObject → Except ApiError ZodType
  | .dynamic _ additionalProperties _ => do
      let value ← objectItemPropertyToZod regExp additionalProperties
      .ok (.record value)
  | .known properties required => do
      let shape ← shapeToZod regExp required properties
      .ok (if shape.isEmpty then .record .unknown else .strictObject shape)

/-- The loop over the properties of an object. -/
def shapeToZod (regExp : RegExp) (required : List String) :
    Properties → Except ApiError ZodShape
  | .nil => .ok []
  | .cons key property rest => do
      let fieldSchema ← objectItemPropertyToZod regExp property
      let shape ← shapeToZod regExp required rest
      .ok (assignField key
        (if required.contains key then fieldSchema else .optional fieldSchema) shape)

end

/-- The shape of `objectItemToZod`. -/
def objectItemToZod (regExp : RegExp) (item : ObjectItem) : Except ApiError ZodShape :=
  shapeToZod regExp item.required item.properties

def variantsToZod (regExp : RegExp) : List ObjectItem → Except ApiError (List ZodShape)
  | [] => .ok []
  | variant :: rest => do
      let shape ← objectItemToZod regExp variant
      let shapes ← variantsToZod regExp rest
      .ok (shape :: shapes)

def propertyToZod (regExp : RegExp) : SchemaProperty → Except ApiError ZodType
  | .object nested => nestedObjectToZod regExp nested
  | .primitive property => primitivePropertyToZod regExp property
  | .discriminatedArray discriminator oneOf minItems maxItems => do
      let variants ← variantsToZod regExp oneOf
      .ok (.array (.discriminatedUnion discriminator variants) minItems maxItems)
  | .itemArray items minItems maxItems => do
      let shape ← objectItemToZod regExp items
      .ok (.array (.strictObject shape) minItems maxItems)
  | .primitiveArray items minItems maxItems => do
      let item ← primitivePropertyToZod regExp items.property
      .ok (.array item minItems maxItems)

/-! ### Issues -/

inductive PropertyKey where
  | name (text : String)
  | index (position : Nat)
deriving DecidableEq

/-- An issue of the library; the errors of a union are those of each option that was tried. -/
inductive ZodIssue where
  | leaf (path : List PropertyKey) (message : String)
  | invalidUnion (path : List PropertyKey) (errors : List (List ZodIssue))

/-- `replace(/\.\[/g, '[')`. -/
def closeBrackets : List Char → List Char
  | '.' :: '[' :: rest => '[' :: closeBrackets rest
  | character :: rest => character :: closeBrackets rest
  | [] => []

def PropertyKey.text : PropertyKey → String
  | .name text => text
  | .index position => "[" ++ toString position ++ "]"

def joinPath (path : List PropertyKey) : String :=
  let parts := (path.map PropertyKey.text).filter fun part => part ≠ ""
  String.ofList (closeBrackets (".".intercalate parts).toList)

def deepestPath (leaves : List FormattedZodIssue) : Nat :=
  leaves.foldl (fun depth leaf => max depth (utf16Length leaf.path)) 0

/-- The first of the variants whose longest path is longest; no leaves where there is none. -/
def bestVariant : List (List FormattedZodIssue) → List FormattedZodIssue
  | [] => []
  | first :: rest =>
      rest.foldl (fun best leaves =>
        if deepestPath best < deepestPath leaves then leaves else best) first

def anchorLeaf (path : List PropertyKey) (leaf : FormattedZodIssue) : FormattedZodIssue :=
  let above := joinPath path
  { leaf with
    path :=
      if leaf.path = "" then above
      else above ++ (if above = "" then "" else ".") ++ leaf.path }

mutual

def flattenIssue : ZodIssue → List FormattedZodIssue
  | .leaf path message => [{ path := joinPath path, message := message }]
  | .invalidUnion path errors => (bestVariant (flattenVariants errors)).map (anchorLeaf path)

def flattenZodIssues : List ZodIssue → List FormattedZodIssue
  | [] => []
  | issue :: rest => flattenIssue issue ++ flattenZodIssues rest

def flattenVariants : List (List ZodIssue) → List (List FormattedZodIssue)
  | [] => []
  | issues :: rest => flattenZodIssues issues :: flattenVariants rest

end

end Lombok.Apps
