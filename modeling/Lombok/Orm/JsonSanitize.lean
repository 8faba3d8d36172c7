import Lombok.Library.CodeUnits
import Lombok.Library.OrderedMap

/-!
Contract: the sanitiser and the checker of JSON data for a Postgres column.

Owns the values the two walk over, `findIllegalJsonChars`, `sanitizeStringForPg` and
`sanitizeJsonForJSONB` with their options, paths and messages. Strings and keys are
texts of code units. An object has its own entries in the order `Object.entries`
lists them, and a brand that says which class it is of.

Assigning to the key that names the prototype goes to the inherited setter, which
makes no entry. Does not own the prototype such an assignment sets, nor identities: a
value is a finite tree, in which no object contains itself, so the set of objects
under way never has the one that is looked up. A union of Zod schemas is a parameter,
with its law for the values of JSON.
-/

namespace Lombok.Orm

open Lombok.Library

/-- Numbers, as far as the two functions tell them apart. -/
inductive JsNumber where
  | finite (value : Rat)
  | negativeZero
  | infinite (negative : Bool)
  | nan
deriving DecidableEq

def JsNumber.isFinite : JsNumber → Bool
  | .finite _ | .negativeZero => true
  | .infinite _ | .nan => false

/-- The types that are none of JSON. -/
inductive UnsupportedType where
  | bigint
  | symbol
  | function
  | undefined
deriving DecidableEq

/-- What `typeof` prints. -/
def UnsupportedType.name : UnsupportedType → Text
  | .bigint => Text.ofLiteral "bigint"
  | .symbol => Text.ofLiteral "symbol"
  | .function => Text.ofLiteral "function"
  | .undefined => Text.ofLiteral "undefined"

inductive Brand where
  /-- An object literal, or what `JSON.parse` makes. -/
  | plain
  | date
  /-- A buffer, a view or an array of numbers of one width. -/
  | binary
  /-- An instance of any other class. -/
  | classInstance
deriving DecidableEq

inductive Unknown where
  | null
  | boolean (value : Bool)
  | number (value : JsNumber)
  | string (text : Text)
  | unsupported (type : UnsupportedType)
  | array (items : List Unknown)
  | object (brand : Brand) (entries : List (Text × Unknown))

abbrev Entries := List (Text × Unknown)

/-! ### Options -/

inductive ControlCharMode where
  | escape
  | strip
  | keep
deriving DecidableEq

structure SanitizeOptions where
  /-- Nothing where a NUL is an error. -/
  nulReplacement : Option Text := some (Text.ofLiteral "[NUL]")
  controlCharMode : ControlCharMode := .escape
  disallowBinary : Bool := true

/-! ### Characters -/

def hasNul (text : Text) : Bool := text.contains 0

/-- The range of `/[\u0001-\u0008\u000B\u000C\u000E-\u001F]/`. -/
def isControlChar (unit : Nat) : Bool :=
  decide ((1 ≤ unit ∧ unit ≤ 8) ∨ unit = 0xB ∨ unit = 0xC ∨ (0xE ≤ unit ∧ unit ≤ 0x1F))

def findOtherControlChar (text : Text) : Option Nat := text.find? isControlChar

/-- `toString(16).padStart(4, '0')`. -/
def hexOfUnit (unit : Nat) : Text :=
  let digits := (Nat.toDigits 16 unit).map Char.toNat
  List.replicate (4 - digits.length) '0'.toNat ++ digits

/-! ### findIllegalJsonChars -/

inductive IllegalJsonReason where
  | nulInString
  | controlCharInString
  | binaryNotAllowed
  | nonFiniteNumber
  | circularReference
  | unsupportedType
deriving DecidableEq

structure IllegalJsonFinding where
  path : Text
  reason : IllegalJsonReason
  detail : Option Text
deriving DecidableEq

def itemPath (path : Text) (index : Nat) : Text :=
  path ++ Text.ofLiteral "[" ++ (Nat.toDigits 10 index).map Char.toNat ++ Text.ofLiteral "]"

def propertyPath (path key : Text) : Text := path ++ Text.ofLiteral "." ++ key

def findInString (path text : Text) : Option IllegalJsonFinding :=
  if hasNul text then some ⟨path, .nulInString, none⟩
  else (findOtherControlChar text).map fun control =>
    ⟨path, .controlCharInString, some (Text.ofLiteral "U+" ++ hexOfUnit control)⟩

mutual

def findIllegalJsonChars (options : SanitizeOptions) (path : Text) :
    Unknown → Option IllegalJsonFinding
  | .null => none
  | .string text => findInString path text
  | .number value => if value.isFinite then none else some ⟨path, .nonFiniteNumber, none⟩
  | .boolean _ => none
  | .unsupported type => some ⟨path, .unsupportedType, some type.name⟩
  | .array items => findInItems options path 0 items
  | .object brand entries =>
      if brand = .date then none
      else if options.disallowBinary = true ∧ brand = .binary then
        some ⟨path, .binaryNotAllowed, none⟩
      else findInEntries options path entries

def findInItems (options : SanitizeOptions) (path : Text) (index : Nat) :
    List Unknown → Option IllegalJsonFinding
  | [] => none
  | item :: rest =>
      match findIllegalJsonChars options (itemPath path index) item with
      | some finding => some finding
      | none => findInItems options path (index + 1) rest

/-- A key is part of the path and nothing else. -/
def findInEntries (options : SanitizeOptions) (path : Text) :
    List (Text × Unknown) → Option IllegalJsonFinding
  | [] => none
  | (key, value) :: rest =>
      match findIllegalJsonChars options (propertyPath path key) value with
      | some finding => some finding
      | none => findInEntries options path rest

end

/-! ### sanitizeJsonForJSONB -/

/-- A replacement text of `String.replace` for one unit: `$$`, `$&` and the text on each side. -/
def expandReplacement (before : Text) (unit : Nat) (after : Text) : Text → Text
  | [] => []
  | [last] => [last]
  | first :: second :: rest =>
      if first = '$'.toNat ∧ second = '$'.toNat then
        '$'.toNat :: expandReplacement before unit after rest
      else if first = '$'.toNat ∧ second = '&'.toNat then
        unit :: expandReplacement before unit after rest
      else if first = '$'.toNat ∧ second = 0x60 then
        before ++ expandReplacement before unit after rest
      else if first = '$'.toNat ∧ second = 0x27 then
        after ++ expandReplacement before unit after rest
      else first :: expandReplacement before unit after (second :: rest)

/-- `replace(/\u0000/g, nulReplacement)`, after the text before. -/
def replaceNul (nulReplacement before : Text) : Text → Text
  | [] => []
  | unit :: rest =>
      (if unit = 0 then expandReplacement before unit rest nulReplacement else [unit]) ++
        replaceNul nulReplacement (before ++ [unit]) rest

def escapeControl (unit : Nat) : Text :=
  if isControlChar unit then Text.ofLiteral "\\u" ++ hexOfUnit unit else [unit]

def stripControl (unit : Nat) : Text := if isControlChar unit then [] else [unit]

def sanitizeStringForPg (options : SanitizeOptions) (text : Text) : Except Text Text := do
  let replaced ←
    if hasNul text then
      match options.nulReplacement with
      | none => throw (Text.ofLiteral "NUL character not allowed in jsonb strings")
      | some nulReplacement => pure (replaceNul nulReplacement [] text)
    else pure text
  match options.controlCharMode with
  | .keep => pure replaced
  | .strip => pure (replaced.flatMap stripControl)
  | .escape => pure (replaced.flatMap escapeControl)

def prototypeKey : Text := Text.ofLiteral "__proto__"

/-- `out[key] = value`. -/
def setProperty (out : Entries) (key : Text) (value : Unknown) : Entries :=
  if key = prototypeKey then out
  else if key ∈ out.map Prod.fst then OrderedMap.replaced out key value
  else out ++ [(key, value)]

mutual

/-- A value of JSON: finite numbers, arrays and plain objects with no key twice. -/
def isJson : Unknown → Bool
  | .null => true
  | .boolean _ => true
  | .number value => value.isFinite
  | .string _ => true
  | .unsupported _ => false
  | .array items => areJson items
  | .object brand entries =>
      decide (brand = .plain) && decide (entries.map Prod.fst).Nodup && haveJson entries

def areJson : List Unknown → Bool
  | [] => true
  | item :: rest => isJson item && areJson rest

def haveJson : List (Text × Unknown) → Bool
  | [] => true
  | (_, value) :: rest => isJson value && haveJson rest

end

/-- `jsonSerializableValueSchema.safeParse`: every value of JSON is one of the union. -/
structure JsonSerializableValueSchema where
  accepts : Unknown → Bool
  acceptsJson : ∀ {value : Unknown}, isJson value = true → accepts value = true

mutual

def sanitizeJsonForJSONB (schema : JsonSerializableValueSchema) (options : SanitizeOptions)
    (path : Text) (value : Unknown) : Except Text Unknown :=
  if schema.accepts value then
    match value with
    | .null => .ok .null
    | .string text => (sanitizeStringForPg options text).map .string
    | .number number =>
        if number.isFinite then .ok (.number number)
        else .error (Text.ofLiteral "Non-finite number not allowed at " ++ path)
    | .boolean boolean => .ok (.boolean boolean)
    | .unsupported type =>
        .error (Text.ofLiteral "Unsupported type \"" ++ type.name ++
          Text.ofLiteral "\" at " ++ path)
    | .array items => (sanitizeItems schema options path 0 items).map .array
    | .object brand entries =>
        if brand = .date then .ok (.object brand entries)
        else if options.disallowBinary = true ∧ brand = .binary then
          .error (Text.ofLiteral "Binary value not allowed at " ++ path)
        else (sanitizeEntries schema options path [] entries).map (.object .plain)
  else .error (Text.ofLiteral "Invalid JSON value at " ++ path)

def sanitizeItems (schema : JsonSerializableValueSchema) (options : SanitizeOptions)
    (path : Text) (index : Nat) : List Unknown → Except Text (List Unknown)
  | [] => .ok []
  | item :: rest => do
      let cleaned ← sanitizeJsonForJSONB schema options (itemPath path index) item
      let others ← sanitizeItems schema options path (index + 1) rest
      .ok (cleaned :: others)

def sanitizeEntries (schema : JsonSerializableValueSchema) (options : SanitizeOptions)
    (path : Text) (out : Entries) : List (Text × Unknown) → Except Text Entries
  | [] => .ok out
  | (key, value) :: rest => do
      let cleaned ← sanitizeJsonForJSONB schema options (propertyPath path key) value
      sanitizeEntries schema options path (setProperty out key cleaned) rest

end

end Lombok.Orm
