import Mathlib.Algebra.Ring.Nat
import Lombok.Core.ObjectSpread

/-!
Contract: values of the language, where they are turned into text and JSON.

Owns the numerals of JSON texts and the numbers they stand for, `String(value)`,
`JSON.stringify`, `JSON.parse`, and the schemas of JSON data. A finite number is
named by the numeral it is printed as. An array, a plain object and any other
object carry the text their own `toString` gives, where it gives one.

Properties are data properties. An object with a `toJSON` of its own is none of
the plain ones. Does not own cycles: a value is a finite tree.
-/

namespace Lombok.Core

/-! ### Numerals -/

/-- An optional exponent up to the end of a numeral. -/
def isExponent : List Char → Bool
  | [] => true
  | marker :: '+' :: digits =>
      (marker == 'e' || marker == 'E') && !digits.isEmpty && digits.all Char.isDigit
  | marker :: '-' :: digits =>
      (marker == 'e' || marker == 'E') && !digits.isEmpty && digits.all Char.isDigit
  | marker :: digits =>
      (marker == 'e' || marker == 'E') && !digits.isEmpty && digits.all Char.isDigit

def isFraction : List Char → Bool
  | '.' :: rest =>
      !(rest.takeWhile Char.isDigit).isEmpty && isExponent (rest.dropWhile Char.isDigit)
  | text => isExponent text

def isUnsignedNumeral (text : List Char) : Bool :=
  let whole := text.takeWhile Char.isDigit
  !whole.isEmpty && (whole == ['0'] || whole.head? != some '0') &&
    isFraction (text.dropWhile Char.isDigit)

/-- The numbers of the JSON grammar. -/
def isNumeral (literal : String) : Bool :=
  match literal.toList with
  | '-' :: rest => isUnsignedNumeral rest
  | text => isUnsignedNumeral text

/-- A number as an integer and a power of ten. -/
structure Decimal where
  mantissa : Int
  exponent : Int
deriving DecidableEq

namespace Decimal

def isBelow (decimal : Decimal) (bound : Nat) : Bool :=
  if 0 ≤ decimal.exponent then
    decide (decimal.mantissa.natAbs * 10 ^ decimal.exponent.toNat < bound)
  else decide (decimal.mantissa.natAbs < bound * 10 ^ (-decimal.exponent).toNat)

def isNegative (decimal : Decimal) : Bool := decide (decimal.mantissa < 0)

def isIntegral (decimal : Decimal) : Bool :=
  decide (0 ≤ decimal.exponent) ||
    decide (decimal.mantissa.natAbs % 10 ^ (-decimal.exponent).toNat = 0)

/-- It is not rounded to an infinite number. -/
def isFinite (decimal : Decimal) : Bool := decimal.isBelow (2 ^ 1024 - 2 ^ 970)

end Decimal

def digitsValue (digits : List Char) : Nat :=
  digits.foldl (fun value digit => value * 10 + (digit.toNat - 48)) 0

def exponentValue : List Char → Int
  | [] => 0
  | _ :: '+' :: digits => digitsValue digits
  | _ :: '-' :: digits => -digitsValue digits
  | _ :: digits => digitsValue digits

def decimalOfUnsigned (text : List Char) : Decimal :=
  let whole := text.takeWhile Char.isDigit
  match text.dropWhile Char.isDigit with
  | '.' :: rest =>
      let fraction := rest.takeWhile Char.isDigit
      ⟨digitsValue (whole ++ fraction),
        exponentValue (rest.dropWhile Char.isDigit) - fraction.length⟩
  | exponent => ⟨digitsValue whole, exponentValue exponent⟩

/-- The number that a numeral is written for. -/
def decimalOf (literal : String) : Decimal :=
  match literal.toList with
  | '-' :: rest => { decimalOfUnsigned rest with mantissa := -(decimalOfUnsigned rest).mantissa }
  | text => decimalOfUnsigned text

def isFiniteNumeral (literal : String) : Bool :=
  isNumeral literal && (decimalOf literal).isFinite

/-! ### JSON -/

namespace Json

mutual

def allNumerals (ok : String → Bool) : Json → Bool
  | .num literal => ok literal
  | .arr items => allItems ok items
  | .obj fields => allFields ok fields
  | _ => true

def allItems (ok : String → Bool) : List Json → Bool
  | [] => true
  | item :: rest => allNumerals ok item && allItems ok rest

def allFields (ok : String → Bool) : List (String × Json) → Bool
  | [] => true
  | (_, value) :: rest => allNumerals ok value && allFields ok rest

end

/-- Every number is a finite one, as in what `JSON.stringify` prints. -/
def isProper (value : Json) : Bool := value.allNumerals isFiniteNumeral

/-- `JSON.parse`: the numbers have to be numerals, and a large one is infinite. -/
def parseText (text : String) : Option Json := (parse text).filter (allNumerals isNumeral)

end Json

/-- JSON data of the program. -/
structure JsonData where
  value : Json
  proper : value.isProper = true

/-! ### Values -/

/-- A finite number, by the text it is printed as. -/
structure Numeral where
  literal : String
  finite : isFiniteNumeral literal = true

inductive JsNumber where
  | nan
  | infinite (negative : Bool)
  | finite (numeral : Numeral)

namespace JsNumber

def text : JsNumber → String
  | .nan => "NaN"
  | .infinite false => "Infinity"
  | .infinite true => "-Infinity"
  | .finite numeral => numeral.literal

def isFalsy : JsNumber → Bool
  | .nan => true
  | .infinite _ => false
  | .finite numeral => (decimalOf numeral.literal).mantissa == 0

def isNegative : JsNumber → Bool
  | .nan => false
  | .infinite negative => negative
  | .finite numeral => (decimalOf numeral.literal).isNegative

/-- `Math.floor(value) === value`. -/
def isIntegral : JsNumber → Bool
  | .nan => false
  | .infinite _ => true
  | .finite numeral => (decimalOf numeral.literal).isIntegral

/-- `z.number().int().min(0)`: integers are the safe ones. -/
def isRequeue : JsNumber → Bool
  | .finite numeral =>
      let decimal := decimalOf numeral.literal
      decimal.isIntegral && decimal.isBelow (2 ^ 53) && !decimal.isNegative
  | _ => false

end JsNumber

/-- What the language asks of an object that is not a plain one: its text, whether it has
properties of its own, and what `JSON.stringify` makes of it (nothing, data, or an exception). -/
structure ObjectTraits where
  text : Option String
  hasKeys : Bool
  json : Option (Option JsonData)

inductive JsValue where
  | undefined
  | null
  | boolean (value : Bool)
  | number (value : JsNumber)
  | bigint (value : Int)
  | string (value : String)
  | symbol (text : String)
  | array (items : List JsValue) (text : Option String)
  | record (fields : List (String × JsValue)) (text : Option String)
  | other (traits : ObjectTraits)

/-- An exception of the language itself. -/
inductive JsFailure where
  | typeError
  | syntaxError
deriving DecidableEq

def textOr (text : Option String) : Except JsFailure String :=
  match text with
  | some text => .ok text
  | none => .error .typeError

namespace JsValue

/-- `String(value)`. -/
def toText : JsValue → Except JsFailure String
  | .undefined => .ok "undefined"
  | .null => .ok "null"
  | .boolean true => .ok "true"
  | .boolean false => .ok "false"
  | .number value => .ok value.text
  | .bigint value => .ok (toString value)
  | .string value => .ok value
  | .symbol text => .ok text
  | .array _ text => textOr text
  | .record _ text => textOr text
  | .other traits => textOr traits.text

def messageText : JsValue → Except JsFailure String
  | .undefined => .ok ""
  | .symbol _ => .error .typeError
  | value => value.toText

def isFalsy : JsValue → Bool
  | .undefined => true
  | .null => true
  | .boolean value => !value
  | .number value => value.isFalsy
  | .bigint value => value == 0
  | .string value => value == ""
  | _ => false

/-- `Object.keys(value).length > 0`, which throws for `undefined` and `null`. -/
def hasKeys : JsValue → Except JsFailure Bool
  | .undefined => .error .typeError
  | .null => .error .typeError
  | .string value => .ok (value != "")
  | .array items _ => .ok !items.isEmpty
  | .record fields _ => .ok !fields.isEmpty
  | .other traits => .ok traits.hasKeys
  | _ => .ok false

mutual

/-- `JSON.stringify` before printing: nothing where it gives `undefined`. -/
def toJson : JsValue → Except JsFailure (Option Json)
  | .undefined => .ok none
  | .symbol _ => .ok none
  | .null => .ok (some .null)
  | .boolean value => .ok (some (.bool value))
  | .number (.finite numeral) => .ok (some (.num numeral.literal))
  | .number _ => .ok (some .null)
  | .string value => .ok (some (.str value))
  | .bigint _ => .error .typeError
  | .array items _ => do .ok (some (.arr (← toJsonItems items)))
  | .record fields _ => do .ok (some (.obj (← toJsonFields fields)))
  | .other traits =>
      match traits.json with
      | none => .error .typeError
      | some data => .ok (data.map JsonData.value)

def toJsonItems : List JsValue → Except JsFailure (List Json)
  | [] => .ok []
  | item :: rest => do
      let json ← toJson item
      let others ← toJsonItems rest
      .ok (json.getD .null :: others)

def toJsonFields : List (String × JsValue) → Except JsFailure (List (String × Json))
  | [] => .ok []
  | (name, value) :: rest => do
      let json ← toJson value
      let others ← toJsonFields rest
      match json with
      | none => .ok others
      | some json => .ok ((name, json) :: others)

end

mutual

/-- `jsonSerializableValueSchema`. -/
def isSerializable : JsValue → Bool
  | .null => true
  | .boolean _ => true
  | .string _ => true
  | .number (.finite _) => true
  | .array items _ => areSerializable items
  | .record fields _ => haveSerializable fields
  | _ => false

def areSerializable : List JsValue → Bool
  | [] => true
  | item :: rest => isSerializable item && areSerializable rest

def haveSerializable : List (String × JsValue) → Bool
  | [] => true
  | (_, value) :: rest => isSerializable value && haveSerializable rest

end

/-- `jsonSerializableObjectSchema`. -/
def isSerializableObject : JsValue → Bool
  | .record fields _ => haveSerializable fields
  | _ => false

def isUndefined : JsValue → Bool
  | .undefined => true
  | _ => false

/-- `jsonSerializableObjectWithUndefinedSchema`. -/
def isSerializableWithUndefined : JsValue → Bool
  | .record fields _ => fields.all fun field => field.2.isUndefined || field.2.isSerializable
  | _ => false

end JsValue

/-! ### Numerals are plain -/

theorem isExponent_plain {text : List Char} (exponent : isExponent text = true) :
    text.all Json.isNumeralChar = true := by
  unfold isExponent at exponent
  split at exponent
  · rfl
  all_goals
    rw [Bool.and_eq_true, Bool.and_eq_true] at exponent
    obtain ⟨⟨marked, _⟩, digits⟩ := exponent
    have plain := Json.all_digits_plain digits
    rcases Bool.or_eq_true_iff.mp marked with lower | upper
    · simp only [List.all_cons, plain, beq_iff_eq.mp lower]
      decide
    · simp only [List.all_cons, plain, beq_iff_eq.mp upper]
      decide

theorem isFraction_plain {text : List Char} (fraction : isFraction text = true) :
    text.all Json.isNumeralChar = true := by
  unfold isFraction at fraction
  split at fraction
  · rw [Bool.and_eq_true] at fraction
    rw [List.all_cons, Json.all_plain_of_rest (isExponent_plain fraction.2)]
    decide
  · exact isExponent_plain fraction

theorem isUnsignedNumeral_plain {text : List Char} (numeral : isUnsignedNumeral text = true) :
    text.isEmpty = false ∧ text.all Json.isNumeralChar = true := by
  rw [isUnsignedNumeral, Bool.and_eq_true, Bool.and_eq_true] at numeral
  obtain ⟨⟨notEmpty, _⟩, fraction⟩ := numeral
  constructor
  · cases text with
    | nil => cases notEmpty
    | cons first rest => rfl
  · exact Json.all_plain_of_rest (isFraction_plain fraction)

/-- A numeral is a number that can be read back from its text. -/
theorem isPlain_of_isNumeral {literal : String} (numeral : isNumeral literal = true) :
    (Json.num literal).isPlain = true := by
  unfold isNumeral at numeral
  rw [Json.isPlain]
  split at numeral
  · rename_i rest isSigned
    rw [isSigned, List.all_cons, (isUnsignedNumeral_plain numeral).2, List.isEmpty_cons]
    decide
  · simp [isUnsignedNumeral_plain, numeral]

/-! ### Proper data -/

namespace Json

section Mono

variable {first second : String → Bool}

mutual

theorem allNumerals_mono (implies : ∀ literal, first literal = true → second literal = true) :
    ∀ value : Json, value.allNumerals first = true → value.allNumerals second = true
  | .null, _ => rfl
  | .bool _, _ => rfl
  | .str _, _ => rfl
  | .num literal, numeral => implies literal numeral
  | .arr items, numerals => allItems_mono implies items numerals
  | .obj fields, numerals => allFields_mono implies fields numerals

theorem allItems_mono (implies : ∀ literal, first literal = true → second literal = true) :
    ∀ items : List Json, allItems first items = true → allItems second items = true
  | [], _ => rfl
  | item :: rest, numerals => by
      rw [allItems, Bool.and_eq_true] at numerals ⊢
      exact ⟨allNumerals_mono implies item numerals.1, allItems_mono implies rest numerals.2⟩

theorem allFields_mono (implies : ∀ literal, first literal = true → second literal = true) :
    ∀ fields : List (String × Json), allFields first fields = true →
      allFields second fields = true
  | [], _ => rfl
  | (_, value) :: rest, numerals => by
      rw [allFields, Bool.and_eq_true] at numerals ⊢
      exact ⟨allNumerals_mono implies value numerals.1, allFields_mono implies rest numerals.2⟩

end

end Mono

mutual

theorem isPlain_of_numerals : ∀ value : Json, value.allNumerals isNumeral = true →
    value.isPlain = true
  | .null, _ => rfl
  | .bool _, _ => rfl
  | .str _, _ => rfl
  | .num _, numeral => isPlain_of_isNumeral numeral
  | .arr items, numerals => isPlainItems_of_numerals items numerals
  | .obj fields, numerals => isPlainFields_of_numerals fields numerals

theorem isPlainItems_of_numerals : ∀ items : List Json, allItems isNumeral items = true →
    isPlainItems items = true
  | [], _ => rfl
  | item :: rest, numerals => by
      rw [allItems, Bool.and_eq_true] at numerals
      rw [isPlainItems, isPlain_of_numerals item numerals.1,
        isPlainItems_of_numerals rest numerals.2]
      rfl

theorem isPlainFields_of_numerals : ∀ fields : List (String × Json),
    allFields isNumeral fields = true → isPlainFields fields = true
  | [], _ => rfl
  | (_, value) :: rest, numerals => by
      rw [allFields, Bool.and_eq_true] at numerals
      rw [isPlainFields, isPlain_of_numerals value numerals.1,
        isPlainFields_of_numerals rest numerals.2]
      rfl

end

/-- What `JSON.stringify` prints is read back. -/
theorem parseText_stringify {value : Json} (proper : value.isProper = true) :
    parseText (stringify value) = some value := by
  have numerals : value.allNumerals isNumeral = true := by
    apply allNumerals_mono _ value proper
    intro _ finite
    exact (Bool.and_eq_true_iff.mp finite).1
  rw [parseText, parse_stringify (isPlain_of_numerals value numerals), Option.filter_some, numerals]
  rfl

end Json

namespace JsValue

mutual

/-- What `JSON.stringify` gives is proper. -/
theorem proper_toJson : ∀ (value : JsValue) (json : Json), value.toJson = .ok (some json) →
    json.isProper = true
  | .null, _, made => by
      cases made
      rfl
  | .boolean _, _, made => by
      cases made
      rfl
  | .string _, _, made => by
      cases made
      rfl
  | .number (.finite numeral), _, made => by
      cases made
      exact numeral.finite
  | .number .nan, _, made => by
      cases made
      rfl
  | .number (.infinite _), _, made => by
      cases made
      rfl
  | .array items _, json, made => by
      rw [toJson] at made
      cases given : toJsonItems items with
      | error failure =>
          rw [given] at made
          cases made
      | ok jsons =>
          rw [given] at made
          cases made
          exact proper_toJsonItems items jsons given
  | .record fields _, json, made => by
      rw [toJson] at made
      cases given : toJsonFields fields with
      | error failure =>
          rw [given] at made
          cases made
      | ok jsons =>
          rw [given] at made
          cases made
          exact proper_toJsonFields fields jsons given
  | .other traits, json, made => by
      rw [toJson] at made
      split at made
      · cases made
      · rename_i data isData
        cases data with
        | none => cases made
        | some data =>
            cases made
            exact data.proper

theorem proper_toJsonItems : ∀ (items : List JsValue) (jsons : List Json),
    toJsonItems items = .ok jsons → Json.allItems isFiniteNumeral jsons = true
  | [], _, made => by
      cases made
      rfl
  | item :: rest, jsons, made => by
      rw [toJsonItems] at made
      cases first : toJson item with
      | error failure =>
          rw [first] at made
          cases made
      | ok json =>
          cases later : toJsonItems rest with
          | error failure =>
              rw [first, later] at made
              cases made
          | ok others =>
              rw [first, later] at made
              cases made
              rw [Json.allItems, proper_toJsonItems rest others later, Bool.and_true]
              cases json with
              | none => rfl
              | some json => exact proper_toJson item json first

theorem proper_toJsonFields : ∀ (fields : List (String × JsValue)) (jsons : List (String × Json)),
    toJsonFields fields = .ok jsons → Json.allFields isFiniteNumeral jsons = true
  | [], _, made => by
      cases made
      rfl
  | (name, value) :: rest, jsons, made => by
      rw [toJsonFields] at made
      cases first : toJson value with
      | error failure =>
          rw [first] at made
          cases made
      | ok json =>
          cases later : toJsonFields rest with
          | error failure =>
              rw [first, later] at made
              cases made
          | ok others =>
              rw [first, later] at made
              have proper := proper_toJsonFields rest others later
              cases json with
              | none =>
                  cases made
                  exact proper
              | some json =>
                  cases made
                  rw [Json.allFields, proper, Bool.and_true]
                  exact proper_toJson value json first

end

mutual

/-- Data that the schema accepts can be printed. -/
theorem toJson_of_serializable : ∀ value : JsValue, value.isSerializable = true →
    ∃ json, value.toJson = .ok (some json)
  | .null, _ => ⟨_, rfl⟩
  | .boolean _, _ => ⟨_, rfl⟩
  | .string _, _ => ⟨_, rfl⟩
  | .number (.finite _), _ => ⟨_, rfl⟩
  | .array items _, serializable => by
      obtain ⟨jsons, given⟩ := toJsonItems_of_serializable items serializable
      rw [toJson, given]
      exact ⟨_, rfl⟩
  | .record fields _, serializable => by
      obtain ⟨jsons, given⟩ := toJsonFields_of_serializable fields serializable
      rw [toJson, given]
      exact ⟨_, rfl⟩

theorem toJsonItems_of_serializable : ∀ items : List JsValue, areSerializable items = true →
    ∃ jsons, toJsonItems items = .ok jsons
  | [], _ => ⟨_, rfl⟩
  | item :: rest, serializable => by
      rw [areSerializable, Bool.and_eq_true] at serializable
      obtain ⟨json, first⟩ := toJson_of_serializable item serializable.1
      obtain ⟨others, later⟩ := toJsonItems_of_serializable rest serializable.2
      rw [toJsonItems, first, later]
      exact ⟨_, rfl⟩

theorem toJsonFields_of_serializable : ∀ fields : List (String × JsValue),
    haveSerializable fields = true → ∃ jsons, toJsonFields fields = .ok jsons
  | [], _ => ⟨_, rfl⟩
  | (name, value) :: rest, serializable => by
      rw [haveSerializable, Bool.and_eq_true] at serializable
      obtain ⟨json, first⟩ := toJson_of_serializable value serializable.1
      obtain ⟨others, later⟩ := toJsonFields_of_serializable rest serializable.2
      rw [toJsonFields, first, later]
      exact ⟨_, rfl⟩

end

/-- Entries that are data or undefined can be printed. -/
theorem toJsonFields_of_undefined {fields : List (String × JsValue)}
    (all : (fields.all fun field => field.2.isUndefined || field.2.isSerializable) = true) :
    ∃ jsons, toJsonFields fields = .ok jsons := by
  induction fields with
  | nil => exact ⟨_, rfl⟩
  | cons field rest inductionHypothesis =>
      obtain ⟨name, value⟩ := field
      rw [List.all_cons, Bool.and_eq_true] at all
      obtain ⟨others, later⟩ := inductionHypothesis all.2
      rw [toJsonFields, later]
      rcases Bool.or_eq_true_iff.mp all.1 with absent | serializable
      · cases value with
        | undefined => exact ⟨_, rfl⟩
        | _ => cases absent
      · obtain ⟨json, first⟩ := toJson_of_serializable value serializable
        rw [first]
        exact ⟨_, rfl⟩

end JsValue

end Lombok.Core
