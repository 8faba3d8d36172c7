import Mathlib.Data.List.Basic

/-!
Contract: the JavaScript values the platform computes with.

Owns JSON values and their `JSON.stringify` text, dates and their ISO text, and
the errors a service call can throw. An object is the list of its own
properties in creation order; `undefined` properties are absent, as they are
after serialization.

Numbers keep the text `JSON.stringify` prints for them: no modelled function
computes with a number it read out of a JSON document.
-/

namespace Lombok.Core

/-! ## JSON -/

inductive Json where
  | null
  | bool (value : Bool)
  | num (literal : String)
  | str (value : String)
  | arr (items : List Json)
  | obj (fields : List (String × Json))
deriving Inhabited

/-- The own properties of an object, in order. -/
abbrev Fields := List (String × Json)

namespace Fields

/-- The value of a property, `none` where JavaScript reads `undefined`. -/
def get? (fields : Fields) (name : String) : Option Json :=
  (fields.find? fun field => field.1 == name).map Prod.snd

/-- Assign a property: replace it in place, or add it at the end. -/
def set (fields : Fields) (name : String) (value : Json) : Fields :=
  match fields with
  | [] => [(name, value)]
  | field :: rest =>
      if field.1 == name then (name, value) :: rest else field :: set rest name value

/-- `{...fields, ...overrides}`: later properties win. -/
def spread (fields overrides : Fields) : Fields :=
  overrides.foldl (fun merged field => merged.set field.1 field.2) fields

/-- An object literal whose `undefined` properties are dropped. -/
def ofOptions (entries : List (String × Option Json)) : Fields :=
  entries.filterMap fun entry => entry.2.map fun value => (entry.1, value)

@[simp] theorem get?_nil (name : String) : get? [] name = none := rfl

theorem get?_cons (field : String × Json) (rest : Fields) (name : String) :
    get? (field :: rest) name = if field.1 == name then some field.2 else get? rest name := by
  rw [get?, List.find?_cons]
  cases field.1 == name <;> rfl

theorem get?_set_same (fields : Fields) (name : String) (value : Json) :
    (fields.set name value).get? name = some value := by
  induction fields with
  | nil => simp [set, get?_cons]
  | cons field rest inductionHypothesis =>
      unfold set
      by_cases same : field.1 == name
      · simp [same, get?_cons]
      · simp [same, get?_cons, inductionHypothesis]

/-- An assignment changes nothing exactly when the property has the value already. -/
theorem set_eq_self_iff (fields : Fields) (name : String) (value : Json) :
    fields.set name value = fields ↔ fields.get? name = some value := by
  constructor
  · intro same
    rw [← same]
    exact get?_set_same fields name value
  · intro there
    induction fields with
    | nil => cases there
    | cons field rest inductionHypothesis =>
        rw [get?_cons] at there
        rw [set]
        by_cases same : (field.1 == name) = true
        · rw [if_pos same] at there ⊢
          rw [← eq_of_beq same, ← Option.some.inj there]
        · grind

theorem get?_set_other (fields : Fields) {name other : String} (value : Json)
    (different : other ≠ name) : (fields.set name value).get? other = fields.get? other := by
  induction fields with
  | nil => simp [set, get?_cons, Ne.symm different]
  | cons field rest inductionHypothesis =>
      unfold set
      by_cases same : field.1 == name
      · have fieldName : field.1 = name := by simpa using same
        simp [fieldName, get?_cons, Ne.symm different]
      · simp only [same, Bool.false_eq_true, ↓reduceIte, get?_cons, inductionHypothesis]

/-- A property that the overrides do not have keeps its value. -/
theorem get?_spread_of_absent (fields overrides : Fields) {name : String}
    (absent : overrides.get? name = none) :
    (fields.spread overrides).get? name = fields.get? name := by
  unfold spread
  induction overrides generalizing fields with
  | nil => rfl
  | cons field rest inductionHypothesis =>
      rw [get?_cons] at absent
      split at absent
      · cases absent
      · rename_i other
        have different : name ≠ field.1 := by
          intro equal
          exact other (by simp [equal])
        rw [List.foldl_cons, inductionHypothesis (fields.set field.1 field.2) absent,
          get?_set_other fields field.2 different]

end Fields

namespace Json

/-- A property of an object, `none` for any other value. -/
def get? : Json → String → Option Json
  | .obj fields, name => Fields.get? fields name
  | _, _ => none

def ofInt (value : Int) : Json := .num (toString value)

def ofNat (value : Nat) : Json := .num (toString value)

def ofOption : Option Json → Json
  | some value => value
  | none => .null

def hexDigit (value : Nat) : Char :=
  if value < 10 then Char.ofNat (48 + value) else Char.ofNat (87 + value)

/-- The escape sequence of a character inside a JSON string. -/
def escapeChar (character : Char) : List Char :=
  if character = '"' then ['\\', '"']
  else if character = '\\' then ['\\', '\\']
  else if character = '\n' then ['\\', 'n']
  else if character = '\r' then ['\\', 'r']
  else if character = '\t' then ['\\', 't']
  else if character = Char.ofNat 8 then ['\\', 'b']
  else if character = Char.ofNat 12 then ['\\', 'f']
  else if character.toNat < 32 then
    ['\\', 'u', '0', '0', hexDigit (character.toNat / 16), hexDigit (character.toNat % 16)]
  else [character]

def quote (text : String) : List Char :=
  '"' :: (text.toList.flatMap escapeChar ++ ['"'])

mutual

/-- The characters `JSON.stringify` prints. -/
def render : Json → List Char
  | .null => "null".toList
  | .bool true => "true".toList
  | .bool false => "false".toList
  | .num literal => literal.toList
  | .str value => quote value
  | .arr items => '[' :: (renderItems items ++ [']'])
  | .obj fields => '{' :: (renderFields fields ++ ['}'])

def renderItems : List Json → List Char
  | [] => []
  | [item] => render item
  | item :: next :: rest => render item ++ ',' :: renderItems (next :: rest)

def renderFields : List (String × Json) → List Char
  | [] => []
  | [(name, value)] => quote name ++ ':' :: render value
  | (name, value) :: next :: rest =>
      quote name ++ ':' :: (render value ++ ',' :: renderFields (next :: rest))

end

/-- `JSON.stringify`. -/
def stringify (value : Json) : String := String.ofList (render value)

end Json

/-! ## Errors -/

/-- What a service call throws. `rangeError` is the built-in one of `Date`. -/
inductive ApiError where
  | notFound (message : String)
  | conflict (message : String)
  | unauthorized (message : String)
  | forbidden (message : String)
  | badRequest (message : String)
  | internal (message : String)
  | error (message : String)
  | rangeError
  | uniqueViolation (constraint : String)
  | serviceError (name : String)
  | unanswered
deriving DecidableEq, Inhabited

/-! ## Dates -/

/-- A `Date` is its time value, in milliseconds since the epoch. -/
abbrev Date := Int

namespace Date

/-- The largest time value a `Date` can hold, on either side of the epoch. -/
def maxTime : Int := 8640000000000000

/-- `addMs` of `@lombokapp/utils`; the result may be an invalid date. -/
def addMs (date : Date) (ms : Int) : Date := date + ms

def daysPerEra : Int := 146097

def civilOfDays (days : Int) : Int × Int × Int :=
  let shifted := days + 719468
  let era := shifted / daysPerEra
  let dayOfEra := shifted - era * daysPerEra
  let yearOfEra :=
    (dayOfEra - dayOfEra / 1460 + dayOfEra / 36524 - dayOfEra / 146096) / 365
  let dayOfYear := dayOfEra - (365 * yearOfEra + yearOfEra / 4 - yearOfEra / 100)
  let shiftedMonth := (5 * dayOfYear + 2) / 153
  let day := dayOfYear - (153 * shiftedMonth + 2) / 5 + 1
  let month := if shiftedMonth < 10 then shiftedMonth + 3 else shiftedMonth - 9
  let year := yearOfEra + era * 400 + (if month ≤ 2 then 1 else 0)
  (year, month, day)

def digit (value : Nat) : Char := Char.ofNat (48 + value % 10)

/-- The last `width` decimal digits of a number. -/
def digits : Nat → Nat → List Char
  | 0, _ => []
  | width + 1, value => digits width (value / 10) ++ [digit value]

/-- Years outside 0 to 9999 print with a sign and six digits. -/
def yearText (year : Int) : List Char :=
  if 0 ≤ year ∧ year ≤ 9999 then digits 4 year.toNat
  else if 0 ≤ year then '+' :: digits 6 year.toNat
  else '-' :: digits 6 (-year).toNat

/-- `Date.prototype.toISOString`, which throws on an invalid date. -/
def toISOString (date : Date) : Except ApiError String :=
  if date < -maxTime ∨ maxTime < date then
    .error .rangeError
  else
    let days := date / 86400000
    let time := (date % 86400000).toNat
    let civil := civilOfDays days
    .ok (String.ofList
      (yearText civil.1 ++ '-' :: digits 2 civil.2.1.toNat ++ '-' :: digits 2 civil.2.2.toNat ++
        'T' :: digits 2 (time / 3600000) ++ ':' :: digits 2 (time / 60000 % 60) ++
        ':' :: digits 2 (time / 1000 % 60) ++ '.' :: digits 3 (time % 1000) ++ ['Z']))

def daysOfCivil (year month day : Int) : Int :=
  let shiftedYear := if month ≤ 2 then year - 1 else year
  let era := shiftedYear / 400
  let yearOfEra := shiftedYear - era * 400
  let shiftedMonth := if month > 2 then month - 3 else month + 9
  let dayOfYear := (153 * shiftedMonth + 2) / 5 + day - 1
  let dayOfEra := yearOfEra * 365 + yearOfEra / 4 - yearOfEra / 100 + dayOfYear
  era * daysPerEra + dayOfEra - 719468

def ofDigits (characters : List Char) : Int :=
  characters.foldl (fun value character => value * 10 + (character.toNat - 48 : Int)) 0

/-- The time value of an ISO text split into its year and the rest. -/
def ofParts (year : Int) : List Char → Option Date
  | ['-', m1, m2, '-', d1, d2, 'T', h1, h2, ':', n1, n2, ':', s1, s2, '.', f1, f2, f3, 'Z'] =>
      let days := daysOfCivil year (ofDigits [m1, m2]) (ofDigits [d1, d2])
      some (days * 86400000 + ofDigits [h1, h2] * 3600000 + ofDigits [n1, n2] * 60000 +
        ofDigits [s1, s2] * 1000 + ofDigits [f1, f2, f3])
  | _ => none

/-- `new Date(text)` for the texts `toISOString` prints. -/
def parse (text : String) : Option Date :=
  match text.toList with
  | '+' :: y1 :: y2 :: y3 :: y4 :: y5 :: y6 :: rest =>
      ofParts (ofDigits [y1, y2, y3, y4, y5, y6]) rest
  | '-' :: y1 :: y2 :: y3 :: y4 :: y5 :: y6 :: rest =>
      ofParts (-ofDigits [y1, y2, y3, y4, y5, y6]) rest
  | y1 :: y2 :: y3 :: y4 :: rest => ofParts (ofDigits [y1, y2, y3, y4]) rest
  | _ => none

example : toISOString 1766654078765 = .ok "2025-12-25T09:14:38.765Z" := by decide

example : parse "2025-12-25T09:14:38.765Z" = some 1766654078765 := by decide

end Date

end Lombok.Core
