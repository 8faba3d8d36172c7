import Lombok.Orm.JsonSanitize

/-!
Contract: what the sanitiser makes of the values of JSON, and what a column accepts.

Owns the values a column can hold, the shape of a value, and the exact values for which
the sanitiser does all it is for. The walk with paths and errors is compared with a map
over the tree, `sanitized`, and the checker with a test of every string.

Keys are copied as they are and never looked at, so a key that a column refuses stays in
the result, unseen by the checker. The same holds of surrogates without a pair, in
strings and in keys. The entry of the key that names the prototype is lost.
-/

namespace Lombok.Orm

open Lombok.Library

/-! ### Trees -/

mutual

/-- Induction over the tree, one case for each kind of value. -/
theorem Unknown.induction {property : Unknown → Prop} (null : property .null)
    (boolean : ∀ value, property (.boolean value)) (number : ∀ value, property (.number value))
    (string : ∀ text, property (.string text))
    (unsupported : ∀ type, property (.unsupported type))
    (array : ∀ items, (∀ item ∈ items, property item) → property (.array items))
    (object : ∀ brand entries, (∀ entry ∈ entries, property entry.2) →
      property (.object brand entries)) : ∀ value, property value
  | .null => null
  | .boolean value => boolean value
  | .number value => number value
  | .string text => string text
  | .unsupported type => unsupported type
  | .array items =>
      array items (Unknown.inductionItems null boolean number string unsupported array object items)
  | .object brand entries =>
      object brand entries
        (Unknown.inductionEntries null boolean number string unsupported array object entries)

theorem Unknown.inductionItems {property : Unknown → Prop} (null : property .null)
    (boolean : ∀ value, property (.boolean value)) (number : ∀ value, property (.number value))
    (string : ∀ text, property (.string text))
    (unsupported : ∀ type, property (.unsupported type))
    (array : ∀ items, (∀ item ∈ items, property item) → property (.array items))
    (object : ∀ brand entries, (∀ entry ∈ entries, property entry.2) →
      property (.object brand entries)) :
    ∀ items : List Unknown, ∀ item ∈ items, property item
  | [] => fun _ member => absurd member List.not_mem_nil
  | head :: rest => List.forall_mem_cons.mpr
      ⟨Unknown.induction null boolean number string unsupported array object head,
        Unknown.inductionItems null boolean number string unsupported array object rest⟩

theorem Unknown.inductionEntries {property : Unknown → Prop} (null : property .null)
    (boolean : ∀ value, property (.boolean value)) (number : ∀ value, property (.number value))
    (string : ∀ text, property (.string text))
    (unsupported : ∀ type, property (.unsupported type))
    (array : ∀ items, (∀ item ∈ items, property item) → property (.array items))
    (object : ∀ brand entries, (∀ entry ∈ entries, property entry.2) →
      property (.object brand entries)) :
    ∀ entries : List (Text × Unknown), ∀ entry ∈ entries, property entry.2
  | [] => fun _ member => absurd member List.not_mem_nil
  | (_, value) :: rest => List.forall_mem_cons.mpr
      ⟨Unknown.induction null boolean number string unsupported array object value,
        Unknown.inductionEntries null boolean number string unsupported array object rest⟩

end

mutual

/-- Every string and every key at every depth passes a test. -/
def holdsThroughout (onString onKey : Text → Bool) : Unknown → Bool
  | .string text => onString text
  | .array items => itemsHold onString onKey items
  | .object _ entries => entriesHold onString onKey entries
  | _ => true

def itemsHold (onString onKey : Text → Bool) : List Unknown → Bool
  | [] => true
  | item :: rest => holdsThroughout onString onKey item && itemsHold onString onKey rest

def entriesHold (onString onKey : Text → Bool) : List (Text × Unknown) → Bool
  | [] => true
  | (key, value) :: rest =>
      onKey key && holdsThroughout onString onKey value && entriesHold onString onKey rest

end

mutual

/-- The value with every string and every key left blank. -/
def shape : Unknown → Unknown
  | .null => .null
  | .boolean value => .boolean value
  | .number value => .number value
  | .string _ => .string []
  | .unsupported type => .unsupported type
  | .array items => .array (shapeItems items)
  | .object brand entries => .object brand (shapeEntries entries)

def shapeItems : List Unknown → List Unknown
  | [] => []
  | item :: rest => shape item :: shapeItems rest

def shapeEntries : List (Text × Unknown) → List (Text × Unknown)
  | [] => []
  | (_, value) :: rest => ([], shape value) :: shapeEntries rest

end

variable {onString onKey : Text → Bool} {text : Text} {entries : Entries} {unit : Nat}

theorem itemsHold_iff {items : List Unknown} :
    itemsHold onString onKey items = true ↔
      ∀ item ∈ items, holdsThroughout onString onKey item = true := by
  induction items with
  | nil => simp [itemsHold]
  | cons item rest inductionHypothesis => simp [itemsHold, inductionHypothesis]

theorem entriesHold_iff :
    entriesHold onString onKey entries = true ↔
      ∀ entry ∈ entries,
        onKey entry.1 = true ∧ holdsThroughout onString onKey entry.2 = true := by
  induction entries with
  | nil => simp [entriesHold]
  | cons entry rest inductionHypothesis => simp [entriesHold, inductionHypothesis, and_assoc]

theorem areJson_iff {items : List Unknown} :
    areJson items = true ↔ ∀ item ∈ items, isJson item = true := by
  induction items with
  | nil => simp [areJson]
  | cons item rest inductionHypothesis => simp [areJson, inductionHypothesis]

theorem haveJson_iff :
    haveJson entries = true ↔ ∀ entry ∈ entries, isJson entry.2 = true := by
  induction entries with
  | nil => simp [haveJson]
  | cons entry rest inductionHypothesis => simp [haveJson, inductionHypothesis]

theorem isJson_object {brand : Brand} :
    isJson (.object brand entries) = true ↔
      brand = .plain ∧ (entries.map Prod.fst).Nodup ∧ ∀ entry ∈ entries, isJson entry.2 = true := by
  simp [isJson, haveJson_iff, and_assoc]

theorem shapeItems_eq_map (items : List Unknown) : shapeItems items = items.map shape := by
  induction items with
  | nil => rfl
  | cons item rest inductionHypothesis => rw [shapeItems, inductionHypothesis, List.map_cons]

theorem shapeEntries_eq_map (entries : Entries) :
    shapeEntries entries = entries.map fun entry => ([], shape entry.2) := by
  induction entries with
  | nil => rfl
  | cons entry rest inductionHypothesis => rw [shapeEntries, inductionHypothesis, List.map_cons]

/-- Two tests pass throughout if and only if both of each kind do. -/
theorem holdsThroughout_and {otherString otherKey : Text → Bool} (value : Unknown) :
    holdsThroughout (fun text => onString text && otherString text)
        (fun key => onKey key && otherKey key) value = true ↔
      holdsThroughout onString onKey value = true ∧
        holdsThroughout otherString otherKey value = true := by
  induction value using Unknown.induction with
  | null => simp [holdsThroughout]
  | boolean value => simp [holdsThroughout]
  | number value => simp [holdsThroughout]
  | string text => simp [holdsThroughout]
  | unsupported type => simp [holdsThroughout]
  | array items inductionHypothesis =>
      simp only [holdsThroughout, itemsHold_iff]
      grind
  | object brand entries inductionHypothesis =>
      simp only [holdsThroughout, entriesHold_iff]
      rw [← forall₂_and]
      grind

/-- Weaker tests pass throughout wherever stronger ones do. -/
theorem holdsThroughout_mono {otherString otherKey : Text → Bool}
    (strings : ∀ text, onString text = true → otherString text = true)
    (keys : ∀ key, onKey key = true → otherKey key = true) (value : Unknown)
    (holds : holdsThroughout onString onKey value = true) :
    holdsThroughout otherString otherKey value = true := by
  induction value using Unknown.induction with
  | null => rfl
  | boolean value => rfl
  | number value => rfl
  | string text => exact strings text holds
  | unsupported type => rfl
  | array items inductionHypothesis =>
      grind [holdsThroughout, itemsHold_iff]
  | object brand entries inductionHypothesis =>
      grind [holdsThroughout, entriesHold_iff]

/-! ### Texts -/

/-- Neither NUL nor one of the control characters. -/
def isAllowedUnit (unit : Nat) : Bool := !(unit == 0) && !isControlChar unit

def isAllowedText (text : Text) : Bool := text.all isAllowedUnit

/-- What a column takes as a string or as a key. -/
def isStorableText (text : Text) : Bool := isAllowedText text && Text.isWellFormed text

/-- What the sanitiser puts for a NUL by default. -/
def replacedNul (unit : Nat) : Text := if unit = 0 then Text.ofLiteral "[NUL]" else [unit]

def sanitizedText (text : Text) : Text := (text.flatMap replacedNul).flatMap escapeControl

theorem hasNul_eq_false (absent : hasNul text = false) :
    ∀ unit ∈ text, unit ≠ 0 := by
  grind [hasNul]

theorem isAllowedText_iff :
    isAllowedText text = true ↔ ∀ unit ∈ text, unit ≠ 0 ∧ isControlChar unit = false := by
  simp [isAllowedText, isAllowedUnit]

/-- The checker accepts a string if and only if every unit is allowed. -/
theorem findInString_eq_none {path : Text} :
    findInString path text = none ↔ isAllowedText text = true := by
  rw [findInString, isAllowedText_iff]
  by_cases nul : hasNul text = true
  · rw [if_pos nul]
    refine ⟨nofun, fun allowed => ?_⟩
    exact absurd rfl (allowed 0 (List.contains_iff_mem.mp nul)).1
  · have absent : hasNul text = false := Bool.eq_false_iff.mpr nul
    rw [if_neg nul, Option.map_eq_none_iff, findOtherControlChar, List.find?_eq_none]
    refine forall₂_congr fun unit member => ?_
    rw [Bool.not_eq_true]
    exact ⟨fun plain => ⟨hasNul_eq_false absent unit member, plain⟩, And.right⟩

/-- The replacement text of NUL has no pattern of its own. -/
theorem replaceNul_default (before text : Text) :
    replaceNul (Text.ofLiteral "[NUL]") before text = text.flatMap replacedNul := by
  induction text generalizing before with
  | nil => rfl
  | cons unit rest inductionHypothesis =>
      rw [replaceNul, inductionHypothesis, List.flatMap_cons]
      rfl

theorem sanitizeStringForPg_default (text : Text) :
    sanitizeStringForPg {} text = .ok (sanitizedText text) := by
  unfold sanitizeStringForPg sanitizedText
  by_cases nul : hasNul text = true
  · rw [if_pos nul]
    show Except.ok ((replaceNul (Text.ofLiteral "[NUL]") [] text).flatMap escapeControl) = _
    rw [replaceNul_default]
  · have absent := hasNul_eq_false (Bool.eq_false_iff.mpr nul)
    have kept : text.flatMap replacedNul = text :=
      Text.flatMap_eq_self fun unit member => if_neg (absent unit member)
    rw [if_neg nul, kept]
    rfl

theorem controlChar_below (control : isControlChar unit = true) : unit < 32 := by
  have bounds := decide_eq_true_eq.mp control
  omega

/-- What is put for a control character: no NUL, no control character, no surrogate. -/
theorem escapeControl_plain (control : isControlChar unit = true) :
    escapeControl unit ≠ [] ∧ ∀ other ∈ escapeControl unit,
      isAllowedUnit other = true ∧ Text.isSurrogate other = false := by
  have checked : ∀ unit < 32, isControlChar unit = true →
      escapeControl unit ≠ [] ∧ ∀ other ∈ escapeControl unit,
        isAllowedUnit other = true ∧ Text.isSurrogate other = false := by decide
  exact checked unit (controlChar_below control) control

theorem escapeControl_other (plain : isControlChar unit = false) :
    escapeControl unit = [unit] := by
  rw [escapeControl, plain]
  rfl

theorem replacedNul_zero : ∀ other ∈ replacedNul 0,
    isAllowedUnit other = true ∧ Text.isSurrogate other = false := by decide

theorem plain_replacedNul : Text.Plain replacedNul := by
  intro unit
  by_cases nul : unit = 0
  · subst nul
    exact Or.inr ⟨by decide, by decide, fun other member => (replacedNul_zero other member).2⟩
  · exact Or.inl (if_neg nul)

theorem plain_escapeControl : Text.Plain escapeControl := by
  intro unit
  by_cases control : isControlChar unit = true
  · obtain ⟨nonempty, free⟩ := escapeControl_plain control
    have low := controlChar_below control
    grind [Text.isSurrogate, Text.isHighSurrogate, Text.isLowSurrogate]
  · exact Or.inl (escapeControl_other (Bool.eq_false_iff.mpr control))

theorem isWellFormed_sanitizedText (text : Text) :
    Text.isWellFormed (sanitizedText text) = Text.isWellFormed text := by
  rw [sanitizedText, Text.isWellFormed_flatMap plain_escapeControl,
    Text.isWellFormed_flatMap plain_replacedNul]

theorem isAllowedText_sanitizedText (text : Text) : isAllowedText (sanitizedText text) = true := by
  refine List.all_eq_true.mpr fun other member => ?_
  obtain ⟨unit, origin, escaped⟩ := List.mem_flatMap.mp member
  by_cases control : isControlChar unit = true
  · exact ((escapeControl_plain control).2 other escaped).1
  · have plain : isControlChar unit = false := Bool.eq_false_iff.mpr control
    rw [escapeControl_other plain, List.mem_singleton] at escaped
    subst escaped
    obtain ⟨source, _, replaced⟩ := List.mem_flatMap.mp origin
    by_cases nul : source = 0
    · subst nul
      exact (replacedNul_zero _ replaced).1
    · grind [replacedNul, isAllowedUnit]

theorem sanitizedText_of_allowed (allowed : isAllowedText text = true) :
    sanitizedText text = text := by
  have units := isAllowedText_iff.mp allowed
  have kept : text.flatMap replacedNul = text :=
    Text.flatMap_eq_self fun unit member => if_neg (units unit member).1
  rw [sanitizedText, kept]
  exact Text.flatMap_eq_self fun unit member => escapeControl_other (units unit member).2

/-! ### Both walks over a value -/

mutual

/-- Every string replaced, and the entries of the prototype left out. -/
def sanitized : Unknown → Unknown
  | .null => .null
  | .boolean value => .boolean value
  | .number value => .number value
  | .string text => .string (sanitizedText text)
  | .unsupported type => .unsupported type
  | .array items => .array (sanitizedItems items)
  | .object brand entries => .object brand (sanitizedEntries entries)

def sanitizedItems : List Unknown → List Unknown
  | [] => []
  | item :: rest => sanitized item :: sanitizedItems rest

def sanitizedEntries : List (Text × Unknown) → List (Text × Unknown)
  | [] => []
  | (key, value) :: rest =>
      if key = prototypeKey then sanitizedEntries rest
      else (key, sanitized value) :: sanitizedEntries rest

end

theorem sanitizedItems_eq_map (items : List Unknown) :
    sanitizedItems items = items.map sanitized := by
  induction items with
  | nil => rfl
  | cons item rest inductionHypothesis => rw [sanitizedItems, inductionHypothesis, List.map_cons]

theorem sanitizedEntries_keys (entries : Entries) :
    (sanitizedEntries entries).map Prod.fst =
      (entries.map Prod.fst).filter fun key => decide (key ≠ prototypeKey) := by
  induction entries with
  | nil => rfl
  | cons entry rest inductionHypothesis =>
      grind [sanitizedEntries]

theorem mem_sanitizedEntries {entries : Entries} {entry : Text × Unknown} :
    entry ∈ sanitizedEntries entries ↔ ∃ source ∈ entries, source.1 ≠ prototypeKey ∧
      entry = (source.1, sanitized source.2) := by
  induction entries with
  | nil => simp [sanitizedEntries]
  | cons head rest inductionHypothesis =>
      grind [sanitizedEntries]

theorem sanitizedEntries_eq_map {entries : Entries}
    (proper : ∀ entry ∈ entries, entry.1 ≠ prototypeKey) :
    sanitizedEntries entries = entries.map fun entry => (entry.1, sanitized entry.2) := by
  induction entries with
  | nil => rfl
  | cons entry rest inductionHypothesis =>
      grind [sanitizedEntries]

variable (schema : JsonSerializableValueSchema)

variable {value : Unknown} {items : List Unknown} {entries : Entries}

theorem sanitizeItems_default
    (each : ∀ item ∈ items, ∀ path, sanitizeJsonForJSONB schema {} path item = .ok (sanitized item))
    (path : Text) (index : Nat) :
    sanitizeItems schema {} path index items = .ok (sanitizedItems items) := by
  induction items generalizing index with
  | nil => rfl
  | cons item rest inductionHypothesis =>
      rw [sanitizeItems, each item List.mem_cons_self, inductionHypothesis
        fun other member => each other (List.mem_cons_of_mem item member)]
      rfl

/-- The entries are added to `out` in order; keys that are apart never replace each other. -/
theorem sanitizeEntries_default
    (each : ∀ entry ∈ entries, ∀ path,
      sanitizeJsonForJSONB schema {} path entry.2 = .ok (sanitized entry.2)) (path : Text)
    (out : Entries) (distinct : (out.map Prod.fst ++ entries.map Prod.fst).Nodup) :
    sanitizeEntries schema {} path out entries = .ok (out ++ sanitizedEntries entries) := by
  induction entries generalizing out with
  | nil => rw [sanitizeEntries, sanitizedEntries, List.append_nil]
  | cons entry rest inductionHypothesis =>
      have others : ∀ other ∈ rest, ∀ path,
          sanitizeJsonForJSONB schema {} path other.2 = .ok (sanitized other.2) :=
        fun other member => each other (List.mem_cons_of_mem entry member)
      rw [sanitizeEntries, each entry List.mem_cons_self]
      show sanitizeEntries schema {} path (setProperty out entry.1 (sanitized entry.2)) rest = _
      rw [setProperty, sanitizedEntries]
      by_cases prototype : entry.1 = prototypeKey
      · rw [if_pos prototype, if_pos prototype]
        exact inductionHypothesis others out (distinct.sublist (List.Sublist.append_left
          (List.sublist_cons_self entry.1 (rest.map Prod.fst)) (out.map Prod.fst)))
      · have absent : entry.1 ∉ out.map Prod.fst := fun member =>
          (List.nodup_append.mp distinct).2.2 entry.1 member entry.1 List.mem_cons_self rfl
        rw [if_neg prototype, if_neg absent, if_neg prototype, inductionHypothesis others]
        · rw [List.append_assoc, List.singleton_append]
        · grind

/-- On the values of JSON the sanitiser never fails, and maps over the tree. -/
theorem sanitizeJsonForJSONB_default (json : isJson value = true) (path : Text) :
    sanitizeJsonForJSONB schema {} path value = .ok (sanitized value) := by
  induction value using Unknown.induction generalizing path with
  | null => rw [sanitizeJsonForJSONB, if_pos (schema.acceptsJson json), sanitized]
  | boolean value => rw [sanitizeJsonForJSONB, if_pos (schema.acceptsJson json), sanitized]
  | number value =>
      have finite : value.isFinite = true := json
      simp [sanitizeJsonForJSONB, sanitized, schema.acceptsJson, json, finite]
  | string text =>
      rw [sanitizeJsonForJSONB, if_pos (schema.acceptsJson json)]
      show (sanitizeStringForPg {} text).map Unknown.string = _
      rw [sanitizeStringForPg_default, sanitized]
      rfl
  | unsupported type => exact absurd json Bool.false_ne_true
  | array items inductionHypothesis =>
      have inside := areJson_iff.mp json
      rw [sanitizeJsonForJSONB, if_pos (schema.acceptsJson json)]
      show (sanitizeItems schema {} path 0 items).map Unknown.array = _
      rw [sanitizeItems_default schema fun item member path =>
        inductionHypothesis item member (inside item member) path, sanitized]
      rfl
  | object brand entries inductionHypothesis =>
      obtain ⟨rfl, distinct, inside⟩ := isJson_object.mp json
      rw [sanitizeJsonForJSONB, if_pos (schema.acceptsJson json)]
      show (sanitizeEntries schema {} path [] entries).map (Unknown.object .plain) = _
      rw [sanitizeEntries_default schema (fun entry member path =>
        inductionHypothesis entry member (inside entry member) path) path [] distinct, sanitized]
      rfl

theorem isJson_sanitized (json : isJson value = true) :
    isJson (sanitized value) = true := by
  induction value using Unknown.induction with
  | null => rfl
  | boolean value => rfl
  | number value => exact json
  | string text => rfl
  | unsupported type => exact json
  | array items inductionHypothesis =>
      have inside := areJson_iff.mp json
      rw [sanitized, sanitizedItems_eq_map]
      refine areJson_iff.mpr (List.forall_mem_map.mpr fun item member => ?_)
      exact inductionHypothesis item member (inside item member)
  | object brand entries inductionHypothesis =>
      grind [sanitized, isJson_object, sanitizedEntries_keys, mem_sanitizedEntries.mp]

theorem findInItems_eq_none {options : SanitizeOptions} {path : Text}
    (each : ∀ item ∈ items, ∀ path, findIllegalJsonChars options path item = none ↔
      holdsThroughout isAllowedText (fun _ => true) item = true) (index : Nat) :
    findInItems options path index items = none ↔
      itemsHold isAllowedText (fun _ => true) items = true := by
  induction items generalizing index with
  | nil => exact ⟨fun _ => rfl, fun _ => rfl⟩
  | cons item rest inductionHypothesis =>
      grind [findInItems, itemsHold]

theorem findInEntries_eq_none {options : SanitizeOptions} {path : Text}
    (each : ∀ entry ∈ entries, ∀ path, findIllegalJsonChars options path entry.2 = none ↔
      holdsThroughout isAllowedText (fun _ => true) entry.2 = true) :
    findInEntries options path entries = none ↔
      entriesHold isAllowedText (fun _ => true) entries = true := by
  induction entries with
  | nil => exact ⟨fun _ => rfl, fun _ => rfl⟩
  | cons entry rest inductionHypothesis =>
      have head := each entry List.mem_cons_self (propertyPath path entry.1)
      have tail := inductionHypothesis fun other member =>
        each other (List.mem_cons_of_mem entry member)
      grind [findInEntries, entriesHold]

/-- The checker accepts a value of JSON if and only if every string has allowed units only:
it sees neither keys nor surrogates. -/
theorem findIllegalJsonChars_eq_none (json : isJson value = true) (options : SanitizeOptions)
    (path : Text) :
    findIllegalJsonChars options path value = none ↔
      holdsThroughout isAllowedText (fun _ => true) value = true := by
  induction value using Unknown.induction generalizing path with
  | null => exact ⟨fun _ => rfl, fun _ => rfl⟩
  | boolean value => exact ⟨fun _ => rfl, fun _ => rfl⟩
  | number value =>
      have finite : value.isFinite = true := json
      rw [findIllegalJsonChars, if_pos finite]
      exact ⟨fun _ => rfl, fun _ => rfl⟩
  | string text => exact findInString_eq_none
  | unsupported type => exact absurd json Bool.false_ne_true
  | array items inductionHypothesis =>
      have inside := areJson_iff.mp json
      exact findInItems_eq_none (fun item member path =>
        inductionHypothesis item member (inside item member) path) 0
  | object brand entries inductionHypothesis =>
      obtain ⟨rfl, _, inside⟩ := isJson_object.mp json
      rw [findIllegalJsonChars, if_neg (by decide), if_neg (by simp)]
      exact findInEntries_eq_none fun entry member path =>
        inductionHypothesis entry member (inside entry member) path

/-! ### The shape, and what is left of each text -/

/-- No key names the prototype. -/
def isProper (value : Unknown) : Bool :=
  holdsThroughout (fun _ => true) (fun key => decide (key ≠ prototypeKey)) value

theorem isProper_array :
    isProper (.array items) = true ↔ ∀ item ∈ items, isProper item = true := itemsHold_iff

theorem isProper_object {brand : Brand} :
    isProper (.object brand entries) = true ↔
      ∀ entry ∈ entries, entry.1 ≠ prototypeKey ∧ isProper entry.2 = true := by
  simp [isProper, holdsThroughout, entriesHold_iff]

/-- The shape is kept if and only if no entry is lost. -/
theorem shape_sanitized (value : Unknown) :
    shape (sanitized value) = shape value ↔ isProper value = true := by
  induction value using Unknown.induction with
  | null => exact ⟨fun _ => rfl, fun _ => rfl⟩
  | boolean value => exact ⟨fun _ => rfl, fun _ => rfl⟩
  | number value => exact ⟨fun _ => rfl, fun _ => rfl⟩
  | string text => exact ⟨fun _ => rfl, fun _ => rfl⟩
  | unsupported type => exact ⟨fun _ => rfl, fun _ => rfl⟩
  | array items inductionHypothesis =>
      rw [isProper_array, sanitized, shape, shape, Unknown.array.injEq, shapeItems_eq_map,
        shapeItems_eq_map, sanitizedItems_eq_map, List.map_map, List.map_inj_left]
      exact forall₂_congr inductionHypothesis
  | object brand entries inductionHypothesis =>
      rw [isProper_object, sanitized, shape, shape, Unknown.object.injEq, shapeEntries_eq_map,
        shapeEntries_eq_map]
      constructor
      · rintro ⟨_, same⟩
        have lengths := congrArg List.length same
        have proper : ∀ entry ∈ entries, entry.1 ≠ prototypeKey := by
          have keys := congrArg List.length (sanitizedEntries_keys entries)
          simp only [List.length_map] at lengths keys
          have all : ((entries.map Prod.fst).filter fun key =>
              decide (key ≠ prototypeKey)).length = (entries.map Prod.fst).length := by
            rw [← keys, lengths, List.length_map]
          rw [List.length_filter_eq_length_iff] at all
          grind
        rw [sanitizedEntries_eq_map proper, List.map_map, List.map_inj_left] at same
        grind
      · intro proper
        rw [sanitizedEntries_eq_map fun entry member => (proper entry member).1, List.map_map,
          List.map_inj_left]
        grind

/-- A test of the result is a test of what each string becomes and of each key as it is. -/
theorem holdsThroughout_sanitized {onString onKey : Text → Bool} (proper : isProper value = true) :
    holdsThroughout onString onKey (sanitized value) =
      holdsThroughout (fun text => onString (sanitizedText text)) onKey value := by
  rw [Bool.eq_iff_iff]
  induction value using Unknown.induction with
  | null => rfl
  | boolean value => rfl
  | number value => rfl
  | string text => rfl
  | unsupported type => rfl
  | array items inductionHypothesis =>
      rw [sanitized, holdsThroughout, holdsThroughout, itemsHold_iff, itemsHold_iff,
        sanitizedItems_eq_map, List.forall_mem_map]
      grind [isProper_array.mp]
  | object brand entries inductionHypothesis =>
      have inside := isProper_object.mp proper
      rw [sanitized, holdsThroughout, holdsThroughout, entriesHold_iff, entriesHold_iff,
        sanitizedEntries_eq_map fun entry member => (inside entry member).1, List.forall_mem_map]
      grind

/-- Where no string has anything to replace and no key is lost, the value is the result. -/
theorem sanitized_eq_self (proper : isProper value = true)
    (allowed : holdsThroughout isAllowedText (fun _ => true) value = true) :
    sanitized value = value := by
  induction value using Unknown.induction with
  | null => rfl
  | boolean value => rfl
  | number value => rfl
  | string text => rw [sanitized, sanitizedText_of_allowed allowed]
  | unsupported type => rfl
  | array items inductionHypothesis =>
      have inside := isProper_array.mp proper
      have plain := itemsHold_iff.mp allowed
      rw [sanitized, sanitizedItems_eq_map, Unknown.array.injEq]
      calc items.map sanitized = items.map id := List.map_congr_left fun item member =>
            inductionHypothesis item member (inside item member) (plain item member)
        _ = items := List.map_id items
  | object brand entries inductionHypothesis =>
      have inside := isProper_object.mp proper
      have plain := entriesHold_iff.mp allowed
      rw [sanitized, sanitizedEntries_eq_map fun entry member => (inside entry member).1,
        Unknown.object.injEq]
      refine ⟨rfl, ?_⟩
      calc entries.map (fun entry => (entry.1, sanitized entry.2)) = entries.map id :=
            List.map_congr_left fun entry member => congrArg (Prod.mk entry.1)
              (inductionHypothesis entry member (inside entry member).2 (plain entry member).2)
        _ = entries := List.map_id entries

/-! ### What the two are for -/

/-- No string and no key at any depth has what a column refuses. -/
def isStorable (value : Unknown) : Bool := holdsThroughout isStorableText isStorableText value

/-- The sanitiser with default options. -/
def sanitizeByDefault (value : Unknown) : Except Text Unknown :=
  sanitizeJsonForJSONB schema {} (Text.ofLiteral "$") value

def findByDefault (value : Unknown) : Option IllegalJsonFinding :=
  findIllegalJsonChars {} (Text.ofLiteral "$") value

/-- What is asked of a result. -/
structure SanitizedTo (value result : Unknown) : Prop where
  returned : sanitizeByDefault schema value = .ok result
  storable : isStorable result = true
  accepted : findByDefault result = none
  sameShape : shape result = shape value
  unchanged : isStorable value = true → result = value
  again : sanitizeByDefault schema result = .ok result

/-- There is such a result, and the checker reports the value unless it is clean. -/
structure IsSanitized (value : Unknown) : Prop where
  result : ∃ result, SanitizedTo schema value result
  reported : isStorable value = false → findByDefault value ≠ none

/-- Every string has its surrogates in pairs, and every key is as a column takes it and
none that names the prototype. -/
def isWithinReach (value : Unknown) : Bool :=
  holdsThroughout Text.isWellFormed
    (fun key => isStorableText key && decide (key ≠ prototypeKey)) value

theorem sanitizedTo_eq {result : Unknown} (json : isJson value = true)
    (becomes : SanitizedTo schema value result) : result = sanitized value := by
  grind [sanitizeByDefault, sanitizeJsonForJSONB_default, becomes.returned]

/-- A result that is storable and of the same shape leaves nothing else to ask of the value. -/
theorem isWithinReach_of_isSanitized (json : isJson value = true)
    (sanitizes : IsSanitized schema value) : isWithinReach value = true := by
  obtain ⟨result, becomes⟩ := sanitizes.result
  have isResult := sanitizedTo_eq schema json becomes
  subst isResult
  have proper := (shape_sanitized value).mp becomes.sameShape
  have storable := becomes.storable
  rw [isStorable, holdsThroughout_sanitized proper] at storable
  have both := (holdsThroughout_and value).mpr ⟨storable, proper⟩
  refine holdsThroughout_mono (fun text holds => ?_) (fun _ holds => holds) value both
  rw [Bool.and_true, isStorableText, isAllowedText_sanitizedText, Bool.true_and,
    isWellFormed_sanitizedText] at holds
  exact holds

theorem isProper_of_isWithinReach (reach : isWithinReach value = true) :
    isProper value = true :=
  holdsThroughout_mono (fun _ _ => rfl) (fun _ holds => (Bool.and_eq_true_iff.mp holds).2)
    value reach

/-- Within reach, a value is clean as soon as the checker has no finding. -/
theorem isStorable_of_accepted (json : isJson value = true) (reach : isWithinReach value = true)
    (accepted : findByDefault value = none) :
    isStorable value = true := by
  have allowed := (findIllegalJsonChars_eq_none json {} (Text.ofLiteral "$")).mp accepted
  have both := (holdsThroughout_and value).mpr ⟨allowed, reach⟩
  exact holdsThroughout_mono (fun _ holds => holds)
    (fun _ holds => (Bool.and_eq_true_iff.mp (Bool.and_eq_true_iff.mp holds).2).1) value both

theorem isSanitized_of_isWithinReach (json : isJson value = true)
    (reach : isWithinReach value = true) : IsSanitized schema value := by
  have proper := isProper_of_isWithinReach reach
  have shapeKept := (shape_sanitized value).mpr proper
  have resultJson := isJson_sanitized json
  have resultAllowed :
      holdsThroughout isAllowedText (fun _ => true) (sanitized value) = true := by
    rw [holdsThroughout_sanitized proper]
    exact holdsThroughout_mono (fun text _ => isAllowedText_sanitizedText text)
      (fun _ _ => rfl) value reach
  have resultStorable : isStorable (sanitized value) = true := by
    rw [isStorable, holdsThroughout_sanitized proper]
    refine holdsThroughout_mono (fun text paired => ?_)
      (fun _ holds => (Bool.and_eq_true_iff.mp holds).1) value reach
    rw [isStorableText, isAllowedText_sanitizedText, isWellFormed_sanitizedText, paired]
    rfl
  have resultProper : isProper (sanitized value) = true := by
    rw [isProper, holdsThroughout_sanitized proper]
    exact proper
  refine ⟨⟨sanitized value, ?_⟩, ?_⟩
  · exact {
      returned := sanitizeJsonForJSONB_default schema json _
      storable := resultStorable
      accepted := (findIllegalJsonChars_eq_none resultJson {} _).mpr resultAllowed
      sameShape := shapeKept
      unchanged := fun clean => sanitized_eq_self proper (holdsThroughout_mono
        (fun _ holds => (Bool.and_eq_true_iff.mp holds).1) (fun _ _ => rfl) value clean)
      again := by
        rw [sanitizeByDefault, sanitizeJsonForJSONB_default schema resultJson,
          sanitized_eq_self resultProper resultAllowed] }
  · intro dirty accepted
    rw [isStorable_of_accepted json reach accepted] at dirty
    exact Bool.false_ne_true dirty.symm

/-- A value of JSON. -/
structure JsonDocument where
  value : Unknown
  json : isJson value = true

/-- The sanitiser and the checker do all they are for exactly on the values in which no
string has a surrogate without a pair, no key has one, a NUL or a control character, and
no key names the prototype. -/
theorem isSanitized_iff (document : JsonDocument) :
    IsSanitized schema document.value ↔ isWithinReach document.value = true :=
  ⟨isWithinReach_of_isSanitized schema document.json,
    isSanitized_of_isWithinReach schema document.json⟩

/-- The schema that accepts the values of JSON and nothing else. -/
def schemaOfJson : JsonSerializableValueSchema := ⟨isJson, id⟩

/-- An object whose one key ends in a NUL, a lone surrogate, and an object whose one key
names the prototype. -/
theorem not_isSanitized :
    ¬ IsSanitized schemaOfJson (.object .plain [([0x61, 0], .null)]) ∧
      ¬ IsSanitized schemaOfJson (.string [0xD800]) ∧
      ¬ IsSanitized schemaOfJson (.object .plain [(prototypeKey, .boolean true)]) := by
  refine ⟨fun sanitizes => ?_, fun sanitizes => ?_, fun sanitizes => ?_⟩
  all_goals
    have reach := isWithinReach_of_isSanitized schemaOfJson rfl sanitizes
    exact absurd reach (by decide)

end Lombok.Orm
