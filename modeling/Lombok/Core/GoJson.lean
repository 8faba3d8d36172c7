import Mathlib.Data.List.TakeWhile
import Mathlib.Data.String.Basic
import Lombok.Core.JsonCharacters
import Lombok.Library.SortedMap

/-!
Contract: `encoding/json` on values of type `any`.

Owns what `json.Valid` and `json.Unmarshal` accept and the value they give: bytes
that are no UTF-8 and lone surrogates become U+FFFD, a later property replaces an
earlier one, and `json.Marshal` prints properties in the order of their keys.
What it prints of a value that was read is read back as that value.

Does not own the conversion between literals and doubles, which is a parameter
with its round trip.
-/

namespace Lombok.Core.GoJson

open Lombok.Library Lombok.Core.Json

/-! ### Numbers -/

def isExponent : List Char → Bool
  | [] => true
  | mark :: rest =>
      let unsigned := if rest.head? == some '+' || rest.head? == some '-' then rest.tail else rest
      (mark == 'e' || mark == 'E') && !unsigned.isEmpty && unsigned.all Char.isDigit

/-- What may follow the integer part. -/
def isFraction (text : List Char) : Bool :=
  if text.head? == some '.' then
    !(text.tail.takeWhile Char.isDigit).isEmpty && isExponent (text.tail.dropWhile Char.isDigit)
  else isExponent text

def isUnsigned : List Char → Bool
  | [] => false
  | first :: rest =>
      if first == '0' then isFraction rest
      else first.isDigit && isFraction (rest.dropWhile Char.isDigit)

/-- A number as the grammar of JSON spells it. -/
def isNumber (text : List Char) : Bool :=
  if text.head? == some '-' then isUnsigned text.tail else isUnsigned text

/-- Doubles, by the literals they are read from and printed as. -/
structure Float64Text where
  /-- The literal printed for the double a literal is read as, `none` out of range. -/
  print : String → Option String
  number : ∀ {literal printed}, print literal = some printed → isNumber printed.toList = true
  stable : ∀ {literal printed}, print literal = some printed → print printed = some printed

/-! ### Values of type `any` -/

mutual

def wellNumbered : Json → Bool
  | .num literal => isNumber literal.toList
  | .arr items => wellNumberedItems items
  | .obj fields => wellNumberedFields fields
  | _ => true

def wellNumberedItems : List Json → Bool
  | [] => true
  | item :: rest => wellNumbered item && wellNumberedItems rest

def wellNumberedFields : Fields → Bool
  | [] => true
  | (_, value) :: rest => wellNumbered value && wellNumberedFields rest

end

mutual

/-- How deep arrays and objects are nested. -/
def depth : Json → Nat
  | .arr items => depthItems items + 1
  | .obj fields => depthFields fields + 1
  | _ => 0

def depthItems : List Json → Nat
  | [] => 0
  | item :: rest => max (depth item) (depthItems rest)

def depthFields : Fields → Nat
  | [] => 0
  | (_, value) :: rest => max (depth value) (depthFields rest)

end

/-- `maxNestingDepth`. -/
def maxNestingDepth : Nat := 10000

mutual

/-- The value a text has as `any`: numbers are doubles and objects are maps. -/
def toAny (floats : Float64Text) : Json → Option Json
  | .num literal => (floats.print literal).map .num
  | .arr items => (toAnyItems floats items).map .arr
  | .obj fields => (toAnyFields floats fields).map fun entries => .obj (SortedMap.ofList entries)
  | value => some value

def toAnyItems (floats : Float64Text) : List Json → Option (List Json)
  | [] => some []
  | item :: rest => do
      let value ← toAny floats item
      let values ← toAnyItems floats rest
      some (value :: values)

def toAnyFields (floats : Float64Text) : Fields → Option Fields
  | [] => some []
  | (name, item) :: rest => do
      let value ← toAny floats item
      let entries ← toAnyFields floats rest
      some ((name, value) :: entries)

end

/-! ### Texts -/

def isSurrogate (unit : Nat) : Bool := 0xD800 ≤ unit && unit < 0xE000

/-- The text with every surrogate that has no partner spelled as U+FFFD. -/
def repairSurrogates : List Char → List Char
  | '\\' :: 'u' :: d3 :: d2 :: d1 :: d0 :: rest =>
      match readUnit [d3, d2, d1, d0] with
      | some (unit, _) =>
          if isSurrogate unit then
            match rest with
            | '\\' :: 'u' :: e3 :: e2 :: e1 :: e0 :: following =>
                if unit < 0xDC00 && (readLowSurrogate unit ['\\', 'u', e3, e2, e1, e0]).isSome then
                  '\\' :: 'u' :: d3 :: d2 :: d1 :: d0 ::
                    '\\' :: 'u' :: e3 :: e2 :: e1 :: e0 :: repairSurrogates following
                else "\\ufffd".toList ++
                  repairSurrogates ('\\' :: 'u' :: e3 :: e2 :: e1 :: e0 :: following)
            | other => "\\ufffd".toList ++ repairSurrogates other
          else '\\' :: 'u' :: d3 :: d2 :: d1 :: d0 :: repairSurrogates rest
      | none => '\\' :: 'u' :: repairSurrogates (d3 :: d2 :: d1 :: d0 :: rest)
  | '\\' :: character :: rest => '\\' :: character :: repairSurrogates rest
  | character :: rest => character :: repairSurrogates rest
  | [] => []

/-- The bytes as the decoder reads them. -/
def textOf (bytes : List UInt8) : String :=
  String.ofList (repairSurrogates (repairUtf8 bytes).toList)

/-- The value the text of the bytes spells, if it is one. -/
def syntaxOf (bytes : List UInt8) : Option Json :=
  (Json.parse (textOf bytes)).filter fun value =>
    wellNumbered value && decide (depth value ≤ maxNestingDepth)

/-- `json.Valid`. -/
def valid (bytes : List UInt8) : Bool := (syntaxOf bytes).isSome

/-- `json.Unmarshal` into an `any`. -/
def unmarshal (floats : Float64Text) (bytes : List UInt8) : Option Json :=
  (syntaxOf bytes).bind (toAny floats)

/-! ### Printing -/

/-- The characters of a string, `none` for a byte that is no UTF-8. -/
def runesOf : Nat → List UInt8 → List (Option Char)
  | 0, _ => []
  | _ + 1, [] => []
  | fuel + 1, byte :: rest =>
      match (byte :: rest).toByteArray.utf8DecodeChar? 0 with
      | some character =>
          some character :: runesOf fuel ((byte :: rest).drop character.utf8Size)
      | none => none :: runesOf fuel rest

/-- What `json.Marshal` prints for a character of a string. -/
def escapeRune : Option Char → List Char
  | some character => escapeGo character
  | none => ['\\', 'u', 'f', 'f', 'f', 'd']

def repairRune (rune : Option Char) : Char := rune.getD (Char.ofNat 0xFFFD)

/-- `json.Marshal` of a string. -/
def quoteBytes (text : List UInt8) : List Char :=
  '"' :: ((runesOf text.length text).flatMap escapeRune ++ ['"'])

/-- `json.Marshal` of a string and perhaps a value, as the items of an array. -/
def marshalArray (text : List UInt8) (value : Option Json) : String :=
  String.ofList ('[' :: (quoteBytes text ++
    ((match value with
      | some value => ',' :: renderWith escapeGo value
      | none => []) ++ [']'])))

/-- A property of texts that holds of each printed character and of texts of visible characters
without a backslash, and is kept when texts are put together. -/
structure PrintClosed (property : List Char → Prop) : Prop where
  append : ∀ {first second}, property first → property second → property (first ++ second)
  escape : ∀ rune, property (escapeRune rune)
  visible : ∀ {text}, (∀ character ∈ text, character ≠ '\\' ∧ 32 ≤ character.toNat) → property text

namespace PrintClosed

variable {property : List Char → Prop} (closed : PrintClosed property)
include closed

theorem single {character : Char} (visible : character ≠ '\\' ∧ 32 ≤ character.toNat) :
    property [character] :=
  closed.visible fun _ member => List.mem_singleton.mp member ▸ visible

theorem cons {character : Char} {text : List Char}
    (visible : character ≠ '\\' ∧ 32 ≤ character.toNat) (holds : property text) :
    property (character :: text) :=
  closed.append (closed.single visible) holds

theorem flatMap (runes : List (Option Char)) : property (runes.flatMap escapeRune) := by
  induction runes with
  | nil => exact closed.visible fun _ member => absurd member List.not_mem_nil
  | cons first tail inductionHypothesis =>
      exact closed.append (closed.escape first) inductionHypothesis

theorem quoteWith (text : String) : property (Json.quoteWith escapeGo text) := by
  have literal := closed.flatMap (text.toList.map some)
  rw [List.flatMap_map] at literal
  exact closed.cons (by decide) (closed.append literal (closed.single (by decide)))

theorem quoteBytes (text : List UInt8) : property (GoJson.quoteBytes text) :=
  closed.cons (by decide)
    (closed.append (closed.flatMap (runesOf text.length text)) (closed.single (by decide)))

mutual

theorem renderWith : ∀ value : Json, isPlain value = true →
    property (Json.renderWith escapeGo value)
  | .null, _ | .bool true, _ | .bool false, _ =>
      closed.visible (forall_mem_of_all (by decide))
  | .num literal, plain => by
      rw [isPlain, Bool.and_eq_true, List.all_eq_true] at plain
      rw [Json.renderWith]
      refine closed.visible fun character member => ?_
      have numeral := plain.2 character member
      refine ⟨?_, (numeral_ascii numeral).1⟩
      rintro rfl
      cases numeral
  | .str text, _ => by
      rw [Json.renderWith]
      exact closed.quoteWith text
  | .arr items, plain => by
      rw [isPlain] at plain
      rw [Json.renderWith]
      exact closed.cons (by decide)
        (closed.append (renderItemsWith items plain) (closed.single (by decide)))
  | .obj fields, plain => by
      rw [isPlain] at plain
      rw [Json.renderWith]
      exact closed.cons (by decide)
        (closed.append (renderFieldsWith fields plain) (closed.single (by decide)))

theorem renderItemsWith : ∀ items : List Json, isPlainItems items = true →
    property (Json.renderItemsWith escapeGo items)
  | [], _ => closed.visible fun _ member => absurd member List.not_mem_nil
  | [item], plain => by
      rw [isPlainItems, Bool.and_eq_true] at plain
      rw [Json.renderItemsWith]
      exact renderWith item plain.1
  | item :: next :: rest, plain => by
      rw [isPlainItems, Bool.and_eq_true] at plain
      rw [Json.renderItemsWith]
      exact closed.append (renderWith item plain.1)
        (closed.cons (by decide) (renderItemsWith (next :: rest) plain.2))

theorem renderFieldsWith : ∀ fields : List (String × Json), isPlainFields fields = true →
    property (Json.renderFieldsWith escapeGo fields)
  | [], _ => closed.visible fun _ member => absurd member List.not_mem_nil
  | [(name, value)], plain => by
      rw [isPlainFields, Bool.and_eq_true] at plain
      rw [Json.renderFieldsWith]
      exact closed.append (closed.quoteWith name)
        (closed.cons (by decide) (renderWith value plain.1))
  | (name, value) :: next :: rest, plain => by
      rw [isPlainFields, Bool.and_eq_true] at plain
      rw [Json.renderFieldsWith]
      refine closed.append (closed.quoteWith name) (closed.cons (by decide) ?_)
      exact closed.append (renderWith value plain.1)
        (closed.cons (by decide) (renderFieldsWith (next :: rest) plain.2))

end

theorem marshalArray (text : List UInt8) {value : Option Json}
    (plain : ∀ printed ∈ value, isPlain printed = true) :
    property (GoJson.marshalArray text value).toList := by
  unfold GoJson.marshalArray
  grind [String.toList_ofList, closed.cons, closed.append, closed.quoteBytes, closed.single,
    closed.renderWith]

end PrintClosed

/-! ### What is printed is left alone -/

/-- No surrogate in the text wants repair, whatever follows it. -/
def Inert (text : List Char) : Prop :=
  ∀ rest, repairSurrogates (text ++ rest) = text ++ repairSurrogates rest

theorem inert_nil : Inert [] := fun _ => rfl

theorem Inert.append {first second : List Char} (firstInert : Inert first)
    (secondInert : Inert second) : Inert (first ++ second) := by
  intro rest
  rw [List.append_assoc, firstInert, secondInert, List.append_assoc]

variable {text : List Char} {character : Char}

theorem inert_single (notBackslash : character ≠ '\\') : Inert [character] := by
  intro rest
  simp [repairSurrogates, notBackslash]

theorem inert_of_noBackslash (none : '\\' ∉ text) : Inert text := by
  induction text with
  | nil => exact inert_nil
  | cons first tail inductionHypothesis =>
      have different : first ≠ '\\' := fun same => none (same ▸ List.mem_cons_self)
      exact (inert_single different).append
        (inductionHypothesis fun member => none (List.mem_cons_of_mem first member))

theorem inert_escape (notUnit : character ≠ 'u') :
    Inert ['\\', character] := by
  intro rest
  simp [repairSurrogates, notUnit]

theorem inert_unit {d3 d2 d1 d0 : Char} {unit : Nat} {rest : List Char}
    (reads : readUnit [d3, d2, d1, d0] = some (unit, rest)) (plain : isSurrogate unit = false) :
    Inert ['\\', 'u', d3, d2, d1, d0] := by
  intro following
  show repairSurrogates ('\\' :: 'u' :: d3 :: d2 :: d1 :: d0 :: following) = _
  rw [repairSurrogates, reads]
  simp only [plain, Bool.false_eq_true, ↓reduceIte]
  rfl

theorem inert_escapeGo (character : Char) : Inert (escapeGo character) := by
  unfold escapeGo
  split
  · exact inert_escape (by decide)
  split
  · exact inert_escape (by decide)
  split
  · exact inert_escape (by decide)
  split
  · exact inert_escape (by decide)
  split
  · exact inert_escape (by decide)
  split
  · exact inert_escape (by decide)
  split
  · exact inert_escape (by decide)
  split
  · rename_i short
    have small : character.toNat < 128 := by
      rcases short with control | rfl | rfl | rfl
      · omega
      · decide
      · decide
      · decide
    have high := hexDigitValue_hexDigit (character.toNat / 16) (by omega)
    have low := hexDigitValue_hexDigit (character.toNat % 16) (by omega)
    have zero : Json.hexDigitValue '0' = some 0 := rfl
    have reads : readUnit ['0', '0', hexDigit (character.toNat / 16),
        hexDigit (character.toNat % 16)] = some (character.toNat, []) := by
      simp only [readUnit, zero, high, low, bind, Option.bind]
      congr 2
      omega
    refine inert_unit reads ?_
    unfold isSurrogate
    simp
    omega
  split
  · exact @inert_unit '2' '0' '2' '8' 0x2028 [] rfl rfl
  split
  · exact @inert_unit '2' '0' '2' '9' 0x2029 [] rfl rfl
  · grind [inert_single]

theorem inert_escapeRune (rune : Option Char) : Inert (escapeRune rune) := by
  cases rune with
  | none => exact @inert_unit 'f' 'f' 'f' 'd' 0xFFFD [] rfl rfl
  | some character => exact inert_escapeGo character

theorem printClosed_inert : PrintClosed Inert where
  append := Inert.append
  escape := inert_escapeRune
  visible all := inert_of_noBackslash fun member => absurd rfl (all _ member).1

theorem escapeGo_printable (character : Char) :
    ∀ printed ∈ escapeGo character, 32 ≤ printed.toNat := by
  unfold escapeGo
  split
  · exact forall_mem_of_all (by decide)
  split
  · exact forall_mem_of_all (by decide)
  split
  · exact forall_mem_of_all (by decide)
  split
  · exact forall_mem_of_all (by decide)
  split
  · exact forall_mem_of_all (by decide)
  split
  · exact forall_mem_of_all (by decide)
  split
  · exact forall_mem_of_all (by decide)
  split
  · rename_i short
    have small : character.toNat < 128 := by
      rcases short with control | rfl | rfl | rfl
      · omega
      · decide
      · decide
      · decide
    have digit : ∀ value < 16, 32 ≤ (hexDigit value).toNat := by decide
    simp only [List.forall_mem_cons]
    grind
  split
  · exact forall_mem_of_all (by decide)
  split
  · exact forall_mem_of_all (by decide)
  · rename_i notShort _ _
    intro printed member
    grind

/-- No control character is printed, a line feed least of all. -/
theorem printClosed_printable :
    PrintClosed fun text => ∀ printed ∈ text, 32 ≤ printed.toNat where
  append := fun first second => List.forall_mem_append.mpr ⟨first, second⟩
  escape := fun rune => by
    cases rune with
    | none => exact forall_mem_of_all (by decide)
    | some character => exact escapeGo_printable character
  visible := fun all printed member => (all printed member).2

theorem textOf_inert (inert : Inert text) :
    textOf (toUtf8 (String.ofList text)) = String.ofList text := by
  have whole := inert []
  grind [textOf, repairUtf8_toUtf8, String.toList_ofList, repairSurrogates]

/-! ### Values that were read -/

/-- A text that begins with that character, and its tail. -/
theorem numeral_of_head (head : text.head? = some character)
    (numeral : isNumeralChar character = true) (rest : text.tail.all isNumeralChar = true) :
    text.all isNumeralChar = true := by
  cases text with
  | nil => rfl
  | cons first tail =>
      grind

theorem numeral_exponent (spelled : isExponent text = true) :
    text.all isNumeralChar = true := by
  cases text with
  | nil => rfl
  | cons mark rest =>
      simp only [isExponent, Bool.and_eq_true, Bool.or_eq_true, beq_iff_eq] at spelled
      obtain ⟨⟨isMark, _⟩, digits⟩ := spelled
      have markNumeral : isNumeralChar mark = true := by
        rcases isMark with rfl | rfl
        · rfl
        · rfl
      rw [List.all_cons, Bool.and_eq_true]
      refine ⟨markNumeral, ?_⟩
      split at digits
      · rename_i signed
        rcases signed with plus | minus
        · exact numeral_of_head plus rfl (all_digits_plain digits)
        · exact numeral_of_head minus rfl (all_digits_plain digits)
      · exact all_digits_plain digits

theorem numeral_fraction (spelled : isFraction text = true) :
    text.all isNumeralChar = true := by
  unfold isFraction at spelled
  split at spelled
  · rename_i point
    rw [Bool.and_eq_true] at spelled
    exact numeral_of_head (beq_iff_eq.mp point) rfl
      (all_plain_of_rest (numeral_exponent spelled.2))
  · exact numeral_exponent spelled

theorem numeral_unsigned (spelled : isUnsigned text = true) :
    text ≠ [] ∧ text.all isNumeralChar = true := by
  cases text with
  | nil => cases spelled
  | cons first rest =>
      refine ⟨List.cons_ne_nil first rest, ?_⟩
      rw [isUnsigned] at spelled
      rw [List.all_cons, Bool.and_eq_true]
      split at spelled
      · rename_i zero
        rw [beq_iff_eq.mp zero]
        exact ⟨rfl, numeral_fraction spelled⟩
      · rw [Bool.and_eq_true] at spelled
        exact ⟨isNumeralChar_of_isDigit spelled.1, all_plain_of_rest (numeral_fraction spelled.2)⟩

theorem numeral_number (spelled : isNumber text = true) :
    text ≠ [] ∧ text.all isNumeralChar = true := by
  unfold isNumber at spelled
  split at spelled
  · rename_i minus
    have isMinus := beq_iff_eq.mp minus
    refine ⟨?_, numeral_of_head isMinus rfl (numeral_unsigned spelled).2⟩
    intro empty
    rw [empty] at isMinus
    cases isMinus
  · exact numeral_unsigned spelled

mutual

theorem isPlain_of_wellNumbered : ∀ value : Json, wellNumbered value = true → isPlain value = true
  | .null, _ | .bool _, _ | .str _, _ => by
      rw [isPlain] <;> simp
  | .num literal, spelled => by
      obtain ⟨nonempty, numeral⟩ := numeral_number spelled
      simp [isPlain, nonempty, numeral]
  | .arr items, spelled => by
      rw [isPlain]
      exact isPlainItems_of_wellNumbered items spelled
  | .obj fields, spelled => by
      rw [isPlain]
      exact isPlainFields_of_wellNumbered fields spelled

theorem isPlainItems_of_wellNumbered : ∀ items : List Json, wellNumberedItems items = true →
    isPlainItems items = true
  | [], _ => rfl
  | item :: rest, spelled => by
      rw [wellNumberedItems, Bool.and_eq_true] at spelled
      simp [isPlainItems, isPlain_of_wellNumbered, spelled, isPlainItems_of_wellNumbered]

theorem isPlainFields_of_wellNumbered : ∀ fields : Fields, wellNumberedFields fields = true →
    isPlainFields fields = true
  | [], _ => rfl
  | (name, value) :: rest, spelled => by
      rw [wellNumberedFields, Bool.and_eq_true] at spelled
      simp [isPlainFields, isPlain_of_wellNumbered, spelled, isPlainFields_of_wellNumbered]

end

/-- A value that reading again does not change, no deeper than the bound. -/
structure Settled (floats : Float64Text) (bound : Nat) (value : Json) : Prop where
  fixed : toAny floats value = some value
  spelled : wellNumbered value = true
  shallow : depth value ≤ bound

section Settled

variable {floats : Float64Text} {bound : Nat}

theorem Settled.mono {value : Json} {larger : Nat} (settled : Settled floats bound value)
    (le : bound ≤ larger) : Settled floats larger value :=
  ⟨settled.fixed, settled.spelled, Nat.le_trans settled.shallow le⟩

theorem settled_items {items : List Json} (each : ∀ item ∈ items, Settled floats bound item) :
    toAnyItems floats items = some items ∧ wellNumberedItems items = true ∧
      depthItems items ≤ bound := by
  induction items with
  | nil => exact ⟨rfl, rfl, Nat.zero_le _⟩
  | cons head tail inductionHypothesis =>
      have headSettled := each head List.mem_cons_self
      obtain ⟨tailFixed, tailSpelled, tailShallow⟩ :=
        inductionHypothesis fun item member => each item (List.mem_cons_of_mem head member)
      refine ⟨?_, ?_, ?_⟩
      · rw [toAnyItems, headSettled.fixed, tailFixed]
        rfl
      · rw [wellNumberedItems, headSettled.spelled, tailSpelled]
        rfl
      · exact Nat.max_le.mpr ⟨headSettled.shallow, tailShallow⟩

theorem settled_fields {fields : Fields} (each : ∀ entry ∈ fields, Settled floats bound entry.2) :
    toAnyFields floats fields = some fields ∧ wellNumberedFields fields = true ∧
      depthFields fields ≤ bound := by
  induction fields with
  | nil => exact ⟨rfl, rfl, Nat.zero_le _⟩
  | cons head tail inductionHypothesis =>
      have headSettled := each head List.mem_cons_self
      obtain ⟨tailFixed, tailSpelled, tailShallow⟩ :=
        inductionHypothesis fun entry member => each entry (List.mem_cons_of_mem head member)
      refine ⟨?_, ?_, ?_⟩
      · rw [toAnyFields, headSettled.fixed, tailFixed]
        rfl
      · rw [wellNumberedFields, headSettled.spelled, tailSpelled]
        rfl
      · exact Nat.max_le.mpr ⟨headSettled.shallow, tailShallow⟩

theorem Settled.arr {items : List Json} (each : ∀ item ∈ items, Settled floats bound item) :
    Settled floats (bound + 1) (.arr items) := by
  obtain ⟨fixed, spelled, shallow⟩ := settled_items each
  refine ⟨?_, spelled, Nat.succ_le_succ shallow⟩
  rw [toAny, fixed]
  rfl

theorem Settled.obj {fields : Fields} (each : ∀ entry ∈ fields, Settled floats bound entry.2)
    (sorted : SortedMap.Sorted fields) : Settled floats (bound + 1) (.obj fields) := by
  obtain ⟨fixed, spelled, shallow⟩ := settled_fields each
  refine ⟨?_, spelled, Nat.succ_le_succ shallow⟩
  rw [toAny, fixed, Option.map_some, SortedMap.ofList_of_sorted sorted]

mutual

theorem settled_toAny : ∀ (value : Json) {result : Json}, toAny floats value = some result →
    Settled floats (depth value) result
  | .null, _, read | .bool _, _, read | .str _, _, read => by
      cases read
      exact ⟨rfl, rfl, Nat.le_refl _⟩
  | .num literal, result, read => by
      rw [toAny, Option.map_eq_some_iff] at read
      obtain ⟨printed, prints, rfl⟩ := read
      refine ⟨?_, floats.number prints, Nat.le_refl _⟩
      rw [toAny, floats.stable prints]
      rfl
  | .arr items, result, read => by
      rw [toAny, Option.map_eq_some_iff] at read
      obtain ⟨values, reads, rfl⟩ := read
      exact Settled.arr (settled_toAnyItems items reads)
  | .obj fields, result, read => by
      rw [toAny, Option.map_eq_some_iff] at read
      obtain ⟨entries, reads, rfl⟩ := read
      refine Settled.obj (fun entry member => ?_) (SortedMap.sorted_ofList entries)
      exact settled_toAnyFields fields reads entry (SortedMap.mem_of_mem_ofList member)

theorem settled_toAnyItems : ∀ (items : List Json) {values : List Json},
    toAnyItems floats items = some values →
      ∀ value ∈ values, Settled floats (depthItems items) value
  | [], _, read => by
      cases read
      exact fun value member => absurd member List.not_mem_nil
  | item :: rest, values, read => by
      simp only [toAnyItems, bind, Option.bind_eq_some_iff] at read
      obtain ⟨first, firstRead, others, othersRead, isValues⟩ := read
      cases isValues
      intro value member
      rcases List.mem_cons.mp member with rfl | later
      · exact (settled_toAny item firstRead).mono (Nat.le_max_left ..)
      · exact (settled_toAnyItems rest othersRead value later).mono (Nat.le_max_right ..)

theorem settled_toAnyFields : ∀ (fields : Fields) {entries : Fields},
    toAnyFields floats fields = some entries →
      ∀ entry ∈ entries, Settled floats (depthFields fields) entry.2
  | [], _, read => by
      cases read
      exact fun entry member => absurd member List.not_mem_nil
  | (name, item) :: rest, entries, read => by
      simp only [toAnyFields, bind, Option.bind_eq_some_iff] at read
      obtain ⟨first, firstRead, others, othersRead, isEntries⟩ := read
      cases isEntries
      intro entry member
      rcases List.mem_cons.mp member with rfl | later
      · exact (settled_toAny item firstRead).mono (Nat.le_max_left ..)
      · exact (settled_toAnyFields rest othersRead entry later).mono (Nat.le_max_right ..)

end

end Settled

/-! ### What is printed is read back -/

theorem repairRune_runesOf (fuel : Nat) : ∀ bytes : List UInt8,
    (runesOf fuel bytes).map repairRune = repairCharsWith (fun _ => 0) fuel bytes := by
  induction fuel with
  | zero => exact fun _ => rfl
  | succ fuel inductionHypothesis =>
      intro bytes
      cases bytes with
      | nil => rfl
      | cons byte rest =>
          rw [runesOf, repairCharsWith]
          rcases (byte :: rest).toByteArray.utf8DecodeChar? 0 with _ | character
          · rw [List.map_cons, inductionHypothesis, List.drop_zero]
            rfl
          · rw [List.map_cons, inductionHypothesis]
            rfl

theorem readCharacter_replacement (rest : List Char) :
    readCharacter (['\\', 'u', 'f', 'f', 'f', 'd'] ++ rest) = some (Char.ofNat 0xFFFD, rest) := by
  simp [Json.hexDigitValue, readCharacter, readEscape, readUnit]

theorem readCharacter_escapeRune (rune : Option Char) (rest : List Char) :
    readCharacter (escapeRune rune ++ rest) = some (repairRune rune, rest) ∧
      (escapeRune rune ++ rest).head? ≠ some '"' := by
  cases rune with
  | none => exact ⟨readCharacter_replacement rest, by simp [escapeRune]⟩
  | some character => exact readable_escapeGo character rest

theorem readLiteral_runes (runes : List (Option Char)) (rest : List Char) :
    ∀ fuel, runes.length < fuel →
      readLiteral fuel (runes.flatMap escapeRune ++ '"' :: rest) =
        some (runes.map repairRune, rest) := by
  induction runes with
  | nil =>
      intro fuel enough
      obtain ⟨smaller, rfl⟩ : ∃ smaller, fuel = smaller + 1 := ⟨fuel - 1, by omega⟩
      rfl
  | cons rune tail inductionHypothesis =>
      intro fuel enough
      rw [List.length_cons] at enough
      obtain ⟨smaller, rfl⟩ : ∃ smaller, fuel = smaller + 1 := ⟨fuel - 1, by omega⟩
      grind [readCharacter_escapeRune, readLiteral]

theorem length_le_flatMap_escapeRune (runes : List (Option Char)) :
    runes.length ≤ (runes.flatMap escapeRune).length := by
  induction runes with
  | nil => exact Nat.le_refl _
  | cons rune tail inductionHypothesis =>
      have positive : 0 < (escapeRune rune).length := by
        cases rune with
        | none => decide
        | some character =>
            exact List.length_pos_iff.mpr (escape_ne_nil readable_escapeGo character)
      grind

variable {value : Option Json} (text : List UInt8)

theorem readValue_quoteBytes (rest : List Char) {fuel : Nat}
    (enough : (quoteBytes text).length ≤ fuel) :
    readValue fuel (quoteBytes text ++ rest) = some (.str (repairUtf8 text), rest) := by
  have bound := length_le_flatMap_escapeRune (runesOf text.length text)
  rw [quoteBytes, List.length_cons, List.length_append, List.length_singleton] at enough
  obtain ⟨smaller, rfl⟩ : ∃ smaller, fuel = smaller + 1 := ⟨fuel - 1, by omega⟩
  have literal := readLiteral_runes (runesOf text.length text) rest smaller (by omega)
  rw [quoteBytes, List.cons_append, List.append_assoc, List.singleton_append, readValue,
    skipSpace_of_head rfl]
  dsimp only
  rw [if_pos rfl, literal, Option.map_some, repairRune_runesOf]
  rfl

def arrayOf (text : List UInt8) (value : Option Json) : Json :=
  .arr (.str (repairUtf8 text) :: value.toList)

theorem readItems_marshalArray (plain : ∀ printed ∈ value, isPlain printed = true) {fuel : Nat}
    (enough : (marshalArray text value).toList.length ≤ fuel) :
    readItems fuel (marshalArray text value).toList.tail =
      some (.str (repairUtf8 text) :: value.toList, []) := by
  unfold marshalArray at enough ⊢
  rw [String.toList_ofList] at enough ⊢
  rw [List.length_cons, List.length_append] at enough
  rw [List.tail_cons]
  cases value with
  | none =>
      obtain ⟨smaller, rfl⟩ : ∃ smaller, fuel = smaller + 1 := ⟨fuel - 1, by omega⟩
      rw [readItems, readValue_quoteBytes text _ (by omega)]
      rfl
  | some printed =>
      rw [List.length_append, List.length_cons, List.length_singleton] at enough
      obtain ⟨smaller, rfl⟩ : ∃ smaller, fuel = smaller + 2 := ⟨fuel - 2, by omega⟩
      have last := readValue_renderWith readable_escapeGo printed [']'] smaller
        (plain printed rfl) (delimited_cons rfl []) (by omega)
      have tailRead : readItems (smaller + 1) (renderWith escapeGo printed ++ [']']) =
          some ([printed], []) := by
        rw [readItems, last]
        rfl
      rw [readItems, List.cons_append, readValue_quoteBytes text _ (by omega)]
      simp only [bind, Option.bind]
      rw [skipSpace_of_head rfl]
      simp only [tailRead, Option.toList_some]

theorem parse_marshalArray (plain : ∀ printed ∈ value, isPlain printed = true) :
    Json.parse (marshalArray text value) = some (arrayOf text value) := by
  have items := readItems_marshalArray text plain (Nat.le_refl _)
  obtain ⟨body, shape⟩ : ∃ body, (marshalArray text value).toList = '[' :: '"' :: body := by
    simp [marshalArray, quoteBytes]
  rw [shape, List.tail_cons] at items
  rw [Json.parse, shape, readValue, skipSpace_of_head rfl]
  dsimp only
  rw [if_neg (by decide), if_pos rfl, skipSpace_of_head rfl, List.head?_cons, if_neg (by decide),
    items]
  rfl

/-- `json.Unmarshal` reads what `json.Marshal` prints for a value that was read. -/
theorem unmarshal_marshalArray (floats : Float64Text) (text : List UInt8)
    (settled : ∀ printed ∈ value, Settled floats (maxNestingDepth - 1) printed) :
    unmarshal floats (toUtf8 (marshalArray text value)) = some (arrayOf text value) := by
  have plain : ∀ printed ∈ value, isPlain printed = true :=
    fun printed member => isPlain_of_wellNumbered printed (settled printed member).spelled
  have whole : Settled floats (maxNestingDepth - 1 + 1) (arrayOf text value) := by
    refine Settled.arr fun item member => ?_
    rcases List.mem_cons.mp member with rfl | later
    · exact ⟨rfl, rfl, Nat.zero_le _⟩
    · exact settled item (Option.mem_toList.mp later)
  have inert := textOf_inert (printClosed_inert.marshalArray text plain)
  rw [String.ofList_toList] at inert
  rw [unmarshal, syntaxOf, inert, parse_marshalArray text plain]
  have passes : (wellNumbered (arrayOf text value) &&
      decide (depth (arrayOf text value) ≤ maxNestingDepth)) = true := by
    rw [Bool.and_eq_true, decide_eq_true_eq]
    exact ⟨whole.spelled, whole.shallow⟩
  rw [Option.filter_some, if_pos passes]
  exact whole.fixed

/-- The items of an array that was read are settled, one level below it. -/
theorem settled_of_unmarshal {floats : Float64Text} {bytes : List UInt8} {items : List Json}
    (read : unmarshal floats bytes = some (.arr items)) :
    ∀ item ∈ items, Settled floats (maxNestingDepth - 1) item := by
  obtain ⟨value, isSyntax, toValue⟩ := Option.bind_eq_some_iff.mp read
  obtain ⟨_, checked⟩ := Option.filter_eq_some_iff.mp isSyntax
  rw [Bool.and_eq_true, decide_eq_true_eq] at checked
  cases value with
  | arr texts =>
      rw [toAny, Option.map_eq_some_iff] at toValue
      obtain ⟨values, reads, same⟩ := toValue
      cases same
      intro item member
      have shallow : depthItems texts + 1 ≤ maxNestingDepth := checked.2
      exact (settled_toAnyItems texts reads item member).mono (by omega)
  | num literal =>
      grind [toAny, Option.map_eq_some_iff]
  | obj fields =>
      grind [toAny, Option.map_eq_some_iff]
  | null | bool _ | str _ => cases toValue

end Lombok.Core.GoJson
