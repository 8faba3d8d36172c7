import Lombok.Core.FetchHeaders
import Lombok.Core.FormParams
import Lombok.Core.JsonCharacters
import Lombok.Core.Utf8
import Mathlib.Algebra.BigOperators.Group.List.Basic
import Mathlib.Algebra.Ring.Nat

/-!
Contract: a url-encoded form as the body of a request.

Owns the entries `formData()` reads out of the bytes, and how many of a few
marked characters each step of the reading, and the JSON text of an object,
can have.

The counts are what tells a form from the JSON text of its entries.
-/

namespace Lombok.Core

open Lombok.Library

/-! ### The entries -/

/-- `+` is a space and an escape is its byte; a percent sign that starts no escape is itself. -/
def formUnescape : List UInt8 → List UInt8
  | [] => []
  | byte :: rest =>
      if byte = 43 then 32 :: formUnescape rest
      else if byte = 37 then
        match rest with
        | high :: low :: tail =>
            match hexDigitValue (Char.ofNat high.toNat), hexDigitValue (Char.ofNat low.toNat) with
            | some highValue, some lowValue =>
                UInt8.ofNat (highValue * 16 + lowValue) :: formUnescape tail
            | _, _ => 37 :: formUnescape (high :: low :: tail)
        | short => 37 :: formUnescape short
      else byte :: formUnescape rest

def formField (field : List UInt8) : String × String :=
  let name := field.takeWhile (· != 61)
  (decodeUtf8 (formUnescape name), decodeUtf8 (formUnescape (field.drop (name.length + 1))))

def formEntries (body : List UInt8) : List (String × String) :=
  ((body.splitOn 38).filter fun field => !field.isEmpty).map formField

/-! ### Marked characters -/

/-- Only characters that separate fields, start an escape or open an object are marked. -/
def Marks (marked : Char → Bool) : Prop :=
  ∀ character, marked character = true → character ∈ ['%', '&', '{']

section Counting

variable {marked : Char → Bool} (onlyMarks : Marks marked)

include onlyMarks

theorem marked_ascii (character : Char) (isMarked : marked character = true) :
    character.toNat < 128 := by
  have member := onlyMarks character isMarked
  simp only [List.mem_cons, List.not_mem_nil, or_false] at member
  rcases member with rfl | rfl | rfl <;> decide

/-! ### Marks of a form -/

omit onlyMarks in
theorem byteMarks_cons (byte : UInt8) (rest : List UInt8) :
    byteMarks marked (byte :: rest) =
      byteMarks marked rest + if byteMarked marked byte = true then 1 else 0 :=
  List.countP_cons

theorem notMarked {character : Char} (other : character ∉ ['%', '&', '{']) :
    marked character = false := by
  rw [Bool.eq_false_iff]
  intro isMarked
  exact other (onlyMarks character isMarked)

/-- An escape has its own percent sign for the one character it can be. -/
theorem byteMarks_formUnescape_le (percent : marked '%' = true) (bytes : List UInt8) :
    byteMarks marked (formUnescape bytes) ≤ byteMarks marked bytes := by
  have percentByte : byteMarked marked 37 = true := percent
  have spaceByte : byteMarked marked 32 = false := notMarked onlyMarks (by decide)
  fun_induction formUnescape bytes with
  | case1 => exact Nat.le_refl _
  | case2 rest inductionHypothesis =>
      rw [byteMarks_cons, byteMarks_cons, spaceByte]
      simp only [Bool.false_eq_true, if_false]
      omega
  | case3 high low tail highValue lowValue highIs lowIs inductionHypothesis =>
      rw [byteMarks_cons, byteMarks_cons, percentByte, byteMarks_cons, byteMarks_cons, if_pos rfl]
      split <;> omega
  | case4 high low tail noEscape inductionHypothesis =>
      rw [byteMarks_cons, byteMarks_cons]
      omega
  | case5 short noPair inductionHypothesis =>
      rw [byteMarks_cons, byteMarks_cons]
      omega
  | case6 byte rest notPlus notPercent inductionHypothesis =>
      rw [byteMarks_cons, byteMarks_cons]
      omega

omit onlyMarks in
theorem hexDigit_of_value {byte : UInt8} {value : Nat}
    (digit : hexDigitValue (Char.ofNat byte.toNat) = some value) :
    Char.ofNat byte.toNat ∉ ['%', '&', '{'] := by
  intro member
  simp only [List.mem_cons, List.not_mem_nil, or_false] at member
  rcases member with same | same | same <;> (rw [same] at digit; cases digit)

theorem le_byteMarks_formUnescape (percent : marked '%' = false) (bytes : List UInt8) :
    byteMarks marked bytes ≤ byteMarks marked (formUnescape bytes) := by
  have percentByte : byteMarked marked 37 = false := percent
  have plusByte : byteMarked marked 43 = false := notMarked onlyMarks (by decide)
  have digitByte {byte : UInt8} {value : Nat}
      (digit : hexDigitValue (Char.ofNat byte.toNat) = some value) :
      byteMarked marked byte = false :=
    notMarked onlyMarks (hexDigit_of_value digit)
  fun_induction formUnescape bytes with
  | case1 => exact Nat.le_refl _
  | case2 rest inductionHypothesis =>
      rw [byteMarks_cons, byteMarks_cons, plusByte]
      simp only [Bool.false_eq_true, if_false]
      omega
  | case3 high low tail highValue lowValue highIs lowIs inductionHypothesis =>
      rw [byteMarks_cons, byteMarks_cons, byteMarks_cons, byteMarks_cons, percentByte,
        digitByte highIs, digitByte lowIs]
      simp only [Bool.false_eq_true, if_false]
      omega
  | case4 high low tail noEscape inductionHypothesis =>
      grind [byteMarks_cons]
  | case5 short noPair inductionHypothesis =>
      rw [byteMarks_cons, byteMarks_cons]
      omega
  | case6 byte rest notPlus notPercent inductionHypothesis =>
      rw [byteMarks_cons, byteMarks_cons]
      omega

/-- A field is its name and its value, but for the `=` between them. -/
theorem byteMarks_field (field : List UInt8) :
    byteMarks marked (field.takeWhile (· != 61)) +
        byteMarks marked (field.drop ((field.takeWhile (· != 61)).length + 1)) =
      byteMarks marked field := by
  have equalsByte : byteMarked marked 61 = false := notMarked onlyMarks (by decide)
  induction field with
  | nil => rfl
  | cons byte rest inductionHypothesis =>
      by_cases equals : byte = 61
      · simp [byteMarks, equals, equalsByte]
      · rw [List.takeWhile_cons, if_pos (bne_iff_ne.mpr equals), List.length_cons,
          List.drop_succ_cons, byteMarks_cons, byteMarks_cons]
        omega

/-- The marks of a name and its value. -/
def pairMarks (marked : Char → Bool) (pair : String × String) : Nat :=
  marks marked pair.1 + marks marked pair.2

theorem pairMarks_formField_le (percent : marked '%' = true) (field : List UInt8) :
    pairMarks marked (formField field) ≤ byteMarks marked field := by
  grind [byteMarks_field, byteMarks_formUnescape_le, pairMarks, formField, marks_decodeUtf8,
    marked_ascii]

theorem le_pairMarks_formField (percent : marked '%' = false) (field : List UInt8) :
    byteMarks marked field ≤ pairMarks marked (formField field) := by
  have whole := byteMarks_field onlyMarks field
  grind [le_byteMarks_formUnescape, pairMarks, formField, marks_decodeUtf8, marked_ascii]

def entryMarks (marked : Char → Bool) (entries : List (String × String)) : Nat :=
  (entries.map (pairMarks marked)).sum

/-- An `&` between fields is a mark that no entry has. -/
theorem entryMarks_formEntries_le (percent : marked '%' = true) (ampersand : marked '&' = true)
    (body : List UInt8) :
    entryMarks marked (formEntries body) + body.count 38 ≤ byteMarks marked body := by
  have ampersandByte : byteMarked marked 38 = true := ampersand
  have fields : (((body.splitOn 38).map (byteMarks marked)).sum + body.count 38 =
      byteMarks marked body) := by
    induction body with
    | nil => rfl
    | cons byte rest inductionHypothesis =>
        rw [List.splitOn_cons_eq_if_modifyHead, byteMarks_cons, List.count_cons]
        by_cases separates : byte = 38
        · grind [byteMarks]
        · have notSame : ¬ (byte == 38) = true := by simpa using separates
          rw [if_neg notSame, if_neg notSame]
          rcases held : rest.splitOn 38 with _ | ⟨field, others⟩
          · exact absurd held (List.splitOn_ne_nil 38 rest)
          · rw [held] at inductionHypothesis
            simp only [List.modifyHead_cons, List.map_cons, List.sum_cons, byteMarks_cons]
              at inductionHypothesis ⊢
            omega
  have kept : ∀ pieces : List (List UInt8),
      entryMarks marked ((pieces.filter fun field => !field.isEmpty).map formField) ≤
        (pieces.map (byteMarks marked)).sum := by
    intro pieces
    induction pieces with
    | nil => exact Nat.le_refl _
    | cons field others inductionHypothesis =>
        grind [pairMarks_formField_le, entryMarks]
  have bound := kept (body.splitOn 38)
  unfold formEntries
  omega


/-! ### Marks of an object -/

omit onlyMarks in
/-- A character is printed as it is, or neither it nor its escape can be marked. -/
theorem escapeChar_cases (character : Char) :
    Json.escapeChar character = [character] ∨
      character ∉ ['%', '&', '{'] ∧
        ∀ printed ∈ Json.escapeChar character, printed ∉ ['%', '&', '{'] := by
  have unmarked : ∀ printed ∈ Json.escapeAlphabet, printed ∉ ['%', '&', '{'] :=
    Json.forall_mem_of_all (by decide)
  rcases Json.escapeChar_printed character with ⟨same, _⟩ | ⟨special, escaped⟩
  · exact .inl same
  · refine .inr ⟨?_, fun printed member => unmarked printed (escaped printed member)⟩
    intro member
    simp only [List.mem_cons, List.not_mem_nil, or_false] at member
    rcases member with rfl | rfl | rfl <;> exact absurd special (by decide)

theorem countP_escapeChar (character : Char) :
    (Json.escapeChar character).countP marked = [character].countP marked := by
  grind [escapeChar_cases, notMarked, List.countP_eq_zero.mpr]

theorem countP_quote (text : String) : (Json.quote text).countP marked = marks marked text := by
  have quoteMark : marked '"' = false := notMarked onlyMarks (by decide)
  have inside : ∀ characters : List Char,
      (characters.flatMap Json.escapeChar).countP marked = characters.countP marked := by
    intro characters
    induction characters with
    | nil => rfl
    | cons character tail inductionHypothesis =>
        grind [countP_escapeChar]
  simp [Json.quote, marks, inside, quoteMark]

/-- The properties of an object whose values are strings. -/
def stringFields (entries : List (String × String)) : Fields :=
  entries.map fun entry => (entry.1, .str entry.2)

theorem countP_renderFields (entries : List (String × String)) :
    (Json.renderFields (stringFields entries)).countP marked = entryMarks marked entries := by
  have colonMark : marked ':' = false := notMarked onlyMarks (by decide)
  have commaMark : marked ',' = false := notMarked onlyMarks (by decide)
  induction entries with
  | nil => rfl
  | cons entry rest inductionHypothesis =>
      match rest with
      | [] =>
          simp only [stringFields, List.map_cons, List.map_nil, Json.renderFields, Json.render,
            List.countP_append, List.countP_cons, colonMark, countP_quote onlyMarks, entryMarks,
            pairMarks]
          simp
      | next :: tail =>
          have rest := inductionHypothesis
          simp only [stringFields, List.map_cons, Json.renderFields, Json.render,
            List.countP_append, List.countP_cons, colonMark, commaMark, countP_quote onlyMarks,
            entryMarks, pairMarks, List.sum_cons, Bool.false_eq_true, if_false] at rest ⊢
          omega

/-- An object has the marks of its properties, and those of its braces. -/
theorem marks_stringify (entries : List (String × String)) :
    marks marked (Json.stringify (.obj (stringFields entries))) =
      entryMarks marked entries + ['{'].countP marked := by
  simp [notMarked, marks, Json.stringify, Json.render, List.countP_cons, countP_renderFields,
    onlyMarks]

end Counting

section Objects

variable {marked : Char → Bool}

theorem entryMarks_replaced_le {entries : List (String × String)}
    (distinct : (entries.map Prod.fst).Nodup) (pair : String × String) :
    entryMarks marked (OrderedMap.replaced entries pair.1 pair.2) ≤
      entryMarks marked entries + pairMarks marked pair := by
  induction entries with
  | nil => exact Nat.zero_le _
  | cons entry rest inductionHypothesis =>
      grind [entryMarks, OrderedMap.replaced, List.map_congr_left]

/-- Setting a property replaces marks by those of the new one, or adds these. -/
theorem entryMarks_set_le (record : OrderedMap String String) (pair : String × String) :
    entryMarks marked (record.set pair.1 pair.2).entries ≤
      entryMarks marked record.entries + pairMarks marked pair := by
  grind [OrderedMap.set, entryMarks_replaced_le, entryMarks, record.distinct]

theorem entryMarks_fromEntries_le (pairs : List (String × String)) :
    entryMarks marked (FetchHeaders.fromEntries pairs).entries ≤ entryMarks marked pairs := by
  have general : ∀ (rest : List (String × String)) (record : OrderedMap String String),
      entryMarks marked
          (rest.foldl (fun record pair => record.set pair.1 pair.2) record).entries ≤
        entryMarks marked record.entries + entryMarks marked rest := by
    intro rest
    induction rest with
    | nil =>
        intro record
        exact Nat.le_refl _
    | cons pair tail inductionHypothesis =>
        grind [entryMarks_set_le, entryMarks]
  have bound := general pairs .empty
  have nothing : entryMarks marked (.empty : OrderedMap String String).entries = 0 := rfl
  unfold FetchHeaders.fromEntries
  omega

end Objects

end Lombok.Core
