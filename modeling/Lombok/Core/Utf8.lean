import Lombok.Core.JsonReader

/-!
Contract: counting characters of a text by its UTF-8 bytes.

A marked character is an ASCII one, so it is one byte, and no byte of another
character looks like it. Encoding a text and decoding any bytes keep the number
of marks.
-/

namespace Lombok.Core

/-! ### Marked characters -/

def marks (marked : Char → Bool) (text : String) : Nat := text.toList.countP marked

def byteMarked (marked : Char → Bool) (byte : UInt8) : Bool := marked (Char.ofNat byte.toNat)

def byteMarks (marked : Char → Bool) (bytes : List UInt8) : Nat := bytes.countP (byteMarked marked)

theorem encodeChar_ascii {character : Char} (small : character.toNat < 128) :
    String.utf8EncodeChar character = [UInt8.ofNat character.toNat] := by
  unfold String.utf8EncodeChar
  rw [if_pos (by exact Nat.le_of_lt_succ small)]
  rfl

theorem encodeChar_high {character : Char} (large : 128 ≤ character.toNat) :
    ∀ byte ∈ String.utf8EncodeChar character, 128 ≤ byte.toNat := by
  have notSmall : ¬ character.val.toNat ≤ 0x7f := by
    have same : character.val.toNat = character.toNat := rfl
    omega
  unfold String.utf8EncodeChar
  rw [if_neg notSmall]
  intro byte member
  split at member
  · simp only [List.mem_cons, List.not_mem_nil, or_false] at member
    rcases member with rfl | rfl <;> (rw [UInt8.toNat_ofNat']; omega)
  split at member
  · simp only [List.mem_cons, List.not_mem_nil, or_false] at member
    rcases member with rfl | rfl | rfl <;> (rw [UInt8.toNat_ofNat']; omega)
  · simp only [List.mem_cons, List.not_mem_nil, or_false] at member
    rcases member with rfl | rfl | rfl | rfl <;> (rw [UInt8.toNat_ofNat']; omega)

theorem toNat_ofNat_ascii {code : Nat} (small : code < 128) : (Char.ofNat code).toNat = code := by
  have valid : code.isValidChar := Or.inl (by omega)
  rw [Char.ofNat, dif_pos valid]
  rfl

/-- A byte that starts no character is not ASCII. -/
theorem broken_first {byte : UInt8} {rest : List UInt8}
    (broken : (byte :: rest).toByteArray.utf8DecodeChar? 0 = none) : 128 ≤ byte.toNat := by
  apply Nat.le_of_not_lt
  intro small
  have code := toNat_ofNat_ascii small
  have encoded : String.utf8EncodeChar (Char.ofNat byte.toNat) = [byte] := by
    rw [encodeChar_ascii (by omega), code, UInt8.ofNat_toNat]
  have found : (byte :: rest).toByteArray.utf8DecodeChar? 0 = some (Char.ofNat byte.toNat) := by
    rw [← List.singleton_append, ← encoded, List.toByteArray_append]
    exact ByteArray.utf8DecodeChar?_utf8EncodeChar_append
  rw [broken] at found
  cases found

theorem decoded_first {bytes : List UInt8} {character : Char}
    (decoded : bytes.toByteArray.utf8DecodeChar? 0 = some character) :
    bytes = String.utf8EncodeChar character ++ bytes.drop character.utf8Size := by
  obtain ⟨others, split⟩ := ByteArray.exists_of_utf8DecodeChar?_eq_some decoded
  have lists : bytes = String.utf8EncodeChar character ++ others.data.toList := by
    have data := congrArg (fun array => array.data.toList) split
    simpa using data
  simp [lists]

/-- At most two bytes are cut off with the first, and they continue a character. -/
theorem truncatedTail_cases (byte : UInt8) (rest : List UInt8) :
    truncatedTail (byte :: rest) = 0 ∨
      (∃ second tail, rest = second :: tail ∧ truncatedTail (byte :: rest) = 1 ∧
        128 ≤ second.toNat) ∨
      ∃ second third tail, rest = second :: third :: tail ∧ truncatedTail (byte :: rest) = 2 ∧
        128 ≤ second.toNat ∧ 128 ≤ third.toNat := by
  match rest with
  | [] => exact .inl rfl
  | second :: tail =>
      unfold truncatedTail
      dsimp only
      have lowBound : 128 ≤
          (if byte.toNat = 0xE0 then 0xA0 else if byte.toNat = 0xF0 then 0x90 else 0x80) := by
        split
        · omega
        · split <;> omega
      generalize (if byte.toNat = 0xE0 then 0xA0 else if byte.toNat = 0xF0 then 0x90 else 0x80) =
        low at lowBound ⊢
      generalize (if byte.toNat = 0xED then 0x9F else if byte.toNat = 0xF4 then 0x8F else 0xBF) =
        high
      by_cases continues :
          (decide (0xE0 ≤ byte.toNat) && decide (byte.toNat ≤ 0xF4) &&
            isContinuation low high second) = true
      · grind [isContinuation]
      · rw [if_neg continues]
        exact .inl rfl

section Counting

variable {marked : Char → Bool}
  (ascii : ∀ character, marked character = true → character.toNat < 128)

include ascii

theorem byteMarked_ascii {byte : UInt8} (isMarked : byteMarked marked byte = true) :
    byte.toNat < 128 := by
  have small := ascii _ isMarked
  have bounded := byte.toNat_lt
  have same : (Char.ofNat byte.toNat).toNat = byte.toNat := by
    have valid : byte.toNat.isValidChar := Or.inl (by omega)
    rw [Char.ofNat, dif_pos valid]
    rfl
  omega

theorem byteMarks_high {bytes : List UInt8} (high : ∀ byte ∈ bytes, 128 ≤ byte.toNat) :
    byteMarks marked bytes = 0 := by
  grind [byteMarks, byteMarked_ascii]

theorem byteMarks_encodeChar (character : Char) :
    byteMarks marked (String.utf8EncodeChar character) = [character].countP marked := by
  by_cases small : character.toNat < 128
  · grind [UInt8.toNat_ofNat', Char.ofNat_toNat, byteMarks, encodeChar_ascii, byteMarked]
  · have notMarked : marked character = false := by
      rw [Bool.eq_false_iff]
      intro isMarked
      exact small (ascii _ isMarked)
    rw [byteMarks_high ascii (encodeChar_high (Nat.le_of_not_lt small)),
      List.countP_singleton, notMarked]
    rfl

theorem byteMarks_toUtf8 (text : String) : byteMarks marked (toUtf8 text) = marks marked text := by
  rw [marks, toUtf8_eq]
  induction text.toList with
  | nil => rfl
  | cons character tail inductionHypothesis =>
      have first := byteMarks_encodeChar ascii character
      grind [byteMarks]

/-- What is cut off with a broken start of a character is never ASCII. -/
theorem truncatedTail_marks (byte : UInt8) (rest : List UInt8) :
    byteMarks marked (rest.take (truncatedTail (byte :: rest))) = 0 := by
  grind [byteMarks_high, truncatedTail_cases]

/-- Decoding keeps the marks of the bytes. -/
theorem countP_repairCharsWith : ∀ (fuel : Nat) (bytes : List UInt8), bytes.length ≤ fuel →
    (repairCharsWith truncatedTail fuel bytes).countP marked = byteMarks marked bytes := by
  intro fuel
  induction fuel with
  | zero =>
      intro bytes enough
      rw [List.eq_nil_of_length_eq_zero (Nat.le_zero.mp enough)]
      rfl
  | succ fuel inductionHypothesis =>
      intro bytes enough
      match bytes with
      | [] => rfl
      | byte :: rest =>
          rw [repairCharsWith]
          cases decoded : (byte :: rest).toByteArray.utf8DecodeChar? 0 with
          | some character =>
              have positive := character.utf8Size_pos
              rw [List.length_cons] at enough
              rw [List.countP_cons, inductionHypothesis _
                (by rw [List.length_drop, List.length_cons]; omega)]
              have whole := congrArg (byteMarks marked) (decoded_first decoded)
              have first := byteMarks_encodeChar ascii character
              rw [List.countP_singleton] at first
              grind [byteMarks]
          | none =>
              have replaced : marked (Char.ofNat 0xFFFD) = false := by
                rw [Bool.eq_false_iff]
                grind
              have high : ¬ byteMarked marked byte = true := by
                intro isMarked
                have small := byteMarked_ascii ascii isMarked
                have large := broken_first decoded
                omega
              rw [List.length_cons] at enough
              rw [List.countP_cons, replaced, inductionHypothesis _
                  (by rw [List.length_drop]; omega)]
              have split := @List.countP_append _ (byteMarked marked)
                (rest.take (truncatedTail (byte :: rest)))
                (rest.drop (truncatedTail (byte :: rest)))
              have cut := truncatedTail_marks ascii byte rest
              rw [List.take_append_drop] at split
              grind [byteMarks]

theorem marks_decodeUtf8 (bytes : List UInt8) :
    marks marked (decodeUtf8 bytes) = byteMarks marked bytes := by
  unfold marks decodeUtf8
  rw [String.toList_ofList]
  exact countP_repairCharsWith ascii bytes.length bytes (Nat.le_refl _)

end Counting

end Lombok.Core
