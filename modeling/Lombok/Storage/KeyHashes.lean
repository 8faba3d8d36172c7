import Lombok.Storage.AccessKeys

/-!
Contract: the hash of an access key determines the key.

Rests on a digest without collisions. Does not own the rows that have the hash.
-/

namespace Lombok.Storage

open Lombok.Core

theorem uriByte_plain : ∀ byte : Fin 256, isUriByte (UInt8.ofFin byte) = true →
    Char.ofNat byte.val ≠ '+' ∧ Char.ofNat byte.val ≠ '%' ∧ Char.ofNat byte.val ≠ ':' ∧
      String.utf8EncodeChar (Char.ofNat byte.val) = [UInt8.ofFin byte] := by
  decide +kernel

theorem upperHexDigit_ne_colon : ∀ value < 16, upperHexDigit value ≠ ':' := by
  decide

theorem formBytes_uriByte (byte : UInt8) (rest : List Char) :
    formBytes (uriByte byte ++ rest) = byte :: formBytes rest := by
  have bounded := byte.toNat_lt
  unfold uriByte
  by_cases plain : isUriByte byte = true
  · rcases uriByte_plain byte.toFin plain with ⟨notPlus, notPercent, _, encoded⟩
    have notPlus' : Char.ofNat byte.toNat ≠ '+' := notPlus
    have notPercent' : Char.ofNat byte.toNat ≠ '%' := notPercent
    have encoded' : String.utf8EncodeChar (Char.ofNat byte.toNat) = [byte] := encoded
    simp [formBytes_cons, plain, notPercent', notPlus', encoded']
  · have joined : byte.toNat / 16 * 16 + byte.toNat % 16 = byte.toNat := by omega
    rw [if_neg plain, List.cons_append, List.cons_append, List.cons_append, List.nil_append,
      formBytes_escape rest (hexDigitValue_upperHexDigit _ (by omega))
        (hexDigitValue_upperHexDigit _ (by omega)), joined, UInt8.ofNat_toNat]

/-- The text of a component determines the component. -/
theorem encodeURIComponent_injective {text other : String}
    (same : encodeURIComponent text = encodeURIComponent other) : text = other := by
  have readBack : ∀ bytes : List UInt8, formBytes (bytes.flatMap uriByte) = bytes := by
    intro bytes
    induction bytes with
    | nil => rfl
    | cons byte tail inductionHypothesis =>
        rw [List.flatMap_cons, formBytes_uriByte, inductionHypothesis]
  have sameBytes := congrArg formBytes same
  grind [encodeURIComponent, decodeUtf8_toUtf8]

theorem colon_not_mem_encodeURIComponent (text : String) : ':' ∉ encodeURIComponent text := by
  intro member
  rcases List.mem_flatMap.mp member with ⟨byte, _, printed⟩
  have bounded := byte.toNat_lt
  unfold uriByte at printed
  split at printed
  · rename_i plain
    exact (uriByte_plain byte.toFin plain).2.2.1 (List.mem_singleton.mp printed).symm
  · grind [upperHexDigit_ne_colon]

theorem accessKeyText_injective {key other : AccessKey}
    (same : accessKeyText key = accessKeyText other) : key = other := by
  have parts : ∀ texts : List String, texts ≠ [] →
      (([':'].intercalate (texts.map encodeURIComponent)).splitOn ':') =
        texts.map encodeURIComponent := by
    intro texts someText
    simp [List.splitOn_intercalate, colon_not_mem_encodeURIComponent, someText]
  have sameParts := congrArg (List.splitOn ':') same
  unfold accessKeyText at sameParts
  rw [parts _ (by simp), parts _ (by simp)] at sameParts
  rcases key with ⟨endpoint, accessKeyId, secretAccessKey, region⟩
  rcases other with ⟨endpoint', accessKeyId', secretAccessKey', region'⟩
  simp only [List.map_cons, List.map_nil, List.cons.injEq, and_true] at sameParts
  grind [encodeURIComponent_injective]

theorem buildAccessKeyHashId_injective {sha1 : String → String}
    (collisionFree : Function.Injective sha1) {key other : AccessKey}
    (same : buildAccessKeyHashId sha1 key = buildAccessKeyHashId sha1 other) : key = other :=
  accessKeyText_injective (String.ofList_injective (collisionFree same))

end Lombok.Storage
