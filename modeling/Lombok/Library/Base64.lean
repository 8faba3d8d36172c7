import Mathlib.Data.List.Basic
import Lombok.Library.Framing

/-!
Contract: base64 text.

Owns the alphabet, the grouping of bytes into numbers of six bits, the padded
text and its lenient reading, which takes both alphabets, passes over other
characters and stops at the padding. What was written is read back.
-/

namespace Lombok.Library.Base64

open Lombok.Library.Framing

/-! ### Groups of six bits -/

def sextets : List Nat → List Nat
  | first :: second :: third :: rest =>
      first / 4 :: (first % 4 * 16 + second / 16) :: (second % 16 * 4 + third / 64) ::
        third % 64 :: sextets rest
  | [first, second] => [first / 4, first % 4 * 16 + second / 16, second % 16 * 4]
  | [first] => [first / 4, first % 4 * 16]
  | [] => []

/-- The whole bytes of a list of sextets; the bits that are left over are dropped. -/
def octets : List Nat → List Nat
  | first :: second :: third :: fourth :: rest =>
      (first * 4 + second / 16) :: (second % 16 * 16 + third / 4) :: (third % 4 * 64 + fourth) ::
        octets rest
  | [first, second, third] => [first * 4 + second / 16, second % 16 * 16 + third / 4]
  | [first, second] => [first * 4 + second / 16]
  | [_] => []
  | [] => []

theorem sextets_lt {bytes : List Nat} (small : ∀ byte ∈ bytes, byte < 256) :
    ∀ sextet ∈ sextets bytes, sextet < 64 := by
  induction bytes using sextets.induct with
  | case1 first second third rest inductionHypothesis =>
      have firstSmall := small first (by simp)
      have secondSmall := small second (by simp)
      have thirdSmall := small third (by simp)
      have restSmall := inductionHypothesis fun byte member => small byte (by simp [member])
      intro sextet member
      simp only [sextets, List.mem_cons] at member
      rcases member with rfl | rfl | rfl | rfl | later
      · omega
      · omega
      · omega
      · omega
      · exact restSmall sextet later
  | case2 first second =>
      have firstSmall := small first (by simp)
      have secondSmall := small second (by simp)
      intro sextet member
      grind [sextets]
  | case3 first =>
      have firstSmall := small first (by simp)
      intro sextet member
      grind [sextets]
  | case4 =>
      nofun

theorem octets_sextets {bytes : List Nat} (small : ∀ byte ∈ bytes, byte < 256) :
    octets (sextets bytes) = bytes := by
  induction bytes using sextets.induct with
  | case1 first second third rest inductionHypothesis =>
      have secondSmall := small second (by simp)
      have thirdSmall := small third (by simp)
      have restEqual := inductionHypothesis fun byte member => small byte (by simp [member])
      grind [sextets, octets]
  | case2 first second =>
      have secondSmall := small second (by simp)
      simp only [sextets, octets, List.cons.injEq, and_true]
      omega
  | case3 first =>
      grind [sextets, octets]
  | case4 => rfl

/-! ### The alphabet -/

def alphabet : List Char :=
  "ABCDEFGHIJKLMNOPQRSTUVWXYZabcdefghijklmnopqrstuvwxyz0123456789+/".toList

def charOf (sextet : Nat) : Char := alphabet.getD sextet 'A'

/-- The value of a character of either alphabet. -/
def sextetOf (character : Char) : Option Nat :=
  if character = '-' then some 62
  else if character = '_' then some 63
  else alphabet.findIdx? (· == character)

theorem sextetOf_charOf {sextet : Nat} (small : sextet < 64) :
    sextetOf (charOf sextet) = some sextet := by
  have all : (List.range 64).all (fun value => sextetOf (charOf value) == some value) = true := by
    decide
  exact beq_iff_eq.mp (List.all_eq_true.mp all sextet (List.mem_range.mpr small))

theorem charOf_ne_pad {sextet : Nat} (small : sextet < 64) : charOf sextet ≠ '=' := by
  have all : (List.range 64).all (fun value => charOf value != '=') = true := by decide
  exact bne_iff_ne.mp (List.all_eq_true.mp all sextet (List.mem_range.mpr small))

/-! ### Texts -/

/-- The padding that fills the last group of four. -/
def padding (length : Nat) : List Char := List.replicate ((4 - length % 4) % 4) '='

/-- `toString('base64')`. -/
def encode (bytes : Bytes) : List Char :=
  let characters := (sextets (bytes.map UInt8.toNat)).map charOf
  characters ++ padding characters.length

/-- `Buffer.from(text, 'base64')`. -/
def decode (text : List Char) : Bytes :=
  (octets ((text.takeWhile (· != '=')).filterMap sextetOf)).map UInt8.ofNat

theorem bytes_lt (bytes : Bytes) : ∀ byte ∈ bytes.map UInt8.toNat, byte < 256 := by
  intro byte member
  obtain ⟨value, _, rfl⟩ := List.mem_map.mp member
  exact value.toNat_lt

/-- The characters in front of the padding stand for the sextets of the bytes. -/
theorem decode_characters (bytes : Bytes) (pad : List Char) (onlyPad : ∀ c ∈ pad, c = '=') :
    decode ((sextets (bytes.map UInt8.toNat)).map charOf ++ pad) = bytes := by
  have small := sextets_lt (bytes_lt bytes)
  have kept : ((sextets (bytes.map UInt8.toNat)).map charOf ++ pad).takeWhile (· != '=') =
      (sextets (bytes.map UInt8.toNat)).map charOf := by
    rw [List.takeWhile_append_of_pos]
    · have none : pad.takeWhile (· != '=') = [] := by
        cases pad with
        | nil => rfl
        | cons head tail =>
            rw [onlyPad head (List.mem_cons_self ..)]
            rfl
      rw [none, List.append_nil]
    · intro character member
      obtain ⟨sextet, inside, rfl⟩ := List.mem_map.mp member
      exact bne_iff_ne.mpr (charOf_ne_pad (small sextet inside))
  have read : ((sextets (bytes.map UInt8.toNat)).map charOf).filterMap sextetOf =
      sextets (bytes.map UInt8.toNat) := by
    rw [List.filterMap_map]
    have each : ∀ sextet ∈ sextets (bytes.map UInt8.toNat),
        (sextetOf ∘ charOf) sextet = some sextet := fun sextet inside =>
      sextetOf_charOf (small sextet inside)
    rw [List.filterMap_congr each, List.filterMap_some]
  rw [decode, kept, read, octets_sextets (bytes_lt bytes), List.map_map]
  have back : UInt8.ofNat ∘ UInt8.toNat = id := by
    funext byte
    exact UInt8.ofNat_toNat
  rw [back, List.map_id]

theorem decode_encode (bytes : Bytes) : decode (encode bytes) = bytes :=
  decode_characters bytes _ fun _ member => List.eq_of_mem_replicate member

end Lombok.Library.Base64
