import Lombok.Core.Values
import Lombok.Library.Base64

/-!
Contract: refresh tokens as texts.

Owns `hashedTokenHelper`: a refresh token is the id of its session and a secret
in url-safe base64 without padding. What `encode` writes for an id of the right
form and a secret that is not empty, `decodeRefreshToken` reads back.
-/

namespace Lombok.Auth

open Lombok.Core Lombok.Library Lombok.Library.Framing

/-! ### Identifiers -/

def isHexDigit (character : Char) : Bool :=
  character.isDigit || ('a' ≤ character && character ≤ 'f') || ('A' ≤ character && character ≤ 'F')

/-- `z.guid()`. -/
def isGuid (id : String) : Bool :=
  (id.toList.splitOn '-').map List.length == [8, 4, 4, 4, 12] &&
    id.toList.all fun character => character == '-' || isHexDigit character

theorem isGuid_noColon {id : String} (guid : isGuid id = true) : ':' ∉ id.toList := by
  intro member
  have characters := (Bool.and_eq_true _ _ ▸ guid).2
  have colon := List.all_eq_true.mp characters ':' member
  revert colon
  decide

theorem isGuid_ne_nil {id : String} (guid : isGuid id = true) : id.toList ≠ [] := by
  intro empty
  rw [isGuid, empty] at guid
  revert guid
  decide

/-! ### Encoding -/

/-- The two replacements of `encode`. -/
def toUrlSafe (character : Char) : Char :=
  if character = '+' then '-' else if character = '/' then '_' else character

/-- The two replacements of `decodeRefreshToken`. -/
def fromUrlSafe (character : Char) : Char :=
  if character = '-' then '+' else if character = '_' then '/' else character

/-- `replace(/=+$/, '')`. -/
def stripPadding (text : List Char) : List Char := (text.reverse.dropWhile (· == '=')).reverse

namespace HashedTokenHelper

def encode (id : String) (secret : Bytes) : String :=
  String.ofList (id.toList ++ ':' :: stripPadding ((Base64.encode secret).map toUrlSafe))

def decodeRefreshToken (refreshToken : String) : Except ApiError (String × Bytes) :=
  let parts := refreshToken.toList.splitOn ':'
  let id := parts.getD 0 []
  let secret := (parts.getD 1 []).map fromUrlSafe
  if id.isEmpty || secret.isEmpty || !isGuid (String.ofList id) then
    .error (.unauthorized "Unauthorized")
  else
    .ok (String.ofList id, Base64.decode (secret ++ Base64.padding secret.length))

/-! ### The round trip -/

theorem stripPadding_append {text pad : List Char} (noPad : '=' ∉ text)
    (onlyPad : ∀ character ∈ pad, character = '=') : stripPadding (text ++ pad) = text := by
  have padDropped : ∀ character ∈ pad.reverse, (character == '=') = true := by
    grind
  have textKept : text.reverse.dropWhile (· == '=') = text.reverse := by
    rcases reversed : text.reverse with _ | ⟨last, front⟩
    · rfl
    · grind [List.dropWhile_cons_of_neg, List.mem_reverse.mp]
  grind [stripPadding, List.dropWhile_append_of_pos]

/-- The characters of the standard alphabet without its padding. -/
def charactersOf (secret : Bytes) : List Char :=
  (Base64.sextets (secret.map UInt8.toNat)).map Base64.charOf

theorem charactersOf_standard (secret : Bytes) :
    ∀ character ∈ charactersOf secret, ∃ sextet < 64, Base64.charOf sextet = character := by
  intro character member
  obtain ⟨sextet, inside, rfl⟩ := List.mem_map.mp member
  exact ⟨sextet, Base64.sextets_lt (Base64.bytes_lt secret) sextet inside, rfl⟩

theorem urlSafe_charOf {sextet : Nat} (small : sextet < 64) :
    toUrlSafe (Base64.charOf sextet) ≠ '=' ∧ toUrlSafe (Base64.charOf sextet) ≠ ':' ∧
      fromUrlSafe (toUrlSafe (Base64.charOf sextet)) = Base64.charOf sextet := by
  have all : (List.range 64).all (fun value =>
      let character := toUrlSafe (Base64.charOf value)
      character != '=' && character != ':' &&
        fromUrlSafe character == Base64.charOf value) = true := by decide
  grind

theorem stripped_encode (secret : Bytes) :
    stripPadding ((Base64.encode secret).map toUrlSafe) = (charactersOf secret).map toUrlSafe := by
  rw [Base64.encode, List.map_append]
  apply stripPadding_append
  · intro member
    obtain ⟨character, inside, safe⟩ := List.mem_map.mp member
    obtain ⟨sextet, small, rfl⟩ := charactersOf_standard secret character inside
    exact (urlSafe_charOf small).1 safe
  · intro character member
    obtain ⟨pad, inside, rfl⟩ := List.mem_map.mp member
    rw [List.eq_of_mem_replicate inside]
    rfl

theorem charactersOf_ne_nil {secret : Bytes} (nonempty : secret ≠ []) :
    charactersOf secret ≠ [] := by
  intro empty
  have decoded := Base64.decode_characters secret [] (by simp)
  unfold charactersOf at empty
  rw [empty] at decoded
  exact nonempty decoded.symm

theorem decode_encode {id : String} (guid : isGuid id = true) {secret : Bytes}
    (nonempty : secret ≠ []) : decodeRefreshToken (encode id secret) = .ok (id, secret) := by
  have idParts : ∀ character ∈ id.toList, (character == ':') = false := by
    grind [isGuid_noColon]
  have secretParts : ∀ character ∈ (charactersOf secret).map toUrlSafe,
      (character == ':') = false := by
    grind [charactersOf_standard, urlSafe_charOf]
  have split : (encode id secret).toList.splitOn ':' =
      [id.toList, (charactersOf secret).map toUrlSafe] := by
    rw [encode, String.toList_ofList, stripped_encode]
    rw [List.splitOn_eq_splitOnP, List.splitOnP_first idParts ':' (beq_self_eq_true ':'),
      List.splitOnP_eq_singleton secretParts]
  have back : ((charactersOf secret).map toUrlSafe).map fromUrlSafe = charactersOf secret := by
    rw [List.map_map]
    calc (charactersOf secret).map (fromUrlSafe ∘ toUrlSafe)
        = (charactersOf secret).map (fun character => character) := by
          grind [List.map_congr_left, charactersOf_standard, urlSafe_charOf]
      _ = charactersOf secret := List.map_id' _
  have notEmpty := charactersOf_ne_nil nonempty
  rw [decodeRefreshToken, split]
  simp only [List.getD_cons_zero, List.getD_cons_succ, back, String.ofList_toList, guid]
  rw [if_neg (by simp [isGuid_ne_nil guid, notEmpty])]
  congr 2
  exact Base64.decode_characters secret _ fun _ member => List.eq_of_mem_replicate member

end HashedTokenHelper

end Lombok.Auth
