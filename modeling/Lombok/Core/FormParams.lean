import Lombok.Core.JsonReader

/-!
Contract: `URLSearchParams`, the list of pairs a query string stands for.

Owns the parameters of a query as they are written, reading one of them into a
name and a value, printing one, and the two round trips: a printed pair is read
back, and a printed list has the printed pairs as its parameters.

A parameter that `URLSearchParams` did not print may be printed differently.
-/

namespace Lombok.Core

/-! ### One name or value -/

/-- The bytes the URL standard leaves as they are in a form. -/
def isFormByte (byte : UInt8) : Bool :=
  (Char.ofNat byte.toNat).isAlphanum || [42, 45, 46, 95].contains byte.toNat

def upperHexDigit (value : Nat) : Char :=
  Char.ofNat (if value < 10 then 48 + value else 55 + value)

def formByte (byte : UInt8) : List Char :=
  if byte = 32 then ['+']
  else if isFormByte byte then [Char.ofNat byte.toNat]
  else ['%', upperHexDigit (byte.toNat / 16), upperHexDigit (byte.toNat % 16)]

def encodeForm (text : String) : List Char := (toUtf8 text).flatMap formByte

def hexDigitValue (digit : Char) : Option Nat :=
  if '0' ≤ digit ∧ digit ≤ '9' then some (digit.toNat - 48)
  else if 'A' ≤ digit ∧ digit ≤ 'F' then some (digit.toNat - 55)
  else if 'a' ≤ digit ∧ digit ≤ 'f' then some (digit.toNat - 87)
  else none

/-- The bytes a form text stands for: a percent sign that starts no escape is itself. -/
def formBytes : List Char → List UInt8
  | [] => []
  | character :: rest =>
      if character = '+' then 32 :: formBytes rest
      else if character = '%' then
        match rest with
        | high :: low :: tail =>
            match hexDigitValue high, hexDigitValue low with
            | some highValue, some lowValue =>
                UInt8.ofNat (highValue * 16 + lowValue) :: formBytes tail
            | _, _ => 37 :: formBytes (high :: low :: tail)
        | short => 37 :: formBytes short
      else String.utf8EncodeChar character ++ formBytes rest

def decodeForm (text : List Char) : String := decodeUtf8 (formBytes text)

theorem hexDigitValue_upperHexDigit :
    ∀ value < 16, hexDigitValue (upperHexDigit value) = some value := by
  decide

theorem formByte_plain : ∀ byte : Fin 256, isFormByte (UInt8.ofFin byte) = true →
    Char.ofNat byte.val ≠ '+' ∧ Char.ofNat byte.val ≠ '%' ∧ Char.ofNat byte.val ≠ '&' ∧
      Char.ofNat byte.val ≠ '=' ∧
      String.utf8EncodeChar (Char.ofNat byte.val) = [UInt8.ofFin byte] := by
  decide +kernel

theorem upperHexDigit_plain : ∀ value < 16,
    upperHexDigit value ≠ '&' ∧ upperHexDigit value ≠ '=' := by
  decide

theorem formBytes_cons {character : Char} (rest : List Char) (notPercent : character ≠ '%') :
    formBytes (character :: rest) =
      (if character = '+' then [32] else String.utf8EncodeChar character) ++ formBytes rest := by
  by_cases plus : character = '+'
  · rcases rest with _ | ⟨high, _ | ⟨low, tail⟩⟩ <;> simp [formBytes, plus]
  · rcases rest with _ | ⟨high, _ | ⟨low, tail⟩⟩ <;> simp [formBytes, plus, notPercent]

theorem formBytes_escape {high low : Char} {highValue lowValue : Nat} (tail : List Char)
    (highDigit : hexDigitValue high = some highValue)
    (lowDigit : hexDigitValue low = some lowValue) :
    formBytes ('%' :: high :: low :: tail) =
      UInt8.ofNat (highValue * 16 + lowValue) :: formBytes tail := by
  simp [formBytes, highDigit, lowDigit]

/-- Nothing that separates parameters, or a name from its value, is printed. -/
theorem encodeForm_plain {text : String} {character : Char}
    (member : character ∈ encodeForm text) : character ≠ '&' ∧ character ≠ '=' := by
  obtain ⟨byte, _, printed⟩ := List.mem_flatMap.mp member
  have bounded := byte.toNat_lt
  unfold formByte at printed
  split at printed
  · rw [List.mem_singleton.mp printed]
    decide
  split at printed
  · rename_i plain
    obtain ⟨_, _, notAmpersand, notEquals, _⟩ := formByte_plain byte.toFin plain
    rw [List.mem_singleton.mp printed]
    exact ⟨notAmpersand, notEquals⟩
  · rcases List.mem_cons.mp printed with same | printed
    · rw [same]
      decide
    rcases List.mem_cons.mp printed with same | printed
    · rw [same]
      exact upperHexDigit_plain _ (by omega)
    · grind [upperHexDigit_plain]

/-! ### One parameter -/

/-- The name and the value of a parameter: it is cut at its first `=`. -/
def decodePair (parameter : List Char) : String × String :=
  let name := parameter.takeWhile (· != '=')
  (decodeForm name, decodeForm (parameter.drop (name.length + 1)))

def encodePair (pair : String × String) : List Char :=
  encodeForm pair.1 ++ '=' :: encodeForm pair.2

/-- The parameter is as `URLSearchParams` prints it. -/
def IsPrinted (parameter : List Char) : Prop := encodePair (decodePair parameter) = parameter

theorem encodePair_plain {pair : String × String} {character : Char}
    (member : character ∈ encodePair pair) : character ≠ '&' := by
  rcases List.mem_append.mp member with inName | member
  · exact (encodeForm_plain inName).1
  grind [encodeForm_plain]

theorem encodePair_ne_nil (pair : String × String) : encodePair pair ≠ [] := by
  unfold encodePair
  simp

/-! ### The query -/

/-- The parameters of a query as they are written; the empty ones between `&` and `&` stand for
nothing. -/
def parameters (query : List Char) : List (List Char) :=
  (query.splitOn '&').filter fun parameter => !parameter.isEmpty

/-- `new URLSearchParams(query)`. -/
def searchParams (query : List Char) : List (String × String) := (parameters query).map decodePair

/-- `params.get(name)`. -/
def getParam (params : List (String × String)) (name : String) : Option String :=
  (params.find? fun pair => pair.1 == name).map Prod.snd

/-- `params.delete(name)`. -/
def deleteParam (params : List (String × String)) (name : String) : List (String × String) :=
  params.filter fun pair => pair.1 != name

/-- `params.toString()`. -/
def printParams (params : List (String × String)) : List Char :=
  List.intercalate ['&'] (params.map encodePair)

theorem parameters_printParams (params : List (String × String)) :
    parameters (printParams params) = params.map encodePair := by
  unfold parameters printParams
  cases params with
  | nil => rfl
  | cons pair rest =>
      rw [List.splitOn_intercalate]
      · grind [List.filter_eq_self, encodePair_ne_nil]
      · grind [encodePair_plain]
      · exact List.cons_ne_nil _ _

end Lombok.Core
