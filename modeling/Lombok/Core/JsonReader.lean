import Lombok.Core.JsonText

/-!
Contract: reading a JSON text, and the bytes a text travels as.

Owns `JSON.parse` and `json.Unmarshal` as one reader of JSON texts, the texts
of `JSON.stringify` and of Go's `json.Marshal` as one printer with two ways to
escape a character, and UTF-8. What either printer prints is read back.

Does not own rejecting malformed numbers: a run of numeral characters is kept
as it stands. A lone surrogate has no character and is not read.
-/

namespace Lombok.Core

namespace Json

/-! ### Reading -/

def isSpace (character : Char) : Bool :=
  character == ' ' || character == '\n' || character == '\r' || character == '\t'

def skipSpace (text : List Char) : List Char := text.dropWhile isSpace

def hexDigitValue (digit : Char) : Option Nat :=
  if 48 ≤ digit.toNat ∧ digit.toNat ≤ 57 then some (digit.toNat - 48)
  else if 97 ≤ digit.toNat ∧ digit.toNat ≤ 102 then some (digit.toNat - 87)
  else if 65 ≤ digit.toNat ∧ digit.toNat ≤ 70 then some (digit.toNat - 55)
  else none

/-- The four digits of a `\u` escape. -/
def readUnit : List Char → Option (Nat × List Char)
  | d3 :: d2 :: d1 :: d0 :: rest => do
      let v3 ← hexDigitValue d3
      let v2 ← hexDigitValue d2
      let v1 ← hexDigitValue d1
      let v0 ← hexDigitValue d0
      some (v3 * 4096 + v2 * 256 + v1 * 16 + v0, rest)
  | _ => none

def readLowSurrogate (high : Nat) : List Char → Option (Char × List Char)
  | '\\' :: 'u' :: text => do
      let (low, rest) ← readUnit text
      if 0xDC00 ≤ low ∧ low < 0xE000 then
        some (Char.ofNat (0x10000 + (high - 0xD800) * 1024 + (low - 0xDC00)), rest)
      else none
  | _ => none

/-- What follows a backslash. -/
def readEscape : List Char → Option (Char × List Char)
  | 'n' :: rest => some ('\n', rest)
  | 'r' :: rest => some ('\r', rest)
  | 't' :: rest => some ('\t', rest)
  | 'b' :: rest => some (Char.ofNat 8, rest)
  | 'f' :: rest => some (Char.ofNat 12, rest)
  | '"' :: rest => some ('"', rest)
  | '\\' :: rest => some ('\\', rest)
  | '/' :: rest => some ('/', rest)
  | 'u' :: text => do
      let (unit, rest) ← readUnit text
      if unit < 0xD800 ∨ 0xE000 ≤ unit then some (Char.ofNat unit, rest)
      else if unit < 0xDC00 then readLowSurrogate unit rest
      else none
  | _ => none

def readCharacter : List Char → Option (Char × List Char)
  | [] => none
  | character :: rest =>
      if character = '\\' then readEscape rest
      else if character.toNat < 32 then none
      else some (character, rest)

/-- A string literal after its opening quote. -/
def readLiteral : Nat → List Char → Option (List Char × List Char)
  | 0, _ => none
  | fuel + 1, text =>
      if text.head? = some '"' then some ([], text.tail)
      else do
        let (character, following) ← readCharacter text
        let (characters, rest) ← readLiteral fuel following
        some (character :: characters, rest)

/-- One of the three words. -/
def readWord (text : List Char) : Option (Json × List Char) :=
  if "null".toList.isPrefixOf text then some (.null, text.drop 4)
  else if "true".toList.isPrefixOf text then some (.bool true, text.drop 4)
  else if "false".toList.isPrefixOf text then some (.bool false, text.drop 5)
  else none

mutual

def readValue : Nat → List Char → Option (Json × List Char)
  | 0, _ => none
  | fuel + 1, text =>
      match skipSpace text with
      | [] => none
      | first :: rest =>
          if first = '"' then
            (readLiteral fuel rest).map fun read => (.str (String.ofList read.1), read.2)
          else if first = '[' then
            if (skipSpace rest).head? = some ']' then some (.arr [], (skipSpace rest).tail)
            else (readItems fuel rest).map fun read => (.arr read.1, read.2)
          else if first = '{' then
            if (skipSpace rest).head? = some '}' then some (.obj [], (skipSpace rest).tail)
            else (readFields fuel rest).map fun read => (.obj read.1, read.2)
          else if isNumeralChar first then
            some (.num (String.ofList ((first :: rest).takeWhile isNumeralChar)),
              (first :: rest).dropWhile isNumeralChar)
          else readWord (first :: rest)

/-- The items of an array after its bracket, up to and with the closing one. -/
def readItems : Nat → List Char → Option (List Json × List Char)
  | 0, _ => none
  | fuel + 1, text => do
      let (item, following) ← readValue fuel text
      match skipSpace following with
      | ']' :: rest => some ([item], rest)
      | ',' :: tail => do
          let (items, rest) ← readItems fuel tail
          some (item :: items, rest)
      | _ => none

/-- The properties of an object after its brace, up to and with the closing one. -/
def readFields : Nat → List Char → Option (List (String × Json) × List Char)
  | 0, _ => none
  | fuel + 1, text =>
      match skipSpace text with
      | '"' :: literal => do
          let (name, afterName) ← readLiteral fuel literal
          match skipSpace afterName with
          | ':' :: valueText => do
              let (value, following) ← readValue fuel valueText
              match skipSpace following with
              | '}' :: rest => some ([(String.ofList name, value)], rest)
              | ',' :: tail => do
                  let (fields, rest) ← readFields fuel tail
                  some ((String.ofList name, value) :: fields, rest)
              | _ => none
          | _ => none
      | _ => none

end

/-- `JSON.parse` of the texts a JSON printer prints. -/
def parse (text : String) : Option Json :=
  match readValue (text.toList.length + 1) text.toList with
  | some (value, rest) => if (skipSpace rest).isEmpty then some value else none
  | none => none

/-! ### Printing with an escape -/

section Printing

variable (escape : Char → List Char)

def quoteWith (text : String) : List Char :=
  '"' :: (text.toList.flatMap escape ++ ['"'])

mutual

def renderWith : Json → List Char
  | .null => "null".toList
  | .bool true => "true".toList
  | .bool false => "false".toList
  | .num literal => literal.toList
  | .str value => quoteWith escape value
  | .arr items => '[' :: (renderItemsWith items ++ [']'])
  | .obj fields => '{' :: (renderFieldsWith fields ++ ['}'])

def renderItemsWith : List Json → List Char
  | [] => []
  | [item] => renderWith item
  | item :: next :: rest => renderWith item ++ ',' :: renderItemsWith (next :: rest)

def renderFieldsWith : List (String × Json) → List Char
  | [] => []
  | [(name, value)] => quoteWith escape name ++ ':' :: renderWith value
  | (name, value) :: next :: rest =>
      quoteWith escape name ++ ':' :: (renderWith value ++ ',' :: renderFieldsWith (next :: rest))

end

end Printing

mutual

theorem render_eq_renderWith : ∀ value : Json, render value = renderWith escapeChar value
  | .null | .bool true | .bool false | .num _ | .str _ => by
      rw [render, renderWith] <;> rfl
  | .arr items => by
      rw [render, renderWith, renderItems_eq_renderItemsWith items]
  | .obj fields => by
      rw [render, renderWith, renderFields_eq_renderFieldsWith fields]

theorem renderItems_eq_renderItemsWith : ∀ items : List Json,
    renderItems items = renderItemsWith escapeChar items
  | [] => rfl
  | [item] => by
      rw [renderItems, renderItemsWith, render_eq_renderWith item]
  | item :: next :: rest => by
      rw [renderItems, renderItemsWith, render_eq_renderWith item,
        renderItems_eq_renderItemsWith (next :: rest)]

theorem renderFields_eq_renderFieldsWith : ∀ fields : List (String × Json),
    renderFields fields = renderFieldsWith escapeChar fields
  | [] => rfl
  | [(name, value)] => by
      rw [renderFields, renderFieldsWith, render_eq_renderWith value]
      rfl
  | (name, value) :: next :: rest => by
      rw [renderFields, renderFieldsWith, render_eq_renderWith value,
        renderFields_eq_renderFieldsWith (next :: rest)]
      rfl

end

/-- The escape sequence Go's `json.Marshal` prints for a character. -/
def escapeGo (character : Char) : List Char :=
  if character = '"' then ['\\', '"']
  else if character = '\\' then ['\\', '\\']
  else if character = '\n' then ['\\', 'n']
  else if character = '\r' then ['\\', 'r']
  else if character = '\t' then ['\\', 't']
  else if character = Char.ofNat 8 then ['\\', 'b']
  else if character = Char.ofNat 12 then ['\\', 'f']
  else if character.toNat < 32 ∨ character = '<' ∨ character = '>' ∨ character = '&' then
    ['\\', 'u', '0', '0', hexDigit (character.toNat / 16), hexDigit (character.toNat % 16)]
  else if character = Char.ofNat 0x2028 then ['\\', 'u', '2', '0', '2', '8']
  else if character = Char.ofNat 0x2029 then ['\\', 'u', '2', '0', '2', '9']
  else [character]

/-- `json.Marshal`. -/
def marshal (value : Json) : String := String.ofList (renderWith escapeGo value)

/-! ### Escapes are read back -/

/-- Each escaped character is read back, and never looks like the closing quote. -/
def Readable (escape : Char → List Char) : Prop :=
  ∀ (character : Char) (rest : List Char),
    readCharacter (escape character ++ rest) = some (character, rest) ∧
      (escape character ++ rest).head? ≠ some '"'

theorem hexDigitValue_hexDigit : ∀ value < 16, hexDigitValue (hexDigit value) = some value := by
  decide

theorem readCharacter_unit {d3 d2 d1 d0 : Char} {v3 v2 v1 v0 : Nat}
    (h3 : hexDigitValue d3 = some v3) (h2 : hexDigitValue d2 = some v2)
    (h1 : hexDigitValue d1 = some v1) (h0 : hexDigitValue d0 = some v0)
    (plain : v3 * 4096 + v2 * 256 + v1 * 16 + v0 < 0xD800) (rest : List Char) :
    readCharacter (['\\', 'u', d3, d2, d1, d0] ++ rest) =
      some (Char.ofNat (v3 * 4096 + v2 * 256 + v1 * 16 + v0), rest) := by
  simp only [List.cons_append, List.nil_append, readCharacter, readEscape, readUnit, h3, h2, h1,
    h0, ↓reduceIte, bind, Option.bind]
  rw [if_pos (Or.inl plain)]

theorem readCharacter_shortUnit {value : Nat} (small : value < 128) (rest : List Char) :
    readCharacter
        (['\\', 'u', '0', '0', hexDigit (value / 16), hexDigit (value % 16)] ++ rest) =
      some (Char.ofNat value, rest) := by
  have high := hexDigitValue_hexDigit (value / 16) (by omega)
  have low := hexDigitValue_hexDigit (value % 16) (by omega)
  have whole : 0 * 4096 + 0 * 256 + value / 16 * 16 + value % 16 = value := by omega
  have read := @readCharacter_unit '0' '0' _ _ 0 0 _ _ rfl rfl high low (by omega) rest
  rw [whole] at read
  exact read

theorem readCharacter_plain {character : Char} (notBackslash : character ≠ '\\')
    (printable : ¬character.toNat < 32) (rest : List Char) :
    readCharacter ([character] ++ rest) = some (character, rest) := by
  rw [List.singleton_append, readCharacter, if_neg notBackslash, if_neg printable]

theorem readable_escapeGo : Readable escapeGo := by
  intro character rest
  unfold escapeGo
  split
  · rename_i same
    subst same
    exact ⟨rfl, by simp⟩
  split
  · rename_i same
    subst same
    exact ⟨rfl, by simp⟩
  split
  · rename_i same
    subst same
    exact ⟨rfl, by simp⟩
  split
  · rename_i same
    subst same
    exact ⟨rfl, by simp⟩
  split
  · rename_i same
    subst same
    exact ⟨rfl, by simp⟩
  split
  · rename_i same
    subst same
    exact ⟨rfl, by simp⟩
  split
  · rename_i same
    subst same
    exact ⟨rfl, by simp⟩
  split
  · rename_i short
    have small : character.toNat < 128 := by
      rcases short with control | rfl | rfl | rfl
      · omega
      · decide
      · decide
      · decide
    grind [readCharacter_shortUnit, Char.ofNat_toNat]
  split
  · rename_i same
    subst same
    exact ⟨@readCharacter_unit '2' '0' '2' '8' 2 0 2 8 rfl rfl rfl rfl (by omega) rest, by simp⟩
  split
  · rename_i same
    subst same
    exact ⟨@readCharacter_unit '2' '0' '2' '9' 2 0 2 9 rfl rfl rfl rfl (by omega) rest, by simp⟩
  · rename_i notQuote notBackslash _ _ _ _ _ notShort _ _
    apply And.intro (readCharacter_plain notBackslash (fun control => notShort (.inl control)) rest)
    simpa using notQuote

theorem readable_escapeChar : Readable escapeChar := by
  intro character rest
  unfold escapeChar
  split
  · rename_i same
    subst same
    exact ⟨rfl, by simp⟩
  split
  · rename_i same
    subst same
    exact ⟨rfl, by simp⟩
  split
  · rename_i same
    subst same
    exact ⟨rfl, by simp⟩
  split
  · rename_i same
    subst same
    exact ⟨rfl, by simp⟩
  split
  · rename_i same
    subst same
    exact ⟨rfl, by simp⟩
  split
  · rename_i same
    subst same
    exact ⟨rfl, by simp⟩
  split
  · rename_i same
    subst same
    exact ⟨rfl, by simp⟩
  split
  · grind [readCharacter_shortUnit, Char.ofNat_toNat]
  · rename_i notQuote notBackslash _ _ _ _ _ notControl
    apply And.intro (readCharacter_plain notBackslash notControl rest)
    simpa using notQuote

/-! ### Values are read back -/

section RoundTrip

variable {escape : Char → List Char}

theorem escape_ne_nil (readable : Readable escape) (character : Char) :
    escape character ≠ [] := by
  intro empty
  have read := (readable character []).1
  rw [empty] at read
  cases read

theorem length_le_flatMap_escape (readable : Readable escape) (text : List Char) :
    text.length ≤ (text.flatMap escape).length := by
  induction text with
  | nil => exact Nat.le_refl _
  | cons character tail inductionHypothesis =>
      have positive := List.length_pos_iff.mpr (escape_ne_nil readable character)
      grind

theorem readLiteral_escape (readable : Readable escape) (text rest : List Char) :
    ∀ fuel, text.length < fuel →
      readLiteral fuel (text.flatMap escape ++ '"' :: rest) = some (text, rest) := by
  induction text with
  | nil =>
      intro fuel enough
      obtain ⟨smaller, rfl⟩ : ∃ smaller, fuel = smaller + 1 := ⟨fuel - 1, by omega⟩
      rfl
  | cons character tail inductionHypothesis =>
      intro fuel enough
      rw [List.length_cons] at enough
      obtain ⟨smaller, rfl⟩ : ∃ smaller, fuel = smaller + 1 := ⟨fuel - 1, by omega⟩
      have front := readable character (tail.flatMap escape ++ '"' :: rest)
      grind [readLiteral]

theorem readLiteral_quoteWith (readable : Readable escape) (text : String) (rest : List Char)
    {fuel : Nat} (enough : (quoteWith escape text).length ≤ fuel + 1) :
    readLiteral fuel (text.toList.flatMap escape ++ '"' :: rest) = some (text.toList, rest) := by
  grind [length_le_flatMap_escape, quoteWith, readLiteral_escape]

theorem skipSpace_of_head {character : Char} (notSpace : isSpace character = false)
    (rest : List Char) : skipSpace (character :: rest) = character :: rest := by
  rw [skipSpace, List.dropWhile_cons, if_neg (by rw [notSpace]; exact Bool.false_ne_true)]

theorem isNumeralChar_of_isDigit {character : Char} (digit : character.isDigit = true) :
    isNumeralChar character = true := by
  simp [isNumeralChar, digit]

theorem all_digits_plain {digits : List Char} (all : digits.all Char.isDigit = true) :
    digits.all isNumeralChar = true := by
  grind [isNumeralChar_of_isDigit]

theorem all_plain_of_rest {text : List Char}
    (rest : (text.dropWhile Char.isDigit).all isNumeralChar = true) :
    text.all isNumeralChar = true := by
  rw [← @List.takeWhile_append_dropWhile _ Char.isDigit text, List.all_append, rest, Bool.and_true]
  exact all_digits_plain List.all_takeWhile

theorem isNumeralChar_lead {character : Char} (numeral : isNumeralChar character = true) :
    isSpace character = false ∧ character ≠ '"' ∧ character ≠ '[' ∧ character ≠ '{' := by
  apply And.intro
  · rw [Bool.eq_false_iff]
    intro space
    unfold isSpace at space
    simp only [Bool.or_eq_true, beq_iff_eq] at space
    rcases space with ((rfl | rfl) | rfl) | rfl
    · cases numeral
    · cases numeral
    · cases numeral
    · cases numeral
  · refine ⟨?_, ?_, ?_⟩
    · rintro rfl
      cases numeral
    · rintro rfl
      cases numeral
    · rintro rfl
      cases numeral

theorem numeral_split {literal rest : List Char} (numeral : literal.all isNumeralChar = true)
    (delimited : Delimited rest) :
    (literal ++ rest).takeWhile isNumeralChar = literal ∧
      (literal ++ rest).dropWhile isNumeralChar = rest := by
  have restStops : rest.takeWhile isNumeralChar = [] ∧ rest.dropWhile isNumeralChar = rest := by
    cases rest with
    | nil => exact ⟨rfl, rfl⟩
    | cons character tail =>
        have delimiter := delimited character rfl
        have stops : ¬isNumeralChar character = true := by
          grind [isDelimiter_numeral]
        simp [stops]
  grind [List.takeWhile_append_of_pos, List.dropWhile_append_of_pos]

theorem readValue_num {literal : String} (plain : isPlain (.num literal) = true)
    {rest : List Char} (delimited : Delimited rest) (fuel : Nat) :
    readValue (fuel + 1) (literal.toList ++ rest) = some (.num literal, rest) := by
  rw [isPlain, Bool.and_eq_true] at plain
  cases characters : literal.toList with
  | nil =>
      rw [characters] at plain
      cases plain.1
  | cons first others =>
      rw [characters] at plain
      have numeral : isNumeralChar first = true := by
        grind
      obtain ⟨notSpace, notQuote, notBracket, notBrace⟩ := isNumeralChar_lead numeral
      obtain ⟨taken, dropped⟩ := numeral_split plain.2 delimited
      rw [List.cons_append] at taken dropped ⊢
      rw [readValue, skipSpace_of_head notSpace]
      dsimp only
      rw [if_neg notQuote, if_neg notBracket, if_neg notBrace, if_pos numeral, taken, dropped,
        ← characters, String.ofList_toList]

/-- The first character of a printed value is no space and closes nothing. -/
theorem renderWith_head (value : Json) (plain : isPlain value = true) (rest : List Char) :
    ∃ first tail, renderWith escape value ++ rest = first :: tail ∧ isSpace first = false ∧
      first ≠ ']' := by
  cases value with
  | null => exact ⟨'n', _, rfl, rfl, by decide⟩
  | bool truth =>
      cases truth
      · exact ⟨'f', _, rfl, rfl, by decide⟩
      · exact ⟨'t', _, rfl, rfl, by decide⟩
  | num literal =>
      rw [isPlain, Bool.and_eq_true] at plain
      rw [renderWith]
      cases characters : literal.toList with
      | nil =>
          rw [characters] at plain
          cases plain.1
      | cons first others =>
          rw [characters, List.all_cons, Bool.and_eq_true] at plain
          have numeral := plain.2.1
          refine ⟨first, others ++ rest, rfl, (isNumeralChar_lead numeral).1, ?_⟩
          rintro rfl
          cases numeral
  | str text => exact ⟨'"', _, rfl, rfl, by decide⟩
  | arr items => exact ⟨'[', _, rfl, rfl, by decide⟩
  | obj fields => exact ⟨'{', _, rfl, rfl, by decide⟩

theorem renderItemsWith_head (item : Json) (items : List Json) (plain : isPlain item = true)
    (rest : List Char) :
    ∃ first tail, renderItemsWith escape (item :: items) ++ rest = first :: tail ∧
      isSpace first = false ∧ first ≠ ']' := by
  cases items with
  | nil => exact renderWith_head item plain rest
  | cons next items =>
      rw [renderItemsWith, List.append_assoc]
      exact renderWith_head item plain _

mutual

theorem readValue_renderWith (readable : Readable escape) : ∀ (value : Json) (rest : List Char)
    (fuel : Nat), isPlain value = true → Delimited rest →
      (renderWith escape value).length ≤ fuel →
      readValue fuel (renderWith escape value ++ rest) = some (value, rest)
  | value, rest, 0, plain, _, enough => by
      obtain ⟨first, tail, head, _, _⟩ := @renderWith_head escape value plain []
      grind
  | .null, rest, fuel + 1, _, _, _ => rfl
  | .bool true, rest, fuel + 1, _, _, _ => rfl
  | .bool false, rest, fuel + 1, _, _, _ => rfl
  | .num literal, rest, fuel + 1, plain, delimited, _ => readValue_num plain delimited fuel
  | .str text, rest, fuel + 1, _, _, enough => by
      rw [renderWith] at enough
      have literal := readLiteral_quoteWith readable text rest enough
      rw [renderWith, quoteWith, List.cons_append, List.append_assoc, List.singleton_append,
        readValue, skipSpace_of_head rfl]
      simp [literal]
  | .arr [], rest, fuel + 1, _, _, _ => rfl
  | .arr (item :: items), rest, fuel + 1, plain, _, enough => by
      rw [renderWith, List.length_cons, List.length_append, List.length_singleton] at enough
      rw [isPlain] at plain
      have itemPlain := plain
      rw [isPlainItems, Bool.and_eq_true] at itemPlain
      obtain ⟨first, tail, head, notSpace, notClose⟩ :=
        @renderItemsWith_head escape item items itemPlain.1 (']' :: rest)
      have read := readItems_renderItemsWith readable item items rest fuel plain (by omega)
      rw [renderWith, List.cons_append, List.append_assoc, List.singleton_append, readValue,
        skipSpace_of_head rfl]
      dsimp only
      rw [if_neg (by decide), if_pos rfl]
      rw [head, skipSpace_of_head notSpace, List.head?_cons,
        if_neg (fun close => notClose (Option.some.inj close)), ← head, read, Option.map_some]
  | .obj [], rest, fuel + 1, _, _, _ => rfl
  | .obj ((name, value) :: fields), rest, fuel + 1, plain, _, enough => by
      rw [renderWith, List.length_cons, List.length_append, List.length_singleton] at enough
      rw [isPlain] at plain
      have read := readFields_renderFieldsWith readable (name, value) fields rest fuel plain
        (by omega)
      obtain ⟨tail, head⟩ : ∃ tail,
          renderFieldsWith escape ((name, value) :: fields) ++ '}' :: rest = '"' :: tail := by
        cases fields with
        | nil => exact ⟨_, rfl⟩
        | cons next fields => exact ⟨_, rfl⟩
      rw [renderWith, List.cons_append, List.append_assoc, List.singleton_append, readValue,
        skipSpace_of_head rfl]
      dsimp only
      rw [if_neg (by decide), if_neg (by decide), if_pos rfl]
      rw [head, skipSpace_of_head rfl, List.head?_cons, if_neg (by decide), ← head, read,
        Option.map_some]

theorem readItems_renderItemsWith (readable : Readable escape) : ∀ (item : Json)
    (items : List Json) (rest : List Char) (fuel : Nat), isPlainItems (item :: items) = true →
      (renderItemsWith escape (item :: items)).length + 1 ≤ fuel →
        readItems fuel (renderItemsWith escape (item :: items) ++ ']' :: rest) =
          some (item :: items, rest)
  | item, [], rest, fuel + 1, plain, enough => by
      rw [renderItemsWith] at enough
      rw [isPlainItems, Bool.and_eq_true] at plain
      have read := readValue_renderWith readable item (']' :: rest) fuel plain.1
        (delimited_cons rfl rest) (by omega)
      rw [renderItemsWith, readItems, read]
      rfl
  | item, next :: items, rest, fuel + 1, plain, enough => by
      rw [renderItemsWith, List.length_append, List.length_cons] at enough
      rw [isPlainItems, Bool.and_eq_true] at plain
      have read := readValue_renderWith readable item
        (',' :: (renderItemsWith escape (next :: items) ++ ']' :: rest)) fuel plain.1
            (delimited_cons rfl _) (by omega)
      have tailRead := readItems_renderItemsWith readable next items rest fuel plain.2 (by omega)
      rw [renderItemsWith, List.append_assoc, List.cons_append, readItems, read]
      simp only [bind, Option.bind]
      rw [skipSpace_of_head rfl]
      simp only [tailRead]

theorem readFields_renderFieldsWith (readable : Readable escape) : ∀ (field : String × Json)
    (fields : List (String × Json)) (rest : List Char) (fuel : Nat),
      isPlainFields (field :: fields) = true →
      (renderFieldsWith escape (field :: fields)).length + 1 ≤ fuel →
        readFields fuel (renderFieldsWith escape (field :: fields) ++ '}' :: rest) =
          some (field :: fields, rest)
  | (name, value), [], rest, fuel + 1, plain, enough => by
      rw [renderFieldsWith, List.length_append, List.length_cons] at enough
      rw [isPlainFields, Bool.and_eq_true] at plain
      have literal := readLiteral_quoteWith readable name
        (':' :: (renderWith escape value ++ '}' :: rest)) (by omega : _ ≤ fuel + 1)
      have read := readValue_renderWith readable value ('}' :: rest) fuel plain.1
        (delimited_cons rfl rest) (by omega)
      rw [renderFieldsWith, List.append_assoc, List.cons_append, quoteWith, List.cons_append,
        List.append_assoc, List.singleton_append, readFields, skipSpace_of_head rfl]
      simp only [literal, bind, Option.bind]
      rw [skipSpace_of_head rfl]
      simp only [read]
      rw [skipSpace_of_head rfl, String.ofList_toList]
      rfl
  | (name, value), next :: fields, rest, fuel + 1, plain, enough => by
      rw [renderFieldsWith, List.length_append, List.length_cons, List.length_append,
        List.length_cons] at enough
      rw [isPlainFields, Bool.and_eq_true] at plain
      have literal := readLiteral_quoteWith readable name
        (':' :: (renderWith escape value ++ ',' :: (renderFieldsWith escape (next :: fields) ++
          '}' :: rest))) (by omega : _ ≤ fuel + 1)
      have read := readValue_renderWith readable value
        (',' :: (renderFieldsWith escape (next :: fields) ++ '}' :: rest)) fuel plain.1
            (delimited_cons rfl _) (by omega)
      have tailRead := readFields_renderFieldsWith readable next fields rest fuel plain.2 (by omega)
      rw [renderFieldsWith, List.append_assoc, List.cons_append, List.append_assoc,
        List.cons_append, quoteWith, List.cons_append, List.append_assoc, List.singleton_append,
        readFields, skipSpace_of_head rfl]
      simp only [literal, bind, Option.bind]
      rw [skipSpace_of_head rfl]
      simp only [read]
      rw [skipSpace_of_head rfl, String.ofList_toList]
      simp only [tailRead]

end

theorem parse_renderWith (readable : Readable escape) {value : Json}
    (plain : isPlain value = true) :
    parse (String.ofList (renderWith escape value)) = some value := by
  have read := readValue_renderWith readable value []
    ((renderWith escape value).length + 1) plain delimited_nil (Nat.le_succ _)
  rw [List.append_nil] at read
  rw [parse, String.toList_ofList, read]
  rfl

end RoundTrip

/-- `JSON.parse` reads what `JSON.stringify` prints. -/
theorem parse_stringify {value : Json} (plain : isPlain value = true) :
    parse (stringify value) = some value := by
  rw [stringify, render_eq_renderWith]
  exact parse_renderWith readable_escapeChar plain

/-- `JSON.parse` reads what `json.Marshal` prints. -/
theorem parse_marshal {value : Json} (plain : isPlain value = true) :
    parse (marshal value) = some value :=
  parse_renderWith readable_escapeGo plain

end Json

/-! ### UTF-8 -/

/-- `Buffer.from(text)`, and the bytes of a Go string. -/
def toUtf8 (text : String) : List UInt8 := text.toUTF8.data.toList

/-- `buffer.toString('utf8')` of valid UTF-8. -/
def ofUtf8 (bytes : List UInt8) : Option String :=
  (ByteArray.mk bytes.toArray).utf8Decode?.map fun characters => String.ofList characters.toList

theorem ofUtf8_toUtf8 (text : String) : ofUtf8 (toUtf8 text) = some text := by
  unfold ofUtf8 toUtf8
  show Option.map _ (text.toByteArray.utf8Decode?) = _
  rw [← String.utf8Encode_toList, List.utf8Decode?_utf8Encode, Option.map_some]
  simp

theorem toUtf8_eq (text : String) : toUtf8 text = text.toList.flatMap String.utf8EncodeChar := by
  rw [toUtf8, String.toUTF8_eq_toByteArray, ← String.utf8Encode_toList, List.utf8Encode]
  simp

/-- Where the bytes are no character, `extra` says how many more than the first are replaced
with it. -/
def repairCharsWith (extra : List UInt8 → Nat) : Nat → List UInt8 → List Char
  | 0, _ => []
  | _ + 1, [] => []
  | fuel + 1, byte :: rest =>
      match (byte :: rest).toByteArray.utf8DecodeChar? 0 with
      | some character =>
          character :: repairCharsWith extra fuel ((byte :: rest).drop character.utf8Size)
      | none =>
          Char.ofNat 0xFFFD :: repairCharsWith extra fuel (rest.drop (extra (byte :: rest)))

/-- A string of bytes as Go prints it in JSON: every byte that is not UTF-8 becomes U+FFFD. -/
def repairUtf8 (bytes : List UInt8) : String :=
  String.ofList (repairCharsWith (fun _ => 0) bytes.length bytes)

def isContinuation (low high : Nat) (byte : UInt8) : Bool := low ≤ byte.toNat && byte.toNat ≤ high

/-- The bytes after the first that a character could have started with. -/
def truncatedTail : List UInt8 → Nat
  | first :: second :: rest =>
      let lead := first.toNat
      let low := if lead = 0xE0 then 0xA0 else if lead = 0xF0 then 0x90 else 0x80
      let high := if lead = 0xED then 0x9F else if lead = 0xF4 then 0x8F else 0xBF
      if 0xE0 ≤ lead && lead ≤ 0xF4 && isContinuation low high second then
        match rest with
        | third :: _ => if 0xF0 ≤ lead && isContinuation 0x80 0xBF third then 2 else 1
        | [] => 1
      else 0
  | _ => 0

/-- `TextDecoder`: the longest start of a character that is cut off becomes one U+FFFD. -/
def decodeUtf8 (bytes : List UInt8) : String :=
  String.ofList (repairCharsWith truncatedTail bytes.length bytes)

theorem repairCharsWith_encoded (extra : List UInt8 → Nat) (text : List Char) :
    ∀ fuel, (text.flatMap String.utf8EncodeChar).length ≤ fuel →
      repairCharsWith extra fuel (text.flatMap String.utf8EncodeChar) = text := by
  induction text with
  | nil =>
      intro fuel _
      cases fuel with
      | zero => rfl
      | succ fuel => rfl
  | cons character tail inductionHypothesis =>
      intro fuel enough
      have size := String.length_utf8EncodeChar character
      have positive := character.utf8Size_pos
      rw [List.flatMap_cons, List.length_append, size] at enough
      obtain ⟨smaller, rfl⟩ : ∃ smaller, fuel = smaller + 1 := ⟨fuel - 1, by omega⟩
      have first :
          ((character :: tail).flatMap String.utf8EncodeChar).toByteArray.utf8DecodeChar? 0 =
            some character := by
        rw [List.flatMap_cons, List.toByteArray_append]
        exact ByteArray.utf8DecodeChar?_utf8EncodeChar_append
      have rest : ((character :: tail).flatMap String.utf8EncodeChar).drop character.utf8Size =
          tail.flatMap String.utf8EncodeChar := by
        rw [List.flatMap_cons, ← size, List.drop_left]
      cases bytes : (character :: tail).flatMap String.utf8EncodeChar with
      | nil =>
          grind
      | cons byte others =>
          grind [repairCharsWith]

theorem repairUtf8_toUtf8 (text : String) : repairUtf8 (toUtf8 text) = text := by
  rw [repairUtf8, toUtf8_eq, repairCharsWith_encoded _ _ _ (Nat.le_refl _), String.ofList_toList]

theorem decodeUtf8_toUtf8 (text : String) : decodeUtf8 (toUtf8 text) = text := by
  rw [decodeUtf8, toUtf8_eq, repairCharsWith_encoded _ _ _ (Nat.le_refl _), String.ofList_toList]

end Lombok.Core
