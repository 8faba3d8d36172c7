import Lombok.Core.Values

/-!
Contract: the text of a JSON value determines the value.

`JSON.stringify` is injective on values whose numbers are numerals. The proof
reads a text from the front: a value, an item list and a field list each end
where a delimiter says so, so equal texts with anything behind them have equal
values in front.

Does not own: parsing, or texts that `JSON.stringify` does not print.
-/

namespace Lombok.Core

namespace Json

/-- The characters that a number is written with. -/
def isNumeralChar (character : Char) : Bool :=
  character.isDigit || character == '-' || character == '+' || character == '.' ||
    character == 'e' || character == 'E'

mutual

/-- Numbers are printed as numerals. -/
def isPlain : Json → Bool
  | .num literal => !literal.toList.isEmpty && literal.toList.all isNumeralChar
  | .arr items => isPlainItems items
  | .obj fields => isPlainFields fields
  | _ => true

def isPlainItems : List Json → Bool
  | [] => true
  | item :: rest => isPlain item && isPlainItems rest

def isPlainFields : List (String × Json) → Bool
  | [] => true
  | (_, value) :: rest => isPlain value && isPlainFields rest

end

theorem isPlain_ofNat (value : Nat) : (ofNat value).isPlain = true := by
  rw [ofNat, isPlain, Nat.toString_eq_repr, Nat.toList_repr, Bool.and_eq_true]
  constructor
  · simp [Nat.toDigits_ne_nil]
  · rw [List.all_eq_true]
    intro character member
    simp [isNumeralChar, Nat.isDigit_of_mem_toDigits (by omega) (by omega) member]

/-! ### Strings -/

def hexValue (digit : Char) : Nat :=
  if digit.toNat < 58 then digit.toNat - 48 else digit.toNat - 87

/-- Read one character of a string literal, and what follows it. -/
def readChar : List Char → Option (Char × List Char)
  | '\\' :: 'n' :: rest => some ('\n', rest)
  | '\\' :: 'r' :: rest => some ('\r', rest)
  | '\\' :: 't' :: rest => some ('\t', rest)
  | '\\' :: 'b' :: rest => some (Char.ofNat 8, rest)
  | '\\' :: 'f' :: rest => some (Char.ofNat 12, rest)
  | '\\' :: 'u' :: '0' :: '0' :: high :: low :: rest =>
      some (Char.ofNat (hexValue high * 16 + hexValue low), rest)
  | '\\' :: character :: rest => some (character, rest)
  | character :: rest => some (character, rest)
  | [] => none

theorem hexValue_hexDigit :
    ∀ value < 32, hexValue (hexDigit (value / 16)) * 16 + hexValue
        (hexDigit (value % 16)) = value := by
  decide

theorem readChar_escapeChar (character : Char) (rest : List Char) :
    readChar (escapeChar character ++ rest) = some (character, rest) := by
  unfold escapeChar
  split
  · rename_i same
    subst same
    rfl
  split
  · rename_i same
    subst same
    rfl
  split
  · rename_i same
    subst same
    rfl
  split
  · rename_i same
    subst same
    rfl
  split
  · rename_i same
    subst same
    rfl
  split
  · rename_i same
    subst same
    rfl
  split
  · rename_i same
    subst same
    rfl
  split
  · rename_i control
    show some (Char.ofNat _, rest) = _
    rw [hexValue_hexDigit _ control, Char.ofNat_toNat]
  · rename_i notBackslash _ _ _ _ _ _
    simp [readChar, notBackslash]

/-- A character of a literal is never the closing quote. -/
theorem escapeChar_ne_quote (character : Char) (rest following : List Char) :
    escapeChar character ++ rest ≠ '"' :: following := by
  grind [escapeChar]

variable {character : Char} {rest following text : List Char} {value : Json}

theorem escape_cancel {other : List Char}
    (same : text.flatMap escapeChar ++ '"' :: rest = other.flatMap escapeChar ++ '"' :: following) :
    text = other ∧ rest = following := by
  induction text generalizing other with
  | nil =>
      cases other with
      | nil => exact ⟨rfl, (List.cons.inj same).2⟩
      | cons character others =>
          grind [escapeChar_ne_quote]
  | cons character tail inductionHypothesis =>
      cases other with
      | nil =>
          grind [escapeChar_ne_quote]
      | cons otherCharacter others =>
          rw [List.flatMap_cons, List.flatMap_cons, List.append_assoc, List.append_assoc] at same
          have read := congrArg readChar same
          rw [readChar_escapeChar, readChar_escapeChar, Option.some.injEq, Prod.mk.injEq] at read
          grind

theorem quote_cancel {text other : String} (same : quote text ++ rest = quote other ++ following) :
    text = other ∧ rest = following := by
  grind [quote, escape_cancel, String.toList_injective]

/-! ### Delimiters -/

def isDelimiter (character : Char) : Bool :=
  character == ',' || character == ']' || character == '}'

/-- What follows a value: nothing, or a delimiter first. -/
def Delimited (rest : List Char) : Prop := ∀ character ∈ rest.head?, isDelimiter character = true

theorem delimited_nil : Delimited [] := nofun

theorem delimited_cons (delimiter : isDelimiter character = true) (rest : List Char) :
    Delimited (character :: rest) := by
  intro first member
  cases member
  exact delimiter

theorem isDelimiter_numeral (numeral : isNumeralChar character = true) :
    isDelimiter character = false := by
  rw [isDelimiter, Bool.eq_false_iff]
  intro delimiter
  simp only [Bool.or_eq_true, beq_iff_eq] at delimiter
  rcases delimiter with (rfl | rfl) | rfl
  · cases numeral
  · cases numeral
  · cases numeral

theorem numeral_cancel {other : List Char} (plain : text.all isNumeralChar = true)
    (otherPlain : other.all isNumeralChar = true) (delimited : Delimited rest)
    (otherDelimited : Delimited following) (same : text ++ rest = other ++ following) :
    text = other ∧ rest = following := by
  induction text generalizing other with
  | nil =>
      cases other with
      | nil => exact ⟨rfl, same⟩
      | cons character others =>
          rw [List.nil_append, List.cons_append] at same
          rw [List.all_cons, Bool.and_eq_true] at otherPlain
          have delimiter := delimited character (by rw [same]; rfl)
          rw [isDelimiter_numeral otherPlain.1] at delimiter
          cases delimiter
  | cons character tail inductionHypothesis =>
      rw [List.all_cons, Bool.and_eq_true] at plain
      cases other with
      | nil =>
          rw [List.nil_append, List.cons_append] at same
          have delimiter := otherDelimited character (by rw [← same]; rfl)
          rw [isDelimiter_numeral plain.1] at delimiter
          cases delimiter
      | cons otherCharacter others =>
          grind

/-! ### Values -/

/-- The first character of a value, by its kind. -/
def leadOf : Json → Option Char
  | .null => some 'n'
  | .bool true => some 't'
  | .bool false => some 'f'
  | .num literal => literal.toList.head?
  | .str _ => some '"'
  | .arr _ => some '['
  | .obj _ => some '{'

theorem render_lead (value : Json) (plain : isPlain value = true) (rest : List Char) :
    (render value ++ rest).head? = leadOf value := by
  cases value with
  | null => rfl
  | bool truth => cases truth <;> rfl
  | num literal =>
      rw [isPlain, Bool.and_eq_true] at plain
      unfold render leadOf
      cases characters : literal.toList with
      | nil =>
          rw [characters] at plain
          cases plain.1
      | cons first others =>
          simp [characters]
  | str text => rfl
  | arr items => rfl
  | obj fields => rfl

theorem leadOf_not_delimiter (plain : isPlain value = true) (lead : leadOf value = some character) :
    isDelimiter character = false := by
  cases value with
  | num literal =>
      rw [isPlain, Bool.and_eq_true] at plain
      have member : character ∈ literal.toList := List.mem_of_mem_head? lead
      exact isDelimiter_numeral (List.all_eq_true.mp plain.2 character member)
  | bool truth =>
      cases truth
      · cases lead
        rfl
      · cases lead
        rfl
  | null | str | arr | obj =>
      cases lead
      rfl

theorem lead_numeral {literal : String} (plain : isPlain (.num literal) = true)
    (lead : some character = leadOf (.num literal)) : isNumeralChar character = true := by
  rw [isPlain, Bool.and_eq_true] at plain
  exact List.all_eq_true.mp plain.2 character (List.mem_of_mem_head? lead.symm)

/-- A value with anything behind it does not begin like a delimiter with anything behind it. -/
theorem render_ne_delimiter (plain : isPlain value = true)
    (delimiter : isDelimiter character = true) (rest following : List Char) :
    render value ++ rest ≠ character :: following := by
  grind [render_lead, leadOf_not_delimiter]

/-- A nonempty list of items does not end where it begins. -/
theorem renderItems_ne_close {item : Json} (plain : isPlain item = true) (items : List Json)
    (rest following : List Char) :
    renderItems (item :: items) ++ ']' :: rest ≠ ']' :: following := by
  cases items with
  | nil => exact render_ne_delimiter plain rfl _ following
  | cons next items =>
      rw [renderItems, List.append_assoc]
      exact render_ne_delimiter plain rfl _ following

theorem renderFields_ne_close (field : String × Json) (fields : List (String × Json))
    (rest following : List Char) :
    renderFields (field :: fields) ++ '}' :: rest ≠ '}' :: following := by
  intro same
  cases fields with
  | nil => exact absurd (List.cons.inj same).1 (by decide)
  | cons next fields => exact absurd (List.cons.inj same).1 (by decide)

theorem cancel_of_append_eq (same : text ++ rest = text ++ following) :
    value = value ∧ rest = following :=
  ⟨rfl, List.append_cancel_left same⟩

mutual

/-- Equal texts that begin with values begin with equal values. -/
theorem render_cancel : ∀ (value other : Json) (rest following : List Char),
    isPlain value = true → isPlain other = true → Delimited rest → Delimited following →
      render value ++ rest = render other ++ following → value = other ∧ rest = following
  | value, other, rest, following, plain, otherPlain, delimited, otherDelimited, same => by
      have lead : leadOf value = leadOf other := by
        rw [← render_lead value plain rest, same, render_lead other otherPlain]
      cases value with
      | null =>
          cases other with
          | null => exact cancel_of_append_eq same
          | num literal => cases lead_numeral otherPlain lead
          | bool truth => cases truth <;> cases lead
          | _ => cases lead
      | bool truth =>
          cases other with
          | bool otherTruth =>
              cases truth <;> cases otherTruth <;>
                first | exact cancel_of_append_eq same | cases lead
          | num literal => cases truth <;> cases lead_numeral otherPlain lead
          | _ => cases truth <;> cases lead
      | num literal =>
          cases other with
          | num otherLiteral =>
              rw [isPlain, Bool.and_eq_true] at plain otherPlain
              obtain ⟨sameText, sameRest⟩ :=
                numeral_cancel plain.2 otherPlain.2 delimited otherDelimited same
              exact ⟨by rw [String.toList_injective sameText], sameRest⟩
          | bool truth => cases truth <;> cases lead_numeral plain lead.symm
          | _ => cases lead_numeral plain lead.symm
      | str text =>
          cases other with
          | str otherText =>
              obtain ⟨sameText, sameRest⟩ := quote_cancel same
              exact ⟨by rw [sameText], sameRest⟩
          | num literal => cases lead_numeral otherPlain lead
          | bool truth => cases truth <;> cases lead
          | _ => cases lead
      | arr items =>
          cases other with
          | arr others =>
              rw [render, render, List.cons_append, List.cons_append, List.append_assoc,
                List.append_assoc, List.cons.injEq] at same
              obtain ⟨sameItems, sameRest⟩ := renderItems_cancel items others rest following
                plain otherPlain same.2
              exact ⟨by rw [sameItems], sameRest⟩
          | num literal => cases lead_numeral otherPlain lead
          | bool truth => cases truth <;> cases lead
          | _ => cases lead
      | obj fields =>
          cases other with
          | obj others =>
              rw [render, render, List.cons_append, List.cons_append, List.append_assoc,
                List.append_assoc, List.cons.injEq] at same
              obtain ⟨sameFields, sameRest⟩ := renderFields_cancel fields others rest following
                plain otherPlain same.2
              exact ⟨by rw [sameFields], sameRest⟩
          | num literal => cases lead_numeral otherPlain lead
          | bool truth => cases truth <;> cases lead
          | _ => cases lead

theorem renderItems_cancel : ∀ (items others : List Json) (rest following : List Char),
    isPlainItems items = true → isPlainItems others = true →
      renderItems items ++ ']' :: rest = renderItems others ++ ']' :: following →
        items = others ∧ rest = following
  | [], [], rest, following, _, _, same => ⟨rfl, (List.cons.inj same).2⟩
  | [], other :: others, rest, following, _, otherPlain, same => by
      rw [isPlainItems, Bool.and_eq_true] at otherPlain
      exact absurd same.symm (renderItems_ne_close otherPlain.1 others following rest)
  | item :: items, [], rest, following, plain, _, same => by
      rw [isPlainItems, Bool.and_eq_true] at plain
      exact absurd same (renderItems_ne_close plain.1 items rest following)
  | [item], [other], rest, following, plain, otherPlain, same => by
      rw [isPlainItems, Bool.and_eq_true] at plain otherPlain
      obtain ⟨sameItem, sameRest⟩ := render_cancel item other _ _ plain.1 otherPlain.1
        (delimited_cons rfl rest) (delimited_cons rfl following) same
      exact ⟨by rw [sameItem], (List.cons.inj sameRest).2⟩
  | [item], other :: second :: others, rest, following, plain, otherPlain, same => by
      rw [isPlainItems, Bool.and_eq_true] at plain otherPlain
      rw [renderItems, renderItems, List.append_assoc] at same
      have sameRest := (render_cancel item other _ _ plain.1 otherPlain.1
        (delimited_cons rfl _) (delimited_cons rfl _) same).2
      exact absurd (List.cons.inj sameRest).1 (by decide)
  | item :: next :: items, [other], rest, following, plain, otherPlain, same => by
      rw [isPlainItems, Bool.and_eq_true] at plain otherPlain
      rw [renderItems, renderItems, List.append_assoc] at same
      have sameRest := (render_cancel item other _ _ plain.1 otherPlain.1
        (delimited_cons rfl _) (delimited_cons rfl _) same).2
      exact absurd (List.cons.inj sameRest).1 (by decide)
  | item :: next :: items, other :: second :: others, rest, following, plain, otherPlain, same => by
      rw [isPlainItems, Bool.and_eq_true] at plain otherPlain
      rw [renderItems, renderItems, List.append_assoc, List.append_assoc] at same
      obtain ⟨sameItem, sameRest⟩ := render_cancel item other _ _ plain.1 otherPlain.1
        (delimited_cons rfl _) (delimited_cons rfl _) same
      obtain ⟨sameItems, sameFollowing⟩ := renderItems_cancel (next :: items) (second :: others)
        rest following plain.2 otherPlain.2 (List.cons.inj sameRest).2
      exact ⟨by rw [sameItem, sameItems], sameFollowing⟩

theorem renderFields_cancel : ∀ (fields others : List (String × Json)) (rest following : List Char),
    isPlainFields fields = true → isPlainFields others = true →
      renderFields fields ++ '}' :: rest = renderFields others ++ '}' :: following →
        fields = others ∧ rest = following
  | [], [], rest, following, _, _, same => ⟨rfl, (List.cons.inj same).2⟩
  | [], other :: others, rest, following, _, _, same =>
      absurd same.symm (renderFields_ne_close other others following rest)
  | field :: fields, [], rest, following, _, _, same =>
      absurd same (renderFields_ne_close field fields rest following)
  | [(name, value)], [(otherName, other)], rest, following, plain, otherPlain, same => by
      rw [isPlainFields, Bool.and_eq_true] at plain otherPlain
      rw [renderFields, renderFields, List.append_assoc, List.append_assoc] at same
      obtain ⟨sameName, sameValues⟩ := quote_cancel same
      obtain ⟨sameValue, sameRest⟩ := render_cancel value other _ _ plain.1 otherPlain.1
        (delimited_cons rfl rest) (delimited_cons rfl following) (List.cons.inj sameValues).2
      exact ⟨by rw [sameName, sameValue], (List.cons.inj sameRest).2⟩
  | [(name, value)], (otherName, other) :: second :: others, rest, following, plain, otherPlain,
      same => by
      rw [isPlainFields, Bool.and_eq_true] at plain otherPlain
      rw [renderFields, renderFields, List.append_assoc, List.append_assoc] at same
      have sameValues := (quote_cancel same).2
      rw [List.cons_append, List.cons_append, List.append_assoc] at sameValues
      have sameRest := (render_cancel value other _ _ plain.1 otherPlain.1
        (delimited_cons rfl _) (delimited_cons rfl _) (List.cons.inj sameValues).2).2
      exact absurd (List.cons.inj sameRest).1 (by decide)
  | (name, value) :: next :: fields, [(otherName, other)], rest, following, plain, otherPlain,
      same => by
      rw [isPlainFields, Bool.and_eq_true] at plain otherPlain
      rw [renderFields, renderFields, List.append_assoc, List.append_assoc] at same
      have sameValues := (quote_cancel same).2
      rw [List.cons_append, List.cons_append, List.append_assoc] at sameValues
      have sameRest := (render_cancel value other _ _ plain.1 otherPlain.1
        (delimited_cons rfl _) (delimited_cons rfl _) (List.cons.inj sameValues).2).2
      exact absurd (List.cons.inj sameRest).1 (by decide)
  | (name, value) :: next :: fields, (otherName, other) :: second :: others, rest, following,
      plain, otherPlain, same => by
      rw [isPlainFields, Bool.and_eq_true] at plain otherPlain
      rw [renderFields, renderFields, List.append_assoc, List.append_assoc] at same
      obtain ⟨sameName, sameValues⟩ := quote_cancel same
      rw [List.cons_append, List.cons_append, List.append_assoc, List.append_assoc] at sameValues
      obtain ⟨sameValue, sameRest⟩ := render_cancel value other _ _ plain.1 otherPlain.1
        (delimited_cons rfl _) (delimited_cons rfl _) (List.cons.inj sameValues).2
      obtain ⟨sameFields, sameFollowing⟩ := renderFields_cancel (next :: fields)
        (second :: others) rest following plain.2 otherPlain.2 (List.cons.inj sameRest).2
      exact ⟨by rw [sameName, sameValue, sameFields], sameFollowing⟩

end

/-- `JSON.stringify` prints different texts for different values. -/
theorem stringify_injective {value other : Json} (plain : isPlain value = true)
    (otherPlain : isPlain other = true) (same : stringify value = stringify other) :
    value = other := by
  have sameText := String.ofList_injective same
  grind [render_cancel, delimited_nil]

end Json

end Lombok.Core
