import Lombok.Core.JsonReader

/-!
Contract: which characters of a JSON text are those of the strings it holds.

Counts characters above ASCII. The strings of a value have as many of them as
the printed value, or fewer, and as many as any text the value is read from, or
more: what reading drops is spaces, punctuation, words, numerals and escapes.
-/

namespace Lombok.Core.Json

/-! ### What is printed -/

/-- The characters of an escape sequence. -/
def escapeAlphabet : List Char :=
  ['"', '\\', 'n', 'r', 't', 'b', 'f', 'u', '0', '1', '2', '3', '4', '5', '6', '7', '8', '9',
    'a', 'c', 'd', 'e']

theorem escapeChar_printed (character : Char) :
    escapeChar character = [character] ∧ 32 ≤ character.toNat ∨
      (character = '"' ∨ character = '\\' ∨ character.toNat < 32) ∧
        ∀ printed ∈ escapeChar character, printed ∈ escapeAlphabet := by
  by_cases named : character ∈ ['"', '\\', '\n', '\r', '\t', Char.ofNat 8, Char.ofNat 12]
  · right
    have escaped : ['"', '\\', '\n', '\r', '\t', Char.ofNat 8, Char.ofNat 12].all (fun special =>
        (special == '"' || special == '\\' || decide (special.toNat < 32)) &&
          (escapeChar special).all fun printed => escapeAlphabet.contains printed) = true := by
      decide
    grind
  · simp only [List.mem_cons, List.not_mem_nil, or_false, not_or] at named
    obtain ⟨notQuote, notBackslash, notLine, notReturn, notTab, notBack, notForm⟩ := named
    unfold escapeChar
    rw [if_neg notQuote, if_neg notBackslash, if_neg notLine, if_neg notReturn, if_neg notTab,
      if_neg notBack, if_neg notForm]
    by_cases control : character.toNat < 32
    · have digit : ∀ value < 16, hexDigit value ∈ escapeAlphabet := by decide
      rw [if_pos control]
      refine .inr ⟨.inr (.inr control), ?_⟩
      simp only [List.forall_mem_cons]
      exact ⟨by decide, by decide, by decide, by decide, digit _ (by omega), digit _ (by omega),
        by simp⟩
    · rw [if_neg control]
      exact .inl ⟨rfl, Nat.le_of_not_lt control⟩

/-- A property of the characters of a text, by the test of each of them. -/
theorem forall_mem_of_all {property : Char → Prop} [DecidablePred property] {text : List Char}
    (tested : text.all (fun character => decide (property character)) = true) :
    ∀ character ∈ text, property character := by
  grind

theorem escapeAlphabet_ascii : ∀ character ∈ escapeAlphabet,
    32 ≤ character.toNat ∧ character.toNat < 128 := forall_mem_of_all (by decide)

theorem escapeChar_printable (character : Char) :
    ∀ printed ∈ escapeChar character, 32 ≤ printed.toNat := by
  grind [escapeChar_printed, escapeAlphabet_ascii]

theorem quote_printable (text : String) : ∀ printed ∈ quote text, 32 ≤ printed.toNat := by
  intro printed member
  rcases List.mem_cons.mp member with rfl | member
  · decide
  rcases List.mem_append.mp member with inside | last
  · grind [escapeChar_printable]
  · rw [List.mem_singleton.mp last]
    decide

theorem numeral_ascii {character : Char} (numeral : isNumeralChar character = true) :
    32 ≤ character.toNat ∧ character.toNat < 128 := by
  simp only [isNumeralChar, Bool.or_eq_true, beq_iff_eq] at numeral
  rcases numeral with ((((digit | rfl) | rfl) | rfl) | rfl) | rfl
  · simp only [Char.isDigit, Bool.and_eq_true, decide_eq_true_eq, UInt32.le_iff_toNat_le] at digit
    have low : 48 ≤ character.toNat := digit.1
    have high : character.toNat ≤ 57 := digit.2
    omega
  · decide
  · decide
  · decide
  · decide
  · decide

theorem forall_mem_literal {property : Char → Prop} {opening closing : Char} {inside : List Char}
    (first : property opening) (between : ∀ character ∈ inside, property character)
    (last : property closing) :
    ∀ character ∈ opening :: (inside ++ [closing]), property character := by
  intro character member
  rcases List.mem_cons.mp member with rfl | member
  · exact first
  rcases List.mem_append.mp member with within | closes
  · exact between character within
  · rw [List.mem_singleton.mp closes]
    exact last

mutual

/-- `JSON.stringify` prints no control character, so no line break. -/
theorem render_printable : ∀ value : Json, isPlain value = true →
    ∀ printed ∈ render value, 32 ≤ printed.toNat
  | .null, _ => by
      rw [render]
      exact forall_mem_of_all (by decide)
  | .bool true, _ => by
      rw [render]
      exact forall_mem_of_all (by decide)
  | .bool false, _ => by
      rw [render]
      exact forall_mem_of_all (by decide)
  | .num literal, plain => by
      rw [isPlain, Bool.and_eq_true, List.all_eq_true] at plain
      grind [render, numeral_ascii]
  | .str text, _ => by
      rw [render]
      exact quote_printable text
  | .arr items, plain => by
      rw [render]
      exact forall_mem_literal (by decide) (renderItems_printable items plain) (by decide)
  | .obj fields, plain => by
      rw [render]
      exact forall_mem_literal (by decide) (renderFields_printable fields plain) (by decide)

theorem renderItems_printable : ∀ items : List Json, isPlainItems items = true →
    ∀ printed ∈ renderItems items, 32 ≤ printed.toNat
  | [], _ => by
      intro printed member
      cases member
  | [item], plain => by
      rw [isPlainItems, Bool.and_eq_true] at plain
      rw [renderItems]
      exact render_printable item plain.1
  | item :: next :: rest, plain => by
      rw [isPlainItems, Bool.and_eq_true] at plain
      rw [renderItems, List.forall_mem_append, List.forall_mem_cons]
      exact ⟨render_printable item plain.1, by decide,
        renderItems_printable (next :: rest) plain.2⟩

theorem renderFields_printable : ∀ fields : List (String × Json), isPlainFields fields = true →
    ∀ printed ∈ renderFields fields, 32 ≤ printed.toNat
  | [], _ => by
      intro printed member
      cases member
  | [(name, value)], plain => by
      rw [isPlainFields, Bool.and_eq_true] at plain
      rw [renderFields, List.forall_mem_append, List.forall_mem_cons]
      exact ⟨quote_printable name, by decide, render_printable value plain.1⟩
  | (name, value) :: next :: rest, plain => by
      rw [isPlainFields, Bool.and_eq_true] at plain
      rw [renderFields, List.forall_mem_append, List.forall_mem_cons, List.forall_mem_append,
        List.forall_mem_cons]
      exact ⟨quote_printable name, by decide, render_printable value plain.1, by decide,
        renderFields_printable (next :: rest) plain.2⟩

end

/-! ### What is read -/

theorem hexDigitValue_ascii {digit : Char} {value : Nat}
    (isDigit : hexDigitValue digit = some value) : digit.toNat < 128 := by
  grind [hexDigitValue]

section Weight

variable (counted : Char → Bool)

mutual

/-- The counted characters of the strings of a value. -/
def weight : Json → Nat
  | .str value => value.toList.countP counted
  | .arr items => weightItems items
  | .obj fields => weightFields fields
  | _ => 0

def weightItems : List Json → Nat
  | [] => 0
  | item :: rest => weight item + weightItems rest

def weightFields : List (String × Json) → Nat
  | [] => 0
  | (name, value) :: rest => name.toList.countP counted + weight value + weightFields rest

end

variable {counted}
  (high : ∀ character, counted character = true → 128 ≤ character.toNat)

include high

variable {text rest : List Char} {character : Char} {fuel : Nat}

theorem countP_of_ascii (ascii : ∀ character ∈ text, character.toNat < 128) :
    text.countP counted = 0 := by
  grind

theorem countP_ascii_append {front : List Char} (rest : List Char)
    (ascii : ∀ character ∈ front, character.toNat < 128) :
    (front ++ rest).countP counted = rest.countP counted := by
  rw [List.countP_append, countP_of_ascii high ascii, Nat.zero_add]

theorem countP_ascii_cons (small : character.toNat < 128) (rest : List Char) :
    (character :: rest).countP counted = rest.countP counted :=
  @countP_ascii_append _ high [character] rest (by simpa using small)

theorem countP_skipSpace (text : List Char) :
    (skipSpace text).countP counted = text.countP counted := by
  have spaces : ∀ character ∈ text.takeWhile isSpace, character.toNat < 128 := by
    intro character member
    have space := List.all_eq_true.mp List.all_takeWhile character member
    simp only [isSpace, Bool.or_eq_true, beq_iff_eq] at space
    rcases space with ((rfl | rfl) | rfl) | rfl <;> decide
  grind [skipSpace, List.takeWhile_append_dropWhile, countP_ascii_append]

/-- An ASCII character behind spaces adds nothing. -/
theorem countP_of_skipSpace (skipped : skipSpace text = character :: rest)
    (small : character.toNat < 128) :
    text.countP counted = rest.countP counted := by
  rw [← countP_skipSpace high text, skipped, countP_ascii_cons high small]

theorem countP_readUnit {unit : Nat} (read : readUnit text = some (unit, rest)) :
    text.countP counted = rest.countP counted := by
  match text with
  | d3 :: d2 :: d1 :: d0 :: others =>
      simp only [readUnit, Option.bind_eq_bind, Option.bind_eq_some_iff, Option.some.injEq,
        Prod.mk.injEq] at read
      obtain ⟨v3, h3, v2, h2, v1, h1, v0, h0, _, rfl⟩ := read
      rw [countP_ascii_cons high (hexDigitValue_ascii h3),
        countP_ascii_cons high (hexDigitValue_ascii h2),
        countP_ascii_cons high (hexDigitValue_ascii h1),
        countP_ascii_cons high (hexDigitValue_ascii h0)]
  | [] | [_] | [_, _] | [_, _, _] => cases read

theorem countP_readLowSurrogate {unit : Nat}
    (read : readLowSurrogate unit text = some (character, rest)) :
    text.countP counted = rest.countP counted := by
  unfold readLowSurrogate at read
  grind [Option.bind_eq_some_iff, countP_readUnit]

theorem countP_readEscape (read : readEscape text = some (character, rest)) :
    text.countP counted = rest.countP counted := by
  unfold readEscape at read
  split at read
  case h_9 others =>
    rw [countP_ascii_cons high (by decide)]
    simp only [Option.bind_eq_bind, Option.bind_eq_some_iff] at read
    obtain ⟨⟨unit, behind⟩, isUnit, read⟩ := read
    rw [countP_readUnit high isUnit]
    grind [countP_readLowSurrogate]
  case h_10 => cases read
  all_goals
    cases read
    exact countP_ascii_cons high (by decide) _

theorem countP_readCharacter (read : readCharacter text = some (character, rest)) :
    text.countP counted ≤ [character].countP counted + rest.countP counted := by
  cases text with
  | nil => cases read
  | cons first others =>
      rw [readCharacter] at read
      split at read
      · rename_i backslash
        rw [backslash, countP_ascii_cons high (by decide), countP_readEscape high read]
        exact Nat.le_add_left _ _
      grind

theorem countP_readLiteral (fuel : Nat) : ∀ {text characters rest : List Char},
    readLiteral fuel text = some (characters, rest) →
      text.countP counted ≤ characters.countP counted + rest.countP counted := by
  induction fuel with
  | zero =>
      nofun
  | succ fuel inductionHypothesis =>
      intro text characters rest read
      rw [readLiteral] at read
      split at read
      · rename_i closed
        cases read
        obtain ⟨others, rfl⟩ := List.head?_eq_some_iff.mp closed
        grind
      · simp only [Option.bind_eq_bind, Option.bind_eq_some_iff] at read
        obtain ⟨⟨character, following⟩, first, ⟨others, behind⟩, tail, same⟩ := read
        obtain ⟨rfl, rfl⟩ := same
        have one := countP_readCharacter high first
        grind

theorem countP_readWord {value : Json} (read : readWord text = some (value, rest)) :
    text.countP counted = rest.countP counted := by
  unfold readWord at read
  split at read
  · rename_i isPrefix
    cases read
    rw [List.isPrefixOf_iff_prefix] at isPrefix
    obtain ⟨behind, rfl⟩ := isPrefix
    exact countP_ascii_append high behind (forall_mem_of_all (by decide))
  split at read
  · rename_i isPrefix
    cases read
    rw [List.isPrefixOf_iff_prefix] at isPrefix
    obtain ⟨behind, rfl⟩ := isPrefix
    exact countP_ascii_append high behind (forall_mem_of_all (by decide))
  split at read
  · rename_i isPrefix
    cases read
    rw [List.isPrefixOf_iff_prefix] at isPrefix
    obtain ⟨behind, rfl⟩ := isPrefix
    exact countP_ascii_append high behind (forall_mem_of_all (by decide))
  · cases read

def CountsValue (counted : Char → Bool) (fuel : Nat) : Prop :=
  ∀ text rest value, readValue fuel text = some (value, rest) →
    text.countP counted ≤ weight counted value + rest.countP counted

def CountsItems (counted : Char → Bool) (fuel : Nat) : Prop :=
  ∀ text rest items, readItems fuel text = some (items, rest) →
    text.countP counted ≤ weightItems counted items + rest.countP counted

def CountsFields (counted : Char → Bool) (fuel : Nat) : Prop :=
  ∀ text rest fields, readFields fuel text = some (fields, rest) →
    text.countP counted ≤ weightFields counted fields + rest.countP counted

theorem countsValue_succ (itemsRead : CountsItems counted fuel)
    (fieldsRead : CountsFields counted fuel) : CountsValue counted (fuel + 1) := by
  intro text rest value read
  rw [readValue] at read
  cases skipped : skipSpace text with
  | nil =>
      rw [skipped] at read
      cases read
  | cons first others =>
      rw [skipped] at read
      dsimp only at read
      rw [← countP_skipSpace high text, skipped]
      split at read
      · rename_i quote
        obtain ⟨⟨characters, behind⟩, literal, same⟩ := Option.map_eq_some_iff.mp read
        cases same
        rw [quote, countP_ascii_cons high (by decide), weight, String.toList_ofList]
        exact countP_readLiteral high fuel literal
      split at read
      · rename_i bracket
        rw [bracket, countP_ascii_cons high (by decide)]
        split at read
        · rename_i closed
          cases read
          obtain ⟨behind, skippedRest⟩ := List.head?_eq_some_iff.mp closed
          rw [countP_of_skipSpace high skippedRest (by decide), skippedRest]
          exact Nat.le_add_left _ _
        · obtain ⟨⟨items, behind⟩, inside, same⟩ := Option.map_eq_some_iff.mp read
          cases same
          exact itemsRead _ _ _ inside
      split at read
      · rename_i brace
        rw [brace, countP_ascii_cons high (by decide)]
        split at read
        · rename_i closed
          cases read
          obtain ⟨behind, skippedRest⟩ := List.head?_eq_some_iff.mp closed
          rw [countP_of_skipSpace high skippedRest (by decide), skippedRest]
          exact Nat.le_add_left _ _
        · obtain ⟨⟨fields, behind⟩, inside, same⟩ := Option.map_eq_some_iff.mp read
          cases same
          exact fieldsRead _ _ _ inside
      split at read
      · grind [numeral_ascii, List.all_takeWhile, countP_ascii_append,
          List.takeWhile_append_dropWhile]
      · rw [countP_readWord high read]
        exact Nat.le_add_left _ _

theorem countsItems_succ (valueRead : CountsValue counted fuel)
    (itemsRead : CountsItems counted fuel) : CountsItems counted (fuel + 1) := by
  intro text rest items read
  rw [readItems] at read
  simp only [Option.bind_eq_bind, Option.bind_eq_some_iff] at read
  obtain ⟨⟨item, following⟩, one, read⟩ := read
  have first := valueRead _ _ _ one
  split at read
  · rename_i behind skipped
    cases read
    rw [countP_of_skipSpace high skipped (by decide)] at first
    exact first
  · rename_i tail skipped
    simp only [Option.bind_eq_some_iff] at read
    obtain ⟨⟨others, behind⟩, more, same⟩ := read
    obtain ⟨rfl, rfl⟩ := same
    have second := itemsRead _ _ _ more
    rw [countP_of_skipSpace high skipped (by decide)] at first
    rw [weightItems]
    dsimp only at second ⊢
    omega
  · cases read

theorem countsFields_succ (valueRead : CountsValue counted fuel)
    (fieldsRead : CountsFields counted fuel) : CountsFields counted (fuel + 1) := by
  intro text rest fields read
  rw [readFields] at read
  split at read
  · rename_i literal skipped
    simp only [Option.bind_eq_bind, Option.bind_eq_some_iff] at read
    obtain ⟨⟨name, afterName⟩, isName, read⟩ := read
    have named := countP_readLiteral high fuel isName
    rw [countP_of_skipSpace high skipped (by decide)]
    split at read
    · rename_i valueText nameEnded
      rw [countP_of_skipSpace high nameEnded (by decide)] at named
      simp only [Option.bind_eq_some_iff] at read
      obtain ⟨⟨value, following⟩, isValue, read⟩ := read
      have held := valueRead _ _ _ isValue
      dsimp only at read
      split at read
      · grind [countP_of_skipSpace, weightFields, String.toList_ofList]
      · rename_i tail ended
        simp only [Option.bind_eq_some_iff] at read
        obtain ⟨⟨others, behind⟩, more, same⟩ := read
        obtain ⟨rfl, rfl⟩ := same
        have second := fieldsRead _ _ _ more
        rw [countP_of_skipSpace high ended (by decide)] at held
        rw [weightFields, String.toList_ofList]
        dsimp only at second ⊢
        omega
      · cases read
    · cases read
  · cases read

theorem counts_read (fuel : Nat) :
    CountsValue counted fuel ∧ CountsItems counted fuel ∧ CountsFields counted fuel := by
  induction fuel with
  | zero =>
      refine ⟨?_, ?_, ?_⟩ <;>
        · nofun
  | succ fuel inductionHypothesis =>
      grind [countsValue_succ, countsItems_succ, countsFields_succ]

theorem countP_parse {text : String} {value : Json} (parsed : parse text = some value) :
    text.toList.countP counted ≤ weight counted value := by
  unfold parse at parsed
  split at parsed
  · rename_i read rest isRead
    split at parsed
    · rename_i blank
      cases parsed
      have counts := (counts_read high _).1 _ _ _ isRead
      have nothing := countP_skipSpace high rest
      grind
    · cases parsed
  · cases parsed

/-! ### The strings of a printed value -/

theorem countP_le_quote (text : String) :
    text.toList.countP counted ≤ (quote text).countP counted := by
  have inside : text.toList.countP counted ≤ (text.toList.flatMap escapeChar).countP counted := by
    induction text.toList with
    | nil => exact Nat.le_refl _
    | cons character rest inductionHypothesis =>
        have one : [character].countP counted ≤ (escapeChar character).countP counted := by
          rcases escapeChar_printed character with ⟨same, _⟩ | ⟨ascii, _⟩
          · exact Nat.le_of_eq (by rw [same])
          · have small : character.toNat < 128 := by
              rcases ascii with rfl | rfl | control
              · decide
              · decide
              · omega
            grind
        grind
  grind [quote]

mutual

theorem weight_le_render : ∀ value : Json, weight counted value ≤ (render value).countP counted
  | .null => Nat.zero_le _
  | .bool true => Nat.zero_le _
  | .bool false => Nat.zero_le _
  | .num literal => Nat.zero_le _
  | .str text => by
      rw [weight, render]
      exact countP_le_quote high text
  | .arr items => by
      have inside := weightItems_le_render items
      grind [weight, render]
  | .obj fields => by
      have inside := weightFields_le_render fields
      grind [weight, render]

theorem weightItems_le_render : ∀ items : List Json,
    weightItems counted items ≤ (renderItems items).countP counted
  | [] => Nat.zero_le _
  | [item] => by
      rw [weightItems, weightItems, renderItems]
      exact weight_le_render item
  | item :: next :: rest => by
      have first := weight_le_render item
      have others := weightItems_le_render (next :: rest)
      grind [weightItems, renderItems]

theorem weightFields_le_render : ∀ fields : List (String × Json),
    weightFields counted fields ≤ (renderFields fields).countP counted
  | [] => Nat.zero_le _
  | [(name, value)] => by
      have named := countP_le_quote high name
      have held := weight_le_render value
      grind [weightFields, renderFields]
  | (name, value) :: next :: rest => by
      have named := countP_le_quote high name
      have held := weight_le_render value
      have others := weightFields_le_render (next :: rest)
      grind [weightFields, renderFields]

end

end Weight

end Lombok.Core.Json
