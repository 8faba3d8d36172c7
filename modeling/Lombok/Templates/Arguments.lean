import Lombok.Library.Action
import Lombok.Library.Separated
import Lombok.Templates.Expression

/-!
Contract: the arguments a template function is called with.

Owns call expressions as they are written, with literals of any content, and
exactly when the function of one is called with what is written: the argument
section is cut at every comma, inside a literal too, and a pattern without the
`s` flag reads it.

Does not own: how `jexpr` reads a number or a boolean, nor how a variable is
resolved where it is an expression of its own.
-/

namespace Lombok.Templates

open Lombok.Core Lombok.Library Lombok.Library.Action
open Lombok.Tunnel (isTrimmed trim isLineTerminator)

/-! ### Call expressions -/

def isNumberCharacter (character : Char) : Bool :=
  character.isDigit || ['.', 'e', 'E', '+', '-'].contains character

def isPathCharacter (character : Char) : Bool :=
  isNameCharacter character || ['.', '$'].contains character

/-- A text of allowed characters that is not empty. -/
def Written (allowed : Char → Bool) := { text : List Char // text ≠ [] ∧ text.all allowed = true }

inductive Quote where
  | single
  | double
deriving DecidableEq, Inhabited

def Quote.character : Quote → Char
  | single => '\''
  | double => '"'

/-- An argument of a call: a literal in quotes, a number with the text `JSON.stringify` prints for
it, a boolean, or the path of a variable. -/
inductive Argument where
  | quoted (quote : Quote) (literal : List Char)
  | number (written : Written isNumberCharacter) (printed : String)
  | boolean (value : Bool)
  | variablePath (path : Written isPathCharacter)

def Argument.text : Argument → List Char
  | quoted quote literal => quote.character :: (literal ++ [quote.character])
  | number written _ => written.1
  | boolean value => if value then "true".toList else "false".toList
  | variablePath path => path.1

/-- White space. -/
def Padding := { spaces : List Char // spaces.all isTrimmed = true }

structure WrittenArgument where
  before : Padding
  argument : Argument
  behind : Padding

def WrittenArgument.text (written : WrittenArgument) : List Char :=
  written.before.1 ++ written.argument.text ++ written.behind.1

/-- What stands between the parentheses. -/
def argumentsText (written : List WrittenArgument) : List Char :=
  [','].intercalate (written.map WrittenArgument.text)

def callText (functionName : List Char) (written : List WrittenArgument) : List Char :=
  functionName ++ '(' :: (argumentsText written ++ [')'])

/-! ### What should arrive -/

/-- `jexpr` reads a number and a boolean as what they are. -/
def Argument.IsRead (inputs : TemplateInputs) : Argument → Prop
  | number written printed =>
      inputs.evaluate (String.ofList written.1) inputs.objects = some (.num printed)
  | boolean value =>
      inputs.evaluate (String.ofList (Argument.boolean value).text) inputs.objects =
        some (.bool value)
  | _ => True

def Argument.HasValue (inputs : TemplateInputs) (validate : Bool) (value : Option Json) :
    Argument → Prop
  | quoted _ literal => value = some (.str (String.ofList literal))
  | number _ printed => value = some (.num printed)
  | boolean flag => value = some (.bool flag)
  | variablePath path =>
      (resolveTemplateExpression inputs validate (String.ofList path.1)).result = .ok value

def ArgumentsArrive (inputs : TemplateInputs) (validate : Bool) (functionName : List Char)
    (written : List WrittenArgument) : Prop :=
  ∃ values, List.Forall₂ (fun (argument : WrittenArgument) value =>
      argument.argument.HasValue inputs validate value) written values ∧
    (resolveTemplateExpression inputs validate
      (String.ofList (callText functionName written))).calls =
        [⟨String.ofList functionName, values⟩]

/-- `[a-zA-Z_][\w]*`. -/
def IsFunctionName (functionName : List Char) : Prop :=
  functionName.head?.any isNameStart = true ∧ functionName.all isNameCharacter = true

/-- The name is a word, no literal has a comma in it, the call is on one line, and when it is
validated its variables are found. -/
structure IsPlainCall (inputs : TemplateInputs) (validate : Bool) (functionName : List Char)
    (written : List WrittenArgument) : Prop where
  name : IsFunctionName functionName
  noComma : ∀ argument ∈ written, ',' ∉ argument.argument.text
  oneLine : ∀ argument ∈ written, argument.text.all (!isLineTerminator ·) = true
  found : validate = true → ∀ argument ∈ written, ∀ path, argument.argument = .variablePath path →
    (evaluated inputs (String.ofList path.1)).isSome = true ∨
      (getValueAtPath inputs.objects (String.ofList path.1)).isSome = true

/-! ### Characters -/

variable {character : Char} {text : List Char} {inputs : TemplateInputs} {validate : Bool}
    {written : List WrittenArgument}

/-- A printed ASCII character is not white space. -/
theorem isTrimmed_printed (low : 33 ≤ character.toNat) (high : character.toNat ≤ 126) :
    isTrimmed character = false := by
  unfold isTrimmed
  have inList : ∀ code ∈ [9, 10, 11, 12, 13, 32, 0xA0, 0x1680, 0x2028, 0x2029, 0x202F, 0x205F,
      0x3000, 0xFEFF], character.toNat ≠ code := by
    intro code member
    simp only [List.mem_cons, List.not_mem_nil, or_false] at member
    omega
  have absent : [9, 10, 11, 12, 13, 32, 0xA0, 0x1680, 0x2028, 0x2029, 0x202F, 0x205F, 0x3000,
      0xFEFF].contains character.toNat = false := by
    rw [Bool.eq_false_iff]
    intro contained
    exact inList _ (List.contains_iff_mem.mp contained) rfl
  grind

/-- The codes of the characters of numbers, paths and names. -/
theorem toNat_isNameCharacter (allowed : isNameCharacter character = true) :
    48 ≤ character.toNat ∧ character.toNat ≤ 122 := by
  unfold isNameCharacter Char.isAlphanum Char.isAlpha Char.isUpper Char.isLower Char.isDigit
    at allowed
  simp only [Bool.or_eq_true, Bool.and_eq_true, decide_eq_true_eq, beq_iff_eq, ge_iff_le,
    UInt32.le_iff_toNat_le] at allowed
  rcases allowed with ((⟨low, high⟩ | ⟨low, high⟩) | ⟨low, high⟩) | rfl
  · simp at low high
    omega
  · simp at low high
    omega
  · simp at low high
    omega
  · decide

theorem toNat_isPathCharacter (allowed : isPathCharacter character = true) :
    character.toNat = 36 ∨ 46 ≤ character.toNat ∧ character.toNat ≤ 122 := by
  rcases Bool.or_eq_true_iff.mp allowed with isName | isOther
  · have codes := toNat_isNameCharacter isName
    omega
  · have member : character ∈ ['.', '$'] := List.contains_iff_mem.mp isOther
    simp only [List.mem_cons, List.not_mem_nil, or_false] at member
    rcases member with rfl | rfl
    · decide
    · decide

theorem toNat_isNumberCharacter (allowed : isNumberCharacter character = true) :
    character.toNat = 43 ∨ 45 ≤ character.toNat ∧ character.toNat ≤ 101 := by
  rcases Bool.or_eq_true_iff.mp allowed with digit | isOther
  · unfold Char.isDigit at digit
    simp only [Bool.and_eq_true, decide_eq_true_eq, ge_iff_le, UInt32.le_iff_toNat_le] at digit
    obtain ⟨low, high⟩ := digit
    simp at low high
    omega
  · have member : character ∈ ['.', 'e', 'E', '+', '-'] := List.contains_iff_mem.mp isOther
    simp only [List.mem_cons, List.not_mem_nil, or_false] at member
    rcases member with rfl | rfl | rfl | rfl | rfl <;> decide

/-! ### The pattern of a call -/

theorem drop_length_takeWhile {α : Type} (holds : α → Bool) (text : List α) :
    text.drop (text.takeWhile holds).length = text.dropWhile holds := by
  grind [List.takeWhile_append_dropWhile]

/-- The pattern of a call reads a word, and one line between the parentheses. -/
theorem functionMatch_eq_some {expression functionName argsSection : List Char} :
    functionMatch expression = some (functionName, argsSection) ↔
      expression = functionName ++ '(' :: (argsSection ++ [')']) ∧
        IsFunctionName functionName ∧ argsSection.all (!isLineTerminator ·) = true := by
  unfold functionMatch
  dsimp only
  rw [drop_length_takeWhile]
  constructor
  · intro found
    split at found
    · rename_i behind front
      split at found
      · rename_i reads
        obtain ⟨starts, closes, oneLine⟩ := reads
        cases found
        refine ⟨?_, ⟨starts, List.all_takeWhile⟩, oneLine⟩
        rw [List.dropLast_append_getLast? ')' closes, ← front, List.takeWhile_append_dropWhile]
      · cases found
    · cases found
  · rintro ⟨rfl, ⟨starts, isWord⟩, oneLine⟩
    grind [isNameCharacter, List.takeWhile_append_of_pos, List.takeWhile_cons_of_neg,
      List.dropWhile_append_of_pos, List.dropWhile_cons_of_neg]

/-! ### Calls -/

theorem mapM_eq_ok {α β ε : Type} {convert : α → Except ε β} {items : List α} {values : List β} :
    items.mapM convert = .ok values ↔
      List.Forall₂ (fun item value => convert item = .ok value) items values := by
  induction items generalizing values with
  | nil =>
      rw [List.mapM_nil, List.forall₂_nil_left_iff]
      exact ⟨fun same => (Except.ok.inj same).symm, fun same => same ▸ rfl⟩
  | cons head tail inductionHypothesis =>
      rw [List.mapM_cons, List.forall₂_cons_left_iff]
      constructor
      · intro converted
        obtain ⟨value, isValue, rest⟩ := bind_eq_ok.mp converted
        obtain ⟨others, areOthers, rest⟩ := bind_eq_ok.mp rest
        cases rest
        exact ⟨value, others, isValue, inductionHypothesis.mp areOthers, rfl⟩
      · rintro ⟨value, others, isValue, areOthers, rfl⟩
        exact bind_eq_ok.mpr ⟨value, isValue,
          bind_eq_ok.mpr ⟨others, inductionHypothesis.mpr areOthers, rfl⟩⟩

theorem forall₂_mem {α β : Type} {related : α → β → Prop} {items : List α} {values : List β}
    (all : List.Forall₂ related items values) {item : α} (member : item ∈ items) :
    ∃ value, related item value := by
  induction all with
  | nil => cases member
  | cons headRelated _ inductionHypothesis =>
      grind

theorem calls_eq_singleton {expression : String} {call : FunctionCall} :
    (resolveTemplateExpression inputs validate expression).calls = [call] ↔
      ∃ functionName argsSection function values,
        functionMatch expression.toList = some (functionName, argsSection) ∧
        inputs.functions (String.ofList functionName) = some function ∧
        (rawArguments argsSection).mapM (resolveArgument inputs validate) = .ok values ∧
        call = ⟨String.ofList functionName, values⟩ := by
  unfold resolveTemplateExpression
  rcases matched : functionMatch expression.toList with _ | ⟨functionName, argsSection⟩
  · refine iff_of_false ?_ nofun
    cases resolveVariable inputs validate expression with
    | ok value => nofun
    | error message => nofun
  · dsimp only
    rcases registered : inputs.functions (String.ofList functionName) with _ | function
    · refine iff_of_false ?_ ?_
      · cases validate with
        | true => nofun
        | false => nofun
      · rintro ⟨_, _, function, _, same, isFunction, -⟩
        grind
    · rcases resolved : (rawArguments argsSection).mapM (resolveArgument inputs validate) with
        message | values
      · refine iff_of_false nofun ?_
        rintro ⟨_, _, _, values, same, -, areValues, -⟩
        grind
      · have called : (Outcome.ofExcept (.ok values) >>= fun args => do
            (⟨[⟨String.ofList functionName, args⟩], .ok ()⟩ : Outcome Unit)
            Outcome.ofExcept (function args)).calls =
              [(⟨String.ofList functionName, values⟩ : FunctionCall)] := by
          cases returned : function values with
          | ok result =>
              show [] ++ ([_] ++ (Outcome.ofExcept (function values)).calls) = _
              rw [returned]
              rfl
          | error message =>
              show [] ++ ([_] ++ (Outcome.ofExcept (function values)).calls) = _
              rw [returned]
              rfl
        rw [called, List.cons.injEq]
        constructor
        · grind
        · rintro ⟨_, _, _, _, same, -, areValues, rfl⟩
          grind

/-! ### One argument -/

/-- A printed character that is no quote and no comma. -/
def IsBare (character : Char) : Prop :=
  33 ≤ character.toNat ∧ character.toNat ≤ 126 ∧ character.toNat ≠ 34 ∧ character.toNat ≠ 39 ∧
    character.toNat ≠ 40 ∧ character.toNat ≠ 44

instance (character : Char) : Decidable (IsBare character) := by
  unfold IsBare
  infer_instance

theorem IsBare.not_trimmed (bare : IsBare character) :
    isTrimmed character = false :=
  isTrimmed_printed bare.1 bare.2.1

theorem Written.bare {allowed : Char → Bool}
    (bare : ∀ character, allowed character = true → IsBare character) (written : Written allowed) :
    written.1 ≠ [] ∧ ∀ character ∈ written.1, IsBare character :=
  ⟨written.2.1, fun character member => bare character (List.all_eq_true.mp written.2.2 _ member)⟩

theorem isBare_number (allowed : isNumberCharacter character = true) :
    IsBare character := by
  have codes := toNat_isNumberCharacter allowed
  unfold IsBare
  omega

theorem isBare_path (allowed : isPathCharacter character = true) :
    IsBare character := by
  have codes := toNat_isPathCharacter allowed
  unfold IsBare
  omega

theorem Argument.text_cases (argument : Argument) :
    (∃ quote literal, argument = .quoted quote literal) ∨
      argument.text ≠ [] ∧ ∀ character ∈ argument.text, IsBare character := by
  cases argument with
  | quoted quote literal => exact .inl ⟨quote, literal, rfl⟩
  | number written printed => exact .inr (written.bare fun _ => isBare_number)
  | boolean value =>
      have bare : (Argument.boolean value).text ≠ [] ∧
          ((Argument.boolean value).text.all fun character =>
            decide (IsBare character)) = true := by
        cases value with
        | true => decide
        | false => decide
      grind
  | variablePath path => exact .inr (path.bare fun _ => isBare_path)

theorem Quote.bare_ends (quote : Quote) :
    isTrimmed quote.character = false ∧ isLineTerminator quote.character = false ∧
      quote.character ≠ ',' := by
  cases quote with
  | single => decide
  | double => decide

/-- The ends of an argument are no white space. -/
theorem Argument.strip_text (written : WrittenArgument) :
    strip isTrimmed written.text = written.argument.text := by
  unfold WrittenArgument.text
  rw [List.append_assoc, strip_append_left (List.all_eq_true.mp written.before.2),
    strip_append_right (List.all_eq_true.mp written.behind.2)]
  rcases written.argument.text_cases with ⟨quote, literal, isQuoted⟩ | ⟨full, bare⟩
  · rw [isQuoted]
    apply strip_eq_self
    · intro character member
      cases Option.some.inj member
      exact quote.bare_ends.1
    · intro character member
      rw [Argument.text, ← List.cons_append, List.getLast?_concat] at member
      cases Option.some.inj member
      exact quote.bare_ends.1
  · apply strip_eq_self
    · intro character member
      exact (bare character (List.mem_of_mem_head? member)).not_trimmed
    · intro character member
      exact (bare character (List.mem_of_mem_getLast? member)).not_trimmed

theorem Argument.text_ne_nil (argument : Argument) : argument.text ≠ [] := by
  rcases argument.text_cases with ⟨quote, literal, rfl⟩ | ⟨full, -⟩
  · exact List.cons_ne_nil _ _
  · exact full

theorem comma_not_padding (padding : Padding) : ',' ∉ padding.1 := by
  intro member
  have white := List.all_eq_true.mp padding.2 ',' member
  exact absurd white (by decide)

theorem strippedParts_argument {written : WrittenArgument}
    (noComma : ',' ∉ written.argument.text) :
    strippedParts isTrimmed ',' written.text = [written.argument.text] := by
  have absent : ',' ∉ written.text := by
    simp [WrittenArgument.text, comma_not_padding, noComma]
  rw [strippedParts_single absent, Argument.strip_text]
  exact List.filter_eq_self.mpr fun part member => by
    rw [List.mem_singleton.mp member]
    exact bne_iff_ne.mpr written.argument.text_ne_nil

theorem strippedParts_comma {written : WrittenArgument} (comma : ',' ∈ written.argument.text) :
    2 ≤ (strippedParts isTrimmed ',' written.text).length := by
  rcases written.argument.text_cases with ⟨quote, literal, isQuoted⟩ | ⟨-, bare⟩
  · obtain ⟨printed, -, notComma⟩ := quote.bare_ends
    rw [isQuoted] at comma
    have inLiteral : ',' ∈ literal := by
      rcases List.mem_cons.mp comma with isQuote | inside
      · exact absurd isQuote.symm notComma
      · grind
    obtain ⟨front, back, rfl⟩ := List.append_of_mem inLiteral
    have cut : written.text = (written.before.1 ++ quote.character :: front) ++
        ',' :: (back ++ [quote.character] ++ written.behind.1) := by
      rw [WrittenArgument.text, isQuoted, Argument.text]
      simp only [List.append_assoc, List.cons_append]
    have quoteFront : quote.character ∈ written.before.1 ++ quote.character :: front :=
      List.mem_append_right _ List.mem_cons_self
    have quoteBack : quote.character ∈ back ++ [quote.character] ++ written.behind.1 :=
      List.mem_append_left _ (List.mem_append_right _ (List.mem_singleton_self _))
    have someFront := List.length_pos_iff.mpr (strippedParts_ne_nil quoteFront printed notComma)
    have someBack := List.length_pos_iff.mpr (strippedParts_ne_nil quoteBack printed notComma)
    rw [cut, strippedParts_append, List.length_append]
    omega
  · exact absurd (bare ',' comma).2.2.2.2.2 (by decide)

/-! ### All arguments -/

theorem rawArguments_eq (argsSection : List Char) :
    rawArguments argsSection = strippedParts isTrimmed ',' argsSection := by
  rw [← strippedParts_strip argsSection (by decide)]
  show (if strip isTrimmed argsSection = [] then []
    else strippedParts isTrimmed ',' (strip isTrimmed argsSection)) = _
  by_cases blank : strip isTrimmed argsSection = []
  · rw [if_pos blank, blank]
    rfl
  · rw [if_neg blank]

theorem rawArguments_text (written : List WrittenArgument) :
    rawArguments (argumentsText written) =
      written.flatMap fun argument => strippedParts isTrimmed ',' argument.text := by
  rw [rawArguments_eq, argumentsText, strippedParts_intercalate, List.flatMap_map]

theorem rawArguments_plain (noComma : ∀ argument ∈ written, ',' ∉ argument.argument.text) :
    rawArguments (argumentsText written) = written.map fun argument => argument.argument.text := by
  rw [rawArguments_text]
  induction written with
  | nil => rfl
  | cons head tail inductionHypothesis =>
      grind [strippedParts_argument]

/-- There are as many parts as arguments only if there is no comma in them. -/
theorem noComma_of_length :
    written.length ≤ (rawArguments (argumentsText written)).length ∧
      ((rawArguments (argumentsText written)).length = written.length →
        ∀ argument ∈ written, ',' ∉ argument.argument.text) := by
  rw [rawArguments_text]
  induction written with
  | nil => exact ⟨Nat.le_refl 0, fun _ => nofun⟩
  | cons head tail inductionHypothesis =>
      obtain ⟨atLeast, onlyIf⟩ := inductionHypothesis
      rw [List.flatMap_cons, List.length_append, List.length_cons]
      by_cases comma : ',' ∈ head.argument.text
      · grind [strippedParts_comma]
      · grind [strippedParts_argument]

theorem oneLine_text :
    (argumentsText written).all (!isLineTerminator ·) = true ↔
      ∀ argument ∈ written, argument.text.all (!isLineTerminator ·) = true := by
  unfold argumentsText
  induction written with
  | nil => exact iff_of_true rfl nofun
  | cons head tail inductionHypothesis =>
      cases tail with
      | nil =>
          rw [List.map_singleton, List.intercalate_singleton, List.forall_mem_singleton]
      | cons next rest =>
          rw [List.map_cons] at inductionHypothesis
          rw [List.forall_mem_cons, List.map_cons, List.map_cons, List.intercalate_cons_cons,
            List.all_append, Bool.and_eq_true, List.all_append, Bool.and_eq_true,
            inductionHypothesis]
          exact and_congr_left fun _ => and_iff_left rfl

/-! ### What arrives -/

theorem not_mem_constructor (noN : 'n' ∉ text) :
    namesConstructor text = false := by
  induction text with
  | nil => rfl
  | cons head tail inductionHypothesis =>
      have tailNoN : 'n' ∉ tail := fun member => noN (List.mem_cons_of_mem head member)
      rw [namesConstructor, inductionHypothesis tailNoN, Bool.or_false]
      rcases found : (head :: tail).dropPrefix? ".constructor".toList with _ | behind
      · rfl
      · obtain ⟨start, split, isStart⟩ := List.dropPrefix?_eq_some_iff.mp found
        have inStart : 'n' ∈ start := by
          rw [eq_of_beq isStart]
          decide
        exact absurd (split ▸ List.mem_append_left behind inStart) noN

/-- An expression that jexpr evaluates to a value other than `null` has this value. -/
theorem resolveVariable_evaluated {value : Json} (full : trim text ≠ []) (noN : 'n' ∉ trim text)
    (read : inputs.evaluate (String.ofList text) inputs.objects = some value)
    (notNull : value ≠ .null) :
    resolveVariable inputs validate (String.ofList text) = .ok (some value) := by
  have result : evaluated inputs (String.ofList text) = some value := by
    simp [evaluated, validateConditionExpression, not_mem_constructor, noN, full, read, notNull]
  rw [resolveVariable, result]

theorem trim_bare (bare : ∀ character ∈ text, IsBare character) :
    trim text = text :=
  strip_eq_self
    (fun character member => (bare character (List.mem_of_mem_head? member)).not_trimmed)
    fun character member => (bare character (List.mem_of_mem_getLast? member)).not_trimmed

/-- A bare argument is no literal in quotes. -/
theorem stringMatch_bare (bare : ∀ character ∈ text, IsBare character) :
    stringMatch text = none := by
  cases text with
  | nil => rfl
  | cons head tail =>
      have codes := bare head List.mem_cons_self
      refine if_neg ?_
      rintro ⟨isQuote, -⟩
      rcases isQuote with rfl | rfl
      · exact absurd codes (by decide)
      · exact absurd codes (by decide)

theorem stringMatch_quoted {quote : Quote} {literal : List Char}
    (oneLine : (Argument.quoted quote literal).text.all (!isLineTerminator ·) = true) :
    stringMatch (Argument.quoted quote literal).text = some literal := by
  rw [Argument.text, List.all_cons, List.all_append, Bool.and_eq_true, Bool.and_eq_true] at oneLine
  rw [Argument.text, stringMatch, List.dropLast_concat]
  refine if_pos ⟨?_, List.getLast?_concat, oneLine.2.1⟩
  cases quote with
  | single => exact .inl rfl
  | double => exact .inr rfl

theorem resolve_path (inputs : TemplateInputs) (validate : Bool) (path : Written isPathCharacter) :
    (resolveTemplateExpression inputs validate (String.ofList path.1)).result =
      (Outcome.ofExcept (resolveVariable inputs validate (String.ofList path.1))).result := by
  have noCall : functionMatch path.1 = none := by
    rcases matched : functionMatch path.1 with _ | ⟨functionName, argsSection⟩
    · rfl
    · obtain ⟨split, -, -⟩ := functionMatch_eq_some.mp matched
      have parenthesis : '(' ∈ path.1 := by
        grind
      have bare := (path.bare fun _ => isBare_path).2 '(' parenthesis
      exact absurd bare (by decide)
  rw [resolveTemplateExpression, String.toList_ofList, noCall]

theorem Outcome.ofExcept_ok {α : Type} {answer : Except String α} {value : α} :
    (Outcome.ofExcept answer).result = .ok value ↔ answer = .ok value := by
  cases answer with
  | ok other =>
      show Except.ok other = Except.ok value ↔ _
      rw [Except.ok.injEq, Except.ok.injEq]
  | error message => exact iff_of_false nofun nofun

theorem resolveArgument_iff {argument : Argument} (reads : argument.IsRead inputs)
    (oneLine : argument.text.all (!isLineTerminator ·) = true) {value : Option Json} :
    resolveArgument inputs validate argument.text = .ok value ↔
      argument.HasValue inputs validate value := by
  cases argument with
  | quoted quote literal =>
      rw [resolveArgument, stringMatch_quoted oneLine]
      exact ⟨fun same => (Except.ok.inj same).symm, fun same => congrArg Except.ok same.symm⟩
  | number written printed =>
      obtain ⟨full, bare⟩ := written.bare fun _ => isBare_number
      have noN : 'n' ∉ trim written.1 := by
        rw [trim_bare bare]
        intro member
        exact absurd (List.all_eq_true.mp written.2.2 'n' member) (by decide)
      have isFull : trim written.1 ≠ [] := by rwa [trim_bare bare]
      rw [resolveArgument, Argument.text, stringMatch_bare bare]
      rw [resolveVariable_evaluated isFull noN reads nofun]
      exact ⟨fun same => (Except.ok.inj same).symm, fun same => congrArg Except.ok same.symm⟩
  | boolean flag =>
      obtain ⟨full, bare⟩ : (Argument.boolean flag).text ≠ [] ∧
          ∀ character ∈ (Argument.boolean flag).text, IsBare character :=
        (Argument.boolean flag).text_cases.resolve_left nofun
      have noN : 'n' ∉ trim (Argument.boolean flag).text := by
        cases flag with
        | true => decide
        | false => decide
      have isFull : trim (Argument.boolean flag).text ≠ [] := by rwa [trim_bare bare]
      rw [resolveArgument, stringMatch_bare bare]
      rw [resolveVariable_evaluated isFull noN reads nofun]
      exact ⟨fun same => (Except.ok.inj same).symm, fun same => congrArg Except.ok same.symm⟩
  | variablePath path =>
      have bare := (path.bare fun _ => isBare_path).2
      rw [resolveArgument, Argument.text, stringMatch_bare bare, Argument.HasValue, resolve_path,
        Outcome.ofExcept_ok]

/-! ### The whole call -/

section Call

variable {inputs : TemplateInputs} {validate : Bool} {functionName : List Char}
  {written : List WrittenArgument}

theorem argument_oneLine {argument : WrittenArgument}
    (oneLine : argument.text.all (!isLineTerminator ·) = true) :
    argument.argument.text.all (!isLineTerminator ·) = true := by
  grind [WrittenArgument.text]

/-- Arguments that are cut apart where they end are resolved to their values. -/
theorem mapM_resolveArgument (reads : ∀ argument ∈ written, argument.argument.IsRead inputs)
    (oneLine : ∀ argument ∈ written, argument.text.all (!isLineTerminator ·) = true)
    {values : List (Option Json)} :
    (written.map fun argument => argument.argument.text).mapM (resolveArgument inputs validate) =
        .ok values ↔
      List.Forall₂ (fun (argument : WrittenArgument) value =>
        argument.argument.HasValue inputs validate value) written values := by
  rw [mapM_eq_ok, List.forall₂_map_left_iff]
  induction written generalizing values with
  | nil => rw [List.forall₂_nil_left_iff, List.forall₂_nil_left_iff]
  | cons head tail inductionHypothesis =>
      grind [List.forall₂_cons_left_iff, resolveArgument_iff, argument_oneLine]

/-- A variable has a value, but for one that is missing where the template is validated. -/
theorem variable_hasValue {path : Written isPathCharacter} :
    (∃ value, (Argument.variablePath path).HasValue inputs validate value) ↔
      (validate = true → (evaluated inputs (String.ofList path.1)).isSome = true ∨
        (getValueAtPath inputs.objects (String.ofList path.1)).isSome = true) := by
  simp only [Argument.HasValue, resolve_path, Outcome.ofExcept_ok]
  unfold resolveVariable
  rcases evaluated inputs (String.ofList path.1) with _ | value
  · rcases getValueAtPath inputs.objects (String.ofList path.1) with _ | value
    · cases validate with
      | true => simp
      | false => simp
    · simp
  · simp

theorem exists_values
    (found : ∀ argument ∈ written, ∀ path, argument.argument = .variablePath path →
      ∃ value, (Argument.variablePath path).HasValue inputs validate value) :
    ∃ values, List.Forall₂ (fun (argument : WrittenArgument) value =>
      argument.argument.HasValue inputs validate value) written values := by
  induction written with
  | nil => exact ⟨[], .nil⟩
  | cons head tail inductionHypothesis =>
      obtain ⟨values, areValues⟩ := inductionHypothesis fun argument member =>
        found argument (List.mem_cons_of_mem head member)
      have headValue : ∃ value, head.argument.HasValue inputs validate value := by
        cases kind : head.argument with
        | quoted quote literal => exact ⟨_, rfl⟩
        | number written printed => exact ⟨_, rfl⟩
        | boolean flag => exact ⟨_, rfl⟩
        | variablePath path => exact found head List.mem_cons_self path kind
      obtain ⟨value, isValue⟩ := headValue
      exact ⟨value :: values, .cons isValue areValues⟩

end Call

/-- The arguments of a call arrive if and only if the call is plain. -/
theorem argumentsArrive_iff (inputs : TemplateInputs) (validate : Bool)
    (functionName : List Char) (function : TemplateFunction)
    (registered : inputs.functions (String.ofList functionName) = some function)
    (written : List WrittenArgument)
    (reads : ∀ argument ∈ written, argument.argument.IsRead inputs) :
    ArgumentsArrive inputs validate functionName written ↔
      IsPlainCall inputs validate functionName written := by
  constructor
  · rintro ⟨values, areValues, called⟩
    obtain ⟨name, argsSection, _, others, matched, -, areOthers, same⟩ :=
      calls_eq_singleton.mp called
    rw [FunctionCall.mk.injEq, String.ofList_inj] at same
    obtain ⟨rfl, rfl⟩ := same
    rw [String.toList_ofList, functionMatch_eq_some, callText, List.append_cancel_left_eq,
      List.cons.injEq, List.append_cancel_right_eq] at matched
    obtain ⟨⟨-, rfl⟩, isName, oneLine⟩ := matched
    have sameLength : (rawArguments (argumentsText written)).length = written.length := by
      rw [(mapM_eq_ok.mp areOthers).length_eq, areValues.length_eq]
    refine ⟨isName, noComma_of_length.2 sameLength, oneLine_text.mp oneLine, ?_⟩
    intro validates argument member path isPath
    obtain ⟨value, hasValue⟩ := forall₂_mem areValues member
    rw [isPath] at hasValue
    exact variable_hasValue.mp ⟨value, hasValue⟩ validates
  · intro plain
    obtain ⟨values, areValues⟩ := exists_values fun argument member path isPath =>
      variable_hasValue.mpr fun validates => plain.found validates argument member path isPath
    refine ⟨values, areValues, calls_eq_singleton.mpr ⟨functionName, argumentsText written,
      function, values, ?_, registered, ?_, rfl⟩⟩
    · rw [String.toList_ofList, functionMatch_eq_some]
      exact ⟨rfl, plain.name, oneLine_text.mpr plain.oneLine⟩
    · rw [rawArguments_plain plain.noComma]
      exact (mapM_resolveArgument reads plain.oneLine).mpr areValues

/-! ### Two literals -/

def noPadding : Padding := ⟨[], rfl⟩

/-- A template function that returns its first argument, and an evaluation that reads nothing. -/
def firstInputs : TemplateInputs where
  objects := []
  functions name := if name = "first" then some fun args => .ok args.head?.join else none
  evaluate _ _ := none

def literalArgument (literal : String) : WrittenArgument where
  before := noPadding
  argument := .quoted .single literal.toList
  behind := noPadding

theorem reads_literals {literals : List String} :
    ∀ argument ∈ literals.map literalArgument, argument.argument.IsRead firstInputs := by
  intro argument member
  obtain ⟨literal, -, rfl⟩ := List.mem_map.mp member
  trivial

theorem argumentsArrive_iff_parenthesis :
    ArgumentsArrive firstInputs true "first".toList (["a(b)", ""].map literalArgument) ↔
      IsPlainCall firstInputs true "first".toList (["a(b)", ""].map literalArgument) :=
  argumentsArrive_iff firstInputs true "first".toList (fun args => .ok args.head?.join) rfl
    (["a(b)", ""].map literalArgument) reads_literals

/-- A literal with a comma arrives as two arguments that are not found. -/
theorem not_argumentsArrive : ¬ ∀ (inputs : TemplateInputs) (validate : Bool)
    (functionName : List Char) (function : TemplateFunction),
    inputs.functions (String.ofList functionName) = some function →
    ∀ written : List WrittenArgument,
      (∀ argument ∈ written, argument.argument.IsRead inputs) →
      ArgumentsArrive inputs validate functionName written := by
  intro arrive
  obtain ⟨values, areValues, called⟩ := arrive firstInputs false "first".toList
    (fun args => .ok args.head?.join) rfl (["a,b"].map literalArgument) reads_literals
  have calls : (resolveTemplateExpression firstInputs false
      (String.ofList (callText "first".toList (["a,b"].map literalArgument)))).calls.map
        (·.args.length) = [2] := by
    decide +kernel
  rw [called] at calls
  have oneValue := areValues.length_eq
  have twoValues : values.length = 2 := List.head_eq_of_cons_eq calls
  rw [twoValues] at oneValue
  cases oneValue

end Lombok.Templates
