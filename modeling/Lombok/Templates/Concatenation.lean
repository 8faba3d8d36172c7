import Lombok.Templates.DataTemplate

/-!
Contract: the text a template with several expressions becomes.

Owns what `resolveValue` makes of a text, for every template and every value of
its expressions, and exactly when that is the literal text with the values in
it: a placeholder is replaced where it first occurs by then, and the value is
put in as a replacement pattern.

Does not own: what an expression evaluates to.
-/

namespace Lombok.Templates

open Lombok.Core Lombok.Library
open Lombok.Tunnel (trim)

/-! ### Patterns in a value -/

/-- `getSubstitution`, with what comes from a pattern unmarked. -/
def markedSubstitution (before matched behind : List Char) : List Char → List (Marked Char)
  | [] => []
  | [character] => [(character, true)]
  | character :: next :: rest =>
      if character = '$' then
        match substitution before matched behind next with
        | some copied => marks false copied ++ markedSubstitution before matched behind rest
        | none => ('$', true) :: markedSubstitution before matched behind (next :: rest)
      else (character, true) :: markedSubstitution before matched behind (next :: rest)

/-- The characters that make a pattern behind a dollar sign. -/
def isPatternCharacter (character : Char) : Bool :=
  ['$', '&', Char.ofNat 96, '\''].contains character

/-- No dollar sign in the value is followed by a character that makes a pattern with it. -/
def HasNoPattern (value : List Char) : Prop :=
  ∀ front next rest, value = front ++ '$' :: next :: rest → isPatternCharacter next = false

theorem substitution_isSome (before matched behind : List Char) (character : Char) :
    (substitution before matched behind character).isSome = isPatternCharacter character := by
  grind [substitution, isPatternCharacter]

theorem hasNoPattern_cons {character next : Char} {rest : List Char} :
    HasNoPattern (character :: next :: rest) ↔
      (character = '$' → isPatternCharacter next = false) ∧ HasNoPattern (next :: rest) := by
  constructor
  · intro noPattern
    refine ⟨?_, ?_⟩
    · rintro rfl
      exact noPattern [] next rest rfl
    · intro front other others split
      exact noPattern (character :: front) other others (by rw [split]; rfl)
  · rintro ⟨here, later⟩ front other others split
    cases front with
    | nil =>
        cases split
        exact here rfl
    | cons first front =>
        rw [List.cons_append, List.cons.injEq] at split
        exact later front other others split.2

theorem unmarked_markedSubstitution (before matched behind value : List Char) :
    unmarked (markedSubstitution before matched behind value) =
      getSubstitution before matched behind value := by
  fun_induction getSubstitution before matched behind value with
  | case1 => rfl
  | case2 character => rfl
  | case3 next rest copied isPattern inductionHypothesis =>
      rw [markedSubstitution, if_pos rfl, isPattern]
      dsimp only
      rw [unmarked_append, unmarked_marks, inductionHypothesis]
  | case4 next rest isPlain inductionHypothesis =>
      rw [markedSubstitution, if_pos rfl, isPlain]
      exact congrArg ('$' :: ·) inductionHypothesis
  | case5 character next rest notDollar inductionHypothesis =>
      rw [markedSubstitution, if_neg notDollar]
      exact congrArg (character :: ·) inductionHypothesis

theorem markCount_cons (character : Char) (text : List (Marked Char)) :
    markCount ((character, true) :: text) = markCount text + 1 :=
  List.countP_cons_of_pos rfl

/-- A pattern loses two characters of the value, and nothing else is lost. -/
theorem markedSubstitution_spec (before matched behind value : List Char) :
    markCount (markedSubstitution before matched behind value) ≤ value.length ∧
      (markCount (markedSubstitution before matched behind value) = value.length →
        HasNoPattern value) ∧
      (HasNoPattern value → markedSubstitution before matched behind value = marks true value) := by
  fun_induction markedSubstitution before matched behind value with
  | case1 =>
      refine ⟨Nat.le_refl _, fun _ => ?_, fun _ => rfl⟩
      intro front next rest split
      exact absurd split.symm (by simp)
  | case2 character =>
      refine ⟨Nat.le_refl _, fun _ => ?_, fun _ => rfl⟩
      intro front next rest split
      grind
  | case3 next rest copied isPattern inductionHypothesis =>
      have special := substitution_isSome before matched behind next
      rw [isPattern, Option.isSome_some] at special
      rw [markCount_append, markCount_marks_false, List.length_cons, List.length_cons]
      refine ⟨by omega, fun same => by omega, fun noPattern => ?_⟩
      have plain := (hasNoPattern_cons.mp noPattern).1 rfl
      rw [← special] at plain
      cases plain
  | case4 next rest isPlain inductionHypothesis =>
      have plain := substitution_isSome before matched behind next
      rw [isPlain, Option.isSome_none] at plain
      obtain ⟨atMost, lossless, verbatim⟩ := inductionHypothesis
      rw [markCount_cons, hasNoPattern_cons]
      rw [List.length_cons] at atMost lossless ⊢
      refine ⟨by simpa using atMost,
        fun same => ⟨fun _ => plain.symm, lossless (by simpa using same)⟩, fun noPattern => ?_⟩
      rw [verbatim noPattern.2]
      rfl
  | case5 character next rest notDollar inductionHypothesis =>
      obtain ⟨atMost, lossless, verbatim⟩ := inductionHypothesis
      rw [markCount_cons, hasNoPattern_cons]
      rw [List.length_cons] at atMost lossless ⊢
      refine ⟨by simpa using atMost,
        fun same => ⟨fun isDollar => absurd isDollar notDollar, lossless (by simpa using same)⟩,
        fun noPattern => ?_⟩
      rw [verbatim noPattern.2]
      rfl

theorem markedSubstitution_fair : Expansion.IsFair markedSubstitution where
  atMost before search behind value := (markedSubstitution_spec before search behind value).1
  verbatim before search behind value same :=
    (markedSubstitution_spec before search behind value).2.2
      ((markedSubstitution_spec before search behind value).2.1 same)

theorem markedSubstitution_iff (before matched behind value : List Char) :
    markedSubstitution before matched behind value = marks true value ↔ HasNoPattern value := by
  grind [markedSubstitution_spec, markCount_marks_true]

/-! ### The template and its values -/

def Piece.text : Piece → List Char
  | literal character => [character]
  | expression found => found.text

/-- A placeholder with the text of the expression's value. -/
def Piece.slot (values : List Char → Option Json) : Piece → Slot Char
  | literal character => .literal character
  | expression found =>
      .placeholder found.text (stringified (values found.expression)).toList

def templateSlots (values : List Char → Option Json) (template : String) : List (Slot Char) :=
  (pieces template).map (Piece.slot values)

/-- The literal characters of a template and the texts of its values, in order. -/
def filledTemplate (values : List Char → Option Json) (template : String) : String :=
  String.ofList (unmarked (filledText (templateSlots values template)))

/-- A template that is one expression, but for white space around it. -/
def isWholeExpression (template : String) : Bool :=
  match templateMatches template with
  | [first] => first.text == trim template.toList
  | _ => false

/-- The template becomes its literal characters and the texts of its values, and where the
expressions are replaced no character of it comes from a pattern or stands in for another one. -/
structure ConcatenatesLiterally (inputs : TemplateInputs) (validate : Bool)
    (values : List Char → Option Json) (template : String) : Prop where
  text : (resolveValue inputs validate none [] (.str template)).result =
    .ok (.str (filledTemplate values template))
  origins : isWholeExpression template = false →
    replaceAll markedSubstitution (templateSlots values template)
        (writtenText (templateSlots values template)) =
      filledText (templateSlots values template)

/-- A single expression has a text for its value and no white space around it. Of several, none
occurs before its own place once those before it are filled in, and no value has a pattern in it. -/
structure IsLiteralTemplate (values : List Char → Option Json) (template : String) : Prop where
  whole : isWholeExpression template = true → ∀ found ∈ templateMatches template,
    found.text = template.toList ∧ ∃ text, values found.expression = some (.str text)
  places : isWholeExpression template = false → ∀ before found behind,
    pieces template = before ++ .expression found :: behind →
      ¬ found.text <:+:
          unmarked (filledText (before.map (Piece.slot values))) ++ found.text.dropLast ∧
        HasNoPattern (stringified (values found.expression)).toList

/-! ### The scan -/

theorem matchTemplate_text {character : Char} {rest : List Char} {found : TemplateMatch}
    (matched : matchTemplate (character :: rest) = some found) :
    found.text ≠ [] ∧ found.text = (character :: rest).take found.text.length := by
  unfold matchTemplate at matched
  split at matched
  · cases matched
  · obtain ⟨skipped, -, isFound⟩ := List.exists_of_findSome?_eq_some matched
    obtain ⟨inner, -, rfl⟩ := Option.map_eq_some_iff.mp isFound
    simp

theorem scanTemplate_text (skipped : Nat) (text : List Char) :
    (scanTemplate skipped text).flatMap Piece.text = text.drop skipped := by
  fun_induction scanTemplate skipped text with
  | case1 skipped => rw [List.flatMap_nil, List.drop_nil]
  | case2 skipped character rest inductionHypothesis =>
      rw [inductionHypothesis, List.drop_succ_cons]
  | case3 character rest found matched inductionHypothesis =>
      obtain ⟨full, atFront⟩ := matchTemplate_text matched
      obtain ⟨size, isSize⟩ := Nat.exists_eq_succ_of_ne_zero
        (Nat.pos_iff_ne_zero.mp (List.length_pos_iff.mpr full))
      rw [isSize] at atFront
      rw [List.flatMap_cons, inductionHypothesis, Piece.text, isSize, List.drop_zero, atFront,
        List.take_succ_cons, Nat.succ_sub_one, List.cons_append, List.take_append_drop]
  | case4 character rest unmatched inductionHypothesis =>
      rw [List.flatMap_cons, inductionHypothesis]
      rfl

theorem scanTemplate_full (skipped : Nat) (text : List Char) {found : TemplateMatch}
    (member : Piece.expression found ∈ scanTemplate skipped text) : found.text ≠ [] := by
  fun_induction scanTemplate skipped text with
  | case1 skipped => cases member
  | case2 skipped character rest inductionHypothesis => exact inductionHypothesis member
  | case3 character rest first matched inductionHypothesis =>
      grind [matchTemplate_text]
  | case4 character rest unmatched inductionHypothesis =>
      grind

section Template

variable {values : List Char → Option Json}

theorem unmarked_written (template : String) :
    unmarked (writtenText (templateSlots values template)) = template.toList := by
  have text := scanTemplate_text 0 template.toList
  rw [List.drop_zero] at text
  have perPiece : ∀ parts : List Piece,
      unmarked (writtenText (parts.map (Piece.slot values))) = parts.flatMap Piece.text := by
    intro parts
    induction parts with
    | nil => rfl
    | cons head tail inductionHypothesis =>
        rw [List.map_cons, writtenText_cons, unmarked_append, inductionHypothesis,
          List.flatMap_cons]
        cases head with
        | literal character => rfl
        | expression found =>
            rw [Piece.slot, Slot.written, unmarked_marks]
            rfl
  exact (perPiece (pieces template)).trans text

theorem templateSlots_full (template : String) :
    ∀ slot ∈ templateSlots values template, slot.IsFull := by
  intro slot member
  obtain ⟨piece, isPiece, rfl⟩ := List.mem_map.mp member
  cases piece with
  | literal character => trivial
  | expression found => exact scanTemplate_full 0 template.toList isPiece

/-- Every placeholder of the template fills its own place when none of them occurs earlier and no
value has a pattern in it. -/
theorem fillOwnPlaces_iff (template : String) :
    FillOwnPlaces markedSubstitution [] (templateSlots values template) ↔
      ∀ before found behind, pieces template = before ++ .expression found :: behind →
        ¬ found.text <:+:
            unmarked (filledText (before.map (Piece.slot values))) ++ found.text.dropLast ∧
          HasNoPattern (stringified (values found.expression)).toList := by
  constructor
  · intro own before found behind split
    have slots : templateSlots values template = before.map (Piece.slot values) ++
        (Piece.expression found).slot values :: behind.map (Piece.slot values) := by
      unfold templateSlots
      rw [split, List.map_append, List.map_cons]
    obtain ⟨place, verbatim⟩ := own _ _ _ slots
    exact ⟨place, (markedSubstitution_iff _ _ _ _).mp verbatim⟩
  · intro places before slot behind split
    obtain ⟨front, rest, isPieces, rfl, isRest⟩ := List.map_eq_append_iff.mp split
    obtain ⟨piece, back, rfl, rfl, rfl⟩ := List.map_eq_cons_iff.mp isRest
    cases piece with
    | literal character => trivial
    | expression found =>
        obtain ⟨place, noPattern⟩ := places front found back isPieces
        exact ⟨place, (markedSubstitution_iff _ _ _ _).mpr noPattern⟩

/-! ### The loop -/

theorem unmarked_replaceFirst (search value : List Char) (text : List (Marked Char)) :
    unmarked (replaceFirst markedSubstitution search value text) =
      replace search value (unmarked text) := by
  unfold replaceFirst replace
  rcases split : splitAtFirst search (unmarked text) with _ | ⟨before, behind⟩
  · rfl
  · have plain := (splitAtFirst_some split).1
    have front : unmarked (text.take before.length) = before := by
      show List.map _ _ = _
      rw [List.map_take]
      show (unmarked text).take _ = _
      rw [plain, List.append_assoc, List.take_left]
    have back : unmarked (text.drop (before.length + search.length)) = behind := by
      show List.map _ _ = _
      rw [List.map_drop]
      grind [unmarked]
    dsimp only
    rw [unmarked_append, unmarked_append, front, back, unmarked_markedSubstitution]

variable {inputs : TemplateInputs} {validate : Bool}

theorem outcome_bind_ok {α β : Type} {first : Outcome α} {next : α → Outcome β} {value : α}
    (returned : first.result = .ok value) : (first >>= next).result = (next value).result := by
  show (Outcome.bind first next).result = _
  unfold Outcome.bind
  rw [returned]

/-- The loop over the matches replaces the placeholders of the pieces. -/
theorem replaceExpressions_result (parts : List Piece)
    (resolves : ∀ found ∈ parts.filterMap Piece.match?,
      (resolveTemplateExpression inputs validate (String.ofList found.expression)).result =
        .ok (values found.expression)) (text : List (Marked Char)) :
    (replaceExpressions inputs validate (parts.filterMap Piece.match?) (unmarked text)).result =
      .ok (unmarked (replaceAll markedSubstitution (parts.map (Piece.slot values)) text)) := by
  induction parts generalizing text with
  | nil => rfl
  | cons head tail inductionHypothesis =>
      cases head with
      | literal character => exact inductionHypothesis resolves text
      | expression found =>
          have resolvesTail := fun other member =>
            resolves other (List.mem_cons_of_mem found member)
          have here := resolves found List.mem_cons_self
          have onward := inductionHypothesis resolvesTail (replaceFirst markedSubstitution
            found.text (stringified (values found.expression)).toList text)
          rw [unmarked_replaceFirst] at onward
          show (replaceExpressions inputs validate (found :: tail.filterMap Piece.match?)
            (unmarked text)).result = _
          rw [replaceExpressions, outcome_bind_ok here, onward]
          rfl

/-- A template that is not one whole expression becomes what the replacements leave. -/
theorem resolveText_result {template : String}
    (resolves : ∀ found ∈ templateMatches template,
      (resolveTemplateExpression inputs validate (String.ofList found.expression)).result =
        .ok (values found.expression))
    (notWhole : isWholeExpression template = false) :
    (resolveText inputs validate template).result =
      .ok (.str (String.ofList (unmarked (replaceAll markedSubstitution
        (templateSlots values template) (writtenText (templateSlots values template)))))) := by
  have replaced := replaceExpressions_result (pieces template) resolves
    (writtenText (templateSlots values template))
  rw [unmarked_written] at replaced
  unfold resolveText
  unfold isWholeExpression at notWhole
  change (replaceExpressions inputs validate (templateMatches template) template.toList).result =
    _ at replaced
  rcases areMatches : templateMatches template with _ | ⟨first, rest⟩
  · rw [areMatches] at replaced
    have unchanged : template.toList = unmarked (replaceAll markedSubstitution
        (templateSlots values template) (writtenText (templateSlots values template))) :=
      Except.ok.inj replaced
    rw [← unchanged, String.ofList_toList]
    rfl
  · have severalOrPadded : ¬ (rest = [] ∧ first.text = trim template.toList) := by
      rintro ⟨rfl, same⟩
      rw [areMatches] at notWhole
      dsimp only at notWhole
      rw [same, beq_self_eq_true] at notWhole
      cases notWhole
    rw [areMatches] at replaced
    dsimp only
    rw [if_neg severalOrPadded, outcome_bind_ok replaced]
    rfl

theorem pieces_literal {parts : List Piece} (none : parts.filterMap Piece.match? = []) :
    ∃ characters : List Char, parts = characters.map .literal := by
  induction parts with
  | nil => exact ⟨[], rfl⟩
  | cons head tail inductionHypothesis =>
      cases head with
      | literal character =>
          obtain ⟨characters, rfl⟩ := inductionHypothesis none
          exact ⟨character :: characters, rfl⟩
      | expression found => cases none

theorem pieces_single {parts : List Piece} {found : TemplateMatch}
    (single : parts.filterMap Piece.match? = [found]) :
    ∃ before behind : List Char,
      parts = before.map .literal ++ .expression found :: behind.map .literal := by
  induction parts with
  | nil => cases single
  | cons head tail inductionHypothesis =>
      cases head with
      | literal character =>
          obtain ⟨before, behind, rfl⟩ := inductionHypothesis single
          exact ⟨character :: before, behind, rfl⟩
      | expression first =>
          obtain ⟨rfl, none⟩ := List.cons.inj single
          obtain ⟨behind, rfl⟩ := pieces_literal none
          exact ⟨[], behind, rfl⟩

theorem unmarked_filled_literal (characters : List Char) :
    unmarked (filledText ((characters.map Piece.literal).map (Piece.slot values))) =
      characters := by
  induction characters with
  | nil => rfl
  | cons head tail inductionHypothesis => exact congrArg (head :: ·) inductionHypothesis

theorem template_single {template : String} {found : TemplateMatch}
    (single : templateMatches template = [found]) :
    ∃ before behind : List Char, template.toList = before ++ found.text ++ behind ∧
      filledTemplate values template =
        String.ofList (before ++ (stringified (values found.expression)).toList ++ behind) := by
  obtain ⟨before, behind, split⟩ := pieces_single single
  refine ⟨before, behind, ?_, ?_⟩
  · have text : (pieces template).flatMap Piece.text = template.toList :=
      scanTemplate_text 0 template.toList
    have literalText : ∀ characters : List Char,
        (characters.map Piece.literal).flatMap Piece.text = characters := by
      intro characters
      induction characters with
      | nil => rfl
      | cons head tail inductionHypothesis => exact congrArg (head :: ·) inductionHypothesis
    grind [Piece.text]
  · unfold filledTemplate templateSlots
    grind [filledText_append, filledText_cons, unmarked_append, unmarked_filled_literal, Piece.slot,
      Slot.filled, unmarked_marks]

theorem nothing_around {before text behind : List Char} (same : text = before ++ text ++ behind) :
    before = [] ∧ behind = [] := by
  have lengths := congrArg List.length same
  rw [List.length_append, List.length_append] at lengths
  exact ⟨List.length_eq_zero_iff.mp (by omega), List.length_eq_zero_iff.mp (by omega)⟩

/-- A template becomes its literal text with its values if and only if it is literal. -/
theorem concatenatesLiterally_iff (inputs : TemplateInputs) (validate : Bool)
    (values : List Char → Option Json) (template : String)
    (resolves : ∀ found ∈ templateMatches template,
      (resolveTemplateExpression inputs validate (String.ofList found.expression)).result =
        .ok (values found.expression)) :
    ConcatenatesLiterally inputs validate values template ↔ IsLiteralTemplate values template := by
  have isText : resolveValue inputs validate none [] (.str template) =
      resolveText inputs validate template := by
    rw [resolveValue]
    rfl
  have places := (replaceAll_eq_filledText_iff markedSubstitution_fair
    (templateSlots values template) (templateSlots_full template)).trans
      (fillOwnPlaces_iff template)
  cases whole : isWholeExpression template with
  | false =>
      constructor
      · intro literal
        exact ⟨fun isWhole => absurd (whole.symm.trans isWhole) Bool.false_ne_true,
          fun _ => places.mp (literal.origins whole)⟩
      · intro safe
        have filled := places.mpr (safe.places whole)
        refine ⟨?_, fun _ => filled⟩
        rw [isText, resolveText_result resolves whole, filled]
        rfl
  | true =>
      obtain ⟨found, single, isTrimmed⟩ : ∃ found, templateMatches template = [found] ∧
          found.text = trim template.toList := by
        unfold isWholeExpression at whole
        split at whole
        · rename_i first isFirst
          exact ⟨first, isFirst, eq_of_beq whole⟩
        · cases whole
      obtain ⟨before, behind, text, filled⟩ :
          ∃ before behind : List Char, template.toList = before ++ found.text ++ behind ∧
            filledTemplate values template = String.ofList
              (before ++ (stringified (values found.expression)).toList ++ behind) :=
        template_single single
      have here := resolves found (by rw [single]; exact List.mem_singleton_self found)
      have result : (resolveText inputs validate template).result =
          .ok (Json.ofOption (values found.expression)) := by
        unfold resolveText
        rw [single]
        dsimp only
        rw [if_pos ⟨rfl, isTrimmed⟩, outcome_bind_ok here]
        rfl
      constructor
      · intro literal
        refine ⟨fun _ => ?_, fun notWhole => absurd (whole.symm.trans notWhole) (by decide)⟩
        rw [single, List.forall_mem_singleton]
        have same := literal.text
        rw [isText, result] at same
        have isString := Except.ok.inj same
        cases value : values found.expression with
        | none =>
            rw [value] at isString
            cases isString
        | some resolved =>
            rw [value] at isString
            have isResolved : resolved = .str (filledTemplate values template) := isString
            rw [value, isResolved] at filled
            obtain ⟨noBefore, noBehind⟩ := nothing_around
              ((congrArg String.toList filled).trans (String.toList_ofList))
            rw [noBefore, noBehind, List.append_nil, List.nil_append] at text
            exact ⟨text.symm, _, congrArg some isResolved⟩
      · intro safe
        refine ⟨?_, fun notWhole => absurd (whole.symm.trans notWhole) (by decide)⟩
        obtain ⟨isTemplate, value, isValue⟩ := safe.whole whole found (by
          rw [single]
          exact List.mem_singleton_self found)
        obtain ⟨noBefore, noBehind⟩ := nothing_around (isTemplate.trans text)
        rw [isText, result, filled, isValue, noBefore, noBehind, List.append_nil, List.nil_append]
        exact congrArg (fun text => Except.ok (Json.str text)) String.ofList_toList.symm

end Template

/-! ### Two expressions -/

/-- Two variables, the first with a pattern and the second placeholder in its value. -/
def patternInputs (first : String) : TemplateInputs where
  objects := [("a", .str first), ("b", .str "B")]
  functions _ := none
  evaluate _ _ := none

def patternValues (first : String) (expression : List Char) : Option Json :=
  Fields.get? (patternInputs first).objects (String.ofList expression)

def twoExpressions : String := "\x7b\x7ba\x7d\x7d-\x7b\x7bb\x7d\x7d"

theorem resolves_twoExpressions (first : String) :
    ∀ found ∈ templateMatches twoExpressions,
      (resolveTemplateExpression (patternInputs first) false
        (String.ofList found.expression)).result =
          .ok (patternValues first found.expression) := by
  intro found member
  rcases List.mem_cons.mp member with rfl | member
  · rfl
  · rw [List.mem_singleton.mp member]
    rfl

theorem concatenatesLiterally_iff_digit :
    ConcatenatesLiterally (patternInputs "$1") false (patternValues "$1") twoExpressions ↔
      IsLiteralTemplate (patternValues "$1") twoExpressions :=
  concatenatesLiterally_iff (patternInputs "$1") false (patternValues "$1") twoExpressions
    (resolves_twoExpressions "$1")

/-- The value `$&` stands for the placeholder it replaces. -/
theorem not_concatenatesLiterally : ¬ ∀ (inputs : TemplateInputs) (validate : Bool)
    (values : List Char → Option Json) (template : String),
    (∀ found ∈ templateMatches template,
      (resolveTemplateExpression inputs validate (String.ofList found.expression)).result =
        .ok (values found.expression)) →
    ConcatenatesLiterally inputs validate values template := by
  intro literal
  have text := (literal (patternInputs "$&") false (patternValues "$&") twoExpressions
    (resolves_twoExpressions "$&")).text
  have isFilled : filledTemplate (patternValues "$&") twoExpressions = "$&-B" := by
    decide +kernel
  have printed : (resolveValue (patternInputs "$&") false none []
      (.str twoExpressions)).result.toOption.map Json.stringify =
        some "\"\x7b\x7ba\x7d\x7d-B\"" := by
    decide +kernel
  rw [text, isFilled] at printed
  exact absurd printed (by decide +kernel)

end Lombok.Templates
