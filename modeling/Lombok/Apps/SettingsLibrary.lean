import Lombok.Apps.SettingsDialect

/-!
Contract: a library of schemas that does what is documented of them.

The documented behaviour can be had: the schemas here check a value part by
part, and a union whose discriminator names no option raises an issue without
errors, as the library does. Their messages are not the library's.
-/

namespace Lombok.Apps

open Lombok.Core Lombok.Library Lombok.Auth

/-! ### Issues -/

def ZodIssue.under (key : PropertyKey) : ZodIssue → ZodIssue
  | .leaf path message => .leaf (key :: path) message
  | .invalidUnion path errors => .invalidUnion (key :: path) errors

/-- No issue for a value that is fine. -/
def invalidUnless (fine : Bool) : List ZodIssue :=
  if fine then [] else [.leaf [] "Invalid input"]

def isWithinBounds (minimum maximum : Option Nat) (size : Nat) : Bool :=
  minimum.all (fun bound => decide (bound ≤ size)) &&
    maximum.all fun bound => decide (size ≤ bound)

def isNumber (int : Bool) (minimum maximum : Option Numeral) (literal : String) : Bool :=
  isFiniteNumeral literal && (!int || isSafeInteger (decimalOf literal)) &&
    minimum.all (fun bound => isAtMost (decimalOf bound.literal) (decimalOf literal)) &&
    maximum.all fun bound => isAtMost (decimalOf literal) (decimalOf bound.literal)

def isOptionNamed (discriminator : String) (fields : Fields) (shape : ZodShape) : Bool :=
  match shape.get? discriminator, fields.get? discriminator with
  | some (.enum values), some (.str text) => values.contains text
  | _, _ => false

def unionIssues (discriminator : String) (options : List ZodShape) (value : Json) :
    List ZodIssue :=
  match value with
  | .obj fields =>
      if options.any (isOptionNamed discriminator fields) then invalidUnless false
      else [.invalidUnion [.name discriminator] []]
  | _ => invalidUnless false

mutual

def zodIssues : ZodType → Json → List ZodIssue
  | .string min max regex => fun value =>
      match value with
      | .str text =>
          invalidUnless
            (isWithinBounds min max (utf16Length text) && regex.all fun test => test text)
      | _ => invalidUnless false
  | .enum values => fun value =>
      match value with
      | .str text => invalidUnless (values.contains text)
      | _ => invalidUnless false
  | .number int min max => fun value =>
      match value with
      | .num literal => invalidUnless (isNumber int min max literal)
      | _ => invalidUnless false
  | .boolean => fun value =>
      match value with
      | .bool _ => []
      | _ => invalidUnless false
  | .unknown => fun _ => []
  | .nullable inner => fun value =>
      match value with
      | .null => []
      | value => zodIssues inner value
  | .optional inner => fun value => zodIssues inner value
  | .array item min max => fun value =>
      match value with
      | .arr items =>
          invalidUnless (isWithinBounds min max items.length) ++
            (items.mapIdx fun position entry =>
              (zodIssues item entry).map (.under (.index position))).flatten
      | _ => invalidUnless false
  | .record inner => fun value =>
      match value with
      | .obj fields =>
          fields.flatMap fun field => (zodIssues inner field.2).map (.under (.name field.1))
      | _ => invalidUnless false
  | .strictObject shape => fun value =>
      match value with
      | .obj fields =>
          invalidUnless (fields.all fun field => (shape.map Prod.fst).contains field.1) ++
            shapeIssues shape fields
      | _ => invalidUnless false
  | .discriminatedUnion discriminator options => fun value =>
      if optionAccepts options value then [] else unionIssues discriminator options value

def shapeIssues : List (String × ZodType) → Fields → List ZodIssue
  | [], _ => []
  | (key, schema) :: rest, fields =>
      (match fields.get? key with
        | some value => (zodIssues schema value).map (.under (.name key))
        | none => invalidUnless schema.acceptsAbsent) ++
      shapeIssues rest fields

def optionAccepts : List (List (String × ZodType)) → Json → Bool
  | [], _ => false
  | shape :: rest, value =>
      (match value with
        | .obj fields =>
            (invalidUnless (fields.all fun field => (shape.map Prod.fst).contains field.1) ++
              shapeIssues shape fields).isEmpty
        | _ => false) ||
      optionAccepts rest value

end

def parseSafely : SafeParse := fun schema value =>
  match zodIssues schema value with
  | [] => none
  | issues => some issues

/-! ### It is documented so -/

variable {value : Json} {shape : ZodShape}

theorem passes_iff {schema : ZodType} :
    Passes parseSafely schema value ↔ zodIssues schema value = [] := by
  unfold Passes parseSafely
  cases zodIssues schema value <;> simp

theorem invalidUnless_eq_nil {fine : Bool} : invalidUnless fine = [] ↔ fine = true := by
  unfold invalidUnless
  cases fine <;> simp

theorem isWithinBounds_iff {minimum maximum : Option Nat} {size : Nat} :
    isWithinBounds minimum maximum size = true ↔ WithinBounds minimum maximum size := by
  unfold isWithinBounds WithinBounds
  cases minimum <;> cases maximum <;> simp

theorem isNumber_iff {int : Bool} {minimum maximum : Option Numeral} {literal : String} :
    isNumber int minimum maximum literal = true ↔ IsNumber int minimum maximum literal := by
  unfold isNumber IsNumber
  cases minimum <;> cases maximum <;> cases int <;> simp [and_assoc]

theorem isOptionNamed_iff {discriminator : String} {fields : Fields} :
    isOptionNamed discriminator fields shape = true ↔ OptionNamed discriminator fields shape := by
  grind [isOptionNamed, OptionNamed]

theorem itemIssues_eq_nil {issuesOf : Json → List ZodIssue} {items : List Json} :
    (items.mapIdx fun position entry =>
      (issuesOf entry).map (ZodIssue.under (.index position))).flatten = [] ↔
        ∀ entry ∈ items, issuesOf entry = [] := by
  rw [List.flatten_eq_nil_iff]
  constructor
  · intro quiet entry member
    rcases List.getElem_of_mem member with ⟨position, bounded, rfl⟩
    exact List.map_eq_nil_iff.mp
      (quiet _ (List.mem_mapIdx.mpr ⟨position, bounded, rfl⟩))
  · grind

theorem strictObject_passes :
    zodIssues (.strictObject shape) value = [] ↔
      ∃ fields, value = .obj fields ∧ (∀ field ∈ fields, field.1 ∈ shape.map Prod.fst) ∧
        shapeIssues shape fields = [] := by
  grind [zodIssues, invalidUnless]

theorem shapeIssues_eq_nil {fields : Fields} :
    shapeIssues shape fields = [] ↔ ∀ entry ∈ shape, FieldPasses parseSafely fields entry := by
  induction shape with
  | nil => simp [shapeIssues]
  | cons entry rest inductionHypothesis =>
      rw [shapeIssues, List.append_eq_nil_iff, inductionHypothesis, List.forall_mem_cons]
      refine and_congr ?_ Iff.rfl
      unfold FieldPasses
      cases fields.get? entry.1 with
      | none => exact invalidUnless_eq_nil
      | some value => exact List.map_eq_nil_iff.trans passes_iff.symm

theorem optionAccepts_iff {options : List ZodShape} :
    optionAccepts options value = true ↔
      ∃ shape ∈ options, zodIssues (.strictObject shape) value = [] := by
  induction options with
  | nil => simp [optionAccepts]
  | cons shape rest inductionHypothesis =>
      have step : optionAccepts (shape :: rest) value =
          ((zodIssues (.strictObject shape) value).isEmpty || optionAccepts rest value) := by
        grind [optionAccepts, zodIssues, invalidUnless]
      grind

theorem unionIssues_ne_nil (discriminator : String) (options : List ZodShape) (value : Json) :
    unionIssues discriminator options value ≠ [] := by
  unfold unionIssues
  split
  · split <;> simp [invalidUnless]
  · simp [invalidUnless]

theorem invalidUnless_leaf {fine : Bool} : ∀ issue ∈ invalidUnless fine, issue.isLeaf = true := by
  intro issue member
  unfold invalidUnless at member
  split at member
  · cases member
  · rw [List.mem_singleton.mp member]
    rfl

theorem under_leaf {key : PropertyKey} {issues : List ZodIssue}
    (leaves : ∀ issue ∈ issues, issue.isLeaf = true) :
    ∀ issue ∈ issues.map (ZodIssue.under key), issue.isLeaf = true := by
  intro issue member
  rcases List.mem_map.mp member with ⟨inner, within, rfl⟩
  have isLeaf := leaves inner within
  cases inner with
  | leaf path message => rfl
  | invalidUnion path errors => cases isLeaf

theorem unionIssues_leaf {discriminator : String} {options : List ZodShape}
    (matched : ¬(ZodType.discriminatedUnion discriminator options).Unmatched value) :
    ∀ issue ∈ unionIssues discriminator options value, issue.isLeaf = true := by
  unfold unionIssues
  split
  · split
    · exact invalidUnless_leaf
    · rename_i unnamed
      refine absurd (.named fun shape member named => ?_) matched
      exact unnamed (List.any_eq_true.mpr ⟨shape, member, isOptionNamed_iff.mpr named⟩)
  · exact invalidUnless_leaf

mutual

/-- Without an unmatched union there are only leaves. -/
theorem zodIssues_leaf : ∀ (schema : ZodType) (value : Json), ¬schema.Unmatched value →
    ∀ issue ∈ zodIssues schema value, issue.isLeaf = true
  | .string _ _ _, value, _ => by
      rw [zodIssues]
      dsimp only
      split <;> exact invalidUnless_leaf
  | .enum _, value, _ => by
      rw [zodIssues]
      dsimp only
      split <;> exact invalidUnless_leaf
  | .number _ _ _, value, _ => by
      rw [zodIssues]
      dsimp only
      split <;> exact invalidUnless_leaf
  | .boolean, value, _ => by
      grind [zodIssues, invalidUnless_leaf]
  | .unknown, _, _ => nofun
  | .nullable inner, value, matched => by
      rw [zodIssues]
      dsimp only
      split
      · exact nofun
      · exact zodIssues_leaf inner value fun within => matched (.inNullable within)
  | .optional inner, value, matched => by
      rw [zodIssues]
      exact zodIssues_leaf inner value fun within => matched (.inOptional within)
  | .array item min max, value, matched => by
      rw [zodIssues]
      dsimp only
      split
      · rename_i items
        refine List.forall_mem_append.mpr ⟨invalidUnless_leaf, ?_⟩
        intro issue member
        rcases List.mem_flatten.mp member with ⟨issues, isPart, within⟩
        rcases List.mem_mapIdx.mp isPart with ⟨position, bounded, rfl⟩
        refine under_leaf (zodIssues_leaf item items[position] fun unmatched => ?_) issue within
        exact matched (.inItem (List.getElem_mem bounded) unmatched)
      · exact invalidUnless_leaf
  | .record inner, value, matched => by
      rw [zodIssues]
      dsimp only
      split
      · rename_i fields
        intro issue member
        rcases List.mem_flatMap.mp member with ⟨field, isField, within⟩
        refine under_leaf (zodIssues_leaf inner field.2 fun unmatched => ?_) issue within
        exact matched (.inRecord isField unmatched)
      · exact invalidUnless_leaf
  | .strictObject shape, value, matched => by
      rw [zodIssues]
      dsimp only
      split
      · rename_i fields
        refine List.forall_mem_append.mpr ⟨invalidUnless_leaf, shapeIssues_leaf shape fields ?_⟩
        intro entry member value found unmatched
        exact matched (.inField member found unmatched)
      · exact invalidUnless_leaf
  | .discriminatedUnion _ _, value, matched => by
      grind [zodIssues, unionIssues_leaf]

theorem shapeIssues_leaf : ∀ (shape : List (String × ZodType)) (fields : Fields),
    (∀ entry ∈ shape, ∀ value, fields.get? entry.1 = some value → ¬entry.2.Unmatched value) →
      ∀ issue ∈ shapeIssues shape fields, issue.isLeaf = true
  | [], _, _ => nofun
  | (key, schema) :: rest, fields, matched => by
      rw [shapeIssues]
      refine List.forall_mem_append.mpr ⟨?_, shapeIssues_leaf rest fields fun entry member =>
        matched entry (List.mem_cons_of_mem _ member)⟩
      split
      · rename_i value found
        exact under_leaf (zodIssues_leaf schema value
          (matched (key, schema) List.mem_cons_self value found))
      · exact invalidUnless_leaf

end

theorem parseSafely_documented : Documented parseSafely where
  string min max regex value := by
    rw [passes_iff]
    cases value with
    | str text =>
        cases regex with
        | none => simp [zodIssues, invalidUnless_eq_nil, isWithinBounds_iff]
        | some test => simp [zodIssues, invalidUnless_eq_nil, isWithinBounds_iff]
    | _ => simp [zodIssues, invalidUnless]
  enum values value := by
    grind [passes_iff, zodIssues, invalidUnless]
  number int min max value := by
    grind [passes_iff, zodIssues, isNumber_iff, invalidUnless]
  boolean value := by
    grind [passes_iff, zodIssues, invalidUnless]
  unknown value := passes_iff.mpr rfl
  nullable inner value := by
    grind [passes_iff, zodIssues]
  optional inner value := by
    rw [passes_iff, passes_iff, zodIssues]
  array item min max value := by
    rw [passes_iff]
    unfold ArraySatisfied
    cases value with
    | arr items =>
        rw [zodIssues]
        rw [List.append_eq_nil_iff, invalidUnless_eq_nil, isWithinBounds_iff, itemIssues_eq_nil]
        simp only [passes_iff, Json.arr.injEq, exists_eq_left', and_comm]
    | _ => simp [zodIssues, invalidUnless]
  record inner value := by
    rw [passes_iff]
    cases value with
    | obj fields => simp [zodIssues, passes_iff]
    | _ => simp [zodIssues, invalidUnless]
  strictObject shape value := by
    rw [passes_iff, strictObject_passes]
    simp only [shapeIssues_eq_nil]
  discriminatedUnion discriminator options value _ := by
    simp [passes_iff, zodIssues, optionAccepts_iff, unionIssues_ne_nil]
  issues schema value issues failed := by
    grind [parseSafely, zodIssues_leaf]

end Lombok.Apps
