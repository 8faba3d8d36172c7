import Lombok.Templates.DataTemplate

/-!
Contract: which leaves of a template `onlyKeys` and `omitKeys` select.

The traversal of `dataFromTemplate` hands its rules on to a property while one
of them goes deeper, and decides for the whole property when none does. That
selects the leaves the longest listed path on the way to them selects.

Does not own: what a selected leaf is resolved to.
-/

namespace Lombok.Templates

open Lombok.Core

/-! ### The rule -/

/-- The longest listed path that leads to the leaf is one of `onlyKeys`, or none leads to it and
`onlyKeys` lists nothing. -/
def IsSelected (onlyKeys omitKeys : List (List String)) (path : List String) : Prop :=
  (∃ listed ∈ onlyKeys, listed <+: path ∧
      ∀ other ∈ onlyKeys ++ omitKeys, other <+: path → other.length ≤ listed.length) ∨
    onlyKeys = [] ∧ ∀ other ∈ onlyKeys ++ omitKeys, ¬ other <+: path

instance (onlyKeys omitKeys : List (List String)) (path : List String) :
    Decidable (IsSelected onlyKeys omitKeys path) := by
  unfold IsSelected
  infer_instance

mutual

/-- The selected leaves of a value are resolved as without filters, and the others are left as they
are written. A position in an array is no part of the path. -/
def resolveSelected (inputs : TemplateInputs) (validate : Bool) (selects : List String → Bool)
    (path : List String) : Json → Outcome Json
  | .arr items => (Outcome.all (resolveSelectedItems inputs validate selects path items)).map .arr
  | .obj fields => (resolveSelectedFields inputs validate selects path fields).map .obj
  | leaf => if selects path then resolveValue inputs validate none [] leaf else .pure leaf

def resolveSelectedItems (inputs : TemplateInputs) (validate : Bool)
    (selects : List String → Bool) (path : List String) : List Json → List (Outcome Json)
  | [] => []
  | entry :: rest =>
      resolveSelected inputs validate selects path entry ::
        resolveSelectedItems inputs validate selects path rest

def resolveSelectedFields (inputs : TemplateInputs) (validate : Bool)
    (selects : List String → Bool) (path : List String) : List (String × Json) → Outcome Fields
  | [] => .pure []
  | (key, entry) :: rest => do
      let value ← resolveSelected inputs validate selects (path ++ [key]) entry
      let later ← resolveSelectedFields inputs validate selects path rest
      .pure ((key, value) :: later)

end

mutual

/-- No object in the value has a property `__proto__`. -/
def isFreeOfProto : Json → Bool
  | .arr items => areFreeOfProto items
  | .obj fields => haveNoProto fields
  | _ => true

def areFreeOfProto : List Json → Bool
  | [] => true
  | entry :: rest => isFreeOfProto entry && areFreeOfProto rest

def haveNoProto : List (String × Json) → Bool
  | [] => true
  | (key, entry) :: rest => key != "__proto__" && isFreeOfProto entry && haveNoProto rest

end

/-! ### A whole property -/

section Selection

variable {inputs : TemplateInputs} {validate : Bool} {selects : List String → Bool}

theorem assigned_of_ne {key : String} (allowed : (key != "__proto__") = true) (value : Json)
    (later : Fields) : assigned key value later = (key, value) :: later :=
  if_neg (bne_iff_ne.mp allowed)

theorem haveNoProto_cons {key : String} {entry : Json} {rest : List (String × Json)} :
    haveNoProto ((key, entry) :: rest) = true ↔
      (key != "__proto__") = true ∧ isFreeOfProto entry = true ∧ haveNoProto rest = true := by
  rw [haveNoProto, Bool.and_eq_true, Bool.and_eq_true, and_assoc]

theorem areFreeOfProto_cons {entry : Json} {rest : List Json} :
    areFreeOfProto (entry :: rest) = true ↔
      isFreeOfProto entry = true ∧ areFreeOfProto rest = true := by
  rw [areFreeOfProto, Bool.and_eq_true]

theorem Outcome.pure_bind {α β : Type} (value : α) (next : α → Outcome β) :
    (Outcome.pure value >>= next) = next value := by
  show Outcome.mk ([] ++ (next value).calls) (next value).result = next value
  rw [List.nil_append]

def isLeaf : Json → Bool
  | .arr _ => false
  | .obj _ => false
  | _ => true

theorem resolveSelected_leaf {leaf : Json} (atLeaf : isLeaf leaf = true) (path : List String) :
    resolveSelected inputs validate selects path leaf =
      if selects path then resolveValue inputs validate none [] leaf else .pure leaf := by
  cases leaf with
  | arr items => cases atLeaf
  | obj fields => cases atLeaf
  | null => simp only [resolveSelected]
  | bool value => simp only [resolveSelected]
  | num literal => simp only [resolveSelected]
  | str text => simp only [resolveSelected]

/-- At a leaf there is only the mode of its own path left to honour. -/
theorem resolveValue_leaf {leaf : Json} (atLeaf : isLeaf leaf = true) (filter : KeyFilter)
    (path : List String) :
    resolveValue inputs validate (some filter) path leaf =
      if effectiveMode filter path = .included then resolveValue inputs validate none [] leaf
      else .pure leaf := by
  have modes : effectiveMode filter path = .included ∨ effectiveMode filter path = .excluded := by
    cases effectiveMode filter path with
    | included => exact .inl rfl
    | excluded => exact .inr rfl
  cases leaf with
  | arr items => cases atLeaf
  | obj fields => cases atLeaf
  | null => rcases modes with mode | mode <;> simp [resolveValue, mode]
  | bool value => rcases modes with mode | mode <;> simp [resolveValue, mode]
  | num literal => rcases modes with mode | mode <;> simp [resolveValue, mode]
  | str text => rcases modes with mode | mode <;> simp [resolveValue, mode]

theorem resolveSelected_selected {leaf : Json} (atLeaf : isLeaf leaf = true) {path : List String}
    (all : ∀ below, selects (path ++ below) = true) :
    resolveSelected inputs validate selects path leaf =
      resolveValue inputs validate none [] leaf := by
  have selected : selects path = true := List.append_nil path ▸ all []
  rw [resolveSelected_leaf atLeaf, if_pos selected]

theorem resolveSelected_unselected {leaf : Json} (atLeaf : isLeaf leaf = true)
    {path : List String} (no : ∀ below, selects (path ++ below) = false) :
    resolveSelected inputs validate selects path leaf = .pure leaf := by
  have unselected : selects path = false := List.append_nil path ▸ no []
  rw [resolveSelected_leaf atLeaf, unselected, if_neg Bool.false_ne_true]

mutual

theorem resolveSelected_all {path : List String}
    (all : ∀ below, selects (path ++ below) = true) :
    ∀ value, isFreeOfProto value = true →
      resolveSelected inputs validate selects path value =
        resolveValue inputs validate none [] value
  | .arr items, free => by
      rw [resolveSelected, resolveValue, resolveSelectedItems_all all items free]
  | .obj fields, free => by
      rw [resolveSelected, resolveValue, resolveSelectedFields_all all fields free]
  | .null, _ => resolveSelected_selected rfl all
  | .bool _, _ => resolveSelected_selected rfl all
  | .num _, _ => resolveSelected_selected rfl all
  | .str _, _ => resolveSelected_selected rfl all

theorem resolveSelectedItems_all {path : List String}
    (all : ∀ below, selects (path ++ below) = true) :
    ∀ items, areFreeOfProto items = true →
      resolveSelectedItems inputs validate selects path items =
        resolveItems inputs validate none [] items
  | [], _ => by rw [resolveSelectedItems, resolveItems]
  | entry :: rest, free => by
      obtain ⟨entryFree, restFree⟩ := areFreeOfProto_cons.mp free
      rw [resolveSelectedItems, resolveItems, resolveSelected_all all entry entryFree,
        resolveSelectedItems_all all rest restFree]

theorem resolveSelectedFields_all {path : List String}
    (all : ∀ below, selects (path ++ below) = true) :
    ∀ fields, haveNoProto fields = true →
      resolveSelectedFields inputs validate selects path fields =
        resolveFields inputs validate none [] fields
  | [], _ => by rw [resolveSelectedFields, resolveFields]
  | (key, entry) :: rest, free => by
      obtain ⟨allowed, entryFree, restFree⟩ := haveNoProto_cons.mp free
      have allBelow : ∀ below, selects (path ++ [key] ++ below) = true := by
        simp [all]
      simp [resolveSelectedFields, resolveFields, assigned_of_ne, resolveSelected_all, entryFree,
        resolveSelectedFields_all, all, restFree, allowed]

end

mutual

/-- A value without a selected leaf comes out as it is written. -/
theorem resolveSelected_none {path : List String}
    (no : ∀ below, selects (path ++ below) = false) :
    ∀ value, resolveSelected inputs validate selects path value = .pure value
  | .arr items => by
      rw [resolveSelected, resolveSelectedItems_none no items]
      rfl
  | .obj fields => by
      rw [resolveSelected, resolveSelectedFields_none no fields]
      rfl
  | .null => resolveSelected_unselected rfl no
  | .bool _ => resolveSelected_unselected rfl no
  | .num _ => resolveSelected_unselected rfl no
  | .str _ => resolveSelected_unselected rfl no

theorem resolveSelectedItems_none {path : List String}
    (no : ∀ below, selects (path ++ below) = false) :
    ∀ items, Outcome.all (resolveSelectedItems inputs validate selects path items) = .pure items
  | [] => by rw [resolveSelectedItems, Outcome.all]
  | entry :: rest => by
      rw [resolveSelectedItems, Outcome.all, resolveSelected_none no entry,
        resolveSelectedItems_none no rest]
      rfl

theorem resolveSelectedFields_none {path : List String}
    (no : ∀ below, selects (path ++ below) = false) :
    ∀ fields, resolveSelectedFields inputs validate selects path fields = .pure fields
  | [] => by rw [resolveSelectedFields]
  | (key, entry) :: rest => by
      have noBelow : ∀ below, selects (path ++ [key] ++ below) = false := by
        intro below
        rw [List.append_assoc]
        exact no _
      rw [resolveSelectedFields, resolveSelected_none noBelow entry, Outcome.pure_bind,
        resolveSelectedFields_none no rest, Outcome.pure_bind]

end

/-! ### The traversal -/

theorem isPrefixOrEqual_iff {start path : List String} :
    isPrefixOrEqual start path = true ↔ start <+: path :=
  List.isPrefixOf_iff_prefix

theorem isStrictPrefix_iff {start path : List String} :
    isStrictPrefix start path = true ↔ start <+: path ∧ start.length < path.length := by
  rw [isStrictPrefix, Bool.and_eq_true, decide_eq_true_iff, isPrefixOrEqual_iff, and_comm]

/-- Below a path that no rule goes beyond, the same rules lead to every leaf. -/
theorem isPrefixOrEqual_below {rule path : List String} (below : List String)
    (noDeeper : isStrictPrefix path rule = false) :
    isPrefixOrEqual rule (path ++ below) = isPrefixOrEqual rule path := by
  rw [Bool.eq_iff_iff, isPrefixOrEqual_iff, isPrefixOrEqual_iff]
  constructor
  · intro leads
    by_cases fits : rule.length ≤ path.length
    · exact List.prefix_of_prefix_length_le leads (List.prefix_append path below) fits
    · have reaches : path <+: rule := List.prefix_of_prefix_length_le
        (List.prefix_append path below) leads (Nat.le_of_not_le fits)
      have deeper := isStrictPrefix_iff.mpr ⟨reaches, Nat.lt_of_not_le fits⟩
      rw [noDeeper] at deeper
      cases deeper
  · grind

theorem effectiveMode_below {filter : KeyFilter} {path : List String}
    (noDeeper : (filter.rules.any fun rule => isStrictPrefix path rule.path) = false)
    (below : List String) :
    effectiveMode filter (path ++ below) = effectiveMode filter path := by
  have same : ∀ rules : List KeyFilterRule,
      (rules.any fun rule => isStrictPrefix path rule.path) = false → ∀ longest,
      rules.foldl (longestRule (path ++ below)) longest =
        rules.foldl (longestRule path) longest := by
    intro rules
    induction rules with
    | nil =>
        intro _ longest
        rfl
    | cons head tail inductionHypothesis =>
        grind [longestRule, isPrefixOrEqual_below]
  rw [effectiveMode, effectiveMode, same filter.rules noDeeper]

mutual

/-- The traversal resolves the leaves whose own path has the mode for it. -/
theorem resolveValue_filtered (filter : KeyFilter) :
    ∀ (value : Json) (path : List String), isFreeOfProto value = true →
      resolveValue inputs validate (some filter) path value =
        resolveSelected inputs validate
          (fun path => decide (effectiveMode filter path = .included)) path value
  | .arr items, path, free => by
      rw [resolveSelected, resolveValue, resolveItems_filtered filter items path free]
  | .obj fields, path, free => by
      rw [resolveSelected, resolveValue, resolveFields_filtered filter fields path free]
  | .null, path, _ => by
      rw [resolveValue_leaf rfl, resolveSelected_leaf rfl]
      simp only [decide_eq_true_eq]
  | .bool _, path, _ => by
      rw [resolveValue_leaf rfl, resolveSelected_leaf rfl]
      simp only [decide_eq_true_eq]
  | .num _, path, _ => by
      rw [resolveValue_leaf rfl, resolveSelected_leaf rfl]
      simp only [decide_eq_true_eq]
  | .str _, path, _ => by
      rw [resolveValue_leaf rfl, resolveSelected_leaf rfl]
      simp only [decide_eq_true_eq]

theorem resolveItems_filtered (filter : KeyFilter) :
    ∀ (items : List Json) (path : List String), areFreeOfProto items = true →
      resolveItems inputs validate (some filter) path items =
        resolveSelectedItems inputs validate
          (fun path => decide (effectiveMode filter path = .included)) path items
  | [], path, _ => by rw [resolveSelectedItems, resolveItems]
  | entry :: rest, path, free => by
      obtain ⟨entryFree, restFree⟩ := areFreeOfProto_cons.mp free
      rw [resolveSelectedItems, resolveItems, resolveValue_filtered filter entry path entryFree,
        resolveItems_filtered filter rest path restFree]

theorem resolveFields_filtered (filter : KeyFilter) :
    ∀ (fields : List (String × Json)) (path : List String), haveNoProto fields = true →
      resolveFields inputs validate (some filter) path fields =
        resolveSelectedFields inputs validate
          (fun path => decide (effectiveMode filter path = .included)) path fields
  | [], path, _ => by rw [resolveSelectedFields, resolveFields]
  | (key, entry) :: rest, path, free => by
      obtain ⟨allowed, entryFree, restFree⟩ := haveNoProto_cons.mp free
      rw [resolveSelectedFields, resolveFields, resolveFields_filtered filter rest path restFree]
      simp only [Option.elim_some, assigned_of_ne allowed]
      rw [decideKey]
      cases deeper : filter.rules.any fun rule => isStrictPrefix (path ++ [key]) rule.path with
      | true =>
          simp [resolveValue_filtered, entryFree]
      | false =>
          rw [if_neg Bool.false_ne_true]
          have sameBelow := effectiveMode_below deeper
          by_cases included : effectiveMode filter (path ++ [key]) = .included
          · have all : ∀ below,
                decide (effectiveMode filter (path ++ [key] ++ below) = .included) = true :=
              fun below => by rw [sameBelow, decide_eq_true included]
            rw [if_pos included, resolveSelected_all all entry entryFree]
          · have no : ∀ below,
                decide (effectiveMode filter (path ++ [key] ++ below) = .included) = false :=
              fun below => by rw [sameBelow, decide_eq_false included]
            rw [if_neg included, resolveSelected_none no entry]

end

end Selection

/-! ### The longest rule -/

/-- The loop ends with a rule that leads to the path and is as long as every such rule. -/
theorem longestRule_some {path : List String} {rules : List KeyFilterRule}
    {longest : Option KeyFilterRule} {kept : KeyFilterRule}
    (found : rules.foldl (longestRule path) longest = some kept) :
    (longest = some kept ∨ kept ∈ rules ∧ kept.path <+: path) ∧
      (∀ earlier, longest = some earlier → earlier.path.length ≤ kept.path.length) ∧
      ∀ rule ∈ rules, rule.path <+: path → rule.path.length ≤ kept.path.length := by
  induction rules generalizing longest with
  | nil =>
      grind
  | cons head tail inductionHypothesis =>
      obtain ⟨origin, atLeast, longestOfTail⟩ := inductionHypothesis found
      rw [longestRule] at origin atLeast
      split at origin
      · rename_i takes
        rw [if_pos takes] at atLeast
        obtain ⟨leads, longer⟩ := takes
        have headFits := atLeast head rfl
        refine ⟨.inr ?_, ?_, ?_⟩
        · rcases origin with same | ⟨member, keptLeads⟩
          · grind [isPrefixOrEqual_iff.mp]
          · exact ⟨List.mem_cons_of_mem head member, keptLeads⟩
        · intro earlier isEarlier
          grind
        · intro rule member ruleLeads
          rcases List.mem_cons.mp member with rfl | inTail
          · exact headFits
          · exact longestOfTail rule inTail ruleLeads
      · rename_i keeps
        rw [if_neg keeps] at atLeast
        refine ⟨?_, atLeast, ?_⟩
        · rcases origin with same | ⟨member, keptLeads⟩
          · exact .inl same
          · exact .inr ⟨List.mem_cons_of_mem head member, keptLeads⟩
        · intro rule member ruleLeads
          rcases List.mem_cons.mp member with rfl | inTail
          · cases longest with
            | none => exact absurd ⟨isPrefixOrEqual_iff.mpr ruleLeads, rfl⟩ keeps
            | some earlier =>
                have fits := atLeast earlier rfl
                have notLonger : ¬ rule.path.length > earlier.path.length := fun longer =>
                  keeps ⟨isPrefixOrEqual_iff.mpr ruleLeads, decide_eq_true longer⟩
                omega
          · exact longestOfTail rule inTail ruleLeads

/-- The loop ends without a rule when none leads to the path. -/
theorem longestRule_none {path : List String} {rules : List KeyFilterRule}
    {longest : Option KeyFilterRule} (none : rules.foldl (longestRule path) longest = none) :
    longest = .none ∧ ∀ rule ∈ rules, ¬ rule.path <+: path := by
  induction rules generalizing longest with
  | nil => exact ⟨none, nofun⟩
  | cons head tail inductionHypothesis =>
      obtain ⟨atHead, noneOfTail⟩ := inductionHypothesis none
      rw [longestRule] at atHead
      split at atHead
      · cases atHead
      · grind [isPrefixOrEqual_iff.mpr]

def keyFilter (onlyKeys omitKeys : List (List String)) : KeyFilter where
  defaultMode := if onlyKeys ≠ [] then .excluded else .included
  rules := onlyKeys.map (⟨·, .included⟩) ++ omitKeys.map (⟨·, .excluded⟩)

variable {onlyKeys omitKeys : List (List String)}

theorem mem_keyFilter {rule : KeyFilterRule} :
    rule ∈ (keyFilter onlyKeys omitKeys).rules ↔
      rule.path ∈ onlyKeys ∧ rule.mode = .included ∨
        rule.path ∈ omitKeys ∧ rule.mode = .excluded := by
  obtain ⟨path, mode⟩ := rule
  grind [keyFilter]

theorem mem_keyFilter_path {listed : List String} :
    listed ∈ onlyKeys ++ omitKeys ↔
      ∃ rule ∈ (keyFilter onlyKeys omitKeys).rules, rule.path = listed := by
  rw [List.mem_append]
  constructor
  · rintro (member | member)
    · exact ⟨⟨listed, .included⟩, mem_keyFilter.mpr (.inl ⟨member, rfl⟩), rfl⟩
    · exact ⟨⟨listed, .excluded⟩, mem_keyFilter.mpr (.inr ⟨member, rfl⟩), rfl⟩
  · grind [mem_keyFilter.mp]

theorem effectiveMode_iff (disjoint : ∀ listed ∈ onlyKeys, listed ∉ omitKeys) (path : List String) :
    effectiveMode (keyFilter onlyKeys omitKeys) path = .included ↔
      IsSelected onlyKeys omitKeys path := by
  unfold effectiveMode
  rcases found : (keyFilter onlyKeys omitKeys).rules.foldl (longestRule path) none with _ | kept
  · have noRule : ∀ listed ∈ onlyKeys ++ omitKeys, ¬ listed <+: path := by
      intro listed member
      obtain ⟨rule, isRule, rfl⟩ := mem_keyFilter_path.mp member
      exact (longestRule_none found).2 rule isRule
    constructor
    · intro included
      refine .inr ⟨?_, noRule⟩
      grind [keyFilter]
    · rintro (⟨listed, member, leads, -⟩ | ⟨listsNothing, -⟩)
      · exact absurd leads (noRule listed (List.mem_append_left omitKeys member))
      · simp only [keyFilter, listsNothing, ne_eq, not_true_eq_false, if_false]
  · obtain ⟨origin, -, longest⟩ := longestRule_some found
    obtain ⟨member, leads⟩ := origin.resolve_left nofun
    have isLongest : ∀ other ∈ onlyKeys ++ omitKeys, other <+: path →
        other.length ≤ kept.path.length := by
      grind [mem_keyFilter_path.mp]
    dsimp only
    rcases mem_keyFilter.mp member with ⟨isOnly, isIncluded⟩ | ⟨isOmitted, isExcluded⟩
    · exact iff_of_true isIncluded (.inl ⟨kept.path, isOnly, leads, isLongest⟩)
    · refine iff_of_false (by rw [isExcluded]; nofun) ?_
      rintro (⟨listed, isOnly, alsoLeads, alsoLongest⟩ | ⟨-, noneLeads⟩)
      · have atMost := isLongest listed (List.mem_append_left omitKeys isOnly) alsoLeads
        have atLeast := alsoLongest kept.path (List.mem_append_right onlyKeys isOmitted) leads
        have same : listed = kept.path := by
          have shorter := List.prefix_of_prefix_length_le alsoLeads leads atMost
          exact shorter.eq_of_length (Nat.le_antisymm atMost atLeast)
        exact disjoint listed isOnly (same ▸ isOmitted)
      · exact noneLeads kept.path (List.mem_append_right onlyKeys isOmitted) leads

/-! ### The filters of a template -/

theorem buildKeyFilter_disjoint {onlyKeys omitKeys : Option (List (List String))}
    (disjoint : ∀ listed ∈ onlyKeys.getD [], listed ∉ omitKeys.getD []) :
    buildKeyFilter onlyKeys omitKeys =
      .ok (if onlyKeys.getD [] = [] ∧ omitKeys.getD [] = [] then none
        else some (keyFilter (onlyKeys.getD []) (omitKeys.getD []))) := by
  have noneInBoth : (onlyKeys.getD []).find? ((omitKeys.getD []).contains ·) = none := by
    grind
  unfold buildKeyFilter
  dsimp only
  rw [noneInBoth]
  split
  · rfl
  · rfl

/-- With filters, `dataFromTemplate` resolves the leaves that the longest listed path selects as
it would without, and leaves the others as they are written. -/
theorem dataFromTemplate_eq_selected (data : Fields) (inputs : TemplateInputs)
    (options : TemplateOptions) (free : haveNoProto data = true)
    (disjoint : ∀ listed ∈ options.onlyKeys.getD [], listed ∉ options.omitKeys.getD []) :
    dataFromTemplate data inputs options =
      resolveSelected inputs options.validate
        (fun path =>
          decide (IsSelected (options.onlyKeys.getD []) (options.omitKeys.getD []) path))
        [] (.obj data) := by
  rw [dataFromTemplate, buildKeyFilter_disjoint disjoint]
  by_cases noLists : options.onlyKeys.getD [] = [] ∧ options.omitKeys.getD [] = []
  · rw [if_pos noLists, noLists.1, noLists.2]
    have all : ∀ below, decide (IsSelected [] [] ([] ++ below)) = true :=
      fun below => decide_eq_true (.inr ⟨rfl, nofun⟩)
    exact (resolveSelected_all all (.obj data) free).symm
  · rw [if_neg noLists]
    dsimp only
    rw [resolveValue_filtered _ (.obj data) [] free]
    simp only [effectiveMode_iff disjoint]

/-- Two properties of an object that is included, one of them excluded again. -/
def sampleTemplate : Fields :=
  [("meta", .obj [("title", .str "\x7b\x7bname\x7d\x7d"), ("note", .str "\x7b\x7bname\x7d\x7d")]),
    ("other", .str "\x7b\x7bname\x7d\x7d")]

def sampleInputs : TemplateInputs where
  objects := [("name", .str "Ada")]
  functions _ := none
  evaluate _ _ := none

def sampleOptions : TemplateOptions where
  onlyKeys := some [["meta"]]
  omitKeys := some [["meta", "note"]]

theorem dataFromTemplate_eq_selected_sample :
    dataFromTemplate sampleTemplate sampleInputs sampleOptions =
      resolveSelected sampleInputs false
        (fun path => decide (IsSelected [["meta"]] [["meta", "note"]] path))
        [] (.obj sampleTemplate) :=
  dataFromTemplate_eq_selected sampleTemplate sampleInputs sampleOptions (by decide) (by decide)

end Lombok.Templates
