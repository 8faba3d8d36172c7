import Lombok.Core.JsonReader

/-!
Contract: object spread, and what a text that was read consists of.

Owns the lookups of `{...fields, ...overrides}`, the properties a value spreads
into an object literal, and that a value read from a text prints as one that is
read back.
-/

namespace Lombok.Core

namespace Fields

/-! ### Keys -/

theorem set_keys (fields : Fields) (name : String) (value : Json) :
    (fields.set name value).map Prod.fst =
      if name ∈ fields.map Prod.fst then fields.map Prod.fst
      else fields.map Prod.fst ++ [name] := by
  induction fields with
  | nil => rfl
  | cons field rest inductionHypothesis =>
      unfold set
      grind

/-- No property has two values. -/
def Distinct (fields : Fields) : Prop := (fields.map Prod.fst).Nodup

theorem Distinct.set {fields : Fields} (distinct : fields.Distinct) (name : String)
    (value : Json) : (fields.set name value).Distinct := by
  rw [Distinct, set_keys]
  split
  · exact distinct
  · rename_i absent
    refine List.nodup_append.mpr ⟨distinct, List.pairwise_singleton _ _, ?_⟩
    intro key member other isName same
    grind

theorem Distinct.spread {fields : Fields} (distinct : fields.Distinct) (overrides : Fields) :
    (fields.spread overrides).Distinct := by
  induction overrides generalizing fields with
  | nil => exact distinct
  | cons field rest inductionHypothesis => exact inductionHypothesis (distinct.set _ _)

theorem distinct_nil : Distinct [] := List.nodup_nil

theorem get?_set (fields : Fields) (name other : String) (value : Json) :
    (fields.set name value).get? other = if other = name then some value else
        fields.get? other := by
  by_cases same : other = name
  · rw [if_pos same, same, get?_set_same]
  · rw [if_neg same, get?_set_other fields value same]

theorem get?_eq_none_of_absent {fields : Fields} {name : String}
    (absent : name ∉ fields.map Prod.fst) : fields.get? name = none := by
  rw [get?, Option.map_eq_none_iff, List.find?_eq_none]
  grind

/-- Later properties win. -/
theorem get?_spread (fields : Fields) {overrides : Fields} (distinct : overrides.Distinct)
    (name : String) :
    (fields.spread overrides).get? name = (overrides.get? name).or (fields.get? name) := by
  induction overrides generalizing fields with
  | nil => rfl
  | cons field rest inductionHypothesis =>
      obtain ⟨absent, restDistinct⟩ := List.nodup_cons.mp distinct
      have step : fields.spread (field :: rest) = (fields.set field.1 field.2).spread rest := rfl
      rw [step, inductionHypothesis _ restDistinct, get?_set, get?_cons]
      by_cases same : field.1 = name
      · rw [← same, get?_eq_none_of_absent absent]
        simp
      · rw [if_neg (Ne.symm same), if_neg (by simpa using same)]

end Fields

namespace Json

/-! ### What is read is plain -/

variable {fields : Fields} {value : Json}

theorem isPlainFields_set (plain : isPlainFields fields = true) (name : String)
    (plainValue : isPlain value = true) :
    isPlainFields (fields.set name value) = true := by
  induction fields with
  | nil => simp [Fields.set, isPlainFields, plainValue]
  | cons field rest inductionHypothesis =>
      grind [isPlainFields, Fields.set]

theorem isPlainFields_iff :
    isPlainFields fields = true ↔ ∀ field ∈ fields, isPlain field.2 = true := by
  induction fields with
  | nil => simp [isPlainFields]
  | cons field rest inductionHypothesis =>
      rw [isPlainFields, Bool.and_eq_true, inductionHypothesis, List.forall_mem_cons]

theorem isPlainItems_iff {items : List Json} :
    isPlainItems items = true ↔ ∀ item ∈ items, isPlain item = true := by
  induction items with
  | nil => simp [isPlainItems]
  | cons item rest inductionHypothesis =>
      rw [isPlainItems, Bool.and_eq_true, inductionHypothesis, List.forall_mem_cons]

theorem isPlainFields_spread {overrides : Fields} (plain : isPlainFields fields = true)
    (plainOverrides : isPlainFields overrides = true) :
    isPlainFields (fields.spread overrides) = true := by
  induction overrides generalizing fields with
  | nil => exact plain
  | cons field rest inductionHypothesis =>
      rw [isPlainFields, Bool.and_eq_true] at plainOverrides
      exact inductionHypothesis (isPlainFields_set plain field.1 plainOverrides.1)
        plainOverrides.2

theorem isPlain_word {text rest : List Char} (read : readWord text = some (value, rest)) :
    isPlain value = true := by
  unfold readWord at read
  split at read
  · cases read
    rfl
  · split at read
    · cases read
      rfl
    · split at read
      · cases read
        rfl
      · cases read

theorem isPlain_numeral {first : Char} (rest : List Char) (numeral : isNumeralChar first = true) :
    isPlain (.num (String.ofList ((first :: rest).takeWhile isNumeralChar))) = true := by
  simp [isPlain, numeral]

/-- The three readers, by induction on their fuel. -/
theorem read_isPlain (fuel : Nat) :
    (∀ text value rest, readValue fuel text = some (value, rest) → isPlain value = true) ∧
    (∀ text items rest, readItems fuel text = some (items, rest) → isPlainItems items = true) ∧
    (∀ text fields rest, readFields fuel text = some (fields, rest) →
      isPlainFields fields = true) := by
  induction fuel with
  | zero =>
      refine ⟨?_, ?_, ?_⟩
      · nofun
      · nofun
      · nofun
  | succ fuel inductionHypothesis =>
      obtain ⟨valuePlain, itemsPlain, fieldsPlain⟩ := inductionHypothesis
      refine ⟨?_, ?_, ?_⟩
      · intro text value rest read
        unfold readValue at read
        split at read
        · cases read
        · split at read
          · obtain ⟨literal, -, made⟩ := Option.map_eq_some_iff.mp read
            cases made
            rfl
          · split at read
            · split at read
              · cases read
                rfl
              · obtain ⟨items, isRead, made⟩ := Option.map_eq_some_iff.mp read
                cases made
                exact itemsPlain _ _ _ isRead
            · split at read
              · split at read
                · cases read
                  rfl
                · obtain ⟨fields, isRead, made⟩ := Option.map_eq_some_iff.mp read
                  cases made
                  exact fieldsPlain _ _ _ isRead
              · grind [isPlain_numeral, isPlain_word]
      · intro text items rest read
        obtain ⟨⟨item, following⟩, itemRead, read⟩ := Option.bind_eq_some_iff.mp read
        dsimp only at read
        have itemPlain := valuePlain _ _ _ itemRead
        split at read
        · cases read
          simp [isPlainItems, itemPlain]
        · obtain ⟨⟨more, after⟩, moreRead, read⟩ := Option.bind_eq_some_iff.mp read
          grind [isPlainItems]
        · cases read
      · intro text fields rest read
        unfold readFields at read
        split at read
        · obtain ⟨⟨name, afterName⟩, -, read⟩ := Option.bind_eq_some_iff.mp read
          dsimp only at read
          split at read
          · obtain ⟨⟨value, following⟩, valueRead, read⟩ := Option.bind_eq_some_iff.mp read
            have plain := valuePlain _ _ _ valueRead
            split at read
            · cases read
              simp [isPlainFields, plain]
            · obtain ⟨⟨more, after⟩, moreRead, read⟩ := Option.bind_eq_some_iff.mp read
              grind [isPlainFields]
            · cases read
          · cases read
        · cases read

theorem parse_isPlain {text : String} (parsed : parse text = some value) :
    isPlain value = true := by
  unfold parse at parsed
  split at parsed
  · rename_i read
    split at parsed
    · cases parsed
      exact (read_isPlain _).1 _ _ _ read
    · cases parsed
  · cases parsed

/-! ### The properties of a value that was read -/

/-- What `{...value}` copies. The characters of a string stand for its units. -/
def ownProperties : Json → Fields
  | .obj fields => Fields.spread [] fields
  | .arr items => Fields.spread [] (items.zipIdx.map fun item => (toString item.2, item.1))
  | .str text => Fields.spread []
      (text.toList.zipIdx.map fun unit => (toString unit.2, .str (String.singleton unit.1)))
  | _ => []

theorem ownProperties_distinct (value : Json) : value.ownProperties.Distinct := by
  cases value with
  | obj fields => exact Fields.distinct_nil.spread fields
  | arr items => exact Fields.distinct_nil.spread _
  | str text => exact Fields.distinct_nil.spread _
  | null => exact Fields.distinct_nil
  | bool value => exact Fields.distinct_nil
  | num literal => exact Fields.distinct_nil

theorem ownProperties_plain (plain : isPlain value = true) :
    isPlainFields value.ownProperties = true := by
  cases value with
  | obj fields => exact isPlainFields_spread rfl plain
  | arr items =>
      apply isPlainFields_spread rfl
      rw [isPlainFields_iff]
      intro field member
      obtain ⟨item, inside, rfl⟩ := List.mem_map.mp member
      exact isPlainItems_iff.mp plain item.1 (List.fst_mem_of_mem_zipIdx inside)
  | str text =>
      apply isPlainFields_spread rfl
      rw [isPlainFields_iff]
      intro field member
      obtain ⟨unit, -, rfl⟩ := List.mem_map.mp member
      rfl
  | null => rfl
  | bool value => rfl
  | num literal => rfl

/-- An object without a repeated property, printed and read, spreads to the same values. -/
theorem get?_ownProperties (distinct : fields.Distinct) (name : String) :
    (ownProperties (.obj fields)).get? name = fields.get? name := by
  rw [ownProperties, Fields.get?_spread [] distinct]
  exact Option.or_none

end Json

end Lombok.Core
