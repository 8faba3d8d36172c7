import Lombok.Library.OrderedMap
import Mathlib

/-!
Contract: the `Headers` of the Fetch standard.

Owns reading a header, the sorted and combined entries, and what a `Headers`
object keeps when it is copied through a plain object.

The names are lower-case, as `entries()` gives them. `set-cookie` is the one
header whose values are never combined.
-/

namespace Lombok.Core

open Lombok.Library

/-- The values of a `Headers` object in the order they were appended. -/
abbrev FetchHeaders := List (String × String)

namespace FetchHeaders

def valuesOf (headers : FetchHeaders) (name : String) : List String :=
  (headers.filter fun header => header.1 == name).map Prod.snd

def combine (values : List String) : String := String.intercalate ", " values

/-- `headers.get(name)`. -/
def get (headers : FetchHeaders) (name : String) : Option String :=
  if (headers.valuesOf name).isEmpty then none else some (combine (headers.valuesOf name))

def names (headers : FetchHeaders) : List String :=
  (headers.map Prod.fst).dedup.insertionSort (· ≤ ·)

def entriesOf (headers : FetchHeaders) (name : String) : List (String × String) :=
  if name = "set-cookie" then (headers.valuesOf name).map fun value => (name, value)
  else [(name, combine (headers.valuesOf name))]

/-- `headers.entries()`. -/
def entries (headers : FetchHeaders) : List (String × String) :=
  headers.names.flatMap headers.entriesOf

def isHttpSpace (character : Char) : Bool := [' ', '\t', '\n', '\r'].contains character

/-- A value as `append` normalises it. -/
def normalizeValue (value : String) : String :=
  String.ofList ((value.toList.dropWhile isHttpSpace).reverse.dropWhile isHttpSpace).reverse

/-- `Object.fromEntries`: the last value of a key stays. -/
def fromEntries (pairs : List (String × String)) : OrderedMap String String :=
  pairs.foldl (fun record pair => record.set pair.1 pair.2) .empty

/-- `new Headers(record)`. -/
def ofRecord (record : OrderedMap String String) : FetchHeaders :=
  record.entries.map fun entry => (entry.1, normalizeValue entry.2)

/-! ### Sorted entries -/

theorem names_sorted (headers : FetchHeaders) : headers.names.Pairwise (· ≤ ·) :=
  List.pairwise_insertionSort (· ≤ ·) _

theorem names_nodup (headers : FetchHeaders) : headers.names.Nodup :=
  (List.perm_insertionSort (· ≤ ·) _).nodup_iff.mpr (List.nodup_dedup _)

variable {headers : FetchHeaders} {name : String}

theorem name_of_mem_entriesOf {entry : String × String} (member : entry ∈ headers.entriesOf name) :
    entry.1 = name := by
  grind [entriesOf]

theorem entries_sorted (headers : FetchHeaders) :
    (headers.entries.map Prod.fst).Pairwise (· ≤ ·) := by
  rw [entries, List.pairwise_map, List.pairwise_flatMap]
  constructor
  · intro name _
    apply List.pairwise_of_forall_mem_list
    intro first firstMember second secondMember
    rw [name_of_mem_entriesOf firstMember, name_of_mem_entriesOf secondMember]
  · apply headers.names_sorted.imp
    intro first second ordered entry entryMember other otherMember
    grind [name_of_mem_entriesOf]

/-- A list of headers in the order of their names, no name twice, is its own entries. -/
theorem entries_of_sorted (distinct : (headers.map Prod.fst).Nodup)
    (sorted : (headers.map Prod.fst).Pairwise (· ≤ ·)) : headers.entries = headers := by
  have ownNames : headers.names = headers.map Prod.fst := by
    rw [names, distinct.dedup, List.Pairwise.insertionSort_eq sorted]
  have single : ∀ header ∈ headers, headers.entriesOf header.1 = [header] := by
    intro header member
    have values : headers.valuesOf header.1 = [header.2] := by
      rw [valuesOf, Record.filter_key distinct]
      have held := (OrderedMap.mem_entries_iff ⟨headers, distinct⟩).mp member
      unfold OrderedMap.get? at held
      rw [held]
      rfl
    rw [entriesOf, values]
    split
    · rfl
    · rfl
  rw [entries, ownNames, List.flatMap_map]
  calc headers.flatMap (fun header => headers.entriesOf header.1)
      = headers.flatMap fun header => [header] := by
        apply List.flatMap_congr
        exact single
    _ = headers := by simp

theorem entries_nodup (distinct : (headers.map Prod.fst).Nodup) :
    (headers.entries.map Prod.fst).Nodup := by
  have values (name : String) : (headers.valuesOf name).length ≤ 1 := by
    simp [valuesOf, Record.filter_key, distinct]
  have few (name : String) : (headers.entriesOf name).length ≤ 1 := by
    grind [entriesOf]
  rw [entries, List.map_flatMap, List.nodup_flatMap]
  constructor
  · intro name _
    rcases held : headers.entriesOf name with _ | ⟨first, _ | ⟨second, rest⟩⟩
    · exact List.nodup_nil
    · exact List.nodup_singleton first.1
    · have lengths := few name
      rw [held, List.length_cons, List.length_cons] at lengths
      omega
  · apply headers.names_nodup.imp
    intro first second different name inFirst inSecond
    obtain ⟨entry, entryMember, rfl⟩ := List.mem_map.mp inFirst
    obtain ⟨other, otherMember, same⟩ := List.mem_map.mp inSecond
    grind [name_of_mem_entriesOf]

/-! ### Names -/

theorem mem_names :
    name ∈ headers.names ↔ name ∈ headers.map Prod.fst := by
  rw [names, List.mem_insertionSort, List.mem_dedup]

theorem valuesOf_eq_nil_iff :
    headers.valuesOf name = [] ↔ name ∉ headers.map Prod.fst := by
  rw [valuesOf, List.map_eq_nil_iff, List.filter_eq_nil_iff, List.mem_map]
  constructor
  · grind
  · intro absent header member same
    exact absent ⟨header, member, beq_iff_eq.mp same⟩

theorem get_eq_none_iff :
    headers.get name = none ↔ name ∉ headers.map Prod.fst := by
  simp [valuesOf_eq_nil_iff, get]

theorem mem_entries_names :
    name ∈ headers.entries.map Prod.fst ↔ name ∈ headers.map Prod.fst := by
  rw [← @mem_names headers, List.mem_map]
  constructor
  · rintro ⟨entry, member, rfl⟩
    obtain ⟨owner, owned, inside⟩ := List.mem_flatMap.mp member
    rw [name_of_mem_entriesOf inside]
    exact owned
  · intro member
    have present : headers.valuesOf name ≠ [] := by
      intro empty
      exact valuesOf_eq_nil_iff.mp empty (mem_names.mp member)
    obtain ⟨value, valueMember⟩ := List.exists_mem_of_ne_nil _ present
    by_cases cookie : name = "set-cookie"
    · refine ⟨(name, value), List.mem_flatMap.mpr ⟨name, member, ?_⟩, rfl⟩
      grind [entriesOf]
    · refine ⟨(name, combine (headers.valuesOf name)),
        List.mem_flatMap.mpr ⟨name, member, ?_⟩, rfl⟩
      rw [entriesOf, if_neg cookie]
      exact List.mem_cons_self

/-- The entries of a name whose values are combined are what `get` reads. -/
theorem mem_entries_iff {value : String} (combined : name ≠ "set-cookie") :
    (name, value) ∈ headers.entries ↔ headers.get name = some value := by
  have own : headers.entriesOf name = [(name, combine (headers.valuesOf name))] := by
    rw [entriesOf, if_neg combined]
  constructor
  · intro member
    have present := mem_entries_names.mp (List.mem_map_of_mem member)
    obtain ⟨owner, _, inside⟩ := List.mem_flatMap.mp member
    have sameName : name = owner := name_of_mem_entriesOf inside
    grind [get, get_eq_none_iff.mp]
  · intro found
    have present : name ∈ headers.names := by
      rw [mem_names]
      grind [get_eq_none_iff.mpr]
    refine List.mem_flatMap.mpr ⟨name, present, ?_⟩
    unfold get at found
    grind

/-- Headers with the same entries are read alike. -/
theorem get_congr {others : FetchHeaders} (same : headers.entries = others.entries)
    (combined : name ≠ "set-cookie") : headers.get name = others.get name := by
  apply Option.ext
  intro value
  rw [← mem_entries_iff combined, ← mem_entries_iff combined, same]

/-! ### A copy through a plain object -/

theorem fromEntries_of_nodup {pairs : List (String × String)}
    (distinct : (pairs.map Prod.fst).Nodup) : (fromEntries pairs).entries = pairs := by
  have general : ∀ (rest : List (String × String)) (record : OrderedMap String String),
      ((record.entries ++ rest).map Prod.fst).Nodup →
        (rest.foldl (fun record pair => record.set pair.1 pair.2) record).entries =
          record.entries ++ rest := by
    intro rest
    induction rest with
    | nil =>
        intro record _
        simp
    | cons pair tail inductionHypothesis =>
        intro record distinct
        have fresh : pair.1 ∉ record.entries.map Prod.fst := by
          rw [List.map_append, List.map_cons] at distinct
          grind
        have stored : (record.set pair.1 pair.2).entries = record.entries ++ [pair] := by
          rw [OrderedMap.set, dif_neg fresh]
        rw [List.foldl_cons, inductionHypothesis, stored, List.append_assoc, List.singleton_append]
        grind
  exact general pairs .empty distinct

/-- The headers of a copy through a plain object. -/
def copied (headers : FetchHeaders) : FetchHeaders := ofRecord (fromEntries headers.entries)

theorem mem_fromEntries_keys (pairs : List (String × String)) (name : String) :
    name ∈ (fromEntries pairs).entries.map Prod.fst ↔ name ∈ pairs.map Prod.fst := by
  have general : ∀ (rest : List (String × String)) (record : OrderedMap String String),
      name ∈ (rest.foldl (fun record pair => record.set pair.1 pair.2)
          record).entries.map Prod.fst ↔
        name ∈ record.entries.map Prod.fst ∨ name ∈ rest.map Prod.fst := by
    intro rest
    induction rest with
    | nil =>
        intro record
        simp
    | cons pair tail inductionHypothesis =>
        intro record
        have stored : name ∈ (record.set pair.1 pair.2).entries.map Prod.fst ↔
            name ∈ record.entries.map Prod.fst ∨ name = pair.1 := by
          unfold OrderedMap.set
          split
          · rename_i found
            rw [OrderedMap.replaced_keys]
            grind
          · rw [List.map_append, List.mem_append, List.map_singleton, List.mem_singleton]
        rw [List.foldl_cons, inductionHypothesis, stored, List.map_cons, List.mem_cons, or_assoc]
  rw [fromEntries, general pairs .empty]
  simp [OrderedMap.empty]

theorem mem_copied_names :
    name ∈ headers.copied.map Prod.fst ↔ name ∈ headers.map Prod.fst := by
  have sameKeys : headers.copied.map Prod.fst =
      (fromEntries headers.entries).entries.map Prod.fst := by
    unfold copied ofRecord
    rw [List.map_map]
    rfl
  rw [sameKeys, mem_fromEntries_keys, mem_entries_names]

theorem copied_nodup (headers : FetchHeaders) : (headers.copied.map Prod.fst).Nodup := by
  unfold copied ofRecord
  rw [List.map_map]
  exact (fromEntries headers.entries).distinct

theorem copied_of_nodup (distinct : (headers.entries.map Prod.fst).Nodup) :
    headers.copied = headers.entries.map fun entry => (entry.1, normalizeValue entry.2) := by
  unfold copied ofRecord
  rw [fromEntries_of_nodup distinct]

theorem map_normalizeValue_iff (pairs : List (String × String)) :
    (pairs.map fun pair => (pair.1, normalizeValue pair.2)) = pairs ↔
      ∀ pair ∈ pairs, normalizeValue pair.2 = pair.2 := by
  induction pairs with
  | nil => simp
  | cons pair rest inductionHypothesis =>
      rw [List.map_cons, List.cons.injEq, inductionHypothesis, List.forall_mem_cons, Prod.ext_iff]
      simp

/-- No name has two entries, and every value is as `append` leaves it. -/
structure Survives (headers : FetchHeaders) : Prop where
  distinct : (headers.entries.map Prod.fst).Nodup
  normal : ∀ entry ∈ headers.entries, normalizeValue entry.2 = entry.2

instance (headers : FetchHeaders) : Decidable headers.Survives :=
  decidable_of_iff ((headers.entries.map Prod.fst).Nodup ∧
      ∀ entry ∈ headers.entries, normalizeValue entry.2 = entry.2)
    ⟨fun both => ⟨both.1, both.2⟩, fun survives => ⟨survives.distinct, survives.normal⟩⟩

/-- The copy has the same entries exactly where the headers survive it. -/
theorem entries_copied_iff (headers : FetchHeaders) :
    headers.copied.entries = headers.entries ↔ headers.Survives := by
  have whenDistinct : (headers.entries.map Prod.fst).Nodup →
      headers.copied.entries =
        headers.entries.map fun entry => (entry.1, normalizeValue entry.2) := by
    intro distinct
    have sameNames : (headers.entries.map fun entry => (entry.1, normalizeValue entry.2)).map
        Prod.fst = headers.entries.map Prod.fst := by
      rw [List.map_map]
      rfl
    simp [copied_of_nodup, entries_of_sorted, headers.entries_sorted, distinct, sameNames]
  constructor
  · intro same
    have distinct : (headers.entries.map Prod.fst).Nodup := by
      rw [← same]
      exact entries_nodup headers.copied_nodup
    refine ⟨distinct, ?_⟩
    grind [map_normalizeValue_iff]
  · intro survives
    rw [whenDistinct survives.distinct]
    exact (map_normalizeValue_iff headers.entries).mpr survives.normal

end FetchHeaders

end Lombok.Core
