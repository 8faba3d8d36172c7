import Lombok.Core.DateText
import Lombok.Core.JsonReader
import Lombok.Library.Action
import Lombok.Library.Base64
import Lombok.Tasks.Entity

/-!
Contract: the log columns of a task row.

Owns `serializeLogEntry` and `deserializeLogEntry`, the column type `logJsonb`, and the three
kinds of statement that write a log column: one entry appended with `||`, a list of entries
appended, and the whole log written anew. A text with a NUL character does not become
jsonb, and the statement fails.

Establishes that the column reads as the log the rest of the model keeps as a list. Does not
own the order of an object's keys in jsonb: an entry is read by its keys.
-/

namespace Lombok.Tasks

open Lombok.Core Lombok.Library Lombok.Library.Action

/-! ### jsonb -/

mutual

def hasNul : Json → Bool
  | .str text => text.toList.contains '\x00'
  | .arr items => itemsHaveNul items
  | .obj fields => fieldsHaveNul fields
  | _ => false

def itemsHaveNul : List Json → Bool
  | [] => false
  | item :: rest => hasNul item || itemsHaveNul rest

def fieldsHaveNul : List (String × Json) → Bool
  | [] => false
  | (name, value) :: rest =>
      name.toList.contains '\x00' || hasNul value || fieldsHaveNul rest

end

/-- `text::jsonb`. -/
def jsonbOf (text : String) : Option Json := (Json.parse text).filter fun value => !hasNul value

/-- `first || second`. -/
def jsonbConcat : Json → Json → Option Json
  | .arr first, .arr second => some (.arr (first ++ second))
  | .arr first, value => some (.arr (first ++ [value]))
  | value, .arr second => some (.arr (value :: second))
  | .obj first, .obj second => some (.obj (Fields.spread first second))
  | .obj _, _ => none
  | _, .obj _ => none
  | first, second => some (.arr [first, second])

/-! ### Entries -/

def serializeLogEntry (entry : TaskLogEntry) : Except ApiError Json := do
  let loggedAt ← entry.loggedAt.toISOString
  .ok (.obj (Fields.ofOptions
    [("at", some (.str loggedAt)), ("message", some (.str entry.message)),
      ("logType", some (.str entry.logType)),
      ("payload", entry.payload.map fun payload =>
        .str (String.ofList (Base64.encode (toUtf8 (Json.stringify (.obj payload))))))]))

/-- `none` where it throws, or where a date is invalid. -/
def deserializeLogEntry (stored : Json) : Option TaskLogEntry :=
  match stored.get? "at", stored.get? "message", stored.get? "logType" with
  | some (.str text), some (.str message), some (.str logType) => do
      let loggedAt ← Date.parse text
      match stored.get? "payload" with
      | some (.str encoded) =>
          if encoded = "" then some ⟨loggedAt, logType, message, none⟩
          else
            match Json.parse (decodeUtf8 (Base64.decode encoded.toList)) with
            | some (.obj payload) => some ⟨loggedAt, logType, message, some payload⟩
            | _ => none
      | _ => some ⟨loggedAt, logType, message, none⟩
  | _, _, _ => none

/-! ### The column -/

/-- `logJsonb.fromDriver`, of a value the driver has parsed. -/
def fromDriver : Json → Option (List TaskLogEntry)
  | .arr items => items.mapM deserializeLogEntry
  | _ => none

inductive LogWrite where
  /-- `column || JSON.stringify(serializeLogEntry(entry))::jsonb`. -/
  | append (entry : TaskLogEntry)
  /-- `column || JSON.stringify(entries.map(serializeLogEntry))::jsonb`. -/
  | appendAll (entries : List TaskLogEntry)
  /-- The log with the metadata of a heartbeat, and `toDriver` for a new row. -/
  | rewrite (entries : List TaskLogEntry)

/-- What the statement carries as JSON text. -/
def LogWrite.json : LogWrite → Except ApiError Json
  | .append entry => serializeLogEntry entry
  | .appendAll entries | .rewrite entries => (entries.mapM serializeLogEntry).map .arr

/-- The column after the statement; it stays as it is where the statement fails. -/
def writeLog (column : Json) (write : LogWrite) : Json :=
  match write.json with
  | .error _ => column
  | .ok value =>
      match jsonbOf (Json.stringify value) with
      | none => column
      | some stored =>
          match write with
          | .rewrite _ => stored
          | _ => (jsonbConcat column stored).getD column

/-! ### The log as a list -/

def LogWrite.entries : LogWrite → List TaskLogEntry
  | .append entry => [entry]
  | .appendAll entries | .rewrite entries => entries

def LogWrite.apply (log : List TaskLogEntry) : LogWrite → List TaskLogEntry
  | .append entry => log ++ [entry]
  | .appendAll entries => log ++ entries
  | .rewrite entries => entries

def isStorable (entry : TaskLogEntry) : Bool :=
  match serializeLogEntry entry with
  | .ok stored => !hasNul stored
  | .error _ => false

def LogWrite.succeeds (write : LogWrite) : Bool := write.entries.all isStorable

/-- `JSON.stringify` writes the numbers of the payload as numerals. -/
def HasNumerals (entry : TaskLogEntry) : Prop :=
  ∀ payload, entry.payload = some payload → Json.isPlain (.obj payload) = true

/-! ### Reading what was written -/

theorem isPlain_serialize {entry : TaskLogEntry} {stored : Json}
    (written : serializeLogEntry entry = .ok stored) : stored.isPlain = true := by
  unfold serializeLogEntry at written
  cases printed : entry.loggedAt.toISOString with
  | error error =>
      rw [printed] at written
      cases written
  | ok text =>
      rw [printed] at written
      cases written
      cases entry.payload <;> rfl

/-- An entry comes back as it was written. -/
theorem deserialize_serialize {entry : TaskLogEntry} (numerals : HasNumerals entry) {stored : Json}
    (written : serializeLogEntry entry = .ok stored) :
    deserializeLogEntry stored = some entry := by
  obtain ⟨loggedAt, logType, message, payload⟩ := entry
  unfold serializeLogEntry at written
  cases printed : loggedAt.toISOString with
  | error error =>
      rw [printed] at written
      cases written
  | ok text =>
      rw [printed] at written
      cases written
      have read := Date.parse_toISOString printed
      cases payload with
      | none => simp [deserializeLogEntry, Json.get?, Fields.ofOptions, Fields.get?_cons, read]
      | some payload =>
          have plain := numerals payload rfl
          have parsed : Json.parse (decodeUtf8 (Base64.decode
              (Base64.encode (toUtf8 (Json.stringify (.obj payload)))))) = some (.obj payload) := by
            rw [Base64.decode_encode, decodeUtf8_toUtf8, Json.parse_stringify plain]
          have some : Base64.encode (toUtf8 (Json.stringify (.obj payload))) ≠ [] := by
            intro none
            rw [none] at parsed
            cases parsed
          simp [deserializeLogEntry, Json.get?, Fields.ofOptions, Fields.get?_cons, read, parsed,
            some]

variable {entries : List TaskLogEntry} {value : Json} {write : LogWrite}

theorem entries_read (numerals : ∀ entry ∈ entries, HasNumerals entry) {items : List Json}
    (written : entries.mapM serializeLogEntry = .ok items) :
    Json.isPlainItems items = true ∧ itemsHaveNul items = !entries.all isStorable ∧
      items.mapM deserializeLogEntry = some entries := by
  induction entries generalizing items with
  | nil =>
      cases written
      exact ⟨rfl, rfl, rfl⟩
  | cons entry rest inductionHypothesis =>
      rw [List.mapM_cons] at written
      obtain ⟨stored, first, later⟩ := bind_eq_ok.mp written
      obtain ⟨restItems, restWritten, same⟩ := bind_eq_ok.mp later
      cases same
      have own := numerals entry List.mem_cons_self
      obtain ⟨plain, nul, read⟩ := inductionHypothesis
        (fun other member => numerals other (List.mem_cons_of_mem _ member)) restWritten
      refine ⟨?_, ?_, ?_⟩
      · rw [Json.isPlainItems, isPlain_serialize first, plain, Bool.and_true]
      · simp [itemsHaveNul, nul, isStorable, first]
      · rw [List.mapM_cons, deserialize_serialize own first, read]
        rfl

/-- Every entry that can be stored has a text. -/
theorem entries_written (storable : entries.all isStorable = true) :
    ∃ items, entries.mapM serializeLogEntry = .ok items := by
  induction entries with
  | nil => exact ⟨[], rfl⟩
  | cons entry rest inductionHypothesis =>
      rw [List.all_cons, Bool.and_eq_true] at storable
      obtain ⟨restItems, restWritten⟩ := inductionHypothesis storable.2
      cases written : serializeLogEntry entry with
      | error error =>
          rw [isStorable, written] at storable
          cases storable.1
      | ok stored =>
          refine ⟨stored :: restItems, ?_⟩
          rw [List.mapM_cons, written, restWritten]
          rfl

/-- `text::jsonb` of a text that `JSON.stringify` wrote. -/
theorem jsonbOf_stringify (plain : value.isPlain = true) :
    jsonbOf (Json.stringify value) = if hasNul value then none else some value := by
  grind [jsonbOf, Json.parse_stringify]

/-! ### The column -/

theorem fromDriver_append {items more : List Json} {log : List TaskLogEntry}
    (reads : items.mapM deserializeLogEntry = some log)
    (read : more.mapM deserializeLogEntry = some entries) :
    fromDriver (.arr (items ++ more)) = some (log ++ entries) := by
  rw [fromDriver, List.mapM_append, reads, read]
  rfl

theorem items_of_json (written : (entries.mapM serializeLogEntry).map Json.arr = .ok value) :
    ∃ items, entries.mapM serializeLogEntry = .ok items ∧ .arr items = value := by
  cases listed : entries.mapM serializeLogEntry with
  | error error =>
      rw [listed] at written
      cases written
  | ok items =>
      rw [listed] at written
      exact ⟨items, rfl, Except.ok.inj written⟩

/-- The value of a statement has a NUL exactly where the statement fails. -/
theorem json_stored (numerals : ∀ entry ∈ write.entries, HasNumerals entry)
    (written : write.json = .ok value) :
    jsonbOf (Json.stringify value) = if write.succeeds then some value else none := by
  have plainNul : value.isPlain = true ∧ hasNul value = !write.succeeds := by
    cases write with
    | append entry =>
        have stores : serializeLogEntry entry = .ok value := written
        refine ⟨isPlain_serialize stores, ?_⟩
        simp [LogWrite.succeeds, LogWrite.entries, isStorable, stores]
    | appendAll entries | rewrite entries =>
        obtain ⟨items, listed, rfl⟩ := items_of_json written
        obtain ⟨plain, nul, _⟩ := entries_read numerals listed
        exact ⟨plain, nul⟩
  grind [jsonbOf_stringify]

theorem json_of_succeeds (succeeds : write.succeeds = true) :
    ∃ value, write.json = .ok value := by
  obtain ⟨items, written⟩ := entries_written succeeds
  cases write with
  | append entry =>
      cases stores : serializeLogEntry entry with
      | ok stored => exact ⟨stored, stores⟩
      | error error =>
          rw [LogWrite.entries, List.mapM_cons, stores] at written
          cases written
  | appendAll entries | rewrite entries =>
      exact ⟨.arr items, congrArg (Except.map Json.arr) written⟩

/-- A statement changes the log in the column as it changes the list, or it fails. -/
theorem fromDriver_writeLog {column : Json} {log : List TaskLogEntry}
    (numerals : ∀ entry ∈ write.entries, HasNumerals entry) (reads : fromDriver column = some log) :
    fromDriver (writeLog column write) =
      some (if write.succeeds then write.apply log else log) := by
  obtain ⟨items, rfl⟩ : ∃ items, column = .arr items := by
    cases column with
    | arr items => exact ⟨items, rfl⟩
    | _ => cases reads
  cases written : write.json with
  | error error =>
      have fails : write.succeeds = false := by
        refine Bool.eq_false_iff.mpr fun succeeds => ?_
        grind [json_of_succeeds]
      rw [writeLog, written, fails]
      exact reads
  | ok value =>
      rw [writeLog, written]
      dsimp only
      rw [json_stored numerals written]
      by_cases succeeds : write.succeeds = true
      · rw [if_pos succeeds, if_pos succeeds]
        cases write with
        | append entry =>
            have stores : serializeLogEntry entry = .ok value := written
            have read := deserialize_serialize (numerals entry List.mem_cons_self) stores
            have appended : jsonbConcat (.arr items) value = some (.arr (items ++ [value])) := by
              obtain ⟨text, _, same⟩ := bind_eq_ok.mp stores
              cases same
              rfl
            dsimp only
            rw [appended]
            refine fromDriver_append reads ?_
            rw [List.mapM_cons, read]
            rfl
        | appendAll entries =>
            obtain ⟨more, listed, rfl⟩ := items_of_json written
            exact fromDriver_append reads (entries_read numerals listed).2.2
        | rewrite entries =>
            obtain ⟨all, listed, rfl⟩ := items_of_json written
            exact (entries_read numerals listed).2.2
      · rw [if_neg succeeds, if_neg succeeds]
        exact reads

/-- **The log of a column**: after any statements, the column reads as the log that those of
them leave that did not fail. -/
theorem fromDriver_run (writes : List LogWrite)
    (numerals : ∀ write ∈ writes, ∀ entry ∈ write.entries, HasNumerals entry) :
    fromDriver (run writeLog (.arr []) writes) =
      some (run LogWrite.apply [] (writes.filter LogWrite.succeeds)) := by
  suffices reads : ∀ (column : Json) (log : List TaskLogEntry), fromDriver column = some log →
      fromDriver (run writeLog column writes) =
        some (run LogWrite.apply log (writes.filter LogWrite.succeeds)) from reads _ _ rfl
  induction writes with
  | nil => exact fun _ _ reads => reads
  | cons write rest inductionHypothesis =>
      intro column log reads
      have next := fromDriver_writeLog (numerals write List.mem_cons_self) reads
      have later := inductionHypothesis
        (fun other member => numerals other (List.mem_cons_of_mem _ member)) _ _ next
      rw [run_cons, later, List.filter_cons]
      cases write.succeeds <;> rfl

/-- A start, a write that fails, and a completion. -/
def sampleLogWrites : List LogWrite :=
  [.append ⟨0, "started", "Task is started", some [("executorMetadata", .num "1")]⟩,
    .appendAll [⟨0, "error", "\x00", none⟩], .appendAll [⟨1, "success", "done", none⟩]]

theorem fromDriver_run_sample :
    fromDriver (run writeLog (.arr []) sampleLogWrites) =
      some (run LogWrite.apply [] (sampleLogWrites.filter LogWrite.succeeds)) :=
  fromDriver_run sampleLogWrites
    (by simp [sampleLogWrites, LogWrite.entries, HasNumerals, Json.isPlain, Json.isPlainFields,
      show Json.isNumeralChar '1' = true from rfl])

end Lombok.Tasks
