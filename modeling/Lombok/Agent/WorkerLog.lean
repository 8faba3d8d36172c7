import Lombok.Core.DateText
import Lombok.Core.GoJson
import Lombok.Core.Utf8

/-!
Contract: the structured lines of a worker's output.

Owns what a line is read as, with the tag of a job or without one, and the line
it becomes in the log of its worker: a timestamp, the worker, and the level,
message and data in the shape that is read. What was read from a line is read
again from the end of the line it becomes, and a line that is not structured is
kept whole as the message.

Does not own: where the lines are written (see `LineInterceptor`).
-/

namespace Lombok.Agent

open Lombok.Core Lombok.Core.GoJson

/-! ### Go strings -/

abbrev GoString := List UInt8

def pipe : UInt8 := 124

def newline : UInt8 := 10

/-- `unicode.IsSpace`, as a list. -/
def spaceRunes : List Char :=
  ['\t', '\n', Char.ofNat 0x0B, Char.ofNat 0x0C, '\r', ' ', Char.ofNat 0x85, Char.ofNat 0xA0,
    Char.ofNat 0x1680, Char.ofNat 0x2000, Char.ofNat 0x2001, Char.ofNat 0x2002, Char.ofNat 0x2003,
    Char.ofNat 0x2004, Char.ofNat 0x2005, Char.ofNat 0x2006, Char.ofNat 0x2007, Char.ofNat 0x2008,
    Char.ofNat 0x2009, Char.ofNat 0x200A, Char.ofNat 0x2028, Char.ofNat 0x2029, Char.ofNat 0x202F,
    Char.ofNat 0x205F, Char.ofNat 0x3000]

def spaces : List GoString := spaceRunes.map String.utf8EncodeChar

/-- Drop those of the prefixes that the text begins with, again and again. -/
def trimPrefixes (prefixes : List GoString) : Nat → GoString → GoString
  | 0, text => text
  | fuel + 1, text =>
      match prefixes.find? fun space => space.isPrefixOf text with
      | some space => trimPrefixes prefixes fuel (text.drop space.length)
      | none => text

/-- `strings.TrimSpace`. -/
def trimSpace (text : GoString) : GoString :=
  let front := trimPrefixes spaces text.length text
  (trimPrefixes (spaces.map List.reverse) front.length front.reverse).reverse

/-- `strings.SplitN`, for a separator of one byte. -/
def splitN (separator : UInt8) : Nat → GoString → List GoString
  | 0, _ => []
  | 1, text => [text]
  | count + 2, text =>
      if separator ∈ text then
        text.takeWhile (· != separator) ::
          splitN separator (count + 1) (text.dropWhile (· != separator)).tail
      else [text]

/-! ### Levels -/

inductive LogLevel where
  | trace
  | debug
  | info
  | warn
  | error
  | fatal
deriving DecidableEq

def LogLevel.name : LogLevel → String
  | .trace => "TRACE"
  | .debug => "DEBUG"
  | .info => "INFO"
  | .warn => "WARN"
  | .error => "ERROR"
  | .fatal => "FATAL"

def LogLevel.all : List LogLevel := [.trace, .debug, .info, .warn, .error, .fatal]

def LogLevel.bytes (level : LogLevel) : GoString := toUtf8 level.name

/-- The level a text names: `isValidLogLevel`, with the level. -/
def logLevelOf (text : GoString) : Option LogLevel :=
  LogLevel.all.find? fun level => level.bytes == text

/-! ### Reading a line -/

structure LogEntry where
  level : LogLevel
  message : GoString
  data : Option Json

/-- A value of type `any`; `null` is `nil`. -/
def anyOf : Json → Option Json
  | .null => none
  | value => some value

/-- The message and the data of a decoded array; nothing when its first item is no string. -/
def messageOf : Json → Option (GoString × Option Json)
  | .arr (.str message :: rest) => some (toUtf8 message, rest.head?.bind anyOf)
  | _ => none

/-- `maxStructuredPayloadLen`. -/
def maxStructuredPayloadLen : Nat := 8192

/-- A payload after its level, cut off or decoded. -/
def parsePayload (floats : Float64Text) (level : LogLevel) (payload : GoString) :
    Option LogEntry :=
  if maxStructuredPayloadLen < payload.length then
    some
      { level := level
        message := payload.take maxStructuredPayloadLen ++ toUtf8 " [truncated]"
        data := none }
  else
    ((unmarshal floats payload).bind messageOf).map fun read =>
      { level := level, message := read.1, data := read.2 }

/-- `ParseStructuredWorkerLogLine`. -/
def parseStructuredWorkerLogLine (floats : Float64Text) (line : GoString) : Option LogEntry :=
  match splitN pipe 2 (trimSpace line) with
  | [levelStr, payload] =>
      (logLevelOf (trimSpace levelStr)).bind fun level =>
        parsePayload floats level (trimSpace payload)
  | _ => none

/-- `jobLogPrefix`. -/
def jobLogPrefix : GoString := toUtf8 "JOB_ID__"

def jobTaggedPart (line : GoString) : Option (LogLevel × GoString) :=
  let trimmed := trimSpace line
  if jobLogPrefix.isPrefixOf trimmed then
    match splitN pipe 3 (trimmed.drop jobLogPrefix.length) with
    | [_, levelStr, jsonPart] =>
        (logLevelOf (trimSpace levelStr)).map fun level => (level, trimSpace jsonPart)
    | _ => none
  else none

def jobTaggedMessage (floats : Float64Text) (part : LogLevel × GoString) :
    Option (GoString × Option Json) :=
  (unmarshal floats part.2).bind messageOf

/-! ### Writing a line -/

/-- What `FormatStructuredWorkerLogLine` writes for a line: with a job's tag and a known level the
message stays empty when the JSON cannot be read. -/
def workerLogEntry (floats : Float64Text) (line : GoString) (defaultLevel : Option LogLevel) :
    LogEntry :=
  match jobTaggedPart line with
  | some part =>
      let read := (jobTaggedMessage floats part).getD ([], none)
      { level := part.1, message := read.1, data := read.2 }
  | none =>
      match parseStructuredWorkerLogLine floats line with
      | some entry => entry
      | none => { level := defaultLevel.getD .info, message := line, data := none }

/-- `formatLogTimestamp`, for a clock within the years of four digits. -/
def formatLogTimestamp (now : Date) : String :=
  let time := (now % 86400000).toNat
  let civil := Date.civilOfDays (now / 86400000)
  String.ofList (Date.isoText civil.1 civil.2.1.toNat civil.2.2.toNat (time / 3600000)
    (time / 60000 % 60) (time / 1000 % 60) (time % 1000))

/-- `LEVEL|["message",{data}]`. -/
def structuredPart (entry : LogEntry) : GoString :=
  entry.level.bytes ++ pipe :: toUtf8 (marshalArray entry.message entry.data)

/-- `timestamp|WORKER_<port>|`. -/
def workerPrefix (now : Date) (port : Int) : GoString :=
  toUtf8 (formatLogTimestamp now ++ "|WORKER_" ++ toString port ++ "|")

/-- `FormatStructuredWorkerLogLine`. -/
def formatStructuredWorkerLogLine (floats : Float64Text) (now : Date) (port : Int)
    (line : GoString) (defaultLevel : Option LogLevel) : GoString :=
  workerPrefix now port ++ structuredPart (workerLogEntry floats line defaultLevel) ++ [newline]

/-! ### Bytes -/

/-- A text without control characters has no byte of one. -/
theorem printable_toUtf8 {text : String} (printable : ∀ character ∈ text.toList,
    32 ≤ character.toNat) : ∀ byte ∈ toUtf8 text, 32 ≤ byte.toNat := by
  intro byte member
  rw [toUtf8_eq] at member
  obtain ⟨character, isCharacter, encoded⟩ := List.mem_flatMap.mp member
  have low := printable character isCharacter
  by_cases small : character.toNat < 128
  · rw [encodeChar_ascii small] at encoded
    grind [UInt8.toNat_ofNat']
  · grind [encodeChar_high]

/-- A byte of no space, whatever stands beside it. -/
def Visible (byte : UInt8) : Prop := 32 < byte.toNat ∧ byte.toNat < 128

instance : DecidablePred Visible := fun byte =>
  inferInstanceAs (Decidable (32 < byte.toNat ∧ byte.toNat < 128))

/-- A text that neither begins nor ends with a byte a space could have. -/
structure Trimmed (text : GoString) : Prop where
  first : ∀ byte ∈ text.head?, Visible byte
  last : ∀ byte ∈ text.getLast?, Visible byte

theorem trimPrefixes_of_visible {prefixes : List GoString}
    (hidden : ∀ space ∈ prefixes, ∃ byte, space.head? = some byte ∧ ¬ Visible byte) (fuel : Nat)
    {text : GoString} (first : ∀ byte ∈ text.head?, Visible byte) :
    trimPrefixes prefixes fuel text = text := by
  cases fuel with
  | zero => rfl
  | succ fuel =>
      have none : (prefixes.find? fun space => space.isPrefixOf text) = none := by
        refine List.find?_eq_none.mpr fun space member begins => ?_
        obtain ⟨byte, head, notVisible⟩ := hidden space member
        obtain ⟨rest, rfl⟩ := List.isPrefixOf_iff_prefix.mp begins
        grind
      rw [trimPrefixes, none]

/-- Each of the texts begins with a byte that is not visible, by the test of each. -/
theorem hidden_of_all {texts : List GoString}
    (tested : (texts.all fun space => space.head?.any fun byte => !decide (Visible byte)) = true) :
    ∀ space ∈ texts, ∃ byte, space.head? = some byte ∧ ¬ Visible byte := by
  grind [Option.any_eq_true]

theorem spaces_hidden : ∀ space ∈ spaces, ∃ byte, space.head? = some byte ∧ ¬ Visible byte :=
  hidden_of_all (by decide +kernel)

theorem reversedSpaces_hidden :
    ∀ space ∈ spaces.map List.reverse, ∃ byte, space.head? = some byte ∧ ¬ Visible byte :=
  hidden_of_all (by decide +kernel)

theorem trimSpace_of_trimmed {text : GoString} (trimmed : Trimmed text) :
    trimSpace text = text := by
  grind [trimSpace, trimPrefixes_of_visible, spaces_hidden, reversedSpaces_hidden, trimmed.first,
    trimmed.last]

/-- A text is taken apart at the first of the bytes. -/
theorem firstPart {separator : UInt8} {first : GoString} (free : separator ∉ first)
    (second : GoString) :
    (first ++ separator :: second).takeWhile (· != separator) = first ∧
      (first ++ separator :: second).dropWhile (· != separator) = separator :: second := by
  have differs : ∀ byte ∈ first, (byte != separator) = true := by
    grind
  rw [List.takeWhile_append_of_pos differs, List.dropWhile_append_of_pos differs]
  simp

theorem splitN_two {first second : GoString} (noPipe : pipe ∉ first) :
    splitN pipe 2 (first ++ pipe :: second) = [first, second] := by
  simp [firstPart, splitN, noPipe]

/-! ### Levels and payloads -/

theorem LogLevel.bytes_trimmed (level : LogLevel) : Trimmed level.bytes := by
  have tested : (level.bytes.head?.all fun byte => decide (Visible byte)) = true ∧
      (level.bytes.getLast?.all fun byte => decide (Visible byte)) = true := by
    cases level <;> decide +kernel
  constructor
  · intro byte head
    exact of_decide_eq_true ((Option.all_eq_true _ _).mp tested.1 byte head)
  · grind

theorem LogLevel.noPipe (level : LogLevel) : pipe ∉ level.bytes := by
  cases level <;> decide

theorem logLevelOf_bytes (level : LogLevel) : logLevelOf level.bytes = some level := by
  cases level <;> decide

theorem toUtf8_brackets (inner : List Char) :
    toUtf8 (String.ofList ('[' :: (inner ++ [']']))) =
      91 :: (inner.flatMap String.utf8EncodeChar ++ [93]) := by
  rw [toUtf8_eq, String.toList_ofList, List.flatMap_cons, List.flatMap_append]
  rfl

/-- The bytes of a printed array, between its brackets. -/
theorem toUtf8_marshalArray (message : GoString) (data : Option Json) :
    ∃ body, toUtf8 (marshalArray message data) = 91 :: (body ++ [93]) := by
  unfold marshalArray
  rw [← List.append_assoc]
  exact ⟨_, toUtf8_brackets _⟩

theorem trimmed_marshalArray (message : GoString) (data : Option Json) :
    Trimmed (toUtf8 (marshalArray message data)) := by
  obtain ⟨body, shape⟩ := toUtf8_marshalArray message data
  rw [shape]
  constructor
  · intro byte head
    cases head
    decide
  · intro byte last
    rw [← List.cons_append, List.getLast?_append] at last
    cases last
    decide

theorem trimmed_structuredPart (entry : LogEntry) : Trimmed (structuredPart entry) := by
  obtain ⟨body, shape⟩ := toUtf8_marshalArray entry.message entry.data
  unfold structuredPart
  constructor
  · intro byte head
    refine entry.level.bytes_trimmed.first byte ?_
    rw [List.head?_append] at head
    cases lead : entry.level.bytes.head? with
    | none => cases level : entry.level <;> rw [level] at lead <;> cases lead
    | some first =>
        rw [lead] at head
        exact head
  · intro byte last
    rw [shape, ← List.cons_append, ← List.cons_append, ← List.append_assoc,
      List.getLast?_append] at last
    cases last
    decide

/-! ### What a line becomes -/

/-- The data is as a decoder gives it. -/
structure LogEntry.Decoded (floats : Float64Text) (entry : LogEntry) : Prop where
  settled : ∀ value ∈ entry.data, Settled floats (maxNestingDepth - 1) value
  notNull : ∀ value ∈ entry.data, value ≠ .null

/-- The entry with each byte of its message that is no UTF-8 as U+FFFD. -/
def LogEntry.repaired (entry : LogEntry) : LogEntry :=
  { entry with message := toUtf8 (repairUtf8 entry.message) }

section

variable {floats : Float64Text} {entry : LogEntry}

theorem messageOf_arrayOf (decoded : entry.Decoded floats) :
    messageOf (arrayOf entry.message entry.data) =
      some (entry.repaired.message, entry.repaired.data) := by
  obtain ⟨level, message, data⟩ := entry
  cases data with
  | none => rfl
  | some value =>
      have notNull := decoded.notNull value rfl
      cases value with
      | null => exact absurd rfl notNull
      | _ => rfl

/-- What is written for an entry is read as the entry. -/
theorem parse_structuredPart (decoded : entry.Decoded floats)
    (short : (toUtf8 (marshalArray entry.message entry.data)).length ≤ maxStructuredPayloadLen) :
    parseStructuredWorkerLogLine floats (structuredPart entry) = some entry.repaired := by
  rw [parseStructuredWorkerLogLine, trimSpace_of_trimmed (trimmed_structuredPart entry)]
  rw [structuredPart, splitN_two entry.level.noPipe]
  dsimp only
  rw [trimSpace_of_trimmed entry.level.bytes_trimmed, logLevelOf_bytes, Option.bind_some,
    trimSpace_of_trimmed (trimmed_marshalArray _ _)]
  unfold parsePayload
  rw [if_neg (Nat.not_lt.mpr short), unmarshal_marshalArray floats _ decoded.settled,
    Option.bind_some, messageOf_arrayOf decoded]
  rfl

theorem decoded_of_messageOf {payload : GoString} {read : GoString × Option Json}
    (reads : (unmarshal floats payload).bind messageOf = some read) (level : LogLevel) :
    (LogEntry.mk level read.1 read.2).Decoded floats ∧ ∃ text, read.1 = toUtf8 text := by
  obtain ⟨value, unmarshals, isMessage⟩ := Option.bind_eq_some_iff.mp reads
  unfold messageOf at isMessage
  split at isMessage
  · rename_i message rest
    cases isMessage
    refine ⟨?_, message, rfl⟩
    have items := settled_of_unmarshal unmarshals
    constructor
    · intro data member
      obtain ⟨head, isHead, isData⟩ := Option.bind_eq_some_iff.mp member
      have inRest : head ∈ rest := List.mem_of_mem_head? isHead
      unfold anyOf at isData
      grind
    · intro data member isNull
      obtain ⟨head, isHead, isData⟩ := Option.bind_eq_some_iff.mp member
      rw [isNull] at isData
      unfold anyOf at isData
      grind
  · cases isMessage

/-! ### One line -/

theorem digits_printable (width value : Nat) :
    ∀ character ∈ Date.digits width value, 32 ≤ character.toNat := by
  induction width generalizing value with
  | zero => exact fun character member => absurd member List.not_mem_nil
  | succ width inductionHypothesis =>
      intro character member
      rcases List.mem_append.mp member with front | last
      · exact inductionHypothesis _ character front
      · rw [List.mem_singleton.mp last, Date.digit_toNat]
        omega

theorem formatLogTimestamp_printable (now : Date) :
    ∀ character ∈ (formatLogTimestamp now).toList, 32 ≤ character.toNat := by
  unfold formatLogTimestamp Date.isoText Date.yearText
  rw [String.toList_ofList]
  split_ifs
  all_goals
    simp only [List.forall_mem_append, List.forall_mem_cons]
    and_intros
    all_goals first
      | exact digits_printable _ _
      | exact Json.forall_mem_of_all (by decide)
      | decide

theorem natText_printable (value : Nat) :
    ∀ character ∈ (toString value).toList, 32 ≤ character.toNat := by
  intro character member
  rw [Nat.toString_eq_repr, Nat.toList_repr] at member
  have isDigit := Nat.isDigit_of_mem_toDigits (by omega) (by omega) member
  exact (Json.numeral_ascii (Json.isNumeralChar_of_isDigit isDigit)).1

theorem intText_printable (port : Int) :
    ∀ character ∈ (toString port).toList, 32 ≤ character.toNat := by
  cases port with
  | ofNat value => exact natText_printable value
  | negSucc value =>
      intro character member
      have split : character ∈ ("-" ++ toString (value + 1)).toList := member
      rw [String.toList_append] at split
      rcases List.mem_append.mp split with sign | number
      · rw [List.mem_singleton.mp sign]
        decide
      · exact natText_printable _ character number

theorem newline_not_mem {text : GoString} (printable : ∀ byte ∈ text, 32 ≤ byte.toNat) :
    newline ∉ text := by
  intro member
  exact absurd (printable _ member) (by decide)

theorem newline_not_mem_workerPrefix (now : Date) (port : Int) :
    newline ∉ workerPrefix now port := by
  refine newline_not_mem (printable_toUtf8 ?_)
  rw [String.toList_append, String.toList_append, String.toList_append, List.forall_mem_append,
    List.forall_mem_append, List.forall_mem_append]
  exact ⟨⟨⟨formatLogTimestamp_printable now, Json.forall_mem_of_all (by decide)⟩,
    intText_printable port⟩, Json.forall_mem_of_all (by decide)⟩

theorem newline_not_mem_structuredPart (decoded : entry.Decoded floats) :
    newline ∉ structuredPart entry := by
  have plain : ∀ value ∈ entry.data, Json.isPlain value = true := fun value member =>
    isPlain_of_wellNumbered value (decoded.settled value member).spelled
  rw [structuredPart, List.mem_append, List.mem_cons, not_or, not_or]
  refine ⟨?_, by decide, ?_⟩
  · cases entry.level <;> decide
  · exact newline_not_mem
      (printable_toUtf8 (printClosed_printable.marshalArray entry.message plain))

/-- The output is one line: its front, and a part that carries the entry. -/
structure Carries (floats : Float64Text) (now : Date) (port : Int) (output : GoString)
    (entry : LogEntry) : Prop where
  line : ∃ part, output = workerPrefix now port ++ part ++ [newline] ∧
    newline ∉ workerPrefix now port ++ part ∧
    (∃ payload, part = entry.level.bytes ++ pipe :: payload ∧
      unmarshal floats payload = some (arrayOf entry.message entry.data) ∧
      (payload.length ≤ maxStructuredPayloadLen →
        parseStructuredWorkerLogLine floats part = some entry.repaired))

theorem carries_structuredPart (now : Date) (port : Int) (decoded : entry.Decoded floats) :
    Carries floats now port (workerPrefix now port ++ structuredPart entry ++ [newline]) entry := by
  refine ⟨structuredPart entry, rfl, ?_, _, rfl,
    unmarshal_marshalArray floats _ decoded.settled, parse_structuredPart decoded⟩
  rw [List.mem_append, not_or]
  exact ⟨newline_not_mem_workerPrefix now port, newline_not_mem_structuredPart decoded⟩

end

def wellFormedEntry (floats : Float64Text) (line : GoString) : Option LogEntry :=
  match jobTaggedPart line with
  | some part =>
      (jobTaggedMessage floats part).map fun read =>
        { level := part.1, message := read.1, data := read.2 }
  | none => parseStructuredWorkerLogLine floats line

/-- The message is the start of a payload that was longer than the limit. -/
def LogEntry.IsTruncated (entry : LogEntry) : Prop :=
  ∃ payload : GoString, maxStructuredPayloadLen < payload.length ∧
    entry.message = payload.take maxStructuredPayloadLen ++ toUtf8 " [truncated]"

section

variable {floats : Float64Text} {line : GoString} {entry : LogEntry}

theorem repaired_of_text {text : String} (isText : entry.message = toUtf8 text) :
    entry.repaired = entry := by
  rw [LogEntry.repaired, isText, repairUtf8_toUtf8, ← isText]

theorem parsePayload_entry {level : LogLevel} {payload : GoString}
    (parsed : parsePayload floats level payload = some entry) :
    entry.Decoded floats ∧ (entry.repaired = entry ∨ entry.IsTruncated) := by
  unfold parsePayload at parsed
  split at parsed
  · rename_i long
    cases parsed
    exact ⟨⟨fun _ member => absurd member (by simp), fun _ member => absurd member (by simp)⟩,
      .inr ⟨payload, long, rfl⟩⟩
  · obtain ⟨read, reads, rfl⟩ := Option.map_eq_some_iff.mp parsed
    grind [decoded_of_messageOf, repaired_of_text]

theorem wellFormedEntry_entry (isEntry : wellFormedEntry floats line = some entry) :
    entry.Decoded floats ∧ (entry.repaired = entry ∨ entry.IsTruncated) := by
  unfold wellFormedEntry at isEntry
  split at isEntry
  · rename_i part tagged
    obtain ⟨read, reads, rfl⟩ := Option.map_eq_some_iff.mp isEntry
    obtain ⟨decoded, text, isText⟩ := decoded_of_messageOf reads part.1
    exact ⟨decoded, .inl (repaired_of_text isText)⟩
  · unfold parseStructuredWorkerLogLine at isEntry
    split at isEntry
    · obtain ⟨level, _, parsed⟩ := Option.bind_eq_some_iff.mp isEntry
      exact parsePayload_entry parsed
    · cases isEntry

theorem workerLogEntry_wellFormed (isEntry : wellFormedEntry floats line = some entry)
    (defaultLevel : Option LogLevel) : workerLogEntry floats line defaultLevel = entry := by
  unfold wellFormedEntry at isEntry
  unfold workerLogEntry
  cases tagged : jobTaggedPart line with
  | none =>
      grind
  | some part =>
      rw [tagged] at isEntry
      obtain ⟨read, reads, rfl⟩ := Option.map_eq_some_iff.mp isEntry
      dsimp only
      rw [reads]
      rfl

/-- A line that is not structured is kept whole. -/
def plainEntry (line : GoString) (defaultLevel : Option LogLevel) : LogEntry where
  level := defaultLevel.getD .info
  message := line
  data := none

theorem plainEntry_decoded (line : GoString) (defaultLevel : Option LogLevel) :
    (plainEntry line defaultLevel).Decoded floats :=
  ⟨fun _ member => absurd member (by simp [plainEntry]),
    fun _ member => absurd member (by simp [plainEntry])⟩

end

/-- The line that is written carries what the worker's line says, read back from behind the name
of the worker, and the whole text of a line that is not well formed, unless it has the tag of a
job and a level. -/
theorem formatStructuredWorkerLogLine_carries (floats : Float64Text) (now : Date) (port : Int)
    (line : GoString) (defaultLevel : Option LogLevel) :
    (∀ entry, wellFormedEntry floats line = some entry →
      Carries floats now port
          (formatStructuredWorkerLogLine floats now port line defaultLevel) entry ∧
        (entry.repaired = entry ∨ entry.IsTruncated)) ∧
    (wellFormedEntry floats line = none → jobTaggedPart line = none →
      Carries floats now port (formatStructuredWorkerLogLine floats now port line defaultLevel)
        (plainEntry line defaultLevel)) := by
  unfold formatStructuredWorkerLogLine
  constructor
  · intro entry isEntry
    obtain ⟨decoded, whole⟩ := wellFormedEntry_entry isEntry
    rw [workerLogEntry_wellFormed isEntry defaultLevel]
    exact ⟨carries_structuredPart now port decoded, whole⟩
  · intro malformed untagged
    have written : workerLogEntry floats line defaultLevel = plainEntry line defaultLevel := by
      unfold wellFormedEntry at malformed
      unfold workerLogEntry
      rw [untagged] at malformed ⊢
      dsimp only at malformed ⊢
      rw [malformed]
      rfl
    rw [written]
    exact carries_structuredPart now port (plainEntry_decoded line defaultLevel)

def digitFloats : Float64Text where
  print literal :=
    if literal.toList.length = 1 ∧ isNumber literal.toList = true then some literal else none
  number printed := by
    split at printed
    · rename_i digit
      cases printed
      exact digit.2
    · cases printed
  stable printed := by
    split at printed
    · rename_i digit
      cases printed
      exact if_pos digit
    · cases printed

def taggedLine (jobId : String) : GoString :=
  toUtf8 ("JOB_ID__" ++ jobId ++ "|INFO|[\"done\",\x7b\"step\":1\x7d]")

/-- The written line itself is not read back, and does not tell one job from another. -/
theorem formatStructuredWorkerLogLine_notReadBack :
    (¬ ∀ (floats : Float64Text) (now : Date) (port : Int) (line : GoString)
        (defaultLevel : Option LogLevel) (entry : LogEntry),
        wellFormedEntry floats line = some entry →
          parseStructuredWorkerLogLine floats
            (formatStructuredWorkerLogLine floats now port line defaultLevel) = some entry) ∧
      formatStructuredWorkerLogLine digitFloats 0 8080 (taggedLine "a") none =
        formatStructuredWorkerLogLine digitFloats 0 8080 (taggedLine "b") none := by
  refine ⟨?_, by decide +kernel⟩
  intro readsBack
  have wellFormed : (wellFormedEntry digitFloats (taggedLine "a")).isSome = true := by
    decide +kernel
  obtain ⟨entry, isEntry⟩ := Option.isSome_iff_exists.mp wellFormed
  have read := readsBack digitFloats 0 8080 (taggedLine "a") none entry isEntry
  have notRead : (parseStructuredWorkerLogLine digitFloats
      (formatStructuredWorkerLogLine digitFloats 0 8080 (taggedLine "a") none)).isNone = true := by
    decide +kernel
  rw [read] at notRead
  cases notRead

end Lombok.Agent
