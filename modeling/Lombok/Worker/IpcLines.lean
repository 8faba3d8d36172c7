import Lombok.Core.JsonCharacters
import Lombok.Core.Utf8Cuts
import Lombok.Library.Lines
import Lombok.Tunnel.Forward

/-!
Contract: the JSON lines of the IPC sockets, and their four readers.

Owns the bytes a writer puts on a socket, `createSocketServer`, the data
handler of the core worker, `SocketServer.handleData` of `runWorker` and
`SocketReader.handleData` of the daemon. Each decodes a data event on its own
and carries text over to the next one. So each delivers what was written just
where no data event begins inside a character.

Does not own what a message means. `accepts` is the schema of the core worker:
it hands on what it accepts as it was read.
-/

namespace Lombok.Worker

open Lombok.Core
open Lombok.Library
open Lombok.Tunnel (isTrimmed trim)

/-- A message on an IPC socket: a JSON object. -/
structure IpcMessage where
  fields : List (String × Json)
  plain : Json.isPlainFields fields = true

namespace IpcMessage

def json (message : IpcMessage) : Json := .obj message.fields

/-- `JSON.stringify(message)`. -/
def line (message : IpcMessage) : List Char := Json.render message.json

/-- `JSON.stringify(message) + '\n'`, as bytes. -/
def bytes (message : IpcMessage) : List UInt8 :=
  toUtf8 (String.ofList (message.line ++ ['\n']))

end IpcMessage

/-- What a writer puts on a socket. -/
def written (messages : List IpcMessage) : List UInt8 := messages.flatMap IpcMessage.bytes

/-! ### The readers -/

/-- A reader on its socket: the text carried over, and what was handed on so far. -/
structure LineReader (α : Type) where
  buffer : List Char
  delivered : List α

def LineReader.start {α : Type} : LineReader α := { buffer := [], delivered := [] }

/-- One data event: the lines that are ended are taken, each on its own. -/
def LineReader.onData {α : Type} (take : List Char → Option α) (reader : LineReader α)
    (data : List UInt8) : LineReader α :=
  let cut := Lines.takeLines '\n' (reader.buffer ++ decodeChars data)
  { buffer := cut.2, delivered := reader.delivered ++ cut.1.filterMap take }

def LineReader.deliver {α : Type} (take : List Char → Option α) (events : List (List UInt8)) :
    List α :=
  (events.foldl (LineReader.onData take) LineReader.start).delivered

def parseLine (line : List Char) : Option Json := Json.parse (String.ofList line)

/-- `createSocketServer` hands on the text of a line that is not blank. -/
def createSocketServer (events : List (List UInt8)) : List String :=
  LineReader.deliver
    (fun line => if (trim line).isEmpty then none else some (String.ofList line)) events

def coreWorkerOnData (accepts : Json → Bool) (events : List (List UInt8)) : List Json :=
  LineReader.deliver
    (fun line => if (trim line).isEmpty then none else (parseLine (trim line)).filter accepts)
    events

/-- The value of a line. Its type is looked at, and `null` has none. -/
def parseMessage (line : List Char) : Option Json :=
  match parseLine line with
  | some .null => none
  | parsed => parsed

/-- `SocketServer.handleData`. -/
def socketServerHandleData (events : List (List UInt8)) : List Json :=
  LineReader.deliver (fun line => if (trim line).isEmpty then none else parseMessage line) events

/-- `SocketReader.handleData`. -/
def socketReaderHandleData (events : List (List UInt8)) : List Json :=
  LineReader.deliver (fun line => if (trim line).isEmpty then none else parseMessage line) events

/-! ### The lines of a stream -/

theorem foldl_onData {α : Type} (take : List Char → Option α) (events : List (List UInt8)) :
    ∀ reader : LineReader α,
      (events.foldl (LineReader.onData take) reader).delivered = reader.delivered ++
        (Lines.feedAll '\n' reader.buffer (events.map decodeChars)).1.filterMap take := by
  induction events with
  | nil =>
      intro reader
      exact (List.append_nil _).symm
  | cons data events inductionHypothesis =>
      grind [LineReader.onData, Lines.feedAll]

/-- However the text is carried over, the lines are those of the whole decoded text. -/
theorem deliver_eq {α : Type} (take : List Char → Option α) (events : List (List UInt8)) :
    LineReader.deliver take events =
      (Lines.takeLines '\n' (events.flatMap decodeChars)).1.filterMap take := by
  rw [LineReader.deliver, foldl_onData, List.flatMap_def, ← Lines.feedAll_flatten]
  rfl

def writtenText (messages : List IpcMessage) : List Char :=
  messages.flatMap fun message => message.line ++ ['\n']

theorem written_eq (messages : List IpcMessage) :
    written messages = (writtenText messages).flatMap String.utf8EncodeChar := by
  unfold written writtenText
  rw [List.flatMap_assoc]
  congr 1
  funext message
  rw [IpcMessage.bytes, toUtf8_eq, String.toList_ofList]

theorem newline_not_in_line (message : IpcMessage) : '\n' ∉ message.line := by
  intro member
  have printable := Json.render_printable message.json message.plain '\n' member
  exact absurd printable (by decide)

theorem garbled_lines {messages : List IpcMessage} : ∀ {read : List Char},
    Garbled (writtenText messages) read →
      ∃ lines, (Lines.takeLines '\n' read).1 = lines ∧ read = lines.flatMap (· ++ ['\n']) ∧
        List.Forall₂ (fun message line => Garbled message.line line) messages lines := by
  induction messages with
  | nil =>
      intro read garbled
      cases garbled
      exact ⟨[], rfl, rfl, .nil⟩
  | cons message rest inductionHypothesis =>
      intro read garbled
      rw [writtenText, List.flatMap_cons, List.append_assoc, List.singleton_append] at garbled
      obtain ⟨line, behind, rfl, lineGarbled, restGarbled⟩ := garbled.of_append
      obtain ⟨others, rfl, othersGarbled⟩ := restGarbled.of_cons_ascii (by decide)
      obtain ⟨lines, taken, rfl, each⟩ := inductionHypothesis othersGarbled
      have ended : '\n' ∉ line := fun member =>
        newline_not_in_line message (lineGarbled.ascii_mem (by decide) member)
      simp [Lines.takeLines_line, lineGarbled, each, ended, taken]

/-! ### What is delivered -/

section Deliver

variable {α : Type} {take : List Char → Option α} {deliver : IpcMessage → α}
  (exactly : ∀ message line, Garbled (IpcMessage.line message) line →
    take line = some (deliver message) → line = message.line)

include exactly

/-- What is taken from garbled lines is what was written only where no line is garbled. -/
theorem filterMap_eq_iff {messages : List IpcMessage} {lines : List (List Char)}
    (each : List.Forall₂ (fun message line => Garbled message.line line) messages lines)
    (takes : ∀ message ∈ messages, take message.line = some (deliver message)) :
    lines.filterMap take = messages.map deliver ↔ lines = messages.map IpcMessage.line := by
  induction each with
  | nil => exact iff_of_true rfl rfl
  | @cons message line messages lines garbled each inductionHypothesis =>
      have first := takes message List.mem_cons_self
      rw [List.map_cons, List.map_cons, List.cons.injEq, ← inductionHypothesis fun other member =>
        takes other (List.mem_cons_of_mem message member)]
      cases taken : take line with
      | none =>
          rw [List.filterMap_cons_none taken]
          apply iff_of_false
          · -- One line less than messages is left.
            intro same
            have lengths := congrArg List.length same
            grind [each.length_eq]
          · grind
      | some value =>
          rw [List.filterMap_cons_some taken, List.cons.injEq]
          apply and_congr_left
          intro _
          constructor
          · grind
          · grind

theorem deliver_iff {messages : List IpcMessage}
    (takes : ∀ message ∈ messages, take message.line = some (deliver message))
    {events : List (List UInt8)} (stream : events.flatten = written messages) :
    LineReader.deliver take events = messages.map deliver ↔
      ∀ data ∈ events, beginsInside data = false := by
  rw [written_eq] at stream
  obtain ⟨garbled, uncut⟩ := decode_text stream
  obtain ⟨lines, taken, read, each⟩ := garbled_lines garbled
  rw [← uncut, deliver_eq, taken, filterMap_eq_iff exactly each takes]
  constructor
  · intro same
    rw [read, same, List.flatMap_map]
    rfl
  · intro same
    have noNewline : ∀ line ∈ messages.map IpcMessage.line, '\n' ∉ line := by
      simp [newline_not_in_line]
    have whole := Lines.takeLines_flatMap noNewline
    rw [List.flatMap_map] at whole
    rw [← taken, same]
    exact congrArg Prod.fst whole

end Deliver

/-! ### A line that is read as it was written -/

/-- A character above ASCII that `trim` keeps. -/
def isSolid (character : Char) : Bool := 128 ≤ character.toNat && !isTrimmed character

theorem isSolid_high (character : Char) (solid : isSolid character = true) :
    128 ≤ character.toNat := by
  grind [isSolid]

theorem countP_dropWhile_isTrimmed (line : List Char) :
    (line.dropWhile isTrimmed).countP isSolid = line.countP isSolid := by
  have dropped : (line.takeWhile isTrimmed).countP isSolid = 0 := by
    rw [List.countP_eq_zero]
    intro character member
    have trimmed := List.all_eq_true.mp List.all_takeWhile character member
    rw [isSolid, trimmed, Bool.not_true, Bool.and_false]
    decide
  conv_rhs => rw [← @List.takeWhile_append_dropWhile _ isTrimmed line]
  rw [List.countP_append, dropped, Nat.zero_add]

theorem countP_trim (line : List Char) : (trim line).countP isSolid = line.countP isSolid := by
  simp [trim, countP_dropWhile_isTrimmed]

theorem line_of_parsed {message : IpcMessage} {line text : List Char}
    (garbled : Garbled message.line line) (kept : text.countP isSolid = line.countP isSolid)
    (parsed : parseLine text = some message.json) : line = message.line := by
  have read := Json.countP_parse isSolid_high parsed
  have printed := @Json.weight_le_render _ isSolid_high message.json
  rw [String.toList_ofList, kept] at read
  rcases @garbled.same_or_more isSolid (by decide) with same | more
  · exact same
  · unfold IpcMessage.line at more
    omega

variable {messages : List IpcMessage} {events : List (List UInt8)} (message : IpcMessage)

theorem parseLine_line : parseLine message.line = some message.json :=
  Json.parse_stringify message.plain

/-- An object has braces around it, so nothing is trimmed. -/
theorem trim_line : trim message.line = message.line := by
  simp [isTrimmed, IpcMessage.line, IpcMessage.json, Json.render, trim]

theorem line_not_blank : ¬ (trim message.line).isEmpty = true := by
  rw [trim_line, IpcMessage.line, IpcMessage.json, Json.render]
  nofun

/-! ### The four readers -/

theorem createSocketServer_iff (stream : events.flatten = written messages) :
    createSocketServer events = messages.map (fun message => Json.stringify message.json) ↔
      ∀ data ∈ events, beginsInside data = false := by
  apply deliver_iff _ _ stream
  · intro message line _ taken
    split at taken
    · cases taken
    · exact String.ofList_injective (Option.some.inj taken)
  · intro message _
    rw [if_neg (line_not_blank message)]
    rfl

theorem coreWorkerOnData_iff {accepts : Json → Bool}
    (known : ∀ message ∈ messages, accepts message.json = true)
    (stream : events.flatten = written messages) :
    coreWorkerOnData accepts events = messages.map IpcMessage.json ↔
      ∀ data ∈ events, beginsInside data = false := by
  apply deliver_iff _ _ stream
  · grind [line_of_parsed, countP_trim, Option.filter_eq_some_iff.mp]
  · intro message member
    rw [if_neg (line_not_blank message), trim_line, parseLine_line, Option.filter_some,
      if_pos (known message member)]

/-- The two ends between the daemon and its host read alike. -/
theorem parseMessages_iff (stream : events.flatten = written messages) :
    LineReader.deliver (fun line => if (trim line).isEmpty then none else parseMessage
        line) events =
        messages.map IpcMessage.json ↔
      ∀ data ∈ events, beginsInside data = false := by
  apply deliver_iff _ _ stream
  · intro message line garbled taken
    split at taken
    · cases taken
    · apply line_of_parsed garbled rfl
      grind [parseMessage]
  · intro message _
    rw [if_neg (line_not_blank message), parseMessage, parseLine_line]
    rfl

/-- **Lines and chunks.** Each of the four readers delivers every message once, in order and as
it was written, just where no data event begins inside a character. -/
theorem ipcLines_delivered_iff (accepts : Json → Bool) (messages : List IpcMessage)
    (known : ∀ message ∈ messages, accepts message.json = true) (events : List (List UInt8))
    (stream : events.flatten = written messages) :
    (createSocketServer events = messages.map (fun message => Json.stringify message.json) ↔
        ∀ data ∈ events, beginsInside data = false) ∧
      (coreWorkerOnData accepts events = messages.map IpcMessage.json ↔
        ∀ data ∈ events, beginsInside data = false) ∧
      (socketServerHandleData events = messages.map IpcMessage.json ↔
        ∀ data ∈ events, beginsInside data = false) ∧
      (socketReaderHandleData events = messages.map IpcMessage.json ↔
        ∀ data ∈ events, beginsInside data = false) :=
  ⟨createSocketServer_iff stream, coreWorkerOnData_iff known stream, parseMessages_iff stream,
    parseMessages_iff stream⟩

/-- A message with the character `é`. -/
def accented : IpcMessage := { fields := [("t", .str "é")], plain := rfl }

theorem ipcLines_delivered_iff_accented :
    (createSocketServer [written [accented]] =
        [accented].map (fun message => Json.stringify message.json) ↔
        ∀ data ∈ [written [accented]], beginsInside data = false) ∧
      (coreWorkerOnData (fun _ => true) [written [accented]] = [accented].map IpcMessage.json ↔
        ∀ data ∈ [written [accented]], beginsInside data = false) ∧
      (socketServerHandleData [written [accented]] = [accented].map IpcMessage.json ↔
        ∀ data ∈ [written [accented]], beginsInside data = false) ∧
      (socketReaderHandleData [written [accented]] = [accented].map IpcMessage.json ↔
        ∀ data ∈ [written [accented]], beginsInside data = false) :=
  ipcLines_delivered_iff (fun _ => true) [accented] (fun _ _ => rfl) [written [accented]]
    (List.append_nil _)

/-- The two bytes of `é` in two data events. -/
def accentCut : List (List UInt8) := [(written [accented]).take 7, (written [accented]).drop 7]

theorem ipcLines_not_delivered : ¬ ∀ (accepts : Json → Bool) (messages : List IpcMessage),
    (∀ message ∈ messages, accepts message.json = true) → ∀ events : List (List UInt8),
      events.flatten = written messages →
        createSocketServer events = messages.map (fun message => Json.stringify message.json) ∧
          coreWorkerOnData accepts events = messages.map IpcMessage.json ∧
          socketServerHandleData events = messages.map IpcMessage.json ∧
          socketReaderHandleData events = messages.map IpcMessage.json := by
  intro claim
  have stream : accentCut.flatten = written [accented] := by
    rw [accentCut, List.flatten_cons, List.flatten_cons, List.flatten_nil, List.append_nil,
      List.take_append_drop]
  have delivered := claim (fun _ => true) [accented] (fun _ _ => rfl) accentCut stream
  have outside := (createSocketServer_iff stream).mp delivered.1
  have inside : beginsInside ((written [accented]).drop 7) = true := by decide +kernel
  rw [outside _ (List.mem_cons_of_mem _ List.mem_cons_self)] at inside
  cases inside

end Lombok.Worker
