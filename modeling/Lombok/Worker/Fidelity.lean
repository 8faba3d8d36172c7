import Lombok.Worker.RunWorker
import Mathlib.Data.List.DropRight

/-!
Contract: which requests reach the daemon as they were sent.

A request comes out with the same method, path, query, headers and body exactly
where the runtime admits its method, its headers survive a copy through a plain
object, and its body is sent as text that is text. A body that is not sent is
replaced by two quotation marks.
-/

namespace Lombok.Worker

open Lombok.Core
open Lombok.Library

/-! ### The line -/

theorem stringProperties_stringFields (entries : List (String × String)) :
    stringProperties (stringFields entries) = some entries := by
  induction entries with
  | nil => rfl
  | cons entry rest inductionHypothesis =>
      grind [stringFields, stringProperties]

theorem stringFields_plain (entries : List (String × String)) :
    Json.isPlainFields (stringFields entries) = true := by
  induction entries with
  | nil => rfl
  | cons entry rest inductionHypothesis =>
      unfold stringFields at inductionHypothesis ⊢
      rw [List.map_cons, Json.isPlainFields, inductionHypothesis]
      rfl

theorem requestJson_plain (data : SerializeableRequest) : (requestJson data).isPlain = true := by
  simp [requestJson, Json.isPlain, Json.isPlainFields, stringFields_plain]

theorem pipeRequest_plain (dispatch : Dispatch) (request : Request) (data : SerializeableRequest) :
    (pipeRequest dispatch request data).isPlain = true := by
  have plain := requestJson_plain data
  have timestamp := Json.isPlain_ofNat dispatch.timestamp
  unfold pipeRequest Fields.ofOptions
  cases request.headers.get "authorization" with
  | none => simp [Json.isPlain, Json.isPlainFields, plain, timestamp]
  | some token => simp [Json.isPlain, Json.isPlainFields, plain, timestamp]

theorem pipeRequest_data (dispatch : Dispatch) (request : Request) (data : SerializeableRequest) :
    (pipeRequest dispatch request data).get? "data" = some (requestJson data) := by
  unfold pipeRequest Fields.ofOptions
  cases request.headers.get "authorization" with
  | none => simp [Json.get?, Fields.get?_cons]
  | some token => simp [Json.get?, Fields.get?_cons]

theorem requestData_sent (dispatch : Dispatch) (request : Request) (data : SerializeableRequest) :
    (((Json.parse (Json.stringify (requestMessage (pipeRequest dispatch request data)))).bind
      readRequest).bind requestData) = some data := by
  have url : (requestJson data).get? "url" = some (.str data.url) := rfl
  have method : (requestJson data).get? "method" = some (.str data.method) := rfl
  have headers : (requestJson data).get? "headers" =
      some (.obj (stringFields data.headers.entries)) := rfl
  have body : (requestJson data).get? "body" = some (.str data.body) := rfl
  have sameHeaders : FetchHeaders.fromEntries data.headers.entries = data.headers := by
    have entries := FetchHeaders.fromEntries_of_nodup data.headers.distinct
    cases held : FetchHeaders.fromEntries data.headers.entries with
    | mk stored distinct =>
        rw [held] at entries
        cases entries
        rfl
  have plain : (requestMessage (pipeRequest dispatch request data)).isPlain = true := by
    simp [requestMessage, Json.isPlain, Json.isPlainFields, pipeRequest_plain]
  have payload : readRequest (requestMessage (pipeRequest dispatch request data)) =
    some (pipeRequest dispatch request data) := rfl
  simp [Json.parse_stringify, requestData, pipeRequest_data, stringProperties_stringFields, plain,
    payload, url, method, headers, body, sameHeaders]

variable {platform : Platform}

/-- What the daemon builds is built from what was serialised. -/
theorem relay_eq (dispatch : Dispatch) (request : Request) :
    platform.relay dispatch request =
      (platform.serialize request).toOption.bind platform.reconstructRequest := by
  unfold Platform.relay
  cases platform.serialize request with
  | error message => rfl
  | ok data =>
      dsimp only
      rw [requestData_sent]
      rfl

/-! ### A form -/

theorem propertyOrder_perm (properties : List (String × String)) :
    (propertyOrder properties).Perm properties := by
  have split := List.filter_append_perm (fun property : String × String =>
    (arrayIndex property.1).isSome) properties
  have others : (properties.filter fun property => !(arrayIndex property.1).isSome) =
      properties.filter fun property => (arrayIndex property.1).isNone := by
    simp
  unfold propertyOrder
  rw [← others]
  exact ((List.perm_insertionSort _ _).append_right _).trans split

theorem entryMarks_filter_le (marked : Char → Bool) (keep : String × String → Bool)
    (entries : List (String × String)) :
    entryMarks marked (entries.filter keep) ≤ entryMarks marked entries := by
  induction entries with
  | nil => exact Nat.le_refl _
  | cons entry rest inductionHypothesis =>
      grind [entryMarks]

theorem entryMarks_formObject_le (marked : Char → Bool) (entries : List (String × String)) :
    entryMarks marked (formObject entries) ≤ entryMarks marked entries := by
  have sameMarks : entryMarks marked (formObject entries) = entryMarks marked
      (FetchHeaders.fromEntries (entries.filter fun entry => entry.1 != "__proto__")).entries :=
    ((propertyOrder_perm _).map _).sum_eq
  grind [entryMarks_fromEntries_le, entryMarks_filter_le]

def formText (entries : List (String × String)) : String :=
  Json.stringify (.obj (stringFields (formObject entries)))

def separates (character : Char) : Bool := character == '%' || character == '&'

def opensObject (character : Char) : Bool := character == '{'

theorem separates_marks : Marks separates := by
  intro character isMarked
  grind [separates]

theorem opensObject_marks : Marks opensObject := by
  intro character isMarked
  rw [beq_iff_eq.mp isMarked]
  decide

/-- A body that is the text of its own form has no `&`: each would be lost, and nothing brings
one back that does not cost a percent sign. -/
theorem no_ampersand {body : List UInt8} (same : toUtf8 (formText (formEntries body)) = body) :
    body.count 38 = 0 := by
  have sent : byteMarks separates body = entryMarks separates (formObject (formEntries body)) := by
    have text := marks_stringify separates_marks (formObject (formEntries body))
    rw [← same, byteMarks_toUtf8 (marked_ascii separates_marks), same]
    exact text
  grind [entryMarks_formObject_le, separates, entryMarks_formEntries_le, separates_marks]

theorem formText_changes (body : List UInt8) : toUtf8 (formText (formEntries body)) ≠ body := by
  intro same
  have single : body.splitOn 38 = [body] := by
    apply List.splitOn_eq_singleton
    exact List.count_eq_zero.mp (no_ampersand same)
  have text := marks_stringify opensObject_marks (formObject (formEntries body))
  have opened : byteMarks opensObject body =
      entryMarks opensObject (formObject (formEntries body)) + 1 := by
    rw [← same, byteMarks_toUtf8 (marked_ascii opensObject_marks), same]
    exact text
  have notEmpty : body.isEmpty = false := by
    grind [byteMarks]
  have entries : formEntries body = [formField body] := by
    unfold formEntries
    rw [single, List.filter_cons, notEmpty]
    rfl
  have field := le_pairMarks_formField opensObject_marks rfl body
  by_cases prototype : (formField body).1 = "__proto__"
  · have nothing : formText (formEntries body) = "\x7b\x7d" := by
      rw [entries]
      unfold formText formObject
      rw [List.filter_cons, prototype]
      rfl
    rw [nothing] at same
    rw [← same] at prototype
    revert prototype
    decide +kernel
  · have object : formObject (formEntries body) = [formField body] := by
      have keeps : ((formField body).1 != "__proto__") = true := bne_iff_ne.mpr prototype
      rw [entries]
      unfold formObject
      rw [List.filter_cons, if_pos keeps]
      exact List.perm_singleton.mp (propertyOrder_perm [formField body])
    grind [entryMarks]

/-- The object of a form is printed without a line break. -/
theorem newline_not_printed (entries : List (String × String)) :
    '\n' ∉ Json.render (.obj (stringFields entries)) := by
  intro member
  have printable := Json.render_printable (.obj (stringFields entries))
    (stringFields_plain entries) '\n' member
  exact absurd printable (by decide)

theorem formText_no_parts (entries : List (String × String)) {bytes : List UInt8}
    (same : toUtf8 (formText entries) = bytes) : ¬ ([45, 45] <+: bytes ∨ (10 : UInt8) ∈ bytes) := by
  rw [← same, toUtf8_eq]
  unfold formText Json.stringify
  rw [String.toList_ofList]
  rintro (boundary | line)
  · rw [Json.render, List.flatMap_cons] at boundary
    obtain ⟨rest, split⟩ := boundary
    cases split
  · obtain ⟨character, printed, inside⟩ := List.mem_flatMap.mp line
    have small : character.toNat < 128 := by
      apply Nat.lt_of_not_le
      intro large
      exact absurd (encodeChar_high large 10 inside) (by decide)
    rw [encodeChar_ascii small, List.mem_singleton] at inside
    have code : character.toNat = 10 := by
      have codes := congrArg UInt8.toNat inside
      grind [UInt8.toNat_ofNat']
    have isLine : character = '\n' := by
      rw [← Char.ofNat_toNat character, code]
    rw [isLine] at printed
    exact newline_not_printed _ printed

/-! ### Text -/

/-- A body that is sent as text is the text it is read as, unless that starts with a byte order
mark. -/
theorem text_kept_iff (body : Option (List UInt8)) :
    toUtf8 (text body) = body.getD [] ↔
      ∃ content : String, body.getD [] = toUtf8 content ∧
        content.toList.head? ≠ some (Char.ofNat 0xFEFF) := by
  have mark : String.utf8EncodeChar (Char.ofNat 0xFEFF) = [0xEF, 0xBB, 0xBF] := by decide
  constructor
  · intro same
    refine ⟨text body, same.symm, ?_⟩
    intro marked
    obtain ⟨rest, isMarked⟩ := List.head?_eq_some_iff.mp marked
    have bytes : body.getD [] = 0xEF :: 0xBB :: 0xBF :: toUtf8 (String.ofList rest) := by
      grind [toUtf8_eq, String.toList_ofList]
    have read : text body = String.ofList rest := by
      unfold text
      rw [bytes]
      exact decodeUtf8_toUtf8 _
    have lengths := congrArg (fun content => content.toList.length) read
    rw [isMarked, String.toList_ofList, List.length_cons] at lengths
    omega
  · rintro ⟨content, bytes, unmarked⟩
    have read : text body = content := by
      unfold text
      split
      · rename_i rest held
        exfalso
        apply unmarked
        rw [bytes] at held
        have found : (toUtf8 content).toByteArray.utf8DecodeChar? 0 = some (Char.ofNat 0xFEFF) := by
          rw [held, show (0xEF :: 0xBB :: 0xBF :: rest : List UInt8) =
            String.utf8EncodeChar (Char.ofNat 0xFEFF) ++ rest by rw [mark]; rfl,
            List.toByteArray_append]
          exact ByteArray.utf8DecodeChar?_utf8EncodeChar_append
        rw [toUtf8_eq] at found held
        cases characters : content.toList with
        | nil =>
            rw [characters] at held
            cases held
        | cons character tail =>
            rw [characters, List.flatMap_cons, List.toByteArray_append,
              ByteArray.utf8DecodeChar?_utf8EncodeChar_append] at found
            rw [List.head?_cons]
            exact found
      · rw [bytes]
        exact decodeUtf8_toUtf8 content
    rw [read, bytes]

/-! ### Fidelity -/

/-- The request a handler is given is the one that was sent. -/
structure Faithful (sent received : Request) : Prop where
  method : received.method = sent.method
  pathname : received.pathname = sent.pathname
  search : received.search = sent.search
  headers : received.headers.entries = sent.headers.entries
  body : received.body.getD [] = sent.body.getD []
  absent : sent.body = none → received.body = none

/-- The encoder does not look at the body. -/
def skipsBody (request : Request) : Prop :=
  methodsWithoutBody.contains request.method ∨ request.headers.get "content-length" = some "0" ∨
    contentTypeOf request.headers = ""

instance (request : Request) : Decidable (skipsBody request) := by
  unfold skipsBody
  infer_instance

def readsForm (request : Request) : Bool :=
  includes (contentTypeOf request.headers) "application/x-www-form-urlencoded" &&
    !includes (contentTypeOf request.headers) "application/json" &&
    !(includes (contentTypeOf request.headers) "text/plain" ||
      "text/".toList.isPrefixOf (contentTypeOf request.headers).toList)

/-- The two quotation marks that stand for a body that is not sent. -/
def emptyString : String := Json.stringify (.str "")

/-- What a body has to be to come out as it was. -/
def BodyCarried (platform : Platform) (request : Request) : Prop :=
  if skipsBody request then
    request.body = some (toUtf8 emptyString) ∧ (request.headers.get "content-type").isSome ∧
      platform.refusesBody request.method = false
  else
    readsForm request = false ∧
      ∃ content : String, request.body.getD [] = toUtf8 content ∧
        content.toList.head? ≠ some (Char.ofNat 0xFEFF)

structure Carried (platform : Platform) (request : Request) : Prop where
  admitted : platform.admitsMethod request.method = true
  headers : request.headers.Survives
  body : BodyCarried platform request

variable {request : Request} {content : String}

theorem parse_skipped (skips : skipsBody request) :
    platform.parseRequestBody request = .ok .undefined := by
  unfold Platform.parseRequestBody
  by_cases noBody : methodsWithoutBody.contains request.method
  · rw [if_pos noBody]
  · rw [if_neg noBody]
    dsimp only
    rw [if_pos (skips.resolve_left noBody)]

theorem parse_text (looks : ¬ skipsBody request) (noForm : readsForm request = false) :
    platform.parseRequestBody request = .ok (.string (text request.body)) := by
  unfold skipsBody at looks
  rw [not_or] at looks
  unfold Platform.parseRequestBody
  rw [if_neg looks.1]
  dsimp only
  rw [if_neg looks.2]
  unfold readsForm at noForm
  split
  · rfl
  split
  · rfl
  split
  · rename_i notJson notText form
    grind
  · rfl

/-- Where the encoder reads a form, the text it sends is not the body. -/
theorem form_not_kept (looks : ¬ skipsBody request) (form : readsForm request = true)
    {parsedBody : ParsedBody} (parsed : platform.parseRequestBody request = .ok parsedBody) :
    toUtf8 (bodyString parsedBody) ≠ request.body.getD [] := by
  unfold skipsBody at looks
  rw [not_or] at looks
  unfold readsForm at form
  rw [Bool.and_eq_true, Bool.and_eq_true, Bool.not_eq_true', Bool.not_eq_true'] at form
  obtain ⟨⟨isForm, notJson⟩, notText⟩ := form
  unfold Platform.parseRequestBody at parsed
  rw [if_neg looks.1] at parsed
  dsimp only at parsed
  rw [if_neg looks.2, notJson, notText, isForm] at parsed
  simp only [Bool.false_eq_true, if_false, if_true] at parsed
  split at parsed
  · rename_i entries read
    rw [← Except.ok.inj parsed]
    intro same
    unfold Platform.formData at read
    split at read
    · exact formText_no_parts entries same (platform.multipartLine _ _ _ read)
    split at read
    · rw [← Except.ok.inj read] at same
      exact formText_changes _ same
    · cases read
  · cases parsed

/-! ### The daemon's request -/

theorem newRequest_eq_some {url method : String} {headers : FetchHeaders} {body : Option String}
    {received : Request} (built : platform.newRequest url method headers body = some received) :
    ∃ pathname search, platform.parseUrl url = some (pathname, search) ∧
      platform.admitsMethod method = true ∧
      (body.isSome = true → platform.refusesBody (normalizeMethod method) = false) ∧
      received = {
        method := normalizeMethod method, pathname := pathname, search := search,
        headers := if body.isSome ∧ headers.get "content-type" = none then
            headers ++ [("content-type", "text/plain;charset=UTF-8")] else headers,
        body := body.map toUtf8 } := by
  unfold Platform.newRequest at built
  split at built
  · cases built
  rename_i pathname search parsed
  split at built
  · cases built
  rename_i admitted
  split at built
  · cases built
  rename_i takesBody
  refine ⟨pathname, search, parsed, by simpa using admitted, ?_, (Option.some.inj built).symm⟩
  grind

/-- Where the headers come out as they were, they survive the copy and no `Content-Type` was
added. -/
theorem headers_kept {headers : FetchHeaders} {added : Prop} [Decidable added]
    (same : (if added ∧ headers.copied.get "content-type" = none then
        headers.copied ++ [("content-type", "text/plain;charset=UTF-8")]
      else headers.copied).entries = headers.entries) :
    headers.Survives ∧ (added → (headers.get "content-type").isSome) := by
  have present (missing : headers.copied.get "content-type" = none) :
      "content-type" ∉ headers.map Prod.fst := by
    rw [← FetchHeaders.mem_copied_names]
    exact FetchHeaders.get_eq_none_iff.mp missing
  by_cases appended : added ∧ headers.copied.get "content-type" = none
  · rw [if_pos appended] at same
    have inEntries : "content-type" ∈ headers.entries.map Prod.fst := by
      grind [FetchHeaders.mem_entries_names]
    exact absurd (FetchHeaders.mem_entries_names.mp inEntries) (present appended.2)
  · rw [if_neg appended] at same
    grind [FetchHeaders.entries_copied_iff, FetchHeaders.get_congr, Option.isSome_iff_ne_none]

/-- The bytes of the daemon's body are those of the text, and no text is no body. -/
theorem sentBytes (content : String) :
    ((if content.toList.isEmpty then none else some content).map toUtf8).getD [] =
      toUtf8 content := by
  grind [toUtf8_eq]

theorem isSome_of_notEmpty (notEmpty : content.toList.isEmpty = false) :
    (if content.toList.isEmpty then none else some content).isSome = true := by
  rw [notEmpty]
  rfl

theorem absent_of_empty (empty : toUtf8 content = []) :
    (if content.toList.isEmpty then none else some content) = none := by
  have nothing : content = "" := by
    rw [← decodeUtf8_toUtf8 content, empty]
    rfl
  rw [nothing]
  rfl

/-- The request the daemon builds of headers that survive, where the runtime takes it. -/
theorem reconstruct_carried {request : HttpRequest platform}
    (sameEntries : request.headers.copied.entries = request.headers.entries)
    (admitted : platform.admitsMethod request.method = true)
    (takesBody : content.toList.isEmpty = false →
      (request.headers.get "content-type").isSome ∧
      platform.refusesBody request.method = false) :
    platform.reconstructRequest {
        url := request.pathname ++ request.search, method := request.method,
        headers := FetchHeaders.fromEntries request.headers.entries, body := content } =
      some {
        method := request.method, pathname := request.pathname, search := request.search,
        headers := request.headers.copied,
        body := (if content.toList.isEmpty then none else some content).map toUtf8 } := by
  have host : platform.isAuthority ((request.headers.copied.get "host").getD "null") = true := by
    rw [FetchHeaders.get_congr sameEntries (by decide)]
    cases held : request.headers.get "host" with
    | none => exact platform.nullAuthority
    | some host => exact request.hostPlain host held
  have url := platform.parsesAgain _ request.pathname request.search request.url host request.parsed
  have copy : FetchHeaders.ofRecord (FetchHeaders.fromEntries request.headers.entries) =
    request.headers.copied := rfl
  grind [Platform.reconstructRequest, Platform.newRequest, FetchHeaders.get_congr,
    request.methodNormal]

/-- A request reaches the handler as it was sent exactly where it is carried. -/
theorem carried_iff (dispatch : Dispatch) (request : HttpRequest platform) :
    (∃ received, platform.relay dispatch request.toRequest = some received ∧
      Faithful request.toRequest received) ↔ Carried platform request.toRequest := by
  rw [relay_eq]
  unfold Platform.serialize
  constructor
  · rintro ⟨received, built, faithful⟩
    cases parsed : platform.parseRequestBody request.toRequest with
    | error message =>
        rw [parsed] at built
        cases built
    | ok parsedBody =>
        rw [parsed] at built
        have built : platform.reconstructRequest {
            url := request.pathname ++ request.search, method := request.method,
            headers := FetchHeaders.fromEntries request.headers.entries,
            body := bodyString parsedBody } = some received := built
        obtain ⟨pathname, search, _, admitted, takesBody, rfl⟩ := newRequest_eq_some built
        obtain ⟨survives, hasType⟩ := headers_kept faithful.headers
        have bytes : toUtf8 (bodyString parsedBody) = request.body.getD [] := by
          rw [← faithful.body]
          exact (sentBytes (bodyString parsedBody)).symm
        rw [request.methodNormal] at takesBody
        refine ⟨admitted, survives, ?_⟩
        unfold BodyCarried
        by_cases skips : skipsBody request.toRequest
        · rw [parse_skipped skips] at parsed
          have nothing : bodyString parsedBody = emptyString := by
            rw [← Except.ok.inj parsed]
            rfl
          rw [if_pos skips]
          rw [nothing] at bytes takesBody hasType
          have sends := isSome_of_notEmpty (show emptyString.toList.isEmpty = false by decide)
          refine ⟨?_, hasType sends, takesBody sends⟩
          cases body : request.body with
          | none =>
              rw [body] at bytes
              exact absurd bytes (by decide)
          | some sent =>
              rw [body] at bytes
              exact congrArg some bytes.symm
        · rw [if_neg skips]
          cases form : readsForm request.toRequest with
          | true => exact absurd bytes (form_not_kept skips form parsed)
          | false =>
              rw [parse_text skips form] at parsed
              rw [← Except.ok.inj parsed] at bytes
              exact ⟨rfl, (text_kept_iff request.body).mp bytes⟩
  · intro carried
    have sameEntries := (FetchHeaders.entries_copied_iff request.headers).mpr carried.headers
    obtain ⟨parsedBody, parsed, bytes, takesBody⟩ :
        ∃ parsedBody, platform.parseRequestBody request.toRequest = .ok parsedBody ∧
          toUtf8 (bodyString parsedBody) = request.body.getD [] ∧
          ((bodyString parsedBody).toList.isEmpty = false →
            (request.headers.get "content-type").isSome ∧
              platform.refusesBody request.method = false) := by
      have body := carried.body
      unfold BodyCarried at body
      by_cases skips : skipsBody request.toRequest
      · rw [if_pos skips] at body
        refine ⟨.undefined, parse_skipped skips, ?_, fun _ => body.2⟩
        rw [body.1]
        rfl
      · rw [if_neg skips] at body
        refine ⟨.string (text request.body), parse_text skips body.1,
          (text_kept_iff request.body).mpr body.2, ?_⟩
        intro _
        unfold skipsBody at skips
        rw [not_or, not_or] at skips
        constructor
        · rw [Option.isSome_iff_ne_none]
          intro missing
          apply skips.2.2
          unfold contentTypeOf
          rw [missing]
          rfl
        · rw [Bool.eq_false_iff]
          intro refuses
          apply skips.1
          rcases platform.refusesOnly request.method refuses with get | head
          · rw [get]
            decide
          · rw [head]
            decide
    have built := reconstruct_carried sameEntries carried.admitted takesBody
    rw [parsed]
    refine ⟨_, built, rfl, rfl, rfl, sameEntries, ?_, ?_⟩
    · rw [← bytes]
      exact sentBytes (bodyString parsedBody)
    · intro absent
      rw [absent] at bytes
      rw [absent_of_empty bytes]
      rfl

/-! ### A request without a body -/

def isHostChar (character : Char) : Bool :=
  character.isAlphanum || ".:-_".toList.contains character

/-- What follows the host of an `http` URL. -/
def behindHost (url : String) : List Char := (url.toList.drop 7).dropWhile (· != '/')

def splitUrl (url : String) : Option (String × String) :=
  if (behindHost url).isEmpty then none
  else some (String.ofList ((behindHost url).takeWhile (· != '?')),
    String.ofList ((behindHost url).dropWhile (· != '?')))

theorem behindHost_joined {host path query url : String} (plain : host.toList.all isHostChar = true)
    (split : splitUrl url = some (path, query)) :
    behindHost ("http://" ++ host ++ path ++ query) = behindHost url := by
  unfold splitUrl at split
  split at split
  · cases split
  rename_i notEmpty
  rw [Option.some.injEq, Prod.mk.injEq] at split
  have joined : path.toList ++ query.toList = behindHost url := by
    grind [String.toList_ofList, List.takeWhile_append_dropWhile]
  have inHost : ∀ character ∈ host.toList, (character != '/') = true := by
    intro character member
    have isPlain := List.all_eq_true.mp plain character member
    rw [bne_iff_ne]
    rintro rfl
    exact absurd isPlain (by decide)
  have scheme : "http://".toList.length = 7 := by decide
  have stops : (behindHost url).dropWhile (· != '/') = behindHost url := by
    unfold behindHost
    exact List.dropWhile_idempotent _ _
  unfold behindHost at stops ⊢
  rw [String.toList_append, String.toList_append, String.toList_append, List.append_assoc,
    List.append_assoc, ← scheme, List.drop_left, joined, List.dropWhile_append_of_pos inHost]
  exact stops

/-- A platform that takes every method, and a body with each but `GET` and `HEAD`. -/
def plainPlatform : Platform where
  isAuthority host := host.toList.all isHostChar
  parseUrl := splitUrl
  admitsMethod _ := true
  refusesBody method := method = "GET" || method = "HEAD"
  essence contentType := String.ofList (contentType.toList.takeWhile (· != ';'))
  multipart _ _ := .error "FormData parse error"
  noForm := "Can't decode form data from body because of incorrect MIME type/boundary"
  nullAuthority := by decide
  parsesAgain := by
    intro host path query url plain split
    have same := behindHost_joined plain split
    unfold splitUrl at split ⊢
    rw [same]
    exact split
  refusesOnly := by
    intro method refuses
    simpa using refuses
  multipartLine := by
    intro contentType bytes entries parsed
    cases parsed

def sampleDispatch : Dispatch where
  requestId := "worker__request__1"
  timestamp := 1754000000000
  isSystemRequest := false
  outLogPath := "/worker-tmp/logs/worker__request__1.out.log"
  errLogPath := "/worker-tmp/logs/worker__request__1.error.json"
  appIdentifier := "demo"

def sampleDelete : HttpRequest plainPlatform where
  method := "DELETE"
  pathname := "/items/7"
  search := "?force=true"
  headers := [("host", "demo.apps.local")]
  body := none
  url := "http://demo.apps.local/items/7?force=true"
  methodNormal := by decide +kernel
  parsed := by decide +kernel
  hostPlain := by
    intro host found
    have same : host = "demo.apps.local" := by
      rw [show FetchHeaders.get [("host", "demo.apps.local")] "host" =
        some "demo.apps.local" by decide +kernel] at found
      exact (Option.some.inj found).symm
    rw [same]
    decide

/-- A `DELETE` without a body is given a body of two quotation marks and a `Content-Type`. -/
theorem absent_body_filled :
    plainPlatform.relay sampleDispatch sampleDelete.toRequest = some {
        method := "DELETE", pathname := "/items/7", search := "?force=true",
        headers := [("host", "demo.apps.local"), ("content-type", "text/plain;charset=UTF-8")],
        body := some [34, 34] } ∧
      ¬ ∃ received, plainPlatform.relay sampleDispatch sampleDelete.toRequest = some received ∧
        Faithful sampleDelete.toRequest received := by
  have built : plainPlatform.relay sampleDispatch sampleDelete.toRequest = some {
      method := "DELETE", pathname := "/items/7", search := "?force=true",
      headers := [("host", "demo.apps.local"), ("content-type", "text/plain;charset=UTF-8")],
      body := some [34, 34] } := by
    rw [relay_eq]
    decide +kernel
  refine ⟨built, ?_⟩
  rintro ⟨received, relayed, faithful⟩
  rw [built] at relayed
  have filled := faithful.absent rfl
  rw [← Option.some.inj relayed] at filled
  cases filled

end Lombok.Worker
