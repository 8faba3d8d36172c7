import Lombok.Core.Utf8

/-!
Contract: what becomes of a text whose UTF-8 bytes are decoded piece by piece.

A piece that begins inside a character begins with a trailing byte. Where no
piece does, the pieces decode to the text. Where one does, the character that
is cut becomes two or more U+FFFD, and the rest of the text stays as it is.
-/

namespace Lombok.Core

/-- A byte in the middle of a character. -/
def isTrailing (byte : UInt8) : Bool := isContinuation 0x80 0xBF byte

def beginsInside (piece : List UInt8) : Bool := piece.head?.any isTrailing

def replacement : Char := Char.ofNat 0xFFFD

/-- The characters of `buffer.toString()`. -/
def decodeChars (bytes : List UInt8) : List Char :=
  repairCharsWith truncatedTail bytes.length bytes

/-! ### The bytes of a character -/

/-- A character is one byte that is not a trailing one, and trailing bytes. -/
theorem encodeChar_split (character : Char) : ∃ lead tail,
    String.utf8EncodeChar character = lead :: tail ∧ isTrailing lead = false ∧
      ∀ byte ∈ tail, isTrailing byte = true := by
  unfold String.utf8EncodeChar
  dsimp only
  split
  · grind [isTrailing, isContinuation, UInt8.toNat_ofNat']
  split
  · refine ⟨_, _, rfl, ?_, ?_⟩
    · grind [isTrailing, isContinuation, UInt8.toNat_ofNat']
    · simp only [List.mem_singleton, forall_eq, isTrailing, isContinuation, UInt8.toNat_ofNat',
        Bool.and_eq_true, decide_eq_true_eq]
      omega
  split
  · refine ⟨_, _, rfl, ?_, ?_⟩
    · grind [isTrailing, isContinuation, UInt8.toNat_ofNat']
    · simp only [List.mem_cons, List.not_mem_nil, or_false, forall_eq_or_imp, forall_eq,
        isTrailing, isContinuation, UInt8.toNat_ofNat', Bool.and_eq_true, decide_eq_true_eq]
      omega
  · refine ⟨_, _, rfl, ?_, ?_⟩
    · grind [isTrailing, isContinuation, UInt8.toNat_ofNat']
    · simp only [List.mem_cons, List.not_mem_nil, or_false, forall_eq_or_imp, forall_eq,
        isTrailing, isContinuation, UInt8.toNat_ofNat', Bool.and_eq_true, decide_eq_true_eq]
      omega

theorem encoded_beginsInside (text : List Char) :
    beginsInside (text.flatMap String.utf8EncodeChar) = false := by
  cases text with
  | nil => rfl
  | cons character rest =>
      obtain ⟨lead, tail, encoded, notTrailing, _⟩ := encodeChar_split character
      rw [List.flatMap_cons, encoded]
      exact notTrailing

/-! ### Decoding from the front -/

/-- Fuel beyond the length changes nothing. -/
theorem repairCharsWith_enough (extra : List UInt8 → Nat) (bytes : List UInt8) :
    ∀ fuel, bytes.length ≤ fuel →
      repairCharsWith extra fuel bytes = repairCharsWith extra bytes.length bytes := by
  generalize bound : bytes.length = size
  induction size using Nat.strongRecOn generalizing bytes with
  | _ size inductionHypothesis =>
      intro fuel enough
      cases bytes with
      | nil =>
          subst bound
          cases fuel with
          | zero => rfl
          | succ fuel => rfl
      | cons byte rest =>
          rw [List.length_cons] at bound
          obtain ⟨fuel, rfl⟩ : ∃ smaller, fuel = smaller + 1 := ⟨fuel - 1, by omega⟩
          subst bound
          rw [repairCharsWith, repairCharsWith]
          cases (byte :: rest).toByteArray.utf8DecodeChar? 0 with
          | none =>
              grind
          | some character =>
              grind [character.utf8Size_pos]

theorem decodeChars_encoded_append (text : List Char) (rest : List UInt8) :
    decodeChars (text.flatMap String.utf8EncodeChar ++ rest) = text ++ decodeChars rest := by
  induction text with
  | nil => rfl
  | cons character others inductionHypothesis =>
      rw [List.flatMap_cons, List.append_assoc, List.cons_append, ← inductionHypothesis]
      generalize others.flatMap String.utf8EncodeChar ++ rest = following
      obtain ⟨lead, tail, encoded, _, _⟩ := encodeChar_split character
      have first : (lead :: (tail ++ following)).toByteArray.utf8DecodeChar? 0 =
          some character := by
        rw [← List.cons_append, ← encoded, List.toByteArray_append]
        exact ByteArray.utf8DecodeChar?_utf8EncodeChar_append
      grind [String.length_utf8EncodeChar, decodeChars, repairCharsWith, repairCharsWith_enough]

/-- Nothing is decoded from bytes that begin inside a character. -/
theorem utf8DecodeChar?_trailing {byte : UInt8} (trailing : isTrailing byte = true)
    (rest : List UInt8) : (byte :: rest).toByteArray.utf8DecodeChar? 0 = none := by
  cases decoded : (byte :: rest).toByteArray.utf8DecodeChar? 0 with
  | none => rfl
  | some character =>
      obtain ⟨lead, tail, encoded, notTrailing, _⟩ := encodeChar_split character
      have split := decoded_first decoded
      grind

theorem truncatedTail_trailing {byte : UInt8} (trailing : isTrailing byte = true)
    (rest : List UInt8) : truncatedTail (byte :: rest) = 0 := by
  simp only [isTrailing, isContinuation, Bool.and_eq_true, decide_eq_true_eq] at trailing
  cases rest with
  | nil => rfl
  | cons second rest =>
      unfold truncatedTail
      grind

/-- Trailing bytes are replaced one by one. -/
theorem decodeChars_trailing_append (pending rest : List UInt8)
    (trailing : ∀ byte ∈ pending, isTrailing byte = true) :
    decodeChars (pending ++ rest) = List.replicate pending.length replacement ++
        decodeChars rest := by
  induction pending with
  | nil => rfl
  | cons byte tail inductionHypothesis =>
      have first := trailing byte List.mem_cons_self
      have others := inductionHypothesis fun other member =>
        trailing other (List.mem_cons_of_mem byte member)
      rw [List.cons_append, decodeChars, List.length_cons, repairCharsWith,
        utf8DecodeChar?_trailing first]
      rw [truncatedTail_trailing first, List.drop_zero, ← decodeChars, others, List.length_cons,
        List.replicate_succ, List.cons_append]
      rfl

/-- A character that breaks off is replaced by one U+FFFD or more. -/
theorem decodeChars_broken {character : Char} {front back : List UInt8}
    (cut : String.utf8EncodeChar character = front ++ back) (begun : front ≠ [])
    (broken : back ≠ []) : ∃ count, decodeChars front = List.replicate (count + 1) replacement := by
  obtain ⟨lead, tail, encoded, _, trailing⟩ := encodeChar_split character
  cases front with
  | nil => exact absurd rfl begun
  | cons byte rest =>
      rw [encoded, List.cons_append, List.cons.injEq] at cut
      obtain ⟨rfl, sameTail⟩ := cut
      have undecoded : (lead :: rest).toByteArray.utf8DecodeChar? 0 = none := by
        cases decoded : (lead :: rest).toByteArray.utf8DecodeChar? 0 with
        | none => rfl
        | some other =>
            have split := decoded_first decoded
            have longer : (lead :: tail).toByteArray.utf8DecodeChar? 0 = some other := by
              rw [sameTail, ← List.cons_append, split, List.append_assoc, List.toByteArray_append]
              exact ByteArray.utf8DecodeChar?_utf8EncodeChar_append
            have whole : (lead :: tail).toByteArray.utf8DecodeChar? 0 = some character := by
              rw [← encoded, ← List.append_nil (String.utf8EncodeChar character),
                List.toByteArray_append]
              exact ByteArray.utf8DecodeChar?_utf8EncodeChar_append
            have same : other = character := Option.some.inj (longer.symm.trans whole)
            have lengths := congrArg List.length split
            rw [same, encoded, sameTail] at lengths
            simp only [List.length_append, List.length_cons] at lengths
            have positive := List.length_pos_of_ne_nil broken
            omega
      have restTrailing : ∀ byte ∈ rest.drop (truncatedTail (lead :: rest)),
          isTrailing byte = true := by
        grind
      have behind := decodeChars_trailing_append _ [] restTrailing
      rw [List.append_nil, decodeChars] at behind
      refine ⟨(rest.drop (truncatedTail (lead :: rest))).length, ?_⟩
      rw [decodeChars, List.length_cons, repairCharsWith, undecoded]
      rw [repairCharsWith_enough _ _ _ (by rw [List.length_drop]; omega), behind,
        List.replicate_succ]
      exact congrArg (List.cons replacement) (List.append_nil _)

/-! ### A text whose characters are cut -/

/-- A text with some characters above ASCII replaced by two or more U+FFFD each. -/
inductive Garbled : List Char → List Char → Prop
  | nil : Garbled [] []
  | kept (character : Char) {text read : List Char} :
      Garbled text read → Garbled (character :: text) (character :: read)
  | cut {character : Char} (count : Nat) {text read : List Char} : 128 ≤ character.toNat →
      Garbled text read →
        Garbled (character :: text) (List.replicate (count + 2) replacement ++ read)

namespace Garbled

theorem append_front (front : List Char) {text read : List Char} (garbled : Garbled text read) :
    Garbled (front ++ text) (front ++ read) := by
  induction front with
  | nil => exact garbled
  | cons character rest inductionHypothesis => exact .kept character inductionHypothesis

theorem same_or_more {counted : Char → Bool} (counts : counted replacement = true)
    {text read : List Char} (garbled : Garbled text read) :
    read = text ∨ text.countP counted < read.countP counted := by
  induction garbled with
  | nil => exact .inl rfl
  | kept character garbled inductionHypothesis =>
      grind
  | @cut character count text read _ _ inductionHypothesis =>
      grind

/-- A text of two parts is garbled part by part. -/
theorem of_append {front back : List Char} : ∀ {read : List Char},
    Garbled (front ++ back) read →
      ∃ frontRead backRead, read = frontRead ++ backRead ∧ Garbled front frontRead ∧
        Garbled back backRead := by
  induction front with
  | nil =>
      intro read garbled
      exact ⟨[], read, rfl, .nil, garbled⟩
  | cons character rest inductionHypothesis =>
      intro read garbled
      cases garbled with
      | kept _ garbled =>
          obtain ⟨frontRead, backRead, rfl, first, second⟩ := inductionHypothesis garbled
          exact ⟨character :: frontRead, backRead, rfl, .kept character first, second⟩
      | cut count high garbled =>
          obtain ⟨frontRead, backRead, rfl, first, second⟩ := inductionHypothesis garbled
          exact ⟨_, backRead, (List.append_assoc _ _ _).symm, .cut count high first, second⟩

theorem of_cons_ascii {character : Char} (small : character.toNat < 128) {text read : List Char}
    (garbled : Garbled (character :: text) read) :
    ∃ rest, read = character :: rest ∧ Garbled text rest := by
  cases garbled with
  | kept _ garbled => exact ⟨_, rfl, garbled⟩
  | cut count high garbled => omega

theorem ascii_mem {character : Char} (small : character.toNat < 128) {text read : List Char}
    (garbled : Garbled text read) (member : character ∈ read) : character ∈ text := by
  induction garbled with
  | nil => exact member
  | kept other garbled inductionHypothesis =>
      rcases List.mem_cons.mp member with rfl | inRest
      · exact List.mem_cons_self
      · exact List.mem_cons_of_mem other (inductionHypothesis inRest)
  | cut count high garbled inductionHypothesis =>
      rcases List.mem_append.mp member with replaced | inRest
      · rw [List.eq_of_mem_replicate replaced] at small
        exact absurd small (by decide)
      · exact List.mem_cons_of_mem _ (inductionHypothesis inRest)

end Garbled

/-! ### A text in pieces -/

/-- A cut goes between two characters or through one. -/
theorem encoded_cut {text : List Char} : ∀ {piece future : List UInt8},
    text.flatMap String.utf8EncodeChar = piece ++ future →
      (∃ front back, text = front ++ back ∧ piece = front.flatMap String.utf8EncodeChar ∧
        future = back.flatMap String.utf8EncodeChar) ∨
      ∃ front character back begun broken, text = front ++ character :: back ∧
        String.utf8EncodeChar character = begun ++ broken ∧ begun ≠ [] ∧ broken ≠ [] ∧
        piece = front.flatMap String.utf8EncodeChar ++ begun ∧
        future = broken ++ back.flatMap String.utf8EncodeChar := by
  induction text with
  | nil =>
      intro piece future split
      obtain ⟨rfl, rfl⟩ := List.append_eq_nil_iff.mp split.symm
      exact .inl ⟨[], [], rfl, rfl, rfl⟩
  | cons character rest inductionHypothesis =>
      intro piece future split
      rw [List.flatMap_cons] at split
      rcases List.append_eq_append_iff.mp split with ⟨others, rfl, inRest⟩ |
        ⟨broken, encoded, rfl⟩
      · rcases inductionHypothesis inRest with ⟨front, back, rfl, rfl, rfl⟩ |
          ⟨front, cutCharacter, back, begun, broken, rfl, encoded, some, left, rfl, rfl⟩
        · exact .inl ⟨character :: front, back, rfl, rfl, rfl⟩
        · refine .inr ⟨character :: front, cutCharacter, back, begun, broken, rfl, encoded, some,
            left, ?_, rfl⟩
          rw [List.flatMap_cons, List.append_assoc]
      · by_cases whole : broken = []
        · subst whole
          exact .inl ⟨[character], rest, rfl, by simp [encoded], rfl⟩
        by_cases none : piece = []
        · subst none
          rw [List.nil_append] at encoded
          exact .inl ⟨[], character :: rest, rfl, rfl, by rw [List.flatMap_cons, encoded]⟩
        · exact .inr ⟨[], character, rest, piece, broken, rfl, encoded, none, whole, rfl, rfl⟩

theorem exists_beginsInside {pieces : List (List UInt8)} {left rest : List UInt8}
    (trailing : ∀ byte ∈ left, isTrailing byte = true) (some : left ≠ [])
    (stream : pieces.flatten = left ++ rest) : ∃ piece ∈ pieces, beginsInside piece = true := by
  induction pieces with
  | nil =>
      exact absurd (List.append_eq_nil_iff.mp stream.symm).1 some
  | cons piece pieces inductionHypothesis =>
      cases piece with
      | nil =>
          grind
      | cons byte others =>
          cases left with
          | nil => exact absurd rfl some
          | cons first left =>
              rw [List.flatten_cons, List.cons_append, List.cons_append, List.cons.injEq] at stream
              refine ⟨byte :: others, List.mem_cons_self, ?_⟩
              rw [stream.1]
              exact trailing first List.mem_cons_self

theorem broken_trailing {character : Char} {begun broken : List UInt8}
    (encoded : String.utf8EncodeChar character = begun ++ broken) (some : begun ≠ []) :
    ∀ byte ∈ broken, isTrailing byte = true := by
  obtain ⟨lead, tail, bytes, _, trailing⟩ := encodeChar_split character
  intro byte member
  apply trailing byte
  cases begun with
  | nil => exact absurd rfl some
  | cons first others =>
      grind

/-- Only a character of several bytes is cut. -/
theorem broken_high {character : Char} {begun broken : List UInt8}
    (encoded : String.utf8EncodeChar character = begun ++ broken) (some : begun ≠ [])
    (more : broken ≠ []) : 128 ≤ character.toNat := by
  apply Nat.le_of_not_lt
  intro small
  have sizes := congrArg List.length encoded
  grind [encodeChar_ascii, List.length_pos_of_ne_nil]

/-- One piece of a stream: it leaves a text, after what it leaves of a character. Where the
piece begins with a character, the text is kept where nothing is left of one. -/
theorem decode_piece {pending piece future : List UInt8} {text : List Char}
    (trailing : ∀ byte ∈ pending, isTrailing byte = true)
    (stream : pending ++ text.flatMap String.utf8EncodeChar = piece ++ future) :
    ∃ left rest, (∀ byte ∈ left, isTrailing byte = true) ∧
      future = left ++ rest.flatMap String.utf8EncodeChar ∧
      ∀ restRead, Garbled rest restRead → ∃ read,
        decodeChars piece ++ (List.replicate left.length replacement ++ restRead) =
          List.replicate pending.length replacement ++ read ∧
        Garbled text read ∧ (pending = [] → (read = text ↔ left = [] ∧ restRead = rest)) := by
  rcases List.append_eq_append_iff.mp stream with ⟨part, rfl, inText⟩ | ⟨left, rfl, future⟩
  · have decoded := decodeChars_trailing_append pending part trailing
    rcases encoded_cut inText with ⟨front, back, rfl, rfl, future⟩ |
      ⟨front, character, back, begun, broken, rfl, encoded, some, more, rfl, future⟩
    · have whole := decodeChars_encoded_append front []
      rw [List.append_nil] at whole
      refine ⟨[], back, by simp, future, ?_⟩
      intro restRead garbled
      refine ⟨front ++ restRead, ?_, garbled.append_front front, ?_⟩
      · rw [decoded, whole]
        simp [decodeChars, repairCharsWith]
      · simp
    · obtain ⟨count, brokenOff⟩ := decodeChars_broken encoded some more
      obtain ⟨least, brokenLength⟩ : ∃ least, broken.length = least + 1 :=
        ⟨broken.length - 1, by have positive := List.length_pos_of_ne_nil more; omega⟩
      refine ⟨broken, back, broken_trailing encoded some, future, ?_⟩
      intro restRead garbled
      have cut : Garbled (character :: back)
          (List.replicate (count + least + 2) replacement ++ restRead) :=
        .cut _ (broken_high encoded some more) garbled
      refine ⟨_, ?_, cut.append_front front, ?_⟩
      · rw [decoded, decodeChars_encoded_append, brokenOff, brokenLength,
          show count + least + 2 = (count + 1) + (least + 1) by omega,
          List.replicate_add (count + 1)]
        simp only [List.append_assoc]
      · intro _
        apply iff_of_false
        · -- The text has grown.
          intro same
          have lengths := congrArg List.length (List.append_cancel_left same)
          rw [List.length_append, List.length_replicate, List.length_cons] at lengths
          rcases @garbled.same_or_more (fun _ => true) rfl with rfl | longer
          · omega
          · simp only [List.countP_true] at longer
            omega
        · intro none
          exact more none.1
  · have decoded := decodeChars_trailing_append piece []
      fun byte member => trailing byte (List.mem_append_left left member)
    rw [List.append_nil] at decoded
    refine ⟨left, text, fun byte member => trailing byte (List.mem_append_right piece member),
      future, ?_⟩
    intro restRead garbled
    refine ⟨restRead, ?_, garbled, ?_⟩
    · rw [decoded, List.length_append, List.replicate_add, List.append_assoc, List.append_assoc]
      rfl
    · intro none
      rw [and_iff_right (List.append_eq_nil_iff.mp none).2]

/-- What the pieces of a stream are decoded to, where it begins with what is left of a character.
Where it begins with a character, it is the text only if no piece begins inside one. -/
theorem decode_pieces (pieces : List (List UInt8)) :
    ∀ (pending : List UInt8) (text : List Char), (∀ byte ∈ pending, isTrailing byte = true) →
      pending ++ text.flatMap String.utf8EncodeChar = pieces.flatten →
        ∃ read, pieces.flatMap decodeChars = List.replicate pending.length replacement ++ read ∧
          Garbled text read ∧
          (pending = [] → (read = text ↔ ∀ piece ∈ pieces, beginsInside piece = false)) := by
  induction pieces with
  | nil =>
      intro pending text _ stream
      obtain ⟨rfl, empty⟩ := List.append_eq_nil_iff.mp stream
      cases text with
      | nil => exact ⟨[], rfl, .nil, fun _ => by simp⟩
      | cons character rest =>
          grind [List.append_eq_nil_iff, String.utf8EncodeChar_ne_nil]
  | cons piece pieces inductionHypothesis =>
      intro pending text trailing stream
      obtain ⟨left, rest, leftTrailing, future, one⟩ := decode_piece trailing stream
      obtain ⟨restRead, others, garbled, restExactly⟩ :=
        inductionHypothesis left rest leftTrailing future.symm
      obtain ⟨read, decoded, textGarbled, exactly⟩ := one restRead garbled
      refine ⟨read, ?_, textGarbled, ?_⟩
      · rw [List.flatMap_cons, others, decoded]
      · intro none
        have outside : beginsInside piece = false := by
          have begins := encoded_beginsInside text
          rw [none, List.nil_append] at stream
          rw [stream] at begins
          cases piece with
          | nil => rfl
          | cons byte others => exact begins
        rw [exactly none, List.forall_mem_cons]
        by_cases nothing : left = []
        · rw [restExactly nothing, and_iff_right nothing, and_iff_right outside]
        · obtain ⟨inside, member, begins⟩ := exists_beginsInside leftTrailing nothing future
          apply iff_of_false
          · intro both
            exact nothing both.1
          · grind

theorem decode_text {pieces : List (List UInt8)} {text : List Char}
    (stream : pieces.flatten = text.flatMap String.utf8EncodeChar) :
    Garbled text (pieces.flatMap decodeChars) ∧
      (pieces.flatMap decodeChars = text ↔ ∀ piece ∈ pieces, beginsInside piece = false) := by
  obtain ⟨read, decoded, garbled, exactly⟩ :=
    decode_pieces pieces [] text (by simp) (by rw [stream, List.nil_append])
  simp [decoded, garbled, exactly]

end Lombok.Core
