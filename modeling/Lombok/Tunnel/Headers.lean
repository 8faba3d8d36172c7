import Mathlib.Data.List.Nodup

/-!
Contract: Go's `http.Header` and the headers the tunnel agent drops.

Owns the canonical form of a header name, the map from canonical names to
values, hop-by-hop stripping and the forwarded headers.

A Go map has no order: what is proved about a header is proved by name.
-/

namespace Lombok.Tunnel

/-! ### Names -/

/-- `validHeaderFieldByte`: the bytes of an RFC 7230 token. -/
def validHeaderFieldByte (character : Char) : Bool :=
  character.isAlphanum || "!#$%&'*+-.^_`|~".toList.contains character

/-- The loop of `canonicalMIMEHeaderKey`; `upper` is set at the start and after a hyphen. -/
def canonicalChars : Bool → List Char → List Char
  | _, [] => []
  | upper, character :: rest =>
      let written :=
        if upper && character.isLower then character.toUpper
        else if !upper && character.isUpper then character.toLower
        else character
      written :: canonicalChars (written == '-') rest

/-- `textproto.CanonicalMIMEHeaderKey`: a name that is no token stays as it is. -/
def canonicalKey (name : String) : String :=
  if name.toList.all validHeaderFieldByte then String.ofList (canonicalChars true name.toList)
  else name

example : canonicalKey "x-forwarded-FOR" = "X-Forwarded-For" := by decide

/-! ### `http.Header` -/

/-- Values are texts in a request and bytes in a response. -/
abbrev Header (V : Type) := List (String × List V)

namespace Header

variable {V : Type}

/-- The values under a canonical name. -/
def values (header : Header V) (key : String) : List V :=
  match header.find? (fun entry => entry.1 == key) with
  | some entry => entry.2
  | none => []

/-- The value `h.Get(name)` returns, if there is one. -/
def first (header : Header V) (name : String) : Option V :=
  (header.values (canonicalKey name)).head?

def delKey (header : Header V) (key : String) : Header V :=
  header.filter fun entry => entry.1 != key

/-- `h.Del(name)`. -/
def del (header : Header V) (name : String) : Header V := header.delKey (canonicalKey name)

/-- `h.Set(name, value)`. -/
def set (header : Header V) (name : String) (value : V) : Header V :=
  header.del name ++ [(canonicalKey name, [value])]

/-- `h.Add(name, value)`. -/
def add (header : Header V) (name : String) (value : V) : Header V :=
  header.del name ++ [(canonicalKey name, header.values (canonicalKey name) ++ [value])]

variable {key : String} {header : Header V} {name : String}

theorem values_append_of_absent (absent : ∀ entry ∈ header, entry.1 ≠ key) (rest : Header V) :
    values (header ++ rest) key = values rest key := by
  have notFound : header.find? (fun entry => entry.1 == key) = none := by
    grind
  unfold values
  rw [List.find?_append, notFound, Option.none_or]

theorem absent_delKey (header : Header V) (key : String) :
    ∀ entry ∈ header.delKey key, entry.1 ≠ key := by
  intro entry member
  have kept := (List.mem_filter.mp member).2
  exact bne_iff_ne.mp kept

theorem mem_delKey {entry : String × List V} :
    entry ∈ header.delKey key ↔ entry ∈ header ∧ entry.1 ≠ key := by
  rw [delKey, List.mem_filter, bne_iff_ne]

theorem values_delKey_other (header : Header V) {other : String} (different : other ≠ key) :
    values (header.delKey key) other = values header other := by
  grind [delKey, values]

theorem values_append_other (header : Header V) {other : String} (stored : List V)
    (different : other ≠ key) : values (header ++ [(key, stored)]) other = values header other := by
  simp [values, Ne.symm, different]

theorem values_set_same (header : Header V) (name : String) (value : V) :
    values (header.set name value) (canonicalKey name) = [value] := by
  unfold set del
  rw [values_append_of_absent (absent_delKey header _)]
  simp [values]

theorem values_set_other (header : Header V) (value : V) (different : key ≠ canonicalKey name) :
    values (header.set name value) key = values header key := by
  unfold set del
  rw [values_append_other _ _ different, values_delKey_other _ different]

theorem values_add_same (header : Header V) (name : String) (value : V) :
    values (header.add name value) (canonicalKey name) =
      header.values (canonicalKey name) ++ [value] := by
  unfold add del
  rw [values_append_of_absent (absent_delKey header _)]
  simp [values]

theorem values_add_other (header : Header V) (value : V) (different : key ≠ canonicalKey name) :
    values (header.add name value) key = values header key := by
  unfold add del
  rw [values_append_other _ _ different, values_delKey_other _ different]

theorem mem_set {value : V} {entry : String × List V} :
    entry ∈ header.set name value ↔
      (entry ∈ header ∧ entry.1 ≠ canonicalKey name) ∨ entry = (canonicalKey name, [value]) := by
  unfold set del
  rw [List.mem_append, mem_delKey, List.mem_singleton]

theorem mem_of_values {value : V} (held : value ∈ values header key) :
    ∃ entry ∈ header, entry.1 = key ∧ value ∈ entry.2 := by
  unfold values at held
  grind

/-- Each canonical name has one entry. -/
def Distinct (header : Header V) : Prop := (header.map Prod.fst).Nodup

theorem distinct_delKey (distinct : Distinct header) (key : String) :
    Distinct (header.delKey key) :=
  (List.filter_sublist.map Prod.fst).nodup distinct

theorem distinct_append {stored : List V} (distinct : Distinct header)
    (absent : ∀ entry ∈ header, entry.1 ≠ key) :
    Distinct (header ++ [(key, stored)]) := by
  grind [Distinct]

theorem distinct_add (distinct : Distinct header) (name : String) (value : V) :
    Distinct (header.add name value) :=
  distinct_append (distinct_delKey distinct _) (absent_delKey header _)

end Header

/-! ### Hop-by-hop headers -/

/-- `hopByHopHeaders`. -/
def hopByHopHeaders : List String :=
  ["Connection", "Keep-Alive", "Proxy-Authenticate", "Proxy-Authorization", "Proxy-Connection",
    "Te", "Trailers", "Transfer-Encoding", "Upgrade"]

def isBlank (character : Char) : Bool := character == ' ' || character == '\t'

/-- The text without blanks at either end. -/
def trimBlanks (text : List Char) : List Char :=
  ((text.dropWhile isBlank).reverse.dropWhile isBlank).reverse

/-- `splitCommaSeparated`: the trimmed parts that are not empty. -/
def splitCommaSeparated (text : String) : List String :=
  (((text.toList.splitOn ',').map trimBlanks).filter fun part => !part.isEmpty).map String.ofList

example : splitCommaSeparated "close, ,\tX-A " = ["close", "X-A"] := by decide

section Strip

variable {V : Type} (tokens : V → List String)

/-- The names a `Connection` header lists; an empty one lists none. -/
def listedNames (header : Header V) : List String :=
  match header.first "Connection" with
  | none => []
  | some conn => tokens conn

/-- `stripHopByHop`: first what the `Connection` header lists, then the standard names. -/
def stripHopByHop (header : Header V) : Header V :=
  hopByHopHeaders.foldl Header.del ((listedNames tokens header).foldl Header.del header)

/-- `stripHopByHop` drops the key. -/
def stripped (header : Header V) (key : String) : Prop :=
  key ∈ hopByHopHeaders ∨ key ∈ (listedNames tokens header).map canonicalKey

instance (header : Header V) (key : String) : Decidable (stripped tokens header key) :=
  inferInstanceAs (Decidable (_ ∨ _))

theorem mem_foldl_del (names : List String) :
    ∀ (header : Header V) (entry : String × List V),
      entry ∈ names.foldl Header.del header ↔
        entry ∈ header ∧ entry.1 ∉ names.map canonicalKey := by
  induction names with
  | nil =>
      intro header entry
      simp
  | cons name tail inductionHypothesis =>
      intro header entry
      rw [List.foldl_cons, inductionHypothesis, Header.del, Header.mem_delKey, List.map_cons,
        List.mem_cons, not_or, and_assoc]

theorem values_foldl_del {key : String} (names : List String) :
    ∀ header : Header V, key ∉ names.map canonicalKey →
      Header.values (names.foldl Header.del header) key = Header.values header key := by
  induction names with
  | nil =>
      intro header _
      rfl
  | cons name tail inductionHypothesis =>
      intro header notListed
      rw [List.map_cons, List.mem_cons, not_or] at notListed
      grind [Header.del, Header.values_delKey_other]

theorem distinct_foldl_del (names : List String) :
    ∀ header : Header V, header.Distinct → (names.foldl Header.del header).Distinct := by
  induction names with
  | nil =>
      intro header distinct
      exact distinct
  | cons name tail inductionHypothesis =>
      intro header distinct
      exact inductionHypothesis _ (Header.distinct_delKey distinct _)

theorem canonical_hopByHopHeaders : hopByHopHeaders.map canonicalKey = hopByHopHeaders := by
  decide +kernel

/-- The two rounds of deletions as one. -/
theorem stripHopByHop_eq (header : Header V) :
    stripHopByHop tokens header =
      (listedNames tokens header ++ hopByHopHeaders).foldl Header.del header := by
  rw [stripHopByHop, List.foldl_append]

theorem stripped_iff {header : Header V} {key : String} :
    stripped tokens header key ↔
      key ∈ (listedNames tokens header ++ hopByHopHeaders).map canonicalKey := by
  rw [stripped, List.map_append, List.mem_append, canonical_hopByHopHeaders, or_comm]

variable {tokens}

theorem mem_stripHopByHop {header : Header V} {entry : String × List V} :
    entry ∈ stripHopByHop tokens header ↔ entry ∈ header ∧ ¬stripped tokens header entry.1 := by
  rw [stripHopByHop_eq, mem_foldl_del, stripped_iff]

theorem values_stripHopByHop {header : Header V} {key : String}
    (kept : ¬stripped tokens header key) :
    Header.values (stripHopByHop tokens header) key = Header.values header key := by
  rw [stripped_iff] at kept
  rw [stripHopByHop_eq, values_foldl_del _ _ kept]

theorem distinct_stripHopByHop {header : Header V} (distinct : header.Distinct) :
    (stripHopByHop tokens header).Distinct := by
  rw [stripHopByHop_eq]
  exact distinct_foldl_del _ header distinct

end Strip

/-! ### Forwarded headers -/

/-- The names `addForwardedHeaders` sets. -/
def forwardedHeaders : List String := ["X-Forwarded-For", "X-Forwarded-Proto", "X-Forwarded-Host"]

/-- `addForwardedHeaders`. -/
def addForwardedHeaders (header : Header String) (host : String) : Header String :=
  ((header.set "X-Forwarded-For" "tunnel-agent").set "X-Forwarded-Proto" "https").set
    "X-Forwarded-Host" host

theorem canonical_forwardedHeaders : forwardedHeaders.map canonicalKey = forwardedHeaders := by
  decide

theorem values_addForwardedHeaders {header : Header String} {key : String} (host : String)
    (other : key ∉ forwardedHeaders) :
    Header.values (addForwardedHeaders header host) key = Header.values header key := by
  simp only [forwardedHeaders, List.map_cons, List.map_nil, List.mem_cons, List.not_mem_nil,
    or_false, not_or] at other
  unfold addForwardedHeaders
  rw [Header.values_set_other _ _ other.2.2, Header.values_set_other _ _ other.2.1,
    Header.values_set_other _ _ other.1]

theorem mem_addForwardedHeaders {header : Header String} {host : String}
    {entry : String × List String}
    (member : entry ∈ addForwardedHeaders header host) :
    entry ∈ header ∨ entry.1 ∈ forwardedHeaders := by
  rw [← canonical_forwardedHeaders]
  rcases Header.mem_set.mp member with ⟨member, _⟩ | rfl
  · rcases Header.mem_set.mp member with ⟨member, _⟩ | rfl
    · rcases Header.mem_set.mp member with ⟨member, _⟩ | rfl
      · exact .inl member
      · exact .inr (by simp [forwardedHeaders])
    · exact .inr (by simp [forwardedHeaders])
  · exact .inr (by simp [forwardedHeaders])

end Lombok.Tunnel
