import Lombok.Tunnel.Agent

/-!
Contract: where the connections of the tunnel agent go.

Owns the URLs the agent builds for a request and for a WebSocket, the authority
of a URL, the address Go dials for it, and for which paths that is the agent's
own port: the path is put right behind the port, and nothing looks at it.

Does not own which URLs `url.Parse` takes, the escapes and the international
names in a host, nor what the WebSocket library does with a redirect.
-/

namespace Lombok.Tunnel

/-! ### The address of a URL -/

/-- The characters behind the last one of the kind, all of them where there is none. -/
def afterLast (mark : Char) (text : List Char) : List Char :=
  (text.reverse.takeWhile (· != mark)).reverse

def authorityEnds : List Char := ['/', '?', '#']

/-- The authority: behind the two slashes, up to the first character that ends it. -/
def urlAuthority (url : List Char) : List Char :=
  ((url.dropWhile (· != '/')).drop 2).takeWhile
    fun character => !authorityEnds.contains character

/-- Go's `splitHostPort`: a port has digits only. -/
def splitHostPort (hostPort : List Char) : List Char × List Char :=
  let port := afterLast ':' hostPort
  if hostPort.contains ':' && port.all Char.isDigit then
    (hostPort.take (hostPort.length - port.length - 1), port)
  else (hostPort, [])

/-- The brackets of an IPv6 address. -/
def withoutBrackets (host : List Char) : List Char :=
  if host.head? == some '[' && host.getLast? == some ']' then (host.drop 1).dropLast else host

structure Address where
  host : String
  port : String
deriving DecidableEq

def dialedAddress (url : String) : Address :=
  let (host, port) := splitHostPort (afterLast '@' (urlAuthority url.toList))
  ⟨String.ofList (withoutBrackets host), if port.isEmpty then "80" else String.ofList port⟩

/-! ### The agent's connections -/

/-- `dialURL` of the WebSocket proxy. -/
def dialURL (agent : Agent) (path : String) : String :=
  "ws://127.0.0.1:" ++ toString agent.port ++ path

/-- The path a client asks for. -/
def Delivery.path? : Delivery → Option String
  | .httpRequest msg _ => some msg.path
  | .wsUpgrade msg => some msg.path
  | _ => none

def builtURL (agent : Agent) : Delivery → Option String
  | .httpRequest msg _ => some (targetURL agent msg.path)
  | .wsUpgrade msg => some (dialURL agent msg.path)
  | _ => none

/-- The URL the agent connects to, if it gets so far. -/
def connectionURL (agent : Agent) : Delivery → Option String
  | .httpRequest msg body => (makeRequest agent msg body).map UpstreamRequest.url
  | .wsUpgrade msg =>
      if agent.parsesURL (dialURL agent msg.path) then some (dialURL agent msg.path) else none
  | _ => none

/-- The authority is the agent's own, and so is the address of the connection. -/
structure StaysOnPort (agent : Agent) (delivery : Delivery) : Prop where
  authority : ∀ url, builtURL agent delivery = some url →
    urlAuthority url.toList = ("127.0.0.1:" ++ toString agent.port).toList
  connection : ∀ url, connectionURL agent delivery = some url →
    dialedAddress url = ⟨"127.0.0.1", toString agent.port⟩

def endsAuthority (path : String) : Bool :=
  match path.toList with
  | [] => true
  | first :: _ => authorityEnds.contains first

/-! ### Reading the URLs back -/

theorem isDigit_of_mem_port {port : Nat} {character : Char}
    (member : character ∈ (toString port).toList) : character.isDigit = true := by
  rw [Nat.toString_eq_repr, Nat.toList_repr] at member
  exact Nat.isDigit_of_mem_toDigits (by omega) (by omega) member

theorem afterLast_of_not_mem {mark : Char} {text : List Char} (absent : mark ∉ text) :
    afterLast mark text = text := by
  rw [afterLast, List.takeWhile_eq_self_iff.mpr, List.reverse_reverse]
  grind

theorem afterLast_append {mark : Char} {before after : List Char} (absent : mark ∉ after) :
    afterLast mark (before ++ mark :: after) = after := by
  unfold afterLast
  rw [List.reverse_append, List.reverse_cons, List.append_assoc, List.takeWhile_append_of_pos]
  · simp
  · grind

def authorityPart (path : String) : List Char :=
  path.toList.takeWhile fun character => !authorityEnds.contains character

theorem authorityPart_nil_iff (path : String) :
    authorityPart path = [] ↔ endsAuthority path = true := by
  unfold authorityPart endsAuthority
  cases path.toList with
  | nil => simp
  | cons first rest =>
      simp

theorem urlAuthority_of_prefix {scheme : List Char} (port : Nat) (path : String)
    (reads : ∀ rest, urlAuthority (scheme ++ rest) =
      "127.0.0.1:".toList ++ rest.takeWhile fun character => !authorityEnds.contains character) :
    urlAuthority (scheme ++ (toString port).toList ++ path.toList) =
      ("127.0.0.1:" ++ toString port).toList ++ authorityPart path := by
  rw [List.append_assoc, reads, List.takeWhile_append_of_pos, String.toList_append,
    List.append_assoc]
  · rfl
  · intro character member
    have digit := isDigit_of_mem_port member
    have inside : authorityEnds.contains character = false := by
      apply Bool.eq_false_iff.mpr
      intro ends
      simp only [authorityEnds, List.contains_cons, List.contains_nil, Bool.or_false,
          Bool.or_eq_true,
        beq_iff_eq] at ends
      rcases ends with rfl | rfl | rfl <;> exact absurd digit (by decide)
    rw [inside]
    rfl

theorem urlAuthority_built {agent : Agent} {delivery : Delivery} {url path : String}
    (built : builtURL agent delivery = some url) (asked : delivery.path? = some path) :
    urlAuthority url.toList =
      ("127.0.0.1:" ++ toString agent.port).toList ++ authorityPart path := by
  cases delivery with
  | httpRequest msg body =>
      cases built
      cases asked
      unfold targetURL
      rw [String.toList_append, String.toList_append]
      exact urlAuthority_of_prefix agent.port msg.path fun rest => rfl
  | wsUpgrade msg =>
      cases built
      cases asked
      rw [dialURL, String.toList_append, String.toList_append]
      exact urlAuthority_of_prefix agent.port msg.path fun rest => rfl
  | wsData streamId data => cases built
  | streamClose streamId => cases built

/-- An authority that is the agent's own is dialed as it stands. -/
theorem dialedAddress_of_authority {url : String} {port : Nat}
    (authority : urlAuthority url.toList = ("127.0.0.1:" ++ toString port).toList) :
    dialedAddress url = ⟨"127.0.0.1", toString port⟩ := by
  have split : ("127.0.0.1:" ++ toString port).toList =
      "127.0.0.1".toList ++ ':' :: (toString port).toList := by
    rw [String.toList_append]
    rfl
  have absent : ∀ mark : Char, mark.isDigit = false → mark ∉ (toString port).toList := by
    grind [isDigit_of_mem_port]
  have noUser : '@' ∉ "127.0.0.1".toList ++ ':' :: (toString port).toList := by
    intro member
    rcases List.mem_append.mp member with inHost | inPort
    · revert inHost
      decide
    · grind
  have lastColon : afterLast ':' ("127.0.0.1".toList ++ ':' :: (toString port).toList) =
      (toString port).toList := afterLast_append (absent ':' rfl)
  have digits : (toString port).toList.all Char.isDigit = true :=
    List.all_eq_true.mpr fun _ member => isDigit_of_mem_port member
  have nonempty : (toString port).toList.isEmpty = false := by
    simp [Nat.toDigits_ne_nil]
  have host : splitHostPort ("127.0.0.1".toList ++ ':' :: (toString port).toList) =
      ("127.0.0.1".toList, (toString port).toList) := by
    unfold splitHostPort
    dsimp only
    rw [lastColon, digits, if_pos (by simp)]
    congr 1
    rw [List.length_append, List.length_cons, show "127.0.0.1".toList.length +
      ((toString port).toList.length + 1) - (toString port).toList.length - 1 =
        "127.0.0.1".toList.length by omega, List.take_left]
  rw [dialedAddress, authority, split, afterLast_of_not_mem noUser, host]
  dsimp only
  rw [nonempty, if_neg Bool.false_ne_true, String.ofList_toList]
  rfl

/-! ### The main result -/

theorem connectionURL_built {agent : Agent} {delivery : Delivery} {url : String}
    (connects : connectionURL agent delivery = some url) :
    builtURL agent delivery = some url := by
  cases delivery with
  | httpRequest msg body =>
      obtain ⟨request, made, rfl⟩ := Option.map_eq_some_iff.mp connects
      unfold makeRequest at made
      split at made
      · cases made
        rfl
      · cases made
  | wsUpgrade msg =>
      simp only [connectionURL] at connects
      split at connects
      · exact connects
      · cases connects
  | wsData streamId data => cases connects
  | streamClose streamId => cases connects

/-- The agent stays on its port exactly when the path it is asked for ends the authority. -/
theorem staysOnPort_iff (agent : Agent) (delivery : Delivery) :
    StaysOnPort agent delivery ↔
      ∀ path, delivery.path? = some path → endsAuthority path = true := by
  constructor
  · intro stays path asked
    have built : ∃ url, builtURL agent delivery = some url := by
      cases delivery with
      | httpRequest msg body => exact ⟨_, rfl⟩
      | wsUpgrade msg => exact ⟨_, rfl⟩
      | wsData streamId data => cases asked
      | streamClose streamId => cases asked
    obtain ⟨url, built⟩ := built
    have same := urlAuthority_built built asked
    rw [stays.authority url built] at same
    rw [← authorityPart_nil_iff]
    exact List.self_eq_append_right.mp same
  · intro ends
    have authority : ∀ url, builtURL agent delivery = some url →
        urlAuthority url.toList = ("127.0.0.1:" ++ toString agent.port).toList := by
      intro url built
      have asked : ∃ path, delivery.path? = some path := by
        cases delivery with
        | httpRequest msg body => exact ⟨_, rfl⟩
        | wsUpgrade msg => exact ⟨_, rfl⟩
        | wsData streamId data => cases built
        | streamClose streamId => cases built
      obtain ⟨path, asked⟩ := asked
      rw [urlAuthority_built built asked, (authorityPart_nil_iff path).mpr (ends path asked),
        List.append_nil]
    exact ⟨authority, fun url connects =>
      dialedAddress_of_authority (authority url (connectionURL_built connects))⟩

/-- The own address becomes user information, and another host is dialed. -/
theorem leavesPort : ¬ ∀ (agent : Agent) (delivery : Delivery), StaysOnPort agent delivery := by
  intro claim
  have elsewhere :=
      (claim ⟨3000, fun _ => true, id⟩ (.wsUpgrade ⟨"s", "@10.0.0.5/", []⟩)).connection
    "ws://127.0.0.1:3000@10.0.0.5/" rfl
  have dialed : dialedAddress "ws://127.0.0.1:3000@10.0.0.5/" = ⟨"10.0.0.5", "80"⟩ := by decide
  exact absurd elsewhere (by decide)

end Lombok.Tunnel
