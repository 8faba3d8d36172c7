import Lombok.Folders.Deletion

/-!
Contract: the user sockets, their rooms, and who receives the events of a folder.

Owns `UserSocketService` and the gateway in front of it. Access to a folder is
checked when a socket subscribes, and the socket joins the room of the folder
in a later step; from then on the room alone decides who receives an event.
`folderEvents_reach` says which runs of sharing, unsharing and deletion that is
safe in.

Does not own: the verification of a token, and rooms of other servers.
-/

namespace Lombok.Socket

open Lombok.Core Lombok.Library Lombok.Folders

/-! ### Sockets and rooms -/

structure UserSocket where
  userId : String
  isAdmin : Bool
  rooms : List String
  connected : Bool := true
deriving DecidableEq

def getUserRoomName (userId : String) : String := "user:" ++ userId

def getFolderRoomName (folderId : String) : String := "folder:" ++ folderId

def getServerRoomName : String := "server"

namespace UserSocket

/-- `socket.join`, which does nothing once the socket has disconnected. -/
def join (room : String) (socket : UserSocket) : UserSocket :=
  if socket.connected && !socket.rooms.contains room then
    { socket with rooms := socket.rooms ++ [room] }
  else socket

def leave (room : String) (socket : UserSocket) : UserSocket :=
  { socket with rooms := socket.rooms.filter (· != room) }

def disconnect (socket : UserSocket) : UserSocket :=
  { socket with rooms := [], connected := false }

def isIn (room : String) (socket : UserSocket) : Bool :=
  socket.connected && socket.rooms.contains room

end UserSocket

/-- An envelope of a folder's room and the sockets it went to. -/
structure Delivery where
  folderId : String
  event : Json
  ts : Date
  v : Nat
  recipients : List Nat

structure SubscribeError where
  socket : Nat
  folderId : String
  error : String
deriving DecidableEq

/-- `joining` holds the subscriptions whose access has been checked. -/
structure SocketState where
  world : World
  sockets : List UserSocket := []
  joining : List (Nat × String) := []
  errors : List SubscribeError := []
  delivered : List Delivery := []

/-- `connect` has the subject of the token, none if it is not verified, and the `isAdmin` column
of the user. -/
inductive SocketInput where
  | connect (subject : Option String) (isAdmin : Bool)
  | subscribe (socket : Nat) (folderId : String)
  | join (position : Nat)
  | unsubscribe (socket : Nat) (folderId : String)
  | disconnect (socket : Nat)
  | share (request : ShareRequest)
  | deleteFolder (actorId folderId : String) (referencedBy : Option String)
  | emit (folderId : String) (event : Json) (now : Date)

namespace SocketState

variable (env : Env) (state : SocketState)

/-- The user of a verified subject, who has to exist. -/
def authenticateSocket (state : SocketState) (subject : String) : Option String :=
  if "user:".toList.isPrefixOf subject.toList then
    match (subject.toList.splitOn ':')[1]? with
    | some part =>
        if part.isEmpty || (findUser (String.ofList part) state.world.db).isNone then none
        else some (String.ofList part)
    | none => none
  else none

/-- `handleConnection`, for an authenticated user. -/
def handleConnection (userId : String) (isAdmin : Bool) : SocketState :=
  { state with
    sockets := state.sockets ++
      [{ userId := userId, isAdmin := isAdmin
         rooms := getUserRoomName userId :: if isAdmin then [getServerRoomName] else [] }] }

def connect (subject : Option String) (isAdmin : Bool) : SocketState :=
  match subject.bind state.authenticateSocket with
  | some userId => state.handleConnection userId isAdmin
  | none => state

def modifySocket (index : Nat) (change : UserSocket → UserSocket) : SocketState :=
  { state with sockets := state.sockets.modify index change }

/-- `subscribeFolderScope` up to the join. The gateway drops a subscription without an id. -/
def subscribeFolderScope (index : Nat) (folderId : String) : SocketState :=
  match state.sockets[index]? with
  | some socket =>
      if socket.connected && folderId != "" then
        match getFolderAsUser env socket.userId folderId state.world.db with
        | .ok _ => { state with joining := state.joining ++ [(index, folderId)] }
        | .error _ =>
            { state with errors := state.errors ++ [⟨index, folderId, "Access denied"⟩] }
      else state
  | none => state

/-- The join of a subscription whose access was checked. -/
def joinFolder (position : Nat) : SocketState :=
  match state.joining[position]? with
  | some (index, folderId) =>
      { state.modifySocket index (UserSocket.join (getFolderRoomName folderId)) with
        joining := state.joining.eraseIdx position }
  | none => state

def unsubscribeFolderScope (index : Nat) (folderId : String) : SocketState :=
  if folderId != "" then
    state.modifySocket index (UserSocket.leave (getFolderRoomName folderId))
  else state

def recipients (room : String) : List Nat :=
  (List.range state.sockets.length).filter fun index =>
    state.sockets[index]?.any (UserSocket.isIn room)

/-- `emitEnvelope`, for the scope of a folder. -/
def emitEnvelope (folderId : String) (event : Json) (now : Date) : SocketState :=
  { state with
    delivered := state.delivered ++
      [⟨folderId, event, now, 1, state.recipients (getFolderRoomName folderId)⟩] }

end SocketState

def socketStep (env : Env) (state : SocketState) : SocketInput → SocketState
  | .connect subject isAdmin => state.connect subject isAdmin
  | .subscribe index folderId => state.subscribeFolderScope env index folderId
  | .join position => state.joinFolder position
  | .unsubscribe index folderId => state.unsubscribeFolderScope index folderId
  | .disconnect index => state.modifySocket index UserSocket.disconnect
  | .share request => { state with world := shareStep env state.world request }
  | .deleteFolder actorId folderId referencedBy =>
      { state with world := (deleteFolderAsUser env actorId folderId referencedBy state.world).2 }
  | .emit folderId event now => state.emitEnvelope folderId event now

/-- The server before any socket is connected. -/
def SocketState.over (world : World) : SocketState := { world := world }

/-! ### Who is to receive an event -/

/-- The step ends a subscription of the socket to the folder: its join takes place. -/
def Joins (state : SocketState) (input : SocketInput) (index : Nat) (folderId : String) : Prop :=
  ∃ position, input = .join position ∧ state.joining[position]? = some (index, folderId) ∧
    state.sockets[index]?.any UserSocket.connected = true

def Leaves (input : SocketInput) (index : Nat) (folderId : String) : Prop :=
  input = .unsubscribe index folderId ∨ input = .disconnect index

def Subscribed (env : Env) (start : SocketState) (inputs : List SocketInput) (index : Nat)
    (folderId : String) : Prop :=
  ∃ before input after, inputs = before ++ input :: after ∧
    Joins (run (socketStep env) start before) input index folderId ∧
      ∀ later ∈ after, ¬ Leaves later index folderId

def SocketState.reads (state : SocketState) (index : Nat) (folderId : String) : Prop :=
  ∃ socket, state.sockets[index]? = some socket ∧
    hasAccess socket.userId folderId state.world.db = true

def SocketState.delivers (state : SocketState) (folderId : String) : List Nat :=
  state.recipients (getFolderRoomName folderId)

/-- Events of a folder go to sockets of its readers only, and to all that have subscribed. -/
structure FolderEventsReach (env : Env) (start : SocketState) (inputs : List SocketInput) :
    Prop where
  onlyReaders : ∀ before folderId event now after,
    inputs = before ++ .emit folderId event now :: after →
      ∀ index ∈ (run (socketStep env) start before).delivers folderId,
        (run (socketStep env) start before).reads index folderId
  everySubscriber : ∀ before folderId event now after,
    inputs = before ++ .emit folderId event now :: after →
      ∀ index, Subscribed env start before index folderId →
        (run (socketStep env) start before).reads index folderId →
          index ∈ (run (socketStep env) start before).delivers folderId

/-! ### The condition -/

def SocketState.Follows (state : SocketState) (index : Nat) (userId folderId : String) : Prop :=
  ∃ socket ∈ state.sockets[index]?, socket.connected = true ∧ socket.userId = userId ∧
    (getFolderRoomName folderId ∈ socket.rooms ∨ (index, folderId) ∈ state.joining)

/-- Nobody loses access to a folder that a socket of theirs follows. -/
def KeepsReaders (env : Env) (state : SocketState) : SocketInput → Prop
  | .share ⟨actorId, .remove folderId userId⟩ =>
      acceptsShareCall env actorId folderId userId state.world.db = false ∨
        ownsFolder userId folderId state.world.db = true ∨
          ∀ index < state.sockets.length, ¬ state.Follows index userId folderId
  | .deleteFolder actorId folderId referencedBy =>
      acceptsDeletion env actorId folderId referencedBy state.world.db = false ∨
        ∀ index < state.sockets.length, ∀ socket ∈ state.sockets[index]?,
          ¬ state.Follows index socket.userId folderId
  | _ => True

instance (state : SocketState) (index : Nat) (userId folderId : String) :
    Decidable (state.Follows index userId folderId) :=
  inferInstanceAs (Decidable (∃ socket ∈ state.sockets[index]?, _ ∧ _ ∧ (_ ∨ _)))

instance (env : Env) (state : SocketState) : (input : SocketInput) →
    Decidable (KeepsReaders env state input)
  | .share ⟨_, .remove _ _⟩ => inferInstanceAs (Decidable (_ ∨ _ ∨ ∀ index < _, ¬ _))
  | .deleteFolder _ folderId _ => inferInstanceAs (Decidable (_ ∨
      ∀ index < state.sockets.length, ∀ socket ∈ state.sockets[index]?,
        ¬ state.Follows index socket.userId folderId))
  | .share ⟨_, .upsert _ _ _⟩ | .share ⟨_, .update _ _⟩ | .connect _ _ | .subscribe _ _ |
    .join _ | .unsubscribe _ _ | .disconnect _ | .emit _ _ _ => isTrue trivial

/-! ### Rooms -/

theorem getFolderRoomName_injective : Function.Injective getFolderRoomName := by
  intro first second same
  have characters := congrArg String.toList same
  grind [getFolderRoomName, String.toList_append, String.toList_injective, List.append_cancel_left]

theorem getFolderRoomName_ne_user (folderId userId : String) :
    getFolderRoomName folderId ≠ getUserRoomName userId := by
  intro same
  have characters := congrArg String.toList same
  unfold getFolderRoomName getUserRoomName at characters
  grind [String.toList_append]

theorem getFolderRoomName_ne_server (folderId : String) :
    getFolderRoomName folderId ≠ getServerRoomName := by
  intro same
  have characters := congrArg String.toList same
  rw [getFolderRoomName, String.toList_append] at characters
  exact absurd (List.cons.inj characters).1 (by decide)

namespace SocketState

variable {env : Env} {state : SocketState}

theorem mem_recipients {room : String} {index : Nat} :
    index ∈ state.recipients room ↔
      ∃ socket, state.sockets[index]? = some socket ∧ socket.isIn room = true := by
  grind [recipients]

theorem getElem?_modifySocket {index other : Nat} {change : UserSocket → UserSocket}
    {next : UserSocket} (found : (state.modifySocket index change).sockets[other]? = some next) :
    ∃ socket, state.sockets[other]? = some socket ∧
      next = if index = other then change socket else socket := by
  grind [modifySocket]

theorem modifySocket_getElem? {index other : Nat} {change : UserSocket → UserSocket}
    {socket : UserSocket} (found : state.sockets[other]? = some socket) :
    (state.modifySocket index change).sockets[other]? =
      some (if index = other then change socket else socket) := by
  rw [modifySocket, List.getElem?_modify, found]
  rfl

/-! ### Readers only -/

/-- Who follows a folder has access to it, and subscriptions are those of sockets. -/
structure AllRead (state : SocketState) : Prop where
  access : ∀ index userId folderId, state.Follows index userId folderId →
    hasAccess userId folderId state.world.db = true
  known : ∀ entry ∈ state.joining, entry.1 < state.sockets.length

theorem allRead_over (world : World) : (SocketState.over world).AllRead := by
  constructor
  · nofun
  · nofun

/-- A step after which nobody follows more, and nobody has lost access. -/
theorem AllRead.of_follows {after : SocketState} (allRead : state.AllRead)
    (fewer : ∀ index userId folderId, after.Follows index userId folderId →
      state.Follows index userId folderId)
    (kept : ∀ index userId folderId, state.Follows index userId folderId →
      hasAccess userId folderId after.world.db = true)
    (known : ∀ entry ∈ after.joining, entry.1 < after.sockets.length) : after.AllRead :=
  ⟨fun index userId folderId follows => kept index userId folderId
    (fewer index userId folderId follows), known⟩

theorem AllRead.connect (allRead : state.AllRead) (subject : Option String) (isAdmin : Bool) :
    (state.connect subject isAdmin).AllRead := by
  unfold SocketState.connect
  split
  · rename_i userId _
    apply allRead.of_follows
    · intro index otherId folderId ⟨socket, found, connected, sameUser, follows⟩
      unfold handleConnection at found follows
      rw [List.getElem?_append] at found
      split at found
      · exact ⟨socket, found, connected, sameUser, follows⟩
      · rename_i beyond
        exfalso
        have isNew := List.mem_singleton.mp (List.mem_of_getElem? found)
        rcases follows with inRoom | isJoining
        · rw [isNew] at inRoom
          rcases List.mem_cons.mp inRoom with same | inServer
          · exact getFolderRoomName_ne_user folderId userId same
          · split at inServer
            · exact getFolderRoomName_ne_server folderId (List.mem_singleton.mp inServer)
            · cases inServer
        · exact beyond (allRead.known _ isJoining)
    · exact allRead.access
    · intro entry member
      have within := allRead.known entry member
      rw [handleConnection, List.length_append]
      omega
  · exact allRead

theorem AllRead.modifySocket (allRead : state.AllRead) (index : Nat)
    {change : UserSocket → UserSocket}
    (fewer : ∀ socket, (change socket).connected = true →
      socket.connected = true ∧ (change socket).userId = socket.userId ∧
        ∀ folderId, getFolderRoomName folderId ∈ (change socket).rooms →
          getFolderRoomName folderId ∈ socket.rooms) :
    (state.modifySocket index change).AllRead := by
  apply allRead.of_follows
  · intro other userId folderId ⟨next, found, connected, sameUser, follows⟩
    obtain ⟨socket, old, isNext⟩ := getElem?_modifySocket found
    refine ⟨socket, old, ?_⟩
    split at isNext
    · rw [isNext] at connected sameUser follows
      obtain ⟨wasConnected, sameId, rooms⟩ := fewer socket connected
      exact ⟨wasConnected, sameId.symm.trans sameUser, follows.imp (rooms folderId) id⟩
    · rw [isNext] at connected sameUser follows
      exact ⟨connected, sameUser, follows⟩
  · exact allRead.access
  · intro entry member
    rw [SocketState.modifySocket, List.length_modify]
    exact allRead.known entry member

theorem hasAccess_of_getFolderAsUser {userId folderId : String} {db : Database}
    {access : FolderAccess} (found : getFolderAsUser env userId folderId db = .ok access) :
    hasAccess userId folderId db = true := by
  unfold hasAccess
  cases owns : ownsFolder userId folderId db with
  | true => rfl
  | false =>
      have shared := getFolderAsUser_share found owns
      rw [Bool.false_or, ← Option.isSome_map, shared]
      rfl

theorem AllRead.subscribe (allRead : state.AllRead) (index : Nat) (folderId : String) :
    (state.subscribeFolderScope env index folderId).AllRead := by
  unfold subscribeFolderScope
  split
  · rename_i socket found
    split
    · split
      · rename_i access isReader
        constructor
        · intro other userId otherId ⟨reader, isSocket, connected, sameUser, follows⟩
          rcases follows with inRoom | isJoining
          · exact allRead.access other userId otherId
              ⟨reader, isSocket, connected, sameUser, .inl inRoom⟩
          · rcases List.mem_append.mp isJoining with old | new
            · exact allRead.access other userId otherId
                ⟨reader, isSocket, connected, sameUser, .inr old⟩
            · cases List.mem_singleton.mp new
              rw [Option.mem_def, found] at isSocket
              grind [hasAccess_of_getFolderAsUser]
        · intro entry member
          rcases List.mem_append.mp member with old | new
          · exact allRead.known entry old
          · grind
      · exact ⟨allRead.access, allRead.known⟩
    · exact allRead
  · exact allRead

/-- A join turns one way of following into the other. -/
theorem AllRead.join (allRead : state.AllRead) (position : Nat) :
    (state.joinFolder position).AllRead := by
  unfold joinFolder
  split
  · rename_i index folderId isJoining
    have inside := List.mem_of_getElem? isJoining
    have remaining : ∀ entry ∈ state.joining.eraseIdx position, entry ∈ state.joining :=
      fun entry => List.mem_of_mem_eraseIdx
    apply allRead.of_follows
    · intro other userId otherId ⟨next, found, connected, sameUser, follows⟩
      obtain ⟨socket, old, isNext⟩ := getElem?_modifySocket
        (show (state.modifySocket index _).sockets[other]? = some next from found)
      refine ⟨socket, old, ?_⟩
      split at isNext
      · rename_i same
        rw [isNext] at connected sameUser follows
        unfold UserSocket.join at connected sameUser follows
        split at follows
        · rename_i joins
          rw [if_pos joins] at connected sameUser
          refine ⟨connected, sameUser, ?_⟩
          rcases follows with inRoom | stillJoining
          · rcases List.mem_append.mp inRoom with before | now
            · exact .inl before
            · right
              grind [getFolderRoomName_injective]
          · exact .inr (remaining _ stillJoining)
        · rename_i notJoins
          grind
      · grind
    · exact allRead.access
    · intro entry member
      show entry.1 < (state.sockets.modify index _).length
      rw [List.length_modify]
      exact allRead.known entry (remaining entry member)
  · exact allRead

theorem AllRead.step (allRead : state.AllRead) {input : SocketInput}
    (keeps : KeepsReaders env state input) : (socketStep env state input).AllRead := by
  cases input with
  | connect subject isAdmin => exact allRead.connect subject isAdmin
  | subscribe index folderId => exact allRead.subscribe index folderId
  | join position => exact allRead.join position
  | unsubscribe index folderId =>
      unfold socketStep unsubscribeFolderScope
      dsimp only
      split
      · apply allRead.modifySocket
        intro socket connected
        exact ⟨connected, rfl, fun other inRoom => (List.mem_filter.mp inRoom).1⟩
      · exact allRead
  | disconnect index =>
      apply allRead.modifySocket
      nofun
  | share request =>
      refine ⟨?_, allRead.known⟩
      intro index userId folderId follows
      have inside : index < state.sockets.length := by
        obtain ⟨socket, found, _⟩ := follows
        exact (List.getElem?_eq_some_iff.mp found).1
      apply hasAccess_share (allRead.access index userId folderId follows)
      intro isRemove
      obtain ⟨actorId, call⟩ := request
      cases isRemove
      rcases keeps with refused | owns | none
      · exact .inl refused
      · exact .inr owns
      · exact absurd follows (none index inside)
  | deleteFolder actorId folderId referencedBy =>
      refine ⟨?_, allRead.known⟩
      intro index userId otherId follows
      apply hasAccess_deletion (allRead.access index userId otherId follows)
      rcases keeps with refused | none
      · exact .inl refused
      · right
        intro same
        obtain ⟨socket, found, connected, sameUser, here⟩ := follows
        rw [same] at here
        exact none index (List.getElem?_eq_some_iff.mp found).1 socket found
          ⟨socket, found, connected, rfl, here⟩
  | emit folderId event now => exact ⟨allRead.access, allRead.known⟩

/-! ### Every subscriber -/

def inFolderRoom (state : SocketState) (index : Nat) (folderId : String) : Prop :=
  ∃ socket, state.sockets[index]? = some socket ∧
    socket.isIn (getFolderRoomName folderId) = true

theorem inFolderRoom_modify {index other : Nat} {folderId : String}
    {change : UserSocket → UserSocket} (inRoom : state.inFolderRoom other folderId)
    (stays : index = other → ∀ socket, socket.isIn (getFolderRoomName folderId) = true →
      (change socket).isIn (getFolderRoomName folderId) = true) :
    (state.modifySocket index change).inFolderRoom other folderId := by
  obtain ⟨socket, found, isIn⟩ := inRoom
  refine ⟨_, modifySocket_getElem? found, ?_⟩
  grind

theorem isIn_join {room other : String} {socket : UserSocket} (isIn : socket.isIn room = true) :
    (socket.join other).isIn room = true := by
  grind [UserSocket.join, UserSocket.isIn]

theorem isIn_leave {room other : String} {socket : UserSocket} (isIn : socket.isIn room = true)
    (different : room ≠ other) : (socket.leave other).isIn room = true := by
  unfold UserSocket.isIn at isIn ⊢
  obtain ⟨connected, inside⟩ := Bool.and_eq_true_iff.mp isIn
  rw [Bool.and_eq_true]
  refine ⟨connected, List.contains_iff_mem.mpr (List.mem_filter.mpr ?_)⟩
  exact ⟨List.contains_iff_mem.mp inside, bne_iff_ne.mpr different⟩

theorem inFolderRoom_step {index : Nat} {folderId : String} {input : SocketInput}
    (inRoom : state.inFolderRoom index folderId) (stays : ¬ Leaves input index folderId) :
    (socketStep env state input).inFolderRoom index folderId := by
  cases input with
  | connect subject isAdmin =>
      unfold socketStep SocketState.connect
      dsimp only
      split
      · obtain ⟨socket, found, isIn⟩ := inRoom
        refine ⟨socket, ?_, isIn⟩
        exact (List.getElem?_append_left (List.getElem?_eq_some_iff.mp found).1).trans found
      · exact inRoom
  | subscribe other otherId =>
      unfold socketStep subscribeFolderScope
      dsimp only
      repeat' split
      all_goals exact inRoom
  | join position =>
      unfold socketStep joinFolder
      dsimp only
      split
      · exact inFolderRoom_modify inRoom fun _ _ isIn => isIn_join isIn
      · exact inRoom
  | unsubscribe other otherId =>
      unfold socketStep unsubscribeFolderScope
      dsimp only
      split
      · apply inFolderRoom_modify inRoom
        intro same socket isIn
        apply isIn_leave isIn
        intro sameRoom
        rw [same, ← getFolderRoomName_injective sameRoom] at stays
        exact stays (.inl rfl)
      · exact inRoom
  | disconnect other =>
      apply inFolderRoom_modify inRoom
      intro same
      rw [same] at stays
      exact absurd (.inr rfl) stays
  | share request => exact inRoom
  | deleteFolder actorId otherId referencedBy => exact inRoom
  | emit otherId event now => exact inRoom

theorem inFolderRoom_of_joins {index : Nat} {folderId : String} {input : SocketInput}
    (joins : Joins state input index folderId) :
    (socketStep env state input).inFolderRoom index folderId := by
  obtain ⟨position, rfl, isJoining, connected⟩ := joins
  obtain ⟨socket, found, isConnected⟩ := Option.any_eq_true _ _ |>.mp connected
  unfold socketStep joinFolder
  dsimp only
  rw [isJoining]
  refine ⟨_, modifySocket_getElem? found, ?_⟩
  grind [UserSocket.join, UserSocket.isIn]

theorem inFolderRoom_of_subscribed {start : SocketState} {inputs : List SocketInput} {index : Nat}
    {folderId : String} (subscribed : Subscribed env start inputs index folderId) :
    (run (socketStep env) start inputs).inFolderRoom index folderId := by
  obtain ⟨before, input, after, split, joins, stays⟩ := subscribed
  rw [split, run_append, run_cons]
  have joined : (socketStep env (run (socketStep env) start before) input).inFolderRoom index
      folderId := inFolderRoom_of_joins joins
  clear split joins
  revert joined
  generalize socketStep env (run (socketStep env) start before) input = middle
  induction after generalizing middle with
  | nil =>
      intro joined
      exact joined
  | cons head tail inductionHypothesis =>
      intro joined
      have headStays := stays head List.mem_cons_self
      exact inductionHypothesis (fun later member => stays later (List.mem_cons_of_mem _ member))
        _ (inFolderRoom_step joined headStays)

end SocketState

/-! ### The main result -/

open SocketState in
/-- The events of a folder reach its readers only, and all of them that have subscribed, in every
run in which nobody loses access to a folder they follow. -/
theorem folderEvents_reach (env : Env) (world : World) (inputs : List SocketInput)
    (keeps : AlongRun (socketStep env) (KeepsReaders env) (SocketState.over world) inputs) :
    FolderEventsReach env (SocketState.over world) inputs where
  onlyReaders := by
    intro before folderId event now after split index member
    rw [split] at keeps
    have allRead : (run (socketStep env) (SocketState.over world) before).AllRead :=
      @run_invariant_of_alongRun _ _ (socketStep env) AllRead (KeepsReaders env)
        (fun _ _ allRead here => AllRead.step allRead here) _ (allRead_over world) _ keeps.of_append
    obtain ⟨socket, found, isIn⟩ := mem_recipients.mp member
    obtain ⟨connected, inside⟩ := Bool.and_eq_true_iff.mp isIn
    exact ⟨socket, found, allRead.access index socket.userId folderId
      ⟨socket, found, connected, rfl, .inl (List.contains_iff_mem.mp inside)⟩⟩
  everySubscriber := by
    intro before folderId event now after _ index subscribed _
    exact mem_recipients.mpr (inFolderRoom_of_subscribed subscribed)

/-- A sharee leaves the room of a folder before they lose their share. -/
theorem folderEvents_reach_unsubscribed : FolderEventsReach Env.sample (.over sharedFolder)
    [.connect (some "user:sharee") false, .subscribe 0 "folder", .join 0, .emit "folder" .null 1,
      .unsubscribe 0 "folder", .share ⟨"owner", .remove "folder" "sharee"⟩,
      .emit "folder" .null 2] :=
  folderEvents_reach _ _ _ (by decide +kernel)

/-! ### A share that ends under a subscription -/

/-- The owner takes the share back while the sharee's socket is in the room. -/
def unsharedRun : List SocketInput :=
  [.connect (some "user:sharee") false, .subscribe 0 "folder", .join 0,
    .share ⟨"owner", .remove "folder" "sharee"⟩, .emit "folder" .null 1]

theorem unshared_receives :
    ¬ ∀ env world inputs, FolderEventsReach env (.over world) inputs := by
  intro always
  have reads := (always Env.sample sharedFolder unsharedRun).onlyReaders unsharedRun.dropLast
    "folder" .null 1 [] rfl 0 (by decide +kernel)
  obtain ⟨socket, found, access⟩ := reads
  have noAccess : ∀ socket ∈ (run (socketStep Env.sample) (.over sharedFolder)
      unsharedRun.dropLast).sockets[0]?, hasAccess socket.userId "folder" (run
        (socketStep Env.sample) (.over sharedFolder) unsharedRun.dropLast).world.db = false := by
    decide +kernel
  rw [noAccess socket found] at access
  cases access

end Lombok.Socket
