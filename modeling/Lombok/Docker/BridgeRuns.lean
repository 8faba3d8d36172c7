import Lombok.Docker.Bridge

/-!
Contract: one docker bridge with the current hosts, along a run.

What carries the run: while the child that lives does not have the current
hosts, a call under way is still to send them, and so it is for a start that
holds hosts that are not current. The orderly steps keep it.
-/

namespace Lombok.Docker.DockerBridge

open Lombok.Library

variable {bridge : DockerBridge}

/-- A call under way is yet to send the current hosts. -/
def Brings (bridge : DockerBridge) (child : Option Nat) : Prop :=
  ∃ call ∈ bridge.calls, call.brings bridge.hosts child = true

/-- The child has the current hosts, or is to get them. -/
def Served (bridge : DockerBridge) (index : Nat) (child : BridgeChild) : Prop :=
  child.hosts = some bridge.hosts ∨ bridge.Brings (some index)

/-- A start that holds hosts holds the current ones, or a sync is to send them. -/
def Held (bridge : DockerBridge) (call : BridgeCall) : Prop :=
  ∀ hosts, call.holds = some hosts → hosts = bridge.hosts ∨ bridge.Brings none

structure Sound (bridge : DockerBridge) : Prop where
  one : bridge.live + bridge.starting ≤ 1
  socket : ∀ index, bridge.ipcSocket = some index →
    ∃ child, bridge.children[index]? = some child ∧ child.alive = true
  ready : bridge.ready = true → bridge.ipcSocket ≠ none
  served : ∀ index child, bridge.children[index]? = some child → child.alive = true →
    bridge.Served index child
  held : ∀ call ∈ bridge.calls, bridge.Held call

theorem sound_start (rows : List DockerHostRow) : Sound (start rows) where
  one := Nat.zero_le 1
  socket index found := by cases found
  ready isReady := by cases isReady
  served index child found := by cases found
  held call member := by cases member

/-! ### Calls that bring the hosts -/

theorem brings_some {current : HostsMap} {call : BridgeCall}
    (brings : call.brings current none = true) (child : Option Nat) :
    call.brings current child = true := by
  cases call with
  | startConnecting hosts own resolved =>
      grind [BridgeCall.brings]
  | _ => exact brings

theorem Brings.some (brings : bridge.Brings none) (child : Option Nat) : bridge.Brings child := by
  obtain ⟨call, member, isBringing⟩ := brings
  exact ⟨call, member, brings_some isBringing child⟩

theorem holds_starting {call : BridgeCall} {hosts : HostsMap} (holds : call.holds = some hosts) :
    call.isStarting = true := by
  cases call with
  | startRead | startListening => rfl
  | _ => cases holds

theorem held_of_not_starting (none : bridge.starting = 0) :
    ∀ call ∈ bridge.calls, bridge.Held call := by
  intro call member hosts holds
  have starts := List.countP_eq_zero.mp none call member
  exact absurd (holds_starting holds) starts

/-- No child lives. -/
theorem served_of_not_live (none : bridge.live = 0) :
    ∀ index child, bridge.children[index]? = some child → child.alive = true →
      bridge.Served index child := by
  intro index child found alive
  exact absurd alive (List.countP_eq_zero.mp none child (List.mem_of_getElem? found))

theorem live_pos {index : Nat} {child : BridgeChild} (found : bridge.children[index]? = some child)
    (alive : child.alive = true) : 0 < bridge.live := countP_pos_of_found found alive

/-! ### One call goes on -/

section Call

variable {index : Nat} {call next : BridgeCall} (found : bridge.calls[index]? = some call)

include found

theorem starting_setCall (next : BridgeCall) :
    (bridge.setCall index next).starting + call.isStarting.toNat =
      bridge.starting + next.isStarting.toNat :=
  countP_set_of_found found next BridgeCall.isStarting

theorem mem_calls_set {other : BridgeCall} (member : other ∈ bridge.calls) :
    other = call ∨ other ∈ bridge.calls.set index next := by
  obtain ⟨place, atPlace⟩ := List.mem_iff_getElem?.mp member
  by_cases same : index = place
  · grind
  · right
    apply List.mem_of_getElem? (i := place)
    rw [List.getElem?_set_ne same]
    exact atPlace

/-- What is brought is brought still, unless it was by the call that went on. -/
theorem brings_setCall {child : Option Nat}
    (kept : call.brings bridge.hosts child = true → next.brings bridge.hosts child = true)
    (brings : bridge.Brings child) : (bridge.setCall index next).Brings child := by
  obtain ⟨other, member, isBringing⟩ := brings
  rcases @mem_calls_set bridge index call next found other member with rfl | stays
  · exact ⟨next, List.mem_set (List.getElem?_eq_some_iff.mp found).1 next, kept isBringing⟩
  · exact ⟨other, stays, isBringing⟩

/-- A call goes on without starting, and brings to the living what it brought. -/
theorem Sound.setCall (sound : bridge.Sound)
    (starts : next.isStarting = true → call.isStarting = true)
    (syncs : call.brings bridge.hosts none = true → next.brings bridge.hosts none = true)
    (living : ∀ child, bridge.Lives child → call.brings bridge.hosts (some child) = true →
      next.brings bridge.hosts (some child) = true)
    (holds : next.holds = none ∨ next.holds = some bridge.hosts ∨ next.holds = call.holds) :
    (bridge.setCall index next).Sound where
  one := by
    have counted := starting_setCall found next
    have one := sound.one
    have fewer : next.isStarting.toNat ≤ call.isStarting.toNat := by
      cases isNext : next.isStarting with
      | false => exact Nat.zero_le _
      | true => exact Nat.le_of_eq (by rw [starts isNext])
    show bridge.live + (bridge.setCall index next).starting ≤ 1
    omega
  socket := sound.socket
  ready := sound.ready
  served place child atPlace alive := by
    rcases sound.served place child atPlace alive with has | brings
    · exact .inl has
    · right
      apply brings_setCall found _ brings
      apply living place
      rw [Lives, show bridge.children[place]? = some child from atPlace]
      exact alive
  held other member hosts otherHolds := by
    have before : hosts = bridge.hosts ∨ bridge.Brings none := by
      rcases List.mem_or_eq_of_mem_set member with old | rfl
      · exact sound.held other old hosts otherHolds
      · rcases holds with none | current | same
        · rw [none] at otherHolds
          cases otherHolds
        · grind
        · exact sound.held call (List.mem_of_getElem? found) hosts (same ▸ otherHolds)
    rcases before with current | brings
    · exact .inl current
    · exact .inr (brings_setCall found syncs brings)

/-- A call ends, or waits for its answer, and nobody counted on it. -/
theorem Sound.finish (sound : bridge.Sound) (starts : next.isStarting = false)
    (brings : ∀ child, (∀ index ∈ child, bridge.Lives index) →
      call.brings bridge.hosts child = false)
    (holds : next.holds = none) : (bridge.setCall index next).Sound := by
  apply sound.setCall found
  · simp [starts]
  · intro isBringing
    grind
  · intro child lives isBringing
    have silent := brings (some child) (fun index member => by cases member; exact lives)
    rw [silent] at isBringing
    cases isBringing
  · exact .inl holds

end Call

/-! ### A map is sent -/

section Send

variable {index target : Nat} {call next : BridgeCall} {hosts : HostsMap}

theorem tell_of_found {child : BridgeChild} (atTarget : bridge.children[target]? = some child) :
    bridge.tell target hosts =
      { bridge with children := bridge.children.set target { child with hosts := hosts } } := by
  rw [tell, atTarget]

/-- A map is sent to the child that lives, by a call that could bring the current one. -/
theorem Sound.send (sound : bridge.Sound) (found : bridge.calls[index]? = some call)
    (socket : bridge.ipcSocket = some target) (timely : bridge.Timely target hosts)
    (carries : ∀ child, call.brings bridge.hosts child = true → hosts = bridge.hosts)
    (waits : next.isStarting = false) :
    ((bridge.tell target hosts).setCall index next).Sound := by
  obtain ⟨child, atTarget, alive⟩ := sound.socket target socket
  have living := live_pos atTarget alive
  have one := sound.one
  have started := starting_setCall found next
  rw [waits] at started
  have stillNone : (bridge.setCall index next).starting = 0 := by
    have nothing : (false : Bool).toNat = 0 := rfl
    omega
  rw [tell_of_found atTarget]
  have sameLive : ({ bridge with
      children := bridge.children.set target { child with hosts := hosts } } : DockerBridge).live =
        bridge.live := by
    have counted := countP_set_of_found atTarget { child with hosts := some hosts }
      BridgeChild.alive
    exact Nat.add_right_cancel counted
  constructor
  · show DockerBridge.live _ + (bridge.setCall index next).starting ≤ 1
    rw [stillNone]
    show DockerBridge.live { bridge with
      children := bridge.children.set target { child with hosts := some hosts } } + 0 ≤ 1
    omega
  · intro place isSocket
    have same : place = target := Option.some.inj (isSocket.symm.trans socket)
    refine ⟨{ child with hosts := some hosts }, ?_, alive⟩
    show (bridge.children.set target _)[place]? = _
    rw [same, List.getElem?_set_self (List.getElem?_eq_some_iff.mp atTarget).1]
  · exact sound.ready
  · intro place other atPlace otherAlive
    replace atPlace : (bridge.children.set target { child with hosts := some hosts })[place]? =
      some other := atPlace
    by_cases same : target = place
    · subst same
      rw [List.getElem?_set_self (List.getElem?_eq_some_iff.mp atTarget).1,
        Option.some.injEq] at atPlace
      subst atPlace
      by_cases current : hosts = bridge.hosts
      · exact .inl (congrArg some current)
      · -- Another call is to bring what this one does not.
        right
        rcases sound.served target child atTarget alive with has | brings
        · exact absurd (timely child (by rw [atTarget]; rfl) has) current
        · have kept : call.brings bridge.hosts (some target) = true →
              next.brings bridge.hosts (some target) = true :=
            fun isBringing => absurd (carries _ isBringing) current
          exact brings_setCall found kept brings
    · rw [List.getElem?_set_ne same] at atPlace
      grind [eq_of_countP_le_one, live]
  · exact held_of_not_starting stillNone

end Send

/-! ### Starts -/

theorem Sound.beginStart (sound : bridge.Sound) (free : bridge.Free) :
    (bridge.beginCall .startReading).Sound where
  one := by
    have counted : (bridge.beginCall .startReading).starting = bridge.starting + 1 := by
      unfold starting beginCall
      rw [List.countP_append]
      rfl
    have none := free.2
    show bridge.live + (bridge.beginCall .startReading).starting ≤ 1
    rw [free.1]
    omega
  socket := sound.socket
  ready := sound.ready
  served := @served_of_not_live (bridge.beginCall .startReading) free.1
  held call member hosts holds := by
    rcases List.mem_append.mp member with old | new
    · have starts := List.countP_eq_zero.mp free.2 call old
      exact absurd (holds_starting holds) starts
    · rw [List.mem_singleton.mp new] at holds
      cases holds

theorem Sound.turnStart (sound : bridge.Sound) (free : bridge.Free) {index : Nat}
    {call : BridgeCall} (found : bridge.calls[index]? = some call) :
    (bridge.setCall index .startReading).Sound where
  one := by
    have counted := starting_setCall found .startReading
    have none := free.2
    have oneMore : BridgeCall.startReading.isStarting.toNat = 1 := rfl
    show bridge.live + (bridge.setCall index .startReading).starting ≤ 1
    rw [free.1]
    omega
  socket := sound.socket
  ready := sound.ready
  served := @served_of_not_live (bridge.setCall index .startReading) free.1
  held other member hosts holds := by
    rcases List.mem_or_eq_of_mem_set member with old | rfl
    · have starts := List.countP_eq_zero.mp free.2 other old
      exact absurd (holds_starting holds) starts
    · cases holds

theorem Sound.spawn (sound : bridge.Sound) {index : Nat} {hosts : HostsMap}
    (found : bridge.calls[index]? = some (.startListening hosts)) :
    (bridge.spawn index hosts).Sound := by
  have one := sound.one
  have isStart := countP_pos_of_found found (rfl : BridgeCall.isStarting
      (.startListening hosts) = true)
  have counted := starting_setCall found
    (.startConnecting hosts bridge.children.length bridge.ipcSocket.isSome)
  have waits : (BridgeCall.startConnecting hosts bridge.children.length
    bridge.ipcSocket.isSome).isStarting.toNat = 0 := rfl
  have started : (BridgeCall.startListening hosts).isStarting.toNat = 1 := rfl
  have stillNone : (bridge.spawn index hosts).starting = 0 := by
    show (bridge.setCall index _).starting = 0
    omega
  constructor
  · grind [live, DockerBridge.spawn]
  · intro place isSocket
    obtain ⟨child, atPlace, alive⟩ := sound.socket place isSocket
    have living := live_pos atPlace alive
    omega
  · exact sound.ready
  · intro place child atPlace alive
    replace atPlace : (bridge.children ++
      [({ alive := true, connected := false, hosts := none } : BridgeChild)])[place]? =
        some child := atPlace
    by_cases old : place < bridge.children.length
    · grind [live_pos]
    · have bounded := (List.getElem?_eq_some_iff.mp atPlace).1
      rw [List.length_append, List.length_singleton] at bounded
      have isNew : place = bridge.children.length := by omega
      right
      rcases sound.held _ (List.mem_of_getElem? found) hosts rfl with current | brings
      · refine ⟨_, List.mem_set (List.getElem?_eq_some_iff.mp found).1 _, ?_⟩
        show BridgeCall.brings bridge.hosts _ (.startConnecting hosts _ _) = true
        rw [isNew, current]
        simp [BridgeCall.brings]
      · have kept : BridgeCall.brings bridge.hosts none (.startListening hosts) = true →
            BridgeCall.brings bridge.hosts none (.startConnecting hosts bridge.children.length
              bridge.ipcSocket.isSome) = true := fun isBringing => by cases isBringing
        have stays := brings_setCall found kept brings
        exact stays.some (some place)
  · exact held_of_not_starting stillNone

/-! ### Events -/

theorem Sound.hostsChange (sound : bridge.Sound) (rows : List DockerHostRow) :
    ({ bridge with rows := rows }.beginCall .syncReading).Sound := by
  have brings (child : Option Nat) :
      ({ bridge with rows := rows }.beginCall .syncReading).Brings child :=
    ⟨.syncReading, List.mem_append_right _ List.mem_cons_self, rfl⟩
  have counted : ({ bridge with rows := rows }.beginCall .syncReading).starting =
      bridge.starting := by
    unfold starting beginCall
    rw [List.countP_append]
    rfl
  constructor
  · show bridge.live + _ ≤ 1
    rw [counted]
    exact sound.one
  · exact sound.socket
  · exact sound.ready
  · exact fun index _ _ _ => .inr (brings (some index))
  · exact fun _ _ _ _ => .inr (brings none)

theorem Sound.connects (sound : bridge.Sound) (index : Nat) : (bridge.connects index).Sound := by
  unfold DockerBridge.connects
  cases atIndex : bridge.children[index]? with
  | none => exact sound
  | some child =>
      dsimp only
      split
      · rename_i fresh
        rw [Bool.and_eq_true] at fresh
        have inBounds := (List.getElem?_eq_some_iff.mp atIndex).1
        have counted := countP_set_of_found atIndex { child with connected := true }
          BridgeChild.alive
        constructor
        · show List.countP BridgeChild.alive (bridge.children.set index _) + bridge.starting ≤ 1
          rw [Nat.add_right_cancel counted]
          exact sound.one
        · simp [inBounds, fresh]
        · nofun
        · intro place other atPlace alive
          replace atPlace : (bridge.children.set index { child with connected := true })[place]? =
            some other := atPlace
          by_cases same : index = place
          · subst same
            rw [List.getElem?_set_self inBounds, Option.some.injEq] at atPlace
            subst atPlace
            exact sound.served index child atIndex alive
          · rw [List.getElem?_set_ne same] at atPlace
            exact sound.served place other atPlace alive
        · exact sound.held
      · exact sound

theorem Sound.closes (sound : bridge.Sound) (index : Nat) : (bridge.closes index).Sound := by
  unfold DockerBridge.closes
  split
  · constructor
    · exact sound.one
    · nofun
    · nofun
    · exact sound.served
    · exact sound.held
  · exact sound

theorem Sound.exits (sound : bridge.Sound) (index : Nat) : (bridge.exits index).Sound := by
  unfold DockerBridge.exits
  cases atIndex : bridge.children[index]? with
  | none => exact sound
  | some child =>
      dsimp only
      split
      · rename_i alive
        have counted := countP_set_of_found atIndex { child with alive := false } BridgeChild.alive
        constructor
        · have one := sound.one
          have gone : ({ child with alive := false } : BridgeChild).alive.toNat = 0 := rfl
          show List.countP BridgeChild.alive (bridge.children.set index _) + bridge.starting ≤ 1
          unfold live at one
          omega
        · nofun
        · nofun
        · intro place other atPlace otherAlive
          replace atPlace : (bridge.children.set index { child with alive := false })[place]? =
            some other := atPlace
          by_cases same : index = place
          · grind
          · rw [List.getElem?_set_ne same] at atPlace
            exact sound.served place other atPlace otherAlive
        · exact sound.held
      · exact sound

/-! ### The steps -/

theorem Sound.syncWith (sound : bridge.Sound) {index : Nat} {hosts : HostsMap}
    (found : bridge.calls[index]? = some (.syncRead hosts))
    (orderly : bridge.Orderly (.syncRead hosts)) : (bridge.syncWith index hosts).Sound := by
  have carries : ∀ child, (BridgeCall.syncRead hosts).brings bridge.hosts child = true →
      hosts = bridge.hosts := fun _ isBringing => eq_of_beq isBringing
  unfold DockerBridge.syncWith
  rw [Orderly] at orderly
  split
  · rename_i isReady
    rw [if_pos isReady] at orderly
    cases socket : bridge.ipcSocket with
    | none => exact absurd socket (sound.ready isReady)
    | some target => exact sound.send found socket (orderly target socket) carries rfl
  · rename_i notReady
    rw [if_neg notReady] at orderly
    split
    · -- Nobody waits for the hosts this sync has read.
      rename_i noHosts
      rw [if_pos noHosts] at orderly
      have starts := starting_setCall found .done
      constructor
      · have one := sound.one
        show bridge.live + (bridge.setCall index .done).starting ≤ 1
        have same : (bridge.setCall index .done).starting = bridge.starting :=
          Nat.add_right_cancel starts
        omega
      · exact sound.socket
      · exact sound.ready
      · exact @served_of_not_live (bridge.setCall index .done) orderly.1
      · intro other member held holds
        rcases List.mem_or_eq_of_mem_set member with old | rfl
        · rw [orderly.2 other old] at holds
          cases holds
        · cases holds
    · grind [sound.turnStart]

theorem Sound.advance (sound : bridge.Sound) {index : Nat}
    (orderly : ∀ call ∈ bridge.calls[index]?, bridge.Orderly call) :
    (bridge.advance index).Sound := by
  unfold DockerBridge.advance
  cases found : bridge.calls[index]? with
  | none => exact sound
  | some call =>
      have fits := orderly call found
      cases call with
      | startReading =>
          apply sound.setCall found
          · exact fun _ => rfl
          · exact fun isBringing => by cases isBringing
          · exact fun _ _ isBringing => by cases isBringing
          · exact .inr (.inl rfl)
      | startRead hosts =>
          dsimp only
          split
          · exact sound.finish found rfl (fun _ _ => rfl) rfl
          · apply sound.setCall found
            · exact fun _ => rfl
            · exact fun isBringing => by cases isBringing
            · exact fun _ _ isBringing => by cases isBringing
            · exact .inr (.inr rfl)
      | startListening hosts => exact sound.spawn found
      | startConnecting hosts child resolved =>
          dsimp only
          split
          · rename_i connected
            have sends := fits connected
            unfold sendInit
            cases socket : bridge.ipcSocket with
            | none =>
                apply sound.finish found rfl _ rfl
                grind [BridgeCall.brings]
            | some target =>
                apply sound.send found socket (sends.2 target socket) _ rfl
                simp [BridgeCall.brings]
          · exact sound
      | startInit target =>
          have ended := @Sound.finish bridge index _ .done found sound rfl (fun _ _ => rfl) rfl
          constructor
          · exact ended.one
          · exact ended.socket
          · intro _ none
            replace none : bridge.ipcSocket = Option.none := none
            rw [show bridge.ipcSocket = some target from fits] at none
            cases none
          · exact ended.served
          · exact ended.held
      | syncReading =>
          apply sound.setCall found
          · exact fun starts => by cases starts
          · exact fun _ => beq_self_eq_true _
          · exact fun _ _ _ => beq_self_eq_true _
          · exact .inl rfl
      | syncRead hosts => exact sound.syncWith found fits
      | syncUpdating => exact sound.finish found rfl (fun _ _ => rfl) rfl
      | done => exact sound

theorem Sound.fail (sound : bridge.Sound) {index : Nat}
    (orderly : BridgeOrderly bridge (.fail index)) : (bridge.fail index).Sound := by
  unfold DockerBridge.fail
  cases found : bridge.calls[index]? with
  | none => exact sound
  | some call =>
      have fits := orderly call found
      cases call with
      | startConnecting hosts child resolved =>
          dsimp only
          split
          · exact sound
          · rename_i waiting
            have dead := fits (Bool.eq_false_iff.mpr waiting)
            apply sound.finish found rfl _ rfl
            grind [BridgeCall.brings]
      | startListening hosts => exact sound.finish found rfl (fun _ _ => rfl) rfl
      | startInit target => exact sound.finish found rfl (fun _ _ => rfl) rfl
      | syncUpdating => exact sound.finish found rfl (fun _ _ => rfl) rfl
      | startReading | startRead | syncReading | syncRead | done => exact sound

/-- An orderly step keeps what carries the run. -/
theorem sound_bridgeStep (sound : bridge.Sound) {input : BridgeInput}
    (orderly : BridgeOrderly bridge input) : (bridgeStep bridge input).Sound := by
  cases input with
  | startBridge => exact sound.beginStart orderly
  | hostsChange rows => exact sound.hostsChange rows
  | restartTimer =>
      unfold bridgeStep restartTimer
      dsimp only
      split
      · exact sound
      · rename_i pending
        have planned : ({ bridge with timers := bridge.timers - 1 } : DockerBridge).Sound :=
          ⟨sound.one, sound.socket, sound.ready, sound.served, sound.held⟩
        exact planned.beginStart (orderly pending)
  | advance index => exact sound.advance orderly
  | fail index => exact sound.fail orderly
  | connects index => exact sound.connects index
  | closes index => exact sound.closes index
  | exits index => exact sound.exits index
  | terminate => exact ⟨sound.one, sound.socket, sound.ready, sound.served, sound.held⟩

theorem Sound.oneCurrent (sound : bridge.Sound) : bridge.OneCurrent where
  one := sound.one
  current idle child member alive := by
    obtain ⟨index, found⟩ := List.mem_iff_getElem?.mp member
    rcases sound.served index child found alive with has | ⟨call, inCalls, brings⟩
    · exact has
    · rw [idle call inCalls] at brings
      cases brings

/-- **One bridge.** Along a run of orderly steps at most one bridge lives or is being started, and
whenever no call is under way the one that lives has the current hosts. -/
theorem oneCurrent_of_orderly (rows : List DockerHostRow) (inputs : List BridgeInput)
    (orderly : AlongRun bridgeStep BridgeOrderly (start rows) inputs) :
    (run bridgeStep (start rows) inputs).OneCurrent :=
  (@run_invariant_of_alongRun _ _ bridgeStep Sound BridgeOrderly
    (fun _ _ sound fits => sound_bridgeStep sound fits) _ (sound_start rows) _ orderly).oneCurrent

def sampleHost (id : String) : DockerHostRow :=
  { id := id, type := "docker_endpoint", host := "unix:///var/run/docker.sock", enabled := true }

/-- A bridge is started for one host, hears of a second, exits and is started again. -/
def sampleRun : List BridgeInput :=
  [.hostsChange [sampleHost "a"], .advance 0, .advance 0, .advance 0, .advance 0, .advance 0,
    .advance 0, .connects 0, .advance 0, .advance 0, .hostsChange [sampleHost "a", sampleHost "b"],
    .advance 1, .advance 1, .advance 1, .exits 0, .restartTimer, .advance 2, .advance 2, .advance 2,
    .connects 1, .advance 2, .advance 2]

theorem oneCurrent_of_orderly_sample : (run bridgeStep (start []) sampleRun).OneCurrent :=
  oneCurrent_of_orderly [] sampleRun (by decide +kernel)

/-- Two hosts are added one after the other, and both syncs find no bridge running. -/
def crossedSyncs : List BridgeInput :=
  [.hostsChange [sampleHost "a"], .hostsChange [sampleHost "a", sampleHost "b"], .advance 0,
    .advance 1, .advance 0, .advance 1, .advance 0, .advance 1, .advance 0, .advance 1, .advance 0,
    .advance 1]

theorem not_oneCurrent : ¬ ∀ (rows : List DockerHostRow) (inputs : List BridgeInput),
    (run bridgeStep (start rows) inputs).OneCurrent := by
  intro claim
  have two : (run bridgeStep (start []) crossedSyncs).live = 2 := by decide +kernel
  have one := (claim [] crossedSyncs).one
  omega

end Lombok.Docker.DockerBridge
