import GameBook.NetworkConnects
import GameBook.ObjectPool

/-!
The table `_connects` of a `Network`, its set `_sockets` and the descriptors that
the system gives it. `indexed` and `closes` are not in the code: the indexes used
on `_connects` so far, and how often a descriptor has been closed by the network
since it was given. A null pointer that is followed is the result `none`.
-/

namespace GameBook.ConnectionTable

open OrderedMap SocketObject LabelledRun
open NetworkConnects (Network ConnectObj Outgoing ConnectStateType isListen writeBack deliver deliverEach)
open ObjectPool (Pool Kept Lent mallocObject)
open PacketPool (entry)

inductive Polls where
  | epoll
  | select
  deriving DecidableEq

def maxClient : Polls → Int
  | .epoll => 5120
  | .select => 10000

def invalidSocket : Int := -1

/-- `address` is where the object of a connection lies in the pool of the
thread, `watched` what is registered with epoll. -/
structure State where
  polls : Polls
  network : Network
  master : Int
  awake : Bool
  watched : Table Int Unit
  pool : Pool
  address : Nat → Nat
  made : Nat
  indexed : List Int
  closes : Int → Nat

def start (polls : Polls) (networkType : NetworkType) : State where
  polls := polls
  network := NetworkConnects.create networkType
  master := invalidSocket
  awake := false
  watched := ∅
  pool := ObjectPool.newPool
  address := fun _ => 0
  made := 0
  indexed := []
  closes := fun _ => 0

/-- `accept` or `socket` returns the descriptor. -/
def give (s : State) (socket : Int) : State :=
  { s with closes := Function.update s.closes socket 0, watched := s.watched.erase socket }

/-- `_sock_close`. The system also drops what epoll has of the descriptor. -/
def close (s : State) (socket : Int) : State :=
  if socket = invalidSocket then s
  else
    { s with
      closes := Function.update s.closes socket (s.closes socket + 1)
      watched := s.watched.erase socket }

/-! ### The table -/

def index (s : State) (socket : Int) : State := { s with indexed := socket :: s.indexed }

/-- `ConnectObj::BackToPool` closes the descriptor that the object has. -/
def componentBackToPool (s : State) (obj : ConnectObj) : State :=
  let closed := close s obj.socketKey.socket
  { closed with pool := ObjectPool.componentBackToPool closed.pool (closed.address obj.number) }

def clearSlot (s : State) (socket : Int) (obj : ConnectObj) : State :=
  let back := componentBackToPool s obj
  { back with network := { back.network with connects := back.network.connects.erase socket } }

def removeConnectObj (s : State) (socket : Int) (obj : ConnectObj) : State :=
  let cleared := clearSlot s socket obj
  { cleared with
    network := { cleared.network with sockets := cleared.network.sockets.erase socket }
    watched := cleared.watched.erase socket }

/-- `checked`: the descriptor has no pending error. `sn` is what `GenerateSN`
returns for a new object. -/
def createConnectObj (s : State) (checked : Bool) (socket : Int) (tagType : TagType)
    (tagValue : TagValue) (state : ConnectStateType) (sn : Nat) : Option (Bool × State) :=
  if checked = false then some (false, close s socket)
  else
    match s.network.connects[socket]? with
    | some obj => some (false, removeConnectObj (index s socket) socket obj)
    | none =>
        (mallocObject false s.pool 0 sn).map fun (address, pool) =>
          (true, { index s socket with
            network := { s.network with
              connects := s.network.connects.insert socket
                (NetworkConnects.awake socket s.network.networkType tagType tagValue state s.made)
              sockets := s.network.sockets.insert socket () }
            pool := pool
            address := Function.update s.address s.made address
            made := s.made + 1
            watched := if s.polls = .epoll then s.watched.insert socket () else s.watched })

def accept (s : State) (socket : Int) (checked : Bool) (sn : Nat) : Option State :=
  (createConnectObj (give s socket) checked socket .none ⟨[], 0⟩ .connected sn).map fun (created, after) =>
    if created then after else close after socket

/-- `Connect`; `refused`: `connect` failed with an error that counts. -/
def connect (s : State) (socket : Int) (refused checked : Bool) (tagType : TagType)
    (tagValue : TagValue) (state : ConnectStateType) (sn : Nat) : Option State :=
  if refused then some (close (give s socket) socket)
  else (createConnectObj (give s socket) checked socket tagType tagValue state sn).map (·.2)

def handleDisconnect (s : State) (identify : NetIdentify) : State :=
  if identify.socketKey.netType ≠ s.network.networkType then s
  else
    match s.network.connects[identify.socketKey.socket]? with
    | none => index s identify.socketKey.socket
    | some obj =>
        removeConnectObj (index s identify.socketKey.socket) identify.socketKey.socket obj

/-- `_connects` is used where `_sockets` has the descriptor. -/
def handleListenKey (s : State) (identify : NetIdentify) : Option State :=
  (NetworkConnects.handleListenKey s.network identify).map fun network =>
    { s with
      network := network
      indexed :=
        if identify.socketKey.netType = s.network.networkType ∧
            (s.network.sockets[identify.socketKey.socket]?).isSome then
          identify.socketKey.socket :: s.indexed
        else s.indexed }

/-- The descriptors of the packets that `OnNetworkUpdate` comes to. -/
def addressees (s : State) : List Int :=
  (CacheSwap.getReaderCache (CacheSwap.refill s.network.sendMsgList)).map (·.packet.socketKey.socket)

def onNetworkUpdate (s : State) : State :=
  { s with
    network := (NetworkConnects.onNetworkUpdate s.network).1
    indexed := addressees s ++ s.indexed }

/-- What epoll or select reports of a descriptor, and the results of `Recv` and `Send`. -/
structure Flags where
  failed : Bool
  readable : Bool
  received : Bool
  writable : Bool
  sent : Bool

def transfer (succeeds : Bool) (obj : ConnectObj) : Option ConnectObj :=
  if obj.state = .connecting then some { obj with state := .connected }
  else if succeeds then some obj
  else none

/-- `none`: the connection has to go. -/
def serve (flags : Flags) (obj : ConnectObj) : Option ConnectObj :=
  if flags.failed then none
  else
    (if flags.readable then transfer flags.received obj else some obj).bind fun read =>
      if flags.writable then transfer flags.sent read else some read

def visit (s : State) (socket : Int) (obj : ConnectObj) (flags : Flags) : State :=
  match serve flags obj with
  | none => removeConnectObj s socket obj
  | some served => { s with network := writeBack s.network socket served }

/-- `Epoll`. The master socket has no object. -/
def epollEach : List (Int × Flags) → State → State
  | [], s => s
  | (socket, flags) :: rest, s =>
      match s.network.connects[socket]? with
      | none => epollEach rest (index s socket)
      | some obj => epollEach rest (visit (index s socket) socket obj flags)

def selectEach (flags : Int → Flags) : List Int → State → Option State
  | [], s => some s
  | socket :: rest, s =>
      match s.network.connects[socket]? with
      | none => none
      | some obj => selectEach flags rest (visit (index s socket) socket obj (flags socket))

def clearEach : List Int → State → Option State
  | [], s => some s
  | socket :: rest, s =>
      match s.network.connects[socket]? with
      | none => none
      | some obj => clearEach rest (clearSlot (index s socket) socket obj)

/-- The first half of `NetworkListen::BackToPool`. -/
def closeMaster (s : State) : State :=
  if isListen s.network.networkType then { close s s.master with master := invalidSocket } else s

def backToPool (s : State) : Option State :=
  (clearEach s.network.sockets.keys (closeMaster s)).map fun cleared =>
    { cleared with
      network := { cleared.network with sockets := ∅, sendMsgList := CacheSwap.new }
      watched := ∅
      awake := false }

/-- `Awake` with a new epoll instance; `socket` is the answer of `CreateSocket`,
`listening` whether `bind` and `listen` succeed. -/
def awake (s : State) (socket : Int) (listening : Bool) : State :=
  if isListen s.network.networkType = true ∧ socket ≠ invalidSocket then
    { give s socket with
      master := socket
      awake := true
      watched := if listening = true ∧ s.polls = .epoll then (∅ : Table Int Unit).insert socket () else ∅ }
  else { s with awake := true, watched := ∅ }

/-! ### Runs -/

/-- `pool` is what the other users of the pool and its own turns do. -/
inductive Event where
  | awake (socket : Int) (listening : Bool)
  | backToPool
  | accept (socket : Int) (checked : Bool) (sn : Nat)
  | connect (socket : Int) (refused checked : Bool) (tagType : TagType) (tagValue : TagValue)
      (state : ConnectStateType) (sn : Nat)
  | disconnect (identify : NetIdentify)
  | listenKey (identify : NetIdentify)
  | sendPacket (item : Outgoing)
  | onNetworkUpdate
  | epoll (events : List (Int × Flags))
  | select (flags : Int → Flags)
  | pool (call : ObjectPool.Call) (after : Pool)

def handle (s : State) : Event → Option State
  | .awake socket listening => some (awake s socket listening)
  | .backToPool => backToPool s
  | .accept socket checked sn => accept s socket checked sn
  | .connect socket refused checked tagType tagValue state sn =>
      connect s socket refused checked tagType tagValue state sn
  | .disconnect identify => some (handleDisconnect s identify)
  | .listenKey identify => handleListenKey s identify
  | .sendPacket item => some { s with network := NetworkConnects.sendPacket s.network item }
  | .onNetworkUpdate => some (onNetworkUpdate s)
  | .epoll events => some (epollEach events s)
  | .select flags => selectEach flags s.network.sockets.keys s
  | .pool _ after => some { s with pool := after }

def Fresh (s : State) (sn : Nat) : Prop :=
  sn ≠ 0 ∧ entry s.pool.objInUse sn = none ∧ sn ∉ s.pool.objInUse.removes

/-- What the system and the rest of the program may do. A descriptor that is
given is never the open master socket, and may be any other; epoll reports what
it watches; nobody else frees an object of the table. -/
def Possible (s : State) : Event → Prop
  | .awake socket _ => s.awake = false ∧ (socket = invalidSocket ∨ 0 ≤ socket)
  | .backToPool => s.awake = true
  | .accept socket _ sn =>
      s.awake = true ∧ isListen s.network.networkType = true ∧ 0 ≤ socket ∧ socket ≠ s.master ∧ Fresh s sn
  | .connect socket _ _ _ _ _ sn =>
      s.awake = true ∧ isListen s.network.networkType = false ∧ 0 ≤ socket ∧ Fresh s sn
  | .disconnect _ => s.awake = true
  | .listenKey _ => s.awake = true ∧ isListen s.network.networkType = true
  | .sendPacket _ => True
  | .onNetworkUpdate => s.awake = true
  | .epoll events => s.awake = true ∧ s.polls = .epoll ∧
      ∀ event ∈ events, (s.watched[event.1]?).isSome
  | .select _ => s.awake = true ∧ s.polls = .select
  | .pool call after => ObjectPool.Step false s.pool call after ∧
      ∀ (socket : Int) (obj : ConnectObj), s.network.connects[socket]? = some obj →
        ¬ObjectPool.Frees call (s.address obj.number)

def Step (before : State) (event : Event) (after : State) : Prop :=
  Possible before event ∧ handle before event = some after

/-! ### What is claimed of a state, and where it can fail -/

def InRange (polls : Polls) (socket : Int) : Prop := 0 ≤ socket ∧ socket < maxClient polls

structure Good (s : State) : Prop where
  indexes : ∀ socket ∈ s.indexed, InRange s.polls socket
  paired : ∀ socket : Int,
    (s.network.sockets[socket]?).isSome ↔ (s.network.connects[socket]?).isSome
  single : ∀ (socket other : Int) (obj another : ConnectObj), s.network.connects[socket]? = some obj →
    s.network.connects[other]? = some another → s.address obj.number = s.address another.number →
    socket = other
  closed : ∀ socket : Int, s.closes socket ≠ 0 →
    s.network.sockets[socket]? = none ∧ s.network.connects[socket]? = none
  once : ∀ socket : Int, s.closes socket ≤ 1

/-- An accepted descriptor is below MAX_CLIENT, has no object and passes
`CheckSocket`; one of `Connect` is below MAX_CLIENT where the connection goes on,
and has no object where it does not; messages and packets of the network's own
type, and a master socket that epoll reports, are below MAX_CLIENT. -/
def Sane (s : State) : Event → Prop
  | .accept socket checked _ =>
      checked = true ∧ InRange s.polls socket ∧ s.network.connects[socket]? = none
  | .connect socket refused checked _ _ _ _ =>
      if refused = false ∧ checked = true then InRange s.polls socket
      else s.network.connects[socket]? = none
  | .disconnect identify =>
      identify.socketKey.netType = s.network.networkType → InRange s.polls identify.socketKey.socket
  | .onNetworkUpdate => ∀ socket ∈ addressees s, InRange s.polls socket
  | .epoll events => (∃ event ∈ events, event.1 = s.master) → InRange s.polls s.master
  | _ => True

/-! ### The invariant -/

structure Slot (s : State) (socket : Int) (obj : ConnectObj) : Prop where
  keyed : obj.socketKey.socket = socket
  inRange : InRange s.polls socket
  apart : socket ≠ s.master
  numbered : obj.number < s.made
  lent : Lent s.pool (s.address obj.number)
  unclosed : s.closes socket = 0

/-- All but what pairs the table with the set: `BackToPool` empties the table first. -/
structure Held (s : State) : Prop where
  indexed : ∀ socket ∈ s.indexed, InRange s.polls socket
  slots : ∀ (socket : Int) (obj : ConnectObj), s.network.connects[socket]? = some obj → Slot s socket obj
  single : ∀ (socket other : Int) (obj another : ConnectObj), s.network.connects[socket]? = some obj →
    s.network.connects[other]? = some another → s.address obj.number = s.address another.number →
    socket = other
  kept : Kept s.pool
  once : ∀ socket : Int, s.closes socket ≤ 1
  watched : ∀ socket : Int, (s.watched[socket]?).isSome →
    socket = s.master ∨ (s.network.connects[socket]?).isSome
  master : s.master ≠ invalidSocket → s.closes s.master = 0
  connector : isListen s.network.networkType = false → s.master = invalidSocket
  asleep : s.awake = false →
    (∀ socket : Int, s.network.connects[socket]? = none) ∧ s.master = invalidSocket

def PairedUp (s : State) : Prop :=
  ∀ socket : Int, s.network.sockets[socket]? = (s.network.connects[socket]?).map fun _ => ()

theorem good_of_held {s : State} (held : Held s) (paired : PairedUp s) : Good s := by
  have absent : ∀ socket : Int, s.closes socket ≠ 0 → s.network.connects[socket]? = none := by
    intro socket closed
    cases found : s.network.connects[socket]? with
    | none => rfl
    | some obj => exact absurd (held.slots socket obj found).unclosed closed
  constructor
  · exact held.indexed
  · intro socket
    rw [paired socket, Option.isSome_map]
  · exact held.single
  · intro socket closed
    rw [paired socket, absent socket closed]
    exact ⟨rfl, rfl⟩
  · exact held.once

theorem start_held (polls : Polls) (networkType : NetworkType) :
    Held (start polls networkType) ∧ PairedUp (start polls networkType) := by
  have empty : ∀ socket : Int, (start polls networkType).network.connects[socket]? = none := by
    intro socket
    simp [start, NetworkConnects.create]
  constructor
  · constructor
    · intro socket member
      cases member
    · intro socket obj found
      rw [empty] at found
      cases found
    · intro socket other obj another found
      rw [empty] at found
      cases found
    · exact ObjectPool.new_pool_kept
    · intro socket
      exact Nat.zero_le 1
    · intro socket watched
      simp [start] at watched
    · intro master
      exact absurd rfl master
    · intro _
      rfl
    · intro _
      exact ⟨empty, rfl⟩
  · intro socket
    rw [empty]
    simp [start, NetworkConnects.create]

theorem held_index {s : State} {socket : Int} (held : Held s) (inRange : InRange s.polls socket) :
    Held (index s socket) := by
  refine { held with
    indexed := ?_
    slots := fun other obj found => { held.slots other obj found with } }
  intro other member
  rcases List.mem_cons.mp member with rfl | before
  · exact inRange
  · exact held.indexed other before

theorem update_once {closes : Int → Nat} (once : ∀ socket : Int, closes socket ≤ 1) (socket : Int)
    {times : Nat} (few : times ≤ 1) (other : Int) : Function.update closes socket times other ≤ 1 := by
  by_cases same : other = socket
  · rw [same, Function.update_self]
    exact few
  · rw [Function.update_of_ne same]
    exact once other

theorem watched_erase {watched : Table Int Unit} {socket other : Int}
    (there : ((watched.erase socket)[other]?).isSome) : other ≠ socket ∧ (watched[other]?).isSome := by
  rw [get_erase] at there
  split at there
  · cases there
  · exact ⟨‹_›, there⟩

theorem held_give {s : State} {socket : Int} (held : Held s) (apart : socket ≠ s.master) :
    Held (give s socket) := by
  refine { held with
    slots := ?_
    once := update_once held.once socket (Nat.zero_le 1)
    watched := fun other watched => held.watched other (watched_erase watched).2
    master := ?_ }
  · intro other obj found
    refine { held.slots other obj found with unclosed := ?_ }
    change Function.update s.closes socket 0 other = 0
    by_cases same : other = socket
    · rw [same, Function.update_self]
    · rw [Function.update_of_ne same]
      exact (held.slots other obj found).unclosed
  · intro valid
    change Function.update s.closes socket 0 s.master = 0
    rw [Function.update_of_ne (Ne.symm apart)]
    exact held.master valid

theorem close_eq {s : State} {socket : Int} (valid : socket ≠ invalidSocket) :
    close s socket = { s with
      closes := Function.update s.closes socket (s.closes socket + 1)
      watched := s.watched.erase socket } := by
  unfold close
  rw [if_neg valid]

theorem valid_of_nonneg {socket : Int} (given : 0 ≤ socket) : socket ≠ invalidSocket := by
  unfold invalidSocket
  omega

theorem held_close {s : State} {socket : Int} (held : Held s) (valid : socket ≠ invalidSocket)
    (absent : s.network.connects[socket]? = none) (apart : socket ≠ s.master)
    (unclosed : s.closes socket = 0) : Held (close s socket) := by
  rw [close_eq valid, unclosed]
  refine { held with
    slots := ?_
    once := update_once held.once socket (Nat.le_refl 1)
    watched := fun other watched => held.watched other (watched_erase watched).2
    master := ?_ }
  · intro other obj found
    refine { held.slots other obj found with unclosed := ?_ }
    change Function.update s.closes socket 1 other = 0
    rw [Function.update_of_ne]
    · exact (held.slots other obj found).unclosed
    · rintro rfl
      rw [absent] at found
      cases found
  · intro master
    change Function.update s.closes socket 1 s.master = 0
    rw [Function.update_of_ne (Ne.symm apart)]
    exact held.master master

theorem clear_slot_eq {s : State} {socket : Int} {obj : ConnectObj} (slot : Slot s socket obj) :
    clearSlot s socket obj = { s with
      network := { s.network with connects := s.network.connects.erase socket }
      closes := Function.update s.closes socket 1
      watched := s.watched.erase socket
      pool := ObjectPool.componentBackToPool s.pool (s.address obj.number) } := by
  unfold clearSlot componentBackToPool
  rw [slot.keyed, close_eq (valid_of_nonneg slot.inRange.1), slot.unclosed]

theorem held_clear {s : State} {socket : Int} {obj : ConnectObj} (held : Held s)
    (found : s.network.connects[socket]? = some obj) : Held (clearSlot s socket obj) := by
  have slot := held.slots socket obj found
  rw [clear_slot_eq slot]
  have before : ∀ (other : Int) (another : ConnectObj),
      (s.network.connects.erase socket)[other]? = some another →
      other ≠ socket ∧ s.network.connects[other]? = some another := by
    intro other another there
    rw [get_erase] at there
    split at there
    · cases there
    · exact ⟨‹_›, there⟩
  refine { held with
    slots := ?_
    single := ?_
    kept := ObjectPool.back_to_pool_kept s.pool _ held.kept
    once := update_once held.once socket (Nat.le_refl 1)
    watched := ?_
    master := ?_
    asleep := ?_ }
  · intro other another there
    obtain ⟨apart, old⟩ := before other another there
    have stays := held.slots other another old
    refine { stays with
      lent := ?_
      unclosed := ?_ }
    -- another descriptor is another address, and freeing one address leaves the others lent
    · apply ObjectPool.lent_back_to_pool held.kept stays.lent (ObjectPool.lent_below held.kept slot.lent)
      intro same
      exact apart (held.single other socket another obj old found same.symm)
    · change Function.update s.closes socket 1 other = 0
      rw [Function.update_of_ne apart]
      exact stays.unclosed
  · intro first second one two left right same
    exact held.single first second one two (before first one left).2 (before second two right).2 same
  · intro other watched
    obtain ⟨apart, before⟩ := watched_erase watched
    change other = s.master ∨ ((s.network.connects.erase socket)[other]?).isSome
    rw [get_erase, if_neg apart]
    exact held.watched other before
  · intro valid
    change Function.update s.closes socket 1 s.master = 0
    rw [Function.update_of_ne (Ne.symm slot.apart)]
    exact held.master valid
  · intro sleeping
    rw [(held.asleep sleeping).1 socket] at found
    cases found

theorem remove_closes {s : State} {socket : Int} {obj : ConnectObj} (slot : Slot s socket obj) (other : Int) :
    (removeConnectObj s socket obj).closes other = if other = socket then 1 else s.closes other := by
  unfold removeConnectObj
  rw [clear_slot_eq slot]
  exact Function.update_apply _ _ _ _

theorem remove_table (s : State) (socket : Int) (obj : ConnectObj) :
    (removeConnectObj s socket obj).network = NetworkConnects.removeConnectObj s.network socket := by
  unfold removeConnectObj clearSlot componentBackToPool close
  split
  · rfl
  · rfl

theorem remove_indexed (s : State) (socket : Int) (obj : ConnectObj) :
    (removeConnectObj s socket obj).indexed = s.indexed := by
  unfold removeConnectObj clearSlot componentBackToPool close
  split
  · rfl
  · rfl

theorem remove_polls (s : State) (socket : Int) (obj : ConnectObj) :
    (removeConnectObj s socket obj).polls = s.polls := by
  unfold removeConnectObj clearSlot componentBackToPool close
  split
  · rfl
  · rfl

theorem held_remove {s : State} {socket : Int} {obj : ConnectObj} (held : Held s)
    (found : s.network.connects[socket]? = some obj) : Held (removeConnectObj s socket obj) := by
  have cleared := held_clear held found
  exact { cleared with
    slots := fun other another there => { cleared.slots other another there with }
    watched := fun other watched => cleared.watched other (watched_erase watched).2 }

theorem paired_remove {s : State} {socket : Int} {obj : ConnectObj} (paired : PairedUp s) :
    PairedUp (removeConnectObj s socket obj) := by
  intro other
  rw [remove_table]
  simp only [NetworkConnects.removeConnectObj, get_erase]
  split
  · rfl
  · exact paired other

theorem held_create {s : State} {socket : Int} {obj : ConnectObj} {sn address : Nat} {pool : Pool}
    (held : Held s) (awake : s.awake = true) (inRange : InRange s.polls socket) (apart : socket ≠ s.master)
    (absent : s.network.connects[socket]? = none) (unclosed : s.closes socket = 0) (fresh : Fresh s sn)
    (taken : mallocObject false s.pool 0 sn = some (address, pool)) (keyed : obj.socketKey.socket = socket)
    (numbered : obj.number = s.made) (sockets : Table Int Unit) (watched : Table Int Unit)
    (registers : ∀ other : Int, (watched[other]?).isSome → other = socket ∨ (s.watched[other]?).isSome) :
    Held { s with
      network := { s.network with
        connects := s.network.connects.insert socket obj
        sockets := sockets }
      pool := pool
      address := Function.update s.address s.made address
      made := s.made + 1
      watched := watched } := by
  have given : ObjectPool.givenSN 0 sn = sn := if_pos rfl
  obtain ⟨lent, others⟩ := ObjectPool.malloc_lent held.kept (by rw [given]; exact fresh.2.1) taken
  have malloc : ObjectPool.Step false s.pool (.malloc 0 sn address) pool :=
    .malloc s.pool 0 sn address pool (by rw [given]; exact fresh.1) (by rw [given]; exact fresh.2.1) taken
  have own : Function.update s.address s.made address obj.number = address := by
    rw [numbered, Function.update_self]
  -- the number of the new object is above all others, so their addresses stay
  have older : ∀ (other : Int) (another : ConnectObj), s.network.connects[other]? = some another →
      Function.update s.address s.made address another.number = s.address another.number := by
    intro other another found
    exact Function.update_of_ne (Nat.ne_of_lt (held.slots other another found).numbered) _ _
  have cases : ∀ (other : Int) (another : ConnectObj),
      (s.network.connects.insert socket obj)[other]? = some another →
      other = socket ∧ another = obj ∨ other ≠ socket ∧ s.network.connects[other]? = some another := by
    intro other another found
    rw [get_insert] at found
    split at found
    · exact Or.inl ⟨‹_›, (Option.some.inj found).symm⟩
    · exact Or.inr ⟨‹_›, found⟩
  refine { held with
    slots := ?_
    single := ?_
    kept := ObjectPool.step_kept held.kept malloc
    watched := ?_
    asleep := ?_ }
  · intro other another found
    rcases cases other another found with ⟨rfl, rfl⟩ | ⟨-, old⟩
    · refine ⟨keyed, inRange, apart, ?_, ?_, unclosed⟩
      · rw [numbered]
        exact Nat.lt_succ_self s.made
      · change Lent pool (Function.update s.address s.made address another.number)
        rw [own]
        exact lent (by rw [given]; exact fresh.2.2)
    · have stays := held.slots other another old
      refine { stays with
        numbered := Nat.lt_succ_of_lt stays.numbered
        lent := ?_ }
      change Lent pool (Function.update s.address s.made address another.number)
      rw [older other another old]
      exact (others _ stays.lent).2
  · intro first second one two left right same
    change Function.update s.address s.made address one.number =
      Function.update s.address s.made address two.number at same
    rcases cases first one left with ⟨rfl, rfl⟩ | ⟨-, old⟩
    · rcases cases second two right with ⟨rfl, rfl⟩ | ⟨-, older'⟩
      · rfl
      · rw [own, older second two older'] at same
        exact absurd same.symm (others _ (held.slots second two older').lent).1
    · rcases cases second two right with ⟨rfl, rfl⟩ | ⟨-, older'⟩
      · rw [own, older first one old] at same
        exact absurd same (others _ (held.slots first one old).lent).1
      · rw [older first one old, older second two older'] at same
        exact held.single first second one two old older' same
  · intro other registered
    change other = s.master ∨ ((s.network.connects.insert socket obj)[other]?).isSome
    rw [get_insert]
    split
    · exact Or.inr rfl
    · rename_i differs
      rcases registers other registered with same | before
      · exact absurd same differs
      · exact held.watched other before
  · intro sleeping
    rw [awake] at sleeping
    cases sleeping

structure Rewritten (n m : Network) : Prop where
  networkType : m.networkType = n.networkType
  sockets : m.sockets = n.sockets
  objects : ∀ socket : Int, (m.connects[socket]?).map (fun obj => (obj.number, obj.socketKey)) =
    (n.connects[socket]?).map fun obj => (obj.number, obj.socketKey)

theorem rewritten_refl (n : Network) : Rewritten n n := ⟨rfl, rfl, fun _ => rfl⟩

theorem rewritten_trans {first second third : Network} (one : Rewritten first second)
    (two : Rewritten second third) : Rewritten first third :=
  ⟨two.networkType.trans one.networkType, two.sockets.trans one.sockets,
    fun socket => (two.objects socket).trans (one.objects socket)⟩

theorem rewritten_write {n : Network} {socket : Int} {obj new : ConnectObj}
    (found : n.connects[socket]? = some obj) (number : new.number = obj.number)
    (key : new.socketKey = obj.socketKey) : Rewritten n (writeBack n socket new) := by
  refine ⟨rfl, rfl, ?_⟩
  intro other
  simp only [writeBack, get_insert]
  split
  · rename_i same
    rw [same, found, Option.map_some, Option.map_some, number, key]
  · rfl

theorem rewritten_present {n m : Network} (rewritten : Rewritten n m) (socket : Int) :
    (m.connects[socket]?).isSome = (n.connects[socket]?).isSome := by
  have same := congrArg Option.isSome (rewritten.objects socket)
  rwa [Option.isSome_map, Option.isSome_map] at same

theorem rewritten_old {n m : Network} (rewritten : Rewritten n m) {socket : Int} {obj : ConnectObj}
    (found : m.connects[socket]? = some obj) :
    ∃ old, n.connects[socket]? = some old ∧ old.number = obj.number ∧ old.socketKey = obj.socketKey := by
  have same := rewritten.objects socket
  rw [found, Option.map_some] at same
  obtain ⟨old, there, equal⟩ := Option.map_eq_some_iff.mp same.symm
  exact ⟨old, there, congrArg Prod.fst equal, congrArg Prod.snd equal⟩

theorem held_rewritten {s : State} {m : Network} (held : Held s) (rewritten : Rewritten s.network m) :
    Held { s with network := m } := by
  refine { held with
    slots := ?_
    single := ?_
    watched := ?_
    connector := ?_
    asleep := ?_ }
  · intro socket obj found
    obtain ⟨old, there, number, key⟩ := rewritten_old rewritten found
    obtain ⟨keyed, inRange, apart, numbered, lent, unclosed⟩ := held.slots socket old there
    rw [key] at keyed
    rw [number] at numbered lent
    exact ⟨keyed, inRange, apart, numbered, lent, unclosed⟩
  · intro first second one two left right same
    obtain ⟨oldOne, thereOne, numberOne, -⟩ := rewritten_old rewritten left
    obtain ⟨oldTwo, thereTwo, numberTwo, -⟩ := rewritten_old rewritten right
    apply held.single first second oldOne oldTwo thereOne thereTwo
    rw [numberOne, numberTwo]
    exact same
  · intro socket watched
    change socket = s.master ∨ (m.connects[socket]?).isSome
    rw [rewritten_present rewritten]
    exact held.watched socket watched
  · intro connects
    change isListen m.networkType = false at connects
    rw [rewritten.networkType] at connects
    exact held.connector connects
  · intro sleeping
    obtain ⟨empty, master⟩ := held.asleep sleeping
    refine ⟨?_, master⟩
    intro socket
    have absent := rewritten_present rewritten socket
    rw [empty socket] at absent
    exact Option.not_isSome_iff_eq_none.mp (by rw [absent]; exact Bool.false_ne_true)

theorem paired_rewritten {s : State} {m : Network} (paired : PairedUp s)
    (rewritten : Rewritten s.network m) : PairedUp { s with network := m } := by
  intro socket
  have units := congrArg (Option.map fun _ => ()) (rewritten.objects socket)
  rw [Option.map_map, Option.map_map] at units
  change m.sockets[socket]? = (m.connects[socket]?).map fun _ => ()
  rw [rewritten.sockets, paired socket]
  exact units.symm

theorem deliver_rewritten (n : Network) (item : Outgoing) : Rewritten n (deliver n item).1 := by
  unfold deliver
  split
  · exact rewritten_refl n
  · rename_i obj found
    split
    · exact rewritten_write found rfl rfl
    · exact rewritten_refl n

theorem deliver_each_rewritten (items : List Outgoing) (n : Network) :
    Rewritten n (deliverEach items n).1 := by
  induction items generalizing n with
  | nil => exact rewritten_refl n
  | cons item rest ih => exact rewritten_trans (deliver_rewritten n item) (ih _)

theorem update_rewritten (n : Network) : Rewritten n (NetworkConnects.onNetworkUpdate n).1 := by
  -- packets are written through the pointers of the table; no slot changes
  have delivered := deliver_each_rewritten
    (CacheSwap.getReaderCache (CacheSwap.refill n.sendMsgList))
    { n with sendMsgList := CacheSwap.refill n.sendMsgList }
  exact ⟨delivered.networkType, delivered.sockets, delivered.objects⟩

theorem send_rewritten (n : Network) (item : Outgoing) :
    Rewritten n (NetworkConnects.sendPacket n item) := by
  unfold NetworkConnects.sendPacket
  split
  · exact rewritten_refl n
  · exact ⟨rfl, rfl, fun _ => rfl⟩

theorem transfer_same {succeeds : Bool} {obj after : ConnectObj} (done : transfer succeeds obj = some after) :
    after.number = obj.number ∧ after.socketKey = obj.socketKey := by
  unfold transfer at done
  split at done
  · cases done
    exact ⟨rfl, rfl⟩
  · split at done
    · cases done
      exact ⟨rfl, rfl⟩
    · cases done

theorem serve_same {flags : Flags} {obj after : ConnectObj} (done : serve flags obj = some after) :
    after.number = obj.number ∧ after.socketKey = obj.socketKey := by
  unfold serve at done
  split at done
  · cases done
  · obtain ⟨read, received, sent⟩ := Option.bind_eq_some_iff.mp done
    have first : read.number = obj.number ∧ read.socketKey = obj.socketKey := by
      split at received
      · exact transfer_same received
      · cases received
        exact ⟨rfl, rfl⟩
    split at sent
    · obtain ⟨number, key⟩ := transfer_same sent
      exact ⟨number.trans first.1, key.trans first.2⟩
    · cases sent
      exact first

end GameBook.ConnectionTable
