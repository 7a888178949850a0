import GameBook.NetworkLocator
import GameBook.PacketLife
import GameBook.ProtoId

/-!
Where a packet goes once it has been made. The code between `MallocPacket` and
the release of a packet is cut at every call that passes the pointer on: a
thread holds a packet together with what it is about to do with it, and a path
that returns without passing the pointer on forgets the packet. The lists are
drained as in `CacheSwap`; the threads take their steps in any order, up to the
end of the process.
-/

namespace GameBook.PacketRoutes

open SocketObject AppKey ProtoId CacheSwap LabelledRun
open PacketLife (Handle references)
open NetworkLocator (Locator getNetworkIdentify noIdentify)

inductive ThreadType where
  | mainThread
  | listenThread
  | connectThread
  | logicThread
  | mysqlThread
  | allThreadType
  deriving DecidableEq, Repr

/-- `threadType` and `isToAllThread` are what a MI_CreateComponent asks for. -/
structure Packet extends NetIdentify where
  msgId : MsgId
  threadType : ThreadType
  isToAllThread : Bool
  ref : Int
  isRefOpen : Bool
  freed : Bool

def awake (msgId : MsgId) (identify : NetIdentify) : Packet :=
  ⟨identify, msgId, .mainThread, false, 0, false, false⟩

def addRef (packet : Packet) : Packet := { packet with ref := packet.ref + 1 }

def removeRef (packet : Packet) : Packet := { packet with ref := packet.ref - 1 }

def openRef (packet : Packet) : Packet := { packet with isRefOpen := true }

def freeObject (packet : Packet) : Packet := { packet with freed := true }

def canBack2Pool (packet : Packet) : Bool := packet.isRefOpen ∧ packet.ref = 0

def backToPool (packet : Packet) : Packet :=
  { packet with
    toNetIdentify := noIdentify, msgId := .none, ref := 0, isRefOpen := false }

/-- `ThreadCollector` and `ThreadCollectorExclusive`; `next` is the place of
`_nextThreadSn` among the threads. -/
structure Collector (System : Type) where
  threads : List System
  filled : threads ≠ []
  next : Nat
  exclusive : Bool

variable {Net System : Type}

/-- `find(_nextThreadSn)`, else `begin()`, and the one after it for the next time. -/
def nextThread (collector : Collector System) : System × Collector System :=
  match collector.threads[collector.next]? with
  | some system =>
      (system, { collector with
        next := if collector.next + 1 < collector.threads.length then collector.next + 1 else 0 })
  | none =>
      (collector.threads.head collector.filled, { collector with
        next := if 1 < collector.threads.length then 1 else 0 })

def handlerCreateMessage (collector : Collector System) (isToAllThread : Bool) :
    List System × Collector System :=
  if isToAllThread then (collector.threads, collector)
  else ([(nextThread collector).1], (nextThread collector).2)

def handlerMessage (collector : Collector System) (msgId : MsgId) :
    List System × Collector System :=
  if collector.exclusive then handlerCreateMessage collector (msgId = .miCmdThread)
  else (collector.threads, collector)

abbrev Threads (System : Type) := List (ThreadType × Collector System)

def handlerMessages : Threads System → MsgId → List System × Threads System
  | [], _ => ([], [])
  | (threadType, collector) :: rest, msgId =>
      let (systems, after) := handlerMessage collector msgId
      let (more, others) := handlerMessages rest msgId
      (systems ++ more, (threadType, after) :: others)

def replace (threads : Threads System) (threadType : ThreadType) (collector : Collector System) :
    Threads System :=
  threads.map fun entry => if entry.1 = threadType then (threadType, collector) else entry

def createThread (threads : Threads System) (threadType : ThreadType)
    (collector : Collector System) : Threads System :=
  if (threads.lookup threadType).isSome then replace threads threadType collector
  else (threadType, collector) :: threads

/-! ### The process -/

inductive Duty (Net System : Type) where
  | received (network : Net)
  | freeObject
  | dispatchPacket
  | sendPacket
  | sendPacketApp (appType : AppType) (appId : UInt64)
  | sendToAllApp
  | networkSend (network : Net)
  | createPacket
  | addPacketToList (system : System)
  | openRef

inductive Loop where
  | updateCreatePacket
  | updateDispatchPacket
  deriving DecidableEq, Repr

def other : Loop → Loop
  | .updateCreatePacket => .updateDispatchPacket
  | .updateDispatchPacket => .updateCreatePacket

structure Setting (Net System : Type) where
  curAppType : UInt64
  typeOf : Net → NetworkType
  main : System

/-- `queues` are `_createPackets` and `_packets`; `targets` is what is left of
the distribution of the packet a loop stands at, or nothing if its thread type
was not found. `networks` is what `GetNetwork` finds. -/
structure Process (Net System : Type) where
  packets : Handle → Packet
  made : List Handle
  hands : List (Handle × Duty Net System)
  queues : Loop → DrainQueue Handle
  targets : Option (List System)
  sendMsgList : Net → DrainQueue Handle
  cachePackets : System → DrainQueue Handle
  networks : NetworkType → Option Net
  netIdentify : Locator
  threads : Threads System

def start (threads : Threads System) : Process Net System where
  packets := fun _ => awake .none noIdentify
  made := []
  hands := []
  queues := fun _ => newQueue
  targets := none
  sendMsgList := fun _ => newQueue
  cachePackets := fun _ => newQueue
  networks := fun _ => none
  netIdentify := ∅
  threads := threads

def setPacket (p : Process Net System) (h : Handle) (packet : Packet) :
    Process Net System :=
  { p with packets := Function.update p.packets h packet }

def isCurApp (c : Setting Net System) (appType : AppType) : Bool :=
  c.curAppType &&& bits appType ≠ 0

/-- The functions that make a packet. With no tags a packet for an application
has those of its entry in the locator. -/
inductive Source (Net System : Type) where
  -- `GetTcpPacket` and `ParseHttp`, for a connection of the network
  | recv (network : Net) (socket : Int) (tagKey : TagKey) (msgId : MsgId)
  | dispatchPacket (msgId : MsgId) (identify : NetIdentify)
  -- also `SendHttpRequest`, and `HandleDefaultFunction` for a client
  | sendPacket (msgId : MsgId) (identify : NetIdentify)
  | sendPacketApp (msgId : MsgId) (tagKey : Option TagKey) (appType : AppType) (appId : UInt64)
  | copyPacketToWorld (msgId : MsgId) (tagKey : TagKey) (appType : AppType) (appId : UInt64)
  -- for one of the networks of `GetAppNetworks`
  | sendPacketToAllApp (msgId : MsgId) (one : NetIdentify)
  -- also the 404 for a bad request
  | sendHttpResponse (identify : NetIdentify)
  | createComponent (threadType : ThreadType) (isToAllThread : Bool)
  -- `ConnectObj::Close` and `RobotState::EnterState`
  | addPacketToList (system : System) (msgId : MsgId) (identify : NetIdentify)

/-- The packet a function makes, if it does, and what it goes on to do. -/
def create (c : Setting Net System) (p : Process Net System) :
    Source Net System → Option (Packet × Duty Net System)
  | .recv network socket tagKey msgId =>
      some (awake msgId ⟨⟨socket, c.typeOf network⟩, tagKey⟩, .received network)
  | .dispatchPacket msgId identify => some (awake msgId identify, .dispatchPacket)
  | .sendPacket msgId identify => some (awake msgId identify, .sendPacket)
  | .sendPacketApp msgId tagKey appType appId =>
      if isCurApp c appType then
        some (awake msgId ⟨noIdentify.socketKey, tagKey.getD clear⟩, .dispatchPacket)
      else
        let netIdentify := getNetworkIdentify p.netIdentify appType appId
        if netIdentify.socketKey.netType = .none then none
        else
          some (awake msgId ⟨netIdentify.socketKey, tagKey.getD netIdentify.tagKey⟩, .sendPacket)
  | .copyPacketToWorld msgId tagKey appType appId =>
      some (awake msgId ⟨noIdentify.socketKey, tagKey⟩, .sendPacketApp appType appId)
  | .sendPacketToAllApp msgId one => some (awake msgId one, .sendToAllApp)
  | .sendHttpResponse identify =>
      (p.networks .httpListen).map fun network =>
        (awake .miHttpInnerResponse identify, .networkSend network)
  | .createComponent threadType isToAllThread =>
      some ({ awake .miCreateComponent noIdentify with
        threadType := threadType, isToAllThread := isToAllThread }, .createPacket)
  | .addPacketToList system msgId identify => some (awake msgId identify, .addPacketToList system)

def recv (networkType : NetworkType) (msgId : MsgId) : Option (Duty Net System) :=
  if isTcp networkType = false ∧ msgId = .miHttpRequestBad then some .freeObject
  else if isTcp networkType ∧ msgId = .miPing then none
  else if isTcp networkType = false ∧
      (number msgId ≤ number .miHttpBegin ∨ number msgId ≥ number .miHttpEnd) ∧
      msgId ≠ .miHttpOuterResponse then
    some .freeObject
  else some .dispatchPacket

def sendPacket (p : Process Net System) (packet : Packet) : Option (Duty Net System) :=
  if packet.socketKey.socket = -1 ∨ packet.socketKey.netType = .none then some .dispatchPacket
  else (p.networks packet.socketKey.netType).map .networkSend

def sendPacketApp (c : Setting Net System) (p : Process Net System) (packet : Packet)
    (appType : AppType) (appId : UInt64) : Packet × Option (Duty Net System) :=
  if isCurApp c appType then (packet, some .dispatchPacket)
  else
    let netIdentify := getNetworkIdentify p.netIdentify appType appId
    if netIdentify.socketKey.netType = .none then (packet, none)
    else ({ packet with socketKey := netIdentify.socketKey }, some .sendPacket)

section Passing

variable [DecidableEq Net] [DecidableEq System]

/-- `Network::SendPacket`: a packet for another type of network is refused. -/
def networkSend (c : Setting Net System) (p : Process Net System) (network : Net) (h : Handle) :
    Process Net System :=
  { p with
    sendMsgList := Function.update p.sendMsgList network
      (enqueue (CacheSwap.network (fun item => (p.packets item).socketKey.netType)
        (c.typeOf network)) (p.sendMsgList network) h) }

def addPacketToList (p : Process Net System) (system : System) (h : Handle) :
    Process Net System :=
  { p with
    packets := Function.update p.packets h (addRef (p.packets h))
    cachePackets := Function.update p.cachePackets system
      (enqueue messageSystem (p.cachePackets system) h) }

def toLoop (p : Process Net System) (loop : Loop) (h : Handle) : Process Net System :=
  { p with
    queues := Function.update p.queues loop (enqueue threadMgr (p.queues loop) h) }

def perform (c : Setting Net System) (p : Process Net System) (h : Handle) :
    Duty Net System → Process Net System × Option (Duty Net System)
  | .received network => (p, recv (c.typeOf network) (p.packets h).msgId)
  | .freeObject => (setPacket p h (freeObject (p.packets h)), none)
  | .dispatchPacket => (toLoop p .updateDispatchPacket h, none)
  | .sendPacket => (p, sendPacket p (p.packets h))
  | .sendPacketApp appType appId =>
      let sent := sendPacketApp c p (p.packets h) appType appId
      (setPacket p h sent.1, sent.2)
  | .sendToAllApp => (p, (p.networks (p.packets h).socketKey.netType).map .networkSend)
  | .networkSend network => (networkSend c p network h, none)
  | .createPacket => (toLoop p .updateCreatePacket h, none)
  | .addPacketToList system => (addPacketToList p system h, some .openRef)
  | .openRef => (setPacket p h (openRef (p.packets h)), none)

def holds (h : Handle) (duty : Option (Duty Net System)) : List (Handle × Duty Net System) :=
  (duty.map fun next => (h, next)).toList

/-- The message systems a packet of a loop goes to, and the threads after it. -/
def distribution (c : Setting Net System) (p : Process Net System) (packet : Packet) :
    Loop → Option (List System) × Threads System
  | .updateCreatePacket =>
      if p.threads = [] then (some [c.main], p.threads)
      else
        match p.threads.lookup packet.threadType with
        | none => (none, p.threads)
        | some collector =>
            let (systems, after) := handlerCreateMessage collector packet.isToAllThread
            (some systems, replace p.threads packet.threadType after)
  | .updateDispatchPacket =>
      let (systems, after) := handlerMessages p.threads packet.msgId
      (some (c.main :: systems), after)

/-- One turn of the loop of `OnNetworkUpdate`; `tagKey` is what the connection
of the packet has, if there is one. `ConnectObj::SendPacket` frees the packet
when its bytes are in the send buffer. -/
def onNetworkUpdate (tagKey : Option TagKey) (packet : Packet) : Packet :=
  match tagKey with
  | none => freeObject packet
  | some tags =>
      if NetworkConnects.compareTags tags packet.tagKey then freeObject packet
      else freeObject packet

inductive Event (Net System : Type) where
  | create (source : Source Net System) (h : Handle)
  | perform (h : Handle) (duty : Duty Net System)
  | loop (loop : Loop) (act : Act Handle)
  | distribute (loop : Loop)
  | skip (loop : Loop)
  | system (system : System) (act : Act Handle)
  | network (network : Net) (act : Act Handle)
  | networkBackToPool (network : Net)
  | poolUpdate (h : Handle)
  | locator (networks : NetworkType → Option Net) (netIdentify : Locator)
  | createThread (threadType : ThreadType) (collector : Collector System)

def turns : Act Handle → Bool
  | .beginDrain => true
  | .handOver _ => true
  | .clear => true
  | _ => false

inductive Step (c : Setting Net System) :
    Process Net System → Event Net System → Process Net System → Prop where
  | create (p : Process Net System) (source : Source Net System) (h : Handle) (packet : Packet)
      (duty : Duty Net System) :
      PacketRoutes.create c p source = some (packet, duty) → h ∉ p.made →
      Step c p (.create source h)
        { setPacket p h packet with made := h :: p.made, hands := (h, duty) :: p.hands }
  | perform (p : Process Net System) (h : Handle) (duty : Duty Net System)
      (left right : List (Handle × Duty Net System)) :
      p.hands = left ++ (h, duty) :: right →
      Step c p (.perform h duty)
        { (perform c p h duty).1 with hands := left ++ holds h (perform c p h duty).2 ++ right }
  -- the main thread is in one of its loops at a time
  | loopBegin (p : Process Net System) (loop : Loop) (queue : DrainQueue Handle) :
      (p.queues (other loop)).phase = .idle → QueueStep threadMgr (p.queues loop) .beginDrain queue →
      Step c p (.loop loop .beginDrain) { p with queues := Function.update p.queues loop queue }
  | loopHandOver (p : Process Net System) (loop : Loop) (h : Handle) (queue : DrainQueue Handle) :
      QueueStep threadMgr (p.queues loop) (.handOver h) queue →
      Step c p (.loop loop (.handOver h))
        { p with
          queues := Function.update p.queues loop queue
          targets := (distribution c p (p.packets h) loop).1
          threads := (distribution c p (p.packets h) loop).2 }
  | distribute (p : Process Net System) (loop : Loop) (h : Handle) (system : System)
      (rest : List System) :
      inBody (p.queues loop) = some h → p.targets = some (system :: rest) →
      Step c p (.distribute loop) { addPacketToList p system h with targets := some rest }
  | loopOpen (p : Process Net System) (loop : Loop) (h : Handle) (queue : DrainQueue Handle) :
      inBody (p.queues loop) = some h → p.targets = some [] →
      QueueStep threadMgr (p.queues loop) .next queue →
      Step c p (.loop loop .next)
        { setPacket p h (openRef (p.packets h)) with
          queues := Function.update p.queues loop queue, targets := none }
  | skip (p : Process Net System) (loop : Loop) (queue : DrainQueue Handle) :
      p.targets = none → QueueStep threadMgr (p.queues loop) .next queue →
      Step c p (.skip loop) { p with queues := Function.update p.queues loop queue }
  | loopClear (p : Process Net System) (loop : Loop) (queue : DrainQueue Handle) :
      QueueStep threadMgr (p.queues loop) .clear queue →
      Step c p (.loop loop .clear) { p with queues := Function.update p.queues loop queue }
  -- between hand-over and `RemoveRef` the handlers run
  | systemTurn (p : Process Net System) (system : System) (act : Act Handle)
      (queue : DrainQueue Handle) :
      turns act = true → QueueStep messageSystem (p.cachePackets system) act queue →
      Step c p (.system system act)
        { p with cachePackets := Function.update p.cachePackets system queue }
  | systemLeave (p : Process Net System) (system : System) (h : Handle) (queue : DrainQueue Handle) :
      inBody (p.cachePackets system) = some h →
      QueueStep messageSystem (p.cachePackets system) .next queue →
      Step c p (.system system .next)
        { setPacket p h (removeRef (p.packets h)) with
          cachePackets := Function.update p.cachePackets system queue }
  | networkTurn (p : Process Net System) (network : Net) (act : Act Handle)
      (queue : DrainQueue Handle) :
      turns act = true → QueueStep threadMgr (p.sendMsgList network) act queue →
      Step c p (.network network act)
        { p with sendMsgList := Function.update p.sendMsgList network queue }
  | networkDeliver (p : Process Net System) (network : Net) (h : Handle) (tagKey : Option TagKey)
      (queue : DrainQueue Handle) :
      inBody (p.sendMsgList network) = some h →
      QueueStep threadMgr (p.sendMsgList network) .next queue →
      Step c p (.network network .next)
        { setPacket p h (onNetworkUpdate tagKey (p.packets h)) with
          sendMsgList := Function.update p.sendMsgList network queue }
  -- `Network::BackToPool` resets the packets of its list instead of freeing them
  | networkBackToPool (p : Process Net System) (network : Net) :
      (p.sendMsgList network).phase = .idle →
      Step c p (.networkBackToPool network)
        { p with
          packets := fun h =>
            if h ∈ holding (p.sendMsgList network) then backToPool (p.packets h) else p.packets h
          sendMsgList := Function.update p.sendMsgList network newQueue }
  | poolUpdate (p : Process Net System) (h : Handle) :
      h ∈ p.made → canBack2Pool (p.packets h) = true →
      Step c p (.poolUpdate h) (setPacket p h (freeObject (p.packets h)))
  | locator (p : Process Net System) (networks : NetworkType → Option Net) (netIdentify : Locator) :
      Step c p (.locator networks netIdentify)
        { p with networks := networks, netIdentify := netIdentify }
  | createThread (p : Process Net System) (threadType : ThreadType) (collector : Collector System) :
      Step c p (.createThread threadType collector)
        { p with threads := PacketRoutes.createThread p.threads threadType collector }

end Passing

/-! ### The law -/

def InHands (hands : List (Handle × Duty Net System)) (h : Handle) : Prop :=
  ∃ duty, (h, duty) ∈ hands

def InQueues {Place : Type} (queues : Place → DrainQueue Handle) (h : Handle) : Prop :=
  ∃ place, h ∈ holding (queues place)

def Placed (p : Process Net System) (h : Handle) : Prop :=
  InHands p.hands h ∨ InQueues p.queues h ∨ InQueues p.sendMsgList h ∨ InQueues p.cachePackets h

/-- A packet is freed, or open with a count that is zero once no message system
has it. -/
def Marked (p : Process Net System) (h : Handle) : Prop :=
  (p.packets h).freed = true ∨
    ((p.packets h).isRefOpen = true ∧ (¬InQueues p.cachePackets h → (p.packets h).ref = 0))

def NoLeak (p : Process Net System) : Prop := ∀ h ∈ p.made, Placed p h ∨ Marked p h

/-! ### The condition -/

def PassedOn (c : Setting Net System) (p : Process Net System) (packet : Packet) :
    Duty Net System → Prop
  | .received network => ¬(isTcp (c.typeOf network) = true ∧ packet.msgId = .miPing)
  | .sendPacket => packet.socketKey.socket = -1 ∨ packet.socketKey.netType = .none ∨
      p.networks packet.socketKey.netType ≠ none
  | .sendPacketApp appType appId => isCurApp c appType = true ∨
      (getNetworkIdentify p.netIdentify appType appId).socketKey.netType ≠ .none
  | .sendToAllApp => p.networks packet.socketKey.netType ≠ none
  | .networkSend network => packet.socketKey.netType = c.typeOf network
  | _ => True

/-- Every function passes its packet on, components are created for threads the
process has, and a network that goes back to its pool has nothing to send. -/
def Followed (c : Setting Net System) (p : Process Net System) : Event Net System → Prop
  | .perform h duty => PassedOn c p (p.packets h) duty
  | .loop .updateCreatePacket (.handOver h) =>
      p.threads = [] ∨ (p.threads.lookup (p.packets h).threadType).isSome
  | .networkBackToPool network => holding (p.sendMsgList network) = []
  | _ => True

/-! ### What every step keeps -/

/-- A packet that is on its way to a list of a message system is still held by
who puts it there. -/
def Carried (p : Process Net System) (h : Handle) : Prop :=
  InHands p.hands h ∨ InQueues p.queues h ∨ InQueues p.sendMsgList h

structure Sound [Fintype System] (p : Process Net System) : Prop where
  loops : ∀ loop, WellFormed (p.queues loop)
  networks : ∀ network, WellFormed (p.sendMsgList network)
  systems : ∀ system, WellFormed (p.cachePackets system)
  known : ∀ h, Carried p h ∨ InQueues p.cachePackets h → h ∈ p.made
  counted : ∀ h ∈ p.made, (p.packets h).ref = references p.cachePackets h
  kept : ∀ h ∈ p.made, Carried p h ∨ (p.packets h).freed = true ∨ (p.packets h).isRefOpen = true

/-- The main thread stands in one loop at most, and knows where the packet it
stands at goes. -/
structure InTurn (queues : Loop → DrainQueue Handle) (targets : Option (List System)) : Prop where
  single : ∀ loop, (queues loop).phase ≠ .idle → (queues (other loop)).phase = .idle
  planned : ∀ loop h, inBody (queues loop) = some h → targets ≠ none

theorem sound_no_leak [Fintype System] (p : Process Net System) (sound : Sound p) : NoLeak p := by
  intro h member
  rcases sound.kept h member with (held | queued | sending) | freed | isOpen
  · exact Or.inl (Or.inl held)
  · exact Or.inl (Or.inr (Or.inl queued))
  · exact Or.inl (Or.inr (Or.inr (Or.inl sending)))
  · exact Or.inr (Or.inl freed)
  · right; right
    refine ⟨isOpen, ?_⟩
    intro absent
    have none := PacketLife.references_zero p.cachePackets h fun system queued =>
      absent ⟨system, queued⟩
    rw [sound.counted h member, none]
    rfl

section Lists

variable {Place : Type} [DecidableEq Place] (queues : Place → DrainQueue Handle) (place : Place)
  (queue : DrainQueue Handle)

theorem in_queues_self (h : Handle) (queued : h ∈ holding queue) :
    InQueues (Function.update queues place queue) h := by
  refine ⟨place, ?_⟩
  rw [Function.update_self]
  exact queued

theorem in_queues_congr (h : Handle) (same : h ∈ holding queue ↔ h ∈ holding (queues place)) :
    InQueues (Function.update queues place queue) h ↔ InQueues queues h := by
  apply exists_congr
  intro one
  by_cases here : one = place
  · subst here
    rw [Function.update_self]
    exact same
  · rw [Function.update_of_ne here]

theorem in_queues_same (same : holding queue = holding (queues place)) (h : Handle) :
    InQueues (Function.update queues place queue) h ↔ InQueues queues h := by
  apply in_queues_congr
  rw [same]

theorem in_queues_joined (item : Handle) (joined : holding queue = holding (queues place) ++ [item])
    (h : Handle) (apart : h ≠ item) :
    InQueues (Function.update queues place queue) h ↔ InQueues queues h := by
  apply in_queues_congr
  rw [joined, List.mem_append, List.mem_singleton]
  exact or_iff_left apart

theorem in_queues_left (item : Handle) (left : holding (queues place) = item :: holding queue)
    (h : Handle) (apart : h ≠ item) :
    InQueues (Function.update queues place queue) h ↔ InQueues queues h := by
  apply in_queues_congr
  rw [left, List.mem_cons]
  exact (or_iff_right apart).symm

theorem queues_formed (formed : ∀ one, WellFormed (queues one)) (new : WellFormed queue) (one : Place) :
    WellFormed (Function.update queues place queue one) :=
  PacketLife.update_formed formed place new one

end Lists

theorem turns_spec (owner : Owner Handle) (queue after : DrainQueue Handle) (act : Act Handle)
    (formed : WellFormed queue) (turn : turns act = true) (step : QueueStep owner queue act after) :
    WellFormed after ∧ holding after = holding queue := by
  refine ⟨step_well_formed owner queue after act formed step, ?_⟩
  cases step with
  | enqueue item => cases turn
  | beginDrain outside => exact begin_drain_holding owner queue formed outside
  | handOver iter item test stored => exact hand_over_holding queue iter item test stored
  | next iter inside => cases turn
  | clear iter test finished => exact clear_holding queue formed iter test finished

theorem next_spec (owner : Owner Handle) (queue after : DrainQueue Handle) (h : Handle)
    (formed : WellFormed queue) (work : inBody queue = some h)
    (step : QueueStep owner queue .next after) :
    WellFormed after ∧ holding queue = h :: holding after := by
  refine ⟨step_well_formed owner queue after .next formed step, ?_⟩
  cases step with
  | next iter inside => exact next_holding queue iter h inside work

theorem enqueue_spec (owner : Owner Handle) (queue : DrainQueue Handle) (h : Handle)
    (formed : WellFormed queue) (accepted : owner.accepts h = true) :
    WellFormed (enqueue owner queue h) ∧ holding (enqueue owner queue h) = holding queue ++ [h] := by
  refine ⟨enqueue_well_formed owner queue h formed, ?_⟩
  rw [enqueue_holding owner queue h formed, if_pos accepted]

theorem in_hands_other (left right : List (Handle × Duty Net System)) (item : Handle)
    (duty : Duty Net System) (next : Option (Duty Net System)) (h : Handle) (apart : h ≠ item) :
    InHands (left ++ holds item next ++ right) h ↔ InHands (left ++ (item, duty) :: right) h := by
  have elsewhere : ∀ one, (h, one) ∉ holds item next := by
    intro one held
    cases next with
    | none => cases held
    | some other =>
        have same := List.mem_singleton.mp held
        exact apart (congrArg Prod.fst same)
  constructor
  · rintro ⟨one, held⟩
    refine ⟨one, ?_⟩
    simp only [List.mem_append] at held
    rcases held with (held | held) | held
    · exact List.mem_append_left _ held
    · exact absurd held (elsewhere one)
    · exact List.mem_append_right _ (List.mem_cons_of_mem _ held)
  · rintro ⟨one, held⟩
    refine ⟨one, ?_⟩
    simp only [List.mem_append]
    rcases List.mem_append.mp held with held | held
    · exact Or.inl (Or.inl held)
    · rcases List.mem_cons.mp held with same | held
      · exact absurd (congrArg Prod.fst same) apart
      · exact Or.inr held

theorem recv_passes (networkType : NetworkType) (msgId : MsgId)
    (notPing : ¬(isTcp networkType = true ∧ msgId = .miPing)) :
    (recv networkType msgId : Option (Duty Net System)) ≠ none := by
  unfold recv
  split
  · exact Option.some_ne_none _
  · split
    · exact Option.some_ne_none _
    · exact Option.some_ne_none _

theorem send_packet_passes (c : Setting Net System) (p : Process Net System) (packet : Packet)
    (passed : PassedOn c p packet .sendPacket) : sendPacket p packet ≠ none := by
  unfold sendPacket
  split
  · exact Option.some_ne_none _
  · rename_i addressed
    rcases passed with noSocket | noType | found
    · exact absurd (Or.inl noSocket) addressed
    · exact absurd (Or.inr noType) addressed
    · exact Option.map_eq_none_iff.not.mpr found

theorem send_packet_app_passes (c : Setting Net System) (p : Process Net System) (packet : Packet)
    (appType : AppType) (appId : UInt64) (passed : PassedOn c p packet (.sendPacketApp appType appId)) :
    (sendPacketApp c p packet appType appId).2 ≠ none ∧
      (sendPacketApp c p packet appType appId).1.ref = packet.ref := by
  unfold sendPacketApp
  split
  · exact ⟨Option.some_ne_none _, rfl⟩
  · rename_i foreign
    dsimp only
    rw [if_neg (passed.resolve_left foreign)]
    exact ⟨Option.some_ne_none _, rfl⟩

theorem on_network_update_frees (tagKey : Option TagKey) (packet : Packet) :
    onNetworkUpdate tagKey packet = freeObject packet := by
  unfold onNetworkUpdate
  cases tagKey with
  | none => rfl
  | some tags => exact ite_self _

theorem created_uncounted (c : Setting Net System) (p : Process Net System)
    (source : Source Net System) (packet : Packet) (duty : Duty Net System)
    (new : create c p source = some (packet, duty)) : packet.ref = 0 := by
  cases source with
  | recv network socket tagKey msgId => cases new; rfl
  | dispatchPacket msgId identify => cases new; rfl
  | sendPacket msgId identify => cases new; rfl
  | sendPacketApp msgId tagKey appType appId =>
      simp only [create] at new
      split at new
      · cases new
        rfl
      · split at new
        · cases new
        · cases new
          rfl
  | copyPacketToWorld msgId tagKey appType appId => cases new; rfl
  | sendPacketToAllApp msgId one => cases new; rfl
  | sendHttpResponse identify =>
      obtain ⟨network, _, same⟩ := Option.map_eq_some_iff.mp new
      cases same
      rfl
  | createComponent threadType isToAllThread => cases new; rfl
  | addPacketToList system msgId identify => cases new; rfl

theorem distribution_found (c : Setting Net System) (p : Process Net System) (h : Handle)
    (loop : Loop) (followed : Followed c p (.loop loop (.handOver h))) :
    (distribution c p (p.packets h) loop).1 ≠ none := by
  cases loop with
  | updateDispatchPacket => exact Option.some_ne_none _
  | updateCreatePacket =>
      by_cases none : p.threads = []
      · simp only [distribution, if_pos none]
        exact Option.some_ne_none _
      · have found : (p.threads.lookup (p.packets h).threadType).isSome := followed.resolve_left none
        obtain ⟨collector, named⟩ := Option.isSome_iff_exists.mp found
        simp only [distribution, if_neg none, named]
        exact Option.some_ne_none _

section Turns

variable (queues : Loop → DrainQueue Handle) (loop : Loop) (queue : DrainQueue Handle)
  (targets after : Option (List System))

theorem other_cases (one : Loop) : one = loop ∨ one = other loop := by
  cases one <;> cases loop <;> decide

theorem other_differs : other loop ≠ loop := by
  cases loop <;> decide

theorem other_other : other (other loop) = loop := by
  cases loop <;> rfl

theorem in_turn_update
    (alone : (queues (other loop)).phase = .idle ∨ queue.phase = .idle)
    (planned : ∀ h, inBody queue = some h → after ≠ none)
    (elsewhere : ∀ h, inBody (queues (other loop)) = some h → after ≠ none) :
    InTurn (Function.update queues loop queue) after := by
  constructor
  · intro one busy
    rcases other_cases loop one with rfl | rfl
    · rw [Function.update_self] at busy
      rw [Function.update_of_ne (other_differs one)]
      exact alone.resolve_right busy
    · rw [Function.update_of_ne (other_differs loop)] at busy
      rw [other_other, Function.update_self]
      exact alone.resolve_left busy
  · intro one h body
    rcases other_cases loop one with rfl | rfl
    · rw [Function.update_self] at body
      exact planned h body
    · rw [Function.update_of_ne (other_differs loop)] at body
      exact elsewhere h body

theorem idle_no_body (idle : queue.phase = .idle) : inBody queue = none := by
  rw [inBody, idle]

theorem in_turn_moved (turn : InTurn queues targets) (busy : (queues loop).phase ≠ .idle)
    (planned : ∀ h, inBody queue = some h → after ≠ none) :
    InTurn (Function.update queues loop queue) after := by
  have rests := turn.single loop busy
  refine in_turn_update queues loop queue after (Or.inl rests) planned ?_
  intro h body
  rw [idle_no_body _ rests] at body
  cases body

theorem in_turn_enqueue (h : Handle) (formed : WellFormed (queues loop))
    (turn : InTurn queues targets) :
    InTurn (Function.update queues loop (enqueue threadMgr (queues loop) h)) targets := by
  have phase : (enqueue threadMgr (queues loop) h).phase = (queues loop).phase := rfl
  have body : inBody (enqueue threadMgr (queues loop) h) = inBody (queues loop) := by
    have reader := emplace_reader (queues loop).caches h formed.apart
    simp only [inBody, phase]
    cases (queues loop).phase with
    | idle => rfl
    | head iter => rfl
    | body iter =>
        change (getReaderCache (emplaceBack (queues loop).caches h))[iter]? = _
        rw [reader]
  refine in_turn_update queues loop _ targets ?_ ?_ (turn.planned (other loop))
  · by_cases idle : (queues loop).phase = .idle
    · exact Or.inr idle
    · exact Or.inl (turn.single loop idle)
  · intro one work
    rw [body] at work
    exact turn.planned loop one work

end Turns

variable [Fintype System]

theorem sound_silent (before after : Process Net System) (sound : Sound before)
    (loops : ∀ loop, WellFormed (after.queues loop))
    (networks : ∀ network, WellFormed (after.sendMsgList network))
    (systems : ∀ system, WellFormed (after.cachePackets system))
    (made : after.made = before.made) (packets : after.packets = before.packets)
    (carried : ∀ h, Carried after h ↔ Carried before h)
    (queued : ∀ h, InQueues after.cachePackets h ↔ InQueues before.cachePackets h)
    (counts : ∀ h, references after.cachePackets h = references before.cachePackets h) :
    Sound after := by
  refine ⟨loops, networks, systems, ?_, ?_, ?_⟩
  · intro h placed
    rw [made]
    rw [carried, queued] at placed
    exact sound.known h placed
  · intro h member
    rw [made] at member
    rw [packets, counts]
    exact sound.counted h member
  · intro h member
    rw [made] at member
    rw [packets, carried]
    exact sound.kept h member

theorem sound_moved (before after : Process Net System) (item : Handle) (sound : Sound before)
    (loops : ∀ loop, WellFormed (after.queues loop))
    (networks : ∀ network, WellFormed (after.sendMsgList network))
    (systems : ∀ system, WellFormed (after.cachePackets system))
    (made : after.made = before.made) (member : item ∈ before.made)
    (packets : ∀ h, h ≠ item → after.packets h = before.packets h)
    (carried : ∀ h, h ≠ item → (Carried after h ↔ Carried before h))
    (queued : ∀ h, h ≠ item → (InQueues after.cachePackets h ↔ InQueues before.cachePackets h))
    (counts : ∀ h, h ≠ item →
      references after.cachePackets h = references before.cachePackets h)
    (count : (after.packets item).ref = references after.cachePackets item)
    (self : Carried after item ∨ (after.packets item).freed = true ∨
      (after.packets item).isRefOpen = true) : Sound after := by
  refine ⟨loops, networks, systems, ?_, ?_, ?_⟩
  · intro h placed
    rw [made]
    by_cases same : h = item
    · rw [same]
      exact member
    · rw [carried h same, queued h same] at placed
      exact sound.known h placed
  · intro h held
    rw [made] at held
    by_cases same : h = item
    · rw [same]
      exact count
    · rw [packets h same, counts h same]
      exact sound.counted h held
  · intro h held
    rw [made] at held
    by_cases same : h = item
    · rw [same]
      exact self
    · rw [packets h same, carried h same]
      exact sound.kept h held

section Hands

variable (p : Process Net System) (h : Handle) (duty : Duty Net System)
  (left right : List (Handle × Duty Net System))

theorem held_known (sound : Sound p) (hands : p.hands = left ++ (h, duty) :: right) : h ∈ p.made := by
  apply sound.known
  refine Or.inl (Or.inl ⟨duty, ?_⟩)
  rw [hands]
  exact List.mem_append_right left List.mem_cons_self

theorem sound_handed (packet : Packet) (next : Option (Duty Net System)) (sound : Sound p)
    (hands : p.hands = left ++ (h, duty) :: right) (ref : packet.ref = (p.packets h).ref)
    (self : next ≠ none ∨ packet.freed = true ∨ packet.isRefOpen = true) :
    Sound { setPacket p h packet with hands := left ++ holds h next ++ right } := by
  have member := held_known p h duty left right sound hands
  refine sound_moved p _ h sound sound.loops sound.networks sound.systems rfl member ?_ ?_ ?_ ?_ ?_ ?_
  · intro other apart
    exact Function.update_of_ne apart _ _
  · intro other apart
    unfold Carried
    rw [in_hands_other left right h duty next other apart, ← hands]
    rfl
  · exact fun _ _ => Iff.rfl
  · exact fun _ _ => rfl
  · simp only [setPacket, Function.update_self]
    rw [ref]
    exact sound.counted h member
  · rcases self with passed | marked
    · obtain ⟨one, named⟩ := Option.ne_none_iff_exists'.mp passed
      rw [named]
      exact Or.inl (Or.inl ⟨one, List.mem_append_left _ (List.mem_append_right _ List.mem_cons_self)⟩)
    · simp only [setPacket, Function.update_self]
      exact Or.inr marked

theorem sound_kept (next : Duty Net System) (sound : Sound p)
    (hands : p.hands = left ++ (h, duty) :: right) :
    Sound { p with hands := left ++ holds h (some next) ++ right } := by
  have handed := sound_handed p h duty left right (p.packets h) (some next) sound hands rfl
    (Or.inl (Option.some_ne_none next))
  simp only [setPacket, Function.update_eq_self] at handed
  exact handed

theorem sound_to_loop (loop : Loop) (sound : Sound p)
    (hands : p.hands = left ++ (h, duty) :: right) :
    Sound { toLoop p loop h with hands := left ++ holds h none ++ right } := by
  have member := held_known p h duty left right sound hands
  obtain ⟨formed, joined⟩ := enqueue_spec threadMgr (p.queues loop) h (sound.loops loop) rfl
  refine sound_moved p _ h sound (queues_formed _ _ _ sound.loops formed) sound.networks
    sound.systems rfl member (fun _ _ => rfl) ?_ (fun _ _ => Iff.rfl) (fun _ _ => rfl)
    (sound.counted h member) ?_
  · intro other apart
    simp only [Carried, toLoop]
    rw [in_hands_other left right h duty none other apart, ← hands,
      in_queues_joined p.queues loop _ h joined other apart]
  · refine Or.inl (Or.inr (Or.inl ?_))
    apply in_queues_self p.queues loop
    rw [joined]
    exact List.mem_append_right _ List.mem_cons_self

end Hands

theorem sound_loop (p : Process Net System) (loop : Loop) (queue : DrainQueue Handle)
    (targets : Option (List System)) (threads : Threads System) (sound : Sound p)
    (formed : WellFormed queue) (same : holding queue = holding (p.queues loop)) :
    Sound { p with
      queues := Function.update p.queues loop queue, targets := targets, threads := threads } := by
  refine sound_silent p _ sound (queues_formed _ _ _ sound.loops formed) sound.networks
    sound.systems rfl rfl ?_ (fun _ => Iff.rfl) (fun _ => rfl)
  intro h
  simp only [Carried]
  rw [in_queues_same p.queues loop queue same h]

theorem sound_loop_open (p : Process Net System) (loop : Loop) (h : Handle)
    (queue : DrainQueue Handle) (targets : Option (List System)) (sound : Sound p)
    (formed : WellFormed queue) (left : holding (p.queues loop) = h :: holding queue) :
    Sound { setPacket p h (openRef (p.packets h)) with
      queues := Function.update p.queues loop queue, targets := targets } := by
  have queued : h ∈ holding (p.queues loop) := by
    rw [left]
    exact List.mem_cons_self
  have member := sound.known h (Or.inl (Or.inr (Or.inl ⟨loop, queued⟩)))
  refine sound_moved p _ h sound (queues_formed _ _ _ sound.loops formed) sound.networks
    sound.systems rfl member ?_ ?_ (fun _ _ => Iff.rfl) (fun _ _ => rfl) ?_ ?_
  · intro other apart
    exact Function.update_of_ne apart _ _
  · intro other apart
    simp only [Carried, setPacket]
    rw [in_queues_left p.queues loop queue h left other apart]
  · simp only [setPacket, Function.update_self]
    exact sound.counted h member
  · simp only [setPacket, Function.update_self]
    exact Or.inr (Or.inr rfl)

theorem sound_pool_update (p : Process Net System) (h : Handle) (sound : Sound p)
    (member : h ∈ p.made) : Sound (setPacket p h (freeObject (p.packets h))) := by
  refine sound_moved p _ h sound sound.loops sound.networks sound.systems rfl member ?_
    (fun _ _ => Iff.rfl) (fun _ _ => Iff.rfl) (fun _ _ => rfl) ?_ ?_
  · intro other apart
    exact Function.update_of_ne apart _ _
  · simp only [setPacket, Function.update_self]
    exact sound.counted h member
  · simp only [setPacket, Function.update_self]
    exact Or.inr (Or.inl rfl)

theorem sound_create (c : Setting Net System) (p : Process Net System) (source : Source Net System)
    (h : Handle) (packet : Packet) (duty : Duty Net System) (sound : Sound p)
    (new : create c p source = some (packet, duty)) (fresh : h ∉ p.made) :
    Sound { setPacket p h packet with made := h :: p.made, hands := (h, duty) :: p.hands } := by
  have absent : ∀ system, h ∉ holding (p.cachePackets system) := fun system queued =>
    fresh (sound.known h (Or.inr ⟨system, queued⟩))
  have apart : ∀ other ∈ p.made, other ≠ h := by
    rintro other member rfl
    exact fresh member
  have inHands : ∀ other, InHands ((h, duty) :: p.hands) other ↔ other = h ∨ InHands p.hands other := by
    intro other
    constructor
    · rintro ⟨one, held⟩
      rcases List.mem_cons.mp held with same | held
      · exact Or.inl (congrArg Prod.fst same)
      · exact Or.inr ⟨one, held⟩
    · rintro (rfl | ⟨one, held⟩)
      · exact ⟨duty, List.mem_cons_self⟩
      · exact ⟨one, List.mem_cons_of_mem _ held⟩
  refine ⟨sound.loops, sound.networks, sound.systems, ?_, ?_, ?_⟩
  · rintro other ((held | elsewhere) | queued)
    · rcases (inHands other).mp held with rfl | held
      · exact List.mem_cons_self
      · exact List.mem_cons_of_mem _ (sound.known other (Or.inl (Or.inl held)))
    · exact List.mem_cons_of_mem _ (sound.known other (Or.inl (Or.inr elsewhere)))
    · exact List.mem_cons_of_mem _ (sound.known other (Or.inr queued))
  · intro other member
    rcases List.mem_cons.mp member with rfl | member
    · simp only [setPacket, Function.update_self]
      rw [created_uncounted c p source packet duty new,
        PacketLife.references_zero p.cachePackets other absent]
      rfl
    · simp only [setPacket, Function.update_of_ne (apart other member)]
      exact sound.counted other member
  · intro other member
    rcases List.mem_cons.mp member with rfl | member
    · exact Or.inl (Or.inl ((inHands other).mpr (Or.inl rfl)))
    · simp only [setPacket, Function.update_of_ne (apart other member)]
      rcases sound.kept other member with (held | elsewhere) | marked
      · exact Or.inl (Or.inl ((inHands other).mpr (Or.inr held)))
      · exact Or.inl (Or.inr elsewhere)
      · exact Or.inr marked

def Good (p : Process Net System) : Prop := Sound p ∧ InTurn p.queues p.targets

theorem start_good (threads : Threads System) : Good (start threads : Process Net System) := by
  have empty : ∀ {Place : Type} (h : Handle), ¬InQueues (fun _ : Place => newQueue) h := by
    rintro Place h ⟨place, queued⟩
    cases queued
  refine ⟨⟨fun _ => new_well_formed, fun _ => new_well_formed, fun _ => new_well_formed, ?_, ?_, ?_⟩,
    ?_, ?_⟩
  · rintro h ((⟨duty, held⟩ | queued | sending) | queued)
    · cases held
    · exact absurd queued (empty h)
    · exact absurd sending (empty h)
    · exact absurd queued (empty h)
  · intro h member
    cases member
  · intro h member
    cases member
  · intro loop busy
    exact absurd rfl busy
  · intro loop h body
    cases body

section Networks

variable [DecidableEq Net]

theorem sound_network_send (c : Setting Net System) (p : Process Net System) (h : Handle)
    (duty : Duty Net System) (left right : List (Handle × Duty Net System)) (network : Net)
    (sound : Sound p)
    (hands : p.hands = left ++ (h, duty) :: right)
    (accepted : (p.packets h).socketKey.netType = c.typeOf network) :
    Sound { networkSend c p network h with hands := left ++ holds h none ++ right } := by
  have member := held_known p h duty left right sound hands
  obtain ⟨formed, joined⟩ := enqueue_spec
    (CacheSwap.network (fun item => (p.packets item).socketKey.netType) (c.typeOf network))
    (p.sendMsgList network) h (sound.networks network) (decide_eq_true accepted)
  refine sound_moved p _ h sound sound.loops (queues_formed _ _ _ sound.networks formed)
    sound.systems rfl member (fun _ _ => rfl) ?_ (fun _ _ => Iff.rfl) (fun _ _ => rfl)
    (sound.counted h member) ?_
  · intro other apart
    simp only [Carried, networkSend]
    rw [in_hands_other left right h duty none other apart, ← hands,
      in_queues_joined p.sendMsgList network _ h joined other apart]
  · refine Or.inl (Or.inr (Or.inr ?_))
    apply in_queues_self p.sendMsgList network
    rw [joined]
    exact List.mem_append_right _ List.mem_cons_self

theorem sound_network (p : Process Net System) (network : Net) (queue : DrainQueue Handle)
    (sound : Sound p) (formed : WellFormed queue)
    (same : holding queue = holding (p.sendMsgList network)) :
    Sound { p with sendMsgList := Function.update p.sendMsgList network queue } := by
  refine sound_silent p _ sound sound.loops (queues_formed _ _ _ sound.networks formed)
    sound.systems rfl rfl ?_ (fun _ => Iff.rfl) (fun _ => rfl)
  intro h
  simp only [Carried]
  rw [in_queues_same p.sendMsgList network queue same h]

theorem sound_network_deliver (p : Process Net System) (network : Net) (h : Handle)
    (tagKey : Option TagKey) (queue : DrainQueue Handle) (sound : Sound p)
    (formed : WellFormed queue) (left : holding (p.sendMsgList network) = h :: holding queue) :
    Sound { setPacket p h (onNetworkUpdate tagKey (p.packets h)) with
      sendMsgList := Function.update p.sendMsgList network queue } := by
  have queued : h ∈ holding (p.sendMsgList network) := by
    rw [left]
    exact List.mem_cons_self
  have member := sound.known h (Or.inl (Or.inr (Or.inr ⟨network, queued⟩)))
  rw [on_network_update_frees]
  refine sound_moved p _ h sound sound.loops (queues_formed _ _ _ sound.networks formed)
    sound.systems rfl member ?_ ?_ (fun _ _ => Iff.rfl) (fun _ _ => rfl) ?_ ?_
  · intro other apart
    exact Function.update_of_ne apart _ _
  · intro other apart
    simp only [Carried, setPacket]
    rw [in_queues_left p.sendMsgList network queue h left other apart]
  · simp only [setPacket, Function.update_self]
    exact sound.counted h member
  · simp only [setPacket, Function.update_self]
    exact Or.inr (Or.inl rfl)

theorem sound_network_back_to_pool (p : Process Net System) (network : Net) (sound : Sound p)
    (empty : holding (p.sendMsgList network) = []) :
    Sound { p with
      packets := fun h =>
        if h ∈ holding (p.sendMsgList network) then backToPool (p.packets h) else p.packets h
      sendMsgList := Function.update p.sendMsgList network newQueue } := by
  have untouched : (fun h => if h ∈ holding (p.sendMsgList network) then backToPool (p.packets h)
      else p.packets h) = p.packets := by
    funext h
    rw [empty]
    exact if_neg List.not_mem_nil
  rw [untouched]
  exact sound_network p network newQueue sound new_well_formed empty.symm

end Networks

variable [DecidableEq System]

theorem references_same (queues : System → DrainQueue Handle) (system : System)
    (queue : DrainQueue Handle) (same : holding queue = holding (queues system)) (h : Handle) :
    references (Function.update queues system queue) h = references queues h := by
  have update := PacketLife.references_update queues system queue h
  rw [same] at update
  exact Nat.add_right_cancel update

/-- `AddPacketToList` counts the packet where it is queued; who puts it there
still has it. -/
theorem sound_add (p : Process Net System) (system : System) (h : Handle) (sound : Sound p)
    (carried : Carried p h) : Sound (addPacketToList p system h) := by
  have member := sound.known h (Or.inl carried)
  obtain ⟨formed, joined⟩ := enqueue_spec messageSystem (p.cachePackets system) h
    (sound.systems system) rfl
  refine sound_moved p _ h sound sound.loops sound.networks
    (queues_formed _ _ _ sound.systems formed) rfl member ?_ (fun _ _ => Iff.rfl) ?_ ?_ ?_
    (Or.inl carried)
  · intro other apart
    exact Function.update_of_ne apart _ _
  · intro other apart
    exact in_queues_joined p.cachePackets system _ h joined other apart
  · intro other apart
    exact PacketLife.references_other p.cachePackets system _ apart (Or.inl joined)
  · have update := PacketLife.references_update p.cachePackets system
      (enqueue messageSystem (p.cachePackets system) h) h
    rw [joined, List.count_append, List.count_singleton_self] at update
    have counted := sound.counted h member
    simp only [addPacketToList, Function.update_self, addRef]
    omega

theorem sound_system (p : Process Net System) (system : System) (queue : DrainQueue Handle)
    (sound : Sound p) (formed : WellFormed queue)
    (same : holding queue = holding (p.cachePackets system)) :
    Sound { p with cachePackets := Function.update p.cachePackets system queue } :=
  sound_silent p _ sound sound.loops sound.networks (queues_formed _ _ _ sound.systems formed) rfl
    rfl (fun _ => Iff.rfl) (in_queues_same p.cachePackets system queue same)
    (references_same p.cachePackets system queue same)

theorem sound_system_leave (p : Process Net System) (system : System) (h : Handle)
    (queue : DrainQueue Handle) (sound : Sound p) (formed : WellFormed queue)
    (left : holding (p.cachePackets system) = h :: holding queue) :
    Sound { setPacket p h (removeRef (p.packets h)) with
      cachePackets := Function.update p.cachePackets system queue } := by
  have queued : h ∈ holding (p.cachePackets system) := by
    rw [left]
    exact List.mem_cons_self
  have member := sound.known h (Or.inr ⟨system, queued⟩)
  refine sound_moved p _ h sound sound.loops sound.networks
    (queues_formed _ _ _ sound.systems formed) rfl member ?_ (fun _ _ => Iff.rfl) ?_ ?_ ?_ ?_
  · intro other apart
    exact Function.update_of_ne apart _ _
  · intro other apart
    exact in_queues_left p.cachePackets system queue h left other apart
  · intro other apart
    exact PacketLife.references_other p.cachePackets system queue apart (Or.inr left)
  · have update := PacketLife.references_update p.cachePackets system queue h
    rw [left, List.count_cons_self] at update
    have counted := sound.counted h member
    simp only [setPacket, Function.update_self, removeRef]
    omega
  · simp only [setPacket, Function.update_self]
    exact sound.kept h member

variable [DecidableEq Net]

theorem sound_perform (c : Setting Net System) (p : Process Net System) (h : Handle)
    (duty : Duty Net System) (left right : List (Handle × Duty Net System)) (sound : Sound p)
    (hands : p.hands = left ++ (h, duty) :: right) (passed : PassedOn c p (p.packets h) duty) :
    Sound { (perform c p h duty).1 with hands := left ++ holds h (perform c p h duty).2 ++ right } := by
  -- a duty that only asks where to go on
  have goes : ∀ next : Option (Duty Net System), next ≠ none →
      Sound { p with hands := left ++ holds h next ++ right } := by
    intro next known
    obtain ⟨one, rfl⟩ := Option.ne_none_iff_exists'.mp known
    exact sound_kept p h duty left right one sound hands
  cases duty with
  | received network => exact goes _ (recv_passes _ _ passed)
  | sendPacket => exact goes _ (send_packet_passes c p _ passed)
  | sendToAllApp => exact goes _ (Option.map_eq_none_iff.not.mpr passed)
  | sendPacketApp appType appId =>
      obtain ⟨next, ref⟩ := send_packet_app_passes c p (p.packets h) appType appId passed
      exact sound_handed p h _ left right _ _ sound hands ref (Or.inl next)
  | freeObject =>
      exact sound_handed p h _ left right (freeObject (p.packets h)) none sound hands rfl
        (Or.inr (Or.inl rfl))
  | openRef =>
      exact sound_handed p h _ left right (openRef (p.packets h)) none sound hands rfl
        (Or.inr (Or.inr rfl))
  | dispatchPacket => exact sound_to_loop p h _ left right .updateDispatchPacket sound hands
  | createPacket => exact sound_to_loop p h _ left right .updateCreatePacket sound hands
  | networkSend network => exact sound_network_send c p h _ left right network sound hands passed
  | addPacketToList system =>
      have carried : Carried p h := by
        refine Or.inl ⟨.addPacketToList system, ?_⟩
        rw [hands]
        exact List.mem_append_right left List.mem_cons_self
      have added := sound_add p system h sound carried
      exact sound_kept _ h _ left right .openRef added hands

theorem perform_turn (c : Setting Net System) (p : Process Net System) (h : Handle)
    (duty : Duty Net System) (sound : Sound p) (turn : InTurn p.queues p.targets) :
    InTurn (perform c p h duty).1.queues (perform c p h duty).1.targets := by
  cases duty with
  | dispatchPacket => exact in_turn_enqueue p.queues _ p.targets h (sound.loops _) turn
  | createPacket => exact in_turn_enqueue p.queues _ p.targets h (sound.loops _) turn
  | received network => exact turn
  | freeObject => exact turn
  | sendPacket => exact turn
  | sendPacketApp appType appId => exact turn
  | sendToAllApp => exact turn
  | networkSend network => exact turn
  | addPacketToList system => exact turn
  | openRef => exact turn

theorem next_busy (owner : Owner Handle) (queue after : DrainQueue Handle)
    (formed : WellFormed queue) (step : QueueStep owner queue .next after) :
    queue.phase ≠ .idle ∧ (∃ h, inBody queue = some h) ∧ inBody after = none := by
  cases step with
  | next iter inside =>
      refine ⟨by rw [inside]; nofun, ?_, rfl⟩
      have within := formed.body iter inside
      refine ⟨(getReaderCache queue.caches)[iter], ?_⟩
      rw [inBody, inside]
      exact List.getElem?_eq_getElem within

theorem good_step (c : Setting Net System) (before : Process Net System) (event : Event Net System)
    (after : Process Net System) (good : Good before)
    (taken : Guarded (Step c) (Followed c) before event after) : Good after := by
  obtain ⟨step, followed⟩ := taken
  obtain ⟨sound, turn⟩ := good
  cases step with
  | create source h packet duty new fresh =>
      exact ⟨sound_create c before source h packet duty sound new fresh, turn⟩
  | perform h duty left right hands =>
      exact ⟨sound_perform c before h duty left right sound hands followed,
        perform_turn c before h duty sound turn⟩
  | loopBegin loop queue rests moved =>
      obtain ⟨formed, same⟩ := turns_spec threadMgr _ _ _ (sound.loops loop) rfl moved
      refine ⟨sound_loop before loop queue _ _ sound formed same, ?_⟩
      refine in_turn_update before.queues loop queue before.targets (Or.inl rests) ?_
        (turn.planned (other loop))
      intro h body
      cases moved with
      | beginDrain outside =>
          rcases begin_drain_phase threadMgr (before.queues loop) with started | ⟨returned, _⟩
          · rw [inBody, started] at body
            cases body
          · rw [inBody, returned] at body
            cases body
  | loopHandOver loop h queue moved =>
      obtain ⟨formed, same⟩ := turns_spec threadMgr _ _ _ (sound.loops loop) rfl moved
      refine ⟨sound_loop before loop queue _ _ sound formed same, ?_⟩
      have busy : (before.queues loop).phase ≠ .idle := by
        cases moved with
        | handOver iter _ test stored =>
            intro idle
            rw [test] at idle
            cases idle
      exact in_turn_moved before.queues loop queue before.targets _ turn busy
        fun _ _ => distribution_found c before h loop followed
  | distribute loop h system rest body targets =>
      have queued : h ∈ holding (before.queues loop) := by
        rw [holding, body]
        exact List.mem_cons_self
      have added := sound_add before system h sound (Or.inr (Or.inl ⟨loop, queued⟩))
      refine ⟨⟨added.loops, added.networks, added.systems, added.known, added.counted, added.kept⟩,
        turn.single, fun _ _ _ => Option.some_ne_none rest⟩
  | loopOpen loop h queue body targets moved =>
      obtain ⟨formed, left⟩ := next_spec threadMgr _ _ h (sound.loops loop) body moved
      obtain ⟨busy, -, done⟩ := next_busy threadMgr _ _ (sound.loops loop) moved
      refine ⟨sound_loop_open before loop h queue none sound formed left, ?_⟩
      refine in_turn_moved before.queues loop queue before.targets none turn busy ?_
      intro one work
      rw [done] at work
      cases work
  | skip loop queue unplanned moved =>
      obtain ⟨-, ⟨h, body⟩, -⟩ := next_busy threadMgr _ _ (sound.loops loop) moved
      exact absurd unplanned (turn.planned loop h body)
  | loopClear loop queue moved =>
      obtain ⟨formed, same⟩ := turns_spec threadMgr _ _ _ (sound.loops loop) rfl moved
      refine ⟨sound_loop before loop queue _ _ sound formed same, ?_⟩
      cases moved with
      | clear iter test finished =>
          refine in_turn_update before.queues loop _ before.targets (Or.inr rfl) ?_
            (turn.planned (other loop))
          intro h body
          cases body
  | systemTurn system act queue turning moved =>
      obtain ⟨formed, same⟩ := turns_spec messageSystem _ _ act (sound.systems system) turning moved
      exact ⟨sound_system before system queue sound formed same, turn⟩
  | systemLeave system h queue body moved =>
      obtain ⟨formed, left⟩ := next_spec messageSystem _ _ h (sound.systems system) body moved
      exact ⟨sound_system_leave before system h queue sound formed left, turn⟩
  | networkTurn network act queue turning moved =>
      obtain ⟨formed, same⟩ := turns_spec threadMgr _ _ act (sound.networks network) turning moved
      exact ⟨sound_network before network queue sound formed same, turn⟩
  | networkDeliver network h tagKey queue body moved =>
      obtain ⟨formed, left⟩ := next_spec threadMgr _ _ h (sound.networks network) body moved
      exact ⟨sound_network_deliver before network h tagKey queue sound formed left, turn⟩
  | networkBackToPool network idle =>
      exact ⟨sound_network_back_to_pool before network sound followed, turn⟩
  | poolUpdate h member ready => exact ⟨sound_pool_update before h sound member, turn⟩
  | locator networks netIdentify =>
      exact ⟨⟨sound.loops, sound.networks, sound.systems, sound.known, sound.counted, sound.kept⟩,
        turn⟩
  | createThread threadType collector =>
      exact ⟨⟨sound.loops, sound.networks, sound.systems, sound.known, sound.counted, sound.kept⟩,
        turn⟩

/-- While every function passes on the packet it has, each packet made is
processed, waits in a list or will be released, in every state. -/
theorem no_packet_leaks (c : Setting Net System) (threads : Threads System)
    (events : List (Event Net System)) (p : Process Net System)
    (run : Run (Guarded (Step c) (Followed c)) (start threads) events p) :
    Run (Along (Step c) NoLeak) (start threads) events p :=
  along_of_guarded Good (good_step c) (fun state good => sound_no_leak state good.1) run
    (start_good threads)

/-- A login process: a main thread and a listening thread with one network. -/
def login : Setting Unit Bool := ⟨bits .login, fun _ => .tcpListen, false⟩

def listening : Threads Bool := [(.listenThread, ⟨[true], by decide, 0, false⟩)]

/-- A C2L_AccountCheck from its connection to the main thread, and back to the pool. -/
theorem no_packet_leaks_received :
    ∃ p, Run (Along (Step login) NoLeak) (start listening)
      [.create (.recv () 5 clear .c2lAccountCheck) ⟨0, 1⟩, .perform ⟨0, 1⟩ (.received ()),
        .perform ⟨0, 1⟩ .dispatchPacket, .loop .updateDispatchPacket .beginDrain,
        .loop .updateDispatchPacket (.handOver ⟨0, 1⟩), .distribute .updateDispatchPacket,
        .distribute .updateDispatchPacket, .loop .updateDispatchPacket .next,
        .system false .beginDrain, .system false (.handOver ⟨0, 1⟩), .system false .next,
        .system true .beginDrain, .system true (.handOver ⟨0, 1⟩), .system true .next,
        .poolUpdate ⟨0, 1⟩] p ∧
      (p.packets ⟨0, 1⟩).freed = true := by
  refine ⟨_, no_packet_leaks login listening _ _
    (.next ⟨.create _ _ _ _ _ rfl (by decide), trivial⟩ <|
     .next ⟨.perform _ _ _ [] [] rfl, ?_⟩ <|
     .next ⟨.perform _ _ _ [] [] rfl, trivial⟩ <|
     .next ⟨.loopBegin _ _ _ rfl (.beginDrain _ rfl), trivial⟩ <|
     .next ⟨.loopHandOver _ _ _ _ (.handOver _ 0 _ rfl rfl), trivial⟩ <|
     .next ⟨.distribute _ _ ⟨0, 1⟩ false [true] rfl rfl, trivial⟩ <|
     .next ⟨.distribute _ _ ⟨0, 1⟩ true [] rfl rfl, trivial⟩ <|
     .next ⟨.loopOpen _ _ ⟨0, 1⟩ _ rfl rfl (.next _ 0 rfl), trivial⟩ <|
     .next ⟨.systemTurn _ _ _ _ rfl (.beginDrain _ rfl), trivial⟩ <|
     .next ⟨.systemTurn _ _ _ _ rfl (.handOver _ 0 _ rfl rfl), trivial⟩ <|
     .next ⟨.systemLeave _ _ ⟨0, 1⟩ _ rfl (.next _ 0 rfl), trivial⟩ <|
     .next ⟨.systemTurn _ _ _ _ rfl (.beginDrain _ rfl), trivial⟩ <|
     .next ⟨.systemTurn _ _ _ _ rfl (.handOver _ 0 _ rfl rfl), trivial⟩ <|
     .next ⟨.systemLeave _ _ ⟨0, 1⟩ _ rfl (.next _ 0 rfl), trivial⟩ <|
     .next ⟨.poolUpdate _ _ (by decide) (by decide), trivial⟩ (.refl _)), by decide⟩
  rintro ⟨_, ping⟩
  cases ping

/-- A heartbeat on a tcp connection is forgotten. -/
theorem received_ping_leaks :
    ¬∀ (c : Setting Unit Bool) (threads : Threads Bool) (events : List (Event Unit Bool))
      (p : Process Unit Bool), Run (Step c) (start threads) events p → NoLeak p := by
  intro law
  have run : ∃ p, Run (Step login) (start listening)
      [.create (.recv () 5 clear .miPing) ⟨0, 1⟩, .perform ⟨0, 1⟩ (.received ())] p ∧
      ⟨0, 1⟩ ∈ p.made ∧ p.hands = [] ∧ (∀ loop, holding (p.queues loop) = []) ∧
      (∀ network, holding (p.sendMsgList network) = []) ∧
      (∀ system, holding (p.cachePackets system) = []) ∧
      (p.packets ⟨0, 1⟩).freed = false ∧ (p.packets ⟨0, 1⟩).isRefOpen = false :=
    ⟨_, .next (.create _ _ _ _ _ rfl (by decide)) <| .next (.perform _ _ _ [] [] rfl) (.refl _),
      by decide, rfl, fun _ => rfl, fun _ => rfl, fun _ => rfl, rfl, rfl⟩
  obtain ⟨p, run, made, hands, queues, networks, systems, freed, isOpen⟩ := run
  rcases law _ _ _ p run _ made with (⟨duty, held⟩ | ⟨loop, held⟩ | ⟨network, held⟩ | ⟨system, held⟩) |
    marked | ⟨marked, -⟩
  · rw [hands] at held
    cases held
  · rw [queues] at held
    cases held
  · rw [networks] at held
    cases held
  · rw [systems] at held
    cases held
  · rw [freed] at marked
    cases marked
  · rw [isOpen] at marked
    cases marked

end GameBook.PacketRoutes
