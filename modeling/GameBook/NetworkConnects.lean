import GameBook.CacheSwap
import GameBook.OrderedMap
import GameBook.TcpFraming

/-!
`Network`: its connections by descriptor, the packets that wait to be sent and
the messages that close or tag a connection. The code knows a connection by its
descriptor alone. The number a connection has here, and a packet made for it
carries, is not in the code: it says which of the connections that had the
descriptor is meant.
-/

namespace GameBook.NetworkConnects

open OrderedMap SocketObject CacheSwap

inductive ConnectStateType where
  | none
  | connecting
  | connected
  deriving DecidableEq, Repr

structure Outgoing where
  packet : TcpFraming.Packet
  number : Nat

/-- A connection, with the packets its send buffer was given. -/
structure ConnectObj extends NetIdentify where
  number : Nat
  state : ConnectStateType
  sendBuffer : List Outgoing

/-- MI_NetworkDisconnect of a connection on its way to the pool: its socket key
and its tags. -/
structure Closed extends NetIdentify where
  number : Nat

structure Network where
  networkType : NetworkType
  connects : Table Int ConnectObj
  sockets : Table Int Unit
  sendMsgList : CacheSwap Outgoing

def create (networkType : NetworkType) : Network := ⟨networkType, ∅, ∅, new⟩

def awake (socket : Int) (networkType : NetworkType) (tagType : TagType) (tagValue : TagValue)
    (state : ConnectStateType) (number : Nat) : ConnectObj where
  socketKey := ⟨socket, networkType⟩
  tagKey := if tagType = .none then clear else addTag clear tagType tagValue
  number := number
  state := state
  sendBuffer := []

def backToPool (obj : ConnectObj) : Closed := ⟨obj.toNetIdentify, obj.number⟩

def removeConnectObj (n : Network) (socket : Int) : Network :=
  { n with connects := n.connects.erase socket, sockets := n.sockets.erase socket }

/-- `checked` is the answer of `CheckSocket`. A descriptor that still has its
object costs both connections. -/
def createConnectObj (n : Network) (checked : Bool) (socket : Int) (tagType : TagType)
    (tagValue : TagValue) (state : ConnectStateType) (number : Nat) :
    Bool × Network × List Closed :=
  if checked = false then (false, n, [])
  else
    match n.connects[socket]? with
    | some obj => (false, removeConnectObj n socket, [backToPool obj])
    | none =>
        (true, { n with
          connects := n.connects.insert socket
            (awake socket n.networkType tagType tagValue state number)
          sockets := n.sockets.insert socket () }, [])

def writeBack (n : Network) (socket : Int) (obj : ConnectObj) : Network :=
  { n with connects := n.connects.insert socket obj }

def handleDisconnect (n : Network) (identify : NetIdentify) : Network × List Closed :=
  if identify.socketKey.netType ≠ n.networkType then (n, [])
  else
    match n.connects[identify.socketKey.socket]? with
    | none => (n, [])
    | some obj => (removeConnectObj n identify.socketKey.socket, [backToPool obj])

/-- `HandleListenKey`, of `NetworkListen` only. Following a null pointer is the
result `none`. -/
def handleListenKey (n : Network) (identify : NetIdentify) : Option Network :=
  if identify.socketKey.netType ≠ n.networkType then some n
  else
    match n.sockets[identify.socketKey.socket]? with
    | none => some n
    | some () =>
        (n.connects[identify.socketKey.socket]?).map fun obj =>
          writeBack n identify.socketKey.socket
            { obj with tagKey := copyFrom obj.tagKey identify.tagKey }

def isListen (networkType : NetworkType) : Bool :=
  networkType = .tcpListen ∨ networkType = .httpListen

/-! Sending. -/

def isTagTypeStr (tagType : TagType) : Bool := tagType = .account

/-- `TagKey::CompareTags` for one type: a tag that one side lacks is no difference. -/
def compareTagsOf (a b : TagKey) (tagType : TagType) : Bool :=
  match a tagType, b tagType with
  | some tagValueA, some tagValueB =>
      if isTagTypeStr tagType then tagValueA.keyStr = tagValueB.keyStr
      else tagValueA.keyInt64 = tagValueB.keyInt64
  | _, _ => true

def compareTags (a b : TagKey) : Bool := compareTagsOf a b .account && compareTagsOf a b .app

/-- A packet for another type of network is refused. -/
def sendPacket (n : Network) (item : Outgoing) : Network :=
  if item.packet.socketKey.netType ≠ n.networkType then n
  else { n with sendMsgList := emplaceBack n.sendMsgList item }

inductive Fate where
  | freed
  | written (number : Nat)
  deriving DecidableEq

def deliver (n : Network) (item : Outgoing) : Network × Fate :=
  match n.connects[item.packet.socketKey.socket]? with
  | none => (n, .freed)
  | some obj =>
      if compareTags obj.tagKey item.packet.tagKey then
        (writeBack n item.packet.socketKey.socket
          { obj with sendBuffer := obj.sendBuffer ++ [item] }, .written obj.number)
      else (n, .freed)

def deliverEach : List Outgoing → Network → Network × List (Outgoing × Fate)
  | [], n => (n, [])
  | item :: rest, n =>
      let (next, fate) := deliver n item
      let (done, fates) := deliverEach rest next
      (done, (item, fate) :: fates)

/-- The list is swapped if anything was sent, and cleared when all of it is
delivered. -/
def onNetworkUpdate (n : Network) : Network × List (Outgoing × Fate) :=
  let swapped := { n with sendMsgList := refill n.sendMsgList }
  let (done, fates) := deliverEach (getReaderCache swapped.sendMsgList) swapped
  ({ done with sendMsgList := clearReader done.sendMsgList }, fates)

/-! What the operations do to the connections. -/

/-- An object lies under its own descriptor, and `_sockets` holds the
descriptors that have one. -/
structure Paired (n : Network) : Prop where
  keyed : ∀ (socket : Int) (obj : ConnectObj), n.connects[socket]? = some obj →
    obj.socketKey = ⟨socket, n.networkType⟩
  paired : ∀ socket : Int, n.sockets[socket]? = (n.connects[socket]?).map fun _ => ()

theorem create_paired (networkType : NetworkType) : Paired (create networkType) := by
  constructor
  · intro socket obj held
    simp [create] at held
  · intro socket
    simp [create]

theorem remove_connects (n : Network) (socket other : Int) :
    (removeConnectObj n socket).connects[other]? =
      if other = socket then none else n.connects[other]? :=
  get_erase _ _ _

theorem remove_paired (n : Network) (socket : Int) (paired : Paired n) :
    Paired (removeConnectObj n socket) := by
  constructor
  · intro other obj held
    rw [remove_connects] at held
    split at held
    · cases held
    · exact paired.keyed other obj held
  · intro other
    rw [remove_connects]
    simp only [removeConnectObj, get_erase]
    split
    · rfl
    · exact paired.paired other

theorem store_paired (n : Network) (socket : Int) (obj : ConnectObj) (sockets : Table Int Unit)
    (paired : Paired n) (named : obj.socketKey = ⟨socket, n.networkType⟩)
    (listed : ∀ other : Int, sockets[other]? =
      if other = socket then some () else n.sockets[other]?) :
    Paired { n with connects := n.connects.insert socket obj, sockets := sockets } := by
  constructor
  · intro other held
    simp only [get_insert]
    split
    · rename_i same
      rintro ⟨⟩
      rw [same]
      exact named
    · exact paired.keyed other held
  · intro other
    simp only [get_insert, listed]
    split
    · rfl
    · exact paired.paired other

theorem listed_again (n : Network) (socket : Int) (obj : ConnectObj) (paired : Paired n)
    (held : n.connects[socket]? = some obj) (other : Int) :
    n.sockets[other]? = if other = socket then some () else n.sockets[other]? := by
  split
  · rename_i same
    rw [same, paired.paired, held]
    rfl
  · rfl

/-- What a message can do: nothing, or one change to the object its descriptor
has, and only if it is of the network's own type. -/
theorem handle_disconnect_cases (n : Network) (identify : NetIdentify) :
    handleDisconnect n identify = (n, []) ∨
    ∃ obj, identify.socketKey.netType = n.networkType ∧
      n.connects[identify.socketKey.socket]? = some obj ∧
      handleDisconnect n identify =
        (removeConnectObj n identify.socketKey.socket, [backToPool obj]) := by
  unfold handleDisconnect
  split
  · exact Or.inl rfl
  · rename_i same
    cases found : n.connects[identify.socketKey.socket]? with
    | none => exact Or.inl rfl
    | some obj => exact Or.inr ⟨obj, not_not.mp same, rfl, rfl⟩

theorem handle_listen_key_cases (n after : Network) (identify : NetIdentify)
    (done : handleListenKey n identify = some after) :
    after = n ∨
    ∃ obj, identify.socketKey.netType = n.networkType ∧
      n.connects[identify.socketKey.socket]? = some obj ∧
      after = writeBack n identify.socketKey.socket
        { obj with tagKey := copyFrom obj.tagKey identify.tagKey } := by
  unfold handleListenKey at done
  split at done
  · exact Or.inl (Option.some.inj done).symm
  · rename_i same
    split at done
    · exact Or.inl (Option.some.inj done).symm
    · obtain ⟨obj, held, result⟩ := Option.map_eq_some_iff.mp done
      exact Or.inr ⟨obj, not_not.mp same, held, result.symm⟩

/-! Connections are numbered in the order in which they came. -/

/-- `accepted` has the socket key of every connection so far, by number. -/
structure Numbered (n : Network) (accepted : List SocketKey) : Prop where
  paired : Paired n
  born : ∀ (socket : Int) (obj : ConnectObj), n.connects[socket]? = some obj →
    accepted[obj.number]? = some obj.socketKey
  latest : ∀ (socket : Int) (obj : ConnectObj), n.connects[socket]? = some obj →
    ∀ (number : Nat) (key : SocketKey), accepted[number]? = some key → key.socket = socket →
      number ≤ obj.number

theorem create_numbered (networkType : NetworkType) : Numbered (create networkType) [] where
  paired := create_paired networkType
  born := by
    intro socket obj held
    simp [create] at held
  latest := by
    intro socket obj held
    simp [create] at held

theorem numbered_removed (n : Network) (accepted : List SocketKey) (socket : Int)
    (numbered : Numbered n accepted) : Numbered (removeConnectObj n socket) accepted := by
  have was : ∀ (other : Int) (obj : ConnectObj),
      (removeConnectObj n socket).connects[other]? = some obj → n.connects[other]? = some obj := by
    intro other obj held
    rw [remove_connects] at held
    split at held
    · cases held
    · exact held
  constructor
  · exact remove_paired n socket numbered.paired
  · intro other obj held
    exact numbered.born other obj (was other obj held)
  · intro other obj held
    exact numbered.latest other obj (was other obj held)

theorem numbered_written (n : Network) (accepted : List SocketKey) (socket : Int)
    (obj new : ConnectObj) (numbered : Numbered n accepted)
    (held : n.connects[socket]? = some obj) (number : new.number = obj.number)
    (key : new.socketKey = obj.socketKey) : Numbered (writeBack n socket new) accepted := by
  have was : ∀ (other : Int) (found : ConnectObj),
      (writeBack n socket new).connects[other]? = some found →
      ∃ old, n.connects[other]? = some old ∧ old.number = found.number ∧
        old.socketKey = found.socketKey := by
    intro other found there
    simp only [writeBack, get_insert] at there
    split at there
    · rename_i same
      cases there
      exact ⟨obj, same ▸ held, number.symm, key.symm⟩
    · exact ⟨found, there, rfl, rfl⟩
  constructor
  · exact store_paired n socket new n.sockets numbered.paired
      (key.trans (numbered.paired.keyed socket obj held))
      (listed_again n socket obj numbered.paired held)
  · intro other found there
    obtain ⟨old, before, sameNumber, sameKey⟩ := was other found there
    rw [← sameNumber, ← sameKey]
    exact numbered.born other old before
  · intro other found there
    obtain ⟨old, before, sameNumber, _⟩ := was other found there
    rw [← sameNumber]
    exact numbered.latest other old before

theorem numbered_apart (n : Network) (accepted : List SocketKey) (socket other : Int)
    (obj another : ConnectObj) (numbered : Numbered n accepted)
    (held : n.connects[socket]? = some obj) (there : n.connects[other]? = some another)
    (same : obj.number = another.number) : socket = other := by
  have first := numbered.born socket obj held
  have second := numbered.born other another there
  rw [numbered.paired.keyed socket obj held] at first
  rw [← same, first, numbered.paired.keyed other another there] at second
  cases second
  rfl

theorem accepted_before {accepted : List SocketKey} {key : SocketKey} {number : Nat}
    {found : SocketKey} (there : (accepted ++ [key])[number]? = some found) :
    accepted[number]? = some found ∨ number = accepted.length ∧ found = key := by
  rcases Nat.lt_trichotomy number accepted.length with before | rfl | after
  · rw [List.getElem?_append_left before] at there
    exact Or.inl there
  · rw [List.getElem?_concat_length] at there
    exact Or.inr ⟨rfl, (Option.some.inj there).symm⟩
  · rw [List.getElem?_eq_none (by simp; omega)] at there
    cases there

theorem accepted_grown {accepted : List SocketKey} {number : Nat} {found : SocketKey}
    (key : SocketKey) (there : accepted[number]? = some found) :
    (accepted ++ [key])[number]? = some found := by
  obtain ⟨inside, _⟩ := List.getElem?_eq_some_iff.mp there
  rw [List.getElem?_append_left inside]
  exact there

theorem numbered_created (n : Network) (accepted : List SocketKey) (obj : ConnectObj) (socket : Int)
    (numbered : Numbered n accepted) (named : obj.socketKey = ⟨socket, n.networkType⟩)
    (number : obj.number = accepted.length) :
    Numbered { n with
      connects := n.connects.insert socket obj
      sockets := n.sockets.insert socket () } (accepted ++ [⟨socket, n.networkType⟩]) := by
  constructor
  · exact store_paired n socket obj _ numbered.paired named fun other => get_insert _ _ _ _
  · intro other found held
    simp only [get_insert] at held
    split at held
    · cases held
      rw [number, named]
      exact List.getElem?_concat_length
    · exact accepted_grown _ (numbered.born other found held)
  · intro other found held older key known same
    simp only [get_insert] at held
    split at held
    · cases held
      obtain ⟨inside, _⟩ := List.getElem?_eq_some_iff.mp known
      simp only [List.length_append, List.length_singleton] at inside
      omega
    · rename_i apart
      rcases accepted_before known with old | ⟨_, rfl⟩
      · exact numbered.latest other found held older key old same
      · exact absurd same.symm apart

/-- Two tag keys are told apart only by an Account or an App tag that both have. -/
theorem compare_tags_false_iff (a b : TagKey) :
    compareTags a b = false ↔
      (∃ first second, a .account = some first ∧ b .account = some second ∧
        first.keyStr ≠ second.keyStr) ∨
      (∃ first second, a .app = some first ∧ b .app = some second ∧
        first.keyInt64 ≠ second.keyInt64) := by
  simp only [compareTags, Bool.and_eq_false_iff, compareTagsOf, isTagTypeStr]
  apply or_congr
  · cases a .account with
    | none => simp
    | some first =>
        cases b .account with
        | none => simp
        | some second => simp
  · cases a .app with
    | none => simp
    | some first =>
        cases b .app with
        | none => simp
        | some second => simp

end GameBook.NetworkConnects
