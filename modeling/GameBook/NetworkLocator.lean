import GameBook.AppKey
import GameBook.Directory
import GameBook.LabelledRun
import GameBook.NetworkConnects

/-!
`NetworkLocator`: the connection of each application, by application key. A
connector enters itself when it is connected, an accepted connection is entered
by the MI_AppRegister of its peer, and MI_NetworkDisconnect removes whatever the
key in its tags has. The connections of `NetworkListen` and `NetworkConnector`
stand in one map, since descriptors are not shared.
-/

namespace GameBook.NetworkLocator

open OrderedMap SocketObject AppKey Directory LabelledRun
open NetworkConnects (ConnectStateType)

abbrev Locator := Table UInt64 NetIdentify

/-! ### The locator -/

def addNetworkIdentify (n : Locator) (socketKey : SocketKey) (appKey : UInt64) : Locator :=
  let erased := match n[appKey]? with
    | some _ => n.erase appKey
    | none => n
  erased.insert appKey ⟨socketKey, addTagInt clear .app appKey⟩

/-- `NetIdentify()`, for an application that is not known. -/
def noIdentify : NetIdentify := ⟨⟨-1, .none⟩, clear⟩

def getNetworkIdentify (n : Locator) (appType : AppType) (appId : UInt64) : NetIdentify :=
  match n[getAppKey appType appId]? with
  | none => noIdentify
  | some identify => identify

inductive Message where
  | appRegister (appType : AppType) (appId : UInt64) (identify : NetIdentify)
  | networkDisconnect (identify : NetIdentify)

/-- The second part is the MI_NetworkListenKey for the network. -/
def handleAppRegister (n : Locator) (appType : AppType) (appId : UInt64) (identify : NetIdentify) :
    Locator × List NetIdentify :=
  let appKey := getAppKey appType appId
  match n[appKey]? with
  | none =>
      let netIdentify : NetIdentify := ⟨identify.socketKey, addTagInt clear .app appKey⟩
      (n.insert appKey netIdentify, [netIdentify])
  | some known =>
      (n.insert appKey { known with tagKey := copyFrom known.tagKey identify.tagKey }, [])

/-- The connection it orders to the application is an event of its own. -/
def handleNetworkDisconnect (n : Locator) (identify : NetIdentify) : Locator :=
  match identify.tagKey .app with
  | none => n
  | some tagApp => n.erase tagApp.keyInt64

def handle (n : Locator) : Message → Locator × List NetIdentify
  | .appRegister appType appId identify => handleAppRegister n appType appId identify
  | .networkDisconnect identify => (handleNetworkDisconnect n identify, [])

/-- `peer` is the application at the other end and `announced` that it has sent
MI_AppRegister; the code has neither. -/
structure ConnectObj extends NetIdentify where
  state : ConnectStateType
  peer : UInt64
  announced : Bool

/-- The messages are in the order in which they were dispatched. -/
structure Process where
  netIdentify : Locator
  connects : Int → Option ConnectObj
  inbox : List Message
  listenKeys : List NetIdentify

def start : Process := ⟨∅, fun _ => none, [], []⟩

def connector (appKey : UInt64) (socket : Int) (state : ConnectStateType) : ConnectObj where
  socketKey := ⟨socket, .tcpConnector⟩
  tagKey := addTag clear .app ⟨[], appKey⟩
  state := state
  peer := appKey
  announced := false

def accepted (appKey : UInt64) (socket : Int) : ConnectObj where
  socketKey := ⟨socket, .tcpListen⟩
  tagKey := clear
  state := .connected
  peer := appKey
  announced := false

def update (connects : Int → Option ConnectObj) (socket : Int) (obj : Option ConnectObj) :
    Int → Option ConnectObj :=
  fun other => if other = socket then obj else connects other

def changeStateToConnected (n : Locator) (obj : ConnectObj) : Locator × ConnectObj :=
  let connected := { obj with state := .connected }
  match connected.tagKey .app with
  | some tagValue => (addNetworkIdentify n connected.socketKey tagValue.keyInt64, connected)
  -- MI_NetworkConnected for the logic
  | none => (n, connected)

/-- Only `NetworkListen` has the handler, and it looks among its own sockets. -/
def handleListenKey (connects : Int → Option ConnectObj) (identify : NetIdentify) :
    Int → Option ConnectObj :=
  if identify.socketKey.netType ≠ .tcpListen then connects
  else
    match connects identify.socketKey.socket with
    | none => connects
    | some obj =>
        if obj.socketKey.netType ≠ .tcpListen then connects
        else update connects identify.socketKey.socket
          (some { obj with tagKey := copyFrom obj.tagKey identify.tagKey })

inductive Event where
  | connect (appKey : UInt64) (socket : Int) (state : ConnectStateType)
  | accept (appKey : UInt64) (socket : Int)
  | changeStateToConnected (socket : Int)
  | appRegister (socket : Int) (appType : AppType) (appId : UInt64)
  | close (socket : Int)
  | handle
  | handleListenKey

/-- A new descriptor is one that nothing has. `connect()` is done at once or the
connection waits for the first event of its socket. -/
inductive Step : Process → Event → Process → Prop where
  | connect (p : Process) (appKey : UInt64) (socket : Int) (state : ConnectStateType) :
      p.connects socket = none → 0 ≤ socket → state ≠ .none →
      Step p (.connect appKey socket state)
        { p with connects := update p.connects socket (some (connector appKey socket state)) }
  | accept (p : Process) (appKey : UInt64) (socket : Int) :
      p.connects socket = none → 0 ≤ socket →
      Step p (.accept appKey socket)
        { p with connects := update p.connects socket (some (accepted appKey socket)) }
  | changeStateToConnected (p : Process) (socket : Int) (obj : ConnectObj) :
      p.connects socket = some obj → obj.state = .connecting →
      Step p (.changeStateToConnected socket)
        { p with
          netIdentify := (changeStateToConnected p.netIdentify obj).1
          connects :=
            update p.connects socket (some (changeStateToConnected p.netIdentify obj).2) }
  | appRegister (p : Process) (socket : Int) (obj : ConnectObj) (appType : AppType)
      (appId : UInt64) :
      p.connects socket = some obj → obj.state = .connected → getAppKey appType appId = obj.peer →
      Step p (.appRegister socket appType appId)
        { p with
          connects := update p.connects socket (some { obj with announced := true })
          inbox := p.inbox ++ [.appRegister appType appId obj.toNetIdentify] }
  | close (p : Process) (socket : Int) (obj : ConnectObj) :
      p.connects socket = some obj →
      Step p (.close socket)
        { p with
          connects := update p.connects socket none
          inbox := p.inbox ++ [.networkDisconnect obj.toNetIdentify] }
  | handle (p : Process) (message : Message) (rest : List Message) :
      p.inbox = message :: rest →
      Step p .handle
        { p with
          netIdentify := (handle p.netIdentify message).1
          inbox := rest
          listenKeys := p.listenKeys ++ (handle p.netIdentify message).2 }
  | handleListenKey (p : Process) (identify : NetIdentify) (rest : List NetIdentify) :
      p.listenKeys = identify :: rest →
      Step p .handleListenKey
        { p with connects := handleListenKey p.connects identify, listenKeys := rest }

/-! ### The law -/

def OpenTo (p : Process) (appKey : UInt64) (socketKey : SocketKey) : Prop :=
  ∃ obj, p.connects socketKey.socket = some obj ∧ obj.socketKey = socketKey ∧
    obj.state = .connected ∧ obj.peer = appKey

/-- All messages have been processed, the MI_AppRegister of every accepted
connection among them. -/
structure Quiet (p : Process) : Prop where
  inbox : p.inbox = []
  listenKeys : p.listenKeys = []
  announced : ∀ socket obj, p.connects socket = some obj → obj.socketKey.netType = .tcpListen →
    obj.announced = true

def PointsToLive (p : Process) : Prop :=
  ∀ appType appId,
    ((∃ socketKey, OpenTo p (getAppKey appType appId) socketKey) →
      OpenTo p (getAppKey appType appId) (getNetworkIdentify p.netIdentify appType appId).socketKey) ∧
    ((¬∃ socketKey, OpenTo p (getAppKey appType appId) socketKey) →
      p.netIdentify[getAppKey appType appId]? = none)

def taggedApp (identify : NetIdentify) : Option UInt64 :=
  (identify.tagKey .app).map TagValue.keyInt64

def notice : Message → Option (Notice UInt64 SocketKey)
  | .appRegister appType appId identify => some (.announce (getAppKey appType appId) identify.socketKey)
  | .networkDisconnect identify => (taggedApp identify).map .retire

def entries (n : Locator) : UInt64 → Option SocketKey :=
  fun appKey => (n[appKey]?).map NetIdentify.socketKey

/-- The directory when the waiting messages have been handled. -/
def settled (p : Process) : UInt64 → Option SocketKey :=
  readAll (entries p.netIdentify) (p.inbox.filterMap notice)

def Known (obj : ConnectObj) : Prop :=
  obj.state = .connected ∧ (obj.socketKey.netType = .tcpConnector ∨ obj.announced = true)

/-- A connection that is lost and carries the tag of an application is the only
known one to it, and one that does not carry the tag of its own application is
not the one in the locator. A connection that is established at once, or while a
MI_NetworkDisconnect for its application waits, finds that the application will
have an entry. -/
def InTime (p : Process) : Event → Prop
  | .connect appKey _ state => state = .connected → settled p appKey ≠ none
  | .changeStateToConnected socket => ∀ obj, p.connects socket = some obj →
      Notice.retire obj.peer ∈ p.inbox.filterMap notice → settled p obj.peer ≠ none
  | .close socket => ∀ obj, p.connects socket = some obj →
      (∀ other found, other ≠ socket → p.connects other = some found → Known found →
        taggedApp obj.toNetIdentify ≠ some found.peer) ∧
      (taggedApp obj.toNetIdentify ≠ some obj.peer → settled p obj.peer ≠ some obj.socketKey)
  | _ => True

/-! ### The locator as a directory -/

theorem add_entries (n : Locator) (socketKey : SocketKey) (appKey : UInt64) :
    entries (addNetworkIdentify n socketKey appKey) = put (entries n) appKey socketKey := by
  funext other
  simp only [entries, addNetworkIdentify, put, get_insert]
  split
  · rfl
  · rename_i apart
    cases n[appKey]? with
    | none => rfl
    | some old => simp only [get_erase, if_neg apart]

theorem register_entries (n : Locator) (appType : AppType) (appId : UInt64) (identify : NetIdentify) :
    entries (handleAppRegister n appType appId identify).1 =
      readNotice (entries n) (.announce (getAppKey appType appId) identify.socketKey) := by
  funext other
  simp only [entries, handleAppRegister, readNotice]
  cases known : n[getAppKey appType appId]? with
  | none =>
      dsimp only
      rw [get_insert]
      split
      · rfl
      · rfl
  | some old =>
      dsimp only
      rw [get_insert]
      split
      · rfl
      · rfl

theorem disconnect_entries (n : Locator) (identify : NetIdentify) :
    entries (handleNetworkDisconnect n identify) =
      match taggedApp identify with
      | none => entries n
      | some appKey => readNotice (entries n) (.retire appKey) := by
  unfold handleNetworkDisconnect taggedApp
  cases identify.tagKey .app with
  | none => rfl
  | some tagApp =>
      funext other
      simp only [entries, Option.map_some, readNotice, get_erase]
      split
      · rfl
      · rfl

theorem settled_handle (p : Process) (message : Message) (rest : List Message)
    (waiting : p.inbox = message :: rest) :
    readAll (entries (handle p.netIdentify message).1) (rest.filterMap notice) = settled p := by
  rw [settled, waiting]
  cases message with
  | appRegister appType appId identify =>
      rw [handle, register_entries]
      rfl
  | networkDisconnect identify =>
      have effect := disconnect_entries p.netIdentify identify
      simp only [handle]
      rw [effect]
      simp only [List.filterMap_cons, notice]
      cases taggedApp identify with
      | none => rfl
      | some appKey => rfl

theorem settled_dispatch (p : Process) (connects : Int → Option ConnectObj) (message : Message) :
    settled { p with connects := connects, inbox := p.inbox ++ [message] } =
      match notice message with
      | none => settled p
      | some told => readNotice (settled p) told := by
  simp only [settled, List.filterMap_append, read_all_append]
  simp only [List.filterMap_cons, List.filterMap_nil]
  cases notice message with
  | none => rfl
  | some told => rfl

theorem settled_connected (p : Process) (connects : Int → Option ConnectObj)
    (socketKey : SocketKey) (appKey : UInt64)
    (kept : Notice.retire appKey ∉ p.inbox.filterMap notice) :
    settled { p with
      netIdentify := addNetworkIdentify p.netIdentify socketKey appKey, connects := connects } =
      put (settled p) appKey socketKey := by
  funext other
  simp only [settled, add_entries]
  exact read_all_put _ _ appKey other socketKey kept

theorem settled_overtaken (p : Process) (connects : Int → Option ConnectObj)
    (socketKey : SocketKey) (appKey : UInt64)
    (waits : Notice.retire appKey ∈ p.inbox.filterMap notice) :
    settled { p with
      netIdentify := addNetworkIdentify p.netIdentify socketKey appKey, connects := connects } =
      settled p := by
  funext other
  simp only [settled, add_entries]
  by_cases same : other = appKey
  · rw [same]
    exact read_all_retired _ _ _ appKey waits
  · apply read_all_local
    exact if_neg same

/-! ### The connections the locator is told of -/

def live (connects : Int → Option ConnectObj) (appKey : UInt64) (socketKey : SocketKey) : Prop :=
  ∃ obj, connects socketKey.socket = some obj ∧ obj.socketKey = socketKey ∧ obj.peer = appKey ∧
    Known obj

/-- A connection lies under its own descriptor. One of `NetworkConnector` has the
tag of its application from the start, and only such a one can be connecting. -/
structure Wired (socket : Int) (obj : ConnectObj) : Prop where
  keyed : obj.socketKey.socket = socket
  typed : obj.socketKey.netType = .tcpConnector ∨ obj.socketKey.netType = .tcpListen
  tagged : obj.socketKey.netType = .tcpConnector → taggedApp obj.toNetIdentify = some obj.peer
  dialled : obj.state = .connecting → obj.socketKey.netType = .tcpConnector

structure Tracked (p : Process) : Prop where
  wired : ∀ socket obj, p.connects socket = some obj → Wired socket obj
  faithful : Faithful (live p.connects) (settled p)

theorem update_self (connects : Int → Option ConnectObj) (socket : Int) (obj : Option ConnectObj) :
    update connects socket obj socket = obj :=
  if_pos rfl

theorem update_other (connects : Int → Option ConnectObj) (socket other : Int)
    (obj : Option ConnectObj) (apart : other ≠ socket) :
    update connects socket obj other = connects other :=
  if_neg apart

theorem update_wired (connects : Int → Option ConnectObj) (socket : Int) (obj : ConnectObj)
    (wired : ∀ socket obj, connects socket = some obj → Wired socket obj) (new : Wired socket obj)
    (other : Int) (found : ConnectObj) (held : update connects socket (some obj) other = some found) :
    Wired other found := by
  by_cases same : other = socket
  · rw [same, update_self] at held
    cases held
    rw [same]
    exact new
  · rw [update_other _ _ _ _ same] at held
    exact wired other found held

theorem live_grown (connects : Int → Option ConnectObj) (socket : Int) (obj : ConnectObj)
    (keyed : obj.socketKey.socket = socket) (known : Known obj)
    (same : ∀ old, connects socket = some old →
      old.socketKey = obj.socketKey ∧ old.peer = obj.peer) (appKey : UInt64) (socketKey : SocketKey) :
    live (update connects socket (some obj)) appKey socketKey ↔
      live connects appKey socketKey ∨ (appKey = obj.peer ∧ socketKey = obj.socketKey) := by
  constructor
  · rintro ⟨found, held, key, peer, told⟩
    by_cases here : socketKey.socket = socket
    · rw [here, update_self] at held
      cases held
      exact Or.inr ⟨peer.symm, key.symm⟩
    · rw [update_other _ _ _ _ here] at held
      exact Or.inl ⟨found, held, key, peer, told⟩
  · rintro (⟨found, held, key, peer, told⟩ | ⟨rfl, rfl⟩)
    · by_cases here : socketKey.socket = socket
      · rw [here] at held
        obtain ⟨sameKey, samePeer⟩ := same found held
        refine ⟨obj, ?_, sameKey.symm.trans key, samePeer.symm.trans peer, known⟩
        rw [here, update_self]
      · exact ⟨found, (update_other _ _ _ _ here).trans held, key, peer, told⟩
    · refine ⟨obj, ?_, rfl, rfl, known⟩
      rw [keyed, update_self]

theorem live_still (connects : Int → Option ConnectObj) (socket : Int) (obj : ConnectObj)
    (fresh : connects socket = none → ¬Known obj)
    (same : ∀ old, connects socket = some old →
      old.socketKey = obj.socketKey ∧ old.peer = obj.peer ∧ (Known old ↔ Known obj)) :
    live (update connects socket (some obj)) = live connects := by
  funext appKey socketKey
  apply propext
  by_cases here : socketKey.socket = socket
  · cases before : connects socket with
    | none =>
        constructor
        · rintro ⟨found, held, _, _, told⟩
          rw [here, update_self] at held
          cases held
          exact absurd told (fresh before)
        · rintro ⟨found, held, _⟩
          rw [here, before] at held
          cases held
    | some old =>
        obtain ⟨sameKey, samePeer, told⟩ := same old before
        simp only [live, here, update_self, before, Option.some.injEq, exists_eq_left']
        rw [sameKey, samePeer, told]
  · simp only [live, update_other _ _ _ _ here]

theorem live_closed (connects : Int → Option ConnectObj) (socket : Int) (appKey : UInt64)
    (socketKey : SocketKey) :
    live (update connects socket none) appKey socketKey ↔
      live connects appKey socketKey ∧ socketKey.socket ≠ socket := by
  constructor
  · rintro ⟨found, held, rest⟩
    by_cases here : socketKey.socket = socket
    · rw [here, update_self] at held
      cases held
    · rw [update_other _ _ _ _ here] at held
      exact ⟨⟨found, held, rest⟩, here⟩
  · rintro ⟨⟨found, held, rest⟩, here⟩
    exact ⟨found, (update_other _ _ _ _ here).trans held, rest⟩

theorem connector_tagged (appKey : UInt64) (socket : Int) (state : ConnectStateType) :
    taggedApp (connector appKey socket state).toNetIdentify = some appKey := by
  simp only [taggedApp, connector, addTag]
  split
  · rfl
  · rename_i zero
    simp only [addTagStr, if_true, Option.map_some]
    exact congrArg some (not_not.mp zero).symm

theorem connector_wired (appKey : UInt64) (socket : Int) (state : ConnectStateType) :
    Wired socket (connector appKey socket state) where
  keyed := rfl
  typed := Or.inl rfl
  tagged _ := connector_tagged appKey socket state
  dialled _ := rfl

theorem accepted_wired (appKey : UInt64) (socket : Int) : Wired socket (accepted appKey socket) where
  keyed := rfl
  typed := Or.inr rfl
  tagged listens := by cases listens
  dialled waits := by cases waits

theorem tracked_connect (p : Process) (appKey : UInt64) (socket : Int) (state : ConnectStateType)
    (holds : Tracked p) (free : p.connects socket = none)
    (entered : state = .connected → settled p appKey ≠ none) :
    Tracked { p with connects := update p.connects socket (some (connector appKey socket state)) } := by
  constructor
  · exact update_wired _ _ _ holds.wired (connector_wired appKey socket state)
  · change Faithful _ (settled p)
    by_cases atOnce : state = .connected
    · have grown := live_grown p.connects socket (connector appKey socket state) rfl
        ⟨atOnce, Or.inl rfl⟩ (fun old held => absurd held (by rw [free]; nofun))
      apply faithful_joined appKey holds.faithful (entered atOnce)
      · intro k a alive
        exact (grown k a).mpr (Or.inl alive)
      · intro k a alive
        exact ((grown k a).mp alive).imp id And.left
    · have still := live_still p.connects socket (connector appKey socket state)
        (fun _ told => atOnce told.1) (fun old held => absurd held (by rw [free]; nofun))
      rw [still]
      exact holds.faithful

theorem tracked_accept (p : Process) (appKey : UInt64) (socket : Int) (holds : Tracked p)
    (free : p.connects socket = none) :
    Tracked { p with connects := update p.connects socket (some (accepted appKey socket)) } := by
  constructor
  · exact update_wired _ _ _ holds.wired (accepted_wired appKey socket)
  · -- nothing is known of it before its MI_AppRegister
    have unknown : ¬Known (accepted appKey socket) := by
      rintro ⟨_, dialled | announced⟩
      · cases dialled
      · cases announced
    have still := live_still p.connects socket (accepted appKey socket) (fun _ => unknown)
      (fun old held => absurd held (by rw [free]; nofun))
    change Faithful (live (update _ _ _)) (settled p)
    rw [still]
    exact holds.faithful

theorem change_state_spec (n : Locator) (socket : Int) (obj : ConnectObj) (wired : Wired socket obj)
    (connecting : obj.state = .connecting) :
    changeStateToConnected n obj =
      (addNetworkIdentify n obj.socketKey obj.peer, { obj with state := .connected }) := by
  have tagged := wired.tagged (wired.dialled connecting)
  obtain ⟨tagValue, named, key⟩ := Option.map_eq_some_iff.mp tagged
  simp only [changeStateToConnected, named, key]

theorem tracked_change_state (p : Process) (socket : Int) (obj : ConnectObj) (holds : Tracked p)
    (held : p.connects socket = some obj) (connecting : obj.state = .connecting)
    (entered : Notice.retire obj.peer ∈ p.inbox.filterMap notice → settled p obj.peer ≠ none) :
    Tracked { p with
      netIdentify := (changeStateToConnected p.netIdentify obj).1
      connects := update p.connects socket (some (changeStateToConnected p.netIdentify obj).2) } := by
  have wired := holds.wired socket obj held
  rw [change_state_spec p.netIdentify socket obj wired connecting]
  have dialled := wired.dialled connecting
  constructor
  · apply update_wired _ _ _ holds.wired
    exact ⟨wired.keyed, wired.typed, wired.tagged, fun _ => dialled⟩
  · have grown := live_grown p.connects socket { obj with state := .connected } wired.keyed
      ⟨rfl, Or.inl dialled⟩ (fun old before => by
        rw [held] at before
        cases before
        exact ⟨rfl, rfl⟩)
    by_cases waits : Notice.retire obj.peer ∈ p.inbox.filterMap notice
    · rw [settled_overtaken p _ obj.socketKey obj.peer waits]
      apply faithful_joined obj.peer holds.faithful (entered waits)
      · intro k a alive
        exact (grown k a).mpr (Or.inl alive)
      · intro k a alive
        exact ((grown k a).mp alive).imp id And.left
    · rw [settled_connected p _ obj.socketKey obj.peer waits]
      exact faithful_put obj.peer obj.socketKey holds.faithful grown

theorem tracked_register (p : Process) (socket : Int) (obj : ConnectObj) (appType : AppType)
    (appId : UInt64) (holds : Tracked p) (held : p.connects socket = some obj)
    (connected : obj.state = .connected) (named : getAppKey appType appId = obj.peer) :
    Tracked { p with
      connects := update p.connects socket (some { obj with announced := true })
      inbox := p.inbox ++ [.appRegister appType appId obj.toNetIdentify] } := by
  have wired := holds.wired socket obj held
  constructor
  · apply update_wired _ _ _ holds.wired
    exact ⟨wired.keyed, wired.typed, wired.tagged, wired.dialled⟩
  · rw [settled_dispatch]
    simp only [notice]
    rw [named]
    apply faithful_announced obj.peer obj.socketKey holds.faithful
    apply live_grown p.connects socket { obj with announced := true } wired.keyed
      ⟨connected, Or.inr rfl⟩
    intro old before
    rw [held] at before
    cases before
    exact ⟨rfl, rfl⟩

theorem tracked_close (p : Process) (socket : Int) (obj : ConnectObj) (holds : Tracked p)
    (held : p.connects socket = some obj)
    (single : ∀ other found, other ≠ socket → p.connects other = some found → Known found →
      taggedApp obj.toNetIdentify ≠ some found.peer)
    (unnamed : taggedApp obj.toNetIdentify ≠ some obj.peer →
      settled p obj.peer ≠ some obj.socketKey) :
    Tracked { p with
      connects := update p.connects socket none
      inbox := p.inbox ++ [.networkDisconnect obj.toNetIdentify] } := by
  -- the entry of another application never points to the lost connection
  have elsewhere : ∀ k a, live p.connects k a → settled p k = some a →
      taggedApp obj.toNetIdentify ≠ some k → a.socket ≠ socket := by
    rintro k a ⟨found, before, key, peer, _⟩ entry apart here
    rw [here, held] at before
    cases before
    rw [← peer] at entry apart
    rw [← key] at entry
    exact unnamed apart entry
  constructor
  · intro other found after
    by_cases same : other = socket
    · dsimp only at after
      rw [same, update_self] at after
      cases after
    · dsimp only at after
      rw [update_other _ _ _ _ same] at after
      exact holds.wired other found after
  · rw [settled_dispatch]
    simp only [notice]
    cases tagged : taggedApp obj.toNetIdentify with
    | none =>
        apply faithful_dropped holds.faithful
        · intro k a alive
          exact ((live_closed _ _ _ _).mp alive).1
        · intro k a alive entry
          have apart := elsewhere k a alive entry (by rw [tagged]; exact (Option.some_ne_none k).symm)
          exact (live_closed _ _ _ _).mpr ⟨alive, apart⟩
    | some appKey =>
        apply faithful_retired appKey holds.faithful
        · intro k a alive
          obtain ⟨before, apart⟩ := (live_closed _ _ _ _).mp alive
          refine ⟨before, ?_⟩
          rintro rfl
          obtain ⟨found, there, _, peer, told⟩ := before
          apply single _ found apart there told
          rw [tagged, peer]
        · intro k a alive differs entry
          have apart := elsewhere k a alive entry (by
            rw [tagged]
            exact fun same => differs (Option.some.inj same).symm)
          exact (live_closed _ _ _ _).mpr ⟨alive, apart⟩

theorem tracked_handle (p : Process) (message : Message) (rest : List Message)
    (listenKeys : List NetIdentify) (holds : Tracked p) (waiting : p.inbox = message :: rest) :
    Tracked { p with
      netIdentify := (handle p.netIdentify message).1, inbox := rest, listenKeys := listenKeys } := by
  constructor
  · exact holds.wired
  · have same := settled_handle p message rest waiting
    simp only [settled]
    rw [same]
    exact holds.faithful

/-- MI_NetworkListenKey changes the tags of accepted connections. -/
theorem handle_listen_key_cases (connects : Int → Option ConnectObj) (identify : NetIdentify) :
    handleListenKey connects identify = connects ∨
    ∃ obj, connects identify.socketKey.socket = some obj ∧ obj.socketKey.netType = .tcpListen ∧
      handleListenKey connects identify = update connects identify.socketKey.socket
        (some { obj with tagKey := copyFrom obj.tagKey identify.tagKey }) := by
  unfold handleListenKey
  split
  · exact Or.inl rfl
  · cases found : connects identify.socketKey.socket with
    | none => exact Or.inl rfl
    | some obj =>
        dsimp only
        split
        · exact Or.inl rfl
        · rename_i listens
          exact Or.inr ⟨obj, rfl, not_not.mp listens, rfl⟩

theorem tracked_listen_key (p : Process) (identify : NetIdentify) (rest : List NetIdentify)
    (holds : Tracked p) :
    Tracked { p with connects := handleListenKey p.connects identify, listenKeys := rest } := by
  rcases handle_listen_key_cases p.connects identify with same | ⟨obj, held, listens, changed⟩
  · rw [same]
    exact ⟨holds.wired, holds.faithful⟩
  · have wired := holds.wired _ obj held
    rw [changed]
    constructor
    · apply update_wired _ _ _ holds.wired
      refine ⟨wired.keyed, wired.typed, ?_, wired.dialled⟩
      intro dialled
      rw [listens] at dialled
      cases dialled
    · have still := live_still p.connects identify.socketKey.socket
        { obj with tagKey := copyFrom obj.tagKey identify.tagKey }
        (fun fresh => absurd held (by rw [fresh]; nofun))
        (fun old before => by
          rw [held] at before
          cases before
          exact ⟨rfl, rfl, Iff.rfl⟩)
      change Faithful (live (update _ _ _)) (settled p)
      rw [still]
      exact holds.faithful

theorem tracked_step (before : Process) (event : Event) (after : Process) (holds : Tracked before)
    (taken : Guarded Step InTime before event after) : Tracked after := by
  obtain ⟨step, inTime⟩ := taken
  cases step with
  | connect appKey socket state free _ _ =>
      exact tracked_connect before appKey socket state holds free inTime
  | accept appKey socket free _ => exact tracked_accept before appKey socket holds free
  | changeStateToConnected socket obj held connecting =>
      exact tracked_change_state before socket obj holds held connecting (inTime obj held)
  | appRegister socket obj appType appId held connected named =>
      exact tracked_register before socket obj appType appId holds held connected named
  | close socket obj held =>
      obtain ⟨single, unnamed⟩ := inTime obj held
      exact tracked_close before socket obj holds held single unnamed
  | handle message rest waiting => exact tracked_handle before message rest _ holds waiting
  | handleListenKey identify rest _ => exact tracked_listen_key before identify rest holds

theorem start_tracked : Tracked start := by
  constructor
  · intro socket obj held
    cases held
  · constructor
    · intro key address entry
      simp [settled, start, entries, readAll] at entry
    · rintro key address ⟨obj, held, _⟩
      cases held

theorem open_iff_live (p : Process) (holds : Tracked p) (quiet : Quiet p) (appKey : UInt64)
    (socketKey : SocketKey) : OpenTo p appKey socketKey ↔ live p.connects appKey socketKey := by
  constructor
  · rintro ⟨obj, held, key, connected, peer⟩
    refine ⟨obj, held, key, peer, connected, ?_⟩
    rcases (holds.wired _ obj held).typed with dialled | listens
    · exact Or.inl dialled
    · exact Or.inr (quiet.announced _ obj held listens)
  · rintro ⟨obj, held, key, peer, connected, _⟩
    exact ⟨obj, held, key, connected, peer⟩

theorem tracked_points (p : Process) (holds : Tracked p) (quiet : Quiet p) : PointsToLive p := by
  have now : settled p = entries p.netIdentify := by
    rw [settled, quiet.inbox]
    rfl
  obtain ⟨sound, complete⟩ := holds.faithful
  rw [now] at sound complete
  intro appType appId
  have known := open_iff_live p holds quiet (getAppKey appType appId)
  constructor
  · rintro ⟨socketKey, opened⟩
    have entered := complete _ socketKey ((known socketKey).mp opened)
    cases found : p.netIdentify[getAppKey appType appId]? with
    | none => exact absurd (by simp [entries, found]) entered
    | some identify =>
        have entry : entries p.netIdentify (getAppKey appType appId) = some identify.socketKey := by
          simp [entries, found]
        simp only [getNetworkIdentify, found]
        exact (known _).mpr (sound _ _ entry)
  · intro closed
    cases found : p.netIdentify[getAppKey appType appId]? with
    | none => rfl
    | some identify =>
        have entry : entries p.netIdentify (getAppKey appType appId) = some identify.socketKey := by
          simp [entries, found]
        exact absurd ⟨_, (known _).mpr (sound _ _ entry)⟩ closed

/-- While connections are lost and established in time, in every quiet state the
locator has an open connection for each application that has one, and nothing
for the others. -/
theorem locator_points_to_live (events : List Event) (p : Process)
    (run : Run (Guarded Step InTime) start events p) :
    Run (Along Step fun state => Quiet state → PointsToLive state) start events p :=
  along_of_guarded Tracked tracked_step tracked_points run start_tracked

/-- A connector is lost, and the application registers over a connection of its own. -/
theorem locator_points_to_live_again :
    ∃ p, Run (Along Step fun state => Quiet state → PointsToLive state) start
      [.connect (getAppKey .game 1) 5 .connecting, .changeStateToConnected 5, .close 5, .handle,
        .accept (getAppKey .game 1) 6, .appRegister 6 .game 1, .handle, .handleListenKey] p ∧
      Quiet p ∧ (getNetworkIdentify p.netIdentify .game 1).socketKey = ⟨6, .tcpListen⟩ := by
  refine ⟨_, locator_points_to_live _ _
    (.next ⟨.connect _ _ _ _ rfl (by decide) nofun, nofun⟩ <|
     .next ⟨.changeStateToConnected _ _ _ rfl rfl, ?_⟩ <|
     .next ⟨.close _ _ _ rfl, ?_⟩ <|
     .next ⟨.handle _ _ _ rfl, trivial⟩ <|
     .next ⟨.accept _ _ _ rfl (by decide), trivial⟩ <|
     .next ⟨.appRegister _ _ _ _ _ rfl rfl rfl, trivial⟩ <|
     .next ⟨.handle _ _ _ rfl, trivial⟩ <|
     .next ⟨.handleListenKey _ _ _ rfl, trivial⟩ (.refl _)), ?_, ?_⟩
  · intro obj _ waits
    cases waits
  · intro obj held
    cases held
    refine ⟨?_, fun untagged => absurd rfl untagged⟩
    intro other found apart there
    simp [update, apart, start] at there
  · refine ⟨rfl, rfl, ?_⟩
    intro socket obj held _
    change update (update (update (update (update (update start.connects 5 (some _)) 5 (some _))
      5 none) 6 (some _)) 6 (some _)) 6 (some _) socket = some obj at held
    by_cases last : socket = 6
    · subst last
      cases held
      rfl
    · by_cases first : socket = 5
      · subst first
        cases held
      · simp [update, last, first, start] at held
  · rfl

/-- An accepted connection is closed before it has its tag, and its application
stays in the locator. -/
theorem closed_connection_stays :
    ¬∀ (events : List Event) (p : Process), Run Step start events p → Quiet p → PointsToLive p := by
  intro law
  have run : ∃ p, Run Step start
      [.accept (getAppKey .game 1) 5, .appRegister 5 .game 1, .close 5, .handle, .handle,
        .handleListenKey] p ∧ (∀ socket, p.connects socket = none) ∧ p.inbox = [] ∧
      p.listenKeys = [] ∧ p.netIdentify[getAppKey .game 1]? ≠ none := by
    refine ⟨_,
      .next (.accept _ _ _ rfl (by decide)) <|
      .next (.appRegister _ _ _ _ _ rfl rfl rfl) <|
      .next (.close _ _ _ rfl) <|
      .next (.handle _ _ _ rfl) <|
      .next (.handle _ _ _ rfl) <|
      .next (.handleListenKey _ _ _ rfl) (.refl _), ?_, rfl, rfl, ?_⟩
    · intro socket
      change update (update (update start.connects 5 (some _)) 5 (some _)) 5 none socket = none
      by_cases here : socket = 5
      · subst here
        rfl
      · simp [update, here, start]
    · decide
  obtain ⟨p, run, closed, inbox, listenKeys, entered⟩ := run
  have quiet : Quiet p := ⟨inbox, listenKeys, fun socket obj held => by
    rw [closed] at held
    cases held⟩
  apply entered
  apply (law _ p run quiet .game 1).2
  rintro ⟨socketKey, obj, held, _⟩
  rw [closed] at held
  cases held

end GameBook.NetworkLocator
