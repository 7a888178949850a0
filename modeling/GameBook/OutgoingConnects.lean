import GameBook.LabelledRun
import GameBook.NetworkConnects
import GameBook.NetworkLocator
import GameBook.PacketPool

/-!
`NetworkConnector`: the requests in `_connecting`, the connections made for
them, and what becomes of these. `connect()` is done at once, is under way or
fails; a connection under way is established by the first event of its socket.
A lost connection to an application is ordered again by `NetworkLocator`. The
log, and the number and origin that tell connections and requests apart, are not
in the code.
-/

namespace GameBook.OutgoingConnects

open OrderedMap SocketObject AppKey LabelledRun
open NetworkConnects (ConnectStateType ConnectObj Closed Network createConnectObj removeConnectObj
  writeBack backToPool handleDisconnect awake)
open PacketPool (CacheRefresh emptyCache addObj removeObj canSwap swap entry entry_add_obj
  entry_of_objs swap_entry swap_objs can_swap_false)

structure Endpoint where
  ip : Str
  port : Int

/-- `origin` is the number of the connection whose loss led to the request. -/
structure ConnectDetail where
  tagType : TagType
  tagValue : TagValue
  endpoint : Endpoint
  origin : Option Nat

structure NetworkConnect where
  networkType : NetworkType
  detail : ConnectDetail

/-- The calls of `AddNetworkIdentify`, the messages MI_NetworkConnected, and the
packets of `Recv`, by the number of the connection. -/
inductive Record where
  | identified (number : Nat) (appKey : UInt64)
  | connected (number : Nat)
  | dispatched (number : Nat)
  deriving DecidableEq

/-- `connecting` holds the requests by their place in `requests`; the n-th
connection was made for the n-th entry of `created`. `disconnects` are under way
to the locator and `orders` to the connector; `lost` are all that were closed. -/
structure Connector where
  network : Network
  connecting : CacheRefresh
  requests : List ConnectDetail
  created : List Nat
  log : List Record
  disconnects : List Closed
  orders : List NetworkConnect
  lost : List Closed

def start (networkType : NetworkType) : Connector :=
  ⟨NetworkConnects.create networkType, emptyCache, [], [], [], [], [], []⟩

/-! ### Connections -/

def close (s : Connector) (socket : Int) (obj : ConnectObj) : Connector :=
  { s with
    network := removeConnectObj s.network socket
    disconnects := s.disconnects ++ [backToPool obj]
    lost := s.lost ++ [backToPool obj] }

def announcement (obj : ConnectObj) : Record :=
  match obj.tagKey .app with
  | some tagValue => .identified obj.number tagValue.keyInt64
  | none => .connected obj.number

def changeStateToConnected (s : Connector) (socket : Int) (obj : ConnectObj) : Connector :=
  { s with
    network := writeBack s.network socket { obj with state := .connected }
    log := s.log ++ [announcement obj] }

/-- `Recv`: `packets` are dispatched, or the connection is given up. -/
def recv (s : Connector) (socket : Int) (packets : Nat) (isRs : Bool) : Connector :=
  match s.network.connects[socket]? with
  | none => s
  | some obj =>
      if obj.state = .connecting then changeStateToConnected s socket obj
      else if isRs then { s with log := s.log ++ List.replicate packets (.dispatched obj.number) }
      else close s socket obj

def send (s : Connector) (socket : Int) (sent : Bool) : Connector :=
  match s.network.connects[socket]? with
  | none => s
  | some obj =>
      if obj.state = .connecting then changeStateToConnected s socket obj
      else if sent then s
      else close s socket obj

/-- EPOLLRDHUP, EPOLLERR or EPOLLHUP; the exception set of `select`. -/
def except (s : Connector) (socket : Int) : Connector :=
  match s.network.connects[socket]? with
  | none => s
  | some obj => close s socket obj

def requestDisconnect (s : Connector) (identify : NetIdentify) : Connector :=
  let (network, closed) := handleDisconnect s.network identify
  { s with network := network, disconnects := s.disconnects ++ closed, lost := s.lost ++ closed }

/-! ### Requests -/

/-- `socket()` and `connect()`; `checked` is the answer of `CheckSocket`. -/
inductive Outcome where
  | noSocket
  | done (socket : Int) (checked : Bool)
  | waiting (socket : Int) (checked : Bool)
  | error

def createObj (s : Connector) (index : Nat) (detail : ConnectDetail) (socket : Int) (checked : Bool)
    (state : ConnectStateType) : Bool × Connector :=
  match createConnectObj s.network checked socket detail.tagType detail.tagValue state
      s.created.length with
  | (made, network, closed) =>
      (made, { s with
        network := network
        created := if made then s.created ++ [index] else s.created
        disconnects := s.disconnects ++ closed
        lost := s.lost ++ closed })

def connect (s : Connector) (index : Nat) (detail : ConnectDetail) : Outcome → Bool × Connector
  | .noSocket => (false, s)
  | .done socket checked => createObj s index detail socket checked .connected
  | .waiting socket checked => createObj s index detail socket checked .connecting
  | .error => (false, s)

def connectOne (outcome : Nat → Outcome) (s : Connector) (sn index : Nat) : Connector :=
  match s.requests[index]? with
  | none => s
  | some detail =>
      match connect s index detail (outcome sn) with
      | (true, made) => { made with connecting := removeObj made.connecting sn }
      | (false, made) => made

def connectEach (outcome : Nat → Outcome) : List (Nat × Nat) → Connector → Connector
  | [], s => s
  | (sn, index) :: rest, s => connectEach outcome rest (connectOne outcome s sn index)

def swapConnecting (s : Connector) : Connector :=
  if canSwap s.connecting then { s with connecting := (swap s.connecting).1 } else s

def update (outcome : Nat → Outcome) (s : Connector) : Connector :=
  connectEach outcome (swapConnecting s).connecting.objs.toList (swapConnecting s)

/-- `_connecting.AddObj(new ConnectDetail(..))`, under the number drawn for it. -/
def addRequest (s : Connector) (sn : Nat) (detail : ConnectDetail) : Connector :=
  { s with
    connecting := addObj s.connecting sn s.requests.length
    requests := s.requests ++ [detail] }

def createConnector (s : Connector) (appType : AppType) (appId : Nat) (endpoint : Endpoint)
    (sn : Nat) : Connector :=
  addRequest s sn ⟨.app, ⟨[], getAppKey appType (UInt64.ofNat appId)⟩, endpoint, none⟩

def handleNetworkConnect (s : Connector) (sn : Nat) : Option Connector :=
  match s.orders with
  | [] => none
  | order :: rest =>
      if order.networkType ≠ s.network.networkType then some { s with orders := rest }
      else some (addRequest { s with orders := rest } sn order.detail)

/-- `NetworkLocator::HandleNetworkDisconnect`; an application without an endpoint
in the configuration is a null pointer. -/
def handleNetworkDisconnect (getIPEndPoint : UInt64 → UInt64 → Option Endpoint) (s : Connector) :
    Option Connector :=
  match s.disconnects with
  | [] => none
  | closed :: rest =>
      match closed.tagKey .app with
      | none => some { s with disconnects := rest }
      | some tagApp =>
          (getIPEndPoint (getTypeFromAppKey tagApp.keyInt64) (getIdFromAppKey tagApp.keyInt64)).map
            fun endpoint =>
              { s with
                disconnects := rest
                orders := s.orders ++
                  [⟨.tcpConnector, ⟨.app, ⟨[], tagApp.keyInt64⟩, endpoint, some closed.number⟩⟩] }

inductive Event where
  | createConnector (appType : AppType) (appId : Nat) (endpoint : Endpoint) (sn : Nat)
  | networkConnect (networkType : NetworkType) (tagType : TagType) (tagValue : TagValue)
      (endpoint : Endpoint)
  | handleNetworkConnect (sn : Nat)
  | update (outcome : Nat → Outcome)
  | recv (socket : Int) (packets : Nat) (isRs : Bool)
  | send (socket : Int) (sent : Bool)
  | except (socket : Int)
  | requestDisconnect (identify : NetIdentify)
  | handleNetworkDisconnect

/-- Configured connectors are those of a TCP connector, with their endpoints from
the configuration. -/
def connectorStep (getIPEndPoint : UInt64 → UInt64 → Option Endpoint) (before : Connector)
    (event : Event) (after : Connector) : Prop :=
  match event with
  | .createConnector appType appId endpoint sn =>
      before.network.networkType = .tcpConnector ∧
        getIPEndPoint (bits appType) (UInt64.ofNat appId) = some endpoint ∧
        after = createConnector before appType appId endpoint sn
  | .networkConnect networkType tagType tagValue endpoint =>
      after = { before with
        orders := before.orders ++ [⟨networkType, ⟨tagType, tagValue, endpoint, none⟩⟩] }
  | .handleNetworkConnect sn => handleNetworkConnect before sn = some after
  | .update outcome => after = update outcome before
  | .recv socket packets isRs => after = recv before socket packets isRs
  | .send socket sent => after = send before socket sent
  | .except socket => after = except before socket
  | .requestDisconnect identify => after = requestDisconnect before identify
  | .handleNetworkDisconnect => handleNetworkDisconnect getIPEndPoint before = some after

/-! ### What is asked of a run -/

/-- In `_connecting`, and not on the list of those to be removed. -/
def Waiting (s : Connector) (index : Nat) : Prop :=
  ∃ sn, entry s.connecting sn = some index ∧ sn ∉ s.connecting.removes

def announces : Record → Option Nat
  | .identified number _ => some number
  | .connected number => some number
  | .dispatched _ => none

def announcements (log : List Record) (number : Nat) : Nat := (log.filterMap announces).count number

def requestOf (s : Connector) (number : Nat) : Option ConnectDetail :=
  s.created[number]?.bind fun index => s.requests[index]?

def lostApp (closed : Closed) : Option (Nat × UInt64) :=
  (closed.tagKey .app).map fun tagApp => (closed.number, tagApp.keyInt64)

def renewal (detail : ConnectDetail) : Option (Nat × UInt64) :=
  if detail.tagType = .app then detail.origin.map fun number => (number, detail.tagValue.keyInt64)
  else none

structure Law (getIPEndPoint : UInt64 → UInt64 → Option Endpoint) (s : Connector) : Prop where
  /-- A request waits exactly until a connection was made for it, and one is. -/
  waiting : ∀ index < s.requests.length, Waiting s index ↔ index ∉ s.created
  made : s.created.Nodup
  /-- A connection is announced when it is established, once. -/
  announced : ∀ (socket : Int) (obj : ConnectObj), s.network.connects[socket]? = some obj →
    announcements s.log obj.number = if obj.state = .connected then 1 else 0
  once : ∀ number, announcements s.log number ≤ 1
  identified : ∀ number appKey, .identified number appKey ∈ s.log →
    ∃ detail, requestOf s number = some detail ∧ detail.tagType = .app ∧
      detail.tagValue.keyInt64 = appKey
  connected : ∀ number, .connected number ∈ s.log →
    ∃ detail, requestOf s number = some detail ∧ detail.tagType ≠ .app
  first : ∀ front number rest, s.log = front ++ .dispatched number :: rest →
    announcements front number = 1
  /-- Each lost connection to an application is requested again, or on its way. -/
  renewed : s.requests.filterMap renewal ++ s.orders.filterMap (fun order => renewal order.detail) ++
    s.disconnects.filterMap lostApp = s.lost.filterMap lostApp
  located : s.disconnects ≠ [] → (handleNetworkDisconnect getIPEndPoint s).isSome

def Known (getIPEndPoint : UInt64 → UInt64 → Option Endpoint) (appKey : UInt64) : Prop :=
  (getIPEndPoint (getTypeFromAppKey appKey) (getIdFromAppKey appKey)).isSome

/-- No `connect()` is done at once. Numbers of requests are not in use, ids of
configured applications fit in the 16 bits a key gives back, and requests for
applications are for the TCP connector and have an endpoint. -/
def Deferred (getIPEndPoint : UInt64 → UInt64 → Option Endpoint) (before : Connector) :
    Event → Prop
  | .createConnector _ appId _ sn => appId < 65536 ∧ entry before.connecting sn = none
  | .networkConnect networkType tagType tagValue _ =>
      tagType = .app → networkType = .tcpConnector ∧ Known getIPEndPoint tagValue.keyInt64
  | .handleNetworkConnect sn => entry before.connecting sn = none
  | .update outcome => ∀ sn socket, outcome sn ≠ .done socket true
  | _ => True

end GameBook.OutgoingConnects
