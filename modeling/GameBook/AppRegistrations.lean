import GameBook.NetworkLocator
import GameBook.OutgoingConnects

/-!
`NetworkLocator` of a process with MI_AppRegister of any type and id on any of
its connections, and with the configuration that MI_NetworkDisconnect looks into.
Connections are numbered as they are made; a descriptor is used again.
-/

namespace GameBook.AppRegistrations

open OrderedMap SocketObject AppKey LabelledRun
open NetworkConnects (ConnectStateType compareTags)
open NetworkLocator (Locator addNetworkIdentify handleNetworkDisconnect taggedApp)
open OutgoingConnects (Endpoint)

/-! ### The configuration -/

/-- `AppListConfig`, `CommonConfig`, and `RobotConfig` which is neither. -/
inductive YamlConfig where
  | appList (apps : List (Int × Endpoint))
  | common (endpoint : Endpoint)
  | robot

abbrev Configs := Table UInt64 YamlConfig

def getOne (apps : List (Int × Endpoint)) (appId : Int) : Option Endpoint :=
  (apps.find? fun app => app.1 = appId).map Prod.snd

def getIPEndPoint (configs : Configs) (appType : UInt64) (appId : Int) : Option Endpoint :=
  match configs[appType]? with
  | some (.appList apps) => getOne apps appId
  | some (.common endpoint) => some endpoint
  | some .robot => none
  | none => none

/-- The key decides the endpoint. -/
def endpointOf (configs : Configs) (appKey : UInt64) : Option Endpoint :=
  getIPEndPoint configs (getTypeFromAppKey appKey) (getIdFromAppKey appKey).toNat

def appKeyOf (appType appId : Int32) : UInt64 :=
  (appType.toInt64.toUInt64 <<< 32) + appId.toInt64.toUInt64

/-! ### The process -/

structure ConnectObj extends NetIdentify where
  number : Nat
  state : ConnectStateType

/-- A packet has the identity its connection had when it came in. -/
inductive Message where
  | appRegister (appType appId : Int32) (identify : NetIdentify) (number : Nat)
  | networkDisconnect (identify : NetIdentify)

/-- `registered` has the connection that was last entered for a key; the code does
not keep it, nor `made`, the number of connections so far. -/
structure Process where
  netIdentify : Locator
  connects : Int → Option ConnectObj
  inbox : List Message
  listenKeys : List NetIdentify
  registered : UInt64 → Option Nat
  made : Nat
  crashed : Bool

def start : Process := ⟨∅, fun _ => none, [], [], fun _ => none, 0, false⟩

def update (connects : Int → Option ConnectObj) (socket : Int) (obj : Option ConnectObj) :
    Int → Option ConnectObj :=
  fun other => if other = socket then obj else connects other

def enter (registered : UInt64 → Option Nat) (appKey : UInt64) (number : Nat) :
    UInt64 → Option Nat :=
  fun other => if other = appKey then some number else registered other

def addConnect (p : Process) (socket : Int) (netType : NetworkType) (tagKey : TagKey)
    (state : ConnectStateType) : Process :=
  { p with
    connects := update p.connects socket (some ⟨⟨⟨socket, netType⟩, tagKey⟩, p.made, state⟩)
    made := p.made + 1 }

def changeStateToConnected (p : Process) (socket : Int) (obj : ConnectObj) : Process :=
  let connected := { p with
    connects := update p.connects socket (some { obj with state := .connected }) }
  match obj.tagKey .app with
  | some tagValue =>
      { connected with
        netIdentify := addNetworkIdentify p.netIdentify obj.socketKey tagValue.keyInt64
        registered := enter p.registered tagValue.keyInt64 obj.number }
  -- MI_NetworkConnected for the logic
  | none => connected

def handleAppRegister (p : Process) (appKey : UInt64) (identify : NetIdentify) (number : Nat) :
    Process :=
  match p.netIdentify[appKey]? with
  | none =>
      let netIdentify : NetIdentify := ⟨identify.socketKey, addTagInt clear .app appKey⟩
      { p with
        netIdentify := p.netIdentify.insert appKey netIdentify
        listenKeys := p.listenKeys ++ [netIdentify]
        registered := enter p.registered appKey number }
  | some known =>
      { p with
        netIdentify := p.netIdentify.insert appKey
          { known with tagKey := copyFrom known.tagKey identify.tagKey } }

/-- The endpoint is used without a look whether there is one. -/
def disconnect (configs : Configs) (p : Process) (identify : NetIdentify) : Process :=
  match taggedApp identify with
  | none => p
  | some appKey =>
      { p with
        netIdentify := handleNetworkDisconnect p.netIdentify identify
        crashed := (endpointOf configs appKey).isNone }

def handle (configs : Configs) (p : Process) : Message → Process
  | .appRegister appType appId identify number =>
      handleAppRegister p (appKeyOf appType appId) identify number
  | .networkDisconnect identify => disconnect configs p identify

/-- Only `NetworkListen` has the handler, and it looks among its own sockets. -/
def handleListenKey (connects : Int → Option ConnectObj) (identify : NetIdentify) :
    Int → Option ConnectObj :=
  if identify.socketKey.netType ≠ .tcpListen then connects
  else
    match connects identify.socketKey.socket with
    | none => connects
    | some obj =>
        if obj.socketKey.netType ≠ .tcpListen then connects
        else update connects identify.socketKey.socket
          (some { obj with tagKey := copyFrom obj.tagKey identify.tagKey })

def sendPacket (p : Process) (appKey : UInt64) : Option ConnectObj :=
  match p.netIdentify[appKey]? with
  | none => none
  | some identify =>
      match p.connects identify.socketKey.socket with
      | none => none
      | some obj =>
          if obj.socketKey = identify.socketKey ∧ compareTags obj.tagKey identify.tagKey then some obj
          else none

inductive Event where
  | accept (socket : Int)
  | connect (appKey : UInt64) (socket : Int) (state : ConnectStateType)
  | changeStateToConnected (socket : Int)
  | appRegister (socket : Int) (appType appId : Int32)
  | close (socket : Int)
  | handle
  | handleListenKey

/-- A new descriptor is one that nothing has. -/
inductive Step (configs : Configs) : Process → Event → Process → Prop where
  | accept (p : Process) (socket : Int) :
      p.crashed = false → p.connects socket = none →
      Step configs p (.accept socket) (addConnect p socket .tcpListen clear .connected)
  | connect (p : Process) (appKey : UInt64) (socket : Int) (state : ConnectStateType) :
      p.crashed = false → p.connects socket = none →
      Step configs p (.connect appKey socket state)
        (addConnect p socket .tcpConnector (addTag clear .app ⟨[], appKey⟩) state)
  | changeStateToConnected (p : Process) (socket : Int) (obj : ConnectObj) :
      p.crashed = false → p.connects socket = some obj → obj.state = .connecting →
      Step configs p (.changeStateToConnected socket) (changeStateToConnected p socket obj)
  | appRegister (p : Process) (socket : Int) (obj : ConnectObj) (appType appId : Int32) :
      p.crashed = false → p.connects socket = some obj → obj.state = .connected →
      Step configs p (.appRegister socket appType appId)
        { p with inbox := p.inbox ++ [.appRegister appType appId obj.toNetIdentify obj.number] }
  | close (p : Process) (socket : Int) (obj : ConnectObj) :
      p.crashed = false → p.connects socket = some obj →
      Step configs p (.close socket)
        { p with
          connects := update p.connects socket none
          inbox := p.inbox ++ [.networkDisconnect obj.toNetIdentify] }
  | handle (p : Process) (message : Message) (rest : List Message) :
      p.crashed = false → p.inbox = message :: rest →
      Step configs p .handle (handle configs { p with inbox := rest } message)
  | handleListenKey (p : Process) (identify : NetIdentify) (rest : List NetIdentify) :
      p.crashed = false → p.listenKeys = identify :: rest →
      Step configs p .handleListenKey
        { p with connects := handleListenKey p.connects identify, listenKeys := rest }

/-! ### The law -/

structure Survives (before : Process) (event : Event) (after : Process) : Prop where
  running : after.crashed = false
  /-- No message takes an application from a connection that is open. -/
  kept : event = .handle → ∀ appKey socket obj, before.connects socket = some obj →
    before.registered appKey = some obj.number → after.registered appKey = some obj.number
  /-- What is sent to an application goes over its open connection. -/
  reached : ∀ appKey socket obj, after.connects socket = some obj →
    after.registered appKey = some obj.number → sendPacket after appKey = some obj

/-! ### The condition -/

def Located (configs : Configs) (appKey : UInt64) : Prop := (endpointOf configs appKey).isSome

instance (configs : Configs) (appKey : UInt64) : Decidable (Located configs appKey) :=
  inferInstanceAs (Decidable ((endpointOf configs appKey).isSome = true))

structure Unclaimed (p : Process) (appKey : UInt64) : Prop where
  connects : ∀ socket obj, p.connects socket = some obj →
    taggedApp obj.toNetIdentify ≠ some appKey ∧ p.registered appKey ≠ some obj.number
  listenKeys : ∀ identify ∈ p.listenKeys, taggedApp identify ≠ some appKey
  inbox : ∀ identify, .networkDisconnect identify ∈ p.inbox → taggedApp identify ≠ some appKey

structure Unnamed (p : Process) (socket : Int) : Prop where
  listenKeys : ∀ identify ∈ p.listenKeys, identify.socketKey.socket ≠ socket
  inbox : ∀ appType appId identify number, .appRegister appType appId identify number ∈ p.inbox →
    identify.socketKey.socket ≠ socket

/-- A registration is for the application the connection is tagged with, if it is.
One that makes an entry is for an application with an endpoint that nothing else
stands for, and the first of its connection. -/
def Proper (configs : Configs) (p : Process) : Message → Prop
  | .appRegister appType appId identify number =>
      (∀ tagged, taggedApp identify = some tagged → tagged = appKeyOf appType appId) ∧
      (p.netIdentify[appKeyOf appType appId]? = none →
        Located configs (appKeyOf appType appId) ∧ Unclaimed p (appKeyOf appType appId) ∧
        ∀ socket obj other, p.connects socket = some obj → obj.number = number →
          p.registered other = some number → other = appKeyOf appType appId)
  | .networkDisconnect _ => True

/-- Besides, no descriptor is used again while a message names it, and connections
are made to applications with an endpoint that nothing else stands for. -/
def InTurn (configs : Configs) (p : Process) : Event → Prop
  | .accept socket => Unnamed p socket
  | .connect appKey socket _ => Unnamed p socket ∧ Located configs appKey ∧ Unclaimed p appKey
  | .handle => ∀ message rest, p.inbox = message :: rest → Proper configs p message
  | _ => True

end GameBook.AppRegistrations
