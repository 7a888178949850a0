import GameBook.ConnectsAnnounced
import GameBook.LoginVerification

/-!
A login process with its clients, its redis thread and its http connector, and
the messages under way between them. The verification server answers on a
connection, closes it or refuses it at any time; what it was sent is not followed.
Which connections have given a response, and which clients wait for an answer, is
not in the code.
-/

namespace GameBook.LoginAttempts

open OrderedMap SocketObject CString PlayerCollector SyncComponent Account LabelledRun
open NetworkConnects (ConnectObj)
open OutgoingConnects (Connector Endpoint ConnectDetail NetworkConnect Outcome Waiting)
open PacketPool (entry)
open LoginVerification (newMessages onlineQueries connects)

inductive FromClient where
  | accountCheck (socket : Int) (account password : Str)
  | disconnect (socket : Int)

structure OnlineRs where
  account : Str
  offline : Bool
  deriving DecidableEq

/-- MI_HttpOuterResponse; `body` is none where it is no JSON. -/
structure Response where
  identify : NetIdentify
  status : Int
  body : Option ReturnCode

/-- `orders` and `disconnects` of the connector are messages under way, too.
`asking` has the account of a client's last C2L_AccountCheck until it is answered. -/
structure Login (Proto : Type) where
  account : AccountState Proto
  connector : Connector
  connected : List Int
  fromClients : List FromClient
  queries : List Str
  replies : List OnlineRs
  established : List NetIdentify
  responses : List Response
  responded : Int → Bool
  asking : Int → Option Str

variable {Proto : Type}

def start : Login Proto where
  account := create
  connector := OutgoingConnects.start .httpConnector
  connected := []
  fromClients := []
  queries := []
  replies := []
  established := []
  responses := []
  responded := fun _ => false
  asking := fun _ => none

/-! ### Account -/

/-- C2L_AccountCheckRs, L2C_PlayerList, or the query for it. The query is sent
where the database process is `located`. -/
def answers (located : Bool) (socket : Int) (account : Str) : Sent Proto → Bool
  | .accountCheckRs receiver _ => receiver.socket = socket
  | .playerList receiver _ => receiver.socket = socket
  | .queryPlayerList name => located && name = cStr account
  | _ => false

def createConnect (endpoint : Endpoint) (account : Str) : NetworkConnect :=
  ⟨.httpConnector, ⟨.account, ⟨account, 0⟩, endpoint, none⟩⟩

def record (endpoint : Endpoint) (located : Bool) (s : Login Proto) (account : AccountState Proto) :
    Login Proto :=
  let messages := newMessages s.account account
  { s with
    account := account
    connector := { s.connector with
      orders := s.connector.orders ++ (connects messages).map (createConnect endpoint) }
    queries := s.queries ++ onlineQueries messages
    asking := fun socket => (s.asking socket).filter fun name =>
      !(messages.any (answers located socket name)) }

def ask (s : Login Proto) (socket : Int) (account : Option Str) : Login Proto :=
  { s with asking := fun other => if other = socket then account else s.asking other }

def client (socket : Int) : NetIdentify := ⟨⟨socket, .tcpListen⟩, clear⟩

def handleClient (endpoint : Endpoint) (s : Login Proto) : Option (Login Proto) :=
  match s.fromClients with
  | [] => none
  | .accountCheck socket account password :: rest =>
      some (record endpoint true (ask { s with fromClients := rest } socket (some account))
        (handleAccountCheck s.account (client socket) account password))
  | .disconnect socket :: rest =>
      some (ask (record endpoint true { s with fromClients := rest }
        (handleNetworkDisconnect s.account (client socket).socketKey)) socket none)

/-- MI_NetworkDisconnect of an http connection reaches `Account` and the locator. -/
def handleDisconnect (getIPEndPoint : UInt64 → UInt64 → Option Endpoint) (endpoint : Endpoint)
    (s : Login Proto) : Option (Login Proto) :=
  match s.connector.disconnects with
  | [] => none
  | closed :: _ =>
      (OutgoingConnects.handleNetworkDisconnect getIPEndPoint s.connector).map fun connector =>
        record endpoint true { s with connector := connector }
          (handleNetworkDisconnect s.account closed.socketKey)

/-! ### The http connector -/

/-- MI_NetworkConnected, where the first event of a connection establishes it. -/
def established (c : Connector) (socket : Int) : List NetIdentify :=
  match c.network.connects[socket]? with
  | some obj => if obj.state = .connecting ∧ obj.tagKey .app = none then [obj.toNetIdentify] else []
  | none => []

def received (c : Connector) (socket : Int) (bodies : List (Int × Option ReturnCode)) (isRs : Bool) :
    List Response :=
  match c.network.connects[socket]? with
  | some obj =>
      if obj.state = .connecting ∨ isRs = false then []
      else bodies.map fun body => ⟨obj.toNetIdentify, body.1, body.2⟩
  | none => []

def readable (s : Login Proto) (socket : Int) (bodies : List (Int × Option ReturnCode))
    (isRs : Bool) : Login Proto :=
  { s with
    connector := OutgoingConnects.recv s.connector socket bodies.length isRs
    established := s.established ++ established s.connector socket
    responses := s.responses ++ received s.connector socket bodies isRs
    responded := fun other => s.responded other ||
      (other = socket && !(received s.connector socket bodies isRs).isEmpty) }

def writable (s : Login Proto) (socket : Int) (sent : Bool) : Login Proto :=
  { s with
    connector := OutgoingConnects.send s.connector socket sent
    established := s.established ++ established s.connector socket }

/-- A connection that is made has given no response. -/
def update (outcome : Nat → Outcome) (s : Login Proto) : Login Proto :=
  { s with
    connector := OutgoingConnects.update outcome s.connector
    responded := fun socket =>
      s.responded socket && (s.connector.network.connects[socket]?).isSome }

def made : Outcome → Option Int
  | .done socket true => some socket
  | .waiting socket true => some socket
  | _ => none

structure Unused (c : Connector) (outcome : Nat → Outcome) : Prop where
  free : ∀ sn socket, made (outcome sn) = some socket → c.network.connects[socket]? = none
  apart : ∀ first second socket, made (outcome first) = some socket →
    made (outcome second) = some socket → first = second

inductive Event (Proto : Type) where
  | accept (socket : Int)
  | sendCheck (socket : Int) (account password : Str)
  | hangUp (socket : Int)
  | handleClient
  | redis (index : Nat) (offline : Bool)
  | onlineRs (index : Nat)
  | networkConnect (order : NetworkConnect)
  | handleNetworkConnect (sn : Nat)
  | update (outcome : Nat → Outcome)
  | readable (socket : Int) (bodies : List (Int × Option ReturnCode)) (isRs : Bool)
  | writable (socket : Int) (sent : Bool)
  | except (socket : Int)
  | requestDisconnect (identify : NetIdentify)
  | networkConnected (index : Nat)
  | httpOuterResponse (index : Nat) (located : Bool)
  | networkDisconnect
  | playerListRs (account : Str) (players : List (UInt64 × Proto))
  | createPlayer (identify : NetIdentify) (create : CreatePlayer) (playerSn : UInt64)
  | createPlayerRs (identify : NetIdentify) (code : Int)
  | selectPlayer (identify : NetIdentify) (playerSn : UInt64)
  | tokenRs (account token : Str)
  | appInfoListSync (infos : List AppInfoSync)

/-- What the process has around it: the configured applications, the roles map
and the address of the verification server. -/
structure Config where
  configured : UInt64 → Int → Option CommonConfig
  getIPEndPoint : UInt64 → UInt64 → Option Endpoint
  rolesMap : Option Int
  endpoint : Endpoint

def loginStep (config : Config) (before : Login Proto) (event : Event Proto) (after : Login Proto) :
    Prop :=
  match event with
  | .accept socket =>
      socket ∉ before.connected ∧ after = { before with connected := socket :: before.connected }
  | .sendCheck socket account password =>
      socket ∈ before.connected ∧
        after = { before with
          fromClients := before.fromClients ++ [.accountCheck socket account password] }
  | .hangUp socket =>
      socket ∈ before.connected ∧
        after = { before with
          connected := before.connected.erase socket
          fromClients := before.fromClients ++ [.disconnect socket] }
  | .handleClient => handleClient config.endpoint before = some after
  | .redis index offline =>
      ∃ account, before.queries[index]? = some account ∧
        after = { before with
          queries := before.queries.eraseIdx index
          replies := before.replies ++ [⟨cStr account, offline⟩] }
  | .onlineRs index =>
      ∃ reply, before.replies[index]? = some reply ∧
        after = record config.endpoint true
          { before with replies := before.replies.eraseIdx index }
          (handleAccountQueryOnlineToRedisRs before.account reply.account reply.offline)
  | .networkConnect order =>
      after = { before with connector := { before.connector with
        orders := before.connector.orders ++ [order] } }
  | .handleNetworkConnect sn =>
      ∃ connector, OutgoingConnects.handleNetworkConnect before.connector sn = some connector ∧
        after = { before with connector := connector }
  | .update outcome => Unused before.connector outcome ∧ after = update outcome before
  | .readable socket bodies isRs => after = readable before socket bodies isRs
  | .writable socket sent => after = writable before socket sent
  | .except socket =>
      after = { before with connector := OutgoingConnects.except before.connector socket }
  | .requestDisconnect identify =>
      after = { before with
        connector := OutgoingConnects.requestDisconnect before.connector identify }
  | .networkConnected index =>
      ∃ identify, before.established[index]? = some identify ∧
        after = record config.endpoint true
          { before with established := before.established.eraseIdx index }
          (handleNetworkConnected before.account identify)
  | .httpOuterResponse index located =>
      ∃ response, before.responses[index]? = some response ∧
        after = record config.endpoint located
          { before with responses := before.responses.eraseIdx index }
          (handleHttpOuterResponse config.rolesMap before.account response.identify
            response.status response.body)
  | .networkDisconnect => handleDisconnect config.getIPEndPoint config.endpoint before = some after
  | .playerListRs account players =>
      after = record config.endpoint true before
        (handleQueryPlayerListRs before.account account players)
  | .createPlayer identify create playerSn =>
      after = record config.endpoint true before
        (handleCreatePlayer before.account identify.socketKey create playerSn)
  | .createPlayerRs identify code =>
      after = record config.endpoint true before
        (handleCreatePlayerRs before.account identify.socketKey code)
  | .selectPlayer identify playerSn =>
      after = record config.endpoint true before
        (handleSelectPlayer before.account identify.socketKey playerSn)
  | .tokenRs account token =>
      after = record config.endpoint true before
        (handleTokenToRedisRs before.account account token)
  | .appInfoListSync infos =>
      after = record config.endpoint true before
        (handleAppInfoListSync config.configured before.account infos)

/-! ### What is asked of a run -/

def IsFor (detail : ConnectDetail) (name : Str) : Prop :=
  detail.tagType = .account ∧ detail.tagValue = ⟨name, 0⟩

def Tagged (tagKey : TagKey) (name : Str) : Prop :=
  ∃ tagValue, tagKey .account = some tagValue ∧ tagValue.keyStr = name

/-- No message is in flight that has to do with the account, no connection is
asked for and none is open. -/
structure Quiet (s : Login Proto) (account : Str) : Prop where
  clients : s.fromClients = []
  queries : cStr account ∉ s.queries
  replies : ∀ reply ∈ s.replies, reply.account ≠ cStr account
  orders : ∀ order ∈ s.connector.orders, ¬ IsFor order.detail (cStr account)
  requests : ∀ index detail, Waiting s.connector index →
    s.connector.requests[index]? = some detail → ¬ IsFor detail (cStr account)
  connects : ∀ (socket : Int) (obj : ConnectObj), s.connector.network.connects[socket]? = some obj →
    ¬ Tagged obj.tagKey (cStr account)
  responses : ∀ response ∈ s.responses, ¬ Tagged response.identify.tagKey (cStr account)

/-- Every client that is still connected has its answer when all is quiet. -/
def Law (s : Login Proto) : Prop :=
  ∀ socket ∈ s.connected, ∀ account, s.asking socket = some account → ¬ Quiet s account

inductive Besides where
  | nothing
  | connection (socket : Int)
  | response (index : Nat)

/-- Something is under way that leads to an answer for the account. -/
inductive UnderWay (s : Login Proto) (besides : Besides) (name : Str) : Prop where
  | query (listed : name ∈ s.queries)
  | reply (offline : Bool) (listed : ⟨name, offline⟩ ∈ s.replies)
  | order (order : NetworkConnect) (listed : order ∈ s.connector.orders)
      (own : order.networkType = s.connector.network.networkType)
      (names : IsFor order.detail name)
  | request (index : Nat) (detail : ConnectDetail) (waiting : Waiting s.connector index)
      (asked : s.connector.requests[index]? = some detail) (names : IsFor detail name)
  | connection (socket : Int) (obj : ConnectObj) (apart : besides ≠ .connection socket)
      (held : s.connector.network.connects[socket]? = some obj) (tagged : Tagged obj.tagKey name)
      (silent : s.responded socket = false)
  | response (index : Nat) (response : Response) (apart : besides ≠ .response index)
      (listed : s.responses[index]? = some response)
      (tagged : Tagged response.identify.tagKey name)

def Spare (s : Login Proto) (besides : Besides) (tagKey : TagKey) : Prop :=
  ∀ socket name, s.asking socket = some name → Tagged tagKey name → UnderWay s besides name

def SpareOn (s : Login Proto) (socket : Int) : Prop :=
  ∀ obj, s.connector.network.connects[socket]? = some obj → Spare s (.connection socket) obj.tagKey

/-- No connection is closed as the last thing under way for a client that waits,
and no response is handled so while the database process is not located. The
account of a session has no NUL, and numbers of requests are not in use. -/
def Heard (before : Login Proto) : Event Proto → Prop
  | .handleClient =>
      ∀ socket account password rest,
        before.fromClients = .accountCheck socket account password :: rest →
          cStr account = account ∨
            (getPlayerByAccount before.account.collector account).1.isSome ∨
            (getPlayerBySocket before.account.collector socket).isSome
  | .handleNetworkConnect sn =>
      ∀ order rest, before.connector.orders = order :: rest →
        order.networkType = before.connector.network.networkType →
          entry before.connector.connecting sn = none
  | .readable socket _ isRs =>
      isRs = true ∨
        (∃ obj, before.connector.network.connects[socket]? = some obj ∧ obj.state = .connecting) ∨
        SpareOn before socket
  | .writable socket sent =>
      sent = true ∨
        (∃ obj, before.connector.network.connects[socket]? = some obj ∧ obj.state = .connecting) ∨
        SpareOn before socket
  | .except socket => SpareOn before socket
  | .requestDisconnect identify =>
      identify.socketKey.netType = .httpConnector → SpareOn before identify.socketKey.socket
  | .httpOuterResponse index located =>
      located = true ∨ ∀ response, before.responses[index]? = some response →
        responseCode response.status response.body = .ok →
          Spare before (.response index) response.identify.tagKey
  | _ => True

end GameBook.LoginAttempts
