import GameBook.CString
import GameBook.PlayerCollector
import GameBook.SyncComponent

/-!
`Account`, the entity of a login process: the check of an account over http,
the list of its players, their creation and selection, and the token of the
selected one. Every reply but a client's own message finds its session by the
account name alone.
-/

namespace GameBook.Account

open OrderedMap SocketObject AppKey CString PlayerCollector SyncComponent

inductive CheckCode where
  | ok
  | unknown
  | notFoundAccount
  | passwordWrong
  | logging
  | timeout
  | online
  deriving DecidableEq, Repr

structure CreatePlayer where
  name : Str
  gender : Int
  deriving DecidableEq

/-- `PlayerComponentAccount`, `PlayerComponentOnlineInLogin` and
`PlayerComponentProtoList` of a player. -/
structure Components (Proto : Type) where
  password : Str
  selectPlayerSn : UInt64
  onlineInLogin : Bool
  protoList : Option (Table UInt64 Proto)

abbrev Session (Proto : Type) := Player (Components Proto)

inductive Sent (Proto : Type) where
  | listenKey (socketKey : SocketKey) (account : Str)
  | requestDisconnect (socketKey : SocketKey)
  | accountCheckRs (receiver : SocketKey) (code : CheckCode)
  | queryOnline (account : Str)
  | deleteOnline (account : Str)
  | createConnect (account : Str)
  | httpRequest (http : SocketKey) (account password : Str)
  | enterWorld (receiver : SocketKey) (worldId : Int)
  | queryPlayerList (account : Str)
  | playerList (receiver : SocketKey) (players : List (UInt64 × Proto))
  | createPlayer (account : Str) (playerSn : UInt64) (player : CreatePlayer)
  | createPlayerRs (receiver : SocketKey) (code : Int)
  | selectPlayerNotFound (receiver : SocketKey)
  | loginTokenToRedis (account : Str) (playerSn : UInt64)
  | gameTokenOk (receiver : SocketKey) (game : AppInfo) (token : Str)
  | gameTokenNoGame (receiver : SocketKey)

structure AccountState (Proto : Type) where
  collector : Collector (Components Proto)
  apps : Apps
  sent : List (Sent Proto)

variable {Proto : Type}

def create : AccountState Proto := ⟨empty, ∅, []⟩

def send (s : AccountState Proto) (message : Sent Proto) : AccountState Proto :=
  { s with sent := s.sent ++ [message] }

/-- `RemovePlayerBySocket`; the online component deletes its flag on its way to the pool. -/
def removeBySocket (s : AccountState Proto) (socket : Int) : AccountState Proto :=
  match getPlayerBySocket s.collector socket with
  | none => s
  | some player =>
      let removed := { s with collector := removePlayerBySocket s.collector socket }
      if player.components.onlineInLogin then send removed (.deleteOnline (cStr player.account))
      else removed

def invalidSocket : Int := -1

def handleAppInfoListSync (configured : UInt64 → Int → Option CommonConfig) (s : AccountState Proto)
    (infos : List AppInfoSync) : AccountState Proto :=
  { s with apps := infos.foldl (fun apps info => parse configured apps info invalidSocket) ∅ }

def handleNetworkConnected (s : AccountState Proto) (identify : NetIdentify) : AccountState Proto :=
  match identify.tagKey .account with
  | none => s
  | some tag =>
      if identify.socketKey.netType ≠ .httpConnector then s
      else
        match getPlayerByAccount s.collector tag.keyStr with
        | (none, collector) => { s with collector := collector }
        | (some player, collector) =>
            send { s with collector := collector }
              (.httpRequest identify.socketKey player.account player.components.password)

def handleNetworkDisconnect (s : AccountState Proto) (socketKey : SocketKey) : AccountState Proto :=
  if socketKey.netType ≠ .tcpListen then s else removeBySocket s socketKey.socket

def socketDisconnect (s : AccountState Proto) (socketKey : SocketKey) : AccountState Proto :=
  send (send s (.accountCheckRs socketKey .logging)) (.requestDisconnect socketKey)

def handleAccountCheck (s : AccountState Proto) (identify : NetIdentify) (account password : Str) :
    AccountState Proto :=
  match getPlayerByAccount s.collector account with
  | (some _, collector) => socketDisconnect { s with collector := collector } identify.socketKey
  | (none, collector) =>
      match addPlayer collector identify.socketKey account ⟨password, 0, false, none⟩ with
      | none => socketDisconnect { s with collector := collector } identify.socketKey
      | some (player, added) =>
          send (send { s with collector := added } (.listenKey player.socketKey player.account))
            (.queryOnline (cStr player.account))

def handleAccountQueryOnlineToRedisRs (s : AccountState Proto) (account : Str) (offline : Bool) :
    AccountState Proto :=
  match getPlayerByAccount s.collector account with
  | (none, collector) => { s with collector := collector }
  | (some player, collector) =>
      if !offline then
        send { s with collector := collector } (.accountCheckRs player.socketKey .online)
      else
        send { s with
          collector := setPlayer collector
            { player with components := { player.components with onlineInLogin := true } } }
          (.createConnect (cStr player.account))

/-- `PlayerComponentProtoList::Parse`. -/
def parseList (list : Table UInt64 Proto) (players : List (UInt64 × Proto)) : Table UInt64 Proto :=
  players.foldl (fun protos entry => protos.insert entry.1 entry.2) list

def handleQueryPlayerListRs (s : AccountState Proto) (account : Str)
    (players : List (UInt64 × Proto)) : AccountState Proto :=
  match getPlayerByAccount s.collector account with
  | (none, collector) => { s with collector := collector }
  | (some player, collector) =>
      let listed :=
        if players.length > 0 then
          setPlayer collector { player with components := { player.components with
            protoList := some (parseList (player.components.protoList.getD ∅) players) } }
        else collector
      send { s with collector := listed } (.playerList player.socketKey players)

/-- `playerSn` is the next `GenerateSN`. -/
def handleCreatePlayer (s : AccountState Proto) (socketKey : SocketKey) (create : CreatePlayer)
    (playerSn : UInt64) : AccountState Proto :=
  match getPlayerBySocket s.collector socketKey.socket with
  | none => s
  | some player => send s (.createPlayer (cStr player.account) playerSn create)

def handleCreatePlayerRs (s : AccountState Proto) (socketKey : SocketKey) (code : Int) :
    AccountState Proto :=
  match getPlayerBySocket s.collector socketKey.socket with
  | none => s
  | some player => send s (.createPlayerRs player.socketKey code)

def requestToken (s : AccountState Proto) (player : Session Proto) : AccountState Proto :=
  send s (.loginTokenToRedis (cStr player.account) player.components.selectPlayerSn)

def handleSelectPlayer (s : AccountState Proto) (socketKey : SocketKey) (playerSn : UInt64) :
    AccountState Proto :=
  match getPlayerBySocket s.collector socketKey.socket with
  | none => s
  | some player =>
      let selected :=
        { player with components := { player.components with selectPlayerSn := playerSn } }
      match player.components.protoList.bind fun list => list[playerSn]? with
      | none =>
          send { s with collector := setPlayer s.collector selected }
            (.selectPlayerNotFound player.socketKey)
      | some _ =>
          let parsed := { selected with playerSn := playerSn }
          requestToken { s with collector := setPlayer s.collector parsed } parsed

/-- The member `returncode` of the verifier's answer. `asInt` also converts
null, a boolean or a real, and a missing member reads as null. -/
inductive ReturnCode where
  | int (code : Int)
  | converted (code : Int)
  deriving DecidableEq

def asInt : ReturnCode → Int
  | .int code => code
  | .converted code => code

def processMsg (returncode : ReturnCode) : CheckCode :=
  if asInt returncode = 0 then .ok
  else if asInt returncode = 2 then .notFoundAccount
  else if asInt returncode = 3 then .passwordWrong
  else .unknown

/-- The code of a response: `body` is none where it is no JSON. -/
def responseCode (status : Int) (body : Option ReturnCode) : CheckCode :=
  if status = 200 then
    match body with
    | some returncode => processMsg returncode
    | none => .timeout
  else .timeout

/-- `rolesMap` is the id of the roles map of the resource table, where there is one. -/
def sendEnterWorld (rolesMap : Option Int) (s : AccountState Proto) (receiver : SocketKey) :
    AccountState Proto :=
  match rolesMap with
  | some worldId => send s (.enterWorld receiver worldId)
  | none => s

def handleHttpOuterResponse (rolesMap : Option Int) (s : AccountState Proto) (identify : NetIdentify)
    (status : Int) (body : Option ReturnCode) : AccountState Proto :=
  match identify.tagKey .account with
  | none => s
  | some tag =>
      match getPlayerByAccount s.collector tag.keyStr with
      | (none, collector) => { s with collector := collector }
      | (some player, collector) =>
          let closed := send { s with collector := collector } (.requestDisconnect identify.socketKey)
          let entered := sendEnterWorld rolesMap closed player.socketKey
          if responseCode status body = .ok then
            send entered (.queryPlayerList (cStr player.account))
          else send entered (.accountCheckRs player.socketKey (responseCode status body))

def handleTokenToRedisRs (s : AccountState Proto) (account token : Str) : AccountState Proto :=
  match getPlayerByAccount s.collector account with
  | (none, collector) => { s with collector := collector }
  | (some player, collector) =>
      match getOneApp (bits .game) s.apps with
      | none => send { s with collector := collector } (.gameTokenNoGame player.socketKey)
      | some (info, apps) =>
          send { s with collector := collector, apps := apps }
            (.gameTokenOk player.socketKey info token)

end GameBook.Account
