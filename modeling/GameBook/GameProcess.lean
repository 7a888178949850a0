import GameBook.Handover
import GameBook.Lobby

/-!
A game process: its lobby, its world proxies, its listening network and the
packets dispatched between them. `ThreadMgr::UpdateDispatchPacket` gives every
thread the packets in one order and each thread comes to them at its own pace,
so the log of all packets is kept and every reader has its place in it.
-/

namespace GameBook.GameProcess

open OrderedMap SocketObject PlayerCollector Handover LabelledRun
open WorldProxy (Proxy Teleport)
open Lobby (LobbyState Locator PlayerProto Resources)

inductive Packet where
  | loginByToken (identify : NetIdentify) (account token : Str)
  | enterWorld (identify : NetIdentify) (worldId : Int)
  | networkDisconnect (identify : NetIdentify)
  | networkListenKey (socketKey : SocketKey) (account : Str)
  | networkRequestDisconnect (identify : NetIdentify)
  | gameTokenToRedisRs (account token : Str) (playerSn : UInt64)
  | queryPlayerRs (account : Str) (proto : PlayerProto)
  | queryWorldRs (worldSn : UInt64) (ok : Bool)
  | broadcastCreateWorldProxy (worldId : Int) (worldSn lastWorldSn : UInt64)
  | syncPlayer (identify : NetIdentify) (proto : PlayerProto)
  | teleport (message : Teleport PlayerProto)
  | teleportAfter (playerSn lastWorldSn : UInt64)

def noSocket : SocketKey := ⟨-1, .none⟩

def identifyOf : Packet → NetIdentify
  | .loginByToken identify _ _ => identify
  | .enterWorld identify _ => identify
  | .networkDisconnect identify => identify
  | .networkListenKey socketKey account => ⟨socketKey, addTagStr clear .account account⟩
  | .networkRequestDisconnect identify => identify
  | .broadcastCreateWorldProxy _ _ lastWorldSn =>
      ⟨noSocket, if lastWorldSn > 0 then addTagInt clear .entity lastWorldSn else clear⟩
  | .syncPlayer identify _ => identify
  | .teleport message => ⟨message.socketKey, addTagInt clear .entity message.targetWorldSn⟩
  | .teleportAfter playerSn lastWorldSn =>
      ⟨noSocket, addTagInt (addTagInt clear .player playerSn) .entity lastWorldSn⟩
  | _ => ⟨noSocket, clear⟩

/-- `MessageSystem::Update`: an Entity tag other than 0 names the only receiver. -/
def addressed (identify : NetIdentify) (sn : UInt64) : Bool :=
  match identify.tagKey .entity with
  | none => true
  | some entity => entity.keyInt64 = 0 || entity.keyInt64 = sn

structure Connection where
  tags : TagKey
  logins : List Str

structure Station where
  proxy : Proxy PlayerProto
  cursor : Nat

structure Process where
  log : List Packet
  lobby : LobbyState
  lobbyCursor : Nat
  stations : Table UInt64 Station
  connections : Table Int Connection
  networkCursor : Nat

def start (sn : UInt64) : Process := ⟨[], Lobby.create sn, 0, ∅, ∅, 0⟩

/-! What the lobby and the proxies dispatch, and what they read. -/

def lobbyPacket : Lobby.Sent → Option Packet
  | .listenKey socketKey account => some (.networkListenKey socketKey account)
  | .requestDisconnect identify => some (.networkRequestDisconnect identify)
  | .teleport message => some (.teleport message)
  | _ => none

def proxyPacket : WorldProxy.Sent PlayerProto → Option Packet
  | .listenKey socketKey account => some (.networkListenKey socketKey account)
  | .requestDisconnect socketKey account =>
      some (.networkRequestDisconnect ⟨socketKey, addTagStr clear .account account⟩)
  | .teleport message => some (.teleport message)
  | .teleportAfter playerSn lastWorldSn => some (.teleportAfter playerSn lastWorldSn)
  | _ => none

def lobbyDispatches (before after : LobbyState) : List Packet :=
  (after.sent.drop before.sent.length).filterMap lobbyPacket

def proxyDispatches (before after : Proxy PlayerProto) : List Packet :=
  (after.sent.drop before.sent.length).filterMap proxyPacket

def lobbyEvent (locator : Locator) : Packet → Option Lobby.Event
  | .loginByToken identify account token => some (.login identify account token)
  | .queryPlayerRs account proto => some (.queryPlayerRs locator account proto)
  | .queryWorldRs worldSn ok => some (.queryWorldRs locator worldSn ok)
  | .broadcastCreateWorldProxy worldId worldSn _ => some (.broadcast worldId worldSn)
  | .teleportAfter playerSn lastWorldSn =>
      some (.teleportAfter (identifyOf (.teleportAfter playerSn lastWorldSn)))
  | .networkDisconnect identify => some (.disconnect identify)
  | _ => none

def proxyEvent (located : UInt64) (space : Option UInt64) :
    Packet → Option (WorldProxy.Event PlayerProto)
  | .enterWorld identify worldId => some (.enterWorld identify worldId located space)
  | .syncPlayer identify proto => some (.syncPlayer identify proto)
  | .broadcastCreateWorldProxy worldId worldSn _ => some (.broadcast worldId worldSn)
  | .teleport message => some (.teleport message)
  | .teleportAfter playerSn lastWorldSn =>
      some (.teleportAfter (identifyOf (.teleportAfter playerSn lastWorldSn)) playerSn)
  | .networkDisconnect identify => some (.disconnect identify)
  | _ => none

/-- `RegisterFunctionFilter`: a message without its player is not handled. -/
def lobbyFilters (s : LobbyState) : Lobby.Event → Bool
  | .teleportAfter identify => (Lobby.getPlayer s identify).isNone
  | _ => false

def proxyFilters (s : Proxy PlayerProto) : WorldProxy.Event PlayerProto → Bool
  | .enterWorld identify _ _ _ => (WorldProxy.getPlayer s identify).isNone
  | .syncPlayer identify _ => (WorldProxy.getPlayer s identify).isNone
  | .teleportAfter identify _ => (WorldProxy.getPlayer s identify).isNone
  | _ => false

def lobbyReads (resources : Resources) (locator : Locator) (before : LobbyState) (packet : Packet)
    (after : LobbyState) : Prop :=
  match packet with
  | .gameTokenToRedisRs account token playerSn =>
      after = Lobby.handleGameTokenToRedisRs before account token playerSn
  | packet =>
      match lobbyEvent locator packet with
      | none => after = before
      | some event =>
          if addressed (identifyOf packet) before.sn = true ∧ lobbyFilters before event = false then
            Lobby.lobbyStep resources before event after
          else after = before

def proxyReads (world : Int → Option WorldProxy.WorldType) (located : UInt64) (space : Option UInt64)
    (before : Proxy PlayerProto) (packet : Packet) (after : Proxy PlayerProto) : Prop :=
  match proxyEvent located space packet with
  | none => after = before
  | some event =>
      if addressed (identifyOf packet) before.sn = true ∧ proxyFilters before event = false then
        WorldProxy.proxyStep world before event after
      else after = before

/-- `NetworkListen`: `HandleListenKey` and `HandleDisconnect`. The network has a
SN of its own, which no Entity tag names. -/
def networkReads (connections : Table Int Connection) : Packet → Table Int Connection × List Packet
  | .networkListenKey socketKey account =>
      if socketKey.netType = .tcpListen then
        match connections[socketKey.socket]? with
        | none => (connections, [])
        | some connection =>
            (connections.insert socketKey.socket
              { connection with tags := copyFrom connection.tags (addTagStr clear .account account) }, [])
      else (connections, [])
  | .networkRequestDisconnect identify =>
      if addressed identify 0 = true ∧ identify.socketKey.netType = .tcpListen then
        match connections[identify.socketKey.socket]? with
        | none => (connections, [])
        | some connection =>
            (connections.erase identify.socketKey.socket,
              [.networkDisconnect ⟨identify.socketKey, connection.tags⟩])
      else (connections, [])
  | _ => (connections, [])

/-! The steps of the process. -/

/-- The tags of a client's packet: those of the connection, and what the head of
the packet or the socket locator says of the receiver. -/
def clientTags (tags : TagKey) (entity player : Option UInt64) : TagKey :=
  let routed := match entity with
    | none => tags
    | some sn => addTagInt tags .entity sn
  match player with
  | none => routed
  | some sn => addTagInt routed .player sn

inductive Event where
  | accept (socket : Int)
  | login (socket : Int) (entity player : Option UInt64) (account token : Str)
  | enterWorld (socket : Int) (entity player : Option UInt64) (worldId : Int)
  | close (socket : Int)
  | reply (packet : Packet)
  | network
  | lobby (locator : Locator)
  | station (sn located : UInt64) (space : Option UInt64)
  | create (sn : UInt64) (cursor : Nat)
  | dispose (sn : UInt64)

/-- What other processes and threads may say. The player table is keyed by SN,
`owner` is its account column; a connection to another process is none of the clients'. -/
def Replies (owner : UInt64 → Option Str) (p : Process) : Packet → Prop
  | .gameTokenToRedisRs _ _ _ => True
  | .queryPlayerRs account proto => proto.sn ≠ 0 → owner proto.sn = some account
  | .queryWorldRs _ _ => True
  | .broadcastCreateWorldProxy _ _ _ => True
  | .syncPlayer _ _ => True
  | .networkDisconnect identify =>
      identify.tagKey .account = none ∧ p.connections[identify.socketKey.socket]? = none
  | _ => False

def clientIdentify (socket : Int) (connection : Connection) (entity player : Option UInt64) : NetIdentify :=
  ⟨⟨socket, .tcpListen⟩, clientTags connection.tags entity player⟩

/-- An SN is generated once, so no teleport was addressed to it before. -/
def Fresh (p : Process) (sn : UInt64) : Prop :=
  sn ≠ 0 ∧ sn ≠ p.lobby.sn ∧ p.stations[sn]? = none ∧
    ∀ (place : Nat) (message : Teleport PlayerProto),
      p.log[place]? = some (.teleport message) → message.targetWorldSn ≠ sn

def processStep (resources : Resources) (owner : UInt64 → Option Str) (before : Process)
    (event : Event) (after : Process) : Prop :=
  match event with
  | .accept socket =>
      before.connections[socket]? = none ∧
        after = { before with connections := before.connections.insert socket ⟨clear, []⟩ }
  | .login socket entity player account token =>
      ∃ connection identify, before.connections[socket]? = some connection ∧
        identify = clientIdentify socket connection entity player ∧
        after = { before with
          log := before.log ++ [.loginByToken identify account token]
          connections := if addressed identify before.lobby.sn then before.connections.insert socket
              { connection with logins := account :: connection.logins }
            else before.connections }
  | .enterWorld socket entity player worldId =>
      ∃ connection, before.connections[socket]? = some connection ∧
        after = { before with
          log := before.log ++ [.enterWorld (clientIdentify socket connection entity player) worldId] }
  | .close socket =>
      ∃ connection, before.connections[socket]? = some connection ∧
        after = { before with
          log := before.log ++ [.networkDisconnect ⟨⟨socket, .tcpListen⟩, connection.tags⟩]
          connections := before.connections.erase socket }
  | .reply packet => Replies owner before packet ∧ after = { before with log := before.log ++ [packet] }
  | .network =>
      ∃ packet connections new, before.log[before.networkCursor]? = some packet ∧
        networkReads before.connections packet = (connections, new) ∧
        after = { before with
          log := before.log ++ new
          connections := connections
          networkCursor := before.networkCursor + 1 }
  | .lobby locator =>
      ∃ packet lobby, before.log[before.lobbyCursor]? = some packet ∧
        lobbyReads resources locator before.lobby packet lobby ∧
        after = { before with
          log := before.log ++ lobbyDispatches before.lobby lobby
          lobby := lobby
          lobbyCursor := before.lobbyCursor + 1 }
  | .station sn located space =>
      ∃ station packet proxy, before.stations[sn]? = some station ∧
        before.log[station.cursor]? = some packet ∧
        proxyReads resources.world located space station.proxy packet proxy ∧
        after = { before with
          log := before.log ++ proxyDispatches station.proxy proxy
          stations := before.stations.insert sn ⟨proxy, station.cursor + 1⟩ }
  | .create sn cursor =>
      Fresh before sn ∧ cursor ≤ before.log.length ∧
        after = { before with
          stations := before.stations.insert sn ⟨WorldProxy.create sn, cursor⟩ }
  | .dispose sn =>
      ∃ station, before.stations[sn]? = some station ∧ station.proxy.removed = true ∧
        after = { before with stations := before.stations.erase sn }

/-! The law. -/

def slotsOf {Components : Type} (c : Collector Components) (socket : Int) : Option (Slot Str UInt64) :=
  (getPlayerBySocket c socket).map fun player => ⟨player.account, player.playerSn⟩

def sessions (p : Process) (sn : UInt64) : Int → Option (Slot Str UInt64) :=
  if sn = p.lobby.sn then slotsOf p.lobby.collector
  else match p.stations[sn]? with
    | none => fun _ => none
    | some station => slotsOf station.proxy.collector

structure AllRead (p : Process) : Prop where
  lobby : p.lobbyCursor = p.log.length
  network : p.networkCursor = p.log.length
  stations : ∀ (sn : UInt64) (station : Station), p.stations[sn]? = some station →
    station.cursor = p.log.length

structure NoGhosts (p : Process) : Prop where
  connected : AllRead p → ∀ sn socket player, sessions p sn socket = some player →
    ∃ connection, p.connections[socket]? = some connection ∧ player.account ∈ connection.logins
  single : AllRead p → ∀ sn other socket another player twin, sessions p sn socket = some player →
    sessions p other another = some twin → player.account = twin.account → sn = other

/-! The process as a hub of holders. -/

def noteOf (lobbySn : UInt64) : Packet → Note UInt64 Int Str UInt64
  | .loginByToken identify account _ =>
      if addressed identify lobbySn then .login identify.socketKey.socket account else .other
  | .networkDisconnect identify =>
      .closed identify.socketKey.socket (identify.tagKey .account).isSome
  | .teleport message =>
      .hop ⟨message.targetWorldSn, message.lastWorldSn, message.socketKey.socket, message.account,
        message.playerSn⟩
  | .teleportAfter playerSn lastWorldSn => .left lastWorldSn playerSn
  | _ => .other

def notes (p : Process) (new : List Packet) : List (Note UInt64 Int Str UInt64) :=
  new.map (noteOf p.lobby.sn)

def holderOf (p : Process) (sn : UInt64) : Option (Holder Int Str UInt64) :=
  if sn = p.lobby.sn then some ⟨p.lobbyCursor, slotsOf p.lobby.collector⟩
  else (p.stations[sn]?).map fun station => ⟨station.cursor, slotsOf station.proxy.collector⟩

def linksOf (connections : Table Int Connection) (socket : Int) : Option (List Str) :=
  (connections[socket]?).map (·.logins)

def hub (p : Process) : Hub UInt64 Int Str UInt64 where
  log := notes p p.log
  holders := holderOf p
  links := linksOf p.connections

/-- What a step may dispatch: what `Safe` says of the logins, the closings and
the teleports among the packets, and teleports that name the player and the
receiver by SNs other than 0 and the account in full. -/
structure Orderly (p : Process) (new : List Packet) : Prop where
  safe : Safe p.lobby.sn (hub p) (notes p new)
  named : ∀ message, .teleport message ∈ new →
    message.playerSn ≠ 0 ∧ message.targetWorldSn ≠ 0 ∧
      ∀ player, sessions p message.lastWorldSn message.socketKey.socket = some player →
        player.account = message.account

def Allowed (resources : Resources) (owner : UInt64 → Option Str) (before : Process) (event : Event) :
    Prop :=
  ∀ after, processStep resources owner before event after →
    Orderly before (after.log.drop before.log.length)

end GameBook.GameProcess
