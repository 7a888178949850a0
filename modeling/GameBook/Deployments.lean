import GameBook.Simulation
import GameBook.WorldTraffic

/-!
A world and its proxy in two deployments: in the all-in-one server, where every
packet between the two goes through the list of `ThreadMgr` to the threads of
both, and in a game server and a space server that are connected. Whatever the
all-in-one server does, the two servers could have done: the same packets come
in, the same packets go to the clients, in the same order.
-/

namespace GameBook.Deployments

open SocketObject AppKey ProtoId MessageSystem LabelledRun Simulation WorldTraffic
open NetworkLocator (Locator noIdentify getNetworkIdentify)
open LastMap (PlayerProto Resources)
open SpaceWorld (World ToPlayer Motion MoveVector3 Message handle relink relinkSent)
open WorldProxy (Proxy WorldType proxyStep getPlayer)
open PlayerCollector (getPlayerBySocket getPlayerBySn)

variable {Position Direction : Type}

/-! ### The functions of the two objects -/

def worldMessage (pooled : MoveVector3 Position Direction) (p : Packet Position) :
    Option (Message Position Direction) :=
  match p.content with
  | .networkDisconnect => some (.networkDisconnect p.toNetIdentify)
  | .syncPlayer _ player => some (.syncPlayer p.socketKey player)
  | .requestSyncPlayer _ => some (.requestSyncPlayer p.toNetIdentify)
  | .removePlayer playerSn => some (.removePlayer p.toNetIdentify playerSn)
  | .move positions => some (.move p.toNetIdentify positions pooled)
  | _ => none

/-- The message a function of the proxy reads out of a packet; `located` and
`space` are what the locators answer. -/
def proxyEvent (located : UInt64) (space : Option UInt64) (p : Packet Position) :
    Option (WorldProxy.Event (PlayerProto Position)) :=
  match p.content with
  | .networkDisconnect => some (.disconnect p.toNetIdentify)
  | .teleport lastWorldSn account playerSn player =>
      some (.teleport ⟨lastWorldSn, account, playerSn, player, p.socketKey, entitySn (asked p)⟩)
  | .teleportAfter playerSn => some (.teleportAfter p.toNetIdentify playerSn)
  | .broadcastCreateWorldProxy worldId worldSn => some (.broadcast worldId worldSn)
  | .toPlayer (.syncPlayer _ player) => some (.syncPlayer p.toNetIdentify player)
  | .enterWorld worldId => some (.enterWorld p.toNetIdentify worldId located space)
  | _ => none

structure WorldSide (Position Direction : Type) where
  world : World Position Direction
  routes : List (Route Position)

structure ProxySide (Position : Type) where
  proxy : Proxy (PlayerProto Position)
  routes : List (Route Position)
  clients : List (Packet Position)

def worldRoutes (before after : World Position Direction) : List (Route Position) :=
  (after.sent.drop before.sent.length).filterMap toPlayer

def proxyRoutes (process : Process) (sn : UInt64) (before after : Proxy (PlayerProto Position)) :
    List (Route Position) :=
  (after.sent.drop before.sent.length).filterMap (toWorld process sn)

/-- `HandleDefaultFunction`: to the client of the player in the tag, or to the
world for the player of the socket. -/
def handleDefaultFunction (process : Process) (sn : UInt64) (side : ProxySide Position)
    (p : Packet Position) : ProxySide Position :=
  match p.tagKey .player with
  | some tagPlayer =>
      match getPlayerBySn side.proxy.collector tagPlayer.keyInt64 with
      | none => side
      | some player =>
          { side with clients := side.clients ++
              [createPacket ⟨player.socketKey, addTagStr clear .account player.account⟩ p.content] }
  | none =>
      match getPlayerBySocket side.proxy.collector p.socketKey.socket with
      | none => side
      | some player =>
          { side with routes := side.routes ++ [copyPacketToWorld process sn player.playerSn p.content] }

/-- What the code is given: resources, arithmetic, and the kinds of worlds. -/
structure Setting (Position Direction : Type) where
  resources : Resources Position
  motion : Motion Position Direction
  kinds : Int → Option WorldType
  sn : UInt64

variable (setting : Setting Position Direction)

inductive WorldEffect (p : Packet Position) :
    WorldSide Position Direction → Handler → WorldSide Position Direction → Prop where
  | function (side : WorldSide Position Direction) (pooled : MoveVector3 Position Direction)
      (message : Message Position Direction) (after : World Position Direction) :
      worldMessage pooled p = some message →
      handle setting.resources setting.motion side.world message = some after →
      WorldEffect p side (.world (msgIdOf p.content)) ⟨after, side.routes ++ worldRoutes side.world after⟩

inductive ProxyEffect (process : Process) (p : Packet Position) :
    ProxySide Position → Handler → ProxySide Position → Prop where
  | function (side : ProxySide Position) (located : UInt64) (space : Option UInt64)
      (event : WorldProxy.Event (PlayerProto Position)) (after : Proxy (PlayerProto Position)) :
      proxyEvent located space p = some event → proxyStep setting.kinds side.proxy event after →
      ProxyEffect process p side (.proxy (msgIdOf p.content))
        { side with
          proxy := after, routes := side.routes ++ proxyRoutes process setting.sn side.proxy after }
  | default (side : ProxySide Position) : side.proxy.gone = false →
      ProxyEffect process p side .proxyDefault (handleDefaultFunction process setting.sn side p)

/-- What the filters find; those of other objects may find anything. -/
def worldFinds (others : Handler → Bool) (world : World Position Direction) (p : Packet Position) :
    Handler → Bool
  | .worldGetPlayer => (SpaceWorld.getPlayer world p.toNetIdentify).isSome
  | handler => others handler

def proxyFinds (others : Handler → Bool) (proxy : Proxy (PlayerProto Position)) (p : Packet Position) :
    Handler → Bool
  | .proxyGetPlayer => (getPlayer proxy p.toNetIdentify).isSome
  | handler => others handler

def WorldTakes (p : Packet Position) (system : System) (world : World Position Direction)
    (systemAfter : System) (after : WorldSide Position Direction) : Prop :=
  ∃ others, systemAfter = (process (worldFinds others world p) system (asked p)).1 ∧
    Run (WorldEffect setting p) ⟨world, []⟩
      (invoked setting.sn (worldFinds others world p)
        (process (worldFinds others world p) system (asked p)).2) after

def ProxyTakes (own : Process) (p : Packet Position) (system : System)
    (proxy : Proxy (PlayerProto Position)) (systemAfter : System) (after : ProxySide Position) : Prop :=
  ∃ others, systemAfter = (process (proxyFinds others proxy p) system (asked p)).1 ∧
    Run (ProxyEffect setting own p) ⟨proxy, [], []⟩
      (invoked setting.sn (proxyFinds others proxy p)
        (process (proxyFinds others proxy p) system (asked p)).2) after

def isTimer : Message Position Direction → Bool
  | .syncWorldToGather | .syncAppearTimer | .moveSystem .. => true
  | _ => false

def dispatchedOf (routes : List (Route Position)) : List (Packet Position) :=
  routes.filterMap fun
    | .dispatched p => some p
    | _ => none

def networkOf (routes : List (Route Position)) : List (Packet Position) :=
  routes.filterMap fun
    | .network p => some p
    | _ => none

/-- What else comes to the threads of the proxy: packets of clients, tagged with
an account alone, that are not the message by which a proxy adds a player to
the world; and the messages of other objects of the process for the proxy. -/
inductive FromOutside (p : Packet Position) : Prop where
  | client : p.tagKey .account ≠ none → p.tagKey .player = none → p.tagKey .app = none →
      p.tagKey .toWorld = none → msgIdOf p.content ≠ .g2sSyncPlayer → FromOutside p
  | teleport (lastWorldSn : UInt64) (account : Str) (playerSn : UInt64) (player : PlayerProto Position) :
      p.content = .teleport lastWorldSn account playerSn player → p.tagKey .toWorld = none → FromOutside p
  | teleportAfter (playerSn : UInt64) :
      p.content = .teleportAfter playerSn → p.tagKey .toWorld = none → p.tagKey .account = none →
      p.tagKey .player ≠ none → FromOutside p
  | broadcast (worldId : Int) (worldSn : UInt64) :
      p.content = .broadcastCreateWorldProxy worldId worldSn → p.tagKey .toWorld = none → FromOutside p

/-! ### The all-in-one server -/

/-- Where a packet was made; nothing reads it. -/
inductive Origin where
  | outside
  | proxy
  | world
  deriving DecidableEq, Repr

structure Mail (Position : Type) where
  packet : Packet Position
  origin : Origin

/-- `packets` is the list of `ThreadMgr`, the others are those of the threads of
the world and the proxy. -/
structure AllInOne (Position Direction : Type) where
  world : World Position Direction
  proxy : Proxy (PlayerProto Position)
  worldSystem : System
  proxySystem : System
  packets : List (Mail Position)
  worldList : List (Mail Position)
  proxyList : List (Mail Position)

inductive Label (Position Direction : Type) where
  | arrive (p : Packet Position)
  | deliver (mail : Mail Position)
  | world
  | proxy (clients : List (Packet Position))
  | timer (message : Message Position Direction)

def allInOne (locator : Locator) : Process := ⟨bits .allInOne, locator⟩

def mailed (origin : Origin) (routes : List (Route Position)) : List (Mail Position) :=
  (dispatchedOf routes).map fun p => ⟨p, origin⟩

def step (locator : Locator) (before : AllInOne Position Direction) (label : Label Position Direction)
    (after : AllInOne Position Direction) : Prop :=
  match label with
  | .arrive p =>
      FromOutside p ∧ after = { before with packets := before.packets ++ [⟨p, .outside⟩] }
  | .deliver mail =>
      ∃ rest, before.packets = mail :: rest ∧
        after = { before with
          packets := rest, worldList := before.worldList ++ [mail], proxyList := before.proxyList ++ [mail] }
  | .world =>
      ∃ mail rest system side, before.worldList = mail :: rest ∧
        WorldTakes setting mail.packet before.worldSystem before.world system side ∧
        after = { before with
          world := side.world, worldSystem := system, worldList := rest
          packets := before.packets ++ mailed .world side.routes }
  | .proxy clients =>
      ∃ mail rest system side, before.proxyList = mail :: rest ∧
        ProxyTakes setting (allInOne locator) mail.packet before.proxySystem before.proxy system side ∧
        side.clients = clients ∧
        after = { before with
          proxy := side.proxy, proxySystem := system, proxyList := rest
          packets := before.packets ++ mailed .proxy side.routes }
  | .timer message =>
      ∃ world, isTimer message = true ∧
        handle setting.resources setting.motion before.world message = some world ∧
        after = { before with
          world := world, packets := before.packets ++ mailed .world (worldRoutes before.world world) }

def start (worldId : Int) (worldSystem proxySystem : System) : AllInOne Position Direction where
  world := SpaceWorld.create worldId setting.sn
  proxy := WorldProxy.create setting.sn
  worldSystem := worldAwake setting.sn worldSystem
  proxySystem := worldProxyAwake setting.sn proxySystem
  packets := []
  worldList := []
  proxyList := []

/-! ### A game server and a space server -/

/-- `toSpace` and `toGame` are the packets on the connection of the servers,
`gamePackets` and `spacePackets` the lists of their `ThreadMgr`. -/
structure Servers (Position Direction : Type) where
  world : World Position Direction
  proxy : Proxy (PlayerProto Position)
  spaceSystem : System
  gameSystem : System
  toSpace : List (Packet Position)
  toGame : List (Packet Position)
  spacePackets : List (Packet Position)
  gamePackets : List (Packet Position)
  spaceList : List (Packet Position)
  gameList : List (Packet Position)

inductive ServersLabel (Position Direction : Type) where
  | arrive (p : Packet Position)
  | carryToSpace
  | carryToGame
  | deliverSpace
  | deliverGame
  | world
  | proxy (clients : List (Packet Position))
  | timer (message : Message Position Direction)

/-- The connection of the servers, as each of them has it. -/
structure Connection where
  locator : Locator
  atSpace : NetIdentify
  atGame : NetIdentify

def game (conn : Connection) : Process := ⟨bits .game, conn.locator⟩

def serversStep (conn : Connection) (before : Servers Position Direction)
    (label : ServersLabel Position Direction) (after : Servers Position Direction) : Prop :=
  match label with
  | .arrive p => FromOutside p ∧ after = { before with gamePackets := before.gamePackets ++ [p] }
  | .carryToSpace =>
      ∃ p rest, before.toSpace = p :: rest ∧
        after = { before with
          toSpace := rest, spacePackets := before.spacePackets ++ [received conn.atSpace p] }
  | .carryToGame =>
      ∃ p rest, before.toGame = p :: rest ∧
        after = { before with
          toGame := rest, gamePackets := before.gamePackets ++ [received conn.atGame p] }
  | .deliverSpace =>
      ∃ p rest, before.spacePackets = p :: rest ∧
        after = { before with spacePackets := rest, spaceList := before.spaceList ++ [p] }
  | .deliverGame =>
      ∃ p rest, before.gamePackets = p :: rest ∧
        after = { before with gamePackets := rest, gameList := before.gameList ++ [p] }
  | .world =>
      ∃ p rest system side, before.spaceList = p :: rest ∧
        WorldTakes setting p before.spaceSystem before.world system side ∧
        after = { before with
          world := side.world, spaceSystem := system, spaceList := rest
          toGame := before.toGame ++ networkOf side.routes
          spacePackets := before.spacePackets ++ dispatchedOf side.routes }
  | .proxy clients =>
      ∃ p rest system side, before.gameList = p :: rest ∧
        ProxyTakes setting (game conn) p before.gameSystem before.proxy system side ∧
        side.clients = clients ∧
        after = { before with
          proxy := side.proxy, gameSystem := system, gameList := rest
          toSpace := before.toSpace ++ networkOf side.routes
          gamePackets := before.gamePackets ++ dispatchedOf side.routes }
  | .timer message =>
      ∃ world, isTimer message = true ∧
        handle setting.resources setting.motion before.world message = some world ∧
        after = { before with
          world := world
          toGame := before.toGame ++ networkOf (worldRoutes before.world world)
          spacePackets := before.spacePackets ++ dispatchedOf (worldRoutes before.world world) }

def serversStart (worldId : Int) (spaceSystem gameSystem : System) : Servers Position Direction where
  world := SpaceWorld.create worldId setting.sn
  proxy := WorldProxy.create setting.sn
  spaceSystem := worldAwake setting.sn spaceSystem
  gameSystem := worldProxyAwake setting.sn gameSystem
  toSpace := []
  toGame := []
  spacePackets := []
  gamePackets := []
  spaceList := []
  gameList := []

/-! ### What is seen -/

/-- A packet from outside is handed to the threads, a packet goes to a client,
a timer of the world fires. -/
inductive Shown (Position Direction : Type) where
  | came (p : Packet Position)
  | client (p : Packet Position)
  | timer (message : Message Position Direction)

def shows : Label Position Direction → List (Shown Position Direction)
  | .deliver ⟨p, .outside⟩ => [.came p]
  | .proxy clients => clients.map .client
  | .timer message => [.timer message]
  | _ => []

def serversShow : ServersLabel Position Direction → List (Shown Position Direction)
  | .arrive p => [.came p]
  | .proxy clients => clients.map .client
  | .timer message => [.timer message]
  | _ => []

/-- The connection is there, is known to the locator of the game server, and
carries the App tag alone. -/
structure Connected (sn : UInt64) (conn : Connection) : Prop where
  known : (getNetworkIdentify conn.locator .space (getAppIdFromSN sn)).socketKey.netType ≠ .none
  open_ : (getNetworkIdentify conn.locator .space (getAppIdFromSN sn)).socketKey.socket ≠ -1
  atSpaceKnown : conn.atSpace.socketKey.netType ≠ .none
  atSpaceOpen : conn.atSpace.socketKey.socket ≠ -1
  atSpaceTags : ∀ tag, tag ≠ .app → conn.atSpace.tagKey tag = none
  atGameTags : ∀ tag, tag ≠ .app → conn.atGame.tagKey tag = none

end GameBook.Deployments
