import GameBook.Lobby
import GameBook.RecycledMoves
import Mathlib.Algebra.Ring.Int.Defs

/-!
`Player`, `Lobby` and `PlayerComponentLastMap` from one life to the next.
`Player::BackToPool` sets every field; `Lobby::BackToPool` empties
`_waitingForWorld` and not `_waitingForDungeon`; `PlayerComponentLastMap` keeps
`_curWorldId`.
-/

namespace GameBook.Recycled

open OrderedMap SocketObject TwoRuns

/-! ### Player -/

section Players

open LastMap

variable {Position : Type}

/-- The fields of `Player`. Its components are objects of their own. -/
structure PlayerObject (Position : Type) where
  account : Str
  name : Str
  playerSn : UInt64
  player : PlayerProto Position
  socketKey : SocketKey
  tagKey : TagKey

def clearProto (zero : Position) : PlayerProto Position :=
  ⟨0, [], ⟨0, 0⟩, ⟨0, 0, zero⟩, ⟨0, 0, zero⟩, 0⟩

def clearSocketKey : SocketKey := ⟨-1, .none⟩

/-- The two `Awake`s; the identify may be null. -/
inductive PlayerArgs where
  | account (identify : Option NetIdentify) (account : Str)
  | playerSn (identify : Option NetIdentify) (playerSn worldSn : UInt64)

inductive PlayerCall (Position : Type) where
  | parseFromStream (playerSn : UInt64) (read : PlayerProto Position)
  | parserFromProto (playerSn : UInt64) (proto : PlayerProto Position)

def copySocketKey (p : PlayerObject Position) (identify : Option NetIdentify) : SocketKey :=
  match identify with
  | none => p.socketKey
  | some identify => identify.socketKey

def awakePlayer (zero : Position) (p : PlayerObject Position) : PlayerArgs → PlayerObject Position
  | .account identify account =>
      { p with
        account := account
        playerSn := 0
        player := clearProto zero
        socketKey := copySocketKey p identify
        tagKey := addTagStr clear .account account }
  | .playerSn identify playerSn worldSn =>
      { p with
        account := []
        playerSn := playerSn
        player := clearProto zero
        socketKey := copySocketKey p identify
        tagKey := addTagInt (addTagInt clear .player playerSn) .entity worldSn }

def callPlayer (p : PlayerObject Position) : PlayerCall Position → PlayerObject Position
  | .parseFromStream playerSn read => { p with playerSn := playerSn, player := read }
  | .parserFromProto playerSn proto =>
      { p with playerSn := playerSn, player := proto, name := proto.name }

/-- All fields are seen after every call. -/
def player (zero : Position) :
    Pooled (PlayerObject Position) (PlayerObject Position) PlayerArgs (PlayerCall Position)
      (PlayerObject Position) where
  backToPool _ := ⟨[], [], 0, clearProto zero, clearSocketKey, clear⟩
  awake p args := some (awakePlayer zero p args)
  step p call := some (callPlayer p call, callPlayer p call)

theorem player_lives (zero : Position) (first second : PlayerObject Position) (args : PlayerArgs)
    (calls : List (PlayerCall Position)) :
    nextLife (player zero) first args calls = nextLife (player zero) second args calls := by
  apply next_life_same
  rfl

end Players

/-! ### Lobby -/

section Lobbies

open Lobby PlayerCollector

inductive LobbyMessage where
  | event (event : Event)
  | gameTokenToRedisRs (account token : Str) (playerSn : UInt64)

/-- A filtered message for a player that is not here is dropped. -/
def handleLobby (resources : Resources) (s : LobbyState) : LobbyMessage → Option LobbyState
  | .gameTokenToRedisRs account token playerSn =>
      some (handleGameTokenToRedisRs s account token playerSn)
  | .event (.login identify account token) => some (handleLoginByToken s identify account token)
  | .event (.queryPlayerRs locator account proto) => handleQueryPlayerRs resources locator s account proto
  | .event (.queryWorldRs locator worldSn ok) => handleQueryWorldRs locator s worldSn ok
  | .event (.broadcast worldId worldSn) =>
      some (handleBroadcastCreateWorldProxy resources s worldId worldSn)
  | .event (.teleportAfter identify) =>
      match getPlayer s identify with
      | none => some s
      | some player => some (handleTeleportAfter s player)
  | .event (.disconnect identify) => some (handleNetworkDisconnect s identify)

/-- `Lobby` under the number that the pool gives it, with a collector from its
pool. What is seen of a message is what it sends. -/
def lobby (resources : Resources) : Pooled LobbyState LobbyState UInt64 LobbyMessage (List Sent) where
  backToPool s := { s with waitingForWorld := ∅ }
  awake s sn := some { s with sn := sn, collector := empty, sent := [] }
  step s message :=
    (handleLobby resources s message).map fun after => (after, after.sent.drop s.sent.length)

def Occupied (s : LobbyState) : Prop :=
  ∀ (worldSn : UInt64) (players : SnSet), s.waitingForDungeon[worldSn]? = some players → players.isEmpty = false

theorem lobby_lives (resources : Resources) (first second : LobbyState) (sn : UInt64)
    (messages : List LobbyMessage) (same : first.waitingForDungeon = second.waitingForDungeon) :
    nextLife (lobby resources) first sn messages = nextLife (lobby resources) second sn messages := by
  apply next_life_same
  simp [lobby, same]

/-- A player logs in that was in a dungeon when it was saved. -/
def visit (worldId : Int) (worldSn : UInt64) : List LobbyMessage :=
  [.event (.login ⟨⟨1, .tcpListen⟩, clear⟩ [] []),
    .event (.queryPlayerRs ⟨fun _ => false, fun _ => 0⟩ [] ⟨7, ⟨0, 0⟩, ⟨worldId, worldSn⟩, 1⟩)]

def visitor : LobbyPlayer := ⟨[], ⟨1, .tcpListen⟩, 0, ⟨[], 1, emptyProto, none⟩⟩

/-- G2M_QueryWorld is sent when nobody waits for the dungeon. -/
theorem visit_seen (resources : Resources) {worldId : Int} (known : (resources.world worldId).isSome)
    (ended : LobbyState) (worldSn : UInt64) :
    nextLife (lobby resources) ended 0 (visit worldId worldSn) = some
      [some [.listenKey ⟨1, .tcpListen⟩ [], .gameTokenToRedis []],
        some (.syncPlayer visitor ⟨7, ⟨0, 0⟩, ⟨worldId, worldSn⟩, 1⟩ ::
          if (ended.waitingForDungeon[worldSn]?.getD ∅).isEmpty then [.queryWorld worldSn 0] else [])] := by
  obtain ⟨worldType, found⟩ := Option.isSome_iff_exists.mp known
  by_cases nobody : ended.waitingForDungeon[worldSn]?.getD ∅ = ∅
  · simp [nextLife, observe, visit, visitor, lobby, handleLobby, handleLoginByToken, addPlayer, empty, send,
      setPlayer, handleQueryPlayerRs, getPlayerByAccount, parseLastMap, found, enterDungeon, CString.cStr, nobody]
  · simp [nextLife, observe, visit, visitor, lobby, handleLobby, handleLoginByToken, addPlayer, empty, send,
      setPlayer, handleQueryPlayerRs, getPlayerByAccount, parseLastMap, found, enterDungeon, CString.cStr, nobody]

theorem lobby_waiting_seen (resources : Resources) {worldId : Int} (known : (resources.world worldId).isSome)
    {first second : LobbyState} (occupied : Occupied first) (nobody : second.waitingForDungeon = ∅)
    (alike : ∀ sn messages,
      nextLife (lobby resources) first sn messages = nextLife (lobby resources) second sn messages) :
    first.waitingForDungeon = ∅ := by
  apply Std.ExtTreeMap.ext_getElem?
  intro worldSn
  cases held : first.waitingForDungeon[worldSn]? with
  | none => simp
  | some players =>
      -- a life in which one player enters the dungeon tells the two lobbies apart
      have asked := alike 0 (visit worldId worldSn)
      rw [visit_seen resources known, visit_seen resources known, nobody, held] at asked
      simp [occupied worldSn players held] at asked

end Lobbies

/-! ### PlayerComponentLastMap -/

section LastMaps

open LastMap

variable {Position : Type}

structure Slots (Position : Type) where
  publicMap : Option (LastWorld Position)
  dungeon : Option (LastWorld Position)
  curWorldId : Int

/-- `placed`: `EnterWorld` or `SetCurWorld` has been called in this life. -/
structure Living (Position : Type) where
  map : LastMap Position
  placed : Bool

/-- `setCurPosition` is `GetCur()->Position = position`. -/
inductive LastMapCall (Position : Type) where
  | parserFromProto (proto : PlayerProto Position)
  | serializeToProto (proto : PlayerProto Position)
  | getLastPublicMap
  | getLastDungeon
  | getCur
  | setCurPosition (position : Position)
  | enterWorld (worldId : Int) (worldSn : UInt64)
  | setCurWorld (worldId : Int)

inductive Seen (Position : Type) where
  | nothing
  | slot (last : Option (LastWorld Position))
  | proto (proto : PlayerProto Position)

/-- `ParserFromProto`. A dungeon slot stays where the proto names no world. -/
def parserFromProto (resources : Resources Position) (dungeon : Option (LastWorld Position))
    (curWorldId : Int) (proto : PlayerProto Position) : Option (LastMap Position) :=
  (parsePublic resources proto).map fun publicMap =>
    ⟨publicMap, (parseDungeon resources proto).or dungeon, curWorldId⟩

def callLastMap (resources : Resources Position) (o : Living Position) :
    LastMapCall Position → Option (Living Position × Seen Position)
  | .parserFromProto proto =>
      (parserFromProto resources o.map.dungeon o.map.curWorldId proto).map fun map =>
        (⟨map, o.placed⟩, .nothing)
  | .serializeToProto proto => some (o, .proto (serializeToProto o.map proto))
  | .getLastPublicMap => some (o, .slot (some o.map.publicMap))
  | .getLastDungeon => some (o, .slot o.map.dungeon)
  | .getCur => some (o, .slot (getCur o.map))
  | .setCurPosition position =>
      (getCur o.map).map fun _ => (⟨setCurPosition o.map position, o.placed⟩, .nothing)
  | .enterWorld worldId worldSn =>
      (enterWorld resources o.map worldId worldSn).map fun map => (⟨map, true⟩, .nothing)
  | .setCurWorld worldId => some (⟨{ o.map with curWorldId := worldId }, true⟩, .nothing)

def lastMap (resources : Resources Position) :
    Pooled (Living Position) (Slots Position) (PlayerProto Position) (LastMapCall Position)
      (Seen Position) where
  backToPool o := ⟨none, none, o.map.curWorldId⟩
  awake left proto :=
    (parserFromProto resources left.dungeon left.curWorldId proto).map fun map => ⟨map, false⟩
  step := callLastMap resources

/-- `GetCur` is not called before `EnterWorld` or `SetCurWorld`. -/
def Placed (o : Living Position) : LastMapCall Position → Prop
  | .getCur => o.placed = true
  | .setCurPosition _ => o.placed = true
  | _ => True

def AlikeMaps (first second : Living Position) : Prop :=
  ∃ curWorldId, second = ⟨{ first.map with curWorldId := curWorldId }, first.placed⟩ ∧
    (first.placed = true → curWorldId = first.map.curWorldId)

theorem alike_maps_refl (o : Living Position) : AlikeMaps o o := ⟨_, rfl, fun _ => rfl⟩

theorem alike_maps_eq {first second : Living Position} (alike : AlikeMaps first second)
    (placed : first.placed = true) : second = first := by
  obtain ⟨curWorldId, rfl, current⟩ := alike
  rw [current placed]

theorem awake_last_map (resources : Resources Position) (ended : Living Position)
    (proto : PlayerProto Position) :
    (lastMap resources).awake ((lastMap resources).backToPool ended) proto =
      (awake resources ended.map.curWorldId proto).map fun map => ⟨map, false⟩ := by
  simp [lastMap, parserFromProto, awake]

theorem last_map_unwinds (resources : Resources Position) :
    Unwinds (callLastMap resources) Placed AlikeMaps := by
  intro first second call alike allowed
  have answered : ∀ (answer : Option (Living Position × Seen Position)),
      Option.Rel (fun one two => one.2 = two.2 ∧ AlikeMaps one.1 two.1) answer answer := by
    intro answer
    cases answer with
    | none => exact Option.Rel.none
    | some one => exact Option.Rel.some ⟨rfl, alike_maps_refl one.1⟩
  cases call with
  | getCur =>
      rw [alike_maps_eq alike allowed]
      exact answered _
  | setCurPosition position =>
      rw [alike_maps_eq alike allowed]
      exact answered _
  | serializeToProto proto =>
      obtain ⟨curWorldId, rfl, -⟩ := id alike
      exact Option.Rel.some ⟨rfl, alike⟩
  | getLastPublicMap =>
      obtain ⟨curWorldId, rfl, -⟩ := id alike
      exact Option.Rel.some ⟨rfl, alike⟩
  | getLastDungeon =>
      obtain ⟨curWorldId, rfl, -⟩ := id alike
      exact Option.Rel.some ⟨rfl, alike⟩
  | enterWorld worldId worldSn =>
      obtain ⟨curWorldId, rfl, -⟩ := alike
      exact answered (callLastMap resources first (.enterWorld worldId worldSn))
  | setCurWorld worldId =>
      obtain ⟨curWorldId, rfl, -⟩ := alike
      exact answered (callLastMap resources first (.setCurWorld worldId))
  | parserFromProto proto =>
      obtain ⟨curWorldId, rfl, current⟩ := alike
      simp only [callLastMap, parserFromProto]
      cases parsePublic resources proto with
      | none => exact Option.Rel.none
      | some publicMap => exact Option.Rel.some ⟨rfl, curWorldId, rfl, current⟩

theorem last_map_lives (resources : Resources Position) (first second : Living Position)
    (proto : PlayerProto Position) (calls : List (LastMapCall Position))
    (meets : ∀ map, awake resources first.map.curWorldId proto = some map →
      Meets (callLastMap resources) Placed ⟨map, false⟩ calls) :
    nextLife (lastMap resources) first proto calls = nextLife (lastMap resources) second proto calls := by
  apply next_life_alike _ (last_map_unwinds resources)
  · rw [awake_last_map, awake_last_map]
    unfold awake
    cases parsePublic resources proto with
    | none => exact Option.Rel.none
    | some publicMap => exact Option.Rel.some ⟨second.map.curWorldId, rfl, nofun⟩
  · intro state woken
    rw [awake_last_map] at woken
    obtain ⟨map, read, rfl⟩ := Option.map_eq_some_iff.mp woken
    exact meets map read

end LastMaps

/-! ### All four -/

section Objects

open LastMap RecycledMoves

variable {Position Direction : Type}

/-- Nothing is seen of earlier lives: of a component that moves while no step
of `MoveSystem` meets it before its first target, of a lobby exactly if nobody
waited for a dungeon, of a player, and of last maps while `GetCur` comes after
`EnterWorld`. -/
theorem earlier_lives_unseen (motion : SpaceWorld.Motion Position Direction)
    (zero : SpaceWorld.MoveVector3 Position Direction) (lobbyWorlds : Lobby.Resources)
    (worlds : Resources Position) :
    (∀ (owner : SpaceWorld.Player Position Direction) (first second : Nat → List (List (Use Position)))
        (messages : List (Message Position)),
      Meets (RecycledMoves.step motion zero) Aimed ⟨owner, first, false⟩ messages →
      observe (RecycledMoves.step motion zero) ⟨owner, first, false⟩ messages =
        observe (RecycledMoves.step motion zero) ⟨owner, second, false⟩ messages) ∧
    (∀ (first second : Lobby.LobbyState), second.waitingForDungeon = ∅ →
      (first.waitingForDungeon = ∅ → ∀ sn messages,
        nextLife (lobby lobbyWorlds) first sn messages = nextLife (lobby lobbyWorlds) second sn messages) ∧
      ((∃ worldId, (lobbyWorlds.world worldId).isSome) → Occupied first → (∀ sn messages,
        nextLife (lobby lobbyWorlds) first sn messages = nextLife (lobby lobbyWorlds) second sn messages) →
        first.waitingForDungeon = ∅)) ∧
    (∀ (first second : PlayerObject Position) (args : PlayerArgs) (calls : List (PlayerCall Position)),
      nextLife (player zero.target) first args calls = nextLife (player zero.target) second args calls) ∧
    (∀ (first second : Living Position) (proto : PlayerProto Position) (calls : List (LastMapCall Position)),
      (∀ map, awake worlds first.map.curWorldId proto = some map →
        Meets (callLastMap worlds) Placed ⟨map, false⟩ calls) →
      nextLife (lastMap worlds) first proto calls = nextLife (lastMap worlds) second proto calls) := by
  refine ⟨?_, ?_, ?_, ?_⟩
  · intro owner first second messages meets
    exact positions_alike owner first second messages meets
  · intro first second nobody
    constructor
    · intro empty sn messages
      exact lobby_lives lobbyWorlds first second sn messages (by rw [empty, nobody])
    · rintro ⟨worldId, known⟩ occupied alike
      exact lobby_waiting_seen lobbyWorlds known occupied nobody alike
  · intro first second args calls
    exact player_lives zero.target first second args calls
  · intro first second proto calls meets
    exact last_map_lives worlds first second proto calls meets

end Objects

/-- Positions in thousandths. At the speed of two, `moveDis` is two of them for
a millisecond. -/
def thousandths : SpaceWorld.Motion (Int × Int × Int) (Int × Int) where
  scale target position :=
    let distance : Int := Nat.sqrt ((target.1 - position.1) ^ 2 + (target.2.2 - position.2.2) ^ 2).toNat
    (1000 * (target.1 - position.1) / distance, 1000 * (target.2.2 - position.2.2) / distance)
  arrives position target timeElapsed :=
    (target.1 - position.1) ^ 2 + (target.2.2 - position.2.2) ^ 2 < (2 * (timeElapsed.toNat : Int)) ^ 2
  advance position direction timeElapsed :=
    (position.1 + 2 * timeElapsed.toNat * direction.1 / 1000, position.2.1,
      position.2.2 + 2 * timeElapsed.toNat * direction.2 / 1000)

def origin : SpaceWorld.MoveVector3 (Int × Int × Int) (Int × Int) := ⟨(0, 0, 0), (0, 0)⟩

def tourist : SpaceWorld.Player (Int × Int × Int) (Int × Int) where
  playerSn := 7
  account := []
  name := []
  socketKey := ⟨1, .tcpListen⟩
  worldSn := 5
  proto := clearProto (0, 0, 0)
  gender := 0
  lastMap := ⟨⟨⟨3, 5, (0, 0, 0)⟩, none, 3⟩, rfl⟩
  move := none

/-- The one life that the objects have had took them a tenth to the east. -/
def eastward : Nat → List (List (RecycledMoves.Use (Int × Int × Int))) :=
  fun _ => [[.targets [(100, 0, 0)] (0, 0, 0)]]

def csvWorlds : Lobby.Resources where
  world worldId := if worldId = 3 then some .publicWorld else if worldId = 4 then some .dungeon else none
  initMap := 3

def someoneWaits : Lobby.LobbyState :=
  Lobby.enterDungeon ⟨fun _ => false, fun _ => 0⟩ (Lobby.create 1) { visitor with playerSn := 8 } 9

/-- A player that sends no positions goes where an earlier one was sent, and a
dungeon that players of an earlier lobby waited for is not asked for again. -/
theorem earlier_lives_seen :
    observe (RecycledMoves.step thousandths origin) ⟨tourist, eastward, false⟩
        [.handleMove [], .moveSystem 500] ≠
      observe (RecycledMoves.step thousandths origin) ⟨tourist, fun _ => [], false⟩
        [.handleMove [], .moveSystem 500] ∧
    nextLife (lobby csvWorlds) someoneWaits 0 (visit 4 9) ≠
      nextLife (lobby csvWorlds) (Lobby.create 1) 0 (visit 4 9) := by
  constructor
  · decide
  · rw [visit_seen csvWorlds rfl, visit_seen csvWorlds rfl]
    simp [someoneWaits, Lobby.create, Lobby.enterDungeon, Lobby.send]

def spaceWorlds : LastMap.Resources (Int × Int × Int) where
  getResource worldId := if worldId = 3 then some ⟨.publicWorld, (0, 0, 0)⟩ else none
  initMapId := 3

def leftWorld : Living (Int × Int × Int) := ⟨⟨⟨3, 5, (1, 1, 1)⟩, none, 3⟩, true⟩

def neverPlaced : Living (Int × Int × Int) := ⟨⟨⟨3, 0, (0, 0, 0)⟩, none, 0⟩, false⟩

def publicWaits : Lobby.LobbyState :=
  (Lobby.handleQueryPlayerRs csvWorlds ⟨fun _ => false, fun _ => AppKey.invalidId⟩
    (Lobby.handleLoginByToken (Lobby.create 1) ⟨⟨1, .tcpListen⟩, clear⟩ [] []) []
    ⟨7, ⟨0, 0⟩, ⟨0, 0⟩, 1⟩).getD (Lobby.create 1)

def loggedIn : Lobby.LobbyState :=
  Lobby.handleLoginByToken (Lobby.create 2) ⟨⟨1, .tcpListen⟩, clear⟩ [] []

theorem aimed_lives_unseen :
    observe (RecycledMoves.step thousandths origin) ⟨tourist, eastward, false⟩
        [.handleMove [], .handleMove [(1, 0, 0)], .moveSystem 500] =
      observe (RecycledMoves.step thousandths origin) ⟨tourist, fun _ => [], false⟩
        [.handleMove [], .handleMove [(1, 0, 0)], .moveSystem 500] ∧
    (publicWaits.waitingForWorld[(3 : Int)]?).isSome ∧
    nextLife (lobby csvWorlds) publicWaits 0 (visit 4 9) =
      nextLife (lobby csvWorlds) loggedIn 0 (visit 4 9) ∧
    nextLife (lastMap spaceWorlds) leftWorld (clearProto (0, 0, 0)) [.enterWorld 3 6, .getCur] =
      nextLife (lastMap spaceWorlds) neverPlaced (clearProto (0, 0, 0)) [.enterWorld 3 6, .getCur] := by
  have unseen := earlier_lives_unseen thousandths origin csvWorlds spaceWorlds
  refine ⟨unseen.1 tourist eastward (fun _ => []) _ ?_, by decide,
    (unseen.2.1 publicWaits loggedIn rfl).1 rfl 0 _,
    unseen.2.2.2 leftWorld neverPlaced _ _ ?_⟩
  · refine ⟨trivial, ?_⟩
    rintro first position ⟨⟩
    refine ⟨trivial, ?_⟩
    rintro second again ⟨⟩
    exact ⟨fun _ => rfl, fun _ _ _ => trivial⟩
  · intro map woken
    refine ⟨trivial, ?_⟩
    intro entered seen went
    rw [callLastMap] at went
    obtain ⟨after, -, same⟩ := Option.map_eq_some_iff.mp went
    cases same
    exact ⟨rfl, fun _ _ _ => trivial⟩

end GameBook.Recycled
