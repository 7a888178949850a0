import GameBook.Channels
import GameBook.LabelledRun
import GameBook.Lobby
import GameBook.RedisGame

/-!
The online flag of an account in redis and the components that keep it there:
`PlayerComponentOnlineInGame` of each player in a lobby or a world proxy, with
a version that travels in the player's protobuf from hop to hop, and the two
handlers of `RedisGame` that compare it. Each flag also records the component
that wrote it. Entries do not expire: the timer of a component writes again
after half of the timeout.
-/

namespace GameBook.OnlineFlag

open CString OrderedMap Channels

def onlinePrefix : Bytes :=
  [101, 110, 103, 105, 110, 101, 58, 58, 111, 110, 108, 105, 110, 101, 58, 58, 103, 97, 109, 101, 58, 58]

def onlineKey (account : Bytes) : Bytes := onlinePrefix ++ account

structure Flag where
  version : Int
  writer : Nat
  deriving DecidableEq

abbrev Flags := Table Bytes Flag

/-- `GetInt`: an absent entry and an error of redis read as zero. -/
def getInt (flags : Flags) (key : Bytes) : Option Int :=
  (RedisGame.arguments key).map fun
    | [word] => (flags[word]?.map (·.version)).getD 0
    | _ => 0

def setex (flags : Flags) (key : Bytes) (flag : Flag) : Option Flags :=
  (RedisGame.arguments key).map fun
    | [word] => flags.insert word flag
    | _ => flags

def delete (flags : Flags) (key : Bytes) : Option Flags :=
  (RedisGame.arguments key).map fun words => words.foldl (fun left word => left.erase word) flags

inductive Message where
  | sync (account : Bytes) (version : Int)
  | delete (account : Bytes) (version : Int)
  deriving DecidableEq

def handlePlayerSyncOnlineToRedis (flags : Flags) (sender : Nat) (account : Bytes) (version : Int) :
    Option Flags :=
  (getInt flags (onlineKey account)).bind fun onlineVersion =>
    -- a component of a later hop has written the flag
    if version < onlineVersion then some flags
    else setex flags (onlineKey account) ⟨version, sender⟩

def handlePlayerDeleteOnlineToRedis (flags : Flags) (account : Bytes) (version : Int) : Option Flags :=
  (getInt flags (onlineKey account)).bind fun onlineVersion =>
    if version < onlineVersion then some flags else delete flags (onlineKey account)

def handle (flags : Flags) (sender : Nat) : Message → Option Flags
  | .sync account version => handlePlayerSyncOnlineToRedis flags sender account version
  | .delete account version => handlePlayerDeleteOnlineToRedis flags account version

/-! PlayerComponentOnlineInGame. -/

structure OnlineInGame where
  account : Bytes
  onlineVersion : Int
  isReadFromDB : Bool

def parserFromProto (c : OnlineInGame) (version : Int) : OnlineInGame :=
  if !c.isReadFromDB then c
  else if c.onlineVersion < version then { c with onlineVersion := version } else c

/-- `_onlineVersion++` on an `int`. -/
def increased (version : Int) : Int := if version = 2147483647 then -2147483648 else version + 1

def awakeWithVersion (account : Bytes) (version : Int) : OnlineInGame := ⟨account, version, false⟩

/-- `Awake(account)`, in a world proxy, over the protobuf the player came with. -/
def awake (account : Bytes) (protoVersion : Int) : OnlineInGame :=
  let read := parserFromProto ⟨account, 0, true⟩ protoVersion
  { read with onlineVersion := increased read.onlineVersion }

def serializeToProto (c : OnlineInGame) : Int := c.onlineVersion

def deleteMessage (c : OnlineInGame) : Message := .delete (cStr c.account) c.onlineVersion

def syncMessage (c : OnlineInGame) : Message := .sync (cStr c.account) c.onlineVersion

/-! A game process with redis. -/

/-- A player of the lobby or of a world proxy. `stored` is the `online_version`
of the copy its world has; it is `synced` once redis has read one of its syncs. -/
structure Player where
  component : OnlineInGame
  inWorld : Bool
  stored : Int
  live : Bool
  synced : Bool

/-- Players are numbered in the order they come. A message carries its sender. -/
structure System where
  players : List Player
  teleports : List (Bytes × Int)
  flags : Flags
  queue : List (Nat × Message)

def start : System := ⟨[], [], ∅, []⟩

inductive Event where
  | loginByToken (account : Bytes)
  | queryPlayerRs (id : Nat) (version : Int)
  | teleport (id : Nat)
  | arrive (account : Bytes) (version : Int)
  | refuse (account : Bytes) (version : Int)
  | s2gSyncPlayer (id : Nat)
  | setOnlineFlag (id : Nat)
  | backToPool (id : Nat)
  | redis (id : Nat)

def join (s : System) (player : Player) : System := { s with players := s.players ++ [player] }

def putPlayer (s : System) (id : Nat) (player : Player) : System :=
  { s with players := s.players.set id player }

def post (s : System) (id : Nat) (message : Message) : System :=
  { s with queue := s.queue ++ [(id, message)] }

def marked (player : Player) : Message → Player
  | .sync _ _ => { player with synced := true }
  | .delete _ _ => player

/-- A login by token adds the component before the token is verified, so that
nothing the login process has asked of redis restrains it. -/
def systemStep (before : System) (event : Event) (after : System) : Prop :=
  match event with
  | .loginByToken account =>
      after = join before ⟨awakeWithVersion account 1, false, 0, true, false⟩
  | .queryPlayerRs id version =>
      ∃ player, before.players[id]? = some player ∧ player.inWorld = false ∧ player.live = true ∧
        after = putPlayer before id
          { player with component := parserFromProto player.component version }
  | .teleport id =>
      ∃ player, before.players[id]? = some player ∧ player.live = true ∧
        after = { before with teleports := before.teleports ++
          [(cStr player.component.account, serializeToProto player.component)] }
  | .arrive account version =>
      (account, version) ∈ before.teleports ∧
        after = join { before with teleports := before.teleports.erase (account, version) }
          ⟨awake account version, true, version, true, false⟩
  | .refuse account version =>
      (account, version) ∈ before.teleports ∧
        after = { before with teleports := before.teleports.erase (account, version) }
  | .s2gSyncPlayer id =>
      ∃ player, before.players[id]? = some player ∧ player.inWorld = true ∧ player.live = true ∧
        after = putPlayer before id
          { player with component := parserFromProto player.component player.stored }
  | .setOnlineFlag id =>
      ∃ player, before.players[id]? = some player ∧ player.live = true ∧
        after = post before id (syncMessage player.component)
  | .backToPool id =>
      ∃ player, before.players[id]? = some player ∧ player.live = true ∧
        after = post (putPlayer before id { player with live := false }) id
          (deleteMessage player.component)
  | .redis id =>
      ∃ message flags player, next id before.queue = some message ∧
        handle before.flags id message = some flags ∧ before.players[id]? = some player ∧
        after = putPlayer { before with flags := flags, queue := rest id before.queue } id
          (marked player message)

/-! What the flag is for. -/

def Rising (s : System) : Prop :=
  ∀ (earlier later : Nat) (p q : Player), earlier < later → s.players[earlier]? = some p →
    s.players[later]? = some q → p.component.account = q.component.account →
      p.component.onlineVersion < q.component.onlineVersion

def Present (s : System) : Prop :=
  ∀ p ∈ s.players, p.inWorld = true → p.live = true → p.synced = true →
    (s.flags[onlineKey (cStr p.component.account)]?).isSome

def Spared (before : System) (event : Event) (after : System) : Prop :=
  ∀ id, event = .redis id → ∀ (key : Bytes) (flag : Flag), before.flags[key]? = some flag →
    id < flag.writer → after.flags[key]? = some flag

structure Locked (before : System) (event : Event) (after : System) : Prop where
  rising : Rising after
  present : Present after
  spared : Spared before event after

def Plain (account : Bytes) : Prop := ∀ byte ∈ account, byte ≠ 0 ∧ byte ≠ 32 ∧ byte ≠ 37

/-- A session is the first of its account, whose name redis reads as one word;
a hop comes with the highest version of its account so far; a player goes only
after those of its account it replaced in a world. -/
def Orderly (s : System) : Event → Prop
  | .loginByToken account => Plain account ∧ ∀ p ∈ s.players, p.component.account ≠ account
  | .arrive account version =>
      version < 2147483647 ∧ ∀ p ∈ s.players, p.component.account = account →
        p.component.onlineVersion ≤ version
  | .backToPool id =>
      ∀ p, s.players[id]? = some p → ∀ (earlier : Nat) (q : Player), earlier < id →
        s.players[earlier]? = some q → q.component.account = p.component.account →
          q.inWorld = true → q.live = false
  | _ => True

/-! The lobby of the process is one of those who keep the flag. -/

def componentOf (player : Lobby.LobbyPlayer) : OnlineInGame :=
  ⟨player.account, player.components.onlineVersion, false⟩

theorem lobby_component {c added : PlayerCollector.Collector Lobby.LoginComponents}
    {socketKey : SocketObject.SocketKey} {account token : Bytes} {player : Lobby.LobbyPlayer}
    (accepted : PlayerCollector.addPlayer c socketKey account ⟨token, 1, Lobby.emptyProto, none⟩ =
      some (player, added)) : componentOf player = awakeWithVersion account 1 := by
  obtain ⟨-, rfl, -⟩ := PlayerCollector.add_player_some accepted
  rfl

theorem lobby_teleport_version (player : Lobby.LobbyPlayer) :
    (Lobby.serializeToProto player.components).onlineVersion = serializeToProto (componentOf player) :=
  rfl

theorem lobby_remove_message (s : Lobby.LobbyState) (socket : Int) (player : Lobby.LobbyPlayer)
    (held : PlayerCollector.getPlayerBySocket s.collector socket = some player) :
    ∃ account version, deleteMessage (componentOf player) = .delete account version ∧
      (Lobby.removeBySocket s socket).sent = s.sent ++ [.deleteOnline account version] := by
  refine ⟨cStr player.account, player.components.onlineVersion, rfl, ?_⟩
  unfold Lobby.removeBySocket
  rw [held]
  rfl

end GameBook.OnlineFlag
