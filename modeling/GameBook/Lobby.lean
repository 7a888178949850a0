import GameBook.WorldProxy

/-!
`Lobby`: the players of a game process between their login by token and their
first world. What the world locator answers comes with the message, since
other threads write it. Following a null pointer is the result `none`.
-/

namespace GameBook.Lobby

open OrderedMap SocketObject AppKey CString PlayerCollector WorldProxy

structure LastWorld where
  worldId : Int
  worldSn : UInt64
  deriving DecidableEq

/-- `Proto::Player`, with the fields the lobby reads; absent submessages read as zeros. -/
structure PlayerProto where
  sn : UInt64
  lastWorld : LastWorld
  lastDungeon : LastWorld
  onlineVersion : Int
  deriving DecidableEq

structure LastMap where
  publicMap : LastWorld
  dungeon : Option LastWorld

/-- The components of a lobby player: its token, its online flag and, once the
database has answered, its last maps. -/
structure LoginComponents where
  token : Str
  onlineVersion : Int
  proto : PlayerProto
  lastMap : Option LastMap

abbrev LobbyPlayer := Player LoginComponents

inductive Sent where
  | listenKey (socketKey : SocketKey) (account : Str)
  | requestDisconnect (identify : NetIdentify)
  | gameTokenToRedis (account : Str)
  | loginByTokenRs (player : LobbyPlayer) (ok : Bool)
  | queryPlayer (playerSn : UInt64)
  | syncPlayer (player : LobbyPlayer) (proto : PlayerProto)
  | teleport (message : Teleport PlayerProto)
  | queryWorld (worldSn lastWorldSn : UInt64)
  | requestWorld (worldId : Int)
  | deleteOnline (account : Str) (version : Int)

abbrev SnSet := Table UInt64 Unit

structure LobbyState where
  sn : UInt64
  collector : Collector LoginComponents
  waitingForWorld : Table Int SnSet
  waitingForDungeon : Table UInt64 SnSet
  sent : List Sent

def create (sn : UInt64) : LobbyState := ⟨sn, empty, ∅, ∅, []⟩

def send (s : LobbyState) (message : Sent) : LobbyState := { s with sent := s.sent ++ [message] }

structure Resources where
  world : Int → Option WorldType
  initMap : Int

structure Locator where
  isExistDungeon : UInt64 → Bool
  getWorldSnById : Int → UInt64

/-- `PlayerComponentToken::IsTokenValid`: the client's token is compared over its own length. -/
def isTokenValid (own token : Str) : Bool := strncmp own token own.length = 0

def emptyProto : PlayerProto := ⟨0, ⟨0, 0⟩, ⟨0, 0⟩, 0⟩

def parseLastMap (resources : Resources) (proto : PlayerProto) : LastMap where
  publicMap :=
    match resources.world proto.lastWorld.worldId with
    | some _ => proto.lastWorld
    | none => ⟨resources.initMap, 0⟩
  dungeon := (resources.world proto.lastDungeon.worldId).map fun _ => proto.lastDungeon

/-- `Player::SerializeToProto`: each component writes its part over the stored player. -/
def serializeToProto (c : LoginComponents) : PlayerProto where
  sn := c.proto.sn
  lastWorld := (c.lastMap.map (·.publicMap)).getD c.proto.lastWorld
  lastDungeon := (c.lastMap.bind (·.dungeon)).getD c.proto.lastDungeon
  onlineVersion := c.onlineVersion

def teleport (s : LobbyState) (player : LobbyPlayer) (targetWorldSn : UInt64) : LobbyState :=
  send s (.teleport {
    lastWorldSn := s.sn
    account := cStr player.account
    playerSn := player.playerSn
    player := serializeToProto player.components
    socketKey := player.socketKey
    targetWorldSn := targetWorldSn })

def getPlayer (s : LobbyState) (identify : NetIdentify) : Option LobbyPlayer :=
  match identify.tagKey .player with
  | none => none
  | some player => getPlayerBySn s.collector player.keyInt64

/-- `RemovePlayerBySocket`; the online component of the player says goodbye on its way to the pool. -/
def removeBySocket (s : LobbyState) (socket : Int) : LobbyState :=
  match getPlayerBySocket s.collector socket with
  | none => s
  | some player =>
      send { s with collector := removePlayerBySocket s.collector socket }
        (.deleteOnline (cStr player.account) player.components.onlineVersion)

def handleNetworkDisconnect (s : LobbyState) (identify : NetIdentify) : LobbyState :=
  match identify.tagKey .account with
  | none => s
  | some _ => removeBySocket s identify.socketKey.socket

def handleLoginByToken (s : LobbyState) (identify : NetIdentify) (account token : Str) : LobbyState :=
  match addPlayer s.collector identify.socketKey account ⟨token, 1, emptyProto, none⟩ with
  | none => send s (.requestDisconnect identify)
  | some (player, added) =>
      send (send { s with collector := added } (.listenKey player.socketKey player.account))
        (.gameTokenToRedis (cStr player.account))

def handleGameTokenToRedisRs (s : LobbyState) (account token : Str) (playerSn : UInt64) : LobbyState :=
  match getPlayerByAccount s.collector account with
  | (none, collector) => { s with collector := collector }
  | (some player, collector) =>
      if isTokenValid player.components.token token then
        send (send { s with collector := collector } (.loginByTokenRs player true))
          (.queryPlayer playerSn)
      else send { s with collector := collector } (.loginByTokenRs player false)

/-- `EnterPublicWorld`: a teleport, or one more player waiting for the world;
the first to wait asks for it. -/
def enterPublicWorld (locator : Locator) (s : LobbyState) (player : LobbyPlayer) : Option LobbyState :=
  match player.components.lastMap with
  | none => none
  | some lastMap =>
      let worldId := lastMap.publicMap.worldId
      if locator.getWorldSnById worldId ≠ invalidId then
        some (teleport s player (locator.getWorldSnById worldId))
      else
        let waiting : SnSet := s.waitingForWorld[worldId]?.getD ∅
        let asked := if waiting.isEmpty then send s (.requestWorld worldId) else s
        some { asked with
          waitingForWorld := asked.waitingForWorld.insert worldId (waiting.insert player.playerSn ()) }

def enterDungeon (locator : Locator) (s : LobbyState) (player : LobbyPlayer) (worldSn : UInt64) : LobbyState :=
  if locator.isExistDungeon worldSn then teleport s player worldSn
  else
    let waiting : SnSet := s.waitingForDungeon[worldSn]?.getD ∅
    let asked := if waiting.isEmpty then send s (.queryWorld worldSn s.sn) else s
    { asked with
      waitingForDungeon := asked.waitingForDungeon.insert worldSn (waiting.insert player.playerSn ()) }

/-- A second answer for one player finds its `PlayerComponentLastMap` in place,
and `AddComponent` returns null. -/
def handleQueryPlayerRs (resources : Resources) (locator : Locator) (s : LobbyState) (account : Str)
    (proto : PlayerProto) : Option LobbyState :=
  match getPlayerByAccount s.collector account with
  | (none, collector) => some { s with collector := collector }
  | (some player, collector) =>
      match player.components.lastMap with
      | some _ => none
      | none =>
          let lastMap := parseLastMap resources proto
          let parsed := { player with
            playerSn := proto.sn
            components := { player.components with proto := proto, lastMap := some lastMap } }
          let stored := send { s with collector := setPlayer collector parsed } (.syncPlayer player proto)
          match lastMap.dungeon with
          | some dungeon => some (enterDungeon locator stored parsed dungeon.worldSn)
          | none => enterPublicWorld locator stored parsed

def enterEach (locator : Locator) : List UInt64 → LobbyState → Option LobbyState
  | [], s => some s
  | sn :: rest, s =>
      match getPlayerBySn s.collector sn with
      | none => enterEach locator rest s
      | some player => (enterPublicWorld locator s player).bind (enterEach locator rest)

def teleportEach (targetWorldSn : UInt64) : List UInt64 → LobbyState → LobbyState
  | [], s => s
  | sn :: rest, s =>
      match getPlayerBySn s.collector sn with
      | none => teleportEach targetWorldSn rest s
      | some player => teleportEach targetWorldSn rest (teleport s player targetWorldSn)

def handleQueryWorldRs (locator : Locator) (s : LobbyState) (worldSn : UInt64) (ok : Bool) : Option LobbyState :=
  match s.waitingForDungeon[worldSn]? with
  | none => some s
  | some players =>
      if ok then some s
      else
        (enterEach locator players.keys s).map fun entered =>
          { entered with waitingForDungeon := entered.waitingForDungeon.erase worldSn }

def handleBroadcastCreateWorldProxy (resources : Resources) (s : LobbyState) (worldId : Int)
    (worldSn : UInt64) : LobbyState :=
  match resources.world worldId with
  | none => s
  | some .publicWorld =>
      match s.waitingForWorld[worldId]? with
      | none => s
      | some players =>
          let served := teleportEach worldSn players.keys s
          { served with waitingForWorld := served.waitingForWorld.erase worldId }
  | some _ =>
      match s.waitingForDungeon[worldSn]? with
      | none => s
      | some players =>
          let served := teleportEach worldSn players.keys s
          { served with waitingForDungeon := served.waitingForDungeon.erase worldSn }

def handleTeleportAfter (s : LobbyState) (player : LobbyPlayer) : LobbyState :=
  removeBySocket s player.socketKey.socket

/-! The messages of a lobby, the answers of redis apart. -/

inductive Event where
  | login (identify : NetIdentify) (account token : Str)
  | queryPlayerRs (locator : Locator) (account : Str) (proto : PlayerProto)
  | queryWorldRs (locator : Locator) (worldSn : UInt64) (ok : Bool)
  | broadcast (worldId : Int) (worldSn : UInt64)
  | teleportAfter (identify : NetIdentify)
  | disconnect (identify : NetIdentify)

def lobbyStep (resources : Resources) (before : LobbyState) (event : Event) (after : LobbyState) : Prop :=
  match event with
  | .login identify account token => after = handleLoginByToken before identify account token
  | .queryPlayerRs locator account proto =>
      handleQueryPlayerRs resources locator before account proto = some after
  | .queryWorldRs locator worldSn ok => handleQueryWorldRs locator before worldSn ok = some after
  | .broadcast worldId worldSn =>
      after = handleBroadcastCreateWorldProxy resources before worldId worldSn
  | .teleportAfter identify =>
      ∃ player, getPlayer before identify = some player ∧ after = handleTeleportAfter before player
  | .disconnect identify => after = handleNetworkDisconnect before identify

/-! What a handler leaves of the players and of the login answers. -/

/-- Sent only when redis has answered. -/
def answersLogin : Sent → Bool
  | .loginByTokenRs _ _ => true
  | .queryPlayer _ => true
  | _ => false

structure Unrelated (before after : LobbyState) : Prop where
  held : AccountsHeld before.collector → AccountsHeld after.collector
  sessions : ∀ socket player, getPlayerBySocket after.collector socket = some player →
    ∃ older, getPlayerBySocket before.collector socket = some older ∧
      older.socketKey = player.socketKey ∧ older.account = player.account ∧
      older.components.token = player.components.token
  quiet : ∃ new, after.sent = before.sent ++ new ∧ ∀ message ∈ new, answersLogin message = false

theorem unrelated_of_collector (before after : LobbyState) (same : after.collector = before.collector)
    (quiet : ∃ new, after.sent = before.sent ++ new ∧ ∀ message ∈ new, answersLogin message = false) :
    Unrelated before after := by
  refine ⟨?_, ?_, quiet⟩
  · intro held
    rw [same]
    exact held
  · intro socket player there
    rw [same] at there
    exact ⟨player, there, rfl, rfl, rfl⟩

theorem unrelated_refl (s : LobbyState) : Unrelated s s :=
  unrelated_of_collector s s rfl ⟨[], by simp⟩

theorem unrelated_trans {first second third : LobbyState} (one : Unrelated first second)
    (two : Unrelated second third) : Unrelated first third := by
  refine ⟨fun held => two.held (one.held held), ?_, ?_⟩
  · intro socket player there
    obtain ⟨middle, thereBefore, key, account, token⟩ := two.sessions socket player there
    obtain ⟨older, first, keyBefore, accountBefore, tokenBefore⟩ :=
      one.sessions socket middle thereBefore
    exact ⟨older, first, keyBefore.trans key, accountBefore.trans account, tokenBefore.trans token⟩
  · obtain ⟨early, sentEarly, quietEarly⟩ := one.quiet
    obtain ⟨late, sentLate, quietLate⟩ := two.quiet
    refine ⟨early ++ late, by rw [sentLate, sentEarly, List.append_assoc], ?_⟩
    intro message member
    rcases List.mem_append.mp member with here | there
    · exact quietEarly message here
    · exact quietLate message there

theorem unrelated_send (s : LobbyState) (message : Sent) (quiet : answersLogin message = false) :
    Unrelated s (send s message) := by
  refine unrelated_of_collector s _ rfl ⟨[message], rfl, ?_⟩
  intro other member
  rw [List.mem_singleton.mp member]
  exact quiet

theorem unrelated_remove (s : LobbyState) (socket : Int) : Unrelated s (removeBySocket s socket) := by
  unfold removeBySocket
  split
  · exact unrelated_refl s
  · have removed : Unrelated s { s with collector := removePlayerBySocket s.collector socket } := by
      refine ⟨accounts_held_remove_by_socket s.collector socket, ?_, [], by simp, by simp⟩
      intro other player there
      rw [get_by_socket_remove] at there
      split at there
      · cases there
      · exact ⟨player, there, rfl, rfl, rfl⟩
    exact unrelated_trans removed (unrelated_send _ _ rfl)

theorem unrelated_enter_public (locator : Locator) (s after : LobbyState) (player : LobbyPlayer)
    (done : enterPublicWorld locator s player = some after) : Unrelated s after := by
  unfold enterPublicWorld at done
  split at done
  · cases done
  · rename_i lastMap _
    dsimp only at done
    split at done
    · cases done
      exact unrelated_send s _ rfl
    · cases done
      by_cases first : (s.waitingForWorld[lastMap.publicMap.worldId]?.getD ∅).isEmpty = true
      · rw [if_pos first]
        exact unrelated_of_collector s _ rfl ⟨[.requestWorld lastMap.publicMap.worldId], rfl, by
          simp [answersLogin]⟩
      · rw [if_neg first]
        exact unrelated_of_collector s _ rfl ⟨[], by simp⟩

theorem unrelated_enter_dungeon (locator : Locator) (s : LobbyState) (player : LobbyPlayer)
    (worldSn : UInt64) : Unrelated s (enterDungeon locator s player worldSn) := by
  unfold enterDungeon
  split
  · exact unrelated_send s _ rfl
  · by_cases first : (s.waitingForDungeon[worldSn]?.getD ∅).isEmpty = true
    · simp only [first, if_true]
      exact unrelated_of_collector s _ rfl ⟨[.queryWorld worldSn s.sn], rfl, by simp [answersLogin]⟩
    · simp only [first]
      exact unrelated_of_collector s _ rfl ⟨[], by simp⟩

theorem unrelated_enter_each (locator : Locator) (players : List UInt64) (s after : LobbyState)
    (done : enterEach locator players s = some after) : Unrelated s after := by
  induction players generalizing s with
  | nil =>
      cases done
      exact unrelated_refl after
  | cons sn rest ih =>
      unfold enterEach at done
      split at done
      · exact ih s done
      · obtain ⟨entered, one, others⟩ := Option.bind_eq_some_iff.mp done
        exact unrelated_trans (unrelated_enter_public locator s entered _ one) (ih entered others)

theorem unrelated_teleport_each (targetWorldSn : UInt64) (players : List UInt64) (s : LobbyState) :
    Unrelated s (teleportEach targetWorldSn players s) := by
  induction players generalizing s with
  | nil => exact unrelated_refl s
  | cons sn rest ih =>
      unfold teleportEach
      split
      · exact ih s
      · exact unrelated_trans (unrelated_send s _ rfl) (ih _)

theorem unrelated_query_player (resources : Resources) (locator : Locator) (s after : LobbyState)
    (account : Str) (proto : PlayerProto)
    (done : handleQueryPlayerRs resources locator s account proto = some after) :
    Unrelated s after := by
  have players := get_by_account_players s.collector account
  have stored : ∀ player, (getPlayerByAccount s.collector account).1 = some player →
      getPlayerBySocket s.collector player.socketKey.socket = some player :=
    fun _ => get_by_account_stored
  have held := accounts_held_get s.collector account
  have forgotten : ∀ collector : Collector LoginComponents,
      (AccountsHeld s.collector → AccountsHeld collector) → collector.players = s.collector.players →
      Unrelated s { s with collector := collector } := by
    intro collector kept same
    refine ⟨kept, ?_, [], by simp, by simp⟩
    intro socket player there
    rw [getPlayerBySocket, same] at there
    exact ⟨player, there, rfl, rfl, rfl⟩
  unfold handleQueryPlayerRs at done
  split at done
  · rename_i collector found
    rw [found] at players held
    cases done
    exact forgotten collector held players
  · rename_i player collector found
    rw [found] at players held stored
    split at done
    · cases done
    · have own : getPlayerBySocket collector player.socketKey.socket = some player := by
        rw [getPlayerBySocket, players]
        exact stored player rfl
      -- The session is stored again under its socket, with what the database said.
      have parsed : Unrelated { s with collector := collector } (send { s with
          collector := setPlayer collector { player with
            playerSn := proto.sn
            components := { player.components with
              proto := proto, lastMap := some (parseLastMap resources proto) } } }
          (.syncPlayer player proto)) := by
        refine ⟨fun kept => accounts_held_set collector player _ kept own rfl, ?_,
          [.syncPlayer player proto], rfl, by simp [answersLogin]⟩
        intro socket other there
        dsimp only [send] at there
        rw [get_by_socket_set] at there
        split at there
        · rename_i here
          cases there
          rw [here]
          exact ⟨player, own, rfl, rfl, rfl⟩
        · exact ⟨other, there, rfl, rfl, rfl⟩
      have begun := unrelated_trans (forgotten collector held players) parsed
      dsimp only at done
      split at done
      · cases done
        exact unrelated_trans begun (unrelated_enter_dungeon locator _ _ _)
      · exact unrelated_trans begun (unrelated_enter_public locator _ after _ done)

theorem unrelated_query_world (locator : Locator) (s after : LobbyState) (worldSn : UInt64) (ok : Bool)
    (done : handleQueryWorldRs locator s worldSn ok = some after) : Unrelated s after := by
  unfold handleQueryWorldRs at done
  split at done
  · cases done
    exact unrelated_refl s
  · split at done
    · cases done
      exact unrelated_refl s
    · obtain ⟨entered, each, rfl⟩ := Option.map_eq_some_iff.mp done
      exact unrelated_trans (unrelated_enter_each locator _ s entered each)
        (unrelated_of_collector entered _ rfl ⟨[], by simp⟩)

theorem unrelated_broadcast (resources : Resources) (s : LobbyState) (worldId : Int)
    (worldSn : UInt64) :
    Unrelated s (handleBroadcastCreateWorldProxy resources s worldId worldSn) := by
  have served : ∀ (players : List UInt64) (after : LobbyState),
      after.collector = (teleportEach worldSn players s).collector →
      after.sent = (teleportEach worldSn players s).sent → Unrelated s after := by
    intro players after collector sent
    exact unrelated_trans (unrelated_teleport_each worldSn players s)
      (unrelated_of_collector _ after collector ⟨[], by simp [sent]⟩)
  unfold handleBroadcastCreateWorldProxy
  split
  · exact unrelated_refl s
  · split
    · exact unrelated_refl s
    · exact served _ _ rfl rfl
  · split
    · exact unrelated_refl s
    · exact served _ _ rfl rfl

theorem login_cases (s : LobbyState) (identify : NetIdentify) (account token : Str) :
    (∃ busy, getPlayerBySocket s.collector identify.socketKey.socket = some busy ∧
      handleLoginByToken s identify account token =
        send s (.requestDisconnect identify)) ∨
    ∃ player added, addPlayer s.collector identify.socketKey account ⟨token, 1, emptyProto, none⟩ =
        some (player, added) ∧
      handleLoginByToken s identify account token =
        send (send { s with collector := added } (.listenKey player.socketKey player.account))
          (.gameTokenToRedis (cStr player.account)) := by
  unfold handleLoginByToken
  cases accepted : addPlayer s.collector identify.socketKey account ⟨token, 1, emptyProto, none⟩ with
  | none =>
      left
      unfold addPlayer at accepted
      split at accepted
      · rename_i busy there
        exact ⟨busy, there, rfl⟩
      · cases accepted
  | some pair => exact Or.inr ⟨pair.1, pair.2, rfl, rfl⟩

/-- What redis' answer does: nothing but a forgotten account, or one answer to
the session found, followed by the query of its player when it is accepted. -/
theorem token_rs_cases (s : LobbyState) (account token : Str) (playerSn : UInt64) :
    ((getPlayerByAccount s.collector account).1 = none ∧
      handleGameTokenToRedisRs s account token playerSn =
        { s with collector := (getPlayerByAccount s.collector account).2 }) ∨
    ∃ player, (getPlayerByAccount s.collector account).1 = some player ∧
      handleGameTokenToRedisRs s account token playerSn = { s with
        collector := (getPlayerByAccount s.collector account).2
        sent := s.sent ++
          if isTokenValid player.components.token token then
            [.loginByTokenRs player true, .queryPlayer playerSn]
          else [.loginByTokenRs player false] } := by
  unfold handleGameTokenToRedisRs
  rcases found : getPlayerByAccount s.collector account with ⟨none | player, collector⟩
  · exact Or.inl ⟨rfl, rfl⟩
  · right
    refine ⟨player, rfl, ?_⟩
    dsimp only
    split
    · simp [send]
    · simp [send]

theorem lobby_step_unrelated (resources : Resources) (before : LobbyState) (event : Event)
    (after : LobbyState) (notLogin : ∀ identify account token, event ≠ .login identify account token)
    (taken : lobbyStep resources before event after) : Unrelated before after := by
  cases event with
  | login identify account token => exact absurd rfl (notLogin identify account token)
  | queryPlayerRs locator account proto =>
      exact unrelated_query_player resources locator before after account proto taken
  | queryWorldRs locator worldSn ok =>
      exact unrelated_query_world locator before after worldSn ok taken
  | broadcast worldId worldSn =>
      rw [lobbyStep] at taken
      rw [taken]
      exact unrelated_broadcast resources before worldId worldSn
  | teleportAfter identify =>
      obtain ⟨player, -, rfl⟩ := taken
      exact unrelated_remove before _
  | disconnect identify =>
      rw [lobbyStep] at taken
      rw [taken, handleNetworkDisconnect]
      split
      · exact unrelated_refl before
      · exact unrelated_remove before _

end GameBook.Lobby
