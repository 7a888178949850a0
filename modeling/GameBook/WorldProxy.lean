import GameBook.AppKey
import GameBook.CString
import GameBook.LabelledRun
import GameBook.PlayerCollector
import GameBook.WhileLoop

/-!
`WorldProxy` with its `WorldComponentTeleport` and `PlayerCollectorComponent`.
A handler takes the proxy before a message to the proxy after it and appends
what it sends. Following a null player is the result `none`; a loop that does
not end is the lack of enough fuel. The resource table is the parameter `world`;
what the locators of the process answer comes with the message.
-/

namespace GameBook.WorldProxy

open OrderedMap SocketObject AppKey CString PlayerCollector WhileLoop LabelledRun

inductive WorldType where
  | login
  | roles
  | publicWorld
  | dungeon
  deriving DecidableEq, Repr

inductive TeleportFlagType where
  | none
  | waiting
  | completed
  deriving DecidableEq, Repr

structure TeleportFlag (α : Type) where
  flag : TeleportFlagType
  value : α

def setValue {α : Type} (value : α) : TeleportFlag α := ⟨.completed, value⟩

def isCompleted {α : Type} (f : TeleportFlag α) : Bool := f.flag = .completed

@[simp] theorem is_completed_set_value {α : Type} (value : α) : isCompleted (setValue value) = true := by
  simp [isCompleted, setValue]

@[simp] theorem value_set_value {α : Type} (value : α) : (setValue value).value = value := rfl

structure TeleportObject where
  flagWorld : TeleportFlag UInt64
  flagPlayerSync : TeleportFlag Bool
  targetWorldId : Int
  playerSn : UInt64

/-- The `Proto::Teleport` of MI_Teleport with the socket and the target it goes to. -/
structure Teleport (Proto : Type) where
  lastWorldSn : UInt64
  account : Str
  playerSn : UInt64
  player : Proto
  socketKey : SocketKey
  targetWorldSn : UInt64

inductive Sent (Proto : Type) where
  | listenKey (socketKey : SocketKey) (account : Str)
  | requestWorld (worldId : Int)
  | createWorld (worldId : Int) (lastWorldSn spaceAppId : UInt64)
  | requestSyncPlayer (playerSn : UInt64)
  | syncPlayer (account : Str) (playerSn : UInt64) (player : Proto)
  | removePlayer (playerSn tagged : UInt64)
  | worldDisconnect (playerSn : UInt64)
  | teleport (message : Teleport Proto)
  | teleportAfter (playerSn lastWorldSn : UInt64)
  | requestDisconnect (socketKey : SocketKey) (account : Str)

/-- A proxy. It is `gone` once the entity system has returned it to its pool. -/
structure Proxy (Proto : Type) where
  sn : UInt64
  collector : Collector Proto
  objects : Table UInt64 TeleportObject
  sent : List (Sent Proto)
  removed : Bool
  gone : Bool

variable {Proto : Type}

def create (sn : UInt64) : Proxy Proto := ⟨sn, empty, ∅, [], false, false⟩

def send (s : Proxy Proto) (message : Sent Proto) : Proxy Proto :=
  { s with sent := s.sent ++ [message] }

def spaceAppId (s : Proxy Proto) : UInt64 := getAppIdFromSN s.sn

/-- `GetPlayer`: by socket for a client's connection, else by the Player tag. -/
def getPlayer (s : Proxy Proto) (identify : NetIdentify) : Option (Player Proto) :=
  match identify.tagKey .account with
  | some _ => getPlayerBySocket s.collector identify.socketKey.socket
  | none =>
      match identify.tagKey .player with
      | some player => getPlayerBySn s.collector player.keyInt64
      | none => none

/-! WorldComponentTeleport. -/

def isTeleporting (s : Proxy Proto) (player : Player Proto) : Bool :=
  s.objects[player.playerSn]?.isSome

def awake (worldId : Int) (playerSn : UInt64) : TeleportObject :=
  ⟨⟨.none, 0⟩, ⟨.none, false⟩, worldId, playerSn⟩

/-- `located` is the answer of `GetWorldSnById`, `space` that of `GetSpaceApp`. -/
def createWorldFlag (kind : WorldType) (located : UInt64) (space : Option UInt64)
    (s : Proxy Proto) (obj : TeleportObject) : Proxy Proto × TeleportObject :=
  match kind with
  | .publicWorld =>
      if located = invalidId then
        (send s (.requestWorld obj.targetWorldId),
          { obj with flagWorld := { obj.flagWorld with flag := .waiting } })
      else (s, { obj with flagWorld := setValue located })
  | .dungeon =>
      match space with
      | none => (s, obj)
      | some appId =>
          (send s (.createWorld obj.targetWorldId s.sn appId),
            { obj with flagWorld := { obj.flagWorld with flag := .waiting } })
  | _ => (s, obj)

def createSyncFlag (s : Proxy Proto) (obj : TeleportObject) : Proxy Proto × TeleportObject :=
  (send s (.requestSyncPlayer obj.playerSn),
    { obj with flagPlayerSync := { obj.flagPlayerSync with flag := .waiting } })

/-- The object is in the map before its flags are set; no handler runs in between. -/
def createTeleportObject (kind : WorldType) (located : UInt64) (space : Option UInt64)
    (s : Proxy Proto) (worldId : Int) (player : Player Proto) : Proxy Proto :=
  let (asked, requested) := createWorldFlag kind located space s (awake worldId player.playerSn)
  let (synced, obj) := createSyncFlag asked requested
  { synced with objects := synced.objects.insert player.playerSn obj }

def teleportOf (player : Player Proto) (lastWorldSn targetWorldSn : UInt64) : Teleport Proto where
  lastWorldSn := lastWorldSn
  account := cStr player.account
  playerSn := player.playerSn
  player := player.components
  socketKey := player.socketKey
  targetWorldSn := targetWorldSn

def check (s : Proxy Proto) (obj : TeleportObject) : Option (Proxy Proto) :=
  if !isCompleted obj.flagPlayerSync || !isCompleted obj.flagWorld then some s
  else if obj.flagWorld.value = 0 then some s
  else
    match getPlayerBySn s.collector obj.playerSn with
    | none => none
    | some player =>
        some { s with
          objects := s.objects.erase player.playerSn
          sent := s.sent ++ [.teleport (teleportOf player s.sn obj.flagWorld.value)] }

def assignWorld (worldSn : UInt64) (s : Proxy Proto) (key : UInt64) (obj : TeleportObject) :
    Option (Proxy Proto) :=
  check { s with objects := s.objects.insert key { obj with flagWorld := setValue worldSn } }
    { obj with flagWorld := setValue worldSn }

def findTarget (s : Proxy Proto) (worldId : Int) : Option (UInt64 × TeleportObject) :=
  findIf (fun obj => obj.targetWorldId == worldId) s.objects

def broadcastTurn (worldId : Int) (worldSn : UInt64) (s : Proxy Proto) :
    Proxy Proto ⊕ Option (Proxy Proto) :=
  match findTarget s worldId with
  | none => .inr (some s)
  | some (key, obj) =>
      match assignWorld worldSn s key obj with
      | none => .inr none
      | some next => .inl next

def handleBroadcastCreateWorldProxy (world : Int → Option WorldType) (fuel : Nat) (s : Proxy Proto)
    (worldId : Int) (worldSn : UInt64) : Option (Option (Proxy Proto)) :=
  match world worldId with
  | none => some none
  | some .publicWorld => loop (broadcastTurn worldId worldSn) fuel s
  | some .dungeon =>
      match findTarget s worldId with
      | none => some (some s)
      | some (key, obj) => some (assignWorld worldSn s key obj)
  | some _ => some (some s)

def broadcastSyncPlayer (s : Proxy Proto) (playerSn : UInt64) : Option (Proxy Proto) :=
  match findIf (fun obj => obj.playerSn == playerSn) s.objects with
  | none => some s
  | some (key, obj) =>
      check { s with objects := s.objects.insert key { obj with flagPlayerSync := setValue true } }
        { obj with flagPlayerSync := setValue true }

/-! WorldProxy. -/

def handleC2GEnterWorld (world : Int → Option WorldType) (located : UInt64) (space : Option UInt64)
    (s : Proxy Proto) (player : Player Proto) (worldId : Int) : Proxy Proto :=
  match world worldId with
  | none => s
  | some kind =>
      if isTeleporting s player then s
      else createTeleportObject kind located space s worldId player

def handleS2GSyncPlayer (s : Proxy Proto) (player : Player Proto) (proto : Proto) :
    Option (Proxy Proto) :=
  broadcastSyncPlayer { s with collector := setPlayer s.collector { player with components := proto } }
    player.playerSn

def handleTeleport (s : Proxy Proto) (message : Teleport Proto) : Proxy Proto :=
  match addPlayer s.collector message.socketKey message.account message.player with
  | none => s
  | some (player, added) =>
      let listened := send { s with collector := setPlayer added { player with playerSn := message.playerSn } }
        (.listenKey player.socketKey player.account)
      send (send listened (.syncPlayer (cStr message.account) message.playerSn message.player))
        (.teleportAfter message.playerSn message.lastWorldSn)

def handleTeleportAfter (s : Proxy Proto) (player : Player Proto) (playerSn : UInt64) : Proxy Proto :=
  send { s with collector := removePlayerBySocket s.collector player.socketKey.socket }
    (.removePlayer playerSn player.playerSn)

def removeAllPlayerAndCloseConnect (s : Proxy Proto) : Proxy Proto :=
  { s with
    collector := empty
    sent := s.sent ++ s.collector.players.toList.map fun entry =>
      .requestDisconnect entry.2.socketKey entry.2.account }

def handleNetworkDisconnect (s : Proxy Proto) (identify : NetIdentify) : Proxy Proto :=
  if !isTcp identify.socketKey.netType then s
  else
    match identify.tagKey .account with
    | some _ =>
        match getPlayerBySocket s.collector identify.socketKey.socket with
        | none => s
        | some player =>
            send { s with collector := removePlayerBySocket s.collector identify.socketKey.socket }
              (.worldDisconnect player.playerSn)
    | none =>
        match identify.tagKey .app with
        | none => s
        | some app =>
            if getTypeFromAppKey app.keyInt64 ≠ bits .space ∨
                spaceAppId s ≠ getIdFromAppKey app.keyInt64 then s
            else { removeAllPlayerAndCloseConnect s with removed := true }

/-- `RemoveComponent` only queues the proxy; the entity system disposes of it later. -/
def dispose (s : Proxy Proto) : Proxy Proto := { s with collector := empty, objects := ∅, gone := true }

inductive Event (Proto : Type) where
  | enterWorld (identify : NetIdentify) (worldId : Int) (located : UInt64) (space : Option UInt64)
  | syncPlayer (identify : NetIdentify) (player : Proto)
  | broadcast (worldId : Int) (worldSn : UInt64)
  | teleport (message : Teleport Proto)
  | teleportAfter (identify : NetIdentify) (playerSn : UInt64)
  | disconnect (identify : NetIdentify)
  | dispose

/-- One message handled to its end. A filtered message without a player is not handled. -/
def proxyStep (world : Int → Option WorldType) (before : Proxy Proto) (event : Event Proto)
    (after : Proxy Proto) : Prop :=
  before.gone = false ∧
  match event with
  | .enterWorld identify worldId located space =>
      ∃ player, getPlayer before identify = some player ∧
        after = handleC2GEnterWorld world located space before player worldId
  | .syncPlayer identify proto =>
      ∃ player, getPlayer before identify = some player ∧
        handleS2GSyncPlayer before player proto = some after
  | .broadcast worldId worldSn =>
      ∃ fuel, handleBroadcastCreateWorldProxy world fuel before worldId worldSn = some (some after)
  | .teleport message => after = handleTeleport before message
  | .teleportAfter identify playerSn =>
      ∃ player, getPlayer before identify = some player ∧
        after = handleTeleportAfter before player playerSn
  | .disconnect identify => after = handleNetworkDisconnect before identify
  | .dispose => before.removed = true ∧ after = dispose before

def Keyed (s : Proxy Proto) : Prop :=
  ∀ (key : UInt64) (obj : TeleportObject), s.objects[key]? = some obj → obj.playerSn = key

theorem get_player_held {s : Proxy Proto} {identify : NetIdentify} {player : Player Proto}
    (found : getPlayer s identify = some player) :
    getPlayerBySocket s.collector player.socketKey.socket = some player := by
  unfold getPlayer at found
  split at found
  · have key := s.collector.keyed _ _ found
    rw [key]
    exact found
  · split at found
    · exact (get_by_sn_some found).1
    · cases found

/-! What `Check` can do. -/

theorem check_cases {s after : Proxy Proto} {obj : TeleportObject} (done : check s obj = some after) :
    ((isCompleted obj.flagPlayerSync = false ∨ isCompleted obj.flagWorld = false ∨
        obj.flagWorld.value = 0) ∧ after = s) ∨
    (isCompleted obj.flagPlayerSync = true ∧ isCompleted obj.flagWorld = true ∧
      obj.flagWorld.value ≠ 0 ∧ ∃ player, getPlayerBySn s.collector obj.playerSn = some player ∧
        after = { s with
          objects := s.objects.erase obj.playerSn
          sent := s.sent ++ [.teleport (teleportOf player s.sn obj.flagWorld.value)] }) := by
  unfold check at done
  split at done
  · rename_i waiting
    cases done
    left
    simp only [Bool.or_eq_true, Bool.not_eq_true'] at waiting
    exact ⟨waiting.imp id Or.inl, rfl⟩
  · rename_i ready
    simp only [Bool.or_eq_true, Bool.not_eq_true', not_or, Bool.not_eq_false] at ready
    split at done
    · rename_i zero
      cases done
      exact Or.inl ⟨Or.inr (Or.inr zero), rfl⟩
    · rename_i nonzero
      split at done
      · cases done
      · rename_i player found
        cases done
        right
        have sn := (get_by_sn_some found).2
        exact ⟨ready.1, ready.2, nonzero, player, found, by rw [sn]⟩

/-- Storing an object and checking it touches no other: it stays as stored, or
it had its world and is gone. -/
theorem stored_check_objects {s after : Proxy Proto} {key : UInt64} {obj : TeleportObject}
    (keyed : obj.playerSn = key)
    (done : check { s with objects := s.objects.insert key obj } obj = some after) :
    (∀ other : UInt64, other ≠ key → after.objects[other]? = s.objects[other]?) ∧
      (after.objects[key]? = some obj ∨
        (after.objects[key]? = none ∧ obj.flagWorld.flag = .completed)) := by
  rcases check_cases done with ⟨-, rfl⟩ | ⟨-, completed, -, player, -, rfl⟩
  · refine ⟨?_, Or.inl ?_⟩
    · intro other differs
      dsimp only
      rw [get_insert, if_neg differs]
    · dsimp only
      rw [get_insert, if_pos rfl]
  · refine ⟨?_, Or.inr ⟨?_, by simpa [isCompleted] using completed⟩⟩
    · intro other differs
      dsimp only
      rw [get_erase, get_insert, keyed, if_neg differs, if_neg differs]
    · dsimp only
      rw [get_erase, keyed, if_pos rfl]

/-- A check fails only at an object that is ready and has no player. -/
theorem check_none_iff (s : Proxy Proto) (obj : TeleportObject) :
    check s obj = none ↔ isCompleted obj.flagPlayerSync = true ∧ isCompleted obj.flagWorld = true ∧
      obj.flagWorld.value ≠ 0 ∧ getPlayerBySn s.collector obj.playerSn = none := by
  unfold check
  cases isCompleted obj.flagPlayerSync <;> cases isCompleted obj.flagWorld <;>
    by_cases zero : obj.flagWorld.value = 0 <;>
    cases getPlayerBySn s.collector obj.playerSn <;> simp [zero]

theorem find_target_some {s : Proxy Proto} {worldId : Int} {key : UInt64} {obj : TeleportObject}
    (found : findTarget s worldId = some (key, obj)) :
    s.objects[key]? = some obj ∧ obj.targetWorldId = worldId := by
  obtain ⟨held, hit⟩ := find_if_some found
  exact ⟨held, by simpa using hit⟩

theorem find_target_none {s : Proxy Proto} {worldId : Int} :
    findTarget s worldId = none ↔ ∀ (key : UInt64) (obj : TeleportObject),
      s.objects[key]? = some obj → obj.targetWorldId ≠ worldId := by
  rw [findTarget, find_if_none]
  simp

/-! Flags and checks only advance objects that exist: none is added, none
changes its player or target, and what is sent are teleports of present players. -/

def Issued (s : Proxy Proto) (message : Teleport Proto) : Prop :=
  ∃ player targetWorldSn, getPlayerBySn s.collector message.playerSn = some player ∧
    targetWorldSn ≠ 0 ∧ message = teleportOf player s.sn targetWorldSn

theorem issued_present {s : Proxy Proto} {message : Teleport Proto} (issued : Issued s message) :
    (getPlayerBySn s.collector message.playerSn).isSome := by
  obtain ⟨player, targetWorldSn, found, -⟩ := issued
  rw [found]
  rfl

structure Advances (s t : Proxy Proto) : Prop where
  sn : t.sn = s.sn
  collector : t.collector = s.collector
  objects : ∀ (key : UInt64) (obj : TeleportObject), t.objects[key]? = some obj →
    ∃ old, s.objects[key]? = some old ∧ obj.playerSn = old.playerSn ∧
      obj.targetWorldId = old.targetWorldId
  teleports : ∃ new : List (Teleport Proto), t.sent = s.sent ++ new.map .teleport ∧
    ∀ message ∈ new, Issued s message

theorem advances_refl (s : Proxy Proto) : Advances s s :=
  ⟨rfl, rfl, fun _ obj held => ⟨obj, held, rfl, rfl⟩, [], by simp, by simp⟩

theorem advances_trans {s t u : Proxy Proto} (first : Advances s t) (second : Advances t u) :
    Advances s u := by
  constructor
  · rw [second.sn, first.sn]
  · rw [second.collector, first.collector]
  · intro key obj held
    obtain ⟨middle, heldMiddle, sn, target⟩ := second.objects key obj held
    obtain ⟨old, heldOld, snOld, targetOld⟩ := first.objects key middle heldMiddle
    exact ⟨old, heldOld, sn.trans snOld, target.trans targetOld⟩
  · obtain ⟨new, sent, issued⟩ := first.teleports
    obtain ⟨later, sentLater, issuedLater⟩ := second.teleports
    refine ⟨new ++ later, ?_, ?_⟩
    · rw [sentLater, sent, List.map_append, List.append_assoc]
    · intro message member
      rcases List.mem_append.mp member with older | newer
      · exact issued message older
      · rw [Issued, ← first.collector, ← first.sn]
        exact issuedLater message newer

theorem update_advances (s : Proxy Proto) (key : UInt64) (old obj : TeleportObject)
    (held : s.objects[key]? = some old) (sn : obj.playerSn = old.playerSn)
    (target : obj.targetWorldId = old.targetWorldId) :
    Advances s { s with objects := s.objects.insert key obj } := by
  refine ⟨rfl, rfl, ?_, [], by simp, by simp⟩
  intro other kept here
  dsimp only at here
  rw [get_insert] at here
  split at here
  · rename_i same
    cases here
    rw [same]
    exact ⟨old, held, sn, target⟩
  · exact ⟨kept, here, rfl, rfl⟩

theorem check_advances {s after : Proxy Proto} {obj : TeleportObject}
    (done : check s obj = some after) : Advances s after := by
  rcases check_cases done with ⟨-, same⟩ | ⟨-, -, nonzero, player, found, rfl⟩
  · rw [same]
    exact advances_refl s
  · refine ⟨rfl, rfl, ?_, [teleportOf player s.sn obj.flagWorld.value], rfl, ?_⟩
    · intro key kept here
      dsimp only at here
      rw [get_erase] at here
      split at here
      · cases here
      · exact ⟨kept, here, rfl, rfl⟩
    · intro message member
      refine ⟨player, obj.flagWorld.value, ?_, nonzero, List.mem_singleton.mp member⟩
      rw [List.mem_singleton.mp member, teleportOf, (get_by_sn_some found).2, found]

theorem assign_world_advances {worldSn : UInt64} {s after : Proxy Proto} {key : UInt64}
    {obj : TeleportObject} (held : s.objects[key]? = some obj)
    (done : assignWorld worldSn s key obj = some after) : Advances s after :=
  advances_trans (update_advances s key obj { obj with flagWorld := setValue worldSn } held rfl rfl)
    (check_advances done)

theorem broadcast_turn_advances {worldId : Int} {worldSn : UInt64} {s next : Proxy Proto}
    (turn : broadcastTurn worldId worldSn s = .inl next) : Advances s next := by
  unfold broadcastTurn at turn
  split at turn
  · cases turn
  · rename_i key obj found
    split at turn
    · cases turn
    · rename_i assigned
      cases turn
      exact assign_world_advances (find_target_some found).1 assigned

theorem broadcast_turn_exit {worldId : Int} {worldSn : UInt64} {s : Proxy Proto}
    {result : Option (Proxy Proto)} (turn : broadcastTurn worldId worldSn s = .inr result) :
    (result = some s ∧ findTarget s worldId = none) ∨
      (result = none ∧ ∃ key obj, findTarget s worldId = some (key, obj) ∧
        assignWorld worldSn s key obj = none) := by
  unfold broadcastTurn at turn
  split at turn
  · rename_i absent
    cases turn
    exact Or.inl ⟨rfl, absent⟩
  · rename_i key obj found
    split at turn
    · rename_i crashed
      cases turn
      exact Or.inr ⟨rfl, key, obj, found, crashed⟩
    · cases turn

theorem broadcast_advances {world : Int → Option WorldType} {fuel : Nat} {s after : Proxy Proto}
    {worldId : Int} {worldSn : UInt64}
    (done : handleBroadcastCreateWorldProxy world fuel s worldId worldSn = some (some after)) :
    Advances s after := by
  unfold handleBroadcastCreateWorldProxy at done
  split at done
  · cases done
  · have ended := loop_result (Advances s) (fun result => ∀ t, result = some t → Advances s t)
      (fun state next advanced turn => advances_trans advanced (broadcast_turn_advances turn))
      ?_ fuel s (some after) (advances_refl s) done
    · exact ended after rfl
    · rintro state result advanced turn t rfl
      rcases broadcast_turn_exit turn with ⟨same, -⟩ | ⟨crashed, -⟩
      · cases same
        exact advanced
      · cases crashed
  · split at done
    · cases done
      exact advances_refl s
    · rename_i key obj found
      exact assign_world_advances (find_target_some found).1 (Option.some.inj done)
  · cases done
    exact advances_refl s

theorem broadcast_sync_advances {s after : Proxy Proto} {playerSn : UInt64}
    (done : broadcastSyncPlayer s playerSn = some after) : Advances s after := by
  unfold broadcastSyncPlayer at done
  split at done
  · cases done
    exact advances_refl s
  · rename_i key obj found
    exact advances_trans (update_advances s key obj { obj with flagPlayerSync := setValue true }
      (find_if_some found).1 rfl rfl) (check_advances done)

def asks : Sent Proto → Bool
  | .requestWorld _ => true
  | .createWorld _ _ _ => true
  | .requestSyncPlayer _ => true
  | _ => false

theorem create_teleport_object_fields (kind : WorldType) (located : UInt64) (space : Option UInt64)
    (s : Proxy Proto) (worldId : Int) (player : Player Proto) :
    ∃ obj, (createTeleportObject kind located space s worldId player).objects =
        s.objects.insert player.playerSn obj ∧
      obj.playerSn = player.playerSn ∧ obj.targetWorldId = worldId ∧
      obj.flagPlayerSync.flag = .waiting ∧
      (createTeleportObject kind located space s worldId player).sn = s.sn ∧
      (createTeleportObject kind located space s worldId player).collector = s.collector ∧
      ∃ new, (createTeleportObject kind located space s worldId player).sent = s.sent ++ new ∧
        ∀ message ∈ new, asks message = true := by
  unfold createTeleportObject createWorldFlag createSyncFlag send awake
  cases kind with
  | login =>
      exact ⟨_, rfl, rfl, rfl, rfl, rfl, rfl, [.requestSyncPlayer player.playerSn], rfl, by simp [asks]⟩
  | roles =>
      exact ⟨_, rfl, rfl, rfl, rfl, rfl, rfl, [.requestSyncPlayer player.playerSn], rfl, by simp [asks]⟩
  | publicWorld =>
      by_cases unlocated : located = invalidId
      · rw [if_pos unlocated]
        exact ⟨_, rfl, rfl, rfl, rfl, rfl, rfl,
          [.requestWorld worldId, .requestSyncPlayer player.playerSn], by simp, by simp [asks]⟩
      · rw [if_neg unlocated]
        exact ⟨_, rfl, rfl, rfl, rfl, rfl, rfl, [.requestSyncPlayer player.playerSn], rfl,
          by simp [asks]⟩
  | dungeon =>
      cases space with
      | none =>
          exact ⟨_, rfl, rfl, rfl, rfl, rfl, rfl, [.requestSyncPlayer player.playerSn], rfl,
            by simp [asks]⟩
      | some appId =>
          exact ⟨_, rfl, rfl, rfl, rfl, rfl, rfl,
            [.createWorld worldId s.sn appId, .requestSyncPlayer player.playerSn], by simp,
            by simp [asks]⟩

theorem keyed_advances {s t : Proxy Proto} (advances : Advances s t) (keyed : Keyed s) : Keyed t := by
  intro key obj held
  obtain ⟨old, heldOld, sn, -⟩ := advances.objects key obj held
  rw [sn]
  exact keyed key old heldOld

theorem keyed_enter_world (world : Int → Option WorldType) (located : UInt64)
    (space : Option UInt64) (s : Proxy Proto) (player : Player Proto) (worldId : Int)
    (keyed : Keyed s) : Keyed (handleC2GEnterWorld world located space s player worldId) := by
  unfold handleC2GEnterWorld
  split
  · exact keyed
  · split
    · exact keyed
    · rename_i kind _ _
      obtain ⟨obj, objects, sn, -⟩ := create_teleport_object_fields kind located space s worldId player
      intro key kept held
      rw [objects, get_insert] at held
      split at held
      · rename_i same
        cases held
        rw [sn, same]
      · exact keyed key kept held

theorem handle_teleport_objects (s : Proxy Proto) (message : Teleport Proto) :
    (handleTeleport s message).objects = s.objects := by
  unfold handleTeleport
  split <;> rfl

theorem handle_disconnect_objects (s : Proxy Proto) (identify : NetIdentify) :
    (handleNetworkDisconnect s identify).objects = s.objects := by
  unfold handleNetworkDisconnect
  split
  · rfl
  · split
    · split <;> rfl
    · split
      · rfl
      · split <;> rfl

theorem keyed_step (world : Int → Option WorldType) (before : Proxy Proto) (event : Event Proto)
    (after : Proxy Proto) (keyed : Keyed before) (step : proxyStep world before event after) :
    Keyed after := by
  obtain ⟨-, taken⟩ := step
  cases event with
  | enterWorld identify worldId located space =>
      obtain ⟨player, -, rfl⟩ := taken
      exact keyed_enter_world world located space before player worldId keyed
  | syncPlayer identify proto =>
      obtain ⟨player, -, done⟩ := taken
      exact keyed_advances (broadcast_sync_advances done) keyed
  | broadcast worldId worldSn =>
      obtain ⟨fuel, done⟩ := taken
      exact keyed_advances (broadcast_advances done) keyed
  | teleport message =>
      cases taken
      rw [Keyed, handle_teleport_objects]
      exact keyed
  | teleportAfter identify playerSn =>
      obtain ⟨player, -, rfl⟩ := taken
      exact keyed
  | disconnect identify =>
      cases taken
      rw [Keyed, handle_disconnect_objects]
      exact keyed
  | dispose =>
      obtain ⟨-, rfl⟩ := taken
      intro key obj held
      simp [WorldProxy.dispose] at held

theorem keyed_create (sn : UInt64) : Keyed (create sn : Proxy Proto) := by
  intro key obj held
  simp [create] at held

theorem keyed_run (world : Int → Option WorldType) (sn : UInt64) (trace : List (Event Proto))
    (s : Proxy Proto) (run : Run (proxyStep world) (create sn) trace s) : Keyed s :=
  run_invariant Keyed (keyed_step world) run (keyed_create sn)

end GameBook.WorldProxy
