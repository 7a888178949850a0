import GameBook.SpaceWorld
import GameBook.WorldProxy

/-!
A player on its way from one world to another: the two worlds in their space
processes, their proxies, and the messages between them. Messages of one
connection, and packets dispatched to one receiver, are read in order. What the
source world held when it removed the player, and what the target world
installed, is written down.
-/

namespace GameBook.TeleportUpdates

open OrderedMap SocketObject PlayerCollector LastMap SpaceWorld LabelledRun
open WorldProxy (Proxy Teleport TeleportObject WorldType isCompleted setValue check_cases Keyed)

variable {Position Direction : Type}

/-- `link` is the connection of the game process to the space processes. -/
structure Setting (Position Direction : Type) where
  resources : Resources Position
  motion : Motion Position Direction
  link : SocketKey
  playerSn : UInt64

structure Journey (Position Direction : Type) where
  source : World Position Direction
  sourceProxy : Proxy (PlayerProto Position)
  target : World Position Direction
  targetProxy : Proxy (PlayerProto Position)
  toSource : List (Message Position Direction)
  fromSource : List (NetIdentify × PlayerProto Position)
  toTarget : List (Message Position Direction)
  dispatched : List (Teleport (PlayerProto Position))
  afters : List UInt64
  -- the source has handled a G2S_RequestSyncPlayer
  asked : Bool
  removed : List (LastMap Position)
  installed : List (LastMap Position)

def begin (source target : World Position Direction)
    (sourceProxy targetProxy : Proxy (PlayerProto Position)) : Journey Position Direction :=
  ⟨source, sourceProxy, target, targetProxy, [], [], [], [], [], false, [], []⟩

/-! ### What is sent to whom -/

/-- The Player tag of what goes to a world or comes from it; the Entity tag
beside it has brought the packet to its receiver. -/
def tagged (link : SocketKey) (playerSn : UInt64) : NetIdentify :=
  ⟨link, addTagInt clear .player playerSn⟩

def toWorld (link : SocketKey) :
    WorldProxy.Sent (PlayerProto Position) → Option (Message Position Direction)
  | .requestSyncPlayer playerSn => some (.requestSyncPlayer (tagged link playerSn))
  | .syncPlayer _ _ player => some (.syncPlayer link player)
  | .removePlayer playerSn taggedSn => some (.removePlayer (tagged link taggedSn) playerSn)
  | .worldDisconnect playerSn => some (.networkDisconnect (tagged link playerSn))
  | _ => none

/-- The Entity tag of MI_Teleport names the receiver. -/
def teleportTo (worldSn : UInt64) :
    WorldProxy.Sent (PlayerProto Position) → Option (Teleport (PlayerProto Position))
  | .teleport message => if message.targetWorldSn = worldSn then some message else none
  | _ => none

def teleportAfterTo (worldSn : UInt64) : WorldProxy.Sent (PlayerProto Position) → Option UInt64
  | .teleportAfter playerSn lastWorldSn => if lastWorldSn = worldSn then some playerSn else none
  | _ => none

def answer (link : SocketKey) : Sent Position → Option (NetIdentify × PlayerProto Position)
  | .player playerSn _ _ (.syncPlayer _ player) => some (tagged link playerSn, player)
  | _ => none

def worldTypes (resources : Resources Position) (worldId : Int) : Option WorldType :=
  (resources.getResource worldId).map ResourceWorld.worldType

/-- `RegisterFunctionFilter`: no player, no call. -/
def dropped (s : Proxy (PlayerProto Position)) : WorldProxy.Event (PlayerProto Position) → Bool
  | .enterWorld identify _ _ _ => (WorldProxy.getPlayer s identify).isNone
  | .syncPlayer identify _ => (WorldProxy.getPlayer s identify).isNone
  | .teleportAfter identify _ => (WorldProxy.getPlayer s identify).isNone
  | _ => false

def receives (resources : Resources Position) (before : Proxy (PlayerProto Position))
    (event : WorldProxy.Event (PlayerProto Position)) (after : Proxy (PlayerProto Position)) : Prop :=
  if dropped before event then after = before
  else WorldProxy.proxyStep (worldTypes resources) before event after

/-- `HandleDefaultFunction` with a C2S_Move: a copy goes to the world. What has a
Player tag is for a client. -/
def forwardMove (link : SocketKey) (s : Proxy (PlayerProto Position)) (identify : NetIdentify)
    (positions : List Position) (pooled : MoveVector3 Position Direction) :
    List (Message Position Direction) :=
  match identify.tagKey .player, getPlayerBySocket s.collector identify.socketKey.socket with
  | none, some player => [.move (tagged link player.playerSn) positions pooled]
  | _, _ => []

def departed (playerSn : UInt64) (before after : World Position Direction) :
    List (LastMap Position) :=
  match getPlayerBySn before.manager playerSn, getPlayerBySn after.manager playerSn with
  | some p, none => [p.lastMap.1]
  | _, _ => []

def afterSourceProxy (c : Setting Position Direction) (j : Journey Position Direction)
    (after : Proxy (PlayerProto Position)) : Journey Position Direction :=
  let new := after.sent.drop j.sourceProxy.sent.length
  { j with
    sourceProxy := after
    toSource := j.toSource ++ new.filterMap (toWorld c.link)
    dispatched := j.dispatched ++ new.filterMap (teleportTo j.target.sn) }

def afterTargetProxy (c : Setting Position Direction) (j : Journey Position Direction)
    (after : Proxy (PlayerProto Position)) : Journey Position Direction :=
  let new := after.sent.drop j.targetProxy.sent.length
  { j with
    targetProxy := after
    toTarget := j.toTarget ++ new.filterMap (toWorld c.link)
    afters := j.afters ++ new.filterMap (teleportAfterTo j.source.sn) }

def afterSource (c : Setting Position Direction) (j : Journey Position Direction)
    (after : World Position Direction) : Journey Position Direction :=
  let answers := (after.sent.drop j.source.sent.length).filterMap (answer c.link)
  { j with
    source := after
    fromSource := j.fromSource ++ answers
    asked := j.asked || !answers.isEmpty
    removed := j.removed ++ departed c.playerSn j.source after }

def afterTarget (c : Setting Position Direction) (j : Journey Position Direction)
    (after : World Position Direction) : Journey Position Direction :=
  { j with
    target := after
    installed := j.installed ++ departed c.playerSn after j.target }

/-- `clientMove` and `clientMoveTarget`: a C2S_Move reaches one of the proxies. -/
inductive Event (Position Direction : Type) where
  | clientMove (identify : NetIdentify) (positions : List Position)
      (pooled : MoveVector3 Position Direction)
  | clientMoveTarget (identify : NetIdentify) (positions : List Position)
      (pooled : MoveVector3 Position Direction)
  | enterWorld (identify : NetIdentify) (located : UInt64) (space : Option UInt64)
  | broadcast
  | syncSource
  | teleport
  | teleportAfter
  | readSource
  | readTarget
  | moveSystem (timeElapsed : UInt64)
  | moveSystemTarget (timeElapsed : UInt64)

inductive Step (c : Setting Position Direction) :
    Journey Position Direction → Event Position Direction → Journey Position Direction → Prop where
  | clientMove (j : Journey Position Direction) (identify : NetIdentify)
      (positions : List Position) (pooled : MoveVector3 Position Direction) :
      Step c j (.clientMove identify positions pooled)
        { j with
          toSource := j.toSource ++ forwardMove c.link j.sourceProxy identify positions pooled }
  | clientMoveTarget (j : Journey Position Direction) (identify : NetIdentify)
      (positions : List Position) (pooled : MoveVector3 Position Direction) :
      Step c j (.clientMoveTarget identify positions pooled)
        { j with
          toTarget := j.toTarget ++ forwardMove c.link j.targetProxy identify positions pooled }
  | enterWorld (j : Journey Position Direction) (identify : NetIdentify) (located : UInt64)
      (space : Option UInt64) (after : Proxy (PlayerProto Position)) :
      receives c.resources j.sourceProxy (.enterWorld identify j.target.worldId located space)
        after →
      Step c j (.enterWorld identify located space) (afterSourceProxy c j after)
  | broadcast (j : Journey Position Direction) (after : Proxy (PlayerProto Position)) :
      receives c.resources j.sourceProxy (.broadcast j.target.worldId j.target.sn) after →
      Step c j .broadcast (afterSourceProxy c j after)
  | syncSource (j : Journey Position Direction) (identify : NetIdentify)
      (player : PlayerProto Position) (rest : List (NetIdentify × PlayerProto Position))
      (after : Proxy (PlayerProto Position)) :
      j.fromSource = (identify, player) :: rest →
      receives c.resources j.sourceProxy (.syncPlayer identify player) after →
      Step c j .syncSource { afterSourceProxy c j after with fromSource := rest }
  | teleport (j : Journey Position Direction) (message : Teleport (PlayerProto Position))
      (rest : List (Teleport (PlayerProto Position))) (after : Proxy (PlayerProto Position)) :
      j.dispatched = message :: rest →
      receives c.resources j.targetProxy (.teleport message) after →
      Step c j .teleport { afterTargetProxy c j after with dispatched := rest }
  | teleportAfter (j : Journey Position Direction) (playerSn : UInt64) (rest : List UInt64)
      (after : Proxy (PlayerProto Position)) :
      j.afters = playerSn :: rest →
      receives c.resources j.sourceProxy (.teleportAfter (tagged c.link playerSn) playerSn) after →
      Step c j .teleportAfter { afterSourceProxy c j after with afters := rest }
  | readSource (j : Journey Position Direction) (message : Message Position Direction)
      (rest : List (Message Position Direction)) (after : World Position Direction) :
      j.toSource = message :: rest → handle c.resources c.motion j.source message = some after →
      Step c j .readSource { afterSource c j after with toSource := rest }
  | readTarget (j : Journey Position Direction) (message : Message Position Direction)
      (rest : List (Message Position Direction)) (after : World Position Direction) :
      j.toTarget = message :: rest → handle c.resources c.motion j.target message = some after →
      Step c j .readTarget { afterTarget c j after with toTarget := rest }
  | moveSystem (j : Journey Position Direction) (timeElapsed : UInt64)
      (after : World Position Direction) :
      handle c.resources c.motion j.source (.moveSystem c.playerSn timeElapsed) = some after →
      Step c j (.moveSystem timeElapsed) (afterSource c j after)
  | moveSystemTarget (j : Journey Position Direction) (timeElapsed : UInt64)
      (after : World Position Direction) :
      handle c.resources c.motion j.target (.moveSystem c.playerSn timeElapsed) = some after →
      Step c j (.moveSystemTarget timeElapsed) (afterTarget c j after)

/-! ### The law -/

/-- The slot that the target world does not enter. -/
def slot (c : Setting Position Direction) (j : Journey Position Direction) (m : LastMap Position) :
    Option (LastWorld Position) :=
  kept (isPublic c.resources j.target.worldId) m

/-- The player is installed with the slot it had when it was removed. -/
def NoUpdateLost (c : Setting Position Direction) (j : Journey Position Direction) : Prop :=
  ∀ left ∈ j.removed, ∀ entered ∈ j.installed, slot c j entered = slot c j left

/-- Once the source has answered G2S_RequestSyncPlayer, no step of `MoveSystem`
there changes the slot that the target world does not enter. -/
def SlotAtRest (c : Setting Position Direction) (j : Journey Position Direction) :
    Event Position Direction → Prop
  | .moveSystem timeElapsed => j.asked = true →
      ∀ p, getPlayerBySn j.source.manager c.playerSn = some p →
        slot c j (movePlayer c.motion timeElapsed p).lastMap.1 = slot c j p.lastMap.1
  | _ => True

structure Alone (sn : UInt64) (s : Proxy (PlayerProto Position)) : Prop where
  number : ∀ socket player, getPlayerBySocket s.collector socket = some player →
    player.playerSn = sn
  single : ∀ first second p q, getPlayerBySocket s.collector first = some p →
    getPlayerBySocket s.collector second = some q → first = second

def Ready (s : Proxy (PlayerProto Position)) : Prop :=
  ∃ (key : UInt64) (obj : TeleportObject), s.objects[key]? = some obj ∧
    isCompleted obj.flagPlayerSync = true

def Holds (good : PlayerProto Position → Prop) (s : Proxy (PlayerProto Position)) : Prop :=
  Ready s → ∀ socket player, getPlayerBySocket s.collector socket = some player →
    good player.components

def MaySend (sn : UInt64) (good : PlayerProto Position → Prop) (removes : Prop) :
    WorldProxy.Sent (PlayerProto Position) → Prop
  | .teleport message => good message.player
  | .requestSyncPlayer playerSn => playerSn = sn
  | .removePlayer _ _ => removes
  | .syncPlayer _ _ _ => False
  | .worldDisconnect _ => False
  | _ => True

structure Sends (sn : UInt64) (good : PlayerProto Position → Prop) (removes : Prop)
    (before after : Proxy (PlayerProto Position)) : Prop where
  alone : Alone sn after
  holds : Holds good after
  sent : ∃ new, after.sent = before.sent ++ new ∧ ∀ message ∈ new, MaySend sn good removes message

variable {sn : UInt64} {good : PlayerProto Position → Prop} {removes : Prop}
variable {s t u after : Proxy (PlayerProto Position)}

theorem sends_refl (alone : Alone sn s) (holds : Holds good s) : Sends sn good removes s s :=
  ⟨alone, holds, [], by simp, by simp⟩

theorem sends_trans (first : Sends sn good removes s t) (second : Sends sn good removes t u) :
    Sends sn good removes s u := by
  obtain ⟨new, sent, fits⟩ := first.sent
  obtain ⟨later, sentLater, fitsLater⟩ := second.sent
  refine ⟨second.alone, second.holds, new ++ later, ?_, ?_⟩
  · rw [sentLater, sent, List.append_assoc]
  · intro message member
    rcases List.mem_append.mp member with older | newer
    · exact fits message older
    · exact fitsLater message newer

theorem ready_insert {key : UInt64} {obj : TeleportObject}
    (old : isCompleted obj.flagPlayerSync = true → Ready s)
    (ready : Ready { s with objects := s.objects.insert key obj }) : Ready s := by
  obtain ⟨other, found, held, completed⟩ := ready
  dsimp only at held
  rw [get_insert] at held
  split at held
  · cases held
    exact old completed
  · exact ⟨other, found, held, completed⟩

theorem check_sends {obj : TeleportObject} (done : WorldProxy.check s obj = some after)
    (alone : Alone sn s) (holds : Holds good s)
    (data : isCompleted obj.flagPlayerSync = true → ∀ socket player,
      getPlayerBySocket s.collector socket = some player → good player.components) :
    Sends sn good removes s after := by
  rcases check_cases done with ⟨-, rfl⟩ | ⟨synced, -, -, player, found, rfl⟩
  · exact sends_refl alone holds
  · refine ⟨⟨alone.number, alone.single⟩, ?_, [.teleport _], rfl, ?_⟩
    · rintro ⟨key, other, held, completed⟩
      dsimp only at held
      rw [get_erase] at held
      split at held
      · cases held
      · exact holds ⟨key, other, held, completed⟩
    · intro message member
      rw [List.mem_singleton.mp member]
      exact data synced _ player (get_by_sn_some found).1

theorem assign_world_sends {worldSn key : UInt64} {obj : TeleportObject}
    (held : s.objects[key]? = some obj)
    (done : WorldProxy.assignWorld worldSn s key obj = some after) (alone : Alone sn s)
    (holds : Holds good s) : Sends sn good removes s after := by
  have same : Ready { s with
      objects := s.objects.insert key { obj with flagWorld := setValue worldSn } } → Ready s :=
    ready_insert fun completed => ⟨key, obj, held, completed⟩
  obtain ⟨stillAlone, stillHolds, sent⟩ := check_sends done
    ⟨alone.number, alone.single⟩ (fun ready => holds (same ready))
    (fun completed => holds ⟨key, obj, held, completed⟩)
  exact ⟨stillAlone, stillHolds, sent⟩

theorem broadcast_turn_sends {worldId : Int} {worldSn : UInt64}
    (turn : WorldProxy.broadcastTurn worldId worldSn s = .inl t) (alone : Alone sn s)
    (holds : Holds good s) : Sends sn good removes s t := by
  unfold WorldProxy.broadcastTurn at turn
  split at turn
  · cases turn
  · rename_i key obj found
    split at turn
    · cases turn
    · rename_i assigned
      cases turn
      exact assign_world_sends (WorldProxy.find_target_some found).1 assigned alone holds

theorem broadcast_sends {resources : Resources Position} {fuel : Nat} {worldId : Int}
    {worldSn : UInt64}
    (done : WorldProxy.handleBroadcastCreateWorldProxy (worldTypes resources) fuel s worldId worldSn =
      some (some after))
    (alone : Alone sn s) (holds : Holds good s) : Sends sn good removes s after := by
  unfold WorldProxy.handleBroadcastCreateWorldProxy at done
  split at done
  · cases done
  · have ended := WhileLoop.loop_result (Sends sn good removes s)
      (fun result => ∀ t, result = some t → Sends sn good removes s t)
      (fun state next sends turn =>
        sends_trans sends (broadcast_turn_sends turn sends.alone sends.holds))
      ?exits fuel s (some after) (sends_refl alone holds) done
    · exact ended after rfl
    · rintro state result sends turn t rfl
      rcases WorldProxy.broadcast_turn_exit turn with ⟨same, -⟩ | ⟨crashed, -⟩
      · cases same
        exact sends
      · cases crashed
  · split at done
    · cases done
      exact sends_refl alone holds
    · rename_i key obj found
      exact assign_world_sends (WorldProxy.find_target_some found).1 (Option.some.inj done) alone
        holds
  · cases done
    exact sends_refl alone holds

theorem sync_player_sends {player : PlayerCollector.Player (PlayerProto Position)}
    {proto : PlayerProto Position}
    (held : getPlayerBySocket s.collector player.socketKey.socket = some player)
    (done : WorldProxy.handleS2GSyncPlayer s player proto = some after) (alone : Alone sn s)
    (fine : good proto) : Sends sn good removes s after := by
  let stored := { s with collector :=
    PlayerCollector.setPlayer s.collector { player with components := proto } }
  have only : ∀ socket other, getPlayerBySocket stored.collector socket = some other →
      socket = player.socketKey.socket ∧ other = { player with components := proto } := by
    intro socket other there
    rw [get_by_socket_set] at there
    dsimp only at there
    split at there
    · rename_i same
      cases there
      exact ⟨same, rfl⟩
    · rename_i differs
      exact absurd (alone.single _ _ _ _ there held) differs
  have fresh : ∀ socket other, getPlayerBySocket stored.collector socket = some other →
      good other.components := by
    intro socket other there
    rw [(only socket other there).2]
    exact fine
  have storedAlone : Alone sn stored := by
    constructor
    · intro socket other there
      rw [(only socket other there).2]
      exact alone.number _ player held
    · intro first second p q one two
      rw [(only first p one).1, (only second q two).1]
  unfold WorldProxy.handleS2GSyncPlayer WorldProxy.broadcastSyncPlayer at done
  split at done
  · cases done
    exact ⟨storedAlone, fun _ => fresh, [], by simp, by simp⟩
  · rename_i key obj found
    obtain ⟨stillAlone, stillHolds, sent⟩ := check_sends done
      ⟨storedAlone.number, storedAlone.single⟩ (fun _ => fresh) (fun _ => fresh)
    exact ⟨stillAlone, stillHolds, sent⟩

theorem teleport_after_sends (player : Player (PlayerProto Position)) (playerSn : UInt64)
    (alone : Alone sn s) (holds : Holds good s) :
    Sends sn good True s (WorldProxy.handleTeleportAfter s player playerSn) := by
  have fewer : ∀ socket other,
      getPlayerBySocket (removePlayerBySocket s.collector player.socketKey.socket) socket =
        some other → getPlayerBySocket s.collector socket = some other := by
    intro socket other held
    rw [get_by_socket_remove] at held
    split at held
    · cases held
    · exact held
  refine ⟨⟨?_, ?_⟩, ?_, [.removePlayer playerSn player.playerSn], rfl, ?_⟩
  · exact fun socket other held => alone.number socket other (fewer socket other held)
  · exact fun first second p q one two =>
      alone.single first second p q (fewer first p one) (fewer second q two)
  · exact fun ready socket other held => holds ready socket other (fewer socket other held)
  · intro message member
    rw [List.mem_singleton.mp member]
    trivial

theorem create_object_sends (kind : WorldType) (located : UInt64) (space : Option UInt64)
    (worldId : Int) (player : PlayerCollector.Player (PlayerProto Position))
    (number : player.playerSn = sn) (alone : Alone sn s) (holds : Holds good s) :
    Sends sn good removes s
      (WorldProxy.createTeleportObject kind located space s worldId player) := by
  obtain ⟨obj, objects, -, -, waiting, -, collector, -⟩ :=
    WorldProxy.create_teleport_object_fields kind located space s worldId player
  refine ⟨?_, ?_, ?_⟩
  · constructor
    · rw [collector]
      exact alone.number
    · rw [collector]
      exact alone.single
  · rintro ⟨key, other, held, completed⟩
    rw [collector]
    rw [objects, get_insert] at held
    split at held
    · cases held
      simp [isCompleted, waiting] at completed
    · exact holds ⟨key, other, held, completed⟩
  · unfold WorldProxy.createTeleportObject WorldProxy.createWorldFlag WorldProxy.createSyncFlag
      WorldProxy.send WorldProxy.awake
    cases kind with
    | login => exact ⟨[.requestSyncPlayer player.playerSn], rfl, by simp [MaySend, number]⟩
    | roles => exact ⟨[.requestSyncPlayer player.playerSn], rfl, by simp [MaySend, number]⟩
    | publicWorld =>
        by_cases unlocated : located = AppKey.invalidId
        · refine ⟨[.requestWorld worldId, .requestSyncPlayer player.playerSn], ?_, ?_⟩
          · simp [unlocated]
          · simp [MaySend, number]
        · refine ⟨[.requestSyncPlayer player.playerSn], ?_, ?_⟩
          · simp [unlocated]
          · simp [MaySend, number]
    | dungeon =>
        cases space with
        | none => exact ⟨[.requestSyncPlayer player.playerSn], rfl, by simp [MaySend, number]⟩
        | some appId =>
            refine ⟨[.createWorld worldId s.sn appId, .requestSyncPlayer player.playerSn], ?_, ?_⟩
            · simp
            · simp [MaySend, number]

def Expected (good : PlayerProto Position → Prop) (removes : Prop) :
    WorldProxy.Event (PlayerProto Position) → Prop
  | .enterWorld _ _ _ _ => True
  | .broadcast _ _ => True
  | .syncPlayer _ player => good player
  | .teleportAfter _ _ => removes
  | _ => False

theorem receives_sends {resources : Resources Position}
    {event : WorldProxy.Event (PlayerProto Position)} (expected : Expected good removes event)
    (done : receives resources s event after) (alone : Alone sn s) (holds : Holds good s) :
    Sends sn good removes s after := by
  unfold receives at done
  split at done
  · rw [done]
    exact sends_refl alone holds
  · obtain ⟨-, taken⟩ := done
    cases event with
    | enterWorld identify worldId located space =>
        obtain ⟨player, found, rfl⟩ := taken
        have held := WorldProxy.get_player_held found
        unfold WorldProxy.handleC2GEnterWorld
        split
        · exact sends_refl alone holds
        · split
          · exact sends_refl alone holds
          · exact create_object_sends _ located space worldId player (alone.number _ _ held) alone
              holds
    | broadcast worldId worldSn =>
        obtain ⟨fuel, done⟩ := taken
        exact broadcast_sends done alone holds
    | syncPlayer identify proto =>
        obtain ⟨player, found, done⟩ := taken
        exact sync_player_sends (WorldProxy.get_player_held found) done alone expected
    | teleportAfter identify playerSn =>
        obtain ⟨player, found, rfl⟩ := taken
        obtain ⟨stillAlone, stillHolds, new, sent, fits⟩ :=
          teleport_after_sends player playerSn alone holds
        refine ⟨stillAlone, stillHolds, new, sent, fun message member => ?_⟩
        have fit := fits message member
        cases message with
        | removePlayer _ _ => exact expected
        | _ => exact fit
    | teleport _ => exact expected.elim
    | disconnect _ => exact expected.elim
    | dispose => exact expected.elim

theorem receives_teleport (Direction : Type) {resources : Resources Position}
    {message : Teleport (PlayerProto Position)} (done : receives resources s (.teleport message) after) :
    ∃ new, after.sent = s.sent ++ new ∧ ∀ (link : SocketKey) (m : Message Position Direction),
      m ∈ new.filterMap (toWorld link) → m = .syncPlayer link message.player := by
  have handled : dropped s (.teleport message) = false := rfl
  unfold receives at done
  rw [handled, if_neg Bool.false_ne_true] at done
  obtain ⟨-, rfl⟩ := done
  unfold WorldProxy.handleTeleport
  split
  · exact ⟨[], by simp, by simp⟩
  · rename_i player added _
    refine ⟨[.listenKey player.socketKey player.account,
      .syncPlayer (CString.cStr message.account) message.playerSn message.player,
      .teleportAfter message.playerSn message.lastWorldSn], ?_, ?_⟩
    · simp [WorldProxy.send]
    · intro link m member
      simpa [toWorld, eq_comm] using member

/-! ### The invariant -/

def Wanted (link : SocketKey) (sn : UInt64) (removes : Prop) : Message Position Direction → Prop
  | .requestSyncPlayer identify => identify = tagged link sn
  | .removePlayer _ _ => removes
  | .move _ _ _ => True
  | _ => False

/-- The data on the way is good, what the source has is `here`, and what it
had and what the target installed is `past`. -/
structure Underway (c : Setting Position Direction) (good : PlayerProto Position → Prop)
    (here past : LastMap Position → Prop) (removes : Prop) (j : Journey Position Direction) : Prop where
  sound : AllSound c.resources j.source
  alone : Alone c.playerSn j.sourceProxy
  holds : Holds good j.sourceProxy
  toSource : ∀ m ∈ j.toSource, Wanted c.link c.playerSn removes m
  fromSource : ∀ x ∈ j.fromSource, good x.2
  dispatched : ∀ m ∈ j.dispatched, good m.player
  toTarget : ∀ socketKey player, .syncPlayer socketKey player ∈ j.toTarget → good player
  afters : ∀ x ∈ j.afters, removes
  source : ∀ p, getPlayerBySn j.source.manager c.playerSn = some p → here p.lastMap.1
  removed : ∀ m ∈ j.removed, past m
  installed : ∀ m ∈ j.installed, past m

abbrev NothingYet (c : Setting Position Direction) (j : Journey Position Direction) : Prop :=
  Underway c (fun _ => False) (fun _ => True) (fun _ => False) False j

/-- From then on the slot that the target does not enter is the same everywhere. -/
abbrev SameSlot (c : Setting Position Direction) (toPublic : Bool)
    (last : Option (LastWorld Position)) (j : Journey Position Direction) : Prop :=
  Underway c (fun player => carried c.resources toPublic player = last)
    (fun m => kept toPublic m = last) (fun m => kept toPublic m = last) True j

def Kept (c : Setting Position Direction) (toPublic : Bool) (j : Journey Position Direction) : Prop :=
  (j.asked = false ∧ NothingYet c j) ∨ ∃ last, j.asked = true ∧ SameSlot c toPublic last j

variable {c : Setting Position Direction} {here past : LastMap Position → Prop}
variable {j : Journey Position Direction}

theorem drop_appended {α : Type} {before after new : List α} (same : after = before ++ new) :
    after.drop before.length = new := by
  rw [same, List.drop_left]

theorem underway_source_proxy {after : Proxy (PlayerProto Position)}
    (way : Underway c good here past removes j)
    (sends : Sends c.playerSn good removes j.sourceProxy after) :
    Underway c good here past removes (afterSourceProxy c j after) := by
  obtain ⟨alone, holds, new, sent, fits⟩ := sends
  refine { way with alone := alone, holds := holds, toSource := ?_, dispatched := ?_ }
  · intro m member
    rcases List.mem_append.mp member with old | fresh
    · exact way.toSource m old
    · rw [drop_appended sent] at fresh
      obtain ⟨x, listed, same⟩ := List.mem_filterMap.mp fresh
      have fit := fits x listed
      cases x with
      | requestSyncPlayer playerSn =>
          cases same
          exact congrArg (tagged c.link) fit
      | removePlayer playerSn taggedSn =>
          cases same
          exact fit
      | syncPlayer _ _ _ => exact fit.elim
      | worldDisconnect _ => exact fit.elim
      | _ => cases same
  · intro m member
    rcases List.mem_append.mp member with old | fresh
    · exact way.dispatched m old
    · rw [drop_appended sent] at fresh
      obtain ⟨x, listed, same⟩ := List.mem_filterMap.mp fresh
      have fit := fits x listed
      cases x with
      | teleport message =>
          simp only [teleportTo] at same
          split at same
          · cases same
            exact fit
          · cases same
      | _ => cases same

theorem underway_target_proxy {after : Proxy (PlayerProto Position)}
    {message : Teleport (PlayerProto Position)} (way : Underway c good here past removes j)
    (fine : good message.player) (leaves : removes)
    (done : receives c.resources j.targetProxy (.teleport message) after) :
    Underway c good here past removes (afterTargetProxy c j after) := by
  obtain ⟨new, sent, passes⟩ := receives_teleport Direction done
  refine { way with toTarget := ?_, afters := fun _ _ => leaves }
  intro socketKey player member
  rcases List.mem_append.mp member with old | fresh
  · exact way.toTarget socketKey player old
  · rw [drop_appended sent] at fresh
    cases passes c.link _ fresh
    exact fine

theorem same_slot_of_nothing {toPublic : Bool} {last : Option (LastWorld Position)}
    (way : NothingYet c j)
    (source : ∀ p, getPlayerBySn j.source.manager c.playerSn = some p →
      kept toPublic p.lastMap.1 = last) : SameSlot c toPublic last j where
  sound := way.sound
  alone := way.alone
  holds := fun ready socket player held => (way.holds ready socket player held).elim
  toSource := by
    intro m member
    have wanted := way.toSource m member
    cases m with
    | requestSyncPlayer identify => exact wanted
    | move _ _ _ => trivial
    | _ => exact wanted.elim
  fromSource := fun x member => (way.fromSource x member).elim
  dispatched := fun m member => (way.dispatched m member).elim
  toTarget := fun socketKey player member => (way.toTarget socketKey player member).elim
  afters := fun x member => (way.afters x member).elim
  source := source
  removed := fun m member => (way.removed m member).elim
  installed := fun m member => (way.installed m member).elim

theorem forwards (link : SocketKey) (s : Proxy (PlayerProto Position)) (identify : NetIdentify)
    (positions : List Position) (pooled : MoveVector3 Position Direction) :
    ∀ m ∈ forwardMove link s identify positions pooled,
      ∃ whose, m = .move whose positions pooled := by
  intro m member
  unfold forwardMove at member
  split at member
  · exact ⟨_, List.mem_singleton.mp member⟩
  · cases member

theorem no_answers (link : SocketKey) (players : List (SpaceWorld.Player Position Direction))
    (message : ToPlayer Position) (other : ∀ account player, message ≠ .syncPlayer account player) :
    (players.map fun p => packetTo p message).filterMap (answer link) = [] := by
  rw [List.filterMap_eq_nil_iff]
  intro x member
  obtain ⟨p, -, rfl⟩ := List.mem_map.mp member
  cases message with
  | syncPlayer account player => exact absurd rfl (other account player)
  | _ => rfl

theorem get_player_tagged (link : SocketKey) (w : World Position Direction) :
    SpaceWorld.getPlayer w (tagged link sn) = getPlayerBySn w.manager sn := by
  simp [SpaceWorld.getPlayer, tagged, addTagInt]

theorem source_answers {resources : Resources Position} {motion : Motion Position Direction}
    {link : SocketKey} {w after : World Position Direction} {message : Message Position Direction}
    (wanted : Wanted link sn removes message ∨ ∃ time, message = .moveSystem sn time)
    (handled : handle resources motion w message = some after) :
    ∀ x ∈ (after.sent.drop w.sent.length).filterMap (answer link),
      message = .requestSyncPlayer (tagged link sn) ∧
        ∃ p, getPlayerBySn w.manager sn = some p ∧ x.2 = SpaceWorld.serializeToProto p := by
  intro x member
  have silent : after.sent = w.sent → False := by
    intro same
    rw [same, List.drop_length] at member
    cases member
  have told : ∀ (players : List (SpaceWorld.Player Position Direction)) (text : ToPlayer Position),
      (∀ account player, text ≠ .syncPlayer account player) →
      after.sent = w.sent ++ players.map (fun p => packetTo p text) → False := by
    intro players text other same
    rw [drop_appended same, no_answers link players text other] at member
    cases member
  cases SpaceWorld.handle_cases handled with
  | ignored message other => exact (silent rfl).elim
  | requested identify p found =>
      rcases wanted with rfl | ⟨time, moves⟩
      · rw [get_player_tagged] at found
        have sent : (handleRequestSyncPlayer w p).sent = w.sent ++
            [packetTo p (.syncPlayer (CString.cStr p.account) (SpaceWorld.serializeToProto p))] := rfl
        rw [drop_appended sent] at member
        have only : x = (tagged link p.playerSn, SpaceWorld.serializeToProto p) := by
          simpa [packetTo, answer] using member
        rw [only]
        exact ⟨rfl, p, found, rfl⟩
      · cases moves
  | removed identify p found =>
      rw [SpaceWorld.remove_player_removes] at told
      exact (told _ (.roleDisAppear p.playerSn) nofun rfl).elim
  | sent identify positions pooled p found =>
      exact (told _ (.move p.playerSn positions) nofun rfl).elim
  | moved timeElapsed p found => exact (silent rfl).elim
  | _ =>
      rcases wanted with wanted | ⟨time, moves⟩
      · exact wanted.elim
      · cases moves

/-- Only G2S_RemovePlayer lets the player leave the source. -/
theorem source_departs {resources : Resources Position} {motion : Motion Position Direction}
    {link : SocketKey} {w after : World Position Direction} {message : Message Position Direction}
    (wanted : Wanted link sn removes message ∨ ∃ time, message = .moveSystem sn time)
    (handled : handle resources motion w message = some after) :
    ∀ m ∈ departed sn w after, removes ∧ ∃ p, getPlayerBySn w.manager sn = some p ∧
      m = p.lastMap.1 := by
  intro m member
  unfold departed at member
  split at member
  · rename_i p held absent
    refine ⟨?_, p, held, List.mem_singleton.mp member⟩
    have stays : after.manager = w.manager → removes := by
      intro same
      rw [same, held] at absent
      cases absent
    have stored : ∀ q, after.manager = SpaceWorld.setPlayer w.manager q → removes := by
      intro q same
      rw [same, SpaceWorld.get_player_set] at absent
      split at absent
      · cases absent
      · rw [held] at absent
        cases absent
    cases SpaceWorld.handle_cases handled with
    | ignored message other => exact stays rfl
    | requested identify p found => exact stays rfl
    | removed identify p found =>
        rcases wanted with wanted | ⟨time, moves⟩
        · exact wanted
        · cases moves
    | sent identify positions pooled p found => exact stored _ rfl
    | moved timeElapsed p found => exact stored _ rfl
    | _ =>
        rcases wanted with wanted | ⟨time, moves⟩
        · exact wanted.elim
        · cases moves
  · cases member

theorem underway_source {message : Message Position Direction} {after : World Position Direction}
    (way : Underway c good here past removes j)
    (wanted : Wanted c.link c.playerSn removes message ∨
      ∃ time, message = .moveSystem c.playerSn time)
    (handled : handle c.resources c.motion j.source message = some after)
    (still : ∀ time p, message = .moveSystem c.playerSn time →
      getPlayerBySn j.source.manager c.playerSn = some p →
      here (movePlayer c.motion time p).lastMap.1)
    (leaves : removes → ∀ m, here m → past m)
    (answers : ∀ p, message = .requestSyncPlayer (tagged c.link c.playerSn) →
      getPlayerBySn j.source.manager c.playerSn = some p → good (SpaceWorld.serializeToProto p)) :
    Underway c good here past removes (afterSource c j after) := by
  have taken : SpaceWorld.Step c.resources c.motion j.source message after :=
    .message _ _ _ handled
  refine { way with
    sound := all_sound_step way.sound taken, fromSource := ?_, source := ?_, removed := ?_ }
  · intro x member
    rcases List.mem_append.mp member with old | fresh
    · exact way.fromSource x old
    · obtain ⟨request, p, held, same⟩ := source_answers wanted handled x fresh
      rw [same]
      exact answers p request held
  · intro p held
    have number : p.playerSn = c.playerSn := after.manager.keyed _ p held
    cases step_came taken held with
    | entered socketKey proto lastMap same _ _ =>
        rcases wanted with wanted | ⟨time, moves⟩
        · rw [same] at wanted
          exact wanted.elim
        · rw [same] at moves
          cases moves
    | stayed old there _ lastMap =>
        rw [lastMap]
        exact way.source old (number ▸ there)
    | moved old time same there moved =>
        rw [moved]
        exact still time old (number ▸ same) (number ▸ there)
  · intro m member
    rcases List.mem_append.mp member with old | fresh
    · exact way.removed m old
    · obtain ⟨goes, p, held, same⟩ := source_departs wanted handled m fresh
      rw [same]
      exact leaves goes _ (way.source p held)

theorem underway_target {message : Message Position Direction} {after : World Position Direction}
    (way : Underway c good here past removes j)
    (handled : handle c.resources c.motion j.target message = some after)
    (fine : ∀ socketKey player, message = .syncPlayer socketKey player → good player)
    (installs : ∀ player lastMap, good player →
      enter c.resources player j.target.worldId j.target.sn = some lastMap → past lastMap.1) :
    Underway c good here past removes (afterTarget c j after) := by
  refine { way with installed := ?_ }
  intro m member
  rcases List.mem_append.mp member with old | fresh
  · exact way.installed m old
  · unfold departed at fresh
    split at fresh
    · rename_i p held absent
      rw [List.mem_singleton.mp fresh]
      have number : p.playerSn = c.playerSn := after.manager.keyed _ p held
      cases step_came (.message _ _ _ handled) held with
      | entered socketKey proto lastMap same went new =>
          rw [new]
          exact installs proto lastMap (fine socketKey proto same) went
      | stayed old there _ _ =>
          rw [number, absent] at there
          cases there
      | moved old _ _ there _ =>
          rw [number, absent] at there
          cases there
    · cases fresh

theorem asked_same {after : World Position Direction} (way : NothingYet c (afterSource c j after)) :
    (afterSource c j after).asked = j.asked := by
  have none : (after.sent.drop j.source.sent.length).filterMap (answer c.link) = [] := by
    apply List.eq_nil_iff_forall_not_mem.mpr
    intro x member
    exact way.fromSource x (List.mem_append_right _ member)
  unfold afterSource
  simp [none]

theorem kept_source {toPublic : Bool} {message : Message Position Direction}
    {after : World Position Direction} (holds : Kept c toPublic j)
    (wanted : ∀ removes, (∀ m ∈ j.toSource, Wanted c.link c.playerSn removes m) →
      Wanted c.link c.playerSn removes message ∨ ∃ time, message = .moveSystem c.playerSn time)
    (handled : handle c.resources c.motion j.source message = some after)
    (rests : j.asked = true → ∀ time p, message = .moveSystem c.playerSn time →
      getPlayerBySn j.source.manager c.playerSn = some p →
      kept toPublic (movePlayer c.motion time p).lastMap.1 = kept toPublic p.lastMap.1) :
    Kept c toPublic (afterSource c j after) := by
  rcases holds with ⟨unasked, way⟩ | ⟨last, asked, way⟩
  · by_cases request : message = .requestSyncPlayer (tagged c.link c.playerSn) ∧
        (getPlayerBySn j.source.manager c.playerSn).isSome
    · obtain ⟨rfl, held⟩ := request
      obtain ⟨p, found⟩ := Option.isSome_iff_exists.mp held
      right
      refine ⟨kept toPublic p.lastMap.1, ?_, ?_⟩
      · simp only [handle, get_player_tagged, found] at handled
        cases handled
        have sent : (handleRequestSyncPlayer j.source p).sent = j.source.sent ++
            [packetTo p (.syncPlayer (CString.cStr p.account)
              (SpaceWorld.serializeToProto p))] := rfl
        unfold afterSource
        rw [drop_appended sent]
        simp [packetTo, answer]
      · have same : SameSlot c toPublic (kept toPublic p.lastMap.1) j := by
          apply same_slot_of_nothing way
          intro other there
          rw [found] at there
          cases there
          rfl
        have asks : Wanted c.link c.playerSn True
            (.requestSyncPlayer (tagged c.link c.playerSn) : Message Position Direction) := rfl
        apply underway_source same (Or.inl asks) handled
        · intro time other moves _
          cases moves
        · exact fun _ _ kept => kept
        · intro other _ there
          rw [found] at there
          cases there
          exact carried_serialize (way.sound _ p found) toPublic
    · have still : NothingYet c (afterSource c j after) := by
        apply underway_source way (wanted False way.toSource) handled
        · exact fun _ _ _ _ => trivial
        · exact fun leaves => leaves.elim
        · intro p asks held
          exact request ⟨asks, by rw [held]; rfl⟩
      exact Or.inl ⟨(asked_same still).trans unasked, still⟩
  · right
    refine ⟨last, by simp [afterSource, asked], ?_⟩
    apply underway_source way (wanted True way.toSource) handled
    · intro time p moves held
      exact (rests asked time p moves held).trans (way.source p held)
    · exact fun _ _ kept => kept
    · intro p _ held
      exact (carried_serialize (way.sound _ p held) toPublic).trans (way.source p held)

theorem kept_map {after : Journey Position Direction}
    (holds : Kept c (isPublic c.resources j.target.worldId) j) (asked : after.asked = j.asked)
    (map : ∀ (good : PlayerProto Position → Prop) (here past : LastMap Position → Prop)
      (removes : Prop), (∀ player, good player → removes) →
      (∀ player lastMap, good player →
        enter c.resources player j.target.worldId j.target.sn = some lastMap → past lastMap.1) →
      Underway c good here past removes j → Underway c good here past removes after) :
    Kept c (isPublic c.resources j.target.worldId) after := by
  rcases holds with ⟨unasked, way⟩ | ⟨last, wasAsked, way⟩
  · left
    exact ⟨asked.trans unasked,
      map _ _ _ _ (fun _ nothing => nothing) (fun _ _ nothing _ => nothing.elim) way⟩
  · right
    refine ⟨last, asked.trans wasAsked, map _ _ _ _ (fun _ _ => trivial) ?_ way⟩
    intro player lastMap same went
    exact (enter_kept went).trans same

theorem underway_forward {identify : NetIdentify} {positions : List Position}
    {pooled : MoveVector3 Position Direction} (way : Underway c good here past removes j) :
    Underway c good here past removes { j with
      toSource := j.toSource ++ forwardMove c.link j.sourceProxy identify positions pooled } := by
  refine { way with toSource := ?_ }
  intro m member
  rcases List.mem_append.mp member with old | fresh
  · exact way.toSource m old
  · obtain ⟨whose, rfl⟩ := forwards c.link j.sourceProxy identify positions pooled m fresh
    trivial

theorem underway_forward_target {identify : NetIdentify} {positions : List Position}
    {pooled : MoveVector3 Position Direction} (way : Underway c good here past removes j) :
    Underway c good here past removes { j with
      toTarget := j.toTarget ++ forwardMove c.link j.targetProxy identify positions pooled } := by
  refine { way with toTarget := ?_ }
  intro socketKey player member
  rcases List.mem_append.mp member with old | fresh
  · exact way.toTarget socketKey player old
  · obtain ⟨whose, same⟩ := forwards c.link j.targetProxy identify positions pooled _ fresh
    cases same

theorem underway_read {rest : List (Message Position Direction)}
    (way : Underway c good here past removes j) (fewer : ∀ m ∈ rest, m ∈ j.toSource) :
    Underway c good here past removes { j with toSource := rest } :=
  { way with toSource := fun m member => way.toSource m (fewer m member) }

theorem target_same {c : Setting Position Direction} {j after : Journey Position Direction}
    {event : Event Position Direction} (taken : Step c j event after) :
    after.target.worldId = j.target.worldId := by
  cases taken with
  | readTarget message rest world head handled => exact (step_identity handled).1
  | moveSystemTarget timeElapsed world handled => exact (step_identity handled).1
  | _ => rfl

theorem kept_step {event : Event Position Direction} {after : Journey Position Direction}
    (holds : Kept c (isPublic c.resources j.target.worldId) j)
    (taken : Guarded (Step c) (SlotAtRest c) j event after) :
    Kept c (isPublic c.resources j.target.worldId) after := by
  obtain ⟨step, atRest⟩ := taken
  cases step with
  | clientMove identify positions pooled =>
      apply kept_map holds
      · rfl
      · intro good here past removes _ _ way
        exact underway_forward way
  | clientMoveTarget identify positions pooled =>
      apply kept_map holds
      · rfl
      · intro good here past removes _ _ way
        exact underway_forward_target way
  | enterWorld identify located space proxy done =>
      apply kept_map holds
      · rfl
      · intro good here past removes _ _ way
        have expected : Expected good removes
            (.enterWorld identify j.target.worldId located space) := trivial
        exact underway_source_proxy way (receives_sends expected done way.alone way.holds)
  | broadcast proxy done =>
      apply kept_map holds
      · rfl
      · intro good here past removes _ _ way
        have expected : Expected good removes (.broadcast j.target.worldId j.target.sn) := trivial
        exact underway_source_proxy way (receives_sends expected done way.alone way.holds)
  | syncSource identify player rest proxy head done =>
      apply kept_map holds
      · rfl
      · intro good here past removes _ _ way
        have expected : Expected good removes (.syncPlayer identify player) :=
          way.fromSource (identify, player) (by simp [head])
        have kept := underway_source_proxy way
          (receives_sends expected done way.alone way.holds)
        refine { kept with fromSource := ?_ }
        intro x member
        exact way.fromSource x (by simp [head, member])
  | teleport message rest proxy head done =>
      apply kept_map holds
      · rfl
      · intro good here past removes passing _ way
        have fine : good message.player := way.dispatched message (by simp [head])
        have kept := underway_target_proxy way fine (passing _ fine) done
        refine { kept with dispatched := ?_ }
        intro m member
        exact way.dispatched m (by simp [head, member])
  | teleportAfter playerSn rest proxy head done =>
      apply kept_map holds
      · rfl
      · intro good here past removes _ _ way
        have expected : Expected good removes
            (.teleportAfter (tagged c.link playerSn) playerSn) :=
          way.afters playerSn (by simp [head])
        have kept := underway_source_proxy way
          (receives_sends expected done way.alone way.holds)
        refine { kept with afters := ?_ }
        intro x member
        exact way.afters x (by simp [head, member])
  | readSource message rest world head handled =>
      have first : message ∈ j.toSource := by simp [head]
      have read : ∀ time, message ≠ .moveSystem c.playerSn time := by
        rintro time rfl
        rcases holds with ⟨-, way⟩ | ⟨last, -, way⟩
        · exact way.toSource _ first
        · exact way.toSource _ first
      have fewer : ∀ m ∈ rest, m ∈ (afterSource c j world).toSource := by
        intro m member
        simp [afterSource, head, member]
      have moved : Kept c (isPublic c.resources j.target.worldId) (afterSource c j world) := by
        apply kept_source holds _ handled
        · intro _ time p moves _
          exact absurd moves (read time)
        · intro removes wanted
          exact Or.inl (wanted message first)
      rcases moved with ⟨unasked, way⟩ | ⟨last, asked, way⟩
      · exact Or.inl ⟨unasked, underway_read way fewer⟩
      · exact Or.inr ⟨last, asked, underway_read way fewer⟩
  | readTarget message rest world head handled =>
      apply kept_map holds
      · rfl
      · intro good here past removes _ installs way
        have kept := underway_target way handled
          (fun socketKey player same => way.toTarget socketKey player (by simp [head, same])) installs
        refine { kept with toTarget := ?_ }
        intro socketKey player member
        exact way.toTarget socketKey player (by simp [head, member])
  | moveSystem timeElapsed world handled =>
      apply kept_source holds _ handled
      · intro asked time p moves held
        cases moves
        exact atRest asked p held
      · exact fun _ _ => Or.inr ⟨timeElapsed, rfl⟩
  | moveSystemTarget timeElapsed world handled =>
      apply kept_map holds
      · rfl
      · intro good here past removes _ installs way
        exact underway_target way handled nofun installs

theorem no_update_lost_of_kept (holds : Kept c (isPublic c.resources j.target.worldId) j) :
    NoUpdateLost c j := by
  intro left leftMember entered enteredMember
  rcases holds with ⟨-, way⟩ | ⟨last, -, way⟩
  · exact (way.removed left leftMember).elim
  · exact (way.installed entered enteredMember).trans (way.removed left leftMember).symm

/-- The player is in a source world that is reached from its creation, and its
proxy has no other player and no teleport object. While no step of `MoveSystem`
changes the slot in question after the source has answered, the target installs
the player with what the source removed it with. -/
theorem no_update_lost (c : Setting Position Direction) (source target : World Position Direction)
    (sourceProxy targetProxy : Proxy (PlayerProto Position)) (worldId : Int) (worldSn : UInt64)
    (past : List (Message Position Direction))
    (reached : Run (SpaceWorld.Step c.resources c.motion) (create worldId worldSn) past source)
    (alone : Alone c.playerSn sourceProxy)
    (calm : ∀ key : UInt64, sourceProxy.objects[key]? = none)
    {trace : List (Event Position Direction)} {j : Journey Position Direction}
    (run : Run (Guarded (Step c) (SlotAtRest c)) (begin source target sourceProxy targetProxy)
      trace j) :
    Run (Along (Step c) (NoUpdateLost c)) (begin source target sourceProxy targetProxy) trace j := by
  apply along_of_guarded (fun j => Kept c (isPublic c.resources j.target.worldId) j) _ _ run
  · left
    refine ⟨rfl, all_sound_run reached, alone, ?_, ?_, ?_, ?_, ?_, ?_, ?_, ?_, ?_⟩
    · rintro ⟨key, obj, held, -⟩
      have absent : sourceProxy.objects[key]? = none := calm key
      rw [show (begin source target sourceProxy targetProxy : Journey Position Direction).sourceProxy =
        sourceProxy from rfl, absent] at held
      cases held
    all_goals simp [begin]
  · intro before event after kept taken
    rw [target_same taken.1]
    exact kept_step kept taken
  · exact fun _ => no_update_lost_of_kept

/-! From a public world into a dungeon. -/

theorem receives_of_step {resources : Resources Position}
    {event : WorldProxy.Event (PlayerProto Position)} (handled : dropped s event = false)
    (step : WorldProxy.proxyStep (worldTypes resources) s event after) :
    receives resources s event after := by
  unfold receives
  rw [handled, if_neg Bool.false_ne_true]
  exact step

def twoWorlds : Resources Int where
  getResource id :=
    if id = 1 then some ⟨.publicWorld, 0⟩ else if id = 2 then some ⟨.dungeon, 0⟩ else none
  initMapId := 1

def striding : Motion Int Unit := ⟨fun _ _ => (), fun _ _ _ => true, fun position _ _ => position⟩

def trip : Setting Int Unit := ⟨twoWorlds, striding, ⟨3, .tcpListen⟩, 7⟩

def traveller : PlayerProto Int := ⟨7, [], ⟨1, 1⟩, ⟨⟨1, 0, 0⟩, ⟨0, 0, 0⟩, 0⟩⟩

def client : NetIdentify := ⟨⟨5, .tcpListen⟩, addTagStr clear .account [97]⟩

def homeProxy : Proxy (PlayerProto Int) :=
  { WorldProxy.create 100 with
    collector := PlayerCollector.setPlayer empty ⟨[97], client.socketKey, 7, traveller⟩ }

def resting : MoveVector3 Int Unit := ⟨0, ()⟩

theorem alone_home : Alone 7 homeProxy := by
  have only : ∀ socket player, getPlayerBySocket homeProxy.collector socket = some player →
      socket = 5 ∧ player = ⟨[97], client.socketKey, 7, traveller⟩ := by
    intro socket player held
    unfold homeProxy at held
    rw [get_by_socket_set] at held
    split at held
    · rename_i same
      cases held
      exact ⟨same, rfl⟩
    · simp [getPlayerBySocket, empty] at held
  constructor
  · intro socket player held
    rw [(only socket player held).2]
  · intro first second p q one two
    rw [(only first p one).1, (only second q two).1]

/-- The player moves before the source answers; both worlds have it in the end. -/
theorem no_update_lost_into_dungeon :
    ∃ source j, Run (SpaceWorld.Step twoWorlds striding) (create 1 100)
        [.syncPlayer trip.link traveller] source ∧
      Run (Along (Step trip) (NoUpdateLost trip))
        (begin source (create 2 200) homeProxy (WorldProxy.create 200))
        [.clientMove client [5] resting, .readSource, .enterWorld client 0 (some 3), .moveSystem 500,
          .readSource, .syncSource, .broadcast, .clientMove client [6] resting, .teleport,
          .readTarget, .teleportAfter, .readSource, .readSource] j ∧
      j.removed = [⟨⟨1, 100, 5⟩, none, 1⟩] ∧
      j.installed = [⟨⟨1, 100, 5⟩, some ⟨2, 200, 0⟩, 2⟩] := by
  refine ⟨_, _, .next (.message _ _ _ rfl) (.refl _), no_update_lost trip _ _ homeProxy _ 1 100
    [.syncPlayer trip.link traveller]
    (.next (.message _ _ _ rfl) (.refl _)) alone_home (fun _ => rfl)
    (.next ⟨.clientMove _ _ _ _, trivial⟩ (.next ⟨.readSource _ _ _ _ rfl rfl, trivial⟩
    (.next ⟨.enterWorld _ _ _ _ _ (receives_of_step rfl ⟨rfl, _, rfl, rfl⟩), trivial⟩
    (.next ⟨.moveSystem _ _ _ rfl, fun asked => by cases asked⟩
    (.next ⟨.readSource _ _ _ _ rfl rfl, trivial⟩
    (.next ⟨.syncSource _ _ _ _ _ rfl (receives_of_step rfl ⟨rfl, _, rfl, rfl⟩), trivial⟩
    (.next ⟨.broadcast _ _ (receives_of_step rfl ⟨rfl, 0, rfl⟩), trivial⟩
    (.next ⟨.clientMove _ _ _ _, trivial⟩
    (.next ⟨.teleport _ _ _ _ rfl (receives_of_step rfl ⟨rfl, rfl⟩), trivial⟩
    (.next ⟨.readTarget _ _ _ _ rfl rfl, trivial⟩
    (.next ⟨.teleportAfter _ _ _ _ rfl (receives_of_step rfl ⟨rfl, _, rfl, rfl⟩), trivial⟩
    (.next ⟨.readSource _ _ _ _ rfl rfl, trivial⟩ (.next ⟨.readSource _ _ _ _ rfl rfl, trivial⟩
      (.refl _)))))))))))))), rfl, rfl⟩

/-- The player moves on after the source has answered; the dungeon installs it
with the old position in the public world. -/
theorem late_move_is_lost :
    ∃ source j, Run (SpaceWorld.Step twoWorlds striding) (create 1 100)
        [.syncPlayer trip.link traveller] source ∧
      Run (Step trip) (begin source (create 2 200) homeProxy (WorldProxy.create 200))
        [.clientMove client [5] resting, .readSource, .enterWorld client 0 (some 3), .readSource,
          .moveSystem 500, .syncSource, .broadcast, .teleport, .readTarget, .teleportAfter,
          .readSource] j ∧ ¬NoUpdateLost trip j := by
  refine ⟨_, _, .next (.message _ _ _ rfl) (.refl _),
    .next (.clientMove _ _ _ _) (.next (.readSource _ _ _ _ rfl rfl)
    (.next (.enterWorld _ _ _ _ _ (receives_of_step rfl ⟨rfl, _, rfl, rfl⟩))
    (.next (.readSource _ _ _ _ rfl rfl) (.next (.moveSystem _ _ _ rfl)
    (.next (.syncSource _ _ _ _ _ rfl (receives_of_step rfl ⟨rfl, _, rfl, rfl⟩))
    (.next (.broadcast _ _ (receives_of_step rfl ⟨rfl, 0, rfl⟩))
    (.next (.teleport _ _ _ _ rfl (receives_of_step rfl ⟨rfl, rfl⟩))
    (.next (.readTarget _ _ _ _ rfl rfl)
    (.next (.teleportAfter _ _ _ _ rfl (receives_of_step rfl ⟨rfl, _, rfl, rfl⟩))
    (.next (.readSource _ _ _ _ rfl rfl) (.refl _))))))))))), ?_⟩
  intro kept
  have same := kept ⟨⟨1, 100, 5⟩, none, 1⟩ (List.mem_singleton.mpr rfl)
    ⟨⟨1, 100, 0⟩, some ⟨2, 200, 0⟩, 2⟩ (List.mem_singleton.mpr rfl)
  cases same

end GameBook.TeleportUpdates
