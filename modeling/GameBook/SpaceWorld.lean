import GameBook.CString
import GameBook.LabelledRun
import GameBook.LastMap
import GameBook.OrderedMap

/-!
`World` of a space process with its `PlayerManagerComponent`, the
`MoveComponent`s of its players and the part of `MoveSystem` that concerns one
of them. A handler takes the world before a message to the world after it and
appends what it sends; `none` is a null pointer that is followed. Positions are
abstract, the arithmetic of moving is the parameter `motion`.
-/

namespace GameBook.SpaceWorld

open Std OrderedMap SocketObject CString LastMap LabelledRun

/-- `MoveVector3`; a direction is its two scales. -/
structure MoveVector3 (Position Direction : Type) where
  target : Position
  direction : Direction

structure MoveComponent (Position Direction : Type) where
  targets : List Position
  vector3 : MoveVector3 Position Direction

/-- The float arithmetic: the scales towards a target from a position, whether
the target is nearer than what is moved in a time, and where the move leads. -/
structure Motion (Position Direction : Type) where
  scale : Position → Position → Direction
  arrives : Position → Position → UInt64 → Bool
  advance : Position → Direction → UInt64 → Position

structure Player (Position Direction : Type) where
  playerSn : UInt64
  account : Str
  name : Str
  socketKey : SocketKey
  worldSn : UInt64
  proto : PlayerProto Position
  gender : Int
  lastMap : Entered Position
  move : Option (MoveComponent Position Direction)

structure PlayerManager (Position Direction : Type) where
  players : Table UInt64 (Player Position Direction)
  keyed : ∀ (sn : UInt64) (player : Player Position Direction),
    players[sn]? = some player → player.playerSn = sn

structure Role (Position : Type) where
  name : Str
  sn : UInt64
  gender : Int
  position : Position

/-- What is sent to a player; all but the last goes on to its client. -/
inductive ToPlayer (Position : Type) where
  | enterWorld (worldId : Int) (position : Position)
  | roleAppear (roles : List (Role Position))
  | roleDisAppear (sn : UInt64)
  | move (playerSn : UInt64) (positions : List Position)
  | syncPlayer (account : Str) (player : PlayerProto Position)

inductive Sent (Position : Type) where
  | player (playerSn worldSn : UInt64) (socketKey : SocketKey) (message : ToPlayer Position)
  | savePlayer (playerSn : UInt64) (player : PlayerProto Position)
  | worldSyncToGather (worldSn : UInt64) (worldId : Int) (online : Nat)

abbrev SnSet := Table UInt64 Unit

structure World (Position Direction : Type) where
  worldId : Int
  sn : UInt64
  manager : PlayerManager Position Direction
  addPlayer : SnSet
  sent : List (Sent Position)

/-- A message for the world, a tick of one of its timers, or `MoveSystem` at the
component of one of its players. `pooled`: the vector of the component that the
pool would give. -/
inductive Message (Position Direction : Type) where
  | networkDisconnect (identify : NetIdentify)
  | syncPlayer (socketKey : SocketKey) (player : PlayerProto Position)
  | requestSyncPlayer (identify : NetIdentify)
  | removePlayer (identify : NetIdentify) (playerSn : UInt64)
  | move (identify : NetIdentify) (positions : List Position)
      (pooled : MoveVector3 Position Direction)
  | syncWorldToGather
  | syncAppearTimer
  | moveSystem (playerSn timeElapsed : UInt64)

variable {Position Direction : Type}

/-- `Player::SerializeToProto`; of the components only the last map writes. -/
def serializeToProto (p : Player Position Direction) : PlayerProto Position :=
  LastMap.serializeToProto p.lastMap.1 p.proto

/-- `MoveComponent::Update` with new targets. -/
def updateTargets (motion : Motion Position Direction) (c : MoveComponent Position Direction)
    (targets : List Position) (position : Position) : MoveComponent Position Direction :=
  match targets with
  | [] => c
  | first :: rest => ⟨rest, first, motion.scale first position⟩

/-- `MoveComponent::Update` over time: the component, the position, and whether it stops. -/
def updateMove (motion : Motion Position Direction) (c : MoveComponent Position Direction)
    (timeElapsed : UInt64) (position : Position) :
    MoveComponent Position Direction × Position × Bool :=
  if motion.arrives position c.vector3.target timeElapsed then
    match c.targets with
    | next :: rest => (⟨rest, next, motion.scale next c.vector3.target⟩, c.vector3.target, false)
    | [] => (c, c.vector3.target, true)
  else (c, motion.advance position c.vector3.direction timeElapsed, false)

def movePlayer (motion : Motion Position Direction) (timeElapsed : UInt64)
    (p : Player Position Direction) : Player Position Direction :=
  match p.move with
  | none => p
  | some component =>
      let (moved, position, isStop) := updateMove motion component timeElapsed (curPosition p.lastMap)
      { p with
        lastMap := setPosition p.lastMap position
        move := if isStop then none else some moved }

@[simp] theorem move_player_sn (motion : Motion Position Direction) (timeElapsed : UInt64)
    (p : Player Position Direction) : (movePlayer motion timeElapsed p).playerSn = p.playerSn := by
  unfold movePlayer
  split
  · rfl
  · rfl

theorem move_player_identity (motion : Motion Position Direction) (timeElapsed : UInt64)
    (p : Player Position Direction) :
    (movePlayer motion timeElapsed p).socketKey = p.socketKey ∧
      (movePlayer motion timeElapsed p).proto = p.proto := by
  unfold movePlayer
  split
  · exact ⟨rfl, rfl⟩
  · exact ⟨rfl, rfl⟩

/-! ### PlayerManagerComponent -/

def getPlayerBySn (m : PlayerManager Position Direction) (sn : UInt64) :
    Option (Player Position Direction) :=
  m.players[sn]?

def noPlayers : PlayerManager Position Direction := ⟨∅, by simp⟩

def setPlayer (m : PlayerManager Position Direction) (p : Player Position Direction) :
    PlayerManager Position Direction where
  players := m.players.insert p.playerSn p
  keyed := by
    intro sn held
    rw [get_insert]
    split
    · rename_i same
      rintro ⟨⟩
      exact same.symm
    · exact m.keyed sn held

def removePlayerBySn (m : PlayerManager Position Direction) (sn : UInt64) :
    PlayerManager Position Direction where
  players := m.players.erase sn
  keyed := by
    intro other held
    rw [get_erase]
    split
    · simp
    · exact m.keyed other held

def keepOthers (m : PlayerManager Position Direction) (socket : Int) :
    PlayerManager Position Direction where
  players := m.players.filter fun _ p => p.socketKey.socket ≠ socket
  keyed := by
    intro sn p held
    rw [ExtTreeMap.getElem?_filter'] at held
    exact m.keyed sn p (Option.filter_eq_some_iff.mp held).1

@[simp] theorem set_player_players (m : PlayerManager Position Direction)
    (p : Player Position Direction) :
    (setPlayer m p).players = m.players.insert p.playerSn p := rfl

@[simp] theorem remove_player_players (m : PlayerManager Position Direction) (sn : UInt64) :
    (removePlayerBySn m sn).players = m.players.erase sn := rfl

/-! ### World -/

def create (worldId : Int) (sn : UInt64) : World Position Direction := ⟨worldId, sn, noPlayers, ∅, []⟩

def packetTo (p : Player Position Direction) (message : ToPlayer Position) : Sent Position :=
  .player p.playerSn p.worldSn p.socketKey message

def send (w : World Position Direction) (messages : List (Sent Position)) : World Position Direction :=
  { w with sent := w.sent ++ messages }

def broadcastPacket (w : World Position Direction) (message : ToPlayer Position) :
    World Position Direction :=
  send w ((values w.manager.players).map fun p => packetTo p message)

def broadcastPacketTo (w : World Position Direction) (message : ToPlayer Position) (players : SnSet) :
    World Position Direction :=
  send w ((players.keys.filterMap (getPlayerBySn w.manager)).map fun p => packetTo p message)

@[simp] theorem send_manager (w : World Position Direction) (messages : List (Sent Position)) :
    (send w messages).manager = w.manager := rfl

@[simp] theorem send_add_player (w : World Position Direction) (messages : List (Sent Position)) :
    (send w messages).addPlayer = w.addPlayer := rfl

def getPlayer (w : World Position Direction) (identify : NetIdentify) :
    Option (Player Position Direction) :=
  match identify.tagKey .player with
  | none => none
  | some tagPlayer => getPlayerBySn w.manager tagPlayer.keyInt64

def savePlayer (p : Player Position Direction) : Sent Position :=
  .savePlayer p.playerSn (serializeToProto p)

/-- `RemoveAllPlayers`: the players that came over the connection that is gone. -/
def removeAllPlayers (w : World Position Direction) (socket : Int) : World Position Direction :=
  let leaving := (values w.manager.players).filter fun p => p.socketKey.socket = socket
  send { w with manager := keepOthers w.manager socket } (leaving.map savePlayer)

def handleNetworkDisconnect (w : World Position Direction) (identify : NetIdentify) :
    World Position Direction :=
  match identify.tagKey .player with
  | some tagPlayer =>
      match getPlayerBySn w.manager tagPlayer.keyInt64 with
      | none => w
      | some p =>
          let saved := send w [savePlayer p]
          { saved with manager := removePlayerBySn saved.manager tagPlayer.keyInt64 }
  | none =>
      match identify.tagKey .app with
      | none => w
      | some _ => removeAllPlayers w identify.socketKey.socket

def syncWorldToGather (w : World Position Direction) : World Position Direction :=
  send w [.worldSyncToGather w.sn w.worldId w.manager.players.size]

def createProtoRoleAppear (p : Player Position Direction) : Role Position :=
  ⟨cStr p.name, p.playerSn, p.gender, curPosition p.lastMap⟩

def newRoles (w : World Position Direction) : List (Role Position) :=
  (w.addPlayer.keys.filterMap (getPlayerBySn w.manager)).map createProtoRoleAppear

def otherRoles (w : World Position Direction) : List (Role Position) :=
  (w.manager.players.toList.filter fun one => one.1 ∉ w.addPlayer).map fun one =>
    createProtoRoleAppear one.2

def broadcastRoles (w : World Position Direction) (roles : List (Role Position)) :
    World Position Direction :=
  if roles ≠ [] then broadcastPacket w (.roleAppear roles) else w

def broadcastRolesTo (w : World Position Direction) (roles : List (Role Position))
    (players : SnSet) : World Position Direction :=
  if roles ≠ [] then broadcastPacketTo w (.roleAppear roles) players else w

@[simp] theorem broadcast_roles_manager (w : World Position Direction)
    (roles : List (Role Position)) : (broadcastRoles w roles).manager = w.manager := by
  unfold broadcastRoles
  split
  · rfl
  · rfl

@[simp] theorem broadcast_roles_to_manager (w : World Position Direction)
    (roles : List (Role Position)) (players : SnSet) :
    (broadcastRolesTo w roles players).manager = w.manager := by
  unfold broadcastRolesTo
  split
  · rfl
  · rfl

/-- The new players are shown to all, the others to the new ones. -/
def syncAppearTimer (w : World Position Direction) : World Position Direction :=
  if w.addPlayer.isEmpty then w
  else
    let told := broadcastRolesTo (broadcastRoles w (newRoles w)) (otherRoles w) w.addPlayer
    { told with addPlayer := ∅ }

/-- The player `AddPlayer` and `HandleSyncPlayer` build; `Awake` clears the account. -/
def newPlayer (w : World Position Direction) (socketKey : SocketKey) (proto : PlayerProto Position)
    (lastMap : Entered Position) : Player Position Direction :=
  ⟨proto.sn, [], proto.name, socketKey, w.sn, proto, proto.base.gender, lastMap, none⟩

def addNewPlayer (w : World Position Direction) (p : Player Position Direction) :
    World Position Direction :=
  let told := send { w with manager := setPlayer w.manager p }
    [packetTo p (.enterWorld w.worldId (curPosition p.lastMap))]
  { told with addPlayer := told.addPlayer.insert p.playerSn () }

def handleSyncPlayer (resources : Resources Position) (w : World Position Direction)
    (socketKey : SocketKey) (proto : PlayerProto Position) : Option (World Position Direction) :=
  match getPlayerBySn w.manager proto.sn with
  | some _ => some w
  | none =>
      (enter resources proto w.worldId w.sn).map fun lastMap =>
        addNewPlayer w (newPlayer w socketKey proto lastMap)

def handleRequestSyncPlayer (w : World Position Direction) (p : Player Position Direction) :
    World Position Direction :=
  send w [packetTo p (.syncPlayer (cStr p.account) (serializeToProto p))]

/-- The removed player stays readable until the next frame. -/
def handleRemovePlayer (w : World Position Direction) (p : Player Position Direction)
    (playerSn : UInt64) : World Position Direction :=
  if playerSn ≠ p.playerSn then w
  else
    broadcastPacket { w with manager := removePlayerBySn w.manager p.playerSn }
      (.roleDisAppear p.playerSn)

def moveComponent (p : Player Position Direction) (pooled : MoveVector3 Position Direction) :
    MoveComponent Position Direction :=
  p.move.getD ⟨[], pooled⟩

def handleMove (motion : Motion Position Direction) (w : World Position Direction)
    (p : Player Position Direction) (positions : List Position)
    (pooled : MoveVector3 Position Direction) : World Position Direction :=
  let component := updateTargets motion (moveComponent p pooled) positions (curPosition p.lastMap)
  broadcastPacket { w with manager := setPlayer w.manager { p with move := some component } }
    (.move p.playerSn positions)

/-- One message. A filtered message for a player that is not here is dropped. -/
def handle (resources : Resources Position) (motion : Motion Position Direction)
    (w : World Position Direction) : Message Position Direction → Option (World Position Direction)
  | .networkDisconnect identify => some (handleNetworkDisconnect w identify)
  | .syncPlayer socketKey proto => handleSyncPlayer resources w socketKey proto
  | .requestSyncPlayer identify =>
      match getPlayer w identify with
      | none => some w
      | some p => some (handleRequestSyncPlayer w p)
  | .removePlayer identify playerSn =>
      match getPlayer w identify with
      | none => some w
      | some p => some (handleRemovePlayer w p playerSn)
  | .move identify positions pooled =>
      match getPlayer w identify with
      | none => some w
      | some p => some (handleMove motion w p positions pooled)
  | .syncWorldToGather => some (syncWorldToGather w)
  | .syncAppearTimer => some (syncAppearTimer w)
  | .moveSystem playerSn timeElapsed =>
      match getPlayerBySn w.manager playerSn with
      | none => some w
      | some p => some { w with manager := setPlayer w.manager (movePlayer motion timeElapsed p) }

inductive Step (resources : Resources Position) (motion : Motion Position Direction) :
    World Position Direction → Message Position Direction → World Position Direction → Prop where
  | message (before : World Position Direction) (message : Message Position Direction)
      (after : World Position Direction) :
      handle resources motion before message = some after → Step resources motion before message after

theorem step_handled {resources : Resources Position} {motion : Motion Position Direction}
    {before after : World Position Direction} {message : Message Position Direction}
    (taken : Step resources motion before message after) :
    handle resources motion before message = some after := by
  cases taken
  assumption

/-- The outcomes of a message: nothing, or what its handler does with the
player that it finds. -/
inductive Handled (resources : Resources Position) (motion : Motion Position Direction)
    (before : World Position Direction) :
    Message Position Direction → World Position Direction → Prop where
  | disconnect (identify : NetIdentify) : Handled resources motion before
      (.networkDisconnect identify) (handleNetworkDisconnect before identify)
  | ignored (message : Message Position Direction) :
      (∀ identify, message ≠ .networkDisconnect identify) →
      Handled resources motion before message before
  | entered (socketKey : SocketKey) (proto : PlayerProto Position) (lastMap : Entered Position) :
      getPlayerBySn before.manager proto.sn = none →
      enter resources proto before.worldId before.sn = some lastMap →
      Handled resources motion before (.syncPlayer socketKey proto)
        (addNewPlayer before (newPlayer before socketKey proto lastMap))
  | requested (identify : NetIdentify) (p : Player Position Direction) :
      getPlayer before identify = some p → Handled resources motion before
        (.requestSyncPlayer identify) (handleRequestSyncPlayer before p)
  | removed (identify : NetIdentify) (p : Player Position Direction) :
      getPlayer before identify = some p → Handled resources motion before
        (.removePlayer identify p.playerSn) (handleRemovePlayer before p p.playerSn)
  | sent (identify : NetIdentify) (positions : List Position)
      (pooled : MoveVector3 Position Direction) (p : Player Position Direction) :
      getPlayer before identify = some p → Handled resources motion before
        (.move identify positions pooled) (handleMove motion before p positions pooled)
  | gathered : Handled resources motion before .syncWorldToGather (syncWorldToGather before)
  | told : Handled resources motion before .syncAppearTimer (syncAppearTimer before)
  | moved (timeElapsed : UInt64) (p : Player Position Direction) :
      getPlayerBySn before.manager p.playerSn = some p →
      Handled resources motion before (.moveSystem p.playerSn timeElapsed)
        { before with manager := setPlayer before.manager (movePlayer motion timeElapsed p) }

theorem handle_cases {resources : Resources Position} {motion : Motion Position Direction}
    {before after : World Position Direction} {message : Message Position Direction}
    (handled : handle resources motion before message = some after) :
    Handled resources motion before message after := by
  cases message with
  | networkDisconnect identify =>
      cases handled
      exact Handled.disconnect identify
  | syncPlayer socketKey proto =>
      simp only [handle, handleSyncPlayer] at handled
      cases found : getPlayerBySn before.manager proto.sn with
      | some _ =>
          rw [found] at handled
          cases handled
          exact Handled.ignored _ nofun
      | none =>
          rw [found] at handled
          obtain ⟨lastMap, went, rfl⟩ := Option.map_eq_some_iff.mp handled
          exact Handled.entered socketKey proto lastMap found went
  | requestSyncPlayer identify =>
      simp only [handle] at handled
      cases found : getPlayer before identify with
      | none =>
          rw [found] at handled
          cases handled
          exact Handled.ignored _ nofun
      | some p =>
          rw [found] at handled
          cases handled
          exact Handled.requested identify p found
  | removePlayer identify playerSn =>
      simp only [handle] at handled
      cases found : getPlayer before identify with
      | none =>
          rw [found] at handled
          cases handled
          exact Handled.ignored _ nofun
      | some p =>
          rw [found] at handled
          cases handled
          by_cases same : playerSn = p.playerSn
          · subst same
            exact Handled.removed identify p found
          · have ignored : handleRemovePlayer before p playerSn = before := if_pos same
            rw [ignored]
            exact Handled.ignored _ nofun
  | move identify positions pooled =>
      simp only [handle] at handled
      cases found : getPlayer before identify with
      | none =>
          rw [found] at handled
          cases handled
          exact Handled.ignored _ nofun
      | some p =>
          rw [found] at handled
          cases handled
          exact Handled.sent identify positions pooled p found
  | syncWorldToGather =>
      cases handled
      exact Handled.gathered
  | syncAppearTimer =>
      cases handled
      exact Handled.told
  | moveSystem playerSn timeElapsed =>
      simp only [handle] at handled
      cases found : getPlayerBySn before.manager playerSn with
      | none =>
          rw [found] at handled
          cases handled
          exact Handled.ignored _ nofun
      | some p =>
          rw [found] at handled
          cases handled
          have key := before.manager.keyed playerSn p found
          rw [← key] at found ⊢
          exact Handled.moved timeElapsed p found

@[simp] theorem remove_player_removes (w : World Position Direction) (p : Player Position Direction) :
    handleRemovePlayer w p p.playerSn = broadcastPacket
      { w with manager := removePlayerBySn w.manager p.playerSn } (.roleDisAppear p.playerSn) :=
  if_neg (not_not_intro rfl)

/-! ### Leaving -/

def leaves (identify : NetIdentify) (p : Player Position Direction) : Bool :=
  match identify.tagKey .player with
  | some tagPlayer => p.playerSn = tagPlayer.keyInt64
  | none => (identify.tagKey .app).isSome && p.socketKey.socket = identify.socketKey.socket

theorem get_player_erase (m : PlayerManager Position Direction) (sn other : UInt64) :
    getPlayerBySn (removePlayerBySn m sn) other =
      if other = sn then none else getPlayerBySn m other :=
  get_erase _ _ _

def Parted (identify : NetIdentify) (before after : World Position Direction) : Prop :=
  ∃ (manager : PlayerManager Position Direction) (saved : List (Player Position Direction)),
    after = { send before (saved.map savePlayer) with manager := manager } ∧
      ∀ sn p, getPlayerBySn manager sn = some p ↔
        getPlayerBySn before.manager sn = some p ∧ ¬leaves identify p

theorem parted_nobody {identify : NetIdentify} {w : World Position Direction}
    (stay : ∀ sn p, getPlayerBySn w.manager sn = some p → ¬leaves identify p) :
    Parted identify w w := by
  refine ⟨w.manager, [], ?_, fun sn p => ⟨fun held => ⟨held, stay sn p held⟩, And.left⟩⟩
  simp [send]

theorem disconnect_effect (w : World Position Direction) (identify : NetIdentify) :
    Parted identify w (handleNetworkDisconnect w identify) := by
  unfold handleNetworkDisconnect
  cases player : identify.tagKey .player with
  | some tagPlayer =>
      dsimp only
      cases found : getPlayerBySn w.manager tagPlayer.keyInt64 with
      | none =>
          apply parted_nobody
          intro sn p held left
          have same : p.playerSn = tagPlayer.keyInt64 := by simpa [leaves, player] using left
          rw [← same, w.manager.keyed sn p held, held] at found
          cases found
      | some p =>
          refine ⟨removePlayerBySn w.manager tagPlayer.keyInt64, [p], rfl, ?_⟩
          intro sn other
          rw [get_player_erase]
          by_cases same : sn = tagPlayer.keyInt64
          · rw [if_pos same]
            constructor
            · intro held
              cases held
            · rintro ⟨held, stays⟩
              have key : other.playerSn = sn := w.manager.keyed sn other held
              simp [leaves, player, key, same] at stays
          · rw [if_neg same]
            constructor
            · intro held
              have key : other.playerSn = sn := w.manager.keyed sn other held
              refine ⟨held, ?_⟩
              simpa [leaves, player, key] using same
            · exact And.left
  | none =>
      cases app : identify.tagKey .app with
      | none =>
          apply parted_nobody
          intro sn p _ left
          simp [leaves, player, app] at left
      | some _ =>
          refine ⟨keepOthers w.manager identify.socketKey.socket, _, rfl, ?_⟩
          intro sn p
          unfold getPlayerBySn keepOthers
          rw [ExtTreeMap.getElem?_filter', Option.filter_eq_some_iff]
          simp [leaves, player, app]

@[simp] theorem send_identity (w : World Position Direction) (messages : List (Sent Position)) :
    (send w messages).worldId = w.worldId ∧ (send w messages).sn = w.sn := ⟨rfl, rfl⟩

theorem step_identity {resources : Resources Position} {motion : Motion Position Direction}
    {before after : World Position Direction} {message : Message Position Direction}
    (handled : handle resources motion before message = some after) :
    after.worldId = before.worldId ∧ after.sn = before.sn := by
  cases handle_cases handled with
  | disconnect identify =>
      obtain ⟨manager, saved, same, -⟩ := disconnect_effect before identify
      rw [same]
      exact ⟨rfl, rfl⟩
  | removed identify p found =>
      rw [remove_player_removes]
      exact ⟨rfl, rfl⟩
  | told =>
      unfold syncAppearTimer broadcastRolesTo broadcastRoles
      repeat' split
      all_goals exact ⟨rfl, rfl⟩
  | _ => exact ⟨rfl, rfl⟩

/-! ### Where the players of a world come from -/

theorem get_player_set (m : PlayerManager Position Direction) (p : Player Position Direction)
    (sn : UInt64) :
    getPlayerBySn (setPlayer m p) sn = if sn = p.playerSn then some p else getPlayerBySn m sn :=
  get_insert _ _ _ _

theorem get_player_found {w : World Position Direction} {identify : NetIdentify}
    {p : Player Position Direction} (found : getPlayer w identify = some p) :
    getPlayerBySn w.manager p.playerSn = some p := by
  unfold getPlayer at found
  cases tag : identify.tagKey .player with
  | none =>
      rw [tag] at found
      cases found
  | some tagPlayer =>
      rw [tag] at found
      rw [w.manager.keyed _ p found]
      exact found

/-- The players after a message: those before it, without the ones that left,
with one that entered or with one of them changed. A change keeps where the
player is unless `MoveSystem` moved it. -/
inductive Managed (resources : Resources Position) (motion : Motion Position Direction)
    (before : World Position Direction) (message : Message Position Direction) :
    PlayerManager Position Direction → Prop where
  | same : Managed resources motion before message before.manager
  | left (identify : NetIdentify) (manager : PlayerManager Position Direction) :
      message = .networkDisconnect identify →
      (∀ sn p, getPlayerBySn manager sn = some p ↔
        getPlayerBySn before.manager sn = some p ∧ ¬leaves identify p) →
      Managed resources motion before message manager
  | removed (identify : NetIdentify) (sn : UInt64) : message = .removePlayer identify sn →
      Managed resources motion before message (removePlayerBySn before.manager sn)
  | entered (socketKey : SocketKey) (proto : PlayerProto Position) (lastMap : Entered Position) :
      message = .syncPlayer socketKey proto → getPlayerBySn before.manager proto.sn = none →
      enter resources proto before.worldId before.sn = some lastMap →
      Managed resources motion before message
        (setPlayer before.manager (newPlayer before socketKey proto lastMap))
  | updated (old p : Player Position Direction) :
      getPlayerBySn before.manager old.playerSn = some old → p.playerSn = old.playerSn →
      p.socketKey = old.socketKey → p.proto = old.proto →
      (p.lastMap = old.lastMap ∨ ∃ timeElapsed,
        message = .moveSystem old.playerSn timeElapsed ∧ p = movePlayer motion timeElapsed old) →
      Managed resources motion before message (setPlayer before.manager p)

theorem tick_manager (w : World Position Direction) : (syncAppearTimer w).manager = w.manager := by
  unfold syncAppearTimer
  split
  · rfl
  · simp

theorem step_managed {resources : Resources Position} {motion : Motion Position Direction}
    {before after : World Position Direction} {message : Message Position Direction}
    (taken : Step resources motion before message after) :
    Managed resources motion before message after.manager := by
  cases handle_cases (step_handled taken) with
  | disconnect identify =>
      obtain ⟨manager, saved, same, stays⟩ := disconnect_effect before identify
      rw [same]
      exact Managed.left identify manager rfl stays
  | entered socketKey proto lastMap absent went =>
      exact Managed.entered socketKey proto lastMap rfl absent went
  | removed identify p found =>
      rw [remove_player_removes]
      exact Managed.removed identify p.playerSn rfl
  | sent identify positions pooled p found =>
      exact Managed.updated p _ (get_player_found found) rfl rfl rfl (Or.inl rfl)
  | told =>
      rw [tick_manager]
      exact Managed.same
  | moved timeElapsed p found =>
      obtain ⟨socketKey, proto⟩ := move_player_identity motion timeElapsed p
      exact Managed.updated p _ found (move_player_sn motion timeElapsed p) socketKey proto
        (Or.inr ⟨timeElapsed, rfl, rfl⟩)
  | _ => exact Managed.same

/-- A player after a message: it entered with it, or it was there, at the same
place unless `MoveSystem` moved it. -/
inductive Came (resources : Resources Position) (motion : Motion Position Direction)
    (before : World Position Direction) (message : Message Position Direction)
    (p : Player Position Direction) : Prop where
  | entered (socketKey : SocketKey) (proto : PlayerProto Position) (lastMap : Entered Position) :
      message = .syncPlayer socketKey proto →
      enter resources proto before.worldId before.sn = some lastMap →
      p = newPlayer before socketKey proto lastMap → Came resources motion before message p
  | stayed (old : Player Position Direction) :
      getPlayerBySn before.manager p.playerSn = some old → p.proto = old.proto →
      p.lastMap = old.lastMap → Came resources motion before message p
  | moved (old : Player Position Direction) (timeElapsed : UInt64) :
      message = .moveSystem p.playerSn timeElapsed →
      getPlayerBySn before.manager p.playerSn = some old →
      p = movePlayer motion timeElapsed old → Came resources motion before message p

theorem came_old {resources : Resources Position} {motion : Motion Position Direction}
    {before : World Position Direction} {message : Message Position Direction} {sn : UInt64}
    {p : Player Position Direction} (held : getPlayerBySn before.manager sn = some p) :
    Came resources motion before message p := by
  have key := before.manager.keyed sn p held
  exact Came.stayed p (by rw [key, held]) rfl rfl

theorem step_came {resources : Resources Position} {motion : Motion Position Direction}
    {before after : World Position Direction} {message : Message Position Direction} {sn : UInt64}
    {p : Player Position Direction} (taken : Step resources motion before message after)
    (held : getPlayerBySn after.manager sn = some p) : Came resources motion before message p := by
  have managed := step_managed taken
  generalize after.manager = manager at managed held
  cases managed with
  | same => exact came_old held
  | left identify manager gone stays => exact came_old ((stays sn p).mp held).1
  | removed identify other gone =>
      rw [get_player_erase] at held
      split at held
      · cases held
      · exact came_old held
  | entered socketKey proto lastMap synced absent went =>
      rw [get_player_set] at held
      split at held
      · cases held
        exact Came.entered socketKey proto lastMap synced went rfl
      · exact came_old held
  | updated old changed found number socketKey proto place =>
      rw [get_player_set] at held
      split at held
      · cases held
        rw [← number] at found place
        rcases place with stands | ⟨timeElapsed, system, moved⟩
        · exact Came.stayed old found proto stands
        · exact Came.moved old timeElapsed system found moved
      · exact came_old held

theorem move_player_last_map (motion : Motion Position Direction) (timeElapsed : UInt64)
    (p : Player Position Direction) :
    (movePlayer motion timeElapsed p).proto = p.proto ∧
      ((movePlayer motion timeElapsed p).lastMap = p.lastMap ∨
        ∃ position, (movePlayer motion timeElapsed p).lastMap = setPosition p.lastMap position) := by
  unfold movePlayer
  split
  · exact ⟨rfl, Or.inl rfl⟩
  · exact ⟨rfl, Or.inr ⟨_, rfl⟩⟩

def AllSound (resources : Resources Position) (w : World Position Direction) : Prop :=
  ∀ sn p, getPlayerBySn w.manager sn = some p → Sound resources p.lastMap.1 p.proto

theorem all_sound_step {resources : Resources Position} {motion : Motion Position Direction}
    {before after : World Position Direction} {message : Message Position Direction}
    (sound : AllSound resources before) (taken : Step resources motion before message after) :
    AllSound resources after := by
  intro sn p held
  cases step_came taken held with
  | entered socketKey proto lastMap _ went new =>
      rw [new]
      exact enter_sound went
  | stayed old there proto lastMap =>
      rw [lastMap, proto]
      exact sound _ old there
  | moved old timeElapsed _ there moved =>
      obtain ⟨proto, lastMap⟩ := move_player_last_map motion timeElapsed old
      rw [moved, proto]
      rcases lastMap with same | ⟨position, same⟩
      · rw [same]
        exact sound _ old there
      · rw [same]
        exact set_position_sound position (sound _ old there)

theorem all_sound_run {resources : Resources Position} {motion : Motion Position Direction}
    {worldId : Int} {sn : UInt64} {trace : List (Message Position Direction)}
    {w : World Position Direction}
    (run : Run (Step resources motion) (create worldId sn) trace w) : AllSound resources w := by
  apply run_invariant (AllSound resources) (fun _ _ _ => all_sound_step) run
  intro other p held
  simp [create, noPlayers, getPlayerBySn] at held

end GameBook.SpaceWorld
