import GameBook.SpaceWorld

/-!
A world keeps the socket key a player came over and sends over it, but decides
nothing by it except in `RemoveAllPlayers`. A world whose players are all put
on another connection does the same with every other message.
-/

namespace GameBook.SpaceWorld

open Std OrderedMap SocketObject LastMap

variable {Position Direction : Type}

def relinkPlayer (key : SocketKey) (p : Player Position Direction) : Player Position Direction :=
  { p with socketKey := key }

def relinkSent (key : SocketKey) : Sent Position → Sent Position
  | .player playerSn worldSn _ message => .player playerSn worldSn key message
  | sent => sent

def relinkManager (key : SocketKey) (m : PlayerManager Position Direction) :
    PlayerManager Position Direction where
  players := m.players.map fun _ p => relinkPlayer key p
  keyed := by
    intro sn p held
    rw [ExtTreeMap.getElem?_map, Option.map_eq_some_iff] at held
    obtain ⟨before, held, rfl⟩ := held
    exact m.keyed sn before held

/-- The world with its players on the connection `key`. -/
def relink (key : SocketKey) (w : World Position Direction) : World Position Direction :=
  { w with manager := relinkManager key w.manager, sent := w.sent.map (relinkSent key) }

/-- A message as the players of the other world send it: `RequestSyncPlayer`,
`RemovePlayer`, `Move` and a player's leaving are told apart by the Player tag,
a new player takes over the socket key of its packet. -/
inductive Relinked (key : SocketKey) : Message Position Direction → Message Position Direction → Prop where
  | networkDisconnect (one other : NetIdentify) : one.tagKey .player ≠ none →
      other.tagKey .player = one.tagKey .player →
      Relinked key (.networkDisconnect one) (.networkDisconnect other)
  | syncPlayer (socketKey : SocketKey) (player : PlayerProto Position) :
      Relinked key (.syncPlayer socketKey player) (.syncPlayer key player)
  | requestSyncPlayer (one other : NetIdentify) : other.tagKey .player = one.tagKey .player →
      Relinked key (.requestSyncPlayer one) (.requestSyncPlayer other)
  | removePlayer (one other : NetIdentify) (playerSn : UInt64) :
      other.tagKey .player = one.tagKey .player →
      Relinked key (.removePlayer one playerSn) (.removePlayer other playerSn)
  | move (one other : NetIdentify) (positions : List Position) (pooled : MoveVector3 Position Direction) :
      other.tagKey .player = one.tagKey .player →
      Relinked key (.move one positions pooled) (.move other positions pooled)
  | syncWorldToGather : Relinked key .syncWorldToGather .syncWorldToGather
  | syncAppearTimer : Relinked key .syncAppearTimer .syncAppearTimer
  | moveSystem (playerSn timeElapsed : UInt64) :
      Relinked key (.moveSystem playerSn timeElapsed) (.moveSystem playerSn timeElapsed)

/-! ### The operations of the manager -/

variable (key : SocketKey)

@[simp] theorem relink_get (m : PlayerManager Position Direction) (sn : UInt64) :
    getPlayerBySn (relinkManager key m) sn = (getPlayerBySn m sn).map (relinkPlayer key) := by
  simp [getPlayerBySn, relinkManager, ExtTreeMap.getElem?_map]

theorem manager_ext {one other : PlayerManager Position Direction}
    (same : ∀ sn, getPlayerBySn one sn = getPlayerBySn other sn) : one = other := by
  obtain ⟨players, keyed⟩ := one
  obtain ⟨others, otherKeyed⟩ := other
  obtain rfl : players = others := ExtTreeMap.ext_getElem? fun sn => same sn
  rfl

theorem get_set_player (m : PlayerManager Position Direction) (p : Player Position Direction)
    (sn : UInt64) : getPlayerBySn (setPlayer m p) sn =
      if sn = p.playerSn then some p else getPlayerBySn m sn := by
  rw [getPlayerBySn, set_player_players, get_insert]
  rfl

theorem get_remove_player (m : PlayerManager Position Direction) (removed sn : UInt64) :
    getPlayerBySn (removePlayerBySn m removed) sn =
      if sn = removed then none else getPlayerBySn m sn := by
  rw [getPlayerBySn, remove_player_players, get_erase]
  rfl

@[simp] theorem relink_set_player (m : PlayerManager Position Direction) (p : Player Position Direction) :
    relinkManager key (setPlayer m p) = setPlayer (relinkManager key m) (relinkPlayer key p) := by
  apply manager_ext
  intro sn
  rw [relink_get, get_set_player, get_set_player, relink_get]
  by_cases same : sn = p.playerSn <;> simp [same, relinkPlayer]

@[simp] theorem relink_remove_player (m : PlayerManager Position Direction) (removed : UInt64) :
    relinkManager key (removePlayerBySn m removed) = removePlayerBySn (relinkManager key m) removed := by
  apply manager_ext
  intro sn
  rw [relink_get, get_remove_player, get_remove_player, relink_get]
  by_cases same : sn = removed <;> simp [same]

theorem relink_to_list (m : PlayerManager Position Direction) :
    (relinkManager key m).players.toList = m.players.toList.map fun one => (one.1, relinkPlayer key one.2) :=
  ExtTreeMap.toList_map

theorem relink_values (m : PlayerManager Position Direction) :
    values (relinkManager key m).players = (values m.players).map (relinkPlayer key) := by
  rw [values, values, relink_to_list, List.map_map, List.map_map]
  rfl

/-! ### What is sent -/

@[simp] theorem relink_send (w : World Position Direction) (messages : List (Sent Position)) :
    relink key (send w messages) = send (relink key w) (messages.map (relinkSent key)) := by
  simp [relink, send]

theorem relink_packets (players : List (Player Position Direction)) (message : ToPlayer Position) :
    (players.map fun p => packetTo p message).map (relinkSent key) =
      (players.map (relinkPlayer key)).map fun p => packetTo p message := by
  rw [List.map_map, List.map_map]
  rfl

@[simp] theorem relink_broadcast (w : World Position Direction) (message : ToPlayer Position) :
    relink key (broadcastPacket w message) = broadcastPacket (relink key w) message := by
  rw [broadcastPacket, relink_send, relink_packets, ← relink_values]
  rfl

theorem relink_held (w : World Position Direction) (sns : List UInt64) :
    sns.filterMap (getPlayerBySn (relink key w).manager) =
      (sns.filterMap (getPlayerBySn w.manager)).map (relinkPlayer key) := by
  rw [List.map_filterMap]
  congr 1
  funext sn
  exact relink_get key w.manager sn

@[simp] theorem relink_broadcast_to (w : World Position Direction) (message : ToPlayer Position)
    (players : SnSet) :
    relink key (broadcastPacketTo w message players) = broadcastPacketTo (relink key w) message players := by
  rw [broadcastPacketTo, relink_send, relink_packets, ← relink_held]
  rfl

theorem relink_new_roles (w : World Position Direction) : newRoles (relink key w) = newRoles w := by
  rw [newRoles, relink_held, List.map_map]
  rfl

theorem relink_other_roles (w : World Position Direction) : otherRoles (relink key w) = otherRoles w := by
  show ((relinkManager key w.manager).players.toList.filter _).map _ = _
  rw [relink_to_list, List.filter_map, List.map_map]
  rfl

theorem relink_sync_appear (w : World Position Direction) :
    relink key (syncAppearTimer w) = syncAppearTimer (relink key w) := by
  unfold syncAppearTimer broadcastRoles broadcastRolesTo
  rw [relink_new_roles, relink_other_roles]
  by_cases none : w.addPlayer.isEmpty
  · rw [if_pos none, if_pos (show (relink key w).addPlayer.isEmpty = true from none)]
  · rw [if_neg none, if_neg (show ¬ (relink key w).addPlayer.isEmpty = true from none)]
    have told (before : World Position Direction) (roles : List (Role Position)) :
        relink key (if roles ≠ [] then broadcastPacket before (.roleAppear roles) else before) =
          if roles ≠ [] then broadcastPacket (relink key before) (.roleAppear roles)
          else relink key before := by
      by_cases some : roles ≠ [] <;> simp [some]
    have toldTo (before : World Position Direction) (roles : List (Role Position)) (players : SnSet) :
        relink key (if roles ≠ [] then broadcastPacketTo before (.roleAppear roles) players else before) =
          if roles ≠ [] then broadcastPacketTo (relink key before) (.roleAppear roles) players
          else relink key before := by
      by_cases some : roles ≠ [] <;> simp [some]
    rw [← told, show (relink key w).addPlayer = w.addPlayer from rfl, ← toldTo]
    rfl

/-! ### Messages -/

theorem relink_get_player (w : World Position Direction) (one other : NetIdentify)
    (tagged : other.tagKey .player = one.tagKey .player) :
    getPlayer (relink key w) other = (getPlayer w one).map (relinkPlayer key) := by
  unfold getPlayer
  rw [tagged]
  cases one.tagKey .player with
  | none => rfl
  | some tag => exact relink_get key w.manager tag.keyInt64

theorem relink_disconnect (w : World Position Direction) (one other : NetIdentify)
    (some : one.tagKey .player ≠ none) (tagged : other.tagKey .player = one.tagKey .player) :
    handleNetworkDisconnect (relink key w) other = relink key (handleNetworkDisconnect w one) := by
  unfold handleNetworkDisconnect
  rw [tagged]
  cases tags : one.tagKey .player with
  | none => exact absurd tags some
  | some tag =>
      have found := relink_get key w.manager tag.keyInt64
      dsimp only
      rw [show (relink key w).manager = relinkManager key w.manager from rfl, found]
      cases getPlayerBySn w.manager tag.keyInt64 with
      | none => rfl
      | some p => simp [relink, send, relinkSent, savePlayer, serializeToProto, relinkPlayer]

theorem relink_add_new (w : World Position Direction) (p : Player Position Direction) :
    relink key (addNewPlayer w p) = addNewPlayer (relink key w) (relinkPlayer key p) := by
  simp [addNewPlayer, relink, send, relinkSent, packetTo, relinkPlayer]

theorem relink_sync (resources : Resources Position) (w : World Position Direction)
    (socketKey : SocketKey) (proto : PlayerProto Position) :
    handleSyncPlayer resources (relink key w) key proto =
      (handleSyncPlayer resources w socketKey proto).map (relink key) := by
  unfold handleSyncPlayer
  rw [show (relink key w).manager = relinkManager key w.manager from rfl, relink_get]
  cases getPlayerBySn w.manager proto.sn with
  | some p => rfl
  | none =>
      dsimp only [Option.map_none]
      rw [Option.map_map]
      congr 1
      funext lastMap
      exact (relink_add_new key w (newPlayer w socketKey proto lastMap)).symm

theorem relink_move (motion : Motion Position Direction) (w : World Position Direction)
    (p : Player Position Direction) (positions : List Position) (pooled : MoveVector3 Position Direction) :
    handleMove motion (relink key w) (relinkPlayer key p) positions pooled =
      relink key (handleMove motion w p positions pooled) := by
  unfold handleMove
  dsimp only
  rw [relink_broadcast]
  simp [relink, relinkPlayer, moveComponent]

theorem relink_remove (w : World Position Direction) (p : Player Position Direction) (playerSn : UInt64) :
    handleRemovePlayer (relink key w) (relinkPlayer key p) playerSn =
      relink key (handleRemovePlayer w p playerSn) := by
  unfold handleRemovePlayer
  by_cases same : playerSn ≠ p.playerSn
  · rw [if_pos same, if_pos (show playerSn ≠ (relinkPlayer key p).playerSn from same)]
  · rw [if_neg same, if_neg (show ¬ playerSn ≠ (relinkPlayer key p).playerSn from same),
      relink_broadcast]
    simp [relink, relinkPlayer]

theorem relink_moved (motion : Motion Position Direction) (timeElapsed : UInt64)
    (p : Player Position Direction) :
    movePlayer motion timeElapsed (relinkPlayer key p) = relinkPlayer key (movePlayer motion timeElapsed p) := by
  unfold movePlayer
  cases moves : p.move <;> simp [relinkPlayer, moves]

theorem relink_handle (resources : Resources Position) (motion : Motion Position Direction)
    (w : World Position Direction) (one other : Message Position Direction) (same : Relinked key one other) :
    handle resources motion (relink key w) other = (handle resources motion w one).map (relink key) := by
  cases same with
  | networkDisconnect one other some tagged =>
      exact congrArg Option.some (relink_disconnect key w one other some tagged)
  | syncPlayer socketKey player => exact relink_sync key resources w socketKey player
  | requestSyncPlayer one other tagged =>
      simp only [handle, relink_get_player key w one other tagged]
      cases getPlayer w one with
      | none => rfl
      | some p => simp [handleRequestSyncPlayer, packetTo, relinkSent, relinkPlayer, serializeToProto]
  | removePlayer one other playerSn tagged =>
      simp only [handle, relink_get_player key w one other tagged]
      cases getPlayer w one with
      | none => rfl
      | some p => exact congrArg Option.some (relink_remove key w p playerSn)
  | move one other positions pooled tagged =>
      simp only [handle, relink_get_player key w one other tagged]
      cases getPlayer w one with
      | none => rfl
      | some p => exact congrArg Option.some (relink_move key motion w p positions pooled)
  | syncWorldToGather =>
      have size : (relinkManager key w.manager).players.size = w.manager.players.size := ExtTreeMap.size_map
      simp only [handle, syncWorldToGather, relink_send, Option.map_some, relinkSent, List.map_cons,
        List.map_nil]
      rw [show (relink key w).manager = relinkManager key w.manager from rfl, size]
      rfl
  | syncAppearTimer => exact congrArg Option.some (relink_sync_appear key w).symm
  | moveSystem playerSn timeElapsed =>
      simp only [handle]
      rw [show (relink key w).manager = relinkManager key w.manager from rfl, relink_get]
      cases getPlayerBySn w.manager playerSn with
      | none => rfl
      | some p => simp [relink, relink_moved]

end GameBook.SpaceWorld
