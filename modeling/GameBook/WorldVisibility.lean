import GameBook.MemberView
import GameBook.SpaceWorld

/-!
What the clients of a world see. The RoleAppear and RoleDisAppear messages sent
to a player are notices about the members of the world; EnterWorld is the first
message after a player has entered. Each handler acts on the room of the world
as joining, flushing, leaving or dropping does.
-/

namespace GameBook.WorldVisibility

open Std OrderedMap SocketObject LastMap SpaceWorld MemberView LabelledRun

variable {Position Direction : Type}

def mailTo (sn : UInt64) : Sent Position → Option (ToPlayer Position)
  | .player playerSn _ _ message => if playerSn = sn then some message else none
  | _ => none

def notice : ToPlayer Position → Notice UInt64
  | .enterWorld _ _ => .entered
  | .roleAppear roles => .appear (roles.map Role.sn)
  | .roleDisAppear sn => .disappear sn
  | .move _ _ => .other
  | .syncPlayer _ _ => .other

def notices (sn : UInt64) (sent : List (Sent Position)) : List (Notice UInt64) :=
  (sent.filterMap (mailTo sn)).map notice

/-- The players its client shows to a player. -/
def known (w : World Position Direction) (sn : UInt64) : Set UInt64 := replay (notices sn w.sent)

def room (w : World Position Direction) : Room UInt64 where
  members := { sn | sn ∈ w.manager.players }
  pending := { sn | sn ∈ w.addPlayer }
  view := known w

/-- Of a player that a disconnect removes and one that stays, one waits for the
next tick in `_addPlayer`. -/
def NobodyLeftBehind (w : World Position Direction) : Message Position Direction → Prop
  | .networkDisconnect identify =>
      ∀ gone ∈ values w.manager.players, leaves identify gone →
        ∀ stays ∈ values w.manager.players, ¬leaves identify stays →
          gone.playerSn ∈ w.addPlayer ∨ stays.playerSn ∈ w.addPlayer
  | _ => True

theorem known_send (w : World Position Direction) (messages : List (Sent Position)) (sn : UInt64) :
    known (send w messages) sn = (notices sn messages).foldl learn (known w sn) := by
  unfold known notices send
  rw [List.filterMap_append, List.map_append, replay_append]

theorem notices_told (players : List (Player Position Direction)) (message : ToPlayer Position)
    (sn : UInt64) (distinct : (players.map Player.playerSn).Nodup) :
    notices sn (players.map fun p => packetTo p message) =
      if sn ∈ players.map Player.playerSn then [notice message] else [] := by
  induction players with
  | nil => rfl
  | cons p rest ih =>
      rw [List.map_cons, List.nodup_cons] at distinct
      have later := ih distinct.2
      by_cases same : p.playerSn = sn
      · subst same
        rw [if_neg distinct.1] at later
        simp only [notices, packetTo, mailTo, List.map_cons, List.filterMap_cons, if_true,
          List.mem_cons, true_or, List.cons.injEq, true_and] at later ⊢
        exact later
      · have differs : ¬sn = p.playerSn := fun equal => same equal.symm
        simp only [notices, packetTo, mailTo, List.map_cons, List.filterMap_cons, if_neg same,
          List.mem_cons, differs, false_or] at later ⊢
        exact later

theorem known_told (w : World Position Direction) (players : List (Player Position Direction))
    (message : ToPlayer Position) (sn : UInt64)
    (distinct : (players.map Player.playerSn).Nodup) :
    known (send w (players.map fun p => packetTo p message)) sn =
      if sn ∈ players.map Player.playerSn then learn (known w sn) (notice message)
      else known w sn := by
  rw [known_send, notices_told players message sn distinct]
  split
  · rfl
  · rfl

theorem known_packet (w : World Position Direction) (p : Player Position Direction)
    (message : ToPlayer Position) (sn : UInt64) :
    known (send w [packetTo p message]) sn =
      if sn = p.playerSn then learn (known w sn) (notice message) else known w sn := by
  have told := known_told w [p] message sn (by simp)
  simpa using told

theorem known_apart (w : World Position Direction) (messages : List (Sent Position)) (sn : UInt64)
    (apart : ∀ message ∈ messages, mailTo sn message = none) :
    known (send w messages) sn = known w sn := by
  have nothing : notices sn messages = [] := by
    unfold notices
    rw [List.filterMap_eq_nil_iff.mpr apart]
    rfl
  rw [known_send, nothing]
  rfl

/-! ### The numbers of the players -/

theorem values_numbers (m : PlayerManager Position Direction) :
    (values m.players).map Player.playerSn = m.players.keys := by
  unfold values
  rw [← ExtTreeMap.map_fst_toList_eq_keys, List.map_map]
  apply List.map_congr_left
  rintro ⟨sn, p⟩ listed
  exact m.keyed sn p (ExtTreeMap.mem_toList_iff_getElem?_eq_some.mp listed)

theorem found_numbers (m : PlayerManager Position Direction) (numbers : List UInt64) :
    (numbers.filterMap (getPlayerBySn m)).map Player.playerSn =
      numbers.filter fun sn => sn ∈ m.players := by
  induction numbers with
  | nil => rfl
  | cons sn rest ih =>
      cases found : getPlayerBySn m sn with
      | none =>
          have absent : sn ∉ m.players := by
            rw [ExtTreeMap.mem_iff_isSome_getElem?]
            change ¬(getPlayerBySn m sn).isSome
            rw [found]
            exact Bool.false_ne_true
          simp only [List.filterMap_cons, found, List.filter_cons, absent, decide_false,
            Bool.false_eq_true, if_false]
          exact ih
      | some p =>
          have held : sn ∈ m.players := mem_of_get found
          simp only [List.filterMap_cons, found, List.filter_cons, held, decide_true, if_true,
            List.map_cons, m.keyed sn p found]
          rw [ih]

theorem known_broadcast (w : World Position Direction) (message : ToPlayer Position) (sn : UInt64) :
    known (broadcastPacket w message) sn =
      if sn ∈ w.manager.players then learn (known w sn) (notice message) else known w sn := by
  have distinct : ((values w.manager.players).map Player.playerSn).Nodup := by
    rw [values_numbers]
    exact ExtTreeMap.nodup_keys
  have told := known_told w _ message sn distinct
  rw [values_numbers] at told
  simp only [ExtTreeMap.mem_keys] at told
  exact told

theorem known_broadcast_to (w : World Position Direction) (message : ToPlayer Position)
    (players : SnSet) (sn : UInt64) :
    known (broadcastPacketTo w message players) sn =
      if sn ∈ players ∧ sn ∈ w.manager.players then learn (known w sn) (notice message)
      else known w sn := by
  have distinct : ((players.keys.filterMap (getPlayerBySn w.manager)).map
      Player.playerSn).Nodup := by
    rw [found_numbers]
    exact ExtTreeMap.nodup_keys.filter _
  have told := known_told w _ message sn distinct
  rw [found_numbers] at told
  simp only [List.mem_filter, ExtTreeMap.mem_keys, decide_eq_true_eq] at told
  exact told

/-! ### What the handlers do to the room -/

theorem room_eq {before after : World Position Direction}
    (members : ∀ sn, sn ∈ after.manager.players ↔ sn ∈ before.manager.players)
    (pending : after.addPlayer = before.addPlayer) (view : known after = known before) :
    room after = room before := by
  ext sn
  · exact members sn
  · simp only [room, pending]
  · simp only [room, view]

theorem room_add {w : World Position Direction} (p : Player Position Direction) :
    room (addNewPlayer w p) = join (room w) p.playerSn := by
  have told : ∀ sn, known (addNewPlayer w p) sn =
      if sn = p.playerSn then learn (known w sn) .entered else known w sn :=
    known_packet { w with manager := setPlayer w.manager p } p _
  ext sn other
  · exact (mem_insert_iff _ _ _ _).trans or_comm
  · exact (mem_insert_iff _ _ _ _).trans or_comm
  ·
    simp only [room, join, told]
    by_cases same : sn = p.playerSn
    · simp [same, learn]
    · simp [same]

theorem new_roles_mem (w : World Position Direction) (sn : UInt64) :
    sn ∈ (newRoles w).map Role.sn ↔ sn ∈ w.addPlayer ∧ sn ∈ w.manager.players := by
  have numbers : (newRoles w).map Role.sn =
      (w.addPlayer.keys.filterMap (getPlayerBySn w.manager)).map Player.playerSn := by
    unfold newRoles
    rw [List.map_map]
    rfl
  rw [numbers, found_numbers, List.mem_filter, ExtTreeMap.mem_keys, decide_eq_true_eq]

theorem other_roles_mem (w : World Position Direction) (sn : UInt64) :
    sn ∈ (otherRoles w).map Role.sn ↔ sn ∈ w.manager.players ∧ sn ∉ w.addPlayer := by
  unfold otherRoles
  rw [List.map_map, List.mem_map]
  constructor
  · rintro ⟨⟨key, p⟩, listed, rfl⟩
    obtain ⟨held, old⟩ := List.mem_filter.mp listed
    have found := ExtTreeMap.mem_toList_iff_getElem?_eq_some.mp held
    have same : p.playerSn = key := w.manager.keyed key p found
    change p.playerSn ∈ _ ∧ p.playerSn ∉ _
    rw [same]
    exact ⟨mem_of_get found, of_decide_eq_true old⟩
  · rintro ⟨held, old⟩
    obtain ⟨p, found⟩ := Option.isSome_iff_exists.mp (ExtTreeMap.mem_iff_isSome_getElem?.mp held)
    refine ⟨(sn, p), List.mem_filter.mpr ⟨?_, decide_eq_true old⟩, w.manager.keyed sn p found⟩
    exact ExtTreeMap.mem_toList_iff_getElem?_eq_some.mpr found

/-- An empty RoleAppear, which is not sent, would tell nothing. -/
theorem learn_appear (seen : Set UInt64) (roles : List (Role Position)) :
    learn seen (notice (.roleAppear roles)) = seen ∪ { sn | sn ∈ roles.map Role.sn } := rfl

theorem known_broadcast_roles (w : World Position Direction) (roles : List (Role Position))
    (sn : UInt64) :
    known (broadcastRoles w roles) sn =
      if sn ∈ w.manager.players then known w sn ∪ { y | y ∈ roles.map Role.sn } else known w sn := by
  unfold broadcastRoles
  cases roles with
  | nil => simp
  | cons role rest =>
      rw [if_pos (List.cons_ne_nil _ _), known_broadcast, learn_appear]

theorem known_broadcast_roles_to (w : World Position Direction) (roles : List (Role Position))
    (players : SnSet) (sn : UInt64) :
    known (broadcastRolesTo w roles players) sn =
      if sn ∈ players ∧ sn ∈ w.manager.players then known w sn ∪ { y | y ∈ roles.map Role.sn }
      else known w sn := by
  unfold broadcastRolesTo
  cases roles with
  | nil => simp
  | cons role rest =>
      rw [if_pos (List.cons_ne_nil _ _), known_broadcast_to, learn_appear]

theorem known_tick (w : World Position Direction) (busy : ¬w.addPlayer.isEmpty) (sn y : UInt64) :
    y ∈ known (syncAppearTimer w) sn ↔ y ∈ known w sn ∨
      (sn ∈ w.manager.players ∧ y ∈ w.manager.players ∧ (y ∈ w.addPlayer ∨ sn ∈ w.addPlayer)) := by
  have after : known (syncAppearTimer w) sn =
      known (broadcastRolesTo (broadcastRoles w (newRoles w)) (otherRoles w) w.addPlayer) sn := by
    unfold syncAppearTimer
    rw [if_neg busy]
    rfl
  rw [after, known_broadcast_roles_to, broadcast_roles_manager, known_broadcast_roles]
  by_cases held : sn ∈ w.manager.players
  · by_cases new : sn ∈ w.addPlayer
    · simp only [held, new, and_self, if_true, Set.mem_union, Set.mem_ofPred_eq, new_roles_mem,
        other_roles_mem, true_and, or_true, and_true, or_assoc]
      apply or_congr_right
      by_cases waits : y ∈ w.addPlayer
      · simp [waits]
      · simp [waits]
    · simp only [held, new, false_and, if_false, if_true, Set.mem_union, Set.mem_ofPred_eq,
        new_roles_mem, true_and, or_false]
      rw [and_comm]
  · simp [held]

theorem room_tick (w : World Position Direction) : room (syncAppearTimer w) = flush (room w) := by
  by_cases idle : w.addPlayer.isEmpty
  · have nobody : (room w).pending = ∅ := by
      ext sn
      simp [room, ExtTreeMap.isEmpty_iff.mp idle]
    rw [flush_idle nobody]
    simp [syncAppearTimer, idle]
  · ext sn y
    · simp [room, flush, syncAppearTimer, idle]
    · simp [room, flush, syncAppearTimer, idle]
    · exact known_tick w idle sn y

theorem room_remove (w : World Position Direction) (p : Player Position Direction) :
    room (handleRemovePlayer w p p.playerSn) = leave (room w) p.playerSn := by
  have told : ∀ sn, known (handleRemovePlayer w p p.playerSn) sn =
      if sn ∈ w.manager.players.erase p.playerSn then known w sn \ {p.playerSn}
      else known w sn := by
    intro sn
    unfold handleRemovePlayer
    rw [if_neg (not_not.mpr rfl)]
    exact known_broadcast { w with manager := removePlayerBySn w.manager p.playerSn } _ sn
  have removed : (handleRemovePlayer w p p.playerSn).manager =
      removePlayerBySn w.manager p.playerSn := by
    simp [handleRemovePlayer, broadcastPacket]
  ext sn y
  · change sn ∈ (handleRemovePlayer w p p.playerSn).manager.players ↔ _
    rw [removed]
    exact (mem_erase_iff _ _ _).trans and_comm
  · simp [room, leave, handleRemovePlayer, broadcastPacket]
  · simp only [room, leave, told, Set.mem_ofPred_eq, mem_erase_iff]
    by_cases stays : sn ≠ p.playerSn ∧ sn ∈ w.manager.players
    · simp [stays]
    · rw [if_neg stays]
      constructor
      · exact fun seen => ⟨seen, fun left => stays ⟨left.2.2, left.2.1⟩⟩
      · exact fun seen => seen.1

def goneBy (w : World Position Direction) (identify : NetIdentify) : Set UInt64 :=
  { sn | ∃ p, getPlayerBySn w.manager sn = some p ∧ leaves identify p }

theorem not_gone {w : World Position Direction} {identify : NetIdentify} {sn : UInt64}
    {p : Player Position Direction} (held : getPlayerBySn w.manager sn = some p) :
    sn ∉ goneBy w identify ↔ ¬leaves identify p := by
  constructor
  · exact fun stays left => stays ⟨p, held, left⟩
  · rintro stays ⟨other, same, left⟩
    rw [held] at same
    cases same
    exact stays left

theorem held_iff (m : PlayerManager Position Direction) (sn : UInt64) :
    sn ∈ m.players ↔ ∃ p, getPlayerBySn m sn = some p := by
  rw [ExtTreeMap.mem_iff_isSome_getElem?]
  exact Option.isSome_iff_exists

theorem room_disconnect (w : World Position Direction) (identify : NetIdentify) :
    room (handleNetworkDisconnect w identify) = drop (room w) (goneBy w identify) := by
  obtain ⟨manager, saved, after, stays⟩ := disconnect_effect w identify
  rw [after]
  ext sn y
  · change sn ∈ manager.players ↔ sn ∈ w.manager.players ∧ sn ∉ goneBy w identify
    rw [held_iff, held_iff]
    constructor
    · rintro ⟨p, held⟩
      obtain ⟨before, remains⟩ := (stays sn p).mp held
      exact ⟨⟨p, before⟩, (not_gone before).mpr remains⟩
    · rintro ⟨⟨p, before⟩, remains⟩
      exact ⟨p, (stays sn p).mpr ⟨before, (not_gone before).mp remains⟩⟩
  · rfl
  · have told : known (send w (saved.map savePlayer)) sn = known w sn := by
      apply known_apart
      intro message sent
      obtain ⟨p, -, rfl⟩ := List.mem_map.mp sent
      rfl
    exact iff_of_eq (congrArg (y ∈ ·) told)

/-! ### Runs -/

theorem set_player_members {m : PlayerManager Position Direction} {p : Player Position Direction}
    (held : p.playerSn ∈ m.players) (sn : UInt64) :
    sn ∈ (setPlayer m p).players ↔ sn ∈ m.players := by
  rw [set_player_players, mem_insert_iff]
  constructor
  · rintro (rfl | other)
    · exact held
    · exact other
  · exact Or.inr

theorem found_by_sn {m : PlayerManager Position Direction} {sn : UInt64}
    {p : Player Position Direction} (found : getPlayerBySn m sn = some p) :
    p.playerSn ∈ m.players := by
  rw [m.keyed sn p found]
  exact mem_of_get found

theorem found_held {w : World Position Direction} {identify : NetIdentify}
    {p : Player Position Direction} (found : getPlayer w identify = some p) :
    p.playerSn ∈ w.manager.players := by
  unfold getPlayer at found
  cases tag : identify.tagKey .player with
  | none =>
      rw [tag] at found
      cases found
  | some tagPlayer =>
      rw [tag] at found
      exact found_by_sn found

theorem room_move (motion : Motion Position Direction) (w : World Position Direction)
    (p : Player Position Direction) (held : p.playerSn ∈ w.manager.players)
    (positions : List Position) (pooled : MoveVector3 Position Direction) :
    room (handleMove motion w p positions pooled) = room w := by
  apply room_eq
  · exact set_player_members held
  · rfl
  · funext sn
    unfold handleMove
    rw [known_broadcast]
    split
    · rfl
    · rfl

theorem room_move_system (motion : Motion Position Direction) (w : World Position Direction)
    (p : Player Position Direction) (held : p.playerSn ∈ w.manager.players) (timeElapsed : UInt64) :
    room { w with manager := setPlayer w.manager (movePlayer motion timeElapsed p) } = room w := by
  have moved : (movePlayer motion timeElapsed p).playerSn ∈ w.manager.players := by
    rw [move_player_sn]
    exact held
  exact room_eq (set_player_members moved) rfl rfl

theorem room_request (w : World Position Direction) (p : Player Position Direction) :
    room (handleRequestSyncPlayer w p) = room w := by
  apply room_eq
  · exact fun sn => Iff.rfl
  · rfl
  · funext sn
    unfold handleRequestSyncPlayer
    rw [known_packet]
    split
    · rfl
    · rfl

theorem room_gather (w : World Position Direction) : room (syncWorldToGather w) = room w := by
  apply room_eq
  · exact fun sn => Iff.rfl
  · rfl
  · funext sn
    apply known_apart
    intro message sent
    rw [List.mem_singleton.mp sent]
    rfl

inductive Effect (before : World Position Direction) :
    Message Position Direction → Room UInt64 → Prop where
  | same (message) : (∀ identify, message ≠ .networkDisconnect identify) →
      Effect before message (room before)
  | join (message) (sn : UInt64) : (∀ identify, message ≠ .networkDisconnect identify) →
      sn ∉ before.manager.players → Effect before message (join (room before) sn)
  | flush : Effect before .syncAppearTimer (flush (room before))
  | leave (message) (sn : UInt64) : (∀ identify, message ≠ .networkDisconnect identify) →
      Effect before message (leave (room before) sn)
  | drop (identify : NetIdentify) : Effect before (.networkDisconnect identify)
      (drop (room before) (goneBy before identify))

theorem step_effect {resources : Resources Position} {motion : Motion Position Direction}
    {before after : World Position Direction} {message : Message Position Direction}
    (taken : Step resources motion before message after) : Effect before message (room after) := by
  cases handle_cases (step_handled taken) with
  | disconnect identify =>
      rw [room_disconnect]
      exact Effect.drop identify
  | ignored message other => exact Effect.same _ other
  | entered socketKey proto lastMap absent went =>
      rw [room_add]
      refine Effect.join (.syncPlayer socketKey proto) _ nofun ?_
      intro held
      obtain ⟨p, there⟩ := (held_iff _ _).mp held
      change getPlayerBySn before.manager proto.sn = some p at there
      rw [absent] at there
      cases there
  | requested identify p found =>
      rw [room_request]
      exact Effect.same _ nofun
  | removed identify p found =>
      rw [room_remove]
      exact Effect.leave _ _ nofun
  | sent identify positions pooled p found =>
      rw [room_move motion before p (found_held found)]
      exact Effect.same _ nofun
  | gathered =>
      rw [room_gather]
      exact Effect.same _ nofun
  | told =>
      rw [room_tick]
      exact Effect.flush
  | moved timeElapsed p found =>
      rw [room_move_system motion before p (found_by_sn found)]
      exact Effect.same _ nofun

theorem nobody_left_behind_iff (w : World Position Direction) (identify : NetIdentify)
    (shown : Shown (room w)) :
    NobodyLeftBehind w (.networkDisconnect identify) ↔
      Visible (flush (drop (room w) (goneBy w identify))) := by
  rw [drop_visible_iff _ shown]
  constructor
  · rintro covered x held ⟨gone, found, left⟩ p member remains
    obtain ⟨stays, there⟩ := (held_iff _ _).mp member
    have told := covered gone ((mem_values _ _).mpr ⟨x, found⟩) left stays
      ((mem_values _ _).mpr ⟨p, there⟩) ((not_gone there).mp remains)
    rw [w.manager.keyed x gone found, w.manager.keyed p stays there] at told
    exact told
  · intro covered gone goneHeld left stays staysHeld remains
    obtain ⟨x, found⟩ := (mem_values _ _).mp goneHeld
    obtain ⟨p, there⟩ := (mem_values _ _).mp staysHeld
    rw [w.manager.keyed x gone found, w.manager.keyed p stays there]
    exact covered x (mem_of_get found) ⟨gone, found, left⟩ p (mem_of_get there)
      ((not_gone there).mpr remains)

theorem step_decides {resources : Resources Position} {motion : Motion Position Direction}
    {before after : World Position Direction} {message : Message Position Direction}
    (shown : Shown (room before)) (taken : Step resources motion before message after) :
    Unannounced (room after) ∧
      (NobodyLeftBehind before message ↔ Visible (room (syncAppearTimer after))) := by
  have free : (∀ identify, message ≠ .networkDisconnect identify) →
      NobodyLeftBehind before message := by
    intro other
    cases message with
    | networkDisconnect identify => exact absurd rfl (other identify)
    | _ => trivial
  have visible : Shown (room after) → Visible (room (syncAppearTimer after)) := by
    intro still
    rw [room_tick]
    exact flush_visible still
  have kept : (∀ identify, message ≠ .networkDisconnect identify) → Shown (room after) →
      Unannounced (room after) ∧
        (NobodyLeftBehind before message ↔ Visible (room (syncAppearTimer after))) :=
    fun other still => ⟨shown_unannounced still, iff_of_true (free other) (visible still)⟩
  have effect := step_effect taken
  generalize same : room after = r at effect
  cases effect with
  | same _ other => exact same ▸ kept other (same ▸ shown)
  | join _ sn other new => exact same ▸ kept other (same ▸ join_shown new shown)
  | flush => exact same ▸ kept nofun (same ▸ flush_shown shown)
  | leave _ sn other => exact same ▸ kept other (same ▸ leave_shown sn shown)
  | drop identify =>
      refine ⟨drop_unannounced _ shown, ?_⟩
      rw [room_tick, same]
      exact nobody_left_behind_iff before identify shown

theorem create_shown (worldId : Int) (sn : UInt64) :
    Shown (room (create worldId sn : World Position Direction)) where
  fresh := by
    intro p member
    simp [room, create, noPlayers] at member
  settled := by
    intro p member
    simp [room, create, noPlayers] at member

/-- After every step of a run a tick would show each player all players of the
world, exactly when no disconnect leaves somebody behind. -/
theorem visible_iff_nobody_left_behind (resources : Resources Position)
    (motion : Motion Position Direction) (worldId : Int) (sn : UInt64)
    (trace : List (Message Position Direction)) (after : World Position Direction) :
    Run (Guarded (Step resources motion) NobodyLeftBehind) (create worldId sn) trace after ↔
      Run (Along (Step resources motion) fun w => Visible (room (syncAppearTimer w)))
        (create worldId sn) trace after := by
  apply guarded_iff_decided (fun w => Unannounced (room w))
  · intro before message after kept visible taken
    rw [room_tick] at visible
    exact step_decides (shown_of_visible kept visible) taken
  · exact shown_unannounced (create_shown worldId sn)
  · rw [room_tick]
    exact flush_visible (create_shown worldId sn)

/-! Two players of one game process in a public world. -/

def town : Resources Int := ⟨fun id => if id = 1 then some ⟨.publicWorld, 0⟩ else none, 1⟩

def standing : Motion Int Unit := ⟨fun _ _ => (), fun _ _ _ => true, fun position _ _ => position⟩

def inTown (sn : UInt64) : PlayerProto Int := ⟨sn, [], ⟨1, 1⟩, ⟨⟨1, 0, 0⟩, ⟨0, 0, 0⟩, 0⟩⟩

def fromGame : SocketKey := ⟨5, .tcpListen⟩

def ofPlayer (sn : UInt64) : NetIdentify := ⟨fromGame, addTagInt clear .player sn⟩

/-- The client of player 7 is gone, player 8 still sees it after a tick. -/
theorem disconnected_player_stays_visible :
    ∃ w, Run (Step town standing) (create 1 100)
      [.syncPlayer fromGame (inTown 7), .syncPlayer fromGame (inTown 8), .syncAppearTimer,
        .networkDisconnect (ofPlayer 7), .syncAppearTimer] w ∧ ¬Visible (room w) := by
  obtain ⟨w, run, told, here, gone⟩ : ∃ w : World Int Unit, Run (Step town standing) (create 1 100)
      [.syncPlayer fromGame (inTown 7), .syncPlayer fromGame (inTown 8), .syncAppearTimer,
        .networkDisconnect (ofPlayer 7), .syncAppearTimer] w ∧
      notices 8 w.sent = [.entered, .appear [7, 8]] ∧
      w.manager.players.contains 8 = true ∧ w.manager.players.contains 7 = false :=
    ⟨_, .next (.message _ _ _ rfl) (.next (.message _ _ _ rfl) (.next (.message _ _ _ rfl)
      (.next (.message _ _ _ rfl) (.next (.message _ _ _ rfl) (.refl _))))), rfl, rfl, rfl⟩
  refine ⟨w, run, fun visible => ?_⟩
  have seen : (7 : UInt64) ∈ known w 8 := by
    unfold known
    rw [told]
    exact Or.inr (List.mem_cons_self ..)
  have same : known w 8 = { sn | sn ∈ w.manager.players } :=
    visible 8 (ExtTreeMap.mem_iff_contains.mpr here)
  rw [same] at seen
  have held := ExtTreeMap.mem_iff_contains.mp seen
  rw [gone] at held
  cases held

end GameBook.WorldVisibility
