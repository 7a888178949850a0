import GameBook.WorldProxy

/-!
Teleport objects and the players they belong to. Players leave the collector
on three paths (disconnect, teleport-after, loss of the space process) and none
of them looks at the teleport map.
-/

namespace GameBook.TeleportPresence

open OrderedMap SocketObject AppKey PlayerCollector WhileLoop LabelledRun WorldProxy

variable {Proto : Type}

def Present (s : Proxy Proto) : Prop :=
  ∀ (key : UInt64) (obj : TeleportObject), s.objects[key]? = some obj →
    (getPlayerBySn s.collector key).isSome

def Leaves (before : Proxy Proto) (event : Event Proto) (socket : Int) : Prop :=
  match event with
  | .teleportAfter identify _ =>
      ∃ player, getPlayer before identify = some player ∧ player.socketKey.socket = socket
  | .disconnect identify =>
      isTcp identify.socketKey.netType = true ∧
        match identify.tagKey .account with
        | some _ => identify.socketKey.socket = socket
        | none =>
            match identify.tagKey .app with
            | none => False
            | some app =>
                getTypeFromAppKey app.keyInt64 = bits .space ∧
                  spaceAppId before = getIdFromAppKey app.keyInt64
  | _ => False

def Keeps (before : Proxy Proto) (event : Event Proto) : Prop :=
  ∀ (key : UInt64) (obj : TeleportObject), before.objects[key]? = some obj →
    event = .dispose ∨ ∃ socket player, getPlayerBySocket before.collector socket = some player ∧
      player.playerSn = key ∧ ¬ Leaves before event socket

structure PresenceLaw (world : Int → Option WorldType) (s : Proxy Proto) : Prop where
  present : Present s
  broadcasts : ∀ worldId worldSn fuel, (world worldId).isSome →
    handleBroadcastCreateWorldProxy world fuel s worldId worldSn ≠ some none
  syncs : ∀ identify player proto, getPlayer s identify = some player →
    handleS2GSyncPlayer s player proto ≠ none
  issued : ∀ event after m, proxyStep world s event after → .teleport m ∈ after.sent →
    .teleport m ∈ s.sent ∨ (getPlayerBySn s.collector m.playerSn).isSome
  newcomer : ∀ player : Player Proto, getPlayerBySn s.collector player.playerSn = none →
    isTeleporting s player = false

/-! Events that nobody leaves through. -/

def KeepsSns (before after : Collector Proto) : Prop :=
  ∀ playerSn, (getPlayerBySn before playerSn).isSome → (getPlayerBySn after playerSn).isSome

theorem keeps_sns_of_sockets (before after : Collector Proto)
    (kept : ∀ socket player, getPlayerBySocket before socket = some player →
      ∃ later, getPlayerBySocket after socket = some later ∧ later.playerSn = player.playerSn) :
    KeepsSns before after := by
  intro playerSn held
  obtain ⟨socket, player, here, sn⟩ := (get_by_sn_is_some before playerSn).mp held
  obtain ⟨later, there, same⟩ := kept socket player here
  exact (get_by_sn_is_some after playerSn).mpr ⟨socket, later, there, same.trans sn⟩

theorem sync_keeps_sns (c : Collector Proto) (player : Player Proto) (proto : Proto)
    (held : getPlayerBySocket c player.socketKey.socket = some player) :
    KeepsSns c (setPlayer c { player with components := proto }) := by
  apply keeps_sns_of_sockets
  intro socket other here
  rw [get_by_socket_set]
  dsimp only
  split
  · rename_i same
    rw [same, held] at here
    cases here
    exact ⟨_, rfl, rfl⟩
  · exact ⟨other, here, rfl⟩

theorem teleport_keeps_sns (s : Proxy Proto) (message : Teleport Proto) :
    KeepsSns s.collector (handleTeleport s message).collector := by
  unfold handleTeleport
  split
  · exact fun _ held => held
  · rename_i player added accepted
    obtain ⟨free, rfl, sockets⟩ := add_player_some accepted
    apply keeps_sns_of_sockets
    intro socket other here
    have differs : socket ≠ message.socketKey.socket := by
      rintro rfl
      rw [free] at here
      cases here
    refine ⟨other, ?_, rfl⟩
    simp only [send]
    rw [get_by_socket_set, if_neg differs, sockets, if_neg differs, here]

theorem present_advances {s t : Proxy Proto} (advances : Advances s t) (present : Present s) :
    Present t := by
  intro key obj held
  obtain ⟨old, heldOld, -⟩ := advances.objects key obj held
  rw [advances.collector]
  exact present key old heldOld

theorem present_enter_world (world : Int → Option WorldType) (located : UInt64)
    (space : Option UInt64) (s : Proxy Proto) (player : Player Proto) (worldId : Int)
    (held : getPlayerBySocket s.collector player.socketKey.socket = some player)
    (present : Present s) : Present (handleC2GEnterWorld world located space s player worldId) := by
  unfold handleC2GEnterWorld
  split
  · exact present
  · split
    · exact present
    · rename_i kind _ _
      obtain ⟨obj, objects, -, -, -, -, collector, -⟩ :=
        create_teleport_object_fields kind located space s worldId player
      intro key kept here
      rw [objects, get_insert] at here
      rw [collector]
      split at here
      · rename_i same
        exact (get_by_sn_is_some _ _).mpr ⟨_, player, held, same.symm⟩
      · exact present key kept here

/-! Events that remove players. -/

theorem leave_decides (before after : Proxy Proto) (event : Event Proto)
    (objects : after.objects = before.objects)
    (left : ∀ socket, Leaves before event socket → getPlayerBySocket after.collector socket = none)
    (stayed : ∀ socket, ¬ Leaves before event socket →
      getPlayerBySocket after.collector socket = getPlayerBySocket before.collector socket)
    (notDispose : event ≠ .dispose) : Keeps before event ↔ Present after := by
  constructor
  · intro keeps key obj held
    rw [objects] at held
    rcases keeps key obj held with ended | ⟨socket, player, here, sn, stays⟩
    · exact absurd ended notDispose
    · exact (get_by_sn_is_some _ _).mpr ⟨socket, player, by rw [stayed socket stays, here], sn⟩
  · intro later key obj held
    rw [← objects] at held
    obtain ⟨socket, player, here, sn⟩ := (get_by_sn_is_some _ _).mp (later key obj held)
    right
    by_cases leaves : Leaves before event socket
    · rw [left socket leaves] at here
      cases here
    · rw [stayed socket leaves] at here
      exact ⟨socket, player, here, sn, leaves⟩

theorem stay_decides (before after : Proxy Proto) (event : Event Proto) (present : Present before)
    (nobody : ∀ socket, ¬ Leaves before event socket) (kept : Present after) :
    Keeps before event ↔ Present after := by
  constructor
  · intro _
    exact kept
  · intro _ key obj held
    obtain ⟨socket, player, here, sn⟩ := (get_by_sn_is_some _ _).mp (present key obj held)
    exact Or.inr ⟨socket, player, here, sn, nobody socket⟩

theorem disconnect_left (before : Proxy Proto) (identify : NetIdentify) (socket : Int)
    (leaves : Leaves before (.disconnect identify) socket) :
    getPlayerBySocket (handleNetworkDisconnect before identify).collector socket = none := by
  obtain ⟨tcp, leaves⟩ := leaves
  unfold handleNetworkDisconnect
  rw [tcp]
  dsimp only
  cases account : identify.tagKey .account with
  | some value =>
      rw [account] at leaves
      dsimp only at leaves
      subst leaves
      cases held : getPlayerBySocket before.collector identify.socketKey.socket with
      | none => simpa using held
      | some player => simp [send, get_by_socket_remove]
  | none =>
      rw [account] at leaves
      dsimp only at leaves
      cases app : identify.tagKey .app with
      | none =>
          rw [app] at leaves
          exact leaves.elim
      | some value =>
          rw [app] at leaves
          obtain ⟨kind, id⟩ := leaves
          simp [kind, id, removeAllPlayerAndCloseConnect, getPlayerBySocket, empty]

theorem disconnect_stayed (before : Proxy Proto) (identify : NetIdentify) (socket : Int)
    (stays : ¬ Leaves before (.disconnect identify) socket) :
    getPlayerBySocket (handleNetworkDisconnect before identify).collector socket =
      getPlayerBySocket before.collector socket := by
  unfold handleNetworkDisconnect
  cases tcp : isTcp identify.socketKey.netType with
  | false => rfl
  | true =>
      simp only [Leaves, tcp, true_and] at stays
      dsimp only
      cases account : identify.tagKey .account with
      | some value =>
          rw [account] at stays
          cases held : getPlayerBySocket before.collector identify.socketKey.socket with
          | none => rfl
          | some player => simp [send, get_by_socket_remove, Ne.symm stays]
      | none =>
          rw [account] at stays
          dsimp only at stays
          cases app : identify.tagKey .app with
          | none => rfl
          | some value =>
              rw [app] at stays
              dsimp only at stays
              have other : getTypeFromAppKey value.keyInt64 ≠ bits .space ∨
                  spaceAppId before ≠ getIdFromAppKey value.keyInt64 := by
                by_cases kind : getTypeFromAppKey value.keyInt64 = bits .space
                · exact Or.inr fun id => stays ⟨kind, id⟩
                · exact Or.inl kind
              simp [if_pos other]

theorem keeps_decides (world : Int → Option WorldType) (before : Proxy Proto) (event : Event Proto)
    (after : Proxy Proto) (present : Present before) (step : proxyStep world before event after) :
    Keeps before event ↔ Present after := by
  obtain ⟨-, taken⟩ := step
  cases event with
  | enterWorld identify worldId located space =>
      obtain ⟨player, found, rfl⟩ := taken
      exact stay_decides before _ _ present (fun _ leaves => leaves)
        (present_enter_world world located space before player worldId (get_player_held found) present)
  | syncPlayer identify proto =>
      obtain ⟨player, found, done⟩ := taken
      refine stay_decides before _ _ present (fun _ leaves => leaves)
        (present_advances (broadcast_sync_advances done) ?_)
      intro key obj held
      exact sync_keeps_sns _ player proto (get_player_held found) key (present key obj held)
  | broadcast worldId worldSn =>
      obtain ⟨fuel, done⟩ := taken
      exact stay_decides before _ _ present (fun _ leaves => leaves)
        (present_advances (broadcast_advances done) present)
  | teleport message =>
      cases taken
      refine stay_decides before _ _ present (fun _ leaves => leaves) ?_
      intro key obj held
      rw [handle_teleport_objects] at held
      exact teleport_keeps_sns before message key (present key obj held)
  | teleportAfter identify playerSn =>
      obtain ⟨player, found, rfl⟩ := taken
      refine leave_decides before _ _ rfl ?_ ?_ (by simp)
      · rintro socket ⟨other, same, rfl⟩
        rw [found] at same
        cases same
        simp [handleTeleportAfter, send, get_by_socket_remove]
      · intro socket stays
        have differs : socket ≠ player.socketKey.socket := by
          rintro rfl
          exact stays ⟨player, found, rfl⟩
        simp [handleTeleportAfter, send, get_by_socket_remove, differs]
  | disconnect identify =>
      cases taken
      exact leave_decides before _ _ (handle_disconnect_objects before identify)
        (disconnect_left before identify) (disconnect_stayed before identify) (by simp)
  | dispose =>
      obtain ⟨-, rfl⟩ := taken
      constructor
      · intro _ key obj held
        simp [WorldProxy.dispose] at held
      · intro _ key obj _
        exact Or.inl rfl

/-! What a present player is good for. -/

theorem assign_world_none {worldSn : UInt64} {s : Proxy Proto} {key : UInt64} {obj : TeleportObject}
    (crashed : assignWorld worldSn s key obj = none) :
    getPlayerBySn s.collector obj.playerSn = none :=
  ((check_none_iff _ _).mp crashed).2.2.2

theorem assign_world_returns (worldSn : UInt64) (s : Proxy Proto) (key : UInt64)
    (obj : TeleportObject) (keyed : Keyed s) (present : Present s)
    (held : s.objects[key]? = some obj) : assignWorld worldSn s key obj ≠ none := by
  intro crashed
  have absent := assign_world_none crashed
  have here := present key obj held
  rw [← keyed key obj held, absent] at here
  cases here

theorem broadcast_returns (world : Int → Option WorldType) (s : Proxy Proto) (worldId : Int)
    (worldSn : UInt64) (fuel : Nat) (keyed : Keyed s) (present : Present s)
    (known : (world worldId).isSome) :
    handleBroadcastCreateWorldProxy world fuel s worldId worldSn ≠ some none := by
  unfold handleBroadcastCreateWorldProxy
  split
  · rename_i unknown
    rw [unknown] at known
    cases known
  · intro crashed
    refine loop_result (fun t => Keyed t ∧ Present t) (fun result => result ≠ none) ?_ ?_ fuel s none
      ⟨keyed, present⟩ crashed rfl
    · rintro state next ⟨keyedState, presentState⟩ turn
      have advances := broadcast_turn_advances turn
      exact ⟨keyed_advances advances keyedState, present_advances advances presentState⟩
    · rintro state result ⟨keyedState, presentState⟩ turn
      rcases broadcast_turn_exit turn with ⟨rfl, -⟩ | ⟨-, key, obj, found, assigned⟩
      · simp
      · exact absurd assigned (assign_world_returns worldSn state key obj keyedState presentState
          (find_target_some found).1)
  · split
    · simp
    · rename_i key obj found
      intro crashed
      exact assign_world_returns worldSn s key obj keyed present (find_target_some found).1
        (Option.some.inj crashed)
  · simp

theorem sync_returns (s : Proxy Proto) (identify : NetIdentify) (player : Player Proto)
    (proto : Proto) (found : getPlayer s identify = some player) :
    handleS2GSyncPlayer s player proto ≠ none := by
  unfold handleS2GSyncPlayer broadcastSyncPlayer
  split
  · simp
  · rename_i key obj search
    intro crashed
    have absent := ((check_none_iff _ _).mp crashed).2.2.2
    have sn : obj.playerSn = player.playerSn := by simpa using (find_if_some search).2
    have held := (get_by_sn_is_some s.collector player.playerSn).mpr
      ⟨_, player, get_player_held found, rfl⟩
    have kept := sync_keeps_sns s.collector player proto (get_player_held found) _ held
    dsimp only at absent
    rw [sn] at absent
    rw [absent] at kept
    cases kept

theorem sync_issues (s after : Proxy Proto) (identify : NetIdentify) (player : Player Proto)
    (proto : Proto) (found : getPlayer s identify = some player)
    (done : handleS2GSyncPlayer s player proto = some after) (m : Teleport Proto)
    (sent : .teleport m ∈ after.sent) :
    .teleport m ∈ s.sent ∨ (getPlayerBySn s.collector m.playerSn).isSome := by
  obtain ⟨new, appended, teleports⟩ := (broadcast_sync_advances done).teleports
  rw [appended, List.mem_append, List.mem_map] at sent
  rcases sent with older | ⟨issued, member, same⟩
  · exact Or.inl older
  · right
    cases same
    obtain ⟨socket, holder, here, sn⟩ := (get_by_sn_is_some _ _).mp (issued_present (teleports m member))
    dsimp only at here
    rw [get_by_socket_set] at here
    split at here
    · cases here
      exact (get_by_sn_is_some _ _).mpr ⟨_, player, get_player_held found, sn⟩
    · exact (get_by_sn_is_some _ _).mpr ⟨socket, holder, here, sn⟩

theorem step_issues (world : Int → Option WorldType) (s : Proxy Proto) (event : Event Proto)
    (after : Proxy Proto) (m : Teleport Proto) (step : proxyStep world s event after)
    (sent : .teleport m ∈ after.sent) :
    .teleport m ∈ s.sent ∨ (getPlayerBySn s.collector m.playerSn).isSome := by
  obtain ⟨-, taken⟩ := step
  cases event with
  | enterWorld identify worldId located space =>
      obtain ⟨player, -, rfl⟩ := taken
      left
      unfold handleC2GEnterWorld at sent
      split at sent
      · exact sent
      · split at sent
        · exact sent
        · obtain ⟨-, -, -, -, -, -, -, new, appended, asked⟩ :=
            create_teleport_object_fields _ located space s worldId player
          rw [appended, List.mem_append] at sent
          rcases sent with older | newer
          · exact older
          · have quiet := asked _ newer
            simp [asks] at quiet
  | syncPlayer identify proto =>
      obtain ⟨player, found, done⟩ := taken
      exact sync_issues s after identify player proto found done m sent
  | broadcast worldId worldSn =>
      obtain ⟨fuel, done⟩ := taken
      obtain ⟨new, appended, teleports⟩ := (broadcast_advances done).teleports
      rw [appended, List.mem_append, List.mem_map] at sent
      rcases sent with older | ⟨issued, member, same⟩
      · exact Or.inl older
      · cases same
        exact Or.inr (issued_present (teleports m member))
  | teleport message =>
      cases taken
      left
      unfold handleTeleport at sent
      split at sent
      · exact sent
      · simpa [send] using sent
  | teleportAfter identify playerSn =>
      obtain ⟨player, -, rfl⟩ := taken
      left
      simpa [handleTeleportAfter, send] using sent
  | disconnect identify =>
      cases taken
      left
      unfold handleNetworkDisconnect at sent
      split at sent
      · exact sent
      · split at sent
        · split at sent
          · exact sent
          · simpa [send] using sent
        · split at sent
          · exact sent
          · split at sent
            · exact sent
            · simpa [removeAllPlayerAndCloseConnect] using sent
  | dispose =>
      obtain ⟨-, rfl⟩ := taken
      exact Or.inl sent

theorem presence_of_present (world : Int → Option WorldType) (s : Proxy Proto) (keyed : Keyed s)
    (present : Present s) : PresenceLaw world s := by
  constructor
  · exact present
  · intro worldId worldSn fuel known
    exact broadcast_returns world s worldId worldSn fuel keyed present known
  · exact sync_returns s
  · intro event after m step sent
    exact step_issues world s event after m step sent
  · intro player absent
    cases held : s.objects[player.playerSn]? with
    | none => simp [isTeleporting, held]
    | some obj =>
        have here := present _ obj held
        rw [absent] at here
        cases here

theorem present_create (sn : UInt64) : Present (create sn : Proxy Proto) := by
  intro key obj held
  simp [create] at held

/-- Along a run every object has its player exactly when no player leaves while
teleporting, and then no check meets a missing player. -/
theorem objects_have_players_iff (world : Int → Option WorldType) (sn : UInt64)
    (trace : List (Event Proto)) (s : Proxy Proto) :
    (Run (Guarded (proxyStep world) Keeps) (create sn) trace s ↔
      Run (Along (proxyStep world) Present) (create sn) trace s) ∧
    (Run (Guarded (proxyStep world) Keeps) (create sn) trace s → PresenceLaw world s) := by
  refine ⟨guarded_iff_along Keyed (keyed_step world)
    (fun before event after _ => keeps_decides world before event after)
    (keyed_create sn) (present_create sn), ?_⟩
  intro run
  refine presence_of_present world s (keyed_run world sn trace s (guarded_run run)) ?_
  exact run_invariant Present
    (fun before event after present step =>
      (keeps_decides world before event after present step.1).mp step.2)
    run (present_create sn)

/-! A player arrives on socket 3 and asks for the public world 2. -/

def arrival : Teleport Unit := ⟨1, [97], 7, (), ⟨3, .tcpListen⟩, 100⟩

def client : NetIdentify := ⟨⟨3, .tcpListen⟩, addTagStr clear .account [97]⟩

def worlds (worldId : Int) : Option WorldType :=
  if worldId = 2 then some .publicWorld else if worldId = 5 then some .dungeon else none

def arrived : Proxy Unit := handleTeleport (WorldProxy.create 100) arrival

def clientPlayer : Player Unit := ⟨[97], ⟨3, .tcpListen⟩, 7, ()⟩

def entering : Proxy Unit := handleC2GEnterWorld worlds invalidId none arrived clientPlayer 2

theorem client_found : getPlayer arrived client = some clientPlayer := by
  rfl

theorem entering_run : Run (proxyStep worlds) (WorldProxy.create 100)
    [.teleport arrival, .enterWorld client 2 invalidId none] entering :=
  Run.next ⟨rfl, rfl⟩ (Run.next ⟨rfl, clientPlayer, client_found, rfl⟩ (Run.refl _))

theorem entering_object : entering.objects[(7 : UInt64)]? =
    some ⟨⟨.waiting, 0⟩, ⟨.waiting, false⟩, 2, 7⟩ := by
  rfl

theorem keeps_without_objects (s : Proxy Unit) (event : Event Unit) (none : s.objects = ∅) :
    Keeps s event := by
  intro key obj held
  rw [none] at held
  simp at held

theorem objects_have_players_entering : PresenceLaw worlds entering :=
  (objects_have_players_iff worlds 100 [.teleport arrival, .enterWorld client 2 invalidId none]
    entering).2
    (Run.next ⟨⟨rfl, rfl⟩, keeps_without_objects _ _ rfl⟩
      (Run.next ⟨⟨rfl, clientPlayer, client_found, rfl⟩, keeps_without_objects _ _ rfl⟩ (Run.refl _)))

/-- The client disconnects and its object stays behind. -/
theorem disconnect_orphans_object :
    ¬ ∀ (world : Int → Option WorldType) (sn : UInt64) (trace : List (Event Unit)) (s : Proxy Unit),
      Run (proxyStep world) (WorldProxy.create sn) trace s → PresenceLaw world s := by
  intro law
  have left : proxyStep worlds entering (.disconnect client)
      (handleNetworkDisconnect entering client) := ⟨rfl, rfl⟩
  have present := (law worlds 100 _ _ (run_snoc entering_run left)).present 7 ⟨⟨.waiting, 0⟩, ⟨.waiting, false⟩, 2, 7⟩
    entering_object
  exact absurd present (by decide)

end GameBook.TeleportPresence
