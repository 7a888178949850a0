import GameBook.GameProcess

/-!
What reading a packet does to the players of the lobby and of a world proxy,
and which teleports it dispatches: the rules of a holder of the hub.
-/

namespace GameBook.HeldSessions

open OrderedMap SocketObject CString PlayerCollector Handover GameProcess
open WorldProxy (Proxy Teleport)
open Lobby (LobbyState Locator PlayerProto Resources LobbyPlayer)

variable {Components : Type}

theorem slots_of_some {c : Collector Components} {socket : Int} {player : Player Components}
    (held : getPlayerBySocket c socket = some player) :
    slotsOf c socket = some ⟨player.account, player.playerSn⟩ := by
  rw [slotsOf, held]
  rfl

theorem slots_of_none {c : Collector Components} {socket : Int}
    (free : getPlayerBySocket c socket = none) : slotsOf c socket = none := by
  rw [slotsOf, free]
  rfl

theorem slot_player {c : Collector Components} {socket : Int} {slot : Slot Str UInt64}
    (held : slotsOf c socket = some slot) :
    ∃ player, getPlayerBySocket c socket = some player ∧ slot = ⟨player.account, player.playerSn⟩ := by
  obtain ⟨player, stored, same⟩ := Option.map_eq_some_iff.mp held
  exact ⟨player, stored, same.symm⟩

theorem slots_of_players {c other : Collector Components} (same : other.players = c.players) :
    slotsOf other = slotsOf c := by
  funext socket
  rw [slotsOf, slotsOf, getPlayerBySocket, getPlayerBySocket, same]

theorem slots_set (c : Collector Components) (player : Player Components) :
    slotsOf (setPlayer c player) = Function.update (slotsOf c) player.socketKey.socket
      (some ⟨player.account, player.playerSn⟩) := by
  funext socket
  rw [slotsOf, get_by_socket_set, Function.update_apply]
  split <;> rfl

theorem slots_remove (c : Collector Components) (socket : Int) :
    slotsOf (removePlayerBySocket c socket) = Function.update (slotsOf c) socket none := by
  funext other
  rw [slotsOf, get_by_socket_remove, Function.update_apply]
  split <;> rfl

theorem slots_add {c added : Collector Components} {socketKey : SocketKey} {account : Str}
    {components : Components} {player : Player Components}
    (done : addPlayer c socketKey account components = some (player, added)) :
    slotsOf c socketKey.socket = none ∧
      slotsOf added = Function.update (slotsOf c) socketKey.socket (some ⟨account, 0⟩) := by
  obtain ⟨free, rfl, sockets⟩ := add_player_some done
  refine ⟨slots_of_none free, ?_⟩
  funext socket
  rw [slotsOf, sockets, Function.update_apply]
  split <;> rfl

theorem slots_without_sn {c : Collector Components} {playerSn : UInt64}
    (absent : getPlayerBySn c playerSn = none) (socket : Int) (slot : Slot Str UInt64)
    (held : slotsOf c socket = some slot) : slot.sn ≠ playerSn := by
  rintro rfl
  obtain ⟨player, stored, rfl⟩ := slot_player held
  have found := (get_by_sn_is_some c player.playerSn).mpr ⟨socket, player, stored, rfl⟩
  rw [absent] at found
  cases found

/-! What a packet's note is. -/

def owns (owner : UInt64 → Option Str) (sn : UInt64) (account : Str) : Prop :=
  sn ≠ 0 ∧ owner sn = some account

/-- The packets the process puts on its log name the receivers they mean. -/
def Routed (owner : UInt64 → Option Str) : Packet → Prop
  | .teleport message => message.targetWorldSn ≠ 0 ∧ message.lastWorldSn ≠ 0
  | .teleportAfter _ lastWorldSn => lastWorldSn ≠ 0
  | .networkDisconnect identify => (identify.tagKey .account).isSome →
      identify.tagKey .entity = none ∧ identify.socketKey.netType = .tcpListen
  | .queryPlayerRs account proto => proto.sn ≠ 0 → owner proto.sn = some account
  | _ => True

theorem addressed_teleport {message : Teleport PlayerProto} {sn : UInt64}
    (nonzero : message.targetWorldSn ≠ 0) :
    addressed (identifyOf (.teleport message)) sn = true ↔ message.targetWorldSn = sn := by
  simp [addressed, identifyOf, addTagInt, nonzero]

theorem addressed_after {playerSn lastWorldSn sn : UInt64} (nonzero : lastWorldSn ≠ 0) :
    addressed (identifyOf (.teleportAfter playerSn lastWorldSn)) sn = true ↔ lastWorldSn = sn := by
  simp [addressed, identifyOf, addTagInt, nonzero]

theorem addressed_all {identify : NetIdentify} (sn : UInt64)
    (absent : identify.tagKey .entity = none) : addressed identify sn = true := by
  simp [addressed, absent]

/-! The lobby. -/

def Sends (s : LobbyState) (new : List Lobby.Sent) : Prop :=
  ∀ message, .teleport message ∈ new → message.lastWorldSn = s.sn ∧
    ∃ player, getPlayerBySocket s.collector message.socketKey.socket = some player ∧
      message.account = cStr player.account ∧ message.playerSn = player.playerSn

structure Enters (s t : LobbyState) : Prop where
  sn : t.sn = s.sn
  collector : t.collector = s.collector
  sent : ∃ new, t.sent = s.sent ++ new ∧ Sends s new

theorem enters_refl (s : LobbyState) : Enters s s := ⟨rfl, rfl, [], by simp, by simp [Sends]⟩

theorem enters_trans {s t u : LobbyState} (first : Enters s t) (second : Enters t u) : Enters s u := by
  refine ⟨second.sn.trans first.sn, second.collector.trans first.collector, ?_⟩
  obtain ⟨early, sentEarly, sendsEarly⟩ := first.sent
  obtain ⟨late, sentLate, sendsLate⟩ := second.sent
  refine ⟨early ++ late, by rw [sentLate, sentEarly, List.append_assoc], ?_⟩
  intro message member
  rcases List.mem_append.mp member with here | there
  · exact sendsEarly message here
  · rw [← first.sn, ← first.collector]
    exact sendsLate message there

theorem enters_quietly {s t : LobbyState} (sn : t.sn = s.sn) (collector : t.collector = s.collector)
    (new : List Lobby.Sent) (sent : t.sent = s.sent ++ new) (quiet : ∀ message, .teleport message ∉ new) :
    Enters s t :=
  ⟨sn, collector, new, sent, fun message member => absurd member (quiet message)⟩

theorem enters_teleport (s : LobbyState) (player : LobbyPlayer) (targetWorldSn : UInt64)
    (held : getPlayerBySocket s.collector player.socketKey.socket = some player) :
    Enters s (Lobby.teleport s player targetWorldSn) := by
  refine ⟨rfl, rfl, _, rfl, ?_⟩
  intro message member
  cases List.mem_singleton.mp member
  exact ⟨rfl, player, held, rfl, rfl⟩

theorem enters_public (locator : Locator) (s after : LobbyState) (player : LobbyPlayer)
    (held : getPlayerBySocket s.collector player.socketKey.socket = some player)
    (done : Lobby.enterPublicWorld locator s player = some after) : Enters s after := by
  unfold Lobby.enterPublicWorld at done
  split at done
  · cases done
  · rename_i lastMap _
    dsimp only at done
    split at done
    · cases done
      exact enters_teleport s player _ held
    · cases done
      by_cases first : (s.waitingForWorld[lastMap.publicMap.worldId]?.getD ∅).isEmpty = true
      · rw [if_pos first]
        exact enters_quietly rfl rfl [.requestWorld lastMap.publicMap.worldId] rfl (by simp)
      · rw [if_neg first]
        exact enters_quietly rfl rfl [] (by simp) (by simp)

theorem enters_dungeon (locator : Locator) (s : LobbyState) (player : LobbyPlayer) (worldSn : UInt64)
    (held : getPlayerBySocket s.collector player.socketKey.socket = some player) :
    Enters s (Lobby.enterDungeon locator s player worldSn) := by
  unfold Lobby.enterDungeon
  split
  · exact enters_teleport s player worldSn held
  · by_cases first : (s.waitingForDungeon[worldSn]?.getD ∅).isEmpty = true
    · simp only [first, if_true]
      exact enters_quietly rfl rfl [.queryWorld worldSn s.sn] rfl (by simp)
    · simp only [first]
      exact enters_quietly rfl rfl [] (by simp) (by simp)

theorem enters_each (locator : Locator) (players : List UInt64) (s after : LobbyState)
    (done : Lobby.enterEach locator players s = some after) : Enters s after := by
  induction players generalizing s with
  | nil =>
      cases done
      exact enters_refl after
  | cons sn rest ih =>
      unfold Lobby.enterEach at done
      split at done
      · exact ih s done
      · rename_i player found
        obtain ⟨entered, one, others⟩ := Option.bind_eq_some_iff.mp done
        exact enters_trans (enters_public locator s entered player (get_by_sn_some found).1 one)
          (ih entered others)

theorem enters_teleport_each (targetWorldSn : UInt64) (players : List UInt64) (s : LobbyState) :
    Enters s (Lobby.teleportEach targetWorldSn players s) := by
  induction players generalizing s with
  | nil => exact enters_refl s
  | cons sn rest ih =>
      unfold Lobby.teleportEach
      split
      · exact ih s
      · rename_i player found
        exact enters_trans (enters_teleport s player targetWorldSn (get_by_sn_some found).1) (ih _)

theorem enters_query_world (locator : Locator) (s after : LobbyState) (worldSn : UInt64) (ok : Bool)
    (done : Lobby.handleQueryWorldRs locator s worldSn ok = some after) : Enters s after := by
  unfold Lobby.handleQueryWorldRs at done
  split at done
  · cases done
    exact enters_refl s
  · split at done
    · cases done
      exact enters_refl s
    · obtain ⟨entered, each, rfl⟩ := Option.map_eq_some_iff.mp done
      exact enters_trans (enters_each locator _ s entered each)
        (enters_quietly rfl rfl [] (by simp) (by simp))

theorem enters_broadcast (resources : Resources) (s : LobbyState) (worldId : Int) (worldSn : UInt64) :
    Enters s (Lobby.handleBroadcastCreateWorldProxy resources s worldId worldSn) := by
  unfold Lobby.handleBroadcastCreateWorldProxy
  split
  · exact enters_refl s
  · split
    · exact enters_refl s
    · exact enters_trans (enters_teleport_each worldSn _ s)
        (enters_quietly rfl rfl [] (by simp) (by simp))
  · split
    · exact enters_refl s
    · exact enters_trans (enters_teleport_each worldSn _ s)
        (enters_quietly rfl rfl [] (by simp) (by simp))

/-- A player the database has not answered for has no SN yet. -/
def Bare (s : LobbyState) : Prop :=
  ∀ socket player, getPlayerBySocket s.collector socket = some player →
    player.components.lastMap = none → player.playerSn = 0

/-- A message that brings no player, lets none go and hands none over: a player
may get its SN, and teleports are of players that are there afterwards. -/
structure Attends (owner : UInt64 → Option Str) (before after : LobbyState) : Prop where
  sn : after.sn = before.sn
  evolves : Evolves 0 (owns owner) (slotsOf before.collector) (slotsOf after.collector)
  bare : Bare before → Bare after
  sent : ∃ new, after.sent = before.sent ++ new ∧ Sends after new

theorem attends_of_enters (owner : UInt64 → Option Str) {before after : LobbyState}
    (enters : Enters before after) : Attends owner before after := by
  obtain ⟨new, sent, sends⟩ := enters.sent
  refine ⟨enters.sn, ?_, ?_, new, sent, ?_⟩
  · rw [enters.collector]
    exact evolves_refl _
  · intro bare
    rw [Bare, enters.collector]
    exact bare
  · rw [Sends, enters.sn, enters.collector]
    exact sends

theorem attends_collector (owner : UInt64 → Option Str) (s : LobbyState)
    (collector : Collector Lobby.LoginComponents) (same : collector.players = s.collector.players)
    (new : List Lobby.Sent) (quiet : ∀ message, .teleport message ∉ new) :
    Attends owner s { s with collector := collector, sent := s.sent ++ new } := by
  refine ⟨rfl, ?_, ?_, new, rfl, fun message member => absurd member (quiet message)⟩
  · rw [slots_of_players same]
    exact evolves_refl _
  · intro bare socket player held
    rw [getPlayerBySocket, same] at held
    exact bare socket player held

theorem attends_query_player (owner : UInt64 → Option Str) (resources : Resources) (locator : Locator)
    (s after : LobbyState) (account : Str) (proto : PlayerProto) (accounts : AccountsHeld s.collector)
    (bare : Bare s) (owned : proto.sn ≠ 0 → owner proto.sn = some account)
    (done : Lobby.handleQueryPlayerRs resources locator s account proto = some after) :
    Attends owner s after := by
  have players := get_by_account_players s.collector account
  have stored : ∀ player, (getPlayerByAccount s.collector account).1 = some player →
      getPlayerBySocket s.collector player.socketKey.socket = some player :=
    fun _ => get_by_account_stored
  have named := fun player => get_by_account_named s.collector account player accounts
  unfold Lobby.handleQueryPlayerRs at done
  split at done
  · rename_i collector found
    rw [found] at players
    cases done
    have attends := attends_collector owner s collector players [] (by simp)
    rw [List.append_nil] at attends
    exact attends
  · rename_i player collector found
    rw [found] at players stored named
    split at done
    · cases done
    · rename_i unanswered
      have own : getPlayerBySocket s.collector player.socketKey.socket = some player := stored player rfl
      let lastMap := Lobby.parseLastMap resources proto
      let parsed : LobbyPlayer := { player with
        playerSn := proto.sn
        components := { player.components with proto := proto, lastMap := some lastMap } }
      let answered := Lobby.send { s with collector := setPlayer collector parsed }
        (.syncPlayer player proto)
      have slots : slotsOf answered.collector = Function.update (slotsOf s.collector)
          player.socketKey.socket (some ⟨player.account, proto.sn⟩) := by
        change slotsOf (setPlayer collector parsed) = _
        rw [slots_set, slots_of_players players]
      have begun : Attends owner s answered := by
        refine ⟨rfl, ?_, ?_, [.syncPlayer player proto], rfl, by simp [Sends]⟩
        · intro socket slot here
          rw [slots, Function.update_apply] at here
          split at here
          · rename_i same
            cases here
            refine ⟨⟨player.account, player.playerSn⟩, by rw [same, slots_of_some own], rfl, ?_⟩
            -- The player had no SN before; the one it gets is its account's.
            have bareSn := bare _ player own unanswered
            by_cases zero : proto.sn = 0
            · exact Or.inl (bareSn.trans zero.symm)
            · exact Or.inr ⟨bareSn, zero, by rw [owned zero, named player rfl]⟩
          · exact ⟨slot, here, rfl, Or.inl rfl⟩
        · intro _ socket other held unansweredToo
          change getPlayerBySocket (setPlayer collector parsed) socket = some other at held
          rw [get_by_socket_set] at held
          split at held
          · cases held
            cases unansweredToo
          · rw [getPlayerBySocket, players] at held
            exact bare socket other held unansweredToo
      have here : getPlayerBySocket answered.collector parsed.socketKey.socket = some parsed := by
        change getPlayerBySocket (setPlayer collector parsed) _ = _
        rw [get_by_socket_set, if_pos rfl]
      have entering : Enters answered after := by
        dsimp only at done
        split at done
        · cases done
          exact enters_dungeon locator answered parsed _ here
        · exact enters_public locator answered after parsed here done
      have rest := attends_of_enters owner entering
      obtain ⟨early, sentEarly, -⟩ := begun.sent
      obtain ⟨late, sentLate, sendsLate⟩ := rest.sent
      have quiet : early = [.syncPlayer player proto] := by
        have twice : s.sent ++ [.syncPlayer player proto] = s.sent ++ early := sentEarly
        exact (List.append_cancel_left twice).symm
      refine ⟨rest.sn.trans begun.sn, ?_, fun _ => rest.bare (begun.bare bare), early ++ late,
        by rw [sentLate, sentEarly, List.append_assoc], ?_⟩
      · rw [entering.collector]
        exact begun.evolves
      · intro message member
        rcases List.mem_append.mp member with first | second
        · rw [quiet] at first
          cases List.mem_singleton.mp first
        · exact sendsLate message second

/-! The lobby reads a packet. -/

def Named (slots : Int → Option (Slot Str UInt64)) (sn : UInt64) (packets : List Packet) : Prop :=
  ∀ message, .teleport message ∈ packets → message.lastWorldSn = sn →
    message.playerSn ≠ 0 ∧ message.targetWorldSn ≠ 0 ∧
      ∀ slot, slots message.socketKey.socket = some slot → slot.account = message.account

theorem handled_hops {owner : UInt64 → Option Str} {entry sn : UInt64}
    {before after : Int → Option (Slot Str UInt64)} {packets : List Packet}
    (evolves : Evolves 0 (owns owner) before after) (named : Named before sn packets)
    (sends : ∀ packet ∈ packets, noteOf entry packet = .other ∨ ∃ message, packet = .teleport message ∧
      message.lastWorldSn = sn ∧
      ∃ account, after message.socketKey.socket = some ⟨account, message.playerSn⟩) :
    Handled 0 (owns owner) entry sn .other before after (packets.map (noteOf entry)) := by
  refine ⟨evolves, ?_⟩
  intro note member
  obtain ⟨packet, dispatched, rfl⟩ := List.mem_map.mp member
  rcases sends packet dispatched with quiet | ⟨message, rfl, source, account, stored⟩
  · exact Or.inl quiet
  · right
    obtain ⟨playerSn, -, accounts⟩ := named message dispatched source
    obtain ⟨old, held, same, -⟩ := evolves _ _ stored
    refine ⟨_, rfl, source, ?_, fun _ => playerSn⟩
    rw [stored, ← accounts old held, same]

theorem lobby_dispatches {before after : LobbyState} {new : List Lobby.Sent}
    (sent : after.sent = before.sent ++ new) :
    lobbyDispatches before after = new.filterMap lobbyPacket := by
  rw [lobbyDispatches, sent, List.drop_left]

theorem lobby_packet_cases {message : Lobby.Sent} {packet : Packet}
    (made : lobbyPacket message = some packet) :
    (∃ teleport, message = .teleport teleport ∧ packet = .teleport teleport) ∨
      ∀ owner entry, noteOf entry packet = .other ∧ Routed owner packet := by
  cases message with
  | teleport teleport =>
      cases made
      exact Or.inl ⟨teleport, rfl, rfl⟩
  | listenKey socketKey account =>
      cases made
      exact Or.inr fun _ _ => ⟨rfl, trivial⟩
  | requestDisconnect identify =>
      cases made
      exact Or.inr fun _ _ => ⟨rfl, trivial⟩
  | _ => cases made

theorem lobby_quiet {before after : LobbyState} {new : List Lobby.Sent} (owner : UInt64 → Option Str)
    (entry : UInt64) (sent : after.sent = before.sent ++ new)
    (quiet : ∀ message, .teleport message ∉ new) :
    Handover.Quiet ((lobbyDispatches before after).map (noteOf entry)) ∧
      ∀ packet ∈ lobbyDispatches before after, Routed owner packet := by
  have silent : ∀ packet ∈ lobbyDispatches before after,
      noteOf entry packet = .other ∧ Routed owner packet := by
    intro packet member
    rw [lobby_dispatches sent] at member
    obtain ⟨message, there, made⟩ := List.mem_filterMap.mp member
    rcases lobby_packet_cases made with ⟨teleport, rfl, -⟩ | quietly
    · exact absurd there (quiet teleport)
    · exact quietly owner entry
  refine ⟨?_, fun packet member => (silent packet member).2⟩
  intro note member
  obtain ⟨packet, dispatched, rfl⟩ := List.mem_map.mp member
  exact (silent packet dispatched).1

structure LobbyRead (owner : UInt64 → Option Str) (before : LobbyState) (packet : Packet)
    (after : LobbyState) : Prop where
  sn : after.sn = before.sn
  held : AccountsHeld after.collector
  bare : Bare after
  handled : Handled 0 (owns owner) before.sn before.sn (noteOf before.sn packet)
    (slotsOf before.collector) (slotsOf after.collector)
    ((lobbyDispatches before after).map (noteOf before.sn))
  routed : ∀ packet ∈ lobbyDispatches before after, Routed owner packet

theorem lobby_read_attends {owner : UInt64 → Option Str} {before after : LobbyState} {packet : Packet}
    (nonzero : before.sn ≠ 0) (held : AccountsHeld after.collector) (bare : Bare before)
    (quiet : noteOf before.sn packet = .other) (attends : Attends owner before after)
    (named : Named (slotsOf before.collector) before.sn (lobbyDispatches before after)) :
    LobbyRead owner before packet after := by
  obtain ⟨new, sent, sends⟩ := attends.sent
  have members : ∀ packet ∈ lobbyDispatches before after,
      (∃ message, .teleport message ∈ new ∧ packet = .teleport message) ∨
        ∀ owner entry, noteOf entry packet = .other ∧ Routed owner packet := by
    intro packet member
    rw [lobby_dispatches sent] at member
    obtain ⟨message, there, made⟩ := List.mem_filterMap.mp member
    rcases lobby_packet_cases made with ⟨teleport, rfl, same⟩ | quietly
    · exact Or.inl ⟨teleport, there, same⟩
    · exact Or.inr quietly
  refine ⟨attends.sn, held, attends.bare bare, ?_, ?_⟩
  · rw [quiet]
    refine handled_hops attends.evolves named ?_
    intro packet member
    rcases members packet member with ⟨message, there, rfl⟩ | quietly
    · obtain ⟨source, player, stored, -, playerSn⟩ := sends message there
      refine Or.inr ⟨message, rfl, source.trans attends.sn, player.account, ?_⟩
      rw [slots_of_some stored, playerSn]
    · exact Or.inl (quietly owner before.sn).1
  · intro packet member
    rcases members packet member with ⟨message, there, rfl⟩ | quietly
    · have source := (sends message there).1.trans attends.sn
      obtain ⟨-, target, -⟩ := named message member source
      exact ⟨target, by rw [source]; exact nonzero⟩
    · exact (quietly owner before.sn).2

theorem lobby_read_quietly {owner : UInt64 → Option Str} {before after : LobbyState} {packet : Packet}
    {new : List Lobby.Sent} (sn : after.sn = before.sn) (held : AccountsHeld after.collector)
    (bare : Bare after) (sent : after.sent = before.sent ++ new)
    (quiet : ∀ message, .teleport message ∉ new)
    (handled : Handover.Quiet ((lobbyDispatches before after).map (noteOf before.sn)) →
      Handled 0 (owns owner) before.sn before.sn (noteOf before.sn packet)
        (slotsOf before.collector) (slotsOf after.collector)
        ((lobbyDispatches before after).map (noteOf before.sn))) :
    LobbyRead owner before packet after := by
  obtain ⟨silent, routed⟩ := lobby_quiet owner before.sn sent quiet
  exact ⟨sn, held, bare, handled silent, routed⟩

theorem lobby_read_nothing {owner : UInt64 → Option Str} {s : LobbyState} {packet : Packet}
    (held : AccountsHeld s.collector) (bare : Bare s)
    (handled : Handled 0 (owns owner) s.sn s.sn (noteOf s.sn packet) (slotsOf s.collector)
      (slotsOf s.collector) []) : LobbyRead owner s packet s := by
  have nothing : lobbyDispatches s s = [] := by rw [lobbyDispatches, List.drop_length]; rfl
  refine ⟨rfl, held, bare, ?_, by simp [nothing]⟩
  rw [nothing]
  exact handled

theorem quiet_nil : Handover.Quiet ([] : List (Note UInt64 Int Str UInt64)) := by
  simp [Handover.Quiet]

theorem idle_other {owner : UInt64 → Option Str} {entry sn : UInt64}
    (slots : Int → Option (Slot Str UInt64)) : Handled 0 (owns owner) entry sn .other slots slots [] :=
  ⟨evolves_refl slots, by simp⟩

theorem bare_remove {s after : LobbyState} (socket : Int) (bare : Bare s)
    (removed : after.collector = removePlayerBySocket s.collector socket) : Bare after := by
  intro other player held unanswered
  rw [removed, get_by_socket_remove] at held
  split at held
  · cases held
  · exact bare other player held unanswered

theorem remove_by_socket_cases (s : LobbyState) (socket : Int) :
    (Lobby.removeBySocket s socket).sn = s.sn ∧
      (Lobby.removeBySocket s socket).collector = removePlayerBySocket s.collector socket ∧
      ∃ new, (Lobby.removeBySocket s socket).sent = s.sent ++ new ∧
        ∀ message, .teleport message ∉ new := by
  unfold Lobby.removeBySocket
  split
  · rename_i absent
    refine ⟨rfl, ?_, [], by simp, by simp⟩
    unfold removePlayerBySocket
    rw [getPlayerBySocket] at absent
    rw [absent]
  · exact ⟨rfl, rfl, _, rfl, by simp⟩

theorem lobby_read_login {owner : UInt64 → Option Str} (before : LobbyState) (identify : NetIdentify)
    (account token : Str) (held : AccountsHeld before.collector) (bare : Bare before)
    (here : addressed identify before.sn = true) :
    LobbyRead owner before (.loginByToken identify account token)
      (Lobby.handleLoginByToken before identify account token) := by
  rcases Lobby.login_cases before identify account token with
    ⟨busy, -, refused⟩ | ⟨player, added, accepted, begun⟩
  · rw [refused]
    refine lobby_read_quietly rfl held bare rfl (by simp) fun quiet => ?_
    simp only [noteOf, here, if_true]
    exact ⟨quiet, Or.inl rfl⟩
  · rw [begun]
    obtain ⟨free, slots⟩ := slots_add accepted
    obtain ⟨-, made, sockets⟩ := add_player_some accepted
    have sent : (Lobby.send (Lobby.send { before with collector := added }
        (.listenKey player.socketKey player.account)) (.gameTokenToRedis (cStr player.account))).sent =
        before.sent ++ [.listenKey player.socketKey player.account,
          .gameTokenToRedis (cStr player.account)] := by simp [Lobby.send]
    refine lobby_read_quietly rfl (accounts_held_add _ added _ account _ player held accepted) ?_ sent
      (by simp) fun quiet => ?_
    · intro socket other there unanswered
      have found := (sockets socket).symm.trans there
      split at found
      · cases found
        rw [made]
      · exact bare socket other found unanswered
    · simp only [noteOf, here, if_true]
      exact ⟨quiet, Or.inr ⟨rfl, free, slots⟩⟩

theorem lobby_read_token {owner : UInt64 → Option Str} (before : LobbyState) (account token : Str)
    (playerSn : UInt64) (held : AccountsHeld before.collector) (bare : Bare before) :
    LobbyRead owner before (.gameTokenToRedisRs account token playerSn)
      (Lobby.handleGameTokenToRedisRs before account token playerSn) := by
  have players := get_by_account_players before.collector account
  have accounts := accounts_held_get before.collector account held
  have kept : ∀ new : List Lobby.Sent, (∀ message, .teleport message ∉ new) →
      LobbyRead owner before (.gameTokenToRedisRs account token playerSn) { before with
        collector := (getPlayerByAccount before.collector account).2
        sent := before.sent ++ new } := by
    intro new quiet
    refine lobby_read_quietly rfl accounts ?_ rfl quiet fun silent => ?_
    · intro socket player there
      rw [getPlayerBySocket, players] at there
      exact bare socket player there
    · refine ⟨?_, fun note member => Or.inl (silent note member)⟩
      rw [slots_of_players players]
      exact evolves_refl _
  rcases Lobby.token_rs_cases before account token playerSn with ⟨-, done⟩ | ⟨player, -, done⟩
  · rw [done]
    have unsaid := kept [] (by simp)
    rw [List.append_nil] at unsaid
    exact unsaid
  · rw [done]
    refine kept _ ?_
    intro message
    split <;> simp

theorem lobby_read_after {owner : UInt64 → Option Str} (before after : LobbyState)
    (playerSn lastWorldSn : UInt64) (held : AccountsHeld before.collector) (bare : Bare before)
    (nonzero : lastWorldSn ≠ 0) (locator : Locator) (resources : Resources)
    (reads : lobbyReads resources locator before (.teleportAfter playerSn lastWorldSn) after) :
    LobbyRead owner before (.teleportAfter playerSn lastWorldSn) after := by
  have tags : Lobby.getPlayer before (identifyOf (.teleportAfter playerSn lastWorldSn)) =
      getPlayerBySn before.collector playerSn := by
    simp [Lobby.getPlayer, identifyOf, addTagInt]
  simp only [lobbyReads, lobbyEvent] at reads
  split at reads
  · rename_i here
    have source := (addressed_after nonzero).mp here.1
    obtain ⟨player, found, rfl⟩ := reads
    rw [tags] at found
    obtain ⟨own, sn⟩ := get_by_sn_some found
    obtain ⟨same, removed, new, sent, quiet⟩ := remove_by_socket_cases before player.socketKey.socket
    refine lobby_read_quietly same ?_ (bare_remove _ bare removed) sent quiet fun silent => ?_
    · change AccountsHeld (Lobby.removeBySocket before player.socketKey.socket).collector
      rw [removed]
      exact accounts_held_remove_by_socket _ _ held
    · refine ⟨silent, Or.inr (Or.inr ⟨player.socketKey.socket, ⟨player.account, player.playerSn⟩, source,
        slots_of_some own, sn, ?_⟩)⟩
      change slotsOf (Lobby.removeBySocket before player.socketKey.socket).collector = _
      rw [removed, slots_remove]
  · rename_i elsewhere
    rw [reads]
    refine lobby_read_nothing held bare ⟨quiet_nil, ?_⟩
    by_cases source : lastWorldSn = before.sn
    · -- The packet is for the lobby, so it was filtered: nobody has the SN.
      right
      left
      have absent : getPlayerBySn before.collector playerSn = none := by
        cases found : getPlayerBySn before.collector playerSn with
        | none => rfl
        | some player =>
            exfalso
            apply elsewhere
            refine ⟨(addressed_after nonzero).mpr source, ?_⟩
            simp [lobbyFilters, tags, found]
      exact ⟨slots_without_sn absent, rfl⟩
    · exact Or.inl ⟨source, rfl⟩

theorem lobby_read_disconnect {owner : UInt64 → Option Str} (before after : LobbyState)
    (identify : NetIdentify) (held : AccountsHeld before.collector) (bare : Bare before)
    (routed : Routed owner (.networkDisconnect identify)) (locator : Locator) (resources : Resources)
    (reads : lobbyReads resources locator before (.networkDisconnect identify) after) :
    LobbyRead owner before (.networkDisconnect identify) after := by
  simp only [lobbyReads, lobbyEvent, Lobby.lobbyStep, lobbyFilters] at reads
  cases tagged : identify.tagKey .account with
  | none =>
      have same : after = before := by
        split at reads
        · rw [reads, Lobby.handleNetworkDisconnect, tagged]
        · exact reads
      rw [same]
      refine lobby_read_nothing held bare ?_
      simp only [noteOf, tagged]
      exact ⟨quiet_nil, fun _ _ stored => stored, by simp⟩
  | some account =>
      obtain ⟨unrouted, -⟩ := routed (by rw [tagged]; rfl)
      rw [if_pos ⟨addressed_all before.sn unrouted, trivial⟩] at reads
      have done : after = Lobby.removeBySocket before identify.socketKey.socket := by
        rw [reads, Lobby.handleNetworkDisconnect, tagged]
      obtain ⟨same, removed, new, sent, quiet⟩ := remove_by_socket_cases before identify.socketKey.socket
      rw [done]
      refine lobby_read_quietly same ?_ (bare_remove _ bare removed) sent quiet fun silent => ?_
      · rw [removed]
        exact accounts_held_remove_by_socket _ _ held
      · simp only [noteOf, tagged]
        rw [removed, slots_remove]
        refine ⟨silent, ?_, fun _ => Function.update_self _ _ _⟩
        intro socket slot stored
        rw [Function.update_apply] at stored
        split at stored
        · cases stored
        · exact stored

theorem lobby_read {owner : UInt64 → Option Str} (resources : Resources) (locator : Locator)
    (before after : LobbyState) (packet : Packet) (nonzero : before.sn ≠ 0)
    (held : AccountsHeld before.collector) (bare : Bare before) (routed : Routed owner packet)
    (reads : lobbyReads resources locator before packet after)
    (named : Named (slotsOf before.collector) before.sn (lobbyDispatches before after)) :
    LobbyRead owner before packet after := by
  have attending : noteOf before.sn packet = .other → AccountsHeld after.collector →
      Attends owner before after → LobbyRead owner before packet after :=
    fun quiet accounts attends => lobby_read_attends nonzero accounts bare quiet attends named
  cases packet with
  | loginByToken identify account token =>
      simp only [lobbyReads, lobbyEvent, lobbyFilters, identifyOf] at reads
      by_cases here : addressed identify before.sn = true
      · rw [if_pos ⟨here, trivial⟩] at reads
        rw [Lobby.lobbyStep] at reads
        rw [reads]
        exact lobby_read_login before identify account token held bare here
      · rw [if_neg fun both => here both.1] at reads
        rw [reads]
        refine lobby_read_nothing held bare ?_
        simp only [noteOf, here]
        exact idle_other _
  | gameTokenToRedisRs account token playerSn =>
      rw [lobbyReads] at reads
      rw [reads]
      exact lobby_read_token before account token playerSn held bare
  | queryPlayerRs account proto =>
      simp only [lobbyReads, lobbyEvent, lobbyFilters] at reads
      rw [if_pos ⟨addressed_all before.sn rfl, trivial⟩] at reads
      have done : Lobby.handleQueryPlayerRs resources locator before account proto = some after := reads
      exact attending rfl
        ((Lobby.unrelated_query_player resources locator before after account proto done).held held)
        (attends_query_player owner resources locator before after account proto held bare routed done)
  | queryWorldRs worldSn ok =>
      simp only [lobbyReads, lobbyEvent, lobbyFilters] at reads
      rw [if_pos ⟨addressed_all before.sn rfl, trivial⟩] at reads
      have done : Lobby.handleQueryWorldRs locator before worldSn ok = some after := reads
      have enters := enters_query_world locator before after worldSn ok done
      exact attending rfl (by rw [enters.collector]; exact held) (attends_of_enters owner enters)
  | broadcastCreateWorldProxy worldId worldSn lastWorldSn =>
      simp only [lobbyReads, lobbyEvent, lobbyFilters] at reads
      split at reads
      · rw [Lobby.lobbyStep] at reads
        have enters : Enters before after := by
          rw [reads]
          exact enters_broadcast resources before worldId worldSn
        exact attending rfl (by rw [enters.collector]; exact held) (attends_of_enters owner enters)
      · rw [reads]
        exact lobby_read_nothing held bare (idle_other _)
  | teleportAfter playerSn lastWorldSn =>
      exact lobby_read_after before after playerSn lastWorldSn held bare routed locator resources reads
  | networkDisconnect identify =>
      exact lobby_read_disconnect before after identify held bare routed locator resources reads
  | teleport message =>
      simp only [lobbyReads, lobbyEvent] at reads
      rw [reads]
      exact lobby_read_nothing held bare (Or.inl ⟨rfl, quiet_nil⟩)
  | enterWorld identify worldId =>
      simp only [lobbyReads, lobbyEvent] at reads
      rw [reads]
      exact lobby_read_nothing held bare (idle_other _)
  | networkListenKey socketKey account =>
      simp only [lobbyReads, lobbyEvent] at reads
      rw [reads]
      exact lobby_read_nothing held bare (idle_other _)
  | networkRequestDisconnect identify =>
      simp only [lobbyReads, lobbyEvent] at reads
      rw [reads]
      exact lobby_read_nothing held bare (idle_other _)
  | syncPlayer identify proto =>
      simp only [lobbyReads, lobbyEvent] at reads
      rw [reads]
      exact lobby_read_nothing held bare (idle_other _)

/-! A world proxy reads a packet. -/

theorem proxy_dispatches {before after : Proxy PlayerProto} {new : List (WorldProxy.Sent PlayerProto)}
    (sent : after.sent = before.sent ++ new) :
    proxyDispatches before after = new.filterMap proxyPacket := by
  rw [proxyDispatches, sent, List.drop_left]

def travels : WorldProxy.Sent PlayerProto → Bool
  | .teleport _ => true
  | .teleportAfter _ _ => true
  | _ => false

theorem proxy_packet_quiet {message : WorldProxy.Sent PlayerProto} {packet : Packet}
    (made : proxyPacket message = some packet) (stays : travels message = false)
    (owner : UInt64 → Option Str) (entry : UInt64) :
    noteOf entry packet = .other ∧ Routed owner packet := by
  cases message with
  | teleport teleport => cases stays
  | teleportAfter playerSn lastWorldSn => cases stays
  | listenKey socketKey account =>
      cases made
      exact ⟨rfl, trivial⟩
  | requestDisconnect socketKey account =>
      cases made
      exact ⟨rfl, trivial⟩
  | _ => cases made

structure ProxyRead (owner : UInt64 → Option Str) (entry : UInt64) (before : Proxy PlayerProto)
    (packet : Packet) (after : Proxy PlayerProto) : Prop where
  sn : after.sn = before.sn
  handled : Handled 0 (owns owner) entry before.sn (noteOf entry packet)
    (slotsOf before.collector) (slotsOf after.collector)
    ((proxyDispatches before after).map (noteOf entry))
  routed : ∀ packet ∈ proxyDispatches before after, Routed owner packet

section Proxies

variable {owner : UInt64 → Option Str} {entry : UInt64} {before after : Proxy PlayerProto} {packet : Packet}

theorem proxy_read_quietly {new : List (WorldProxy.Sent PlayerProto)} (sn : after.sn = before.sn)
    (sent : after.sent = before.sent ++ new) (stays : ∀ message ∈ new, travels message = false)
    (handled : Handover.Quiet ((proxyDispatches before after).map (noteOf entry)) →
      Handled 0 (owns owner) entry before.sn (noteOf entry packet) (slotsOf before.collector)
        (slotsOf after.collector) ((proxyDispatches before after).map (noteOf entry))) :
    ProxyRead owner entry before packet after := by
  have silent : ∀ packet ∈ proxyDispatches before after,
      noteOf entry packet = .other ∧ Routed owner packet := by
    intro packet member
    rw [proxy_dispatches sent] at member
    obtain ⟨message, there, made⟩ := List.mem_filterMap.mp member
    exact proxy_packet_quiet made (stays message there) owner entry
  refine ⟨sn, handled ?_, fun packet member => (silent packet member).2⟩
  intro note member
  obtain ⟨packet, dispatched, rfl⟩ := List.mem_map.mp member
  exact (silent packet dispatched).1

theorem proxy_read_nothing (handled : Handled 0 (owns owner) entry before.sn (noteOf entry packet)
    (slotsOf before.collector) (slotsOf before.collector) []) :
    ProxyRead owner entry before packet before := by
  have nothing : proxyDispatches before before = [] := by rw [proxyDispatches, List.drop_length]; rfl
  refine ⟨rfl, ?_, by simp [nothing]⟩
  rw [nothing]
  exact handled

theorem proxy_read_advances (nonzero : before.sn ≠ 0) (quiet : noteOf entry packet = .other)
    (middle : Proxy PlayerProto) (sn : middle.sn = before.sn) (sent : middle.sent = before.sent)
    (slots : slotsOf middle.collector = slotsOf before.collector)
    (advances : WorldProxy.Advances middle after)
    (named : Named (slotsOf before.collector) before.sn (proxyDispatches before after)) :
    ProxyRead owner entry before packet after := by
  obtain ⟨new, appended, issued⟩ := advances.teleports
  rw [sent] at appended
  have members : ∀ packet ∈ proxyDispatches before after,
      ∃ message, packet = .teleport message ∧ message.lastWorldSn = before.sn ∧
        ∃ account, slotsOf after.collector message.socketKey.socket = some ⟨account, message.playerSn⟩ := by
    intro packet member
    rw [proxy_dispatches appended] at member
    obtain ⟨sent, there, made⟩ := List.mem_filterMap.mp member
    obtain ⟨message, teleported, rfl⟩ := List.mem_map.mp there
    cases made
    obtain ⟨player, targetWorldSn, found, -, same⟩ := issued message teleported
    obtain ⟨own, playerSn⟩ := get_by_sn_some found
    refine ⟨message, rfl, ?_, player.account, ?_⟩
    · rw [same]
      exact sn
    · rw [advances.collector, same]
      exact slots_of_some own
  refine ⟨advances.sn.trans sn, ?_, ?_⟩
  · rw [quiet]
    refine handled_hops ?_ named ?_
    · rw [advances.collector, slots]
      exact evolves_refl _
    · intro packet member
      exact Or.inr (members packet member)
  · intro packet member
    obtain ⟨message, rfl, source, -⟩ := members packet member
    obtain ⟨-, target, -⟩ := named message member source
    exact ⟨target, by rw [source]; exact nonzero⟩

theorem proxy_read_enter (world : Int → Option WorldProxy.WorldType) (located : UInt64)
    (space : Option UInt64) (player : Player PlayerProto) (worldId : Int)
    (quiet : noteOf entry packet = .other) :
    ProxyRead owner entry before packet
      (WorldProxy.handleC2GEnterWorld world located space before player worldId) := by
  unfold WorldProxy.handleC2GEnterWorld
  split
  · refine proxy_read_nothing ?_
    rw [quiet]
    exact idle_other _
  · split
    · refine proxy_read_nothing ?_
      rw [quiet]
      exact idle_other _
    · obtain ⟨-, -, -, -, -, sn, collector, new, sent, asked⟩ :=
        WorldProxy.create_teleport_object_fields _ located space before worldId player
      refine proxy_read_quietly sn sent ?_ fun silent => ?_
      · intro message member
        have asking := asked message member
        cases message with
        | teleport message => cases asking
        | teleportAfter playerSn lastWorldSn => cases asking
        | _ => rfl
      · rw [quiet, collector]
        exact ⟨evolves_refl _, fun note member => Or.inl (silent note member)⟩

theorem proxy_read_teleport (message : Teleport PlayerProto) (target : message.targetWorldSn = before.sn)
    (source : message.lastWorldSn ≠ 0) :
    ProxyRead owner entry before (.teleport message) (WorldProxy.handleTeleport before message) := by
  unfold WorldProxy.handleTeleport
  split
  · exact proxy_read_nothing (Or.inl ⟨rfl, quiet_nil⟩)
  · rename_i player added accepted
    obtain ⟨free, slots⟩ := slots_add accepted
    obtain ⟨-, made, -⟩ := add_player_some accepted
    dsimp only
    have dispatched : proxyDispatches before (WorldProxy.send (WorldProxy.send (WorldProxy.send { before with
        collector := setPlayer added { player with playerSn := message.playerSn } }
          (.listenKey player.socketKey player.account))
          (.syncPlayer (cStr message.account) message.playerSn message.player))
        (.teleportAfter message.playerSn message.lastWorldSn)) =
        [.networkListenKey player.socketKey player.account,
          .teleportAfter message.playerSn message.lastWorldSn] := by
      have sent : before.sent ++ [.listenKey player.socketKey player.account] ++
          [.syncPlayer (cStr message.account) message.playerSn message.player] ++
          [.teleportAfter message.playerSn message.lastWorldSn] = before.sent ++
          [.listenKey player.socketKey player.account,
            .syncPlayer (cStr message.account) message.playerSn message.player,
            .teleportAfter message.playerSn message.lastWorldSn] := by simp
      rw [proxy_dispatches sent]
      rfl
    refine ⟨rfl, ?_, ?_⟩
    · rw [dispatched]
      refine Or.inr ⟨target, free, ?_, by simp [noteOf], by simp [noteOf]⟩
      simp only [WorldProxy.send]
      rw [slots_set, slots, made, Function.update_idem]
    · rw [dispatched]
      intro packet member
      rcases List.mem_cons.mp member with rfl | last
      · trivial
      · cases List.mem_singleton.mp last
        exact source

theorem proxy_read_after (player : Player PlayerProto) (playerSn lastWorldSn : UInt64)
    (source : lastWorldSn = before.sn) (found : getPlayerBySn before.collector playerSn = some player) :
    ProxyRead owner entry before (.teleportAfter playerSn lastWorldSn)
      (WorldProxy.handleTeleportAfter before player playerSn) := by
  obtain ⟨own, sn⟩ := get_by_sn_some found
  refine proxy_read_quietly rfl rfl (by simp [travels]) fun silent => ?_
  exact ⟨silent, Or.inr (Or.inr ⟨player.socketKey.socket, ⟨player.account, player.playerSn⟩, source,
    slots_of_some own, sn, slots_remove _ _⟩)⟩

/-- What a disconnect leaves is what was there, without the socket if it carries an account. -/
theorem proxy_read_disconnect (identify : NetIdentify)
    (tcp : (identify.tagKey .account).isSome → isTcp identify.socketKey.netType = true) :
    ProxyRead owner entry before (.networkDisconnect identify)
      (WorldProxy.handleNetworkDisconnect before identify) := by
  have kept : (identify.tagKey .account).isSome = false →
      ProxyRead owner entry before (.networkDisconnect identify) before := by
    intro untagged
    refine proxy_read_nothing ?_
    simp only [noteOf, untagged]
    exact ⟨quiet_nil, fun _ _ stored => stored, by simp⟩
  have without : ∀ socket slot,
      Function.update (slotsOf before.collector) identify.socketKey.socket none socket = some slot →
      slotsOf before.collector socket = some slot := by
    intro socket slot stored
    rw [Function.update_apply] at stored
    split at stored
    · cases stored
    · exact stored
  unfold WorldProxy.handleNetworkDisconnect
  split
  · rename_i other
    refine kept ?_
    rw [Bool.eq_false_iff]
    intro tagged
    rw [tcp tagged] at other
    cases other
  · split
    · rename_i account tagged
      split
      · rename_i absent
        refine proxy_read_nothing ?_
        simp only [noteOf]
        exact ⟨quiet_nil, fun _ _ stored => stored, fun _ => slots_of_none absent⟩
      · refine proxy_read_quietly rfl rfl (by simp [travels]) fun silent => ?_
        simp only [noteOf, WorldProxy.send]
        rw [slots_remove]
        exact ⟨silent, without, fun _ => Function.update_self _ _ _⟩
    · rename_i untagged
      split
      · exact kept (by rw [untagged]; rfl)
      · split
        · exact kept (by rw [untagged]; rfl)
        · -- The space process is lost: every player goes.
          refine proxy_read_quietly rfl rfl ?_ fun silent => ?_
          · intro message member
            obtain ⟨entry, -, rfl⟩ := List.mem_map.mp member
            rfl
          · simp only [noteOf, untagged]
            refine ⟨silent, ?_, by simp⟩
            intro socket slot stored
            obtain ⟨player, none, -⟩ := slot_player stored
            simp [WorldProxy.removeAllPlayerAndCloseConnect, PlayerCollector.empty, getPlayerBySocket] at none

theorem proxy_get_player_after (s : Proxy PlayerProto) (playerSn lastWorldSn : UInt64) :
    WorldProxy.getPlayer s (identifyOf (.teleportAfter playerSn lastWorldSn)) =
      getPlayerBySn s.collector playerSn := by
  simp [WorldProxy.getPlayer, identifyOf, addTagInt, clear]

theorem proxy_read (world : Int → Option WorldProxy.WorldType) (located : UInt64)
    (space : Option UInt64) (nonzero : before.sn ≠ 0) (routed : Routed owner packet)
    (reads : proxyReads world located space before packet after)
    (named : Named (slotsOf before.collector) before.sn (proxyDispatches before after)) :
    ProxyRead owner entry before packet after := by
  have idle : noteOf entry packet = .other → after = before → ProxyRead owner entry before packet after := by
    intro quiet same
    rw [same]
    refine proxy_read_nothing ?_
    rw [quiet]
    exact idle_other _
  cases packet with
  | enterWorld identify worldId =>
      simp only [proxyReads, proxyEvent] at reads
      split at reads
      · obtain ⟨-, player, -, rfl⟩ := reads
        exact proxy_read_enter world located space player worldId rfl
      · exact idle rfl reads
  | syncPlayer identify proto =>
      simp only [proxyReads, proxyEvent] at reads
      split at reads
      · obtain ⟨-, player, found, done⟩ := reads
        have advances := WorldProxy.broadcast_sync_advances done
        refine proxy_read_advances nonzero rfl _ ?_ ?_ ?_ advances named
        · rfl
        · rfl
        · dsimp only
          rw [slots_set]
          have own := slots_of_some (WorldProxy.get_player_held found)
          rw [← own]
          exact Function.update_eq_self _ _
      · exact idle rfl reads
  | broadcastCreateWorldProxy worldId worldSn lastWorldSn =>
      simp only [proxyReads, proxyEvent] at reads
      split at reads
      · obtain ⟨-, fuel, done⟩ := reads
        exact proxy_read_advances nonzero rfl before rfl rfl rfl (WorldProxy.broadcast_advances done) named
      · exact idle rfl reads
  | teleport message =>
      simp only [proxyReads, proxyEvent, proxyFilters] at reads
      by_cases target : message.targetWorldSn = before.sn
      · rw [if_pos ⟨(addressed_teleport routed.1).mpr target, trivial⟩] at reads
        obtain ⟨-, rfl⟩ := reads
        exact proxy_read_teleport message target routed.2
      · rw [if_neg fun both => target ((addressed_teleport routed.1).mp both.1)] at reads
        rw [reads]
        exact proxy_read_nothing (Or.inl ⟨rfl, quiet_nil⟩)
  | teleportAfter playerSn lastWorldSn =>
      simp only [proxyReads, proxyEvent] at reads
      split at reads
      · rename_i here
        have source := (addressed_after routed).mp here.1
        obtain ⟨-, player, found, rfl⟩ := reads
        rw [proxy_get_player_after] at found
        exact proxy_read_after player playerSn lastWorldSn source found
      · rename_i elsewhere
        rw [reads]
        refine proxy_read_nothing ⟨quiet_nil, ?_⟩
        by_cases source : lastWorldSn = before.sn
        · right
          left
          have absent : getPlayerBySn before.collector playerSn = none := by
            cases found : getPlayerBySn before.collector playerSn with
            | none => rfl
            | some player =>
                exfalso
                apply elsewhere
                refine ⟨(addressed_after routed).mpr source, ?_⟩
                rw [proxyFilters, proxy_get_player_after, found]
                rfl
          exact ⟨slots_without_sn absent, rfl⟩
        · exact Or.inl ⟨source, rfl⟩
  | networkDisconnect identify =>
      have tcp : (identify.tagKey .account).isSome → isTcp identify.socketKey.netType = true := by
        intro tagged
        rw [(routed tagged).2]
        rfl
      simp only [proxyReads, proxyEvent, proxyFilters] at reads
      by_cases here : addressed identify before.sn = true
      · rw [if_pos ⟨here, trivial⟩] at reads
        obtain ⟨-, rfl⟩ := reads
        exact proxy_read_disconnect identify tcp
      · rw [if_neg fun both => here both.1] at reads
        have untagged : (identify.tagKey .account).isSome = false := by
          rw [Bool.eq_false_iff]
          intro tagged
          exact here (addressed_all before.sn (routed tagged).1)
        rw [reads]
        refine proxy_read_nothing ?_
        simp only [noteOf, untagged]
        exact ⟨quiet_nil, fun _ _ stored => stored, by simp⟩
  | loginByToken identify account token =>
      simp only [proxyReads, proxyEvent] at reads
      rw [reads]
      refine proxy_read_nothing ?_
      simp only [noteOf]
      split
      · exact ⟨quiet_nil, Or.inl rfl⟩
      · exact idle_other _
  | gameTokenToRedisRs account token playerSn => exact idle rfl reads
  | queryPlayerRs account proto => exact idle rfl reads
  | queryWorldRs worldSn ok => exact idle rfl reads
  | networkListenKey socketKey account => exact idle rfl reads
  | networkRequestDisconnect identify => exact idle rfl reads

end Proxies

end GameBook.HeldSessions
