import GameBook.HeldSessions

/-!
Ghost players: a player object whose connection is gone, or a second one of the
same account. Steps of the process are moves of a hub, and what the hub's rules
ask of the dispatched packets keeps the process free of ghosts.
-/

namespace GameBook.GhostPlayers

open OrderedMap SocketObject PlayerCollector Handover GameProcess HeldSessions LabelledRun
open WorldProxy (Proxy Teleport)
open Lobby (LobbyState Locator PlayerProto Resources)

structure Inv (owner : UInt64 → Option Str) (sn : UInt64) (p : Process) : Prop where
  sound : Sound 0 (owns owner) sn (hub p)
  lobby : p.lobby.sn = sn
  stations : ∀ (key : UInt64) (station : Station), p.stations[key]? = some station →
    station.proxy.sn = key ∧ key ≠ 0 ∧ key ≠ sn
  held : AccountsHeld p.lobby.collector
  bare : Bare p.lobby
  routed : ∀ packet ∈ p.log, Routed owner packet
  tags : ∀ (socket : Int) (connection : Connection), p.connections[socket]? = some connection →
    connection.tags .entity = none

theorem unowned (owner : UInt64 → Option Str) (account : Str) : ¬ owns owner 0 account :=
  fun owned => owned.1 rfl

theorem owner_unique (owner : UInt64 → Option Str) (sn : UInt64) (account other : Str)
    (first : owns owner sn account) (second : owns owner sn other) : account = other :=
  Option.some.inj (first.2.symm.trans second.2)

/-! The hub of a process that has moved. -/

theorem links_insert (connections : Table Int Connection) (socket : Int) (connection : Connection) :
    linksOf (connections.insert socket connection) =
      Function.update (linksOf connections) socket (some connection.logins) := by
  funext other
  rw [linksOf, get_insert, Function.update_apply]
  split <;> rfl

theorem links_erase (connections : Table Int Connection) (socket : Int) :
    linksOf (connections.erase socket) = Function.update (linksOf connections) socket none := by
  funext other
  rw [linksOf, get_erase, Function.update_apply]
  split <;> rfl

theorem links_some {connections : Table Int Connection} {socket : Int} {connection : Connection}
    (open_ : connections[socket]? = some connection) :
    linksOf connections socket = some connection.logins := by
  rw [linksOf, open_]
  rfl

theorem notes_append (p : Process) (old new : List Packet) :
    notes p (old ++ new) = notes p old ++ notes p new := List.map_append

theorem notes_dropped (p : Process) (new : List Packet) :
    (p.log ++ new).drop p.log.length = new := List.drop_left

theorem hub_dispatched (p : Process) (new : List Packet) (connections : Table Int Connection)
    (cursor : Nat) : hub { p with
      log := p.log ++ new, connections := connections, networkCursor := cursor } =
    { hub p with log := (hub p).log ++ notes p new, links := linksOf connections } := by
  refine Hub.ext ?_ rfl rfl
  exact notes_append p p.log new

theorem hub_lobby (p : Process) (lobby : LobbyState) (new : List Packet) (cursor : Nat)
    (same : lobby.sn = p.lobby.sn) : hub { p with
      log := p.log ++ new, lobby := lobby, lobbyCursor := cursor } =
    { hub p with
      log := (hub p).log ++ notes p new
      holders := Function.update (hub p).holders p.lobby.sn (some ⟨cursor, slotsOf lobby.collector⟩) } := by
  refine Hub.ext ?_ ?_ rfl
  · simp only [hub, notes, same, List.map_append]
  · funext sn
    simp only [hub, holderOf, same, Function.update_apply]
    split <;> rfl

theorem hub_station (p : Process) (key : UInt64) (station : Station) (new : List Packet)
    (apart : key ≠ p.lobby.sn) : hub { p with
      log := p.log ++ new, stations := p.stations.insert key station } =
    { hub p with
      log := (hub p).log ++ notes p new
      holders := Function.update (hub p).holders key
        (some ⟨station.cursor, slotsOf station.proxy.collector⟩) } := by
  refine Hub.ext (notes_append p p.log new) ?_ rfl
  funext sn
  simp only [hub, holderOf, Function.update_apply, get_insert]
  by_cases same : sn = key
  · rw [if_pos same, if_pos same, same, if_neg apart]
    rfl
  · rw [if_neg same, if_neg same]

theorem hub_disposed (p : Process) (key : UInt64) (apart : key ≠ p.lobby.sn) :
    hub { p with stations := p.stations.erase key } =
    { hub p with holders := Function.update (hub p).holders key none } := by
  refine Hub.ext rfl ?_ rfl
  funext sn
  simp only [hub, holderOf, Function.update_apply, get_erase]
  by_cases same : sn = key
  · rw [if_pos same, if_pos same, same, if_neg apart]
    rfl
  · rw [if_neg same, if_neg same]

theorem holder_lobby (p : Process) :
    (hub p).holders p.lobby.sn = some ⟨p.lobbyCursor, slotsOf p.lobby.collector⟩ := if_pos rfl

theorem holder_station {p : Process} {key : UInt64} {station : Station} (apart : key ≠ p.lobby.sn)
    (held : p.stations[key]? = some station) :
    (hub p).holders key = some ⟨station.cursor, slotsOf station.proxy.collector⟩ := by
  change holderOf p key = _
  rw [holderOf, if_neg apart, held]
  rfl

theorem note_at {p : Process} {place : Nat} {packet : Packet} (there : p.log[place]? = some packet) :
    (hub p).log[place]? = some (noteOf p.lobby.sn packet) := by
  change (p.log.map (noteOf p.lobby.sn))[place]? = _
  rw [List.getElem?_map, there]
  rfl

theorem packet_at {p : Process} {place : Nat} {note : Note UInt64 Int Str UInt64}
    (there : (hub p).log[place]? = some note) :
    ∃ packet, p.log[place]? = some packet ∧ noteOf p.lobby.sn packet = note := by
  change (p.log.map (noteOf p.lobby.sn))[place]? = _ at there
  rw [List.getElem?_map] at there
  exact Option.map_eq_some_iff.mp there

theorem note_hop {sn : UInt64} {packet : Packet} {hop : Hop UInt64 Int Str UInt64}
    (noted : noteOf sn packet = .hop hop) :
    ∃ message, packet = .teleport message ∧ hop.target = message.targetWorldSn := by
  cases packet with
  | teleport message =>
      cases noted
      exact ⟨message, rfl, rfl⟩
  | loginByToken identify account token =>
      simp only [noteOf] at noted
      split at noted <;> cases noted
  | _ => cases noted

theorem sessions_lobby {p : Process} {sn : UInt64} (same : sn = p.lobby.sn) :
    sessions p sn = slotsOf p.lobby.collector := if_pos same

theorem sessions_station {p : Process} {key : UInt64} {station : Station} (apart : key ≠ p.lobby.sn)
    (held : p.stations[key]? = some station) : sessions p key = slotsOf station.proxy.collector := by
  rw [sessions, if_neg apart, held]

/-! Every step keeps the invariant. -/

section Steps

variable {resources : Resources} {owner : UInt64 → Option Str} {sn : UInt64} {before after : Process}

theorem routed_append {p : Process} {new : List Packet} (old : ∀ packet ∈ p.log, Routed owner packet)
    (added : ∀ packet ∈ new, Routed owner packet) : ∀ packet ∈ p.log ++ new, Routed owner packet := by
  intro packet member
  rcases List.mem_append.mp member with here | there
  · exact old packet here
  · exact added packet there

theorem inv_relinked (inv : Inv owner sn before) (new : List Packet)
    (connections : Table Int Connection) (cursor : Nat)
    (move : Move 0 (owns owner) sn (hub before) (notes before new)
      { hub before with log := (hub before).log ++ notes before new, links := linksOf connections })
    (safe : Safe sn (hub before) (notes before new))
    (routed : ∀ packet ∈ new, Routed owner packet)
    (tags : ∀ (socket : Int) (connection : Connection), connections[socket]? = some connection →
      connection.tags .entity = none) :
    Inv owner sn { before with
      log := before.log ++ new, connections := connections, networkCursor := cursor } := by
  refine ⟨?_, inv.lobby, inv.stations, inv.held, inv.bare, routed_append inv.routed routed, tags⟩
  rw [hub_dispatched]
  exact sound_move (unowned owner) (owner_unique owner) inv.sound move safe

theorem tags_insert {connections : Table Int Connection} (socket : Int) (connection : Connection)
    (tags : ∀ (socket : Int) (connection : Connection), connections[socket]? = some connection →
      connection.tags .entity = none)
    (own : connection.tags .entity = none) :
    ∀ (other : Int) (another : Connection), (connections.insert socket connection)[other]? = some another →
      another.tags .entity = none := by
  intro other another held
  rw [get_insert] at held
  split at held
  · cases held
    exact own
  · exact tags other another held

theorem tags_erase {connections : Table Int Connection} (socket : Int)
    (tags : ∀ (socket : Int) (connection : Connection), connections[socket]? = some connection →
      connection.tags .entity = none) :
    ∀ (other : Int) (another : Connection), (connections.erase socket)[other]? = some another →
      another.tags .entity = none := by
  intro other another held
  rw [get_erase] at held
  split at held
  · cases held
  · exact tags other another held

theorem safe_quiet {p : Process} {new : List Packet} (entry : UInt64)
    (quiet : ∀ packet ∈ new, noteOf p.lobby.sn packet = .other) : Safe entry (hub p) (notes p new) := by
  have silent : ∀ note ∈ notes p new, note = .other := by
    intro note member
    obtain ⟨packet, dispatched, rfl⟩ := List.mem_map.mp member
    exact quiet packet dispatched
  constructor
  · intro fd account member
    cases silent _ member
  · intro fd tagged accounts member
    cases silent _ member
  · intro hop member
    cases silent _ member
  · intro place other first second there
    cases silent _ (entry_mem there)

theorem inv_quiet (inv : Inv owner sn before) (new : List Packet) (connections : Table Int Connection)
    (cursor : Nat) (quiet : ∀ packet ∈ new, noteOf before.lobby.sn packet = .other)
    (same : linksOf connections = linksOf before.connections)
    (routed : ∀ packet ∈ new, Routed owner packet)
    (tags : ∀ (socket : Int) (connection : Connection), connections[socket]? = some connection →
      connection.tags .entity = none) :
    Inv owner sn { before with
      log := before.log ++ new, connections := connections, networkCursor := cursor } := by
  refine inv_relinked inv new connections cursor ?_ (safe_quiet sn quiet) routed tags
  rw [same]
  refine Move.noted (hub before) _ ?_
  intro note member
  obtain ⟨packet, dispatched, rfl⟩ := List.mem_map.mp member
  exact Or.inl (quiet packet dispatched)

theorem inv_accept (inv : Inv owner sn before) (socket : Int)
    (free : before.connections[socket]? = none) :
    Inv owner sn { before with connections := before.connections.insert socket ⟨clear, []⟩ } := by
  have same : { before with connections := before.connections.insert socket ⟨clear, []⟩ } =
      { before with
        log := before.log ++ []
        connections := before.connections.insert socket ⟨clear, []⟩
        networkCursor := before.networkCursor } := by simp
  rw [same]
  refine inv_relinked inv [] _ _ ?_ ?_ (by simp) (tags_insert socket _ inv.tags rfl)
  · have shut : (hub before).links socket = none := by
      change linksOf before.connections socket = none
      rw [linksOf, free]
      rfl
    rw [links_insert]
    have move : Move 0 (owns owner) sn (hub before) []
        { hub before with links := Function.update (linksOf before.connections) socket (some []) } :=
      Move.opened (hub before) socket shut
    simpa [notes] using move
  · constructor <;> simp [notes]

theorem inv_login (inv : Inv owner sn before) (socket : Int) (connection : Connection)
    (identify : NetIdentify) (account token : Str)
    (open_ : before.connections[socket]? = some connection)
    (client : identify.socketKey.socket = socket)
    (safe : Safe sn (hub before) (notes before [.loginByToken identify account token])) :
    Inv owner sn { before with
      log := before.log ++ [.loginByToken identify account token]
      connections := if addressed identify before.lobby.sn then before.connections.insert socket
          { connection with logins := account :: connection.logins }
        else before.connections } := by
  by_cases here : addressed identify before.lobby.sn = true
  · rw [if_pos here]
    refine inv_relinked inv [.loginByToken identify account token] _ before.networkCursor ?_ safe
      (by simp [Routed]) (tags_insert socket _ inv.tags (inv.tags socket connection open_))
    rw [links_insert]
    have note : notes before [.loginByToken identify account token] = [.login socket account] := by
      simp [notes, noteOf, here, client]
    rw [note]
    exact Move.login (hub before) socket account connection.logins (links_some open_)
  · rw [if_neg here]
    refine inv_quiet inv [.loginByToken identify account token] _ before.networkCursor ?_ rfl
      (by simp [Routed]) inv.tags
    intro packet member
    rw [List.mem_singleton.mp member]
    simp [noteOf, here]

theorem inv_close (inv : Inv owner sn before) (socketKey : SocketKey) (connection : Connection)
    (cursor : Nat) (open_ : before.connections[socketKey.socket]? = some connection)
    (listened : socketKey.netType = .tcpListen)
    (safe : Safe sn (hub before) (notes before [.networkDisconnect ⟨socketKey, connection.tags⟩])) :
    Inv owner sn { before with
      log := before.log ++ [.networkDisconnect ⟨socketKey, connection.tags⟩]
      connections := before.connections.erase socketKey.socket
      networkCursor := cursor } := by
  refine inv_relinked inv _ _ cursor ?_ safe ?_ (tags_erase _ inv.tags)
  · rw [links_erase]
    exact Move.closed (hub before) socketKey.socket _ connection.logins (links_some open_)
  · intro packet member
    rw [List.mem_singleton.mp member]
    exact fun _ => ⟨inv.tags _ connection open_, listened⟩

theorem inv_reply (inv : Inv owner sn before) (packet : Packet) (replies : Replies owner before packet)
    (safe : Safe sn (hub before) (notes before [packet])) :
    Inv owner sn { before with log := before.log ++ [packet] } := by
  refine inv_relinked inv [packet] before.connections before.networkCursor ?_ safe ?_ inv.tags
  · refine Move.noted (hub before) _ ?_
    intro note member
    rw [List.mem_singleton.mp member]
    cases packet with
    | networkDisconnect identify =>
        obtain ⟨untagged, stranger⟩ := replies
        right
        refine ⟨identify.socketKey.socket, ?_, ?_⟩
        · simp [noteOf, untagged]
        · change linksOf before.connections _ = none
          rw [linksOf, stranger]
          rfl
    | loginByToken identify account token => cases replies
    | teleport message => cases replies
    | teleportAfter playerSn lastWorldSn => cases replies
    | _ => exact Or.inl rfl
  · intro other member
    rw [List.mem_singleton.mp member]
    cases packet with
    | networkDisconnect identify =>
        intro tagged
        rw [replies.1] at tagged
        cases tagged
    | queryPlayerRs account proto => exact replies
    | teleport message => cases replies
    | teleportAfter playerSn lastWorldSn => cases replies
    | _ => trivial

theorem inv_network (inv : Inv owner sn before) (packet : Packet) (connections : Table Int Connection)
    (new : List Packet) (reads : networkReads before.connections packet = (connections, new))
    (safe : Safe sn (hub before) (notes before new)) :
    Inv owner sn { before with
      log := before.log ++ new
      connections := connections
      networkCursor := before.networkCursor + 1 } := by
  have idle : (connections, new) = (before.connections, []) → Inv owner sn { before with
      log := before.log ++ new
      connections := connections
      networkCursor := before.networkCursor + 1 } := by
    rintro ⟨⟩
    exact inv_quiet inv [] _ _ (by simp) rfl (by simp) inv.tags
  cases packet with
  | networkListenKey socketKey account =>
      simp only [networkReads] at reads
      split at reads
      · split at reads
        · exact idle reads.symm
        · rename_i connection open_
          cases reads
          refine inv_quiet inv [] _ _ (by simp) ?_ (by simp) (tags_insert _ _ inv.tags ?_)
          · rw [links_insert, ← links_some open_]
            exact Function.update_eq_self _ _
          · have unnamed : addTagStr clear .account account .entity = none := rfl
            exact (copy_from_absent _ _ .entity unnamed).trans (inv.tags _ connection open_)
      · exact idle reads.symm
  | networkRequestDisconnect identify =>
      simp only [networkReads] at reads
      split at reads
      · rename_i here
        split at reads
        · exact idle reads.symm
        · rename_i connection open_
          cases reads
          exact inv_close inv identify.socketKey connection _ open_ here.2 safe
      · exact idle reads.symm
  | _ => exact idle reads.symm

theorem named_of_orderly {p : Process} {key : UInt64} {new : List Packet} (orderly : Orderly p new)
    {slots : Int → Option (Slot Str UInt64)} (own : sessions p key = slots) : Named slots key new := by
  rintro message member rfl
  rw [← own]
  exact orderly.named message member

theorem inv_lobby (inv : Inv owner sn before) (nonzero : sn ≠ 0) (locator : Locator) (packet : Packet)
    (lobby : LobbyState) (there : before.log[before.lobbyCursor]? = some packet)
    (reads : lobbyReads resources locator before.lobby packet lobby)
    (orderly : Orderly before (lobbyDispatches before.lobby lobby)) :
    Inv owner sn { before with
      log := before.log ++ lobbyDispatches before.lobby lobby
      lobby := lobby
      lobbyCursor := before.lobbyCursor + 1 } := by
  have read := lobby_read resources locator before.lobby lobby packet
    (by rw [inv.lobby]; exact nonzero) inv.held inv.bare
    (inv.routed packet (List.mem_of_getElem? there)) reads
    (named_of_orderly orderly (sessions_lobby rfl))
  refine ⟨?_, read.sn.trans inv.lobby, inv.stations, read.held, read.bare,
    routed_append inv.routed read.routed, inv.tags⟩
  rw [hub_lobby before lobby _ _ read.sn]
  have safe := orderly.safe
  have handled := read.handled
  have held := holder_lobby before
  rw [inv.lobby] at safe handled held ⊢
  refine sound_move (unowned owner) (owner_unique owner) inv.sound
    (Move.handled (hub before) sn _ (noteOf sn packet) (slotsOf lobby.collector) _ held ?_ ?_) safe
  · rw [← inv.lobby]
    exact note_at there
  · rw [notes, inv.lobby]
    exact handled

theorem inv_station (inv : Inv owner sn before) (key located : UInt64) (space : Option UInt64)
    (station : Station) (packet : Packet) (proxy : Proxy PlayerProto)
    (held : before.stations[key]? = some station) (there : before.log[station.cursor]? = some packet)
    (reads : proxyReads resources.world located space station.proxy packet proxy)
    (orderly : Orderly before (proxyDispatches station.proxy proxy)) :
    Inv owner sn { before with
      log := before.log ++ proxyDispatches station.proxy proxy
      stations := before.stations.insert key ⟨proxy, station.cursor + 1⟩ } := by
  obtain ⟨own, nonzero, apart⟩ := inv.stations key station held
  have away : key ≠ before.lobby.sn := by rw [inv.lobby]; exact apart
  have read : ProxyRead owner sn station.proxy packet proxy :=
    proxy_read resources.world located space (by rw [own]; exact nonzero)
      (inv.routed packet (List.mem_of_getElem? there)) reads
      (by rw [own]; exact named_of_orderly orderly (sessions_station away held))
  refine ⟨?_, inv.lobby, ?_, inv.held, inv.bare, routed_append inv.routed read.routed, inv.tags⟩
  · rw [hub_station before key _ _ away]
    have safe := orderly.safe
    have handled := read.handled
    rw [own] at handled
    rw [inv.lobby] at safe
    refine sound_move (unowned owner) (owner_unique owner) inv.sound
      (Move.handled (hub before) key _ (noteOf sn packet) (slotsOf proxy.collector) _
        (holder_station away held) ?_ ?_) safe
    · rw [← inv.lobby]
      exact note_at there
    · rw [notes, inv.lobby]
      exact handled
  · intro other another stored
    dsimp only at stored
    rw [get_insert] at stored
    split at stored
    · rename_i same
      cases stored
      rw [same]
      exact ⟨read.sn.trans own, nonzero, apart⟩
    · exact inv.stations other another stored

theorem inv_create (inv : Inv owner sn before) (key : UInt64) (cursor : Nat) (fresh : Fresh before key)
    (inside : cursor ≤ before.log.length) :
    Inv owner sn { before with
      stations := before.stations.insert key ⟨WorldProxy.create key, cursor⟩ } := by
  obtain ⟨nonzero, away, free, unnamed⟩ := fresh
  have apart : key ≠ sn := by rw [← inv.lobby]; exact away
  have same : { before with stations := before.stations.insert key ⟨WorldProxy.create key, cursor⟩ } =
      { before with
        log := before.log ++ []
        stations := before.stations.insert key ⟨WorldProxy.create key, cursor⟩ } := by simp
  rw [same]
  refine ⟨?_, inv.lobby, ?_, inv.held, inv.bare, routed_append inv.routed (by simp), inv.tags⟩
  · rw [hub_station before key _ [] away]
    have slots : slotsOf (WorldProxy.create key : Proxy PlayerProto).collector = fun _ => none := by
      funext socket
      rw [slotsOf, getPlayerBySocket]
      simp [WorldProxy.create, PlayerCollector.empty]
    rw [slots]
    have absent : (hub before).holders key = none := by
      change holderOf before key = none
      rw [holderOf, if_neg away, free]
      rfl
    have unaddressed : ∀ (place : Nat) (hop : Hop UInt64 Int Str UInt64),
        (hub before).log[place]? = some (.hop hop) → hop.target ≠ key := by
      intro place hop there
      obtain ⟨packet, here, noted⟩ := packet_at there
      obtain ⟨message, rfl, target⟩ := note_hop noted
      rw [target]
      exact unnamed place message here
    have move : Move 0 (owns owner) sn (hub before) [] { hub before with
        holders := Function.update (hub before).holders key (some ⟨cursor, fun _ => none⟩) } :=
      Move.joined (hub before) key cursor apart absent (by simpa [hub, notes] using inside) unaddressed
    have still := sound_move (unowned owner) (owner_unique owner) inv.sound move
      (by constructor <;> simp)
    simpa [notes] using still
  · intro other another stored
    dsimp only at stored
    rw [get_insert] at stored
    split at stored
    · rename_i equal
      cases stored
      rw [equal]
      exact ⟨rfl, nonzero, apart⟩
    · exact inv.stations other another stored

theorem inv_dispose (inv : Inv owner sn before) (key : UInt64) (station : Station)
    (held : before.stations[key]? = some station) :
    Inv owner sn { before with stations := before.stations.erase key } := by
  obtain ⟨-, -, apart⟩ := inv.stations key station held
  refine ⟨?_, inv.lobby, ?_, inv.held, inv.bare, inv.routed, inv.tags⟩
  · rw [hub_disposed before key (by rw [inv.lobby]; exact apart)]
    exact sound_move (unowned owner) (owner_unique owner) inv.sound
      (Move.parted (hub before) key apart) (by constructor <;> simp)
  · intro other another stored
    dsimp only at stored
    rw [get_erase] at stored
    split at stored
    · cases stored
    · exact inv.stations other another stored

theorem inv_step (nonzero : sn ≠ 0) (inv : Inv owner sn before) (event : Event)
    (taken : processStep resources owner before event after)
    (orderly : Orderly before (after.log.drop before.log.length)) : Inv owner sn after := by
  have safe := orderly.safe
  rw [inv.lobby] at safe
  cases event with
  | accept socket =>
      obtain ⟨free, rfl⟩ := taken
      exact inv_accept inv socket free
  | login socket entity player account token =>
      obtain ⟨connection, identify, open_, rfl, rfl⟩ := taken
      rw [notes_dropped] at safe
      exact inv_login inv socket connection _ account token open_ rfl safe
  | enterWorld socket entity player worldId =>
      obtain ⟨connection, open_, rfl⟩ := taken
      exact inv_quiet inv [.enterWorld _ worldId] before.connections before.networkCursor
        (by simp [noteOf]) rfl (by simp [Routed]) inv.tags
  | close socket =>
      obtain ⟨connection, open_, rfl⟩ := taken
      rw [notes_dropped] at safe
      exact inv_close inv ⟨socket, .tcpListen⟩ connection before.networkCursor open_ rfl safe
  | reply packet =>
      obtain ⟨replies, rfl⟩ := taken
      rw [notes_dropped] at safe
      exact inv_reply inv packet replies safe
  | network =>
      obtain ⟨packet, connections, new, -, reads, rfl⟩ := taken
      rw [notes_dropped] at safe
      exact inv_network inv packet connections new reads safe
  | lobby locator =>
      obtain ⟨packet, lobby, there, reads, rfl⟩ := taken
      rw [notes_dropped] at orderly
      exact inv_lobby inv nonzero locator packet lobby there reads orderly
  | station key located space =>
      obtain ⟨station, packet, proxy, held, there, reads, rfl⟩ := taken
      rw [notes_dropped] at orderly
      exact inv_station inv key located space station packet proxy held there reads orderly
  | create key cursor =>
      obtain ⟨fresh, inside, rfl⟩ := taken
      exact inv_create inv key cursor fresh inside
  | dispose key =>
      obtain ⟨station, held, -, rfl⟩ := taken
      exact inv_dispose inv key station held

theorem inv_start (owner : UInt64 → Option Str) (sn : UInt64) : Inv owner sn (start sn) := by
  have nobody : ∀ id fd slot, ¬ Present (hub (start sn)) id fd slot := by
    rintro id fd slot ⟨holder, held, stored⟩
    simp only [hub, holderOf, start] at held
    split at held
    · cases held
      simp [slotsOf, getPlayerBySocket, Lobby.create, PlayerCollector.empty] at stored
    · simp at held
  have nothing : (hub (start sn)).log = [] := rfl
  refine ⟨?_, rfl, by simp [start], accounts_held_empty, ?_, by simp [start], by simp [start]⟩
  · refine ⟨?_, ?_, ?_, ?_, ?_, ?_, ?_, ?_, ?_, ?_, ?_⟩
    · intro id holder held
      simp only [hub, holderOf, start] at held
      split at held
      · cases held
        exact Nat.zero_le _
      · simp at held
    · intro id fd slot present
      exact absurd present (nobody id fd slot)
    · simp [nothing]
    · simp [nothing]
    · intro id fd slot present
      exact absurd present (nobody id fd slot)
    · simp [nothing]
    · simp [nothing]
    · intro id other fd another slot twin present
      exact absurd present (nobody id fd slot)
    · simp [Flying, nothing]
    · simp [Flying, nothing]
    · simp [Waiting, nothing]
  · intro socket player held
    simp [start, Lobby.create, getPlayerBySocket, PlayerCollector.empty] at held

end Steps

/-! The law. -/

theorem present_of_session {p : Process} {sn : UInt64} {socket : Int} {slot : Slot Str UInt64}
    (held : sessions p sn socket = some slot) : Present (hub p) sn socket slot := by
  by_cases same : sn = p.lobby.sn
  · rw [sessions_lobby same] at held
    rw [same]
    exact ⟨_, holder_lobby p, held⟩
  · cases found : p.stations[sn]? with
    | none => simp [sessions, same, found] at held
    | some station =>
        rw [sessions_station same found] at held
        exact ⟨_, holder_station same found, held⟩

theorem quiescent_of_all_read {p : Process} (read : AllRead p) : Quiescent (hub p) := by
  intro id holder held
  have length : (hub p).log.length = p.log.length := List.length_map _
  rw [length]
  change holderOf p id = some holder at held
  unfold holderOf at held
  split at held
  · cases held
    exact read.lobby
  · obtain ⟨station, stored, rfl⟩ := Option.map_eq_some_iff.mp held
    exact read.stations id station stored

theorem no_ghosts_of_inv {owner : UInt64 → Option Str} {sn : UInt64} {p : Process}
    (inv : Inv owner sn p) : NoGhosts p := by
  have settled := settled_of_sound inv.sound
  constructor
  · intro read key socket player held
    obtain ⟨accounts, linked, member⟩ := settled.linked (quiescent_of_all_read read) key socket player
      (present_of_session held)
    obtain ⟨connection, open_, rfl⟩ := Option.map_eq_some_iff.mp linked
    exact ⟨connection, open_, member⟩
  · intro read key other socket another player twin first second same
    exact (settled.single (quiescent_of_all_read read) key other socket another player twin
      (present_of_session first) (present_of_session second) same).1

/-- The process of a game server is free of ghost players all along a run in
which accounts, closings and teleports keep the rules of the hub. -/
theorem orderly_runs_have_no_ghosts (resources : Resources) (owner : UInt64 → Option Str) (sn : UInt64)
    (nonzero : sn ≠ 0) (trace : List Event) (p : Process)
    (run : Run (Guarded (processStep resources owner) (Allowed resources owner)) (start sn) trace p) :
    Run (Along (processStep resources owner) NoGhosts) (start sn) trace p := by
  refine along_of_guarded (Inv owner sn) ?_ (fun state inv => no_ghosts_of_inv inv) run
    (inv_start owner sn)
  intro before event after inv taken
  exact inv_step nonzero inv event taken.1 (taken.2 after taken.1)

/-! An event leads to one process. -/

theorem lobby_step_unique {resources : Resources} {s first second : LobbyState} {event : Lobby.Event}
    (one : Lobby.lobbyStep resources s event first) (two : Lobby.lobbyStep resources s event second) :
    first = second := by
  cases event with
  | login identify account token => exact one.trans two.symm
  | queryPlayerRs locator account proto => exact Option.some.inj (Eq.trans one.symm two)
  | queryWorldRs locator worldSn ok => exact Option.some.inj (Eq.trans one.symm two)
  | broadcast worldId worldSn => exact one.trans two.symm
  | teleportAfter identify =>
      obtain ⟨player, found, rfl⟩ := one
      obtain ⟨other, foundToo, rfl⟩ := two
      rw [found] at foundToo
      cases foundToo
      rfl
  | disconnect identify => exact one.trans two.symm

theorem lobby_reads_unique {resources : Resources} {locator : Locator} {s first second : LobbyState}
    {packet : Packet} (one : lobbyReads resources locator s packet first)
    (two : lobbyReads resources locator s packet second) : first = second := by
  unfold lobbyReads at one two
  split at one
  · exact one.trans two.symm
  · split at one
    · rename_i unknown
      simp only [unknown] at two
      exact one.trans two.symm
    · rename_i event known
      simp only [known] at two
      split at one
      · rename_i here
        rw [if_pos here] at two
        exact lobby_step_unique one two
      · rename_i elsewhere
        rw [if_neg elsewhere] at two
        exact one.trans two.symm

theorem broadcast_unique {world : Int → Option WorldProxy.WorldType} {s first second : Proxy PlayerProto}
    {fuel more : Nat} {worldId : Int} {worldSn : UInt64}
    (one : WorldProxy.handleBroadcastCreateWorldProxy world fuel s worldId worldSn = some (some first))
    (two : WorldProxy.handleBroadcastCreateWorldProxy world more s worldId worldSn = some (some second)) :
    first = second := by
  unfold WorldProxy.handleBroadcastCreateWorldProxy at one two
  cases kind : world worldId with
  | none =>
      rw [kind] at one
      cases one
  | some worldType =>
      rw [kind] at one two
      cases worldType with
      | publicWorld =>
          dsimp only at one two
          have enough := WhileLoop.loop_more one (Nat.le_max_left fuel more)
          rw [WhileLoop.loop_more two (Nat.le_max_right fuel more)] at enough
          cases enough
          rfl
      | _ => exact Option.some.inj (Option.some.inj (one.symm.trans two))

theorem proxy_step_unique {world : Int → Option WorldProxy.WorldType} {s first second : Proxy PlayerProto}
    {event : WorldProxy.Event PlayerProto} (one : WorldProxy.proxyStep world s event first)
    (two : WorldProxy.proxyStep world s event second) : first = second := by
  obtain ⟨-, one⟩ := one
  obtain ⟨-, two⟩ := two
  cases event with
  | enterWorld identify worldId located space =>
      obtain ⟨player, found, rfl⟩ := one
      obtain ⟨other, foundToo, rfl⟩ := two
      rw [found] at foundToo
      cases foundToo
      rfl
  | syncPlayer identify proto =>
      obtain ⟨player, found, done⟩ := one
      obtain ⟨other, foundToo, doneToo⟩ := two
      rw [found] at foundToo
      cases foundToo
      exact Option.some.inj (done.symm.trans doneToo)
  | broadcast worldId worldSn =>
      obtain ⟨fuel, done⟩ := one
      obtain ⟨more, doneToo⟩ := two
      exact broadcast_unique done doneToo
  | teleport message => exact one.trans two.symm
  | teleportAfter identify playerSn =>
      obtain ⟨player, found, rfl⟩ := one
      obtain ⟨other, foundToo, rfl⟩ := two
      rw [found] at foundToo
      cases foundToo
      rfl
  | disconnect identify => exact one.trans two.symm
  | dispose => exact one.2.trans two.2.symm

theorem proxy_reads_unique {world : Int → Option WorldProxy.WorldType} {located : UInt64}
    {space : Option UInt64} {s first second : Proxy PlayerProto} {packet : Packet}
    (one : proxyReads world located space s packet first)
    (two : proxyReads world located space s packet second) : first = second := by
  unfold proxyReads at one two
  split at one
  · rename_i unknown
    simp only [unknown] at two
    exact one.trans two.symm
  · rename_i event known
    simp only [known] at two
    split at one
    · rename_i here
      rw [if_pos here] at two
      exact proxy_step_unique one two
    · rename_i elsewhere
      rw [if_neg elsewhere] at two
      exact one.trans two.symm

theorem process_step_unique {resources : Resources} {owner : UInt64 → Option Str} {p first second : Process}
    {event : Event} (one : processStep resources owner p event first)
    (two : processStep resources owner p event second) : first = second := by
  cases event with
  | accept socket => exact one.2.trans two.2.symm
  | login socket entity player account token =>
      obtain ⟨connection, identify, open_, rfl, rfl⟩ := one
      obtain ⟨other, another, openToo, rfl, rfl⟩ := two
      rw [open_] at openToo
      cases openToo
      rfl
  | enterWorld socket entity player worldId =>
      obtain ⟨connection, open_, rfl⟩ := one
      obtain ⟨other, openToo, rfl⟩ := two
      rw [open_] at openToo
      cases openToo
      rfl
  | close socket =>
      obtain ⟨connection, open_, rfl⟩ := one
      obtain ⟨other, openToo, rfl⟩ := two
      rw [open_] at openToo
      cases openToo
      rfl
  | reply packet => exact one.2.trans two.2.symm
  | network =>
      obtain ⟨packet, connections, new, there, reads, rfl⟩ := one
      obtain ⟨other, connectionsToo, newToo, thereToo, readsToo, rfl⟩ := two
      rw [there] at thereToo
      cases thereToo
      rw [reads] at readsToo
      cases readsToo
      rfl
  | lobby locator =>
      obtain ⟨packet, lobby, there, reads, rfl⟩ := one
      obtain ⟨other, lobbyToo, thereToo, readsToo, rfl⟩ := two
      rw [there] at thereToo
      cases thereToo
      rw [lobby_reads_unique reads readsToo]
  | station key located space =>
      obtain ⟨station, packet, proxy, held, there, reads, rfl⟩ := one
      obtain ⟨stationToo, other, proxyToo, heldToo, thereToo, readsToo, rfl⟩ := two
      rw [held] at heldToo
      cases heldToo
      rw [there] at thereToo
      cases thereToo
      rw [proxy_reads_unique reads readsToo]
  | create key cursor => exact one.2.2.trans two.2.2.symm
  | dispose key =>
      obtain ⟨station, -, -, same⟩ := one
      obtain ⟨other, -, -, sameToo⟩ := two
      exact same.trans sameToo.symm

theorem guarded_of_orderly {resources : Resources} {owner : UInt64 → Option Str} {before after : Process}
    {event : Event} (taken : processStep resources owner before event after)
    (orderly : Orderly before (after.log.drop before.log.length)) :
    Guarded (processStep resources owner) (Allowed resources owner) before event after := by
  refine ⟨taken, ?_⟩
  intro other takenToo
  rw [process_step_unique takenToo taken]
  exact orderly

theorem orderly_quiet {p : Process} {new : List Packet}
    (quiet : ∀ packet ∈ new, noteOf p.lobby.sn packet = .other) : Orderly p new := by
  refine ⟨safe_quiet p.lobby.sn quiet, ?_⟩
  intro message member
  cases quiet _ member

theorem orderly_first_login {p : Process} (identify : NetIdentify) (account token : Str)
    (nobody : ∀ id fd slot, ¬ Present (hub p) id fd slot) (unsent : p.log = []) :
    Orderly p [.loginByToken identify account token] := by
  have noted : ∀ note ∈ notes p [.loginByToken identify account token],
      note = .other ∨ note = .login identify.socketKey.socket account := by
    intro note member
    rw [List.mem_singleton.mp member]
    simp only [noteOf]
    split
    · exact Or.inr rfl
    · exact Or.inl rfl
  have empty : (hub p).log = [] := by
    change p.log.map _ = []
    rw [unsent]
    rfl
  refine ⟨⟨?_, ?_, ?_, ?_⟩, by simp⟩
  · intro fd named member
    refine ⟨fun id other slot present => absurd present (nobody id other slot), ?_, ?_⟩
    · simp [Flying, empty]
    · simp [Waiting, empty]
  · intro fd tagged accounts member
    rcases noted _ member with impossible | impossible <;> cases impossible
  · intro hop member
    rcases noted _ member with impossible | impossible <;> cases impossible
  · intro place other first second there
    rcases noted _ (entry_mem there) with impossible | impossible <;> cases impossible

theorem orderly_first_teleport {p : Process} {playerSn : UInt64} (message : Teleport PlayerProto)
    (unmoved : ∀ note ∈ (hub p).log, (∀ hop, note ≠ .hop hop) ∧ ∀ id sn, note ≠ .left id sn)
    (alive : Alive (hub p) message.socketKey.socket message.account)
    (named : message.playerSn ≠ 0 ∧ message.targetWorldSn ≠ 0)
    (own : sessions p message.lastWorldSn message.socketKey.socket =
      some ⟨message.account, playerSn⟩) : Orderly p [.teleport message] := by
  have only : notes p [.teleport message] = [noteOf p.lobby.sn (.teleport message)] := rfl
  refine ⟨⟨?_, ?_, ?_, ?_⟩, ?_⟩
  · intro fd account member
    cases List.mem_singleton.mp member
  · intro fd tagged accounts member
    cases List.mem_singleton.mp member
  · intro hop member
    cases List.mem_singleton.mp member
    refine ⟨alive, ?_, ?_⟩
    · rintro ⟨place, -, left⟩
      exact absurd rfl ((unmoved _ (entry_mem left)).2 _ _)
    · rintro place other ⟨there, -⟩
      exact absurd rfl ((unmoved _ (entry_mem there)).1 other)
  · intro place other first second one two _
    rw [only] at one two
    have inside := (List.getElem?_eq_some_iff.mp one).1
    have insideToo := (List.getElem?_eq_some_iff.mp two).1
    simp only [List.length_singleton] at inside insideToo
    omega
  · intro other member
    cases List.mem_singleton.mp member
    refine ⟨named.1, named.2, ?_⟩
    intro player held
    rw [own] at held
    cases held
    rfl

theorem orderly_tagged_close {p : Process} (identify : NetIdentify)
    (tagged : (identify.tagKey .account).isSome = true) : Orderly p [.networkDisconnect identify] := by
  refine ⟨⟨?_, ?_, ?_, ?_⟩, by simp⟩
  · intro fd account member
    cases List.mem_singleton.mp member
  · intro fd flag accounts member _ _
    cases List.mem_singleton.mp member
    exact tagged
  · intro hop member
    cases List.mem_singleton.mp member
  · intro place other first second there
    cases List.mem_singleton.mp (entry_mem there)

theorem lobby_reads_event (resources : Resources) (locator : Locator) (before after : LobbyState)
    (packet : Packet) (event : Lobby.Event) (known : lobbyEvent locator packet = some event)
    (here : addressed (identifyOf packet) before.sn = true ∧ lobbyFilters before event = false)
    (taken : Lobby.lobbyStep resources before event after) :
    lobbyReads resources locator before packet after := by
  cases packet with
  | gameTokenToRedisRs account token playerSn => cases known
  | _ =>
      simp only [lobbyReads, known]
      rw [if_pos here]
      exact taken

def plainResources : Resources := ⟨fun worldId => if worldId = 2 then some .publicWorld else none, 2⟩

def nowhere : Locator := ⟨fun _ => false, fun _ => AppKey.invalidId⟩

def ownerOf (sn : UInt64) : Option Str := if sn = 7 then some [97] else none

/-- A client logs in, its player is found in the database and sent to world 5,
and the connection ends: every step is orderly. -/
def visit : List Event :=
  [.accept 3, .login 3 none none [97] [], .lobby nowhere, .network, .network,
    .reply (.queryPlayerRs [97] ⟨7, ⟨2, 0⟩, ⟨0, 0⟩, 0⟩), .lobby nowhere,
    .lobby ⟨fun _ => false, fun _ => 5⟩, .close 3]

theorem visit_run : ∃ p, Run (Guarded (processStep plainResources ownerOf) (Allowed plainResources ownerOf))
    (start 1) visit p := by
  have quietly : ∀ (p : Process) (new : List Packet),
      new.all (fun packet => match noteOf p.lobby.sn packet with | .other => true | _ => false) = true →
      Orderly p new := by
    intro p new silent
    refine orderly_quiet fun packet member => ?_
    have here := List.all_eq_true.mp silent packet member
    split at here
    · assumption
    · cases here
  refine ⟨_, Run.next (guarded_of_orderly ⟨by decide, rfl⟩ (quietly _ _ rfl))
    (Run.next (guarded_of_orderly ⟨_, _, rfl, rfl, rfl⟩ ?login)
    (Run.next (guarded_of_orderly ⟨_, _, rfl, lobby_reads_event _ _ _ _ _ _ rfl ⟨rfl, rfl⟩ rfl, rfl⟩
      (quietly _ _ rfl))
    (Run.next (guarded_of_orderly ⟨_, _, _, rfl, rfl, rfl⟩ (quietly _ _ rfl))
    (Run.next (guarded_of_orderly ⟨_, _, _, rfl, rfl, rfl⟩ (quietly _ _ rfl))
    (Run.next (guarded_of_orderly ⟨fun _ => rfl, rfl⟩ (quietly _ _ rfl))
    (Run.next (guarded_of_orderly ⟨_, _, rfl, rfl, rfl⟩ (quietly _ _ rfl))
    (Run.next (guarded_of_orderly ⟨_, _, rfl, lobby_reads_event _ _ _ _ _ _ rfl ⟨rfl, rfl⟩ rfl, rfl⟩ ?hop)
    (Run.next (guarded_of_orderly ⟨_, rfl, rfl⟩ ?closed) (Run.refl _)))))))))⟩
  · refine orderly_first_login _ _ _ ?_ rfl
    rintro id fd slot ⟨holder, held, stored⟩
    simp only [hub, holderOf, start] at held
    split at held
    · cases held
      simp [slotsOf, getPlayerBySocket, Lobby.create, PlayerCollector.empty] at stored
    · simp at held
  · refine orderly_first_teleport ⟨1, [97], 7, ⟨7, ⟨2, 0⟩, ⟨0, 0⟩, 1⟩, ⟨3, .tcpListen⟩, 5⟩ ?_ ⟨[[97]], rfl, by decide⟩
      ⟨by decide, by decide⟩ rfl
    intro note member
    rcases List.mem_cons.mp member with rfl | later
    · exact ⟨by rintro hop ⟨⟩, by rintro id sn ⟨⟩⟩
    · rcases List.mem_cons.mp later with rfl | last
      · exact ⟨by rintro hop ⟨⟩, by rintro id sn ⟨⟩⟩
      · rw [List.mem_singleton.mp last]
        exact ⟨by rintro hop ⟨⟩, by rintro id sn ⟨⟩⟩
  · exact orderly_tagged_close _ rfl

theorem orderly_runs_have_no_ghosts_visit : ∃ p,
    Run (Along (processStep plainResources ownerOf) NoGhosts) (start 1) visit p := by
  obtain ⟨p, run⟩ := visit_run
  exact ⟨p, orderly_runs_have_no_ghosts plainResources ownerOf 1 (by decide) visit p run⟩

/-- A client that closes before the network has heard of its account leaves its player behind. -/
theorem early_close_run : ∃ p, Run (processStep plainResources ownerOf) (start 1)
    [.accept 3, .login 3 none none [97] [], .close 3, .lobby nowhere, .lobby nowhere, .network, .network,
      .network, .lobby nowhere] p ∧
    AllRead p ∧ sessions p 1 3 = some ⟨[97], 0⟩ ∧ p.connections[(3 : Int)]? = none := by
  refine ⟨_, Run.next ⟨by decide, rfl⟩ (Run.next ⟨_, _, rfl, rfl, rfl⟩ (Run.next ⟨_, rfl, rfl⟩
    (Run.next ⟨_, _, rfl, lobby_reads_event _ _ _ _ _ _ rfl ⟨rfl, rfl⟩ rfl, rfl⟩
    (Run.next ⟨_, _, rfl, lobby_reads_event _ _ _ _ _ _ rfl ⟨rfl, rfl⟩ rfl, rfl⟩
    (Run.next ⟨_, _, _, rfl, rfl, rfl⟩ (Run.next ⟨_, _, _, rfl, rfl, rfl⟩ (Run.next ⟨_, _, _, rfl, rfl, rfl⟩
    (Run.next ⟨_, _, rfl, rfl, rfl⟩ (Run.refl _))))))))), ?_, rfl, rfl⟩
  exact ⟨rfl, rfl, by simp [start]⟩

theorem early_close_leaves_ghost :
    ¬ ∀ (resources : Resources) (owner : UInt64 → Option Str) (sn : UInt64) (trace : List Event)
      (p : Process), sn ≠ 0 → Run (processStep resources owner) (start sn) trace p → NoGhosts p := by
  intro law
  obtain ⟨p, run, read, ghost, closed⟩ := early_close_run
  obtain ⟨connection, open_, -⟩ :=
    (law plainResources ownerOf 1 _ p (by decide) run).connected read 1 3 _ ghost
  rw [closed] at open_
  cases open_

end GameBook.GhostPlayers
