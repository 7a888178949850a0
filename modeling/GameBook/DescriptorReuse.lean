import GameBook.Account
import GameBook.GameProcess
import GameBook.NetworkConnects

/-!
The messages that close or tag a connection and the notice that it closed, while
its descriptor goes to the next connection. Requests and notices lie in one
queue for all threads and each thread comes to them at its own pace; the network
also reads what `ConnectObj::Close` puts into its own message system. The
readers are the network, the socket locator and the components that collect
players. A player and an entry of the locator carry the number of their
connection, which the code does not have.
-/

namespace GameBook.DescriptorReuse

open OrderedMap SocketObject AppKey PlayerCollector LabelledRun NetworkConnects
open GameProcess (addressed)

/-- The messages about a connection. Any other message made for it may bring a
component to add a player for an account. -/
inductive Kind where
  | networkDisconnect
  | networkRequestDisconnect
  | networkListenKey
  | other (account : Str)
  deriving DecidableEq

structure Packet extends NetIdentify where
  kind : Kind
  number : Nat

def disconnected (closed : Closed) : Packet :=
  ⟨closed.toNetIdentify, .networkDisconnect, closed.number⟩

structure Entry where
  sn : UInt64
  number : Nat

/-- The components that have a `PlayerCollectorComponent`. -/
inductive Component where
  | account
  | lobby
  | worldProxy (spaceAppId : UInt64)

/-- A component, its players with the numbers of their connections, and the
place of its thread in the queue. -/
structure Reader where
  component : Component
  collector : Collector Nat
  cursor : Nat

structure Process where
  network : Network
  accepted : List SocketKey
  log : List Packet
  networkCursor : Nat
  own : List Packet
  locator : Table Int Entry
  locatorCursor : Nat
  readers : Table UInt64 Reader

def start (networkType : NetworkType) : Process :=
  ⟨NetworkConnects.create networkType, [], [], 0, [], ∅, 0, ∅⟩

/-- Whether the network has a handler for the packet and the packet no other receiver. -/
def forNetwork (packet : Packet) : Bool :=
  addressed packet.toNetIdentify 0 &&
    (packet.kind = .networkRequestDisconnect || packet.kind = .networkListenKey)

def networkReads (n : Network) (packet : Packet) : Option (Network × List Closed) :=
  if addressed packet.toNetIdentify 0 = false then some (n, [])
  else
    match packet.kind with
    | .networkRequestDisconnect => some (handleDisconnect n packet.toNetIdentify)
    | .networkListenKey =>
        -- only a listening network registers for it
        if isListen n.networkType then (handleListenKey n packet.toNetIdentify).map fun after => (after, [])
        else some (n, [])
    | _ => some (n, [])

def locatorReads (locator : Table Int Entry) (packet : Packet) : Table Int Entry :=
  match packet.kind with
  | .networkDisconnect => locator.erase packet.socketKey.socket
  | _ => locator

def handleNetworkDisconnect {Components : Type} (component : Component)
    (c : Collector Components) (identify : NetIdentify) : Collector Components :=
  match component with
  | .account =>
      -- the account tag is not looked at
      if identify.socketKey.netType ≠ .tcpListen then c
      else removePlayerBySocket c identify.socketKey.socket
  | .lobby =>
      match identify.tagKey .account with
      | none => c
      | some _ => removePlayerBySocket c identify.socketKey.socket
  | .worldProxy spaceAppId =>
      if !isTcp identify.socketKey.netType then c
      else
        match identify.tagKey .account with
        | some _ => removePlayerBySocket c identify.socketKey.socket
        | none =>
            -- no client: the players go only with the space process of their world
            match identify.tagKey .app with
            | none => c
            | some app =>
                if getTypeFromAppKey app.keyInt64 ≠ bits .space ∨
                    spaceAppId ≠ getIdFromAppKey app.keyInt64 then c
                else empty

theorem lobby_disconnect_collector (s : Lobby.LobbyState) (identify : NetIdentify) :
    (Lobby.handleNetworkDisconnect s identify).collector =
      handleNetworkDisconnect .lobby s.collector identify := by
  simp only [Lobby.handleNetworkDisconnect, handleNetworkDisconnect]
  cases identify.tagKey .account with
  | none => rfl
  | some tag =>
      simp only [Lobby.removeBySocket, getPlayerBySocket]
      cases absent : s.collector.players[identify.socketKey.socket]? with
      | none => simp [removePlayerBySocket, absent]
      | some player => rfl

theorem account_disconnect_collector {Proto : Type} (s : Account.AccountState Proto)
    (identify : NetIdentify) :
    (Account.handleNetworkDisconnect s identify.socketKey).collector =
      handleNetworkDisconnect .account s.collector identify := by
  simp only [Account.handleNetworkDisconnect, handleNetworkDisconnect]
  split
  · rfl
  · simp only [Account.removeBySocket, getPlayerBySocket]
    cases absent : s.collector.players[identify.socketKey.socket]? with
    | none => simp [removePlayerBySocket, absent]
    | some player =>
        dsimp only
        split
        · rfl
        · rfl

theorem world_proxy_disconnect_collector {Proto : Type} (s : WorldProxy.Proxy Proto)
    (identify : NetIdentify) :
    (WorldProxy.handleNetworkDisconnect s identify).collector =
      handleNetworkDisconnect (.worldProxy (WorldProxy.spaceAppId s)) s.collector identify := by
  simp only [WorldProxy.handleNetworkDisconnect, handleNetworkDisconnect]
  split
  · rfl
  · cases identify.tagKey .account with
    | some tag =>
        simp only [getPlayerBySocket]
        cases absent : s.collector.players[identify.socketKey.socket]? with
        | none => simp [removePlayerBySocket, absent]
        | some player => rfl
    | none =>
        cases identify.tagKey .app with
        | none => rfl
        | some app =>
            dsimp only
            split
            · rfl
            · rfl

/-- What a component does with another message made for a connection: nothing, it
adds a player for that connection, or it parts with one of its players. -/
inductive Serves (c : Collector Nat) (packet : Packet) (account : Str) : Collector Nat → Prop where
  | passes : Serves c packet account c
  | adds (player : Player Nat) (added : Collector Nat) :
      addPlayer c packet.socketKey account packet.number = some (player, added) →
      Serves c packet account added
  | parts (socket : Int) : Serves c packet account (removePlayerBySocket c socket)

inductive ComponentReads (component : Component) (c : Collector Nat) (packet : Packet) :
    Collector Nat → Prop where
  | disconnect : packet.kind = .networkDisconnect →
      ComponentReads component c packet (handleNetworkDisconnect component c packet.toNetIdentify)
  | serves (account : Str) (after : Collector Nat) : packet.kind = .other account →
      Serves c packet account after → ComponentReads component c packet after
  | ignores : packet.kind = .networkRequestDisconnect ∨ packet.kind = .networkListenKey →
      ComponentReads component c packet c

inductive Event where
  | create (checked : Bool) (socket : Int) (tagType : TagType) (tagValue : TagValue)
      (state : ConnectStateType)
  | close (socket : Int)
  | dispatch (packet : Packet)
  | ask (socket : Int)
  | network
  | networkOwn
  | register (number : Nat) (sn : UInt64)
  | locator
  | component (sn : UInt64)
  | joined (sn : UInt64)
  | parted (sn : UInt64)

inductive Step : Process → Event → Process → Prop where
  /-- `Accept` or `Connect`: the descriptor is any that the system gives. -/
  | create (p : Process) (checked : Bool) (socket : Int) (tagType : TagType) (tagValue : TagValue)
      (state : ConnectStateType) (made : Bool) (network : Network) (closed : List Closed) :
      createConnectObj p.network checked socket tagType tagValue state p.accepted.length =
        (made, network, closed) →
      Step p (.create checked socket tagType tagValue state) { p with
        network := network
        accepted := if made then p.accepted ++ [⟨socket, p.network.networkType⟩] else p.accepted
        log := p.log ++ closed.map disconnected }
  /-- `Recv` or `Send` failed, or the system reports an error. -/
  | close (p : Process) (socket : Int) (obj : ConnectObj) :
      p.network.connects[socket]? = some obj →
      Step p (.close socket) { p with
        network := removeConnectObj p.network socket
        log := p.log ++ [disconnected (backToPool obj)] }
  /-- A thread dispatches a message made from a `NetIdentify` of a connection. -/
  | dispatch (p : Process) (packet : Packet) :
      packet.kind ≠ .networkDisconnect → p.accepted[packet.number]? = some packet.socketKey →
      Step p (.dispatch packet) { p with log := p.log ++ [packet] }
  /-- `ConnectObj::Close`. -/
  | ask (p : Process) (socket : Int) (obj : ConnectObj) :
      p.network.connects[socket]? = some obj →
      Step p (.ask socket) { p with
        own := p.own ++ [⟨obj.toNetIdentify, .networkRequestDisconnect, obj.number⟩] }
  | network (p : Process) (packet : Packet) (network : Network) (closed : List Closed) :
      p.log[p.networkCursor]? = some packet →
      networkReads p.network packet = some (network, closed) →
      Step p .network { p with
        network := network
        networkCursor := p.networkCursor + 1
        log := p.log ++ closed.map disconnected }
  | networkOwn (p : Process) (packet : Packet) (rest : List Packet) (network : Network)
      (closed : List Closed) :
      p.own = packet :: rest → networkReads p.network packet = some (network, closed) →
      Step p .networkOwn { p with
        network := network
        own := rest
        log := p.log ++ closed.map disconnected }
  /-- `RegisterToLocator`, by whoever has the player of a connection. -/
  | register (p : Process) (number : Nat) (sn : UInt64) (key : SocketKey) :
      p.accepted[number]? = some key →
      Step p (.register number sn) { p with locator := p.locator.insert key.socket ⟨sn, number⟩ }
  | locator (p : Process) (packet : Packet) :
      p.log[p.locatorCursor]? = some packet →
      Step p .locator { p with
        locator := locatorReads p.locator packet
        locatorCursor := p.locatorCursor + 1 }
  | component (p : Process) (sn : UInt64) (reader : Reader) (packet : Packet)
      (collector : Collector Nat) :
      p.readers[sn]? = some reader → p.log[reader.cursor]? = some packet →
      ComponentReads reader.component reader.collector packet collector →
      Step p (.component sn) { p with
        readers := p.readers.insert sn ⟨reader.component, collector, reader.cursor + 1⟩ }
  | joined (p : Process) (sn : UInt64) (component : Component) (cursor : Nat) :
      p.readers[sn]? = none → cursor ≤ p.log.length →
      Step p (.joined sn) { p with readers := p.readers.insert sn ⟨component, empty, cursor⟩ }
  | parted (p : Process) (sn : UInt64) : Step p (.parted sn) { p with readers := p.readers.erase sn }

/-! The law: a message about a connection leaves everything of the later
connections of its descriptor alone. -/

def taken (p : Process) : Event → Option Packet
  | .network => p.log[p.networkCursor]?
  | .networkOwn => p.own.head?
  | .locator => p.log[p.locatorCursor]?
  | .component sn => (p.readers[sn]?).bind fun reader => p.log[reader.cursor]?
  | _ => none

def isControl (packet : Packet) : Bool :=
  match packet.kind with
  | .other _ => false
  | _ => true

structure Spares (packet : Packet) (before after : Process) : Prop where
  connections : ∀ (socket : Int) (obj : ConnectObj),
    before.network.connects[socket]? = some obj → obj.number ≠ packet.number →
    after.network.connects[socket]? = some obj
  entries : ∀ (socket : Int) (entry : Entry), before.locator[socket]? = some entry →
    socket ≠ packet.socketKey.socket ∨ packet.number < entry.number →
    after.locator[socket]? = some entry
  players : ∀ (sn : UInt64) (reader : Reader) (player : Player Nat),
    before.readers[sn]? = some reader →
    getPlayerBySocket reader.collector packet.socketKey.socket = some player →
    packet.number < player.components →
    ∃ later, after.readers[sn]? = some later ∧
      getPlayerBySocket later.collector packet.socketKey.socket = some player

def SparesLater (before : Process) (event : Event) (after : Process) : Prop :=
  ∀ packet, taken before event = some packet → isControl packet = true → Spares packet before after

def Unread (p : Process) (packet : Packet) : Prop :=
  packet ∈ p.log.drop p.networkCursor ∨ packet ∈ p.own

/-- The rules of re-use: a descriptor gets a new connection only when the network
has read every request and every key for its earlier ones; those messages are
dispatched only while no later connection has the descriptor; and a connection
is registered only when the locator has read of the end of the earlier ones. -/
def Punctual (p : Process) : Event → Prop
  | .create checked socket _ _ _ =>
      checked = true → p.network.connects[socket]? = none →
        ∀ packet, Unread p packet → forNetwork packet = true → packet.socketKey.socket ≠ socket
  | .dispatch packet =>
      forNetwork packet = true →
        ∀ obj, p.network.connects[packet.socketKey.socket]? = some obj → obj.number = packet.number
  | .register number _ =>
      ∀ key packet, p.accepted[number]? = some key → packet ∈ p.log.drop p.locatorCursor →
        packet.kind = .networkDisconnect → packet.socketKey.socket = key.socket →
        number ≤ packet.number
  | _ => True

/-- The network reads a packet: nothing, or the object of its descriptor closes
or gets its tags. -/
inductive Change (n : Network) (packet : Packet) : Network → List Closed → Prop where
  | unchanged : Change n packet n []
  | removed (obj : ConnectObj) : forNetwork packet = true →
      n.connects[packet.socketKey.socket]? = some obj →
      Change n packet (removeConnectObj n packet.socketKey.socket) [backToPool obj]
  | tagged (obj : ConnectObj) : forNetwork packet = true →
      n.connects[packet.socketKey.socket]? = some obj →
      Change n packet (writeBack n packet.socketKey.socket
        { obj with tagKey := copyFrom obj.tagKey packet.tagKey }) []

theorem network_reads_change (n : Network) (packet : Packet) (after : Network) (closed : List Closed)
    (done : networkReads n packet = some (after, closed)) : Change n packet after closed := by
  unfold networkReads at done
  split at done
  · cases done
    exact .unchanged
  · rename_i receives
    have here : addressed packet.toNetIdentify 0 = true := by simpa using receives
    cases kind : packet.kind with
    | networkDisconnect =>
        rw [kind] at done
        cases done
        exact .unchanged
    | networkRequestDisconnect =>
        rw [kind] at done
        have handled : handleDisconnect n packet.toNetIdentify = (after, closed) :=
          Option.some.inj done
        rcases handle_disconnect_cases n packet.toNetIdentify with same | ⟨obj, _, held, removed⟩
        · rw [same] at handled
          cases handled
          exact .unchanged
        · rw [removed] at handled
          cases handled
          exact .removed obj (by simp [forNetwork, here, kind]) held
    | networkListenKey =>
        rw [kind] at done
        dsimp only at done
        split at done
        · obtain ⟨result, handled, same⟩ := Option.map_eq_some_iff.mp done
          cases same
          rcases handle_listen_key_cases n _ packet.toNetIdentify handled with
            rfl | ⟨obj, _, held, rfl⟩
          · exact .unchanged
          · exact .tagged obj (by simp [forNetwork, here, kind]) held
        · cases done
          exact .unchanged
    | other account =>
        rw [kind] at done
        cases done
        exact .unchanged

theorem locator_reads_entry (locator : Table Int Entry) (packet : Packet) (socket : Int)
    (entry : Entry) (listed : (locatorReads locator packet)[socket]? = some entry) :
    locator[socket]? = some entry := by
  unfold locatorReads at listed
  split at listed
  · rw [get_erase] at listed
    split at listed
    · cases listed
    · exact listed
  · exact listed

theorem change_elsewhere (n : Network) (packet : Packet) (after : Network) (closed : List Closed)
    (change : Change n packet after closed) (socket : Int)
    (elsewhere : socket ≠ packet.socketKey.socket) :
    after.connects[socket]? = n.connects[socket]? := by
  cases change with
  | unchanged => rfl
  | removed obj handled held => rw [remove_connects, if_neg elsewhere]
  | tagged obj handled held => exact (get_insert _ _ _ _).trans (if_neg elsewhere)

/-! Every run: connections have their numbers in the order in which they came. -/

theorem numbered_changed (n : Network) (accepted : List SocketKey) (packet : Packet)
    (after : Network) (closed : List Closed) (numbered : Numbered n accepted)
    (change : Change n packet after closed) : Numbered after accepted := by
  cases change with
  | unchanged => exact numbered
  | removed obj handled held => exact numbered_removed n accepted _ numbered
  | tagged obj handled held => exact numbered_written n accepted _ obj _ numbered held rfl rfl

/-! Every run: the notice of a closed connection lies in the queue before every
message of the later connections of its descriptor. -/

structure Logged (accepted : List SocketKey) (log : List Packet) : Prop where
  known : ∀ packet ∈ log, accepted[packet.number]? = some packet.socketKey
  ordered : ∀ (place later : Nat) (packet notice : Packet), log[place]? = some packet →
    log[later]? = some notice → place ≤ later → notice.kind = .networkDisconnect →
    notice.socketKey.socket = packet.socketKey.socket → packet.number ≤ notice.number

theorem logged_grown (accepted : List SocketKey) (log : List Packet) (key : SocketKey)
    (logged : Logged accepted log) : Logged (accepted ++ [key]) log where
  known := fun packet member => accepted_grown key (logged.known packet member)
  ordered := logged.ordered

/-- A message may be added at any time, a notice only as the last word of the
newest connection of its descriptor. -/
theorem logged_added (accepted : List SocketKey) (log : List Packet) (new : Packet)
    (logged : Logged accepted log) (known : accepted[new.number]? = some new.socketKey)
    (newest : new.kind = .networkDisconnect → ∀ (number : Nat) (key : SocketKey),
      accepted[number]? = some key → key.socket = new.socketKey.socket → number ≤ new.number) :
    Logged accepted (log ++ [new]) := by
  constructor
  · intro packet member
    rcases List.mem_append.mp member with old | fresh
    · exact logged.known packet old
    · rw [List.mem_singleton.mp fresh]
      exact known
  · intro place later packet notice there here order kind same
    have owner : accepted[packet.number]? = some packet.socketKey := by
      rcases List.mem_append.mp (List.mem_of_getElem? there) with old | fresh
      · exact logged.known packet old
      · rw [List.mem_singleton.mp fresh]
        exact known
    -- the notice is an old one, the new message or nowhere
    rcases Nat.lt_trichotomy later log.length with inside | last | outside
    · rw [List.getElem?_append_left inside] at here
      rw [List.getElem?_append_left (Nat.lt_of_le_of_lt order inside)] at there
      exact logged.ordered place later packet notice there here order kind same
    · rw [last, List.getElem?_concat_length] at here
      cases here
      exact newest kind packet.number packet.socketKey owner same.symm
    · rw [List.getElem?_eq_none (by simp; omega)] at here
      cases here

/-- A player and an entry of the locator stand for an accepted connection. The
player came with a message of it that its component has read. -/
structure Held (log : List Packet) (readers : Table UInt64 Reader) : Prop where
  brought : ∀ (sn : UInt64) (reader : Reader) (socket : Int) (player : Player Nat),
    readers[sn]? = some reader → getPlayerBySocket reader.collector socket = some player →
    ∃ place packet, place < reader.cursor ∧ log[place]? = some packet ∧
      packet.number = player.components ∧ packet.socketKey.socket = socket

theorem held_added (log : List Packet) (readers : Table UInt64 Reader) (new : List Packet)
    (held : Held log readers) : Held (log ++ new) readers := by
  constructor
  intro sn reader socket player listed found
  obtain ⟨place, packet, before, there, facts⟩ := held.brought sn reader socket player listed found
  obtain ⟨inside, _⟩ := List.getElem?_eq_some_iff.mp there
  exact ⟨place, packet, before, (List.getElem?_append_left inside).trans there, facts⟩

theorem disconnect_cases {Components : Type} (component : Component) (c : Collector Components)
    (identify : NetIdentify) :
    handleNetworkDisconnect component c identify = c ∨
    handleNetworkDisconnect component c identify =
      removePlayerBySocket c identify.socketKey.socket ∨
    handleNetworkDisconnect component c identify = empty := by
  cases component with
  | account =>
      simp only [handleNetworkDisconnect]
      split
      · exact Or.inl rfl
      · exact Or.inr (Or.inl rfl)
  | lobby =>
      simp only [handleNetworkDisconnect]
      split
      · exact Or.inl rfl
      · exact Or.inr (Or.inl rfl)
  | worldProxy spaceAppId =>
      simp only [handleNetworkDisconnect]
      split
      · exact Or.inl rfl
      · split
        · exact Or.inr (Or.inl rfl)
        · split
          · exact Or.inl rfl
          · split
            · exact Or.inl rfl
            · exact Or.inr (Or.inr rfl)

theorem disconnect_players {Components : Type} (component : Component) (c : Collector Components)
    (identify : NetIdentify) (socket : Int) (player : Player Components)
    (found : getPlayerBySocket (handleNetworkDisconnect component c identify) socket = some player) :
    getPlayerBySocket c socket = some player := by
  rcases disconnect_cases component c identify with same | removed | emptied
  · rw [same] at found
    exact found
  · rw [removed, get_by_socket_remove] at found
    split at found
    · cases found
    · exact found
  · rw [emptied] at found
    simp [getPlayerBySocket, empty] at found

theorem component_reads_players (component : Component) (c after : Collector Nat) (packet : Packet)
    (reads : ComponentReads component c packet after) (socket : Int) (player : Player Nat)
    (found : getPlayerBySocket after socket = some player) :
    getPlayerBySocket c socket = some player ∨
      packet.number = player.components ∧ packet.socketKey.socket = socket := by
  cases reads with
  | disconnect kind => exact Or.inl (disconnect_players component c _ socket player found)
  | ignores kind => exact Or.inl found
  | serves account after kind serves =>
      cases serves with
      | passes => exact Or.inl found
      | parts removed =>
          rw [get_by_socket_remove] at found
          split at found
          · cases found
          · exact Or.inl found
      | adds added collector done =>
          obtain ⟨_, rfl, stored⟩ := add_player_some done
          rw [stored socket] at found
          split at found
          · rename_i here
            cases found
            exact Or.inr ⟨rfl, here.symm⟩
          · exact Or.inl found

structure Sound (p : Process) : Prop where
  numbered : Numbered p.network p.accepted
  logged : Logged p.accepted p.log
  held : Held p.log p.readers
  entries : ∀ (socket : Int) (entry : Entry), p.locator[socket]? = some entry →
    ∃ key, p.accepted[entry.number]? = some key ∧ key.socket = socket

theorem start_sound (networkType : NetworkType) : Sound (start networkType) where
  numbered := create_numbered networkType
  logged := ⟨by simp [start], by simp [start]⟩
  held := ⟨by simp [start]⟩
  entries := by simp [start]

theorem sound_parting (p : Process) (socket : Int) (obj : ConnectObj) (sound : Sound p)
    (there : p.network.connects[socket]? = some obj) :
    Sound { p with
      network := removeConnectObj p.network socket
      log := p.log ++ [disconnected (backToPool obj)] } where
  numbered := numbered_removed p.network p.accepted socket sound.numbered
  logged := by
    apply logged_added p.accepted p.log _ sound.logged
    · exact sound.numbered.born socket obj there
    · intro _ number key known same
      have keyed := sound.numbered.paired.keyed socket obj there
      apply sound.numbered.latest socket obj there number key known
      rw [same]
      simp [disconnected, backToPool, keyed]
  held := held_added p.log p.readers _ sound.held
  entries := sound.entries

theorem sound_change (p : Process) (packet : Packet) (after : Network) (closed : List Closed)
    (sound : Sound p) (change : Change p.network packet after closed) :
    Sound { p with network := after, log := p.log ++ closed.map disconnected } := by
  have numbered := numbered_changed p.network p.accepted packet after closed sound.numbered change
  cases change with
  | unchanged =>
      rw [List.map_nil, List.append_nil]
      exact sound
  | removed obj handled there => exact sound_parting p _ obj sound there
  | tagged obj handled there =>
      rw [List.map_nil, List.append_nil]
      exact ⟨numbered, sound.logged, sound.held, sound.entries⟩

theorem sound_create (p : Process) (checked : Bool) (socket : Int) (tagType : TagType)
    (tagValue : TagValue) (state : ConnectStateType) (made : Bool) (network : Network)
    (closed : List Closed) (sound : Sound p)
    (done : createConnectObj p.network checked socket tagType tagValue state p.accepted.length =
      (made, network, closed)) :
    Sound { p with
      network := network
      accepted := if made then p.accepted ++ [⟨socket, p.network.networkType⟩] else p.accepted
      log := p.log ++ closed.map disconnected } := by
  unfold createConnectObj at done
  split at done
  · cases done
    rw [List.map_nil, List.append_nil]
    exact sound
  · split at done
    · rename_i obj there
      cases done
      exact sound_parting p socket obj sound there
    · cases done
      rw [List.map_nil, List.append_nil]
      refine ⟨?_, ?_, sound.held, ?_⟩
      · exact numbered_created p.network p.accepted _ socket sound.numbered rfl rfl
      · exact logged_grown p.accepted p.log _ sound.logged
      · intro other entry listed
        obtain ⟨key, known, same⟩ := sound.entries other entry listed
        exact ⟨key, accepted_grown _ known, same⟩

theorem step_sound (before : Process) (event : Event) (after : Process) (sound : Sound before)
    (step : Step before event after) : Sound after := by
  cases step with
  | create checked socket tagType tagValue state made network closed done =>
      exact sound_create before checked socket tagType tagValue state made network closed sound done
  | close socket obj there => exact sound_parting before socket obj sound there
  | dispatch packet notNotice known =>
      -- threads make no notices, only the network does
      have logged := logged_added before.accepted before.log packet sound.logged known
        fun notice => absurd notice notNotice
      exact ⟨sound.numbered, logged, held_added before.log before.readers _ sound.held, sound.entries⟩
  | ask socket obj there => exact ⟨sound.numbered, sound.logged, sound.held, sound.entries⟩
  | network packet network closed there done =>
      have changed := sound_change before packet network closed sound
        (network_reads_change before.network packet network closed done)
      exact ⟨changed.numbered, changed.logged, changed.held, changed.entries⟩
  | networkOwn packet rest network closed listed done =>
      have changed := sound_change before packet network closed sound
        (network_reads_change before.network packet network closed done)
      exact ⟨changed.numbered, changed.logged, changed.held, changed.entries⟩
  | register number sn key known =>
      refine ⟨sound.numbered, sound.logged, sound.held, ?_⟩
      intro socket entry listed
      simp only [get_insert] at listed
      split at listed
      · rename_i same
        cases listed
        exact ⟨key, known, same.symm⟩
      · exact sound.entries socket entry listed
  | locator packet there =>
      refine ⟨sound.numbered, sound.logged, sound.held, ?_⟩
      intro socket entry listed
      exact sound.entries socket entry (locator_reads_entry before.locator packet socket entry listed)
  | component sn reader packet collector listed there reads =>
      refine ⟨sound.numbered, sound.logged, ⟨?_⟩, sound.entries⟩
      intro other later socket player found player_there
      simp only [get_insert] at found
      split at found
      · cases found
        rcases component_reads_players _ _ _ packet reads socket player player_there with
          old | ⟨number, here⟩
        · obtain ⟨place, first, before', rest⟩ := sound.held.brought sn reader socket player listed old
          exact ⟨place, first, Nat.lt_succ_of_lt before', rest⟩
        · exact ⟨reader.cursor, packet, Nat.lt_succ_self _, there, number, here⟩
      · exact sound.held.brought other later socket player found player_there
  | joined sn component cursor unused inside =>
      refine ⟨sound.numbered, sound.logged, ⟨?_⟩, sound.entries⟩
      intro other later socket player found player_there
      simp only [get_insert] at found
      split at found
      · cases found
        simp [getPlayerBySocket, empty] at player_there
      · exact sound.held.brought other later socket player found player_there
  | parted sn =>
      refine ⟨sound.numbered, sound.logged, ⟨?_⟩, sound.entries⟩
      intro other later socket player found player_there
      simp only [get_erase] at found
      split at found
      · cases found
      · exact sound.held.brought other later socket player found player_there

/-! Punctual runs: what is still to be read is about the newest connection of
its descriptor. -/

structure Timely (p : Process) : Prop where
  control : ∀ packet, Unread p packet → forNetwork packet = true →
    ∀ obj, p.network.connects[packet.socketKey.socket]? = some obj → obj.number = packet.number
  notices : ∀ packet ∈ p.log.drop p.locatorCursor, packet.kind = .networkDisconnect →
    ∀ entry, p.locator[packet.socketKey.socket]? = some entry → entry.number ≤ packet.number

theorem start_timely (networkType : NetworkType) : Timely (start networkType) where
  control := by
    rintro packet (unread | unread)
    · simp [start] at unread
    · simp [start] at unread
  notices := by simp [start]

theorem mem_drop_added {log new : List Packet} {cursor : Nat} {packet : Packet}
    (member : packet ∈ (log ++ new).drop cursor) : packet ∈ log.drop cursor ∨ packet ∈ new := by
  rw [List.drop_append] at member
  rcases List.mem_append.mp member with old | fresh
  · exact Or.inl old
  · exact Or.inr (List.mem_of_mem_drop fresh)

theorem mem_drop_here {log : List Packet} {cursor : Nat} {packet : Packet}
    (there : log[cursor]? = some packet) : packet ∈ log.drop cursor := by
  obtain ⟨inside, same⟩ := List.getElem?_eq_some_iff.mp there
  exact List.mem_drop_iff_getElem.mpr ⟨0, by simpa using inside, by simpa using same⟩

theorem mem_drop_next {log : List Packet} {cursor : Nat} {packet : Packet}
    (member : packet ∈ log.drop (cursor + 1)) : packet ∈ log.drop cursor := by
  rw [← List.drop_drop] at member
  exact List.mem_of_mem_drop member

theorem disconnected_not_for_network (closed : Closed) : forNetwork (disconnected closed) = false := by
  simp [forNetwork, disconnected]

theorem timely_parting (p : Process) (socket : Int) (obj : ConnectObj) (sound : Sound p)
    (timely : Timely p) (there : p.network.connects[socket]? = some obj) :
    Timely { p with
      network := removeConnectObj p.network socket
      log := p.log ++ [disconnected (backToPool obj)] } := by
  have keyed := sound.numbered.paired.keyed socket obj there
  constructor
  · intro packet unread handled other found
    have old : Unread p packet := by
      rcases unread with logged | own
      · rcases mem_drop_added logged with logged | fresh
        · exact Or.inl logged
        · rw [List.mem_singleton.mp fresh, disconnected_not_for_network] at handled
          cases handled
      · exact Or.inr own
    rw [remove_connects] at found
    split at found
    · cases found
    · exact timely.control packet old handled other found
  · intro packet member notice entry listed
    rcases mem_drop_added member with old | fresh
    · exact timely.notices packet old notice entry listed
    · rw [List.mem_singleton.mp fresh] at listed ⊢
      obtain ⟨key, known, same⟩ := sound.entries _ entry listed
      apply sound.numbered.latest socket obj there entry.number key known
      rw [same]
      simp [disconnected, backToPool, keyed]

theorem timely_change (p : Process) (packet : Packet) (after : Network) (closed : List Closed)
    (sound : Sound p) (timely : Timely p) (change : Change p.network packet after closed) :
    Timely { p with network := after, log := p.log ++ closed.map disconnected } := by
  cases change with
  | unchanged =>
      rw [List.map_nil, List.append_nil]
      exact timely
  | removed obj handled there => exact timely_parting p _ obj sound timely there
  | tagged obj handled there =>
      rw [List.map_nil, List.append_nil]
      refine ⟨?_, timely.notices⟩
      intro unread member control other found
      simp only [writeBack, get_insert] at found
      split at found
      · rename_i same
        cases found
        exact timely.control unread member control obj (same ▸ there)
      · exact timely.control unread member control other found

theorem timely_advance (p : Process) (cursor : Nat) (own : List Packet) (timely : Timely p)
    (logged : ∀ packet ∈ p.log.drop cursor, packet ∈ p.log.drop p.networkCursor)
    (kept : ∀ packet ∈ own, packet ∈ p.own) :
    Timely { p with networkCursor := cursor, own := own } where
  control := fun packet unread =>
    timely.control packet (unread.imp (logged packet) (kept packet))
  notices := timely.notices

theorem timely_create (p : Process) (checked : Bool) (socket : Int) (tagType : TagType)
    (tagValue : TagValue) (state : ConnectStateType) (made : Bool) (network : Network)
    (closed : List Closed) (sound : Sound p) (timely : Timely p)
    (punctual : Punctual p (.create checked socket tagType tagValue state))
    (done : createConnectObj p.network checked socket tagType tagValue state p.accepted.length =
      (made, network, closed)) :
    Timely { p with
      network := network
      accepted := if made then p.accepted ++ [⟨socket, p.network.networkType⟩] else p.accepted
      log := p.log ++ closed.map disconnected } := by
  unfold createConnectObj at done
  split at done
  · cases done
    rw [List.map_nil, List.append_nil]
    exact timely
  · rename_i passed
    split at done
    · rename_i obj there
      cases done
      exact timely_parting p socket obj sound timely there
    · rename_i free
      cases done
      rw [List.map_nil, List.append_nil]
      refine ⟨?_, timely.notices⟩
      intro packet unread handled other found
      -- no request for this descriptor is unread, so none names the new object
      have apart := punctual (by simpa using passed) free packet unread handled
      simp only [get_insert, if_neg apart] at found
      exact timely.control packet unread handled other found

theorem step_timely (before : Process) (event : Event) (after : Process) (sound : Sound before)
    (timely : Timely before) (step : Guarded Step Punctual before event after) : Timely after := by
  obtain ⟨step, punctual⟩ := step
  cases step with
  | create checked socket tagType tagValue state made network closed done =>
      exact timely_create before checked socket tagType tagValue state made network closed sound
        timely punctual done
  | close socket obj there => exact timely_parting before socket obj sound timely there
  | dispatch packet notNotice known =>
      constructor
      · rintro unread (logged | own) handled obj found
        · rcases mem_drop_added logged with old | fresh
          · exact timely.control unread (Or.inl old) handled obj found
          · cases List.mem_singleton.mp fresh
            exact punctual handled obj found
        · exact timely.control unread (Or.inr own) handled obj found
      · intro unread member notice
        rcases mem_drop_added member with old | fresh
        · exact timely.notices unread old notice
        · cases List.mem_singleton.mp fresh
          exact absurd notice notNotice
  | ask socket obj there =>
      refine ⟨?_, timely.notices⟩
      rintro packet (logged | own) handled other found
      · exact timely.control packet (Or.inl logged) handled other found
      · rcases List.mem_append.mp own with old | fresh
        · exact timely.control packet (Or.inr old) handled other found
        · -- the request is of the very object the descriptor has
          have keyed := sound.numbered.paired.keyed socket obj there
          rw [List.mem_singleton.mp fresh] at found ⊢
          simp only [keyed] at found
          rw [there] at found
          cases found
          rfl
  | network packet network closed there done =>
      have advanced := timely_advance before (before.networkCursor + 1) before.own timely
        (fun _ => mem_drop_next) (fun _ member => member)
      exact timely_change { before with networkCursor := before.networkCursor + 1 } packet network closed
        ⟨sound.numbered, sound.logged, sound.held, sound.entries⟩ advanced
        (network_reads_change before.network packet network closed done)
  | networkOwn packet rest network closed listed done =>
      have advanced := timely_advance before before.networkCursor rest timely
        (fun _ member => member) (fun other member => by
          rw [listed]
          exact List.mem_cons_of_mem packet member)
      exact timely_change { before with own := rest } packet network closed
        ⟨sound.numbered, sound.logged, sound.held, sound.entries⟩ advanced
        (network_reads_change before.network packet network closed done)
  | register number sn key known =>
      refine ⟨timely.control, ?_⟩
      intro packet member notice entry listed
      simp only [get_insert] at listed
      split at listed
      · rename_i same
        cases listed
        exact punctual key packet known member notice same
      · exact timely.notices packet member notice entry listed
  | locator packet there =>
      refine ⟨timely.control, ?_⟩
      intro other member notice entry listed
      exact timely.notices other (mem_drop_next member) notice entry
        (locator_reads_entry before.locator packet _ entry listed)
  | component sn reader packet collector listed there reads => exact ⟨timely.control, timely.notices⟩
  | joined sn component cursor unused inside => exact ⟨timely.control, timely.notices⟩
  | parted sn => exact ⟨timely.control, timely.notices⟩

theorem change_spares (p after : Process) (packet : Packet) (network : Network)
    (closed : List Closed) (change : Change p.network packet network closed)
    (owned : forNetwork packet = true → ∀ obj,
      p.network.connects[packet.socketKey.socket]? = some obj → obj.number = packet.number)
    (result : after.network = network) (locator : after.locator = p.locator)
    (readers : after.readers = p.readers) : Spares packet p after where
  connections := by
    intro socket obj there apart
    rw [result]
    by_cases elsewhere : socket = packet.socketKey.socket
    · subst elsewhere
      cases change with
      | unchanged => exact there
      | removed obj' handled there' => exact absurd (owned handled obj there) apart
      | tagged obj' handled there' => exact absurd (owned handled obj there) apart
    · rw [change_elsewhere p.network packet network closed change socket elsewhere]
      exact there
  entries := fun socket entry listed _ => by rw [locator]; exact listed
  players := fun sn reader player listed found _ => ⟨reader, by rw [readers]; exact listed, found⟩

/-- The components need no rule: the notice of a connection is in the queue
before all messages of the later ones, so their players are not there yet. -/
theorem component_spares (p after : Process) (sn : UInt64) (reader : Reader) (packet : Packet)
    (collector : Collector Nat) (sound : Sound p) (listed : p.readers[sn]? = some reader)
    (there : p.log[reader.cursor]? = some packet) (control : isControl packet = true)
    (reads : ComponentReads reader.component reader.collector packet collector)
    (network : after.network = p.network) (locator : after.locator = p.locator)
    (readers : after.readers = p.readers.insert sn ⟨reader.component, collector, reader.cursor + 1⟩) :
    Spares packet p after where
  connections := fun socket obj found _ => by rw [network]; exact found
  entries := fun socket entry found _ => by rw [locator]; exact found
  players := by
    intro other found player held there' later
    rw [readers, get_insert]
    by_cases same : other = sn
    · subst same
      rw [listed] at held
      cases held
      rw [if_pos rfl]
      refine ⟨_, rfl, ?_⟩
      cases reads with
      | ignores kind => exact there'
      | serves account after kind serves => simp [isControl, kind] at control
      | disconnect kind =>
          -- the player's first message would lie before the notice of an earlier connection
          obtain ⟨place, first, before, logged, number, socket⟩ :=
            sound.held.brought other reader _ player listed there'
          have order := sound.logged.ordered place reader.cursor first packet logged there
            (Nat.le_of_lt before) kind socket.symm
          omega
    · rw [if_neg same]
      exact ⟨found, held, there'⟩

theorem step_spares (before : Process) (event : Event) (after : Process) (sound : Sound before)
    (timely : Timely before) (step : Step before event after) : SparesLater before event after := by
  intro packet takes control
  cases step with
  | network first network closed there done =>
      cases there.symm.trans takes
      have unread : Unread before packet := Or.inl (mem_drop_here there)
      exact change_spares before _ packet network closed
        (network_reads_change before.network packet network closed done)
        (timely.control packet unread) rfl rfl rfl
  | networkOwn first rest network closed listed done =>
      rw [taken, listed] at takes
      cases takes
      have unread : Unread before packet := Or.inr (by rw [listed]; exact List.mem_cons_self)
      exact change_spares before _ packet network closed
        (network_reads_change before.network packet network closed done)
        (timely.control packet unread) rfl rfl rfl
  | locator first there =>
      cases there.symm.trans takes
      refine ⟨fun _ _ held _ => held, ?_, fun _ reader _ listed found _ => ⟨reader, listed, found⟩⟩
      intro socket entry listed later
      simp only [locatorReads]
      split
      · rename_i notice
        rw [get_erase]
        split
        · rename_i same
          rcases later with apart | later
          · exact absurd same apart
          · have order := timely.notices packet (mem_drop_here there) notice entry (same ▸ listed)
            omega
        · exact listed
      · exact listed
  | component sn reader first collector listed there reads =>
      have same : first = packet := by
        rw [taken, listed] at takes
        exact Option.some.inj (there.symm.trans takes)
      subst same
      exact component_spares before _ sn reader first collector sound listed there control reads
        rfl rfl rfl
  | create checked socket tagType tagValue state made network closed done => cases takes
  | close socket obj there => cases takes
  | dispatch other notNotice known => cases takes
  | ask socket obj there => cases takes
  | register number sn key known => cases takes
  | joined sn component cursor unused inside => cases takes
  | parted sn => cases takes

/-- Along every run that keeps the rules of re-use, no message about a
connection touches what belongs to a later connection of its descriptor. -/
theorem control_messages_spare_later (networkType : NetworkType) {trace : List Event}
    {after : Process} (run : Run (Guarded Step Punctual) (start networkType) trace after) :
    Run (Lawful Step SparesLater) (start networkType) trace after := by
  apply lawful_of_guarded (fun p => Sound p ∧ Timely p) _ _ run
  · exact ⟨start_sound networkType, start_timely networkType⟩
  · rintro before event after ⟨sound, timely⟩ step
    exact ⟨step_sound before event after sound step.1, step_timely before event after sound timely step⟩
  · rintro before event after ⟨sound, timely⟩ step
    exact step_spares before event after sound timely step.1

/-! A descriptor that is used twice. -/

def accept : Event := .create true 5 .none ⟨[], 0⟩ .connected

def early (kind : Kind) : Packet := ⟨⟨⟨5, .tcpListen⟩, addTagStr clear .account [97]⟩, kind, 0⟩

theorem accept_step (p : Process) (free : p.network.connects[(5 : Int)]? = none) :
    Step p accept { p with
      network := { p.network with
        connects := p.network.connects.insert 5
          (awake 5 p.network.networkType .none ⟨[], 0⟩ .connected p.accepted.length)
        sockets := p.network.sockets.insert 5 () }
      accepted := p.accepted ++ [⟨5, p.network.networkType⟩]
      log := p.log ++ [] } :=
  .create p true 5 .none ⟨[], 0⟩ .connected true _ [] (by
    rw [createConnectObj, if_neg (by decide), free])

theorem control_messages_spare_later_twice :
    ∃ after, Run (Lawful Step SparesLater) (start .tcpListen)
      [accept, .dispatch (early .networkListenKey), .network, .close 5, .locator, .locator, accept,
        .register 1 9] after := by
  refine ⟨_, control_messages_spare_later .tcpListen
    (.next ⟨accept_step _ (by simp [start, NetworkConnects.create]), ?_⟩
    (.next ⟨.dispatch _ _ (by decide) rfl, ?_⟩
    (.next ⟨.network _ _ _ [] rfl rfl, trivial⟩
    (.next ⟨.close _ 5 _ rfl, trivial⟩
    (.next ⟨.locator _ _ rfl, trivial⟩
    (.next ⟨.locator _ _ rfl, trivial⟩
    (.next ⟨accept_step _ ?_, ?_⟩
    (.next ⟨.register _ 1 9 _ rfl, ?_⟩ (.refl _)))))))))⟩
  · rintro _ _ packet (logged | own)
    · simp [start] at logged
    · simp [start] at own
  · intro _ obj found
    cases found
    rfl
  · rfl
  · rintro _ _ packet (logged | own) handled
    · -- only the notice of the first connection is left to read
      cases List.mem_singleton.mp logged
      cases handled
    · cases own
  · rintro key packet _ member
    cases member

/-- A request or a key dispatched for the first connection, and read when the
second has the descriptor, closes or tags the second; the notice of the first,
read after the second was registered, takes its entry away. -/
theorem early_messages_hit_successor :
    (∃ before after, Run Step (start .tcpListen)
        [accept, .dispatch (early .networkRequestDisconnect), .close 5, accept] before ∧
      Step before .network after ∧ ¬ SparesLater before .network after) ∧
    (∃ before after, Run Step (start .tcpListen)
        [accept, .dispatch (early .networkListenKey), .close 5, accept] before ∧
      Step before .network after ∧ ¬ SparesLater before .network after) ∧
    ∃ before after, Run Step (start .tcpListen) [accept, .close 5, accept, .register 1 9] before ∧
      Step before .locator after ∧ ¬ SparesLater before .locator after := by
  refine ⟨⟨_, _, .next (accept_step _ rfl) (.next (.dispatch _ _ (by decide) rfl)
      (.next (.close _ 5 _ rfl) (.next (accept_step _ rfl) (.refl _)))),
      .network _ _ _ _ rfl rfl, ?_⟩,
    ⟨_, _, .next (accept_step _ rfl) (.next (.dispatch _ _ (by decide) rfl)
      (.next (.close _ 5 _ rfl) (.next (accept_step _ rfl) (.refl _)))),
      .network _ _ _ _ rfl rfl, ?_⟩,
    _, _, .next (accept_step _ rfl) (.next (.close _ 5 _ rfl)
      (.next (accept_step _ rfl) (.next (.register _ 1 9 _ rfl) (.refl _)))),
      .locator _ _ rfl, ?_⟩
  · intro spares
    have kept := (spares _ rfl rfl).connections 5 _ rfl (by decide)
    cases kept
  · intro spares
    have kept := (spares _ rfl rfl).connections 5 _ rfl (by decide)
    have tagged := congrArg (fun obj => (obj.map fun obj => (obj.tagKey .account).isSome)) kept
    cases tagged
  · intro spares
    have kept := (spares _ rfl rfl).entries 5 _ rfl (Or.inr (by decide))
    cases kept

end GameBook.DescriptorReuse
