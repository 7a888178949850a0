import GameBook.ConnectRecv
import GameBook.MessageSystem

/-!
Where a packet came from, from the connection that received it to the handlers
that run on it. A login or game process puts the packets it creates and those
it receives into one queue, gives each to all its threads, and a thread runs the
handlers registered for the packet's message id (the queues keep the order, see
CacheSwap). The origin of a packet is not in the code.
-/

namespace GameBook.Provenance

open OrderedMap SocketObject ProtoId MachineWord NetworkBuffer TcpFraming LabelledRun
open ConnectRecv (Receiving Server dispatched)
open MessageSystem (Callback functionAt functionCalls processPacket)

inductive AppKind where
  | login
  | game
  deriving DecidableEq, Repr

def libraryRegisters : List MsgId :=
  [.miCreateComponent, .miRemoveComponent, .miCreateSystem, .miCmdThread, .miEfficiency,
    .miCmdEfficiency, .miAppRegister, .miNetworkDisconnect, .miNetworkRequestDisconnect,
    .miNetworkListenKey, .miNetworkConnect]

def loginRegisters : List MsgId :=
  [.c2lAccountCheck, .miAccountQueryOnlineToRedisRs, .miHttpOuterResponse, .l2dbQueryPlayerListRs,
    .miNetworkDisconnect, .miNetworkConnected, .miAppInfoListSync, .c2lCreatePlayer,
    .l2dbCreatePlayerRs, .c2lSelectPlayer, .miLoginTokenToRedisRs, .miAccountSyncOnlineToRedis,
    .miAccountDeleteOnlineToRedis, .miLoginTokenToRedis, .miAccountQueryOnlineToRedis]

/-- What `Lobby`, `WorldProxy`, their locator and gatherer, `RedisGame` and
`SpaceSyncHandler` register. -/
def gameRegisters : List MsgId :=
  [.miNetworkDisconnect, .c2gLoginByToken, .miGameTokenToRedisRs, .g2dbQueryPlayerRs,
    .g2mQueryWorldRs, .miBroadcastCreateWorldProxy, .miTeleportAfter, .miTeleport, .s2gSyncPlayer,
    .c2gEnterWorld, .miBroadcastCreateWorld, .miWorldProxySyncToGather, .miCmdWorldProxy,
    .miPlayerSyncOnlineToRedis, .miPlayerDeleteOnlineToRedis, .miGameTokenToRedis, .miAppInfoSync,
    .miCmdApp]

def registers (kind : AppKind) (msgId : MsgId) : Bool :=
  libraryRegisters.contains msgId ||
    match kind with
    | .login => loginRegisters.contains msgId
    | .game => gameRegisters.contains msgId

/-- Messages that are not for a client to send. A client sends requests and
pings, and a connection that is to become an application's sends MI_AppRegister. -/
def isInternal : MsgId → Bool
  | .miPing => false
  | .miAppRegister => false
  | .c2lAccountCheck => false
  | .c2lCreatePlayer => false
  | .c2lSelectPlayer => false
  | .c2gLoginByToken => false
  | .c2gEnterWorld => false
  | .c2sMove => false
  | _ => true

inductive Origin where
  | process
  | application
  | client
  deriving DecidableEq, Repr

/-- A connection with an App tag is an application's. -/
def originOf (tagKey : TagKey) : Origin :=
  match tagKey .app with
  | none => .client
  | some _ => .application

structure Tagged where
  packet : Packet
  origin : Origin

structure Connection where
  tagKey : TagKey
  receiving : Receiving

structure Thread (Handler : Type) where
  system : MessageSystem Handler
  packets : List Tagged

structure Handled (Handler : Type) where
  item : Tagged
  sn : UInt64
  callback : Callback Handler

structure Process (Handler : Type) where
  connections : Table Int Connection
  packets : List Tagged
  threads : Table Nat (Thread Handler)
  handled : List (Handled Handler)

variable {Handler : Type}

def start : Process Handler := ⟨∅, [], ∅, []⟩

def messageOf (p : Packet) : MessageSystem.Packet := ⟨number p.msgId, p.tagKey⟩

def dispatches (c : Connection) (after : Receiving) : List Tagged :=
  (dispatched (after.decoded.drop c.receiving.decoded.length)).map fun one =>
    ⟨one.packet, originOf c.tagKey⟩

def handlers (finds : Handler → Bool) (system : MessageSystem Handler) (item : Tagged) :
    List (Handled Handler) :=
  ((functionCalls system (messageOf item.packet)).filter fun entry =>
    processPacket finds entry.2).map fun entry => ⟨item, entry.1, entry.2⟩

inductive Event (Handler : Type) where
  | accept (socket : Int)
  | close (socket : Int)
  | tag (socket : Int)
  | recv (socket : Int) (event : ConnectRecv.Event)
  | dispatch (item : Tagged)
  | add (thread : Nat) (item : Tagged)
  | join (thread : Nat)
  | registerFunction (thread : Nat) (sn : UInt64) (msgId : MsgId) (callback : Callback Handler)
  | registerDefaultFunction (thread : Nat) (sn : UInt64) (callback : Callback Handler)
  | removeFunction (thread : Nat) (sn : UInt64)
  | distribute
  | update (thread : Nat) (finds : Handler → Bool)

def Reads (c : Connection) : ConnectRecv.Event → Prop
  | .recv _ => True
  | .fetch server => server.tagKey = c.tagKey

inductive Step (kind : AppKind) : Process Handler → Event Handler → Process Handler → Prop where
  /-- The receive buffer is one of the pool, with what was last in it. -/
  | accept (p : Process Handler) (socket : Int) (buffer : Buffer) :
      p.connections[socket]? = none →
      Step kind p (.accept socket)
        { p with connections := p.connections.insert socket ⟨clear, buffer, []⟩ }
  | close (p : Process Handler) (socket : Int) :
      Step kind p (.close socket) { p with connections := p.connections.erase socket }
  /-- A MI_NetworkListenKey was handled. -/
  | tag (p : Process Handler) (socket : Int) (c : Connection) (tagKey : TagKey) :
      p.connections[socket]? = some c → ConnectTags tagKey →
      Step kind p (.tag socket)
        { p with connections := p.connections.insert socket { c with tagKey := tagKey } }
  | recv (p : Process Handler) (socket : Int) (c : Connection) (event : ConnectRecv.Event)
      (after : Receiving) :
      p.connections[socket]? = some c → Reads c event →
      ConnectRecv.Step ⟨socket, .tcpListen⟩ c.receiving event after →
      Step kind p (.recv socket event) { p with
        connections := p.connections.insert socket { c with receiving := after }
        packets := p.packets ++ dispatches c after }
  /-- The process dispatches a packet of its own, or one of an application it
  has connected to. -/
  | dispatch (p : Process Handler) (item : Tagged) :
      item.origin ≠ .client → Step kind p (.dispatch item) { p with packets := p.packets ++ [item] }
  /-- A component gives its own thread a packet. -/
  | add (p : Process Handler) (thread : Nat) (t : Thread Handler) (item : Tagged) :
      p.threads[thread]? = some t → item.origin = .process →
      Step kind p (.add thread item)
        { p with threads := p.threads.insert thread { t with packets := t.packets ++ [item] } }
  | join (p : Process Handler) (thread : Nat) :
      p.threads[thread]? = none →
      Step kind p (.join thread)
        { p with threads := p.threads.insert thread ⟨MessageSystem.new, []⟩ }
  | registerFunction (p : Process Handler) (thread : Nat) (t : Thread Handler) (sn : UInt64)
      (msgId : MsgId) (callback : Callback Handler) :
      p.threads[thread]? = some t → registers kind msgId = true →
      Step kind p (.registerFunction thread sn msgId callback) { p with
        threads := p.threads.insert thread { t with
          system := MessageSystem.registerFunction t.system sn (number msgId) callback } }
  | registerDefaultFunction (p : Process Handler) (thread : Nat) (t : Thread Handler) (sn : UInt64)
      (callback : Callback Handler) :
      p.threads[thread]? = some t →
      Step kind p (.registerDefaultFunction thread sn callback) { p with
        threads := p.threads.insert thread { t with
          system := MessageSystem.registerDefaultFunction t.system sn callback } }
  | removeFunction (p : Process Handler) (thread : Nat) (t : Thread Handler) (sn : UInt64) :
      p.threads[thread]? = some t →
      Step kind p (.removeFunction thread sn) { p with
        threads := p.threads.insert thread { t with
          system := MessageSystem.removeFunction t.system sn } }
  /-- `UpdateDispatchPacket`: one packet goes to every thread. -/
  | distribute (p : Process Handler) (item : Tagged) (rest : List Tagged) :
      p.packets = item :: rest →
      Step kind p .distribute { p with
        packets := rest
        threads := p.threads.map fun _ t => { t with packets := t.packets ++ [item] } }
  /-- `MessageSystem::Update` of a thread comes to its next packet. -/
  | update (p : Process Handler) (thread : Nat) (t : Thread Handler) (finds : Handler → Bool)
      (item : Tagged) (rest : List Tagged) :
      p.threads[thread]? = some t → t.packets = item :: rest →
      Step kind p (.update thread finds) { p with
        threads := p.threads.insert thread
          ⟨(MessageSystem.process finds t.system (messageOf item.packet)).1, rest⟩
        handled := p.handled ++ handlers finds t.system item }

/-! The law, and the rule for what a client may send. -/

/-- No handler of an internal message ran on a packet that a client sent. -/
def ClientsKeptOut (p : Process Handler) : Prop :=
  ∀ run ∈ p.handled, isInternal run.item.packet.msgId = true → run.item.origin ≠ .client

/-- The `MsgId` field of the frame that is next in a receive buffer, when the
announced bytes are there. -/
def nextMsgId (b : Buffer) : Option MsgId :=
  if b.dataSize < 2 then none
  else if b.dataSize < totalSize b then none
  else findValueByNumber (fromLittleEndian ((head b).take 2))

/-- `GetPacket` is called on a connection without App tag only when the frame
that is next is no internal message that the process has a handler for. -/
def Outside (kind : AppKind) (p : Process Handler) : Event Handler → Prop
  | .recv socket (.fetch _) =>
      ∀ (c : Connection) (msgId : MsgId), p.connections[socket]? = some c →
        c.tagKey .app = none → nextMsgId c.receiving.buffer = some msgId →
        isInternal msgId = true → registers kind msgId = false
  | _ => True

/-! What the steps keep. -/

/-- A packet of a client that is internal is one the process has no handler for. -/
def Filtered (kind : AppKind) (item : Tagged) : Prop :=
  item.origin = .client → isInternal item.packet.msgId = true →
    registers kind item.packet.msgId = false

def Expected (kind : AppKind) (system : MessageSystem Handler) : Prop :=
  ∀ (msgId : MsgId) (sn : UInt64) (callback : Callback Handler),
    functionAt system (number msgId) sn = some callback → registers kind msgId = true

structure Sound (kind : AppKind) (p : Process Handler) : Prop where
  queued : ∀ item ∈ p.packets, Filtered kind item
  given : ∀ (thread : Nat) (t : Thread Handler), p.threads[thread]? = some t →
    ∀ item ∈ t.packets, Filtered kind item
  expected : ∀ (thread : Nat) (t : Thread Handler), p.threads[thread]? = some t →
    Expected kind t.system
  kept : ClientsKeptOut p

theorem start_sound (kind : AppKind) : Sound kind (start : Process Handler) where
  queued := by simp [start]
  given := by simp [start]
  expected := by simp [start]
  kept := by simp [start, ClientsKeptOut]

theorem number_injective {first second : MsgId} (same : number first = number second) :
    first = second := by
  have found := find_value_number first
  rw [same, find_value_number second] at found
  exact (Option.some.inj found).symm

theorem new_expected (kind : AppKind) : Expected kind (MessageSystem.new : MessageSystem Handler) := by
  intro msgId sn callback found
  simp [functionAt, MessageSystem.new] at found

theorem register_expected (kind : AppKind) (system : MessageSystem Handler) (sn : UInt64)
    (msgId : MsgId) (callback : Callback Handler) (expected : Expected kind system)
    (known : registers kind msgId = true) :
    Expected kind (MessageSystem.registerFunction system sn (number msgId) callback) := by
  intro other object held found
  rw [MessageSystem.register_function_at] at found
  split at found
  · rename_i here
    rw [number_injective (Int.ofNat.inj here.1)]
    exact known
  · exact expected other object held found

theorem remove_expected (kind : AppKind) (system : MessageSystem Handler) (sn : UInt64)
    (expected : Expected kind system) :
    Expected kind (MessageSystem.removeFunction system sn) := by
  intro msgId object callback found
  rw [MessageSystem.remove_function_at] at found
  split at found
  · cases found
  · exact expected msgId object callback found

theorem process_expected (kind : AppKind) (finds : Handler → Bool) (system : MessageSystem Handler)
    (packet : MessageSystem.Packet) (expected : Expected kind system) :
    Expected kind (MessageSystem.process finds system packet).1 := by
  intro msgId object callback found
  rw [functionAt, (MessageSystem.process_kept finds system packet).1] at found
  exact expected msgId object callback found

theorem function_call_at (system : MessageSystem Handler) (packet : MessageSystem.Packet)
    (entry : UInt64 × Callback Handler) (asked : entry ∈ functionCalls system packet) :
    functionAt system packet.msgId entry.1 = some entry.2 := by
  by_cases addressed : 0 < MessageSystem.entitySn packet
  · rw [MessageSystem.function_calls_entity system packet addressed] at asked
    obtain ⟨callback, found, rfl⟩ := Option.map_eq_some_iff.mp (Option.mem_toList.mp asked)
    exact found
  · exact ((MessageSystem.function_calls_all system packet addressed).2 entry.1 entry.2).mp asked

theorem handlers_kept_out (kind : AppKind) (finds : Handler → Bool) (system : MessageSystem Handler)
    (item : Tagged) (expected : Expected kind system) (filtered : Filtered kind item)
    (run : Handled Handler) (member : run ∈ handlers finds system item) :
    isInternal run.item.packet.msgId = true → run.item.origin ≠ .client := by
  obtain ⟨entry, asked, rfl⟩ := List.mem_map.mp member
  intro internal client
  have found := function_call_at system (messageOf item.packet) entry (List.mem_of_mem_filter asked)
  have known := expected item.packet.msgId entry.1 entry.2 found
  rw [filtered client internal] at known
  cases known

theorem packet_msg_id (fuel pooled : Nat) (conn : NetIdentify) (b : Buffer) (p : Packet)
    (done : (getTcpPacket fuel pooled conn b).outcome = some (.packet p)) :
    nextMsgId b = some p.msgId := by
  unfold getTcpPacket at done
  unfold nextMsgId
  split at done
  · cases done
  · rename_i counted
    rw [if_neg counted]
    split at done
    · cases done
    · rename_i whole
      rw [if_neg whole]
      split at done
      · cases done
      · rename_i msgId found
        obtain ⟨size, _, same⟩ := Option.map_eq_some_iff.mp done
        cases same
        exact found

theorem dispatches_filtered (kind : AppKind) (socketKey : SocketKey) (c : Connection)
    (event : ConnectRecv.Event) (after : Receiving)
    (step : ConnectRecv.Step socketKey c.receiving event after)
    (outside : ∀ server, event = .fetch server → ∀ msgId, c.tagKey .app = none →
      nextMsgId c.receiving.buffer = some msgId → isInternal msgId = true →
      registers kind msgId = false)
    (item : Tagged) (member : item ∈ dispatches c after) : Filtered kind item := by
  obtain ⟨one, dispatched, rfl⟩ := List.mem_map.mp member
  have new := List.mem_of_mem_filter dispatched
  intro client internal
  have untagged : c.tagKey .app = none := by
    cases app : c.tagKey .app with
    | none => rfl
    | some value => simp [originOf, app] at client
  cases step with
  | recv bytes some offered => simp at new
  | fetch server fuel pooled outcome connected done =>
      simp only [List.drop_left] at new
      cases outcome with
      | null => cases new
      | closed => cases new
      | packet p =>
          cases List.mem_singleton.mp new
          have same : (ConnectRecv.tagPacket server p).msgId = p.msgId := by
            unfold ConnectRecv.tagPacket
            split
            · rfl
            · rfl
          rw [same] at internal ⊢
          exact outside server rfl p.msgId untagged (packet_msg_id fuel pooled _ _ p done) internal

theorem store_thread_sound (kind : AppKind) (p : Process Handler) (thread : Nat) (t : Thread Handler)
    (sound : Sound kind p) (given : ∀ item ∈ t.packets, Filtered kind item)
    (expected : Expected kind t.system) :
    Sound kind { p with threads := p.threads.insert thread t } := by
  refine ⟨sound.queued, ?_, ?_, sound.kept⟩
  · intro other found held
    simp only [get_insert] at held
    split at held
    · cases held
      exact given
    · exact sound.given other found held
  · intro other found held
    simp only [get_insert] at held
    split at held
    · cases held
      exact expected
    · exact sound.expected other found held

theorem step_sound (kind : AppKind) (before : Process Handler) (event : Event Handler)
    (after : Process Handler) (sound : Sound kind before)
    (step : Guarded (Step kind) (Outside kind) before event after) : Sound kind after := by
  obtain ⟨step, outside⟩ := step
  cases step with
  | accept socket buffer free => exact ⟨sound.queued, sound.given, sound.expected, sound.kept⟩
  | close socket => exact ⟨sound.queued, sound.given, sound.expected, sound.kept⟩
  | tag socket c tagKey held connected =>
      exact ⟨sound.queued, sound.given, sound.expected, sound.kept⟩
  | recv socket c event next held reads received =>
      refine ⟨?_, sound.given, sound.expected, sound.kept⟩
      intro item member
      rcases List.mem_append.mp member with old | new
      · exact sound.queued item old
      -- only a fetch dispatches, and the guard is about its frame
      · apply dispatches_filtered kind ⟨socket, .tcpListen⟩ c event next received _ item new
        rintro server rfl msgId untagged frame internal
        exact outside c msgId held untagged frame internal
  | dispatch item own =>
      refine ⟨?_, sound.given, sound.expected, sound.kept⟩
      intro other member
      rcases List.mem_append.mp member with old | new
      · exact sound.queued other old
      · rw [List.mem_singleton.mp new]
        exact fun client => absurd client own
  | add thread t item held own =>
      apply store_thread_sound kind before thread _ sound
      · intro other member
        rcases List.mem_append.mp member with old | new
        · exact sound.given thread t held other old
        · rw [List.mem_singleton.mp new]
          intro client
          rw [own] at client
          cases client
      · exact sound.expected thread t held
  | join thread free =>
      apply store_thread_sound kind before thread _ sound
      · intro item member
        cases member
      · exact new_expected kind
  | registerFunction thread t sn msgId callback held known =>
      apply store_thread_sound kind before thread _ sound
      · exact sound.given thread t held
      · exact register_expected kind t.system sn msgId callback (sound.expected thread t held) known
  | registerDefaultFunction thread t sn callback held =>
      apply store_thread_sound kind before thread _ sound
      · exact sound.given thread t held
      · exact sound.expected thread t held
  | removeFunction thread t sn held =>
      apply store_thread_sound kind before thread _ sound
      · exact sound.given thread t held
      · exact remove_expected kind t.system sn (sound.expected thread t held)
  | distribute item rest queue =>
      have first : Filtered kind item := sound.queued item (by rw [queue]; exact List.mem_cons_self)
      refine ⟨?_, ?_, ?_, sound.kept⟩
      · intro other member
        exact sound.queued other (by rw [queue]; exact List.mem_cons_of_mem item member)
      · intro thread t held other member
        rw [Std.ExtTreeMap.getElem?_map] at held
        obtain ⟨old, there, rfl⟩ := Option.map_eq_some_iff.mp held
        rcases List.mem_append.mp member with earlier | new
        · exact sound.given thread old there other earlier
        · rw [List.mem_singleton.mp new]
          exact first
      · intro thread t held
        rw [Std.ExtTreeMap.getElem?_map] at held
        obtain ⟨old, there, rfl⟩ := Option.map_eq_some_iff.mp held
        exact sound.expected thread old there
  -- a filtered packet of a client meets no callback of the thread
  | update thread t finds item rest held queue =>
      have expected := sound.expected thread t held
      have filtered := sound.given thread t held item (by rw [queue]; exact List.mem_cons_self)
      have stored := store_thread_sound kind before thread
        ⟨(MessageSystem.process finds t.system (messageOf item.packet)).1, rest⟩ sound
        (fun other member => sound.given thread t held other
          (by rw [queue]; exact List.mem_cons_of_mem item member))
        (process_expected kind finds t.system _ expected)
      refine ⟨stored.queued, stored.given, stored.expected, ?_⟩
      intro run member
      rcases List.mem_append.mp member with old | new
      · exact sound.kept run old
      · exact handlers_kept_out kind finds t.system item expected filtered run new

/-- In every state of a run in which clients send only what is theirs to send,
no handler of an internal message has run on a client's packet. -/
theorem clients_kept_out (kind : AppKind) {trace : List (Event Handler)} {after : Process Handler}
    (run : Run (Guarded (Step kind) (Outside kind)) start trace after) : ClientsKeptOut after :=
  (run_invariant (Sound kind) (step_sound kind) run (start_sound kind)).kept

/-! A client's frame on its way to a handler. -/

def client : SocketKey := ⟨3, .tcpListen⟩

def unrouted : Server := ⟨clear, none⟩

theorem frame_dispatched (kind : AppKind) (p : Process Handler) (frame : List UInt8) (msgId : MsgId)
    (held : p.connections[(3 : Int)]? = some ⟨clear, create 131072, []⟩) (some : frame ≠ [])
    (offered : frame.length ≤ 131072) (whole : ¬ Waits frame) (framed : Framed frame)
    (known : frameMsgId frame = .some msgId) (notPing : msgId ≠ .miPing) :
    ∃ b connections, nextMsgId b = .some msgId ∧
      Step kind p (.recv 3 (.recv frame)) { p with
        connections := p.connections.insert 3 ⟨clear, b, []⟩
        packets := p.packets ++ [] } ∧
      Step kind { p with
          connections := p.connections.insert 3 ⟨clear, b, []⟩
          packets := p.packets ++ [] } (.recv 3 (.fetch unrouted)) { p with
        connections := connections
        packets := p.packets ++ [] ++ [⟨framePacket ⟨client, clear⟩ msgId frame, .client⟩] } := by
  obtain ⟨b, after, received, done, fetched⟩ :=
    ConnectRecv.frame_steps client unrouted frame msgId ConnectTags.accepted some offered whole framed
      known
  have here : (p.connections.insert 3 ⟨clear, b, []⟩)[(3 : Int)]? = .some ⟨clear, b, []⟩ :=
    (get_insert _ _ _ _).trans (if_pos rfl)
  have one : dispatches ⟨clear, b, []⟩ ⟨after,
      [⟨ConnectRecv.tagPacket unrouted (framePacket ⟨client, unrouted.tagKey⟩ msgId frame),
        frameHeadSize frame, frameHead frame, unrouted⟩]⟩ =
      [⟨framePacket ⟨client, clear⟩ msgId frame, .client⟩] := by
    have kept : (ConnectRecv.tagPacket unrouted
        (framePacket ⟨client, unrouted.tagKey⟩ msgId frame)).msgId ≠ .miPing := notPing
    simp only [dispatches, dispatched, List.length_nil, List.drop_zero]
    rw [List.filter_cons_of_pos (by simp [kept])]
    rfl
  have second : Step kind { p with
      connections := p.connections.insert 3 ⟨clear, b, []⟩
      packets := p.packets ++ [] } (.recv 3 (.fetch unrouted)) _ :=
    .recv _ 3 ⟨clear, b, []⟩ (.fetch unrouted) _ here rfl fetched
  rw [one] at second
  exact ⟨b, _, packet_msg_id 2 10240 _ b _ done,
    .recv p 3 ⟨clear, create 131072, []⟩ (.recv frame) ⟨b, []⟩ held trivial received, second⟩

def waiting (msgId : MsgId) : Process Nat where
  connections := (∅ : Table Int Connection).insert 3 ⟨clear, create 131072, []⟩
  packets := []
  threads := ((∅ : Table Nat (Thread Nat)).insert 0 ⟨MessageSystem.new, []⟩).insert 0
    ⟨MessageSystem.registerFunction MessageSystem.new 1 (number msgId) (.message 5), []⟩
  handled := []

def served (msgId : MsgId) (frame : List UInt8) : List (Event Nat) :=
  [.join 0, .registerFunction 0 1 msgId (.message 5), .accept 3, .recv 3 (.recv frame),
    .recv 3 (.fetch unrouted), .distribute, .update 0 (fun _ => true)]

def tokenFrame : List UInt8 := [6, 0, 2, 0, 79, 4]

theorem clients_kept_out_entering :
    ∃ after : Process Nat, Run (Guarded (Step .game) (Outside .game)) start
        (served .c2gEnterWorld ConnectRecv.shortFrame) after ∧
      after.handled.length = 1 ∧ ClientsKeptOut after := by
  obtain ⟨b, connections, next, received, fetched⟩ := frame_dispatched .game (waiting .c2gEnterWorld)
    ConnectRecv.shortFrame .c2gEnterWorld rfl (by decide) (by decide) (by decide)
    ⟨by decide, by decide⟩ (by decide) (by decide)
  have outside : Outside .game { waiting .c2gEnterWorld with
      connections := (waiting .c2gEnterWorld).connections.insert 3 ⟨clear, b, []⟩
      packets := (waiting .c2gEnterWorld).packets ++ [] } (.recv 3 (.fetch unrouted)) := by
    intro c msgId held _ frame internal
    simp only [get_insert] at held
    cases held
    rw [next] at frame
    cases frame
    cases internal
  have run : Run (Guarded (Step .game) (Outside .game)) start
      (served .c2gEnterWorld ConnectRecv.shortFrame) _ :=
    .next ⟨.join _ 0 rfl, trivial⟩ (.next ⟨.registerFunction _ 0 _ 1 _ _ rfl (by decide), trivial⟩
      (.next ⟨.accept _ 3 (create 131072) rfl, trivial⟩ (.next ⟨received, trivial⟩
      (.next ⟨fetched, outside⟩ (.next ⟨.distribute _ _ _ rfl, trivial⟩
      (.next ⟨.update _ 0 _ _ _ _ rfl rfl, trivial⟩ (.refl _)))))))
  exact ⟨_, run, rfl, clients_kept_out .game run⟩

/-- A client sends the answer of redis to a game token: the handler of the lobby
runs on it. -/
theorem client_answers_for_redis :
    ∃ after : Process Nat, Run (Step .game) start (served .miGameTokenToRedisRs tokenFrame) after ∧
      ¬ ClientsKeptOut after := by
  obtain ⟨b, connections, next, received, fetched⟩ := frame_dispatched .game
    (waiting .miGameTokenToRedisRs) tokenFrame .miGameTokenToRedisRs rfl (by decide) (by decide)
    (by decide) ⟨by decide, by decide⟩ (by decide) (by decide)
  refine ⟨_, .next (.join _ 0 rfl) (.next (.registerFunction _ 0 _ 1 _ _ rfl (by decide))
    (.next (.accept _ 3 (create 131072) rfl) (.next received (.next fetched
    (.next (.distribute _ _ _ rfl) (.next (.update _ 0 _ _ _ _ rfl rfl) (.refl _))))))), ?_⟩
  intro out
  exact out _ (List.mem_of_getElem? (i := 0) rfl) rfl rfl

end GameBook.Provenance
