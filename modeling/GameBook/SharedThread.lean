import GameBook.AllInOne

/-!
A world and its proxy on one thread of the all-in-one server. They have the
same SN, and `insert` keeps the callback of the world, which comes first, where
both register one for MI_NetworkDisconnect: the proxy never hears that a client
is gone.
-/

namespace GameBook.SharedThread

open SocketObject AppKey ProtoId MessageSystem LabelledRun WorldTraffic Deployments
open AllInOne (lineSetting lineProto comes seatedProxy)
open LastMap (PlayerProto)
open SpaceWorld (World Message handle)
open WorldProxy (Proxy)
open PlayerCollector (getPlayerBySocket removePlayerBySocket get_by_socket_remove)

variable {Position Direction : Type}

structure Shared (Position Direction : Type) where
  world : World Position Direction
  proxy : Proxy (PlayerProto Position)
  system : System

structure Sides (Position Direction : Type) where
  world : WorldSide Position Direction
  proxy : ProxySide Position

variable (setting : Setting Position Direction) (own : Process)

inductive SharedEffect (p : Packet Position) :
    Sides Position Direction → Handler → Sides Position Direction → Prop where
  | world (sides : Sides Position Direction) (handler : Handler) (after : WorldSide Position Direction) :
      WorldEffect setting p sides.world handler after →
      SharedEffect p sides handler { sides with world := after }
  | proxy (sides : Sides Position Direction) (handler : Handler) (after : ProxySide Position) :
      ProxyEffect setting own p sides.proxy handler after →
      SharedEffect p sides handler { sides with proxy := after }

def sharedFinds (others : Handler → Bool) (before : Shared Position Direction) (p : Packet Position) :
    Handler → Bool :=
  worldFinds (proxyFinds others before.proxy p) before.world p

/-- The thread takes a packet from its list, or a timer of the world fires. -/
inductive Turn (Position Direction : Type) where
  | packet (p : Packet Position)
  | timer (message : Message Position Direction)

def sharedStep (before : Shared Position Direction) (turn : Turn Position Direction)
    (after : Shared Position Direction) : Prop :=
  match turn with
  | .packet p =>
      ∃ others sides,
        after = ⟨sides.world.world, sides.proxy.proxy,
          (process (sharedFinds others before p) before.system (asked p)).1⟩ ∧
        Run (SharedEffect setting own p) ⟨⟨before.world, []⟩, ⟨before.proxy, [], []⟩⟩
          (invoked setting.sn (sharedFinds others before p)
            (process (sharedFinds others before p) before.system (asked p)).2) sides
  | .timer message =>
      ∃ world, isTimer message = true ∧
        handle setting.resources setting.motion before.world message = some world ∧
        after = { before with world := world }

/-- The world is there first: its broadcast has the proxy made. -/
def sharedStart (worldId : Int) (system : System) : Shared Position Direction where
  world := SpaceWorld.create worldId setting.sn
  proxy := WorldProxy.create setting.sn
  system := worldProxyAwake setting.sn (worldAwake setting.sn system)

/-- A thread with a proxy whose world is elsewhere. -/
structure Alone (Position : Type) where
  proxy : Proxy (PlayerProto Position)
  system : System

def aloneStep (before : Alone Position) (p : Packet Position) (after : Alone Position) : Prop :=
  ∃ side, ProxyTakes setting own p before.system before.proxy after.system side ∧ after.proxy = side.proxy

def aloneStart (system : System) : Alone Position where
  proxy := WorldProxy.create setting.sn
  system := worldProxyAwake setting.sn system

/-! ### The functions of the thread -/

theorem shared_registered (sn : UInt64) (system : System) (unused : Unused sn system) :
    Registered (worldFunctions ++ worldProxyFunctions) (some (.message .proxyDefault)) sn
      (worldProxyAwake sn (worldAwake sn system)) := by
  constructor
  · intro msgId
    rw [worldProxyAwake, register_default_functions, worldAwake, register_all_at, register_all_at, unused.1,
      List.lookup_append]
    rfl
  · have none : (registerAll sn worldProxyFunctions (worldAwake sn system)).defaultCallbacks[sn]? = none := by
      rw [register_all_default, worldAwake, register_all_default, unused.2]
    rw [worldProxyAwake, register_default_at, if_pos ⟨rfl, none⟩]

/-- Where a function for the message takes every packet, nothing else is reached. -/
theorem reached_only {functions : Functions} {default : Option (Callback Handler)} {sn : UInt64}
    {finds : Handler → Bool} {p : Packet Position} {handler : Handler}
    (registered : functions.lookup (msgIdOf p.content) = some (.message handler)) :
    reached functions default sn finds p =
      if entitySn (asked p) = sn ∨ entitySn (asked p) = 0 then [handler] else [] := by
  have found : ownFunction functions finds (msgIdOf p.content) = [handler] := by
    rw [ownFunction, registered]
    rfl
  unfold reached
  rw [found]
  by_cases own : entitySn (asked p) = sn
  · simp [own]
  · by_cases all : entitySn (asked p) = 0 <;> simp [own, all]

variable {setting} {own}

theorem shared_effects_kept {p : Packet Position} {handlers : List Handler}
    {before after : Sides Position Direction} (run : Run (SharedEffect setting own p) before handlers after)
    (deaf : ∀ handler ∈ handlers, handler = .world (msgIdOf p.content)) : after.proxy = before.proxy := by
  induction run with
  | refl _ => rfl
  | next taken _ ih =>
      have kept := ih (fun handler member => deaf handler (List.mem_cons_of_mem _ member))
      have heard := deaf _ List.mem_cons_self
      cases taken with
      | world _ _ => exact kept
      | proxy _ effect =>
          cases effect with
          | function _ _ _ _ _ => cases heard
          | default _ => cases heard

theorem shared_step_registered {before after : Shared Position Direction} {turn : Turn Position Direction}
    (registered : Registered (worldFunctions ++ worldProxyFunctions) (some (.message .proxyDefault))
      setting.sn before.system) (taken : sharedStep setting own before turn after) :
    Registered (worldFunctions ++ worldProxyFunctions) (some (.message .proxyDefault)) setting.sn
      after.system := by
  cases turn with
  | packet p =>
      obtain ⟨others, sides, rfl, _⟩ := taken
      exact process_registered registered _ _
  | timer message =>
      obtain ⟨world, _, _, rfl⟩ := taken
      exact registered

theorem shared_step_of_only (positive : setting.sn ≠ 0) {before : Shared Position Direction}
    {p : Packet Position} {handler : Handler} (registered : Registered (worldFunctions ++ worldProxyFunctions)
      (some (.message .proxyDefault)) setting.sn before.system)
    (only : (worldFunctions ++ worldProxyFunctions).lookup (msgIdOf p.content) = some (.message handler))
    (addressed : entitySn (asked p) = setting.sn ∨ entitySn (asked p) = 0) {after : Sides Position Direction}
    (effect : SharedEffect setting own p ⟨⟨before.world, []⟩, ⟨before.proxy, [], []⟩⟩ handler after) :
    ∃ system, sharedStep setting own before (.packet p) ⟨after.world.world, after.proxy.proxy, system⟩ := by
  refine ⟨_, fun _ => false, after, rfl, ?_⟩
  rw [invoked_process registered positive, reached_only only, if_pos addressed]
  exact Run.next effect (Run.refl _)

theorem shared_step_disconnect (positive : setting.sn ≠ 0) {before after : Shared Position Direction}
    {p : Packet Position} (registered : Registered (worldFunctions ++ worldProxyFunctions)
      (some (.message .proxyDefault)) setting.sn before.system)
    (taken : sharedStep setting own before (.packet p) after) (gone : p.content = .networkDisconnect) :
    after.proxy = before.proxy := by
  obtain ⟨others, sides, rfl, run⟩ := taken
  have first : (worldFunctions ++ worldProxyFunctions).lookup (msgIdOf p.content) =
      some (.message (.world .miNetworkDisconnect)) := by
    rw [gone]
    rfl
  rw [invoked_process registered positive, reached_only first] at run
  have deaf : ∀ handler ∈ (if entitySn (asked p) = setting.sn ∨ entitySn (asked p) = 0 then
      [Handler.world .miNetworkDisconnect] else []), handler = .world (msgIdOf p.content) := by
    intro handler member
    rw [gone]
    split at member
    · exact List.mem_singleton.mp member
    · cases member
  exact congrArg ProxySide.proxy (shared_effects_kept run deaf)

theorem alone_step_disconnect (positive : setting.sn ≠ 0) {before after : Alone Position}
    {p : Packet Position} (registered : Registered worldProxyFunctions (some (.message .proxyDefault))
      setting.sn before.system) (taken : aloneStep setting own before p after)
    (gone : p.content = .networkDisconnect) (tcp : isTcp p.socketKey.netType = true)
    (account : p.tagKey .account ≠ none) (addressed : entitySn (asked p) = setting.sn ∨ entitySn (asked p) = 0) :
    getPlayerBySocket after.proxy.collector p.socketKey.socket = none := by
  obtain ⟨side, takes, left⟩ := taken
  obtain ⟨_, others, run⟩ := AllInOne.proxy_takes_reached registered positive takes
  -- on a thread of its own the proxy is the only one to register for the message
  have only : worldProxyFunctions.lookup (msgIdOf p.content) =
      some (.message (.proxy .miNetworkDisconnect)) := by
    rw [gone]
    rfl
  rw [reached_only only, if_pos addressed] at run
  obtain ⟨_, _, event, proxy, _, read, step, rfl⟩ :=
    AllInOne.proxy_function_cases (run_one run) (by intro same; cases same)
  rw [proxyEvent, gone] at read
  cases read
  obtain ⟨tag, tagged⟩ := Option.ne_none_iff_exists'.mp account
  obtain rfl : proxy = WorldProxy.handleNetworkDisconnect before.proxy p.toNetIdentify := step.2
  rw [left]
  simp only [WorldProxy.handleNetworkDisconnect, tcp, Bool.not_true, Bool.false_eq_true, if_false, tagged]
  cases seated : getPlayerBySocket before.proxy.collector p.socketKey.socket with
  | none => exact seated
  | some player =>
      show getPlayerBySocket (removePlayerBySocket before.proxy.collector p.socketKey.socket) _ = none
      rw [get_by_socket_remove, if_pos rfl]

/-- On a thread of its own a proxy parts with the player of every client that is
gone; on the thread of its world it keeps them all. -/
theorem disconnects_are_lost (positive : setting.sn ≠ 0) {system : System} (unused : Unused setting.sn system) :
    (∀ worldId turns after, Run (sharedStep setting own) (sharedStart setting worldId system) turns after →
      Run (Lawful (sharedStep setting own) fun before turn after =>
        ∀ p, turn = .packet p → p.content = .networkDisconnect → after.proxy = before.proxy)
        (sharedStart setting worldId system) turns after) ∧
    (∀ packets after, Run (aloneStep setting own) (aloneStart setting system) packets after →
      Run (Lawful (aloneStep setting own) fun _ p after =>
        p.content = .networkDisconnect → isTcp p.socketKey.netType = true → p.tagKey .account ≠ none →
        entitySn (asked p) = setting.sn ∨ entitySn (asked p) = 0 →
        getPlayerBySocket after.proxy.collector p.socketKey.socket = none)
        (aloneStart setting system) packets after) := by
  constructor
  · intro worldId turns after run
    refine lawful_of_run (fun s => Registered (worldFunctions ++ worldProxyFunctions)
        (some (.message .proxyDefault)) setting.sn s.system) ?_ ?_ run (shared_registered _ _ unused)
    · intro _ _ _ registered taken
      exact shared_step_registered registered taken
    -- the world registered first, and a message id has one function in a thread
    · rintro _ _ _ registered taken p rfl gone
      exact shared_step_disconnect positive registered taken gone
  · intro packets after run
    refine lawful_of_run (fun s => Registered worldProxyFunctions (some (.message .proxyDefault))
        setting.sn s.system) ?_ ?_ run (world_proxy_awake_registered _ _ unused)
    · rintro _ _ _ registered ⟨_, takes, _⟩
      exact (AllInOne.proxy_takes_reached registered positive takes).1
    · intro _ _ _ registered taken gone tcp account addressed
      exact alone_step_disconnect positive registered taken gone tcp account addressed

def leaves : Packet Int := ⟨⟨⟨4, .tcpListen⟩, addTagStr clear .account [97]⟩, .networkDisconnect⟩

theorem unused_new : Unused lineSetting.sn MessageSystem.new := by
  constructor
  · intro msgId
    simp [functionAt, MessageSystem.new]
  · simp [MessageSystem.new]

theorem shared_seats {before after : Shared Int Int}
    (registered : Registered (worldFunctions ++ worldProxyFunctions) (some (.message .proxyDefault))
      lineSetting.sn before.system) (empty : before.proxy = WorldProxy.create 0x30000)
    (taken : sharedStep lineSetting (allInOne ∅) before (.packet comes) after) : after.proxy = seatedProxy := by
  obtain ⟨others, sides, rfl, run⟩ := taken
  rw [invoked_process registered (by decide),
    reached_only (show _ = some (Callback.message (Handler.proxy .miTeleport)) from rfl),
    if_pos (.inl (by decide))] at run
  have effect := run_one run
  cases effect with
  | world _ effect => cases effect
  | proxy _ effect =>
      obtain ⟨_, _, event, proxy, _, read, taken, rfl⟩ :=
        AllInOne.proxy_function_cases effect (by intro same; cases same)
      cases read
      have same : proxy = WorldProxy.handleTeleport before.proxy
          ⟨0, [97], 9, lineProto, ⟨4, .tcpListen⟩, 0x30000⟩ := taken.2
      rw [empty] at same
      exact same

theorem seats : ∃ side, ProxyEffect lineSetting (allInOne ∅) comes ⟨WorldProxy.create 0x30000, [], []⟩
    (.proxy .miTeleport) side :=
  ⟨_, .function _ 0 none (.teleport ⟨0, [97], 9, lineProto, ⟨4, .tcpListen⟩, 0x30000⟩) seatedProxy rfl ⟨rfl, rfl⟩⟩

theorem world_hears (world : World Int Int) : ∃ side, WorldEffect lineSetting leaves ⟨world, []⟩
    (.world .miNetworkDisconnect) side :=
  ⟨_, .function _ ⟨0, 0⟩ (.networkDisconnect leaves.toNetIdentify) world rfl rfl⟩

theorem parts : ∃ side, ProxyEffect lineSetting (allInOne ∅) leaves ⟨seatedProxy, [], []⟩
    (.proxy .miNetworkDisconnect) side :=
  ⟨_, .function _ 0 none (.disconnect leaves.toNetIdentify) _ rfl ⟨rfl, rfl⟩⟩

theorem shared_run : ∃ after, Run (sharedStep lineSetting (allInOne ∅))
    (sharedStart lineSetting 2 MessageSystem.new) [.packet comes, .packet leaves] after := by
  have begins := shared_registered lineSetting.sn _ unused_new
  obtain ⟨side, seats⟩ := seats
  have first : ∃ system, sharedStep lineSetting (allInOne ∅) (sharedStart lineSetting 2 MessageSystem.new)
      (.packet comes) ⟨SpaceWorld.create 2 0x30000, side.proxy, system⟩ :=
    shared_step_of_only (by decide) begins rfl (.inl (by decide)) (.proxy _ _ _ seats)
  obtain ⟨system, first⟩ := first
  obtain ⟨other, hears⟩ := world_hears (SpaceWorld.create 2 0x30000)
  have second : ∃ system', sharedStep lineSetting (allInOne ∅) ⟨SpaceWorld.create 2 0x30000, side.proxy, system⟩
      (.packet leaves) ⟨other.world, side.proxy, system'⟩ :=
    shared_step_of_only (by decide) (shared_step_registered begins first) rfl (.inr (by decide))
      (.world _ _ _ hears)
  obtain ⟨_, second⟩ := second
  exact ⟨_, Run.next first (Run.next second (Run.refl _))⟩

theorem alone_run : ∃ after, Run (aloneStep lineSetting (allInOne ∅))
    (aloneStart lineSetting MessageSystem.new) [comes, leaves] after := by
  obtain ⟨system, registered, seats⟩ :=
    AllInOne.proxy_seats (world_proxy_awake_registered lineSetting.sn _ unused_new)
  obtain ⟨side, parts⟩ := parts
  have takes : ∃ last, Registered worldProxyFunctions (some (.message .proxyDefault)) lineSetting.sn last ∧
      ProxyTakes lineSetting (allInOne ∅) leaves system seatedProxy last side := by
    apply AllInOne.proxy_takes_of_reached registered (by decide) fun _ => false
    rw [reached_only (show _ = some (Callback.message (Handler.proxy .miNetworkDisconnect)) from rfl),
      if_pos (.inr (by decide))]
    exact Run.next parts (Run.refl _)
  obtain ⟨last, -, takes⟩ := takes
  have first : aloneStep lineSetting (allInOne ∅) (aloneStart lineSetting MessageSystem.new) comes
      ⟨seatedProxy, system⟩ := ⟨_, seats, rfl⟩
  have second : aloneStep lineSetting (allInOne ∅) ⟨seatedProxy, system⟩ leaves ⟨side.proxy, last⟩ :=
    ⟨_, takes, rfl⟩
  exact ⟨_, Run.next first (Run.next second (Run.refl _))⟩

theorem disconnects_are_lost_client :
    (∃ after, Run (sharedStep lineSetting (allInOne ∅)) (sharedStart lineSetting 2 MessageSystem.new)
      [.packet comes, .packet leaves] after ∧ getPlayerBySocket after.proxy.collector 4 ≠ none) ∧
    (∃ after, Run (aloneStep lineSetting (allInOne ∅)) (aloneStart lineSetting MessageSystem.new)
      [comes, leaves] after ∧ getPlayerBySocket after.proxy.collector 4 = none) := by
  have lost := @disconnects_are_lost Int Int lineSetting (allInOne ∅) (by decide) MessageSystem.new unused_new
  constructor
  · obtain ⟨after, run⟩ := shared_run
    obtain ⟨middle, first, second⟩ := run_split [Turn.packet comes] [Turn.packet leaves] _ _ (lost.1 2 _ after run)
    have seated := shared_seats (shared_registered lineSetting.sn _ unused_new) rfl (run_one first).1
    have kept := (run_one second).2 leaves rfl rfl
    refine ⟨after, run, ?_⟩
    rw [kept, seated]
    exact nofun
  · obtain ⟨after, run⟩ := alone_run
    obtain ⟨middle, first, second⟩ := run_split [comes] [leaves] _ _ (lost.2 _ after run)
    exact ⟨after, run, (run_one second).2 rfl rfl nofun (.inr (by decide))⟩

end GameBook.SharedThread
