import GameBook.Deployments

/-!
The all-in-one server simulates by a game server and a space server. Each
packet has its counterpart on the connection of the servers, and each object
ignores the packets that in the two servers do not come to it.
-/

namespace GameBook.AllInOne

open SocketObject AppKey ProtoId MessageSystem LabelledRun Simulation WorldTraffic Deployments
open NetworkLocator (Locator noIdentify getNetworkIdentify)
open LastMap (PlayerProto Resources)
open SpaceWorld (World ToPlayer Motion MoveVector3 Message handle relink relinkSent)
open WorldProxy (Proxy WorldType proxyStep getPlayer)
open PlayerCollector (getPlayerBySocket getPlayerBySn)

variable {Position Direction : Type}

theorem copy_from_ints (tags : TagKey) (ints : ∀ tag value, tags tag = some value → value.keyStr = []) :
    copyFrom clear tags = tags := by
  funext tag
  unfold copyFrom
  cases held : tags tag with
  | none => rfl
  | some value =>
      obtain ⟨text, number⟩ := value
      obtain rfl : text = [] := ints tag _ held
      by_cases zero : number = 0 <;> simp [addTag, addTagInt, addTagStr, zero]

theorem player_tags_ints (playerSn sn : UInt64) (tag : TagType) (value : TagValue)
    (held : addTagInt (addTagInt clear .player playerSn) .entity sn tag = some value) : value.keyStr = [] := by
  cases tag <;> simp [addTagInt, clear] at held <;> rw [← held]

theorem world_tags_ints (own : Process) (sn playerSn : UInt64) (tag : TagType) (value : TagValue)
    (held : worldTags own sn playerSn tag = some value) : value.keyStr = [] := by
  unfold worldTags at held
  split at held
  · cases tag <;> simp [addTagInt, clear] at held <;> rw [← held]
  · exact player_tags_ints playerSn sn tag value held

def unmarked (tags : TagKey) : TagKey := fun tag => if tag = .toWorld then none else tags tag

theorem world_tags_game (conn : Connection) (locator : Locator) (sn playerSn : UInt64) :
    worldTags (game conn) sn playerSn = unmarked (worldTags (allInOne locator) sn playerSn) := by
  funext tag
  cases tag <;> simp [worldTags, game, allInOne, bits, unmarked, addTagInt, clear]

theorem world_tags_all_in_one (locator : Locator) (sn playerSn : UInt64) :
    worldTags (allInOne locator) sn playerSn =
      addTagInt (addTagInt (addTagInt clear .player playerSn) .entity sn) .toWorld sn := by
  simp [worldTags, allInOne]

/-! ### The packets of the two objects -/

def forWorld (sn playerSn : UInt64) (content : Content Position) : Packet Position :=
  ⟨⟨noIdentify.socketKey,
    addTagInt (addTagInt (addTagInt clear .player playerSn) .entity sn) .toWorld sn⟩, content⟩

def forPlayer (playerSn worldSn : UInt64) (message : ToPlayer Position) : Packet Position :=
  ⟨⟨noIdentify.socketKey, addTagInt (addTagInt clear .player playerSn) .entity worldSn⟩, .toPlayer message⟩

/-- What the game server writes on the connection instead. -/
def onSpaceLink (conn : Connection) (sn : UInt64) (p : Packet Position) : Packet Position :=
  ⟨⟨(getNetworkIdentify conn.locator .space (getAppIdFromSN sn)).socketKey, unmarked p.tagKey⟩, p.content⟩

def onGameLink (conn : Connection) (p : Packet Position) : Packet Position :=
  ⟨⟨conn.atSpace.socketKey, p.tagKey⟩, p.content⟩

/-- What a proxy has no function for, or the leaving of a player. -/
def ForWorld (content : Content Position) : Prop :=
  worldProxyFunctions.lookup (msgIdOf content) = none ∨ content = .networkDisconnect

inductive Shaped (sn : UInt64) : Mail Position → Prop where
  | outside (p : Packet Position) : FromOutside p → Shaped sn ⟨p, .outside⟩
  | proxy (playerSn : UInt64) (content : Content Position) : ForWorld content →
      Shaped sn ⟨forWorld sn playerSn content, .proxy⟩
  | world (playerSn worldSn : UInt64) (message : ToPlayer Position) :
      Shaped sn ⟨forPlayer playerSn worldSn message, .world⟩

def onLink (link : Packet Position → Packet Position) : Route Position → Route Position
  | .dispatched p => .network (link p)
  | route => route

/-- What one sends to its own threads, the other puts on the connection. -/
structure Carries (link : Packet Position → Packet Position) (shape : Packet Position → Prop)
    (one other : List (Route Position)) : Prop where
  dispatched : ∀ route ∈ one, ∃ p, route = .dispatched p ∧ shape p
  linked : other = one.map (onLink link)

section Carries

variable {link : Packet Position → Packet Position} {shape : Packet Position → Prop}

theorem carries_nil : Carries link shape [] [] := ⟨by simp, rfl⟩

theorem carries_one {p : Packet Position} (shaped : shape p) :
    Carries link shape [.dispatched p] [.network (link p)] :=
  ⟨fun _ member => ⟨p, List.mem_singleton.mp member, shaped⟩, rfl⟩

theorem carries_append {one other more others : List (Route Position)} (first : Carries link shape one other)
    (second : Carries link shape more others) : Carries link shape (one ++ more) (other ++ others) := by
  refine ⟨fun route member => ?_, by rw [first.linked, second.linked, List.map_append]⟩
  rcases List.mem_append.mp member with early | late
  · exact first.dispatched route early
  · exact second.dispatched route late

theorem carries_of_each {Item : Type} (items : List Item) (one other : Item → Option (Route Position))
    (each : ∀ item ∈ items, Carries link shape (one item).toList (other item).toList) :
    Carries link shape (items.filterMap one) (items.filterMap other) := by
  induction items with
  | nil => exact carries_nil
  | cons item rest ih =>
      have head := each item List.mem_cons_self
      have tail := ih (fun next member => each next (List.mem_cons_of_mem _ member))
      have both := carries_append head tail
      rw [List.filterMap_cons, List.filterMap_cons]
      cases here : one item <;> cases there : other item <;> simpa [here, there] using both

theorem carries_network {one other : List (Route Position)} (carried : Carries link shape one other) :
    networkOf other = (dispatchedOf one).map link ∧ dispatchedOf other = [] := by
  obtain ⟨dispatched, rfl⟩ := carried
  induction one with
  | nil => exact ⟨rfl, rfl⟩
  | cons route rest ih =>
      obtain ⟨p, rfl, _⟩ := dispatched route List.mem_cons_self
      obtain ⟨network, none⟩ := ih (fun next member => dispatched next (List.mem_cons_of_mem _ member))
      constructor
      · simpa [networkOf, dispatchedOf, onLink] using network
      · simpa [dispatchedOf, onLink] using none

theorem carries_shape {one other : List (Route Position)} (carried : Carries link shape one other) :
    ∀ p ∈ dispatchedOf one, shape p := by
  intro p member
  obtain ⟨route, held, here⟩ := List.mem_filterMap.mp member
  obtain ⟨sent, rfl, shaped⟩ := carried.dispatched route held
  obtain rfl := Option.some.inj here
  exact shaped

end Carries

variable {setting : Setting Position Direction} {conn : Connection}

theorem to_world_carried (locator : Locator) (sn playerSn : UInt64) (content : Content Position)
    (connected : Connected sn conn) :
    sendPacketToWorld (allInOne locator) sn playerSn content = .dispatched (forWorld sn playerSn content) ∧
      copyPacketToWorld (allInOne locator) sn playerSn content = .dispatched (forWorld sn playerSn content) ∧
      sendPacketToWorld (game conn) sn playerSn content =
        .network (onSpaceLink conn sn (forWorld sn playerSn content)) ∧
      copyPacketToWorld (game conn) sn playerSn content =
        .network (onSpaceLink conn sn (forWorld sn playerSn content)) := by
  have here : (allInOne locator).curAppType &&& bits .space ≠ 0 := by
    show bits .allInOne &&& bits .space ≠ 0
    decide
  have there : ¬ (game conn).curAppType &&& bits .space ≠ 0 := by
    show ¬ bits .game &&& bits .space ≠ 0
    decide
  have open_ : ¬ ((getNetworkIdentify conn.locator .space (getAppIdFromSN sn)).socketKey.socket =
      noIdentify.socketKey.socket ∨
      (getNetworkIdentify conn.locator .space (getAppIdFromSN sn)).socketKey.netType = .none) := by
    rintro (closed | unknown)
    · exact connected.open_ closed
    · exact connected.known unknown
  have network (p : Packet Position) : sendPacketApp (game conn) .space (getAppIdFromSN sn) p =
      .network { p with
        socketKey := (getNetworkIdentify conn.locator .space (getAppIdFromSN sn)).socketKey } := by
    rw [sendPacketApp, if_neg there]
    show (if (getNetworkIdentify conn.locator .space (getAppIdFromSN sn)).socketKey.netType = .none then _
      else _) = _
    rw [if_neg connected.known, sendPacket]
    exact if_neg open_
  -- the tags are copied twice on the way, and stay what they are
  have copied (own : Process) : copyFrom clear (copyFrom clear (worldTags own sn playerSn)) =
      worldTags own sn playerSn := by
    rw [copy_from_ints _ (world_tags_ints own sn playerSn), copy_from_ints _ (world_tags_ints own sn playerSn)]
  refine ⟨?_, ?_, ?_, ?_⟩
  · rw [sendPacketToWorld, sendPacketApp, if_pos here, createPacket, copied, world_tags_all_in_one]
    rfl
  · rw [copyPacketToWorld, sendPacketApp, if_pos here, world_tags_all_in_one]
    rfl
  · rw [sendPacketToWorld, network, createPacket, copied, world_tags_game conn locator,
      world_tags_all_in_one]
    rfl
  · rw [copyPacketToWorld, network, world_tags_game conn locator, world_tags_all_in_one]
    rfl

theorem received_tags (conn : NetIdentify) (only : ∀ tag, tag ≠ .app → conn.tagKey tag = none)
    (p : Packet Position) (entity : TagValue) (addressed : p.tagKey .entity = some entity)
    (player : TagValue) (tagged : p.tagKey .player = some player) (tag : TagType) (other : tag ≠ .app) :
    (received conn p).tagKey tag =
      if tag = .player then some ⟨[], player.keyInt64⟩
      else if tag = .entity then some ⟨[], entity.keyInt64⟩ else none := by
  have copied (tag : TagType) (other : tag ≠ .app) : copyFrom clear conn.tagKey tag = none := by
    rw [copy_from_absent clear conn.tagKey tag (only tag other)]
    rfl
  -- the long head: two bytes of id, two of padding, the entity and the player
  have entityBytes (rest : List UInt8) : (List.take 8 (List.drop 4
      (MachineWord.littleEndian 2 (number (msgIdOf p.content)) ++ [0, 0] ++
        MachineWord.littleEndian 8 entity.keyInt64.toNat ++ rest))) =
      MachineWord.littleEndian 8 entity.keyInt64.toNat := by
    rw [List.append_assoc, List.drop_left' (by simp), List.take_left' (by simp)]
  have playerBytes : (List.take 8 (List.drop 12
      (MachineWord.littleEndian 2 (number (msgIdOf p.content)) ++ [0, 0] ++
        MachineWord.littleEndian 8 entity.keyInt64.toNat ++
          MachineWord.littleEndian 8 player.keyInt64.toNat))) =
      MachineWord.littleEndian 8 player.keyInt64.toNat := by
    rw [List.drop_left' (by simp), List.take_of_length_le (by simp)]
  have tags : (received conn p).tagKey = addTagInt (addTagInt (copyFrom clear conn.tagKey) .entity
      entity.keyInt64) .player player.keyInt64 := by
    simp only [received, TcpFraming.headTags, TcpFraming.headSizeOf, TcpFraming.headOf,
      TcpFraming.playerSnOf, addressed, tagged, Option.isNone_some, Bool.false_eq_true, if_false,
      entityBytes, playerBytes, TcpLink.sn_round_trip]
    rfl
  rw [tags]
  cases tag with
  | app => exact absurd rfl other
  | player => rfl
  | entity => rfl
  | none => exact copied _ (by decide)
  | account => exact copied _ (by decide)
  | toWorld => exact copied _ (by decide)

/-! ### The world -/

/-- A world whose players came without a connection. -/
def Unlinked (w : World Position Direction) : Prop := relink noIdentify.socketKey w = w

def linked (conn : Connection) (w : World Position Direction) : World Position Direction :=
  relink conn.atSpace.socketKey w

theorem to_player_carried {sn : UInt64} (connected : Connected sn conn) (sent : SpaceWorld.Sent Position)
    (unlinked : relinkSent noIdentify.socketKey sent = sent) :
    Carries (onGameLink conn) (fun p => ∃ playerSn worldSn message, p = forPlayer playerSn worldSn message)
      (toPlayer sent).toList (toPlayer (relinkSent conn.atSpace.socketKey sent)).toList := by
  cases sent with
  | savePlayer _ _ => exact carries_nil
  | worldSyncToGather _ _ _ => exact carries_nil
  | player playerSn worldSn socketKey message =>
      obtain rfl : socketKey = noIdentify.socketKey := by
        injection unlinked with _ _ same
        exact same.symm
      have copied := copy_from_ints _ (player_tags_ints playerSn worldSn)
      have one : toPlayer (.player playerSn worldSn noIdentify.socketKey message) =
          some (.dispatched (forPlayer playerSn worldSn message)) := by
        simp only [toPlayer, createPacket, copied]
        exact congrArg some (if_pos (.inl rfl))
      have other : toPlayer (relinkSent conn.atSpace.socketKey
            (.player playerSn worldSn noIdentify.socketKey message)) =
          some (.network (onGameLink conn (forPlayer playerSn worldSn message))) := by
        simp only [toPlayer, relinkSent, createPacket, copied]
        refine congrArg some (if_neg ?_)
        -- the connection is open, so that the packet goes out
        rintro (closed | unknown)
        · exact connected.atSpaceOpen closed
        · exact connected.atSpaceKnown unknown
      rw [one, other]
      exact carries_one ⟨playerSn, worldSn, message, rfl⟩

def ForPlayer (p : Packet Position) : Prop :=
  ∃ playerSn worldSn message, p = forPlayer playerSn worldSn message

theorem world_routes_carried {sn : UInt64} (connected : Connected sn conn)
    (before after : World Position Direction) (unlinked : Unlinked after) :
    Carries (onGameLink conn) ForPlayer (worldRoutes before after)
      (worldRoutes (linked conn before) (linked conn after)) := by
  have sent : after.sent.map (relinkSent noIdentify.socketKey) = after.sent := congrArg World.sent unlinked
  have each : ∀ message ∈ after.sent, relinkSent noIdentify.socketKey message = message :=
    List.map_inj_left.mp (sent.trans (List.map_id _).symm)
  have other : worldRoutes (linked conn before) (linked conn after) =
      (after.sent.drop before.sent.length).filterMap fun message =>
        toPlayer (relinkSent conn.atSpace.socketKey message) := by
    show ((after.sent.map _).drop (before.sent.map _).length).filterMap toPlayer = _
    rw [List.length_map, ← List.map_drop, List.filterMap_map]
    rfl
  rw [other]
  apply carries_of_each
  intro message member
  exact to_player_carried connected message (each message (List.mem_of_mem_drop member))

def atSpace (conn : Connection) (sn playerSn : UInt64) (content : Content Position) : Packet Position :=
  received conn.atSpace (onSpaceLink conn sn (forWorld sn playerSn content))

theorem at_space_tags {sn playerSn : UInt64} {content : Content Position} (connected : Connected sn conn)
    (tag : TagType) (other : tag ≠ .app) :
    (atSpace conn sn playerSn content).tagKey tag = unmarked (forWorld sn playerSn content).tagKey tag := by
  rw [atSpace, received_tags conn.atSpace connected.atSpaceTags _ ⟨[], sn⟩ rfl ⟨[], playerSn⟩ rfl tag other]
  cases tag <;> rfl

theorem world_message_relinked {sn playerSn : UInt64} {content : Content Position}
    (connected : Connected sn conn) (pooled : MoveVector3 Position Direction)
    (message : Message Position Direction)
    (read : worldMessage pooled (forWorld sn playerSn content) = some message) :
    SpaceWorld.Relinked noIdentify.socketKey message message ∧
      ∃ other, worldMessage pooled (atSpace conn sn playerSn content) = some other ∧
        SpaceWorld.Relinked conn.atSpace.socketKey message other := by
  have tagged : (atSpace conn sn playerSn content).tagKey .player =
      (forWorld sn playerSn content).tagKey .player := at_space_tags connected .player (by decide)
  have some : (forWorld sn playerSn content).tagKey .player ≠ none := by
    intro none
    cases none
  -- the handler reads the player from the tag; only the socket key is another
  cases content with
  | networkDisconnect =>
      cases read
      exact ⟨.networkDisconnect _ _ some rfl, _, rfl, .networkDisconnect _ _ some tagged⟩
  | syncPlayer account player =>
      cases read
      exact ⟨.syncPlayer _ player, _, rfl, .syncPlayer _ player⟩
  | requestSyncPlayer asked =>
      cases read
      exact ⟨.requestSyncPlayer _ _ rfl, _, rfl, .requestSyncPlayer _ _ tagged⟩
  | removePlayer removed =>
      cases read
      exact ⟨.removePlayer _ _ removed rfl, _, rfl, .removePlayer _ _ removed tagged⟩
  | move positions =>
      cases read
      exact ⟨.move _ _ positions pooled rfl, _, rfl, .move _ _ positions pooled tagged⟩
  | toPlayer _ => cases read
  | enterWorld _ => cases read
  | teleport _ _ _ _ => cases read
  | teleportAfter _ => cases read
  | broadcastCreateWorldProxy _ _ => cases read
  | other _ _ _ => cases read

theorem handle_linked {sn : UInt64} (connected : Connected sn conn)
    {before after : World Position Direction} (unlinked : Unlinked before)
    {message other : Message Position Direction}
    (same : SpaceWorld.Relinked noIdentify.socketKey message message)
    (moved : SpaceWorld.Relinked conn.atSpace.socketKey message other)
    (handled : handle setting.resources setting.motion before message = some after) :
    Unlinked after ∧
      handle setting.resources setting.motion (linked conn before) other = some (linked conn after) ∧
      Carries (onGameLink conn) ForPlayer (worldRoutes before after)
        (worldRoutes (linked conn before) (linked conn after)) := by
  have again := SpaceWorld.relink_handle noIdentify.socketKey setting.resources setting.motion before
    message message same
  rw [show relink noIdentify.socketKey before = before from unlinked, handled] at again
  have stays : Unlinked after := (Option.some.inj again).symm
  have there := SpaceWorld.relink_handle conn.atSpace.socketKey setting.resources setting.motion before
    message other moved
  rw [handled] at there
  exact ⟨stays, there, world_routes_carried connected before after stays⟩

theorem world_run_linked {sn playerSn : UInt64} {content : Content Position} (connected : Connected sn conn)
    {handlers : List Handler} {before after : WorldSide Position Direction}
    (run : Run (WorldEffect setting (forWorld sn playerSn content)) before handlers after)
    (unlinked : Unlinked before.world) (routes : List (Route Position))
    (carried : Carries (onGameLink conn) ForPlayer before.routes routes) :
    Unlinked after.world ∧ ∃ others,
      Run (WorldEffect setting (atSpace conn sn playerSn content)) ⟨linked conn before.world, routes⟩ handlers
        ⟨linked conn after.world, others⟩ ∧
      Carries (onGameLink conn) ForPlayer after.routes others := by
  induction run generalizing routes with
  | refl _ => exact ⟨unlinked, routes, Run.refl _, carried⟩
  | next taken _ ih =>
      cases taken with
      | function pooled message middle read handled =>
          obtain ⟨same, other, readThere, moved⟩ := world_message_relinked connected pooled message read
          obtain ⟨stays, handledThere, sends⟩ := handle_linked connected unlinked same moved handled
          obtain ⟨kept, others, tail, done⟩ := ih stays _ (carries_append carried sends)
          refine ⟨kept, others, Run.next ?_ tail, done⟩
          exact WorldEffect.function _ pooled other _ readThere handledThere

theorem world_finds_linked {sn : UInt64} (playerSn : UInt64) (content : Content Position)
    (connected : Connected sn conn) (others : Handler → Bool) (w : World Position Direction) :
    worldFinds others (linked conn w) (atSpace conn sn playerSn content) =
      worldFinds others w (forWorld sn playerSn content) := by
  have found := SpaceWorld.relink_get_player conn.atSpace.socketKey w
    (forWorld sn playerSn content).toNetIdentify (atSpace conn sn playerSn content).toNetIdentify
    (at_space_tags connected .player (by decide))
  funext handler
  cases handler with
  | worldGetPlayer =>
      show (SpaceWorld.getPlayer (relink _ w) _).isSome = (SpaceWorld.getPlayer w _).isSome
      rw [found, Option.isSome_map]
  | world _ => rfl
  | proxyGetPlayer => rfl
  | proxy _ => rfl
  | proxyDefault => rfl
  | unrelated _ => rfl

/-- Without a default function the ToWorld tag makes no difference. -/
theorem reached_world (functions : Functions) (sn : UInt64) (finds : Handler → Bool) (one other : Packet Position)
    (content : other.content = one.content) (entity : other.tagKey .entity = one.tagKey .entity) :
    reached functions none sn finds other = reached functions none sn finds one := by
  have same : entitySn (asked other) = entitySn (asked one) := by
    simp only [entitySn, asked, entity]
  unfold reached
  rw [same, content]
  have empty : invoked sn finds ((none : Option (Callback Handler)).toList.map (Call.default sn)) = [] := rfl
  rw [empty]
  by_cases own : ownFunction functions finds (msgIdOf one.content) = []
  · simp [own]
  · simp [own]

theorem world_effect_cases {p : Packet Position} {before after : WorldSide Position Direction}
    {handler : Handler} (effect : WorldEffect setting p before handler after) :
    ∃ pooled message world, worldMessage pooled p = some message ∧
      handle setting.resources setting.motion before.world message = some world ∧
      after = ⟨world, before.routes ++ worldRoutes before.world world⟩ := by
  cases effect with
  | function pooled message world read handled => exact ⟨pooled, message, world, read, handled, rfl⟩

theorem world_takes_reached {system systemAfter : System} {w : World Position Direction}
    {p : Packet Position} {side : WorldSide Position Direction}
    (registered : Registered worldFunctions none setting.sn system) (positive : setting.sn ≠ 0)
    (takes : WorldTakes setting p system w systemAfter side) :
    Registered worldFunctions none setting.sn systemAfter ∧ ∃ others,
      Run (WorldEffect setting p) ⟨w, []⟩
        (reached worldFunctions none setting.sn (worldFinds others w p) p) side := by
  obtain ⟨others, rfl, run⟩ := takes
  rw [invoked_process registered positive] at run
  exact ⟨process_registered registered _ _, others, run⟩

theorem world_takes_of_reached {system : System} {w : World Position Direction} {p : Packet Position}
    {side : WorldSide Position Direction} (registered : Registered worldFunctions none setting.sn system)
    (positive : setting.sn ≠ 0) (others : Handler → Bool)
    (run : Run (WorldEffect setting p) ⟨w, []⟩
      (reached worldFunctions none setting.sn (worldFinds others w p) p) side) :
    ∃ systemAfter, Registered worldFunctions none setting.sn systemAfter ∧
      WorldTakes setting p system w systemAfter side := by
  rw [← invoked_process registered positive] at run
  exact ⟨_, process_registered registered _ _, others, rfl, run⟩

theorem world_takes_linked {playerSn : UInt64} {content : Content Position}
    (connected : Connected setting.sn conn) (positive : setting.sn ≠ 0)
    {system systemAfter other : System} {w : World Position Direction} {side : WorldSide Position Direction}
    (registered : Registered worldFunctions none setting.sn system)
    (registeredThere : Registered worldFunctions none setting.sn other) (unlinked : Unlinked w)
    (takes : WorldTakes setting (forWorld setting.sn playerSn content) system w systemAfter side) :
    Registered worldFunctions none setting.sn systemAfter ∧ Unlinked side.world ∧
      ∃ otherAfter routes, Registered worldFunctions none setting.sn otherAfter ∧
        WorldTakes setting (atSpace conn setting.sn playerSn content) other (linked conn w) otherAfter
          ⟨linked conn side.world, routes⟩ ∧
        Carries (onGameLink conn) ForPlayer side.routes routes := by
  obtain ⟨kept, others, run⟩ := world_takes_reached registered positive takes
  obtain ⟨stays, routes, runThere, carried⟩ := world_run_linked connected run unlinked [] carries_nil
  have entity : (atSpace conn setting.sn playerSn content).tagKey .entity =
      (forWorld setting.sn playerSn content).tagKey .entity := at_space_tags connected .entity (by decide)
  rw [← reached_world worldFunctions setting.sn _ (forWorld setting.sn playerSn content)
      (atSpace conn setting.sn playerSn content) rfl entity,
    ← world_finds_linked playerSn content connected others w] at runThere
  obtain ⟨otherAfter, keptThere, takesThere⟩ := world_takes_of_reached registeredThere positive others runThere
  exact ⟨kept, stays, otherAfter, routes, keptThere, takesThere, carried⟩

theorem lookup_unread (functions : Functions) (inside : ∀ function ∈ functions, function.1 ∈ named)
    {msgId : MsgId} (unread : msgId ∉ named) : functions.lookup msgId = none := by
  rw [List.lookup_eq_none_iff]
  intro function member
  rw [bne_iff_ne]
  rintro rfl
  exact unread (inside function member)

theorem reached_cases (functions : Functions) (sn : UInt64) (finds : Handler → Bool) (p : Packet Position) :
    reached functions none sn finds p = [] ∨
      reached functions none sn finds p = ownFunction functions finds (msgIdOf p.content) := by
  unfold reached
  split
  · split
    · exact .inl rfl
    · exact .inr rfl
  · split
    · exact .inr rfl
    · exact .inl rfl

theorem world_own_outside (others : Handler → Bool) (w : World Position Direction) {p : Packet Position}
    (outside : FromOutside p) :
    ownFunction worldFunctions (worldFinds others w p) (msgIdOf p.content) = [] ∨
      p.content = .networkDisconnect ∧ p.tagKey .player = none ∧ p.tagKey .app = none := by
  cases outside with
  | client account player app toWorld notSync =>
      -- a client has no player tag, and the world finds players by it
      have notFound : (SpaceWorld.getPlayer w p.toNetIdentify).isSome = false := by
        simp [SpaceWorld.getPlayer, player]
      cases content : p.content with
      | networkDisconnect => exact .inr ⟨rfl, player, app⟩
      | syncPlayer _ _ =>
          rw [content] at notSync
          exact absurd rfl notSync
      | requestSyncPlayer _ =>
          left
          show runOf _ (some (.filter .worldGetPlayer _)) = []
          simp [runOf, processPacket, worldFinds, notFound]
      | removePlayer _ =>
          left
          show runOf _ (some (.filter .worldGetPlayer _)) = []
          simp [runOf, processPacket, worldFinds, notFound]
      | move _ =>
          left
          show runOf _ (some (.filter .worldGetPlayer _)) = []
          simp [runOf, processPacket, worldFinds, notFound]
      | toPlayer message => exact .inl (by cases message <;> rfl)
      | enterWorld _ => exact .inl rfl
      | teleport _ _ _ _ => exact .inl rfl
      | teleportAfter _ => exact .inl rfl
      | broadcastCreateWorldProxy _ _ => exact .inl rfl
      | other msgId unread _ =>
          left
          rw [ownFunction, msgIdOf, lookup_unread worldFunctions (by decide) unread]
          rfl
  | teleport _ _ _ _ content =>
      rw [content]
      exact .inl rfl
  | teleportAfter _ content =>
      rw [content]
      exact .inl rfl
  | broadcast _ _ content =>
      rw [content]
      exact .inl rfl

theorem world_ignores {mail : Mail Position} (shaped : Shaped setting.sn mail) (other : mail.origin ≠ .proxy)
    (positive : setting.sn ≠ 0) {system systemAfter : System} {w : World Position Direction}
    {side : WorldSide Position Direction} (registered : Registered worldFunctions none setting.sn system)
    (takes : WorldTakes setting mail.packet system w systemAfter side) :
    Registered worldFunctions none setting.sn systemAfter ∧ side = ⟨w, []⟩ := by
  obtain ⟨kept, others, run⟩ := world_takes_reached registered positive takes
  refine ⟨kept, ?_⟩
  have own : ownFunction worldFunctions (worldFinds others w mail.packet) (msgIdOf mail.packet.content) = [] ∨
      mail.packet.content = .networkDisconnect ∧ mail.packet.tagKey .player = none ∧
        mail.packet.tagKey .app = none := by
    cases shaped with
    | outside p outside => exact world_own_outside others w outside
    | proxy _ _ _ => exact absurd rfl other
    | world _ _ message => exact .inl (by cases message <;> rfl)
  rcases reached_cases worldFunctions setting.sn (worldFinds others w mail.packet) mail.packet with none | some
  · rw [none] at run
    exact run_none run
  · rw [some] at run
    rcases own with none | ⟨content, player, app⟩
    · rw [none] at run
      exact run_none run
    · rw [content] at run
      obtain ⟨pooled, message, after, read, handled, rfl⟩ := world_effect_cases (run_one run)
      rw [worldMessage, content] at read
      cases read
      -- without a player and without an application a disconnect is nobody's
      have same : SpaceWorld.handleNetworkDisconnect w mail.packet.toNetIdentify = w := by
        simp [SpaceWorld.handleNetworkDisconnect, player, app]
      obtain rfl : w = after := same.symm.trans (Option.some.inj handled)
      simp [worldRoutes]

/-! ### The proxy -/

theorem proxy_takes_reached {own : Process} {system systemAfter : System} {s : Proxy (PlayerProto Position)}
    {p : Packet Position} {side : ProxySide Position}
    (registered : Registered worldProxyFunctions (some (.message .proxyDefault)) setting.sn system)
    (positive : setting.sn ≠ 0) (takes : ProxyTakes setting own p system s systemAfter side) :
    Registered worldProxyFunctions (some (.message .proxyDefault)) setting.sn systemAfter ∧ ∃ others,
      Run (ProxyEffect setting own p) ⟨s, [], []⟩
        (reached worldProxyFunctions (some (.message .proxyDefault)) setting.sn (proxyFinds others s p) p)
        side := by
  obtain ⟨others, rfl, run⟩ := takes
  rw [invoked_process registered positive] at run
  exact ⟨process_registered registered _ _, others, run⟩

theorem proxy_takes_of_reached {own : Process} {system : System} {s : Proxy (PlayerProto Position)}
    {p : Packet Position} {side : ProxySide Position}
    (registered : Registered worldProxyFunctions (some (.message .proxyDefault)) setting.sn system)
    (positive : setting.sn ≠ 0) (others : Handler → Bool)
    (run : Run (ProxyEffect setting own p) ⟨s, [], []⟩
      (reached worldProxyFunctions (some (.message .proxyDefault)) setting.sn (proxyFinds others s p) p)
      side) :
    ∃ systemAfter, Registered worldProxyFunctions (some (.message .proxyDefault)) setting.sn systemAfter ∧
      ProxyTakes setting own p system s systemAfter side := by
  rw [← invoked_process registered positive] at run
  exact ⟨_, process_registered registered _ _, others, rfl, run⟩

theorem reached_proxy_cases (sn : UInt64) (finds : Handler → Bool) (p : Packet Position) :
    reached worldProxyFunctions (some (.message .proxyDefault)) sn finds p = [] ∨
      reached worldProxyFunctions (some (.message .proxyDefault)) sn finds p =
        ownFunction worldProxyFunctions finds (msgIdOf p.content) ∨
      (reached worldProxyFunctions (some (.message .proxyDefault)) sn finds p = [.proxyDefault] ∧
        ownFunction worldProxyFunctions finds (msgIdOf p.content) = [] ∧ p.tagKey .toWorld = none) := by
  unfold reached
  split
  · split
    · rename_i both
      right; right
      exact ⟨by simp [invoked, processPacket, handleFunction], both⟩
    · exact .inr (.inl rfl)
  · split
    · exact .inr (.inl rfl)
    · exact .inl rfl

theorem proxy_function_cases {own : Process} {p : Packet Position} {before after : ProxySide Position}
    {handler : Handler} (effect : ProxyEffect setting own p before handler after)
    (other : handler ≠ .proxyDefault) :
    ∃ located space event proxy, handler = .proxy (msgIdOf p.content) ∧
      proxyEvent located space p = some event ∧ proxyStep setting.kinds before.proxy event proxy ∧
      after = { before with
        proxy := proxy, routes := before.routes ++ proxyRoutes own setting.sn before.proxy proxy } := by
  cases effect with
  | function located space event proxy read taken => exact ⟨located, space, event, proxy, rfl, read, taken, rfl⟩
  | default _ => exact absurd rfl other

/-- Of its own packets for the world the proxy reads that a player has left,
which without a connection has no meaning for it. -/
theorem proxy_ignores {locator : Locator} {playerSn : UInt64} {content : Content Position}
    (shaped : ForWorld content) (positive : setting.sn ≠ 0) {system systemAfter : System}
    {s : Proxy (PlayerProto Position)} {side : ProxySide Position}
    (registered : Registered worldProxyFunctions (some (.message .proxyDefault)) setting.sn system)
    (takes : ProxyTakes setting (allInOne locator) (forWorld setting.sn playerSn content) system s
      systemAfter side) :
    Registered worldProxyFunctions (some (.message .proxyDefault)) setting.sn systemAfter ∧
      side = ⟨s, [], []⟩ := by
  obtain ⟨kept, others, run⟩ := proxy_takes_reached registered positive takes
  refine ⟨kept, ?_⟩
  rcases reached_proxy_cases setting.sn (proxyFinds others s (forWorld setting.sn playerSn content))
    (forWorld setting.sn playerSn content) with none | some | ⟨_, _, unmarked⟩
  · rw [none] at run
    exact run_none run
  · rw [some] at run
    rcases shaped with unknown | rfl
    · rw [ownFunction, show msgIdOf (forWorld setting.sn playerSn content).content = msgIdOf content from rfl,
        unknown] at run
      exact run_none run
    · obtain ⟨_, _, event, proxy, _, read, taken, rfl⟩ :=
        proxy_function_cases (run_one run) (by intro same; cases same)
      cases read
      have same : WorldProxy.handleNetworkDisconnect s
          (forWorld setting.sn playerSn .networkDisconnect : Packet Position).toNetIdentify = s := rfl
      obtain rfl : proxy = s := taken.2.trans same
      simp [proxyRoutes]
  · cases unmarked

def atGame (conn : Connection) (playerSn worldSn : UInt64) (message : ToPlayer Position) : Packet Position :=
  received conn.atGame (onGameLink conn (forPlayer playerSn worldSn message))

theorem at_game_tags {sn playerSn worldSn : UInt64} {message : ToPlayer Position}
    (connected : Connected sn conn) (tag : TagType) (other : tag ≠ .app) :
    (atGame conn playerSn worldSn message).tagKey tag = (forPlayer playerSn worldSn message).tagKey tag := by
  rw [atGame, received_tags conn.atGame connected.atGameTags _ ⟨[], worldSn⟩ rfl ⟨[], playerSn⟩ rfl tag other]
  cases tag <;> rfl

def counterpart (conn : Connection) (sn : UInt64) (mail : Mail Position) : Packet Position :=
  match mail.origin with
  | .outside => mail.packet
  | .proxy => received conn.atSpace (onSpaceLink conn sn mail.packet)
  | .world => received conn.atGame (onGameLink conn mail.packet)

def IsForWorld (sn : UInt64) (p : Packet Position) : Prop :=
  ∃ playerSn content, p = forWorld sn playerSn content ∧ ForWorld content

theorem proxy_routes_carried (locator : Locator) (connected : Connected setting.sn conn)
    (before after : Proxy (PlayerProto Position)) :
    Carries (onSpaceLink conn setting.sn) (IsForWorld setting.sn)
      (proxyRoutes (allInOne locator) setting.sn before after)
      (proxyRoutes (game conn) setting.sn before after) := by
  have sent (playerSn : UInt64) (content : Content Position) (shaped : ForWorld content) :
      Carries (onSpaceLink conn setting.sn) (IsForWorld setting.sn)
        [sendPacketToWorld (allInOne locator) setting.sn playerSn content]
        [sendPacketToWorld (game conn) setting.sn playerSn content] := by
    obtain ⟨here, _, there, _⟩ := to_world_carried locator setting.sn playerSn content connected
    rw [here, there]
    exact carries_one ⟨playerSn, content, rfl, shaped⟩
  apply carries_of_each
  intro message _
  cases message with
  | requestSyncPlayer _ => exact sent _ _ (.inl rfl)
  | syncPlayer _ _ _ => exact sent _ _ (.inl rfl)
  | removePlayer _ _ => exact sent _ _ (.inl rfl)
  | worldDisconnect _ => exact sent _ _ (.inr rfl)
  | listenKey _ _ => exact carries_nil
  | requestWorld _ => exact carries_nil
  | createWorld _ _ _ => exact carries_nil
  | teleport _ => exact carries_nil
  | teleportAfter _ _ => exact carries_nil
  | requestDisconnect _ _ => exact carries_nil

theorem own_proxy_function (finds : Handler → Bool) (msgId : MsgId) :
    ownFunction worldProxyFunctions finds msgId = [] ∨
      ∃ other, ownFunction worldProxyFunctions finds msgId = [.proxy other] := by
  have all : ∀ function ∈ worldProxyFunctions, ∃ other, handleFunction function.2 = .proxy other := by
    intro function member
    simp only [worldProxyFunctions, List.mem_cons, List.not_mem_nil, or_false] at member
    rcases member with rfl | rfl | rfl | rfl | rfl | rfl <;> exact ⟨_, rfl⟩
  unfold ownFunction
  cases found : worldProxyFunctions.lookup msgId with
  | none => exact .inl rfl
  | some callback =>
      rw [runOf]
      split
      · right
        obtain ⟨_, _, split, _⟩ := List.lookup_eq_some_iff.mp found
        obtain ⟨other, same⟩ := all (msgId, callback) (by rw [split]; simp)
        exact ⟨other, congrArg (fun handler => [handler]) same⟩
      · exact .inl rfl

theorem default_for_world (others : Handler → Bool) (s : Proxy (PlayerProto Position)) {p : Packet Position}
    (outside : FromOutside p) (declined : ownFunction worldProxyFunctions (proxyFinds others s p)
      (msgIdOf p.content) = []) (player : p.tagKey .player = none)
    (seated : (getPlayerBySocket s.collector p.socketKey.socket).isSome) : ForWorld p.content := by
  -- a seated client is found by its account tag, so that no filter declines its packet
  have filtered (msgId : MsgId) (account : p.tagKey .account ≠ none) :
      runOf (proxyFinds others s p) (some (.filter .proxyGetPlayer (.proxy msgId))) ≠ [] := by
    have found : (getPlayer s p.toNetIdentify).isSome = true := by
      obtain ⟨value, some⟩ := Option.ne_none_iff_exists'.mp account
      simp [getPlayer, some, seated]
    simp [runOf, processPacket, proxyFinds, found]
  cases outside with
  | client account _ _ _ _ =>
      cases content : p.content with
      | networkDisconnect => exact .inr rfl
      | syncPlayer _ _ => exact .inl rfl
      | requestSyncPlayer _ => exact .inl rfl
      | removePlayer _ => exact .inl rfl
      | move _ => exact .inl rfl
      | toPlayer message =>
          rw [content] at declined
          cases message with
          | enterWorld _ _ => exact .inl rfl
          | roleAppear _ => exact .inl rfl
          | roleDisAppear _ => exact .inl rfl
          | move _ _ => exact .inl rfl
          | syncPlayer _ _ => exact absurd declined (filtered _ account)
      | enterWorld _ =>
          rw [content] at declined
          exact absurd declined (filtered _ account)
      | teleport _ _ _ _ =>
          rw [content] at declined
          cases declined
      | teleportAfter _ =>
          rw [content] at declined
          exact absurd declined (filtered _ account)
      | broadcastCreateWorldProxy _ _ =>
          rw [content] at declined
          cases declined
      | other msgId unread _ => exact .inl (lookup_unread worldProxyFunctions (by decide) unread)
  | teleport _ _ _ _ content =>
      rw [content] at declined
      cases declined
  | teleportAfter _ _ _ _ tagged => exact absurd player tagged
  | broadcast _ _ content =>
      rw [content] at declined
      cases declined

structure Alike (one other : Packet Position) : Prop where
  content : other.content = one.content
  entity : other.tagKey .entity = one.tagKey .entity
  player : other.tagKey .player = one.tagKey .player
  account : other.tagKey .account = one.tagKey .account
  unmarked : one.tagKey .toWorld = none ∧ other.tagKey .toWorld = none
  socket : one.tagKey .account ≠ none ∨ one.tagKey .player = none → other.socketKey = one.socketKey
  event : ∀ located space event, proxyEvent located space one = some event →
    ∃ otherEvent, proxyEvent located space other = some otherEvent ∧
      ∀ kinds before after, proxyStep kinds before event after → proxyStep kinds before otherEvent after

theorem alike_get_player {one other : Packet Position} (socket : one.tagKey .account ≠ none →
    other.socketKey = one.socketKey) (account : other.tagKey .account = one.tagKey .account)
    (player : other.tagKey .player = one.tagKey .player) (s : Proxy (PlayerProto Position)) :
    getPlayer s other.toNetIdentify = getPlayer s one.toNetIdentify := by
  unfold getPlayer
  rw [account, player]
  cases tag : one.tagKey .account with
  | none => rfl
  | some _ =>
      have same := socket (by rw [tag]; exact Option.some_ne_none _)
      rw [same]

theorem counterpart_alike (connected : Connected setting.sn conn) {mail : Mail Position}
    (shaped : Shaped setting.sn mail) (other : mail.origin ≠ .proxy) :
    Alike mail.packet (counterpart conn setting.sn mail) := by
  cases shaped with
  | proxy _ _ _ => exact absurd rfl other
  | outside p outside =>
      have unmarked : p.tagKey .toWorld = none := by
        cases outside with
        | client _ _ _ toWorld _ => exact toWorld
        | teleport _ _ _ _ _ toWorld => exact toWorld
        | teleportAfter _ _ toWorld _ _ => exact toWorld
        | broadcast _ _ _ toWorld => exact toWorld
      exact ⟨rfl, rfl, rfl, rfl, ⟨unmarked, unmarked⟩, fun _ => rfl,
        fun _ _ event read => ⟨event, read, fun _ _ _ taken => taken⟩⟩
  | world playerSn worldSn message =>
      have tags (tag : TagType) (other : tag ≠ .app) : (atGame conn playerSn worldSn message).tagKey tag =
          (forPlayer playerSn worldSn message).tagKey tag := at_game_tags connected tag other
      have account := tags .account (by decide)
      have player := tags .player (by decide)
      refine ⟨rfl, tags .entity (by decide), player, account, ⟨rfl, tags .toWorld (by decide)⟩, ?_, ?_⟩
      -- tagged with a player and no account: the socket is not looked at
      · rintro (some | none)
        · exact absurd rfl some
        · cases none
      · intro located space event read
        cases message with
        | syncPlayer account' proto =>
            cases read
            refine ⟨.syncPlayer (atGame conn playerSn worldSn (.syncPlayer account' proto)).toNetIdentify proto,
              rfl, ?_⟩
            rintro kinds before after ⟨here, found, seated, done⟩
            refine ⟨here, found, ?_, done⟩
            rw [← seated]
            exact alike_get_player (fun some => absurd rfl some) account player before
        | enterWorld _ _ => cases read
        | roleAppear _ => cases read
        | roleDisAppear _ => cases read
        | move _ _ => cases read

theorem proxy_finds_alike {one other : Packet Position} (alike : Alike one other) (others : Handler → Bool)
    (s : Proxy (PlayerProto Position)) : proxyFinds others s other = proxyFinds others s one := by
  have same := alike_get_player (fun account => alike.socket (.inl account)) alike.account alike.player s
  funext handler
  cases handler with
  | proxyGetPlayer =>
      show (getPlayer s _).isSome = (getPlayer s _).isSome
      rw [same]
  | world _ => rfl
  | worldGetPlayer => rfl
  | proxy _ => rfl
  | proxyDefault => rfl
  | unrelated _ => rfl

theorem reached_alike {one other : Packet Position} (alike : Alike one other) (functions : Functions)
    (default : Option (Callback Handler)) (sn : UInt64) (finds : Handler → Bool) :
    reached functions default sn finds other = reached functions default sn finds one := by
  have same : entitySn (asked other) = entitySn (asked one) := by
    simp only [entitySn, asked, alike.entity]
  unfold reached
  rw [same, alike.content, alike.unmarked.1, alike.unmarked.2]

theorem default_alike (locator : Locator) (connected : Connected setting.sn conn) {one other : Packet Position}
    (alike : Alike one other) (s : Proxy (PlayerProto Position))
    (passes : one.tagKey .player = none → (getPlayerBySocket s.collector one.socketKey.socket).isSome →
      ForWorld one.content) :
    ∃ routes, handleDefaultFunction (game conn) setting.sn ⟨s, [], []⟩ other =
        ⟨s, routes, (handleDefaultFunction (allInOne locator) setting.sn ⟨s, [], []⟩ one).clients⟩ ∧
      (handleDefaultFunction (allInOne locator) setting.sn ⟨s, [], []⟩ one).proxy = s ∧
      Carries (onSpaceLink conn setting.sn) (IsForWorld setting.sn)
        (handleDefaultFunction (allInOne locator) setting.sn ⟨s, [], []⟩ one).routes routes := by
  unfold handleDefaultFunction
  rw [alike.player]
  cases player : one.tagKey .player with
  | some tagPlayer =>
      dsimp only
      cases getPlayerBySn s.collector tagPlayer.keyInt64 with
      | none => exact ⟨[], rfl, rfl, carries_nil⟩
      | some found => exact ⟨[], by rw [alike.content], rfl, carries_nil⟩
  | none =>
      dsimp only
      -- from a client: looked up by its socket and relayed to the world
      rw [alike.socket (.inr player)]
      cases seated : getPlayerBySocket s.collector one.socketKey.socket with
      | none => exact ⟨[], rfl, rfl, carries_nil⟩
      | some found =>
          obtain ⟨_, here, _, there⟩ :=
            to_world_carried locator setting.sn found.playerSn one.content connected
          have shaped := passes player (by rw [seated]; rfl)
          refine ⟨[.network (onSpaceLink conn setting.sn (forWorld setting.sn found.playerSn one.content))],
            ?_, rfl, ?_⟩
          · dsimp only
            rw [alike.content, there]
            rfl
          · dsimp only
            rw [here]
            exact carries_one ⟨_, _, rfl, shaped⟩

theorem proxy_takes_linked (locator : Locator) (connected : Connected setting.sn conn)
    (positive : setting.sn ≠ 0) {mail : Mail Position} (shaped : Shaped setting.sn mail)
    (origin : mail.origin ≠ .proxy) {system systemAfter other : System} {s : Proxy (PlayerProto Position)}
    {side : ProxySide Position}
    (registered : Registered worldProxyFunctions (some (.message .proxyDefault)) setting.sn system)
    (registeredThere : Registered worldProxyFunctions (some (.message .proxyDefault)) setting.sn other)
    (takes : ProxyTakes setting (allInOne locator) mail.packet system s systemAfter side) :
    Registered worldProxyFunctions (some (.message .proxyDefault)) setting.sn systemAfter ∧
      ∃ otherAfter routes,
        Registered worldProxyFunctions (some (.message .proxyDefault)) setting.sn otherAfter ∧
        ProxyTakes setting (game conn) (counterpart conn setting.sn mail) other s otherAfter
          ⟨side.proxy, routes, side.clients⟩ ∧
        Carries (onSpaceLink conn setting.sn) (IsForWorld setting.sn) side.routes routes := by
  have alike := counterpart_alike connected shaped origin
  obtain ⟨kept, others, run⟩ := proxy_takes_reached registered positive takes
  -- of the function registered, or of the default callback, which is asked when it declines
  have there : ∃ routes,
      Run (ProxyEffect setting (game conn) (counterpart conn setting.sn mail)) ⟨s, [], []⟩
        (reached worldProxyFunctions (some (.message .proxyDefault)) setting.sn
          (proxyFinds others s mail.packet) mail.packet) ⟨side.proxy, routes, side.clients⟩ ∧
      Carries (onSpaceLink conn setting.sn) (IsForWorld setting.sn) side.routes routes := by
    rcases reached_proxy_cases setting.sn (proxyFinds others s mail.packet) mail.packet with
      none | own | ⟨passed, declined, _⟩
    · rw [none] at run ⊢
      obtain rfl := run_none run
      exact ⟨[], Run.refl _, carries_nil⟩
    · rw [own] at run ⊢
      rcases own_proxy_function (proxyFinds others s mail.packet) (msgIdOf mail.packet.content) with
        none | ⟨function, one⟩
      · rw [none] at run ⊢
        obtain rfl := run_none run
        exact ⟨[], Run.refl _, carries_nil⟩
      · rw [one] at run ⊢
        obtain ⟨located, space, event, proxy, same, read, taken, rfl⟩ :=
          proxy_function_cases (run_one run) (by intro equal; cases equal)
        obtain ⟨otherEvent, readThere, stepThere⟩ := alike.event located space event read
        refine ⟨_, Run.next ?_ (Run.refl _), carries_append carries_nil (proxy_routes_carried locator connected s proxy)⟩
        rw [same, ← alike.content]
        exact ProxyEffect.function _ located space otherEvent proxy readThere (stepThere _ _ _ taken)
    · rw [passed] at run ⊢
      have passes (player : mail.packet.tagKey .player = none)
          (seated : (getPlayerBySocket s.collector mail.packet.socketKey.socket).isSome) :
          ForWorld mail.packet.content := by
        cases shaped with
        | outside p outside => exact default_for_world others s outside declined player seated
        | proxy _ _ _ => exact absurd rfl origin
        | world _ _ _ => cases player
      obtain ⟨routes, done, same, carried⟩ := default_alike locator connected alike s passes
      have taken := run_one run
      cases taken with
      | default here =>
          refine ⟨routes, Run.next (ProxyEffect.default _ here) ?_, carried⟩
          rw [done, same]
          exact Run.refl _
  obtain ⟨routes, runThere, carried⟩ := there
  rw [← reached_alike alike, ← proxy_finds_alike alike] at runThere
  obtain ⟨otherAfter, keptThere, takesThere⟩ := proxy_takes_of_reached registeredThere positive others runThere
  exact ⟨kept, otherAfter, routes, keptThere, takesThere, carried⟩

/-! ### The simulation -/

def isForWorld (mail : Mail Position) : Bool := mail.origin = .proxy

def isForPlayer (mail : Mail Position) : Bool := mail.origin = .world

/-- The two servers hold the counterparts of the packets; what comes from
outside comes to the game server only when it is handed to the threads. -/
structure Related (setting : Setting Position Direction) (conn : Connection)
    (one : AllInOne Position Direction) (other : Servers Position Direction) : Prop where
  proxy : other.proxy = one.proxy
  world : other.world = linked conn one.world
  unlinked : Unlinked one.world
  worldSystem : Registered worldFunctions none setting.sn one.worldSystem
  spaceSystem : Registered worldFunctions none setting.sn other.spaceSystem
  proxySystem : Registered worldProxyFunctions (some (.message .proxyDefault)) setting.sn one.proxySystem
  gameSystem : Registered worldProxyFunctions (some (.message .proxyDefault)) setting.sn other.gameSystem
  packets : ∀ mail ∈ one.packets, Shaped setting.sn mail
  worldMail : ∀ mail ∈ one.worldList, Shaped setting.sn mail
  proxyMail : ∀ mail ∈ one.proxyList, Shaped setting.sn mail
  toSpace : other.toSpace = (one.packets.filter isForWorld).map fun mail =>
    onSpaceLink conn setting.sn mail.packet
  toGame : other.toGame = (one.packets.filter isForPlayer).map fun mail => onGameLink conn mail.packet
  spacePackets : other.spacePackets = []
  gamePackets : other.gamePackets = []
  spaceList : other.spaceList = (one.worldList.filter isForWorld).map (counterpart conn setting.sn)
  gameList : other.gameList = (one.proxyList.filter fun mail => !isForWorld mail).map
    (counterpart conn setting.sn)

theorem filter_mailed_own (origin : Origin) (routes : List (Route Position)) (p : Mail Position → Bool)
    (same : ∀ packet, p ⟨packet, origin⟩ = true) : (mailed origin routes).filter p = mailed origin routes := by
  rw [List.filter_eq_self]
  intro mail member
  obtain ⟨packet, _, rfl⟩ := List.mem_map.mp member
  exact same packet

theorem filter_mailed_other (origin : Origin) (routes : List (Route Position)) (p : Mail Position → Bool)
    (apart : ∀ packet, p ⟨packet, origin⟩ = false) : (mailed origin routes).filter p = [] := by
  rw [List.filter_eq_nil_iff]
  intro mail member
  obtain ⟨packet, _, rfl⟩ := List.mem_map.mp member
  rw [apart packet]
  decide

theorem mailed_packets (origin : Origin) (routes : List (Route Position))
    (link : Packet Position → Packet Position) :
    ((mailed origin routes).map fun mail => link mail.packet) = (dispatchedOf routes).map link := by
  rw [mailed, List.map_map]
  rfl

theorem mailed_world_shaped {sn : UInt64} {routes others : List (Route Position)}
    (carried : Carries (onGameLink conn) ForPlayer routes others) :
    ∀ mail ∈ mailed .world routes, Shaped sn mail := by
  intro mail member
  obtain ⟨packet, held, rfl⟩ := List.mem_map.mp member
  obtain ⟨playerSn, worldSn, message, rfl⟩ := carries_shape carried packet held
  exact .world playerSn worldSn message

theorem mailed_proxy_shaped {sn : UInt64} {routes others : List (Route Position)}
    (carried : Carries (onSpaceLink conn sn) (IsForWorld sn) routes others) :
    ∀ mail ∈ mailed .proxy routes, Shaped sn mail := by
  intro mail member
  obtain ⟨packet, held, rfl⟩ := List.mem_map.mp member
  obtain ⟨playerSn, content, rfl, shaped⟩ := carries_shape carried packet held
  exact .proxy playerSn content shaped

theorem related_world_sent {one : AllInOne Position Direction} {other : Servers Position Direction}
    (related : Related setting conn one other) {routes others : List (Route Position)}
    (carried : Carries (onGameLink conn) ForPlayer routes others) {world : World Position Direction}
    (unlinked : Unlinked world) :
    Related setting conn
      { one with world := world, packets := one.packets ++ mailed .world routes }
      { other with
        world := linked conn world
        toGame := other.toGame ++ networkOf others
        spacePackets := other.spacePackets ++ dispatchedOf others } := by
  obtain ⟨network, none⟩ := carries_network carried
  refine { related with
    world := rfl, unlinked := unlinked, packets := ?_, toSpace := ?_, toGame := ?_, spacePackets := ?_ }
  · intro mail member
    rcases List.mem_append.mp member with held | sent
    · exact related.packets mail held
    · exact mailed_world_shaped carried mail sent
  · rw [List.filter_append, filter_mailed_other .world routes isForWorld (fun _ => rfl), List.append_nil]
    exact related.toSpace
  · rw [List.filter_append, filter_mailed_own .world routes isForPlayer (fun _ => rfl), List.map_append,
      mailed_packets, ← network, related.toGame]
  · rw [none, List.append_nil]
    exact related.spacePackets

theorem related_proxy_sent {one : AllInOne Position Direction} {other : Servers Position Direction}
    (related : Related setting conn one other) {routes others : List (Route Position)}
    (carried : Carries (onSpaceLink conn setting.sn) (IsForWorld setting.sn) routes others)
    (proxy : Proxy (PlayerProto Position)) :
    Related setting conn
      { one with proxy := proxy, packets := one.packets ++ mailed .proxy routes }
      { other with
        proxy := proxy
        toSpace := other.toSpace ++ networkOf others
        gamePackets := other.gamePackets ++ dispatchedOf others } := by
  obtain ⟨network, none⟩ := carries_network carried
  refine { related with proxy := rfl, packets := ?_, toSpace := ?_, toGame := ?_, gamePackets := ?_ }
  · intro mail member
    rcases List.mem_append.mp member with held | sent
    · exact related.packets mail held
    · exact mailed_proxy_shaped carried mail sent
  · rw [List.filter_append, filter_mailed_own .proxy routes isForWorld (fun _ => rfl), List.map_append,
      mailed_packets, ← network, related.toSpace]
  · rw [List.filter_append, filter_mailed_other .proxy routes isForPlayer (fun _ => rfl), List.append_nil]
    exact related.toGame
  · rw [none, List.append_nil]
    exact related.gamePackets

theorem timer_relinked (key : SocketKey) {message : Message Position Direction} (timer : isTimer message = true) :
    SpaceWorld.Relinked key message message := by
  cases message with
  | syncWorldToGather => exact .syncWorldToGather
  | syncAppearTimer => exact .syncAppearTimer
  | moveSystem playerSn timeElapsed => exact .moveSystem playerSn timeElapsed
  | networkDisconnect _ => cases timer
  | syncPlayer _ _ => cases timer
  | requestSyncPlayer _ => cases timer
  | removePlayer _ _ => cases timer
  | move _ _ _ => cases timer

def Follows (setting : Setting Position Direction) (conn : Connection) (label : Label Position Direction)
    (after : AllInOne Position Direction) (other : Servers Position Direction) : Prop :=
  ∃ labels next, Run (serversStep setting conn) other labels next ∧ Related setting conn after next ∧
    observed serversShow labels = shows label

variable {one : AllInOne Position Direction} {other : Servers Position Direction}

theorem follows_arrive (related : Related setting conn one other) {p : Packet Position}
    (outside : FromOutside p) : Follows setting conn (.arrive p)
      { one with packets := one.packets ++ [⟨p, .outside⟩] } other := by
  refine ⟨[], other, Run.refl _, { related with packets := ?_, toSpace := ?_, toGame := ?_ }, rfl⟩
  · intro mail member
    rcases List.mem_append.mp member with held | new
    · exact related.packets mail held
    · obtain rfl := List.mem_singleton.mp new
      exact .outside p outside
  · simpa [isForWorld] using related.toSpace
  · simpa [isForPlayer] using related.toGame

theorem follows_deliver (related : Related setting conn one other) {mail : Mail Position}
    {rest : List (Mail Position)} (first : one.packets = mail :: rest) :
    Follows setting conn (.deliver mail)
      { one with
        packets := rest, worldList := one.worldList ++ [mail], proxyList := one.proxyList ++ [mail] }
      other := by
  have shaped := related.packets mail (first ▸ List.mem_cons_self)
  have others : ∀ next ∈ rest, Shaped setting.sn next := fun next member =>
    related.packets next (first ▸ List.mem_cons_of_mem _ member)
  have grown (list : List (Mail Position)) (all : ∀ next ∈ list, Shaped setting.sn next) :
      ∀ next ∈ list ++ [mail], Shaped setting.sn next := by
    intro next member
    rcases List.mem_append.mp member with held | new
    · exact all next held
    · exact List.mem_singleton.mp new ▸ shaped
  have toSpace := related.toSpace
  have toGame := related.toGame
  rw [first] at toSpace toGame
  cases shaped with
  -- what comes from outside arrives in the game process only
  | outside p outside =>
      refine ⟨[.arrive p, .deliverGame], _, Run.next ⟨outside, rfl⟩ (Run.next ⟨p, [], ?_, rfl⟩ (Run.refl _)),
        { related with
          packets := others, worldMail := grown _ related.worldMail, proxyMail := grown _ related.proxyMail
          toSpace := toSpace, toGame := toGame, gamePackets := rfl, spaceList := ?_, gameList := ?_ }, rfl⟩
      · rw [related.gamePackets]
        rfl
      · simpa [isForWorld] using related.spaceList
      · rw [related.gameList]
        simp [isForWorld, counterpart]
  | proxy playerSn content shaped =>
      refine ⟨[.carryToSpace, .deliverSpace], _,
        Run.next ⟨_, _, toSpace, rfl⟩
          (Run.next ⟨atSpace conn setting.sn playerSn content, [], ?_, rfl⟩ (Run.refl _)),
        { related with
          packets := others, worldMail := grown _ related.worldMail, proxyMail := grown _ related.proxyMail
          toSpace := rfl, toGame := toGame, spacePackets := rfl, spaceList := ?_, gameList := ?_ }, rfl⟩
      · rw [related.spacePackets]
        rfl
      · rw [related.spaceList]
        simp [isForWorld, counterpart, atSpace]
      · simpa [isForWorld] using related.gameList
  | world playerSn worldSn message =>
      refine ⟨[.carryToGame, .deliverGame], _,
        Run.next ⟨_, _, toGame, rfl⟩
          (Run.next ⟨atGame conn playerSn worldSn message, [], ?_, rfl⟩ (Run.refl _)),
        { related with
          packets := others, worldMail := grown _ related.worldMail, proxyMail := grown _ related.proxyMail
          toSpace := toSpace, toGame := rfl, gamePackets := rfl, spaceList := ?_, gameList := ?_ }, rfl⟩
      · rw [related.gamePackets]
        rfl
      · simpa [isForWorld] using related.spaceList
      · rw [related.gameList]
        simp [isForWorld, counterpart, atGame]

theorem follows_world (connected : Connected setting.sn conn) (positive : setting.sn ≠ 0)
    (related : Related setting conn one other) {mail : Mail Position} {rest : List (Mail Position)}
    {system : System} {side : WorldSide Position Direction} (first : one.worldList = mail :: rest)
    (takes : WorldTakes setting mail.packet one.worldSystem one.world system side) :
    Follows setting conn .world
      { one with
        world := side.world, worldSystem := system, worldList := rest
        packets := one.packets ++ mailed .world side.routes } other := by
  have shaped := related.worldMail mail (first ▸ List.mem_cons_self)
  have others : ∀ next ∈ rest, Shaped setting.sn next := fun next member =>
    related.worldMail next (first ▸ List.mem_cons_of_mem _ member)
  have list := related.spaceList
  rw [first] at list
  by_cases origin : mail.origin = .proxy
  · cases shaped with
    | outside _ _ => cases origin
    | world _ _ _ => cases origin
    | proxy playerSn content shaped =>
        obtain ⟨kept, unlinked, otherAfter, routes, keptThere, takesThere, carried⟩ :=
          world_takes_linked connected positive related.worldSystem related.spaceSystem related.unlinked takes
        rw [← related.world] at takesThere
        have sent := related_world_sent related carried unlinked
        exact ⟨[.world], _, Run.next ⟨_, _, otherAfter, _, list, takesThere, rfl⟩ (Run.refl _),
          { sent with worldSystem := kept, spaceSystem := keptThere, worldMail := others, spaceList := rfl },
          rfl⟩
  -- the space process never sees it, and here the world has no use for it
  · obtain ⟨kept, rfl⟩ := world_ignores shaped origin positive related.worldSystem takes
    have nothing : one.packets ++ mailed .world ([] : List (Route Position)) = one.packets := List.append_nil _
    rw [nothing]
    refine ⟨[], other, Run.refl _, { related with
      worldSystem := kept, worldMail := others, spaceList := ?_ }, rfl⟩
    rw [list, List.filter_cons_of_neg (by simpa [isForWorld] using origin)]

theorem follows_proxy (locator : Locator) (connected : Connected setting.sn conn) (positive : setting.sn ≠ 0)
    (related : Related setting conn one other) {mail : Mail Position} {rest : List (Mail Position)}
    {system : System} {side : ProxySide Position} (first : one.proxyList = mail :: rest)
    (takes : ProxyTakes setting (allInOne locator) mail.packet one.proxySystem one.proxy system side) :
    Follows setting conn (.proxy side.clients)
      { one with
        proxy := side.proxy, proxySystem := system, proxyList := rest
        packets := one.packets ++ mailed .proxy side.routes } other := by
  have shaped := related.proxyMail mail (first ▸ List.mem_cons_self)
  have others : ∀ next ∈ rest, Shaped setting.sn next := fun next member =>
    related.proxyMail next (first ▸ List.mem_cons_of_mem _ member)
  have list := related.gameList
  rw [first] at list
  by_cases origin : mail.origin = .proxy
  · cases shaped with
    | outside _ _ => cases origin
    | world _ _ _ => cases origin
    | proxy playerSn content shaped =>
        -- its own packets for the world come back to the proxy, which ignores them
        obtain ⟨kept, rfl⟩ := proxy_ignores shaped positive related.proxySystem takes
        have nothing : one.packets ++ mailed .proxy ([] : List (Route Position)) = one.packets :=
          List.append_nil _
        dsimp only
        rw [nothing]
        exact ⟨[], other, Run.refl _, { related with
          proxySystem := kept, proxyMail := others, gameList := list }, rfl⟩
  · obtain ⟨kept, otherAfter, routes, keptThere, takesThere, carried⟩ :=
      proxy_takes_linked locator connected positive shaped origin related.proxySystem related.gameSystem takes
    rw [← related.proxy] at takesThere
    rw [List.filter_cons_of_pos (by simpa [isForWorld] using origin), List.map_cons] at list
    have sent := related_proxy_sent related carried side.proxy
    refine ⟨[.proxy side.clients], _, Run.next ⟨_, _, otherAfter, _, list, takesThere, rfl, rfl⟩ (Run.refl _),
      { sent with proxySystem := kept, gameSystem := keptThere, proxyMail := others, gameList := rfl }, ?_⟩
    exact List.append_nil _

theorem follows_timer (connected : Connected setting.sn conn) (related : Related setting conn one other)
    {message : Message Position Direction} (timer : isTimer message = true)
    {world : World Position Direction}
    (handled : handle setting.resources setting.motion one.world message = some world) :
    Follows setting conn (.timer message)
      { one with
        world := world, packets := one.packets ++ mailed .world (worldRoutes one.world world) } other := by
  obtain ⟨unlinked, there, carried⟩ := handle_linked connected related.unlinked
    (timer_relinked noIdentify.socketKey timer) (timer_relinked conn.atSpace.socketKey timer) handled
  have sent := related_world_sent related carried unlinked
  rw [← related.world] at there
  refine ⟨[.timer message], _, Run.next ⟨linked conn world, timer, there, rfl⟩ (Run.refl _), ?_, rfl⟩
  rw [related.world]
  exact sent

theorem follows_step (locator : Locator) (connected : Connected setting.sn conn) (positive : setting.sn ≠ 0)
    (before : AllInOne Position Direction) (label : Label Position Direction)
    (after : AllInOne Position Direction) (other : Servers Position Direction)
    (related : Related setting conn before other) (taken : step setting locator before label after) :
    Follows setting conn label after other := by
  cases label with
  | arrive p =>
      obtain ⟨outside, rfl⟩ := taken
      exact follows_arrive related outside
  | deliver mail =>
      obtain ⟨rest, first, rfl⟩ := taken
      exact follows_deliver related first
  | world =>
      obtain ⟨mail, rest, system, side, first, takes, rfl⟩ := taken
      exact follows_world connected positive related first takes
  | proxy clients =>
      obtain ⟨mail, rest, system, side, first, takes, rfl, rfl⟩ := taken
      exact follows_proxy locator connected positive related first takes
  | timer message =>
      obtain ⟨world, timer, handled, rfl⟩ := taken
      exact follows_timer connected related timer handled

theorem linked_create (key : SocketKey) (worldId : Int) (sn : UInt64) :
    relink key (SpaceWorld.create worldId sn : World Position Direction) = SpaceWorld.create worldId sn := by
  have managers : SpaceWorld.relinkManager key (SpaceWorld.noPlayers : SpaceWorld.PlayerManager Position Direction) =
      SpaceWorld.noPlayers := by
    apply SpaceWorld.manager_ext
    intro sn
    rw [SpaceWorld.relink_get]
    simp [SpaceWorld.getPlayerBySn, SpaceWorld.noPlayers]
  simp [SpaceWorld.create, relink, managers]

theorem related_start (setting : Setting Position Direction) (conn : Connection) (worldId : Int)
    {worldSystem spaceSystem proxySystem gameSystem : System} (world : Unused setting.sn worldSystem)
    (space : Unused setting.sn spaceSystem) (proxy : Unused setting.sn proxySystem)
    (game : Unused setting.sn gameSystem) :
    Related setting conn (start setting worldId worldSystem proxySystem)
      (serversStart setting worldId spaceSystem gameSystem) where
  proxy := rfl
  world := (linked_create conn.atSpace.socketKey worldId setting.sn).symm
  unlinked := linked_create noIdentify.socketKey worldId setting.sn
  worldSystem := world_awake_registered setting.sn worldSystem world
  spaceSystem := world_awake_registered setting.sn spaceSystem space
  proxySystem := world_proxy_awake_registered setting.sn proxySystem proxy
  gameSystem := world_proxy_awake_registered setting.sn gameSystem game
  packets := by simp [start]
  worldMail := by simp [start]
  proxyMail := by simp [start]
  toSpace := rfl
  toGame := rfl
  spacePackets := rfl
  gamePackets := rfl
  spaceList := rfl
  gameList := rfl

/-- Whatever the all-in-one server does with a world and its proxy, a game
server and a space server could have done: the same comes in, the same goes to
the clients, and the same players are left, in the proxy and in the world. -/
theorem all_in_one_refines (locator : Locator) (connected : Connected setting.sn conn)
    (positive : setting.sn ≠ 0) (worldId : Int) {worldSystem spaceSystem proxySystem gameSystem : System}
    (world : Unused setting.sn worldSystem) (space : Unused setting.sn spaceSystem)
    (proxy : Unused setting.sn proxySystem) (game : Unused setting.sn gameSystem)
    {labels : List (Label Position Direction)} {after : AllInOne Position Direction}
    (run : Run (step setting locator) (start setting worldId worldSystem proxySystem) labels after) :
    ∃ otherLabels other,
      Run (serversStep setting conn) (serversStart setting worldId spaceSystem gameSystem) otherLabels other ∧
        observed serversShow otherLabels = observed shows labels ∧
        other.proxy = after.proxy ∧ other.world = relink conn.atSpace.socketKey after.world := by
  obtain ⟨otherLabels, other, there, related, same⟩ :=
    simulates_run shows serversShow (Related setting conn) (follows_step locator connected positive) run
      (serversStart setting worldId spaceSystem gameSystem)
      (related_start setting conn worldId world space proxy game)
  exact ⟨otherLabels, other, there, same, related.proxy, related.world⟩

def lineSetting : Setting Int Int where
  resources := ⟨fun _ => some ⟨.publicWorld, 0⟩, 2⟩
  motion := ⟨fun here there => (there - here).sign, fun here there elapsed => (there - here).natAbs ≤ elapsed.toNat,
    fun here direction elapsed => here + direction * elapsed.toNat⟩
  kinds := fun _ => some .publicWorld
  sn := 0x30000

def spaceConnection : Connection where
  locator := NetworkLocator.addNetworkIdentify ∅ ⟨7, .tcpConnector⟩ (getAppKey .space 3)
  atSpace := ⟨⟨5, .tcpListen⟩, addTagInt clear .app (getAppKey .game 2)⟩
  atGame := ⟨⟨7, .tcpConnector⟩, addTagInt clear .app (getAppKey .space 3)⟩

def lineProto : PlayerProto Int := ⟨9, [97], ⟨0, 1⟩, ⟨⟨0, 0, 0⟩, ⟨0, 0, 0⟩, 0⟩⟩

def comes : Packet Int :=
  ⟨⟨⟨4, .tcpListen⟩, addTagInt clear .entity 0x30000⟩, .teleport 0 [97] 9 lineProto⟩

def moves : Packet Int := ⟨⟨⟨4, .tcpListen⟩, addTagInt (addTagStr clear .account [97]) .entity 0x30000⟩, .move [5]⟩

def seatedProxy : Proxy (PlayerProto Int) :=
  WorldProxy.handleTeleport (WorldProxy.create 0x30000) ⟨0, [97], 9, lineProto, ⟨4, .tcpListen⟩, 0x30000⟩

theorem space_found : getNetworkIdentify spaceConnection.locator .space (getAppIdFromSN lineSetting.sn) =
    ⟨⟨7, .tcpConnector⟩, addTagInt clear .app (getAppKey .space 3)⟩ := by
  have key : getAppIdFromSN lineSetting.sn = 3 := by decide
  rw [key]
  simp [getNetworkIdentify, spaceConnection, NetworkLocator.addNetworkIdentify]

theorem space_connected : Connected lineSetting.sn spaceConnection := by
  refine ⟨?_, ?_, by decide, by decide, ?_, ?_⟩
  · rw [space_found]
    decide
  · rw [space_found]
    decide
  · intro tag other
    cases tag <;> first | rfl | exact absurd rfl other
  · intro tag other
    cases tag <;> first | rfl | exact absurd rfl other

theorem proxy_seats {system : System}
    (registered : Registered worldProxyFunctions (some (.message .proxyDefault)) lineSetting.sn system) :
    ∃ after, Registered worldProxyFunctions (some (.message .proxyDefault)) lineSetting.sn after ∧
      ProxyTakes lineSetting (allInOne ∅) comes system (WorldProxy.create 0x30000) after
        ⟨seatedProxy, [.dispatched (forWorld 0x30000 9 (.syncPlayer [97] lineProto))], []⟩ := by
  apply proxy_takes_of_reached registered (by decide) fun _ => false
  have told := (to_world_carried ∅ lineSetting.sn 9 (.syncPlayer [97] lineProto) space_connected).1
  have routes : proxyRoutes (allInOne ∅) lineSetting.sn (WorldProxy.create 0x30000) seatedProxy =
      [.dispatched (forWorld 0x30000 9 (.syncPlayer [97] lineProto))] := by
    exact congrArg (fun route => [route]) told
  rw [← routes]
  exact Run.next (ProxyEffect.function _ 0 none
    (.teleport ⟨0, [97], 9, lineProto, ⟨4, .tcpListen⟩, 0x30000⟩) seatedProxy rfl ⟨rfl, rfl⟩) (Run.refl _)

theorem world_lets_in {system : System} (registered : Registered worldFunctions none lineSetting.sn system) :
    ∃ world after, Registered worldFunctions none lineSetting.sn after ∧
      WorldTakes lineSetting (forWorld 0x30000 9 (.syncPlayer [97] lineProto)) system
        (SpaceWorld.create 2 0x30000) after ⟨world, [.dispatched (forPlayer 9 0x30000 (.enterWorld 2 0))]⟩ := by
  obtain ⟨world, handled⟩ : ∃ world, SpaceWorld.handle lineSetting.resources lineSetting.motion
      (SpaceWorld.create 2 0x30000) (.syncPlayer noIdentify.socketKey lineProto) = some world := ⟨_, rfl⟩
  have sent : world.sent = [.player 9 0x30000 noIdentify.socketKey (.enterWorld 2 0)] := by
    cases handled
    rfl
  refine ⟨world, ?_⟩
  apply world_takes_of_reached registered (by decide) fun _ => false
  have routes : worldRoutes (SpaceWorld.create 2 0x30000) world =
      [.dispatched (forPlayer 9 0x30000 (.enterWorld 2 0))] := by
    have copied := copy_from_ints _ (player_tags_ints 9 0x30000)
    simp [worldRoutes, sent, SpaceWorld.create, toPlayer, createPacket, copied, sendPacket, forPlayer]
  rw [← routes]
  exact Run.next (WorldEffect.function ⟨SpaceWorld.create 2 0x30000, []⟩ ⟨0, 0⟩ _ world rfl handled) (Run.refl _)

theorem proxy_forwards {system : System}
    (registered : Registered worldProxyFunctions (some (.message .proxyDefault)) lineSetting.sn system) :
    ∃ after, Registered worldProxyFunctions (some (.message .proxyDefault)) lineSetting.sn after ∧
      ProxyTakes lineSetting (allInOne ∅) (forPlayer 9 0x30000 (.enterWorld 2 0)) system seatedProxy after
        ⟨seatedProxy, [], [createPacket ⟨⟨4, .tcpListen⟩, addTagStr clear .account [97]⟩
          (.toPlayer (.enterWorld 2 0))]⟩ := by
  apply proxy_takes_of_reached registered (by decide) fun _ => false
  exact Run.next (ProxyEffect.default ⟨seatedProxy, [], []⟩ rfl) (Run.refl _)

theorem proxy_relays {system : System}
    (registered : Registered worldProxyFunctions (some (.message .proxyDefault)) lineSetting.sn system) :
    ∃ after, Registered worldProxyFunctions (some (.message .proxyDefault)) lineSetting.sn after ∧
      ProxyTakes lineSetting (allInOne ∅) moves system seatedProxy after
        ⟨seatedProxy, [.dispatched (forWorld 0x30000 9 (.move [5]))], []⟩ := by
  apply proxy_takes_of_reached registered (by decide) fun _ => false
  have told := (to_world_carried ∅ lineSetting.sn 9 (.move [5] : Content Int) space_connected).2.1
  have side : handleDefaultFunction (allInOne ∅) lineSetting.sn ⟨seatedProxy, [], []⟩ moves =
      ⟨seatedProxy, [.dispatched (forWorld 0x30000 9 (.move [5]))], []⟩ := by
    exact congrArg (fun route => ProxySide.mk seatedProxy [route] []) told
  rw [← side]
  exact Run.next (ProxyEffect.default ⟨seatedProxy, [], []⟩ rfl) (Run.refl _)

theorem moves_from_outside : FromOutside moves := by
  refine .client ?_ rfl rfl rfl ?_
  · intro untagged
    cases untagged
  · intro same
    cases same

theorem all_in_one_refines_enter : ∃ otherLabels other,
    Run (serversStep lineSetting spaceConnection)
        (serversStart lineSetting 2 MessageSystem.new MessageSystem.new) otherLabels other ∧
      observed serversShow otherLabels = [.came comes,
        .client (createPacket ⟨⟨4, .tcpListen⟩, addTagStr clear .account [97]⟩ (.toPlayer (.enterWorld 2 0))),
        .came moves] ∧
      other.proxy = seatedProxy := by
  have unused : Unused lineSetting.sn MessageSystem.new := by
    constructor
    · intro msgId
      simp [functionAt, MessageSystem.new]
    · simp [MessageSystem.new]
  obtain ⟨_, proxyFirst, seats⟩ := proxy_seats (world_proxy_awake_registered lineSetting.sn _ unused)
  -- each of the two takes up what is not for it
  have ignored : ∃ after, Registered worldFunctions none lineSetting.sn after ∧
      WorldTakes lineSetting comes (worldAwake lineSetting.sn MessageSystem.new) (SpaceWorld.create 2 0x30000) after
        ⟨SpaceWorld.create 2 0x30000, []⟩ :=
    world_takes_of_reached (world_awake_registered lineSetting.sn _ unused) (by decide) (fun _ => false) (Run.refl _)
  obtain ⟨_, worldFirst, ignores⟩ := ignored
  obtain ⟨world, _, _, lets⟩ := world_lets_in worldFirst
  have skipped : ∃ after, Registered worldProxyFunctions (some (.message .proxyDefault)) lineSetting.sn after ∧
      ProxyTakes lineSetting (allInOne ∅) (forWorld 0x30000 9 (.syncPlayer [97] lineProto)) _ seatedProxy after
        ⟨seatedProxy, [], []⟩ :=
    proxy_takes_of_reached proxyFirst (by decide) (fun _ => false) (Run.refl _)
  obtain ⟨_, proxySecond, skips⟩ := skipped
  obtain ⟨_, proxyThird, forwards⟩ := proxy_forwards proxySecond
  obtain ⟨_, _, relays⟩ := proxy_relays proxyThird
  have run : ∃ last, Run (step lineSetting ∅) (start lineSetting 2 MessageSystem.new MessageSystem.new)
      [.arrive comes, .deliver ⟨comes, .outside⟩, .proxy [],
        .deliver ⟨forWorld 0x30000 9 (.syncPlayer [97] lineProto), .proxy⟩, .world, .world,
        .deliver ⟨forPlayer 9 0x30000 (.enterWorld 2 0), .world⟩, .proxy [],
        .proxy [createPacket ⟨⟨4, .tcpListen⟩, addTagStr clear .account [97]⟩ (.toPlayer (.enterWorld 2 0))],
        .arrive moves, .deliver ⟨moves, .outside⟩, .proxy []] last ∧ last.proxy = seatedProxy :=
    ⟨_, .next ⟨.teleport 0 [97] 9 lineProto rfl rfl, rfl⟩ (.next ⟨_, rfl, rfl⟩
      (.next ⟨_, _, _, _, rfl, seats, rfl, rfl⟩ (.next ⟨_, rfl, rfl⟩
      (.next ⟨_, _, _, _, rfl, ignores, rfl⟩ (.next ⟨_, _, _, _, rfl, lets, rfl⟩
      (.next ⟨_, rfl, rfl⟩ (.next ⟨_, _, _, _, rfl, skips, rfl, rfl⟩
      (.next ⟨_, _, _, _, rfl, forwards, rfl, rfl⟩
      (.next ⟨moves_from_outside, rfl⟩ (.next ⟨_, rfl, rfl⟩
      (.next ⟨_, _, _, _, rfl, relays, rfl, rfl⟩ (.refl _)))))))))))), rfl⟩
  obtain ⟨last, run, seated⟩ := run
  obtain ⟨otherLabels, other, there, same, proxy, _⟩ := all_in_one_refines ∅ space_connected (by decide) 2 unused
    unused unused unused run
  exact ⟨otherLabels, other, there, same, proxy.trans seated⟩

end GameBook.AllInOne
