import GameBook.Channels
import GameBook.CreateWorld
import GameBook.LobbyWaiting
import GameBook.WorldProxyLocator

/-!
A request for a public world on its way: the lobby asks appmgr, appmgr a space
process, which creates the world and announces it to appmgr and to the game
process; the locator lets a proxy be created, whose announcement reaches the
lobby. Messages of one connection are read in order and none is lost while it
stands. A space process is connected to appmgr and to the game process.
-/

namespace GameBook.WorldRequests

open OrderedMap SocketObject AppKey LabelledRun SyncComponent Channels LobbyWaiting

abbrev LobbyState := Lobby.LobbyState
abbrev Manager := CreateWorld.Manager
abbrev LocatorState := WorldProxyLocator.LocatorState
abbrev Resources := Lobby.Resources

/-- The `Proto::BroadcastCreateWorld` and `Proto::BroadcastCreateWorldProxy` of
a public world. -/
structure NewWorld where
  worldId : Int
  worldSn : UInt64
  deriving DecidableEq

/-- `links` are the connections of appmgr, by socket. A creation is `owed` from
the moment appmgr asks for it until the process answers or is lost. Messages
to the game process come from a space process or from appmgr (`none`). -/
structure System where
  lobby : LobbyState
  manager : Manager
  locator : LocatorState
  links : List (Int × Int)
  owed : List (Int × Int)
  requests : List Int
  toManager : List (Int × NewWorld)
  toGame : List (Option Int × NewWorld)
  creates : List NewWorld
  toLobby : List NewWorld

def start (sn : UInt64) : System :=
  ⟨Lobby.create sn, CreateWorld.initial, ⟨∅, (∅ : Table UInt64 Unit).insert sn ()⟩, [], [], [], [], [], [], []⟩

def answers (l : LocatorState) : Lobby.Locator where
  isExistDungeon := WorldProxyLocator.isExistDungeon l
  getWorldSnById := WorldProxyLocator.getWorldSnById l

def announced (messages : List CreateWorld.Sent) : List NewWorld :=
  messages.filterMap fun
    | .broadcastCreateWorld worldId worldSn _ _ => some ⟨worldId, worldSn⟩
    | _ => none

def newAnnounced (before after : Manager) : List NewWorld :=
  announced (after.sent.drop before.sent.length)

inductive Event where
  | lobby (event : Lobby.Event)
  | tokenRs (account token : Str) (playerSn : UInt64)
  | told
  | request
  | created (appId worldId : Int) (worldSn : UInt64)
  | answer (appId : Int)
  | locate (sender : Option Int)
  | awake (world : NewWorld)
  | leave (worldId : Int) (worldSn : UInt64)
  | connect (socket appId : Int)
  | sync (proto : AppInfoSync) (socket : Int)
  | disconnect (identify : NetIdentify) (appType : AppType) (appId : Nat)

def lobbyTurn (before : System) (lobby : LobbyState) : System :=
  { before with
    lobby := lobby
    requests := before.requests ++ newRequests before.lobby lobby }

def requestTurn (resources : Resources) (game : NetIdentify) (before : System) (worldId : Int)
    (others : List Int) : System :=
  let manager := CreateWorld.handleRequestWorld resources.world before.manager game worldId
  { before with
    manager := manager
    requests := others
    owed := before.owed ++ CreateWorld.newAsks before.manager manager
    toGame := before.toGame ++ (newAnnounced before.manager manager).map fun world => (none, world) }

def createdTurn (before : System) (appId : Int) (world : NewWorld) : System :=
  { before with
    owed := before.owed.erase (world.worldId, appId)
    toManager := before.toManager ++ [(appId, world)]
    toGame := before.toGame ++ [(some appId, world)] }

/-- The locator has handled an announcement; it may be refused. -/
def locateTurn (resources : Resources) (before : System) (sender : Option Int) (world : NewWorld) :
    System :=
  { before with
    toGame := rest sender before.toGame
    creates := before.creates ++
      ((WorldProxyLocator.handleBroadcastCreateWorld resources.world before.locator world.worldId
        world.worldSn 0).toList.map fun component => ⟨component.worldId, component.worldSn⟩) }

def awakeTurn (before : System) (world : NewWorld) (locator : LocatorState) : System :=
  { before with
    locator := locator
    creates := before.creates.erase world
    toLobby := before.toLobby ++ [world] }

def disconnectTurn (before : System) (socket appId : Int) (manager : Manager) : System :=
  { before with
    manager := manager
    links := before.links.erase (socket, appId)
    owed := before.owed.filter (·.2 ≠ appId) ++ CreateWorld.newAsks before.manager manager }

def systemStep (resources : Resources) (configured : UInt64 → Int → Option CommonConfig) (game : NetIdentify)
    (before : System) (event : Event) (after : System) : Prop :=
  match event with
  | .lobby event =>
      ∃ lobby, ReadsLocator (answers before.locator) event ∧
        Lobby.lobbyStep resources before.lobby event lobby ∧ after = lobbyTurn before lobby
  | .tokenRs account token playerSn =>
      after = lobbyTurn before (Lobby.handleGameTokenToRedisRs before.lobby account token playerSn)
  | .told =>
      ∃ world others, before.toLobby = world :: others ∧
        after = { before with
          lobby := Lobby.handleBroadcastCreateWorldProxy resources before.lobby world.worldId world.worldSn
          toLobby := others }
  | .request =>
      ∃ worldId others, before.requests = worldId :: others ∧
        after = requestTurn resources game before worldId others
  | .created appId worldId worldSn =>
      (worldId, appId) ∈ before.owed ∧ worldSn ≠ AppKey.invalidId ∧
        after = createdTurn before appId ⟨worldId, worldSn⟩
  | .answer appId =>
      ∃ world manager, next appId before.toManager = some world ∧
        CreateWorld.handleBroadcastCreateWorld resources.world before.manager world.worldId
          world.worldSn = some manager ∧
        after = { before with manager := manager, toManager := rest appId before.toManager }
  | .locate sender =>
      ∃ world, next sender before.toGame = some world ∧ after = locateTurn resources before sender world
  -- the threads come to the creations in any order
  | .awake world =>
      world ∈ before.creates ∧ ∃ locator,
        WorldProxyLocator.registerToLocator resources.world before.locator world.worldId
          world.worldSn = some locator ∧ after = awakeTurn before world locator
  | .leave worldId worldSn =>
      after = { before with locator := WorldProxyLocator.remove before.locator worldId worldSn }
  | .connect socket appId =>
      (∀ link ∈ before.links, link.1 ≠ socket ∧ link.2 ≠ appId) ∧
        after = { before with links := before.links ++ [(socket, appId)] }
  | .sync proto socket =>
      (socket, proto.appId) ∈ before.links ∧
        after = { before with
          manager := CreateWorld.handleAppInfoSync configured before.manager proto socket }
  | .disconnect identify appType appId =>
      isTcp identify.socketKey.netType = true ∧
        identify.tagKey .app = some (CreateWorld.appTag appType appId) ∧
        CreateWorld.isSpace appType = true ∧
        (identify.socketKey.socket, (appId : Int)) ∈ before.links ∧
        -- what the process has sent before is read first
        next (appId : Int) before.toManager = none ∧
        ∃ fuel manager, CreateWorld.handleNetworkDisconnect fuel before.manager identify = some manager ∧
          after = disconnectTurn before identify.socketKey.socket appId manager

/-- The id of a process that is lost fits in the sixteen bits an app key has for it. -/
def SixteenBits (_ : System) : Event → Prop
  | .disconnect _ _ appId => appId < 65536
  | _ => True

/-! What is promised to those who wait. -/

def OnTheWay (s : System) (worldId : Int) : Prop :=
  worldId ∈ s.requests ∨ (∃ entry ∈ s.toGame, entry.2.worldId = worldId) ∨
    (∃ world ∈ s.creates, world.worldId = worldId) ∨ ∃ world ∈ s.toLobby, world.worldId = worldId

/-- The process is connected, and the creation or its answer has not been read. -/
def AtLive (s : System) (worldId appId : Int) : Prop :=
  (∃ link ∈ s.links, link.2 = appId) ∧
    ((worldId, appId) ∈ s.owed ∨ ∃ entry ∈ s.toManager, entry.1 = appId ∧ entry.2.worldId = worldId)

def BeingCreated (s : System) (worldId : Int) : Prop :=
  ∃ appId, s.manager.creating[worldId]? = some appId ∧ AtLive s worldId appId

def Quiescent (s : System) : Prop :=
  s.requests = [] ∧ s.owed = [] ∧ s.toManager = [] ∧ s.toGame = [] ∧ s.creates = [] ∧ s.toLobby = []

structure Promised (s : System) : Prop where
  followed : ∀ worldId, Waiting s.lobby worldId → OnTheWay s worldId ∨ BeingCreated s worldId
  served : Quiescent s → ∀ worldId, ¬ Waiting s.lobby worldId

/-! The applications appmgr knows are connected. -/

def Known (links : List (Int × Int)) (apps : Apps) : Prop :=
  ∀ (appId : Int) (info : AppInfo), apps[appId]? = some info →
    info.appId = appId ∧ (info.socket, appId) ∈ links

variable {links : List (Int × Int)}

theorem known_insert {apps : Apps} (known : Known links apps) (appId : Int) (info : AppInfo)
    (own : info.appId = appId) (linked : (info.socket, appId) ∈ links) :
    Known links (apps.insert appId info) := by
  intro other held there
  rw [get_insert] at there
  split at there
  · rename_i same
    cases there
    rw [same]
    exact ⟨own, linked⟩
  · exact known other held there

theorem known_get_one {apps chosenApps : Apps} {appType : UInt64} {info : AppInfo}
    (known : Known links apps) (chosen : getOneApp appType apps = some (info, chosenApps)) :
    (info.socket, info.appId) ∈ links ∧ Known links chosenApps := by
  obtain ⟨appId, held, -, found, -, rfl, rfl⟩ := get_one_app_some chosen
  obtain ⟨own, linked⟩ := known appId held found
  refine ⟨?_, known_insert known appId _ own linked⟩
  rw [counted_app_id, own]
  exact linked

theorem known_parse {apps : Apps} (known : Known links apps) (configured : UInt64 → Int → Option CommonConfig)
    (proto : AppInfoSync) (socket : Int) (linked : (socket, proto.appId) ∈ links) :
    Known links (parse configured apps proto socket) := by
  unfold parse
  split
  · split
    · exact known
    · exact known_insert known _ _ rfl linked
  · rename_i info found
    exact known_insert known _ _ (known _ _ found).1 linked

/-- The sockets are distinct, so only one application goes with a socket. -/
theorem known_drop {apps : Apps} (known : Known links apps) (socket appId : Int)
    (distinct : (links.map (·.1)).Nodup) :
    Known (links.erase (socket, appId)) (dropSocket apps socket) := by
  have still : ∀ (other : Int) (info : AppInfo), apps[other]? = some info → info.socket ≠ socket →
      info.appId = other ∧ (info.socket, other) ∈ links.erase (socket, appId) := by
    intro other info held differs
    obtain ⟨own, linked⟩ := known other info held
    refine ⟨own, (List.mem_erase_of_ne ?_).mpr linked⟩
    intro same
    exact differs (congrArg Prod.fst same)
  unfold dropSocket
  -- the loop breaks at the first entry on the socket
  cases found : findIf (fun info => info.socket == socket) apps with
  | none =>
      intro other info held
      apply still other info held
      simpa using find_if_none.mp found other info held
  | some pair =>
      obtain ⟨key, first⟩ := pair
      obtain ⟨there, hit⟩ := find_if_some found
      have ofSocket : first.socket = socket := by simpa using hit
      intro other info held
      dsimp only at held
      rw [get_erase] at held
      split at held
      · cases held
      · rename_i differs
        apply still other info held
        intro same
        have one := List.inj_on_of_nodup_map distinct (known other info held).2 (known key first there).2
          (same.trans ofSocket.symm)
        exact differs (congrArg Prod.snd one)

/-! Appmgr's handlers, as far as a world that is waited for depends on them. -/

theorem request_spec (resources : Resources) (s : Manager) (game : NetIdentify) (worldId : Int) :
    (CreateWorld.handleRequestWorld resources.world s game worldId = s ∧
      (resources.world worldId = some .publicWorld → s.creating[worldId]? = none →
        s.created[worldId]? = none ∧ getOneApp (bits .space) s.apps = none)) ∨
    (resources.world worldId = some .publicWorld ∧
      ∃ worldSn, s.created[worldId]? = some worldSn ∧
        CreateWorld.handleRequestWorld resources.world s game worldId =
          { s with sent := s.sent ++ [.broadcastCreateWorld worldId worldSn 0 game.socketKey] }) ∨
    (resources.world worldId = some .publicWorld ∧ s.creating[worldId]? = none ∧
      s.created[worldId]? = none ∧
      ∃ info apps, getOneApp (bits .space) s.apps = some (info, apps) ∧
        CreateWorld.handleRequestWorld resources.world s game worldId = { s with
          apps := apps
          sent := s.sent ++ [.createWorld worldId info.appId]
          creating := if info.appId ≠ CreateWorld.invalidId then s.creating.insert worldId info.appId
            else s.creating }) := by
  -- a dungeon has a message of its own; a world being created is not asked for twice
  by_cases isPublic : resources.world worldId = some .publicWorld
  · cases creating : s.creating[worldId]? with
    | some creator =>
        exact Or.inl ⟨by simp [CreateWorld.handleRequestWorld, isPublic, creating], fun _ => nofun⟩
    | none =>
        cases created : s.created[worldId]? with
        | some worldSn =>
            right
            left
            exact ⟨isPublic, worldSn, rfl, by
              simp [CreateWorld.handleRequestWorld, isPublic, creating, created]⟩
        | none =>
            rcases CreateWorld.req_create_world_cases s worldId with
              ⟨nobody, none⟩ | ⟨info, apps, chosen, asked⟩
            · exact Or.inl ⟨by simp [CreateWorld.handleRequestWorld, isPublic, creating, created, none],
                fun _ _ => ⟨rfl, nobody⟩⟩
            · right
              right
              refine ⟨isPublic, rfl, rfl, info, apps, chosen, ?_⟩
              by_cases invalid : info.appId = CreateWorld.invalidId
              · simp [CreateWorld.handleRequestWorld, isPublic, creating, created, asked, invalid]
              · simp [CreateWorld.handleRequestWorld, isPublic, creating, created, asked, invalid]
  · exact Or.inl ⟨by simp [CreateWorld.handleRequestWorld, isPublic], fun same => absurd same isPublic⟩

structure Carried (links : List (Int × Int)) (appId : Int) (before s : Manager) : Prop where
  known : Known links s.apps
  kept : ∀ worldId creator : Int, before.creating[worldId]? = some creator → creator ≠ appId →
    s.creating[worldId]? = some creator

theorem carried_reissue {appId : Int} {before s nextState : Manager}
    (carried : Carried links appId before s)
    (turn : CreateWorld.reissueTurn appId s = .inl nextState) : Carried links appId before nextState := by
  unfold CreateWorld.reissueTurn at turn
  split at turn
  · cases turn
  · rename_i worldId creator found
    obtain ⟨held, hit⟩ := find_if_some found
    have lost : creator = appId := by simpa using hit
    -- the turn erases an entry of the process that is gone
    have kept : ∀ other maker : Int, before.creating[other]? = some maker → maker ≠ appId →
        (s.creating.erase worldId)[other]? = some maker := by
      intro other maker there differs
      have still := carried.kept other maker there differs
      rw [get_erase]
      split
      · rename_i same
        rw [same, held] at still
        exact absurd ((Option.some.inj still).symm.trans lost) differs
      · exact still
    rcases CreateWorld.req_create_world_cases { s with creating := s.creating.erase worldId } worldId with
      ⟨-, none⟩ | ⟨info, apps, chosen, asked⟩
    · rw [none] at turn
      cases turn
      exact ⟨carried.known, kept⟩
    · rw [asked] at turn
      cases turn
      exact ⟨(known_get_one carried.known chosen).2, kept⟩

theorem carried_drop_created {appId other : Int} {before s nextState : Manager}
    (carried : Carried links appId before s)
    (turn : CreateWorld.dropCreatedTurn other s = .inl nextState) : Carried links appId before nextState := by
  unfold CreateWorld.dropCreatedTurn at turn
  split at turn
  · cases turn
  · cases turn
    exact ⟨carried.known, carried.kept⟩

theorem carried_drop_dungeon {appId other : Int} {before s nextState : Manager}
    (carried : Carried links appId before s)
    (turn : CreateWorld.dropDungeonTurn other s = .inl nextState) : Carried links appId before nextState := by
  have same := (CreateWorld.drop_dungeon_turn other s nextState turn).1
  rw [same]
  exact ⟨carried.known, carried.kept⟩

theorem carried_disconnect {s result : Manager} {fuel : Nat} {identify : NetIdentify} {app : TagValue}
    {appId : Int} (known : Known links s.apps) (distinct : (links.map (·.1)).Nodup)
    (overTcp : isTcp identify.socketKey.netType = true) (tag : identify.tagKey .app = some app)
    (own : CreateWorld.appIdOfTag app = appId)
    (done : CreateWorld.handleNetworkDisconnect fuel s identify = some result) :
    Carried (links.erase (identify.socketKey.socket, appId)) appId s result := by
  subst own
  simp only [CreateWorld.handleNetworkDisconnect, overTcp, tag, Bool.not_true, Bool.false_eq_true,
    if_false, Option.bind_eq_some_iff] at done
  obtain ⟨reissued, first, dropped, second, third⟩ := done
  have begun : Carried (links.erase (identify.socketKey.socket, CreateWorld.appIdOfTag app))
      (CreateWorld.appIdOfTag app) s
      { s with apps := dropSocket s.apps identify.socketKey.socket } :=
    ⟨known_drop known _ _ distinct, fun _ _ held _ => held⟩
  have afterFirst := (WhileLoop.loop_stops _ (fun _ _ holds turn => carried_reissue holds turn)
    (CreateWorld.reissue_exit _) fuel _ reissued begun first).1
  have afterSecond := (WhileLoop.loop_stops _ (fun _ _ holds turn => carried_drop_created holds turn)
    (CreateWorld.drop_created_exit _) fuel reissued dropped afterFirst second).1
  exact (WhileLoop.loop_stops _ (fun _ _ holds turn => carried_drop_dungeon holds turn)
    (CreateWorld.drop_dungeon_exit _) fuel dropped result afterSecond third).1

/-! What holds in every run, whatever is lost. -/

def Good (resources : Resources) (world : NewWorld) : Prop :=
  resources.world world.worldId = some .publicWorld ∧ world.worldSn ≠ AppKey.invalidId

structure Tracked (resources : Resources) (s : System) : Prop where
  located : ∀ (worldId : Int) (worldSn : UInt64), s.locator.publics[worldId]? = some worldSn →
    worldSn ≠ AppKey.invalidId ∧
      (Waiting s.lobby worldId → ∃ world ∈ s.toLobby, world.worldId = worldId)
  owed : ∀ creation ∈ s.owed, resources.world creation.1 = some .publicWorld
  creating : ∀ worldId appId : Int, s.manager.creating[worldId]? = some appId →
    resources.world worldId = some .publicWorld ∧ AtLive s worldId appId
  created : ∀ (worldId : Int) (worldSn : UInt64), s.manager.created[worldId]? = some worldSn →
    Good resources ⟨worldId, worldSn⟩
  toManager : ∀ entry ∈ s.toManager, Good resources entry.2
  toGame : ∀ entry ∈ s.toGame, Good resources entry.2
  creates : ∀ world ∈ s.creates, Good resources world
  toLobby : ∀ world ∈ s.toLobby, Good resources world
  sockets : (s.links.map (·.1)).Nodup
  known : Known s.links s.manager.apps

variable {resources : Resources}

theorem tracked_start (sn : UInt64) : Tracked resources (start sn) where
  located worldId worldSn held := by simp [start] at held
  owed creation member := absurd member List.not_mem_nil
  creating worldId appId held := by simp [start, CreateWorld.initial] at held
  created worldId worldSn held := by simp [start, CreateWorld.initial] at held
  toManager entry member := absurd member List.not_mem_nil
  toGame entry member := absurd member List.not_mem_nil
  creates world member := absurd member List.not_mem_nil
  toLobby world member := absurd member List.not_mem_nil
  sockets := List.nodup_nil
  known appId info held := by simp [start, CreateWorld.initial] at held

theorem tracked_lobby {s : System} (lobby : LobbyState) (tracked : Tracked resources s)
    (awaits : Awaits (answers s.locator) s.lobby lobby) : Tracked resources (lobbyTurn s lobby) := by
  refine { tracked with located := ?_ }
  intro worldId worldSn held
  obtain ⟨valid, told⟩ := tracked.located worldId worldSn held
  refine ⟨valid, ?_⟩
  intro waiting
  rcases awaits.absent worldId waiting with was | unknown
  · exact told was
  · change WorldProxyLocator.getWorldSnById s.locator worldId = invalidId at unknown
    have found : s.locator.publics[worldId]? = some worldSn := held
    rw [WorldProxyLocator.getWorldSnById, found] at unknown
    exact absurd unknown valid

theorem tracked_told {s : System} {world : NewWorld} {others : List NewWorld}
    (tracked : Tracked resources s) (head : s.toLobby = world :: others) :
    Tracked resources { s with
      lobby := Lobby.handleBroadcastCreateWorldProxy resources s.lobby world.worldId world.worldSn
      toLobby := others } := by
  have good := tracked.toLobby
  rw [head] at good
  refine { tracked with
    located := ?_
    toLobby := fun other member => good other (List.mem_cons_of_mem _ member) }
  intro worldId worldSn held
  obtain ⟨valid, told⟩ := tracked.located worldId worldSn held
  refine ⟨valid, ?_⟩
  intro waiting
  obtain ⟨was, differs⟩ :=
    (waiting_broadcast resources s.lobby world.worldId worldId world.worldSn
      (good world List.mem_cons_self).1).mp waiting
  obtain ⟨other, member, same⟩ := told was
  rw [head] at member
  rcases List.mem_cons.mp member with first | later
  · exact absurd (first ▸ same).symm differs
  · exact ⟨other, later, same⟩

def announcedTurn (game : NetIdentify) (s : System) (worldId : Int) (worldSn : UInt64)
    (others : List Int) : System :=
  { s with
    manager := { s.manager with
      sent := s.manager.sent ++ [.broadcastCreateWorld worldId worldSn 0 game.socketKey] }
    requests := others
    toGame := s.toGame ++ [(none, ⟨worldId, worldSn⟩)] }

def askedTurn (s : System) (worldId : Int) (info : AppInfo) (apps : Apps) (others : List Int) : System :=
  { s with
    manager := { s.manager with
      apps := apps
      sent := s.manager.sent ++ [.createWorld worldId info.appId]
      creating := if info.appId ≠ CreateWorld.invalidId then
        s.manager.creating.insert worldId info.appId else s.manager.creating }
    requests := others
    owed := s.owed ++ [(worldId, info.appId)] }

theorem request_turn_cases (resources : Resources) (game : NetIdentify) (s : System) (worldId : Int) (others : List Int) :
    (requestTurn resources game s worldId others = { s with requests := others } ∧
      (resources.world worldId = some .publicWorld → s.manager.creating[worldId]? = none →
        s.manager.created[worldId]? = none ∧ getOneApp (bits .space) s.manager.apps = none)) ∨
    (resources.world worldId = some .publicWorld ∧
      ∃ worldSn, s.manager.created[worldId]? = some worldSn ∧
        requestTurn resources game s worldId others = announcedTurn game s worldId worldSn others) ∨
    (resources.world worldId = some .publicWorld ∧ s.manager.creating[worldId]? = none ∧
      s.manager.created[worldId]? = none ∧
      ∃ info apps, getOneApp (bits .space) s.manager.apps = some (info, apps) ∧
        requestTurn resources game s worldId others = askedTurn s worldId info apps others) := by
  rcases request_spec resources s.manager game worldId with
    ⟨same, nobody⟩ | ⟨isPublic, worldSn, created, done⟩ |
      ⟨isPublic, absent, unknown, info, apps, chosen, done⟩
  · left
    refine ⟨?_, nobody⟩
    simp [requestTurn, same, CreateWorld.newAsks, CreateWorld.asks, newAnnounced, announced]
  · right
    left
    refine ⟨isPublic, worldSn, created, ?_⟩
    simp [requestTurn, announcedTurn, done, CreateWorld.newAsks, CreateWorld.asks, newAnnounced,
      announced]
  · right
    right
    refine ⟨isPublic, absent, unknown, info, apps, chosen, ?_⟩
    simp [requestTurn, askedTurn, done, CreateWorld.newAsks, CreateWorld.asks, newAnnounced, announced]

theorem tracked_request {s : System} (game : NetIdentify) (worldId : Int) (others : List Int)
    (tracked : Tracked resources s) : Tracked resources (requestTurn resources game s worldId others) := by
  rcases request_turn_cases resources game s worldId others with
    ⟨same, -⟩ | ⟨isPublic, worldSn, created, done⟩ | ⟨isPublic, -, -, info, apps, chosen, done⟩
  · rw [same]
    exact { tracked with }
  · rw [done]
    refine { tracked with toGame := ?_ }
    intro entry member
    rcases List.mem_append.mp member with older | newest
    · exact tracked.toGame entry older
    · rw [List.mem_singleton.mp newest]
      exact tracked.created worldId worldSn created
  -- nothing is created or recorded: the one process chosen owes the world from now on
  · rw [done]
    obtain ⟨linked, known⟩ := known_get_one tracked.known chosen
    have still : ∀ other appId : Int, s.manager.creating[other]? = some appId →
        resources.world other = some .publicWorld ∧
          AtLive (askedTurn s worldId info apps others) other appId := by
      intro other appId held
      obtain ⟨kind, link, owes | answered⟩ := tracked.creating other appId held
      · exact ⟨kind, link, Or.inl (List.mem_append_left _ owes)⟩
      · exact ⟨kind, link, Or.inr answered⟩
    refine { tracked with owed := ?_, creating := ?_, known := known }
    · intro creation member
      rcases List.mem_append.mp member with older | newest
      · exact tracked.owed creation older
      · rw [List.mem_singleton.mp newest]
        exact isPublic
    · intro other appId held
      dsimp only [askedTurn] at held
      split at held
      · rw [get_insert] at held
        split at held
        · rename_i same
          cases held
          rw [same]
          exact ⟨isPublic, ⟨_, linked, rfl⟩, Or.inl (List.mem_append_right _ List.mem_cons_self)⟩
        · exact still other appId held
      · exact still other appId held

theorem tracked_created {s : System} (appId : Int) (world : NewWorld)
    (tracked : Tracked resources s) (owes : (world.worldId, appId) ∈ s.owed)
    (valid : world.worldSn ≠ AppKey.invalidId) : Tracked resources (createdTurn s appId world) := by
  have good : Good resources world := ⟨tracked.owed _ owes, valid⟩
  refine { tracked with owed := ?_, creating := ?_, toManager := ?_, toGame := ?_ }
  · exact fun creation member => tracked.owed creation (List.mem_of_mem_erase member)
  · intro other process held
    obtain ⟨isPublic, link, owed | answered⟩ := tracked.creating other process held
    · refine ⟨isPublic, link, ?_⟩
      -- what the process owed is answered from now on, in a packet to appmgr
      by_cases same : (other, process) = (world.worldId, appId)
      · right
        cases same
        exact ⟨(appId, world), List.mem_append_right _ List.mem_cons_self, rfl, rfl⟩
      · exact Or.inl ((List.mem_erase_of_ne same).mpr owed)
    · obtain ⟨entry, member, same⟩ := answered
      exact ⟨isPublic, link, Or.inr ⟨entry, List.mem_append_left _ member, same⟩⟩
  · intro entry member
    rcases List.mem_append.mp member with older | newest
    · exact tracked.toManager entry older
    · rw [List.mem_singleton.mp newest]
      exact good
  · intro entry member
    rcases List.mem_append.mp member with older | newest
    · exact tracked.toGame entry older
    · rw [List.mem_singleton.mp newest]
      exact good

theorem tracked_answer {s : System} {appId : Int} {world : NewWorld} {manager : Manager}
    (tracked : Tracked resources s) (head : next appId s.toManager = some world)
    (handled : CreateWorld.handleBroadcastCreateWorld resources.world s.manager world.worldId
      world.worldSn = some manager) :
    manager.creating = s.manager.creating.erase world.worldId ∧
      Tracked resources { s with manager := manager, toManager := rest appId s.toManager } := by
  have split := mem_iff_of_next head
  have good : Good resources world :=
    tracked.toManager (appId, world) ((split _).mpr (Or.inl rfl))
  obtain ⟨created, creating⟩ :=
    CreateWorld.broadcast_public resources.world s.manager manager _ _ good.1 handled
  have apps : manager.apps = s.manager.apps := by
    unfold CreateWorld.handleBroadcastCreateWorld at handled
    rw [good.1] at handled
    cases handled
    rfl
  refine ⟨creating, { tracked with creating := ?_, created := ?_, toManager := ?_, known := ?_ }⟩
  · intro other process held
    dsimp only at held
    rw [creating, get_erase] at held
    split at held
    · cases held
    · rename_i differs
      obtain ⟨isPublic, link, owed | ⟨entry, member, sender, same⟩⟩ := tracked.creating other process held
      · exact ⟨isPublic, link, Or.inl owed⟩
      · -- The message just read is of another world.
        rcases (split entry).mp member with first | later
        · rw [first] at same
          exact absurd same.symm differs
        · exact ⟨isPublic, link, Or.inr ⟨entry, later, sender, same⟩⟩
  · intro other worldSn held
    dsimp only at held
    rw [created, get_insert] at held
    split at held
    · rename_i same
      cases held
      rw [same]
      exact good
    · exact tracked.created other worldSn held
  · exact fun entry member => tracked.toManager entry ((split entry).mpr (Or.inr member))
  · dsimp only
    rw [apps]
    exact tracked.known

theorem locate_cases (s : System) (sender : Option Int) {world : NewWorld}
    (isPublic : resources.world world.worldId = some .publicWorld) :
    ((∃ worldSn, s.locator.publics[world.worldId]? = some worldSn) ∧
      locateTurn resources s sender world = { s with toGame := rest sender s.toGame }) ∨
    locateTurn resources s sender world =
      { s with toGame := rest sender s.toGame, creates := s.creates ++ [world] } := by
  unfold locateTurn WorldProxyLocator.handleBroadcastCreateWorld
  rw [isPublic]
  cases entry : s.locator.publics[world.worldId]? with
  | some worldSn =>
      left
      exact ⟨⟨worldSn, rfl⟩, by simp⟩
  | none =>
      right
      simp

theorem tracked_locate {s : System} {sender : Option Int} {world : NewWorld}
    (tracked : Tracked resources s) (head : next sender s.toGame = some world) :
    Tracked resources (locateTurn resources s sender world) := by
  have split := mem_iff_of_next head
  have good : Good resources world := tracked.toGame (sender, world) ((split _).mpr (Or.inl rfl))
  have fewer : ∀ entry ∈ rest sender s.toGame, Good resources entry.2 :=
    fun entry member => tracked.toGame entry ((split entry).mpr (Or.inr member))
  rcases locate_cases s sender good.1 with ⟨-, done⟩ | done
  · rw [done]
    exact { tracked with toGame := fewer }
  · rw [done]
    refine { tracked with toGame := fewer, creates := ?_ }
    intro other member
    rcases List.mem_append.mp member with older | newest
    · exact tracked.creates other older
    · rw [List.mem_singleton.mp newest]
      exact good

theorem tracked_awake {s : System} {world : NewWorld} {locator : LocatorState}
    (tracked : Tracked resources s) (waits : world ∈ s.creates)
    (registered : WorldProxyLocator.registerToLocator resources.world s.locator world.worldId
      world.worldSn = some locator) : Tracked resources (awakeTurn s world locator) := by
  have good := tracked.creates world waits
  refine { tracked with
    located := ?_
    creates := fun other member => tracked.creates other (List.mem_of_mem_erase member)
    toLobby := ?_ }
  · intro worldId worldSn held
    -- told once the proxy is registered, under the id it is waited for by
    have older : s.locator.publics[worldId]? = some worldSn →
        worldSn ≠ AppKey.invalidId ∧ (Waiting s.lobby worldId →
          ∃ other ∈ s.toLobby ++ [world], other.worldId = worldId) := by
      intro was
      obtain ⟨valid, told⟩ := tracked.located worldId worldSn was
      refine ⟨valid, fun waiting => ?_⟩
      obtain ⟨other, member, same⟩ := told waiting
      exact ⟨other, List.mem_append_left _ member, same⟩
    rcases WorldProxyLocator.register_publics registered with ⟨-, publics⟩ | ⟨-, publics⟩
    · change locator.publics[worldId]? = some worldSn at held
      rw [publics, get_insert] at held
      split at held
      · rename_i same
        cases held
        exact ⟨good.2, fun _ => ⟨world, List.mem_append_right _ List.mem_cons_self, same.symm⟩⟩
      · exact older held
    · change locator.publics[worldId]? = some worldSn at held
      rw [publics] at held
      exact older held
  · intro other member
    rcases List.mem_append.mp member with older | newest
    · exact tracked.toLobby other older
    · rw [List.mem_singleton.mp newest]
      exact good

theorem tracked_leave {s : System} (worldId : Int) (worldSn : UInt64) (tracked : Tracked resources s) :
    Tracked resources { s with locator := WorldProxyLocator.remove s.locator worldId worldSn } := by
  refine { tracked with located := ?_ }
  intro other sn held
  dsimp only [WorldProxyLocator.remove] at held
  rw [get_erase] at held
  split at held
  · cases held
  · exact tracked.located other sn held

theorem tracked_connect {s : System} {socket appId : Int} (tracked : Tracked resources s)
    (fresh : ∀ link ∈ s.links, link.1 ≠ socket ∧ link.2 ≠ appId) :
    Tracked resources { s with links := s.links ++ [(socket, appId)] } := by
  refine { tracked with creating := ?_, sockets := ?_, known := ?_ }
  · intro worldId process held
    obtain ⟨isPublic, ⟨link, member, same⟩, work⟩ := tracked.creating worldId process held
    exact ⟨isPublic, ⟨link, List.mem_append_left _ member, same⟩, work⟩
  · rw [List.map_append, List.nodup_append]
    refine ⟨tracked.sockets, List.nodup_singleton _, ?_⟩
    rintro first member second single rfl
    obtain ⟨link, held, same⟩ := List.mem_map.mp member
    exact (fresh link held).1 (same.trans (List.mem_singleton.mp single))
  · intro process info held
    obtain ⟨own, linked⟩ := tracked.known process info held
    exact ⟨own, List.mem_append_left _ linked⟩

theorem live_disconnect {s : System} {socket appId worldId process : Int} (manager : Manager)
    (work : AtLive s worldId process) (other : process ≠ appId) :
    AtLive (disconnectTurn s socket appId manager) worldId process := by
  obtain ⟨⟨link, member, same⟩, owed | answered⟩ := work
  · refine ⟨⟨link, (List.mem_erase_of_ne ?_).mpr member, same⟩, Or.inl ?_⟩
    · rintro rfl
      exact other same.symm
    · exact List.mem_append_left _ (List.mem_filter.mpr ⟨owed, by simpa using other⟩)
  · refine ⟨⟨link, (List.mem_erase_of_ne ?_).mpr member, same⟩, Or.inr answered⟩
    rintro rfl
    exact other same.symm

theorem tracked_disconnect {s : System} {fuel : Nat} {identify : NetIdentify} {app : TagValue}
    {appId : Int} {manager : Manager} (tracked : Tracked resources s)
    (overTcp : isTcp identify.socketKey.netType = true) (tag : identify.tagKey .app = some app)
    (own : CreateWorld.appIdOfTag app = appId)
    (done : CreateWorld.handleNetworkDisconnect fuel s.manager identify = some manager) :
    Tracked resources (disconnectTurn s identify.socketKey.socket appId manager) := by
  have spec := CreateWorld.disconnect_spec fuel s.manager manager identify app overTcp tag done
  rw [own] at spec
  have carried := carried_disconnect tracked.known tracked.sockets overTcp tag own done
  refine { tracked with
    owed := ?_
    creating := ?_
    created := ?_
    sockets := (List.erase_sublist.map _).nodup tracked.sockets
    known := carried.known }
  · intro creation member
    rcases List.mem_append.mp member with older | again
    · exact tracked.owed creation (List.mem_of_mem_filter older)
    · have was := spec.owed creation.1 (List.mem_map_of_mem (f := Prod.fst) again)
      exact (tracked.creating creation.1 _ was).1
  · intro worldId process held
    obtain ⟨was, differs⟩ := spec.creating worldId process held
    obtain ⟨isPublic, work⟩ := tracked.creating worldId process was
    exact ⟨isPublic, live_disconnect manager work differs⟩
  · intro worldId worldSn held
    exact tracked.created worldId worldSn (spec.created worldId worldSn held).1

theorem tracked_step (configured : UInt64 → Int → Option CommonConfig) (game : NetIdentify) (before : System)
    (event : Event) (after : System) (tracked : Tracked resources before)
    (taken : Guarded (systemStep resources configured game) SixteenBits before event after) :
    Tracked resources after := by
  obtain ⟨taken, narrow⟩ := taken
  cases event with
  | lobby event =>
      obtain ⟨lobby, reads, step, rfl⟩ := taken
      exact tracked_lobby lobby tracked (awaits_step resources before.lobby lobby event reads step)
  | tokenRs account token playerSn =>
      rw [systemStep] at taken
      rw [taken]
      exact tracked_lobby _ tracked (awaits_token_rs before.lobby account token playerSn)
  | told =>
      obtain ⟨world, others, head, rfl⟩ := taken
      exact tracked_told tracked head
  | request =>
      obtain ⟨worldId, others, -, rfl⟩ := taken
      exact tracked_request game worldId others tracked
  | created appId worldId worldSn =>
      obtain ⟨owes, valid, rfl⟩ := taken
      exact tracked_created appId ⟨worldId, worldSn⟩ tracked owes valid
  | answer appId =>
      obtain ⟨world, manager, head, handled, rfl⟩ := taken
      exact (tracked_answer tracked head handled).2
  | locate sender =>
      obtain ⟨world, head, rfl⟩ := taken
      exact tracked_locate tracked head
  | awake world =>
      obtain ⟨waits, locator, registered, rfl⟩ := taken
      exact tracked_awake tracked waits registered
  | leave worldId worldSn =>
      rw [systemStep] at taken
      rw [taken]
      exact tracked_leave worldId worldSn tracked
  | connect socket appId =>
      obtain ⟨fresh, rfl⟩ := taken
      exact tracked_connect tracked fresh
  | sync proto socket =>
      obtain ⟨linked, rfl⟩ := taken
      exact { tracked with known := known_parse tracked.known configured proto socket linked }
  | disconnect identify appType appId =>
      obtain ⟨overTcp, tag, -, -, -, fuel, manager, done, rfl⟩ := taken
      exact tracked_disconnect tracked overTcp tag (CreateWorld.app_id_of_tag appType appId narrow) done

end GameBook.WorldRequests
