import GameBook.CreateWorld

/-!
The worlds appmgr knows of, and the space processes connected to it. A world
belongs to the process whose id its SN carries in ten bits, so with ids that fit
in ten bits every world that is recorded, and every world that is advertised,
is one that a connected process announced.
-/

namespace GameBook.LiveWorlds

open OrderedMap SocketObject AppKey WhileLoop LabelledRun SyncComponent CreateWorld
open PacketPool (Global)

/-! ### The component and the processes connected to it -/

structure World where
  appId : Nat
  worldId : Int
  worldSn : UInt64
  deriving DecidableEq

/-- `connected` are the space processes; `worlds` is what they announced since
they connected. -/
structure Cluster where
  manager : Manager
  connected : List Nat
  worlds : List World

def begin : Cluster := ⟨initial, [], []⟩

inductive Event where
  | connect (appId : Nat)
  | request (identify : NetIdentify) (worldId : Int)
  | query (identify : NetIdentify) (worldSn lastWorldSn : UInt64)
  | announce (global : Global) (worldId : Int)
  | sync (proto : AppInfoSync) (socket : Int)
  | lost (identify : NetIdentify) (appType : AppType) (appId : Nat)
  | dropped (identify : NetIdentify)

/-- Processes have distinct ids. `announce` comes from the process that drew
the number, while it is connected. `lost` is the tagged disconnect of a process
and `dropped` that of a connection of no process. -/
def clusterStep (world : Int → Option WorldType) (configured : UInt64 → Int → Option CommonConfig)
    (before : Cluster) (event : Event) (after : Cluster) : Prop :=
  match event with
  | .connect appId =>
      appId ∉ before.connected ∧ after = { before with connected := appId :: before.connected }
  | .request identify worldId =>
      after = { before with manager := handleRequestWorld world before.manager identify worldId }
  | .query identify worldSn lastWorldSn =>
      after = { before with manager := handleQueryWorld before.manager identify worldSn lastWorldSn }
  | .announce global worldId =>
      global.appId ∈ before.connected ∧ global.snTicket < 65536 ∧
        ∃ manager, handleBroadcastCreateWorld world before.manager worldId (worldSnOf global) =
            some manager ∧
          after = { before with
            manager := manager
            worlds := ⟨global.appId, worldId, worldSnOf global⟩ :: before.worlds }
  | .sync proto socket =>
      after = { before with manager := handleAppInfoSync configured before.manager proto socket }
  | .lost identify appType appId =>
      isTcp identify.socketKey.netType = true ∧ identify.tagKey .app = some (appTag appType appId) ∧
        (isSpace appType = true ∨ appId ∉ before.connected) ∧
        ∃ fuel manager, handleNetworkDisconnect fuel before.manager identify = some manager ∧
          after = {
            manager := manager
            connected := before.connected.filter (· ≠ appId)
            worlds := before.worlds.filter (·.appId ≠ appId) }
  | .dropped identify =>
      (isTcp identify.socketKey.netType = false ∨ identify.tagKey .app = none) ∧
        ∃ fuel manager, handleNetworkDisconnect fuel before.manager identify = some manager ∧
          after = { before with manager := manager }

/-- The ids fit in the ten bits a serial number has for them. -/
def TenBits (_ : Cluster) : Event → Prop
  | .connect appId => appId < 1024
  | .lost _ _ appId => appId < 1024
  | _ => True

def Hosted (s : Cluster) (worldId : Int) (worldSn : UInt64) : Prop :=
  ∃ appId ∈ s.connected, appIdOfSn worldSn = appId ∧ World.mk appId worldId worldSn ∈ s.worlds

structure Live (s : Cluster) : Prop where
  created : ∀ (worldId : Int) (worldSn : UInt64), s.manager.created[worldId]? = some worldSn →
    Hosted s worldId worldSn
  dungeons : ∀ (worldSn : UInt64) (worldId : Int), s.manager.dungeons[worldSn]? = some worldId →
    Hosted s worldId worldSn

def adverts (messages : List Sent) : List (Int × UInt64) :=
  messages.filterMap fun
    | .broadcastCreateWorld worldId worldSn _ _ => some (worldId, worldSn)
    | _ => none

def newAdverts (before after : Manager) : List (Int × UInt64) :=
  adverts (after.sent.drop before.sent.length)

def Loses (identify : NetIdentify) (appId : Int) : Prop :=
  isTcp identify.socketKey.netType = true ∧
    ∃ app, identify.tagKey .app = some app ∧ appIdOfTag app = appId

structure Untouched (appId : Int) (before after : Manager) : Prop where
  creating : ∀ worldId : Int,
    after.creating[worldId]? = some appId ↔ before.creating[worldId]? = some appId
  created : ∀ (worldId : Int) (worldSn : UInt64), appIdOfSn worldSn = appId →
    (after.created[worldId]? = some worldSn ↔ before.created[worldId]? = some worldSn)
  dungeons : ∀ (worldSn : UInt64) (worldId : Int), appIdOfSn worldSn = appId →
    (after.dungeons[worldSn]? = some worldId ↔ before.dungeons[worldSn]? = some worldId)

/-- Whatever is recorded is hosted, a disconnect comes to its end and leaves the
entries of the other processes alone, and whatever is advertised next is hosted. -/
structure OnlyLive (world : Int → Option WorldType) (configured : UInt64 → Int → Option CommonConfig)
    (s : Cluster) : Prop where
  live : Live s
  ends : ∀ identify, ∃ fuel manager,
    handleNetworkDisconnect fuel s.manager identify = some manager
  others : ∀ identify fuel manager,
    handleNetworkDisconnect fuel s.manager identify = some manager →
      ∀ appId, ¬ Loses identify appId → Untouched appId s.manager manager
  advertised : ∀ event after, clusterStep world configured s event after →
    ∀ advert ∈ newAdverts s.manager after.manager, Hosted s advert.1 advert.2

structure Purge (appId : Int) (before after : Manager) : Prop where
  creating : ∀ worldId : Int,
    after.creating[worldId]? = before.creating[worldId]?.filter fun creator => !(creator == appId)
  created : ∀ worldId : Int, after.created[worldId]? =
    before.created[worldId]?.filter fun worldSn => !(appIdOfSn worldSn == appId)
  dungeons : ∀ worldSn : UInt64, after.dungeons[worldSn]? =
    before.dungeons[worldSn]?.filter fun _ => !(appIdOfSn worldSn == appId)

/-! ### The loops -/

structure Progress (appId : Int) (before s : Manager) : Prop where
  creating : Purged (fun _ creator => creator == appId) before.creating s.creating
  created : Purged (fun _ worldSn => appIdOfSn worldSn == appId) before.created s.created
  dungeons : Purged (fun worldSn _ => appIdOfSn worldSn == appId) before.dungeons s.dungeons
  messages : ∃ new, s.sent = before.sent ++ new ∧ adverts new = []

theorem progress_refl (appId : Int) (s : Manager) : Progress appId s s :=
  ⟨purged_refl _, purged_refl _, purged_refl _, [], by simp, rfl⟩

theorem adverts_append (first second : List Sent) :
    adverts (first ++ second) = adverts first ++ adverts second := by
  simp [adverts]

theorem progress_trans {appId : Int} {before s after : Manager}
    (first : Progress appId before s) (second : Progress appId s after) :
    Progress appId before after := by
  obtain ⟨new, sent, silent⟩ := first.messages
  obtain ⟨more, later, quiet⟩ := second.messages
  refine ⟨purged_trans first.creating second.creating, purged_trans first.created second.created,
    purged_trans first.dungeons second.dungeons, new ++ more, ?_, ?_⟩
  · rw [later, sent, List.append_assoc]
  · rw [adverts_append, silent, quiet, List.append_nil]

theorem req_create_world_frame (s : Manager) (worldId : Int) :
    (reqCreateWorld s worldId).2.creating = s.creating ∧
      (reqCreateWorld s worldId).2.created = s.created ∧
      (reqCreateWorld s worldId).2.dungeons = s.dungeons ∧
      ∃ new, (reqCreateWorld s worldId).2.sent = s.sent ++ new ∧ adverts new = [] := by
  rcases req_create_world_cases s worldId with ⟨-, none⟩ | ⟨info, apps, -, asked⟩
  · rw [none]
    exact ⟨rfl, rfl, rfl, [], by simp, rfl⟩
  · rw [asked]
    exact ⟨rfl, rfl, rfl, _, rfl, rfl⟩

theorem progress_reissue (appId : Int) (s next : Manager) (turn : reissueTurn appId s = .inl next) :
    Progress appId s next := by
  unfold reissueTurn at turn
  split at turn
  · cases turn
  · rename_i worldId creator found
    obtain ⟨held, hit⟩ := find_if_some found
    obtain ⟨creating, created, dungeons, sent⟩ :=
      req_create_world_frame { s with creating := s.creating.erase worldId } worldId
    cases turn
    refine ⟨?_, ?_, ?_, sent⟩
    · rw [creating]
      exact purged_erase held hit
    · rw [created]
      exact purged_refl _
    · rw [dungeons]
      exact purged_refl _

theorem progress_drop_created (appId : Int) (s next : Manager)
    (turn : dropCreatedTurn appId s = .inl next) : Progress appId s next := by
  unfold dropCreatedTurn at turn
  split at turn
  · cases turn
  · rename_i worldId worldSn found
    obtain ⟨held, hit⟩ := find_if_some found
    cases turn
    exact ⟨purged_refl _, purged_erase held hit, purged_refl _, [], by simp, rfl⟩

theorem progress_drop_dungeon (appId : Int) (s next : Manager)
    (turn : dropDungeonTurn appId s = .inl next) : Progress appId s next := by
  unfold dropDungeonTurn at turn
  split at turn
  · cases turn
  · rename_i worldSn worldId found
    have held := Std.ExtTreeMap.mem_toList_iff_getElem?_eq_some.mp (List.mem_of_find?_eq_some found)
    have hit : (appIdOfSn worldSn == appId) = true := by simpa using List.find?_some found
    cases turn
    exact ⟨purged_refl _, purged_refl _, purged_erase held hit, [], by simp, rfl⟩

theorem progress_loops (fuel : Nat) (appId : Int) (before reissued dropped after : Manager)
    (first : loop (reissueTurn appId) fuel before = some reissued)
    (second : loop (dropCreatedTurn appId) fuel reissued = some dropped)
    (third : loop (dropDungeonTurn appId) fuel dropped = some after) :
    Progress appId before after ∧ Purge appId before after := by
  obtain ⟨one, noCreating⟩ := loop_stops (Progress appId before)
    (fun s next holds turn => progress_trans holds (progress_reissue appId s next turn))
    (reissue_exit appId) fuel before reissued (progress_refl appId before) first
  obtain ⟨two, noCreated⟩ := loop_stops (Progress appId reissued)
    (fun s next holds turn => progress_trans holds (progress_drop_created appId s next turn))
    (drop_created_exit appId) fuel reissued dropped (progress_refl appId reissued) second
  obtain ⟨three, noDungeon⟩ := loop_stops (Progress appId dropped)
    (fun s next holds turn => progress_trans holds (progress_drop_dungeon appId s next turn))
    (drop_dungeon_exit appId) fuel dropped after (progress_refl appId dropped) third
  have whole := progress_trans (progress_trans one two) three
  -- What an earlier loop has cleared stays clear, since entries only go.
  refine ⟨whole, ?_, ?_, ?_⟩
  · intro worldId
    apply purged_all whole.creating
    intro key creator held
    have was := purged_held two.creating (purged_held three.creating held)
    simpa using noCreating key creator was
  · intro worldId
    apply purged_all whole.created
    intro key worldSn held
    simpa using noCreated key worldSn (purged_held three.created held)
  · intro worldSn
    apply purged_all whole.dungeons
    intro key worldId held
    simpa using noDungeon key worldId held

theorem disconnect_purge (fuel : Nat) (s after : Manager) (identify : NetIdentify) (app : TagValue)
    (overTcp : isTcp identify.socketKey.netType = true) (tag : identify.tagKey .app = some app)
    (done : handleNetworkDisconnect fuel s identify = some after) :
    Purge (appIdOfTag app) s after ∧ newAdverts s after = [] := by
  simp only [handleNetworkDisconnect, overTcp, tag, Bool.not_true, Bool.false_eq_true, if_false,
    Option.bind_eq_some_iff] at done
  obtain ⟨reissued, first, dropped, second, third⟩ := done
  obtain ⟨progress, creating, created, dungeons⟩ :=
    progress_loops fuel (appIdOfTag app) _ reissued dropped after first second third
  obtain ⟨new, sent, silent⟩ := progress.messages
  refine ⟨⟨creating, created, dungeons⟩, ?_⟩
  rw [newAdverts, sent, List.drop_left, silent]

theorem disconnect_untagged (fuel : Nat) (s after : Manager) (identify : NetIdentify)
    (none : isTcp identify.socketKey.netType = false ∨ identify.tagKey .app = none)
    (done : handleNetworkDisconnect fuel s identify = some after) :
    after.creating = s.creating ∧ after.created = s.created ∧ after.dungeons = s.dungeons ∧
      after.sent = s.sent := by
  by_cases overTcp : isTcp identify.socketKey.netType = true
  · have untagged : identify.tagKey .app = Option.none := by
      rcases none with other | untagged
      · rw [overTcp] at other
        cases other
      · exact untagged
    simp only [handleNetworkDisconnect, overTcp, untagged, Bool.not_true, Bool.false_eq_true,
      if_false, Option.some.injEq] at done
    rw [← done]
    exact ⟨rfl, rfl, rfl, rfl⟩
  · simp only [handleNetworkDisconnect, overTcp, Bool.not_false, if_true,
      Option.some.injEq] at done
    rw [← done]
    exact ⟨rfl, rfl, rfl, rfl⟩

theorem live_begin : Live begin := by
  constructor
  · intro worldId worldSn held
    simp [begin, initial] at held
  · intro worldSn worldId held
    simp [begin, initial] at held

theorem hosted_mono {before after : Cluster} {worldId : Int} {worldSn : UInt64}
    (connected : before.connected ⊆ after.connected) (worlds : before.worlds ⊆ after.worlds)
    (hosted : Hosted before worldId worldSn) : Hosted after worldId worldSn := by
  obtain ⟨appId, member, own, announced⟩ := hosted
  exact ⟨appId, connected member, own, worlds announced⟩

theorem live_mono {before after : Cluster} (live : Live before)
    (created : after.manager.created = before.manager.created)
    (dungeons : after.manager.dungeons = before.manager.dungeons)
    (connected : before.connected ⊆ after.connected) (worlds : before.worlds ⊆ after.worlds) :
    Live after := by
  constructor
  · intro worldId worldSn held
    rw [created] at held
    exact hosted_mono connected worlds (live.created worldId worldSn held)
  · intro worldSn worldId held
    rw [dungeons] at held
    exact hosted_mono connected worlds (live.dungeons worldSn worldId held)

theorem request_frame (world : Int → Option WorldType) (s : Manager) (identify : NetIdentify)
    (worldId : Int) :
    (handleRequestWorld world s identify worldId).created = s.created ∧
      (handleRequestWorld world s identify worldId).dungeons = s.dungeons := by
  obtain ⟨_, created, dungeons, _⟩ := req_create_world_frame s worldId
  unfold handleRequestWorld
  split
  · exact ⟨rfl, rfl⟩
  · split
    · exact ⟨rfl, rfl⟩
    · split
      · exact ⟨rfl, rfl⟩
      · dsimp only
        split
        · exact ⟨created, dungeons⟩
        · exact ⟨created, dungeons⟩

theorem query_keeps (s : Manager) (identify : NetIdentify) (worldSn lastWorldSn : UInt64) :
    (handleQueryWorld s identify worldSn lastWorldSn).created = s.created ∧
      (handleQueryWorld s identify worldSn lastWorldSn).dungeons = s.dungeons := by
  unfold handleQueryWorld
  split
  · exact ⟨rfl, rfl⟩
  · exact ⟨rfl, rfl⟩

theorem announce_live (world : Int → Option WorldType) (before : Cluster) (manager : Manager)
    (global : Global) (worldId : Int) (live : Live before) (among : global.appId ∈ before.connected)
    (own : appIdOfSn (worldSnOf global) = global.appId)
    (handled : handleBroadcastCreateWorld world before.manager worldId (worldSnOf global) =
      some manager) :
    Live { before with
      manager := manager
      worlds := ⟨global.appId, worldId, worldSnOf global⟩ :: before.worlds } := by
  have fresh : Hosted { before with
      manager := manager
      worlds := ⟨global.appId, worldId, worldSnOf global⟩ :: before.worlds }
      worldId (worldSnOf global) := ⟨global.appId, among, own, List.mem_cons_self⟩
  have older : ∀ other sn, Hosted before other sn → Hosted { before with
      manager := manager
      worlds := ⟨global.appId, worldId, worldSnOf global⟩ :: before.worlds } other sn :=
    fun _ _ ⟨appId, member, own, announced⟩ =>
      ⟨appId, member, own, List.mem_cons_of_mem _ announced⟩
  unfold handleBroadcastCreateWorld at handled
  split at handled
  · cases handled
  · cases handled
    constructor
    · intro other sn held
      dsimp only at held
      rw [get_insert] at held
      split at held
      · rename_i same
        cases held
        rw [same]
        exact fresh
      · exact older other sn (live.created other sn held)
    · intro sn other held
      exact older other sn (live.dungeons sn other held)
  · cases handled
    constructor
    · intro other sn held
      exact older other sn (live.created other sn held)
    · intro sn other held
      dsimp only at held
      rw [get_insert] at held
      split at held
      · rename_i same
        cases held
        rw [same]
        exact fresh
      · exact older other sn (live.dungeons sn other held)

theorem hosted_other {s : Cluster} {manager : Manager} {worldId : Int} {worldSn : UInt64}
    {appId : Nat} (hosted : Hosted s worldId worldSn) (other : appIdOfSn worldSn ≠ appId) :
    Hosted ⟨manager, s.connected.filter (· ≠ appId), s.worlds.filter (·.appId ≠ appId)⟩
      worldId worldSn := by
  obtain ⟨owner, member, own, announced⟩ := hosted
  have differs : owner ≠ appId := by
    rintro rfl
    exact other own
  refine ⟨owner, List.mem_filter.mpr ⟨member, by simpa using differs⟩, own,
    List.mem_filter.mpr ⟨announced, by simpa using differs⟩⟩

def Small (s : Cluster) : Prop := ∀ appId ∈ s.connected, appId < 1024

theorem small_step (world : Int → Option WorldType) (configured : UInt64 → Int → Option CommonConfig)
    (before : Cluster) (event : Event) (after : Cluster) (small : Small before)
    (taken : Guarded (clusterStep world configured) TenBits before event after) : Small after := by
  obtain ⟨taken, tenBits⟩ := taken
  cases event with
  | connect appId =>
      obtain ⟨_, rfl⟩ := taken
      intro other member
      rcases List.mem_cons.mp member with rfl | earlier
      · exact tenBits
      · exact small other earlier
  | request identify worldId =>
      rw [clusterStep] at taken
      rw [taken]
      exact small
  | query identify worldSn lastWorldSn =>
      rw [clusterStep] at taken
      rw [taken]
      exact small
  | announce global worldId =>
      obtain ⟨_, _, manager, _, rfl⟩ := taken
      exact small
  | sync proto socket =>
      rw [clusterStep] at taken
      rw [taken]
      exact small
  | lost identify appType appId =>
      obtain ⟨_, _, _, fuel, manager, _, rfl⟩ := taken
      intro other member
      exact small other (List.mem_filter.mp member).1
  | dropped identify =>
      obtain ⟨_, fuel, manager, _, rfl⟩ := taken
      exact small

theorem live_step (world : Int → Option WorldType) (configured : UInt64 → Int → Option CommonConfig)
    (before : Cluster) (event : Event) (after : Cluster) (inv : Live before ∧ Small before)
    (taken : Guarded (clusterStep world configured) TenBits before event after) :
    Live after ∧ Small after := by
  obtain ⟨live, small⟩ := inv
  refine ⟨?_, small_step world configured before event after small taken⟩
  obtain ⟨taken, tenBits⟩ := taken
  cases event with
  | connect appId =>
      obtain ⟨_, rfl⟩ := taken
      exact live_mono live rfl rfl (List.subset_cons_self _ _) (List.Subset.refl _)
  | request identify worldId =>
      rw [clusterStep] at taken
      obtain ⟨created, dungeons⟩ := request_frame world before.manager identify worldId
      rw [taken]
      exact live_mono live created dungeons (List.Subset.refl _) (List.Subset.refl _)
  | query identify worldSn lastWorldSn =>
      rw [clusterStep] at taken
      obtain ⟨created, dungeons⟩ := query_keeps before.manager identify worldSn lastWorldSn
      rw [taken]
      exact live_mono live created dungeons (List.Subset.refl _) (List.Subset.refl _)
  | announce global worldId =>
      obtain ⟨among, ticket, manager, handled, rfl⟩ := taken
      exact announce_live world before manager global worldId live among
        (app_id_of_generated global (small _ among) ticket) handled
  | sync proto socket =>
      rw [clusterStep] at taken
      rw [taken]
      exact live_mono live rfl rfl (List.Subset.refl _) (List.Subset.refl _)
  | lost identify appType appId =>
      obtain ⟨overTcp, tag, _, fuel, manager, done, rfl⟩ := taken
      have purge := (disconnect_purge fuel before.manager manager identify _ overTcp tag done).1
      rw [app_id_of_tag appType appId (Nat.lt_trans tenBits (by decide))] at purge
      constructor
      · intro worldId worldSn held
        dsimp only at held
        rw [purge.created, Option.filter_eq_some_iff] at held
        exact hosted_other (live.created worldId worldSn held.1) (by simpa using held.2)
      · intro worldSn worldId held
        dsimp only at held
        rw [purge.dungeons, Option.filter_eq_some_iff] at held
        exact hosted_other (live.dungeons worldSn worldId held.1) (by simpa using held.2)
  | dropped identify =>
      obtain ⟨none, fuel, manager, done, rfl⟩ := taken
      obtain ⟨_, created, dungeons, _⟩ :=
        disconnect_untagged fuel before.manager manager identify none done
      exact live_mono live created dungeons (List.Subset.refl _) (List.Subset.refl _)

/-! ### Messages -/

theorem adverts_none (before after : Manager) (new : List Sent)
    (sent : after.sent = before.sent ++ new) (silent : adverts new = []) :
    newAdverts before after = [] := by
  rw [newAdverts, sent, List.drop_left, silent]

theorem request_adverts (world : Int → Option WorldType) (s : Manager) (identify : NetIdentify)
    (worldId : Int) (advert : Int × UInt64)
    (member : advert ∈ newAdverts s (handleRequestWorld world s identify worldId)) :
    s.created[advert.1]? = some advert.2 := by
  obtain ⟨_, _, _, new, asked, silent⟩ := req_create_world_frame s worldId
  unfold handleRequestWorld at member
  split at member
  · simp [newAdverts, adverts] at member
  · split at member
    · simp [newAdverts, adverts] at member
    · split at member
      · rename_i worldSn held
        have same : advert = (worldId, worldSn) := by
          simpa [newAdverts, adverts] using member
        rw [same]
        exact held
      · -- a creation asked is no advertisement
        dsimp only at member
        have quiet : adverts ((reqCreateWorld s worldId).2.sent.drop s.sent.length) = [] := by
          rw [asked, List.drop_left, silent]
        split at member <;> simp only [newAdverts, quiet] at member <;> cases member

theorem query_adverts (s : Manager) (identify : NetIdentify) (worldSn lastWorldSn : UInt64)
    (advert : Int × UInt64)
    (member : advert ∈ newAdverts s (handleQueryWorld s identify worldSn lastWorldSn)) :
    s.dungeons[advert.2]? = some advert.1 := by
  unfold handleQueryWorld at member
  split at member
  · simp [newAdverts, adverts] at member
  · rename_i worldId held
    have same : advert = (worldId, worldSn) := by
      simpa [newAdverts, adverts] using member
    rw [same]
    exact held

theorem announce_sent (world : Int → Option WorldType) (s manager : Manager) (worldId : Int)
    (worldSn : UInt64) (handled : handleBroadcastCreateWorld world s worldId worldSn = some manager) :
    manager.sent = s.sent := by
  unfold handleBroadcastCreateWorld at handled
  split at handled <;> cases handled <;> rfl

theorem adverts_hosted (world : Int → Option WorldType) (configured : UInt64 → Int → Option CommonConfig)
    (before : Cluster) (event : Event) (after : Cluster) (live : Live before)
    (taken : clusterStep world configured before event after) (advert : Int × UInt64)
    (member : advert ∈ newAdverts before.manager after.manager) :
    Hosted before advert.1 advert.2 := by
  have nothing : ∀ manager : Manager, manager.sent = before.manager.sent →
      newAdverts before.manager manager = [] := by
    intro manager same
    exact adverts_none before.manager manager [] (by simp [same]) rfl
  cases event with
  | request identify worldId =>
      rw [clusterStep] at taken
      rw [taken] at member
      exact live.created _ _ (request_adverts world before.manager identify worldId advert member)
  | query identify worldSn lastWorldSn =>
      rw [clusterStep] at taken
      rw [taken] at member
      exact live.dungeons _ _
        (query_adverts before.manager identify worldSn lastWorldSn advert member)
  | connect appId =>
      obtain ⟨_, rfl⟩ := taken
      rw [nothing before.manager rfl] at member
      cases member
  | announce global worldId =>
      obtain ⟨_, _, manager, handled, rfl⟩ := taken
      rw [nothing manager (announce_sent world _ manager worldId _ handled)] at member
      cases member
  | sync proto socket =>
      rw [clusterStep] at taken
      rw [taken, nothing (handleAppInfoSync configured before.manager proto socket) rfl] at member
      cases member
  | lost identify appType appId =>
      obtain ⟨overTcp, tag, _, fuel, manager, done, rfl⟩ := taken
      have silent := (disconnect_purge fuel before.manager manager identify _ overTcp tag done).2
      dsimp only at member
      rw [silent] at member
      cases member
  | dropped identify =>
      obtain ⟨none, fuel, manager, done, rfl⟩ := taken
      obtain ⟨_, _, _, sent⟩ := disconnect_untagged fuel before.manager manager identify none done
      rw [nothing manager sent] at member
      cases member

theorem disconnect_untouched (fuel : Nat) (s after : Manager) (identify : NetIdentify)
    (done : handleNetworkDisconnect fuel s identify = some after) (appId : Int)
    (other : ¬ Loses identify appId) : Untouched appId s after := by
  by_cases overTcp : isTcp identify.socketKey.netType = true
  · cases tag : identify.tagKey .app with
    | none =>
        obtain ⟨creating, created, dungeons, _⟩ :=
          disconnect_untagged fuel s after identify (Or.inr tag) done
        exact ⟨fun _ => by rw [creating], fun _ _ _ => by rw [created],
          fun _ _ _ => by rw [dungeons]⟩
    | some app =>
        have differs : appId ≠ appIdOfTag app := by
          intro same
          exact other ⟨overTcp, app, tag, same.symm⟩
        obtain ⟨creating, created, dungeons⟩ :=
          (disconnect_purge fuel s after identify app overTcp tag done).1
        refine ⟨?_, ?_, ?_⟩
        · intro worldId
          rw [creating worldId, Option.filter_eq_some_iff]
          exact and_iff_left (by simpa using differs)
        · intro worldId worldSn own
          rw [created worldId, Option.filter_eq_some_iff]
          exact and_iff_left (by simpa [own] using differs)
        · intro worldSn worldId own
          rw [dungeons worldSn, Option.filter_eq_some_iff]
          exact and_iff_left (by simpa [own] using differs)
  · have otherType : isTcp identify.socketKey.netType = false := by simpa using overTcp
    obtain ⟨creating, created, dungeons, _⟩ :=
      disconnect_untagged fuel s after identify (Or.inl otherType) done
    exact ⟨fun _ => by rw [creating], fun _ _ _ => by rw [created],
      fun _ _ _ => by rw [dungeons]⟩

/-- With ids of ten bits appmgr records and advertises only worlds of connected
processes. -/
theorem only_live_worlds (world : Int → Option WorldType) (configured : UInt64 → Int → Option CommonConfig)
    (trace : List Event) (s : Cluster)
    (run : Run (Guarded (clusterStep world configured) TenBits) begin trace s) :
    OnlyLive world configured s := by
  have start : Live begin ∧ Small begin := by
    refine ⟨live_begin, ?_⟩
    intro appId member
    cases member
  have inv : Live s ∧ Small s :=
    run_invariant (fun state => Live state ∧ Small state) (live_step world configured) run start
  refine ⟨inv.1, handle_network_disconnect_ends s.manager, ?_, ?_⟩
  · intro identify fuel manager done appId other
    exact disconnect_untouched fuel s.manager manager identify done appId other
  · intro event after taken advert member
    exact adverts_hosted world configured s event after inv.1 taken advert member

/-! Public world 2 on a space process that goes. -/

def spaceGlobal (appId : Nat) : Global := ⟨1600000000000, appId, 1⟩

def spaceConnection (appId : Nat) : NetIdentify :=
  ⟨⟨1, .tcpListen⟩, addTagInt clear .app (getAppKey .space (UInt64.ofNat appId))⟩

theorem only_live_worlds_301 : ∃ s,
    Run (Guarded (clusterStep publicWorlds fun _ _ => some ⟨[], 7801⟩) TenBits) begin
      [.connect 301, .announce (spaceGlobal 301) 2] s ∧
    OnlyLive publicWorlds (fun _ _ => some ⟨[], 7801⟩) s := by
  have run : Run (Guarded (clusterStep publicWorlds fun _ _ => some ⟨[], 7801⟩) TenBits) begin
      [.connect 301, .announce (spaceGlobal 301) 2]
      ⟨⟨∅, (∅ : Std.ExtTreeMap Int Int compare).erase 2,
        (∅ : Std.ExtTreeMap Int UInt64 compare).insert 2 (worldSnOf (spaceGlobal 301)), ∅, []⟩,
        [301], [⟨301, 2, worldSnOf (spaceGlobal 301)⟩]⟩ := by
    apply Run.next ⟨⟨by decide, rfl⟩, (by decide : 301 < 1024)⟩
    apply Run.next ⟨⟨by decide, by decide, _, rfl, rfl⟩, trivial⟩
    exact Run.refl _
  exact ⟨_, run, only_live_worlds publicWorlds _ _ _ run⟩

/-- The number of a world of process 1025 carries the id 1, so the world stays
recorded when the process is gone. -/
theorem wide_id_outlives_process :
    ¬ ∀ (world : Int → Option WorldType) (configured : UInt64 → Int → Option CommonConfig) (trace : List Event)
      (s : Cluster), Run (clusterStep world configured) begin trace s →
        OnlyLive world configured s := by
  intro law
  have run : ∃ s, Run (clusterStep publicWorlds fun _ _ => some ⟨[], 7801⟩) begin
      [.connect 1025, .announce (spaceGlobal 1025) 2, .lost (spaceConnection 1025) .space 1025] s ∧
        s.connected = [] ∧ s.manager.created[(2 : Int)]? = some (worldSnOf (spaceGlobal 1025)) := by
    refine ⟨_, .next ⟨by decide, rfl⟩ <| .next ⟨by decide, by decide, _, rfl, rfl⟩ <|
      .next ⟨rfl, rfl, Or.inl (by decide), 1, _, rfl, rfl⟩ (.refl _), rfl, ?_⟩
    decide
  obtain ⟨s, taken, nobody, recorded⟩ := run
  obtain ⟨appId, member, _⟩ := (law publicWorlds _ _ s taken).live.created 2 _ recorded
  rw [nobody] at member
  cases member

end GameBook.LiveWorlds
