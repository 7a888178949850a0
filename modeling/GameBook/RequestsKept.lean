import GameBook.WorldRequests

/-!
When nobody waits in the lobby for nothing. Appmgr drops a request when it
knows no space process, asks anew for the worlds of a lost process without
recording them, and forgets a creation as soon as it is answered, whether or
not the game process still has use for the answer.
-/

namespace GameBook.RequestsKept

open OrderedMap SocketObject AppKey LabelledRun SyncComponent Channels LobbyWaiting WorldRequests

variable {resources : Resources}

/-! Who waits keeps a trace of its world. -/

/-- The three messages of appmgr by which a world that is waited for may lose
its last trace: a request is lost on appmgr unless a space process can be asked
or has been, and the record of a world being created goes with the answer or
with its process. -/
def Kept (resources : Resources) (s : System) : Event → Prop
  | .request =>
      ∀ worldId others, s.requests = worldId :: others → Waiting s.lobby worldId →
        OnTheWay { s with requests := others } worldId ∨
          (resources.world worldId = some .publicWorld ∧
            (s.manager.creating[worldId]?.isSome ∨ s.manager.created[worldId]?.isSome ∨
              ∃ info apps, getOneApp (bits .space) s.manager.apps = some (info, apps) ∧
                info.appId ≠ CreateWorld.invalidId))
  | .answer appId =>
      ∀ world, next appId s.toManager = some world → Waiting s.lobby world.worldId →
        OnTheWay s world.worldId
  | .disconnect _ _ appId =>
      ∀ worldId : Int, s.manager.creating[worldId]? = some (appId : Int) →
        Waiting s.lobby worldId → OnTheWay s worldId
  | _ => True

def Followed (s : System) : Prop :=
  ∀ worldId, Waiting s.lobby worldId → OnTheWay s worldId ∨ BeingCreated s worldId

theorem being_created_iff {s : System} (tracked : Tracked resources s) (worldId : Int) :
    BeingCreated s worldId ↔ ∃ appId, s.manager.creating[worldId]? = some appId := by
  constructor
  · rintro ⟨appId, held, -⟩
    exact ⟨appId, held⟩
  · rintro ⟨appId, held⟩
    exact ⟨appId, held, (tracked.creating worldId appId held).2⟩

theorem promised_iff (s : System) : Promised s ↔ Followed s := by
  constructor
  · exact Promised.followed
  · intro followed
    refine ⟨followed, ?_⟩
    rintro ⟨requests, owed, toManager, toGame, creates, toLobby⟩ worldId waiting
    rcases followed worldId waiting with onTheWay | ⟨appId, -, -, owes | ⟨entry, member, -⟩⟩
    · simp [OnTheWay, requests, toGame, creates, toLobby] at onTheWay
    · rw [owed] at owes
      cases owes
    · rw [toManager] at member
      cases member

theorem followed_lobby {s : System} (lobby : LobbyState) (followed : Followed s)
    (awaits : Awaits (answers s.locator) s.lobby lobby) : Followed (lobbyTurn s lobby) := by
  obtain ⟨new, appended, asked⟩ := awaits.sent
  intro worldId waiting
  rcases asked worldId waiting with was | request
  · rcases followed worldId was with (inRequests | others) | created
    · exact Or.inl (Or.inl (List.mem_append_left _ inRequests))
    · exact Or.inl (Or.inr others)
    · exact Or.inr created
  · left
    left
    apply List.mem_append_right
    rw [new_requests_appended s.lobby lobby new appended]
    exact request

theorem followed_told {s : System} {world : NewWorld} {others : List NewWorld}
    (tracked : Tracked resources s) (followed : Followed s) (head : s.toLobby = world :: others) :
    Followed { s with
      lobby := Lobby.handleBroadcastCreateWorldProxy resources s.lobby world.worldId world.worldSn
      toLobby := others } := by
  have good := tracked.toLobby world (head ▸ List.mem_cons_self)
  intro worldId waiting
  obtain ⟨was, differs⟩ :=
    (waiting_broadcast resources s.lobby world.worldId worldId world.worldSn good.1).mp waiting
  rcases followed worldId was with (inRequests | inGame | inCreates | ⟨other, member, same⟩) | created
  · exact Or.inl (Or.inl inRequests)
  · exact Or.inl (Or.inr (Or.inl inGame))
  · exact Or.inl (Or.inr (Or.inr (Or.inl inCreates)))
  · rw [head] at member
    rcases List.mem_cons.mp member with first | later
    · exact absurd (first ▸ same).symm differs
    · exact Or.inl (Or.inr (Or.inr (Or.inr ⟨other, later, same⟩)))
  · exact Or.inr created

theorem on_the_way_request (resources : Resources) (game : NetIdentify) (s : System) (worldId other : Int) (others : List Int)
    (onTheWay : OnTheWay { s with requests := others } other) :
    OnTheWay (requestTurn resources game s worldId others) other := by
  rcases request_turn_cases resources game s worldId others with
    ⟨done, -⟩ | ⟨-, worldSn, -, done⟩ | ⟨-, -, -, info, apps, -, done⟩
  · rw [done]
    exact onTheWay
  · rw [done]
    rcases onTheWay with inRequests | ⟨entry, member, same⟩ | later
    · exact Or.inl inRequests
    · exact Or.inr (Or.inl ⟨entry, List.mem_append_left _ member, same⟩)
    · exact Or.inr (Or.inr later)
  · rw [done]
    exact onTheWay

theorem creating_request (resources : Resources) (game : NetIdentify) (s : System) (worldId other appId : Int)
    (others : List Int) (held : s.manager.creating[other]? = some appId) :
    (requestTurn resources game s worldId others).manager.creating[other]? = some appId := by
  rcases request_turn_cases resources game s worldId others with
    ⟨done, -⟩ | ⟨-, worldSn, -, done⟩ | ⟨-, absent, -, info, apps, -, done⟩
  · rw [done]
    exact held
  · rw [done]
    exact held
  · rw [done]
    dsimp only [askedTurn]
    split
    · rw [get_insert]
      split
      · rename_i same
        rw [same, absent] at held
        cases held
      · exact held
    · exact held

/-- A request that appmgr can meet leaves its world announced or being created,
and only such a request does. -/
theorem request_met_iff (resources : Resources) (game : NetIdentify) (s : System) (worldId : Int) (others : List Int)
    (tracked : Tracked resources s) :
    (OnTheWay { s with requests := others } worldId ∨
      (resources.world worldId = some .publicWorld ∧
        (s.manager.creating[worldId]?.isSome ∨ s.manager.created[worldId]?.isSome ∨
          ∃ info apps, getOneApp (bits .space) s.manager.apps = some (info, apps) ∧
            info.appId ≠ CreateWorld.invalidId))) ↔
    (OnTheWay (requestTurn resources game s worldId others) worldId ∨
      ∃ appId, (requestTurn resources game s worldId others).manager.creating[worldId]? = some appId) := by
  have kept := on_the_way_request resources game s worldId worldId others
  have still := creating_request resources game s worldId worldId
  -- nothing is sent: the world is being created already, or no space process is there
  rcases request_turn_cases resources game s worldId others with
    ⟨done, nobody⟩ | ⟨isPublic, worldSn, created, done⟩ | ⟨isPublic, absent, unknown, info, apps, chosen, done⟩
  · constructor
    · rintro (onTheWay | ⟨isPublic, meets⟩)
      · exact Or.inl (kept onTheWay)
      · right
        cases creating : s.manager.creating[worldId]? with
        | some appId => exact ⟨appId, still appId others creating⟩
        | none =>
            obtain ⟨created, none⟩ := nobody isPublic creating
            rw [creating, created, none] at meets
            simp at meets
    · rw [done]
      rintro (onTheWay | ⟨appId, held⟩)
      · exact Or.inl onTheWay
      · exact Or.inr ⟨(tracked.creating worldId appId held).1, Or.inl (by rw [held]; rfl)⟩
  · constructor
    · intro _
      left
      rw [done]
      exact Or.inr (Or.inl ⟨(none, ⟨worldId, worldSn⟩), List.mem_append_right _ List.mem_cons_self, rfl⟩)
    · intro _
      exact Or.inr ⟨isPublic, Or.inr (Or.inl (by rw [created]; rfl))⟩
  · rw [done]
    constructor
    · rintro (onTheWay | ⟨-, creating | created | ⟨info', apps', chosen', valid⟩⟩)
      · exact Or.inl onTheWay
      · rw [absent] at creating
        cases creating
      · rw [unknown] at created
        cases created
      · right
        rw [chosen] at chosen'
        cases chosen'
        refine ⟨info.appId, ?_⟩
        dsimp only [askedTurn]
        rw [if_pos valid, get_insert, if_pos rfl]
    · rintro (onTheWay | ⟨appId, held⟩)
      · exact Or.inl onTheWay
      · right
        refine ⟨isPublic, Or.inr (Or.inr ⟨info, apps, chosen, ?_⟩)⟩
        intro invalid
        dsimp only [askedTurn] at held
        rw [if_neg (not_not.mpr invalid), absent] at held
        cases held

theorem followed_created {s : System} (appId : Int) (world : NewWorld) (followed : Followed s)
    (tracked : Tracked resources (createdTurn s appId world)) : Followed (createdTurn s appId world) := by
  intro worldId waiting
  rcases followed worldId waiting with (inRequests | ⟨entry, member, same⟩ | later) | ⟨process, held, -⟩
  · exact Or.inl (Or.inl inRequests)
  · exact Or.inl (Or.inr (Or.inl ⟨entry, List.mem_append_left _ member, same⟩))
  · exact Or.inl (Or.inr (Or.inr later))
  · exact Or.inr ((being_created_iff tracked worldId).mpr ⟨process, held⟩)

theorem followed_locate {s : System} {sender : Option Int} {world : NewWorld}
    (tracked : Tracked resources s) (followed : Followed s) (head : next sender s.toGame = some world) :
    Followed (locateTurn resources s sender world) := by
  have split := mem_iff_of_next head
  have good : Good resources world := tracked.toGame (sender, world) ((split _).mpr (Or.inl rfl))
  -- a world that is located is not created again: its proxy has told the lobby
  rcases locate_cases s sender good.1 with ⟨⟨worldSn, known⟩, done⟩ | done
  · rw [done]
    intro worldId waiting
    rcases followed worldId waiting with (inRequests | ⟨entry, member, same⟩ | later) | created
    · exact Or.inl (Or.inl inRequests)
    · rcases (split entry).mp member with first | others
      · rw [first] at same
        rw [same] at known
        exact Or.inl (Or.inr (Or.inr (Or.inr ((tracked.located worldId worldSn known).2 waiting))))
      · exact Or.inl (Or.inr (Or.inl ⟨entry, others, same⟩))
    · exact Or.inl (Or.inr (Or.inr later))
    · exact Or.inr created
  · rw [done]
    intro worldId waiting
    rcases followed worldId waiting with
      (inRequests | ⟨entry, member, same⟩ | ⟨other, member, same⟩ | inLobby) | created
    · exact Or.inl (Or.inl inRequests)
    · rcases (split entry).mp member with first | others
      · rw [first] at same
        exact Or.inl (Or.inr (Or.inr (Or.inl ⟨world, List.mem_append_right _ List.mem_cons_self, same⟩)))
      · exact Or.inl (Or.inr (Or.inl ⟨entry, others, same⟩))
    · exact Or.inl (Or.inr (Or.inr (Or.inl ⟨other, List.mem_append_left _ member, same⟩)))
    · exact Or.inl (Or.inr (Or.inr (Or.inr inLobby)))
    · exact Or.inr created

theorem followed_awake {s : System} (world : NewWorld) (locator : LocatorState)
    (followed : Followed s) : Followed (awakeTurn s world locator) := by
  intro worldId waiting
  rcases followed worldId waiting with
    (inRequests | inGame | ⟨other, member, same⟩ | ⟨other, member, same⟩) | created
  · exact Or.inl (Or.inl inRequests)
  · exact Or.inl (Or.inr (Or.inl inGame))
  -- the announcement that waited for this proxy goes on to the lobby
  · by_cases own : other = world
    · rw [own] at same
      exact Or.inl (Or.inr (Or.inr (Or.inr ⟨world, List.mem_append_right _ List.mem_cons_self, same⟩)))
    · have left : other ∈ s.creates.erase world := (List.mem_erase_of_ne own).mpr member
      exact Or.inl (Or.inr (Or.inr (Or.inl ⟨other, left, same⟩)))
  · exact Or.inl (Or.inr (Or.inr (Or.inr ⟨other, List.mem_append_left _ member, same⟩)))
  · exact Or.inr created

/-! The three steps at appmgr that decide. -/

theorem request_decides (game : NetIdentify) {s : System} {worldId : Int} {others : List Int}
    (tracked : Tracked resources s) (followed : Followed s) (head : s.requests = worldId :: others)
    (trackedAfter : Tracked resources (requestTurn resources game s worldId others)) :
    Kept resources s .request ↔ Followed (requestTurn resources game s worldId others) := by
  have met := request_met_iff resources game s worldId others tracked
  constructor
  · intro kept other waiting
    by_cases same : other = worldId
    · rw [same] at waiting ⊢
      exact (met.mp (kept worldId others head waiting)).imp id
        (being_created_iff trackedAfter worldId).mpr
    · rcases followed other waiting with (inRequests | later) | ⟨appId, held, -⟩
      · rw [head] at inRequests
        have rest := (List.mem_cons.mp inRequests).resolve_left same
        exact Or.inl (on_the_way_request resources game s worldId other others (Or.inl rest))
      · exact Or.inl (on_the_way_request resources game s worldId other others (Or.inr later))
      · exact Or.inr ((being_created_iff trackedAfter other).mpr
          ⟨appId, creating_request resources game s worldId other appId others held⟩)
  · intro followedAfter worldId' others' head' waiting
    rw [head] at head'
    cases head'
    exact met.mpr ((followedAfter worldId waiting).imp id (being_created_iff trackedAfter worldId).mp)

theorem answer_decides {s : System} {appId : Int} {world : NewWorld} {manager : Manager}
    (followed : Followed s) (head : next appId s.toManager = some world)
    (erased : manager.creating = s.manager.creating.erase world.worldId)
    (trackedAfter : Tracked resources
      { s with manager := manager, toManager := rest appId s.toManager }) :
    Kept resources s (.answer appId) ↔
      Followed { s with manager := manager, toManager := rest appId s.toManager } := by
  constructor
  · intro kept worldId waiting
    rcases followed worldId waiting with onTheWay | ⟨process, held, -⟩
    · exact Or.inl onTheWay
    -- the answer takes the world out of what is being created
    · by_cases same : worldId = world.worldId
      · rw [same] at waiting ⊢
        exact Or.inl (kept world head waiting)
      · right
        apply (being_created_iff trackedAfter worldId).mpr
        refine ⟨process, ?_⟩
        dsimp only
        rw [erased, get_erase, if_neg same]
        exact held
  · intro followedAfter other head' waiting
    rw [head] at head'
    cases head'
    rcases followedAfter world.worldId waiting with onTheWay | ⟨process, held, -⟩
    · exact onTheWay
    · dsimp only at held
      rw [erased, get_erase, if_pos rfl] at held
      cases held

theorem disconnect_decides {s : System} {identify : NetIdentify} {appType : AppType} {appId : Nat}
    {manager : Manager} (socket : Int) (followed : Followed s)
    (spec : CreateWorld.Disconnected appId s.manager manager)
    (kept : ∀ worldId process : Int, s.manager.creating[worldId]? = some process →
      process ≠ appId → manager.creating[worldId]? = some process)
    (trackedAfter : Tracked resources (disconnectTurn s socket appId manager)) :
    Kept resources s (.disconnect identify appType appId) ↔
      Followed (disconnectTurn s socket appId manager) := by
  constructor
  · intro keeps worldId waiting
    rcases followed worldId waiting with onTheWay | ⟨process, held, -⟩
    · exact Or.inl onTheWay
    -- what the lost process had to create is asked for again, or not waited for
    · by_cases lost : process = appId
      · rw [lost] at held
        exact Or.inl (keeps worldId held waiting)
      · have still := kept worldId process held lost
        exact Or.inr ((being_created_iff trackedAfter worldId).mpr ⟨process, still⟩)
  · intro followedAfter worldId held waiting
    rcases followedAfter worldId waiting with onTheWay | ⟨process, still, -⟩
    · exact onTheWay
    · obtain ⟨was, differs⟩ := spec.creating worldId process still
      rw [held] at was
      exact absurd (Option.some.inj was).symm differs

/-- Requests, answers and disconnects at appmgr decide; nothing else can lose
the trace of a world that is waited for. -/
theorem kept_decides (configured : UInt64 → Int → Option CommonConfig) (game : NetIdentify) (before : System)
    (event : Event) (after : System) (tracked : Tracked resources before) (followed : Followed before)
    (taken : Guarded (systemStep resources configured game) SixteenBits before event after) :
    Kept resources before event ↔ Followed after := by
  have trackedAfter := tracked_step configured game before event after tracked taken
  obtain ⟨taken, narrow⟩ := taken
  cases event with
  | lobby event =>
      obtain ⟨lobby, reads, step, rfl⟩ := taken
      have awaits := awaits_step resources before.lobby lobby event reads step
      exact ⟨fun _ => followed_lobby lobby followed awaits, fun _ => trivial⟩
  | tokenRs account token playerSn =>
      rw [systemStep] at taken
      rw [taken]
      have awaits : Awaits (answers before.locator) before.lobby
          (Lobby.handleGameTokenToRedisRs before.lobby account token playerSn) :=
        awaits_token_rs before.lobby account token playerSn
      exact ⟨fun _ => followed_lobby _ followed awaits, fun _ => trivial⟩
  | told =>
      obtain ⟨world, others, head, rfl⟩ := taken
      exact ⟨fun _ => followed_told tracked followed head, fun _ => trivial⟩
  | request =>
      obtain ⟨worldId, others, head, rfl⟩ := taken
      exact request_decides game tracked followed head trackedAfter
  | created appId worldId worldSn =>
      obtain ⟨-, -, rfl⟩ := taken
      exact ⟨fun _ => followed_created appId _ followed trackedAfter, fun _ => trivial⟩
  | answer appId =>
      obtain ⟨world, manager, head, handled, rfl⟩ := taken
      have erased := (tracked_answer tracked head handled).1
      exact answer_decides followed head erased trackedAfter
  | locate sender =>
      obtain ⟨world, head, rfl⟩ := taken
      exact ⟨fun _ => followed_locate tracked followed head, fun _ => trivial⟩
  | awake world =>
      obtain ⟨-, locator, -, rfl⟩ := taken
      exact ⟨fun _ => followed_awake world locator followed, fun _ => trivial⟩
  | leave worldId worldSn =>
      rw [systemStep] at taken
      rw [taken]
      exact ⟨fun _ => followed, fun _ => trivial⟩
  | connect socket appId =>
      obtain ⟨-, rfl⟩ := taken
      -- a further process: only which of them are live changes
      refine ⟨fun _ worldId waiting => ?_, fun _ => trivial⟩
      refine (followed worldId waiting).imp id ?_
      rintro ⟨process, held, -⟩
      exact (being_created_iff trackedAfter worldId).mpr ⟨process, held⟩
  | sync proto socket =>
      obtain ⟨-, rfl⟩ := taken
      exact ⟨fun _ => followed, fun _ => trivial⟩
  | disconnect identify appType appId =>
      obtain ⟨overTcp, tag, -, -, -, fuel, manager, done, rfl⟩ := taken
      have own := CreateWorld.app_id_of_tag appType appId narrow
      have spec := CreateWorld.disconnect_spec fuel before.manager manager identify _ overTcp tag done
      rw [own] at spec
      have carried := carried_disconnect tracked.known tracked.sockets overTcp tag own done
      exact disconnect_decides identify.socketKey.socket followed spec carried.kept trackedAfter

/-- Whoever waits for a public world has a request or an announcement of it on
its way, or a live process that creates it, along exactly the runs in which
appmgr can meet each request it reads and loses its record of a world only
while the world is announced or asked for again. -/
theorem requests_kept_iff (resources : Resources) (configured : UInt64 → Int → Option CommonConfig)
    (game : NetIdentify) (sn : UInt64) (trace : List Event) (s : System) :
    Run (Guarded (Guarded (systemStep resources configured game) SixteenBits) (Kept resources))
        (start sn) trace s ↔
      Run (Along (Guarded (systemStep resources configured game) SixteenBits) Promised)
        (start sn) trace s := by
  apply guarded_iff_along (Tracked resources) (tracked_step configured game) _ (tracked_start sn)
  · rw [promised_iff]
    rintro worldId ⟨players, held, -⟩
    simp [start, Lobby.create] at held
  · intro before event after tracked promised taken
    rw [promised_iff] at promised ⊢
    exact kept_decides configured game before event after tracked promised taken

/-! A player enters while appmgr knows no space process; one connects later. -/

def publicWorlds : Resources := ⟨fun worldId => if worldId = 2 then some .publicWorld else none, 2⟩

def client : NetIdentify := ⟨⟨1, .tcpListen⟩, clear⟩

def appmgrLink : NetIdentify := ⟨⟨5, .tcpConnector⟩, clear⟩

def firstEntry : List Event :=
  [.lobby (.login client [97] [116]), .tokenRs [97] [116] 9,
    .lobby (.queryPlayerRs (answers (start 7).locator) [97] ⟨9, ⟨2, 0⟩, ⟨0, 0⟩, 0⟩), .request,
    .connect 3 1, .sync ⟨1, bits .space, 0⟩ 3]

theorem dropped_request_run : ∃ s,
    Run (Guarded (systemStep publicWorlds (fun _ _ => some ⟨[], 7801⟩) appmgrLink) SixteenBits)
        (start 7) firstEntry s ∧
      Quiescent s ∧ (getOneApp (bits .space) s.manager.apps).isSome ∧ Waiting s.lobby 2 := by
  refine ⟨_, .next ⟨⟨_, trivial, rfl, rfl⟩, trivial⟩ (.next ⟨rfl, trivial⟩
    (.next ⟨⟨_, rfl, rfl, rfl⟩, trivial⟩ (.next ⟨⟨2, [], rfl, rfl⟩, trivial⟩
    (.next ⟨⟨nofun, rfl⟩, trivial⟩ (.next ⟨⟨by decide, rfl⟩, trivial⟩ (.refl _)))))),
    ⟨rfl, rfl, rfl, rfl, rfl, rfl⟩, rfl, ?_⟩
  exact ⟨_, rfl, rfl⟩

/-- Appmgr drops the request, and the lobby never sends another, although a
space process connects later. -/
theorem dropped_request_waits : ¬ ∀ (resources : Resources) (configured : UInt64 → Int → Option CommonConfig)
    (game : NetIdentify) (sn : UInt64) (trace : List Event) (s : System),
    Run (Guarded (systemStep resources configured game) SixteenBits) (start sn) trace s →
      Promised s := by
  intro promised
  obtain ⟨s, run, quiet, -, waiting⟩ := dropped_request_run
  exact (promised _ _ _ _ _ s run).served quiet 2 waiting

end GameBook.RequestsKept
