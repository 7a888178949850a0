import Mathlib.Data.List.Nodup
import GameBook.Channels
import GameBook.LabelledRun
import GameBook.WorldProxy

/-!
`WorldProxyLocator` of a game process with the proxies it decides about. The
main thread answers a broadcast by queueing a creation for one logic thread;
the proxy enters the locator only when that thread has come to it, and leaves
it when its thread has come to the disconnect of its space. Every handler of
the locator holds its lock, so it is one step.
-/

namespace GameBook.WorldProxyLocator

open OrderedMap SocketObject AppKey LabelledRun Channels

abbrev WorldType := WorldProxy.WorldType

structure LocatorState where
  publics : Table Int UInt64
  worlds : Table UInt64 Unit

/-- A world id without a resource is a null dereference. -/
def registerToLocator (world : Int → Option WorldType) (l : LocatorState) (worldId : Int)
    (worldSn : UInt64) : Option LocatorState :=
  match world worldId with
  | none => none
  | some .publicWorld => some ⟨l.publics.insert worldId worldSn, l.worlds.insert worldSn ()⟩
  | some _ => some { l with worlds := l.worlds.insert worldSn () }

/-- The entry of the world id goes, whatever SN it has. -/
def remove (l : LocatorState) (worldId : Int) (worldSn : UInt64) : LocatorState :=
  ⟨l.publics.erase worldId, l.worlds.erase worldSn⟩

def isExistDungeon (l : LocatorState) (worldSn : UInt64) : Bool := l.worlds[worldSn]?.isSome

def getWorldSnById (l : LocatorState) (worldId : Int) : UInt64 :=
  match l.publics[worldId]? with
  | none => invalidId
  | some worldSn => worldSn

structure CreateComponent where
  worldSn : UInt64
  worldId : Int
  lastWorldSn : UInt64

def handleBroadcastCreateWorld (world : Int → Option WorldType) (l : LocatorState) (worldId : Int)
    (worldSn lastWorldSn : UInt64) : Option CreateComponent :=
  match world worldId with
  | none => none
  | some .publicWorld =>
      -- a proxy that is created but not yet awake is not in the map
      match l.publics[worldId]? with
      | some _ => none
      | none => some ⟨worldSn, worldId, lastWorldSn⟩
  | some _ =>
      -- the process of the world it is entered from creates the proxy of a dungeon
      match l.worlds[lastWorldSn]? with
      | none => none
      | some _ => some ⟨worldSn, worldId, lastWorldSn⟩

/-! The logic threads. -/

inductive Task where
  | create (component : CreateComponent)
  | disconnect (appId : UInt64)
  | leave (worldSn : UInt64)

/-- A proxy on its thread. It does not hear when a proxy of its SN had
registered its functions there first; it is removed but still hears until the
entity system of its thread swaps. -/
structure Proxy where
  thread : Nat
  worldSn : UInt64
  worldId : Int
  hears : Bool
  removed : Bool

structure Game where
  locator : LocatorState
  queue : List (Nat × Task)
  proxies : List Proxy
  connected : UInt64 → Bool

def initial : Game := ⟨⟨∅, ∅⟩, [], [], fun _ => false⟩

def heardBy (thread : Nat) (worldSn : UInt64) (p : Proxy) : Bool :=
  p.thread == thread && p.worldSn == worldSn && p.hears

def awake (s : Game) (thread : Nat) (component : CreateComponent) (locator : LocatorState) : Game where
  locator := locator
  queue := rest thread s.queue
  proxies := s.proxies ++ [{
    thread := thread
    worldSn := component.worldSn
    worldId := component.worldId
    hears := !s.proxies.any (heardBy thread component.worldSn)
    removed := false }]
  connected := s.connected

def ofSpace (s : Game) (thread : Nat) (appId : UInt64) : List UInt64 :=
  (s.proxies.filter fun p => p.thread == thread && p.hears && getAppIdFromSN p.worldSn == appId).map
    (·.worldSn)

def markRemoved (thread : Nat) (worldSn : UInt64) (p : Proxy) : Proxy :=
  if heardBy thread worldSn p then { p with removed := true } else p

/-- The space branch of `WorldProxy::HandleNetworkDisconnect`. -/
def leave (s : Game) (thread : Nat) (worldSn : UInt64) : Game :=
  match s.proxies.find? (heardBy thread worldSn) with
  | none => { s with queue := rest thread s.queue }
  | some p =>
      { s with
        locator := remove s.locator p.worldId worldSn
        queue := rest thread s.queue
        proxies := s.proxies.map (markRemoved thread worldSn) }

/-- The main thread handles a broadcast and hands the creation to one thread. -/
def broadcast (world : Int → Option WorldType) (s : Game) (thread : Nat) (worldId : Int)
    (worldSn lastWorldSn : UInt64) : Game :=
  match handleBroadcastCreateWorld world s.locator worldId worldSn lastWorldSn with
  | none => s
  | some component => { s with queue := s.queue ++ [(thread, .create component)] }

inductive Event where
  | lobbyAwake (lobbySn : UInt64)
  | broadcast (thread : Nat) (worldId : Int) (worldSn lastWorldSn : UInt64)
  | connect (appId : UInt64)
  | lose (appId : UInt64)
  | create (thread : Nat)
  | read (thread : Nat) (told : List UInt64)
  | leave (thread : Nat)
  | swap (thread : Nat)

/-- A disconnect goes to every logic thread. A thread that reads it tells its
proxies one after the other; other threads may run in between. -/
def gameStep (world : Int → Option WorldType) (rolesMap : Int) (threads : Nat) (before : Game)
    (event : Event) (after : Game) : Prop :=
  match event with
  | .lobbyAwake lobbySn =>
      world rolesMap = some .roles ∧
        ∃ locator, registerToLocator world before.locator rolesMap lobbySn = some locator ∧
          after = { before with locator := locator }
  | .broadcast thread worldId worldSn lastWorldSn =>
      thread < threads ∧ after = broadcast world before thread worldId worldSn lastWorldSn
  | .connect appId =>
      after = { before with
        connected := fun other => if other = appId then true else before.connected other }
  | .lose appId =>
      after = { before with
        queue := before.queue ++ (List.range threads).map fun thread => (thread, .disconnect appId)
        connected := fun other => if other = appId then false else before.connected other }
  | .create thread =>
      ∃ component locator, next thread before.queue = some (.create component) ∧
        registerToLocator world before.locator component.worldId component.worldSn = some locator ∧
          after = awake before thread component locator
  | .read thread told =>
      ∃ appId, next thread before.queue = some (.disconnect appId) ∧
        told.Perm (ofSpace before thread appId) ∧
          after = { before with
            -- the proxies are called before the thread reads anything else
            queue := told.map (fun worldSn => (thread, .leave worldSn)) ++ rest thread before.queue }
  | .leave thread =>
      ∃ worldSn, next thread before.queue = some (.leave worldSn) ∧
        after = leave before thread worldSn
  | .swap thread =>
      -- the entity system swaps between two packets
      (∀ worldSn, next thread before.queue ≠ some (.leave worldSn)) ∧
        after = { before with
          proxies := before.proxies.filter fun p => !(p.thread == thread && p.removed) }

def live (s : Game) : List Proxy := s.proxies.filter fun p => !p.removed

structure OneProxy (world : Int → Option WorldType) (s : Game) : Prop where
  sns : ((live s).map (·.worldSn)).Nodup
  publics : (((live s).filter fun p => world p.worldId = some .publicWorld).map (·.worldId)).Nodup
  located : ∀ p ∈ live s, world p.worldId = some .publicWorld →
    s.connected (getAppIdFromSN p.worldSn) = true →
    ∃ q ∈ live s, q.worldId = p.worldId ∧ s.connected (getAppIdFromSN q.worldSn) = true ∧
      getWorldSnById s.locator p.worldId = q.worldSn

def pending (queue : List (Nat × Task)) : List (UInt64 × Int) :=
  queue.filterMap fun entry =>
    match entry.2 with
    | .create component => some (component.worldSn, component.worldId)
    | _ => none

/-- The worlds that have a proxy or are going to have one. -/
def claimed (s : Game) : List (UInt64 × Int) :=
  ((live s).map fun p => (p.worldSn, p.worldId)) ++ pending s.queue

/-- A broadcast that the locator lets pass is for a world nobody has claimed,
and no proxy leaves twice over the entry of a later proxy. -/
def Unclaimed (world : Int → Option WorldType) (s : Game) : Event → Prop
  | .broadcast _ worldId worldSn lastWorldSn =>
      (world worldId = some .publicWorld → s.locator.publics[worldId]? = none →
        ∀ c ∈ claimed s, c.1 ≠ worldSn ∧ c.2 ≠ worldId) ∧
      ∀ kind, world worldId = some kind → kind ≠ .publicWorld →
        isExistDungeon s.locator lastWorldSn = true → ∀ c ∈ claimed s, c.1 ≠ worldSn
  | .leave thread =>
      ∀ worldSn, next thread s.queue = some (.leave worldSn) →
        ∀ p, s.proxies.find? (heardBy thread worldSn) = some p → p.removed = true →
          s.locator.publics[p.worldId]? = none
  | _ => True

theorem removed_with_space {Proto : Type} (s : WorldProxy.Proxy Proto) (identify : NetIdentify)
    (app : TagValue) (overTcp : isTcp identify.socketKey.netType = true)
    (noAccount : identify.tagKey .account = none) (tag : identify.tagKey .app = some app)
    (ofType : getTypeFromAppKey app.keyInt64 = bits .space) :
    (WorldProxy.handleNetworkDisconnect s identify).removed =
      (s.removed || getAppIdFromSN s.sn == getIdFromAppKey app.keyInt64) := by
  unfold WorldProxy.handleNetworkDisconnect
  rw [overTcp, noAccount, tag]
  by_cases own : getAppIdFromSN s.sn = getIdFromAppKey app.keyInt64
  · simp [WorldProxy.spaceAppId, ofType, own]
  · simp [WorldProxy.spaceAppId, ofType, own]

theorem pending_next_create (thread : Nat) (queue : List (Nat × Task)) (component : CreateComponent)
    (head : next thread queue = some (.create component)) :
    (pending queue).Perm ((component.worldSn, component.worldId) :: pending (rest thread queue)) :=
  (next_perm head).filterMap _

theorem pending_next_other (thread : Nat) (queue : List (Nat × Task)) (task : Task)
    (head : next thread queue = some task) (other : ∀ component, task ≠ .create component) :
    (pending queue).Perm (pending (rest thread queue)) := by
  have moved := (next_perm head).filterMap fun entry =>
    match entry.2 with
    | .create component => some (component.worldSn, component.worldId)
    | _ => none
  cases task with
  | create component => exact absurd rfl (other component)
  | disconnect appId => exact moved
  | leave worldSn => exact moved

/-! Worlds claimed once. -/

structure Distinct (world : Int → Option WorldType) (claims : List (UInt64 × Int)) : Prop where
  sns : (claims.map (·.1)).Nodup
  publics : ((claims.filter fun c => world c.2 = some .publicWorld).map (·.2)).Nodup

variable {world : Int → Option WorldType}

theorem distinct_perm {first second : List (UInt64 × Int)} (perm : first.Perm second)
    (distinct : Distinct world first) : Distinct world second := by
  constructor
  · exact (perm.map _).nodup_iff.mp distinct.sns
  · exact ((perm.filter _).map _).nodup_iff.mp distinct.publics

theorem distinct_sublist {first second : List (UInt64 × Int)} (fewer : first.Sublist second)
    (distinct : Distinct world second) : Distinct world first := by
  constructor
  · exact (fewer.map _).nodup distinct.sns
  · exact ((fewer.filter _).map _).nodup distinct.publics

theorem distinct_cons {claim : UInt64 × Int} {claims : List (UInt64 × Int)}
    (distinct : Distinct world claims) (sn : ∀ c ∈ claims, c.1 ≠ claim.1)
    (id : world claim.2 = some .publicWorld → ∀ c ∈ claims, c.2 ≠ claim.2) :
    Distinct world (claim :: claims) := by
  constructor
  · rw [List.map_cons, List.nodup_cons]
    refine ⟨?_, distinct.sns⟩
    intro member
    obtain ⟨c, held, same⟩ := List.mem_map.mp member
    exact sn c held same
  · by_cases isPublic : world claim.2 = some .publicWorld
    · rw [List.filter_cons_of_pos (by simpa using isPublic), List.map_cons, List.nodup_cons]
      refine ⟨?_, distinct.publics⟩
      intro member
      obtain ⟨c, held, same⟩ := List.mem_map.mp member
      exact id isPublic c (List.mem_of_mem_filter held) same
    · rw [List.filter_cons_of_neg (by simpa using isPublic)]
      exact distinct.publics

theorem distinct_head {claim : UInt64 × Int} {claims : List (UInt64 × Int)}
    (distinct : Distinct world (claim :: claims)) (c : UInt64 × Int) (held : c ∈ claims)
    (isPublic : world c.2 = some .publicWorld) : c.2 ≠ claim.2 := by
  intro same
  have own : world claim.2 = some .publicWorld := same ▸ isPublic
  have publics := distinct.publics
  rw [List.filter_cons_of_pos (by simpa using own), List.map_cons, List.nodup_cons] at publics
  apply publics.1
  rw [← same]
  exact List.mem_map_of_mem (List.mem_filter.mpr ⟨held, by simpa using isPublic⟩)

/-! What the guarded steps keep. -/

/-- No world is claimed twice, and the locator names each live public proxy. -/
structure Settled (world : Int → Option WorldType) (s : Game) : Prop where
  distinct : Distinct world (claimed s)
  located : ∀ p ∈ live s, world p.worldId = some .publicWorld →
    s.locator.publics[p.worldId]? = some p.worldSn

theorem live_distinct {s : Game} (distinct : Distinct world (claimed s)) :
    Distinct world ((live s).map fun p => (p.worldSn, p.worldId)) :=
  distinct_sublist (List.sublist_append_left _ _) distinct

theorem live_sns {s : Game} (distinct : Distinct world (claimed s)) :
    ((live s).map (·.worldSn)).Nodup := by
  have sns := (live_distinct distinct).sns
  rwa [List.map_map] at sns

theorem live_publics {s : Game} (distinct : Distinct world (claimed s)) :
    (((live s).filter fun p => world p.worldId = some .publicWorld).map (·.worldId)).Nodup := by
  have publics := (live_distinct distinct).publics
  rwa [List.filter_map, List.map_map] at publics

theorem live_public_unique {s : Game} (distinct : Distinct world (claimed s)) {p q : Proxy}
    (first : p ∈ live s) (second : q ∈ live s) (isPublic : world q.worldId = some .publicWorld)
    (same : q.worldId = p.worldId) : q = p := by
  have own : world p.worldId = some .publicWorld := same ▸ isPublic
  apply List.inj_on_of_nodup_map (live_publics distinct)
  · exact List.mem_filter.mpr ⟨second, by simpa using isPublic⟩
  · exact List.mem_filter.mpr ⟨first, by simpa using own⟩
  · exact same

theorem register_publics {l after : LocatorState} {worldId : Int} {worldSn : UInt64}
    (done : registerToLocator world l worldId worldSn = some after) :
    (world worldId = some .publicWorld ∧ after.publics = l.publics.insert worldId worldSn) ∨
      (world worldId ≠ some .publicWorld ∧ after.publics = l.publics) := by
  unfold registerToLocator at done
  split at done
  · cases done
  · rename_i isPublic
    cases done
    exact Or.inl ⟨isPublic, rfl⟩
  · rename_i other notPublic kind
    cases done
    right
    refine ⟨?_, rfl⟩
    intro isPublic
    rw [isPublic] at kind
    exact notPublic (Option.some.inj kind).symm

theorem settled_of_same {before after : Game} (settled : Settled world before)
    (sameLive : live after = live before)
    (samePending : (pending before.queue).Perm (pending after.queue))
    (samePublics : after.locator.publics = before.locator.publics) : Settled world after := by
  constructor
  · apply distinct_perm _ settled.distinct
    rw [claimed, claimed, sameLive]
    exact samePending.append_left _
  · intro p there isPublic
    rw [samePublics]
    rw [sameLive] at there
    exact settled.located p there isPublic

theorem claimed_broadcast {s : Game} {component : CreateComponent} (thread : Nat)
    (settled : Settled world s) (sn : ∀ c ∈ claimed s, c.1 ≠ component.worldSn)
    (id : world component.worldId = some .publicWorld → ∀ c ∈ claimed s, c.2 ≠ component.worldId) :
    Settled world { s with queue := s.queue ++ [(thread, .create component)] } := by
  constructor
  · have more : Distinct world ((component.worldSn, component.worldId) :: claimed s) :=
      distinct_cons settled.distinct sn id
    apply distinct_perm _ more
    have last := List.perm_append_singleton (component.worldSn, component.worldId) (claimed s)
    have regrouped : claimed s ++ [(component.worldSn, component.worldId)] =
        claimed { s with queue := s.queue ++ [(thread, .create component)] } := by
      simp [claimed, live, pending]
    rw [← regrouped]
    exact last.symm
  · exact settled.located

theorem broadcast_accepted {l : LocatorState} {worldId : Int} {worldSn lastWorldSn : UInt64}
    {component : CreateComponent}
    (passed : handleBroadcastCreateWorld world l worldId worldSn lastWorldSn = some component) :
    component = ⟨worldSn, worldId, lastWorldSn⟩ ∧
      ((world worldId = some .publicWorld ∧ l.publics[worldId]? = none) ∨
        ∃ kind, world worldId = some kind ∧ kind ≠ .publicWorld ∧
          isExistDungeon l lastWorldSn = true) := by
  unfold handleBroadcastCreateWorld at passed
  split at passed
  · cases passed
  · rename_i isPublic
    split at passed
    · cases passed
    · rename_i absent
      cases passed
      exact ⟨rfl, Or.inl ⟨isPublic, absent⟩⟩
  · rename_i kind notPublic known
    split at passed
    · cases passed
    · rename_i _ there
      cases passed
      exact ⟨rfl, Or.inr ⟨kind, known, notPublic, by simp [isExistDungeon, there]⟩⟩

theorem settled_broadcast {s : Game} (thread : Nat) (worldId : Int) (worldSn lastWorldSn : UInt64)
    (settled : Settled world s)
    (unclaimed : Unclaimed world s (.broadcast thread worldId worldSn lastWorldSn)) :
    Settled world (broadcast world s thread worldId worldSn lastWorldSn) := by
  unfold broadcast
  cases passed : handleBroadcastCreateWorld world s.locator worldId worldSn lastWorldSn with
  | none => exact settled
  | some component =>
      obtain ⟨rfl, ⟨isPublic, absent⟩ | ⟨kind, known, notPublic, there⟩⟩ := broadcast_accepted passed
      · have free := unclaimed.1 isPublic absent
        apply claimed_broadcast thread settled
        · intro c held
          exact (free c held).1
        · intro _ c held
          exact (free c held).2
      · apply claimed_broadcast thread settled
        · exact unclaimed.2 kind known notPublic there
        · intro isPublic
          rw [known] at isPublic
          exact absurd (Option.some.inj isPublic) notPublic

/-- The creation at the head of a thread's queue becomes a live proxy: what was
claimed stays claimed. -/
theorem settled_create {s : Game} {thread : Nat} {component : CreateComponent} {locator : LocatorState}
    (settled : Settled world s) (head : next thread s.queue = some (.create component))
    (registered : registerToLocator world s.locator component.worldId component.worldSn = some locator) :
    Settled world (awake s thread component locator) := by
  have waiting := pending_next_create thread s.queue component head
  -- the claim moves from the queue to the proxies
  have first : (claimed s).Perm ((component.worldSn, component.worldId) ::
      ((live s).map (fun p => (p.worldSn, p.worldId)) ++ pending (rest thread s.queue))) :=
    (waiting.append_left _).trans List.perm_middle
  have headed := distinct_perm first settled.distinct
  constructor
  · apply distinct_perm _ headed
    have regrouped : claimed (awake s thread component locator) =
        (live s).map (fun p => (p.worldSn, p.worldId)) ++
          (component.worldSn, component.worldId) :: pending (rest thread s.queue) := by
      simp [claimed, live, awake]
    rw [regrouped]
    exact List.perm_middle.symm
  · intro p there isPublic
    have cases : p ∈ live s ∨ (p.worldId = component.worldId ∧ p.worldSn = component.worldSn) := by
      rw [live, awake, List.filter_append, List.mem_append] at there
      rcases there with older | newest
      · exact Or.inl older
      · right
        simp at newest
        simp [newest]
    change locator.publics[p.worldId]? = _
    -- an older public proxy keeps its entry, for the new one has another world
    rcases cases with older | ⟨sameId, sameSn⟩
    · have apart : p.worldId ≠ component.worldId := by
        apply distinct_head headed (p.worldSn, p.worldId) _ isPublic
        exact List.mem_append_left _ (List.mem_map_of_mem (f := fun p => (p.worldSn, p.worldId)) older)
      rcases register_publics registered with ⟨-, publics⟩ | ⟨-, publics⟩
      · rw [publics, get_insert, if_neg apart]
        exact settled.located p older isPublic
      · rw [publics]
        exact settled.located p older isPublic
    · rcases register_publics registered with ⟨-, publics⟩ | ⟨notPublic, -⟩
      · rw [publics, get_insert, sameId, sameSn, if_pos rfl]
      · exact absurd (sameId ▸ isPublic) notPublic

theorem live_marked (s : Game) (thread : Nat) (worldSn : UInt64) (proxies : List Proxy)
    (same : proxies = s.proxies) :
    (proxies.map (markRemoved thread worldSn)).filter (fun p => !p.removed) =
      (live s).filter fun p => !heardBy thread worldSn p := by
  rw [live, ← same]
  clear same
  induction proxies with
  | nil => rfl
  | cons p others ih =>
      by_cases hit : heardBy thread worldSn p = true
      · by_cases gone : p.removed = true <;> simp_all [markRemoved]
      · by_cases gone : p.removed = true <;> simp_all [markRemoved]

/-- A proxy that leaves takes its own entry with it: no other live proxy has its
public world, and one that leaves again finds no entry. -/
theorem settled_leave {s : Game} {thread : Nat} {worldSn : UInt64} (settled : Settled world s)
    (head : next thread s.queue = some (.leave worldSn))
    (unclaimed : Unclaimed world s (.leave thread)) : Settled world (leave s thread worldSn) := by
  have kept := pending_next_other thread s.queue _ head (fun _ => nofun)
  unfold leave
  cases found : s.proxies.find? (heardBy thread worldSn) with
  | none => exact settled_of_same settled rfl kept rfl
  | some p =>
      have hit := List.find?_some found
      have fewer := live_marked s thread worldSn s.proxies rfl
      constructor
      · have part : (claimed { s with
            locator := remove s.locator p.worldId worldSn
            queue := rest thread s.queue
            proxies := s.proxies.map (markRemoved thread worldSn) }).Sublist
              ((live s).map (fun p => (p.worldSn, p.worldId)) ++ pending (rest thread s.queue)) := by
          apply List.Sublist.append _ (List.Sublist.refl _)
          rw [live, fewer]
          exact List.filter_sublist.map _
        apply distinct_sublist part
        exact distinct_perm (kept.append_left _) settled.distinct
      · intro q there isPublic
        rw [live, fewer] at there
        obtain ⟨older, other⟩ := List.mem_filter.mp there
        have entry := settled.located q older isPublic
        have apart : q.worldId ≠ p.worldId := by
          intro same
          -- a second disconnect before the swap finds the removed proxy again
          by_cases gone : p.removed = true
          · have none := unclaimed worldSn head p found gone
            rw [same, none] at entry
            cases entry
          · have alive : p ∈ live s :=
              List.mem_filter.mpr ⟨List.mem_of_find?_eq_some found, by simpa using gone⟩
            have one := live_public_unique settled.distinct alive older isPublic same
            rw [one, hit] at other
            cases other
        change (s.locator.publics.erase p.worldId)[q.worldId]? = _
        rw [get_erase, if_neg apart]
        exact entry

/-- Whichever proxy leaves, nobody finds its world any more. -/
theorem leave_forgets {s : Game} {thread : Nat} {worldSn : UInt64} {p : Proxy}
    (found : s.proxies.find? (heardBy thread worldSn) = some p) :
    getWorldSnById (leave s thread worldSn).locator p.worldId = invalidId := by
  unfold leave
  rw [found]
  change getWorldSnById (remove s.locator p.worldId worldSn) p.worldId = invalidId
  rw [getWorldSnById, remove, get_erase, if_pos rfl]

theorem settled_step (rolesMap : Int) (threads : Nat) (before : Game) (event : Event) (after : Game)
    (settled : Settled world before)
    (taken : Guarded (gameStep world rolesMap threads) (Unclaimed world) before event after) :
    Settled world after := by
  obtain ⟨taken, unclaimed⟩ := taken
  cases event with
  | lobbyAwake lobbySn =>
      obtain ⟨roles, locator, registered, rfl⟩ := taken
      refine settled_of_same settled rfl (List.Perm.refl _) ?_
      rcases register_publics registered with ⟨isPublic, -⟩ | ⟨-, publics⟩
      · rw [roles] at isPublic
        cases isPublic
      · exact publics
  | broadcast thread worldId worldSn lastWorldSn =>
      obtain ⟨-, rfl⟩ := taken
      exact settled_broadcast thread worldId worldSn lastWorldSn settled unclaimed
  | connect appId =>
      rw [gameStep] at taken
      rw [taken]
      exact settled_of_same settled rfl (List.Perm.refl _) rfl
  | lose appId =>
      rw [gameStep] at taken
      rw [taken]
      refine settled_of_same settled rfl ?_ rfl
      simp [pending]
  | create thread =>
      obtain ⟨component, locator, head, registered, rfl⟩ := taken
      exact settled_create settled head registered
  | read thread told =>
      obtain ⟨appId, head, -, rfl⟩ := taken
      refine settled_of_same settled rfl ?_ rfl
      have kept := pending_next_other thread before.queue _ head (fun _ => nofun)
      simpa [pending] using kept
  | leave thread =>
      obtain ⟨worldSn, head, rfl⟩ := taken
      exact settled_leave settled head unclaimed
  | swap thread =>
      obtain ⟨-, rfl⟩ := taken
      refine settled_of_same settled ?_ (List.Perm.refl _) rfl
      rw [live, live, List.filter_filter]
      apply List.filter_congr
      intro p _
      cases p.removed <;> simp

theorem settled_initial : Settled world initial :=
  ⟨⟨List.nodup_nil, List.nodup_nil⟩, fun _ there => absurd there List.not_mem_nil⟩

theorem one_proxy_of_settled {s : Game} (settled : Settled world s) : OneProxy world s := by
  refine ⟨live_sns settled.distinct, live_publics settled.distinct, ?_⟩
  intro p there isPublic connected
  have entry := settled.located p there isPublic
  exact ⟨p, there, rfl, connected, by rw [getWorldSnById, entry]⟩

/-- One proxy per SN and per public world, found by the locator, in every state
of a run in which no broadcast passes for a world already claimed and no proxy
leaves twice over a later entry. -/
theorem one_proxy_while_unclaimed (world : Int → Option WorldType) (rolesMap : Int) (threads : Nat)
    (trace : List Event) (s : Game)
    (run : Run (Guarded (gameStep world rolesMap threads) (Unclaimed world)) initial trace s) :
    OneProxy world s := by
  apply one_proxy_of_settled
  exact run_invariant (Settled world) (settled_step rolesMap threads) run settled_initial

/-! World 2 of space process 1, on two logic threads. -/

def worldsOfBook (worldId : Int) : Option WorldType :=
  if worldId = 2 then some .publicWorld else if worldId = 1 then some .roles else none

def secondLife : List Event :=
  [.lobbyAwake 7, .connect 1, .broadcast 0 2 0x10005 0, .create 0, .lose 1, .read 0 [0x10005],
    .leave 0, .swap 0, .connect 1, .broadcast 1 2 0x10006 0, .read 1 [], .create 1]

theorem second_life_run : ∃ s,
    Run (Guarded (gameStep worldsOfBook 1 2) (Unclaimed worldsOfBook)) initial secondLife s ∧
      getWorldSnById s.locator 2 = 0x10006 := by
  refine ⟨_, .next ⟨⟨rfl, _, rfl, rfl⟩, trivial⟩ (.next ⟨rfl, trivial⟩
    (.next ⟨⟨by decide, rfl⟩, ?first⟩ (.next ⟨⟨_, _, rfl, rfl, rfl⟩, trivial⟩
    (.next ⟨rfl, trivial⟩ (.next ⟨⟨1, rfl, List.Perm.refl _, rfl⟩, trivial⟩
    (.next ⟨⟨_, rfl, rfl⟩, ?leaves⟩ (.next ⟨⟨fun _ => nofun, rfl⟩, trivial⟩ (.next ⟨rfl, trivial⟩
    (.next ⟨⟨by decide, rfl⟩, ?second⟩ (.next ⟨⟨1, rfl, List.Perm.refl _, rfl⟩, trivial⟩
    (.next ⟨⟨_, _, rfl, rfl, rfl⟩, trivial⟩ (.refl _)))))))))))), rfl⟩
  case first => exact ⟨fun _ _ _ held => (nomatch held), fun _ _ _ _ _ held => (nomatch held)⟩
  case second => exact ⟨fun _ _ _ held => (nomatch held), fun _ _ _ _ _ held => (nomatch held)⟩
  case leaves =>
    intro worldSn head p found gone
    cases head
    cases found
    cases gone

theorem one_proxy_while_unclaimed_again : ∃ s,
    Run (Guarded (gameStep worldsOfBook 1 2) (Unclaimed worldsOfBook)) initial secondLife s ∧
      OneProxy worldsOfBook s ∧ getWorldSnById s.locator 2 = 0x10006 := by
  obtain ⟨s, run, found⟩ := second_life_run
  exact ⟨s, run, one_proxy_while_unclaimed _ _ _ _ s run, found⟩

theorem told_twice_run : ∃ s, Run (gameStep worldsOfBook 1 2) initial
    [.connect 1, .broadcast 0 2 0x10005 0, .broadcast 1 2 0x10005 0, .create 0, .create 1] s ∧
      (live s).map (·.worldSn) = [0x10005, 0x10005] := by
  exact ⟨_, .next rfl (.next ⟨by decide, rfl⟩ (.next ⟨by decide, rfl⟩
    (.next ⟨_, _, rfl, rfl, rfl⟩ (.next ⟨_, _, rfl, rfl, rfl⟩ (.refl _))))), rfl⟩

/-- The space tells of its world, and appmgr's answer tells of it once more,
before a thread has come to the first creation. -/
theorem two_broadcasts_two_proxies : ¬ ∀ (world : Int → Option WorldType) (rolesMap : Int)
    (threads : Nat) (trace : List Event) (s : Game),
    Run (gameStep world rolesMap threads) initial trace s → OneProxy world s := by
  intro promised
  obtain ⟨s, run, twice⟩ := told_twice_run
  have one := (promised _ _ _ _ s run).sns
  rw [twice] at one
  exact absurd one (by decide)

end GameBook.WorldProxyLocator
