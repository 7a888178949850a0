import GameBook.TeleportPresence
import Mathlib.Data.List.Nodup
import Mathlib.Data.List.Perm.Subperm

/-!
Dungeons: each request sends its own G2S_CreateWorld and each created dungeon is
answered by one broadcast that carries the world id alone. `requests` and
`answers` record the two sides; an answer names the object that took it.
-/

namespace GameBook.DungeonTeleport

open OrderedMap SocketObject AppKey PlayerCollector WhileLoop LabelledRun WorldProxy
  TeleportPresence

variable {Proto : Type}

structure Answer where
  worldId : Int
  worldSn : UInt64
  consumer : Option UInt64

structure Dungeons (Proto : Type) where
  proxy : Proxy Proto
  requests : List (Int × UInt64)
  answers : List Answer

inductive DungeonEvent (Proto : Type) where
  | request (identify : NetIdentify) (worldId : Int) (spaceAppId : UInt64)
  | sync (identify : NetIdentify) (player : Proto)
  | answer (worldId : Int) (worldSn : UInt64)

def begin (proxy : Proxy Proto) : Dungeons Proto := ⟨proxy, [], []⟩

/-- Requests come from different players while a space process is known, and a
broadcast answers a request for its dungeon with a fresh SN. -/
def dungeonStep (world : Int → Option WorldType) (before : Dungeons Proto)
    (event : DungeonEvent Proto) (after : Dungeons Proto) : Prop :=
  match event with
  | .request identify worldId spaceAppId =>
      world worldId = some .dungeon ∧
        ∃ player, getPlayer before.proxy identify = some player ∧
          player.playerSn ∉ before.requests.map (·.2) ∧
          after = { before with
            proxy := handleC2GEnterWorld world invalidId (some spaceAppId) before.proxy player worldId
            requests := before.requests ++ [(worldId, player.playerSn)] }
  | .sync identify proto =>
      ∃ player proxy, getPlayer before.proxy identify = some player ∧
        handleS2GSyncPlayer before.proxy player proto = some proxy ∧
        after = { before with proxy := proxy }
  | .answer worldId worldSn =>
      world worldId = some .dungeon ∧ worldSn ≠ 0 ∧ (∀ a ∈ before.answers, a.worldSn ≠ worldSn) ∧
        (before.answers.filter (·.worldId == worldId)).length <
          (before.requests.filter (·.1 == worldId)).length ∧
        ∃ proxy, handleBroadcastCreateWorldProxy world 0 before.proxy worldId worldSn =
            some (some proxy) ∧
          after = { before with
            proxy := proxy
            answers := before.answers ++
              [⟨worldId, worldSn, (findTarget before.proxy worldId).map (·.1)⟩] }

def consumers (answers : List Answer) : List UInt64 := answers.filterMap (·.consumer)

/-- Every answer is taken, by a different object each; an object has the SN of
its own answer; and when all requests are answered nobody waits. -/
structure DungeonLaw (s : Dungeons Proto) : Prop where
  consumed : ∀ a ∈ s.answers, a.consumer.isSome
  distinct : (consumers s.answers).Nodup
  assigned : ∀ (key : UInt64) (obj : TeleportObject), s.proxy.objects[key]? = some obj →
    obj.flagWorld.flag ≠ .waiting → ∃ a ∈ s.answers, a.consumer = some key ∧
      a.worldId = obj.targetWorldId ∧ a.worldSn = obj.flagWorld.value
  served : s.answers.length = s.requests.length → ∀ (key : UInt64) (obj : TeleportObject),
    s.proxy.objects[key]? = some obj → obj.flagWorld.flag ≠ .waiting

/-- The first object with the dungeon still waits for its world. -/
def FirstWaits (before : Dungeons Proto) : DungeonEvent Proto → Prop
  | .answer worldId _ => ∀ key obj, findTarget before.proxy worldId = some (key, obj) →
      obj.flagWorld.flag = .waiting
  | _ => True

/-! What holds in every run, overwritten or not. -/

structure DungeonInv (s : Dungeons Proto) : Prop where
  keyed : Keyed s.proxy
  requested : ∀ (key : UInt64) (obj : TeleportObject), s.proxy.objects[key]? = some obj →
    (obj.targetWorldId, key) ∈ s.requests
  players : (s.requests.map (·.2)).Nodup
  assigned : ∀ (key : UInt64) (obj : TeleportObject), s.proxy.objects[key]? = some obj →
    obj.flagWorld.flag ≠ .waiting → ∃ a ∈ s.answers, a.consumer = some key ∧
      a.worldId = obj.targetWorldId ∧ a.worldSn = obj.flagWorld.value
  unassigned : ∀ (key : UInt64) (obj : TeleportObject), s.proxy.objects[key]? = some obj →
    obj.flagWorld.flag = .waiting → key ∉ consumers s.answers
  pending : ∀ request ∈ s.requests, request.2 ∈ consumers s.answers ∨
    ∃ obj, s.proxy.objects[request.2]? = some obj ∧ obj.flagWorld.flag = .waiting
  granted : ∀ a ∈ s.answers, ∀ key, a.consumer = some key → (a.worldId, key) ∈ s.requests

theorem mem_consumers {answers : List Answer} {key : UInt64} :
    key ∈ consumers answers ↔ ∃ a ∈ answers, a.consumer = some key := by
  simp [consumers]

theorem consumers_append (answers : List Answer) (a : Answer) :
    consumers (answers ++ [a]) = consumers answers ++ a.consumer.toList := by
  cases consumer : a.consumer <;> simp [consumers, consumer]

theorem consumers_length (answers : List Answer) (consumed : ∀ a ∈ answers, a.consumer.isSome) :
    (consumers answers).length = answers.length := by
  induction answers with
  | nil => rfl
  | cons a rest ih =>
      obtain ⟨key, some⟩ := Option.isSome_iff_exists.mp (consumed a (List.mem_cons_self ..))
      have tail := ih fun b member => consumed b (List.mem_cons_of_mem a member)
      simp only [consumers, List.filterMap_cons, some, List.length_cons] at tail ⊢
      rw [tail]

theorem consumers_requested {s : Dungeons Proto} (inv : DungeonInv s) :
    consumers s.answers ⊆ s.requests.map (·.2) := by
  intro key member
  obtain ⟨a, answer, some⟩ := mem_consumers.mp member
  exact List.mem_map_of_mem (inv.granted a answer key some)

theorem request_unique {s : Dungeons Proto} (inv : DungeonInv s) {first second : Int} {key : UInt64}
    (left : (first, key) ∈ s.requests) (right : (second, key) ∈ s.requests) : first = second := by
  have same := List.inj_on_of_nodup_map inv.players left right rfl
  exact congrArg Prod.fst same

/-- When as many answers as requests were taken by distinct objects, everyone
is served. -/
theorem law_of_inv {s : Dungeons Proto} (inv : DungeonInv s)
    (consumed : ∀ a ∈ s.answers, a.consumer.isSome) (distinct : (consumers s.answers).Nodup) :
    DungeonLaw s := by
  refine ⟨consumed, distinct, inv.assigned, ?_⟩
  intro complete key obj held waits
  have within := distinct.subperm (consumers_requested inv)
  have enough : (consumers s.answers).length = (s.requests.map (·.2)).length := by
    rw [consumers_length s.answers consumed, List.length_map, complete]
  have all := within.perm_of_length_le enough.ge
  have taken : key ∈ consumers s.answers :=
    all.mem_iff.mpr (List.mem_map_of_mem (inv.requested key obj held))
  exact inv.unassigned key obj held waits taken

theorem target_found {s : Dungeons Proto} (inv : DungeonInv s)
    (consumed : ∀ a ∈ s.answers, a.consumer.isSome) (worldId : Int) (fewer : (s.answers.filter (·.worldId == worldId)).length <
      (s.requests.filter (·.1 == worldId)).length) :
    ∃ key obj, findTarget s.proxy worldId = some (key, obj) := by
  -- one of the requests for this dungeon has not been taken
  obtain ⟨request, member, target, free⟩ : ∃ request ∈ s.requests, request.1 = worldId ∧
      request.2 ∉ consumers s.answers := by
    by_contra none
    push Not at none
    have within : (s.requests.filter (·.1 == worldId)).map (·.2) ⊆
        consumers (s.answers.filter (·.worldId == worldId)) := by
      intro key listed
      obtain ⟨request, kept, rfl⟩ := List.mem_map.mp listed
      obtain ⟨member, target⟩ := List.mem_filter.mp kept
      have sameTarget : request.1 = worldId := by simpa using target
      obtain ⟨a, answer, some⟩ := mem_consumers.mp (none request member sameTarget)
      have granted := inv.granted a answer request.2 some
      have sameWorld := request_unique inv granted member
      exact mem_consumers.mpr ⟨a, List.mem_filter.mpr ⟨answer, by simp [sameWorld, sameTarget]⟩, some⟩
    have nodup : ((s.requests.filter (·.1 == worldId)).map (·.2)).Nodup :=
      inv.players.sublist (List.filter_sublist.map _)
    have bound := (nodup.subperm within).length_le
    rw [List.length_map, consumers_length _ fun a kept => consumed a (List.mem_filter.mp kept).1]
      at bound
    omega
  rcases inv.pending request member with taken | ⟨obj, held, -⟩
  · exact absurd taken free
  · have sameTarget : obj.targetWorldId = worldId := by
      rw [← target]
      exact request_unique inv (inv.requested request.2 obj held) member
    exact find_if_found held (by simp [sameTarget])

/-! The invariant, one lemma for each kind of message. -/

theorem request_inv (world : Int → Option WorldType) (s : Dungeons Proto) (player : Player Proto)
    (worldId : Int) (appId : UInt64) (inv : DungeonInv s) (isDungeon : world worldId = some .dungeon)
    (fresh : player.playerSn ∉ s.requests.map (·.2)) :
    DungeonInv { s with
      proxy := handleC2GEnterWorld world invalidId (some appId) s.proxy player worldId
      requests := s.requests ++ [(worldId, player.playerSn)] } := by
  have free : s.proxy.objects[player.playerSn]? = none := by
    cases held : s.proxy.objects[player.playerSn]? with
    | none => rfl
    | some obj => exact absurd (List.mem_map_of_mem (inv.requested _ obj held)) fresh
  have created : handleC2GEnterWorld world invalidId (some appId) s.proxy player worldId =
      createTeleportObject .dungeon invalidId (some appId) s.proxy worldId player := by
    simp [handleC2GEnterWorld, isDungeon, isTeleporting, free]
  have objects : ∀ key : UInt64,
      (handleC2GEnterWorld world invalidId (some appId) s.proxy player worldId).objects[key]? =
        if key = player.playerSn then
          some ⟨⟨.waiting, 0⟩, ⟨.waiting, false⟩, worldId, player.playerSn⟩
        else s.proxy.objects[key]? := by
    intro key
    rw [created]
    exact get_insert _ _ _ _
  constructor
  · exact keyed_enter_world world invalidId (some appId) s.proxy player worldId inv.keyed
  · intro key obj held
    rw [objects] at held
    split at held
    · rename_i same
      cases held
      simp [same]
    · exact List.mem_append_left _ (inv.requested key obj held)
  · rw [List.map_append, List.nodup_append]
    refine ⟨inv.players, by simp, ?_⟩
    rintro taken member other last rfl
    rw [List.map_singleton, List.mem_singleton] at last
    rw [last] at member
    exact fresh member
  · intro key obj held assigned
    rw [objects] at held
    split at held
    · cases held
      exact absurd rfl assigned
    · exact inv.assigned key obj held assigned
  · intro key obj held waits
    rw [objects] at held
    split at held
    · rename_i same
      rw [same]
      intro taken
      exact fresh (consumers_requested inv taken)
    · exact inv.unassigned key obj held waits
  · intro request member
    rcases List.mem_append.mp member with older | newest
    · rcases inv.pending request older with taken | ⟨obj, held, waits⟩
      · exact Or.inl taken
      · right
        refine ⟨obj, ?_, waits⟩
        dsimp only
        rw [objects, if_neg, held]
        rintro same
        rw [same, free] at held
        cases held
    · right
      rw [List.mem_singleton.mp newest]
      exact ⟨_, by dsimp only; rw [objects, if_pos rfl], rfl⟩
  · intro a answer key some
    exact List.mem_append_left _ (inv.granted a answer key some)

theorem sync_inv (s : Dungeons Proto) (proxy : Proxy Proto) (player : Player Proto) (proto : Proto)
    (inv : DungeonInv s) (done : handleS2GSyncPlayer s.proxy player proto = some proxy) :
    DungeonInv { s with proxy := proxy } := by
  have keptKeyed : Keyed proxy := keyed_advances (broadcast_sync_advances done) inv.keyed
  unfold handleS2GSyncPlayer broadcastSyncPlayer at done
  split at done
  · cases done
    exact ⟨keptKeyed, inv.requested, inv.players, inv.assigned, inv.unassigned, inv.pending, inv.granted⟩
  · rename_i first old search
    have held := (find_if_some search).1
    have keyed : ({ old with flagPlayerSync := setValue true } : TeleportObject).playerSn = first :=
      inv.keyed first old held
    obtain ⟨others, here⟩ := stored_check_objects keyed done
    -- the object keeps its world and its flag as long as it is there
    have kept : ∀ (key : UInt64) (obj : TeleportObject), proxy.objects[key]? = some obj →
        ∃ before, s.proxy.objects[key]? = some before ∧ obj.flagWorld = before.flagWorld ∧
          obj.targetWorldId = before.targetWorldId := by
      intro key obj now
      by_cases same : key = first
      · subst same
        rcases here with stored | ⟨gone, -⟩
        · rw [stored] at now
          cases now
          exact ⟨old, held, rfl, rfl⟩
        · rw [gone] at now
          cases now
      · rw [others key same] at now
        exact ⟨obj, now, rfl, rfl⟩
    refine ⟨keptKeyed, ?_, inv.players, ?_, ?_, ?_, inv.granted⟩
    · intro key obj now
      obtain ⟨before, was, -, target⟩ := kept key obj now
      rw [target]
      exact inv.requested key before was
    · intro key obj now assigned
      obtain ⟨before, was, flag, target⟩ := kept key obj now
      rw [flag] at assigned ⊢
      rw [target]
      exact inv.assigned key before was assigned
    · intro key obj now waits
      obtain ⟨before, was, flag, -⟩ := kept key obj now
      rw [flag] at waits
      exact inv.unassigned key before was waits
    · intro request member
      rcases inv.pending request member with taken | ⟨obj, was, waits⟩
      · exact Or.inl taken
      · right
        by_cases same : request.2 = first
        · rw [same] at was ⊢
          have sameObj := was.symm.trans held
          cases sameObj
          rcases here with stored | ⟨-, completed⟩
          · exact ⟨_, stored, waits⟩
          · dsimp only at completed
            rw [waits] at completed
            cases completed
        · exact ⟨obj, by rw [others _ same, was], waits⟩

theorem answer_inv (s : Dungeons Proto) (proxy : Proxy Proto) (worldId : Int) (worldSn key : UInt64)
    (old : TeleportObject) (inv : DungeonInv s) (found : findTarget s.proxy worldId = some (key, old))
    (done : assignWorld worldSn s.proxy key old = some proxy) :
    DungeonInv { s with proxy := proxy, answers := s.answers ++ [⟨worldId, worldSn, some key⟩] } := by
  obtain ⟨held, target⟩ := find_target_some found
  have keptKeyed : Keyed proxy := keyed_advances (assign_world_advances held done) inv.keyed
  have keyed : ({ old with flagWorld := setValue worldSn } : TeleportObject).playerSn = key :=
    inv.keyed key old held
  obtain ⟨others, here⟩ := stored_check_objects keyed done
  have taken : ∀ other : UInt64, other ∈ consumers (s.answers ++ [⟨worldId, worldSn, some key⟩]) ↔
      other ∈ consumers s.answers ∨ other = key := by
    intro other
    simp [consumers_append]
  constructor
  · exact keptKeyed
  · intro other obj now
    by_cases same : other = key
    · subst same
      have first := inv.requested other old held
      rcases here with stored | ⟨gone, -⟩
      · rw [stored] at now
        cases now
        exact first
      · rw [gone] at now
        cases now
    · rw [others other same] at now
      exact inv.requested other obj now
  · exact inv.players
  · intro other obj now assigned
    by_cases same : other = key
    · subst same
      refine ⟨⟨worldId, worldSn, some other⟩, by simp, rfl, ?_⟩
      rcases here with stored | ⟨gone, -⟩
      · rw [stored] at now
        cases now
        exact ⟨target.symm, rfl⟩
      · rw [gone] at now
        cases now
    · rw [others other same] at now
      obtain ⟨a, answer, rest⟩ := inv.assigned other obj now assigned
      exact ⟨a, List.mem_append_left _ answer, rest⟩
  · intro other obj now waits
    rw [taken]
    by_cases same : other = key
    · subst same
      rcases here with stored | ⟨gone, -⟩
      · rw [stored] at now
        cases now
        cases waits
      · rw [gone] at now
        cases now
    · rw [others other same] at now
      rintro (older | newest)
      · exact inv.unassigned other obj now waits older
      · exact same newest
  · intro request member
    dsimp only
    rw [taken]
    by_cases same : request.2 = key
    · exact Or.inl (Or.inr same)
    · rcases inv.pending request member with older | ⟨obj, was, waits⟩
      · exact Or.inl (Or.inl older)
      · exact Or.inr ⟨obj, by rw [others _ same, was], waits⟩
  · intro a answer other some
    rcases List.mem_append.mp answer with older | newest
    · exact inv.granted a older other some
    · rw [List.mem_singleton.mp newest] at some ⊢
      cases some
      have first := inv.requested key old held
      rw [target] at first
      exact first

theorem answer_cases (world : Int → Option WorldType) (s proxy : Proxy Proto) (worldId : Int)
    (worldSn : UInt64) (isDungeon : world worldId = some .dungeon)
    (done : handleBroadcastCreateWorldProxy world 0 s worldId worldSn = some (some proxy)) :
    (findTarget s worldId = none ∧ proxy = s) ∨
      ∃ key obj, findTarget s worldId = some (key, obj) ∧ assignWorld worldSn s key obj = some proxy := by
  simp only [handleBroadcastCreateWorldProxy, isDungeon] at done
  split at done
  · rename_i absent
    cases done
    exact Or.inl ⟨absent, rfl⟩
  · rename_i key obj found
    exact Or.inr ⟨key, obj, found, Option.some.inj done⟩

theorem dungeon_step_inv (world : Int → Option WorldType) (before : Dungeons Proto)
    (event : DungeonEvent Proto) (after : Dungeons Proto) (inv : DungeonInv before)
    (step : dungeonStep world before event after) : DungeonInv after := by
  cases event with
  | request identify worldId appId =>
      obtain ⟨isDungeon, player, -, fresh, rfl⟩ := step
      exact request_inv world before player worldId appId inv isDungeon fresh
  | sync identify proto =>
      obtain ⟨player, proxy, -, done, rfl⟩ := step
      exact sync_inv before proxy player proto inv done
  | answer worldId worldSn =>
      obtain ⟨isDungeon, -, -, -, proxy, done, rfl⟩ := step
      rcases answer_cases world _ proxy worldId worldSn isDungeon done with
        ⟨absent, rfl⟩ | ⟨key, obj, found, assigned⟩
      · rw [absent]
        have none : consumers (before.answers ++ [⟨worldId, worldSn, none⟩]) =
            consumers before.answers := by simp [consumers_append]
        refine ⟨inv.keyed, inv.requested, inv.players, ?_, ?_, ?_, ?_⟩
        · intro key obj held assigned
          obtain ⟨a, answer, rest⟩ := inv.assigned key obj held assigned
          exact ⟨a, List.mem_append_left _ answer, rest⟩
        · simpa [none] using inv.unassigned
        · simpa [none] using inv.pending
        · intro a answer key some
          rcases List.mem_append.mp answer with older | newest
          · exact inv.granted a older key some
          · rw [List.mem_singleton.mp newest] at some
            cases some
      · rw [found]
        exact answer_inv before proxy worldId worldSn key obj inv found assigned

theorem first_waits_decides (world : Int → Option WorldType) (before : Dungeons Proto)
    (event : DungeonEvent Proto) (after : Dungeons Proto) (inv : DungeonInv before)
    (law : DungeonLaw before) (step : dungeonStep world before event after) :
    FirstWaits before event ↔ DungeonLaw after := by
  have invAfter := dungeon_step_inv world before event after inv step
  cases event with
  | request identify worldId appId =>
      obtain ⟨-, player, -, -, rfl⟩ := step
      exact ⟨fun _ => law_of_inv invAfter law.consumed law.distinct, fun _ => trivial⟩
  | sync identify proto =>
      obtain ⟨player, proxy, -, -, rfl⟩ := step
      exact ⟨fun _ => law_of_inv invAfter law.consumed law.distinct, fun _ => trivial⟩
  | answer worldId worldSn =>
      obtain ⟨isDungeon, -, -, fewer, proxy, -, rfl⟩ := step
      obtain ⟨key, obj, found⟩ := target_found inv law.consumed worldId fewer
      have held := (find_target_some found).1
      rw [found] at invAfter ⊢
      have consumed : ∀ a ∈ before.answers ++ [⟨worldId, worldSn, some key⟩], a.consumer.isSome := by
        intro a answer
        rcases List.mem_append.mp answer with older | newest
        · exact law.consumed a older
        · rw [List.mem_singleton.mp newest]
          rfl
      constructor
      · intro waits
        refine law_of_inv invAfter consumed ?_
        have free := inv.unassigned key obj held (waits key obj found)
        rw [Option.map_some, consumers_append, List.nodup_append]
        refine ⟨law.distinct, by simp, ?_⟩
        rintro other member last single rfl
        rw [Option.toList_some, List.mem_singleton] at single
        rw [single] at member
        exact free member
      · intro lawAfter other kept search
        rw [found] at search
        cases search
        by_contra assigned
        obtain ⟨a, answer, some, -⟩ := inv.assigned key obj held assigned
        have distinct := lawAfter.distinct
        rw [Option.map_some, consumers_append, List.nodup_append] at distinct
        exact distinct.2.2 key (mem_consumers.mpr ⟨a, answer, some⟩) key (by simp) rfl

theorem begin_inv (proxy : Proxy Proto) (none : proxy.objects = ∅) : DungeonInv (begin proxy) := by
  have nothing : ∀ (key : UInt64) (obj : TeleportObject), ¬ proxy.objects[key]? = some obj := by
    rw [none]
    simp
  constructor
  · intro key obj held
    exact absurd held (nothing key obj)
  · intro key obj held
    exact absurd held (nothing key obj)
  · exact List.nodup_nil
  · intro key obj held
    exact absurd held (nothing key obj)
  · intro key obj held
    exact absurd held (nothing key obj)
  · intro request member
    cases member
  · intro a answer
    cases answer

/-- Each created dungeon serves one waiting player along a run exactly when no
broadcast finds, as its first object, one that has its dungeon already. -/
theorem dungeons_serve_one_iff (world : Int → Option WorldType) (proxy : Proxy Proto)
    (trace : List (DungeonEvent Proto)) (s : Dungeons Proto) (none : proxy.objects = ∅) :
    Run (Guarded (dungeonStep world) FirstWaits) (begin proxy) trace s ↔
      Run (Along (dungeonStep world) DungeonLaw) (begin proxy) trace s := by
  have start := begin_inv proxy none
  refine guarded_iff_along DungeonInv (dungeon_step_inv world) (first_waits_decides world) start ?_
  exact law_of_inv start (by simp [begin]) List.nodup_nil

/-! Two players ask for the dungeon 5. -/

def secondArrival : Teleport Unit := ⟨1, [98], 8, (), ⟨4, .tcpListen⟩, 100⟩

def secondClient : NetIdentify := ⟨⟨4, .tcpListen⟩, addTagStr clear .account [98]⟩

def secondPlayer : Player Unit := ⟨[98], ⟨4, .tcpListen⟩, 8, ()⟩

def bothArrived : Proxy Unit := handleTeleport arrived secondArrival

def firstAsked : Proxy Unit := handleC2GEnterWorld worlds invalidId (some 3) bothArrived clientPlayer 5

def bothAsked : Proxy Unit := handleC2GEnterWorld worlds invalidId (some 3) firstAsked secondPlayer 5

/-- The proxy once the first player's object has its dungeon, the sync still open. -/
def firstAssigned (worldSn : UInt64) : Proxy Unit :=
  { bothAsked with
    objects := bothAsked.objects.insert 7 ⟨⟨.completed, worldSn⟩, ⟨.waiting, false⟩, 5, 7⟩ }

def firstLeft : Proxy Unit :=
  (handleS2GSyncPlayer (firstAssigned 50) clientPlayer ()).getD (firstAssigned 50)

def bothAssigned : Proxy Unit :=
  { firstLeft with
    objects := firstLeft.objects.insert 8 ⟨⟨.completed, 51⟩, ⟨.waiting, false⟩, 5, 8⟩ }

theorem both_asked_run : Run (dungeonStep worlds) (begin bothArrived)
    [.request client 5 3, .request secondClient 5 3] ⟨bothAsked, [(5, 7), (5, 8)], []⟩ :=
  Run.next ⟨rfl, clientPlayer, rfl, by decide, rfl⟩
    (Run.next ⟨rfl, secondPlayer, rfl, by decide, rfl⟩ (Run.refl _))

theorem first_answered : dungeonStep worlds ⟨bothAsked, [(5, 7), (5, 8)], []⟩ (.answer 5 50)
    ⟨firstAssigned 50, [(5, 7), (5, 8)], [⟨5, 50, some 7⟩]⟩ :=
  ⟨rfl, by decide, by simp, by decide, firstAssigned 50, rfl, rfl⟩

theorem first_waits_found {s : Dungeons Unit} {worldId : Int} {key worldSn : UInt64}
    {obj : TeleportObject} (found : findTarget s.proxy worldId = some (key, obj))
    (waiting : obj.flagWorld.flag = .waiting) : FirstWaits s (.answer worldId worldSn) := by
  intro other held search
  rw [found] at search
  cases search
  exact waiting

theorem both_served_run : Run (Guarded (dungeonStep worlds) FirstWaits) (begin bothArrived)
    [.request client 5 3, .request secondClient 5 3, .answer 5 50, .sync client (), .answer 5 51]
    ⟨bothAssigned, [(5, 7), (5, 8)], [⟨5, 50, some 7⟩, ⟨5, 51, some 8⟩]⟩ := by
  have first : Guarded (dungeonStep worlds) FirstWaits ⟨bothAsked, [(5, 7), (5, 8)], []⟩
      (.answer 5 50) ⟨firstAssigned 50, [(5, 7), (5, 8)], [⟨5, 50, some 7⟩]⟩ :=
    ⟨first_answered, first_waits_found rfl rfl⟩
  have leaves : Guarded (dungeonStep worlds) FirstWaits
      ⟨firstAssigned 50, [(5, 7), (5, 8)], [⟨5, 50, some 7⟩]⟩ (.sync client ())
      ⟨firstLeft, [(5, 7), (5, 8)], [⟨5, 50, some 7⟩]⟩ :=
    ⟨⟨clientPlayer, firstLeft, rfl, rfl, rfl⟩, trivial⟩
  have second : Guarded (dungeonStep worlds) FirstWaits
      ⟨firstLeft, [(5, 7), (5, 8)], [⟨5, 50, some 7⟩]⟩ (.answer 5 51)
      ⟨bothAssigned, [(5, 7), (5, 8)], [⟨5, 50, some 7⟩, ⟨5, 51, some 8⟩]⟩ :=
    ⟨⟨rfl, by decide, by simp, by decide, bothAssigned, rfl, rfl⟩, first_waits_found rfl rfl⟩
  exact .next ⟨⟨rfl, clientPlayer, rfl, by decide, rfl⟩, trivial⟩
    (.next ⟨⟨rfl, secondPlayer, rfl, by decide, rfl⟩, trivial⟩
    (.next first (.next leaves (.next second (.refl _)))))

theorem dungeons_serve_one_iff_both :
    Run (Along (dungeonStep worlds) DungeonLaw) (begin bothArrived)
      [.request client 5 3, .request secondClient 5 3, .answer 5 50, .sync client (), .answer 5 51]
      ⟨bothAssigned, [(5, 7), (5, 8)], [⟨5, 50, some 7⟩, ⟨5, 51, some 8⟩]⟩ :=
  (dungeons_serve_one_iff worlds bothArrived _ _ rfl).mp both_served_run

/-- Both dungeons are created before the first player's sync arrives: the
second one goes to the first player too. -/
theorem second_dungeon_overwrites_first :
    ¬ ∀ (world : Int → Option WorldType) (proxy : Proxy Unit) (trace : List (DungeonEvent Unit))
      (s : Dungeons Unit), proxy.objects = ∅ → Run (dungeonStep world) (begin proxy) trace s →
      DungeonLaw s := by
  intro law
  have secondAnswer : dungeonStep worlds ⟨firstAssigned 50, [(5, 7), (5, 8)], [⟨5, 50, some 7⟩]⟩
      (.answer 5 51) ⟨firstAssigned 51, [(5, 7), (5, 8)], [⟨5, 50, some 7⟩, ⟨5, 51, some 7⟩]⟩ :=
    ⟨rfl, by decide, by simp, by decide, firstAssigned 51, rfl, rfl⟩
  have run := run_snoc (run_snoc both_asked_run first_answered) secondAnswer
  have distinct := (law worlds bothArrived _ _ rfl run).distinct
  exact absurd distinct (by decide)

end GameBook.DungeonTeleport
