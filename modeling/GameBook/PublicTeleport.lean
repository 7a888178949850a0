import GameBook.TeleportPresence

/-!
`HandleBroadcastCreateWorldProxy` for a public world. The loop takes the first
object with the target world again and again; it only gets further when `Check`
removes that object, and `Check` waits for the player's sync.
-/

namespace GameBook.PublicTeleport

open OrderedMap SocketObject AppKey PlayerCollector WhileLoop LabelledRun WorldProxy
  TeleportPresence

variable {Proto : Type}

/-- Everyone who waits for the world is served: the synced players are
teleported once and removed, the others keep the world for later. -/
structure Served (before after : Proxy Proto) (worldId : Int) (worldSn : UInt64) : Prop where
  others : ∀ (key : UInt64) (obj : TeleportObject), before.objects[key]? = some obj →
    obj.targetWorldId ≠ worldId → after.objects[key]? = some obj
  synced : ∀ (key : UInt64) (obj : TeleportObject), before.objects[key]? = some obj →
    obj.targetWorldId = worldId → isCompleted obj.flagPlayerSync = true → after.objects[key]? = none
  waiting : ∀ (key : UInt64) (obj : TeleportObject), before.objects[key]? = some obj →
    obj.targetWorldId = worldId → isCompleted obj.flagPlayerSync = false →
      after.objects[key]? = some { obj with flagWorld := setValue worldSn }
  absent : ∀ key : UInt64, before.objects[key]? = none → after.objects[key]? = none
  teleports : ∃ new : List (Teleport Proto), after.sent = before.sent ++ new.map .teleport ∧
    (new.map (·.playerSn)).Nodup ∧ (∀ m ∈ new, m.targetWorldSn = worldSn) ∧
    ∀ key : UInt64, key ∈ new.map (·.playerSn) ↔ ∃ obj, before.objects[key]? = some obj ∧
      obj.targetWorldId = worldId ∧ isCompleted obj.flagPlayerSync = true
  collector : after.collector = before.collector

/-- An object the loop can neither finish nor get past. -/
def Stuck (s : Proxy Proto) (worldSn : UInt64) (obj : TeleportObject) : Prop :=
  worldSn = 0 ∨ isCompleted obj.flagPlayerSync = false ∨
    getPlayerBySn s.collector obj.playerSn = none

def AllReady (s : Proxy Proto) (worldId : Int) (worldSn : UInt64) : Prop :=
  ∀ (key : UInt64) (obj : TeleportObject), s.objects[key]? = some obj →
    obj.targetWorldId = worldId → ¬ Stuck s worldSn obj

/-! One turn at an object that is not stuck teleports and removes it. -/

theorem assign_world_ready (worldSn : UInt64) (s : Proxy Proto) (key : UInt64)
    (obj : TeleportObject) (keyed : obj.playerSn = key) (ready : ¬ Stuck s worldSn obj) :
    ∃ player, getPlayerBySn s.collector key = some player ∧
      assignWorld worldSn s key obj = some { s with
        objects := (s.objects.insert key { obj with flagWorld := setValue worldSn }).erase key
        sent := s.sent ++ [.teleport (teleportOf player s.sn worldSn)] } := by
  unfold Stuck at ready
  push Not at ready
  obtain ⟨nonzero, synced, present⟩ := ready
  obtain ⟨player, found⟩ := Option.ne_none_iff_exists'.mp present
  rw [keyed] at found
  refine ⟨player, found, ?_⟩
  have sn := (get_by_sn_some found).2
  have ready : isCompleted obj.flagPlayerSync = true := by
    cases completed : isCompleted obj.flagPlayerSync
    · exact absurd completed synced
    · rfl
  simp [assignWorld, check, ready, nonzero, keyed, found, sn]

/-- How far the loop has come: the objects it removed were targets, and it
teleported exactly their players. -/
structure Progress (start : Proxy Proto) (worldId : Int) (worldSn : UInt64) (s : Proxy Proto) :
    Prop where
  kept : ∀ (key : UInt64) (obj : TeleportObject), s.objects[key]? = some obj →
    start.objects[key]? = some obj
  gone : ∀ (key : UInt64) (obj : TeleportObject), start.objects[key]? = some obj →
    s.objects[key]? = none → obj.targetWorldId = worldId
  teleports : ∃ new : List (Teleport Proto), s.sent = start.sent ++ new.map .teleport ∧
    (new.map (·.playerSn)).Nodup ∧ (∀ m ∈ new, m.targetWorldSn = worldSn) ∧
    ∀ key : UInt64, key ∈ new.map (·.playerSn) ↔ s.objects[key]? = none ∧
      ∃ obj, start.objects[key]? = some obj
  collector : s.collector = start.collector

theorem progress_start (s : Proxy Proto) (worldId : Int) (worldSn : UInt64) :
    Progress s worldId worldSn s := by
  refine ⟨fun _ _ held => held, ?_, ⟨[], by simp, List.nodup_nil, by simp, ?_⟩, rfl⟩
  · intro key obj held absent
    rw [held] at absent
    cases absent
  · intro key
    constructor
    · intro member
      cases member
    · rintro ⟨absent, obj, held⟩
      rw [held] at absent
      cases absent

theorem broadcast_turn_progress (start s next : Proxy Proto) (worldId : Int) (worldSn : UInt64)
    (keyed : Keyed start) (ready : AllReady start worldId worldSn)
    (progress : Progress start worldId worldSn s) (turn : broadcastTurn worldId worldSn s = .inl next) :
    Progress start worldId worldSn next ∧ next.objects.size < s.objects.size := by
  unfold broadcastTurn at turn
  split at turn
  · cases turn
  · rename_i key obj found
    obtain ⟨held, target⟩ := find_target_some found
    have first := progress.kept key obj held
    have notStuck : ¬ Stuck s worldSn obj := by
      rw [Stuck, progress.collector]
      exact ready key obj first target
    obtain ⟨player, present, assigned⟩ :=
      assign_world_ready worldSn s key obj (keyed key obj first) notStuck
    rw [assigned] at turn
    cases turn
    have sn := (get_by_sn_some present).2
    have objects : ∀ other : UInt64,
        ((s.objects.insert key { obj with flagWorld := setValue worldSn }).erase key)[other]? =
          if other = key then none else s.objects[other]? := by
      intro other
      rw [get_erase, get_insert]
      split <;> rfl
    obtain ⟨new, sent, distinct, targets, members⟩ := progress.teleports
    refine ⟨⟨?_, ?_, ⟨new ++ [teleportOf player s.sn worldSn], ?_, ?_, ?_, ?_⟩, progress.collector⟩, ?_⟩
    · intro other kept here
      dsimp only at here
      rw [objects] at here
      split at here
      · cases here
      · exact progress.kept other kept here
    · intro other old before absent
      dsimp only at absent
      rw [objects] at absent
      split at absent
      · rename_i same
        rw [same, first] at before
        cases before
        exact target
      · exact progress.gone other old before absent
    · simp [sent]
    · rw [List.map_append, List.nodup_append]
      refine ⟨distinct, by simp, ?_⟩
      intro taken member other last
      rw [List.map_singleton, List.mem_singleton] at last
      rintro rfl
      -- an earlier teleport of this player would have removed the object found now
      have absent := ((members taken).mp member).1
      rw [last, teleportOf, sn, held] at absent
      cases absent
    · intro message member
      rcases List.mem_append.mp member with older | newest
      · exact targets message older
      · rw [List.mem_singleton.mp newest]
        rfl
    · intro other
      rw [List.map_append, List.mem_append, members other, List.map_singleton, List.mem_singleton]
      dsimp only
      rw [objects]
      by_cases same : other = key
      · subst same
        simp [teleportOf, sn, first]
      · simp [teleportOf, sn, same]
    · have inserted := size_insert_held s.objects key obj { obj with flagWorld := setValue worldSn } held
      have erased := size_erase_held (s.objects.insert key { obj with flagWorld := setValue worldSn })
        key { obj with flagWorld := setValue worldSn } (by rw [get_insert, if_pos rfl])
      dsimp only
      omega

theorem served_of_progress (start s : Proxy Proto) (worldId : Int) (worldSn : UInt64)
    (ready : AllReady start worldId worldSn) (progress : Progress start worldId worldSn s)
    (done : findTarget s worldId = none) : Served start s worldId worldSn := by
  have untargeted := find_target_none.mp done
  have removed : ∀ (key : UInt64) (obj : TeleportObject), start.objects[key]? = some obj →
      obj.targetWorldId = worldId → s.objects[key]? = none := by
    intro key obj held target
    cases here : s.objects[key]? with
    | none => rfl
    | some kept =>
        have same := progress.kept key kept here
        rw [held] at same
        cases same
        exact absurd target (untargeted key obj here)
  have synced : ∀ (key : UInt64) (obj : TeleportObject), start.objects[key]? = some obj →
      obj.targetWorldId = worldId → isCompleted obj.flagPlayerSync = true := by
    intro key obj held target
    have notStuck := ready key obj held target
    unfold Stuck at notStuck
    push Not at notStuck
    simpa using notStuck.2.1
  constructor
  · intro key obj held other
    cases here : s.objects[key]? with
    | none => exact absurd (progress.gone key obj held here) other
    | some kept =>
        have same := progress.kept key kept here
        rw [held] at same
        rw [same]
  · intro key obj held target _
    exact removed key obj held target
  · intro key obj held target waits
    rw [synced key obj held target] at waits
    cases waits
  · intro key absent
    cases here : s.objects[key]? with
    | none => rfl
    | some kept =>
        have same := progress.kept key kept here
        rw [absent] at same
        cases same
  · obtain ⟨new, sent, distinct, targets, members⟩ := progress.teleports
    refine ⟨new, sent, distinct, targets, ?_⟩
    intro key
    rw [members key]
    constructor
    · rintro ⟨absent, obj, held⟩
      have target := progress.gone key obj held absent
      exact ⟨obj, held, target, synced key obj held target⟩
    · rintro ⟨obj, held, target, -⟩
      exact ⟨removed key obj held target, obj, held⟩
  · exact progress.collector

/-! A stuck object stays, so the loop can only crash or go on. -/

def SomeStuck (worldId : Int) (worldSn : UInt64) (s : Proxy Proto) : Prop :=
  Keyed s ∧ ∃ (key : UInt64) (obj : TeleportObject), s.objects[key]? = some obj ∧
    obj.targetWorldId = worldId ∧ Stuck s worldSn obj

theorem assign_world_cases {worldSn : UInt64} {s after : Proxy Proto} {key : UInt64}
    {obj : TeleportObject} (done : assignWorld worldSn s key obj = some after) :
    (after = { s with objects := s.objects.insert key { obj with flagWorld := setValue worldSn } }) ∨
    (¬ Stuck s worldSn obj ∧ ∃ player, getPlayerBySn s.collector obj.playerSn = some player ∧
      after = { s with
        objects := (s.objects.insert key { obj with flagWorld := setValue worldSn }).erase obj.playerSn
        sent := s.sent ++ [.teleport (teleportOf player s.sn worldSn)] }) := by
  rcases check_cases done with ⟨-, rfl⟩ | ⟨synced, -, nonzero, player, found, rfl⟩
  · exact Or.inl rfl
  · right
    refine ⟨?_, player, found, rfl⟩
    rintro (zero | waits | absent)
    · exact nonzero zero
    · rw [synced] at waits
      cases waits
    · rw [absent] at found
      cases found

theorem stuck_turn (worldId : Int) (worldSn : UInt64) (s next : Proxy Proto)
    (stuck : SomeStuck worldId worldSn s) (turn : broadcastTurn worldId worldSn s = .inl next) :
    SomeStuck worldId worldSn next := by
  obtain ⟨keyed, stuckKey, stuckObj, held, target, why⟩ := stuck
  unfold broadcastTurn at turn
  split at turn
  · cases turn
  · rename_i key obj found
    obtain ⟨foundHeld, foundTarget⟩ := find_target_some found
    have foundKey := keyed key obj foundHeld
    split at turn
    · cases turn
    · rename_i after assigned
      cases turn
      have keptKeyed := keyed_advances (assign_world_advances foundHeld assigned) keyed
      refine ⟨keptKeyed, ?_⟩
      rcases assign_world_cases assigned with rfl | ⟨ready, player, present, rfl⟩
      · by_cases same : stuckKey = key
        · subst same
          rw [held] at foundHeld
          cases foundHeld
          exact ⟨stuckKey, { stuckObj with flagWorld := setValue worldSn },
            by simp only [get_insert, if_pos], target, why⟩
        · exact ⟨stuckKey, stuckObj, by simp only [get_insert, if_neg same, held], target, why⟩
      · have differs : stuckKey ≠ key := by
          rintro rfl
          rw [held] at foundHeld
          cases foundHeld
          exact ready why
        refine ⟨stuckKey, stuckObj, ?_, target, why⟩
        dsimp only
        rw [get_erase, get_insert, foundKey, if_neg differs, if_neg differs, held]

theorem stuck_exit (worldId : Int) (worldSn : UInt64) (s : Proxy Proto)
    (result : Option (Proxy Proto)) (stuck : SomeStuck worldId worldSn s)
    (turn : broadcastTurn worldId worldSn s = .inr result) : result = none := by
  obtain ⟨-, key, obj, held, target, -⟩ := stuck
  rcases broadcast_turn_exit turn with ⟨-, absent⟩ | ⟨crashed, -⟩
  · exact absurd target (find_target_none.mp absent key obj held)
  · exact crashed

/-- The broadcast of a public world ends with everyone served exactly when no
object waits for it, or all of them can be teleported at once. -/
theorem broadcast_serves_iff (world : Int → Option WorldType) (s : Proxy Proto) (worldId : Int)
    (worldSn : UInt64) (isPublic : world worldId = some .publicWorld) (keyed : Keyed s) :
    (∃ fuel after, handleBroadcastCreateWorldProxy world fuel s worldId worldSn = some (some after) ∧
      Served s after worldId worldSn) ↔ AllReady s worldId worldSn := by
  simp only [handleBroadcastCreateWorldProxy, isPublic]
  constructor
  · rintro ⟨fuel, after, done, -⟩ key obj held target why
    have crashed := loop_result (SomeStuck worldId worldSn) (fun result => result = none)
      (stuck_turn worldId worldSn) (stuck_exit worldId worldSn) fuel s (some after)
      ⟨keyed, key, obj, held, target, why⟩ done
    cases crashed
  · intro ready
    obtain ⟨result, fuel, done⟩ := ends_of_variant (broadcastTurn worldId worldSn) (Progress s worldId worldSn)
      (fun t => t.objects.size)
      (fun state next progress turn =>
        broadcast_turn_progress s state next worldId worldSn keyed ready progress turn)
      s (progress_start s worldId worldSn)
    have post := loop_result (Progress s worldId worldSn)
      (fun result => ∃ after, result = some after ∧ Served s after worldId worldSn)
      (fun state next progress turn =>
        (broadcast_turn_progress s state next worldId worldSn keyed ready progress turn).1)
      ?_ fuel s result (progress_start s worldId worldSn) done
    · obtain ⟨after, rfl, served⟩ := post
      exact ⟨fuel, after, done, served⟩
    · intro state left progress turn
      rcases broadcast_turn_exit turn with ⟨rfl, absent⟩ | ⟨-, key, obj, found, crashed⟩
      · exact ⟨state, rfl, served_of_progress s state worldId worldSn ready progress absent⟩
      · obtain ⟨held, target⟩ := find_target_some found
        have first := progress.kept key obj held
        obtain ⟨player, -, assigned⟩ := assign_world_ready worldSn state key obj
          (keyed key obj first) (by rw [Stuck, progress.collector]; exact ready key obj first target)
        rw [assigned] at crashed
        cases crashed

theorem reachable_broadcast_serves_iff (world : Int → Option WorldType) (sn : UInt64)
    (trace : List (Event Proto)) (s : Proxy Proto) (worldId : Int) (worldSn : UInt64)
    (isPublic : world worldId = some .publicWorld)
    (run : Run (proxyStep world) (WorldProxy.create sn) trace s) :
    (∃ fuel after, handleBroadcastCreateWorldProxy world fuel s worldId worldSn = some (some after) ∧
      Served s after worldId worldSn) ↔ AllReady s worldId worldSn :=
  broadcast_serves_iff world s worldId worldSn isPublic (keyed_run world sn trace s run)

theorem reachable_broadcast_serves_iff_entering :
    (∃ fuel after, handleBroadcastCreateWorldProxy worlds fuel entering 2 9 = some (some after) ∧
      Served entering after 2 9) ↔ AllReady entering 2 9 :=
  reachable_broadcast_serves_iff worlds 100 _ entering 2 9 rfl entering_run

/-- The world is created before the player's sync arrives: the loop finds the
same object for ever. -/
theorem broadcast_before_sync_never_ends :
    ¬ ∀ (world : Int → Option WorldType) (sn : UInt64) (trace : List (Event Unit)) (s : Proxy Unit)
      (worldId : Int) (worldSn : UInt64), world worldId = some .publicWorld → worldSn ≠ 0 →
      Run (proxyStep world) (WorldProxy.create sn) trace s →
      ∃ fuel after, handleBroadcastCreateWorldProxy world fuel s worldId worldSn = some (some after) ∧
        Served s after worldId worldSn := by
  intro law
  have served := law worlds 100 _ entering 2 9 rfl (by decide) entering_run
  have keyed := keyed_run worlds 100 _ entering entering_run
  have ready := (broadcast_serves_iff worlds entering 2 9 rfl keyed).mp served
  exact ready 7 _ entering_object rfl (Or.inr (Or.inl rfl))

end GameBook.PublicTeleport
