import GameBook.WorldProxy

/-!
A wish to enter a world that cannot be started, and the flags of one that is. The
teleport object is in the map before the two steps that may fail.
-/

namespace GameBook.WorldEntry

open OrderedMap AppKey CString PlayerCollector WhileLoop LabelledRun WorldProxy

variable {Proto : Type}

/-! ### What is asked -/

/-- A public world, or a dungeon for which there is a space process. -/
def Startable (world : Int → Option WorldType) (space : Option UInt64) (worldId : Int) : Prop :=
  match world worldId with
  | some .publicWorld => True
  | some .dungeon => space ≠ none
  | _ => False

structure FlagsSet (obj : TeleportObject) : Prop where
  world : obj.flagWorld.flag ≠ .none
  playerSync : obj.flagPlayerSync.flag ≠ .none

def Apart (playerSn : UInt64) (before : Proxy Proto) : Event Proto → Prop
  | .enterWorld identify _ _ _ =>
      ∀ player, getPlayer before identify = some player → player.playerSn ≠ playerSn
  | _ => True

/-- A wish is accepted: the player has an object for the world. -/
def Accepted (s : Proxy Proto) (playerSn : UInt64) (worldId : Int) : Prop :=
  ∃ obj, s.objects[playerSn]? = some obj ∧ obj.targetWorldId = worldId ∧ FlagsSet obj

structure EntryLaw (world : Int → Option WorldType) (located : UInt64) (space : Option UInt64)
    (s : Proxy Proto) (player : Player Proto) (worldId : Int) : Prop where
  /-- Whatever follows a wish that cannot be started, the player has no object and
  the next one is accepted. -/
  freed : ¬ Startable world space worldId → ∀ events t,
    Run (Guarded (proxyStep world) (Apart player.playerSn))
      (handleC2GEnterWorld world located space s player worldId) events t →
      t.objects[player.playerSn]? = none ∧
      ∀ located' space' worldId' (later : Player Proto), later.playerSn = player.playerSn →
        Startable world space' worldId' →
          Accepted (handleC2GEnterWorld world located' space' t later worldId') player.playerSn worldId'
  started : Startable world space worldId → s.objects[player.playerSn]? = none →
    Accepted (handleC2GEnterWorld world located space s player worldId) player.playerSn worldId ∧
    ∀ events t, Run (Guarded (proxyStep world) (Apart player.playerSn))
      (handleC2GEnterWorld world located space s player worldId) events t →
      ∀ obj, t.objects[player.playerSn]? = some obj → FlagsSet obj

/-! ### The flags of one object -/

theorem create_teleport_object_flags (kind : WorldType) (located : UInt64) (space : Option UInt64)
    (s : Proxy Proto) (worldId : Int) (player : Player Proto) :
    ∃ obj, (createTeleportObject kind located space s worldId player).objects =
        s.objects.insert player.playerSn obj ∧ obj.targetWorldId = worldId ∧
      (kind = .publicWorld ∨ kind = .dungeon ∧ space ≠ none → FlagsSet obj) := by
  unfold createTeleportObject createWorldFlag createSyncFlag send awake
  cases kind with
  | login =>
      refine ⟨_, rfl, rfl, ?_⟩
      rintro (impossible | ⟨impossible, _⟩) <;> cases impossible
  | roles =>
      refine ⟨_, rfl, rfl, ?_⟩
      rintro (impossible | ⟨impossible, _⟩) <;> cases impossible
  | publicWorld =>
      by_cases unlocated : located = invalidId
      · rw [if_pos unlocated]
        exact ⟨_, rfl, rfl, fun _ => ⟨nofun, nofun⟩⟩
      · rw [if_neg unlocated]
        exact ⟨_, rfl, rfl, fun _ => ⟨nofun, nofun⟩⟩
  | dungeon =>
      cases space with
      | none =>
          refine ⟨_, rfl, rfl, ?_⟩
          rintro (impossible | ⟨_, absent⟩)
          · cases impossible
          · exact absurd rfl absent
      | some appId => exact ⟨_, rfl, rfl, fun _ => ⟨nofun, nofun⟩⟩

/-- The player's object comes from a former wish, whose flags are set if they were. -/
def Follows (playerSn : UInt64) (s t : Proxy Proto) : Prop :=
  ∀ obj, t.objects[playerSn]? = some obj →
    ∃ old, s.objects[playerSn]? = some old ∧ (FlagsSet old → FlagsSet obj)

theorem follows_refl (playerSn : UInt64) (s : Proxy Proto) : Follows playerSn s s :=
  fun obj held => ⟨obj, held, id⟩

theorem follows_trans {playerSn : UInt64} {s t u : Proxy Proto} (first : Follows playerSn s t)
    (second : Follows playerSn t u) : Follows playerSn s u := by
  intro obj held
  obtain ⟨middle, there, flags⟩ := second obj held
  obtain ⟨old, here, earlier⟩ := first middle there
  exact ⟨old, here, fun set => flags (earlier set)⟩

theorem follows_same {playerSn : UInt64} {s t : Proxy Proto} (same : t.objects = s.objects) :
    Follows playerSn s t := by
  intro obj held
  rw [same] at held
  exact ⟨obj, held, id⟩

theorem follows_stored {playerSn : UInt64} {s after : Proxy Proto} {key : UInt64}
    {old obj : TeleportObject} (held : s.objects[key]? = some old)
    (flags : FlagsSet old → FlagsSet obj)
    (done : check { s with objects := s.objects.insert key obj } obj = some after) :
    Follows playerSn s after := by
  have stored : Follows playerSn s { s with objects := s.objects.insert key obj } := by
    intro found there
    dsimp only at there
    rw [get_insert] at there
    split at there
    · rename_i same
      cases there
      rw [same]
      exact ⟨old, held, flags⟩
    · exact ⟨found, there, id⟩
  apply follows_trans stored
  rcases check_cases done with ⟨_, same⟩ | ⟨_, _, _, player, _, rfl⟩
  · exact follows_same (congrArg Proxy.objects same)
  · intro found there
    dsimp only at there ⊢
    rw [get_erase] at there
    split at there
    · cases there
    · exact ⟨found, there, id⟩

theorem follows_assigned {playerSn worldSn : UInt64} {s after : Proxy Proto} {key : UInt64}
    {obj : TeleportObject} (held : s.objects[key]? = some obj)
    (done : assignWorld worldSn s key obj = some after) : Follows playerSn s after := by
  have flags : FlagsSet obj → FlagsSet { obj with flagWorld := setValue worldSn } :=
    fun set => ⟨nofun, set.playerSync⟩
  exact follows_stored held flags done

theorem follows_turn {playerSn worldSn : UInt64} {worldId : Int} {s next : Proxy Proto}
    (turn : broadcastTurn worldId worldSn s = .inl next) : Follows playerSn s next := by
  unfold broadcastTurn at turn
  split at turn
  · cases turn
  · rename_i key obj found
    split at turn
    · cases turn
    · rename_i assigned
      cases turn
      exact follows_assigned (find_target_some found).1 assigned

theorem follows_broadcast {world : Int → Option WorldType} {fuel : Nat} {s after : Proxy Proto}
    {playerSn worldSn : UInt64} {worldId : Int}
    (done : handleBroadcastCreateWorldProxy world fuel s worldId worldSn = some (some after)) :
    Follows playerSn s after := by
  unfold handleBroadcastCreateWorldProxy at done
  split at done
  · cases done
  · have ended := loop_result (Follows playerSn s)
      (fun result => ∀ t, result = some t → Follows playerSn s t)
      (fun state next followed turn => follows_trans followed (follows_turn turn))
      (by
        rintro state result followed turn t rfl
        rcases broadcast_turn_exit turn with ⟨same, _⟩ | ⟨crashed, _⟩
        · cases same
          exact followed
        · cases crashed)
      fuel s (some after) (follows_refl playerSn s) done
    exact ended after rfl
  · split at done
    · cases done
      exact follows_refl playerSn s
    · rename_i key obj found
      exact follows_assigned (find_target_some found).1 (Option.some.inj done)
  · cases done
    exact follows_refl playerSn s

theorem follows_sync {playerSn other : UInt64} {s after : Proxy Proto}
    (done : broadcastSyncPlayer s other = some after) : Follows playerSn s after := by
  unfold broadcastSyncPlayer at done
  split at done
  · cases done
    exact follows_refl playerSn s
  · rename_i key obj found
    have flags : FlagsSet obj → FlagsSet { obj with flagPlayerSync := setValue true } :=
      fun set => ⟨set.world, nofun⟩
    exact follows_stored (find_if_some found).1 flags done

theorem follows_enter {world : Int → Option WorldType} {located playerSn : UInt64}
    {space : Option UInt64} {s : Proxy Proto} {player : Player Proto} {worldId : Int}
    (other : player.playerSn ≠ playerSn) :
    Follows playerSn s (handleC2GEnterWorld world located space s player worldId) := by
  unfold handleC2GEnterWorld
  split
  · exact follows_refl playerSn s
  · split
    · exact follows_refl playerSn s
    · rename_i kind _ _
      obtain ⟨obj, objects, _⟩ := create_teleport_object_flags kind located space s worldId player
      intro found held
      rw [objects, get_insert, if_neg other.symm] at held
      exact ⟨found, held, id⟩

theorem follows_step {world : Int → Option WorldType} {playerSn : UInt64} {before after : Proxy Proto}
    {event : Event Proto} (step : Guarded (proxyStep world) (Apart playerSn) before event after) :
    Follows playerSn before after := by
  obtain ⟨⟨_, taken⟩, apart⟩ := step
  cases event with
  | enterWorld identify worldId located space =>
      obtain ⟨player, found, rfl⟩ := taken
      exact follows_enter (apart player found)
  | syncPlayer identify proto =>
      obtain ⟨player, _, done⟩ := taken
      intro obj held
      exact follows_sync done obj held
  | broadcast worldId worldSn =>
      obtain ⟨fuel, done⟩ := taken
      exact follows_broadcast done
  | teleport message =>
      cases taken
      exact follows_same (handle_teleport_objects before message)
  | teleportAfter identify sn =>
      obtain ⟨player, _, rfl⟩ := taken
      exact follows_same rfl
  | disconnect identify =>
      cases taken
      exact follows_same (handle_disconnect_objects before identify)
  | dispose =>
      obtain ⟨_, rfl⟩ := taken
      intro obj held
      simp [WorldProxy.dispose] at held

theorem follows_run {world : Int → Option WorldType} {playerSn : UInt64} {s t : Proxy Proto}
    {events : List (Event Proto)}
    (run : Run (Guarded (proxyStep world) (Apart playerSn)) s events t) : Follows playerSn s t := by
  induction run with
  | refl state => exact follows_refl playerSn state
  | next taken _ ih => exact follows_trans (follows_step taken) ih

/-! ### The law -/

theorem absent_of_follows {playerSn : UInt64} {s t : Proxy Proto} (follows : Follows playerSn s t)
    (absent : s.objects[playerSn]? = none) : t.objects[playerSn]? = none := by
  cases held : t.objects[playerSn]? with
  | none => rfl
  | some obj =>
      obtain ⟨old, there, _⟩ := follows obj held
      rw [absent] at there
      cases there

theorem accepted_of_startable {world : Int → Option WorldType} {space : Option UInt64} {s : Proxy Proto}
    (player : Player Proto) {worldId : Int} (located : UInt64)
    (startable : Startable world space worldId) (free : s.objects[player.playerSn]? = none) :
    Accepted (handleC2GEnterWorld world located space s player worldId) player.playerSn worldId := by
  have idle : isTeleporting s player = false := by
    rw [isTeleporting, free]
    rfl
  unfold Startable at startable
  unfold handleC2GEnterWorld
  cases kind : world worldId with
  | none =>
      rw [kind] at startable
      cases startable
  | some kind' =>
      rw [kind] at startable
      dsimp only
      rw [idle]
      obtain ⟨obj, objects, target, flags⟩ :=
        create_teleport_object_flags kind' located space s worldId player
      refine ⟨obj, ?_, target, flags ?_⟩
      · rw [if_neg (by decide), objects, get_insert, if_pos rfl]
      · cases kind' with
        | publicWorld => exact Or.inl rfl
        | dungeon => exact Or.inr ⟨rfl, startable⟩
        | login => cases startable
        | roles => cases startable

theorem object_left {world : Int → Option WorldType} {kind : WorldType} (located : UInt64)
    (space : Option UInt64) (s : Proxy Proto) (player : Player Proto) {worldId : Int}
    (known : world worldId = some kind) :
    (handleC2GEnterWorld world located space s player worldId).objects[player.playerSn]? ≠ none := by
  unfold handleC2GEnterWorld
  rw [known]
  dsimp only
  by_cases teleporting : isTeleporting s player = true
  · rw [if_pos teleporting]
    exact Option.isSome_iff_ne_none.mp teleporting
  · rw [if_neg teleporting]
    obtain ⟨obj, objects, _⟩ := create_teleport_object_flags kind located space s worldId player
    rw [objects, get_insert, if_pos rfl]
    exact nofun

/-- The law holds of a wish just where it can be started, or names no world at all
while the player has no object. -/
theorem entry_law_iff (world : Int → Option WorldType) (located : UInt64) (space : Option UInt64)
    (s : Proxy Proto) (player : Player Proto) (worldId : Int) :
    EntryLaw world located space s player worldId ↔
      Startable world space worldId ∨
        world worldId = none ∧ s.objects[player.playerSn]? = none := by
  constructor
  · intro law
    by_cases startable : Startable world space worldId
    · exact Or.inl startable
    · apply Or.inr
      obtain ⟨absent, _⟩ := law.freed startable [] _ (Run.refl _)
      cases known : world worldId with
      | none =>
          refine ⟨rfl, ?_⟩
          rw [handleC2GEnterWorld, known] at absent
          exact absent
      | some kind => exact absurd absent (object_left located space s player known)
  · intro condition
    constructor
    · intro unstartable events t run
      obtain ⟨unknown, free⟩ := condition.resolve_left unstartable
      have same : handleC2GEnterWorld world located space s player worldId = s := by
        rw [handleC2GEnterWorld, unknown]
      rw [same] at run
      have absent := absent_of_follows (follows_run run) free
      refine ⟨absent, ?_⟩
      intro located' space' worldId' later sn startable
      rw [← sn] at absent ⊢
      exact accepted_of_startable _ located' startable absent
    · intro startable free
      have accepted := accepted_of_startable player located startable free
      refine ⟨accepted, ?_⟩
      intro events t run obj held
      obtain ⟨old, there, flags⟩ := follows_run run obj held
      obtain ⟨made, here, _, set⟩ := accepted
      rw [there] at here
      cases here
      exact flags set

/-- No space process for a dungeon: the player keeps an object whose world is
neither waited for nor known, and may not enter a public world either. -/
theorem failed_entry_blocks :
    ∃ (world : Int → Option WorldType) (s : Proxy Unit) (player : Player Unit),
      ¬ Startable world none 5 ∧ s.objects[player.playerSn]? = none ∧
      ((handleC2GEnterWorld world invalidId none
        (handleC2GEnterWorld world invalidId none s player 5) player 6).objects[player.playerSn]?.map
          fun obj => (obj.targetWorldId, obj.flagWorld.flag)) = some (5, .none) ∧
      Startable world none 6 ∧ ¬ EntryLaw world invalidId none s player 5 := by
  let world : Int → Option WorldType := fun worldId =>
    if worldId = 5 then some .dungeon else if worldId = 6 then some .publicWorld else none
  have unstartable : ¬ Startable world none 5 := fun startable => startable rfl
  refine ⟨world, create 1, ⟨[1], ⟨3, .tcpListen⟩, 7, ()⟩, unstartable, by decide,
    by decide, trivial, ?_⟩
  intro law
  have absent := (law.freed unstartable [] _ (Run.refl _)).1
  revert absent
  decide

end GameBook.WorldEntry
