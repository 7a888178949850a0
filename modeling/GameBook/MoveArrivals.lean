import GameBook.ParentCalls
import Mathlib.Data.List.Nodup

/-!
`MoveSystem` over the frames, at a component that has arrived. The component is
taken from its player at once and stays in the collection until the next turn of
the entities; it is called once in the frame in which it arrives, and never again.
-/

namespace GameBook.MoveArrivals

open GameBook.OrderedMap LabelledRun EntitySystem ComponentReturns ComponentLifecycle SystemFrames
  ParentCalls Std

def moveCalls (s : Space) (life : Nat) : Nat :=
  s.calls.countP fun call => call.caller = .moveSystem ∧ call.life = life

variable {types : Types}

/-! ### Who makes the calls -/

theorem acts_calls (actions : List Action) {before after : Space}
    (acts : Acts types actions before after) : after.calls = before.calls := by
  induction actions generalizing before with
  | nil => rw [show after = before from acts]
  | cons action rest ih =>
      obtain ⟨between, acted, later⟩ := acts
      rw [ih later]
      cases action with
      | add owner typeHash sn =>
          obtain ⟨_, entities, _, rfl⟩ := acted
          rfl
      | remove life =>
          obtain ⟨_, entities, _, rfl⟩ := acted
          rfl
      | syncPlayer player detail lastMap =>
          obtain ⟨_, _, entities, _, _, _, rfl⟩ := acted
          rfl
      | removePlayer player =>
          obtain ⟨_, entities, _, rfl⟩ := acted
          rfl
      | move player component =>
          obtain ⟨_, entities, _, rfl⟩ := acted
          rfl

theorem update_call_moves (s : Space) (called life : Nat) :
    moveCalls (call types .updateSystem s called) life = moveCalls s life := by
  simp [moveCalls, call, List.countP_append]

theorem updated_each_moves {callbacks : Nat → List Action} (lives : List Nat) {before after : Space}
    (done : UpdatedEach types callbacks lives before after) (life : Nat) :
    moveCalls after life = moveCalls before life := by
  induction lives generalizing before with
  | nil => rw [show after = before from done]
  | cons first rest ih =>
      obtain ⟨between, acts, later⟩ := done
      have own : moveCalls between life = moveCalls (call types .updateSystem before first) life := by
        rw [moveCalls, acts_calls _ acts]
        rfl
      rw [ih later, own, update_call_moves]

theorem move_turn_calls (stops : Nat → Bool) (s : Space) (called : Nat) :
    (moveTurn types stops s called).calls = (call types .moveSystem s called).calls := by
  unfold moveTurn
  split
  · rfl
  · split <;> rfl

theorem move_turn_moves (stops : Nat → Bool) (s : Space) (called life : Nat) :
    moveCalls (moveTurn types stops s called) life =
      moveCalls s life + if called = life then 1 else 0 := by
  rw [moveCalls, move_turn_calls]
  by_cases same : called = life <;> simp [moveCalls, call, List.countP_append, same]

theorem move_each_moves (stops : Nat → Bool) (lives : List Nat) (s : Space) (life : Nat) :
    moveCalls (moveEach types stops lives s) life = moveCalls s life + lives.count life := by
  induction lives generalizing s with
  | nil => rfl
  | cons first rest ih =>
      rw [moveEach, List.foldl_cons]
      refine (ih _).trans ?_
      rw [move_turn_moves, List.count_cons]
      simp only [beq_iff_eq]
      omega

theorem objs_once {s : EntitySystem} (formed : Formed none s) (typeHash life : Nat) :
    (objsOf s typeHash).count life ≤ 1 := by
  revert life
  rw [← List.nodup_iff_count_le_one, objsOf]
  cases held : s.objSystems[typeHash]? with
  | none => exact List.nodup_nil
  | some collections =>
      -- a component is stored under its own number
      have own : ∀ entry ∈ collections.objs.toList, entry.2 = entry.1 := by
        rintro ⟨sn, object⟩ listed
        have inside := ExtTreeMap.mem_toList_iff_getElem?_eq_some.mp listed
        have there : heldIn s typeHash sn = some object := by
          rw [heldIn, held, Option.bind_some, ComponentCollections.held, inside]
          rfl
        exact ((formed.held typeHash sn object).mp there).1
      rw [Option.map_some, Option.getD_some, List.map_congr_left own, List.Nodup, List.pairwise_map]
      apply List.Pairwise.imp _ ExtTreeMap.ordered_keys_toList
      intro left right less
      exact Nat.ne_of_lt (Nat.compare_eq_lt.mp less)

/-! ### A component on its way back -/

theorem back_steady {s t : EntitySystem} (steady : Steady s t) {life : Nat} (back : Back s life) :
    Back t life := by
  obtain ⟨component, found, zero⟩ := back
  obtain ⟨now, there, same, _⟩ := steady.stays life component found
  exact ⟨now, there, same.trans zero⟩

theorem back_not_listed {s : EntitySystem} (formed : Formed none s) {life : Nat}
    (back : Back s life) (typeHash : Nat) : life ∉ objsOf s typeHash := by
  intro listed
  obtain ⟨component, found, zero⟩ := back
  obtain ⟨other, there, _, live⟩ := objs_alive formed typeHash life listed
  rw [found] at there
  cases there
  exact (formed.named life component found).1 (live.symm.trans zero)

structure Frames (types : Types) (before : Space) (frame : Frame) (after called : Space) : Prop where
  sound : Sound types called
  goes : ∀ life, Doomed before.entities life → Back called.entities life
  moves : ∀ life, moveCalls called life = moveCalls before life
  ends : after = if frame.due then
    moveEach types frame.stops (objsOf called.entities types.move) called else called

theorem frame_parts {before after : Space} {frame : Frame} (sound : Sound types before)
    (step : frameStep types before frame after) : ∃ called, Frames types before frame after called := by
  obtain ⟨others, updated, acted, swapped, called, done, acts, swap, each, ends⟩ := step
  obtain ⟨_, _, backs⟩ := updated_spec sound.kept.formed done
  have one : Sound types { before with entities := updated } := updated_sound sound others done
  obtain ⟨two, steady, _⟩ := acts_sound frame.messages one acts
  obtain ⟨formed, kept, empty⟩ := swapped_spec two.kept.formed swap
  have three : Sound types { acted with entities := swapped } := swapped_sound two swap
  obtain ⟨four, steady', _⟩ := updated_each_sound (objsOf swapped types.update) three
    (owners_live_of_empty formed empty) (objs_alive formed types.update) each
  refine ⟨called, four, ?_, ?_, ends⟩
  · intro life doomed
    exact back_steady steady' (kept.back life (back_steady steady (backs life doomed)))
  · intro life
    rw [updated_each_moves _ each, moveCalls, acts_calls _ acts]
    rfl

/-- `RemoveComponent` of the type: who was on the way back still is, and the
component that the player had is now. -/
theorem removed_type_doomed {s : Space} {p : Nat} {player : Component} (sound : Sound types s)
    (found : s.entities.components[p]? = some player) :
    (∀ life, Doomed s.entities life → Doomed (removeType s.entities p types.move) life) ∧
      ∀ life, getComponent s.entities p types.move = some life →
        Doomed (removeType s.entities p types.move) life := by
  have formed := sound.kept.formed
  rw [removeType]
  cases slot : getComponent s.entities p types.move with
  | none =>
      refine ⟨fun _ doomed => doomed, ?_⟩
      intro life impossible
      cases impossible
  | some life =>
      rw [getComponent, found, Option.bind_some] at slot
      obtain ⟨component, there, own, type, live⟩ := formed.slots p player types.move life found slot
      have current : ∀ held, player.components[component.typeHash]? = some held → held = life := by
        intro held here
        rw [type, slot] at here
        exact (Option.some.inj here).symm
      obtain ⟨next, keeps⟩ := removed_through formed there live own found current
      refine ⟨keeps.doomed, ?_⟩
      rintro _ ⟨⟩
      have asked : (life, s.entities.updates) ∈ (removeFrom s.entities life).requested := by
        rw [remove_from_slot formed there own found]
        exact List.mem_append_right _ List.mem_cons_self
      exact (next.asked life _ asked).2

theorem move_turn_doomed (stops : Nat → Bool) {s : Space} {called : Nat} (sound : Sound types s)
    (alive : AliveOf types.move [called] s.entities) :
    (∀ life, Doomed s.entities life → Doomed (moveTurn types stops s called).entities life) ∧
      (stops called = true → Doomed (moveTurn types stops s called).entities called) := by
  obtain ⟨component, found, type, live⟩ := alive called List.mem_cons_self
  obtain ⟨p, player, own, there, _⟩ := sound.moves called component found type
  have owner : ownerOf s.entities called = some p := by
    rw [ownerOf, found]
    exact own
  obtain ⟨keeps, removed⟩ := removed_type_doomed sound there
  have turn : (moveTurn types stops s called).entities =
      if stops called then removeType s.entities p types.move else s.entities := by
    rw [moveTurn, owner]
    dsimp only
    split <;> rfl
  rw [turn]
  constructor
  · intro life doomed
    split
    · exact keeps life doomed
    · exact doomed
  · intro stopped
    rw [if_pos stopped]
    rcases sound.kept.formed.owned called component p found live own with
      ⟨entity, here, _, slot⟩ | listed
    · -- its player has it: it is removed now
      rw [there] at here
      cases here
      apply removed
      rw [getComponent, there, Option.bind_some, ← type]
      exact slot
    · exact keeps called ⟨component, found, Or.inr listed⟩

theorem move_each_doomed (stops : Nat → Bool) (lives : List Nat) {s : Space}
    (sound : Sound types s) (alive : AliveOf types.move lives s.entities) :
    (∀ life, Doomed s.entities life → Doomed (moveEach types stops lives s).entities life) ∧
      ∀ life ∈ lives, stops life = true →
        Doomed (moveEach types stops lives s).entities life := by
  induction lives generalizing s with
  | nil =>
      refine ⟨fun _ doomed => doomed, ?_⟩
      intro life impossible
      cases impossible
  | cons first rest ih =>
      have own : AliveOf types.move [first] s.entities := fun other member =>
        alive other (List.mem_cons.mpr (Or.inl (List.mem_singleton.mp member)))
      obtain ⟨middle, steady, _⟩ := move_turn_sound stops sound own
      obtain ⟨kept, stopped⟩ := move_turn_doomed stops sound own
      obtain ⟨later, arrived⟩ := ih middle
        (alive_steady (fun other member => alive other (List.mem_cons_of_mem _ member)) steady)
      refine ⟨fun life doomed => later life (kept life doomed), ?_⟩
      intro life member stop
      rcases List.mem_cons.mp member with rfl | further
      · exact later life (stopped stop)
      · exact arrived life further stop

/-! ### Frames -/

theorem doomed_frame {before after : Space} {frame : Frame} (sound : Sound types before)
    (step : frameStep types before frame after) {life : Nat} (doomed : Doomed before.entities life) :
    Doomed after.entities life ∧ moveCalls after life = moveCalls before life := by
  obtain ⟨called, parts⟩ := frame_parts sound step
  have formed := parts.sound.kept.formed
  have back := parts.goes life doomed
  have still : Doomed called.entities life := back.imp fun _ gone => ⟨gone.1, Or.inl gone.2⟩
  rw [parts.ends]
  split
  · obtain ⟨kept, _⟩ := move_each_doomed frame.stops (objsOf called.entities types.move) parts.sound
      (objs_alive formed types.move)
    refine ⟨kept life still, ?_⟩
    rw [move_each_moves, List.count_eq_zero_of_not_mem (back_not_listed formed back types.move),
      Nat.add_zero, parts.moves]
  · exact ⟨still, parts.moves life⟩

theorem arrival_frame {before after : Space} {frame : Frame} (sound : Sound types before)
    (step : frameStep types before frame after) {life : Nat}
    (called : moveCalls after life ≠ moveCalls before life) :
    moveCalls after life = moveCalls before life + 1 ∧
      (frame.stops life = true → Doomed after.entities life) := by
  obtain ⟨between, parts⟩ := frame_parts sound step
  have formed := parts.sound.kept.formed
  have moves := parts.moves life
  rw [parts.ends] at called ⊢
  split at called
  · rename_i due
    rw [if_pos due]
    have once := objs_once formed types.move life
    rw [move_each_moves] at called ⊢
    have listed : 0 < (objsOf between.entities types.move).count life := by omega
    refine ⟨by omega, ?_⟩
    intro stop
    exact (move_each_doomed frame.stops _ parts.sound (objs_alive formed types.move)).2 life
      (List.count_pos_iff.mp listed) stop
  · exact absurd moves called

theorem arrived_not_called {trace later : List Frame} {before after last : Space} {frame : Frame}
    {life : Nat} (run : Run (frameStep types) SystemFrames.start trace before)
    (step : frameStep types before frame after) (rest : Run (frameStep types) after later last)
    (called : moveCalls after life ≠ moveCalls before life) (stops : frame.stops life = true) :
    moveCalls after life = moveCalls before life + 1 ∧
      moveCalls last life = moveCalls after life := by
  have sound : Sound types before :=
    run_invariant (Sound types) (fun _ _ _ sound step => (frame_sound sound step).1) run
      (sound_start types)
  obtain ⟨once, doomed⟩ := arrival_frame sound step called
  refine ⟨once, ?_⟩
  have kept : (Sound types last ∧ Doomed last.entities life) ∧
      moveCalls last life = moveCalls after life := by
    apply run_invariant (fun s => (Sound types s ∧ Doomed s.entities life) ∧
      moveCalls s life = moveCalls after life) _ rest
    · exact ⟨⟨(frame_sound sound step).1, doomed stops⟩, rfl⟩
    · rintro s frame t ⟨⟨sound, doomed⟩, same⟩ step
      obtain ⟨still, calls⟩ := doomed_frame sound step doomed
      exact ⟨⟨(frame_sound sound step).1, still⟩, calls.trans same⟩
  exact kept.2

end GameBook.MoveArrivals
