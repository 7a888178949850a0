import GameBook.PacketLife

/-!
How a packet gets back to the free list: an update of the pool marks it once
every message system is done with it, the next update moves it. Both need the
serial numbers of the packets in use to differ.
-/

namespace GameBook.PacketReturn

open GameBook.LabelledRun GameBook.CacheSwap GameBook.PacketPool GameBook.PacketLife

variable {System : Type}

def beginsUpdate : Event System → Bool
  | .updateBegin => true
  | _ => false

variable [Fintype System] [DecidableEq System]

structure Kept (before after : World System) (address : Nat) : Prop where
  inUse : InUse after.pool address
  number : (after.pool.packets address).sn = (before.pool.packets address).sn
  life : after.lives address = before.lives address
  isOpen : (before.pool.packets address).isRefOpen = true →
    (after.pool.packets address).isRefOpen = true
  removes : (before.pool.packets address).sn ∈ before.pool.objInUse.removes →
    (before.pool.packets address).sn ∈ after.pool.objInUse.removes

omit [Fintype System] [DecidableEq System] in
theorem kept_of_same {before after : World System} {address : Nat}
    (used : InUse before.pool address) (pool : after.pool.packets = before.pool.packets)
    (cache : after.pool.objInUse = before.pool.objInUse) (lives : after.lives = before.lives) :
    Kept before after address := by
  refine ⟨?_, by rw [pool], by rw [lives], by rw [pool]; exact id, by rw [cache]; exact id⟩
  unfold InUse
  rw [pool, cache]
  exact used

omit [Fintype System] [DecidableEq System] in
theorem kept_of_set_packet {before after : World System} {address place : Nat} {changed : Packet}
    (used : InUse before.pool address) (pool : after.pool = setPacket before.pool place changed)
    (lives : after.lives = before.lives) (number : changed.sn = (before.pool.packets place).sn)
    (flag : (before.pool.packets place).isRefOpen = true → changed.isRefOpen = true) :
    Kept before after address := by
  refine ⟨?_, ?_, by rw [lives], ?_, by rw [pool]; exact id⟩
  · rw [pool]
    exact (set_packet_in_use before.pool place changed number address).mpr used
  · rw [pool]
    exact set_packet_sn before.pool place changed number address
  · rw [pool]
    intro isOpen
    by_cases here : address = place
    · subst here
      exact (congrArg Packet.isRefOpen (Function.update_self _ _ _)).trans (flag isOpen)
    · exact (congrArg Packet.isRefOpen (Function.update_of_ne here _ _)).trans isOpen

omit [Fintype System] [DecidableEq System] in
theorem kept_of_free {before after : World System} {address place : Nat}
    (used : InUse before.pool address) (pool : after.pool = freeObject before.pool place)
    (lives : after.lives = before.lives) : Kept before after address := by
  by_cases numbered : (before.pool.packets place).sn = 0
  · have same : freeObject before.pool place = before.pool := if_pos numbered
    rw [same] at pool
    exact kept_of_same used (by rw [pool]) (by rw [pool]) lives
  · have freed : freeObject before.pool place =
        { before.pool with
          objInUse := removeObj before.pool.objInUse (before.pool.packets place).sn } :=
      if_neg numbered
    rw [freed] at pool
    refine ⟨?_, by rw [pool], by rw [lives], by rw [pool]; exact id, ?_⟩
    · rw [pool]
      exact used
    · rw [pool]
      exact fun member => List.mem_append_left _ member

omit [Fintype System] [DecidableEq System] in
theorem kept_of_malloc {before after : World System} {address place : Nat} (unused : FreshSN before.pool)
    (used : InUse before.pool address) (new : Malloced before.pool place after.pool)
    (lives : after.lives = Function.update before.lives place (before.lives place + 1)) :
    Kept before after address := by
  have different : address ≠ place := fun clash => new.unused (clash ▸ used)
  have same := new.others address different
  have number : (before.pool.packets address).sn ≠ mallocSN before.pool := by
    intro clash
    unfold InUse at used
    rw [clash, unused.2] at used
    cases used
  refine ⟨?_, by rw [same], ?_, by rw [same]; exact id, by rw [new.removes]; exact id⟩
  · unfold InUse
    rw [same, new.entry, if_neg number]
    exact used
  · rw [lives, Function.update_of_ne different]

theorem step_kept {before after : World System} {event : Event System} {address : Nat}
    (sound : SoundWorld before) (step : Guarded Step Fresh before event after)
    (used : InUse before.pool address) (notBegin : event ≠ .updateBegin) :
    Kept before after address := by
  obtain ⟨step, fresh⟩ := step
  cases step with
  | updateTime tick => exact kept_of_same used rfl rfl rfl
  | generateSN => exact kept_of_same used rfl rfl rfl
  | malloc place pool unlocked taken =>
      exact kept_of_malloc fresh used (malloc_packet_spec _ sound.keyed fresh taken) rfl
  | free place unlocked inUse own => exact kept_of_free used rfl rfl
  | dispatch place inUse own => exact kept_of_same used rfl rfl rfl
  | dispatcherBegin queue moved => exact kept_of_same used rfl rfl rfl
  | dispatcherHandOver item targets queue moved => exact kept_of_same used rfl rfl rfl
  | dispatcherClear queue moved => exact kept_of_same used rfl rfl rfl
  | distribute item system rest work next =>
      exact kept_of_set_packet used rfl rfl rfl id
  | openRef item queue work finished moved =>
      exact kept_of_set_packet used rfl rfl rfl fun _ => rfl
  | systemBegin system queue moved => exact kept_of_same used rfl rfl rfl
  | systemHandOver system item queue moved => exact kept_of_same used rfl rfl rfl
  | systemClear system queue moved => exact kept_of_same used rfl rfl rfl
  | systemLeave system item queue work moved =>
      exact kept_of_set_packet used rfl rfl rfl id
  | updateBegin unlocked => exact absurd rfl notBegin
  | updateVisit place rest locked =>
      by_cases ready : canBack2Pool (before.pool.packets place)
      · exact kept_of_free used (if_pos ready) rfl
      · have same : visit before.pool place = before.pool := if_neg ready
        exact kept_of_same used (congrArg Pool.packets same) (congrArg Pool.objInUse same) rfl
  | updateEnd locked => exact kept_of_same used rfl rfl rfl

/-- Opened, current and in no message system any more. -/
structure Finished (world : World System) (item : Handle) : Prop where
  inUse : InUse world.pool item.address
  current : item = handle world.lives item.address
  isOpen : (world.pool.packets item.address).isRefOpen = true
  left : ∀ system, item ∉ holding (world.systems system)

omit [Fintype System] in
theorem update_absent {systems : System → DrainQueue Handle} {item : Handle}
    (absent : ∀ system, item ∉ holding (systems system)) {system : System}
    {queue : DrainQueue Handle} (out : item ∉ holding queue) (other : System) :
    item ∉ holding (Function.update systems system queue other) := by
  intro member
  rcases update_holding member with new | old
  · exact out new
  · exact absent other old

theorem step_left {before after : World System} {event : Event System} {item : Handle}
    (sound : SoundWorld before) (step : Step before event after) (finished : Finished before item) :
    ∀ system, item ∉ holding (after.systems system) := by
  have absent := finished.left
  cases step with
  | updateTime tick => exact absent
  | generateSN => exact absent
  | malloc place pool unlocked taken => exact absent
  | free place unlocked inUse own => exact absent
  | dispatch place inUse own => exact absent
  | dispatcherBegin queue moved => exact absent
  | dispatcherHandOver other targets queue moved => exact absent
  | dispatcherClear queue moved => exact absent
  | distribute other system rest work next =>
      -- what is distributed has not been opened
      have inList : other ∈ holding before.dispatcher := by simp [holding, work]
      have role := (sound.dispatching other inList).2.2
      have opened := (sound.opened item.address finished.inUse).mp finished.isOpen
      apply update_absent absent
      rw [enqueue_holding messageSystem (before.systems system) other (sound.systemFormed system)]
      intro member
      rcases List.mem_append.mp member with old | new
      · exact absent system old
      · have same : item = other := by simpa [messageSystem] using new
        rw [← same, opened] at role
        cases role
  | openRef other queue work done moved => exact absent
  | systemBegin system queue moved =>
      cases moved with
      | beginDrain outside =>
          apply update_absent absent
          rw [begin_drain_holding messageSystem _ (sound.systemFormed system) outside]
          exact absent system
  | systemHandOver system other queue moved =>
      cases moved with
      | handOver iter _ test stored =>
          apply update_absent absent
          rw [hand_over_holding _ iter other test stored]
          exact absent system
  | systemClear system queue moved =>
      cases moved with
      | clear iter test done =>
          apply update_absent absent
          rw [clear_holding _ (sound.systemFormed system) iter test done]
          exact absent system
  | systemLeave system other queue work moved =>
      cases moved with
      | next iter inside =>
          apply update_absent absent
          intro member
          apply absent system
          rw [next_holding _ iter other inside work]
          exact List.mem_cons_of_mem other member
  | updateBegin unlocked => exact absent
  | updateVisit place rest locked => exact absent
  | updateEnd locked => exact absent

theorem step_finished {before after : World System} {event : Event System} {item : Handle}
    (sound : SoundWorld before) (step : Guarded Step Fresh before event after)
    (finished : Finished before item) (notBegin : event ≠ .updateBegin) : Finished after item := by
  have kept := step_kept sound step finished.inUse notBegin
  refine ⟨kept.inUse, ?_, kept.isOpen finished.isOpen, step_left sound step.1 finished⟩
  have current := finished.current
  simp only [handle] at current ⊢
  rw [kept.life]
  exact current

/-- How many updates of the pool a finished packet still needs: two, one when
its number is to be removed or the running update has still to reach it, none
once it has been moved. -/
inductive Remaining (world : World System) (item : Handle) : Nat → Prop where
  | moved : item ∈ world.moved → Remaining world item 0
  | marked : Finished world item →
      (world.pool.packets item.address).sn ∈ world.pool.objInUse.removes → Remaining world item 1
  | visiting (rest : List Nat) : Finished world item → world.updating = some rest →
      item.address ∈ rest → Remaining world item 1
  | waiting : Finished world item → Remaining world item 2

omit [Fintype System] in
theorem step_moved {before after : World System} {event : Event System} {item : Handle}
    (step : Step before event after) (old : item ∈ before.moved) : item ∈ after.moved := by
  cases step with
  | updateBegin unlocked => exact List.mem_append_left _ old
  | _ => exact old

omit [DecidableEq System] in
theorem finished_ready {world : World System} {item : Handle} (sound : SoundWorld world)
    (finished : Finished world item) :
    canBack2Pool (world.pool.packets item.address) = true := by
  have count := sound.counted item.address finished.inUse
  rw [← finished.current, references_zero world.systems item finished.left] at count
  simp [canBack2Pool, finished.isOpen, count]

theorem begin_remaining {before after : World System} {item : Handle} {count : Nat}
    (sound : SoundWorld before) (step : Step before .updateBegin after)
    (remaining : Remaining before item count) : ∃ later ≤ count - 1, Remaining after item later := by
  cases step with
  | updateBegin unlocked =>
      have spec := refresh_spec before.pool sound.keyed
      have moves : Finished before item →
          (before.pool.packets item.address).sn ∈ before.pool.objInUse.removes →
          item ∈ before.moved ++ (recycled before.pool).map (handle before.lives) := by
        intro finished removed
        have gone := (spec.mem item.address).mpr ⟨_, removed, finished.inUse⟩
        rw [finished.current]
        exact List.mem_append_right _ (List.mem_map_of_mem gone)
      cases remaining with
      | moved old => exact ⟨0, Nat.zero_le _, .moved (List.mem_append_left _ old)⟩
      | marked finished removed => exact ⟨0, Nat.zero_le _, .moved (moves finished removed)⟩
      | visiting rest finished locked member =>
          rw [unlocked] at locked
          cases locked
      | waiting finished =>
          by_cases removed : (before.pool.packets item.address).sn ∈ before.pool.objInUse.removes
          · exact ⟨0, Nat.zero_le _, .moved (moves finished removed)⟩
          · have stays : item.address ∉ recycled before.pool := by
              intro gone
              obtain ⟨sn, marked, held⟩ := (spec.mem item.address).mp gone
              exact removed ((sound.keyed.entry sn _ held).1 ▸ marked)
            have used : InUse (refresh before.pool) item.address :=
              in_use_refreshed sound.keyed finished.inUse stays
            have listed : item.address ∈ visited (refresh before.pool) :=
              (mem_visited _ _).mpr ⟨_, spec.objs _ _ used⟩
            refine ⟨1, Nat.le_refl _, .visiting _ ⟨used, finished.current, ?_, finished.left⟩ rfl listed⟩
            exact (spec.count item.address).2.trans finished.isOpen

theorem other_remaining {before after : World System} {event : Event System} {item : Handle}
    {count : Nat} (sound : SoundWorld before) (step : Guarded Step Fresh before event after)
    (notBegin : event ≠ .updateBegin) (remaining : Remaining before item count) :
    ∃ later ≤ count, Remaining after item later := by
  have lasting := fun finished : Finished before item =>
    step_finished sound step finished notBegin
  have kept := fun finished : Finished before item =>
    step_kept sound step finished.inUse notBegin
  cases remaining with
  | moved old => exact ⟨0, Nat.le_refl _, .moved (step_moved step.1 old)⟩
  | marked finished removed =>
      refine ⟨1, Nat.le_refl _, .marked (lasting finished) ?_⟩
      rw [(kept finished).number]
      exact (kept finished).removes removed
  | waiting finished => exact ⟨2, Nat.le_refl _, .waiting (lasting finished)⟩
  | visiting rest finished locked member =>
      have later := lasting finished
      obtain ⟨taken, _⟩ := step
      cases taken with
      | updateVisit address others stands =>
          obtain rfl := Option.some.inj (locked.symm.trans stands)
          rcases List.mem_cons.mp member with here | further
          · -- the loop stands at the packet and marks it
            have ready := finished_ready sound finished
            rw [here] at ready
            have freed : visit before.pool address = freeObject before.pool address := if_pos ready
            have used := finished.inUse
            rw [here] at used
            rw [free_object_in_use before.pool sound.keyed address used] at freed
            refine ⟨1, Nat.le_refl _, .marked later ?_⟩
            simp only [freed, here]
            exact List.mem_append_right _ (List.mem_singleton.mpr rfl)
          · exact ⟨1, Nat.le_refl _, .visiting others later rfl further⟩
      | updateEnd stands =>
          obtain rfl := Option.some.inj (locked.symm.trans stands)
          cases member
      | updateBegin unlocked => exact absurd rfl notBegin
      | _ => exact ⟨1, Nat.le_refl _, .visiting rest later locked member⟩

theorem run_remaining {trace : List (Event System)} {before after : World System} {item : Handle}
    {count : Nat} (run : Run (Guarded Step Fresh) before trace after) (sound : SoundWorld before)
    (remaining : Remaining before item count) :
    ∃ later ≤ count - (trace.filter beginsUpdate).length, Remaining after item later := by
  induction run generalizing count with
  | refl => exact ⟨count, Nat.le_refl _, remaining⟩
  | @next before middle after event rest step _ ih =>
      have kept := step_sound before event middle sound step
      cases turn : beginsUpdate event with
      | true =>
          have begins : event = .updateBegin := by
            cases event <;> first | rfl | cases turn
          subst begins
          obtain ⟨next, lower, there⟩ := begin_remaining sound step.1 remaining
          obtain ⟨later, bound, reached⟩ := ih kept there
          refine ⟨later, ?_, reached⟩
          rw [List.filter_cons, if_pos turn, List.length_cons]
          omega
      | false =>
          have notBegin : event ≠ .updateBegin := by
            rintro rfl
            cases turn
          obtain ⟨next, lower, there⟩ := other_remaining sound step notBegin remaining
          obtain ⟨later, bound, reached⟩ := ih kept there
          refine ⟨later, ?_, reached⟩
          rw [List.filter_cons, if_neg (by simp [turn])]
          omega

/-! ### The lifetime law -/

theorem moved_unreferenced {before after : World System} {event : Event System} {item : Handle}
    (sound : SoundWorld before) (step : Step before event after) (here : item ∈ after.moved)
    (new : item ∉ before.moved) :
    (before.pool.packets item.address).ref = 0 ∧
      ∀ system, item ∉ holding (before.systems system) := by
  cases step with
  | updateBegin unlocked =>
      obtain ⟨address, gone, rfl⟩ :=
        List.mem_map.mp ((List.mem_append.mp here).resolve_left new)
      obtain ⟨used, _, _, absent⟩ := recycled_idle sound gone
      have left : ∀ system, handle before.lives address ∉ holding (before.systems system) :=
        fun system member => absent system _ member rfl
      have count := sound.counted address used
      rw [references_zero before.systems _ left] at count
      exact ⟨count, left⟩
  | _ => exact absurd here new

/-- Where no packet is made under the number of a packet in use: a packet is
moved to the free list only when its count is zero and no message system has
it, and once in a life; what a message system has queued or in process has not
been moved; what has been opened and left by all is moved by the second update
of the pool that begins after that; and what has been moved is free until it
is handed out again. -/
theorem packet_lifetime (global : Global) {trace : List (Event System)} {world : World System}
    (run : Run (Guarded Step Fresh) (start global) trace world) :
    (∀ event after, Step world event after → ∀ item ∈ after.moved, item ∉ world.moved →
      (world.pool.packets item.address).ref = 0 ∧
        ∀ system, item ∉ holding (world.systems system)) ∧
    world.moved.Nodup ∧
    (∀ system, ∀ item ∈ holding (world.systems system), item ∉ world.moved ∧
      item = handle world.lives item.address ∧ Live world.pool item.address) ∧
    (∀ item, item = handle world.lives item.address →
      (world.pool.packets item.address).isRefOpen = true →
      (∀ system, item ∉ holding (world.systems system)) →
      ∀ later after, Run (Guarded Step Fresh) world later after →
        2 ≤ (later.filter beginsUpdate).length → item ∈ after.moved) ∧
    (∀ item ∈ world.moved, item.address ∈ world.pool.free ∨ item.life < world.lives item.address) := by
  have sound := run_sound run (start_sound global)
  refine ⟨?_, sound.movedOnce, ?_, ?_, ?_⟩
  · intro event after step item here new
    exact moved_unreferenced sound step here new
  · intro system item member
    obtain ⟨used, itself, _⟩ := sound.queued system item member
    exact ⟨fun gone => (sound.movedPast item gone).2.2 itself used, itself,
      in_use_live sound.keyed used⟩
  · intro item itself isOpen left later after continued enough
    have due : ∃ count ≤ 2, Remaining world item count := by
      by_cases used : InUse world.pool item.address
      · exact ⟨2, Nat.le_refl _, .waiting ⟨used, itself, isOpen, left⟩⟩
      · have gone := sound.reopened item.address used isOpen
        rw [← itself] at gone
        exact ⟨0, Nat.zero_le _, .moved gone⟩
    obtain ⟨count, small, remaining⟩ := due
    obtain ⟨rest, bound, reached⟩ := run_remaining continued sound remaining
    have none : rest = 0 := by omega
    rw [none] at reached
    cases reached with
    | moved gone => exact gone
  · intro item member
    obtain ⟨made, life, gone⟩ := sound.movedPast item member
    by_cases again : item.life = world.lives item.address
    · left
      have itself : item = handle world.lives item.address := by
        rw [handle, ← again]
      rcases sound.keyed.covered item.address made with free | used
      · exact free
      · exact absurd used (gone itself)
    · exact Or.inr (Nat.lt_of_le_of_ne life again)

def firstMade (global : Global) : World Unit :=
  { (start global : World Unit) with
    pool := mallocAt (refillFree (newPool global)) 0 (List.range' 1 49)
    lives := Function.update (start global : World Unit).lives 0
      ((start global : World Unit).lives 0 + 1)
    roles := Function.update (start global : World Unit).roles 0 .held }

theorem first_made (global : Global) :
    Step (start global) (.malloc 0) (firstMade global) := by
  have empty : (newPool global).free = [] := rfl
  have front : (refillFree (newPool global)).free = 0 :: List.range' 1 49 := by
    rw [refillFree, if_pos empty, create_many_free]
    rfl
  have taken := malloc_packet_front front
  exact Step.malloc (start global) 0 _ rfl taken

/-- The consumer may be done with a packet before the dispatcher opens it. -/
theorem packet_lifetime_once :
    ∃ (trace later : List (Event Unit)) (world after : World Unit),
      Run (Guarded Step Fresh) (start ⟨1700000000000, 1, 1⟩) trace world ∧
      Run (Guarded Step Fresh) world later after ∧ ⟨0, 1⟩ ∉ world.moved ∧ ⟨0, 1⟩ ∈ after.moved := by
  have made := first_made ⟨1700000000000, 1, 1⟩
  have fresh : Fresh (start ⟨1700000000000, 1, 1⟩ : World Unit) (.malloc 0) :=
    ⟨by decide, by decide⟩
  have used : ∃ (trace : List (Event Unit)) (world : World Unit),
      Run (Guarded Step Fresh) (start ⟨1700000000000, 1, 1⟩) trace world ∧
      ⟨0, 1⟩ ∉ world.moved ∧ (⟨0, 1⟩ : Handle) = handle world.lives 0 ∧
      (world.pool.packets 0).isRefOpen = true ∧
      (∀ system, (⟨0, 1⟩ : Handle) ∉ holding (world.systems system)) ∧
      ∃ (later : List (Event Unit)) (after : World Unit),
        Run (Guarded Step Fresh) world later after ∧ 2 ≤ (later.filter beginsUpdate).length := by
    refine ⟨_, _, .next ⟨made, fresh⟩
      (.next ⟨.dispatch _ 0 ⟨by decide, by decide⟩ rfl, trivial⟩
      (.next ⟨.dispatcherBegin _ _ (.beginDrain _ rfl), trivial⟩
      (.next ⟨.dispatcherHandOver _ ⟨0, 1⟩ [()] _ (.handOver _ 0 _ rfl rfl), trivial⟩
      (.next ⟨.distribute _ ⟨0, 1⟩ () [] rfl rfl, trivial⟩
      (.next ⟨.systemBegin _ () _ (.beginDrain _ rfl), trivial⟩
      (.next ⟨.systemHandOver _ () ⟨0, 1⟩ _ (.handOver _ 0 _ rfl rfl), trivial⟩
      (.next ⟨.systemLeave _ () ⟨0, 1⟩ _ rfl (.next _ 0 rfl), trivial⟩
      (.next ⟨.openRef _ ⟨0, 1⟩ _ rfl rfl (.next _ 0 rfl), trivial⟩ (.refl _))))))))),
      by decide, rfl, rfl, by decide, _, _,
      .next ⟨.updateBegin _ rfl, trivial⟩ (.next ⟨.updateVisit _ 0 [] ?_, trivial⟩
      (.next ⟨.updateEnd _ rfl, trivial⟩ (.next ⟨.updateBegin _ rfl, trivial⟩ (.refl _)))), ?_⟩
    · decide
    · decide
  obtain ⟨trace, world, run, notYet, current, isOpen, left, later, after, continued, enough⟩ := used
  exact ⟨trace, later, world, after, run, continued, notYet,
    (packet_lifetime _ run).2.2.2.1 ⟨0, 1⟩ current isOpen left later after continued enough⟩

def drawn (world : World System) (count : Nat) : World System :=
  { world with
    pool := { world.pool with
      global := { world.pool.global with
        snTicket := (world.pool.global.snTicket + count) % 65536 } } }

omit [Fintype System] in
theorem run_draws (count : Nat) (world : World System) :
    Run Step (drawn world 0) (List.replicate count .generateSN) (drawn world count) := by
  induction count with
  | zero => exact Run.refl _
  | succ count ih =>
      rw [List.replicate_succ']
      apply run_snoc ih
      have next : drawn world (count + 1) =
          { drawn world count with
            pool := { (drawn world count).pool with
              global := (generateSN (drawn world count).pool.global).2 } } := by
        simp [drawn, generateSN, Nat.add_assoc]
      rw [next]
      exact Step.generateSN _

/-- The ticket of a serial number has sixteen bits: with 65535 numbers drawn in
between and the same time slot, a second packet gets the number of the first.
Freed by the network, it takes the first one from the message system that has
it queued. -/
theorem ticket_wrap_moves_queued_packet :
    ∃ (trace : List (Event Unit)) (world after : World Unit),
      Run Step (start ⟨1700000000000, 1, 1⟩) trace world ∧ Step world .updateBegin after ∧
      ⟨0, 1⟩ ∈ after.moved ∧ ⟨0, 1⟩ ∉ world.moved ∧ (world.pool.packets 0).ref = 1 ∧
      (⟨0, 1⟩ : Handle) ∈ holding (world.systems ()) := by
  have made := first_made ⟨1700000000000, 1, 1⟩
  have same : drawn (firstMade ⟨1700000000000, 1, 1⟩) 0 = firstMade ⟨1700000000000, 1, 1⟩ := rfl
  rw [← same] at made
  refine ⟨_, _, _, run_append (.next made (.refl _))
    (run_append (run_draws 65535 _)
      (.next (.malloc _ 1 _ rfl rfl)
      (.next (.free _ 1 rfl ⟨by decide, by decide⟩ rfl)
      (.next (.dispatch _ 0 ⟨by decide, by decide⟩ rfl)
      (.next (.dispatcherBegin _ _ (.beginDrain _ rfl))
      (.next (.dispatcherHandOver _ ⟨0, 1⟩ [()] _ (.handOver _ 0 _ rfl rfl))
      (.next (.distribute _ ⟨0, 1⟩ () [] rfl rfl) (.refl _)))))))),
    .updateBegin _ rfl, ?_, ?_, ?_, ?_⟩
  · decide
  · decide
  · decide
  · decide

end GameBook.PacketReturn
