import Mathlib.Algebra.Order.BigOperators.Group.Finset
import GameBook.CacheSwap
import GameBook.PacketPool

/-!
The life of a packet handed to `ThreadMgr::DispatchPacket`: the dispatcher puts
it into message systems, each of which drains its own queue, while the pool
takes back what is open and counted down to zero. The steps are single lock
sections and single accesses to the count, in any order.
-/

namespace GameBook.PacketLife

open GameBook.LabelledRun GameBook.CacheSwap GameBook.PacketPool

/-- A pointer to a packet, told apart by the life of the object it was taken in. -/
structure Handle where
  address : Nat
  life : Nat
  deriving DecidableEq, Repr

/-- Who answers for an object in use: the code that made it, the network thread
that has freed it, the dispatcher, or the message systems. -/
inductive Role where
  | held
  | released
  | dispatched
  | opened
  deriving DecidableEq, Repr

/-- `updating` is the rest of the loop of `DynamicPacketPool::Update`, which
keeps the lock of the pool; `targets` is the rest of the distribution of the
packet the dispatcher stands at. -/
structure World (System : Type) where
  pool : Pool
  updating : Option (List Nat)
  dispatcher : DrainQueue Handle
  targets : List System
  systems : System → DrainQueue Handle
  lives : Nat → Nat
  roles : Nat → Role
  moved : List Handle

variable {System : Type}

def start (global : Global) : World System :=
  { pool := newPool global
    updating := none
    dispatcher := newQueue
    targets := []
    systems := fun _ => newQueue
    lives := fun _ => 0
    roles := fun _ => .held
    moved := [] }

def handle (lives : Nat → Nat) (address : Nat) : Handle := ⟨address, lives address⟩

inductive Event (System : Type) where
  | updateTime (tick : Nat)
  | generateSN
  | malloc (address : Nat)
  | free (address : Nat)
  | dispatch (address : Nat)
  | dispatcher (act : Act Handle)
  | distribute (system : System)
  | system (system : System) (act : Act Handle)
  | updateBegin
  | updateVisit
  | updateEnd

inductive Step [DecidableEq System] : World System → Event System → World System → Prop where
  | updateTime (world : World System) (tick : Nat) :
      Step world (.updateTime tick)
        { world with pool := { world.pool with global := { world.pool.global with timeTick := tick } } }
  -- every other object of the process draws its number from the same ticket
  | generateSN (world : World System) :
      Step world .generateSN
        { world with pool := { world.pool with global := (generateSN world.pool.global).2 } }
  | malloc (world : World System) (address : Nat) (pool : Pool) (unlocked : world.updating = none)
      (taken : mallocPacket world.pool = some (address, pool)) :
      Step world (.malloc address)
        { world with
          pool := pool
          lives := Function.update world.lives address (world.lives address + 1)
          roles := Function.update world.roles address .held }
  -- a packet that goes to the network is freed there instead of dispatched
  | free (world : World System) (address : Nat) (unlocked : world.updating = none)
      (live : Live world.pool address) (own : world.roles address = .held) :
      Step world (.free address)
        { world with
          pool := freeObject world.pool address
          roles := Function.update world.roles address .released }
  | dispatch (world : World System) (address : Nat) (live : Live world.pool address)
      (own : world.roles address = .held) :
      Step world (.dispatch address)
        { world with
          dispatcher := enqueue threadMgr world.dispatcher (handle world.lives address)
          roles := Function.update world.roles address .dispatched }
  | dispatcherBegin (world : World System) (queue : DrainQueue Handle)
      (step : QueueStep threadMgr world.dispatcher .beginDrain queue) :
      Step world (.dispatcher .beginDrain) { world with dispatcher := queue }
  | dispatcherHandOver (world : World System) (item : Handle) (targets : List System)
      (queue : DrainQueue Handle) (step : QueueStep threadMgr world.dispatcher (.handOver item) queue) :
      Step world (.dispatcher (.handOver item)) { world with dispatcher := queue, targets := targets }
  | dispatcherClear (world : World System) (queue : DrainQueue Handle)
      (step : QueueStep threadMgr world.dispatcher .clear queue) :
      Step world (.dispatcher .clear) { world with dispatcher := queue }
  -- `AddPacketToList`: append and count under the lock of the message system
  | distribute (world : World System) (item : Handle) (system : System) (rest : List System)
      (work : inBody world.dispatcher = some item) (next : world.targets = system :: rest) :
      Step world (.distribute system)
        { world with
          pool := setPacket world.pool item.address (addRef (world.pool.packets item.address))
          targets := rest
          systems := Function.update world.systems system (enqueue messageSystem (world.systems system) item) }
  | openRef (world : World System) (item : Handle) (queue : DrainQueue Handle)
      (work : inBody world.dispatcher = some item) (finished : world.targets = [])
      (step : QueueStep threadMgr world.dispatcher .next queue) :
      Step world (.dispatcher .next)
        { world with
          pool := setPacket world.pool item.address (openRef (world.pool.packets item.address))
          dispatcher := queue
          roles := Function.update world.roles item.address .opened }
  | systemBegin (world : World System) (system : System) (queue : DrainQueue Handle)
      (step : QueueStep messageSystem (world.systems system) .beginDrain queue) :
      Step world (.system system .beginDrain)
        { world with systems := Function.update world.systems system queue }
  | systemHandOver (world : World System) (system : System) (item : Handle)
      (queue : DrainQueue Handle)
      (step : QueueStep messageSystem (world.systems system) (.handOver item) queue) :
      Step world (.system system (.handOver item))
        { world with systems := Function.update world.systems system queue }
  | systemClear (world : World System) (system : System) (queue : DrainQueue Handle)
      (step : QueueStep messageSystem (world.systems system) .clear queue) :
      Step world (.system system .clear)
        { world with systems := Function.update world.systems system queue }
  -- the handlers have run: the packet leaves with `RemoveRef`
  | systemLeave (world : World System) (system : System) (item : Handle)
      (queue : DrainQueue Handle) (work : inBody (world.systems system) = some item)
      (step : QueueStep messageSystem (world.systems system) .next queue) :
      Step world (.system system .next)
        { world with
          pool := setPacket world.pool item.address (removeRef (world.pool.packets item.address))
          systems := Function.update world.systems system queue }
  | updateBegin (world : World System) (unlocked : world.updating = none) :
      Step world .updateBegin
        { world with
          pool := refresh world.pool
          updating := some (visited (refresh world.pool))
          moved := world.moved ++ (recycled world.pool).map (handle world.lives) }
  | updateVisit (world : World System) (address : Nat) (rest : List Nat)
      (locked : world.updating = some (address :: rest)) :
      Step world .updateVisit
        { world with pool := visit world.pool address, updating := some rest }
  | updateEnd (world : World System) (locked : world.updating = some []) :
      Step world .updateEnd { world with updating := none }

def Fresh (world : World System) : Event System → Prop
  | .malloc _ => FreshSN world.pool
  | _ => True

/-! ### References -/

def references [Fintype System] (systems : System → DrainQueue Handle) (item : Handle) : Nat :=
  ∑ system, (holding (systems system)).count item

section References

variable [Fintype System] [DecidableEq System]

theorem references_update (systems : System → DrainQueue Handle) (system : System)
    (queue : DrainQueue Handle) (item : Handle) :
    references (Function.update systems system queue) item + (holding (systems system)).count item =
      references systems item + (holding queue).count item := by
  have split : ∀ queues : System → DrainQueue Handle,
      references queues item = (holding (queues system)).count item +
          ∑ other ∈ Finset.univ.erase system, (holding (queues other)).count item := by
    intro queues
    exact (Finset.add_sum_erase _ _ (Finset.mem_univ system)).symm
  have elsewhere : ∑ other ∈ Finset.univ.erase system,
        (holding (Function.update systems system queue other)).count item =
      ∑ other ∈ Finset.univ.erase system, (holding (systems other)).count item := by
    refine Finset.sum_congr rfl ?_
    intro other member
    rw [Function.update_of_ne (Finset.ne_of_mem_erase member)]
  rw [split, split systems, elsewhere, Function.update_self]
  omega

omit [DecidableEq System] in
theorem references_pos (systems : System → DrainQueue Handle) (system : System) (item : Handle)
    (queued : item ∈ holding (systems system)) : 0 < references systems item := by
  have positive := List.count_pos_iff.mpr queued
  have below := Finset.single_le_sum (f := fun other => (holding (systems other)).count item)
    (fun _ _ => Nat.zero_le _) (Finset.mem_univ system)
  exact Nat.lt_of_lt_of_le positive below

omit [DecidableEq System] in
theorem references_zero (systems : System → DrainQueue Handle) (item : Handle)
    (absent : ∀ system, item ∉ holding (systems system)) : references systems item = 0 :=
  Finset.sum_eq_zero fun system _ => List.count_eq_zero.mpr (absent system)

end References

/-! ### The invariant -/

section Sound

variable [Fintype System]

/-- The count of a packet is the number of places that have it, and each of
the lists speaks of packets in the stage of their life that belongs there. -/
structure Sound (pool : Pool) (updating : Option (List Nat)) (dispatcher : DrainQueue Handle)
    (systems : System → DrainQueue Handle) (lives : Nat → Nat) (roles : Nat → Role)
    (moved : List Handle) : Prop where
  keyed : Keyed pool
  dispatcherFormed : WellFormed dispatcher
  systemFormed : ∀ system, WellFormed (systems system)
  dispatching : ∀ item ∈ holding dispatcher, InUse pool item.address ∧
    item = handle lives item.address ∧ roles item.address = .dispatched
  dispatchOnce : (holding dispatcher).Nodup
  queued : ∀ system, ∀ item ∈ holding (systems system), InUse pool item.address ∧
    item = handle lives item.address ∧
      (roles item.address = .dispatched ∨ roles item.address = .opened)
  counted : ∀ address, InUse pool address →
    (pool.packets address).ref = references systems (handle lives address)
  opened : ∀ address, InUse pool address →
    ((pool.packets address).isRefOpen = true ↔ roles address = .opened)
  marked : ∀ sn ∈ pool.objInUse.removes, ∀ address, entry pool.objInUse sn = some address →
    roles address = .released ∨ roles address = .opened ∧ (pool.packets address).ref = 0
  visiting : ∀ rest, updating = some rest →
    rest.Nodup ∧ ∀ address ∈ rest, Unmarked pool address
  movedOnce : moved.Nodup
  movedPast : ∀ item ∈ moved, item.address < pool.created ∧ item.life ≤ lives item.address ∧
    (item = handle lives item.address → ¬InUse pool item.address)
  reopened : ∀ address, ¬InUse pool address → (pool.packets address).isRefOpen = true →
    handle lives address ∈ moved

def SoundWorld (world : World System) : Prop :=
  Sound world.pool world.updating world.dispatcher world.systems world.lives world.roles world.moved

theorem start_sound (global : Global) : SoundWorld (start global : World System) := by
  have unused : ∀ address, ¬InUse (newPool global) address := by
    intro address used
    have small := ((new_keyed global).entry _ address used).2.2.2
    cases small
  constructor
  · exact new_keyed global
  · exact new_well_formed
  · intro _
    exact new_well_formed
  · intro item member
    cases member
  · exact List.nodup_nil
  · intro system item member
    cases member
  · intro address used
    exact absurd used (unused address)
  · intro address used
    exact absurd used (unused address)
  · intro sn member
    cases member
  · intro rest locked
    cases locked
  · exact List.nodup_nil
  · intro item member
    cases member
  · intro address _ isOpen
    cases isOpen

variable {pool : Pool} {updating : Option (List Nat)} {dispatcher : DrainQueue Handle}
  {systems : System → DrainQueue Handle} {lives : Nat → Nat} {roles : Nat → Role}
  {moved : List Handle}

/-- A packet that a message system still has is not about to be moved. -/
theorem queued_unmarked (sound : Sound pool updating dispatcher systems lives roles moved)
    {system : System} {item : Handle} (member : item ∈ holding (systems system)) :
    Unmarked pool item.address := by
  obtain ⟨used, same, stage⟩ := sound.queued system item member
  refine ⟨used, ?_⟩
  intro removed
  rcases sound.marked _ removed item.address used with released | ⟨_, zero⟩
  · rw [released] at stage
    rcases stage with impossible | impossible <;> cases impossible
  · have positive := references_pos systems system item member
    have count := sound.counted item.address used
    rw [zero, ← same] at count
    omega

theorem unopened_unmarked (sound : Sound pool updating dispatcher systems lives roles moved)
    {address : Nat} (used : InUse pool address)
    (early : roles address = .held ∨ roles address = .dispatched) : Unmarked pool address := by
  refine ⟨used, ?_⟩
  intro removed
  rcases sound.marked _ removed address used with released | ⟨opened, _⟩
  · rw [released] at early
    rcases early with impossible | impossible <;> cases impossible
  · rw [opened] at early
    rcases early with impossible | impossible <;> cases impossible

/-! ### One step -/

theorem sound_global (sound : Sound pool updating dispatcher systems lives roles moved)
    (global : Global) :
    Sound { pool with global := global } updating dispatcher systems lives roles moved := by
  obtain ⟨entry, apart, once, made, covered, removesOnce, removesHeld, beyond⟩ := sound.keyed
  refine ⟨⟨entry, apart, once, made, covered, removesOnce, removesHeld, beyond⟩,
    sound.dispatcherFormed, sound.systemFormed, sound.dispatching, sound.dispatchOnce,
    sound.queued, sound.counted, sound.opened, sound.marked, ?_, sound.movedOnce,
    sound.movedPast, sound.reopened⟩
  intro rest locked
  obtain ⟨distinct, unmarked⟩ := sound.visiting rest locked
  refine ⟨distinct, ?_⟩
  intro address member
  exact ⟨(unmarked address member).inUse, (unmarked address member).unmarked⟩

theorem sound_dispatcher (sound : Sound pool updating dispatcher systems lives roles moved)
    {queue : DrainQueue Handle} (formed : WellFormed queue)
    (same : holding queue = holding dispatcher) :
    Sound pool updating queue systems lives roles moved := by
  refine ⟨sound.keyed, formed, sound.systemFormed, ?_, ?_, sound.queued, sound.counted,
    sound.opened, sound.marked, sound.visiting, sound.movedOnce, sound.movedPast, sound.reopened⟩
  · intro item member
    exact sound.dispatching item (same ▸ member)
  · rw [same]
    exact sound.dispatchOnce

theorem sound_dispatch (sound : Sound pool updating dispatcher systems lives roles moved)
    {address : Nat} (used : InUse pool address) (own : roles address = .held) :
    Sound pool updating (enqueue threadMgr dispatcher (handle lives address)) systems lives
      (Function.update roles address .dispatched) moved := by
  have holds : holding (enqueue threadMgr dispatcher (handle lives address)) =
      holding dispatcher ++ [handle lives address] :=
    enqueue_holding threadMgr dispatcher (handle lives address) sound.dispatcherFormed
  have formed := enqueue_well_formed threadMgr dispatcher (handle lives address)
    sound.dispatcherFormed
  -- a packet that the lists know is past being held by its maker
  have known : ∀ other, roles other ≠ .held →
      Function.update roles address .dispatched other = roles other := by
    intro other past
    have different : other ≠ address := fun same => past (same ▸ own)
    exact Function.update_of_ne different _ _
  refine ⟨sound.keyed, formed, sound.systemFormed, ?_, ?_, ?_, sound.counted, ?_, ?_,
    sound.visiting, sound.movedOnce, sound.movedPast, sound.reopened⟩
  · intro item member
    rw [holds] at member
    rcases List.mem_append.mp member with old | new
    · obtain ⟨inUse, same, role⟩ := sound.dispatching item old
      rw [known _ (by rw [role]; decide)]
      exact ⟨inUse, same, role⟩
    · rw [List.mem_singleton.mp new]
      exact ⟨used, rfl, Function.update_self _ _ _⟩
  · rw [holds]
    refine List.nodup_append.mpr ⟨sound.dispatchOnce, List.nodup_singleton _, ?_⟩
    intro item old other new same
    rw [same, List.mem_singleton.mp new] at old
    have role : roles address = .dispatched := (sound.dispatching _ old).2.2
    rw [own] at role
    cases role
  · intro system item member
    obtain ⟨inUse, same, stage⟩ := sound.queued system item member
    have past : roles item.address ≠ .held := by
      rcases stage with role | role <;> rw [role] <;> decide
    rw [known _ past]
    exact ⟨inUse, same, stage⟩
  · intro other inUse
    have flag := sound.opened other inUse
    by_cases here : other = address
    · subst here
      rw [own] at flag
      rw [flag, Function.update_self]
      decide
    · rw [Function.update_of_ne here]
      exact flag
  · intro sn removed other held
    have stage := sound.marked sn removed other held
    have past : roles other ≠ .held := by
      rcases stage with role | ⟨role, _⟩ <;> rw [role] <;> decide
    rw [known other past]
    exact stage

theorem sound_set_packet (sound : Sound pool updating dispatcher systems lives roles moved)
    {address : Nat} (changed : Packet) {queue : DrainQueue Handle}
    {queues : System → DrainQueue Handle} {stages : Nat → Role}
    (target : Unmarked pool address) (number : changed.sn = (pool.packets address).sn)
    (formed : WellFormed queue) (systemFormed : ∀ system, WellFormed (queues system))
    (dispatching : ∀ item ∈ holding queue, InUse pool item.address ∧
      item = handle lives item.address ∧ stages item.address = .dispatched)
    (once : (holding queue).Nodup)
    (queued : ∀ system, ∀ item ∈ holding (queues system), InUse pool item.address ∧
      item = handle lives item.address ∧
        (stages item.address = .dispatched ∨ stages item.address = .opened))
    (count : changed.ref = references queues (handle lives address))
    (counts : ∀ other, other ≠ address →
      references queues (handle lives other) = references systems (handle lives other))
    (flag : changed.isRefOpen = true ↔ stages address = .opened)
    (others : ∀ other, other ≠ address → stages other = roles other) :
    Sound (setPacket pool address changed) updating queue queues lives stages moved := by
  have small := (sound.keyed.entry _ _ target.inUse).2.2.2
  have inUse := set_packet_in_use pool address changed number
  have here : (setPacket pool address changed).packets address = changed :=
    Function.update_self _ _ _
  have there : ∀ other, other ≠ address →
      (setPacket pool address changed).packets other = pool.packets other :=
    fun other different => Function.update_of_ne different _ _
  refine ⟨set_packet_keyed pool sound.keyed address changed small number, formed, systemFormed,
    ?_, once, ?_, ?_, ?_, ?_, ?_, sound.movedOnce, ?_, ?_⟩
  · intro item member
    obtain ⟨used, same, stage⟩ := dispatching item member
    exact ⟨(inUse _).mpr used, same, stage⟩
  · intro system item member
    obtain ⟨used, same, stage⟩ := queued system item member
    exact ⟨(inUse _).mpr used, same, stage⟩
  · intro other used
    by_cases same : other = address
    · subst same
      rw [here]
      exact count
    · rw [there other same, counts other same]
      exact sound.counted other ((inUse other).mp used)
  · intro other used
    by_cases same : other = address
    · subst same
      rw [here]
      exact flag
    · rw [there other same, others other same]
      exact sound.opened other ((inUse other).mp used)
  · intro sn removed other held
    have different : other ≠ address := by
      rintro rfl
      exact target.unmarked ((sound.keyed.entry sn other held).1.symm ▸ removed)
    rw [there other different, others other different]
    exact sound.marked sn removed other held
  · intro rest locked
    obtain ⟨distinct, unmarked⟩ := sound.visiting rest locked
    refine ⟨distinct, ?_⟩
    intro other member
    exact set_packet_unmarked pool address changed number (unmarked other member)
  · intro item member
    obtain ⟨made, life, gone⟩ := sound.movedPast item member
    exact ⟨made, life, fun same again => gone same ((inUse _).mp again)⟩
  · intro other unused isOpen
    have outside : ¬InUse pool other := fun again => unused ((inUse other).mpr again)
    have different : other ≠ address := fun same => outside (same ▸ target.inUse)
    rw [there other different] at isOpen
    exact sound.reopened other outside isOpen

theorem references_other (queues : System → DrainQueue Handle) [DecidableEq System]
    (system : System) (queue : DrainQueue Handle) {item other : Handle} (different : other ≠ item)
    (change : holding queue = holding (queues system) ++ [item] ∨
      holding (queues system) = item :: holding queue) :
    references (Function.update queues system queue) other = references queues other := by
  have update := references_update queues system queue other
  rcases change with joined | left
  · rw [joined, List.count_append, List.count_singleton,
      if_neg (by simpa using different.symm)] at update
    omega
  · rw [left, List.count_cons, if_neg (by simpa using different.symm)] at update
    omega

theorem handle_other {first second : Nat} (different : first ≠ second) :
    handle lives first ≠ handle lives second :=
  fun same => different (congrArg Handle.address same)

end Sound

section Move

variable [Fintype System] [DecidableEq System] {pool : Pool} {updating : Option (List Nat)}
  {dispatcher : DrainQueue Handle} {systems : System → DrainQueue Handle} {lives : Nat → Nat}
  {roles : Nat → Role} {moved : List Handle}

omit [Fintype System] in
theorem update_formed (formed : ∀ system, WellFormed (systems system)) (system : System)
    {queue : DrainQueue Handle} (new : WellFormed queue) (other : System) :
    WellFormed (Function.update systems system queue other) := by
  by_cases here : other = system
  · subst here
    rw [Function.update_self]
    exact new
  · rw [Function.update_of_ne here]
    exact formed other

omit [Fintype System] in
theorem update_holding {system other : System} {queue : DrainQueue Handle} {item : Handle}
    (member : item ∈ holding (Function.update systems system queue other)) :
    item ∈ holding queue ∨ item ∈ holding (systems other) := by
  by_cases here : other = system
  · subst here
    rw [Function.update_self] at member
    exact Or.inl member
  · rw [Function.update_of_ne here] at member
    exact Or.inr member

theorem sound_system (sound : Sound pool updating dispatcher systems lives roles moved)
    (system : System) {queue : DrainQueue Handle} (formed : WellFormed queue)
    (same : holding queue = holding (systems system)) :
    Sound pool updating dispatcher (Function.update systems system queue) lives roles moved := by
  refine ⟨sound.keyed, sound.dispatcherFormed, update_formed sound.systemFormed system formed,
    sound.dispatching, sound.dispatchOnce, ?_, ?_, sound.opened, sound.marked, sound.visiting,
    sound.movedOnce, sound.movedPast, sound.reopened⟩
  · intro other item member
    rcases update_holding member with new | old
    · exact sound.queued system item (same ▸ new)
    · exact sound.queued other item old
  · intro address used
    have update := references_update systems system queue (handle lives address)
    rw [same] at update
    rw [sound.counted address used, Nat.add_right_cancel update]

theorem sound_distribute (sound : Sound pool updating dispatcher systems lives roles moved)
    {item : Handle} (system : System) (work : inBody dispatcher = some item) :
    Sound (setPacket pool item.address (addRef (pool.packets item.address))) updating dispatcher
      (Function.update systems system (enqueue messageSystem (systems system) item)) lives roles
      moved := by
  have inList : item ∈ holding dispatcher := by simp [holding, work]
  obtain ⟨used, itself, role⟩ := sound.dispatching item inList
  have holds : holding (enqueue messageSystem (systems system) item) =
      holding (systems system) ++ [item] :=
    enqueue_holding messageSystem (systems system) item (sound.systemFormed system)
  have formed := enqueue_well_formed messageSystem (systems system) item (sound.systemFormed system)
  apply sound_set_packet sound (addRef (pool.packets item.address))
    (unopened_unmarked sound used (Or.inr role)) rfl sound.dispatcherFormed
    (update_formed sound.systemFormed system formed) sound.dispatching sound.dispatchOnce
  · intro place other member
    rcases update_holding member with new | old
    · rw [holds] at new
      rcases List.mem_append.mp new with queued | added
      · exact sound.queued system other queued
      · rw [List.mem_singleton.mp added]
        exact ⟨used, itself, Or.inl role⟩
    · exact sound.queued place other old
  · have count := sound.counted item.address used
    have update := references_update systems system
      (enqueue messageSystem (systems system) item) item
    rw [holds, List.count_append, List.count_singleton_self] at update
    rw [← itself] at count ⊢
    simp only [addRef, count]
    omega
  · intro other different
    exact references_other systems system _ (itself ▸ handle_other different) (Or.inl holds)
  · exact sound.opened item.address used
  · intro other _
    rfl

omit [DecidableEq System] in
theorem sound_open (sound : Sound pool updating dispatcher systems lives roles moved)
    {item : Handle} {queue : DrainQueue Handle} (formed : WellFormed queue)
    (left : holding dispatcher = item :: holding queue) :
    Sound (setPacket pool item.address (openRef (pool.packets item.address))) updating queue systems
      lives (Function.update roles item.address .opened) moved := by
  have inList : item ∈ holding dispatcher := left ▸ List.mem_cons_self
  obtain ⟨used, itself, role⟩ := sound.dispatching item inList
  have once := sound.dispatchOnce
  rw [left] at once
  obtain ⟨gone, others⟩ := List.nodup_cons.mp once
  apply sound_set_packet sound (openRef (pool.packets item.address))
    (unopened_unmarked sound used (Or.inr role)) rfl formed sound.systemFormed
  · intro other member
    obtain ⟨otherUsed, same, stage⟩ :=
      sound.dispatching other (left ▸ List.mem_cons_of_mem item member)
    have different : other.address ≠ item.address := by
      intro clash
      rw [same, clash, ← itself] at member
      exact gone member
    rw [Function.update_of_ne different]
    exact ⟨otherUsed, same, stage⟩
  · exact others
  · intro system other member
    obtain ⟨otherUsed, same, stage⟩ := sound.queued system other member
    refine ⟨otherUsed, same, ?_⟩
    by_cases here : other.address = item.address
    · rw [here, Function.update_self]
      exact Or.inr rfl
    · rw [Function.update_of_ne here]
      exact stage
  · exact sound.counted item.address used
  · intro other _
    rfl
  · rw [Function.update_self]
    simp [openRef]
  · intro other different
    exact Function.update_of_ne different _ _

theorem sound_leave (sound : Sound pool updating dispatcher systems lives roles moved)
    {item : Handle} (system : System) {queue : DrainQueue Handle} (formed : WellFormed queue)
    (left : holding (systems system) = item :: holding queue) :
    Sound (setPacket pool item.address (removeRef (pool.packets item.address))) updating dispatcher
      (Function.update systems system queue) lives roles moved := by
  have inList : item ∈ holding (systems system) := left ▸ List.mem_cons_self
  obtain ⟨used, itself, _⟩ := sound.queued system item inList
  apply sound_set_packet sound (removeRef (pool.packets item.address))
    (queued_unmarked sound inList) rfl sound.dispatcherFormed
    (update_formed sound.systemFormed system formed) sound.dispatching sound.dispatchOnce
  · intro place other member
    rcases update_holding member with new | old
    · exact sound.queued system other (left ▸ List.mem_cons_of_mem item new)
    · exact sound.queued place other old
  · have count := sound.counted item.address used
    have update := references_update systems system queue item
    rw [left, List.count_cons_self] at update
    rw [← itself] at count ⊢
    simp only [removeRef, count]
    omega
  · intro other different
    exact references_other systems system _ (itself ▸ handle_other different) (Or.inr left)
  · exact sound.opened item.address used
  · intro other _
    rfl

end Move

section Pool

variable [Fintype System] {pool : Pool} {updating : Option (List Nat)}
  {dispatcher : DrainQueue Handle} {systems : System → DrainQueue Handle} {lives : Nat → Nat}
  {roles : Nat → Role} {moved : List Handle}

theorem queued_not (sound : Sound pool updating dispatcher systems lives roles moved)
    {address : Nat} (unused : ¬InUse pool address) :
    (∀ item ∈ holding dispatcher, item.address ≠ address) ∧
      ∀ system, ∀ item ∈ holding (systems system), item.address ≠ address := by
  constructor
  · intro item member same
    exact unused (same ▸ (sound.dispatching item member).1)
  · intro system item member same
    exact unused (same ▸ (sound.queued system item member).1)

theorem malloced_in_use {pool after : Pool} {address other : Nat} (new : Malloced pool address after)
    (fresh : FreshSN pool) (different : other ≠ address) : InUse after other ↔ InUse pool other := by
  unfold InUse
  rw [new.others other different, new.entry]
  split
  · rename_i clash
    rw [clash, fresh.2]
    constructor
    · intro here
      exact absurd (Option.some.inj here).symm different
    · intro impossible
      cases impossible
  · exact Iff.rfl

theorem handle_next (lives : Nat → Nat) {address other : Nat} (different : other ≠ address) :
    handle (Function.update lives address (lives address + 1)) other = handle lives other := by
  rw [handle, Function.update_of_ne different]
  rfl

/-! A refresh keeps the packets in use that it does not recycle, and no others. -/

theorem in_use_refreshed {pool : Pool} (keyed : Keyed pool) {address : Nat}
    (used : InUse pool address) (here : address ∉ recycled pool) : InUse (refresh pool) address := by
  have spec := refresh_spec pool keyed
  unfold InUse
  rw [spec.others address here, spec.entry, if_neg]
  · exact used
  · intro removed
    exact here ((spec.mem address).mpr ⟨_, removed, used⟩)

theorem refreshed_in_use {pool : Pool} (keyed : Keyed pool) {sn address : Nat}
    (held : entry (refresh pool).objInUse sn = some address) :
    InUse pool address ∧ address ∉ recycled pool := by
  have spec := refresh_spec pool keyed
  rw [spec.entry] at held
  split at held
  · cases held
  · rename_i outside
    refine ⟨entry_in_use keyed held, ?_⟩
    intro gone
    obtain ⟨other, removed, target⟩ := (spec.mem address).mp gone
    exact outside (entry_single keyed sn other address held target ▸ removed)

theorem sound_malloc (sound : Sound pool updating dispatcher systems lives roles moved)
    {address : Nat} {after : Pool} (unlocked : updating = none)
    (new : Malloced pool address after) (fresh : FreshSN pool) :
    Sound after updating dispatcher systems
      (Function.update lives address (lives address + 1)) (Function.update roles address .held)
      moved := by
  obtain ⟨notDispatching, notQueued⟩ := queued_not sound new.unused
  have inUse : ∀ other, other ≠ address → (InUse after other ↔ InUse pool other) :=
    fun _ => malloced_in_use new fresh
  have same : ∀ other, other ≠ address →
      handle (Function.update lives address (lives address + 1)) other = handle lives other :=
    fun _ => handle_next lives
  refine ⟨new.keyed, sound.dispatcherFormed, sound.systemFormed, ?_, sound.dispatchOnce, ?_, ?_, ?_,
    ?_, ?_, sound.movedOnce, ?_, ?_⟩
  · intro item member
    obtain ⟨used, itself, role⟩ := sound.dispatching item member
    have different := notDispatching item member
    rw [inUse _ different, same _ different, Function.update_of_ne different]
    exact ⟨used, itself, role⟩
  · intro system item member
    obtain ⟨used, itself, stage⟩ := sound.queued system item member
    have different := notQueued system item member
    rw [inUse _ different, same _ different, Function.update_of_ne different]
    exact ⟨used, itself, stage⟩
  · intro other used
    by_cases here : other = address
    · subst here
      have absent : ∀ system, handle (Function.update lives other (lives other + 1)) other ∉
          holding (systems system) := fun system member => notQueued system _ member rfl
      rw [new.given, references_zero systems _ absent]
      rfl
    · rw [new.others other here, same other here]
      exact sound.counted other ((inUse other here).mp used)
  · intro other used
    by_cases here : other = address
    · subst here
      rw [new.given, Function.update_self]
      constructor <;> intro impossible <;> cases impossible
    · rw [new.others other here, Function.update_of_ne here]
      exact sound.opened other ((inUse other here).mp used)
  · intro sn removed other held
    rw [new.removes] at removed
    have old := new.entry sn
    obtain ⟨place, known⟩ := sound.keyed.removesHeld sn removed
    have number : sn ≠ mallocSN pool := by
      intro clash
      rw [clash, fresh.2] at known
      cases known
    rw [if_neg number] at old
    rw [old] at held
    have different : other ≠ address := fun clash =>
      new.unused (clash ▸ entry_in_use sound.keyed held)
    rw [new.others other different, Function.update_of_ne different]
    exact sound.marked sn removed other held
  · intro rest locked
    rw [unlocked] at locked
    cases locked
  · intro item member
    obtain ⟨made, life, gone⟩ := sound.movedPast item member
    refine ⟨Nat.lt_of_lt_of_le made new.created, ?_, ?_⟩
    · by_cases here : item.address = address
      · rw [here] at life ⊢
        rw [Function.update_self]
        exact Nat.le_succ_of_le life
      · rw [Function.update_of_ne here]
        exact life
    · intro itself used
      by_cases here : item.address = address
      · have later := congrArg Handle.life itself
        simp only [handle, here, Function.update_self] at later
        rw [here] at life
        omega
      · rw [same _ here] at itself
        exact gone itself ((inUse _ here).mp used)
  · intro other unused isOpen
    have different : other ≠ address := by
      rintro rfl
      rw [new.given] at isOpen
      cases isOpen
    rw [new.others other different] at isOpen
    rw [same other different]
    exact sound.reopened other (fun used => unused ((inUse other different).mpr used)) isOpen

theorem sound_free (sound : Sound pool updating dispatcher systems lives roles moved)
    {address : Nat} {left : Option (List Nat)} {stages : Nat → Role} (target : Unmarked pool address)
    (stage : stages address = .released ∨
      stages address = .opened ∧ (pool.packets address).ref = 0)
    (others : ∀ other, other ≠ address → stages other = roles other)
    (flag : stages address = .opened ↔ roles address = .opened)
    (quiet : stages address = roles address ∨ roles address = .held)
    (visiting : ∀ rest, left = some rest → rest.Nodup ∧
      ∀ other ∈ rest, other ≠ address ∧ Unmarked pool other) :
    Sound (freeObject pool address) left dispatcher systems lives stages moved := by
  have keyed := free_object_keyed pool sound.keyed address target
  rw [free_object_in_use pool sound.keyed address target.inUse] at keyed ⊢
  -- the lists only know packets that are dispatched or opened
  have known : ∀ other, roles other ≠ .held → stages other = roles other := by
    intro other past
    by_cases here : other = address
    · subst here
      exact quiet.resolve_right past
    · exact others other here
  refine ⟨keyed, sound.dispatcherFormed, sound.systemFormed, ?_, sound.dispatchOnce, ?_,
    sound.counted, ?_, ?_, ?_, sound.movedOnce, sound.movedPast, sound.reopened⟩
  · intro item member
    obtain ⟨used, itself, role⟩ := sound.dispatching item member
    rw [known _ (by rw [role]; decide)]
    exact ⟨used, itself, role⟩
  · intro system item member
    obtain ⟨used, itself, later⟩ := sound.queued system item member
    have past : roles item.address ≠ .held := by
      rcases later with role | role <;> rw [role] <;> decide
    rw [known _ past]
    exact ⟨used, itself, later⟩
  · intro other used
    by_cases here : other = address
    · subst here
      rw [flag]
      exact sound.opened other used
    · rw [others other here]
      exact sound.opened other used
  · intro sn removed other held
    rcases List.mem_append.mp removed with old | new
    · have before := sound.marked sn old other held
      have past : roles other ≠ .held := by
        rcases before with role | ⟨role, _⟩ <;> rw [role] <;> decide
      rw [known other past]
      exact before
    · rw [List.mem_singleton.mp new] at held
      obtain rfl : other = address := Option.some.inj (held.symm.trans target.inUse)
      exact stage
  · intro rest locked
    obtain ⟨distinct, unmarked⟩ := visiting rest locked
    refine ⟨distinct, ?_⟩
    intro other member
    obtain ⟨different, before⟩ := unmarked other member
    refine ⟨before.inUse, ?_⟩
    intro removed
    rcases List.mem_append.mp removed with old | new
    · exact before.unmarked old
    · exact different (in_use_single before.inUse target.inUse (List.mem_singleton.mp new))

/-- Only packets that are freed or open and counted down are recycled. -/
theorem recycled_idle (sound : Sound pool updating dispatcher systems lives roles moved)
    {address : Nat} (gone : address ∈ recycled pool) :
    InUse pool address ∧ (roles address = .released ∨
      roles address = .opened ∧ (pool.packets address).ref = 0) ∧
      (∀ item ∈ holding dispatcher, item.address ≠ address) ∧
      ∀ system, ∀ item ∈ holding (systems system), item.address ≠ address := by
  obtain ⟨sn, removed, held⟩ := ((recycled_spec pool sound.keyed).2 address).mp gone
  have used := entry_in_use sound.keyed held
  have number := (sound.keyed.entry sn address held).1
  have stage := sound.marked sn removed address held
  refine ⟨used, stage, ?_, ?_⟩
  · intro item member same
    obtain ⟨_, _, role⟩ := sound.dispatching item member
    rw [same] at role
    rw [role] at stage
    rcases stage with impossible | ⟨impossible, _⟩ <;> cases impossible
  · intro system item member same
    have unmarked := (queued_unmarked sound member).unmarked
    rw [same, number] at unmarked
    exact unmarked removed

theorem sound_refresh (sound : Sound pool updating dispatcher systems lives roles moved) :
    Sound (refresh pool) (some (visited (refresh pool))) dispatcher systems lives roles
      (moved ++ (recycled pool).map (handle lives)) := by
  have spec := refresh_spec pool sound.keyed
  have stays : ∀ address, InUse pool address → address ∉ recycled pool →
      InUse (refresh pool) address := fun _ => in_use_refreshed sound.keyed
  have stayed : ∀ (sn address : Nat), entry (refresh pool).objInUse sn = some address →
      InUse pool address ∧ address ∉ recycled pool := fun _ _ => refreshed_in_use sound.keyed
  refine ⟨spec.keyed, sound.dispatcherFormed, sound.systemFormed, ?_, sound.dispatchOnce, ?_, ?_, ?_,
    ?_, ?_, ?_, ?_, ?_⟩
  · intro item member
    obtain ⟨used, itself, role⟩ := sound.dispatching item member
    have here : item.address ∉ recycled pool := fun gone =>
      (recycled_idle sound gone).2.2.1 item member rfl
    exact ⟨stays _ used here, itself, role⟩
  · intro system item member
    obtain ⟨used, itself, stage⟩ := sound.queued system item member
    have here : item.address ∉ recycled pool := fun gone =>
      (recycled_idle sound gone).2.2.2 system item member rfl
    exact ⟨stays _ used here, itself, stage⟩
  · intro address used
    obtain ⟨before, _⟩ := stayed _ address used
    rw [(spec.count address).1]
    exact sound.counted address before
  · intro address used
    obtain ⟨before, _⟩ := stayed _ address used
    rw [(spec.count address).2]
    exact sound.opened address before
  · intro sn removed
    rw [spec.removes] at removed
    cases removed
  · intro rest locked
    obtain rfl := Option.some.inj locked
    refine ⟨visited_nodup _ spec.keyed, ?_⟩
    intro address member
    obtain ⟨sn, held⟩ := (mem_visited _ address).mp member
    refine ⟨entry_in_use spec.keyed (entry_of_objs held), ?_⟩
    rw [spec.removes]
    exact List.not_mem_nil
  · refine List.nodup_append.mpr ⟨sound.movedOnce, ?_, ?_⟩
    · exact spec.once.map fun first second same => congrArg Handle.address same
    · intro item old other new same
      obtain ⟨address, gone, rfl⟩ := List.mem_map.mp new
      subst same
      exact (sound.movedPast _ old).2.2 rfl (recycled_idle sound gone).1
  · intro item member
    rcases List.mem_append.mp member with old | new
    · obtain ⟨made, life, gone⟩ := sound.movedPast item old
      exact ⟨spec.created ▸ made, life, fun same again => gone same (stayed _ _ again).1⟩
    · obtain ⟨address, gone, rfl⟩ := List.mem_map.mp new
      have used := (recycled_idle sound gone).1
      refine ⟨spec.created ▸ (sound.keyed.entry _ address used).2.2.2, Nat.le_refl _, ?_⟩
      intro _ again
      exact (stayed _ _ again).2 gone
  · intro address unused isOpen
    by_cases gone : address ∈ recycled pool
    · exact List.mem_append_right _ (List.mem_map_of_mem gone)
    · rw [(spec.count address).2] at isOpen
      have outside : ¬InUse pool address := fun used => unused (stays address used gone)
      exact List.mem_append_left _ (sound.reopened address outside isOpen)

theorem sound_visit (sound : Sound pool updating dispatcher systems lives roles moved)
    {address : Nat} {rest : List Nat} (locked : updating = some (address :: rest)) :
    Sound (visit pool address) (some rest) dispatcher systems lives roles moved := by
  obtain ⟨distinct, unmarked⟩ := sound.visiting _ locked
  obtain ⟨new, others⟩ := List.nodup_cons.mp distinct
  have target := unmarked address List.mem_cons_self
  have later : ∀ left, some rest = some left → left.Nodup ∧
      ∀ other ∈ left, other ≠ address ∧ Unmarked pool other := by
    intro left same
    obtain rfl := Option.some.inj same
    refine ⟨others, ?_⟩
    intro other member
    exact ⟨fun clash => new (clash ▸ member), unmarked other (List.mem_cons_of_mem _ member)⟩
  unfold visit
  split
  · rename_i ready
    have ready : (pool.packets address).isRefOpen = true ∧ (pool.packets address).ref = 0 := by
      simpa [canBack2Pool] using ready
    have role := (sound.opened address target.inUse).mp ready.1
    exact sound_free sound target (Or.inr ⟨role, ready.2⟩) (fun _ _ => rfl) Iff.rfl (Or.inl rfl) later
  · refine ⟨sound.keyed, sound.dispatcherFormed, sound.systemFormed, sound.dispatching,
      sound.dispatchOnce, sound.queued, sound.counted, sound.opened, sound.marked, ?_,
      sound.movedOnce, sound.movedPast, sound.reopened⟩
    intro left same
    obtain ⟨nodup, each⟩ := later left same
    exact ⟨nodup, fun other member => (each other member).2⟩

end Pool

section Step

variable [Fintype System] [DecidableEq System]

theorem step_sound (before : World System) (event : Event System) (after : World System)
    (sound : SoundWorld before) (step : Guarded Step Fresh before event after) :
    SoundWorld after := by
  obtain ⟨step, fresh⟩ := step
  cases step with
  | updateTime tick => exact sound_global sound _
  | generateSN => exact sound_global sound _
  | malloc address pool unlocked taken =>
      exact sound_malloc sound unlocked (malloc_packet_spec _ sound.keyed fresh taken) fresh
  | free address unlocked live own =>
      have target := unopened_unmarked sound (live_in_use sound.keyed live) (Or.inl own)
      have flag : Function.update before.roles address .released address = .opened ↔
          before.roles address = .opened := by
        rw [Function.update_self, own]
        decide
      refine sound_free sound target (Or.inl (Function.update_self _ _ _)) ?_ flag (Or.inr own) ?_
      · intro other different
        exact Function.update_of_ne different _ _
      · intro rest locked
        rw [unlocked] at locked
        cases locked
  | dispatch address live own => exact sound_dispatch sound (live_in_use sound.keyed live) own
  | dispatcherBegin queue moved =>
      cases moved with
      | beginDrain outside =>
          exact sound_dispatcher sound
            (begin_drain_well_formed threadMgr before.dispatcher sound.dispatcherFormed outside)
            (begin_drain_holding threadMgr before.dispatcher sound.dispatcherFormed outside)
  | dispatcherHandOver item targets queue moved =>
      have kept := step_well_formed threadMgr _ _ _ sound.dispatcherFormed moved
      cases moved with
      | handOver iter _ test stored =>
          exact sound_dispatcher sound kept (hand_over_holding before.dispatcher iter item test stored)
  | dispatcherClear queue moved =>
      have kept := step_well_formed threadMgr _ _ _ sound.dispatcherFormed moved
      cases moved with
      | clear iter test finished =>
          exact sound_dispatcher sound kept
            (clear_holding before.dispatcher sound.dispatcherFormed iter test finished)
  | distribute item system rest work next => exact sound_distribute sound system work
  | openRef item queue work finished moved =>
      have kept := step_well_formed threadMgr _ _ _ sound.dispatcherFormed moved
      cases moved with
      | next iter inside => exact sound_open sound kept (next_holding before.dispatcher iter item inside work)
  | systemBegin system queue moved =>
      cases moved with
      | beginDrain outside =>
          exact sound_system sound system
            (begin_drain_well_formed messageSystem _ (sound.systemFormed system) outside)
            (begin_drain_holding messageSystem _ (sound.systemFormed system) outside)
  | systemHandOver system item queue moved =>
      have kept := step_well_formed messageSystem _ _ _ (sound.systemFormed system) moved
      cases moved with
      | handOver iter _ test stored =>
          exact sound_system sound system kept (hand_over_holding _ iter item test stored)
  | systemClear system queue moved =>
      have kept := step_well_formed messageSystem _ _ _ (sound.systemFormed system) moved
      cases moved with
      | clear iter test finished =>
          exact sound_system sound system kept
            (clear_holding _ (sound.systemFormed system) iter test finished)
  | systemLeave system item queue work moved =>
      have kept := step_well_formed messageSystem _ _ _ (sound.systemFormed system) moved
      cases moved with
      | next iter inside => exact sound_leave sound system kept (next_holding _ iter item inside work)
  | updateBegin unlocked => exact sound_refresh sound
  | updateVisit address rest locked => exact sound_visit sound locked
  | updateEnd locked =>
      refine ⟨sound.keyed, sound.dispatcherFormed, sound.systemFormed, sound.dispatching,
        sound.dispatchOnce, sound.queued, sound.counted, sound.opened, sound.marked, ?_,
        sound.movedOnce, sound.movedPast, sound.reopened⟩
      intro rest impossible
      cases impossible

theorem run_sound {trace : List (Event System)} {before after : World System}
    (run : Run (Guarded Step Fresh) before trace after) (sound : SoundWorld before) :
    SoundWorld after :=
  run_invariant SoundWorld (fun before label after => step_sound before label after) run sound

end Step

end GameBook.PacketLife
