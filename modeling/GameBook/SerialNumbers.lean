import GameBook.LabelledRun
import GameBook.PacketPool
import GameBook.ComponentCollections

/-!
One process and the serial numbers it draws. `GenerateSN` runs under its own
lock, so its calls form one sequence whichever threads make them; the numbers
drawn are then used as keys in the pools' `CacheRefresh` and in the collections
of the entity systems, at any later time. Each call may be used for one object
in each map, which is what `MallocObject` and `AddComponent` do.
-/

namespace GameBook.SerialNumbers

open GameBook.LabelledRun GameBook.PacketPool Std

/-- One call of `GenerateSN`: what it read and what it returned. -/
structure Draw where
  timeTick : Nat
  snTicket : Nat
  sn : Nat
  deriving DecidableEq, Repr

/-- The maps that objects are entered in: one for each pool, and one for each
type in the entity system of each thread. -/
inductive Place where
  | pool (index : Nat)
  | collections (index : Nat)
  deriving DecidableEq, Repr

/-- An object handed to a map under the number of a call. -/
structure Entry where
  place : Place
  call : Nat
  object : Nat
  deriving DecidableEq, Repr

/-- `drawn`, `entered` and `freed` are the history: the calls in order, what
the maps were handed, and the removals asked for. -/
structure Process where
  global : Global
  caches : Nat → CacheRefresh
  collections : Nat → ComponentCollections
  drawn : List Draw
  entered : List Entry
  freed : List (Place × Nat)

def newProcess (timeTick appId : Nat) : Process :=
  ⟨⟨timeTick, appId, 1⟩, fun _ => emptyCache, fun _ => ComponentCollections.newCollections, [], [], []⟩

def updateTime (process : Process) (tick : Nat) : Process :=
  { process with global := { process.global with timeTick := tick } }

def draw (process : Process) : Process :=
  { process with
    global := (generateSN process.global).2
    drawn := process.drawn ++
      [⟨process.global.timeTick, process.global.snTicket, (generateSN process.global).1⟩] }

def setCache (process : Process) (index : Nat) (cache : CacheRefresh) : Process :=
  { process with caches := Function.update process.caches index cache }

def setCollections (process : Process) (index : Nat) (collections : ComponentCollections) :
    Process :=
  { process with collections := Function.update process.collections index collections }

def addTo (process : Process) (place : Place) (sn object : Nat) : Process :=
  match place with
  | .pool index => setCache process index (addObj (process.caches index) sn object)
  | .collections index =>
      setCollections process index
        (ComponentCollections.add (process.collections index) sn object)

def removeFrom (process : Process) (place : Place) (sn : Nat) : Process :=
  match place with
  | .pool index => setCache process index (removeObj (process.caches index) sn)
  | .collections index =>
      setCollections process index (ComponentCollections.remove (process.collections index) sn)

def removeTurn (collections : ComponentCollections) : ComponentCollections :=
  match collections.removeObjs with
  | [] => collections
  | sn :: _ => ComponentCollections.eraseObj (ComponentCollections.dropRemoval collections) sn

inductive Event where
  | updateTime (tick : Nat)
  | generateSN
  | add (entry : Entry)
  | remove (place : Place) (sn : Nat)
  | swapCache (index : Nat)
  | moveAdds (index : Nat)
  | removeTurn (index : Nat)
  deriving DecidableEq, Repr

inductive Step : Process → Event → Process → Prop where
  | updateTime (process : Process) (tick : Nat) (later : process.global.timeTick ≤ tick) :
      Step process (.updateTime tick) (updateTime process tick)
  | generateSN (process : Process) : Step process .generateSN (draw process)
  | add (process : Process) (entry : Entry) (drawn : Draw)
      (made : process.drawn[entry.call]? = some drawn)
      (first : ∀ other ∈ process.entered, other.place = entry.place → other.call ≠ entry.call) :
      Step process (.add entry)
        { addTo process entry.place drawn.sn entry.object with
          entered := process.entered ++ [entry] }
  | remove (process : Process) (place : Place) (sn : Nat) :
      Step process (.remove place sn)
        { removeFrom process place sn with freed := process.freed ++ [(place, sn)] }
  | swapCache (process : Process) (index : Nat) :
      Step process (.swapCache index) (setCache process index (swap (process.caches index)).1)
  | moveAdds (process : Process) (index : Nat) :
      Step process (.moveAdds index)
        (setCollections process index
          (ComponentCollections.moveAdds (process.collections index)))
  | removeTurn (process : Process) (index : Nat) :
      Step process (.removeTurn index)
        (setCollections process index (removeTurn (process.collections index)))

/-! ### What is asked of a run -/

/-- No two calls returned one number and none returned zero. -/
def Unique (process : Process) : Prop :=
  (process.drawn.map Draw.sn).Nodup ∧ 0 ∉ process.drawn.map Draw.sn

def found (process : Process) : Place → Nat → Option Nat
  | .pool index, sn => entry (process.caches index) sn
  | .collections index, sn => ComponentCollections.get (process.collections index) sn

/-- No map has dropped what it was handed. -/
def Kept (process : Process) : Prop :=
  ∀ entry ∈ process.entered, ∀ drawn, process.drawn[entry.call]? = some drawn →
    (entry.place, drawn.sn) ∉ process.freed → found process entry.place drawn.sn = some entry.object

/-- The 38 bits of the time that reach the number. -/
def slot (timeTick : Nat) : Nat := (timeTick >>> 10) % 274877906944

/-- No call of the present slot has used the present ticket. -/
def TicketFree (process : Process) : Prop :=
  ∀ drawn ∈ process.drawn, slot drawn.timeTick = slot process.global.timeTick →
    drawn.snTicket ≠ process.global.snTicket

instance (process : Process) : Decidable (TicketFree process) :=
  List.decidableBAll _ process.drawn

/-- The ticket is not zero where the other two parts add up to zero. -/
def NonZero (process : Process) : Prop :=
  process.global.snTicket ≠ 0 ∨
    ((process.global.timeTick >>> 10) <<< 26 + process.global.appId <<< 16)
      % 18446744073709551616 ≠ 0

def callsInSlot (process : Process) : Nat :=
  process.drawn.countP fun drawn => slot drawn.timeTick = slot process.global.timeTick

def Allowed (process : Process) : Event → Prop
  | .generateSN => TicketFree process ∧ NonZero process
  | _ => True

/-- Numbers of one process agree where slot and ticket do. -/
theorem generate_sn_eq_iff (first second : Global) (app : first.appId = second.appId)
    (left : first.snTicket < 65536) (right : second.snTicket < 65536) :
    (generateSN first).1 = (generateSN second).1 ↔
      slot first.timeTick = slot second.timeTick ∧ first.snTicket = second.snTicket := by
  simp only [generateSN, slot, Nat.shiftLeft_eq, Nat.shiftRight_eq_div_pow, app]
  omega

theorem generate_sn_ne_zero_iff (process : Process) (small : process.global.snTicket < 65536) :
    (generateSN process.global).1 ≠ 0 ↔ NonZero process := by
  simp only [generateSN, NonZero, Nat.shiftLeft_eq, Nat.shiftRight_eq_div_pow]
  omega

/-! ### The invariant of a run -/

def held (process : Process) : Place → Nat → Option Nat
  | .pool index, sn => entry (process.caches index) sn
  | .collections index, sn => ComponentCollections.held (process.collections index) sn

def removals (process : Process) : Place → List Nat
  | .pool index => (process.caches index).removes
  | .collections index => (process.collections index).removeObjs

def madeFrom (process : Process) (drawn : Draw) : Global :=
  ⟨drawn.timeTick, process.global.appId, drawn.snTicket⟩

/-- Every number is the one `GenerateSN` made, every entry of a map was handed
to it under a call, every removal was asked for. -/
structure Sound (process : Process) : Prop where
  ticket : process.global.snTicket < 65536
  made : ∀ drawn ∈ process.drawn,
    drawn.snTicket < 65536 ∧ drawn.sn = (generateSN (madeFrom process drawn)).1
  called : ∀ entry ∈ process.entered, entry.call < process.drawn.length
  handed : ∀ place sn object, held process place sn = some object →
    ∃ entry ∈ process.entered, entry.place = place ∧ entry.object = object ∧
      ∃ drawn, process.drawn[entry.call]? = some drawn ∧ drawn.sn = sn
  asked : ∀ place, ∀ sn ∈ removals process place, (place, sn) ∈ process.freed
  apart : ∀ index, ComponentCollections.Apart (process.collections index)

theorem found_held (process : Process) (place : Place) (sn : Nat) (numbered : sn ≠ 0) :
    found process place sn = held process place sn := by
  cases place with
  | pool index => rfl
  | collections index => exact ComponentCollections.get_held _ sn numbered

theorem held_set_cache (process : Process) (index : Nat) (cache : CacheRefresh) (place : Place)
    (sn : Nat) :
    held (setCache process index cache) place sn =
      if place = .pool index then entry cache sn else held process place sn := by
  cases place with
  | pool other =>
      by_cases same : other = index
      · subst same
        simp [held, setCache]
      · simp [held, setCache, same]
  | collections index => rfl

theorem held_set_collections (process : Process) (index : Nat)
    (collections : ComponentCollections) (place : Place) (sn : Nat) :
    held (setCollections process index collections) place sn =
      if place = .collections index then ComponentCollections.held collections sn
      else held process place sn := by
  cases place with
  | pool index => rfl
  | collections other =>
      by_cases same : other = index
      · subst same
        simp [held, setCollections]
      · simp [held, setCollections, same]

theorem removals_set_cache (process : Process) (index : Nat) (cache : CacheRefresh)
    (place : Place) :
    removals (setCache process index cache) place =
      if place = .pool index then cache.removes else removals process place := by
  cases place with
  | pool other =>
      by_cases same : other = index
      · subst same
        simp [removals, setCache]
      · simp [removals, setCache, same]
  | collections index => rfl

theorem removals_set_collections (process : Process) (index : Nat)
    (collections : ComponentCollections) (place : Place) :
    removals (setCollections process index collections) place =
      if place = .collections index then collections.removeObjs
      else removals process place := by
  cases place with
  | pool index => rfl
  | collections other =>
      by_cases same : other = index
      · subst same
        simp [removals, setCollections]
      · simp [removals, setCollections, same]

theorem held_add_to (process : Process) (place other : Place) (sn object number : Nat)
    (fresh : held process place sn = none) :
    held (addTo process place sn object) other number =
      if other = place ∧ number = sn then some object else held process other number := by
  cases place with
  | pool index =>
      simp only [addTo, held_set_cache]
      by_cases same : other = .pool index
      · subst same
        rw [if_pos rfl, entry_add_obj _ _ _ _ fresh]
        simp [held]
      · simp [same]
  | collections index =>
      simp only [addTo, held_set_collections]
      by_cases same : other = .collections index
      · subst same
        rw [if_pos rfl, ComponentCollections.held_add _ _ _ _ fresh]
        simp [held]
      · simp [same]

theorem removals_add_to (process : Process) (place other : Place) (sn object : Nat) :
    removals (addTo process place sn object) other = removals process other := by
  cases place with
  | pool index =>
      simp only [addTo, removals_set_cache]
      split
      · rename_i same
        subst same
        rfl
      · rfl
  | collections index =>
      simp only [addTo, removals_set_collections]
      split
      · rename_i same
        subst same
        simp only [ComponentCollections.add, removals]
        split <;> rfl
      · rfl

@[simp] theorem held_remove_from (process : Process) (place other : Place) (sn number : Nat) :
    held (removeFrom process place sn) other number = held process other number := by
  cases place with
  | pool index =>
      simp only [removeFrom, held_set_cache]
      split
      · rename_i same
        subst same
        rfl
      · rfl
  | collections index =>
      simp only [removeFrom, held_set_collections]
      split
      · rename_i same
        subst same
        rfl
      · rfl

theorem removals_remove_from (process : Process) (place other : Place) (sn : Nat) :
    removals (removeFrom process place sn) other =
      if other = place then removals process place ++ [sn] else removals process other := by
  cases place with
  | pool index => exact removals_set_cache _ _ _ _
  | collections index => exact removals_set_collections _ _ _ _

theorem held_remove_turn (collections : ComponentCollections)
    (apart : ComponentCollections.Apart collections) (sn : Nat) :
    ComponentCollections.held (removeTurn collections) sn =
        ComponentCollections.held collections sn ∨
      sn ∈ collections.removeObjs ∧
        ComponentCollections.held (removeTurn collections) sn = none := by
  unfold removeTurn
  split
  · exact Or.inl rfl
  · rename_i first rest listed
    by_cases inside : first ∈ collections.objs
    · rw [ComponentCollections.held_erase collections first sn apart inside, listed]
      by_cases same : sn = first
      · subst same
        exact Or.inr ⟨List.mem_cons_self, if_pos rfl⟩
      · exact Or.inl (if_neg same)
    · apply Or.inl
      simp only [ComponentCollections.held, ComponentCollections.eraseObj,
        ComponentCollections.dropRemoval, OrderedMap.get_erase]
      split
      · rename_i same
        rw [same, OrderedMap.get_none_iff.mpr inside]
      · rfl

theorem apart_remove_turn (collections : ComponentCollections)
    (apart : ComponentCollections.Apart collections) :
    ComponentCollections.Apart (removeTurn collections) := by
  unfold removeTurn
  split
  · exact apart
  · exact ComponentCollections.apart_erase _ _ apart

theorem removals_remove_turn (collections : ComponentCollections) (sn : Nat)
    (member : sn ∈ (removeTurn collections).removeObjs) : sn ∈ collections.removeObjs := by
  unfold removeTurn at member
  split at member
  · exact member
  · exact List.mem_of_mem_tail member

theorem call_unique {process : Process} (unique : Unique process) {first second : Nat}
    {left right : Draw} (atFirst : process.drawn[first]? = some left)
    (atSecond : process.drawn[second]? = some right) (same : left.sn = right.sn) :
    first = second := by
  have numberAt : (process.drawn.map Draw.sn)[first]? = (process.drawn.map Draw.sn)[second]? := by
    rw [List.getElem?_map, List.getElem?_map, atFirst, atSecond, Option.map_some, Option.map_some,
      same]
  have small : first < (process.drawn.map Draw.sn).length := by
    rw [List.length_map]
    exact (List.getElem?_eq_some_iff.mp atFirst).1
  exact (List.getElem?_inj small unique.1).mp numberAt

theorem held_fresh {process : Process} (sound : Sound process) (unique : Unique process)
    {entry : Entry} {drawn : Draw} (made : process.drawn[entry.call]? = some drawn)
    (first : ∀ other ∈ process.entered, other.place = entry.place → other.call ≠ entry.call) :
    held process entry.place drawn.sn = none := by
  cases occupied : held process entry.place drawn.sn with
  | none => rfl
  | some object =>
      obtain ⟨other, member, place, -, earlier, call, number⟩ := sound.handed _ _ _ occupied
      exact absurd (call_unique unique call made number) (first other member place)

structure Dropped (before after : Process) : Prop where
  global : after.global = before.global
  drawn : after.drawn = before.drawn
  entered : after.entered = before.entered
  freed : ∀ removal ∈ before.freed, removal ∈ after.freed
  held : ∀ place sn, held after place sn = SerialNumbers.held before place sn ∨
    sn ∈ removals before place ∧ SerialNumbers.held after place sn = none
  removals : ∀ place, ∀ sn ∈ removals after place, (place, sn) ∈ after.freed
  apart : ∀ index, ComponentCollections.Apart (after.collections index)

theorem dropped_sound {before after : Process} (sound : Sound before)
    (dropped : Dropped before after) : Sound after := by
  constructor
  · rw [dropped.global]
    exact sound.ticket
  · intro drawn member
    rw [dropped.drawn] at member
    have number := sound.made drawn member
    rw [madeFrom, ← dropped.global] at number
    exact number
  · intro entry member
    rw [dropped.entered] at member
    rw [dropped.drawn]
    exact sound.called entry member
  · intro place sn object occupied
    rw [dropped.entered, dropped.drawn]
    rcases dropped.held place sn with same | ⟨_, gone⟩
    · exact sound.handed place sn object (same ▸ occupied)
    · rw [gone] at occupied
      cases occupied
  · exact dropped.removals
  · exact dropped.apart

def Stays (process : Process) : Prop :=
  ∀ entry ∈ process.entered, ∀ drawn, process.drawn[entry.call]? = some drawn →
    (entry.place, drawn.sn) ∉ process.freed → held process entry.place drawn.sn = some entry.object

theorem kept_iff_stays {process : Process} (unique : Unique process) :
    Kept process ↔ Stays process := by
  have numbered : ∀ (call : Nat) (drawn : Draw), process.drawn[call]? = some drawn →
      drawn.sn ≠ 0 := by
    intro call drawn made zero
    exact unique.2 (List.mem_map.mpr ⟨drawn, List.mem_of_getElem? made, zero⟩)
  constructor
  · intro kept entry member drawn made unasked
    have stored := kept entry member drawn made unasked
    rw [found_held _ _ _ (numbered _ _ made)] at stored
    exact stored
  · intro stays entry member drawn made unasked
    rw [found_held _ _ _ (numbered _ _ made)]
    exact stays entry member drawn made unasked

theorem dropped_stays {before after : Process} (sound : Sound before) (stays : Stays before)
    (dropped : Dropped before after) : Stays after := by
  intro entry member drawn made unasked
  rw [dropped.entered] at member
  rw [dropped.drawn] at made
  have still : (entry.place, drawn.sn) ∉ before.freed := fun asked => unasked (dropped.freed _ asked)
  rcases dropped.held entry.place drawn.sn with same | ⟨removed, _⟩
  · rw [same]
    exact stays entry member drawn made still
  · exact absurd (sound.asked _ _ removed) still

theorem remove_dropped {process : Process} (sound : Sound process) (place : Place) (sn : Nat) :
    Dropped process
      { removeFrom process place sn with freed := process.freed ++ [(place, sn)] } := by
  have unmoved : ∀ other number, held
      { removeFrom process place sn with freed := process.freed ++ [(place, sn)] } other number =
        held process other number := by
    intro other number
    have same := held_remove_from process place other sn number
    cases other <;> exact same
  constructor
  · cases place <;> rfl
  · cases place <;> rfl
  · cases place <;> rfl
  · intro removal asked
    exact List.mem_append_left _ asked
  · intro other number
    exact Or.inl (unmoved other number)
  · intro other number listed
    have removed : number ∈ removals (removeFrom process place sn) other := by
      cases other <;> exact listed
    rw [removals_remove_from] at removed
    split at removed
    · rename_i same
      subst same
      rcases List.mem_append.mp removed with earlier | now
      · exact List.mem_append_left _ (sound.asked _ _ earlier)
      · rw [List.mem_singleton.mp now]
        exact List.mem_append_right _ List.mem_cons_self
    · exact List.mem_append_left _ (sound.asked _ _ removed)
  · intro index
    cases place with
    | pool other => exact sound.apart index
    | collections other =>
        by_cases same : index = other
        · subst same
          simpa [removeFrom, setCollections] using
            ComponentCollections.apart_remove _ sn (sound.apart index)
        · simpa [removeFrom, setCollections, same] using sound.apart index

theorem swap_cache_dropped {process : Process} (sound : Sound process) (index : Nat) :
    Dropped process (setCache process index (swap (process.caches index)).1) := by
  refine ⟨rfl, rfl, rfl, fun _ asked => asked, ?_, ?_, sound.apart⟩
  · intro place sn
    rw [held_set_cache]
    split
    · rename_i same
      subst same
      rw [swap_entry]
      split
      · rename_i removed
        exact Or.inr ⟨removed, rfl⟩
      · exact Or.inl rfl
    · exact Or.inl rfl
  · intro place sn listed
    rw [removals_set_cache] at listed
    split at listed
    · cases listed
    · exact sound.asked place sn listed

theorem collections_dropped {process : Process} (sound : Sound process) (index : Nat)
    (collections : ComponentCollections) (apart : ComponentCollections.Apart collections)
    (heldAfter : ∀ sn, ComponentCollections.held collections sn =
        ComponentCollections.held (process.collections index) sn ∨
      sn ∈ (process.collections index).removeObjs ∧ ComponentCollections.held collections sn = none)
    (fewer : ∀ sn ∈ collections.removeObjs, sn ∈ (process.collections index).removeObjs) :
    Dropped process (setCollections process index collections) := by
  refine ⟨rfl, rfl, rfl, fun _ asked => asked, ?_, ?_, ?_⟩
  · intro place sn
    rw [held_set_collections]
    split
    · rename_i same
      subst same
      exact heldAfter sn
    · exact Or.inl rfl
  · intro place sn listed
    rw [removals_set_collections] at listed
    split at listed
    · rename_i same
      subst same
      exact sound.asked (.collections index) sn (fewer sn listed)
    · exact sound.asked place sn listed
  · intro other
    by_cases same : other = index
    · subst same
      simpa [setCollections] using apart
    · simpa [setCollections, same] using sound.apart other

theorem draw_sound {process : Process} (sound : Sound process) : Sound (draw process) := by
  constructor
  · exact Nat.mod_lt _ (by decide)
  · intro drawn member
    rcases List.mem_append.mp member with earlier | now
    · exact sound.made drawn earlier
    · rw [List.mem_singleton.mp now]
      exact ⟨sound.ticket, rfl⟩
  · intro entry member
    have earlier := sound.called entry member
    simp only [draw, List.length_append]
    omega
  · intro place sn object occupied
    have before : held process place sn = some object := by
      cases place <;> exact occupied
    obtain ⟨entry, member, atPlace, same, drawn, made, number⟩ := sound.handed _ _ _ before
    refine ⟨entry, member, atPlace, same, drawn, ?_, number⟩
    rw [draw, List.getElem?_append_left (sound.called entry member)]
    exact made
  · intro place sn listed
    have before : sn ∈ removals process place := by
      cases place <;> exact listed
    exact sound.asked place sn before
  · exact sound.apart

theorem draw_stays {process : Process} (sound : Sound process) (stays : Stays process) :
    Stays (draw process) := by
  intro entry member drawn made unasked
  rw [draw, List.getElem?_append_left (sound.called entry member)] at made
  have stored := stays entry member drawn made unasked
  cases place : entry.place <;> rw [place] at stored <;> exact stored

/-- A call keeps the numbers unique exactly when the slot has the ticket free
and the number is not zero. -/
theorem draw_unique_iff {process : Process} (sound : Sound process) (unique : Unique process) :
    Unique (draw process) ↔ TicketFree process ∧ NonZero process := by
  have numbers : (draw process).drawn.map Draw.sn =
      process.drawn.map Draw.sn ++ [(generateSN process.global).1] := by
    simp [draw]
  have repeated : (generateSN process.global).1 ∈ process.drawn.map Draw.sn ↔
      ¬ TicketFree process := by
    constructor
    · intro member free
      obtain ⟨drawn, earlier, same⟩ := List.mem_map.mp member
      obtain ⟨small, number⟩ := sound.made drawn earlier
      have agree := (generate_sn_eq_iff (madeFrom process drawn) process.global rfl small
        sound.ticket).mp (number.symm.trans same)
      exact free drawn earlier agree.1 agree.2
    · intro spent
      simp only [TicketFree, not_forall, Decidable.not_not] at spent
      obtain ⟨drawn, earlier, sameSlot, sameTicket⟩ := spent
      obtain ⟨small, number⟩ := sound.made drawn earlier
      refine List.mem_map.mpr ⟨drawn, earlier, number.trans ?_⟩
      exact (generate_sn_eq_iff (madeFrom process drawn) process.global rfl small sound.ticket).mpr
        ⟨sameSlot, sameTicket⟩
  rw [Unique, numbers, List.nodup_append, ← generate_sn_ne_zero_iff process sound.ticket]
  constructor
  · rintro ⟨⟨_, _, apart⟩, nonzero⟩
    constructor
    · apply Decidable.byContradiction
      intro spent
      exact apart _ (repeated.mpr spent) _ List.mem_cons_self rfl
    · intro zero
      exact nonzero (List.mem_append_right _ (by rw [zero]; exact List.mem_cons_self))
  · rintro ⟨free, nonzero⟩
    refine ⟨⟨unique.1, List.nodup_singleton _, ?_⟩, ?_⟩
    · intro first member second now same
      rw [List.mem_singleton.mp now] at same
      exact repeated.mp (same ▸ member) free
    · intro zero
      rcases List.mem_append.mp zero with earlier | now
      · exact unique.2 earlier
      · exact nonzero (List.mem_singleton.mp now).symm

theorem add_sound {process : Process} (sound : Sound process) {entry : Entry} {drawn : Draw}
    (made : process.drawn[entry.call]? = some drawn)
    (fresh : held process entry.place drawn.sn = none) :
    Sound { addTo process entry.place drawn.sn entry.object with
      entered := process.entered ++ [entry] } := by
  have unchanged : (addTo process entry.place drawn.sn entry.object).global = process.global ∧
      (addTo process entry.place drawn.sn entry.object).drawn = process.drawn ∧
      (addTo process entry.place drawn.sn entry.object).freed = process.freed := by
    cases entry.place <;> exact ⟨rfl, rfl, rfl⟩
  have stored : ∀ place sn, held { addTo process entry.place drawn.sn entry.object with
      entered := process.entered ++ [entry] } place sn =
        if place = entry.place ∧ sn = drawn.sn then some entry.object else held process place sn := by
    intro place sn
    have same := held_add_to process entry.place place drawn.sn entry.object sn fresh
    cases place <;> exact same
  constructor
  · simp only [unchanged.1]
    exact sound.ticket
  · intro other member
    simp only [madeFrom, unchanged.1, unchanged.2.1] at member ⊢
    exact sound.made other member
  · intro other member
    simp only [unchanged.2.1]
    rcases List.mem_append.mp member with earlier | now
    · exact sound.called other earlier
    · rw [List.mem_singleton.mp now]
      exact (List.getElem?_eq_some_iff.mp made).1
  · intro place sn object occupied
    simp only [unchanged.2.1]
    rw [stored] at occupied
    split at occupied
    · rename_i same
      refine ⟨entry, List.mem_append_right _ List.mem_cons_self, same.1.symm,
        Option.some.inj occupied, drawn, made, same.2.symm⟩
    · obtain ⟨other, member, rest⟩ := sound.handed place sn object occupied
      exact ⟨other, List.mem_append_left _ member, rest⟩
  · intro place sn listed
    simp only [unchanged.2.2]
    have removed : sn ∈ removals (addTo process entry.place drawn.sn entry.object) place := by
      cases place <;> exact listed
    rw [removals_add_to] at removed
    exact sound.asked place sn removed
  · intro index
    cases place : entry.place with
    | pool other => exact sound.apart index
    | collections other =>
        by_cases same : index = other
        · subst same
          simpa [addTo, setCollections] using
            ComponentCollections.apart_add _ drawn.sn entry.object (sound.apart index)
        · simpa [addTo, setCollections, same] using sound.apart index

theorem add_stays {process : Process} (unique : Unique process) (stays : Stays process)
    {entry : Entry} {drawn : Draw} (made : process.drawn[entry.call]? = some drawn)
    (first : ∀ other ∈ process.entered, other.place = entry.place → other.call ≠ entry.call)
    (fresh : held process entry.place drawn.sn = none) :
    Stays { addTo process entry.place drawn.sn entry.object with
      entered := process.entered ++ [entry] } := by
  have unchanged : (addTo process entry.place drawn.sn entry.object).drawn = process.drawn ∧
      (addTo process entry.place drawn.sn entry.object).freed = process.freed := by
    cases entry.place <;> exact ⟨rfl, rfl⟩
  intro other member number call unasked
  simp only [unchanged.1, unchanged.2] at call unasked
  have stored := held_add_to process entry.place other.place drawn.sn entry.object number.sn fresh
  have after : held { addTo process entry.place drawn.sn entry.object with
      entered := process.entered ++ [entry] } other.place number.sn =
        held (addTo process entry.place drawn.sn entry.object) other.place number.sn := by
    cases other.place <;> rfl
  rw [after, stored]
  rcases List.mem_append.mp member with earlier | now
  · have distinct : ¬ (other.place = entry.place ∧ number.sn = drawn.sn) := by
      rintro ⟨samePlace, sameNumber⟩
      exact first other earlier samePlace (call_unique unique call made sameNumber)
    rw [if_neg distinct]
    exact stays other earlier number call unasked
  · have same := List.mem_singleton.mp now
    subst same
    have sameDraw := Option.some.inj (call.symm.trans made)
    rw [if_pos ⟨rfl, congrArg Draw.sn sameDraw⟩]

theorem quiet_step {before after : Process} {event : Event} (sound : Sound before)
    (unique : Unique before) (kept : Kept before) (taken : Step before event after)
    (quiet : event ≠ .generateSN) : Sound after ∧ Unique after ∧ Kept after := by
  have stays := (kept_iff_stays unique).mp kept
  have by_dropping : Dropped before after → Sound after ∧ Unique after ∧ Kept after := by
    intro dropped
    have still : Unique after := by
      rw [Unique, dropped.drawn]
      exact unique
    exact ⟨dropped_sound sound dropped, still,
      (kept_iff_stays still).mpr (dropped_stays sound stays dropped)⟩
  cases taken with
  | updateTime tick later =>
      refine ⟨⟨sound.ticket, sound.made, sound.called, ?_, ?_, sound.apart⟩, unique, ?_⟩
      · intro place sn object occupied
        have before : held before place sn = some object := by
          cases place <;> exact occupied
        exact sound.handed place sn object before
      · intro place sn listed
        have before : sn ∈ removals before place := by
          cases place <;> exact listed
        exact sound.asked place sn before
      · intro entry member drawn made unasked
        have stored := kept entry member drawn made unasked
        cases place : entry.place <;> rw [place] at stored <;> exact stored
  | generateSN => exact absurd rfl quiet
  | add entry drawn made first =>
      have fresh := held_fresh sound unique made first
      have drawnAfter : (addTo before entry.place drawn.sn entry.object).drawn = before.drawn := by
        cases entry.place <;> rfl
      have still : Unique { addTo before entry.place drawn.sn entry.object with
          entered := before.entered ++ [entry] } := by
        simp only [Unique, drawnAfter]
        exact unique
      exact ⟨add_sound sound made fresh, still,
        (kept_iff_stays still).mpr (add_stays unique stays made first fresh)⟩
  | remove place sn => exact by_dropping (remove_dropped sound place sn)
  | swapCache index => exact by_dropping (swap_cache_dropped sound index)
  | moveAdds index =>
      apply by_dropping
      apply collections_dropped sound index _ (ComponentCollections.apart_move_adds _)
      · intro sn
        exact Or.inl (ComponentCollections.held_move_adds _ sn)
      · exact fun sn listed => listed
  | removeTurn index =>
      apply by_dropping
      apply collections_dropped sound index _ (apart_remove_turn _ (sound.apart index))
      · exact held_remove_turn _ (sound.apart index)
      · exact removals_remove_turn _

theorem new_sound (timeTick appId : Nat) : Sound (newProcess timeTick appId) := by
  have empty : ∀ place sn, held (newProcess timeTick appId) place sn = none := by
    intro place sn
    cases place with
    | pool index => exact entry_none.mpr ⟨ExtTreeMap.getElem?_empty, ExtTreeMap.getElem?_empty⟩
    | collections index => exact ComponentCollections.held_new sn
  refine ⟨?_, ?_, ?_, ?_, ?_, fun _ => ComponentCollections.apart_new⟩
  · change 1 < 65536
    decide
  · intro drawn member
    cases member
  · intro entry member
    cases member
  · intro place sn object occupied
    rw [empty] at occupied
    cases occupied
  · intro place sn listed
    cases place <;> cases listed

theorem allowed_decides {before after : Process} {event : Event} (sound : Sound before)
    (good : Unique before ∧ Kept before) (taken : Step before event after) :
    Sound after ∧ (Allowed before event ↔ Unique after ∧ Kept after) := by
  by_cases quiet : event = .generateSN
  · subst quiet
    cases taken with
    | generateSN =>
        refine ⟨draw_sound sound, ?_⟩
        have decided := draw_unique_iff sound good.1
        constructor
        · intro allowed
          have still := decided.mpr allowed
          exact ⟨still, (kept_iff_stays still).mpr
            (draw_stays sound ((kept_iff_stays good.1).mp good.2))⟩
        · rintro ⟨still, _⟩
          exact decided.mp still
  · obtain ⟨kept, still⟩ := quiet_step sound good.1 good.2 taken quiet
    have allowed : Allowed before event := by
      cases event with
      | generateSN => exact absurd rfl quiet
      | updateTime | add | remove | swapCache | moveAdds | removeTurn => trivial
    exact ⟨kept, fun _ => still, fun _ => allowed⟩

/-! ### Calls in a slot -/

/-- The calls stand in the order of their time, with consecutive tickets. -/
structure Ordered (process : Process) : Prop where
  sorted : process.drawn.Pairwise fun first second => first.timeTick ≤ second.timeTick
  past : ∀ drawn ∈ process.drawn, drawn.timeTick ≤ process.global.timeTick
  next : process.global.snTicket = (1 + process.drawn.length) % 65536
  tickets : ∀ call drawn, process.drawn[call]? = some drawn → drawn.snTicket = (1 + call) % 65536

theorem new_ordered (timeTick appId : Nat) : Ordered (newProcess timeTick appId) := by
  refine ⟨List.Pairwise.nil, ?_, rfl, ?_⟩
  · intro drawn member
    cases member
  · intro call drawn made
    cases made

theorem ordered_step {before after : Process} {event : Event} (ordered : Ordered before)
    (taken : Step before event after) : Ordered after := by
  cases taken with
  | updateTime tick later =>
      refine ⟨ordered.sorted, ?_, ordered.next, ordered.tickets⟩
      intro drawn member
      exact Nat.le_trans (ordered.past drawn member) later
  | generateSN =>
      refine ⟨?_, ?_, ?_, ?_⟩
      · apply List.pairwise_append.mpr
        refine ⟨ordered.sorted, List.pairwise_singleton _ _, ?_⟩
        intro drawn member now same
        rw [List.mem_singleton.mp same]
        exact ordered.past drawn member
      · intro drawn member
        rcases List.mem_append.mp member with earlier | now
        · exact ordered.past drawn earlier
        · rw [List.mem_singleton.mp now]
          exact Nat.le_refl _
      · have next := ordered.next
        simp only [draw, generateSN, List.length_append, List.length_singleton]
        omega
      · intro call drawn made
        rw [draw] at made
        by_cases earlier : call < before.drawn.length
        · rw [List.getElem?_append_left earlier] at made
          exact ordered.tickets call drawn made
        · have last : call = before.drawn.length := by
            have bound := (List.getElem?_eq_some_iff.mp made).1
            simp only [List.length_append, List.length_singleton] at bound
            omega
          subst last
          rw [List.getElem?_append_right (Nat.le_refl _), Nat.sub_self] at made
          cases made
          exact ordered.next
  | add entry drawn made first =>
      have unchanged : (addTo before entry.place drawn.sn entry.object).global = before.global ∧
          (addTo before entry.place drawn.sn entry.object).drawn = before.drawn := by
        cases entry.place <;> exact ⟨rfl, rfl⟩
      constructor <;> simp only [unchanged.1, unchanged.2]
      · exact ordered.sorted
      · exact ordered.past
      · exact ordered.next
      · exact ordered.tickets
  | remove place sn =>
      cases place <;> exact ⟨ordered.sorted, ordered.past, ordered.next, ordered.tickets⟩
  | swapCache | moveAdds | removeTurn =>
      exact ⟨ordered.sorted, ordered.past, ordered.next, ordered.tickets⟩

/-- Where the later elements of a list meet a condition once one does, the
count says from which place on they meet it. -/
theorem count_from {Item : Type} (meets : Item → Bool) (items : List Item)
    (closed : items.Pairwise fun first second => meets first = true → meets second = true)
    (place : Nat) (item : Item) (here : items[place]? = some item) :
    meets item = true ↔ items.length ≤ place + items.countP meets := by
  induction items generalizing place with
  | nil => cases here
  | cons first rest ih =>
      obtain ⟨onward, later⟩ := List.pairwise_cons.mp closed
      have small := List.countP_le_length (p := meets) (l := rest)
      by_cases start : meets first = true
      · have all : ∀ other ∈ rest, meets other = true := fun other member => onward other member start
        rw [List.countP_cons_of_pos start, List.countP_eq_length.mpr all, List.length_cons]
        refine ⟨fun _ => by omega, fun _ => ?_⟩
        rcases List.mem_cons.mp (List.mem_of_getElem? here) with same | member
        · exact same ▸ start
        · exact all item member
      · rw [List.countP_cons_of_neg start, List.length_cons]
        cases place with
        | zero =>
            cases here
            refine ⟨fun hit => absurd hit start, fun bound => ?_⟩
            omega
        | succ place =>
            rw [ih later place here]
            omega

/-- Until the 38 bits of the time wrap, the present ticket is free as long as
the slot has seen fewer than 65536 calls. -/
theorem ticket_free_iff {process : Process} (ordered : Ordered process)
    (clock : process.global.timeTick < 281474976710656) :
    TicketFree process ↔ callsInSlot process < 65536 := by
  have inSlot : ∀ drawn ∈ process.drawn,
      slot drawn.timeTick = drawn.timeTick / 1024 := by
    intro drawn member
    have past := ordered.past drawn member
    simp only [slot, Nat.shiftRight_eq_div_pow]
    omega
  have now : slot process.global.timeTick = process.global.timeTick / 1024 := by
    simp only [slot, Nat.shiftRight_eq_div_pow]
    omega
  have closed : process.drawn.Pairwise fun first second =>
      decide (slot first.timeTick = slot process.global.timeTick) = true →
        decide (slot second.timeTick = slot process.global.timeTick) = true := by
    apply List.Pairwise.imp_of_mem _ ordered.sorted
    intro first second left right earlier
    have past := ordered.past second right
    rw [decide_eq_true_iff, decide_eq_true_iff, inSlot first left, inSlot second right, now]
    omega
  have next := ordered.next
  constructor
  · intro free
    apply Nat.not_le.mp
    intro many
    have enough : 65536 ≤ process.drawn.length := Nat.le_trans many List.countP_le_length
    -- The call 65536 calls ago stood in this slot and had this ticket.
    have bound : process.drawn.length - 65536 < process.drawn.length := by omega
    have made := List.getElem?_eq_getElem bound
    have sameSlot := (count_from _ process.drawn closed _ _ made).mpr (by
      rw [callsInSlot] at many
      omega)
    have ticket := ordered.tickets _ _ made
    refine free _ (List.getElem_mem bound) (of_decide_eq_true sameSlot) ?_
    omega
  · intro few drawn member sameSlot sameTicket
    obtain ⟨call, made⟩ := List.getElem?_of_mem member
    have bound := (List.getElem?_eq_some_iff.mp made).1
    have late := (count_from _ process.drawn closed call drawn made).mp
      (decide_eq_true sameSlot)
    have ticket := ordered.tickets call drawn made
    rw [callsInSlot] at few
    omega

/-- In the runs whose calls find their ticket free, and in no others, the
numbers are distinct and not zero and the maps keep what they are handed. The
ticket is free as long as the slot has seen fewer than 65536 calls. -/
theorem serial_numbers_unique (timeTick appId : Nat) (trace : List Event) (after : Process) :
    (Run (Guarded Step Allowed) (newProcess timeTick appId) trace after ↔
      Run (Along Step fun process => Unique process ∧ Kept process)
        (newProcess timeTick appId) trace after) ∧
    (Run Step (newProcess timeTick appId) trace after →
      after.global.timeTick < 281474976710656 →
        (TicketFree after ↔ callsInSlot after < 65536)) := by
  constructor
  · apply guarded_iff_decided Sound
    · intro before event state sound good taken
      exact allowed_decides sound good taken
    · exact new_sound timeTick appId
    · refine ⟨⟨List.nodup_nil, List.not_mem_nil⟩, ?_⟩
      intro entry member
      cases member
  · intro run clock
    have ordered := run_invariant Ordered (fun _ _ _ kept taken => ordered_step kept taken) run
      (new_ordered timeTick appId)
    exact ticket_free_iff ordered clock

def drawnTwice : Process := draw (draw (newProcess 1600000000000 1))

def firstDraw : Draw :=
  ⟨1600000000000, 1, (generateSN (newProcess 1600000000000 1).global).1⟩

/-- The object 5 stands in a pool under the number of the first of two calls. -/
def pooled : Process :=
  { addTo drawnTwice (.pool 0) firstDraw.sn 5 with entered := drawnTwice.entered ++ [⟨.pool 0, 0, 5⟩] }

theorem pooled_run : Run (Guarded Step Allowed) (newProcess 1600000000000 1)
    [.generateSN, .generateSN, .add ⟨.pool 0, 0, 5⟩] pooled := by
  have first : Step drawnTwice (.add ⟨.pool 0, 0, 5⟩) pooled := by
    apply Step.add drawnTwice ⟨.pool 0, 0, 5⟩ firstDraw rfl
    intro other member
    cases member
  exact .next ⟨Step.generateSN _, by decide, Or.inl (by decide)⟩
    (.next ⟨Step.generateSN _, by decide, Or.inl (by decide)⟩ (.next ⟨first, trivial⟩ (.refl _)))

theorem serial_numbers_unique_pooled :
    Run (Along Step fun process => Unique process ∧ Kept process) (newProcess 1600000000000 1)
        [.generateSN, .generateSN, .add ⟨.pool 0, 0, 5⟩] pooled ∧
      (TicketFree pooled ↔ callsInSlot pooled < 65536) := by
  obtain ⟨decided, counted⟩ := serial_numbers_unique 1600000000000 1
    [.generateSN, .generateSN, .add ⟨.pool 0, 0, 5⟩] pooled
  exact ⟨decided.mp pooled_run, counted (guarded_run pooled_run) (by decide)⟩

/-! ### A slot with too many calls -/

def drawMany : Nat → Process → Process
  | 0, process => process
  | count + 1, process => drawMany count (draw process)

theorem draw_many_run (count : Nat) (process : Process) :
    Run Step process (List.replicate count .generateSN) (drawMany count process) := by
  induction count generalizing process with
  | zero => exact Run.refl process
  | succ count ih => exact Run.next (Step.generateSN process) (ih (draw process))

structure Rush (timeTick : Nat) (process : Process) : Prop where
  sound : Sound process
  ordered : Ordered process
  clock : process.global.timeTick = timeTick
  still : ∀ drawn ∈ process.drawn, drawn.timeTick = timeTick
  idle : process.entered = [] ∧ process.freed = [] ∧ process.caches = fun _ => emptyCache

theorem rush_draws (timeTick count : Nat) (process : Process) (rush : Rush timeTick process) :
    Rush timeTick (drawMany count process) ∧
      (drawMany count process).drawn.length = process.drawn.length + count := by
  induction count generalizing process with
  | zero => exact ⟨rush, rfl⟩
  | succ count ih =>
      have next : Rush timeTick (draw process) := by
        refine ⟨draw_sound rush.sound, ordered_step rush.ordered (Step.generateSN process),
          rush.clock, ?_, rush.idle⟩
        intro drawn member
        rcases List.mem_append.mp member with earlier | now
        · exact rush.still drawn earlier
        · rw [List.mem_singleton.mp now]
          exact rush.clock
      obtain ⟨kept, length⟩ := ih (draw process) next
      refine ⟨kept, length.trans ?_⟩
      simp only [draw, List.length_append, List.length_singleton]
      omega

/-- The second object under one number is dropped by the pool. -/
theorem second_dropped (cache : CacheRefresh) (sn first second : Nat)
    (fresh : entry cache sn = none) :
    entry (addObj (addObj cache sn first) sn second) sn = some first := by
  have stored := entry_add_obj cache sn first sn fresh
  rw [if_pos rfl] at stored
  have inside : sn ∈ (addObj cache sn first).adds := by
    apply OrderedMap.mem_of_get
    rw [get_add_obj cache sn first sn fresh, if_pos rfl]
  rw [← stored, entry, entry, ExtTreeMap.getElem?_union, ExtTreeMap.getElem?_union, addObj,
    ExtTreeMap.getElem?_insertIfNew]
  simp [inside]

theorem rush_repeats {timeTick call : Nat} {process : Process} (rush : Rush timeTick process)
    {one two : Draw} (first : process.drawn[call]? = some one)
    (last : process.drawn[call + 65536]? = some two) : one.sn = two.sn := by
  have oneMade := rush.sound.made one (List.mem_of_getElem? first)
  have twoMade := rush.sound.made two (List.mem_of_getElem? last)
  have agree := generate_sn_eq_iff (madeFrom process one) (madeFrom process two) rfl oneMade.1
    twoMade.1
  rw [oneMade.2, twoMade.2, agree]
  have oneTick := rush.still one (List.mem_of_getElem? first)
  have twoTick := rush.still two (List.mem_of_getElem? last)
  have oneTicket := rush.ordered.tickets call one first
  have twoTicket := rush.ordered.tickets (call + 65536) two last
  constructor
  · simp only [madeFrom, oneTick, twoTick]
  · simp only [madeFrom, oneTicket, twoTicket]
    omega

/-- A process that has drawn one number twice can hand a pool two packets
under it. -/
theorem repeated_drops {timeTick call : Nat} {process : Process} (rush : Rush timeTick process)
    {one two : Draw} (first : process.drawn[call]? = some one)
    (last : process.drawn[call + 65536]? = some two) :
    ∃ after, Run Step process [.add ⟨.pool 0, call, 0⟩, .add ⟨.pool 0, call + 65536, 1⟩] after ∧
      ¬ Unique after ∧ ¬ Kept after := by
  have same := rush_repeats rush first last
  have takenFirst := Step.add process ⟨.pool 0, call, 0⟩ one first (by simp [rush.idle.1])
  generalize middle : ({ addTo process (.pool 0) one.sn 0 with
    entered := process.entered ++ [⟨.pool 0, call, 0⟩] } : Process) = between at takenFirst
  have drawnSame : between.drawn = process.drawn := by
    rw [← middle]
    rfl
  have lastBetween : between.drawn[call + 65536]? = some two := by
    rw [drawnSame]
    exact last
  have takenSecond := Step.add between ⟨.pool 0, call + 65536, 1⟩ two lastBetween
    (by simp [← middle, rush.idle.1])
  refine ⟨_, Run.next takenFirst (Run.next takenSecond (Run.refl _)), ?_, ?_⟩
  · intro unique
    have equal : call = call + 65536 :=
      call_unique unique (drawnSame ▸ first) (drawnSame ▸ last) same
    omega
  · intro kept
    have stored := kept ⟨.pool 0, call + 65536, 1⟩
      (List.mem_append_right _ List.mem_cons_self) two (drawnSame ▸ last) (by
        simp [← middle, addTo, setCache, rush.idle.2.1])
    have empty : entry (process.caches 0) two.sn = none := by
      rw [rush.idle.2.2]
      exact entry_none.mpr ⟨ExtTreeMap.getElem?_empty, ExtTreeMap.getElem?_empty⟩
    have dropped := second_dropped (process.caches 0) two.sn 0 1 empty
    simp only [← middle, addTo, setCache, found, Function.update_self, same, dropped] at stored
    cases stored

theorem rush_reached (timeTick appId count : Nat) : ∃ process,
    Run Step (newProcess timeTick appId) (List.replicate count .generateSN) process ∧
      Rush timeTick process ∧ process.drawn.length = count := by
  have start : Rush timeTick (newProcess timeTick appId) := by
    refine ⟨new_sound _ _, new_ordered _ _, rfl, ?_, rfl, rfl, rfl⟩
    intro drawn member
    cases member
  obtain ⟨rush, length⟩ := rush_draws timeTick count _ start
  exact ⟨_, draw_many_run count _, rush, length.trans (Nat.zero_add count)⟩

/-- 65537 calls in one slot repeat a number, and a pool that is handed a packet
under each of the two drops the second one. -/
theorem slot_runs_out : ∃ trace after,
    Run Step (newProcess 1600000000000 1) trace after ∧ ¬ Unique after ∧ ¬ Kept after := by
  obtain ⟨process, calls, rush, length⟩ := rush_reached 1600000000000 1 65537
  have first := List.getElem?_eq_getElem (l := process.drawn) (i := 0) (by omega)
  have last := List.getElem?_eq_getElem (l := process.drawn) (i := 0 + 65536) (by omega)
  obtain ⟨after, run, broken⟩ := repeated_drops rush first last
  exact ⟨_, after, run_append calls run, broken⟩

end GameBook.SerialNumbers
