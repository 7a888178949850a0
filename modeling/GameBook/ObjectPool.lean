import Mathlib.Data.List.Perm.Basic
import Mathlib.Data.List.Range
import GameBook.LabelledRun
import GameBook.PacketPool

/-!
`DynamicObjectPool<T>` of object_pool.h for any component type, with
`IComponent::ComponentBackToPool` of component.cpp. An object is what lies at an
address: its serial number and its pool pointer, which is null or this pool.
The other fields of a component and what `Awake` does to them play no part.
-/

namespace GameBook.ObjectPool

open GameBook.LabelledRun GameBook.OrderedMap GameBook.PacketPool Std

structure Object where
  sn : Nat
  hasPool : Bool
  deriving DecidableEq, Repr

def newObject : Object := ⟨0, true⟩

/-- The objects made so far lie at the addresses below `created`. -/
structure Pool where
  objects : Nat → Object
  created : Nat
  free : List Nat
  objInUse : CacheRefresh

def newPool : Pool := ⟨fun _ => newObject, 0, [], emptyCache⟩

def create (pool : Pool) : Pool :=
  { pool with
    objects := Function.update pool.objects pool.created newObject
    created := pool.created + 1
    free := pool.free ++ [pool.created] }

def createMany : Nat → Pool → Pool
  | 0, pool => pool
  | count + 1, pool => createMany count (create pool)

/-- An empty pool grows by one object of a type with `IsSingle()`, else by fifty. -/
def refillFree (isSingle : Bool) (pool : Pool) : Pool :=
  if pool.free = [] then createMany (if isSingle then 1 else 50) pool else pool

/-- The serial number `MallocObject` gives: `generated` is what `GenerateSN` returns. -/
def givenSN (sn generated : Nat) : Nat := if sn = 0 then generated else sn

def mallocAt (pool : Pool) (address : Nat) (rest : List Nat) (sn : Nat) : Pool :=
  { pool with
    objects := Function.update pool.objects address ⟨sn, true⟩
    free := rest
    objInUse := addObj pool.objInUse sn address }

def mallocObject (isSingle : Bool) (pool : Pool) (sn generated : Nat) : Option (Nat × Pool) :=
  match (refillFree isSingle pool).free with
  | [] => none
  | address :: rest =>
      some (address, mallocAt (refillFree isSingle pool) address rest (givenSN sn generated))

/-- An object without serial number is only logged. -/
def freeObject (pool : Pool) (address : Nat) : Pool :=
  if (pool.objects address).sn = 0 then pool
  else { pool with objInUse := removeObj pool.objInUse (pool.objects address).sn }

def componentBackToPool (pool : Pool) (address : Nat) : Pool :=
  let freed := if (pool.objects address).hasPool then freeObject pool address else pool
  { freed with objects := Function.update freed.objects address ⟨0, false⟩ }

def setSN (object : Object) (sn : Nat) : Object := { object with sn := sn }

def recycled (pool : Pool) : List Nat :=
  if canSwap pool.objInUse then (swap pool.objInUse).2 else []

def resetSN (objects : Nat → Object) (addresses : List Nat) : Nat → Object :=
  fun address => if address ∈ addresses then setSN (objects address) 0 else objects address

def update (pool : Pool) : Pool :=
  if canSwap pool.objInUse then
    { pool with
      objects := resetSN pool.objects (recycled pool)
      free := pool.free ++ recycled pool
      objInUse := (swap pool.objInUse).1 }
  else pool

def InUse (pool : Pool) (address : Nat) : Prop := ∃ sn, entry pool.objInUse sn = some address

inductive Call where
  | malloc (sn generated address : Nat)
  | freeObject (address : Nat)
  | componentBackToPool (address : Nat)
  | update
  deriving DecidableEq, Repr

/-- Any object ever made may be freed at any time, also more than once. -/
inductive Step (isSingle : Bool) : Pool → Call → Pool → Prop where
  | malloc (before : Pool) (sn generated address : Nat) (after : Pool) :
      givenSN sn generated ≠ 0 →
      entry before.objInUse (givenSN sn generated) = none →
      mallocObject isSingle before sn generated = some (address, after) →
      Step isSingle before (.malloc sn generated address) after
  | freeObject (before : Pool) (address : Nat) :
      address < before.created →
      Step isSingle before (.freeObject address) (freeObject before address)
  | componentBackToPool (before : Pool) (address : Nat) :
      address < before.created →
      Step isSingle before (.componentBackToPool address) (componentBackToPool before address)
  | update (before : Pool) : Step isSingle before .update (update before)

def given (address : Nat) : Call → Option Nat
  | .malloc sn generated place => if place = address then some (givenSN sn generated) else none
  | _ => none

def allocatedWith : List Call → Nat → Option Nat
  | [], _ => none
  | call :: rest, address => (allocatedWith rest address).or (given address call)

def Frees (call : Call) (address : Nat) : Prop :=
  call = .freeObject address ∨ call = .componentBackToPool address

def places (pool : Pool) : List Nat :=
  pool.free ++ (values pool.objInUse.adds ++ values pool.objInUse.objs)

def numbers (pool : Pool) : List Nat := pool.objInUse.adds.keys ++ pool.objInUse.objs.keys

/-! ### What every call keeps -/

/-- Every object made is free without a number or stands under one number; where
its own number is gone, the one it stands under waits to be removed. -/
structure Kept (pool : Pool) : Prop where
  held : ∀ (sn address : Nat), entry pool.objInUse sn = some address →
    sn ≠ 0 ∧ address ∉ pool.free ∧ address < pool.created ∧
      (pool.objects address = ⟨sn, true⟩ ∨
        pool.objects address = ⟨0, false⟩ ∧ sn ∈ pool.objInUse.removes)
  single : ∀ (first second address : Nat), entry pool.objInUse first = some address →
    entry pool.objInUse second = some address → first = second
  apart : ∀ (sn address : Nat), pool.objInUse.adds[sn]? = some address →
    pool.objInUse.objs[sn]? = none
  once : pool.free.Nodup
  made : ∀ address ∈ pool.free, address < pool.created ∧ (pool.objects address).sn = 0
  covered : ∀ address < pool.created, address ∈ pool.free ∨ InUse pool address

theorem new_pool_kept : Kept newPool := by
  have empty : ∀ sn, entry newPool.objInUse sn = none := by
    intro sn
    exact entry_none.mpr ⟨ExtTreeMap.getElem?_empty, ExtTreeMap.getElem?_empty⟩
  constructor
  · intro sn address held
    rw [empty sn] at held
    cases held
  · intro first second address held
    rw [empty first] at held
    cases held
  · intro sn address held
    exact ExtTreeMap.getElem?_empty
  · exact List.nodup_nil
  · intro address member
    cases member
  · intro address small
    cases small

theorem create_kept (pool : Pool) (kept : Kept pool) : Kept (create pool) := by
  have other : ∀ address, address < pool.created →
      (create pool).objects address = pool.objects address := by
    intro address small
    exact Function.update_of_ne (Nat.ne_of_lt small) _ _
  constructor
  · intro sn address held
    obtain ⟨positive, notFree, small, own⟩ := kept.held sn address held
    refine ⟨positive, ?_, Nat.lt_succ_of_lt small, ?_⟩
    · intro member
      rcases List.mem_append.mp member with old | new
      · exact notFree old
      · exact Nat.ne_of_lt small (List.mem_singleton.mp new)
    · rw [other address small]
      exact own
  · exact kept.single
  · exact kept.apart
  · apply List.nodup_append.mpr
    refine ⟨kept.once, List.nodup_singleton _, ?_⟩
    intro address old last new same
    rw [List.mem_singleton.mp new] at same
    exact Nat.ne_of_lt (kept.made address old).1 same
  · intro address member
    rcases List.mem_append.mp member with old | new
    · obtain ⟨small, unnumbered⟩ := kept.made address old
      rw [other address small]
      exact ⟨Nat.lt_succ_of_lt small, unnumbered⟩
    · rw [List.mem_singleton.mp new]
      refine ⟨Nat.lt_succ_self _, ?_⟩
      exact congrArg Object.sn (Function.update_self pool.created newObject pool.objects)
  · intro address small
    rcases Nat.lt_succ_iff_lt_or_eq.mp small with old | new
    · rcases kept.covered address old with free | used
      · exact Or.inl (List.mem_append_left _ free)
      · exact Or.inr used
    · left
      apply List.mem_append_right
      exact List.mem_singleton.mpr new

theorem create_many_kept (count : Nat) (pool : Pool) (kept : Kept pool) :
    Kept (createMany count pool) ∧ (createMany count pool).objInUse = pool.objInUse ∧
      pool.created ≤ (createMany count pool).created := by
  induction count generalizing pool with
  | zero => exact ⟨kept, rfl, Nat.le_refl _⟩
  | succ count ih =>
      obtain ⟨later, cache, grown⟩ := ih (create pool) (create_kept pool kept)
      exact ⟨later, cache, Nat.le_of_succ_le grown⟩

theorem create_many_free (count : Nat) (pool : Pool) :
    (createMany count pool).free = pool.free ++ List.range' pool.created count := by
  induction count generalizing pool with
  | zero => simp [createMany]
  | succ count ih =>
      rw [createMany, ih]
      simp [create, List.range'_succ]

theorem refill_free_kept (isSingle : Bool) (pool : Pool) (kept : Kept pool) :
    Kept (refillFree isSingle pool) ∧ (refillFree isSingle pool).objInUse = pool.objInUse := by
  unfold refillFree
  split
  · obtain ⟨later, cache, _⟩ := create_many_kept (if isSingle then 1 else 50) pool kept
    exact ⟨later, cache⟩
  · exact ⟨kept, rfl⟩

theorem refill_free_some (isSingle : Bool) (pool : Pool) :
    ∃ address rest, (refillFree isSingle pool).free = address :: rest := by
  unfold refillFree
  split
  · rename_i empty
    rw [create_many_free, empty]
    cases isSingle with
    | true => exact ⟨_, _, rfl⟩
    | false => exact ⟨_, _, rfl⟩
  · rename_i filled
    exact List.exists_cons_of_ne_nil filled

theorem malloc_at_kept (pool : Pool) (address : Nat) (rest : List Nat) (sn : Nat)
    (kept : Kept pool) (front : pool.free = address :: rest) (positive : sn ≠ 0)
    (fresh : entry pool.objInUse sn = none) : Kept (mallocAt pool address rest sn) := by
  have adding : ∀ other, entry (mallocAt pool address rest sn).objInUse other =
      if other = sn then some address else entry pool.objInUse other :=
    fun other => entry_add_obj pool.objInUse sn address other fresh
  have here : (mallocAt pool address rest sn).objects address = ⟨sn, true⟩ :=
    Function.update_self _ _ _
  have other : ∀ place, place ≠ address →
      (mallocAt pool address rest sn).objects place = pool.objects place :=
    fun place different => Function.update_of_ne different _ _
  have isFree : address ∈ pool.free := front ▸ List.mem_cons_self
  obtain ⟨new, others⟩ := List.nodup_cons.mp (front ▸ kept.once)
  have elsewhere : ∀ (number place : Nat), entry pool.objInUse number = some place →
      place ≠ address := by
    intro number place held same
    exact (kept.held number place held).2.1 (same ▸ isFree)
  constructor
  · intro number place held
    rw [adding] at held
    split at held
    · rename_i same
      obtain rfl := Option.some.inj held
      subst same
      exact ⟨positive, new, (kept.made address isFree).1, Or.inl here⟩
    · obtain ⟨numbered, notFree, small, own⟩ := kept.held number place held
      rw [other place (elsewhere number place held)]
      refine ⟨numbered, ?_, small, own⟩
      intro member
      exact notFree (front ▸ List.mem_cons_of_mem _ member)
  · intro first second place left right
    rw [adding] at left right
    split at left
    · split at right
      · simp_all
      · cases left
        exact absurd rfl (elsewhere second _ right)
    · split at right
      · cases right
        exact absurd rfl (elsewhere first _ left)
      · exact kept.single first second place left right
  · intro number place held
    have added := (get_add_obj pool.objInUse sn address number fresh).symm.trans held
    split at added
    · rename_i same
      rw [same]
      exact (entry_none.mp fresh).1
    · exact kept.apart number place added
  · exact others
  · intro place member
    have old : place ∈ pool.free := front ▸ List.mem_cons_of_mem _ member
    have different : place ≠ address := fun same => new (same ▸ member)
    rw [other place different]
    exact kept.made place old
  · intro place small
    by_cases same : place = address
    · subst same
      right
      exact ⟨sn, (adding sn).trans (if_pos rfl)⟩
    · rcases kept.covered place small with free | ⟨number, held⟩
      · left
        rcases List.mem_cons.mp (front ▸ free) with first | later
        · exact absurd first same
        · exact later
      · right
        refine ⟨number, (adding number).trans ?_⟩
        rw [if_neg, held]
        intro clash
        rw [clash, fresh] at held
        cases held

theorem malloc_object_spec (isSingle : Bool) (pool : Pool) (kept : Kept pool)
    (sn generated : Nat) {address : Nat} {after : Pool}
    (taken : mallocObject isSingle pool sn generated = some (address, after)) :
    ¬InUse pool address ∧ ∃ rest, (refillFree isSingle pool).free = address :: rest ∧
      after = mallocAt (refillFree isSingle pool) address rest (givenSN sn generated) := by
  obtain ⟨refilled, cache⟩ := refill_free_kept isSingle pool kept
  unfold mallocObject at taken
  split at taken
  · cases taken
  · rename_i first rest front
    obtain ⟨rfl, rfl⟩ := Prod.mk.inj (Option.some.inj taken)
    refine ⟨?_, rest, front, rfl⟩
    rintro ⟨number, held⟩
    rw [← cache] at held
    exact (refilled.held number first held).2.1 (front ▸ List.mem_cons_self)

theorem free_object_kept (pool : Pool) (address : Nat) (kept : Kept pool) :
    Kept (freeObject pool address) := by
  unfold freeObject
  split
  · exact kept
  · refine ⟨?_, kept.single, kept.apart, kept.once, kept.made, kept.covered⟩
    intro sn place held
    obtain ⟨positive, notFree, small, own⟩ := kept.held sn place held
    refine ⟨positive, notFree, small, ?_⟩
    rcases own with untouched | ⟨gone, waits⟩
    · exact Or.inl untouched
    · exact Or.inr ⟨gone, List.mem_append_left _ waits⟩

theorem free_object_waits (pool : Pool) (kept : Kept pool) {sn address : Nat}
    (held : entry pool.objInUse sn = some address) :
    sn ∈ (freeObject pool address).objInUse.removes := by
  obtain ⟨positive, -, -, own⟩ := kept.held sn address held
  rcases own with untouched | ⟨gone, waits⟩
  · have number : (pool.objects address).sn = sn := congrArg Object.sn untouched
    rw [freeObject, number, if_neg positive]
    exact List.mem_append_right _ (List.mem_singleton_self sn)
  · rw [freeObject, gone, if_pos rfl]
    exact waits

theorem free_object_entry (pool : Pool) (address sn : Nat) :
    entry (freeObject pool address).objInUse sn = entry pool.objInUse sn := by
  unfold freeObject
  split <;> rfl

theorem back_to_pool_cases (pool : Pool) (kept : Kept pool) (address : Nat) :
    (componentBackToPool pool address = { freeObject pool address with
      objects := Function.update pool.objects address ⟨0, false⟩ }) ∨
    (componentBackToPool pool address = { pool with
      objects := Function.update pool.objects address ⟨0, false⟩ } ∧
      ∀ sn, entry pool.objInUse sn = some address → sn ∈ pool.objInUse.removes) := by
  cases attached : (pool.objects address).hasPool with
  | true =>
      left
      have same : (freeObject pool address).objects = pool.objects := by
        unfold freeObject
        split <;> rfl
      simp [componentBackToPool, attached, same]
  | false =>
      right
      refine ⟨by simp [componentBackToPool, attached], ?_⟩
      intro sn held
      rcases (kept.held sn address held).2.2.2 with untouched | ⟨_, waits⟩
      · rw [untouched] at attached
        cases attached
      · exact waits

/-- The number of an object that waits to be removed may be set to 0. -/
theorem clear_kept (pool : Pool) (address : Nat) (kept : Kept pool)
    (waits : ∀ sn, entry pool.objInUse sn = some address → sn ∈ pool.objInUse.removes) :
    Kept { pool with objects := Function.update pool.objects address ⟨0, false⟩ } := by
  have here : Function.update pool.objects address ⟨0, false⟩ address = ⟨0, false⟩ :=
    Function.update_self _ _ _
  refine ⟨?_, kept.single, kept.apart, kept.once, ?_, kept.covered⟩
  · intro sn place held
    obtain ⟨positive, notFree, small, own⟩ := kept.held sn place held
    refine ⟨positive, notFree, small, ?_⟩
    by_cases same : place = address
    · subst same
      exact Or.inr ⟨here, waits sn held⟩
    · simpa only [Function.update_of_ne same] using own
  · intro place member
    obtain ⟨small, unnumbered⟩ := kept.made place member
    refine ⟨small, ?_⟩
    by_cases same : place = address
    · subst same
      exact congrArg Object.sn here
    · simpa only [Function.update_of_ne same] using unnumbered

theorem back_to_pool_kept (pool : Pool) (address : Nat) (kept : Kept pool) :
    Kept (componentBackToPool pool address) := by
  rcases back_to_pool_cases pool kept address with freed | ⟨again, waits⟩
  · rw [freed]
    have objects : (freeObject pool address).objects = pool.objects := by
      unfold freeObject
      split <;> rfl
    rw [← objects]
    apply clear_kept _ _ (free_object_kept pool address kept)
    intro sn held
    rw [free_object_entry] at held
    exact free_object_waits pool kept held
  · rw [again]
    exact clear_kept pool address kept waits

theorem frees_spec {isSingle : Bool} {before after : Pool} {call : Call} {address : Nat}
    (kept : Kept before) (frees : Frees call address) (taken : Step isSingle before call after) :
    (∀ sn, entry after.objInUse sn = entry before.objInUse sn) ∧
    ∀ sn, entry before.objInUse sn = some address → sn ∈ after.objInUse.removes := by
  rcases frees with rfl | rfl
  · cases taken
    exact ⟨free_object_entry before address, fun sn held => free_object_waits before kept held⟩
  · cases taken
    rcases back_to_pool_cases before kept address with freed | ⟨again, waits⟩
    · rw [freed]
      exact ⟨free_object_entry before address, fun sn held => free_object_waits before kept held⟩
    · rw [again]
      exact ⟨fun sn => rfl, waits⟩

/-! ### What a turn of the pool recycles -/

theorem recycled_mem (pool : Pool) (address : Nat) :
    address ∈ recycled pool ↔
      ∃ sn ∈ pool.objInUse.removes, entry pool.objInUse sn = some address := by
  unfold recycled
  cases turn : canSwap pool.objInUse with
  | true =>
      rw [if_pos rfl]
      exact recycle_mem _ _ address
  | false =>
      rw [if_neg (by simp), (can_swap_false turn).2]
      simp

theorem recycled_nodup (pool : Pool) (kept : Kept pool) : (recycled pool).Nodup := by
  unfold recycled
  split
  · exact recycle_nodup _ _ kept.single
  · exact List.nodup_nil

theorem update_free (pool : Pool) : (update pool).free = pool.free ++ recycled pool := by
  unfold update recycled
  split
  · rfl
  · simp

theorem update_entry (pool : Pool) (sn : Nat) :
    entry (update pool).objInUse sn =
      if sn ∈ pool.objInUse.removes then none else entry pool.objInUse sn := by
  unfold update
  split
  · exact swap_entry pool.objInUse sn
  · rename_i idle
    rw [(can_swap_false (by simpa using idle)).2]
    simp

theorem update_objects (pool : Pool) (address : Nat) :
    (update pool).objects address =
      if address ∈ recycled pool then setSN (pool.objects address) 0 else pool.objects address := by
  unfold update
  split
  · rfl
  · rename_i idle
    simp [recycled, idle]

theorem update_created (pool : Pool) : (update pool).created = pool.created := by
  unfold update
  split <;> rfl

theorem update_adds (pool : Pool) (sn : Nat) : (update pool).objInUse.adds[sn]? = none := by
  unfold update
  split
  · exact ExtTreeMap.getElem?_empty
  · rename_i idle
    rw [(can_swap_false (by simpa using idle)).1]
    exact ExtTreeMap.getElem?_empty

theorem update_kept (pool : Pool) (kept : Kept pool) : Kept (update pool) := by
  have mem := recycled_mem pool
  have stays : ∀ (sn address : Nat), entry (update pool).objInUse sn = some address →
      sn ∉ pool.objInUse.removes ∧ entry pool.objInUse sn = some address := by
    intro sn address held
    rw [update_entry] at held
    split at held
    · cases held
    · exact ⟨‹_›, held⟩
  constructor
  · intro sn address held
    obtain ⟨unmarked, old⟩ := stays sn address held
    obtain ⟨positive, notFree, small, own⟩ := kept.held sn address old
    have outside : address ∉ recycled pool := by
      intro gone
      obtain ⟨other, removed, target⟩ := (mem address).mp gone
      exact unmarked (kept.single sn other address old target ▸ removed)
    rw [update_objects, if_neg outside, update_free, update_created]
    refine ⟨positive, ?_, small, ?_⟩
    · intro member
      rcases List.mem_append.mp member with free | gone
      · exact notFree free
      · exact outside gone
    · rcases own with untouched | ⟨_, waits⟩
      · exact Or.inl untouched
      · exact absurd waits unmarked
  · intro first second address left right
    exact kept.single first second address (stays first address left).2 (stays second address right).2
  · intro sn address held
    rw [update_adds] at held
    cases held
  · rw [update_free]
    apply List.nodup_append.mpr
    refine ⟨kept.once, recycled_nodup pool kept, ?_⟩
    intro address old other new same
    subst same
    obtain ⟨sn, _, held⟩ := (mem address).mp new
    exact (kept.held sn address held).2.1 old
  · intro address member
    rw [update_free] at member
    rw [update_created, update_objects]
    rcases List.mem_append.mp member with old | new
    · obtain ⟨small, unnumbered⟩ := kept.made address old
      refine ⟨small, ?_⟩
      split
      · rfl
      · exact unnumbered
    · obtain ⟨sn, _, held⟩ := (mem address).mp new
      rw [if_pos new]
      exact ⟨(kept.held sn address held).2.2.1, rfl⟩
  · intro address small
    rw [update_created] at small
    rw [update_free]
    by_cases gone : address ∈ recycled pool
    · exact Or.inl (List.mem_append_right _ gone)
    · rcases kept.covered address small with free | ⟨sn, held⟩
      · exact Or.inl (List.mem_append_left _ free)
      · right
        refine ⟨sn, ?_⟩
        rw [update_entry, if_neg, held]
        intro removed
        exact gone ((mem address).mpr ⟨sn, removed, held⟩)

theorem step_kept {isSingle : Bool} {before after : Pool} {call : Call} (kept : Kept before)
    (taken : Step isSingle before call after) : Kept after := by
  cases taken with
  | malloc sn generated address _ positive fresh taken =>
      obtain ⟨_, rest, front, rfl⟩ := malloc_object_spec isSingle before kept sn generated taken
      obtain ⟨refilled, cache⟩ := refill_free_kept isSingle before kept
      rw [← cache] at fresh
      exact malloc_at_kept _ address rest _ refilled front positive fresh
  | freeObject address _ => exact free_object_kept before address kept
  | componentBackToPool address _ => exact back_to_pool_kept before address kept
  | update => exact update_kept before kept

/-! ### What a run keeps -/

theorem step_entry {isSingle : Bool} {before after : Pool} {call : Call} (kept : Kept before)
    (taken : Step isSingle before call after) {sn address : Nat}
    (held : entry after.objInUse sn = some address) :
    given address call = some sn ∨
      given address call = none ∧ entry before.objInUse sn = some address := by
  cases taken with
  | malloc asked generated place _ _ fresh taken =>
      obtain ⟨unused, rest, front, rfl⟩ := malloc_object_spec isSingle before kept asked generated taken
      have cache := (refill_free_kept isSingle before kept).2
      have adding := entry_add_obj (refillFree isSingle before).objInUse (givenSN asked generated)
        place sn (cache ▸ fresh)
      have found := adding.symm.trans held
      rw [given]
      split at found
      · rename_i same
        left
        rw [if_pos (Option.some.inj found), same]
      · rw [cache] at found
        right
        refine ⟨if_neg ?_, found⟩
        intro same
        exact unused ⟨sn, same ▸ found⟩
  | freeObject place _ =>
      right
      rw [free_object_entry] at held
      exact ⟨rfl, held⟩
  | componentBackToPool place small =>
      right
      have frees : Frees (.componentBackToPool place) place := Or.inr rfl
      have taken : Step isSingle before (.componentBackToPool place) _ :=
        .componentBackToPool before place small
      have same := (frees_spec kept frees taken).1 sn
      exact ⟨rfl, same ▸ held⟩
  | update =>
      right
      rw [update_entry] at held
      split at held
      · cases held
      · exact ⟨rfl, held⟩

theorem run_kept {isSingle : Bool} {trace : List Call} {before after : Pool}
    (run : Run (Step isSingle) before trace after) (kept : Kept before) : Kept after :=
  run_invariant Kept (fun _ _ _ holds taken => step_kept holds taken) run kept

theorem run_entry {isSingle : Bool} {trace : List Call} {before after : Pool} {sn address : Nat}
    (run : Run (Step isSingle) before trace after) (kept : Kept before)
    (held : entry after.objInUse sn = some address) :
    allocatedWith trace address = some sn ∨
      allocatedWith trace address = none ∧ entry before.objInUse sn = some address := by
  induction run with
  | refl => exact Or.inr ⟨rfl, held⟩
  | next taken _ ih =>
      rw [allocatedWith]
      rcases ih (step_kept kept taken) held with later | ⟨none, earlier⟩
      · rw [later]
        exact Or.inl rfl
      · rw [none]
        exact step_entry kept taken earlier

theorem step_waits {isSingle : Bool} {before after : Pool} {call : Call} (kept : Kept before)
    (taken : Step isSingle before call after) (noTurn : call ≠ .update) {sn address : Nat}
    (held : entry before.objInUse sn = some address) (waits : sn ∈ before.objInUse.removes) :
    entry after.objInUse sn = some address ∧ sn ∈ after.objInUse.removes := by
  cases taken with
  | malloc asked generated place _ _ fresh taken =>
      obtain ⟨_, rest, front, rfl⟩ := malloc_object_spec isSingle before kept asked generated taken
      have cache := (refill_free_kept isSingle before kept).2
      have adding := entry_add_obj (refillFree isSingle before).objInUse (givenSN asked generated)
        place sn (cache ▸ fresh)
      constructor
      · refine adding.trans ?_
        rw [if_neg, cache, held]
        intro clash
        rw [clash, fresh] at held
        cases held
      · have same := congrArg CacheRefresh.removes cache
        exact same.symm ▸ waits
  | freeObject place _ =>
      rw [free_object_entry]
      refine ⟨held, ?_⟩
      unfold freeObject
      split
      · exact waits
      · exact List.mem_append_left _ waits
  | componentBackToPool place small =>
      rcases back_to_pool_cases before kept place with freed | ⟨again, _⟩
      · rw [freed]
        refine ⟨(free_object_entry before place sn).trans held, ?_⟩
        unfold freeObject
        split
        · exact waits
        · exact List.mem_append_left _ waits
      · rw [again]
        exact ⟨held, waits⟩
  | update => exact absurd rfl noTurn

theorem run_waits {isSingle : Bool} {trace : List Call} {before after : Pool}
    (run : Run (Step isSingle) before trace after) (kept : Kept before)
    (noTurn : Call.update ∉ trace) {sn address : Nat}
    (held : entry before.objInUse sn = some address) (waits : sn ∈ before.objInUse.removes) :
    entry after.objInUse sn = some address ∧ sn ∈ after.objInUse.removes := by
  induction run with
  | refl => exact ⟨held, waits⟩
  | next taken _ ih =>
      obtain ⟨first, rest⟩ := not_or.mp (mt List.mem_cons.mpr noTurn)
      obtain ⟨stays, still⟩ := step_waits kept taken (Ne.symm first) held waits
      exact ih (step_kept kept taken) rest stays still

theorem in_use_iff (pool : Pool) (kept : Kept pool) (address : Nat) :
    InUse pool address ↔
      address ∈ values pool.objInUse.adds ∨ address ∈ values pool.objInUse.objs := by
  rw [mem_values, mem_values]
  constructor
  · rintro ⟨sn, held⟩
    rcases entry_cases held with stored | ⟨_, added⟩
    · exact Or.inr ⟨sn, stored⟩
    · exact Or.inl ⟨sn, added⟩
  · rintro (⟨sn, added⟩ | ⟨sn, stored⟩)
    · refine ⟨sn, ?_⟩
      rw [entry, ExtTreeMap.getElem?_union, kept.apart sn address added]
      exact added
    · exact ⟨sn, entry_of_objs stored⟩

theorem entry_of_adds (pool : Pool) (kept : Kept pool) {sn address : Nat}
    (added : pool.objInUse.adds[sn]? = some address) :
    entry pool.objInUse sn = some address := by
  rw [entry, ExtTreeMap.getElem?_union, kept.apart sn address added]
  exact added

/-- The three containers together hold every object made exactly once. -/
theorem places_perm (pool : Pool) (kept : Kept pool) :
    (places pool).Perm (List.range pool.created) := by
  have used := in_use_iff pool kept
  have notFree : ∀ address, InUse pool address → address ∉ pool.free := by
    rintro address ⟨sn, held⟩
    exact (kept.held sn address held).2.1
  apply (List.perm_ext_iff_of_nodup ?_ List.nodup_range).mpr
  · intro address
    rw [places, List.mem_append, List.mem_append, ← used, List.mem_range]
    constructor
    · rintro (free | ⟨sn, held⟩)
      · exact (kept.made address free).1
      · exact (kept.held sn address held).2.2.1
    · exact kept.covered address
  · apply List.nodup_append.mpr
    refine ⟨kept.once, ?_, ?_⟩
    · apply List.nodup_append.mpr
      refine ⟨?_, ?_, ?_⟩
      · apply values_nodup
        intro first second address left right
        exact kept.single first second address (entry_of_adds pool kept left)
          (entry_of_adds pool kept right)
      · apply values_nodup
        intro first second address left right
        exact kept.single first second address (entry_of_objs left) (entry_of_objs right)
      · intro address left other right same
        subst same
        obtain ⟨first, added⟩ := (mem_values _ _).mp left
        obtain ⟨second, stored⟩ := (mem_values _ _).mp right
        have one := kept.single first second address (entry_of_adds pool kept added)
          (entry_of_objs stored)
        rw [← one, kept.apart first address added] at stored
        cases stored
    · intro address free other inUse same
      subst same
      exact notFree address ((used address).mpr (List.mem_append.mp inUse)) free

theorem numbers_nodup (pool : Pool) (kept : Kept pool) : (numbers pool).Nodup := by
  apply List.nodup_append.mpr
  refine ⟨ExtTreeMap.nodup_keys, ExtTreeMap.nodup_keys, ?_⟩
  intro sn left other right same
  subst same
  have stored := ExtTreeMap.mem_iff_isSome_getElem?.mp (ExtTreeMap.mem_keys.mp right)
  obtain ⟨address, added⟩ := Option.isSome_iff_exists.mp
    (ExtTreeMap.mem_iff_isSome_getElem?.mp (ExtTreeMap.mem_keys.mp left))
  rw [kept.apart sn address added] at stored
  cases stored

/-- The law of conservation after the calls of a trace: every object made is in
one place, free ones without a number, those in use under the number they were
last allocated with. -/
structure Conserved (trace : List Call) (pool : Pool) : Prop where
  places : (places pool).Perm (List.range pool.created)
  freeOnce : pool.free.Nodup
  freeSN : ∀ address ∈ pool.free, (pool.objects address).sn = 0
  allocated : ∀ (sn address : Nat), pool.objInUse.adds[sn]? = some address ∨
    pool.objInUse.objs[sn]? = some address → sn ≠ 0 ∧ allocatedWith trace address = some sn
  numbers : (numbers pool).Nodup

theorem conserved_of_run {isSingle : Bool} {trace : List Call} {pool : Pool}
    (run : Run (Step isSingle) newPool trace pool) : Conserved trace pool := by
  have kept := run_kept run new_pool_kept
  refine ⟨places_perm pool kept, kept.once, fun address free => (kept.made address free).2, ?_,
    numbers_nodup pool kept⟩
  intro sn address stands
  have held : entry pool.objInUse sn = some address := by
    rcases stands with added | stored
    · exact entry_of_adds pool kept added
    · exact entry_of_objs stored
  refine ⟨(kept.held sn address held).1, ?_⟩
  rcases run_entry run new_pool_kept held with last | ⟨_, first⟩
  · exact last
  · have empty : entry newPool.objInUse sn = none :=
      entry_none.mpr ⟨ExtTreeMap.getElem?_empty, ExtTreeMap.getElem?_empty⟩
    rw [empty] at first
    cases first

/-- In every run the pool conserves its objects, hands out only what is not in
use, and recycles at its next turn what has been freed, however fresh. -/
theorem object_pool_conserved (isSingle : Bool) {trace : List Call} {pool : Pool}
    (run : Run (Step isSingle) newPool trace pool) :
    Conserved trace pool ∧
    (∀ sn generated, ∃ address after,
      mallocObject isSingle pool sn generated = some (address, after) ∧ ¬InUse pool address) ∧
    ∀ (call : Call) (address : Nat) (rest : List Call) (later : Pool),
      Frees call address → InUse pool address →
      Run (Step isSingle) pool (call :: rest) later → Call.update ∉ rest →
      address ∈ (update later).free := by
  have kept := run_kept run new_pool_kept
  refine ⟨conserved_of_run run, ?_, ?_⟩
  · intro sn generated
    obtain ⟨address, rest, front⟩ := refill_free_some isSingle pool
    have taken : mallocObject isSingle pool sn generated = some (address,
        mallocAt (refillFree isSingle pool) address rest (givenSN sn generated)) := by
      rw [mallocObject, front]
    exact ⟨address, _, taken, (malloc_object_spec isSingle pool kept sn generated taken).1⟩
  · intro call address rest later frees used continued noTurn
    cases continued with
    | next taken tail =>
        obtain ⟨sn, held⟩ := used
        obtain ⟨stays, waits⟩ := frees_spec kept frees taken
        have waiting := run_waits tail (step_kept kept taken) noTurn
          ((stays sn).trans held) (waits sn held)
        rw [update_free]
        apply List.mem_append_right
        exact (recycled_mem later address).mpr ⟨sn, waiting.2, waiting.1⟩

/-- An object made with number 7 and freed twice before its first turn. -/
theorem object_pool_conserved_once :
    ∃ (pool later : Pool), Run (Step true) newPool [.malloc 7 0 0] pool ∧
      Run (Step true) pool [.componentBackToPool 0, .freeObject 0, .malloc 0 9 1] later ∧
      Conserved [.malloc 7 0 0] pool ∧ 0 ∈ (update later).free := by
  have made : ∃ pool : Pool, Run (Step true) newPool [.malloc 7 0 0] pool ∧ InUse pool 0 ∧
      ∃ later, Run (Step true) pool [.componentBackToPool 0, .freeObject 0, .malloc 0 9 1] later :=
    ⟨_, .next (.malloc newPool 7 0 0 _ (by decide) (by decide) rfl) (.refl _),
      ⟨7, by decide⟩, _,
      .next (.componentBackToPool _ 0 (by decide)) (.next (.freeObject _ 0 (by decide))
        (.next (.malloc _ 0 9 1 _ (by decide) (by decide) rfl) (.refl _)))⟩
  obtain ⟨pool, run, used, later, continued⟩ := made
  obtain ⟨conserved, -, turn⟩ := object_pool_conserved true run
  exact ⟨pool, later, run, continued, conserved,
    turn _ 0 _ later (Or.inr rfl) used continued (by simp)⟩

/-! ### Objects that are lent -/

/-- The object at the address is in use and has not been freed. -/
def Lent (pool : Pool) (address : Nat) : Prop :=
  ∃ sn, entry pool.objInUse sn = some address ∧ sn ∉ pool.objInUse.removes

theorem lent_below {pool : Pool} {address : Nat} (kept : Kept pool) (lent : Lent pool address) :
    address < pool.created := by
  obtain ⟨sn, held, -⟩ := lent
  exact (kept.held sn address held).2.2.1

theorem lent_number {pool : Pool} {sn address place : Nat} (kept : Kept pool)
    (held : entry pool.objInUse sn = some address) (made : place < pool.created)
    (apart : place ≠ address) : (pool.objects place).sn ≠ sn := by
  have positive := (kept.held sn address held).1
  rcases kept.covered place made with free | ⟨other, stands⟩
  · rw [(kept.made place free).2]
    exact Ne.symm positive
  · rcases (kept.held other place stands).2.2.2 with own | ⟨gone, -⟩
    · rw [own]
      rintro rfl
      rw [held] at stands
      exact apart (Option.some.inj stands).symm
    · rw [gone]
      exact Ne.symm positive

theorem lent_free_object {pool : Pool} {address place : Nat} (kept : Kept pool) (lent : Lent pool address)
    (made : place < pool.created) (apart : place ≠ address) : Lent (freeObject pool place) address := by
  obtain ⟨sn, held, stays⟩ := lent
  refine ⟨sn, (free_object_entry pool place sn).trans held, ?_⟩
  unfold freeObject
  split
  · exact stays
  · intro removed
    rcases List.mem_append.mp removed with before | now
    · exact stays before
    · exact lent_number kept held made apart (List.mem_singleton.mp now).symm

theorem lent_back_to_pool {pool : Pool} {address place : Nat} (kept : Kept pool)
    (lent : Lent pool address) (made : place < pool.created) (apart : place ≠ address) :
    Lent (componentBackToPool pool place) address := by
  rcases back_to_pool_cases pool kept place with freed | ⟨again, -⟩
  · rw [freed]
    exact lent_free_object kept lent made apart
  · rw [again]
    exact lent

theorem malloc_lent {isSingle : Bool} {pool after : Pool} {sn generated address : Nat} (kept : Kept pool)
    (fresh : entry pool.objInUse (givenSN sn generated) = none)
    (taken : mallocObject isSingle pool sn generated = some (address, after)) :
    (givenSN sn generated ∉ pool.objInUse.removes → Lent after address) ∧
    ∀ other, Lent pool other → other ≠ address ∧ Lent after other := by
  obtain ⟨unused, rest, front, rfl⟩ := malloc_object_spec isSingle pool kept sn generated taken
  have cache := (refill_free_kept isSingle pool kept).2
  have adding : ∀ number, entry (mallocAt (refillFree isSingle pool) address rest
      (givenSN sn generated)).objInUse number =
        if number = givenSN sn generated then some address else entry pool.objInUse number := by
    intro number
    have added := entry_add_obj (refillFree isSingle pool).objInUse (givenSN sn generated) address number
      (cache ▸ fresh)
    refine added.trans ?_
    rw [cache]
  have removes : (mallocAt (refillFree isSingle pool) address rest
      (givenSN sn generated)).objInUse.removes = pool.objInUse.removes := by
    change (refillFree isSingle pool).objInUse.removes = pool.objInUse.removes
    rw [cache]
  constructor
  · intro unremoved
    exact ⟨_, by rw [adding, if_pos rfl], by rw [removes]; exact unremoved⟩
  · rintro other ⟨number, held, stays⟩
    constructor
    · rintro rfl
      exact unused ⟨number, held⟩
    · refine ⟨number, ?_, by rw [removes]; exact stays⟩
      rw [adding, if_neg, held]
      rintro rfl
      rw [fresh] at held
      cases held

theorem lent_step {isSingle : Bool} {before after : Pool} {call : Call} {address : Nat}
    (kept : Kept before) (taken : Step isSingle before call after) (lent : Lent before address)
    (spared : ¬Frees call address) : Lent after address := by
  cases taken with
  | malloc sn generated place _ positive fresh taken =>
      exact ((malloc_lent kept fresh taken).2 address lent).2
  | freeObject place made =>
      exact lent_free_object kept lent made fun same => spared (Or.inl (by rw [same]))
  | componentBackToPool place made =>
      exact lent_back_to_pool kept lent made fun same => spared (Or.inr (by rw [same]))
  | update =>
      obtain ⟨sn, held, stays⟩ := lent
      refine ⟨sn, by rw [update_entry, if_neg stays, held], ?_⟩
      unfold update
      split
      · exact List.not_mem_nil
      · exact stays

end GameBook.ObjectPool
