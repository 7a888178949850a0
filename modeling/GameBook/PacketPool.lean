import Mathlib.Data.List.Nodup
import Mathlib.Logic.Function.Basic
import GameBook.OrderedMap

/-!
The packet pool of object_pool_packet.cpp over object_pool.h and
cache_refresh.h, with the reference count of packet.cpp and the serial numbers
of `Global::GenerateSN`. A packet is the object at an address; its buffer,
message id and tags play no part here.
-/

namespace GameBook.PacketPool

open GameBook.OrderedMap Std

structure Packet where
  sn : Nat
  ref : Int
  isRefOpen : Bool
  deriving DecidableEq, Repr

def newPacket : Packet := ⟨0, 0, false⟩

def awake (packet : Packet) : Packet := { packet with ref := 0, isRefOpen := false }

def setSN (packet : Packet) (sn : Nat) : Packet := { packet with sn := sn }

def addRef (packet : Packet) : Packet := { packet with ref := packet.ref + 1 }

def removeRef (packet : Packet) : Packet := { packet with ref := packet.ref - 1 }

def openRef (packet : Packet) : Packet := { packet with isRefOpen := true }

def canBack2Pool (packet : Packet) : Bool := packet.isRefOpen ∧ packet.ref = 0

/-- What `Global` keeps for serial numbers; `_snTicket` is an unsigned short. -/
structure Global where
  timeTick : Nat
  appId : Nat
  snTicket : Nat
  deriving DecidableEq, Repr

def generateSN (global : Global) : Nat × Global :=
  ((((global.timeTick >>> 10) <<< 26) + (global.appId <<< 16) + global.snTicket)
      % 18446744073709551616,
    { global with snTicket := (global.snTicket + 1) % 65536 })

/-- `CacheRefresh<Packet>`: addresses by serial number. -/
structure CacheRefresh where
  objs : Table Nat Nat
  adds : Table Nat Nat
  removes : List Nat

def emptyCache : CacheRefresh := ⟨∅, ∅, []⟩

/-- `AddObj`: `emplace` keeps the entry that is there. -/
def addObj (cache : CacheRefresh) (sn address : Nat) : CacheRefresh :=
  { cache with adds := cache.adds.insertIfNew sn address }

def removeObj (cache : CacheRefresh) (sn : Nat) : CacheRefresh :=
  { cache with removes := cache.removes ++ [sn] }

def canSwap (cache : CacheRefresh) : Bool := !cache.adds.isEmpty || !cache.removes.isEmpty

/-- The second half of `Swap`: what is found leaves the map and is returned. -/
def recycle : List Nat → Table Nat Nat → Table Nat Nat × List Nat
  | [], objs => (objs, [])
  | sn :: rest, objs =>
      match objs[sn]? with
      | none => recycle rest objs
      | some address =>
          let later := recycle rest (objs.erase sn)
          (later.1, address :: later.2)

/-- `_objs.insert(_adds.begin(), _adds.end())` keeps the entries of `_objs`. -/
def swap (cache : CacheRefresh) : CacheRefresh × List Nat :=
  let recycled := recycle cache.removes (cache.adds ∪ cache.objs)
  (⟨recycled.1, ∅, []⟩, recycled.2)

/-- `DynamicPacketPool`: the objects made so far lie at the addresses below
`created`. -/
structure Pool where
  packets : Nat → Packet
  created : Nat
  free : List Nat
  objInUse : CacheRefresh
  global : Global

def newPool (global : Global) : Pool := ⟨fun _ => newPacket, 0, [], emptyCache, global⟩

def setPacket (pool : Pool) (address : Nat) (packet : Packet) : Pool :=
  { pool with packets := Function.update pool.packets address packet }

/-- `new T()`, whose `SnObject` constructor draws a serial number, then
`SetSN(0)` and `_free.push`. -/
def create (pool : Pool) : Pool :=
  { pool with
    packets := Function.update pool.packets pool.created newPacket
    created := pool.created + 1
    free := pool.free ++ [pool.created]
    global := (generateSN pool.global).2 }

def createMany : Nat → Pool → Pool
  | 0, pool => pool
  | count + 1, pool => createMany count (create pool)

/-- `Packet::IsSingle()` is false, so an empty pool grows by fifty. -/
def refillFree (pool : Pool) : Pool := if pool.free = [] then createMany 50 pool else pool

def mallocSN (pool : Pool) : Nat := (generateSN (refillFree pool).global).1

/-- `MallocPacket` taking the object at `address` from the front of `_free`. -/
def mallocAt (pool : Pool) (address : Nat) (rest : List Nat) : Pool :=
  let drawn := generateSN pool.global
  { pool with
    packets := Function.update pool.packets address (awake (setSN (pool.packets address) drawn.1))
    free := rest
    objInUse := addObj pool.objInUse drawn.1 address
    global := drawn.2 }

def mallocPacket (pool : Pool) : Option (Nat × Pool) :=
  match (refillFree pool).free with
  | [] => none
  | address :: rest => some (address, mallocAt (refillFree pool) address rest)

/-- `FreeObject`: an object without serial number is only logged. -/
def freeObject (pool : Pool) (address : Nat) : Pool :=
  if (pool.packets address).sn = 0 then pool
  else { pool with objInUse := removeObj pool.objInUse (pool.packets address).sn }

def resetSN (packets : Nat → Packet) (recycled : List Nat) : Nat → Packet :=
  fun address => if address ∈ recycled then setSN (packets address) 0 else packets address

def recycled (pool : Pool) : List Nat :=
  if canSwap pool.objInUse then (swap pool.objInUse).2 else []

def refresh (pool : Pool) : Pool :=
  if canSwap pool.objInUse then
    { pool with
      packets := resetSN pool.packets (recycled pool)
      free := pool.free ++ recycled pool
      objInUse := (swap pool.objInUse).1 }
  else pool

def visit (pool : Pool) (address : Nat) : Pool :=
  if canBack2Pool (pool.packets address) then freeObject pool address else pool

def visited (pool : Pool) : List Nat := pool.objInUse.objs.toList.map Prod.snd

/-! ### Entries of the cache -/

def entry (cache : CacheRefresh) (sn : Nat) : Option Nat := (cache.adds ∪ cache.objs)[sn]?

theorem entry_of_objs {cache : CacheRefresh} {sn address : Nat}
    (held : cache.objs[sn]? = some address) : entry cache sn = some address := by
  rw [entry, ExtTreeMap.getElem?_union, held]
  rfl

theorem entry_cases {cache : CacheRefresh} {sn address : Nat}
    (held : entry cache sn = some address) :
    cache.objs[sn]? = some address ∨ cache.objs[sn]? = none ∧ cache.adds[sn]? = some address := by
  rw [entry, ExtTreeMap.getElem?_union] at held
  cases stored : cache.objs[sn]? with
  | some other =>
      rw [stored] at held
      exact Or.inl held
  | none =>
      rw [stored] at held
      exact Or.inr ⟨rfl, held⟩

theorem entry_none {cache : CacheRefresh} {sn : Nat} :
    entry cache sn = none ↔ cache.objs[sn]? = none ∧ cache.adds[sn]? = none := by
  rw [entry, ExtTreeMap.getElem?_union]
  cases cache.objs[sn]? <;> simp

theorem get_add_obj (cache : CacheRefresh) (sn address other : Nat)
    (fresh : entry cache sn = none) :
    (addObj cache sn address).adds[other]? =
      if other = sn then some address else cache.adds[other]? := by
  have absent : sn ∉ cache.adds := by
    rw [ExtTreeMap.mem_iff_isSome_getElem?, (entry_none.mp fresh).2]
    simp
  rw [addObj, ExtTreeMap.getElem?_insertIfNew]
  by_cases same : other = sn
  · subst same
    simp [absent]
  · have differs : compare sn other ≠ .eq := fun equal =>
      same (LawfulEqOrd.eq_of_compare equal).symm
    simp [same, differs]

theorem entry_add_obj (cache : CacheRefresh) (sn address other : Nat)
    (fresh : entry cache sn = none) :
    entry (addObj cache sn address) other =
      if other = sn then some address else entry cache other := by
  have stored := get_add_obj cache sn address other fresh
  simp only [entry, ExtTreeMap.getElem?_union, stored]
  by_cases same : other = sn
  · subst same
    have absent := (entry_none.mp fresh).1
    simp [addObj, absent]
  · simp [addObj, same]

theorem recycle_map (removes : List Nat) (objs : Table Nat Nat) (sn : Nat) :
    (recycle removes objs).1[sn]? = if sn ∈ removes then none else objs[sn]? := by
  induction removes generalizing objs with
  | nil => simp [recycle]
  | cons first rest ih =>
      cases stored : objs[first]? with
      | none =>
          simp only [recycle, stored, ih, List.mem_cons]
          by_cases same : sn = first
          · subst same
            simp [stored]
          · simp [same]
      | some address =>
          simp only [recycle, stored, ih, List.mem_cons, get_erase]
          by_cases same : sn = first
          · simp [same]
          · simp [same]

theorem recycle_mem (removes : List Nat) (objs : Table Nat Nat) (address : Nat) :
    address ∈ (recycle removes objs).2 ↔ ∃ sn ∈ removes, objs[sn]? = some address := by
  induction removes generalizing objs with
  | nil => simp [recycle]
  | cons first rest ih =>
      cases stored : objs[first]? with
      | none =>
          simp only [recycle, stored, ih objs, List.mem_cons, exists_eq_or_imp]
          simp
      | some found =>
          simp only [recycle, stored, List.mem_cons, ih, exists_eq_or_imp, Option.some.injEq,
            get_erase]
          constructor
          · rintro (rfl | ⟨sn, member, held⟩)
            · exact Or.inl rfl
            · split at held
              · cases held
              · exact Or.inr ⟨sn, member, held⟩
          · rintro (rfl | ⟨sn, member, held⟩)
            · exact Or.inl rfl
            · by_cases again : sn = first
              · rw [again, stored] at held
                exact Or.inl (Option.some.inj held).symm
              · exact Or.inr ⟨sn, member, by rw [if_neg again, held]⟩

/-- Where an object stands under one number only, it is recycled once, however
often its number is listed. -/
theorem recycle_nodup (removes : List Nat) (objs : Table Nat Nat)
    (single : ∀ (first second address : Nat), objs[first]? = some address →
      objs[second]? = some address → first = second) : (recycle removes objs).2.Nodup := by
  induction removes generalizing objs with
  | nil => exact List.nodup_nil
  | cons first rest ih =>
      cases stored : objs[first]? with
      | none =>
          simp only [recycle, stored]
          exact ih objs single
      | some found =>
          simp only [recycle, stored]
          have erased : ∀ (sn address : Nat), (objs.erase first)[sn]? = some address →
              sn ≠ first ∧ objs[sn]? = some address := by
            intro sn address held
            rw [get_erase] at held
            split at held
            · cases held
            · exact ⟨‹_›, held⟩
          refine List.nodup_cons.mpr ⟨?_, ih _ ?_⟩
          · intro again
            obtain ⟨sn, _, held⟩ := (recycle_mem rest _ found).mp again
            obtain ⟨different, held⟩ := erased sn found held
            exact different (single sn first found held stored)
          · intro left right address leftHeld rightHeld
            exact single left right address (erased left address leftHeld).2
              (erased right address rightHeld).2

/-! ### The pool keeps every object once -/

/-- Every object made is free or stands under its own serial number, and the
serial numbers to be removed are those of objects in use. -/
structure Keyed (pool : Pool) : Prop where
  entry : ∀ (sn address : Nat), entry pool.objInUse sn = some address →
    (pool.packets address).sn = sn ∧ sn ≠ 0 ∧ address ∉ pool.free ∧ address < pool.created
  apart : ∀ (sn address : Nat), pool.objInUse.adds[sn]? = some address →
    pool.objInUse.objs[sn]? = none
  once : pool.free.Nodup
  made : ∀ address ∈ pool.free, address < pool.created
  covered : ∀ address < pool.created, address ∈ pool.free ∨
    PacketPool.entry pool.objInUse (pool.packets address).sn = some address
  removesOnce : pool.objInUse.removes.Nodup
  removesHeld : ∀ sn ∈ pool.objInUse.removes,
    ∃ address, PacketPool.entry pool.objInUse sn = some address
  beyond : ∀ address, pool.created ≤ address → pool.packets address = newPacket

def InUse (pool : Pool) (address : Nat) : Prop :=
  entry pool.objInUse (pool.packets address).sn = some address

def Live (pool : Pool) (address : Nat) : Prop := address < pool.created ∧ address ∉ pool.free

theorem live_in_use {pool : Pool} (keyed : Keyed pool) {address : Nat} (live : Live pool address) :
    InUse pool address :=
  (keyed.covered address live.1).resolve_left live.2

theorem new_keyed (global : Global) : Keyed (newPool global) := by
  have empty : ∀ sn, entry (newPool global).objInUse sn = none := by
    intro sn
    exact entry_none.mpr ⟨ExtTreeMap.getElem?_empty, ExtTreeMap.getElem?_empty⟩
  constructor
  · intro sn address held
    rw [empty sn] at held
    cases held
  · intro sn address held
    exact ExtTreeMap.getElem?_empty
  · exact List.nodup_nil
  · intro address member
    cases member
  · intro address small
    cases small
  · exact List.nodup_nil
  · intro sn member
    cases member
  · intro address _
    rfl

theorem entry_in_use {pool : Pool} (keyed : Keyed pool) {sn address : Nat}
    (held : entry pool.objInUse sn = some address) : InUse pool address := by
  unfold InUse
  rw [(keyed.entry sn address held).1]
  exact held

theorem in_use_single {pool : Pool} {first second : Nat} (left : InUse pool first)
    (right : InUse pool second)
    (same : (pool.packets first).sn = (pool.packets second).sn) : first = second := by
  unfold InUse at left right
  rw [same, right] at left
  exact (Option.some.inj left).symm

theorem in_use_live {pool : Pool} (keyed : Keyed pool) {address : Nat}
    (used : InUse pool address) : Live pool address :=
  ⟨(keyed.entry _ address used).2.2.2, (keyed.entry _ address used).2.2.1⟩

theorem create_packets (pool : Pool) (keyed : Keyed pool) :
    (create pool).packets = pool.packets :=
  Function.update_eq_self_iff.mpr (keyed.beyond _ (Nat.le_refl _)).symm

theorem create_keyed (pool : Pool) (keyed : Keyed pool) : Keyed (create pool) := by
  have kept := create_packets pool keyed
  constructor
  · intro sn address held
    obtain ⟨same, positive, notFree, small⟩ := keyed.entry sn address held
    refine ⟨kept ▸ same, positive, ?_, Nat.lt_succ_of_lt small⟩
    intro member
    rcases List.mem_append.mp member with old | new
    · exact notFree old
    · exact Nat.lt_irrefl _ (List.mem_singleton.mp new ▸ small)
  · exact keyed.apart
  · refine List.nodup_append.mpr ⟨keyed.once, List.nodup_singleton _, ?_⟩
    intro address old created new same
    have small := keyed.made address old
    rw [same, List.mem_singleton.mp new] at small
    exact Nat.lt_irrefl _ small
  · intro address member
    rcases List.mem_append.mp member with old | new
    · exact Nat.lt_succ_of_lt (keyed.made address old)
    · rw [List.mem_singleton.mp new]
      exact Nat.lt_succ_self _
  · intro address small
    rcases Nat.lt_succ_iff_lt_or_eq.mp small with old | new
    · rcases keyed.covered address old with free | used
      · exact Or.inl (List.mem_append_left _ free)
      · exact Or.inr (kept ▸ used)
    · exact Or.inl (List.mem_append_right _ (List.mem_singleton.mpr new))
  · exact keyed.removesOnce
  · exact keyed.removesHeld
  · intro address large
    rw [kept]
    exact keyed.beyond address (Nat.le_of_succ_le large)

theorem create_many_kept (count : Nat) (pool : Pool) (keyed : Keyed pool) :
    Keyed (createMany count pool) ∧ (createMany count pool).packets = pool.packets ∧
      (createMany count pool).objInUse = pool.objInUse ∧
      pool.created ≤ (createMany count pool).created := by
  induction count generalizing pool with
  | zero => exact ⟨keyed, rfl, rfl, Nat.le_refl _⟩
  | succ count ih =>
      obtain ⟨later, packets, cache, grown⟩ := ih (create pool) (create_keyed pool keyed)
      exact ⟨later, packets.trans (create_packets pool keyed), cache, Nat.le_of_succ_le grown⟩

theorem refill_free_kept (pool : Pool) (keyed : Keyed pool) :
    Keyed (refillFree pool) ∧ (refillFree pool).packets = pool.packets ∧
      (refillFree pool).objInUse = pool.objInUse ∧ pool.created ≤ (refillFree pool).created := by
  unfold refillFree
  split
  · exact create_many_kept 50 pool keyed
  · exact ⟨keyed, rfl, rfl, Nat.le_refl _⟩

theorem create_many_free (count : Nat) (pool : Pool) :
    (createMany count pool).free = pool.free ++ List.range' pool.created count := by
  induction count generalizing pool with
  | zero => simp [createMany]
  | succ count ih =>
      rw [createMany, ih]
      simp [create, List.range'_succ]

theorem malloc_packet_front {pool : Pool} {address : Nat} {rest : List Nat}
    (front : (refillFree pool).free = address :: rest) :
    mallocPacket pool = some (address, mallocAt (refillFree pool) address rest) := by
  unfold mallocPacket
  rw [front]

/-- The serial number the pool would give next is a number, and no object in
use has it. -/
def FreshSN (pool : Pool) : Prop :=
  mallocSN pool ≠ 0 ∧ entry pool.objInUse (mallocSN pool) = none

instance (pool : Pool) : Decidable (FreshSN pool) := by
  unfold FreshSN
  infer_instance

theorem malloc_at_keyed (pool : Pool) (address : Nat) (rest : List Nat) (keyed : Keyed pool)
    (front : pool.free = address :: rest) (positive : (generateSN pool.global).1 ≠ 0)
    (fresh : entry pool.objInUse (generateSN pool.global).1 = none) :
    Keyed (mallocAt pool address rest) := by
  have adding := entry_add_obj pool.objInUse (generateSN pool.global).1 address
  have given : (mallocAt pool address rest).packets address =
      awake (setSN (pool.packets address) (generateSN pool.global).1) := Function.update_self _ _ _
  have other : ∀ place, place ≠ address →
      (mallocAt pool address rest).packets place = pool.packets place := by
    intro place different
    exact Function.update_of_ne different _ _
  have isFree : address ∈ pool.free := front ▸ List.mem_cons_self
  have small := keyed.made address isFree
  have once := front ▸ keyed.once
  obtain ⟨new, others⟩ := List.nodup_cons.mp once
  have elsewhere : ∀ (sn place : Nat), entry pool.objInUse sn = some place → place ≠ address := by
    intro sn place held same
    exact (keyed.entry sn place held).2.2.1 (same ▸ isFree)
  constructor
  · intro sn place held
    have held' := (adding sn fresh).symm.trans held
    split at held'
    · obtain rfl := Option.some.inj held'
      subst sn
      exact ⟨congrArg Packet.sn given, positive, new, small⟩
    · have different := elsewhere sn place held'
      obtain ⟨same, numbered, notFree, below⟩ := keyed.entry sn place held'
      refine ⟨(congrArg Packet.sn (other place different)).trans same, numbered, ?_, below⟩
      intro member
      exact notFree (front ▸ List.mem_cons_of_mem _ member)
  · intro sn place held
    have held' := (get_add_obj pool.objInUse _ address sn fresh).symm.trans held
    split at held'
    · subst sn
      exact (entry_none.mp fresh).1
    · exact keyed.apart sn place held'
  · exact others
  · intro place member
    exact keyed.made place (front ▸ List.mem_cons_of_mem _ member)
  · intro place below
    by_cases same : place = address
    · subst same
      right
      rw [given]
      exact (adding _ fresh).trans (if_pos rfl)
    · rw [other place same]
      rcases keyed.covered place below with free | used
      · rcases List.mem_cons.mp (front ▸ free) with first | later
        · exact absurd first same
        · exact Or.inl later
      · right
        refine (adding _ fresh).trans ?_
        rw [if_neg, used]
        intro clash
        rw [clash, fresh] at used
        cases used
  · exact keyed.removesOnce
  · intro sn member
    obtain ⟨place, held⟩ := keyed.removesHeld sn member
    refine ⟨place, (adding sn fresh).trans ?_⟩
    rw [if_neg, held]
    intro clash
    rw [clash, fresh] at held
    cases held
  · intro place large
    rw [other place (Nat.ne_of_gt (Nat.lt_of_lt_of_le small large))]
    exact keyed.beyond place large

structure Malloced (pool : Pool) (address : Nat) (after : Pool) : Prop where
  keyed : Keyed after
  unused : ¬InUse pool address
  given : after.packets address = ⟨mallocSN pool, 0, false⟩
  others : ∀ place, place ≠ address → after.packets place = pool.packets place
  entry : ∀ sn, entry after.objInUse sn =
    if sn = mallocSN pool then some address else PacketPool.entry pool.objInUse sn
  objs : after.objInUse.objs = pool.objInUse.objs
  removes : after.objInUse.removes = pool.objInUse.removes
  created : pool.created ≤ after.created

theorem malloc_packet_spec (pool : Pool) (keyed : Keyed pool) (fresh : FreshSN pool)
    {address : Nat} {after : Pool} (taken : mallocPacket pool = some (address, after)) :
    Malloced pool address after := by
  obtain ⟨refilled, packets, cache, grown⟩ := refill_free_kept pool keyed
  obtain ⟨positive, unused⟩ := fresh
  rw [← cache] at unused
  unfold mallocPacket at taken
  split at taken
  · cases taken
  · rename_i first rest front
    obtain ⟨rfl, rfl⟩ := Prod.mk.inj (Option.some.inj taken)
    have adding := entry_add_obj (refillFree pool).objInUse (mallocSN pool) first
    constructor
    · exact malloc_at_keyed (refillFree pool) first rest refilled front positive unused
    · intro used
      have free : first ∈ (refillFree pool).free := front ▸ List.mem_cons_self
      unfold InUse at used
      rw [← cache] at used
      exact (refilled.entry _ _ used).2.2.1 free
    · rw [mallocAt]
      simp [awake, setSN, mallocSN]
    · intro place different
      rw [← packets]
      exact Function.update_of_ne different _ _
    · intro sn
      rw [← cache]
      exact adding sn unused
    · rw [← cache]
      rfl
    · rw [← cache]
      rfl
    · exact grown

structure Unmarked (pool : Pool) (address : Nat) : Prop where
  inUse : InUse pool address
  unmarked : (pool.packets address).sn ∉ pool.objInUse.removes

theorem free_object_in_use (pool : Pool) (keyed : Keyed pool) (address : Nat)
    (used : InUse pool address) :
    freeObject pool address =
      { pool with objInUse := removeObj pool.objInUse (pool.packets address).sn } := by
  have numbered := (keyed.entry _ address used).2.1
  exact if_neg numbered

theorem free_object_keyed (pool : Pool) (keyed : Keyed pool) (address : Nat)
    (target : Unmarked pool address) : Keyed (freeObject pool address) := by
  rw [free_object_in_use pool keyed address target.inUse]
  refine ⟨keyed.entry, keyed.apart, keyed.once, keyed.made, keyed.covered, ?_, ?_, keyed.beyond⟩
  · refine List.nodup_append.mpr ⟨keyed.removesOnce, List.nodup_singleton _, ?_⟩
    intro sn old other new same
    rw [List.mem_singleton.mp new] at same
    exact target.unmarked (same ▸ old)
  · intro sn member
    rcases List.mem_append.mp member with old | new
    · exact keyed.removesHeld sn old
    · rw [List.mem_singleton.mp new]
      exact ⟨address, target.inUse⟩

theorem set_packet_sn (pool : Pool) (address : Nat) (packet : Packet)
    (same : packet.sn = (pool.packets address).sn) (place : Nat) :
    ((setPacket pool address packet).packets place).sn = (pool.packets place).sn := by
  by_cases here : place = address
  · subst here
    simp [setPacket, same]
  · simp [setPacket, here]

theorem set_packet_in_use (pool : Pool) (address : Nat) (packet : Packet)
    (same : packet.sn = (pool.packets address).sn) (place : Nat) :
    InUse (setPacket pool address packet) place ↔ InUse pool place := by
  unfold InUse
  rw [set_packet_sn pool address packet same place]
  rfl

theorem set_packet_unmarked (pool : Pool) (address : Nat) (packet : Packet)
    (same : packet.sn = (pool.packets address).sn) {place : Nat} (target : Unmarked pool place) :
    Unmarked (setPacket pool address packet) place := by
  constructor
  · exact (set_packet_in_use pool address packet same place).mpr target.inUse
  · rw [set_packet_sn pool address packet same place]
    exact target.unmarked

theorem set_packet_keyed (pool : Pool) (keyed : Keyed pool) (address : Nat) (packet : Packet)
    (small : address < pool.created) (same : packet.sn = (pool.packets address).sn) :
    Keyed (setPacket pool address packet) := by
  have numbers := set_packet_sn pool address packet same
  refine ⟨?_, keyed.apart, keyed.once, keyed.made, ?_, keyed.removesOnce, keyed.removesHeld, ?_⟩
  · intro sn place held
    rw [numbers place]
    exact keyed.entry sn place held
  · intro place below
    rw [numbers place]
    exact keyed.covered place below
  · intro place large
    have elsewhere : place ≠ address := Nat.ne_of_gt (Nat.lt_of_lt_of_le small large)
    exact (Function.update_of_ne elsewhere _ _).trans (keyed.beyond place large)

/-- What `DynamicObjectPool::Update` does: every object whose number is to be
removed goes back to the free list, once, and all others stay. -/
structure Refreshed (before after : Pool) : Prop where
  keyed : Keyed after
  entry : ∀ sn, entry after.objInUse sn =
    if sn ∈ before.objInUse.removes then none else PacketPool.entry before.objInUse sn
  objs : ∀ (sn address : Nat), PacketPool.entry after.objInUse sn = some address →
    after.objInUse.objs[sn]? = some address
  removes : after.objInUse.removes = []
  mem : ∀ address, address ∈ recycled before ↔
    ∃ sn ∈ before.objInUse.removes, PacketPool.entry before.objInUse sn = some address
  once : (recycled before).Nodup
  free : after.free = before.free ++ recycled before
  created : after.created = before.created
  others : ∀ address, address ∉ recycled before → after.packets address = before.packets address
  count : ∀ address, (after.packets address).ref = (before.packets address).ref ∧
    (after.packets address).isRefOpen = (before.packets address).isRefOpen

theorem can_swap_false {cache : CacheRefresh} (idle : canSwap cache = false) :
    cache.adds = ∅ ∧ cache.removes = [] := by
  unfold canSwap at idle
  rw [Bool.or_eq_false_iff] at idle
  exact ⟨ExtTreeMap.isEmpty_iff.mp (by simpa using idle.1), by simpa using idle.2⟩

theorem entry_single {pool : Pool} (keyed : Keyed pool) (first second address : Nat)
    (left : entry pool.objInUse first = some address)
    (right : entry pool.objInUse second = some address) : first = second :=
  (keyed.entry first address left).1.symm.trans (keyed.entry second address right).1

theorem recycled_spec (pool : Pool) (keyed : Keyed pool) :
    (recycled pool).Nodup ∧ ∀ address, address ∈ recycled pool ↔
      ∃ sn ∈ pool.objInUse.removes, entry pool.objInUse sn = some address := by
  unfold recycled
  cases turn : canSwap pool.objInUse with
  | true =>
      rw [if_pos rfl]
      constructor
      · exact recycle_nodup _ _ (entry_single keyed)
      · intro address
        exact recycle_mem _ _ address
  | false =>
      rw [if_neg (by simp), (can_swap_false turn).2]
      simp

theorem swap_objs (cache : CacheRefresh) (sn : Nat) :
    (swap cache).1.objs[sn]? = if sn ∈ cache.removes then none else entry cache sn :=
  recycle_map cache.removes (cache.adds ∪ cache.objs) sn

theorem swap_entry (cache : CacheRefresh) (sn : Nat) :
    entry (swap cache).1 sn = if sn ∈ cache.removes then none else entry cache sn := by
  rw [← swap_objs cache sn, entry, ExtTreeMap.getElem?_union]
  have empty : (swap cache).1.adds[sn]? = none := ExtTreeMap.getElem?_empty
  rw [empty, Option.or_none]

theorem swap_stays {pool : Pool} (keyed : Keyed pool) {sn address : Nat}
    (held : entry (swap pool.objInUse).1 sn = some address) :
    entry pool.objInUse sn = some address ∧ address ∉ recycled pool := by
  rw [swap_entry] at held
  split at held
  · cases held
  · rename_i outside
    refine ⟨held, ?_⟩
    intro gone
    obtain ⟨other, removed, target⟩ := ((recycled_spec pool keyed).2 address).mp gone
    exact outside (entry_single keyed sn other address held target ▸ removed)

theorem swapped_keyed (pool : Pool) (keyed : Keyed pool) :
    Keyed { pool with
      packets := resetSN pool.packets (recycled pool)
      free := pool.free ++ recycled pool
      objInUse := (swap pool.objInUse).1 } := by
  obtain ⟨once, mem⟩ := recycled_spec pool keyed
  have packets : ∀ address, address ∉ recycled pool →
      resetSN pool.packets (recycled pool) address = pool.packets address :=
    fun address outside => if_neg outside
  refine ⟨?_, ?_, ?_, ?_, ?_, List.nodup_nil, ?_, ?_⟩
  · intro sn address held
    obtain ⟨before, outside⟩ := swap_stays keyed held
    obtain ⟨same, numbered, notFree, small⟩ := keyed.entry sn address before
    refine ⟨(congrArg Packet.sn (packets address outside)).trans same, numbered, ?_, small⟩
    intro member
    rcases List.mem_append.mp member with old | new
    · exact notFree old
    · exact outside new
  · intro sn address held
    cases held.symm.trans ExtTreeMap.getElem?_empty
  · refine List.nodup_append.mpr ⟨keyed.once, once, ?_⟩
    intro address old other new same
    subst same
    obtain ⟨sn, _, held⟩ := (mem address).mp new
    exact (keyed.entry sn address held).2.2.1 old
  · intro address member
    rcases List.mem_append.mp member with old | new
    · exact keyed.made address old
    · obtain ⟨sn, _, held⟩ := (mem address).mp new
      exact (keyed.entry sn address held).2.2.2
  · intro address small
    by_cases gone : address ∈ recycled pool
    · exact Or.inl (List.mem_append_right _ gone)
    · rcases keyed.covered address small with free | used
      · exact Or.inl (List.mem_append_left _ free)
      · right
        simp only [packets address gone]
        rw [swap_entry, if_neg, used]
        intro removed
        exact gone ((mem address).mpr ⟨_, removed, used⟩)
  · intro sn member
    cases member
  · intro address large
    have outside : address ∉ recycled pool := by
      intro gone
      obtain ⟨sn, _, held⟩ := (mem address).mp gone
      exact Nat.lt_irrefl _ (Nat.lt_of_lt_of_le (keyed.entry sn address held).2.2.2 large)
    exact (packets address outside).trans (keyed.beyond address large)

theorem refresh_spec (pool : Pool) (keyed : Keyed pool) : Refreshed pool (refresh pool) := by
  obtain ⟨once, mem⟩ := recycled_spec pool keyed
  cases turn : canSwap pool.objInUse with
  | false =>
      -- nothing was added or marked since the last turn
      obtain ⟨adds, removes⟩ := can_swap_false turn
      have same : refresh pool = pool := by simp [refresh, turn]
      have nothing : recycled pool = [] := by simp [recycled, turn]
      rw [same]
      refine ⟨keyed, ?_, ?_, removes, mem, once, by simp [nothing], rfl, fun _ _ => rfl,
        fun _ => ⟨rfl, rfl⟩⟩
      · intro sn
        simp [removes]
      · intro sn address held
        rcases entry_cases held with stored | ⟨_, added⟩
        · exact stored
        · rw [adds] at added
          cases added.symm.trans ExtTreeMap.getElem?_empty
  | true =>
      have whole : refresh pool =
          { pool with
            packets := resetSN pool.packets (recycled pool)
            free := pool.free ++ recycled pool
            objInUse := (swap pool.objInUse).1 } := by simp [refresh, turn]
      rw [whole]
      refine ⟨swapped_keyed pool keyed, swap_entry pool.objInUse, ?_, rfl, mem, once, rfl, rfl,
        fun _ outside => if_neg outside, ?_⟩
      · intro sn address held
        rw [swap_objs, ← swap_entry]
        exact held
      · intro address
        simp only [resetSN]
        split <;> exact ⟨rfl, rfl⟩

theorem mem_visited (pool : Pool) (address : Nat) :
    address ∈ visited pool ↔ ∃ sn : Nat, pool.objInUse.objs[sn]? = some address :=
  mem_values pool.objInUse.objs address

theorem visited_nodup (pool : Pool) (keyed : Keyed pool) : (visited pool).Nodup := by
  apply values_nodup pool.objInUse.objs
  intro first second address left right
  exact entry_single keyed first second address (entry_of_objs left) (entry_of_objs right)

end GameBook.PacketPool
