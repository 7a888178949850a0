import Mathlib.Data.List.Nodup
import GameBook.CacheSwap
import GameBook.OrderedMap
import GameBook.SocketObject

/-!
The message system of one thread (message_system.cpp): two tables of
callbacks, one by message id and object, one of default callbacks by object,
and the loop that takes a packet from the queue and looks up who gets it.
-/

namespace GameBook

open CacheSwap LabelledRun OrderedMap SocketObject Std

variable {Handler : Type}

namespace MessageSystem

inductive Callback (Handler : Type) where
  | message (handleFunction : Handler)
  | filter (getFilterObj handleFunction : Handler)
  deriving DecidableEq, Repr

/-- `ProcessPacket`: a filter without an object for the packet declines. -/
def processPacket (finds : Handler → Bool) : Callback Handler → Bool
  | .message _ => true
  | .filter getFilterObj _ => finds getFilterObj

structure Packet where
  msgId : Int
  tagKey : TagKey

def entitySn (packet : Packet) : UInt64 :=
  match packet.tagKey .entity with
  | some value => value.keyInt64
  | none => 0

end MessageSystem

/-- `_defaultCallbacks` may hold a null pointer. -/
structure MessageSystem (Handler : Type) where
  cachePackets : DrainQueue MessageSystem.Packet
  callbacks : Table Int (Table UInt64 (MessageSystem.Callback Handler))
  defaultCallbacks : Table UInt64 (Option (MessageSystem.Callback Handler))

namespace MessageSystem

def new : MessageSystem Handler := ⟨newQueue, ∅, ∅⟩

def addPacketToList (system : MessageSystem Handler) (packet : Packet) : MessageSystem Handler :=
  { system with cachePackets := enqueue messageSystem system.cachePackets packet }

/-- The map of a message id, made on first use. -/
def subOf (system : MessageSystem Handler) (msgId : Int) : Table UInt64 (Callback Handler) :=
  (system.callbacks[msgId]?).getD ∅

/-- `RegisterFunction` and `RegisterFunctionFilter`: `insert` keeps the callback
that is there. -/
def registerFunction (system : MessageSystem Handler) (sn : UInt64) (msgId : Int)
    (callback : Callback Handler) : MessageSystem Handler :=
  { system with
    callbacks := system.callbacks.insert msgId ((subOf system msgId).insertIfNew sn callback) }

def registerDefaultFunction (system : MessageSystem Handler) (sn : UInt64)
    (callback : Callback Handler) : MessageSystem Handler :=
  { system with defaultCallbacks := system.defaultCallbacks.insertIfNew sn (some callback) }

def removeFunction (system : MessageSystem Handler) (sn : UInt64) : MessageSystem Handler :=
  { system with
    callbacks := system.callbacks.map fun _ sub => sub.erase sn
    defaultCallbacks := system.defaultCallbacks.erase sn }

/-- A call of `ProcessPacket`, with the object the callback belongs to. -/
inductive Call (Handler : Type) where
  | function (sn : UInt64) (callback : Callback Handler)
  | default (sn : UInt64) (callback : Callback Handler)
  deriving DecidableEq, Repr

def functionCalls (system : MessageSystem Handler) (packet : Packet) :
    List (UInt64 × Callback Handler) :=
  match system.callbacks[packet.msgId]? with
  | none => []
  | some sub =>
      if 0 < entitySn packet then
        match sub[entitySn packet]? with
        | some callback => [(entitySn packet, callback)]
        | none => []
      else sub.toList

def asCalls (entries : List (UInt64 × Callback Handler)) : List (Call Handler) :=
  entries.map fun entry => .function entry.1 entry.2

def isDo (finds : Handler → Bool) (calls : List (UInt64 × Callback Handler)) : Bool :=
  calls.any fun entry => processPacket finds entry.2

/-- `_defaultCallbacks[entitySn]`: a lookup that leaves a null entry behind. -/
def defaultCall (system : MessageSystem Handler) (sn : UInt64) :
    MessageSystem Handler × List (Call Handler) :=
  match system.defaultCallbacks[sn]? with
  | none => ({ system with defaultCallbacks := system.defaultCallbacks.insert sn none }, [])
  | some none => (system, [])
  | some (some callback) => (system, [.default sn callback])

def process (finds : Handler → Bool) (system : MessageSystem Handler) (packet : Packet) :
    MessageSystem Handler × List (Call Handler) :=
  if isDo finds (functionCalls system packet) then (system, asCalls (functionCalls system packet))
  else if 0 < entitySn packet ∧ packet.tagKey .toWorld = none then
    ((defaultCall system (entitySn packet)).1,
      asCalls (functionCalls system packet) ++ (defaultCall system (entitySn packet)).2)
  else (system, asCalls (functionCalls system packet))

/-! ### What has been registered -/

/-- The callbacks in force: the first registered for a place since the object
was last removed. -/
structure Registry (Handler : Type) where
  functions : Int → UInt64 → Option (Callback Handler)
  defaults : UInt64 → Option (Callback Handler)

def emptyRegistry : Registry Handler := ⟨fun _ _ => none, fun _ => none⟩

def noteFunction (registry : Registry Handler) (sn : UInt64) (msgId : Int)
    (callback : Callback Handler) : Registry Handler :=
  { registry with
    functions := fun other object =>
      if other = msgId ∧ object = sn ∧ registry.functions other object = none then some callback
      else registry.functions other object }

def noteDefault (registry : Registry Handler) (sn : UInt64) (callback : Callback Handler) :
    Registry Handler :=
  { registry with
    defaults := fun object =>
      if object = sn ∧ registry.defaults object = none then some callback
      else registry.defaults object }

def noteRemoved (registry : Registry Handler) (sn : UInt64) : Registry Handler where
  functions := fun msgId object => if object = sn then none else registry.functions msgId object
  defaults := fun object => if object = sn then none else registry.defaults object

def Delivered (finds : Handler → Bool) (registry : Registry Handler) (packet : Packet)
    (calls : List (Call Handler)) : Prop :=
  let fallback :=
    if packet.tagKey .toWorld = none then
      (registry.defaults (entitySn packet)).toList.map (Call.default (entitySn packet))
    else []
  if 0 < entitySn packet then
    match registry.functions packet.msgId (entitySn packet) with
    | some callback =>
        calls = .function (entitySn packet) callback ::
          if processPacket finds callback then [] else fallback
    | none => calls = fallback
  else
    calls.Nodup ∧ ∀ call, call ∈ calls ↔
      ∃ sn callback, call = .function sn callback ∧
        registry.functions packet.msgId sn = some callback

structure Watched (Handler : Type) where
  system : MessageSystem Handler
  registry : Registry Handler

def watchNew : Watched Handler := ⟨new, emptyRegistry⟩

inductive Event (Handler : Type) where
  | registerFunction (sn : UInt64) (msgId : Int) (callback : Callback Handler)
  | registerDefaultFunction (sn : UInt64) (callback : Callback Handler)
  | removeFunction (sn : UInt64)
  | addPacketToList (packet : Packet)
  | beginDrain
  | handOver (packet : Packet)
  | process (finds : Handler → Bool) (packet : Packet) (calls : List (Call Handler))
  | clear

def withQueue (seen : Watched Handler) (queue : DrainQueue Packet) : Watched Handler :=
  { seen with system := { seen.system with cachePackets := queue } }

inductive Step : Watched Handler → Event Handler → Watched Handler → Prop where
  | registerFunction (seen : Watched Handler) (sn : UInt64) (msgId : Int)
      (callback : Callback Handler) :
      Step seen (.registerFunction sn msgId callback)
        ⟨registerFunction seen.system sn msgId callback, noteFunction seen.registry sn msgId callback⟩
  | registerDefaultFunction (seen : Watched Handler) (sn : UInt64) (callback : Callback Handler) :
      Step seen (.registerDefaultFunction sn callback)
        ⟨registerDefaultFunction seen.system sn callback, noteDefault seen.registry sn callback⟩
  | removeFunction (seen : Watched Handler) (sn : UInt64) :
      Step seen (.removeFunction sn)
        ⟨removeFunction seen.system sn, noteRemoved seen.registry sn⟩
  | addPacketToList (seen : Watched Handler) (packet : Packet) :
      Step seen (.addPacketToList packet) { seen with system := addPacketToList seen.system packet }
  | beginDrain (seen : Watched Handler) (queue : DrainQueue Packet)
      (step : QueueStep messageSystem seen.system.cachePackets .beginDrain queue) :
      Step seen .beginDrain (withQueue seen queue)
  | handOver (seen : Watched Handler) (packet : Packet) (queue : DrainQueue Packet)
      (step : QueueStep messageSystem seen.system.cachePackets (.handOver packet) queue) :
      Step seen (.handOver packet) (withQueue seen queue)
  -- what a filter finds for the packet is up to the object that registered it
  | process (seen : Watched Handler) (finds : Handler → Bool) (packet : Packet)
      (queue : DrainQueue Packet) (work : inBody seen.system.cachePackets = some packet)
      (step : QueueStep messageSystem seen.system.cachePackets .next queue) :
      Step seen (.process finds packet (process finds seen.system packet).2)
        (withQueue { seen with system := (process finds seen.system packet).1 } queue)
  | clear (seen : Watched Handler) (queue : DrainQueue Packet)
      (step : QueueStep messageSystem seen.system.cachePackets .clear queue) :
      Step seen .clear (withQueue seen queue)

/-! ### Lookups after each operation -/

def functionAt (system : MessageSystem Handler) (msgId : Int) (sn : UInt64) :
    Option (Callback Handler) :=
  (system.callbacks[msgId]?).bind fun sub => sub[sn]?

def defaultAt (system : MessageSystem Handler) (sn : UInt64) : Option (Callback Handler) :=
  (system.defaultCallbacks[sn]?).join

theorem get_insert_if_new {Value : Type} (table : Table UInt64 Value) (key other : UInt64)
    (value : Value) :
    (table.insertIfNew key value)[other]? =
      if other = key ∧ table[other]? = none then some value else table[other]? := by
  rw [ExtTreeMap.getElem?_insertIfNew]
  by_cases same : other = key
  · subst same
    cases held : table[other]? <;> simp [ExtTreeMap.mem_iff_isSome_getElem?, held]
  · have differs : compare key other ≠ .eq := fun equal =>
      same (LawfulEqOrd.eq_of_compare equal).symm
    simp [same, differs]

theorem sub_of_get (system : MessageSystem Handler) (msgId : Int) (sn : UInt64) :
    (subOf system msgId)[sn]? = functionAt system msgId sn := by
  unfold subOf functionAt
  cases system.callbacks[msgId]? with
  | none => exact ExtTreeMap.getElem?_empty
  | some sub => rfl

theorem register_function_at (system : MessageSystem Handler) (sn : UInt64) (msgId : Int)
    (callback : Callback Handler) (other : Int) (object : UInt64) :
    functionAt (registerFunction system sn msgId callback) other object =
      if other = msgId ∧ object = sn ∧ functionAt system other object = none then some callback
      else functionAt system other object := by
  rw [functionAt, registerFunction, get_insert]
  by_cases same : other = msgId
  · subst same
    rw [if_pos rfl, Option.bind_some, get_insert_if_new, sub_of_get]
    simp
  · rw [if_neg same, if_neg (fun both => same both.1)]
    rfl

theorem remove_function_at (system : MessageSystem Handler) (sn : UInt64) (msgId : Int)
    (object : UInt64) :
    functionAt (removeFunction system sn) msgId object =
      if object = sn then none else functionAt system msgId object := by
  unfold functionAt removeFunction
  rw [ExtTreeMap.getElem?_map]
  cases system.callbacks[msgId]? with
  | none => simp
  | some sub => simp [get_erase]

theorem register_default_at (system : MessageSystem Handler) (sn : UInt64)
    (callback : Callback Handler) (object : UInt64) :
    defaultAt (registerDefaultFunction system sn callback) object =
      if object = sn ∧ system.defaultCallbacks[object]? = none then some callback
      else defaultAt system object := by
  rw [defaultAt, registerDefaultFunction, get_insert_if_new]
  split
  · rfl
  · rfl

theorem remove_default_at (system : MessageSystem Handler) (sn : UInt64) (object : UInt64) :
    defaultAt (removeFunction system sn) object =
      if object = sn then none else defaultAt system object := by
  rw [defaultAt, removeFunction, get_erase]
  split
  · rfl
  · rfl

/-- The lookup of `Update` adds a null entry at most, which no lookup tells from
an absent one. -/
theorem default_call_kept (system : MessageSystem Handler) (sn : UInt64) :
    (defaultCall system sn).1.callbacks = system.callbacks ∧
      (∀ object, defaultAt (defaultCall system sn).1 object = defaultAt system object) ∧
      (defaultCall system sn).2 = (defaultAt system sn).toList.map (Call.default sn) := by
  unfold defaultCall
  cases held : system.defaultCallbacks[sn]? with
  | none =>
      refine ⟨rfl, ?_, by simp [defaultAt, held]⟩
      intro object
      rw [defaultAt, get_insert]
      by_cases same : object = sn
      · subst same
        simp [defaultAt, held]
      · rw [if_neg same]
        rfl
  | some entry =>
      cases entry with
      | none => exact ⟨rfl, fun _ => rfl, by simp [defaultAt, held]⟩
      | some callback => exact ⟨rfl, fun _ => rfl, by simp [defaultAt, held]⟩

theorem process_kept (finds : Handler → Bool) (system : MessageSystem Handler) (packet : Packet) :
    (process finds system packet).1.callbacks = system.callbacks ∧
      ∀ object, defaultAt (process finds system packet).1 object = defaultAt system object := by
  unfold process
  split
  · exact ⟨rfl, fun _ => rfl⟩
  · split
    · obtain ⟨callbacks, defaults, _⟩ := default_call_kept system (entitySn packet)
      exact ⟨callbacks, defaults⟩
    · exact ⟨rfl, fun _ => rfl⟩

/-! ### Registrations in effect -/

def FunctionsInEffect (seen : Watched Handler) : Prop :=
  ∀ msgId sn, functionAt seen.system msgId sn = seen.registry.functions msgId sn

def DefaultsInEffect (seen : Watched Handler) : Prop :=
  ∀ sn, defaultAt seen.system sn = seen.registry.defaults sn

/-- No default callback is registered for an object for which a null entry has
been left behind. -/
def NotShadowed (seen : Watched Handler) : Event Handler → Prop
  | .registerDefaultFunction sn _ => seen.system.defaultCallbacks[sn]? ≠ some none
  | _ => True

theorem step_functions (before : Watched Handler) (event : Event Handler)
    (after : Watched Handler) (agree : FunctionsInEffect before) (step : Step before event after) :
    FunctionsInEffect after := by
  cases step with
  | registerFunction sn msgId callback =>
      intro other object
      rw [register_function_at, agree other object]
      rfl
  | registerDefaultFunction sn callback => exact agree
  | removeFunction sn =>
      intro msgId object
      rw [remove_function_at, agree msgId object]
      rfl
  | addPacketToList packet => exact agree
  | beginDrain queue step => exact agree
  | handOver packet queue step => exact agree
  | process finds packet queue work step =>
      intro msgId sn
      have same := (process_kept finds before.system packet).1
      simp only [functionAt, withQueue, same]
      exact agree msgId sn
  | clear queue step => exact agree

/-- Every step keeps the default callbacks in effect, except for a
registration that meets a null entry. -/
theorem step_defaults (before : Watched Handler) (event : Event Handler) (after : Watched Handler)
    (agree : DefaultsInEffect before) (step : Step before event after) :
    NotShadowed before event ↔ DefaultsInEffect after := by
  cases step with
  | registerFunction sn msgId callback => exact ⟨fun _ => agree, fun _ => trivial⟩
  | registerDefaultFunction sn callback =>
      have mine := agree sn
      constructor
      · intro visible object
        rw [register_default_at, agree object]
        by_cases same : object = sn
        · subst same
          have absent : before.system.defaultCallbacks[object]? = none ↔
              before.registry.defaults object = none := by
            rw [← mine, defaultAt]
            cases held : before.system.defaultCallbacks[object]? with
            | none => simp
            | some entry =>
                cases entry with
                | none => exact absurd held visible
                | some callback => simp
          simp [noteDefault, absent]
        · simp [noteDefault, same]
      · intro inEffect shadowed
        have there := inEffect sn
        rw [defaultAt, shadowed] at mine
        rw [register_default_at, if_neg (by simp [shadowed]), defaultAt, shadowed] at there
        have empty : before.registry.defaults sn = none := mine.symm
        simp [noteDefault, empty] at there
  | removeFunction sn =>
      refine ⟨fun _ object => ?_, fun _ => trivial⟩
      rw [remove_default_at, agree object]
      rfl
  | addPacketToList packet => exact ⟨fun _ => agree, fun _ => trivial⟩
  | beginDrain queue step => exact ⟨fun _ => agree, fun _ => trivial⟩
  | handOver packet queue step => exact ⟨fun _ => agree, fun _ => trivial⟩
  | process finds packet queue work step =>
      refine ⟨fun _ object => ?_, fun _ => trivial⟩
      exact ((process_kept finds before.system packet).2 object).trans (agree object)
  | clear queue step => exact ⟨fun _ => agree, fun _ => trivial⟩

/-! ### Who gets a packet -/

theorem function_calls_entity (system : MessageSystem Handler) (packet : Packet)
    (addressed : 0 < entitySn packet) :
    functionCalls system packet =
      ((functionAt system packet.msgId (entitySn packet)).map fun callback =>
        (entitySn packet, callback)).toList := by
  unfold functionCalls functionAt
  cases system.callbacks[packet.msgId]? with
  | none => rfl
  | some sub =>
      simp only [addressed, if_true, Option.bind_some]
      cases sub[entitySn packet]? with
      | none => rfl
      | some callback => rfl

theorem function_calls_all (system : MessageSystem Handler) (packet : Packet)
    (broadcast : ¬0 < entitySn packet) :
    (functionCalls system packet).Nodup ∧ ∀ sn callback,
      (sn, callback) ∈ functionCalls system packet ↔
        functionAt system packet.msgId sn = some callback := by
  unfold functionCalls functionAt
  cases system.callbacks[packet.msgId]? with
  | none => simp
  | some sub =>
      simp only [broadcast, if_false, Option.bind_some]
      constructor
      · rw [List.nodup_iff_pairwise_ne]
        refine List.Pairwise.imp ?_ ExtTreeMap.distinct_keys_toList
        intro left right distinct same
        exact distinct (LawfulEqOrd.compare_eq_iff_eq.mpr (congrArg Prod.fst same))
      · intro sn callback
        exact ExtTreeMap.mem_toList_iff_getElem?_eq_some

theorem process_entity (finds : Handler → Bool) (system : MessageSystem Handler) (packet : Packet)
    (addressed : 0 < entitySn packet) :
    (process finds system packet).2 =
      asCalls (functionCalls system packet) ++
        if isDo finds (functionCalls system packet) then []
        else if packet.tagKey .toWorld = none then
          (defaultAt system (entitySn packet)).toList.map (Call.default (entitySn packet))
        else [] := by
  have fallback := (default_call_kept system (entitySn packet)).2.2
  unfold process
  by_cases done : isDo finds (functionCalls system packet) = true
  · simp [done]
  · by_cases toWorld : packet.tagKey .toWorld = none
    · simp [done, toWorld, addressed, fallback]
    · simp [done, toWorld]

theorem process_broadcast (finds : Handler → Bool) (system : MessageSystem Handler)
    (packet : Packet) (broadcast : ¬0 < entitySn packet) :
    (process finds system packet).2 = asCalls (functionCalls system packet) := by
  unfold process
  split
  · rfl
  · rw [if_neg (fun both => broadcast both.1)]

theorem process_delivered (seen : Watched Handler) (finds : Handler → Bool) (packet : Packet)
    (functions : FunctionsInEffect seen) (defaults : DefaultsInEffect seen) :
    Delivered finds seen.registry packet (process finds seen.system packet).2 := by
  unfold Delivered
  by_cases addressed : 0 < entitySn packet
  · rw [if_pos addressed, process_entity finds seen.system packet addressed,
      function_calls_entity seen.system packet addressed, functions, defaults]
    cases seen.registry.functions packet.msgId (entitySn packet) with
    | none => simp [asCalls, isDo]
    | some callback => simp [asCalls, isDo]
  · rw [if_neg addressed, process_broadcast finds seen.system packet addressed]
    obtain ⟨once, listed⟩ := function_calls_all seen.system packet addressed
    constructor
    · refine List.Nodup.map ?_ once
      intro left right same
      cases left
      cases right
      cases same
      rfl
    · intro call
      simp only [asCalls, List.mem_map, Prod.exists]
      constructor
      · rintro ⟨sn, callback, member, rfl⟩
        exact ⟨sn, callback, rfl, (functions packet.msgId sn) ▸ (listed sn callback).mp member⟩
      · rintro ⟨sn, callback, rfl, registered⟩
        exact ⟨sn, callback, (listed sn callback).mpr ((functions packet.msgId sn).trans registered), rfl⟩

/-- The registrations are in effect throughout a run exactly if no default
callback is registered over a null entry; a packet that is then drained gets
the calls it is owed and no others, and its processing changes none of the
registrations. -/
theorem delivery_law {trace : List (Event Handler)} {seen : Watched Handler} :
    (Run (Guarded Step NotShadowed) watchNew trace seen ↔
      Run (Along Step fun state => FunctionsInEffect state ∧ DefaultsInEffect state)
        watchNew trace seen) ∧
    (Run (Guarded Step NotShadowed) watchNew trace seen →
      ∀ finds packet calls after, Step seen (.process finds packet calls) after →
        inBody seen.system.cachePackets = some packet ∧
        Delivered finds seen.registry packet calls ∧
        after.registry = seen.registry ∧ FunctionsInEffect after ∧ DefaultsInEffect after) := by
  have startFunctions : FunctionsInEffect (watchNew : Watched Handler) := fun _ _ => rfl
  have startDefaults : DefaultsInEffect (watchNew : Watched Handler) := fun _ => rfl
  constructor
  · apply guarded_iff_along FunctionsInEffect step_functions
    · intro before event after functions good step
      have decided := step_defaults before event after good.2 step
      exact ⟨fun visible => ⟨step_functions before event after functions step, decided.mp visible⟩,
        fun later => decided.mpr later.2⟩
    · exact startFunctions
    · exact ⟨startFunctions, startDefaults⟩
  · intro run finds packet calls after step
    have inEffect : FunctionsInEffect seen ∧ DefaultsInEffect seen := by
      refine run_invariant (fun state => FunctionsInEffect state ∧ DefaultsInEffect state) ?_ run
        ⟨startFunctions, startDefaults⟩
      intro before event after holds taken
      exact ⟨step_functions before event after holds.1 taken.1,
        (step_defaults before event after holds.2 taken.1).mp taken.2⟩
    have laterFunctions := step_functions seen _ after inEffect.1 step
    have laterDefaults := (step_defaults seen _ after inEffect.2 step).mp trivial
    cases step with
    | process _ _ queue work moved =>
        exact ⟨work, process_delivered seen finds packet inEffect.1 inEffect.2, rfl,
          laterFunctions, laterDefaults⟩

/-- An object registers its default callback before anything is sent to it. -/
theorem delivery_law_default :
    ∃ (trace : List (Event Nat)) (seen after : Watched Nat),
      Run (Guarded Step NotShadowed) watchNew trace seen ∧
      Step seen (.process (fun _ => true) ⟨1, addTagInt clear .entity 7⟩
        [.default 7 (.message 5)]) after ∧
      Delivered (fun _ => true) seen.registry ⟨1, addTagInt clear .entity 7⟩
        [.default 7 (.message 5)] := by
  have run : ∃ (trace : List (Event Nat)) (seen after : Watched Nat),
      Run (Guarded Step NotShadowed) watchNew trace seen ∧
      Step seen (.process (fun _ => true) ⟨1, addTagInt clear .entity 7⟩
        [.default 7 (.message 5)]) after := by
    refine ⟨_, _, _, .next ⟨.registerDefaultFunction _ 7 (.message 5), ?_⟩
      (.next ⟨.addPacketToList _ ⟨1, addTagInt clear .entity 7⟩, trivial⟩
      (.next ⟨.beginDrain _ _ (.beginDrain _ rfl), trivial⟩
      (.next ⟨.handOver _ _ _ (.handOver _ 0 _ rfl rfl), trivial⟩ (.refl _)))),
      .process _ (fun _ => true) _ _ rfl (.next _ 0 rfl)⟩
    intro shadowed
    cases shadowed
  obtain ⟨trace, seen, after, reached, step⟩ := run
  exact ⟨trace, seen, after, reached, step, (delivery_law.2 reached _ _ _ _ step).2.1⟩

/-- A packet for an object is drained before the object registers its default
callback: the lookup leaves a null entry, the registration is lost, and the
next packet for the object is called nowhere. -/
theorem early_packet_shadows_default :
    ∃ (trace : List (Event Nat)) (seen after : Watched Nat),
      Run Step watchNew trace seen ∧ seen.registry.defaults 7 = some (.message 5) ∧
      Step seen (.process (fun _ => true) ⟨1, addTagInt clear .entity 7⟩ []) after ∧
      ¬Delivered (fun _ => true) seen.registry ⟨1, addTagInt clear .entity 7⟩ [] := by
  refine ⟨_, _, _, .next (.addPacketToList _ ⟨1, addTagInt clear .entity 7⟩)
      (.next (.beginDrain _ _ (.beginDrain _ rfl))
      (.next (.handOver _ _ _ (.handOver _ 0 _ rfl rfl))
      (.next (.process _ (fun _ => true) _ _ rfl (.next _ 0 rfl))
      (.next (.clear _ _ (.clear _ 1 rfl rfl))
      (.next (.registerDefaultFunction _ 7 (.message 5))
      (.next (.addPacketToList _ ⟨1, addTagInt clear .entity 7⟩)
      (.next (.beginDrain _ _ (.beginDrain _ rfl))
      (.next (.handOver _ _ _ (.handOver _ 0 _ rfl rfl)) (.refl _))))))))),
      rfl, .process _ (fun _ => true) _ _ rfl (.next _ 0 rfl), ?_⟩
  intro delivered
  have owed : ([] : List (Call Nat)) = [.default 7 (.message 5)] := delivered
  cases owed

end MessageSystem

end GameBook
