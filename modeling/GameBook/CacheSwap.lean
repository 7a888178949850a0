import Mathlib.Data.List.Forall2
import GameBook.LabelledRun

/-!
The two lists of cache_swap.h and the loop that drains them. Producers append
to the writer list under the lock of the owner; the one consumer swaps under
the lock and walks the reader list outside it, so the steps below are the
lock sections, the single iterations and the final `clear()`.
-/

namespace GameBook

open LabelledRun

universe u
variable {Item : Type u}

inductive CacheSwap.Cache where
  | caches1
  | caches2
  deriving DecidableEq, Repr

/-- `_readerCache` and `_writerCache` are pointers to the two lists. -/
structure CacheSwap (Item : Type u) where
  caches1 : List Item
  caches2 : List Item
  readerCache : CacheSwap.Cache
  writerCache : CacheSwap.Cache

namespace CacheSwap

def new : CacheSwap Item := ⟨[], [], .caches2, .caches1⟩

def cacheAt (caches : CacheSwap Item) : Cache → List Item
  | .caches1 => caches.caches1
  | .caches2 => caches.caches2

def setCache (caches : CacheSwap Item) (items : List Item) : Cache → CacheSwap Item
  | .caches1 => { caches with caches1 := items }
  | .caches2 => { caches with caches2 := items }

def getWriterCache (caches : CacheSwap Item) : List Item := cacheAt caches caches.writerCache

def getReaderCache (caches : CacheSwap Item) : List Item := cacheAt caches caches.readerCache

def swap (caches : CacheSwap Item) : CacheSwap Item :=
  { caches with readerCache := caches.writerCache, writerCache := caches.readerCache }

def canSwap (caches : CacheSwap Item) : Bool := 0 < (getWriterCache caches).length

def emplaceBack (caches : CacheSwap Item) (item : Item) : CacheSwap Item :=
  setCache caches (getWriterCache caches ++ [item]) caches.writerCache

def clearReader (caches : CacheSwap Item) : CacheSwap Item :=
  setCache caches [] caches.readerCache

/-- The two pointers never name the same list. -/
def Apart (caches : CacheSwap Item) : Prop := caches.readerCache ≠ caches.writerCache

theorem new_apart : Apart (new : CacheSwap Item) := by
  intro same
  cases same

@[simp] theorem new_reader : getReaderCache (new : CacheSwap Item) = [] := rfl

@[simp] theorem new_writer : getWriterCache (new : CacheSwap Item) = [] := rfl

@[simp] theorem swap_reader (caches : CacheSwap Item) :
    getReaderCache (swap caches) = getWriterCache caches := by
  cases caches with
  | mk first second reader writer => cases writer <;> rfl

@[simp] theorem swap_writer (caches : CacheSwap Item) :
    getWriterCache (swap caches) = getReaderCache caches := by
  cases caches with
  | mk first second reader writer => cases reader <;> rfl

theorem swap_apart (caches : CacheSwap Item) (apart : Apart caches) : Apart (swap caches) := by
  intro same
  exact apart same.symm

@[simp] theorem emplace_writer (caches : CacheSwap Item) (item : Item) :
    getWriterCache (emplaceBack caches item) = getWriterCache caches ++ [item] := by
  cases caches with
  | mk first second reader writer => cases writer <;> rfl

/-- An append never reaches the list the consumer walks. -/
theorem emplace_reader (caches : CacheSwap Item) (item : Item) (apart : Apart caches) :
    getReaderCache (emplaceBack caches item) = getReaderCache caches := by
  cases caches with
  | mk first second reader writer =>
      cases reader <;> cases writer
      · exact absurd rfl apart
      · rfl
      · rfl
      · exact absurd rfl apart

theorem emplace_apart (caches : CacheSwap Item) (item : Item) (apart : Apart caches) :
    Apart (emplaceBack caches item) := by
  cases caches with
  | mk first second reader writer => cases writer <;> exact apart

@[simp] theorem clear_reader (caches : CacheSwap Item) :
    getReaderCache (clearReader caches) = [] := by
  cases caches with
  | mk first second reader writer => cases reader <;> rfl

theorem clear_writer (caches : CacheSwap Item) (apart : Apart caches) :
    getWriterCache (clearReader caches) = getWriterCache caches := by
  cases caches with
  | mk first second reader writer =>
      cases reader <;> cases writer
      · exact absurd rfl apart
      · rfl
      · rfl
      · exact absurd rfl apart

theorem clear_apart (caches : CacheSwap Item) (apart : Apart caches) :
    Apart (clearReader caches) := by
  cases caches with
  | mk first second reader writer => cases reader <;> exact apart

theorem can_swap_iff (caches : CacheSwap Item) :
    canSwap caches = true ↔ getWriterCache caches ≠ [] := by
  simp [canSwap, List.length_pos_iff]

/-! ### The draining loop -/

/-- Where the consumer stands: outside the loop, before the loop test with its
iterator at a position, or in the body on the item at a position. -/
inductive Phase where
  | idle
  | head (iter : Nat)
  | body (iter : Nat)
  deriving DecidableEq, Repr

structure DrainQueue (Item : Type u) where
  caches : CacheSwap Item
  phase : Phase

def newQueue : DrainQueue Item := ⟨new, .idle⟩

/-- What differs between the owners of such a queue: the items the enqueuing
function takes, and whether the drain returns at once on an empty reader. -/
structure Owner (Item : Type u) where
  accepts : Item → Bool
  returnsOnEmpty : Bool

def messageSystem : Owner Item := ⟨fun _ => true, true⟩

def threadMgr : Owner Item := ⟨fun _ => true, false⟩

/-- `Network`: `SendPacket` refuses the packets of another network type;
`OnNetworkUpdate` drains. -/
def network {NetType : Type} [DecidableEq NetType] (netTypeOf : Item → NetType)
    (networkType : NetType) : Owner Item :=
  ⟨fun packet => netTypeOf packet = networkType, false⟩

/-- `AddPacketToList`, `DispatchPacket`, `SendPacket`. -/
def enqueue (owner : Owner Item) (queue : DrainQueue Item) (item : Item) : DrainQueue Item :=
  if owner.accepts item then { queue with caches := emplaceBack queue.caches item } else queue

/-- The lock section at the top of a drain. -/
def refill (caches : CacheSwap Item) : CacheSwap Item :=
  if canSwap caches then swap caches else caches

def beginDrain (owner : Owner Item) (queue : DrainQueue Item) : DrainQueue Item :=
  { caches := refill queue.caches
    phase :=
      if owner.returnsOnEmpty ∧ getReaderCache (refill queue.caches) = [] then .idle
      else .head 0 }

inductive Act (Item : Type u) where
  | enqueue (item : Item)
  | beginDrain
  | handOver (item : Item)
  | next
  | clear

inductive QueueStep (owner : Owner Item) : DrainQueue Item → Act Item → DrainQueue Item → Prop where
  | enqueue (queue : DrainQueue Item) (item : Item) :
      QueueStep owner queue (.enqueue item) (enqueue owner queue item)
  | beginDrain (queue : DrainQueue Item) (outside : queue.phase = .idle) :
      QueueStep owner queue .beginDrain (beginDrain owner queue)
  | handOver (queue : DrainQueue Item) (iter : Nat) (item : Item) (test : queue.phase = .head iter)
      (stored : (getReaderCache queue.caches)[iter]? = some item) :
      QueueStep owner queue (.handOver item) { queue with phase := .body iter }
  | next (queue : DrainQueue Item) (iter : Nat) (inside : queue.phase = .body iter) :
      QueueStep owner queue .next { queue with phase := .head (iter + 1) }
  | clear (queue : DrainQueue Item) (iter : Nat) (test : queue.phase = .head iter)
      (finished : iter = (getReaderCache queue.caches).length) :
      QueueStep owner queue .clear ⟨clearReader queue.caches, .idle⟩

/-! ### The queue as one list -/

def unread (queue : DrainQueue Item) : List Item :=
  match queue.phase with
  | .idle => getReaderCache queue.caches
  | .head iter => (getReaderCache queue.caches).drop iter
  | .body iter => (getReaderCache queue.caches).drop (iter + 1)

def pending (queue : DrainQueue Item) : List Item := unread queue ++ getWriterCache queue.caches

/-- Outside the loop the reader list is used up; inside, the iterator stays
within it. -/
structure WellFormed (queue : DrainQueue Item) : Prop where
  apart : Apart queue.caches
  idle : queue.phase = .idle → getReaderCache queue.caches = []
  head : ∀ iter, queue.phase = .head iter → iter ≤ (getReaderCache queue.caches).length
  body : ∀ iter, queue.phase = .body iter → iter < (getReaderCache queue.caches).length

theorem new_well_formed : WellFormed (newQueue : DrainQueue Item) where
  apart := new_apart
  idle := fun _ => rfl
  head := fun _ test => nomatch test
  body := fun _ inside => nomatch inside

theorem enqueue_well_formed (owner : Owner Item) (queue : DrainQueue Item) (item : Item)
    (formed : WellFormed queue) : WellFormed (enqueue owner queue item) := by
  unfold enqueue
  split
  · have kept := emplace_reader queue.caches item formed.apart
    constructor
    · exact emplace_apart queue.caches item formed.apart
    · intro outside
      rw [kept]
      exact formed.idle outside
    · intro iter test
      rw [kept]
      exact formed.head iter test
    · intro iter inside
      rw [kept]
      exact formed.body iter inside
  · exact formed

theorem refill_caches (caches : CacheSwap Item) (apart : Apart caches)
    (used : getReaderCache caches = []) :
    getReaderCache (refill caches) = getWriterCache caches ∧
      getWriterCache (refill caches) = [] ∧ Apart (refill caches) := by
  unfold refill
  by_cases filled : canSwap caches
  · simp [filled, used, swap_apart caches apart]
  · have empty : getWriterCache caches = [] := by
      simpa [can_swap_iff] using filled
    simp [filled, used, empty, apart]

@[simp] theorem begin_drain_caches (owner : Owner Item) (queue : DrainQueue Item) :
    (beginDrain owner queue).caches = refill queue.caches := rfl

theorem begin_drain_phase (owner : Owner Item) (queue : DrainQueue Item) :
    (beginDrain owner queue).phase = .head 0 ∨
      (beginDrain owner queue).phase = .idle ∧ getReaderCache (refill queue.caches) = [] := by
  simp only [beginDrain]
  split
  · rename_i returns
    exact Or.inr ⟨rfl, returns.2⟩
  · exact Or.inl rfl

theorem begin_drain_well_formed (owner : Owner Item) (queue : DrainQueue Item)
    (formed : WellFormed queue) (outside : queue.phase = .idle) :
    WellFormed (beginDrain owner queue) := by
  have apart : Apart (beginDrain owner queue).caches :=
    (refill_caches queue.caches formed.apart (formed.idle outside)).2.2
  rcases begin_drain_phase owner queue with started | ⟨returned, empty⟩
  · constructor
    · exact apart
    · intro idle
      rw [started] at idle
      cases idle
    · intro iter test
      rw [started] at test
      cases test
      exact Nat.zero_le _
    · intro iter inside
      rw [started] at inside
      cases inside
  · constructor
    · exact apart
    · intro _
      exact empty
    · intro iter test
      rw [returned] at test
      cases test
    · intro iter inside
      rw [returned] at inside
      cases inside

theorem step_well_formed (owner : Owner Item) (before after : DrainQueue Item) (act : Act Item)
    (formed : WellFormed before) (step : QueueStep owner before act after) : WellFormed after := by
  cases step with
  | enqueue item => exact enqueue_well_formed owner before item formed
  | beginDrain outside => exact begin_drain_well_formed owner before formed outside
  | handOver iter item test stored =>
      refine ⟨formed.apart, (fun idle => nomatch idle), (fun _ head => nomatch head), ?_⟩
      intro position inside
      cases inside
      exact (List.getElem?_eq_some_iff.mp stored).1
  | next iter inside =>
      refine ⟨formed.apart, (fun idle => nomatch idle), ?_, (fun _ body => nomatch body)⟩
      intro position test
      cases test
      exact formed.body iter inside
  | clear iter test finished =>
      refine ⟨clear_apart before.caches formed.apart, ?_, (fun _ head => nomatch head),
        (fun _ body => nomatch body)⟩
      intro _
      exact clear_reader before.caches

/-- What each step does to the queue as one list: an accepted item joins at the
back, a handed item leaves at the front, and nothing else moves. -/
theorem enqueue_pending (owner : Owner Item) (queue : DrainQueue Item) (item : Item)
    (formed : WellFormed queue) :
    pending (enqueue owner queue item) =
      pending queue ++ if owner.accepts item then [item] else [] := by
  unfold enqueue
  split
  · have kept := emplace_reader queue.caches item formed.apart
    simp only [pending, unread, emplace_writer, kept, List.append_assoc]
  · simp

theorem begin_drain_pending (owner : Owner Item) (queue : DrainQueue Item)
    (formed : WellFormed queue) (outside : queue.phase = .idle) :
    pending (beginDrain owner queue) = pending queue := by
  have used := formed.idle outside
  obtain ⟨reader, writer, _⟩ := refill_caches queue.caches formed.apart used
  have start : unread (beginDrain owner queue) = getReaderCache (refill queue.caches) := by
    rcases begin_drain_phase owner queue with started | ⟨returned, _⟩
    · simp [unread, started]
    · simp [unread, returned]
  calc pending (beginDrain owner queue)
      = getReaderCache (refill queue.caches) ++ getWriterCache (refill queue.caches) := by
        rw [pending, start, begin_drain_caches]
    _ = pending queue := by simp [pending, unread, outside, used, reader, writer]

theorem hand_over_pending (queue : DrainQueue Item) (iter : Nat) (item : Item)
    (test : queue.phase = .head iter) (stored : (getReaderCache queue.caches)[iter]? = some item) :
    pending queue = item :: pending { queue with phase := .body iter } := by
  obtain ⟨within, same⟩ := List.getElem?_eq_some_iff.mp stored
  simp only [pending, unread, test]
  rw [List.drop_eq_getElem_cons within, same, List.cons_append]

theorem next_pending (queue : DrainQueue Item) (iter : Nat) (inside : queue.phase = .body iter) :
    pending { queue with phase := .head (iter + 1) } = pending queue := by
  simp [pending, unread, inside]

/-- The final `clear()` throws nothing away: the reader list has been read. -/
theorem clear_pending (queue : DrainQueue Item) (formed : WellFormed queue) (iter : Nat)
    (test : queue.phase = .head iter) (finished : iter = (getReaderCache queue.caches).length) :
    pending ⟨clearReader queue.caches, .idle⟩ = pending queue := by
  have untouched := clear_writer queue.caches formed.apart
  simp [pending, unread, test, finished, untouched]

def inBody (queue : DrainQueue Item) : Option Item :=
  match queue.phase with
  | .body iter => (getReaderCache queue.caches)[iter]?
  | _ => none

def holding (queue : DrainQueue Item) : List Item := (inBody queue).toList ++ pending queue

theorem enqueue_holding (owner : Owner Item) (queue : DrainQueue Item) (item : Item)
    (formed : WellFormed queue) :
    holding (enqueue owner queue item) =
      holding queue ++ if owner.accepts item then [item] else [] := by
  have body : inBody (enqueue owner queue item) = inBody queue := by
    unfold enqueue
    split
    · simp only [inBody, emplace_reader queue.caches item formed.apart]
    · rfl
  rw [holding, holding, body, enqueue_pending owner queue item formed, List.append_assoc]

theorem begin_drain_holding (owner : Owner Item) (queue : DrainQueue Item)
    (formed : WellFormed queue) (outside : queue.phase = .idle) :
    holding (beginDrain owner queue) = holding queue := by
  have none : inBody (beginDrain owner queue) = none := by
    rcases begin_drain_phase owner queue with started | ⟨returned, _⟩
    · simp [inBody, started]
    · simp [inBody, returned]
  rw [holding, holding, none, begin_drain_pending owner queue formed outside]
  simp [inBody, outside]

theorem hand_over_holding (queue : DrainQueue Item) (iter : Nat) (item : Item)
    (test : queue.phase = .head iter) (stored : (getReaderCache queue.caches)[iter]? = some item) :
    holding { queue with phase := .body iter } = holding queue := by
  have before : inBody queue = none := by simp [inBody, test]
  have after : inBody { queue with phase := .body iter } = some item := stored
  rw [holding, holding, before, after, hand_over_pending queue iter item test stored]
  rfl

theorem next_holding (queue : DrainQueue Item) (iter : Nat) (item : Item)
    (inside : queue.phase = .body iter) (work : inBody queue = some item) :
    holding queue = item :: holding { queue with phase := .head (iter + 1) } := by
  rw [holding, work, ← next_pending queue iter inside]
  rfl

theorem clear_holding (queue : DrainQueue Item) (formed : WellFormed queue) (iter : Nat)
    (test : queue.phase = .head iter) (finished : iter = (getReaderCache queue.caches).length) :
    holding ⟨clearReader queue.caches, .idle⟩ = holding queue := by
  have before : inBody queue = none := by simp [inBody, test]
  rw [holding, holding, before, clear_pending queue formed iter test finished]
  rfl

def BodyMoves (before after : DrainQueue Item) : Act Item → Prop
  | .enqueue _ => inBody after = inBody before
  | .handOver item => inBody before = none ∧ inBody after = some item
  | .next => (∃ item, inBody before = some item) ∧ inBody after = none
  | _ => inBody before = none ∧ inBody after = none

theorem step_body (owner : Owner Item) (before after : DrainQueue Item) (act : Act Item)
    (formed : WellFormed before) (step : QueueStep owner before act after) :
    BodyMoves before after act := by
  cases step with
  | enqueue item =>
      show inBody (enqueue owner before item) = inBody before
      unfold enqueue
      split
      · simp only [inBody, emplace_reader before.caches item formed.apart]
      · rfl
  | beginDrain outside =>
      refine ⟨by simp [inBody, outside], ?_⟩
      rcases begin_drain_phase owner before with started | ⟨returned, _⟩
      · simp [inBody, started]
      · simp [inBody, returned]
  | handOver iter item test stored => exact ⟨by simp [inBody, test], stored⟩
  | next iter inside =>
      have within := formed.body iter inside
      exact ⟨⟨_, by simp [inBody, inside, List.getElem?_eq_getElem within]; rfl⟩, rfl⟩
  | clear iter test finished => exact ⟨by simp [inBody, test], rfl⟩

/-! ### What was put in and what was handed over -/

/-- A queue together with its past: every item accepted and every item handed
over, each with the number of drains begun by then. -/
structure Watched (Item : Type u) where
  queue : DrainQueue Item
  drains : Nat
  enqueued : List (Item × Nat)
  handed : List (Item × Nat)

def watchNew : Watched Item := ⟨newQueue, 0, [], []⟩

def record (owner : Owner Item) (seen : Watched Item) (queue : DrainQueue Item) :
    Act Item → Watched Item
  | .enqueue item =>
      { seen with
        queue := queue
        enqueued := seen.enqueued ++ if owner.accepts item then [(item, seen.drains)] else [] }
  | .beginDrain => { seen with queue := queue, drains := seen.drains + 1 }
  | .handOver item =>
      { seen with queue := queue, handed := seen.handed ++ [(item, seen.drains)] }
  | .next => { seen with queue := queue }
  | .clear => { seen with queue := queue }

inductive WatchedStep (owner : Owner Item) : Watched Item → Act Item → Watched Item → Prop where
  | take (before : Watched Item) (act : Act Item) (queue : DrainQueue Item) :
      QueueStep owner before.queue act queue → WatchedStep owner before act (record owner before queue act)

def byConsumer : Act Item → Bool
  | .enqueue _ => false
  | _ => true

/-- The item is the one that was put in, and its drain began after it was. -/
def HandedLater (given put : Item × Nat) : Prop := given.1 = put.1 ∧ put.2 < given.2

/-- The past splits at the iterator: what was handed over, what the reader list
still holds from before this drain, what joined the writer list since. -/
structure Split (seen : Watched Item) (done unreadPart writerPart : List (Item × Nat)) : Prop where
  whole : seen.enqueued = done ++ unreadPart ++ writerPart
  handed : List.Forall₂ HandedLater seen.handed done
  begun : ∀ given ∈ seen.handed, given.2 ≤ seen.drains
  unread : unreadPart.map Prod.fst = unread seen.queue
  earlier : ∀ put ∈ unreadPart, put.2 < seen.drains
  writer : writerPart.map Prod.fst = getWriterCache seen.queue.caches
  since : ∀ put ∈ writerPart, put.2 = seen.drains

structure Watching (seen : Watched Item) : Prop where
  formed : WellFormed seen.queue
  split : ∃ done unreadPart writerPart, Split seen done unreadPart writerPart

theorem watch_new : Watching (watchNew : Watched Item) where
  formed := new_well_formed
  split := ⟨[], [], [], by
    constructor <;> simp [watchNew, newQueue, CacheSwap.unread]⟩

theorem split_enqueue (owner : Owner Item) (seen : Watched Item) (item : Item)
    (formed : WellFormed seen.queue) {done unreadPart writerPart : List (Item × Nat)}
    (parts : Split seen done unreadPart writerPart) (taken : owner.accepts item = true) :
    Split (record owner seen (enqueue owner seen.queue item) (.enqueue item)) done unreadPart
      (writerPart ++ [(item, seen.drains)]) := by
  have same : enqueue owner seen.queue item =
      { seen.queue with caches := emplaceBack seen.queue.caches item } := if_pos taken
  have kept := emplace_reader seen.queue.caches item formed.apart
  constructor
  · simp [record, taken, parts.whole]
  · exact parts.handed
  · exact parts.begun
  · rw [parts.unread]
    simp only [record, same, CacheSwap.unread, kept]
  · exact parts.earlier
  · simp [record, same, parts.writer]
  · intro put member
    rcases List.mem_append.mp member with old | new
    · exact parts.since put old
    · rw [List.mem_singleton.mp new]
      rfl

theorem split_begin_drain (owner : Owner Item) (seen : Watched Item)
    (formed : WellFormed seen.queue) (outside : seen.queue.phase = .idle)
    {done unreadPart writerPart : List (Item × Nat)}
    (parts : Split seen done unreadPart writerPart) :
    Split (record owner seen (beginDrain owner seen.queue) .beginDrain) done writerPart [] := by
  have used := formed.idle outside
  obtain ⟨reader, writer, _⟩ := refill_caches seen.queue.caches formed.apart used
  have nothing : unreadPart = [] := by
    have read := parts.unread
    simpa [CacheSwap.unread, outside, used] using read
  constructor
  · simp [record, parts.whole, nothing]
  · exact parts.handed
  · intro given member
    exact Nat.le_succ_of_le (parts.begun given member)
  · rw [parts.writer, ← reader]
    rcases begin_drain_phase owner seen.queue with started | ⟨returned, _⟩
    · simp [record, CacheSwap.unread, started]
    · simp [record, CacheSwap.unread, returned]
  · intro put member
    have stamp := parts.since put member
    simp only [record]
    omega
  · simp [record, writer]
  · intro put member
    cases member

theorem split_hand_over (owner : Owner Item) (seen : Watched Item) (iter : Nat) (item : Item)
    (test : seen.queue.phase = .head iter)
    (stored : (getReaderCache seen.queue.caches)[iter]? = some item)
    {done unreadPart writerPart : List (Item × Nat)}
    (parts : Split seen done unreadPart writerPart) :
    ∃ put rest, unreadPart = put :: rest ∧
      Split (record owner seen { seen.queue with phase := .body iter } (.handOver item))
        (done ++ [put]) rest writerPart := by
  obtain ⟨within, same⟩ := List.getElem?_eq_some_iff.mp stored
  have read : unreadPart.map Prod.fst =
      item :: (getReaderCache seen.queue.caches).drop (iter + 1) := by
    rw [parts.unread, CacheSwap.unread, test]
    simp only
    rw [List.drop_eq_getElem_cons within, same]
  cases unreadPart with
  | nil => cases read
  | cons put rest =>
      obtain ⟨front, others⟩ := List.cons.inj read
      have stamp := parts.earlier put List.mem_cons_self
      refine ⟨put, rest, rfl, ?_⟩
      constructor
      · simp [record, parts.whole]
      · exact List.rel_append parts.handed (List.Forall₂.cons ⟨front.symm, stamp⟩ List.Forall₂.nil)
      · intro given member
        rcases List.mem_append.mp member with old | new
        · exact parts.begun given old
        · rw [List.mem_singleton.mp new]
          exact Nat.le_refl _
      · exact others
      · intro later member
        exact parts.earlier later (List.mem_cons_of_mem put member)
      · exact parts.writer
      · exact parts.since

theorem split_same (seen : Watched Item) (queue : DrainQueue Item)
    (unmoved : unread queue = unread seen.queue)
    (untouched : getWriterCache queue.caches = getWriterCache seen.queue.caches)
    {done unreadPart writerPart : List (Item × Nat)}
    (parts : Split seen done unreadPart writerPart) :
    Split { seen with queue := queue } done unreadPart writerPart :=
  ⟨parts.whole, parts.handed, parts.begun, parts.unread.trans unmoved.symm, parts.earlier,
    parts.writer.trans untouched.symm, parts.since⟩

theorem step_watching (owner : Owner Item) (before after : Watched Item) (act : Act Item)
    (watching : Watching before) (step : WatchedStep owner before act after) :
    Watching after := by
  obtain ⟨formed, done, unreadPart, writerPart, parts⟩ := watching
  cases step with
  | take queue moved =>
      have kept := step_well_formed owner _ _ _ formed moved
      cases moved with
      | enqueue item =>
          refine ⟨kept, ?_⟩
          cases taken : owner.accepts item with
          | true => exact ⟨_, _, _, split_enqueue owner before item formed parts taken⟩
          | false =>
              have refused : enqueue owner before.queue item = before.queue := by
                simp [enqueue, taken]
              refine ⟨done, unreadPart, writerPart, ?_⟩
              simpa [record, taken, refused] using parts
      | beginDrain outside =>
          exact ⟨kept, _, _, _, split_begin_drain owner before formed outside parts⟩
      | handOver iter item test stored =>
          obtain ⟨_, _, _, moved⟩ := split_hand_over owner before iter item test stored parts
          exact ⟨kept, _, _, _, moved⟩
      | next iter inside =>
          have unmoved : unread { before.queue with phase := .head (iter + 1) } =
              unread before.queue := by
            simp [CacheSwap.unread, inside]
          exact ⟨kept, _, _, _, split_same before _ unmoved rfl parts⟩
      | clear iter test finished =>
          have unmoved : unread ⟨clearReader before.queue.caches, .idle⟩ = unread before.queue := by
            simp [CacheSwap.unread, test, finished]
          exact ⟨kept, _, _, _,
            split_same before _ unmoved (clear_writer before.queue.caches formed.apart) parts⟩

theorem run_watching (owner : Owner Item) {trace : List (Act Item)} {seen : Watched Item}
    (run : Run (WatchedStep owner) watchNew trace seen) : Watching seen :=
  run_invariant Watching (fun before _ after => step_watching owner before after _) run watch_new

/-! ### Every item is reached -/

theorem handed_items {handed done : List (Item × Nat)}
    (matched : List.Forall₂ HandedLater handed done) :
    handed.map Prod.fst = done.map Prod.fst := by
  induction matched with
  | nil => rfl
  | cons later _ ih => rw [List.map_cons, List.map_cons, later.1, ih]

theorem handed_before {handed done : List (Item × Nat)} (bound : Nat)
    (matched : List.Forall₂ HandedLater handed done) (begun : ∀ given ∈ handed, given.2 ≤ bound) :
    ∀ put ∈ done, put.2 < bound := by
  induction matched with
  | nil =>
      intro put member
      cases member
  | cons later _ ih =>
      intro put member
      rcases List.mem_cons.mp member with rfl | rest
      · exact Nat.lt_of_lt_of_le later.2 (begun _ List.mem_cons_self)
      · exact ih (fun given old => begun given (List.mem_cons_of_mem _ old)) put rest

theorem watching_conserved {seen : Watched Item} (watching : Watching seen) :
    seen.enqueued.map Prod.fst = seen.handed.map Prod.fst ++ pending seen.queue := by
  obtain ⟨_, done, unreadPart, writerPart, parts⟩ := watching
  rw [parts.whole, handed_items parts.handed, pending, ← parts.unread, ← parts.writer]
  simp [List.append_assoc]

theorem watching_later {seen : Watched Item} (watching : Watching seen) (index : Nat)
    (put given : Item × Nat) (isPut : seen.enqueued[index]? = some put)
    (isGiven : seen.handed[index]? = some given) : HandedLater given put := by
  obtain ⟨_, done, unreadPart, writerPart, parts⟩ := watching
  obtain ⟨within, same⟩ := List.getElem?_eq_some_iff.mp isGiven
  have length := parts.handed.length_eq
  have matched := parts.handed.get within (length ▸ within)
  rw [parts.whole, List.append_assoc,
    List.getElem?_append_left (length ▸ within)] at isPut
  obtain ⟨_, isDone⟩ := List.getElem?_eq_some_iff.mp isPut
  rw [← same, ← isDone]
  exact matched

/-- Between two drains everything put in before the last one began has been
handed over. -/
theorem watching_idle {seen : Watched Item} (watching : Watching seen)
    (outside : seen.queue.phase = .idle) :
    seen.handed.map Prod.fst =
      (seen.enqueued.filter fun put => put.2 < seen.drains).map Prod.fst := by
  obtain ⟨formed, done, unreadPart, writerPart, parts⟩ := watching
  have nothing : unreadPart = [] := by
    have read := parts.unread
    simpa [CacheSwap.unread, outside, formed.idle outside] using read
  have old : done.filter (fun put => put.2 < seen.drains) = done := by
    rw [List.filter_eq_self]
    intro put member
    simpa using handed_before seen.drains parts.handed parts.begun put member
  have young : writerPart.filter (fun put => put.2 < seen.drains) = [] := by
    rw [List.filter_eq_nil_iff]
    intro put member
    simp [parts.since put member]
  rw [handed_items parts.handed, parts.whole, nothing, List.append_nil, List.filter_append, old, young,
    List.append_nil]

/-- How many steps of the consumer are left until the first `goal` items put in
are handed over: two for each item, one for the test before the loop, and two
more for the turn of the lists when the goal lies beyond the reader list. -/
def stepsLeft (goal : Nat) (seen : Watched Item) : Nat :=
  let missing := goal - seen.handed.length
  let turn := if (unread seen.queue).length < missing then 2 else 0
  if missing = 0 then 0
  else match seen.queue.phase with
    | .idle => 2 * missing + 1
    | .head _ => 2 * missing + turn
    | .body _ => 2 * missing + turn + 1

theorem steps_left_bound (seen : Watched Item) (watching : Watching seen) :
    stepsLeft seen.enqueued.length seen ≤ 2 * (pending seen.queue).length + 3 := by
  have whole := congrArg List.length (watching_conserved watching)
  simp only [List.length_map, List.length_append] at whole
  unfold stepsLeft
  cases phase : seen.queue.phase <;> simp only <;> split_ifs <;> omega

theorem steps_left_zero (goal : Nat) (seen : Watched Item) (done : stepsLeft goal seen = 0) :
    goal ≤ seen.handed.length := by
  unfold stepsLeft at done
  cases phase : seen.queue.phase <;> simp only [phase] at done <;> split_ifs at done <;> omega

/-- Producers leave that number as it is and each step of the consumer lowers
it. -/
theorem step_steps_left (owner : Owner Item) (goal : Nat) (before after : Watched Item)
    (act : Act Item) (watching : Watching before) (within : goal ≤ before.enqueued.length)
    (step : WatchedStep owner before act after) :
    stepsLeft goal after ≤ stepsLeft goal before - if byConsumer act then 1 else 0 := by
  have formed := watching.formed
  have whole := congrArg List.length (watching_conserved watching)
  simp only [List.length_map, List.length_append, pending] at whole
  cases step with
  | take queue moved =>
      cases moved with
      | enqueue item =>
          have phase : (enqueue owner before.queue item).phase = before.queue.phase := by
            unfold enqueue
            split <;> rfl
          have kept : unread (enqueue owner before.queue item) = unread before.queue := by
            unfold enqueue
            split
            · simp only [CacheSwap.unread, emplace_reader before.queue.caches item formed.apart]
            · rfl
          simp only [stepsLeft, record, phase, kept, byConsumer, Bool.false_eq_true, if_false]
          exact Nat.le_refl _
      | beginDrain outside =>
          have used := formed.idle outside
          obtain ⟨reader, _, _⟩ := refill_caches before.queue.caches formed.apart used
          have size : (unread before.queue).length = 0 := by
            simp [CacheSwap.unread, outside, used]
          rcases begin_drain_phase owner before.queue with started | ⟨returned, empty⟩
          · have fresh : unread (beginDrain owner before.queue) = getWriterCache before.queue.caches := by
              simp [CacheSwap.unread, started, reader]
            simp only [stepsLeft, record, started, outside, fresh, byConsumer, if_true]
            split_ifs <;> omega
          · have none : (getWriterCache before.queue.caches).length = 0 := by
              rw [← reader, empty, List.length_nil]
            simp only [stepsLeft, record, returned, outside, byConsumer, if_true]
            split_ifs <;> omega
      | handOver iter item test stored =>
          have fewer := congrArg List.length (hand_over_pending before.queue iter item test stored)
          simp only [List.length_cons, pending, List.length_append] at fewer
          simp only [stepsLeft, record, test, byConsumer, if_true, List.length_append,
            List.length_singleton]
          split_ifs <;> omega
      | next iter inside =>
          have kept : unread { before.queue with phase := .head (iter + 1) } = unread before.queue := by
            simp [CacheSwap.unread, inside]
          simp only [stepsLeft, record, inside, kept, byConsumer, if_true]
          split_ifs <;> omega
      | clear iter test finished =>
          have size : (unread before.queue).length = 0 := by
            simp [CacheSwap.unread, test, finished]
          simp only [stepsLeft, record, test, byConsumer, if_true]
          by_cases reached : goal - before.handed.length = 0
          · simp [reached]
          · simp only [reached, if_false]
            split_ifs <;> omega

theorem step_enqueued (owner : Owner Item) (before after : Watched Item) (act : Act Item)
    (step : WatchedStep owner before act after) : before.enqueued <+: after.enqueued := by
  cases step with
  | take queue moved =>
      cases act with
      | enqueue item => exact List.prefix_append _ _
      | beginDrain => exact List.prefix_rfl
      | handOver item => exact List.prefix_rfl
      | next => exact List.prefix_rfl
      | clear => exact List.prefix_rfl

theorem run_steps_left (owner : Owner Item) (goal : Nat) {later : List (Act Item)}
    {seen after : Watched Item} (run : Run (WatchedStep owner) seen later after)
    (watching : Watching seen) (within : goal ≤ seen.enqueued.length) :
    Watching after ∧ seen.enqueued <+: after.enqueued ∧
      stepsLeft goal after ≤ stepsLeft goal seen - (later.filter byConsumer).length := by
  induction run with
  | refl => exact ⟨watching, List.prefix_rfl, Nat.le_refl _⟩
  | @next before middle after act rest step _ ih =>
      have grown := step_enqueued owner before middle act step
      have lower := step_steps_left owner goal before middle act watching within step
      obtain ⟨kept, more, rest_lower⟩ :=
        ih (step_watching owner before middle act watching step)
          (Nat.le_trans within grown.length_le)
      refine ⟨kept, grown.trans more, ?_⟩
      cases consumer : byConsumer act with
      | true =>
          simp only [consumer, if_true] at lower
          simp only [List.filter_cons, consumer, if_true, List.length_cons]
          omega
      | false =>
          simp only [consumer, Bool.false_eq_true, if_false] at lower
          simp only [List.filter_cons, consumer, Bool.false_eq_true, if_false]
          omega

theorem consumer_enabled (owner : Owner Item) (seen : Watched Item) (watching : Watching seen) :
    ∃ act after, byConsumer act = true ∧ WatchedStep owner seen act after := by
  cases phase : seen.queue.phase with
  | idle => exact ⟨_, _, rfl, .take seen _ _ (.beginDrain seen.queue phase)⟩
  | head iter =>
      by_cases within : iter < (getReaderCache seen.queue.caches).length
      · have stored := List.getElem?_eq_getElem within
        exact ⟨_, _, rfl, .take seen _ _ (.handOver seen.queue iter _ phase stored)⟩
      · have finished := Nat.le_antisymm (watching.formed.head iter phase) (Nat.le_of_not_lt within)
        exact ⟨_, _, rfl, .take seen _ _ (.clear seen.queue iter phase finished)⟩
  | body iter => exact ⟨_, _, rfl, .take seen _ _ (.next seen.queue iter phase)⟩

/-- Exactly once and in order. After any interleaving of producers and consumer,
what was put in is what was handed over followed by what the two lists still
hold; the item handed over at a position is the one put in at that position,
in a drain that began after it was put in; between two drains nothing put in
before the last of them is left; and the consumer, never stuck, has handed over
all of it after so many steps of its own, whatever is put in meanwhile. -/
theorem drained_exactly_once_in_order (owner : Owner Item) {trace : List (Act Item)}
    {seen : Watched Item} (run : Run (WatchedStep owner) watchNew trace seen) :
    seen.enqueued.map Prod.fst = seen.handed.map Prod.fst ++ pending seen.queue ∧
    (∀ (index : Nat) (put given : Item × Nat), seen.enqueued[index]? = some put →
      seen.handed[index]? = some given → given.1 = put.1 ∧ put.2 < given.2) ∧
    (seen.queue.phase = .idle → seen.handed.map Prod.fst =
      (seen.enqueued.filter fun put => put.2 < seen.drains).map Prod.fst) ∧
    (∃ act after, byConsumer act = true ∧ WatchedStep owner seen act after) ∧
    (∀ (later : List (Act Item)) (after : Watched Item), Run (WatchedStep owner) seen later after →
      2 * (pending seen.queue).length + 3 ≤ (later.filter byConsumer).length →
      seen.enqueued.map Prod.fst <+: after.handed.map Prod.fst) := by
  have watching := run_watching owner run
  refine ⟨watching_conserved watching, watching_later watching, watching_idle watching,
    consumer_enabled owner seen watching, ?_⟩
  intro later after continued enough
  obtain ⟨kept, grown, lower⟩ :=
    run_steps_left owner seen.enqueued.length continued watching (Nat.le_refl _)
  have bound := steps_left_bound seen watching
  have reached := steps_left_zero seen.enqueued.length after (by omega)
  have conserved := watching_conserved kept
  have start : seen.enqueued.map Prod.fst <+: after.handed.map Prod.fst ++ pending after.queue := by
    rw [← conserved]
    exact grown.map Prod.fst
  exact List.prefix_of_prefix_length_le start (List.prefix_append _ _) (by simpa using reached)

/-- A producer appends, the drain begins, and the handler of the first item
enqueues another one while the loop stands at it. -/
theorem drained_exactly_once_in_order_reentrant :
    ∃ seen : Watched Nat, Run (WatchedStep messageSystem) watchNew
        [.enqueue 1, .beginDrain, .handOver 1, .enqueue 2, .next, .clear] seen ∧
      seen.enqueued = [(1, 0), (2, 1)] ∧ seen.handed = [(1, 1)] ∧ pending seen.queue = [2] ∧
      seen.enqueued.map Prod.fst = seen.handed.map Prod.fst ++ pending seen.queue := by
  have run : ∃ seen : Watched Nat, Run (WatchedStep messageSystem) watchNew
      [.enqueue 1, .beginDrain, .handOver 1, .enqueue 2, .next, .clear] seen ∧
      seen.enqueued = [(1, 0), (2, 1)] ∧ seen.handed = [(1, 1)] ∧ pending seen.queue = [2] := by
    refine ⟨_, .next (.take _ _ _ (.enqueue _ 1)) (.next (.take _ _ _ (.beginDrain _ rfl))
      (.next (.take _ _ _ (.handOver _ 0 1 rfl rfl)) (.next (.take _ _ _ (.enqueue _ 2))
      (.next (.take _ _ _ (.next _ 0 rfl)) (.next (.take _ _ _ (.clear _ 1 rfl rfl))
      (.refl _)))))), rfl, rfl, rfl⟩
  obtain ⟨seen, reached, put, given, left⟩ := run
  exact ⟨seen, reached, put, given, left, (drained_exactly_once_in_order messageSystem reached).1⟩

end CacheSwap

end GameBook
