import Mathlib.Data.List.Count
import Mathlib.Logic.Function.Basic
import GameBook.TimerUpdates

/-!
`TimerComponent::Remove` and the timers of a component that goes back to its
pool. `Remove` looks the numbers up one by one and returns at the first that is
not in the heap: what stands behind it in the list stays, and the heap is not
built anew. The list of a component keeps the numbers of timers that have
ended, so the numbers behind those are the ones that stay.
-/

namespace GameBook.TimerRemoval

open GameBook.BinaryHeap GameBook.LabelledRun GameBook.TimerComponent GameBook.TimerUpdates
  GameBook.WhileLoop

def numbers (timers : List Timer) : List Nat := timers.map Timer.sn

def unlisted (sns : List Nat) (timers : List Timer) : List Timer :=
  timers.filter fun timer => timer.sn ∉ sns

def Exact (sns : List Nat) (before after : Array Timer) : Prop :=
  after.toList.Perm (unlisted sns before.toList) ∧ Ordered Timer.nextTime after

/-- The list begins with the numbers of all timers of the heap that it names,
each as often as the heap has it, and the heap is built anew after these or is
in order without. -/
def Removable (sns : List Nat) (heap : Array Timer) : Prop :=
  ∃ taken rest, sns = taken ++ rest ∧
    (∀ sn ∈ sns, (numbers heap.toList).count sn = taken.count sn) ∧
    (rest = [] ∨ Ordered Timer.nextTime (unlisted sns heap.toList).toArray)

/-- `erase` takes one timer with the number and leaves the others in their places. -/
theorem erase_spec {heap : Array Timer} {sn : Nat} {iter : Fin heap.size}
    (found : heap.findFinIdx? (fun one => one.sn = sn) = some iter) (inside : iter.val < heap.size) :
    ∃ front timer back, heap.toList = front ++ timer :: back ∧ timer.sn = sn ∧
      (heap.eraseIdx iter inside).toList = front ++ back := by
  have named := (Array.findFinIdx?_eq_some_iff.mp found).1
  refine ⟨heap.toList.take iter, heap[iter], heap.toList.drop (iter + 1), ?_, ?_, ?_⟩
  · have bound : (iter : Nat) < heap.toList.length := by simp
    have whole := List.take_append_drop iter heap.toList
    rw [List.drop_eq_getElem_cons bound] at whole
    simpa using whole.symm
  · simpa using named
  · rw [Array.toList_eraseIdx, List.eraseIdx_eq_take_drop_succ]

theorem not_found {heap : Array Timer} {sn : Nat}
    (found : heap.findFinIdx? (fun one => one.sn = sn) = none) : sn ∉ numbers heap.toList := by
  intro member
  obtain ⟨timer, held, named⟩ := List.mem_map.mp member
  have absent := Array.findFinIdx?_eq_none_iff.mp found timer (Array.mem_toList_iff.mp held)
  simp [named] at absent

/-- What the loop of `Remove` has done when it ends: `taken` were found, and
either the list is through or the next number is not in the heap. -/
inductive Ended (sns : List Nat) (heap after : Array Timer) (taken : List Nat) (left : Array Timer) :
    Prop where
  | through (all : sns = taken) (built : after = makeHeap Timer.nextTime left)
  | missing (sn : Nat) (rest : List Nat) (cut : sns = taken ++ sn :: rest)
      (absent : sn ∉ numbers left.toList) (same : after = left)

structure Left (heap : Array Timer) (taken : List Nat) (left : Array Timer) : Prop where
  counts : ∀ sn, (numbers left.toList).count sn + taken.count sn = (numbers heap.toList).count sn
  others : ∀ sns : List Nat, (∀ sn ∈ taken, sn ∈ sns) →
    unlisted sns left.toList = unlisted sns heap.toList
  held : ∀ timer ∈ left.toList, timer ∈ heap.toList

theorem left_erase {heap : Array Timer} {sn : Nat} {iter : Fin heap.size}
    (found : heap.findFinIdx? (fun one => one.sn = sn) = some iter) {taken : List Nat}
    {left : Array Timer} (inside : iter.val < heap.size)
    (further : Left (heap.eraseIdx iter inside) taken left) :
    Left heap (sn :: taken) left := by
  obtain ⟨front, timer, back, whole, named, erased⟩ := erase_spec found inside
  constructor
  · intro other
    have counts := further.counts other
    rw [erased] at counts
    rw [whole]
    simp only [numbers, List.map_append, List.map_cons, List.count_append, List.count_cons,
      named] at counts ⊢
    omega
  · intro sns listed
    rw [further.others sns fun other member => listed other (List.mem_cons_of_mem _ member),
      erased, whole]
    have gone : ¬timer.sn ∉ sns := not_not.mpr (named ▸ listed sn (by simp))
    simp [unlisted, List.filter_append, gone]
  · intro other member
    have before := further.held other member
    rw [erased] at before
    rw [whole]
    simp only [List.mem_append, List.mem_cons] at before ⊢
    exact before.imp id Or.inr

theorem remove_ended (sns : List Nat) (heap : Array Timer) :
    ∃ taken left, Left heap taken left ∧ Ended sns heap (remove sns heap) taken left := by
  induction sns generalizing heap with
  | nil => exact ⟨[], heap, ⟨by simp, fun _ _ => rfl, fun _ held => held⟩, .through rfl rfl⟩
  | cons sn rest ih =>
      cases found : heap.findFinIdx? fun one => one.sn = sn with
      | none =>
          refine ⟨[], heap, ⟨by simp, fun _ _ => rfl, fun _ held => held⟩, ?_⟩
          exact .missing sn rest rfl (not_found found) (by simp only [remove, found])
      | some iter =>
          obtain ⟨taken, left, further, ended⟩ := ih (heap.eraseIdx iter)
          refine ⟨sn :: taken, left, left_erase found iter.isLt further, ?_⟩
          have step : remove (sn :: rest) heap = remove rest (heap.eraseIdx iter) := by
            simp only [remove, found]
          rw [step]
          cases ended with
          | through all built => exact .through (congrArg (sn :: ·) all) built
          | missing other after cut absent same =>
              exact .missing other after (congrArg (sn :: ·) cut) absent same

theorem mem_remove {sns : List Nat} {heap : Array Timer} {timer : Timer}
    (member : timer ∈ (remove sns heap).toList) : timer ∈ heap.toList := by
  obtain ⟨taken, left, spec, ended⟩ := remove_ended sns heap
  apply spec.held timer
  cases ended with
  | through all built =>
      rw [built] at member
      exact (make_heap_perm _ left).toList.mem_iff.mp member
  | missing sn rest cut absent same => rwa [same] at member

theorem no_listed {sns : List Nat} {timers : List Timer}
    (none : ∀ sn ∈ sns, (numbers timers).count sn = 0) : unlisted sns timers = timers := by
  apply List.filter_eq_self.mpr
  intro timer held
  have absent : timer.sn ∉ sns := by
    intro listed
    exact List.count_eq_zero.mp (none timer.sn listed) (List.mem_map.mpr ⟨timer, held, rfl⟩)
  simpa using absent

theorem left_unlisted {sns taken : List Nat} {heap left : Array Timer}
    (spec : Left heap taken left) (listed : ∀ sn ∈ taken, sn ∈ sns)
    (none : ∀ sn ∈ sns, (numbers left.toList).count sn = 0) :
    left.toList = unlisted sns heap.toList :=
  (no_listed none).symm.trans (spec.others sns listed)

theorem taken_unique {sns taken other rest after : List Nat} {heap left : Array Timer}
    (spec : Left heap taken left) (cut : sns = taken ++ rest) (same : sns = other ++ after)
    (counts : ∀ sn ∈ sns, (numbers heap.toList).count sn = other.count sn)
    (stops : ∀ sn more, rest = sn :: more → sn ∉ numbers left.toList) : taken = other := by
  rcases List.append_eq_append_iff.mp (cut.symm.trans same) with
    ⟨more, longer, further⟩ | ⟨more, longer, further⟩
  · cases more with
    | nil => exact (longer.trans (List.append_nil taken)).symm
    | cons sn more =>
        -- the next number is counted but is not in the heap
        have listed : sn ∈ sns := by simp [cut, further]
        have absent := stops sn (more ++ after) (by simpa using further)
        have total := spec.counts sn
        have equal := counts sn listed
        have zero := List.count_eq_zero.mpr absent
        simp only [longer, List.count_append, List.count_cons_self] at equal
        omega
  · cases more with
    | nil => exact longer.trans (List.append_nil other)
    | cons sn more =>
        have listed : sn ∈ sns := by simp [same, further]
        have total := spec.counts sn
        have equal := counts sn listed
        simp only [longer, List.count_append, List.count_cons_self] at total
        omega

theorem exact_of_removable {sns : List Nat} {heap : Array Timer} (removable : Removable sns heap) :
    Exact sns heap (remove sns heap) := by
  obtain ⟨other, after, same, counts, settled⟩ := removable
  obtain ⟨taken, left, spec, ended⟩ := remove_ended sns heap
  have none (agrees : taken = other) :
      ∀ sn ∈ sns, (numbers left.toList).count sn = 0 := by
    intro sn listed
    have total := spec.counts sn
    have equal := counts sn listed
    rw [← agrees] at equal
    omega
  cases ended with
  | through all built =>
      have agrees := taken_unique spec (all.trans (List.append_nil taken).symm) same counts
        (by intro sn more begins; cases begins)
      have whole := left_unlisted spec (fun sn member => all ▸ member) (none agrees)
      rw [built]
      refine ⟨?_, make_heap_ordered _ _⟩
      exact whole ▸ (make_heap_perm _ left).toList
  | missing sn rest cut absent stopped =>
      have agrees := taken_unique spec cut same counts (by
        intro next more begins
        cases begins
        exact absent)
      have whole := left_unlisted spec (fun sn member => by simp [cut, member]) (none agrees)
      rw [stopped]
      refine ⟨.of_eq whole, ?_⟩
      rcases settled with nothing | ordered
      · subst nothing
        simp [← agrees, cut] at same
      · rwa [← whole, Array.toArray_toList] at ordered

theorem removable_of_exact {sns : List Nat} {heap : Array Timer}
    (exact : Exact sns heap (remove sns heap)) : Removable sns heap := by
  obtain ⟨taken, left, spec, ended⟩ := remove_ended sns heap
  have zero : left.toList.Perm (unlisted sns heap.toList) →
      ∀ sn ∈ sns, (numbers left.toList).count sn = 0 := by
    intro same sn listed
    apply List.count_eq_zero.mpr
    intro member
    obtain ⟨timer, held, named⟩ := List.mem_map.mp member
    have kept := (List.mem_filter.mp (same.mem_iff.mp held)).2
    simp [named, listed] at kept
  have counts : left.toList.Perm (unlisted sns heap.toList) →
      ∀ sn ∈ sns, (numbers heap.toList).count sn = taken.count sn := by
    intro same sn listed
    have total := spec.counts sn
    have none := zero same sn listed
    omega
  cases ended with
  | through all built =>
      refine ⟨taken, [], by simpa using all, counts ?_, .inl rfl⟩
      rw [built] at exact
      exact (make_heap_perm _ left).toList.symm.trans exact.1
  | missing sn rest cut absent stopped =>
      rw [stopped] at exact
      refine ⟨taken, sn :: rest, cut, counts exact.1, .inr ?_⟩
      have whole := left_unlisted spec (fun sn member => by simp [cut, member]) (zero exact.1)
      rw [← whole, Array.toArray_toList]
      exact exact.2

/-- `_timers` of a component. `made` is the history of its present life: the
calls of `Add` that its `AddTimer` made. -/
structure Owner where
  timers : List Nat
  made : List Nat
  deriving DecidableEq, Repr

def newOwner : Owner := ⟨[], []⟩

structure Objects (World : Type) where
  owners : Nat → Owner
  world : World

variable {World : Type}

/-- `AddTimer` of the component at an address, once `Add` has read its number. -/
def addTimerCall (thread : Thread (Objects World)) (address : Nat) (call : AddCall) :
    Thread (Objects World) :=
  let owner := thread.world.owners address
  { thread with
    timers := addCall thread.timers call
    world := { thread.world with
      owners := Function.update thread.world.owners address
        ⟨owner.timers ++ [call.sn], owner.made ++ [thread.timers.calls.length]⟩ } }

def addTimer (address : Nat) (total durations : Int32) (immediateDo : Bool)
    (immediateDoDelaySecond : Int32) (thread : Thread (Objects World)) : Thread (Objects World) :=
  let (sn, global) := PacketPool.generateSN thread.global
  { addTimerCall thread address
      ⟨total, durations, immediateDo, immediateDoDelaySecond, sn, thread.global.timeTick⟩ with
    global := global }

def componentBackToPool (address : Nat) (thread : Thread (Objects World)) :
    Thread (Objects World) :=
  let owner := thread.world.owners address
  { thread with
    timers := { thread.timers with
      heap := if owner.timers = [] then thread.timers.heap
        else remove owner.timers thread.timers.heap }
    world := { thread.world with
      owners := Function.update thread.world.owners address newOwner } }

/-- A function that does nothing to the timers but add some. The removal of a
component that it asks for waits for the next turn of the entity system. -/
def AddsTimers (function : Thread (Objects World) → Thread (Objects World)) : Prop :=
  ∀ thread, ∃ added : List (Nat × AddCall),
    (function thread).timers =
      (added.foldl (fun now call => addTimerCall now call.1 call.2) thread).timers ∧
    (function thread).world.owners =
      (added.foldl (fun now call => addTimerCall now call.1 call.2) thread).world.owners

inductive Event where
  | updateTime (timeTick : Nat)
  | addTimer (address : Nat) (total durations : Int32) (immediateDo : Bool)
      (immediateDoDelaySecond : Int32)
  | update
  | componentBackToPool (address : Nat)
  | elsewhere
  deriving DecidableEq, Repr

inductive Step (handlers : Nat → Thread (Objects World) → Thread (Objects World)) :
    Thread (Objects World) → Event → Thread (Objects World) → Prop where
  | updateTime {thread : Thread (Objects World)} {timeTick : Nat} :
      Step handlers thread (.updateTime timeTick)
        { thread with global := { thread.global with timeTick := timeTick } }
  | addTimer {thread : Thread (Objects World)} {address : Nat} {total durations : Int32}
      {immediateDo : Bool} {immediateDoDelaySecond : Int32} :
      Step handlers thread (.addTimer address total durations immediateDo immediateDoDelaySecond)
        (addTimer address total durations immediateDo immediateDoDelaySecond thread)
  | update {before after : Thread (Objects World)} (returned : Updates handlers before after) :
      Step handlers before .update after
  | componentBackToPool {thread : Thread (Objects World)} {address : Nat} :
      Step handlers thread (.componentBackToPool address) (componentBackToPool address thread)
  | elsewhere {before after : Thread (Objects World)} (timers : after.timers = before.timers)
      (owners : after.world.owners = before.world.owners) :
      Step handlers before .elsewhere after

/-- The numbers of a component that goes back can all be removed. -/
def Allowed (thread : Thread (Objects World)) : Event → Prop
  | .componentBackToPool address =>
      Removable (thread.world.owners address).timers thread.timers.heap
  | _ => True

def start (global : PacketPool.Global) (world : World) : Thread (Objects World) :=
  ⟨noTimers, global, ⟨fun _ => newOwner, world⟩⟩

/-- The heap holds timers under the numbers that their calls returned, and a
component lists the numbers of the calls it made. -/
structure Tidy (timers : Timers) (owners : Nat → Owner) : Prop where
  ordered : Ordered Timer.nextTime timers.heap
  named : ∀ timer ∈ timers.heap.toList, ∃ call,
    timers.calls[timer.handler]? = some call ∧ timer.sn = call.sn
  listed : ∀ address, ∀ number ∈ (owners address).made, ∃ call,
    timers.calls[number]? = some call ∧ call.sn ∈ (owners address).timers

theorem made_of_listed {timers : Timers} {owners : Nat → Owner} (tidy : Tidy timers owners)
    {address : Nat} {timer : Timer} (held : timer ∈ timers.heap.toList)
    (made : timer.handler ∈ (owners address).made) : timer.sn ∈ (owners address).timers := by
  obtain ⟨call, found, same⟩ := tidy.named timer held
  obtain ⟨other, there, listed⟩ := tidy.listed address timer.handler made
  rw [found] at there
  cases there
  rwa [same]

theorem still_made {calls : List AddCall} {call made : AddCall} {number : Nat}
    (found : calls[number]? = some made) : (calls ++ [call])[number]? = some made := by
  have bound := (List.getElem?_eq_some_iff.mp found).1
  rwa [List.getElem?_append_left bound]

theorem tidy_add {thread : Thread (Objects World)} (address : Nat) (call : AddCall)
    (tidy : Tidy thread.timers thread.world.owners) :
    Tidy (addTimerCall thread address call).timers
      (addTimerCall thread address call).world.owners := by
  constructor
  · exact add_data_ordered tidy.ordered _
  · intro timer held
    rcases List.mem_cons.mp ((add_data_perm _ _).mem_iff.mp held) with rfl | old
    · exact ⟨call, by simp [addTimerCall, addCall, newTimer], rfl⟩
    · obtain ⟨made, found, same⟩ := tidy.named timer old
      exact ⟨made, still_made found, same⟩
  · intro other number member
    by_cases own : other = address
    · subst own
      simp only [addTimerCall, Function.update_self, List.mem_append, List.mem_singleton] at member ⊢
      rcases member with old | rfl
      · obtain ⟨made, found, listed⟩ := tidy.listed other number old
        exact ⟨made, still_made found, .inl listed⟩
      · exact ⟨call, by simp [addCall], .inr rfl⟩
    · simp only [addTimerCall, Function.update_of_ne own] at member ⊢
      obtain ⟨made, found, listed⟩ := tidy.listed other number member
      exact ⟨made, still_made found, listed⟩

theorem tidy_adds (added : List (Nat × AddCall)) (thread : Thread (Objects World))
    (tidy : Tidy thread.timers thread.world.owners) :
    Tidy (added.foldl (fun now call => addTimerCall now call.1 call.2) thread).timers
      (added.foldl (fun now call => addTimerCall now call.1 call.2) thread).world.owners := by
  induction added generalizing thread with
  | nil => exact tidy
  | cons call rest ih => exact ih _ (tidy_add call.1 call.2 tidy)

theorem made_adds {number : Nat} {made : AddCall} (added : List (Nat × AddCall))
    (thread : Thread (Objects World)) (found : thread.timers.calls[number]? = some made) :
    (added.foldl (fun now call => addTimerCall now call.1 call.2) thread).timers.calls[number]? =
      some made := by
  induction added generalizing thread with
  | nil => exact found
  | cons call rest ih => exact ih _ (still_made found)

@[simp] theorem again_world (thread : Thread (Objects World)) (data : Timer) :
    (addAgain thread data).world = thread.world := by
  unfold addAgain
  split <;> rfl

@[simp] theorem counted_sn (data : Timer) : (counted data).sn = data.sn := by
  unfold counted
  split <;> rfl

theorem mem_add_again {thread : Thread World} {data timer : Timer}
    (held : timer ∈ (addAgain thread data).timers.heap.toList) :
    timer ∈ thread.timers.heap.toList ∨ timer.handler = data.handler ∧ timer.sn = data.sn := by
  rcases List.mem_append.mp ((add_again_perm thread data).mem_iff.mp held) with back | old
  · rw [mem_again back]
    exact .inr ⟨rfl, rfl⟩
  · exact .inl old

theorem tidy_turn {handlers : Nat → Thread (Objects World) → Thread (Objects World)}
    (adds : ∀ number, AddsTimers (handlers number)) {thread next : Thread (Objects World)}
    (tidy : Tidy thread.timers thread.world.owners)
    (goes : updateTurn handlers thread = .inl next) : Tidy next.timers next.world.owners := by
  obtain ⟨data, rest, _, ordered, moved, _, rfl⟩ := turn_cases tidy.ordered goes
  obtain ⟨added, timers, owners⟩ := adds data.handler (called thread data rest)
  have taken : Tidy (called thread data rest).timers (called thread data rest).world.owners := by
    constructor
    · exact ordered
    · intro timer held
      exact tidy.named timer (moved.mem_iff.mpr (List.mem_cons_of_mem _ held))
    · exact tidy.listed
  have grown := tidy_adds added _ taken
  rw [← timers, ← owners] at grown
  constructor
  · exact again_ordered _ grown.ordered
  · intro timer held
    simp only [again_calls]
    rcases mem_add_again held with old | ⟨handler, sn⟩
    · exact grown.named timer old
    · obtain ⟨call, found, same⟩ := tidy.named data (moved.mem_iff.mpr (by simp))
      refine ⟨call, ?_, by simpa [sn] using same⟩
      rw [handler, timers, counted_handler]
      exact made_adds added (called thread data rest) found
  · simp only [again_calls, again_world]
    exact grown.listed

theorem tidy_updates {handlers : Nat → Thread (Objects World) → Thread (Objects World)}
    (adds : ∀ number, AddsTimers (handlers number)) {before after : Thread (Objects World)}
    (tidy : Tidy before.timers before.world.owners) (returned : Updates handlers before after) :
    Tidy after.timers after.world.owners := by
  obtain ⟨fuel, done⟩ := returned
  apply loop_result (fun thread => Tidy thread.timers thread.world.owners)
    (fun thread => Tidy thread.timers thread.world.owners) _ _ fuel before after tidy done
  · intro state next held goes
    exact tidy_turn adds held goes
  · intro state last held leaves
    rw [(turn_exit held.ordered leaves).1]
    exact held

theorem mem_returned {thread : Thread (Objects World)} {address : Nat} {timer : Timer}
    (held : timer ∈ (componentBackToPool address thread).timers.heap.toList) :
    timer ∈ thread.timers.heap.toList := by
  simp only [componentBackToPool] at held
  split at held
  · exact held
  · exact mem_remove held

theorem tidy_step {handlers : Nat → Thread (Objects World) → Thread (Objects World)}
    (adds : ∀ number, AddsTimers (handlers number)) {before after : Thread (Objects World)}
    {event : Event} (tidy : Tidy before.timers before.world.owners)
    (taken : Guarded (Step handlers) Allowed before event after) :
    Tidy after.timers after.world.owners := by
  obtain ⟨step, allowed⟩ := taken
  cases step with
  | updateTime => exact tidy
  | addTimer => exact tidy_add _ _ tidy
  | update returned => exact tidy_updates adds tidy returned
  | componentBackToPool =>
      rename_i address
      constructor
      · simp only [componentBackToPool]
        split
        · exact tidy.ordered
        · exact (exact_of_removable allowed).2
      · intro timer held
        exact tidy.named timer (mem_returned held)
      · intro other number member
        by_cases own : other = address
        · subst own
          simp [componentBackToPool, newOwner] at member
        · simp only [componentBackToPool, Function.update_of_ne own] at member ⊢
          exact tidy.listed other number member
  | elsewhere timers owners =>
      rw [timers, owners]
      exact tidy

/-- No timer of some calls is in the heap, and none has been called since `before`. -/
structure Gone (calls : List Nat) (before : List Firing) (timers : Timers) : Prop where
  early : ∀ number ∈ calls, number < timers.calls.length
  absent : ∀ timer ∈ timers.heap.toList, timer.handler ∉ calls
  quiet : ∃ later, timers.fired = before ++ later ∧ ∀ firing ∈ later, firing.call ∉ calls

theorem gone_add {calls : List Nat} {before : List Firing} {timers : Timers} (call : AddCall)
    (gone : Gone calls before timers) : Gone calls before (addCall timers call) := by
  constructor
  · intro number member
    have early := gone.early number member
    simp only [addCall, List.length_append, List.length_singleton]
    omega
  · intro timer held
    rcases List.mem_cons.mp ((add_data_perm _ _).mem_iff.mp held) with rfl | old
    · intro member
      have early := gone.early _ member
      simp [newTimer] at early
    · exact gone.absent timer old
  · exact gone.quiet

theorem gone_adds {calls : List Nat} {before : List Firing} (added : List (Nat × AddCall))
    (thread : Thread (Objects World)) (gone : Gone calls before thread.timers) :
    Gone calls before
      (added.foldl (fun now call => addTimerCall now call.1 call.2) thread).timers := by
  induction added generalizing thread with
  | nil => exact gone
  | cons call rest ih => exact ih _ (gone_add call.2 gone)

theorem gone_turn {handlers : Nat → Thread (Objects World) → Thread (Objects World)}
    (adds : ∀ number, AddsTimers (handlers number)) {calls : List Nat} {before : List Firing}
    {thread next : Thread (Objects World)} (ordered : Ordered Timer.nextTime thread.timers.heap)
    (gone : Gone calls before thread.timers) (goes : updateTurn handlers thread = .inl next) :
    Gone calls before next.timers := by
  obtain ⟨data, rest, _, _, moved, _, rfl⟩ := turn_cases ordered goes
  obtain ⟨added, timers, _⟩ := adds data.handler (called thread data rest)
  have other := gone.absent data (moved.mem_iff.mpr (by simp))
  have taken : Gone calls before (called thread data rest).timers := by
    constructor
    · exact gone.early
    · intro timer held
      exact gone.absent timer (moved.mem_iff.mpr (List.mem_cons_of_mem _ held))
    · obtain ⟨later, grown, quiet⟩ := gone.quiet
      refine ⟨later ++ [⟨data.handler, thread.global.timeTick⟩], by simp [grown], ?_⟩
      intro firing member
      rcases List.mem_append.mp member with old | last
      · exact quiet firing old
      · rw [List.mem_singleton.mp last]
        exact other
  have grown := gone_adds added _ taken
  rw [← timers] at grown
  constructor
  · simp only [again_calls]
    exact grown.early
  · intro timer held
    rcases mem_add_again held with old | ⟨handler, _⟩
    · exact grown.absent timer old
    · rw [handler, counted_handler]
      exact other
  · simp only [again_fired]
    exact grown.quiet

theorem gone_updates {handlers : Nat → Thread (Objects World) → Thread (Objects World)}
    (adds : ∀ number, AddsTimers (handlers number)) {calls : List Nat} {history : List Firing}
    {before after : Thread (Objects World)} (tidy : Tidy before.timers before.world.owners)
    (gone : Gone calls history before.timers) (returned : Updates handlers before after) :
    Gone calls history after.timers := by
  obtain ⟨fuel, done⟩ := returned
  apply loop_result
    (fun thread => Tidy thread.timers thread.world.owners ∧ Gone calls history thread.timers)
    (fun thread => Gone calls history thread.timers) _ _ fuel before after ⟨tidy, gone⟩ done
  · rintro state next ⟨held, still⟩ goes
    exact ⟨tidy_turn adds held goes, gone_turn adds held.ordered still goes⟩
  · rintro state last ⟨held, still⟩ leaves
    rw [(turn_exit held.ordered leaves).1]
    exact still

theorem gone_step {handlers : Nat → Thread (Objects World) → Thread (Objects World)}
    (adds : ∀ number, AddsTimers (handlers number)) {calls : List Nat} {history : List Firing}
    {before after : Thread (Objects World)} {event : Event}
    (tidy : Tidy before.timers before.world.owners) (gone : Gone calls history before.timers)
    (taken : Guarded (Step handlers) Allowed before event after) :
    Gone calls history after.timers := by
  obtain ⟨step, _⟩ := taken
  cases step with
  | updateTime => exact gone
  | addTimer => exact gone_add _ gone
  | update returned => exact gone_updates adds tidy gone returned
  | componentBackToPool =>
      exact ⟨gone.early, fun timer held => gone.absent timer (mem_returned held), gone.quiet⟩
  | elsewhere timers owners =>
      rw [timers]
      exact gone

theorem gone_returned {thread : Thread (Objects World)} {address : Nat}
    (tidy : Tidy thread.timers thread.world.owners)
    (removable : Removable (thread.world.owners address).timers thread.timers.heap) :
    Gone (thread.world.owners address).made thread.timers.fired
      (componentBackToPool address thread).timers := by
  constructor
  · intro number made
    obtain ⟨call, found, _⟩ := tidy.listed address number made
    exact (List.getElem?_eq_some_iff.mp found).1
  · intro timer held made
    have listed := made_of_listed tidy (mem_returned held) made
    simp only [componentBackToPool] at held
    split at held
    · rename_i nothing
      simp [nothing] at listed
    · have kept := (exact_of_removable removable).1.mem_iff.mp held
      simp [unlisted, listed] at kept
  · exact ⟨[], by simp [componentBackToPool], by simp⟩

/-- `Remove` leaves the timers that are not listed, in heap order, exactly where
its list is removable. In every run in which the components that go back have
removable lists, no timer that such a component made is called again. -/
theorem timers_removed {World : Type}
    (handlers : Nat → Thread (Objects World) → Thread (Objects World))
    (adds : ∀ number, AddsTimers (handlers number)) :
    (∀ (sns : List Nat) (heap : Array Timer),
      Exact sns heap (remove sns heap) ↔ Removable sns heap) ∧
    (∀ (global : PacketPool.Global) (world : World) (first second : List Event) (address : Nat)
      (before middle after : Thread (Objects World)),
      Run (Guarded (Step handlers) Allowed) (start global world) first before →
      Guarded (Step handlers) Allowed before (.componentBackToPool address) middle →
      Run (Guarded (Step handlers) Allowed) middle second after →
      ∃ later, after.timers.fired = before.timers.fired ++ later ∧
        ∀ firing ∈ later, firing.call ∉ (before.world.owners address).made) := by
  constructor
  · intro sns heap
    exact ⟨removable_of_exact, exact_of_removable⟩
  · intro global world first second address before middle after run returned further
    have fresh : Tidy (start global world).timers (start global world).world.owners := by
      constructor
      · intro child bound
        simp [start, noTimers] at bound
      · simp [start, noTimers]
      · simp [start, newOwner]
    have tidy := run_invariant (fun thread => Tidy thread.timers thread.world.owners)
      (fun state event next held taken => tidy_step adds held taken) run fresh
    have gone : Gone (before.world.owners address).made before.timers.fired middle.timers := by
      obtain ⟨step, removable⟩ := returned
      cases step
      exact gone_returned tidy removable
    have kept := run_invariant
      (fun thread => Tidy thread.timers thread.world.owners ∧
        Gone (before.world.owners address).made before.timers.fired thread.timers)
      (fun state event next held taken =>
        ⟨tidy_step adds held.1 taken, gone_step adds held.1 held.2 taken⟩)
      further ⟨tidy_step adds tidy returned, gone⟩
    exact kept.2.quiet

def idle (_ : Nat) (thread : Thread (Objects Unit)) : Thread (Objects Unit) := thread

theorem idle_adds (number : Nat) : AddsTimers (idle number) := fun _ => ⟨[], rfl, rfl⟩

def setTime (timeTick : Nat) (thread : Thread (Objects Unit)) : Thread (Objects Unit) :=
  { thread with global := { thread.global with timeTick := timeTick } }

def updated (thread : Thread (Objects Unit)) : Thread (Objects Unit) :=
  (loop (updateTurn idle) 5 thread).getD thread

theorem updates_updated {thread : Thread (Objects Unit)}
    (returned : (loop (updateTurn idle) 5 thread).isSome) : Updates idle thread (updated thread) := by
  obtain ⟨after, done⟩ := Option.isSome_iff_exists.mp returned
  exact ⟨5, by rw [updated, done]; rfl⟩

def repeating : Thread (Objects Unit) :=
  setTime 1700000001000 (addTimer 0 0 1 false 0 (start ⟨1700000000000, 1, 1⟩ ()))

theorem timers_removed_repeating :
    ∃ later, (updated (setTime 1700000003000
        (componentBackToPool 0 (updated repeating)))).timers.fired =
      (updated repeating).timers.fired ++ later ∧
      ∀ firing ∈ later, firing.call ∉ ((updated repeating).world.owners 0).made := by
  apply (timers_removed idle idle_adds).2 ⟨1700000000000, 1, 1⟩ ()
    [.addTimer 0 0 1 false 0, .updateTime 1700000001000, .update]
    [.updateTime 1700000003000, .update] 0 (updated repeating)
    (componentBackToPool 0 (updated repeating))
  · exact .next ⟨.addTimer, trivial⟩ <| .next ⟨.updateTime, trivial⟩ <|
      .next ⟨.update (updates_updated (by decide)), trivial⟩ <| .refl _
  · refine ⟨.componentBackToPool, ((updated repeating).world.owners 0).timers, [], by simp, ?_,
      .inl rfl⟩
    decide
  · exact .next ⟨.updateTime, trivial⟩ <|
      .next ⟨.update (updates_updated (by decide +kernel)), trivial⟩ <| .refl _

def onceAndRepeating : Thread (Objects Unit) :=
  setTime 1700000001000
    (addTimer 0 0 1 false 0 (addTimer 0 1 1 false 0 (start ⟨1700000000000, 1, 1⟩ ())))

/-- The first number is out of the heap, so `Remove` returns before the second:
the component is back in its pool and its timer is called again. -/
theorem ended_timer_keeps_next :
    (¬∀ (sns : List Nat) (heap : Array Timer), Ordered Timer.nextTime heap →
      Exact sns heap (remove sns heap)) ∧
    ∃ before middle after,
      Run (Step idle) (start ⟨1700000000000, 1, 1⟩ ())
        [.addTimer 0 1 1 false 0, .addTimer 0 0 1 false 0, .updateTime 1700000001000, .update]
        before ∧
      Step idle before (.componentBackToPool 0) middle ∧
      Run (Step idle) middle [.updateTime 1700000003000, .update] after ∧
      ∃ firing ∈ after.timers.fired.drop before.timers.fired.length,
        firing.call ∈ (before.world.owners 0).made := by
  constructor
  · intro exact
    have kept := (exact [1, 2] #[⟨5, 0, 1, 0, 0, 2⟩] (by
      intro child bound positive
      simp at bound
      omega)).1
    revert kept
    decide +kernel
  · refine ⟨updated onceAndRepeating, _, updated (setTime 1700000003000
      (componentBackToPool 0 (updated onceAndRepeating))), ?_, .componentBackToPool, ?_, ?_⟩
    · exact .next .addTimer <| .next .addTimer <| .next .updateTime <|
        .next (.update (updates_updated (by decide +kernel))) <| .refl _
    · exact .next .updateTime <|
        .next (.update (updates_updated (by decide +kernel))) <| .refl _
    · decide +kernel

end GameBook.TimerRemoval
