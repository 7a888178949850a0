import Mathlib.Data.List.Nodup
import GameBook.LabelledRun
import GameBook.TimerComponent

/-!
What `TimerComponent::Update` calls and what it leaves, and what a whole run of
`Add` and `Update` keeps. One call takes the timers that were due, least time
first; each of them waits for at least a second afterwards, and so does every
timer that a function adds, so the loop runs out of them. Over a run a timer is
in the heap as long as it has calls left.
-/

namespace GameBook.TimerUpdates

open GameBook.BinaryHeap GameBook.LabelledRun GameBook.TimerComponent GameBook.WhileLoop

variable {World : Type}

/-- A function that does nothing to the timers but add some, the first delay of
each a second or more. -/
def AddsOnly (function : Thread World → Thread World) : Prop :=
  ∀ thread, ∃ added : List AddCall,
    (∀ call ∈ added, call.timeTick = thread.global.timeTick ∧ 1 ≤ (firstDelay call).toInt) ∧
    (function thread).timers = added.foldl addCall thread.timers ∧
    (function thread).global.timeTick = thread.global.timeTick

def due (timeTick : Nat) (timers : List Timer) : List Timer :=
  timers.filter fun timer => timer.nextTime ≤ timeTick

theorem mem_due {timeTick : Nat} {timers : List Timer} {timer : Timer} :
    timer ∈ due timeTick timers ↔ timer ∈ timers ∧ timer.nextTime ≤ timeTick := by
  simp [due]

theorem due_perm {timeTick : Nat} {first second : List Timer} (same : first.Perm second) :
    (due timeTick first).Perm (due timeTick second) := same.filter _

theorem due_cons_later {timeTick : Nat} {timer : Timer} (timers : List Timer)
    (later : timeTick < timer.nextTime) : due timeTick (timer :: timers) = due timeTick timers := by
  apply List.filter_cons_of_neg
  simpa using later

theorem due_cons_now {timeTick : Nat} {timer : Timer} (timers : List Timer)
    (now : timer.nextTime ≤ timeTick) :
    due timeTick (timer :: timers) = timer :: due timeTick timers := by
  apply List.filter_cons_of_pos
  simpa using now

theorem delay_later {timeTick : Nat} {second : Int32} (clock : timeTick ≤ lastTick)
    (delayed : 1 ≤ second.toInt) : timeTick < addSeconds timeTick second := by
  have exact := add_seconds_exact timeTick second clock (by omega)
  omega

theorem new_timer_later {timeTick : Nat} {call : AddCall} (number : Nat)
    (clock : timeTick ≤ lastTick) (read : call.timeTick = timeTick) (delayed : 1 ≤ (firstDelay call).toInt) :
    timeTick < (newTimer number call).nextTime := by
  subst read
  exact delay_later clock delayed

theorem added_ordered (added : List AddCall) (timers : Timers)
    (ordered : Ordered Timer.nextTime timers.heap) :
    Ordered Timer.nextTime (added.foldl addCall timers).heap := by
  induction added generalizing timers with
  | nil => exact ordered
  | cons call rest ih => exact ih (addCall timers call) (add_data_ordered ordered _)

theorem again_ordered {thread : Thread World} (data : Timer)
    (ordered : Ordered Timer.nextTime thread.timers.heap) :
    Ordered Timer.nextTime (addAgain thread data).timers.heap := by
  unfold addAgain
  split
  · exact ordered
  · exact add_data_ordered ordered _

theorem added_due {timeTick : Nat} (clock : timeTick ≤ lastTick) (added : List AddCall)
    (timers : Timers)
    (delayed : ∀ call ∈ added, call.timeTick = timeTick ∧ 1 ≤ (firstDelay call).toInt) :
    (due timeTick (added.foldl addCall timers).heap.toList).Perm
        (due timeTick timers.heap.toList) ∧
      (added.foldl addCall timers).fired = timers.fired := by
  induction added generalizing timers with
  | nil => exact ⟨.refl _, rfl⟩
  | cons call rest ih =>
      obtain ⟨read, seconds⟩ := delayed call (by simp)
      have later := new_timer_later timers.calls.length clock read seconds
      obtain ⟨same, history⟩ := ih (addCall timers call)
        fun other member => delayed other (List.mem_cons_of_mem _ member)
      refine ⟨same.trans ?_, history⟩
      apply (due_perm (add_data_perm timers.heap _)).trans
      exact .of_eq (due_cons_later _ later)

/-- A timer that goes back into the heap is not due before a second has passed. -/
theorem again_due {thread : Thread World} (data : Timer)
    (clock : thread.global.timeTick ≤ lastTick) (seconds : 1 ≤ data.durationSecond.toInt) :
    (due thread.global.timeTick (addAgain thread data).timers.heap.toList).Perm
      (due thread.global.timeTick thread.timers.heap.toList) := by
  unfold addAgain
  split
  · exact .refl _
  · apply (due_perm (add_data_perm thread.timers.heap _)).trans
    exact .of_eq (due_cons_later _ (delay_later clock seconds))

@[simp] theorem again_fired (thread : Thread World) (data : Timer) :
    (addAgain thread data).timers.fired = thread.timers.fired := by
  unfold addAgain
  split <;> rfl

@[simp] theorem again_calls (thread : Thread World) (data : Timer) :
    (addAgain thread data).timers.calls = thread.timers.calls := by
  unfold addAgain
  split <;> rfl

@[simp] theorem again_global (thread : Thread World) (data : Timer) :
    (addAgain thread data).global = thread.global := by
  unfold addAgain
  split <;> rfl

@[simp] theorem counted_duration (data : Timer) :
    (counted data).durationSecond = data.durationSecond := by
  unfold counted
  split <;> rfl

theorem turn_cases {handlers : Nat → Thread World → Thread World} {thread next : Thread World}
    (ordered : Ordered Timer.nextTime thread.timers.heap)
    (goes : updateTurn handlers thread = .inl next) :
    ∃ data rest, data.nextTime ≤ thread.global.timeTick ∧ Ordered Timer.nextTime rest ∧
      thread.timers.heap.toList.Perm (data :: rest.toList) ∧
      (∀ timer ∈ thread.timers.heap.toList, data.nextTime ≤ timer.nextTime) ∧
      next = addAgain (handlers data.handler (called thread data rest)) (counted data) := by
  unfold updateTurn at goes
  split at goes
  · rename_i checked
    obtain ⟨data, front, now⟩ := (check_time_iff _ _).mp checked
    obtain ⟨rest, popped, kept, moved, least⟩ := pop_time_heap_spec ordered front
    simp only [popped] at goes
    exact ⟨data, rest, now, kept, moved, least, (Sum.inl.inj goes).symm⟩
  · cases goes

theorem turn_exit {handlers : Nat → Thread World → Thread World} {thread last : Thread World}
    (ordered : Ordered Timer.nextTime thread.timers.heap)
    (leaves : updateTurn handlers thread = .inr last) :
    last = thread ∧ checkTime thread.timers.heap thread.global.timeTick = false := by
  unfold updateTurn at leaves
  split at leaves
  · rename_i checked
    obtain ⟨data, front, _⟩ := (check_time_iff _ _).mp checked
    obtain ⟨rest, popped, _⟩ := pop_time_heap_spec ordered front
    simp [popped] at leaves
  · rename_i waits
    exact ⟨(Sum.inr.inj leaves).symm, by simpa using waits⟩

def firing (timeTick : Nat) (timer : Timer) : Firing := ⟨timer.handler, timeTick⟩

/-- The loop has called the timers `done`; those that are still due come later. -/
structure Underway (start state : Thread World) (done : List Timer) : Prop where
  ordered : Ordered Timer.nextTime state.timers.heap
  fixed : state.global.timeTick = start.global.timeTick
  split : (done ++ due start.global.timeTick state.timers.heap.toList).Perm
    (due start.global.timeTick start.timers.heap.toList)
  sorted : done.Pairwise fun first second => first.nextTime ≤ second.nextTime
  behind : ∀ timer ∈ done, ∀ other ∈ due start.global.timeTick state.timers.heap.toList,
    timer.nextTime ≤ other.nextTime
  fired : state.timers.fired = start.timers.fired ++ done.map (firing start.global.timeTick)

theorem underway_start {start : Thread World} (ordered : Ordered Timer.nextTime start.timers.heap) :
    Underway start start [] where
  ordered := ordered
  fixed := rfl
  split := .refl _
  sorted := .nil
  behind := by simp
  fired := by simp

theorem underway_turn {handlers : Nat → Thread World → Thread World}
    (adds : ∀ number, AddsOnly (handlers number)) {start state next : Thread World}
    {done : List Timer} (clock : start.global.timeTick ≤ lastTick)
    (seconds : ∀ timer ∈ start.timers.heap.toList, 1 ≤ timer.durationSecond.toInt)
    (underway : Underway start state done) (goes : updateTurn handlers state = .inl next) :
    ∃ data, Underway start next (done ++ [data]) ∧
      (due start.global.timeTick next.timers.heap.toList).length <
        (due start.global.timeTick state.timers.heap.toList).length := by
  obtain ⟨data, rest, now, kept, moved, least, rfl⟩ := turn_cases underway.ordered goes
  obtain ⟨added, delayed, placed, tick⟩ := adds data.handler (called state data rest)
  have fixed := underway.fixed
  have present : (called state data rest).global.timeTick = start.global.timeTick := fixed
  simp only [present] at delayed tick
  have grown := added_ordered added (called state data rest).timers kept
  obtain ⟨same, history⟩ := added_due clock added (called state data rest).timers delayed
  simp only [← placed] at grown same history
  -- the timer that was called is due no longer
  have front := (due_perm moved).trans (.of_eq (due_cons_now _ now))
  simp only [fixed] at front
  have member : data ∈ due start.global.timeTick start.timers.heap.toList := by
    apply underway.split.mem_iff.mp
    exact List.mem_append.mpr (.inr (front.mem_iff.mpr (by simp)))
  have duration : 1 ≤ (counted data).durationSecond.toInt := by
    simpa using seconds data (mem_due.mp member).1
  have again := again_due (counted data) (tick.le.trans clock) duration
  simp only [tick] at again
  have left := again.trans same
  refine ⟨data, ?_, ?_⟩
  · constructor
    · exact again_ordered _ grown
    · simp [tick]
    · simp only [List.append_assoc, List.singleton_append]
      exact ((left.cons data).append_left done).trans
        ((front.symm.append_left done).trans underway.split)
    · apply List.pairwise_append.mpr
      refine ⟨underway.sorted, List.pairwise_singleton _ _, ?_⟩
      intro timer before last only
      rw [List.mem_singleton.mp only]
      exact underway.behind timer before data (front.mem_iff.mpr (by simp))
    · intro timer before other later
      have held : other ∈ due start.global.timeTick state.timers.heap.toList :=
        front.mem_iff.mpr (List.mem_cons_of_mem _ (left.mem_iff.mp later))
      rcases List.mem_append.mp before with old | only
      · exact underway.behind timer old other held
      · rw [List.mem_singleton.mp only]
        exact least other (mem_due.mp held).1
    · simp [again_fired, history, called_fired, underway.fired, firing, fixed]
  · have fewer := front.length_eq
    have equal := left.length_eq
    simp only [List.length_cons] at fewer
    simp only [called_heap] at equal
    omega

/-- `Update` returns, and it has called the timers that were due, each once and
the least time first. -/
theorem update_calls_due {handlers : Nat → Thread World → Thread World}
    (adds : ∀ number, AddsOnly (handlers number)) (start : Thread World)
    (ordered : Ordered Timer.nextTime start.timers.heap)
    (clock : start.global.timeTick ≤ lastTick)
    (seconds : ∀ timer ∈ start.timers.heap.toList, 1 ≤ timer.durationSecond.toInt) :
    ∃ after, Updates handlers start after ∧ ∃ done, Underway start after done ∧
      ∀ timer ∈ after.timers.heap.toList, start.global.timeTick < timer.nextTime := by
  obtain ⟨after, fuel, returned⟩ := ends_of_variant (updateTurn handlers)
    (fun state => ∃ done, Underway start state done)
    (fun state => (due start.global.timeTick state.timers.heap.toList).length)
    (by
      rintro state next ⟨done, underway⟩ goes
      obtain ⟨data, further, fewer⟩ := underway_turn adds clock seconds underway goes
      exact ⟨⟨_, further⟩, fewer⟩)
    start ⟨[], underway_start ordered⟩
  refine ⟨after, ⟨fuel, returned⟩, ?_⟩
  apply loop_result (fun state => ∃ done, Underway start state done)
    (fun last => ∃ done, Underway start last done ∧
      ∀ timer ∈ last.timers.heap.toList, start.global.timeTick < timer.nextTime)
    _ _ fuel start after ⟨[], underway_start ordered⟩ returned
  · rintro state next ⟨done, underway⟩ goes
    obtain ⟨data, further, _⟩ := underway_turn adds clock seconds underway goes
    exact ⟨_, further⟩
  · rintro state last ⟨done, underway⟩ leaves
    obtain ⟨rfl, waits⟩ := turn_exit underway.ordered leaves
    refine ⟨done, underway, ?_⟩
    have later := none_due underway.ordered waits
    simpa only [underway.fixed] using later

def ticksOf (fired : List Firing) (number : Nat) : List Nat :=
  (fired.filter fun firing => firing.call = number).map Firing.timeTick

theorem mem_ticks_of {fired : List Firing} {number tick : Nat} :
    tick ∈ ticksOf fired number ↔ ⟨number, tick⟩ ∈ fired := by
  simp only [ticksOf, List.mem_map, List.mem_filter, decide_eq_true_eq]
  constructor
  · rintro ⟨firing, ⟨member, rfl⟩, rfl⟩
    exact member
  · intro member
    exact ⟨_, ⟨member, rfl⟩, rfl⟩

theorem ticks_of_same (fired : List Firing) (number tick : Nat) :
    ticksOf (fired ++ [⟨number, tick⟩]) number = ticksOf fired number ++ [tick] := by
  simp [ticksOf]

theorem ticks_of_other (fired : List Firing) {number other : Nat} (tick : Nat)
    (apart : number ≠ other) :
    ticksOf (fired ++ [⟨number, tick⟩]) other = ticksOf fired other := by
  simp [ticksOf, apart]

/-- A call has turns left after `count` of them. A limit below zero ends with the first turn. -/
def Live (call : AddCall) (count : Nat) : Prop :=
  call.total = 0 ∨ count < call.total.toInt ∨ count = 0

/-- The timers held are those of the calls of `Add` that have turns left. -/
structure Ledger (held : List Timer) (calls : List AddCall) (fired : List Firing) (now : Nat) :
    Prop where
  numbered : ∀ timer ∈ held, ∃ call, calls[timer.handler]? = some call ∧
    timer.durationSecond = call.durations ∧ timer.callCountTotal = call.total
  once : (held.map Timer.handler).Nodup
  counts : ∀ timer ∈ held, timer.callCountTotal ≠ 0 →
    timer.callCountCur.toInt = (ticksOf fired timer.handler).length
  live : ∀ number call, calls[number]? = some call →
    ((∃ timer ∈ held, timer.handler = number) ↔ Live call (ticksOf fired number).length)
  known : ∀ firing ∈ fired, firing.call < calls.length
  past : ∀ firing ∈ fired, firing.timeTick ≤ now
  spaced : ∀ number call, calls[number]? = some call →
    (ticksOf fired number).Pairwise fun first second : Nat =>
      first + call.durations.toInt * 1000 ≤ (second : Int)
  waits : ∀ timer ∈ held, ∀ tick ∈ ticksOf fired timer.handler,
    tick + timer.durationSecond.toInt * 1000 ≤ (timer.nextTime : Int)

theorem ledger_perm {first second : List Timer} {calls : List AddCall} {fired : List Firing}
    {now : Nat} (same : first.Perm second) (ledger : Ledger first calls fired now) :
    Ledger second calls fired now where
  numbered timer held := ledger.numbered timer (same.mem_iff.mpr held)
  once := (same.map Timer.handler).nodup_iff.mp ledger.once
  counts timer held := ledger.counts timer (same.mem_iff.mpr held)
  live number call made := by
    simp only [← ledger.live number call made, same.mem_iff]
  known := ledger.known
  past := ledger.past
  spaced := ledger.spaced
  waits timer held := ledger.waits timer (same.mem_iff.mpr held)

theorem ledger_later {held : List Timer} {calls : List AddCall} {fired : List Firing}
    {now later : Nat} (onward : now ≤ later) (ledger : Ledger held calls fired now) :
    Ledger held calls fired later :=
  { ledger with past := fun firing member => (ledger.past firing member).trans onward }

theorem ticks_of_new {held : List Timer} {calls : List AddCall} {fired : List Firing} {now : Nat}
    (ledger : Ledger held calls fired now) : ticksOf fired calls.length = [] := by
  apply List.eq_nil_iff_forall_not_mem.mpr
  intro tick member
  have known := ledger.known _ (mem_ticks_of.mp member)
  simp at known

theorem made_before {calls : List AddCall} {call made : AddCall} {number : Nat}
    (found : (calls ++ [call])[number]? = some made) (fresh : number ≠ calls.length) :
    calls[number]? = some made := by
  have bound := (List.getElem?_eq_some_iff.mp found).1
  simp only [List.length_append, List.length_singleton] at bound
  rwa [List.getElem?_append_left (by omega)] at found

theorem ledger_add {held : List Timer} {calls : List AddCall} {fired : List Firing} {now : Nat}
    (ledger : Ledger held calls fired now) (call : AddCall) :
    Ledger (newTimer calls.length call :: held) (calls ++ [call]) fired now := by
  have unmade := ticks_of_new ledger
  have older : ∀ timer ∈ held, timer.handler < calls.length := by
    intro timer member
    obtain ⟨made, found, _⟩ := ledger.numbered timer member
    exact (List.getElem?_eq_some_iff.mp found).1
  constructor
  · intro timer member
    rcases List.mem_cons.mp member with rfl | old
    · exact ⟨call, by simp [newTimer], rfl, rfl⟩
    · obtain ⟨made, found, same⟩ := ledger.numbered timer old
      exact ⟨made, by rw [List.getElem?_append_left (older timer old)]; exact found, same⟩
  · simp only [List.map_cons, List.nodup_cons]
    refine ⟨?_, ledger.once⟩
    intro taken
    obtain ⟨timer, member, same⟩ := List.mem_map.mp taken
    have below := older timer member
    simp only [newTimer] at same
    omega
  · intro timer member limited
    rcases List.mem_cons.mp member with rfl | old
    · simp [newTimer, unmade]
    · exact ledger.counts timer old limited
  · intro number made found
    by_cases fresh : number = calls.length
    · subst fresh
      constructor
      · intro _
        exact .inr (.inr (by simp [unmade]))
      · intro _
        exact ⟨newTimer calls.length call, by simp, rfl⟩
    · have earlier := made_before found fresh
      simp only [← ledger.live number made earlier, List.mem_cons, exists_eq_or_imp]
      have apart : (newTimer calls.length call).handler ≠ number := fun same => fresh same.symm
      simp [apart]
  · intro firing member
    have known := ledger.known firing member
    simp only [List.length_append, List.length_singleton]
    omega
  · exact ledger.past
  · intro number made found
    by_cases fresh : number = calls.length
    · subst fresh
      simp [unmade]
    · have earlier := made_before found fresh
      exact ledger.spaced number made earlier
  · intro timer member
    rcases List.mem_cons.mp member with rfl | old
    · intro tick before
      simp [newTimer, unmade] at before
    · exact ledger.waits timer old

@[simp] theorem counted_handler (data : Timer) : (counted data).handler = data.handler := by
  unfold counted
  split <;> rfl

@[simp] theorem counted_total (data : Timer) :
    (counted data).callCountTotal = data.callCountTotal := by
  unfold counted
  split <;> rfl

def again (timeTick : Nat) (data : Timer) : List Timer :=
  if data.callCountTotal ≠ 0 ∧ data.callCountTotal ≤ data.callCountCur then []
  else [{ data with nextTime := addSeconds timeTick data.durationSecond }]

theorem add_again_perm (thread : Thread World) (data : Timer) :
    (addAgain thread data).timers.heap.toList.Perm
      (again thread.global.timeTick data ++ thread.timers.heap.toList) := by
  unfold addAgain again
  split
  · exact .refl _
  · exact add_data_perm _ _

theorem mem_again {timeTick : Nat} {data timer : Timer} (member : timer ∈ again timeTick data) :
    timer = { data with nextTime := addSeconds timeTick data.durationSecond } := by
  unfold again at member
  split at member
  · cases member
  · exact List.mem_singleton.mp member

/-- The count of a timer with a limit does not overflow while it has turns left. -/
theorem count_next {call : AddCall} {data : Timer} {count : Nat}
    (limited : data.callCountTotal ≠ 0) (same : data.callCountTotal = call.total)
    (reached : data.callCountCur.toInt = count) (live : Live call count) :
    (counted data).callCountCur.toInt = count + 1 := by
  have upper := call.total.toInt_lt
  have small : (count : Int) + 1 < 2 ^ 31 := by
    rcases live with unlimited | below | first
    · exact absurd (same.trans unlimited) limited
    · omega
    · omega
  have sum : (data.callCountCur + 1).toInt = (count + 1 : Int).bmod (2 ^ 32) := by
    rw [Int32.toInt_add, reached]
    rfl
  simp only [counted, limited, ne_eq, not_false_eq_true, ↓reduceIte, sum]
  exact Int.bmod_eq_of_le (by omega) (by omega)

theorem again_iff {call : AddCall} {data : Timer} {count : Nat} (timeTick : Nat)
    (same : data.callCountTotal = call.total)
    (reached : data.callCountTotal ≠ 0 → data.callCountCur.toInt = count)
    (live : Live call count) :
    (∃ timer ∈ again timeTick (counted data), timer.handler = data.handler) ↔
      Live call (count + 1) := by
  unfold again
  by_cases limited : data.callCountTotal = 0
  · simp [limited, Live, ← same]
  · have next := count_next limited same (reached limited) live
    by_cases finished : data.callCountTotal.toInt ≤ count + 1
    · have ended : (counted data).callCountTotal ≠ 0 ∧
          (counted data).callCountTotal ≤ (counted data).callCountCur := by
        refine ⟨by simpa using limited, Int32.le_iff_toInt_le.mpr ?_⟩
        simpa [next] using finished
      rw [if_pos ended]
      simp only [Live, ← same, limited]
      constructor
      · rintro ⟨timer, member, _⟩
        cases member
      · intro more
        push_cast at more
        simp only [false_or, or_false] at more
        omega
    · have going : ¬((counted data).callCountTotal ≠ 0 ∧
          (counted data).callCountTotal ≤ (counted data).callCountCur) := by
        rintro ⟨_, ended⟩
        have reachedEnd := Int32.le_iff_toInt_le.mp ended
        simp only [counted_total, next] at reachedEnd
        exact finished reachedEnd
      rw [if_neg going]
      simp only [Live, ← same]
      constructor
      · intro _
        exact .inr (.inl (by push_cast; omega))
      · intro _
        exact ⟨_, List.mem_singleton.mpr rfl, by simp⟩

theorem ledger_fire {data : Timer} {held : List Timer} {calls : List AddCall}
    {fired : List Firing} {now : Nat} (clock : now ≤ lastTick) (arrived : data.nextTime ≤ now)
    (ledger : Ledger (data :: held) calls fired now) :
    Ledger (again now (counted data) ++ held) calls (fired ++ [⟨data.handler, now⟩]) now := by
  obtain ⟨call, made, durations, total⟩ := ledger.numbered data (by simp)
  have once := ledger.once
  simp only [List.map_cons, List.nodup_cons] at once
  have others : ∀ timer ∈ held, data.handler ≠ timer.handler := by
    intro timer member same
    exact once.1 (List.mem_map.mpr ⟨timer, member, same.symm⟩)
  have live := (ledger.live data.handler call made).mp ⟨data, by simp, rfl⟩
  have reached := ledger.counts data (by simp)
  constructor
  · intro timer member
    rcases List.mem_append.mp member with back | rest
    · rw [mem_again back]
      exact ⟨call, by simpa using made, by simpa using durations, by simpa using total⟩
    · exact ledger.numbered timer (List.mem_cons_of_mem _ rest)
  · unfold again
    split
    · exact once.2
    · simpa using once
  · intro timer member limited
    rcases List.mem_append.mp member with back | rest
    · rw [mem_again back] at limited ⊢
      have finite : data.callCountTotal ≠ 0 := by simpa using limited
      simp [ticks_of_same, count_next finite total (reached finite) live]
    · rw [ticks_of_other fired now (others timer rest)]
      exact ledger.counts timer (List.mem_cons_of_mem _ rest) limited
  · intro number other found
    by_cases same : number = data.handler
    · subst same
      have only : other = call := Option.some.inj (found.symm.trans made)
      subst only
      rw [ticks_of_same, List.length_append, List.length_singleton,
        ← again_iff now total reached live]
      constructor
      · rintro ⟨timer, member, named⟩
        rcases List.mem_append.mp member with back | rest
        · exact ⟨timer, back, named⟩
        · exact absurd named.symm (others timer rest)
      · rintro ⟨timer, back, named⟩
        exact ⟨timer, List.mem_append_left _ back, named⟩
    · rw [ticks_of_other fired now (Ne.symm same), ← ledger.live number other found]
      constructor
      · rintro ⟨timer, member, named⟩
        rcases List.mem_append.mp member with back | rest
        · rw [mem_again back] at named
          exact absurd named.symm (by simpa using same)
        · exact ⟨timer, List.mem_cons_of_mem _ rest, named⟩
      · rintro ⟨timer, member, named⟩
        rcases List.mem_cons.mp member with rfl | rest
        · exact absurd named.symm same
        · exact ⟨timer, List.mem_append_right _ rest, named⟩
  · intro firing member
    rcases List.mem_append.mp member with old | last
    · exact ledger.known firing old
    · rw [List.mem_singleton.mp last]
      exact (List.getElem?_eq_some_iff.mp made).1
  · intro firing member
    rcases List.mem_append.mp member with old | last
    · exact ledger.past firing old
    · rw [List.mem_singleton.mp last]
  · intro number other found
    by_cases same : number = data.handler
    · subst same
      have only : other = call := Option.some.inj (found.symm.trans made)
      subst only
      rw [ticks_of_same]
      apply List.pairwise_append.mpr
      refine ⟨ledger.spaced _ other found, List.pairwise_singleton _ _, ?_⟩
      intro tick before last only
      rw [List.mem_singleton.mp only]
      have waited := ledger.waits data (by simp) tick before
      rw [durations] at waited
      omega
    · rw [ticks_of_other fired now (Ne.symm same)]
      exact ledger.spaced number other found
  · intro timer member tick before
    rcases List.mem_append.mp member with back | rest
    · rw [mem_again back] at before ⊢
      have least := add_seconds_least now data.durationSecond clock
      simp only [counted_handler, ticks_of_same] at before
      have earlier : tick ≤ now := by
        rcases List.mem_append.mp before with old | last
        · exact ledger.past _ (mem_ticks_of.mp old)
        · exact (List.mem_singleton.mp last).le
      simp only [counted_duration]
      omega
    · rw [ticks_of_other fired now (others timer rest)] at before
      exact ledger.waits timer (List.mem_cons_of_mem _ rest) tick before

theorem ledger_adds {now : Nat} (added : List AddCall) {held : List Timer} {timers : Timers}
    (same : timers.heap.toList.Perm held)
    (before : List Timer) (ledger : Ledger (before ++ held) timers.calls timers.fired now) :
    Ledger (before ++ (added.foldl addCall timers).heap.toList) (added.foldl addCall timers).calls
      (added.foldl addCall timers).fired now := by
  induction added generalizing timers held with
  | nil => exact ledger_perm (same.symm.append_left before) ledger
  | cons call rest ih =>
      have placed := add_data_perm timers.heap (newTimer timers.calls.length call)
      apply ih placed
      apply ledger_perm _ (ledger_add ledger call)
      exact (List.perm_middle.symm.trans
        (((same.symm.cons (newTimer timers.calls.length call)).append_left before)))

structure Kept (thread : Thread World) : Prop where
  ordered : Ordered Timer.nextTime thread.timers.heap
  clock : thread.global.timeTick ≤ lastTick
  ledger : Ledger thread.timers.heap.toList thread.timers.calls thread.timers.fired
    thread.global.timeTick

theorem kept_turn {handlers : Nat → Thread World → Thread World}
    (adds : ∀ number, AddsOnly (handlers number)) {thread next : Thread World}
    (kept : Kept thread) (goes : updateTurn handlers thread = .inl next) : Kept next := by
  obtain ⟨data, rest, now, ordered, moved, _, rfl⟩ := turn_cases kept.ordered goes
  obtain ⟨added, _, placed, tick⟩ := adds data.handler (called thread data rest)
  have fired := ledger_fire kept.clock now (ledger_perm moved kept.ledger)
  have grown := ledger_adds added (.refl (called thread data rest).timers.heap.toList)
    (again thread.global.timeTick (counted data)) fired
  rw [← placed] at grown
  constructor
  · apply again_ordered
    rw [placed]
    exact added_ordered added _ ordered
  · rw [again_global, tick]
    exact kept.clock
  · rw [again_calls, again_fired, again_global, tick]
    apply ledger_perm _ grown
    have back := add_again_perm (handlers data.handler (called thread data rest)) (counted data)
    rw [tick] at back
    exact back.symm

theorem kept_updates {handlers : Nat → Thread World → Thread World}
    (adds : ∀ number, AddsOnly (handlers number)) {before after : Thread World}
    (kept : Kept before) (returned : Updates handlers before after) : Kept after := by
  obtain ⟨fuel, done⟩ := returned
  apply loop_result Kept Kept _ _ fuel before after kept done
  · intro state next held goes
    exact kept_turn adds held goes
  · intro state last held leaves
    rw [(turn_exit held.ordered leaves).1]
    exact held

inductive Event where
  | updateTime (timeTick : Nat)
  | add (total durations : Int32) (immediateDo : Bool) (immediateDoDelaySecond : Int32)
  | update
  | elsewhere
  deriving DecidableEq, Repr

/-- The clock does not go back; what the thread does elsewhere leaves timers and clock. -/
inductive Step (handlers : Nat → Thread World → Thread World) :
    Thread World → Event → Thread World → Prop where
  | updateTime {thread : Thread World} {timeTick : Nat}
      (onward : thread.global.timeTick ≤ timeTick) (clock : timeTick ≤ lastTick) :
      Step handlers thread (.updateTime timeTick)
        { thread with global := { thread.global with timeTick := timeTick } }
  | add {thread : Thread World} {total durations : Int32} {immediateDo : Bool}
      {immediateDoDelaySecond : Int32} :
      Step handlers thread (.add total durations immediateDo immediateDoDelaySecond)
        (add total durations immediateDo immediateDoDelaySecond thread).2
  | update {before after : Thread World} (returned : Updates handlers before after) :
      Step handlers before .update after
  | elsewhere {before after : Thread World} (timers : after.timers = before.timers)
      (tick : after.global.timeTick = before.global.timeTick) :
      Step handlers before .elsewhere after

theorem kept_step {handlers : Nat → Thread World → Thread World}
    (adds : ∀ number, AddsOnly (handlers number)) (before : Thread World) (event : Event)
    (after : Thread World) (kept : Kept before) (taken : Step handlers before event after) :
    Kept after := by
  cases taken with
  | updateTime onward clock => exact ⟨kept.ordered, clock, ledger_later onward kept.ledger⟩
  | add =>
      refine ⟨add_data_ordered kept.ordered _, kept.clock, ?_⟩
      exact ledger_perm (add_data_perm _ _).symm (ledger_add kept.ledger _)
  | update returned => exact kept_updates adds kept returned
  | elsewhere timers tick =>
      constructor
      · simpa only [timers] using kept.ordered
      · simpa only [tick] using kept.clock
      · simpa only [timers, tick] using kept.ledger

theorem kept_start (global : PacketPool.Global) (world : World) (clock : global.timeTick ≤ lastTick) :
    Kept (⟨noTimers, global, world⟩ : Thread World) := by
  constructor
  · intro child bound
    simp [noTimers] at bound
  · exact clock
  · constructor <;> simp [noTimers, ticksOf]

def InHeap (timers : Timers) (number : Nat) : Prop :=
  ∃ timer ∈ timers.heap.toList, timer.handler = number

/-- `Update` returns; it calls the timers that were due, each once and the least
time first, and no other, and leaves an ordered heap in which nothing is due.
Over every run with a clock that does not go back a timer with a limit is in the
heap, once, as long as it was called less often, one without a limit always, and
two calls of it are its seconds apart. -/
theorem timers_on_time {World : Type} (handlers : Nat → Thread World → Thread World)
    (adds : ∀ number, AddsOnly (handlers number)) :
    (∀ start : Thread World, Ordered Timer.nextTime start.timers.heap →
      start.global.timeTick ≤ lastTick →
      (∀ timer ∈ start.timers.heap.toList, 1 ≤ timer.durationSecond.toInt) →
      ∃ after, Updates handlers start after ∧
        (∃ done : List Timer,
          done.Perm (start.timers.heap.toList.filter
            fun timer => timer.nextTime ≤ start.global.timeTick) ∧
          done.Pairwise (fun first second => first.nextTime ≤ second.nextTime) ∧
          after.timers.fired = start.timers.fired ++
            done.map fun timer => ⟨timer.handler, start.global.timeTick⟩) ∧
        (∀ timer ∈ after.timers.heap.toList, after.global.timeTick < timer.nextTime) ∧
        Ordered Timer.nextTime after.timers.heap) ∧
    (∀ (global : PacketPool.Global) (world : World) (events : List Event) (after : Thread World),
      global.timeTick ≤ lastTick →
      Run (Step handlers) ⟨noTimers, global, world⟩ events after →
      (after.timers.heap.toList.map Timer.handler).Nodup ∧
      (∀ number call, after.timers.calls[number]? = some call →
        (0 < call.total.toInt → (InHeap after.timers number ↔
          ((ticksOf after.timers.fired number).length : Int) < call.total.toInt)) ∧
        (call.total = 0 → InHeap after.timers number) ∧
        (ticksOf after.timers.fired number).Pairwise (fun first second : Nat =>
          first + call.durations.toInt * 1000 ≤ (second : Int))) ∧
      ((∀ call ∈ after.timers.calls, 1 ≤ call.durations.toInt) →
        ∃ next, Updates handlers after next)) := by
  constructor
  · intro start ordered clock seconds
    obtain ⟨after, returned, done, underway, later⟩ :=
      update_calls_due adds start ordered clock seconds
    refine ⟨after, returned, ⟨done, ?_, underway.sorted, underway.fired⟩, ?_, underway.ordered⟩
    · have none : due start.global.timeTick after.timers.heap.toList = [] := by
        apply List.eq_nil_iff_forall_not_mem.mpr
        intro timer member
        have held := mem_due.mp member
        have waits := later timer held.1
        omega
      have whole := underway.split
      rwa [none, List.append_nil] at whole
    · simpa only [underway.fixed] using later
  · intro global world events after clock run
    have kept := run_invariant Kept (fun before event next => kept_step adds before event next)
      run (kept_start global world clock)
    refine ⟨kept.ledger.once, ?_, ?_⟩
    · intro number call made
      have live := kept.ledger.live number call made
      refine ⟨?_, ?_, kept.ledger.spaced number call made⟩
      · intro limited
        rw [InHeap, live]
        constructor
        · rintro (unlimited | below | first)
          · simp [unlimited] at limited
          · exact below
          · omega
        · intro below
          exact .inr (.inl below)
      · intro unlimited
        exact live.mpr (.inl unlimited)
    · intro seconds
      apply Exists.imp (fun _ => And.left)
      apply update_calls_due adds after kept.ordered kept.clock
      intro timer held
      obtain ⟨call, made, durations, _⟩ := kept.ledger.numbered timer held
      rw [durations]
      exact seconds call (List.mem_of_getElem? made)

/-- The function of the first call adds a timer each time, the others do nothing. -/
def addsAnother (number : Nat) (thread : Thread Unit) : Thread Unit :=
  if number = 0 then (add 1 5 true 1 thread).2 else thread

theorem adds_another_adds_only (number : Nat) : AddsOnly (addsAnother number) := by
  intro thread
  unfold addsAnother
  split
  · refine ⟨[⟨1, 5, true, 1, (PacketPool.generateSN thread.global).1, thread.global.timeTick⟩],
      ?_, rfl, rfl⟩
    intro call member
    rw [List.mem_singleton.mp member]
    exact ⟨rfl, by simp [firstDelay]⟩
  · exact ⟨[], by simp, rfl, rfl⟩

def oneTimer : Thread Unit := (add 2 1 true 0 ⟨noTimers, ⟨1700000000000, 1, 1⟩, ()⟩).2

theorem timers_on_time_once :
    (∃ after, Updates addsAnother oneTimer after ∧ Ordered Timer.nextTime after.timers.heap) ∧
      InHeap oneTimer.timers 0 ∧ ∃ next, Updates addsAnother oneTimer next := by
  have onTime := timers_on_time addsAnother adds_another_adds_only
  have kept := onTime.2 ⟨1700000000000, 1, 1⟩ () [.add 2 1 true 0] oneTimer (by decide)
    (.next .add (.refl _))
  obtain ⟨after, returned, _, _, ordered⟩ := onTime.1 oneTimer
    (add_data_ordered (fun child bound => absurd bound (by simp [noTimers])) _)
    (by decide) (by decide)
  refine ⟨⟨after, returned, ordered⟩, ?_, kept.2.2 (by decide)⟩
  exact ((kept.2.1 0 _ rfl).1 (by decide)).mpr (by decide)

end GameBook.TimerUpdates
