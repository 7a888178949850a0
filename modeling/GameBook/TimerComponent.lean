import Mathlib.Order.Nat
import GameBook.BinaryHeap
import GameBook.PacketPool
import GameBook.WhileLoop

/-!
The timers of a thread, from timer_component.cpp: an array that the C++ library
keeps as a heap with the least `NextTime` in front. A function handed to `Add`
is known by the number of the call that brought it. The calls of `Add` and the
functions called by `Update` are kept as a history that the code does not have.
Signed numbers are `Int32`, times are 64-bit words.
-/

namespace GameBook.TimerComponent

open GameBook.BinaryHeap GameBook.WhileLoop

/-- What one call of `Add` was given, and the number and the time it read. -/
structure AddCall where
  total : Int32
  durations : Int32
  immediateDo : Bool
  immediateDoDelaySecond : Int32
  sn : Nat
  timeTick : Nat
  deriving DecidableEq, Repr

structure Timer where
  nextTime : Nat
  handler : Nat
  durationSecond : Int32
  callCountTotal : Int32
  callCountCur : Int32
  sn : Nat
  deriving DecidableEq, Repr

structure Firing where
  call : Nat
  timeTick : Nat
  deriving DecidableEq, Repr

structure Timers where
  heap : Array Timer
  calls : List AddCall
  fired : List Firing
  deriving DecidableEq, Repr

def noTimers : Timers := ⟨#[], [], []⟩

/-- `timeutil::AddSeconds`: the seconds are cast to a 64-bit word. -/
def addSeconds (timeValue : Nat) (second : Int32) : Nat :=
  (timeValue + (second.toInt % 18446744073709551616).toNat * 1000) % 18446744073709551616

def addData (heap : Array Timer) (data : Timer) : Array Timer :=
  if (heap.push data).size = 1 then makeHeap Timer.nextTime (heap.push data)
  else pushHeap Timer.nextTime (heap.push data)

def firstDelay (call : AddCall) : Int32 :=
  if call.immediateDo then call.immediateDoDelaySecond else call.durations

def newTimer (number : Nat) (call : AddCall) : Timer :=
  { nextTime := addSeconds call.timeTick (firstDelay call)
    handler := number
    durationSecond := call.durations
    callCountTotal := call.total
    callCountCur := 0
    sn := call.sn }

def addCall (timers : Timers) (call : AddCall) : Timers :=
  { timers with
    heap := addData timers.heap (newTimer timers.calls.length call)
    calls := timers.calls ++ [call] }

structure Thread (World : Type) where
  timers : Timers
  global : PacketPool.Global
  world : World

variable {World : Type}

def add (total durations : Int32) (immediateDo : Bool) (immediateDoDelaySecond : Int32)
    (thread : Thread World) : Nat × Thread World :=
  let (sn, global) := PacketPool.generateSN thread.global
  (sn, { thread with
    timers := addCall thread.timers
      ⟨total, durations, immediateDo, immediateDoDelaySecond, sn, thread.global.timeTick⟩
    global := global })

def checkTime (heap : Array Timer) (timeTick : Nat) : Bool :=
  match heap[0]? with
  | none => false
  | some data => data.nextTime ≤ timeTick

def popTimeHeap (heap : Array Timer) : Option (Timer × Array Timer) :=
  let popped := popHeap Timer.nextTime heap
  popped.back?.map fun data => (data, popped.pop)

/-- The count of `Update`: a timer without a limit is not counted. -/
def counted (data : Timer) : Timer :=
  if data.callCountTotal ≠ 0 then { data with callCountCur := data.callCountCur + 1 } else data

/-- The timer goes back into the heap unless it has been called often enough. -/
def addAgain (thread : Thread World) (data : Timer) : Thread World :=
  if data.callCountTotal ≠ 0 ∧ data.callCountTotal ≤ data.callCountCur then thread
  else { thread with
    timers := { thread.timers with
      heap := addData thread.timers.heap
        { data with nextTime := addSeconds thread.global.timeTick data.durationSecond } } }

/-- What the functions find when one of them is called: its timer is out of the heap. -/
def called (thread : Thread World) (data : Timer) (heap : Array Timer) : Thread World :=
  { thread with
    timers := { thread.timers with
      heap := heap
      fired := thread.timers.fired ++ [⟨data.handler, thread.global.timeTick⟩] } }

@[simp] theorem called_heap (thread : Thread World) (data : Timer) (heap : Array Timer) :
    (called thread data heap).timers.heap = heap := rfl

@[simp] theorem called_fired (thread : Thread World) (data : Timer) (heap : Array Timer) :
    (called thread data heap).timers.fired =
      thread.timers.fired ++ [⟨data.handler, thread.global.timeTick⟩] := rfl

/-- One turn of the loop of `Update`; `handlers` are the functions by number. -/
def updateTurn (handlers : Nat → Thread World → Thread World) (thread : Thread World) :
    Thread World ⊕ Thread World :=
  if checkTime thread.timers.heap thread.global.timeTick then
    match popTimeHeap thread.timers.heap with
    | none => .inr thread
    | some (data, heap) =>
        .inl (addAgain (handlers data.handler (called thread data heap)) (counted data))
  else .inr thread

def Updates (handlers : Nat → Thread World → Thread World) (before after : Thread World) : Prop :=
  Ends (updateTurn handlers) before after

/-- `Remove`: it returns at the first number that is not in the heap. -/
def remove : List Nat → Array Timer → Array Timer
  | [], heap => makeHeap Timer.nextTime heap
  | sn :: rest, heap =>
      match heap.findFinIdx? fun one => one.sn = sn with
      | none => heap
      | some iter => remove rest (heap.eraseIdx iter)

/-- `Global::UpdateTime` makes the time from signed 64-bit milliseconds. -/
def lastTick : Nat := 9223372036854775808

/-- A time that the clock gives has room for every number of seconds. -/
theorem add_seconds_exact (timeTick : Nat) (second : Int32) (clock : timeTick ≤ lastTick)
    (forward : 0 ≤ second.toInt) :
    (addSeconds timeTick second : Int) = timeTick + second.toInt * 1000 := by
  have range := second.toInt_lt
  unfold lastTick at clock
  unfold addSeconds
  omega

theorem add_seconds_least (timeTick : Nat) (second : Int32) (clock : timeTick ≤ lastTick) :
    timeTick + second.toInt * 1000 ≤ (addSeconds timeTick second : Int) := by
  have upper := second.toInt_lt
  have lower := second.le_toInt
  unfold lastTick at clock
  unfold addSeconds
  omega

theorem add_data_perm (heap : Array Timer) (data : Timer) :
    (addData heap data).toList.Perm (data :: heap.toList) := by
  have appended : (heap.push data).toList.Perm (data :: heap.toList) := by
    simp only [Array.toList_push]
    exact List.perm_append_singleton data heap.toList
  unfold addData
  split
  · exact (make_heap_perm _ _).toList.trans appended
  · exact (push_heap_perm _ _).toList.trans appended

theorem add_data_ordered {heap : Array Timer} (ordered : Ordered Timer.nextTime heap)
    (data : Timer) : Ordered Timer.nextTime (addData heap data) := by
  unfold addData
  split
  · exact make_heap_ordered _ _
  · exact push_heap_ordered _ ordered data

theorem pop_time_heap_spec {heap : Array Timer} (ordered : Ordered Timer.nextTime heap)
    {data : Timer} (front : heap[0]? = some data) :
    ∃ rest, popTimeHeap heap = some (data, rest) ∧ Ordered Timer.nextTime rest ∧
      heap.toList.Perm (data :: rest.toList) ∧
      ∀ timer ∈ heap.toList, data.nextTime ≤ timer.nextTime := by
  obtain ⟨some, same⟩ := Array.getElem?_eq_some_iff.mp front
  obtain ⟨back, kept, moved⟩ := pop_heap_spec Timer.nextTime ordered some
  refine ⟨(popHeap Timer.nextTime heap).pop, ?_, kept, ?_, ?_⟩
  · simp only [popTimeHeap, back, front, Option.map_some]
  · apply moved.toList.symm.trans
    simp only [Array.toList_push, same]
    exact List.perm_append_singleton data _
  · intro timer held
    have least := front_least_of_mem Timer.nextTime ordered (Array.mem_toList_iff.mp held) some
    simpa only [same] using least

theorem check_time_iff (heap : Array Timer) (timeTick : Nat) :
    checkTime heap timeTick = true ↔
      ∃ data, heap[0]? = some data ∧ data.nextTime ≤ timeTick := by
  unfold checkTime
  cases heap[0]? with
  | none => simp
  | some data => simp

theorem none_due {heap : Array Timer} (ordered : Ordered Timer.nextTime heap) {timeTick : Nat}
    (waits : checkTime heap timeTick = false) :
    ∀ timer ∈ heap.toList, timeTick < timer.nextTime := by
  intro timer held
  have member := Array.mem_toList_iff.mp held
  obtain ⟨place, bound, _⟩ := Array.mem_iff_getElem.mp member
  have some : 0 < heap.size := by omega
  have least := front_least_of_mem Timer.nextTime ordered member some
  have later : ¬(heap[0]).nextTime ≤ timeTick := by
    intro due
    have checked := (check_time_iff heap timeTick).mpr ⟨heap[0], by simp, due⟩
    simp [waits] at checked
  omega

end GameBook.TimerComponent
