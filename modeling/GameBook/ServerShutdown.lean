import GameBook.FairRuns
import GameBook.ThreadDispatch
import Mathlib

/-!
How a server stops: `ServerApp::Run` of the main thread, and what `Thread::Start`
runs in each of the other threads, one step of any of them at a time. Once
`Global::IsStop` is set, every thread disposes of its systems and ends, and the
main thread waits for all of them, joins them and disposes of what is left.
-/

namespace GameBook.ServerShutdown

open LabelledRun FairRuns ThreadDispatch

inductive ThreadState where
  | init
  | run
  | stop
  | destroy
  deriving DecidableEq, Repr

/-- Where the function of a thread stands. `check` is the condition of its loop,
`stop` the assignment after `Dispose`. -/
inductive Work where
  | initComponent
  | check
  | update
  | dispose
  | stop
  | returned
  deriving DecidableEq, Repr

/-- `disposals` counts the runs of `SystemManager::Dispose`. -/
structure Thread where
  state : ThreadState
  work : Work
  joinable : Bool
  disposals : Nat
  deleted : Bool
  deriving DecidableEq, Repr

def started : Thread := ⟨.init, .initComponent, true, 0, false⟩

def dispose (thread : Thread) : Thread :=
  if thread.state = .destroy then thread else { thread with disposals := thread.disposals + 1 }

/-- The join is a matter of the step, `blocked`. -/
def destroyThread (thread : Thread) : Thread :=
  if thread.state = .destroy then thread
  else if thread.joinable then { thread with joinable := false, state := .destroy }
  else thread

/-- `DestroyThread` is in a join that does not return yet. -/
def blocked (thread : Thread) : Bool :=
  thread.state ≠ .destroy && thread.joinable && thread.work ≠ .returned

def run (isStop : Bool) (thread : Thread) : Option Thread :=
  match thread.work with
  | .initComponent => some { thread with work := .check, state := .run }
  | .check => some { thread with work := if isStop then .dispose else .update }
  | .update => some { thread with work := .check }
  | .dispose => some { dispose thread with work := .stop }
  | .stop => some { thread with work := .returned, state := .stop }
  | .returned => none

/-- Where `Run` of the server stands: its loop, and after it the passes of
`IsStopAll`, `DestroyThread`, `IsDestroyAll` and `Dispose` over the threads with
what is left of each. `turn` hands packets on, `update` is all else of a turn. -/
inductive Main where
  | check
  | turn
  | update
  | stopping (left : List Target)
  | destroying (left : List Target)
  | confirming (left : List Target)
  | disposing (left : List Target)
  | returned
  deriving DecidableEq, Repr

/-- `packets` is what the main thread took up in its turn, `targets` the lists
that still lack the packet it stands at. `disposed` says that the systems of
`ThreadMgr` itself are gone. -/
structure Server where
  isStop : Bool
  threads : Target → Thread
  main : Main
  packets : List Message
  targets : List Target
  collectors : Collectors
  disposed : Bool

def threadsOf (config : OrderedMap.Table Nat Threads) : List Target :=
  config.toList.flatMap fun entry => entry.2.sns.map (.thread entry.1)

def start (config : OrderedMap.Table Nat Threads) : Server :=
  ⟨false, fun _ => started, .check, [], [], (ThreadDispatch.start config).collectors, false⟩

def setThread (s : Server) (target : Target) (thread : Thread) : Server :=
  { s with threads := Function.update s.threads target thread }

def takeUp (s : Server) (message : Message) (rest : List Message) : Server :=
  match targetsOf s.collectors message with
  | some (targets, collectors) => { s with packets := rest, targets := targets, collectors := collectors }
  | none => { s with packets := rest }

inductive Label where
  | signal
  | work (target : Target)
  | check (packets : List Message)
  | takeUp
  | put (target : Target)
  | update
  | sleep
  | poll
  | join
  | confirm
  | dispose
  deriving DecidableEq, Repr

section Steps

variable (config : OrderedMap.Table Nat Threads)

def checkLoop (s : Server) (packets : List Message) : Server :=
  if s.isStop then { s with main := .stopping (threadsOf config) }
  else { s with main := .turn, packets := packets }

/-- The source sleeps and starts again where a thread has not stopped. -/
def isStopAll (s : Server) : List Target → Server
  | [] => { s with main := .destroying (threadsOf config) }
  | target :: rest =>
      if (s.threads target).state = .stop then { s with main := .stopping rest }
      else { s with main := .stopping (threadsOf config) }

def destroyNext (s : Server) : List Target → Server
  | [] => { s with main := .confirming (threadsOf config) }
  | target :: rest =>
      { setThread s target (destroyThread (s.threads target)) with main := .destroying rest }

def isDestroyAll (s : Server) : List Target → Server
  | [] => { s with main := .disposing (threadsOf config), disposed := true }
  | target :: rest =>
      if (s.threads target).state = .destroy then { s with main := .confirming rest }
      else { s with main := .confirming (threadsOf config) }

def disposeNext (s : Server) : List Target → Server
  | [] => { s with main := .returned }
  | target :: rest =>
      { setThread s target { dispose (s.threads target) with deleted := true } with main := .disposing rest }

/-- `.signal` is the signal handler, or the console's `-exit`. -/
def step (before : Server) (label : Label) (after : Server) : Prop :=
  match label with
  | .signal => after = { before with isStop := true }
  | .work target => target ∈ threadsOf config ∧
      ∃ thread, run before.isStop (before.threads target) = some thread ∧
        after = setThread before target thread
  | .check packets => before.main = .check ∧ after = checkLoop config before packets
  | .takeUp => before.main = .turn ∧ before.targets = [] ∧
      ∃ message rest, before.packets = message :: rest ∧ after = takeUp before message rest
  | .put target => before.main = .turn ∧
      ∃ rest, before.targets = target :: rest ∧ after = { before with targets := rest }
  | .update => before.main = .turn ∧ before.packets = [] ∧ before.targets = [] ∧
      after = { before with main := .update }
  | .sleep => before.main = .update ∧ after = { before with main := .check }
  | .poll => ∃ left, before.main = .stopping left ∧ after = isStopAll config before left
  | .join => ∃ left, before.main = .destroying left ∧
      (∀ target, left.head? = some target → blocked (before.threads target) = false) ∧
        after = destroyNext config before left
  | .confirm => ∃ left, before.main = .confirming left ∧ after = isDestroyAll config before left
  | .dispose => ∃ left, before.main = .disposing left ∧ after = disposeNext before left

/-- The signal does not come while the main thread hands packets on. -/
def BetweenTurns (before : Server) (label : Label) : Prop := label = .signal → before.main ≠ .turn

/-- A packet is put in the list of a message system that is there. -/
def ListThere (before : Server) (label : Label) (_ : Server) : Prop :=
  ∀ target ∈ threadsOf config, label = .put target → (before.threads target).disposals = 0

/-- A thread disposes once and updates no more after it, the systems of the main
thread and the threads themselves go when all are joined. -/
structure InOrder (s : Server) : Prop where
  once : ∀ target ∈ threadsOf config, (s.threads target).disposals ≤ 1
  last : ∀ target ∈ threadsOf config, 0 < (s.threads target).disposals →
    (s.threads target).work = .stop ∨ (s.threads target).work = .returned
  after : s.disposed = true → ∀ target ∈ threadsOf config,
    (s.threads target).work = .returned ∧ (s.threads target).joinable = false ∧
      (s.threads target).disposals = 1
  deleted : ∀ target ∈ threadsOf config, (s.threads target).deleted = true → s.disposed = true
  complete : s.main = .returned →
    s.disposed = true ∧ ∀ target ∈ threadsOf config, (s.threads target).deleted = true

end Steps

/-! ### The threads -/

def Sane (isStop : Bool) (thread : Thread) : Prop :=
  match thread.work with
  | .initComponent => thread.state = .init ∧ thread.joinable = true ∧ thread.disposals = 0
  | .check => thread.state = .run ∧ thread.joinable = true ∧ thread.disposals = 0
  | .update => thread.state = .run ∧ thread.joinable = true ∧ thread.disposals = 0
  | .dispose => thread.state = .run ∧ thread.joinable = true ∧ thread.disposals = 0 ∧ isStop = true
  | .stop => thread.state = .run ∧ thread.joinable = true ∧ thread.disposals = 1 ∧ isStop = true
  | .returned => thread.disposals = 1 ∧ isStop = true ∧
      (thread.state = .stop ∧ thread.joinable = true ∨ thread.state = .destroy ∧ thread.joinable = false)

theorem sane_signal {isStop : Bool} {thread : Thread} (sane : Sane isStop thread) : Sane true thread := by
  unfold Sane at *
  cases work : thread.work <;> simp only [work] at sane ⊢ <;> simp [sane]

theorem sane_run {isStop : Bool} {thread after : Thread} (sane : Sane isStop thread)
    (ran : run isStop thread = some after) : Sane isStop after ∧ after.deleted = thread.deleted ∧
      (thread.joinable = true → after.joinable = true) := by
  unfold Sane run at *
  cases work : thread.work with
  | initComponent =>
      simp only [work, Option.some.injEq] at sane ran
      subst ran
      exact ⟨⟨rfl, sane.2⟩, rfl, id⟩
  | check =>
      simp only [work, Option.some.injEq] at sane ran
      subst ran
      cases isStop with
      | true => exact ⟨⟨sane.1, sane.2.1, sane.2.2, rfl⟩, rfl, id⟩
      | false => exact ⟨sane, rfl, id⟩
  | update =>
      simp only [work, Option.some.injEq] at sane ran
      subst ran
      exact ⟨sane, rfl, id⟩
  | dispose =>
      simp only [work, Option.some.injEq] at sane ran
      obtain ⟨state, joinable, fresh, stops⟩ := sane
      subst ran
      simp [dispose, state, joinable, fresh, stops]
  | stop =>
      simp only [work, Option.some.injEq] at sane ran
      subst ran
      exact ⟨⟨sane.2.2.1, sane.2.2.2, .inl ⟨rfl, sane.2.1⟩⟩, rfl, id⟩
  | returned =>
      simp [work] at ran

theorem sane_stopped {isStop : Bool} {thread : Thread} (sane : Sane isStop thread)
    (stopped : thread.state = .stop) : thread.work = .returned := by
  unfold Sane at sane
  cases work : thread.work <;> simp [work, stopped] at sane ⊢

theorem sane_destroyed {isStop : Bool} {thread : Thread} (sane : Sane isStop thread)
    (returned : thread.work = .returned) : Sane isStop (destroyThread thread) ∧
      (destroyThread thread).work = .returned ∧ (destroyThread thread).state = .destroy ∧
      (destroyThread thread).deleted = thread.deleted := by
  simp only [Sane, returned] at sane
  obtain ⟨once, stops, ⟨state, joinable⟩ | ⟨state, joinable⟩⟩ := sane
  · simp [destroyThread, Sane, returned, once, stops, state, joinable]
  · simp [destroyThread, Sane, returned, once, stops, state, joinable]

theorem dispose_destroyed {thread : Thread} (state : thread.state = .destroy) : dispose thread = thread :=
  if_pos state

theorem run_returned {isStop : Bool} {thread : Thread} (returned : thread.work = .returned) :
    run isStop thread = none := by
  simp [run, returned]

/-! ### The stages of the main thread -/

section Stages

variable (config : OrderedMap.Table Nat Threads)

def Joined (s : Server) : Prop :=
  ∀ target ∈ threadsOf config, (s.threads target).work = .returned ∧ (s.threads target).state = .destroy

def Stage (s : Server) : Prop :=
  match s.main with
  | .check | .turn | .update =>
      s.disposed = false ∧ ∀ target ∈ threadsOf config, (s.threads target).joinable = true
  | .stopping left => s.isStop = true ∧ s.disposed = false ∧ left <:+ threadsOf config ∧
      (∀ target ∈ threadsOf config, (s.threads target).joinable = true) ∧
      ∀ target ∈ threadsOf config, target ∉ left → (s.threads target).work = .returned
  | .destroying left => s.isStop = true ∧ s.disposed = false ∧ left <:+ threadsOf config ∧
      (∀ target ∈ threadsOf config, (s.threads target).work = .returned) ∧
      ∀ target ∈ threadsOf config, target ∉ left → (s.threads target).state = .destroy
  | .confirming left =>
      s.isStop = true ∧ s.disposed = false ∧ left <:+ threadsOf config ∧ Joined config s
  | .disposing left => s.isStop = true ∧ s.disposed = true ∧ left <:+ threadsOf config ∧ Joined config s ∧
      ∀ target ∈ threadsOf config, target ∉ left → (s.threads target).deleted = true
  | .returned => s.isStop = true ∧ s.disposed = true ∧ Joined config s ∧
      ∀ target ∈ threadsOf config, (s.threads target).deleted = true

structure Inv (s : Server) : Prop where
  sane : ∀ target ∈ threadsOf config, Sane s.isStop (s.threads target)
  deleted : ∀ target ∈ threadsOf config, (s.threads target).deleted = true → s.disposed = true
  idle : s.main ≠ .turn → s.packets = [] ∧ s.targets = []
  stage : Stage config s

theorem inv_start : Inv config (start config) := by
  constructor
  · exact fun _ _ => ⟨rfl, rfl, rfl⟩
  · intro target _ deleted
    cases deleted
  · exact fun _ => ⟨rfl, rfl⟩
  · exact ⟨rfl, fun _ _ => rfl⟩

variable {config}

theorem set_thread_own (s : Server) (target : Target) (thread : Thread) :
    (setThread s target thread).threads target = thread := Function.update_self ..

theorem set_thread_other (s : Server) (target : Target) (thread : Thread) (other : Target)
    (apart : other ≠ target) : (setThread s target thread).threads other = s.threads other :=
  Function.update_of_ne apart ..

theorem set_thread_all {s : Server} {target : Target} {thread : Thread} (P : Thread → Prop)
    (which : Target → Prop) (own : which target → P thread)
    (others : ∀ other, which other → other ≠ target → P (s.threads other)) (other : Target)
    (chosen : which other) : P ((setThread s target thread).threads other) := by
  by_cases same : other = target
  · subst same
    rw [set_thread_own]
    exact own chosen
  · rw [set_thread_other s target thread other same]
    exact others other chosen same

theorem stage_signal {s : Server} (stage : Stage config s) : Stage config { s with isStop := true } := by
  unfold Stage at *
  cases main : s.main with
  | check | turn | update => simpa [main] using stage
  | stopping left =>
      simp only [main] at stage ⊢
      exact ⟨trivial, stage.2⟩
  | destroying left =>
      simp only [main] at stage ⊢
      exact ⟨trivial, stage.2⟩
  | confirming left =>
      simp only [main] at stage ⊢
      exact ⟨trivial, stage.2⟩
  | disposing left =>
      simp only [main] at stage ⊢
      exact ⟨trivial, stage.2⟩
  | returned =>
      simp only [main] at stage ⊢
      exact ⟨trivial, stage.2⟩

theorem stage_work {s : Server} (stage : Stage config s) {target : Target} {thread : Thread}
    (member : target ∈ threadsOf config) (ran : run s.isStop (s.threads target) = some thread)
    (joinable : (s.threads target).joinable = true → thread.joinable = true) :
    Stage config (setThread s target thread) := by
  -- a thread that works has not returned, which leaves only the earlier stages
  have running : (s.threads target).work ≠ .returned := by
    intro returned
    rw [run_returned returned] at ran
    cases ran
  have kept : (∀ other ∈ threadsOf config, (s.threads other).joinable = true) →
      ∀ other ∈ threadsOf config, ((setThread s target thread).threads other).joinable = true := by
    intro all
    exact set_thread_all (fun thread => thread.joinable = true) _
      (fun _ => joinable (all target member)) (fun other there _ => all other there)
  unfold Stage at *
  have sameMain : (setThread s target thread).main = s.main := rfl
  rw [sameMain]
  cases main : s.main with
  | check | turn | update =>
      simp only [main] at stage ⊢
      exact ⟨stage.1, kept stage.2⟩
  | stopping left =>
      simp only [main] at stage ⊢
      obtain ⟨stops, alive, suffix, all, returned⟩ := stage
      refine ⟨stops, alive, suffix, kept all, fun other there gone => ?_⟩
      exact set_thread_all (fun thread => thread.work = .returned)
        (fun other => other ∈ threadsOf config ∧ other ∉ left)
        (fun chosen => absurd (returned target chosen.1 chosen.2) running)
        (fun other chosen _ => returned other chosen.1 chosen.2) other ⟨there, gone⟩
  | destroying left =>
      simp only [main] at stage
      exact absurd (stage.2.2.2.1 target member) running
  | confirming left =>
      simp only [main] at stage
      exact absurd (stage.2.2.2 target member).1 running
  | disposing left =>
      simp only [main] at stage
      exact absurd (stage.2.2.2.1 target member).1 running
  | returned =>
      simp only [main] at stage
      exact absurd (stage.2.2.1 target member).1 running

theorem inv_poll {s : Server} (inv : Inv config s) {left : List Target} (main : s.main = .stopping left) :
    Inv config (isStopAll config s left) := by
  have idle := inv.idle (by rw [main]; exact fun equal => by cases equal)
  have stage := inv.stage
  simp only [Stage, main] at stage
  obtain ⟨stops, alive, suffix, joinable, returned⟩ := stage
  cases left with
  | nil =>
      refine ⟨inv.sane, inv.deleted, fun _ => idle, stops, alive, List.suffix_refl _, ?_, ?_⟩
      · exact fun target member => returned target member List.not_mem_nil
      · exact fun target member absent => absurd member absent
  | cons target rest =>
      -- IsStopAll returns at the first thread that is not stopped
      by_cases stopped : (s.threads target).state = .stop
      · rw [isStopAll, if_pos stopped]
        have member : target ∈ threadsOf config := suffix.subset List.mem_cons_self
        refine ⟨inv.sane, inv.deleted, fun _ => idle, stops, alive,
          (List.suffix_cons target rest).trans suffix, joinable, ?_⟩
        intro other there gone
        by_cases same : other = target
        · rw [same]
          exact sane_stopped (inv.sane target member) stopped
        · exact returned other there (fun inside => (List.mem_cons.mp inside).elim same gone)
      · rw [isStopAll, if_neg stopped]
        exact ⟨inv.sane, inv.deleted, fun _ => idle, stops, alive, List.suffix_refl _, joinable,
          fun other there gone => absurd there gone⟩

theorem inv_join {s : Server} (inv : Inv config s) {left : List Target} (main : s.main = .destroying left) :
    Inv config (destroyNext config s left) := by
  have idle := inv.idle (by rw [main]; exact fun equal => by cases equal)
  have stage := inv.stage
  simp only [Stage, main] at stage
  obtain ⟨stops, alive, suffix, returned, destroyed⟩ := stage
  cases left with
  | nil =>
      exact ⟨inv.sane, inv.deleted, fun _ => idle, stops, alive, List.suffix_refl _,
        fun target member => ⟨returned target member, destroyed target member List.not_mem_nil⟩⟩
  | cons target rest =>
      have member : target ∈ threadsOf config := suffix.subset List.mem_cons_self
      -- a thread that has returned is joined, and stays as it is otherwise
      obtain ⟨sane, still, state, same⟩ := sane_destroyed (inv.sane target member) (returned target member)
      refine ⟨?_, ?_, fun _ => idle, stops, alive, (List.suffix_cons target rest).trans suffix, ?_, ?_⟩
      · exact set_thread_all (Sane s.isStop) _ (fun _ => sane) (fun other there _ => inv.sane other there)
      · apply set_thread_all (fun thread => thread.deleted = true → s.disposed = true) _
        · intro _ deleted
          exact inv.deleted target member (same ▸ deleted)
        · exact fun other there _ => inv.deleted other there
      · exact set_thread_all (fun thread => thread.work = .returned) _ (fun _ => still)
          (fun other there _ => returned other there)
      · intro other there gone
        apply set_thread_all (fun thread => thread.state = .destroy)
          (fun other => other ∈ threadsOf config ∧ other ∉ rest) _ _ other ⟨there, gone⟩
        · exact fun _ => state
        · intro other chosen apart
          exact destroyed other chosen.1
            (fun inside => (List.mem_cons.mp inside).elim apart chosen.2)

theorem inv_confirm {s : Server} (inv : Inv config s) {left : List Target}
    (main : s.main = .confirming left) : Inv config (isDestroyAll config s left) := by
  have idle := inv.idle (by rw [main]; exact fun equal => by cases equal)
  have stage := inv.stage
  simp only [Stage, main] at stage
  obtain ⟨stops, alive, suffix, joined⟩ := stage
  cases left with
  | nil =>
      exact ⟨inv.sane, fun _ _ _ => rfl, fun _ => idle, stops, rfl, List.suffix_refl _, joined,
        fun target member absent => absurd member absent⟩
  | cons target rest =>
      by_cases destroyed : (s.threads target).state = .destroy
      · rw [isDestroyAll, if_pos destroyed]
        exact ⟨inv.sane, inv.deleted, fun _ => idle, stops, alive,
          (List.suffix_cons target rest).trans suffix, joined⟩
      · rw [isDestroyAll, if_neg destroyed]
        exact ⟨inv.sane, inv.deleted, fun _ => idle, stops, alive, List.suffix_refl _, joined⟩

theorem inv_dispose {s : Server} (inv : Inv config s) {left : List Target}
    (main : s.main = .disposing left) : Inv config (disposeNext s left) := by
  have idle := inv.idle (by rw [main]; exact fun equal => by cases equal)
  have stage := inv.stage
  simp only [Stage, main] at stage
  obtain ⟨stops, gone, suffix, joined, deleted⟩ := stage
  cases left with
  | nil =>
      exact ⟨inv.sane, inv.deleted, fun _ => idle, stops, gone, joined,
        fun target member => deleted target member List.not_mem_nil⟩
  | cons target rest =>
      have member : target ∈ threadsOf config := suffix.subset List.mem_cons_self
      -- the thread was joined, so its own Dispose does nothing
      have same := dispose_destroyed (joined target member).2
      refine ⟨?_, ?_, fun _ => idle, stops, gone, (List.suffix_cons target rest).trans suffix, ?_, ?_⟩
      · apply set_thread_all (Sane s.isStop) _
        · rw [same]
          exact fun _ => inv.sane target member
        · exact fun other there _ => inv.sane other there
      · exact fun _ _ _ => gone
      · apply set_thread_all (fun thread => thread.work = .returned ∧ thread.state = .destroy) _
        · rw [same]
          exact fun _ => joined target member
        · exact fun other there _ => joined other there
      · intro other there absent
        apply set_thread_all (fun thread => thread.deleted = true)
          (fun other => other ∈ threadsOf config ∧ other ∉ rest) _ _ other ⟨there, absent⟩
        · exact fun _ => rfl
        · intro other chosen apart
          exact deleted other chosen.1
            (fun inside => (List.mem_cons.mp inside).elim apart chosen.2)

theorem inv_step (before : Server) (label : Label) (after : Server) (inv : Inv config before)
    (taken : step config before label after) : Inv config after := by
  have stage := inv.stage
  cases label with
  | signal =>
      obtain rfl : after = _ := taken
      exact ⟨fun target member => sane_signal (inv.sane target member), inv.deleted, inv.idle,
        stage_signal stage⟩
  | work target =>
      obtain ⟨member, thread, ran, rfl⟩ := taken
      obtain ⟨sane, same, joinable⟩ := sane_run (inv.sane target member) ran
      refine ⟨?_, ?_, inv.idle, stage_work stage member ran joinable⟩
      · exact set_thread_all (Sane before.isStop) _ (fun _ => sane)
          (fun other there _ => inv.sane other there)
      · apply set_thread_all (fun thread => thread.deleted = true → before.disposed = true) _
        · intro _ deleted
          exact inv.deleted target member (same ▸ deleted)
        · exact fun other there _ => inv.deleted other there
  | check packets =>
      obtain ⟨main, rfl⟩ := taken
      have idle := inv.idle (by rw [main]; exact fun equal => by cases equal)
      simp only [Stage, main] at stage
      by_cases stops : before.isStop = true
      · rw [checkLoop, if_pos stops]
        exact ⟨inv.sane, inv.deleted, fun _ => idle, stops, stage.1, List.suffix_refl _, stage.2,
          fun target member absent => absurd member absent⟩
      · rw [checkLoop, if_neg stops]
        exact ⟨inv.sane, inv.deleted, fun other => absurd rfl other, stage⟩
  -- a turn in which packets are handed out changes no thread
  | takeUp =>
      obtain ⟨main, _, message, rest, _, rfl⟩ := taken
      simp only [Stage, main] at stage
      unfold takeUp
      split
      · exact ⟨inv.sane, inv.deleted, fun other => absurd main other, by simpa only [Stage, main] using stage⟩
      · exact ⟨inv.sane, inv.deleted, fun other => absurd main other, by simpa only [Stage, main] using stage⟩
  | put target =>
      obtain ⟨main, rest, _, rfl⟩ := taken
      exact ⟨inv.sane, inv.deleted, fun other => absurd main other, stage⟩
  | update =>
      obtain ⟨main, packets, targets, rfl⟩ := taken
      simp only [Stage, main] at stage
      exact ⟨inv.sane, inv.deleted, fun _ => ⟨packets, targets⟩, stage⟩
  | sleep =>
      obtain ⟨main, rfl⟩ := taken
      have idle := inv.idle (by rw [main]; exact fun equal => by cases equal)
      simp only [Stage, main] at stage
      exact ⟨inv.sane, inv.deleted, fun _ => idle, stage⟩
  | poll =>
      obtain ⟨left, main, rfl⟩ := taken
      exact inv_poll inv main
  | join =>
      obtain ⟨left, main, _, rfl⟩ := taken
      exact inv_join inv main
  | confirm =>
      obtain ⟨left, main, rfl⟩ := taken
      exact inv_confirm inv main
  | dispose =>
      obtain ⟨left, main, rfl⟩ := taken
      exact inv_dispose inv main

theorem reached_inv {trace : List Label} {s : Server} (run : Run (step config) (start config) trace s) :
    Inv config s := run_invariant (Inv config) inv_step run (inv_start config)

theorem sane_counts {isStop : Bool} {thread : Thread} (sane : Sane isStop thread) :
    thread.disposals ≤ 1 ∧ (0 < thread.disposals →
      (thread.work = .stop ∨ thread.work = .returned) ∧ isStop = true) := by
  unfold Sane at sane
  cases work : thread.work <;> simp only [work] at sane <;> simp [sane]

theorem sane_joined {isStop : Bool} {thread : Thread} (sane : Sane isStop thread)
    (returned : thread.work = .returned) (state : thread.state = .destroy) :
    thread.joinable = false ∧ thread.disposals = 1 := by
  simp only [Sane, returned, state] at sane
  exact ⟨by simpa using sane.2.2, sane.1⟩

theorem disposed_stage {s : Server} (stage : Stage config s) (gone : s.disposed = true) :
    Joined config s := by
  unfold Stage at stage
  cases main : s.main <;> simp only [main, gone] at stage
  case disposing left => exact stage.2.2.2.1
  case returned => exact stage.2.2.1
  all_goals simp at stage

theorem in_order_of_inv {s : Server} (inv : Inv config s) : InOrder config s := by
  constructor
  · exact fun target member => (sane_counts (inv.sane target member)).1
  · exact fun target member gone => ((sane_counts (inv.sane target member)).2 gone).1
  · intro gone target member
    obtain ⟨returned, state⟩ := disposed_stage inv.stage gone target member
    obtain ⟨joined, once⟩ := sane_joined (inv.sane target member) returned state
    exact ⟨returned, joined, once⟩
  · exact inv.deleted
  · intro main
    have stage := inv.stage
    simp only [Stage, main] at stage
    exact ⟨stage.2.1, stage.2.2.2⟩

end Stages

/-! ### The lists of the threads -/

section Lists

variable {config : OrderedMap.Table Nat Threads}

def Undisturbed (s : Server) : Prop := s.main = .turn → s.isStop = false

theorem ends_beyond_turn (s : Server) (left : List Target) :
    (isStopAll config s left).main ≠ .turn ∧ (destroyNext config s left).main ≠ .turn ∧
      (isDestroyAll config s left).main ≠ .turn ∧ (disposeNext s left).main ≠ .turn := by
  cases left with
  | nil => simp [isStopAll, destroyNext, isDestroyAll, disposeNext]
  | cons target rest =>
      refine ⟨?_, by simp [destroyNext], ?_, by simp [disposeNext]⟩
      · rw [isStopAll]
        split <;> simp
      · rw [isDestroyAll]
        split <;> simp

theorem undisturbed_step (before : Server) (label : Label) (after : Server) (turn : Undisturbed before)
    (taken : Guarded (step config) BetweenTurns before label after) : Undisturbed after := by
  obtain ⟨taken, between⟩ := taken
  cases label with
  | signal =>
      obtain rfl : after = _ := taken
      -- the guard puts the signal between two turns
      exact fun main => absurd main (between rfl)
  | work target =>
      obtain ⟨_, thread, _, rfl⟩ := taken
      exact turn
  | check packets =>
      obtain ⟨_, rfl⟩ := taken
      by_cases stops : before.isStop = true
      · simp [checkLoop, stops, Undisturbed]
      · simp [checkLoop, stops, Undisturbed]
  | takeUp =>
      obtain ⟨_, _, message, rest, _, rfl⟩ := taken
      unfold takeUp
      split
      · exact turn
      · exact turn
  | put target =>
      obtain ⟨_, rest, _, rfl⟩ := taken
      exact turn
  | update =>
      obtain ⟨_, _, _, rfl⟩ := taken
      simp [Undisturbed]
  | sleep =>
      obtain ⟨_, rfl⟩ := taken
      simp [Undisturbed]
  | poll =>
      obtain ⟨left, _, rfl⟩ := taken
      exact fun main => absurd main (@ends_beyond_turn config before left).1
  | join =>
      obtain ⟨left, _, _, rfl⟩ := taken
      exact fun main => absurd main (@ends_beyond_turn config before left).2.1
  | confirm =>
      obtain ⟨left, _, rfl⟩ := taken
      exact fun main => absurd main (@ends_beyond_turn config before left).2.2.1
  | dispose =>
      obtain ⟨left, _, rfl⟩ := taken
      exact fun main => absurd main (@ends_beyond_turn config before left).2.2.2

theorem list_there (before : Server) (label : Label) (after : Server)
    (all : Inv config before ∧ Undisturbed before) (taken : step config before label after) :
    ListThere config before label after := by
  rintro target member rfl
  obtain ⟨main, _⟩ := taken
  have counts := (sane_counts (all.1.sane target member)).2
  by_contra used
  have stops := (counts (Nat.pos_of_ne_zero used)).2
  rw [all.2 main] at stops
  cases stops

end Lists

def loneConfig : OrderedMap.Table Nat Threads :=
  (∅ : OrderedMap.Table Nat Threads).insert 8 ⟨[1], by decide, by decide⟩

def loneThread : Target := .thread 8 1

/-- A server with one thread on its way down, where its main thread and its
thread stand and whether the systems of the main thread are gone. -/
def lone (isStop : Bool) (main : Main) (thread : Thread) (disposed : Bool) : Server :=
  { setThread (start loneConfig) loneThread thread with isStop := isStop, main := main, disposed := disposed }

/-- The way down, and signals for ever after. -/
def loneStates : Nat → Server
  | 0 => start loneConfig
  | 1 => { start loneConfig with isStop := true }
  | 2 => lone true .check ⟨.run, .check, true, 0, false⟩ false
  | 3 => lone true .check ⟨.run, .dispose, true, 0, false⟩ false
  | 4 => lone true .check ⟨.run, .stop, true, 1, false⟩ false
  | 5 => lone true .check ⟨.stop, .returned, true, 1, false⟩ false
  | 6 => lone true (.stopping [loneThread]) ⟨.stop, .returned, true, 1, false⟩ false
  | 7 => lone true (.stopping []) ⟨.stop, .returned, true, 1, false⟩ false
  | 8 => lone true (.destroying [loneThread]) ⟨.stop, .returned, true, 1, false⟩ false
  | 9 => lone true (.destroying []) ⟨.destroy, .returned, false, 1, false⟩ false
  | 10 => lone true (.confirming [loneThread]) ⟨.destroy, .returned, false, 1, false⟩ false
  | 11 => lone true (.confirming []) ⟨.destroy, .returned, false, 1, false⟩ false
  | 12 => lone true (.disposing [loneThread]) ⟨.destroy, .returned, false, 1, false⟩ true
  | 13 => lone true (.disposing []) ⟨.destroy, .returned, false, 1, true⟩ true
  | _ => lone true .returned ⟨.destroy, .returned, false, 1, true⟩ true

def loneLabels : Nat → Label
  | 1 | 2 | 3 | 4 => .work loneThread
  | 5 => .check []
  | 6 | 7 => .poll
  | 8 | 9 => .join
  | 10 | 11 => .confirm
  | 12 | 13 => .dispose
  | _ => .signal

theorem lone_threads : threadsOf loneConfig = [loneThread] := by decide

theorem lone_own (isStop : Bool) (main : Main) (thread : Thread) (disposed : Bool) :
    (lone isStop main thread disposed).threads loneThread = thread :=
  set_thread_own (start loneConfig) loneThread thread

theorem lone_set (isStop : Bool) (main : Main) (thread after : Thread) (disposed : Bool) :
    setThread (lone isStop main thread disposed) loneThread after = lone isStop main after disposed := by
  simp [lone, setThread]

theorem lone_work (isStop : Bool) (main : Main) (thread after : Thread) (disposed : Bool)
    (ran : run isStop thread = some after) :
    step loneConfig (lone isStop main thread disposed) (.work loneThread) (lone isStop main after disposed) := by
  refine ⟨by rw [lone_threads]; exact List.mem_cons_self, after, ?_, (lone_set ..).symm⟩
  rw [lone_own]
  exact ran

theorem lone_taken (n : Nat) : step loneConfig (loneStates n) (loneLabels n) (loneStates (n + 1)) := by
  match n with
  | 0 => rfl
  | 1 =>
      refine ⟨by rw [lone_threads]; exact List.mem_cons_self, _, rfl, ?_⟩
      simp [loneStates, lone, setThread, start, started]
  | 2 => exact lone_work true .check _ _ false rfl
  | 3 => exact lone_work true .check _ _ false rfl
  | 4 => exact lone_work true .check _ _ false rfl
  | 5 => exact ⟨rfl, by rw [checkLoop, lone_threads]; rfl⟩
  -- from here on the main thread goes through its four loops
  | 6 =>
      refine ⟨[loneThread], rfl, ?_⟩
      simp only [loneStates, isStopAll, lone_own]
      rfl
  | 7 => exact ⟨[], rfl, by rw [isStopAll, lone_threads]; rfl⟩
  | 8 =>
      refine ⟨[loneThread], rfl, ?_, ?_⟩
      · intro target first
        cases first
        simp [loneStates, lone_own, blocked]
      · simp only [loneStates, destroyNext, lone_own, lone_set]
        rfl
  | 9 =>
      refine ⟨[], rfl, ?_, by rw [destroyNext, lone_threads]; rfl⟩
      intro target first
      cases first
  | 10 =>
      refine ⟨[loneThread], rfl, ?_⟩
      simp only [loneStates, isDestroyAll, lone_own]
      rfl
  | 11 => exact ⟨[], rfl, by rw [isDestroyAll, lone_threads]; rfl⟩
  | 12 =>
      refine ⟨[loneThread], rfl, ?_⟩
      simp only [loneStates, disposeNext, lone_own, lone_set]
      rfl
  | 13 => exact ⟨[], rfl, rfl⟩
  | n + 14 => rfl

theorem lone_take_up : ∃ collectors,
    takeUp { start loneConfig with main := .turn, packets := [.dispatched .miCmdThread] }
      (.dispatched .miCmdThread) [] =
        { start loneConfig with main := .turn, targets := [.main, loneThread], collectors := collectors } := by
  have targets : (targetsOf (start loneConfig).collectors (.dispatched .miCmdThread)).map Prod.fst =
      some [.main, loneThread] := by decide
  obtain ⟨⟨list, collectors⟩, found, rfl⟩ := Option.map_eq_some_iff.mp targets
  refine ⟨collectors, ?_⟩
  simp only [takeUp, found]
  rfl

/-- In every run a server stops in order, and where no signal comes while the
main thread hands packets on, it puts none in the list of a thread that has
disposed of its systems. -/
theorem stops_in_order (config : OrderedMap.Table Nat Threads) (trace : List Label) (s : Server) :
    (Run (step config) (start config) trace s → InOrder config s) ∧
      (Run (Guarded (step config) BetweenTurns) (start config) trace s →
        Run (Lawful (step config) (ListThere config)) (start config) trace s) := by
  constructor
  · exact fun run => in_order_of_inv (reached_inv run)
  · intro run
    apply lawful_of_guarded (fun s => Inv config s ∧ Undisturbed s) _ _ run
      ⟨inv_start config, fun main => by cases main⟩
    · exact fun before label after all taken =>
        ⟨inv_step before label after all.1 taken.1, undisturbed_step before label after all.2 taken⟩
    · exact fun before label after all taken => list_there before label after all taken.1

theorem stops_in_order_lone : InOrder loneConfig (loneStates 14) ∧
    ∃ s, Run (Lawful (step loneConfig) (ListThere loneConfig)) (start loneConfig)
      [.check [.dispatched .miCmdThread], .takeUp, .put .main, .put loneThread, .update, .sleep, .signal] s := by
  constructor
  · exact (stops_in_order loneConfig _ _).1 (execution_run ⟨loneStates, loneLabels, lone_taken⟩ 14)
  · obtain ⟨collectors, taken⟩ := lone_take_up
    refine ⟨{ start loneConfig with isStop := true, collectors := collectors }, ?_⟩
    apply (stops_in_order loneConfig _ _).2
    apply Run.next ⟨⟨rfl, rfl⟩, nofun⟩
    apply Run.next ⟨⟨rfl, rfl, _, [], rfl, taken.symm⟩, nofun⟩
    apply Run.next ⟨⟨rfl, [loneThread], rfl, rfl⟩, nofun⟩
    apply Run.next ⟨⟨rfl, [], rfl, rfl⟩, nofun⟩
    apply Run.next ⟨⟨rfl, rfl, rfl, rfl⟩, nofun⟩
    apply Run.next ⟨⟨rfl, rfl⟩, nofun⟩
    exact Run.next ⟨rfl, nofun⟩ (Run.refl _)

/-- A signal in a turn: the main thread comes to a thread that has disposed of
its systems with a packet for its list. -/
theorem signal_in_turn : ∃ trace before after, Run (step loneConfig) (start loneConfig) trace before ∧
    step loneConfig before (.put loneThread) after ∧ (before.threads loneThread).disposals = 1 := by
  have member : loneThread ∈ threadsOf loneConfig := by
    rw [lone_threads]
    exact List.mem_cons_self
  obtain ⟨collectors, taken⟩ := lone_take_up
  -- the main thread is in a turn and has taken a packet for the thread up
  let handing (target : List Target) (isStop : Bool) (thread : Thread) : Server :=
    { setThread (start loneConfig) loneThread thread with
      isStop := isStop, main := .turn, targets := target, collectors := collectors }
  have work : ∀ thread next, run true thread = some next →
      step loneConfig (handing [loneThread] true thread) (.work loneThread) (handing [loneThread] true next) := by
    intro thread next ran
    refine ⟨member, next, ?_, by simp [handing, setThread]⟩
    rw [← ran]
    exact congrArg (run true) (set_thread_own (start loneConfig) loneThread thread)
  have first : handing [loneThread] true started =
      { start loneConfig with isStop := true, main := .turn, targets := [loneThread], collectors := collectors } := by
    simp [handing, setThread, start]
  refine ⟨[.check [.dispatched .miCmdThread], .takeUp, .put .main, .signal,
    .work loneThread, .work loneThread, .work loneThread],
    handing [loneThread] true ⟨.run, .stop, true, 1, false⟩, handing [] true ⟨.run, .stop, true, 1, false⟩, ?_,
    ⟨rfl, [], rfl, rfl⟩, congrArg Thread.disposals (set_thread_own (start loneConfig) loneThread _)⟩
  apply Run.next ⟨rfl, rfl⟩
  apply Run.next ⟨rfl, rfl, _, [], rfl, taken.symm⟩
  apply Run.next ⟨rfl, [loneThread], rfl, rfl⟩
  apply Run.next first
  apply Run.next (work started _ rfl)
  apply Run.next (work ⟨.run, .check, true, 0, false⟩ _ rfl)
  exact Run.next (work ⟨.run, .dispose, true, 0, false⟩ _ rfl) (Run.refl _)

/-! ### The end -/

def ofMain : Label → Bool
  | .signal | .work _ => false
  | .check _ | .takeUp | .put _ | .update | .sleep | .poll | .join | .confirm | .dispose => true

section End

variable (config : OrderedMap.Table Nat Threads)

/-- A thread that has not returned gets its turn. -/
def FairThreads (run : Execution (step config)) : Prop :=
  ∀ n, ∀ target ∈ threadsOf config, ((run.states n).threads target).work ≠ .returned →
    ∃ later, n ≤ later ∧ run.labels later = .work target

def FairMain (run : Execution (step config)) : Prop :=
  ∀ n, (run.states n).main ≠ .returned → ∃ later, n ≤ later ∧ ofMain (run.labels later) = true

/-- Steps that a thread still has to make once the signal has come. -/
def workLeft : Work → Nat
  | .initComponent => 4
  | .update => 4
  | .check => 3
  | .dispose => 2
  | .stop => 1
  | .returned => 0

def threadsLeft (s : Server) : Nat :=
  ((threadsOf config).map fun target => workLeft (s.threads target).work).sum

def AllReturned (s : Server) : Prop := ∀ target ∈ threadsOf config, (s.threads target).work = .returned

instance (s : Server) : Decidable (AllReturned config s) :=
  inferInstanceAs (Decidable (∀ target ∈ threadsOf config, (s.threads target).work = .returned))

/-- As long as a thread runs, a poll is not sure to bring the main thread on. -/
def mainLeft (s : Server) : Nat :=
  let count := (threadsOf config).length
  match s.main with
  | .returned => 0
  | .disposing left => 1 + left.length
  | .confirming left => count + 2 + left.length
  | .destroying left => 2 * count + 3 + left.length
  | .stopping left => 3 * count + 4 + if AllReturned config s then left.length else count
  | .check => 4 * count + 5
  | .update => 4 * count + 6
  | .turn => 4 * count + 7 + s.targets.length

/-- The packets come first: one that is taken up adds to the lists to fill. -/
def left (s : Server) : Nat ×ₗ Nat := toLex (s.packets.length, threadsLeft config s + mainLeft config s)

def Helpful (before : Server) : Label → Prop
  | .signal => False
  | .poll => AllReturned config before
  | _ => True

variable {config}

theorem left_le {before after : Server} (packets : after.packets = before.packets)
    (threads : threadsLeft config after + mainLeft config after ≤
      threadsLeft config before + mainLeft config before) : left config after ≤ left config before := by
  rw [left, left, packets, Prod.Lex.toLex_le_toLex]
  exact .inr ⟨rfl, threads⟩

theorem left_lt {before after : Server} (packets : after.packets = before.packets)
    (threads : threadsLeft config after + mainLeft config after <
      threadsLeft config before + mainLeft config before) : left config after < left config before := by
  rw [left, left, packets, Prod.Lex.toLex_lt_toLex]
  exact .inr ⟨rfl, threads⟩

theorem work_left_run {thread after : Thread} (ran : run true thread = some after) :
    workLeft after.work < workLeft thread.work := by
  unfold run at ran
  cases work : thread.work <;> simp only [work, Option.some.injEq] at ran
  case returned => cases ran
  all_goals subst ran; simp [workLeft]

theorem work_destroyed (thread : Thread) : (destroyThread thread).work = thread.work := by
  unfold destroyThread
  split
  · rfl
  · split <;> rfl

theorem work_disposed (thread : Thread) : (dispose thread).work = thread.work := by
  unfold dispose
  split <;> rfl

theorem work_step (before : Server) (label : Label) (after : Server)
    (taken : step config before label after) (target : Target) (apart : label ≠ .work target) :
    (after.threads target).work = (before.threads target).work := by
  cases label with
  | signal =>
      obtain rfl : after = _ := taken
      rfl
  | work other =>
      obtain ⟨_, thread, _, rfl⟩ := taken
      rw [set_thread_other before other thread target (fun same => apart (same ▸ rfl))]
  | check packets =>
      obtain ⟨_, rfl⟩ := taken
      unfold checkLoop
      split <;> rfl
  | takeUp =>
      obtain ⟨_, _, message, rest, _, rfl⟩ := taken
      unfold takeUp
      split <;> rfl
  | put other =>
      obtain ⟨_, rest, _, rfl⟩ := taken
      rfl
  | update =>
      obtain ⟨_, _, _, rfl⟩ := taken
      rfl
  | sleep =>
      obtain ⟨_, rfl⟩ := taken
      rfl
  | poll =>
      obtain ⟨left, _, rfl⟩ := taken
      cases left with
      | nil => rfl
      | cons first rest =>
          rw [isStopAll]
          split <;> rfl
  -- joined or deleted, a thread is no further in its function
  | join =>
      obtain ⟨left, _, _, rfl⟩ := taken
      cases left with
      | nil => rfl
      | cons first rest =>
          by_cases same : target = first
          · subst same
            show ((setThread before target _).threads target).work = _
            rw [set_thread_own, work_destroyed]
          · show ((setThread before first _).threads target).work = _
            rw [set_thread_other before first _ target same]
  | confirm =>
      obtain ⟨left, _, rfl⟩ := taken
      cases left with
      | nil => rfl
      | cons first rest =>
          rw [isDestroyAll]
          split <;> rfl
  | dispose =>
      obtain ⟨left, _, rfl⟩ := taken
      cases left with
      | nil => rfl
      | cons first rest =>
          by_cases same : target = first
          · subst same
            show ((setThread before target _).threads target).work = _
            rw [set_thread_own]
            exact work_disposed _
          · show ((setThread before first _).threads target).work = _
            rw [set_thread_other before first _ target same]

theorem threads_left_same (before : Server) (label : Label) (after : Server)
    (taken : step config before label after) (main : ofMain label = true) :
    threadsLeft config after = threadsLeft config before := by
  unfold threadsLeft
  congr 1
  apply List.map_congr_left
  intro target _
  have apart : label ≠ .work target := by
    rintro rfl
    cases main
  rw [work_step before label after taken target apart]

theorem main_left_work {before : Server} (inv : Inv config before) {target : Target} {thread : Thread}
    (member : target ∈ threadsOf config) (ran : run before.isStop (before.threads target) = some thread) :
    mainLeft config (setThread before target thread) ≤ mainLeft config before := by
  have stage := inv.stage
  have running : ¬ AllReturned config before := by
    intro returned
    rw [run_returned (returned target member)] at ran
    cases ran
  have sameMain : (setThread before target thread).main = before.main := rfl
  have sameTargets : (setThread before target thread).targets = before.targets := rfl
  unfold mainLeft
  rw [sameMain, sameTargets]
  cases main : before.main with
  | stopping left =>
      simp only [Stage, main] at stage
      have short := stage.2.2.1.length_le
      simp only [if_neg running]
      split <;> omega
  | check | turn | update | destroying | confirming | disposing | returned => exact le_refl _

theorem left_work {before : Server} (inv : Inv config before) (stops : before.isStop = true)
    {target : Target} {thread : Thread} (member : target ∈ threadsOf config)
    (ran : run before.isStop (before.threads target) = some thread) :
    left config (setThread before target thread) < left config before := by
  refine left_lt (by rfl) ?_
  have shorter : threadsLeft config (setThread before target thread) < threadsLeft config before := by
    apply List.sum_lt_sum
    · intro other _
      by_cases same : other = target
      · subst same
        rw [set_thread_own]
        exact (work_left_run (stops ▸ ran)).le
      · rw [set_thread_other before target thread other same]
    · refine ⟨target, member, ?_⟩
      rw [set_thread_own]
      exact work_left_run (stops ▸ ran)
  have later := main_left_work inv member ran
  omega

theorem left_poll {before : Server} (inv : Inv config before) {left : List Target}
    (main : before.main = .stopping left) :
    ServerShutdown.left config (isStopAll config before left) ≤ ServerShutdown.left config before ∧
      (AllReturned config before →
        ServerShutdown.left config (isStopAll config before left) < ServerShutdown.left config before) := by
  have stage := inv.stage
  simp only [Stage, main] at stage
  obtain ⟨_, _, suffix, joinable, returned⟩ := stage
  cases left with
  | nil =>
      have all : AllReturned config before := fun target member => returned target member List.not_mem_nil
      have lower : ServerShutdown.left config (isStopAll config before []) <
          ServerShutdown.left config before := by
        refine left_lt (by rfl) ?_
        have same : threadsLeft config (isStopAll config before []) = threadsLeft config before := rfl
        rw [same]
        simp only [mainLeft, isStopAll, main, if_pos all, List.length_nil]
        omega
      exact ⟨lower.le, fun _ => lower⟩
  | cons target rest =>
      have member : target ∈ threadsOf config := suffix.subset List.mem_cons_self
      by_cases stopped : (before.threads target).state = .stop
      · have same : isStopAll config before (target :: rest) = { before with main := .stopping rest } :=
          if_pos stopped
        have still : AllReturned config { before with main := .stopping rest } = AllReturned config before := rfl
        rw [same]
        constructor
        · refine left_le (by rfl) ?_
          simp only [mainLeft, main, threadsLeft, still, List.length_cons]
          split <;> omega
        · intro all
          refine left_lt (by rfl) ?_
          simp only [mainLeft, main, threadsLeft, still, if_pos all, List.length_cons]
          omega
      · have same : isStopAll config before (target :: rest) =
            { before with main := .stopping (threadsOf config) } := if_neg stopped
        have still : AllReturned config { before with main := .stopping (threadsOf config) } =
            AllReturned config before := rfl
        -- a thread that has returned and is not joined has stopped
        have running : ¬ AllReturned config before := by
          intro all
          have sane := inv.sane target member
          simp only [Sane, all target member, joinable target member] at sane
          exact stopped (by simpa using sane.2.2)
        rw [same]
        constructor
        · refine left_le (by rfl) ?_
          simp only [mainLeft, main, threadsLeft, still, if_neg running]
          omega
        · exact fun all => absurd all running

theorem left_step (before : Server) (label : Label) (after : Server) (inv : Inv config before)
    (stops : before.isStop = true) (taken : step config before label after) :
    left config after ≤ left config before ∧
      (Helpful config before label → left config after < left config before) := by
  have same := threads_left_same before label after taken
  have stage := inv.stage
  -- it is enough that a step lowers the measure
  have enough : left config after < left config before →
      left config after ≤ left config before ∧
        (Helpful config before label → left config after < left config before) :=
    fun lower => ⟨lower.le, fun _ => lower⟩
  cases label with
  | signal =>
      obtain rfl : after = _ := taken
      exact ⟨le_refl (left config before), fun helps => helps.elim⟩
  | work target =>
      obtain ⟨member, thread, ran, rfl⟩ := taken
      exact enough (left_work inv stops member ran)
  | check packets =>
      obtain ⟨main, rfl⟩ := taken
      apply enough
      rw [checkLoop, if_pos stops] at same ⊢
      refine left_lt (by rfl) ?_
      rw [same rfl]
      simp only [mainLeft, main]
      split <;> omega
  | takeUp =>
      obtain ⟨main, _, message, rest, packets, rfl⟩ := taken
      apply enough
      have fewer : (takeUp before message rest).packets = rest := by
        unfold takeUp
        split <;> rfl
      rw [left, left, fewer, packets, Prod.Lex.toLex_lt_toLex]
      exact .inl (Nat.lt_succ_self _)
  | put target =>
      obtain ⟨main, rest, targets, rfl⟩ := taken
      apply enough
      refine left_lt (by rfl) ?_
      rw [same rfl]
      simp only [mainLeft, main, targets, List.length_cons]
      omega
  | update =>
      obtain ⟨main, _, targets, rfl⟩ := taken
      apply enough
      refine left_lt (by rfl) ?_
      rw [same rfl]
      simp only [mainLeft, main, targets]
      omega
  | sleep =>
      obtain ⟨main, rfl⟩ := taken
      apply enough
      refine left_lt (by rfl) ?_
      rw [same rfl]
      simp only [mainLeft, main]
      omega
  | poll =>
      obtain ⟨left, main, rfl⟩ := taken
      exact left_poll inv main
  | join =>
      obtain ⟨left, main, _, rfl⟩ := taken
      apply enough
      cases left with
      | nil =>
          refine left_lt (by rfl) ?_
          rw [same rfl]
          simp only [mainLeft, destroyNext, main, List.length_nil]
          omega
      | cons target rest =>
          refine left_lt (by rfl) ?_
          rw [same rfl]
          simp only [mainLeft, destroyNext, main, List.length_cons]
          omega
  | confirm =>
      obtain ⟨left, main, rfl⟩ := taken
      apply enough
      simp only [Stage, main] at stage
      obtain ⟨_, _, suffix, joined⟩ := stage
      cases left with
      | nil =>
          refine left_lt (by rfl) ?_
          rw [same rfl]
          simp only [mainLeft, isDestroyAll, main, List.length_nil]
          omega
      | cons target rest =>
          have state := (joined target (suffix.subset List.mem_cons_self)).2
          rw [isDestroyAll, if_pos state] at same ⊢
          refine left_lt (by rfl) ?_
          rw [same rfl]
          simp only [mainLeft, main, List.length_cons]
          omega
  | dispose =>
      obtain ⟨left, main, rfl⟩ := taken
      apply enough
      cases left with
      | nil =>
          refine left_lt (by rfl) ?_
          rw [same rfl]
          simp only [mainLeft, disposeNext, main, List.length_nil]
          omega
      | cons target rest =>
          refine left_lt (by rfl) ?_
          rw [same rfl]
          simp only [mainLeft, disposeNext, main, List.length_cons]
          omega

theorem stop_kept (before : Server) (label : Label) (after : Server)
    (taken : step config before label after) (stops : before.isStop = true) : after.isStop = true := by
  cases label with
  | signal =>
      obtain rfl : after = _ := taken
      rfl
  | work target =>
      obtain ⟨_, thread, _, rfl⟩ := taken
      exact stops
  | check packets =>
      obtain ⟨_, rfl⟩ := taken
      rw [checkLoop, if_pos stops]
      exact stops
  | takeUp =>
      obtain ⟨_, _, message, rest, _, rfl⟩ := taken
      unfold takeUp
      split <;> exact stops
  | put target =>
      obtain ⟨_, rest, _, rfl⟩ := taken
      exact stops
  | update =>
      obtain ⟨_, _, _, rfl⟩ := taken
      exact stops
  | sleep =>
      obtain ⟨_, rfl⟩ := taken
      exact stops
  | poll =>
      obtain ⟨left, _, rfl⟩ := taken
      cases left with
      | nil => exact stops
      | cons target rest =>
          rw [isStopAll]
          split <;> exact stops
  | join =>
      obtain ⟨left, _, _, rfl⟩ := taken
      cases left <;> exact stops
  | confirm =>
      obtain ⟨left, _, rfl⟩ := taken
      cases left with
      | nil => exact stops
      | cons target rest =>
          rw [isDestroyAll]
          split <;> exact stops
  | dispose =>
      obtain ⟨left, _, rfl⟩ := taken
      cases left <;> exact stops

theorem returned_kept (before : Server) (label : Label) (after : Server)
    (taken : step config before label after) (returned : AllReturned config before) :
    AllReturned config after := by
  intro target member
  by_cases own : label = .work target
  · subst own
    obtain ⟨_, thread, ran, _⟩ := taken
    rw [run_returned (returned target member)] at ran
    cases ran
  · rw [work_step before label after taken target own]
    exact returned target member

/-- No join waits for a thread that does not return. -/
theorem main_can_step {s : Server} (inv : Inv config s) (main : s.main ≠ .returned) :
    ∃ label after, ofMain label = true ∧ step config s label after := by
  have stage := inv.stage
  cases here : s.main with
  | check => exact ⟨.check [], _, rfl, here, rfl⟩
  | turn =>
      cases targets : s.targets with
      | cons target rest => exact ⟨.put target, _, rfl, here, rest, targets, rfl⟩
      | nil =>
          cases packets : s.packets with
          | nil => exact ⟨.update, _, rfl, here, packets, targets, rfl⟩
          | cons message rest => exact ⟨.takeUp, _, rfl, here, targets, message, rest, packets, rfl⟩
  | update => exact ⟨.sleep, _, rfl, here, rfl⟩
  | stopping left => exact ⟨.poll, _, rfl, left, here, rfl⟩
  | destroying left =>
      simp only [Stage, here] at stage
      obtain ⟨_, _, suffix, returned, _⟩ := stage
      -- all threads have returned before the first is joined
      refine ⟨.join, _, rfl, left, here, ?_, rfl⟩
      intro target first
      have member := suffix.subset (List.mem_of_mem_head? first)
      simp [blocked, returned target member]
  | confirming left => exact ⟨.confirm, _, rfl, left, here, rfl⟩
  | disposing left => exact ⟨.dispose, _, rfl, left, here, rfl⟩
  | returned => exact absurd here main

/-- A step that brings the end nearer always comes: of a thread that still runs,
or of the main thread once none does. -/
theorem helpful_comes (run : Execution (step config)) (fairThreads : FairThreads config run)
    (fairMain : FairMain config run) (n : Nat) (missing : (run.states n).main ≠ .returned) :
    ∃ later, n ≤ later ∧ Helpful config (run.states later) (run.labels later) := by
  by_cases returned : AllReturned config (run.states n)
  · obtain ⟨later, order, main⟩ := fairMain n missing
    have still : AllReturned config (run.states later) :=
      execution_invariant run (AllReturned config)
        (fun before label after all taken => returned_kept before label after taken all) returned order
    refine ⟨later, order, ?_⟩
    generalize run.labels later = label at main ⊢
    cases label with
    | poll => exact still
    | signal => cases main
    | work _ => cases main
    | _ => trivial
  · unfold AllReturned at returned
    push Not at returned
    obtain ⟨target, member, running⟩ := returned
    obtain ⟨later, order, own⟩ := fairThreads n target member running
    refine ⟨later, order, ?_⟩
    rw [own]
    trivial

end End

/-- The main thread is never stuck, and where no thread is put off for good the
server returns from `Run` after a signal, every thread disposed once, joined and
deleted. -/
theorem server_returns (config : OrderedMap.Table Nat Threads) :
    (∀ trace s, Run (step config) (start config) trace s → s.main ≠ .returned →
      ∃ label after, ofMain label = true ∧ step config s label after) ∧
    ∀ run : Execution (step config), run.states 0 = start config →
      (∃ n, (run.states n).isStop = true) → FairThreads config run → FairMain config run →
        ∃ n, (run.states n).main = .returned ∧ ∀ target ∈ threadsOf config,
          ((run.states n).threads target).disposals = 1 ∧
            ((run.states n).threads target).joinable = false ∧
            ((run.states n).threads target).deleted = true := by
  constructor
  · exact fun trace s run main => main_can_step (reached_inv run) main
  · intro run begins signalled fairThreads fairMain
    have holds : ∀ n, Inv config (run.states n) := fun n =>
      execution_invariant run (Inv config) inv_step (begins ▸ inv_start config) (Nat.zero_le n)
    obtain ⟨first, stops⟩ := signalled
    have reaches : ∃ n, ((run.later first).states n).main = .returned := by
      apply reaches_of_fair (run.later first) (fun s => Inv config s ∧ s.isStop = true)
        (fun s => s.main = .returned) (left config) (Helpful config)
      · exact ⟨holds first, stops⟩
      · exact fun before label after all taken =>
          ⟨inv_step before label after all.1 taken, stop_kept before label after taken all.2⟩
      · exact fun before label after all taken => (left_step before label after all.1 all.2 taken).1
      · exact fun before label after all helps taken =>
          (left_step before label after all.1 all.2 taken).2 helps
      · intro n missing
        obtain ⟨later, order, helps⟩ := helpful_comes run fairThreads fairMain (first + n) missing
        obtain ⟨k, rfl⟩ := Nat.exists_eq_add_of_le order
        refine ⟨n + k, Nat.le_add_right n k, ?_⟩
        show Helpful config (run.states (first + (n + k))) (run.labels (first + (n + k)))
        rw [← Nat.add_assoc]
        exact helps
    obtain ⟨n, main⟩ := reaches
    have order := in_order_of_inv (holds (first + n))
    obtain ⟨gone, deleted⟩ := order.complete main
    refine ⟨first + n, main, ?_⟩
    intro target member
    obtain ⟨-, joined, once⟩ := order.after gone target member
    exact ⟨once, joined, deleted target member⟩

theorem server_returns_lone : ∃ n, (loneStates n).main = .returned ∧
    ∀ target ∈ threadsOf loneConfig,
      ((loneStates n).threads target).disposals = 1 ∧ ((loneStates n).threads target).joinable = false ∧
        ((loneStates n).threads target).deleted = true := by
  apply (server_returns loneConfig).2 ⟨loneStates, loneLabels, lone_taken⟩ rfl ⟨1, rfl⟩
  · intro n target member running
    rw [lone_threads, List.mem_singleton] at member
    subst member
    refine ⟨4, ?_, rfl⟩
    by_contra late
    obtain ⟨k, rfl⟩ := Nat.exists_eq_add_of_lt (Nat.lt_of_not_le late)
    apply running
    match k with
    | 0 | 1 | 2 | 3 | 4 | 5 | 6 | 7 | 8 => exact congrArg Thread.work (lone_own ..)
    | k + 9 =>
        have far : 4 + (k + 9) + 1 = k + 14 := by omega
        simp only [far]
        exact congrArg Thread.work (lone_own ..)
  · intro n busy
    refine ⟨13, ?_, rfl⟩
    by_contra late
    obtain ⟨k, rfl⟩ := Nat.exists_eq_add_of_lt (Nat.lt_of_not_le late)
    apply busy
    have far : 13 + k + 1 = k + 14 := by omega
    simp only [far]
    rfl

end GameBook.ServerShutdown
