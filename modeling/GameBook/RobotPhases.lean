import GameBook.Decimals
import GameBook.Robots

/-!
The load test as a whole: the console orders robots, threads make them, every
robot tells `RobotMgr` of each state it enters, and `RobotMgr` takes the time of
a phase when all have come so far. `_robots` is what `RobotMgr` has heard last
of every account.
-/

namespace GameBook.RobotPhases

open LabelledRun OrderedMap SocketObject Robots
open RedisCommands (decimalInt)

/-! ### The console -/

structure Collection where
  account : Str
  min : Int
  max : Int
  deriving DecidableEq, Repr

def accounts (c : Collection) : List Str :=
  if c.min = 0 ∧ c.max = 0 then [c.account]
  else (List.range (c.max - c.min).toNat).map fun (k : Nat) => c.account ++ decimalInt (c.min + k)

/-- The loop of `HandleLoginEx`; `left` threads are left from the `i`-th on. -/
def loginExLoop (account : Str) (count perThreadRobotCnt : Int) : Nat → Int → List Collection
  | 0, _ => []
  | left + 1, i =>
      let min := i * perThreadRobotCnt
      let max := if min + perThreadRobotCnt > count then count else min + perThreadRobotCnt
      ⟨account, min, max⟩ :: if max ≥ count then [] else loginExLoop account count perThreadRobotCnt left (i + 1)

def threadCnt (logicThreadNum : Int) : Int := if logicThreadNum ≤ 0 then 1 else logicThreadNum

/-- `std::ceil` gets what is left of an integer division. -/
def perThreadRobotCnt (logicThreadNum count : Int) : Int :=
  let perThread := count.tdiv (threadCnt logicThreadNum)
  if perThread < 1 then 1 else perThread

def collections (logicThreadNum : Int) (account : Str) (count : Int) : List Collection :=
  loginExLoop account count (perThreadRobotCnt logicThreadNum count) (threadCnt logicThreadNum).toNat 0

/-! ### RobotMgr -/

structure RobotMgr where
  curType : Nat
  robots : Table Str RobotStateType
  announced : List Nat

def notifyServer (m : RobotMgr) (robotsCount : Nat) : RobotMgr :=
  if m.robots.size ≠ robotsCount then m
  else
    match findIf (fun state => number state < m.curType) m.robots with
    | some _ => m
    | none => { m with announced := m.announced ++ [m.curType], curType := m.curType + 1 }

def handleRobotState (m : RobotMgr) (robotsCount : Nat) (account : Str) (state : RobotStateType) : RobotMgr :=
  notifyServer { m with robots := m.robots.insert account state } robotsCount

/-! ### The test -/

/-- `queue` is the message list of the main thread; `entered` and `heard` are
all that has been put into it and taken from it. -/
structure State where
  robotsCount : Nat
  pending : List Collection
  robots : List Robot
  queue : List (Str × RobotStateType)
  mgr : RobotMgr
  entered : List (Str × RobotStateType)
  heard : List (Str × RobotStateType)

def start : State := ⟨0, [], [], [], ⟨0, ∅, []⟩, [], []⟩

inductive Label where
  | login (account : Str)
  | loginEx (account : Str) (count : Int)
  | awake (collection : Collection)
  | robot (index : Nat) (event : Event)
  | main

def handleLogin (s : State) (account : Str) : State :=
  { s with pending := s.pending ++ [⟨account, 0, 0⟩], robotsCount := 1 }

/-- The count is stored as a `size_t`. -/
def handleLoginEx (logicThreadNum : Int) (s : State) (account : Str) (count : Int) : State :=
  if count = 0 then s
  else
    { s with
      pending := s.pending ++ collections logicThreadNum account count
      robotsCount := (count % 18446744073709551616).toNat }

def step (logicThreadNum : Int) (before : State) (label : Label) (after : State) : Prop :=
  match label with
  | .login account => after = handleLogin before account
  | .loginEx account count => after = handleLoginEx logicThreadNum before account count
  | .awake collection =>
      ∃ front back, before.pending = front ++ collection :: back ∧
        after = { before with
          pending := front ++ back, robots := before.robots ++ (accounts collection).map Robots.awake }
  | .robot index event =>
      ∃ r next, before.robots[index]? = some r ∧ robotStep r event next ∧
        after = { before with
          robots := before.robots.set index next
          queue := before.queue ++ (told r next).map fun state => (r.account, state)
          entered := before.entered ++ (told r next).map fun state => (r.account, state) }
  | .main =>
      ∃ account state rest, before.queue = (account, state) :: rest ∧
        after = { before with
          queue := rest, heard := before.heard ++ [(account, state)]
          mgr := handleRobotState before.mgr before.robotsCount account state }

/-! ### What is announced -/

theorem number_lt (state : RobotStateType) : number state < endNumber := by
  cases state <;> decide

theorem handle_robots (m : RobotMgr) (robotsCount : Nat) (account : Str) (state : RobotStateType) :
    (handleRobotState m robotsCount account state).robots = m.robots.insert account state := by
  unfold handleRobotState notifyServer
  split
  · rfl
  · split <;> rfl

/-- A phase is over when all robots are known and all have come so far. -/
def Over (m : RobotMgr) (robotsCount : Nat) : Prop :=
  m.robots.size = robotsCount ∧
    ∀ (account : Str) (state : RobotStateType), m.robots[account]? = some state → m.curType ≤ number state

theorem notify_cases (m : RobotMgr) (robotsCount : Nat) :
    (Over m robotsCount ∧ notifyServer m robotsCount =
      { m with announced := m.announced ++ [m.curType], curType := m.curType + 1 }) ∨
    (¬ Over m robotsCount ∧ notifyServer m robotsCount = m) := by
  unfold notifyServer
  by_cases size : m.robots.size = robotsCount
  · rw [if_neg (not_not_intro size)]
    cases found : findIf (fun state => decide (number state < m.curType)) m.robots with
    | none =>
        left
        refine ⟨⟨size, fun account state held => ?_⟩, rfl⟩
        have far := find_if_none.mp found account state held
        simpa using far
    | some entry =>
        right
        obtain ⟨account, state⟩ := entry
        obtain ⟨held, behind⟩ := find_if_some found
        refine ⟨fun ended => ?_, rfl⟩
        have far := ended.2 account state held
        simp only [decide_eq_true_eq] at behind
        omega
  · rw [if_pos size]
    exact .inr ⟨fun ended => size ended.1, rfl⟩

structure Inv (s : State) : Prop where
  announced : s.mgr.announced = List.range s.mgr.curType
  bound : s.mgr.curType ≤ endNumber
  queued : ∀ message ∈ s.queue, message ∈ s.entered
  known : ∀ (account : Str) (state : RobotStateType), s.mgr.robots[account]? = some state → (account, state) ∈ s.entered

/-- The end of a phase: every robot has been heard of, and every one had come
at least as far when it was heard last. -/
def EndsPhase (before : State) (after : State) : Prop :=
  after.mgr.announced = before.mgr.announced ++ [before.mgr.curType] ∧
  after.mgr.robots.size = before.robotsCount ∧
  ∀ (account : Str) (state : RobotStateType), after.mgr.robots[account]? = some state →
    before.mgr.curType ≤ number state ∧ (account, state) ∈ before.entered

theorem main_spec {logicThreadNum : Int} {before after : State} (inv : Inv before)
    (taken : step logicThreadNum before .main after) :
    Inv after ∧ (after.mgr.announced ≠ before.mgr.announced → EndsPhase before after) := by
  obtain ⟨account, state, rest, first, rfl⟩ := taken
  have new : (account, state) ∈ before.entered := inv.queued _ (first ▸ List.mem_cons_self)
  have held : ∀ (other : Str) (found : RobotStateType),
      (before.mgr.robots.insert account state)[other]? = some found → (other, found) ∈ before.entered := by
    intro other found here
    rw [get_insert] at here
    split at here
    · rename_i same
      cases here
      exact same ▸ new
    · exact inv.known other found here
  have known : ∀ (other : Str) (found : RobotStateType),
      (handleRobotState before.mgr before.robotsCount account state).robots[other]? = some found →
        (other, found) ∈ before.entered := by
    rw [handle_robots]
    exact held
  have later : ∀ message ∈ rest, message ∈ before.entered := fun message member =>
    inv.queued message (first ▸ List.mem_cons_of_mem _ member)
  rcases notify_cases { before.mgr with robots := before.mgr.robots.insert account state } before.robotsCount with
    ⟨ended, same⟩ | ⟨_, same⟩
  · have same : handleRobotState before.mgr before.robotsCount account state = _ := same
    -- the state that was heard is one of the ten, so a phase that ends is, too
    have filled : (before.mgr.robots.insert account state)[account]? = some state := by
      rw [get_insert, if_pos rfl]
    have reached : before.mgr.curType ≤ number state := ended.2 account state filled
    refine ⟨⟨?_, ?_, later, known⟩, fun _ => ⟨?_, ?_, ?_⟩⟩
    · show (handleRobotState before.mgr before.robotsCount account state).announced = _
      rw [same]
      dsimp only
      rw [inv.announced, List.range_succ]
    · show (handleRobotState before.mgr before.robotsCount account state).curType ≤ _
      rw [same]
      exact Nat.succ_le_of_lt (Nat.lt_of_le_of_lt reached (number_lt state))
    · show (handleRobotState before.mgr before.robotsCount account state).announced = _
      rw [same]
    · show (handleRobotState before.mgr before.robotsCount account state).robots.size = _
      rw [handle_robots]
      exact ended.1
    · intro other found here
      refine ⟨?_, known other found here⟩
      rw [show _ = (handleRobotState before.mgr before.robotsCount account state).robots[other]? from rfl,
        handle_robots] at here
      exact ended.2 other found here
  · have same : handleRobotState before.mgr before.robotsCount account state =
        { before.mgr with robots := before.mgr.robots.insert account state } := same
    refine ⟨⟨?_, ?_, later, known⟩, ?_⟩
    · show (handleRobotState before.mgr before.robotsCount account state).announced =
        List.range (handleRobotState before.mgr before.robotsCount account state).curType
      rw [same]
      exact inv.announced
    · show (handleRobotState before.mgr before.robotsCount account state).curType ≤ _
      rw [same]
      exact inv.bound
    · intro changed
      exact absurd (congrArg RobotMgr.announced same) changed

theorem step_spec {logicThreadNum : Int} {before after : State} {label : Label} (inv : Inv before)
    (taken : step logicThreadNum before label after) :
    Inv after ∧ (after.mgr.announced ≠ before.mgr.announced → EndsPhase before after) := by
  cases label with
  | login account =>
      obtain rfl : after = _ := taken
      exact ⟨⟨inv.announced, inv.bound, inv.queued, inv.known⟩, fun changed => absurd rfl changed⟩
  | loginEx account count =>
      obtain rfl : after = _ := taken
      unfold handleLoginEx
      split
      · exact ⟨inv, fun changed => absurd rfl changed⟩
      · exact ⟨⟨inv.announced, inv.bound, inv.queued, inv.known⟩, fun changed => absurd rfl changed⟩
  | awake collection =>
      obtain ⟨front, back, _, rfl⟩ := taken
      exact ⟨⟨inv.announced, inv.bound, inv.queued, inv.known⟩, fun changed => absurd rfl changed⟩
  | robot index event =>
      obtain ⟨r, next, _, _, rfl⟩ := taken
      refine ⟨⟨inv.announced, inv.bound, ?_, ?_⟩, fun changed => absurd rfl changed⟩
      · intro message member
        rcases List.mem_append.mp member with early | new
        · exact List.mem_append_left _ (inv.queued message early)
        · exact List.mem_append_right _ new
      · intro account state held
        exact List.mem_append_left _ (inv.known account state held)
  | main => exact main_spec inv taken

theorem inv_start : Inv start := by
  refine ⟨rfl, Nat.zero_le _, by simp [start], ?_⟩
  intro account state held
  simp [start] at held

/-- In every run of the test the phases are announced in their order, each once
and none behind the last; and each only when all robots are known and have all
entered its state or a later one. -/
theorem phases_in_order {logicThreadNum : Int} {labels : List Label} {s : State}
    (run : Run (step logicThreadNum) start labels s) :
    s.mgr.announced = List.range s.mgr.curType ∧ s.mgr.curType ≤ endNumber ∧
      Run (Lawful (step logicThreadNum) fun before _ after =>
        after.mgr.announced ≠ before.mgr.announced → EndsPhase before after) start labels s := by
  have inv : Inv s := run_invariant Inv (fun _ _ _ holds taken => (step_spec holds taken).1) run inv_start
  exact ⟨inv.announced, inv.bound, lawful_of_run Inv (fun _ _ _ holds taken => (step_spec holds taken).1)
    (fun _ _ _ holds taken => (step_spec holds taken).2) run inv_start⟩

theorem phases_in_order_first :
    ∃ s, Run (step 1) start [.loginEx [97] 1, .awake ⟨[97], 0, 1⟩, .robot 0 .update, .main] s ∧
      s.mgr.announced = List.range s.mgr.curType := by
  have run : ∃ s, Run (step 1) start [.loginEx [97] 1, .awake ⟨[97], 0, 1⟩, .robot 0 .update, .main] s :=
    ⟨_, .next rfl (.next ⟨[], [], rfl, rfl⟩ (.next ⟨_, _, rfl, ⟨trivial, rfl⟩, rfl⟩
      (.next ⟨_, _, _, rfl, rfl⟩ (.refl _))))⟩
  obtain ⟨s, run⟩ := run
  exact ⟨s, run, (phases_in_order run).1⟩

end GameBook.RobotPhases
