import GameBook.Milestones
import GameBook.RobotPhases

/-!
A batch login, `-ex account count`, and no order after it. `HandleLoginEx` cuts
the accounts into a piece for each thread, and `RobotMgr` waits for as many
robots as were ordered. The count over the threads is an integer division, so
the last accounts may be in no piece; then `RobotMgr` waits in vain.
-/

namespace GameBook.RobotBatches

open Std LabelledRun OrderedMap Milestones SocketObject Robots RobotPhases
open RedisCommands (decimalInt)

/-! ### The pieces -/

/-- The accounts of the numbers from `min` on, `max` not among them. -/
def batch (account : Str) (min max : Int) : List Str :=
  (List.range (max - min).toNat).map fun (k : Nat) => account ++ decimalInt (min + k)

theorem decimal_injective {first second : Nat} (same : decimalInt first = decimalInt second) : first = second := by
  have value := congrArg RedisCommands.digitsValue same
  simp only [decimalInt, Decimals.digits_value_decimal] at value
  exact_mod_cast value

theorem batch_nodup (account : Str) (max : Int) : (batch account 0 max).Nodup := by
  apply List.Nodup.map _ List.nodup_range
  intro first second same
  have tails := List.append_cancel_left same
  simp only [Int.zero_add] at tails
  exact decimal_injective tails

theorem batch_append (account : Str) {first second third : Int} (low : first ≤ second) (high : second ≤ third) :
    batch account first second ++ batch account second third = batch account first third := by
  have parts : (third - first).toNat = (second - first).toNat + (third - second).toNat := by omega
  rw [batch, batch, batch, parts, List.range_add, List.map_append, List.map_map]
  congr 1
  apply List.map_congr_left
  intro k _
  show account ++ _ = account ++ _
  congr 2
  push_cast
  omega

theorem accounts_batch (account : Str) {min max : Int} (ends : max ≠ 0) :
    accounts ⟨account, min, max⟩ = batch account min max :=
  if_neg fun zero => ends zero.2

theorem login_ex_accounts (account : Str) (count perThreadRobotCnt : Int) (one : 1 ≤ perThreadRobotCnt) (left : Nat)
    (i : Int) (positive : 0 ≤ i) (below : i * perThreadRobotCnt < count) :
    (loginExLoop account count perThreadRobotCnt left i).flatMap accounts =
      batch account (i * perThreadRobotCnt) (min count ((i + left) * perThreadRobotCnt)) := by
  induction left generalizing i with
  | zero =>
      have none : min count ((i + (0 : Nat)) * perThreadRobotCnt) - i * perThreadRobotCnt = 0 := by
        rw [Int.natCast_zero, Int.add_zero, Int.min_eq_right (by omega), Int.sub_self]
      rw [batch, none]
      rfl
  | succ left ih =>
      have next : (i + 1) * perThreadRobotCnt = i * perThreadRobotCnt + perThreadRobotCnt := by rw [Int.add_mul, Int.one_mul]
      have start : 0 ≤ i * perThreadRobotCnt := Int.mul_nonneg positive (by omega)
      have whole : i + ((left + 1 : Nat) : Int) = i + 1 + left := by push_cast; omega
      have further : (i + 1) * perThreadRobotCnt ≤ (i + 1 + left) * perThreadRobotCnt :=
        Int.mul_le_mul_of_nonneg_right (by omega) (by omega)
      rw [whole, loginExLoop]
      by_cases last : i * perThreadRobotCnt + perThreadRobotCnt ≥ count
      · -- the piece is cut at the count, and the loop breaks
        have all : min count ((i + 1 + left) * perThreadRobotCnt) = count := Int.min_eq_left (by omega)
        have top : (if i * perThreadRobotCnt + perThreadRobotCnt > count then count
            else i * perThreadRobotCnt + perThreadRobotCnt) = count := by
          split <;> omega
        rw [top, if_pos (Int.le_refl _), List.flatMap_cons, List.flatMap_nil, List.append_nil,
          accounts_batch account (by omega), all]
      · have top : (if i * perThreadRobotCnt + perThreadRobotCnt > count then count
            else i * perThreadRobotCnt + perThreadRobotCnt) = i * perThreadRobotCnt + perThreadRobotCnt :=
          if_neg (by omega)
        rw [top, if_neg last, List.flatMap_cons, accounts_batch account (by omega), ← next,
          ih (i + 1) (by omega) (by omega)]
        exact batch_append account (by omega) (by omega)

def Fits (logicThreadNum count : Int) : Prop :=
  threadCnt logicThreadNum ∣ count ∨ count ≤ threadCnt logicThreadNum

theorem thread_cnt_positive (logicThreadNum : Int) : 0 < threadCnt logicThreadNum := by
  unfold threadCnt
  split <;> omega

theorem fits_iff {logicThreadNum count : Int} (positive : 0 < count) :
    Fits logicThreadNum count ↔
      count ≤ threadCnt logicThreadNum * perThreadRobotCnt logicThreadNum count := by
  have threads := thread_cnt_positive logicThreadNum
  have quotient : count.tdiv (threadCnt logicThreadNum) = count / threadCnt logicThreadNum :=
    Int.tdiv_eq_ediv_of_nonneg (by omega)
  have parts := Int.mul_ediv_add_emod count (threadCnt logicThreadNum)
  have rest := Int.emod_nonneg count (Int.ne_of_gt threads)
  have small := Int.emod_lt_of_pos count threads
  unfold Fits perThreadRobotCnt
  rw [quotient, Int.dvd_iff_emod_eq_zero]
  dsimp only
  by_cases few : count / threadCnt logicThreadNum < 1
  · -- fewer accounts than threads
    have zero : count / threadCnt logicThreadNum = 0 :=
      Int.le_antisymm (by omega) (Int.ediv_nonneg (by omega) (by omega))
    rw [zero, Int.mul_zero, Int.zero_add] at parts
    rw [if_pos few, Int.mul_one]
    omega
  · rw [if_neg few]
    have enough : threadCnt logicThreadNum ≤ threadCnt logicThreadNum * (count / threadCnt logicThreadNum) := by
      have product := Int.mul_le_mul_of_nonneg_left (show 1 ≤ count / threadCnt logicThreadNum by omega) (by omega : 0 ≤ threadCnt logicThreadNum)
      rwa [Int.mul_one] at product
    omega

theorem collections_accounts (logicThreadNum : Int) (account : Str) {count : Int} (positive : 0 < count) :
    (collections logicThreadNum account count).flatMap accounts =
      batch account 0 (min count (threadCnt logicThreadNum * perThreadRobotCnt logicThreadNum count)) := by
  have threads := thread_cnt_positive logicThreadNum
  have one : 1 ≤ perThreadRobotCnt logicThreadNum count := by
    unfold perThreadRobotCnt
    dsimp only
    split <;> omega
  have loop := login_ex_accounts account count (perThreadRobotCnt logicThreadNum count) one
    (threadCnt logicThreadNum).toNat 0 (Int.le_refl 0) (by omega)
  rw [Int.zero_mul, Int.zero_add, Int.toNat_of_nonneg (by omega)] at loop
  exact loop

/-- No further order is given. -/
def Calm (_ : State) : Label → Prop
  | .login _ | .loginEx _ _ => False
  | .awake _ | .robot _ _ | .main => True

/-- And the servers answer what they have been asked. -/
def Orderly (s : State) : Label → Prop
  | .login _ | .loginEx _ _ => False
  | .awake _ | .main => True
  | .robot index event => ∀ r, s.robots[index]? = some r → InTurn r event

structure Named (names : List Str) (s : State) : Prop where
  names : (s.robots.map Robot.account ++ s.pending.flatMap accounts).Perm names
  sound : ∀ r ∈ s.robots, Sound r
  known : ∀ account ∈ latest s.mgr.robots s.queue, account ∈ s.robots.map Robot.account

theorem set_accounts {robots : List Robot} {index : Nat} {r next : Robot} (there : robots[index]? = some r)
    (same : next.account = r.account) : (robots.set index next).map Robot.account = robots.map Robot.account := by
  obtain ⟨bound, here⟩ := List.getElem?_eq_some_iff.mp there
  have inside : index < (robots.map Robot.account).length := by
    rw [List.length_map]
    exact bound
  have mapped : (robots.map Robot.account)[index] = r.account := by rw [List.getElem_map, here]
  rw [List.map_set, same, ← mapped, List.set_getElem_self]

theorem named_step {names : List Str} {logicThreadNum : Int} {before after : State} {label : Label}
    (named : Named names before) (taken : Guarded (step logicThreadNum) Calm before label after) :
    Named names after := by
  obtain ⟨taken, calm⟩ := taken
  cases label with
  | login account => exact absurd calm id
  | loginEx account count => exact absurd calm id
  | awake collection =>
      obtain ⟨front, back, held, rfl⟩ := taken
      have fresh : ((accounts collection).map Robots.awake).map Robot.account = accounts collection := by
        rw [List.map_map]
        exact List.map_id _
      refine ⟨?_, ?_, ?_⟩
      · -- the accounts of the piece move from those to be made to the robots
        have whole := named.names
        rw [held, List.flatMap_append, List.flatMap_cons] at whole
        refine List.Perm.trans ?_ whole
        show ((before.robots ++ _).map Robot.account ++ (front ++ back).flatMap accounts).Perm _
        rw [List.map_append, fresh, List.flatMap_append, List.append_assoc]
        apply List.Perm.append_left
        rw [← List.append_assoc, ← List.append_assoc]
        exact List.Perm.append_right _ List.perm_append_comm
      · intro r member
        rcases List.mem_append.mp member with old | new
        · exact named.sound r old
        · obtain ⟨account, _, rfl⟩ := List.mem_map.mp new
          exact sound_awake account
      · intro account member
        show account ∈ (before.robots ++ _).map Robot.account
        rw [List.map_append]
        exact List.mem_append_left _ (named.known account member)
  | robot index event =>
      obtain ⟨r, next, there, moved, rfl⟩ := taken
      have sound := named.sound r (List.mem_of_getElem? there)
      obtain ⟨reached, done, handled⟩ := handle_spec sound moved.1
      rw [moved.2] at done
      cases done
      have accounts := set_accounts there handled.account
      refine ⟨?_, ?_, ?_⟩
      · show ((before.robots.set index next).map Robot.account ++ _).Perm _
        rw [accounts]
        exact named.names
      · intro other member
        rcases List.mem_or_eq_of_mem_set member with old | rfl
        · exact named.sound other old
        · exact handled.sound
      · intro account member
        show account ∈ (before.robots.set index next).map Robot.account
        rw [accounts]
        change account ∈ latest before.mgr.robots (before.queue ++ _) at member
        rw [latest_append] at member
        -- only this robot has told of anything
        by_cases mine : account = r.account
        · rw [mine]
          exact List.mem_map_of_mem (List.mem_of_getElem? there)
        · apply named.known
          rw [ExtTreeMap.mem_iff_isSome_getElem?, latest_get_other] at member
          · exact ExtTreeMap.mem_iff_isSome_getElem?.mpr member
          · intro entry told
            obtain ⟨state, _, rfl⟩ := List.mem_map.mp told
            exact Ne.symm mine
  | main =>
      obtain ⟨account, state, rest, first, rfl⟩ := taken
      refine ⟨named.names, named.sound, ?_⟩
      intro other member
      change other ∈ latest (handleRobotState before.mgr before.robotsCount account state).robots rest at member
      rw [handle_robots] at member
      apply named.known
      rw [first]
      exact member

theorem known_names {names : List Str} {s : State} (named : Named names s) :
    s.mgr.robots.size ≤ names.length := by
  apply size_le_names
  intro account member
  apply named.names.subset
  exact List.mem_append_left _ (named.known account (mem_latest s.queue _ account member))

theorem calm_constant {logicThreadNum : Int} {before after : State} {label : Label}
    (taken : Guarded (step logicThreadNum) Calm before label after) : after.robotsCount = before.robotsCount := by
  obtain ⟨taken, calm⟩ := taken
  cases label with
  | login account => exact absurd calm id
  | loginEx account count => exact absurd calm id
  | awake collection =>
      obtain ⟨front, back, _, rfl⟩ := taken
      rfl
  | robot index event =>
      obtain ⟨r, next, _, _, rfl⟩ := taken
      rfl
  | main =>
      obtain ⟨account, state, rest, _, rfl⟩ := taken
      rfl

/-! ### A batch that lacks accounts -/

/-- `RobotMgr` still waits for robots that no thread makes. -/
structure InVain (names : List Str) (s : State) : Prop where
  named : Named names s
  lacks : names.length < s.robotsCount
  announced : s.mgr.announced = []

theorem in_vain_step {names : List Str} {logicThreadNum : Int} {before after : State} {label : Label}
    (vain : InVain names before) (taken : Guarded (step logicThreadNum) Calm before label after) :
    InVain names after := by
  have named := named_step vain.named taken
  have lacks : names.length < after.robotsCount := by
    rw [calm_constant taken]
    exact vain.lacks
  refine ⟨named, lacks, ?_⟩
  obtain ⟨taken, calm⟩ := taken
  cases label with
  | login account => exact absurd calm id
  | loginEx account count => exact absurd calm id
  | awake collection =>
      obtain ⟨front, back, _, rfl⟩ := taken
      exact vain.announced
  | robot index event =>
      obtain ⟨r, next, _, _, rfl⟩ := taken
      exact vain.announced
  | main =>
      obtain ⟨account, state, rest, _, rfl⟩ := taken
      show (handleRobotState before.mgr before.robotsCount account state).announced = []
      -- fewer names than robots ordered, so that no phase is ever full
      have few := known_names named
      change (handleRobotState before.mgr before.robotsCount account state).robots.size ≤ _ at few
      rw [handle_robots] at few
      rcases notify_cases { before.mgr with robots := before.mgr.robots.insert account state } before.robotsCount with
        ⟨ended, _⟩ | ⟨_, same⟩
      · have full := ended.1
        change (before.mgr.robots.insert account state).size = before.robotsCount at full
        have short := vain.lacks
        omega
      · rw [handleRobotState, same]
        exact vain.announced

/-! ### A batch that is whole -/

structure Timed (names : List Str) (s : State) : Prop where
  named : Named names s
  whole : names.length = s.robotsCount
  told : ∀ r ∈ s.robots, (latest s.mgr.robots s.queue)[r.account]? = r.state
  rising : Rising number s.mgr.robots s.queue
  waits : Waits number s.mgr.robots s.robotsCount s.mgr.curType

/-- A robot that climbs tells of it rank by rank. -/
theorem climb_told (account : Str) {before after : Option RobotStateType} {states : List RobotStateType}
    (climb : Climb before states after) (table : Table Str RobotStateType) (held : table[account]? = before) :
    Rising number table (states.map fun state => (account, state)) ∧
      (latest table (states.map fun state => (account, state)))[account]? = after := by
  induction climb generalizing table with
  | still _ => exact ⟨trivial, held⟩
  | next state above zero _ ih =>
      obtain ⟨rising, last⟩ := ih (table.insert account state) (by rw [get_insert, if_pos rfl])
      refine ⟨⟨⟨?_, ?_⟩, rising⟩, last⟩
      · intro old here
        exact above old (held.symm.trans here)
      · intro none
        exact zero (held.symm.trans none)

theorem other_account {names : List Str} {s : State} (named : Named names s) (once : names.Nodup) {index : Nat}
    {r next other : Robot} (there : s.robots[index]? = some r) (member : other ∈ s.robots.set index next) :
    other = next ∨ (other ∈ s.robots ∧ other.account ≠ r.account) := by
  obtain ⟨place, here⟩ := List.mem_iff_getElem?.mp member
  by_cases same : index = place
  · subst same
    obtain ⟨bound, value⟩ := List.getElem?_eq_some_iff.mp here
    rw [List.getElem_set_self] at value
    exact .inl value.symm
  · rw [List.getElem?_set_ne same] at here
    refine .inr ⟨List.mem_of_getElem? here, fun alike => same ?_⟩
    have accounts : (s.robots.map Robot.account).Nodup :=
      (List.nodup_append.mp (named.names.nodup_iff.mpr once)).1
    have one : (s.robots.map Robot.account)[index]? = some r.account := by rw [List.getElem?_map, there]; rfl
    have two : (s.robots.map Robot.account)[place]? = some r.account := by
      rw [List.getElem?_map, here, ← alike]
      rfl
    obtain ⟨inside, _⟩ := List.getElem?_eq_some_iff.mp one
    exact (List.getElem?_inj inside accounts).mp (one.trans two.symm)

theorem calm_of_orderly {s : State} {label : Label} (orderly : Orderly s label) : Calm s label := by
  cases label with
  | login account => exact orderly
  | loginEx account count => exact orderly
  | awake collection => exact trivial
  | robot index event => exact trivial
  | main => exact trivial

theorem timed_step {names : List Str} (once : names.Nodup) {logicThreadNum : Int} {before after : State}
    {label : Label} (timed : Timed names before)
    (taken : Guarded (step logicThreadNum) Orderly before label after) : Timed names after := by
  have calm : Guarded (step logicThreadNum) Calm before label after := ⟨taken.1, calm_of_orderly taken.2⟩
  have named := named_step timed.named calm
  have whole : names.length = after.robotsCount := by
    rw [calm_constant calm]
    exact timed.whole
  obtain ⟨taken, orderly⟩ := taken
  cases label with
  | login account => exact absurd orderly id
  | loginEx account count => exact absurd orderly id
  | awake collection =>
      obtain ⟨front, back, held, rfl⟩ := taken
      refine ⟨named, whole, ?_, timed.rising, timed.waits⟩
      intro r member
      rcases List.mem_append.mp member with old | new
      · exact timed.told r old
      · obtain ⟨account, made, rfl⟩ := List.mem_map.mp new
        show (latest before.mgr.robots before.queue)[account]? = none
        rw [get_none_iff]
        intro known
        -- an account that is known has a robot, and no account comes twice
        have there := timed.named.known account known
        have apart := (List.nodup_append.mp (timed.named.names.nodup_iff.mpr once)).2.2
        refine apart account there account ?_ rfl
        rw [held, List.flatMap_append, List.flatMap_cons]
        exact List.mem_append_right _ (List.mem_append_left _ made)
  | robot index event =>
      obtain ⟨r, next, there, moved, rfl⟩ := taken
      have member := List.mem_of_getElem? there
      obtain ⟨reached, done, handled⟩ := handle_spec (timed.named.sound r member) moved.1
      rw [moved.2] at done
      cases done
      -- what the robot tells now follows on what it has told before
      obtain ⟨rising, last⟩ := climb_told r.account (handled.climb (orderly r there))
        (latest before.mgr.robots before.queue) (timed.told r member)
      refine ⟨named, whole, ?_, rising_append _ _ _ timed.rising rising, timed.waits⟩
      intro other among
      show (latest before.mgr.robots (before.queue ++ _))[other.account]? = other.state
      rw [latest_append]
      rcases other_account timed.named once there among with rfl | ⟨old, apart⟩
      · rw [handled.account]
        exact last
      · rw [latest_get_other, timed.told other old]
        intro entry told
        obtain ⟨state, _, rfl⟩ := List.mem_map.mp told
        exact Ne.symm apart
  | main =>
      obtain ⟨account, state, rest, first, rfl⟩ := taken
      have rising := timed.rising
      rw [first] at rising
      have few := known_names named
      change (handleRobotState before.mgr before.robotsCount account state).robots.size ≤ _ at few
      rw [handle_robots, timed.whole] at few
      obtain ⟨passed, missed⟩ := waits_heard timed.waits rising.1 few
      have told := timed.told
      rw [first] at told
      rcases notify_cases { before.mgr with robots := before.mgr.robots.insert account state } before.robotsCount with
        ⟨ended, same⟩ | ⟨not, same⟩
      · have same : handleRobotState before.mgr before.robotsCount account state = _ := same
        refine ⟨named, whole, ?_, ?_, ?_⟩
        · show ∀ r ∈ before.robots,
            (latest (handleRobotState before.mgr before.robotsCount account state).robots rest)[r.account]? = r.state
          rw [handle_robots]
          exact told
        · show Rising number (handleRobotState before.mgr before.robotsCount account state).robots rest
          rw [handle_robots]
          exact rising.2
        · show Waits number (handleRobotState before.mgr before.robotsCount account state).robots before.robotsCount
            (handleRobotState before.mgr before.robotsCount account state).curType
          rw [same]
          exact passed ended
      · have same : handleRobotState before.mgr before.robotsCount account state = _ := same
        refine ⟨named, whole, ?_, ?_, ?_⟩
        · show ∀ r ∈ before.robots,
            (latest (handleRobotState before.mgr before.robotsCount account state).robots rest)[r.account]? = r.state
          rw [handle_robots]
          exact told
        · show Rising number (handleRobotState before.mgr before.robotsCount account state).robots rest
          rw [handle_robots]
          exact rising.2
        · show Waits number (handleRobotState before.mgr before.robotsCount account state).robots before.robotsCount
            (handleRobotState before.mgr before.robotsCount account state).curType
          rw [same]
          exact missed not

theorem timed_end {names : List Str} (once : names.Nodup) {s : State} (timed : Timed names s)
    (made : s.pending = []) (heard : s.queue = [])
    (arrived : ∀ r ∈ s.robots, r.state = some .spaceEnterWorld) : number .spaceEnterWorld < s.mgr.curType := by
  have told := timed.told
  have known := timed.named.known
  rw [heard] at told known
  have names : (s.robots.map Robot.account).Perm names := by
    have names := timed.named.names
    rw [made, List.flatMap_nil, List.append_nil] at names
    exact names
  have state : ∀ account ∈ s.robots.map Robot.account, s.mgr.robots[account]? = some .spaceEnterWorld := by
    intro account member
    obtain ⟨r, among, rfl⟩ := List.mem_map.mp member
    exact (told r among).trans (arrived r among)
  have size : s.mgr.robots.size = s.robotsCount := by
    -- no others are known than the names, and every name is
    apply Nat.le_antisymm
    · rw [← timed.whole]
      exact known_names timed.named
    · rw [← timed.whole]
      exact names_le_size _ _ once fun name member => mem_of_get (state name (names.mem_iff.mpr member))
  obtain ⟨account, value, held, below⟩ := timed.waits.behind size
  have last := state account (known account (mem_of_get held))
  rw [held] at last
  cases last
  exact below

/-! ### The batch login -/

theorem batch_named (logicThreadNum : Int) (account : Str) {count : Int} (positive : 0 < count) :
    Named (batch account 0 (min count (threadCnt logicThreadNum * perThreadRobotCnt logicThreadNum count)))
      (handleLoginEx logicThreadNum start account count) := by
  rw [handleLoginEx, if_neg (by omega)]
  refine ⟨?_, ?_, ?_⟩
  · show ([] ++ ([] ++ collections logicThreadNum account count).flatMap accounts).Perm _
    rw [List.nil_append, List.nil_append, collections_accounts logicThreadNum account positive]
  · intro r member
    cases member
  · intro other known
    exact absurd known ExtTreeMap.not_mem_empty

theorem robots_ordered (logicThreadNum : Int) (account : Str) {count : Int} (positive : 0 < count)
    (small : count ≤ 2147483647) : (handleLoginEx logicThreadNum start account count).robotsCount = count.toNat := by
  rw [handleLoginEx, if_neg (by omega)]
  show (count % 18446744073709551616).toNat = _
  rw [Int.emod_eq_of_lt (by omega) (by omega)]

theorem timed_start {logicThreadNum : Int} (account : Str) {count : Int} (positive : 0 < count)
    (small : count ≤ 2147483647) (fits : Fits logicThreadNum count) :
    Timed (batch account 0 count) (handleLoginEx logicThreadNum start account count) := by
  have ordered := robots_ordered logicThreadNum account positive small
  have named := batch_named logicThreadNum account positive
  have all : min count (threadCnt logicThreadNum * perThreadRobotCnt logicThreadNum count) = count :=
    Int.min_eq_left ((fits_iff positive).mp fits)
  rw [all] at named
  refine ⟨named, ?_, ?_, ?_, ?_, ?_⟩
  · rw [ordered, batch, List.length_map, List.length_range, Int.sub_zero]
  · intro r member
    rw [handleLoginEx, if_neg (by omega)] at member
    cases member
  · rw [handleLoginEx, if_neg (by omega)]
    exact trivial
  · rw [ordered, handleLoginEx, if_neg (by omega)]
    intro none
    change (∅ : Table Str RobotStateType).size = _ at none
    rw [ExtTreeMap.size_empty] at none
    omega
  · intro _
    rw [handleLoginEx, if_neg (by omega)]
    rfl

/-- `-ex account count`: where the count is a multiple of the threads, or not
above it, the time of all ten phases has been shown when every robot is in the
world and everything has been heard. Elsewhere accounts are lost in the
division, and whatever the robots do, no time is ever shown. -/
theorem batch_is_timed {logicThreadNum : Int} {account : Str} {count : Int} (positive : 0 < count)
    (small : count ≤ 2147483647) :
    (Fits logicThreadNum count → ∀ labels s,
      Run (Guarded (step logicThreadNum) Orderly) (handleLoginEx logicThreadNum start account count) labels s →
        s.pending = [] → s.queue = [] → (∀ r ∈ s.robots, r.state = some .spaceEnterWorld) →
          s.mgr.announced = List.range endNumber) ∧
    (¬ Fits logicThreadNum count → ∀ labels s,
      Run (Guarded (step logicThreadNum) Calm) (handleLoginEx logicThreadNum start account count) labels s →
        s.mgr.announced = []) := by
  have named := batch_named logicThreadNum account positive
  have ordered := robots_ordered logicThreadNum account positive small
  constructor
  · intro fits labels s run made heard arrived
    have once := batch_nodup account count
    have begun := timed_start account positive small fits
    have timed := run_invariant _ (fun _ _ _ holds taken => timed_step once holds taken) run begun
    have last : 9 < s.mgr.curType := timed_end once timed made heard arrived
    have ordered : Inv (handleLoginEx logicThreadNum start account count) :=
      (@step_spec logicThreadNum _ _ (.loginEx account count) inv_start rfl).1
    have inv := run_invariant Inv (fun _ _ _ holds taken => (step_spec holds taken).1) (guarded_run run) ordered
    have ten : s.mgr.curType = endNumber := Nat.le_antisymm inv.bound last
    rw [inv.announced, ten]
  · intro lost labels s run
    have short := mt (fits_iff positive).mpr lost
    have begun : InVain (batch account 0 (min count (threadCnt logicThreadNum * perThreadRobotCnt logicThreadNum count)))
        (handleLoginEx logicThreadNum start account count) := by
      refine ⟨named, ?_, ?_⟩
      · rw [ordered, batch, List.length_map, List.length_range]
        omega
      · rw [handleLoginEx, if_neg (by omega)]
        rfl
    exact (run_invariant _ (fun _ _ _ holds taken => in_vain_step holds taken) run begun).announced

instance (r : Robot) (event : Event) : Decidable (InTurn r event) :=
  match event with
  | .update | .networkConnected _ | .networkDisconnect _ => inferInstanceAs (Decidable True)
  | .httpOuterResponse _ _ => inferInstanceAs (Decidable (∃ state, r.state = some state ∧ _))
  | .accountCheckRs _ => inferInstanceAs (Decidable (∃ state, r.state = some state ∧ _))
  | .playerList _ => inferInstanceAs (Decidable (∃ state, r.state = some state ∧ _))
  | .gameToken _ _ => inferInstanceAs (Decidable (∃ state, r.state = some state ∧ _))
  | .loginByTokenRs _ => inferInstanceAs (Decidable (∃ state, r.state = some state ∧ _))
  | .enterWorld _ => inferInstanceAs (Decidable (∃ state, r.state = some state ∧ _))

def playInTurn : Robot → List Event → Option Robot
  | r, [] => some r
  | r, event :: rest =>
      if Possible r event ∧ InTurn r event then (handle r event).bind fun next => playInTurn next rest else none

theorem robot_plays (logicThreadNum : Int) {r last : Robot} {events : List Event}
    (played : playInTurn r events = some last) {s : State} (one : s.robots = [r]) :
    ∃ after, Run (Guarded (step logicThreadNum) Orderly) s (events.map (.robot 0)) after ∧
      after.robots = [last] ∧ after.pending = s.pending := by
  induction events generalizing r s with
  | nil =>
      cases played
      exact ⟨s, .refl _, one, rfl⟩
  | cons event rest ih =>
      rw [playInTurn] at played
      split at played
      · rename_i possible
        obtain ⟨next, done, later⟩ := Option.bind_eq_some_iff.mp played
        have there : s.robots[0]? = some r := by rw [one]; rfl
        have orderly : Orderly s (.robot 0 event) := by
          intro other held
          rw [there] at held
          cases held
          exact possible.2
        have only : s.robots.set 0 next = [next] := by rw [one]; rfl
        obtain ⟨middle, taken, alone, still⟩ : ∃ middle,
            Guarded (step logicThreadNum) Orderly s (.robot 0 event) middle ∧ middle.robots = [next] ∧
              middle.pending = s.pending :=
          ⟨_, ⟨⟨r, next, there, ⟨possible.1, done⟩, rfl⟩, orderly⟩, only, rfl⟩
        -- the rest is played from the state reached
        obtain ⟨after, run, robots, pending⟩ := ih later alone
        exact ⟨after, .next taken run, robots, pending.trans still⟩
      · cases played

theorem main_hears (logicThreadNum : Int) {queue : List (Str × RobotStateType)} {s : State}
    (waits : s.queue = queue) :
    ∃ after, Run (Guarded (step logicThreadNum) Orderly) s (List.replicate queue.length .main) after ∧
      after.queue = [] ∧ after.robots = s.robots ∧ after.pending = s.pending := by
  induction queue generalizing s with
  | nil => exact ⟨s, .refl _, waits, rfl, rfl⟩
  | cons first rest ih =>
      obtain ⟨middle, taken, left, same, still⟩ : ∃ middle,
          Guarded (step logicThreadNum) Orderly s .main middle ∧ middle.queue = rest ∧
            middle.robots = s.robots ∧ middle.pending = s.pending :=
        ⟨_, ⟨⟨first.1, first.2, rest, waits, rfl⟩, trivial⟩, rfl, rfl, rfl⟩
      obtain ⟨after, run, empty, robots, pending⟩ := ih left
      exact ⟨after, .next taken run, empty, robots.trans same, pending.trans still⟩

/-- One robot that all goes well for is timed; of three robots on two threads
the third is lost. -/
theorem batch_is_timed_alone :
    (∃ labels s, Run (Guarded (step 1) Orderly) (handleLoginEx 1 start [97] 1) labels s ∧
      s.mgr.announced = List.range endNumber) ∧
    ∀ labels s, Run (Guarded (step 2) Calm) (handleLoginEx 2 start [97] 3) labels s →
      s.mgr.announced = [] := by
  constructor
  · have fits : Fits 1 1 := .inr (by decide)
    obtain ⟨last, played⟩ := Option.isSome_iff_exists.mp
      (show (playInTurn (Robots.awake [97, 48]) loginEvents).isSome by decide)
    have inWorld : last.state = some .spaceEnterWorld := by
      have state : (playInTurn (Robots.awake [97, 48]) loginEvents).map Robot.state =
          some (some .spaceEnterWorld) := by decide
      rw [played] at state
      exact Option.some.inj state
    obtain ⟨made, taken, one, none⟩ : ∃ made, Guarded (step 1) Orderly (handleLoginEx 1 start [97] 1)
        (.awake ⟨[97], 0, 1⟩) made ∧ made.robots = [Robots.awake [97, 48]] ∧ made.pending = [] :=
      ⟨_, ⟨⟨[], [], rfl, rfl⟩, trivial⟩, rfl, rfl⟩
    obtain ⟨told, goes, alone, still⟩ := robot_plays 1 played one
    obtain ⟨heard, hears, empty, same, left⟩ := main_hears 1 (rfl : told.queue = told.queue)
    have run := run_append (.next taken goes) hears
    refine ⟨_, heard, run, (batch_is_timed (by decide) (by decide)).1 fits _ heard run ?_ empty ?_⟩
    · rw [left, still, none]
    · intro r member
      rw [same, alone, List.mem_singleton] at member
      rw [member]
      exact inWorld
  · have lost : ¬ Fits 2 3 := by
      unfold Fits threadCnt
      decide
    exact (batch_is_timed (by decide) (by decide)).2 lost

end GameBook.RobotBatches
