import GameBook.SyncComponent
import GameBook.GreedyLoads

/-!
`SyncComponent::GetOneApp` for any mask of application types. Between two syncs
its choices are those of the greedy assignment, as long as the count does not
wrap.
-/

namespace GameBook.LoadBalance

open Std OrderedMap SyncComponent LabelledRun GreedyLoads

/-! ### What is chosen -/

def Matches (appType : UInt64) (apps : Apps) (appId : Int) : Prop :=
  ∃ info, apps[appId]? = some info ∧ hasType appType info = true

def NonNegative (apps : Apps) : Prop :=
  ∀ (appId : Int) (info : AppInfo), apps[appId]? = some info → 0 ≤ info.online

def load (apps : Apps) (appId : Int) : Int := ((apps[appId]?.map fun info => info.online.toInt).getD 0)

/-- The result of a scan is an entry, or where it began, with the least count
of all that match. -/
def Least (appType : UInt64) (entries : List (Int × AppInfo)) (min : Int32) (appId result : Int) : Prop :=
  ∃ least : Int32, least ≤ min ∧
    (∀ entry ∈ entries, hasType appType entry.2 = true → least ≤ entry.2.online) ∧
    (result = appId ∧ least = min ∨
      ∃ info, (result, info) ∈ entries ∧ hasType appType info = true ∧ info.online = least)

theorem least_skip {appType : UInt64} {rest : List (Int × AppInfo)} {min : Int32} {appId result : Int}
    (first : Int × AppInfo) (tail : Least appType rest min appId result)
    (bound : hasType appType first.2 = true → min ≤ first.2.online) :
    Least appType (first :: rest) min appId result := by
  obtain ⟨least, low, all, found⟩ := tail
  refine ⟨least, low, ?_, ?_⟩
  · intro entry member typed
    rcases List.mem_cons.mp member with rfl | inside
    · exact Int32.le_trans low (bound typed)
    · exact all entry inside typed
  · rcases found with start | ⟨other, member, typed, same⟩
    · exact Or.inl start
    · exact Or.inr ⟨other, List.mem_cons_of_mem _ member, typed, same⟩

theorem least_take {appType : UInt64} {rest : List (Int × AppInfo)} {min : Int32} {appId id result : Int}
    {info : AppInfo} (tail : Least appType rest info.online id result) (typed : hasType appType info = true)
    (lower : info.online < min) : Least appType ((id, info) :: rest) min appId result := by
  obtain ⟨least, low, all, found⟩ := tail
  refine ⟨least, Int32.le_trans low (Int32.le_of_lt lower), ?_, Or.inr ?_⟩
  · intro entry member kind
    rcases List.mem_cons.mp member with rfl | inside
    · exact low
    · exact all entry inside kind
  · rcases found with ⟨rfl, same⟩ | ⟨other, member, kind, same⟩
    · exact ⟨info, List.mem_cons_self, typed, same.symm⟩
    · exact ⟨other, List.mem_cons_of_mem _ member, kind, same⟩

/-- Stopping at zero is no loss where no count is negative. -/
theorem scan_min_least (appType : UInt64) {entries : List (Int × AppInfo)} (min : Int32) (appId : Int)
    (nonneg : ∀ entry ∈ entries, 0 ≤ entry.2.online) :
    Least appType entries min appId (scanMin appType entries min appId) := by
  induction entries generalizing min appId with
  | nil => exact ⟨min, Int32.le_refl min, fun _ member => absurd member List.not_mem_nil, Or.inl ⟨rfl, rfl⟩⟩
  | cons first rest ih =>
      have later : ∀ entry ∈ rest, 0 ≤ entry.2.online :=
        fun entry member => nonneg entry (List.mem_cons_of_mem _ member)
      unfold scanMin
      by_cases zero : min = 0
      · rw [if_pos zero]
        refine ⟨min, Int32.le_refl min, ?_, Or.inl ⟨rfl, rfl⟩⟩
        intro entry member _
        rw [zero]
        exact nonneg entry member
      · rw [if_neg zero]
        cases typed : hasType appType first.2 with
        | false =>
            apply least_skip first (ih min appId later)
            rw [typed]
            intro kind
            cases kind
        | true =>
            rw [Bool.not_true, if_neg Bool.false_ne_true]
            by_cases lower : first.2.online < min
            · rw [if_pos lower]
              exact least_take (ih _ _ later) typed lower
            · rw [if_neg lower]
              exact least_skip first (ih min appId later) fun _ => Int32.not_lt.mp lower

theorem least_busy_none {appType : UInt64} {apps : Apps} :
    leastBusy appType apps = none ↔ ∀ appId, ¬ Matches appType apps appId := by
  unfold leastBusy
  constructor
  · intro none appId
    rintro ⟨info, held, typed⟩
    split at none
    · rename_i empty
      have all := List.dropWhile_eq_nil_iff.mp empty (appId, info)
        (ExtTreeMap.mem_toList_iff_getElem?_eq_some.mpr held)
      rw [typed] at all
      cases all
    · cases none
  · intro without
    have empty : apps.toList.dropWhile (fun entry => !hasType appType entry.2) = [] := by
      apply List.dropWhile_eq_nil_iff.mpr
      rintro ⟨appId, info⟩ member
      have held := ExtTreeMap.mem_toList_iff_getElem?_eq_some.mp member
      cases kind : hasType appType info with
      | false => rfl
      | true => exact absurd ⟨info, held, kind⟩ (without appId)
    rw [empty]

theorem least_busy_some {appType : UInt64} {apps : Apps} {appId : Int} (nonneg : NonNegative apps)
    (found : leastBusy appType apps = some appId) :
    ∃ info, apps[appId]? = some info ∧ hasType appType info = true ∧
      ∀ (other : Int) (rival : AppInfo), apps[other]? = some rival → hasType appType rival = true →
        info.online ≤ rival.online := by
  unfold leastBusy at found
  have skipped := List.takeWhile_append_dropWhile (p := fun entry => !hasType appType entry.2) (l := apps.toList)
  have front : ∀ entry ∈ apps.toList.takeWhile (fun entry => !hasType appType entry.2),
      hasType appType entry.2 = false := by
    intro entry member
    have miss := List.mem_takeWhile_imp member
    simpa using miss
  have head := List.head?_dropWhile_not (fun entry => !hasType appType entry.2) apps.toList
  generalize apps.toList.takeWhile (fun entry => !hasType appType entry.2) = before at skipped front
  cases rest : apps.toList.dropWhile fun entry => !hasType appType entry.2 with
  | nil =>
      rw [rest] at found
      cases found
  | cons first others =>
      obtain ⟨firstId, firstInfo⟩ := first
      rw [rest] at found skipped head
      cases found
      have typed : hasType appType firstInfo = true := by simpa using head
      have listed : ∀ entry ∈ (firstId, firstInfo) :: others, apps[entry.1]? = some entry.2 := by
        intro entry member
        apply ExtTreeMap.mem_toList_iff_getElem?_eq_some.mp
        rw [← skipped]
        exact List.mem_append_right _ member
      obtain ⟨least, low, all, found⟩ := scan_min_least appType firstInfo.online firstId
        (fun entry member => nonneg _ _ (listed entry member))
      have overall : ∀ (other : Int) (rival : AppInfo), apps[other]? = some rival →
          hasType appType rival = true → least ≤ rival.online := by
        intro other rival held kind
        have member : (other, rival) ∈ before ++ (firstId, firstInfo) :: others := by
          rw [skipped]
          exact ExtTreeMap.mem_toList_iff_getElem?_eq_some.mpr held
        rcases List.mem_append.mp member with early | late
        -- what the first loop skipped does not match
        · have miss := front _ early
          rw [kind] at miss
          cases miss
        · exact all _ late kind
      rcases found with ⟨start, same⟩ | ⟨info, member, kind, same⟩
      · rw [start]
        exact ⟨firstInfo, listed _ List.mem_cons_self, typed, by rw [← same]; exact overall⟩
      · exact ⟨info, listed _ member, kind, by rw [same]; exact overall⟩

/-! ### One call -/

def Room (info : AppInfo) : Prop := info.online ≠ 2147483647

theorem counted_to_int {info : AppInfo} (room : Room info) :
    (counted info).online.toInt = info.online.toInt + 1 := by
  have high : info.online.toInt ≠ 2147483647 := by
    intro same
    apply room
    apply Int32.toInt_inj.mp
    rw [same]
    rfl
  have low := Int32.le_toInt info.online
  have top := Int32.toInt_lt info.online
  have sum : (info.online + 1).toInt = (info.online.toInt + 1).bmod (2 ^ 32) := Int32.toInt_add _ _
  rw [counted, sum]
  apply Int.bmod_eq_of_le
  · omega
  · omega

theorem get_one_app_least {appType : UInt64} {apps after : Apps} {info : AppInfo} (nonneg : NonNegative apps)
    (got : getOneApp appType apps = some (info, after)) :
    ∃ appId chosen, leastBusy appType apps = some appId ∧ apps[appId]? = some chosen ∧
      hasType appType chosen = true ∧
      (∀ (other : Int) (rival : AppInfo), apps[other]? = some rival → hasType appType rival = true →
        chosen.online ≤ rival.online) ∧
      info = counted chosen ∧ after = apps.insert appId (counted chosen) := by
  unfold getOneApp at got
  obtain ⟨appId, found, same⟩ := Option.map_eq_some_iff.mp got
  obtain ⟨chosen, held, typed, least⟩ := least_busy_some nonneg found
  rw [held] at same
  cases same
  exact ⟨appId, chosen, found, held, typed, least, rfl, rfl⟩

theorem get_one_app_is_some (appType : UInt64) (apps : Apps) :
    (getOneApp appType apps).isSome ↔ ∃ appId, Matches appType apps appId := by
  rw [getOneApp, Option.isSome_map, ← Option.isNone_eq_false_iff, ← Bool.not_eq_true, Option.isNone_iff_eq_none,
    least_busy_none, not_forall_not]

/-! ### Successive calls -/

inductive Call (appType : UInt64) : Apps → Option Int → Apps → Prop where
  | failed {apps} (nothing : getOneApp appType apps = none) : Call appType apps none apps
  | chose {apps appId info after} (found : leastBusy appType apps = some appId)
      (got : getOneApp appType apps = some (info, after)) : Call appType apps (some appId) after

/-- Some least busy application can be counted up, if there is any at all. -/
def HasRoom (appType : UInt64) (apps : Apps) : Prop :=
  (∃ appId, Matches appType apps appId) →
    ∃ (appId : Int) (info : AppInfo), apps[appId]? = some info ∧ hasType appType info = true ∧ Room info

structure Counting (appType : UInt64) (start apps : Apps) : Prop where
  nonneg : NonNegative apps
  same : ∀ appId, Matches appType apps appId ↔ Matches appType start appId

theorem chosen_room {appType : UInt64} {apps : Apps} {chosen : AppInfo} {appId : Int}
    (held : apps[appId]? = some chosen) (typed : hasType appType chosen = true)
    (least : ∀ (other : Int) (rival : AppInfo), apps[other]? = some rival → hasType appType rival = true →
      chosen.online ≤ rival.online) (room : HasRoom appType apps) : Room chosen := by
  obtain ⟨other, rival, there, kind, free⟩ := room ⟨appId, chosen, held, typed⟩
  have low := Int32.le_iff_toInt_le.mp (least other rival there kind)
  -- the least count is the greatest `int` only if all counts are
  intro full
  apply free
  have top := Int32.toInt_lt rival.online
  apply Int32.toInt_inj.mp
  rw [full] at low
  have max : (2147483647 : Int32).toInt = 2147483647 := rfl
  omega

theorem load_held {apps : Apps} {appId : Int} {info : AppInfo} (held : apps[appId]? = some info) :
    load apps appId = info.online.toInt := by
  rw [load, held]
  rfl

theorem load_insert (apps : Apps) (appId : Int) (info : AppInfo) :
    load (apps.insert appId info) = Function.update (load apps) appId info.online.toInt := by
  funext other
  unfold load
  rw [get_insert]
  by_cases same : other = appId
  · rw [if_pos same, same, Function.update_self]
    rfl
  · rw [if_neg same, Function.update_of_ne same]

theorem matches_insert {appType : UInt64} {apps : Apps} {appId : Int} {chosen : AppInfo}
    (held : apps[appId]? = some chosen) (other : Int) :
    Matches appType (apps.insert appId (counted chosen)) other ↔ Matches appType apps other := by
  unfold Matches
  rw [get_insert]
  by_cases same : other = appId
  · rw [if_pos same, same, held]
    constructor
    · rintro ⟨_, ⟨⟩, typed⟩
      exact ⟨chosen, rfl, typed⟩
    · rintro ⟨_, ⟨⟩, typed⟩
      exact ⟨counted chosen, rfl, typed⟩
  · rw [if_neg same]

theorem call_assigns {appType : UInt64} {start before after : Apps} {appId : Int}
    (counting : Counting appType start before) (call : Call appType before (some appId) after)
    (room : HasRoom appType before) :
    Assign (Matches appType start) (load before) appId (load after) ∧ Counting appType start after := by
  cases call with
  | chose found got =>
      obtain ⟨picked, chosen, again, held, typed, least, -, rfl⟩ := get_one_app_least counting.nonneg got
      rw [found] at again
      cases again
      -- the entry chosen has the least count of all, and one of them is below the greatest int
      have free := chosen_room held typed least room
      have online := counted_to_int free
      have own := load_held held
      refine ⟨⟨(counting.same appId).mp ⟨chosen, held, typed⟩, ?_, ?_⟩, ?_, ?_⟩
      · intro other may
        obtain ⟨rival, there, kind⟩ := (counting.same other).mpr may
        rw [own, load_held there]
        exact Int32.le_iff_toInt_le.mp (least other rival there kind)
      · rw [load_insert, online, own]
      · intro other info there
        rw [get_insert] at there
        split at there
        · cases there
          have was := Int32.le_iff_toInt_le.mp (counting.nonneg appId chosen held)
          apply Int32.le_iff_toInt_le.mpr
          rw [online]
          have zero : (0 : Int32).toInt = 0 := rfl
          omega
        · exact counting.nonneg other info there
      · intro other
        exact (matches_insert held other).trans (counting.same other)

theorem calls_assign {appType : UInt64} {start before after : Apps} {trace : List (Option Int)}
    (counting : Counting appType start before)
    (run : Run (Guarded (Call appType) fun apps _ => HasRoom appType apps) before trace after) :
    Run (Assign (Matches appType start)) (load before) trace.reduceOption (load after) := by
  induction run with
  | refl => exact Run.refl _
  | @next before middle after label rest taken _ ih =>
      obtain ⟨call, room⟩ := taken
      cases label with
      | none =>
          cases call with
          | failed nothing => exact ih counting
      | some appId =>
          obtain ⟨assigned, now⟩ := call_assigns counting call room
          exact Run.next assigned (ih now)

/-- A call succeeds exactly when some application matches; it takes one with
the least count, adds one to it unless that count is the greatest `int`, and
leaves the rest alone. While there is room, successive calls are a greedy
assignment, and no application that was chosen is more than one above another
one that matches. -/
theorem get_one_app_greedy (appType : UInt64) (apps : Apps) (nonneg : NonNegative apps) :
    ((getOneApp appType apps).isSome ↔ ∃ appId, Matches appType apps appId) ∧
    (∀ info after, getOneApp appType apps = some (info, after) →
      ∃ appId chosen, apps[appId]? = some chosen ∧ hasType appType chosen = true ∧
        (∀ (other : Int) (rival : AppInfo), apps[other]? = some rival → hasType appType rival = true →
          chosen.online ≤ rival.online) ∧
        info = counted chosen ∧ after = apps.insert appId info ∧
        (Room chosen → info.online.toInt = chosen.online.toInt + 1)) ∧
    ∀ trace after, Run (Guarded (Call appType) fun now _ => HasRoom appType now) apps trace after →
      Run (Assign (Matches appType apps)) (load apps) trace.reduceOption (load after) ∧
        Balanced (Matches appType apps) trace.reduceOption (load after) := by
  refine ⟨get_one_app_is_some appType apps, ?_, ?_⟩
  · intro info after got
    obtain ⟨appId, chosen, -, held, typed, least, rfl, rfl⟩ := get_one_app_least nonneg got
    exact ⟨appId, chosen, held, typed, least, rfl, rfl, counted_to_int⟩
  · intro trace after run
    have assigned := calls_assign ⟨nonneg, fun _ => Iff.rfl⟩ run
    exact ⟨assigned, run_balanced assigned⟩

def games : Apps := ((∅ : Apps).insert 1 ⟨16, 1, [], 7801, 3, 5⟩).insert 2 ⟨16, 2, [], 7802, 3, 6⟩

theorem games_nonneg : NonNegative games := by
  intro appId info held
  simp only [games, get_insert] at held
  split at held
  · cases held
    decide
  · split at held
    · cases held
      decide
    · simp at held

theorem games_balance : (getOneApp 16 games).isSome ∧
    ∀ trace after, Run (Guarded (Call 16) fun now _ => HasRoom 16 now) games trace after →
      Balanced (Matches 16 games) trace.reduceOption (load after) := by
  constructor
  · apply (get_one_app_greedy 16 games games_nonneg).1.mpr
    refine ⟨2, ⟨16, 2, [], 7802, 3, 6⟩, ?_, by decide⟩
    rw [games, get_insert, if_pos rfl]
  · intro trace after run
    exact ((get_one_app_greedy 16 games games_nonneg).2.2 trace after run).2

def full : Apps := (∅ : Apps).insert 1 ⟨16, 1, [], 7801, 2147483647, 5⟩

/-- Its count does not go up by one. -/
theorem full_wraps : NonNegative full ∧ ∃ info after, getOneApp 16 full = some (info, after) ∧
    ∀ (appId : Int) (chosen : AppInfo), full[appId]? = some chosen → info.online.toInt ≠ chosen.online.toInt + 1 := by
  have only : ∀ (appId : Int) (info : AppInfo), full[appId]? = some info →
      info = ⟨16, 1, [], 7801, 2147483647, 5⟩ := by
    intro appId info held
    simp only [full, get_insert] at held
    split at held
    · exact (Option.some.inj held).symm
    · simp at held
  have nonneg : NonNegative full := by
    intro appId info held
    rw [only appId info held]
    decide
  have held : full[(1 : Int)]? = some ⟨16, 1, [], 7801, 2147483647, 5⟩ := by
    rw [full, get_insert, if_pos rfl]
  obtain ⟨⟨info, after⟩, got⟩ := Option.isSome_iff_exists.mp
    ((get_one_app_is_some 16 full).mpr ⟨1, _, held, by decide⟩)
  obtain ⟨appId, chosen, -, there, -, -, rfl, -⟩ := get_one_app_least nonneg got
  refine ⟨nonneg, _, after, got, ?_⟩
  intro other rival elsewhere
  rw [only appId chosen there, only other rival elsewhere]
  decide

end GameBook.LoadBalance
