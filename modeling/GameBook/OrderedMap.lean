import Mathlib.Data.List.Basic
import Mathlib.Data.List.Sort

/-!
Finite maps in key order with the search of `std::find_if`: the first entry
whose value meets a predicate. The lemmas say what a search finds and how the
size moves, so that loops over a map have a variant; a walk with an iterator is
the walk over the entries that are left, also when it erases where it stands.
-/

namespace GameBook.OrderedMap

open Std

abbrev Table (Key Value : Type) [Ord Key] := ExtTreeMap Key Value compare

variable {Key Value : Type} [Ord Key] [TransOrd Key] [LawfulEqOrd Key]

def findIf (p : Value → Bool) (table : Table Key Value) : Option (Key × Value) :=
  table.toList.find? fun entry => p entry.2

def values (table : Table Key Value) : List Value := table.toList.map Prod.snd

theorem mem_values (table : Table Key Value) (value : Value) :
    value ∈ values table ↔ ∃ key : Key, table[key]? = some value := by
  unfold values
  rw [List.mem_map]
  constructor
  · rintro ⟨⟨key, other⟩, listed, rfl⟩
    exact ⟨key, ExtTreeMap.mem_toList_iff_getElem?_eq_some.mp listed⟩
  · rintro ⟨key, held⟩
    exact ⟨(key, value), ExtTreeMap.mem_toList_iff_getElem?_eq_some.mpr held, rfl⟩

theorem values_nodup (table : Table Key Value)
    (single : ∀ (first second : Key) (value : Value), table[first]? = some value →
      table[second]? = some value → first = second) : (values table).Nodup := by
  unfold values
  rw [List.nodup_iff_pairwise_ne, List.pairwise_map]
  refine List.Pairwise.imp_of_mem ?_ ExtTreeMap.distinct_keys_toList
  intro left right leftMember rightMember distinct same
  have leftHeld := ExtTreeMap.mem_toList_iff_getElem?_eq_some.mp leftMember
  have rightHeld := ExtTreeMap.mem_toList_iff_getElem?_eq_some.mp rightMember
  rw [← same] at rightHeld
  exact distinct (LawfulEqOrd.compare_eq_iff_eq.mpr (single _ _ _ leftHeld rightHeld))

theorem flat_map_at [DecidableEq Key] {Out : Type} (table : Table Key Value) (key : Key) (value : Value)
    (held : table[key]? = some value) (piece : Key × Value → List Out)
    (others : ∀ (other : Key) (found : Value), table[other]? = some found → other ≠ key →
      piece (other, found) = []) : table.toList.flatMap piece = piece (key, value) := by
  have listed : (key, value) ∈ table.toList := ExtTreeMap.mem_toList_iff_getElem?_eq_some.mpr held
  have alone : ∀ entry ∈ table.toList, entry.1 ≠ key → piece entry = [] := by
    intro entry member apart
    exact others entry.1 entry.2 (ExtTreeMap.mem_toList_iff_getElem?_eq_some.mp member) apart
  have distinct := ExtTreeMap.distinct_keys_toList (t := table)
  generalize table.toList = entries at listed alone distinct
  induction entries with
  | nil => cases listed
  | cons first rest ih =>
      obtain ⟨apart, later⟩ := List.pairwise_cons.mp distinct
      rw [List.flatMap_cons]
      by_cases same : first.1 = key
      · have empty : rest.flatMap piece = [] := by
          apply List.flatMap_eq_nil_iff.mpr
          intro entry member
          apply alone entry (List.mem_cons_of_mem _ member)
          intro equal
          exact apart entry member (LawfulEqOrd.compare_eq_iff_eq.mpr (same.trans equal.symm))
        have front : first = (key, value) := by
          rcases List.mem_cons.mp listed with this | member
          · exact this.symm
          · exact absurd (LawfulEqOrd.compare_eq_iff_eq.mpr same) (apart _ member)
        rw [empty, List.append_nil, front]
      · have member : (key, value) ∈ rest := by
          rcases List.mem_cons.mp listed with this | member
          · exact absurd (congrArg Prod.fst this).symm same
          · exact member
        rw [alone first List.mem_cons_self same, List.nil_append]
        exact ih member (fun entry inside => alone entry (List.mem_cons_of_mem _ inside)) later

theorem get_insert [DecidableEq Key] (table : Table Key Value) (key other : Key) (value : Value) :
    (table.insert key value)[other]? = if other = key then some value else table[other]? := by
  rw [ExtTreeMap.getElem?_insert]
  by_cases same : other = key
  · subst same
    simp
  · have differs : compare key other ≠ .eq := fun equal =>
      same (LawfulEqOrd.eq_of_compare equal).symm
    simp [same, differs]

theorem get_insert_new [DecidableEq Key] (table : Table Key Value) (key other : Key) (value : Value) :
    (table.insertIfNew key value)[other]? = (table[other]?).or (if other = key then some value else none) := by
  rw [ExtTreeMap.getElem?_insertIfNew]
  by_cases same : other = key
  · subst same
    cases held : table[other]? <;> simp [ExtTreeMap.mem_iff_isSome_getElem?, held]
  · have apart : ¬ compare key other = .eq := fun equal => same (LawfulEqOrd.eq_of_compare equal).symm
    rw [if_neg (fun both => apart both.1), if_neg same, Option.or_none]

theorem get_insert_all [DecidableEq Key] {Item : Type} (key : Item → Key) (value : Item → Value)
    (items : List Item) (table : Table Key Value) (other : Key) :
    (items.foldl (fun table item => table.insertIfNew (key item) (value item)) table)[other]? =
      (table[other]?).or ((items.find? fun item => key item = other).map value) := by
  induction items generalizing table with
  | nil => simp
  | cons item rest ih =>
      rw [List.foldl_cons, ih, get_insert_new, List.find?_cons, Option.or_assoc]
      by_cases same : key item = other
      · subst same
        simp
      · have apart : ¬ other = key item := fun equal => same equal.symm
        simp [same, apart]

theorem get_erase [DecidableEq Key] (table : Table Key Value) (key other : Key) :
    (table.erase key)[other]? = if other = key then none else table[other]? := by
  rw [ExtTreeMap.getElem?_erase]
  by_cases same : other = key
  · subst same
    simp
  · have differs : compare key other ≠ .eq := fun equal =>
      same (LawfulEqOrd.eq_of_compare equal).symm
    simp [same, differs]

theorem mem_insert_iff (table : Table Key Value) (key other : Key) (value : Value) :
    other ∈ table.insert key value ↔ other = key ∨ other ∈ table := by
  rw [ExtTreeMap.mem_insert, LawfulEqOrd.compare_eq_iff_eq, eq_comm]

theorem mem_erase_iff (table : Table Key Value) (key other : Key) :
    other ∈ table.erase key ↔ other ≠ key ∧ other ∈ table := by
  rw [ExtTreeMap.mem_erase, ne_eq, LawfulEqOrd.compare_eq_iff_eq, ne_comm]

theorem find_if_some {p : Value → Bool} {table : Table Key Value} {key : Key} {value : Value}
    (found : findIf p table = some (key, value)) : table[key]? = some value ∧ p value = true := by
  constructor
  · exact ExtTreeMap.mem_toList_iff_getElem?_eq_some.mp (List.mem_of_find?_eq_some found)
  · simpa using List.find?_some found

theorem find_if_none {p : Value → Bool} {table : Table Key Value} :
    findIf p table = none ↔ ∀ (key : Key) (value : Value), table[key]? = some value → p value = false := by
  simp only [findIf, List.find?_eq_none, Bool.not_eq_true]
  constructor
  · intro absent key value held
    exact absent (key, value) (ExtTreeMap.mem_toList_iff_getElem?_eq_some.mpr held)
  · rintro absent ⟨key, value⟩ member
    exact absent key value (ExtTreeMap.mem_toList_iff_getElem?_eq_some.mp member)

theorem find_if_found {p : Value → Bool} {table : Table Key Value} {key : Key} {value : Value}
    (held : table[key]? = some value) (hit : p value = true) :
    ∃ first found, findIf p table = some (first, found) := by
  cases search : findIf p table with
  | none =>
      have miss := find_if_none.mp search key value held
      rw [hit] at miss
      cases miss
  | some entry => exact ⟨entry.1, entry.2, rfl⟩

omit [LawfulEqOrd Key] in
theorem mem_of_get {table : Table Key Value} {key : Key} {value : Value}
    (held : table[key]? = some value) : key ∈ table := by
  rw [ExtTreeMap.mem_iff_isSome_getElem?, held]
  rfl

omit [LawfulEqOrd Key] in
theorem get_none_iff {table : Table Key Value} {key : Key} : table[key]? = none ↔ key ∉ table := by
  rw [ExtTreeMap.mem_iff_isSome_getElem?, Bool.not_eq_true, Option.isSome_eq_false_iff,
    Option.isNone_iff_eq_none]

omit [LawfulEqOrd Key] in
theorem size_insert_held (table : Table Key Value) (key : Key) (old value : Value)
    (held : table[key]? = some old) : (table.insert key value).size = table.size := by
  simp [ExtTreeMap.size_insert, mem_of_get held]

theorem size_erase_held (table : Table Key Value) (key : Key) (old : Value)
    (held : table[key]? = some old) : (table.erase key).size < table.size := by
  have member := mem_of_get held
  have listed : (key, old) ∈ table.toList := ExtTreeMap.mem_toList_iff_getElem?_eq_some.mpr held
  have positive : 0 < table.size := by
    rw [← ExtTreeMap.length_toList]
    exact List.length_pos_of_mem listed
  have shrinks := ExtTreeMap.size_erase (t := table) (k := key)
  rw [if_pos (ExtTreeMap.mem_iff_contains.mp member)] at shrinks
  omega

theorem size_le_names (table : Table Key Value) (names : List Key) (among : ∀ key ∈ table, key ∈ names) :
    table.size ≤ names.length := by
  rw [← ExtTreeMap.length_keys]
  apply List.Nodup.length_le_of_subset ExtTreeMap.nodup_keys
  intro key member
  exact among key (ExtTreeMap.mem_keys.mp member)

theorem names_le_size (table : Table Key Value) (names : List Key) (once : names.Nodup)
    (all : ∀ name ∈ names, name ∈ table) : names.length ≤ table.size := by
  rw [← ExtTreeMap.length_keys]
  apply List.Nodup.length_le_of_subset once
  intro key member
  exact ExtTreeMap.mem_keys.mpr (all key member)

/-! ### Iterators -/

/-- The entries behind a key, which need not be in the map. -/
def behind (table : Table Key Value) (key : Key) : List (Key × Value) :=
  table.toList.filter fun entry => compare key entry.1 = .lt

/-- The key at which an iterator begins; `none` is the end. -/
def firstKey (table : Table Key Value) : Option Key := table.toList.head?.map Prod.fst

def nextKey (table : Table Key Value) (key : Key) : Option Key := (behind table key).head?.map Prod.fst

def remaining (table : Table Key Value) : Option Key → List (Key × Value)
  | none => []
  | some key => table.toList.filter fun entry => compare entry.1 key ≠ .lt

omit [LawfulEqOrd Key] in
theorem ordered_ext {left right : List (Key × Value)}
    (leftOrdered : left.Pairwise fun first second => compare first.1 second.1 = .lt)
    (rightOrdered : right.Pairwise fun first second => compare first.1 second.1 = .lt)
    (same : ∀ entry, entry ∈ left ↔ entry ∈ right) : left = right := by
  have irreflexive : Std.Irrefl fun first second : Key × Value => compare first.1 second.1 = .lt := by
    constructor
    intro entry below
    rw [ReflOrd.compare_self] at below
    cases below
  have antisymmetric : Std.Antisymm fun first second : Key × Value =>
      compare first.1 second.1 = .lt := by
    constructor
    intro first second below above
    have itself := TransCmp.lt_trans below above
    rw [ReflOrd.compare_self] at itself
    cases itself
  exact leftOrdered.eq_of_mem_iff rightOrdered same

theorem mem_behind (table : Table Key Value) (key : Key) (entry : Key × Value) :
    entry ∈ behind table key ↔ table[entry.1]? = some entry.2 ∧ compare key entry.1 = .lt := by
  rw [behind, List.mem_filter, decide_eq_true_iff, ← ExtTreeMap.mem_toList_iff_getElem?_eq_some]

theorem mem_remaining (table : Table Key Value) (key : Key) (entry : Key × Value) :
    entry ∈ remaining table (some key) ↔
      table[entry.1]? = some entry.2 ∧ compare entry.1 key ≠ .lt := by
  rw [remaining, List.mem_filter, decide_eq_true_iff, ← ExtTreeMap.mem_toList_iff_getElem?_eq_some]

omit [LawfulEqOrd Key] in
theorem behind_ordered (table : Table Key Value) (key : Key) :
    (behind table key).Pairwise fun first second => compare first.1 second.1 = .lt :=
  ExtTreeMap.ordered_keys_toList.filter _

omit [LawfulEqOrd Key] in
theorem remaining_ordered (table : Table Key Value) (key : Key) :
    (remaining table (some key)).Pairwise fun first second => compare first.1 second.1 = .lt :=
  ExtTreeMap.ordered_keys_toList.filter _

theorem remaining_first (table : Table Key Value) : remaining table (firstKey table) = table.toList := by
  have ordered := ExtTreeMap.ordered_keys_toList (t := table)
  unfold firstKey
  cases listed : table.toList with
  | nil => rfl
  | cons entry rest =>
      rw [listed] at ordered
      apply ordered_ext (remaining_ordered table entry.1) ordered
      intro other
      rw [mem_remaining, ← ExtTreeMap.mem_toList_iff_getElem?_eq_some, listed, and_iff_left_iff_imp]
      intro member below
      have least : other = entry ∨ compare entry.1 other.1 = .lt := by
        rcases List.mem_cons.mp member with same | later
        · exact Or.inl same
        · exact Or.inr (List.rel_of_pairwise_cons ordered later)
      rcases least with same | above
      · rw [same, ReflOrd.compare_self] at below
        cases below
      · have itself := TransCmp.lt_trans below above
        rw [ReflOrd.compare_self] at itself
        cases itself

theorem remaining_held {table : Table Key Value} {key : Key} {value : Value}
    (held : table[key]? = some value) :
    remaining table (some key) = (key, value) :: behind table key := by
  apply ordered_ext (remaining_ordered table key)
  · apply List.pairwise_cons.mpr
    refine ⟨?_, behind_ordered table key⟩
    intro entry member
    exact ((mem_behind table key entry).mp member).2
  · intro entry
    rw [mem_remaining, List.mem_cons, mem_behind]
    constructor
    · rintro ⟨there, above⟩
      cases order : compare key entry.1 with
      | lt => exact Or.inr ⟨there, rfl⟩
      | eq =>
          have same : key = entry.1 := LawfulEqOrd.eq_of_compare order
          rw [← same, held] at there
          left
          ext1
          · exact same.symm
          · exact (Option.some.inj there).symm
      | gt => exact absurd (OrientedCmp.gt_iff_lt.mp order) above
    · rintro (same | ⟨there, above⟩)
      · rw [same, ReflOrd.compare_self]
        exact ⟨held, nofun⟩
      · refine ⟨there, ?_⟩
        rw [OrientedCmp.gt_iff_lt.mpr above]
        nofun

theorem remaining_next (table : Table Key Value) (key : Key) :
    remaining table (nextKey table key) = behind table key := by
  have ordered := behind_ordered table key
  unfold nextKey
  cases listed : behind table key with
  | nil => rfl
  | cons entry rest =>
      rw [listed] at ordered
      have here : entry ∈ behind table key := by
        rw [listed]
        exact List.mem_cons_self
      have after := (mem_behind table key entry).mp here
      rw [List.head?_cons, Option.map_some, remaining_held after.1]
      congr 1
      -- nothing is between the key and the first entry behind it
      apply ordered_ext (behind_ordered table entry.1) (List.pairwise_cons.mp ordered).2
      intro other
      rw [mem_behind]
      constructor
      · rintro ⟨there, above⟩
        have member : other ∈ entry :: rest := by
          rw [← listed, mem_behind]
          exact ⟨there, TransCmp.lt_trans after.2 above⟩
        rcases List.mem_cons.mp member with same | later
        · rw [same, ReflOrd.compare_self] at above
          cases above
        · exact later
      · intro later
        have member : other ∈ behind table key := by
          rw [listed]
          exact List.mem_cons_of_mem _ later
        exact ⟨((mem_behind table key other).mp member).1, (List.pairwise_cons.mp ordered).1 other later⟩

theorem next_held {table : Table Key Value} {key other : Key} (stands : nextKey table key = some other) :
    ∃ value, table[other]? = some value := by
  obtain ⟨entry, front, rfl⟩ := Option.map_eq_some_iff.mp stands
  exact ⟨entry.2, ((mem_behind table key entry).mp (List.mem_of_mem_head? front)).1⟩

theorem first_held {table : Table Key Value} {key : Key} (stands : firstKey table = some key) :
    ∃ value, table[key]? = some value := by
  obtain ⟨entry, front, rfl⟩ := Option.map_eq_some_iff.mp stands
  exact ⟨entry.2, ExtTreeMap.mem_toList_iff_getElem?_eq_some.mp (List.mem_of_mem_head? front)⟩

theorem behind_erase [DecidableEq Key] (table : Table Key Value) (key : Key) :
    behind (table.erase key) key = behind table key := by
  apply ordered_ext (behind_ordered _ _) (behind_ordered _ _)
  intro entry
  rw [mem_behind, mem_behind, get_erase]
  by_cases same : entry.1 = key
  · rw [same, ReflOrd.compare_self]
    exact ⟨nofun, nofun⟩
  · rw [if_neg same]

/-! ### Maps that lose entries -/

def Purged (drop : Key → Value → Bool) (before now : Table Key Value) : Prop :=
  ∀ key : Key, now[key]? = before[key]? ∨
    now[key]? = none ∧ ∃ value, before[key]? = some value ∧ drop key value = true

variable {drop : Key → Value → Bool} {before now : Table Key Value}

omit [LawfulEqOrd Key] in
theorem purged_refl (table : Table Key Value) : Purged drop table table := fun _ => Or.inl rfl

omit [LawfulEqOrd Key] in
theorem purged_held (purged : Purged drop before now) {key : Key} {value : Value}
    (held : now[key]? = some value) : before[key]? = some value := by
  rcases purged key with same | ⟨gone, _⟩
  · rw [← same]
    exact held
  · rw [gone] at held
    cases held

omit [LawfulEqOrd Key] in
theorem purged_trans {middle : Table Key Value} (first : Purged drop before middle)
    (second : Purged drop middle now) : Purged drop before now := by
  intro key
  rcases second key with same | ⟨gone, value, held, hit⟩
  · rw [same]
    exact first key
  · exact Or.inr ⟨gone, value, purged_held first held, hit⟩

theorem purged_erase [DecidableEq Key] {key : Key} {value : Value}
    (held : now[key]? = some value) (hit : drop key value = true) :
    Purged drop now (now.erase key) := by
  intro other
  rw [get_erase]
  by_cases same : other = key
  · subst same
    exact Or.inr ⟨if_pos rfl, value, held, hit⟩
  · rw [if_neg same]
    exact Or.inl rfl

omit [LawfulEqOrd Key] in
theorem purged_all (purged : Purged drop before now)
    (clean : ∀ (key : Key) (value : Value), now[key]? = some value → drop key value = false)
    (key : Key) : now[key]? = before[key]?.filter fun value => !drop key value := by
  rcases purged key with same | ⟨gone, value, held, hit⟩
  · rw [← same]
    cases there : now[key]? with
    | none => rfl
    | some value => rw [Option.filter_some, clean key value there, Bool.not_false, if_pos rfl]
  · rw [gone, held, Option.filter_some, hit, Bool.not_true]
    rfl

end GameBook.OrderedMap
