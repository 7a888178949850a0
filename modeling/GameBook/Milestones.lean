import GameBook.OrderedMap

/-!
Keys that rise through ranks, and one who hears of it: a log says which key has
come to which value, a table keeps what was heard last of each. A milestone is
passed when a fixed number of keys is known and none is behind it; with every
word heard at most one is passed. When no key skips a rank, none is missed.
-/

namespace GameBook.Milestones

open Std OrderedMap

variable {Key Value : Type} [Ord Key] [TransOrd Key]

/-- What the table will be when the log has been heard. -/
def latest (table : Table Key Value) (log : List (Key × Value)) : Table Key Value :=
  log.foldl (fun table entry => table.insert entry.1 entry.2) table

/-- A key goes up by one rank at most, and begins at the lowest. -/
def Rises (rank : Value → Nat) (last : Option Value) (value : Value) : Prop :=
  (∀ old, last = some old → rank value ≤ rank old + 1) ∧ (last = none → rank value = 0)

def Rising (rank : Value → Nat) (table : Table Key Value) : List (Key × Value) → Prop
  | [] => True
  | (key, value) :: rest => Rises rank table[key]? value ∧ Rising rank (table.insert key value) rest

/-- Between two words somebody has not come to the next milestone yet. -/
structure Waits (rank : Value → Nat) (table : Table Key Value) (count passed : Nat) : Prop where
  behind : table.size = count →
    ∃ (key : Key) (value : Value), table[key]? = some value ∧ rank value < passed
  fresh : table.size ≠ count → passed = 0

def Passes (rank : Value → Nat) (table : Table Key Value) (count passed : Nat) : Prop :=
  table.size = count ∧ ∀ (key : Key) (value : Value), table[key]? = some value → passed ≤ rank value

variable {rank : Value → Nat}

theorem latest_append (table : Table Key Value) (first second : List (Key × Value)) :
    latest table (first ++ second) = latest (latest table first) second :=
  List.foldl_append

theorem rising_append (first second : List (Key × Value)) (table : Table Key Value)
    (one : Rising rank table first) (other : Rising rank (latest table first) second) :
    Rising rank table (first ++ second) := by
  induction first generalizing table with
  | nil => exact other
  | cons entry rest ih => exact ⟨one.1, ih _ one.2 other⟩

variable [LawfulEqOrd Key]

theorem mem_latest (log : List (Key × Value)) (table : Table Key Value) (key : Key) (member : key ∈ table) :
    key ∈ latest table log := by
  induction log generalizing table with
  | nil => exact member
  | cons entry rest ih => exact ih _ ((mem_insert_iff _ _ _ _).mpr (.inr member))

theorem latest_get_other [DecidableEq Key] (log : List (Key × Value)) (table : Table Key Value) (key : Key)
    (other : ∀ entry ∈ log, entry.1 ≠ key) : (latest table log)[key]? = table[key]? := by
  induction log generalizing table with
  | nil => rfl
  | cons entry rest ih =>
      show (latest (table.insert entry.1 entry.2) rest)[key]? = _
      rw [ih _ fun entry member => other entry (List.mem_cons_of_mem _ member), get_insert,
        if_neg fun same => other entry List.mem_cons_self same.symm]

/-- A word is heard: at most one milestone is passed, and then somebody is
behind the next. -/
theorem waits_heard [DecidableEq Key] {table : Table Key Value} {count passed : Nat} {key : Key} {value : Value}
    (waits : Waits rank table count passed) (rises : Rises rank table[key]? value)
    (bound : (table.insert key value).size ≤ count) :
    (Passes rank (table.insert key value) count passed → Waits rank (table.insert key value) count (passed + 1)) ∧
    (¬ Passes rank (table.insert key value) count passed → Waits rank (table.insert key value) count passed) := by
  have grown : table.size ≤ (table.insert key value).size := ExtTreeMap.size_le_size_insert
  have there : (table.insert key value)[key]? = some value := by rw [get_insert, if_pos rfl]
  constructor
  · intro passes
    refine ⟨fun _ => ⟨key, value, there, ?_⟩, fun other => absurd passes.1 other⟩
    by_cases full : table.size = count
    · -- the one who was behind is the one who has moved
      obtain ⟨late, old, held, below⟩ := waits.behind full
      by_cases same : late = key
      · subst same
        have next := rises.1 old held
        omega
      · have still := passes.2 late old (by rw [get_insert, if_neg same]; exact held)
        omega
    · -- the last to come is at the lowest rank
      have zero := waits.fresh full
      cases held : table[key]? with
      | none =>
          have lowest := rises.2 held
          omega
      | some old =>
          have same := size_insert_held table key old value held
          exact absurd (same.symm.trans passes.1) full
  · intro missed
    refine ⟨fun full => ?_, fun other => waits.fresh (by omega)⟩
    by_contra none
    refine missed ⟨full, fun other found held => ?_⟩
    by_contra below
    exact none ⟨other, found, held, by omega⟩

end GameBook.Milestones
