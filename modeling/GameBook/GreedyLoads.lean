import Mathlib.Logic.Function.Basic
import GameBook.LabelledRun

/-!
Units that go, one after the other, to a bin of least load. Whatever the loads
were before, a bin that got a unit is never more than one above another bin.
-/

namespace GameBook.GreedyLoads

open LabelledRun

universe u
variable {Bin : Type u} [DecidableEq Bin] {allowed : Bin → Prop}

/-- One unit goes to an allowed bin of least load. -/
def Assign (allowed : Bin → Prop) (before : Bin → Int) (bin : Bin) (after : Bin → Int) : Prop :=
  allowed bin ∧ (∀ other, allowed other → before bin ≤ before other) ∧
    after = Function.update before bin (before bin + 1)

/-- Bins that got a unit are at most one above the others. -/
def Balanced (allowed : Bin → Prop) (served : List Bin) (loads : Bin → Int) : Prop :=
  ∀ bin ∈ served, ∀ other, allowed other → loads bin ≤ loads other + 1

theorem assign_grows {before after : Bin → Int} {bin : Bin} (assigned : Assign allowed before bin after)
    (other : Bin) : before other ≤ after other := by
  obtain ⟨_, _, rfl⟩ := assigned
  by_cases same : other = bin
  · rw [same, Function.update_self]
    omega
  · exact Int.le_of_eq (Function.update_of_ne same _ _).symm

theorem assign_balanced {before after : Bin → Int} {bin : Bin} {served : List Bin}
    (assigned : Assign allowed before bin after) (balanced : Balanced allowed served before) :
    Balanced allowed (bin :: served) after := by
  intro chosen member other may
  have grows := assign_grows assigned other
  obtain ⟨_, least, rfl⟩ := assigned
  by_cases same : chosen = bin
  · have low := least other may
    rw [same, Function.update_self]
    omega
  · have earlier := balanced chosen ((List.mem_cons.mp member).resolve_left same) other may
    rw [Function.update_of_ne same]
    omega

theorem run_balanced_from {before after : Bin → Int} {trace served : List Bin}
    (run : Run (Assign allowed) before trace after) (balanced : Balanced allowed served before) :
    Balanced allowed (trace ++ served) after := by
  induction run generalizing served with
  | refl => exact balanced
  | next taken _ ih =>
      have rest := ih (assign_balanced taken balanced)
      intro bin member
      apply rest bin
      rcases List.mem_append.mp member with inside | old
      · rcases List.mem_cons.mp inside with same | later
        · exact List.mem_append_right _ (List.mem_cons.mpr (Or.inl same))
        · exact List.mem_append_left _ later
      · exact List.mem_append_right _ (List.mem_cons_of_mem _ old)

/-- After any run, a bin that was served is at most one above every other. -/
theorem run_balanced {before after : Bin → Int} {trace : List Bin}
    (run : Run (Assign allowed) before trace after) : Balanced allowed trace after := by
  have nothing : Balanced allowed [] before := fun _ member => nomatch member
  have all := run_balanced_from run nothing
  rw [List.append_nil] at all
  exact all

end GameBook.GreedyLoads
