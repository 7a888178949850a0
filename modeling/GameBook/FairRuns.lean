import Mathlib.Order.WellFounded
import GameBook.LabelledRun

/-!
Runs without an end, and the rule by which a measure that no step raises leads
to a goal when a step that lowers it is never put off for good.
-/

namespace GameBook.FairRuns

open LabelledRun

universe u v w
variable {State : Type u} {Label : Type v} {Measure : Type w}

structure Execution (step : State → Label → State → Prop) where
  states : Nat → State
  labels : Nat → Label
  taken : ∀ n, step (states n) (labels n) (states (n + 1))

variable {step : State → Label → State → Prop}

def Execution.later (run : Execution step) (first : Nat) : Execution step :=
  ⟨fun n => run.states (first + n), fun n => run.labels (first + n), fun n => run.taken (first + n)⟩

theorem execution_invariant (run : Execution step) (inv : State → Prop)
    (preserved : ∀ before label after, inv before → step before label after → inv after)
    {first : Nat} (holds : inv (run.states first)) {later : Nat} (order : first ≤ later) :
    inv (run.states later) := by
  induction order with
  | refl => exact holds
  | step _ ih => exact preserved _ _ _ ih (run.taken _)

theorem execution_run (run : Execution step) (n : Nat) :
    Run step (run.states 0) ((List.range n).map run.labels) (run.states n) := by
  induction n with
  | zero => exact Run.refl _
  | succ n ih =>
      rw [List.range_succ, List.map_append]
      exact run_snoc ih (run.taken n)

theorem reaches_of_fair [LinearOrder Measure] [WellFoundedLT Measure] (run : Execution step)
    (inv goal : State → Prop) (measure : State → Measure) (helpful : State → Label → Prop)
    (begins : inv (run.states 0))
    (preserved : ∀ before label after, inv before → step before label after → inv after)
    (keeps : ∀ before label after, inv before → step before label after → measure after ≤ measure before)
    (lowers : ∀ before label after, inv before → helpful before label → step before label after →
      measure after < measure before)
    (fair : ∀ n, ¬ goal (run.states n) → ∃ later, n ≤ later ∧ helpful (run.states later) (run.labels later)) :
    ∃ n, goal (run.states n) := by
  have holds : ∀ n, inv (run.states n) := fun n => execution_invariant run inv preserved begins (Nat.zero_le n)
  have falls : ∀ first later, first ≤ later → measure (run.states later) ≤ measure (run.states first) := by
    intro first later order
    induction order with
    | refl => exact le_refl _
    | step _ ih => exact (keeps _ _ _ (holds _) (run.taken _)).trans ih
  -- where the measure is least along the run, nothing helpful can follow
  obtain ⟨_, ⟨n, rfl⟩, least⟩ :=
    wellFounded_lt.has_min (Set.range fun n => measure (run.states n)) ⟨_, 0, rfl⟩
  refine ⟨n, by_contra fun missing => ?_⟩
  obtain ⟨later, order, helps⟩ := fair n missing
  have lower := lowers _ _ _ (holds later) helps (run.taken later)
  exact least _ ⟨later + 1, rfl⟩ (lower.trans_le (falls n later order))

end GameBook.FairRuns
