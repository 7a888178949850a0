import GameBook.LabelledRun

/-!
One system does what another could have done: every step of the one is
followed by a run of the other that shows the same. What a label shows is a
list, empty for a step inside the system.
-/

namespace GameBook.Simulation

open LabelledRun

universe u v w x y
variable {State : Type u} {Label : Type v} {Other : Type w} {OtherLabel : Type x} {Shown : Type y}

def observed (shows : Label → List Shown) (labels : List Label) : List Shown := labels.flatMap shows

@[simp] theorem observed_nil (shows : Label → List Shown) : observed shows [] = [] := rfl

@[simp] theorem observed_cons (shows : Label → List Shown) (label : Label) (rest : List Label) :
    observed shows (label :: rest) = shows label ++ observed shows rest := rfl

theorem observed_append (shows : Label → List Shown) (first second : List Label) :
    observed shows (first ++ second) = observed shows first ++ observed shows second := List.flatMap_append

variable {step : State → Label → State → Prop} {other : Other → OtherLabel → Other → Prop}

theorem simulates_run (shows : Label → List Shown) (otherShows : OtherLabel → List Shown)
    (related : State → Other → Prop)
    (follows : ∀ before label after state, related before state → step before label after →
      ∃ labels next, Run other state labels next ∧ related after next ∧
        observed otherShows labels = shows label)
    {labels : List Label} {before after : State} (run : Run step before labels after) (state : Other)
    (start : related before state) :
    ∃ otherLabels next, Run other state otherLabels next ∧ related after next ∧
      observed otherShows otherLabels = observed shows labels := by
  induction run generalizing state with
  | refl _ => exact ⟨[], state, Run.refl state, start, rfl⟩
  | next taken _ ih =>
      obtain ⟨first, middle, head, kept, same⟩ := follows _ _ _ state start taken
      obtain ⟨second, last, tail, done, rest⟩ := ih middle kept
      refine ⟨first ++ second, last, run_append head tail, done, ?_⟩
      rw [observed_append, observed_cons, same, rest]

end GameBook.Simulation
