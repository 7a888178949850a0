import Mathlib.Logic.Basic

/-!
Finite runs of a labelled step relation, and the rules by which a fact about
one step becomes a fact about a whole run: invariants, and runs whose steps all
meet a condition on the state before the step and its label.
-/

namespace GameBook.LabelledRun

universe u v
variable {State : Type u} {Label : Type v}

inductive Run (step : State → Label → State → Prop) : State → List Label → State → Prop where
  | refl (state) : Run step state [] state
  | next {before middle after : State} {label : Label} {rest : List Label} :
      step before label middle → Run step middle rest after → Run step before (label :: rest) after

def Guarded (step : State → Label → State → Prop) (allowed : State → Label → Prop) :
    State → Label → State → Prop :=
  fun before label after => step before label after ∧ allowed before label

/-- The steps that lead to a state with a property. -/
def Along (step : State → Label → State → Prop) (good : State → Prop) :
    State → Label → State → Prop :=
  fun before label after => step before label after ∧ good after

/-- The steps that obey a law about the two states they join. -/
def Lawful (step : State → Label → State → Prop) (law : State → Label → State → Prop) :
    State → Label → State → Prop :=
  fun before label after => step before label after ∧ law before label after

variable {step : State → Label → State → Prop}

theorem run_append {first second : List Label} {before middle after : State}
    (head : Run step before first middle) (tail : Run step middle second after) :
    Run step before (first ++ second) after := by
  induction head with
  | refl => exact tail
  | next taken _ ih => exact Run.next taken (ih tail)

theorem run_none {before after : State} (run : Run step before [] after) : after = before := by
  cases run
  rfl

theorem run_one {label : Label} {before after : State} (run : Run step before [label] after) :
    step before label after := by
  cases run with
  | next taken rest =>
      cases rest
      exact taken

theorem run_snoc {trace : List Label} {before middle after : State} {label : Label}
    (head : Run step before trace middle) (last : step middle label after) :
    Run step before (trace ++ [label]) after :=
  run_append head (Run.next last (Run.refl after))

theorem run_split (first second : List Label) (before after : State)
    (run : Run step before (first ++ second) after) :
    ∃ middle, Run step before first middle ∧ Run step middle second after := by
  induction first generalizing before with
  | nil => exact ⟨before, Run.refl before, run⟩
  | cons label rest ih =>
      cases run with
      | next taken tail =>
          obtain ⟨middle, left, right⟩ := ih _ tail
          exact ⟨middle, Run.next taken left, right⟩

theorem run_invariant (inv : State → Prop)
    (preserved : ∀ before label after, inv before → step before label after → inv after)
    {trace : List Label} {before after : State}
    (run : Run step before trace after) (holds : inv before) : inv after := by
  induction run with
  | refl => exact holds
  | next taken _ ih => exact ih (preserved _ _ _ holds taken)

theorem guarded_run {allowed : State → Label → Prop} {trace : List Label} {before after : State}
    (run : Run (Guarded step allowed) before trace after) : Run step before trace after := by
  induction run with
  | refl => exact Run.refl _
  | next taken _ ih => exact Run.next taken.1 ih

theorem guarded_run_mono {first second : State → Label → Prop} (inv : State → Prop)
    (preserved : ∀ before label after, inv before → Guarded step first before label after → inv after)
    (implies : ∀ before label, inv before → first before label → second before label)
    {trace : List Label} {before after : State}
    (run : Run (Guarded step first) before trace after) (holds : inv before) :
    Run (Guarded step second) before trace after := by
  induction run with
  | refl => exact Run.refl _
  | next taken _ ih =>
      have kept := preserved _ _ _ holds taken
      exact Run.next ⟨taken.1, implies _ _ holds taken.2⟩ (ih kept)

/-- A property that an invariant of the guarded steps implies holds all along
the guarded runs. -/
theorem along_of_guarded {allowed : State → Label → Prop} {good : State → Prop} (inv : State → Prop)
    (preserved : ∀ before label after, inv before → Guarded step allowed before label after → inv after)
    (implies : ∀ state, inv state → good state) {trace : List Label} {before after : State}
    (run : Run (Guarded step allowed) before trace after) (holds : inv before) :
    Run (Along step good) before trace after := by
  induction run with
  | refl => exact Run.refl _
  | next taken _ ih =>
      have kept := preserved _ _ _ holds taken
      exact Run.next ⟨taken.1, implies _ kept⟩ (ih kept)

/-- A law that an invariant of the guarded steps implies is obeyed all along
the guarded runs. -/
theorem lawful_of_guarded {allowed : State → Label → Prop} {law : State → Label → State → Prop}
    (inv : State → Prop)
    (preserved : ∀ before label after, inv before → Guarded step allowed before label after → inv after)
    (obeys : ∀ before label after, inv before → Guarded step allowed before label after →
      law before label after)
    {trace : List Label} {before after : State}
    (run : Run (Guarded step allowed) before trace after) (holds : inv before) :
    Run (Lawful step law) before trace after := by
  induction run with
  | refl => exact Run.refl _
  | next taken _ ih =>
      exact Run.next ⟨taken.1, obeys _ _ _ holds taken⟩ (ih (preserved _ _ _ holds taken))

theorem lawful_of_run {law : State → Label → State → Prop} (inv : State → Prop)
    (preserved : ∀ before label after, inv before → step before label after → inv after)
    (obeys : ∀ before label after, inv before → step before label after → law before label after)
    {trace : List Label} {before after : State}
    (run : Run step before trace after) (holds : inv before) :
    Run (Lawful step law) before trace after := by
  induction run with
  | refl => exact Run.refl _
  | next taken _ ih =>
      exact Run.next ⟨taken, obeys _ _ _ holds taken⟩ (ih (preserved _ _ _ holds taken))

theorem lawful_last {law : State → Label → State → Prop} {trace : List Label} {label : Label}
    {before after : State} (run : Run (Lawful step law) before (trace ++ [label]) after) :
    ∃ middle, law middle label after := by
  obtain ⟨middle, -, last⟩ := run_split trace [label] before after run
  cases last with
  | next taken done =>
      cases done
      exact ⟨middle, taken.2⟩

/-- Where a guard decides, step by step, whether a property is kept, the
guarded runs are the runs along which it holds. The invariant may rest on the
property. -/
theorem guarded_iff_decided {allowed : State → Label → Prop} {good : State → Prop}
    (inv : State → Prop)
    (decides : ∀ before label after, inv before → good before → step before label after →
      inv after ∧ (allowed before label ↔ good after))
    {trace : List Label} {before after : State} (start : inv before) (holds : good before) :
    Run (Guarded step allowed) before trace after ↔ Run (Along step good) before trace after := by
  constructor
  · intro run
    induction run with
    | refl => exact Run.refl _
    | next taken _ ih =>
        obtain ⟨kept, decided⟩ := decides _ _ _ start holds taken.1
        have still := decided.mp taken.2
        exact Run.next ⟨taken.1, still⟩ (ih kept still)
  · intro run
    induction run with
    | refl => exact Run.refl _
    | next taken _ ih =>
        obtain ⟨kept, decided⟩ := decides _ _ _ start holds taken.1
        exact Run.next ⟨taken.1, decided.mpr taken.2⟩ (ih kept taken.2)

theorem guarded_iff_along {allowed : State → Label → Prop} {good : State → Prop}
    (inv : State → Prop)
    (preserved : ∀ before label after, inv before → step before label after → inv after)
    (decides : ∀ before label after, inv before → good before → step before label after →
      (allowed before label ↔ good after))
    {trace : List Label} {before after : State} (start : inv before) (holds : good before) :
    Run (Guarded step allowed) before trace after ↔ Run (Along step good) before trace after :=
  guarded_iff_decided inv
    (fun before label after kept good taken =>
      ⟨preserved before label after kept taken, decides before label after kept good taken⟩)
    start holds

/-- Where a guard decides, step by step, whether a law is obeyed, and a law
that is obeyed keeps the invariant, the guarded runs are the lawful ones. -/
theorem guarded_iff_lawful {allowed : State → Label → Prop} {law : State → Label → State → Prop}
    (inv : State → Prop)
    (decides : ∀ before label after, inv before → step before label after →
      (allowed before label ↔ law before label after) ∧ (law before label after → inv after))
    {trace : List Label} {before after : State} (start : inv before) :
    Run (Guarded step allowed) before trace after ↔ Run (Lawful step law) before trace after := by
  constructor
  · intro run
    induction run with
    | refl => exact Run.refl _
    | next taken _ ih =>
        obtain ⟨decided, kept⟩ := decides _ _ _ start taken.1
        have obeyed := decided.mp taken.2
        exact Run.next ⟨taken.1, obeyed⟩ (ih (kept obeyed))
  · intro run
    induction run with
    | refl => exact Run.refl _
    | next taken _ ih =>
        obtain ⟨decided, kept⟩ := decides _ _ _ start taken.1
        exact Run.next ⟨taken.1, decided.mpr taken.2⟩ (ih (kept taken.2))

end GameBook.LabelledRun
