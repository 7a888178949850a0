import Mathlib.Data.Option.Basic

/-!
What is seen of a machine that answers messages and may fail, and the rule by
which two of its runs are seen to be the same: a relation between their states
that the allowed messages keep, with the same answers. For classes of objects
that live again and again, what is seen of the next life of an object.
-/

namespace GameBook.TwoRuns

universe u v w x y
variable {State : Type u} {Message : Type v} {Output : Type w}

/-- The answers; a failure is seen as well, and nothing after it. -/
def observe (step : State → Message → Option (State × Output)) :
    State → List Message → List (Option Output)
  | _, [] => []
  | state, message :: rest =>
      match step state message with
      | none => [none]
      | some (next, output) => some output :: observe step next rest

def Meets (step : State → Message → Option (State × Output)) (allowed : State → Message → Prop) :
    State → List Message → Prop
  | _, [] => True
  | state, message :: rest =>
      allowed state message ∧
        ∀ next output, step state message = some (next, output) → Meets step allowed next rest

/-- An allowed message fails in both states, or both answer it alike and stay related. -/
def Unwinds (step : State → Message → Option (State × Output)) (allowed : State → Message → Prop)
    (alike : State → State → Prop) : Prop :=
  ∀ first second message, alike first second → allowed first message →
    Option.Rel (fun one two => one.2 = two.2 ∧ alike one.1 two.1) (step first message) (step second message)

theorem observe_alike {step : State → Message → Option (State × Output)}
    {allowed : State → Message → Prop} {alike : State → State → Prop}
    (unwinds : Unwinds step allowed alike) (messages : List Message) (first second : State)
    (related : alike first second) (meets : Meets step allowed first messages) :
    observe step first messages = observe step second messages := by
  induction messages generalizing first second with
  | nil => rfl
  | cons message rest ih =>
      obtain ⟨allows, after⟩ := meets
      have taken := unwinds first second message related allows
      unfold observe
      generalize one : step first message = answer at taken ⊢
      generalize step second message = other at taken ⊢
      cases taken with
      | none => rfl
      | some both =>
          have tail := ih _ _ both.2 (after _ _ one)
          simp only [both.1, tail]

/-! ### Lives -/

/-- A class whose objects are used again without being made again: what an
object is while it lives, and what is left of it in between. -/
structure Pooled (State : Type u) (Left : Type y) (Args : Type x) (Message : Type v) (Output : Type w) where
  backToPool : State → Left
  awake : Left → Args → Option State
  step : State → Message → Option (State × Output)

section Lives

variable {Left : Type y} {Args : Type x} (pooled : Pooled State Left Args Message Output)

/-- What is seen of the next life of an object whose last life ended in a state. -/
def nextLife (ended : State) (args : Args) (messages : List Message) : Option (List (Option Output)) :=
  (pooled.awake (pooled.backToPool ended) args).map fun woken => observe pooled.step woken messages

theorem next_life_alike {allowed : State → Message → Prop} {alike : State → State → Prop}
    (unwinds : Unwinds pooled.step allowed alike) (first second : State) (args : Args)
    (messages : List Message)
    (woken : Option.Rel alike (pooled.awake (pooled.backToPool first) args)
      (pooled.awake (pooled.backToPool second) args))
    (meets : ∀ state, pooled.awake (pooled.backToPool first) args = some state →
      Meets pooled.step allowed state messages) :
    nextLife pooled first args messages = nextLife pooled second args messages := by
  unfold nextLife
  generalize one : pooled.awake (pooled.backToPool first) args = state at woken meets ⊢
  generalize pooled.awake (pooled.backToPool second) args = other at woken ⊢
  cases woken with
  | none => rfl
  | some related => exact congrArg some (observe_alike unwinds messages _ _ related (meets _ rfl))

theorem next_life_same (first second : State) (args : Args) (messages : List Message)
    (woken : pooled.awake (pooled.backToPool first) args = pooled.awake (pooled.backToPool second) args) :
    nextLife pooled first args messages = nextLife pooled second args messages := by
  unfold nextLife
  rw [woken]

end Lives

end GameBook.TwoRuns
