import Mathlib.Logic.Relation

/-!
Loops that may not terminate, run with fuel. A body either goes on with a new
state (`inl`) or leaves with a result (`inr`). Termination is the existence of
enough fuel; the rules are a variant for termination and an invariant under
which the body always goes on for divergence.
-/

namespace GameBook.WhileLoop

variable {State Result : Type}

def loop (body : State → State ⊕ Result) : Nat → State → Option Result
  | 0, _ => none
  | fuel + 1, state =>
      match body state with
      | .inl next => loop body fuel next
      | .inr result => some result

/-- The loop leaves with `result`, given enough fuel. -/
def Ends (body : State → State ⊕ Result) (state : State) (result : Result) : Prop :=
  ∃ fuel, loop body fuel state = some result

variable {body : State → State ⊕ Result}

theorem loop_exit {state : State} {result : Result} (fuel : Nat)
    (leaves : body state = .inr result) : loop body (fuel + 1) state = some result := by
  rw [loop, leaves]

theorem loop_turn {state next : State} (fuel : Nat) (goes : body state = .inl next) :
    loop body (fuel + 1) state = loop body fuel next := by
  rw [loop, goes]

/-- More fuel than enough changes nothing. -/
theorem loop_more {state : State} {result : Result} {fuel more : Nat}
    (done : loop body fuel state = some result) (enough : fuel ≤ more) :
    loop body more state = some result := by
  induction fuel generalizing state more with
  | zero => cases done
  | succ fuel ih =>
      obtain ⟨rest, rfl⟩ : ∃ rest, more = rest + 1 := ⟨more - 1, by omega⟩
      cases taken : body state with
      | inl next =>
          rw [loop_turn fuel taken] at done
          rw [loop_turn rest taken]
          exact ih done (by omega)
      | inr left =>
          rw [loop_exit fuel taken] at done
          rw [loop_exit rest taken]
          exact done

theorem ends_exit {state : State} {result : Result} (leaves : body state = .inr result) :
    Ends body state result := ⟨1, loop_exit 0 leaves⟩

theorem ends_step {state next : State} {result : Result} (goes : body state = .inl next)
    (rest : Ends body next result) : Ends body state result := by
  obtain ⟨fuel, done⟩ := rest
  exact ⟨fuel + 1, (loop_turn fuel goes).trans done⟩

theorem ends_of_step {state next : State} {result : Result} (goes : body state = .inl next)
    (done : Ends body state result) : Ends body next result := by
  obtain ⟨fuel, result⟩ := done
  cases fuel with
  | zero => cases result
  | succ fuel =>
      rw [loop_turn fuel goes] at result
      exact ⟨fuel, result⟩

theorem loop_map {Fine FineResult : Type} {fine : Fine → Fine ⊕ FineResult}
    (state : Fine → State) (result : FineResult → Result)
    (follows : ∀ x, body (state x) = Sum.map state result (fine x)) (fuel : Nat) (x : Fine) :
    (loop fine fuel x).map result = loop body fuel (state x) := by
  induction fuel generalizing x with
  | zero => rfl
  | succ fuel ih =>
      have turn := follows x
      cases taken : fine x with
      | inl next =>
          rw [taken, Sum.map_inl] at turn
          rw [loop_turn fuel taken, loop_turn fuel turn]
          exact ih next
      | inr last =>
          rw [taken, Sum.map_inr] at turn
          rw [loop_exit fuel taken, loop_exit fuel turn]
          rfl

theorem loop_result (inv : State → Prop) (post : Result → Prop)
    (kept : ∀ state next, inv state → body state = .inl next → inv next)
    (exits : ∀ state result, inv state → body state = .inr result → post result)
    (fuel : Nat) (state : State) (result : Result) (holds : inv state)
    (done : loop body fuel state = some result) : post result := by
  induction fuel generalizing state with
  | zero => cases done
  | succ fuel ih =>
      cases taken : body state with
      | inl next =>
          rw [loop, taken] at done
          exact ih next (kept state next holds taken) done
      | inr left =>
          rw [loop, taken] at done
          cases done
          exact exits state result holds taken

/-- A loop that leaves with the state it is in: the result keeps what every
turn keeps, and is a state in which the loop may stop. -/
theorem loop_stops {body : State → State ⊕ State} (inv : State → Prop) {stopped : State → Prop}
    (kept : ∀ state next, inv state → body state = .inl next → inv next)
    (exits : ∀ state result, body state = .inr result → result = state ∧ stopped state)
    (fuel : Nat) (state result : State) (holds : inv state)
    (done : loop body fuel state = some result) : inv result ∧ stopped result := by
  apply loop_result inv (fun last => inv last ∧ stopped last) kept _ fuel state result holds done
  intro current last held leaves
  obtain ⟨same, may⟩ := exits current last leaves
  rw [same]
  exact ⟨held, may⟩

/-- The states that a loop is in before its turns, the first one among them. -/
def Reaches (body : State → State ⊕ Result) : State → State → Prop :=
  Relation.ReflTransGen fun state next => body state = .inl next

theorem ends_unique {state : State} {first second : Result} (one : Ends body state first)
    (other : Ends body state second) : first = second := by
  obtain ⟨fuel, done⟩ := one
  obtain ⟨more, again⟩ := other
  rcases Nat.le_total fuel more with less | less
  · exact Option.some.inj ((loop_more done less).symm.trans again)
  · exact Option.some.inj (done.symm.trans (loop_more again less))

theorem ends_iff_reaches {state : State} {result : Result} :
    Ends body state result ↔ ∃ last, Reaches body state last ∧ body last = .inr result := by
  constructor
  · rintro ⟨fuel, done⟩
    induction fuel generalizing state with
    | zero => cases done
    | succ fuel ih =>
        cases taken : body state with
        | inl next =>
            rw [loop_turn fuel taken] at done
            obtain ⟨last, later, leaves⟩ := ih done
            exact ⟨last, .head taken later, leaves⟩
        | inr left =>
            rw [loop_exit fuel taken] at done
            cases done
            exact ⟨state, .refl, taken⟩
  · rintro ⟨last, reached, leaves⟩
    induction reached using Relation.ReflTransGen.head_induction_on with
    | refl => exact ends_exit leaves
    | head goes _ ih => exact ends_step goes ih

theorem loop_of_variant (body : State → State ⊕ Result) (variant : State → Nat)
    (lowers : ∀ state next, body state = .inl next → variant next < variant state) (fuel : Nat)
    (state : State) (enough : variant state < fuel) : ∃ result, loop body fuel state = some result := by
  induction fuel generalizing state with
  | zero => exact absurd enough (Nat.not_lt_zero _)
  | succ fuel ih =>
      cases turn : body state with
      | inl next =>
          have lower := lowers state next turn
          obtain ⟨result, done⟩ := ih next (by omega)
          exact ⟨result, (loop_turn fuel turn).trans done⟩
      | inr result => exact ⟨result, loop_exit fuel turn⟩

theorem ends_of_variant (body : State → State ⊕ Result) (inv : State → Prop) (variant : State → Nat)
    (lowers : ∀ state next, inv state → body state = .inl next →
      inv next ∧ variant next < variant state)
    (state : State) (holds : inv state) : ∃ result, Ends body state result := by
  generalize bound : variant state = n
  induction n using Nat.strongRecOn generalizing state with
  | ind n ih =>
      cases taken : body state with
      | inr result => exact ⟨result, ends_exit taken⟩
      | inl next =>
          obtain ⟨kept, lower⟩ := lowers state next holds taken
          obtain ⟨result, rest⟩ := ih (variant next) (bound ▸ lower) next kept rfl
          exact ⟨result, ends_step taken rest⟩

/-- A variant in any well-founded order bounds the turns. -/
theorem ends_of_well_founded {Measure : Type} {lower : Measure → Measure → Prop}
    (wellFounded : WellFounded lower) (body : State → State ⊕ Result) (inv : State → Prop)
    (variant : State → Measure)
    (lowers : ∀ state next, inv state → body state = .inl next →
      inv next ∧ lower (variant next) (variant state))
    (state : State) (holds : inv state) : ∃ result, Ends body state result := by
  generalize bound : variant state = measure
  induction measure using wellFounded.induction generalizing state with
  | h measure ih =>
      cases taken : body state with
      | inr result => exact ⟨result, ends_exit taken⟩
      | inl next =>
          obtain ⟨kept, lower⟩ := lowers state next holds taken
          obtain ⟨result, rest⟩ := ih (variant next) (bound ▸ lower) next kept rfl
          exact ⟨result, ends_step taken rest⟩

/-- An invariant under which the body always goes on: no fuel is enough. -/
theorem diverges (inv : State → Prop)
    (goes : ∀ state, inv state → ∃ next, body state = .inl next ∧ inv next)
    (state : State) (holds : inv state) (fuel : Nat) : loop body fuel state = none := by
  induction fuel generalizing state with
  | zero => rfl
  | succ fuel ih =>
      obtain ⟨next, taken, kept⟩ := goes state holds
      rw [loop, taken]
      exact ih next kept

end GameBook.WhileLoop
