import Mathlib.Data.List.Forall2
import Mathlib.Data.List.ReduceOption

/-!
Stages that things pass through in order. A stage turns each thing it takes
into one thing or into nothing; what it has not taken yet waits inside. The
rules say how stages follow one another.
-/

namespace GameBook.Relays

universe u v w
variable {Item : Type u} {Middle : Type v} {Out : Type w}

/-- The things that were taken and, in their order, what became of them. -/
def Carried (turns : Item → Option Out → Prop) (taken : List Item) (out : List Out) : Prop :=
  ∃ results, List.Forall₂ turns taken results ∧ out = results.reduceOption

def Relayed (turns : Item → Option Out → Prop) (came : List Item) (out : List Out) : Prop :=
  ∃ taken waiting, came = taken ++ waiting ∧ Carried turns taken out

def Then (first : Item → Option Middle → Prop) (second : Middle → Option Out → Prop) :
    Item → Option Out → Prop :=
  fun item out => ∃ middle, first item middle ∧
    match middle with
    | none => out = none
    | some thing => second thing out

variable {turns : Item → Option Out → Prop}

theorem carried_nil : Carried turns [] [] := ⟨[], List.Forall₂.nil, rfl⟩

theorem carried_append {first second : List Item} {one two : List Out}
    (left : Carried turns first one) (right : Carried turns second two) :
    Carried turns (first ++ second) (one ++ two) := by
  obtain ⟨early, earlyTurned, rfl⟩ := left
  obtain ⟨late, lateTurned, rfl⟩ := right
  exact ⟨early ++ late, List.rel_append earlyTurned lateTurned,
    (List.reduceOption_append early late).symm⟩

theorem carried_one {item : Item} {result : Option Out} (turned : turns item result) :
    Carried turns [item] result.toList := by
  refine ⟨[result], List.Forall₂.cons turned List.Forall₂.nil, ?_⟩
  cases result <;> rfl

theorem carried_each {relates : Item → Out → Prop} {taken : List Item} {out : List Out}
    (related : List.Forall₂ relates taken out) :
    Carried (fun item result => ∃ thing, relates item thing ∧ result = some thing) taken out := by
  refine ⟨out.map some, ?_, by simp [List.reduceOption]⟩
  induction related with
  | nil => exact List.Forall₂.nil
  | cons head _ ih => exact List.Forall₂.cons ⟨_, head, rfl⟩ ih

theorem carried_mono {other : Item → Option Out → Prop}
    (implies : ∀ item out, turns item out → other item out) {taken : List Item} {out : List Out}
    (carried : Carried turns taken out) : Carried other taken out := by
  obtain ⟨results, turned, rfl⟩ := carried
  exact ⟨results, turned.imp implies, rfl⟩

theorem carried_split (one : List Out) {two : List Out} {taken : List Item}
    (carried : Carried turns taken (one ++ two)) :
    ∃ first second, taken = first ++ second ∧ Carried turns first one ∧ Carried turns second two := by
  obtain ⟨results, turned, out⟩ := carried
  induction turned generalizing one with
  | nil =>
      obtain ⟨rfl, rfl⟩ := List.append_eq_nil_iff.mp out
      exact ⟨[], [], rfl, carried_nil, carried_nil⟩
  | @cons item result rest results head tail ih =>
      cases result with
      | none =>
          obtain ⟨first, second, rfl, left, right⟩ := ih one out
          exact ⟨item :: first, second, rfl, carried_append (carried_one head) left, right⟩
      | some thing =>
          cases one with
          | nil =>
              refine ⟨[], item :: rest, rfl, carried_nil, some thing :: results, ?_, out⟩
              exact List.Forall₂.cons head tail
          | cons made others =>
              rw [List.reduceOption_cons_of_some, List.cons_append, List.cons.injEq] at out
              obtain ⟨rfl, out⟩ := out
              obtain ⟨first, second, rfl, left, right⟩ := ih others out
              exact ⟨item :: first, second, rfl, carried_append (carried_one head) left, right⟩

variable {first : Item → Option Middle → Prop} {second : Middle → Option Out → Prop}

theorem carried_then {taken : List Item} {middle : List Middle} {out : List Out}
    (left : Carried first taken middle) (right : Carried second middle out) :
    Carried (Then first second) taken out := by
  obtain ⟨results, turned, rfl⟩ := left
  induction turned generalizing out with
  | nil =>
      obtain ⟨finals, turned, rfl⟩ := right
      cases turned
      exact carried_nil
  | @cons item result rest results head tail ih =>
      cases result with
      | none =>
          have one : Then first second item none := ⟨none, head, rfl⟩
          exact carried_append (carried_one one) (ih right)
      | some thing =>
          rw [List.reduceOption_cons_of_some] at right
          obtain ⟨finals, turned, rfl⟩ := right
          cases turned with
          | @cons _ final _ finals last others =>
              have one : Then first second item final := ⟨some thing, head, last⟩
              have both := carried_append (carried_one one) (ih ⟨finals, others, rfl⟩)
              cases final <;> exact both

theorem relayed_of_carried {came : List Item} {out : List Out} (carried : Carried turns came out) :
    Relayed turns came out :=
  ⟨came, [], (List.append_nil came).symm, carried⟩

theorem relayed_then {came : List Item} {middle : List Middle} {out : List Out}
    (left : Relayed first came middle) (right : Relayed second middle out) :
    Relayed (Then first second) came out := by
  obtain ⟨taken, waiting, rfl, carried⟩ := left
  obtain ⟨done, between, rfl, finished⟩ := right
  obtain ⟨early, late, rfl, through, -⟩ := carried_split done carried
  exact ⟨early, late ++ waiting, List.append_assoc .., carried_then through finished⟩

theorem relayed_mono {other : Item → Option Out → Prop}
    (implies : ∀ item out, turns item out → other item out) {came : List Item} {out : List Out}
    (relayed : Relayed turns came out) : Relayed other came out := by
  obtain ⟨taken, waiting, whole, carried⟩ := relayed
  exact ⟨taken, waiting, whole, carried_mono implies carried⟩

theorem relayed_prefix {came : List Item} {out more : List Out} (relayed : Relayed turns came more)
    (part : out <+: more) : Relayed turns came out := by
  obtain ⟨taken, waiting, rfl, carried⟩ := relayed
  obtain ⟨rest, rfl⟩ := part
  obtain ⟨early, late, rfl, through, -⟩ := carried_split out carried
  exact ⟨early, late ++ waiting, List.append_assoc .., through⟩

end GameBook.Relays
