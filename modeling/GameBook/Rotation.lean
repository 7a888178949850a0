import Mathlib.Data.List.Induction
import Mathlib.Data.List.Nodup

/-!
A cursor that goes round a list: it is looked up, the front is taken where it is
not found, and it moves to the item behind, or to the front at the end. The
visits made are the items in turn, so that no item is more than one visit ahead
of another.
-/

namespace GameBook.Rotation

universe u
variable {Item : Type u}

/-- The visits are the items in turn, from the front. -/
def Rotates (items visits : List Item) : Prop :=
  ∀ (turn : Nat) (item : Item), visits[turn]? = some item → items[turn % items.length]? = some item

theorem rotates_nil (items : List Item) : Rotates items [] := by
  intro turn item here
  cases here

theorem rotates_snoc {items visits : List Item} {item : Item} (rotates : Rotates items visits)
    (next : items[visits.length % items.length]? = some item) : Rotates items (visits ++ [item]) := by
  intro turn other here
  by_cases earlier : turn < visits.length
  · rw [List.getElem?_append_left earlier] at here
    exact rotates turn other here
  · have last : turn = visits.length := by
      have bound := (List.getElem?_eq_some_iff.mp here).1
      simp only [List.length_append, List.length_singleton] at bound
      omega
    subst last
    rw [List.getElem?_append_right (Nat.le_refl _), Nat.sub_self] at here
    cases here
    exact next

theorem succ_div_mod (count size : Nat) (positive : 0 < size) :
    (count % size + 1 = size ∧ (count + 1) / size = count / size + 1 ∧ (count + 1) % size = 0) ∨
    (count % size + 1 < size ∧ (count + 1) / size = count / size ∧
      (count + 1) % size = count % size + 1) := by
  have small := Nat.mod_lt count positive
  have parts := Nat.div_add_mod count size
  by_cases last : count % size + 1 = size
  · left
    have next : count + 1 = size * (count / size + 1) := by
      rw [Nat.mul_add, Nat.mul_one]
      omega
    exact ⟨last, by rw [next, Nat.mul_div_cancel_left _ positive], by rw [next, Nat.mul_mod_right]⟩
  · right
    have below : count % size + 1 < size := by omega
    have next : count + 1 = (count % size + 1) + size * (count / size) := by omega
    refine ⟨below, ?_, ?_⟩
    · rw [next, Nat.add_mul_div_left _ _ positive, Nat.div_eq_of_lt below, Nat.zero_add]
    · rw [next, Nat.add_mul_mod_self_left, Nat.mod_eq_of_lt below]

variable [DecidableEq Item]

def current (items : List Item) (filled : items ≠ []) (cursor : Item) : Item :=
  if cursor ∈ items then cursor else items.head filled

def following (items : List Item) (filled : items ≠ []) (item : Item) : Item :=
  (items[items.idxOf item + 1]?).getD (items.head filled)

theorem current_mem (items : List Item) (filled : items ≠ []) (cursor : Item) :
    current items filled cursor ∈ items := by
  unfold current
  split
  · assumption
  · exact List.head_mem filled

omit [DecidableEq Item] in
theorem head_at (items : List Item) (filled : items ≠ []) : items[0]? = some (items.head filled) := by
  cases items with
  | nil => exact absurd rfl filled
  | cons first rest => rfl

def Points (items : List Item) (filled : items ≠ []) (turn : Nat) (cursor : Item) : Prop :=
  items[turn % items.length]? = some (current items filled cursor)

theorem points_start (items : List Item) (filled : items ≠ []) (cursor : Item)
    (outside : cursor ∈ items → cursor = items.head filled) : Points items filled 0 cursor := by
  rw [Points, Nat.zero_mod, head_at items filled]
  unfold current
  split
  · rename_i inside
    rw [outside inside]
  · rfl

theorem points_next {items : List Item} {filled : items ≠ []} {turn : Nat} {cursor : Item}
    (distinct : items.Nodup) (points : Points items filled turn cursor) :
    Points items filled (turn + 1) (following items filled (current items filled cursor)) := by
  have positive : 0 < items.length := List.length_pos_iff.mpr filled
  have place : items.idxOf (current items filled cursor) = turn % items.length := by
    obtain ⟨bound, here⟩ := List.getElem?_eq_some_iff.mp points
    rw [← here]
    exact distinct.idxOf_getElem _ bound
  have behind : items[(turn + 1) % items.length]? =
      some (following items filled (current items filled cursor)) := by
    unfold following
    rw [place]
    rcases succ_div_mod turn items.length positive with ⟨full, -, wraps⟩ | ⟨below, -, moves⟩
    · rw [wraps, full, List.getElem?_eq_none (Nat.le_refl _), head_at items filled]
      rfl
    · rw [moves, List.getElem?_eq_getElem below]
      rfl
  have inside : following items filled (current items filled cursor) ∈ items :=
    List.mem_of_getElem? behind
  have stays : current items filled (following items filled (current items filled cursor)) =
      following items filled (current items filled cursor) := if_pos inside
  rw [Points, stays]
  exact behind

end GameBook.Rotation
