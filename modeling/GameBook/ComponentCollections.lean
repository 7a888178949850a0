import GameBook.OrderedMap

/-!
The components of one type, component_collections.cpp: those that systems
iterate, those added since the last `Swap`, and the serial numbers to remove.
An object is named by a number; the loop of `Swap` is cut into its turns, since
`ComponentBackToPool` may append to the list it walks.
-/

namespace GameBook

open OrderedMap Std

structure ComponentCollections where
  objs : Table Nat Nat
  addObjs : Table Nat Nat
  removeObjs : List Nat

namespace ComponentCollections

def newCollections : ComponentCollections := ⟨∅, ∅, []⟩

/-- `Add`; a repeated serial number is only logged. -/
def add (collections : ComponentCollections) (sn object : Nat) : ComponentCollections :=
  if sn ∈ collections.objs ∨ sn ∈ collections.addObjs then collections
  else { collections with addObjs := collections.addObjs.insert sn object }

def begin (table : Table Nat Nat) : Option Nat := table.toList.head?.map Prod.snd

def get (collections : ComponentCollections) (sn : Nat) : Option Nat :=
  if sn = 0 then (begin collections.objs).or (begin collections.addObjs)
  else (collections.objs[sn]?).or collections.addObjs[sn]?

def remove (collections : ComponentCollections) (sn : Nat) : ComponentCollections :=
  { collections with removeObjs := collections.removeObjs ++ [sn] }

/-- The first half of `Swap`: `insert` keeps the entries of `_objs`. -/
def moveAdds (collections : ComponentCollections) : ComponentCollections :=
  { collections with objs := collections.addObjs ∪ collections.objs, addObjs := ∅ }

/-- A turn of the second half is done with the first number of the list. -/
def dropRemoval (collections : ComponentCollections) : ComponentCollections :=
  { collections with removeObjs := collections.removeObjs.tail }

def eraseObj (collections : ComponentCollections) (sn : Nat) : ComponentCollections :=
  { collections with objs := collections.objs.erase sn }

/-! ### What a collection holds -/

/-- The object under a serial number, whether `Swap` has seen it yet or not. -/
def held (collections : ComponentCollections) (sn : Nat) : Option Nat :=
  (collections.objs[sn]?).or collections.addObjs[sn]?

theorem get_held (collections : ComponentCollections) (sn : Nat) (numbered : sn ≠ 0) :
    get collections sn = held collections sn := by
  rw [get, if_neg numbered, held]

@[simp] theorem held_new (sn : Nat) : held newCollections sn = none := by
  simp [held, newCollections]

@[simp] theorem held_remove (collections : ComponentCollections) (sn other : Nat) :
    held (remove collections sn) other = held collections other := rfl

@[simp] theorem held_drop_removal (collections : ComponentCollections) (sn : Nat) :
    held (dropRemoval collections) sn = held collections sn := rfl

@[simp] theorem held_move_adds (collections : ComponentCollections) (sn : Nat) :
    held (moveAdds collections) sn = held collections sn := by
  simp only [held, moveAdds, ExtTreeMap.getElem?_union, ExtTreeMap.getElem?_empty, Option.or_none]

theorem held_none {collections : ComponentCollections} {sn : Nat} :
    held collections sn = none ↔ sn ∉ collections.objs ∧ sn ∉ collections.addObjs := by
  rw [held, Option.or_eq_none_iff, get_none_iff, get_none_iff]

theorem held_add (collections : ComponentCollections) (sn object other : Nat)
    (fresh : held collections sn = none) :
    held (add collections sn object) other =
      if other = sn then some object else held collections other := by
  have absent := held_none.mp fresh
  have passes : ¬ (sn ∈ collections.objs ∨ sn ∈ collections.addObjs) := by
    rintro (found | found)
    · exact absent.1 found
    · exact absent.2 found
  rw [add, if_neg passes]
  simp only [held, get_insert]
  by_cases same : other = sn
  · subst same
    simp [absent.1]
  · simp [same]

def Apart (collections : ComponentCollections) : Prop :=
  ∀ sn, sn ∈ collections.objs → sn ∉ collections.addObjs

theorem apart_new : Apart newCollections := by
  intro sn _ added
  exact ExtTreeMap.not_mem_empty added

theorem apart_add (collections : ComponentCollections) (sn object : Nat)
    (apart : Apart collections) : Apart (add collections sn object) := by
  unfold add
  split
  · exact apart
  · rename_i passes
    intro other inside added
    rcases (mem_insert_iff _ _ _ _).mp added with same | earlier
    · exact passes (Or.inl (same ▸ inside))
    · exact apart other inside earlier

theorem apart_remove (collections : ComponentCollections) (sn : Nat) (apart : Apart collections) :
    Apart (remove collections sn) := apart

theorem apart_move_adds (collections : ComponentCollections) : Apart (moveAdds collections) := by
  intro sn _ added
  exact ExtTreeMap.not_mem_empty added

theorem apart_erase (collections : ComponentCollections) (sn : Nat) (apart : Apart collections) :
    Apart (eraseObj (dropRemoval collections) sn) := by
  intro other inside
  exact apart other ((mem_erase_iff _ _ _).mp inside).2

theorem held_erase (collections : ComponentCollections) (sn other : Nat) (apart : Apart collections)
    (inside : sn ∈ collections.objs) :
    held (eraseObj (dropRemoval collections) sn) other =
      if other = sn then none else held collections other := by
  simp only [held, eraseObj, dropRemoval, get_erase]
  by_cases same : other = sn
  · subst same
    simp [get_none_iff.mpr (apart other inside)]
  · simp [same]

end ComponentCollections

end GameBook
