import Mathlib.Order.Basic
import Mathlib.Order.Defs.LinearOrder
import Mathlib.Data.List.Perm.Basic
import Mathlib.Order.Lattice
import Mathlib.Algebra.Order.Sub.Basic
import Mathlib.Algebra.Order.Ring.Nat

/-!
The heap algorithms of the C++ library on an array: `push_heap`, `pop_heap` and
`make_heap` for a comparison that puts the least key in front. Each is given by
what it promises: the entries are permuted and the order of the heap holds
after it. Entries of equal keys stand in no particular order.
-/

namespace GameBook.BinaryHeap

variable {Entry Key : Type} [LinearOrder Key] (key : Entry → Key)

/-- No entry comes before its parent. -/
def Ordered (heap : Array Entry) : Prop :=
  ∀ child (bound : child < heap.size), 0 < child → key heap[(child - 1) / 2] ≤ key heap[child]

def siftUp (heap : Array Entry) (child : Nat) (bound : child < heap.size) : Array Entry :=
  if earlier : 0 < child ∧ key heap[child] < key heap[(child - 1) / 2] then
    siftUp (heap.swap child ((child - 1) / 2)) ((child - 1) / 2) (by simp; omega)
  else heap
termination_by child

/-- The one of two children that does not come after the other. -/
def earlierChild (heap : Array Entry) (parent : Nat) (bound : 2 * parent + 1 < heap.size) : Nat :=
  if both : 2 * parent + 2 < heap.size then
    if key heap[2 * parent + 2] < key heap[2 * parent + 1] then 2 * parent + 2 else 2 * parent + 1
  else 2 * parent + 1

theorem earlier_child_cases (heap : Array Entry) (parent : Nat)
    (bound : 2 * parent + 1 < heap.size) :
    earlierChild key heap parent bound = 2 * parent + 1 ∨
      earlierChild key heap parent bound = 2 * parent + 2 ∧ 2 * parent + 2 < heap.size := by
  unfold earlierChild
  split
  · split
    · exact .inr ⟨rfl, by assumption⟩
    · exact .inl rfl
  · exact .inl rfl

theorem earlier_child_bound (heap : Array Entry) (parent : Nat)
    (bound : 2 * parent + 1 < heap.size) : earlierChild key heap parent bound < heap.size := by
  have cases := earlier_child_cases key heap parent bound
  omega

def siftDown (heap : Array Entry) (parent : Nat) (bound : parent < heap.size) : Array Entry :=
  if inner : 2 * parent + 1 < heap.size then
    have child := earlier_child_bound key heap parent inner
    if key heap[earlierChild key heap parent inner] < key heap[parent] then
      siftDown (heap.swap parent (earlierChild key heap parent inner))
        (earlierChild key heap parent inner) (by simpa using child)
    else heap
  else heap
termination_by heap.size - parent
decreasing_by
  have cases := earlier_child_cases key heap parent inner
  simp only [Array.size_swap]
  omega

def pushHeap (heap : Array Entry) : Array Entry :=
  if some : 0 < heap.size then siftUp key heap (heap.size - 1) (by omega) else heap

def popHeap (heap : Array Entry) : Array Entry :=
  if more : 1 < heap.size then
    (siftDown key (heap.swap 0 (heap.size - 1)).pop 0 (by simp; omega)).push heap[0]
  else heap

/-- The heaps below the first `count` entries are joined, the last one first. -/
def makeFrom : Nat → Array Entry → Array Entry
  | 0, heap => heap
  | parent + 1, heap =>
      if bound : parent < heap.size then makeFrom parent (siftDown key heap parent bound)
      else makeFrom parent heap

def makeHeap (heap : Array Entry) : Array Entry := makeFrom key (heap.size / 2) heap

theorem sift_up_perm (heap : Array Entry) (child : Nat) (bound : child < heap.size) :
    (siftUp key heap child bound).Perm heap := by
  fun_induction siftUp key heap child bound with
  | case1 heap child bound earlier ih => exact ih.trans (Array.swap_perm _ _)
  | case2 => exact Array.Perm.refl _

theorem sift_down_perm (heap : Array Entry) (parent : Nat) (bound : parent < heap.size) :
    (siftDown key heap parent bound).Perm heap := by
  fun_induction siftDown key heap parent bound with
  | case1 heap parent bound inner child earlier ih => exact ih.trans (Array.swap_perm _ _)
  | case2 => exact Array.Perm.refl _
  | case3 => exact Array.Perm.refl _

/-- Only the pair of `hole` and its parent may be out of order. -/
structure RisesTo (heap : Array Entry) (hole : Nat) : Prop where
  apart : ∀ child (bound : child < heap.size), 0 < child → child ≠ hole →
    key heap[(child - 1) / 2] ≤ key heap[child]
  across : ∀ child (bound : child < heap.size), 0 < child → (child - 1) / 2 = hole → 0 < hole →
    key heap[((child - 1) / 2 - 1) / 2] ≤ key heap[child]

theorem rises_swap {heap : Array Entry} {hole : Nat} (rises : RisesTo key heap hole)
    (bound : hole < heap.size) (inner : 0 < hole)
    (earlier : key heap[hole] < key heap[(hole - 1) / 2]) :
    RisesTo key (heap.swap hole ((hole - 1) / 2)) ((hole - 1) / 2) := by
  constructor
  · intro child below positive other
    have held := rises.apart child (by simpa using below) positive
    have crossed := rises.across child (by simpa using below) positive
    grind
  · intro child below positive under above
    have held := rises.apart child (by simpa using below) positive
    have upper := rises.apart ((hole - 1) / 2) (by omega) above (by omega)
    grind

theorem sift_up_ordered (heap : Array Entry) (child : Nat) (bound : child < heap.size)
    (rises : RisesTo key heap child) : Ordered key (siftUp key heap child bound) := by
  fun_induction siftUp key heap child bound with
  | case1 heap child bound earlier ih =>
      exact ih (rises_swap key rises bound earlier.1 earlier.2)
  | case2 heap child bound late =>
      intro other below positive
      by_cases same : other = child
      · subst same
        exact not_lt.mp fun earlier => late ⟨positive, earlier⟩
      · exact rises.apart other below positive same

structure SinksFrom (low : Nat) (heap : Array Entry) (hole : Nat) : Prop where
  inside : low ≤ hole
  apart : ∀ child (bound : child < heap.size), 0 < child → low ≤ (child - 1) / 2 →
    (child - 1) / 2 ≠ hole → key heap[(child - 1) / 2] ≤ key heap[child]
  across : ∀ child (bound : child < heap.size), 0 < child → (child - 1) / 2 = hole → 0 < hole →
    low ≤ (hole - 1) / 2 → key heap[((child - 1) / 2 - 1) / 2] ≤ key heap[child]

def OrderedFrom (low : Nat) (heap : Array Entry) : Prop :=
  ∀ child (bound : child < heap.size), 0 < child → low ≤ (child - 1) / 2 →
    key heap[(child - 1) / 2] ≤ key heap[child]

theorem ordered_from_zero (heap : Array Entry) : OrderedFrom key 0 heap ↔ Ordered key heap := by
  constructor
  · intro ordered child bound positive
    exact ordered child bound positive (Nat.zero_le _)
  · intro ordered child bound positive _
    exact ordered child bound positive

theorem earlier_child_least (heap : Array Entry) (parent : Nat)
    (inner : 2 * parent + 1 < heap.size) (child : Nat) (bound : child < heap.size)
    (positive : 0 < child) (under : (child - 1) / 2 = parent)
    (chosen : earlierChild key heap parent inner < heap.size) :
    key heap[earlierChild key heap parent inner] ≤ key heap[child] := by
  have left : child = 2 * parent + 1 ∨ child = 2 * parent + 2 := by omega
  unfold earlierChild
  grind

theorem sinks_swap {low : Nat} {heap : Array Entry} {hole : Nat}
    (sinks : SinksFrom key low heap hole) (bound : hole < heap.size) (next : Nat) (below : next < heap.size)
    (under : (next - 1) / 2 = hole) (positive : 0 < next)
    (least : ∀ child (bound : child < heap.size), 0 < child → (child - 1) / 2 = hole →
      key heap[next] ≤ key heap[child])
    (earlier : key heap[next] < key heap[hole]) :
    SinksFrom key low (heap.swap hole next) next := by
  have inside := sinks.inside
  constructor
  · omega
  · intro child short above within other
    have held := sinks.apart child (by simpa using short) above within
    have crossed := sinks.across next below positive under
    have first := least child (by simpa using short) above
    grind
  · intro child short above onto nonzero within
    have held := sinks.apart child (by simpa using short) above (by omega) (by omega)
    grind

theorem sift_down_ordered (low : Nat) (heap : Array Entry) (parent : Nat)
    (bound : parent < heap.size) (sinks : SinksFrom key low heap parent) :
    OrderedFrom key low (siftDown key heap parent bound) := by
  fun_induction siftDown key heap parent bound with
  | case1 heap parent bound inner child earlier ih =>
      have which := earlier_child_cases key heap parent inner
      apply ih
      apply sinks_swap key sinks bound _ child (by omega) (by omega) _ earlier
      intro other short positive under
      exact earlier_child_least key heap parent inner other short positive under child
  | case2 heap parent bound inner child late =>
      intro other short positive within
      by_cases under : (other - 1) / 2 = parent
      · have least := earlier_child_least key heap parent inner other short positive under child
        simp only [under]
        exact (not_lt.mp late).trans least
      · exact sinks.apart other short positive within under
  | case3 heap parent bound leaf =>
      intro other short positive within
      exact sinks.apart other short positive within (by omega)

theorem front_least {heap : Array Entry} (ordered : Ordered key heap) (child : Nat)
    (bound : child < heap.size) : key heap[0] ≤ key heap[child] := by
  induction child using Nat.strongRecOn with
  | ind child ih =>
      by_cases front : child = 0
      · simp [front]
      · have above := ih ((child - 1) / 2) (by omega) (by omega)
        exact above.trans (ordered child bound (by omega))

theorem front_least_of_mem {heap : Array Entry} (ordered : Ordered key heap) {entry : Entry}
    (held : entry ∈ heap) (some : 0 < heap.size) : key heap[0] ≤ key entry := by
  obtain ⟨child, bound, rfl⟩ := Array.mem_iff_getElem.mp held
  exact front_least key ordered child bound

theorem push_heap_perm (heap : Array Entry) : (pushHeap key heap).Perm heap := by
  unfold pushHeap
  split
  · exact sift_up_perm key heap _ _
  · exact Array.Perm.refl _

theorem push_heap_ordered {heap : Array Entry} (ordered : Ordered key heap) (entry : Entry) :
    Ordered key (pushHeap key (heap.push entry)) := by
  unfold pushHeap
  split
  · apply sift_up_ordered
    constructor
    · intro child bound positive other
      have held := ordered child
      grind
    · intro child bound positive under
      have last : child < heap.size + 1 := by simpa using bound
      have whole : (heap.push entry).size - 1 = heap.size := by simp
      omega
  · exact absurd (by simp) ‹¬0 < (heap.push entry).size›

theorem make_from_perm (count : Nat) (heap : Array Entry) : (makeFrom key count heap).Perm heap := by
  fun_induction makeFrom key count heap with
  | case1 heap => exact Array.Perm.refl _
  | case2 parent heap bound ih => exact ih.trans (sift_down_perm key heap parent bound)
  | case3 parent heap outside ih => exact ih

theorem make_from_ordered (count : Nat) (heap : Array Entry) (ordered : OrderedFrom key count heap) :
    Ordered key (makeFrom key count heap) := by
  fun_induction makeFrom key count heap with
  | case1 heap => exact (ordered_from_zero key heap).mp ordered
  | case2 parent heap bound ih =>
      apply ih
      apply sift_down_ordered
      constructor
      · exact Nat.le_refl parent
      · intro child short positive within other
        exact ordered child short positive (by omega)
      · intro child short positive under nonzero within
        omega
  | case3 parent heap outside ih =>
      apply ih
      intro child short positive within
      omega

theorem make_heap_perm (heap : Array Entry) : (makeHeap key heap).Perm heap :=
  make_from_perm key _ heap

theorem make_heap_ordered (heap : Array Entry) : Ordered key (makeHeap key heap) := by
  apply make_from_ordered
  intro child bound positive within
  omega

/-- `pop_heap` followed by `back` and `pop_back`: the front leaves the heap. -/
theorem pop_heap_spec {heap : Array Entry} (ordered : Ordered key heap) (some : 0 < heap.size) :
    (popHeap key heap).back? = heap[0]? ∧ Ordered key (popHeap key heap).pop ∧
      ((popHeap key heap).pop.push heap[0]).Perm heap := by
  unfold popHeap
  split
  · rename_i more
    have moved : ((heap.swap 0 (heap.size - 1)).pop.push heap[0]).Perm heap := by
      have whole : (heap.swap 0 (heap.size - 1)).pop.push heap[0] = heap.swap 0 (heap.size - 1) := by
        apply Array.ext
        · simp; omega
        · intro place first second
          grind
      simp only [whole]
      exact Array.swap_perm _ _
    refine ⟨by simp, ?_, ?_⟩
    · simp only [Array.pop_push]
      apply (ordered_from_zero key _).mp
      apply sift_down_ordered
      constructor
      · exact Nat.le_refl 0
      · intro child bound positive _ other
        have held := ordered child (by simp at bound; omega) positive
        grind
      · intro child bound positive _ nonzero
        omega
    · simp only [Array.pop_push]
      exact ((sift_down_perm key _ _ _).push heap[0]).trans moved
  · have single : heap = #[heap[0]] := by
      apply Array.ext
      · simp; omega
      · intro place first second
        have front : place = 0 := by omega
        simp [front]
    refine ⟨?_, ?_, ?_⟩
    · simp [Array.back?_eq_getElem?, show heap.size - 1 = 0 by omega]
    · intro child bound
      simp only [Array.size_pop] at bound
      omega
    · have empty : heap.pop = #[] := by
        apply Array.eq_empty_of_size_eq_zero
        simp only [Array.size_pop]
        omega
      simp only [empty]
      exact .of_eq single.symm

end GameBook.BinaryHeap
