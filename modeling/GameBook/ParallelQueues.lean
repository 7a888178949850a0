import Mathlib.Data.List.Basic
import Mathlib.Logic.Function.Basic

/-!
Queues that are served independently of each other. Every item posted gets the
next number. Where all waiting items that conflict stand in one queue, the items
that conflict leave in the order in which they were posted, whatever queue is
served next.
-/

namespace GameBook.ParallelQueues

variable {Thread Item : Type} [DecidableEq Thread]

structure Queues (Thread Item : Type) where
  waiting : Thread → List (Nat × Item)
  posted : Nat

def empty : Queues Thread Item := ⟨fun _ => [], 0⟩

def post (q : Queues Thread Item) (threads : List Thread) (item : Item) : Queues Thread Item :=
  { waiting := fun thread =>
      if thread ∈ threads then q.waiting thread ++ [(q.posted, item)] else q.waiting thread
    posted := q.posted + 1 }

def take (q : Queues Thread Item) (thread : Thread) : Option ((Nat × Item) × Queues Thread Item) :=
  match q.waiting thread with
  | [] => none
  | head :: rest => some (head, { q with waiting := Function.update q.waiting thread rest })

def Pending (q : Queues Thread Item) (number : Nat) : Prop :=
  ∃ thread, ∃ x ∈ q.waiting thread, x.1 = number

/-- Items that conflict stand in one queue, and every queue is in posting order. -/
structure Ordered (conflicts : Item → Item → Prop) (q : Queues Thread Item) : Prop where
  numbered : ∀ thread, (q.waiting thread).Pairwise fun x y => x.1 < y.1
  posted : ∀ thread, ∀ x ∈ q.waiting thread, x.1 < q.posted
  aligned : ∀ first second, ∀ x ∈ q.waiting first, ∀ y ∈ q.waiting second,
    x.1 ≤ y.1 → conflicts x.2 y.2 → first = second

variable {conflicts : Item → Item → Prop}

omit [DecidableEq Thread] in
theorem empty_ordered : Ordered conflicts (empty : Queues Thread Item) := by
  refine ⟨fun _ => List.Pairwise.nil, ?_, ?_⟩
  · intro thread x member
    cases member
  · intro first second x member
    cases member

theorem mem_post {q : Queues Thread Item} {threads : List Thread} {item : Item} {thread : Thread}
    {x : Nat × Item} (member : x ∈ (post q threads item).waiting thread) :
    x ∈ q.waiting thread ∨ x = (q.posted, item) ∧ thread ∈ threads := by
  unfold post at member
  dsimp only at member
  split at member
  · rename_i target
    rcases List.mem_append.mp member with old | new
    · exact Or.inl old
    · exact Or.inr ⟨List.mem_singleton.mp new, target⟩
  · exact Or.inl member

theorem post_mem {q : Queues Thread Item} {threads : List Thread} {item : Item} {thread : Thread}
    {x : Nat × Item} (member : x ∈ q.waiting thread) :
    x ∈ (post q threads item).waiting thread := by
  unfold post
  dsimp only
  split
  · exact List.mem_append_left _ member
  · exact member

theorem post_ordered {q : Queues Thread Item} {threads : List Thread} {item : Item}
    (ordered : Ordered conflicts q)
    (fits : ∀ thread, ∀ x ∈ q.waiting thread, conflicts x.2 item → ∀ target ∈ threads,
      thread = target)
    (single : conflicts item item → ∀ first ∈ threads, ∀ second ∈ threads, first = second) :
    Ordered conflicts (post q threads item) := by
  constructor
  · intro thread
    unfold post
    dsimp only
    split
    · apply List.pairwise_append.mpr
      refine ⟨ordered.numbered thread, List.pairwise_singleton _ _, ?_⟩
      intro x old y new
      rw [List.mem_singleton.mp new]
      exact ordered.posted thread x old
    · exact ordered.numbered thread
  · intro thread x member
    rcases mem_post member with old | ⟨rfl, _⟩
    · exact Nat.lt_succ_of_lt (ordered.posted thread x old)
    · exact Nat.lt_succ_self _
  · intro first second x left y right order clash
    rcases mem_post left with old | ⟨rfl, target⟩
    · rcases mem_post right with held | ⟨rfl, target⟩
      · exact ordered.aligned first second x old y held order clash
      · exact fits first x old clash second target
    · rcases mem_post right with held | ⟨rfl, other⟩
      · have small := ordered.posted second y held
        omega
      · exact single clash first target second other

theorem pending_post {q : Queues Thread Item} {threads : List Thread} {item : Item} {number : Nat}
    (old : number < q.posted) : Pending (post q threads item) number ↔ Pending q number := by
  constructor
  · rintro ⟨thread, x, member, rfl⟩
    rcases mem_post member with held | ⟨rfl, _⟩
    · exact ⟨thread, x, held, rfl⟩
    · exact absurd old (Nat.lt_irrefl _)
  · rintro ⟨thread, x, member, rfl⟩
    exact ⟨thread, x, post_mem member, rfl⟩

theorem pending_posted (q : Queues Thread Item) {threads : List Thread} (item : Item)
    {target : Thread} (member : target ∈ threads) : Pending (post q threads item) q.posted := by
  refine ⟨target, (q.posted, item), ?_, rfl⟩
  unfold post
  dsimp only
  rw [if_pos member]
  exact List.mem_append_right _ (List.mem_singleton_self _)

/-! ### Serving a queue -/

theorem take_cases {q rest : Queues Thread Item} {thread : Thread} {head : Nat × Item}
    (taken : take q thread = some (head, rest)) :
    q.waiting thread = head :: rest.waiting thread ∧
      (∀ other, other ≠ thread → rest.waiting other = q.waiting other) ∧
      rest.posted = q.posted := by
  unfold take at taken
  split at taken
  · cases taken
  · rename_i first tail front
    cases taken
    refine ⟨?_, ?_, rfl⟩
    · rw [front]
      simp only [Function.update_self]
    · intro other different
      exact Function.update_of_ne different _ _

theorem take_mem {q rest : Queues Thread Item} {thread other : Thread} {head x : Nat × Item}
    (taken : take q thread = some (head, rest)) (member : x ∈ rest.waiting other) :
    x ∈ q.waiting other := by
  obtain ⟨front, others, -⟩ := take_cases taken
  by_cases same : other = thread
  · rw [same, front]
    exact List.mem_cons_of_mem _ (same ▸ member)
  · rw [← others other same]
    exact member

theorem mem_take {q rest : Queues Thread Item} {thread other : Thread} {head x : Nat × Item}
    (taken : take q thread = some (head, rest)) (member : x ∈ q.waiting other) (different : x ≠ head) :
    x ∈ rest.waiting other := by
  obtain ⟨front, others, -⟩ := take_cases taken
  by_cases same : other = thread
  · rw [same, front] at member
    rw [same]
    exact (List.mem_cons.mp member).resolve_left different
  · rw [others other same]
    exact member

theorem take_ordered {q rest : Queues Thread Item} {thread : Thread} {head : Nat × Item}
    (taken : take q thread = some (head, rest)) (ordered : Ordered conflicts q) :
    Ordered conflicts rest := by
  obtain ⟨front, others, count⟩ := take_cases taken
  constructor
  · intro other
    by_cases same : other = thread
    · have all := ordered.numbered thread
      rw [front] at all
      rw [same]
      exact (List.pairwise_cons.mp all).2
    · rw [others other same]
      exact ordered.numbered other
  · intro other x member
    rw [count]
    exact ordered.posted other x (take_mem taken member)
  · intro first second x left y right
    exact ordered.aligned first second x (take_mem taken left) y (take_mem taken right)

theorem head_first {q rest : Queues Thread Item} {thread other : Thread} {head x : Nat × Item}
    (taken : take q thread = some (head, rest)) (ordered : Ordered conflicts q)
    (member : x ∈ rest.waiting other) (clash : conflicts x.2 head.2) : head.1 < x.1 := by
  obtain ⟨front, -, -⟩ := take_cases taken
  have first : head ∈ q.waiting thread := front ▸ List.mem_cons_self
  rcases Nat.lt_or_ge head.1 x.1 with later | earlier
  · exact later
  · have same := ordered.aligned other thread x (take_mem taken member) head first earlier clash
    have all := ordered.numbered thread
    rw [front] at all
    exact (List.pairwise_cons.mp all).1 x (same ▸ member)

end GameBook.ParallelQueues
