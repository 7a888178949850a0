import Mathlib.Data.Set.Insert

/-!
Observers that learn the members of a group from notices: who appeared, who
disappeared. New members are announced in batches, a member that leaves is
announced at once or dropped without a word. The rules say when every member
knows the members after the next batch.
-/

namespace GameBook.MemberView

universe u
variable {α : Type u}

inductive Notice (α : Type u) where
  | entered
  | appear (members : List α)
  | disappear (member : α)
  | other

def learn (known : Set α) : Notice α → Set α
  | .entered => ∅
  | .appear members => known ∪ { x | x ∈ members }
  | .disappear member => known \ {member}
  | .other => known

def replay (notices : List (Notice α)) : Set α := notices.foldl learn ∅

theorem replay_append (first second : List (Notice α)) :
    replay (first ++ second) = second.foldl learn (replay first) := by
  unfold replay
  rw [List.foldl_append]

/-- A group: `pending` are new members not announced yet. -/
@[ext] structure Room (α : Type u) where
  members : Set α
  pending : Set α
  view : α → Set α

def Visible (r : Room α) : Prop := ∀ p ∈ r.members, r.view p = r.members

def join (r : Room α) (x : α) : Room α where
  members := r.members ∪ {x}
  pending := r.pending ∪ {x}
  view p := { y | y ∈ r.view p ∧ p ≠ x }

/-- The new members are shown to all members, the others to the new ones. -/
def flush (r : Room α) : Room α where
  members := r.members
  pending := ∅
  view p := { y | y ∈ r.view p ∨
    (p ∈ r.members ∧ y ∈ r.members ∧ (y ∈ r.pending ∨ p ∈ r.pending)) }

theorem flush_idle {r : Room α} (idle : r.pending = ∅) : flush r = r := by
  ext x
  · rfl
  · simp [flush, idle]
  · simp [flush, idle]

def leave (r : Room α) (x : α) : Room α where
  members := r.members \ {x}
  pending := r.pending
  view p := { y | y ∈ r.view p ∧ ¬(y = x ∧ p ∈ r.members ∧ p ≠ x) }

def drop (r : Room α) (gone : Set α) : Room α where
  members := r.members \ gone
  pending := r.pending
  view := r.view

/-- A new member knows nobody, the others know each other. -/
structure Shown (r : Room α) : Prop where
  fresh : ∀ p ∈ r.members, p ∈ r.pending → r.view p = ∅
  settled : ∀ p ∈ r.members, p ∉ r.pending → r.view p = { y | y ∈ r.members ∧ y ∉ r.pending }

/-- What is left of it after members were dropped: nobody knows a member that
is still to be announced. -/
structure Unannounced (r : Room α) : Prop where
  fresh : ∀ p ∈ r.members, p ∈ r.pending → r.view p = ∅
  unknown : ∀ p ∈ r.members, p ∉ r.pending → ∀ y ∈ r.view p, y ∈ r.members → y ∉ r.pending

theorem shown_unannounced {r : Room α} (shown : Shown r) : Unannounced r where
  fresh := shown.fresh
  unknown := by
    intro p member announced y known _
    rw [shown.settled p member announced] at known
    exact known.2

theorem flush_visible {r : Room α} (shown : Shown r) : Visible (flush r) := by
  intro p member
  ext y
  by_cases new : p ∈ r.pending
  · have blank := shown.fresh p member new
    simp only [flush, Set.mem_ofPred_eq, blank, Set.mem_empty_iff_false, false_or]
    exact ⟨fun told => told.2.1, fun other => ⟨member, other, Or.inr new⟩⟩
  · have known := shown.settled p member new
    simp only [flush, Set.mem_ofPred_eq, known]
    constructor
    · rintro (⟨other, -⟩ | ⟨-, other, -⟩)
      · exact other
      · exact other
    · intro other
      by_cases announced : y ∈ r.pending
      · exact Or.inr ⟨member, other, Or.inl announced⟩
      · exact Or.inl ⟨other, announced⟩

theorem shown_of_visible {r : Room α} (kept : Unannounced r) (visible : Visible (flush r)) :
    Shown r where
  fresh := kept.fresh
  settled := by
    intro p member announced
    have same : (flush r).view p = r.members := visible p member
    ext y
    constructor
    · intro known
      have other : y ∈ r.members := by
        rw [← same]
        exact Or.inl known
      exact ⟨other, kept.unknown p member announced y known other⟩
    · rintro ⟨other, shown⟩
      rw [← same] at other
      rcases other with known | ⟨-, -, new | new⟩
      · exact known
      · exact absurd new shown
      · exact absurd new announced

theorem join_shown {r : Room α} {x : α} (new : x ∉ r.members) (shown : Shown r) :
    Shown (join r x) where
  fresh := by
    rintro p (member | rfl) pending
    · have differs : p ≠ x := fun same => new (same ▸ member)
      have old : p ∈ r.pending := pending.resolve_right differs
      ext y
      simp [join, shown.fresh p member old]
    · ext y
      simp [join]
  settled := by
    intro p member announced
    have differs : p ≠ x := fun same => announced (Or.inr same)
    have old : p ∈ r.members := member.resolve_right differs
    have known := shown.settled p old fun pending => announced (Or.inl pending)
    ext y
    simp only [join, Set.mem_ofPred_eq, known, Set.mem_union, Set.mem_singleton_iff]
    constructor
    · rintro ⟨⟨other, shownAlready⟩, -⟩
      refine ⟨Or.inl other, ?_⟩
      rintro (pending | rfl)
      · exact shownAlready pending
      · exact new other
    · rintro ⟨other | rfl, shownAlready⟩
      · exact ⟨⟨other, fun pending => shownAlready (Or.inl pending)⟩, differs⟩
      · exact absurd (Or.inr rfl) shownAlready

theorem flush_shown {r : Room α} (shown : Shown r) : Shown (flush r) where
  fresh := by
    intro p _ pending
    cases pending
  settled := by
    intro p member _
    have visible := flush_visible shown p member
    rw [visible]
    ext y
    simp [flush]

theorem leave_shown {r : Room α} (x : α) (shown : Shown r) : Shown (leave r x) where
  fresh := by
    rintro p ⟨member, -⟩ pending
    ext y
    simp [leave, shown.fresh p member pending]
  settled := by
    rintro p ⟨member, differs⟩ announced
    have known := shown.settled p member announced
    ext y
    simp only [leave, Set.mem_ofPred_eq, known, Set.mem_sdiff, Set.mem_singleton_iff]
    constructor
    · rintro ⟨⟨other, old⟩, stays⟩
      exact ⟨⟨other, fun same => stays ⟨same, member, differs⟩⟩, old⟩
    · rintro ⟨⟨other, stays⟩, old⟩
      exact ⟨⟨other, old⟩, fun left => stays left.1⟩

theorem drop_unannounced {r : Room α} (gone : Set α) (shown : Shown r) :
    Unannounced (drop r gone) where
  fresh := fun p member pending => shown.fresh p member.1 pending
  unknown := by
    intro p member announced y known _
    change y ∈ r.view p at known
    rw [shown.settled p member.1 announced] at known
    exact known.2

theorem drop_visible_iff {r : Room α} (gone : Set α) (shown : Shown r) :
    Visible (flush (drop r gone)) ↔
      ∀ x ∈ r.members, x ∈ gone → ∀ p ∈ r.members, p ∉ gone → x ∈ r.pending ∨ p ∈ r.pending := by
  constructor
  · intro visible x member left p stays remains
    by_contra both
    have old : x ∉ r.pending ∧ p ∉ r.pending := not_or.mp both
    have known : x ∈ r.view p := by
      rw [shown.settled p stays old.2]
      exact ⟨member, old.1⟩
    have same : (flush (drop r gone)).view p = r.members \ gone := visible p ⟨stays, remains⟩
    have still : x ∈ r.members \ gone := by
      rw [← same]
      exact Or.inl known
    exact still.2 left
  · intro covered
    apply flush_visible
    refine ⟨(drop_unannounced gone shown).fresh, ?_⟩
    rintro p ⟨stays, remains⟩ announced
    change r.view p = _
    rw [shown.settled p stays announced]
    ext y
    constructor
    · rintro ⟨member, old⟩
      refine ⟨⟨member, fun left => ?_⟩, old⟩
      exact (covered y member left p stays remains).elim old announced
    · rintro ⟨⟨member, -⟩, old⟩
      exact ⟨member, old⟩

end GameBook.MemberView
