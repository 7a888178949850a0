import GameBook.WhileLoop
import GameBook.Segments

/-!
`strutil::split` of util_string.h over any character type. The two indexes are
those of the source: `i` is where the present piece starts and `j` where `find`
saw the next separator, `npos` being `none`.
-/

namespace GameBook.StringSplit

open WhileLoop Segments

variable {α : Type}

def substr (s : List α) (start count : Nat) : List α := (s.drop start).take count

structure State (α : Type) where
  i : Nat
  j : Option Nat
  v : List (List α)

def pushSolid (v : List (List α)) (buf : List α) : List (List α) :=
  if 0 < buf.length then v ++ [buf] else v

theorem push_solid_eq (v : List (List α)) (buf : List α) : pushSolid v buf = v ++ kept buf := by
  cases buf <;> simp [pushSolid, kept]

theorem substr_piece (front piece rest : List α) :
    substr (front ++ (piece ++ rest)) front.length piece.length = piece := by
  rw [substr, List.drop_left, List.take_left]

variable [DecidableEq α]

def find (s : List α) (c : α) (start : Nat) : Option Nat :=
  ((s.drop start).findIdx? (· = c)).map (start + ·)

/-- One test of the loop's condition and what follows it; the tail case comes
after the last. -/
def splitTurn (s : List α) (c : α) (state : State α) : State α ⊕ List (List α) :=
  match state.j with
  | some j =>
      -- `i = ++j; j = s.find(c, j)`
      .inl ⟨j + 1, find s c (j + 1), pushSolid state.v (substr s state.i (j - state.i))⟩
  | none => .inr (pushSolid state.v (substr s state.i (s.length - state.i)))

def split (s : List α) (c : α) (v : List (List α)) (fuel : Nat) : Option (List (List α)) :=
  if s.length = 0 then some v
  else loop (splitTurn s c) fuel ⟨0, find s c 0, v⟩

def Splits (s : List α) (c : α) (v after : List (List α)) : Prop :=
  ∃ fuel, split s c v fuel = some after

/-! ### A turn at the end of what has been read -/

variable {c : α} (front : List α)

theorem find_absent {piece : List α} (absent : c ∉ piece) :
    find (front ++ piece) c front.length = none := by
  rw [find, List.drop_left, List.findIdx?_eq_none_iff.mpr, Option.map_none]
  intro character member
  exact decide_eq_false fun same => absent (same ▸ member)

theorem find_separator {piece : List α} (absent : c ∉ piece) (tail : List α) :
    find (front ++ (piece ++ c :: tail)) c front.length = some (front.length + piece.length) := by
  have index : (piece ++ c :: tail).findIdx? (· = c) = some piece.length := by
    rw [List.findIdx?_eq_some_iff_getElem]
    refine ⟨by simp, by simp, ?_⟩
    intro position before separator
    rw [List.getElem_append_left before] at separator
    exact absent (of_decide_eq_true separator ▸ List.getElem_mem before)
  rw [find, List.drop_left, index, Option.map_some]

theorem split_from (s : List α) (v : List (List α)) :
    Ends (splitTurn (front ++ s) c) ⟨front.length, find (front ++ s) c front.length, v⟩
      (v ++ segments c s) := by
  induction s using split_induction (c := c) generalizing front v with
  | last piece absent =>
      apply ends_exit
      have whole : (front ++ piece).length - front.length = piece.length := by
        rw [List.length_append, Nat.add_sub_cancel_left]
      have piece_of := substr_piece front piece []
      rw [List.append_nil] at piece_of
      rw [find_absent front absent, segments_last absent]
      simp only [splitTurn, whole, piece_of, push_solid_eq]
  | next piece tail absent ih =>
      have further := ih (front ++ piece ++ [c]) (v ++ kept piece)
      have same : front ++ piece ++ [c] ++ tail = front ++ (piece ++ c :: tail) := by simp
      have start : (front ++ piece ++ [c]).length = front.length + piece.length + 1 := by
        simp only [List.length_append, List.length_singleton]
      rw [same, start, List.append_assoc v, ← segments_next absent] at further
      refine ends_step ?_ further
      rw [find_separator front absent]
      simp only [splitTurn, Nat.add_sub_cancel_left, substr_piece, push_solid_eq]

theorem splits_segments (s : List α) (c : α) (v : List (List α)) :
    Splits s c v (v ++ segments c s) := by
  by_cases empty : s.length = 0
  · refine ⟨0, ?_⟩
    rw [List.length_eq_zero_iff.mp empty, segments_last List.not_mem_nil]
    simp [split, kept]
  · obtain ⟨fuel, ends⟩ := split_from [] s (c := c) v
    refine ⟨fuel, ?_⟩
    rw [split, if_neg empty]
    exact ends

theorem splits_unique {s : List α} {c : α} {v first second : List (List α)}
    (one : Splits s c v first) (other : Splits s c v second) : first = second := by
  obtain ⟨fuel, left⟩ := one
  obtain ⟨more, right⟩ := other
  unfold split at left right
  split at left
  · rename_i empty
    rw [if_pos empty] at right
    exact Option.some.inj (left.symm.trans right)
  · rename_i solid
    rw [if_neg solid] at right
    exact ends_unique ⟨fuel, left⟩ ⟨more, right⟩

/-- The call returns; what it appends are the segments of the string in their
order, and the only nonempty pieces without separator that join to the string
trimmed and collapsed. -/
theorem split_appends (s : List α) (c : α) (v : List (List α)) :
    ∃ added, (∀ after, Splits s c v after ↔ after = v ++ added) ∧
      (∃ spans, Spans c s 0 spans ∧ added = spans.map (stretch s)) ∧
      (∀ pieces : List (List α), pieces = added ↔
        (∀ piece ∈ pieces, piece ≠ [] ∧ c ∉ piece) ∧
          [c].intercalate pieces = collapse c (trimmed c s)) := by
  refine ⟨segments c s, ?_, ?_, ?_⟩
  · intro after
    constructor
    · exact fun done => splits_unique done (splits_segments s c v)
    · rintro rfl
      exact splits_segments s c v
  · obtain ⟨spans, all, stretches⟩ := spans_from s ([] : List α) (c := c) (Or.inl rfl)
    exact ⟨spans, all, stretches.symm⟩
  · intro pieces
    constructor
    · rintro rfl
      exact ⟨fun piece member => mem_segments member, join_segments s⟩
    · rintro ⟨clean, joined⟩
      exact join_inj clean (fun segment member => mem_segments member)
        (joined.trans (join_segments s).symm)

end GameBook.StringSplit
