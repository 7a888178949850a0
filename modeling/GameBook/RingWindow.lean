import Mathlib.Data.List.Basic

/-!
Windows on a ring of cells. A ring is a total cell function with a size; the
window of `count` cells after `start` is read modulo that size. Linear copies
(`slice`, `blit`) are the only memory primitives: a copy that crosses the end
of the ring is two of them. Cells outside the window are unrestricted, so a
stale cell never shows in a window.
-/

namespace GameBook.RingWindow

variable {α : Type}

/-- The `count` cells after `start` on a ring of `size` cells. -/
def window (cells : Nat → α) (size start count : Nat) : List α :=
  (List.range count).map fun i => cells ((start + i) % size)

def slice (cells : Nat → α) (start count : Nat) : List α :=
  (List.range count).map fun i => cells (start + i)

def blit (cells : Nat → α) (offset : Nat) (values : List α) : Nat → α :=
  fun i => if offset ≤ i then values.getD (i - offset) (cells i) else cells i

@[simp] theorem window_length (cells : Nat → α) (size start count : Nat) :
    (window cells size start count).length = count := by
  simp [window]

@[simp] theorem slice_length (cells : Nat → α) (start count : Nat) :
    (slice cells start count).length = count := by
  simp [slice]

@[simp] theorem window_zero (cells : Nat → α) (size start : Nat) :
    window cells size start 0 = [] := rfl

theorem window_congr (before after : Nat → α) (size start count : Nat)
    (same : ∀ i < count, after ((start + i) % size) = before ((start + i) % size)) :
    window after size start count = window before size start count := by
  apply List.map_congr_left
  intro i member
  exact same i (List.mem_range.mp member)

theorem window_mod (cells : Nat → α) (size start count : Nat) :
    window cells size (start % size) count = window cells size start count := by
  simp [window, Nat.mod_add_mod]

theorem window_add (cells : Nat → α) (size start first second : Nat) :
    window cells size start (first + second) =
      window cells size start first ++ window cells size (start + first) second := by
  simp [window, List.range_add, Function.comp_def, Nat.add_assoc]

theorem window_take (cells : Nat → α) (size start count taken : Nat)
    (within : taken ≤ count) :
    (window cells size start count).take taken = window cells size start taken := by
  obtain ⟨rest, rfl⟩ := Nat.exists_eq_add_of_le within
  rw [window_add, List.take_left' (window_length _ _ _ _)]

theorem window_drop (cells : Nat → α) (size start count dropped : Nat)
    (within : dropped ≤ count) :
    (window cells size start count).drop dropped =
      window cells size (start + dropped) (count - dropped) := by
  obtain ⟨rest, rfl⟩ := Nat.exists_eq_add_of_le within
  rw [window_add, List.drop_left' (window_length _ _ _ _), Nat.add_sub_cancel_left]

/-- A window that does not reach the end of the ring is one linear copy. -/
theorem window_linear (cells : Nat → α) (size start count : Nat)
    (inside : start + count ≤ size) :
    window cells size start count = slice cells start count := by
  apply List.map_congr_left
  intro i member
  have bound := List.mem_range.mp member
  rw [Nat.mod_eq_of_lt (by omega)]

/-- A window that reaches the end of the ring is a tail copy and a head copy. -/
theorem window_wrapped (cells : Nat → α) (size start count : Nat)
    (begins : start < size) (reaches : size - start ≤ count) (fits : count ≤ size) :
    window cells size start count =
      slice cells start (size - start) ++ slice cells 0 (count - (size - start)) := by
  have split : count = (size - start) + (count - (size - start)) := by omega
  have meet : start + (size - start) = size := by omega
  conv_lhs => rw [split]
  rw [window_add, window_linear cells size start (size - start) (by omega), meet,
    ← window_mod cells size size, Nat.mod_self, window_linear cells size 0 _ (by omega)]

theorem blit_inside (cells : Nat → α) (offset : Nat) (values : List α) (i : Nat)
    (inside : i < values.length) : blit cells offset values (offset + i) = values[i] := by
  simp [blit, List.getD_eq_getElem?_getD, inside]

theorem blit_outside (cells : Nat → α) (offset : Nat) (values : List α) (i : Nat)
    (outside : i < offset ∨ offset + values.length ≤ i) : blit cells offset values i = cells i := by
  unfold blit
  split
  · rename_i reached
    have beyond : values.length ≤ i - offset := by omega
    simp [List.getD_eq_getElem?_getD, List.getElem?_eq_none beyond]
  · rfl

@[simp] theorem blit_nil (cells : Nat → α) (offset : Nat) : blit cells offset [] = cells := by
  funext i
  exact blit_outside cells offset [] i (by simp; omega)

theorem slice_blit (cells : Nat → α) (offset : Nat) (values : List α) :
    slice (blit cells offset values) offset values.length = values := by
  apply List.ext_getElem (by simp)
  intro i _ inside
  simp [slice, blit_inside cells offset values i inside]

/-- A second block written right behind a first one. -/
theorem blit_append (cells : Nat → α) (offset : Nat) (first second : List α) :
    blit (blit cells offset first) (offset + first.length) second =
      blit cells offset (first ++ second) := by
  funext i
  by_cases early : i < offset + first.length
  · rw [blit_outside _ _ second i (Or.inl early)]
    by_cases before : i < offset
    · rw [blit_outside _ _ first i (Or.inl before), blit_outside _ _ _ i (Or.inl before)]
    · obtain ⟨k, rfl⟩ := Nat.exists_eq_add_of_le (Nat.le_of_not_lt before)
      have inFirst : k < first.length := by omega
      rw [blit_inside _ _ first k inFirst,
        blit_inside _ _ (first ++ second) k (by simp; omega), List.getElem_append_left inFirst]
  · obtain ⟨k, rfl⟩ := Nat.exists_eq_add_of_le (Nat.le_of_not_lt early)
    by_cases inside : k < second.length
    · have whole := blit_inside cells offset (first ++ second) (first.length + k) (by simp; omega)
      rw [blit_inside _ _ second k inside, Nat.add_assoc, whole]
      simp
    · rw [blit_outside _ _ second _ (by omega), blit_outside _ _ first _ (by omega),
        blit_outside _ _ _ _ (by simp; omega)]

theorem window_push_linear (cells : Nat → α) (size start count : Nat) (values : List α)
    (begins : start < size) (room : count + values.length ≤ size)
    (inside : (start + count) % size + values.length ≤ size) :
    window (blit cells ((start + count) % size) values) size start (count + values.length) =
      window cells size start count ++ values := by
  have positive : 0 < size := by omega
  rw [window_add]
  congr 1
  · apply window_congr
    intro i bound
    apply blit_outside
    have position := Nat.mod_lt (start + i) positive
    -- both offsets stay within one turn of the ring, so each is one comparison
    rcases Nat.lt_or_ge (start + i) size with near | far <;>
      rcases Nat.lt_or_ge (start + count) size with short | long
    · rw [Nat.mod_eq_of_lt near, Nat.mod_eq_of_lt short]; omega
    · rw [Nat.mod_eq_of_lt near, Nat.mod_eq_sub_mod long, Nat.mod_eq_of_lt (by omega)]
      rw [Nat.mod_eq_sub_mod long, Nat.mod_eq_of_lt (by omega)] at inside
      omega
    · omega
    · rw [Nat.mod_eq_sub_mod far, Nat.mod_eq_of_lt (by omega), Nat.mod_eq_sub_mod long,
        Nat.mod_eq_of_lt (by omega)]
      omega
  · rw [← window_mod, window_linear _ _ _ _ inside, slice_blit]

/-- A block written at `position`, continued at the head when it reaches the end. -/
def push (cells : Nat → α) (size position : Nat) (values : List α) : Nat → α :=
  if size - position < values.length then
    blit (blit cells position (values.take (size - position))) 0 (values.drop (size - position))
  else blit cells position values

/-- Pushing into the free part appends to the window, wrapped or not. -/
theorem window_push (cells : Nat → α) (size start count : Nat) (values : List α)
    (begins : start < size) (room : count + values.length ≤ size) :
    window (push cells size ((start + count) % size) values) size start (count + values.length) =
      window cells size start count ++ values := by
  have position := Nat.mod_lt (start + count) (show 0 < size by omega)
  unfold push
  split
  · rename_i wraps
    have tailLength : (values.take (size - (start + count) % size)).length =
        size - (start + count) % size := by simp; omega
    have first := window_push_linear cells size start count
      (values.take (size - (start + count) % size)) begins (by omega) (by omega)
    have meet : (start + (count + (values.take (size - (start + count) % size)).length)) % size = 0 := by
      rw [tailLength, ← Nat.add_assoc, ← Nat.mod_add_mod]
      have whole : (start + count) % size + (size - (start + count) % size) = size := by omega
      rw [whole, Nat.mod_self]
    have second := window_push_linear
      (blit cells ((start + count) % size) (values.take (size - (start + count) % size))) size start
      (count + (values.take (size - (start + count) % size)).length)
      (values.drop (size - (start + count) % size)) begins (by simp; omega) (by rw [meet]; simp; omega)
    rw [meet, first, List.append_assoc, List.take_append_drop] at second
    have total : count + values.length =
        count + (values.take (size - (start + count) % size)).length +
          (values.drop (size - (start + count) % size)).length := by simp; omega
    rw [total]
    exact second
  · rename_i inside
    exact window_push_linear cells size start count values begins room (by omega)

end GameBook.RingWindow
