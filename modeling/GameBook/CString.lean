import Mathlib.Data.List.TakeWhile

/-!
Byte strings read as C strings: up to the first NUL, with one NUL after the
last byte. A comparison bounded by the length of its first argument accepts
every prefix of the second.
-/

namespace GameBook.CString

abbrev Bytes := List UInt8

/-- What `c_str()` shows of a string. -/
def cStr (s : Bytes) : Bytes := s.takeWhile (· ≠ 0)

def strncmp : Bytes → Bytes → Nat → Int
  | _, _, 0 => 0
  | first, second, count + 1 =>
      if first.headD 0 ≠ second.headD 0 then (first.headD 0).toNat - (second.headD 0).toNat
      else if first.headD 0 = 0 then 0
      else strncmp first.tail second.tail count

theorem c_str_clean (s : Bytes) : 0 ∉ cStr s := by
  intro member
  simpa using List.mem_takeWhile_imp member

theorem c_str_of_clean (s : Bytes) (clean : 0 ∉ s) : cStr s = s := by
  rw [cStr, List.takeWhile_eq_self_iff]
  intro byte member
  have nonzero : byte ≠ 0 := fun zero => clean (zero ▸ member)
  simpa using nonzero

@[simp] theorem c_str_c_str (s : Bytes) : cStr (cStr s) = cStr s :=
  c_str_of_clean _ (c_str_clean s)

theorem c_str_cut (s rest : Bytes) : cStr (s ++ 0 :: rest) = cStr s := by
  induction s with
  | nil => rfl
  | cons byte tail ih =>
      by_cases zero : byte = 0
      · simp [cStr, zero]
      · simp only [cStr, List.cons_append] at ih ⊢
        rw [List.takeWhile_cons_of_pos (by simpa using zero), ih,
          List.takeWhile_cons_of_pos (by simpa using zero)]

theorem c_str_closed (s : Bytes) : cStr (s ++ [0]) = cStr s := c_str_cut s []

theorem c_str_append (front rest : Bytes) (clean : 0 ∉ front) :
    cStr (front ++ rest) = front ++ cStr rest := by
  apply List.takeWhile_append_of_pos
  intro byte member
  have nonzero : byte ≠ 0 := fun zero => clean (zero ▸ member)
  simpa using nonzero

theorem differ_ne_zero (first second : UInt8) (differ : first ≠ second) :
    (first.toNat : Int) - second.toNat ≠ 0 := by
  intro zero
  apply differ
  apply UInt8.toNat_inj.mp
  omega

/-- Accepted are the prefixes of the second string, and what repeats it with
its closing NUL. -/
theorem strncmp_length_eq_zero_iff (first second : Bytes) (clean : 0 ∉ second) :
    strncmp first second first.length = 0 ↔ first <+: second ∨ second ++ [0] <+: first := by
  induction first generalizing second with
  | nil => simp [strncmp]
  | cons byte rest ih =>
      cases second with
      | nil =>
          by_cases zero : byte = 0
          · simp [strncmp, zero]
          · have differ := differ_ne_zero byte 0 zero
            have other : ¬ 0 = byte := fun same => zero same.symm
            simpa [strncmp, zero, other] using differ
      | cons head tail =>
          have nonzero : head ≠ 0 := fun zero => clean (by simp [zero])
          have tailClean : 0 ∉ tail := fun member => clean (List.mem_cons_of_mem _ member)
          by_cases same : byte = head
          · subst same
            simp [strncmp, nonzero, ih tail tailClean, List.cons_prefix_cons]
          · have differ := differ_ne_zero byte head same
            have other : ¬ head = byte := fun equal => same equal.symm
            simp [strncmp, same, other, differ, List.cons_prefix_cons]

end GameBook.CString
