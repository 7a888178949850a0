import Mathlib.Data.List.Basic
import Mathlib.Tactic.Ring

/-!
Fixed-width unsigned arithmetic on natural numbers and the little-endian bytes
of a word. `add32` and `sub32` wrap modulo 2^32; `toInt32` is the reading of
a 32-bit word as a signed integer.
-/

namespace GameBook.MachineWord

def add32 (a b : Nat) : Nat := (a + b) % 4294967296

def sub32 (a b : Nat) : Nat := (a + 4294967296 - b) % 4294967296

def toInt32 (n : Nat) : Int := if n < 2147483648 then n else n - 4294967296

theorem add32_exact (a b : Nat) (fits : a + b < 4294967296) : add32 a b = a + b :=
  Nat.mod_eq_of_lt fits

theorem sub32_exact (a b : Nat) (ordered : b ≤ a) (fits : a < 4294967296) :
    sub32 a b = a - b := by
  unfold sub32
  omega

theorem to_int32_exact (n : Nat) (fits : n < 2147483648) : toInt32 n = n := by
  simp [toInt32, fits]

def littleEndian : Nat → Nat → List UInt8
  | 0, _ => []
  | count + 1, word => UInt8.ofNat word :: littleEndian count (word / 256)

def fromLittleEndian : List UInt8 → Nat
  | [] => 0
  | byte :: rest => byte.toNat + 256 * fromLittleEndian rest

@[simp] theorem little_endian_length (count word : Nat) :
    (littleEndian count word).length = count := by
  induction count generalizing word with
  | zero => rfl
  | succ count ih => simp [littleEndian, ih]

theorem little_endian_round_trip (count word : Nat) :
    fromLittleEndian (littleEndian count word) = word % 256 ^ count := by
  induction count generalizing word with
  | zero => simp [littleEndian, fromLittleEndian, Nat.mod_one]
  | succ count ih =>
      have low : (UInt8.ofNat word).toNat = word % 256 := by simp
      rw [littleEndian, fromLittleEndian, ih, low, Nat.pow_succ', Nat.mod_mul]

theorem from_little_endian_bound (bytes : List UInt8) :
    fromLittleEndian bytes < 256 ^ bytes.length := by
  induction bytes with
  | nil => simp [fromLittleEndian]
  | cons byte rest ih =>
      have low := byte.toNat_lt
      rw [fromLittleEndian, List.length_cons, Nat.pow_succ']
      omega

end GameBook.MachineWord
