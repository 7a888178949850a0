import GameBook.PlainCommands

/-!
Numbers in base ten: what `std::to_string` and `%d` write, `strtol` and
`std::stoi` read back.
-/

namespace GameBook.Decimals

open Mongoose (Bytes isDigit isSpace)
open RedisCommands (decimalInt digitsValue stoi)

theorem digit_byte {digit : Char} (isDigit : digit.isDigit = true) :
    48 ≤ digit.toNat ∧ digit.toNat ≤ 57 ∧ (UInt8.ofNat digit.toNat).toNat = digit.toNat := by
  have range : 48 ≤ digit.toNat ∧ digit.toNat ≤ 57 := by
    simpa [Char.isDigit, UInt32.le_iff_toNat_le] using isDigit
  exact ⟨range.1, range.2, WireFormat.to_nat_of_nat _ (by omega)⟩

theorem decimal_digits (number : Nat) : ∀ c ∈ RedisCommands.decimal number, isDigit c = true := by
  intro c member
  obtain ⟨digit, among, rfl⟩ := List.mem_map.mp member
  obtain ⟨low, high, same⟩ := digit_byte (Nat.isDigit_of_mem_toDigits (by decide) (by decide) among)
  simp only [isDigit, Bool.and_eq_true, decide_eq_true_eq, UInt8.le_iff_toNat_le, same]
  exact ⟨low, high⟩

theorem digits_value (digits : List Char) (all : ∀ digit ∈ digits, digit.isDigit = true) (value : Nat) :
    (digits.map fun c => UInt8.ofNat c.toNat).foldl
        (fun value digit => 10 * value + ((digit.toNat - 48 : Nat) : Int)) (value : Int) =
      (Nat.ofDigitChars 10 digits value : Nat) := by
  induction digits generalizing value with
  | nil => rfl
  | cons digit digits ih =>
      obtain ⟨_, _, same⟩ := digit_byte (all digit List.mem_cons_self)
      have zero : '0'.toNat = 48 := rfl
      rw [List.map_cons, List.foldl_cons, same, Nat.ofDigitChars_cons, zero,
        ← ih (fun digit member => all digit (List.mem_cons_of_mem _ member))]
      push_cast
      rfl

theorem decimal_read (number : Nat) (rest : Bytes) (ends : ∀ c, rest.head? = some c → isDigit c = false) :
    Mongoose.decimal (RedisCommands.decimal number ++ rest) = number := by
  have all : ∀ digit ∈ Nat.toDigits 10 number, digit.isDigit = true := fun digit member =>
    Nat.isDigit_of_mem_toDigits (by decide) (by decide) member
  have stops : rest.takeWhile isDigit = [] := by
    cases rest with
    | nil => rfl
    | cons c rest => exact List.takeWhile_cons_of_neg (by simp [ends c rfl])
  rw [Mongoose.decimal, List.takeWhile_append_of_pos (decimal_digits number), stops, List.append_nil,
    RedisCommands.decimal]
  have value := digits_value (Nat.toDigits 10 number) all 0
  rw [Nat.ofDigitChars_ten_toDigits] at value
  exact value

theorem digit_range {c : UInt8} (digit : isDigit c = true) : 48 ≤ c.toNat ∧ c.toNat ≤ 57 := by
  simpa [isDigit, UInt8.le_iff_toNat_le] using digit

theorem digit_solid {c : UInt8} (digit : isDigit c = true) : isSpace c = false ∧ c ≠ 45 ∧ c ≠ 43 := by
  have range := digit_range digit
  simp only [isSpace, Bool.or_eq_false_iff, Bool.and_eq_false_iff, decide_eq_false_iff_not,
    beq_eq_false_iff_ne, ne_eq, UInt8.le_iff_toNat_le, ← UInt8.toNat_inj, UInt8.reduceToNat]
  omega

theorem digits_value_decimal (number : Nat) : digitsValue (RedisCommands.decimal number) = number := by
  have read := decimal_read number [] (by simp)
  rw [List.append_nil, Mongoose.decimal, List.takeWhile_eq_self_iff.mpr (decimal_digits number)] at read
  rw [← read]
  apply List.foldl_ext
  intro value digit member
  have range := digit_range (decimal_digits number digit member)
  omega

theorem stoi_decimal_int (number : Int) (low : -2147483648 ≤ number) (high : number ≤ 2147483647) :
    stoi (decimalInt number) = some number := by
  have filled (value : Nat) : ∃ c tail, RedisCommands.decimal value = c :: tail ∧ isDigit c = true := by
    obtain ⟨c, tail, begins⟩ := List.exists_cons_of_ne_nil (PlainCommands.decimal_filled value)
    exact ⟨c, tail, begins, decimal_digits value c (begins ▸ List.mem_cons_self)⟩
  have digits (value : Nat) : (RedisCommands.decimal value).takeWhile isDigit = RedisCommands.decimal value :=
    List.takeWhile_eq_self_iff.mpr (decimal_digits value)
  cases number with
  | ofNat value =>
      obtain ⟨c, tail, begins, digit⟩ := filled value
      obtain ⟨solid, minus, plus⟩ := digit_solid digit
      have front : (RedisCommands.decimal value).dropWhile isSpace = RedisCommands.decimal value := by
        rw [begins, List.dropWhile_cons_of_neg (by simp [solid])]
      have head : (RedisCommands.decimal value).head? = some c := by
        rw [begins]
        rfl
      have nonempty := PlainCommands.decimal_filled value
      simp only [stoi, decimalInt, front, head, Option.some.injEq, minus, plus, or_self, if_false, digits,
        digits_value_decimal]
      rw [if_neg (by simp only [nonempty, false_or, Int.ofNat_eq_natCast] at low high ⊢; omega)]
      rfl
  | negSucc value =>
      have front : (45 :: RedisCommands.decimal (value + 1)).dropWhile isSpace =
          45 :: RedisCommands.decimal (value + 1) := List.dropWhile_cons_of_neg (by decide)
      have nonempty := PlainCommands.decimal_filled (value + 1)
      simp only [stoi, decimalInt, front, List.head?_cons, true_or, if_true, List.tail_cons, digits,
        digits_value_decimal]
      rw [if_neg (by simp only [nonempty, false_or] at low high ⊢; omega)]
      exact congrArg some (Int.negSucc_eq value).symm

end GameBook.Decimals
