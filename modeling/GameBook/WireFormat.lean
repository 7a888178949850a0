import Mathlib.Data.List.Basic
import Mathlib.Algebra.Ring.Nat

/-!
The wire format of protobuf: base-128 numbers, and fields that are left out
where they hold the default value. Each way to write a field comes with a reader
that takes the field off the front of what is written in the order of the tags,
and with the condition under which the bytes written contain no zero.
-/

namespace GameBook.WireFormat

abbrev Bytes := List UInt8

/-! ### Numbers -/

/-- Groups of seven bits, low ones first, all but the last marked. -/
def groups : Nat → Nat → Bytes
  | 0, _ => []
  | fuel + 1, number =>
      if number < 128 then [UInt8.ofNat number]
      else UInt8.ofNat (number % 128 + 128) :: groups fuel (number / 128)

/-- Ten groups hold any 64-bit number. -/
def varint (number : Nat) : Bytes := groups 10 number

def readVarint : Bytes → Option (Nat × Bytes)
  | [] => none
  | byte :: rest =>
      if byte.toNat < 128 then some (byte.toNat, rest)
      else (readVarint rest).map fun later => (byte.toNat - 128 + 128 * later.1, later.2)

theorem to_nat_of_nat (number : Nat) (small : number < 256) : (UInt8.ofNat number).toNat = number := by
  rw [UInt8.toNat_ofNat', Nat.mod_eq_of_lt small]

theorem read_groups (fuel number : Nat) (rest : Bytes) (small : number < 128 ^ (fuel + 1)) :
    readVarint (groups (fuel + 1) number ++ rest) = some (number, rest) := by
  induction fuel generalizing number with
  | zero =>
      have last : number < 128 := small
      rw [groups, if_pos last, List.singleton_append, readVarint,
        to_nat_of_nat number (by omega), if_pos last]
  | succ fuel ih =>
      rw [groups]
      split
      · rename_i last
        rw [List.singleton_append, readVarint, to_nat_of_nat number (by omega), if_pos last]
      · have marked := to_nat_of_nat (number % 128 + 128) (by omega)
        have fewer : number / 128 < 128 ^ (fuel + 1) := by
          apply Nat.div_lt_of_lt_mul
          rw [Nat.pow_succ] at small
          omega
        rw [List.cons_append, readVarint, marked, if_neg (by omega), ih _ fewer, Option.map_some]
        congr 2
        omega

theorem read_varint (number : Nat) (rest : Bytes) (small : number < 2 ^ 64) :
    readVarint (varint number ++ rest) = some (number, rest) := by
  apply read_groups
  exact Nat.lt_of_lt_of_le small (by decide)

theorem length_groups (fuel number : Nat) : (groups fuel number).length ≤ fuel := by
  induction fuel generalizing number with
  | zero => exact Nat.le_refl 0
  | succ fuel ih =>
      rw [groups]
      split
      · exact Nat.succ_le_succ (Nat.zero_le fuel)
      · exact Nat.succ_le_succ (ih _)

/-- Only the number zero is written with a zero byte. -/
theorem zero_mem_groups (fuel number : Nat) (member : 0 ∈ groups fuel number) : number = 0 := by
  induction fuel generalizing number with
  | zero => cases member
  | succ fuel ih =>
      rw [groups] at member
      split at member
      · rename_i last
        have same := congrArg UInt8.toNat (List.mem_singleton.mp member)
        rw [to_nat_of_nat number (by omega)] at same
        exact same.symm
      · rcases List.mem_cons.mp member with here | later
        · have same := congrArg UInt8.toNat here
          rw [to_nat_of_nat _ (by omega)] at same
          have zero : (0 : UInt8).toNat = 0 := rfl
          omega
        · have none := ih _ later
          omega

theorem zero_mem_varint (number : Nat) : 0 ∈ varint number ↔ number = 0 := by
  constructor
  · exact zero_mem_groups 10 number
  · rintro rfl
    decide

def fixed32 (word : UInt32) : Bytes :=
  [UInt8.ofNat (word.toNat % 256), UInt8.ofNat (word.toNat / 256 % 256),
    UInt8.ofNat (word.toNat / 65536 % 256), UInt8.ofNat (word.toNat / 16777216 % 256)]

def readFixed32 : Bytes → Option (UInt32 × Bytes)
  | first :: second :: third :: fourth :: rest =>
      some (UInt32.ofNat (first.toNat + 256 * second.toNat + 65536 * third.toNat +
        16777216 * fourth.toNat), rest)
  | _ => none

theorem read_fixed32 (word : UInt32) (rest : Bytes) :
    readFixed32 (fixed32 word ++ rest) = some (word, rest) := by
  have small := word.toNat_lt
  have parts : word.toNat % 256 + 256 * (word.toNat / 256 % 256) +
      65536 * (word.toNat / 65536 % 256) + 16777216 * (word.toNat / 16777216 % 256) =
        word.toNat := by omega
  simp only [fixed32, readFixed32, List.cons_append, List.nil_append]
  rw [to_nat_of_nat _ (by omega), to_nat_of_nat _ (by omega), to_nat_of_nat _ (by omega),
    to_nat_of_nat _ (by omega), parts, UInt32.ofNat_toNat]

def BytesFull (word : UInt32) : Prop := 0 ∉ fixed32 word

instance (word : UInt32) : Decidable (BytesFull word) :=
  inferInstanceAs (Decidable (¬ 0 ∈ fixed32 word))

/-! ### Fields -/

def Avoids (tag : UInt8) (bytes : Bytes) : Prop := bytes.head? ≠ some tag

theorem avoids_nil (tag : UInt8) : Avoids tag [] := by
  intro same
  cases same

theorem avoids_cons {tag other : UInt8} (rest : Bytes) (apart : other ≠ tag) :
    Avoids tag (other :: rest) := by
  intro same
  exact apart (Option.some.inj same)

/-- A field is its tag and what a writer made of its value, or nothing. -/
def field (tag : UInt8) (written : Option Bytes) : Bytes :=
  match written with
  | none => []
  | some bytes => tag :: bytes

theorem avoids_field {tag other : UInt8} {written : Option Bytes} {rest : Bytes}
    (apart : other ≠ tag) (later : Avoids tag rest) : Avoids tag (field other written ++ rest) := by
  cases written with
  | none => exact later
  | some bytes => exact avoids_cons _ apart

theorem avoids_last {tag other : UInt8} (written : Option Bytes) (apart : other ≠ tag) :
    Avoids tag (field other written) := by
  cases written with
  | none => exact avoids_nil tag
  | some bytes => exact avoids_cons _ apart

def readField {Value : Type} (tag : UInt8) (fallback : Value)
    (reader : Bytes → Option (Value × Bytes)) (bytes : Bytes) : Value × Bytes :=
  match bytes with
  | [] => (fallback, [])
  | byte :: rest =>
      if byte = tag then (reader rest).getD (fallback, []) else (fallback, byte :: rest)

theorem read_field_none {Value : Type} {tag : UInt8} (fallback : Value)
    (reader : Bytes → Option (Value × Bytes)) {rest : Bytes} (avoids : Avoids tag rest) :
    readField tag fallback reader (field tag none ++ rest) = (fallback, rest) := by
  cases rest with
  | nil => rfl
  | cons byte rest =>
      have apart : byte ≠ tag := fun same => avoids (congrArg some same)
      simp only [field, List.nil_append, readField, if_neg apart]

theorem read_field_some {Value : Type} {tag : UInt8} (fallback : Value)
    (reader : Bytes → Option (Value × Bytes)) {bytes rest : Bytes} {value : Value}
    (reads : reader (bytes ++ rest) = some (value, rest)) :
    readField tag fallback reader (field tag (some bytes) ++ rest) = (value, rest) := by
  simp only [field, List.cons_append, readField, if_pos, reads, Option.getD_some]

theorem zero_mem_field {tag : UInt8} (nonzero : tag ≠ 0) (written : Option Bytes) :
    0 ∈ field tag written ↔ ∃ bytes, written = some bytes ∧ 0 ∈ bytes := by
  cases written with
  | none => simp [field]
  | some bytes => simp [field, Ne.symm nonzero]

def varintField (tag : UInt8) (number : Nat) : Bytes :=
  field tag (if number = 0 then none else some (varint number))

theorem read_varint_field {tag : UInt8} {number : Nat} {rest : Bytes} (small : number < 2 ^ 64)
    (avoids : Avoids tag rest) :
    readField tag 0 readVarint (varintField tag number ++ rest) = (number, rest) := by
  unfold varintField
  split
  · rename_i zero
    rw [zero]
    exact read_field_none 0 readVarint avoids
  · exact read_field_some 0 readVarint (read_varint number rest small)

theorem read_last_varint {tag : UInt8} {number : Nat} (small : number < 2 ^ 64) :
    readField tag 0 readVarint (varintField tag number) = (number, []) := by
  have reads := read_varint_field small (avoids_nil tag)
  rw [List.append_nil] at reads
  exact reads

theorem varint_field_clean {tag : UInt8} (nonzero : tag ≠ 0) (number : Nat) :
    0 ∉ varintField tag number := by
  rw [varintField, zero_mem_field nonzero]
  rintro ⟨bytes, written, member⟩
  split at written
  · cases written
  · rename_i positive
    cases written
    exact positive ((zero_mem_varint number).mp member)

def fixed32Field (tag : UInt8) (word : UInt32) : Bytes :=
  field tag (if word = 0 then none else some (fixed32 word))

theorem read_fixed32_field {tag : UInt8} {word : UInt32} {rest : Bytes} (avoids : Avoids tag rest) :
    readField tag 0 readFixed32 (fixed32Field tag word ++ rest) = (word, rest) := by
  unfold fixed32Field
  split
  · rename_i zero
    rw [zero]
    exact read_field_none 0 readFixed32 avoids
  · exact read_field_some 0 readFixed32 (read_fixed32 word rest)

theorem read_last_fixed32 (tag : UInt8) (word : UInt32) :
    readField tag 0 readFixed32 (fixed32Field tag word) = (word, []) := by
  have reads : readField tag 0 readFixed32 (fixed32Field tag word ++ []) = (word, []) :=
    read_fixed32_field (avoids_nil tag)
  rw [List.append_nil] at reads
  exact reads

theorem fixed32_field_clean {tag : UInt8} (nonzero : tag ≠ 0) (word : UInt32) :
    0 ∉ fixed32Field tag word ↔ word = 0 ∨ BytesFull word := by
  rw [fixed32Field, zero_mem_field nonzero, BytesFull]
  by_cases zero : word = 0
  · simp [zero]
  · simp [zero]

def messageField (tag : UInt8) (payload : Option Bytes) : Bytes :=
  field tag (payload.map fun bytes => varint bytes.length ++ bytes)

def readMessage {Message : Type} (parse : Bytes → Message) (bytes : Bytes) :
    Option (Option Message × Bytes) :=
  (readVarint bytes).map fun sized =>
    (some (parse (sized.2.take sized.1)), sized.2.drop sized.1)

theorem read_message_field {Message : Type} {tag : UInt8} {rest : Bytes} (message : Option Message)
    (serialize : Message → Bytes) (parse : Bytes → Message)
    (inverts : ∀ value, message = some value → parse (serialize value) = value)
    (small : ∀ value, message = some value → (serialize value).length < 2 ^ 64)
    (avoids : Avoids tag rest) :
    readField tag none (readMessage parse) (messageField tag (message.map serialize) ++ rest) =
      (message, rest) := by
  cases message with
  | none => exact read_field_none none (readMessage parse) avoids
  | some value =>
      apply read_field_some
      rw [List.append_assoc, readMessage, read_varint _ _ (small value rfl), Option.map_some,
        List.take_left, List.drop_left, inverts value rfl]

theorem read_last_message {Message : Type} {tag : UInt8} (message : Option Message)
    (serialize : Message → Bytes) (parse : Bytes → Message)
    (inverts : ∀ value, message = some value → parse (serialize value) = value)
    (small : ∀ value, message = some value → (serialize value).length < 2 ^ 64) :
    readField tag none (readMessage parse) (messageField tag (message.map serialize)) =
      (message, []) := by
  have reads := read_message_field message serialize parse inverts small (avoids_nil tag)
  rw [List.append_nil] at reads
  exact reads

theorem message_field_clean {tag : UInt8} (nonzero : tag ≠ 0) (payload : Option Bytes) :
    0 ∉ messageField tag payload ↔ ∀ bytes, payload = some bytes → bytes ≠ [] ∧ 0 ∉ bytes := by
  cases payload with
  | none => simp [messageField, field]
  | some bytes =>
      rw [messageField, zero_mem_field nonzero]
      simp [zero_mem_varint]

/-! ### Lengths -/

theorem length_field (tag : UInt8) (written : Option Bytes) (bound : Nat)
    (short : ∀ bytes, written = some bytes → bytes.length ≤ bound) :
    (field tag written).length ≤ bound + 1 := by
  cases written with
  | none => exact Nat.zero_le _
  | some bytes => exact Nat.succ_le_succ (short bytes rfl)

theorem length_varint_field (tag : UInt8) (number : Nat) : (varintField tag number).length ≤ 11 := by
  apply length_field
  intro bytes written
  split at written
  · cases written
  · cases written
    exact length_groups 10 number

theorem length_fixed32_field (tag : UInt8) (word : UInt32) : (fixed32Field tag word).length ≤ 5 := by
  apply length_field
  intro bytes written
  split at written
  · cases written
  · cases written
    exact Nat.le_refl 4

theorem length_message_field (tag : UInt8) (payload : Option Bytes) (bound : Nat)
    (short : ∀ bytes, payload = some bytes → bytes.length ≤ bound) :
    (messageField tag payload).length ≤ 10 + bound + 1 := by
  apply length_field
  intro bytes written
  obtain ⟨inner, there, rfl⟩ := Option.map_eq_some_iff.mp written
  rw [List.length_append]
  exact Nat.add_le_add (length_groups 10 _) (short inner there)

end GameBook.WireFormat
