import GameBook.RedisGame
import Mathlib.Algebra.Ring.Nat

/-!
Commands written as one line, arguments with single spaces between them, and
read back by `redisvFormatCommand`. The line is read as the arguments it was
made of exactly when none of them is empty, cut short by a NUL or broken by a
space, and a percent sign stands nowhere but at the very end.
-/

namespace GameBook.CommandWords

open CString RedisGame

/-- The arguments as a format string with `%s` between spaces shows them. -/
def joined : List Bytes → Bytes
  | [] => []
  | [last] => cStr last
  | first :: next :: rest => cStr first ++ 32 :: joined (next :: rest)

def PercentLast : Bytes → Prop
  | [] => True
  | [_] => True
  | byte :: next :: rest => byte ≠ 37 ∧ PercentLast (next :: rest)

def Plain (argument : Bytes) : Prop :=
  argument ≠ [] ∧ 0 ∉ argument ∧ 32 ∉ argument ∧ 37 ∉ argument

def PlainEnd (argument : Bytes) : Prop :=
  argument ≠ [] ∧ 0 ∉ argument ∧ 32 ∉ argument ∧ PercentLast argument

def PlainArguments : List Bytes → Prop
  | [] => True
  | [last] => PlainEnd last
  | first :: next :: rest => Plain first ∧ PlainArguments (next :: rest)

theorem percent_last_of_none (bytes : Bytes) (absent : 37 ∉ bytes) : PercentLast bytes := by
  induction bytes with
  | nil => trivial
  | cons byte rest ih =>
      have later := ih (fun member => absent (List.mem_cons_of_mem _ member))
      cases rest with
      | nil => trivial
      | cons next rest => exact ⟨fun same => absent (same ▸ List.mem_cons_self), later⟩

theorem plain_end_of_plain {argument : Bytes} (plain : Plain argument) : PlainEnd argument :=
  ⟨plain.1, plain.2.1, plain.2.2.1, percent_last_of_none _ plain.2.2.2⟩

theorem percent_last_append (bytes : Bytes) (byte : UInt8) (rest : Bytes) :
    PercentLast (bytes ++ byte :: rest) ↔ 37 ∉ bytes ∧ PercentLast (byte :: rest) := by
  induction bytes with
  | nil => simp
  | cons first later ih =>
      have front : PercentLast (first :: later ++ byte :: rest) ↔
          first ≠ 37 ∧ PercentLast (later ++ byte :: rest) := by
        cases later <;> rfl
      rw [front, ih, List.mem_cons, not_or, and_assoc, ne_comm]

/-! ### Reading a plain line -/

theorem read_word (argument rest : Bytes) (word : Option Bytes)
    (unbroken : 32 ∉ argument) (absent : 37 ∉ argument) (begun : word.getD [] ++ argument ≠ []) :
    formatWords (argument ++ 32 :: rest) word =
      (formatWords rest none).map ((word.getD [] ++ argument) :: ·) := by
  induction argument generalizing word with
  | nil =>
      have there : word.toList = [word.getD []] := by
        cases word with
        | none => exact absurd rfl begun
        | some bytes => rfl
      cases rest with
      | nil => simp [formatWords, there]
      | cons next rest => simp [formatWords, there]
  | cons byte later ih =>
      have notSpace : byte ≠ 32 := fun same => unbroken (same ▸ List.mem_cons_self)
      have notPercent : byte ≠ 37 := fun same => absent (same ▸ List.mem_cons_self)
      have turn : formatWords (byte :: later ++ 32 :: rest) word =
          formatWords (later ++ 32 :: rest) (some (word.getD [] ++ [byte])) := by
        cases later <;> simp [formatWords, notSpace, notPercent]
      rw [turn, ih (some (word.getD [] ++ [byte]))
        (fun member => unbroken (List.mem_cons_of_mem _ member))
        (fun member => absent (List.mem_cons_of_mem _ member)) (by simp)]
      simp

theorem read_last (argument : Bytes) (word : Option Bytes) (unbroken : 32 ∉ argument)
    (percent : PercentLast argument) (begun : word.getD [] ++ argument ≠ []) :
    formatWords argument word = some [word.getD [] ++ argument] := by
  induction argument generalizing word with
  | nil =>
      cases word with
      | none => exact absurd rfl begun
      | some bytes => simp [formatWords]
  | cons byte later ih =>
      have notSpace : byte ≠ 32 := fun same => unbroken (same ▸ List.mem_cons_self)
      cases later with
      | nil => simp [formatWords, notSpace]
      | cons next rest =>
          have notPercent : byte ≠ 37 := percent.1
          simp only [formatWords, if_neg notPercent, if_neg notSpace]
          rw [ih (some (word.getD [] ++ [byte]))
            (fun member => unbroken (List.mem_cons_of_mem _ member)) percent.2 (by simp)]
          simp

theorem read_plain (arguments : List Bytes) (plain : PlainArguments arguments) :
    formatWords (joined arguments) none = some arguments := by
  induction arguments with
  | nil => rfl
  | cons first rest ih =>
      cases rest with
      | nil =>
          obtain ⟨filled, clean, unbroken, percent⟩ := plain
          rw [joined, c_str_of_clean _ clean]
          exact read_last first none unbroken percent filled
      | cons next rest =>
          obtain ⟨⟨filled, clean, unbroken, absent⟩, later⟩ := plain
          rw [joined, c_str_of_clean _ clean, read_word first _ none unbroken absent filled,
            ih later]
          rfl

def total (words : List Bytes) : Nat := (words.map List.length).sum

/-- The words read and the spaces between them are no longer than the line, and
as long only where no percent sign was read as a directive. -/
theorem total_le (line : Bytes) (word : Option Bytes) (words : List Bytes)
    (reads : formatWords line word = some words) :
    total words + line.count 32 ≤ line.length + (word.getD []).length ∧
      (total words + line.count 32 = line.length + (word.getD []).length → PercentLast line) := by
  induction line, word using formatWords.induct generalizing words with
  | case1 word =>
      simp only [formatWords, Option.some.injEq] at reads
      subst reads
      cases word <;> simp [total, PercentLast]
  | case2 word =>
      simp only [formatWords, if_true, Option.some.injEq] at reads
      subst reads
      constructor
      · cases word <;> simp [total, Nat.add_comm]
      · exact fun _ => trivial
  | case3 word byte notSpace =>
      simp only [formatWords, if_neg notSpace, Option.some.injEq] at reads
      subst reads
      constructor
      · simp [total, notSpace, Nat.add_comm]
      · exact fun _ => trivial
  | case4 word rest ih =>
      simp only [formatWords, if_true] at reads
      obtain ⟨bound, _⟩ := ih words reads
      simp only [Option.getD_some, List.length_append, List.length_singleton] at bound
      simp only [List.length_cons, List.count_cons]
      simp
      omega
  | case5 word next rest differs =>
      simp [formatWords, differs] at reads
  | case6 next rest word notPercent ih =>
      simp only [formatWords, if_neg notPercent, if_true] at reads
      obtain ⟨later, readsLater, rfl⟩ := Option.map_eq_some_iff.mp reads
      obtain ⟨bound, tight⟩ := ih later readsLater
      have parts : total (word.toList ++ later) = (word.getD []).length + total later := by
        cases word <;> simp [total]
      have spaces : (32 :: next :: rest : Bytes).count 32 = (next :: rest).count 32 + 1 :=
        List.count_cons_self
      simp only [Option.getD_none, List.length_nil, Nat.add_zero] at bound tight
      rw [parts, spaces, List.length_cons]
      refine ⟨by omega, fun equal => ⟨notPercent, tight (by omega)⟩⟩
  | case7 byte next rest word notPercent notSpace ih =>
      simp only [formatWords, if_neg notPercent, if_neg notSpace] at reads
      obtain ⟨bound, tight⟩ := ih words reads
      have spaces : (byte :: next :: rest).count 32 = (next :: rest).count 32 :=
        List.count_cons_of_ne notSpace
      simp only [Option.getD_some, List.length_append, List.length_singleton] at bound tight
      rw [spaces, List.length_cons]
      refine ⟨by omega, fun equal => ⟨notPercent, tight (by omega)⟩⟩

theorem words_filled (line : Bytes) (word : Option Bytes) (words : List Bytes)
    (begun : word ≠ some []) (reads : formatWords line word = some words) : [] ∉ words := by
  have grown : ∀ byte : UInt8, some (word.getD [] ++ [byte]) ≠ some [] := by
    intro byte same
    simp at same
  induction line, word using formatWords.induct generalizing words with
  | case1 word =>
      simp only [formatWords, Option.some.injEq] at reads
      subst reads
      cases word with
      | none => simp
      | some bytes => simpa [eq_comm] using begun
  | case2 word =>
      simp only [formatWords, if_true, Option.some.injEq] at reads
      subst reads
      cases word with
      | none => simp
      | some bytes => simpa [eq_comm] using begun
  | case3 word byte notSpace =>
      simp only [formatWords, if_neg notSpace, Option.some.injEq] at reads
      subst reads
      simp
  | case4 word rest ih =>
      simp only [formatWords, if_true] at reads
      exact ih words (grown 37) reads (by simp)
  | case5 word next rest differs =>
      simp [formatWords, differs] at reads
  | case6 next rest word notPercent ih =>
      simp only [formatWords, if_neg notPercent, if_true] at reads
      obtain ⟨later, readsLater, rfl⟩ := Option.map_eq_some_iff.mp reads
      have tail := ih later (by simp) readsLater (by simp)
      cases word with
      | none => simpa using tail
      | some bytes => simpa [eq_comm, tail] using begun
  | case7 byte next rest word notPercent notSpace ih =>
      simp only [formatWords, if_neg notPercent, if_neg notSpace] at reads
      exact ih words (grown byte) reads (by simp)

theorem c_str_length (bytes : Bytes) : (cStr bytes).length ≤ bytes.length :=
  (List.takeWhile_prefix _).length_le

theorem length_joined (first : Bytes) (rest : List Bytes) :
    (joined (first :: rest)).length = total ((first :: rest).map cStr) + rest.length := by
  induction rest generalizing first with
  | nil => simp [joined, total]
  | cons next rest ih =>
      simp only [joined, List.length_append, List.length_cons, ih next, total, List.map_cons,
        List.sum_cons]
      omega

theorem spaces_joined (first : Bytes) (rest : List Bytes) :
    (joined (first :: rest)).count 32 =
      (((first :: rest).map cStr).map (List.count 32)).sum + rest.length := by
  induction rest generalizing first with
  | nil => simp [joined]
  | cons next rest ih =>
      simp only [joined, List.count_append, List.count_cons_self, ih next, List.map_cons,
        List.sum_cons, List.length_cons]
      omega

/-- Lengths that cannot shrink leave nothing to be cut or to be a space. -/
theorem nothing_cut (arguments : List Bytes)
    (fits : total arguments + ((arguments.map cStr).map (List.count 32)).sum ≤
      total (arguments.map cStr)) :
    (total arguments = total (arguments.map cStr) ∧
      ((arguments.map cStr).map (List.count 32)).sum = 0) ∧
    ∀ argument ∈ arguments, 0 ∉ argument ∧ 32 ∉ argument := by
  have shrinks : ∀ list : List Bytes, total (list.map cStr) ≤ total list := by
    intro list
    induction list with
    | nil => exact Nat.le_refl 0
    | cons first rest ih =>
        have head := c_str_length first
        simp only [total, List.map_cons, List.sum_cons] at ih ⊢
        omega
  have whole := shrinks arguments
  refine ⟨⟨by omega, by omega⟩, ?_⟩
  induction arguments with
  | nil =>
      intro argument member
      cases member
  | cons first rest ih =>
      have head := c_str_length first
      have tail := shrinks rest
      simp only [total, List.map_cons, List.sum_cons] at fits head tail whole ih
      intro argument member
      rcases List.mem_cons.mp member with same | later
      · subst same
        have same : (cStr argument).length = argument.length := by omega
        have equal : cStr argument = argument := (List.takeWhile_prefix _).eq_of_length same
        have clean := c_str_clean argument
        rw [equal] at clean fits
        refine ⟨clean, ?_⟩
        apply List.count_eq_zero.mp
        omega
      · exact ih (by omega) (by omega) argument later

theorem read_iff_plain (first : Bytes) (rest : List Bytes) :
    formatWords (joined (first :: rest)) none = some (first :: rest) ↔
      PlainArguments (first :: rest) := by
  constructor
  · intro reads
    obtain ⟨bound, tight⟩ := total_le _ _ _ reads
    have filled := words_filled _ _ _ (by simp) reads
    rw [Option.getD_none, List.length_nil, Nat.add_zero, length_joined, spaces_joined] at bound tight
    obtain ⟨⟨lengths, spaces⟩, clean⟩ := nothing_cut (first :: rest) (by omega)
    have percent := tight (by omega)
    clear bound tight lengths spaces reads
    induction rest generalizing first with
    | nil =>
        obtain ⟨noNul, noSpace⟩ := clean first List.mem_cons_self
        rw [joined, c_str_of_clean _ noNul] at percent
        exact ⟨fun same => filled (same ▸ List.mem_cons_self), noNul, noSpace, percent⟩
    | cons next rest ih =>
        obtain ⟨noNul, noSpace⟩ := clean first List.mem_cons_self
        rw [joined, c_str_of_clean _ noNul, percent_last_append] at percent
        obtain ⟨absent, after⟩ := percent
        have later : PercentLast (joined (next :: rest)) := by
          cases line : joined (next :: rest) with
          | nil => trivial
          | cons byte bytes =>
              rw [line] at after
              exact after.2
        refine ⟨⟨fun same => filled (same ▸ List.mem_cons_self), noNul, noSpace, absent⟩, ?_⟩
        exact ih next (fun member => filled (List.mem_cons_of_mem _ member))
          (fun argument member => clean argument (List.mem_cons_of_mem _ member)) later
  · intro plain
    exact read_plain (first :: rest) plain

end GameBook.CommandWords
