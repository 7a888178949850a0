import Mathlib.Data.List.Basic

/-!
Parsers that take one item after another off the front of a stream. Bytes reach
the parser in pieces, so an item may be looked for before the bytes behind it
are there: `Settled` is what makes it the item of the longer stream too. Then
what has been taken and what is still to parse make up one stream.
-/

namespace GameBook.StreamParser

variable {Byte Item : Type}

/-- An item and the bytes it takes, at least one and no more than there are. -/
structure Parser (Byte Item : Type) where
  next : List Byte → Option (Item × Nat)
  progress : ∀ bytes item size, next bytes = some (item, size) → 0 < size ∧ size ≤ bytes.length

def items (parser : Parser Byte Item) (bytes : List Byte) : List Item :=
  match _found : parser.next bytes with
  | none => []
  | some (item, size) => item :: items parser (bytes.drop size)
termination_by bytes.length
decreasing_by
  have bounds := parser.progress bytes item size _found
  rw [List.length_drop]
  omega

/-- The item at the front of some bytes is still there when more follow. -/
def Settled (parser : Parser Byte Item) (bytes more : List Byte) : Prop :=
  ∀ item size, parser.next bytes = some (item, size) → parser.next (bytes ++ more) = some (item, size)

/-- The items of a stream are those taken and those of the bytes left. -/
def Parsed (parser : Parser Byte Item) (stream : List Byte) (taken : List Item) (left : List Byte) : Prop :=
  items parser stream = taken ++ items parser left

variable {parser : Parser Byte Item}

theorem items_none {bytes : List Byte} (none : parser.next bytes = .none) : items parser bytes = [] := by
  rw [items]
  split
  · rfl
  · rename_i found
    rw [none] at found
    cases found

theorem items_some {bytes : List Byte} {item : Item} {size : Nat}
    (found : parser.next bytes = some (item, size)) :
    items parser bytes = item :: items parser (bytes.drop size) := by
  rw [items]
  split
  · rename_i none
    rw [found] at none
    cases none
  · rename_i other
    rw [found] at other
    cases other
    rfl

@[simp] theorem settled_nil (bytes : List Byte) : Settled parser bytes [] := by
  intro item size found
  rwa [List.append_nil]

theorem parsed_start (stream : List Byte) : Parsed parser stream [] stream := rfl

theorem parsed_taken {stream bytes more : List Byte} {taken : List Item} {item : Item} {size : Nat}
    (parsed : Parsed parser stream taken (bytes ++ more))
    (found : parser.next bytes = some (item, size)) (settled : Settled parser bytes more) :
    Parsed parser stream (taken ++ [item]) (bytes.drop size ++ more) := by
  have within := (parser.progress bytes item size found).2
  have first : items parser (bytes ++ more) = item :: items parser (bytes.drop size ++ more) := by
    rw [items_some (settled item size found), List.drop_append_of_le_length within]
  unfold Parsed at parsed ⊢
  rw [parsed, first, List.append_assoc]
  rfl

theorem parsed_all {stream left : List Byte} {taken : List Item}
    (parsed : Parsed parser stream taken left) (none : parser.next left = .none) :
    taken = items parser stream := by
  rw [parsed, items_none none, List.append_nil]

end GameBook.StreamParser
