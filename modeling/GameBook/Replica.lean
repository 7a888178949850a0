import GameBook.OrderedMap
import Mathlib

/-!
A map and a copy of it that follows through a log of updates. The source writes
each change to the log, the copy reads the log from its front; what is still in
the log is all the copy lacks.
-/

namespace GameBook.Replica

open Std OrderedMap

variable {Key Value : Type} [Ord Key] [TransOrd Key]

inductive Update (Key Value : Type) where
  | set (key : Key) (value : Value)
  | erase (key : Key)
  deriving DecidableEq, Repr

def apply (table : Table Key Value) : Update Key Value → Table Key Value
  | .set key value => table.insert key value
  | .erase key => table.erase key

/-- The log brings the copy up to its source. -/
def Follows (source : Table Key Value) (log : List (Update Key Value)) (copy : Table Key Value) : Prop :=
  log.foldl apply copy = source

theorem follows_same (table : Table Key Value) : Follows table [] table := rfl

theorem follows_written {source copy : Table Key Value} {log : List (Update Key Value)}
    (update : Update Key Value) (follows : Follows source log copy) :
    Follows (apply source update) (log ++ [update]) copy := by
  unfold Follows at *
  rw [List.foldl_append, follows]
  rfl

theorem follows_read {source copy : Table Key Value} {update : Update Key Value}
    {rest : List (Update Key Value)} (follows : Follows source (update :: rest) copy) :
    Follows source rest (apply copy update) := follows

theorem follows_settled {source copy : Table Key Value} (follows : Follows source [] copy) :
    copy = source := follows

theorem map_insert [LawfulEqOrd Key] {Other : Type} (form : Value → Other) (table : Table Key Value)
    (key : Key) (value : Value) :
    (table.insert key value).map (fun _ held => form held) =
      (table.map fun _ held => form held).insert key (form value) := by
  apply ExtTreeMap.ext_getElem?
  intro other
  rw [ExtTreeMap.getElem?_map, ExtTreeMap.getElem?_insert, ExtTreeMap.getElem?_insert,
    ExtTreeMap.getElem?_map]
  split <;> rfl

theorem map_erase [LawfulEqOrd Key] {Other : Type} (form : Value → Other) (table : Table Key Value) (key : Key) :
    (table.erase key).map (fun _ held => form held) =
      (table.map fun _ held => form held).erase key := by
  apply ExtTreeMap.ext_getElem?
  intro other
  rw [ExtTreeMap.getElem?_map, ExtTreeMap.getElem?_erase, ExtTreeMap.getElem?_erase,
    ExtTreeMap.getElem?_map]
  split <;> rfl

/-! ### Sums -/

section Sums

variable {Amount : Type} [Add Amount] [Zero Amount]

def total (table : Table Key Amount) : Amount := (values table).sum

theorem foldl_total [Std.Associative fun left right : Amount => left + right]
    [Std.LawfulIdentity (fun left right : Amount => left + right) 0]
    (amount : Value → Amount) (table : Table Key Value) :
    table.toList.foldl (fun sum entry => sum + amount entry.2) 0 =
      total (table.map fun _ held => amount held) := by
  rw [total, values, ExtTreeMap.toList_map, List.map_map, List.sum_eq_foldl, List.foldl_map]
  rfl

theorem total_map {Other : Type} [Add Other] [Zero Other] (form : Other → Amount)
    (nothing : form 0 = 0) (adds : ∀ left right, form (left + right) = form left + form right)
    (table : Table Key Other) : total (table.map fun _ held => form held) = form (total table) := by
  have listed : ∀ numbers : List Other, (numbers.map form).sum = form numbers.sum := by
    intro numbers
    induction numbers with
    | nil => exact nothing.symm
    | cons first rest ih => rw [List.map_cons, List.sum_cons, List.sum_cons, ih, adds]
  rw [total, total, ← listed, values, values, ExtTreeMap.toList_map, List.map_map, List.map_map]
  rfl

end Sums

end GameBook.Replica
