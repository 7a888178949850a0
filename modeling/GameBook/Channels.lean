import Mathlib.Data.List.Basic
import Mathlib.Data.List.Perm.Basic

/-!
Messages of several senders in one list. The messages of one sender are read in
the order they were sent; nothing is said about the order between senders.
-/

namespace GameBook.Channels

universe u v
variable {Sender : Type u} {Message : Type v} [DecidableEq Sender]

def next (sender : Sender) (queue : List (Sender × Message)) : Option Message :=
  (queue.find? fun entry => entry.1 == sender).map (·.2)

def rest (sender : Sender) (queue : List (Sender × Message)) : List (Sender × Message) :=
  queue.eraseP fun entry => entry.1 == sender

variable {sender : Sender} {queue : List (Sender × Message)} {message : Message}

theorem next_perm (head : next sender queue = some message) :
    queue.Perm ((sender, message) :: rest sender queue) := by
  induction queue with
  | nil => cases head
  | cons entry others ih =>
      unfold next rest at *
      by_cases own : entry.1 = sender
      · have same : entry.2 = message := by simpa [List.find?_cons, own] using head
        simp [← own, ← same]
      · have later : ((others.find? fun entry => entry.1 == sender).map (·.2)) = some message := by
          simpa [List.find?_cons, own] using head
        have moved := (ih later).cons entry
        rw [List.eraseP_cons_of_neg (by simpa using own)]
        exact moved.trans (List.Perm.swap _ _ _)

theorem mem_iff_of_next (head : next sender queue = some message) (entry : Sender × Message) :
    entry ∈ queue ↔ entry = (sender, message) ∨ entry ∈ rest sender queue := by
  rw [(next_perm head).mem_iff, List.mem_cons]

end GameBook.Channels
