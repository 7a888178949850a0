import GameBook.NetworkBuffer
import GameBook.LabelledRun

/-!
The network buffer as an unbounded byte queue. `bufferStep` performs one
operation of the code under the guard its caller applies; `queueStep` is the
queue it is meant to be. A label is the operation with the bytes it hands to
its caller, so the refinement covers what is read as well as what is kept.
-/

namespace GameBook.ByteQueue

open RingWindow MachineWord NetworkBuffer LabelledRun

inductive Op where
  | append (bytes : List UInt8)
  | receive (bytes : List UInt8)
  | read (size : Nat)
  | send (size : Nat)
  | reAlloc

/-- The guards of the callers: `AddPacket`, `ConnectObj::Recv`, `GetTcpPacket`
and `ConnectObj::Send`. A reallocation may come at any moment. -/
def Guard (b : Buffer) : Op → Prop
  | .append bytes => bytes.length ≤ getEmptySize b
  | .receive bytes => 0 < getEmptySize b ∧ bytes.length ≤ getWriteSize b
  | .read size => size ≤ b.dataSize
  | .send size => (size : Int) ≤ (sendGetBuffer b).2
  | .reAlloc => True

def perform (b : Buffer) : Op → Buffer × List UInt8
  | .append bytes => (memcpyToBuffer b bytes, [])
  | .receive bytes => (receive b bytes, [])
  | .read size => (removeDate b size, memcpyFromBuffer b size)
  | .send size => (removeDate b size, slice b.buffer ((sendGetBuffer b).1.getD 0) size)
  | .reAlloc => (reAllocBuffer b, [])

def bufferStep (before : Buffer) (label : Op × List UInt8) (after : Buffer) : Prop :=
  Guard before label.1 ∧ perform before label.1 = (after, label.2)

def queueStep (before : List UInt8) (label : Op × List UInt8) (after : List UInt8) : Prop :=
  match label.1 with
  | .append bytes | .receive bytes => after = before ++ bytes ∧ label.2 = []
  | .read size | .send size =>
      size ≤ before.length ∧ after = before.drop size ∧ label.2 = before.take size
  | .reAlloc => after = before ∧ label.2 = []

def reAllocs : List (Op × List UInt8) → Nat
  | [] => 0
  | (.reAlloc, _) :: rest => reAllocs rest + 1
  | _ :: rest => reAllocs rest

theorem send_position (b : Buffer) (size : Nat) (positive : 0 < size)
    (offered : (size : Int) ≤ (sendGetBuffer b).2) : (sendGetBuffer b).1 = some b.beginIndex := by
  unfold sendGetBuffer at offered ⊢
  split at offered
  · omega
  · rename_i holds
    rw [if_neg holds]
    split <;> rfl

/-- One operation under its guard: the invariant survives, the contents follow
the queue, and only a reallocation changes the size. -/
theorem buffer_step_spec (before after : Buffer) (label : Op × List UInt8)
    (sound : Sound before) (sized : IntSized before) (step : bufferStep before label after) :
    Sound after ∧ queueStep (contents before) label (contents after) ∧
      after.bufferSize = before.bufferSize + reAllocs [label] * additionalSize := by
  obtain ⟨op, out⟩ := label
  obtain ⟨guard, done⟩ := step
  cases op with
  | append bytes =>
      obtain ⟨rfl, rfl⟩ := Prod.mk.inj done
      obtain ⟨kept, queued, size⟩ := memcpy_to_buffer_spec before bytes sound sized guard
      exact ⟨kept, ⟨queued, rfl⟩, by simpa [reAllocs] using size⟩
  | receive bytes =>
      obtain ⟨rfl, rfl⟩ := Prod.mk.inj done
      obtain ⟨kept, queued, size⟩ := receive_spec before bytes sound sized guard.1 guard.2
      exact ⟨kept, ⟨queued, rfl⟩, by simpa [reAllocs] using size⟩
  | read size =>
      obtain ⟨rfl, rfl⟩ := Prod.mk.inj done
      refine ⟨remove_date_sound before size sound sized guard, ⟨?_, ?_, ?_⟩, ?_⟩
      · rw [contents_length]
        exact guard
      · exact remove_date_contents before size sound sized guard
      · exact memcpy_from_buffer_spec before size sound sized guard
      · simpa [reAllocs] using (remove_date_fields before size).2.1
  | send size =>
      obtain ⟨rfl, rfl⟩ := Prod.mk.inj done
      obtain ⟨held, offered⟩ := send_offer_spec before size sound sized guard
      refine ⟨remove_date_sound before size sound sized held, ⟨?_, ?_, ?_⟩, ?_⟩
      · rw [contents_length]
        exact held
      · exact remove_date_contents before size sound sized held
      -- where nothing is sent the position is null
      · rcases Nat.eq_zero_or_pos size with none | positive
        · subst none
          rfl
        · rw [← offered, send_position before size positive guard]
          rfl
      · simpa [reAllocs] using (remove_date_fields before size).2.1
  | reAlloc =>
      obtain ⟨rfl, rfl⟩ := Prod.mk.inj done
      obtain ⟨kept, same, size, -⟩ := re_alloc_buffer_spec before sound sized
      exact ⟨kept, ⟨same, rfl⟩, by simpa [reAllocs] using size⟩

theorem re_allocs_cons (label : Op × List UInt8) (rest : List (Op × List UInt8)) :
    reAllocs (label :: rest) = reAllocs [label] + reAllocs rest := by
  obtain ⟨op, out⟩ := label
  cases op <;> simp [reAllocs, Nat.add_comm]

theorem buffer_run_spec (trace : List (Op × List UInt8)) (before after : Buffer)
    (run : Run bufferStep before trace after) (sound : Sound before)
    (bounded : before.bufferSize + reAllocs trace * additionalSize < 2147483648) :
    Sound after ∧ Run queueStep (contents before) trace (contents after) ∧
      after.bufferSize = before.bufferSize + reAllocs trace * additionalSize := by
  induction run with
  | refl => exact ⟨sound, Run.refl _, by simp [reAllocs]⟩
  | @next before middle after label rest taken _ ih =>
      rw [re_allocs_cons, Nat.add_mul, ← Nat.add_assoc] at bounded ⊢
      obtain ⟨kept, queued, size⟩ :=
        buffer_step_spec before middle label sound (by unfold IntSized; omega) taken
      rw [← size] at bounded ⊢
      obtain ⟨final, refined, total⟩ := ih kept bounded
      exact ⟨final, Run.next queued refined, total⟩

/-- What is promised of a state reached from a new buffer of `size` bytes. -/
structure FifoLaw (trace : List (Op × List UInt8)) (b : Buffer) : Prop where
  sound : Sound b
  queue : Run queueStep [] trace (contents b)
  kept : contents (reAllocBuffer b) = contents b
  grows : getEmptySize b < getEmptySize (reAllocBuffer b)
  recvOffer : 0 < (recvGetBuffer (recvGuard b)).2
  sendOffer : 0 < (sendGetBuffer b).2 ↔ contents b ≠ []

theorem recv_offer_positive (b : Buffer) (sound : Sound b) (sized : IntSized b) :
    0 < (recvGetBuffer b).2 := by
  obtain ⟨positive, toEnd, -⟩ := write_size_bounds b sound sized
  unfold IntSized at sized
  have exactOffer : (recvGetBuffer b).2 = getWriteSize b := to_int32_exact _ (by omega)
  omega

theorem send_offer_iff (b : Buffer) (sound : Sound b) (sized : IntSized b) :
    0 < (sendGetBuffer b).2 ↔ contents b ≠ [] := by
  have begins := sound.begins
  rw [send_offer_exact b sound sized, ← List.length_pos_iff, contents_length]
  omega

theorem re_alloc_grows (b : Buffer) (sound : Sound b)
    (sized : b.bufferSize + additionalSize < 2147483648) :
    getEmptySize b < getEmptySize (reAllocBuffer b) := by
  have small : IntSized b := by unfold IntSized; omega
  obtain ⟨kept, -, size, count⟩ := re_alloc_buffer_spec b sound small
  have holds := sound.holds
  rw [get_empty_size_exact b sound small,
    get_empty_size_exact _ kept (by unfold IntSized; omega), size, count]
  unfold additionalSize
  omega

/-- The buffer is an unbounded byte queue as long as its size, one more
reallocation included, stays an `int`. -/
theorem buffer_refines_queue (size : Nat) (trace : List (Op × List UInt8)) (b : Buffer)
    (positive : 0 < size)
    (bounded : size + (reAllocs trace + 1) * additionalSize < 2147483648)
    (run : Run bufferStep (create size) trace b) : FifoLaw trace b := by
  rw [Nat.add_mul, Nat.one_mul, ← Nat.add_assoc] at bounded
  obtain ⟨sound, refined, total⟩ := buffer_run_spec trace (create size) b run
    (create_sound size positive) (by dsimp only [create]; omega)
  have sized : b.bufferSize + additionalSize < 2147483648 := by
    rw [total]
    exact bounded
  have small : IntSized b := by unfold IntSized; omega
  obtain ⟨guardSound, guardSized, -, -⟩ := recv_guard_spec b sound small fun _ => sized
  have empty : contents (create size) = [] := rfl
  rw [empty] at refined
  exact ⟨sound, refined, (re_alloc_buffer_spec b sound small).2.1, re_alloc_grows b sound sized,
    recv_offer_positive _ guardSound guardSized, send_offer_iff b sound small⟩

/-- A buffer of four bytes that wraps and is reallocated while it does. -/
def turns : List (Op × List UInt8) :=
  [(.append [1, 2, 3], []), (.read 2, [1, 2]), (.append [4, 5], []), (.reAlloc, []),
    (.read 3, [3, 4, 5])]

def wrapped : Buffer := memcpyToBuffer (removeDate (memcpyToBuffer (create 4) [1, 2, 3]) 2) [4, 5]

theorem turns_run : Run bufferStep (create 4) turns (removeDate (reAllocBuffer wrapped) 3) := by
  have read : memcpyFromBuffer (memcpyToBuffer (create 4) [1, 2, 3]) 2 = [1, 2] := by decide
  have rest : memcpyFromBuffer (reAllocBuffer wrapped) 3 = [3, 4, 5] := by decide
  have first : Guard (create 4) (.append [1, 2, 3]) := show 3 ≤ getEmptySize (create 4) by decide
  have room : Guard (removeDate (memcpyToBuffer (create 4) [1, 2, 3]) 2) (.append [4, 5]) :=
    show 2 ≤ getEmptySize (removeDate (memcpyToBuffer (create 4) [1, 2, 3]) 2) by decide
  have held : Guard (memcpyToBuffer (create 4) [1, 2, 3]) (.read 2) :=
    show 2 ≤ (memcpyToBuffer (create 4) [1, 2, 3]).dataSize by decide
  have all : 3 ≤ (reAllocBuffer wrapped).dataSize := by decide
  have last : bufferStep (reAllocBuffer wrapped) (.read 3, [3, 4, 5])
      (removeDate (reAllocBuffer wrapped) 3) := ⟨all, congrArg (Prod.mk _) rest⟩
  exact .next ⟨first, rfl⟩ (.next ⟨held, Prod.ext rfl read⟩
    (.next ⟨room, rfl⟩ (.next ⟨trivial, rfl⟩ (.next last (.refl _)))))

theorem buffer_refines_queue_turns : wrapped.endIndex < wrapped.beginIndex ∧
    FifoLaw turns (removeDate (reAllocBuffer wrapped) 3) :=
  ⟨by decide, buffer_refines_queue 4 turns _ (by decide) (by decide) turns_run⟩

/-- At 2^32 - 1 bytes a reallocation wraps the size around and loses the free
space, and the size offered to `recv()` is a negative `int`. -/
theorem unbounded_size_breaks_queue :
    ¬ ∀ size, 0 < size → size < 4294967296 → ∀ trace b,
      Run bufferStep (create size) trace b → FifoLaw trace b := by
  intro law
  have broken := law 4294967295 (by decide) (by decide) [] _ (Run.refl _)
  exact absurd broken.grows (by decide)

end GameBook.ByteQueue
