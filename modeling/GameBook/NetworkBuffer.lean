import GameBook.RingWindow
import GameBook.MachineWord

/-!
The growing ring buffer of base_buffer.cpp and network_buffer.cpp. Indexes and
sizes are `unsigned int` and wrap modulo 2^32; `getBuffer` reports a size as
`int`. Equal indexes mean empty or full, and only `dataSize` tells which.
`contents` is the byte queue the buffer stands for: the `dataSize` bytes after
`beginIndex`. Memory behind the allocated size is not modelled as a fault; the
sound states below never reach it.
-/

namespace GameBook.NetworkBuffer

open RingWindow MachineWord

def additionalSize : Nat := 1024 * 128

structure Buffer where
  buffer : Nat → UInt8
  beginIndex : Nat
  endIndex : Nat
  bufferSize : Nat
  dataSize : Nat

/-- The constructor: `new char[size]`, both indexes and the count at zero. -/
def create (size : Nat) : Buffer := ⟨fun _ => 0, 0, 0, size, 0⟩

def getEmptySize (b : Buffer) : Nat := sub32 b.bufferSize b.dataSize

def getWriteSize (b : Buffer) : Nat :=
  if b.beginIndex ≤ b.endIndex then sub32 b.bufferSize b.endIndex
  else sub32 b.beginIndex b.endIndex

def getReadSize (b : Buffer) : Nat :=
  if b.dataSize ≤ 0 then 0
  else if b.beginIndex < b.endIndex then sub32 b.endIndex b.beginIndex
  else sub32 b.bufferSize b.beginIndex

def fillDate (b : Buffer) (size : Nat) : Buffer :=
  if sub32 b.bufferSize b.endIndex ≤ size then
    { b with
      dataSize := add32 b.dataSize size
      endIndex := add32 0 (sub32 size (sub32 b.bufferSize b.endIndex)) }
  else
    { b with
      dataSize := add32 b.dataSize size
      endIndex := add32 b.endIndex size }

def removeDate (b : Buffer) (size : Nat) : Buffer :=
  if b.bufferSize ≤ add32 b.beginIndex size then
    { b with
      dataSize := sub32 b.dataSize size
      beginIndex := add32 0 (sub32 size (sub32 b.bufferSize b.beginIndex)) }
  else
    { b with
      dataSize := sub32 b.dataSize size
      beginIndex := add32 b.beginIndex size }

/-- `Buffer::ReAllocBuffer(_dataSize)`. The new block is uninitialised memory;
only the copied bytes are ever read, so its other cells are zero here. -/
def reAllocBuffer (b : Buffer) : Buffer :=
  if b.beginIndex < b.endIndex then
    { b with
      buffer := blit (fun _ => 0) 0 (slice b.buffer b.beginIndex (sub32 b.endIndex b.beginIndex))
      beginIndex := 0
      endIndex := sub32 b.endIndex b.beginIndex
      bufferSize := add32 b.bufferSize additionalSize }
  else if b.beginIndex = b.endIndex ∧ b.dataSize ≤ 0 then
    { b with
      buffer := fun _ => 0
      beginIndex := 0
      endIndex := 0
      bufferSize := add32 b.bufferSize additionalSize }
  else
    let tail := slice b.buffer b.beginIndex (sub32 b.bufferSize b.beginIndex)
    let head := slice b.buffer 0 b.endIndex
    { b with
      buffer := blit (blit (fun _ => 0) 0 tail) tail.length head
      beginIndex := 0
      endIndex := add32 tail.length b.endIndex
      bufferSize := add32 b.bufferSize additionalSize }

/-- `RecvNetworkBuffer::GetBuffer`: the write position and the size as `int`. -/
def recvGetBuffer (b : Buffer) : Nat × Int := (b.endIndex, toInt32 (getWriteSize b))

/-- `SendNetworkBuffer::GetBuffer`: a null pointer when there is nothing to send. -/
def sendGetBuffer (b : Buffer) : Option Nat × Int :=
  if b.dataSize ≤ 0 then (none, 0)
  else if b.beginIndex < b.endIndex then
    (some b.beginIndex, toInt32 (sub32 b.endIndex b.beginIndex))
  else (some b.beginIndex, toInt32 (sub32 b.bufferSize b.beginIndex))

def memcpyFromBuffer (b : Buffer) (size : Nat) : List UInt8 :=
  if getReadSize b < size then
    slice b.buffer b.beginIndex (getReadSize b) ++ slice b.buffer 0 (sub32 size (getReadSize b))
  else slice b.buffer b.beginIndex size

def memcpyToBuffer (b : Buffer) (bytes : List UInt8) : Buffer :=
  if getWriteSize b < bytes.length then
    fillDate { b with
      buffer := blit (blit b.buffer b.endIndex (bytes.take (getWriteSize b))) 0
        (bytes.drop (getWriteSize b)) } bytes.length
  else fillDate { b with buffer := blit b.buffer b.endIndex bytes } bytes.length

/-- What `recv()` leaves behind: `bytes` written at the pointer of `GetBuffer`,
then `FillDate`. -/
def receive (b : Buffer) (bytes : List UInt8) : Buffer :=
  fillDate { b with buffer := blit b.buffer (recvGetBuffer b).1 bytes } bytes.length

/-- The reallocation guard in front of every `recv()` of `ConnectObj::Recv`:
`sizeof(PacketHeadS2S) + sizeof(TotalSizeType) * 2` is 24. -/
def recvGuard (b : Buffer) : Buffer :=
  if getEmptySize b < 24 then reAllocBuffer b else b

/-- `BackToPool`: the memory and its size are kept for the next connection. -/
def backToPool (b : Buffer) : Buffer := { b with beginIndex := 0, endIndex := 0, dataSize := 0 }

def contents (b : Buffer) : List UInt8 :=
  window b.buffer b.bufferSize b.beginIndex b.dataSize

structure Sound (b : Buffer) : Prop where
  begins : b.beginIndex < b.bufferSize
  ends : b.endIndex < b.bufferSize
  holds : b.dataSize ≤ b.bufferSize
  ring : (b.beginIndex + b.dataSize) % b.bufferSize = b.endIndex

def IntSized (b : Buffer) : Prop := b.bufferSize < 2147483648

@[simp] theorem contents_length (b : Buffer) : (contents b).length = b.dataSize := by
  simp [contents]

/-- The ring equation as one comparison, the form linear arithmetic can use. -/
theorem Sound.turn {b : Buffer} (sound : Sound b) :
    (b.beginIndex + b.dataSize < b.bufferSize ∧ b.endIndex = b.beginIndex + b.dataSize) ∨
      (b.bufferSize ≤ b.beginIndex + b.dataSize ∧
        b.endIndex + b.bufferSize = b.beginIndex + b.dataSize) := by
  have begins := sound.begins
  have holds := sound.holds
  have ring := sound.ring
  rcases Nat.lt_or_ge (b.beginIndex + b.dataSize) b.bufferSize with near | far
  · rw [Nat.mod_eq_of_lt near] at ring
    exact Or.inl ⟨near, ring.symm⟩
  · rw [Nat.mod_eq_sub_mod far, Nat.mod_eq_of_lt (by omega)] at ring
    exact Or.inr ⟨far, by omega⟩

theorem sound_of_turn (b : Buffer) (begins : b.beginIndex < b.bufferSize)
    (holds : b.dataSize ≤ b.bufferSize)
    (turn : (b.beginIndex + b.dataSize < b.bufferSize ∧ b.endIndex = b.beginIndex + b.dataSize) ∨
      (b.bufferSize ≤ b.beginIndex + b.dataSize ∧
        b.endIndex + b.bufferSize = b.beginIndex + b.dataSize)) : Sound b := by
  rcases turn with ⟨near, same⟩ | ⟨far, same⟩
  · exact ⟨begins, by omega, holds, by rw [Nat.mod_eq_of_lt near, same]⟩
  · refine ⟨begins, by omega, holds, ?_⟩
    rw [Nat.mod_eq_sub_mod far, Nat.mod_eq_of_lt (by omega)]
    omega

theorem create_sound (size : Nat) (positive : 0 < size) : Sound (create size) :=
  ⟨positive, positive, Nat.zero_le _, Nat.zero_mod _⟩

/-! The three size queries on a sound buffer. -/

theorem get_empty_size_exact (b : Buffer) (sound : Sound b) (sized : IntSized b) :
    getEmptySize b = b.bufferSize - b.dataSize :=
  sub32_exact _ _ sound.holds (by unfold IntSized at sized; omega)

theorem get_write_size_exact (b : Buffer) (sound : Sound b) (sized : IntSized b) :
    getWriteSize b =
      if b.beginIndex ≤ b.endIndex then b.bufferSize - b.endIndex
      else b.beginIndex - b.endIndex := by
  have begins := sound.begins
  have ends := sound.ends
  unfold IntSized at sized
  unfold getWriteSize
  split
  · exact sub32_exact _ _ (by omega) (by omega)
  · exact sub32_exact _ _ (by omega) (by omega)

/-- The write size is positive, and within the free space unless the buffer is
full, where equal indexes make it the distance to the end. -/
theorem write_size_bounds (b : Buffer) (sound : Sound b) (sized : IntSized b) :
    0 < getWriteSize b ∧ getWriteSize b ≤ b.bufferSize - b.endIndex ∧
      (b.dataSize < b.bufferSize → getWriteSize b ≤ b.bufferSize - b.dataSize) := by
  have begins := sound.begins
  have ends := sound.ends
  have turn := sound.turn
  rw [get_write_size_exact b sound sized]
  split <;> omega

theorem get_read_size_exact (b : Buffer) (sound : Sound b) (sized : IntSized b) :
    getReadSize b = min b.dataSize (b.bufferSize - b.beginIndex) := by
  have begins := sound.begins
  have holds := sound.holds
  have turn := sound.turn
  unfold IntSized at sized
  unfold getReadSize
  split
  · omega
  · split
    · rw [sub32_exact _ _ (by omega) (by omega)]
      omega
    · rw [sub32_exact _ _ (by omega) (by omega)]
      omega

/-! One lemma for each index update: where the indexes go and what is kept. -/

theorem fill_date_fields (b : Buffer) (size : Nat) :
    (fillDate b size).buffer = b.buffer ∧ (fillDate b size).bufferSize = b.bufferSize ∧
      (fillDate b size).beginIndex = b.beginIndex ∧
      (fillDate b size).dataSize = add32 b.dataSize size := by
  unfold fillDate
  split <;> simp

theorem fill_date_sound (b : Buffer) (size : Nat) (sound : Sound b) (sized : IntSized b)
    (room : b.dataSize + size ≤ b.bufferSize) : Sound (fillDate b size) := by
  have begins := sound.begins
  have ends := sound.ends
  have turn := sound.turn
  unfold IntSized at sized
  have free : sub32 b.bufferSize b.endIndex = b.bufferSize - b.endIndex :=
    sub32_exact _ _ (by omega) (by omega)
  have count : add32 b.dataSize size = b.dataSize + size := add32_exact _ _ (by omega)
  unfold fillDate
  rw [free, count]
  split
  · rw [sub32_exact size _ (by omega) (by omega), add32_exact 0 _ (by omega)]
    apply sound_of_turn <;> dsimp only <;> omega
  · rw [add32_exact b.endIndex size (by omega)]
    apply sound_of_turn <;> dsimp only <;> omega

theorem remove_date_fields (b : Buffer) (size : Nat) :
    (removeDate b size).buffer = b.buffer ∧ (removeDate b size).bufferSize = b.bufferSize ∧
      (removeDate b size).endIndex = b.endIndex ∧
      (removeDate b size).dataSize = sub32 b.dataSize size := by
  unfold removeDate
  split <;> simp

theorem remove_date_begin (b : Buffer) (size : Nat) (sound : Sound b)
    (sized : IntSized b) (held : size ≤ b.dataSize) :
    (removeDate b size).beginIndex = (b.beginIndex + size) % b.bufferSize := by
  have begins := sound.begins
  have holds := sound.holds
  unfold IntSized at sized
  have moved : add32 b.beginIndex size = b.beginIndex + size := add32_exact _ _ (by omega)
  have tail : sub32 b.bufferSize b.beginIndex = b.bufferSize - b.beginIndex :=
    sub32_exact _ _ (by omega) (by omega)
  unfold removeDate
  rw [moved, tail]
  split
  · rename_i far
    rw [Nat.mod_eq_sub_mod far, Nat.mod_eq_of_lt (by omega)]
    dsimp only
    rw [sub32_exact size _ (by omega) (by omega), add32_exact 0 _ (by omega)]
    omega
  · rename_i near
    rw [Nat.mod_eq_of_lt (by omega)]

theorem remove_date_count (b : Buffer) (size : Nat) (sound : Sound b)
    (sized : IntSized b) (held : size ≤ b.dataSize) :
    (removeDate b size).dataSize = b.dataSize - size := by
  have holds := sound.holds
  unfold IntSized at sized
  rw [(remove_date_fields b size).2.2.2, sub32_exact _ _ held (by omega)]

theorem remove_date_sound (b : Buffer) (size : Nat) (sound : Sound b)
    (sized : IntSized b) (held : size ≤ b.dataSize) : Sound (removeDate b size) := by
  have begins := sound.begins
  have holds := sound.holds
  obtain ⟨-, keptSize, keptEnd, -⟩ := remove_date_fields b size
  have count := remove_date_count b size sound sized held
  have start := remove_date_begin b size sound sized held
  refine ⟨?_, ?_, ?_, ?_⟩
  · rw [start, keptSize]
    exact Nat.mod_lt _ (by omega)
  · rw [keptEnd, keptSize]
    exact sound.ends
  · rw [count, keptSize]
    omega
  · rw [start, count, keptSize, keptEnd, Nat.mod_add_mod]
    have rejoined : b.beginIndex + size + (b.dataSize - size) = b.beginIndex + b.dataSize := by omega
    rw [rejoined, sound.ring]

theorem remove_date_contents (b : Buffer) (size : Nat) (sound : Sound b)
    (sized : IntSized b) (held : size ≤ b.dataSize) :
    contents (removeDate b size) = (contents b).drop size := by
  obtain ⟨keptBytes, keptSize, -, -⟩ := remove_date_fields b size
  unfold contents
  rw [keptBytes, keptSize, remove_date_begin b size sound sized held,
    remove_date_count b size sound sized held, window_mod, window_drop _ _ _ _ _ held]

/-! Writing: a block that fits the free space is appended to the contents. -/

theorem push_ring (b : Buffer) (bytes : List UInt8) (sound : Sound b)
    (room : b.dataSize + bytes.length ≤ b.bufferSize) (cells : Nat → UInt8)
    (written : cells = push b.buffer b.bufferSize b.endIndex bytes) :
    window cells b.bufferSize b.beginIndex (b.dataSize + bytes.length) = contents b ++ bytes := by
  rw [written, ← sound.ring]
  exact window_push b.buffer b.bufferSize b.beginIndex b.dataSize bytes sound.begins room

theorem fill_date_contents (b : Buffer) (bytes : List UInt8) (sound : Sound b)
    (sized : IntSized b) (room : b.dataSize + bytes.length ≤ b.bufferSize)
    (cells : Nat → UInt8) (written : cells = push b.buffer b.bufferSize b.endIndex bytes) :
    contents (fillDate { b with buffer := cells } bytes.length) = contents b ++ bytes := by
  unfold IntSized at sized
  obtain ⟨keptBytes, keptSize, keptBegin, count⟩ :=
    fill_date_fields { b with buffer := cells } bytes.length
  have exactCount := add32_exact b.dataSize bytes.length (by omega)
  unfold contents
  rw [keptBytes, keptSize, keptBegin, count]
  dsimp only
  rw [exactCount]
  exact push_ring b bytes sound room cells written

/-- Where the code splits a write, the ring splits it too: `GetWriteSize` is
the distance to the end unless the data wraps, and then the block fits. -/
theorem memcpy_to_push (b : Buffer) (bytes : List UInt8) (sound : Sound b)
    (sized : IntSized b) (room : b.dataSize + bytes.length ≤ b.bufferSize) :
    memcpyToBuffer b bytes =
      fillDate { b with buffer := push b.buffer b.bufferSize b.endIndex bytes } bytes.length := by
  have begins := sound.begins
  have ends := sound.ends
  have turn := sound.turn
  unfold memcpyToBuffer push
  rw [get_write_size_exact b sound sized]
  by_cases ordered : b.beginIndex ≤ b.endIndex
  · simp only [ordered, ↓reduceIte]
    split <;> rfl
  · have whole : ¬ b.beginIndex - b.endIndex < bytes.length := by omega
    have single : ¬ b.bufferSize - b.endIndex < bytes.length := by omega
    simp only [ordered, ↓reduceIte, whole, single]

theorem same_indexes_sound (b : Buffer) (cells : Nat → UInt8) (sound : Sound b) :
    Sound { b with buffer := cells } :=
  ⟨sound.begins, sound.ends, sound.holds, sound.ring⟩

theorem memcpy_to_buffer_spec (b : Buffer) (bytes : List UInt8) (sound : Sound b)
    (sized : IntSized b) (room : bytes.length ≤ getEmptySize b) :
    Sound (memcpyToBuffer b bytes) ∧ contents (memcpyToBuffer b bytes) = contents b ++ bytes ∧
      (memcpyToBuffer b bytes).bufferSize = b.bufferSize := by
  have holds := sound.holds
  rw [get_empty_size_exact b sound sized] at room
  rw [memcpy_to_push b bytes sound sized (by omega)]
  refine ⟨?_, ?_, (fill_date_fields _ _).2.1⟩
  · exact fill_date_sound _ _ (same_indexes_sound b _ sound) sized (by dsimp only; omega)
  · exact fill_date_contents b bytes sound sized (by omega) _ rfl

/-- An external write of at most `GetWriteSize` bytes and `FillDate`, while
the buffer is not full, is `append`. -/
theorem receive_spec (b : Buffer) (bytes : List UInt8) (sound : Sound b)
    (sized : IntSized b) (notFull : 0 < getEmptySize b)
    (offered : bytes.length ≤ getWriteSize b) :
    Sound (receive b bytes) ∧ contents (receive b bytes) = contents b ++ bytes ∧
      (receive b bytes).bufferSize = b.bufferSize := by
  rw [get_empty_size_exact b sound sized] at notFull
  obtain ⟨-, toEnd, toData⟩ := write_size_bounds b sound sized
  have free := toData (by omega)
  have holds := sound.holds
  have single : ¬ b.bufferSize - b.endIndex < bytes.length := by omega
  have room : b.dataSize + bytes.length ≤ b.bufferSize := by omega
  refine ⟨?_, ?_, (fill_date_fields _ _).2.1⟩
  · exact fill_date_sound _ _ (same_indexes_sound b _ sound) sized room
  · exact fill_date_contents b bytes sound sized room _ (by simp [push, single, recvGetBuffer])

/-! Reading: the two halves of a wrapped copy are one prefix of the contents. -/

theorem memcpy_from_buffer_spec (b : Buffer) (size : Nat) (sound : Sound b)
    (sized : IntSized b) (held : size ≤ b.dataSize) :
    memcpyFromBuffer b size = (contents b).take size := by
  have begins := sound.begins
  have holds := sound.holds
  unfold contents memcpyFromBuffer
  rw [window_take _ _ _ _ _ held, get_read_size_exact b sound sized]
  unfold IntSized at sized
  split
  · have toEnd : min b.dataSize (b.bufferSize - b.beginIndex) = b.bufferSize - b.beginIndex := by omega
    rw [toEnd, sub32_exact size _ (by omega) (by omega),
      window_wrapped b.buffer b.bufferSize b.beginIndex size begins (by omega) (by omega)]
  · rw [window_linear _ _ _ _ (by omega)]

theorem send_offer_exact (b : Buffer) (sound : Sound b) (sized : IntSized b) :
    (sendGetBuffer b).2 = min b.dataSize (b.bufferSize - b.beginIndex) := by
  have begins := sound.begins
  have holds := sound.holds
  have turn := sound.turn
  unfold IntSized at sized
  unfold sendGetBuffer
  split
  · omega
  · split
    · rw [sub32_exact _ _ (by omega) (by omega), to_int32_exact _ (by omega)]
      omega
    · rw [sub32_exact _ _ (by omega) (by omega), to_int32_exact _ (by omega)]
      omega

theorem send_offer_spec (b : Buffer) (size : Nat) (sound : Sound b) (sized : IntSized b)
    (offered : (size : Int) ≤ (sendGetBuffer b).2) :
    size ≤ b.dataSize ∧ slice b.buffer b.beginIndex size = (contents b).take size := by
  have begins := sound.begins
  rw [send_offer_exact b sound sized] at offered
  have held : size ≤ b.dataSize := by omega
  refine ⟨held, ?_⟩
  unfold contents
  rw [window_take _ _ _ _ _ held, window_linear _ _ _ _ (by omega)]

theorem slice_copied (cells : Nat → UInt8) (values : List UInt8) :
    slice (blit cells 0 values) 0 values.length = values := slice_blit cells 0 values

theorem re_alloc_buffer_spec (b : Buffer) (sound : Sound b) (sized : IntSized b) :
    Sound (reAllocBuffer b) ∧ contents (reAllocBuffer b) = contents b ∧
      (reAllocBuffer b).bufferSize = b.bufferSize + additionalSize ∧
      (reAllocBuffer b).dataSize = b.dataSize := by
  have begins := sound.begins
  have ends := sound.ends
  have holds := sound.holds
  have turn := sound.turn
  unfold IntSized at sized
  have grown : add32 b.bufferSize additionalSize = b.bufferSize + additionalSize :=
    add32_exact _ _ (by unfold additionalSize; omega)
  have larger : 0 < additionalSize := by decide
  by_cases linear : b.beginIndex < b.endIndex
  · have count : sub32 b.endIndex b.beginIndex = b.dataSize := by
      rw [sub32_exact _ _ (by omega) (by omega)]; omega
    have copied : window b.buffer b.bufferSize b.beginIndex b.dataSize =
        slice b.buffer b.beginIndex b.dataSize := window_linear _ _ _ _ (by omega)
    have readBack := slice_copied (fun _ => 0) (slice b.buffer b.beginIndex b.dataSize)
    rw [reAllocBuffer, if_pos linear, grown, count]
    refine ⟨?_, ?_, rfl, rfl⟩
    · apply sound_of_turn <;> dsimp only <;> omega
    · unfold contents
      rw [window_linear _ _ _ _ (by dsimp only; omega), copied]
      simpa using readBack
  · by_cases empty : b.beginIndex = b.endIndex ∧ b.dataSize ≤ 0
    · have none : b.dataSize = 0 := by omega
      rw [reAllocBuffer, if_neg linear, if_pos empty, grown]
      refine ⟨?_, ?_, rfl, rfl⟩
      · apply sound_of_turn <;> dsimp only <;> omega
      · simp [contents, none]
    · have tail : sub32 b.bufferSize b.beginIndex = b.bufferSize - b.beginIndex :=
        sub32_exact _ _ (by omega) (by omega)
      have head : b.dataSize - (b.bufferSize - b.beginIndex) = b.endIndex := by omega
      have count : add32 (b.bufferSize - b.beginIndex) b.endIndex = b.dataSize := by
        rw [add32_exact _ _ (by omega)]; omega
      have copied := window_wrapped b.buffer b.bufferSize b.beginIndex b.dataSize begins
        (by omega) holds
      rw [head] at copied
      have joined := blit_append (fun _ => (0 : UInt8)) 0
        (slice b.buffer b.beginIndex (b.bufferSize - b.beginIndex)) (slice b.buffer 0 b.endIndex)
      rw [Nat.zero_add, ← copied] at joined
      have readBack := slice_copied (fun _ => 0)
        (window b.buffer b.bufferSize b.beginIndex b.dataSize)
      rw [slice_length] at joined
      rw [reAllocBuffer, if_neg linear, if_neg empty, grown, tail]
      dsimp only
      rw [slice_length, count, joined]
      refine ⟨?_, ?_, rfl, rfl⟩
      · apply sound_of_turn <;> dsimp only <;> omega
      · unfold contents
        rw [window_linear _ _ _ _ (by dsimp only; omega)]
        simpa using readBack

theorem recv_guard_spec (b : Buffer) (sound : Sound b) (sized : IntSized b)
    (grows : getEmptySize b < 24 → b.bufferSize + additionalSize < 2147483648) :
    Sound (recvGuard b) ∧ IntSized (recvGuard b) ∧ contents (recvGuard b) = contents b ∧
      0 < getEmptySize (recvGuard b) := by
  unfold recvGuard
  split
  · rename_i small
    have fits := grows small
    obtain ⟨kept, same, size, count⟩ := re_alloc_buffer_spec b sound sized
    have sizedAfter : IntSized (reAllocBuffer b) := by unfold IntSized; omega
    have holds := sound.holds
    refine ⟨kept, sizedAfter, same, ?_⟩
    rw [get_empty_size_exact _ kept sizedAfter, size, count]
    unfold additionalSize
    omega
  · exact ⟨sound, sized, rfl, by omega⟩

end GameBook.NetworkBuffer
