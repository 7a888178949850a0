import GameBook.TcpLink

/-!
The lengths of a packet: the memory of a `Packet` over base_buffer.h, filled by
`SerializeToBuffer`, measured by `GetDataLength` and copied by `CopyFrom`, and
what `AddPacket` makes of that length. Indexes are `unsigned int`, but the
length of the data and the total size of a frame are `unsigned short`.
-/

namespace GameBook.PacketLength

open RingWindow MachineWord WhileLoop TcpLink ProtoId
open NetworkBuffer hiding getEmptySize reAllocBuffer
open TcpFraming hiding getDataLength

structure PacketBuffer where
  buffer : Nat → UInt8
  beginIndex : Nat
  endIndex : Nat
  bufferSize : Nat

/-- A packet from the pool after `Awake`: its memory is kept, its indexes are 0. -/
def awake (m : PacketBuffer) : PacketBuffer := { m with beginIndex := 0, endIndex := 0 }

def getEmptySize (m : PacketBuffer) : Nat := sub32 m.bufferSize m.endIndex

def reAllocBuffer (m : PacketBuffer) : PacketBuffer :=
  let grown := NetworkBuffer.reAllocBuffer
    ⟨m.buffer, m.beginIndex, m.endIndex, m.bufferSize, sub32 m.endIndex m.beginIndex⟩
  ⟨grown.buffer, grown.beginIndex, grown.endIndex, grown.bufferSize⟩

def grow (total : Nat) (m : PacketBuffer) : PacketBuffer ⊕ PacketBuffer :=
  if getEmptySize m < total then .inl (reAllocBuffer m) else .inr m

def fillData (m : PacketBuffer) (size : Nat) : PacketBuffer :=
  { m with endIndex := add32 m.endIndex size }

/-- A message is serialized to `GetBuffer()`, the start of the memory. -/
def serializeToBuffer (fuel : Nat) (m : PacketBuffer) (bytes : List UInt8) : Option PacketBuffer :=
  (loop (grow bytes.length) fuel m).map fun r =>
    fillData { r with buffer := blit r.buffer 0 bytes } bytes.length

def serializeChars (fuel : Nat) (m : PacketBuffer) (bytes : List UInt8) : Option PacketBuffer :=
  (loop (grow bytes.length) fuel m).map fun r =>
    fillData { r with buffer := blit r.buffer r.endIndex bytes } bytes.length

def getDataLength (m : PacketBuffer) : Nat := sub32 m.endIndex m.beginIndex % 65536

/-- `CopyFrom`: `total` is the length as `GetDataLength` returns it. -/
def copyFrom (fuel : Nat) (m source : PacketBuffer) : Option PacketBuffer :=
  (loop (grow (getDataLength source)) fuel m).map fun r =>
    { r with
      buffer := blit r.buffer 0 (slice source.buffer 0 (getDataLength source))
      beginIndex := 0
      endIndex := getDataLength source }

structure Holds (m : PacketBuffer) (bytes : List UInt8) : Prop where
  begins : m.beginIndex = 0
  ends : m.endIndex = bytes.length
  fits : bytes.length ≤ m.bufferSize
  word : m.bufferSize < 4294967296
  cells : slice m.buffer 0 bytes.length = bytes

def writtenSize (p : Packet) : Nat :=
  (if isHttpMsg p.msgId then 0 else 4 + headSizeOf p) + TcpFraming.getDataLength p

def wireBytes (p : Packet) : List UInt8 := if isHttpMsg p.msgId then p.data else frame p

/-- The total size of the frame is an `unsigned short`. -/
def Representable (p : Packet) : Prop := p.data.length + headSizeOf p + 4 < 65536

/-- `AddPacket` appends the whole packet within the room it has reserved. -/
structure Exact (b : Buffer) (p : Packet) : Prop where
  total : totalSizeOf p = p.data.length + headSizeOf p + 4
  added : ∃ fuel reserved after,
    loop (reserve (totalSizeOf p)) fuel b = some reserved ∧
    writtenSize p ≤ totalSizeOf p ∧ totalSizeOf p ≤ NetworkBuffer.getEmptySize reserved ∧
    addPacket fuel b p = some after ∧ contents after = contents b ++ wireBytes p

def Refused (b : Buffer) (p : Packet) : Prop := ∃ fuel, addPacket fuel b p = some b

/-- No byte of the packet in `source` is lost: by its length, by a copy into a
packet from the pool, or on the way into a send buffer. -/
structure Accounted (p : Packet) (source pooled : PacketBuffer) (b : Buffer) : Prop where
  length : getDataLength source = p.data.length
  copied : ∃ fuel copy, copyFrom fuel (awake pooled) source = some copy ∧ Holds copy p.data
  added : Exact b p ∨ ¬Representable p ∧ Refused b p

/-! ### The memory of a packet -/

theorem re_alloc_awake (m : PacketBuffer) (room : m.bufferSize + additionalSize < 4294967296) :
    reAllocBuffer (awake m) =
      ⟨fun _ => 0, 0, 0, m.bufferSize + additionalSize⟩ := by
  have size : add32 m.bufferSize additionalSize = m.bufferSize + additionalSize :=
    add32_exact _ _ room
  simp [reAllocBuffer, NetworkBuffer.reAllocBuffer, awake, sub32, size]

theorem get_empty_size_awake (m : PacketBuffer) (word : m.bufferSize < 4294967296) :
    getEmptySize (awake m) = m.bufferSize := by
  simp only [getEmptySize, awake]
  exact sub32_exact _ _ (Nat.zero_le _) word

theorem get_data_length_held {m : PacketBuffer} {bytes : List UInt8} (held : Holds m bytes) :
    getDataLength m = bytes.length % 65536 := by
  have fits := held.fits
  have word := held.word
  rw [getDataLength, held.begins, held.ends, sub32_exact _ _ (Nat.zero_le _) (by omega)]
  rfl

/-- The loop in front of a copy ends with room for it, whatever the size of the
packet it finds in the pool. -/
theorem grow_ends (total : Nat) (m : PacketBuffer) (word : m.bufferSize < 4294967296)
    (room : m.bufferSize < total → total + additionalSize < 4294967296) :
    ∃ fuel r, loop (grow total) fuel (awake m) = some r ∧
      r.beginIndex = 0 ∧ r.endIndex = 0 ∧ total ≤ r.bufferSize ∧ r.bufferSize < 4294967296 := by
  generalize lacking : total - m.bufferSize = missing
  induction missing using Nat.strongRecOn generalizing m with
  | ind missing ih =>
      have empty := get_empty_size_awake m word
      by_cases short : m.bufferSize < total
      · have grown : reAllocBuffer (awake m) = ⟨fun _ => 0, 0, 0, m.bufferSize + additionalSize⟩ :=
          re_alloc_awake m (by have := room short; omega)
        have positive : 0 < additionalSize := by decide
        have turn : grow total (awake m) =
            .inl (awake ⟨fun _ => 0, 0, 0, m.bufferSize + additionalSize⟩) := by
          rw [grow, empty, if_pos short, grown]
          rfl
        have fits := room short
        obtain ⟨fuel, r, done, rest⟩ := ih (total - (m.bufferSize + additionalSize)) (by omega)
          ⟨fun _ => 0, 0, 0, m.bufferSize + additionalSize⟩ (by dsimp only; omega)
          (fun _ => fits) rfl
        exact ⟨fuel + 1, r, (loop_turn fuel turn).trans done, rest⟩
      · have leaves : grow total (awake m) = .inr (awake m) := by
          rw [grow, empty, if_neg short]
        exact ⟨1, awake m, loop_exit 0 leaves, rfl, rfl, Nat.le_of_not_lt short, word⟩

theorem serialize_holds (pooled : PacketBuffer) (bytes : List UInt8)
    (word : pooled.bufferSize < 4294967296)
    (room : pooled.bufferSize < bytes.length → bytes.length + additionalSize < 4294967296) :
    ∃ fuel m, serializeToBuffer fuel (awake pooled) bytes = some m ∧ Holds m bytes ∧
      serializeChars fuel (awake pooled) bytes = some m := by
  obtain ⟨fuel, r, done, begins, ends, fits, small⟩ := grow_ends bytes.length pooled word room
  have length : add32 r.endIndex bytes.length = bytes.length := by
    rw [ends, add32_exact _ _ (by omega), Nat.zero_add]
  refine ⟨fuel, _, by rw [serializeToBuffer, done]; rfl, ?_, by simp [serializeChars, done, ends]⟩
  constructor
  · exact begins
  · exact length
  · exact fits
  · exact small
  · exact slice_blit r.buffer 0 bytes

theorem copy_from_holds (pooled source : PacketBuffer) (bytes : List UInt8)
    (word : pooled.bufferSize < 4294967296) (held : Holds source bytes)
    (short : bytes.length < 65536) :
    ∃ fuel copy, copyFrom fuel (awake pooled) source = some copy ∧ Holds copy bytes := by
  have length : getDataLength source = bytes.length :=
    (get_data_length_held held).trans (Nat.mod_eq_of_lt short)
  obtain ⟨fuel, r, done, begins, ends, fits, small⟩ := grow_ends bytes.length pooled word
    (fun _ => by unfold additionalSize; omega)
  refine ⟨fuel, _, by rw [copyFrom, length, done]; rfl, ?_⟩
  constructor
  · rfl
  · rfl
  · exact fits
  · exact small
  · rw [held.cells]
    exact slice_blit r.buffer 0 bytes

/-! ### What the send buffer gets -/

theorem data_of_memory {m : PacketBuffer} {p : Packet} (held : Holds m p.data) :
    getDataLength m = TcpFraming.getDataLength p ∧
      slice m.buffer 0 (getDataLength m) = p.data.take (TcpFraming.getDataLength p) := by
  have length := get_data_length_held held
  refine ⟨length, ?_⟩
  have within : TcpFraming.getDataLength p ≤ p.data.length := Nat.mod_le _ _
  rw [length]
  conv_rhs => rw [← held.cells]
  have whole := window_linear m.buffer (p.data.length) 0 p.data.length (by omega)
  have part := window_linear m.buffer (p.data.length) 0 (TcpFraming.getDataLength p) (by omega)
  rw [← whole, window_take _ _ _ _ _ within, part]
  rfl

theorem data_length_whole (p : Packet) (fits : Representable p) :
    TcpFraming.getDataLength p = p.data.length ∧
      totalSizeOf p = p.data.length + headSizeOf p + 4 := by
  unfold Representable at fits
  have length : TcpFraming.getDataLength p = p.data.length := Nat.mod_eq_of_lt (by omega)
  refine ⟨length, ?_⟩
  rw [totalSizeOf, length, Nat.mod_eq_of_lt (by omega)]

theorem add_packet_whole (fuel : Nat) (b after : Buffer) (p : Packet) (steady : Steady b)
    (fits : Representable p)
    (grows : NetworkBuffer.getEmptySize b < totalSizeOf p →
      b.bufferSize + additionalSize < 2147483648)
    (added : addPacket fuel b p = some after) :
    Steady after ∧ contents after = contents b ++ wireBytes p := by
  obtain ⟨length, total⟩ := data_length_whole p fits
  unfold Representable at fits
  unfold wireBytes
  split
  · rename_i http
    obtain ⟨r, done, rfl⟩ := Option.map_eq_some_iff.mp added
    obtain ⟨steadyR, same, room⟩ := reserve_spec fuel b r _ steady (by omega) grows done
    obtain ⟨kept, appended, -⟩ := append_steady r p.data steadyR (by omega)
    have whole : p.data.take (TcpFraming.getDataLength p) = p.data := by
      rw [length, List.take_length]
    rw [whole, writeHead, if_pos http]
    exact ⟨kept, appended.trans (by rw [same])⟩
  · rename_i tcp
    have framable : Framable p := ⟨by simpa using tcp, by omega⟩
    exact add_packet_spec fuel b after p steady framable grows added

theorem exact_of_representable (b : Buffer) (p : Packet) (steady : Steady b)
    (fits : Representable p)
    (grows : NetworkBuffer.getEmptySize b < totalSizeOf p →
      b.bufferSize + additionalSize < 2147483648) : Exact b p := by
  obtain ⟨length, total⟩ := data_length_whole p fits
  have short : totalSizeOf p < 65536 := Nat.mod_lt _ (by decide)
  obtain ⟨r, done⟩ := reserve_ends b (totalSizeOf p) steady short grows
  have room := (reserve_spec 2 b r _ steady short grows done).2.2
  have sizes : writtenSize p ≤ totalSizeOf p := by
    unfold writtenSize
    split <;> omega
  have after : addPacket 2 b p =
      some (memcpyToBuffer (writeHead r p) (p.data.take (TcpFraming.getDataLength p))) := by
    rw [addPacket, done]
    rfl
  exact ⟨total, 2, r, _, done, sizes, room, after,
    (add_packet_whole 2 b _ p steady fits grows after).2⟩

theorem memcpy_to_count (b : Buffer) (bytes : List UInt8) :
    (memcpyToBuffer b bytes).dataSize = add32 b.dataSize bytes.length := by
  unfold memcpyToBuffer
  split <;> exact (fill_date_fields _ _).2.2.2

theorem reserve_count (needed fuel : Nat) (b r : Buffer)
    (done : loop (reserve needed) fuel b = some r) : r.dataSize = b.dataSize := by
  apply loop_result (fun state => state.dataSize = b.dataSize)
    (fun result => result.dataSize = b.dataSize) _ _ fuel b r rfl done
  · intro state next same turn
    unfold reserve at turn
    split at turn
    · cases turn
      refine Eq.trans ?_ same
      unfold NetworkBuffer.reAllocBuffer
      split
      · rfl
      split <;> rfl
    · cases turn
  · intro state result same leaves
    unfold reserve at leaves
    split at leaves
    · cases leaves
    · cases leaves
      exact same

theorem add_packet_count (fuel : Nat) (b after : Buffer) (p : Packet)
    (small : b.dataSize + writtenSize p < 4294967296) (added : addPacket fuel b p = some after) :
    after.dataSize = b.dataSize + writtenSize p := by
  obtain ⟨r, done, rfl⟩ := Option.map_eq_some_iff.mp added
  have count := reserve_count _ fuel b r done
  have within : TcpFraming.getDataLength p ≤ p.data.length := Nat.mod_le _ _
  unfold writtenSize at small ⊢
  unfold writeHead
  split
  · rename_i http
    rw [if_pos http] at small
    rw [memcpy_to_count, count, List.length_take, Nat.min_eq_left within,
      add32_exact _ _ (by omega), Nat.zero_add]
  · rename_i tcp
    rw [if_neg tcp] at small
    simp only [memcpy_to_count, count, little_endian_length, head_of_length, List.length_take,
      Nat.min_eq_left within]
    rw [add32_exact b.dataSize 2 (by omega), add32_exact (b.dataSize + 2) 2 (by omega),
      add32_exact _ (headSizeOf p) (by omega), add32_exact _ _ (by omega)]
    omega

/-- A packet too long for its total size is never refused. -/
theorem unrepresentable_lost (p : Packet) (source pooled : PacketBuffer) (b : Buffer)
    (steady : Steady b) (held : Holds source p.data) (long : ¬Representable p) :
    ¬Accounted p source pooled b := by
  intro accounted
  unfold Representable at long
  have heads := head_size_of_cases p
  have length := (get_data_length_held held).symm.trans accounted.length
  have short : p.data.length < 65536 := by omega
  rcases accounted.added with exactly | ⟨_, fuel, refused⟩
  · have bound : totalSizeOf p < 65536 := Nat.mod_lt _ (by decide)
    have total := exactly.total
    omega
  · have holds := steady.sound.holds
    have sized := steady.sized
    unfold IntSized at sized
    have written : 0 < writtenSize p ∧ writtenSize p < 65536 + 24 := by
      have same : TcpFraming.getDataLength p = p.data.length := Nat.mod_eq_of_lt short
      unfold writtenSize
      split <;> omega
    have count := add_packet_count fuel b b p (by omega) refused
    omega

/-- The bytes of a packet are all accounted for exactly when its frame fits the
sixteen bits of its total size. -/
theorem accounted_iff_representable (p : Packet) (source pooled : PacketBuffer) (b : Buffer)
    (held : Holds source p.data) (word : pooled.bufferSize < 4294967296) (steady : Steady b)
    (grows : NetworkBuffer.getEmptySize b < totalSizeOf p →
      b.bufferSize + additionalSize < 2147483648) :
    Accounted p source pooled b ↔ p.data.length + headSizeOf p + 4 < 65536 := by
  constructor
  · intro accounted
    by_contra long
    exact unrepresentable_lost p source pooled b steady held long accounted
  · intro fits
    have short : p.data.length < 65536 := by omega
    exact ⟨(get_data_length_held held).trans (Nat.mod_eq_of_lt short),
      copy_from_holds pooled source p.data word held short,
      Or.inl (exact_of_representable b p steady fits grows)⟩

/-- An `AccountCheck` whose account is that many letters: the field's tag, its
length in three groups of seven bits, the letters. -/
def accountCheck (letters : Nat) : Packet where
  socketKey := ⟨-1, .none⟩
  tagKey := SocketObject.clear
  msgId := .c2lAccountCheck
  data := [10, UInt8.ofNat (letters % 128 + 128), UInt8.ofNat (letters / 128 % 128 + 128),
    UInt8.ofNat (letters / 16384)] ++ List.replicate letters 97

def memoryOf (p : Packet) : PacketBuffer :=
  ⟨blit (fun _ => 0) 0 p.data, 0, p.data.length, 10240 + additionalSize⟩

theorem account_check_length (letters : Nat) :
    (accountCheck letters).data.length = letters + 4 := by
  simp [accountCheck]

theorem account_check_head (letters : Nat) : headSizeOf (accountCheck letters) = 2 := by
  simp [headSizeOf, accountCheck, SocketObject.clear]

theorem memory_of_holds (p : Packet) (fits : p.data.length ≤ 10240 + additionalSize) :
    Holds (memoryOf p) p.data := by
  have word : 10240 + additionalSize < 4294967296 := by decide
  exact ⟨rfl, rfl, fits, word, slice_blit _ 0 p.data⟩

theorem create_steady : Steady (create 131072) := by
  refine ⟨create_sound 131072 (by decide), ?_⟩
  unfold IntSized
  decide

/-- The longest account whose packet is sent whole. -/
theorem accounted_iff_representable_longest :
    Accounted (accountCheck 65525) (memoryOf (accountCheck 65525)) ⟨fun _ => 0, 0, 0, 10240⟩
      (create 131072) := by
  have length := account_check_length 65525
  have head := account_check_head 65525
  have room : 65529 ≤ 10240 + additionalSize := by decide
  have grows : 131072 + additionalSize < 2147483648 := by decide
  apply (accounted_iff_representable _ _ _ _ (memory_of_holds _ (by omega)) (by decide)
    create_steady (fun _ => grows)).mpr
  omega

/-- With one letter more the total size wraps to 0: nothing is reserved and
65536 bytes are written. -/
theorem one_letter_more_is_lost :
    Holds (memoryOf (accountCheck 65526)) (accountCheck 65526).data ∧
      totalSizeOf (accountCheck 65526) = 0 ∧ writtenSize (accountCheck 65526) = 65536 ∧
      ¬Accounted (accountCheck 65526) (memoryOf (accountCheck 65526)) ⟨fun _ => 0, 0, 0, 10240⟩
        (create 131072) := by
  have length := account_check_length 65526
  have head := account_check_head 65526
  have counted : TcpFraming.getDataLength (accountCheck 65526) = 65530 := by
    rw [TcpFraming.getDataLength, length]
  have room : 65530 ≤ 10240 + additionalSize := by decide
  have held := memory_of_holds (accountCheck 65526) (by omega)
  refine ⟨held, ?_, ?_, ?_⟩
  · rw [totalSizeOf, counted, head]
  · have tcp : isHttpMsg (accountCheck 65526).msgId = false := rfl
    rw [writtenSize, counted, head, tcp]
    rfl
  · apply unrepresentable_lost _ _ _ _ create_steady held
    unfold Representable
    omega

end GameBook.PacketLength
