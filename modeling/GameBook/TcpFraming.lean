import GameBook.NetworkBuffer
import GameBook.ProtoId
import GameBook.SocketObject
import GameBook.WhileLoop

/-!
Packets on a TCP connection: `SendNetworkBuffer::AddPacket` writes total size,
head size, head and body; `RecvNetworkBuffer::GetTcpPacket` reads them back.
Both sizes are unsigned shorts. `PacketHead` is the message id alone and
`PacketHeadS2S`, packed to 4 bytes, adds two bytes of padding and two SNs.
`Frame` functions read the same fields from a plain byte list.
-/

namespace GameBook.TcpFraming

open RingWindow MachineWord NetworkBuffer ProtoId SocketObject WhileLoop

/-- A packet with the `_endIndex - _beginIndex` bytes of its body. -/
structure Packet extends NetIdentify where
  msgId : MsgId
  data : List UInt8

def getDataLength (p : Packet) : Nat := p.data.length % 65536

def headSizeOf (p : Packet) : Nat := if (p.tagKey .entity).isNone then 2 else 20

def totalSizeOf (p : Packet) : Nat := (getDataLength p + headSizeOf p + 4) % 65536

def playerSnOf (p : Packet) : UInt64 :=
  match p.tagKey .player with
  | none => 0
  | some player => player.keyInt64

def headOf (p : Packet) : List UInt8 :=
  match p.tagKey .entity with
  | none => littleEndian 2 (number p.msgId)
  | some entity =>
      littleEndian 2 (number p.msgId) ++ [0, 0] ++ littleEndian 8 entity.keyInt64.toNat ++
        littleEndian 8 (playerSnOf p).toNat

def reserve (totalSize : Nat) (b : Buffer) : Buffer ⊕ Buffer :=
  if getEmptySize b < totalSize then .inl (reAllocBuffer b) else .inr b

/-- Packets of the http ids have a body only. -/
def writeHead (b : Buffer) (p : Packet) : Buffer :=
  if isHttpMsg p.msgId then b
  else memcpyToBuffer (memcpyToBuffer (memcpyToBuffer b (littleEndian 2 (totalSizeOf p)))
    (littleEndian 2 (headSizeOf p))) (headOf p)

def addPacket (fuel : Nat) (b : Buffer) (p : Packet) : Option Buffer :=
  (loop (reserve (totalSizeOf p)) fuel b).map fun reserved =>
    memcpyToBuffer (writeHead reserved p) (p.data.take (getDataLength p))

/-! Receiving. The pieces of `GetTcpPacket` in the order it computes them. -/

def totalSize (b : Buffer) : Nat := fromLittleEndian (memcpyFromBuffer b 2)

def afterTotal (b : Buffer) : Buffer := removeDate b 2

def headSize (b : Buffer) : Nat := fromLittleEndian (memcpyFromBuffer (afterTotal b) 2)

def afterHeadSize (b : Buffer) : Buffer := removeDate (afterTotal b) 2

/-- `sizeof(PacketHead)` when the head size says so, else `sizeof(PacketHeadS2S)`. -/
def headLength (b : Buffer) : Nat := if headSize b = 2 then 2 else 20

def head (b : Buffer) : List UInt8 := memcpyFromBuffer (afterHeadSize b) (headLength b)

def afterHead (b : Buffer) : Buffer := removeDate (afterHeadSize b) (headLength b)

def dataLength (b : Buffer) : Nat := sub32 (sub32 (totalSize b) (headLength b)) 4

def body (b : Buffer) : List UInt8 := memcpyFromBuffer (afterHead b) (dataLength b)

def afterBody (b : Buffer) : Buffer := removeDate (afterHead b) (dataLength b)

/-- `while (pPacket->GetTotalSize() < dataLength) pPacket->ReAllocBuffer()` on
the buffer size of a packet from the pool. -/
def growPacket (needed size : Nat) : Nat ⊕ Nat :=
  if size < needed then .inl (add32 size additionalSize) else .inr size

/-- The tags of a received packet: those of the connection, and with an S2S
head the two SNs. -/
def headTags (conn : NetIdentify) (headSize : Nat) (head : List UInt8) : TagKey :=
  if headSize = 2 then copyFrom clear conn.tagKey
  else
    addTagInt
      (addTagInt (copyFrom clear conn.tagKey) .entity
        (UInt64.ofNat (fromLittleEndian ((head.drop 4).take 8))))
      .player (UInt64.ofNat (fromLittleEndian ((head.drop 12).take 8)))

/-- The arithmetic a call does on the buffer: a copy or a removal of `size`
bytes while `held` are in it, and the subtraction behind `dataLength`. -/
inductive Access where
  | copy (size held : Nat)
  | remove (size held : Nat)
  | subtract (totalSize overhead : Nat)

inductive Outcome where
  | null
  | closed
  | packet (p : Packet)

/-- One call: what it returns (nothing while the packet still grows), the
buffer it leaves and its accesses. -/
structure Call where
  outcome : Option Outcome
  after : Buffer
  accesses : List Access

def field (b : Buffer) (size : Nat) : List Access := [.copy size b.dataSize, .remove size b.dataSize]

def headAccesses (b : Buffer) : List Access :=
  field b 2 ++ field (afterTotal b) 2 ++ field (afterHeadSize b) (headLength b)

def bodyAccesses (b : Buffer) : List Access :=
  .subtract (totalSize b) (headLength b + 4) :: field (afterHead b) (dataLength b)

def getTcpPacket (fuel pooled : Nat) (conn : NetIdentify) (b : Buffer) : Call :=
  if b.dataSize < 2 then ⟨some .null, b, []⟩
  else if b.dataSize < totalSize b then ⟨some .null, b, [.copy 2 b.dataSize]⟩
  else
    match findValueByNumber (fromLittleEndian ((head b).take 2)) with
    | none => ⟨some .closed, afterHead b, headAccesses b⟩
    | some msgId =>
        ⟨(loop (growPacket (dataLength b)) fuel pooled).map fun _ => .packet {
            socketKey := conn.socketKey
            tagKey := headTags conn (headSize b) (head b)
            msgId
            data := body b },
          afterBody b, headAccesses b ++ bodyAccesses b⟩

/-! The fields of a frame on a byte list. -/

def frameTotal (bytes : List UInt8) : Nat := fromLittleEndian (bytes.take 2)

def frameHeadSize (bytes : List UInt8) : Nat := fromLittleEndian ((bytes.drop 2).take 2)

def frameHeadLength (bytes : List UInt8) : Nat := if frameHeadSize bytes = 2 then 2 else 20

def frameHead (bytes : List UInt8) : List UInt8 := (bytes.drop 4).take (frameHeadLength bytes)

def frameMsgId (bytes : List UInt8) : Option MsgId :=
  findValueByNumber (fromLittleEndian ((frameHead bytes).take 2))

def frameBody (bytes : List UInt8) : List UInt8 :=
  (bytes.drop (4 + frameHeadLength bytes)).take (frameTotal bytes - (4 + frameHeadLength bytes))

def framePacket (conn : NetIdentify) (msgId : MsgId) (bytes : List UInt8) : Packet where
  socketKey := conn.socketKey
  tagKey := headTags conn (frameHeadSize bytes) (frameHead bytes)
  msgId := msgId
  data := frameBody bytes

/-- The call returns at its first or second check. -/
def Waits (bytes : List UInt8) : Prop := bytes.length < 2 ∨ bytes.length < frameTotal bytes

instance (bytes : List UInt8) : Decidable (Waits bytes) :=
  inferInstanceAs (Decidable (_ ∨ _))

/-- The bytes hold the length fields and the head, and a body of non-negative
length follows a valid id. -/
structure Framed (bytes : List UInt8) : Prop where
  headHeld : 4 + frameHeadLength bytes ≤ bytes.length
  lengths : (frameMsgId bytes).isSome → 4 + frameHeadLength bytes ≤ frameTotal bytes

theorem frame_total_bound (bytes : List UInt8) : frameTotal bytes < 65536 := by
  have bound := from_little_endian_bound (bytes.take 2)
  have short : (bytes.take 2).length ≤ 2 := by simp
  have power : 256 ^ (bytes.take 2).length ≤ 256 ^ 2 := Nat.pow_le_pow_right (by decide) short
  exact Nat.lt_of_lt_of_le bound power

theorem frame_head_length_cases (bytes : List UInt8) :
    frameHeadLength bytes = 2 ∨ frameHeadLength bytes = 20 := by
  unfold frameHeadLength
  split
  · exact Or.inl rfl
  · exact Or.inr rfl

/-! What one copy and removal does on a sound buffer. -/

structure Steady (b : Buffer) : Prop where
  sound : Sound b
  sized : IntSized b

theorem remove_steady (b : Buffer) (size : Nat) (steady : Steady b) (held : size ≤ b.dataSize) :
    Steady (removeDate b size) ∧ contents (removeDate b size) = (contents b).drop size ∧
      (removeDate b size).dataSize = b.dataSize - size ∧
      (removeDate b size).bufferSize = b.bufferSize := by
  have keptSize := (remove_date_fields b size).2.1
  have small := steady.sized
  refine ⟨⟨remove_date_sound b size steady.sound small held, ?_⟩,
    remove_date_contents b size steady.sound small held,
    remove_date_count b size steady.sound small held, keptSize⟩
  rw [IntSized, keptSize]
  exact small

theorem receive_steady (b : Buffer) (bytes : List UInt8) (steady : Steady b)
    (grows : getEmptySize b < 24 → b.bufferSize + additionalSize < 2147483648)
    (offered : bytes.length ≤ getWriteSize (recvGuard b)) :
    Steady (receive (recvGuard b) bytes) ∧
      contents (receive (recvGuard b) bytes) = contents b ++ bytes := by
  obtain ⟨guardSound, guardSized, same, room⟩ := recv_guard_spec b steady.sound steady.sized grows
  obtain ⟨kept, appended, size⟩ := receive_spec _ bytes guardSound guardSized room offered
  refine ⟨⟨kept, ?_⟩, by rw [appended, same]⟩
  rw [IntSized, size]
  exact guardSized

theorem total_size_frame (b : Buffer) (steady : Steady b) (held : 2 ≤ b.dataSize) :
    totalSize b = frameTotal (contents b) := by
  rw [totalSize, memcpy_from_buffer_spec b 2 steady.sound steady.sized held, frameTotal]

theorem waits_iff (b : Buffer) (steady : Steady b) :
    Waits (contents b) ↔ b.dataSize < 2 ∨ b.dataSize < totalSize b := by
  rw [Waits, contents_length]
  by_cases short : b.dataSize < 2
  · simp [short]
  · rw [total_size_frame b steady (by omega)]

theorem head_size_frame (b : Buffer) (steady : Steady b) (held : 4 ≤ b.dataSize) :
    headSize b = frameHeadSize (contents b) := by
  obtain ⟨steadyTotal, rest, count, -⟩ := remove_steady b 2 steady (by omega)
  rw [headSize, afterTotal,
    memcpy_from_buffer_spec _ 2 steadyTotal.sound steadyTotal.sized (by omega), rest, frameHeadSize]

theorem head_length_frame (b : Buffer) (steady : Steady b) (held : 4 ≤ b.dataSize) :
    headLength b = frameHeadLength (contents b) := by
  rw [headLength, head_size_frame b steady held, frameHeadLength]

theorem after_head_size_steady (b : Buffer) (steady : Steady b) (held : 4 ≤ b.dataSize) :
    Steady (afterHeadSize b) ∧ contents (afterHeadSize b) = (contents b).drop 4 ∧
      (afterHeadSize b).dataSize = b.dataSize - 4 ∧ (afterHeadSize b).bufferSize = b.bufferSize := by
  obtain ⟨steadyTotal, rest, count, size⟩ := remove_steady b 2 steady (by omega)
  obtain ⟨steadyHead, restHead, countHead, sizeHead⟩ :=
    remove_steady (afterTotal b) 2 steadyTotal (by rw [afterTotal]; omega)
  rw [afterTotal] at restHead countHead sizeHead
  refine ⟨steadyHead, ?_, ?_, ?_⟩
  · rw [afterHeadSize, afterTotal, restHead, rest, List.drop_drop]
  · rw [afterHeadSize, afterTotal, countHead, count]
    omega
  · rw [afterHeadSize, afterTotal, sizeHead, size]

theorem head_frame (b : Buffer) (steady : Steady b)
    (held : 4 + frameHeadLength (contents b) ≤ b.dataSize) :
    head b = frameHead (contents b) ∧ Steady (afterHead b) ∧
      contents (afterHead b) = (contents b).drop (4 + frameHeadLength (contents b)) ∧
      (afterHead b).dataSize = b.dataSize - (4 + frameHeadLength (contents b)) ∧
      (afterHead b).bufferSize = b.bufferSize := by
  obtain ⟨steadySize, rest, count, size⟩ := after_head_size_steady b steady (by omega)
  have sameLength := head_length_frame b steady (by omega)
  obtain ⟨steadyHead, restHead, countHead, sizeHead⟩ :=
    remove_steady (afterHeadSize b) (headLength b) steadySize (by omega)
  refine ⟨?_, steadyHead, ?_, ?_, ?_⟩
  · rw [head, memcpy_from_buffer_spec _ _ steadySize.sound steadySize.sized (by omega), rest,
      sameLength, frameHead]
  · rw [afterHead, restHead, rest, sameLength, List.drop_drop]
  · rw [afterHead, countHead, count, sameLength]
    omega
  · rw [afterHead, sizeHead, size]

theorem data_length_exact (b : Buffer) (steady : Steady b) (held : 4 ≤ b.dataSize)
    (lengths : 4 + frameHeadLength (contents b) ≤ frameTotal (contents b)) :
    dataLength b = frameTotal (contents b) - (4 + frameHeadLength (contents b)) := by
  have bound := frame_total_bound (contents b)
  rw [dataLength, total_size_frame b steady (by omega), head_length_frame b steady held,
    sub32_exact _ (frameHeadLength (contents b)) (by omega) (by omega),
    sub32_exact _ _ (by omega) (by omega)]
  omega

/-- Two turns are enough for a length that fits an unsigned short. -/
theorem grow_packet_ends (needed pooled : Nat) (short : needed < 65536) (fits : pooled < 4294967296) :
    ∃ size, loop (growPacket needed) 2 pooled = some size := by
  by_cases small : pooled < needed
  · have grown : add32 pooled additionalSize = pooled + additionalSize :=
      add32_exact _ _ (by unfold additionalSize; omega)
    have enough : ¬ pooled + additionalSize < needed := by unfold additionalSize; omega
    have turns : growPacket needed pooled = .inl (pooled + additionalSize) := by
      rw [growPacket, if_pos small, grown]
    have leaves : growPacket needed (pooled + additionalSize) = .inr (pooled + additionalSize) := by
      rw [growPacket, if_neg enough]
    exact ⟨pooled + additionalSize, (loop_turn 1 turns).trans (loop_exit 0 leaves)⟩
  · have leaves : growPacket needed pooled = .inr pooled := by rw [growPacket, if_neg small]
    exact ⟨pooled, loop_exit 1 leaves⟩

/-! The three ways a call on a sound buffer can go. -/

theorem get_tcp_packet_waits (fuel pooled : Nat) (conn : NetIdentify) (b : Buffer)
    (steady : Steady b) (waits : Waits (contents b)) :
    (getTcpPacket fuel pooled conn b).outcome = some .null ∧
      (getTcpPacket fuel pooled conn b).after = b ∧
      ∀ access ∈ (getTcpPacket fuel pooled conn b).accesses, access = .copy 2 b.dataSize ∧ 2 ≤ b.dataSize := by
  have early := (waits_iff b steady).mp waits
  by_cases short : b.dataSize < 2
  · simp [getTcpPacket, short]
  · have incomplete : b.dataSize < totalSize b := by omega
    simp [getTcpPacket, short, incomplete]
    omega

theorem get_tcp_packet_closes (fuel pooled : Nat) (conn : NetIdentify) (b : Buffer)
    (steady : Steady b) (whole : ¬ Waits (contents b)) (framed : Framed (contents b))
    (unknown : frameMsgId (contents b) = none) :
    getTcpPacket fuel pooled conn b = ⟨some .closed, afterHead b, headAccesses b⟩ := by
  have held := framed.headHeld
  rw [contents_length] at held
  rw [waits_iff b steady] at whole
  have sameHead := (head_frame b steady held).1
  rw [frameMsgId, ← sameHead] at unknown
  rw [getTcpPacket, if_neg (by omega), if_neg (by omega), unknown]

theorem get_tcp_packet_packet (fuel pooled : Nat) (conn : NetIdentify) (b : Buffer) (msgId : MsgId)
    (steady : Steady b) (whole : ¬ Waits (contents b)) (framed : Framed (contents b))
    (known : frameMsgId (contents b) = some msgId) :
    getTcpPacket fuel pooled conn b =
      ⟨(loop (growPacket (dataLength b)) fuel pooled).map
          fun _ => .packet (framePacket conn msgId (contents b)),
        afterBody b, headAccesses b ++ bodyAccesses b⟩ := by
  have held := framed.headHeld
  have lengths := framed.lengths (by simp [known])
  rw [contents_length] at held
  rw [waits_iff b steady] at whole
  obtain ⟨sameHead, steadyHead, rest, count, -⟩ := head_frame b steady held
  have length := data_length_exact b steady (by omega) lengths
  have sameSize := head_size_frame b steady (by omega)
  have total := total_size_frame b steady (by omega)
  have sameBody : body b = frameBody (contents b) := by
    rw [body, memcpy_from_buffer_spec _ _ steadyHead.sound steadyHead.sized (by omega), rest,
      length, frameBody]
  rw [frameMsgId, ← sameHead] at known
  rw [getTcpPacket, if_neg (by omega), if_neg (by omega), known, sameBody, sameHead, sameSize]
  rfl

theorem frame_outcome (conn : NetIdentify) (b : Buffer) (msgId : MsgId) (steady : Steady b)
    (whole : ¬ Waits (contents b)) (framed : Framed (contents b))
    (known : frameMsgId (contents b) = some msgId) :
    (getTcpPacket 2 10240 conn b).outcome = some (.packet (framePacket conn msgId (contents b))) := by
  have held := framed.headHeld
  have lengths := framed.lengths (by simp [known])
  have bound := frame_total_bound (contents b)
  have cases := frame_head_length_cases (contents b)
  rw [contents_length] at held
  have short : dataLength b < 65536 := by
    rw [data_length_exact b steady (by omega) lengths]
    omega
  obtain ⟨size, grown⟩ := grow_packet_ends (dataLength b) 10240 short (by decide)
  rw [get_tcp_packet_packet 2 10240 conn b msgId steady whole framed known, grown]
  rfl

theorem after_body_frame (b : Buffer) (steady : Steady b) (whole : ¬ Waits (contents b))
    (held : 4 + frameHeadLength (contents b) ≤ b.dataSize)
    (lengths : 4 + frameHeadLength (contents b) ≤ frameTotal (contents b)) :
    Steady (afterBody b) ∧ contents (afterBody b) = (contents b).drop (frameTotal (contents b)) ∧
      (afterBody b).dataSize = b.dataSize - frameTotal (contents b) ∧
      (afterBody b).bufferSize = b.bufferSize := by
  rw [Waits, contents_length] at whole
  obtain ⟨-, steadyHead, rest, count, size⟩ := head_frame b steady held
  have length := data_length_exact b steady (by omega) lengths
  have consumed : 4 + frameHeadLength (contents b) +
      (frameTotal (contents b) - (4 + frameHeadLength (contents b))) = frameTotal (contents b) := by
    omega
  obtain ⟨steadyBody, restBody, countBody, sizeBody⟩ :=
    remove_steady (afterHead b) (dataLength b) steadyHead (by omega)
  refine ⟨steadyBody, ?_, ?_, ?_⟩
  · rw [afterBody, restBody, rest, List.drop_drop, length, consumed]
  · rw [afterBody, countBody, count, length]
    omega
  · rw [afterBody, sizeBody, size]

end GameBook.TcpFraming
