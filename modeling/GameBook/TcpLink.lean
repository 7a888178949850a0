import GameBook.TcpFraming
import GameBook.LabelledRun
import Mathlib.Data.List.Forall2

/-!
One direction of a TCP connection: the send buffer of one side, the bytes on
the wire and the receive buffer of the other. Packets are added, bytes are sent
and received in pieces of any size, and `GetTcpPacket` may be called at any
moment. `added` and `fetched` record the packets at both ends.
-/

namespace GameBook.TcpLink

open RingWindow MachineWord NetworkBuffer ProtoId SocketObject WhileLoop TcpFraming LabelledRun

structure Link where
  sent : Buffer
  wire : List UInt8
  recv : Buffer
  added : List Packet
  fetched : List Packet

def frame (p : Packet) : List UInt8 :=
  littleEndian 2 (totalSizeOf p) ++ littleEndian 2 (headSizeOf p) ++ headOf p ++ p.data

structure Framable (p : Packet) : Prop where
  tcp : isHttpMsg p.msgId = false
  short : p.data.length + headSizeOf p + 4 ≤ 65535

inductive LinkLabel where
  | add (p : Packet)
  | send (count : Nat)
  | receive (count : Nat)
  | fetch

def linkStep (conn : NetIdentify) (before : Link) (label : LinkLabel) (after : Link) : Prop :=
  match label with
  | .add p =>
      Framable p ∧ ∃ fuel b, addPacket fuel before.sent p = some b ∧
        after = { before with sent := b, added := before.added ++ [p] }
  | .send count =>
      0 < count ∧ (count : Int) ≤ (sendGetBuffer before.sent).2 ∧
        after = { before with
          sent := removeDate before.sent count
          wire := before.wire ++
            slice before.sent.buffer ((sendGetBuffer before.sent).1.getD 0) count }
  | .receive count =>
      0 < count ∧ count ≤ before.wire.length ∧ count ≤ getWriteSize (recvGuard before.recv) ∧
        after = { before with
          recv := receive (recvGuard before.recv) (before.wire.take count)
          wire := before.wire.drop count }
  | .fetch =>
      ∃ fuel pooled outcome, pooled < 4294967296 ∧
        (getTcpPacket fuel pooled conn before.recv).outcome = some outcome ∧
        after = { before with
          recv := (getTcpPacket fuel pooled conn before.recv).after
          fetched := match outcome with
            | .packet p => before.fetched ++ [p]
            | _ => before.fetched }

def Sized (before : Link) : LinkLabel → Prop
  | .add p => getEmptySize before.sent < totalSizeOf p →
      before.sent.bufferSize + additionalSize < 2147483648
  | .receive _ => getEmptySize before.recv < 24 →
      before.recv.bufferSize + additionalSize < 2147483648
  | _ => True

/-- An empty pair of buffers, at any index, and nothing on the wire. -/
structure EmptyLink (l : Link) : Prop where
  sent : Sound l.sent ∧ l.sent.dataSize = 0
  recv : Sound l.recv ∧ l.recv.dataSize = 0
  wire : l.wire = []
  added : l.added = []
  fetched : l.fetched = []

/-- The received packet carries what the sent one did. The SNs travel as
integers, and the player SN is 0 when only the Entity tag was set. -/
structure SamePacket (sent received : Packet) : Prop where
  msgId : received.msgId = sent.msgId
  data : received.data = sent.data
  entity : received.tagKey .entity = (sent.tagKey .entity).map fun value => ⟨[], value.keyInt64⟩
  player : received.tagKey .player = (sent.tagKey .entity).map fun _ => ⟨[], playerSnOf sent⟩

structure DeliveryLaw (conn : NetIdentify) (l : Link) : Prop where
  inOrder : ∃ delivered pending, l.added = delivered ++ pending ∧
    List.Forall₂ SamePacket delivered l.fetched
  adds : ∀ p, Framable p → Sized l (.add p) → ∃ fuel b, addPacket fuel l.sent p = some b
  returns : ∀ pooled, pooled < 4294967296 → ∃ fuel outcome,
    (getTcpPacket fuel pooled conn l.recv).outcome = some outcome
  whole : ∀ fuel pooled, (getTcpPacket fuel pooled conn l.recv).outcome ≠ some .closed
  complete : contents l.sent = [] → l.wire = [] →
    (∃ fuel pooled, (getTcpPacket fuel pooled conn l.recv).outcome = some .null) →
    List.Forall₂ SamePacket l.added l.fetched

/-! The bytes of a frame. -/

theorem head_of_length (p : Packet) : (headOf p).length = headSizeOf p := by
  unfold headOf headSizeOf
  cases p.tagKey .entity <;> simp

theorem head_size_of_cases (p : Packet) : headSizeOf p = 2 ∨ headSizeOf p = 20 := by
  unfold headSizeOf
  split
  · exact Or.inl rfl
  · exact Or.inr rfl

theorem get_data_length_exact (p : Packet) (framable : Framable p) :
    getDataLength p = p.data.length := by
  have short := framable.short
  exact Nat.mod_eq_of_lt (by omega)

theorem total_size_of_exact (p : Packet) (framable : Framable p) :
    totalSizeOf p = p.data.length + headSizeOf p + 4 := by
  have short := framable.short
  rw [totalSizeOf, get_data_length_exact p framable, Nat.mod_eq_of_lt (by omega)]

theorem frame_length (p : Packet) (framable : Framable p) :
    (frame p).length = totalSizeOf p := by
  rw [total_size_of_exact p framable]
  simp [frame, head_of_length]
  omega

theorem frame_total_frame (p : Packet) (rest : List UInt8) (framable : Framable p) :
    frameTotal (frame p ++ rest) = totalSizeOf p := by
  have short := framable.short
  have total := total_size_of_exact p framable
  have first : (frame p ++ rest).take 2 = littleEndian 2 (totalSizeOf p) := by
    simp only [frame, List.append_assoc]
    exact List.take_left' (little_endian_length 2 _)
  rw [frameTotal, first, little_endian_round_trip, Nat.mod_eq_of_lt (by omega)]

theorem frame_head_size_frame (p : Packet) (rest : List UInt8) :
    frameHeadSize (frame p ++ rest) = headSizeOf p := by
  have cases := head_size_of_cases p
  have second : ((frame p ++ rest).drop 2).take 2 = littleEndian 2 (headSizeOf p) := by
    simp only [frame, List.append_assoc]
    rw [List.drop_left' (little_endian_length 2 _), List.take_left' (little_endian_length 2 _)]
  rw [frameHeadSize, second, little_endian_round_trip, Nat.mod_eq_of_lt (by omega)]

theorem frame_head_length_frame (p : Packet) (rest : List UInt8) :
    frameHeadLength (frame p ++ rest) = headSizeOf p := by
  rw [frameHeadLength, frame_head_size_frame]
  rcases head_size_of_cases p with two | twenty
  · rw [if_pos two, two]
  · rw [if_neg (by omega), twenty]

theorem frame_drop_sizes (p : Packet) (rest : List UInt8) :
    (frame p ++ rest).drop 4 = headOf p ++ (p.data ++ rest) := by
  have sizes : (littleEndian 2 (totalSizeOf p) ++ littleEndian 2 (headSizeOf p)).length = 4 := by simp
  simp only [frame, List.append_assoc]
  rw [← List.append_assoc, List.drop_left' sizes]

theorem frame_head_frame (p : Packet) (rest : List UInt8) :
    frameHead (frame p ++ rest) = headOf p := by
  rw [frameHead, frame_head_length_frame, frame_drop_sizes, List.take_left' (head_of_length p)]

theorem frame_body_frame (p : Packet) (rest : List UInt8) (framable : Framable p) :
    frameBody (frame p ++ rest) = p.data := by
  have total := total_size_of_exact p framable
  have length : totalSizeOf p - (4 + headSizeOf p) = p.data.length := by omega
  rw [frameBody, frame_head_length_frame, frame_total_frame p rest framable, length,
    ← List.drop_drop, frame_drop_sizes, List.drop_left' (head_of_length p), List.take_left]

theorem head_of_msg_id (p : Packet) : (headOf p).take 2 = littleEndian 2 (number p.msgId) := by
  unfold headOf
  cases p.tagKey .entity with
  | none => exact List.take_of_length_le (by simp)
  | some entity =>
      simp only [List.append_assoc]
      exact List.take_left' (little_endian_length 2 _)

theorem frame_msg_id_frame (p : Packet) (rest : List UInt8) :
    frameMsgId (frame p ++ rest) = some p.msgId := by
  have fits := number_lt p.msgId
  rw [frameMsgId, frame_head_frame, head_of_msg_id, little_endian_round_trip,
    Nat.mod_eq_of_lt (by omega), find_value_number]

theorem sn_round_trip (sn : UInt64) :
    UInt64.ofNat (fromLittleEndian (littleEndian 8 sn.toNat)) = sn := by
  have fits := sn.toNat_lt
  rw [little_endian_round_trip, Nat.mod_eq_of_lt (by omega), UInt64.ofNat_toNat]

theorem frame_packet_same (conn : NetIdentify) (p : Packet) (rest : List UInt8)
    (connected : ConnectTags conn.tagKey) (framable : Framable p) :
    SamePacket p (framePacket conn p.msgId (frame p ++ rest)) := by
  have noEntity := connect_tags_absent conn.tagKey connected .entity (Or.inl rfl)
  have noPlayer := connect_tags_absent conn.tagKey connected .player (Or.inr rfl)
  have entityCopied := copy_from_absent clear conn.tagKey .entity noEntity
  have playerCopied := copy_from_absent clear conn.tagKey .player noPlayer
  have tags : (framePacket conn p.msgId (frame p ++ rest)).tagKey =
      headTags conn (headSizeOf p) (headOf p) := by
    rw [framePacket, frame_head_size_frame, frame_head_frame]
  refine ⟨rfl, frame_body_frame p rest framable, ?_, ?_⟩
  · rw [tags]
    -- without an entity the head is the short one, and carries no player either
    cases tagged : p.tagKey .entity with
    | none => simpa [headTags, headSizeOf, tagged, clear] using entityCopied
    | some entity =>
        have sn : ((headOf p).drop 4).take 8 = littleEndian 8 entity.keyInt64.toNat := by
          simp only [headOf, tagged]
          rw [List.append_assoc, List.drop_left' (by simp), List.take_left' (by simp)]
        simp [headTags, headSizeOf, tagged, addTagInt, sn, sn_round_trip]
  · rw [tags]
    cases tagged : p.tagKey .entity with
    | none => simpa [headTags, headSizeOf, tagged, clear] using playerCopied
    | some entity =>
        have sn : ((headOf p).drop 12).take 8 = littleEndian 8 (playerSnOf p).toNat := by
          simp only [headOf, tagged]
          rw [List.drop_left' (by simp), List.take_of_length_le (by simp)]
        simp [headTags, headSizeOf, tagged, addTagInt, sn, sn_round_trip]

/-! `AddPacket` appends the frame. -/

theorem append_steady (b : Buffer) (bytes : List UInt8) (steady : Steady b)
    (room : bytes.length ≤ getEmptySize b) :
    Steady (memcpyToBuffer b bytes) ∧ contents (memcpyToBuffer b bytes) = contents b ++ bytes ∧
      getEmptySize (memcpyToBuffer b bytes) = getEmptySize b - bytes.length := by
  obtain ⟨kept, appended, size⟩ := memcpy_to_buffer_spec b bytes steady.sound steady.sized room
  have sized : IntSized (memcpyToBuffer b bytes) := by
    rw [IntSized, size]
    exact steady.sized
  refine ⟨⟨kept, sized⟩, appended, ?_⟩
  have count := congrArg List.length appended
  rw [List.length_append, contents_length, contents_length] at count
  rw [get_empty_size_exact _ kept sized, get_empty_size_exact _ steady.sound steady.sized, size,
    count]
  omega

/-- The buffer is as before, or the one reallocation that is ever needed has
made room. -/
def Reserved (b : Buffer) (needed : Nat) (r : Buffer) : Prop :=
  r = b ∨ (Steady r ∧ contents r = contents b ∧ needed ≤ getEmptySize r)

theorem reserve_turn (b r next : Buffer) (needed : Nat) (steady : Steady b) (short : needed < 65536)
    (grows : getEmptySize b < needed → b.bufferSize + additionalSize < 2147483648)
    (reserved : Reserved b needed r) (turn : reserve needed r = .inl next) :
    Steady next ∧ contents next = contents b ∧ needed ≤ getEmptySize next := by
  unfold reserve at turn
  split at turn
  · rename_i lacks
    cases turn
    rcases reserved with rfl | ⟨-, -, room⟩
    · have fits := grows lacks
      obtain ⟨kept, same, size, count⟩ := re_alloc_buffer_spec r steady.sound steady.sized
      have sized : IntSized (reAllocBuffer r) := by unfold IntSized; omega
      have holds := steady.sound.holds
      refine ⟨⟨kept, sized⟩, same, ?_⟩
      rw [get_empty_size_exact _ kept sized, size, count]
      unfold additionalSize
      omega
    · omega
  · cases turn

theorem reserve_spec (fuel : Nat) (b r : Buffer) (needed : Nat) (steady : Steady b)
    (short : needed < 65536)
    (grows : getEmptySize b < needed → b.bufferSize + additionalSize < 2147483648)
    (done : loop (reserve needed) fuel b = some r) :
    Steady r ∧ contents r = contents b ∧ needed ≤ getEmptySize r := by
  refine loop_result (Reserved b needed)
    (fun r => Steady r ∧ contents r = contents b ∧ needed ≤ getEmptySize r)
    ?_ ?_ fuel b r (Or.inl rfl) done
  · intro state next reserved turn
    exact Or.inr (reserve_turn b state next needed steady short grows reserved turn)
  · intro state result reserved turn
    unfold reserve at turn
    split at turn
    · cases turn
    · cases turn
      rcases reserved with rfl | reserved
      · exact ⟨steady, rfl, by omega⟩
      · exact reserved

theorem reserve_ends (b : Buffer) (needed : Nat) (steady : Steady b) (short : needed < 65536)
    (grows : getEmptySize b < needed → b.bufferSize + additionalSize < 2147483648) :
    ∃ r, loop (reserve needed) 2 b = some r := by
  by_cases lacks : getEmptySize b < needed
  · have turn : reserve needed b = .inl (reAllocBuffer b) := by rw [reserve, if_pos lacks]
    obtain ⟨-, -, room⟩ :=
      reserve_turn b b _ needed steady short grows (Or.inl rfl) turn
    have leaves : reserve needed (reAllocBuffer b) = .inr (reAllocBuffer b) := by
      rw [reserve, if_neg (by omega)]
    exact ⟨_, (loop_turn 1 turn).trans (loop_exit 0 leaves)⟩
  · have leaves : reserve needed b = .inr b := by rw [reserve, if_neg lacks]
    exact ⟨_, loop_exit 1 leaves⟩

theorem add_packet_spec (fuel : Nat) (b after : Buffer) (p : Packet) (steady : Steady b)
    (framable : Framable p)
    (grows : getEmptySize b < totalSizeOf p → b.bufferSize + additionalSize < 2147483648)
    (added : addPacket fuel b p = some after) :
    Steady after ∧ contents after = contents b ++ frame p := by
  have short := framable.short
  have total := total_size_of_exact p framable
  obtain ⟨r, done, rfl⟩ := Option.map_eq_some_iff.mp added
  obtain ⟨steadyR, same, room⟩ := reserve_spec fuel b r _ steady (by omega) grows done
  -- four appends, each within the room the one before has left
  obtain ⟨steady1, bytes1, room1⟩ :=
    append_steady r (littleEndian 2 (totalSizeOf p)) steadyR (by simp; omega)
  obtain ⟨steady2, bytes2, room2⟩ :=
    append_steady _ (littleEndian 2 (headSizeOf p)) steady1 (by simp [room1]; omega)
  obtain ⟨steady3, bytes3, room3⟩ :=
    append_steady _ (headOf p) steady2 (by simp [room1, room2, head_of_length]; omega)
  obtain ⟨steady4, bytes4, -⟩ :=
    append_steady _ p.data steady3 (by simp [room1, room2, room3, head_of_length]; omega)
  have wholeData : p.data.take (getDataLength p) = p.data := by
    rw [get_data_length_exact p framable, List.take_length]
  have headed : writeHead r p = memcpyToBuffer (memcpyToBuffer
      (memcpyToBuffer r (littleEndian 2 (totalSizeOf p))) (littleEndian 2 (headSizeOf p)))
      (headOf p) := by
    simp [writeHead, framable.tcp]
  rw [wholeData, headed]
  refine ⟨steady4, ?_⟩
  rw [bytes4, bytes3, bytes2, bytes1, same, frame]
  simp only [List.append_assoc]

theorem add_packet_returns (b : Buffer) (p : Packet) (steady : Steady b) (framable : Framable p)
    (grows : getEmptySize b < totalSizeOf p → b.bufferSize + additionalSize < 2147483648) :
    ∃ fuel after, addPacket fuel b p = some after := by
  have short := framable.short
  have total := total_size_of_exact p framable
  obtain ⟨r, done⟩ := reserve_ends b _ steady (by omega) grows
  exact ⟨2, _, by rw [addPacket, done]; rfl⟩

/-! The invariant of the link: the bytes between the two ends are the frames of
the packets added and not yet fetched. -/

structure LinkInv (l : Link) : Prop where
  sent : Steady l.sent
  recv : Steady l.recv
  flow : ∃ delivered pending, l.added = delivered ++ pending ∧
    List.Forall₂ SamePacket delivered l.fetched ∧ (∀ p ∈ pending, Framable p) ∧
    contents l.recv ++ l.wire ++ contents l.sent = pending.flatMap frame

/-- A call on a cut of the stream either waits or returns the first packet of
it; nothing else can happen. -/
theorem fetch_cut (fuel pooled : Nat) (conn : NetIdentify) (b : Buffer) (tail : List UInt8)
    (pending : List Packet) (connected : ConnectTags conn.tagKey) (steady : Steady b)
    (framable : ∀ p ∈ pending, Framable p) (cut : contents b ++ tail = pending.flatMap frame) :
    ((getTcpPacket fuel pooled conn b).outcome = some .null ∧
      (getTcpPacket fuel pooled conn b).after = b ∧ (tail = [] → pending = [])) ∨
    (∃ p rest received, pending = p :: rest ∧ SamePacket p received ∧
      (getTcpPacket fuel pooled conn b).outcome =
        (loop (growPacket (dataLength b)) fuel pooled).map (fun _ => .packet received) ∧
      dataLength b < 65536 ∧ Steady (afterBody b) ∧
      (getTcpPacket fuel pooled conn b).after = afterBody b ∧
      contents (afterBody b) ++ tail = rest.flatMap frame) := by
  cases pending with
  | nil =>
      obtain ⟨empty, -⟩ := List.append_eq_nil_iff.mp cut
      have waits : Waits (contents b) := Or.inl (by rw [empty]; decide)
      obtain ⟨outcome, after, -⟩ := get_tcp_packet_waits fuel pooled conn b steady waits
      exact Or.inl ⟨outcome, after, fun _ => rfl⟩
  | cons p rest =>
      rw [List.flatMap_cons] at cut
      have framed := framable p (List.mem_cons_self ..)
      have length := frame_length p framed
      have total := total_size_of_exact p framed
      have headCases := head_size_of_cases p
      have count := contents_length b
      by_cases cutShort : (contents b).length < (frame p).length
      · -- the frame is cut: either its total size is not there yet, or it announces more
        left
        have waits : Waits (contents b) := by
          by_cases short : (contents b).length < 2
          · exact Or.inl short
          · right
            have sameTotal : frameTotal (contents b) = frameTotal (frame p ++ rest.flatMap frame) := by
              rw [← cut, frameTotal, frameTotal, List.take_append_of_le_length (by omega)]
            rw [sameTotal, frame_total_frame p _ framed, ← length]
            exact cutShort
        obtain ⟨outcome, after, -⟩ := get_tcp_packet_waits fuel pooled conn b steady waits
        refine ⟨outcome, after, ?_⟩
        rintro rfl
        have lengths := congrArg List.length cut
        simp only [List.append_nil, List.length_append] at lengths
        omega
      · right
        obtain ⟨more, bytes⟩ : ∃ more, contents b = frame p ++ more := by
          have start := congrArg (List.take (frame p).length) cut
          rw [List.take_append_of_le_length (by omega), List.take_left] at start
          exact ⟨(contents b).drop (frame p).length, by
            conv_lhs => rw [← List.take_append_drop (frame p).length (contents b), start]⟩
        have totalRead : frameTotal (contents b) = totalSizeOf p := by
          rw [bytes, frame_total_frame p more framed]
        have headRead : frameHeadLength (contents b) = headSizeOf p := by
          rw [bytes, frame_head_length_frame]
        have whole : ¬ Waits (contents b) := by
          rintro (short | incomplete) <;> omega
        have known : frameMsgId (contents b) = some p.msgId := by rw [bytes, frame_msg_id_frame]
        have held : 4 + frameHeadLength (contents b) ≤ (contents b).length := by omega
        have lengths : 4 + frameHeadLength (contents b) ≤ frameTotal (contents b) := by omega
        have call := get_tcp_packet_packet fuel pooled conn b p.msgId steady whole
          ⟨held, fun _ => lengths⟩ known
        have exactLength := data_length_exact b steady (by omega) lengths
        obtain ⟨steadyAfter, left, -, -⟩ := after_body_frame b steady whole (by omega) lengths
        have bound := frame_total_bound (contents b)
        refine ⟨p, rest, _, rfl, frame_packet_same conn p more connected framed, ?_, by omega,
          steadyAfter, ?_, ?_⟩
        · rw [call, ← bytes]
        · rw [call]
        · rw [left, totalRead, ← length, bytes, List.drop_left]
          rw [bytes, List.append_assoc] at cut
          exact List.append_cancel_left cut

theorem link_step_inv (conn : NetIdentify) (connected : ConnectTags conn.tagKey)
    (before : Link) (label : LinkLabel) (after : Link) (inv : LinkInv before)
    (step : Guarded (linkStep conn) Sized before label after) : LinkInv after := by
  obtain ⟨taken, sized⟩ := step
  obtain ⟨delivered, pending, split, same, framable, flow⟩ := inv.flow
  cases label with
  | add p =>
      obtain ⟨framed, fuel, b, added, rfl⟩ := taken
      obtain ⟨steady, bytes⟩ := add_packet_spec fuel before.sent b p inv.sent framed sized added
      refine ⟨steady, inv.recv, delivered, pending ++ [p], ?_, same, ?_, ?_⟩
      · rw [split, List.append_assoc]
      · intro q member
        rcases List.mem_append.mp member with older | newest
        · exact framable q older
        · rw [List.mem_singleton.mp newest]
          exact framed
      · rw [bytes, ← List.append_assoc, flow]
        simp
  -- bytes go from the send buffer to the wire, from the wire to the receive buffer
  | send count =>
      obtain ⟨positive, offered, rfl⟩ := taken
      obtain ⟨held, bytes⟩ :=
        send_offer_spec before.sent count inv.sent.sound inv.sent.sized offered
      obtain ⟨steady, rest, -, -⟩ := remove_steady before.sent count inv.sent held
      have position : (sendGetBuffer before.sent).1.getD 0 = before.sent.beginIndex := by
        unfold sendGetBuffer
        rw [if_neg (by omega)]
        split <;> rfl
      refine ⟨steady, inv.recv, delivered, pending, split, same, framable, ?_⟩
      dsimp only
      rw [position, bytes, rest, ← flow]
      simp [List.append_assoc]
  | receive count =>
      obtain ⟨positive, available, offered, rfl⟩ := taken
      have taken : (before.wire.take count).length = count := by simp [available]
      obtain ⟨steady, bytes⟩ :=
        receive_steady before.recv (before.wire.take count) inv.recv sized (by rw [taken]; exact offered)
      refine ⟨inv.sent, steady, delivered, pending, split, same, framable, ?_⟩
      dsimp only
      rw [bytes, ← flow]
      simp [List.append_assoc]
  | fetch =>
      obtain ⟨fuel, pooled, outcome, fits, returned, rfl⟩ := taken
      have cut := flow
      rw [List.append_assoc] at cut
      -- no whole frame is there, or the oldest packet pending is cut off
      rcases fetch_cut fuel pooled conn before.recv _ pending connected inv.recv framable cut with
        ⟨null, kept, -⟩ | ⟨p, rest, received, rfl, samePacket, call, -, steady, left, remaining⟩
      · rw [null] at returned
        cases returned
        rw [kept]
        exact ⟨inv.sent, inv.recv, delivered, pending, split, same, framable, flow⟩
      · rw [call] at returned
        obtain ⟨size, -, rfl⟩ := Option.map_eq_some_iff.mp returned
        refine ⟨inv.sent, ?_, delivered ++ [p], rest, ?_, ?_, ?_, ?_⟩
        · rw [left]
          exact steady
        · rw [split, List.append_assoc, List.singleton_append]
        · exact List.rel_append same (List.Forall₂.cons samePacket List.Forall₂.nil)
        · intro q member
          exact framable q (List.mem_cons_of_mem p member)
        · dsimp only
          rw [left, List.append_assoc]
          exact remaining

theorem delivery_of_inv (conn : NetIdentify) (connected : ConnectTags conn.tagKey) (l : Link)
    (inv : LinkInv l) : DeliveryLaw conn l := by
  obtain ⟨delivered, pending, split, same, framable, flow⟩ := inv.flow
  have cut := flow
  rw [List.append_assoc] at cut
  constructor
  · exact ⟨delivered, pending, split, same⟩
  · intro p framed sized
    exact add_packet_returns l.sent p inv.sent framed sized
  · intro pooled fits
    rcases fetch_cut 2 pooled conn l.recv _ pending connected inv.recv framable cut with
      ⟨null, -, -⟩ | ⟨p, rest, received, -, -, call, short, -⟩
    · exact ⟨2, _, null⟩
    · obtain ⟨size, grown⟩ := grow_packet_ends (dataLength l.recv) pooled short fits
      exact ⟨2, _, by rw [call, grown]; rfl⟩
  · intro fuel pooled
    rcases fetch_cut fuel pooled conn l.recv _ pending connected inv.recv framable cut with
      ⟨null, -, -⟩ | ⟨p, rest, received, -, -, call, -⟩
    · simp [null]
    · rw [call]
      cases loop (growPacket (dataLength l.recv)) fuel pooled <;> simp
  -- nothing waits on the way, so that what a null fetch leaves is nothing
  · rintro sentAll receivedAll ⟨fuel, pooled, null⟩
    rcases fetch_cut fuel pooled conn l.recv _ pending connected inv.recv framable cut with
      ⟨-, -, drained⟩ | ⟨p, rest, received, -, -, call, -⟩
    · have none := drained (by rw [sentAll, receivedAll]; rfl)
      rw [split, none, List.append_nil]
      exact same
    · rw [call] at null
      cases grown : loop (growPacket (dataLength l.recv)) fuel pooled <;> simp [grown] at null

/-- Packets arrive in the order they were added, whatever the segmentation, as
long as the buffers keep the size of an `int`. -/
theorem packets_delivered_in_order (conn : NetIdentify) (start : Link) (trace : List LinkLabel)
    (l : Link) (connected : ConnectTags conn.tagKey) (empty : EmptyLink start)
    (sent : IntSized start.sent) (recv : IntSized start.recv)
    (run : Run (Guarded (linkStep conn) Sized) start trace l) : DeliveryLaw conn l := by
  have nothing : ∀ b : Buffer, b.dataSize = 0 → contents b = [] := by
    intro b none
    simp [contents, none]
  have holds : LinkInv start := by
    refine ⟨⟨empty.sent.1, sent⟩, ⟨empty.recv.1, recv⟩, [], [], empty.added, ?_, ?_, ?_⟩
    · rw [empty.fetched]
      exact List.Forall₂.nil
    · intro p member
      cases member
    · rw [nothing _ empty.sent.2, nothing _ empty.recv.2, empty.wire]
      rfl
  exact delivery_of_inv conn connected l
    (run_invariant LinkInv (link_step_inv conn connected) run holds)

/-! One ping sent whole, to any receive buffer. -/

theorem send_step (conn : NetIdentify) (sent recv : Buffer) (wire bytes : List UInt8)
    (added fetched : List Packet) (some : 0 < bytes.length)
    (offered : (bytes.length : Int) ≤ (sendGetBuffer sent).2)
    (read : slice sent.buffer ((sendGetBuffer sent).1.getD 0) bytes.length = bytes) :
    linkStep conn ⟨sent, wire, recv, added, fetched⟩ (.send bytes.length)
      ⟨removeDate sent bytes.length, wire ++ bytes, recv, added, fetched⟩ := by
  refine ⟨some, offered, ?_⟩
  rw [read]

theorem receive_step (conn : NetIdentify) (sent recv : Buffer) (bytes rest : List UInt8)
    (added fetched : List Packet) (some : 0 < bytes.length)
    (offered : bytes.length ≤ getWriteSize (recvGuard recv)) :
    linkStep conn ⟨sent, bytes ++ rest, recv, added, fetched⟩ (.receive bytes.length)
      ⟨sent, rest, receive (recvGuard recv) bytes, added, fetched⟩ := by
  refine ⟨some, ?_, offered, ?_⟩
  · rw [List.length_append]
    omega
  · rw [List.take_left, List.drop_left]

theorem fetch_step (conn : NetIdentify) (sent recv : Buffer) (wire : List UInt8)
    (added fetched : List Packet) (pooled fuel : Nat) (p : Packet) (fits : pooled < 4294967296)
    (done : (getTcpPacket fuel pooled conn recv).outcome = some (.packet p)) :
    linkStep conn ⟨sent, wire, recv, added, fetched⟩ .fetch
      ⟨sent, wire, (getTcpPacket fuel pooled conn recv).after, added, fetched ++ [p]⟩ :=
  ⟨fuel, pooled, .packet p, fits, done, rfl⟩

def ping : Packet := { socketKey := ⟨-1, .none⟩, tagKey := clear, msgId := .miPing, data := [] }

def pingSent : Buffer :=
  memcpyToBuffer (writeHead (create 131072) ping) (ping.data.take (getDataLength ping))

def pingBytes : List UInt8 := [6, 0, 2, 0, 101, 0]

def pingStart (recv : Buffer) : Link := ⟨create 131072, [], recv, [], []⟩

def pingAdded (recv : Buffer) : Link := ⟨pingSent, [], recv, [ping], []⟩

def pingOnWire (recv : Buffer) : Link := ⟨removeDate pingSent pingBytes.length, pingBytes, recv, [ping], []⟩

theorem ping_framable : Framable ping := ⟨by decide, by decide⟩

theorem ping_run (conn : NetIdentify) (recv : Buffer) :
    Run (Guarded (linkStep conn) Sized) (pingStart recv) [.add ping, .send 6] (pingOnWire recv) := by
  have noGrowth : ¬ getEmptySize (create 131072) < totalSizeOf ping := by decide
  have room : reserve (totalSizeOf ping) (create 131072) = .inr (create 131072) := if_neg noGrowth
  have added : addPacket 1 (create 131072) ping = some pingSent := by
    rw [addPacket, loop_exit 0 room]
    rfl
  have addStep : Guarded (linkStep conn) Sized (pingStart recv) (.add ping) (pingAdded recv) :=
    ⟨⟨ping_framable, 1, pingSent, added, rfl⟩, fun lacks => absurd lacks noGrowth⟩
  have offered : (pingBytes.length : Int) ≤ (sendGetBuffer pingSent).2 := by decide
  have read : slice pingSent.buffer ((sendGetBuffer pingSent).1.getD 0) pingBytes.length =
      pingBytes := by decide
  have sendStep := send_step conn pingSent recv [] pingBytes [ping] [] (by decide) offered read
  exact Run.next addStep (Run.next ⟨sendStep, trivial⟩ (Run.refl _))

def pingReceived : Buffer := receive (recvGuard (create 131072)) pingBytes

theorem ping_received (conn : NetIdentify) :
    (getTcpPacket 2 10240 conn pingReceived).outcome = some (.packet (framePacket conn .miPing pingBytes)) := by
  have room : ¬ getEmptySize (create 131072) < 24 := by decide
  obtain ⟨steady, bytes⟩ := receive_steady (create 131072) pingBytes
    ⟨create_sound _ (by decide), show 131072 < 2147483648 by decide⟩ (fun lacks => absurd lacks room) (by decide)
  change contents pingReceived = pingBytes at bytes
  have done := frame_outcome conn pingReceived .miPing steady (bytes ▸ by decide) (bytes ▸ ⟨by decide, by decide⟩)
    (bytes ▸ by decide)
  rw [bytes] at done
  exact done

theorem packets_delivered_in_order_ping : ∃ l,
    Run (Guarded (linkStep ⟨⟨3, .tcpListen⟩, clear⟩) Sized) (pingStart (create 131072))
      [.add ping, .send 6, .receive 6, .fetch] l ∧
    l.fetched = [framePacket ⟨⟨3, .tcpListen⟩, clear⟩ .miPing pingBytes] ∧
    DeliveryLaw ⟨⟨3, .tcpListen⟩, clear⟩ l := by
  have room : ¬ getEmptySize (create 131072) < 24 := by decide
  have got := receive_step ⟨⟨3, .tcpListen⟩, clear⟩ (removeDate pingSent pingBytes.length) (create 131072)
    pingBytes [] [ping] [] (by decide) (by decide)
  rw [List.append_nil] at got
  have fetched := fetch_step ⟨⟨3, .tcpListen⟩, clear⟩ (removeDate pingSent pingBytes.length) pingReceived []
    [ping] [] 10240 2 _ (by decide) (ping_received _)
  have first : Guarded (linkStep ⟨⟨3, .tcpListen⟩, clear⟩) Sized (pingOnWire (create 131072)) (.receive 6)
      ⟨removeDate pingSent pingBytes.length, [], pingReceived, [ping], []⟩ := ⟨got, fun lacks => absurd lacks room⟩
  have run := run_append (ping_run ⟨⟨3, .tcpListen⟩, clear⟩ (create 131072))
    (Run.next first (Run.next ⟨fetched, trivial⟩ (Run.refl _)))
  exact ⟨_, run, rfl, packets_delivered_in_order _ (pingStart (create 131072)) _ _ ConnectTags.accepted
    ⟨⟨create_sound _ (by decide), rfl⟩, ⟨create_sound _ (by decide), rfl⟩, rfl, rfl, rfl⟩
    (show 131072 < 2147483648 by decide) (show 131072 < 2147483648 by decide) run⟩

/-- An empty receive buffer of the largest size, two bytes before its end. -/
def nearEnd : Buffer := ⟨fun _ => 0, 4294967294, 4294967294, 4294967295, 0⟩

def nearEndFirst : Buffer := receive (recvGuard nearEnd) [6]

def nearEndAll : Buffer := receive (recvGuard nearEndFirst) [0, 2, 0, 101, 0]

/-- At 2^32 - 1 bytes a removal near the end of the receive buffer wraps, the
head is read from the wrong place and the connection is closed. -/
theorem unbounded_size_breaks_delivery :
    ¬ ∀ conn start trace l, ConnectTags conn.tagKey → EmptyLink start →
      start.sent.bufferSize < 4294967296 → start.recv.bufferSize < 4294967296 →
      Run (linkStep conn) start trace l → DeliveryLaw conn l := by
  intro law
  have sound : Sound nearEnd := ⟨by decide, by decide, by decide, by decide⟩
  have firstStep := receive_step ⟨⟨3, .tcpListen⟩, clear⟩ (removeDate pingSent pingBytes.length)
    nearEnd [6] [0, 2, 0, 101, 0] [ping] [] (by decide) (by decide)
  have allStep := receive_step ⟨⟨3, .tcpListen⟩, clear⟩ (removeDate pingSent pingBytes.length)
    nearEndFirst [0, 2, 0, 101, 0] [] [ping] [] (by decide) (by decide)
  rw [← nearEndFirst] at firstStep
  rw [← nearEndAll] at allStep
  have delivery := law _ (pingStart nearEnd) _ _ ConnectTags.accepted
    ⟨⟨create_sound _ (by decide), rfl⟩, ⟨sound, rfl⟩, rfl, rfl, rfl⟩
    (show 131072 < 4294967296 by decide) (show 4294967295 < 4294967296 by decide)
    (run_append (guarded_run (ping_run _ nearEnd)) (Run.next firstStep (Run.next allStep (Run.refl _))))
  have held : ¬ nearEndAll.dataSize < 2 := by decide
  have whole : ¬ nearEndAll.dataSize < totalSize nearEndAll := by decide
  have unknown : findValueByNumber (fromLittleEndian ((head nearEndAll).take 2)) = none := by decide
  have closed : (getTcpPacket 0 10240 ⟨⟨3, .tcpListen⟩, clear⟩ nearEndAll).outcome = some .closed := by
    rw [getTcpPacket, if_neg held, if_neg whole, unknown]
  have notClosed := delivery.whole 0 10240
  dsimp only at notClosed
  exact notClosed closed

end GameBook.TcpLink
