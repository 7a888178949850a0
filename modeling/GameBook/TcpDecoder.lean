import GameBook.TcpFraming
import GameBook.LabelledRun

/-!
What `GetTcpPacket` does to its buffer on arbitrary bytes. The only length
check of the code is `_dataSize < totalSize`; the length fields, the head and
the body length are taken on trust. `Framed` is what the bytes must satisfy for
a call past that check to stay inside the buffer, and `FramesOk` the same for
the whole extraction loop of `ConnectObj::Recv`.
-/

namespace GameBook.TcpDecoder

open RingWindow MachineWord NetworkBuffer ProtoId SocketObject WhileLoop TcpFraming LabelledRun

def Within : Access → Prop
  | .copy size held => size ≤ held
  | .remove size held => size ≤ held
  | .subtract totalSize overhead => overhead ≤ totalSize

def removed : List Access → Nat
  | [] => 0
  | .remove size _ :: rest => size + removed rest
  | _ :: rest => removed rest

/-- A call that returns, reads and removes only buffered bytes, never wraps a
length and leaves the representation invariant. -/
structure SafeCall (b : Buffer) (call : Call) : Prop where
  returns : call.outcome.isSome
  within : ∀ access ∈ call.accesses, Within access
  removes : removed call.accesses ≤ b.dataSize
  sound : Sound call.after

/-- The extraction loop: one call after the other until it returns null. The
packets of the pool differ in size, so `pooled` gives one for each turn. -/
def drain (growFuel : Nat) (pooled : Nat → Nat) (conn : NetIdentify) :
    Nat → Nat → Buffer → Option (List (Buffer × Call))
  | 0, _, _ => none
  | fuel + 1, turn, b =>
      match (getTcpPacket growFuel (pooled turn) conn b).outcome with
      | some (.packet _) =>
          (drain growFuel pooled conn fuel (turn + 1)
            (getTcpPacket growFuel (pooled turn) conn b).after).map
            ((b, getTcpPacket growFuel (pooled turn) conn b) :: ·)
      | _ => some [(b, getTcpPacket growFuel (pooled turn) conn b)]

def SafeDrain (pooled : Nat → Nat) (conn : NetIdentify) (turn : Nat) (b : Buffer) : Prop :=
  ∃ growFuel fuel calls, drain growFuel pooled conn fuel turn b = some calls ∧
    ∀ call ∈ calls, SafeCall call.1 call.2

def FrameOk (bytes : List UInt8) : Prop := Waits bytes ∨ Framed bytes

inductive FramesOk : List UInt8 → Prop where
  | waits {bytes} : Waits bytes → FramesOk bytes
  | closes {bytes} : ¬ Waits bytes → Framed bytes → frameMsgId bytes = none → FramesOk bytes
  | packet {bytes} {msgId : MsgId} : ¬ Waits bytes → Framed bytes → frameMsgId bytes = some msgId →
      FramesOk (bytes.drop (frameTotal bytes)) → FramesOk bytes

/-! The accesses of one call. -/

theorem removed_append (first second : List Access) :
    removed (first ++ second) = removed first + removed second := by
  induction first with
  | nil => simp [removed]
  | cons access rest ih =>
      cases access <;> simp [removed, ih, Nat.add_assoc]

theorem removed_head (b : Buffer) : removed (headAccesses b) = 4 + headLength b := by
  simp [headAccesses, field, removed]
  omega

theorem head_within (b : Buffer) (steady : Steady b)
    (held : 4 + frameHeadLength (contents b) ≤ b.dataSize) :
    ∀ access ∈ headAccesses b, Within access := by
  obtain ⟨-, -, count, -⟩ := remove_steady b 2 steady (by omega)
  obtain ⟨-, -, countHead, -⟩ := after_head_size_steady b steady (by omega)
  have sameLength := head_length_frame b steady (by omega)
  simp only [headAccesses, field, afterTotal, List.mem_append, List.mem_cons, List.not_mem_nil,
    or_false]
  rintro access (((rfl | rfl) | (rfl | rfl)) | (rfl | rfl)) <;> simp only [Within] <;> omega

/-- The accesses of the head are within the buffer only when it is all there. -/
theorem held_of_head_within (b : Buffer) (steady : Steady b) (held : 2 ≤ b.dataSize)
    (within : ∀ access ∈ headAccesses b, Within access) :
    4 + frameHeadLength (contents b) ≤ b.dataSize := by
  obtain ⟨-, -, count, -⟩ := remove_steady b 2 steady held
  have size : Within (.copy 2 (afterTotal b).dataSize) :=
    within _ (by simp [headAccesses, field])
  have whole : Within (.copy (headLength b) (afterHeadSize b).dataSize) :=
    within _ (by simp [headAccesses, field])
  simp only [Within, afterTotal] at size
  obtain ⟨-, -, countHead, -⟩ := after_head_size_steady b steady (by omega)
  have sameLength := head_length_frame b steady (by omega)
  simp only [Within] at whole
  omega

theorem accesses_past_checks (fuel pooled : Nat) (conn : NetIdentify) (b : Buffer)
    (steady : Steady b) (whole : ¬ Waits (contents b)) (access : Access)
    (member : access ∈ headAccesses b) : access ∈ (getTcpPacket fuel pooled conn b).accesses := by
  rw [waits_iff b steady] at whole
  rw [getTcpPacket, if_neg (by omega), if_neg (by omega)]
  cases findValueByNumber (fromLittleEndian ((head b).take 2)) with
  | none => exact member
  | some msgId => exact List.mem_append_left _ member

theorem body_accesses_past_head (fuel pooled : Nat) (conn : NetIdentify) (b : Buffer)
    (steady : Steady b) (whole : ¬ Waits (contents b))
    (held : 4 + frameHeadLength (contents b) ≤ b.dataSize)
    (known : (frameMsgId (contents b)).isSome) (access : Access)
    (member : access ∈ bodyAccesses b) : access ∈ (getTcpPacket fuel pooled conn b).accesses := by
  have sameHead := (head_frame b steady held).1
  rw [frameMsgId, ← sameHead] at known
  rw [waits_iff b steady] at whole
  rw [getTcpPacket, if_neg (by omega), if_neg (by omega)]
  cases found : findValueByNumber (fromLittleEndian ((head b).take 2)) with
  | none =>
      rw [found] at known
      cases known
  | some msgId => exact List.mem_append_right _ member

theorem frame_of_safe_call (fuel pooled : Nat) (conn : NetIdentify) (b : Buffer) (steady : Steady b)
    (safe : SafeCall b (getTcpPacket fuel pooled conn b)) : FrameOk (contents b) := by
  by_cases whole : Waits (contents b)
  · exact Or.inl whole
  · right
    have checked := whole
    rw [waits_iff b steady] at checked
    have held := held_of_head_within b steady (by omega) fun access member =>
      safe.within access (accesses_past_checks fuel pooled conn b steady whole access member)
    constructor
    · rw [contents_length]
      exact held
    · intro known
      have exactTotal : Within (.subtract (totalSize b) (headLength b + 4)) :=
        safe.within _ (body_accesses_past_head fuel pooled conn b steady whole held known _
          (List.mem_cons_self ..))
      rw [Within, total_size_frame b steady (by omega), head_length_frame b steady (by omega)]
        at exactTotal
      omega

theorem safe_call_waits (fuel pooled : Nat) (conn : NetIdentify) (b : Buffer) (steady : Steady b)
    (waits : Waits (contents b)) : SafeCall b (getTcpPacket fuel pooled conn b) := by
  obtain ⟨outcome, after, accesses⟩ := get_tcp_packet_waits fuel pooled conn b steady waits
  have nothing : removed (getTcpPacket fuel pooled conn b).accesses = 0 := by
    unfold getTcpPacket
    split
    · rfl
    · rename_i some
      have early := (waits_iff b steady).mp waits
      rw [if_pos (by omega)]
      rfl
  constructor
  · rw [outcome]
    rfl
  · intro access member
    obtain ⟨rfl, held⟩ := accesses access member
    exact held
  · rw [nothing]
    exact Nat.zero_le _
  · rw [after]
    exact steady.sound

theorem safe_call_closes (fuel pooled : Nat) (conn : NetIdentify) (b : Buffer) (steady : Steady b)
    (whole : ¬ Waits (contents b)) (framed : Framed (contents b))
    (unknown : frameMsgId (contents b) = none) : SafeCall b (getTcpPacket fuel pooled conn b) := by
  have held := framed.headHeld
  rw [contents_length] at held
  rw [get_tcp_packet_closes fuel pooled conn b steady whole framed unknown]
  constructor
  · rfl
  · exact head_within b steady held
  · rw [removed_head, head_length_frame b steady (by omega)]
    exact held
  · exact (head_frame b steady held).2.1.sound

theorem safe_call_packet (pooled : Nat) (conn : NetIdentify) (b : Buffer) (msgId : MsgId)
    (steady : Steady b) (fits : pooled < 4294967296) (whole : ¬ Waits (contents b))
    (framed : Framed (contents b)) (known : frameMsgId (contents b) = some msgId) :
    SafeCall b (getTcpPacket 2 pooled conn b) ∧
      (getTcpPacket 2 pooled conn b).outcome = some (.packet (framePacket conn msgId (contents b))) ∧
      (getTcpPacket 2 pooled conn b).after = afterBody b := by
  have held := framed.headHeld
  have lengths := framed.lengths (by simp [known])
  have bound := frame_total_bound (contents b)
  -- the whole frame is in the buffer, so that head and body are read inside of it
  have reached := whole
  rw [Waits, contents_length] at reached
  rw [contents_length] at held
  obtain ⟨-, -, -, count, -⟩ := head_frame b steady held
  have length := data_length_exact b steady (by omega) lengths
  have sameLength := head_length_frame b steady (by omega)
  have total := total_size_frame b steady (by omega)
  obtain ⟨size, grown⟩ := grow_packet_ends (dataLength b) pooled (by omega) fits
  rw [get_tcp_packet_packet 2 pooled conn b msgId steady whole framed known, grown]
  refine ⟨?_, rfl, rfl⟩
  constructor
  · rfl
  · intro access member
    rcases List.mem_append.mp member with inHead | inBody
    · exact head_within b steady held access inHead
    · simp only [bodyAccesses, field, List.mem_cons, List.not_mem_nil, or_false] at inBody
      rcases inBody with rfl | rfl | rfl <;> simp only [Within] <;> omega
  · have bodyRemoved : removed (bodyAccesses b) = dataLength b := by simp [bodyAccesses, field, removed]
    simp only [removed_append, removed_head, bodyRemoved]
    omega
  · exact (after_body_frame b steady whole held lengths).1.sound

theorem safe_call_iff (pooled : Nat) (conn : NetIdentify) (b : Buffer) (steady : Steady b)
    (fits : pooled < 4294967296) :
    (∃ fuel, SafeCall b (getTcpPacket fuel pooled conn b)) ↔ FrameOk (contents b) := by
  constructor
  · rintro ⟨fuel, safe⟩
    exact frame_of_safe_call fuel pooled conn b steady safe
  · rintro (waits | framed)
    · exact ⟨0, safe_call_waits 0 pooled conn b steady waits⟩
    · by_cases whole : Waits (contents b)
      · exact ⟨0, safe_call_waits 0 pooled conn b steady whole⟩
      · cases known : frameMsgId (contents b) with
        | none => exact ⟨0, safe_call_closes 0 pooled conn b steady whole framed known⟩
        | some msgId =>
            exact ⟨2, (safe_call_packet pooled conn b msgId steady fits whole framed known).1⟩

/-- After a call on a waiting or framed buffer the buffer is steady again. -/
theorem call_steady (fuel pooled : Nat) (conn : NetIdentify) (b : Buffer) (steady : Steady b)
    (frame : FrameOk (contents b)) : Steady (getTcpPacket fuel pooled conn b).after := by
  by_cases whole : Waits (contents b)
  · rw [(get_tcp_packet_waits fuel pooled conn b steady whole).2.1]
    exact steady
  · have framed := frame.resolve_left whole
    have held := framed.headHeld
    rw [contents_length] at held
    cases known : frameMsgId (contents b) with
    | none =>
        rw [get_tcp_packet_closes fuel pooled conn b steady whole framed known]
        exact (head_frame b steady held).2.1
    | some msgId =>
        rw [get_tcp_packet_packet fuel pooled conn b msgId steady whole framed known]
        exact (after_body_frame b steady whole held (framed.lengths (by simp [known]))).1

/-! The extraction loop. -/

theorem drain_of_frames (pooled : Nat → Nat) (conn : NetIdentify)
    (fits : ∀ turn, pooled turn < 4294967296) (bytes : List UInt8) (frames : FramesOk bytes) :
    ∀ turn b, Steady b → contents b = bytes → ∃ fuel calls,
      drain 2 pooled conn fuel turn b = some calls ∧ ∀ call ∈ calls, SafeCall call.1 call.2 := by
  induction frames with
  | waits whole =>
      rintro turn b steady rfl
      refine ⟨1, [(b, getTcpPacket 2 (pooled turn) conn b)], ?_, ?_⟩
      · rw [drain, (get_tcp_packet_waits 2 (pooled turn) conn b steady whole).1]
      · simpa using safe_call_waits 2 (pooled turn) conn b steady whole
  | closes whole framed unknown =>
      rintro turn b steady rfl
      refine ⟨1, [(b, getTcpPacket 2 (pooled turn) conn b)], ?_, ?_⟩
      · rw [drain, get_tcp_packet_closes 2 (pooled turn) conn b steady whole framed unknown]
      · simpa using safe_call_closes 2 (pooled turn) conn b steady whole framed unknown
  | @packet _ msgId whole framed known _ ih =>
      rintro turn b steady rfl
      have held := framed.headHeld
      rw [contents_length] at held
      obtain ⟨safe, outcome, after⟩ :=
        safe_call_packet (pooled turn) conn b msgId steady (fits turn) whole framed known
      obtain ⟨steadyAfter, rest, -, -⟩ :=
        after_body_frame b steady whole held (framed.lengths (by simp [known]))
      -- behind the packet the frames go on, which the induction is on
      obtain ⟨fuel, calls, drained, safeRest⟩ := ih (turn + 1) (afterBody b) steadyAfter rest
      refine ⟨fuel + 1, (b, getTcpPacket 2 (pooled turn) conn b) :: calls, ?_, ?_⟩
      · rw [drain, outcome, after]
        simp [drained]
      · rintro call member
        rcases List.mem_cons.mp member with rfl | later
        · exact safe
        · exact safeRest call later

theorem frames_of_drain (growFuel : Nat) (pooled : Nat → Nat) (conn : NetIdentify) (fuel : Nat) :
    ∀ turn b calls, Steady b → drain growFuel pooled conn fuel turn b = some calls →
      (∀ call ∈ calls, SafeCall call.1 call.2) → FramesOk (contents b) := by
  induction fuel with
  | zero =>
      intro turn b calls _ drained
      cases drained
  | succ fuel ih =>
      intro turn b calls steady drained safe
      have first : SafeCall b (getTcpPacket growFuel (pooled turn) conn b) := by
        rw [drain] at drained
        split at drained
        · obtain ⟨rest, -, rfl⟩ := Option.map_eq_some_iff.mp drained
          exact safe _ (List.mem_cons_self ..)
        · cases drained
          exact safe _ (List.mem_cons_self ..)
      by_cases whole : Waits (contents b)
      · exact FramesOk.waits whole
      · have framed := (frame_of_safe_call _ _ _ b steady first).resolve_left whole
        cases known : frameMsgId (contents b) with
        | none => exact FramesOk.closes whole framed known
        | some msgId =>
            have held := framed.headHeld
            rw [contents_length] at held
            have call := get_tcp_packet_packet growFuel (pooled turn) conn b msgId steady whole framed known
            obtain ⟨steadyAfter, rest, -, -⟩ :=
              after_body_frame b steady whole held (framed.lengths (by simp [known]))
            -- the call returned, so the loop went on behind its packet
            obtain ⟨packet, returned⟩ : ∃ packet,
                (getTcpPacket growFuel (pooled turn) conn b).outcome = some (.packet packet) := by
              have returns := first.returns
              rw [call] at returns ⊢
              obtain ⟨outcome, some⟩ := Option.isSome_iff_exists.mp returns
              obtain ⟨size, -, rfl⟩ := Option.map_eq_some_iff.mp some
              exact ⟨_, some⟩
            rw [drain, returned] at drained
            obtain ⟨later, drainedLater, rfl⟩ := Option.map_eq_some_iff.mp drained
            rw [call] at drainedLater
            have frames := ih (turn + 1) (afterBody b) later steadyAfter drainedLater
              fun call member => safe call (List.mem_cons_of_mem _ member)
            rw [rest] at frames
            exact FramesOk.packet whole framed known frames

theorem safe_drain_iff (pooled : Nat → Nat) (conn : NetIdentify) (turn : Nat) (b : Buffer)
    (steady : Steady b) (fits : ∀ turn, pooled turn < 4294967296) :
    SafeDrain pooled conn turn b ↔ FramesOk (contents b) := by
  constructor
  · rintro ⟨growFuel, fuel, calls, drained, safe⟩
    exact frames_of_drain growFuel pooled conn fuel turn b calls steady drained safe
  · intro frames
    obtain ⟨fuel, calls, drained, safe⟩ :=
      drain_of_frames pooled conn fits (contents b) frames turn b steady rfl
    exact ⟨2, fuel, calls, drained, safe⟩

/-! Where a known id stands in a frame shorter than its own head, the body
length wraps to almost 2^32 and no pooled packet ever grows that large. -/

/-- Buffer sizes a pooled packet can have: 10 KB and any reallocations. -/
def PooledSize (size : Nat) : Prop := ∃ count < 32768, size = 10240 + count * additionalSize

theorem grow_packet_diverges (needed pooled fuel : Nat) (huge : 4294967272 ≤ needed)
    (reached : PooledSize pooled) : loop (growPacket needed) fuel pooled = none := by
  apply diverges PooledSize _ pooled reached
  rintro size ⟨count, bound, rfl⟩
  refine ⟨add32 (10240 + count * additionalSize) additionalSize, ?_, ?_⟩
  · rw [growPacket, if_pos (by unfold additionalSize; omega)]
  · by_cases last : count = 32767
    · subst last
      exact ⟨0, by decide, by decide⟩
    · refine ⟨count + 1, by omega, ?_⟩
      rw [add32_exact _ _ (by unfold additionalSize; omega)]
      unfold additionalSize
      omega

theorem short_frame_never_returns (fuel pooled : Nat) (conn : NetIdentify) (b : Buffer)
    (steady : Steady b) (reached : PooledSize pooled) (whole : ¬ Waits (contents b))
    (held : 4 + frameHeadLength (contents b) ≤ b.dataSize)
    (known : (frameMsgId (contents b)).isSome)
    (short : frameTotal (contents b) < 4 + frameHeadLength (contents b)) :
    (getTcpPacket fuel pooled conn b).outcome = none := by
  have cases := frame_head_length_cases (contents b)
  have wrapped : 4294967272 ≤ dataLength b := by
    rw [dataLength, total_size_frame b steady (by omega), head_length_frame b steady (by omega)]
    unfold sub32
    omega
  have sameHead := (head_frame b steady held).1
  rw [frameMsgId, ← sameHead] at known
  rw [waits_iff b steady] at whole
  rw [getTcpPacket, if_neg (by omega), if_neg (by omega)]
  cases found : findValueByNumber (fromLittleEndian ((head b).take 2)) with
  | none =>
      rw [found] at known
      cases known
  | some msgId => simp [grow_packet_diverges (dataLength b) pooled fuel wrapped reached]

/-! The life of a receive buffer: receives, calls and the return to the pool,
in any order. -/

inductive RecvLabel where
  | recv (bytes : List UInt8)
  | fetch
  | reuse

def recvStep (before : Buffer) (label : RecvLabel) (after : Buffer) : Prop :=
  match label with
  | .recv bytes =>
      bytes ≠ [] ∧ bytes.length ≤ getWriteSize (recvGuard before) ∧
        after = receive (recvGuard before) bytes
  | .fetch =>
      ∃ fuel pooled conn, (getTcpPacket fuel pooled conn before).outcome.isSome ∧
        after = (getTcpPacket fuel pooled conn before).after
  | .reuse => after = backToPool before

/-- A call finds waiting or framed bytes, and a reallocation leaves the size an `int`. -/
def FrameStep (before : Buffer) : RecvLabel → Prop
  | .recv _ => getEmptySize before < 24 → before.bufferSize + additionalSize < 2147483648
  | .fetch => FrameOk (contents before)
  | .reuse => True

def SafeStep (before : Buffer) : RecvLabel → Prop
  | .recv _ => getEmptySize before < 24 → before.bufferSize + additionalSize < 2147483648
  | .fetch => ∀ pooled conn, pooled < 4294967296 →
      ∃ fuel, SafeCall before (getTcpPacket fuel pooled conn before)
  | .reuse => True

structure DecoderLaw (b : Buffer) : Prop where
  sound : Sound b
  call : ∀ pooled conn, pooled < 4294967296 →
    ((∃ fuel, SafeCall b (getTcpPacket fuel pooled conn b)) ↔ FrameOk (contents b))
  loop : ∀ pooled conn, (∀ turn, pooled turn < 4294967296) →
    (SafeDrain pooled conn 0 b ↔ FramesOk (contents b))

theorem back_to_pool_steady (b : Buffer) (steady : Steady b) : Steady (backToPool b) := by
  have begins := steady.sound.begins
  have positive : 0 < b.bufferSize := by omega
  exact ⟨⟨positive, positive, Nat.zero_le _, Nat.zero_mod _⟩, steady.sized⟩

theorem recv_step_steady (before : Buffer) (label : RecvLabel) (after : Buffer)
    (steady : Steady before) (step : Guarded recvStep FrameStep before label after) :
    Steady after := by
  obtain ⟨taken, allowed⟩ := step
  cases label with
  | recv bytes =>
      obtain ⟨-, offered, rfl⟩ := taken
      exact (receive_steady before bytes steady allowed offered).1
  | fetch =>
      obtain ⟨fuel, pooled, conn, -, rfl⟩ := taken
      exact call_steady fuel pooled conn before steady allowed
  | reuse =>
      cases taken
      exact back_to_pool_steady before steady

theorem recv_run_steady (size : Nat) (trace : List RecvLabel) (b : Buffer) (positive : 0 < size)
    (small : size < 2147483648) (run : Run (Guarded recvStep FrameStep) (create size) trace b) :
    Steady b :=
  run_invariant Steady recv_step_steady run ⟨create_sound size positive, small⟩

theorem frame_step_iff (before : Buffer) (label : RecvLabel) (steady : Steady before) :
    SafeStep before label ↔ FrameStep before label := by
  cases label with
  | recv bytes => exact Iff.rfl
  | fetch =>
      constructor
      · intro safe
        exact (safe_call_iff 0 ⟨⟨-1, .none⟩, clear⟩ before steady (by decide)).mp
          (safe 0 ⟨⟨-1, .none⟩, clear⟩ (by decide))
      · intro frame pooled conn fits
        exact (safe_call_iff pooled conn before steady fits).mpr frame
  | reuse => exact Iff.rfl

theorem safe_run_iff (size : Nat) (trace : List RecvLabel) (b : Buffer) (positive : 0 < size)
    (small : size < 2147483648) :
    Run (Guarded recvStep SafeStep) (create size) trace b ↔
      Run (Guarded recvStep FrameStep) (create size) trace b := by
  have start : Steady (create size) := ⟨create_sound size positive, small⟩
  constructor
  · intro run
    refine guarded_run_mono Steady ?_ ?_ run start
    · intro before label after steady step
      exact recv_step_steady before label after steady
        ⟨step.1, (frame_step_iff before label steady).mp step.2⟩
    · intro before label steady
      exact (frame_step_iff before label steady).mp
  · intro run
    refine guarded_run_mono Steady recv_step_steady ?_ run start
    intro before label steady
    exact (frame_step_iff before label steady).mpr

/-- Every call of a run is safe exactly when each found waiting or framed
bytes. The buffer is then sound, and the next call and the next extraction
loop are judged in the same way. -/
theorem framed_runs_are_safe (size : Nat) (trace : List RecvLabel) (b : Buffer) (positive : 0 < size)
    (small : size < 2147483648) :
    (Run (Guarded recvStep SafeStep) (create size) trace b ↔
      Run (Guarded recvStep FrameStep) (create size) trace b) ∧
    (Run (Guarded recvStep FrameStep) (create size) trace b → DecoderLaw b) := by
  refine ⟨safe_run_iff size trace b positive small, ?_⟩
  intro run
  have steady := recv_run_steady size trace b positive small run
  constructor
  · exact steady.sound
  · intro pooled conn fits
    exact safe_call_iff pooled conn b steady fits
  · intro pooled conn fits
    exact safe_drain_iff pooled conn 0 b steady fits

def pingFrame : List UInt8 := [6, 0, 2, 0, 101, 0]

def pingReceived : Buffer := receive (recvGuard (create 131072)) pingFrame

def listener : NetIdentify := ⟨⟨3, .tcpListen⟩, clear⟩

theorem ping_received : Steady pingReceived ∧ contents pingReceived = pingFrame := by
  have room : ¬ getEmptySize (create 131072) < 24 := by decide
  exact receive_steady (create 131072) pingFrame
    ⟨create_sound _ (by decide), show 131072 < 2147483648 by decide⟩ (fun lacks => absurd lacks room) (by decide)

theorem framed_runs_are_safe_ping : ∃ after,
    Run (Guarded recvStep SafeStep) (create 131072) [.recv pingFrame, .fetch, .reuse] after ∧
      DecoderLaw after ∧
      (getTcpPacket 2 10240 listener pingReceived).outcome =
        some (.packet (framePacket listener .miPing pingFrame)) := by
  obtain ⟨steady, bytes⟩ := ping_received
  have whole : ¬ Waits (contents pingReceived) := by
    rw [bytes]
    decide
  have framed : Framed (contents pingReceived) := by
    rw [bytes]
    exact ⟨by decide, by decide⟩
  have done := frame_outcome listener pingReceived .miPing steady whole framed (by rw [bytes]; decide)
  rw [bytes] at done
  have run : Run (Guarded recvStep FrameStep) (create 131072) [.recv pingFrame, .fetch, .reuse] _ :=
    .next ⟨⟨by decide, by decide, rfl⟩, fun lacks => absurd lacks (by decide)⟩
      (.next ⟨⟨2, 10240, listener, by decide, rfl⟩, Or.inr framed⟩ (.next ⟨rfl, trivial⟩ (.refl _)))
  obtain ⟨safe, law⟩ := framed_runs_are_safe 131072 _ _ (by decide) (by decide)
  exact ⟨_, safe.mpr run, law run, done⟩

def zeroTotal : Buffer := receive (recvGuard (create 131072)) [0, 0]

theorem zero_total_received : recvStep (create 131072) (.recv [0, 0]) zeroTotal :=
  ⟨by decide, by decide, rfl⟩

/-- A total size of zero passes the length check, and the head size is read
from an empty buffer. -/
theorem zero_total_breaks_decoder :
    ¬ ∀ size trace b, 0 < size → size < 2147483648 → Run recvStep (create size) trace b →
      ∀ pooled conn, PooledSize pooled → ∃ fuel, SafeCall b (getTcpPacket fuel pooled conn b) := by
  intro law
  have steady := recv_run_steady 131072 [.recv [0, 0]] zeroTotal (by decide) (by decide)
    (Run.next ⟨zero_total_received, fun _ => by decide⟩ (Run.refl _))
  obtain ⟨fuel, safe⟩ := law 131072 [.recv [0, 0]] zeroTotal (by decide) (by decide)
    (Run.next zero_total_received (Run.refl _)) 10240 ⟨⟨-1, .none⟩, clear⟩ ⟨0, by decide, rfl⟩
  have bytes : contents zeroTotal = [0, 0] := by decide
  rcases frame_of_safe_call fuel _ _ zeroTotal steady safe with waits | framed
  · rw [bytes] at waits
    exact absurd waits (by decide)
  · have held := framed.headHeld
    rw [bytes] at held
    exact absurd held (by decide)

end GameBook.TcpDecoder
