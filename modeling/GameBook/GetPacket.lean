import GameBook.HttpPacket
import GameBook.TcpDecoder

/-!
`RecvNetworkBuffer::GetPacket` on connections of either kind, next to a parser
of the same bytes. A TCP frame stands where its length has arrived, covers its
own head and has a known id. The first bytes that are not such a frame, and not
the beginning of one, close the connection or keep the call from returning.
-/

namespace GameBook

open MachineWord NetworkBuffer ProtoId SocketObject Mongoose StreamParser TcpFraming TcpDecoder HttpPacket

namespace GetPacket

/-- What the bytes of a frame say; the other tags of its packet are those of
the connection. -/
structure Frame where
  msgId : MsgId
  headSize : Nat
  head : Bytes
  data : Bytes
  deriving DecidableEq

inductive Item where
  | tcp (frame : Frame)
  | http (parsed : ParsedHttp)
  deriving DecidableEq

/-! TCP frames on a byte list. -/

def frameOf (msgId : MsgId) (bytes : Bytes) : Frame :=
  ⟨msgId, frameHeadSize bytes, frameHead bytes, frameBody bytes⟩

def nextFrame (bytes : Bytes) : Option (Frame × Nat) :=
  if Waits bytes ∨ frameTotal bytes < 4 + frameHeadLength bytes then none
  else (frameMsgId bytes).map fun msgId => (frameOf msgId bytes, frameTotal bytes)

theorem next_frame_found {bytes : Bytes} {frame : Frame} {size : Nat}
    (found : nextFrame bytes = some (frame, size)) :
    ¬ Waits bytes ∧ 4 + frameHeadLength bytes ≤ frameTotal bytes ∧
      frameMsgId bytes = some frame.msgId ∧ frame = frameOf frame.msgId bytes ∧ size = frameTotal bytes := by
  unfold nextFrame at found
  split at found
  · cases found
  · rename_i whole
    obtain ⟨msgId, known, same⟩ := Option.map_eq_some_iff.mp found
    cases same
    rw [not_or] at whole
    exact ⟨whole.1, by omega, known, rfl, rfl⟩

theorem next_frame_progress (bytes : Bytes) (frame : Frame) (size : Nat)
    (found : nextFrame bytes = some (frame, size)) : 0 < size ∧ size ≤ bytes.length := by
  obtain ⟨whole, lengths, -, -, same⟩ := next_frame_found found
  unfold Waits at whole
  omega

theorem frame_fields_append (bytes more : Bytes) (whole : ¬ Waits bytes)
    (lengths : 4 + frameHeadLength bytes ≤ frameTotal bytes) :
    ¬ Waits (bytes ++ more) ∧ frameTotal (bytes ++ more) = frameTotal bytes ∧
      frameHeadLength (bytes ++ more) = frameHeadLength bytes ∧
      frameMsgId (bytes ++ more) = frameMsgId bytes ∧
      ∀ msgId, frameOf msgId (bytes ++ more) = frameOf msgId bytes := by
  have held : frameTotal bytes ≤ bytes.length := by
    unfold Waits at whole
    omega
  have total : frameTotal (bytes ++ more) = frameTotal bytes := by
    rw [frameTotal, frameTotal, List.take_append_of_le_length (by omega)]
  have size : frameHeadSize (bytes ++ more) = frameHeadSize bytes := by
    rw [frameHeadSize, frameHeadSize, List.drop_append_of_le_length (by omega),
      List.take_append_of_le_length (by rw [List.length_drop]; omega)]
  have length : frameHeadLength (bytes ++ more) = frameHeadLength bytes := by
    rw [frameHeadLength, frameHeadLength, size]
  have head : frameHead (bytes ++ more) = frameHead bytes := by
    rw [frameHead, frameHead, length, List.drop_append_of_le_length (by omega),
      List.take_append_of_le_length (by rw [List.length_drop]; omega)]
  have body : frameBody (bytes ++ more) = frameBody bytes := by
    rw [frameBody, frameBody, length, total, List.drop_append_of_le_length (by omega),
      List.take_append_of_le_length (by rw [List.length_drop]; omega)]
  refine ⟨?_, total, length, ?_, ?_⟩
  · rw [Waits, total, List.length_append]
    omega
  · rw [frameMsgId, frameMsgId, head]
  · intro msgId
    rw [frameOf, frameOf, size, head, body]

theorem next_frame_append {bytes more : Bytes} {frame : Frame} {size : Nat}
    (found : nextFrame bytes = some (frame, size)) : nextFrame (bytes ++ more) = some (frame, size) := by
  obtain ⟨whole, lengths, known, -, -⟩ := next_frame_found found
  obtain ⟨stays, total, length, id, same⟩ := frame_fields_append bytes more whole lengths
  have here : ¬ (Waits bytes ∨ frameTotal bytes < 4 + frameHeadLength bytes) := by
    rw [not_or]
    exact ⟨whole, by omega⟩
  have there : ¬ (Waits (bytes ++ more) ∨
      frameTotal (bytes ++ more) < 4 + frameHeadLength (bytes ++ more)) := by
    rw [not_or, total, length]
    exact ⟨stays, by omega⟩
  rw [nextFrame, if_neg here, known] at found
  rw [nextFrame, if_neg there, id, known, total]
  simpa [same] using found

theorem next_frame_stuck (bytes more : Bytes) (whole : ¬ Waits bytes) (none : nextFrame bytes = none) :
    nextFrame (bytes ++ more) = .none := by
  by_cases lengths : 4 + frameHeadLength bytes ≤ frameTotal bytes
  · obtain ⟨stays, total, length, id, -⟩ := frame_fields_append bytes more whole lengths
    have here : ¬ (Waits bytes ∨ frameTotal bytes < 4 + frameHeadLength bytes) := by
      rw [not_or]
      exact ⟨whole, by omega⟩
    rw [nextFrame, if_neg here, Option.map_eq_none_iff] at none
    rw [nextFrame]
    split
    · rfl
    · rw [id, none]
      rfl
  · have held : frameTotal bytes ≤ bytes.length ∧ 2 ≤ bytes.length := by
      unfold Waits at whole
      omega
    have total : frameTotal (bytes ++ more) = frameTotal bytes := by
      rw [frameTotal, frameTotal, List.take_append_of_le_length held.2]
    have short : frameTotal (bytes ++ more) < 4 + frameHeadLength (bytes ++ more) := by
      have cases := frame_head_length_cases (bytes ++ more)
      by_cases early : bytes.length < 4
      · omega
      · have size : frameHeadSize (bytes ++ more) = frameHeadSize bytes := by
          rw [frameHeadSize, frameHeadSize, List.drop_append_of_le_length (by omega),
            List.take_append_of_le_length (by rw [List.length_drop]; omega)]
        rw [total, frameHeadLength, size, ← frameHeadLength]
        omega
    rw [nextFrame, if_pos (Or.inr short)]

/-! One call of `GetTcpPacket`. -/

/-- With a length that does not cover the head the body length wraps, and a
call that finds a known id never returns. -/
theorem short_total_never_returns (fuel pooled : Nat) (conn : NetIdentify) (b : Buffer)
    (reached : PooledSize pooled) (short : totalSize b < 4 + headLength b) (whole : ¬ b.dataSize < 2)
    (complete : ¬ b.dataSize < totalSize b) :
    (getTcpPacket fuel pooled conn b).outcome = none ∨ (getTcpPacket fuel pooled conn b).outcome = some .closed := by
  have lengths : headLength b = 2 ∨ headLength b = 20 := by
    unfold headLength
    split
    · exact Or.inl rfl
    · exact Or.inr rfl
  have wrapped : 4294967272 ≤ dataLength b := by
    unfold dataLength sub32
    omega
  rw [getTcpPacket, if_neg whole, if_neg complete]
  split
  · exact Or.inr rfl
  · rw [grow_packet_diverges (dataLength b) pooled fuel wrapped reached]
    exact Or.inl rfl

def TcpFound (b after : Buffer) : TcpFraming.Outcome → Prop
  | .null => Waits (contents b) ∧ after = b
  | .closed => ¬ Waits (contents b) ∧ nextFrame (contents b) = none
  | .packet p =>
      nextFrame (contents b) = some (⟨p.msgId, headSize b, head b, p.data⟩, frameTotal (contents b)) ∧
      Steady after ∧ contents after = (contents b).drop (frameTotal (contents b)) ∧
      after.dataSize ≤ b.dataSize ∧ after.bufferSize = b.bufferSize

theorem tcp_call (fuel pooled : Nat) (conn : NetIdentify) (b : Buffer) (steady : Steady b)
    (reached : PooledSize pooled) (outcome : TcpFraming.Outcome)
    (done : (getTcpPacket fuel pooled conn b).outcome = some outcome) :
    TcpFound b (getTcpPacket fuel pooled conn b).after outcome := by
  by_cases whole : Waits (contents b)
  · obtain ⟨null, same, -⟩ := get_tcp_packet_waits fuel pooled conn b steady whole
    rw [null] at done
    cases done
    exact ⟨whole, same⟩
  · have held : frameTotal (contents b) ≤ b.dataSize ∧ 2 ≤ b.dataSize := by
      rw [Waits, contents_length] at whole
      omega
    have sameTotal := total_size_frame b steady held.2
    by_cases lengths : 4 + frameHeadLength (contents b) ≤ frameTotal (contents b)
    · have enough : 4 + frameHeadLength (contents b) ≤ b.dataSize := by omega
      have framed : Framed (contents b) := ⟨by rw [contents_length]; exact enough, fun _ => lengths⟩
      have here : ¬ (Waits (contents b) ∨
          frameTotal (contents b) < 4 + frameHeadLength (contents b)) := by
        rw [not_or]
        exact ⟨whole, by omega⟩
      cases known : frameMsgId (contents b) with
      | none =>
          rw [get_tcp_packet_closes fuel pooled conn b steady whole framed known] at done
          cases done
          refine ⟨whole, ?_⟩
          rw [nextFrame, if_neg here, known]
          rfl
      | some msgId =>
          have call := get_tcp_packet_packet fuel pooled conn b msgId steady whole framed known
          rw [call] at done ⊢
          obtain ⟨_, -, same⟩ := Option.map_eq_some_iff.mp done
          cases same
          obtain ⟨steadyAfter, rest, count, size⟩ := after_body_frame b steady whole enough lengths
          refine ⟨?_, steadyAfter, rest, by rw [count]; exact Nat.sub_le _ _, size⟩
          rw [nextFrame, if_neg here, known, head_size_frame b steady (by omega),
            (head_frame b steady enough).1]
          rfl
    · have short : totalSize b < 4 + headLength b := by
        by_cases early : b.dataSize < 4
        · have atLeast : 2 ≤ headLength b := by
            unfold headLength
            split <;> omega
          omega
        · rw [sameTotal, head_length_frame b steady (by omega)]
          omega
      have none : nextFrame (contents b) = .none := by
        rw [nextFrame, if_pos (Or.inr (by omega))]
      rcases short_total_never_returns fuel pooled conn b reached short (by omega) (by omega) with lost | closed
      · rw [lost] at done
        cases done
      · rw [closed] at done
        cases done
        exact ⟨whole, none⟩

/-! Both kinds. -/

/-- What `GetPacket` returns: a packet, or a null pointer after which the
connection waits for more or has been asked to close. -/
inductive Got where
  | null
  | closed
  | packet (item : Item)

def tcpGot (b : Buffer) : TcpFraming.Outcome → Got
  | .null => .null
  | .closed => .closed
  | .packet p => .packet (.tcp ⟨p.msgId, headSize b, head b, p.data⟩)

def httpGot : HttpPacket.Outcome → Got
  | .null => .null
  | .closed => .closed
  | .packet p => .packet (.http p.parsed)

def isConnector (netType : NetworkType) : Bool := netType = .httpConnector

end GetPacket

open GetPacket in
/-- `GetPacket`, with the tags of the connection and the packet of the pool as
they are at the call. -/
inductive GetPacket (netType : NetworkType) (b : Buffer) : Got → Buffer → Prop where
  | tcp (fuel pooled : Nat) (conn : NetIdentify) (outcome : TcpFraming.Outcome) :
      isTcp netType = true → PooledSize pooled →
      (getTcpPacket fuel pooled conn b).outcome = some outcome →
      GetPacket netType b (tcpGot b outcome) (getTcpPacket fuel pooled conn b).after
  | http (conn : NetIdentify) (outcome : HttpPacket.Outcome) :
      isTcp netType = false → (getHttpPacket (isConnector netType) conn b).outcome = some outcome →
      GetPacket netType b (httpGot outcome) (getHttpPacket (isConnector netType) conn b).after

namespace GetPacket

def nextItem (netType : NetworkType) (bytes : Bytes) : Option (Item × Nat) :=
  if isTcp netType then (nextFrame bytes).map fun found => (.tcp found.1, found.2)
  else (nextMessage (!isConnector netType) bytes).map fun found => (.http found.1, found.2)

theorem next_item_progress (netType : NetworkType) (bytes : Bytes) (item : Item) (size : Nat)
    (found : nextItem netType bytes = some (item, size)) : 0 < size ∧ size ≤ bytes.length := by
  unfold nextItem at found
  split at found
  · obtain ⟨⟨frame, total⟩, there, same⟩ := Option.map_eq_some_iff.mp found
    cases same
    exact next_frame_progress bytes frame _ there
  · obtain ⟨⟨parsed, total⟩, there, same⟩ := Option.map_eq_some_iff.mp found
    cases same
    exact next_message_progress _ bytes parsed _ there

def packetParser (netType : NetworkType) : Parser UInt8 Item := ⟨nextItem netType, next_item_progress netType⟩

/-- What an http call needs: a ring that has not wrapped, a head that is not
malformed, lengths that fit, and chunks only when everything has arrived. -/
structure HttpReadable (netType : NetworkType) (b : Buffer) (arrived : Prop) : Prop where
  contiguous : b.beginIndex ≤ b.endIndex
  accepted : 0 ≤ (mgParseHttp (contents b) (!isConnector netType)).1
  fit : lengthsFit (!isConnector netType) (contents b) = true
  chunks : holdsChunks (!isConnector netType) (contents b) = true → arrived

/-- What `GetPacket` has found, by what it returns. A packet is the item at the
front, and stays it where `arrived` leaves room for more bytes. -/
def PacketFound (netType : NetworkType) (b after : Buffer) (arrived : Prop) : Got → Prop
  | .null => (packetParser netType).next (contents b) = none ∧ after = b
  | .closed => ∀ more, (packetParser netType).next (contents b ++ more) = none
  | .packet item => ∃ size, (packetParser netType).next (contents b) = some (item, size) ∧
      Steady after ∧ contents after = (contents b).drop size ∧ after.dataSize < after.bufferSize ∧
      ∀ more, (arrived → more = []) → Settled (packetParser netType) (contents b) more

theorem get_packet_found (netType : NetworkType) (b : Buffer) (got : Got) (after : Buffer) (arrived : Prop)
    (steady : Steady b) (room : b.dataSize < b.bufferSize)
    (readable : isTcp netType = false → HttpReadable netType b arrived)
    (call : GetPacket netType b got after) : PacketFound netType b after arrived got := by
  cases call with
  | tcp fuel pooled conn outcome tcp reached done =>
      have next (bytes : Bytes) : (packetParser netType).next bytes =
          (nextFrame bytes).map fun found => (.tcp found.1, found.2) := if_pos tcp
      have spec := tcp_call fuel pooled conn b steady reached outcome done
      cases outcome with
      | null =>
          refine ⟨?_, spec.2⟩
          rw [next, nextFrame, if_pos (Or.inl spec.1)]
          rfl
      | closed =>
          intro more
          rw [next, next_frame_stuck (contents b) more spec.1 spec.2]
          rfl
      | packet p =>
          obtain ⟨found, steadyAfter, rest, count, size⟩ := spec
          refine ⟨frameTotal (contents b), ?_, steadyAfter, rest, by omega, ?_⟩
          · rw [next, found]
            rfl
          · intro more _ item taken here
            rw [next] at here ⊢
            obtain ⟨frame, there, same⟩ := Option.map_eq_some_iff.mp here
            rw [next_frame_append there, ← same]
            rfl
  | http conn outcome http done =>
      have next : (packetParser netType).next = fun bytes =>
          (nextMessage (!isConnector netType) bytes).map fun found => (.http found.1, found.2) := by
        funext bytes
        exact if_neg (by simp [http])
      obtain ⟨contiguous, accepted, fit, chunks⟩ := readable http
      rcases http_call (isConnector netType) conn b steady room contiguous accepted fit with
        ⟨call, none⟩ | ⟨parsed, size, call, found⟩ | ⟨lost, -⟩
      · rw [call] at done ⊢
        cases done
        refine ⟨?_, rfl⟩
        rw [next]
        dsimp only
        rw [none]
        rfl
      · rw [call] at done ⊢
        cases done
        have bounds := next_message_progress _ _ _ _ found
        rw [contents_length] at bounds
        obtain ⟨steadyAfter, rest, count, size'⟩ := remove_steady b size steady bounds.2
        refine ⟨size, ?_, steadyAfter, rest, by dsimp only; omega, ?_⟩
        · rw [next]
          dsimp only
          rw [found]
          rfl
        · intro more all item taken here
          rw [next] at here ⊢
          dsimp only at here ⊢
          obtain ⟨message, there, same⟩ := Option.map_eq_some_iff.mp here
          have settled := http_settled (!isConnector netType) (contents b) more fun held => all (chunks held)
          have stays : nextMessage (!isConnector netType) (contents b ++ more) = some message :=
            settled message.1 message.2 there
          rw [stays, ← same]
          rfl
      · rw [lost] at done
        cases done

end GetPacket

end GameBook
