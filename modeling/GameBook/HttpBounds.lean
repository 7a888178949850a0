import GameBook.HttpPacket

/-!
Which part of the receive buffer `GetHttpPacket` hands to `ParseHttp` and takes
out. The length of the head and the number of `Content-Length` are kept in
unsigned words: a rejected head has 2^32 - 1 bytes, and a negative number wraps
when it is added to the length of the head.
-/

namespace GameBook.HttpBounds

open RingWindow MachineWord NetworkBuffer SocketObject Mongoose HttpPacket
open TcpFraming (Steady remove_steady)

/-- What a call does with the bytes there are: it closes, waits, reads a message
that was never written, or has one parsed. -/
inductive Decision where
  | closes
  | waits
  | unwritten
  | parses (headerLen bodyLen : Nat) (hm : HttpMessage)

def received (b : Buffer) : Bytes := slice b.buffer b.beginIndex (sub32 b.endIndex b.beginIndex)

/-- `GetHttpPacket` up to its call of `ParseHttp`. -/
def decision (isConnector : Bool) (b : Buffer) : Decision :=
  if b.endIndex < b.beginIndex then .closes
  else
    let parsed := mgParseHttp (received b) (!isConnector)
    if unsigned parsed.1 ≤ 0 then .waits
    else
      match parsed.2 with
      | none => .unwritten
      | some hm =>
          match bodyLength (received b) (sub32 b.endIndex b.beginIndex) (unsigned parsed.1) hm with
          | none => .waits
          | some bodyLen => .parses (unsigned parsed.1) bodyLen hm

def follow (conn : NetIdentify) (b : Buffer) : Decision → Call
  | .closes => ⟨some .closed, b⟩
  | .waits => ⟨some .null, b⟩
  | .unwritten => ⟨none, b⟩
  | .parses headerLen bodyLen hm =>
      ⟨(parseHttp (slice b.buffer (b.beginIndex + headerLen) bodyLen) (isChunked hm) hm).map
          fun parsed => .packet ⟨conn, parsed⟩,
        removeDate b (add32 bodyLen headerLen)⟩

theorem get_http_packet_follows (isConnector : Bool) (conn : NetIdentify) (b : Buffer) :
    getHttpPacket isConnector conn b = follow conn b (decision isConnector b) := by
  have same : slice b.buffer b.beginIndex (sub32 b.endIndex b.beginIndex) = received b := rfl
  by_cases wraps : b.endIndex < b.beginIndex
  · rw [getHttpPacket, decision, if_pos wraps, if_pos wraps, follow]
  · rw [getHttpPacket, decision, if_neg wraps, if_neg wraps]
    dsimp only
    rw [same]
    generalize mgParseHttp (received b) (!isConnector) = parsed
    generalize unsigned parsed.1 = headerLen
    by_cases none : headerLen ≤ 0
    · rw [if_pos none, if_pos none, follow]
    · rw [if_neg none, if_neg none]
      cases parsed.2 with
      | none => rfl
      | some hm =>
          dsimp only
          cases bodyLength (received b) (sub32 b.endIndex b.beginIndex) headerLen hm with
          | none => rfl
          | some bodyLen => rfl

theorem decision_message {isConnector : Bool} {b : Buffer} (contiguous : ¬b.endIndex < b.beginIndex)
    {len : Int} {hm : HttpMessage} (read : mgParseHttp (received b) (!isConnector) = (len, some hm))
    (counts : 0 < unsigned len) :
    decision isConnector b =
      match bodyLength (received b) (sub32 b.endIndex b.beginIndex) (unsigned len) hm with
      | none => .waits
      | some bodyLen => .parses (unsigned len) bodyLen hm := by
  rw [decision, if_neg contiguous]
  dsimp only
  rw [read]
  dsimp only
  generalize unsigned len = headerLen at *
  rw [if_neg (Nat.not_le.mpr counts)]

/-- A call gives no packet and leaves the buffer as it is, or it has a part of
the received bytes parsed and takes these and the head before them out. -/
def TakesReceived (isConnector : Bool) (conn : NetIdentify) (b : Buffer) : Prop :=
  getHttpPacket isConnector conn b = ⟨some .null, b⟩ ∨
  getHttpPacket isConnector conn b = ⟨some .closed, b⟩ ∨
  ∃ headerLen bodyLen hm, decision isConnector b = .parses headerLen bodyLen hm ∧
    0 < headerLen ∧ headerLen + bodyLen ≤ b.dataSize ∧
    slice b.buffer (b.beginIndex + headerLen) bodyLen = ((contents b).drop headerLen).take bodyLen ∧
    Steady (getHttpPacket isConnector conn b).after ∧
    contents (getHttpPacket isConnector conn b).after = (contents b).drop (headerLen + bodyLen)

/-- The head is not rejected, and a length that counts does not wrap with it. -/
def Sensible (isConnector : Bool) (b : Buffer) : Prop :=
  b.endIndex < b.beginIndex ∨
  0 ≤ (mgParseHttp (received b) (!isConnector)).1 ∧
    ∀ len hm, mgParseHttp (received b) (!isConnector) = (len, some hm) →
      isChunked hm = true ∨ announced hm + len < 4294967296

theorem received_spec {b : Buffer} (steady : Steady b) (contiguous : ¬b.endIndex < b.beginIndex) :
    (received b).length = sub32 b.endIndex b.beginIndex ∧
      sub32 b.endIndex b.beginIndex < 2147483648 ∧
      (sub32 b.endIndex b.beginIndex = 0 ∨
        sub32 b.endIndex b.beginIndex = b.dataSize ∧ b.dataSize < b.bufferSize) := by
  have turn := steady.sound.turn
  have ends := steady.sound.ends
  have holds := steady.sound.holds
  have sized := steady.sized
  unfold IntSized at sized
  have length : sub32 b.endIndex b.beginIndex = b.endIndex - b.beginIndex :=
    sub32_exact _ _ (by omega) (by omega)
  refine ⟨by simp [received], by omega, ?_⟩
  omega

theorem unsigned_bound (n : Int) : unsigned n < 4294967296 := by
  unfold unsigned
  omega

theorem announced_bound (hm : HttpMessage) : announced hm < 4294967296 := by
  unfold announced
  split
  · decide
  · exact unsigned_bound _

theorem body_length_cases {received : Bytes} {count headerLen bodyLen : Nat} {hm : HttpMessage}
    (short : count < 2147483648) (head : headerLen ≤ count)
    (found : bodyLength received count headerLen hm = some bodyLen) :
    (isChunked hm = true ∧ bodyLen = count - headerLen) ∨
    (isChunked hm = false ∧ bodyLen = announced hm ∧
      (headerLen + announced hm ≤ count ∨ 4294967296 ≤ announced hm + headerLen)) := by
  have bound := announced_bound hm
  unfold bodyLength at found
  split at found
  · cases found
  · rename_i passes
    split at found
    · rename_i chunked
      split at found
      · cases found
      · split at found
        · cases found
        · cases found
          exact .inl ⟨chunked, sub32_exact _ _ head (by omega)⟩
    · rename_i plain
      cases found
      refine .inr ⟨by simpa using plain, rfl, ?_⟩
      by_cases wraps : 4294967296 ≤ announced hm + headerLen
      · exact .inr wraps
      · have total : add32 (announced hm) headerLen = announced hm + headerLen :=
          add32_exact _ _ (by omega)
        omega

/-- A length that wraps always passes the check. -/
theorem body_length_wraps {received : Bytes} {count headerLen : Nat} {hm : HttpMessage}
    (head : headerLen ≤ count) (plain : isChunked hm = false)
    (wraps : 4294967296 ≤ announced hm + headerLen) :
    bodyLength received count headerLen hm = some (announced hm) := by
  have bound := announced_bound hm
  have passes : ¬(0 < announced hm ∧ count < add32 (announced hm) headerLen) := by
    unfold add32
    omega
  rw [bodyLength, if_neg passes, plain]
  rfl

theorem takes_of_parses {isConnector : Bool} {b : Buffer} (conn : NetIdentify) (steady : Steady b)
    (contiguous : ¬b.endIndex < b.beginIndex) {headerLen bodyLen : Nat} {hm : HttpMessage}
    (found : decision isConnector b = .parses headerLen bodyLen hm) (positive : 0 < headerLen)
    (room : b.dataSize < b.bufferSize) (held : headerLen + bodyLen ≤ b.dataSize) :
    TakesReceived isConnector conn b := by
  have sized := steady.sized
  have holds := steady.sound.holds
  unfold IntSized at sized
  have total : add32 bodyLen headerLen = headerLen + bodyLen := by
    rw [add32_exact _ _ (by omega), Nat.add_comm]
  obtain ⟨kept, left, -⟩ := remove_steady b (headerLen + bodyLen) steady held
  refine .inr (.inr ⟨headerLen, bodyLen, hm, found, positive, held, ?_, ?_, ?_⟩)
  · exact slice_part b steady room (by omega) headerLen bodyLen held
  · rw [get_http_packet_follows, found, follow, total]
    exact kept
  · rw [get_http_packet_follows, found, follow, total]
    exact left

theorem takes_of_sensible {isConnector : Bool} {b : Buffer} (conn : NetIdentify) (steady : Steady b)
    (sensible : Sensible isConnector b) : TakesReceived isConnector conn b := by
  by_cases wrapped : b.endIndex < b.beginIndex
  · refine .inr (.inl ?_)
    rw [get_http_packet_follows, decision, if_pos wrapped, follow]
  · obtain ⟨length, short, count⟩ := received_spec steady wrapped
    obtain ⟨accepted, lengths⟩ := sensible.resolve_left wrapped
    have within := request_len_le (received b)
    by_cases whole : 0 < (mgParseHttp (received b) (!isConnector)).1
    · have equal := mg_parse_http_len _ _ whole
      obtain ⟨hm, read⟩ := mg_parse_http_some _ _ whole
      generalize (mgParseHttp (received b) (!isConnector)).1 = len at *
      have size : unsigned len = len.toNat := unsigned_exact len accepted (by omega)
      have decided := decision_message wrapped read (by omega)
      have fits := lengths len hm read
      rw [size] at decided
      cases body : bodyLength (received b) (sub32 b.endIndex b.beginIndex) len.toNat hm with
      | none =>
          rw [body] at decided
          refine .inl ?_
          rw [get_http_packet_follows, decided, follow]
      | some bodyLen =>
          rw [body] at decided
          have held : len.toNat + bodyLen ≤ sub32 b.endIndex b.beginIndex := by
            rcases body_length_cases short (by omega) body with ⟨_, rest⟩ | ⟨plain, same, fit | wraps⟩
            · omega
            · omega
            · rcases fits with chunked | small
              · rw [plain] at chunked
                cases chunked
              · omega
          exact takes_of_parses conn steady wrapped decided (by omega) (by omega) (by omega)
    · have zero : (mgParseHttp (received b) (!isConnector)).1 = 0 := by omega
      refine .inl ?_
      rw [get_http_packet_follows, decision, if_neg wrapped]
      dsimp only
      rw [zero, if_pos (by decide), follow]

theorem rejected_request_fields {s : Bytes} (rejected : (parseRequestLine s).1 = false) :
    (parseRequestLine s).2.headers = [] := by
  unfold parseRequestLine at *
  dsimp only at *
  split at rejected
  · rename_i short
    rw [if_pos short]
    rfl
  · cases rejected

theorem rejected_status_fields {s : Bytes} (rejected : (parseStatusLine s).1 = false) :
    (parseStatusLine s).2.headers = [] := by
  unfold parseStatusLine at *
  dsimp only at *
  split at rejected
  · rename_i short
    rw [if_pos short]
    rfl
  · rename_i long
    rw [if_neg long]
    split at rejected
    · rename_i range
      rw [if_pos range]
      rfl
    · cases rejected

theorem rejected_fields {isReq : Bool} {head : Bytes} (rejected : (parseHead isReq head).1 = false) :
    (parseHead isReq head).2.headers = [] := by
  cases isReq with
  | true => exact rejected_request_fields rejected
  | false => exact rejected_status_fields rejected

theorem rejected_message {s : Bytes} {isReq : Bool} (rejected : (mgParseHttp s isReq).1 < 0) :
    mgParseHttp s isReq = (-1, none) ∨
      ∃ hm, mgParseHttp s isReq = (-1, some hm) ∧ hm.headers = [] := by
  have low := request_len_from_ge s 0
  rw [← mgHttpGetRequestLen] at low
  unfold mgParseHttp at *
  by_cases incomplete : mgHttpGetRequestLen s ≤ 0
  · rw [if_pos incomplete] at rejected ⊢
    have least : mgHttpGetRequestLen s = -1 := by
      dsimp only at rejected
      omega
    exact .inl (by rw [least])
  · rw [if_neg incomplete] at rejected ⊢
    dsimp only at rejected ⊢
    cases ok : (parseHead isReq (s.take (mgHttpGetRequestLen s).toNat)).1 with
    | true =>
        rw [ok, if_pos rfl] at rejected
        omega
    | false => exact .inr ⟨_, rfl, rejected_fields ok⟩

def Strays (isConnector : Bool) (b : Buffer) : Prop :=
  decision isConnector b = .unwritten ∨
    ∃ headerLen bodyLen hm, decision isConnector b = .parses headerLen bodyLen hm ∧
      b.dataSize < headerLen + bodyLen

theorem not_takes_of_strays {isConnector : Bool} {conn : NetIdentify} {b : Buffer}
    (strays : Strays isConnector b) : ¬TakesReceived isConnector conn b := by
  rw [TakesReceived, get_http_packet_follows]
  rcases strays with unwritten | ⟨headerLen, bodyLen, hm, parses, outside⟩
  · rw [unwritten, follow]
    rintro (null | closed | ⟨_, _, _, other, _⟩)
    · cases congrArg Call.outcome null
    · cases congrArg Call.outcome closed
    · cases other
  · rw [parses, follow]
    rintro (null | closed | ⟨_, _, _, same, _, held, _⟩)
    · have outcome := congrArg Call.outcome null
      obtain ⟨_, _, other⟩ := Option.map_eq_some_iff.mp outcome
      cases other
    · have outcome := congrArg Call.outcome closed
      obtain ⟨_, _, other⟩ := Option.map_eq_some_iff.mp outcome
      cases other
    · cases same
      omega

theorem strays_of_rejected {isConnector : Bool} {b : Buffer} (steady : Steady b)
    (contiguous : ¬b.endIndex < b.beginIndex)
    (rejected : (mgParseHttp (received b) (!isConnector)).1 < 0) : Strays isConnector b := by
  have sized := steady.sized
  have holds := steady.sound.holds
  unfold IntSized at sized
  have all : unsigned (-1) = 4294967295 := by decide
  rcases rejected_message rejected with nothing | ⟨hm, read, bare⟩
  · left
    rw [decision, if_neg contiguous]
    dsimp only
    rw [nothing]
    dsimp only
    rw [all]
    rfl
  · right
    have decided := decision_message contiguous read (by rw [all]; decide)
    have none : announced hm = 0 := by
      simp [announced, contentLength, mgGetHttpHeader, bare]
    have plain : isChunked hm = false := by
      simp [isChunked, mgGetHttpHeader, bare]
    have body : bodyLength (received b) (sub32 b.endIndex b.beginIndex) (unsigned (-1)) hm =
        some 0 := by
      rw [bodyLength, none, plain, if_neg (by simp)]
      rfl
    rw [body] at decided
    refine ⟨unsigned (-1), 0, hm, decided, ?_⟩
    rw [all]
    omega

theorem strays_of_wrapped {isConnector : Bool} {b : Buffer} (steady : Steady b)
    (contiguous : ¬b.endIndex < b.beginIndex) {len : Int} {hm : HttpMessage}
    (read : mgParseHttp (received b) (!isConnector) = (len, some hm)) (accepted : 0 ≤ len)
    (plain : isChunked hm = false) (wraps : 4294967296 ≤ announced hm + len) :
    Strays isConnector b := by
  obtain ⟨length, short, count⟩ := received_spec steady contiguous
  have sized := steady.sized
  have holds := steady.sound.holds
  have bound := announced_bound hm
  have within := request_len_le (received b)
  unfold IntSized at sized
  have equal := mg_parse_http_len (received b) (!isConnector) (by rw [read]; dsimp only; omega)
  rw [read] at equal
  dsimp only at equal
  have size : unsigned len = len.toNat := unsigned_exact len accepted (by omega)
  have decided := decision_message contiguous read (by omega)
  rw [size] at decided
  rw [body_length_wraps (by omega) plain (by omega)] at decided
  exact .inr ⟨len.toNat, announced hm, hm, decided, by omega⟩

/-- A call of `GetHttpPacket` gives no packet and leaves the buffer, or takes a
message out of the received bytes, exactly where the head is not rejected and
its length and that of the body do not wrap. -/
theorem http_call_within_iff (isConnector : Bool) (conn : NetIdentify) (b : Buffer)
    (steady : Steady b) : TakesReceived isConnector conn b ↔ Sensible isConnector b := by
  constructor
  · intro takes
    by_cases wrapped : b.endIndex < b.beginIndex
    · exact .inl wrapped
    · right
      have accepted : 0 ≤ (mgParseHttp (received b) (!isConnector)).1 := by
        by_contra rejected
        exact not_takes_of_strays (strays_of_rejected steady wrapped (by omega)) takes
      refine ⟨accepted, ?_⟩
      intro len hm read
      rw [read] at accepted
      by_contra neither
      obtain ⟨plain, wraps⟩ := not_or.mp neither
      exact not_takes_of_strays (strays_of_wrapped steady wrapped read accepted
        (by simpa using plain) (by omega)) takes
  · exact takes_of_sensible conn steady

/-! Requests received into an empty buffer. -/

def client : NetIdentify := ⟨⟨5, .httpListen⟩, clear⟩

def loginRequest : Bytes := ascii "GET /login HTTP/1.1\r\n\r\n"

def negativeRequest : Bytes := ascii "GET /login HTTP/1.1\r\nContent-Length: -1\r\n\r\n"

def negativeMessage : HttpMessage :=
  ⟨ascii "GET", ascii "/login", 0, [(ascii "Content-Length", ascii "-1")]⟩

theorem request_received (request : Bytes) (short : request.length < 131072) :
    Steady (receive (create 131072) request) ∧
      ¬(receive (create 131072) request).endIndex < (receive (create 131072) request).beginIndex ∧
      received (receive (create 131072) request) = request := by
  have sound := create_sound 131072 (by decide)
  have sized : IntSized (create 131072) := by
    unfold IntSized
    decide
  have room : getWriteSize (create 131072) = 131072 := by decide
  have empty : 0 < getEmptySize (create 131072) := by decide
  obtain ⟨kept, held, size⟩ :=
    receive_spec (create 131072) request sound sized empty (by omega)
  have steady : Steady (receive (create 131072) request) := by
    refine ⟨kept, ?_⟩
    rw [IntSized, size]
    exact sized
  have nothing : contents (create 131072) = [] := rfl
  have count : (receive (create 131072) request).dataSize = request.length := by
    rw [← contents_length, held, nothing, List.nil_append]
  have first : (receive (create 131072) request).beginIndex = (create 131072).beginIndex :=
    (fill_date_fields _ _).2.2.1
  have start : (create 131072).beginIndex = 0 := rfl
  have capacity : (create 131072).bufferSize = 131072 := rfl
  obtain ⟨length, -, whole⟩ := contiguous_contents _ steady (by omega) (by omega)
  refine ⟨steady, by omega, ?_⟩
  rw [received, length, whole, held, nothing, List.nil_append]

theorem login_request_taken : TakesReceived false client (receive (create 131072) loginRequest) := by
  obtain ⟨steady, -, whole⟩ := request_received loginRequest (by decide)
  have parsed : mgParseHttp loginRequest true = (23, some ⟨ascii "GET", ascii "/login", 0, []⟩) := rfl
  apply (http_call_within_iff false client _ steady).mpr
  rw [Sensible, whole]
  refine .inr ⟨by decide, ?_⟩
  intro len hm read
  cases parsed.symm.trans read
  right
  decide

/-- Minus one byte behind the head: the message is taken with 2^32 - 1 bytes. -/
theorem negative_length_strays :
    ¬ ∀ (isConnector : Bool) (conn : NetIdentify) (b : Buffer), Steady b →
      TakesReceived isConnector conn b := by
  intro within
  obtain ⟨steady, contiguous, whole⟩ := request_received negativeRequest (by decide)
  have parsed : mgParseHttp negativeRequest true = (43, some negativeMessage) := rfl
  have read := parsed
  rw [← whole] at read
  have strays : Strays false _ := strays_of_wrapped steady contiguous read (by decide)
    (by decide) (by decide)
  exact not_takes_of_strays strays (within false client _ steady)

end GameBook.HttpBounds
