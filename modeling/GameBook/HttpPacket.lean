import GameBook.Mongoose
import GameBook.StreamParser
import GameBook.TcpFraming

/-!
Packets on an http connection: `RecvNetworkBuffer::GetHttpPacket` and
`MessageSystemHelp::ParseHttp`. A listener reads requests, a connector
responses. The parser below reads the same messages from a plain byte list,
with lengths that do not wrap.
-/

namespace GameBook

open RingWindow MachineWord NetworkBuffer ProtoId SocketObject Mongoose StreamParser
open TcpFraming (Steady)

namespace HttpPacket

structure Http where
  body : Bytes
  statusCode : Int
  deriving DecidableEq

structure ParsedHttp where
  msgId : MsgId
  http : Http
  deriving DecidableEq

end HttpPacket

structure HttpPacket extends NetIdentify where
  parsed : HttpPacket.ParsedHttp

namespace HttpPacket

def unsigned (n : Int) : Nat := (n % 4294967296).toNat

/-- The text behind the number that `atoi` reads. -/
def behindNumber (s : Bytes) : Bytes :=
  let text := s.dropWhile isSpace
  (if text.head? = some 45 ∨ text.head? = some 43 then text.tail else text).dropWhile isDigit

/-- The loop over the chunks of a body. It reads their sizes in decimal and the
data up to the next line end. Nothing is returned where it would read behind
the data; every turn removes a line, so the length of the data bounds the turns. -/
def chunks : Nat → Bytes → Option Bytes
  | 0, _ => none
  | turns + 1, s =>
      if behindNumber s = [] then none
      else if atoi s = 0 then some []
      else
        let size := mgSkip s (ascii "\r\n")
        let data := mgSkip size.2 (ascii "\r\n")
        (chunks turns data.2).map fun later => data.1 ++ later

def bodyOf (s : Bytes) (chunked : Bool) : Option Bytes :=
  if s = [] then some []
  else if chunked then chunks (s.length + 1) s
  else some s

def parseHttp (s : Bytes) (chunked : Bool) (hm : HttpMessage) : Option ParsedHttp :=
  (bodyOf s chunked).map fun body =>
    if hm.method ≠ [] then
      if sameText hm.method (ascii "GET") ∧ sameText hm.uri (ascii "/login") then
        ⟨.miHttpRequestLogin, ⟨body, 0⟩⟩
      else ⟨.miHttpRequestBad, ⟨body, 0⟩⟩
    else ⟨.miHttpOuterResponse, ⟨body, hm.respCode⟩⟩

def contentLength (hm : HttpMessage) : Option Bytes := mgGetHttpHeader hm (ascii "Content-Length")

def isChunked (hm : HttpMessage) : Bool :=
  match mgGetHttpHeader hm (ascii "Transfer-Encoding") with
  | none => false
  | some value => sameText value (ascii "chunked")

def announced (hm : HttpMessage) : Nat :=
  match contentLength hm with
  | none => 0
  | some value => unsigned (atoi value)

/-- `bodyLen` behind its three checks, and nothing where one of them returns. A
chunked body is all that has arrived behind the head. -/
def bodyLength (received : Bytes) (recvBufLength headerLen : Nat) (hm : HttpMessage) : Option Nat :=
  if 0 < announced hm ∧ recvBufLength < add32 (announced hm) headerLen then none
  else if isChunked hm then
    if recvBufLength = headerLen then none
    else if unsigned (mgHttpGetRequestLen (received.drop headerLen)) ≤ 0 then none
    else some (sub32 recvBufLength headerLen)
  else some (announced hm)

inductive Outcome where
  | null
  | closed
  | packet (p : HttpPacket)

/-- One call: what it returns (nothing where it reads memory that was never
written) and the buffer it leaves. -/
structure Call where
  outcome : Option Outcome
  after : Buffer

def getHttpPacket (isConnector : Bool) (conn : NetIdentify) (b : Buffer) : Call :=
  if b.endIndex < b.beginIndex then ⟨some .closed, b⟩
  else
    let recvBufLength := sub32 b.endIndex b.beginIndex
    let received := slice b.buffer b.beginIndex recvBufLength
    let parsed := mgParseHttp received (!isConnector)
    -- unsigned, so a rejected head passes as 2^32 - 1 bytes
    let headerLen := unsigned parsed.1
    if headerLen ≤ 0 then ⟨some .null, b⟩
    else
      match parsed.2 with
      | none => ⟨none, b⟩
      | some hm =>
          match bodyLength received recvBufLength headerLen hm with
          | none => ⟨some .null, b⟩
          | some bodyLen =>
              ⟨(parseHttp (slice b.buffer (b.beginIndex + headerLen) bodyLen) (isChunked hm) hm).map
                  fun parsed => .packet ⟨conn, parsed⟩,
                removeDate b (add32 bodyLen headerLen)⟩

/-! The same on a byte list. -/

/-- The number a `Content-Length` stands for. -/
def lengthValue (hm : HttpMessage) : Int :=
  match contentLength hm with
  | none => 0
  | some value => strtol value

def nextMessage (isReq : Bool) (bytes : Bytes) : Option (ParsedHttp × Nat) :=
  match mgParseHttp bytes isReq with
  | (_, none) => none
  | (len, some hm) =>
      if len ≤ 0 ∨ (bytes.length : Int) < len + lengthValue hm ∨ lengthValue hm < 0 then none
      else if isChunked hm then
        if mgHttpGetRequestLen (bytes.drop len.toNat) = 0 then none
        else (parseHttp (bytes.drop len.toNat) true hm).map fun parsed => (parsed, bytes.length)
      else
        (parseHttp ((bytes.drop len.toNat).take (lengthValue hm).toNat) false hm).map fun parsed =>
          (parsed, len.toNat + (lengthValue hm).toNat)

/-- A chunked message that is taken now, with all that has arrived. -/
def holdsChunks (isReq : Bool) (bytes : Bytes) : Bool :=
  match mgParseHttp bytes isReq with
  | (_, none) => false
  | (len, some hm) =>
      0 < len && len + lengthValue hm ≤ bytes.length && isChunked hm &&
        mgHttpGetRequestLen (bytes.drop len.toNat) ≠ 0

/-- How a message was found: its head, and either all there is or the body that
the head announces. -/
structure Found (isReq : Bool) (bytes : Bytes) (parsed : ParsedHttp) (size : Nat) (len : Int) (hm : HttpMessage) :
    Prop where
  read : mgParseHttp bytes isReq = (len, some hm)
  positive : 0 < len
  announced : 0 ≤ lengthValue hm
  held : len + lengthValue hm ≤ bytes.length
  taken : (isChunked hm = true ∧ holdsChunks isReq bytes = true ∧ size = bytes.length) ∨
    (isChunked hm = false ∧ size = len.toNat + (lengthValue hm).toNat ∧
      parseHttp ((bytes.drop len.toNat).take (lengthValue hm).toNat) false hm = some parsed)

theorem next_message_found (isReq : Bool) (bytes : Bytes) (parsed : ParsedHttp) (size : Nat)
    (found : nextMessage isReq bytes = some (parsed, size)) :
    ∃ len hm, Found isReq bytes parsed size len hm := by
  unfold nextMessage at found
  split at found
  · cases found
  · rename_i len hm read
    split at found
    · cases found
    · rename_i fits
      refine ⟨len, hm, read, by omega, by omega, by omega, ?_⟩
      split at found
      · rename_i chunked
        split at found
        · cases found
        · rename_i blankLine
          obtain ⟨_, -, same⟩ := Option.map_eq_some_iff.mp found
          cases same
          refine Or.inl ⟨chunked, ?_, rfl⟩
          rw [holdsChunks, read]
          simp only [Bool.and_eq_true, decide_eq_true_eq]
          exact ⟨⟨⟨by omega, by omega⟩, chunked⟩, blankLine⟩
      · rename_i plain
        obtain ⟨_, done, same⟩ := Option.map_eq_some_iff.mp found
        cases same
        exact Or.inr ⟨by simpa using plain, rfl, done⟩

theorem next_message_progress (isReq : Bool) (bytes : Bytes) (parsed : ParsedHttp) (size : Nat)
    (found : nextMessage isReq bytes = some (parsed, size)) : 0 < size ∧ size ≤ bytes.length := by
  obtain ⟨len, hm, here⟩ := next_message_found isReq bytes parsed size found
  have positive := here.positive
  have announced := here.announced
  have held := here.held
  rcases here.taken with ⟨-, -, all⟩ | ⟨-, sum, -⟩
  · omega
  · omega

def httpParser (isReq : Bool) : Parser UInt8 ParsedHttp := ⟨nextMessage isReq, next_message_progress isReq⟩

def chunksEnd (isReq : Bool) (bytes : Bytes) : Bool :=
  match mgParseHttp bytes isReq with
  | (_, none) => false
  | (len, some hm) => (parseHttp (bytes.drop len.toNat) true hm).isSome

/-- A message that does not take all there is stays when more bytes arrive. -/
theorem http_settled (isReq : Bool) (bytes more : Bytes)
    (whole : holdsChunks isReq bytes = true → more = []) : Settled (httpParser isReq) bytes more := by
  intro parsed size found
  obtain ⟨len, hm, here⟩ := next_message_found isReq bytes parsed size found
  rcases here.taken with ⟨-, held, -⟩ | ⟨plain, sum, done⟩
  · rw [whole held, List.append_nil]
    exact found
  · have positive := here.positive
    have announced := here.announced
    have held := here.held
    have length := mg_parse_http_len bytes isReq (by rw [here.read]; exact positive)
    rw [here.read] at length
    dsimp only at length
    have read := mg_parse_http_append bytes more isReq (by omega)
    rw [here.read] at read
    have stays : ¬ (len ≤ 0 ∨ ((bytes ++ more).length : Int) < len + lengthValue hm ∨ lengthValue hm < 0) := by
      rw [List.length_append]
      omega
    have body : ((bytes ++ more).drop len.toNat).take (lengthValue hm).toNat =
        (bytes.drop len.toNat).take (lengthValue hm).toNat := by
      rw [List.drop_append_of_le_length (by omega),
        List.take_append_of_le_length (by rw [List.length_drop]; omega)]
    change nextMessage isReq (bytes ++ more) = some (parsed, size)
    rw [nextMessage, read]
    dsimp only
    rw [if_neg stays, plain, if_neg (by simp), body, done, sum]
    rfl

/-- The head and the body it announces fit an unsigned int. -/
def lengthsFit (isReq : Bool) (bytes : Bytes) : Bool :=
  match mgParseHttp bytes isReq with
  | (_, none) => true
  | (len, some hm) => 0 ≤ lengthValue hm && len + lengthValue hm < 4294967296

/-! Where the numbers fit, the checks of a call are those of the byte list. -/

theorem unsigned_exact (n : Int) (positive : 0 ≤ n) (fits : n < 4294967296) : unsigned n = n.toNat := by
  rw [unsigned, Int.emod_eq_of_lt positive fits]

theorem unsigned_zero_iff (n : Int) (low : -1 ≤ n) (high : n < 4294967296) : unsigned n ≤ 0 ↔ n = 0 := by
  unfold unsigned
  omega

theorem announced_exact (hm : HttpMessage) (positive : 0 ≤ lengthValue hm)
    (fits : lengthValue hm < 4294967296) : announced hm = (lengthValue hm).toNat := by
  unfold announced
  unfold lengthValue at positive fits ⊢
  split
  · rfl
  · rename_i value found
    rw [found] at positive fits
    dsimp only at positive fits
    have same : unsigned (atoi value) = unsigned (strtol value) :=
      congrArg Int.toNat (Int.bmod_emod (x := strtol value) (m := 4294967296))
    rw [same, unsigned_exact _ positive fits]

theorem parse_http_plain (s : Bytes) (hm : HttpMessage) : ∃ parsed, parseHttp s false hm = some parsed := by
  have body : bodyOf s false = some s := by
    unfold bodyOf
    by_cases empty : s = []
    · rw [if_pos empty, empty]
    · rw [if_neg empty]
      rfl
  rw [parseHttp, body]
  exact ⟨_, rfl⟩

theorem next_message_body (isReq : Bool) (bytes : Bytes) (len : Int) (hm : HttpMessage)
    (read : mgParseHttp bytes isReq = (len, some hm)) (positive : 0 < len)
    (short : bytes.length < 2147483648) (fit : lengthsFit isReq bytes = true) :
    match bodyLength bytes bytes.length len.toNat hm with
    | none => nextMessage isReq bytes = none
    | some bodyLen =>
        len.toNat + bodyLen ≤ bytes.length ∧
        match parseHttp ((bytes.drop len.toNat).take bodyLen) (isChunked hm) hm with
        | none => holdsChunks isReq bytes = true ∧ chunksEnd isReq bytes = false
        | some parsed => nextMessage isReq bytes = some (parsed, len.toNat + bodyLen) := by
  have within := request_len_le bytes
  have length := mg_parse_http_len bytes isReq (by rw [read]; exact positive)
  rw [read] at length
  dsimp only at length
  rw [lengthsFit, read] at fit
  simp only [Bool.and_eq_true, decide_eq_true_eq] at fit
  have size := announced_exact hm fit.1 (by omega)
  have total : add32 (announced hm) len.toNat = (lengthValue hm).toNat + len.toNat := by
    rw [size, add32_exact _ _ (by omega)]
  by_cases waits : (bytes.length : Int) < len + lengthValue hm
  · have early : 0 < announced hm ∧ bytes.length < add32 (announced hm) len.toNat := by omega
    rw [bodyLength, if_pos early]
    dsimp only
    rw [nextMessage, read]
    dsimp only
    rw [if_pos (Or.inr (Or.inl waits))]
  · have held : ¬ (0 < announced hm ∧ bytes.length < add32 (announced hm) len.toNat) := by omega
    have goesOn : ¬ (len ≤ 0 ∨ (bytes.length : Int) < len + lengthValue hm ∨ lengthValue hm < 0) := by omega
    rw [bodyLength, if_neg held, nextMessage, read]
    dsimp only
    rw [if_neg goesOn]
    cases chunked : isChunked hm with
    | false =>
        rw [if_neg (by simp), if_neg (by simp)]
        dsimp only
        obtain ⟨parsed, done⟩ := parse_http_plain ((bytes.drop len.toNat).take (lengthValue hm).toNat) hm
        rw [size, done]
        exact ⟨by omega, rfl⟩
    | true =>
        rw [if_pos rfl, if_pos rfl]
        have low := request_len_from_ge (bytes.drop len.toNat) 0
        have high := request_len_le (bytes.drop len.toNat)
        rw [← mgHttpGetRequestLen] at low
        rw [List.length_drop] at high
        have blankLine := unsigned_zero_iff (mgHttpGetRequestLen (bytes.drop len.toNat)) low (by omega)
        by_cases bare : bytes.length = len.toNat
        · rw [if_pos bare]
          dsimp only
          rw [← bare, List.drop_length]
          rfl
        · rw [if_neg bare]
          by_cases none : mgHttpGetRequestLen (bytes.drop len.toNat) = 0
          · rw [if_pos (blankLine.mpr none), if_pos none]
          · rw [if_neg (fun zero => none (blankLine.mp zero)), if_neg none]
            dsimp only
            have sum : len.toNat + (bytes.length - len.toNat) = bytes.length := by omega
            have all : (bytes.drop len.toNat).take (bytes.length - len.toNat) = bytes.drop len.toNat :=
              List.take_of_length_le (by rw [List.length_drop])
            rw [sub32_exact _ _ (by omega) (by omega), sum, all]
            refine ⟨Nat.le_refl _, ?_⟩
            cases done : parseHttp (bytes.drop len.toNat) true hm with
            | some parsed => rfl
            | none =>
                rw [holdsChunks, chunksEnd, read]
                simp only [Bool.and_eq_true, decide_eq_true_eq]
                rw [done]
                exact ⟨⟨⟨⟨positive, by omega⟩, chunked⟩, none⟩, rfl⟩

/-! A buffer that does not wrap. -/

theorem contiguous_contents (b : Buffer) (steady : Steady b) (room : b.dataSize < b.bufferSize)
    (contiguous : b.beginIndex ≤ b.endIndex) :
    sub32 b.endIndex b.beginIndex = b.dataSize ∧ b.beginIndex + b.dataSize = b.endIndex ∧
      slice b.buffer b.beginIndex b.dataSize = contents b := by
  have turn := steady.sound.turn
  have ends := steady.sound.ends
  have sized := steady.sized
  unfold IntSized at sized
  have straight : b.endIndex = b.beginIndex + b.dataSize := by omega
  refine ⟨?_, straight.symm, ?_⟩
  · rw [sub32_exact _ _ contiguous (by omega)]
    omega
  · rw [contents, window_linear _ _ _ _ (by omega)]

theorem slice_part (b : Buffer) (steady : Steady b) (room : b.dataSize < b.bufferSize)
    (contiguous : b.beginIndex ≤ b.endIndex) (offset size : Nat) (held : offset + size ≤ b.dataSize) :
    slice b.buffer (b.beginIndex + offset) size = ((contents b).drop offset).take size := by
  have straight := (contiguous_contents b steady room contiguous).2.1
  have ends := steady.sound.ends
  rw [contents, window_drop _ _ _ _ _ (by omega), window_take _ _ _ _ _ (by omega),
    window_linear _ _ _ _ (by omega)]

/-- What a call on a buffer that does not wrap returns, from what the parser
finds in its contents. It reads behind the data where the chunks run past it. -/
theorem http_call (isConnector : Bool) (conn : NetIdentify) (b : Buffer) (steady : Steady b)
    (room : b.dataSize < b.bufferSize) (contiguous : b.beginIndex ≤ b.endIndex)
    (accepted : 0 ≤ (mgParseHttp (contents b) (!isConnector)).1)
    (fit : lengthsFit (!isConnector) (contents b) = true) :
    (getHttpPacket isConnector conn b = ⟨some .null, b⟩ ∧
      nextMessage (!isConnector) (contents b) = none) ∨
    (∃ parsed size, getHttpPacket isConnector conn b = ⟨some (.packet ⟨conn, parsed⟩), removeDate b size⟩ ∧
      nextMessage (!isConnector) (contents b) = some (parsed, size)) ∨
    ((getHttpPacket isConnector conn b).outcome = none ∧
      holdsChunks (!isConnector) (contents b) = true ∧ chunksEnd (!isConnector) (contents b) = false) := by
  obtain ⟨received, straight, same⟩ := contiguous_contents b steady room contiguous
  have sized := steady.sized
  have holds := steady.sound.holds
  unfold IntSized at sized
  rw [getHttpPacket, if_neg (Nat.not_lt.mpr contiguous)]
  dsimp only
  rw [received, same]
  by_cases positive : 0 < (mgParseHttp (contents b) (!isConnector)).1
  · obtain ⟨hm, read⟩ := mg_parse_http_some _ _ positive
    generalize (mgParseHttp (contents b) (!isConnector)).1 = len at *
    have within := request_len_le (contents b)
    have length := mg_parse_http_len (contents b) (!isConnector) (by rw [read]; exact positive)
    rw [contents_length] at within
    rw [read] at length
    dsimp only at length
    have exactLen : unsigned len = len.toNat := unsigned_exact len (by omega) (by omega)
    have body := next_message_body (!isConnector) (contents b) len hm read positive
      (by rw [contents_length]; omega) fit
    rw [contents_length] at body
    rw [read]
    dsimp only
    rw [exactLen, if_neg (by omega)]
    cases found : bodyLength (contents b) b.dataSize len.toNat hm with
    | none =>
        rw [found] at body
        exact Or.inl ⟨rfl, body⟩
    | some bodyLen =>
        rw [found] at body
        dsimp only at body ⊢
        obtain ⟨held, outcome⟩ := body
        rw [slice_part b steady room contiguous _ _ held, add32_exact _ _ (by omega), Nat.add_comm bodyLen]
        cases done : parseHttp (((contents b).drop len.toNat).take bodyLen) (isChunked hm) hm with
        | none =>
            rw [done] at outcome
            exact Or.inr (Or.inr ⟨rfl, outcome⟩)
        | some parsed =>
            rw [done] at outcome
            exact Or.inr (Or.inl ⟨parsed, len.toNat + bodyLen, rfl, outcome⟩)
  · have zero : (mgParseHttp (contents b) (!isConnector)).1 = 0 := by omega
    have none : nextMessage (!isConnector) (contents b) = .none := by
      rw [nextMessage]
      split
      · rfl
      · rename_i len hm read
        rw [read] at zero
        dsimp only at zero
        rw [if_pos (Or.inl (by omega))]
    rw [zero]
    exact Or.inl ⟨rfl, none⟩

end HttpPacket

end GameBook
