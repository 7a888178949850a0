import GameBook.HttpPacket
import GameBook.LabelledRun

/-!
A stream of http messages that reaches one connection in pieces. `Recv` reads
until the socket has no more, then takes packets until `GetHttpPacket` returns
none. A ring that has wrapped is refused, and a chunked body is whatever has
arrived behind its head; away from these two the packets do not depend on how
the stream was cut or where the buffer began.
-/

namespace GameBook.HttpSegments

open MachineWord NetworkBuffer SocketObject Mongoose StreamParser HttpPacket LabelledRun
open TcpFraming (Steady remove_steady receive_steady)

/-- A request or response with the body that its `Content-Length` announces, or
with chunks. -/
structure Message (isReq : Bool) where
  head : Bytes
  body : Bytes
  hm : HttpMessage
  whole : mgParseHttp head isReq = ((head.length : Int), some hm)
  sized : lengthValue hm = body.length ∨ (isChunked hm = true ∧ contentLength hm = none)

def streamOf {isReq : Bool} (messages : List (Message isReq)) : Bytes :=
  (messages.map fun message => message.head ++ message.body).flatten

inductive Phase where
  | idle
  | receiving
  | fetching
  deriving DecidableEq

structure Link where
  buffer : Buffer
  pending : Bytes
  packets : List ParsedHttp
  closed : Bool
  phase : Phase

def opened (buffer : Buffer) (stream : Bytes) : Link := ⟨buffer, stream, [], false, .idle⟩

inductive Label where
  | recv (bytes : Bytes)
  /-- `recv()` has no more data. -/
  | blocked
  | fetch (conn : NetIdentify)

def fetched (link : Link) (after : Buffer) : Outcome → Link
  | .null => { link with buffer := after, phase := .idle }
  | .closed => { link with buffer := after, closed := true, phase := .idle }
  | .packet p => { link with buffer := after, packets := link.packets ++ [p.parsed] }

inductive Step (isConnector : Bool) : Link → Label → Link → Prop where
  | recv (link : Link) (bytes rest : Bytes) :
      link.phase ≠ .fetching → bytes ≠ [] → link.pending = bytes ++ rest →
      bytes.length ≤ getWriteSize (recvGuard link.buffer) →
      Step isConnector link (.recv bytes)
        { link with buffer := receive (recvGuard link.buffer) bytes, pending := rest, phase := .receiving }
  | blocked (link : Link) :
      link.phase ≠ .fetching →
      Step isConnector link .blocked { link with buffer := recvGuard link.buffer, phase := .fetching }
  | fetch (link : Link) (conn : NetIdentify) (outcome : Outcome) :
      link.phase = .fetching → (getHttpPacket isConnector conn link.buffer).outcome = some outcome →
      Step isConnector link (.fetch conn)
        (fetched link (getHttpPacket isConnector conn link.buffer).after outcome)

/-- A call whose buffer has not wrapped, whose head announces a length that fits,
and which takes a chunked body only when the whole stream has arrived. -/
structure WholeCall (isConnector : Bool) (link : Link) : Prop where
  contiguous : link.buffer.beginIndex ≤ link.buffer.endIndex
  fit : lengthsFit (!isConnector) (contents link.buffer) = true
  chunks : holdsChunks (!isConnector) (contents link.buffer) = true → link.pending = []

def Whole (isConnector : Bool) (link : Link) : Label → Prop
  | .fetch _ => WholeCall isConnector link
  | _ => getEmptySize link.buffer < 24 → link.buffer.bufferSize + additionalSize < 2147483648

/-! The front of a stream of messages. -/

@[simp] theorem stream_of_cons {isReq : Bool} (message : Message isReq) (later : List (Message isReq)) :
    streamOf (message :: later) = message.head ++ (message.body ++ streamOf later) := by
  simp [streamOf]

theorem head_positive {isReq : Bool} (message : Message isReq) : 0 < message.head.length := by
  rw [List.length_pos_iff]
  intro empty
  have whole := message.whole
  rw [empty] at whole
  cases whole

theorem length_value_positive {isReq : Bool} (message : Message isReq) : 0 ≤ lengthValue message.hm := by
  rcases message.sized with same | ⟨-, none⟩
  · omega
  · rw [lengthValue, none]

theorem stream_front {isReq : Bool} (messages : List (Message isReq)) (held rest : Bytes)
    (same : held ++ rest = streamOf messages) :
    mgParseHttp held isReq = (0, none) ∨
    ∃ (message : Message isReq) (later : List (Message isReq)) (tail : Bytes),
      held = message.head ++ tail ∧
      mgParseHttp held isReq = ((message.head.length : Int), some message.hm) ∧
      tail ++ rest = message.body ++ streamOf later := by
  cases messages with
  | nil =>
      have empty : held = [] := (List.append_eq_nil_iff.mp same).1
      subst empty
      exact Or.inl rfl
  | cons message later =>
      rw [stream_of_cons] at same
      have positive := head_positive message
      have len := mg_parse_http_len message.head isReq (by rw [message.whole]; dsimp only; omega)
      rw [message.whole] at len
      dsimp only at len
      have complete (tail : Bytes) :
          mgParseHttp (message.head ++ tail) isReq = ((message.head.length : Int), some message.hm) := by
        rw [mg_parse_http_append message.head tail isReq (by omega), message.whole]
      rcases List.append_eq_append_iff.mp same with ⟨missing, split, behind⟩ | ⟨tail, split, behind⟩
      · by_cases none : missing = []
        · subst none
          rw [List.append_nil] at split
          refine Or.inr ⟨message, later, [], by rw [split, List.append_nil], ?_, behind⟩
          rw [← split]
          exact message.whole
        · left
          have more := List.length_pos_iff.mpr none
          have parts := congrArg List.length split
          rw [List.length_append] at parts
          apply mg_parse_http_part held missing isReq
          rw [← split, message.whole]
          dsimp only
          omega
      · refine Or.inr ⟨message, later, tail, split, ?_, behind.symm⟩
        rw [split]
        exact complete tail

theorem stream_taken {isReq : Bool} (messages : List (Message isReq)) (held rest : Bytes)
    (same : held ++ rest = streamOf messages) (parsed : ParsedHttp) (size : Nat)
    (found : nextMessage isReq held = some (parsed, size))
    (whole : holdsChunks isReq held = true → rest = []) :
    ∃ left : List (Message isReq), held.drop size ++ rest = streamOf left := by
  obtain ⟨len, hm, here⟩ := next_message_found isReq held parsed size found
  rcases here.taken with ⟨-, chunks, all⟩ | ⟨plain, sum, -⟩
  · refine ⟨[], ?_⟩
    rw [all, List.drop_length, whole chunks]
    rfl
  · rcases stream_front messages held rest same with none | ⟨message, later, tail, split, read, behind⟩
    · have read := here.read
      rw [none] at read
      cases read
    · have sameRead := here.read
      rw [read] at sameRead
      cases sameRead
      have announced : lengthValue message.hm = message.body.length := by
        rcases message.sized with same | ⟨chunked, -⟩
        · exact same
        · rw [plain] at chunked
          cases chunked
      have enough := here.held
      rw [split, List.length_append, announced] at enough
      have total : size = message.head.length + message.body.length := by
        rw [sum, announced]
        omega
      refine ⟨later, ?_⟩
      have past : (held ++ rest).drop size = streamOf later := by
        rw [split, List.append_assoc, behind, total, ← List.append_assoc, ← List.length_append]
        exact List.drop_left
      rw [← past, List.drop_append_of_le_length]
      rw [split, List.length_append]
      omega

/-! What holds of a connection between two steps. -/

structure Decoding (isConnector : Bool) (stream : Bytes) (link : Link) : Prop where
  steady : Steady link.buffer
  kept : link.closed = false
  parsed : Parsed (httpParser (!isConnector)) stream link.packets (contents link.buffer ++ link.pending)
  messages : ∃ messages : List (Message (!isConnector)),
    contents link.buffer ++ link.pending = streamOf messages
  room : link.phase = .fetching → link.buffer.dataSize < link.buffer.bufferSize
  drained : link.phase = .idle → nextMessage (!isConnector) (contents link.buffer) = none

theorem decoding_accepted {isConnector : Bool} {stream : Bytes} {link : Link}
    (inv : Decoding isConnector stream link) :
    0 ≤ (mgParseHttp (contents link.buffer) (!isConnector)).1 := by
  obtain ⟨messages, same⟩ := inv.messages
  rcases stream_front messages _ _ same with none | ⟨message, _, _, _, read, _⟩
  · rw [none]
  · rw [read]
    dsimp only
    omega

theorem decoding_step (isConnector : Bool) (stream : Bytes) (before : Link) (label : Label) (after : Link)
    (inv : Decoding isConnector stream before)
    (step : Guarded (Step isConnector) (Whole isConnector) before label after) :
    Decoding isConnector stream after := by
  obtain ⟨taken, allowed⟩ := step
  cases taken with
  | recv bytes rest outside some pending offered =>
      obtain ⟨steady, appended⟩ := receive_steady before.buffer bytes inv.steady allowed offered
      have joined : contents (receive (recvGuard before.buffer) bytes) ++ rest =
          contents before.buffer ++ before.pending := by
        rw [appended, pending, List.append_assoc]
      constructor
      · exact steady
      · exact inv.kept
      · dsimp only
        rw [joined]
        exact inv.parsed
      · dsimp only
        rw [joined]
        exact inv.messages
      · intro fetching
        cases fetching
      · intro idle
        cases idle
  | blocked outside =>
      obtain ⟨sound, sized, same, room⟩ :=
        recv_guard_spec before.buffer inv.steady.sound inv.steady.sized allowed
      constructor
      · exact ⟨sound, sized⟩
      · exact inv.kept
      · dsimp only
        rw [same]
        exact inv.parsed
      · dsimp only
        rw [same]
        exact inv.messages
      · intro _
        dsimp only
        rw [get_empty_size_exact _ sound sized] at room
        omega
      · intro idle
        cases idle
  | fetch conn outcome fetching done =>
      have room := inv.room fetching
      rcases http_call isConnector conn before.buffer inv.steady room allowed.contiguous
        (decoding_accepted inv) allowed.fit with ⟨call, none⟩ | ⟨parsed, size, call, found⟩ | ⟨lost, -⟩
      · rw [call] at done ⊢
        cases done
        exact ⟨inv.steady, inv.kept, inv.parsed, inv.messages, fun phase => (by cases phase), fun _ => none⟩
      · rw [call] at done ⊢
        cases done
        have bounds := next_message_progress _ _ _ _ found
        rw [contents_length] at bounds
        obtain ⟨steady, rest, count, size'⟩ := remove_steady before.buffer size inv.steady bounds.2
        obtain ⟨messages, same⟩ := inv.messages
        constructor
        · exact steady
        · exact inv.kept
        · dsimp only [fetched]
          rw [rest]
          exact parsed_taken inv.parsed found (http_settled _ _ _ allowed.chunks)
        · dsimp only [fetched]
          rw [rest]
          exact stream_taken messages _ _ same parsed size found allowed.chunks
        · intro _
          dsimp only [fetched]
          rw [count, size']
          omega
        · intro idle
          rw [fetched, fetching] at idle
          cases idle
      · rw [lost] at done
        cases done

theorem decoding_returns {isConnector : Bool} {stream : Bytes} {link : Link}
    (inv : Decoding isConnector stream link) (fetching : link.phase = .fetching)
    (whole : WholeCall isConnector link)
    (ends : holdsChunks (!isConnector) (contents link.buffer) = true →
      chunksEnd (!isConnector) (contents link.buffer) = true) (conn : NetIdentify) :
    ∃ after, Step isConnector link (.fetch conn) after ∧
      (after.phase = .idle ∨ after.buffer.dataSize < link.buffer.dataSize) := by
  rcases http_call isConnector conn link.buffer inv.steady (inv.room fetching) whole.contiguous
    (decoding_accepted inv) whole.fit with ⟨call, none⟩ | ⟨parsed, size, call, found⟩ | ⟨_, held, lost⟩
  · exact ⟨_, Step.fetch link conn .null fetching (by rw [call]), Or.inl rfl⟩
  · refine ⟨_, Step.fetch link conn (.packet ⟨conn, parsed⟩) fetching (by rw [call]), Or.inr ?_⟩
    have bounds := next_message_progress _ _ _ _ found
    rw [contents_length] at bounds
    rw [call]
    dsimp only [fetched]
    rw [remove_date_count link.buffer size inv.steady.sound inv.steady.sized bounds.2]
    omega
  · rw [ends held] at lost
    cases lost

/-! The whole stream in one receive into an empty buffer. -/

structure Straight (isConnector : Bool) (stream : Bytes) (link : Link) : Prop where
  decoding : Decoding isConnector stream link
  arrived : link.pending = []
  contiguous : link.buffer.beginIndex ≤ link.buffer.endIndex
  behind : contents link.buffer <:+ stream

theorem straight_whole {isConnector : Bool} {stream : Bytes} {link : Link}
    (straight : Straight isConnector stream link) : WholeCall isConnector link := by
  refine ⟨straight.contiguous, ?_, fun _ => straight.arrived⟩
  have holds := straight.decoding.steady.sound.holds
  have sized := straight.decoding.steady.sized
  unfold IntSized at sized
  obtain ⟨messages, same⟩ := straight.decoding.messages
  rcases stream_front messages _ _ same with none | ⟨message, later, tail, split, read, behind⟩
  · rw [lengthsFit, none]
  · have positive := length_value_positive message
    have length := congrArg List.length split
    have rest := congrArg List.length behind
    rw [contents_length, List.length_append] at length
    rw [straight.arrived, List.append_nil, List.length_append] at rest
    rw [lengthsFit, read]
    simp only [Bool.and_eq_true, decide_eq_true_eq]
    refine ⟨positive, ?_⟩
    rcases message.sized with announced | ⟨-, none⟩
    · omega
    · rw [lengthValue, none]
      dsimp only
      omega

theorem straight_step (isConnector : Bool) (stream : Bytes) (before : Link) (conn : NetIdentify) (after : Link)
    (straight : Straight isConnector stream before) (step : Step isConnector before (.fetch conn) after) :
    Straight isConnector stream after := by
  have whole := straight_whole straight
  have kept := decoding_step isConnector stream before (.fetch conn) after straight.decoding ⟨step, whole⟩
  cases step with
  | fetch _ outcome fetching done =>
      have steady := straight.decoding.steady
      have room := straight.decoding.room fetching
      rcases http_call isConnector conn before.buffer steady room whole.contiguous
        (decoding_accepted straight.decoding) whole.fit with ⟨call, none⟩ | ⟨parsed, size, call, found⟩ | ⟨lost, -⟩
      · rw [call] at done kept ⊢
        cases done
        exact ⟨kept, straight.arrived, straight.contiguous, straight.behind⟩
      · rw [call] at done kept ⊢
        cases done
        have bounds := next_message_progress _ _ _ _ found
        rw [contents_length] at bounds
        have rest := (remove_steady before.buffer size steady bounds.2).2.1
        refine ⟨kept, straight.arrived, ?_, ?_⟩
        swap
        · dsimp only [fetched]
          rw [rest]
          exact (List.drop_suffix _ _).trans straight.behind
        have ends := steady.sound.ends
        have behind := (contiguous_contents before.buffer steady room whole.contiguous).2.1
        have begins := remove_date_begin before.buffer size steady.sound steady.sized bounds.2
        have sameEnd := (remove_date_fields before.buffer size).2.2.1
        rw [Nat.mod_eq_of_lt (by omega)] at begins
        dsimp only [fetched]
        rw [begins, sameEnd]
        omega
      · rw [lost] at done
        cases done

theorem straight_run (isConnector : Bool) (stream : Bytes) (fetches : List NetIdentify) (before after : Link)
    (straight : Straight isConnector stream before)
    (run : Run (Step isConnector) before (fetches.map .fetch) after) : Straight isConnector stream after := by
  induction fetches generalizing before with
  | nil =>
      cases run
      exact straight
  | cons conn later ih =>
      cases run with
      | next taken rest => exact ih _ (straight_step isConnector stream before conn _ straight taken) rest

theorem receive_begin (b : Buffer) (bytes : Bytes) : (receive b bytes).beginIndex = b.beginIndex :=
  (fill_date_fields _ _).2.2.1

theorem recv_guard_begin (b : Buffer) (zero : b.beginIndex = 0) : (recvGuard b).beginIndex = 0 := by
  unfold recvGuard reAllocBuffer
  split
  · split
    · rfl
    · split <;> rfl
  · exact zero

theorem create_offers (size : Nat) (start : Steady (create size))
    (small : size + 2 * additionalSize < 2147483648) : size ≤ getWriteSize (recvGuard (create size)) := by
  obtain ⟨sound, sized, same, -⟩ := recv_guard_spec (create size) start.sound start.sized
    (fun _ => by unfold create; dsimp only; omega)
  have begins := recv_guard_begin (create size) rfl
  have empty : (recvGuard (create size)).dataSize = 0 := by
    rw [← contents_length, same]
    rfl
  have larger : size ≤ (recvGuard (create size)).bufferSize := by
    unfold recvGuard
    split
    · rw [(re_alloc_buffer_spec (create size) start.sound start.sized).2.2.1]
      exact Nat.le_add_right _ _
    · exact Nat.le_refl _
  have turn := sound.turn
  have ends := sound.ends
  rw [get_write_size_exact _ sound sized, if_pos (by omega)]
  omega

/-- An empty buffer of `size` bytes gets the whole stream at once, and packets
are taken until none is found. -/
structure OneReceive (isConnector : Bool) (size : Nat) (stream : Bytes) (fetches : List NetIdentify)
    (whole : Link) : Prop where
  positive : 0 < size
  small : size + 2 * additionalSize < 2147483648
  run : Run (Step isConnector) (opened (create size) stream)
    (.recv stream :: .blocked :: fetches.map .fetch) whole
  done : whole.phase = .idle

theorem opened_decoding (isConnector : Bool) (messages : List (Message (!isConnector))) (start : Buffer)
    (steady : Steady start) (empty : contents start = []) :
    Decoding isConnector (streamOf messages) (opened start (streamOf messages)) := by
  constructor
  · exact steady
  · rfl
  · dsimp only [opened]
    rw [empty]
    exact parsed_start _
  · refine ⟨messages, ?_⟩
    dsimp only [opened]
    rw [empty]
    rfl
  · intro fetching
    cases fetching
  · intro _
    dsimp only [opened]
    rw [empty]
    rfl

theorem received_straight (isConnector : Bool) (messages : List (Message (!isConnector))) (size : Nat)
    (middle last : Link) (positive : 0 < size) (small : size + 2 * additionalSize < 2147483648)
    (first : Step isConnector (opened (create size) (streamOf messages)) (.recv (streamOf messages)) middle)
    (second : Step isConnector middle .blocked last) : Straight isConnector (streamOf messages) last := by
  have start : Steady (create size) := ⟨create_sound size positive, by unfold IntSized create; dsimp only; omega⟩
  have decoding := opened_decoding isConnector messages (create size) start rfl
  have guarded := recv_guard_spec (create size) start.sound start.sized
    (fun _ => by unfold create; dsimp only; omega)
  have grown : (recvGuard (create size)).bufferSize ≤ size + additionalSize := by
    unfold recvGuard
    split
    · rw [(re_alloc_buffer_spec (create size) start.sound start.sized).2.2.1]
      exact Nat.le_refl _
    · exact Nat.le_add_right _ _
  have received := decoding_step isConnector _ _ _ _ decoding
    ⟨first, fun _ => by unfold opened create; dsimp only; omega⟩
  cases first with
  | recv _ rest _ _ pending offered =>
      have none : rest = [] := by
        have length := congrArg List.length pending
        dsimp only [opened] at length
        rw [List.length_append] at length
        exact List.length_eq_zero_iff.mp (by omega)
      have size' := (receive_spec _ (streamOf messages) guarded.1 guarded.2.1 guarded.2.2.2 offered).2.2
      have begins : (receive (recvGuard (create size)) (streamOf messages)).beginIndex = 0 := by
        rw [receive_begin]
        exact recv_guard_begin (create size) rfl
      have kept := decoding_step isConnector _ _ _ _ received
        ⟨second, fun _ => by dsimp only [opened]; rw [size']; omega⟩
      cases second with
      | blocked _ =>
          refine ⟨kept, none, ?_, ?_⟩
          · dsimp only [opened]
            rw [recv_guard_begin _ begins]
            exact Nat.zero_le _
          · have appended := (receive_steady (create size) (streamOf messages) start
              (fun _ => by unfold create; dsimp only; omega) offered)
            have same := (recv_guard_spec _ appended.1.sound appended.1.sized
              (fun _ => by rw [size']; omega)).2.2.1
            dsimp only [opened]
            have none : contents (create size) = [] := rfl
            rw [same, appended.2, none]
            exact List.suffix_rfl

theorem one_receive_packets (isConnector : Bool) (messages : List (Message (!isConnector))) (size : Nat)
    (fetches : List NetIdentify) (whole : Link)
    (one : OneReceive isConnector size (streamOf messages) fetches whole) :
    whole.closed = false ∧
      whole.packets = items (httpParser (!isConnector)) (streamOf messages) := by
  have small := one.small
  cases one.run with
  | next first later =>
      cases later with
      | next second fetching =>
          have straight := straight_run isConnector _ fetches _ whole
            (received_straight isConnector messages size _ _ one.positive small first second) fetching
          have parsed := straight.decoding.parsed
          rw [straight.arrived, List.append_nil] at parsed
          exact ⟨straight.decoding.kept, parsed_all parsed (straight.decoding.drained one.done)⟩

theorem straight_ends (isConnector : Bool) (stream : Bytes) (conn : NetIdentify)
    (ends : ∀ bytes, bytes <:+ stream → holdsChunks (!isConnector) bytes = true →
      chunksEnd (!isConnector) bytes = true) (size : Nat) :
    ∀ link, Straight isConnector stream link → link.phase = .fetching → link.buffer.dataSize = size →
      ∃ count whole, Run (Step isConnector) link ((List.replicate count conn).map .fetch) whole ∧
        whole.phase = .idle := by
  induction size using Nat.strongRecOn with
  | ind size ih =>
      intro link straight fetching held
      obtain ⟨after, taken, result⟩ := decoding_returns straight.decoding fetching (straight_whole straight)
        (ends _ straight.behind) conn
      cases phase : after.phase with
      | idle => exact ⟨1, after, Run.next taken (Run.refl _), phase⟩
      | receiving =>
          cases taken with
          | fetch _ outcome _ _ => cases outcome <;> simp [fetched, fetching] at phase
      | fetching =>
          rcases result with idle | smaller
          · rw [phase] at idle
            cases idle
          · have kept := straight_step isConnector stream link conn after straight taken
            obtain ⟨count, whole, later, done⟩ := ih _ (by omega) after kept phase rfl
            exact ⟨count + 1, whole, Run.next taken later, done⟩

theorem one_receive_ends (isConnector : Bool) (messages : List (Message (!isConnector))) (size : Nat)
    (conn : NetIdentify) (some : streamOf messages ≠ []) (fits : (streamOf messages).length ≤ size)
    (small : size + 2 * additionalSize < 2147483648)
    (ends : ∀ bytes, bytes <:+ streamOf messages → holdsChunks (!isConnector) bytes = true →
      chunksEnd (!isConnector) bytes = true) :
    ∃ fetches whole, OneReceive isConnector size (streamOf messages) fetches whole := by
  have length := List.length_pos_iff.mpr some
  have start : Steady (create size) :=
    ⟨create_sound size (by omega), by unfold IntSized create; dsimp only; omega⟩
  have offered := Nat.le_trans fits (create_offers size start small)
  have first : Step isConnector (opened (create size) (streamOf messages)) (.recv (streamOf messages)) _ :=
    Step.recv _ (streamOf messages) [] (by simp [opened]) some (by simp [opened]) offered
  have second : Step isConnector _ .blocked _ := Step.blocked
    { opened (create size) (streamOf messages) with
      buffer := receive (recvGuard (create size)) (streamOf messages), pending := [], phase := .receiving }
    (by simp)
  have straight := received_straight isConnector messages size _ _ (by omega) small first second
  obtain ⟨count, whole, later, done⟩ :=
    straight_ends isConnector (streamOf messages) conn ends _ _ straight rfl rfl
  exact ⟨List.replicate count conn, whole, by omega, small, Run.next first (Run.next second later), done⟩

/-! The law of segmentation. -/

structure SegmentLaw (isConnector : Bool) (stream : Bytes) (link : Link) : Prop where
  /-- The connection is not closed as invalid. -/
  kept : link.closed = false
  /-- The packets are the first ones of the stream, -/
  begun : link.packets <+: items (httpParser (!isConnector)) stream
  /-- and all that one receive would give once everything has been looked at. -/
  same : link.phase = .idle → link.pending = [] → ∀ size fetches whole,
    OneReceive isConnector size stream fetches whole →
      whole.closed = false ∧ link.packets = whole.packets
  /-- The loop over `GetHttpPacket` ends. -/
  returns : link.phase = .fetching → WholeCall isConnector link →
    (holdsChunks (!isConnector) (contents link.buffer) = true →
      chunksEnd (!isConnector) (contents link.buffer) = true) →
    ∀ conn, ∃ after, Step isConnector link (.fetch conn) after ∧
      (after.phase = .idle ∨ after.buffer.dataSize < link.buffer.dataSize)

theorem decoding_law (isConnector : Bool) (messages : List (Message (!isConnector))) (link : Link)
    (inv : Decoding isConnector (streamOf messages) link) :
    SegmentLaw isConnector (streamOf messages) link := by
  have parsed := inv.parsed
  constructor
  · exact inv.kept
  · rw [parsed]
    exact List.prefix_append _ _
  · intro idle arrived size fetches whole one
    obtain ⟨kept, all⟩ := one_receive_packets isConnector messages size fetches whole one
    rw [arrived, List.append_nil] at parsed
    exact ⟨kept, (parsed_all parsed (inv.drained idle)).trans all.symm⟩
  · exact decoding_returns inv

/-- From any position of an empty buffer, and however the stream is cut, the
packets are those of one receive, as long as no call finds the ring wrapped, an
announced length that does not fit, or chunks before the end of the stream. -/
theorem http_segments_agree (isConnector : Bool) (messages : List (Message (!isConnector))) (start : Buffer)
    (labels : List Label) (link : Link) (steady : Steady start) (empty : contents start = [])
    (run : Run (Guarded (Step isConnector) (Whole isConnector)) (opened start (streamOf messages)) labels link) :
    SegmentLaw isConnector (streamOf messages) link := by
  apply decoding_law
  exact run_invariant (Decoding isConnector (streamOf messages))
    (decoding_step isConnector (streamOf messages)) run
    (opened_decoding isConnector messages start steady empty)

def loginRequest : Message true where
  head := ascii "GET /login HTTP/1.1\r\n\r\n"
  body := []
  hm := ⟨ascii "GET", ascii "/login", 0, []⟩
  whole := rfl
  sized := Or.inl rfl

def client : NetIdentify := ⟨⟨5, .httpListen⟩, clear⟩

/-- The request in two receives, with a call after each. -/
theorem http_segments_agree_cut :
    ∃ labels link, Run (Step false) (opened (create 131072) (streamOf [loginRequest])) labels link ∧
      link.packets = [⟨.miHttpRequestLogin, ⟨[], 0⟩⟩] ∧ link.phase = .idle ∧
      SegmentLaw false (streamOf [loginRequest]) link := by
  have run : ∃ labels link,
      Run (Guarded (Step false) (Whole false)) (opened (create 131072) (streamOf [loginRequest])) labels link ∧
      link.packets = [⟨.miHttpRequestLogin, ⟨[], 0⟩⟩] ∧ link.phase = .idle := by
    exact ⟨[.recv (ascii "GET /lo"), .blocked, .fetch client, .recv (ascii "gin HTTP/1.1\r\n\r\n"), .blocked,
      .fetch client, .fetch client], _,
      .next ⟨.recv _ _ _ (by decide) (by decide) rfl (by decide), fun _ => by decide⟩ <|
      .next ⟨.blocked _ (by decide), fun _ => by decide⟩ <|
      -- the head is not there yet
      .next ⟨.fetch _ client .null rfl rfl, ⟨by decide, by decide, by decide⟩⟩ <|
      .next ⟨.recv _ _ [] (by decide) (by decide) rfl (by decide), fun _ => by decide⟩ <|
      .next ⟨.blocked _ (by decide), fun _ => by decide⟩ <|
      .next ⟨.fetch _ client _ rfl (Option.some_get rfl).symm, ⟨by decide, by decide, by decide⟩⟩ <|
      .next ⟨.fetch _ client _ (by decide) (Option.some_get (by decide)).symm,
        ⟨by decide, by decide, by decide⟩⟩ <|
      .refl _, by decide, by decide⟩
  obtain ⟨labels, link, taken, packets, idle⟩ := run
  exact ⟨labels, link, guarded_run taken, packets, idle,
    http_segments_agree false [loginRequest] (create 131072) labels link
      ⟨create_sound 131072 (by decide), by unfold IntSized; decide⟩ rfl taken⟩

/-- An empty buffer whose indexes stand four bytes from the end of the ring. -/
def nearEnd : Buffer := { create 131072 with beginIndex := 131068, endIndex := 131068 }

/-- The same request there wraps the ring, and the connection is closed. -/
theorem wrapped_request_closes :
    ¬ ∀ (isConnector : Bool) (messages : List (Message (!isConnector))) start labels link,
      Steady start → contents start = [] →
      Run (Step isConnector) (opened start (streamOf messages)) labels link →
      SegmentLaw isConnector (streamOf messages) link := by
  intro law
  have steady : Steady nearEnd := ⟨⟨by decide, by decide, by decide, by decide⟩, by unfold IntSized; decide⟩
  have kept := (law false [loginRequest] nearEnd
    [.recv (ascii "GET "), .recv (ascii "/login HTTP/1.1\r\n\r\n"), .blocked, .fetch client] _ steady rfl
    (.next (.recv _ _ _ (by decide) (by decide) rfl (by decide)) <|
      .next (.recv _ _ [] (by decide) (by decide) rfl (by decide)) <|
      .next (.blocked _ (by decide)) <| .next (.fetch _ client .closed rfl rfl) <| .refl _)).kept
  cases kept

end GameBook.HttpSegments
