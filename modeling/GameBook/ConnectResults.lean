import GameBook.ByteQueue
import GameBook.WriteInterest

/-!
What `ConnectObj::Recv` and `ConnectObj::Send` make of the results of `recv()`
and `send()`, and which bytes `Send` hands to the kernel. `Recv` takes every
error for a success: `isRs` is true for a `socketError` that is not 0. `Send`
takes every result that is not positive for a failure: it prints the error but
does not look at it.
-/

namespace GameBook.ConnectResults

open RingWindow NetworkBuffer SocketObject WhileLoop LabelledRun
open TcpFraming (Packet Steady addPacket totalSizeOf remove_steady)
open NetworkConnects (ConnectStateType)
open PacketLength (Representable wireBytes add_packet_whole)
open WriteInterest (ConnectObj sendTurn send changeStateToConnected firstOffer offer_steady
  first_offer_le rest_steady send_turn_cases send_ends pooled_steady)

/-- `NetworkHelp::IsError` with the numbers of Linux: EINTR, EWOULDBLOCK, which
is EAGAIN, and EINPROGRESS are none. -/
def isError (socketError : Int) : Bool :=
  if socketError = 4 ∨ socketError = 11 ∨ socketError = 115 then false else true

/-! ### Receiving -/

/-- A result of `recv()`: at least one byte, 0, or -1 with an error number. -/
inductive Received where
  | bytes (first : UInt8) (rest : List UInt8)
  | closed
  | error (socketError : Int)
  deriving DecidableEq, Repr

/-- The loop of `Recv` over the results of `recv()`, up to the first that is not
positive; there is no result while `recv()` goes on giving bytes. -/
def recvCalls : List Received → Buffer → Bool → Option (Bool × Buffer)
  | [], _, _ => none
  | .bytes first rest :: results, b, _ =>
      recvCalls results (receive (recvGuard b) (first :: rest)) true
  | .closed :: _, b, isRs => some (isRs, recvGuard b)
  | .error socketError :: _, b, _ =>
      let isRs := decide (socketError ≠ 0)
      some (if ¬isError socketError then true else isRs, recvGuard b)

/-- `Recv` up to the loop over the packets, which does not change its result. -/
def recv (results : List Received) (obj : ConnectObj) (recvBuffer : Buffer) :
    Option (Bool × ConnectObj × Buffer) :=
  if obj.state = .connecting then some (true, changeStateToConnected obj, recvBuffer)
  else (recvCalls results recvBuffer false).map fun read => (read.1, obj, read.2)

def isBytes : Received → Bool
  | .bytes _ _ => true
  | _ => false

def ending (results : List Received) : Option Received := results.find? fun one => ¬isBytes one

/-- The peer closed before any byte was read, or a fatal error occurred. -/
def ShouldFail (results : List Received) : Prop :=
  results.head? = some .closed ∨
    ∃ socketError, ending results = some (.error socketError) ∧ isError socketError = true

def EndsFatally (results : List Received) : Prop :=
  ∃ socketError, socketError ≠ 0 ∧ ending results = some (.error socketError) ∧
    isError socketError = true

def verdict (isRs : Bool) (results : List Received) : Bool :=
  match ending results with
  | some (.error socketError) => decide (socketError ≠ 0) || !isError socketError
  | _ => isRs || results.head? ≠ some .closed

theorem recv_calls_spec (results : List Received) (b : Buffer) (isRs : Bool) :
    recvCalls results b isRs = none ∧ ending results = none ∨
    ∃ after, recvCalls results b isRs = some (verdict isRs results, after) := by
  induction results generalizing b isRs with
  | nil => exact .inl ⟨rfl, rfl⟩
  | cons result rest ih =>
      cases result with
      | bytes first more =>
          have same : ending (.bytes first more :: rest) = ending rest := by
            simp [ending, isBytes]
          have judged : verdict isRs (.bytes first more :: rest) = verdict true rest := by
            simp only [verdict, same]
            cases ending rest with
            | none => simp
            | some last => cases last <;> simp
          rw [same, judged]
          exact ih (receive (recvGuard b) (first :: more)) true
      | closed => exact .inr ⟨recvGuard b, by simp [recvCalls, verdict, ending, isBytes]⟩
      | error socketError =>
          refine .inr ⟨recvGuard b, ?_⟩
          cases failed : isError socketError <;>
            simp [recvCalls, verdict, ending, isBytes, failed]

theorem closed_first {results : List Received} (closed : results.head? = some .closed) :
    ending results = some .closed := by
  cases results with
  | nil => cases closed
  | cons first rest =>
      cases closed
      simp [ending, isBytes]

theorem verdict_iff (results : List Received) :
    (verdict false results = false ↔ ShouldFail results) ↔ ¬EndsFatally results := by
  unfold verdict ShouldFail EndsFatally
  cases ended : ending results with
  | none =>
      have open' : results.head? ≠ some .closed := fun closed => by
        rw [closed_first closed] at ended
        cases ended
      simp [open']
  | some last =>
      cases last with
      | bytes first rest => simp
      | closed => simp
      | error socketError =>
          have open' : results.head? ≠ some .closed := fun closed => by
            rw [closed_first closed] at ended
            cases ended
          simp only [open', false_or, Option.some.injEq, Received.error.injEq, exists_eq_left',
            Bool.or_eq_false_iff, decide_eq_false_iff_not, not_not, Bool.not_eq_false']
          constructor
          · rintro judged ⟨other, nonzero, rfl, fatal⟩
            exact nonzero (judged.mpr fatal).1
          · intro harmless
            refine ⟨And.right, fun fatal => ⟨?_, fatal⟩⟩
            by_contra nonzero
            exact harmless ⟨socketError, nonzero, rfl, fatal⟩

/-! ### Sending -/

/-- One turn of the loop of `Send`, as `sendTurn`, with the bytes that the
kernel has taken from the pointer of `GetBuffer`. -/
def sendTurnTo (rooms : Nat → Int) (turn : (Buffer × Nat) × List UInt8) :
    ((Buffer × Nat) × List UInt8) ⊕ ((Bool × Buffer) × List UInt8) :=
  let b := turn.1.1
  let needSendSize := (sendGetBuffer b).2
  let size := min (rooms turn.1.2) needSendSize
  let kernel := turn.2 ++ slice b.buffer ((sendGetBuffer b).1.getD 0) size.toNat
  if needSendSize ≤ 0 then .inr ((true, b), turn.2)
  else if size > 0 then
    if size < needSendSize then .inr ((true, removeDate b size.toNat), kernel)
    else .inl ((removeDate b size.toNat, turn.1.2 + 1), kernel)
  else .inr ((false, b), turn.2)

theorem send_turn_to (rooms : Nat → Int) (turn : (Buffer × Nat) × List UInt8) :
    sendTurn rooms turn.1 = Sum.map Prod.fst Prod.fst (sendTurnTo rooms turn) := by
  simp only [sendTurn, sendTurnTo]
  split
  · rfl
  · split
    · split
      · rfl
      · rfl
    · rfl

def sendTo (fuel : Nat) (rooms : Nat → Int) (obj : ConnectObj) :
    Option ((Bool × ConnectObj) × List UInt8) :=
  if obj.state = .connecting then some ((true, changeStateToConnected obj), [])
  else
    (loop (sendTurnTo rooms) fuel ((obj.sendBuffer, 0), [])).map fun sent =>
      ((sent.1.1, { obj with sendBuffer := sent.1.2 }), sent.2)

theorem send_to_send (fuel : Nat) (rooms : Nat → Int) (obj : ConnectObj) :
    (sendTo fuel rooms obj).map Prod.fst = send fuel rooms obj := by
  unfold sendTo send
  split
  · rfl
  · rw [← loop_map Prod.fst Prod.fst (send_turn_to rooms) fuel ((obj.sendBuffer, 0), [])]
    simp only [Option.map_map]
    rfl

theorem send_turn_bytes {rooms : Nat → Int} {b : Buffer} {calls : Nat} {kernel : List UInt8}
    (steady : Steady b) :
    (∀ next, sendTurnTo rooms ((b, calls), kernel) = .inl next →
      Steady next.1.1 ∧ next.2 ++ contents next.1.1 = kernel ++ contents b) ∧
    (∀ last, sendTurnTo rooms ((b, calls), kernel) = .inr last →
      Steady last.1.2 ∧ last.2 ++ contents last.1.2 = kernel ++ contents b) := by
  have taken (size : Int) (positive : 0 < size) (offered : size ≤ (sendGetBuffer b).2) :
      Steady (removeDate b size.toNat) ∧
        (kernel ++ slice b.buffer ((sendGetBuffer b).1.getD 0) size.toNat) ++
          contents (removeDate b size.toNat) = kernel ++ contents b := by
    have within : (size.toNat : Int) ≤ (sendGetBuffer b).2 := by omega
    obtain ⟨held, handed⟩ := send_offer_spec b size.toNat steady.sound steady.sized within
    obtain ⟨kept, left, -⟩ := remove_steady b size.toNat steady held
    refine ⟨kept, ?_⟩
    rw [ByteQueue.send_position b size.toNat (by omega) within, Option.getD_some, handed, left,
      List.append_assoc, List.take_append_drop]
  simp only [sendTurnTo]
  constructor
  · intro next goes
    split at goes
    · cases goes
    · split at goes
      · rename_i some
        split at goes
        · cases goes
        · cases goes
          exact taken _ some (Int.min_le_right _ _)
      · cases goes
  · intro last leaves
    split at leaves
    · cases leaves
      exact ⟨steady, rfl⟩
    · split at leaves
      · rename_i some
        split at leaves
        · cases leaves
          exact taken _ some (Int.min_le_right _ _)
        · cases leaves
      · cases leaves
        exact ⟨steady, rfl⟩

theorem send_to_bytes {fuel : Nat} {rooms : Nat → Int} {obj after : ConnectObj} {ok : Bool}
    {handed : List UInt8} (steady : Steady obj.sendBuffer)
    (sent : sendTo fuel rooms obj = some ((ok, after), handed)) :
    Steady after.sendBuffer ∧ handed ++ contents after.sendBuffer = contents obj.sendBuffer := by
  unfold sendTo at sent
  split at sent
  · cases sent
    exact ⟨steady, rfl⟩
  · obtain ⟨⟨⟨result, left⟩, kernel⟩, done, same⟩ := Option.map_eq_some_iff.mp sent
    cases same
    apply loop_result
      (fun turn => Steady turn.1.1 ∧ turn.2 ++ contents turn.1.1 = contents obj.sendBuffer)
      (fun last => Steady last.1.2 ∧ last.2 ++ contents last.1.2 = contents obj.sendBuffer)
      _ _ fuel ((obj.sendBuffer, 0), []) ((result, left), kernel) ⟨steady, rfl⟩ done
    · rintro ⟨⟨b, calls⟩, before⟩ next ⟨kept, whole⟩ goes
      obtain ⟨still, bytes⟩ := (send_turn_bytes kept).1 next goes
      exact ⟨still, bytes.trans whole⟩
    · rintro ⟨⟨b, calls⟩, before⟩ last ⟨kept, whole⟩ leaves
      obtain ⟨still, bytes⟩ := (send_turn_bytes kept).2 last leaves
      exact ⟨still, bytes.trans whole⟩

/-- The call of `send()` that gives nothing: the first, or the second when the
data wraps and the kernel has taken all of its first part. -/
def FailsAt (b : Buffer) (rooms : Nat → Int) (calls : Nat) : Prop :=
  calls = 0 ∧ 0 < b.dataSize ∧ rooms 0 ≤ 0 ∨
  calls = 1 ∧ (firstOffer b : Int) ≤ rooms 0 ∧ firstOffer b < b.dataSize ∧ rooms 1 ≤ 0

theorem fails_at_unique {b : Buffer} {rooms : Nat → Int} {first second : Nat} (steady : Steady b)
    (one : FailsAt b rooms first) (other : FailsAt b rooms second) : first = second := by
  have begins := steady.sound.begins
  unfold FailsAt firstOffer at one other
  omega

theorem send_rest_iff (fuel : Nat) (rooms : Nat → Int) (b : Buffer) (ok : Bool) (after : Buffer)
    (steady : Steady b)
    (done : loop (sendTurn rooms) fuel (removeDate b (firstOffer b), 1) = some (ok, after)) :
    ok = false ↔ firstOffer b < b.dataSize ∧ rooms 1 ≤ 0 := by
  obtain ⟨steadyRest, count, offer⟩ := rest_steady b steady
  cases fuel with
  | zero => cases done
  | succ fuel =>
      rcases send_turn_cases rooms _ 1 steadyRest with
        ⟨empty, leaves⟩ | ⟨some, fails, leaves⟩ | ⟨room, part, leaves⟩ | ⟨left, whole, goes⟩
      · rw [loop_exit fuel leaves] at done
        cases done
        simp only [Bool.true_eq_false, false_iff]
        omega
      · rw [loop_exit fuel leaves] at done
        cases done
        simp only [true_iff]
        omega
      · rw [loop_exit fuel leaves] at done
        cases done
        simp only [Bool.true_eq_false, false_iff]
        omega
      · rw [loop_turn fuel goes] at done
        obtain ⟨steadyLast, none, -⟩ := rest_steady _ steadyRest
        rw [offer, count, Nat.sub_self] at none
        have nothing := first_offer_le
          (removeDate (removeDate b (firstOffer b)) (b.dataSize - firstOffer b))
        rw [offer] at steadyLast done left whole
        cases fuel with
        | zero => cases done
        | succ fuel =>
            rcases send_turn_cases rooms _ 2 steadyLast with
              ⟨empty, leaves⟩ | ⟨some, _⟩ | ⟨room, part, _⟩ | ⟨some, _⟩
            · rw [loop_exit fuel leaves] at done
              cases done
              simp only [Bool.true_eq_false, false_iff]
              omega
            · omega
            · omega
            · omega

theorem send_result_iff (fuel : Nat) (rooms : Nat → Int) (b : Buffer) (ok : Bool) (after : Buffer)
    (steady : Steady b) (done : loop (sendTurn rooms) fuel (b, 0) = some (ok, after)) :
    ok = false ↔ ∃ calls, FailsAt b rooms calls := by
  have begins := steady.sound.begins
  cases fuel with
  | zero => cases done
  | succ fuel =>
      rcases send_turn_cases rooms b 0 steady with
        ⟨empty, leaves⟩ | ⟨some, fails, leaves⟩ | ⟨room, part, leaves⟩ | ⟨positive, all, goes⟩
      · rw [loop_exit fuel leaves] at done
        cases done
        simp only [Bool.true_eq_false, false_iff]
        rintro ⟨calls, fails⟩
        unfold FailsAt at fails
        omega
      · rw [loop_exit fuel leaves] at done
        cases done
        simp only [true_iff]
        have held := Nat.min_le_left b.dataSize (b.bufferSize - b.beginIndex)
        exact ⟨0, .inl ⟨rfl, by unfold firstOffer at some; omega, fails⟩⟩
      · rw [loop_exit fuel leaves] at done
        cases done
        simp only [Bool.true_eq_false, false_iff]
        rintro ⟨calls, fails⟩
        unfold FailsAt at fails
        omega
      · rw [loop_turn fuel goes] at done
        rw [send_rest_iff fuel rooms b ok after steady done]
        constructor
        · rintro ⟨more, fails⟩
          exact ⟨1, .inr ⟨rfl, all, more, fails⟩⟩
        · rintro ⟨calls, fails⟩
          unfold FailsAt at fails
          omega

/-- A call of `send()` failed with a fatal error; `errors` are the error numbers by call. -/
def SendFatal (b : Buffer) (rooms errors : Nat → Int) : Prop :=
  ∃ calls, FailsAt b rooms calls ∧ rooms calls < 0 ∧ isError (errors calls) = true

/-- A call of `send()` would block, was interrupted or took 0 bytes. -/
def Waits (b : Buffer) (rooms errors : Nat → Int) : Prop :=
  ∃ calls, FailsAt b rooms calls ∧ (rooms calls = 0 ∨ isError (errors calls) = false)

theorem send_verdict_iff (fuel : Nat) (rooms errors : Nat → Int) (b : Buffer) (ok : Bool)
    (after : Buffer) (steady : Steady b)
    (done : loop (sendTurn rooms) fuel (b, 0) = some (ok, after)) :
    (ok = false ↔ SendFatal b rooms errors) ↔ ¬Waits b rooms errors := by
  rw [send_result_iff fuel rooms b ok after steady done]
  constructor
  · rintro judged ⟨calls, fails, harmless⟩
    obtain ⟨other, same, negative, fatal⟩ := judged.mp ⟨calls, fails⟩
    rw [fails_at_unique steady same fails] at negative fatal
    rcases harmless with zero | waits
    · omega
    · rw [waits] at fatal
      cases fatal
  · intro never
    constructor
    · rintro ⟨calls, fails⟩
      refine ⟨calls, fails, ?_, ?_⟩
      · have least : rooms calls ≤ 0 := by
          unfold FailsAt at fails
          rcases fails with ⟨rfl, _, none⟩ | ⟨rfl, _, _, none⟩
          · exact none
          · exact none
        have nonzero : rooms calls ≠ 0 := fun zero => never ⟨calls, fails, .inl zero⟩
        omega
      · by_contra harmless
        exact never ⟨calls, fails, .inr (by simpa using harmless)⟩
    · rintro ⟨calls, fails, _⟩
      exact ⟨calls, fails⟩

/-! ### The life of a connection -/

structure Life where
  obj : ConnectObj
  recvBuffer : Buffer
  queued : List UInt8
  accepted : List UInt8

inductive Event where
  | addPacket (p : Packet)
  | send (rooms : Nat → Int) (ok : Bool)
  | recv (results : List Received) (isRs : Bool)

/-- The loop over the packets after `recv()` leaves some receive buffer. -/
inductive Step : Life → Event → Life → Prop where
  | addPacket (life : Life) (p : Packet) (fuel : Nat) (after : Buffer) :
      addPacket fuel life.obj.sendBuffer p = some after →
      Step life (.addPacket p)
        { life with
          obj := { life.obj with sendBuffer := after }
          queued := life.queued ++ wireBytes p }
  | send (life : Life) (rooms : Nat → Int) (fuel : Nat) (ok : Bool) (obj : ConnectObj)
      (handed : List UInt8) :
      sendTo fuel rooms life.obj = some ((ok, obj), handed) →
      Step life (.send rooms ok) { life with obj := obj, accepted := life.accepted ++ handed }
  | recv (life : Life) (results : List Received) (isRs : Bool) (obj : ConnectObj)
      (read left : Buffer) :
      recv results life.obj life.recvBuffer = some (isRs, obj, read) →
      Step life (.recv results isRs) { life with obj := obj, recvBuffer := left }

def Sized (life : Life) : Event → Prop
  | .addPacket p =>
      Representable p ∧ (getEmptySize life.obj.sendBuffer < totalSizeOf p →
        life.obj.sendBuffer.bufferSize + additionalSize < 2147483648)
  | _ => True

def opened (identify : NetIdentify) (state : ConnectStateType) (sendPooled recvPooled : Buffer) :
    Life :=
  ⟨⟨identify, state, backToPool sendPooled, true⟩, backToPool recvPooled, [], []⟩

structure Kept (life : Life) : Prop where
  steady : Steady life.obj.sendBuffer
  whole : life.accepted ++ contents life.obj.sendBuffer = life.queued

theorem recv_send_buffer {results : List Received} {obj after : ConnectObj} {b read : Buffer}
    {isRs : Bool} (done : recv results obj b = some (isRs, after, read)) :
    after.sendBuffer = obj.sendBuffer := by
  unfold recv at done
  split at done
  · cases done
    rfl
  · obtain ⟨_, _, same⟩ := Option.map_eq_some_iff.mp done
    cases same
    rfl

theorem kept_step {before after : Life} {event : Event} (kept : Kept before)
    (taken : Guarded Step Sized before event after) : Kept after := by
  obtain ⟨step, sized⟩ := taken
  cases step with
  | addPacket p fuel buffer added =>
      obtain ⟨steady, appended⟩ :=
        add_packet_whole fuel before.obj.sendBuffer buffer p kept.steady sized.1 sized.2 added
      refine ⟨steady, ?_⟩
      simp only [appended, ← kept.whole, List.append_assoc]
  | send rooms fuel ok obj handed sent =>
      obtain ⟨steady, bytes⟩ := send_to_bytes kept.steady sent
      refine ⟨steady, ?_⟩
      simp only [List.append_assoc, bytes, kept.whole]
  | recv results isRs obj read left done =>
      have same := recv_send_buffer done
      refine ⟨?_, ?_⟩
      · simpa only [same] using kept.steady
      · simpa only [same] using kept.whole

theorem opened_kept (identify : NetIdentify) (state : ConnectStateType)
    (sendPooled recvPooled : Buffer) (steady : Steady sendPooled) :
    Kept (opened identify state sendPooled recvPooled) :=
  ⟨pooled_steady sendPooled steady, rfl⟩

/-- In every state of a connection's life: the bytes that the kernel has taken
and those in the send buffer are the bytes queued, and each call of `Send` takes
out of the buffer what it hands over. `Recv` on a connected object fails as it
should unless a fatal error ends it, and `Send`, which returns, unless a call of
`send()` would block, is interrupted or takes nothing. -/
theorem results_judged (identify : NetIdentify) (state : ConnectStateType)
    (sendPooled recvPooled : Buffer) (steady : Steady sendPooled) (events : List Event)
    (life : Life)
    (run : Run (Guarded Step Sized) (opened identify state sendPooled recvPooled) events life) :
    life.accepted <+: life.queued ∧
    (∀ fuel rooms ok after handed, sendTo fuel rooms life.obj = some ((ok, after), handed) →
      handed ++ contents after.sendBuffer = contents life.obj.sendBuffer) ∧
    (life.obj.state ≠ .connecting →
      (∀ results isRs after read, recv results life.obj life.recvBuffer = some (isRs, after, read) →
        ((isRs = false ↔ ShouldFail results) ↔ ¬EndsFatally results)) ∧
      ∀ rooms errors,
        (∃ fuel sent, send fuel rooms life.obj = some sent) ∧
        ∀ fuel ok after, send fuel rooms life.obj = some (ok, after) →
          ((ok = false ↔ SendFatal life.obj.sendBuffer rooms errors) ↔
            ¬Waits life.obj.sendBuffer rooms errors)) := by
  have kept := run_invariant Kept (fun _ _ _ held taken => kept_step held taken) run
    (opened_kept identify state sendPooled recvPooled steady)
  refine ⟨⟨contents life.obj.sendBuffer, kept.whole⟩, ?_, ?_⟩
  · intro fuel rooms ok after handed sent
    exact (send_to_bytes kept.steady sent).2
  · intro connected
    constructor
    · intro results isRs after read done
      simp only [recv, connected, ↓reduceIte] at done
      obtain ⟨last, calls, same⟩ := Option.map_eq_some_iff.mp done
      cases same
      rcases recv_calls_spec results life.recvBuffer false with ⟨none, _⟩ | ⟨left, judged⟩
      · rw [none] at calls
        cases calls
      · rw [judged] at calls
        cases calls
        exact verdict_iff results
    · intro rooms errors
      constructor
      · obtain ⟨sent, done⟩ := send_ends rooms life.obj.sendBuffer kept.steady
        exact ⟨3, (sent.1, { life.obj with sendBuffer := sent.2 }), by simp [send, connected, done]⟩
      · intro fuel ok after done
        simp only [send, connected, ↓reduceIte] at done
        obtain ⟨sent, ended, same⟩ := Option.map_eq_some_iff.mp done
        cases same
        exact send_verdict_iff fuel rooms errors _ _ _ kept.steady ended

/-! A client on descriptor 3 that has been sent a ping of six bytes. -/

open TcpFraming (reserve) in
open TcpLink (ping pingSent) in
theorem ping_added : addPacket 1 (create 131072) ping = some pingSent := by
  have reserved : reserve (totalSizeOf ping) (create 131072) = .inr (create 131072) :=
    if_neg (show ¬getEmptySize (create 131072) < totalSizeOf ping by decide)
  rw [addPacket, loop_exit 0 reserved]
  rfl

open TcpLink (ping) in
theorem ping_representable : Representable ping := by
  unfold Representable
  decide

open TcpLink (pingSent) in
theorem ping_refused (obj : ConnectObj) (connected : obj.state ≠ .connecting)
    (held : obj.sendBuffer = pingSent) : send 1 (fun _ => -1) obj = some (false, obj) := by
  have offer : (sendGetBuffer pingSent).2 = 6 := by decide
  have turn : sendTurn (fun _ => -1) (pingSent, 0) = .inr (false, pingSent) := by
    simp only [sendTurn, offer]
    rw [if_neg (by decide), if_neg (by decide)]
  simp only [send, connected, ↓reduceIte, held]
  rw [loop_exit 0 turn]
  simp [← held]

open TcpLink (ping pingSent) in
def pingLife : Life :=
  ⟨WriteInterest.client pingSent, backToPool (create 131072), wireBytes ping, []⟩

open TcpLink (ping pingSent) in
theorem results_judged_ping :
    pingLife.accepted <+: pingLife.queued ∧
      ((true = false ↔ ShouldFail [.bytes 6 [], .closed]) ↔
        ¬EndsFatally [.bytes 6 [], .closed]) ∧
      ((false = false ↔ SendFatal pingLife.obj.sendBuffer (fun _ => -1) (fun _ => 104)) ↔
        ¬Waits pingLife.obj.sendBuffer (fun _ => -1) (fun _ => 104)) := by
  have run : Run (Guarded Step Sized)
      (opened ⟨⟨3, .tcpListen⟩, clear⟩ .connected (create 131072) (create 131072))
      [.addPacket ping] pingLife :=
    .next ⟨.addPacket _ ping 1 pingSent ping_added, ping_representable,
      fun lacks => absurd lacks (by decide)⟩ (.refl _)
  obtain ⟨taken, -, judged⟩ := results_judged _ .connected _ _ PacketLength.create_steady _ _ run
  obtain ⟨received, sent⟩ := judged (by decide)
  refine ⟨taken, ?_, ?_⟩
  · exact received [.bytes 6 [], .closed] true _ _ rfl
  · exact (sent (fun _ => -1) (fun _ => 104)).2 1 false _
      (ping_refused _ (by decide) (WriteInterest.client_buffer pingSent))

open TcpLink (pingSent) in
/-- A connection that was reset is taken for alive, one whose kernel buffer is
full for dead. -/
theorem errors_misjudged :
    (¬∀ results obj b isRs after read, obj.state ≠ .connecting →
      recv results obj b = some (isRs, after, read) → (isRs = false ↔ ShouldFail results)) ∧
    ¬∀ fuel rooms errors obj ok after, Steady obj.sendBuffer → obj.state ≠ .connecting →
      send fuel rooms obj = some (ok, after) →
      (ok = false ↔ SendFatal obj.sendBuffer rooms errors) := by
  constructor
  · intro judged
    have failed := judged [.error 104] (WriteInterest.client pingSent) (create 131072) true _ _
      (by decide) rfl
    have fatal : ShouldFail [.error 104] := .inr ⟨104, rfl, rfl⟩
    cases failed.mpr fatal
  · intro judged
    have steady : Steady (WriteInterest.client pingSent).sendBuffer := by
      rw [WriteInterest.client_buffer]
      exact (add_packet_whole 1 _ _ TcpLink.ping PacketLength.create_steady ping_representable
        (fun lacks => absurd lacks (by decide)) ping_added).1
    obtain ⟨calls, _, _, fatal⟩ := (judged 1 (fun _ => -1) (fun _ => 11)
      (WriteInterest.client pingSent) false _ steady (by decide)
      (ping_refused _ (by decide) (WriteInterest.client_buffer pingSent))).mp rfl
    cases fatal

end GameBook.ConnectResults
