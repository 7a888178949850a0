import Mathlib.Logic.Function.Basic
import GameBook.NetworkConnects
import GameBook.PacketLength

/-!
When the network writes: `ConnectObj::Send` over the send buffer, a frame of
`Network::Epoll` or `Network::Select` and `OnNetworkUpdate`. With epoll the
interest set of a descriptor says whether it is told to write, with select it is
`HasSendData`. What the kernel reports and how many bytes it takes is given with
each event. Receiving and what follows it leave the send buffer alone.
-/

namespace GameBook.WriteInterest

open MachineWord NetworkBuffer WhileLoop SocketObject TcpLink PacketLength LabelledRun
open TcpFraming (Packet Steady headSizeOf totalSizeOf reserve addPacket remove_steady)
open NetworkConnects (ConnectStateType compareTags)
open PacketLength hiding getEmptySize reAllocBuffer getDataLength awake

inductive BackEnd where
  | epoll
  | select
  deriving DecidableEq, Repr

/-- `epollOut`: the interest set of the descriptor contains EPOLLOUT. -/
structure ConnectObj extends NetIdentify where
  state : ConnectStateType
  sendBuffer : Buffer
  epollOut : Bool

abbrev Connects := Int → Option ConnectObj

def hasData (b : Buffer) : Bool :=
  if b.dataSize ≤ 0 then false
  -- at least one PacketHead
  else if b.dataSize < 2 then false
  else true

def hasSendData (obj : ConnectObj) : Bool :=
  if obj.state = .connecting then true else hasData obj.sendBuffer

/-- One turn of the loop of `Send`, with the number of calls of `send()` before
it. A call takes what it is offered as far as the kernel has room, and fails
where `rooms` is not positive. -/
def sendTurn (rooms : Nat → Int) (turn : Buffer × Nat) : (Buffer × Nat) ⊕ (Bool × Buffer) :=
  let needSendSize := (sendGetBuffer turn.1).2
  if needSendSize ≤ 0 then .inr (true, turn.1)
  else
    let size := min (rooms turn.2) needSendSize
    if size > 0 then
      if size < needSendSize then .inr (true, removeDate turn.1 size.toNat)
      else .inl (removeDate turn.1 size.toNat, turn.2 + 1)
    else .inr (false, turn.1)

def changeStateToConnected (obj : ConnectObj) : ConnectObj := { obj with state := .connected }

def send (fuel : Nat) (rooms : Nat → Int) (obj : ConnectObj) : Option (Bool × ConnectObj) :=
  if obj.state = .connecting then some (true, changeStateToConnected obj)
  else
    (loop (sendTurn rooms) fuel (obj.sendBuffer, 0)).map fun sent =>
      (sent.1, { obj with sendBuffer := sent.2 })

def recv (result : Bool) (obj : ConnectObj) : Bool × ConnectObj :=
  if obj.state = .connecting then (true, changeStateToConnected obj) else (result, obj)

/-- What one frame finds for a descriptor. `closed`: EPOLLRDHUP, EPOLLERR or
EPOLLHUP with epoll, the exception set with select. -/
structure Event where
  socket : Int
  closed : Bool
  readable : Bool
  recvResult : Bool
  writable : Bool
  rooms : Nat → Int

def modifyEvent (backEnd : BackEnd) (out : Bool) (obj : ConnectObj) : ConnectObj :=
  match backEnd with
  | .epoll => { obj with epollOut := out }
  | .select => obj

/-- What becomes of a connection: nothing when it is removed. -/
def handle (backEnd : BackEnd) (fuel : Nat) (e : Event) (obj : ConnectObj) :
    Option (Option ConnectObj) :=
  if e.closed then some none
  else
    let received := if e.readable then recv e.recvResult obj else (true, obj)
    if received.1 = false then some none
    else if e.writable then
      (send fuel e.rooms received.2).map fun sent =>
        if sent.1 then some (modifyEvent backEnd false sent.2) else none
    else some (some received.2)

def poll (backEnd : BackEnd) (fuel : Nat) : List Event → Connects → Option Connects
  | [], connects => some connects
  | e :: rest, connects =>
      match connects e.socket with
      | none => poll backEnd fuel rest connects
      | some obj =>
          (handle backEnd fuel e obj).bind fun after =>
            poll backEnd fuel rest (Function.update connects e.socket after)

def deliver (backEnd : BackEnd) (fuel : Nat) (p : Packet) (connects : Connects) :
    Option Connects :=
  match connects p.socketKey.socket with
  | none => some connects
  | some obj =>
      if compareTags obj.tagKey p.tagKey then
        (addPacket fuel obj.sendBuffer p).map fun b =>
          Function.update connects p.socketKey.socket
            (some (modifyEvent backEnd true { obj with sendBuffer := b }))
      else some connects

def onNetworkUpdate (backEnd : BackEnd) (fuel : Nat) : List Packet → Connects → Option Connects
  | [], connects => some connects
  | p :: rest, connects =>
      (deliver backEnd fuel p connects).bind (onNetworkUpdate backEnd fuel rest)

/-- A socket that still has its object costs both. A new object comes from the
pool with an empty buffer, and `AddEvent` asks for EPOLLOUT. -/
def createConnectObj (identify : NetIdentify) (state : ConnectStateType) (pooled : Buffer)
    (connects : Connects) : Connects :=
  match connects identify.socketKey.socket with
  | some _ => Function.update connects identify.socketKey.socket none
  | none =>
      Function.update connects identify.socketKey.socket
        (some ⟨identify, state, backToPool pooled, true⟩)

def watched (backEnd : BackEnd) (obj : ConnectObj) : Bool :=
  match backEnd with
  | .epoll => obj.epollOut
  | .select => hasSendData obj

inductive Call where
  | create (identify : NetIdentify) (state : ConnectStateType) (pooled : Buffer)
  | remove (socket : Int)
  | poll (events : List Event)
  | onNetworkUpdate (packets : List Packet)

/-- A frame reports a descriptor at most once, and as writable only when it is
watched for that. -/
inductive Step (backEnd : BackEnd) : Connects → Call → Connects → Prop where
  | create (before : Connects) (identify : NetIdentify) (state : ConnectStateType)
      (pooled : Buffer) :
      Steady pooled →
      Step backEnd before (.create identify state pooled)
        (createConnectObj identify state pooled before)
  | remove (before : Connects) (socket : Int) :
      Step backEnd before (.remove socket) (Function.update before socket none)
  | poll (before : Connects) (events : List Event) (fuel : Nat) (after : Connects) :
      (events.map Event.socket).Nodup →
      (∀ e ∈ events, ∀ obj, before e.socket = some obj → e.writable = true →
        watched backEnd obj = true) →
      WriteInterest.poll backEnd fuel events before = some after →
      Step backEnd before (.poll events) after
  | onNetworkUpdate (before : Connects) (packets : List Packet) (fuel : Nat) (after : Connects) :
      WriteInterest.onNetworkUpdate backEnd fuel packets before = some after →
      Step backEnd before (.onNetworkUpdate packets) after

/-- Every connection with bytes to send is watched. -/
def Scheduled (backEnd : BackEnd) (connects : Connects) : Prop :=
  ∀ socket obj, connects socket = some obj → obj.sendBuffer.dataSize ≠ 0 →
    watched backEnd obj = true

/-! ### The conditions -/

/-- The frames of the packets fit their length fields and the buffers they go to
keep sizes that are an `int`. -/
def SizedPackets (backEnd : BackEnd) : List Packet → Connects → Prop
  | [], _ => True
  | p :: rest, connects =>
      (∀ obj, connects p.socketKey.socket = some obj →
        Representable p ∧ (getEmptySize obj.sendBuffer < totalSizeOf p →
          obj.sendBuffer.bufferSize + additionalSize < 2147483648)) ∧
      ∀ fuel next, deliver backEnd fuel p connects = some next → SizedPackets backEnd rest next

def Sized (backEnd : BackEnd) (before : Connects) : Call → Prop
  | .onNetworkUpdate packets => SizedPackets backEnd packets before
  | _ => True

/-- What the first call of `send()` is offered: the data up to the end of the ring. -/
def firstOffer (b : Buffer) : Nat := min b.dataSize (b.bufferSize - b.beginIndex)

/-- The kernel takes a part of what one of the two calls of `send()` offers it,
so that `left` bytes stay. -/
def ShortSend (b : Buffer) (rooms : Nat → Int) (left : Nat) : Prop :=
  (0 < rooms 0 ∧ rooms 0 < firstOffer b ∧ left + rooms 0 = b.dataSize) ∨
  ((firstOffer b : Int) ≤ rooms 0 ∧ 0 < rooms 1 ∧
    left + rooms 1 + firstOffer b = b.dataSize ∧ 0 < left)

def Sends (obj : ConnectObj) (e : Event) : Prop :=
  e.closed = false ∧ e.writable = true ∧
    (obj.state = .connecting → e.readable = true) ∧
    (obj.state ≠ .connecting → e.readable = true → e.recvResult = true)

/-- The event only makes a connecting socket a connected one. -/
def Joins (obj : ConnectObj) (e : Event) : Prop :=
  e.closed = false ∧ obj.state = .connecting ∧ e.readable ≠ e.writable

/-- With epoll nothing may stay behind a handled EPOLLOUT, with select not
exactly one byte. -/
def Drained (backEnd : BackEnd) (obj : ConnectObj) (e : Event) : Prop :=
  match backEnd with
  | .epoll =>
      (Sends obj e → ∀ left, ¬ShortSend obj.sendBuffer e.rooms left) ∧
      (Joins obj e → e.writable = true → obj.sendBuffer.dataSize = 0)
  | .select =>
      (Sends obj e → ¬ShortSend obj.sendBuffer e.rooms 1) ∧
      (Joins obj e → obj.sendBuffer.dataSize ≠ 1)

def addedTo (socket : Int) (tagKey : TagKey) (packets : List Packet) : Nat :=
  ((packets.filter fun p => p.socketKey.socket = socket ∧ compareTags tagKey p.tagKey).map
    writtenSize).sum

def Drains (backEnd : BackEnd) (before : Connects) : Call → Prop
  | .poll events => ∀ e ∈ events, ∀ obj, before e.socket = some obj → Drained backEnd obj e
  | .onNetworkUpdate packets =>
      backEnd = .select → ∀ socket obj, before socket = some obj → obj.state ≠ .connecting →
        obj.sendBuffer.dataSize + addedTo socket obj.tagKey packets ≠ 1
  | _ => True

theorem offer_steady (b : Buffer) (steady : Steady b) :
    (sendGetBuffer b).2 = firstOffer b := by
  rw [send_offer_exact b steady.sound steady.sized, firstOffer]

/-- The data that is left when the first part is sent starts at index 0. -/
theorem rest_steady (b : Buffer) (steady : Steady b) :
    Steady (removeDate b (firstOffer b)) ∧
      (removeDate b (firstOffer b)).dataSize = b.dataSize - firstOffer b ∧
      firstOffer (removeDate b (firstOffer b)) = b.dataSize - firstOffer b := by
  have within : firstOffer b ≤ b.dataSize := Nat.min_le_left _ _
  obtain ⟨kept, -, count, size⟩ := remove_steady b (firstOffer b) steady within
  refine ⟨kept, count, ?_⟩
  have start := remove_date_begin b (firstOffer b) steady.sound steady.sized within
  have begins := steady.sound.begins
  have holds := steady.sound.holds
  rw [firstOffer, count, size, start]
  by_cases whole : b.dataSize ≤ b.bufferSize - b.beginIndex
  · have all : firstOffer b = b.dataSize := Nat.min_eq_left whole
    omega
  · have toEnd : firstOffer b = b.bufferSize - b.beginIndex :=
      Nat.min_eq_right (Nat.le_of_not_le whole)
    have reaches : b.beginIndex + firstOffer b = b.bufferSize := by omega
    rw [reaches, Nat.mod_self]
    omega

theorem send_turn_cases (rooms : Nat → Int) (b : Buffer) (calls : Nat) (steady : Steady b) :
    (b.dataSize = 0 ∧ sendTurn rooms (b, calls) = .inr (true, b)) ∨
    (0 < firstOffer b ∧ rooms calls ≤ 0 ∧ sendTurn rooms (b, calls) = .inr (false, b)) ∨
    (0 < rooms calls ∧ rooms calls < firstOffer b ∧
      sendTurn rooms (b, calls) = .inr (true, removeDate b (rooms calls).toNat)) ∨
    (0 < firstOffer b ∧ (firstOffer b : Int) ≤ rooms calls ∧
      sendTurn rooms (b, calls) = .inl (removeDate b (firstOffer b), calls + 1)) := by
  have offer := offer_steady b steady
  have begins := steady.sound.begins
  by_cases empty : b.dataSize = 0
  · left
    refine ⟨empty, ?_⟩
    have none : firstOffer b = 0 := by rw [firstOffer, empty, Nat.zero_min]
    simp [sendTurn, offer, none]
  · have positive : 0 < firstOffer b := by
      rw [firstOffer]
      omega
    right
    rcases Int.lt_or_le 0 (rooms calls) with room | fails
    · rcases Int.lt_or_le (rooms calls) (firstOffer b) with part | all
      · right; left
        have least : min (rooms calls) (firstOffer b : Int) = rooms calls := by omega
        refine ⟨room, part, ?_⟩
        simp only [sendTurn, offer, least]
        rw [if_neg (by omega), if_pos room, if_pos part]
      · right; right
        have least : min (rooms calls) (firstOffer b : Int) = firstOffer b := by omega
        refine ⟨positive, all, ?_⟩
        simp only [sendTurn, offer, least]
        rw [if_neg (by omega), if_pos (by omega), if_neg (by omega), Int.toNat_natCast]
    · left
      refine ⟨positive, fails, ?_⟩
      simp only [sendTurn, offer]
      rw [if_neg (by omega), if_neg (by omega)]

theorem first_offer_le (b : Buffer) : firstOffer b ≤ b.dataSize := Nat.min_le_left _ _

theorem send_loop_spec (fuel : Nat) (rooms : Nat → Int) (b : Buffer) (ok : Bool) (after : Buffer)
    (steady : Steady b) (done : loop (sendTurn rooms) fuel (b, 0) = some (ok, after)) :
    Steady after ∧
      ((ok = false ∨ after.dataSize = 0) ∧ (∀ left, ¬ShortSend b rooms left) ∨
      ok = true ∧ 0 < after.dataSize ∧ ShortSend b rooms after.dataSize) := by
  have offered := first_offer_le b
  cases fuel with
  | zero => cases done
  | succ fuel =>
      rcases send_turn_cases rooms b 0 steady with
        ⟨empty, leaves⟩ | ⟨some, fails, leaves⟩ | ⟨room, part, leaves⟩ | ⟨positive, all, goes⟩
      · rw [loop_exit fuel leaves] at done
        cases done
        refine ⟨steady, Or.inl ⟨Or.inr empty, ?_⟩⟩
        intro left short
        unfold ShortSend at short
        omega
      · rw [loop_exit fuel leaves] at done
        cases done
        refine ⟨steady, Or.inl ⟨Or.inl rfl, ?_⟩⟩
        intro left short
        unfold ShortSend at short
        omega
      · rw [loop_exit fuel leaves] at done
        cases done
        obtain ⟨kept, -, count, -⟩ := remove_steady b (rooms 0).toNat steady (by omega)
        exact ⟨kept, Or.inr ⟨rfl, by omega, Or.inl ⟨room, part, by omega⟩⟩⟩
      · rw [loop_turn fuel goes] at done
        -- the second call: the data wraps and its rest begins at index 0
        obtain ⟨steadyRest, count, offer⟩ := rest_steady b steady
        cases fuel with
        | zero => cases done
        | succ fuel =>
            rcases send_turn_cases rooms _ 1 steadyRest with
              ⟨empty, leaves⟩ | ⟨some, fails, leaves⟩ | ⟨room, part, leaves⟩ | ⟨left, whole, goes⟩
            · rw [loop_exit fuel leaves] at done
              cases done
              refine ⟨steadyRest, Or.inl ⟨Or.inr empty, ?_⟩⟩
              intro left short
              unfold ShortSend at short
              omega
            · rw [loop_exit fuel leaves] at done
              cases done
              refine ⟨steadyRest, Or.inl ⟨Or.inl rfl, ?_⟩⟩
              intro left short
              unfold ShortSend at short
              omega
            · rw [loop_exit fuel leaves] at done
              cases done
              rw [offer] at part
              obtain ⟨kept, -, rest, -⟩ := remove_steady _ (rooms 1).toNat steadyRest (by omega)
              exact ⟨kept, Or.inr ⟨rfl, by omega, Or.inr ⟨all, room, by omega, by omega⟩⟩⟩
            · rw [loop_turn fuel goes] at done
              rw [offer] at left whole
              obtain ⟨steadyLast, none, -⟩ := rest_steady _ steadyRest
              rw [offer, count, Nat.sub_self] at none
              have nothing := first_offer_le
                (removeDate (removeDate b (firstOffer b)) (firstOffer (removeDate b (firstOffer b))))
              rw [offer, none] at nothing
              cases fuel with
              | zero => cases done
              | succ fuel =>
                  rw [offer] at steadyLast done
                  rcases send_turn_cases rooms _ 2 steadyLast with
                    ⟨empty, leaves⟩ | ⟨some, _⟩ | ⟨room, part, _⟩ | ⟨some, _⟩
                  · rw [loop_exit fuel leaves] at done
                    cases done
                    refine ⟨steadyLast, Or.inl ⟨Or.inr empty, ?_⟩⟩
                    intro rest short
                    unfold ShortSend at short
                    omega
                  · omega
                  · omega
                  · omega

/-- `Send` returns after three turns at most. -/
theorem send_ends (rooms : Nat → Int) (b : Buffer) (steady : Steady b) :
    ∃ sent, loop (sendTurn rooms) 3 (b, 0) = some sent := by
  obtain ⟨steadyRest, count, offer⟩ := rest_steady b steady
  obtain ⟨steadyLast, none, -⟩ := rest_steady _ steadyRest
  rw [offer, count, Nat.sub_self] at none
  rcases send_turn_cases rooms b 0 steady with
    ⟨_, leaves⟩ | ⟨_, _, leaves⟩ | ⟨_, _, leaves⟩ | ⟨_, _, goes⟩
  · exact ⟨_, loop_exit 2 leaves⟩
  · exact ⟨_, loop_exit 2 leaves⟩
  · exact ⟨_, loop_exit 2 leaves⟩
  · rw [loop_turn 2 goes]
    rcases send_turn_cases rooms _ 1 steadyRest with
      ⟨_, leaves⟩ | ⟨_, _, leaves⟩ | ⟨_, _, leaves⟩ | ⟨_, _, goes⟩
    · exact ⟨_, loop_exit 1 leaves⟩
    · exact ⟨_, loop_exit 1 leaves⟩
    · exact ⟨_, loop_exit 1 leaves⟩
    · rw [loop_turn 1 goes, offer]
      rw [offer] at steadyLast
      have nothing := first_offer_le (removeDate (removeDate b (firstOffer b))
        (b.dataSize - firstOffer b))
      rcases send_turn_cases rooms _ 2 steadyLast with
        ⟨_, leaves⟩ | ⟨some, _⟩ | ⟨room, part, _⟩ | ⟨some, _⟩
      · exact ⟨_, loop_exit 0 leaves⟩
      · omega
      · omega
      · omega

theorem short_send_unique {b : Buffer} {rooms : Nat → Int} {first second : Nat}
    (left : ShortSend b rooms first) (right : ShortSend b rooms second) : first = second := by
  unfold ShortSend at left right
  omega

/-! ### What an event makes of a connection -/

/-- The three ways an event can go: it sends nothing, it only ends the
connecting state, or it gets as far as the calls of `send()`. -/
theorem handle_cases (backEnd : BackEnd) (fuel : Nat) (e : Event) (obj : ConnectObj)
    (result : Option ConnectObj) (done : handle backEnd fuel e obj = some result) :
    (¬Sends obj e ∧ ¬Joins obj e ∧ (result = none ∨ result = some obj)) ∨
    (¬Sends obj e ∧ Joins obj e ∧ result = some (
      if e.writable then modifyEvent backEnd false (changeStateToConnected obj)
      else changeStateToConnected obj)) ∨
    (Sends obj e ∧ ¬Joins obj e ∧ ∃ state ok b, state ≠ ConnectStateType.connecting ∧
      loop (sendTurn e.rooms) fuel (obj.sendBuffer, 0) = some (ok, b) ∧
      result = if ok then some (modifyEvent backEnd false { obj with state := state, sendBuffer := b })
        else none) := by
  unfold handle at done
  unfold Sends Joins
  cases closed : e.closed with
  | true =>
      rw [closed] at done
      cases done
      exact Or.inl ⟨by simp, by simp, Or.inl rfl⟩
  | false =>
      simp only [closed, Bool.false_eq_true, ↓reduceIte] at done
      by_cases connecting : obj.state = .connecting
      · cases readable : e.readable with
        | true =>
            simp only [readable, ↓reduceIte, recv, connecting] at done
            cases writable : e.writable with
            | true =>
                -- `Recv` has ended the connecting state, so `Send` sends
                simp only [writable, ↓reduceIte, send, changeStateToConnected] at done
                obtain ⟨sent, taken, rfl⟩ := Option.map_eq_some_iff.mp done
                obtain ⟨⟨ok, b⟩, looped, rfl⟩ := Option.map_eq_some_iff.mp taken
                exact Or.inr (Or.inr ⟨by simp [connecting], by simp, .connected, ok, b, by decide,
                  looped, rfl⟩)
            | false =>
                simp only [writable] at done
                cases done
                exact Or.inr (Or.inl ⟨by simp, by simp [connecting], rfl⟩)
        | false =>
            simp only [readable] at done
            cases writable : e.writable with
            | true =>
                simp only [writable, send, connecting, Bool.false_eq_true, ↓reduceIte,
                  Option.map_some] at done
                cases done
                exact Or.inr (Or.inl ⟨by simp [connecting], by simp [connecting], rfl⟩)
            | false =>
                simp only [writable] at done
                cases done
                exact Or.inl ⟨by simp, by simp, Or.inr rfl⟩
      · have received : (if e.readable = true then recv e.recvResult obj else (true, obj)) =
            (if e.readable = true then e.recvResult else true, obj) := by
          unfold recv
          rw [if_neg connecting]
          split <;> rfl
        rw [received] at done
        by_cases fails : (if e.readable = true then e.recvResult else true) = false
        · rw [if_pos fails] at done
          cases done
          left
          refine ⟨?_, by simp [connecting], Or.inl rfl⟩
          rintro ⟨-, -, -, got⟩
          split at fails
          · rename_i readable
            rw [got connecting readable] at fails
            cases fails
          · cases fails
        · rw [if_neg fails] at done
          have got : e.readable = true → e.recvResult = true := by
            intro readable
            simpa [readable] using fails
          cases writable : e.writable with
          | true =>
              simp only [writable, ↓reduceIte, send, if_neg connecting] at done
              obtain ⟨sent, taken, rfl⟩ := Option.map_eq_some_iff.mp done
              obtain ⟨⟨ok, b⟩, looped, rfl⟩ := Option.map_eq_some_iff.mp taken
              exact Or.inr (Or.inr ⟨⟨rfl, rfl, fun now => absurd now connecting, fun _ => got⟩,
                by simp [connecting], obj.state, ok, b, connecting, looped, rfl⟩)
          | false =>
              simp only [writable] at done
              cases done
              exact Or.inl ⟨by simp, by simp [connecting], Or.inr rfl⟩

def Watching (backEnd : BackEnd) (obj : ConnectObj) : Prop :=
  obj.sendBuffer.dataSize ≠ 0 → watched backEnd obj = true

theorem select_watching (obj : ConnectObj) :
    Watching .select obj ↔ (obj.state = .connecting ∨ obj.sendBuffer.dataSize ≠ 1) := by
  unfold Watching watched hasSendData hasData
  by_cases connecting : obj.state = .connecting
  · simp [connecting]
  · simp only [connecting, ↓reduceIte, false_or]
    by_cases none : obj.sendBuffer.dataSize = 0
    · simp [none]
    · by_cases one : obj.sendBuffer.dataSize = 1
      · simp [one]
      · have enough : ¬obj.sendBuffer.dataSize < 2 := by omega
        simp [none, one, enough]

theorem handle_spec (backEnd : BackEnd) (fuel : Nat) (e : Event) (obj : ConnectObj)
    (result : Option ConnectObj) (steady : Steady obj.sendBuffer) (good : Watching backEnd obj)
    (done : handle backEnd fuel e obj = some result) :
    (∀ after, result = some after → Steady after.sendBuffer) ∧
    (Drained backEnd obj e ↔ ∀ after, result = some after → Watching backEnd after) := by
  rcases handle_cases backEnd fuel e obj result done with
    ⟨noSend, noJoin, rfl | rfl⟩ | ⟨noSend, join, rfl⟩ | ⟨sends, noJoin, state, ok, b, connected, looped, rfl⟩
  · refine ⟨by simp, ?_⟩
    cases backEnd <;> simp [Drained, noSend, noJoin]
  · refine ⟨by rintro after ⟨⟩; exact steady, ?_⟩
    have kept : ∀ after, some obj = some after → Watching backEnd after := by
      rintro after ⟨⟩
      exact good
    cases backEnd <;> simp [Drained, noSend, noJoin] <;> exact good
  · constructor
    · rintro after ⟨⟩
      cases backEnd <;> split <;> exact steady
    · have connecting := join.2.1
      cases backEnd with
      | epoll =>
          cases writable : e.writable with
          | true => simp [Drained, noSend, join, writable, Watching, watched, modifyEvent,
              changeStateToConnected]
          | false =>
              simp only [Drained, noSend, writable]
              simpa [Watching, watched, changeStateToConnected] using good
      | select =>
          have same : (if e.writable = true then
              modifyEvent .select false (changeStateToConnected obj)
              else changeStateToConnected obj) = changeStateToConnected obj := by
            split <;> rfl
          rw [same]
          simp [Drained, noSend, join, select_watching, changeStateToConnected]
  · obtain ⟨kept, outcome⟩ := send_loop_spec fuel e.rooms obj.sendBuffer ok b steady looped
    cases ok with
    | false =>
        refine ⟨by simp, ?_⟩
        have none : ∀ left, ¬ShortSend obj.sendBuffer e.rooms left := by
          rcases outcome with ⟨_, none⟩ | ⟨worked, _⟩
          · exact none
          · cases worked
        cases backEnd <;> simp [Drained, noJoin, none]
    | true =>
        constructor
        · rintro after ⟨⟩
          cases backEnd <;> exact kept
        · cases backEnd with
          | epoll =>
              simp only [Drained, sends, noJoin, ↓reduceIte, Option.some.injEq, forall_eq',
                Watching, watched, modifyEvent]
              rcases outcome with ⟨failed | empty, none⟩ | ⟨_, some, short⟩
              · cases failed
              · simp [none, empty]
              · constructor
                · intro clean
                  exact absurd short (clean.1 trivial _)
                · intro clean
                  exact absurd (clean (by omega)) (by simp)
          | select =>
              simp only [Drained, sends, noJoin, ↓reduceIte, Option.some.injEq, forall_eq',
                select_watching, modifyEvent, connected, false_or]
              rcases outcome with ⟨failed | empty, none⟩ | ⟨_, some, short⟩
              · cases failed
              · simp [none, empty]
              · constructor
                · intro clean one
                  exact clean.1 trivial (one ▸ short)
                · intro clean
                  refine ⟨fun _ lone => clean (short_send_unique short lone), by simp⟩

/-! ### What a frame makes of the connections -/

theorem poll_spec (backEnd : BackEnd) (fuel : Nat) (events : List Event) (before after : Connects)
    (once : (events.map Event.socket).Nodup) (done : poll backEnd fuel events before = some after)
    (socket : Int) :
    ((∀ e ∈ events, e.socket ≠ socket) → after socket = before socket) ∧
    (before socket = none → after socket = none) ∧
    ∀ e ∈ events, e.socket = socket → ∀ obj, before socket = some obj →
      handle backEnd fuel e obj = some (after socket) := by
  induction events generalizing before with
  | nil =>
      cases done
      exact ⟨fun _ => rfl, fun gone => gone, fun e member => absurd member List.not_mem_nil⟩
  | cons first rest ih =>
      obtain ⟨new, others⟩ := List.nodup_cons.mp once
      have elsewhere : first.socket = socket → ∀ e ∈ rest, e.socket ≠ socket := by
        rintro same e member again
        exact new (same ▸ again ▸ List.mem_map_of_mem (f := Event.socket) member)
      rw [poll] at done
      cases found : before first.socket with
      | none =>
          simp only [found] at done
          obtain ⟨untouched, absent, own⟩ := ih before others done
          refine ⟨?_, absent, ?_⟩
          · intro foreign
            exact untouched fun e member => foreign e (List.mem_cons_of_mem _ member)
          · intro e member same obj held
            rcases List.mem_cons.mp member with rfl | later
            · rw [same, held] at found
              cases found
            · exact own e later same obj held
      | some obj =>
          simp only [found] at done
          obtain ⟨result, handled, done⟩ := Option.bind_eq_some_iff.mp done
          obtain ⟨untouched, absent, own⟩ := ih _ others done
          by_cases here : first.socket = socket
          · subst here
            have stays := untouched (elsewhere rfl)
            rw [Function.update_self] at stays
            refine ⟨fun foreign => absurd rfl (foreign first List.mem_cons_self), ?_, ?_⟩
            · intro gone
              rw [found] at gone
              cases gone
            · intro e member same other held
              rcases List.mem_cons.mp member with rfl | later
              · rw [found] at held
                cases held
                rw [stays]
                exact handled
              · exact absurd same (elsewhere rfl e later)
          · have kept : Function.update before first.socket result socket = before socket :=
              Function.update_of_ne (Ne.symm here) _ _
            rw [kept] at untouched absent own
            refine ⟨?_, absent, ?_⟩
            · intro foreign
              exact untouched fun e member => foreign e (List.mem_cons_of_mem _ member)
            · intro e member same
              rcases List.mem_cons.mp member with rfl | later
              · exact absurd same here
              · exact own e later same

def AllSteady (connects : Connects) : Prop :=
  ∀ socket obj, connects socket = some obj → Steady obj.sendBuffer

theorem poll_decides (backEnd : BackEnd) (fuel : Nat) (events : List Event)
    (before after : Connects) (once : (events.map Event.socket).Nodup)
    (done : poll backEnd fuel events before = some after) (steady : AllSteady before)
    (good : Scheduled backEnd before) :
    AllSteady after ∧ (Drains backEnd before (.poll events) ↔ Scheduled backEnd after) := by
  have spec := poll_spec backEnd fuel events before after once done
  have origin : ∀ socket obj, after socket = some obj →
      before socket = some obj ∨ ∃ e ∈ events, e.socket = socket ∧ ∃ old,
        before socket = some old ∧ handle backEnd fuel e old = some (some obj) := by
    intro socket obj held
    obtain ⟨untouched, absent, own⟩ := spec socket
    by_cases touched : ∃ e ∈ events, e.socket = socket
    · obtain ⟨e, member, same⟩ := touched
      cases old : before socket with
      | none =>
          rw [absent old] at held
          cases held
      | some old' =>
          exact Or.inr ⟨e, member, same, old', rfl, held ▸ own e member same old' old⟩
    · left
      rw [← untouched fun e member same => touched ⟨e, member, same⟩]
      exact held
  refine ⟨?_, ?_, ?_⟩
  · intro socket obj held
    rcases origin socket obj held with same | ⟨e, member, same, old, found, handled⟩
    · exact steady socket obj same
    · exact (handle_spec backEnd fuel e old _ (steady socket old found) (good socket old found)
        handled).1 obj rfl
  · intro clean socket obj held
    rcases origin socket obj held with same | ⟨e, member, same, old, found, handled⟩
    · exact good socket obj same
    · have drained := clean e member old (same.symm ▸ found)
      exact (handle_spec backEnd fuel e old _ (steady socket old found) (good socket old found)
        handled).2.mp drained obj rfl
  · intro watchedAfter e member obj found
    have handled := (spec e.socket).2.2 e member rfl obj found
    apply (handle_spec backEnd fuel e obj _ (steady _ obj found) (good _ obj found) handled).2.mpr
    intro last held
    exact watchedAfter e.socket last held

/-- What packets make of a connection: more bytes, and with epoll EPOLLOUT where
there are any. -/
structure Grown (backEnd : BackEnd) (socket : Int) (packets : List Packet)
    (before after : ConnectObj) : Prop where
  tagKey : after.tagKey = before.tagKey
  state : after.state = before.state
  count : after.sendBuffer.dataSize =
    before.sendBuffer.dataSize + addedTo socket before.tagKey packets
  interest : backEnd = .epoll → after.epollOut = true ∨
    after.epollOut = before.epollOut ∧ after.sendBuffer.dataSize = before.sendBuffer.dataSize

theorem added_to_cons (socket : Int) (tagKey : TagKey) (p : Packet) (rest : List Packet) :
    addedTo socket tagKey (p :: rest) = addedTo socket tagKey [p] + addedTo socket tagKey rest := by
  unfold addedTo
  by_cases own : p.socketKey.socket = socket ∧ compareTags tagKey p.tagKey
  · simp [own]
  · simp [own]

theorem grown_nothing (backEnd : BackEnd) (socket : Int) (obj : ConnectObj) :
    Grown backEnd socket [] obj obj :=
  ⟨rfl, rfl, rfl, fun _ => Or.inr ⟨rfl, rfl⟩⟩

theorem grown_foreign (backEnd : BackEnd) (socket : Int) (p : Packet) (obj : ConnectObj)
    (foreign : ¬(p.socketKey.socket = socket ∧ compareTags obj.tagKey p.tagKey)) :
    Grown backEnd socket [p] obj obj := by
  refine ⟨rfl, rfl, ?_, fun _ => Or.inr ⟨rfl, rfl⟩⟩
  simp [addedTo, foreign]

theorem grown_trans {backEnd : BackEnd} {socket : Int} {p : Packet} {rest : List Packet}
    {first second third : ConnectObj} (head : Grown backEnd socket [p] first second)
    (tail : Grown backEnd socket rest second third) :
    Grown backEnd socket (p :: rest) first third := by
  refine ⟨tail.tagKey.trans head.tagKey, tail.state.trans head.state, ?_, ?_⟩
  · rw [tail.count, head.count, head.tagKey, added_to_cons socket first.tagKey p rest, Nat.add_assoc]
  · intro epoll
    rcases tail.interest epoll with on | ⟨same, none⟩
    · exact Or.inl on
    · rcases head.interest epoll with on | ⟨before, empty⟩
      · exact Or.inl (same.trans on)
      · exact Or.inr ⟨same.trans before, none.trans empty⟩

def AllGrown (backEnd : BackEnd) (packets : List Packet) (before after : Connects) : Prop :=
  ∀ socket, (before socket = none → after socket = none) ∧
    ∀ old, before socket = some old →
      ∃ obj, after socket = some obj ∧ Grown backEnd socket packets old obj

theorem deliver_spec (backEnd : BackEnd) (fuel : Nat) (p : Packet) (before after : Connects)
    (done : deliver backEnd fuel p before = some after) (steady : AllSteady before)
    (fits : ∀ obj, before p.socketKey.socket = some obj → Representable p ∧
      (getEmptySize obj.sendBuffer < totalSizeOf p →
        obj.sendBuffer.bufferSize + additionalSize < 2147483648)) :
    AllSteady after ∧ AllGrown backEnd [p] before after := by
  unfold deliver at done
  cases found : before p.socketKey.socket with
  | none =>
      rw [found] at done
      cases done
      refine ⟨steady, fun socket => ⟨fun gone => gone, ?_⟩⟩
      intro old held
      refine ⟨old, held, grown_foreign backEnd socket p old ?_⟩
      rintro ⟨same, -⟩
      rw [same, held] at found
      cases found
  | some target =>
      simp only [found] at done
      by_cases tags : compareTags target.tagKey p.tagKey = true
      · rw [if_pos tags] at done
        obtain ⟨b, added, rfl⟩ := Option.map_eq_some_iff.mp done
        obtain ⟨whole, grows⟩ := fits target found
        have steadyTarget := steady _ target found
        obtain ⟨steadyB, -⟩ := add_packet_whole fuel _ b p steadyTarget whole grows added
        have count : b.dataSize = target.sendBuffer.dataSize + writtenSize p := by
          have short : p.data.length + headSizeOf p + 4 < 65536 := whole
          have length := (data_length_whole p whole).1
          have holds := steadyTarget.sound.holds
          have sized : target.sendBuffer.bufferSize < 2147483648 := steadyTarget.sized
          apply add_packet_count fuel _ b p _ added
          unfold writtenSize
          split <;> omega
        constructor
        · intro socket obj held
          by_cases here : socket = p.socketKey.socket
          · subst here
            rw [Function.update_self] at held
            cases held
            cases backEnd <;> exact steadyB
          · rw [Function.update_of_ne here] at held
            exact steady socket obj held
        · intro socket
          by_cases here : socket = p.socketKey.socket
          · subst here
            rw [Function.update_self]
            refine ⟨fun gone => absurd (gone.symm.trans found) (by simp), ?_⟩
            intro old held
            cases found.symm.trans held
            refine ⟨_, rfl, ?_⟩
            constructor
            · cases backEnd <;> rfl
            · cases backEnd <;> rfl
            · cases backEnd <;> simpa [addedTo, tags, modifyEvent] using count
            · rintro rfl
              exact Or.inl rfl
          · rw [Function.update_of_ne here]
            refine ⟨fun gone => gone, fun old held => ⟨old, held, ?_⟩⟩
            exact grown_foreign backEnd socket p old fun own => here own.1.symm
      · rw [if_neg tags] at done
        cases done
        refine ⟨steady, fun socket => ⟨fun gone => gone, ?_⟩⟩
        intro old held
        refine ⟨old, held, grown_foreign backEnd socket p old ?_⟩
        rintro ⟨same, equal⟩
        rw [same, held] at found
        cases found
        exact tags equal

theorem on_network_update_spec (backEnd : BackEnd) (fuel : Nat) (packets : List Packet)
    (before after : Connects) (done : onNetworkUpdate backEnd fuel packets before = some after)
    (steady : AllSteady before) (sized : SizedPackets backEnd packets before) :
    AllSteady after ∧ AllGrown backEnd packets before after := by
  induction packets generalizing before with
  | nil =>
      cases done
      refine ⟨steady, fun socket => ⟨fun gone => gone, ?_⟩⟩
      intro old held
      exact ⟨old, held, grown_nothing backEnd socket old⟩
  | cons p rest ih =>
      obtain ⟨middle, delivered, done⟩ := Option.bind_eq_some_iff.mp done
      obtain ⟨fits, later⟩ := sized
      obtain ⟨steadyMiddle, grown⟩ := deliver_spec backEnd fuel p before middle delivered steady fits
      obtain ⟨steadyAfter, rest⟩ := ih middle done steadyMiddle (later fuel middle delivered)
      refine ⟨steadyAfter, fun socket => ⟨fun gone => (rest socket).1 ((grown socket).1 gone), ?_⟩⟩
      intro old held
      obtain ⟨obj, found, first⟩ := (grown socket).2 old held
      obtain ⟨last, kept, second⟩ := (rest socket).2 obj found
      exact ⟨last, kept, grown_trans first second⟩

theorem on_network_update_decides (backEnd : BackEnd) (fuel : Nat) (packets : List Packet)
    (before after : Connects) (done : onNetworkUpdate backEnd fuel packets before = some after)
    (steady : AllSteady before) (good : Scheduled backEnd before)
    (sized : SizedPackets backEnd packets before) :
    AllSteady after ∧
      (Drains backEnd before (.onNetworkUpdate packets) ↔ Scheduled backEnd after) := by
  obtain ⟨steadyAfter, grown⟩ := on_network_update_spec backEnd fuel packets before after done steady sized
  have origin : ∀ socket obj, after socket = some obj →
      ∃ old, before socket = some old ∧ Grown backEnd socket packets old obj := by
    intro socket obj held
    cases found : before socket with
    | none =>
        rw [(grown socket).1 found] at held
        cases held
    | some old =>
        obtain ⟨other, same, growth⟩ := (grown socket).2 old found
        cases held.symm.trans same
        exact ⟨old, rfl, growth⟩
  refine ⟨steadyAfter, ?_⟩
  cases backEnd with
  | epoll =>
      constructor
      · intro _ socket obj held some
        obtain ⟨old, found, growth⟩ := origin socket obj held
        rcases growth.interest rfl with on | ⟨same, count⟩
        · exact on
        · exact same.trans (good socket old found (count ▸ some))
      · intro _ never
        cases never
  | select =>
      constructor
      · intro clean socket obj held
        obtain ⟨old, found, growth⟩ := origin socket obj held
        apply (select_watching obj).mpr
        rw [growth.state, growth.count]
        by_cases connecting : old.state = .connecting
        · exact Or.inl connecting
        · exact Or.inr (clean rfl socket old found connecting)
      · intro watchedAfter _ socket old found connected
        obtain ⟨obj, held, growth⟩ := (grown socket).2 old found
        have still := (select_watching obj).mp (watchedAfter socket obj held)
        rw [growth.state, growth.count] at still
        exact still.resolve_left connected

theorem create_connect_obj (identify : NetIdentify) (state : ConnectStateType) (pooled : Buffer)
    (before : Connects) (socket : Int) (obj : ConnectObj)
    (held : createConnectObj identify state pooled before socket = some obj) :
    before socket = some obj ∨ obj = ⟨identify, state, backToPool pooled, true⟩ := by
  cases found : before identify.socketKey.socket with
  | some old =>
      simp only [createConnectObj, found] at held
      by_cases here : socket = identify.socketKey.socket
      · subst here
        rw [Function.update_self] at held
        cases held
      · rw [Function.update_of_ne here] at held
        exact Or.inl held
  | none =>
      simp only [createConnectObj, found] at held
      by_cases here : socket = identify.socketKey.socket
      · subst here
        rw [Function.update_self] at held
        exact Or.inr (Option.some.inj held).symm
      · rw [Function.update_of_ne here] at held
        exact Or.inl held

theorem pooled_steady (pooled : Buffer) (steady : Steady pooled) : Steady (backToPool pooled) := by
  have begins := steady.sound.begins
  have positive : 0 < pooled.bufferSize := Nat.lt_of_le_of_lt (Nat.zero_le _) begins
  exact ⟨⟨positive, positive, Nat.zero_le _, Nat.zero_mod _⟩, steady.sized⟩

theorem step_decides (backEnd : BackEnd) {before after : Connects} {call : Call}
    (steady : AllSteady before) (good : Scheduled backEnd before)
    (taken : Guarded (Step backEnd) (Sized backEnd) before call after) :
    AllSteady after ∧ (Drains backEnd before call ↔ Scheduled backEnd after) := by
  obtain ⟨taken, sized⟩ := taken
  cases taken with
  | create identify state pooled fresh =>
      have origin := create_connect_obj identify state pooled before
      refine ⟨?_, fun _ => ?_, fun _ => trivial⟩
      · intro socket obj held
        rcases origin socket obj held with old | rfl
        · exact steady socket obj old
        · exact pooled_steady pooled fresh
      · intro socket obj held some
        rcases origin socket obj held with old | rfl
        · exact good socket obj old some
        · exact absurd rfl some
  | remove socket =>
      have fewer : ∀ other obj, Function.update before socket none other = some obj →
          before other = some obj := by
        intro other obj held
        by_cases here : other = socket
        · subst here
          rw [Function.update_self] at held
          cases held
        · rwa [Function.update_of_ne here] at held
      exact ⟨fun other obj held => steady other obj (fewer other obj held),
        fun _ other obj held => good other obj (fewer other obj held), fun _ => trivial⟩
  | poll events fuel _ once _ done =>
      exact poll_decides backEnd fuel events before after once done steady good
  | onNetworkUpdate packets fuel _ done =>
      exact on_network_update_decides backEnd fuel packets before after done steady good sized

def noConnects : Connects := fun _ => none

/-- Along a run every connection with bytes to send stays watched exactly when
no handled EPOLLOUT leaves bytes behind (epoll) and no frame leaves exactly one
byte (select). -/
theorem scheduled_iff_drained (backEnd : BackEnd) (trace : List Call) (after : Connects) :
    Run (Guarded (Guarded (Step backEnd) (Sized backEnd)) (Drains backEnd)) noConnects trace after ↔
      Run (Along (Guarded (Step backEnd) (Sized backEnd)) (Scheduled backEnd)) noConnects trace
        after := by
  apply guarded_iff_decided AllSteady
  · intro before call after steady good taken
    exact step_decides backEnd steady good taken
  · intro socket obj held
    cases held
  · intro socket obj held
    cases held

/-! One client on descriptor 3 that is sent a ping of six bytes. -/

def pingTo : Packet := { ping with socketKey := ⟨3, .tcpListen⟩ }

def client (b : Buffer) : ConnectObj := ⟨⟨⟨3, .tcpListen⟩, clear⟩, .connected, b, true⟩

def only (obj : ConnectObj) : Connects := Function.update noConnects 3 (some obj)

theorem client_buffer (b : Buffer) : (client b).sendBuffer = b := rfl

def writableFor (room : Int) : Event := ⟨3, false, false, true, true, fun _ => room⟩

theorem short_ping_run (backEnd : BackEnd) (room : Int) (positive : 0 < room) (part : room < 6) :
    Run (Step backEnd) noConnects
      [.create (client (create 131072)).toNetIdentify .connected (create 131072),
        .onNetworkUpdate [pingTo], .poll [writableFor room]]
      (only (modifyEvent backEnd false (client (removeDate pingSent room.toNat)))) := by
  have created : createConnectObj (client (create 131072)).toNetIdentify .connected (create 131072)
      noConnects = only (client (create 131072)) := rfl
  have reserved : reserve (totalSizeOf pingTo) (create 131072) = .inr (create 131072) :=
    if_neg (show ¬getEmptySize (create 131072) < totalSizeOf pingTo by decide)
  have added : addPacket 1 (create 131072) pingTo = some pingSent := by
    rw [addPacket, loop_exit 0 reserved]
    rfl
  have delivered : onNetworkUpdate backEnd 1 [pingTo] (only (client (create 131072))) =
      some (only (client pingSent)) := by
    have target : only (client (create 131072)) pingTo.socketKey.socket =
        some (client (create 131072)) := rfl
    have equal : compareTags (client (create 131072)).tagKey pingTo.tagKey = true := rfl
    simp only [onNetworkUpdate, deliver, target, equal, client_buffer, added, ↓reduceIte,
      Option.map_some, Option.bind_some]
    cases backEnd <;> simp [only, modifyEvent, client, pingTo]
  have offer : (sendGetBuffer pingSent).2 = 6 := by decide
  have least : min room (6 : Int) = room := by omega
  have turn : sendTurn (writableFor room).rooms (pingSent, 0) =
      .inr (true, removeDate pingSent room.toNat) := by
    simp only [sendTurn, writableFor, offer, least]
    rw [if_neg (by omega), if_pos positive, if_pos part]
  have polled : poll backEnd 1 [writableFor room] (only (client pingSent)) =
      some (only (modifyEvent backEnd false (client (removeDate pingSent room.toNat)))) := by
    have target : only (client pingSent) (writableFor room).socket = some (client pingSent) := rfl
    have connected : (client pingSent).state ≠ .connecting := by decide
    have sent : handle backEnd 1 (writableFor room) (client pingSent) =
        some (some (modifyEvent backEnd false (client (removeDate pingSent room.toNat)))) := by
      simp only [handle, send, connected, writableFor, Bool.false_eq_true, ↓reduceIte]
      simp only [client_buffer]
      rw [writableFor] at turn
      rw [loop_exit 0 turn]
      rfl
    simp only [poll, target, sent, Option.bind_some]
    simp [only, writableFor]
  have reported : watched backEnd (client pingSent) = true := by
    cases backEnd with
    | epoll => rfl
    | select => decide
  refine .next (.create noConnects _ _ _ create_steady) ?_
  rw [created]
  refine .next (.onNetworkUpdate _ [pingTo] 1 _ delivered) ?_
  refine .next (.poll _ [writableFor room] 1 _ (by simp) ?_ polled) (.refl _)
  intro e member obj held _
  rw [List.mem_singleton.mp member] at held
  cases held
  exact reported

/-- Half a ping leaves an epoll client without EPOLLOUT, all but one byte leaves
a select client that has no data to send. -/
theorem short_send_stalls :
    (∃ trace after, Run (Step .epoll) noConnects trace after ∧ ¬Scheduled .epoll after) ∧
    ∃ trace after, Run (Step .select) noConnects trace after ∧ ¬Scheduled .select after := by
  refine ⟨⟨_, _, short_ping_run .epoll 3 (by decide) (by decide), ?_⟩,
    ⟨_, _, short_ping_run .select 5 (by decide) (by decide), ?_⟩⟩
  · intro scheduled
    have held := scheduled 3 _ rfl (by decide)
    cases held
  · intro scheduled
    have held := scheduled 3 _ rfl (by decide)
    revert held
    decide

end GameBook.WriteInterest
