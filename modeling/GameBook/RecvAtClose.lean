import GameBook.ConnectRecv
import GameBook.GetPacket

/-!
A connection from its first byte to `MI_NetworkDisconnect` under either event
loop. `Network::Epoll` and `Network::Select` look at what is reported in one
order: an error removes the connection, then it is read, then written. They
differ in what counts as an error. `EPOLLRDHUP` is one, and it is reported as
soon as the peer has closed, with the bytes before the close still in the
kernel; `select` reports an orderly close as readable, and `Recv` finds its end.
-/

namespace GameBook.RecvAtClose

open NetworkBuffer ProtoId SocketObject Mongoose StreamParser GetPacket LabelledRun
open TcpFraming (Steady receive_steady Waits Framed frameMsgId get_tcp_packet_waits frame_outcome)

/-! What the two loops make of a report. -/

structure Ready where
  error : Bool
  readable : Bool
  writable : Bool

structure Events where
  epollIn : Bool
  epollOut : Bool
  epollRdHup : Bool
  epollErr : Bool
  epollHup : Bool

def epoll (events : Events) : Ready where
  error := events.epollRdHup || events.epollErr || events.epollHup
  readable := events.epollIn
  writable := events.epollOut

structure Sets where
  readfds : Bool
  writefds : Bool
  exceptfds : Bool

def select (sets : Sets) : Ready where
  error := sets.exceptfds
  readable := sets.readfds
  writable := sets.writefds

/-- Where the network thread is: between two polls, in the loop of `recv()`
with `isRs` so far, in the loop of `GetPacket`, in front of `Send`, after
`Close()`, or past the removal. -/
inductive Phase where
  | idle
  | reading (isRs writable : Bool)
  | fetching (writable : Bool)
  | writing
  | closing
  | removed
  deriving DecidableEq

structure Connection where
  /-- `_state` is `Connecting`. -/
  connecting : Bool
  recvBuffer : Buffer
  kernel : Bytes
  /-- The peer has closed. -/
  fin : Bool
  phase : Phase
  /-- What `GetPacket` has returned. -/
  packets : List Item
  /-- All bytes the kernel has got for the connection. -/
  arrived : Bytes

def accepted (connecting : Bool) (recvBuffer : Buffer) : Connection :=
  ⟨connecting, recvBuffer, [], false, .idle, [], []⟩

inductive Label (Report : Type) where
  | arrive (bytes : Bytes)
  | fin
  | poll (report : Report)
  | recv (bytes : Bytes)
  /-- `recv()` returns 0. -/
  | recvEnd
  /-- `recv()` returns -1: `EAGAIN`, or any other error. -/
  | recvError
  | getPacket (got : Got)
  | sent
  | sendFails
  /-- `MI_NetworkRequestDisconnect`. -/
  | requestDisconnect

/-- After `Recv` the loop looks at the write flag. -/
def afterRecv (writable : Bool) : Phase := if writable then .writing else .idle

/-- One connection in the loop of `Network::Epoll` or `Network::Select`. `Recv`
on a connecting socket only makes it connected. -/
def polled (c : Connection) (ready : Ready) : Connection :=
  if ready.error then { c with phase := .removed }
  else if ready.readable then
    if c.connecting then { c with connecting := false, phase := afterRecv ready.writable }
    else { c with phase := .reading false ready.writable }
  else { c with phase := afterRecv ready.writable }

def fetched (c : Connection) (writable : Bool) (after : Buffer) : Got → Connection
  | .null => { c with recvBuffer := after, phase := afterRecv writable }
  | .closed => { c with recvBuffer := after, phase := .closing }
  | .packet item => { c with recvBuffer := after, packets := c.packets ++ [item] }

/-- `RemoveConnectObj`: the object sends its `MI_NetworkDisconnect`. -/
def remove (c : Connection) : Connection := { c with phase := .removed }

/-- `ready` is how the event loop reads its reports. A request to disconnect is
handled before the next poll, so nothing else follows `Close()`. -/
inductive Step {Report : Type} (netType : NetworkType) (ready : Report → Ready) :
    Connection → Label Report → Connection → Prop where
  | arrive (c : Connection) (bytes : Bytes) :
      c.fin = false → c.phase ≠ .removed →
      Step netType ready c (.arrive bytes) { c with kernel := c.kernel ++ bytes, arrived := c.arrived ++ bytes }
  | fin (c : Connection) :
      c.fin = false → c.phase ≠ .removed → Step netType ready c .fin { c with fin := true }
  | poll (c : Connection) (report : Report) :
      c.phase = .idle → Step netType ready c (.poll report) (polled c (ready report))
  | recv (c : Connection) (isRs writable : Bool) (bytes rest : Bytes) :
      c.phase = .reading isRs writable → bytes ≠ [] → c.kernel = bytes ++ rest →
      bytes.length ≤ getWriteSize (recvGuard c.recvBuffer) →
      Step netType ready c (.recv bytes)
        { c with
          recvBuffer := receive (recvGuard c.recvBuffer) bytes
          kernel := rest
          phase := .reading true writable }
  | recvEnd (c : Connection) (isRs writable : Bool) :
      c.phase = .reading isRs writable → c.kernel = [] → c.fin = true →
      Step netType ready c .recvEnd
        { c with
          recvBuffer := recvGuard c.recvBuffer
          phase := if isRs then .fetching writable else .removed }
  -- `isRs = socketError != 0`, so an error is followed by the loop over the packets
  | recvError (c : Connection) (isRs writable : Bool) :
      c.phase = .reading isRs writable →
      Step netType ready c .recvError
        { c with recvBuffer := recvGuard c.recvBuffer, phase := .fetching writable }
  | getPacket (c : Connection) (writable : Bool) (got : Got) (after : Buffer) :
      c.phase = .fetching writable → GetPacket netType c.recvBuffer got after →
      Step netType ready c (.getPacket got) (fetched c writable after got)
  | sent (c : Connection) :
      c.phase = .writing → Step netType ready c .sent { c with connecting := false, phase := .idle }
  | sendFails (c : Connection) :
      c.phase = .writing → c.connecting = false → Step netType ready c .sendFails (remove c)
  | requestDisconnect (c : Connection) :
      c.phase = .idle ∨ c.phase = .closing → Step netType ready c .requestDisconnect (remove c)

/-! Which packets `Recv` dispatches. -/

/-- Pings are dropped; on http a bad request is answered with 404, and an id
outside the http range is dropped. -/
def isDispatched : Item → Bool
  | .tcp frame => frame.msgId ≠ .miPing
  | .http parsed =>
      parsed.msgId ≠ .miHttpRequestBad &&
        !((number parsed.msgId ≤ number .miHttpBegin || number parsed.msgId ≥ number .miHttpEnd) &&
          parsed.msgId ≠ .miHttpOuterResponse)

def dispatched (c : Connection) : List Item := c.packets.filter isDispatched

def expected (netType : NetworkType) (bytes : Bytes) : List Item :=
  (items (packetParser netType) bytes).filter isDispatched

/-- At the removal of a connection whose peer has closed, every complete packet
of its bytes has been dispatched, in order. -/
def CloseLaw (netType : NetworkType) (c : Connection) : Prop :=
  c.phase = .removed → c.fin = true → dispatched c = expected netType c.arrived

/-- Once the peer has closed, no complete packet is left in the buffer and the kernel. -/
def NothingLeft (netType : NetworkType) (c : Connection) : Prop :=
  c.fin = true → expected netType (contents c.recvBuffer ++ c.kernel) = []

def Sized (b : Buffer) : Prop := getEmptySize b < 24 → b.bufferSize + additionalSize < 2147483648

def KeepsData {Report : Type} (netType : NetworkType) (ready : Report → Ready) (c : Connection) :
    Label Report → Prop
  | .poll report => (ready report).error = true → NothingLeft netType c
  | .sendFails => NothingLeft netType c
  | .requestDisconnect => c.phase = .idle → NothingLeft netType c
  | .recv _ | .recvEnd | .recvError => Sized c.recvBuffer
  | .getPacket _ =>
      isTcp netType = false → HttpReadable netType c.recvBuffer (c.kernel = [] ∧ c.fin = true)
  | _ => True

/-! What holds between two steps. -/

def Future (c : Connection) (more : Bytes) : Prop := c.fin = true → more = []

/-- The packets taken and the bytes still held are what has arrived. -/
def Owed (netType : NetworkType) (c : Connection) : Prop :=
  ∀ more, Future c more →
    Parsed (packetParser netType) (c.arrived ++ more) c.packets (contents c.recvBuffer ++ (c.kernel ++ more))

def Drained (netType : NetworkType) (c : Connection) : Prop :=
  (packetParser netType).next (contents c.recvBuffer) = none

def Finished (netType : NetworkType) (c : Connection) : Prop :=
  ∀ more, Future c more → items (packetParser netType) (c.arrived ++ more) = c.packets

def Kept (netType : NetworkType) (c : Connection) : Prop :=
  match c.phase with
  | .idle | .writing | .reading false _ => Steady c.recvBuffer ∧ Owed netType c ∧ Drained netType c
  | .reading true _ => Steady c.recvBuffer ∧ Owed netType c
  | .fetching _ => Steady c.recvBuffer ∧ Owed netType c ∧ c.recvBuffer.dataSize < c.recvBuffer.bufferSize
  | .closing => Finished netType c
  | .removed => c.fin = true → dispatched c = expected netType c.arrived

theorem future_nil (c : Connection) : Future c [] := fun _ => rfl

theorem owed_removed {netType : NetworkType} {c : Connection} (owed : Owed netType c)
    (left : NothingLeft netType c) (fin : c.fin = true) : dispatched c = expected netType c.arrived := by
  have parsed := owed [] (future_nil c)
  rw [Parsed, List.append_nil, List.append_nil] at parsed
  have none := left fin
  unfold expected at none ⊢
  rw [parsed, List.filter_append, none, List.append_nil]
  rfl

theorem finished_removed {netType : NetworkType} {c : Connection} (finished : Finished netType c) :
    dispatched c = expected netType c.arrived := by
  have all := finished [] (future_nil c)
  rw [List.append_nil] at all
  rw [expected, all]
  rfl

theorem owed_same {netType : NetworkType} {before after : Connection} (owed : Owed netType before)
    (arrived : after.arrived = before.arrived) (packets : after.packets = before.packets)
    (fin : after.fin = before.fin)
    (bytes : contents after.recvBuffer ++ after.kernel = contents before.recvBuffer ++ before.kernel) :
    Owed netType after := by
  intro more future
  have parsed := owed more (by rwa [Future, ← fin])
  rw [← List.append_assoc] at parsed ⊢
  rw [arrived, packets, bytes]
  exact parsed

theorem kept_after_recv {netType : NetworkType} {c : Connection} (writable : Bool)
    (steady : Steady c.recvBuffer) (owed : Owed netType c) (drained : Drained netType c) :
    Kept netType { c with phase := afterRecv writable } := by
  cases writable with
  | true => exact ⟨steady, owed, drained⟩
  | false => exact ⟨steady, owed, drained⟩

theorem kept_peer {netType : NetworkType} {before after : Connection} (alive : before.phase ≠ .removed)
    (phase : after.phase = before.phase) (buffer : after.recvBuffer = before.recvBuffer)
    (owed : Owed netType before → Owed netType after)
    (finished : Finished netType before → Finished netType after) (kept : Kept netType before) :
    Kept netType after := by
  unfold Kept Drained at kept ⊢
  rw [phase, buffer]
  split at kept
  · exact ⟨kept.1, owed kept.2.1, kept.2.2⟩
  · exact ⟨kept.1, owed kept.2.1, kept.2.2⟩
  · exact ⟨kept.1, owed kept.2.1, kept.2.2⟩
  · exact ⟨kept.1, owed kept.2⟩
  · exact ⟨kept.1, owed kept.2.1, kept.2.2⟩
  · exact finished kept
  · rename_i removed
    exact absurd removed alive

theorem future_open {c : Connection} (isOpen : c.fin = false) (more : Bytes) : Future c more := by
  intro fin
  rw [isOpen] at fin
  cases fin

theorem kept_reading {netType : NetworkType} {c : Connection} {isRs writable : Bool}
    (phase : c.phase = .reading isRs writable) (kept : Kept netType c) :
    Steady c.recvBuffer ∧ Owed netType c := by
  rw [Kept, phase] at kept
  cases isRs with
  | true => exact kept
  | false => exact ⟨kept.1, kept.2.1⟩

theorem kept_fetching {netType : NetworkType} {c : Connection} (writable : Bool) (steady : Steady c.recvBuffer)
    (owed : Owed netType c) (sized : Sized c.recvBuffer) :
    Kept netType { c with recvBuffer := recvGuard c.recvBuffer, phase := .fetching writable } := by
  obtain ⟨sound, small, same, room⟩ := recv_guard_spec c.recvBuffer steady.sound steady.sized sized
  rw [get_empty_size_exact _ sound small] at room
  refine ⟨⟨sound, small⟩, ?_, ?_⟩
  · exact owed_same owed rfl rfl rfl (by dsimp only; rw [same])
  · dsimp only
    omega

theorem kept_got {netType : NetworkType} {c : Connection} {writable : Bool} {got : Got} {after : Buffer}
    (phase : c.phase = .fetching writable) (kept : Kept netType c)
    (readable : isTcp netType = false → HttpReadable netType c.recvBuffer (c.kernel = [] ∧ c.fin = true))
    (call : GetPacket netType c.recvBuffer got after) : Kept netType (fetched c writable after got) := by
  have held := kept
  rw [Kept, phase] at held
  obtain ⟨steady, owed, room⟩ := held
  have found := get_packet_found netType c.recvBuffer got after _ steady room readable call
  cases got with
  | null =>
      obtain ⟨none, same⟩ := found
      cases same
      exact kept_after_recv writable steady owed none
  | closed =>
      intro more future
      have parsed := owed more future
      rw [Parsed, items_none (found _), List.append_nil] at parsed
      exact parsed
  | packet item =>
      obtain ⟨size, next, steadyAfter, rest, roomAfter, settled⟩ := found
      rw [Kept, fetched, phase]
      refine ⟨steadyAfter, ?_, roomAfter⟩
      intro more future
      dsimp only
      rw [rest]
      apply parsed_taken (owed more future) next
      apply settled
      rintro ⟨none, fin⟩
      rw [none, future fin]
      rfl

theorem kept_recv {netType : NetworkType} {c : Connection} {isRs writable : Bool} {bytes rest : Bytes}
    (phase : c.phase = .reading isRs writable) (kernel : c.kernel = bytes ++ rest)
    (offered : bytes.length ≤ getWriteSize (recvGuard c.recvBuffer)) (sized : Sized c.recvBuffer)
    (kept : Kept netType c) :
    Kept netType
      { c with
        recvBuffer := receive (recvGuard c.recvBuffer) bytes
        kernel := rest
        phase := .reading true writable } := by
  obtain ⟨steady, owed⟩ := kept_reading phase kept
  obtain ⟨steadyAfter, appended⟩ := receive_steady c.recvBuffer bytes steady sized offered
  refine ⟨steadyAfter, owed_same owed rfl rfl rfl ?_⟩
  dsimp only
  rw [appended, kernel, List.append_assoc]

theorem kept_recv_end {netType : NetworkType} {c : Connection} {isRs writable : Bool}
    (phase : c.phase = .reading isRs writable) (none : c.kernel = []) (fin : c.fin = true)
    (sized : Sized c.recvBuffer) (kept : Kept netType c) :
    Kept netType
      { c with
        recvBuffer := recvGuard c.recvBuffer
        phase := if isRs then .fetching writable else .removed } := by
  obtain ⟨steady, owed⟩ := kept_reading phase kept
  cases isRs with
  | true => exact kept_fetching writable steady owed sized
  | false =>
      -- nothing was read, so what the last loop over the packets left is still there
      rw [Kept, phase] at kept
      have left : NothingLeft netType c := by
        intro _
        rw [none, List.append_nil, expected, items_none kept.2.2]
        rfl
      have all := owed_removed owed left fin
      rw [dispatched] at all
      intro _
      rw [dispatched]
      exact all

theorem kept_step {Report : Type} (netType : NetworkType) (ready : Report → Ready) (before : Connection)
    (label : Label Report) (after : Connection) (kept : Kept netType before)
    (step : Guarded (Step netType ready) (KeepsData netType ready) before label after) :
    Kept netType after := by
  obtain ⟨taken, allowed⟩ := step
  cases taken with
  | arrive bytes isOpen alive =>
      refine kept_peer alive rfl rfl ?_ ?_ kept
      · intro owed more _
        have parsed := owed (bytes ++ more) (future_open isOpen _)
        simpa [List.append_assoc] using parsed
      · intro finished more _
        have all := finished (bytes ++ more) (future_open isOpen _)
        simpa [List.append_assoc] using all
  | fin isOpen alive =>
      exact kept_peer alive rfl rfl (fun owed more _ => owed more (future_open isOpen _))
        (fun finished more _ => finished more (future_open isOpen _)) kept
  | poll report idle =>
      rw [Kept, idle] at kept
      obtain ⟨steady, owed, drained⟩ := kept
      unfold polled
      split
      · rename_i error
        exact owed_removed owed (allowed error)
      · split
        · split
          · exact kept_after_recv (c := { before with connecting := false }) _ steady owed drained
          · exact ⟨steady, owed, drained⟩
        · exact kept_after_recv _ steady owed drained
  | recv isRs writable bytes rest phase some kernel offered => exact kept_recv phase kernel offered allowed kept
  | recvEnd isRs writable phase none fin => exact kept_recv_end phase none fin allowed kept
  | recvError isRs writable phase =>
      obtain ⟨steady, owed⟩ := kept_reading phase kept
      exact kept_fetching writable steady owed allowed
  | getPacket writable got after phase call => exact kept_got phase kept allowed call
  | sent phase =>
      rw [Kept, phase] at kept
      exact kept
  | sendFails phase connected =>
      rw [Kept, phase] at kept
      exact owed_removed kept.2.1 allowed
  | requestDisconnect phase =>
      rcases phase with idle | closing
      · rw [Kept, idle] at kept
        exact owed_removed kept.2.1 (allowed idle)
      · rw [Kept, closing] at kept
        exact fun _ => finished_removed kept

theorem kept_accepted (netType : NetworkType) (connecting : Bool) (start : Buffer) (steady : Steady start)
    (empty : contents start = []) : Kept netType (accepted connecting start) := by
  refine ⟨steady, ?_, ?_⟩
  · intro more _
    dsimp only [accepted]
    rw [empty]
    exact parsed_start more
  · rw [Drained]
    dsimp only [accepted]
    rw [empty]
    by_contra some
    obtain ⟨⟨item, size⟩, found⟩ := Option.ne_none_iff_exists'.mp some
    have bounds := (packetParser netType).progress [] item size found
    rw [List.length_nil] at bounds
    omega

def Reaches {Report : Type} (netType : NetworkType) (ready : Report → Ready) (start c : Connection) : Prop :=
  ∃ labels, Run (Step netType ready) start labels c

def ReachesKept {Report : Type} (netType : NetworkType) (ready : Report → Ready) (start c : Connection) : Prop :=
  ∃ labels, Run (Guarded (Step netType ready) (KeepsData netType ready)) start labels c

theorem reaches_of_kept {Report : Type} {netType : NetworkType} {ready : Report → Ready} {start c : Connection}
    (reached : ReachesKept netType ready start c) : Reaches netType ready start c := by
  obtain ⟨labels, run⟩ := reached
  exact ⟨labels, guarded_run run⟩

theorem reaches_kept_trans {Report : Type} {netType : NetworkType} {ready : Report → Ready}
    {before middle after : Connection} (head : ReachesKept netType ready before middle)
    (tail : ReachesKept netType ready middle after) : ReachesKept netType ready before after := by
  obtain ⟨first, run⟩ := head
  obtain ⟨second, rest⟩ := tail
  exact ⟨first ++ second, run_append run rest⟩

theorem reaches_kept_law {Report : Type} (netType : NetworkType) (ready : Report → Ready) (connecting : Bool)
    (start : Buffer) (steady : Steady start) (empty : contents start = []) (c : Connection)
    (reached : ReachesKept netType ready (accepted connecting start) c) : CloseLaw netType c := by
  obtain ⟨labels, run⟩ := reached
  have kept := run_invariant (Kept netType) (kept_step netType ready) run
    (kept_accepted netType connecting start steady empty)
  intro removed
  rw [Kept, removed] at kept
  exact kept

/-- Two event loops that lose nothing at a close, and dispatch the same packets
of the same bytes. -/
structure LoopsAgree (netType : NetworkType) (byEpoll bySelect : Connection → Prop) : Prop where
  epoll : ∀ c, byEpoll c → CloseLaw netType c
  select : ∀ c, bySelect c → CloseLaw netType c
  same : ∀ here there, byEpoll here → bySelect there → here.arrived = there.arrived →
    here.phase = .removed → here.fin = true → there.phase = .removed → there.fin = true →
    dispatched here = dispatched there

/-- Whatever is reported, and however the bytes come, nothing that has arrived
is lost, as long as a connection whose peer has closed is removed by a report, a
failed send or a request only when no packet is left for it. -/
theorem close_keeps_packets (netType : NetworkType) (connecting : Bool) (first second : Buffer)
    (steadyFirst : Steady first) (emptyFirst : contents first = []) (steadySecond : Steady second)
    (emptySecond : contents second = []) :
    LoopsAgree netType (ReachesKept netType epoll (accepted connecting first))
      (ReachesKept netType select (accepted connecting second)) := by
  have byEpoll := reaches_kept_law netType epoll connecting first steadyFirst emptyFirst
  have bySelect := reaches_kept_law netType select connecting second steadySecond emptySecond
  refine ⟨byEpoll, bySelect, ?_⟩
  intro here there reachedHere reachedThere arrived removedHere finHere removedThere finThere
  calc dispatched here
      = expected netType here.arrived := byEpoll here reachedHere removedHere finHere
    _ = expected netType there.arrived := by rw [arrived]
    _ = dispatched there := (bySelect there reachedThere removedThere finThere).symm

/-! A client sends one account check and closes. -/

def accountCheck : Bytes := [6, 0, 2, 0, 232, 3]

def client : NetIdentify := ⟨⟨5, .tcpListen⟩, clear⟩

def fresh : Connection := accepted false (create 131072)

theorem fresh_steady : Steady (create 131072) :=
  ⟨create_sound 131072 (by decide), by unfold IntSized; decide⟩

/-- Both are in the kernel when `epoll_wait` looks: read, and closed. -/
def readAndClosed : Events := ⟨true, false, true, false, false⟩

theorem epoll_drops_account_check :
    ∃ c, Reaches .tcpListen epoll fresh c ∧ c.arrived = accountCheck ∧ c.phase = .removed ∧ c.fin = true ∧
      dispatched c = [] :=
  ⟨_, ⟨_, .next (.arrive _ accountCheck rfl (by decide)) <| .next (.fin _ rfl (by decide)) <|
    .next (.poll _ readAndClosed rfl) <| .refl _⟩, rfl, rfl, rfl, rfl⟩

theorem account_check_taken (b : Buffer) (steady : Steady b) (bytes : contents b = accountCheck) :
    ∃ after, GetPacket .tcpListen b (.packet (.tcp ⟨.c2lAccountCheck, 2, [232, 3], []⟩)) after ∧
      Steady after ∧ contents after = [] ∧ after.bufferSize = b.bufferSize := by
  have whole : ¬ Waits (contents b) := by
    rw [bytes]
    decide
  have framed : Framed (contents b) := by
    rw [bytes]
    exact ⟨by decide, by decide⟩
  have known : frameMsgId (contents b) = some .c2lAccountCheck := by
    rw [bytes]
    decide
  have done := frame_outcome client b .c2lAccountCheck steady whole framed known
  have call : GetPacket .tcpListen b _ _ := .tcp 2 10240 client _ rfl ⟨0, by decide, rfl⟩ done
  obtain ⟨found, steadyAfter, rest, -, size⟩ := tcp_call 2 10240 client b steady ⟨0, by decide, rfl⟩ _ done
  have next : nextFrame (contents b) = some (⟨.c2lAccountCheck, 2, [232, 3], []⟩, 6) := by
    rw [bytes]
    decide
  rw [next] at found
  rw [tcpGot, ← (Prod.mk.inj (Option.some.inj found)).1] at call
  rw [bytes] at rest
  exact ⟨_, call, steadyAfter, rest, size⟩

theorem nothing_taken (b : Buffer) (steady : Steady b) (bytes : contents b = []) :
    GetPacket .tcpListen b .null b := by
  have waits : Waits (contents b) := by
    rw [bytes]
    decide
  obtain ⟨done, same, -⟩ := get_tcp_packet_waits 2 10240 client b steady waits
  have call : GetPacket .tcpListen b _ _ := .tcp 2 10240 client _ rfl ⟨0, by decide, rfl⟩ done
  rw [same] at call
  exact call

def closedBy (b : Buffer) (kernel : Bytes) (phase : Phase) (packets : List Item) : Connection :=
  ⟨false, b, kernel, true, phase, packets, accountCheck⟩

theorem small_sized (b : Buffer) (small : b.bufferSize = 131072) : Sized b := by
  intro _
  rw [small]
  decide

theorem select_looks (b : Buffer) (kernel : Bytes) (packets : List Item) :
    Guarded (Step .tcpListen select) (KeepsData .tcpListen select) (closedBy b kernel .idle packets)
      (.poll ⟨true, false, false⟩) (closedBy b kernel (.reading false false) packets) :=
  ⟨.poll _ _ rfl, fun error => by cases error⟩

theorem select_reads (b : Buffer) (offered : accountCheck.length ≤ getWriteSize (recvGuard b)) (sized : Sized b)
    (after : Sized (receive (recvGuard b) accountCheck)) :
    ReachesKept .tcpListen select (closedBy b accountCheck .idle [])
      (closedBy (recvGuard (receive (recvGuard b) accountCheck)) [] (.fetching false) []) :=
  ⟨_, .next (select_looks b accountCheck []) <|
    .next ⟨.recv (closedBy b accountCheck (.reading false false) []) false false accountCheck [] rfl (by decide)
      rfl offered, sized⟩ <|
    .next ⟨.recvEnd (closedBy (receive (recvGuard b) accountCheck) [] (.reading true false) []) true false rfl
      rfl rfl, after⟩ <| .refl _⟩

theorem select_closes (b after : Buffer) (item : Item) (call : GetPacket .tcpListen b (.packet item) after)
    (none : GetPacket .tcpListen after .null after) (sized : Sized after) :
    ReachesKept .tcpListen select (closedBy b [] (.fetching false) [])
      (closedBy (recvGuard after) [] .removed [item]) :=
  ⟨_, .next ⟨.getPacket (closedBy b [] (.fetching false) []) false _ after rfl call, fun http => by cases http⟩ <|
    .next ⟨.getPacket (closedBy after [] (.fetching false) [item]) false _ after rfl none,
      fun http => by cases http⟩ <|
    .next (select_looks after [] [item]) <|
    .next ⟨.recvEnd (closedBy after [] (.reading false false) [item]) false false rfl rfl rfl, sized⟩ <| .refl _⟩

theorem select_dispatches_account_check :
    ∃ c, ReachesKept .tcpListen select fresh c ∧ c.arrived = accountCheck ∧ c.phase = .removed ∧
      c.fin = true ∧ dispatched c = [.tcp ⟨.c2lAccountCheck, 2, [232, 3], []⟩] := by
  have offered : accountCheck.length ≤ getWriteSize (recvGuard (create 131072)) := by decide
  obtain ⟨steady, bytes⟩ := receive_steady (create 131072) accountCheck fresh_steady (fun _ => by decide) offered
  obtain ⟨sound, small, same, -⟩ := recv_guard_spec _ steady.sound steady.sized (fun _ => by decide)
  obtain ⟨after, call, steadyAfter, rest, size⟩ :=
    account_check_taken _ ⟨sound, small⟩ (same.trans bytes)
  have arrives : ReachesKept .tcpListen select fresh (closedBy (create 131072) accountCheck .idle []) :=
    ⟨_, .next ⟨.arrive _ accountCheck rfl (by decide), trivial⟩ <|
      .next ⟨.fin _ rfl (by decide), trivial⟩ <| .refl _⟩
  have reads := select_reads (create 131072) offered (small_sized _ (by decide)) (small_sized _ (by decide))
  have closes := select_closes _ after _ call (nothing_taken after steadyAfter rest)
    (small_sized after (size.trans (by decide)))
  exact ⟨_, reaches_kept_trans arrives (reaches_kept_trans reads closes), rfl, rfl, rfl, rfl⟩

theorem close_keeps_packets_selected :
    ∃ c, ReachesKept .tcpListen select fresh c ∧ c.phase = .removed ∧ c.fin = true ∧
      dispatched c = expected .tcpListen accountCheck := by
  obtain ⟨c, reached, arrived, removed, fin, -⟩ := select_dispatches_account_check
  have agree := close_keeps_packets .tcpListen false (create 131072) (create 131072) fresh_steady rfl
    fresh_steady rfl
  have law := agree.select c reached removed fin
  rw [arrived] at law
  exact ⟨c, reached, removed, fin, law⟩

theorem epoll_loses_account_check :
    ¬ ∀ netType connecting first second, Steady first → contents first = [] → Steady second →
      contents second = [] →
      LoopsAgree netType (Reaches netType epoll (accepted connecting first))
        (Reaches netType select (accepted connecting second)) := by
  intro law
  have agree := law .tcpListen false (create 131072) (create 131072) fresh_steady rfl fresh_steady rfl
  obtain ⟨here, reachedHere, arrivedHere, removedHere, finHere, none⟩ := epoll_drops_account_check
  obtain ⟨there, reachedThere, arrivedThere, removedThere, finThere, one⟩ := select_dispatches_account_check
  have same := agree.same here there reachedHere (reaches_of_kept reachedThere) (arrivedHere.trans arrivedThere.symm)
    removedHere finHere removedThere finThere
  rw [none, one] at same
  cases same

end GameBook.RecvAtClose
