import GameBook.LabelledRun
import GameBook.OrderedMap
import GameBook.TcpFraming

/-!
`ConnectObj::Recv` on an accepted TCP connection: each packet of `GetPacket`
gets its Entity tag from the socket locator when the connection has an Account
tag, pings are dropped, the rest is dispatched. Which head a frame has is for
the sender to say. A decoded packet is kept with the head it was read from and
with what `Recv` saw of the process then.
-/

namespace GameBook.ConnectRecv

open OrderedMap SocketObject ProtoId MachineWord NetworkBuffer TcpFraming LabelledRun

/-- What `Recv` reads of the process for one packet: the tags of the connection
and `SocketLocator`, if the process has one. -/
structure Server where
  tagKey : TagKey
  locator : Option (Table Int UInt64)

def getTargetEntitySn (locator : Table Int UInt64) (socket : Int) : UInt64 :=
  (locator[socket]?).getD 0

def targetEntity (server : Server) (socket : Int) : UInt64 :=
  match server.tagKey .account with
  | none => 0
  | some _ =>
      match server.locator with
      | none => 0
      | some locator => getTargetEntitySn locator socket

def tagPacket (server : Server) (p : Packet) : Packet :=
  if targetEntity server p.socketKey.socket > 0 then
    { p with tagKey := addTagInt p.tagKey .entity (targetEntity server p.socketKey.socket) }
  else p

structure Decoded where
  packet : Packet
  headSize : Nat
  head : List UInt8
  server : Server

structure Receiving where
  buffer : Buffer
  decoded : List Decoded

/-- `MI_Ping` is dropped. -/
def dispatched (decoded : List Decoded) : List Decoded :=
  decoded.filter fun one => one.packet.msgId ≠ .miPing

def decodedOf (server : Server) (b : Buffer) : Outcome → List Decoded
  | .packet p => [⟨tagPacket server p, headSize b, head b, server⟩]
  | _ => []

inductive Event where
  | recv (bytes : List UInt8)
  | fetch (server : Server)

/-- The tags a connection can have are its own; the process may change its tags
and the locator between any two packets. -/
inductive Step (socketKey : SocketKey) : Receiving → Event → Receiving → Prop where
  | recv (r : Receiving) (bytes : List UInt8) :
      bytes ≠ [] → bytes.length ≤ getWriteSize (recvGuard r.buffer) →
      Step socketKey r (.recv bytes) { r with buffer := receive (recvGuard r.buffer) bytes }
  | fetch (r : Receiving) (server : Server) (fuel pooled : Nat) (outcome : Outcome) :
      ConnectTags server.tagKey →
      (getTcpPacket fuel pooled ⟨socketKey, server.tagKey⟩ r.buffer).outcome = some outcome →
      Step socketKey r (.fetch server)
        ⟨(getTcpPacket fuel pooled ⟨socketKey, server.tagKey⟩ r.buffer).after,
          r.decoded ++ decodedOf server r.buffer outcome⟩

/-! Where the routing tags of a packet come from. -/

def routingTags (p : Packet) : Option TagValue × Option TagValue := (p.tagKey .entity, p.tagKey .player)

/-- `EntitySn` and `PlayerSn` of an S2S head. -/
def entitySn (head : List UInt8) : UInt64 := UInt64.ofNat (fromLittleEndian ((head.drop 4).take 8))

def playerSn (head : List UInt8) : UInt64 := UInt64.ofNat (fromLittleEndian ((head.drop 12).take 8))

def serverTags (server : Server) (socket : Int) : Option TagValue × Option TagValue :=
  (if targetEntity server socket > 0 then some ⟨[], targetEntity server socket⟩ else none, none)

def tagsOf (one : Decoded) (socket : Int) : Option TagValue × Option TagValue :=
  if one.headSize = 2 then serverTags one.server socket
  else
    (if targetEntity one.server socket > 0 then some ⟨[], targetEntity one.server socket⟩
      else some ⟨[], entitySn one.head⟩, some ⟨[], playerSn one.head⟩)

/-- Two frames whose heads say the same of the receiver: both have the client's
head, or both an S2S head with one player and, unless the process names the
entity, one entity. -/
def HeadsAgree (socket : Int) (first second : Decoded) : Prop :=
  (first.headSize = 2 ∧ second.headSize = 2) ∨
  (first.headSize ≠ 2 ∧ second.headSize ≠ 2 ∧ playerSn first.head = playerSn second.head ∧
    (targetEntity first.server socket > 0 ∨ entitySn first.head = entitySn second.head))

theorem head_tags_routing (socketKey : SocketKey) (tags : TagKey) (connected : ConnectTags tags)
    (size : Nat) (bytes : List UInt8) :
    headTags ⟨socketKey, tags⟩ size bytes .entity =
      (if size = 2 then none else some ⟨[], entitySn bytes⟩) ∧
    headTags ⟨socketKey, tags⟩ size bytes .player =
      (if size = 2 then none else some ⟨[], playerSn bytes⟩) := by
  have entity : copyFrom clear tags .entity = none := by
    rw [copy_from_absent _ _ _ (connect_tags_absent tags connected .entity (Or.inl rfl))]
    rfl
  have player : copyFrom clear tags .player = none := by
    rw [copy_from_absent _ _ _ (connect_tags_absent tags connected .player (Or.inr rfl))]
    rfl
  unfold headTags
  by_cases short : size = 2
  · rw [if_pos short, if_pos short, if_pos short]
    exact ⟨entity, player⟩
  · rw [if_neg short, if_neg short, if_neg short]
    exact ⟨rfl, rfl⟩

theorem packet_of_call (fuel pooled : Nat) (conn : NetIdentify) (b : Buffer) (p : Packet)
    (done : (getTcpPacket fuel pooled conn b).outcome = some (.packet p)) :
    p.socketKey = conn.socketKey ∧ p.tagKey = headTags conn (headSize b) (head b) := by
  unfold getTcpPacket at done
  split at done
  · cases done
  · split at done
    · cases done
    · split at done
      · cases done
      · obtain ⟨size, _, same⟩ := Option.map_eq_some_iff.mp done
        cases same
        exact ⟨rfl, rfl⟩

theorem tag_packet_routing (server : Server) (p : Packet) :
    routingTags (tagPacket server p) =
      (if targetEntity server p.socketKey.socket > 0 then
        some ⟨[], targetEntity server p.socketKey.socket⟩ else p.tagKey .entity, p.tagKey .player) := by
  unfold tagPacket
  split
  · rfl
  · rfl

def Traced (socket : Int) (r : Receiving) : Prop :=
  ∀ one ∈ r.decoded, routingTags one.packet = tagsOf one socket

theorem decoded_traced (socketKey : SocketKey) (server : Server) (b : Buffer) (fuel pooled : Nat)
    (outcome : Outcome) (connected : ConnectTags server.tagKey)
    (done : (getTcpPacket fuel pooled ⟨socketKey, server.tagKey⟩ b).outcome = some outcome)
    (one : Decoded) (member : one ∈ decodedOf server b outcome) :
    routingTags one.packet = tagsOf one socketKey.socket := by
  cases outcome with
  | null => cases member
  | closed => cases member
  | packet p =>
      obtain ⟨key, tags⟩ := packet_of_call fuel pooled _ b p done
      obtain ⟨entity, player⟩ :=
        head_tags_routing socketKey server.tagKey connected (headSize b) (head b)
      rw [List.mem_singleton.mp member, tag_packet_routing, tags, key, entity, player]
      unfold tagsOf serverTags
      by_cases short : headSize b = 2
      · simp only [short, if_true]
      · simp only [short, if_false]

theorem step_traced (socketKey : SocketKey) (before : Receiving) (event : Event) (after : Receiving)
    (traced : Traced socketKey.socket before) (step : Step socketKey before event after) :
    Traced socketKey.socket after := by
  cases step with
  | recv bytes some offered => exact fun one member => traced one member
  | fetch server fuel pooled outcome connected done =>
      intro one member
      rcases List.mem_append.mp member with old | new
      · exact traced one old
      · exact decoded_traced socketKey server before.buffer fuel pooled outcome connected done one new

theorem run_traced (socketKey : SocketKey) {trace : List Event} {b : Buffer} {after : Receiving}
    (run : Run (Step socketKey) ⟨b, []⟩ trace after) : Traced socketKey.socket after :=
  run_invariant (Traced socketKey.socket) (step_traced socketKey) run (fun _ member => nomatch member)

/-! One run. -/

theorem tags_of_server_iff (one : Decoded) (socket : Int) :
    tagsOf one socket = serverTags one.server socket ↔ one.headSize = 2 := by
  unfold tagsOf
  constructor
  · intro same
    by_contra long
    rw [if_neg long] at same
    have player := congrArg Prod.snd same
    cases player
  · intro short
    rw [if_pos short]

theorem routed_by_server_iff (socket : Int) (r : Receiving) (traced : Traced socket r) :
    (∀ one ∈ dispatched r.decoded, routingTags one.packet = serverTags one.server socket) ↔
      ∀ one ∈ dispatched r.decoded, one.headSize = 2 := by
  constructor
  · intro served one member
    rw [← tags_of_server_iff one socket, ← traced one (List.mem_of_mem_filter member)]
    exact served one member
  · intro short one member
    rw [traced one (List.mem_of_mem_filter member)]
    exact (tags_of_server_iff one socket).mpr (short one member)

/-! Two runs. -/

theorem tags_agree_iff (socket : Int) (first second : Decoded) (state : first.server = second.server) :
    tagsOf first socket = tagsOf second socket ↔ HeadsAgree socket first second := by
  unfold tagsOf serverTags HeadsAgree
  rw [← state]
  by_cases short : first.headSize = 2
  · by_cases other : second.headSize = 2
    · simp [short, other]
    · simp [short, other]
  · by_cases other : second.headSize = 2
    · simp [short, other]
    · by_cases named : targetEntity first.server socket > 0
      · simp [short, other, named]
      · simp [short, other, named, and_comm]

/-- The two decodings side by side: one message after the other with equal ids,
bodies and server states. -/
def Alike (first second : Decoded) : Prop :=
  first.packet.msgId = second.packet.msgId ∧ first.packet.data = second.packet.data ∧
    first.server = second.server

theorem dispatched_alike {first second : List Decoded} (alike : List.Forall₂ Alike first second) :
    List.Forall₂ Alike (dispatched first) (dispatched second) := by
  induction alike with
  | nil => exact List.Forall₂.nil
  | @cons one other rest others same _ ih =>
      unfold dispatched at ih ⊢
      by_cases ping : one.packet.msgId = .miPing
      · have pingToo : other.packet.msgId = .miPing := same.1 ▸ ping
        rw [List.filter_cons_of_neg (by simp [ping]), List.filter_cons_of_neg (by simp [pingToo])]
        exact ih
      · have notPing : other.packet.msgId ≠ .miPing := fun is => ping (same.1.trans is)
        rw [List.filter_cons_of_pos (by simp [ping]), List.filter_cons_of_pos (by simp [notPing])]
        exact List.Forall₂.cons same ih

theorem agree_iff (socket : Int) {first second : List Decoded}
    (alike : List.Forall₂ Alike first second)
    (one : ∀ decoded ∈ first, routingTags decoded.packet = tagsOf decoded socket)
    (two : ∀ decoded ∈ second, routingTags decoded.packet = tagsOf decoded socket) :
    first.map (fun decoded => routingTags decoded.packet) =
        second.map (fun decoded => routingTags decoded.packet) ↔
      List.Forall₂ (HeadsAgree socket) first second := by
  induction alike with
  | nil => exact ⟨fun _ => List.Forall₂.nil, fun _ => rfl⟩
  | @cons left right lefts rights same _ ih =>
      have rest := ih (fun decoded member => one decoded (List.mem_cons_of_mem _ member))
        (fun decoded member => two decoded (List.mem_cons_of_mem _ member))
      rw [List.map_cons, List.map_cons, List.cons.injEq, List.forall₂_cons, rest,
        one left List.mem_cons_self, two right List.mem_cons_self,
        tags_agree_iff socket left right same.2.2]

/-- Two streams that decode to the same messages in the same states of the
process give their packets the same routing tags exactly when their heads
agree, and a stream's routing tags are the process's own exactly when it has no
S2S head. -/
theorem routing_follows_heads (socketKey : SocketKey) {firstTrace secondTrace : List Event}
    {firstBuffer secondBuffer : Buffer} {first second : Receiving}
    (firstRun : Run (Step socketKey) ⟨firstBuffer, []⟩ firstTrace first)
    (secondRun : Run (Step socketKey) ⟨secondBuffer, []⟩ secondTrace second)
    (alike : List.Forall₂ Alike first.decoded second.decoded) :
    ((dispatched first.decoded).map (fun one => routingTags one.packet) =
        (dispatched second.decoded).map (fun one => routingTags one.packet) ↔
      List.Forall₂ (HeadsAgree socketKey.socket) (dispatched first.decoded)
        (dispatched second.decoded)) ∧
    ((∀ one ∈ dispatched first.decoded,
        routingTags one.packet = serverTags one.server socketKey.socket) ↔
      ∀ one ∈ dispatched first.decoded, one.headSize = 2) := by
  have one := run_traced socketKey firstRun
  have two := run_traced socketKey secondRun
  constructor
  · apply agree_iff socketKey.socket (dispatched_alike alike)
    · exact fun decoded member => one decoded (List.mem_of_mem_filter member)
    · exact fun decoded member => two decoded (List.mem_of_mem_filter member)
  · exact routed_by_server_iff socketKey.socket first one

/-! One message in a client's frame and in an S2S frame. -/

/-- C2G_EnterWorld without a body, and the same for entity 7 and player 9. -/
def shortFrame : List UInt8 := [6, 0, 2, 0, 92, 4]

def longFrame : List UInt8 :=
  [24, 0, 20, 0, 92, 4, 0, 0, 7, 0, 0, 0, 0, 0, 0, 0, 9, 0, 0, 0, 0, 0, 0, 0]

def stranger : Server := ⟨clear, some ∅⟩

def client : SocketKey := ⟨5, .tcpListen⟩

theorem frame_steps (socketKey : SocketKey) (server : Server) (frame : List UInt8) (msgId : MsgId)
    (connected : ConnectTags server.tagKey) (some : frame ≠ []) (offered : frame.length ≤ 131072)
    (whole : ¬ Waits frame) (framed : Framed frame) (known : frameMsgId frame = .some msgId) :
    ∃ b after, Step socketKey ⟨create 131072, []⟩ (.recv frame) ⟨b, []⟩ ∧
      (getTcpPacket 2 10240 ⟨socketKey, server.tagKey⟩ b).outcome =
        .some (.packet (framePacket ⟨socketKey, server.tagKey⟩ msgId frame)) ∧
      Step socketKey ⟨b, []⟩ (.fetch server) ⟨after,
        [⟨tagPacket server (framePacket ⟨socketKey, server.tagKey⟩ msgId frame),
          frameHeadSize frame, frameHead frame, server⟩]⟩ := by
  have steady : Steady (create 131072) :=
    ⟨create_sound _ (by decide), show 131072 < 2147483648 by decide⟩
  have room : ¬ getEmptySize (create 131072) < 24 := by decide
  have space : getWriteSize (create 131072) = 131072 := by decide
  have fits : frame.length ≤ getWriteSize (recvGuard (create 131072)) := by
    rw [recvGuard, if_neg room, space]
    exact offered
  obtain ⟨kept, content⟩ := receive_steady _ frame steady (fun lacks => absurd lacks room) fits
  have received : Step socketKey ⟨create 131072, []⟩ (.recv frame)
      ⟨receive (recvGuard (create 131072)) frame, []⟩ := .recv _ frame some fits
  have empty : contents (create 131072) = [] := rfl
  rw [empty, List.nil_append] at content
  generalize receive (recvGuard (create 131072)) frame = b at kept content received
  have done := frame_outcome ⟨socketKey, server.tagKey⟩ b msgId kept (content.symm ▸ whole)
    (content.symm ▸ framed) (content.symm ▸ known)
  have held := framed.headHeld
  rw [← content, contents_length] at held
  have fetched := Step.fetch ⟨b, []⟩ server 2 10240 _ connected done
  rw [decodedOf, head_size_frame b kept (by omega), (head_frame b kept held).1, List.nil_append,
    content] at fetched
  rw [content] at done
  exact ⟨b, _, received, done, fetched⟩

theorem frame_run (socketKey : SocketKey) (server : Server) (frame : List UInt8) (msgId : MsgId)
    (connected : ConnectTags server.tagKey) (some : frame ≠ []) (offered : frame.length ≤ 131072)
    (whole : ¬ Waits frame) (framed : Framed frame) (known : frameMsgId frame = .some msgId) :
    ∃ after, Run (Step socketKey) ⟨create 131072, []⟩ [.recv frame, .fetch server] ⟨after,
      [⟨tagPacket server (framePacket ⟨socketKey, server.tagKey⟩ msgId frame),
        frameHeadSize frame, frameHead frame, server⟩]⟩ := by
  obtain ⟨b, after, received, _, fetched⟩ :=
    frame_steps socketKey server frame msgId connected some offered whole framed known
  exact ⟨after, Run.next received (Run.next fetched (Run.refl _))⟩

theorem short_run : ∃ after, Run (Step client) ⟨create 131072, []⟩
    [.recv shortFrame, .fetch stranger] ⟨after,
      [⟨tagPacket stranger (framePacket ⟨client, clear⟩ .c2gEnterWorld shortFrame), 2, [92, 4],
        stranger⟩]⟩ :=
  frame_run client stranger shortFrame .c2gEnterWorld ConnectTags.accepted (by decide) (by decide)
    (by decide) ⟨by decide, by decide⟩ (by decide)

theorem long_run : ∃ after, Run (Step client) ⟨create 131072, []⟩
    [.recv longFrame, .fetch stranger] ⟨after,
      [⟨tagPacket stranger (framePacket ⟨client, clear⟩ .c2gEnterWorld longFrame), 20,
        longFrame.drop 4, stranger⟩]⟩ :=
  frame_run client stranger longFrame .c2gEnterWorld ConnectTags.accepted (by decide) (by decide)
    (by decide) ⟨by decide, by decide⟩ (by decide)

theorem routing_follows_heads_entering :
    ∃ r, Run (Step client) ⟨create 131072, []⟩ [.recv shortFrame, .fetch stranger] r ∧
      r.decoded.length = 1 ∧
      ∀ one ∈ dispatched r.decoded, routingTags one.packet = serverTags one.server client.socket := by
  obtain ⟨after, run⟩ := short_run
  refine ⟨_, run, rfl, (routing_follows_heads client run run ?_).2.mpr ?_⟩
  · exact List.Forall₂.cons ⟨rfl, rfl, rfl⟩ List.Forall₂.nil
  · intro one member
    rw [List.mem_singleton.mp (List.mem_of_mem_filter member)]

/-- One message in the two frames: in the S2S frame it is routed to entity 7 as
player 9, as the client says. -/
theorem long_head_chooses_routing :
    ∃ first second, Run (Step client) ⟨create 131072, []⟩ [.recv shortFrame, .fetch stranger] first ∧
      Run (Step client) ⟨create 131072, []⟩ [.recv longFrame, .fetch stranger] second ∧
      List.Forall₂ Alike first.decoded second.decoded ∧
      (dispatched first.decoded).map (fun one => routingTags one.packet) ≠
        (dispatched second.decoded).map (fun one => routingTags one.packet) := by
  obtain ⟨after, run⟩ := short_run
  obtain ⟨later, longRun⟩ := long_run
  refine ⟨_, _, run, longRun, List.Forall₂.cons ⟨rfl, rfl, rfl⟩ List.Forall₂.nil, ?_⟩
  intro same
  have chosen : [(none, none)] = [(some (TagValue.mk [] 7), some (TagValue.mk [] 9))] := same
  cases chosen

end GameBook.ConnectRecv
