import GameBook.CacheSwap
import GameBook.ConnectRecv
import GameBook.NetworkConnects
import GameBook.Relays
import GameBook.TcpLink
import GameBook.ThreadDispatch

/-!
The way of a packet from one process to a thread of another: the send list of
a `Network`, the bytes of one connection, `ConnectObj::Recv`, the list of
`ThreadMgr` and the list of the thread's message system. Each list has its own
consumer, and all of them work at the same time.
-/

namespace GameBook.PacketPath

open CacheSwap ConnectRecv LabelledRun NetworkBuffer OrderedMap ProtoId Relays SocketObject TcpFraming
  TcpLink

/-- A packet in the process that receives. `received` tells those of the
connection from those that others hand on; nothing reads it. -/
structure Parcel where
  packet : Packet
  received : Bool

/-- `tags` and `servers` are the tags that the sending end of the connection,
and what the receiving end saw of its process, have been so far. -/
structure Path where
  sendList : Watched Packet
  sendTags : TagKey
  tags : List TagKey
  link : Link
  server : Server
  servers : List Server
  packets : Watched Parcel
  collectors : ThreadDispatch.Collectors
  distributing : Option (List ThreadDispatch.Target)
  systems : ThreadDispatch.Target → Watched Parcel

/-- The descriptor of the connection at its sending end, the type of its
network there, and its socket key at the other end. -/
structure Connection where
  socket : Int
  networkType : NetworkType
  receiver : SocketKey

def sender (conn : Connection) : Owner Packet :=
  network (fun p => p.socketKey.netType) conn.networkType

/-- `OnNetworkUpdate` gives a packet to the connection with its descriptor,
unless their tags tell them apart. -/
def passes (conn : Connection) (tags : TagKey) (p : Packet) : Bool :=
  p.socketKey.socket = conn.socket ∧ NetworkConnects.compareTags tags p.tagKey = true

/-- What `Recv` dispatches of the packets that `GetPacket` returned. -/
def passedOn (server : Server) (fetched : List Packet) : List Parcel :=
  ((fetched.map (tagPacket server)).filter fun p => p.msgId ≠ .miPing).map fun p => ⟨p, true⟩

def put (owner : Owner Parcel) (list : Watched Parcel) (parcel : Parcel) : Watched Parcel :=
  record owner list (enqueue owner list.queue parcel) (.enqueue parcel)

/-- The steps of a list that are those of any list: a packet of others is put
in, or the consumer begins and ends its loop. -/
def Plain : Act Parcel → Prop
  | .enqueue parcel => parcel.received = false
  | .beginDrain => True
  | .clear => True
  | _ => False

def Local : Act Parcel → Prop
  | .enqueue parcel => parcel.received = false
  | _ => True

inductive Label where
  | network (act : Act Packet)
  | write
  | tag (tags : TagKey)
  | bytes (label : LinkLabel)
  | server (server : Server)
  | recv
  | threadMgr (act : Act Parcel)
  | distribute (parcel : Parcel)
  | addPacketToList
  | openRef
  | system (target : ThreadDispatch.Target) (act : Act Parcel)

def step (conn : Connection) (before : Path) (label : Label) (after : Path) : Prop :=
  match label with
  | .network act =>
      act ≠ .next ∧
      ∃ list, WatchedStep (sender conn) before.sendList act list ∧
        after = { before with sendList := list }
  | .write =>
      ∃ p list, inBody before.sendList.queue = some p ∧
        WatchedStep (sender conn) before.sendList .next list ∧
        if passes conn before.sendTags p then
          ∃ link, Guarded (linkStep ⟨conn.receiver, before.server.tagKey⟩) Sized before.link (.add p) link ∧
            after = { before with sendList := list, link := link }
        else after = { before with sendList := list }
  | .tag tags => after = { before with sendTags := tags, tags := before.tags ++ [tags] }
  | .bytes label =>
      (∀ p, label ≠ .add p) ∧ label ≠ .fetch ∧
      ∃ link, Guarded (linkStep ⟨conn.receiver, before.server.tagKey⟩) Sized before.link label link ∧
        after = { before with link := link }
  | .server server =>
      ConnectTags server.tagKey ∧
        after = { before with server := server, servers := before.servers ++ [server] }
  | .recv =>
      ∃ link fetched,
        Guarded (linkStep ⟨conn.receiver, before.server.tagKey⟩) Sized before.link .fetch link ∧
        link.fetched = before.link.fetched ++ fetched ∧
        after = { before with
          link := link
          packets := (passedOn before.server fetched).foldl (put threadMgr) before.packets }
  | .threadMgr act =>
      Plain act ∧ ∃ list, WatchedStep threadMgr before.packets act list ∧
        after = { before with packets := list }
  | .distribute parcel =>
      ∃ list targets collectors, WatchedStep threadMgr before.packets (.handOver parcel) list ∧
        ThreadDispatch.targetsOf before.collectors (.dispatched parcel.packet.msgId) =
          some (targets, collectors) ∧
        after = { before with
          packets := list, collectors := collectors, distributing := some targets }
  | .addPacketToList =>
      ∃ target rest parcel, before.distributing = some (target :: rest) ∧
        inBody before.packets.queue = some parcel ∧
        after = { before with
          distributing := some rest
          systems := Function.update before.systems target
            (put messageSystem (before.systems target) parcel) }
  | .openRef =>
      ∃ list, before.distributing = some [] ∧ WatchedStep threadMgr before.packets .next list ∧
        after = { before with packets := list, distributing := none }
  | .system target act =>
      Local act ∧ ∃ list, WatchedStep messageSystem (before.systems target) act list ∧
        after = { before with systems := Function.update before.systems target list }

structure Idle (conn : Connection) (config : Table Nat ThreadDispatch.Threads) (path : Path) : Prop where
  sendList : path.sendList = watchNew
  tags : path.tags = [path.sendTags]
  link : EmptyLink path.link
  sent : IntSized path.link.sent
  recv : IntSized path.link.recv
  connected : ConnectTags path.server.tagKey
  servers : path.servers = [path.server]
  packets : path.packets = watchNew
  collectors : path.collectors = (ThreadDispatch.start config).collectors
  distributing : path.distributing = none
  systems : ∀ target, path.systems target = watchNew

/-! ### What is asked of a run -/

/-- The lists that get every packet: all but those of the exclusive collector. -/
inductive Everywhere (config : Table Nat ThreadDispatch.Threads) : ThreadDispatch.Target → Prop where
  | main : Everywhere config .main
  | thread (threadType sn : Nat) (threads : ThreadDispatch.Threads) :
      config[threadType]? = some threads → sn ∈ threads.sns →
      threadType ≠ ThreadDispatch.mysqlThread → Everywhere config (.thread threadType sn)

def items {Item : Type} (list : List (Item × Nat)) : List Item := list.map Prod.fst

def own (list : List (Parcel × Nat)) : List Packet := ((items list).filter Parcel.received).map Parcel.packet

/-- What becomes of a packet given to `Network::SendPacket`: another connection
has its descriptor, tags told it apart from this one, it was a ping; or it
arrives, tagged by the process that receives it. -/
inductive Reaches (conn : Connection) (tags : List TagKey) (servers : List Server) (sent : Packet) :
    Option Packet → Prop where
  | elsewhere : sent.socketKey.socket ≠ conn.socket → Reaches conn tags servers sent none
  | toldApart (tag : TagKey) : tag ∈ tags → NetworkConnects.compareTags tag sent.tagKey = false →
      Reaches conn tags servers sent none
  | ping : sent.msgId = .miPing → Reaches conn tags servers sent none
  | arrives (received : Packet) (server : Server) : SamePacket sent received → server ∈ servers →
      Reaches conn tags servers sent (some (tagPacket server received))

structure Settled (conn : Connection) (path : Path) (target : ThreadDispatch.Target) : Prop where
  sendList : holding path.sendList.queue = []
  sent : contents path.link.sent = []
  wire : path.link.wire = []
  recv : ∃ fuel pooled, (getTcpPacket fuel pooled ⟨conn.receiver, path.server.tagKey⟩ path.link.recv).outcome =
    some .null
  packets : holding path.packets.queue = []
  system : pending (path.systems target).queue = []

/-- From the send list to the send buffer. -/
inductive Written (conn : Connection) (tags : List TagKey) (p : Packet) : Option Packet → Prop where
  | elsewhere : p.socketKey.socket ≠ conn.socket → Written conn tags p none
  | toldApart (tag : TagKey) : tag ∈ tags → NetworkConnects.compareTags tag p.tagKey = false →
      Written conn tags p none
  | added : Written conn tags p (some p)

/-- From the send buffer to the receive buffer and out of it. -/
def Fetched (p : Packet) (received : Option Packet) : Prop := ∃ same, SamePacket p same ∧ received = some same

/-- From `GetPacket` to the list of `ThreadMgr`. -/
def PassedOn (servers : List Server) (p : Packet) (passed : Option Packet) : Prop :=
  ∃ server ∈ servers, passed = if p.msgId = .miPing then none else some (tagPacket server p)

theorem tag_packet_msg_id (server : Server) (p : Packet) : (tagPacket server p).msgId = p.msgId := by
  unfold tagPacket
  split <;> rfl

theorem reaches_of_stages (conn : Connection) (tags : List TagKey) (servers : List Server) (p : Packet)
    (out : Option Packet)
    (turned : Then (Then (Written conn tags) Fetched) (PassedOn servers) p out) :
    Reaches conn tags servers p out := by
  obtain ⟨fetched, ⟨written, first, second⟩, third⟩ := turned
  cases first with
  | elsewhere apart =>
      subst second
      subst third
      exact .elsewhere apart
  | toldApart tag had different =>
      subst second
      subst third
      exact .toldApart tag had different
  | added =>
      obtain ⟨same, samePacket, rfl⟩ := second
      obtain ⟨server, seen, rfl⟩ := third
      split
      · rename_i isPing
        exact .ping (samePacket.msgId ▸ isPing)
      · exact .arrives same server samePacket seen

theorem watched_step {Item : Type} {owner : Owner Item} {before after : Watched Item} {act : Act Item}
    (taken : WatchedStep owner before act after) :
    ∃ queue, QueueStep owner before.queue act queue ∧ after = record owner before queue act := by
  cases taken with
  | take queue moved => exact ⟨queue, moved, rfl⟩

def Handled {Item : Type} (list : Watched Item) (done : List Item) : Prop :=
  items list.handed = done ++ (inBody list.queue).toList

theorem handled_kept {Item : Type} {owner : Owner Item} {before after : Watched Item} {act : Act Item}
    {done : List Item} (watching : Watching before) (taken : WatchedStep owner before act after)
    (inside : act ≠ .next) (handled : Handled before done) : Handled after done := by
  obtain ⟨queue, moved, rfl⟩ := watched_step taken
  have body := step_body owner _ _ _ watching.formed moved
  cases act with
  | enqueue item =>
      have same : inBody queue = inBody before.queue := body
      simpa [Handled, record, same] using handled
  | beginDrain =>
      have both : inBody before.queue = none ∧ inBody queue = none := body
      simpa [Handled, record, both.1, both.2] using handled
  | handOver item =>
      have both : inBody before.queue = none ∧ inBody queue = some item := body
      simp only [Handled, both.1, Option.toList_none, List.append_nil] at handled
      simp [Handled, record, items, both.2, ← handled]
  | next => exact absurd rfl inside
  | clear =>
      have both : inBody before.queue = none ∧ inBody queue = none := body
      simpa [Handled, record, both.1, both.2] using handled

theorem handled_next {Item : Type} {owner : Owner Item} {before after : Watched Item} {item : Item}
    {done : List Item} (watching : Watching before) (taken : WatchedStep owner before .next after)
    (work : inBody before.queue = some item) (handled : Handled before done) :
    Handled after (done ++ [item]) := by
  obtain ⟨queue, moved, rfl⟩ := watched_step taken
  have body : (∃ item, inBody before.queue = some item) ∧ inBody queue = none :=
    step_body owner _ _ _ watching.formed moved
  simp only [Handled, work, Option.toList_some] at handled
  simp [Handled, record, items, body.2, ← handled]

structure Sending (conn : Connection) (path : Path) : Prop where
  watching : Watching path.sendList
  tagged : path.sendTags ∈ path.tags
  written : ∃ done, Handled path.sendList done ∧ Carried (Written conn path.tags) done path.link.added

theorem link_added {conn : NetIdentify} {before after : Link} {label : LinkLabel}
    (taken : linkStep conn before label after) (other : ∀ p, label ≠ .add p) :
    after.added = before.added := by
  cases label with
  | add p => exact absurd rfl (other p)
  | send count =>
      obtain ⟨-, -, rfl⟩ := taken
      rfl
  | receive count =>
      obtain ⟨-, -, -, rfl⟩ := taken
      rfl
  | fetch =>
      obtain ⟨fuel, pooled, outcome, -, -, rfl⟩ := taken
      rfl

theorem link_fetched {conn : NetIdentify} {before after : Link} {label : LinkLabel}
    (taken : linkStep conn before label after) (other : label ≠ .fetch) :
    after.fetched = before.fetched := by
  cases label with
  | add p =>
      obtain ⟨-, fuel, buffer, -, rfl⟩ := taken
      rfl
  | send count =>
      obtain ⟨-, -, rfl⟩ := taken
      rfl
  | receive count =>
      obtain ⟨-, -, -, rfl⟩ := taken
      rfl
  | fetch => exact absurd rfl other

theorem written_mono {conn : Connection} {tags more : List TagKey} (grown : tags ⊆ more) (p : Packet)
    (out : Option Packet) (written : Written conn tags p out) : Written conn more p out := by
  cases written with
  | elsewhere apart => exact .elsewhere apart
  | toldApart tag had different => exact .toldApart tag (grown had) different
  | added => exact .added

theorem written_of_refused (conn : Connection) (tags : List TagKey) (tag : TagKey) (p : Packet)
    (had : tag ∈ tags) (refused : ¬ passes conn tag p = true) : Written conn tags p none := by
  by_cases here : p.socketKey.socket = conn.socket
  · refine .toldApart tag had ?_
    simpa [passes, here] using refused
  · exact .elsewhere here

theorem step_sending (conn : Connection) (before : Path) (label : Label) (after : Path)
    (sending : Sending conn before) (taken : step conn before label after) : Sending conn after := by
  obtain ⟨watching, tagged, done, handled, carried⟩ := sending
  cases label with
  | network act =>
      obtain ⟨inside, list, moved, rfl⟩ := taken
      exact ⟨step_watching _ _ _ _ watching moved, tagged, done,
        handled_kept watching moved inside handled, carried⟩
  | write =>
      obtain ⟨p, list, work, moved, given⟩ := taken
      have next := handled_next watching moved work handled
      have kept := step_watching _ _ _ _ watching moved
      split at given
      · obtain ⟨link, ⟨added, -⟩, rfl⟩ := given
        have grown : link.added = before.link.added ++ [p] := by
          obtain ⟨-, fuel, buffer, -, rfl⟩ := added
          rfl
        refine ⟨kept, tagged, _, next, ?_⟩
        dsimp only
        rw [grown]
        exact carried_append carried (carried_one Written.added)
      · rename_i refused
        subst given
        refine ⟨kept, tagged, _, next, ?_⟩
        have dropped := written_of_refused conn before.tags before.sendTags p tagged refused
        simpa using carried_append carried (carried_one dropped)
  | tag tags =>
      obtain rfl := taken
      refine ⟨watching, by simp, done, handled, ?_⟩
      exact carried_mono (written_mono (List.subset_append_left _ _)) carried
  | bytes label =>
      obtain ⟨other, -, link, ⟨moved, -⟩, rfl⟩ := taken
      refine ⟨watching, tagged, done, handled, ?_⟩
      dsimp only
      rwa [link_added moved other]
  | server server =>
      obtain ⟨-, rfl⟩ := taken
      exact ⟨watching, tagged, done, handled, carried⟩
  | recv =>
      obtain ⟨link, fetched, ⟨moved, -⟩, -, rfl⟩ := taken
      refine ⟨watching, tagged, done, handled, ?_⟩
      dsimp only
      rwa [link_added moved (by simp)]
  | threadMgr act =>
      obtain ⟨-, list, -, rfl⟩ := taken
      exact ⟨watching, tagged, done, handled, carried⟩
  | distribute parcel =>
      obtain ⟨list, targets, collectors, -, -, rfl⟩ := taken
      exact ⟨watching, tagged, done, handled, carried⟩
  | addPacketToList =>
      obtain ⟨target, rest, parcel, -, -, rfl⟩ := taken
      exact ⟨watching, tagged, done, handled, carried⟩
  | openRef =>
      obtain ⟨list, -, -, rfl⟩ := taken
      exact ⟨watching, tagged, done, handled, carried⟩
  | system target act =>
      obtain ⟨-, list, -, rfl⟩ := taken
      exact ⟨watching, tagged, done, handled, carried⟩

/-! ### The connection and what `Recv` dispatches -/

theorem own_append (first second : List (Parcel × Nat)) : own (first ++ second) = own first ++ own second := by
  simp [own, items]

def Open (owner : Owner Parcel) : Prop := ∀ parcel, owner.accepts parcel = true

theorem put_enqueued {owner : Owner Parcel} (takesAll : Open owner) (list : Watched Parcel)
    (parcel : Parcel) :
    own (put owner list parcel).enqueued =
      own list.enqueued ++ if parcel.received then [parcel.packet] else [] := by
  have accepted : (put owner list parcel).enqueued = list.enqueued ++ [(parcel, list.drains)] := by
    simp [put, record, takesAll parcel]
  rw [accepted, own_append]
  cases here : parcel.received <;> simp [own, items, here]

theorem put_watching (owner : Owner Parcel) (list : Watched Parcel) (parcel : Parcel)
    (watching : Watching list) : Watching (put owner list parcel) :=
  step_watching owner list (put owner list parcel) (.enqueue parcel) watching
    (.take _ _ _ (.enqueue _ parcel))

@[simp] theorem put_handed (owner : Owner Parcel) (list : Watched Parcel) (parcel : Parcel) :
    (put owner list parcel).handed = list.handed := rfl

theorem put_in_body {owner : Owner Parcel} (list : Watched Parcel) (parcel : Parcel)
    (watching : Watching list) : inBody (put owner list parcel).queue = inBody list.queue :=
  step_body owner list.queue _ (.enqueue parcel) watching.formed (.enqueue _ parcel)

theorem open_thread_mgr : Open threadMgr := fun _ => rfl

theorem open_message_system : Open messageSystem := fun _ => rfl

theorem put_each {owner : Owner Parcel} (takesAll : Open owner) (parcels : List Parcel)
    (list : Watched Parcel) (watching : Watching list) (mine : ∀ parcel ∈ parcels, parcel.received = true) :
    Watching (parcels.foldl (put owner) list) ∧
      own (parcels.foldl (put owner) list).enqueued = own list.enqueued ++ parcels.map Parcel.packet ∧
      (parcels.foldl (put owner) list).handed = list.handed ∧
      inBody (parcels.foldl (put owner) list).queue = inBody list.queue := by
  induction parcels generalizing list with
  | nil => exact ⟨watching, by simp, rfl, rfl⟩
  | cons parcel rest ih =>
      have kept := put_watching owner list parcel watching
      obtain ⟨stays, grown, handed, body⟩ :=
        ih (put owner list parcel) kept (fun other member => mine other (List.mem_cons_of_mem _ member))
      have here := mine parcel List.mem_cons_self
      refine ⟨stays, ?_, handed, body.trans (put_in_body list parcel watching)⟩
      rw [List.foldl_cons, grown, put_enqueued takesAll, here]
      simp

theorem passed_on_carried (servers : List Server) (server : Server) (seen : server ∈ servers)
    (fetched : List Packet) :
    Carried (PassedOn servers) fetched ((passedOn server fetched).map Parcel.packet) := by
  induction fetched with
  | nil => exact carried_nil
  | cons p rest ih =>
      have one : PassedOn servers p (if p.msgId = .miPing then none else some (tagPacket server p)) :=
        ⟨server, seen, rfl⟩
      have both := carried_append (carried_one one) ih
      have message := tag_packet_msg_id server p
      by_cases isPing : p.msgId = .miPing
      · simpa [passedOn, message, isPing] using both
      · simpa [passedOn, message, isPing] using both

structure Receiving (path : Path) : Prop where
  link : LinkInv path.link
  connected : ConnectTags path.server.tagKey
  seen : path.server ∈ path.servers
  watching : Watching path.packets
  passed : Carried (PassedOn path.servers) path.link.fetched (own path.packets.enqueued)

theorem own_kept {owner : Owner Parcel} {before after : Watched Parcel} {act : Act Parcel}
    (taken : WatchedStep owner before act after)
    (foreign : ∀ parcel, act = .enqueue parcel → parcel.received = false) :
    own after.enqueued = own before.enqueued := by
  obtain ⟨queue, moved, rfl⟩ := watched_step taken
  cases act with
  | enqueue parcel =>
      have notMine := foreign parcel rfl
      simp only [record, own_append]
      split <;> simp [own, items, notMine]
  | beginDrain => rfl
  | handOver parcel => rfl
  | next => rfl
  | clear => rfl

theorem plain_foreign {act : Act Parcel} (plain : Plain act) (parcel : Parcel)
    (same : act = .enqueue parcel) : parcel.received = false := by
  subst same
  exact plain

theorem local_foreign {act : Act Parcel} (own : Local act) (parcel : Parcel)
    (same : act = .enqueue parcel) : parcel.received = false := by
  subst same
  exact own

theorem passed_mono {servers more : List Server} (grown : servers ⊆ more) (p : Packet)
    (out : Option Packet) (passed : PassedOn servers p out) : PassedOn more p out := by
  obtain ⟨server, seen, same⟩ := passed
  exact ⟨server, grown seen, same⟩

theorem step_receiving (conn : Connection) (before : Path) (label : Label) (after : Path)
    (receiving : Receiving before) (taken : step conn before label after) : Receiving after := by
  obtain ⟨link, connected, seen, watching, passed⟩ := receiving
  cases label with
  | network act =>
      obtain ⟨-, list, -, rfl⟩ := taken
      exact ⟨link, connected, seen, watching, passed⟩
  | write =>
      obtain ⟨p, list, -, -, given⟩ := taken
      split at given
      · obtain ⟨next, added, rfl⟩ := given
        refine ⟨link_step_inv _ connected _ _ _ link added, connected, seen, watching, ?_⟩
        dsimp only
        rwa [link_fetched added.1 (by simp)]
      · subst given
        exact ⟨link, connected, seen, watching, passed⟩
  | tag tags =>
      obtain rfl := taken
      exact ⟨link, connected, seen, watching, passed⟩
  | bytes label =>
      obtain ⟨-, other, next, moved, rfl⟩ := taken
      refine ⟨link_step_inv _ connected _ _ _ link moved, connected, seen, watching, ?_⟩
      dsimp only
      rwa [link_fetched moved.1 other]
  | server server =>
      obtain ⟨tagged, rfl⟩ := taken
      refine ⟨link, tagged, by simp, watching, ?_⟩
      exact carried_mono (passed_mono (List.subset_append_left _ _)) passed
  | recv =>
      obtain ⟨next, fetched, moved, grown, rfl⟩ := taken
      have mine : ∀ parcel ∈ passedOn before.server fetched, parcel.received = true := by
        intro parcel member
        obtain ⟨p, -, rfl⟩ := List.mem_map.mp member
        rfl
      obtain ⟨stays, joined, -, -⟩ := put_each open_thread_mgr _ before.packets watching mine
      refine ⟨link_step_inv _ connected _ _ _ link moved, connected, seen, stays, ?_⟩
      dsimp only
      rw [grown, joined]
      exact carried_append passed (passed_on_carried before.servers before.server seen fetched)
  | threadMgr act =>
      obtain ⟨plain, list, moved, rfl⟩ := taken
      refine ⟨link, connected, seen, step_watching _ _ _ _ watching moved, ?_⟩
      dsimp only
      rwa [own_kept moved (plain_foreign plain)]
  | distribute parcel =>
      obtain ⟨list, targets, collectors, moved, -, rfl⟩ := taken
      refine ⟨link, connected, seen, step_watching _ _ _ _ watching moved, ?_⟩
      dsimp only
      rwa [own_kept moved (by simp)]
  | addPacketToList =>
      obtain ⟨target, rest, parcel, -, -, rfl⟩ := taken
      exact ⟨link, connected, seen, watching, passed⟩
  | openRef =>
      obtain ⟨list, -, moved, rfl⟩ := taken
      refine ⟨link, connected, seen, step_watching _ _ _ _ watching moved, ?_⟩
      dsimp only
      rwa [own_kept moved (by simp)]
  | system target act =>
      obtain ⟨-, list, -, rfl⟩ := taken
      exact ⟨link, connected, seen, watching, passed⟩

/-! ### The lists of the threads -/

/-- The packet the loop of `UpdateDispatchPacket` stands at, where it is of the
connection and the target has not got it yet. -/
def outstanding (target : ThreadDispatch.Target) (path : Path) : List Packet :=
  match path.distributing with
  | some targets =>
      if target ∈ targets then
        ((inBody path.packets.queue).toList.filter Parcel.received).map Parcel.packet
      else []
  | none => []

structure Sharing (config : Table Nat ThreadDispatch.Threads) (target : ThreadDispatch.Target)
    (path : Path) : Prop where
  watching : Watching path.packets
  threads : ThreadDispatch.SameThreads config path.collectors
  inLoop : path.distributing = none ↔ inBody path.packets.queue = none
  once : ∀ targets, path.distributing = some targets → targets.count target ≤ 1
  system : Watching (path.systems target)
  shared : own path.packets.handed = own (path.systems target).enqueued ++ outstanding target path

theorem count_everywhere {config : Table Nat ThreadDispatch.Threads}
    {collectors next : ThreadDispatch.Collectors} {target : ThreadDispatch.Target} {msgId : MsgId}
    {targets : List ThreadDispatch.Target} (same : ThreadDispatch.SameThreads config collectors)
    (everywhere : Everywhere config target)
    (given : ThreadDispatch.targetsOf collectors (.dispatched msgId) = some (targets, next)) :
    targets.count target = 1 ∧ ThreadDispatch.SameThreads config next := by
  obtain ⟨fans, moved⟩ := ThreadDispatch.targets_of_spec same given
  constructor
  · cases everywhere with
    | main => exact fans.1
    | thread threadType sn threads configured member ordinary =>
        have counted := fans.2.2 threadType threads configured
        rw [if_neg (fun exclusive => ordinary exclusive.1)] at counted
        exact counted sn member
  · intro threadType
    rw [moved.threads threadType, same threadType]

theorem plain_kept {owner : Owner Parcel} {before after : Watched Parcel} {act : Act Parcel}
    (watching : Watching before) (taken : WatchedStep owner before act after) (plain : Plain act) :
    inBody after.queue = inBody before.queue ∧ after.handed = before.handed := by
  obtain ⟨queue, moved, rfl⟩ := watched_step taken
  have body := step_body owner _ _ _ watching.formed moved
  cases act with
  | enqueue parcel => exact ⟨body, rfl⟩
  | beginDrain =>
      have both : inBody before.queue = none ∧ inBody queue = none := body
      exact ⟨both.2.trans both.1.symm, rfl⟩
  | handOver parcel => exact plain.elim
  | next => exact plain.elim
  | clear =>
      have both : inBody before.queue = none ∧ inBody queue = none := body
      exact ⟨both.2.trans both.1.symm, rfl⟩

theorem sharing_distributed {config : Table Nat ThreadDispatch.Threads} {target : ThreadDispatch.Target}
    {before : Path} {parcel : Parcel} {list : Watched Parcel}
    {targets : List ThreadDispatch.Target} {collectors : ThreadDispatch.Collectors}
    (everywhere : Everywhere config target) (sharing : Sharing config target before)
    (moved : WatchedStep threadMgr before.packets (.handOver parcel) list)
    (given : ThreadDispatch.targetsOf before.collectors (.dispatched parcel.packet.msgId) =
      some (targets, collectors)) :
    Sharing config target { before with
      packets := list, collectors := collectors, distributing := some targets } := by
  obtain ⟨watching, threads, inLoop, once, system, shared⟩ := sharing
  obtain ⟨counted, kept⟩ := count_everywhere threads everywhere given
  have member : target ∈ targets := List.count_pos_iff.mp (by omega)
  have stays := step_watching _ _ _ _ watching moved
  obtain ⟨queue, inside, rfl⟩ := watched_step moved
  obtain ⟨outside, body⟩ : inBody before.packets.queue = none ∧ inBody queue = some parcel :=
    step_body threadMgr _ _ _ watching.formed inside
  have idle := inLoop.mpr outside
  refine ⟨stays, kept, ?_, ?_, system, ?_⟩
  · simp [record, body]
  · intro others there
    obtain rfl : targets = others := Option.some.inj there
    exact counted.le
  · have nothing : outstanding target before = [] := by simp [outstanding, idle]
    rw [nothing, List.append_nil] at shared
    simp only [record, own_append, shared, outstanding, body, if_pos member]
    rfl

theorem sharing_put {config : Table Nat ThreadDispatch.Threads} {target given : ThreadDispatch.Target}
    {before : Path} {rest : List ThreadDispatch.Target} {parcel : Parcel}
    (sharing : Sharing config target before) (left : before.distributing = some (given :: rest))
    (work : inBody before.packets.queue = some parcel) :
    Sharing config target { before with
      distributing := some rest
      systems := Function.update before.systems given
        (put messageSystem (before.systems given) parcel) } := by
  obtain ⟨watching, threads, inLoop, once, system, shared⟩ := sharing
  have counted := once _ left
  have loop : some rest = none ↔ inBody before.packets.queue = none := by simp [work]
  by_cases same : given = target
  · subst same
    rw [List.count_cons_self] at counted
    have gone : given ∉ rest := List.count_eq_zero.mp (by omega)
    refine ⟨watching, threads, loop, ?_, ?_, ?_⟩
    · intro others there
      obtain rfl : rest = others := Option.some.inj there
      omega
    · simpa using put_watching messageSystem _ parcel system
    · have before : outstanding given before = if parcel.received then [parcel.packet] else [] := by
        simp only [outstanding, left, List.mem_cons_self, if_true, work, Option.toList_some]
        cases here : parcel.received <;> simp [here]
      simp only [outstanding, if_neg gone, Function.update_self, List.append_nil]
      rw [shared, put_enqueued open_message_system, before]
  · rw [List.count_cons_of_ne same] at counted
    have elsewhere := Function.update_of_ne (Ne.symm same)
      (put messageSystem (before.systems given) parcel) before.systems
    refine ⟨watching, threads, loop, ?_, ?_, ?_⟩
    · intro others there
      obtain rfl : rest = others := Option.some.inj there
      exact counted
    · simpa only [elsewhere] using system
    · have kept : target ∈ given :: rest ↔ target ∈ rest := by
        simp [List.mem_cons, Ne.symm same]
      simp only [outstanding, left, kept] at shared
      simpa only [outstanding, elsewhere] using shared

theorem step_sharing (conn : Connection) (config : Table Nat ThreadDispatch.Threads)
    (target : ThreadDispatch.Target) (everywhere : Everywhere config target) (before : Path)
    (label : Label) (after : Path) (sharing : Sharing config target before)
    (taken : step conn before label after) : Sharing config target after := by
  obtain ⟨watching, threads, inLoop, once, system, shared⟩ := sharing
  have whole : Sharing config target before := ⟨watching, threads, inLoop, once, system, shared⟩
  cases label with
  | network act =>
      obtain ⟨-, list, -, rfl⟩ := taken
      exact ⟨watching, threads, inLoop, once, system, shared⟩
  | write =>
      obtain ⟨p, list, -, -, given⟩ := taken
      split at given
      · obtain ⟨next, -, rfl⟩ := given
        exact ⟨watching, threads, inLoop, once, system, shared⟩
      · subst given
        exact ⟨watching, threads, inLoop, once, system, shared⟩
  | tag tags =>
      obtain rfl := taken
      exact ⟨watching, threads, inLoop, once, system, shared⟩
  | bytes label =>
      obtain ⟨-, -, next, -, rfl⟩ := taken
      exact ⟨watching, threads, inLoop, once, system, shared⟩
  | server server =>
      obtain ⟨-, rfl⟩ := taken
      exact ⟨watching, threads, inLoop, once, system, shared⟩
  | recv =>
      obtain ⟨next, fetched, -, -, rfl⟩ := taken
      have mine : ∀ parcel ∈ passedOn before.server fetched, parcel.received = true := by
        intro parcel member
        obtain ⟨p, -, rfl⟩ := List.mem_map.mp member
        rfl
      obtain ⟨stays, -, handed, body⟩ := put_each open_thread_mgr _ before.packets watching mine
      refine ⟨stays, threads, by rw [body]; exact inLoop, once, system, ?_⟩
      simpa only [handed, outstanding, body] using shared
  | threadMgr act =>
      obtain ⟨plain, list, moved, rfl⟩ := taken
      obtain ⟨body, handed⟩ := plain_kept watching moved plain
      refine ⟨step_watching _ _ _ _ watching moved, threads, by rw [body]; exact inLoop, once, system, ?_⟩
      simpa only [handed, outstanding, body] using shared
  | distribute parcel =>
      obtain ⟨list, targets, collectors, moved, given, rfl⟩ := taken
      exact sharing_distributed everywhere whole moved given
  | addPacketToList =>
      obtain ⟨given, rest, parcel, left, work, rfl⟩ := taken
      exact sharing_put whole left work
  | openRef =>
      obtain ⟨list, left, moved, rfl⟩ := taken
      have stays := step_watching _ _ _ _ watching moved
      obtain ⟨queue, inside, rfl⟩ := watched_step moved
      have body : (∃ item, inBody before.packets.queue = some item) ∧ inBody queue = none :=
        step_body threadMgr _ _ _ watching.formed inside
      refine ⟨stays, threads, by simp [record, body.2], by simp, system, ?_⟩
      simpa [outstanding, left, record] using shared
  | system given act =>
      obtain ⟨foreign, list, moved, rfl⟩ := taken
      by_cases same : given = target
      · subst same
        refine ⟨watching, threads, inLoop, once, ?_, ?_⟩
        · simpa using step_watching _ _ _ _ system moved
        · simpa only [outstanding, Function.update_self, own_kept moved (local_foreign foreign)]
            using shared
      · have elsewhere := Function.update_of_ne (Ne.symm same) list before.systems
        refine ⟨watching, threads, inLoop, once, ?_, ?_⟩
        · simpa only [elsewhere] using system
        · simpa only [outstanding, elsewhere] using shared

theorem idle_sending {conn : Connection} {config : Table Nat ThreadDispatch.Threads} {path : Path}
    (idle : Idle conn config path) : Sending conn path := by
  refine ⟨idle.sendList ▸ watch_new, by simp [idle.tags], [], ?_, ?_⟩
  · rw [idle.sendList]
    rfl
  · rw [idle.link.added]
    exact carried_nil

theorem idle_receiving {conn : Connection} {config : Table Nat ThreadDispatch.Threads} {path : Path}
    (idle : Idle conn config path) : Receiving path := by
  have nothing : ∀ b : Buffer, b.dataSize = 0 → contents b = [] := by
    intro b none
    simp [contents, none]
  have empty := idle.link
  refine ⟨⟨⟨empty.sent.1, idle.sent⟩, ⟨empty.recv.1, idle.recv⟩, [], [], empty.added, ?_, by simp, ?_⟩,
    idle.connected, by simp [idle.servers], idle.packets ▸ watch_new, ?_⟩
  · rw [empty.fetched]
    exact List.Forall₂.nil
  · rw [nothing _ empty.sent.2, nothing _ empty.recv.2, empty.wire]
    rfl
  · rw [empty.fetched, idle.packets]
    exact carried_nil

theorem idle_sharing {conn : Connection} {config : Table Nat ThreadDispatch.Threads} {path : Path}
    (target : ThreadDispatch.Target) (idle : Idle conn config path) : Sharing config target path := by
  have started := (ThreadDispatch.start_inv config).same
  refine ⟨idle.packets ▸ watch_new, idle.collectors ▸ started, ?_, ?_, ?_, ?_⟩
  · rw [idle.distributing, idle.packets]
    exact iff_of_true rfl rfl
  · simp [idle.distributing]
  · rw [idle.systems target]
    exact watch_new
  · rw [idle.packets, idle.systems target, outstanding, idle.distributing]
    rfl

theorem own_split {list : Watched Parcel} (watching : Watching list) :
    own list.enqueued = own list.handed ++
      ((pending list.queue).filter Parcel.received).map Parcel.packet := by
  have whole : items list.enqueued = items list.handed ++ pending list.queue :=
    watching_conserved watching
  simp [own, whole]

/-- The packets of a connection reach each thread that gets every packet in the
order in which they were given to `SendPacket`, none of them twice, and none is
lost but pings and those that are not for the connection; when nothing is under
way all of them have arrived. -/
theorem packets_pass_in_order (conn : Connection) (config : Table Nat ThreadDispatch.Threads)
    (start path : Path) (trace : List Label) (target : ThreadDispatch.Target)
    (idle : Idle conn config start) (everywhere : Everywhere config target)
    (run : Run (step conn) start trace path) :
    Relayed (Reaches conn path.tags path.servers) (items path.sendList.enqueued)
      (own (path.systems target).handed) ∧
    (Settled conn path target → Carried (Reaches conn path.tags path.servers)
      (items path.sendList.enqueued) (own (path.systems target).handed)) := by
  have sending := run_invariant (Sending conn) (step_sending conn) run (idle_sending idle)
  have receiving := run_invariant Receiving (step_receiving conn) run (idle_receiving idle)
  have sharing := run_invariant (Sharing config target) (step_sharing conn config target everywhere) run
    (idle_sharing target idle)
  obtain ⟨done, handled, written⟩ := sending.written
  have list : items path.sendList.enqueued = items path.sendList.handed ++ pending path.sendList.queue :=
    watching_conserved sending.watching
  have waiting : items path.sendList.enqueued = done ++ holding path.sendList.queue := by
    rw [list, handled, holding, List.append_assoc]
  obtain ⟨delivered, between, split, same, -, -⟩ := receiving.link.flow
  have dispatched := own_split receiving.watching
  have taken := own_split sharing.system
  constructor
  · have first : Relayed (Written conn path.tags) (items path.sendList.enqueued) path.link.added :=
      ⟨done, _, waiting, written⟩
    have second : Relayed Fetched path.link.added path.link.fetched :=
      ⟨delivered, between, split, carried_each same⟩
    have third := relayed_of_carried receiving.passed
    have all := relayed_mono (reaches_of_stages conn path.tags path.servers)
      (relayed_then (relayed_then first second) third)
    refine relayed_prefix all ?_
    rw [dispatched, sharing.shared, taken]
    simp only [List.append_assoc]
    exact List.prefix_append _ _
  · intro settled
    have first : Carried (Written conn path.tags) (items path.sendList.enqueued) path.link.added := by
      rw [waiting, settled.sendList, List.append_nil]
      exact written
    have law := delivery_of_inv ⟨conn.receiver, path.server.tagKey⟩ receiving.connected path.link
      receiving.link
    have second := carried_each (law.complete settled.sent settled.wire settled.recv)
    have all := carried_mono (reaches_of_stages conn path.tags path.servers)
      (carried_then (carried_then first second) receiving.passed)
    obtain ⟨body, left⟩ := List.append_eq_nil_iff.mp settled.packets
    have outside := sharing.inLoop.mpr (by simpa using body)
    rw [dispatched, left, sharing.shared, taken, settled.system, outstanding, outside] at all
    simpa using all

/-! One message on its way to a process without other threads. -/

def enter : Packet := ⟨⟨⟨3, .tcpConnector⟩, clear⟩, .c2gEnterWorld, []⟩

def toGame : Connection := ⟨3, .tcpConnector, client⟩

/-- Before the message, and with its frame in the send buffer, on the wire and in
the receive buffer. -/
def quiet : Path where
  sendList := watchNew
  sendTags := clear
  tags := [clear]
  link := ⟨create 131072, [], create 131072, [], []⟩
  server := stranger
  servers := [stranger]
  packets := watchNew
  collectors := (ThreadDispatch.start ∅).collectors
  distributing := none
  systems := fun _ => watchNew

def enterSent : Buffer := memcpyToBuffer (writeHead (create 131072) enter) (enter.data.take (getDataLength enter))

def enterReceived : Buffer := receive (recvGuard (create 131072)) shortFrame

theorem quiet_idle : Idle toGame ∅ quiet :=
  ⟨rfl, rfl, ⟨⟨create_sound _ (by decide), rfl⟩, ⟨create_sound _ (by decide), rfl⟩, rfl, rfl, rfl⟩,
    (show 131072 < 2147483648 by decide), (show 131072 < 2147483648 by decide), ConnectTags.accepted, rfl,
    rfl, rfl, rfl, fun _ => rfl⟩

theorem enter_added : Guarded (linkStep ⟨client, clear⟩) Sized ⟨create 131072, [], create 131072, [], []⟩
    (.add enter) ⟨enterSent, [], create 131072, [enter], []⟩ := by
  have noGrowth : ¬ getEmptySize (create 131072) < totalSizeOf enter := by decide
  have room : reserve (totalSizeOf enter) (create 131072) = .inr (create 131072) := if_neg noGrowth
  have added : addPacket 1 (create 131072) enter = some enterSent := by
    rw [addPacket, WhileLoop.loop_exit 0 room]
    rfl
  exact ⟨⟨⟨by decide, by decide⟩, 1, enterSent, added, rfl⟩, fun lacks => absurd lacks noGrowth⟩

theorem enter_carried (added : List Packet) : ∃ onWire,
    Guarded (linkStep ⟨client, clear⟩) Sized ⟨enterSent, [], create 131072, added, []⟩ (.send 6) onWire ∧
    Guarded (linkStep ⟨client, clear⟩) Sized onWire (.receive 6)
      ⟨removeDate enterSent 6, [], enterReceived, added, []⟩ := by
  have offered : (shortFrame.length : Int) ≤ (sendGetBuffer enterSent).2 := by decide
  have read : RingWindow.slice enterSent.buffer ((sendGetBuffer enterSent).1.getD 0) shortFrame.length =
      shortFrame := by decide
  have sent := send_step ⟨client, clear⟩ enterSent (create 131072) [] shortFrame added [] (by decide) offered read
  have got := receive_step ⟨client, clear⟩ (removeDate enterSent 6) (create 131072) shortFrame [] added []
    (by decide) (by decide)
  have room : ¬ getEmptySize (create 131072) < 24 := by decide
  rw [List.append_nil] at got
  exact ⟨_, ⟨sent, trivial⟩, got, fun lacks => absurd lacks room⟩

theorem enter_fetched (sent : Buffer) (added : List Packet) : ∃ recv,
    Guarded (linkStep ⟨client, clear⟩) Sized ⟨sent, [], enterReceived, added, []⟩ .fetch
      ⟨sent, [], recv, added, [framePacket ⟨client, clear⟩ .c2gEnterWorld shortFrame]⟩ := by
  have steady : Steady (create 131072) :=
    ⟨create_sound _ (by decide), show 131072 < 2147483648 by decide⟩
  have room : ¬ getEmptySize (create 131072) < 24 := by decide
  obtain ⟨kept, content⟩ := receive_steady _ shortFrame steady (fun lacks => absurd lacks room) (by decide)
  have empty : contents (create 131072) = [] := rfl
  rw [empty, List.nil_append] at content
  have read : contents enterReceived = shortFrame := content
  have done := frame_outcome ⟨client, clear⟩ enterReceived .c2gEnterWorld kept (read ▸ by decide)
    (read ▸ ⟨by decide, by decide⟩) (read ▸ by decide)
  rw [read] at done
  exact ⟨_, fetch_step ⟨client, clear⟩ sent enterReceived [] added [] 10240 2 _ (by decide) done, trivial⟩

def entered : Packet := tagPacket stranger (framePacket ⟨client, clear⟩ .c2gEnterWorld shortFrame)

theorem enter_run : ∃ path, Run (step toGame) quiet
    [.network (.enqueue enter), .network .beginDrain, .network (.handOver enter), .write,
      .bytes (.send 6), .bytes (.receive 6), .recv, .threadMgr .beginDrain, .distribute ⟨entered, true⟩,
      .addPacketToList, .system .main .beginDrain, .system .main (.handOver ⟨entered, true⟩)] path ∧
    items path.sendList.enqueued = [enter] ∧ own (path.systems .main).handed = [entered] := by
  obtain ⟨recv, fetched⟩ := enter_fetched (removeDate enterSent 6) [enter]
  obtain ⟨onWire, sent, got⟩ := enter_carried [enter]
  refine ⟨_, .next ⟨by simp, _, .take _ _ _ (.enqueue _ enter), rfl⟩
    (.next ⟨by simp, _, .take _ _ _ (.beginDrain _ rfl), rfl⟩
    (.next ⟨by simp, _, .take _ _ _ (.handOver _ 0 enter rfl rfl), rfl⟩
    (.next ⟨enter, _, rfl, .take _ _ _ (.next _ 0 rfl), ⟨_, enter_added, rfl⟩⟩
    (.next ⟨by simp, by simp, _, sent, rfl⟩
    (.next ⟨by simp, by simp, _, got, rfl⟩
    (.next ⟨_, [framePacket ⟨client, clear⟩ .c2gEnterWorld shortFrame], fetched, rfl, rfl⟩
    (.next ⟨trivial, _, .take _ _ _ (.beginDrain _ rfl), rfl⟩
    (.next ⟨_, _, _, .take _ _ _ (.handOver _ 0 (Parcel.mk entered true) rfl rfl), rfl, rfl⟩
    (.next ⟨.main, _, ⟨entered, true⟩, rfl, rfl, rfl⟩
    (.next ⟨trivial, _, .take _ _ _ (.beginDrain _ rfl), rfl⟩
    (.next ⟨trivial, _, .take _ _ _ (.handOver _ 0 (Parcel.mk entered true) rfl rfl), rfl⟩
    (.refl _)))))))))))), rfl, ?_⟩
  rfl

theorem packets_pass_in_order_enter :
    ∃ path, Run (step toGame) quiet
      [.network (.enqueue enter), .network .beginDrain, .network (.handOver enter), .write,
        .bytes (.send 6), .bytes (.receive 6), .recv, .threadMgr .beginDrain, .distribute ⟨entered, true⟩,
        .addPacketToList, .system .main .beginDrain, .system .main (.handOver ⟨entered, true⟩)] path ∧
      Relayed (Reaches toGame path.tags path.servers) [enter] [entered] := by
  obtain ⟨path, run, given, got⟩ := enter_run
  have passed := (packets_pass_in_order toGame ∅ quiet path _ .main quiet_idle .main run).1
  rw [given, got] at passed
  exact ⟨path, run, passed⟩

end GameBook.PacketPath
