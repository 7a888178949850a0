import GameBook.LabelledRun
import GameBook.NetworkConnects

/-!
The send list of a network while descriptors change hands. Threads put packets
for a connection into the list at any time; connections come, close and get
their tags in between, and an update gives each packet to whatever connection
has its descriptor then, unless the tags differ. `client` says who is at the
other end of a connection.
-/

namespace GameBook.SendQueue

open OrderedMap SocketObject CacheSwap LabelledRun NetworkConnects

/-- A network with the connections it had, the packets put into its send list
and what became of those taken out of it. -/
structure Sending where
  network : Network
  accepted : List SocketKey
  queued : List Outgoing
  fates : List (Outgoing × Fate)

def start (networkType : NetworkType) : Sending := ⟨NetworkConnects.create networkType, [], [], []⟩

inductive Event where
  | create (checked : Bool) (socket : Int) (tagType : TagType) (tagValue : TagValue)
      (state : ConnectStateType)
  | close (socket : Int)
  | disconnect (identify : NetIdentify)
  | listenKey (identify : NetIdentify)
  | send (item : Outgoing)
  | update

inductive Step : Sending → Event → Sending → Prop where
  | create (s : Sending) (checked : Bool) (socket : Int) (tagType : TagType) (tagValue : TagValue)
      (state : ConnectStateType) (made : Bool) (network : Network) (closed : List Closed) :
      createConnectObj s.network checked socket tagType tagValue state s.accepted.length =
        (made, network, closed) →
      Step s (.create checked socket tagType tagValue state) { s with
        network := network
        accepted := if made then s.accepted ++ [⟨socket, s.network.networkType⟩] else s.accepted }
  | close (s : Sending) (socket : Int) (obj : ConnectObj) :
      s.network.connects[socket]? = some obj →
      Step s (.close socket) { s with network := removeConnectObj s.network socket }
  | disconnect (s : Sending) (identify : NetIdentify) :
      Step s (.disconnect identify)
        { s with network := (handleDisconnect s.network identify).1 }
  | listenKey (s : Sending) (identify : NetIdentify) (network : Network) :
      handleListenKey s.network identify = some network →
      Step s (.listenKey identify) { s with network := network }
  /-- A packet made for a connection that was accepted at some time, with any tags. -/
  | send (s : Sending) (item : Outgoing) :
      s.accepted[item.number]? = some item.packet.socketKey →
      Step s (.send item) { s with
        network := sendPacket s.network item
        -- a packet for another kind of network is refused
        queued := if item.packet.socketKey.netType = s.network.networkType
          then s.queued ++ [item] else s.queued }
  | update (s : Sending) :
      Step s .update { s with
        network := (onNetworkUpdate s.network).1
        fates := s.fates ++ (onNetworkUpdate s.network).2 }

def writtenTo (fates : List (Outgoing × Fate)) (number : Nat) : List Outgoing :=
  (fates.filter fun entry => entry.2 = .written number).map (·.1)

def unsent (n : Network) : List Outgoing := getReaderCache n.sendMsgList ++ getWriterCache n.sendMsgList

/-- Every packet put into the list waits or has met one fate, in the order in
which they came; a connection's buffer has what was written to it; and what was
written went to the descriptor it names, to the client it was meant for. -/
structure Delivered {Client : Type} (client : Nat → Client) (s : Sending) : Prop where
  conserved : s.fates.map (·.1) ++ unsent s.network = s.queued
  buffers : ∀ (socket : Int) (obj : ConnectObj), s.network.connects[socket]? = some obj →
    obj.sendBuffer = writtenTo s.fates obj.number
  reached : ∀ item number, (item, .written number) ∈ s.fates →
    ∃ key, s.accepted[number]? = some key ∧ key.socket = item.packet.socketKey.socket
  own : ∀ item number, (item, .written number) ∈ s.fates → client number = client item.number

/-- An Account or App tag of both sides tells two tag keys apart. -/
def ToldApart (a b : TagKey) : Prop :=
  (∃ first second, a .account = some first ∧ b .account = some second ∧
    first.keyStr ≠ second.keyStr) ∨
  (∃ first second, a .app = some first ∧ b .app = some second ∧ first.keyInt64 ≠ second.keyInt64)

/-- An update may be made when every waiting packet whose descriptor now is a
connection of another client has an Account or App tag other than that
connection's. -/
def Tagged {Client : Type} (client : Nat → Client) (s : Sending) : Event → Prop
  | .update => ∀ item ∈ unsent s.network, ∀ obj,
      s.network.connects[item.packet.socketKey.socket]? = some obj →
      client obj.number ≠ client item.number → ToldApart obj.tagKey item.packet.tagKey
  | _ => True

/-! What one update does. -/

def fateOf (n : Network) (item : Outgoing) : Fate :=
  match n.connects[item.packet.socketKey.socket]? with
  | none => .freed
  | some obj => if compareTags obj.tagKey item.packet.tagKey then .written obj.number else .freed

theorem deliver_cases (n : Network) (item : Outgoing) :
    deliver n item = (n, .freed) ∧ fateOf n item = .freed ∨
    ∃ obj, n.connects[item.packet.socketKey.socket]? = some obj ∧
      compareTags obj.tagKey item.packet.tagKey = true ∧ fateOf n item = .written obj.number ∧
      deliver n item = (writeBack n item.packet.socketKey.socket
        { obj with sendBuffer := obj.sendBuffer ++ [item] }, .written obj.number) := by
  unfold deliver fateOf
  cases found : n.connects[item.packet.socketKey.socket]? with
  | none => exact Or.inl ⟨rfl, rfl⟩
  | some obj =>
      by_cases same : compareTags obj.tagKey item.packet.tagKey = true
      · exact Or.inr ⟨obj, rfl, same, by simp [same], by simp [same]⟩
      · exact Or.inl ⟨by simp [same], by simp [same]⟩

/-- A delivered packet changes no connection's number or tags, so it changes no
other packet's fate. -/
theorem deliver_fate_of (n : Network) (item other : Outgoing) :
    fateOf (deliver n item).1 other = fateOf n other := by
  rcases deliver_cases n item with ⟨same, _⟩ | ⟨obj, held, _, _, written⟩
  · rw [same]
  · rw [written]
    by_cases here : other.packet.socketKey.socket = item.packet.socketKey.socket
    · simp only [fateOf, writeBack, get_insert, if_pos here]
      rw [here, held]
    · simp only [fateOf, writeBack, get_insert, if_neg here]

theorem deliver_each_fates (items : List Outgoing) (n : Network) :
    (deliverEach items n).2 = items.map fun item => (item, fateOf n item) := by
  induction items generalizing n with
  | nil => rfl
  | cons item rest ih =>
      have fate : (deliver n item).2 = fateOf n item := by
        rcases deliver_cases n item with ⟨same, freed⟩ | ⟨obj, _, _, fate, written⟩
        · rw [same, freed]
        · rw [written, fate]
      have later : (deliverEach rest (deliver n item).1).2 =
          rest.map fun other => (other, fateOf n other) := by
        rw [ih]
        apply List.map_congr_left
        intro other _
        rw [deliver_fate_of]
      simp only [deliverEach, List.map_cons, fate, later]

theorem deliver_numbered (n : Network) (accepted : List SocketKey) (item : Outgoing)
    (numbered : Numbered n accepted) : Numbered (deliver n item).1 accepted := by
  rcases deliver_cases n item with ⟨same, _⟩ | ⟨obj, held, _, _, written⟩
  · rw [same]
    exact numbered
  · rw [written]
    exact numbered_written n accepted _ obj _ numbered held rfl rfl

theorem written_to_append (first second : List (Outgoing × Fate)) (number : Nat) :
    writtenTo (first ++ second) number = writtenTo first number ++ writtenTo second number := by
  simp [writtenTo]

theorem deliver_buffer (n : Network) (accepted : List SocketKey) (item : Outgoing) (socket : Int)
    (obj : ConnectObj) (numbered : Numbered n accepted)
    (held : (deliver n item).1.connects[socket]? = some obj) :
    ∃ old, n.connects[socket]? = some old ∧ obj.number = old.number ∧
      obj.sendBuffer = old.sendBuffer ++ writtenTo [(item, fateOf n item)] obj.number := by
  rcases deliver_cases n item with ⟨same, freed⟩ | ⟨hit, there, _, fate, written⟩
  · rw [same] at held
    exact ⟨obj, held, rfl, by simp [writtenTo, freed]⟩
  · rw [written] at held
    simp only [writeBack, get_insert] at held
    split at held
    · rename_i here
      cases held
      exact ⟨hit, here ▸ there, rfl, by simp [writtenTo, fate]⟩
    · rename_i elsewhere
      have apart : hit.number ≠ obj.number := fun same =>
        elsewhere (numbered_apart n accepted _ _ hit obj numbered there held same).symm
      exact ⟨obj, held, rfl, by simp [writtenTo, fate, apart]⟩

theorem deliver_each_buffers (items : List Outgoing) (n : Network) (accepted : List SocketKey)
    (socket : Int) (obj : ConnectObj) (numbered : Numbered n accepted)
    (held : (deliverEach items n).1.connects[socket]? = some obj) :
    ∃ old, n.connects[socket]? = some old ∧ obj.number = old.number ∧
      obj.sendBuffer = old.sendBuffer ++ writtenTo (deliverEach items n).2 obj.number := by
  induction items generalizing n with
  | nil => exact ⟨obj, held, rfl, by simp [deliverEach, writtenTo]⟩
  | cons item rest ih =>
      obtain ⟨middle, there, number, buffer⟩ :=
        ih (deliver n item).1 (deliver_numbered n accepted item numbered) held
      obtain ⟨old, before, sameNumber, first⟩ :=
        deliver_buffer n accepted item socket middle numbered there
      refine ⟨old, before, number.trans sameNumber, ?_⟩
      have fates := deliver_each_fates (item :: rest) n
      have later := deliver_each_fates rest (deliver n item).1
      simp only [deliver_fate_of] at later
      rw [fates, List.map_cons, ← List.singleton_append, written_to_append, ← later,
        ← List.append_assoc, number, ← first, ← number]
      exact buffer

theorem deliver_each_numbered (items : List Outgoing) (n : Network) (accepted : List SocketKey)
    (numbered : Numbered n accepted) : Numbered (deliverEach items n).1 accepted := by
  induction items generalizing n with
  | nil => exact numbered
  | cons item rest ih => exact ih _ (deliver_numbered n accepted item numbered)

theorem deliver_each_send_list (items : List Outgoing) (n : Network) :
    (deliverEach items n).1.sendMsgList = n.sendMsgList := by
  induction items generalizing n with
  | nil => rfl
  | cons item rest ih =>
      have kept : (deliver n item).1.sendMsgList = n.sendMsgList := by
        rcases deliver_cases n item with ⟨same, _⟩ | ⟨obj, _, _, _, written⟩
        · rw [same]
        · rw [written]
          rfl
      exact (ih _).trans kept

/-! Every run: the list is used up by each update, and every packet has its fate. -/

structure Accounted (s : Sending) : Prop where
  numbered : Numbered s.network s.accepted
  apart : Apart s.network.sendMsgList
  read : getReaderCache s.network.sendMsgList = []
  conserved : s.fates.map (·.1) ++ getWriterCache s.network.sendMsgList = s.queued
  buffers : ∀ (socket : Int) (obj : ConnectObj), s.network.connects[socket]? = some obj →
    obj.sendBuffer = writtenTo s.fates obj.number
  reached : ∀ item number, (item, .written number) ∈ s.fates →
    ∃ key, s.accepted[number]? = some key ∧ key.socket = item.packet.socketKey.socket

theorem start_accounted (networkType : NetworkType) : Accounted (start networkType) where
  numbered := create_numbered networkType
  apart := new_apart
  read := rfl
  conserved := rfl
  buffers := by
    intro socket obj held
    simp [start, NetworkConnects.create] at held
  reached := by simp [start]

theorem update_fates (n : Network) (apart : Apart n.sendMsgList)
    (read : getReaderCache n.sendMsgList = []) :
    (onNetworkUpdate n).2 = (getWriterCache n.sendMsgList).map fun item => (item, fateOf n item) := by
  have refilled := (refill_caches n.sendMsgList apart read).1
  simp only [onNetworkUpdate, refilled]
  exact deliver_each_fates _ _

theorem written_fate (n : Network) (item : Outgoing) (number : Nat)
    (fate : fateOf n item = .written number) :
    ∃ obj, n.connects[item.packet.socketKey.socket]? = some obj ∧ obj.number = number ∧
      compareTags obj.tagKey item.packet.tagKey = true := by
  rcases deliver_cases n item with ⟨_, freed⟩ | ⟨obj, held, same, written, _⟩
  · rw [freed] at fate
    cases fate
  · rw [written] at fate
    cases fate
    exact ⟨obj, held, rfl, same⟩

theorem accounted_removed (s : Sending) (socket : Int) (accounted : Accounted s) :
    Accounted { s with network := removeConnectObj s.network socket } := by
  refine ⟨numbered_removed s.network s.accepted socket accounted.numbered, accounted.apart,
    accounted.read, accounted.conserved, ?_, accounted.reached⟩
  intro other obj held
  rw [remove_connects] at held
  split at held
  · cases held
  · exact accounted.buffers other obj held

theorem accounted_create (s : Sending) (checked : Bool) (socket : Int) (tagType : TagType)
    (tagValue : TagValue) (state : ConnectStateType) (made : Bool) (network : Network)
    (closed : List Closed) (accounted : Accounted s)
    (done : createConnectObj s.network checked socket tagType tagValue state s.accepted.length =
      (made, network, closed)) :
    Accounted { s with
      network := network
      accepted := if made then s.accepted ++ [⟨socket, s.network.networkType⟩] else s.accepted } := by
  unfold createConnectObj at done
  split at done
  · cases done
    exact accounted
  · split at done
    · cases done
      exact accounted_removed s socket accounted
    · cases done
      refine ⟨numbered_created s.network s.accepted _ socket accounted.numbered rfl rfl,
        accounted.apart, accounted.read, accounted.conserved, ?_, ?_⟩
      · intro other obj held
        simp only [get_insert] at held
        split at held
        · -- nothing was written to the number the new connection gets
          cases held
          symm
          simp only [awake, writtenTo, List.map_eq_nil_iff, List.filter_eq_nil_iff]
          rintro ⟨item, fate⟩ member written
          cases of_decide_eq_true written
          obtain ⟨key, known, _⟩ := accounted.reached item s.accepted.length member
          rw [List.getElem?_eq_none (Nat.le_refl _)] at known
          cases known
        · exact accounted.buffers other obj held
      · intro item number member
        obtain ⟨key, known, same⟩ := accounted.reached item number member
        exact ⟨key, accepted_grown _ known, same⟩

theorem accounted_update (s : Sending) (accounted : Accounted s) :
    Accounted { s with
      network := (onNetworkUpdate s.network).1
      fates := s.fates ++ (onNetworkUpdate s.network).2 } := by
  obtain ⟨taken, emptied, apart⟩ := refill_caches s.network.sendMsgList accounted.apart accounted.read
  have fates := update_fates s.network accounted.apart accounted.read
  have list : (deliverEach (getReaderCache (refill s.network.sendMsgList))
      { s.network with sendMsgList := refill s.network.sendMsgList }).1.sendMsgList =
        refill s.network.sendMsgList := deliver_each_send_list _ _
  have numbered : Numbered { s.network with sendMsgList := refill s.network.sendMsgList } s.accepted :=
    ⟨⟨accounted.numbered.paired.keyed, accounted.numbered.paired.paired⟩,
      accounted.numbered.born, accounted.numbered.latest⟩
  have delivered := deliver_each_numbered (getReaderCache (refill s.network.sendMsgList)) _ _ numbered
  constructor
  · exact ⟨⟨delivered.paired.keyed, delivered.paired.paired⟩, delivered.born, delivered.latest⟩
  · simp only [onNetworkUpdate, list]
    exact clear_apart _ apart
  · simp only [onNetworkUpdate, clear_reader]
  · rw [fates, ← accounted.conserved]
    simp only [onNetworkUpdate, list, clear_writer _ apart, emptied, List.map_append, List.map_map,
      List.append_nil]
    congr 1
    exact List.map_id _
  · intro socket obj held
    obtain ⟨old, there, number, buffer⟩ :=
      deliver_each_buffers (getReaderCache (refill s.network.sendMsgList)) _ s.accepted socket obj
        numbered held
    rw [written_to_append, number, ← accounted.buffers socket old there, ← number]
    exact buffer
  · intro item number member
    rcases List.mem_append.mp member with old | new
    · exact accounted.reached item number old
    · rw [fates] at new
      obtain ⟨other, waiting, same⟩ := List.mem_map.mp new
      obtain ⟨rfl, fate⟩ := Prod.mk.injEq .. ▸ same
      obtain ⟨obj, there, rfl, _⟩ := written_fate s.network other number fate
      have born := accounted.numbered.born _ obj there
      rw [accounted.numbered.paired.keyed _ obj there] at born
      exact ⟨_, born, rfl⟩

theorem accounted_written (s : Sending) (socket : Int) (obj new : ConnectObj)
    (accounted : Accounted s) (held : s.network.connects[socket]? = some obj)
    (number : new.number = obj.number) (key : new.socketKey = obj.socketKey)
    (buffer : new.sendBuffer = obj.sendBuffer) :
    Accounted { s with network := writeBack s.network socket new } := by
  refine ⟨numbered_written s.network s.accepted socket obj new accounted.numbered held number key,
    accounted.apart, accounted.read, accounted.conserved, ?_, accounted.reached⟩
  intro other found there
  simp only [writeBack, get_insert] at there
  split at there
  · cases there
    rw [buffer, number]
    exact accounted.buffers socket obj held
  · exact accounted.buffers other found there

theorem step_accounted (before : Sending) (event : Event) (after : Sending)
    (accounted : Accounted before) (step : Step before event after) : Accounted after := by
  cases step with
  | create checked socket tagType tagValue state made network closed done =>
      exact accounted_create before checked socket tagType tagValue state made network closed
        accounted done
  | close socket obj held => exact accounted_removed before socket accounted
  | disconnect identify =>
      rcases handle_disconnect_cases before.network identify with same | ⟨obj, _, _, removed⟩
      · rw [same]
        exact accounted
      · rw [removed]
        exact accounted_removed before _ accounted
  | listenKey identify network done =>
      rcases handle_listen_key_cases before.network network identify done with
        rfl | ⟨obj, _, held, rfl⟩
      · exact accounted
      · exact accounted_written before _ obj _ accounted held rfl rfl rfl
  | send item known =>
      by_cases own : item.packet.socketKey.netType = before.network.networkType
      · rw [sendPacket, if_neg (not_not.mpr own), if_pos own]
        refine ⟨⟨⟨accounted.numbered.paired.keyed, accounted.numbered.paired.paired⟩,
          accounted.numbered.born, accounted.numbered.latest⟩, ?_, ?_, ?_, accounted.buffers,
          accounted.reached⟩
        · exact emplace_apart _ item accounted.apart
        · exact (emplace_reader _ item accounted.apart).trans accounted.read
        · rw [← accounted.conserved]
          simp only [emplace_writer, List.append_assoc]
      · rw [sendPacket, if_pos own, if_neg own]
        exact accounted
  | update => exact accounted_update before accounted

theorem unsent_accounted (s : Sending) (accounted : Accounted s) :
    unsent s.network = getWriterCache s.network.sendMsgList := by
  rw [unsent, accounted.read, List.nil_append]

/-! Whose packets are written where. -/

section Clients

variable {Client : Type} (client : Nat → Client)

theorem delivered_of_accounted (s : Sending) (accounted : Accounted s)
    (own : ∀ item number, (item, Fate.written number) ∈ s.fates → client number = client item.number) :
    Delivered client s where
  conserved := by
    rw [unsent_accounted s accounted]
    exact accounted.conserved
  buffers := accounted.buffers
  reached := accounted.reached
  own := own

theorem update_own_iff (s : Sending) (accounted : Accounted s) :
    Tagged client s .update ↔
      ∀ item number, (item, Fate.written number) ∈ (onNetworkUpdate s.network).2 →
        client number = client item.number := by
  rw [update_fates s.network accounted.apart accounted.read]
  constructor
  · intro tagged item number member
    obtain ⟨other, waiting, same⟩ := List.mem_map.mp member
    obtain ⟨rfl, fate⟩ := Prod.mk.injEq .. ▸ same
    obtain ⟨obj, there, rfl, alike⟩ := written_fate s.network other number fate
    by_contra foreign
    have apart := tagged other (by rw [unsent_accounted s accounted]; exact waiting) obj there foreign
    rw [(compare_tags_false_iff obj.tagKey other.packet.tagKey).mpr apart] at alike
    cases alike
  · intro own item waiting obj there foreign
    rw [unsent_accounted s accounted] at waiting
    apply (compare_tags_false_iff obj.tagKey item.packet.tagKey).mp
    by_contra alike
    have written : fateOf s.network item = .written obj.number := by
      simp only [fateOf, there]
      exact if_pos (by simpa using alike)
    apply foreign
    apply own item obj.number
    rw [← written]
    exact List.mem_map_of_mem waiting

theorem step_decides (before : Sending) (event : Event) (after : Sending)
    (accounted : Accounted before) (delivered : Delivered client before)
    (step : Step before event after) : Tagged client before event ↔ Delivered client after := by
  have accountedAfter := step_accounted before event after accounted step
  have idle : before.fates = after.fates → (True ↔ Delivered client after) := by
    intro same
    refine ⟨fun _ => delivered_of_accounted client after accountedAfter ?_, fun _ => trivial⟩
    rw [← same]
    exact delivered.own
  cases step with
  | create checked socket tagType tagValue state made network closed done => exact idle rfl
  | close socket obj held => exact idle rfl
  | disconnect identify => exact idle rfl
  | listenKey identify network done => exact idle rfl
  | send item known => exact idle rfl
  | update =>
      rw [update_own_iff client before accounted]
      constructor
      · intro own
        apply delivered_of_accounted client _ accountedAfter
        intro item number member
        rcases List.mem_append.mp member with old | new
        · exact delivered.own item number old
        · exact own item number new
      · intro kept item number member
        exact kept.own item number (List.mem_append_right _ member)

/-- The runs in which every packet reaches the client it was meant for or is
freed are the runs whose updates find other clients' connections told apart. -/
theorem packets_reach_own_client_iff (networkType : NetworkType) (trace : List Event)
    (after : Sending) :
    Run (Guarded Step (Tagged client)) (start networkType) trace after ↔
      Run (Along Step (Delivered client)) (start networkType) trace after := by
  apply guarded_iff_along Accounted step_accounted
  · exact fun before event after accounted delivered step =>
      step_decides client before event after accounted delivered step
  · exact start_accounted networkType
  · apply delivered_of_accounted client _ (start_accounted networkType)
    simp [start]

end Clients

/-! A packet for a connection that has closed, and its successor without tags. -/

def accept : Event := .create true 5 .none ⟨[], 0⟩ .connected

def reply : Outgoing where
  packet := {
    socketKey := ⟨5, .tcpListen⟩
    tagKey := addTagStr clear .account [97]
    msgId := .c2gLoginByTokenRs
    data := [1] }
  number := 0

theorem accept_step (s : Sending) (free : s.network.connects[(5 : Int)]? = none) :
    Step s accept { s with
      network := { s.network with
        connects := s.network.connects.insert 5
          (awake 5 s.network.networkType .none ⟨[], 0⟩ .connected s.accepted.length)
        sockets := s.network.sockets.insert 5 () }
      accepted := s.accepted ++ [⟨5, s.network.networkType⟩] } :=
  .create s true 5 .none ⟨[], 0⟩ .connected true _ [] (by
    rw [createConnectObj, if_neg (by decide), free])

/-- The reply is put into the list, its connection closes, a stranger gets the
descriptor, and the update of the same turn gives the reply to the stranger. -/
theorem untagged_successor_gets_reply :
    ∃ after, Run Step (start .tcpListen) [accept, .send reply, .close 5, accept, .update] after ∧
      ¬ Delivered (fun number : Nat => number) after := by
  refine ⟨_, .next (accept_step _ rfl) (.next (.send _ reply rfl) (.next (.close _ 5 _ rfl)
    (.next (accept_step _ rfl) (.next (.update _) (.refl _))))), ?_⟩
  intro delivered
  have stolen := delivered.own reply 1 (List.mem_of_getElem? (i := 0) rfl)
  cases stolen

end GameBook.SendQueue
