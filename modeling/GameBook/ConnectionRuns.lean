import GameBook.ConnectionTable

/-!
The table of a `Network` over whole runs: each frame, each message, each new
connection and the way back to the pool keep the invariant under the condition
of the step, and a step that does not meet it leaves a state that is not as
claimed. No null pointer is followed on the way.
-/

namespace GameBook.ConnectionRuns

open OrderedMap SocketObject LabelledRun ConnectionTable
open NetworkConnects (ConnectObj ConnectStateType isListen writeBack remove_connects)
open ObjectPool (Pool mallocObject)
open PacketPool (entry_none)

/-! ### Frames -/

theorem visit_inv {s : State} {socket : Int} {obj : ConnectObj} (held : Held s) (paired : PairedUp s)
    (found : s.network.connects[socket]? = some obj) (flags : Flags) :
    Held (visit (index s socket) socket obj flags) ∧ PairedUp (visit (index s socket) socket obj flags) := by
  have indexed := held_index held (held.slots socket obj found).inRange
  unfold visit
  cases served : serve flags obj with
  | none => exact ⟨held_remove indexed found, paired_remove paired⟩
  | some after =>
      obtain ⟨number, key⟩ := serve_same served
      have rewritten := rewritten_write (n := (index s socket).network) found number key
      exact ⟨held_rewritten indexed rewritten, paired_rewritten (s := index s socket) paired rewritten⟩

theorem visit_polls (s : State) (socket : Int) (obj : ConnectObj) (flags : Flags) :
    (visit s socket obj flags).polls = s.polls := by
  unfold visit
  split
  · exact remove_polls s socket obj
  · rfl

theorem visit_indexed (s : State) (socket : Int) (obj : ConnectObj) (flags : Flags) :
    (visit s socket obj flags).indexed = s.indexed := by
  unfold visit
  split
  · exact remove_indexed s socket obj
  · rfl

theorem epoll_each_inv (events : List (Int × Flags)) (s : State) (held : Held s) (paired : PairedUp s)
    (inRange : ∀ event ∈ events, InRange s.polls event.1) :
    Held (epollEach events s) ∧ PairedUp (epollEach events s) := by
  induction events generalizing s with
  | nil => exact ⟨held, paired⟩
  | cons event rest ih =>
      unfold epollEach
      cases found : s.network.connects[event.1]? with
      | none =>
          apply ih
          · exact held_index held (inRange event List.mem_cons_self)
          · exact paired
          · exact fun later member => inRange later (List.mem_cons_of_mem event member)
      | some obj =>
          obtain ⟨held', paired'⟩ := visit_inv held paired found event.2
          apply ih _ held' paired'
          intro later member
          rw [visit_polls]
          exact inRange later (List.mem_cons_of_mem event member)

theorem select_each_inv {flags : Int → Flags} (sockets : List Int) (s after : State) (held : Held s)
    (paired : PairedUp s) (done : selectEach flags sockets s = some after) : Held after ∧ PairedUp after := by
  induction sockets generalizing s with
  | nil =>
      cases done
      exact ⟨held, paired⟩
  | cons socket rest ih =>
      unfold selectEach at done
      cases found : s.network.connects[socket]? with
      | none =>
          rw [found] at done
          cases done
      | some obj =>
          rw [found] at done
          obtain ⟨held', paired'⟩ := visit_inv held paired found (flags socket)
          exact ih _ held' paired' done

theorem clear_each_inv (sockets : List Int) (s after : State) (held : Held s)
    (done : clearEach sockets s = some after) :
    Held after ∧ after.master = s.master ∧ ∀ socket : Int, after.network.connects[socket]? =
      if socket ∈ sockets then none else s.network.connects[socket]? := by
  induction sockets generalizing s with
  | nil =>
      cases done
      exact ⟨held, rfl, fun socket => by simp⟩
  | cons first rest ih =>
      unfold clearEach at done
      cases found : s.network.connects[first]? with
      | none =>
          rw [found] at done
          cases done
      | some obj =>
          rw [found] at done
          have indexed := held_index held (held.slots first obj found).inRange
          have slot := indexed.slots first obj found
          obtain ⟨held', master, others⟩ := ih _ (held_clear indexed found) done
          refine ⟨held', by rw [master, clear_slot_eq slot]; rfl, ?_⟩
          intro socket
          rw [others socket, clear_slot_eq slot]
          change (if socket ∈ rest then none else (s.network.connects.erase first)[socket]?) = _
          rw [get_erase]
          -- emptied later, emptied now, or never
          by_cases later : socket ∈ rest
          · rw [if_pos later, if_pos (List.mem_cons_of_mem first later)]
          · by_cases same : socket = first
            · rw [if_neg later, if_pos same, if_pos (same ▸ List.mem_cons_self)]
            · rw [if_neg later, if_neg same, if_neg]
              rintro (_ | ⟨_, member⟩)
              · exact same rfl
              · exact later member

theorem held_master_closed {s : State} (held : Held s) (valid : s.master ≠ invalidSocket) :
    Held { close s s.master with master := invalidSocket } := by
  rw [close_eq valid, held.master valid]
  refine { held with
    slots := ?_
    once := update_once held.once s.master (Nat.le_refl 1)
    watched := ?_
    master := fun valid => absurd rfl valid
    connector := fun _ => rfl
    asleep := fun sleeping => ⟨(held.asleep sleeping).1, rfl⟩ }
  · intro socket obj found
    have slot := held.slots socket obj found
    refine { slot with
      apart := valid_of_nonneg slot.inRange.1
      unclosed := ?_ }
    change Function.update s.closes s.master 1 socket = 0
    rw [Function.update_of_ne slot.apart]
    exact slot.unclosed
  · intro socket watched
    obtain ⟨apart, before⟩ := watched_erase watched
    rcases held.watched socket before with same | present
    · exact absurd same apart
    · exact Or.inr present

theorem held_close_master {s : State} (held : Held s) :
    Held (closeMaster s) ∧ (closeMaster s).master = invalidSocket ∧
      (closeMaster s).network = s.network := by
  unfold closeMaster
  cases listens : isListen s.network.networkType with
  | false => exact ⟨held, held.connector listens, rfl⟩
  | true =>
      by_cases valid : s.master = invalidSocket
      · have same : { close s s.master with master := invalidSocket } = s := by
          unfold close
          rw [if_pos valid, ← valid]
        rw [if_pos rfl, same]
        exact ⟨held, valid, rfl⟩
      · refine ⟨held_master_closed held valid, rfl, ?_⟩
        rw [if_pos rfl, close_eq valid]

theorem back_to_pool_inv {s after : State} (held : Held s) (paired : PairedUp s)
    (done : backToPool s = some after) : Held after ∧ PairedUp after := by
  obtain ⟨cleared, emptied, rfl⟩ := Option.map_eq_some_iff.mp done
  obtain ⟨closed, master, network⟩ := held_close_master held
  obtain ⟨held', same, others⟩ := clear_each_inv s.network.sockets.keys (closeMaster s) cleared closed emptied
  -- the loop is over the set, and the set has every descriptor of the table
  have empty : ∀ socket : Int, cleared.network.connects[socket]? = none := by
    intro socket
    rw [others socket, network]
    split
    · rfl
    · rename_i unlisted
      have unpaired := paired socket
      rw [Std.ExtTreeMap.getElem?_eq_none (mt Std.ExtTreeMap.mem_keys.mpr unlisted)] at unpaired
      exact Option.map_eq_none_iff.mp unpaired.symm
  constructor
  · refine { held' with
      slots := fun socket obj found => { held'.slots socket obj found with }
      watched := ?_
      asleep := fun _ => ⟨empty, same.trans master⟩ }
    intro socket watched
    simp at watched
  · intro socket
    simp [empty socket]

theorem awake_inv {s : State} (held : Held s) (paired : PairedUp s) (sleeping : s.awake = false)
    (socket : Int) (listening : Bool) : Held (awake s socket listening) ∧ PairedUp (awake s socket listening) := by
  obtain ⟨empty, master⟩ := held.asleep sleeping
  unfold awake
  by_cases opens : isListen s.network.networkType = true ∧ socket ≠ invalidSocket
  · rw [if_pos opens]
    have given : Held (give s socket) := held_give held (by rw [master]; exact opens.2)
    refine ⟨{ given with
      slots := ?_
      watched := ?_
      master := fun _ => Function.update_self _ _ _
      connector := ?_
      asleep := nofun }, paired⟩
    · intro other obj found
      rw [show (give s socket).network.connects[other]? = none from empty other] at found
      cases found
    · intro other watched
      change ((if listening = true ∧ s.polls = .epoll then (∅ : Table Int Unit).insert socket () else ∅)[other]?).isSome
        at watched
      left
      split at watched
      · rw [get_insert] at watched
        split at watched
        · assumption
        · simp at watched
      · simp at watched
    · intro connects
      exact absurd (opens.1.symm.trans connects) (by decide)
  · rw [if_neg opens]
    refine ⟨{ held with
      slots := fun other obj found => { held.slots other obj found with }
      watched := ?_
      asleep := nofun }, paired⟩
    intro other watched
    simp at watched

/-! ### New connections -/

theorem close_closes {s : State} {socket : Int} (valid : socket ≠ invalidSocket) :
    (close s socket).closes socket = s.closes socket + 1 := by
  rw [close_eq valid]
  exact Function.update_self _ _ _

theorem close_network (s : State) (socket : Int) : (close s socket).network = s.network := by
  unfold close
  split
  · rfl
  · rfl

theorem give_closes (s : State) (socket : Int) : (give s socket).closes socket = 0 :=
  Function.update_self _ _ _

section Creates

variable {s after : State} {socket : Int} {checked created : Bool} {tagType : TagType}
  {tagValue : TagValue} {state : ConnectStateType} {sn : Nat}

theorem create_unchecked (done : createConnectObj s false socket tagType tagValue state sn = some (created, after)) :
    created = false ∧ after = close s socket := by
  unfold createConnectObj at done
  rw [if_pos rfl] at done
  cases done
  exact ⟨rfl, rfl⟩

theorem create_again {obj : ConnectObj} (found : s.network.connects[socket]? = some obj)
    (done : createConnectObj s true socket tagType tagValue state sn = some (created, after)) :
    created = false ∧ after = removeConnectObj (index s socket) socket obj := by
  unfold createConnectObj at done
  rw [if_neg (by decide), found] at done
  cases done
  exact ⟨rfl, rfl⟩

theorem create_indexed (absent : s.network.connects[socket]? = none)
    (done : createConnectObj s true socket tagType tagValue state sn = some (created, after)) :
    created = true ∧ after.indexed = socket :: s.indexed ∧ after.polls = s.polls := by
  unfold createConnectObj at done
  rw [if_neg (by decide), absent] at done
  obtain ⟨⟨address, pool⟩, -, same⟩ := Option.map_eq_some_iff.mp done
  cases same
  exact ⟨rfl, rfl, rfl⟩

theorem create_network (done : createConnectObj s checked socket tagType tagValue state sn = some (created, after)) :
    (created, after.network) =
      ((NetworkConnects.createConnectObj s.network checked socket tagType tagValue state s.made).1,
        (NetworkConnects.createConnectObj s.network checked socket tagType tagValue state s.made).2.1) := by
  cases checked with
  | false =>
      obtain ⟨rfl, rfl⟩ := create_unchecked done
      rw [close_network]
      rfl
  | true =>
      rw [NetworkConnects.createConnectObj, if_neg (by decide)]
      cases found : s.network.connects[socket]? with
      | some obj =>
          obtain ⟨rfl, rfl⟩ := create_again found done
          rw [remove_table]
          rfl
      | none =>
          unfold createConnectObj at done
          rw [if_neg (by decide), found] at done
          obtain ⟨⟨address, pool⟩, -, same⟩ := Option.map_eq_some_iff.mp done
          cases same
          rfl

theorem create_inv (held : Held s) (paired : PairedUp s) (awake : s.awake = true)
    (inRange : InRange s.polls socket) (apart : socket ≠ s.master)
    (absent : s.network.connects[socket]? = none) (unclosed : s.closes socket = 0) (fresh : Fresh s sn)
    (done : createConnectObj s true socket tagType tagValue state sn = some (created, after)) :
    Held after ∧ PairedUp after := by
  unfold createConnectObj at done
  rw [if_neg (by decide), absent] at done
  obtain ⟨⟨address, pool⟩, taken, same⟩ := Option.map_eq_some_iff.mp done
  cases same
  constructor
  · apply held_create (held_index held inRange) awake inRange apart absent unclosed fresh taken rfl rfl
    intro other registered
    split at registered
    · rw [get_insert] at registered
      split at registered
      · exact Or.inl ‹_›
      · exact Or.inr registered
    · exact Or.inr registered
  · intro other
    simp only [get_insert]
    split
    · rfl
    · exact paired other

end Creates

/-! ### Steps -/

theorem accept_inv {s after : State} {socket : Int} {checked : Bool} {sn : Nat} (held : Held s)
    (paired : PairedUp s) (possible : Possible s (.accept socket checked sn))
    (sane : Sane s (.accept socket checked sn)) (done : accept s socket checked sn = some after) :
    Held after ∧ PairedUp after := by
  obtain ⟨awake, -, -, apart, fresh⟩ := possible
  obtain ⟨rfl, inRange, absent⟩ := sane
  obtain ⟨⟨created, made⟩, taken, rfl⟩ := Option.map_eq_some_iff.mp done
  obtain ⟨rfl, -, -⟩ := create_indexed (s := give s socket) absent taken
  exact create_inv (held_give held apart) paired awake inRange apart absent (give_closes s socket) fresh taken

/-- A refusal of `CreateConnectObj` has closed the descriptor, and `Accept` closes it again. -/
theorem accept_sane {s after : State} {socket : Int} {checked : Bool} {sn : Nat} (held : Held s)
    (possible : Possible s (.accept socket checked sn)) (good : Good after)
    (done : accept s socket checked sn = some after) : Sane s (.accept socket checked sn) := by
  obtain ⟨-, -, given, apart, -⟩ := possible
  have valid := valid_of_nonneg given
  obtain ⟨⟨created, made⟩, taken, rfl⟩ := Option.map_eq_some_iff.mp done
  cases checked with
  | false =>
      obtain ⟨rfl, rfl⟩ := create_unchecked taken
      -- `CreateConnectObj` closes it, and `Accept` again
      have twice := good.once socket
      change (close (close (give s socket) socket) socket).closes socket ≤ 1 at twice
      rw [close_closes valid, close_closes valid, give_closes] at twice
      omega
  | true =>
      cases found : s.network.connects[socket]? with
      | none =>
          obtain ⟨rfl, indexed, polls⟩ := create_indexed (s := give s socket) found taken
          have inRange := good.indexes socket (by
            change socket ∈ made.indexed
            rw [indexed]
            exact List.mem_cons_self)
          change InRange made.polls socket at inRange
          rw [polls] at inRange
          exact ⟨rfl, inRange, found⟩
      | some obj =>
          obtain ⟨rfl, rfl⟩ := create_again (s := give s socket) found taken
          have slot := (held_index (held_give held apart) (held.slots socket obj found).inRange).slots socket obj found
          -- the object that has the descriptor closes it on its way to the pool, and `Accept` again
          have twice := good.once socket
          change (close (removeConnectObj (index (give s socket) socket) socket obj) socket).closes socket ≤ 1
            at twice
          rw [close_closes valid, remove_closes slot, if_pos rfl] at twice
          omega

section Connects

variable {s after : State} {socket : Int} {refused checked : Bool} {tagType : TagType}
  {tagValue : TagValue} {state : ConnectStateType} {sn : Nat}

theorem close_given_inv (held : Held s) (paired : PairedUp s) (given : 0 ≤ socket) (apart : socket ≠ s.master)
    (absent : s.network.connects[socket]? = none) :
    Held (close (give s socket) socket) ∧ PairedUp (close (give s socket) socket) := by
  have valid := valid_of_nonneg given
  refine ⟨held_close (held_give held apart) valid absent apart (give_closes s socket), ?_⟩
  rw [close_eq valid]
  exact paired

theorem close_given_good (given : 0 ≤ socket) (good : Good (close (give s socket) socket)) :
    s.network.connects[socket]? = none := by
  have valid := valid_of_nonneg given
  have gone := (good.closed socket (by
    rw [close_closes valid]
    exact Nat.succ_ne_zero _)).2
  rw [close_eq valid] at gone
  exact gone

theorem connect_inv (held : Held s) (paired : PairedUp s)
    (possible : Possible s (.connect socket refused checked tagType tagValue state sn))
    (sane : Sane s (.connect socket refused checked tagType tagValue state sn))
    (done : connect s socket refused checked tagType tagValue state sn = some after) :
    Held after ∧ PairedUp after := by
  obtain ⟨awake, connects, given, fresh⟩ := possible
  -- a connector has no master socket
  have apart : socket ≠ s.master := by
    rw [held.connector connects]
    exact valid_of_nonneg given
  unfold connect at done
  cases refused with
  | true =>
      cases done
      exact close_given_inv held paired given apart sane
  | false =>
      obtain ⟨⟨created, made⟩, taken, rfl⟩ := Option.map_eq_some_iff.mp done
      cases checked with
      | false =>
          obtain ⟨-, rfl⟩ := create_unchecked taken
          exact close_given_inv held paired given apart sane
      | true =>
          have inRange : InRange s.polls socket := sane
          have given' := held_give held apart
          cases found : s.network.connects[socket]? with
          | none => exact create_inv given' paired awake inRange apart found (give_closes s socket) fresh taken
          | some obj =>
              obtain ⟨-, rfl⟩ := create_again (s := give s socket) found taken
              exact ⟨held_remove (held_index given' inRange) found, paired_remove paired⟩

theorem connect_sane (possible : Possible s (.connect socket refused checked tagType tagValue state sn))
    (good : Good after) (done : connect s socket refused checked tagType tagValue state sn = some after) :
    Sane s (.connect socket refused checked tagType tagValue state sn) := by
  obtain ⟨-, -, given, -⟩ := possible
  unfold connect at done
  cases refused with
  | true =>
      cases done
      exact close_given_good given good
  | false =>
      obtain ⟨⟨created, made⟩, taken, rfl⟩ := Option.map_eq_some_iff.mp done
      cases checked with
      | false =>
          obtain ⟨-, rfl⟩ := create_unchecked taken
          exact close_given_good given good
      | true =>
          change InRange s.polls socket
          cases found : s.network.connects[socket]? with
          | none =>
              obtain ⟨-, indexed, polls⟩ := create_indexed (s := give s socket) found taken
              have inRange := good.indexes socket (by rw [indexed]; exact List.mem_cons_self)
              rw [polls] at inRange
              exact inRange
          | some obj =>
              obtain ⟨-, rfl⟩ := create_again (s := give s socket) found taken
              have inRange := good.indexes socket (by rw [remove_indexed]; exact List.mem_cons_self)
              rw [remove_polls] at inRange
              exact inRange

end Connects

section Messages

variable {s after : State} {identify : NetIdentify}

theorem disconnect_network :
    (handleDisconnect s identify).network = (NetworkConnects.handleDisconnect s.network identify).1 := by
  unfold handleDisconnect NetworkConnects.handleDisconnect
  by_cases other : identify.socketKey.netType ≠ s.network.networkType
  · rw [if_pos other, if_pos other]
  · rw [if_neg other, if_neg other]
    cases s.network.connects[identify.socketKey.socket]? with
    | none => rfl
    | some obj => exact remove_table _ _ _

theorem disconnect_inv (held : Held s) (paired : PairedUp s) (sane : Sane s (.disconnect identify)) :
    Held (handleDisconnect s identify) ∧ PairedUp (handleDisconnect s identify) := by
  unfold handleDisconnect
  by_cases other : identify.socketKey.netType ≠ s.network.networkType
  · rw [if_pos other]
    exact ⟨held, paired⟩
  · rw [if_neg other]
    have indexed := held_index held (sane (not_not.mp other))
    cases found : s.network.connects[identify.socketKey.socket]? with
    | none => exact ⟨indexed, paired⟩
    | some obj => exact ⟨held_remove indexed found, paired_remove paired⟩

theorem disconnect_sane (good : Good (handleDisconnect s identify)) : Sane s (.disconnect identify) := by
  intro own
  have used : identify.socketKey.socket ∈ (handleDisconnect s identify).indexed ∧
      (handleDisconnect s identify).polls = s.polls := by
    unfold handleDisconnect
    rw [if_neg (not_not.mpr own)]
    cases s.network.connects[identify.socketKey.socket]? with
    | none => exact ⟨List.mem_cons_self, rfl⟩
    | some obj =>
        dsimp only
        rw [remove_indexed, remove_polls]
        exact ⟨List.mem_cons_self, rfl⟩
  have inRange := good.indexes _ used.1
  rw [used.2] at inRange
  exact inRange

theorem listen_key_inv (held : Held s) (paired : PairedUp s) (done : handleListenKey s identify = some after) :
    Held after ∧ PairedUp after := by
  obtain ⟨network, handled, rfl⟩ := Option.map_eq_some_iff.mp done
  have rewritten : Rewritten s.network network := by
    rcases NetworkConnects.handle_listen_key_cases _ _ _ handled with rfl | ⟨obj, -, found, rfl⟩
    · exact rewritten_refl _
    · exact rewritten_write found rfl rfl
  have written := held_rewritten held rewritten
  refine ⟨{ written with
    indexed := ?_
    slots := fun socket obj found => { written.slots socket obj found with } },
    paired_rewritten paired rewritten⟩
  intro socket member
  dsimp only at member
  split at member
  · rename_i listed
    rcases List.mem_cons.mp member with rfl | before
    · have present := listed.2
      rw [paired, Option.isSome_map] at present
      obtain ⟨obj, found⟩ := Option.isSome_iff_exists.mp present
      exact (held.slots _ obj found).inRange
    · exact held.indexed socket before
  · exact held.indexed socket member

theorem update_inv (held : Held s) (paired : PairedUp s) (sane : Sane s .onNetworkUpdate) :
    Held (onNetworkUpdate s) ∧ PairedUp (onNetworkUpdate s) := by
  have rewritten := update_rewritten s.network
  have written := held_rewritten held rewritten
  refine ⟨{ written with
    indexed := ?_
    slots := fun socket obj found => { written.slots socket obj found with } },
    paired_rewritten paired rewritten⟩
  intro socket member
  rcases List.mem_append.mp member with now | before
  · exact sane socket now
  · exact held.indexed socket before

end Messages

theorem epoll_each_indexed (events : List (Int × Flags)) (s : State) :
    (∀ socket ∈ s.indexed, socket ∈ (epollEach events s).indexed) ∧
    (∀ event ∈ events, event.1 ∈ (epollEach events s).indexed) ∧ (epollEach events s).polls = s.polls := by
  induction events generalizing s with
  | nil => exact ⟨fun _ member => member, nofun, rfl⟩
  | cons event rest ih =>
      unfold epollEach
      cases s.network.connects[event.1]? with
      | none =>
          obtain ⟨older, later, polls⟩ := ih (index s event.1)
          refine ⟨fun socket member => older socket (List.mem_cons_of_mem _ member), ?_, polls⟩
          intro one member
          rcases List.mem_cons.mp member with rfl | there
          · exact older _ List.mem_cons_self
          · exact later one there
      | some obj =>
          obtain ⟨older, later, polls⟩ := ih (visit (index s event.1) event.1 obj event.2)
          rw [visit_indexed] at older
          refine ⟨fun socket member => older socket (List.mem_cons_of_mem _ member), ?_,
            polls.trans (visit_polls _ _ _ _)⟩
          intro one member
          rcases List.mem_cons.mp member with rfl | there
          · exact older _ List.mem_cons_self
          · exact later one there

theorem epoll_inv {s : State} {events : List (Int × Flags)} (held : Held s) (paired : PairedUp s)
    (possible : Possible s (.epoll events)) (sane : Sane s (.epoll events)) :
    Held (epollEach events s) ∧ PairedUp (epollEach events s) := by
  apply epoll_each_inv events s held paired
  intro event member
  rcases held.watched event.1 (possible.2.2 event member) with same | present
  · rw [same]
    exact sane ⟨event, member, same⟩
  · obtain ⟨obj, found⟩ := Option.isSome_iff_exists.mp present
    exact (held.slots event.1 obj found).inRange

theorem pool_inv {s : State} {call : ObjectPool.Call} {pool : Pool} (held : Held s)
    (possible : Possible s (.pool call pool)) : Held { s with pool := pool } := by
  obtain ⟨taken, spared⟩ := possible
  refine { held with
    slots := ?_
    kept := ObjectPool.step_kept held.kept taken }
  intro socket obj found
  have slot := held.slots socket obj found
  exact { slot with lent := ObjectPool.lent_step held.kept taken slot.lent (spared socket obj found) }

theorem step_inv {before after : State} {event : Event} (held : Held before) (paired : PairedUp before)
    (taken : Step before event after) (sane : Sane before event) : Held after ∧ PairedUp after := by
  obtain ⟨possible, done⟩ := taken
  cases event with
  | awake socket listening =>
      cases done
      exact awake_inv held paired possible.1 socket listening
  | backToPool => exact back_to_pool_inv held paired done
  | accept socket checked sn => exact accept_inv held paired possible sane done
  | connect socket refused checked tagType tagValue state sn =>
      exact connect_inv held paired possible sane done
  | disconnect identify =>
      cases done
      exact disconnect_inv held paired sane
  | listenKey identify => exact listen_key_inv held paired done
  | sendPacket item =>
      cases done
      have rewritten := send_rewritten before.network item
      exact ⟨held_rewritten held rewritten, paired_rewritten paired rewritten⟩
  | onNetworkUpdate =>
      cases done
      exact update_inv held paired sane
  | epoll events =>
      cases done
      exact epoll_inv held paired possible sane
  | select flags => exact select_each_inv _ before after held paired done
  | pool call pool =>
      cases done
      exact ⟨pool_inv held possible, paired⟩

theorem step_sane {before after : State} {event : Event} (held : Held before)
    (taken : Step before event after) (good : Good after) : Sane before event := by
  obtain ⟨possible, done⟩ := taken
  cases event with
  | accept socket checked sn => exact accept_sane held possible good done
  | connect socket refused checked tagType tagValue state sn => exact connect_sane possible good done
  | disconnect identify =>
      cases done
      exact disconnect_sane good
  | onNetworkUpdate =>
      cases done
      intro socket member
      exact good.indexes socket (List.mem_append_left _ member)
  | epoll events =>
      cases done
      rintro ⟨event, member, same⟩
      obtain ⟨-, used, polls⟩ := epoll_each_indexed events before
      have inRange := good.indexes event.1 (used event member)
      rw [polls, same] at inRange
      exact inRange
  | _ => trivial

/-! ### No null pointer is followed -/

theorem visit_elsewhere {s : State} {socket other : Int} (obj : ConnectObj) (flags : Flags)
    (apart : other ≠ socket) :
    (visit s socket obj flags).network.connects[other]? = s.network.connects[other]? := by
  unfold visit
  split
  · rw [remove_table, remove_connects, if_neg apart]
  · exact (get_insert _ _ _ _).trans (if_neg apart)

theorem clear_elsewhere {s : State} {socket other : Int} (obj : ConnectObj) (apart : other ≠ socket) :
    (clearSlot s socket obj).network.connects[other]? = s.network.connects[other]? := by
  unfold clearSlot componentBackToPool close
  split
  · exact (get_erase _ _ _).trans (if_neg apart)
  · exact (get_erase _ _ _).trans (if_neg apart)

theorem select_each_returns (flags : Int → Flags) (sockets : List Int) (s : State) (once : sockets.Nodup)
    (present : ∀ socket ∈ sockets, (s.network.connects[socket]?).isSome) :
    ∃ after, selectEach flags sockets s = some after := by
  induction sockets generalizing s with
  | nil => exact ⟨s, rfl⟩
  | cons socket rest ih =>
      obtain ⟨fresh, distinct⟩ := List.nodup_cons.mp once
      obtain ⟨obj, found⟩ := Option.isSome_iff_exists.mp (present socket List.mem_cons_self)
      unfold selectEach
      rw [found]
      apply ih _ distinct
      intro other member
      have apart : other ≠ socket := fun same => fresh (same ▸ member)
      rw [visit_elsewhere obj _ apart]
      exact present other (List.mem_cons_of_mem socket member)

theorem clear_each_returns (sockets : List Int) (s : State) (once : sockets.Nodup)
    (present : ∀ socket ∈ sockets, (s.network.connects[socket]?).isSome) :
    ∃ after, clearEach sockets s = some after := by
  induction sockets generalizing s with
  | nil => exact ⟨s, rfl⟩
  | cons socket rest ih =>
      obtain ⟨fresh, distinct⟩ := List.nodup_cons.mp once
      obtain ⟨obj, found⟩ := Option.isSome_iff_exists.mp (present socket List.mem_cons_self)
      unfold clearEach
      rw [found]
      apply ih _ distinct
      intro other member
      have apart : other ≠ socket := fun same => fresh (same ▸ member)
      rw [clear_elsewhere obj apart]
      exact present other (List.mem_cons_of_mem socket member)

theorem create_returns (s : State) (checked : Bool) (socket : Int) (tagType : TagType) (tagValue : TagValue)
    (state : ConnectStateType) (sn : Nat) :
    ∃ answer, createConnectObj s checked socket tagType tagValue state sn = some answer := by
  unfold createConnectObj
  split
  · exact ⟨_, rfl⟩
  · split
    · exact ⟨_, rfl⟩
    · obtain ⟨address, rest, free⟩ := ObjectPool.refill_free_some false s.pool
      unfold mallocObject
      rw [free]
      exact ⟨_, rfl⟩

theorem listen_key_returns {s : State} (paired : PairedUp s) (identify : NetIdentify) :
    ∃ network, NetworkConnects.handleListenKey s.network identify = some network := by
  unfold NetworkConnects.handleListenKey
  split
  · exact ⟨_, rfl⟩
  · cases found : s.network.sockets[identify.socketKey.socket]? with
    | none => exact ⟨_, rfl⟩
    | some listed =>
        rw [paired] at found
        obtain ⟨obj, there, -⟩ := Option.map_eq_some_iff.mp found
        rw [there]
        exact ⟨_, rfl⟩

theorem handle_returns {s : State} (held : Held s) (paired : PairedUp s) (event : Event) :
    ∃ after, handle s event = some after := by
  have listed : ∀ socket ∈ s.network.sockets.keys, (s.network.connects[socket]?).isSome := by
    intro socket member
    have present := Std.ExtTreeMap.mem_iff_isSome_getElem?.mp (Std.ExtTreeMap.mem_keys.mp member)
    rwa [paired socket, Option.isSome_map] at present
  cases event with
  | backToPool =>
      obtain ⟨cleared, done⟩ := clear_each_returns s.network.sockets.keys (closeMaster s)
        Std.ExtTreeMap.nodup_keys (by rw [(held_close_master held).2.2]; exact listed)
      exact ⟨_, by rw [handle, backToPool, done]; rfl⟩
  | accept socket checked sn =>
      obtain ⟨answer, done⟩ := create_returns (give s socket) checked socket .none ⟨[], 0⟩ .connected sn
      exact ⟨_, by rw [handle, accept, done]; rfl⟩
  | connect socket refused checked tagType tagValue state sn =>
      rw [handle, connect]
      cases refused with
      | true => exact ⟨_, rfl⟩
      | false =>
          obtain ⟨answer, done⟩ := create_returns (give s socket) checked socket tagType tagValue state sn
          exact ⟨_, by rw [done]; rfl⟩
  | listenKey identify =>
      obtain ⟨network, done⟩ := listen_key_returns paired identify
      exact ⟨_, by rw [handle, handleListenKey, done]; rfl⟩
  | select flags => exact select_each_returns flags _ s Std.ExtTreeMap.nodup_keys listed
  | _ => exact ⟨_, rfl⟩

/-- The table is as claimed in every state of a run exactly if every step of the
run meets the condition. -/
theorem connection_table_iff (polls : Polls) (networkType : NetworkType) (trace : List Event) (after : State) :
    Run (Guarded Step Sane) (start polls networkType) trace after ↔
      Run (Along Step Good) (start polls networkType) trace after := by
  apply @guarded_iff_lawful _ _ Step Sane (fun _ _ next => Good next) fun s => Held s ∧ PairedUp s
  · rintro before event next ⟨held, paired⟩ taken
    have decided : Sane before event ↔ Good next := by
      constructor
      · intro sane
        obtain ⟨held', paired'⟩ := step_inv held paired taken sane
        exact good_of_held held' paired'
      · exact step_sane held taken
    exact ⟨decided, fun good => step_inv held paired taken (decided.mpr good)⟩
  · exact start_held polls networkType

theorem run_returns {polls : Polls} {networkType : NetworkType} {trace : List Event} {after : State}
    (run : Run (Guarded Step Sane) (start polls networkType) trace after) (event : Event) :
    ∃ next, handle after event = some next := by
  have kept : Held after ∧ PairedUp after := by
    apply run_invariant (fun s => Held s ∧ PairedUp s) _ run (start_held polls networkType)
    rintro before event next ⟨held, paired⟩ ⟨taken, sane⟩
    exact step_inv held paired taken sane
  exact handle_returns kept.1 kept.2 event

def listening : State := awake (start .epoll .tcpListen) 3 true

/-- A client that resets its connection before it is accepted, and a request to
disconnect descriptor 6000. -/
theorem closed_twice :
    (∃ after, Run Step (start .epoll .tcpListen) [.awake 3 true, .accept 5 false 1] after ∧ ¬Good after) ∧
    ∃ after, Run Step (start .epoll .tcpListen)
      [.awake 3 true, .disconnect ⟨⟨6000, .tcpListen⟩, clear⟩] after ∧ ¬Good after := by
  have opened : Step (start .epoll .tcpListen) (.awake 3 true) listening :=
    ⟨⟨rfl, Or.inr (by decide)⟩, rfl⟩
  constructor
  · refine ⟨close (close (give listening 5) 5) 5, .next opened (.next ⟨?_, rfl⟩ (.refl _)), ?_⟩
    · refine ⟨rfl, rfl, by decide, by decide, by decide, ?_, List.not_mem_nil⟩
      exact entry_none.mpr ⟨Std.ExtTreeMap.getElem?_empty, Std.ExtTreeMap.getElem?_empty⟩
    · intro good
      have twice := good.once 5
      rw [close_closes (by decide), close_closes (by decide), give_closes] at twice
      omega
  · refine ⟨handleDisconnect listening ⟨⟨6000, .tcpListen⟩, clear⟩,
      .next opened (.next ⟨rfl, rfl⟩ (.refl _)), ?_⟩
    intro good
    have inRange := disconnect_sane good rfl
    exact absurd inRange.2 (by decide)

end GameBook.ConnectionRuns
