import GameBook.LoginAttempts

/-!
What is under way for a client of the login process, and what the events of the
http connector make of it: an order becomes a request, a request a connection.
-/

namespace GameBook.VerificationConnects

open OrderedMap SocketObject CString LabelledRun LoginAttempts
open NetworkConnects (ConnectObj ConnectStateType awake removeConnectObj remove_connects
  handle_disconnect_cases)
open OutgoingConnects (Connector ConnectDetail NetworkConnect Outcome Waiting close
  changeStateToConnected connectOne connectEach swapConnecting addRequest createObj)
open PacketPool (entry entry_of_objs)
open ConnectsAnnounced (Waits waits_congr waits_add waits_swap waits_opened create_obj_cases)

variable {Proto : Type}

/-! ### What is under way -/

theorem under_way_more {s t : Login Proto} {besides : Besides} {name : Str}
    (way : UnderWay s besides name) (queries : s.queries ⊆ t.queries)
    (replies : s.replies ⊆ t.replies) (orders : s.connector.orders ⊆ t.connector.orders)
    (network : t.connector.network = s.connector.network)
    (connecting : t.connector.connecting = s.connector.connecting)
    (requests : t.connector.requests = s.connector.requests)
    (responses : s.responses <+: t.responses) (responded : t.responded = s.responded) :
    UnderWay t besides name := by
  cases way with
  | query listed => exact .query (queries listed)
  | reply offline listed => exact .reply offline (replies listed)
  | order order listed own names => exact .order order (orders listed) (network ▸ own) names
  | request index detail waiting asked names =>
      refine .request index detail ?_ (requests ▸ asked) names
      rw [Waiting, connecting]
      exact waiting
  | connection socket obj apart held tagged silent =>
      exact .connection socket obj apart (network ▸ held) tagged (responded ▸ silent)
  | response index response apart listed tagged =>
      refine .response index response apart ?_ tagged
      obtain ⟨later, same⟩ := responses
      obtain ⟨below, _⟩ := List.getElem?_eq_some_iff.mp listed
      rw [← same, List.getElem?_append_left below, listed]

theorem under_way_same {s t : Login Proto} {besides : Besides} {name : Str}
    (way : UnderWay s besides name) (queries : t.queries = s.queries)
    (replies : t.replies = s.replies) (connector : t.connector = s.connector)
    (responses : t.responses = s.responses) (responded : t.responded = s.responded) :
    UnderWay t besides name := by
  apply under_way_more way
  · rw [queries]
    exact List.Subset.refl _
  · rw [replies]
    exact List.Subset.refl _
  · rw [connector]
    exact List.Subset.refl _
  · rw [connector]
  · rw [connector]
  · rw [connector]
  · simp only [responses, List.prefix_refl]
  · exact responded

theorem under_way_besides {s : Login Proto} {socket : Int} {client : Int} {name : Str}
    (spare : SpareOn s socket) (asks : s.asking client = some name)
    (way : UnderWay s .nothing name) : UnderWay s (.connection socket) name := by
  cases way with
  | query listed => exact .query listed
  | reply offline listed => exact .reply offline listed
  | order order listed own names => exact .order order listed own names
  | request index detail waiting asked names => exact .request index detail waiting asked names
  | connection other obj _ held tagged silent =>
      by_cases same : other = socket
      · subst same
        exact spare obj held client name asks tagged
      · exact .connection other obj (fun equal => same (Besides.connection.inj equal).symm) held
          tagged silent
  | response index response _ listed tagged => exact .response index response nofun listed tagged

theorem under_way_closed {s : Login Proto} {socket : Int} {name : Str} (obj : ConnectObj)
    (way : UnderWay s (.connection socket) name) :
    UnderWay { s with connector := close s.connector socket obj } .nothing name := by
  cases way with
  | query listed => exact .query listed
  | reply offline listed => exact .reply offline listed
  | order order listed own names => exact .order order listed own names
  | request index detail waiting asked names => exact .request index detail waiting asked names
  | connection other obj apart held tagged silent =>
      refine .connection other obj nofun ?_ tagged silent
      have differs : other ≠ socket := by
        rintro rfl
        exact apart rfl
      exact (remove_connects _ socket other).trans ((if_neg differs).trans held)
  | response index response _ listed tagged => exact .response index response nofun listed tagged

theorem under_way_established {s : Login Proto} {socket : Int} {obj : ConnectObj} {name : Str}
    (held : s.connector.network.connects[socket]? = some obj) (way : UnderWay s .nothing name) :
    UnderWay { s with connector := changeStateToConnected s.connector socket obj } .nothing name := by
  cases way with
  | query listed => exact .query listed
  | reply offline listed => exact .reply offline listed
  | order order listed own names => exact .order order listed own names
  | request index detail waiting asked names => exact .request index detail waiting asked names
  | connection other found apart there tagged silent =>
      have connects : (changeStateToConnected s.connector socket obj).network.connects[other]? =
          if other = socket then some { obj with state := .connected }
          else s.connector.network.connects[other]? := get_insert _ socket other _
      by_cases same : other = socket
      · subst same
        rw [held] at there
        cases there
        exact .connection other { obj with state := .connected } apart
          (connects.trans (if_pos rfl)) tagged silent
      · exact .connection other found apart (connects.trans ((if_neg same).trans there)) tagged silent
  | response index response apart listed tagged => exact .response index response apart listed tagged

theorem stays_of_taken {α : Type} {list : List α} {index : Nat} {taken item : α}
    (there : list[index]? = some taken) (listed : item ∈ list) (differs : taken ≠ item) :
    item ∈ list.eraseIdx index := by
  obtain ⟨place, held⟩ := List.mem_iff_getElem?.mp listed
  refine List.mem_eraseIdx_iff_getElem?.mpr ⟨place, ?_, held⟩
  rintro rfl
  rw [there] at held
  exact differs (Option.some.inj held)

theorem under_way_reply {s : Login Proto} {index : Nat} {reply : OnlineRs} {name : Str}
    (taken : s.replies[index]? = some reply) (way : UnderWay s .nothing name) :
    name = reply.account ∨
      UnderWay { s with replies := s.replies.eraseIdx index } .nothing name := by
  cases way with
  | query listed => exact Or.inr (.query listed)
  | reply offline listed =>
      by_cases same : reply = ⟨name, offline⟩
      · left
        rw [same]
      · right
        exact .reply offline (stays_of_taken taken listed same)
  | order order listed own names => exact Or.inr (.order order listed own names)
  | request index detail waiting asked names =>
      exact Or.inr (.request index detail waiting asked names)
  | connection socket obj apart held tagged silent =>
      exact Or.inr (.connection socket obj apart held tagged silent)
  | response index response apart listed tagged =>
      exact Or.inr (.response index response apart listed tagged)

theorem under_way_redis {s : Login Proto} {index : Nat} {account name : Str} (offline : Bool)
    (taken : s.queries[index]? = some account) (plain : cStr name = name)
    (way : UnderWay s .nothing name) :
    UnderWay { s with
      queries := s.queries.eraseIdx index
      replies := s.replies ++ [⟨cStr account, offline⟩] } .nothing name := by
  cases way with
  | query listed =>
      by_cases same : account = name
      · subst same
        refine .reply offline ?_
        rw [plain]
        exact List.mem_append_right _ List.mem_cons_self
      · exact .query (stays_of_taken taken listed same)
  | reply offline listed => exact .reply offline (List.mem_append_left _ listed)
  | order order listed own names => exact .order order listed own names
  | request index detail waiting asked names => exact .request index detail waiting asked names
  | connection socket obj apart held tagged silent =>
      exact .connection socket obj apart held tagged silent
  | response index response apart listed tagged => exact .response index response apart listed tagged

theorem under_way_response {s : Login Proto} {index : Nat} {response : Response} {name : Str}
    (taken : s.responses[index]? = some response) (way : UnderWay s .nothing name) :
    Tagged response.identify.tagKey name ∨ UnderWay s (.response index) name := by
  cases way with
  | query listed => exact Or.inr (.query listed)
  | reply offline listed => exact Or.inr (.reply offline listed)
  | order order listed own names => exact Or.inr (.order order listed own names)
  | request index detail waiting asked names =>
      exact Or.inr (.request index detail waiting asked names)
  | connection socket obj _ held tagged silent =>
      exact Or.inr (.connection socket obj nofun held tagged silent)
  | response place other _ listed tagged =>
      by_cases same : place = index
      · subst same
        rw [taken] at listed
        cases listed
        exact Or.inl tagged
      · exact Or.inr (.response place other
          (fun equal => same (Besides.response.inj equal).symm) listed tagged)

theorem under_way_responded {s : Login Proto} {index : Nat} {name : Str}
    (way : UnderWay s (.response index) name) :
    UnderWay { s with responses := s.responses.eraseIdx index } .nothing name := by
  cases way with
  | query listed => exact .query listed
  | reply offline listed => exact .reply offline listed
  | order order listed own names => exact .order order listed own names
  | request index detail waiting asked names => exact .request index detail waiting asked names
  | connection socket obj _ held tagged silent => exact .connection socket obj nofun held tagged silent
  | response place response apart listed tagged =>
      have differs : place ≠ index := by
        rintro rfl
        exact apart rfl
      have kept : response ∈ s.responses.eraseIdx index :=
        List.mem_eraseIdx_iff_getElem?.mpr ⟨place, differs, listed⟩
      obtain ⟨now, there⟩ := List.mem_iff_getElem?.mp kept
      exact .response now response nofun there tagged

/-! ### The connector -/

/-- The requests that wait are those no connection was made for, and all that is
said of a connection names an http socket. -/
structure Http (c : Connector) : Prop where
  waits : Waits c
  typed : c.network.networkType = .httpConnector
  keyed : ∀ (socket : Int) (obj : ConnectObj), c.network.connects[socket]? = some obj →
    obj.socketKey.netType = .httpConnector
  closed : ∀ closed ∈ c.disconnects, closed.socketKey.netType = .httpConnector

theorem http_start : Http (OutgoingConnects.start .httpConnector) where
  waits := by
    have inv : ConnectsAnnounced.Inv (fun _ _ => none) (OutgoingConnects.start .httpConnector) :=
      ConnectsAnnounced.inv_start .httpConnector
    exact inv.waits
  typed := rfl
  keyed := by
    intro socket obj held
    simp [OutgoingConnects.start, NetworkConnects.create] at held
  closed := by
    intro closed member
    cases member

theorem http_orders {c : Connector} (http : Http c) (orders : List NetworkConnect) :
    Http { c with orders := orders } :=
  ⟨waits_congr http.waits rfl rfl rfl, http.typed, http.keyed, http.closed⟩

theorem http_close {c : Connector} (http : Http c) (socket : Int) (obj : ConnectObj)
    (held : c.network.connects[socket]? = some obj) : Http (close c socket obj) := by
  refine ⟨waits_congr http.waits rfl rfl rfl, http.typed, ?_, ?_⟩
  · intro other found there
    have kept : (removeConnectObj c.network socket).connects[other]? = some found := there
    rw [remove_connects] at kept
    split at kept
    · cases kept
    · exact http.keyed other found kept
  · intro closed member
    rcases List.mem_append.mp member with older | last
    · exact http.closed closed older
    · rw [List.mem_singleton.mp last]
      exact http.keyed socket obj held

theorem http_established {c : Connector} (http : Http c) (socket : Int) (obj : ConnectObj)
    (held : c.network.connects[socket]? = some obj) :
    Http (changeStateToConnected c socket obj) := by
  refine ⟨waits_congr http.waits rfl rfl rfl, http.typed, ?_, http.closed⟩
  intro other found there
  have connects : (changeStateToConnected c socket obj).network.connects[other]? =
      if other = socket then some { obj with state := .connected }
      else c.network.connects[other]? := get_insert _ socket other _
  rw [connects] at there
  split at there
  · cases there
    exact http.keyed socket obj held
  · exact http.keyed other found there

theorem request_disconnect_cases (c : Connector) (identify : NetIdentify) :
    OutgoingConnects.requestDisconnect c identify = c ∨
    ∃ obj, identify.socketKey.netType = c.network.networkType ∧
      c.network.connects[identify.socketKey.socket]? = some obj ∧
      OutgoingConnects.requestDisconnect c identify = close c identify.socketKey.socket obj := by
  unfold OutgoingConnects.requestDisconnect
  rcases handle_disconnect_cases c.network identify with same | ⟨obj, own, held, closed⟩
  · left
    rw [same]
    simp
  · right
    refine ⟨obj, own, held, ?_⟩
    rw [closed]
    rfl

theorem http_add {c : Connector} (http : Http c) (sn : Nat) (detail : ConnectDetail)
    (fresh : entry c.connecting sn = none) : Http (addRequest c sn detail) :=
  ⟨waits_add http.waits sn detail fresh, http.typed, http.keyed, http.closed⟩

theorem handle_connect_cases {c after : Connector} {sn : Nat}
    (taken : OutgoingConnects.handleNetworkConnect c sn = some after) :
    ∃ order rest, c.orders = order :: rest ∧
      ((order.networkType ≠ c.network.networkType ∧ after = { c with orders := rest }) ∨
        (order.networkType = c.network.networkType ∧
          after = addRequest { c with orders := rest } sn order.detail)) := by
  unfold OutgoingConnects.handleNetworkConnect at taken
  split at taken
  · cases taken
  · rename_i order rest pending
    refine ⟨order, rest, pending, ?_⟩
    split at taken
    · rename_i other
      cases taken
      exact Or.inl ⟨other, rfl⟩
    · rename_i own
      cases taken
      exact Or.inr ⟨not_not.mp own, rfl⟩

theorem under_way_ordered {s : Login Proto} (http : Http s.connector) {sn : Nat}
    {connector : Connector} {name : Str}
    (fresh : ∀ order rest, s.connector.orders = order :: rest →
      order.networkType = s.connector.network.networkType →
        entry s.connector.connecting sn = none)
    (taken : OutgoingConnects.handleNetworkConnect s.connector sn = some connector)
    (way : UnderWay s .nothing name) :
    Http connector ∧ UnderWay { s with connector := connector } .nothing name := by
  obtain ⟨order, rest, pending, ⟨other, rfl⟩ | ⟨own, rfl⟩⟩ := handle_connect_cases taken
  · refine ⟨http_orders http rest, ?_⟩
    cases way with
    | query listed => exact .query listed
    | reply offline listed => exact .reply offline listed
    | order order' listed own names =>
        rw [pending] at listed
        rcases List.mem_cons.mp listed with rfl | later
        · exact absurd own other
        · exact .order order' later own names
    | request index detail waiting asked names => exact .request index detail waiting asked names
    | connection socket obj apart held tagged silent =>
        exact .connection socket obj apart held tagged silent
    | response index response apart listed tagged =>
        exact .response index response apart listed tagged
  · have unused := fresh order rest pending own
    have added := http_add (http_orders http rest) sn order.detail unused
    refine ⟨added, ?_⟩
    cases way with
    | query listed => exact .query listed
    | reply offline listed => exact .reply offline listed
    | order order' listed own names =>
        rw [pending] at listed
        rcases List.mem_cons.mp listed with rfl | later
        · have asked : (addRequest { s.connector with orders := rest } sn
              order'.detail).requests[s.connector.requests.length]? = some order'.detail := by
            simp [addRequest]
          obtain ⟨below, _⟩ := List.getElem?_eq_some_iff.mp asked
          refine .request _ order'.detail ?_ asked names
          apply (added.waits.waiting _ below).mpr
          intro member
          exact absurd (http.waits.made _ member) (Nat.lt_irrefl _)
        · exact .order order' later own names
    | request index detail waiting asked names =>
        obtain ⟨below, _⟩ := List.getElem?_eq_some_iff.mp asked
        have kept : (addRequest { s.connector with orders := rest } sn
            order.detail).requests[index]? = some detail := by
          rw [addRequest, List.getElem?_append_left below]
          exact asked
        obtain ⟨inside, _⟩ := List.getElem?_eq_some_iff.mp kept
        refine .request index detail ?_ kept names
        exact (added.waits.waiting index inside).mpr ((http.waits.waiting index below).mp waiting)
    | connection socket obj apart held tagged silent =>
        exact .connection socket obj apart held tagged silent
    | response index response apart listed tagged =>
        exact .response index response apart listed tagged

/-! ### Update -/

inductive Fetching (c : Connector) (responded : Int → Bool) (name : Str) : Prop where
  | request (index : Nat) (detail : ConnectDetail) (asked : c.requests[index]? = some detail)
      (fresh : index ∉ c.created) (names : IsFor detail name)
  | connection (socket : Int) (obj : ConnectObj)
      (held : c.network.connects[socket]? = some obj) (tagged : Tagged obj.tagKey name)
      (silent : responded socket = false)

/-- The connection made for a request is tagged with its account. -/
theorem tagged_awake {detail : ConnectDetail} {name : Str} (names : IsFor detail name)
    (socket : Int) (networkType : NetworkType) (state : ConnectStateType) (number : Nat) :
    Tagged (awake socket networkType detail.tagType detail.tagValue state number).tagKey name := by
  obtain ⟨type, value⟩ := names
  refine ⟨⟨name, 0⟩, ?_, rfl⟩
  simp [awake, type, value, addTag, addTagStr]

structure Turn (responded : Int → Bool) (outcome : Nat → Outcome) (sn : Nat) (c after : Connector) :
    Prop where
  http : Http after
  fetching : ∀ name, Fetching c responded name → Fetching after responded name
  entries : ∀ other, entry after.connecting other = entry c.connecting other
  removes : ∀ other, other ≠ sn → other ∉ c.connecting.removes → other ∉ after.connecting.removes
  free : ∀ other : Int, made (outcome sn) ≠ some other → c.network.connects[other]? = none →
    after.network.connects[other]? = none
  orders : after.orders = c.orders

theorem turn_refl {c : Connector} (http : Http c) (responded : Int → Bool) (outcome : Nat → Outcome)
    (sn : Nat) : Turn responded outcome sn c c where
  http := http
  fetching _ way := way
  entries _ := rfl
  removes _ _ outside := outside
  free _ _ none := none
  orders := rfl

theorem turn_created {c : Connector} (http : Http c) (responded : Int → Bool)
    (outcome : Nat → Outcome) (sn index : Nat) (socket : Int) (detail : ConnectDetail)
    (state : ConnectStateType) (held : entry c.connecting sn = some index)
    (kept : sn ∉ c.connecting.removes) (asked : c.requests[index]? = some detail)
    (given : made (outcome sn) = some socket) (free : c.network.connects[socket]? = none)
    (silent : responded socket = false) :
    Turn responded outcome sn c { c with
      network := { c.network with
        connects := c.network.connects.insert socket
          (awake socket c.network.networkType detail.tagType detail.tagValue state c.created.length)
        sockets := c.network.sockets.insert socket () }
      created := c.created ++ [index]
      connecting := PacketPool.removeObj c.connecting sn } := by
  have waits := waits_opened http.waits sn index socket detail held kept
  have connects : ∀ other : Int, (c.network.connects.insert socket
      (awake socket c.network.networkType detail.tagType detail.tagValue state
        c.created.length))[other]? =
      if other = socket then some (awake socket c.network.networkType detail.tagType
        detail.tagValue state c.created.length) else c.network.connects[other]? :=
    fun other => get_insert _ socket other _
  constructor
  · refine ⟨waits_congr waits rfl rfl rfl, http.typed, ?_, http.closed⟩
    intro other obj there
    dsimp only at there
    rw [connects] at there
    split at there
    · cases there
      exact http.typed
    · exact http.keyed other obj there
  · intro name way
    cases way with
    | request place detail' asked' fresh names =>
        by_cases same : place = index
        · subst same
          rw [asked] at asked'
          cases asked'
          exact .connection socket _ ((connects socket).trans (if_pos rfl))
            (tagged_awake names socket _ state _) silent
        · refine .request place detail' asked' ?_ names
          intro member
          rcases List.mem_append.mp member with older | last
          · exact fresh older
          · exact same (List.mem_singleton.mp last)
    | connection other obj there tagged quiet =>
        refine .connection other obj ?_ tagged quiet
        have differs : other ≠ socket := by
          rintro rfl
          rw [free] at there
          cases there
        exact (connects other).trans ((if_neg differs).trans there)
  · intro other
    rfl
  · intro other apart outside member
    rcases List.mem_append.mp member with older | last
    · exact outside older
    · exact apart (List.mem_singleton.mp last)
  · intro other apart none
    have differs : other ≠ socket := by
      rintro rfl
      exact apart given
    exact (connects other).trans ((if_neg differs).trans none)
  · rfl

theorem turn_one {c : Connector} (http : Http c) (responded : Int → Bool)
    (outcome : Nat → Outcome) (sn index : Nat) (held : entry c.connecting sn = some index)
    (kept : sn ∉ c.connecting.removes)
    (free : ∀ socket, made (outcome sn) = some socket →
      c.network.connects[socket]? = none ∧ responded socket = false) :
    Turn responded outcome sn c (connectOne outcome c sn index) := by
  have below := http.waits.bound sn index held
  have asked : c.requests[index]? = some c.requests[index] := List.getElem?_eq_getElem below
  generalize c.requests[index] = detail at asked
  have creates : ∀ socket checked state,
      (checked = true → made (outcome sn) = some socket) →
      ∀ good after, createObj c index detail socket checked state = (good, after) →
        Turn responded outcome sn c
          (if good then { after with connecting := PacketPool.removeObj after.connecting sn } else after) := by
    intro socket checked state given good after taken
    rcases create_obj_cases c index detail socket checked state with
      same | ⟨obj, there, same⟩ | ⟨good, same⟩
    · rw [same] at taken
      cases taken
      exact turn_refl http responded outcome sn
    · -- an object under a socket that was not free: only where it was not checked
      cases checked with
      | false =>
          have same' : createObj c index detail socket false state = (false, c) := by
            simp [createObj, NetworkConnects.createConnectObj]
          rw [same'] at taken
          cases taken
          exact turn_refl http responded outcome sn
      | true =>
          rw [(free socket (given rfl)).1] at there
          cases there
    · rw [same] at taken
      cases taken
      obtain ⟨none, silent⟩ := free socket (given good)
      exact turn_created http responded outcome sn index socket detail state held kept asked
        (given good) none silent
  simp only [connectOne, asked]
  cases result : outcome sn with
  | noSocket => exact turn_refl http responded outcome sn
  | error => exact turn_refl http responded outcome sn
  | done socket checked =>
      have given : checked = true → made (outcome sn) = some socket := by
        rintro rfl
        rw [result, made]
      have turned := creates socket checked .connected given
      simp only [OutgoingConnects.connect]
      cases taken : createObj c index detail socket checked .connected with
      | mk good after =>
          cases good with
          | false => exact turned false after taken
          | true => exact turned true after taken
  | waiting socket checked =>
      have given : checked = true → made (outcome sn) = some socket := by
        rintro rfl
        rw [result, made]
      have turned := creates socket checked .connecting given
      simp only [OutgoingConnects.connect]
      cases taken : createObj c index detail socket checked .connecting with
      | mk good after =>
          cases good with
          | false => exact turned false after taken
          | true => exact turned true after taken

theorem turn_each (responded : Int → Bool) (outcome : Nat → Outcome)
    (apart : ∀ first second socket, made (outcome first) = some socket →
      made (outcome second) = some socket → first = second)
    (list : List (Nat × Nat)) (c : Connector) (http : Http c)
    (distinct : (list.map Prod.fst).Nodup)
    (waiting : ∀ pair ∈ list, entry c.connecting pair.1 = some pair.2 ∧
      pair.1 ∉ c.connecting.removes)
    (free : ∀ pair ∈ list, ∀ socket, made (outcome pair.1) = some socket →
      c.network.connects[socket]? = none ∧ responded socket = false) :
    Http (connectEach outcome list c) ∧ (connectEach outcome list c).orders = c.orders ∧
      ∀ name, Fetching c responded name →
        Fetching (connectEach outcome list c) responded name := by
  induction list generalizing c with
  | nil => exact ⟨http, rfl, fun _ way => way⟩
  | cons first rest ih =>
      obtain ⟨sn, index⟩ := first
      rw [List.map_cons, List.nodup_cons] at distinct
      obtain ⟨held, kept⟩ := waiting (sn, index) List.mem_cons_self
      have turn := turn_one http responded outcome sn index held kept
        (free (sn, index) List.mem_cons_self)
      have differs : ∀ pair ∈ rest, pair.1 ≠ sn := by
        intro pair member same
        have inside : pair.1 ∈ rest.map Prod.fst := List.mem_map_of_mem member
        rw [same] at inside
        exact distinct.1 inside
      obtain ⟨later, orders, fetching⟩ := ih (connectOne outcome c sn index) turn.http distinct.2
        (by
          intro pair member
          obtain ⟨there, outside⟩ := waiting pair (List.mem_cons_of_mem _ member)
          exact ⟨(turn.entries pair.1).trans there,
            turn.removes pair.1 (differs pair member) outside⟩)
        (by
          intro pair member socket given
          obtain ⟨none, silent⟩ := free pair (List.mem_cons_of_mem _ member) socket given
          refine ⟨turn.free socket ?_ none, silent⟩
          intro also
          exact differs pair member (apart pair.1 sn socket given also))
      exact ⟨later, orders.trans turn.orders, fun name way => fetching name (turn.fetching name way)⟩

theorem http_swap {c : Connector} (http : Http c) :
    Http (swapConnecting c) ∧ (swapConnecting c).connecting.removes = [] ∧
      (swapConnecting c).network = c.network ∧ (swapConnecting c).requests = c.requests ∧
      (swapConnecting c).created = c.created ∧ (swapConnecting c).orders = c.orders := by
  obtain ⟨waits, none⟩ := waits_swap http.waits
  have rest : (swapConnecting c).network = c.network ∧ (swapConnecting c).requests = c.requests ∧
      (swapConnecting c).created = c.created ∧ (swapConnecting c).orders = c.orders ∧
      (swapConnecting c).disconnects = c.disconnects := by
    unfold swapConnecting
    split
    · exact ⟨rfl, rfl, rfl, rfl, rfl⟩
    · exact ⟨rfl, rfl, rfl, rfl, rfl⟩
  obtain ⟨network, requests, created, orders, disconnects⟩ := rest
  refine ⟨⟨waits, ?_, ?_, ?_⟩, none, network, requests, created, orders⟩
  · rw [network]
    exact http.typed
  · rw [network]
    exact http.keyed
  · rw [disconnects]
    exact http.closed

theorem under_way_update {s : Login Proto} (http : Http s.connector) (outcome : Nat → Outcome)
    (unused : Unused s.connector outcome) :
    Http (update outcome s).connector ∧
      ∀ name, UnderWay s .nothing name → UnderWay (update outcome s) .nothing name := by
  obtain ⟨swapped, none, network, requests, created, orders⟩ := http_swap http
  have silent : ∀ socket : Int, s.connector.network.connects[socket]? = Option.none →
      (update outcome s).responded socket = false := by
    intro socket free
    have now : (update outcome s).responded socket =
        (s.responded socket && (s.connector.network.connects[socket]?).isSome) := rfl
    rw [now, free, Option.isSome_none, Bool.and_false]
  obtain ⟨after, same, fetching⟩ := turn_each (update outcome s).responded outcome unused.apart
    (swapConnecting s.connector).connecting.objs.toList (swapConnecting s.connector) swapped
    (by
      rw [List.nodup_iff_pairwise_ne, List.pairwise_map]
      apply List.Pairwise.imp _ Std.ExtTreeMap.distinct_keys_toList
      intro left right distinct same
      exact distinct (Std.LawfulEqOrd.compare_eq_iff_eq.mpr same))
    (by
      intro pair member
      have held := Std.ExtTreeMap.mem_toList_iff_getElem?_eq_some.mp member
      rw [none]
      exact ⟨entry_of_objs held, List.not_mem_nil⟩)
    (by
      intro pair _ socket given
      have free := unused.free pair.1 socket given
      rw [network]
      exact ⟨free, silent socket free⟩)
  refine ⟨after, ?_⟩
  -- what the connector had for an account it still has, as a request or a connection
  have kept : ∀ name, Fetching (swapConnecting s.connector) (update outcome s).responded name →
      UnderWay (update outcome s) .nothing name := by
    intro name way
    cases fetching name way with
    | request index detail asked fresh names =>
        obtain ⟨below, _⟩ := List.getElem?_eq_some_iff.mp asked
        exact .request index detail ((after.waits.waiting index below).mpr fresh) asked names
    | connection socket obj held tagged quiet =>
        exact .connection socket obj nofun held tagged quiet
  intro name way
  cases way with
  | query listed => exact .query listed
  | reply offline listed => exact .reply offline listed
  | order order listed own names =>
      refine .order order ?_ ?_ names
      · have there : order ∈ (connectEach outcome
            (swapConnecting s.connector).connecting.objs.toList
            (swapConnecting s.connector)).orders := by
          rw [same, orders]
          exact listed
        exact there
      · exact own.trans (http.typed.trans after.typed.symm)
  | request index detail waiting asked names =>
      apply kept name
      obtain ⟨below, _⟩ := List.getElem?_eq_some_iff.mp asked
      have fresh := (http.waits.waiting index below).mp waiting
      exact .request index detail (by rw [requests, asked]) (by rw [created]; exact fresh) names
  | connection socket obj _ held tagged quiet =>
      apply kept name
      refine .connection socket obj (by rw [network, held]) tagged ?_
      simp [update, quiet]
  | response index response _ listed tagged => exact .response index response nofun listed tagged

end GameBook.VerificationConnects
