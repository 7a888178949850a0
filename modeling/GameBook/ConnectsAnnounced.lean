import GameBook.OutgoingConnects

/-!
Along runs in which no `connect()` is done at once, a request of a connector
waits exactly until its connection is made, a connection is announced when it is
established and before anything is dispatched from it, and a lost connection to
an application is requested again.
-/

namespace GameBook.ConnectsAnnounced

open OrderedMap SocketObject AppKey LabelledRun OutgoingConnects
open NetworkConnects (ConnectStateType ConnectObj Closed Network createConnectObj removeConnectObj
  writeBack backToPool handleDisconnect awake remove_connects handle_disconnect_cases)
open PacketPool (CacheRefresh emptyCache addObj removeObj canSwap swap entry entry_add_obj
  entry_of_objs entry_none swap_entry swap_objs can_swap_false)

/-! ### Requests -/

structure Waits (s : Connector) : Prop where
  bound : ∀ sn index, entry s.connecting sn = some index → index < s.requests.length
  single : ∀ first second index, entry s.connecting first = some index →
    entry s.connecting second = some index → first = second
  removes : ∀ sn ∈ s.connecting.removes, ∃ index, entry s.connecting sn = some index
  waiting : ∀ index < s.requests.length, Waiting s index ↔ index ∉ s.created
  made : ∀ index ∈ s.created, index < s.requests.length
  once : s.created.Nodup

theorem waits_congr {s other : Connector} (waits : Waits s)
    (connecting : other.connecting = s.connecting) (requests : other.requests = s.requests)
    (created : other.created = s.created) : Waits other := by
  obtain ⟨bound, single, removes, waiting, made, once⟩ := waits
  constructor <;> simp only [Waiting, connecting, requests, created] at * <;> assumption

theorem waits_add {s : Connector} (waits : Waits s) (sn : Nat) (detail : ConnectDetail)
    (fresh : entry s.connecting sn = none) : Waits (addRequest s sn detail) := by
  have entries : ∀ other, entry (addRequest s sn detail).connecting other =
      if other = sn then some s.requests.length else entry s.connecting other :=
    fun other => entry_add_obj s.connecting sn s.requests.length other fresh
  have length : (addRequest s sn detail).requests.length = s.requests.length + 1 :=
    List.length_append
  have unmarked : sn ∉ s.connecting.removes := by
    intro member
    obtain ⟨index, held⟩ := waits.removes sn member
    rw [fresh] at held
    cases held
  have still : ∀ index, index < s.requests.length →
      (Waiting (addRequest s sn detail) index ↔ Waiting s index) := by
    intro index below
    constructor
    · rintro ⟨other, held, kept⟩
      rw [entries] at held
      split at held
      · have same : s.requests.length = index := Option.some.inj held
        omega
      · exact ⟨other, held, kept⟩
    · rintro ⟨other, held, kept⟩
      have apart : other ≠ sn := by
        rintro rfl
        rw [fresh] at held
        cases held
      exact ⟨other, by rw [entries, if_neg apart, held], kept⟩
  constructor
  · intro other index held
    rw [entries] at held
    rw [length]
    split at held
    · have same : s.requests.length = index := Option.some.inj held
      omega
    · exact Nat.lt_succ_of_lt (waits.bound other index held)
  · intro first second index one two
    rw [entries] at one two
    split at one <;> split at two
    · rename_i left right
      rw [left, right]
    · have same : s.requests.length = index := Option.some.inj one
      have below := waits.bound second index two
      omega
    · have same : s.requests.length = index := Option.some.inj two
      have below := waits.bound first index one
      omega
    · exact waits.single first second index one two
  · intro other member
    obtain ⟨index, held⟩ := waits.removes other member
    have apart : other ≠ sn := by
      rintro rfl
      exact unmarked member
    exact ⟨index, by rw [entries, if_neg apart, held]⟩
  · intro index below
    rw [length] at below
    by_cases last : index < s.requests.length
    · rw [still index last]
      exact waits.waiting index last
    · have same : index = s.requests.length := by omega
      subst same
      constructor
      · intro _ member
        exact last (waits.made _ member)
      · intro _
        exact ⟨sn, by rw [entries, if_pos rfl], unmarked⟩
  · intro index member
    rw [length]
    exact Nat.lt_succ_of_lt (waits.made index member)
  · exact waits.once

theorem waits_swap {s : Connector} (waits : Waits s) :
    Waits (swapConnecting s) ∧ (swapConnecting s).connecting.removes = [] := by
  unfold swapConnecting
  cases turn : canSwap s.connecting with
  | false => exact ⟨waits, (can_swap_false turn).2⟩
  | true =>
      have entries : ∀ sn, entry (swap s.connecting).1 sn =
          if sn ∈ s.connecting.removes then none else entry s.connecting sn :=
        swap_entry s.connecting
      have older : ∀ sn index, entry (swap s.connecting).1 sn = some index →
          sn ∉ s.connecting.removes ∧ entry s.connecting sn = some index := by
        intro sn index held
        rw [entries] at held
        split at held
        · cases held
        · rename_i kept
          exact ⟨kept, held⟩
      rw [if_pos rfl]
      refine ⟨⟨?_, ?_, ?_, ?_, waits.made, waits.once⟩, rfl⟩
      · intro sn index held
        exact waits.bound sn index (older sn index held).2
      · intro first second index one two
        exact waits.single first second index (older first index one).2 (older second index two).2
      · intro sn member
        cases member
      · intro index below
        rw [← waits.waiting index below]
        constructor
        · rintro ⟨sn, held, _⟩
          obtain ⟨kept, there⟩ := older sn index held
          exact ⟨sn, there, kept⟩
        · rintro ⟨sn, held, kept⟩
          refine ⟨sn, ?_, by simp [swap]⟩
          dsimp only
          rw [entries, if_neg kept, held]

def opened (s : Connector) (sn index : Nat) (socket : Int) (detail : ConnectDetail) : Connector :=
  { s with
    network := { s.network with
      connects := s.network.connects.insert socket
        (awake socket s.network.networkType detail.tagType detail.tagValue .connecting
          s.created.length)
      sockets := s.network.sockets.insert socket () }
    created := s.created ++ [index]
    connecting := removeObj s.connecting sn }

theorem waits_opened {s : Connector} (waits : Waits s) (sn index : Nat) (socket : Int)
    (detail : ConnectDetail) (held : entry s.connecting sn = some index)
    (kept : sn ∉ s.connecting.removes) : Waits (opened s sn index socket detail) := by
  have below := waits.bound sn index held
  have fresh : index ∉ s.created := (waits.waiting index below).mp ⟨sn, held, kept⟩
  have removes : ∀ other, other ∈ (opened s sn index socket detail).connecting.removes ↔
      other ∈ s.connecting.removes ∨ other = sn := by
    intro other
    simp [opened, removeObj]
  constructor
  · exact waits.bound
  · exact waits.single
  · intro other member
    rcases (removes other).mp member with older | rfl
    · exact waits.removes other older
    · exact ⟨index, held⟩
  · intro other inside
    have was := waits.waiting other inside
    have created : other ∈ (opened s sn index socket detail).created ↔
        other ∈ s.created ∨ other = index := by
      simp [opened]
    rw [created, not_or, ← was]
    constructor
    · rintro ⟨key, there, unmarked⟩
      have apart := mt (removes key).mpr unmarked
      rw [not_or] at apart
      refine ⟨⟨key, there, apart.1⟩, ?_⟩
      rintro rfl
      exact apart.2 (waits.single key sn other there held)
    · rintro ⟨⟨key, there, unmarked⟩, differs⟩
      refine ⟨key, there, ?_⟩
      intro member
      rcases (removes key).mp member with older | rfl
      · exact unmarked older
      · have there' : entry s.connecting key = some other := there
        rw [held] at there'
        exact differs (Option.some.inj there').symm
  · intro other member
    rcases List.mem_append.mp member with older | last
    · exact waits.made other older
    · rw [List.mem_singleton.mp last]
      exact below
  · exact List.nodup_append.mpr ⟨waits.once, by simp, by
      rintro one member two single rfl
      rw [List.mem_singleton.mp single] at member
      exact fresh member⟩

/-! ### Connections -/

def tagsOf (detail : ConnectDetail) : TagKey :=
  if detail.tagType = .none then clear else addTag clear detail.tagType detail.tagValue

theorem tags_app (detail : ConnectDetail) :
    (detail.tagType = .app → ∃ tagValue, tagsOf detail .app = some tagValue ∧
      tagValue.keyInt64 = detail.tagValue.keyInt64) ∧
    (detail.tagType ≠ .app → tagsOf detail .app = none) := by
  unfold tagsOf
  constructor
  · intro isApp
    rw [isApp, if_neg (by decide)]
    by_cases zero : detail.tagValue.keyInt64 = 0
    · exact ⟨⟨detail.tagValue.keyStr, 0⟩, by simp [addTag, zero, addTagStr], zero.symm⟩
    · exact ⟨⟨[], detail.tagValue.keyInt64⟩, by simp [addTag, zero, addTagInt], rfl⟩
  · intro other
    split
    · rfl
    · rw [add_tag_other clear detail.tagType .app detail.tagValue (Ne.symm other)]
      rfl

structure Linked (s : Connector) : Prop where
  older : ∀ (socket : Int) (obj : ConnectObj), s.network.connects[socket]? = some obj →
    obj.number < s.created.length
  single : ∀ (first second : Int) (one two : ConnectObj), s.network.connects[first]? = some one →
    s.network.connects[second]? = some two → one.number = two.number → first = second
  state : ∀ (socket : Int) (obj : ConnectObj), s.network.connects[socket]? = some obj →
    obj.state ≠ .none ∧
      announcements s.log obj.number = if obj.state = .connected then 1 else 0
  tags : ∀ (socket : Int) (obj : ConnectObj), s.network.connects[socket]? = some obj →
    ∃ detail, requestOf s obj.number = some detail ∧ obj.tagKey = tagsOf detail
  future : ∀ number, s.created.length ≤ number → announcements s.log number = 0
  once : ∀ number, announcements s.log number ≤ 1
  identified : ∀ number appKey, .identified number appKey ∈ s.log →
    ∃ detail, requestOf s number = some detail ∧ detail.tagType = .app ∧
      detail.tagValue.keyInt64 = appKey
  connected : ∀ number, .connected number ∈ s.log →
    ∃ detail, requestOf s number = some detail ∧ detail.tagType ≠ .app
  first : ∀ front number rest, s.log = front ++ .dispatched number :: rest →
    announcements front number = 1

theorem linked_start (networkType : NetworkType) : Linked (start networkType) := by
  constructor
  · intro socket obj held
    simp [start, NetworkConnects.create] at held
  · intro one two left right held
    simp [start, NetworkConnects.create] at held
  · intro socket obj held
    simp [start, NetworkConnects.create] at held
  · intro socket obj held
    simp [start, NetworkConnects.create] at held
  · intro number _
    rfl
  · intro number
    exact Nat.zero_le 1
  · intro number appKey member
    cases member
  · intro number member
    cases member
  · intro front number rest same
    simp [start] at same

theorem linked_fewer {s other : Connector} (linked : Linked s)
    (connects : ∀ (socket : Int) (obj : ConnectObj), other.network.connects[socket]? = some obj →
      s.network.connects[socket]? = some obj)
    (created : other.created = s.created) (log : other.log = s.log)
    (requests : ∀ number detail, requestOf s number = some detail →
      requestOf other number = some detail) : Linked other := by
  constructor
  · intro socket obj held
    rw [created]
    exact linked.older socket obj (connects socket obj held)
  · intro first second one two left right same
    exact linked.single first second one two (connects first one left) (connects second two right) same
  · intro socket obj held
    rw [log]
    exact linked.state socket obj (connects socket obj held)
  · intro socket obj held
    obtain ⟨detail, asked, tags⟩ := linked.tags socket obj (connects socket obj held)
    exact ⟨detail, requests _ _ asked, tags⟩
  · rw [created, log]
    exact linked.future
  · rw [log]
    exact linked.once
  · intro number appKey member
    rw [log] at member
    obtain ⟨detail, asked, rest⟩ := linked.identified number appKey member
    exact ⟨detail, requests _ _ asked, rest⟩
  · intro number member
    rw [log] at member
    obtain ⟨detail, asked, rest⟩ := linked.connected number member
    exact ⟨detail, requests _ _ asked, rest⟩
  · rw [log]
    exact linked.first

theorem linked_close {s : Connector} (linked : Linked s) (socket : Int) (obj : ConnectObj) :
    Linked (close s socket obj) := by
  have fewer : ∀ (other : Int) (found : ConnectObj),
      (close s socket obj).network.connects[other]? = some found →
        s.network.connects[other]? = some found := by
    intro other found held
    have kept : (removeConnectObj s.network socket).connects[other]? = some found := held
    rw [remove_connects] at kept
    split at kept
    · cases kept
    · exact kept
  exact linked_fewer linked fewer rfl rfl fun _ _ asked => asked

theorem announcements_append (first second : List Record) (number : Nat) :
    announcements (first ++ second) number =
      announcements first number + announcements second number := by
  rw [announcements, List.filterMap_append, List.count_append]
  rfl

theorem announcement_count (obj : ConnectObj) (number : Nat) :
    announcements [announcement obj] number = if number = obj.number then 1 else 0 := by
  have named : announces (announcement obj) = some obj.number := by
    unfold announcement
    split <;> rfl
  rw [announcements, List.filterMap_cons_some named, List.filterMap_nil, List.count_singleton]
  by_cases same : number = obj.number
  · simp [same]
  · have other : ¬ obj.number = number := fun equal => same equal.symm
    simp [same, other]

theorem dispatched_before {log front rest : List Record} {record : Record} {number : Nat}
    (same : log ++ [record] = front ++ .dispatched number :: rest)
    (other : record ≠ .dispatched number) :
    ∃ later, log = front ++ .dispatched number :: later := by
  rcases List.eq_nil_or_concat' rest with rfl | ⟨later, last, rfl⟩
  · have parts := List.append_inj' same rfl
    exact absurd (List.singleton_inj.mp parts.2) other
  · have shifted : log ++ [record] = (front ++ .dispatched number :: later) ++ [last] := by
      rw [same]
      simp
    exact ⟨later, (List.append_inj' shifted rfl).1⟩

theorem linked_established {s : Connector} (linked : Linked s) (socket : Int) (obj : ConnectObj)
    (held : s.network.connects[socket]? = some obj) (connecting : obj.state = .connecting) :
    Linked (changeStateToConnected s socket obj) := by
  have connects : ∀ other : Int, (changeStateToConnected s socket obj).network.connects[other]? =
      if other = socket then some { obj with state := .connected }
      else s.network.connects[other]? :=
    fun other => get_insert s.network.connects socket other { obj with state := .connected }
  have counts : ∀ number, announcements (changeStateToConnected s socket obj).log number =
      announcements s.log number + if number = obj.number then 1 else 0 := by
    intro number
    rw [← announcement_count obj number]
    exact announcements_append s.log [announcement obj] number
  have none : announcements s.log obj.number = 0 := by
    have now := (linked.state socket obj held).2
    rw [connecting] at now
    exact now
  obtain ⟨detail, asked, tags⟩ := linked.tags socket obj held
  have older : ∀ (other : Int) (found : ConnectObj),
      (changeStateToConnected s socket obj).network.connects[other]? = some found →
        ∃ before, s.network.connects[other]? = some before ∧ before.number = found.number ∧
          before.tagKey = found.tagKey := by
    intro other found there
    rw [connects] at there
    split at there
    · rename_i same
      cases there
      exact ⟨obj, same ▸ held, rfl, rfl⟩
    · exact ⟨found, there, rfl, rfl⟩
  constructor
  · intro other found there
    obtain ⟨before, was, same, _⟩ := older other found there
    rw [← same]
    exact linked.older other before was
  · intro first second one two left right same
    obtain ⟨before, was, own, _⟩ := older first one left
    obtain ⟨after, then', also, _⟩ := older second two right
    exact linked.single first second before after was then' (own.trans (same.trans also.symm))
  · intro other found there
    rw [counts]
    rw [connects] at there
    split at there
    · cases there
      exact ⟨nofun, by simp [none]⟩
    · rename_i apart
      have differs : found.number ≠ obj.number := by
        intro same
        exact apart (linked.single other socket found obj there held same)
      rw [if_neg differs, Nat.add_zero]
      exact linked.state other found there
  · intro other found there
    obtain ⟨before, was, same, tags'⟩ := older other found there
    obtain ⟨made, of, tagged⟩ := linked.tags other before was
    exact ⟨made, same ▸ of, tags' ▸ tagged⟩
  · intro number late
    rw [counts, linked.future number late]
    have below := linked.older socket obj held
    have late' : s.created.length ≤ number := late
    rw [if_neg (by omega)]
  · intro number
    rw [counts]
    split
    · rename_i same
      have before : announcements s.log number = 0 := same ▸ none
      omega
    · exact linked.once number
  · intro number appKey member
    rcases List.mem_append.mp member with before | last
    · exact linked.identified number appKey before
    · have here := List.mem_singleton.mp last
      unfold announcement at here
      split at here
      · rename_i tagValue found
        cases here
        rw [tags] at found
        by_cases isApp : detail.tagType = .app
        · obtain ⟨value, there, key⟩ := (tags_app detail).1 isApp
          rw [there] at found
          cases found
          exact ⟨detail, asked, isApp, key.symm⟩
        · rw [(tags_app detail).2 isApp] at found
          cases found
      · cases here
  · intro number member
    rcases List.mem_append.mp member with before | last
    · exact linked.connected number before
    · have here := List.mem_singleton.mp last
      unfold announcement at here
      split at here
      · cases here
      · rename_i found
        cases here
        refine ⟨detail, asked, ?_⟩
        intro isApp
        obtain ⟨value, there, _⟩ := (tags_app detail).1 isApp
        rw [tags, there] at found
        cases found
  · intro front number rest same
    have notPacket : announcement obj ≠ .dispatched number := by
      unfold announcement
      split <;> exact nofun
    obtain ⟨later, split⟩ := dispatched_before same notPacket
    exact linked.first front number later split

theorem linked_received {s : Connector} (linked : Linked s) (socket : Int) (obj : ConnectObj)
    (held : s.network.connects[socket]? = some obj) (connected : obj.state = .connected)
    (packets : Nat) :
    Linked { s with log := s.log ++ List.replicate packets (.dispatched obj.number) } := by
  have silent : ∀ count number,
      announcements (List.replicate count (.dispatched obj.number)) number = 0 := by
    intro count number
    rw [announcements, List.count_eq_zero]
    intro member
    obtain ⟨record, inside, some⟩ := List.mem_filterMap.mp member
    rw [List.eq_of_mem_replicate inside] at some
    cases some
  have counts : ∀ number, announcements (s.log ++ List.replicate packets (.dispatched obj.number))
      number = announcements s.log number := by
    intro number
    rw [announcements_append, silent, Nat.add_zero]
  have one : announcements s.log obj.number = 1 := by
    have now := (linked.state socket obj held).2
    rw [connected] at now
    exact now
  constructor
  · exact linked.older
  · exact linked.single
  · intro other found there
    rw [counts]
    exact linked.state other found there
  · exact linked.tags
  · intro number late
    rw [counts]
    exact linked.future number late
  · intro number
    rw [counts]
    exact linked.once number
  · intro number appKey member
    rcases List.mem_append.mp member with before | last
    · exact linked.identified number appKey before
    · cases List.eq_of_mem_replicate last
  · intro number member
    rcases List.mem_append.mp member with before | last
    · exact linked.connected number before
    · cases List.eq_of_mem_replicate last
  · -- one packet after the other
    have each : ∀ count front number rest,
        s.log ++ List.replicate count (.dispatched obj.number) = front ++ .dispatched number :: rest →
          announcements front number = 1 := by
      intro count
      induction count with
      | zero =>
          intro front number rest same
          rw [List.replicate_zero, List.append_nil] at same
          exact linked.first front number rest same
      | succ count ih =>
          intro front number rest same
          rw [List.replicate_succ', ← List.append_assoc] at same
          rcases List.eq_nil_or_concat' rest with rfl | ⟨later, last, rfl⟩
          · obtain ⟨whole, packet⟩ := List.append_inj' same rfl
            cases List.singleton_inj.mp packet
            rw [← whole, announcements_append, silent, Nat.add_zero, one]
          · have shifted : (s.log ++ List.replicate count (.dispatched obj.number)) ++
                [.dispatched obj.number] = (front ++ .dispatched number :: later) ++ [last] := by
              rw [same]
              simp
            exact ih front number later (List.append_inj' shifted rfl).1
    exact each packets

theorem request_of_opened {s : Connector} (sn index : Nat) (socket : Int) (detail made : ConnectDetail)
    (number : Nat) (asked : requestOf s number = some made) :
    requestOf (opened s sn index socket detail) number = some made := by
  obtain ⟨place, there, found⟩ := Option.bind_eq_some_iff.mp asked
  obtain ⟨below, _⟩ := List.getElem?_eq_some_iff.mp there
  apply Option.bind_eq_some_iff.mpr
  refine ⟨place, ?_, found⟩
  rw [opened, List.getElem?_append_left below]
  exact there

theorem linked_opened {s : Connector} (linked : Linked s) (sn index : Nat) (socket : Int)
    (detail : ConnectDetail) (asked : s.requests[index]? = some detail) :
    Linked (opened s sn index socket detail) := by
  have connects : ∀ other : Int, (opened s sn index socket detail).network.connects[other]? =
      if other = socket then some (awake socket s.network.networkType detail.tagType detail.tagValue
        .connecting s.created.length) else s.network.connects[other]? :=
    fun other => get_insert s.network.connects socket other _
  have length : (opened s sn index socket detail).created.length = s.created.length + 1 :=
    List.length_append
  have fresh : requestOf (opened s sn index socket detail) s.created.length = some detail := by
    apply Option.bind_eq_some_iff.mpr
    refine ⟨index, ?_, asked⟩
    simp [opened]
  constructor
  · intro other obj held
    rw [connects] at held
    rw [length]
    split at held
    · cases held
      exact Nat.lt_succ_self _
    · exact Nat.lt_succ_of_lt (linked.older other obj held)
  · intro first second one two left right same
    rw [connects] at left right
    split at left <;> split at right
    · rename_i here there
      rw [here, there]
    · cases left
      have below := linked.older second two right
      have number : s.created.length = two.number := same
      omega
    · cases right
      have below := linked.older first one left
      have number : one.number = s.created.length := same
      omega
    · exact linked.single first second one two left right same
  · intro other obj held
    rw [connects] at held
    split at held
    · cases held
      exact ⟨nofun, linked.future _ (Nat.le_refl _)⟩
    · exact linked.state other obj held
  · intro other obj held
    rw [connects] at held
    split at held
    · cases held
      exact ⟨detail, fresh, rfl⟩
    · obtain ⟨made, of, tags⟩ := linked.tags other obj held
      exact ⟨made, request_of_opened sn index socket detail made _ of, tags⟩
  · intro number late
    rw [length] at late
    exact linked.future number (by omega)
  · exact linked.once
  · intro number appKey member
    obtain ⟨made, of, rest⟩ := linked.identified number appKey member
    exact ⟨made, request_of_opened sn index socket detail made _ of, rest⟩
  · intro number member
    obtain ⟨made, of, rest⟩ := linked.connected number member
    exact ⟨made, request_of_opened sn index socket detail made _ of, rest⟩
  · exact linked.first

theorem request_of_add {s : Connector} (waits : Waits s) (sn : Nat) (detail made : ConnectDetail)
    (number : Nat) (asked : requestOf s number = some made) :
    requestOf (addRequest s sn detail) number = some made := by
  obtain ⟨place, there, found⟩ := Option.bind_eq_some_iff.mp asked
  apply Option.bind_eq_some_iff.mpr
  refine ⟨place, there, ?_⟩
  have below := waits.made place (List.mem_of_getElem? there)
  rw [addRequest, List.getElem?_append_left below]
  exact found

section Renewed

variable (getIPEndPoint : UInt64 → UInt64 → Option Endpoint)

/-- Requests for applications are for the TCP connector and have an endpoint. -/
structure Renews (s : Connector) : Prop where
  renewed : s.requests.filterMap renewal ++ s.orders.filterMap (fun order => renewal order.detail) ++
    s.disconnects.filterMap lostApp = s.lost.filterMap lostApp
  requests : ∀ detail ∈ s.requests, detail.tagType = .app →
    s.network.networkType = .tcpConnector ∧ Known getIPEndPoint detail.tagValue.keyInt64
  orders : ∀ order ∈ s.orders, order.detail.tagType = .app →
    order.networkType = .tcpConnector ∧ Known getIPEndPoint order.detail.tagValue.keyInt64
  own : ∀ order ∈ s.orders, renewal order.detail ≠ none → s.network.networkType = .tcpConnector
  closed : ∀ closed ∈ s.disconnects, ∀ tagApp, closed.tagKey .app = some tagApp →
    s.network.networkType = .tcpConnector ∧ Known getIPEndPoint tagApp.keyInt64

variable {getIPEndPoint}

theorem renews_start (networkType : NetworkType) : Renews getIPEndPoint (start networkType) := by
  constructor <;> simp [start]

theorem renews_congr {s other : Connector} (renews : Renews getIPEndPoint s)
    (networkType : other.network.networkType = s.network.networkType)
    (requests : other.requests = s.requests) (orders : other.orders = s.orders)
    (disconnects : other.disconnects = s.disconnects) (lost : other.lost = s.lost) :
    Renews getIPEndPoint other := by
  obtain ⟨renewed, ofRequests, ofOrders, own, closed⟩ := renews
  constructor <;> simp only [networkType, requests, orders, disconnects, lost] at * <;> assumption

theorem app_of_connection {s : Connector} (linked : Linked s) (renews : Renews getIPEndPoint s)
    (socket : Int) (obj : ConnectObj) (held : s.network.connects[socket]? = some obj)
    (tagApp : TagValue) (tagged : obj.tagKey .app = some tagApp) :
    s.network.networkType = .tcpConnector ∧ Known getIPEndPoint tagApp.keyInt64 := by
  obtain ⟨detail, asked, tags⟩ := linked.tags socket obj held
  obtain ⟨place, _, found⟩ := Option.bind_eq_some_iff.mp asked
  rw [tags] at tagged
  by_cases isApp : detail.tagType = .app
  · obtain ⟨value, there, key⟩ := (tags_app detail).1 isApp
    rw [there] at tagged
    cases tagged
    rw [key]
    exact renews.requests detail (List.mem_of_getElem? found) isApp
  · rw [(tags_app detail).2 isApp] at tagged
    cases tagged

theorem renews_close {s : Connector} (linked : Linked s) (renews : Renews getIPEndPoint s)
    (socket : Int) (obj : ConnectObj) (held : s.network.connects[socket]? = some obj) :
    Renews getIPEndPoint (close s socket obj) := by
  constructor
  · have same := renews.renewed
    simp only [close, List.filterMap_append, ← List.append_assoc]
    rw [same]
  · exact renews.requests
  · exact renews.orders
  · exact renews.own
  · intro closed member tagApp tagged
    rcases List.mem_append.mp member with older | last
    · exact renews.closed closed older tagApp tagged
    · rw [List.mem_singleton.mp last] at tagged
      exact app_of_connection linked renews socket obj held tagApp tagged

theorem renews_add {s : Connector} (renews : Renews getIPEndPoint s) (sn : Nat)
    (detail : ConnectDetail) (none : renewal detail = none)
    (known : detail.tagType = .app →
      s.network.networkType = .tcpConnector ∧ Known getIPEndPoint detail.tagValue.keyInt64) :
    Renews getIPEndPoint (addRequest s sn detail) := by
  constructor
  · have same := renews.renewed
    simp only [addRequest, List.filterMap_append, List.filterMap_cons_none none,
      List.filterMap_nil, List.append_nil]
    exact same
  · intro other member
    rcases List.mem_append.mp member with older | last
    · exact renews.requests other older
    · rw [List.mem_singleton.mp last]
      exact known
  · exact renews.orders
  · exact renews.own
  · exact renews.closed

end Renewed

structure Inv (getIPEndPoint : UInt64 → UInt64 → Option Endpoint) (s : Connector) : Prop where
  waits : Waits s
  linked : Linked s
  renews : Renews getIPEndPoint s

variable {getIPEndPoint : UInt64 → UInt64 → Option Endpoint}

theorem inv_start (networkType : NetworkType) : Inv getIPEndPoint (start networkType) := by
  refine ⟨?_, linked_start networkType, renews_start networkType⟩
  have nothing : ∀ sn, entry (start networkType).connecting sn = none := by
    intro sn
    exact entry_none.mpr ⟨Std.ExtTreeMap.getElem?_empty, Std.ExtTreeMap.getElem?_empty⟩
  constructor
  · intro sn index held
    rw [nothing] at held
    cases held
  · intro first second index held
    rw [nothing] at held
    cases held
  · intro sn member
    cases member
  · intro index below
    exact absurd below (Nat.not_lt_zero index)
  · intro index member
    cases member
  · exact List.nodup_nil

theorem inv_close {s : Connector} (inv : Inv getIPEndPoint s) (socket : Int) (obj : ConnectObj)
    (held : s.network.connects[socket]? = some obj) : Inv getIPEndPoint (close s socket obj) :=
  ⟨waits_congr inv.waits rfl rfl rfl, linked_close inv.linked socket obj,
    renews_close inv.linked inv.renews socket obj held⟩

theorem inv_established {s : Connector} (inv : Inv getIPEndPoint s) (socket : Int) (obj : ConnectObj)
    (held : s.network.connects[socket]? = some obj) (connecting : obj.state = .connecting) :
    Inv getIPEndPoint (changeStateToConnected s socket obj) :=
  ⟨waits_congr inv.waits rfl rfl rfl, linked_established inv.linked socket obj held connecting,
    renews_congr inv.renews rfl rfl rfl rfl rfl⟩

theorem connected_of_not_connecting {s : Connector} (linked : Linked s) (socket : Int)
    (obj : ConnectObj) (held : s.network.connects[socket]? = some obj)
    (other : obj.state ≠ .connecting) : obj.state = .connected := by
  have known := (linked.state socket obj held).1
  cases state : obj.state with
  | none => exact absurd state known
  | connecting => exact absurd state other
  | connected => rfl

theorem inv_recv {s : Connector} (inv : Inv getIPEndPoint s) (socket : Int) (packets : Nat)
    (isRs : Bool) : Inv getIPEndPoint (recv s socket packets isRs) := by
  unfold recv
  split
  · exact inv
  · rename_i obj held
    split
    · rename_i connecting
      exact inv_established inv socket obj held connecting
    · rename_i other
      have connected := connected_of_not_connecting inv.linked socket obj held other
      split
      · exact ⟨waits_congr inv.waits rfl rfl rfl,
          linked_received inv.linked socket obj held connected packets,
          renews_congr inv.renews rfl rfl rfl rfl rfl⟩
      · exact inv_close inv socket obj held

theorem inv_send {s : Connector} (inv : Inv getIPEndPoint s) (socket : Int) (sent : Bool) :
    Inv getIPEndPoint (send s socket sent) := by
  unfold send
  split
  · exact inv
  · rename_i obj held
    split
    · rename_i connecting
      exact inv_established inv socket obj held connecting
    · split
      · exact inv
      · exact inv_close inv socket obj held

theorem inv_except {s : Connector} (inv : Inv getIPEndPoint s) (socket : Int) :
    Inv getIPEndPoint (except s socket) := by
  unfold except
  split
  · exact inv
  · rename_i obj held
    exact inv_close inv socket obj held

theorem inv_request_disconnect {s : Connector} (inv : Inv getIPEndPoint s) (identify : NetIdentify) :
    Inv getIPEndPoint (requestDisconnect s identify) := by
  unfold requestDisconnect
  rcases handle_disconnect_cases s.network identify with same | ⟨obj, _, held, closed⟩
  · rw [same]
    simpa using inv
  · rw [closed]
    exact inv_close inv identify.socketKey.socket obj held

/-! ### Update -/

theorem create_obj_cases (s : Connector) (index : Nat) (detail : ConnectDetail) (socket : Int)
    (checked : Bool) (state : ConnectStateType) :
    createObj s index detail socket checked state = (false, s) ∨
    (∃ obj, s.network.connects[socket]? = some obj ∧
      createObj s index detail socket checked state = (false, close s socket obj)) ∨
    (checked = true ∧ createObj s index detail socket checked state =
      (true, { s with
        network := { s.network with
          connects := s.network.connects.insert socket
            (awake socket s.network.networkType detail.tagType detail.tagValue state
              s.created.length)
          sockets := s.network.sockets.insert socket () }
        created := s.created ++ [index] })) := by
  unfold createObj createConnectObj
  by_cases bad : checked = false
  · left
    simp [bad]
  · have good : checked = true := by simpa using bad
    rw [if_neg bad]
    cases held : s.network.connects[socket]? with
    | some obj => exact Or.inr (Or.inl ⟨obj, rfl, rfl⟩)
    | none =>
        right
        right
        exact ⟨good, by simp⟩

theorem inv_connect_one {s : Connector} (inv : Inv getIPEndPoint s) (outcome : Nat → Outcome)
    (deferred : ∀ sn socket, outcome sn ≠ .done socket true) (sn index : Nat)
    (held : entry s.connecting sn = some index) (kept : sn ∉ s.connecting.removes) :
    Inv getIPEndPoint (connectOne outcome s sn index) ∧
      (∀ other, entry (connectOne outcome s sn index).connecting other = entry s.connecting other) ∧
      ∀ other, other ≠ sn → other ∉ s.connecting.removes →
        other ∉ (connectOne outcome s sn index).connecting.removes := by
  have below := inv.waits.bound sn index held
  have asked : s.requests[index]? = some s.requests[index] := List.getElem?_eq_getElem below
  generalize s.requests[index] = detail at asked
  have nothing : ∀ other : Connector, other.connecting = s.connecting → Inv getIPEndPoint other →
      Inv getIPEndPoint other ∧
        (∀ number, entry other.connecting number = entry s.connecting number) ∧
        ∀ number, number ≠ sn → number ∉ s.connecting.removes →
          number ∉ other.connecting.removes := by
    intro other same holds
    rw [same]
    exact ⟨holds, fun _ => rfl, fun _ _ outside => outside⟩
  simp only [connectOne, asked]
  cases result : outcome sn with
  | noSocket => exact nothing s rfl inv
  | error => exact nothing s rfl inv
  | done socket checked =>
      have unchecked : checked = false := by
        cases checked with
        | false => rfl
        | true => exact absurd result (deferred sn socket)
      have same : createObj s index detail socket false .connected = (false, s) := by
        simp [createObj, createConnectObj]
      rw [unchecked, connect, same]
      exact nothing s rfl inv
  | waiting socket checked =>
      simp only [connect]
      rcases create_obj_cases s index detail socket checked .connecting with
        same | ⟨obj, there, same⟩ | ⟨_, same⟩
      · rw [same]
        exact nothing s rfl inv
      · rw [same]
        exact nothing _ rfl (inv_close inv socket obj there)
      · rw [same]
        refine ⟨⟨waits_opened inv.waits sn index socket detail held kept,
          linked_opened inv.linked sn index socket detail asked,
          renews_congr inv.renews rfl rfl rfl rfl rfl⟩, fun _ => rfl, ?_⟩
        intro other apart outside member
        rcases List.mem_append.mp member with older | last
        · exact outside older
        · exact apart (List.mem_singleton.mp last)

theorem inv_connect_each (outcome : Nat → Outcome)
    (deferred : ∀ sn socket, outcome sn ≠ .done socket true) (list : List (Nat × Nat))
    (s : Connector) (inv : Inv getIPEndPoint s) (distinct : (list.map Prod.fst).Nodup)
    (waiting : ∀ pair ∈ list, entry s.connecting pair.1 = some pair.2 ∧
      pair.1 ∉ s.connecting.removes) : Inv getIPEndPoint (connectEach outcome list s) := by
  induction list generalizing s with
  | nil => exact inv
  | cons first rest ih =>
      obtain ⟨sn, index⟩ := first
      rw [List.map_cons, List.nodup_cons] at distinct
      obtain ⟨held, kept⟩ := waiting (sn, index) List.mem_cons_self
      obtain ⟨turned, entries, others⟩ := inv_connect_one inv outcome deferred sn index held kept
      apply ih (connectOne outcome s sn index) turned distinct.2
      intro pair member
      obtain ⟨there, outside⟩ := waiting pair (List.mem_cons_of_mem _ member)
      have apart : pair.1 ≠ sn := by
        intro same
        have inside : pair.1 ∈ rest.map Prod.fst := List.mem_map_of_mem member
        rw [same] at inside
        exact distinct.1 inside
      exact ⟨(entries pair.1).trans there, others pair.1 apart outside⟩

theorem inv_update {s : Connector} (inv : Inv getIPEndPoint s) (outcome : Nat → Outcome)
    (deferred : ∀ sn socket, outcome sn ≠ .done socket true) :
    Inv getIPEndPoint (update outcome s) := by
  obtain ⟨waits, none⟩ := waits_swap inv.waits
  have swapped : Inv getIPEndPoint (swapConnecting s) := by
    refine ⟨waits, ?_, ?_⟩
    · unfold swapConnecting
      split
      · exact linked_fewer inv.linked (fun _ _ there => there) rfl rfl fun _ _ there => there
      · exact inv.linked
    · unfold swapConnecting
      split
      · exact renews_congr inv.renews rfl rfl rfl rfl rfl
      · exact inv.renews
  apply inv_connect_each outcome deferred _ (swapConnecting s) swapped
  · rw [List.nodup_iff_pairwise_ne, List.pairwise_map]
    apply List.Pairwise.imp _ Std.ExtTreeMap.distinct_keys_toList
    intro left right distinct same
    exact distinct (Std.LawfulEqOrd.compare_eq_iff_eq.mpr same)
  · intro pair member
    have held := Std.ExtTreeMap.mem_toList_iff_getElem?_eq_some.mp member
    rw [none]
    exact ⟨entry_of_objs held, List.not_mem_nil⟩

theorem known_of_configured (appType : AppType) (appId : Nat) (endpoint : Endpoint)
    (small : appId < 65536)
    (configured : getIPEndPoint (bits appType) (UInt64.ofNat appId) = some endpoint) :
    Known getIPEndPoint (getAppKey appType (UInt64.ofNat appId)) := by
  have low : (UInt64.ofNat appId).toNat = appId := by
    rw [UInt64.toNat_ofNat']
    omega
  have type : getTypeFromAppKey (getAppKey appType (UInt64.ofNat appId)) = bits appType := by
    apply UInt64.toNat_inj.mp
    simp only [getTypeFromAppKey, getAppKey, UInt64.toNat_shiftRight, UInt64.toNat_add,
      UInt64.toNat_shiftLeft, UInt64.reduceToNat, Nat.shiftLeft_eq, Nat.shiftRight_eq_div_pow,
      Nat.reduceMod, Nat.reducePow, low]
    cases appType <;> simp [bits] <;> omega
  have id : getIdFromAppKey (getAppKey appType (UInt64.ofNat appId)) = UInt64.ofNat appId := by
    apply UInt64.toNat_inj.mp
    have mask := Nat.and_two_pow_sub_one_eq_mod
      (getAppKey appType (UInt64.ofNat appId)).toNat 16
    simp only [getIdFromAppKey, UInt64.toNat_and, UInt64.reduceToNat]
    rw [mask]
    simp only [getAppKey, UInt64.toNat_add, UInt64.toNat_shiftLeft, UInt64.reduceToNat, low,
      Nat.shiftLeft_eq, Nat.reduceMod, Nat.reducePow]
    omega
  rw [Known, type, id, configured]
  rfl

theorem inv_add {s : Connector} (inv : Inv getIPEndPoint s) (sn : Nat) (detail : ConnectDetail)
    (fresh : entry s.connecting sn = none)
    (renews : Renews getIPEndPoint (addRequest s sn detail)) :
    Inv getIPEndPoint (addRequest s sn detail) :=
  ⟨waits_add inv.waits sn detail fresh,
    linked_fewer inv.linked (fun _ _ there => there) rfl rfl
      (fun number made asked => request_of_add inv.waits sn detail made number asked), renews⟩

theorem inv_handle_connect {s after : Connector} (inv : Inv getIPEndPoint s) (sn : Nat)
    (fresh : entry s.connecting sn = none) (taken : handleNetworkConnect s sn = some after) :
    Inv getIPEndPoint after := by
  unfold handleNetworkConnect at taken
  obtain ⟨renewed, requests, orders, own, closed⟩ := inv.renews
  split at taken
  · cases taken
  · rename_i order rest pending
    have first : order ∈ s.orders := pending ▸ List.mem_cons_self
    have later : ∀ other ∈ rest, other ∈ s.orders := by
      intro other member
      rw [pending]
      exact List.mem_cons_of_mem _ member
    rw [pending] at renewed
    split at taken
    · rename_i differs
      -- Another connector's: it renews no connection of this one.
      have unrelated : renewal order.detail = none := by
        by_contra some
        have isApp : order.detail.tagType = .app := by
          by_contra other
          exact some (if_neg other)
        exact differs ((orders order first isApp).1.trans (own order first some).symm)
      cases taken
      refine ⟨waits_congr inv.waits rfl rfl rfl,
        linked_fewer inv.linked (fun _ _ there => there) rfl rfl fun _ _ there => there, ?_⟩
      refine ⟨?_, requests, fun other member => orders other (later other member),
        fun other member => own other (later other member), closed⟩
      simp only [List.filterMap_cons, unrelated] at renewed
      exact renewed
    · rename_i same
      cases taken
      have popped : Waits { s with orders := rest } := waits_congr inv.waits rfl rfl rfl
      refine ⟨waits_add popped sn order.detail fresh,
        linked_fewer inv.linked (fun _ _ there => there) rfl rfl
          (fun number made asked => request_of_add popped sn order.detail made number asked), ?_⟩
      refine ⟨?_, ?_, fun other member => orders other (later other member),
        fun other member => own other (later other member), closed⟩
      · have moved : (s.requests ++ [order.detail]).filterMap renewal ++
            rest.filterMap (fun order => renewal order.detail) =
              s.requests.filterMap renewal ++
                (order :: rest).filterMap (fun order => renewal order.detail) := by
          simp only [List.filterMap_append, List.filterMap_cons, List.filterMap_nil]
          cases renewal order.detail <;> simp
        rw [← moved] at renewed
        exact renewed
      · intro detail member isApp
        rcases List.mem_append.mp member with older | last
        · exact requests detail older isApp
        · rw [List.mem_singleton.mp last] at isApp ⊢
          obtain ⟨tcp, known⟩ := orders order first isApp
          exact ⟨(not_not.mp same).symm.trans tcp, known⟩

theorem inv_handle_disconnect {s after : Connector} (inv : Inv getIPEndPoint s)
    (taken : handleNetworkDisconnect getIPEndPoint s = some after) : Inv getIPEndPoint after := by
  unfold handleNetworkDisconnect at taken
  obtain ⟨renewed, requests, orders, own, closed⟩ := inv.renews
  split at taken
  · cases taken
  · rename_i lost rest pending
    have later : ∀ other ∈ rest, other ∈ s.disconnects := by
      intro other member
      rw [pending]
      exact List.mem_cons_of_mem _ member
    rw [pending] at renewed
    split at taken
    · rename_i untagged
      cases taken
      refine ⟨waits_congr inv.waits rfl rfl rfl,
        linked_fewer inv.linked (fun _ _ there => there) rfl rfl fun _ _ there => there,
        ?_, requests, orders, own, fun other member => closed other (later other member)⟩
      have unrelated : lostApp lost = none := by rw [lostApp, untagged, Option.map_none]
      rw [List.filterMap_cons_none unrelated] at renewed
      exact renewed
    · rename_i tagApp tagged
      obtain ⟨endpoint, configured, rfl⟩ := Option.map_eq_some_iff.mp taken
      obtain ⟨tcp, known⟩ := closed lost (pending ▸ List.mem_cons_self) tagApp tagged
      have some : lostApp lost = some (lost.number, tagApp.keyInt64) := by
        rw [lostApp, tagged, Option.map_some]
      refine ⟨waits_congr inv.waits rfl rfl rfl,
        linked_fewer inv.linked (fun _ _ there => there) rfl rfl fun _ _ there => there,
        ?_, requests, ?_, ?_, fun other member => closed other (later other member)⟩
      · rw [List.filterMap_cons_some some] at renewed
        rw [← renewed]
        simp [renewal]
      · intro order member isApp
        rcases List.mem_append.mp member with older | last
        · exact orders order older isApp
        · rw [List.mem_singleton.mp last]
          exact ⟨rfl, known⟩
      · intro order _ _
        exact tcp

theorem inv_step (before : Connector) (event : Event) (after : Connector)
    (inv : Inv getIPEndPoint before)
    (taken : Guarded (connectorStep getIPEndPoint) (Deferred getIPEndPoint) before event after) :
    Inv getIPEndPoint after := by
  obtain ⟨taken, deferred⟩ := taken
  cases event with
  | createConnector appType appId endpoint sn =>
      obtain ⟨tcp, configured, rfl⟩ := taken
      obtain ⟨small, fresh⟩ := deferred
      apply inv_add inv sn _ fresh
      apply renews_add inv.renews sn _ rfl
      intro _
      exact ⟨tcp, known_of_configured appType appId endpoint small configured⟩
  | networkConnect networkType tagType tagValue endpoint =>
      rw [connectorStep] at taken
      subst taken
      have unrelated : renewal ⟨tagType, tagValue, endpoint, none⟩ = none := by simp [renewal]
      obtain ⟨renewed, requests, orders, own, closed⟩ := inv.renews
      refine ⟨waits_congr inv.waits rfl rfl rfl,
        linked_fewer inv.linked (fun _ _ there => there) rfl rfl fun _ _ there => there,
        ?_, requests, ?_, ?_, closed⟩
      · simp only [List.filterMap_append, List.filterMap_cons, unrelated, List.filterMap_nil,
          List.append_nil]
        exact renewed
      · intro order member isApp
        rcases List.mem_append.mp member with older | last
        · exact orders order older isApp
        · rw [List.mem_singleton.mp last] at isApp ⊢
          exact deferred isApp
      · intro order member renews
        rcases List.mem_append.mp member with older | last
        · exact own order older renews
        · rw [List.mem_singleton.mp last] at renews
          exact absurd unrelated renews
  | handleNetworkConnect sn => exact inv_handle_connect inv sn deferred taken
  | update outcome =>
      rw [connectorStep] at taken
      rw [taken]
      exact inv_update inv outcome deferred
  | recv socket packets isRs =>
      rw [connectorStep] at taken
      rw [taken]
      exact inv_recv inv socket packets isRs
  | send socket sent =>
      rw [connectorStep] at taken
      rw [taken]
      exact inv_send inv socket sent
  | except socket =>
      rw [connectorStep] at taken
      rw [taken]
      exact inv_except inv socket
  | requestDisconnect identify =>
      rw [connectorStep] at taken
      rw [taken]
      exact inv_request_disconnect inv identify
  | handleNetworkDisconnect => exact inv_handle_disconnect inv taken

theorem law_of_inv {s : Connector} (inv : Inv getIPEndPoint s) : Law getIPEndPoint s := by
  obtain ⟨waits, linked, renews⟩ := inv
  refine ⟨waits.waiting, waits.once, fun socket obj held => (linked.state socket obj held).2,
    linked.once, linked.identified, linked.connected, linked.first, renews.renewed, ?_⟩
  intro pending
  unfold handleNetworkDisconnect
  split
  · rename_i empty
    exact absurd empty pending
  · rename_i lost rest same
    split
    · rfl
    · rename_i tagApp tagged
      rw [Option.isSome_map]
      exact (renews.closed lost (same ▸ List.mem_cons_self) tagApp tagged).2

/-- Where no `connect()` is done at once, requests wait until their connection is
made, connections are announced once and in time, and lost applications are
connected again. -/
theorem connects_announced (getIPEndPoint : UInt64 → UInt64 → Option Endpoint)
    (networkType : NetworkType) (trace : List Event) (s : Connector)
    (run : Run (Guarded (connectorStep getIPEndPoint) (Deferred getIPEndPoint))
      (start networkType) trace s) : Law getIPEndPoint s :=
  law_of_inv (run_invariant (Inv getIPEndPoint) inv_step run (inv_start networkType))

/-! Space 301, its connection lost and ordered again. -/

def oneSpace (appType appId : UInt64) : Option Endpoint :=
  if appType = bits .space ∧ appId = 301 then some ⟨[], 5701⟩ else none

theorem connects_announced_space : ∃ s,
    Run (Guarded (connectorStep oneSpace) (Deferred oneSpace)) (start .tcpConnector)
      [.createConnector .space 301 ⟨[], 5701⟩ 1, .update fun _ => .waiting 7 true, .send 7 true,
        .recv 7 2 true, .except 7, .handleNetworkDisconnect, .handleNetworkConnect 2] s ∧
    s.requests.length = 2 ∧ Law oneSpace s := by
  have run : ∃ s, Run (Guarded (connectorStep oneSpace) (Deferred oneSpace)) (start .tcpConnector)
      [.createConnector .space 301 ⟨[], 5701⟩ 1, .update fun _ => .waiting 7 true, .send 7 true,
        .recv 7 2 true, .except 7, .handleNetworkDisconnect, .handleNetworkConnect 2] s ∧
      s.requests.length = 2 := by
    refine ⟨_, .next ⟨⟨rfl, rfl, rfl⟩, by decide, by decide⟩ <|
      .next ⟨rfl, nofun⟩ <| .next ⟨rfl, trivial⟩ <| .next ⟨rfl, trivial⟩ <|
      .next ⟨rfl, trivial⟩ <| .next ⟨rfl, trivial⟩ <|
      .next ⟨rfl, (by decide : entry _ 2 = none)⟩ <| .refl _, ?_⟩
    decide
  obtain ⟨s, taken, two⟩ := run
  exact ⟨s, taken, two, connects_announced oneSpace .tcpConnector _ s taken⟩

/-- A connection that is there at once is never announced. -/
theorem immediate_connect_silent :
    ¬ ∀ (getIPEndPoint : UInt64 → UInt64 → Option Endpoint) (networkType : NetworkType)
      (trace : List Event) (s : Connector),
      Run (connectorStep getIPEndPoint) (start networkType) trace s → Law getIPEndPoint s := by
  intro law
  have run : ∃ s, Run (connectorStep oneSpace) (start .tcpConnector)
      [.createConnector .space 301 ⟨[], 5701⟩ 1, .update fun _ => .done 7 true] s ∧
      s.log = [] ∧ ∃ obj, s.network.connects[(7 : Int)]? = some obj ∧ obj.state = .connected := by
    refine ⟨_, .next ⟨rfl, rfl, rfl⟩ <| .next rfl <| .refl _, by decide, _,
      (Option.some_get (by decide)).symm, ?_⟩
    decide
  obtain ⟨s, taken, silent, obj, held, connected⟩ := run
  have announced := (law oneSpace _ _ s taken).announced 7 obj held
  rw [silent, connected] at announced
  cases announced

end GameBook.ConnectsAnnounced
