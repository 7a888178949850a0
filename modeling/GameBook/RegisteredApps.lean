import GameBook.AppRegistrations

/-!
What stands for an application at a time: the connection that is tagged with it,
the MI_NetworkListenKey that is to tag it, the MI_NetworkDisconnect that is to
remove it. While there is one at most, no registration harms another application.
-/

namespace GameBook.RegisteredApps

open OrderedMap SocketObject AppKey LabelledRun AppRegistrations Std
open NetworkConnects (ConnectStateType compareTags compareTagsOf)
open NetworkLocator (Locator addNetworkIdentify handleNetworkDisconnect taggedApp)

theorem tagged_add_int (socketKey : SocketKey) (appKey : UInt64) :
    taggedApp ⟨socketKey, addTagInt clear .app appKey⟩ = some appKey := rfl

theorem tagged_add (socketKey : SocketKey) (appKey : UInt64) :
    taggedApp ⟨socketKey, addTag clear .app ⟨[], appKey⟩⟩ = some appKey := by
  unfold addTag
  split
  · rfl
  · rename_i zero
    exact congrArg some (not_not.mp zero).symm

theorem account_add (appKey : UInt64) : addTag clear .app ⟨[], appKey⟩ .account = none :=
  add_tag_other clear .app .account _ (by decide)

/-- `CopyFrom` takes the application of the other key, where it has one. -/
theorem tagged_copy (socketKey : SocketKey) (tags other : TagKey) :
    taggedApp ⟨socketKey, copyFrom tags other⟩ =
      (taggedApp ⟨socketKey, other⟩).or (taggedApp ⟨socketKey, tags⟩) := by
  unfold taggedApp copyFrom
  cases found : other .app with
  | none => simp [found]
  | some value =>
      dsimp only
      rw [found]
      dsimp only
      unfold addTag
      split
      · rfl
      · rename_i zero
        exact congrArg some (not_not.mp zero).symm

theorem account_copy (tags : TagKey) (appKey : UInt64) :
    copyFrom tags (addTagInt clear .app appKey) .account = tags .account :=
  copy_from_absent _ _ _ rfl

theorem some_of_tagged {identify : NetIdentify} {appKey : UInt64}
    (tagged : taggedApp identify = some appKey) :
    ∃ value, identify.tagKey .app = some value ∧ value.keyInt64 = appKey :=
  Option.map_eq_some_iff.mp tagged

theorem compare_same {a b : NetIdentify} {appKey : UInt64} (account : a.tagKey .account = none)
    (first : ∀ tagged, taggedApp a = some tagged → tagged = appKey)
    (second : taggedApp b = some appKey) : compareTags a.tagKey b.tagKey = true := by
  obtain ⟨value, found, key⟩ := some_of_tagged second
  have accounts : compareTagsOf a.tagKey b.tagKey .account = true := by
    simp only [compareTagsOf, account]
  have apps : compareTagsOf a.tagKey b.tagKey .app = true := by
    cases own : a.tagKey .app with
    | none => simp only [compareTagsOf, own]
    | some other =>
        have same := first other.keyInt64 (by rw [taggedApp, own]; rfl)
        simp only [compareTagsOf, own, found, NetworkConnects.isTagTypeStr]
        simp [same, key]
  rw [compareTags, accounts, apps]
  rfl

/-! ### The invariant -/

structure Tidy (configs : Configs) (p : Process) : Prop where
  running : p.crashed = false
  keyed : ∀ socket obj, p.connects socket = some obj →
    obj.socketKey.socket = socket ∧ obj.number < p.made ∧ obj.tagKey .account = none
  distinct : ∀ s t a b, p.connects s = some a → p.connects t = some b → a.number = b.number → s = t
  located : ∀ socket obj appKey, p.connects socket = some obj →
    taggedApp obj.toNetIdentify = some appKey → Located configs appKey
  listens : ∀ socket obj appKey, p.connects socket = some obj → obj.socketKey.netType ≠ .tcpConnector →
    taggedApp obj.toNetIdentify = some appKey → p.registered appKey = some obj.number
  dialled : ∀ socket obj, p.connects socket = some obj → obj.state = .connecting →
    obj.socketKey.netType = .tcpConnector ∧ ∀ appKey, p.registered appKey ≠ some obj.number
  known : ∀ appKey number, p.registered appKey = some number → number < p.made
  single : ∀ socket obj a b, p.connects socket = some obj → p.registered a = some obj.number →
    p.registered b = some obj.number → a = b
  own : ∀ socket obj a b, p.connects socket = some obj → p.registered a = some obj.number →
    taggedApp obj.toNetIdentify = some b → b = a
  entered : ∀ socket obj appKey, p.connects socket = some obj →
    p.registered appKey = some obj.number →
      ∃ identify, p.netIdentify[appKey]? = some identify ∧ identify.socketKey = obj.socketKey
  named : ∀ (appKey : UInt64) (identify : NetIdentify), p.netIdentify[appKey]? = some identify →
    taggedApp identify = some appKey
  /-- A tagged connection alone stands for its application. -/
  sole : ∀ socket obj appKey, p.connects socket = some obj →
    taggedApp obj.toNetIdentify = some appKey →
      (∀ other found, p.connects other = some found →
        taggedApp found.toNetIdentify = some appKey ∨ p.registered appKey = some found.number →
          other = socket) ∧
      (∀ identify ∈ p.listenKeys, taggedApp identify ≠ some appKey) ∧
      ∀ identify, .networkDisconnect identify ∈ p.inbox → taggedApp identify ≠ some appKey
  waiting : ∀ identify ∈ p.listenKeys, ∃ appKey,
    identify = ⟨identify.socketKey, addTagInt clear .app appKey⟩ ∧ Located configs appKey ∧
      (∀ socket obj, p.connects socket = some obj →
        (socket = identify.socketKey.socket ↔ p.registered appKey = some obj.number)) ∧
      ∀ lost, .networkDisconnect lost ∈ p.inbox → taggedApp lost ≠ some appKey
  apart : p.listenKeys.Pairwise fun a b => taggedApp a ≠ taggedApp b
  lost : ∀ identify appKey, .networkDisconnect identify ∈ p.inbox →
    taggedApp identify = some appKey → Located configs appKey ∧
      ∀ socket obj, p.connects socket = some obj → p.registered appKey ≠ some obj.number
  asked : ∀ appType appId identify number, .appRegister appType appId identify number ∈ p.inbox →
    number < p.made ∧ ∀ socket obj, p.connects socket = some obj →
      (socket = identify.socketKey.socket ↔ obj.number = number) ∧
      (obj.number = number → obj.socketKey = identify.socketKey ∧ obj.state = .connected ∧
        (obj.socketKey.netType = .tcpConnector → taggedApp obj.toNetIdentify = taggedApp identify))

theorem start_tidy (configs : Configs) : Tidy configs start := by
  constructor
  case running => rfl
  case apart => exact List.Pairwise.nil
  case named =>
    intro appKey identify found
    simp [start] at found
  all_goals
    intros
    simp_all [start]

theorem reached_of_tidy {configs : Configs} {p : Process} (tidy : Tidy configs p) {appKey : UInt64}
    {socket : Int} {obj : ConnectObj} (held : p.connects socket = some obj)
    (registered : p.registered appKey = some obj.number) : sendPacket p appKey = some obj := by
  obtain ⟨identify, found, key⟩ := tidy.entered socket obj appKey held registered
  obtain ⟨here, _, account⟩ := tidy.keyed socket obj held
  have same := compare_same account
    (fun tagged is => tidy.own socket obj appKey tagged held registered is)
    (tidy.named appKey identify found)
  simp only [sendPacket, found, key, here, held]
  rw [if_pos ⟨trivial, same⟩]

theorem update_self (connects : Int → Option ConnectObj) (socket : Int) (obj : Option ConnectObj) :
    update connects socket obj socket = obj := if_pos rfl

theorem update_cases {connects : Int → Option ConnectObj} {socket other : Int}
    {obj : Option ConnectObj} {found : ConnectObj}
    (held : update connects socket obj other = some found) :
    (other = socket ∧ obj = some found) ∨ (other ≠ socket ∧ connects other = some found) := by
  unfold update at held
  split at held
  · rename_i same
    exact Or.inl ⟨same, held⟩
  · rename_i differs
    exact Or.inr ⟨differs, held⟩

/-! ### Connections -/

theorem tidy_add {configs : Configs} {p : Process} (tidy : Tidy configs p) (socket : Int)
    (netType : NetworkType) (tagKey : TagKey) (state : ConnectStateType)
    (free : p.connects socket = none) (unnamed : Unnamed p socket)
    (account : tagKey .account = none)
    (tagged : ∀ appKey, taggedApp ⟨⟨socket, netType⟩, tagKey⟩ = some appKey →
      netType = .tcpConnector ∧ Located configs appKey ∧ Unclaimed p appKey)
    (dialled : state = .connecting → netType = .tcpConnector) :
    Tidy configs (addConnect p socket netType tagKey state) := by
  have fresh : ∀ appKey, p.registered appKey ≠ some p.made := by
    intro appKey entered
    exact Nat.lt_irrefl _ (tidy.known appKey p.made entered)
  have elsewhere : ∀ {other : Int} {found : ConnectObj}, p.connects other = some found →
      other ≠ socket := by
    rintro other found held rfl
    rw [free] at held
    cases held
  constructor
  case running => exact tidy.running
  case keyed =>
    intro other obj held
    rcases update_cases held with ⟨rfl, ⟨⟩⟩ | ⟨_, before⟩
    · exact ⟨rfl, Nat.lt_succ_self _, account⟩
    · obtain ⟨key, less, plain⟩ := tidy.keyed other obj before
      exact ⟨key, Nat.lt_succ_of_lt less, plain⟩
  case distinct =>
    intro s t a b first second same
    rcases update_cases first with ⟨rfl, ⟨⟩⟩ | ⟨_, one⟩
    · rcases update_cases second with ⟨rfl, ⟨⟩⟩ | ⟨_, two⟩
      · rfl
      · exact absurd same.symm (Nat.ne_of_lt (tidy.keyed t b two).2.1)
    · rcases update_cases second with ⟨rfl, ⟨⟩⟩ | ⟨_, two⟩
      · exact absurd same (Nat.ne_of_lt (tidy.keyed s a one).2.1)
      · exact tidy.distinct s t a b one two same
  case located =>
    intro other obj appKey held is
    rcases update_cases held with ⟨rfl, ⟨⟩⟩ | ⟨_, before⟩
    · exact (tagged appKey is).2.1
    · exact tidy.located other obj appKey before is
  case listens =>
    intro other obj appKey held listens is
    rcases update_cases held with ⟨rfl, ⟨⟩⟩ | ⟨_, before⟩
    · exact absurd (tagged appKey is).1 listens
    · exact tidy.listens other obj appKey before listens is
  case dialled =>
    intro other obj held connecting
    rcases update_cases held with ⟨rfl, ⟨⟩⟩ | ⟨_, before⟩
    · exact ⟨dialled connecting, fresh⟩
    · exact tidy.dialled other obj before connecting
  case known => exact fun appKey number entered => Nat.lt_succ_of_lt (tidy.known appKey number entered)
  case single =>
    intro other obj a b held first second
    rcases update_cases held with ⟨rfl, ⟨⟩⟩ | ⟨_, before⟩
    · exact absurd first (fresh a)
    · exact tidy.single other obj a b before first second
  case own =>
    intro other obj a b held first is
    rcases update_cases held with ⟨rfl, ⟨⟩⟩ | ⟨_, before⟩
    · exact absurd first (fresh a)
    · exact tidy.own other obj a b before first is
  case entered =>
    intro other obj appKey held first
    rcases update_cases held with ⟨rfl, ⟨⟩⟩ | ⟨_, before⟩
    · exact absurd first (fresh appKey)
    · exact tidy.entered other obj appKey before first
  case named => exact tidy.named
  case sole =>
    intro other obj appKey held is
    rcases update_cases held with ⟨rfl, ⟨⟩⟩ | ⟨apart, before⟩
    · obtain ⟨_, _, unclaimed⟩ := tagged appKey is
      refine ⟨?_, unclaimed.listenKeys, unclaimed.inbox⟩
      intro third found there reasons
      rcases update_cases there with ⟨rfl, _⟩ | ⟨_, old⟩
      · rfl
      · obtain ⟨untagged, unentered⟩ := unclaimed.connects third found old
        rcases reasons with also | entered
        · exact absurd also untagged
        · exact absurd entered unentered
    · obtain ⟨alone, keys, lost⟩ := tidy.sole other obj appKey before is
      refine ⟨?_, keys, lost⟩
      intro third found there reasons
      rcases update_cases there with ⟨rfl, ⟨⟩⟩ | ⟨_, old⟩
      · rcases reasons with also | entered
        · exact absurd is ((tagged appKey also).2.2.connects other obj before).1
        · exact absurd entered (fresh appKey)
      · exact alone third found old reasons
  case waiting =>
    intro identify member
    obtain ⟨appKey, shape, located, held, lost⟩ := tidy.waiting identify member
    refine ⟨appKey, shape, located, ?_, lost⟩
    intro other obj there
    rcases update_cases there with ⟨rfl, ⟨⟩⟩ | ⟨_, before⟩
    · constructor
      · exact fun same => absurd same.symm (unnamed.listenKeys identify member)
      · exact fun entered => absurd entered (fresh appKey)
    · exact held other obj before
  case apart => exact tidy.apart
  case lost =>
    intro identify appKey member is
    obtain ⟨located, none⟩ := tidy.lost identify appKey member is
    refine ⟨located, ?_⟩
    intro other obj there
    rcases update_cases there with ⟨rfl, ⟨⟩⟩ | ⟨_, before⟩
    · exact fresh appKey
    · exact none other obj before
  case asked =>
    intro appType appId identify number member
    obtain ⟨less, held⟩ := tidy.asked appType appId identify number member
    refine ⟨Nat.lt_succ_of_lt less, ?_⟩
    intro other obj there
    rcases update_cases there with ⟨rfl, ⟨⟩⟩ | ⟨_, before⟩
    · refine ⟨⟨?_, ?_⟩, ?_⟩
      · exact fun same => absurd same.symm (unnamed.inbox appType appId identify number member)
      · exact fun same => absurd same.symm (Nat.ne_of_lt less)
      · exact fun same => absurd same.symm (Nat.ne_of_lt less)
    · exact held other obj before

theorem tidy_close {configs : Configs} {p : Process} (tidy : Tidy configs p) (socket : Int)
    (obj : ConnectObj) (held : p.connects socket = some obj) :
    Tidy configs { p with
      connects := update p.connects socket none
      inbox := p.inbox ++ [.networkDisconnect obj.toNetIdentify] } := by
  have still : ∀ {other : Int} {found : ConnectObj},
      update p.connects socket none other = some found → other ≠ socket ∧ p.connects other = some found := by
    intro other found there
    rcases update_cases there with ⟨_, impossible⟩ | before
    · cases impossible
    · exact before
  have messages : ∀ {message : Message}, message ∈ p.inbox ++ [.networkDisconnect obj.toNetIdentify] →
      message ∈ p.inbox ∨ message = .networkDisconnect obj.toNetIdentify := by
    intro message member
    exact (List.mem_append.mp member).imp id List.mem_singleton.mp
  constructor
  case running => exact tidy.running
  case keyed => exact fun other found there => tidy.keyed other found (still there).2
  case distinct =>
    exact fun s t a b first second same =>
      tidy.distinct s t a b (still first).2 (still second).2 same
  case located => exact fun other found appKey there => tidy.located other found appKey (still there).2
  case listens => exact fun other found appKey there => tidy.listens other found appKey (still there).2
  case dialled => exact fun other found there => tidy.dialled other found (still there).2
  case known => exact tidy.known
  case single => exact fun other found a b there => tidy.single other found a b (still there).2
  case own => exact fun other found a b there => tidy.own other found a b (still there).2
  case entered => exact fun other found appKey there => tidy.entered other found appKey (still there).2
  case named => exact tidy.named
  case sole =>
    intro other found appKey there is
    obtain ⟨apart, before⟩ := still there
    obtain ⟨alone, keys, lost⟩ := tidy.sole other found appKey before is
    refine ⟨fun third also here => alone third also (still here).2, keys, ?_⟩
    intro identify member
    rcases messages member with older | last
    · exact lost identify older
    · cases last
      intro also
      exact apart (alone socket obj held (Or.inl also)).symm
  case waiting =>
    intro identify member
    obtain ⟨appKey, shape, located, there, lost⟩ := tidy.waiting identify member
    refine ⟨appKey, shape, located, fun other found here => there other found (still here).2, ?_⟩
    intro gone inside
    rcases messages inside with older | last
    · exact lost gone older
    · cases last
      intro is
      obtain ⟨_, keys, _⟩ := tidy.sole socket obj appKey held is
      apply keys identify member
      rw [shape]
      exact tagged_add_int _ appKey
  case apart => exact tidy.apart
  case lost =>
    intro identify appKey member is
    rcases messages member with older | last
    · obtain ⟨located, none⟩ := tidy.lost identify appKey older is
      exact ⟨located, fun other found there => none other found (still there).2⟩
    · cases last
      refine ⟨tidy.located socket obj appKey held is, ?_⟩
      intro other found there entered
      obtain ⟨apart, before⟩ := still there
      exact apart ((tidy.sole socket obj appKey held is).1 other found before (Or.inr entered))
  case asked =>
    intro appType appId identify number member
    rcases messages member with older | last
    · obtain ⟨less, there⟩ := tidy.asked appType appId identify number older
      exact ⟨less, fun other found here => there other found (still here).2⟩
    · cases last

theorem tidy_inbox {configs : Configs} {p : Process} (tidy : Tidy configs p) (messages : List Message)
    (lostIn : ∀ identify, .networkDisconnect identify ∈ messages →
      .networkDisconnect identify ∈ p.inbox)
    (asked : ∀ appType appId identify number, .appRegister appType appId identify number ∈ messages →
      number < p.made ∧ ∀ socket obj, p.connects socket = some obj →
        (socket = identify.socketKey.socket ↔ obj.number = number) ∧
        (obj.number = number → obj.socketKey = identify.socketKey ∧ obj.state = .connected ∧
          (obj.socketKey.netType = .tcpConnector →
            taggedApp obj.toNetIdentify = taggedApp identify))) :
    Tidy configs { p with inbox := messages } := by
  constructor
  case running => exact tidy.running
  case keyed => exact tidy.keyed
  case distinct => exact tidy.distinct
  case located => exact tidy.located
  case listens => exact tidy.listens
  case dialled => exact tidy.dialled
  case known => exact tidy.known
  case single => exact tidy.single
  case own => exact tidy.own
  case entered => exact tidy.entered
  case named => exact tidy.named
  case apart => exact tidy.apart
  case sole =>
    intro other found appKey there is
    obtain ⟨alone, keys, lost⟩ := tidy.sole other found appKey there is
    exact ⟨alone, keys, fun identify member => lost identify (lostIn identify member)⟩
  case waiting =>
    intro identify member
    obtain ⟨appKey, shape, located, there, lost⟩ := tidy.waiting identify member
    exact ⟨appKey, shape, located, there, fun gone inside => lost gone (lostIn gone inside)⟩
  case lost => exact fun identify appKey member => tidy.lost identify appKey (lostIn identify member)
  case asked => exact asked

theorem tidy_table {configs : Configs} {p : Process} (tidy : Tidy configs p) (n : Locator)
    (entered : ∀ socket obj appKey, p.connects socket = some obj →
      p.registered appKey = some obj.number →
        ∃ identify, n[appKey]? = some identify ∧ identify.socketKey = obj.socketKey)
    (named : ∀ (appKey : UInt64) (identify : NetIdentify), n[appKey]? = some identify →
      taggedApp identify = some appKey) :
    Tidy configs { p with netIdentify := n } := by
  constructor
  case running => exact tidy.running
  case keyed => exact tidy.keyed
  case distinct => exact tidy.distinct
  case located => exact tidy.located
  case listens => exact tidy.listens
  case dialled => exact tidy.dialled
  case known => exact tidy.known
  case single => exact tidy.single
  case own => exact tidy.own
  case entered => exact entered
  case named => exact named
  case sole => exact tidy.sole
  case waiting => exact tidy.waiting
  case apart => exact tidy.apart
  case lost => exact tidy.lost
  case asked => exact tidy.asked

theorem tidy_register {configs : Configs} {p : Process} (tidy : Tidy configs p) (socket : Int)
    (obj : ConnectObj) (appType appId : Int32) (held : p.connects socket = some obj)
    (connected : obj.state = .connected) :
    Tidy configs { p with
      inbox := p.inbox ++ [.appRegister appType appId obj.toNetIdentify obj.number] } := by
  obtain ⟨key, less, _⟩ := tidy.keyed socket obj held
  apply tidy_inbox tidy
  · intro identify member
    rcases List.mem_append.mp member with older | last
    · exact older
    · cases List.mem_singleton.mp last
  · intro type id identify number member
    rcases List.mem_append.mp member with older | last
    · exact tidy.asked type id identify number older
    · cases List.mem_singleton.mp last
      refine ⟨less, ?_⟩
      intro other found there
      refine ⟨⟨?_, ?_⟩, ?_⟩
      · intro same
        rw [same, key, held] at there
        cases there
        rfl
      · intro same
        rw [key]
        exact tidy.distinct other socket found obj there held same
      · intro same
        have here := tidy.distinct other socket found obj there held same
        rw [here, held] at there
        cases there
        exact ⟨rfl, connected, fun _ => rfl⟩

theorem enter_cases {registered : UInt64 → Option Nat} {appKey other : UInt64} {number found : Nat}
    (entered : enter registered appKey number other = some found) :
    (other = appKey ∧ found = number) ∨ (other ≠ appKey ∧ registered other = some found) := by
  unfold enter at entered
  split at entered
  · rename_i same
    exact Or.inl ⟨same, (Option.some.inj entered).symm⟩
  · rename_i differs
    exact Or.inr ⟨differs, entered⟩

theorem enter_other (registered : UInt64 → Option Nat) {appKey other : UInt64} (number : Nat)
    (differs : other ≠ appKey) : enter registered appKey number other = registered other :=
  if_neg differs

theorem add_network_identify (n : Locator) (socketKey : SocketKey) (appKey other : UInt64) :
    (addNetworkIdentify n socketKey appKey)[other]? =
      if other = appKey then some ⟨socketKey, addTagInt clear .app appKey⟩ else n[other]? := by
  unfold addNetworkIdentify
  dsimp only
  rw [get_insert]
  split
  · rfl
  · rename_i differs
    cases n[appKey]? with
    | none => rfl
    | some known =>
        dsimp only
        rw [get_erase, if_neg differs]

theorem connected_of_update {connects : Int → Option ConnectObj} {socket other : Int}
    {obj found : ConnectObj} (held : connects socket = some obj)
    (there : update connects socket (some { obj with state := .connected }) other = some found) :
    ∃ before, connects other = some before ∧ found.toNetIdentify = before.toNetIdentify ∧
      found.number = before.number ∧
      (found.state = .connecting → other ≠ socket ∧ before.state = .connecting) ∧
      (before.state = .connected → found.state = .connected) := by
  rcases update_cases there with ⟨rfl, ⟨⟩⟩ | ⟨apart, before⟩
  · refine ⟨obj, held, rfl, rfl, ?_, fun _ => rfl⟩
    intro impossible
    cases impossible
  · exact ⟨found, before, rfl, rfl, fun still => ⟨apart, still⟩, id⟩

/-- Each connection is one from before, with its key, its number and its account;
it does not go back to connecting. -/
def Renewed (old now : Int → Option ConnectObj) : Prop :=
  ∀ socket obj, now socket = some obj → ∃ before, old socket = some before ∧
    obj.socketKey = before.socketKey ∧ obj.number = before.number ∧
    obj.tagKey .account = before.tagKey .account ∧
    (obj.state = .connecting → before.state = .connecting) ∧
    (before.state = .connected → obj.state = .connected)

theorem tidy_renewed {configs : Configs} {p : Process} (tidy : Tidy configs p)
    {connects : Int → Option ConnectObj} (renewed : Renewed p.connects connects)
    (located : ∀ socket obj appKey, connects socket = some obj →
      taggedApp obj.toNetIdentify = some appKey → Located configs appKey)
    (listens : ∀ socket obj appKey, connects socket = some obj → obj.socketKey.netType ≠ .tcpConnector →
      taggedApp obj.toNetIdentify = some appKey → p.registered appKey = some obj.number)
    (own : ∀ socket obj a b, connects socket = some obj → p.registered a = some obj.number →
      taggedApp obj.toNetIdentify = some b → b = a)
    (sole : ∀ socket obj appKey, connects socket = some obj →
      taggedApp obj.toNetIdentify = some appKey →
        (∀ other found, connects other = some found →
          taggedApp found.toNetIdentify = some appKey ∨ p.registered appKey = some found.number →
            other = socket) ∧
        (∀ identify ∈ p.listenKeys, taggedApp identify ≠ some appKey) ∧
        ∀ identify, .networkDisconnect identify ∈ p.inbox → taggedApp identify ≠ some appKey)
    (dials : ∀ socket obj before, connects socket = some obj → p.connects socket = some before →
      obj.socketKey.netType = .tcpConnector →
        taggedApp obj.toNetIdentify = taggedApp before.toNetIdentify) :
    Tidy configs { p with connects := connects } := by
  constructor
  case running => exact tidy.running
  case known => exact tidy.known
  case named => exact tidy.named
  case apart => exact tidy.apart
  case located => exact located
  case listens => exact listens
  case own => exact own
  case sole => exact sole
  case keyed =>
    intro socket obj held
    obtain ⟨before, here, key, number, account, _⟩ := renewed socket obj held
    rw [key, number, account]
    exact tidy.keyed socket before here
  case distinct =>
    intro s t a b first second same
    obtain ⟨one, here, _, number, _⟩ := renewed s a first
    obtain ⟨two, there, _, number', _⟩ := renewed t b second
    exact tidy.distinct s t one two here there (number.symm.trans (same.trans number'))
  case dialled =>
    intro socket obj held connecting
    obtain ⟨before, here, key, number, _, state, _⟩ := renewed socket obj held
    rw [key, number]
    exact tidy.dialled socket before here (state connecting)
  case single =>
    intro socket obj a b held first second
    obtain ⟨before, here, _, number, _⟩ := renewed socket obj held
    rw [number] at first second
    exact tidy.single socket before a b here first second
  case entered =>
    intro socket obj appKey held first
    obtain ⟨before, here, key, number, _⟩ := renewed socket obj held
    rw [number] at first
    rw [key]
    exact tidy.entered socket before appKey here first
  case waiting =>
    intro identify member
    obtain ⟨appKey, shape, located, there, lost⟩ := tidy.waiting identify member
    refine ⟨appKey, shape, located, ?_, lost⟩
    intro socket obj held
    obtain ⟨before, here, _, number, _⟩ := renewed socket obj held
    rw [number]
    exact there socket before here
  case lost =>
    intro identify appKey member is
    obtain ⟨located, none⟩ := tidy.lost identify appKey member is
    refine ⟨located, ?_⟩
    intro socket obj held
    obtain ⟨before, here, _, number, _⟩ := renewed socket obj held
    rw [number]
    exact none socket before here
  case asked =>
    intro appType appId identify number member
    obtain ⟨less, there⟩ := tidy.asked appType appId identify number member
    refine ⟨less, ?_⟩
    intro socket obj held
    obtain ⟨before, here, key, number', _, _, connected⟩ := renewed socket obj held
    obtain ⟨place, rest⟩ := there socket before here
    rw [number']
    refine ⟨place, fun is => ⟨key.trans (rest is).1, connected (rest is).2.1, ?_⟩⟩
    intro kind
    rw [dials socket obj before held here kind]
    exact (rest is).2.2 (key ▸ kind)

theorem tidy_connected {configs : Configs} {p : Process} (tidy : Tidy configs p) {socket : Int}
    {obj : ConnectObj} (held : p.connects socket = some obj) :
    Tidy configs { p with
      connects := update p.connects socket (some { obj with state := .connected }) } := by
  apply tidy_renewed tidy
  · intro other found there
    obtain ⟨before, here, same, number, state, connected⟩ := connected_of_update held there
    exact ⟨before, here, congrArg NetIdentify.socketKey same, number,
      congrArg (fun identify => identify.tagKey .account) same, fun still => (state still).2, connected⟩
  · intro other found appKey there is
    obtain ⟨before, here, same, _⟩ := connected_of_update held there
    exact tidy.located other before appKey here (same ▸ is)
  · intro other found appKey there listens is
    obtain ⟨before, here, same, number, _⟩ := connected_of_update held there
    rw [same] at listens is
    rw [number]
    exact tidy.listens other before appKey here listens is
  · intro other found a b there first is
    obtain ⟨before, here, same, number, _⟩ := connected_of_update held there
    rw [number] at first
    exact tidy.own other before a b here first (same ▸ is)
  · intro other found appKey there is
    obtain ⟨before, here, same, number, _⟩ := connected_of_update held there
    obtain ⟨alone, keys, lost⟩ := tidy.sole other before appKey here (same ▸ is)
    refine ⟨?_, keys, lost⟩
    intro third also inside reasons
    obtain ⟨old, has, same', number', _⟩ := connected_of_update held inside
    rw [same', number'] at reasons
    exact alone third old has reasons
  · intro other found before there here _
    obtain ⟨old, has, same, _⟩ := connected_of_update held there
    rw [here] at has
    cases has
    exact congrArg taggedApp same

theorem tidy_enter {configs : Configs} {p : Process} (tidy : Tidy configs p) {appKey : UInt64}
    {number : Nat} {entry : NetIdentify} {n : Locator} (less : number < p.made)
    (table : ∀ other : UInt64, n[other]? = if other = appKey then some entry else p.netIdentify[other]?)
    (named : taggedApp entry = some appKey)
    (ready : ∀ socket obj, p.connects socket = some obj → obj.number = number →
      obj.state = .connected ∧ entry.socketKey = obj.socketKey ∧
        ∀ tagged, taggedApp obj.toNetIdentify = some tagged → tagged = appKey)
    (first : ∀ socket obj other, p.connects socket = some obj → obj.number = number →
      p.registered other = some number → other = appKey)
    (alone : ∀ socket obj, p.connects socket = some obj →
      taggedApp obj.toNetIdentify = some appKey → obj.number = number)
    (keys : ∀ key ∈ p.listenKeys, taggedApp key ≠ some appKey)
    (unlost : ∀ gone, .networkDisconnect gone ∈ p.inbox → taggedApp gone ≠ some appKey) :
    Tidy configs { p with netIdentify := n, registered := enter p.registered appKey number } := by
  constructor
  case running => exact tidy.running
  case keyed => exact tidy.keyed
  case distinct => exact tidy.distinct
  case located => exact tidy.located
  case asked => exact tidy.asked
  case apart => exact tidy.apart
  case listens =>
    intro socket obj tagged held listens is
    dsimp only
    by_cases same : tagged = appKey
    · rw [same] at is ⊢
      exact (if_pos rfl).trans (congrArg some (alone socket obj held is).symm)
    · rw [enter_other _ _ same]
      exact tidy.listens socket obj tagged held listens is
  case dialled =>
    intro socket obj held connecting
    obtain ⟨kind, none⟩ := tidy.dialled socket obj held connecting
    refine ⟨kind, ?_⟩
    intro tagged entered
    rcases enter_cases entered with ⟨_, same⟩ | ⟨_, old⟩
    · rw [(ready socket obj held same).1] at connecting
      cases connecting
    · exact none tagged old
  case known =>
    intro tagged found entered
    rcases enter_cases entered with ⟨_, rfl⟩ | ⟨_, old⟩
    · exact less
    · exact tidy.known tagged found old
  case single =>
    intro socket obj a b held one two
    rcases enter_cases one with ⟨this, same⟩ | ⟨_, old⟩
    · rcases enter_cases two with ⟨that, _⟩ | ⟨_, older⟩
      · exact this.trans that.symm
      · rw [this]
        exact (first socket obj b held same (same ▸ older)).symm
    · rcases enter_cases two with ⟨that, same⟩ | ⟨_, older⟩
      · rw [that]
        exact first socket obj a held same (same ▸ old)
      · exact tidy.single socket obj a b held old older
  case own =>
    intro socket obj a b held one is
    rcases enter_cases one with ⟨this, same⟩ | ⟨_, old⟩
    · rw [this]
      exact (ready socket obj held same).2.2 b is
    · exact tidy.own socket obj a b held old is
  case entered =>
    intro socket obj tagged held one
    dsimp only
    rw [table]
    rcases enter_cases one with ⟨this, same⟩ | ⟨differs, old⟩
    · rw [if_pos this]
      exact ⟨entry, rfl, (ready socket obj held same).2.1⟩
    · rw [if_neg differs]
      exact tidy.entered socket obj tagged held old
  case named =>
    intro tagged found there
    dsimp only at there
    rw [table] at there
    split at there
    · rename_i same
      cases there
      rw [same]
      exact named
    · exact tidy.named tagged found there
  case sole =>
    intro socket obj tagged held is
    obtain ⟨before, waits, lost⟩ := tidy.sole socket obj tagged held is
    refine ⟨?_, waits, lost⟩
    intro other found there reasons
    rcases reasons with also | entered
    · exact before other found there (Or.inl also)
    · rcases enter_cases entered with ⟨this, same⟩ | ⟨_, old⟩
      · rw [this] at is
        exact tidy.distinct other socket found obj there held (same.trans (alone socket obj held is).symm)
      · exact before other found there (Or.inr old)
  case waiting =>
    intro key member
    obtain ⟨tagged, shape, located, there, lost⟩ := tidy.waiting key member
    have differs : tagged ≠ appKey := by
      rintro rfl
      apply keys key member
      rw [shape]
      exact tagged_add_int _ _
    refine ⟨tagged, shape, located, ?_, lost⟩
    dsimp only
    rw [enter_other _ _ differs]
    exact there
  case lost =>
    intro gone tagged member is
    obtain ⟨located, none⟩ := tidy.lost gone tagged member is
    have differs : tagged ≠ appKey := by
      rintro rfl
      exact unlost gone member is
    refine ⟨located, ?_⟩
    dsimp only
    rw [enter_other _ _ differs]
    exact none

theorem tidy_change_state {configs : Configs} {p : Process} (tidy : Tidy configs p) (socket : Int)
    (obj : ConnectObj) (held : p.connects socket = some obj) (connecting : obj.state = .connecting) :
    Tidy configs (changeStateToConnected p socket obj) := by
  obtain ⟨_, unentered⟩ := tidy.dialled socket obj held connecting
  have base := tidy_connected tidy held
  rw [changeStateToConnected]
  cases found : obj.tagKey .app with
  | none => exact base
  | some tagValue =>
      dsimp only
      have is : taggedApp obj.toNetIdentify = some tagValue.keyInt64 := by
        rw [taggedApp, found]
        rfl
      generalize tagValue.keyInt64 = appKey at is
      obtain ⟨alone, keys, lost⟩ := tidy.sole socket obj appKey held is
      -- the connection with this number is this one, and it is connected now
      have this : ∀ other found,
          update p.connects socket (some { obj with state := .connected }) other = some found →
            found.number = obj.number → found = { obj with state := .connected } := by
        intro other found there same
        obtain ⟨before, here, _, number, _⟩ := connected_of_update held there
        have place := tidy.distinct other socket before obj here held (number.symm.trans same)
        rw [place, update_self] at there
        exact (Option.some.inj there).symm
      apply tidy_enter base (tidy.keyed socket obj held).2.1
        (fun other => add_network_identify p.netIdentify obj.socketKey appKey other) (tagged_add_int _ _)
      · intro other found there same
        rw [this other found there same]
        exact ⟨rfl, rfl, fun tagged also => Option.some.inj (also.symm.trans is)⟩
      · intro other found tagged there same entered
        exact absurd entered (unentered tagged)
      · intro other found there also
        obtain ⟨before, here, same, number, _⟩ := connected_of_update held there
        have place := alone other before here (Or.inl (same ▸ also))
        rw [place, held] at here
        cases here
        exact number
      · exact keys
      · exact lost

/-! ### Messages -/

theorem tidy_rest {configs : Configs} {p : Process} {message : Message} {rest : List Message}
    (tidy : Tidy configs p) (waiting : p.inbox = message :: rest) :
    Tidy configs { p with inbox := rest } := by
  have more : ∀ {other : Message}, other ∈ rest → other ∈ p.inbox := by
    intro other member
    rw [waiting]
    exact List.mem_cons_of_mem _ member
  apply tidy_inbox tidy
  · exact fun identify member => more member
  · exact fun type id identify number member => tidy.asked type id identify number (more member)

/-- The entry that a MI_NetworkDisconnect removes belongs to no open connection. -/
theorem tidy_disconnect {configs : Configs} {p : Process} {identify : NetIdentify} (tidy : Tidy configs p)
    (gone : ∀ appKey, taggedApp identify = some appKey → Located configs appKey ∧
      ∀ socket obj, p.connects socket = some obj → p.registered appKey ≠ some obj.number) :
    Tidy configs (disconnect configs p identify) := by
  rw [disconnect]
  cases is : taggedApp identify with
  | none => exact tidy
  | some appKey =>
      dsimp only
      obtain ⟨located, none⟩ := gone appKey is
      obtain ⟨tagApp, found, key⟩ := some_of_tagged is
      have erased : handleNetworkDisconnect p.netIdentify identify = p.netIdentify.erase appKey := by
        rw [handleNetworkDisconnect, found]
        dsimp only
        rw [key]
      have kept : Tidy configs { p with netIdentify := p.netIdentify.erase appKey } := by
        apply tidy_table tidy
        · intro socket obj other held first
          have differs : other ≠ appKey := by
            rintro rfl
            exact none socket obj held first
          rw [get_erase, if_neg differs]
          exact tidy.entered socket obj other held first
        · intro other entry there
          rw [get_erase] at there
          split at there
          · cases there
          · exact tidy.named other entry there
      have runs : (endpointOf configs appKey).isNone = false := by
        rw [Option.isNone_eq_false_iff]
        exact located
      rw [erased]
      exact { kept with running := runs }

theorem tidy_registered {configs : Configs} {p : Process} {appKey : UInt64}
    {identify known : NetIdentify} (tidy : Tidy configs p) (number : Nat)
    (found : p.netIdentify[appKey]? = some known)
    (proper : ∀ tagged, taggedApp identify = some tagged → tagged = appKey) :
    Tidy configs (handleAppRegister p appKey identify number) ∧
      (handleAppRegister p appKey identify number).registered = p.registered := by
  rw [handleAppRegister, found]
  dsimp only
  refine ⟨?_, rfl⟩
  apply tidy_table tidy
  · intro socket obj other held first
    obtain ⟨entry, there, key⟩ := tidy.entered socket obj other held first
    rw [get_insert]
    split
    · rename_i same
      rw [same, found] at there
      cases there
      exact ⟨_, rfl, key⟩
    · exact ⟨entry, there, key⟩
  · intro other entry there
    rw [get_insert] at there
    split at there
    · rename_i same
      cases there
      have copied := tagged_copy known.socketKey known.tagKey identify.tagKey
      have old := tidy.named appKey known found
      rw [copied, same]
      cases tagged : taggedApp ⟨known.socketKey, identify.tagKey⟩ with
      | none => exact old
      | some other => exact congrArg some (proper other tagged)
    · exact tidy.named other entry there

theorem tidy_key_added {configs : Configs} {p : Process} (tidy : Tidy configs p) {appKey : UInt64}
    (socketKey : SocketKey) (located : Located configs appKey)
    (untagged : ∀ socket obj, p.connects socket = some obj →
      taggedApp obj.toNetIdentify ≠ some appKey)
    (place : ∀ socket obj, p.connects socket = some obj →
      (socket = socketKey.socket ↔ p.registered appKey = some obj.number))
    (keys : ∀ key ∈ p.listenKeys, taggedApp key ≠ some appKey)
    (unlost : ∀ gone, .networkDisconnect gone ∈ p.inbox → taggedApp gone ≠ some appKey) :
    Tidy configs { p with
      listenKeys := p.listenKeys ++ [⟨socketKey, addTagInt clear .app appKey⟩] } := by
  have keysIn : ∀ {key : NetIdentify},
      key ∈ p.listenKeys ++ [⟨socketKey, addTagInt clear .app appKey⟩] →
        key ∈ p.listenKeys ∨ key = ⟨socketKey, addTagInt clear .app appKey⟩ := by
    intro key member
    exact (List.mem_append.mp member).imp id List.mem_singleton.mp
  constructor
  case running => exact tidy.running
  case keyed => exact tidy.keyed
  case distinct => exact tidy.distinct
  case located => exact tidy.located
  case listens => exact tidy.listens
  case dialled => exact tidy.dialled
  case known => exact tidy.known
  case single => exact tidy.single
  case own => exact tidy.own
  case entered => exact tidy.entered
  case named => exact tidy.named
  case lost => exact tidy.lost
  case asked => exact tidy.asked
  case sole =>
    intro socket obj tagged held is
    obtain ⟨alone, waits, lost⟩ := tidy.sole socket obj tagged held is
    refine ⟨alone, ?_, lost⟩
    intro key member
    rcases keysIn member with older | rfl
    · exact waits key older
    · rw [tagged_add_int]
      rintro ⟨⟩
      exact untagged socket obj held is
  case waiting =>
    intro key member
    rcases keysIn member with older | rfl
    · exact tidy.waiting key older
    · exact ⟨appKey, rfl, located, place, unlost⟩
  case apart =>
    apply List.pairwise_append.mpr
    refine ⟨tidy.apart, List.pairwise_singleton _ _, ?_⟩
    intro key member last is
    rw [List.mem_singleton.mp is, tagged_add_int]
    exact keys key member

theorem tidy_entered {configs : Configs} {p : Process} {appKey : UInt64} {identify : NetIdentify}
    {number : Nat} (tidy : Tidy configs p) (absent : p.netIdentify[appKey]? = none)
    (proper : ∀ tagged, taggedApp identify = some tagged → tagged = appKey)
    (located : Located configs appKey) (unclaimed : Unclaimed p appKey)
    (first : ∀ socket obj other, p.connects socket = some obj → obj.number = number →
      p.registered other = some number → other = appKey)
    (less : number < p.made)
    (asked : ∀ socket obj, p.connects socket = some obj →
      (socket = identify.socketKey.socket ↔ obj.number = number) ∧
      (obj.number = number → obj.socketKey = identify.socketKey ∧ obj.state = .connected ∧
        (obj.socketKey.netType = .tcpConnector → taggedApp obj.toNetIdentify = taggedApp identify))) :
    Tidy configs (handleAppRegister p appKey identify number) ∧
      ∀ other, other ≠ appKey → (handleAppRegister p appKey identify number).registered other =
        p.registered other := by
  rw [handleAppRegister, absent]
  dsimp only
  refine ⟨?_, fun other differs => enter_other _ _ differs⟩
  have entered : Tidy configs { p with
      netIdentify := p.netIdentify.insert appKey ⟨identify.socketKey, addTagInt clear .app appKey⟩
      registered := enter p.registered appKey number } := by
    apply tidy_enter tidy less (fun other => get_insert _ _ _ _) (tagged_add_int _ _)
    · intro socket obj held same
      obtain ⟨key, connected, tags⟩ := (asked socket obj held).2 same
      refine ⟨connected, key.symm, ?_⟩
      intro tagged is
      by_cases kind : obj.socketKey.netType = .tcpConnector
      · exact proper tagged ((tags kind).symm.trans is)
      · apply first socket obj tagged held same
        rw [← same]
        exact tidy.listens socket obj tagged held kind is
    · exact first
    · intro socket obj held is
      exact absurd is (unclaimed.connects socket obj held).1
    · exact unclaimed.listenKeys
    · exact unclaimed.inbox
  apply tidy_key_added entered identify.socketKey located
  · intro socket obj held
    exact (unclaimed.connects socket obj held).1
  · intro socket obj held
    have now : enter p.registered appKey number appKey = some number := if_pos rfl
    dsimp only
    rw [now, (asked socket obj held).1]
    exact ⟨fun same => congrArg some same.symm, fun same => (Option.some.inj same).symm⟩
  · exact unclaimed.listenKeys
  · exact unclaimed.inbox

/-! ### MI_NetworkListenKey -/

theorem handle_listen_key_cases (connects : Int → Option ConnectObj) (identify : NetIdentify) :
    handleListenKey connects identify = connects ∨
    ∃ obj, connects identify.socketKey.socket = some obj ∧ obj.socketKey.netType = .tcpListen ∧
      handleListenKey connects identify = update connects identify.socketKey.socket
        (some { obj with tagKey := copyFrom obj.tagKey identify.tagKey }) := by
  unfold handleListenKey
  split
  · exact Or.inl rfl
  · cases found : connects identify.socketKey.socket with
    | none => exact Or.inl rfl
    | some obj =>
        dsimp only
        split
        · exact Or.inl rfl
        · rename_i listens
          exact Or.inr ⟨obj, rfl, not_not.mp listens, rfl⟩

theorem tidy_key_rest {configs : Configs} {p : Process} {identify : NetIdentify}
    {rest : List NetIdentify} (tidy : Tidy configs p) (first : p.listenKeys = identify :: rest) :
    Tidy configs { p with listenKeys := rest } := by
  have more : ∀ {other : NetIdentify}, other ∈ rest → other ∈ p.listenKeys := by
    intro other member
    rw [first]
    exact List.mem_cons_of_mem _ member
  have apart := tidy.apart
  rw [first] at apart
  constructor
  case running => exact tidy.running
  case keyed => exact tidy.keyed
  case distinct => exact tidy.distinct
  case located => exact tidy.located
  case listens => exact tidy.listens
  case dialled => exact tidy.dialled
  case known => exact tidy.known
  case single => exact tidy.single
  case own => exact tidy.own
  case entered => exact tidy.entered
  case named => exact tidy.named
  case apart => exact (List.pairwise_cons.mp apart).2
  case sole =>
    intro other found appKey there is
    obtain ⟨alone, keys, lost⟩ := tidy.sole other found appKey there is
    exact ⟨alone, fun identify member => keys identify (more member), lost⟩
  case waiting => exact fun identify member => tidy.waiting identify (more member)
  case lost => exact tidy.lost
  case asked => exact tidy.asked

theorem tidy_tagged {configs : Configs} {p : Process} {identify : NetIdentify}
    {rest : List NetIdentify} {obj : ConnectObj} (tidy : Tidy configs p)
    (first : p.listenKeys = identify :: rest)
    (held : p.connects identify.socketKey.socket = some obj)
    (listens : obj.socketKey.netType = .tcpListen) :
    Tidy configs { p with
      connects := update p.connects identify.socketKey.socket
        (some { obj with tagKey := copyFrom obj.tagKey identify.tagKey })
      listenKeys := rest } := by
  have base := tidy_key_rest tidy first
  have head : identify ∈ p.listenKeys := by
    rw [first]
    exact List.mem_cons_self
  obtain ⟨appKey, shape, located, place, unlost⟩ := tidy.waiting identify head
  have mine : p.registered appKey = some obj.number := (place _ obj held).mp rfl
  have tag : identify.tagKey = addTagInt clear .app appKey := congrArg NetIdentify.tagKey shape
  have others : ∀ key ∈ rest, taggedApp key ≠ some appKey := by
    intro key member
    have apart := tidy.apart
    rw [first] at apart
    have differs := (List.pairwise_cons.mp apart).1 key member
    rw [shape, tagged_add_int] at differs
    exact differs.symm
  have tagged : taggedApp ⟨obj.socketKey, copyFrom obj.tagKey identify.tagKey⟩ = some appKey := by
    rw [tagged_copy, tag, tagged_add_int]
    rfl
  generalize identify.socketKey.socket = socket at held place
  -- the connections are those before, but for the tags of this one
  have older : ∀ {other : Int} {found : ConnectObj},
      update p.connects socket
        (some { obj with tagKey := copyFrom obj.tagKey identify.tagKey }) other = some found →
        ∃ before, p.connects other = some before ∧ found.socketKey = before.socketKey ∧
          found.number = before.number ∧ found.state = before.state ∧
          found.tagKey .account = before.tagKey .account ∧
          ((other = socket ∧ taggedApp found.toNetIdentify = some appKey ∧
              found.socketKey.netType = .tcpListen) ∨
            (other ≠ socket ∧ taggedApp found.toNetIdentify = taggedApp before.toNetIdentify)) := by
    intro other found there
    rcases update_cases there with ⟨rfl, ⟨⟩⟩ | ⟨apart, before⟩
    · refine ⟨obj, held, rfl, rfl, rfl, ?_, Or.inl ⟨rfl, tagged, listens⟩⟩
      dsimp only
      rw [tag]
      exact account_copy obj.tagKey appKey
    · exact ⟨found, before, rfl, rfl, rfl, rfl, Or.inr ⟨apart, rfl⟩⟩
  -- whoever was tagged with the application is this connection
  have only : ∀ {other : Int} {before : ConnectObj}, p.connects other = some before →
      taggedApp before.toNetIdentify ≠ some appKey := by
    intro other before there is
    apply (tidy.sole other before appKey there is).2.1 identify head
    rw [shape]
    exact tagged_add_int _ _
  apply tidy_renewed base
  · intro other found there
    obtain ⟨before, here, key, number, state, account, _⟩ := older there
    exact ⟨before, here, key, number, account, fun still => state ▸ still, fun was => state.trans was⟩
  · intro other found tagged' there is
    obtain ⟨before, here, _, _, _, _, ⟨_, now, _⟩ | ⟨_, same⟩⟩ := older there
    · rw [now] at is
      cases is
      exact located
    · exact tidy.located other before tagged' here (same ▸ is)
  · intro other found tagged' there kind is
    obtain ⟨before, here, key, number, _, _, ⟨place', now, _⟩ | ⟨_, same⟩⟩ := older there
    · rw [now] at is
      cases is
      rw [place', held] at here
      cases here
      rw [number]
      exact mine
    · rw [number]
      rw [key] at kind
      exact tidy.listens other before tagged' here kind (same ▸ is)
  · intro other found a b there one is
    obtain ⟨before, here, _, number, _, _, ⟨place', now, _⟩ | ⟨_, same⟩⟩ := older there
    · rw [now] at is
      cases is
      rw [place', held] at here
      cases here
      rw [number] at one
      exact tidy.single socket obj _ a held mine one
    · rw [number] at one
      exact tidy.own other before a b here one (same ▸ is)
  · intro other found tagged' there is
    obtain ⟨before, here, _, _, _, _, ⟨place', now, _⟩ | ⟨apart, same⟩⟩ := older there
    · rw [now] at is
      cases is
      refine ⟨?_, others, unlost⟩
      intro third also inside reasons
      obtain ⟨old, has, _, number', _, _, ⟨spot, _⟩ | ⟨_, same'⟩⟩ := older inside
      · rw [spot, place']
      · rw [same'] at reasons
        rcases reasons with third_is | entered
        · exact absurd third_is (only has)
        · rw [number'] at entered
          rw [place']
          exact (place third old has).mpr entered
    · obtain ⟨alone, keys, lost⟩ := base.sole other before tagged' here (same ▸ is)
      refine ⟨?_, keys, lost⟩
      intro third also inside reasons
      obtain ⟨old, has, _, number', _, _, ⟨spot, now', _⟩ | ⟨_, same'⟩⟩ := older inside
      · rcases reasons with third_is | entered
        · rw [now'] at third_is
          cases third_is
          exact absurd (same ▸ is) (only here)
        · rw [number'] at entered
          exact alone third old has (Or.inr entered)
      · rw [same', number'] at reasons
        exact alone third old has reasons
  · intro other found before there here dialled
    obtain ⟨old, has, _, _, _, _, ⟨_, _, kind⟩ | ⟨_, same⟩⟩ := older there
    · rw [kind] at dialled
      cases dialled
    · rw [here] at has
      cases has
      exact same

theorem tidy_step {configs : Configs} {before after : Process} {event : Event}
    (tidy : Tidy configs before) (taken : Guarded (Step configs) (InTurn configs) before event after) :
    Tidy configs after ∧ (event = .handle → ∀ appKey socket obj, before.connects socket = some obj →
      before.registered appKey = some obj.number → after.registered appKey = some obj.number) := by
  obtain ⟨step, inTurn⟩ := taken
  cases step with
  | accept socket running free =>
      refine ⟨tidy_add tidy socket _ _ _ free inTurn rfl ?_ nofun, nofun⟩
      intro appKey is
      cases is
  | connect appKey socket state running free =>
      obtain ⟨unnamed, located, unclaimed⟩ := inTurn
      refine ⟨tidy_add tidy socket _ _ _ free unnamed (account_add appKey) ?_ (fun _ => rfl), nofun⟩
      intro tagged is
      rw [tagged_add] at is
      cases is
      exact ⟨rfl, located, unclaimed⟩
  | changeStateToConnected socket obj running held connecting =>
      exact ⟨tidy_change_state tidy socket obj held connecting, nofun⟩
  | appRegister socket obj appType appId running held connected =>
      exact ⟨tidy_register tidy socket obj appType appId held connected, nofun⟩
  | close socket obj running held => exact ⟨tidy_close tidy socket obj held, nofun⟩
  | handle message rest running waiting =>
      have left := tidy_rest tidy waiting
      have proper := inTurn message rest waiting
      have head : message ∈ before.inbox := by
        rw [waiting]
        exact List.mem_cons_self
      cases message with
      | networkDisconnect identify =>
          refine ⟨tidy_disconnect left fun appKey is => tidy.lost identify appKey head is, ?_⟩
          intro _ appKey socket obj held entered
          rw [handle, disconnect]
          cases taggedApp identify with
          | none => exact entered
          | some gone => exact entered
      | appRegister appType appId identify number =>
          obtain ⟨own, fresh⟩ := proper
          obtain ⟨less, asked⟩ := tidy.asked appType appId identify number head
          rw [handle]
          cases found : before.netIdentify[appKeyOf appType appId]? with
          | some known =>
              obtain ⟨next, same⟩ := tidy_registered left number found own
              refine ⟨next, ?_⟩
              intro _ appKey socket obj held entered
              rw [same]
              exact entered
          | none =>
              obtain ⟨located, unclaimed, first⟩ := fresh found
              obtain ⟨next, same⟩ := tidy_entered left found own located
                ⟨unclaimed.connects, unclaimed.listenKeys, fun gone member =>
                  unclaimed.inbox gone (by
                    rw [waiting]
                    exact List.mem_cons_of_mem _ member)⟩
                first less asked
              refine ⟨next, ?_⟩
              intro _ appKey socket obj held entered
              have differs : appKey ≠ appKeyOf appType appId := by
                rintro rfl
                exact (unclaimed.connects socket obj held).2 entered
              rw [same appKey differs]
              exact entered
  | handleListenKey identify rest running waiting =>
      refine ⟨?_, nofun⟩
      rcases handle_listen_key_cases before.connects identify with same | ⟨obj, held, listens, changed⟩
      · rw [same]
        exact tidy_key_rest tidy waiting
      · rw [changed]
        exact tidy_tagged tidy waiting held listens

/-- The locator survives registrations: none of them makes a later disconnect
fail, or takes an application from its connection. -/
theorem registrations_survived (configs : Configs) (events : List Event) (p : Process)
    (run : Run (Guarded (Step configs) (InTurn configs)) start events p) :
    Run (Lawful (Step configs) Survives) start events p := by
  apply lawful_of_guarded (Tidy configs) _ _ run (start_tidy configs)
  · exact fun before event after tidy taken => (tidy_step tidy taken).1
  · intro before event after tidy taken
    obtain ⟨next, kept⟩ := tidy_step tidy taken
    exact ⟨next.running, kept, fun appKey socket obj held entered =>
      reached_of_tidy next held entered⟩

def someConfigs : Configs :=
  ((∅ : Configs).insert 16 (.appList [(1, ⟨[], 7001⟩)])).insert 32 (.appList [(1, ⟨[], 7101⟩)])
    |>.insert 64 .robot

/-- A second connection registers as the same game process and is closed. -/
theorem registrations_survived_again :
    ∃ p, Run (Lawful (Step someConfigs) Survives) start
      [.accept 5, .appRegister 5 16 1, .handle, .handleListenKey, .accept 6, .appRegister 6 16 1,
        .handle, .close 6, .handle] p ∧
      (sendPacket p (appKeyOf 16 1)).map ConnectObj.number = some 0 := by
  refine ⟨_, registrations_survived someConfigs _ _
    (.next ⟨.accept _ _ rfl rfl, ⟨nofun, nofun⟩⟩ <|
     .next ⟨.appRegister _ _ _ _ _ rfl rfl rfl, trivial⟩ <|
     .next ⟨.handle _ _ _ rfl rfl, ?_⟩ <|
     .next ⟨.handleListenKey _ _ _ rfl rfl, trivial⟩ <|
     .next ⟨.accept _ _ rfl rfl, ⟨nofun, nofun⟩⟩ <|
     .next ⟨.appRegister _ _ _ _ _ rfl rfl rfl, trivial⟩ <|
     .next ⟨.handle _ _ _ rfl rfl, ?_⟩ <|
     .next ⟨.close _ _ _ rfl rfl, trivial⟩ <|
     .next ⟨.handle _ _ _ rfl rfl, ?_⟩ (.refl _)), ?_⟩
  · rintro message rest ⟨⟩
    refine ⟨nofun, fun _ => ⟨by decide, ⟨?_, nofun, ?_⟩, nofun⟩⟩
    · intro socket obj held
      rcases update_cases held with ⟨rfl, ⟨⟩⟩ | ⟨_, impossible⟩
      · exact ⟨nofun, nofun⟩
      · cases impossible
    · intro identify member
      rcases List.mem_singleton.mp member with ⟨⟩
  · rintro message rest ⟨⟩
    refine ⟨nofun, fun absent => ?_⟩
    exact absurd absent (by decide)
  · rintro message rest ⟨⟩
    exact trivial
  · decide

/-- A connection registers as an application without an endpoint, and its
disconnect looks for one. And a connection that is tagged as the space process
registers as the game process: packets for this are no longer written. -/
theorem unknown_type_crashes :
    (∃ events p, Run (Step someConfigs) start events p ∧ p.crashed = true ∧
      ¬ Run (Lawful (Step someConfigs) Survives) start events p) ∧
    ∃ events p obj, Run (Step someConfigs) start events p ∧ p.connects 5 = some obj ∧
      obj.state = .connected ∧ p.registered (appKeyOf 16 1) = some obj.number ∧
      sendPacket p (appKeyOf 16 1) = none := by
  constructor
  · have run : ∃ p, Run (Step someConfigs) start
        ([.accept 5, .appRegister 5 64 1, .handle, .handleListenKey, .close 5] ++ [.handle]) p ∧
        p.crashed = true := by
      refine ⟨_, .next (.accept _ _ rfl rfl) <| .next (.appRegister _ _ _ _ _ rfl rfl rfl) <|
        .next (.handle _ _ _ rfl rfl) <| .next (.handleListenKey _ _ _ rfl rfl) <|
        .next (.close _ _ _ rfl rfl) <| .next (.handle _ _ _ rfl rfl) (.refl _), ?_⟩
      decide
    obtain ⟨p, taken, crashed⟩ := run
    refine ⟨_, p, taken, crashed, ?_⟩
    intro lawful
    obtain ⟨_, survives⟩ := lawful_last lawful
    rw [survives.running] at crashed
    cases crashed
  · refine ⟨[.accept 5, .appRegister 5 16 1, .handle, .handleListenKey, .accept 6,
      .appRegister 6 32 1, .handle, .handleListenKey, .appRegister 6 16 1, .handle], _, _,
      .next (.accept _ _ rfl rfl) <| .next (.appRegister _ _ _ _ _ rfl rfl rfl) <|
      .next (.handle _ _ _ rfl rfl) <| .next (.handleListenKey _ _ _ rfl rfl) <|
      .next (.accept _ _ rfl rfl) <| .next (.appRegister _ _ _ _ _ rfl rfl rfl) <|
      .next (.handle _ _ _ rfl rfl) <| .next (.handleListenKey _ _ _ rfl rfl) <|
      .next (.appRegister _ _ _ _ _ rfl rfl rfl) <| .next (.handle _ _ _ rfl rfl) (.refl _),
      rfl, rfl, ?_, ?_⟩
    · decide
    · decide

end GameBook.RegisteredApps
