import GameBook.GameList
import GameBook.Replica

/-!
How many players a process has, as others know it. Every `WorldProxy` of a game
process and every `World` of a space process tells the gatherer of its process
its number of players from time to time, the gatherer adds up what it was told
and sends the sum to appmgr, or from a space process to the game processes too,
where a `SyncComponent` keeps it.
-/

namespace GameBook.GatheredLoads

open AppKey LabelledRun OrderedMap Replica SyncComponent

structure WorldProxyInfo where
  worldId : Int
  worldSn : UInt64
  online : Int32

/-- `Proto::WorldProxySyncToGather`; `Proto::WorldSyncToGather` never removes. -/
structure SyncToGather where
  worldSn : UInt64
  worldId : Int
  online : Int32
  isRemove : Bool

def handleWorldProxySyncToGather (maps : Table UInt64 WorldProxyInfo) (proto : SyncToGather) :
    Table UInt64 WorldProxyInfo :=
  if !proto.isRemove then
    let made :=
      match maps[proto.worldSn]? with
      | none => WorldProxyInfo.mk proto.worldId proto.worldSn 0
      | some info => info
    maps.insert proto.worldSn { made with online := proto.online }
  else maps.erase proto.worldSn

def handleWorldSyncToGather (maps : Table UInt64 Int32) (proto : SyncToGather) : Table UInt64 Int32 :=
  maps.insert proto.worldSn proto.online

inductive Gather where
  | worldProxies (maps : Table UInt64 WorldProxyInfo)
  | worlds (maps : Table UInt64 Int32)

def handle (gather : Gather) (proto : SyncToGather) : Gather :=
  match gather with
  | .worldProxies maps => .worldProxies (handleWorldProxySyncToGather maps proto)
  | .worlds maps => .worlds (handleWorldSyncToGather maps proto)

def online : Gather → Int32
  | .worldProxies maps => maps.toList.foldl (fun value pair => value + pair.2.online) 0
  | .worlds maps => maps.toList.foldl (fun online pair => online + pair.2) 0

/-- A game or a space process. `packets` are the messages to the gatherer that
were dispatched and not handled, `worlds` the players in each world, `told` what
each world has told last. `ticked` says that the gatherer has sent its sum on
this connection since it last handled a message. -/
structure Reporter where
  appType : UInt64
  worlds : Table UInt64 Nat
  told : Table UInt64 Int32
  packets : List SyncToGather
  gather : Gather
  socket : Option Int
  wire : List AppInfoSync
  ticked : Bool

/-- Worlds of a space process are never removed. -/
def canRemove (reporter : Reporter) : Bool :=
  match reporter.gather with
  | .worldProxies _ => true
  | .worlds _ => false

/-- The reporters by application id, and the process that listens: what has come
in for it and is not handled, a sync or the close of a connection, each with the
descriptor. `heard` is what was handled on a connection, `picks` how often an
application was chosen since its last sync. -/
structure System where
  reporters : Int → Reporter
  inbox : List (Int × Option AppInfoSync)
  apps : Apps
  heard : Int → List AppInfoSync
  picks : Int → Nat

def newGame (appType : UInt64) : Reporter := ⟨appType, ∅, ∅, [], .worldProxies ∅, none, [], false⟩

def newSpace (appType : UInt64) : Reporter := ⟨appType, ∅, ∅, [], .worlds ∅, none, [], false⟩

def Start (s : System) : Prop :=
  (∀ app, ∃ appType, s.reporters app = newGame appType ∨ s.reporters app = newSpace appType) ∧
    s.inbox = [] ∧ s.apps = ∅ ∧ (∀ socket, s.heard socket = []) ∧ ∀ app, s.picks app = 0

def setReporter (s : System) (app : Int) (reporter : Reporter) : System :=
  { s with reporters := Function.update s.reporters app reporter }

def onlineSize (players : Nat) : Int32 := Int32.ofNat players

def syncWorldToGather (reporter : Reporter) (worldSn : UInt64) (worldId : Int) (players : Nat) : Reporter :=
  { reporter with
    told := reporter.told.insert worldSn (onlineSize players)
    packets := reporter.packets ++ [⟨worldSn, worldId, onlineSize players, false⟩] }

def removeWorld (reporter : Reporter) (worldSn : UInt64) : Reporter :=
  { reporter with
    worlds := reporter.worlds.erase worldSn
    told := reporter.told.erase worldSn
    packets := reporter.packets ++ [⟨worldSn, 0, 0, true⟩] }

def handleFirst (reporter : Reporter) (proto : SyncToGather) (rest : List SyncToGather) : Reporter :=
  { reporter with packets := rest, gather := handle reporter.gather proto, ticked := false }

def syncInfo (reporter : Reporter) (app : Int) : Reporter :=
  { reporter with
    wire := reporter.wire ++ [⟨app, reporter.appType, online reporter.gather⟩], ticked := true }

inductive Label where
  | players (app : Int) (worldSn : UInt64) (count : Nat)
  | tell (app : Int) (worldSn : UInt64) (worldId : Int)
  | remove (app : Int) (worldSn : UInt64)
  | gather (app : Int)
  | tick (app : Int)
  | connect (app socket : Int)
  | arrive (app : Int)
  | close (app : Int)
  | handle
  | pick (appType : UInt64)

/-- `.players` makes a world too, and `.arrive` brings the first message of a
connection in; what is on the wire at a close is lost. -/
def step (configured : UInt64 → Int → Option CommonConfig) (before : System) (label : Label) (after : System) : Prop :=
  match label with
  | .players app worldSn count =>
      after = setReporter before app { before.reporters app with
        worlds := (before.reporters app).worlds.insert worldSn count }
  | .tell app worldSn worldId =>
      ∃ count, (before.reporters app).worlds[worldSn]? = some count ∧
        after = setReporter before app (syncWorldToGather (before.reporters app) worldSn worldId count)
  | .remove app worldSn =>
      canRemove (before.reporters app) = true ∧
        after = setReporter before app (removeWorld (before.reporters app) worldSn)
  | .gather app =>
      ∃ proto rest, (before.reporters app).packets = proto :: rest ∧
        after = setReporter before app (handleFirst (before.reporters app) proto rest)
  | .tick app =>
      (before.reporters app).socket ≠ none ∧
        after = setReporter before app (syncInfo (before.reporters app) app)
  | .connect app socket =>
      (before.reporters app).socket = none ∧ (∀ other, (before.reporters other).socket ≠ some socket) ∧
        after = setReporter before app { before.reporters app with socket := some socket }
  | .arrive app =>
      ∃ socket proto rest, (before.reporters app).socket = some socket ∧
        (before.reporters app).wire = proto :: rest ∧
        after = { setReporter before app { before.reporters app with wire := rest } with
          inbox := before.inbox ++ [(socket, some proto)] }
  | .close app =>
      ∃ socket, (before.reporters app).socket = some socket ∧
        after = { setReporter before app { before.reporters app with
            socket := none, wire := [], ticked := false } with
          inbox := before.inbox ++ [(socket, none)] }
  | .handle =>
      ∃ socket message rest, before.inbox = (socket, message) :: rest ∧
        match message with
        | some proto => after = { before with
            inbox := rest
            apps := parse configured before.apps proto socket
            heard := Function.update before.heard socket (before.heard socket ++ [proto])
            picks := Function.update before.picks proto.appId 0 }
        | none => after = { before with
            inbox := rest
            apps := dropSocket before.apps socket
            heard := Function.update before.heard socket [] }
  | .pick appType =>
      ∃ info apps, getOneApp appType before.apps = some (info, apps) ∧
        after = { before with
          apps := apps, picks := Function.update before.picks info.appId (before.picks info.appId + 1) }

/-- Everything has come through, and every world has told its present number. -/
structure Settled (s : System) (app : Int) : Prop where
  told : (s.reporters app).told = (s.reporters app).worlds.map fun _ players => onlineSize players
  packets : (s.reporters app).packets = []
  ticked : (s.reporters app).ticked = true
  wire : (s.reporters app).wire = []
  inbox : ∀ message ∈ s.inbox, (s.reporters app).socket ≠ some message.1

/-! ### The gatherer -/

def updateOf (proto : SyncToGather) : Update UInt64 Int32 :=
  if proto.isRemove then .erase proto.worldSn else .set proto.worldSn proto.online

def loads : Gather → Table UInt64 Int32
  | .worldProxies maps => maps.map fun _ info => info.online
  | .worlds maps => maps.map fun _ online => online

theorem online_loads (gather : Gather) : online gather = total (loads gather) := by
  cases gather with
  | worldProxies maps => exact foldl_total WorldProxyInfo.online maps
  | worlds maps => exact foldl_total (fun online => online) maps

/-- A world of a space process takes nothing back. -/
def Fitting (gather : Gather) (proto : SyncToGather) : Prop :=
  match gather with
  | .worldProxies _ => True
  | .worlds _ => proto.isRemove = false

theorem handle_loads (gather : Gather) (proto : SyncToGather) (fitting : Fitting gather proto) :
    loads (handle gather proto) = apply (loads gather) (updateOf proto) := by
  cases gather with
  | worldProxies maps =>
      cases removes : proto.isRemove with
      | true =>
          simp only [handle, handleWorldProxySyncToGather, updateOf, removes, loads, apply]
          exact map_erase WorldProxyInfo.online maps proto.worldSn
      | false =>
          simp only [handle, handleWorldProxySyncToGather, updateOf, removes, loads, apply]
          exact map_insert WorldProxyInfo.online maps proto.worldSn _
  | worlds maps =>
      have keeps : proto.isRemove = false := fitting
      simp only [handle, handleWorldSyncToGather, updateOf, keeps, loads, apply]
      exact map_insert (fun online => online) maps proto.worldSn proto.online

structure Gathers (reporter : Reporter) : Prop where
  fitting : ∀ proto ∈ reporter.packets, Fitting reporter.gather proto
  follows : Follows reporter.told (reporter.packets.map updateOf) (loads reporter.gather)

theorem fitting_handled {gather : Gather} {proto other : SyncToGather} (fitting : Fitting gather other) :
    Fitting (handle gather proto) other := by
  cases gather with
  | worldProxies maps => trivial
  | worlds maps => exact fitting

theorem gathers_told (reporter : Reporter) (worldSn : UInt64) (worldId : Int) (count : Nat)
    (gathers : Gathers reporter) : Gathers (syncWorldToGather reporter worldSn worldId count) := by
  constructor
  · intro proto member
    rcases List.mem_append.mp member with older | newest
    · exact gathers.fitting proto older
    · rw [List.mem_singleton.mp newest]
      show Fitting reporter.gather ⟨worldSn, worldId, onlineSize count, false⟩
      cases reporter.gather with
      | worldProxies maps => trivial
      | worlds maps => rfl
  · have written := follows_written (.set worldSn (onlineSize count)) gathers.follows
    simpa [syncWorldToGather, updateOf, apply] using written

theorem gathers_removed (reporter : Reporter) (worldSn : UInt64) (may : canRemove reporter = true)
    (gathers : Gathers reporter) : Gathers (removeWorld reporter worldSn) := by
  constructor
  · intro proto member
    rcases List.mem_append.mp member with older | newest
    · exact gathers.fitting proto older
    · show Fitting reporter.gather proto
      unfold canRemove at may
      cases kind : reporter.gather with
      | worldProxies maps => trivial
      | worlds maps => simp [kind] at may
  · have written := follows_written (.erase worldSn) gathers.follows
    simpa [removeWorld, updateOf, apply] using written

theorem gathers_handled (reporter : Reporter) (proto : SyncToGather) (rest : List SyncToGather)
    (waiting : reporter.packets = proto :: rest) (gathers : Gathers reporter) :
    Gathers (handleFirst reporter proto rest) := by
  obtain ⟨fitting, follows⟩ := gathers
  rw [waiting] at fitting follows
  constructor
  · intro other member
    exact fitting_handled (fitting other (List.mem_cons_of_mem _ member))
  · rw [List.map_cons] at follows
    have read := follows_read follows
    rw [← handle_loads reporter.gather proto (fitting proto List.mem_cons_self)] at read
    exact read

/-! ### A connection -/

def hear (heard : Int → List AppInfoSync) (message : Int × Option AppInfoSync) : Int → List AppInfoSync :=
  Function.update heard message.1
    (match message.2 with
    | some proto => heard message.1 ++ [proto]
    | none => [])

def hearAll (heard : Int → List AppInfoSync) (inbox : List (Int × Option AppInfoSync)) :
    Int → List AppInfoSync :=
  inbox.foldl hear heard

/-- A message comes on the one connection of its application. -/
def Belongs (heard : Int → List AppInfoSync) (socket : Int) (proto : AppInfoSync) : Prop :=
  (∀ old ∈ heard socket, old.appId = proto.appId) ∧
    ∀ other, other ≠ socket → ∀ old ∈ heard other, old.appId ≠ proto.appId

/-- Every message that waits will belong when its turn comes. -/
def Orderly (heard : Int → List AppInfoSync) : List (Int × Option AppInfoSync) → Prop
  | [] => True
  | message :: rest =>
      (∀ proto, message.2 = some proto → Belongs heard message.1 proto) ∧ Orderly (hear heard message) rest

theorem orderly_append (heard : Int → List AppInfoSync) (inbox : List (Int × Option AppInfoSync))
    (message : Int × Option AppInfoSync) (orderly : Orderly heard inbox)
    (belongs : ∀ proto, message.2 = some proto → Belongs (hearAll heard inbox) message.1 proto) :
    Orderly heard (inbox ++ [message]) := by
  induction inbox generalizing heard with
  | nil => exact ⟨belongs, trivial⟩
  | cons first rest ih => exact ⟨orderly.1, ih (hear heard first) orderly.2 belongs⟩

theorem hear_all_append (heard : Int → List AppInfoSync) (inbox : List (Int × Option AppInfoSync))
    (message : Int × Option AppInfoSync) :
    hearAll heard (inbox ++ [message]) = hear (hearAll heard inbox) message := by
  rw [hearAll, List.foldl_append]
  rfl

theorem hear_all_other (heard : Int → List AppInfoSync) (inbox : List (Int × Option AppInfoSync))
    (socket : Int) (apart : ∀ message ∈ inbox, message.1 ≠ socket) :
    hearAll heard inbox socket = heard socket := by
  induction inbox generalizing heard with
  | nil => rfl
  | cons first rest ih =>
      have here := apart first List.mem_cons_self
      have there := ih (hear heard first) fun message member => apart message (List.mem_cons_of_mem _ member)
      rw [hearAll, List.foldl_cons, ← hearAll, there, hear, Function.update_of_ne (Ne.symm here)]

theorem hear_own (heard : Int → List AppInfoSync) (socket : Int) (proto : AppInfoSync) :
    hear heard (socket, some proto) socket = heard socket ++ [proto] := Function.update_self ..

theorem hear_close (heard : Int → List AppInfoSync) (socket : Int) :
    hear heard (socket, none) socket = [] := Function.update_self ..

theorem hear_other (heard : Int → List AppInfoSync) (message : Int × Option AppInfoSync) (socket : Int)
    (apart : socket ≠ message.1) : hear heard message socket = heard socket :=
  Function.update_of_ne apart ..

/-! ### The list of applications -/

def Distinct (heard : Int → List AppInfoSync) : Prop :=
  ∀ first second, ∀ a ∈ heard first, ∀ b ∈ heard second, a.appId = b.appId ↔ first = second

/-- `known` and `listed` are the two directions between the entries and the
connections on which something was heard. -/
structure Listens (configured : UInt64 → Int → Option CommonConfig) (apps : Apps) (heard : Int → List AppInfoSync)
    (picks : Int → Nat) : Prop where
  distinct : Distinct heard
  known : ∀ (appId : Int) (info : AppInfo), apps[appId]? = some info → info.appId = appId ∧
    ∃ last, (heard info.socket).getLast? = some last ∧ last.appId = appId ∧
      info.online = last.online + Int32.ofNat (picks appId)
  listed : ∀ socket last, (heard socket).getLast? = some last →
    (configured last.appType last.appId).isSome →
      ∃ info, apps[last.appId]? = some info ∧ info.socket = socket

section Listener

variable {configured : UInt64 → Int → Option CommonConfig} {apps : Apps} {heard : Int → List AppInfoSync}
  {picks : Int → Nat}

theorem distinct_heard {socket : Int} {proto : AppInfoSync} (distinct : Distinct heard)
    (belongs : Belongs heard socket proto) : Distinct (hear heard (socket, some proto)) := by
  -- an old message of any connection has the application of the new one exactly if it came on its connection
  have own : ∀ other, ∀ old ∈ heard other, old.appId = proto.appId ↔ other = socket := by
    intro other old member
    by_cases same : other = socket
    · subst same
      exact ⟨fun _ => rfl, fun _ => belongs.1 old member⟩
    · exact ⟨fun equal => absurd equal (belongs.2 other same old member), fun equal => absurd equal same⟩
  have cases : ∀ other, ∀ old ∈ hear heard (socket, some proto) other,
      old ∈ heard other ∨ (other = socket ∧ old = proto) := by
    intro other old member
    by_cases same : other = socket
    · subst same
      rw [hear_own] at member
      simpa using member
    · rw [hear_other heard _ other same] at member
      exact .inl member
  intro first second a inFirst b inSecond
  rcases cases first a inFirst with oldA | ⟨rfl, rfl⟩
  · rcases cases second b inSecond with oldB | ⟨rfl, rfl⟩
    · exact distinct first second a oldA b oldB
    · exact own first a oldA
  · rcases cases second b inSecond with oldB | ⟨rfl, rfl⟩
    · exact eq_comm.trans ((own second b oldB).trans eq_comm)
    · simp

theorem distinct_closed {socket : Int} (distinct : Distinct heard) : Distinct (hear heard (socket, none)) := by
  have cases : ∀ other, ∀ old ∈ hear heard (socket, none) other, old ∈ heard other := by
    intro other old member
    by_cases same : other = socket
    · subst same
      rw [hear_close] at member
      cases member
    · rw [hear_other heard _ other same] at member
      exact member
  intro first second a inFirst b inSecond
  exact distinct first second a (cases first a inFirst) b (cases second b inSecond)

theorem last_mem {messages : List AppInfoSync} {last : AppInfoSync} (latest : messages.getLast? = some last) :
    last ∈ messages := List.mem_of_getLast? latest

theorem listens_heard {socket : Int} {proto : AppInfoSync} (listens : Listens configured apps heard picks)
    (belongs : Belongs heard socket proto) :
    Listens configured (parse configured apps proto socket) (hear heard (socket, some proto))
      (Function.update picks proto.appId 0) := by
  have latest : (hear heard (socket, some proto) socket).getLast? = some proto := by
    rw [hear_own, List.getLast?_concat]
  constructor
  · exact distinct_heard listens.distinct belongs
  · intro appId info held
    -- the entry is made or changed by this message, or was there and is on another connection
    by_cases same : appId = proto.appId
    · subst same
      unfold parse at held
      split at held
      · rename_i absent
        split at held
        · rw [absent] at held
          cases held
        · rw [get_insert, if_pos rfl] at held
          cases held
          exact ⟨rfl, proto, latest, rfl, by simp⟩
      · rename_i old there
        rw [get_insert, if_pos rfl] at held
        cases held
        exact ⟨(listens.known _ old there).1, proto, latest, rfl, by simp⟩
    · rw [GameList.parse_other configured apps proto socket appId same] at held
      obtain ⟨own, last, said, names, online⟩ := listens.known appId info held
      have elsewhere : info.socket ≠ socket := by
        intro here
        rw [here] at said
        exact same (names.symm.trans (belongs.1 last (last_mem said)))
      rw [hear_other heard _ info.socket elsewhere, Function.update_of_ne same]
      exact ⟨own, last, said, names, online⟩
  · intro other last said known
    by_cases same : other = socket
    · subst same
      rw [latest] at said
      cases said
      obtain ⟨config, found⟩ := Option.isSome_iff_exists.mp known
      unfold parse
      split
      · simp only [found]
        exact ⟨_, by rw [get_insert, if_pos rfl], rfl⟩
      · exact ⟨_, by rw [get_insert, if_pos rfl], rfl⟩
    · rw [hear_other heard _ other same] at said
      obtain ⟨info, held, there⟩ := listens.listed other last said known
      refine ⟨info, ?_, there⟩
      rw [GameList.parse_other configured apps proto socket last.appId (belongs.2 other same last (last_mem said))]
      exact held

theorem listens_closed {socket : Int} (listens : Listens configured apps heard picks) :
    Listens configured (dropSocket apps socket) (hear heard (socket, none)) picks := by
  -- what remains was on another connection, since a connection has one application
  have remains : ∀ (appId : Int) (info : AppInfo),
      (dropSocket apps socket)[appId]? = some info ↔ apps[appId]? = some info ∧ info.socket ≠ socket := by
    intro appId info
    unfold dropSocket
    cases found : findIf (fun info => info.socket == socket) apps with
    | none =>
        have absent := find_if_none.mp found
        constructor
        · intro held
          have apart := absent appId info held
          exact ⟨held, by simpa using apart⟩
        · exact fun held => held.1
    | some entry =>
        obtain ⟨key, dropped⟩ := entry
        obtain ⟨there, on⟩ := find_if_some found
        obtain ⟨_, first, saidFirst, namesFirst, _⟩ := listens.known key dropped there
        have onSocket : dropped.socket = socket := by simpa using on
        simp only [get_erase]
        by_cases same : appId = key
        · subst same
          rw [if_pos rfl]
          constructor
          · intro held
            cases held
          · rintro ⟨held, apart⟩
            rw [there] at held
            cases held
            exact absurd onSocket apart
        · rw [if_neg same]
          constructor
          · intro held
            refine ⟨held, fun also => same ?_⟩
            obtain ⟨_, second, saidSecond, namesSecond, _⟩ := listens.known appId info held
            have one := (listens.distinct _ _ second (last_mem saidSecond) first (last_mem saidFirst)).mpr
              (also.trans onSocket.symm)
            rw [← namesSecond, ← namesFirst, one]
          · exact fun held => held.1
  constructor
  · exact distinct_closed listens.distinct
  · intro appId info held
    obtain ⟨there, apart⟩ := (remains appId info).mp held
    rw [hear_other heard _ info.socket apart]
    exact listens.known appId info there
  · intro other last said known
    by_cases same : other = socket
    · subst same
      rw [hear_close] at said
      cases said
    · rw [hear_other heard _ other same] at said
      obtain ⟨info, held, there⟩ := listens.listed other last said known
      exact ⟨info, (remains last.appId info).mpr ⟨held, there ▸ same⟩, there⟩

theorem listens_picked {appType : UInt64} {info : AppInfo} {after : Apps}
    (listens : Listens configured apps heard picks) (one : getOneApp appType apps = some (info, after)) :
    Listens configured after heard (Function.update picks info.appId (picks info.appId + 1)) := by
  -- the count goes up by one as picks does, and an int wraps both alike
  obtain ⟨key, held, -, there, -, rfl, rfl⟩ := get_one_app_some one
  obtain ⟨own, last, said, names, online⟩ := listens.known key held there
  rw [counted_app_id]
  subst own
  constructor
  · exact listens.distinct
  · intro appId other found
    rw [get_insert] at found
    split at found
    · rename_i same
      subst same
      cases found
      refine ⟨rfl, last, said, names, ?_⟩
      rw [Function.update_self, counted_online, online, Int32.ofNat_add, Int32.add_assoc]
      rfl
    · rename_i apart
      rw [Function.update_of_ne apart]
      exact listens.known appId other found
  · intro socket message latest known
    obtain ⟨other, found, on⟩ := listens.listed socket message latest known
    rw [get_insert]
    split
    · rename_i same
      rw [same, there] at found
      cases found
      exact ⟨_, rfl, on⟩
    · exact ⟨other, found, on⟩

end Listener

/-! ### A run -/

/-- What was sent on a connection and is not lost: handled, waiting or on the wire. -/
def said (s : System) (app socket : Int) : List AppInfoSync :=
  hearAll s.heard s.inbox socket ++ (s.reporters app).wire

structure Connected (s : System) (app socket : Int) : Prop where
  own : ∀ message ∈ said s app socket,
    message.appId = app ∧ message.appType = (s.reporters app).appType
  ticked : (s.reporters app).ticked = true →
    ∃ last, (said s app socket).getLast? = some last ∧ last.online = online (s.reporters app).gather

structure Inv (configured : UInt64 → Int → Option CommonConfig) (s : System) : Prop where
  gathers : ∀ app, Gathers (s.reporters app)
  idle : ∀ app, (s.reporters app).socket = none →
    (s.reporters app).wire = [] ∧ (s.reporters app).ticked = false
  connected : ∀ app socket, (s.reporters app).socket = some socket → Connected s app socket
  apart : ∀ first second socket, (s.reporters first).socket = some socket →
    (s.reporters second).socket = some socket → first = second
  unused : ∀ socket, (∀ app, (s.reporters app).socket ≠ some socket) →
    hearAll s.heard s.inbox socket = []
  orderly : Orderly s.heard s.inbox
  listens : Listens configured s.apps s.heard s.picks

variable {configured : UInt64 → Int → Option CommonConfig}

@[simp] theorem set_reporter_own (s : System) (app : Int) (reporter : Reporter) :
    (setReporter s app reporter).reporters app = reporter := Function.update_self ..

theorem set_reporter_other (s : System) (app : Int) (reporter : Reporter) (other : Int)
    (apart : other ≠ app) : (setReporter s app reporter).reporters other = s.reporters other :=
  Function.update_of_ne apart ..

theorem gathers_new (appType : UInt64) : Gathers (newGame appType) ∧ Gathers (newSpace appType) := by
  constructor
  · exact ⟨fun _ member => absurd member List.not_mem_nil, rfl⟩
  · exact ⟨fun _ member => absurd member List.not_mem_nil, rfl⟩

theorem inv_start (s : System) (start : Start s) : Inv configured s := by
  obtain ⟨fresh, inbox, apps, heard, picks⟩ := start
  have newborn : ∀ app, Gathers (s.reporters app) ∧ (s.reporters app).socket = none ∧
      (s.reporters app).wire = [] ∧ (s.reporters app).ticked = false := by
    intro app
    obtain ⟨appType, game | space⟩ := fresh app
    · rw [game]
      exact ⟨(gathers_new appType).1, rfl, rfl, rfl⟩
    · rw [space]
      exact ⟨(gathers_new appType).2, rfl, rfl, rfl⟩
  constructor
  · exact fun app => (newborn app).1
  · exact fun app _ => (newborn app).2.2
  · intro app socket connected
    rw [(newborn app).2.1] at connected
    cases connected
  · intro first second socket connected
    rw [(newborn first).2.1] at connected
    cases connected
  · intro socket _
    rw [inbox]
    exact heard socket
  · rw [inbox]
    trivial
  · constructor
    · intro first second a member
      rw [heard first] at member
      cases member
    · intro appId info held
      rw [apps] at held
      simp at held
    · intro socket last latest
      rw [heard socket] at latest
      cases latest

theorem inv_reporter {before after : System} (inv : Inv configured before) (app : Int)
    (others : ∀ other, other ≠ app → after.reporters other = before.reporters other)
    (elsewhere : ∀ socket, (before.reporters app).socket ≠ some socket →
      hearAll after.heard after.inbox socket = hearAll before.heard before.inbox socket)
    (gathers : Gathers (after.reporters app))
    (idle : (after.reporters app).socket = none →
      (after.reporters app).wire = [] ∧ (after.reporters app).ticked = false)
    (connected : ∀ socket, (after.reporters app).socket = some socket → Connected after app socket)
    (apart : ∀ other socket, other ≠ app → (after.reporters app).socket = some socket →
      (before.reporters other).socket ≠ some socket)
    (left : ∀ socket, (before.reporters app).socket = some socket →
      (after.reporters app).socket ≠ some socket → hearAll after.heard after.inbox socket = [])
    (orderly : Orderly after.heard after.inbox)
    (listens : Listens configured after.apps after.heard after.picks) : Inv configured after := by
  constructor
  · intro other
    by_cases same : other = app
    · exact same ▸ gathers
    · rw [others other same]
      exact inv.gathers other
  · intro other alone
    by_cases same : other = app
    · subst same
      exact idle alone
    · rw [others other same] at alone ⊢
      exact inv.idle other alone
  · intro other socket on
    by_cases same : other = app
    · subst same
      exact connected socket on
    · rw [others other same] at on
      have ownApart : (before.reporters app).socket ≠ some socket := fun both =>
        same (inv.apart other app socket on both)
      have sameSaid : said after other socket = said before other socket := by
        rw [said, said, others other same, elsewhere socket ownApart]
      obtain ⟨own, ticked⟩ := inv.connected other socket on
      constructor
      · rw [sameSaid, others other same]
        exact own
      · rw [sameSaid, others other same]
        exact ticked
  · intro first second socket onFirst onSecond
    by_cases one : first = app
    · by_cases two : second = app
      · rw [one, two]
      · rw [others second two] at onSecond
        exact absurd onSecond (apart second socket two (one ▸ onFirst))
    · rw [others first one] at onFirst
      by_cases two : second = app
      · exact absurd onFirst (apart first socket one (two ▸ onSecond))
      · rw [others second two] at onSecond
        exact inv.apart first second socket onFirst onSecond
  · intro socket free
    -- the connection that app has left is the one that may have become free
    by_cases was : (before.reporters app).socket = some socket
    · exact left socket was (free app)
    · rw [elsewhere socket was]
      apply inv.unused socket
      intro other
      by_cases same : other = app
      · exact same ▸ was
      · rw [← others other same]
        exact free other
  · exact orderly
  · exact listens

theorem inv_worked {s : System} (inv : Inv configured s) (app : Int) (reporter : Reporter)
    (gathers : Gathers reporter) (sameSocket : reporter.socket = (s.reporters app).socket)
    (sameWire : reporter.wire = (s.reporters app).wire)
    (sameType : reporter.appType = (s.reporters app).appType)
    (counts : reporter.ticked = true →
      (s.reporters app).ticked = true ∧ reporter.gather = (s.reporters app).gather) :
    Inv configured (setReporter s app reporter) := by
  -- nothing is sent: what is said on the connection stays as it is
  apply inv_reporter inv app
  · exact set_reporter_other s app reporter
  · exact fun _ _ => rfl
  · rw [set_reporter_own]
    exact gathers
  · rw [set_reporter_own, sameSocket, sameWire]
    intro alone
    obtain ⟨noWire, noTick⟩ := inv.idle app alone
    refine ⟨noWire, Bool.eq_false_iff.mpr fun ticked => ?_⟩
    rw [(counts ticked).1] at noTick
    cases noTick
  · rw [set_reporter_own, sameSocket]
    intro socket on
    obtain ⟨own, ticked⟩ := inv.connected app socket on
    have sameSaid : said (setReporter s app reporter) app socket = said s app socket := by
      rw [said, set_reporter_own, sameWire]
      rfl
    constructor
    · rw [sameSaid, set_reporter_own, sameType]
      exact own
    · rw [sameSaid, set_reporter_own]
      intro counted
      obtain ⟨already, gather⟩ := counts counted
      rw [gather]
      exact ticked already
  · rw [set_reporter_own, sameSocket]
    exact fun other socket apart on also => apart (inv.apart other app socket also on)
  · rw [set_reporter_own, sameSocket]
    exact fun socket on off => absurd on off
  · exact inv.orderly
  · exact inv.listens

theorem inv_tick {s : System} (inv : Inv configured s) (app : Int) (on : (s.reporters app).socket ≠ none) :
    Inv configured (setReporter s app (syncInfo (s.reporters app) app)) := by
  apply inv_reporter inv app
  · exact set_reporter_other s app _
  · exact fun _ _ => rfl
  · rw [set_reporter_own]
    exact ⟨(inv.gathers app).fitting, (inv.gathers app).follows⟩
  · rw [set_reporter_own]
    exact fun alone => absurd alone on
  · rw [set_reporter_own]
    intro socket onSocket
    -- the sync goes to the end of what is said, and holds the count of this moment
    have more : said (setReporter s app (syncInfo (s.reporters app) app)) app socket =
        said s app socket ++ [⟨app, (s.reporters app).appType, online (s.reporters app).gather⟩] := by
      rw [said, set_reporter_own, said, List.append_assoc]
      rfl
    constructor
    · rw [more, set_reporter_own]
      intro message member
      rcases List.mem_append.mp member with older | newest
      · exact (inv.connected app socket onSocket).own message older
      · rw [List.mem_singleton.mp newest]
        exact ⟨rfl, rfl⟩
    · rw [more, set_reporter_own]
      exact fun _ => ⟨_, List.getLast?_concat, rfl⟩
  · rw [set_reporter_own]
    exact fun other socket apart onSocket also => apart (inv.apart other app socket also onSocket)
  · rw [set_reporter_own]
    exact fun socket onSocket off => absurd onSocket off
  · exact inv.orderly
  · exact inv.listens

theorem inv_connect {s : System} (inv : Inv configured s) (app socket : Int)
    (alone : (s.reporters app).socket = none) (free : ∀ other, (s.reporters other).socket ≠ some socket) :
    Inv configured (setReporter s app { s.reporters app with socket := some socket }) := by
  obtain ⟨noWire, noTick⟩ := inv.idle app alone
  apply inv_reporter inv app
  · exact set_reporter_other s app _
  · exact fun _ _ => rfl
  · rw [set_reporter_own]
    exact ⟨(inv.gathers app).fitting, (inv.gathers app).follows⟩
  · rw [set_reporter_own]
    intro off
    cases off
  · rw [set_reporter_own]
    intro onSocket on
    cases on
    -- the descriptor is new, so nothing of an earlier connection is heard on it
    have silent : said (setReporter s app { s.reporters app with socket := some socket }) app socket = [] := by
      rw [said, set_reporter_own, noWire, List.append_nil]
      exact inv.unused socket free
    constructor
    · rw [silent]
      intro message member
      cases member
    · rw [set_reporter_own, noTick]
      intro ticked
      cases ticked
  · rw [set_reporter_own]
    intro other onSocket _ on
    cases on
    exact free other
  · intro onSocket on
    rw [alone] at on
    cases on
  · exact inv.orderly
  · exact inv.listens

theorem belongs_on {s : System} (inv : Inv configured s) (app socket : Int) (proto : AppInfoSync)
    (on : (s.reporters app).socket = some socket) (member : proto ∈ said s app socket) :
    Belongs (hearAll s.heard s.inbox) socket proto := by
  have own := ((inv.connected app socket on).own proto member).1
  constructor
  · intro old heard
    rw [own, ((inv.connected app socket on).own old (List.mem_append_left _ heard)).1]
  · intro other apart old heard
    -- a connection in use has its own application; one that is free has said nothing
    by_cases held : ∃ holder, (s.reporters holder).socket = some other
    · obtain ⟨holder, onOther⟩ := held
      rw [own, ((inv.connected holder other onOther).own old (List.mem_append_left _ heard)).1]
      rintro rfl
      rw [on] at onOther
      cases onOther
      exact apart rfl
    · push Not at held
      rw [inv.unused other held] at heard
      cases heard

theorem inv_arrive {s : System} (inv : Inv configured s) (app socket : Int) (proto : AppInfoSync)
    (rest : List AppInfoSync) (on : (s.reporters app).socket = some socket)
    (wire : (s.reporters app).wire = proto :: rest) :
    Inv configured { setReporter s app { s.reporters app with wire := rest } with
      inbox := s.inbox ++ [(socket, some proto)] } := by
  have heard : ∀ other, hearAll s.heard (s.inbox ++ [(socket, some proto)]) other =
      hear (hearAll s.heard s.inbox) (socket, some proto) other := by
    intro other
    rw [hear_all_append]
  -- from the wire to the inbox: said is the same
  have sameSaid : said { setReporter s app { s.reporters app with wire := rest } with
      inbox := s.inbox ++ [(socket, some proto)] } app socket = said s app socket := by
    show hearAll s.heard (s.inbox ++ [(socket, some proto)]) socket ++
      ((setReporter s app { s.reporters app with wire := rest }).reporters app).wire = _
    rw [heard, hear_own, set_reporter_own, said, wire, List.append_assoc]
    rfl
  have own : ∀ other, ((setReporter s app { s.reporters app with wire := rest }).reporters other).socket =
      (s.reporters other).socket := by
    intro other
    by_cases same : other = app
    · rw [same, set_reporter_own]
    · rw [set_reporter_other s app _ other same]
  apply inv_reporter inv app
  · exact set_reporter_other s app _
  · intro other off
    have apart : other ≠ socket := by
      rintro rfl
      exact off on
    exact (heard other).trans (hear_other _ _ other apart)
  · rw [set_reporter_own]
    exact ⟨(inv.gathers app).fitting, (inv.gathers app).follows⟩
  · rw [set_reporter_own]
    intro alone
    rw [on] at alone
    cases alone
  · intro other onOther
    have here : other = socket := by
      rw [own, on] at onOther
      exact (Option.some.inj onOther).symm
    subst here
    obtain ⟨names, ticked⟩ := inv.connected app other on
    constructor
    · rw [sameSaid, set_reporter_own]
      exact names
    · rw [sameSaid, set_reporter_own]
      exact ticked
  · intro other onOther apart held also
    rw [own] at held
    exact apart (inv.apart other app onOther also held)
  · intro other was off
    rw [own] at off
    exact absurd was off
  · apply orderly_append s.heard s.inbox (socket, some proto) inv.orderly
    intro same equal
    cases equal
    apply belongs_on inv app socket proto on
    rw [said, wire]
    exact List.mem_append_right _ List.mem_cons_self
  · exact inv.listens

theorem inv_close {s : System} (inv : Inv configured s) (app socket : Int)
    (on : (s.reporters app).socket = some socket) :
    Inv configured { setReporter s app { s.reporters app with
      socket := none, wire := [], ticked := false } with inbox := s.inbox ++ [(socket, none)] } := by
  have heard : ∀ other, hearAll s.heard (s.inbox ++ [(socket, none)]) other =
      hear (hearAll s.heard s.inbox) (socket, none) other := by
    intro other
    rw [hear_all_append]
  -- what is on the wire is lost; the notice of the close comes behind all that arrived
  apply inv_reporter inv app
  · exact set_reporter_other s app _
  · intro other off
    have apart : other ≠ socket := by
      rintro rfl
      exact off on
    exact (heard other).trans (hear_other _ _ other apart)
  · rw [set_reporter_own]
    exact ⟨(inv.gathers app).fitting, (inv.gathers app).follows⟩
  · rw [set_reporter_own]
    exact fun _ => ⟨rfl, rfl⟩
  · rw [set_reporter_own]
    intro other off
    cases off
  · rw [set_reporter_own]
    intro other onOther _ off
    cases off
  · intro other was _
    have here : other = socket := Option.some.inj (was.symm.trans on)
    subst here
    exact (heard other).trans (hear_close _ other)
  · apply orderly_append s.heard s.inbox (socket, none) inv.orderly
    intro proto none
    cases none
  · exact inv.listens

theorem inv_handle {s after : System} (inv : Inv configured s) (socket : Int) (message : Option AppInfoSync)
    (rest : List (Int × Option AppInfoSync)) (inbox : s.inbox = (socket, message) :: rest)
    (reporters : after.reporters = s.reporters) (left : after.inbox = rest)
    (heard : after.heard = hear s.heard (socket, message))
    (listens : Listens configured after.apps after.heard after.picks) : Inv configured after := by
  -- handled in the order of the inbox, so that all that is heard in the end is the same
  have same : hearAll after.heard after.inbox = hearAll s.heard s.inbox := by
    rw [left, heard, inbox]
    rfl
  have sameSaid : said after = said s := by
    funext app other
    rw [said, same, reporters]
    rfl
  constructor
  · rw [reporters]
    exact inv.gathers
  · rw [reporters]
    exact inv.idle
  · intro app other on
    rw [reporters] at on
    obtain ⟨own, ticked⟩ := inv.connected app other on
    constructor
    · rw [sameSaid, reporters]
      exact own
    · rw [sameSaid, reporters]
      exact ticked
  · rw [reporters]
    exact inv.apart
  · rw [reporters, same]
    exact inv.unused
  · have orderly := inv.orderly
    rw [inbox] at orderly
    rw [left, heard]
    exact orderly.2
  · exact listens

theorem inv_step (before : System) (label : Label) (after : System) (inv : Inv configured before)
    (taken : step configured before label after) : Inv configured after := by
  cases label with
  | players app worldSn count =>
      obtain rfl : after = _ := taken
      have gathers : Gathers { before.reporters app with
          worlds := (before.reporters app).worlds.insert worldSn count } :=
        ⟨(inv.gathers app).fitting, (inv.gathers app).follows⟩
      exact inv_worked inv app _ gathers rfl rfl rfl (fun ticked => ⟨ticked, rfl⟩)
  | tell app worldSn worldId =>
      obtain ⟨count, _, rfl⟩ := taken
      exact inv_worked inv app _ (gathers_told _ worldSn worldId count (inv.gathers app)) rfl rfl rfl
        (fun ticked => ⟨ticked, rfl⟩)
  | remove app worldSn =>
      obtain ⟨may, rfl⟩ := taken
      exact inv_worked inv app _ (gathers_removed _ worldSn may (inv.gathers app)) rfl rfl rfl
        (fun ticked => ⟨ticked, rfl⟩)
  | gather app =>
      obtain ⟨proto, rest, waiting, rfl⟩ := taken
      apply inv_worked inv app _ (gathers_handled _ proto rest waiting (inv.gathers app)) rfl rfl rfl
      intro ticked
      cases ticked
  | tick app =>
      obtain ⟨on, rfl⟩ := taken
      exact inv_tick inv app on
  | connect app socket =>
      obtain ⟨alone, free, rfl⟩ := taken
      exact inv_connect inv app socket alone free
  | arrive app =>
      obtain ⟨socket, proto, rest, on, wire, rfl⟩ := taken
      exact inv_arrive inv app socket proto rest on wire
  | close app =>
      obtain ⟨socket, on, rfl⟩ := taken
      exact inv_close inv app socket on
  | handle =>
      obtain ⟨socket, message, rest, inbox, effect⟩ := taken
      have orderly := inv.orderly
      rw [inbox] at orderly
      cases message with
      | some proto =>
          obtain rfl : after = _ := effect
          exact inv_handle inv socket (some proto) rest inbox rfl rfl rfl
            (listens_heard inv.listens (orderly.1 proto rfl))
      | none =>
          obtain rfl : after = _ := effect
          exact inv_handle inv socket none rest inbox rfl rfl rfl (listens_closed inv.listens)
  | pick appType =>
      obtain ⟨info, apps, one, rfl⟩ := taken
      exact ⟨inv.gathers, inv.idle,
        fun app socket on => ⟨(inv.connected app socket on).own, (inv.connected app socket on).ticked⟩,
        inv.apart, inv.unused, inv.orderly, listens_picked inv.listens one⟩

/-- In every run an entry holds what its process said last on its connection and
the choices since, both as an int counts; once everything of a process has come
through, that is the number of players in its worlds and those placed since, as
far as an int can hold it. -/
theorem loads_are_known (configured : UInt64 → Int → Option CommonConfig) (begins s : System) (trace : List Label)
    (start : Start begins) (run : Run (step configured) begins trace s) :
    (∀ (app : Int) (info : AppInfo), s.apps[app]? = some info →
      ∃ last, (s.heard info.socket).getLast? = some last ∧ last.appId = app ∧
        info.online = last.online + Int32.ofNat (s.picks app)) ∧
    ∀ app, Settled s app → (configured (s.reporters app).appType app).isSome →
      ∃ info, s.apps[app]? = some info ∧ (s.reporters app).socket = some info.socket ∧
        info.online = Int32.ofNat (total (s.reporters app).worlds + s.picks app) ∧
        (total (s.reporters app).worlds + s.picks app < 2147483648 →
          info.online.toInt = total (s.reporters app).worlds + s.picks app) := by
  have inv : Inv configured s := run_invariant (Inv configured) inv_step run (inv_start begins start)
  constructor
  · exact fun app info held => (inv.listens.known app info held).2
  · intro app settled known
    cases socket : (s.reporters app).socket with
    | none =>
        have noTick := (inv.idle app socket).2
        rw [settled.ticked] at noTick
        cases noTick
    | some on =>
        obtain ⟨own, ticked⟩ := inv.connected app on socket
        -- nothing of the connection waits, so what was said on it is what was heard
        have through : said s app on = s.heard on := by
          rw [said, settled.wire, List.append_nil]
          apply hear_all_other
          intro message member same
          exact settled.inbox message member (same ▸ socket)
        rw [through] at own ticked
        obtain ⟨last, latest, online⟩ := ticked settled.ticked
        obtain ⟨rfl, sameType⟩ := own last (last_mem latest)
        obtain ⟨info, held, there⟩ := inv.listens.listed on last latest (sameType ▸ known)
        obtain ⟨_, same, also, _, sum⟩ := inv.listens.known last.appId info held
        rw [there, latest] at also
        cases also
        have follows := (inv.gathers last.appId).follows
        rw [settled.packets] at follows
        have gathered := follows_settled follows
        have counts : info.online =
            Int32.ofNat (total (s.reporters last.appId).worlds + s.picks last.appId) := by
          rw [sum, online, online_loads, gathered, settled.told, total_map onlineSize rfl Int32.ofNat_add,
            Int32.ofNat_add]
          rfl
        refine ⟨info, held, there ▸ rfl, counts, ?_⟩
        intro small
        rw [counts, Int32.toInt_ofNat_of_lt small]
        rfl

/-- Three players in a world of game process 201. -/
theorem loads_are_known_three :
    ∃ s info, Run (step fun _ _ => some ⟨[], 7801⟩) ⟨fun _ => newGame (bits .game), [], ∅, fun _ => [], fun _ => 0⟩
        [.players 201 9 3, .tell 201 9 1, .gather 201, .connect 201 7, .tick 201, .arrive 201, .handle] s ∧
      s.apps[(201 : Int)]? = some info ∧ info.online.toInt = 3 := by
  have run : ∃ s, Run (step fun _ _ => some ⟨[], 7801⟩)
      ⟨fun _ => newGame (bits .game), [], ∅, fun _ => [], fun _ => 0⟩
      [.players 201 9 3, .tell 201 9 1, .gather 201, .connect 201 7, .tick 201, .arrive 201, .handle] s ∧
      Settled s 201 ∧ total (s.reporters 201).worlds = 3 ∧ s.picks 201 = 0 := by
    refine ⟨_, .next rfl <| .next ⟨3, by decide, rfl⟩ <| .next ⟨_, [], rfl, rfl⟩ <|
      .next ⟨rfl, fun other => ?_, rfl⟩ <| .next ⟨by decide, rfl⟩ <| .next ⟨7, _, [], rfl, rfl, rfl⟩ <|
      .next ⟨7, some _, [], rfl, rfl⟩ <| .refl _, ⟨?_, rfl, rfl, rfl, ?_⟩, by decide, rfl⟩
    · by_cases same : other = 201
      · subst same
        decide
      · simp [setReporter, same, newGame]
    · decide
    · intro message member
      cases member
  obtain ⟨s, taken, settled, worlds, picks⟩ := run
  have known := loads_are_known (fun _ _ => some ⟨[], 7801⟩) _ s _ ⟨fun _ => ⟨_, .inl rfl⟩, rfl, rfl, fun _ => rfl, fun _ => rfl⟩ taken
  obtain ⟨info, held, _, _, sum⟩ := known.2 201 settled rfl
  rw [worlds, picks] at sum
  exact ⟨s, info, taken, held, sum (by decide)⟩

end GameBook.GatheredLoads
