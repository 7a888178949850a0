import GameBook.MessageSystem
import GameBook.NetworkLocator
import GameBook.RelinkedWorld
import GameBook.TcpLink
import GameBook.WorldProxy

/-!
What a world proxy and its world send to each other, and which of their
functions a packet reaches. Both objects have the same SN. In a server of its
own each is the only one; in the all-in-one server the packets of both go to
the threads of both, and the ToWorld tag keeps those for the world from the
default function of the proxy.
-/

namespace GameBook.WorldTraffic

open OrderedMap SocketObject AppKey ProtoId MessageSystem LabelledRun
open NetworkLocator (Locator noIdentify getNetworkIdentify)
open LastMap (PlayerProto Resources)
open SpaceWorld (World ToPlayer Motion MoveVector3)
open WorldProxy (Proxy Event WorldType proxyStep)
open PlayerCollector (Player getPlayerBySocket getPlayerBySn)

/-! ### Packets -/

def named : List MsgId :=
  [.miNetworkDisconnect, .g2sSyncPlayer, .g2sRequestSyncPlayer, .g2sRemovePlayer, .c2sMove, .s2gSyncPlayer,
    .c2gEnterWorld, .miTeleport, .miTeleportAfter, .miBroadcastCreateWorldProxy, .s2cEnterWorld,
    .s2cRoleAppear, .s2cRoleDisAppear, .s2cMove]

/-- The proto of a packet; `ToPlayer` is what a world sends to its players. -/
inductive Content (Position : Type) where
  | networkDisconnect
  | syncPlayer (account : Str) (player : PlayerProto Position)
  | requestSyncPlayer (playerSn : UInt64)
  | removePlayer (playerSn : UInt64)
  | move (positions : List Position)
  | toPlayer (message : ToPlayer Position)
  | enterWorld (worldId : Int)
  | teleport (lastWorldSn : UInt64) (account : Str) (playerSn : UInt64) (player : PlayerProto Position)
  | teleportAfter (playerSn : UInt64)
  | broadcastCreateWorldProxy (worldId : Int) (worldSn : UInt64)
  | other (msgId : MsgId) (unread : msgId ∉ named) (data : List UInt8)

variable {Position Direction : Type}

def toPlayerId : ToPlayer Position → MsgId
  | .enterWorld .. => .s2cEnterWorld
  | .roleAppear _ => .s2cRoleAppear
  | .roleDisAppear _ => .s2cRoleDisAppear
  | .move .. => .s2cMove
  | .syncPlayer .. => .s2gSyncPlayer

def msgIdOf : Content Position → MsgId
  | .networkDisconnect => .miNetworkDisconnect
  | .syncPlayer .. => .g2sSyncPlayer
  | .requestSyncPlayer _ => .g2sRequestSyncPlayer
  | .removePlayer _ => .g2sRemovePlayer
  | .move _ => .c2sMove
  | .toPlayer message => toPlayerId message
  | .enterWorld _ => .c2gEnterWorld
  | .teleport .. => .miTeleport
  | .teleportAfter _ => .miTeleportAfter
  | .broadcastCreateWorldProxy .. => .miBroadcastCreateWorldProxy
  | .other msgId .. => msgId

structure Packet (Position : Type) extends NetIdentify where
  content : Content Position

/-- `CreatePacket`: `Packet::Awake` takes over the socket key and copies the tags. -/
def createPacket (identify : NetIdentify) (content : Content Position) : Packet Position :=
  ⟨⟨identify.socketKey, copyFrom clear identify.tagKey⟩, content⟩

/-- A packet that came over a connection: the tags of the connection and those
of the head that `AddPacket` wrote. -/
def received (conn : NetIdentify) (p : Packet Position) : Packet Position :=
  let head : TcpFraming.Packet := ⟨p.toNetIdentify, msgIdOf p.content, []⟩
  ⟨⟨conn.socketKey, TcpFraming.headTags conn (TcpFraming.headSizeOf head) (TcpFraming.headOf head)⟩, p.content⟩

/-! ### Sending -/

/-- A packet goes to the threads of the process itself, to a network or nowhere. -/
inductive Route (Position : Type) where
  | dispatched (p : Packet Position)
  | network (p : Packet Position)
  | lost

def sendPacket (p : Packet Position) : Route Position :=
  if p.socketKey.socket = noIdentify.socketKey.socket ∨ p.socketKey.netType = .none then .dispatched p
  else .network p

structure Process where
  curAppType : UInt64
  locator : Locator

def worldTags (process : Process) (sn playerSn : UInt64) : TagKey :=
  let tags := addTagInt (addTagInt clear .player playerSn) .entity sn
  if process.curAppType = bits .allInOne then addTagInt tags .toWorld sn else tags

/-- `SendPacket` to an application, of a packet that may go to this process too. -/
def sendPacketApp (process : Process) (appType : AppType) (appId : UInt64) (p : Packet Position) :
    Route Position :=
  if process.curAppType &&& bits appType ≠ 0 then .dispatched p
  else
    let network := getNetworkIdentify process.locator appType appId
    if network.socketKey.netType = .none then .lost
    else sendPacket { p with socketKey := network.socketKey }

def sendPacketToWorld (process : Process) (sn playerSn : UInt64) (content : Content Position) :
    Route Position :=
  sendPacketApp process .space (getAppIdFromSN sn)
    (createPacket ⟨noIdentify.socketKey, copyFrom clear (worldTags process sn playerSn)⟩ content)

/-- `CopyPacketToWorld`: the copy is made without an identify and tagged afterwards. -/
def copyPacketToWorld (process : Process) (sn playerSn : UInt64) (content : Content Position) :
    Route Position :=
  sendPacketApp process .space (getAppIdFromSN sn)
    ⟨⟨noIdentify.socketKey, worldTags process sn playerSn⟩, content⟩

def toWorld (process : Process) (sn : UInt64) :
    WorldProxy.Sent (PlayerProto Position) → Option (Route Position)
  | .requestSyncPlayer playerSn => some (sendPacketToWorld process sn playerSn (.requestSyncPlayer playerSn))
  | .syncPlayer account playerSn player =>
      some (sendPacketToWorld process sn playerSn (.syncPlayer account player))
  | .removePlayer playerSn tagged => some (sendPacketToWorld process sn tagged (.removePlayer playerSn))
  | .worldDisconnect playerSn => some (sendPacketToWorld process sn playerSn .networkDisconnect)
  | _ => none

/-- The packets for players among the messages of a world: `Player::Awake` gave
the player its tags. -/
def toPlayer : SpaceWorld.Sent Position → Option (Route Position)
  | .player playerSn worldSn socketKey message =>
      some (sendPacket (createPacket
        ⟨socketKey, addTagInt (addTagInt clear .player playerSn) .entity worldSn⟩ (.toPlayer message)))
  | _ => none

/-! ### Registration -/

inductive Handler where
  | worldGetPlayer
  | world (msgId : MsgId)
  | proxyGetPlayer
  | proxy (msgId : MsgId)
  | proxyDefault
  | unrelated (which : Nat)
  deriving DecidableEq, Repr

def handleFunction : Callback Handler → Handler
  | .message handleFunction => handleFunction
  | .filter _ handleFunction => handleFunction

abbrev Functions := List (MsgId × Callback Handler)

def worldFunctions : Functions :=
  [(.miNetworkDisconnect, .message (.world .miNetworkDisconnect)),
    (.g2sSyncPlayer, .message (.world .g2sSyncPlayer)),
    (.g2sRequestSyncPlayer, .filter .worldGetPlayer (.world .g2sRequestSyncPlayer)),
    (.g2sRemovePlayer, .filter .worldGetPlayer (.world .g2sRemovePlayer)),
    (.c2sMove, .filter .worldGetPlayer (.world .c2sMove))]

def worldProxyFunctions : Functions :=
  [(.miNetworkDisconnect, .message (.proxy .miNetworkDisconnect)),
    (.miTeleport, .message (.proxy .miTeleport)),
    (.miTeleportAfter, .filter .proxyGetPlayer (.proxy .miTeleportAfter)),
    (.miBroadcastCreateWorldProxy, .message (.proxy .miBroadcastCreateWorldProxy)),
    (.s2gSyncPlayer, .filter .proxyGetPlayer (.proxy .s2gSyncPlayer)),
    (.c2gEnterWorld, .filter .proxyGetPlayer (.proxy .c2gEnterWorld))]

abbrev System := MessageSystem Handler

def registerAll (sn : UInt64) (functions : Functions) (system : System) : System :=
  functions.foldl (fun system function => registerFunction system sn (number function.1) function.2) system

def worldAwake (sn : UInt64) (system : System) : System := registerAll sn worldFunctions system

def worldProxyAwake (sn : UInt64) (system : System) : System :=
  registerDefaultFunction (registerAll sn worldProxyFunctions system) sn (.message .proxyDefault)

structure Registered (functions : Functions) (default : Option (Callback Handler)) (sn : UInt64)
    (system : System) : Prop where
  functions : ∀ msgId, functionAt system (number msgId) sn = functions.lookup msgId
  default : defaultAt system sn = default

def Unused (sn : UInt64) (system : System) : Prop :=
  (∀ msgId, functionAt system (number msgId) sn = none) ∧ system.defaultCallbacks[sn]? = none

theorem number_injective {one other : MsgId} (same : number one = number other) : one = other := by
  have found := find_value_number one
  rw [same, find_value_number] at found
  exact (Option.some.inj found).symm

/-- Functions are looked up in the order of their registration: the first one stays. -/
theorem register_all_at (sn : UInt64) (functions : Functions) (system : System) (msgId : MsgId) :
    functionAt (registerAll sn functions system) (number msgId) sn =
      (functionAt system (number msgId) sn).or (functions.lookup msgId) := by
  induction functions generalizing system with
  | nil => simp [registerAll]
  | cons function rest ih =>
      obtain ⟨name, callback⟩ := function
      have first := register_function_at system sn (number name) callback (number msgId) sn
      show functionAt (registerAll sn rest _) _ _ = _
      rw [ih, first, List.lookup_cons]
      by_cases same : msgId = name
      · subst same
        cases functionAt system (number msgId) sn <;> simp
      · have apart : (number msgId : Int) ≠ number name := by
          intro equal
          exact same (number_injective (by exact_mod_cast equal))
        rw [if_neg (fun both => apart both.1), beq_false_of_ne same]

theorem register_all_default (sn : UInt64) (functions : Functions) (system : System) :
    (registerAll sn functions system).defaultCallbacks = system.defaultCallbacks := by
  induction functions generalizing system with
  | nil => rfl
  | cons function rest ih => exact ih _

theorem register_default_functions (sn : UInt64) (callback : Callback Handler) (system : System) (msgId : Int)
    (object : UInt64) :
    functionAt (registerDefaultFunction system sn callback) msgId object = functionAt system msgId object := rfl

theorem world_awake_registered (sn : UInt64) (system : System) (unused : Unused sn system) :
    Registered worldFunctions none sn (worldAwake sn system) := by
  refine ⟨fun msgId => ?_, ?_⟩
  · rw [worldAwake, register_all_at, unused.1]
    rfl
  · rw [worldAwake, defaultAt, register_all_default, unused.2]
    rfl

theorem world_proxy_awake_registered (sn : UInt64) (system : System) (unused : Unused sn system) :
    Registered worldProxyFunctions (some (.message .proxyDefault)) sn (worldProxyAwake sn system) := by
  refine ⟨fun msgId => ?_, ?_⟩
  · rw [worldProxyAwake, register_default_functions, register_all_at, unused.1]
    rfl
  · have none : (registerAll sn worldProxyFunctions system).defaultCallbacks[sn]? = none := by
      rw [register_all_default, unused.2]
    rw [worldProxyAwake, register_default_at, if_pos ⟨rfl, none⟩]

/-! ### The functions a packet reaches -/

def asked (p : Packet Position) : MessageSystem.Packet := ⟨number (msgIdOf p.content), p.tagKey⟩

def invoked (sn : UInt64) (finds : Handler → Bool) (calls : List (Call Handler)) : List Handler :=
  calls.filterMap fun
    | .function object callback | .default object callback =>
        if object = sn ∧ processPacket finds callback = true then some (handleFunction callback) else none

def runOf (finds : Handler → Bool) : Option (Callback Handler) → List Handler
  | none => []
  | some callback => if processPacket finds callback = true then [handleFunction callback] else []

def ownFunction (functions : Functions) (finds : Handler → Bool) (msgId : MsgId) : List Handler :=
  runOf finds (functions.lookup msgId)

def reached (functions : Functions) (default : Option (Callback Handler)) (sn : UInt64)
    (finds : Handler → Bool) (p : Packet Position) : List Handler :=
  if entitySn (asked p) = sn then
    if ownFunction functions finds (msgIdOf p.content) = [] ∧ p.tagKey .toWorld = none then
      invoked sn finds (default.toList.map (Call.default sn))
    else ownFunction functions finds (msgIdOf p.content)
  else if entitySn (asked p) = 0 then ownFunction functions finds (msgIdOf p.content)
  else []

theorem invoked_append (sn : UInt64) (finds : Handler → Bool) (first second : List (Call Handler)) :
    invoked sn finds (first ++ second) = invoked sn finds first ++ invoked sn finds second :=
  List.filterMap_append

theorem invoked_cons (sn : UInt64) (finds : Handler → Bool) (object : UInt64) (callback : Callback Handler)
    (rest : List (Call Handler)) : invoked sn finds (.function object callback :: rest) =
      (if object = sn then runOf finds (some callback) else []) ++ invoked sn finds rest := by
  unfold invoked runOf
  rw [List.filterMap_cons]
  by_cases own : object = sn <;> by_cases processed : processPacket finds callback = true <;>
    simp [own, processed]

/-- Of the calls of a broadcast one at most is for the object. -/
theorem invoked_entries (sn : UInt64) (finds : Handler → Bool) (entries : List (UInt64 × Callback Handler))
    (found : Option (Callback Handler)) (nodup : entries.Nodup)
    (held : ∀ callback, (sn, callback) ∈ entries ↔ found = some callback) :
    invoked sn finds (asCalls entries) = runOf finds found := by
  induction entries generalizing found with
  | nil =>
      cases found with
      | none => rfl
      | some callback => exact absurd ((held callback).mpr rfl) List.not_mem_nil
  | cons entry rest ih =>
      obtain ⟨object, callback⟩ := entry
      obtain ⟨absent, later⟩ := List.nodup_cons.mp nodup
      by_cases own : object = sn
      · subst own
        have here : found = some callback := (held callback).mp List.mem_cons_self
        have none := ih none later (fun other => by
          constructor
          · intro member
            have same := (held other).mp (List.mem_cons_of_mem _ member)
            rw [here] at same
            cases same
            exact absurd member absent
          · intro impossible
            cases impossible)
        have tail : invoked object finds (asCalls rest) = [] := none
        show invoked object finds (.function object callback :: asCalls rest) = _
        rw [invoked_cons, if_pos rfl, tail, here, List.append_nil]
      · have others := ih found later (fun other => by
          rw [← held other, List.mem_cons]
          constructor
          · exact Or.inr
          · rintro (same | member)
            · exact absurd (congrArg Prod.fst same).symm own
            · exact member)
        show invoked sn finds (.function object callback :: asCalls rest) = _
        rw [invoked_cons, if_neg own, others, List.nil_append]

theorem invoked_process {functions : Functions} {default : Option (Callback Handler)} {sn : UInt64}
    {system : System} (registered : Registered functions default sn system) (positive : sn ≠ 0)
    (finds : Handler → Bool) (p : Packet Position) :
    invoked sn finds (process finds system (asked p)).2 = reached functions default sn finds p := by
  have function := registered.functions (msgIdOf p.content)
  unfold reached
  by_cases broadcast : entitySn (asked p) = 0
  · have apart : ¬ entitySn (asked p) = sn := fun same => positive (same.symm.trans broadcast)
    have zero : ¬ 0 < entitySn (asked p) := by
      rw [broadcast]
      decide
    obtain ⟨nodup, members⟩ := function_calls_all system (asked p) zero
    rw [if_neg apart, if_pos broadcast, process_broadcast finds system (asked p) zero]
    rw [invoked_entries sn finds _ _ nodup (fun callback => members sn callback)]
    rw [show (asked p).msgId = number (msgIdOf p.content) from rfl, function, ownFunction]
  · have some : 0 < entitySn (asked p) := UInt64.pos_iff_ne_zero.mpr broadcast
    rw [process_entity finds system (asked p) some, function_calls_entity system (asked p) some]
    by_cases own : entitySn (asked p) = sn
    · rw [if_pos own, own, show (asked p).msgId = number (msgIdOf p.content) from rfl, function,
        registered.default, ownFunction]
      cases functions.lookup (msgIdOf p.content) with
      | none =>
          by_cases tagged : (asked p).tagKey .toWorld = none
          · have tagged' : p.tagKey .toWorld = none := tagged
            simp [isDo, asCalls, runOf, tagged, tagged']
          · have tagged' : ¬ p.tagKey .toWorld = none := tagged
            simp [isDo, asCalls, runOf, tagged, tagged', invoked]
      | some callback =>
          by_cases processed : processPacket finds callback = true
          · simp [isDo, asCalls, runOf, processed, invoked]
          · by_cases tagged : (asked p).tagKey .toWorld = none
            · have tagged' : p.tagKey .toWorld = none := tagged
              simp [isDo, asCalls, runOf, processed, tagged, tagged', invoked]
            · have tagged' : ¬ p.tagKey .toWorld = none := tagged
              simp [isDo, asCalls, runOf, processed, tagged, tagged', invoked]
    · rw [if_neg own, if_neg broadcast]
      have elsewhere (call : Call Handler) (member : call ∈ (asCalls
          ((functionAt system (asked p).msgId (entitySn (asked p))).map fun callback =>
            (entitySn (asked p), callback)).toList)) : ∃ callback, call = .function (entitySn (asked p)) callback := by
        simp only [asCalls, List.mem_map, Option.mem_toList, Option.map_eq_some_iff] at member
        obtain ⟨_, ⟨callback, _, rfl⟩, rfl⟩ := member
        exact ⟨callback, rfl⟩
      rw [invoked_append]
      have first : invoked sn finds (asCalls ((functionAt system (asked p).msgId (entitySn (asked p))).map
          fun callback => (entitySn (asked p), callback)).toList) = [] := by
        rw [invoked, List.filterMap_eq_nil_iff]
        intro call member
        obtain ⟨callback, rfl⟩ := elsewhere call member
        exact if_neg (fun both => own both.1)
      have defaults (list : List (Callback Handler)) :
          invoked sn finds (list.map (Call.default (entitySn (asked p)))) = [] := by
        rw [invoked, List.filterMap_eq_nil_iff]
        intro call member
        obtain ⟨callback, _, rfl⟩ := List.mem_map.mp member
        exact if_neg (fun both => own both.1)
      rw [first, List.nil_append]
      split
      · rfl
      · split
        · exact defaults _
        · rfl

theorem process_registered {functions : Functions} {default : Option (Callback Handler)} {sn : UInt64}
    {system : System} (registered : Registered functions default sn system) (finds : Handler → Bool)
    (packet : MessageSystem.Packet) :
    Registered functions default sn (process finds system packet).1 := by
  obtain ⟨functionsKept, defaultsKept⟩ := process_kept finds system packet
  refine ⟨fun msgId => ?_, ?_⟩
  · rw [functionAt, functionsKept]
    exact registered.functions msgId
  · rw [defaultsKept]
    exact registered.default

end GameBook.WorldTraffic
