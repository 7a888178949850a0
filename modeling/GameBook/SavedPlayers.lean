import GameBook.CString
import GameBook.WireFormat

/-!
How a player gets into the table `player` and out of it again: `OnSavePlayer`
binds the serialized PlayerBase and PlayerMisc with their lengths, and the
queries read the columns through `GetBlob`. The messages are those of db.proto,
written as the generated code writes them; what parses them is a parameter.
-/

namespace GameBook.SavedPlayers

open CString (cStr c_str_of_clean)
open WireFormat

/-! ### The messages -/

/-- The bits of a float. Minus zero is zero to every comparison, also to the
one that leaves a zero out, and is that value here. -/
structure Coordinate where
  bits : UInt32
  plain : bits ≠ 0x80000000
  deriving DecidableEq

structure Vector3 where
  x : Coordinate
  y : Coordinate
  z : Coordinate
  deriving DecidableEq

structure LastWorld where
  worldId : Int32
  worldSn : Int64
  position : Option Vector3
  deriving DecidableEq

/-- The enumeration `Gender` is open, so any number may stand in it. -/
structure PlayerBase where
  gender : Int32
  level : Int32
  deriving DecidableEq

structure PlayerMisc where
  lastWorld : Option LastWorld
  lastDungeon : Option LastWorld
  onlineVersion : Int32
  deriving DecidableEq

structure Player where
  sn : UInt64
  name : Bytes
  base : PlayerBase
  misc : PlayerMisc
  deriving DecidableEq

/-- `WriteInt64NoTag`; an int32 is extended to 64 bits with its sign. -/
def int64Number (value : Int64) : Nat := value.toUInt64.toNat

def int32Number (value : Int32) : Nat := int64Number value.toInt64

def serializeVector3 (vector : Vector3) : Bytes :=
  fixed32Field 0x0d vector.x.bits ++
    (fixed32Field 0x15 vector.y.bits ++ fixed32Field 0x1d vector.z.bits)

def serializeLastWorld (world : LastWorld) : Bytes :=
  varintField 8 (int32Number world.worldId) ++
    (varintField 16 (int64Number world.worldSn) ++
      messageField 26 (world.position.map serializeVector3))

def serializeBase (base : PlayerBase) : Bytes :=
  varintField 8 (int32Number base.gender) ++ varintField 16 (int32Number base.level)

def serializeMisc (misc : PlayerMisc) : Bytes :=
  messageField 10 (misc.lastWorld.map serializeLastWorld) ++
    (messageField 18 (misc.lastDungeon.map serializeLastWorld) ++
      varintField 24 (int32Number misc.onlineVersion))

structure Protobuf where
  parseBase : Bytes → PlayerBase
  parseMisc : Bytes → PlayerMisc

structure Inverts (protobuf : Protobuf) : Prop where
  base : ∀ base, protobuf.parseBase (serializeBase base) = base
  misc : ∀ misc, protobuf.parseMisc (serializeMisc misc) = misc

/-- A row of `player`; a column that was never written is NULL. -/
structure Row where
  sn : UInt64
  name : Bytes
  account : Bytes
  base : Option Bytes
  misc : Option Bytes
  deriving DecidableEq

/-- `MYSQL_BIND`: a blob points at bytes and says how many of them count. -/
inductive Bind where
  | blob (buffer : Bytes) (length : Nat)
  | longlong (value : UInt64)
  deriving DecidableEq

def addParamBlob (stmt : List Bind) (val : Bytes) (size : Nat) : List Bind :=
  stmt ++ [.blob val size]

def addParamUint64 (stmt : List Bind) (val : UInt64) : List Bind := stmt ++ [.longlong val]

/-- `update player set base=?, misc=?, savetime=now() where sn = ?`. -/
def executeSave (rows : List Row) : List Bind → List Row
  | [.blob base baseLength, .blob misc miscLength, .longlong sn] =>
      rows.map fun row =>
        if row.sn = sn then
          { row with base := some (base.take baseLength), misc := some (misc.take miscLength) }
        else row
  | _ => rows

def onSavePlayer (rows : List Row) (player : Player) : List Row :=
  let baseStr := serializeBase player.base
  let miscStr := serializeMisc player.misc
  executeSave rows
    (addParamUint64 (addParamBlob (addParamBlob [] baseStr baseStr.length) miscStr miscStr.length)
      player.sn)

/-- `GetBlob`: the bytes are copied by their length, with a zero behind them,
and then assigned as a C string. -/
def getBlob : Option Bytes → Bytes
  | none => []
  | some bytes => if bytes.length = 0 then [] else cStr (bytes ++ [0])

structure QueryPlayerRs where
  account : Bytes
  player : Option Player
  deriving DecidableEq

/-- `select ... from player where sn = ...`, of which one row is fetched. -/
def handleQueryPlayer (protobuf : Protobuf) (rows : List Row) (playerSn : UInt64) : QueryPlayerRs :=
  match rows.find? fun row => row.sn = playerSn with
  | none => ⟨[], none⟩
  | some row =>
      ⟨cStr row.account,
        some ⟨row.sn, cStr row.name, protobuf.parseBase (getBlob row.base),
          protobuf.parseMisc (getBlob row.misc)⟩⟩

structure PlayerLittle where
  sn : UInt64
  name : Bytes
  level : Int32
  gender : Int32
  lastWorld : Option LastWorld
  lastDungeon : Option LastWorld
  deriving DecidableEq

structure PlayerList where
  account : Bytes
  player : List PlayerLittle
  deriving DecidableEq

def playerLittle (protobuf : Protobuf) (row : Row) : PlayerLittle :=
  let protoBase := protobuf.parseBase (getBlob row.base)
  let protoMisc := protobuf.parseMisc (getBlob row.misc)
  ⟨row.sn, cStr row.name, protoBase.level, protoBase.gender, protoMisc.lastWorld,
    protoMisc.lastDungeon⟩

/-- `select ... from player where account = ...`; `selects` is how the server
compares a column with the account. -/
def queryPlayerList (protobuf : Protobuf) (rows : List Row) (selects : Bytes → Bool)
    (account : Bytes) : PlayerList :=
  ⟨cStr account, (rows.filter fun row => selects row.account).map (playerLittle protobuf)⟩

/-! ### What is asked -/

/-- Wherever the player has a row, what was saved is what both queries answer. -/
def Survives (protobuf : Protobuf) (player : Player) : Prop :=
  ∀ (rows : List Row) (row : Row), row ∈ rows → row.sn = player.sn →
    (∃ answer, (handleQueryPlayer protobuf (onSavePlayer rows player) player.sn).player = some answer ∧
      answer.base = player.base ∧ answer.misc = player.misc) ∧
    ∀ (selects : Bytes → Bool) (account : Bytes), selects row.account = true →
      (∃ entry ∈ (queryPlayerList protobuf (onSavePlayer rows player) selects account).player,
        entry.sn = player.sn) ∧
      ∀ entry ∈ (queryPlayerList protobuf (onSavePlayer rows player) selects account).player,
        entry.sn = player.sn →
          entry.level = player.base.level ∧ entry.gender = player.base.gender ∧
          entry.lastWorld = player.misc.lastWorld ∧ entry.lastDungeon = player.misc.lastDungeon

def FullCoordinate (coordinate : Coordinate) : Prop :=
  coordinate.bits = 0 ∨ BytesFull coordinate.bits

def FullPosition (vector : Vector3) : Prop :=
  (vector.x.bits ≠ 0 ∨ vector.y.bits ≠ 0 ∨ vector.z.bits ≠ 0) ∧
    FullCoordinate vector.x ∧ FullCoordinate vector.y ∧ FullCoordinate vector.z

def FullWorld (world : LastWorld) : Prop :=
  (int32Number world.worldId ≠ 0 ∨ int64Number world.worldSn ≠ 0 ∨ world.position ≠ none) ∧
    ∀ vector, world.position = some vector → FullPosition vector

def FullMisc (misc : PlayerMisc) : Prop :=
  (∀ world, misc.lastWorld = some world → FullWorld world) ∧
    ∀ world, misc.lastDungeon = some world → FullWorld world

/-! ### Zero bytes -/

theorem clean_append (first second : Bytes) : 0 ∉ first ++ second ↔ 0 ∉ first ∧ 0 ∉ second := by
  rw [List.mem_append, not_or]

theorem field_nil {tag : UInt8} {written : Option Bytes} : field tag written = [] ↔ written = none := by
  cases written <;> simp [field]

theorem base_clean (base : PlayerBase) : 0 ∉ serializeBase base := by
  rw [serializeBase, clean_append]
  exact ⟨varint_field_clean (by decide) _, varint_field_clean (by decide) _⟩

theorem vector_clean (vector : Vector3) :
    0 ∉ serializeVector3 vector ↔
      FullCoordinate vector.x ∧ FullCoordinate vector.y ∧ FullCoordinate vector.z := by
  rw [serializeVector3, clean_append, clean_append, fixed32_field_clean (by decide),
    fixed32_field_clean (by decide), fixed32_field_clean (by decide)]
  rfl

theorem fixed32_nil (tag : UInt8) (word : UInt32) : fixed32Field tag word = [] ↔ word = 0 := by
  rw [fixed32Field, field_nil]
  split <;> simp [*]

theorem varint_nil (tag : UInt8) (number : Nat) : varintField tag number = [] ↔ number = 0 := by
  rw [varintField, field_nil]
  split <;> simp [*]

theorem vector_nil (vector : Vector3) :
    serializeVector3 vector ≠ [] ↔
      vector.x.bits ≠ 0 ∨ vector.y.bits ≠ 0 ∨ vector.z.bits ≠ 0 := by
  rw [serializeVector3, ne_eq, List.append_eq_nil_iff, List.append_eq_nil_iff, fixed32_nil,
    fixed32_nil, fixed32_nil, not_and_or, not_and_or]

theorem world_clean (world : LastWorld) :
    0 ∉ serializeLastWorld world ↔
      ∀ vector, world.position = some vector → FullPosition vector := by
  have first := varint_field_clean (by decide : (8 : UInt8) ≠ 0) (int32Number world.worldId)
  have second := varint_field_clean (by decide : (16 : UInt8) ≠ 0) (int64Number world.worldSn)
  rw [serializeLastWorld, clean_append, clean_append, message_field_clean (by decide)]
  cases world.position with
  | none => simp [first, second]
  | some vector => simp [first, second, vector_nil, vector_clean, FullPosition]

theorem world_nil (world : LastWorld) :
    serializeLastWorld world ≠ [] ↔
      int32Number world.worldId ≠ 0 ∨ int64Number world.worldSn ≠ 0 ∨ world.position ≠ none := by
  rw [serializeLastWorld, ne_eq, List.append_eq_nil_iff, List.append_eq_nil_iff, varint_nil,
    varint_nil, messageField, field_nil, not_and_or, not_and_or]
  simp

theorem misc_clean (misc : PlayerMisc) : 0 ∉ serializeMisc misc ↔ FullMisc misc := by
  have last := varint_field_clean (by decide : (24 : UInt8) ≠ 0) (int32Number misc.onlineVersion)
  have written : ∀ (tag : UInt8) (world : Option LastWorld), tag ≠ 0 →
      (0 ∉ messageField tag (world.map serializeLastWorld) ↔
        ∀ value, world = some value → FullWorld value) := by
    intro tag world nonzero
    rw [message_field_clean nonzero]
    cases world with
    | none => simp
    | some value => simp [world_nil, world_clean, FullWorld]
  rw [serializeMisc, clean_append, clean_append, written _ _ (by decide), written _ _ (by decide),
    FullMisc]
  simp [last]

def readInt64 (number : Nat) : Int64 := (UInt64.ofNat number).toInt64

def readInt32 (number : Nat) : Int32 := (readInt64 number).toInt32

theorem read_int64 (value : Int64) : readInt64 (int64Number value) = value := by
  rw [readInt64, int64Number, UInt64.ofNat_toNat, Int64.toInt64_toUInt64]

theorem read_int32 (value : Int32) : readInt32 (int32Number value) = value := by
  rw [readInt32, int32Number, read_int64, Int32.toInt32_toInt64]

theorem int64_number_small (value : Int64) : int64Number value < 2 ^ 64 := value.toUInt64.toNat_lt

theorem int32_number_small (value : Int32) : int32Number value < 2 ^ 64 := int64_number_small _

def readCoordinate (bits : UInt32) : Coordinate :=
  if plain : bits ≠ 0x80000000 then ⟨bits, plain⟩ else ⟨0, by decide⟩

theorem read_coordinate (coordinate : Coordinate) : readCoordinate coordinate.bits = coordinate := by
  rw [readCoordinate, dif_pos coordinate.plain]

def parseVector3 (bytes : Bytes) : Vector3 :=
  let x := readField 0x0d 0 readFixed32 bytes
  let y := readField 0x15 0 readFixed32 x.2
  let z := readField 0x1d 0 readFixed32 y.2
  ⟨readCoordinate x.1, readCoordinate y.1, readCoordinate z.1⟩

def parseLastWorld (bytes : Bytes) : LastWorld :=
  let worldId := readField 8 0 readVarint bytes
  let worldSn := readField 16 0 readVarint worldId.2
  let position := readField 26 none (readMessage parseVector3) worldSn.2
  ⟨readInt32 worldId.1, readInt64 worldSn.1, position.1⟩

def parseBase (bytes : Bytes) : PlayerBase :=
  let gender := readField 8 0 readVarint bytes
  let level := readField 16 0 readVarint gender.2
  ⟨readInt32 gender.1, readInt32 level.1⟩

def parseMisc (bytes : Bytes) : PlayerMisc :=
  let lastWorld := readField 10 none (readMessage parseLastWorld) bytes
  let lastDungeon := readField 18 none (readMessage parseLastWorld) lastWorld.2
  let onlineVersion := readField 24 0 readVarint lastDungeon.2
  ⟨lastWorld.1, lastDungeon.1, readInt32 onlineVersion.1⟩

theorem parse_vector (vector : Vector3) : parseVector3 (serializeVector3 vector) = vector := by
  have first : Avoids 0x0d (fixed32Field 0x15 vector.y.bits ++ fixed32Field 0x1d vector.z.bits) :=
    avoids_field (by decide) (avoids_last _ (by decide))
  have second : Avoids 0x15 (fixed32Field 0x1d vector.z.bits) := avoids_last _ (by decide)
  simp only [parseVector3, serializeVector3, read_fixed32_field first, read_fixed32_field second,
    read_last_fixed32, read_coordinate]

theorem length_vector (vector : Vector3) : (serializeVector3 vector).length ≤ 15 := by
  have first := length_fixed32_field 0x0d vector.x.bits
  have second := length_fixed32_field 0x15 vector.y.bits
  have third := length_fixed32_field 0x1d vector.z.bits
  rw [serializeVector3, List.length_append, List.length_append]
  omega

theorem parse_world (world : LastWorld) : parseLastWorld (serializeLastWorld world) = world := by
  have first : Avoids 8 (varintField 16 (int64Number world.worldSn) ++
      messageField 26 (world.position.map serializeVector3)) :=
    avoids_field (by decide) (avoids_last _ (by decide))
  have second : Avoids 16 (messageField 26 (world.position.map serializeVector3)) :=
    avoids_last _ (by decide)
  have small : ∀ vector, world.position = some vector → (serializeVector3 vector).length < 2 ^ 64 := by
    intro vector _
    have short := length_vector vector
    omega
  simp only [parseLastWorld, serializeLastWorld,
    read_varint_field (int32_number_small world.worldId) first,
    read_varint_field (int64_number_small world.worldSn) second,
    read_last_message world.position serializeVector3 parseVector3 (fun vector _ => parse_vector vector)
      small, read_int32, read_int64]

theorem length_world (world : LastWorld) : (serializeLastWorld world).length ≤ 48 := by
  have first := length_varint_field 8 (int32Number world.worldId)
  have second := length_varint_field 16 (int64Number world.worldSn)
  have third := length_message_field 26 (world.position.map serializeVector3) 15 (by
    intro bytes there
    obtain ⟨vector, _, rfl⟩ := Option.map_eq_some_iff.mp there
    exact length_vector vector)
  rw [serializeLastWorld, List.length_append, List.length_append]
  omega

theorem parse_base (base : PlayerBase) : parseBase (serializeBase base) = base := by
  have first : Avoids 8 (varintField 16 (int32Number base.level)) := avoids_last _ (by decide)
  simp only [parseBase, serializeBase, read_varint_field (int32_number_small base.gender) first,
    read_last_varint (int32_number_small base.level), read_int32]

theorem parse_misc (misc : PlayerMisc) : parseMisc (serializeMisc misc) = misc := by
  have first : Avoids 10 (messageField 18 (misc.lastDungeon.map serializeLastWorld) ++
      varintField 24 (int32Number misc.onlineVersion)) :=
    avoids_field (by decide) (avoids_last _ (by decide))
  have second : Avoids 18 (varintField 24 (int32Number misc.onlineVersion)) :=
    avoids_last _ (by decide)
  have small : ∀ (held : Option LastWorld) (world : LastWorld), held = some world →
      (serializeLastWorld world).length < 2 ^ 64 := by
    intro held world _
    have short := length_world world
    omega
  simp only [parseMisc, serializeMisc,
    read_message_field misc.lastWorld serializeLastWorld parseLastWorld
      (fun world _ => parse_world world) (small misc.lastWorld) first,
    read_message_field misc.lastDungeon serializeLastWorld parseLastWorld
      (fun world _ => parse_world world) (small misc.lastDungeon) second,
    read_last_varint (int32_number_small misc.onlineVersion), read_int32]

/-- A parser that leaves `other` in the message where the bytes are not those
of a message. -/
def strictProtobuf (other : PlayerMisc) : Protobuf :=
  ⟨parseBase, fun bytes => if serializeMisc (parseMisc bytes) = bytes then parseMisc bytes else other⟩

theorem strict_inverts (other : PlayerMisc) : Inverts (strictProtobuf other) := by
  constructor
  · exact parse_base
  · intro misc
    rw [strictProtobuf]
    dsimp only
    rw [parse_misc, if_pos rfl]

/-! ### What comes back -/

theorem get_blob_some (bytes : Bytes) : getBlob (some bytes) = cStr bytes := by
  unfold getBlob
  dsimp only
  split
  · rename_i empty
    rw [List.eq_nil_of_length_eq_zero empty]
    rfl
  · exact CString.c_str_closed bytes

def savedRow (player : Player) (row : Row) : Row :=
  { row with base := some (serializeBase player.base), misc := some (serializeMisc player.misc) }

theorem on_save_player (rows : List Row) (player : Player) :
    onSavePlayer rows player =
      rows.map fun row => if row.sn = player.sn then savedRow player row else row := by
  simp only [onSavePlayer, addParamUint64, addParamBlob, executeSave, List.nil_append,
    List.cons_append, List.take_length]
  rfl

theorem mem_saved {rows : List Row} {player : Player} {row : Row}
    (member : row ∈ onSavePlayer rows player) (mine : row.sn = player.sn) :
    ∃ earlier, row = savedRow player earlier := by
  rw [on_save_player] at member
  obtain ⟨earlier, -, rfl⟩ := List.mem_map.mp member
  by_cases same : earlier.sn = player.sn
  · exact ⟨earlier, if_pos same⟩
  · rw [if_neg same] at mine
    exact absurd mine same

theorem parsed_saved {protobuf : Protobuf} (inverts : Inverts protobuf) (player : Player) (row : Row)
    (full : FullMisc player.misc) :
    protobuf.parseBase (getBlob (savedRow player row).base) = player.base ∧
      protobuf.parseMisc (getBlob (savedRow player row).misc) = player.misc := by
  constructor
  · rw [savedRow, get_blob_some, c_str_of_clean _ (base_clean player.base)]
    exact inverts.base player.base
  · rw [savedRow, get_blob_some, c_str_of_clean _ ((misc_clean player.misc).mpr full)]
    exact inverts.misc player.misc

theorem full_survives {protobuf : Protobuf} (inverts : Inverts protobuf) (player : Player)
    (full : FullMisc player.misc) : Survives protobuf player := by
  intro rows row member mine
  have saved : savedRow player row ∈ onSavePlayer rows player := by
    rw [on_save_player]
    exact List.mem_map.mpr ⟨row, member, if_pos mine⟩
  constructor
  · unfold handleQueryPlayer
    cases found : (onSavePlayer rows player).find? fun row => row.sn = player.sn with
    | none =>
        have missed := List.find?_eq_none.mp found _ saved
        exact absurd (decide_eq_true mine) missed
    | some first =>
        have hit : first.sn = player.sn := by simpa using List.find?_some found
        obtain ⟨earlier, rfl⟩ := mem_saved (List.mem_of_find?_eq_some found) hit
        exact ⟨_, rfl, parsed_saved inverts player earlier full⟩
  · intro selects account chosen
    constructor
    · refine ⟨_, List.mem_map.mpr ⟨savedRow player row, ?_, rfl⟩, mine⟩
      exact List.mem_filter.mpr ⟨saved, chosen⟩
    · intro entry listed same
      obtain ⟨found, inside, rfl⟩ := List.mem_map.mp listed
      obtain ⟨earlier, rfl⟩ := mem_saved (List.mem_filter.mp inside).1 same
      have parsed := parsed_saved inverts player earlier full
      simp only [playerLittle, parsed.1, parsed.2, and_self]

instance (misc : PlayerMisc) : Decidable (FullMisc misc) :=
  decidable_of_iff _ (misc_clean misc)

def changed (misc : PlayerMisc) : PlayerMisc := { misc with onlineVersion := misc.onlineVersion + 1 }

theorem changed_ne (misc : PlayerMisc) : changed misc ≠ misc := by
  intro same
  have version := congrArg PlayerMisc.onlineVersion same
  simp [changed] at version

/-- Of a message with a zero byte in it, a strict parser makes another one. -/
theorem cut_differs (misc : PlayerMisc) (holed : ¬ FullMisc misc) :
    (strictProtobuf (changed misc)).parseMisc (cStr (serializeMisc misc)) ≠ misc := by
  have member : 0 ∈ serializeMisc misc := by
    apply Decidable.byContradiction
    intro clean
    exact holed ((misc_clean misc).mp clean)
  have shorter : cStr (serializeMisc misc) ≠ serializeMisc misc := by
    intro same
    rw [← same] at member
    exact CString.c_str_clean _ member
  intro back
  simp only [strictProtobuf] at back
  split at back
  · rename_i exact_bytes
    rw [back] at exact_bytes
    exact shorter exact_bytes.symm
  · exact changed_ne misc back

/-- That parsing inverts serializing makes a player survive the database
exactly when its PlayerMisc is full. -/
theorem player_survives_iff (player : Player) :
    (∀ protobuf, Inverts protobuf → Survives protobuf player) ↔ FullMisc player.misc := by
  constructor
  · intro survives
    apply Decidable.byContradiction
    intro holed
    obtain ⟨answer, found, -, back⟩ := (survives (strictProtobuf (changed player.misc))
      (strict_inverts _) [⟨player.sn, [], [], none, none⟩] _ List.mem_cons_self rfl).1
    simp only [on_save_player, handleQueryPlayer, List.map_cons, List.map_nil, if_true, savedRow,
      List.find?_cons, decide_true] at found
    cases found
    simp only [get_blob_some] at back
    exact cut_differs player.misc holed back
  · intro full protobuf inverts
    exact full_survives inverts player full

def standingAt (x : Coordinate) : Player :=
  ⟨7, [110], ⟨1, 12⟩,
    ⟨some ⟨3, 0, some ⟨x, ⟨0, by decide⟩, ⟨0, by decide⟩⟩⟩, none, 2⟩⟩

theorem player_survives_at_pi :
    ∀ protobuf, Inverts protobuf → Survives protobuf (standingAt ⟨0x40490fdb, by decide⟩) :=
  (player_survives_iff (standingAt ⟨0x40490fdb, by decide⟩)).mpr (by decide)

/-- At x = 1.0 the position is cut where the bits of the number begin. -/
theorem position_is_lost : ∃ protobuf, Inverts protobuf ∧
    ¬ Survives protobuf (standingAt ⟨0x3f800000, by decide⟩) := by
  refine ⟨⟨parseBase, parseMisc⟩, ⟨parse_base, parse_misc⟩, ?_⟩
  intro survives
  obtain ⟨answer, found, -, back⟩ := (survives [⟨7, [110], [], none, none⟩] _ List.mem_cons_self rfl).1
  have cut : (handleQueryPlayer ⟨parseBase, parseMisc⟩
      (onSavePlayer [⟨7, [110], [], none, none⟩] (standingAt ⟨0x3f800000, by decide⟩)) 7).player =
        some ⟨7, [110], ⟨1, 12⟩, ⟨some ⟨3, 0, some ⟨⟨0, by decide⟩, ⟨0, by decide⟩, ⟨0, by decide⟩⟩⟩,
          none, 0⟩⟩ := by
    decide
  have same := Option.some.inj (cut.symm.trans found)
  rw [← same] at back
  revert back
  decide

end GameBook.SavedPlayers
