import GameBook.Decimals
import GameBook.ParserLine

/-!
The tables of worlds: `ResourceManagerTemplate` reads a csv file line by line,
`ResourceWorld` the columns it knows, `ResourceWorldMgr` looks for the map that
new players enter. An exception that leaves `Initialize`, and a read behind the
properties of a line, is the result `none`.
-/

namespace GameBook.WorldTables

open Decimals OrderedMap ParserLine
open CString (Bytes)
open Mongoose (ascii isDigit isSpace toLower)
open RedisCommands (decimalInt stoi)
open Segments (segments)
open WhileLoop (loop_of_variant)

def newline : UInt8 := 10

def lower (line : Bytes) : Bytes := line.map toLower

/-- `ParserLine`, with a turn for every character and the last one. -/
def propertyList (line : Bytes) : Option (List Bytes) := (parserLine line ((trim line).length + 1)).join

abbrev Head := Table Bytes Nat

/-- `ParserHead`; `some none` is the result false. -/
def parserHead (line : Bytes) : Option (Option Head) :=
  if line = [] then some none
  else (propertyList line).map fun names =>
    some (names.zipIdx.foldl (fun head one => head.insertIfNew one.1 one.2) ∅)

def getString (head : Head) (props : List Bytes) (name : Bytes) : Option Bytes :=
  match head[name]? with
  | none => some []
  | some index => props[index]?

def getInt (head : Head) (props : List Bytes) (name : Bytes) : Option Int :=
  match head[name]? with
  | none => some 0
  | some index => props[index]?.bind stoi

def getBool (head : Head) (props : List Bytes) (name : Bytes) : Option Bool :=
  match head[name]? with
  | none => some false
  | some index => (props[index]?.bind stoi).map fun value => value = 1

structure Vector3 (Scalar : Type) where
  x : Scalar
  y : Scalar
  z : Scalar
  deriving DecidableEq, Repr

/-- `_worldType` is an enumeration whose value is any int of the file. -/
structure ResourceWorld (Scalar : Type) where
  id : Int
  name : Bytes
  isInit : Bool
  worldType : Int
  initPosition : Vector3 Scalar
  deriving DecidableEq, Repr

def roles : Int := 2

variable {Scalar : Type} (stof : Bytes → Option Scalar) (zero : Scalar)

/-- `strutil::split` and `std::stof` of three parts; else the position stays at the origin. -/
def initPosition (value : Bytes) : Option (Vector3 Scalar) :=
  match segments comma value with
  | [x, y, z] => do
      let x ← stof x
      let y ← stof y
      let z ← stof z
      some ⟨x, y, z⟩
  | _ => some ⟨zero, zero, zero⟩

def genStruct (head : Head) (props : List Bytes) (id : Int) : Option (ResourceWorld Scalar) := do
  let name ← getString head props (ascii "name")
  let isInit ← getBool head props (ascii "init")
  let worldType ← getInt head props (ascii "type")
  let value ← getString head props (ascii "playerinitpos")
  let position ← initPosition stof zero value
  some ⟨id, name, isInit, worldType, position⟩

/-- `LoadProperty` and `Check`; `some none` is the result false. -/
def loadWorld (head : Head) (line : Bytes) : Option (Option (ResourceWorld Scalar)) := do
  let list ← propertyList line
  match loadProperty head.size list with
  | none => some none
  | some props => do
      let first ← props[0]?
      let id ← stoi first
      let world ← genStruct stof zero head props id
      some (some world)

abbrev Refs (Scalar : Type) := Table Int (ResourceWorld Scalar)

def loadReference (head : Head) (refs : Refs Scalar) (line : Bytes) : Option (Refs Scalar) :=
  (loadWorld stof zero head line).map fun
    | none => refs
    | some world => refs.insertIfNew world.id world

/-- The loop of `Initialize` passes over empty lines. -/
def loadLine (head : Head) (refs : Refs Scalar) (line : Bytes) : Option (Refs Scalar) :=
  if line = [] then some refs else loadReference stof zero head refs (lower line)

/-- The last id, in the order of the map, of a world as asked for. -/
def lastId (asked : ResourceWorld Scalar → Bool) (refs : Refs Scalar) : Int :=
  (values refs).foldl (fun id world => if asked world then world.id else id) 0

structure WorldMgr (Scalar : Type) where
  head : Head
  refs : Refs Scalar
  initMapId : Int
  rolesMapId : Int

def afterInit (head : Head) (refs : Refs Scalar) : WorldMgr Scalar where
  head := head
  refs := refs
  initMapId := lastId (·.isInit) refs
  rolesMapId := lastId (·.worldType = roles) refs

/-- `Initialize`; the lines are those of `getline` until `eof()`, of which the
last one is empty where the file ends in a line break. -/
def mgrInitialize (file : Option Bytes) : Option (Option (WorldMgr Scalar)) :=
  match file with
  | none => some none
  | some content =>
      match content.splitOn newline with
      | [] => some none
      | first :: lines => do
          match ← parserHead (lower first) with
          | none => some none
          | some head => do
              let refs ← lines.foldlM (loadLine stof zero head) ∅
              some (some (afterInit head refs))

def getResource (m : WorldMgr Scalar) (id : Int) : Option (ResourceWorld Scalar) := m.refs[id]?

def getInitMap (m : WorldMgr Scalar) : Option (ResourceWorld Scalar) :=
  if m.initMapId > 0 then getResource m m.initMapId else none

def getRolesMap (m : WorldMgr Scalar) : Option (ResourceWorld Scalar) :=
  if m.rolesMapId > 0 then getResource m m.rolesMapId else none

/-! ### Lines -/

theorem property_list_parses (line : Bytes) : Parses line (propertyList line) := by
  obtain ⟨result, done⟩ := loop_of_variant parserTurn (fun state => state.line.length)
    (fun _ _ goes => (turn_shortens goes).2) ((trim line).length + 1) ⟨trim line, []⟩ (Nat.lt_succ_self _)
  refine ⟨(trim line).length + 1, ?_⟩
  rw [propertyList, parserLine, done]
  rfl

theorem property_list_regular {fields : List Bytes} (regular : Regular fields) :
    propertyList (csvLine fields) = some (trimEnds fields) :=
  (regular_parses regular _).mp (property_list_parses _)

/-- The worlds of the lines. An empty line has none, nor has one with too few
properties. -/
def worldsOf (head : Head) (lines : List Bytes) : List (ResourceWorld Scalar) :=
  lines.filterMap fun line => if line = [] then none else (loadWorld stof zero head (lower line)).join

def insertWorlds (refs : Refs Scalar) (worlds : List (ResourceWorld Scalar)) : Refs Scalar :=
  worlds.foldl (fun refs world => refs.insertIfNew world.id world) refs

/-- The loop goes through exactly where no line throws. -/
theorem load_lines (head : Head) (lines : List Bytes) (refs : Refs Scalar) :
    lines.foldlM (loadLine stof zero head) refs =
      if ∀ line ∈ lines, line ≠ [] → (loadWorld stof zero head (lower line)).isSome then
        some (insertWorlds refs (worldsOf stof zero head lines))
      else none := by
  induction lines generalizing refs with
  | nil => rfl
  | cons line rest ih =>
      rw [List.foldlM_cons]
      by_cases empty : line = []
      · simp [loadLine, empty, ih, worldsOf]
      · cases loaded : loadWorld stof zero head (lower line) with
        | none => simp [loadLine, loadReference, empty, loaded]
        | some world => cases world <;> simp [loadLine, loadReference, empty, loaded, ih, worldsOf, insertWorlds]

theorem insert_worlds_get (worlds : List (ResourceWorld Scalar)) (id : Int) :
    (insertWorlds ∅ worlds)[id]? = worlds.find? fun world => world.id = id := by
  rw [insertWorlds, get_insert_all ResourceWorld.id fun world => world]
  simp

/-! ### The map of new players -/

theorem fold_last (asked : ResourceWorld Scalar → Bool) (entries : List (Int × ResourceWorld Scalar))
    (ordered : entries.Pairwise fun first second => first.1 < second.1)
    (keyed : ∀ entry ∈ entries, entry.2.id = entry.1) :
    ((∀ entry ∈ entries, asked entry.2 = false) ∧
      (entries.map Prod.snd).foldl (fun id world => if asked world then world.id else id) 0 = 0) ∨
    ∃ entry ∈ entries, asked entry.2 = true ∧ (∀ other ∈ entries, asked other.2 = true → other.1 ≤ entry.1) ∧
      (entries.map Prod.snd).foldl (fun id world => if asked world then world.id else id) 0 = entry.1 := by
  induction entries using List.reverseRecOn with
  | nil => exact .inl ⟨by simp, rfl⟩
  | append_singleton front last ih =>
      obtain ⟨orderedFront, _, before⟩ := List.pairwise_append.mp ordered
      have id := keyed last (by simp)
      rw [List.map_append, List.foldl_append, List.map_singleton, List.foldl_cons, List.foldl_nil]
      by_cases found : asked last.2 = true
      · right
        refine ⟨last, by simp, found, ?_, by rw [if_pos found, id]⟩
        intro other member _
        rcases List.mem_append.mp member with early | same
        · exact Int.le_of_lt (before other early last (by simp))
        · rw [List.mem_singleton.mp same]
      · rw [if_neg found]
        rcases ih orderedFront (fun entry member => keyed entry (List.mem_append_left _ member)) with
          ⟨none, zero⟩ | ⟨entry, member, held, greatest, value⟩
        · left
          refine ⟨?_, zero⟩
          intro entry member
          rcases List.mem_append.mp member with early | same
          · exact none entry early
          · rw [List.mem_singleton.mp same]
            simpa using found
        · right
          refine ⟨entry, List.mem_append_left _ member, held, ?_, value⟩
          intro other among asked
          rcases List.mem_append.mp among with early | same
          · exact greatest other early asked
          · rw [List.mem_singleton.mp same] at asked
            exact absurd asked found

def Keyed (refs : Refs Scalar) : Prop := ∀ (id : Int) (world : ResourceWorld Scalar), refs[id]? = some world → world.id = id

theorem insert_worlds_keyed (worlds : List (ResourceWorld Scalar)) : Keyed (insertWorlds ∅ worlds) := by
  intro id world held
  rw [insert_worlds_get] at held
  simpa using List.find?_some held

/-- The world with the greatest id among those asked for, where this is positive. -/
def Chosen (asked : ResourceWorld Scalar → Bool) (refs : Refs Scalar) (world : ResourceWorld Scalar) : Prop :=
  refs[world.id]? = some world ∧ asked world = true ∧ 0 < world.id ∧
    ∀ (id : Int) (other : ResourceWorld Scalar), refs[id]? = some other → asked other = true → id ≤ world.id

theorem last_id_chosen (asked : ResourceWorld Scalar → Bool) (refs : Refs Scalar) (keyed : Keyed refs)
    (world : ResourceWorld Scalar) :
    (if lastId asked refs > 0 then refs[lastId asked refs]? else none) = some world ↔ Chosen asked refs world := by
  have among (id : Int) (world : ResourceWorld Scalar) : (id, world) ∈ refs.toList ↔ refs[id]? = some world :=
    Std.ExtTreeMap.mem_toList_iff_getElem?_eq_some
  have ordered : refs.toList.Pairwise fun first second => first.1 < second.1 :=
    Std.ExtTreeMap.ordered_keys_toList.imp fun less => Std.compare_eq_lt.mp less
  have stored : ∀ entry ∈ refs.toList, entry.2.id = entry.1 := fun entry member =>
    keyed entry.1 entry.2 ((among _ _).mp member)
  rcases fold_last asked refs.toList ordered stored with ⟨none, zero⟩ | ⟨entry, member, held, greatest, value⟩
  · have zero : lastId asked refs = 0 := zero
    rw [zero, if_neg (by decide)]
    constructor
    · intro impossible
      cases impossible
    · rintro ⟨found, wanted, _⟩
      have refused := none (world.id, world) ((among _ _).mpr found)
      rw [wanted] at refused
      cases refused
  · have value : lastId asked refs = entry.1 := value
    have found := (among entry.1 entry.2).mp member
    rw [value]
    constructor
    · intro chosen
      split at chosen
      · rename_i positive
        rw [found] at chosen
        obtain rfl := Option.some.inj chosen
        have id := stored entry member
        refine ⟨id ▸ found, held, id ▸ positive, ?_⟩
        intro other others there asked
        rw [id]
        exact greatest (other, others) ((among _ _).mpr there) asked
      · cases chosen
    · rintro ⟨there, wanted, positive, most⟩
      have below := greatest (world.id, world) ((among _ _).mpr there) wanted
      have above := most entry.1 entry.2 found held
      obtain same : entry.1 = world.id := by
        dsimp only at below
        omega
      rw [if_pos (by omega), same]
      exact there

theorem initialized {content : Bytes} {m : WorldMgr Scalar}
    (done : mgrInitialize stof zero (some content) = some (some m)) :
    m = afterInit m.head (insertWorlds ∅ (worldsOf stof zero m.head (content.splitOn newline).tail)) := by
  unfold mgrInitialize at done
  dsimp only at done
  cases lines : content.splitOn newline with
  | nil =>
      rw [lines] at done
      cases done
  | cons first rest =>
      simp only [lines] at done
      obtain ⟨head, _, done⟩ := Option.bind_eq_some_iff.mp done
      cases head with
      | none => cases done
      | some head =>
          obtain ⟨refs, loaded, done⟩ := Option.bind_eq_some_iff.mp done
          cases done
          rw [load_lines] at loaded
          split at loaded
          · cases loaded
            rfl
          · cases loaded

/-- Whatever file is read: a world is found under its id, the first of them as
the file has them, and the map of new players is the one with the greatest id
among those marked for it, as the lobby's is among those of its type. -/
theorem worlds_are_found {content : Bytes} {m : WorldMgr Scalar}
    (done : mgrInitialize stof zero (some content) = some (some m)) :
    (∀ id, getResource m id =
      (worldsOf stof zero m.head (content.splitOn newline).tail).find? fun world => world.id = id) ∧
    (∀ world, getInitMap m = some world ↔ Chosen (·.isInit) m.refs world) ∧
    ∀ world, getRolesMap m = some world ↔ Chosen (·.worldType = roles) m.refs world := by
  have read := initialized stof zero done
  have keyed : Keyed m.refs := by
    rw [read]
    exact insert_worlds_keyed _
  have initId : m.initMapId = lastId (·.isInit) m.refs := by
    rw [read]
    rfl
  have rolesId : m.rolesMapId = lastId (·.worldType = roles) m.refs := by
    rw [read]
    rfl
  refine ⟨?_, ?_, ?_⟩
  · intro id
    have refs : m.refs = insertWorlds ∅ (worldsOf stof zero m.head (content.splitOn newline).tail) :=
      congrArg WorldMgr.refs read
    rw [getResource, refs, insert_worlds_get]
  · intro world
    rw [getInitMap, getResource, initId]
    exact last_id_chosen _ _ keyed world
  · intro world
    rw [getRolesMap, getResource, rolesId]
    exact last_id_chosen _ _ keyed world

/-! ### A table as it is edited -/

/-- A world as the table has it; `others` are the cells of columns that no code reads. -/
structure Edited where
  id : Int
  name : Bytes
  isInit : Bool
  worldType : Int
  position : Bytes
  others : Bytes → Bytes

def cellText (world : Edited) (name : Bytes) : Bytes :=
  if name = ascii "id" then decimalInt world.id
  else if name = ascii "name" then world.name
  else if name = ascii "init" then decimalInt (if world.isInit then 1 else 0)
  else if name = ascii "type" then decimalInt world.worldType
  else if name = ascii "playerinitpos" then world.position
  else world.others name

def row (columns : List Bytes) (world : Edited) : List Bytes :=
  columns.map fun column => cellText world (lower column)

def tableText (columns : List Bytes) (worlds : List Edited) : Bytes :=
  (columns :: worlds.map (row columns)).flatMap fun fields => csvLine fields ++ [newline]

/-- What the server makes of it: the texts are in lower case. -/
def readWorld (world : Edited) : Option (ResourceWorld Scalar) :=
  (initPosition stof zero (trim (lower world.position))).map fun position =>
    ⟨world.id, trim (lower world.name), world.isInit, world.worldType, position⟩

def known : List Bytes := [ascii "name", ascii "init", ascii "type", ascii "playerinitpos"]

/-- A table whose lines `ParserLine` can tell apart, with the id in front and
numbers and positions that can be read. -/
structure Written (columns : List Bytes) (worlds : List Edited) : Prop where
  first : (columns.map lower).head? = some (ascii "id")
  needed : ∀ name ∈ known, name ∈ columns.map lower
  outer : trimEnds columns = columns
  header : Regular columns
  rows : ∀ world ∈ worlds, Regular (row columns world)
  headerLine : ∀ column ∈ columns, newline ∉ column
  rowLines : ∀ world ∈ worlds, ∀ cell ∈ row columns world, newline ∉ cell
  ids : ∀ world ∈ worlds, -2147483648 ≤ world.id ∧ world.id ≤ 2147483647
  types : ∀ world ∈ worlds, -2147483648 ≤ world.worldType ∧ world.worldType ≤ 2147483647
  positions : ∀ world ∈ worlds, (readWorld stof zero world).isSome

theorem to_lower_cases (c : UInt8) :
    toLower c = c ∨ 65 ≤ c.toNat ∧ c.toNat ≤ 90 ∧ (toLower c).toNat = c.toNat + 32 := by
  unfold toLower
  split
  · rename_i upper
    simp only [Bool.and_eq_true, decide_eq_true_eq, UInt8.le_iff_toNat_le, UInt8.reduceToNat] at upper
    refine .inr ⟨upper.1, upper.2, ?_⟩
    rw [UInt8.toNat_add]
    show (c.toNat + 32) % 256 = _
    omega
  · exact .inl rfl

theorem lower_iff {c stop : UInt8} (small : stop.toNat < 65) : toLower c = stop ↔ c = stop := by
  rcases to_lower_cases c with same | ⟨low, high, moved⟩
  · rw [same]
  · rw [← UInt8.toNat_inj, ← UInt8.toNat_inj, moved]
    omega

theorem space_small {c : UInt8} (large : 33 ≤ c.toNat) : isSpace c = false := by
  simp only [isSpace, Bool.or_eq_false_iff, Bool.and_eq_false_iff, decide_eq_false_iff_not,
    beq_eq_false_iff_ne, ne_eq, UInt8.le_iff_toNat_le, ← UInt8.toNat_inj, UInt8.reduceToNat]
  omega

theorem lower_space (c : UInt8) : isSpace (toLower c) = isSpace c := by
  rcases to_lower_cases c with same | ⟨low, _, moved⟩
  · rw [same]
  · rw [space_small (show 33 ≤ c.toNat by omega), space_small (show 33 ≤ (toLower c).toNat by omega)]

theorem mem_lower {field : Bytes} {stop : UInt8} (small : stop.toNat < 65) : stop ∈ lower field ↔ stop ∈ field := by
  rw [lower, List.mem_map]
  constructor
  · rintro ⟨c, member, same⟩
    exact (lower_iff small).mp same ▸ member
  · exact fun member => ⟨stop, member, (lower_iff small).mpr rfl⟩

theorem lower_drop_while (field : Bytes) : lower (field.dropWhile isSpace) = (lower field).dropWhile isSpace := by
  rw [lower, lower, List.dropWhile_map]
  congr 2
  funext c
  exact (lower_space c).symm

theorem lower_r_drop_while (field : Bytes) :
    lower (field.rdropWhile isSpace) = (lower field).rdropWhile isSpace := by
  rw [List.rdropWhile, List.rdropWhile, lower, List.map_reverse]
  have front := lower_drop_while field.reverse
  rw [lower, lower, List.map_reverse] at front
  rw [front]
  rfl

theorem lower_written (field : Bytes) : lower (written field) = written (lower field) := by
  have same : comma ∈ lower field ↔ comma ∈ field := mem_lower (by decide)
  by_cases quoted : comma ∈ field
  · rw [written_quoted quoted, written_quoted (same.mpr quoted)]
    simp [lower, toLower, quote]
  · rw [written_plain quoted, written_plain (fun member => quoted (same.mp member))]

theorem lower_csv_line (fields : List Bytes) : lower (csvLine fields) = csvLine (fields.map lower) := by
  induction fields with
  | nil => rfl
  | cons field rest ih =>
      cases rest with
      | nil => rw [csv_line_one, List.map_singleton, csv_line_one, lower_written]
      | cons second rest =>
          rw [csv_line_cons, List.map_cons, List.map_cons, csv_line_cons, ← List.map_cons, ← ih, ← lower_written]
          simp [lower, toLower, comma]

theorem trim_first_lower (fields : List Bytes) : trimFirst (fields.map lower) = (trimFirst fields).map lower := by
  cases fields with
  | nil => rfl
  | cons field rest =>
      have same : comma ∈ lower field ↔ comma ∈ field := mem_lower (by decide)
      rw [List.map_cons, trimFirst, trimFirst, List.map_cons]
      by_cases quoted : comma ∈ field
      · rw [if_pos quoted, if_pos (same.mpr quoted)]
      · rw [if_neg quoted, if_neg (fun member => quoted (same.mp member)), lower_drop_while]

theorem trim_last_lower (fields : List Bytes) : trimLast (fields.map lower) = (trimLast fields).map lower := by
  induction fields with
  | nil => rfl
  | cons field rest ih =>
      cases rest with
      | nil =>
          have same : comma ∈ lower field ↔ comma ∈ field := mem_lower (by decide)
          rw [List.map_singleton, trimLast, trimLast, List.map_singleton]
          by_cases quoted : comma ∈ field
          · rw [if_pos quoted, if_pos (same.mpr quoted)]
          · rw [if_neg quoted, if_neg (fun member => quoted (same.mp member)), lower_r_drop_while]
      | cons second rest =>
          rw [List.map_cons, List.map_cons, trim_last_cons, trim_last_cons, List.map_cons, ← List.map_cons, ih]

theorem trim_ends_lower (fields : List Bytes) : trimEnds (fields.map lower) = (trimEnds fields).map lower := by
  rw [trimEnds, trimEnds, trim_first_lower, trim_last_lower]

theorem regular_lower {fields : List Bytes} (regular : Regular fields) : Regular (fields.map lower) where
  nonempty := by
    intro empty
    exact regular.nonempty (List.map_eq_nil_iff.mp empty)
  unquoted := by
    intro field member
    obtain ⟨text, among, rfl⟩ := List.mem_map.mp member
    rw [mem_lower (by decide)]
    exact regular.unquoted text among
  plain := by
    intro field member
    rw [← List.map_dropLast] at member
    obtain ⟨text, among, rfl⟩ := List.mem_map.mp member
    rw [mem_lower (by decide)]
    exact regular.plain text among
  solid := by
    intro field member
    rw [trim_ends_lower] at member
    obtain ⟨text, among, rfl⟩ := List.mem_map.mp member
    intro empty
    exact regular.solid text among (List.map_eq_nil_iff.mp empty)
  short := by
    intro field member
    obtain ⟨text, among, rfl⟩ := List.mem_map.mp member
    rw [lower, List.length_map]
    exact regular.short text among

theorem trim_solid_text {text : Bytes} (solid : ∀ c ∈ text, isSpace c = false) : trim text = text := by
  have front : text.dropWhile isSpace = text := by
    rw [List.dropWhile_eq_self_iff]
    intro filled
    simp [solid _ (List.getElem_mem filled)]
  rw [trim, front, List.rdropWhile_eq_self_iff]
  intro filled
  simp [solid _ (List.getLast_mem filled)]

/-! ### The lines of the text -/

theorem csv_line_newline {fields : List Bytes} (lines : ∀ field ∈ fields, newline ∉ field) :
    newline ∉ csvLine fields := by
  have plain (field : Bytes) (clean : newline ∉ field) : newline ∉ written field := by
    unfold written
    split
    · simp only [List.cons_append, List.mem_cons, List.mem_append, List.not_mem_nil, or_false, not_or]
      exact ⟨by decide, clean, by decide⟩
    · exact clean
  induction fields with
  | nil => simp [csvLine]
  | cons field rest ih =>
      have clean := plain field (lines field List.mem_cons_self)
      have later := ih (fun other member => lines other (List.mem_cons_of_mem _ member))
      cases rest with
      | nil => rwa [csv_line_one]
      | cons second rest =>
          rw [csv_line_cons, List.mem_append, List.mem_cons]
          rintro (early | comma_ | late)
          · exact clean early
          · cases comma_
          · exact later late

theorem split_lines (table : List (List Bytes)) (lines : ∀ fields ∈ table, ∀ field ∈ fields, newline ∉ field) :
    (table.flatMap fun fields => csvLine fields ++ [newline]).splitOn newline = table.map csvLine ++ [[]] := by
  induction table with
  | nil => rfl
  | cons fields rest ih =>
      have clean := csv_line_newline (lines fields List.mem_cons_self)
      have later := ih (fun other member => lines other (List.mem_cons_of_mem _ member))
      rw [List.flatMap_cons, List.append_assoc, List.singleton_append, List.splitOn_append_cons_of_beq _ _ (beq_self_eq_true _),
        List.splitOn_eq_singleton clean, later]
      rfl

theorem head_names (names : List Bytes) (name : Bytes) (member : name ∈ names) :
    ∃ index, (names.zipIdx.foldl (fun (head : Head) one => head.insertIfNew one.1 one.2) ∅)[name]? = some index ∧
      names[index]? = some name := by
  rw [get_insert_all Prod.fst Prod.snd]
  obtain ⟨index, inside, here⟩ := List.mem_iff_getElem.mp member
  have among : (name, index) ∈ names.zipIdx := by
    rw [List.mk_mem_zipIdx_iff_getElem?, List.getElem?_eq_getElem inside, here]
  have some : (names.zipIdx.find? fun one => one.1 = name).isSome := by
    rw [List.find?_isSome]
    exact ⟨_, among, by simp⟩
  obtain ⟨⟨first, position⟩, found⟩ := Option.isSome_iff_exists.mp some
  have same : first = name := by simpa using List.find?_some found
  have at_ := List.mk_mem_zipIdx_iff_getElem?.mp (List.mem_of_find?_eq_some found)
  refine ⟨position, ?_, same ▸ at_⟩
  rw [found]
  simp

theorem head_size (names : List Bytes) :
    (names.zipIdx.foldl (fun (head : Head) one => head.insertIfNew one.1 one.2) ∅).size ≤ names.length := by
  have grows (items : List (Bytes × Nat)) (head : Head) :
      (items.foldl (fun (head : Head) one => head.insertIfNew one.1 one.2) head).size ≤ head.size + items.length := by
    induction items generalizing head with
    | nil => simp
    | cons item rest ih =>
        have one : (head.insertIfNew item.1 item.2).size ≤ head.size + 1 := Std.ExtTreeMap.size_insertIfNew_le
        have later := ih (head.insertIfNew item.1 item.2)
        rw [List.foldl_cons, List.length_cons]
        omega
  have all := grows names.zipIdx ∅
  simpa using all

def propsOf (columns : List Bytes) (world : Edited) : List Bytes :=
  columns.map fun column => trim (lower (cellText world (lower column)))

def headOf (columns : List Bytes) : Head :=
  (columns.map lower).zipIdx.foldl (fun (head : Head) one => head.insertIfNew one.1 one.2) ∅

theorem props_of_row (columns : List Bytes) (world : Edited) :
    ((row columns world).map lower).map trim = propsOf columns world := by
  rw [row, List.map_map, List.map_map]
  rfl

theorem column_read {columns : List Bytes} {name : Bytes} (member : name ∈ columns.map lower) (world : Edited) :
    ∃ index, (headOf columns)[name]? = some index ∧
      (propsOf columns world)[index]? = some (trim (lower (cellText world name))) := by
  obtain ⟨index, found, there⟩ := head_names (columns.map lower) name member
  refine ⟨index, found, ?_⟩
  rw [List.getElem?_map, Option.map_eq_some_iff] at there
  obtain ⟨column, here, same⟩ := there
  rw [propsOf, List.getElem?_map, here, ← same]
  rfl

theorem get_string_read {columns : List Bytes} {name : Bytes} (member : name ∈ columns.map lower) (world : Edited) :
    getString (headOf columns) (propsOf columns world) name = some (trim (lower (cellText world name))) := by
  obtain ⟨index, found, read⟩ := column_read member world
  simp only [getString, found, read]

theorem decimal_lower (number : Int) : trim (lower (decimalInt number)) = decimalInt number := by
  have digits (value : Nat) : ∀ c ∈ RedisCommands.decimal value, toLower c = c ∧ isSpace c = false := by
    intro c member
    have digit := decimal_digits value c member
    have range := digit_range digit
    refine ⟨?_, (digit_solid digit).1⟩
    rcases to_lower_cases c with same | ⟨low, _⟩
    · exact same
    · omega
  have all : ∀ c ∈ decimalInt number, toLower c = c ∧ isSpace c = false := by
    cases number with
    | ofNat value => exact digits value
    | negSucc value =>
        intro c member
        rcases List.mem_cons.mp member with rfl | later
        · decide
        · exact digits _ c later
  have same : lower (decimalInt number) = decimalInt number := by
    rw [lower, List.map_congr_left fun c member => (all c member).1]
    exact List.map_id' _
  rw [same, trim_solid_text fun c member => (all c member).2]

theorem get_int_read {columns : List Bytes} {name : Bytes} (member : name ∈ columns.map lower) {world : Edited}
    {number : Int} (cell : cellText world name = decimalInt number) (low : -2147483648 ≤ number)
    (high : number ≤ 2147483647) :
    getInt (headOf columns) (propsOf columns world) name = some number := by
  obtain ⟨index, found, read⟩ := column_read member world
  simp only [getInt, found, read, cell, decimal_lower, Option.bind_some, stoi_decimal_int number low high]

theorem get_bool_read {columns : List Bytes} {name : Bytes} (member : name ∈ columns.map lower) {world : Edited}
    {flag : Bool} (cell : cellText world name = decimalInt (if flag then 1 else 0)) :
    getBool (headOf columns) (propsOf columns world) name = some flag := by
  obtain ⟨index, found, read⟩ := column_read member world
  have number : stoi (decimalInt (if flag then 1 else 0)) = some (if flag then 1 else 0) :=
    stoi_decimal_int _ (by cases flag <;> decide) (by cases flag <;> decide)
  simp only [getBool, found, read, cell, decimal_lower, Option.bind_some, number]
  cases flag <;> rfl

section Table

variable {stof zero} {columns : List Bytes} {worlds : List Edited}

theorem gen_struct_read (written : Written stof zero columns worlds) {world : Edited} (member : world ∈ worlds) :
    genStruct stof zero (headOf columns) (propsOf columns world) world.id = readWorld stof zero world := by
  have name := get_string_read (written.needed (ascii "name") (by decide)) world
  have init : getBool (headOf columns) (propsOf columns world) (ascii "init") = some world.isInit :=
    get_bool_read (written.needed (ascii "init") (by decide)) rfl
  have type : getInt (headOf columns) (propsOf columns world) (ascii "type") = some world.worldType :=
    get_int_read (written.needed (ascii "type") (by decide)) rfl (written.types world member).1
      (written.types world member).2
  have position := get_string_read (written.needed (ascii "playerinitpos") (by decide)) world
  have nameCell : cellText world (ascii "name") = world.name := rfl
  have positionCell : cellText world (ascii "playerinitpos") = world.position := rfl
  rw [nameCell] at name
  rw [positionCell] at position
  simp only [genStruct, name, init, type, position, Option.bind_eq_bind, Option.bind_some]
  rw [readWorld, Option.map_eq_bind]
  rfl

theorem row_loads (written : Written stof zero columns worlds) {world : Edited} (member : world ∈ worlds) :
    loadWorld stof zero (headOf columns) (lower (csvLine (row columns world))) =
      (readWorld stof zero world).map some := by
  have size : ¬ ((row columns world).map lower).length < (headOf columns).size := by
    have small := head_size (columns.map lower)
    rw [List.length_map] at small
    rw [List.length_map, row, List.length_map]
    exact Nat.not_lt.mpr small
  have props : loadProperty (headOf columns).size (trimEnds ((row columns world).map lower)) =
      some (propsOf columns world) := by
    rw [load_property_trim_ends, loadProperty, if_neg size, props_of_row]
  have id : (propsOf columns world)[0]? = some (decimalInt world.id) := by
    have first := written.first
    cases names : columns with
    | nil =>
        rw [names] at first
        cases first
    | cons column rest =>
        rw [names] at first
        have same : lower column = ascii "id" := Option.some.inj first
        rw [propsOf, List.map_cons, same]
        exact congrArg some (decimal_lower world.id)
  have number := stoi_decimal_int world.id (written.ids world member).1 (written.ids world member).2
  have struct := gen_struct_read written member
  rw [lower_csv_line]
  simp only [loadWorld, property_list_regular (regular_lower (written.rows world member)), props,
    Option.bind_eq_bind, Option.bind_some, id, number, struct]
  rw [Option.map_eq_bind]
  rfl

theorem row_line {world : Edited} (regular : Regular (row columns world)) : csvLine (row columns world) ≠ [] := by
  intro empty
  have read := property_list_regular regular
  rw [empty] at read
  cases read

theorem find_read (list : List Edited) (read : ∀ world ∈ list, (readWorld stof zero world).isSome) (id : Int) :
    ((list.filterMap (readWorld stof zero)).find? fun world => world.id = id) =
      (list.find? fun world => world.id = id).bind (readWorld stof zero) := by
  induction list with
  | nil => rfl
  | cons world rest ih =>
      have later := ih fun other member => read other (List.mem_cons_of_mem _ member)
      obtain ⟨value, here⟩ := Option.isSome_iff_exists.mp (read world List.mem_cons_self)
      have same : value.id = world.id := by
        obtain ⟨_, _, rfl⟩ := Option.map_eq_some_iff.mp here
        rfl
      rw [List.filterMap_cons, here, List.find?_cons, List.find?_cons, same, later]
      by_cases found : world.id = id <;> simp [found, here]

theorem table_loads (written : Written stof zero columns worlds) :
    mgrInitialize stof zero (some (tableText columns worlds)) =
      some (some (afterInit (headOf columns) (insertWorlds ∅ (worlds.filterMap (readWorld stof zero))))) := by
  have lines : (tableText columns worlds).splitOn newline =
      csvLine columns :: (worlds.map fun world => csvLine (row columns world)) ++ [[]] := by
    rw [tableText, split_lines, List.map_cons, List.map_map]
    · rfl
    · intro fields member
      rcases List.mem_cons.mp member with rfl | among
      · exact written.headerLine
      · obtain ⟨world, inside, rfl⟩ := List.mem_map.mp among
        exact written.rowLines world inside
  have header : parserHead (lower (csvLine columns)) = some (some (headOf columns)) := by
    have names : trimEnds (columns.map lower) = columns.map lower := by
      rw [trim_ends_lower, written.outer]
    have read := property_list_regular (regular_lower written.header)
    have solid : csvLine (columns.map lower) ≠ [] := by
      intro empty
      rw [empty] at read
      cases read
    rw [lower_csv_line, parserHead, if_neg solid, read, names]
    rfl
  have loaded (list : List Edited) (inside : ∀ world ∈ list, world ∈ worlds) :
      (∀ line ∈ (list.map fun world => csvLine (row columns world)) ++ [[]], line ≠ [] →
        (loadWorld stof zero (headOf columns) (lower line)).isSome) ∧
      worldsOf stof zero (headOf columns) ((list.map fun world => csvLine (row columns world)) ++ [[]]) =
        list.filterMap (readWorld stof zero) := by
    constructor
    · intro line member solid
      rcases List.mem_append.mp member with among | last
      · obtain ⟨world, here, rfl⟩ := List.mem_map.mp among
        rw [row_loads written (inside world here), Option.isSome_map]
        exact written.positions world (inside world here)
      · exact absurd (List.mem_singleton.mp last) solid
    · rw [worldsOf, List.filterMap_append, List.filterMap_map]
      have none : List.filterMap (fun line => if line = [] then none else
          (loadWorld stof zero (headOf columns) (lower line)).join) [([] : Bytes)] = [] := rfl
      rw [none, List.append_nil]
      apply List.filterMap_congr
      intro world here
      have solid := row_line (written.rows world (inside world here))
      simp only [Function.comp_apply, if_neg solid, row_loads written (inside world here)]
      cases readWorld stof zero world <;> rfl
  obtain ⟨defined, worlds_⟩ := loaded worlds fun _ member => member
  unfold mgrInitialize
  simp only [lines, List.cons_append, header, Option.bind_eq_bind, Option.bind_some, load_lines]
  rw [if_pos defined, worlds_]
  rfl

/-- A table as it is edited is read back: every world under its id with all the
code reads of it, the first one where an id is there twice. -/
theorem tables_are_read (written : Written stof zero columns worlds) :
    ∃ m, mgrInitialize stof zero (some (tableText columns worlds)) = some (some m) ∧
      ∀ id, getResource m id = (worlds.find? fun world => world.id = id).bind (readWorld stof zero) := by
  refine ⟨_, table_loads written, ?_⟩
  intro id
  show (insertWorlds ∅ _)[id]? = _
  rw [insert_worlds_get]
  exact find_read worlds written.positions id

end Table

/-- Two columns less than the file has. -/
def sampleColumns : List Bytes :=
  [ascii "Id", ascii "Name", ascii "Init", ascii "Type", ascii "ResName", ascii "PlayerInitPos"]

def sampleWorlds : List Edited :=
  [⟨2, ascii "roles", false, 2, ascii "-1", fun _ => ascii "Roles"⟩,
    ⟨3, ascii "jiangxia", true, 3, ascii "369.78,29.35,493.20", fun _ => ascii "jiangxia"⟩]

/-- Scalars are their texts here. -/
theorem sample_written : Written some (ascii "0") sampleColumns sampleWorlds where
  first := rfl
  needed := by decide
  outer := by decide
  header := ⟨by decide, by decide, by decide, by decide, by decide⟩
  rows := by
    intro world member
    simp only [sampleWorlds, List.mem_cons, List.not_mem_nil, or_false] at member
    rcases member with rfl | rfl
    · exact ⟨by decide, by decide, by decide, by decide, by decide⟩
    · exact ⟨by decide, by decide, by decide, by decide, by decide⟩
  headerLine := by decide
  rowLines := by
    intro world member
    simp only [sampleWorlds, List.mem_cons, List.not_mem_nil, or_false] at member
    rcases member with rfl | rfl <;> decide
  ids := by
    intro world member
    simp only [sampleWorlds, List.mem_cons, List.not_mem_nil, or_false] at member
    rcases member with rfl | rfl <;> decide
  types := by
    intro world member
    simp only [sampleWorlds, List.mem_cons, List.not_mem_nil, or_false] at member
    rcases member with rfl | rfl <;> decide
  positions := by
    intro world member
    simp only [sampleWorlds, List.mem_cons, List.not_mem_nil, or_false] at member
    rcases member with rfl | rfl <;> decide

theorem tables_are_read_sample : ∃ m,
    mgrInitialize some (ascii "0") (some (tableText sampleColumns sampleWorlds)) = some (some m) ∧
      (getResource m 3).map (·.initPosition) =
        some ⟨ascii "369.78", ascii "29.35", ascii "493.20"⟩ := by
  obtain ⟨m, read, found⟩ := tables_are_read sample_written
  refine ⟨m, read, ?_⟩
  rw [found]
  decide

theorem worlds_are_found_sample : ∃ m,
    mgrInitialize some (ascii "0") (some (tableText sampleColumns sampleWorlds)) = some (some m) ∧
      (∀ world, getInitMap m = some world ↔ Chosen (·.isInit) m.refs world) ∧
      ∀ world, getRolesMap m = some world ↔ Chosen (·.worldType = roles) m.refs world :=
  have loaded := table_loads sample_written
  ⟨_, loaded, (worlds_are_found some (ascii "0") loaded).2⟩

end GameBook.WorldTables
