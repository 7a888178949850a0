import GameBook.WorldProxy

/-!
`PlayerComponentLastMap`: the last public world and the last dungeon of a
player, with positions, and how the component is read from and written to
`Proto::Player`. Positions and the resource table are parameters. Following a
null pointer is the result `none`.
-/

namespace GameBook

open SocketObject
open WorldProxy (WorldType)

namespace LastMap

structure LastWorld (Position : Type) where
  worldId : Int
  worldSn : UInt64
  position : Position
  deriving DecidableEq, Repr

structure PlayerBase where
  gender : Int
  level : Int
  deriving DecidableEq, Repr

structure PlayerMisc (Position : Type) where
  lastWorld : LastWorld Position
  lastDungeon : LastWorld Position
  onlineVersion : Int
  deriving DecidableEq, Repr

/-- `Proto::Player`; absent submessages read as zeros. -/
structure PlayerProto (Position : Type) where
  sn : UInt64
  name : Str
  base : PlayerBase
  misc : PlayerMisc Position
  deriving DecidableEq, Repr

structure ResourceWorld (Position : Type) where
  worldType : WorldType
  initPosition : Position

structure Resources (Position : Type) where
  getResource : Int → Option (ResourceWorld Position)
  initMapId : Int

end LastMap

structure LastMap (Position : Type) where
  publicMap : LastMap.LastWorld Position
  dungeon : Option (LastMap.LastWorld Position)
  curWorldId : Int
  deriving DecidableEq, Repr

namespace LastMap

variable {Position : Type}

def getInitMap (resources : Resources Position) : Option (ResourceWorld Position) :=
  if resources.initMapId > 0 then resources.getResource resources.initMapId else none

def parsePublic (resources : Resources Position) (proto : PlayerProto Position) :
    Option (LastWorld Position) :=
  match resources.getResource proto.misc.lastWorld.worldId with
  | some _ => some proto.misc.lastWorld
  | none => (getInitMap resources).map fun map => ⟨resources.initMapId, 0, map.initPosition⟩

def parseDungeon (resources : Resources Position) (proto : PlayerProto Position) :
    Option (LastWorld Position) :=
  (resources.getResource proto.misc.lastDungeon.worldId).map fun _ => proto.misc.lastDungeon

/-- `Awake`, on a component whose slots the pool has emptied; `curWorldId` is
what it still holds. -/
def awake (resources : Resources Position) (curWorldId : Int) (proto : PlayerProto Position) :
    Option (LastMap Position) :=
  (parsePublic resources proto).map fun publicMap =>
    ⟨publicMap, parseDungeon resources proto, curWorldId⟩

def serializeToProto (m : LastMap Position) (proto : PlayerProto Position) : PlayerProto Position :=
  { proto with misc := { proto.misc with
      lastWorld := m.publicMap
      lastDungeon := m.dungeon.getD proto.misc.lastDungeon } }

def getCur (m : LastMap Position) : Option (LastWorld Position) :=
  if m.publicMap.worldId = m.curWorldId then some m.publicMap else m.dungeon

def setCurPosition (m : LastMap Position) (position : Position) : LastMap Position :=
  if m.publicMap.worldId = m.curWorldId then
    { m with publicMap := { m.publicMap with position := position } }
  else { m with dungeon := m.dungeon.map fun last => { last with position := position } }

def enterPublic (m : LastMap Position) (worldId : Int) (worldSn : UInt64) (initPosition : Position) :
    LastMap Position :=
  if m.publicMap.worldId = worldId then
    { m with publicMap := { m.publicMap with worldId := worldId, worldSn := worldSn } }
  else { m with publicMap := ⟨worldId, worldSn, initPosition⟩ }

def enterDungeon (m : LastMap Position) (worldId : Int) (worldSn : UInt64) (position : Position) :
    LastMap Position :=
  match m.dungeon with
  | none => { m with dungeon := some ⟨worldId, worldSn, position⟩ }
  | some last =>
      if last.worldSn ≠ worldSn then { m with dungeon := some ⟨worldId, worldSn, position⟩ } else m

def enterWorld (resources : Resources Position) (m : LastMap Position) (worldId : Int)
    (worldSn : UInt64) : Option (LastMap Position) :=
  (resources.getResource worldId).map fun world =>
    let entered := { m with curWorldId := worldId }
    if world.worldType = .publicWorld then enterPublic entered worldId worldSn world.initPosition
    else enterDungeon entered worldId worldSn world.initPosition

/-! ### The current slot -/

theorem enter_public_cur (m : LastMap Position) (worldSn : UInt64) (initPosition : Position) :
    (getCur (enterPublic m m.curWorldId worldSn initPosition)).isSome := by
  unfold enterPublic
  by_cases same : m.publicMap.worldId = m.curWorldId
  · simp [getCur, same]
  · simp [getCur, same]

theorem enter_dungeon_held (m : LastMap Position) (worldId : Int) (worldSn : UInt64)
    (position : Position) : (enterDungeon m worldId worldSn position).dungeon.isSome := by
  unfold enterDungeon
  cases held : m.dungeon with
  | none => rfl
  | some last =>
      by_cases other : last.worldSn ≠ worldSn
      · simp [other]
      · simp [other, held]

theorem cur_of_dungeon {m : LastMap Position} (held : m.dungeon.isSome) : (getCur m).isSome := by
  unfold getCur
  split
  · rfl
  · exact held

theorem enter_world_cur {resources : Resources Position} {m entered : LastMap Position}
    {worldId : Int} {worldSn : UInt64} (went : enterWorld resources m worldId worldSn = some entered) :
    (getCur entered).isSome := by
  unfold enterWorld at went
  obtain ⟨world, -, rfl⟩ := Option.map_eq_some_iff.mp went
  by_cases kind : world.worldType = .publicWorld
  · simp only [kind, if_true]
    exact enter_public_cur { m with curWorldId := worldId } worldSn world.initPosition
  · simp only [kind, if_false]
    exact cur_of_dungeon (enter_dungeon_held _ _ _ _)

theorem set_cur_position_cur {m : LastMap Position} (position : Position)
    (held : (getCur m).isSome) : (getCur (setCurPosition m position)).isSome := by
  unfold setCurPosition
  by_cases here : m.publicMap.worldId = m.curWorldId
  · simp [getCur, here]
  · simp only [getCur, here, if_false] at held ⊢
    simpa using held

abbrev Entered (Position : Type) := { m : LastMap Position // (getCur m).isSome }

/-- `AddComponent<PlayerComponentLastMap>`, and `EnterWorld` on it. -/
def enter (resources : Resources Position) (proto : PlayerProto Position) (worldId : Int)
    (worldSn : UInt64) : Option (Entered Position) :=
  (awake resources 0 proto).bind fun m =>
    (enterWorld resources m worldId worldSn).attach.map fun entered =>
      ⟨entered.1, enter_world_cur entered.2⟩

theorem enter_some {resources : Resources Position} {proto : PlayerProto Position} {worldId : Int}
    {worldSn : UInt64} {m : Entered Position} (went : enter resources proto worldId worldSn = some m) :
    ∃ parsed, awake resources 0 proto = some parsed ∧
      enterWorld resources parsed worldId worldSn = some m.1 := by
  unfold enter at went
  obtain ⟨parsed, woke, mapped⟩ := Option.bind_eq_some_iff.mp went
  obtain ⟨entered, -, rfl⟩ := Option.map_eq_some_iff.mp mapped
  exact ⟨parsed, woke, entered.2⟩

def curPosition (m : Entered Position) : Position := ((getCur m.1).get m.2).position

def setPosition (m : Entered Position) (position : Position) : Entered Position :=
  ⟨setCurPosition m.1 position, set_cur_position_cur position m.2⟩

/-! ### The slots over a round trip -/

def isPublic (resources : Resources Position) (worldId : Int) : Bool :=
  (resources.getResource worldId).any fun world => world.worldType = .publicWorld

/-- The slot that a world of the other kind leaves alone: the dungeon for a
public world, else the public map. -/
def kept (toPublic : Bool) (m : LastMap Position) : Option (LastWorld Position) :=
  if toPublic then m.dungeon else some m.publicMap

def carried (resources : Resources Position) (toPublic : Bool) (proto : PlayerProto Position) :
    Option (LastWorld Position) :=
  if toPublic then parseDungeon resources proto else parsePublic resources proto

/-- The slots of a player name worlds that there are, and the proto of a player
without a dungeon names none. -/
structure Sound (resources : Resources Position) (m : LastMap Position)
    (proto : PlayerProto Position) : Prop where
  publicKnown : (resources.getResource m.publicMap.worldId).isSome
  dungeonKnown : ∀ last, m.dungeon = some last → (resources.getResource last.worldId).isSome
  noDungeon : m.dungeon = none → resources.getResource proto.misc.lastDungeon.worldId = none

theorem parse_public_known {resources : Resources Position} {proto : PlayerProto Position}
    {publicMap : LastWorld Position} (parsed : parsePublic resources proto = some publicMap) :
    (resources.getResource publicMap.worldId).isSome := by
  unfold parsePublic at parsed
  cases named : resources.getResource proto.misc.lastWorld.worldId with
  | some world =>
      rw [named] at parsed
      cases parsed
      rw [named]
      rfl
  | none =>
      rw [named] at parsed
      obtain ⟨map, init, rfl⟩ := Option.map_eq_some_iff.mp parsed
      unfold getInitMap at init
      split at init
      · rw [init]
        rfl
      · cases init

theorem awake_sound {resources : Resources Position} {curWorldId : Int}
    {proto : PlayerProto Position} {m : LastMap Position}
    (woke : awake resources curWorldId proto = some m) : Sound resources m proto := by
  obtain ⟨publicMap, parsed, rfl⟩ := Option.map_eq_some_iff.mp woke
  refine ⟨parse_public_known parsed, ?_, ?_⟩
  · intro last held
    obtain ⟨world, found, rfl⟩ := Option.map_eq_some_iff.mp held
    rw [found]
    rfl
  · intro absent
    exact Option.map_eq_none_iff.mp absent

theorem enter_world_sound {resources : Resources Position} {m entered : LastMap Position}
    {proto : PlayerProto Position} {worldId : Int} {worldSn : UInt64}
    (went : enterWorld resources m worldId worldSn = some entered) (sound : Sound resources m proto) :
    Sound resources entered proto := by
  obtain ⟨world, found, rfl⟩ := Option.map_eq_some_iff.mp went
  have here : (resources.getResource worldId).isSome := by
    rw [found]
    rfl
  dsimp only
  by_cases toPublic : world.worldType = .publicWorld
  · rw [if_pos toPublic]
    unfold enterPublic
    by_cases same : m.publicMap.worldId = worldId
    · simp only [same, if_true]
      exact ⟨here, sound.dungeonKnown, sound.noDungeon⟩
    · simp only [same, if_false]
      exact ⟨here, sound.dungeonKnown, sound.noDungeon⟩
  · rw [if_neg toPublic]
    unfold enterDungeon
    cases held : m.dungeon with
    | none =>
        refine ⟨sound.publicKnown, ?_, nofun⟩
        rintro last ⟨⟩
        exact here
    | some last =>
        by_cases other : last.worldSn ≠ worldSn
        · simp only [other, ne_eq, not_false_eq_true, if_true]
          refine ⟨sound.publicKnown, ?_, nofun⟩
          rintro fresh ⟨⟩
          exact here
        · simp only [other, if_false]
          refine ⟨sound.publicKnown, ?_, ?_⟩
          · intro same there
            exact sound.dungeonKnown same (held.trans there)
          · intro absent
            cases absent

theorem enter_sound {resources : Resources Position} {proto : PlayerProto Position} {worldId : Int}
    {worldSn : UInt64} {m : Entered Position} (went : enter resources proto worldId worldSn = some m) :
    Sound resources m.1 proto := by
  obtain ⟨parsed, woke, entered⟩ := enter_some went
  exact enter_world_sound entered (awake_sound woke)

theorem set_position_sound {resources : Resources Position} {m : Entered Position}
    {proto : PlayerProto Position} (position : Position) (sound : Sound resources m.1 proto) :
    Sound resources (setPosition m position).1 proto := by
  unfold setPosition setCurPosition
  by_cases onPublic : m.1.publicMap.worldId = m.1.curWorldId
  · simp only [onPublic, if_true]
    exact ⟨onPublic ▸ sound.publicKnown, sound.dungeonKnown, sound.noDungeon⟩
  · simp only [onPublic, if_false]
    refine ⟨sound.publicKnown, ?_, ?_⟩
    · intro last held
      obtain ⟨old, there, rfl⟩ := Option.map_eq_some_iff.mp held
      exact sound.dungeonKnown old there
    · intro absent
      exact sound.noDungeon (Option.map_eq_none_iff.mp absent)

theorem carried_serialize {resources : Resources Position} {m : LastMap Position}
    {proto : PlayerProto Position} (sound : Sound resources m proto) (toPublic : Bool) :
    carried resources toPublic (serializeToProto m proto) = kept toPublic m := by
  unfold carried kept
  cases toPublic with
  | true =>
      simp only [if_true]
      unfold parseDungeon serializeToProto
      cases held : m.dungeon with
      | none =>
          rw [Option.getD_none, sound.noDungeon held]
          rfl
      | some last =>
          obtain ⟨world, found⟩ := Option.isSome_iff_exists.mp (sound.dungeonKnown last held)
          rw [Option.getD_some, found]
          rfl
  | false =>
      simp only [Bool.false_eq_true, if_false]
      unfold parsePublic serializeToProto
      obtain ⟨world, found⟩ := Option.isSome_iff_exists.mp sound.publicKnown
      simp only [found]

theorem enter_kept {resources : Resources Position} {proto : PlayerProto Position} {worldId : Int}
    {worldSn : UInt64} {m : Entered Position} (went : enter resources proto worldId worldSn = some m) :
    kept (isPublic resources worldId) m.1 = carried resources (isPublic resources worldId) proto := by
  obtain ⟨parsed, woke, entered⟩ := enter_some went
  obtain ⟨publicMap, read, rfl⟩ := Option.map_eq_some_iff.mp woke
  obtain ⟨world, found, same⟩ := Option.map_eq_some_iff.mp entered
  dsimp only at same
  rw [← same]
  unfold kept carried isPublic
  by_cases toPublic : world.worldType = .publicWorld
  · simp only [found, toPublic, Option.any_some, decide_true, if_true]
    unfold enterPublic
    split
    · rfl
    · rfl
  · simp only [found, toPublic, Option.any_some, decide_false, Bool.false_eq_true, if_false]
    unfold enterDungeon
    rw [read]
    split
    · rfl
    · split
      · rfl
      · rfl

end LastMap

end GameBook
