import GameBook.LastMap
import GameBook.LabelledRun

/-!
`PlayerComponentLastMap` over any sequence of worlds, of movements inside them
and of saves and loads. The public slot never names a dungeon, and the dungeon
slot names the world of its SN, so the comparison in `GetCur` finds the slot
that was entered last.
-/

namespace GameBook.LastMapCalls

open LastMap LabelledRun
open WorldProxy (WorldType)

structure Loaded (Position : Type) where
  map : LastMap Position
  proto : PlayerProto Position
  deriving DecidableEq, Repr

/-- `reload` writes the player to a proto and loads a component from it whose
`_curWorldId` is what the pool left there. -/
inductive Call (Position : Type) where
  | enterWorld (worldId : Int) (worldSn : UInt64)
  | move (position : Position)
  | reload (curWorldId : Int)
  deriving DecidableEq, Repr

section Calls

variable {Position : Type} (resources : Resources Position)

inductive Step : Loaded Position → Call Position → Loaded Position → Prop where
  | entered {s worldId worldSn after} (went : enterWorld resources s.map worldId worldSn = some after) :
      Step s (.enterWorld worldId worldSn) ⟨after, s.proto⟩
  | moved {s position} (placed : (getCur s.map).isSome) :
      Step s (.move position) ⟨setCurPosition s.map position, s.proto⟩
  | reloaded {s curWorldId parsed}
      (woke : awake resources curWorldId (serializeToProto s.map s.proto) = some parsed) :
      Step s (.reload curWorldId) ⟨parsed, serializeToProto s.map s.proto⟩

/-- The worlds that are entered are configured public worlds or dungeons, and
the SN of a world gives its id. -/
def Named (worldOf : UInt64 → Int) : Call Position → Prop
  | .enterWorld worldId worldSn => worldId = worldOf worldSn ∧ ∃ world,
      resources.getResource worldId = some world ∧
        (world.worldType = .publicWorld ∨ world.worldType = .dungeon)
  | _ => True

/-! ### What the calls are for -/

def slot (toPublic : Bool) (m : LastMap Position) : Option (LastWorld Position) :=
  if toPublic then some m.publicMap else m.dungeon

/-- A public world is known by its id, a dungeon by its SN. -/
def refersTo (toPublic : Bool) (worldId : Int) (worldSn : UInt64) (last : LastWorld Position) : Bool :=
  if toPublic then last.worldId = worldId else last.worldSn = worldSn

/-- The position that a player gets in a world: the one of its slot if that is
about this world. -/
def remembered (own : Option (LastWorld Position)) (toPublic : Bool) (worldId : Int) (worldSn : UInt64)
    (initPosition : Position) : Position :=
  match own with
  | none => initPosition
  | some last => if refersTo toPublic worldId worldSn last then last.position else initPosition

structure Arrives (before after : LastMap Position) (worldId : Int) (worldSn : UInt64) : Prop where
  current : ∃ world, resources.getResource worldId = some world ∧
    getCur after = some ⟨worldId, worldSn, remembered (slot (isPublic resources worldId) before)
      (isPublic resources worldId) worldId worldSn world.initPosition⟩
  own : getCur after = slot (isPublic resources worldId) after
  other : kept (isPublic resources worldId) after = kept (isPublic resources worldId) before

def Saved (s : Loaded Position) : Prop :=
  ∀ curWorldId, ∃ parsed, awake resources curWorldId (serializeToProto s.map s.proto) = some parsed ∧
    parsed.publicMap = s.map.publicMap ∧ parsed.dungeon = s.map.dungeon

def Law (before : Loaded Position) (call : Call Position) (after : Loaded Position) : Prop :=
  Saved resources after ∧
    match call with
    | .enterWorld worldId worldSn => Arrives resources before.map after.map worldId worldSn
    | .move position =>
        getCur after.map = (getCur before.map).map fun last => { last with position := position }
    | .reload _ => after.map.publicMap = before.map.publicMap ∧ after.map.dungeon = before.map.dungeon

/-! ### The invariant -/

structure Settled (worldOf : UInt64 → Int) (s : Loaded Position) : Prop where
  sound : Sound resources s.map s.proto
  onPublic : isPublic resources s.map.publicMap.worldId = true
  named : ∀ last, s.map.dungeon = some last → last.worldId = worldOf last.worldSn

variable {resources}

theorem saved_of_sound {s : Loaded Position} (sound : Sound resources s.map s.proto) : Saved resources s := by
  intro curWorldId
  have publicMap := carried_serialize sound false
  have dungeon := carried_serialize sound true
  simp only [carried, kept, if_true, Bool.false_eq_true, if_false] at publicMap dungeon
  unfold awake
  rw [publicMap, dungeon]
  exact ⟨_, rfl, rfl, rfl⟩

theorem parse_public_kind {proto : PlayerProto Position}
    (lastWorld : ∀ world, resources.getResource proto.misc.lastWorld.worldId = some world →
      world.worldType = .publicWorld)
    (initMap : resources.getResource proto.misc.lastWorld.worldId = none →
      ∃ map, getInitMap resources = some map ∧ map.worldType = .publicWorld) :
    ∃ publicMap, parsePublic resources proto = some publicMap ∧
      isPublic resources publicMap.worldId = true := by
  unfold parsePublic
  cases named : resources.getResource proto.misc.lastWorld.worldId with
  | some world => exact ⟨_, rfl, by simp [isPublic, named, lastWorld world named]⟩
  | none =>
      obtain ⟨map, init, kind⟩ := initMap named
      have found : resources.getResource resources.initMapId = some map := by
        unfold getInitMap at init
        split at init
        · exact init
        · cases init
      rw [init]
      exact ⟨_, rfl, by simp [isPublic, found, kind]⟩

theorem enter_public_eq (m : LastMap Position) (worldId : Int) (worldSn : UInt64) (initPosition : Position) :
    enterPublic m worldId worldSn initPosition = { m with publicMap := ⟨worldId, worldSn,
      remembered (some m.publicMap) true worldId worldSn initPosition⟩ } := by
  unfold enterPublic
  by_cases same : m.publicMap.worldId = worldId
  · simp [remembered, refersTo, same]
  · simp [remembered, refersTo, same]

theorem enter_dungeon_eq {worldOf : UInt64 → Int} {m : LastMap Position} (worldId : Int) (worldSn : UInt64)
    (initPosition : Position) (named : ∀ last, m.dungeon = some last → last.worldId = worldOf last.worldSn)
    (entered : worldId = worldOf worldSn) :
    enterDungeon m worldId worldSn initPosition = { m with dungeon := some ⟨worldId, worldSn,
      remembered m.dungeon false worldId worldSn initPosition⟩ } := by
  unfold enterDungeon
  cases held : m.dungeon with
  | none => rfl
  | some last =>
      by_cases same : last.worldSn = worldSn
      · have id : last.worldId = worldId := by rw [named last held, same, entered]
        have again : some (⟨worldId, worldSn, last.position⟩ : LastWorld Position) = m.dungeon := by
          rw [held, ← same, ← id]
        simp [remembered, refersTo, same, again]
      · simp [remembered, refersTo, same]

theorem arrives {worldOf : UInt64 → Int} {s : Loaded Position} {worldId : Int} {worldSn : UInt64}
    {after : LastMap Position} (settled : Settled resources worldOf s)
    (went : enterWorld resources s.map worldId worldSn = some after) (entered : worldId = worldOf worldSn) :
    Arrives resources s.map after worldId worldSn ∧ Settled resources worldOf ⟨after, s.proto⟩ := by
  have sound := enter_world_sound went settled.sound
  obtain ⟨world, found, rfl⟩ := Option.map_eq_some_iff.mp went
  by_cases toPublic : world.worldType = .publicWorld
  · have kind : isPublic resources worldId = true := by
      simp [isPublic, found, toPublic]
    simp only [toPublic, if_true, enter_public_eq] at sound ⊢
    refine ⟨⟨⟨world, found, ?_⟩, ?_, ?_⟩, sound, kind, settled.named⟩
    · simp [getCur, slot, kind]
    · simp [getCur, slot, kind]
    · simp [kept, kind]
  -- a dungeon is never the world of the public slot, so the current slot is the dungeon's
  · have kind : isPublic resources worldId = false := by
      simp [isPublic, found, toPublic]
    have apart : s.map.publicMap.worldId ≠ worldId := by
      intro same
      rw [← same, settled.onPublic] at kind
      cases kind
    have eq := enter_dungeon_eq (m := { s.map with curWorldId := worldId }) worldId worldSn world.initPosition
      settled.named entered
    simp only [toPublic, if_false, eq] at sound ⊢
    refine ⟨⟨⟨world, found, ?_⟩, ?_, ?_⟩, sound, settled.onPublic, ?_⟩
    · simp [getCur, slot, kind, apart]
    · simp [getCur, slot, kind, apart]
    · simp [kept, kind]
    · rintro last ⟨⟩
      exact entered

theorem moves {worldOf : UInt64 → Int} {s : Loaded Position} (position : Position)
    (settled : Settled resources worldOf s) (placed : (getCur s.map).isSome) :
    getCur (setCurPosition s.map position) =
        (getCur s.map).map (fun last => { last with position := position }) ∧
      Settled resources worldOf ⟨setCurPosition s.map position, s.proto⟩ := by
  have sound : Sound resources (setCurPosition s.map position) s.proto :=
    set_position_sound (m := ⟨s.map, placed⟩) position settled.sound
  unfold setCurPosition at sound ⊢
  by_cases here : s.map.publicMap.worldId = s.map.curWorldId
  · simp only [here, if_true] at sound ⊢
    refine ⟨?_, sound, ?_, settled.named⟩
    · simp [getCur, here]
    · have onPublic := settled.onPublic
      rw [here] at onPublic
      exact onPublic
  · simp only [here, if_false] at sound ⊢
    refine ⟨?_, sound, settled.onPublic, ?_⟩
    · simp [getCur, here]
    · intro last held
      obtain ⟨old, there, rfl⟩ := Option.map_eq_some_iff.mp held
      exact settled.named old there

theorem reloads {worldOf : UInt64 → Int} {s : Loaded Position} {curWorldId : Int} {parsed : LastMap Position}
    (settled : Settled resources worldOf s)
    (woke : awake resources curWorldId (serializeToProto s.map s.proto) = some parsed) :
    (parsed.publicMap = s.map.publicMap ∧ parsed.dungeon = s.map.dungeon) ∧
      Settled resources worldOf ⟨parsed, serializeToProto s.map s.proto⟩ := by
  obtain ⟨again, read, publicMap, dungeon⟩ := saved_of_sound settled.sound curWorldId
  rw [woke] at read
  cases read
  refine ⟨⟨publicMap, dungeon⟩, awake_sound woke, ?_, ?_⟩
  · dsimp only
    rw [publicMap]
    exact settled.onPublic
  · intro last held
    exact settled.named last (dungeon ▸ held)

theorem step_settled {worldOf : UInt64 → Int} {before after : Loaded Position} {call : Call Position}
    (settled : Settled resources worldOf before) (step : Step resources before call after)
    (named : Named resources worldOf call) :
    Law resources before call after ∧ Settled resources worldOf after := by
  cases step with
  | entered went =>
      obtain ⟨arrived, now⟩ := arrives settled went named.1
      exact ⟨⟨saved_of_sound now.sound, arrived⟩, now⟩
  | moved placed =>
      obtain ⟨same, now⟩ := moves _ settled placed
      exact ⟨⟨saved_of_sound now.sound, same⟩, now⟩
  | reloaded woke =>
      obtain ⟨same, now⟩ := reloads settled woke
      exact ⟨⟨saved_of_sound now.sound, same⟩, now⟩

/-! ### Whole runs -/

variable (resources)

/-- From a player whose public slot names a configured public world, or none
where the initial map is one: worlds can always be entered, and along every
run the current slot, its position, the other slot and what is saved are right. -/
theorem last_map_runs (proto : PlayerProto Position) (worldOf : UInt64 → Int) (curWorldId : Int)
    (lastWorld : ∀ world, resources.getResource proto.misc.lastWorld.worldId = some world →
      world.worldType = .publicWorld)
    (initMap : resources.getResource proto.misc.lastWorld.worldId = none →
      ∃ map, getInitMap resources = some map ∧ map.worldType = .publicWorld)
    (lastDungeon : ∀ last, parseDungeon resources proto = some last → last.worldId = worldOf last.worldSn) :
    ∃ m, awake resources curWorldId proto = some m ∧
      ∀ calls after, Run (Guarded (Step resources) fun _ => Named resources worldOf) ⟨m, proto⟩ calls after →
        Run (Lawful (Step resources) (Law resources)) ⟨m, proto⟩ calls after ∧
        ∀ worldId worldSn, Named resources worldOf (.enterWorld worldId worldSn) →
          ∃ next, Step resources after (.enterWorld worldId worldSn) next := by
  obtain ⟨publicMap, parsed, onPublic⟩ := parse_public_kind lastWorld initMap
  have woke : awake resources curWorldId proto =
      some ⟨publicMap, parseDungeon resources proto, curWorldId⟩ := by
    rw [awake, parsed]
    rfl
  have settled : Settled resources worldOf ⟨⟨publicMap, parseDungeon resources proto, curWorldId⟩, proto⟩ :=
    ⟨awake_sound woke, onPublic, lastDungeon⟩
  refine ⟨_, woke, ?_⟩
  intro calls after run
  constructor
  · apply lawful_of_guarded (Settled resources worldOf) _ _ run settled
    · intro before call next kept taken
      exact (step_settled kept taken.1 taken.2).2
    · intro before call next kept taken
      exact (step_settled kept taken.1 taken.2).1
  · rintro worldId worldSn ⟨-, world, found, -⟩
    have went : ∃ entered, enterWorld resources after.map worldId worldSn = some entered := by
      rw [enterWorld, found]
      exact ⟨_, rfl⟩
    obtain ⟨entered, went⟩ := went
    exact ⟨_, Step.entered went⟩

end Calls

/-- The worlds of `world.csv`, with positions in hundredths. -/
def worldTable : Resources (Int × Int × Int) where
  getResource worldId :=
    if worldId = 1 then some ⟨.login, 0, 0, 0⟩
    else if worldId = 2 then some ⟨.roles, 0, 0, 0⟩
    else if worldId = 3 then some ⟨.publicWorld, 36978, 2935, 49320⟩
    else if worldId = 4 then some ⟨.dungeon, 36978, 2935, 49320⟩
    else none
  initMapId := 3

/-- A player that was in a dungeon before it ever was in a public world. -/
def traveller : PlayerProto (Int × Int × Int) where
  sn := 7
  name := [97]
  base := ⟨1, 1⟩
  misc := ⟨⟨0, 0, 0, 0, 0⟩, ⟨4, 9, 1, 2, 3⟩, 1⟩

theorem traveller_runs : ∃ m, awake worldTable 0 traveller = some m ∧
    ∀ calls after, Run (Guarded (Step worldTable) fun _ => Named worldTable fun sn => if sn = 9 then 4 else 3)
        ⟨m, traveller⟩ calls after →
      Run (Lawful (Step worldTable) (Law worldTable)) ⟨m, traveller⟩ calls after ∧
      ∀ worldId worldSn, Named worldTable (fun sn => if sn = 9 then 4 else 3) (.enterWorld worldId worldSn) →
        ∃ next, Step worldTable after (.enterWorld worldId worldSn) next := by
  apply last_map_runs worldTable traveller (fun sn => if sn = 9 then 4 else 3) 0
  · intro world found
    cases found
  · intro _
    exact ⟨⟨.publicWorld, 36978, 2935, 49320⟩, rfl, rfl⟩
  · rintro last ⟨⟩
    rfl

end GameBook.LastMapCalls
