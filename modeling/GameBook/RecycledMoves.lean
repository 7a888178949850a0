import GameBook.SpaceWorld
import GameBook.TwoRuns

/-!
`MoveComponent` over its lives in the pool, and the player that gets it next.
`BackToPool` and `Awake` empty the targets and leave `_vector3`, so what an
earlier player aimed at is still there until new targets come.
-/

namespace GameBook.RecycledMoves

open LastMap SpaceWorld TwoRuns

variable {Position Direction : Type}

/-! ### The lives of a component -/

/-- A call of one of the two `Update`s, with the position of the player then. -/
inductive Use (Position : Type) where
  | targets (positions : List Position) (position : Position)
  | elapsed (timeElapsed : UInt64) (position : Position)

def use (motion : Motion Position Direction) (c : MoveComponent Position Direction) :
    Use Position → MoveComponent Position Direction
  | .targets positions position => updateTargets motion c positions position
  | .elapsed timeElapsed position => (updateMove motion c timeElapsed position).1

def awake (c : MoveComponent Position Direction) : MoveComponent Position Direction :=
  { c with targets := [] }

def backToPool (c : MoveComponent Position Direction) : MoveComponent Position Direction :=
  { c with targets := [] }

def live (motion : Motion Position Direction) (c : MoveComponent Position Direction)
    (uses : List (Use Position)) : MoveComponent Position Direction :=
  backToPool (uses.foldl (use motion) (awake c))

/-- What the lives of an object have left of a new one. -/
def recycled (motion : Motion Position Direction) (zero : MoveVector3 Position Direction)
    (lives : List (List (Use Position))) : MoveComponent Position Direction :=
  lives.foldl (live motion) ⟨[], zero⟩

/-! ### The next player -/

/-- A player, and the lives of the objects that the pool gives, one after the
other. `aimed`: the component of the player has had a target since it was added. -/
structure Owner (Position Direction : Type) where
  player : Player Position Direction
  pool : Nat → List (List (Use Position))
  aimed : Bool

inductive Message (Position : Type) where
  | handleMove (positions : List Position)
  | moveSystem (timeElapsed : UInt64)

def addComponent (motion : Motion Position Direction) (zero : MoveVector3 Position Direction)
    (o : Owner Position Direction) : Owner Position Direction :=
  match o.player.move with
  | some _ => o
  | none =>
      { player := { o.player with move := some (awake (recycled motion zero (o.pool 0))) }
        pool := fun next => o.pool (next + 1)
        aimed := false }

def setTargets (motion : Motion Position Direction) (o : Owner Position Direction)
    (positions : List Position) : Owner Position Direction :=
  { o with
    player := { o.player with
      move := o.player.move.map fun c => updateTargets motion c positions (curPosition o.player.lastMap) }
    aimed := o.aimed || !positions.isEmpty }

def handle (motion : Motion Position Direction) (zero : MoveVector3 Position Direction)
    (o : Owner Position Direction) : Message Position → Owner Position Direction
  | .handleMove positions => setTargets motion (addComponent motion zero o) positions
  | .moveSystem timeElapsed => { o with player := movePlayer motion timeElapsed o.player }

/-- What is seen of a message is the position after it. -/
def step (motion : Motion Position Direction) (zero : MoveVector3 Position Direction)
    (o : Owner Position Direction) (message : Message Position) :
    Option (Owner Position Direction × Position) :=
  let after := handle motion zero o message
  some (after, curPosition after.player.lastMap)

/-- `MoveSystem` meets no component that has had only empty lists of positions. -/
def Aimed (o : Owner Position Direction) : Message Position → Prop
  | .handleMove _ => True
  | .moveSystem _ => o.player.move.isSome → o.aimed = true

/-! ### The world does this to the player -/

variable (motion : Motion Position Direction) (zero : MoveVector3 Position Direction)

theorem handle_move_player (o : Owner Position Direction) (positions : List Position) :
    (handle motion zero o (.handleMove positions)).player = { o.player with
      move := some (updateTargets motion (moveComponent o.player (recycled motion zero (o.pool 0)).vector3)
        positions (curPosition o.player.lastMap)) } := by
  simp only [handle, setTargets, addComponent, moveComponent]
  cases held : o.player.move with
  | none => rfl
  | some component => simp [held]

theorem handle_move_aimed (o : Owner Position Direction) (positions : List Position) :
    (handle motion zero o (.handleMove positions)).aimed =
      (o.player.move.isSome && o.aimed || !positions.isEmpty) := by
  simp only [handle, setTargets, addComponent]
  cases held : o.player.move with
  | none => rfl
  | some component => simp

theorem move_in_world (resources : Resources Position) {w after : World Position Direction}
    {o : Owner Position Direction} {identify : SocketObject.NetIdentify} {positions : List Position}
    (found : getPlayer w identify = some o.player)
    (handled : SpaceWorld.handle resources motion w
      (.move identify positions (recycled motion zero (o.pool 0)).vector3) = some after) :
    getPlayerBySn after.manager o.player.playerSn =
      some (handle motion zero o (.handleMove positions)).player := by
  simp only [SpaceWorld.handle, found, Option.some.injEq] at handled
  subst handled
  rw [handle_move_player]
  unfold handleMove broadcastPacket
  rw [send_manager, get_player_set, if_pos rfl]

theorem move_system_in_world (resources : Resources Position) {w after : World Position Direction}
    {o : Owner Position Direction} {timeElapsed : UInt64}
    (found : getPlayerBySn w.manager o.player.playerSn = some o.player)
    (handled : SpaceWorld.handle resources motion w (.moveSystem o.player.playerSn timeElapsed) = some after) :
    getPlayerBySn after.manager o.player.playerSn =
      some (handle motion zero o (.moveSystem timeElapsed)).player := by
  simp only [SpaceWorld.handle, found, Option.some.injEq] at handled
  subst handled
  rw [get_player_set, if_pos (move_player_sn motion timeElapsed o.player).symm]
  rfl

/-! ### Two pools -/

/-- The same player; components that have had no target yet may differ in `_vector3`. -/
structure Alike (first second : Owner Position Direction) : Prop where
  aimed : second.aimed = first.aimed
  player : second.player = { first.player with move := second.player.move }
  move : second.player.move = first.player.move ∨
    first.aimed = false ∧ ∃ one two, first.player.move = some ⟨[], one⟩ ∧ second.player.move = some ⟨[], two⟩

variable {motion zero}

theorem alike_map {first second : Owner Position Direction} (alike : Alike first second) :
    second.player.lastMap = first.player.lastMap := by
  rw [alike.player]

theorem alike_targets {first second : Owner Position Direction} (alike : Alike first second)
    (target : Position) (rest : List Position) :
    Alike (handle motion zero first (.handleMove (target :: rest)))
      (handle motion zero second (.handleMove (target :: rest))) := by
  constructor
  · simp [handle_move_aimed]
  · rw [handle_move_player, handle_move_player, alike.player]
  · left
    simp only [handle_move_player, updateTargets, alike_map alike]

theorem alike_no_targets {first second : Owner Position Direction} (alike : Alike first second) :
    Alike (handle motion zero first (.handleMove [])) (handle motion zero second (.handleMove [])) := by
  have held := alike.move
  constructor
  · rw [handle_move_aimed, handle_move_aimed, alike.aimed]
    rcases held with same | ⟨-, one, two, left, right⟩
    · rw [same]
    · rw [left, right]
      rfl
  · rw [handle_move_player, handle_move_player, alike.player]
  · simp only [handle_move_player, handle_move_aimed, updateTargets, moveComponent]
    rcases held with same | ⟨untouched, one, two, left, right⟩
    · rw [same]
      cases has : first.player.move with
      | some component => exact Or.inl rfl
      -- the pools may hand out different `_vector3`
      | none => exact Or.inr ⟨rfl, _, _, rfl, rfl⟩
    · rw [left, right]
      exact Or.inr ⟨by simp [untouched], one, two, rfl, rfl⟩

theorem alike_move_system {first second : Owner Position Direction} (alike : Alike first second)
    (timeElapsed : UInt64) (aimed : Aimed first (.moveSystem timeElapsed)) :
    Alike (handle motion zero first (.moveSystem timeElapsed))
      (handle motion zero second (.moveSystem timeElapsed)) := by
  -- where the step meets a component it has had a target, and then nothing of the pool is left
  have same : second.player = first.player := by
    rcases alike.move with same | ⟨untouched, one, two, left, -⟩
    · rw [alike.player, same]
    · have touched := aimed (by rw [left]; rfl)
      rw [untouched] at touched
      cases touched
  constructor
  · exact alike.aimed
  · simp only [handle, same]
  · simp only [handle, same, true_or]

theorem move_unwinds : Unwinds (step motion zero) Aimed Alike := by
  intro first second message alike aimed
  have after : Alike (handle motion zero first message) (handle motion zero second message) := by
    cases message with
    | handleMove positions =>
        cases positions with
        | nil => exact alike_no_targets alike
        | cons target rest => exact alike_targets alike target rest
    | moveSystem timeElapsed => exact alike_move_system alike timeElapsed aimed
  apply Option.Rel.some
  exact ⟨by rw [alike_map after], after⟩

theorem positions_alike (player : Player Position Direction)
    (first second : Nat → List (List (Use Position))) (messages : List (Message Position))
    (meets : Meets (step motion zero) Aimed ⟨player, first, false⟩ messages) :
    observe (step motion zero) ⟨player, first, false⟩ messages =
      observe (step motion zero) ⟨player, second, false⟩ messages :=
  observe_alike move_unwinds messages _ _ ⟨rfl, rfl, Or.inl rfl⟩ meets

end GameBook.RecycledMoves
