import GameBook.EntitySystem

/-!
`SystemManager::Update` of a thread with worlds: the entities, the messages, the
systems. The turn of the pools changes memory only and is left out; a life ends in
the turn of the entities, or where `UpdateSystem` swaps its own collection. The
calls of the systems on components are recorded with what they find of the parent.
-/

namespace GameBook.SystemFrames

open GameBook.OrderedMap EntitySystem

/-- The hash codes of the classes that the frame looks at. -/
structure Types where
  player : Nat
  detail : Nat
  lastMap : Nat
  move : Nat
  update : Nat
  distinct : [player, detail, lastMap, move, update].Nodup

inductive Caller where
  | updateSystem
  | moveSystem
  deriving DecidableEq

structure Call where
  caller : Caller
  life : Nat
  parentReturned : Bool
  lastMap : Option Nat
  deriving DecidableEq

/-- `players` are the lives in the maps of the `PlayerManagerComponent`s. -/
structure Space where
  entities : EntitySystem
  players : List Nat
  calls : List Call

def start : Space := ⟨EntitySystem.start, [], []⟩

/-! ### Handlers -/

/-- What a handler of a message, or the callback of an `UpdateComponent`, does. -/
inductive Action where
  | add (owner : Option Nat) (typeHash sn : Nat)
  | remove (life : Nat)
  | syncPlayer (player detail lastMap : Nat)
  | removePlayer (player : Nat)
  | move (player component : Nat)

/-- The players of the worlds are removed by their manager alone, and only
`HandleMove` makes `MoveComponent`s. -/
def Acted (types : Types) (before : Space) (action : Action) (after : Space) : Prop :=
  match action with
  | .add owner typeHash sn =>
      typeHash ≠ types.move ∧ ∃ entities,
        entityStep before.entities (.add owner typeHash sn) entities ∧
          after = { before with entities := entities }
  | .remove life =>
      life ∉ before.players ∧ ∃ entities, entityStep before.entities (.remove life) entities ∧
        after = { before with entities := entities }
  | .syncPlayer player detail lastMap =>
      ∃ added detailed entities,
        entityStep before.entities (.add none types.player player) added ∧
          entityStep added (.add (some player) types.detail detail) detailed ∧
            entityStep detailed (.add (some player) types.lastMap lastMap) entities ∧
              after = { before with entities := entities, players := player :: before.players }
  | .removePlayer player =>
      player ∈ before.players ∧ ∃ entities,
        entityStep before.entities (.remove player) entities ∧
          after = { before with
            entities := entities
            players := before.players.filter fun other => other ≠ player }
  | .move player component =>
      player ∈ before.players ∧ ∃ entities,
        entityStep before.entities (.add (some player) types.move component) entities ∧
          after = { before with entities := entities }

def Acts (types : Types) : List Action → Space → Space → Prop
  | [], before, after => after = before
  | action :: rest, before, after =>
      ∃ between, Acted types before action between ∧ Acts types rest between after

/-! ### Systems -/

def getComponent (s : EntitySystem) (entitySn typeHash : Nat) : Option Nat :=
  (s.components[entitySn]?).bind fun entity => entity.components[typeHash]?

def removeType (s : EntitySystem) (entitySn typeHash : Nat) : EntitySystem :=
  match getComponent s entitySn typeHash with
  | none => s
  | some life => removeFrom s life

def objsOf (s : EntitySystem) (typeHash : Nat) : List Nat :=
  ((s.objSystems[typeHash]?).map fun collections => collections.objs.toList.map Prod.snd).getD []

def call (types : Types) (caller : Caller) (s : Space) (life : Nat) : Space :=
  let parent := ownerOf s.entities life
  { s with calls := s.calls ++ [{
      caller := caller
      life := life
      parentReturned := parent.any fun entitySn => decide (entitySn ∈ s.entities.returned)
      lastMap := parent.bind fun entitySn => getComponent s.entities entitySn types.lastMap }] }

def UpdatedEach (types : Types) (callbacks : Nat → List Action) :
    List Nat → Space → Space → Prop
  | [], before, after => after = before
  | life :: rest, before, after =>
      ∃ between, Acts types (callbacks life) (call types .updateSystem before life) between ∧
        UpdatedEach types callbacks rest between after

def moveTurn (types : Types) (stops : Nat → Bool) (s : Space) (life : Nat) : Space :=
  let called := call types .moveSystem s life
  match ownerOf s.entities life with
  | none => called
  | some player =>
      if stops life then { called with entities := removeType s.entities player types.move }
      else called

def moveEach (types : Types) (stops : Nat → Bool) (lives : List Nat) (s : Space) : Space :=
  lives.foldl (moveTurn types stops) s

/-- What comes from outside in a frame: the removals of `BackToPool`, the messages,
the work of the callbacks, whether half a second has passed, who has arrived. -/
structure Frame where
  disposes : Nat → List Nat
  messages : List Action
  callbacks : Nat → List Action
  due : Bool
  stops : Nat → Bool

def frameStep (types : Types) (before : Space) (frame : Frame) (after : Space) : Prop :=
  (∀ life, ∀ player ∈ frame.disposes life, player ∉ before.players) ∧
  ∃ updated acted swapped called,
    Updated frame.disposes before.entities updated ∧
    Acts types frame.messages { before with entities := updated } acted ∧
    Swapped (fun _ => []) types.update acted.entities swapped ∧
    UpdatedEach types frame.callbacks (objsOf swapped types.update)
      { acted with entities := swapped } called ∧
    after =
      if frame.due then moveEach types frame.stops (objsOf called.entities types.move) called
      else called

/-! ### What is asked of the calls -/

/-- No component is updated after its parent went back to the pool, and
`MoveComponent::Update` is given a map. -/
def ParentsLive (s : Space) : Prop :=
  ∀ call ∈ s.calls, call.parentReturned = false ∧
    (call.caller = .moveSystem → call.lastMap ≠ none)

def UpdateParentsLive (s : Space) : Prop :=
  ∀ call ∈ s.calls, call.caller = .updateSystem → call.parentReturned = false

/-- `MoveSystem` is not due in the frame in which a player goes back who still
moves, unless the players come first in the order of the hash codes. -/
def Settled (types : Types) (before : Space) (frame : Frame) : Prop :=
  types.player < types.move ∨ frame.due = false ∨
    ∀ collections, before.entities.objSystems[types.player]? = some collections →
      ∀ player ∈ collections.removeObjs, getComponent before.entities player types.move = none

end GameBook.SystemFrames
