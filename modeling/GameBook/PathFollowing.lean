import GameBook.MoveArrivals
import GameBook.Recycled
import GameBook.RecycledMoves

/-!
A player and the paths that it is sent: the points of the latest one that it has
reached, its current target and the points behind that are the path, whatever
the distances are and whatever the components of the pool were used for before.
-/

namespace GameBook.PathFollowing

open LabelledRun LastMap RecycledMoves
open SpaceWorld (MoveComponent MoveVector3 Motion Player updateTargets updateMove movePlayer)

variable {Position Direction : Type}

/-- A player with the history of its paths: the latest that was not empty, and
the points of it that the player has left behind as targets. -/
structure Walk (Position Direction : Type) where
  owner : Owner Position Direction
  path : List Position
  reached : List Position

def component (w : Walk Position Direction) : Option (MoveComponent Position Direction) :=
  w.owner.player.move

def position (w : Walk Position Direction) : Position := curPosition w.owner.player.lastMap

def leftTarget (motion : Motion Position Direction) (w : Walk Position Direction)
    (timeElapsed : UInt64) : List Position :=
  match component w with
  | none => []
  | some c => if motion.arrives (position w) c.vector3.target timeElapsed then [c.vector3.target] else []

/-- `HandleMove` or `MoveSystem` at the player, and what it adds to the history. -/
def walkOn (motion : Motion Position Direction) (zero : MoveVector3 Position Direction)
    (w : Walk Position Direction) (message : Message Position) : Walk Position Direction :=
  let owner := handle motion zero w.owner message
  match message with
  | .handleMove [] => { w with owner := owner }
  | .handleMove positions => ⟨owner, positions, []⟩
  | .moveSystem timeElapsed =>
      { w with owner := owner, reached := w.reached ++ leftTarget motion w timeElapsed }

def walkStep (motion : Motion Position Direction) (zero : MoveVector3 Position Direction)
    (before : Walk Position Direction) (message : Message Position) (after : Walk Position Direction) :
    Prop :=
  after = walkOn motion zero before message

def First (w : Walk Position Direction) : Message Position → Prop
  | .handleMove positions => component w = none → positions ≠ []
  | .moveSystem _ => True

/-- The current target and the points behind it. -/
def ahead (w : Walk Position Direction) : List Position :=
  match component w with
  | none => []
  | some c => c.vector3.target :: c.targets

/-- The path is what is reached and what is ahead. -/
def Following (w : Walk Position Direction) : Prop := w.path = w.reached ++ ahead w

/-! ### What is asked of a step -/

/-- A step of `MoveSystem` at a component: only a target that is near is left, the
player stands on it then, and the next point is the target; the step that stops
is the one that reaches the end of the path. -/
structure Stepped (motion : Motion Position Direction) (timeElapsed : UInt64)
    (c : MoveComponent Position Direction) (before after : Walk Position Direction) : Prop where
  path : after.path = before.path
  leaves : motion.arrives (position before) c.vector3.target timeElapsed = true →
    position after = c.vector3.target ∧ after.reached = before.reached ++ [c.vector3.target] ∧
      ahead after = c.targets
  stays : motion.arrives (position before) c.vector3.target timeElapsed = false →
    after.reached = before.reached ∧ component after = some c
  stops : (updateMove motion c timeElapsed (position before)).2.2 = true ↔ after.reached = after.path
  removed : (updateMove motion c timeElapsed (position before)).2.2 = true ↔ component after = none

def Follows (motion : Motion Position Direction) (before : Walk Position Direction)
    (message : Message Position) (after : Walk Position Direction) : Prop :=
  match message with
  | .handleMove [] => after = before
  | .handleMove (first :: rest) =>
      position after = position before ∧ ahead after = first :: rest ∧
        after.path = first :: rest ∧ after.reached = []
  | .moveSystem timeElapsed =>
      match component before with
      | none => after = before
      | some c => Stepped motion timeElapsed c before after

/-! ### The two handlers -/

theorem get_cur_set (m : LastMap Position) (position : Position) :
    getCur (setCurPosition m position) =
      (getCur m).map fun last => { last with position := position } := by
  unfold setCurPosition
  by_cases here : m.publicMap.worldId = m.curWorldId
  · simp only [getCur, if_pos here, Option.map_some]
  · simp only [getCur, if_neg here]

theorem cur_position_set (m : Entered Position) (position : Position) :
    curPosition (setPosition m position) = position := by
  obtain ⟨last, held⟩ := Option.isSome_iff_exists.mp m.2
  have now : getCur (setPosition m position).1 = some { last with position := position } := by
    change getCur (setCurPosition m.1 position) = _
    rw [get_cur_set, held, Option.map_some]
  simp only [curPosition, now, Option.get_some]

variable {motion : Motion Position Direction} {zero : MoveVector3 Position Direction}

theorem handle_no_positions (o : Owner Position Direction) (held : o.player.move.isSome) :
    handle motion zero o (.handleMove []) = o := by
  obtain ⟨player, pool, aimed⟩ := o
  obtain ⟨c, moves⟩ := Option.isSome_iff_exists.mp held
  have mapped : player.move.map
      (fun c => updateTargets motion c [] (curPosition player.lastMap)) = player.move := by
    rw [moves]
    rfl
  have kept : addComponent motion zero ⟨player, pool, aimed⟩ = ⟨player, pool, aimed⟩ := by
    rw [addComponent, moves]
  rw [handle, kept, setTargets, mapped]
  simp

theorem handle_no_component (o : Owner Position Direction) (timeElapsed : UInt64)
    (idle : o.player.move = none) : handle motion zero o (.moveSystem timeElapsed) = o := by
  rw [handle, movePlayer, idle]

theorem ahead_new_path (w : Walk Position Direction) (first : Position) (rest : List Position) :
    ahead (walkOn motion zero w (.handleMove (first :: rest))) = first :: rest := by
  simp only [ahead, component, walkOn, handle_move_player, updateTargets]

theorem stepped_parts {w : Walk Position Direction} {c : MoveComponent Position Direction}
    (held : component w = some c) (timeElapsed : UInt64) :
    position (walkOn motion zero w (.moveSystem timeElapsed)) =
        (updateMove motion c timeElapsed (position w)).2.1 ∧
      component (walkOn motion zero w (.moveSystem timeElapsed)) =
        if (updateMove motion c timeElapsed (position w)).2.2 then none
        else some (updateMove motion c timeElapsed (position w)).1 := by
  have moves : w.owner.player.move = some c := held
  simp only [position, component, walkOn, handle, movePlayer, moves, cur_position_set]
  exact ⟨trivial, rfl⟩

theorem reached_whole_iff {w : Walk Position Direction} (following : Following w) :
    w.reached = w.path ↔ component w = none := by
  rw [following]
  cases held : component w with
  | none => simp [ahead, held]
  | some c => simp [ahead, held]

theorem update_near {c : MoveComponent Position Direction} {timeElapsed : UInt64} {stands : Position}
    (near : motion.arrives stands c.vector3.target timeElapsed = true) :
    (updateMove motion c timeElapsed stands).2.1 = c.vector3.target ∧
      (if (updateMove motion c timeElapsed stands).2.2 then []
        else (updateMove motion c timeElapsed stands).1.vector3.target ::
          (updateMove motion c timeElapsed stands).1.targets) = c.targets := by
  rw [updateMove, if_pos near]
  cases points : c.targets with
  | nil => exact ⟨rfl, if_pos rfl⟩
  | cons next rest => exact ⟨rfl, if_neg Bool.false_ne_true⟩

theorem update_far {c : MoveComponent Position Direction} {timeElapsed : UInt64} {stands : Position}
    (far : motion.arrives stands c.vector3.target timeElapsed = false) :
    (updateMove motion c timeElapsed stands).1 = c ∧
      (updateMove motion c timeElapsed stands).2.2 = false := by
  rw [updateMove, if_neg (by rw [far]; exact Bool.false_ne_true)]
  exact ⟨rfl, rfl⟩

theorem walk_stepped {w : Walk Position Direction} {c : MoveComponent Position Direction}
    (following : Following w) (held : component w = some c) (timeElapsed : UInt64) :
    Following (walkOn motion zero w (.moveSystem timeElapsed)) ∧
      Stepped motion timeElapsed c w (walkOn motion zero w (.moveSystem timeElapsed)) := by
  obtain ⟨stands, holds⟩ := @stepped_parts _ _ motion zero _ _ held timeElapsed
  have reached : (walkOn motion zero w (.moveSystem timeElapsed)).reached =
      w.reached ++ leftTarget motion w timeElapsed := rfl
  have path : (walkOn motion zero w (.moveSystem timeElapsed)).path = w.path := rfl
  generalize walkOn motion zero w (.moveSystem timeElapsed) = after at stands holds reached path ⊢
  have before : w.path = w.reached ++ c.vector3.target :: c.targets := by
    rw [following, ahead, held]
  have left : leftTarget motion w timeElapsed =
      if motion.arrives (position w) c.vector3.target timeElapsed then [c.vector3.target] else [] := by
    rw [leftTarget, held]
  have removed : (updateMove motion c timeElapsed (position w)).2.2 = true ↔ component after = none := by
    rw [holds]
    split
    · rename_i stops
      simp [stops]
    · rename_i goes
      simp [goes]
  cases near : motion.arrives (position w) c.vector3.target timeElapsed with
  | true =>
      obtain ⟨there, points⟩ := update_near near
      have next : ahead after = c.targets := by
        rw [← points, ahead, holds]
        cases (updateMove motion c timeElapsed (position w)).2.2 <;> rfl
      have grown : after.reached = w.reached ++ [c.vector3.target] := by
        rw [reached, left, if_pos near]
      have kept : Following after := by
        rw [Following, path, grown, next, before, List.append_assoc, List.singleton_append]
      refine ⟨kept, path, fun _ => ⟨stands.trans there, grown, next⟩, ?_,
        removed.trans (reached_whole_iff kept).symm, removed⟩
      intro far
      rw [near] at far
      cases far
  | false =>
      obtain ⟨same, goes⟩ := update_far near
      have still : component after = some c := by
        rw [holds, goes, same]
        rfl
      have kept : after.reached = w.reached := by
        rw [reached, left, near]
        exact List.append_nil _
      have following' : Following after := by
        rw [Following, path, kept, before, ahead, still]
      refine ⟨following', path, ?_, fun _ => ⟨kept, still⟩,
        removed.trans (reached_whole_iff following').symm, removed⟩
      intro arrives
      rw [near] at arrives
      cases arrives

theorem walk_follows {w after : Walk Position Direction} {message : Message Position}
    (following : Following w) (taken : Guarded (walkStep motion zero) First w message after) :
    Following after ∧ Follows motion w message after := by
  obtain ⟨step, first⟩ := taken
  rw [walkStep] at step
  subst step
  cases message with
  | handleMove positions =>
      cases positions with
      | nil =>
          have held : w.owner.player.move.isSome := by
            apply Option.isSome_iff_ne_none.mpr
            exact fun none => first none rfl
          have same : walkOn motion zero w (.handleMove []) = w := by
            rw [walkOn, handle_no_positions w.owner held]
          rw [Follows, same]
          exact ⟨following, rfl⟩
      | cons next rest =>
          have points := @ahead_new_path _ _ motion zero w next rest
          refine ⟨?_, ?_, points, rfl, rfl⟩
          · rw [Following, points]
            rfl
          · simp only [position, walkOn, handle_move_player]
  | moveSystem timeElapsed =>
      cases held : component w with
      | none =>
          have left : leftTarget motion w timeElapsed = [] := by rw [leftTarget, held]
          have same : walkOn motion zero w (.moveSystem timeElapsed) = w := by
            rw [walkOn, handle_no_component w.owner timeElapsed held, left, List.append_nil]
          simp only [Follows, held, same]
          exact ⟨following, trivial⟩
      | some c =>
          simp only [Follows, held]
          exact walk_stepped following held timeElapsed

/-! ### Runs -/

def setOut (player : Player Position Direction) (pool : Nat → List (List (Use Position))) :
    Walk Position Direction := ⟨⟨player, pool, false⟩, [], []⟩

/-- At every step of every run the target is the next point of the latest path;
and a component that stops is not called by `MoveSystem` again. -/
theorem path_followed (motion : Motion Position Direction) (zero : MoveVector3 Position Direction)
    (player : Player Position Direction) (pool : Nat → List (List (Use Position)))
    (idle : player.move = none) :
    (∀ trace w, Run (Guarded (walkStep motion zero) First) (setOut player pool) trace w →
      Run (Lawful (walkStep motion zero) fun before message after =>
        Following after ∧ Follows motion before message after) (setOut player pool) trace w) ∧
      ∀ (types : SystemFrames.Types) (trace later : List SystemFrames.Frame)
        (before after last : SystemFrames.Space) (frame : SystemFrames.Frame) (life : Nat),
        Run (SystemFrames.frameStep types) SystemFrames.start trace before →
        SystemFrames.frameStep types before frame after →
        Run (SystemFrames.frameStep types) after later last →
        MoveArrivals.moveCalls after life ≠ MoveArrivals.moveCalls before life →
        frame.stops life = true →
          MoveArrivals.moveCalls after life = MoveArrivals.moveCalls before life + 1 ∧
            MoveArrivals.moveCalls last life = MoveArrivals.moveCalls after life := by
  constructor
  · intro trace w run
    apply lawful_of_guarded Following _ _ run
    · rw [Following, setOut, ahead, component, idle]
      rfl
    · exact fun before message after following taken => (walk_follows following taken).1
    · exact fun before message after following taken => walk_follows following taken
  · intro types trace later before after last frame life run step rest called stops
    exact MoveArrivals.arrived_not_called run step rest called stops

/-- Two points, reached one after the other; the second path is empty. -/
theorem path_followed_two : ∃ w,
    Run (Lawful (walkStep Recycled.thousandths Recycled.origin) fun before message after =>
        Following after ∧ Follows Recycled.thousandths before message after)
      (setOut Recycled.tourist Recycled.eastward)
      [.handleMove [(300, 0, 0), (300, 0, 400)], .moveSystem 500, .handleMove [], .moveSystem 500] w ∧
      w.reached = [(300, 0, 0), (300, 0, 400)] ∧ component w = none := by
  have followed := (path_followed Recycled.thousandths Recycled.origin Recycled.tourist
    Recycled.eastward rfl).1
  refine ⟨_, followed _ _ (.next ⟨rfl, fun _ => by decide⟩ <| .next ⟨rfl, trivial⟩ <|
    .next ⟨rfl, ?_⟩ <| .next ⟨rfl, trivial⟩ <| .refl _), by decide, by decide⟩
  intro none
  revert none
  decide

end GameBook.PathFollowing
