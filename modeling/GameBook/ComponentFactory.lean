import GameBook.ComponentCreation
import GameBook.LabelledRun
import Mathlib.Logic.Function.Basic

/-!
The calls of one `ComponentFactory` by any number of threads, nested through the
functions it calls. `Regist` and `IsRegisted` hold `_lock` in a guard; `Create`
locks and unlocks by hand, and returns without unlocking when it does not find
the name. A mutex that is taken stops everybody, its own thread too.
-/

namespace GameBook.ComponentFactory

open CString OrderedMap Std LabelledRun

/-- `args` are the arguments that `Create` passes on. -/
inductive Call (FactoryFunction Args : Type) where
  | regist (className : Bytes) (pFunc : FactoryFunction)
  | isRegisted (className : Bytes)
  | create (className : Bytes) (args : Args)

/-- How far a call is: in front of the lock, behind it, in front of the unlock
with its answer or with the function that was found, or in that function. From
its lookup on it keeps the calls `seen` that were at the map before it. `calls`
are the functions that this `Create` has called. -/
inductive Frame (FactoryFunction Args : Type) where
  | waiting (call : Call FactoryFunction Args)
  | holding (call : Call FactoryFunction Args)
  | answering (seen : List (Call FactoryFunction Args)) (call : Call FactoryFunction Args) (answer : Bool)
  | found (seen : List (Call FactoryFunction Args)) (className : Bytes) (args : Args)
      (function : FactoryFunction)
  | running (seen : List (Call FactoryFunction Args)) (className : Bytes) (args : Args)
      (calls : List (FactoryFunction × Args))

inductive Returned (FactoryFunction Args Obj : Type) where
  | answer (seen : List (Call FactoryFunction Args)) (call : Call FactoryFunction Args) (answer : Bool)
  | object (seen : List (Call FactoryFunction Args)) (className : Bytes) (args : Args)
      (calls : List (FactoryFunction × Args)) (object : Option Obj)

/-- `history` are the calls in the order in which they got to the map. -/
structure Factory (Thread FactoryFunction Args Obj : Type) where
  lock : Option Thread
  map : Table Bytes FactoryFunction
  history : List (Call FactoryFunction Args)
  stack : Thread → List (Frame FactoryFunction Args)
  returned : List (Thread × Returned FactoryFunction Args Obj)

inductive Move (FactoryFunction Args Obj : Type) where
  | call (call : Call FactoryFunction Args)
  | lock
  | find
  | unlock
  | finish (object : Option Obj)

variable {Thread FactoryFunction Args Obj : Type} [DecidableEq Thread]

def start : Factory Thread FactoryFunction Args Obj := ⟨none, ∅, [], fun _ => [], []⟩

def put (s : Factory Thread FactoryFunction Args Obj) (t : Thread) (frames : List (Frame FactoryFunction Args)) :
    Factory Thread FactoryFunction Args Obj :=
  { s with stack := Function.update s.stack t frames }

def giveBack (s : Factory Thread FactoryFunction Args Obj) (t : Thread) (result : Returned FactoryFunction Args Obj) :
    Factory Thread FactoryFunction Args Obj :=
  { s with returned := s.returned ++ [(t, result)] }

/-- A thread calls from outside the factory: from its own code or from a
function that the factory called. -/
def mayCall : List (Frame FactoryFunction Args) → Bool
  | [] => true
  | .running .. :: _ => true
  | _ => false

def look (s : Factory Thread FactoryFunction Args Obj) (call : Call FactoryFunction Args) :
    Factory Thread FactoryFunction Args Obj :=
  { s with history := s.history ++ [call] }

/-- What a call does with the map, up to the end of the function or its unlock. -/
def find (s : Factory Thread FactoryFunction Args Obj) (t : Thread) (rest : List (Frame FactoryFunction Args))
    (call : Call FactoryFunction Args) : Factory Thread FactoryFunction Args Obj :=
  match call with
  | .regist className pFunc =>
      match s.map[className]? with
      | some _ => put (look s call) t (.answering s.history call false :: rest)
      | none =>
          put { look s call with map := s.map.insert className pFunc } t
            (.answering s.history call true :: rest)
  | .isRegisted className =>
      put (look s call) t (.answering s.history call (s.map[className]?).isSome :: rest)
  | .create className args =>
      match s.map[className]? with
      -- returns the null pointer, the lock stays as it is
      | none => giveBack (put (look s call) t rest) t (.object s.history className args [] none)
      | some function => put (look s call) t (.found s.history className args function :: rest)

inductive Step : Factory Thread FactoryFunction Args Obj → Thread × Move FactoryFunction Args Obj →
    Factory Thread FactoryFunction Args Obj → Prop where
  | call (s : Factory Thread FactoryFunction Args Obj) (t : Thread) (call : Call FactoryFunction Args) :
      mayCall (s.stack t) → Step s (t, .call call) (put s t (.waiting call :: s.stack t))
  | lock (s : Factory Thread FactoryFunction Args Obj) (t : Thread) (call : Call FactoryFunction Args)
      (rest : List (Frame FactoryFunction Args)) : s.stack t = .waiting call :: rest → s.lock = none →
      Step s (t, .lock) (put { s with lock := some t } t (.holding call :: rest))
  | find (s : Factory Thread FactoryFunction Args Obj) (t : Thread) (call : Call FactoryFunction Args)
      (rest : List (Frame FactoryFunction Args)) : s.stack t = .holding call :: rest →
      Step s (t, .find) (find s t rest call)
  | answer (s : Factory Thread FactoryFunction Args Obj) (t : Thread) (seen : List (Call FactoryFunction Args))
      (call : Call FactoryFunction Args) (answer : Bool) (rest : List (Frame FactoryFunction Args)) :
      s.stack t = .answering seen call answer :: rest →
      Step s (t, .unlock) (giveBack (put { s with lock := none } t rest) t (.answer seen call answer))
  | invoke (s : Factory Thread FactoryFunction Args Obj) (t : Thread) (seen : List (Call FactoryFunction Args))
      (className : Bytes) (args : Args) (function : FactoryFunction) (rest : List (Frame FactoryFunction Args)) :
      s.stack t = .found seen className args function :: rest →
      Step s (t, .unlock)
        (put { s with lock := none } t (.running seen className args [(function, args)] :: rest))
  | finish (s : Factory Thread FactoryFunction Args Obj) (t : Thread) (seen : List (Call FactoryFunction Args))
      (className : Bytes) (args : Args) (calls : List (FactoryFunction × Args)) (object : Option Obj)
      (rest : List (Frame FactoryFunction Args)) : s.stack t = .running seen className args calls :: rest →
      Step s (t, .finish object) (giveBack (put s t rest) t (.object seen className args calls object))

def FindsRegistered (s : Factory Thread FactoryFunction Args Obj) : Thread × Move FactoryFunction Args Obj → Prop
  | (t, .find) => ∀ className args, (s.stack t).head? = some (.holding (.create className args)) →
      className ∈ s.map
  | _ => True

/-! ### What the lock is for -/

def critical : List (Frame FactoryFunction Args) → Bool
  | .holding _ :: _ => true
  | .answering .. :: _ => true
  | .found .. :: _ => true
  | _ => false

def Goes (s : Factory Thread FactoryFunction Args Obj) (t : Thread) : Prop :=
  ∃ move after, (∀ call, move ≠ .call call) ∧ Step s (t, move) after

/-- What is registered under a name after these calls: the function of the first
`Regist` of the name. -/
def registered (seen : List (Call FactoryFunction Args)) (className : Bytes) : Option FactoryFunction :=
  seen.findSome? fun
    | .regist name pFunc => if name = className then some pFunc else none
    | _ => none

def answerTo (seen : List (Call FactoryFunction Args)) : Call FactoryFunction Args → Option Bool
  | .regist className _ => some (registered seen className).isNone
  | .isRegisted className => some (registered seen className).isSome
  | .create .. => none

/-- A call with its place among all calls, and the answer that it gets there. -/
def Answers (history seen : List (Call FactoryFunction Args)) (call : Call FactoryFunction Args)
    (answer : Bool) : Prop :=
  seen ++ [call] <+: history ∧ answerTo seen call = some answer

/-- A `Create` with its place among all calls, which calls what is registered
there, once, and nothing else. -/
def Creates (history seen : List (Call FactoryFunction Args)) (className : Bytes) (args : Args)
    (calls : List (FactoryFunction × Args)) : Prop :=
  seen ++ [.create className args] <+: history ∧
    calls = (registered seen className).toList.map fun function => (function, args)

def Follows (history : List (Call FactoryFunction Args)) : Returned FactoryFunction Args Obj → Prop
  | .answer seen call answer => Answers history seen call answer
  | .object seen className args calls _ => Creates history seen className args calls

def Entries (s : Factory Thread FactoryFunction Args Obj) : Prop :=
  ∀ className : Bytes, s.map[className]? = registered s.history className

/-- The lock is free unless some call is about to give it back, each thread in a
call goes on or waits for another one that does, and every call that has returned
has done what the calls at the map before it ask for. -/
structure Good (s : Factory Thread FactoryFunction Args Obj) : Prop where
  free : (∀ t, s.stack t = []) → s.lock = none
  held : ∀ t, s.lock = some t → critical (s.stack t)
  goes : ∀ t, s.stack t ≠ [] → Goes s t ∨ ∃ other, other ≠ t ∧ s.lock = some other ∧ Goes s other
  entries : Entries s
  returns : ∀ t result, (t, result) ∈ s.returned → Follows s.history result

/-! ### The invariant of all runs -/

def Right (history : List (Call FactoryFunction Args)) : Frame FactoryFunction Args → Prop
  | .answering seen call answer => Answers history seen call answer
  | .found seen className args function => Creates history seen className args [(function, args)]
  | .running seen className args calls => Creates history seen className args calls
  | _ => True

def Runs (history : List (Call FactoryFunction Args)) : Frame FactoryFunction Args → Prop
  | .running seen className args calls => Creates history seen className args calls
  | _ => False

/-- On top of a stack there may be any frame, below there are functions only. -/
def Nested (history : List (Call FactoryFunction Args)) : List (Frame FactoryFunction Args) → Prop
  | [] => True
  | frame :: rest => Right history frame ∧ ∀ below ∈ rest, Runs history below

structure Inv (s : Factory Thread FactoryFunction Args Obj) : Prop where
  nested : ∀ t, Nested s.history (s.stack t)
  alone : ∀ t, critical (s.stack t) → s.lock = some t
  entries : Entries s
  returns : ∀ t result, (t, result) ∈ s.returned → Follows s.history result

theorem registered_append (seen : List (Call FactoryFunction Args)) (call : Call FactoryFunction Args)
    (className : Bytes) :
    registered (seen ++ [call]) className = (registered seen className).or (registered [call] className) := by
  rw [registered, List.findSome?_append]
  rfl

theorem answers_later {history later seen : List (Call FactoryFunction Args)} {call : Call FactoryFunction Args}
    {answer : Bool} (grows : history <+: later) (answers : Answers history seen call answer) :
    Answers later seen call answer :=
  ⟨answers.1.trans grows, answers.2⟩

theorem creates_later {history later seen : List (Call FactoryFunction Args)} {className : Bytes} {args : Args}
    {calls : List (FactoryFunction × Args)} (grows : history <+: later)
    (creates : Creates history seen className args calls) : Creates later seen className args calls :=
  ⟨creates.1.trans grows, creates.2⟩

theorem follows_later {history later : List (Call FactoryFunction Args)} (grows : history <+: later)
    {result : Returned FactoryFunction Args Obj} (follows : Follows history result) : Follows later result := by
  cases result with
  | answer => exact answers_later grows follows
  | object => exact creates_later grows follows

theorem runs_later {history later : List (Call FactoryFunction Args)} (grows : history <+: later)
    {frame : Frame FactoryFunction Args} (runs : Runs history frame) : Runs later frame := by
  cases frame with
  | running => exact creates_later grows runs
  | _ => cases runs

theorem nested_later {history later : List (Call FactoryFunction Args)} (grows : history <+: later)
    {frames : List (Frame FactoryFunction Args)} (nested : Nested history frames) : Nested later frames := by
  cases frames with
  | nil => trivial
  | cons frame rest =>
      refine ⟨?_, fun below member => runs_later grows (nested.2 below member)⟩
      have right := nested.1
      cases frame with
      | answering => exact answers_later grows right
      | found => exact creates_later grows right
      | running => exact creates_later grows right
      | _ => trivial

theorem runs_critical {history : List (Call FactoryFunction Args)} {frames : List (Frame FactoryFunction Args)}
    (runs : ∀ frame ∈ frames, Runs history frame) : critical frames = false := by
  cases frames with
  | nil => rfl
  | cons frame rest =>
      have top := runs frame List.mem_cons_self
      cases frame with
      | running => rfl
      | _ => cases top

theorem runs_nested {history : List (Call FactoryFunction Args)} {frames : List (Frame FactoryFunction Args)}
    (runs : ∀ frame ∈ frames, Runs history frame) : Nested history frames := by
  cases frames with
  | nil => trivial
  | cons frame rest =>
      refine ⟨?_, fun below member => runs below (List.mem_cons_of_mem _ member)⟩
      have top := runs frame List.mem_cons_self
      cases frame with
      | running => exact top
      | _ => cases top

theorem may_call_runs {history : List (Call FactoryFunction Args)} {frames : List (Frame FactoryFunction Args)}
    (nested : Nested history frames) (may : mayCall frames) : ∀ frame ∈ frames, Runs history frame := by
  cases frames with
  | nil => nofun
  | cons frame rest =>
      intro below member
      rcases List.mem_cons.mp member with same | later
      · rw [same]
        cases frame with
        | running => exact nested.1
        | _ => cases may
      · exact nested.2 below later

inductive Passes (before : Factory Thread FactoryFunction Args Obj) (t : Thread)
    (move : Move FactoryFunction Args Obj) :
    Option Thread → List (Frame FactoryFunction Args) → Prop where
  | stays (frames : List (Frame FactoryFunction Args)) : FindsRegistered before (t, move) →
      critical frames = critical (before.stack t) → Passes before t move before.lock frames
  | takes (frames : List (Frame FactoryFunction Args)) : FindsRegistered before (t, move) →
      before.lock = none → critical frames = true → Passes before t move (some t) frames
  | gives (frames : List (Frame FactoryFunction Args)) : FindsRegistered before (t, move) →
      critical (before.stack t) = true → critical frames = false → Passes before t move none frames
  | keeps (frames : List (Frame FactoryFunction Args)) : ¬FindsRegistered before (t, move) →
      critical (before.stack t) = true → critical frames = false →
      Passes before t move before.lock frames

structure Shape (before : Factory Thread FactoryFunction Args Obj) (t : Thread)
    (move : Move FactoryFunction Args Obj) (after : Factory Thread FactoryFunction Args Obj) : Prop where
  passes : Passes before t move after.lock (after.stack t)
  nested : Nested after.history (after.stack t)
  others : ∀ other, other ≠ t → after.stack other = before.stack other
  grows : before.history <+: after.history
  entries : Entries after
  returns : ∀ other result, (other, result) ∈ after.returned →
    (other, result) ∈ before.returned ∨ Follows after.history result

theorem put_shape {before middle : Factory Thread FactoryFunction Args Obj} {t : Thread}
    {move : Move FactoryFunction Args Obj} {frames : List (Frame FactoryFunction Args)}
    (frozen : middle.stack = before.stack) (results : middle.returned = before.returned)
    (grows : before.history <+: middle.history) (entries : Entries middle)
    (passes : Passes before t move middle.lock frames) (nested : Nested middle.history frames) :
    Shape before t move (put middle t frames) := by
  have same : (put middle t frames).stack t = frames := by
    simp [put]
  refine ⟨?_, ?_, ?_, grows, entries, ?_⟩
  · rw [same]
    exact passes
  · rw [same]
    exact nested
  · intro other apart
    simp [put, apart, frozen]
  · intro other result member
    exact Or.inl (results ▸ member)

theorem return_shape {before middle : Factory Thread FactoryFunction Args Obj} {t : Thread}
    {move : Move FactoryFunction Args Obj} {frames : List (Frame FactoryFunction Args)}
    {result : Returned FactoryFunction Args Obj}
    (frozen : middle.stack = before.stack) (results : middle.returned = before.returned)
    (grows : before.history <+: middle.history) (entries : Entries middle)
    (passes : Passes before t move middle.lock frames) (nested : Nested middle.history frames)
    (right : Follows middle.history result) :
    Shape before t move (giveBack (put middle t frames) t result) := by
  have shape := put_shape frozen results grows entries passes nested
  refine ⟨shape.passes, shape.nested, shape.others, grows, entries, ?_⟩
  intro other found member
  rcases List.mem_append.mp member with old | new
  · exact shape.returns other found old
  · have last := congrArg Prod.snd (List.mem_singleton.mp new)
    dsimp only at last
    rw [last]
    exact Or.inr right

omit [DecidableEq Thread] in
theorem nested_rest {s : Factory Thread FactoryFunction Args Obj} {t : Thread}
    {frame : Frame FactoryFunction Args} {rest : List (Frame FactoryFunction Args)}
    (nested : Nested s.history (s.stack t)) (top : s.stack t = frame :: rest) :
    Right s.history frame ∧ ∀ below ∈ rest, Runs s.history below := by
  rw [top] at nested
  exact nested

omit [DecidableEq Thread] in
theorem entries_look {s : Factory Thread FactoryFunction Args Obj} (entries : Entries s)
    {call : Call FactoryFunction Args}
    (known : ∀ className, s.map[className]? = none → registered [call] className = none) :
    Entries (look s call) := by
  intro className
  have held := entries className
  change s.map[className]? = registered (s.history ++ [call]) className
  rw [registered_append, ← held]
  cases there : s.map[className]? with
  | none => rw [known className there, Option.or_none]
  | some function => rfl

omit [DecidableEq Thread] in
theorem entries_regist {s : Factory Thread FactoryFunction Args Obj} (entries : Entries s) {className : Bytes}
    (pFunc : FactoryFunction) (absent : s.map[className]? = none) :
    Entries { look s (.regist className pFunc) with map := s.map.insert className pFunc } := by
  intro other
  have held := entries other
  change (s.map.insert className pFunc)[other]? = registered (s.history ++ [.regist className pFunc]) other
  rw [registered_append, ← held, get_insert]
  by_cases same : other = className
  · rw [if_pos same, same, absent]
    simp [registered]
  · have apart : className ≠ other := fun equal => same equal.symm
    simp [registered, same, apart]

omit [DecidableEq Thread] in
theorem no_create_meets {s : Factory Thread FactoryFunction Args Obj} {t : Thread}
    {call : Call FactoryFunction Args} {rest : List (Frame FactoryFunction Args)}
    (top : s.stack t = .holding call :: rest) (other : ∀ className args, call ≠ .create className args) :
    FindsRegistered s (t, (.find : Move FactoryFunction Args Obj)) := by
  intro className args looked
  rw [top] at looked
  cases looked
  exact absurd rfl (other className args)

theorem find_shape {before : Factory Thread FactoryFunction Args Obj} {t : Thread}
    {call : Call FactoryFunction Args} {rest : List (Frame FactoryFunction Args)}
    (nested : Nested before.history (before.stack t)) (entries : Entries before)
    (top : before.stack t = .holding call :: rest) : Shape before t .find (find before t rest call) := by
  have grows : before.history <+: before.history ++ [call] := List.prefix_append _ _
  have below : ∀ frame ∈ rest, Runs (before.history ++ [call]) frame := by
    intro frame member
    exact runs_later grows ((nested_rest nested top).2 frame member)
  have inside : critical (before.stack t) = true := by
    rw [top]
    rfl
  cases call with
  | regist className pFunc =>
      have meets := no_create_meets top nofun
      have held := entries className
      unfold find
      dsimp only
      cases looked : before.map[className]? with
      | some function =>
          rw [looked] at held
          have known : ∀ name : Bytes, before.map[name]? = none →
              registered [(.regist className pFunc : Call FactoryFunction Args)] name = none := by
            intro name absent
            have apart : className ≠ name := by
              rintro rfl
              rw [absent] at looked
              cases looked
            simp [registered, apart]
          refine put_shape rfl rfl grows (entries_look entries known) (Passes.stays _ meets inside.symm)
            ⟨⟨List.prefix_rfl, ?_⟩, below⟩
          rw [answerTo, ← held]
          rfl
      | none =>
          rw [looked] at held
          refine put_shape rfl rfl grows (entries_regist entries pFunc looked)
            (Passes.stays _ meets inside.symm) ⟨⟨List.prefix_rfl, ?_⟩, below⟩
          rw [answerTo, ← held]
          rfl
  | isRegisted className =>
      have meets := no_create_meets top nofun
      refine put_shape rfl rfl grows (entries_look entries fun _ _ => rfl)
        (Passes.stays _ meets inside.symm) ⟨⟨List.prefix_rfl, ?_⟩, below⟩
      rw [answerTo, entries className]
  | create className args =>
      have held := entries className
      unfold find
      dsimp only
      cases looked : before.map[className]? with
      | some function =>
          rw [looked] at held
          have meets : FindsRegistered before (t, (.find : Move FactoryFunction Args Obj)) := by
            intro name passed looking
            rw [top] at looking
            cases looking
            exact mem_of_get looked
          refine put_shape rfl rfl grows (entries_look entries fun _ _ => rfl)
            (Passes.stays _ meets inside.symm) ⟨⟨List.prefix_rfl, ?_⟩, below⟩
          rw [← held]
          rfl
      -- the early return: the call is over and its thread still has the lock
      | none =>
          rw [looked] at held
          have unmet : ¬FindsRegistered before (t, (.find : Move FactoryFunction Args Obj)) := by
            intro meets
            have member := meets className args (by rw [top]; rfl)
            exact get_none_iff.mp looked member
          refine return_shape rfl rfl grows (entries_look entries fun _ _ => rfl)
            (Passes.keeps _ unmet inside (runs_critical below)) (runs_nested below) ⟨List.prefix_rfl, ?_⟩
          rw [← held]
          rfl

theorem step_shape {before after : Factory Thread FactoryFunction Args Obj} {t : Thread}
    {move : Move FactoryFunction Args Obj} (nested : Nested before.history (before.stack t))
    (entries : Entries before) (taken : Step before (t, move) after) : Shape before t move after := by
  have same : before.history <+: before.history := List.prefix_rfl
  cases taken with
  | call _ call may =>
      have runs := may_call_runs nested may
      exact put_shape rfl rfl same entries (Passes.stays _ trivial (runs_critical runs).symm) ⟨trivial, runs⟩
  -- the one step that needs the lock free
  | lock _ call rest top unlocked =>
      exact put_shape rfl rfl same entries (Passes.takes _ trivial unlocked rfl)
        ⟨trivial, (nested_rest nested top).2⟩
  -- the only way out of the lock without giving it back
  | find _ call rest top => exact find_shape nested entries top
  | answer _ seen call answer rest top =>
      obtain ⟨right, below⟩ := nested_rest nested top
      have inside : critical (before.stack t) = true := by
        rw [top]
        rfl
      exact return_shape rfl rfl same entries (Passes.gives _ trivial inside (runs_critical below))
        (runs_nested below) right
  -- the guard goes out of scope before the function is called
  | invoke _ seen className args function rest top =>
      obtain ⟨right, below⟩ := nested_rest nested top
      have inside : critical (before.stack t) = true := by
        rw [top]
        rfl
      exact put_shape rfl rfl same entries (Passes.gives _ trivial inside rfl) ⟨right, below⟩
  | finish _ seen className args calls object rest top =>
      obtain ⟨right, below⟩ := nested_rest nested top
      have outside : critical (before.stack t) = false := by
        rw [top]
        rfl
      exact return_shape rfl rfl same entries
        (Passes.stays _ trivial ((runs_critical below).trans outside.symm)) (runs_nested below) right

theorem inv_step {before after : Factory Thread FactoryFunction Args Obj}
    {label : Thread × Move FactoryFunction Args Obj} (inv : Inv before)
    (taken : Step before label after) : Inv after := by
  obtain ⟨t, move⟩ := label
  have shape := step_shape (inv.nested t) inv.entries taken
  refine ⟨?_, ?_, shape.entries, ?_⟩
  · intro other
    by_cases same : other = t
    · rw [same]
      exact shape.nested
    · rw [shape.others other same]
      exact nested_later shape.grows (inv.nested other)
  · intro other inside
    have passes := shape.passes
    by_cases same : other = t
    · subst same
      generalize after.stack other = frames at passes inside
      generalize after.lock = lock at passes ⊢
      cases passes with
      | stays _ meets kept =>
          rw [kept] at inside
          exact inv.alone other inside
      | takes _ meets unlocked there => rfl
      | gives _ meets was left =>
          rw [left] at inside
          cases inside
      | keeps _ unmet was left =>
          rw [left] at inside
          cases inside
    -- another thread in its critical part has the lock, so that this step neither
    -- takes it nor gives it back
    · rw [shape.others other same] at inside
      have owner := inv.alone other inside
      generalize after.stack t = frames at passes
      generalize after.lock = lock at passes ⊢
      cases passes with
      | stays _ meets kept => exact owner
      | takes _ meets unlocked there =>
          rw [unlocked] at owner
          cases owner
      | gives _ meets was left =>
          rw [inv.alone t was] at owner
          exact absurd (Option.some.inj owner).symm same
      | keeps _ unmet was left => exact owner
  · intro other result member
    rcases shape.returns other result member with old | new
    · exact follows_later shape.grows (inv.returns other result old)
    · exact new

theorem critical_goes {s : Factory Thread FactoryFunction Args Obj} {t : Thread}
    (inside : critical (s.stack t) = true) : Goes s t := by
  cases top : s.stack t with
  | nil =>
      rw [top] at inside
      cases inside
  | cons frame rest =>
      rw [top] at inside
      cases frame with
      | holding call => exact ⟨.find, _, nofun, Step.find s t call rest top⟩
      | answering seen call answer => exact ⟨.unlock, _, nofun, Step.answer s t seen call answer rest top⟩
      | found seen className args function =>
          exact ⟨.unlock, _, nofun, Step.invoke s t seen className args function rest top⟩
      | _ => cases inside

theorem goes_of_held {s : Factory Thread FactoryFunction Args Obj}
    (held : ∀ t, s.lock = some t → critical (s.stack t)) (t : Thread) (inCall : s.stack t ≠ []) :
    Goes s t ∨ ∃ other, other ≠ t ∧ s.lock = some other ∧ Goes s other := by
  cases top : s.stack t with
  | nil => exact absurd top inCall
  | cons frame rest =>
      cases frame with
      -- who has the lock is in its critical part, and so is not the one that waits
      | waiting call =>
          cases owner : s.lock with
          | none => exact Or.inl ⟨.lock, _, nofun, Step.lock s t call rest top owner⟩
          | some other =>
              have inside := held other owner
              refine Or.inr ⟨other, ?_, rfl, critical_goes inside⟩
              intro same
              rw [same, top] at inside
              cases inside
      | running seen className args calls =>
          exact Or.inl ⟨.finish none, _, nofun, Step.finish s t seen className args calls none rest top⟩
      | _ => exact Or.inl (critical_goes (by rw [top]; rfl))

theorem good_of_held {s : Factory Thread FactoryFunction Args Obj} (inv : Inv s)
    (held : ∀ t, s.lock = some t → critical (s.stack t)) : Good s := by
  refine ⟨?_, held, goes_of_held held, inv.entries, inv.returns⟩
  intro idle
  cases owner : s.lock with
  | none => rfl
  | some t =>
      have inside := held t owner
      rw [idle t] at inside
      cases inside

theorem held_step {before after : Factory Thread FactoryFunction Args Obj} {t : Thread}
    {move : Move FactoryFunction Args Obj} (shape : Shape before t move after)
    (meets : FindsRegistered before (t, move))
    (held : ∀ t, before.lock = some t → critical (before.stack t)) (other : Thread)
    (owner : after.lock = some other) : critical (after.stack other) := by
  have passes := shape.passes
  -- the thread of the step has one of four passes; any other only sees the lock change
  by_cases same : other = t
  · subst same
    generalize after.stack other = frames at passes ⊢
    generalize after.lock = lock at passes owner
    cases passes with
    | stays _ _ kept =>
        rw [kept]
        exact held other owner
    | takes _ _ _ inside => exact inside
    | gives _ _ _ _ => cases owner
    | keeps _ unmet _ _ => exact absurd meets unmet
  · rw [shape.others other same]
    generalize after.stack t = frames at passes
    generalize after.lock = lock at passes owner
    cases passes with
    | stays _ _ _ => exact held other owner
    | takes _ _ _ _ => exact absurd (Option.some.inj owner).symm same
    | gives _ _ _ _ => cases owner
    | keeps _ unmet _ _ => exact absurd meets unmet

omit [DecidableEq Thread] in
theorem unmet_keeps {before after : Factory Thread FactoryFunction Args Obj} {t : Thread}
    {move : Move FactoryFunction Args Obj} (inv : Inv before) (shape : Shape before t move after)
    (unmet : ¬FindsRegistered before (t, move)) :
    after.lock = some t ∧ critical (after.stack t) = false := by
  have passes := shape.passes
  generalize after.stack t = frames at passes ⊢
  generalize after.lock = lock at passes ⊢
  cases passes with
  | stays _ meets _ => exact absurd meets unmet
  | takes _ meets _ _ => exact absurd meets unmet
  | gives _ meets _ _ => exact absurd meets unmet
  | keeps _ _ inside outside => exact ⟨inv.alone t inside, outside⟩

theorem step_decides {before after : Factory Thread FactoryFunction Args Obj}
    {label : Thread × Move FactoryFunction Args Obj} (inv : Inv before) (good : Good before)
    (taken : Step before label after) : FindsRegistered before label ↔ Good after := by
  obtain ⟨t, move⟩ := label
  have shape := step_shape (inv.nested t) inv.entries taken
  constructor
  · intro meets
    exact good_of_held (inv_step inv taken) (held_step shape meets good.held)
  · intro fine
    by_contra unmet
    obtain ⟨owner, outside⟩ := unmet_keeps inv shape unmet
    have inside := fine.held t owner
    rw [outside] at inside
    cases inside

omit [DecidableEq Thread] in
theorem start_inv : Inv (start : Factory Thread FactoryFunction Args Obj) :=
  ⟨fun _ => trivial, nofun, fun _ => ExtTreeMap.getElem?_empty, nofun⟩

/-- The lock is given back in every state of a run, and all calls go on, exactly
when each `Create` of the run finds its name. -/
theorem lock_given_back_iff (trace : List (Thread × Move FactoryFunction Args Obj))
    (s : Factory Thread FactoryFunction Args Obj) :
    Run (Guarded Step FindsRegistered) start trace s ↔ Run (Along Step Good) start trace s := by
  apply guarded_iff_along Inv
  · intro before label after inv taken
    exact inv_step inv taken
  · intro before label after inv good taken
    exact step_decides inv good taken
  · exact start_inv
  · exact good_of_held start_inv nofun

def KeptBy (t : Thread) (s : Factory Thread FactoryFunction Args Obj) : Prop :=
  s.lock = some t ∧ critical (s.stack t) = false

theorem kept_step {before after : Factory Thread FactoryFunction Args Obj} {t : Thread}
    {label : Thread × Move FactoryFunction Args Obj} (inv : Inv before) (kept : KeptBy t before)
    (taken : Step before label after) : KeptBy t after := by
  obtain ⟨mover, move⟩ := label
  obtain ⟨owner, outside⟩ := kept
  have shape := step_shape (inv.nested mover) inv.entries taken
  have passes := shape.passes
  unfold KeptBy
  -- its own thread is past the lookup and never asks for the lock again
  by_cases same : mover = t
  · subst same
    generalize after.stack mover = frames at passes ⊢
    generalize after.lock = lock at passes ⊢
    cases passes with
    | stays _ _ alike => exact ⟨owner, alike.trans outside⟩
    | takes _ _ unlocked _ =>
        rw [unlocked] at owner
        cases owner
    | gives _ _ inside _ =>
        rw [outside] at inside
        cases inside
    | keeps _ _ inside _ =>
        rw [outside] at inside
        cases inside
  -- another thread could only take a free lock, or give back one it holds
  · rw [shape.others t (Ne.symm same)]
    generalize after.stack mover = frames at passes
    generalize after.lock = lock at passes ⊢
    cases passes with
    | stays _ _ _ => exact ⟨owner, outside⟩
    | takes _ _ unlocked _ =>
        rw [unlocked] at owner
        cases owner
    | gives _ _ inside _ =>
        rw [inv.alone mover inside] at owner
        exact absurd (Option.some.inj owner) same
    | keeps _ _ _ _ => exact ⟨owner, outside⟩

/-- After a `Create` that did not find its name its thread has the lock in every
later state, and no call gets it any more. -/
theorem lock_kept_forever {front later : List (Thread × Move FactoryFunction Args Obj)} {t : Thread}
    {move : Move FactoryFunction Args Obj} {before after last : Factory Thread FactoryFunction Args Obj}
    (head : Run Step start front before) (taken : Step before (t, move) after)
    (unmet : ¬FindsRegistered before (t, move)) (tail : Run Step after later last) :
    KeptBy t last ∧ ∀ other next, ¬Step last (other, .lock) next := by
  have inv : Inv before := run_invariant Inv (fun _ _ _ => inv_step) head start_inv
  have kept : Inv last ∧ KeptBy t last := by
    apply run_invariant (fun s => Inv s ∧ KeptBy t s) _ tail
    · exact ⟨inv_step inv taken, unmet_keeps inv (step_shape (inv.nested t) inv.entries taken) unmet⟩
    · rintro state label next ⟨held, keeps⟩ moved
      exact ⟨inv_step held moved, kept_step held keeps moved⟩
  refine ⟨kept.2, ?_⟩
  intro other next locked
  cases locked with
  | lock _ call rest top unlocked =>
      rw [kept.2.1] at unlocked
      cases unlocked

theorem waiting_stuck {s : Factory Thread FactoryFunction Args Obj} {t : Thread}
    {call : Call FactoryFunction Args} {rest : List (Frame FactoryFunction Args)}
    (top : s.stack t = .waiting call :: rest) (taken : s.lock ≠ none) : ¬Goes s t := by
  rintro ⟨move, after, noCall, step⟩
  cases step with
  | call _ made may => exact noCall made rfl
  | lock _ made below same unlocked => exact taken unlocked
  | _ =>
      rename_i same
      rw [top] at same
      cases same

/-- A name that nobody has registered: when the only `Create` is over the lock is
taken, and the next call waits for ever. -/
theorem unknown_class_keeps_lock :
    ∃ idle stuck : Factory Nat Nat Nat Nat,
      Run Step start [(0, .call (.create [65] 1)), (0, .lock), (0, .find)] idle ∧
        (∀ t, idle.stack t = []) ∧ idle.lock = some 0 ∧
        Step idle (1, .call (.isRegisted [65])) stuck ∧
        (∀ t, t ≠ 1 → stuck.stack t = []) ∧ ¬Goes stuck 1 := by
  refine ⟨_, _, .next (.call _ 0 (.create [65] 1) rfl) (.next (.lock _ 0 _ [] rfl rfl)
    (.next (.find _ 0 _ [] rfl) (.refl _))), ?_, rfl, .call _ 1 (.isRegisted [65]) rfl, ?_, ?_⟩
  · intro t
    simp [find, look, put, giveBack, start]
  · intro t other
    simp [find, look, put, giveBack, start, other]
  · exact waiting_stuck rfl nofun

/-! ### The message that creates -/

section Messages

open ComponentCreation

/-- The arguments with which `DynamicCall<count>::Invoke` gets to a factory. -/
def factoryArgs : Nat → List Value → List CreateComponentParam → Option (List Value)
  | 0, _, _ => none
  | _ + 1, args, [] => some args
  | count + 1, args, param :: params =>
      if param.type = 0 then factoryArgs count (args ++ [.int param.intParam]) params
      else if param.type = 1 then factoryArgs count (args ++ [.string param.stringParam]) params
      else if param.type = 2 then factoryArgs count (args ++ [.uint64 param.uint64Param]) params
      else none

theorem dynamic_call_factory (registry : Registry) (className : Bytes) (sn : UInt64) (count : Nat)
    (args : List Value) (params : List CreateComponentParam) :
    dynamicCall registry className sn count args params =
      (factoryArgs count args params).bind (addComponentByName registry className sn) := by
  induction count generalizing args params with
  | zero => rfl
  | succ count ih =>
      cases params with
      | nil => rfl
      | cons param rest =>
          unfold dynamicCall factoryArgs
          split
          · exact ih _ rest
          · split
            · exact ih _ rest
            · split
              · exact ih _ rest
              · rfl

omit [DecidableEq Thread] in
/-- The `Create` that a message leads to, in the factory of its argument types,
meets the condition just when the message creates something: one unknown class
name is enough to stop that factory. -/
theorem message_meets_iff {registry : Registry} {proto : CreateComponent} {args : List Value}
    {s : Factory Thread FactoryFunction (UInt64 × List Value) Obj} {t : Thread}
    {rest : List (Frame FactoryFunction (UInt64 × List Value))}
    (few : proto.params.length ≤ maxDynamicCall)
    (called : factoryArgs maxDynamicCall [] proto.params = some args)
    (names : ∀ className, (args.map Value.kind, className) ∈ registry ↔ className ∈ s.map)
    (top : s.stack t = .holding (.create proto.className (proto.sn, args)) :: rest) :
    FindsRegistered s (t, (.find : Move FactoryFunction (UInt64 × List Value) Obj)) ↔
      (handleCreateComponent registry proto).isSome := by
  -- five parameters and more are refused before the factory is called
  have created : handleCreateComponent registry proto =
      addComponentByName registry proto.className proto.sn args := by
    rw [handleCreateComponent, if_neg (by omega), dynamic_call_factory, called]
    rfl
  have looks : FindsRegistered s (t, (.find : Move FactoryFunction (UInt64 × List Value) Obj)) ↔
      proto.className ∈ s.map := by
    constructor
    · intro meets
      exact meets proto.className (proto.sn, args) (by rw [top]; rfl)
    · intro member className passed looked
      rw [top] at looked
      cases looked
      exact member
  rw [looks, created, addComponentByName, ← names]
  split
  · rename_i listed
    exact ⟨fun _ => rfl, fun _ => listed⟩
  · rename_i missing
    constructor
    · intro listed
      exact absurd listed missing
    · intro created
      cases created

end Messages

end GameBook.ComponentFactory
