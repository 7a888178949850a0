import GameBook.CString
import GameBook.ThreadDispatch

/-!
`CreateComponentWithSn` and the delivery of its packet: the arguments are laid
out in a `Proto::CreateComponent` one by one, and `DynamicCall` puts them back
into a list of typed arguments for the factory. Reading the packet stops at the
first string that is not UTF-8, with the serial number behind it unread, and a
call with as many arguments as `MaxDynamicCall` never gets to the factory.
-/

namespace GameBook.ComponentCreation

open CString OrderedMap Std ThreadDispatch

/-- `IsStructurallyValidUTF8`: surrogates are not accepted. -/
def isStructurallyValidUtf8 (bytes : Bytes) : Bool := (ByteArray.mk bytes.toArray).validateUTF8

inductive Kind where
  | int
  | string
  | uint64
  deriving DecidableEq, Repr

inductive Value where
  | int (value : Int32)
  | string (value : Bytes)
  | uint64 (value : UInt64)
  deriving DecidableEq, Repr

def Value.kind : Value → Kind
  | .int _ => .int
  | .string _ => .string
  | .uint64 _ => .uint64

/-- What `typeid(T).name()` gives. -/
structure ClassName where
  name : Bytes
  clean : 0 ∉ name
  valid : isStructurallyValidUtf8 name = true

/-! ### The message -/

/-- `type` is the number of an open enumeration: Int 0, String 1, UInt64 2. -/
structure CreateComponentParam where
  type : Int32
  intParam : Int32
  stringParam : Bytes
  uint64Param : UInt64
  deriving DecidableEq, Repr

structure CreateComponent where
  threadType : Nat
  className : Bytes
  isToAllThread : Bool
  params : List CreateComponentParam
  sn : UInt64
  deriving DecidableEq, Repr

/-- `AnalyseParam`: one overload for each kind, on the first argument. -/
def analyseParam : List Value → List CreateComponentParam
  | [] => []
  | .int value :: args => ⟨0, value, [], 0⟩ :: analyseParam args
  | .string value :: args => ⟨1, 0, cStr value, 0⟩ :: analyseParam args
  | .uint64 value :: args => ⟨2, 0, [], value⟩ :: analyseParam args

/-- The parameters that are read; a string that is no UTF-8 is stored, and
ends the reading. -/
def readParams : List CreateComponentParam → List CreateComponentParam × Bool
  | [] => ([], true)
  | param :: rest =>
      if isStructurallyValidUtf8 param.stringParam then
        (param :: (readParams rest).1, (readParams rest).2)
      else ([param], false)

/-- `ParsePartialFromArray` on the bytes of a message. The fields come in the
order of their numbers, the serial number last, and whether all could be read
is not looked at. -/
def parsePartial (proto : CreateComponent) : CreateComponent :=
  if isStructurallyValidUtf8 proto.className then
    { proto with
      params := (readParams proto.params).1
      sn := if (readParams proto.params).2 then proto.sn else 0 }
  else { proto with isToAllThread := false, params := [], sn := 0 }

/-! ### The factories -/

/-- The class names in the `ComponentFactory` of each list of types. -/
abbrev Registry := List (List Kind × Bytes)

structure Call where
  className : Bytes
  sn : UInt64
  args : List Value
  deriving DecidableEq, Repr

/-- `AddComponentByName`. A name that is not found creates nothing (and leaves
the lock of that `ComponentFactory` taken). -/
def addComponentByName (registry : Registry) (className : Bytes) (sn : UInt64) (args : List Value) :
    Option Call :=
  if (args.map Value.kind, className) ∈ registry then some ⟨className, sn, args⟩ else none

def dynamicCall (registry : Registry) (className : Bytes) (sn : UInt64) :
    Nat → List Value → List CreateComponentParam → Option Call
  | 0, _, _ => none
  | _ + 1, args, [] => addComponentByName registry className sn args
  | count + 1, args, param :: params =>
      if param.type = 0 then
        dynamicCall registry className sn count (args ++ [.int param.intParam]) params
      else if param.type = 1 then
        dynamicCall registry className sn count (args ++ [.string param.stringParam]) params
      else if param.type = 2 then
        dynamicCall registry className sn count (args ++ [.uint64 param.uint64Param]) params
      else none

def maxDynamicCall : Nat := 4

def handleCreateComponent (registry : Registry) (proto : CreateComponent) : Option Call :=
  if proto.params.length > maxDynamicCall then none
  else dynamicCall registry proto.className proto.sn maxDynamicCall [] proto.params

def createComponentWithSn (registry : Registry) (className : ClassName) (threadType : Nat) (sn : UInt64)
    (isToAllThread : Bool) (args : List Value) : Registry × CreateComponent :=
  (if (args.map Value.kind, className.name) ∈ registry then registry
    else (args.map Value.kind, className.name) :: registry,
    ⟨threadType, cStr className.name, isToAllThread, analyseParam args, sn⟩)

def updateCreatePacket (collectors : Collectors) (packet : CreateComponent) :
    Option (List Target × Collectors) :=
  targetsOf collectors (.create (parsePartial packet).threadType (parsePartial packet).isToAllThread)

def creations (registry : Registry) (packet : CreateComponent) (targets : List Target) : List (Target × Call) :=
  targets.flatMap fun target =>
    ((handleCreateComponent registry (parsePartial packet)).map fun call => (target, call)).toList

/-! ### What arrives -/

/-- The factory of these argument types is called once in each list with just
these arguments; too many arguments create nothing. -/
def Faithful (config : Table Nat Threads) (registry : Registry) (className : ClassName) (threadType : Nat)
    (sn : UInt64) (isToAllThread : Bool) (args : List Value) (packet : CreateComponent)
    (targets : List Target) : Prop :=
  FansOut config targets (.create threadType isToAllThread) ∧
    creations registry packet targets =
      if args.length ≤ maxDynamicCall then targets.map fun target => (target, ⟨className.name, sn, args⟩)
      else []

def Clean : Value → Prop
  | .string value => 0 ∉ value
  | _ => True

def wellFormed : Value → Bool
  | .string value => isStructurallyValidUtf8 (cStr value)
  | _ => true

def reached : List Value → List Value
  | [] => []
  | value :: rest => if wellFormed value then value :: reached rest else [value]

/-- Up to three arguments arrive if no string has a NUL and all are UTF-8, where
the last one need not be with a zero serial number. Too many create nothing
unless a string cuts them down to arguments that the class is registered with. -/
def Arrives (registry : Registry) (className : ClassName) (sn : UInt64) (args : List Value) : Prop :=
  if args.length ≤ maxDynamicCall then
    args.length ≠ maxDynamicCall ∧ (∀ value ∈ args, Clean value) ∧ reached args = args ∧
      (args.all wellFormed = true ∨ sn = 0)
  else (reached args).length < maxDynamicCall → ((reached args).map Value.kind, className.name) ∉ registry

def carried : Value → Value
  | .string value => .string (cStr value)
  | value => value

theorem kind_carried (value : Value) : (carried value).kind = value.kind := by
  cases value <;> rfl

theorem carried_eq_iff (value : Value) : carried value = value ↔ Clean value := by
  cases value with
  | int value => simp [carried, Clean]
  | uint64 value => simp [carried, Clean]
  | string value =>
      rw [carried, Clean, Value.string.injEq]
      constructor
      · intro same
        rw [← same]
        exact c_str_clean value
      · exact c_str_of_clean value

theorem map_carried_iff (args : List Value) : args.map carried = args ↔ ∀ value ∈ args, Clean value := by
  induction args with
  | nil => simp
  | cons value rest ih => simp [carried_eq_iff, ih]

theorem empty_valid : isStructurallyValidUtf8 [] = true :=
  ByteArray.validateUTF8_eq_true_iff.mpr ByteArray.isValidUTF8_empty

theorem length_analyse (args : List Value) : (analyseParam args).length = args.length := by
  induction args with
  | nil => rfl
  | cons value rest ih => cases value <;> simp [analyseParam, ih]

theorem read_analyse (args : List Value) :
    readParams (analyseParam args) = (analyseParam (reached args), args.all wellFormed) := by
  induction args with
  | nil => rfl
  | cons value rest ih =>
      cases value with
      | int number => simp [analyseParam, readParams, reached, wellFormed, empty_valid, ih]
      | uint64 number => simp [analyseParam, readParams, reached, wellFormed, empty_valid, ih]
      | string text =>
          cases valid : isStructurallyValidUtf8 (cStr text) with
          | true => simp [analyseParam, readParams, reached, wellFormed, valid, ih]
          | false => simp [analyseParam, readParams, reached, wellFormed, valid]

theorem dynamic_call_analyse (registry : Registry) (className : Bytes) (sn : UInt64) (count : Nat)
    (done args : List Value) :
    dynamicCall registry className sn count done (analyseParam args) =
      if args.length < count then addComponentByName registry className sn (done ++ args.map carried)
      else none := by
  induction args generalizing count done with
  | nil =>
      cases count with
      | zero => rfl
      | succ count => simp [dynamicCall, analyseParam]
  | cons value rest ih =>
      cases count with
      | zero => cases value <;> rfl
      | succ count =>
          have fewer : (value :: rest).length < count + 1 ↔ rest.length < count := by
            rw [List.length_cons]
            omega
          cases value <;> simp [dynamicCall, analyseParam, ih, carried]

theorem handle_sent (registry before : Registry) (className : ClassName) (threadType : Nat) (sn : UInt64)
    (isToAllThread : Bool) (args : List Value) :
    handleCreateComponent registry
        (parsePartial (createComponentWithSn before className threadType sn isToAllThread args).2) =
      if (reached args).length < maxDynamicCall then
        addComponentByName registry className.name (if args.all wellFormed then sn else 0)
          ((reached args).map carried)
      else none := by
  have name := c_str_of_clean className.name className.clean
  have valid := className.valid
  simp only [createComponentWithSn, parsePartial, name, valid, if_true, read_analyse, handleCreateComponent,
    dynamic_call_analyse, length_analyse, List.nil_append]
  by_cases many : (reached args).length > maxDynamicCall
  · rw [if_pos many, if_neg (by omega)]
  · rw [if_neg many]

theorem reached_front (args : List Value) : reached args <+: args := by
  induction args with
  | nil => exact List.prefix_refl []
  | cons value rest ih =>
      rw [reached]
      split
      · exact (List.prefix_cons_inj value).mpr ih
      · exact (List.prefix_cons_inj value).mpr (List.nil_prefix)

theorem creations_some_iff {registry : Registry} {packet : CreateComponent} (call : Call) {targets : List Target}
    (filled : targets ≠ []) :
    creations registry packet targets = targets.map (fun target => (target, call)) ↔
      handleCreateComponent registry (parsePartial packet) = some call := by
  unfold creations
  cases created : handleCreateComponent registry (parsePartial packet) with
  | none =>
      constructor
      · intro same
        have empty : targets.map (fun target => (target, call)) = [] := same.symm.trans (by simp)
        exact absurd (List.map_eq_nil_iff.mp empty) filled
      · intro same
        cases same
  | some other =>
      have each : (targets.flatMap fun target => ((some other).map fun call => (target, call)).toList) =
          targets.map fun target => (target, other) := List.map_eq_flatMap.symm
      rw [each]
      constructor
      · intro same
        obtain ⟨target, member⟩ := List.exists_mem_of_ne_nil targets filled
        have equal := List.map_inj_left.mp same target member
        rw [(Prod.mk.inj equal).2]
      · rintro ⟨⟩
        rfl

theorem creations_none_iff {registry : Registry} {packet : CreateComponent} {targets : List Target}
    (filled : targets ≠ []) :
    creations registry packet targets = [] ↔ handleCreateComponent registry (parsePartial packet) = none := by
  unfold creations
  rw [List.flatMap_eq_nil_iff]
  obtain ⟨target, member⟩ := List.exists_mem_of_ne_nil targets filled
  constructor
  · intro empty
    simpa using empty target member
  · intro none
    simp [none]

theorem targets_filled {collectors after : Collectors} {threadType : Nat} {isToAllThread : Bool}
    {targets : List Target}
    (found : targetsOf collectors (.create threadType isToAllThread) = some (targets, after)) : targets ≠ [] := by
  simp only [targetsOf] at found
  split at found
  · cases found
    exact List.cons_ne_nil _ _
  · split at found
    · cases found
    · rename_i collector held
      cases found
      cases isToAllThread with
      | false => exact List.cons_ne_nil _ _
      | true =>
          intro empty
          exact collector.threads.filled (List.map_eq_nil_iff.mp empty)

/-! ### Both ends together -/

section Sent

variable (before later : Registry) (className : ClassName) (threadType : Nat) (sn : UInt64)
  (isToAllThread : Bool) (args : List Value)

theorem update_sent (collectors : Collectors) :
    updateCreatePacket collectors (createComponentWithSn before className threadType sn isToAllThread args).2 =
      targetsOf collectors (.create threadType isToAllThread) := by
  have name := c_str_of_clean className.name className.clean
  simp only [updateCreatePacket, createComponentWithSn, parsePartial, name, className.valid, if_true]

theorem sent_registered : (args.map Value.kind, className.name) ∈
    later ++ (createComponentWithSn before className threadType sn isToAllThread args).1 := by
  apply List.mem_append_right
  unfold createComponentWithSn
  by_cases known : (args.map Value.kind, className.name) ∈ before
  · rw [if_pos known]
    exact known
  · rw [if_neg known]
    exact List.mem_cons_self

theorem handle_few_iff (few : args.length ≤ maxDynamicCall) :
    handleCreateComponent (later ++ (createComponentWithSn before className threadType sn isToAllThread args).1)
        (parsePartial (createComponentWithSn before className threadType sn isToAllThread args).2) =
      some ⟨className.name, sn, args⟩ ↔
    args.length ≠ maxDynamicCall ∧ (∀ value ∈ args, Clean value) ∧ reached args = args ∧
      (args.all wellFormed = true ∨ sn = 0) := by
  have registered := sent_registered before later className threadType sn isToAllThread args
  rw [handle_sent]
  constructor
  · intro created
    split at created
    · rename_i short
      unfold addComponentByName at created
      split at created
      · obtain ⟨-, number, values⟩ := Call.mk.inj (Option.some.inj created)
        have same : (reached args).length = args.length := by
          rw [← List.length_map carried, values]
        -- as many arguments as were sent, so the reading did not stop before the last
        have all := (reached_front args).eq_of_length same
        rw [all] at values
        refine ⟨by omega, (map_carried_iff args).mp values, all, ?_⟩
        by_cases whole : args.all wellFormed = true
        · exact Or.inl whole
        · rw [if_neg whole] at number
          exact Or.inr number.symm
      · cases created
    · cases created
  · rintro ⟨fewer, clean, all, whole⟩
    have number : (if args.all wellFormed = true then sn else 0) = sn := by
      rcases whole with valid | zero
      · rw [if_pos valid]
      · rw [zero, ite_self]
    rw [all, if_pos (by omega), number, (map_carried_iff args).mpr clean]
    exact if_pos registered

theorem handle_many_iff (registry : Registry) :
    handleCreateComponent registry
        (parsePartial (createComponentWithSn before className threadType sn isToAllThread args).2) = none ↔
    ((reached args).length < maxDynamicCall →
      ((reached args).map Value.kind, className.name) ∉ registry) := by
  -- cutting a string at a NUL does not change its kind
  have kinds : ((reached args).map carried).map Value.kind = (reached args).map Value.kind := by
    rw [List.map_map]
    exact List.map_congr_left fun value _ => kind_carried value
  rw [handle_sent]
  by_cases short : (reached args).length < maxDynamicCall
  · rw [if_pos short, addComponentByName, kinds]
    by_cases known : ((reached args).map Value.kind, className.name) ∈ registry
    · simp [known, short]
    · simp [known]
  · simp [short]

end Sent

/-- Delivered to its lists, a creation calls the factory once in each of them,
with the serial number and the arguments it was asked for, exactly when they
arrive; with a call to all threads these are all threads of the type. -/
theorem creation_faithful_iff (before later : Registry) (className : ClassName) (threadType : Nat)
    (sn : UInt64) (isToAllThread : Bool) (args : List Value) (config : Table Nat Threads)
    (collectors after : Collectors) (targets : List Target) (same : SameThreads config collectors)
    (delivered : updateCreatePacket collectors
      (createComponentWithSn before className threadType sn isToAllThread args).2 = some (targets, after)) :
    Faithful config (later ++ (createComponentWithSn before className threadType sn isToAllThread args).1)
        className threadType sn isToAllThread args
        (createComponentWithSn before className threadType sn isToAllThread args).2 targets ↔
      Arrives (later ++ (createComponentWithSn before className threadType sn isToAllThread args).1)
        className sn args := by
  rw [update_sent] at delivered
  have filled := targets_filled delivered
  have fans := create_fans_out same delivered
  unfold Faithful Arrives
  rw [and_iff_right fans]
  by_cases few : args.length ≤ maxDynamicCall
  · rw [if_pos few, if_pos few, creations_some_iff _ filled]
    exact handle_few_iff before later className threadType sn isToAllThread args few
  · rw [if_neg few, if_neg few, creations_none_iff filled]
    exact handle_many_iff before className threadType sn isToAllThread args _

def worldName : ClassName where
  name := [53, 87, 111, 114, 108, 100]
  clean := by decide
  valid := ByteArray.validateUTF8_eq_true_iff.mpr "5World".isValidUTF8

def logicThreads : Table Nat Threads := (∅ : Table Nat Threads).insert 2 ⟨[5, 9], by decide, by decide⟩

theorem logic_same : SameThreads logicThreads (logicThreads.map fun _ threads => newCollector threads) := by
  exact (start_inv logicThreads).same

theorem world_delivered (args : List Value) : ∃ targets after,
    updateCreatePacket (logicThreads.map fun _ threads => newCollector threads)
      (createComponentWithSn [] worldName 2 7 false args).2 = some (targets, after) := by
  rw [update_sent]
  exact ⟨_, _, rfl⟩

/-- A world with its map arrives. -/
theorem world_arrives : ∃ targets after,
    updateCreatePacket (logicThreads.map fun _ threads => newCollector threads)
      (createComponentWithSn [] worldName 2 7 false [.int 3]).2 = some (targets, after) ∧
    Faithful logicThreads ([] ++ (createComponentWithSn [] worldName 2 7 false [.int 3]).1)
      worldName 2 7 false [.int 3] (createComponentWithSn [] worldName 2 7 false [.int 3]).2 targets := by
  obtain ⟨targets, after, delivered⟩ := world_delivered [.int 3]
  refine ⟨targets, after, delivered, ?_⟩
  apply (creation_faithful_iff [] [] worldName 2 7 false [.int 3] _ _ after targets logic_same delivered).mpr
  refine ⟨by decide, ?_, rfl, Or.inl rfl⟩
  intro value member
  rw [List.mem_singleton.mp member]
  trivial

def fourArgs : List Value := [.int 1, .int 2, .int 3, .int 4]

/-- They are sent, and create nothing. -/
theorem four_args_lost : ∃ targets after,
    updateCreatePacket (logicThreads.map fun _ threads => newCollector threads)
      (createComponentWithSn [] worldName 2 7 false fourArgs).2 = some (targets, after) ∧
    ¬ Faithful logicThreads (createComponentWithSn [] worldName 2 7 false fourArgs).1
      worldName 2 7 false fourArgs (createComponentWithSn [] worldName 2 7 false fourArgs).2 targets := by
  obtain ⟨targets, after, delivered⟩ := world_delivered fourArgs
  refine ⟨targets, after, delivered, ?_⟩
  rw [update_sent] at delivered
  rintro ⟨-, created⟩
  have nothing := (handle_few_iff [] [] worldName 2 7 false fourArgs (by decide)).mp
  rw [if_pos (by decide), creations_some_iff _ (targets_filled delivered)] at created
  exact (nothing created).1 rfl

end GameBook.ComponentCreation
