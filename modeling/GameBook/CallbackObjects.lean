import GameBook.MessageSystem

/-!
The callback objects behind the two tables of a message system. Registering
makes a component of its own for each callback, which belongs to no entity's
components, and `RemoveFunction` drops the entries of an SN without returning
the objects that they name. Objects are numbered as they are made; components
other than callbacks stand among the entities.
-/

namespace GameBook.CallbackObjects

open OrderedMap Std LabelledRun MessageSystem

variable {Handler : Type}

structure Tagged (Handler : Type) where
  object : Nat
  function : Handler
  deriving DecidableEq, Repr

def objectOf : Callback (Tagged Handler) → Nat
  | .message handleFunction => handleFunction.object
  | .filter _ handleFunction => handleFunction.object

/-- `entities` has the SN of each one that is not back in its pool, `removing`
those that wait for the next `Update`, `inUse` the callback objects that no pool
has back. -/
structure Thread (Handler : Type) where
  system : MessageSystem (Tagged Handler)
  entities : Table Nat UInt64
  removing : List Nat
  inUse : List Nat
  next : Nat

def start : Thread Handler := ⟨new, ∅, [], [], 0⟩

def addCallback (s : Thread Handler) (system : MessageSystem (Tagged Handler)) : Thread Handler :=
  { s with system := system, inUse := s.next :: s.inUse, next := s.next + 1 }

inductive Event (Handler : Type) where
  | create (sn : UInt64)
  | registerFunction (entity : Nat) (msgId : Int) (handleFunction : Handler)
  | registerFunctionFilter (entity : Nat) (msgId : Int) (getFilterObj handleFunction : Handler)
  | registerDefaultFunction (entity : Nat) (handleFunction : Handler)
  | removeComponent (entity : Nat)
  | backToPool (entity : Nat)
  | process (finds : Tagged Handler → Bool) (packet : Packet)

inductive Step : Thread Handler → Event Handler → Thread Handler → Prop where
  | created {s sn} : Step s (.create sn) { s with entities := s.entities.insert s.next sn, next := s.next + 1 }
  | registered {s entity sn msgId f} (alive : s.entities[entity]? = some sn) :
      Step s (.registerFunction entity msgId f)
        (addCallback s (registerFunction s.system sn msgId (.message ⟨s.next, f⟩)))
  | filtered {s entity sn msgId g f} (alive : s.entities[entity]? = some sn) :
      Step s (.registerFunctionFilter entity msgId g f)
        (addCallback s (registerFunction s.system sn msgId (.filter ⟨s.next, g⟩ ⟨s.next, f⟩)))
  | defaulted {s entity sn f} (alive : s.entities[entity]? = some sn) :
      Step s (.registerDefaultFunction entity f)
        (addCallback s (registerDefaultFunction s.system sn (.message ⟨s.next, f⟩)))
  | asked {s entity} (alive : entity ∈ s.entities) :
      Step s (.removeComponent entity) { s with removing := s.removing ++ [entity] }
  -- `ComponentBackToPool` in an `Update`: the callbacks are not among the components that go along
  | returned {s entity sn} (asked : entity ∈ s.removing) (alive : s.entities[entity]? = some sn) :
      Step s (.backToPool entity)
        { s with
          system := removeFunction s.system sn
          entities := s.entities.erase entity
          removing := s.removing.filter (· ≠ entity) }
  | processed {s finds packet} :
      Step s (.process finds packet) { s with system := (process finds s.system packet).1 }

/-! ### References -/

inductive Place where
  | function (msgId : Int) (sn : UInt64)
  | default (sn : UInt64)
  deriving DecidableEq, Repr

def Place.sn : Place → UInt64
  | .function _ sn => sn
  | .default sn => sn

def entryAt (system : MessageSystem (Tagged Handler)) : Place → Option (Callback (Tagged Handler))
  | .function msgId sn => functionAt system msgId sn
  | .default sn => defaultAt system sn

def RefersTo (system : MessageSystem (Tagged Handler)) (place : Place) (object : Nat) : Prop :=
  ∃ callback, entryAt system place = some callback ∧ objectOf callback = object

def LiveSn (s : Thread Handler) (sn : UInt64) : Prop := ∃ entity : Nat, s.entities[entity]? = some sn

/-- Every callback object has its one entry, under the SN of a live entity, so
there are no more of them than such entries. -/
structure Released (s : Thread Handler) : Prop where
  one : ∀ object ∈ s.inUse, ∃ place, RefersTo s.system place object ∧ LiveSn s place.sn ∧
    ∀ other, RefersTo s.system other object → other = place
  bounded : ∃ places : List Place, places.Nodup ∧ places.length = s.inUse.length ∧
    ∀ place ∈ places, (entryAt s.system place).isSome ∧ LiveSn s place.sn

/-- A registration finds its place free, for default callbacks of null entries
too, and who goes back to a pool leaves no entry of its SN behind. -/
def Fits (s : Thread Handler) : Event Handler → Prop
  | .registerFunction entity msgId _ | .registerFunctionFilter entity msgId _ _ =>
      ∀ sn, s.entities[entity]? = some sn → functionAt s.system msgId sn = none
  | .registerDefaultFunction entity _ =>
      ∀ sn, s.entities[entity]? = some sn → s.system.defaultCallbacks[sn]? = none
  | .backToPool entity =>
      ∀ sn, s.entities[entity]? = some sn → ∀ place : Place, place.sn = sn → entryAt s.system place = none
  | _ => True

/-! ### One step -/

/-- Entries name objects that are there, and numbers are given once. -/
structure Numbered (s : Thread Handler) : Prop where
  named : ∀ place object, RefersTo s.system place object → object ∈ s.inUse
  objects : ∀ object ∈ s.inUse, object < s.next
  entities : ∀ entity ∈ s.entities, entity < s.next
  nodup : s.inUse.Nodup

theorem refers_unique {system : MessageSystem (Tagged Handler)} {place : Place} {first second : Nat}
    (one : RefersTo system place first) (other : RefersTo system place second) : first = second := by
  obtain ⟨callback, entry, rfl⟩ := one
  obtain ⟨again, same, rfl⟩ := other
  rw [entry] at same
  cases same
  rfl

theorem released_of_one {s : Thread Handler} (nodup : s.inUse.Nodup)
    (one : ∀ object ∈ s.inUse, ∃ place, RefersTo s.system place object ∧ LiveSn s place.sn ∧
      ∀ other, RefersTo s.system other object → other = place) : Released s := by
  refine ⟨one, ?_⟩
  choose placeOf refers live _ using one
  refine ⟨s.inUse.attach.map fun object => placeOf object.1 object.2, ?_, by simp, ?_⟩
  · apply List.Nodup.map_on _ (List.nodup_attach.mpr nodup)
    intro first _ second _ same
    apply Subtype.ext
    have other := refers second.1 second.2
    rw [← same] at other
    exact refers_unique (refers first.1 first.2) other
  · intro place member
    obtain ⟨object, -, rfl⟩ := List.mem_map.mp member
    obtain ⟨callback, entry, -⟩ := refers object.1 object.2
    exact ⟨by rw [entry]; rfl, live object.1 object.2⟩

theorem released_same {s t : Thread Handler} (released : Released s) (nodup : s.inUse.Nodup)
    (objects : t.inUse = s.inUse) (entries : ∀ place, entryAt t.system place = entryAt s.system place)
    (live : ∀ place : Place, (entryAt s.system place).isSome → LiveSn s place.sn → LiveSn t place.sn) :
    Released t := by
  have refers : ∀ place object, RefersTo t.system place object ↔ RefersTo s.system place object := by
    intro place object
    rw [RefersTo, RefersTo, entries]
  apply released_of_one (objects ▸ nodup)
  intro object member
  rw [objects] at member
  obtain ⟨place, named, lives, only⟩ := released.one object member
  refine ⟨place, (refers _ _).mpr named, ?_, fun other there => only other ((refers _ _).mp there)⟩
  obtain ⟨callback, entry, -⟩ := named
  exact live place (by rw [entry]; rfl) lives

theorem released_placed {s : Thread Handler} (numbered : Numbered s) (released : Released s)
    {system : MessageSystem (Tagged Handler)} {place : Place} {callback : Callback (Tagged Handler)}
    (tagged : objectOf callback = s.next) (live : LiveSn s place.sn) (free : entryAt s.system place = none)
    (entries : ∀ other, entryAt system other = if other = place then some callback else entryAt s.system other) :
    Released (addCallback s system) := by
  have old : ∀ other object, object ≠ s.next →
      (RefersTo system other object ↔ RefersTo s.system other object) := by
    intro other object apart
    unfold RefersTo
    rw [entries]
    by_cases same : other = place
    · rw [if_pos same, same, free]
      constructor
      · rintro ⟨_, ⟨⟩, rfl⟩
        exact absurd tagged apart
      · rintro ⟨_, ⟨⟩, _⟩
    · rw [if_neg same]
  apply released_of_one
  · apply List.nodup_cons.mpr
    refine ⟨?_, numbered.nodup⟩
    intro member
    exact Nat.lt_irrefl _ (numbered.objects s.next member)
  · intro object member
    rcases List.mem_cons.mp member with rfl | older
    · refine ⟨place, ⟨callback, by rw [addCallback, entries, if_pos rfl], tagged⟩, live, ?_⟩
      rintro other ⟨found, entry, same⟩
      by_contra apart
      rw [addCallback, entries, if_neg apart] at entry
      exact Nat.lt_irrefl _ (numbered.objects _ (numbered.named other _ ⟨found, entry, same⟩))
    -- an older callback keeps the place it had
    · have apart : object ≠ s.next := Nat.ne_of_lt (numbered.objects object older)
      obtain ⟨own, named, lives, only⟩ := released.one object older
      exact ⟨own, (old own object apart).mpr named, lives,
        fun other there => only other ((old other object apart).mp there)⟩

theorem dropped_not_released {s : Thread Handler} (numbered : Numbered s)
    {system : MessageSystem (Tagged Handler)}
    (entries : ∀ place, entryAt system place = entryAt s.system place) : ¬ Released (addCallback s system) := by
  intro released
  obtain ⟨place, ⟨callback, entry, same⟩, -⟩ := released.one s.next List.mem_cons_self
  rw [addCallback, entries] at entry
  exact Nat.lt_irrefl _ (numbered.objects _ (numbered.named place _ ⟨callback, entry, same⟩))

theorem added_step {s : Thread Handler} (numbered : Numbered s) (released : Released s)
    {system : MessageSystem (Tagged Handler)} {place : Place} {callback : Callback (Tagged Handler)}
    {free : Prop} [Decidable free]
    (entries : ∀ other, entryAt system other =
      if other = place ∧ free then some callback else entryAt s.system other)
    (tagged : objectOf callback = s.next) (live : LiveSn s place.sn)
    (empty : free → entryAt s.system place = none) :
    Numbered (addCallback s system) ∧ (free ↔ Released (addCallback s system)) := by
  constructor
  · refine ⟨?_, ?_, ?_, ?_⟩
    · rintro other object ⟨found, entry, same⟩
      rw [addCallback, entries] at entry
      split at entry
      · cases entry
        rw [← same, tagged]
        exact List.mem_cons_self
      · exact List.mem_cons_of_mem _ (numbered.named other object ⟨found, entry, same⟩)
    · intro object member
      rcases List.mem_cons.mp member with rfl | older
      · exact Nat.lt_succ_self _
      · exact Nat.lt_succ_of_lt (numbered.objects object older)
    · intro entity member
      exact Nat.lt_succ_of_lt (numbered.entities entity member)
    · apply List.nodup_cons.mpr
      exact ⟨fun member => Nat.lt_irrefl _ (numbered.objects s.next member), numbered.nodup⟩
  · by_cases fits : free
    · have placed : ∀ other, entryAt system other =
          if other = place then some callback else entryAt s.system other := by
        intro other
        rw [entries]
        exact if_congr (and_iff_left fits) rfl rfl
      exact iff_of_true fits (released_placed numbered released tagged live (empty fits) placed)
    · have same : ∀ other, entryAt system other = entryAt s.system other := by
        intro other
        rw [entries, if_neg (fun both => fits both.2)]
      exact iff_of_false fits (dropped_not_released numbered same)

theorem function_entries (system : MessageSystem (Tagged Handler)) (sn : UInt64) (msgId : Int)
    (callback : Callback (Tagged Handler)) (other : Place) :
    entryAt (registerFunction system sn msgId callback) other =
      if other = .function msgId sn ∧ functionAt system msgId sn = none then some callback
      else entryAt system other := by
  cases other with
  | function otherId object =>
      rw [entryAt, register_function_at, entryAt]
      by_cases same : otherId = msgId ∧ object = sn
      · obtain ⟨rfl, rfl⟩ := same
        simp
      · have apart : Place.function otherId object ≠ .function msgId sn := by
          rintro ⟨⟩
          exact same ⟨rfl, rfl⟩
        rw [if_neg (fun all => same ⟨all.1, all.2.1⟩), if_neg (fun both => apart both.1)]
  | default object =>
      rw [if_neg (fun both => nomatch both.1)]
      rfl

theorem default_entries (system : MessageSystem (Tagged Handler)) (sn : UInt64)
    (callback : Callback (Tagged Handler)) (other : Place) :
    entryAt (registerDefaultFunction system sn callback) other =
      if other = .default sn ∧ system.defaultCallbacks[sn]? = none then some callback
      else entryAt system other := by
  cases other with
  | function otherId object =>
      rw [if_neg (fun both => nomatch both.1)]
      rfl
  | default object =>
      rw [entryAt, register_default_at, entryAt]
      by_cases same : object = sn
      · subst same
        simp
      · have apart : Place.default object ≠ .default sn := by
          rintro ⟨⟩
          exact same rfl
        rw [if_neg (fun both => same both.1), if_neg (fun both => apart both.1)]

theorem removed_entries (system : MessageSystem (Tagged Handler)) (sn : UInt64) (place : Place) :
    entryAt (removeFunction system sn) place = if place.sn = sn then none else entryAt system place := by
  cases place with
  | function msgId object => exact remove_function_at system sn msgId object
  | default object => exact remove_default_at system sn object

theorem processed_entries (finds : Tagged Handler → Bool) (system : MessageSystem (Tagged Handler))
    (packet : Packet) (place : Place) :
    entryAt (process finds system packet).1 place = entryAt system place := by
  obtain ⟨callbacks, defaults⟩ := process_kept finds system packet
  cases place with
  | function msgId sn =>
      unfold entryAt functionAt
      rw [callbacks]
  | default sn => exact defaults sn

/-- Going back to the pool is fine just where no entry has the SN. -/
theorem returned_step {s : Thread Handler} (numbered : Numbered s) (released : Released s) {entity : Nat}
    {sn : UInt64} (alive : s.entities[entity]? = some sn) (removing : List Nat) :
    Numbered { s with
        system := removeFunction s.system sn, entities := s.entities.erase entity, removing := removing } ∧
      ((∀ place : Place, place.sn = sn → entryAt s.system place = none) ↔
        Released { s with
          system := removeFunction s.system sn, entities := s.entities.erase entity, removing := removing }) := by
  have refers : ∀ place object, RefersTo (removeFunction s.system sn) place object →
      place.sn ≠ sn ∧ RefersTo s.system place object := by
    rintro place object ⟨callback, entry, same⟩
    rw [removed_entries] at entry
    split at entry
    · cases entry
    · rename_i apart
      exact ⟨apart, callback, entry, same⟩
  constructor
  · refine ⟨?_, numbered.objects, ?_, numbered.nodup⟩
    · intro place object there
      exact numbered.named place object (refers place object there).2
    · intro other member
      exact numbered.entities other ((mem_erase_iff s.entities entity other).mp member).2
  · constructor
    · intro clear
      refine released_same released numbered.nodup rfl ?_ ?_
      · intro place
        rw [removed_entries]
        split
        · rename_i same
          exact (clear place same).symm
        · rfl
      · rintro place held ⟨owner, there⟩
        refine ⟨owner, ?_⟩
        rw [get_erase, if_neg]
        · exact there
        · rintro rfl
          rw [alive] at there
          rw [clear place (Option.some.inj there).symm] at held
          cases held
    · intro now place same
      -- an entry under the SN would be taken, and leave its callback in use
      cases entry : entryAt s.system place with
      | none => rfl
      | some callback =>
          have there : RefersTo s.system place (objectOf callback) := ⟨callback, entry, rfl⟩
          have member := numbered.named place _ there
          obtain ⟨other, left, -⟩ := now.one _ member
          obtain ⟨own, -, -, only⟩ := released.one _ member
          obtain ⟨apart, earlier⟩ := refers other _ left
          rw [only other earlier, ← only place there] at apart
          exact absurd same apart

theorem step_released (before : Thread Handler) (event : Event Handler) (after : Thread Handler)
    (numbered : Numbered before) (released : Released before) (step : Step before event after) :
    Numbered after ∧ (Fits before event ↔ Released after) := by
  cases step with
  | @created sn =>
      -- no SN goes from live to dead: the entity has a number of its own
      have older : before.next ∉ before.entities := fun member => Nat.lt_irrefl _ (numbered.entities _ member)
      refine ⟨⟨numbered.named, ?_, ?_, numbered.nodup⟩, iff_of_true trivial ?_⟩
      · intro object member
        exact Nat.lt_succ_of_lt (numbered.objects object member)
      · intro entity member
        rcases (mem_insert_iff _ _ _ _).mp member with rfl | there
        · exact Nat.lt_succ_self _
        · exact Nat.lt_succ_of_lt (numbered.entities entity there)
      · refine released_same released numbered.nodup rfl (fun _ => rfl) ?_
        rintro place _ ⟨entity, there⟩
        refine ⟨entity, ?_⟩
        rw [get_insert, if_neg]
        · exact there
        · rintro rfl
          exact older (mem_of_get there)
  | @registered entity sn msgId f alive =>
      have entries := function_entries before.system sn msgId (.message ⟨before.next, f⟩)
      obtain ⟨now, decided⟩ := added_step numbered released entries rfl ⟨entity, alive⟩ fun free => free
      refine ⟨now, Iff.trans ?_ decided⟩
      simp [Fits, alive]
  | @filtered entity sn msgId g f alive =>
      have entries := function_entries before.system sn msgId (.filter ⟨before.next, g⟩ ⟨before.next, f⟩)
      obtain ⟨now, decided⟩ := added_step numbered released entries rfl ⟨entity, alive⟩ fun free => free
      refine ⟨now, Iff.trans ?_ decided⟩
      simp [Fits, alive]
  | @defaulted entity sn f alive =>
      have entries := default_entries before.system sn (.message ⟨before.next, f⟩)
      have empty : before.system.defaultCallbacks[sn]? = none → defaultAt before.system sn = none := by
        intro free
        rw [defaultAt, free]
        rfl
      obtain ⟨now, decided⟩ := added_step numbered released entries rfl ⟨entity, alive⟩ empty
      refine ⟨now, Iff.trans ?_ decided⟩
      simp [Fits, alive]
  | asked alive =>
      refine ⟨⟨numbered.named, numbered.objects, numbered.entities, numbered.nodup⟩, iff_of_true trivial ?_⟩
      exact ⟨released.one, released.bounded⟩
  | @returned entity sn asked alive =>
      obtain ⟨now, decided⟩ := returned_step numbered released alive _
      refine ⟨now, Iff.trans ?_ decided⟩
      simp [Fits, alive]
  | @processed finds packet =>
      have same := processed_entries finds before.system packet
      refine ⟨⟨?_, numbered.objects, numbered.entities, numbered.nodup⟩, iff_of_true trivial ?_⟩
      · rintro place object ⟨callback, entry, own⟩
        dsimp only at entry
        rw [same] at entry
        exact numbered.named place object ⟨callback, entry, own⟩
      · exact released_same released numbered.nodup rfl same fun _ _ live => live

/-! ### Whole runs -/

theorem numbered_start : Numbered (start : Thread Handler) := by
  refine ⟨?_, fun _ member => absurd member List.not_mem_nil, ?_, List.nodup_nil⟩
  · rintro place object ⟨callback, entry, -⟩
    cases place with
    | function msgId sn => simp [start, new, entryAt, functionAt] at entry
    | default sn => simp [start, new, entryAt, defaultAt] at entry
  · intro entity member
    simp [start] at member

theorem released_start : Released (start : Thread Handler) :=
  released_of_one List.nodup_nil fun _ member => absurd member List.not_mem_nil

/-- The runs along which every callback object keeps its one entry under the SN
of a live entity are those in which no registration finds its place taken and
nobody goes back to the pool while its SN has an entry. -/
theorem callbacks_released_iff (trace : List (Event Handler)) (after : Thread Handler) :
    Run (Along Step Released) start trace after ↔ Run (Guarded Step Fits) start trace after := by
  symm
  apply guarded_iff_decided Numbered _ numbered_start released_start
  intro before event after numbered released step
  exact step_released before event after numbered released step

def visitor : List (Event Nat) := [.create 7, .registerFunction 0 1 5, .removeComponent 0, .backToPool 0]

/-- Nothing waits for an update any more, and the callback is still in use. -/
theorem visitor_leaks : ∃ after, Run Step start visitor after ∧ after.removing = [] ∧ after.inUse = [1] ∧
    ¬ Released after := by
  have alive : ((∅ : Table Nat UInt64).insert 0 7)[(0 : Nat)]? = some 7 := by
    rw [get_insert, if_pos rfl]
  have gone : ∀ entity : Nat, (((∅ : Table Nat UInt64).insert 0 7).erase 0)[entity]? = none := by
    intro entity
    rw [get_erase, get_insert]
    split
    · rfl
    · exact ExtTreeMap.getElem?_empty
  refine ⟨_, .next .created (.next (.registered alive) (.next (.asked (mem_of_get alive))
    (.next (.returned List.mem_cons_self alive) (.refl _)))), rfl, rfl, ?_⟩
  intro released
  obtain ⟨place, -, ⟨entity, there⟩, -⟩ := released.one 1 List.mem_cons_self
  have nobody := (gone entity).symm.trans there
  cases nobody

end GameBook.CallbackObjects
