import GameBook.ComponentCollections
import GameBook.LabelledRun
import GameBook.WhileLoop

/-!
`EntitySystem` with the entities and components of one thread, by the serial
numbers their lives began with; no number is used for two lives. What `BackToPool`
of a class does is followed as far as it removes other objects. The lives that
came to their end, the removals and the updates begun so far are not in the code.
-/

namespace GameBook

open OrderedMap LabelledRun WhileLoop
open ComponentCollections (newCollections moveAdds dropRemoval eraseObj)

/-- `sn` is zero once the component is back in its pool; `owner` is the entity it
was added to. -/
structure EntitySystem.Component where
  sn : Nat
  typeHash : Nat
  owner : Option Nat
  components : Table Nat Nat

/-- `objSystems` by type hash, `components` by life. `requested` has each removal
with the number of updates begun before it. -/
structure EntitySystem where
  objSystems : Table Nat ComponentCollections
  components : Table Nat EntitySystem.Component
  returned : List Nat
  requested : List (Nat × Nat)
  updates : Nat

namespace EntitySystem

def start : EntitySystem := ⟨∅, ∅, [], [], 0⟩

def modifyCollections (s : EntitySystem) (typeHash : Nat)
    (f : ComponentCollections → ComponentCollections) : EntitySystem :=
  match s.objSystems[typeHash]? with
  | none => s
  | some collections => { s with objSystems := s.objSystems.insert typeHash (f collections) }

def setComponent (s : EntitySystem) (life : Nat) (component : Component) : EntitySystem :=
  { s with components := s.components.insert life component }

/-! ### Adding -/

def createObj (s : EntitySystem) (owner : Option Nat) (typeHash sn : Nat) : EntitySystem :=
  modifyCollections { s with
    objSystems :=
      if typeHash ∈ s.objSystems then s.objSystems else s.objSystems.insert typeHash newCollections
    components := s.components.insert sn ⟨sn, typeHash, owner, ∅⟩ }
    typeHash fun collections => ComponentCollections.add collections sn sn

/-- `AddComponent` of the entity system, or of an entity: one component a type. -/
def addComponent (s : EntitySystem) (owner : Option Nat) (typeHash sn : Nat) : EntitySystem :=
  match owner with
  | none => createObj s none typeHash sn
  | some entitySn =>
      match s.components[entitySn]? with
      | none => s
      | some entity =>
          if typeHash ∈ entity.components then s
          else
            setComponent (createObj s (some entitySn) typeHash sn) entitySn
              { entity with components := entity.components.insert typeHash sn }

/-! ### Removing -/

def removeComponent (s : EntitySystem) (life : Nat) : EntitySystem :=
  match s.components[life]? with
  | none => s
  | some component =>
      modifyCollections s component.typeHash fun collections =>
        ComponentCollections.remove collections component.sn

/-- A removal from outside of an entity that goes. -/
def request (s : EntitySystem) (life : Nat) : EntitySystem :=
  { removeComponent s life with requested := s.requested ++ [(life, s.updates)] }

/-- Not a component of an entity, and not yet back. -/
def Removable (s : EntitySystem) (life : Nat) : Prop :=
  ∃ component, s.components[life]? = some component ∧ component.sn ≠ 0 ∧ component.owner = none

instance (s : EntitySystem) (life : Nat) : Decidable (Removable s life) :=
  match found : s.components[life]? with
  | none => isFalse (by
      rintro ⟨component, there, _⟩
      rw [found] at there
      cases there)
  | some component =>
      decidable_of_iff (component.sn ≠ 0 ∧ component.owner = none) (by
        constructor
        · exact fun holds => ⟨component, found, holds⟩
        · rintro ⟨other, there, holds⟩
          rw [found] at there
          cases there
          exact holds)

def removeEach (s : EntitySystem) (lives : List Nat) : EntitySystem :=
  lives.foldl removeComponent s

/-- What a `BackToPool` removes through the entity system, such as the players of
a collector. -/
def disposeEach (s : EntitySystem) (lives : List Nat) : EntitySystem :=
  lives.foldl (fun s life => if Removable s life then request s life else s) s

/-- `ComponentBackToPool`: first the components of an entity, then its own. -/
def componentBackToPool (disposes : Nat → List Nat) (s : EntitySystem) (life : Nat) :
    EntitySystem :=
  match s.components[life]? with
  | none => s
  | some component =>
      let released := disposeEach (removeEach s (component.components.toList.map Prod.snd))
        (disposes life)
      { setComponent released life { component with sn := 0, components := ∅ } with
        returned := released.returned ++ [life] }

/-- `IEntity::RemoveComponent`: the entry of its type is erased, whatever it is. -/
def removeFrom (s : EntitySystem) (life : Nat) : EntitySystem :=
  match s.components[life]? with
  | none => s
  | some component =>
      match component.owner.bind fun entitySn =>
          (s.components[entitySn]?).map fun entity => (entitySn, entity) with
      | none => s
      | some (entitySn, entity) =>
          request (setComponent s entitySn
            { entity with components := entity.components.erase component.typeHash }) life

/-! ### Update -/

/-- One turn of the loop of `ComponentCollections::Swap` over `_removeObjs`. -/
def swapTurn (disposes : Nat → List Nat) (typeHash : Nat) (s : EntitySystem) :
    EntitySystem ⊕ EntitySystem :=
  match s.objSystems[typeHash]? with
  | none => .inr s
  | some collections =>
      match collections.removeObjs with
      | [] => .inr s
      | sn :: _ =>
          match collections.objs[sn]? with
          | none => .inl (modifyCollections s typeHash dropRemoval)
          | some life =>
              .inl (modifyCollections (componentBackToPool disposes s life) typeHash
                fun collections => eraseObj (dropRemoval collections) sn)

def Swapped (disposes : Nat → List Nat) (typeHash : Nat) (before after : EntitySystem) : Prop :=
  Ends (swapTurn disposes typeHash) (modifyCollections before typeHash moveAdds) after

/-- The loop of `EntitySystem::Update`, in the order of the type hashes. -/
def SwappedEach (disposes : Nat → List Nat) : List Nat → EntitySystem → EntitySystem → Prop
  | [], before, after => after = before
  | typeHash :: rest, before, after =>
      ∃ between, Swapped disposes typeHash before between ∧ SwappedEach disposes rest between after

def types (s : EntitySystem) : List Nat := s.objSystems.toList.map Prod.fst

def Updated (disposes : Nat → List Nat) (before after : EntitySystem) : Prop :=
  SwappedEach disposes (types before) { before with updates := before.updates + 1 } after

def Live (s : EntitySystem) (life : Nat) : Prop :=
  ∃ component, s.components[life]? = some component ∧ component.sn ≠ 0

inductive Event where
  | add (owner : Option Nat) (typeHash sn : Nat)
  | remove (life : Nat)
  | removeFrom (life : Nat)
  | update (disposes : Nat → List Nat)

/-- Components of an entity are removed through it, other objects through the
entity system. -/
def entityStep (before : EntitySystem) (event : Event) (after : EntitySystem) : Prop :=
  match event with
  | .add owner typeHash sn =>
      sn ≠ 0 ∧ sn ∉ before.components ∧ (∀ entitySn, owner = some entitySn → Live before entitySn) ∧
        after = addComponent before owner typeHash sn
  | .remove life => Removable before life ∧ after = request before life
  | .removeFrom life =>
      (∃ component entitySn, before.components[life]? = some component ∧ component.sn ≠ 0 ∧
        component.owner = some entitySn ∧ Live before entitySn) ∧ after = removeFrom before life
  | .update disposes => Updated disposes before after

/-! ### What is asked of a run -/

def ownerOf (s : EntitySystem) (life : Nat) : Option Nat :=
  (s.components[life]?).bind (·.owner)

/-- The component lies so many levels below the other in its tree. -/
inductive Below (s : EntitySystem) (root : Nat) : Nat → Nat → Prop where
  | self : Below s root 0 root
  | down {depth parent life : Nat} (owned : ownerOf s life = some parent)
      (below : Below s root depth parent) : Below s root (depth + 1) life

def Nowhere (s : EntitySystem) (life : Nat) : Prop :=
  ∀ (typeHash : Nat) (collections : ComponentCollections),
    s.objSystems[typeHash]? = some collections →
    life ∉ collections.objs ∧ life ∉ collections.addObjs

structure Law (s : EntitySystem) : Prop where
  /-- `ComponentBackToPool` runs once at most. -/
  once : s.returned.Nodup
  /-- Of a tree that is removed each component is back one update after its level,
  counted from the removal. -/
  gone : ∀ root at', (root, at') ∈ s.requested → ∀ depth life, Below s root depth life →
    at' + depth + 1 ≤ s.updates → life ∈ s.returned ∧ Nowhere s life
  /-- What is outside of the removed trees stays, and `Get` finds it. -/
  spared : ∀ life component, s.components[life]? = some component →
    (∀ root at', (root, at') ∈ s.requested → ∀ depth, ¬ Below s root depth life) →
      life ∉ s.returned ∧ ∃ collections, s.objSystems[component.typeHash]? = some collections ∧
        ComponentCollections.get collections life = some life
  /-- Until it is back, a component is in just one of the two maps of its type. -/
  held : ∀ life component, s.components[life]? = some component → life ∉ s.returned →
    ∃ collections, s.objSystems[component.typeHash]? = some collections ∧
      (life ∈ collections.objs ∧ life ∉ collections.addObjs ∨
        life ∉ collections.objs ∧ life ∈ collections.addObjs)
  /-- The next update comes to its end. -/
  ends : ∀ disposes, ∃ after, Updated disposes s after

/-- A component is removed from an entity that has it, or nothing else of its type. -/
def Current (before : EntitySystem) : Event → Prop
  | .removeFrom life =>
      ∀ component entitySn entity held, before.components[life]? = some component →
        component.owner = some entitySn → before.components[entitySn]? = some entity →
          entity.components[component.typeHash]? = some held → held = life
  | _ => True

end EntitySystem

end GameBook
