import GameBook.EntitySystem

/-!
The removals of the entity system: what a number on a list leads to, what the
turns of an update keep, and that an update ends with everyone back in the pool
who was on a list before it.
-/

namespace GameBook.ComponentReturns

open GameBook.OrderedMap LabelledRun WhileLoop EntitySystem Std
open ComponentCollections (Apart newCollections moveAdds dropRemoval eraseObj
  apart_new apart_add apart_erase apart_move_adds held_new held_add held_erase held_move_adds get_held)

def heldIn (s : EntitySystem) (typeHash life : Nat) : Option Nat :=
  (s.objSystems[typeHash]?).bind fun collections => ComponentCollections.held collections life

def removals (s : EntitySystem) (typeHash : Nat) : List Nat :=
  ((s.objSystems[typeHash]?).map fun collections => collections.removeObjs).getD []

theorem modify_collections (s : EntitySystem) (typeHash other : Nat)
    (f : ComponentCollections → ComponentCollections) :
    (modifyCollections s typeHash f).objSystems[other]? =
      if other = typeHash then (s.objSystems[typeHash]?).map f else s.objSystems[other]? := by
  unfold modifyCollections
  split
  · rename_i absent
    split
    · rename_i same
      rw [same, absent]
      rfl
    · rfl
  · rename_i collections held
    rw [get_insert]
    split
    · rw [held]
      rfl
    · rfl

@[simp] theorem modify_components (s : EntitySystem) (typeHash : Nat)
    (f : ComponentCollections → ComponentCollections) :
    (modifyCollections s typeHash f).components = s.components := by
  unfold modifyCollections
  split
  · rfl
  · rfl

@[simp] theorem modify_returned (s : EntitySystem) (typeHash : Nat)
    (f : ComponentCollections → ComponentCollections) :
    (modifyCollections s typeHash f).returned = s.returned := by
  unfold modifyCollections
  split
  · rfl
  · rfl

@[simp] theorem modify_requested (s : EntitySystem) (typeHash : Nat)
    (f : ComponentCollections → ComponentCollections) :
    (modifyCollections s typeHash f).requested = s.requested := by
  unfold modifyCollections
  split
  · rfl
  · rfl

@[simp] theorem modify_updates (s : EntitySystem) (typeHash : Nat)
    (f : ComponentCollections → ComponentCollections) :
    (modifyCollections s typeHash f).updates = s.updates := by
  unfold modifyCollections
  split
  · rfl
  · rfl

theorem held_in_some {s : EntitySystem} {typeHash life object : Nat} :
    heldIn s typeHash life = some object ↔
      ∃ collections, s.objSystems[typeHash]? = some collections ∧
        ComponentCollections.held collections life = some object :=
  Option.bind_eq_some_iff

theorem removals_of {s : EntitySystem} {typeHash : Nat} {collections : ComponentCollections}
    (held : s.objSystems[typeHash]? = some collections) :
    removals s typeHash = collections.removeObjs := by
  rw [removals, held]
  rfl

/-! ### The tree -/

def Back (s : EntitySystem) (life : Nat) : Prop :=
  ∃ component, s.components[life]? = some component ∧ component.sn = 0

def Doomed (s : EntitySystem) (life : Nat) : Prop :=
  ∃ component, s.components[life]? = some component ∧
    (component.sn = 0 ∨ life ∈ removals s component.typeHash)

def kin (s : EntitySystem) (life : Nat) : Option (Nat × Option Nat) :=
  (s.components[life]?).map fun component => (component.typeHash, component.owner)

theorem owner_of_kin {s t : EntitySystem} (same : ∀ life, kin t life = kin s life) (life : Nat) :
    ownerOf t life = ownerOf s life := by
  have known := same life
  unfold kin at known
  unfold ownerOf
  cases before : s.components[life]? with
  | none =>
      rw [before] at known
      have absent := Option.map_eq_none_iff.mp known
      simp only [absent, Option.bind_none]
  | some component =>
      rw [before] at known
      obtain ⟨now, there, equal⟩ := Option.map_eq_some_iff.mp known
      rw [there]
      exact congrArg Prod.snd equal

theorem below_more {s t : EntitySystem}
    (more : ∀ life parent, ownerOf s life = some parent → ownerOf t life = some parent)
    {root depth life : Nat} (below : Below s root depth life) : Below t root depth life := by
  induction below with
  | self => exact Below.self
  | down owned _ ih => exact Below.down (more _ _ owned) ih

theorem below_of_kin {s t : EntitySystem} (same : ∀ life, kin t life = kin s life)
    {root depth life : Nat} : Below t root depth life ↔ Below s root depth life := by
  constructor
  · apply below_more
    intro child parent owned
    rw [← owner_of_kin same child, owned]
  · apply below_more
    intro child parent owned
    rw [owner_of_kin same child, owned]

/-! ### The invariant -/

/-- What holds of the objects at every turn of an update. `leaving` is the entity
whose components are being removed. -/
structure Formed (leaving : Option Nat) (s : EntitySystem) : Prop where
  named : ∀ (life : Nat) (component : Component), s.components[life]? = some component →
    life ≠ 0 ∧ (component.sn = life ∨ component.sn = 0) ∧ component.owner ≠ some life
  returned : ∀ life, life ∈ s.returned ↔ Back s life
  once : s.returned.Nodup
  apart : ∀ (typeHash : Nat) (collections : ComponentCollections),
    s.objSystems[typeHash]? = some collections → Apart collections
  held : ∀ typeHash life object, heldIn s typeHash life = some object ↔
    object = life ∧ ∃ component, s.components[life]? = some component ∧
      component.typeHash = typeHash ∧ component.sn = life
  slots : ∀ (entitySn : Nat) (entity : Component) (typeHash life : Nat),
    s.components[entitySn]? = some entity → entity.components[typeHash]? = some life →
      ∃ component, s.components[life]? = some component ∧ component.owner = some entitySn ∧
        component.typeHash = typeHash ∧ component.sn = life
  clear : ∀ (entitySn : Nat) (entity : Component) (typeHash life : Nat),
    s.components[entitySn]? = some entity → entity.components[typeHash]? = some life →
      life ∈ removals s typeHash → leaving = some entitySn
  owned : ∀ (life : Nat) (component : Component) (entitySn : Nat),
    s.components[life]? = some component → component.sn = life →
      component.owner = some entitySn →
        (∃ entity, s.components[entitySn]? = some entity ∧ entity.sn = entitySn ∧
          entity.components[component.typeHash]? = some life) ∨
        life ∈ removals s component.typeHash
  known : ∀ typeHash life, life ∈ removals s typeHash →
    ∃ component, s.components[life]? = some component
  justified : ∀ life, Doomed s life →
    ∃ root at' depth, (root, at') ∈ s.requested ∧ Below s root depth life
  asked : ∀ root at', (root, at') ∈ s.requested → at' ≤ s.updates ∧ Doomed s root

theorem formed_start : Formed none start := by
  constructor
  · intro life component found
    simp [start] at found
  · intro life
    simp [start, Back]
  · exact List.nodup_nil
  · intro typeHash collections found
    simp [start] at found
  · intro typeHash life object
    simp [start, heldIn]
  · intro entitySn entity typeHash life found
    simp [start] at found
  · intro entitySn entity typeHash life found
    simp [start] at found
  · intro life component entitySn found
    simp [start] at found
  · intro typeHash life listed
    simp [start, removals] at listed
  · rintro life ⟨component, found, _⟩
    simp [start] at found
  · intro root at' member
    cases member

structure Keeps (s t : EntitySystem) : Prop where
  kin : ∀ life, kin t life = kin s life
  back : ∀ life, Back s life → Back t life
  doomed : ∀ life, Doomed s life → Doomed t life
  requested : s.requested ⊆ t.requested
  fresh : ∀ root at', (root, at') ∈ t.requested → (root, at') ∈ s.requested ∨ at' = s.updates
  updates : t.updates = s.updates

theorem keeps_refl (s : EntitySystem) : Keeps s s where
  kin _ := rfl
  back _ gone := gone
  doomed _ goes := goes
  requested := List.Subset.refl _
  fresh _ _ member := Or.inl member
  updates := rfl

theorem keeps_trans {s t u : EntitySystem} (first : Keeps s t) (second : Keeps t u) : Keeps s u where
  kin life := (second.kin life).trans (first.kin life)
  back life gone := second.back life (first.back life gone)
  doomed life goes := second.doomed life (first.doomed life goes)
  requested := List.Subset.trans first.requested second.requested
  fresh := by
    intro root at' member
    rcases second.fresh root at' member with older | now
    · exact first.fresh root at' older
    · exact Or.inr (now.trans first.updates)
  updates := second.updates.trans first.updates

theorem formed_lists {leaving : Option Nat} {s t : EntitySystem} (formed : Formed leaving s)
    (components : t.components = s.components) (returned : t.returned = s.returned)
    (requested : t.requested = s.requested) (updates : t.updates = s.updates)
    (held : ∀ typeHash life, heldIn t typeHash life = heldIn s typeHash life)
    (apart : ∀ (typeHash : Nat) (collections : ComponentCollections),
      t.objSystems[typeHash]? = some collections → Apart collections)
    (fewer : ∀ typeHash life, life ∈ removals t typeHash → life ∈ removals s typeHash)
    (kept : ∀ (life : Nat) (component : Component), s.components[life]? = some component →
      component.sn = life →
        life ∈ removals s component.typeHash → life ∈ removals t component.typeHash) :
    Formed leaving t ∧ Keeps s t := by
  have same : ∀ life, kin t life = kin s life := by
    intro life
    rw [kin, kin, components]
  have back : ∀ life, Back t life ↔ Back s life := by
    intro life
    rw [Back, Back, components]
  have doomed : ∀ life, Doomed t life ↔ Doomed s life := by
    intro life
    constructor
    · rintro ⟨component, found, zero | listed⟩
      · exact ⟨component, components ▸ found, Or.inl zero⟩
      · exact ⟨component, components ▸ found, Or.inr (fewer _ _ listed)⟩
    · rintro ⟨component, found, zero | listed⟩
      · exact ⟨component, components ▸ found, Or.inl zero⟩
      · refine ⟨component, components ▸ found, ?_⟩
        rcases (formed.named life component found).2.1 with live | zero
        · exact Or.inr (kept life component found live listed)
        · exact Or.inl zero
  constructor
  · constructor
    · rw [components]
      exact formed.named
    · intro life
      rw [returned, back]
      exact formed.returned life
    · rw [returned]
      exact formed.once
    · exact apart
    · intro typeHash life object
      rw [held, components]
      exact formed.held typeHash life object
    · rw [components]
      exact formed.slots
    · rw [components]
      intro entitySn entity typeHash life found slot listed
      exact formed.clear entitySn entity typeHash life found slot (fewer _ _ listed)
    · rw [components]
      intro life component entitySn found live own
      exact (formed.owned life component entitySn found live own).imp id
        (kept life component found live)
    · rw [components]
      intro typeHash life listed
      exact formed.known typeHash life (fewer _ _ listed)
    · intro life goes
      obtain ⟨root, at', depth, member, below⟩ := formed.justified life ((doomed life).mp goes)
      exact ⟨root, at', depth, requested ▸ member, (below_of_kin same).mpr below⟩
    · rw [requested, updates]
      intro root at' member
      obtain ⟨before, goes⟩ := formed.asked root at' member
      exact ⟨before, (doomed root).mpr goes⟩
  · constructor
    · exact same
    · exact fun life gone => (back life).mpr gone
    · exact fun life goes => (doomed life).mpr goes
    · rw [requested]
      exact List.Subset.refl _
    · intro root at' member
      exact Or.inl (requested ▸ member)
    · exact updates

/-! ### Removals -/

structure Appended (s t : EntitySystem) : Prop where
  components : t.components = s.components
  returned : t.returned = s.returned
  updates : t.updates = s.updates
  lists : ∀ typeHash : Nat, ∃ added, t.objSystems[typeHash]? =
    (s.objSystems[typeHash]?).map fun collections =>
      { collections with removeObjs := collections.removeObjs ++ added }

theorem appended_refl (s : EntitySystem) : Appended s s where
  components := rfl
  returned := rfl
  updates := rfl
  lists := by
    intro typeHash
    refine ⟨[], ?_⟩
    cases s.objSystems[typeHash]? with
    | none => rfl
    | some collections => simp

theorem appended_trans {s t u : EntitySystem} (first : Appended s t) (second : Appended t u) :
    Appended s u where
  components := second.components.trans first.components
  returned := second.returned.trans first.returned
  updates := second.updates.trans first.updates
  lists := by
    intro typeHash
    obtain ⟨one, before⟩ := first.lists typeHash
    obtain ⟨two, after⟩ := second.lists typeHash
    refine ⟨one ++ two, ?_⟩
    rw [after, before]
    cases s.objSystems[typeHash]? with
    | none => rfl
    | some collections => simp

theorem appended_held {s t : EntitySystem} (appended : Appended s t) (typeHash life : Nat) :
    heldIn t typeHash life = heldIn s typeHash life := by
  obtain ⟨added, lists⟩ := appended.lists typeHash
  rw [heldIn, heldIn, lists]
  cases s.objSystems[typeHash]? with
  | none => rfl
  | some collections => rfl

theorem appended_apart {s t : EntitySystem} (appended : Appended s t)
    (apart : ∀ (typeHash : Nat) (collections : ComponentCollections),
      s.objSystems[typeHash]? = some collections → Apart collections)
    (typeHash : Nat) (collections : ComponentCollections)
    (found : t.objSystems[typeHash]? = some collections) : Apart collections := by
  obtain ⟨added, lists⟩ := appended.lists typeHash
  rw [lists] at found
  obtain ⟨before, there, rfl⟩ := Option.map_eq_some_iff.mp found
  exact apart typeHash before there

theorem appended_removals {s t : EntitySystem} (appended : Appended s t) {typeHash life : Nat}
    (listed : life ∈ removals s typeHash) : life ∈ removals t typeHash := by
  obtain ⟨added, lists⟩ := appended.lists typeHash
  unfold removals at listed ⊢
  rw [lists]
  cases before : s.objSystems[typeHash]? with
  | none =>
      rw [before] at listed
      cases listed
  | some collections =>
      rw [before] at listed
      exact List.mem_append_left _ listed

theorem appended_remove {s : EntitySystem} {life : Nat} {component : Component}
    (found : s.components[life]? = some component)
    (known : ∃ collections, s.objSystems[component.typeHash]? = some collections) :
    Appended s (removeComponent s life) ∧ ∀ typeHash, removals (removeComponent s life) typeHash =
      if typeHash = component.typeHash then removals s typeHash ++ [component.sn]
      else removals s typeHash := by
  obtain ⟨collections, there⟩ := known
  have same : removeComponent s life = modifyCollections s component.typeHash
      fun collections => ComponentCollections.remove collections component.sn := by
    rw [removeComponent, found]
  rw [same]
  constructor
  · refine ⟨by simp, by simp, by simp, ?_⟩
    intro typeHash
    rw [modify_collections]
    split
    · rename_i own
      rw [own, there]
      exact ⟨[component.sn], rfl⟩
    · exact (appended_refl s).lists typeHash
  · intro typeHash
    rw [removals, modify_collections]
    split
    · rename_i own
      rw [own, removals_of there, there]
      rfl
    · rfl

theorem requested_remove (s : EntitySystem) (life : Nat) :
    (removeComponent s life).requested = s.requested := by
  unfold removeComponent
  split
  · rfl
  · simp

theorem formed_listed {leaving : Option Nat} {s t : EntitySystem} (formed : Formed leaving s)
    (life : Nat) (component : Component) (found : s.components[life]? = some component)
    (live : component.sn = life) (appended : Appended s t)
    (lists : ∀ typeHash, removals t typeHash =
      if typeHash = component.typeHash then removals s typeHash ++ [component.sn]
      else removals s typeHash)
    (requested : s.requested ⊆ t.requested)
    (fresh : ∀ root at', (root, at') ∈ t.requested →
      (root, at') ∈ s.requested ∨ (root = life ∧ at' = s.updates))
    (reason : ∃ root at' depth, (root, at') ∈ t.requested ∧ Below s root depth life)
    (apart : ∀ entitySn, component.owner = some entitySn → leaving = some entitySn ∨
      ∀ entity, s.components[entitySn]? = some entity →
        entity.components[component.typeHash]? ≠ some life) :
    Formed leaving t ∧ Keeps s t ∧ Doomed t life := by
  have same : ∀ other, kin t other = kin s other := by
    intro other
    rw [kin, kin, appended.components]
  have back : ∀ other, Back t other ↔ Back s other := by
    intro other
    rw [Back, Back, appended.components]
  have listed : life ∈ removals t component.typeHash := by
    rw [lists, if_pos rfl, live]
    exact List.mem_append_right _ List.mem_cons_self
  have cases' : ∀ typeHash other, other ∈ removals t typeHash →
      other ∈ removals s typeHash ∨ (typeHash = component.typeHash ∧ other = life) := by
    intro typeHash other member
    rw [lists] at member
    split at member
    · rename_i own
      rcases List.mem_append.mp member with older | last
      · exact Or.inl older
      · exact Or.inr ⟨own, (List.mem_singleton.mp last).trans live⟩
    · exact Or.inl member
  have goes : Doomed t life := ⟨component, appended.components ▸ found, Or.inr listed⟩
  have doomed : ∀ other, Doomed s other → Doomed t other := by
    rintro other ⟨others, there, zero | member⟩
    · exact ⟨others, appended.components ▸ there, Or.inl zero⟩
    · exact ⟨others, appended.components ▸ there, Or.inr (appended_removals appended member)⟩
  refine ⟨?_, ⟨same, fun other gone => (back other).mpr gone, doomed, requested, ?_,
    appended.updates⟩, goes⟩
  · constructor
    · rw [appended.components]
      exact formed.named
    · intro other
      rw [appended.returned, back]
      exact formed.returned other
    · rw [appended.returned]
      exact formed.once
    · exact appended_apart appended formed.apart
    · intro typeHash other object
      rw [appended_held appended, appended.components]
      exact formed.held typeHash other object
    · rw [appended.components]
      exact formed.slots
    · rw [appended.components]
      intro entitySn entity typeHash other there slot member
      rcases cases' typeHash other member with older | ⟨rfl, rfl⟩
      · exact formed.clear entitySn entity typeHash other there slot older
      · obtain ⟨also, here, own, _⟩ := formed.slots entitySn entity _ _ there slot
        rw [found] at here
        cases here
        rcases apart entitySn own with this | none
        · exact this
        · exact absurd slot (none entity there)
    · rw [appended.components]
      intro other others entitySn there alive own
      exact (formed.owned other others entitySn there alive own).imp id
        (appended_removals appended)
    · rw [appended.components]
      intro typeHash other member
      rcases cases' typeHash other member with older | ⟨_, rfl⟩
      · exact formed.known typeHash other older
      · exact ⟨component, found⟩
    · rintro other ⟨others, there, reasons⟩
      rw [appended.components] at there
      by_cases this : other = life
      · obtain ⟨root, at', depth, member, below⟩ := reason
        exact ⟨root, at', depth, member, (below_of_kin same).mpr (this ▸ below)⟩
      · have older : Doomed s other := by
          rcases reasons with zero | member
          · exact ⟨others, there, Or.inl zero⟩
          · rcases cases' _ _ member with older | ⟨_, equal⟩
            · exact ⟨others, there, Or.inr older⟩
            · exact absurd equal this
        obtain ⟨root, at', depth, member, below⟩ := formed.justified other older
        exact ⟨root, at', depth, requested member, (below_of_kin same).mpr below⟩
    · intro root at' member
      rw [appended.updates]
      rcases fresh root at' member with older | ⟨rfl, now⟩
      · obtain ⟨before, already⟩ := formed.asked root at' older
        exact ⟨before, doomed root already⟩
      · exact ⟨Nat.le_of_eq now, goes⟩
  · intro root at' member
    exact (fresh root at' member).imp id And.right

theorem collections_of_live {leaving : Option Nat} {s : EntitySystem} (formed : Formed leaving s)
    {life : Nat} {component : Component} (found : s.components[life]? = some component)
    (live : component.sn = life) :
    ∃ collections, s.objSystems[component.typeHash]? = some collections ∧
      ComponentCollections.held collections life = some life :=
  held_in_some.mp ((formed.held component.typeHash life life).mpr ⟨rfl, component, found, rfl, live⟩)

theorem formed_remove {s : EntitySystem} {entitySn : Nat} (formed : Formed (some entitySn) s)
    (life : Nat) (component : Component) (found : s.components[life]? = some component)
    (live : component.sn = life) (own : component.owner = some entitySn) (goes : Doomed s entitySn) :
    Formed (some entitySn) (removeComponent s life) ∧ Keeps s (removeComponent s life) ∧
      Doomed (removeComponent s life) life := by
  obtain ⟨collections, there, _⟩ := collections_of_live formed found live
  obtain ⟨appended, lists⟩ := appended_remove found ⟨collections, there⟩
  have owned : ownerOf s life = some entitySn := by
    rw [ownerOf, found]
    exact own
  obtain ⟨root, at', depth, member, below⟩ := formed.justified entitySn goes
  apply formed_listed formed life component found live appended lists
  · rw [requested_remove]
    exact List.Subset.refl _
  · intro other now listed
    rw [requested_remove] at listed
    exact Or.inl listed
  · exact ⟨root, at', depth + 1, (requested_remove s life).symm ▸ member, Below.down owned below⟩
  · intro other also
    rw [own] at also
    exact Or.inl also

theorem formed_request {leaving : Option Nat} {s : EntitySystem} (formed : Formed leaving s)
    (life : Nat) (component : Component) (found : s.components[life]? = some component)
    (live : component.sn = life)
    (apart : ∀ entitySn, component.owner = some entitySn → leaving = some entitySn ∨
      ∀ entity, s.components[entitySn]? = some entity →
        entity.components[component.typeHash]? ≠ some life) :
    Formed leaving (request s life) ∧ Keeps s (request s life) ∧ Doomed (request s life) life ∧
      Appended s (request s life) := by
  obtain ⟨collections, there, _⟩ := collections_of_live formed found live
  obtain ⟨appended, lists⟩ := appended_remove found ⟨collections, there⟩
  have appended' : Appended s (request s life) :=
    ⟨appended.components, appended.returned, appended.updates, appended.lists⟩
  have result : Formed leaving (request s life) ∧ Keeps s (request s life) ∧
      Doomed (request s life) life := by
    apply formed_listed formed life component found live appended' lists
    · exact List.subset_append_left _ _
    · intro root at' member
      rcases List.mem_append.mp member with older | last
      · exact Or.inl older
      · cases List.mem_singleton.mp last
        exact Or.inr ⟨rfl, rfl⟩
    · exact ⟨life, s.updates, 0, List.mem_append_right _ List.mem_cons_self, Below.self⟩
    · exact apart
  exact ⟨result.1, result.2.1, result.2.2, appended'⟩

theorem formed_remove_each {s : EntitySystem} {entitySn : Nat} (lives : List Nat)
    (formed : Formed (some entitySn) s) (goes : Doomed s entitySn)
    (own : ∀ life ∈ lives, ∃ component, s.components[life]? = some component ∧
      component.sn = life ∧ component.owner = some entitySn) :
    Formed (some entitySn) (removeEach s lives) ∧ Keeps s (removeEach s lives) ∧
      Appended s (removeEach s lives) ∧ ∀ life ∈ lives, Doomed (removeEach s lives) life := by
  induction lives generalizing s with
  | nil => exact ⟨formed, keeps_refl s, appended_refl s, fun _ member => nomatch member⟩
  | cons first rest ih =>
      obtain ⟨component, found, live, owned⟩ := own first List.mem_cons_self
      obtain ⟨collections, there, _⟩ := collections_of_live formed found live
      have appended := (appended_remove found ⟨collections, there⟩).1
      obtain ⟨next, keeps, listed⟩ := formed_remove formed first component found live owned goes
      obtain ⟨done, kept, more, all⟩ := ih next (keeps.doomed entitySn goes) (by
        intro life member
        rw [appended.components]
        exact own life (List.mem_cons_of_mem _ member))
      refine ⟨done, keeps_trans keeps kept, appended_trans appended more, ?_⟩
      intro life member
      rcases List.mem_cons.mp member with rfl | later
      · exact kept.doomed life listed
      · exact all life later

theorem formed_dispose_each {leaving : Option Nat} {s : EntitySystem} (lives : List Nat)
    (formed : Formed leaving s) :
    Formed leaving (disposeEach s lives) ∧ Keeps s (disposeEach s lives) ∧
      Appended s (disposeEach s lives) := by
  induction lives generalizing s with
  | nil => exact ⟨formed, keeps_refl s, appended_refl s⟩
  | cons first rest ih =>
      rw [disposeEach, List.foldl_cons]
      by_cases removable : Removable s first
      · rw [if_pos removable]
        obtain ⟨component, found, nonzero, free⟩ := removable
        have live : component.sn = first :=
          (formed.named first component found).2.1.resolve_right nonzero
        obtain ⟨next, keeps, _, appended⟩ := formed_request formed first component found live (by
          intro entitySn own
          rw [free] at own
          cases own)
        obtain ⟨done, kept, more⟩ := ih next
        exact ⟨done, keeps_trans keeps kept, appended_trans appended more⟩
      · rw [if_neg removable]
        exact ih formed

structure Retired (s t : EntitySystem) (life : Nat) (component : Component)
    (collections : ComponentCollections) (rest : List Nat) : Prop where
  found : s.components[life]? = some component
  live : component.sn = life
  nonzero : life ≠ 0
  held : s.objSystems[component.typeHash]? = some collections
  inside : life ∈ collections.objs
  first : collections.removeObjs = life :: rest
  components : t.components = s.components.insert life { component with sn := 0, components := ∅ }
  returned : t.returned = s.returned ++ [life]
  requested : t.requested = s.requested
  updates : t.updates = s.updates
  lists : ∀ typeHash : Nat, t.objSystems[typeHash]? =
    if typeHash = component.typeHash then some (eraseObj (dropRemoval collections) life)
    else s.objSystems[typeHash]?

section Retired

variable {s t : EntitySystem} {life : Nat} {component : Component}
  {collections : ComponentCollections} {rest : List Nat}

theorem retired_components (retired : Retired s t life component collections rest) (other : Nat) :
    t.components[other]? = if other = life then some { component with sn := 0, components := ∅ }
      else s.components[other]? := by
  rw [retired.components, get_insert]

theorem retired_other (retired : Retired s t life component collections rest) {other : Nat}
    (differs : other ≠ life) : t.components[other]? = s.components[other]? := by
  rw [retired_components retired, if_neg differs]

theorem retired_head (retired : Retired s t life component collections rest) :
    removals s component.typeHash = life :: rest :=
  (removals_of retired.held).trans retired.first

theorem retired_removals (retired : Retired s t life component collections rest) (typeHash : Nat) :
    removals t typeHash = if typeHash = component.typeHash then rest else removals s typeHash := by
  unfold removals
  rw [retired.lists]
  split
  · simp [eraseObj, dropRemoval, retired.first]
  · rfl

theorem retired_fewer (retired : Retired s t life component collections rest) {typeHash other : Nat}
    (listed : other ∈ removals t typeHash) : other ∈ removals s typeHash := by
  rw [retired_removals retired] at listed
  split at listed
  · rename_i own
    rw [own, retired_head retired]
    exact List.mem_cons_of_mem _ listed
  · exact listed

theorem retired_stays (retired : Retired s t life component collections rest) {typeHash other : Nat}
    (differs : other ≠ life) (listed : other ∈ removals s typeHash) : other ∈ removals t typeHash := by
  rw [retired_removals retired]
  split
  · rename_i own
    rw [own, retired_head retired] at listed
    exact (List.mem_cons.mp listed).resolve_left differs
  · exact listed

theorem retired_kin (retired : Retired s t life component collections rest) (other : Nat) :
    kin t other = kin s other := by
  rw [kin, kin, retired_components retired]
  split
  · rename_i own
    rw [own, retired.found]
    rfl
  · rfl

theorem retired_back (retired : Retired s t life component collections rest) (other : Nat) :
    Back t other ↔ Back s other ∨ other = life := by
  by_cases own : other = life
  · subst own
    constructor
    · exact fun _ => Or.inr rfl
    · exact fun _ => ⟨_, (retired_components retired other).trans (if_pos rfl), rfl⟩
  · rw [Back, Back, retired_other retired own]
    simp [own]

theorem retired_doomed (retired : Retired s t life component collections rest) (other : Nat) :
    Doomed t other ↔ Doomed s other := by
  have goes : Doomed s life :=
    ⟨component, retired.found, Or.inr (retired_head retired ▸ List.mem_cons_self)⟩
  by_cases own : other = life
  · subst own
    constructor
    · exact fun _ => goes
    · exact fun _ => ⟨_, (retired_components retired other).trans (if_pos rfl), Or.inl rfl⟩
  · rw [Doomed, Doomed, retired_other retired own]
    constructor
    · rintro ⟨others, there, zero | member⟩
      · exact ⟨others, there, Or.inl zero⟩
      · exact ⟨others, there, Or.inr (retired_fewer retired member)⟩
    · rintro ⟨others, there, zero | member⟩
      · exact ⟨others, there, Or.inl zero⟩
      · exact ⟨others, there, Or.inr (retired_stays retired own member)⟩

theorem retired_held (retired : Retired s t life component collections rest)
    (formed : Formed (some life) s) (typeHash other object : Nat) :
    heldIn t typeHash other = some object ↔
      object = other ∧ ∃ component, t.components[other]? = some component ∧
        component.typeHash = typeHash ∧ component.sn = other := by
  have before := formed.held typeHash other object
  have apart := formed.apart component.typeHash collections retired.held
  rw [heldIn, retired.lists]
  rw [heldIn] at before
  split
  · rename_i own
    rw [own, retired.held] at before
    rw [Option.bind_some] at before ⊢
    rw [held_erase collections life other apart retired.inside]
    by_cases this : other = life
    · subst this
      rw [if_pos rfl, retired_components retired, if_pos rfl]
      constructor
      · exact fun none => nomatch none
      · rintro ⟨_, others, there, _, zero⟩
        cases there
        exact absurd zero.symm retired.nonzero
    · rw [if_neg this, retired_other retired this, own]
      exact before
  · rename_i foreign
    by_cases this : other = life
    · subst this
      rw [before, retired_components retired, if_pos rfl, retired.found]
      constructor
      · rintro ⟨_, others, there, type, _⟩
        cases there
        exact absurd type.symm foreign
      · rintro ⟨_, others, there, type, _⟩
        cases there
        exact absurd type.symm foreign
    · rw [before, retired_other retired this]

theorem formed_retired (retired : Retired s t life component collections rest)
    (formed : Formed (some life) s)
    (children : ∀ (typeHash child : Nat), component.components[typeHash]? = some child →
      child ∈ removals s typeHash) : Formed none t := by
  have now := retired_components retired
  constructor
  case named =>
    intro other others there
    rw [now] at there
    split at there
    · rename_i own
      cases there
      refine ⟨own ▸ retired.nonzero, Or.inr rfl, ?_⟩
      rw [own]
      exact (formed.named life component retired.found).2.2
    · exact formed.named other others there
  case returned =>
    intro other
    rw [retired.returned, List.mem_append, List.mem_singleton, formed.returned, retired_back retired]
  case once =>
    rw [retired.returned]
    refine List.nodup_append.mpr ⟨formed.once, by simp, ?_⟩
    rintro one member two single rfl
    rw [List.mem_singleton.mp single, formed.returned] at member
    obtain ⟨others, there, zero⟩ := member
    rw [retired.found] at there
    cases there
    exact retired.nonzero (retired.live.symm.trans zero)
  case apart =>
    intro typeHash others there
    rw [retired.lists] at there
    split at there
    · cases there
      exact apart_erase collections life (formed.apart component.typeHash collections retired.held)
    · exact formed.apart typeHash others there
  case held => exact retired_held retired formed
  case slots =>
    intro entitySn entity typeHash other there slot
    rw [now] at there
    split at there
    · cases there
      simp at slot
    · rename_i foreign
      obtain ⟨others, here, own, type, alive⟩ :=
        formed.slots entitySn entity typeHash other there slot
      -- the life is on its list, so only its own entity could still have it
      have differs : other ≠ life := by
        rintro rfl
        have listed : other ∈ removals s typeHash := by
          rw [retired.found] at here
          cases here
          rw [← type, retired_head retired]
          exact List.mem_cons_self
        have this := formed.clear entitySn entity typeHash other there slot listed
        exact foreign (Option.some.inj this).symm
      exact ⟨others, (retired_other retired differs).trans here, own, type, alive⟩
  case clear =>
    intro entitySn entity typeHash other there slot listed
    rw [now] at there
    split at there
    · cases there
      simp at slot
    · rename_i foreign
      have this := formed.clear entitySn entity typeHash other there slot (retired_fewer retired listed)
      exact absurd (Option.some.inj this).symm foreign
  case owned =>
    intro other others entitySn there alive own
    rw [now] at there
    split at there
    · rename_i this
      cases there
      exact absurd (this.symm.trans alive.symm) retired.nonzero
    · rename_i this
      rcases formed.owned other others entitySn there alive own with
        ⟨entity, here, sn, slot⟩ | listed
      · by_cases leaves : entitySn = life
        · subst leaves
          rw [retired.found] at here
          cases here
          exact Or.inr (retired_stays retired this (children _ _ slot))
        · exact Or.inl ⟨entity, (retired_other retired leaves).trans here, sn, slot⟩
      · exact Or.inr (retired_stays retired this listed)
  case known =>
    intro typeHash other listed
    obtain ⟨others, there⟩ := formed.known typeHash other (retired_fewer retired listed)
    by_cases this : other = life
    · exact ⟨_, (now other).trans (if_pos this)⟩
    · exact ⟨others, (retired_other retired this).trans there⟩
  case justified =>
    intro other going
    obtain ⟨root, at', depth, member, below⟩ :=
      formed.justified other ((retired_doomed retired other).mp going)
    exact ⟨root, at', depth, retired.requested ▸ member,
      (below_of_kin (retired_kin retired)).mpr below⟩
  case asked =>
    intro root at' member
    rw [retired.requested] at member
    rw [retired.updates]
    obtain ⟨before, going⟩ := formed.asked root at' member
    exact ⟨before, (retired_doomed retired root).mpr going⟩

theorem keeps_retired (retired : Retired s t life component collections rest) : Keeps s t where
  kin := retired_kin retired
  back other gone := (retired_back retired other).mpr (Or.inl gone)
  doomed other going := (retired_doomed retired other).mpr going
  requested := by
    rw [retired.requested]
    exact List.Subset.refl _
  fresh _ _ member := Or.inl (retired.requested ▸ member)
  updates := retired.updates

end Retired

/-! ### Updates -/

theorem formed_leaving {s : EntitySystem} (formed : Formed none s) (entitySn : Nat) :
    Formed (some entitySn) s :=
  { formed with
    clear := by
      intro other entity typeHash life found slot listed
      cases formed.clear other entity typeHash life found slot listed }

def Moved (typeHash : Nat) (s : EntitySystem) : Prop :=
  ∀ collections : ComponentCollections, s.objSystems[typeHash]? = some collections →
    collections.addObjs = ∅

theorem formed_moved {s : EntitySystem} (formed : Formed none s) (typeHash : Nat) :
    Formed none (modifyCollections s typeHash moveAdds) ∧
      Keeps s (modifyCollections s typeHash moveAdds) ∧
      Moved typeHash (modifyCollections s typeHash moveAdds) := by
  have lists : ∀ other, removals (modifyCollections s typeHash moveAdds) other =
      removals s other := by
    intro other
    rw [removals, modify_collections, removals]
    split
    · rename_i own
      rw [own]
      cases s.objSystems[typeHash]? with
      | none => rfl
      | some collections => rfl
    · rfl
  have kept : Formed none (modifyCollections s typeHash moveAdds) ∧
      Keeps s (modifyCollections s typeHash moveAdds) := by
    apply formed_lists formed
    · simp
    · simp
    · simp
    · simp
    · intro other life
      rw [heldIn, modify_collections, heldIn]
      split
      · rename_i own
        rw [own]
        cases s.objSystems[typeHash]? with
        | none => rfl
        | some collections => exact held_move_adds collections life
      · rfl
    · intro other collections found
      rw [modify_collections] at found
      split at found
      · obtain ⟨before, _, rfl⟩ := Option.map_eq_some_iff.mp found
        exact apart_move_adds before
      · exact formed.apart other collections found
    · intro other life member
      rw [lists] at member
      exact member
    · intro life component _ _ member
      rw [lists]
      exact member
  refine ⟨kept.1, kept.2, ?_⟩
  intro collections found
  rw [modify_collections, if_pos rfl] at found
  obtain ⟨before, _, rfl⟩ := Option.map_eq_some_iff.mp found
  rfl

theorem formed_dropped {s : EntitySystem} (formed : Formed none s) (typeHash sn : Nat)
    (collections : ComponentCollections) (rest : List Nat)
    (held : s.objSystems[typeHash]? = some collections)
    (first : collections.removeObjs = sn :: rest)
    (absent : ComponentCollections.held collections sn = none) :
    Formed none (modifyCollections s typeHash dropRemoval) ∧
      Keeps s (modifyCollections s typeHash dropRemoval) := by
  have lists : ∀ other, removals (modifyCollections s typeHash dropRemoval) other =
      if other = typeHash then rest else removals s other := by
    intro other
    rw [removals, modify_collections]
    split
    · rw [held]
      simp [dropRemoval, first]
    · rfl
  have head : removals s typeHash = sn :: rest := (removals_of held).trans first
  apply formed_lists formed
  · simp
  · simp
  · simp
  · simp
  · intro other life
    rw [heldIn, modify_collections, heldIn]
    split
    · rename_i own
      rw [own, held]
      rfl
    · rfl
  · intro other now found
    rw [modify_collections] at found
    split at found
    · obtain ⟨before, there, rfl⟩ := Option.map_eq_some_iff.mp found
      exact formed.apart typeHash before there
    · exact formed.apart other now found
  · intro other life member
    rw [lists] at member
    split at member
    · rename_i own
      rw [own, head]
      exact List.mem_cons_of_mem _ member
    · exact member
  · intro life component found live listed
    rw [lists]
    split
    · rename_i own
      rw [own, head] at listed
      rcases List.mem_cons.mp listed with rfl | later
      · have there := (formed.held typeHash life life).mpr ⟨rfl, component, found, own, live⟩
        rw [heldIn, held, Option.bind_some, absent] at there
        cases there
      · exact later
    · exact listed

theorem turn_formed {disposes : Nat → List Nat} {typeHash : Nat} {s next : EntitySystem}
    (formed : Formed none s) (moved : Moved typeHash s)
    (goes : swapTurn disposes typeHash s = .inl next) :
    (Formed none next ∧ Keeps s next ∧ Moved typeHash next) ∧
      ∃ collections after : ComponentCollections, s.objSystems[typeHash]? = some collections ∧
        next.objSystems[typeHash]? = some after ∧
        (after.objs.size < collections.objs.size ∨ after.objs.size = collections.objs.size ∧
          after.removeObjs.length < collections.removeObjs.length) := by
  unfold swapTurn at goes
  split at goes
  · cases goes
  · rename_i collections held
    split at goes
    · cases goes
    · rename_i sn rest first
      have none := moved collections held
      split at goes
      · -- no object of the type
        rename_i outside
        cases goes
        have absent : ComponentCollections.held collections sn = Option.none := by
          rw [ComponentCollections.held, outside, none]
          simp
        obtain ⟨next, keeps⟩ := formed_dropped formed typeHash sn collections rest held first absent
        have after : (modifyCollections s typeHash dropRemoval).objSystems[typeHash]? =
            some (dropRemoval collections) := by
          rw [modify_collections, if_pos rfl, held]
          rfl
        refine ⟨⟨next, keeps, ?_⟩, collections, dropRemoval collections, held, after,
          Or.inr ⟨rfl, ?_⟩⟩
        · intro other found
          rw [after] at found
          cases found
          exact none
        · simp [dropRemoval, first]
      · -- the object goes back, after its components were put on their lists
        rename_i object inside
        cases goes
        have there : heldIn s typeHash sn = some object := by
          rw [heldIn, held, Option.bind_some, ComponentCollections.held, inside]
          rfl
        obtain ⟨rfl, component, found, type, live⟩ := (formed.held typeHash sn object).mp there
        have head : object ∈ removals s component.typeHash := by
          rw [type, removals_of held, first]
          exact List.mem_cons_self
        have leaves : Doomed s object := ⟨component, found, Or.inr head⟩
        have children : ∀ life ∈ component.components.toList.map Prod.snd,
            ∃ child, s.components[life]? = some child ∧ child.sn = life ∧
              child.owner = some object := by
          intro life member
          obtain ⟨⟨slot, other⟩, listed, rfl⟩ := List.mem_map.mp member
          have slotted := ExtTreeMap.mem_toList_iff_getElem?_eq_some.mp listed
          obtain ⟨child, here, own, _, alive⟩ :=
            formed.slots object component slot other found slotted
          exact ⟨child, here, alive, own⟩
        obtain ⟨removed, keepsOne, appendedOne, all⟩ := formed_remove_each
          (component.components.toList.map Prod.snd) (formed_leaving formed object) leaves children
        obtain ⟨released, keepsTwo, appendedTwo⟩ := formed_dispose_each (disposes object) removed
        generalize removal : removeEach s (component.components.toList.map Prod.snd) = cleared at *
        generalize disposal : disposeEach cleared (disposes object) = last at *
        have appended := appended_trans appendedOne appendedTwo
        obtain ⟨added, grown⟩ := appended.lists typeHash
        rw [held, Option.map_some] at grown
        have still : last.components[object]? = some component := by
          rw [appended.components, found]
        have pooled : componentBackToPool disposes s object =
            { setComponent last object { component with sn := 0, components := ∅ } with
              returned := last.returned ++ [object] } := by
          rw [componentBackToPool, found]
          dsimp only
          rw [removal, disposal]
        have member : object ∈ collections.objs := mem_of_get inside
        have retired : Retired last (modifyCollections
            (componentBackToPool disposes s object) typeHash
              fun collections => eraseObj (dropRemoval collections) object) object component
            { collections with removeObjs := collections.removeObjs ++ added } (rest ++ added) := by
          constructor
          case found => exact still
          case live => exact live
          case nonzero => exact (formed.named object component found).1
          case held => exact type ▸ grown
          case inside => exact member
          case first => simp [first]
          case components =>
            rw [modify_components, pooled]
            rfl
          case returned => rw [modify_returned, pooled]
          case requested =>
            rw [modify_requested, pooled]
            rfl
          case updates =>
            rw [modify_updates, pooled]
            rfl
          case lists =>
            intro other
            rw [modify_collections, pooled, type]
            split
            · have same : (last.objSystems[typeHash]?) = some { collections with
                  removeObjs := collections.removeObjs ++ added } := grown
              simp only [setComponent, same, Option.map_some]
            · rfl
        have listed : ∀ (slot child : Nat), component.components[slot]? = some child →
            child ∈ removals last slot := by
          intro slot child slotted
          have among : child ∈ component.components.toList.map Prod.snd :=
            List.mem_map_of_mem (ExtTreeMap.mem_toList_iff_getElem?_eq_some.mpr slotted)
          obtain ⟨also, there, _, kind, alive⟩ := formed.slots object component slot child found slotted
          obtain ⟨other, here, zero | already⟩ := keepsTwo.doomed child (all child among)
          · rw [appended.components, there] at here
            cases here
            have nonzero := (formed.named child _ there).1
            exact absurd (alive.symm.trans zero) nonzero
          · rw [appended.components, there] at here
            cases here
            rw [kind] at already
            exact already
        have next := formed_retired retired released listed
        have keeps := keeps_retired retired
        have after : (modifyCollections (componentBackToPool disposes s object) typeHash
            fun collections => eraseObj (dropRemoval collections) object).objSystems[typeHash]? =
            some (eraseObj (dropRemoval { collections with
              removeObjs := collections.removeObjs ++ added }) object) := by
          rw [modify_collections, if_pos rfl, pooled]
          simp only [setComponent, grown, Option.map_some]
        refine ⟨⟨next, keeps_trans keepsOne (keeps_trans keepsTwo keeps), ?_⟩, collections, _, held,
          after, Or.inl ?_⟩
        · intro other now
          rw [after] at now
          cases now
          exact none
        · have smaller := size_erase_held collections.objs object object inside
          simp only [eraseObj, dropRemoval]
          omega

theorem swapped_ends (disposes : Nat → List Nat) (typeHash : Nat) {s : EntitySystem}
    (formed : Formed none s) : ∃ after, Swapped disposes typeHash s after := by
  obtain ⟨start, _, moved⟩ := formed_moved formed typeHash
  have order : WellFounded (Prod.Lex (fun a b : Nat => a < b) (fun a b : Nat => a < b)) :=
    (Prod.lex Nat.lt_wfRel Nat.lt_wfRel).wf
  apply ends_of_well_founded order (swapTurn disposes typeHash)
    (fun state => Formed none state ∧ Moved typeHash state)
    (fun state => ((((state.objSystems[typeHash]?).map fun collections =>
      collections.objs.size).getD 0), (removals state typeHash).length))
  · rintro state next ⟨held, still⟩ goes
    obtain ⟨⟨kept, _, remains⟩, before, after, one, two, smaller⟩ := turn_formed held still goes
    refine ⟨⟨kept, remains⟩, ?_⟩
    rw [removals_of one, removals_of two, one, two]
    simp only [Option.map_some, Option.getD_some]
    rcases smaller with fewer | ⟨same, shorter⟩
    · exact Prod.Lex.left _ _ fewer
    · rw [same]
      exact Prod.Lex.right _ shorter
  · exact ⟨start, moved⟩

theorem swapped_spec {disposes : Nat → List Nat} {typeHash : Nat} {s after : EntitySystem}
    (formed : Formed none s) (swapped : Swapped disposes typeHash s after) :
    Formed none after ∧ Keeps s after ∧ removals after typeHash = [] := by
  obtain ⟨start, keeps, moved⟩ := formed_moved formed typeHash
  obtain ⟨fuel, done⟩ := swapped
  have stops : ((Formed none after ∧ Moved typeHash after) ∧ Keeps s after) ∧
      removals after typeHash = [] := by
    apply loop_stops (fun state => (Formed none state ∧ Moved typeHash state) ∧ Keeps s state)
      _ _ fuel _ after ⟨⟨start, moved⟩, keeps⟩ done
    · rintro state next ⟨⟨held, still⟩, kept⟩ goes
      obtain ⟨⟨formed', keeps', moved'⟩, _⟩ := turn_formed held still goes
      exact ⟨⟨formed', moved'⟩, keeps_trans kept keeps'⟩
    · intro state result leaves
      unfold swapTurn at leaves
      split at leaves
      · rename_i absent
        cases leaves
        refine ⟨rfl, ?_⟩
        rw [removals, absent]
        rfl
      · rename_i collections held
        split at leaves
        · rename_i empty
          cases leaves
          exact ⟨rfl, (removals_of held).trans empty⟩
        · split at leaves
          · cases leaves
          · cases leaves
  exact ⟨stops.1.1.1, stops.1.2, stops.2⟩

theorem swapped_each_ends (disposes : Nat → List Nat) (list : List Nat) {s : EntitySystem}
    (formed : Formed none s) : ∃ after, SwappedEach disposes list s after := by
  induction list generalizing s with
  | nil => exact ⟨s, rfl⟩
  | cons typeHash rest ih =>
      obtain ⟨between, swapped⟩ := swapped_ends disposes typeHash formed
      obtain ⟨after, done⟩ := ih (swapped_spec formed swapped).1
      exact ⟨after, between, swapped, done⟩

theorem kin_some {s t : EntitySystem} (same : ∀ life, kin t life = kin s life) {life : Nat}
    {component : Component} (found : s.components[life]? = some component) :
    ∃ now, t.components[life]? = some now ∧ now.typeHash = component.typeHash ∧
      now.owner = component.owner := by
  have known := same life
  unfold kin at known
  rw [found] at known
  obtain ⟨now, there, equal⟩ := Option.map_eq_some_iff.mp known
  exact ⟨now, there, congrArg Prod.fst equal, congrArg Prod.snd equal⟩

theorem swapped_each_spec {disposes : Nat → List Nat} (list : List Nat) {s after : EntitySystem}
    (formed : Formed none s) (done : SwappedEach disposes list s after) :
    Formed none after ∧ Keeps s after ∧
      ∀ (life : Nat) (component : Component), s.components[life]? = some component →
        component.typeHash ∈ list → Doomed s life → Back after life := by
  induction list generalizing s with
  | nil =>
      rw [SwappedEach] at done
      rw [done]
      exact ⟨formed, keeps_refl s, fun _ _ _ member => nomatch member⟩
  | cons typeHash rest ih =>
      obtain ⟨between, swapped, later⟩ := done
      obtain ⟨middle, keeps, empty⟩ := swapped_spec formed swapped
      obtain ⟨last, kept, backs⟩ := ih middle later
      refine ⟨last, keeps_trans keeps kept, ?_⟩
      intro life component found member goes
      obtain ⟨now, there, type, _⟩ := kin_some keeps.kin found
      rcases List.mem_cons.mp member with own | further
      · apply kept.back
        obtain ⟨other, here, zero | listed⟩ := keeps.doomed life goes
        · exact ⟨other, here, zero⟩
        · rw [there] at here
          cases here
          rw [type, own, empty] at listed
          cases listed
      · exact backs life now there (type ▸ further) (keeps.doomed life goes)

theorem formed_begun {s : EntitySystem} (formed : Formed none s) :
    Formed none { s with updates := s.updates + 1 } where
  named := formed.named
  returned := formed.returned
  once := formed.once
  apart := formed.apart
  held := formed.held
  slots := formed.slots
  clear := formed.clear
  owned := formed.owned
  known := formed.known
  justified := by
    intro life goes
    obtain ⟨root, at', depth, member, below⟩ := formed.justified life goes
    refine ⟨root, at', depth, member, ?_⟩
    apply below_more (s := s) _ below
    exact fun _ _ owned => owned
  asked := by
    intro root at' member
    obtain ⟨before, goes⟩ := formed.asked root at' member
    exact ⟨Nat.le_succ_of_le before, goes⟩

theorem updated_spec {disposes : Nat → List Nat} {s after : EntitySystem}
    (formed : Formed none s) (updated : Updated disposes s after) :
    Formed none after ∧ Keeps { s with updates := s.updates + 1 } after ∧
      ∀ life, Doomed s life → Back after life := by
  obtain ⟨last, keeps, backs⟩ := swapped_each_spec (types s) (formed_begun formed) updated
  refine ⟨last, keeps, ?_⟩
  rintro life ⟨component, found, reasons⟩
  rcases (formed.named life component found).2.1 with live | zero
  · obtain ⟨collections, there, _⟩ := collections_of_live formed found live
    have member : component.typeHash ∈ types s :=
      List.mem_map.mpr ⟨(component.typeHash, collections),
        ExtTreeMap.mem_toList_iff_getElem?_eq_some.mpr there, rfl⟩
    exact backs life component found member ⟨component, found, reasons⟩
  · exact keeps.back life ⟨component, found, zero⟩

end GameBook.ComponentReturns
