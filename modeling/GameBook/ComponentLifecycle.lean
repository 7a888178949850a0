import GameBook.ComponentReturns

/-!
A component that is removed is back in its pool one update after its level in
the tree that goes with it, once, and what no removal reaches stays.
-/

namespace GameBook.ComponentLifecycle

open GameBook.OrderedMap LabelledRun WhileLoop EntitySystem ComponentReturns Std
open ComponentCollections (Apart newCollections moveAdds held_new held_add
  get_held apart_new apart_add)

/-! ### Adding -/

def collectionsFor (s : EntitySystem) (typeHash : Nat) : ComponentCollections :=
  (s.objSystems[typeHash]?).getD newCollections

theorem created_collections (s : EntitySystem) (owner : Option Nat) (typeHash sn other : Nat) :
    (createObj s owner typeHash sn).objSystems[other]? =
      if other = typeHash then some (ComponentCollections.add (collectionsFor s typeHash) sn sn)
      else s.objSystems[other]? := by
  rw [createObj, modify_collections]
  split
  · split
    · rename_i known
      obtain ⟨collections, held⟩ := ExtTreeMap.mem_iff_isSome_getElem?.mp known |>
        Option.isSome_iff_exists.mp
      simp only [collectionsFor, held, Option.map_some, Option.getD_some]
    · rename_i absent
      have none := get_none_iff.mpr absent
      simp only [collectionsFor, none, get_insert, if_pos, Option.map_some, Option.getD_none]
  · rename_i foreign
    dsimp only
    split
    · rfl
    · rw [get_insert, if_neg foreign]

@[simp] theorem created_components (s : EntitySystem) (owner : Option Nat) (typeHash sn : Nat) :
    (createObj s owner typeHash sn).components =
      s.components.insert sn ⟨sn, typeHash, owner, ∅⟩ := by
  simp [createObj]

@[simp] theorem created_returned (s : EntitySystem) (owner : Option Nat) (typeHash sn : Nat) :
    (createObj s owner typeHash sn).returned = s.returned := by
  simp [createObj]

@[simp] theorem created_requested (s : EntitySystem) (owner : Option Nat) (typeHash sn : Nat) :
    (createObj s owner typeHash sn).requested = s.requested := by
  simp [createObj]

@[simp] theorem created_updates (s : EntitySystem) (owner : Option Nat) (typeHash sn : Nat) :
    (createObj s owner typeHash sn).updates = s.updates := by
  simp [createObj]

theorem add_removals (collections : ComponentCollections) (sn object : Nat) :
    (ComponentCollections.add collections sn object).removeObjs = collections.removeObjs := by
  unfold ComponentCollections.add
  split
  · rfl
  · rfl

theorem created_removals (s : EntitySystem) (owner : Option Nat) (typeHash sn other : Nat) :
    removals (createObj s owner typeHash sn) other = removals s other := by
  unfold removals
  rw [created_collections]
  split
  · rename_i own
    rw [own, Option.map_some, Option.getD_some, add_removals, collectionsFor]
    cases s.objSystems[typeHash]? with
    | none => rfl
    | some collections => rfl
  · rfl

structure Joined (s t : EntitySystem) (owner : Option Nat) (typeHash sn : Nat) : Prop where
  fresh : t.components[sn]? = some ⟨sn, typeHash, owner, ∅⟩
  older : ∀ (life : Nat) (now : Component), t.components[life]? = some now → life ≠ sn →
    ∃ component, s.components[life]? = some component ∧ now.sn = component.sn ∧
      now.typeHash = component.typeHash ∧ now.owner = component.owner ∧
      ∀ type child, now.components[type]? = some child →
        component.components[type]? = some child ∨
          (owner = some life ∧ type = typeHash ∧ child = sn)
  newer : ∀ (life : Nat) (component : Component), s.components[life]? = some component →
    life ≠ sn ∧ ∃ now, t.components[life]? = some now ∧ now.sn = component.sn ∧
      now.typeHash = component.typeHash ∧ now.owner = component.owner ∧
      ∀ (type child : Nat), component.components[type]? = some child →
        now.components[type]? = some child
  slot : ∀ entitySn, owner = some entitySn → ∃ entity, t.components[entitySn]? = some entity ∧
    entity.sn = entitySn ∧ entity.components[typeHash]? = some sn
  collections : ∀ type : Nat, t.objSystems[type]? =
    if type = typeHash then some (ComponentCollections.add (collectionsFor s typeHash) sn sn)
    else s.objSystems[type]?
  lists : ∀ type, removals t type = removals s type
  returned : t.returned = s.returned
  requested : t.requested = s.requested
  updates : t.updates = s.updates

theorem joined_created (s : EntitySystem) (typeHash sn : Nat) (absent : sn ∉ s.components) :
    Joined s (createObj s none typeHash sn) none typeHash sn := by
  have none := get_none_iff.mpr absent
  constructor
  · simp
  · intro life now found apart
    rw [created_components, get_insert, if_neg apart] at found
    exact ⟨now, found, rfl, rfl, rfl, fun _ _ held => Or.inl held⟩
  · intro life component found
    have apart : life ≠ sn := by
      rintro rfl
      rw [none] at found
      cases found
    refine ⟨apart, component, ?_, rfl, rfl, rfl, fun _ _ held => held⟩
    rw [created_components, get_insert, if_neg apart, found]
  · intro entitySn own
    cases own
  · exact created_collections s Option.none typeHash sn
  · exact created_removals s Option.none typeHash sn
  · simp
  · simp
  · simp

theorem joined_entity (s : EntitySystem) (entitySn typeHash sn : Nat) (entity : Component)
    (absent : sn ∉ s.components) (found : s.components[entitySn]? = some entity)
    (live : entity.sn = entitySn) (free : typeHash ∉ entity.components) :
    Joined s (setComponent (createObj s (some entitySn) typeHash sn) entitySn
      { entity with components := entity.components.insert typeHash sn })
      (some entitySn) typeHash sn := by
  have none := get_none_iff.mpr absent
  have differs : entitySn ≠ sn := by
    rintro rfl
    rw [none] at found
    cases found
  have now : ∀ life : Nat, (setComponent (createObj s (some entitySn) typeHash sn) entitySn
      { entity with components := entity.components.insert typeHash sn }).components[life]? =
      if life = entitySn then
        some { entity with components := entity.components.insert typeHash sn }
      else if life = sn then some ⟨sn, typeHash, some entitySn, ∅⟩ else s.components[life]? := by
    intro life
    simp only [setComponent, created_components, get_insert]
  constructor
  · rw [now, if_neg differs.symm, if_pos rfl]
  · intro life other there apart
    rw [now] at there
    split at there
    · rename_i own
      cases there
      refine ⟨entity, own ▸ found, rfl, rfl, rfl, ?_⟩
      intro type child held
      dsimp only at held
      rw [get_insert] at held
      split at held
      · rename_i same
        cases held
        exact Or.inr ⟨congrArg some own.symm, same, rfl⟩
      · exact Or.inl held
    · exact ⟨other, there, rfl, rfl, rfl, fun _ _ held => Or.inl held⟩
  · intro life component there
    have apart : life ≠ sn := by
      rintro rfl
      rw [none] at there
      cases there
    refine ⟨apart, ?_⟩
    by_cases own : life = entitySn
    · subst own
      rw [found] at there
      cases there
      refine ⟨_, (now life).trans (if_pos rfl), rfl, rfl, rfl, ?_⟩
      intro type child held
      dsimp only
      rw [get_insert, if_neg, held]
      rintro rfl
      exact free (mem_of_get held)
    · exact ⟨component, (now life).trans ((if_neg own).trans ((if_neg apart).trans there)), rfl,
        rfl, rfl, fun _ _ held => held⟩
  · rintro other ⟨⟩
    refine ⟨_, (now entitySn).trans (if_pos rfl), live, ?_⟩
    dsimp only
    rw [get_insert, if_pos rfl]
  · exact created_collections s (some entitySn) typeHash sn
  · exact created_removals s (some entitySn) typeHash sn
  · exact created_returned s (some entitySn) typeHash sn
  · exact created_requested s (some entitySn) typeHash sn
  · exact created_updates s (some entitySn) typeHash sn

theorem owner_joined {s t : EntitySystem} {owner : Option Nat} {typeHash sn life parent : Nat}
    (joined : Joined s t owner typeHash sn) (owned : ownerOf s life = some parent) :
    ownerOf t life = some parent := by
  obtain ⟨component, found, own⟩ := Option.bind_eq_some_iff.mp owned
  obtain ⟨_, now, there, _, _, same, _⟩ := joined.newer life component found
  rw [ownerOf, there]
  exact same.trans own

section Joined

variable {s t : EntitySystem} {owner : Option Nat} {typeHash sn : Nat}

theorem unheld_absent (formed : Formed none s) (absent : sn ∉ s.components) (type : Nat) :
    heldIn s type sn = none := by
  cases held : heldIn s type sn with
  | none => rfl
  | some object =>
      obtain ⟨_, component, found, _⟩ := (formed.held type sn object).mp held
      rw [get_none_iff.mpr absent] at found
      cases found

theorem unlisted_absent (formed : Formed none s) (absent : sn ∉ s.components) (type : Nat) :
    sn ∉ removals s type := by
  intro listed
  obtain ⟨component, found⟩ := formed.known type sn listed
  rw [get_none_iff.mpr absent] at found
  cases found

theorem joined_held_in (joined : Joined s t owner typeHash sn) (formed : Formed none s)
    (absent : sn ∉ s.components) (type life : Nat) :
    heldIn t type life = if type = typeHash ∧ life = sn then some sn else heldIn s type life := by
  have before : ∀ life, heldIn s typeHash life =
      ComponentCollections.held (collectionsFor s typeHash) life := by
    intro life
    rw [heldIn, collectionsFor]
    cases s.objSystems[typeHash]? with
    | none => exact (held_new life).symm
    | some collections => rfl
  rw [heldIn, joined.collections]
  by_cases own : type = typeHash
  · rw [if_pos own, Option.bind_some,
      held_add _ sn sn life ((before sn).symm.trans (unheld_absent formed absent _)), own, before life]
    by_cases this : life = sn
    · rw [if_pos this, if_pos ⟨rfl, this⟩]
    · rw [if_neg this, if_neg (fun both => this both.2)]
  · rw [if_neg own, if_neg (fun both => own both.1)]
    rfl

theorem joined_back (joined : Joined s t owner typeHash sn) (nonzero : sn ≠ 0) (life : Nat) :
    Back t life ↔ Back s life := by
  constructor
  · rintro ⟨component, found, zero⟩
    by_cases this : life = sn
    · rw [this, joined.fresh] at found
      cases found
      exact absurd zero nonzero
    · obtain ⟨older, there, same, _⟩ := joined.older life component found this
      exact ⟨older, there, same.symm.trans zero⟩
  · rintro ⟨component, found, zero⟩
    obtain ⟨_, later, there, same, _⟩ := joined.newer life component found
    exact ⟨later, there, same.trans zero⟩

theorem joined_doomed (joined : Joined s t owner typeHash sn) (formed : Formed none s)
    (absent : sn ∉ s.components) (nonzero : sn ≠ 0) (life : Nat) : Doomed t life ↔ Doomed s life := by
  constructor
  · rintro ⟨component, found, reasons⟩
    by_cases this : life = sn
    · rw [this, joined.fresh] at found
      cases found
      rcases reasons with zero | listed
      · exact absurd zero nonzero
      · rw [joined.lists, this] at listed
        exact absurd listed (unlisted_absent formed absent _)
    · obtain ⟨older, there, same, type, _⟩ := joined.older life component found this
      refine ⟨older, there, reasons.imp (fun zero => same.symm.trans zero) ?_⟩
      intro listed
      rw [joined.lists, type] at listed
      exact listed
  · rintro ⟨component, found, reasons⟩
    obtain ⟨_, later, there, same, type, _⟩ := joined.newer life component found
    refine ⟨later, there, reasons.imp (fun zero => same.trans zero) ?_⟩
    intro listed
    rw [joined.lists, type]
    exact listed

theorem joined_held (joined : Joined s t owner typeHash sn) (formed : Formed none s)
    (absent : sn ∉ s.components) (type life object : Nat) :
    heldIn t type life = some object ↔
      object = life ∧ ∃ component, t.components[life]? = some component ∧
        component.typeHash = type ∧ component.sn = life := by
  rw [joined_held_in joined formed absent]
  by_cases this : life = sn
  · rw [this, joined.fresh, unheld_absent formed absent]
    by_cases own : type = typeHash
    · rw [if_pos ⟨own, rfl⟩, own]
      constructor
      · rintro ⟨⟩
        exact ⟨rfl, _, rfl, rfl, rfl⟩
      · rintro ⟨rfl, _⟩
        rfl
    · rw [if_neg fun both => own both.1]
      constructor
      · exact fun impossible => nomatch impossible
      · rintro ⟨_, component, same, kind, _⟩
        cases same
        exact absurd kind.symm own
  · rw [if_neg fun both => this both.2, formed.held]
    constructor
    · rintro ⟨rfl, component, found, kind, live⟩
      obtain ⟨_, later, there, sn', type', _⟩ := joined.newer object component found
      exact ⟨rfl, later, there, type'.trans kind, sn'.trans live⟩
    · rintro ⟨rfl, component, found, kind, live⟩
      obtain ⟨older, there, sn', type', _⟩ := joined.older object component found this
      exact ⟨rfl, older, there, type'.symm.trans kind, sn'.symm.trans live⟩

theorem formed_joined (formed : Formed none s) (absent : sn ∉ s.components) (nonzero : sn ≠ 0)
    (apart : owner ≠ some sn) (joined : Joined s t owner typeHash sn) : Formed none t := by
  constructor
  case named =>
    intro life component found
    by_cases this : life = sn
    · rw [this, joined.fresh] at found
      cases found
      rw [this]
      exact ⟨nonzero, Or.inl rfl, apart⟩
    · obtain ⟨older, there, same, _, owner', _⟩ := joined.older life component found this
      rw [same, owner']
      exact formed.named life older there
  case returned =>
    intro life
    rw [joined.returned, joined_back joined nonzero]
    exact formed.returned life
  case once =>
    rw [joined.returned]
    exact formed.once
  case apart =>
    intro type collections found
    rw [joined.collections] at found
    split at found
    · cases found
      apply apart_add
      rw [collectionsFor]
      cases held : s.objSystems[typeHash]? with
      | none => exact apart_new
      | some before => exact formed.apart typeHash before held
    · exact formed.apart type collections found
  case held => exact joined_held joined formed absent
  case slots =>
    intro entitySn entity type life found slot
    by_cases this : entitySn = sn
    · rw [this, joined.fresh] at found
      cases found
      simp at slot
    · obtain ⟨older, there, _, _, _, slots⟩ := joined.older entitySn entity found this
      rcases slots type life slot with before | ⟨own, rfl, rfl⟩
      · obtain ⟨component, here, owner', kind, live⟩ := formed.slots entitySn older type life there before
        obtain ⟨_, later, also, sn', type', same, _⟩ := joined.newer life component here
        exact ⟨later, also, same.trans owner', type'.trans kind, sn'.trans live⟩
      · exact ⟨_, joined.fresh, own, rfl, rfl⟩
  case clear =>
    intro entitySn entity type life found slot listed
    rw [joined.lists] at listed
    by_cases this : entitySn = sn
    · rw [this, joined.fresh] at found
      cases found
      simp at slot
    · obtain ⟨older, there, _, _, _, slots⟩ := joined.older entitySn entity found this
      rcases slots type life slot with before | ⟨_, _, rfl⟩
      · cases formed.clear entitySn older type life there before listed
      · exact absurd listed (unlisted_absent formed absent _)
  case owned =>
    intro life component entitySn found live own
    by_cases this : life = sn
    · rw [this, joined.fresh] at found
      cases found
      rw [this]
      exact Or.inl (joined.slot entitySn own)
    · obtain ⟨older, there, sn', type', owner', _⟩ := joined.older life component found this
      rw [joined.lists, type']
      rcases formed.owned life older entitySn there (sn'.symm.trans live) (owner'.symm.trans own) with
        ⟨entity, here, alive, slot⟩ | listed
      · obtain ⟨_, later, also, same, _, _, slots⟩ := joined.newer entitySn entity here
        exact Or.inl ⟨later, also, same.trans alive, slots _ _ slot⟩
      · exact Or.inr listed
  case known =>
    intro type life listed
    rw [joined.lists] at listed
    obtain ⟨component, found⟩ := formed.known type life listed
    obtain ⟨_, later, there, _⟩ := joined.newer life component found
    exact ⟨later, there⟩
  case justified =>
    intro life goes
    obtain ⟨root, at', depth, member, below⟩ :=
      formed.justified life ((joined_doomed joined formed absent nonzero life).mp goes)
    refine ⟨root, at', depth, joined.requested ▸ member, ?_⟩
    apply below_more _ below
    exact fun _ _ owned => owner_joined joined owned
  case asked =>
    intro root at' member
    rw [joined.requested] at member
    rw [joined.updates]
    obtain ⟨before, goes⟩ := formed.asked root at' member
    exact ⟨before, (joined_doomed joined formed absent nonzero root).mpr goes⟩

end Joined

/-! ### Removing through an entity -/

theorem modify_set_component (s : EntitySystem) (typeHash life : Nat) (component : Component)
    (f : ComponentCollections → ComponentCollections) :
    modifyCollections (setComponent s life component) typeHash f =
      setComponent (modifyCollections s typeHash f) life component := by
  unfold modifyCollections setComponent
  dsimp only
  cases s.objSystems[typeHash]? with
  | none => rfl
  | some collections => rfl

theorem request_set_component (s : EntitySystem) (life entitySn : Nat) (entity : Component)
    (other : life ≠ entitySn) :
    request (setComponent s entitySn entity) life = setComponent (request s life) entitySn entity := by
  have same : (setComponent s entitySn entity).components[life]? = s.components[life]? := by
    rw [setComponent, get_insert, if_neg other]
  have removed : removeComponent (setComponent s entitySn entity) life =
      setComponent (removeComponent s life) entitySn entity := by
    unfold removeComponent
    rw [same]
    cases s.components[life]? with
    | none => rfl
    | some component => exact modify_set_component s component.typeHash entitySn entity _
  rw [request, removed]
  rfl

structure Erased (s t : EntitySystem) (entitySn typeHash : Nat) : Prop where
  forth : ∀ (life : Nat) (component : Component), s.components[life]? = some component →
    ∃ later, t.components[life]? = some later ∧ later.sn = component.sn ∧
      later.typeHash = component.typeHash ∧ later.owner = component.owner ∧
      ∀ type child, (life ≠ entitySn ∨ type ≠ typeHash) →
        component.components[type]? = some child → later.components[type]? = some child
  back : ∀ (life : Nat) (component : Component), t.components[life]? = some component →
    ∃ older, s.components[life]? = some older ∧ component.sn = older.sn ∧
      component.typeHash = older.typeHash ∧ component.owner = older.owner ∧
      ∀ type child, component.components[type]? = some child →
        older.components[type]? = some child ∧ (life = entitySn → type ≠ typeHash)
  lists : ∀ type, removals t type = removals s type

theorem erased_slot {s : EntitySystem} {entitySn : Nat} (typeHash : Nat) {entity : Component}
    (found : s.components[entitySn]? = some entity) :
    Erased s (setComponent s entitySn
      { entity with components := entity.components.erase typeHash }) entitySn typeHash := by
  have now : ∀ life : Nat, (setComponent s entitySn
      { entity with components := entity.components.erase typeHash }).components[life]? =
      if life = entitySn then some { entity with components := entity.components.erase typeHash }
      else s.components[life]? := by
    intro life
    exact get_insert _ _ _ _
  constructor
  case forth =>
    intro life component there
    rw [now]
    by_cases own : life = entitySn
    · rw [own, found] at there
      cases there
      rw [if_pos own]
      refine ⟨_, rfl, rfl, rfl, rfl, ?_⟩
      intro type child apart slot
      dsimp only
      rw [get_erase, if_neg (apart.resolve_left fun differs => differs own)]
      exact slot
    · rw [if_neg own]
      exact ⟨component, there, rfl, rfl, rfl, fun _ _ _ slot => slot⟩
  case back =>
    intro life component there
    rw [now] at there
    split at there
    · rename_i own
      cases there
      refine ⟨entity, own ▸ found, rfl, rfl, rfl, ?_⟩
      intro type child slot
      dsimp only at slot
      rw [get_erase] at slot
      split at slot
      · cases slot
      · rename_i differs
        exact ⟨slot, fun _ => differs⟩
    · rename_i differs
      exact ⟨component, there, rfl, rfl, rfl, fun _ _ slot =>
        ⟨slot, fun own => absurd own differs⟩⟩
  case lists => exact fun _ => rfl

theorem erased_kin {s t : EntitySystem} {entitySn typeHash : Nat}
    (erased : Erased s t entitySn typeHash) (life : Nat) : kin t life = kin s life := by
  unfold kin
  cases before : s.components[life]? with
  | some component =>
      obtain ⟨later, here, _, type, owner, _⟩ := erased.forth life component before
      rw [here, Option.map_some, Option.map_some, type, owner]
  | none =>
      cases after : t.components[life]? with
      | none => rfl
      | some component =>
          obtain ⟨older, here, _⟩ := erased.back life component after
          rw [before] at here
          cases here

theorem erased_back {s t : EntitySystem} {entitySn typeHash : Nat}
    (erased : Erased s t entitySn typeHash) (life : Nat) : Back t life ↔ Back s life := by
  constructor
  · rintro ⟨component, there, zero⟩
    obtain ⟨older, here, sn, _⟩ := erased.back life component there
    exact ⟨older, here, sn.symm.trans zero⟩
  · rintro ⟨component, there, zero⟩
    obtain ⟨later, here, sn, _⟩ := erased.forth life component there
    exact ⟨later, here, sn.trans zero⟩

theorem erased_doomed {s t : EntitySystem} {entitySn typeHash : Nat}
    (erased : Erased s t entitySn typeHash) (life : Nat) : Doomed t life ↔ Doomed s life := by
  constructor
  · rintro ⟨component, there, reasons⟩
    obtain ⟨older, here, sn, type, _⟩ := erased.back life component there
    refine ⟨older, here, reasons.imp (fun zero => sn.symm.trans zero) ?_⟩
    intro listed
    rw [erased.lists, type] at listed
    exact listed
  · rintro ⟨component, there, reasons⟩
    obtain ⟨later, here, sn, type, _⟩ := erased.forth life component there
    refine ⟨later, here, reasons.imp (fun zero => sn.trans zero) ?_⟩
    intro listed
    rw [erased.lists, type]
    exact listed

theorem formed_slot_erased {s : EntitySystem} {entitySn : Nat} (typeHash : Nat) {entity : Component}
    (formed : Formed (some entitySn) s) (found : s.components[entitySn]? = some entity)
    (listed : ∀ life, entity.components[typeHash]? = some life → life ∈ removals s typeHash)
    (others : ∀ (type life : Nat), type ≠ typeHash → entity.components[type]? = some life →
      life ∉ removals s type) :
    let t := setComponent s entitySn
      { entity with components := entity.components.erase typeHash }
    Formed none t ∧ Keeps s t := by
  intro t
  have erased : Erased s t entitySn typeHash := erased_slot typeHash found
  constructor
  · constructor
    case named =>
      intro life component there
      obtain ⟨older, here, sn, _, owner, _⟩ := erased.back life component there
      rw [sn, owner]
      exact formed.named life older here
    case returned =>
      intro life
      rw [erased_back erased]
      exact formed.returned life
    case once => exact formed.once
    case apart => exact formed.apart
    case held =>
      intro type life object
      apply (formed.held type life object).trans
      constructor
      · rintro ⟨rfl, component, there, kind, live⟩
        obtain ⟨later, here, sn, type', _⟩ := erased.forth object component there
        exact ⟨rfl, later, here, type'.trans kind, sn.trans live⟩
      · rintro ⟨rfl, component, there, kind, live⟩
        obtain ⟨older, here, sn, type', _⟩ := erased.back object component there
        exact ⟨rfl, older, here, type'.symm.trans kind, sn.symm.trans live⟩
    case slots =>
      intro owner component type life there slot
      obtain ⟨older, here, _, _, _, slots⟩ := erased.back owner component there
      obtain ⟨child, has, own, kind, live⟩ := formed.slots owner older type life here (slots type life slot).1
      obtain ⟨later, also, sn, type', same', _⟩ := erased.forth life child has
      exact ⟨later, also, same'.trans own, type'.trans kind, sn.trans live⟩
    case clear =>
      intro owner component type life there slot on
      obtain ⟨older, here, _, _, _, slots⟩ := erased.back owner component there
      obtain ⟨before, elsewhere⟩ := slots type life slot
      cases formed.clear owner older type life here before on
      rw [found] at here
      cases here
      exact absurd on (others type life (elsewhere rfl) before)
    case owned =>
      intro life component owner there live own
      obtain ⟨older, here, sn, type, owner', _⟩ := erased.back life component there
      rw [type]
      rcases formed.owned life older owner here (sn.symm.trans live) (owner'.symm.trans own) with
        ⟨parent, has, alive, slot⟩ | on
      · obtain ⟨later, also, sn', _, _, slots⟩ := erased.forth owner parent has
        by_cases gone : owner = entitySn ∧ older.typeHash = typeHash
        · obtain ⟨rfl, kind⟩ := gone
          rw [found] at has
          cases has
          rw [kind] at slot ⊢
          exact Or.inr (listed life slot)
        · apply Or.inl
          refine ⟨later, also, sn'.trans alive, slots _ _ ?_ slot⟩
          exact Decidable.not_and_iff_not_or_not.mp gone
      · exact Or.inr on
    case known =>
      intro type life on
      obtain ⟨component, there⟩ := formed.known type life on
      obtain ⟨later, here, _⟩ := erased.forth life component there
      exact ⟨later, here⟩
    case justified =>
      intro life goes
      obtain ⟨root, at', depth, member, below⟩ :=
        formed.justified life ((erased_doomed erased life).mp goes)
      exact ⟨root, at', depth, member, (below_of_kin (erased_kin erased)).mpr below⟩
    case asked =>
      intro root at' member
      obtain ⟨before, goes⟩ := formed.asked root at' member
      exact ⟨before, (erased_doomed erased root).mpr goes⟩
  · exact ⟨erased_kin erased, fun life gone => (erased_back erased life).mpr gone,
      fun life goes => (erased_doomed erased life).mpr goes, List.Subset.refl _,
      fun _ _ member => Or.inl member, rfl⟩

theorem remove_from_slot {s : EntitySystem} (formed : Formed none s) {life entitySn : Nat}
    {component entity : Component} (found : s.components[life]? = some component)
    (own : component.owner = some entitySn) (there : s.components[entitySn]? = some entity) :
    removeFrom s life = setComponent (request s life) entitySn
      { entity with components := entity.components.erase component.typeHash } := by
  have other : life ≠ entitySn := by
    rintro rfl
    exact (formed.named life component found).2.2 own
  rw [removeFrom, found]
  dsimp only
  rw [own, Option.bind_some, there, Option.map_some]
  exact request_set_component s life entitySn _ other

theorem removed_through {s : EntitySystem} (formed : Formed none s) {life entitySn : Nat}
    {component entity : Component} (found : s.components[life]? = some component)
    (live : component.sn = life) (own : component.owner = some entitySn)
    (there : s.components[entitySn]? = some entity)
    (current : ∀ held, entity.components[component.typeHash]? = some held → held = life) :
    Formed none (removeFrom s life) ∧ Keeps s (removeFrom s life) := by
  obtain ⟨asked, keeps, goes, appended⟩ := formed_request (formed_leaving formed entitySn) life
    component found live fun also owner => Or.inl (own.symm.trans owner)
  obtain ⟨_, lists⟩ := appended_remove found
    ((collections_of_live formed found live).imp fun _ held => held.1)
  rw [remove_from_slot formed found own there]
  have erased := formed_slot_erased component.typeHash asked
    (appended.components ▸ there)
    (by
      intro held slot
      cases current held slot
      obtain ⟨listed, here, reasons⟩ := goes
      rw [appended.components, found] at here
      cases here
      exact reasons.resolve_left fun zero =>
        (formed.named life component found).1 (live.symm.trans zero))
    (by
      intro type held differs slot listed
      have older : held ∈ removals s type := by
        have member : held ∈ removals (removeComponent s life) type := listed
        rw [lists, if_neg differs] at member
        exact member
      cases formed.clear entitySn entity type held there slot older)
  exact ⟨erased.1, keeps_trans keeps erased.2⟩

def Rooted (s : EntitySystem) : Prop :=
  ∀ life parent, ownerOf s life = some parent → ∃ component, s.components[parent]? = some component

/-- Whoever lives below a removed object has updates left for each level. -/
def Deadline (s : EntitySystem) : Prop :=
  ∀ root at', (root, at') ∈ s.requested → ∀ depth life, Below s root depth life →
    Live s life → s.updates ≤ at' + depth

structure Kept (s : EntitySystem) : Prop where
  formed : Formed none s
  rooted : Rooted s
  deadline : Deadline s

theorem back_of_not_live {s : EntitySystem} {life : Nat} {component : Component}
    (found : s.components[life]? = some component) (gone : ¬ Live s life) : Back s life := by
  refine ⟨component, found, Decidable.byContradiction ?_⟩
  exact fun nonzero => gone ⟨component, found, nonzero⟩

theorem not_back_of_live {s : EntitySystem} {life : Nat} (live : Live s life) : ¬ Back s life := by
  obtain ⟨component, found, nonzero⟩ := live
  rintro ⟨other, there, zero⟩
  rw [found] at there
  cases there
  exact nonzero zero

theorem known_of_owner {s : EntitySystem} {life parent : Nat}
    (owned : ownerOf s life = some parent) :
    ∃ component, s.components[life]? = some component ∧ component.owner = some parent :=
  Option.bind_eq_some_iff.mp owned

theorem rooted_of_kin {s t : EntitySystem} (rooted : Rooted s)
    (same : ∀ life, kin t life = kin s life) : Rooted t := by
  intro life parent owned
  rw [owner_of_kin same] at owned
  obtain ⟨component, found⟩ := rooted life parent owned
  obtain ⟨now, there, _⟩ := kin_some same found
  exact ⟨now, there⟩

theorem live_of_keeps {s t : EntitySystem} (keeps : Keeps s t) {life : Nat} (live : Live t life) :
    Live s life := by
  obtain ⟨component, found, nonzero⟩ := live
  have same := keeps.kin life
  unfold kin at same
  rw [found] at same
  obtain ⟨older, there, _⟩ := Option.map_eq_some_iff.mp same.symm
  apply Classical.byContradiction
  intro gone
  exact not_back_of_live ⟨component, found, nonzero⟩ (keeps.back life (back_of_not_live there gone))

theorem kept_of_keeps {s t : EntitySystem} (kept : Kept s) (formed : Formed none t)
    (keeps : Keeps s t) : Kept t := by
  refine ⟨formed, rooted_of_kin kept.rooted keeps.kin, ?_⟩
  intro root at' member depth life below live
  rw [keeps.updates]
  rcases keeps.fresh root at' member with older | rfl
  · exact kept.deadline root at' older depth life ((below_of_kin keeps.kin).mp below)
      (live_of_keeps keeps live)
  · exact Nat.le_add_right _ _

theorem kept_updated {disposes : Nat → List Nat} {s after : EntitySystem} (kept : Kept s)
    (updated : Updated disposes s after) : Kept after := by
  obtain ⟨formed, keeps, backs⟩ := updated_spec kept.formed updated
  have same : ∀ life, kin after life = kin s life := keeps.kin
  refine ⟨formed, rooted_of_kin kept.rooted same, ?_⟩
  intro root at' member depth life below live
  rw [keeps.updates]
  rcases keeps.fresh root at' member with older | rfl
  · -- nobody who was on a list before is live now
    have waiting : ¬ Doomed s life := fun goes => not_back_of_live live (backs life goes)
    cases (below_of_kin same).mp below with
    | self => exact absurd (kept.formed.asked root at' older).2 waiting
    | down owned above =>
        rename_i depth parent
        obtain ⟨component, found, owner⟩ := known_of_owner owned
        have alive : component.sn = life := by
          apply (kept.formed.named life component found).2.1.resolve_right
          exact fun zero => waiting ⟨component, found, Or.inl zero⟩
        rcases kept.formed.owned life component parent found alive owner with
          ⟨entity, there, here, _⟩ | listed
        · have nonzero : entity.sn ≠ 0 := by
            rw [here]
            exact (kept.formed.named parent entity there).1
          have left := kept.deadline root at' older depth parent above ⟨entity, there, nonzero⟩
          exact Nat.succ_le_succ left
        · exact absurd ⟨component, found, Or.inr listed⟩ waiting
  · exact Nat.le_add_right _ _

theorem below_joined {s t : EntitySystem} {owner : Option Nat} {typeHash sn root depth life : Nat}
    (rooted : Rooted s) (absent : sn ∉ s.components) (joined : Joined s t owner typeHash sn)
    (below : Below t root depth life) (known : life ≠ sn) : Below s root depth life := by
  induction below with
  | self => exact Below.self
  | @down depth parent life owned _ ih =>
      obtain ⟨now, found, own⟩ := known_of_owner owned
      obtain ⟨component, there, _, _, same, _⟩ := joined.older life now found known
      have before : ownerOf s life = some parent := by
        rw [ownerOf, there]
        exact same.symm.trans own
      obtain ⟨entity, here⟩ := rooted life parent before
      apply Below.down before (ih _)
      rintro rfl
      exact absent (mem_of_get here)

theorem kept_joined {s t : EntitySystem} {owner : Option Nat} {typeHash sn : Nat} (kept : Kept s)
    (absent : sn ∉ s.components) (nonzero : sn ≠ 0)
    (parent : ∀ entitySn, owner = some entitySn → Live s entitySn)
    (joined : Joined s t owner typeHash sn) : Kept t := by
  have older : ∀ entitySn, owner = some entitySn → entitySn ≠ sn := by
    rintro entitySn own rfl
    obtain ⟨entity, found, _⟩ := parent entitySn own
    exact absent (mem_of_get found)
  refine ⟨formed_joined kept.formed absent nonzero (fun own => older sn own rfl) joined, ?_, ?_⟩
  · intro life above owned
    obtain ⟨now, found, own⟩ := known_of_owner owned
    by_cases this : life = sn
    · rw [this, joined.fresh] at found
      cases found
      obtain ⟨entity, there, _⟩ := parent above own
      obtain ⟨_, later, here, _⟩ := joined.newer above entity there
      exact ⟨later, here⟩
    · obtain ⟨component, there, _, _, same, _⟩ := joined.older life now found this
      have before : ownerOf s life = some above := by
        rw [ownerOf, there]
        exact same.symm.trans own
      obtain ⟨entity, has⟩ := kept.rooted life above before
      obtain ⟨_, later, here, _⟩ := joined.newer above entity has
      exact ⟨later, here⟩
  · intro root at' member depth life below live
    rw [joined.requested] at member
    rw [joined.updates]
    by_cases this : life = sn
    · cases below with
      | self =>
          obtain ⟨component, found, _⟩ := (kept.formed.asked root at' member).2
          rw [this] at found
          exact absurd (mem_of_get found) absent
      | down owned above =>
          obtain ⟨now, found, own⟩ := known_of_owner owned
          rw [this, joined.fresh] at found
          cases found
          have before := below_joined kept.rooted absent joined above (older _ own)
          exact Nat.le_succ_of_le (kept.deadline root at' member _ _ before (parent _ own))
    · obtain ⟨now, found, nonzero'⟩ := live
      obtain ⟨component, there, same, _⟩ := joined.older life now found this
      apply kept.deadline root at' member depth life
        (below_joined kept.rooted absent joined below this)
      exact ⟨component, there, same ▸ nonzero'⟩

theorem added_cases {s t : EntitySystem} {owner : Option Nat} {typeHash sn : Nat}
    (formed : Formed none s) (added : entityStep s (.add owner typeHash sn) t) :
    Joined s t owner typeHash sn ∨
      t = s ∧ ∃ (entitySn : Nat) (entity : Component), owner = some entitySn ∧
        s.components[entitySn]? = some entity ∧ typeHash ∈ entity.components := by
  obtain ⟨_, absent, parent, rfl⟩ := added
  cases owner with
  | none => exact Or.inl (joined_created s typeHash sn absent)
  | some entitySn =>
      obtain ⟨entity, found, alive⟩ := parent entitySn rfl
      have live : entity.sn = entitySn :=
        (formed.named entitySn entity found).2.1.resolve_right alive
      rw [addComponent]
      simp only [found]
      by_cases taken : typeHash ∈ entity.components
      · rw [if_pos taken]
        exact Or.inr ⟨rfl, entitySn, entity, rfl, found, taken⟩
      · rw [if_neg taken]
        exact Or.inl (joined_entity s entitySn typeHash sn entity absent found live taken)

theorem kept_step {before after : EntitySystem} {event : Event} (kept : Kept before)
    (taken : Guarded entityStep Current before event after) : Kept after := by
  obtain ⟨step, current⟩ := taken
  cases event with
  | add owner typeHash sn =>
      rcases added_cases kept.formed step with joined | ⟨rfl, _⟩
      · exact kept_joined kept step.2.1 step.1 step.2.2.1 joined
      · exact kept
  | remove life =>
      obtain ⟨⟨component, found, nonzero, free⟩, rfl⟩ := step
      have live : component.sn = life :=
        (kept.formed.named life component found).2.1.resolve_right nonzero
      obtain ⟨formed, keeps, _⟩ := formed_request kept.formed life component found live (by
        intro entitySn own
        rw [free] at own
        cases own)
      exact kept_of_keeps kept formed keeps
  | removeFrom life =>
      obtain ⟨⟨component, entitySn, found, nonzero, own, entity, there, _⟩, rfl⟩ := step
      have live : component.sn = life :=
        (kept.formed.named life component found).2.1.resolve_right nonzero
      obtain ⟨formed, keeps⟩ := removed_through kept.formed found live own there
        fun held => current component entitySn entity held found own there
      exact kept_of_keeps kept formed keeps
  | update disposes => exact kept_updated kept step

theorem kept_start : Kept start := by
  refine ⟨formed_start, ?_, ?_⟩
  · intro life parent owned
    obtain ⟨component, found, _⟩ := known_of_owner owned
    simp [start] at found
  · intro root at' member
    cases member

/-! ### The law -/

theorem law_of_kept {s : EntitySystem} (kept : Kept s) : Law s := by
  have formed := kept.formed
  have held_of : ∀ (life : Nat) (component : Component), s.components[life]? = some component →
      life ∉ s.returned → component.sn = life ∧
        ∃ collections, s.objSystems[component.typeHash]? = some collections ∧
          ComponentCollections.held collections life = some life := by
    intro life component found staying
    have live : component.sn = life := by
      apply (formed.named life component found).2.1.resolve_right
      intro zero
      exact staying ((formed.returned life).mpr ⟨component, found, zero⟩)
    exact ⟨live, collections_of_live formed found live⟩
  constructor
  · exact formed.once
  · intro root at' member depth life below late
    have gone : ¬ Live s life := by
      intro live
      have left := kept.deadline root at' member depth life below live
      omega
    have known : ∃ component, s.components[life]? = some component := by
      cases below with
      | self =>
          obtain ⟨component, found, _⟩ := (formed.asked root at' member).2
          exact ⟨component, found⟩
      | down owned _ => exact (known_of_owner owned).imp fun _ found => found.1
    obtain ⟨component, found⟩ := known
    obtain ⟨other, there, zero⟩ := back_of_not_live found gone
    refine ⟨(formed.returned life).mpr ⟨other, there, zero⟩, ?_⟩
    intro typeHash collections present
    cases holds : ComponentCollections.held collections life with
    | none => exact ComponentCollections.held_none.mp holds
    | some object =>
        obtain ⟨rfl, component, here, _, live⟩ :=
          (formed.held typeHash life object).mp (held_in_some.mpr ⟨collections, present, holds⟩)
        rw [there] at here
        cases here
        exact absurd (live.symm.trans zero) (formed.named object other there).1
  · intro life component found outside
    have staying : life ∉ s.returned := by
      intro returned
      obtain ⟨other, there, zero⟩ := (formed.returned life).mp returned
      obtain ⟨root, at', depth, member, below⟩ :=
        formed.justified life ⟨other, there, Or.inl zero⟩
      exact outside root at' member depth below
    obtain ⟨_, collections, present, holds⟩ := held_of life component found staying
    refine ⟨staying, collections, present, ?_⟩
    rw [get_held collections life (formed.named life component found).1]
    exact holds
  · intro life component found staying
    obtain ⟨_, collections, present, holds⟩ := held_of life component found staying
    refine ⟨collections, present, ?_⟩
    have apart := formed.apart component.typeHash collections present
    rcases Option.or_eq_some_iff.mp holds with inObjs | ⟨notInObjs, added⟩
    · exact Or.inl ⟨mem_of_get inObjs, apart life (mem_of_get inObjs)⟩
    · exact Or.inr ⟨get_none_iff.mp notInObjs, mem_of_get added⟩
  · intro disposes
    exact swapped_each_ends disposes (types s) (formed_begun formed)

/-! ### Updates on given entities -/

def swapEach (fuel : Nat) (disposes : Nat → List Nat) : List Nat → EntitySystem →
    Option EntitySystem
  | [], s => some s
  | typeHash :: rest, s =>
      (loop (swapTurn disposes typeHash) fuel (modifyCollections s typeHash moveAdds)).bind
        (swapEach fuel disposes rest)

def update (fuel : Nat) (disposes : Nat → List Nat) (s : EntitySystem) : Option EntitySystem :=
  swapEach fuel disposes (types s) { s with updates := s.updates + 1 }

theorem swap_each_done {fuel : Nat} {disposes : Nat → List Nat} {list : List Nat}
    {s after : EntitySystem} (done : swapEach fuel disposes list s = some after) :
    SwappedEach disposes list s after := by
  induction list generalizing s with
  | nil => exact (Option.some.inj done).symm
  | cons typeHash rest ih =>
      obtain ⟨between, first, later⟩ := Option.bind_eq_some_iff.mp done
      exact ⟨between, ⟨fuel, first⟩, ih later⟩

theorem update_done (fuel : Nat) {disposes : Nat → List Nat} {s after : EntitySystem}
    (done : update fuel disposes s = some after) : Updated disposes s after :=
  swap_each_done done

/-- `ComponentBackToPool` runs once at most for each component, and of a tree that
is removed every component is back one update after its level. -/
theorem components_returned (trace : List Event) (s : EntitySystem)
    (run : Run (Guarded entityStep Current) start trace s) : Law s := by
  apply law_of_kept
  exact run_invariant Kept (fun _ _ _ kept taken => kept_step kept taken) run kept_start

/-- An entity with a component, which has one of its own, is removed: three
updates take back one level each, whatever the order of the types. -/
theorem components_returned_levels :
    ∃ s trace, Run (Guarded entityStep Current) start trace s ∧ Law s ∧
      s.returned = [1, 2, 3] ∧ s.updates = 3 := by
  have run : ∃ s, Run (Guarded entityStep Current) start
      [.add none 30 1, .add (some 1) 20 2, .add (some 2) 10 3, .remove 1,
        .update fun _ => [], .update fun _ => [], .update fun _ => []] s ∧
      s.returned = [1, 2, 3] ∧ s.updates = 3 := by
    refine ⟨_, .next ⟨⟨by decide, by decide, ?_, rfl⟩, trivial⟩ <|
      .next ⟨⟨by decide, by decide, ?_, rfl⟩, trivial⟩ <|
      .next ⟨⟨by decide, by decide, ?_, rfl⟩, trivial⟩ <|
      .next ⟨⟨by decide, rfl⟩, trivial⟩ <|
      .next ⟨update_done 9 (Option.some_get (by decide)).symm, trivial⟩ <|
      .next ⟨update_done 9 (Option.some_get (by decide)).symm, trivial⟩ <|
      .next ⟨update_done 9 (Option.some_get (by decide)).symm, trivial⟩ <|
      .refl _, ?_, ?_⟩
    · exact fun _ impossible => nomatch impossible
    · rintro entitySn ⟨⟩
      exact ⟨_, rfl, by decide⟩
    · rintro entitySn ⟨⟩
      exact ⟨_, rfl, by decide⟩
    · decide
    · decide
  obtain ⟨s, taken, back⟩ := run
  exact ⟨s, _, taken, components_returned _ s taken, back⟩

/-- Entity 1 has component 2, which is removed; component 3 of the same type is
added, and 2 is removed once more in the same frame, which erases the slot of 3.
The entity is removed, and 3 does not go with it. -/
theorem second_removal_orphans :
    ∃ trace s, Run entityStep start trace s ∧ (1, 0) ∈ s.requested ∧ Below s 1 1 3 ∧
      s.updates = 2 ∧ 3 ∉ s.returned ∧ ¬ Law s := by
  have run : ∃ s, Run entityStep start
      [.add none 10 1, .add (some 1) 20 2, .removeFrom 2, .add (some 1) 20 3, .removeFrom 2,
        .remove 1, .update fun _ => [], .update fun _ => []] s ∧
      (1, 0) ∈ s.requested ∧ ownerOf s 3 = some 1 ∧ s.updates = 2 ∧ 3 ∉ s.returned := by
    refine ⟨_, .next ⟨by decide, by decide, ?_, rfl⟩ <|
      .next ⟨by decide, by decide, ?_, rfl⟩ <|
      .next ⟨⟨_, 1, rfl, by decide, rfl, _, rfl, by decide⟩, rfl⟩ <|
      .next ⟨by decide, by decide, ?_, rfl⟩ <|
      .next ⟨⟨_, 1, rfl, by decide, rfl, _, rfl, by decide⟩, rfl⟩ <|
      .next ⟨by decide, rfl⟩ <|
      .next (update_done 9 (Option.some_get (by decide)).symm) <|
      .next (update_done 9 (Option.some_get (by decide)).symm) <|
      .refl _, ?_, ?_, ?_, ?_⟩
    · exact fun _ impossible => nomatch impossible
    · rintro entitySn ⟨⟩
      exact ⟨_, rfl, by decide⟩
    · rintro entitySn ⟨⟩
      exact ⟨_, rfl, by decide⟩
    · decide
    · decide
    · decide
    · decide
  obtain ⟨s, taken, asked, owned, updates, staying⟩ := run
  have below : Below s 1 1 3 := Below.down owned Below.self
  refine ⟨_, s, taken, asked, below, updates, staying, ?_⟩
  intro law
  exact staying (law.gone 1 0 asked 1 3 below (Nat.le_of_eq updates.symm)).1

end GameBook.ComponentLifecycle
