import GameBook.ComponentLifecycle
import GameBook.SystemFrames

/-!
The order in which types are swapped, and who may be back in the pool when the
systems call a component.
-/

namespace GameBook.ParentCalls

open GameBook.OrderedMap LabelledRun WhileLoop EntitySystem ComponentReturns ComponentLifecycle
  SystemFrames Std
open ComponentCollections (moveAdds dropRemoval eraseObj)

@[simp] theorem removed_components (s : EntitySystem) (life : Nat) :
    (removeComponent s life).components = s.components := by
  unfold removeComponent
  split
  · rfl
  · simp

@[simp] theorem remove_each_components (s : EntitySystem) (lives : List Nat) :
    (removeEach s lives).components = s.components := by
  induction lives generalizing s with
  | nil => rfl
  | cons first rest ih =>
      rw [removeEach, List.foldl_cons]
      exact (ih _).trans (removed_components s first)

theorem remove_each_requested (s : EntitySystem) (lives : List Nat) :
    (removeEach s lives).requested = s.requested := by
  induction lives generalizing s with
  | nil => rfl
  | cons first rest ih =>
      rw [removeEach, List.foldl_cons]
      exact (ih _).trans (requested_remove s first)

@[simp] theorem requested_components (s : EntitySystem) (life : Nat) :
    (request s life).components = s.components := by
  simp [request]

@[simp] theorem dispose_each_components (s : EntitySystem) (lives : List Nat) :
    (disposeEach s lives).components = s.components := by
  induction lives generalizing s with
  | nil => rfl
  | cons first rest ih =>
      rw [disposeEach, List.foldl_cons]
      apply (ih _).trans
      split
      · exact requested_components s first
      · rfl

theorem dispose_each_requested {s : EntitySystem} {lives : List Nat} {root at' : Nat}
    (member : (root, at') ∈ (disposeEach s lives).requested) :
    (root, at') ∈ s.requested ∨ root ∈ lives := by
  induction lives generalizing s with
  | nil => exact Or.inl member
  | cons first rest ih =>
      rw [disposeEach, List.foldl_cons] at member
      rcases ih member with earlier | later
      · split at earlier
        · rcases List.mem_append.mp earlier with older | last
          · exact Or.inl older
          · cases List.mem_singleton.mp last
            exact Or.inr List.mem_cons_self
        · exact Or.inl earlier
      · exact Or.inr (List.mem_cons_of_mem _ later)

structure Spares (types : List Nat) (disposes : Nat → List Nat) (s t : EntitySystem) : Prop where
  lives : ∀ life : Nat, t.components[life]? = s.components[life]? ∨
    Back t life ∧ ∃ component, s.components[life]? = some component ∧ component.typeHash ∈ types
  requested : ∀ root at', (root, at') ∈ t.requested →
    (root, at') ∈ s.requested ∨ ∃ life, root ∈ disposes life

theorem spares_refl (types : List Nat) (disposes : Nat → List Nat) (s : EntitySystem) :
    Spares types disposes s s where
  lives _ := Or.inl rfl
  requested _ _ member := Or.inl member

theorem spares_trans {types : List Nat} {disposes : Nat → List Nat} {s t u : EntitySystem}
    (first : Spares types disposes s t) (second : Spares types disposes t u) (keeps : Keeps t u) :
    Spares types disposes s u where
  lives := by
    intro life
    rcases first.lives life with same | ⟨gone, typed⟩
    · rcases second.lives life with still | ⟨gone, typed⟩
      · exact Or.inl (still.trans same)
      · rw [same] at typed
        exact Or.inr ⟨gone, typed⟩
    · exact Or.inr ⟨keeps.back life gone, typed⟩
  requested := by
    intro root at' member
    rcases second.requested root at' member with older | disposed
    · exact first.requested root at' older
    · exact Or.inr disposed

theorem spares_mono {types more : List Nat} {disposes : Nat → List Nat} {s t : EntitySystem}
    (spares : Spares types disposes s t) (subset : types ⊆ more) : Spares more disposes s t where
  lives life := (spares.lives life).imp id fun gone =>
    ⟨gone.1, gone.2.imp fun _ found => ⟨found.1, subset found.2⟩⟩
  requested := spares.requested

theorem turn_spares {disposes : Nat → List Nat} {typeHash : Nat} {s next : EntitySystem}
    (formed : Formed none s) (goes : swapTurn disposes typeHash s = .inl next) :
    Spares [typeHash] disposes s next := by
  unfold swapTurn at goes
  split at goes
  · cases goes
  · rename_i collections held
    split at goes
    · cases goes
    · rename_i sn rest first
      split at goes
      · cases goes
        constructor
        · intro life
          rw [modify_components]
          exact Or.inl rfl
        · intro root at' member
          rw [modify_requested] at member
          exact Or.inl member
      · rename_i object inside
        cases goes
        have there : heldIn s typeHash sn = some object := by
          rw [heldIn, held, Option.bind_some, ComponentCollections.held, inside]
          rfl
        obtain ⟨rfl, component, found, type, live⟩ := (formed.held typeHash sn object).mp there
        have pooled : (componentBackToPool disposes s object).components =
            s.components.insert object { component with sn := 0, components := ∅ } := by
          rw [componentBackToPool, found]
          simp only [setComponent, dispose_each_components, remove_each_components]
        constructor
        · intro life
          rw [modify_components, pooled, get_insert]
          split
          · rename_i own
            apply Or.inr
            refine ⟨⟨{ component with sn := 0, components := ∅ }, ?_, rfl⟩, component, own ▸ found,
              List.mem_singleton.mpr type⟩
            rw [modify_components, pooled, get_insert, if_pos own]
          · exact Or.inl rfl
        · intro root at' member
          rw [modify_requested, componentBackToPool, found] at member
          rcases dispose_each_requested member with older | disposed
          · rw [remove_each_requested] at older
            exact Or.inl older
          · exact Or.inr ⟨object, disposed⟩

theorem swapped_spares {disposes : Nat → List Nat} {typeHash : Nat} {s after : EntitySystem}
    (formed : Formed none s) (swapped : Swapped disposes typeHash s after) :
    Spares [typeHash] disposes s after := by
  obtain ⟨start, _, moved⟩ := formed_moved formed typeHash
  obtain ⟨fuel, done⟩ := swapped
  have begun : Spares [typeHash] disposes s (modifyCollections s typeHash moveAdds) := by
    constructor
    · intro life
      rw [modify_components]
      exact Or.inl rfl
    · intro root at' member
      rw [modify_requested] at member
      exact Or.inl member
  apply loop_result
    (fun state => (Formed none state ∧ Moved typeHash state) ∧ Spares [typeHash] disposes s state)
    (fun result => Spares [typeHash] disposes s result)
    (by
      rintro state next ⟨⟨held, still⟩, spares⟩ goes
      obtain ⟨⟨formed', keeps', moved'⟩, _⟩ := turn_formed held still goes
      exact ⟨⟨formed', moved'⟩, spares_trans spares (turn_spares held goes) keeps'⟩)
    (by
      rintro state result ⟨_, spares⟩ leaves
      have same : result = state := by
        unfold swapTurn at leaves
        split at leaves
        · exact (Sum.inr.inj leaves).symm
        · split at leaves
          · exact (Sum.inr.inj leaves).symm
          · split at leaves
            · cases leaves
            · cases leaves
      rw [same]
      exact spares)
    fuel _ after ⟨⟨start, moved⟩, begun⟩ done

theorem swapped_each_spares {disposes : Nat → List Nat} (list : List Nat) {s after : EntitySystem}
    (formed : Formed none s) (done : SwappedEach disposes list s after) :
    Spares list disposes s after := by
  induction list generalizing s with
  | nil =>
      rw [SwappedEach] at done
      rw [done]
      exact spares_refl _ _ s
  | cons typeHash rest ih =>
      obtain ⟨between, swapped, later⟩ := done
      obtain ⟨middle, _, _⟩ := swapped_spec formed swapped
      have first := spares_mono (swapped_spares formed swapped)
        (List.cons_subset_cons typeHash (List.nil_subset rest))
      have second := spares_mono (ih middle later) (List.subset_cons_self typeHash rest)
      exact spares_trans first second (swapped_each_spec rest middle later).2.1

/-! ### An owner that is swapped before its component -/

def OwnerLives (owner typeHash : Nat) (s : EntitySystem) : Prop :=
  ∀ (life parent : Nat) (component entity : Component), s.components[life]? = some component →
    component.typeHash = typeHash → component.sn = life → component.owner = some parent →
      s.components[parent]? = some entity → entity.typeHash = owner → ¬ Back s parent

theorem owner_lives_of_empty {s : EntitySystem} (formed : Formed none s) (owner : Nat)
    {typeHash : Nat} (empty : removals s typeHash = []) : OwnerLives owner typeHash s := by
  intro life parent component entity found type live own there _ back
  rcases formed.owned life component parent found live own with ⟨other, here, alive, _⟩ | listed
  · obtain ⟨same, also, zero⟩ := back
    rw [here] at also
    cases also
    exact (formed.named parent other here).1 (alive.symm.trans zero)
  · rw [type, empty] at listed
    cases listed

theorem owner_lives_spared {types : List Nat} {disposes : Nat → List Nat} {s t : EntitySystem}
    {owner typeHash : Nat} (formed : Formed none t) (lives : OwnerLives owner typeHash s)
    (keeps : Keeps s t) (spares : Spares types disposes s t) (outside : owner ∉ types) :
    OwnerLives owner typeHash t := by
  intro life parent component entity found type live own there kind back
  have nonzero : life ≠ 0 := (formed.named life component found).1
  have before : s.components[life]? = some component := by
    rcases spares.lives life with same | ⟨⟨other, here, zero⟩, _⟩
    · rw [← same, found]
    · rw [found] at here
      cases here
      exact absurd (live.symm.trans zero) nonzero
  rcases spares.lives parent with same | ⟨_, older, here, typed⟩
  · rw [there] at same
    apply lives life parent component entity before type live own same.symm kind
    obtain ⟨other, here, zero⟩ := back
    rw [there] at here
    cases here
    exact ⟨entity, same.symm, zero⟩
  · obtain ⟨now, also, kin', _⟩ := kin_some keeps.kin here
    rw [there] at also
    cases also
    rw [← kin', kind] at typed
    exact outside typed

theorem swapped_each_owner {disposes : Nat → List Nat} (list : List Nat) {s after : EntitySystem}
    {owner typeHash : Nat} (formed : Formed none s) (done : SwappedEach disposes list s after)
    (ordered : list.Pairwise fun left right => left < right) (first : owner < typeHash)
    (member : typeHash ∈ list) : OwnerLives owner typeHash after := by
  induction list generalizing s with
  | nil => cases member
  | cons head rest ih =>
      obtain ⟨between, swapped, later⟩ := done
      obtain ⟨middle, _, empty⟩ := swapped_spec formed swapped
      obtain ⟨smaller, tail⟩ := List.pairwise_cons.mp ordered
      rcases List.mem_cons.mp member with rfl | further
      · -- the types that follow are greater than that of the owner
        obtain ⟨last, keeps, _⟩ := swapped_each_spec rest middle later
        apply owner_lives_spared last (owner_lives_of_empty middle owner empty) keeps
          (swapped_each_spares rest middle later)
        intro inside
        exact absurd (smaller owner inside) (Nat.lt_asymm first)
      · exact ih middle later tail further

theorem types_ordered (s : EntitySystem) : (types s).Pairwise fun left right => left < right := by
  rw [types, List.pairwise_map]
  apply List.Pairwise.imp _ ExtTreeMap.ordered_keys_toList
  intro left right less
  exact Nat.compare_eq_lt.mp less

theorem updated_owner {disposes : Nat → List Nat} {s after : EntitySystem} {owner typeHash : Nat}
    (formed : Formed none s) (updated : Updated disposes s after) (first : owner < typeHash) :
    OwnerLives owner typeHash after := by
  by_cases member : typeHash ∈ types s
  · exact swapped_each_owner (types s) (formed_begun formed) updated (types_ordered s) first member
  · intro life parent component entity found type live own _ _ _
    obtain ⟨last, keeps, _⟩ := updated_spec formed updated
    obtain ⟨before, there, kind, _⟩ := kin_some (fun other => (keeps.kin other).symm) found
    have alive : before.sn = life := by
      apply (formed.named life before there).2.1.resolve_right
      intro zero
      obtain ⟨now, here, gone⟩ := keeps.back life ⟨before, there, zero⟩
      rw [found] at here
      cases here
      exact (formed.named life before there).1 (live.symm.trans gone)
    obtain ⟨collections, held, _⟩ := collections_of_live formed there alive
    apply member
    rw [← type, ← kind]
    exact List.mem_map.mpr ⟨(before.typeHash, collections),
      ExtTreeMap.mem_toList_iff_getElem?_eq_some.mpr held, rfl⟩

structure Steady (s t : EntitySystem) : Prop where
  stays : ∀ (life : Nat) (component : Component), s.components[life]? = some component →
    ∃ now, t.components[life]? = some now ∧ now.sn = component.sn ∧
      now.typeHash = component.typeHash ∧ now.owner = component.owner
  fresh : ∀ (life : Nat) (now : Component), t.components[life]? = some now →
    life ∉ s.components → ∀ parent, now.owner = some parent → Live t parent

theorem steady_same {s t : EntitySystem} (same : t.components = s.components) : Steady s t where
  stays _ component found := ⟨component, same ▸ found, rfl, rfl, rfl⟩
  fresh _ _ found absent := absurd (same ▸ mem_of_get found) absent

theorem live_steady {s t : EntitySystem} (steady : Steady s t) {life : Nat} (live : Live s life) :
    Live t life := by
  obtain ⟨component, found, nonzero⟩ := live
  obtain ⟨now, there, same, _⟩ := steady.stays life component found
  exact ⟨now, there, same ▸ nonzero⟩

theorem steady_trans {s t u : EntitySystem} (first : Steady s t) (second : Steady t u) :
    Steady s u where
  stays := by
    intro life component found
    obtain ⟨now, there, sn, type, owner⟩ := first.stays life component found
    obtain ⟨last, here, sn', type', owner'⟩ := second.stays life now there
    exact ⟨last, here, sn'.trans sn, type'.trans type, owner'.trans owner⟩
  fresh := by
    intro life last found absent parent own
    by_cases known : life ∈ t.components
    · obtain ⟨now, there⟩ := Option.isSome_iff_exists.mp (ExtTreeMap.mem_iff_isSome_getElem?.mp known)
      obtain ⟨other, here, _, _, owner⟩ := second.stays life now there
      rw [found] at here
      cases here
      exact live_steady second (first.fresh life now there absent parent (owner.symm.trans own))
    · exact second.fresh life last found known parent own

theorem steady_joined {s t : EntitySystem} {owner : Option Nat} {typeHash sn : Nat}
    (joined : Joined s t owner typeHash sn)
    (parent : ∀ entitySn, owner = some entitySn → Live s entitySn) : Steady s t := by
  have stays : ∀ (life : Nat) (component : Component), s.components[life]? = some component →
      ∃ now, t.components[life]? = some now ∧ now.sn = component.sn ∧
        now.typeHash = component.typeHash ∧ now.owner = component.owner := by
    intro life component found
    obtain ⟨_, now, there, sn', type, owner', _⟩ := joined.newer life component found
    exact ⟨now, there, sn', type, owner'⟩
  refine ⟨stays, ?_⟩
  intro life now found absent above own
  by_cases this : life = sn
  · rw [this, joined.fresh] at found
    cases found
    obtain ⟨component, there, nonzero⟩ := parent above own
    obtain ⟨later, here, same, _⟩ := stays above component there
    exact ⟨later, here, same ▸ nonzero⟩
  · obtain ⟨older, there, _⟩ := joined.older life now found this
    exact absurd (mem_of_get there) absent

def OwnersLive (typeHash : Nat) (s : EntitySystem) : Prop :=
  ∀ (life parent : Nat) (component : Component), s.components[life]? = some component →
    component.typeHash = typeHash → component.sn = life → component.owner = some parent →
      ¬ Back s parent

theorem owners_live_of_empty {s : EntitySystem} (formed : Formed none s) {typeHash : Nat}
    (empty : removals s typeHash = []) : OwnersLive typeHash s := by
  intro life parent component found type live own back
  obtain ⟨entity, there, _⟩ := id back
  exact owner_lives_of_empty formed entity.typeHash empty life parent component entity found type
    live own there rfl back

theorem owners_live_steady {s t : EntitySystem} {typeHash : Nat} (rooted : Rooted s)
    (lives : OwnersLive typeHash s) (steady : Steady s t) : OwnersLive typeHash t := by
  intro life parent now found type live own back
  by_cases known : life ∈ s.components
  · obtain ⟨component, there⟩ :=
      Option.isSome_iff_exists.mp (ExtTreeMap.mem_iff_isSome_getElem?.mp known)
    obtain ⟨other, here, sn, type', owner⟩ := steady.stays life component there
    rw [found] at here
    cases here
    have owned : ownerOf s life = some parent := by
      rw [ownerOf, there]
      exact owner.symm.trans own
    obtain ⟨entity, above⟩ := rooted life parent owned
    obtain ⟨later, also, same, _⟩ := steady.stays parent entity above
    obtain ⟨last, still, zero⟩ := back
    rw [also] at still
    cases still
    exact lives life parent component there (type'.symm.trans type) (sn.symm.trans live)
      (owner.symm.trans own) ⟨entity, above, same.symm.trans zero⟩
  · exact not_back_of_live (steady.fresh life now found known parent own) back

/-! ### The players of the worlds -/

/-- A component moves with a player that has a map, until the player goes. -/
structure Sound (types : Types) (s : Space) : Prop where
  kept : Kept s.entities
  players : ∀ p ∈ s.players, (∀ at', (p, at') ∉ s.entities.requested) ∧
    ∃ player, s.entities.components[p]? = some player ∧ player.typeHash = types.player ∧
      player.owner = none ∧ types.lastMap ∈ player.components
  moves : ∀ (life : Nat) (component : Component), s.entities.components[life]? = some component →
    component.typeHash = types.move → ∃ (p : Nat) (player : Component),
      component.owner = some p ∧ s.entities.components[p]? = some player ∧
        player.typeHash = types.player ∧ player.owner = none ∧
        (player.sn ≠ 0 → types.lastMap ∈ player.components ∧
          (p ∈ s.players ∨ ∃ at', (p, at') ∈ s.entities.requested))

theorem sound_start (types : Types) : Sound types SystemFrames.start := by
  refine ⟨kept_start, ?_, ?_⟩
  · intro p member
    cases member
  · intro life component found
    simp [SystemFrames.start, EntitySystem.start] at found

theorem requested_of_doomed {s : EntitySystem} (formed : Formed none s) {life : Nat}
    {component : Component} (found : s.components[life]? = some component)
    (free : component.owner = none) (goes : Doomed s life) : ∃ at', (life, at') ∈ s.requested := by
  obtain ⟨root, at', depth, member, below⟩ := formed.justified life goes
  cases below with
  | self => exact ⟨at', member⟩
  | down owned _ =>
      obtain ⟨other, there, own⟩ := known_of_owner owned
      rw [found] at there
      cases there
      rw [free] at own
      cases own

theorem player_lives {types : Types} {s : Space} (sound : Sound types s) {p : Nat}
    (member : p ∈ s.players) : Live s.entities p := by
  obtain ⟨unasked, player, found, _, free, _⟩ := sound.players p member
  refine ⟨player, found, ?_⟩
  intro zero
  obtain ⟨at', asked⟩ := requested_of_doomed sound.kept.formed found free ⟨player, found, Or.inl zero⟩
  exact unasked at' asked

theorem sound_joined {types : Types} {s : Space} {t : EntitySystem} {owner : Option Nat}
    {typeHash sn : Nat} (sound : Sound types s) (kept : Kept t)
    (joined : Joined s.entities t owner typeHash sn)
    (moving : typeHash = types.move → ∃ p ∈ s.players, owner = some p) :
    Sound types { s with entities := t } := by
  have later : ∀ (p : Nat) (player : Component), s.entities.components[p]? = some player →
      ∃ now, t.components[p]? = some now ∧ now.sn = player.sn ∧
        now.typeHash = player.typeHash ∧ now.owner = player.owner ∧
        (types.lastMap ∈ player.components → types.lastMap ∈ now.components) := by
    intro p player found
    obtain ⟨_, now, there, same, type, owner', slots⟩ := joined.newer p player found
    refine ⟨now, there, same, type, owner', ?_⟩
    intro member
    obtain ⟨map, held⟩ := Option.isSome_iff_exists.mp (ExtTreeMap.mem_iff_isSome_getElem?.mp member)
    exact mem_of_get (slots types.lastMap map held)
  refine ⟨kept, ?_, ?_⟩
  · intro p member
    obtain ⟨unasked, player, found, type, free, map⟩ := sound.players p member
    obtain ⟨now, there, _, type', owner', still⟩ := later p player found
    refine ⟨?_, now, there, type'.trans type, owner'.trans free, still map⟩
    rw [joined.requested]
    exact unasked
  · intro life component found type
    have result : ∃ (p : Nat) (player : Component), component.owner = some p ∧
        s.entities.components[p]? = some player ∧
          player.typeHash = types.player ∧ player.owner = none ∧
          (player.sn ≠ 0 → types.lastMap ∈ player.components ∧
            (p ∈ s.players ∨ ∃ at', (p, at') ∈ s.entities.requested)) := by
      by_cases this : life = sn
      · dsimp only at found
        rw [this, joined.fresh] at found
        cases found
        obtain ⟨p, member, own⟩ := moving type
        obtain ⟨_, player, there, kind, free, map⟩ := sound.players p member
        exact ⟨p, player, own, there, kind, free, fun _ => ⟨map, Or.inl member⟩⟩
      · obtain ⟨older, there, _, type', owner', _⟩ := joined.older life component found this
        obtain ⟨p, player, own, rest⟩ := sound.moves life older there (type'.symm.trans type)
        exact ⟨p, player, owner'.trans own, rest⟩
    obtain ⟨p, player, own, there, kind, free, rest⟩ := result
    obtain ⟨now, here, same, type', owner', still⟩ := later p player there
    refine ⟨p, now, own, here, type'.trans kind, owner'.trans free, ?_⟩
    intro nonzero
    obtain ⟨map, reason⟩ := rest (same ▸ nonzero)
    refine ⟨still map, ?_⟩
    dsimp only
    rw [joined.requested]
    exact reason

theorem sound_requested {types : Types} {s : Space} {t : EntitySystem} {players : List Nat}
    {life : Nat} (sound : Sound types s) (kept : Kept t)
    (same : t.components = s.entities.components)
    (requested : t.requested = s.entities.requested ++ [(life, s.entities.updates)])
    (fewer : ∀ p ∈ players, p ∈ s.players ∧ p ≠ life)
    (others : ∀ p ∈ s.players, p ≠ life → p ∈ players) :
    Sound types { s with entities := t, players := players } := by
  refine ⟨kept, ?_, ?_⟩
  · intro p member
    obtain ⟨before, other⟩ := fewer p member
    obtain ⟨unasked, player, found, rest⟩ := sound.players p before
    refine ⟨?_, player, ?_, rest⟩
    · intro at' asked
      dsimp only at asked
      rw [requested] at asked
      rcases List.mem_append.mp asked with older | last
      · exact unasked at' older
      · cases List.mem_singleton.mp last
        exact other rfl
    · dsimp only
      rw [same, found]
  · intro child component found type
    dsimp only at found ⊢
    rw [same] at found ⊢
    obtain ⟨p, player, own, there, kind, free, rest⟩ := sound.moves child component found type
    refine ⟨p, player, own, there, kind, free, ?_⟩
    intro nonzero
    obtain ⟨map, reason⟩ := rest nonzero
    refine ⟨map, ?_⟩
    rw [requested]
    rcases reason with member | ⟨at', asked⟩
    · by_cases this : p = life
      · rw [this]
        exact Or.inr ⟨s.entities.updates, List.mem_append_right _ List.mem_cons_self⟩
      · exact Or.inl (others p member this)
    · exact Or.inr ⟨at', List.mem_append_left _ asked⟩

theorem sound_spared {types : Types} {s : Space} {t : EntitySystem} {list : List Nat}
    {disposes : Nat → List Nat} (sound : Sound types s) (kept : Kept t)
    (spares : Spares list disposes s.entities t)
    (same : ∀ life, kin t life = kin s.entities life) (more : s.entities.requested ⊆ t.requested)
    (others : ∀ life, ∀ p ∈ disposes life, p ∉ s.players) :
    Sound types { s with entities := t } := by
  have unasked : ∀ p ∈ s.players, ∀ at', (p, at') ∉ t.requested := by
    intro p member at' asked
    rcases spares.requested p at' asked with older | ⟨life, disposed⟩
    · exact (sound.players p member).1 at' older
    · exact others life p disposed member
  refine ⟨kept, ?_, ?_⟩
  · intro p member
    obtain ⟨_, player, found, type, free, map⟩ := sound.players p member
    obtain ⟨now, there, type', owner'⟩ := kin_some same found
    refine ⟨unasked p member, ?_⟩
    rcases spares.lives p with still | ⟨gone, _⟩
    · exact ⟨player, still.trans found, type, free, map⟩
    · have goes : Doomed t p := gone.imp fun _ back => ⟨back.1, Or.inl back.2⟩
      obtain ⟨at', asked⟩ := requested_of_doomed kept.formed there (owner'.trans free) goes
      exact absurd asked (unasked p member at')
  · intro life component found type
    obtain ⟨before, there, type', owner'⟩ := kin_some (fun other => (same other).symm) found
    obtain ⟨p, player, own, here, kind, free, rest⟩ := sound.moves life before there
      (type'.trans type)
    obtain ⟨now, also, kind', free'⟩ := kin_some same here
    refine ⟨p, now, owner'.symm.trans own, also, kind'.trans kind, free'.trans free, ?_⟩
    intro nonzero
    rcases spares.lives p with still | ⟨⟨gone, back, zero⟩, _⟩
    · rw [still, here] at also
      cases also
      obtain ⟨map, reason⟩ := rest nonzero
      exact ⟨map, reason.imp id fun asked => asked.imp fun _ member => more member⟩
    · rw [also] at back
      cases back
      exact absurd zero nonzero

/-! ### The handlers and callbacks -/

theorem added_steady {s t : EntitySystem} {owner : Option Nat} {typeHash sn : Nat} (kept : Kept s)
    (added : entityStep s (.add owner typeHash sn) t) :
    Kept t ∧ Steady s t ∧ (Joined s t owner typeHash sn ∨ t = s) := by
  refine ⟨kept_step kept ⟨added, trivial⟩, ?_⟩
  rcases added_cases kept.formed added with joined | ⟨rfl, _⟩
  · exact ⟨steady_joined joined added.2.2.1, Or.inl joined⟩
  · exact ⟨steady_same rfl, Or.inr rfl⟩

theorem added_sound {types : Types} {s : Space} {t : EntitySystem} {owner : Option Nat}
    {typeHash sn : Nat} (sound : Sound types s)
    (added : entityStep s.entities (.add owner typeHash sn) t)
    (moving : typeHash = types.move → ∃ p ∈ s.players, owner = some p) :
    Sound types { s with entities := t } ∧ Steady s.entities t := by
  obtain ⟨kept, steady, joined | same⟩ := added_steady sound.kept added
  · exact ⟨sound_joined sound kept joined moving, steady⟩
  · rw [same]
    exact ⟨⟨sound.kept, sound.players, sound.moves⟩, steady_same rfl⟩

theorem requested_sound {types : Types} {s : Space} {t : EntitySystem} {life : Nat}
    (players : List Nat) (sound : Sound types s) (removed : entityStep s.entities (.remove life) t)
    (fewer : ∀ p ∈ players, p ∈ s.players ∧ p ≠ life)
    (others : ∀ p ∈ s.players, p ≠ life → p ∈ players) :
    Sound types { s with entities := t, players := players } ∧ Steady s.entities t := by
  have kept := kept_step sound.kept ⟨removed, trivial⟩
  have same : t = request s.entities life := removed.2
  have components : t.components = s.entities.components := by
    rw [same, requested_components]
  refine ⟨sound_requested sound kept components ?_ fewer others, steady_same components⟩
  rw [same]
  rfl

theorem types_apart (types : Types) : types.player ≠ types.move ∧ types.detail ≠ types.move ∧
    types.lastMap ≠ types.move ∧ types.player ≠ types.update ∧ types.move ≠ types.update := by
  have distinct := types.distinct
  simp only [List.nodup_cons, List.mem_cons, List.not_mem_nil, or_false, not_or] at distinct
  exact ⟨distinct.1.2.2.1, distinct.2.1.2.1, distinct.2.2.1.1, distinct.1.2.2.2,
    distinct.2.2.2.1⟩

theorem synced_sound {types : Types} {s : Space} {added detailed t : EntitySystem}
    {player detail lastMap : Nat} (sound : Sound types s)
    (first : entityStep s.entities (.add none types.player player) added)
    (second : entityStep added (.add (some player) types.detail detail) detailed)
    (third : entityStep detailed (.add (some player) types.lastMap lastMap) t) :
    Sound types { s with entities := t, players := player :: s.players } ∧ Steady s.entities t := by
  obtain ⟨noPlayer, noDetail, noMap, _⟩ := types_apart types
  obtain ⟨soundOne, steadyOne⟩ := added_sound sound first fun same => absurd same noPlayer
  obtain ⟨soundTwo, steadyTwo⟩ := added_sound soundOne second fun same => absurd same noDetail
  obtain ⟨soundThree, steadyThree⟩ := added_sound soundTwo third fun same => absurd same noMap
  have steady := steady_trans steadyOne (steady_trans steadyTwo steadyThree)
  refine ⟨⟨soundThree.kept, ?_, ?_⟩, steady⟩
  · intro p member
    rcases List.mem_cons.mp member with rfl | older
    · have born : added.components[p]? = some ⟨p, types.player, none, ∅⟩ := by
        rcases added_cases sound.kept.formed first with joined | ⟨_, _, _, impossible, _⟩
        · exact joined.fresh
        · cases impossible
      obtain ⟨_, there, _, type, owner⟩ := steadyTwo.stays p _ born
      obtain ⟨now, here, _, type', owner'⟩ := steadyThree.stays p _ there
      have free : now.owner = none := owner'.trans owner
      refine ⟨?_, now, here, type'.trans type, free, ?_⟩
      · -- the number is fresh, so nobody has asked for it
        intro at' asked
        have unknown : ∀ {s t : EntitySystem} {owner : Option Nat} {typeHash sn : Nat}, Kept s →
            entityStep s (.add owner typeHash sn) t → t.requested = s.requested := by
          intro s t owner typeHash sn kept step
          rcases added_cases kept.formed step with joined | ⟨same, _⟩
          · exact joined.requested
          · rw [same]
        dsimp only at asked
        rw [unknown soundTwo.kept third, unknown soundOne.kept second, unknown sound.kept first]
          at asked
        obtain ⟨component, found, _⟩ := (sound.kept.formed.asked p at' asked).2
        exact first.2.1 (mem_of_get found)
      · rcases added_cases soundTwo.kept.formed third with joined | ⟨same, _, _, own, found, taken⟩
        · obtain ⟨entity, found, _, slot⟩ := joined.slot p rfl
          rw [found] at here
          cases here
          exact mem_of_get slot
        · cases own
          dsimp only at here found
          rw [same, found] at here
          cases here
          exact taken
    · exact soundThree.players p older
  · intro life component found type
    obtain ⟨p, entity, own, there, kind, free, rest⟩ := soundThree.moves life component found type
    refine ⟨p, entity, own, there, kind, free, ?_⟩
    intro nonzero
    obtain ⟨map, reason⟩ := rest nonzero
    exact ⟨map, reason.imp (List.mem_cons_of_mem _) id⟩

theorem acted_sound {types : Types} {before after : Space} {action : Action}
    (sound : Sound types before) (acted : Acted types before action after) :
    Sound types after ∧ Steady before.entities after.entities ∧ after.calls = before.calls := by
  cases action with
  | add owner typeHash sn =>
      obtain ⟨other, entities, step, rfl⟩ := acted
      obtain ⟨kept, steady⟩ := added_sound sound step fun same => absurd same other
      exact ⟨kept, steady, rfl⟩
  | remove life =>
      obtain ⟨outside, entities, step, rfl⟩ := acted
      obtain ⟨kept, steady⟩ := requested_sound before.players sound step
        (fun p member => ⟨member, fun same => outside (same ▸ member)⟩) (fun _ member _ => member)
      exact ⟨kept, steady, rfl⟩
  | syncPlayer player detail lastMap =>
      obtain ⟨added, detailed, entities, first, second, third, rfl⟩ := acted
      obtain ⟨kept, steady⟩ := synced_sound sound first second third
      exact ⟨kept, steady, rfl⟩
  | removePlayer player =>
      obtain ⟨member, entities, step, rfl⟩ := acted
      obtain ⟨kept, steady⟩ := requested_sound
        (before.players.filter fun other => other ≠ player) sound step
        (by
          intro p inside
          obtain ⟨there, differs⟩ := List.mem_filter.mp inside
          exact ⟨there, of_decide_eq_true differs⟩)
        (fun p there differs => List.mem_filter.mpr ⟨there, decide_eq_true differs⟩)
      exact ⟨kept, steady, rfl⟩
  | move player component =>
      obtain ⟨member, entities, step, rfl⟩ := acted
      obtain ⟨kept, steady⟩ := added_sound sound step fun _ => ⟨player, member, rfl⟩
      exact ⟨kept, steady, rfl⟩

theorem acts_sound {types : Types} (actions : List Action) {before after : Space}
    (sound : Sound types before) (acts : Acts types actions before after) :
    Sound types after ∧ Steady before.entities after.entities ∧ after.calls = before.calls := by
  induction actions generalizing before with
  | nil =>
      rw [Acts] at acts
      rw [acts]
      exact ⟨sound, steady_same rfl, rfl⟩
  | cons action rest ih =>
      obtain ⟨between, acted, later⟩ := acts
      obtain ⟨middle, steady, calls⟩ := acted_sound sound acted
      obtain ⟨last, steady', calls'⟩ := ih middle later
      exact ⟨last, steady_trans steady steady', calls'.trans calls⟩

def AliveOf (typeHash : Nat) (lives : List Nat) (s : EntitySystem) : Prop :=
  ∀ life ∈ lives, ∃ component, s.components[life]? = some component ∧
    component.typeHash = typeHash ∧ component.sn = life

theorem objs_alive {s : EntitySystem} (formed : Formed none s) (typeHash : Nat) :
    AliveOf typeHash (objsOf s typeHash) s := by
  intro life member
  rw [objsOf] at member
  cases held : s.objSystems[typeHash]? with
  | none =>
      rw [held] at member
      cases member
  | some collections =>
      rw [held] at member
      obtain ⟨⟨sn, object⟩, listed, rfl⟩ := List.mem_map.mp member
      have inside := ExtTreeMap.mem_toList_iff_getElem?_eq_some.mp listed
      have there : heldIn s typeHash sn = some object := by
        rw [heldIn, held, Option.bind_some, ComponentCollections.held, inside]
        rfl
      obtain ⟨rfl, component, found, type, live⟩ := (formed.held typeHash sn object).mp there
      exact ⟨component, found, type, live⟩

theorem alive_steady {typeHash : Nat} {lives : List Nat} {s t : EntitySystem}
    (alive : AliveOf typeHash lives s) (steady : Steady s t) : AliveOf typeHash lives t := by
  intro life member
  obtain ⟨component, found, type, live⟩ := alive life member
  obtain ⟨now, there, sn, type', _⟩ := steady.stays life component found
  exact ⟨now, there, type'.trans type, sn.trans live⟩

/-- A call on a live component whose owners are live finds the parent live. -/
theorem parent_not_returned {s : Space} {typeHash life : Nat} {component : Component}
    (formed : Formed none s.entities) (lives : OwnersLive typeHash s.entities)
    (found : s.entities.components[life]? = some component) (type : component.typeHash = typeHash)
    (live : component.sn = life) :
    ((ownerOf s.entities life).any fun entitySn =>
      decide (entitySn ∈ s.entities.returned)) = false := by
  have owner : ownerOf s.entities life = component.owner := by
    rw [ownerOf, found]
    rfl
  rw [owner]
  cases own : component.owner with
  | none => rfl
  | some parent =>
      have staying := lives life parent component found type live own
      rw [← formed.returned] at staying
      exact decide_eq_false staying

theorem updated_each_sound {types : Types} {callbacks : Nat → List Action} (lives : List Nat)
    {s t : Space} (sound : Sound types s) (owners : OwnersLive types.update s.entities)
    (alive : AliveOf types.update lives s.entities)
    (done : UpdatedEach types callbacks lives s t) :
    Sound types t ∧ Steady s.entities t.entities ∧ ∀ call ∈ t.calls, call ∈ s.calls ∨
      call.caller = .updateSystem ∧ call.parentReturned = false := by
  induction lives generalizing s with
  | nil =>
      rw [UpdatedEach] at done
      rw [done]
      exact ⟨sound, steady_same rfl, fun _ member => Or.inl member⟩
  | cons life rest ih =>
      obtain ⟨between, acts, later⟩ := done
      have begun : Sound types (call types .updateSystem s life) :=
        ⟨sound.kept, sound.players, sound.moves⟩
      obtain ⟨middle, steady, calls⟩ := acts_sound (callbacks life) begun acts
      have steady' : Steady s.entities between.entities := steady
      obtain ⟨last, further, made⟩ := ih middle
        (owners_live_steady sound.kept.rooted owners steady')
        (alive_steady (fun other member => alive other (List.mem_cons_of_mem _ member)) steady')
        later
      refine ⟨last, steady_trans steady' further, ?_⟩
      intro this member
      rcases made this member with older | new
      · rw [calls] at older
        rcases List.mem_append.mp older with before | own
        · exact Or.inl before
        · obtain ⟨component, found, type, live⟩ := alive life List.mem_cons_self
          rw [List.mem_singleton.mp own]
          exact Or.inr ⟨rfl, parent_not_returned sound.kept.formed owners found type live⟩
      · exact Or.inr new

theorem removed_type_sound {types : Types} {s : Space} {p : Nat} {player : Component}
    (sound : Sound types s) (found : s.entities.components[p]? = some player) :
    Sound types { s with entities := removeType s.entities p types.move } ∧
      Steady s.entities (removeType s.entities p types.move) := by
  have formed := sound.kept.formed
  rw [removeType]
  cases slot : getComponent s.entities p types.move with
  | none => exact ⟨⟨sound.kept, sound.players, sound.moves⟩, steady_same rfl⟩
  | some life =>
      dsimp only
      rw [getComponent, found, Option.bind_some] at slot
      obtain ⟨component, there, own, type, live⟩ := formed.slots p player types.move life found slot
      have current : ∀ held, player.components[component.typeHash]? = some held → held = life := by
        intro held here
        rw [type, slot] at here
        exact (Option.some.inj here).symm
      obtain ⟨next, keeps⟩ := removed_through formed there live own found current
      have same := remove_from_slot formed there own found
      have now : ∀ other : Nat, (removeFrom s.entities life).components[other]? =
          if other = p then some { player with components := player.components.erase types.move }
          else s.entities.components[other]? := by
        intro other
        rw [same, type, setComponent, get_insert, requested_components]
      have requested : (removeFrom s.entities life).requested =
          s.entities.requested ++ [(life, s.entities.updates)] := by
        rw [same]
        rfl
      have mapped : types.lastMap ∈ player.components →
          types.lastMap ∈ player.components.erase types.move := by
        intro member
        obtain ⟨map, held⟩ := Option.isSome_iff_exists.mp (ExtTreeMap.mem_iff_isSome_getElem?.mp member)
        have still : (player.components.erase types.move)[types.lastMap]? = some map := by
          rw [get_erase, if_neg (types_apart types).2.2.1]
          exact held
        exact mem_of_get still
      have later : ∀ (other : Nat) (before : Component), s.entities.components[other]? = some before →
          ∃ after, (removeFrom s.entities life).components[other]? = some after ∧
            after.sn = before.sn ∧ after.typeHash = before.typeHash ∧ after.owner = before.owner ∧
            (types.lastMap ∈ before.components → types.lastMap ∈ after.components) := by
        intro other before held
        rw [now]
        by_cases this : other = p
        · rw [this, found] at held
          cases held
          rw [if_pos this]
          exact ⟨_, rfl, rfl, rfl, rfl, mapped⟩
        · rw [if_neg this]
          exact ⟨before, held, rfl, rfl, rfl, id⟩
      have older : ∀ (other : Nat) (after : Component),
          (removeFrom s.entities life).components[other]? = some after →
            ∃ before, s.entities.components[other]? = some before ∧
              after.typeHash = before.typeHash ∧ after.owner = before.owner := by
        intro other after held
        rw [now] at held
        split at held
        · rename_i this
          cases held
          exact ⟨player, this ▸ found, rfl, rfl⟩
        · exact ⟨after, held, rfl, rfl⟩
      refine ⟨⟨kept_of_keeps sound.kept next keeps, ?_, ?_⟩, ⟨?_, ?_⟩⟩
      · intro q member
        obtain ⟨unasked, entity, held, kind, free, map⟩ := sound.players q member
        obtain ⟨after, here, _, kind', free', still⟩ := later q entity held
        refine ⟨?_, after, here, kind'.trans kind, free'.trans free, still map⟩
        intro at' asked
        dsimp only at asked
        rw [requested] at asked
        rcases List.mem_append.mp asked with before | last
        · exact unasked at' before
        · cases List.mem_singleton.mp last
          rw [there] at held
          cases held
          exact (types_apart types).1 (kind.symm.trans type)
      · intro other after held kind
        obtain ⟨before, here, kind', owner'⟩ := older other after held
        obtain ⟨q, entity, own', above, kind'', free, rest⟩ :=
          sound.moves other before here (kind'.symm.trans kind)
        obtain ⟨late, also, sn', kind3, free', still⟩ := later q entity above
        refine ⟨q, late, owner'.trans own', also, kind3.trans kind'', free'.trans free, ?_⟩
        intro nonzero
        obtain ⟨map, reason⟩ := rest (sn' ▸ nonzero)
        refine ⟨still map, reason.imp id ?_⟩
        rintro ⟨at', asked⟩
        refine ⟨at', ?_⟩
        dsimp only
        rw [requested]
        exact List.mem_append_left _ asked
      · intro other before held
        obtain ⟨after, here, sn', kind', owner', _⟩ := later other before held
        exact ⟨after, here, sn', kind', owner'⟩
      · intro other after held absent
        obtain ⟨before, here, _⟩ := older other after held
        exact absurd (mem_of_get here) absent

theorem move_turn_sound {types : Types} {s : Space} {life : Nat} (stops : Nat → Bool)
    (sound : Sound types s) (alive : AliveOf types.move [life] s.entities) :
    Sound types (moveTurn types stops s life) ∧
      Steady s.entities (moveTurn types stops s life).entities ∧
      ∀ call ∈ (moveTurn types stops s life).calls, call ∈ s.calls ∨
        call.caller = .moveSystem ∧ (OwnersLive types.move s.entities →
          call.parentReturned = false ∧ call.lastMap ≠ none) := by
  obtain ⟨component, found, type, live⟩ := alive life List.mem_cons_self
  obtain ⟨p, player, own, there, kind, free, rest⟩ := sound.moves life component found type
  have owner : ownerOf s.entities life = some p := by
    rw [ownerOf, found]
    exact own
  have called : Sound types (call types .moveSystem s life) :=
    ⟨sound.kept, sound.players, sound.moves⟩
  have made : ∀ this ∈ (call types .moveSystem s life).calls, this ∈ s.calls ∨
      this.caller = .moveSystem ∧ (OwnersLive types.move s.entities →
        this.parentReturned = false ∧ this.lastMap ≠ none) := by
    intro this member
    rcases List.mem_append.mp member with before | last
    · exact Or.inl before
    · rw [List.mem_singleton.mp last]
      refine Or.inr ⟨rfl, ?_⟩
      intro owners
      refine ⟨parent_not_returned sound.kept.formed owners found type live, ?_⟩
      have nonzero : player.sn ≠ 0 := fun zero =>
        owners life p component found type live own ⟨player, there, zero⟩
      have map := (rest nonzero).1
      dsimp only
      rw [owner, Option.bind_some, getComponent, there, Option.bind_some]
      exact fun absent => get_none_iff.mp absent map
  rw [moveTurn, owner]
  dsimp only
  split
  · obtain ⟨next, steady⟩ := removed_type_sound called there
    exact ⟨next, steady, made⟩
  · exact ⟨called, steady_same rfl, made⟩

theorem move_each_sound {types : Types} (stops : Nat → Bool) (lives : List Nat) {s : Space}
    (sound : Sound types s) (alive : AliveOf types.move lives s.entities) :
    Sound types (moveEach types stops lives s) ∧
      ∀ call ∈ (moveEach types stops lives s).calls, call ∈ s.calls ∨
        call.caller = .moveSystem ∧ (OwnersLive types.move s.entities →
          call.parentReturned = false ∧ call.lastMap ≠ none) := by
  induction lives generalizing s with
  | nil => exact ⟨sound, fun _ member => Or.inl member⟩
  | cons life rest ih =>
      obtain ⟨middle, steady, made⟩ := move_turn_sound stops sound
        (fun other member => alive other (List.mem_cons.mpr (Or.inl (List.mem_singleton.mp member))))
      obtain ⟨last, further⟩ := ih middle
        (alive_steady (fun other member => alive other (List.mem_cons_of_mem _ member)) steady)
      refine ⟨last, ?_⟩
      intro this member
      rcases further this member with older | ⟨caller, finds⟩
      · exact made this older
      · exact Or.inr ⟨caller, fun owners =>
          finds (owners_live_steady sound.kept.rooted owners steady)⟩

/-! ### Frames -/

/-- With the players of the worlds it is the same whether the type of the owner is
named. -/
theorem owners_live_of_players {types : Types} {s : Space} (sound : Sound types s)
    (lives : OwnerLives types.player types.move s.entities) :
    OwnersLive types.move s.entities := by
  intro life parent component found type live own
  obtain ⟨p, player, own', there, kind, _⟩ := sound.moves life component found type
  rw [own] at own'
  cases own'
  exact lives life parent component player found type live own there kind

/-- Under the condition nobody is left behind by the turn of the entities. -/
theorem settled_owners {types : Types} {before : Space} {frame : Frame} {updated : EntitySystem}
    (sound : Sound types before) (settled : Settled types before frame) (due : frame.due = true)
    (done : Updated frame.disposes before.entities updated)
    (next : Sound types { before with entities := updated }) :
    OwnersLive types.move updated := by
  have formed := sound.kept.formed
  obtain ⟨last, keeps, backs⟩ := updated_spec formed done
  rcases settled with ordered | idle | still
  · exact owners_live_of_players next (updated_owner formed done ordered)
  · rw [due] at idle
    cases idle
  · intro life parent now found type live own back
    have waits : ¬ Doomed before.entities life := by
      intro goes
      obtain ⟨other, here, zero⟩ := backs life goes
      rw [found] at here
      cases here
      exact (last.named life now found).1 (live.symm.trans zero)
    obtain ⟨component, there, type', owner'⟩ :=
      kin_some (fun other => (keeps.kin other).symm) found
    have alive : component.sn = life := by
      apply (formed.named life component there).2.1.resolve_right
      exact fun zero => waits ⟨component, there, Or.inl zero⟩
    have kind : component.typeHash = types.move := type'.trans type
    obtain ⟨p, player, own', above, kind', free, rest⟩ := sound.moves life component there kind
    have same : p = parent := Option.some.inj (own'.symm.trans (owner'.trans own))
    subst same
    rcases formed.owned life component p there alive own' with ⟨entity, here, lives, slot⟩ | listed
    · rw [above] at here
      cases here
      have nonzero : player.sn ≠ 0 := lives ▸ (formed.named p player above).1
      rcases (rest nonzero).2 with member | ⟨at', asked⟩
      · exact not_back_of_live (player_lives next member) back
      · -- the player is on the list of its type, and has a component that moves it
        obtain ⟨other, here, zero | listed⟩ := (formed.asked p at' asked).2
        · rw [above] at here
          cases here
          exact nonzero zero
        · rw [above] at here
          cases here
          obtain ⟨collections, held, _⟩ := collections_of_live formed above lives
          rw [kind'] at held listed
          rw [removals_of held] at listed
          have none := still collections held p listed
          rw [getComponent, above, Option.bind_some, ← kind, slot] at none
          cases none
    · exact waits ⟨component, there, Or.inr listed⟩

theorem updated_sound {types : Types} {before : Space} {disposes : Nat → List Nat} {updated : EntitySystem}
    (sound : Sound types before) (others : ∀ life, ∀ p ∈ disposes life, p ∉ before.players)
    (done : Updated disposes before.entities updated) :
    Sound types { before with entities := updated } := by
  obtain ⟨_, keeps, _⟩ := updated_spec sound.kept.formed done
  have spares := swapped_each_spares (EntitySystem.types before.entities) (formed_begun sound.kept.formed) done
  have begun : Spares (EntitySystem.types before.entities) disposes before.entities updated :=
    ⟨spares.lives, spares.requested⟩
  exact sound_spared sound (kept_updated sound.kept done) begun keeps.kin keeps.requested others

theorem swapped_sound {types : Types} {acted : Space} {typeHash : Nat} {swapped : EntitySystem}
    (sound : Sound types acted) (swap : Swapped (fun _ => []) typeHash acted.entities swapped) :
    Sound types { acted with entities := swapped } := by
  obtain ⟨formed, kept, _⟩ := swapped_spec sound.kept.formed swap
  apply sound_spared sound (kept_of_keeps sound.kept formed kept)
    (swapped_spares sound.kept.formed swap) kept.kin kept.requested
  intro life p impossible
  cases impossible

/-- A frame keeps the players sound, and its calls find live parents: those of
`UpdateSystem` always, those of `MoveSystem` under the condition. -/
theorem frame_sound {types : Types} {before after : Space} {frame : Frame}
    (sound : Sound types before) (step : frameStep types before frame after) :
    Sound types after ∧ ∀ call ∈ after.calls, call ∈ before.calls ∨
      call.caller = .updateSystem ∧ call.parentReturned = false ∨
      call.caller = .moveSystem ∧ (Settled types before frame →
        call.parentReturned = false ∧ call.lastMap ≠ none) := by
  obtain ⟨others, updated, acted, swapped, called, done, acts, swap, each, rfl⟩ := step
  -- the entities
  have one : Sound types { before with entities := updated } := updated_sound sound others done
  -- the messages
  obtain ⟨two, steady, calls⟩ := acts_sound frame.messages one acts
  -- the collection of `UpdateSystem`
  obtain ⟨formed, kept, empty⟩ := swapped_spec two.kept.formed swap
  have spared := swapped_spares two.kept.formed swap
  have three : Sound types { acted with entities := swapped } := swapped_sound two swap
  obtain ⟨four, steady', made⟩ := updated_each_sound (objsOf swapped types.update) three
    (owners_live_of_empty formed empty) (objs_alive formed types.update) each
  have earlier : ∀ call ∈ called.calls, call ∈ before.calls ∨
      call.caller = .updateSystem ∧ call.parentReturned = false := by
    intro call member
    rcases made call member with older | new
    · dsimp only at older
      rw [calls] at older
      exact Or.inl older
    · exact Or.inr new
  cases due : frame.due with
  | false => exact ⟨four, fun call member => (earlier call member).imp id Or.inl⟩
  | true =>
      obtain ⟨five, finds⟩ := move_each_sound frame.stops
        (objsOf called.entities types.move) four (objs_alive four.kept.formed types.move)
      refine ⟨five, ?_⟩
      intro call member
      rcases finds call member with older | ⟨caller, found⟩
      · exact (earlier call older).imp id Or.inl
      · refine Or.inr (Or.inr ⟨caller, ?_⟩)
        intro settled
        apply found
        have first := settled_owners sound settled due done one
        have second : OwnersLive types.move acted.entities :=
          owners_live_steady one.kept.rooted first steady
        have third : OwnersLive types.move swapped := by
          apply owners_live_of_players three
          apply owner_lives_spared formed _ kept spared
          · intro inside
            exact (types_apart types).2.2.2.1 (List.mem_singleton.mp inside)
          · intro life parent component _ there type live own _ _
            exact second life parent component there type live own
        exact owners_live_steady three.kept.rooted third steady'

/-- `UpdateSystem` swaps its collection before it walks it, so that it finds live
parents in every order of the hash codes. -/
theorem update_parents_live (types : Types) (trace : List Frame) (s : Space)
    (run : Run (frameStep types) SystemFrames.start trace s) : UpdateParentsLive s := by
  have kept : Sound types s ∧ UpdateParentsLive s := by
    apply run_invariant (fun s => Sound types s ∧ UpdateParentsLive s) _ run
    · exact ⟨sound_start types, fun call member => nomatch member⟩
    · rintro before frame after ⟨sound, lives⟩ step
      obtain ⟨next, made⟩ := frame_sound sound step
      refine ⟨next, ?_⟩
      intro call member caller
      rcases made call member with older | ⟨_, staying⟩ | ⟨other, _⟩
      · exact lives call older caller
      · exact staying
      · rw [caller] at other
        cases other
  exact kept.2

theorem parents_live (types : Types) (trace : List Frame) (s : Space)
    (run : Run (Guarded (frameStep types) (Settled types)) SystemFrames.start trace s) :
    ParentsLive s := by
  have kept : Sound types s ∧ ParentsLive s := by
    apply run_invariant (fun s => Sound types s ∧ ParentsLive s) _ run
    · exact ⟨sound_start types, fun call member => nomatch member⟩
    · rintro before frame after ⟨sound, lives⟩ ⟨step, settled⟩
      obtain ⟨next, made⟩ := frame_sound sound step
      refine ⟨next, ?_⟩
      intro call member
      rcases made call member with older | ⟨caller, staying⟩ | ⟨_, finds⟩
      · exact lives call older
      · refine ⟨staying, ?_⟩
        intro other
        rw [caller] at other
        cases other
      · exact (finds settled).imp id fun map _ => map
  exact kept.2

def frameOf (messages : List Action) (due : Bool) : Frame :=
  ⟨fun _ => [], messages, fun _ => [], due, fun _ => false⟩

theorem updated_each_idle (types : Types) (lives : List Nat) (s : Space) :
    UpdatedEach types (fun _ => []) lives s (lives.foldl (call types .updateSystem) s) := by
  induction lives generalizing s with
  | nil => rfl
  | cons life rest ih => exact ⟨_, rfl, ih _⟩

theorem frame_of_done {types : Types} {before acted : Space} {updated swapped : EntitySystem}
    (messages : List Action) (due : Bool) (fuel : Nat)
    (done : update fuel (fun _ => []) before.entities = some updated)
    (acts : Acts types messages { before with entities := updated } acted)
    (swap : loop (swapTurn (fun _ => []) types.update) fuel
      (modifyCollections acted.entities types.update moveAdds) = some swapped) :
    let called := (objsOf swapped types.update).foldl (call types .updateSystem)
      { acted with entities := swapped }
    frameStep types before (frameOf messages due)
      (if due then moveEach types (fun _ => false) (objsOf called.entities types.move) called
        else called) := by
  intro called
  refine ⟨(fun _ _ impossible => nomatch impossible), updated, acted, swapped, called,
    update_done fuel done, acts, ⟨fuel, swap⟩, ?_, rfl⟩
  exact updated_each_idle types _ _

def playersFirst : Types := ⟨10, 11, 12, 13, 14, by decide⟩
def moveFirst : Types := ⟨14, 11, 12, 10, 13, by decide⟩

/-- A player moves and is removed; its component is back with it in the frame
after. -/
theorem parents_live_removed :
    ∃ trace s, Run (Guarded (frameStep playersFirst) (Settled playersFirst)) SystemFrames.start
      trace s ∧ ParentsLive s ∧ s.calls = [⟨.moveSystem, 4, false, some 3⟩] := by
  have run : ∃ s, Run (Guarded (frameStep playersFirst) (Settled playersFirst)) SystemFrames.start
      [frameOf [.syncPlayer 1 2 3, .move 1 4] false, frameOf [.removePlayer 1] true,
        frameOf [] true] s ∧ s.calls = [⟨.moveSystem, 4, false, some 3⟩] := by
    refine ⟨_, .next ⟨frame_of_done _ _ 9 (Option.some_get (by decide)).symm
        ⟨_, ⟨_, _, _, ⟨by decide, by decide, ?_, rfl⟩, ⟨by decide, by decide, ?_, rfl⟩,
          ⟨by decide, by decide, ?_, rfl⟩, rfl⟩,
          _, ⟨by decide, _, ⟨by decide, by decide, ?_, rfl⟩, rfl⟩, rfl⟩
        (Option.some_get (by decide)).symm, Or.inl (by decide)⟩ <|
      .next ⟨frame_of_done _ _ 9 (Option.some_get (by decide)).symm
        ⟨_, ⟨by decide, _, ⟨by decide, rfl⟩, rfl⟩, rfl⟩
        (Option.some_get (by decide)).symm, Or.inl (by decide)⟩ <|
      .next ⟨frame_of_done _ _ 9 (Option.some_get (by decide)).symm rfl
        (Option.some_get (by decide)).symm, Or.inl (by decide)⟩ <| .refl _, ?_⟩
    · exact fun _ impossible => nomatch impossible
    · rintro entitySn ⟨⟩
      exact ⟨_, rfl, by decide⟩
    · rintro entitySn ⟨⟩
      exact ⟨_, rfl, by decide⟩
    · rintro entitySn ⟨⟩
      exact ⟨_, rfl, by decide⟩
    · decide
  obtain ⟨s, taken, calls⟩ := run
  exact ⟨_, s, taken, parents_live playersFirst _ s taken, calls⟩

/-- Where the collection of `MoveComponent` comes before that of `Player`, the
component of a removed player is only put on its list when the player goes back,
and `MoveSystem` calls it once more: its parent has no map any more. -/
theorem returned_parent_moved :
    ∃ trace s, Run (frameStep moveFirst) SystemFrames.start trace s ∧
      ⟨.moveSystem, 4, true, none⟩ ∈ s.calls ∧ ¬ ParentsLive s := by
  have run : ∃ s, Run (frameStep moveFirst) SystemFrames.start
      [frameOf [.syncPlayer 1 2 3, .move 1 4] false, frameOf [.removePlayer 1] false,
        frameOf [] true] s ∧ ⟨.moveSystem, 4, true, none⟩ ∈ s.calls := by
    refine ⟨_, .next (frame_of_done _ _ 9 (Option.some_get (by decide)).symm
        ⟨_, ⟨_, _, _, ⟨by decide, by decide, ?_, rfl⟩, ⟨by decide, by decide, ?_, rfl⟩,
          ⟨by decide, by decide, ?_, rfl⟩, rfl⟩,
          _, ⟨by decide, _, ⟨by decide, by decide, ?_, rfl⟩, rfl⟩, rfl⟩
        (Option.some_get (by decide)).symm) <|
      .next (frame_of_done _ _ 9 (Option.some_get (by decide)).symm
        ⟨_, ⟨by decide, _, ⟨by decide, rfl⟩, rfl⟩, rfl⟩
        (Option.some_get (by decide)).symm) <|
      .next (frame_of_done _ _ 9 (Option.some_get (by decide)).symm rfl
        (Option.some_get (by decide)).symm) <| .refl _, ?_⟩
    · exact fun _ impossible => nomatch impossible
    · rintro entitySn ⟨⟩
      exact ⟨_, rfl, by decide⟩
    · rintro entitySn ⟨⟩
      exact ⟨_, rfl, by decide⟩
    · rintro entitySn ⟨⟩
      exact ⟨_, rfl, by decide⟩
    · decide
  obtain ⟨s, taken, called⟩ := run
  refine ⟨_, s, taken, called, ?_⟩
  intro lives
  cases (lives _ called).1

end GameBook.ParentCalls
