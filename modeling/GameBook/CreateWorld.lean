import Mathlib.Data.List.Nodup
import GameBook.LabelledRun
import GameBook.PacketPool
import GameBook.SyncComponent
import GameBook.WhileLoop
import GameBook.WorldProxy

/-!
`CreateWorldComponent` of appmgr: public worlds being created, created public
worlds and dungeons. A process that disconnects loses its created worlds, and
the creations it still owed are asked of another process. The ledger next to
the component keeps what no map of it records: which creations are unanswered
at which process, and which process has answered for a world.
-/

namespace GameBook.CreateWorld

open OrderedMap SocketObject AppKey WhileLoop LabelledRun SyncComponent
open PacketPool (Global generateSN)

abbrev WorldType := WorldProxy.WorldType

/-- The messages of the component: a creation asked of a space process, the
answers to a game process. -/
inductive Sent where
  | createWorld (worldId : Int) (appId : Int)
  | broadcastCreateWorld (worldId : Int) (worldSn lastWorldSn : UInt64) (receiver : SocketKey)
  | queryWorldFailed (worldSn : UInt64) (receiver : SocketKey)

structure Manager where
  apps : Apps
  creating : Table Int Int
  created : Table Int UInt64
  dungeons : Table UInt64 Int
  sent : List Sent

def initial : Manager := ⟨∅, ∅, ∅, ∅, []⟩

def invalidId : Int := -1

def reqCreateWorld (s : Manager) (worldId : Int) : Int × Manager :=
  match getOneApp (bits .space) s.apps with
  | none => (invalidId, s)
  | some (info, apps) =>
      (info.appId, { s with apps := apps, sent := s.sent ++ [.createWorld worldId info.appId] })

def appIdOfTag (app : TagValue) : Int := (getIdFromAppKey app.keyInt64).toNat

def appIdOfSn (worldSn : UInt64) : Int := (getAppIdFromSN worldSn).toNat

/-- The three loops of `HandleNetworkDisconnect`. The creation asked again is
not entered into `_creating`. -/
def reissueTurn (appId : Int) (s : Manager) : Manager ⊕ Manager :=
  match findIf (fun creator => creator == appId) s.creating with
  | none => .inr s
  | some (worldId, _) =>
      .inl (reqCreateWorld { s with creating := s.creating.erase worldId } worldId).2

def dropCreatedTurn (appId : Int) (s : Manager) : Manager ⊕ Manager :=
  match findIf (fun worldSn => appIdOfSn worldSn == appId) s.created with
  | none => .inr s
  | some (worldId, _) => .inl { s with created := s.created.erase worldId }

def dropDungeonTurn (appId : Int) (s : Manager) : Manager ⊕ Manager :=
  match s.dungeons.toList.find? fun entry => appIdOfSn entry.1 == appId with
  | none => .inr s
  | some (worldSn, _) => .inl { s with dungeons := s.dungeons.erase worldSn }

def handleNetworkDisconnect (fuel : Nat) (s : Manager) (identify : NetIdentify) : Option Manager :=
  if !isTcp identify.socketKey.netType then some s
  else
    let dropped := { s with apps := dropSocket s.apps identify.socketKey.socket }
    match identify.tagKey .app with
    | none => some dropped
    | some app =>
        (loop (reissueTurn (appIdOfTag app)) fuel dropped).bind fun reissued =>
          (loop (dropCreatedTurn (appIdOfTag app)) fuel reissued).bind
            (loop (dropDungeonTurn (appIdOfTag app)) fuel)

def handleRequestWorld (world : Int → Option WorldType) (s : Manager) (identify : NetIdentify)
    (worldId : Int) : Manager :=
  if world worldId ≠ some .publicWorld then s
  else
    match s.creating[worldId]? with
    | some _ => s
    | none =>
        match s.created[worldId]? with
        | some worldSn =>
            { s with sent := s.sent ++ [.broadcastCreateWorld worldId worldSn 0 identify.socketKey] }
        | none =>
            match reqCreateWorld s worldId with
            | (appId, asked) =>
                if appId ≠ invalidId then
                  { asked with creating := asked.creating.insert worldId appId }
                else asked

def handleQueryWorld (s : Manager) (identify : NetIdentify) (worldSn lastWorldSn : UInt64) : Manager :=
  match s.dungeons[worldSn]? with
  | none => { s with sent := s.sent ++ [.queryWorldFailed worldSn identify.socketKey] }
  | some worldId =>
      { s with
        sent := s.sent ++ [.broadcastCreateWorld worldId worldSn lastWorldSn identify.socketKey] }

/-- A world id without a resource is a null dereference. -/
def handleBroadcastCreateWorld (world : Int → Option WorldType) (s : Manager) (worldId : Int)
    (worldSn : UInt64) : Option Manager :=
  match world worldId with
  | none => none
  | some .publicWorld =>
      some { s with
        created := s.created.insert worldId worldSn
        creating := s.creating.erase worldId }
  | some _ => some { s with dungeons := s.dungeons.insert worldSn worldId }

def handleAppInfoSync (configured : UInt64 → Int → Option CommonConfig) (s : Manager) (proto : AppInfoSync)
    (socket : Int) : Manager :=
  { s with apps := parse configured s.apps proto socket }

theorem app_id_of_sn_bits (sn : UInt64) : appIdOfSn sn = ((sn.toNat % 67108864 / 65536 : Nat) : Int) := by
  have shifted : (getAppIdFromSN sn).toNat = sn.toNat % 67108864 / 65536 := by
    simp only [getAppIdFromSN, UInt64.toNat_shiftRight, UInt64.toNat_shiftLeft, UInt64.reduceToNat,
      Nat.reduceMod, Nat.shiftLeft_eq, Nat.shiftRight_eq_div_pow]
    omega
  rw [appIdOfSn, shifted]

def worldSnOf (global : Global) : UInt64 := UInt64.ofNat (generateSN global).1

theorem app_id_of_generated (global : Global) (tenBits : global.appId < 1024)
    (ticket : global.snTicket < 65536) : appIdOfSn (worldSnOf global) = global.appId := by
  have bits : (worldSnOf global).toNat % 67108864 / 65536 = global.appId := by
    simp only [worldSnOf, generateSN, UInt64.toNat_ofNat', Nat.shiftLeft_eq]
    omega
  rw [app_id_of_sn_bits, bits]

def appTag (appType : AppType) (appId : Nat) : TagValue := ⟨[], getAppKey appType (UInt64.ofNat appId)⟩

theorem app_id_of_tag (appType : AppType) (appId : Nat) (small : appId < 65536) :
    appIdOfTag (appTag appType appId) = appId := by
  have low : (getIdFromAppKey (getAppKey appType (UInt64.ofNat appId))).toNat = appId := by
    have mask := Nat.and_two_pow_sub_one_eq_mod
      (getAppKey appType (UInt64.ofNat appId)).toNat 16
    simp only [getIdFromAppKey, UInt64.toNat_and, UInt64.reduceToNat]
    rw [mask]
    simp only [getAppKey, UInt64.toNat_add, UInt64.toNat_shiftLeft, UInt64.reduceToNat,
      UInt64.toNat_ofNat', Nat.shiftLeft_eq, Nat.reduceMod, Nat.reducePow]
    omega
  rw [appIdOfTag, appTag, low]

def isSpace (appType : AppType) : Bool := bits appType &&& bits .space ≠ 0

/-! ### Runs, with the ledger of what the space processes owe and host -/

structure Ledger where
  manager : Manager
  outstanding : List (Int × Int)
  hosts : List (Int × Int)

def start : Ledger := ⟨initial, [], []⟩

def asks (messages : List Sent) : List (Int × Int) :=
  messages.filterMap fun
    | .createWorld worldId appId => some (worldId, appId)
    | _ => none

def newAsks (before after : Manager) : List (Int × Int) :=
  asks (after.sent.drop before.sent.length)

inductive Event where
  | request (identify : NetIdentify) (worldId : Int)
  | query (identify : NetIdentify) (worldSn lastWorldSn : UInt64)
  | answer (global : Global) (worldId : Int)
  | dungeonCreated (worldId : Int) (worldSn : UInt64)
  | sync (proto : AppInfoSync) (socket : Int)
  | disconnect (identify : NetIdentify) (appType : AppType) (appId : Nat)

/-- A space process answers a creation it still owes, once, with a number it has
drawn. The disconnect of a space process carries its App tag and ends what it
owes and hosts. -/
def ledgerStep (world : Int → Option WorldType) (configured : UInt64 → Int → Option CommonConfig)
    (before : Ledger) (event : Event) (after : Ledger) : Prop :=
  match event with
  | .request identify worldId =>
      after = { before with
        manager := handleRequestWorld world before.manager identify worldId
        outstanding := before.outstanding ++
          newAsks before.manager (handleRequestWorld world before.manager identify worldId) }
  | .query identify worldSn lastWorldSn =>
      after = { before with manager := handleQueryWorld before.manager identify worldSn lastWorldSn }
  | .answer global worldId =>
      (worldId, (global.appId : Int)) ∈ before.outstanding ∧ global.snTicket < 65536 ∧
        world worldId = some .publicWorld ∧
        ∃ manager, handleBroadcastCreateWorld world before.manager worldId (worldSnOf global) =
            some manager ∧
          after = {
            manager := manager
            outstanding := before.outstanding.erase (worldId, (global.appId : Int))
            hosts := (worldId, (global.appId : Int)) :: before.hosts }
  | .dungeonCreated worldId worldSn =>
      world worldId = some .dungeon ∧
        ∃ manager, handleBroadcastCreateWorld world before.manager worldId worldSn = some manager ∧
          after = { before with manager := manager }
  | .sync proto socket =>
      after = { before with manager := handleAppInfoSync configured before.manager proto socket }
  | .disconnect identify appType appId =>
      isTcp identify.socketKey.netType = true ∧ identify.tagKey .app = some (appTag appType appId) ∧
        isSpace appType = true ∧
        ∃ fuel manager, handleNetworkDisconnect fuel before.manager identify = some manager ∧
          after = {
            manager := manager
            outstanding := before.outstanding.filter (·.2 ≠ (appId : Int)) ++ newAsks before.manager manager
            hosts := before.hosts.filter (·.2 ≠ (appId : Int)) }

/-- The id of a space process fits in the ten bits a serial number has for it. -/
def TenBits (_ : Ledger) : Event → Prop
  | .answer global _ => global.appId < 1024
  | .disconnect _ _ appId => appId < 1024
  | _ => True

/-- At most one space process owes each world, and what is recorded as created
is hosted by a live process that answered for it. -/
structure SingleLaw (s : Ledger) : Prop where
  asked : ∀ worldId first second, (worldId, first) ∈ s.outstanding →
    (worldId, second) ∈ s.outstanding → first = second
  hosted : ∀ (worldId : Int) (worldSn : UInt64), s.manager.created[worldId]? = some worldSn →
    (worldId, appIdOfSn worldSn) ∈ s.hosts

/-- A request that leads to a creation finds the world owed by nobody but the
process now chosen. -/
def NotOwed (world : Int → Option WorldType) (before : Ledger) : Event → Prop
  | .request _ worldId =>
      world worldId = some .publicWorld → before.manager.creating[worldId]? = none →
        before.manager.created[worldId]? = none →
        ∀ info apps, getOneApp (bits .space) before.manager.apps = some (info, apps) →
          ∀ appId, (worldId, appId) ∈ before.outstanding → appId = info.appId
  | _ => True

theorem req_create_world_cases (s : Manager) (worldId : Int) :
    (getOneApp (bits .space) s.apps = none ∧ reqCreateWorld s worldId = (invalidId, s)) ∨
      ∃ info apps, getOneApp (bits .space) s.apps = some (info, apps) ∧
        reqCreateWorld s worldId = (info.appId,
          { s with apps := apps, sent := s.sent ++ [.createWorld worldId info.appId] }) := by
  unfold reqCreateWorld
  cases chosen : getOneApp (bits .space) s.apps with
  | none => exact Or.inl ⟨rfl, rfl⟩
  | some pair => exact Or.inr ⟨pair.1, pair.2, rfl, rfl⟩

theorem asks_append (first second : List Sent) :
    asks (first ++ second) = asks first ++ asks second := by
  simp [asks]

theorem new_asks_appended (before after : Manager) (messages : List Sent)
    (appended : after.sent = before.sent ++ messages) : newAsks before after = asks messages := by
  rw [newAsks, appended, List.drop_left]

/-- How far the loop has come: worlds left `creating` one after the other, and
each was asked for at most once. -/
structure Reissued (appId : Int) (before s : Manager) : Prop where
  created : s.created = before.created
  kept : ∀ (worldId creator : Int), s.creating[worldId]? = some creator →
    before.creating[worldId]? = some creator
  lost : ∀ (worldId creator : Int), before.creating[worldId]? = some creator →
    s.creating[worldId]? = none → creator = appId
  messages : ∃ new : List Sent, s.sent = before.sent ++ new ∧ ((asks new).map (·.1)).Nodup ∧
    ∀ worldId ∈ (asks new).map (·.1), s.creating[worldId]? = none ∧
      before.creating[worldId]? = some appId

theorem reissued_start (appId : Int) (s : Manager) : Reissued appId s s := by
  refine ⟨rfl, fun _ _ held => held, ?_, [], by simp, List.nodup_nil, by simp [asks]⟩
  intro worldId creator held absent
  rw [held] at absent
  cases absent

theorem reissued_erased {appId worldId : Int} {before s : Manager} (reissued : Reissued appId before s)
    (held : s.creating[worldId]? = some appId) :
    Reissued appId before { s with creating := s.creating.erase worldId } := by
  have erased : ∀ other : Int, (s.creating.erase worldId)[other]? =
      if other = worldId then none else s.creating[other]? := get_erase _ _
  obtain ⟨new, sent, distinct, asked⟩ := reissued.messages
  refine ⟨reissued.created, ?_, ?_, new, sent, distinct, ?_⟩
  · intro other creator now
    rw [erased] at now
    split at now
    · cases now
    · exact reissued.kept other creator now
  · intro other creator here gone
    rw [erased] at gone
    split at gone
    · rename_i same
      rw [same, reissued.kept worldId appId held] at here
      exact (Option.some.inj here).symm
    · exact reissued.lost other creator here gone
  · intro other member
    obtain ⟨gone, owed⟩ := asked other member
    refine ⟨?_, owed⟩
    rw [erased, gone]
    split <;> rfl

/-- A world is asked for again once, since its entry is erased with it. -/
theorem reissued_asked {appId worldId : Int} {before s : Manager} (reissued : Reissued appId before s)
    (held : s.creating[worldId]? = some appId) (apps : Apps) (process : Int) :
    Reissued appId before { s with
      apps := apps
      sent := s.sent ++ [.createWorld worldId process]
      creating := s.creating.erase worldId } := by
  have erased := reissued_erased reissued held
  obtain ⟨new, sent, distinct, asked⟩ := reissued.messages
  have absent : (s.creating.erase worldId)[worldId]? = none := by
    rw [get_erase, if_pos rfl]
  have single : ∀ other ∈ (asks [Sent.createWorld worldId process]).map (·.1), other = worldId := by
    intro other member
    simpa [asks] using member
  refine ⟨erased.created, erased.kept, erased.lost, new ++ [.createWorld worldId process], ?_, ?_, ?_⟩
  · simp [sent]
  · rw [asks_append, List.map_append, List.nodup_append]
    refine ⟨distinct, by simp [asks], ?_⟩
    rintro other member last newest rfl
    rw [single other newest] at member
    rw [(asked worldId member).1] at held
    cases held
  · intro other member
    rw [asks_append, List.map_append, List.mem_append] at member
    rcases member with older | newest
    · obtain ⟨gone, owed⟩ := asked other older
      refine ⟨?_, owed⟩
      dsimp only
      rw [get_erase, gone]
      split <;> rfl
    · rw [single other newest]
      exact ⟨absent, reissued.kept worldId appId held⟩

theorem reissue_turn (appId : Int) (before s next : Manager) (reissued : Reissued appId before s)
    (turn : reissueTurn appId s = .inl next) :
    Reissued appId before next ∧ next.creating.size < s.creating.size := by
  unfold reissueTurn at turn
  split at turn
  · cases turn
  · rename_i worldId creator found
    obtain ⟨held, hit⟩ := find_if_some found
    obtain rfl : creator = appId := by simpa using hit
    have smaller := size_erase_held s.creating worldId creator held
    rcases req_create_world_cases { s with creating := s.creating.erase worldId } worldId with
      ⟨-, none⟩ | ⟨info, apps, -, chosen⟩
    · -- no space process is left: the world is forgotten
      rw [none] at turn
      cases turn
      exact ⟨reissued_erased reissued held, smaller⟩
    · rw [chosen] at turn
      cases turn
      exact ⟨reissued_asked reissued held apps info.appId, smaller⟩

theorem reissue_exit (appId : Int) (s result : Manager) (turn : reissueTurn appId s = .inr result) :
    result = s ∧ ∀ worldId creator : Int, s.creating[worldId]? = some creator → creator ≠ appId := by
  unfold reissueTurn at turn
  split at turn
  · rename_i absent
    cases turn
    refine ⟨rfl, ?_⟩
    intro worldId creator held
    simpa using find_if_none.mp absent worldId creator held
  · cases turn

/-! The two loops that forget. -/

structure Forgot (appId : Int) (before s : Manager) : Prop where
  creating : s.creating = before.creating
  sent : s.sent = before.sent
  created : ∀ (worldId : Int) (worldSn : UInt64), s.created[worldId]? = some worldSn →
    before.created[worldId]? = some worldSn

theorem forgot_start (appId : Int) (s : Manager) : Forgot appId s s :=
  ⟨rfl, rfl, fun _ _ held => held⟩

theorem drop_created_turn (appId : Int) (before s next : Manager) (forgot : Forgot appId before s)
    (turn : dropCreatedTurn appId s = .inl next) :
    Forgot appId before next ∧ next.created.size < s.created.size := by
  unfold dropCreatedTurn at turn
  split at turn
  · cases turn
  · rename_i worldId worldSn found
    cases turn
    refine ⟨⟨forgot.creating, forgot.sent, ?_⟩, size_erase_held _ _ _ (find_if_some found).1⟩
    intro other sn now
    dsimp only at now
    rw [get_erase] at now
    split at now
    · cases now
    · exact forgot.created other sn now

theorem drop_created_exit (appId : Int) (s result : Manager)
    (turn : dropCreatedTurn appId s = .inr result) :
    result = s ∧ ∀ (worldId : Int) (worldSn : UInt64), s.created[worldId]? = some worldSn →
      appIdOfSn worldSn ≠ appId := by
  unfold dropCreatedTurn at turn
  split at turn
  · rename_i absent
    cases turn
    refine ⟨rfl, ?_⟩
    intro worldId worldSn held
    simpa using find_if_none.mp absent worldId worldSn held
  · cases turn

theorem drop_dungeon_turn (appId : Int) (s next : Manager)
    (turn : dropDungeonTurn appId s = .inl next) :
    next = { s with dungeons := next.dungeons } ∧ next.dungeons.size < s.dungeons.size := by
  unfold dropDungeonTurn at turn
  split at turn
  · cases turn
  · rename_i worldSn worldId found
    cases turn
    have held := Std.ExtTreeMap.mem_toList_iff_getElem?_eq_some.mp (List.mem_of_find?_eq_some found)
    exact ⟨rfl, size_erase_held _ _ _ held⟩

theorem drop_dungeon_exit (appId : Int) (s result : Manager)
    (turn : dropDungeonTurn appId s = .inr result) :
    result = s ∧ ∀ (worldSn : UInt64) (worldId : Int), s.dungeons[worldSn]? = some worldId →
      appIdOfSn worldSn ≠ appId := by
  unfold dropDungeonTurn at turn
  split at turn
  · rename_i absent
    cases turn
    refine ⟨rfl, ?_⟩
    intro worldSn worldId held
    have listed := Std.ExtTreeMap.mem_toList_iff_getElem?_eq_some.mpr held
    simpa using List.find?_eq_none.mp absent (worldSn, worldId) listed
  · cases turn

/-- Each of the three loops erases one entry a turn. -/
theorem handle_network_disconnect_ends (s : Manager) (identify : NetIdentify) :
    ∃ fuel result, handleNetworkDisconnect fuel s identify = some result := by
  by_cases overTcp : isTcp identify.socketKey.netType = true
  · cases tag : identify.tagKey .app with
    | none =>
        exact ⟨0, { s with apps := dropSocket s.apps identify.socketKey.socket },
          by simp [handleNetworkDisconnect, overTcp, tag]⟩
    | some app =>
        obtain ⟨reissued, firstFuel, first⟩ := ends_of_variant (reissueTurn (appIdOfTag app))
          (Reissued (appIdOfTag app) { s with apps := dropSocket s.apps identify.socketKey.socket })
          (fun current => current.creating.size)
          (fun current next holds turn => reissue_turn _ _ current next holds turn)
          _ (reissued_start _ _)
        obtain ⟨dropped, secondFuel, second⟩ :=
          ends_of_variant (dropCreatedTurn (appIdOfTag app))
            (Forgot (appIdOfTag app) reissued) (fun current => current.created.size)
            (fun current next holds turn => drop_created_turn _ _ current next holds turn)
            reissued (forgot_start _ _)
        obtain ⟨result, thirdFuel, third⟩ :=
          ends_of_variant (dropDungeonTurn (appIdOfTag app)) (fun _ => True)
            (fun current => current.dungeons.size)
            (fun current next _ turn => ⟨trivial, (drop_dungeon_turn _ current next turn).2⟩)
            dropped trivial
        -- more fuel does no harm to a loop that has ended
        refine ⟨firstFuel + secondFuel + thirdFuel, result, ?_⟩
        simp only [handleNetworkDisconnect, overTcp, tag, Bool.not_true, Bool.false_eq_true, if_false]
        rw [loop_more first (by omega), Option.bind_some, loop_more second (by omega),
          Option.bind_some, loop_more third (by omega)]
  · exact ⟨0, s, by simp [handleNetworkDisconnect, overTcp]⟩

/-- What a disconnect of process `appId` leaves: nothing of that process, and
one creation at most for each world it owed. -/
structure Disconnected (appId : Int) (before after : Manager) : Prop where
  creating : ∀ (worldId creator : Int), after.creating[worldId]? = some creator →
    before.creating[worldId]? = some creator ∧ creator ≠ appId
  created : ∀ (worldId : Int) (worldSn : UInt64), after.created[worldId]? = some worldSn →
    before.created[worldId]? = some worldSn ∧ appIdOfSn worldSn ≠ appId
  distinct : ((newAsks before after).map (·.1)).Nodup
  owed : ∀ worldId ∈ (newAsks before after).map (·.1), before.creating[worldId]? = some appId

theorem disconnected_of_loops (fuel : Nat) (appId : Int) (before reissued dropped after : Manager)
    (first : loop (reissueTurn appId) fuel before = some reissued)
    (second : loop (dropCreatedTurn appId) fuel reissued = some dropped)
    (third : loop (dropDungeonTurn appId) fuel dropped = some after) :
    Disconnected appId before after := by
  obtain ⟨reissue, noCreating⟩ := loop_stops (Reissued appId before)
    (fun current next holds turn => (reissue_turn appId before current next holds turn).1)
    (reissue_exit appId) fuel before reissued (reissued_start appId before) first
  obtain ⟨forgot, noCreated⟩ := loop_stops (Forgot appId reissued)
    (fun current next holds turn => (drop_created_turn appId reissued current next holds turn).1)
    (drop_created_exit appId) fuel reissued dropped (forgot_start appId reissued) second
  -- the third loop only looks at the dungeons
  have rest : after = { dropped with dungeons := after.dungeons } := by
    apply (loop_stops (fun current => current = { dropped with dungeons := current.dungeons })
      _ (drop_dungeon_exit appId) fuel dropped after rfl third).1
    intro current next holds turn
    rw [(drop_dungeon_turn appId current next turn).1, holds]
  obtain ⟨new, sent, distinct, asked⟩ := reissue.messages
  have appended : newAsks before after = asks new := by
    apply new_asks_appended
    rw [rest]
    exact forgot.sent.trans sent
  refine ⟨?_, ?_, ?_, ?_⟩
  · intro worldId creator held
    rw [rest] at held
    have still : reissued.creating[worldId]? = some creator := by
      rw [← forgot.creating]
      exact held
    exact ⟨reissue.kept worldId creator still, noCreating worldId creator still⟩
  · intro worldId worldSn held
    rw [rest] at held
    have was := forgot.created worldId worldSn held
    rw [reissue.created] at was
    exact ⟨was, noCreated worldId worldSn held⟩
  · rw [appended]
    exact distinct
  · intro worldId member
    rw [appended] at member
    exact (asked worldId member).2

theorem disconnect_spec (fuel : Nat) (s result : Manager) (identify : NetIdentify) (app : TagValue)
    (overTcp : isTcp identify.socketKey.netType = true) (tag : identify.tagKey .app = some app)
    (done : handleNetworkDisconnect fuel s identify = some result) :
    Disconnected (appIdOfTag app) s result := by
  simp only [handleNetworkDisconnect, overTcp, tag, Bool.not_true, Bool.false_eq_true, if_false,
    Option.bind_eq_some_iff] at done
  obtain ⟨reissued, first, dropped, second, third⟩ := done
  -- The application dropped before the loops is read by none of the four fields.
  obtain ⟨creating, created, distinct, owed⟩ :=
    disconnected_of_loops fuel (appIdOfTag app) _ reissued dropped result first second third
  exact ⟨creating, created, distinct, owed⟩

/-! The law over runs. -/

/-- What the component records is what the processes owe and host. -/
structure Recorded (s : Ledger) : Prop where
  creating : ∀ worldId creator : Int, s.manager.creating[worldId]? = some creator →
    (worldId, creator) ∈ s.outstanding
  created : ∀ (worldId : Int) (worldSn : UInt64), s.manager.created[worldId]? = some worldSn →
    (worldId, appIdOfSn worldSn) ∈ s.hosts

theorem recorded_start : Recorded start := by
  constructor
  · intro worldId creator held
    simp [start, initial] at held
  · intro worldId worldSn held
    simp [start, initial] at held

/-- An application whose id is `INVALID_ID` is asked and not recorded. -/
theorem request_cases (world : Int → Option WorldType) (s : Manager) (identify : NetIdentify)
    (worldId : Int) :
    ((handleRequestWorld world s identify worldId).creating = s.creating ∧
        (handleRequestWorld world s identify worldId).created = s.created ∧
        newAsks s (handleRequestWorld world s identify worldId) = [] ∧
        (world worldId = some .publicWorld → s.creating[worldId]? = none →
          s.created[worldId]? = none → getOneApp (bits .space) s.apps = none)) ∨
      (world worldId = some .publicWorld ∧ s.creating[worldId]? = none ∧
        s.created[worldId]? = none ∧
        ∃ info apps, getOneApp (bits .space) s.apps = some (info, apps) ∧
          (handleRequestWorld world s identify worldId).creating =
            (if info.appId ≠ invalidId then s.creating.insert worldId info.appId else s.creating) ∧
          (handleRequestWorld world s identify worldId).created = s.created ∧
          newAsks s (handleRequestWorld world s identify worldId) = [(worldId, info.appId)]) := by
  by_cases isPublic : world worldId = some .publicWorld
  · cases creating : s.creating[worldId]? with
    | some creator => exact Or.inl (by simp [handleRequestWorld, isPublic, creating, newAsks, asks])
    | none =>
        cases created : s.created[worldId]? with
        | some worldSn =>
            exact Or.inl (by simp [handleRequestWorld, isPublic, creating, created, newAsks, asks])
        | none =>
            rcases req_create_world_cases s worldId with ⟨nobody, none⟩ | ⟨info, apps, chosen, asked⟩
            · left
              simp [handleRequestWorld, isPublic, creating, created, none, nobody, newAsks, asks]
            · right
              refine ⟨isPublic, rfl, rfl, info, apps, chosen, ?_⟩
              -- the source compares the id returned with INVALID_ID, whatever it stands for
              by_cases invalid : info.appId = invalidId <;>
                simp [handleRequestWorld, isPublic, creating, created, asked, invalid, newAsks, asks]
  · exact Or.inl (by simp [handleRequestWorld, isPublic, newAsks, asks])

theorem broadcast_public (world : Int → Option WorldType) (s manager : Manager) (worldId : Int)
    (worldSn : UInt64) (isPublic : world worldId = some .publicWorld)
    (handled : handleBroadcastCreateWorld world s worldId worldSn = some manager) :
    manager.created = s.created.insert worldId worldSn ∧
      manager.creating = s.creating.erase worldId := by
  unfold handleBroadcastCreateWorld at handled
  rw [isPublic] at handled
  cases handled
  exact ⟨rfl, rfl⟩

theorem broadcast_dungeon (world : Int → Option WorldType) (s manager : Manager) (worldId : Int)
    (worldSn : UInt64) (isDungeon : world worldId = some .dungeon)
    (handled : handleBroadcastCreateWorld world s worldId worldSn = some manager) :
    manager.created = s.created ∧ manager.creating = s.creating := by
  unfold handleBroadcastCreateWorld at handled
  rw [isDungeon] at handled
  cases handled
  exact ⟨rfl, rfl⟩

theorem query_frame (s : Manager) (identify : NetIdentify) (worldSn lastWorldSn : UInt64) :
    (handleQueryWorld s identify worldSn lastWorldSn).created = s.created ∧
      (handleQueryWorld s identify worldSn lastWorldSn).creating = s.creating := by
  unfold handleQueryWorld
  split
  · exact ⟨rfl, rfl⟩
  · exact ⟨rfl, rfl⟩

theorem recorded_grown {before after : Ledger} (recorded : Recorded before)
    (creating : after.manager.creating = before.manager.creating)
    (created : after.manager.created = before.manager.created)
    (more : before.outstanding ⊆ after.outstanding) (hosts : after.hosts = before.hosts) :
    Recorded after := by
  constructor
  · intro worldId creator held
    rw [creating] at held
    exact more (recorded.creating worldId creator held)
  · intro worldId worldSn held
    rw [created] at held
    rw [hosts]
    exact recorded.created worldId worldSn held

theorem recorded_step (world : Int → Option WorldType) (configured : UInt64 → Int → Option CommonConfig)
    (before : Ledger) (event : Event) (after : Ledger) (recorded : Recorded before)
    (taken : Guarded (ledgerStep world configured) TenBits before event after) : Recorded after := by
  obtain ⟨taken, tenBits⟩ := taken
  cases event with
  | request identify worldId =>
      rw [ledgerStep] at taken
      rw [taken]
      rcases request_cases world before.manager identify worldId with
        ⟨creating, created, -, -⟩ | ⟨-, -, -, info, apps, -, creating, created, asked⟩
      · exact recorded_grown recorded creating created (List.subset_append_left _ _) rfl
      · constructor
        · intro other creator held
          dsimp only at held ⊢
          rw [creating] at held
          rw [asked]
          split at held
          · rw [get_insert] at held
            split at held
            · rename_i same
              cases held
              exact List.mem_append_right _ (by simp [same])
            · exact List.mem_append_left _ (recorded.creating other creator held)
          · -- nothing is recorded of a process without an id
            exact List.mem_append_left _ (recorded.creating other creator held)
        · intro other worldSn held
          dsimp only at held ⊢
          rw [created] at held
          exact recorded.created other worldSn held
  | query identify worldSn lastWorldSn =>
      rw [ledgerStep] at taken
      obtain ⟨created, creating⟩ := query_frame before.manager identify worldSn lastWorldSn
      rw [taken]
      exact recorded_grown recorded creating created (List.Subset.refl _) rfl
  | answer global worldId =>
      rw [ledgerStep] at taken
      obtain ⟨-, ticket, isPublic, manager, handled, rfl⟩ := taken
      have ownSn := app_id_of_generated global tenBits ticket
      obtain ⟨created, creating⟩ := broadcast_public world _ manager worldId _ isPublic handled
      constructor
      · intro other creator held
        dsimp only at held ⊢
        rw [creating, get_erase] at held
        split at held
        · cases held
        · rename_i differs
          -- The answered creation is of another world.
          exact (List.mem_erase_of_ne fun same => differs (congrArg Prod.fst same)).mpr
            (recorded.creating other creator held)
      · intro other sn held
        dsimp only at held ⊢
        rw [created, get_insert] at held
        split at held
        · rename_i same
          cases held
          rw [same, ownSn]
          exact List.mem_cons_self
        · exact List.mem_cons_of_mem _ (recorded.created other sn held)
  | dungeonCreated worldId worldSn =>
      rw [ledgerStep] at taken
      obtain ⟨isDungeon, manager, handled, rfl⟩ := taken
      obtain ⟨created, creating⟩ := broadcast_dungeon world _ manager worldId worldSn isDungeon handled
      exact recorded_grown recorded creating created (List.Subset.refl _) rfl
  | sync proto socket =>
      rw [ledgerStep] at taken
      rw [taken]
      exact recorded_grown recorded rfl rfl (List.Subset.refl _) rfl
  | disconnect identify appType appId =>
      rw [ledgerStep] at taken
      obtain ⟨overTcp, tag, -, fuel, manager, done, rfl⟩ := taken
      have spec := disconnect_spec fuel before.manager manager identify _ overTcp tag done
      rw [app_id_of_tag appType appId (Nat.lt_trans tenBits (by decide))] at spec
      constructor
      · intro other creator held
        obtain ⟨was, differs⟩ := spec.creating other creator held
        exact List.mem_append_left _
          (List.mem_filter.mpr ⟨recorded.creating other creator was, by simpa using differs⟩)
      · intro other sn held
        obtain ⟨was, differs⟩ := spec.created other sn held
        exact List.mem_filter.mpr ⟨recorded.created other sn was, by simpa using differs⟩

/-- A world asked again was owed by the lost process, hence by no other. -/
theorem asked_after_disconnect {before : Ledger} {manager : Manager} {appId : Int}
    (recorded : Recorded before) (law : SingleLaw before)
    (spec : Disconnected appId before.manager manager) (worldId first second : Int)
    (one : (worldId, first) ∈ before.outstanding.filter (·.2 ≠ appId) ++ newAsks before.manager manager)
    (two : (worldId, second) ∈ before.outstanding.filter (·.2 ≠ appId) ++ newAsks before.manager manager) :
    first = second := by
  have lost : ∀ again, (worldId, again) ∈ newAsks before.manager manager →
      ∀ other, (worldId, other) ∈ before.outstanding → other = appId := by
    intro again asked other owes
    have owed := spec.owed worldId (List.mem_map_of_mem (f := Prod.fst) asked)
    exact law.asked worldId other appId owes (recorded.creating worldId _ owed)
  rw [List.mem_append, List.mem_filter] at one two
  rcases one with one | one <;> rcases two with two | two
  · exact law.asked worldId first second one.1 two.1
  · exact absurd (lost second two first one.1) (by simpa using one.2)
  · exact absurd (lost first one second two.1) (by simpa using two.2)
  · have same := List.inj_on_of_nodup_map spec.distinct one two rfl
    exact congrArg Prod.snd same

/-- A request keeps one ower a world exactly where the process it asks is the
one that owes the world already, if any does. -/
theorem request_single_iff (world : Int → Option WorldType) (before : Ledger) (identify : NetIdentify)
    (worldId : Int)
    (law : ∀ other first second, (other, first) ∈ before.outstanding →
      (other, second) ∈ before.outstanding → first = second) :
    NotOwed world before (.request identify worldId) ↔
      ∀ other first second,
        (other, first) ∈ before.outstanding ++
          newAsks before.manager (handleRequestWorld world before.manager identify worldId) →
        (other, second) ∈ before.outstanding ++
          newAsks before.manager (handleRequestWorld world before.manager identify worldId) →
        first = second := by
  rw [NotOwed]
  rcases request_cases world before.manager identify worldId with
    ⟨-, -, none, nobody⟩ | ⟨isPublic, notCreating, notCreated, info, apps, chosen, -, -, asked⟩
  · rw [none, List.append_nil]
    refine ⟨fun _ => law, ?_⟩
    intro _ isPublic notCreating notCreated info apps chosen
    rw [nobody isPublic notCreating notCreated] at chosen
    cases chosen
  · constructor
    · intro notOwed
      have only := notOwed isPublic notCreating notCreated info apps chosen
      intro other first second one two
      rw [asked, List.mem_append, List.mem_singleton] at one two
      rcases one with one | one <;> rcases two with two | two
      · exact law other first second one two
      · cases two
        exact only first one
      · cases one
        exact (only second two).symm
      · cases one
        cases two
        rfl
    · -- an older ower and the process now asked are two for one world
      intro single _ _ _ info' apps' chosen' appId owes
      rw [chosen] at chosen'
      cases chosen'
      refine single worldId appId info.appId (List.mem_append_left _ owes) ?_
      rw [asked]
      exact List.mem_append_right _ List.mem_cons_self

/-- Only a request can break the law: a disconnect asks again for worlds whose
single ower is the process it forgets. -/
theorem not_owed_decides (world : Int → Option WorldType) (configured : UInt64 → Int → Option CommonConfig)
    (before : Ledger) (event : Event) (after : Ledger) (recorded : Recorded before)
    (law : SingleLaw before)
    (taken : Guarded (ledgerStep world configured) TenBits before event after) :
    NotOwed world before event ↔ SingleLaw after := by
  have hosted := (recorded_step world configured before event after recorded taken).created
  obtain ⟨taken, tenBits⟩ := taken
  cases event with
  | request identify worldId =>
      rw [ledgerStep] at taken
      rw [taken] at hosted
      rw [taken]
      have single := request_single_iff world before identify worldId law.asked
      exact ⟨fun notOwed => ⟨single.mp notOwed, hosted⟩, fun lawAfter => single.mpr lawAfter.asked⟩
  | query identify worldSn lastWorldSn =>
      rw [ledgerStep] at taken
      rw [taken] at hosted ⊢
      exact ⟨fun _ => ⟨law.asked, hosted⟩, fun _ => trivial⟩
  | answer global worldId =>
      rw [ledgerStep] at taken
      obtain ⟨-, -, -, manager, -, rfl⟩ := taken
      refine ⟨fun _ => ⟨?_, hosted⟩, fun _ => trivial⟩
      intro other first second one two
      exact law.asked other first second (List.mem_of_mem_erase one) (List.mem_of_mem_erase two)
  | dungeonCreated worldId worldSn =>
      rw [ledgerStep] at taken
      obtain ⟨-, manager, -, rfl⟩ := taken
      exact ⟨fun _ => ⟨law.asked, hosted⟩, fun _ => trivial⟩
  | sync proto socket =>
      rw [ledgerStep] at taken
      rw [taken] at hosted ⊢
      exact ⟨fun _ => ⟨law.asked, hosted⟩, fun _ => trivial⟩
  | disconnect identify appType appId =>
      rw [ledgerStep] at taken
      obtain ⟨overTcp, tag, -, fuel, manager, done, rfl⟩ := taken
      have spec := disconnect_spec fuel before.manager manager identify _ overTcp tag done
      rw [app_id_of_tag appType appId (Nat.lt_trans tenBits (by decide))] at spec
      exact ⟨fun _ => ⟨asked_after_disconnect recorded law spec, hosted⟩, fun _ => trivial⟩

/-- Among the runs with ids of ten bits, at most one space process owes each
world and every recorded world is hosted along exactly those in which no creation
is requested of a second process while another, asked again after a disconnect,
still owes it. -/
theorem single_world_iff (world : Int → Option WorldType)
    (configured : UInt64 → Int → Option CommonConfig) (trace : List Event) (s : Ledger) :
    Run (Guarded (Guarded (ledgerStep world configured) TenBits) (NotOwed world)) start trace s ↔
      Run (Along (Guarded (ledgerStep world configured) TenBits) SingleLaw) start trace s := by
  refine guarded_iff_along Recorded (recorded_step world configured)
    (not_owed_decides world configured) recorded_start ⟨?_, recorded_start.created⟩
  intro worldId first second owes
  simp [start] at owes

/-! World 2 is requested while process 1 is the only one; processes 2 and 3
come, process 1 goes. -/

def publicWorlds (worldId : Int) : Option WorldType :=
  if worldId = 2 then some .publicWorld else none

def gameProcess : NetIdentify := ⟨⟨9, .tcpListen⟩, clear⟩

def spaceProcess : NetIdentify := ⟨⟨1, .tcpListen⟩, addTagInt clear .app (getAppKey .space 1)⟩

def spaceSync (appId : Int) : Event := .sync ⟨appId, bits .space, 0⟩ appId

def spaceLost (before : Ledger) : Ledger :=
  let manager := (handleNetworkDisconnect 2 before.manager spaceProcess).getD before.manager
  { manager := manager
    outstanding := before.outstanding.filter (·.2 ≠ 1) ++ newAsks before.manager manager
    hosts := before.hosts.filter (·.2 ≠ 1) }

theorem space_lost_step (world : Int → Option WorldType)
    (configured : UInt64 → Int → Option CommonConfig) (before : Ledger)
    (ends : (handleNetworkDisconnect 2 before.manager spaceProcess).isSome = true) :
    ledgerStep world configured before (.disconnect spaceProcess .space 1) (spaceLost before) := by
  obtain ⟨manager, done⟩ := Option.isSome_iff_exists.mp ends
  refine ⟨rfl, rfl, by decide, 2, manager, done, ?_⟩
  rw [spaceLost, done, Option.getD_some]
  rfl

theorem second_space_asked_run : ∃ s,
    Run (Guarded (ledgerStep publicWorlds fun _ _ => some ⟨[], 7801⟩) TenBits) start
      [spaceSync 1, .request gameProcess 2, spaceSync 2, spaceSync 3,
        .disconnect spaceProcess .space 1, .request gameProcess 2] s ∧
      (2, 2) ∈ s.outstanding ∧ (2, 3) ∈ s.outstanding := by
  refine ⟨_, Run.next ⟨rfl, trivial⟩ (Run.next ⟨rfl, trivial⟩ (Run.next ⟨rfl, trivial⟩
    (Run.next ⟨rfl, trivial⟩ (Run.next ⟨space_lost_step _ _ _ (by decide), (by decide : 1 < 1024)⟩
    (Run.next ⟨rfl, trivial⟩ (Run.refl _)))))), by decide, by decide⟩

/-- Process 2 is asked for the world of the lost process 1 without being
entered in `_creating`, so the next request goes to process 3 as well. -/
theorem reissued_world_asked_twice :
    ¬ ∀ (world : Int → Option WorldType) (configured : UInt64 → Int → Option CommonConfig) (trace : List Event)
      (s : Ledger), Run (Guarded (ledgerStep world configured) TenBits) start trace s →
        SingleLaw s := by
  intro law
  obtain ⟨s, run, second, third⟩ := second_space_asked_run
  have same := (law publicWorlds _ _ s run).asked 2 2 3 second third
  cases same

end GameBook.CreateWorld
