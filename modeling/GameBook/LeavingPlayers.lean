import GameBook.LastMapCalls
import GameBook.SpaceWorld
import GameBook.WhileLoop
import GameBook.WorldVisibility

/-!
What a world saves of its players. The disconnect of a client takes out one
player; the disconnect of a game process takes out, in a loop over `_players`
that erases where it stands, those that came over its connection. Each of them
is saved once, as it is when it leaves, and nothing else is saved.
-/

namespace GameBook.LeavingPlayers

open Std OrderedMap SocketObject LastMap LabelledRun SpaceWorld WhileLoop

variable {Position Direction : Type}

/-! ### The loop of `RemoveAllPlayers` -/

structure Removal (Position Direction : Type) where
  world : World Position Direction
  iter : Option UInt64

/-- One turn. The result `none` is an iterator that stands at no entry. -/
def removeTurn (socket : Int) (r : Removal Position Direction) :
    Removal Position Direction ⊕ Option (World Position Direction) :=
  match r.iter with
  | none => .inr (some r.world)
  | some playerSn =>
      match getPlayerBySn r.world.manager playerSn with
      | none => .inr none
      | some p =>
          if p.socketKey.socket ≠ socket then
            .inl { r with iter := nextKey r.world.manager.players playerSn }
          else
            -- `erase` returns the iterator behind the erased entry
            let manager := removePlayerBySn r.world.manager playerSn
            .inl ⟨send { r.world with manager := manager } [savePlayer p],
              nextKey manager.players playerSn⟩

def Removes (socket : Int) (w after : World Position Direction) : Prop :=
  Ends (removeTurn socket) ⟨w, firstKey w.manager.players⟩ (some after)

theorem manager_ext {first second : PlayerManager Position Direction}
    (same : ∀ sn p, getPlayerBySn first sn = some p ↔ getPlayerBySn second sn = some p) :
    first = second := by
  obtain ⟨left, _⟩ := first
  obtain ⟨right, _⟩ := second
  have equal : left = right := by
    apply ExtTreeMap.ext_getElem?
    intro sn
    exact Option.ext (same sn)
  subst equal
  rfl

theorem removal_ends (socket : Int) (rest : List (UInt64 × Player Position Direction))
    (r : Removal Position Direction)
    (stands : ∀ sn, r.iter = some sn → ∃ p, getPlayerBySn r.world.manager sn = some p)
    (left : remaining r.world.manager.players r.iter = rest) :
    ∃ manager : PlayerManager Position Direction,
      Ends (removeTurn socket) r (some { send r.world
        (((rest.map Prod.snd).filter fun p => p.socketKey.socket = socket).map savePlayer) with
        manager := manager }) ∧
      ∀ sn p, getPlayerBySn manager sn = some p ↔
        getPlayerBySn r.world.manager sn = some p ∧
          ¬((sn, p) ∈ rest ∧ p.socketKey.socket = socket) := by
  -- the work is the list of the entries that are left; the iterator names its head
  induction rest generalizing r with
  | nil =>
      cases iter : r.iter with
      | none =>
          refine ⟨r.world.manager, ?_, fun sn p => by simp⟩
          apply ends_exit
          simp [removeTurn, iter, send]
      | some sn =>
          obtain ⟨p, held⟩ := stands sn iter
          rw [iter, remaining_held held] at left
          cases left
  | cons entry tail ih =>
      cases iter : r.iter with
      | none =>
          rw [iter] at left
          cases left
      | some sn =>
          obtain ⟨p, held⟩ := stands sn iter
          rw [iter, remaining_held held] at left
          cases left
          by_cases same : p.socketKey.socket = socket
          · have goes : removeTurn socket r = .inl
                ⟨send { r.world with manager := removePlayerBySn r.world.manager sn } [savePlayer p],
                  nextKey (removePlayerBySn r.world.manager sn).players sn⟩ := by
              simp [removeTurn, iter, held, same]
            -- the entry is erased under the iterator, what is behind it stays the same
            obtain ⟨manager, ended, holds⟩ := ih
              ⟨send { r.world with manager := removePlayerBySn r.world.manager sn } [savePlayer p],
                nextKey (removePlayerBySn r.world.manager sn).players sn⟩
              (fun other behind => next_held behind)
              ((remaining_next _ sn).trans (behind_erase _ sn))
            refine ⟨manager, ?_, ?_⟩
            · apply ends_step goes
              simpa [send, same] using ended
            · intro other q
              rw [holds, send_manager, get_player_erase]
              by_cases equal : other = sn
              · rw [if_pos equal, equal, held]
                constructor
                · rintro ⟨gone, -⟩
                  cases gone
                · rintro ⟨found, stays⟩
                  cases found
                  exact absurd ⟨List.mem_cons_self, same⟩ stays
              · rw [if_neg equal, List.mem_cons]
                simp [equal]
          · have goes : removeTurn socket r = .inl
                { r with iter := nextKey r.world.manager.players sn } := by
              simp [removeTurn, iter, held, same]
            obtain ⟨manager, ended, holds⟩ := ih { r with iter := nextKey r.world.manager.players sn }
              (fun other behind => next_held behind) (remaining_next _ sn)
            refine ⟨manager, ?_, ?_⟩
            · apply ends_step goes
              simpa [send, same] using ended
            · intro other q
              rw [holds, List.mem_cons]
              constructor
              · rintro ⟨found, stays⟩
                refine ⟨found, ?_⟩
                rintro ⟨here | later, leaves⟩
                · cases here
                  exact same leaves
                · exact stays ⟨later, leaves⟩
              · rintro ⟨found, stays⟩
                exact ⟨found, fun gone => stays ⟨Or.inr gone.1, gone.2⟩⟩

theorem removes_all_players (w : World Position Direction) (socket : Int) :
    Removes socket w (removeAllPlayers w socket) := by
  obtain ⟨manager, ended, holds⟩ := removal_ends socket w.manager.players.toList
    ⟨w, firstKey w.manager.players⟩ (fun sn stands => first_held stands)
    (remaining_first w.manager.players)
  have kept : manager = keepOthers w.manager socket := by
    apply manager_ext
    intro sn p
    rw [holds, ExtTreeMap.mem_toList_iff_getElem?_eq_some]
    unfold getPlayerBySn keepOthers
    rw [ExtTreeMap.getElem?_filter', Option.filter_eq_some_iff]
    simp +contextual
  rw [kept] at ended
  exact ended

/-! ### What is saved -/

def departed (w : World Position Direction) : Message Position Direction → List (Player Position Direction)
  | .networkDisconnect identify => (values w.manager.players).filter (leaves identify)
  | _ => []

def saves (sent : List (Sent Position)) : List (UInt64 × PlayerProto Position) :=
  sent.filterMap fun
    | .savePlayer playerSn player => some (playerSn, player)
    | _ => none

def written (p : Player Position Direction) : UInt64 × PlayerProto Position :=
  (p.playerSn, serializeToProto p)

/-- The proto that the player came with, overlaid with both slots of the last
map; the world the player is in is one of them, and a fresh component reads the
same slots again. -/
structure Written (resources : Resources Position) (p : Player Position Direction)
    (player : PlayerProto Position) : Prop where
  number : player.sn = p.playerSn
  base : player.name = p.proto.name ∧ player.base = p.proto.base ∧
    player.misc.onlineVersion = p.proto.misc.onlineVersion
  publicMap : player.misc.lastWorld = p.lastMap.1.publicMap
  dungeon : player.misc.lastDungeon = p.lastMap.1.dungeon.getD p.proto.misc.lastDungeon
  current : getCur p.lastMap.1 = some
    (if player.misc.lastWorld.worldId = p.lastMap.1.curWorldId then player.misc.lastWorld
      else player.misc.lastDungeon)
  again : ∀ curWorldId, ∃ parsed, awake resources curWorldId player = some parsed ∧
    parsed.publicMap = p.lastMap.1.publicMap ∧ parsed.dungeon = p.lastMap.1.dungeon

/-- A disconnect takes out the players it concerns, saves each of them and
leaves the others alone; for a process these are the players of its connection. -/
structure Parts (identify : NetIdentify) (before after : World Position Direction) : Prop where
  gone : ∀ p, p ∈ departed before (.networkDisconnect identify) ↔
    getPlayerBySn before.manager p.playerSn = some p ∧ leaves identify p
  stay : ∀ sn p, getPlayerBySn after.manager sn = some p ↔
    getPlayerBySn before.manager sn = some p ∧ ¬leaves identify p
  sent : after.sent = before.sent ++ (departed before (.networkDisconnect identify)).map savePlayer
  process : identify.tagKey .player = none → (identify.tagKey .app).isSome →
    Removes identify.socketKey.socket before after ∧
      ∀ sn p, getPlayerBySn after.manager sn = some p ↔
        getPlayerBySn before.manager sn = some p ∧ p.socketKey.socket ≠ identify.socketKey.socket

/-- A player was there before, from the same connection and with the same
proto, or this message brings both. -/
def Kept (before : World Position Direction) (message : Message Position Direction)
    (p : Player Position Direction) : Prop :=
  (message = .syncPlayer p.socketKey p.proto ∧ getPlayerBySn before.manager p.playerSn = none) ∨
    ∃ old, getPlayerBySn before.manager p.playerSn = some old ∧ p.socketKey = old.socketKey ∧
      p.proto = old.proto

structure Leaving (resources : Resources Position) (before : World Position Direction)
    (message : Message Position Direction) (after : World Position Direction) : Prop where
  saved : saves after.sent = saves before.sent ++ (departed before message).map written
  once : ((departed before message).map Player.playerSn).Nodup
  data : ∀ p ∈ departed before message, Written resources p (serializeToProto p)
  parts : ∀ identify, message = .networkDisconnect identify → Parts identify before after
  kept : ∀ sn p, getPlayerBySn after.manager sn = some p → Kept before message p

theorem mem_departed (w : World Position Direction) (identify : NetIdentify)
    (p : Player Position Direction) :
    p ∈ departed w (.networkDisconnect identify) ↔
      getPlayerBySn w.manager p.playerSn = some p ∧ leaves identify p := by
  rw [departed, List.mem_filter, mem_values]
  constructor
  · rintro ⟨⟨sn, held⟩, leaving⟩
    rw [w.manager.keyed sn p held]
    exact ⟨held, leaving⟩
  · rintro ⟨held, leaving⟩
    exact ⟨⟨p.playerSn, held⟩, leaving⟩

theorem players_nodup (m : PlayerManager Position Direction) :
    ((values m.players).map Player.playerSn).Nodup := by
  have distinct : (values m.players).Nodup := by
    apply values_nodup
    intro first second p here there
    rw [← m.keyed first p here, m.keyed second p there]
  apply List.Nodup.map_on _ distinct
  intro p listed q member same
  obtain ⟨first, here⟩ := (mem_values m.players p).mp listed
  obtain ⟨second, there⟩ := (mem_values m.players q).mp member
  rw [← m.keyed first p here, same, m.keyed second q there, there] at here
  exact (Option.some.inj here).symm

theorem departed_once (w : World Position Direction) (message : Message Position Direction) :
    ((departed w message).map Player.playerSn).Nodup := by
  unfold departed
  split
  · exact (players_nodup w.manager).sublist (List.filter_sublist.map _)
  · exact List.nodup_nil

theorem disconnect_sent (w : World Position Direction) (identify : NetIdentify) :
    (handleNetworkDisconnect w identify).sent =
      w.sent ++ (departed w (.networkDisconnect identify)).map savePlayer := by
  unfold handleNetworkDisconnect
  cases player : identify.tagKey .player with
  | some tagPlayer =>
      -- a player is stored under its own number, so that at most one has this number
      have members : ∀ p, p ∈ departed w (.networkDisconnect identify) ↔
          getPlayerBySn w.manager tagPlayer.keyInt64 = some p := by
        intro p
        rw [mem_departed]
        simp only [leaves, player, decide_eq_true_eq]
        constructor
        · rintro ⟨held, same⟩
          rw [← same]
          exact held
        · intro held
          have same := w.manager.keyed _ p held
          exact ⟨by rw [same]; exact held, same⟩
      dsimp only
      cases found : getPlayerBySn w.manager tagPlayer.keyInt64 with
      | none =>
          have nobody : departed w (.networkDisconnect identify) = [] := by
            apply List.eq_nil_iff_forall_not_mem.mpr
            intro p member
            rw [members, found] at member
            cases member
          simp [nobody]
      | some p =>
          have distinct := (departed_once w (.networkDisconnect identify)).of_map
          have alone : departed w (.networkDisconnect identify) = [p] := by
            apply List.perm_singleton.mp
            apply (List.perm_ext_iff_of_nodup distinct (List.nodup_singleton p)).mpr
            intro q
            rw [members, found, List.mem_singleton, Option.some.injEq, eq_comm]
          rw [alone]
          rfl
  | none =>
      cases app : identify.tagKey .app with
      | none => simp [departed, leaves, player, app]
      | some _ =>
          have chosen : leaves identify = fun p : Player Position Direction =>
              decide (p.socketKey.socket = identify.socketKey.socket) := by
            funext p
            simp [leaves, player, app]
          rw [departed, chosen]
          rfl

theorem disconnect_parts (w : World Position Direction) (identify : NetIdentify) :
    Parts identify w (handleNetworkDisconnect w identify) := by
  obtain ⟨manager, saved, same, stays⟩ := disconnect_effect w identify
  have stay : ∀ sn p, getPlayerBySn (handleNetworkDisconnect w identify).manager sn = some p ↔
      getPlayerBySn w.manager sn = some p ∧ ¬leaves identify p := by
    rw [same]
    exact stays
  refine ⟨mem_departed w identify, stay, disconnect_sent w identify, ?_⟩
  intro player app
  obtain ⟨tagApp, tagged⟩ := Option.isSome_iff_exists.mp app
  constructor
  · have process : handleNetworkDisconnect w identify =
        removeAllPlayers w identify.socketKey.socket := by
      simp [handleNetworkDisconnect, player, tagged]
    rw [process]
    exact removes_all_players w _
  · intro sn p
    rw [stay]
    simp [leaves, player, tagged]

/-! ### Nothing else is saved -/

@[simp] theorem saves_append (first second : List (Sent Position)) :
    saves (first ++ second) = saves first ++ saves second := List.filterMap_append ..

@[simp] theorem saves_packets (players : List (Player Position Direction)) (message : ToPlayer Position) :
    saves (players.map fun p => packetTo p message) = [] := by
  induction players with
  | nil => rfl
  | cons p rest ih => exact ih

@[simp] theorem saves_players (players : List (Player Position Direction)) :
    saves (players.map savePlayer) = players.map written := by
  induction players with
  | nil => rfl
  | cons p rest ih => exact congrArg (written p :: ·) ih

@[simp] theorem saves_broadcast (w : World Position Direction) (message : ToPlayer Position) :
    saves (broadcastPacket w message).sent = saves w.sent := by
  simp [broadcastPacket, send]

@[simp] theorem saves_broadcast_to (w : World Position Direction) (message : ToPlayer Position)
    (players : SnSet) : saves (broadcastPacketTo w message players).sent = saves w.sent := by
  simp [broadcastPacketTo, send]

theorem saves_tick (w : World Position Direction) : saves (syncAppearTimer w).sent = saves w.sent := by
  unfold syncAppearTimer
  split
  · rfl
  · dsimp only
    unfold broadcastRolesTo broadcastRoles
    repeat' split
    all_goals simp

theorem step_saved {resources : Resources Position} {motion : Motion Position Direction}
    {before after : World Position Direction} {message : Message Position Direction}
    (handled : handle resources motion before message = some after) :
    saves after.sent = saves before.sent ++ (departed before message).map written := by
  cases handle_cases handled with
  | disconnect identify => rw [disconnect_sent, saves_append, saves_players]
  | ignored message other =>
      cases message with
      | networkDisconnect identify => exact absurd rfl (other identify)
      | _ => simp [departed]
  | entered socketKey proto lastMap absent went =>
      have told := saves_packets [newPlayer before socketKey proto lastMap]
        (.enterWorld before.worldId (curPosition (newPlayer before socketKey proto lastMap).lastMap))
      simpa [departed, addNewPlayer, send] using told
  | requested identify p found =>
      have told := saves_packets [p] (.syncPlayer (CString.cStr p.account) (serializeToProto p))
      simpa [departed, handleRequestSyncPlayer, send] using told
  | removed identify p found => simp [departed]
  | sent identify positions pooled p found => simp [departed, handleMove]
  | gathered => simp [departed, syncWorldToGather, send, saves]
  | told => simp [departed, saves_tick]
  | moved timeElapsed p found => simp [departed]

/-! ### Who the players are -/

theorem step_kept {resources : Resources Position} {motion : Motion Position Direction}
    {before after : World Position Direction} {message : Message Position Direction} {sn : UInt64}
    {p : Player Position Direction} (taken : Step resources motion before message after)
    (held : getPlayerBySn after.manager sn = some p) : Kept before message p := by
  have stays : ∀ q, getPlayerBySn before.manager sn = some q → Kept before message q := by
    intro q there
    have key := before.manager.keyed sn q there
    exact Or.inr ⟨q, by rw [key, there], rfl, rfl⟩
  have managed := step_managed taken
  generalize after.manager = manager at managed held
  cases managed with
  | same => exact stays p held
  | left identify manager gone stay => exact stays p ((stay sn p).mp held).1
  | removed identify other gone =>
      rw [get_player_erase] at held
      split at held
      · cases held
      · exact stays p held
  | entered socketKey proto lastMap synced absent went =>
      rw [get_player_set] at held
      split at held
      · cases held
        exact Or.inl ⟨synced, absent⟩
      · exact stays p held
  | updated old changed found number socketKey proto place =>
      rw [get_player_set] at held
      split at held
      · cases held
        rw [← number] at found
        exact Or.inr ⟨old, found, socketKey, proto⟩
      · exact stays p held

def Numbered (w : World Position Direction) : Prop :=
  ∀ sn p, getPlayerBySn w.manager sn = some p → p.proto.sn = p.playerSn

theorem numbered_step {resources : Resources Position} {motion : Motion Position Direction}
    {before after : World Position Direction} {message : Message Position Direction}
    (numbered : Numbered before) (taken : Step resources motion before message after) :
    Numbered after := by
  intro sn p held
  have managed := step_managed taken
  generalize after.manager = manager at managed held
  cases managed with
  | same => exact numbered sn p held
  | left identify manager gone stay => exact numbered sn p ((stay sn p).mp held).1
  | removed identify other gone =>
      rw [get_player_erase] at held
      split at held
      · cases held
      · exact numbered sn p held
  | entered socketKey proto lastMap synced absent went =>
      rw [get_player_set] at held
      split at held
      · cases held
        rfl
      · exact numbered sn p held
  | updated old changed found number socketKey proto place =>
      rw [get_player_set] at held
      split at held
      · cases held
        rw [number, proto]
        exact numbered old.playerSn old found
      · exact numbered sn p held

theorem written_data {resources : Resources Position} {p : Player Position Direction}
    (sound : Sound resources p.lastMap.1 p.proto) (number : p.proto.sn = p.playerSn) :
    Written resources p (serializeToProto p) where
  number := number
  base := ⟨rfl, rfl, rfl⟩
  publicMap := rfl
  dungeon := rfl
  current := by
    have placed := p.lastMap.2
    unfold getCur at placed ⊢
    by_cases here : p.lastMap.1.publicMap.worldId = p.lastMap.1.curWorldId
    · rw [if_pos here]
      exact congrArg some (if_pos here).symm
    -- else the player is in the dungeon of its slot, which is written
    · rw [if_neg here] at placed ⊢
      obtain ⟨last, held⟩ := Option.isSome_iff_exists.mp placed
      have dungeon : (serializeToProto p).misc.lastDungeon = last := by
        unfold SpaceWorld.serializeToProto LastMap.serializeToProto
        rw [held]
        rfl
      rw [held, ← dungeon]
      exact congrArg some (if_neg here).symm
  again := by
    intro curWorldId
    exact LastMapCalls.saved_of_sound (s := ⟨p.lastMap.1, p.proto⟩) sound curWorldId

theorem step_leaving {resources : Resources Position} {motion : Motion Position Direction}
    {before after : World Position Direction} {message : Message Position Direction}
    (sound : AllSound resources before) (numbered : Numbered before)
    (taken : Step resources motion before message after) : Leaving resources before message after := by
  have handled := step_handled taken
  refine ⟨step_saved handled, departed_once before message, ?_, ?_, fun sn p => step_kept taken⟩
  · intro p member
    have held : getPlayerBySn before.manager p.playerSn = some p := by
      cases message with
      | networkDisconnect identify => exact ((mem_departed before identify p).mp member).1
      | _ => cases member
    exact written_data (sound _ p held) (numbered _ p held)
  · intro identify disconnect
    subst disconnect
    cases handled
    exact disconnect_parts before identify

def departures (resources : Resources Position) (motion : Motion Position Direction) :
    World Position Direction → List (Message Position Direction) → List (Player Position Direction)
  | _, [] => []
  | w, message :: rest =>
      match handle resources motion w message with
      | none => []
      | some after => departed w message ++ departures resources motion after rest

theorem run_saved {resources : Resources Position} {motion : Motion Position Direction}
    {trace : List (Message Position Direction)} {before after : World Position Direction}
    (run : Run (Step resources motion) before trace after) :
    saves after.sent =
      saves before.sent ++ (departures resources motion before trace).map written := by
  induction run with
  | refl => simp [departures]
  | next taken _ ih =>
      have handled := step_handled taken
      rw [ih, step_saved handled, departures, handled, List.map_append, List.append_assoc]

def Present (sn : UInt64) (w : World Position Direction) : Prop :=
  (getPlayerBySn w.manager sn).isSome

/-- A player came into a world that lacked it with a message of its connection,
and has been there ever since. -/
def Arrived (resources : Resources Position) (motion : Motion Position Direction)
    (start : World Position Direction) (trace : List (Message Position Direction))
    (w : World Position Direction) (p : Player Position Direction) : Prop :=
  ∃ front rest middle entered,
    trace = front ++ .syncPlayer p.socketKey p.proto :: rest ∧
      Run (Step resources motion) start front middle ∧
      getPlayerBySn middle.manager p.playerSn = none ∧
      Step resources motion middle (.syncPlayer p.socketKey p.proto) entered ∧
      Present p.playerSn entered ∧
      Run (Along (Step resources motion) (Present p.playerSn)) entered rest w

theorem stayed_or_arrived {resources : Resources Position} {motion : Motion Position Direction}
    {trace : List (Message Position Direction)} {before after : World Position Direction}
    {p : Player Position Direction} (run : Run (Step resources motion) before trace after)
    (held : getPlayerBySn after.manager p.playerSn = some p) :
    (∃ old, getPlayerBySn before.manager p.playerSn = some old ∧ p.socketKey = old.socketKey ∧
      p.proto = old.proto ∧ Run (Along (Step resources motion) (Present p.playerSn)) before trace after) ∨
      Arrived resources motion before trace after p := by
  -- the player of the last world is followed back to the step that brought it
  induction run with
  | refl => exact Or.inl ⟨p, held, rfl, rfl, Run.refl _⟩
  | @next before middle after message rest taken tail ih =>
      rcases ih held with ⟨old, there, socketKey, proto, along⟩ | arrived
      · have number := middle.manager.keyed _ old there
        have present : Present p.playerSn middle := by
          rw [Present, there]
          rfl
        rcases step_kept taken there with ⟨synced, absent⟩ | ⟨older, found, keptKey, keptProto⟩
        · right
          rw [← socketKey, ← proto] at synced
          rw [number] at absent
          subst synced
          exact ⟨[], rest, before, middle, rfl, Run.refl _, absent, taken, present, along⟩
        · left
          rw [number] at found
          exact ⟨older, found, socketKey.trans keptKey, proto.trans keptProto,
            Run.next ⟨taken, present⟩ along⟩
      · obtain ⟨front, later, start, entered, split, head, absent, synced, present, along⟩ := arrived
        right
        refine ⟨message :: front, later, start, entered, ?_, Run.next taken head, absent, synced,
          present, along⟩
        rw [split]
        rfl

/-- In every run of a world each disconnect saves once every player that it
takes out, with the data the player has at that moment; over the whole run
nobody else is saved, and each player in the world came over its connection. -/
theorem leaving_players_saved (resources : Resources Position) (motion : Motion Position Direction)
    (worldId : Int) (sn : UInt64) (trace : List (Message Position Direction))
    (w : World Position Direction) (run : Run (Step resources motion) (create worldId sn) trace w) :
    Run (Lawful (Step resources motion) (Leaving resources)) (create worldId sn) trace w ∧
      saves w.sent = (departures resources motion (create worldId sn) trace).map written ∧
      ∀ key p, getPlayerBySn w.manager key = some p →
        Arrived resources motion (create worldId sn) trace w p := by
  refine ⟨?_, run_saved run, ?_⟩
  · apply lawful_of_run (fun state => AllSound resources state ∧ Numbered state) _ _ run
    · constructor
      · intro key p held
        simp [create, noPlayers, getPlayerBySn] at held
      · intro key p held
        simp [create, noPlayers, getPlayerBySn] at held
    · intro before message after kept taken
      exact ⟨all_sound_step kept.1 taken, numbered_step kept.2 taken⟩
    · intro before message after kept taken
      exact step_leaving kept.1 kept.2 taken
  · intro key p held
    have number := w.manager.keyed key p held
    rcases stayed_or_arrived run (number ▸ held) with ⟨old, there, -⟩ | arrived
    · simp [create, noPlayers, getPlayerBySn] at there
    · exact arrived

def ofProcess (socket : Int) : NetIdentify := ⟨⟨socket, .tcpListen⟩, addTagInt clear .app 1⟩

/-- Of the players of two game processes only the one whose process is gone is
saved, with the number of the world it was in. -/
theorem lost_process_saved : ∃ w, Run (Lawful (Step WorldVisibility.town WorldVisibility.standing)
      (Leaving WorldVisibility.town)) (create 1 100)
      [.syncPlayer ⟨5, .tcpListen⟩ (WorldVisibility.inTown 7),
        .syncPlayer ⟨6, .tcpListen⟩ (WorldVisibility.inTown 8), .networkDisconnect (ofProcess 5)] w ∧
    saves w.sent = [(7, ⟨7, [], ⟨1, 1⟩, ⟨⟨1, 100, 0⟩, ⟨0, 0, 0⟩, 0⟩⟩)] := by
  obtain ⟨w, run, left⟩ : ∃ w, Run (Step WorldVisibility.town WorldVisibility.standing) (create 1 100)
      [.syncPlayer ⟨5, .tcpListen⟩ (WorldVisibility.inTown 7),
        .syncPlayer ⟨6, .tcpListen⟩ (WorldVisibility.inTown 8), .networkDisconnect (ofProcess 5)] w ∧
      (departures WorldVisibility.town WorldVisibility.standing (create 1 100)
        [.syncPlayer ⟨5, .tcpListen⟩ (WorldVisibility.inTown 7),
          .syncPlayer ⟨6, .tcpListen⟩ (WorldVisibility.inTown 8),
          .networkDisconnect (ofProcess 5)]).map written =
        [(7, ⟨7, [], ⟨1, 1⟩, ⟨⟨1, 100, 0⟩, ⟨0, 0, 0⟩, 0⟩⟩)] :=
    ⟨_, .next (.message _ _ _ rfl) (.next (.message _ _ _ rfl) (.next (.message _ _ _ rfl) (.refl _))), rfl⟩
  obtain ⟨lawful, saved, -⟩ := leaving_players_saved _ _ _ _ _ _ run
  exact ⟨w, lawful, saved.trans left⟩

end GameBook.LeavingPlayers
