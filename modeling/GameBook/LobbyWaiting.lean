import GameBook.Lobby

/-!
Who waits in a lobby for a public world, and what the lobby has asked of
appmgr: each handler adds to the waiting players of a world only while the
locator does not know it, and the first to wait sends the request.
-/

namespace GameBook.LobbyWaiting

open OrderedMap SocketObject AppKey PlayerCollector Lobby

def Waiting (s : LobbyState) (worldId : Int) : Prop :=
  ∃ players, s.waitingForWorld[worldId]? = some players ∧ players.isEmpty = false

def requestsOf (messages : List Sent) : List Int :=
  messages.filterMap fun
    | .requestWorld worldId => some worldId
    | _ => none

def newRequests (before after : LobbyState) : List Int :=
  requestsOf (after.sent.drop before.sent.length)

/-- What a handler other than the one of the broadcast does to the waiting
players: whoever is new has a request on its way and no world to go to. -/
structure Awaits (locator : Locator) (before after : LobbyState) : Prop where
  sent : ∃ new, after.sent = before.sent ++ new ∧
    ∀ worldId, Waiting after worldId → Waiting before worldId ∨ worldId ∈ requestsOf new
  absent : ∀ worldId, Waiting after worldId →
    Waiting before worldId ∨ locator.getWorldSnById worldId = invalidId

variable {locator : Locator}

theorem requests_append (first second : List Sent) :
    requestsOf (first ++ second) = requestsOf first ++ requestsOf second := by
  simp [requestsOf]

theorem new_requests_appended (before after : LobbyState) (new : List Sent)
    (appended : after.sent = before.sent ++ new) : newRequests before after = requestsOf new := by
  rw [newRequests, appended, List.drop_left]

theorem awaits_of_same (before after : LobbyState)
    (same : after.waitingForWorld = before.waitingForWorld)
    (appended : ∃ new, after.sent = before.sent ++ new) : Awaits locator before after := by
  obtain ⟨new, appended⟩ := appended
  have still : ∀ worldId, Waiting after worldId → Waiting before worldId := by
    intro worldId waiting
    rwa [Waiting, same] at waiting
  constructor
  · exact ⟨new, appended, fun worldId waiting => Or.inl (still worldId waiting)⟩
  · exact fun worldId waiting => Or.inl (still worldId waiting)

theorem awaits_refl (s : LobbyState) : Awaits locator s s :=
  awaits_of_same s s rfl ⟨[], by simp⟩

theorem awaits_send (s : LobbyState) (message : Sent) : Awaits locator s (send s message) :=
  awaits_of_same s _ rfl ⟨[message], rfl⟩

theorem awaits_trans {first second third : LobbyState} (one : Awaits locator first second)
    (two : Awaits locator second third) : Awaits locator first third := by
  constructor
  · obtain ⟨early, sentEarly, earlier⟩ := one.sent
    obtain ⟨late, sentLate, later⟩ := two.sent
    refine ⟨early ++ late, by rw [sentLate, sentEarly, List.append_assoc], ?_⟩
    intro worldId waiting
    rw [requests_append, List.mem_append]
    rcases later worldId waiting with was | asked
    · rcases earlier worldId was with before | asked
      · exact Or.inl before
      · exact Or.inr (Or.inl asked)
    · exact Or.inr (Or.inr asked)
  · intro worldId waiting
    rcases two.absent worldId waiting with was | none
    · exact one.absent worldId was
    · exact Or.inr none

/-- The only place where players begin to wait for a public world. -/
theorem awaits_enter_public (s after : LobbyState) (player : LobbyPlayer)
    (done : enterPublicWorld locator s player = some after) : Awaits locator s after := by
  unfold enterPublicWorld at done
  split at done
  · cases done
  · rename_i lastMap _
    dsimp only at done
    split at done
    · cases done
      exact awaits_send s _
    · rename_i unknown
      have invalid : locator.getWorldSnById lastMap.publicMap.worldId = invalidId := not_not.mp unknown
      cases done
      have others : ∀ (asked : LobbyState) (players : SnSet) (worldId : Int),
          asked.waitingForWorld = s.waitingForWorld → worldId ≠ lastMap.publicMap.worldId →
          Waiting { asked with
            waitingForWorld := asked.waitingForWorld.insert lastMap.publicMap.worldId players } worldId →
          Waiting s worldId := by
        intro asked players worldId same differs waiting
        obtain ⟨held, entry, some⟩ := waiting
        dsimp only at entry
        rw [get_insert, if_neg differs, same] at entry
        exact ⟨held, entry, some⟩
      by_cases first : (s.waitingForWorld[lastMap.publicMap.worldId]?.getD ∅).isEmpty = true
      · rw [if_pos first]
        constructor
        · refine ⟨[.requestWorld lastMap.publicMap.worldId], rfl, ?_⟩
          intro worldId waiting
          by_cases same : worldId = lastMap.publicMap.worldId
          · exact Or.inr (by simp [requestsOf, same])
          · exact Or.inl (others _ _ worldId rfl same waiting)
        · intro worldId waiting
          by_cases same : worldId = lastMap.publicMap.worldId
          · exact Or.inr (same ▸ invalid)
          · exact Or.inl (others _ _ worldId rfl same waiting)
      · rw [if_neg first]
        -- Somebody waits already, so the request is older than this handler.
        have already : Waiting s lastMap.publicMap.worldId := by
          cases entry : s.waitingForWorld[lastMap.publicMap.worldId]? with
          | none => simp [entry] at first
          | some players => exact ⟨players, entry, by simpa [entry] using first⟩
        constructor
        · refine ⟨[], by simp, ?_⟩
          intro worldId waiting
          by_cases same : worldId = lastMap.publicMap.worldId
          · exact Or.inl (same ▸ already)
          · exact Or.inl (others _ _ worldId rfl same waiting)
        · intro worldId waiting
          by_cases same : worldId = lastMap.publicMap.worldId
          · exact Or.inr (same ▸ invalid)
          · exact Or.inl (others _ _ worldId rfl same waiting)

theorem awaits_enter_dungeon (s : LobbyState) (player : LobbyPlayer) (worldSn : UInt64) :
    Awaits locator s (enterDungeon locator s player worldSn) := by
  unfold enterDungeon
  split
  · exact awaits_send s _
  · by_cases first : (s.waitingForDungeon[worldSn]?.getD ∅).isEmpty = true
    · simp only [first, if_true]
      exact awaits_of_same s _ rfl ⟨_, rfl⟩
    · simp only [first]
      exact awaits_of_same s _ rfl ⟨[], by simp⟩

theorem awaits_enter_each (players : List UInt64) (s after : LobbyState)
    (done : enterEach locator players s = some after) : Awaits locator s after := by
  induction players generalizing s with
  | nil =>
      cases done
      exact awaits_refl after
  | cons sn rest ih =>
      unfold enterEach at done
      split at done
      · exact ih s done
      · obtain ⟨entered, one, others⟩ := Option.bind_eq_some_iff.mp done
        exact awaits_trans (awaits_enter_public s entered _ one) (ih entered others)

theorem awaits_remove (s : LobbyState) (socket : Int) : Awaits locator s (removeBySocket s socket) := by
  unfold removeBySocket
  split
  · exact awaits_refl s
  · exact awaits_of_same s _ rfl ⟨_, rfl⟩

theorem awaits_login (s : LobbyState) (identify : NetIdentify) (account token : Str) :
    Awaits locator s (handleLoginByToken s identify account token) := by
  rcases login_cases s identify account token with ⟨busy, -, done⟩ | ⟨player, added, -, done⟩
  · rw [done]
    exact awaits_send s _
  · rw [done]
    exact awaits_of_same s _ rfl
      ⟨[.listenKey player.socketKey player.account, .gameTokenToRedis (CString.cStr player.account)],
        by simp [send]⟩

theorem awaits_token_rs (s : LobbyState) (account token : Str) (playerSn : UInt64) :
    Awaits locator s (handleGameTokenToRedisRs s account token playerSn) := by
  rcases token_rs_cases s account token playerSn with ⟨-, done⟩ | ⟨player, -, done⟩
  · rw [done]
    exact awaits_of_same s _ rfl ⟨[], by simp⟩
  · rw [done]
    exact awaits_of_same s _ rfl ⟨_, rfl⟩

theorem awaits_query_player (resources : Resources) (s after : LobbyState) (account : Str)
    (proto : PlayerProto)
    (done : handleQueryPlayerRs resources locator s account proto = some after) :
    Awaits locator s after := by
  unfold handleQueryPlayerRs at done
  split at done
  · cases done
    exact awaits_of_same s _ rfl ⟨[], by simp⟩
  · split at done
    · cases done
    · rename_i player collector _ _ _
      have parsed : ∀ held, Awaits locator s
          (send { s with collector := held } (.syncPlayer player proto)) := by
        intro held
        exact awaits_of_same s _ rfl ⟨_, rfl⟩
      dsimp only at done
      split at done
      · cases done
        exact awaits_trans (parsed _) (awaits_enter_dungeon _ _ _)
      · exact awaits_trans (parsed _) (awaits_enter_public _ after _ done)

theorem awaits_query_world (s after : LobbyState) (worldSn : UInt64) (ok : Bool)
    (done : handleQueryWorldRs locator s worldSn ok = some after) : Awaits locator s after := by
  unfold handleQueryWorldRs at done
  split at done
  · cases done
    exact awaits_refl s
  · split at done
    · cases done
      exact awaits_refl s
    · obtain ⟨entered, each, rfl⟩ := Option.map_eq_some_iff.mp done
      exact awaits_trans (awaits_enter_each _ s entered each)
        (awaits_of_same entered _ rfl ⟨[], by simp⟩)

/-- A message of a lobby that is not the broadcast of a proxy, with what its
locator answers. -/
def ReadsLocator (locator : Locator) : Event → Prop
  | .queryPlayerRs own _ _ => own = locator
  | .queryWorldRs own _ _ => own = locator
  | .broadcast _ _ => False
  | _ => True

theorem awaits_step (resources : Resources) (before after : LobbyState) (event : Event)
    (reads : ReadsLocator locator event) (taken : lobbyStep resources before event after) :
    Awaits locator before after := by
  cases event with
  | login identify account token =>
      rw [lobbyStep] at taken
      rw [taken]
      exact awaits_login before identify account token
  | queryPlayerRs own account proto =>
      cases reads
      exact awaits_query_player resources before after account proto taken
  | queryWorldRs own worldSn ok =>
      cases reads
      exact awaits_query_world before after worldSn ok taken
  | broadcast worldId worldSn => cases reads
  | teleportAfter identify =>
      obtain ⟨player, -, rfl⟩ := taken
      exact awaits_remove before _
  | disconnect identify =>
      rw [lobbyStep] at taken
      rw [taken, handleNetworkDisconnect]
      split
      · exact awaits_refl before
      · exact awaits_remove before _

theorem teleport_each_waiting (targetWorldSn : UInt64) (players : List UInt64) (s : LobbyState) :
    (teleportEach targetWorldSn players s).waitingForWorld = s.waitingForWorld := by
  induction players generalizing s with
  | nil => rfl
  | cons sn rest ih =>
      unfold teleportEach
      split
      · exact ih s
      · rw [ih]
        rfl

theorem waiting_broadcast (resources : Resources) (s : LobbyState) (worldId other : Int)
    (worldSn : UInt64) (isPublic : resources.world worldId = some .publicWorld) :
    Waiting (handleBroadcastCreateWorldProxy resources s worldId worldSn) other ↔
      Waiting s other ∧ other ≠ worldId := by
  unfold handleBroadcastCreateWorldProxy
  rw [isPublic]
  cases entry : s.waitingForWorld[worldId]? with
  | none =>
      dsimp only
      constructor
      · rintro ⟨players, held, some⟩
        refine ⟨⟨players, held, some⟩, ?_⟩
        rintro rfl
        rw [entry] at held
        cases held
      · exact And.left
  | some players =>
      simp only [Waiting]
      rw [teleport_each_waiting, get_erase]
      by_cases same : other = worldId
      · simp [same]
      · simp [same]

end GameBook.LobbyWaiting
