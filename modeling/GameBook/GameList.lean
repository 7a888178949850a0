import GameBook.Account
import GameBook.LabelledRun

/-!
The game processes as appmgr knows them and as a login process knows them.
`AppSyncComponent` sends the list of its game applications every two seconds and
after a disconnect, `Account` builds its own map anew from each list. A list
without applications is not sent.
-/

namespace GameBook.GameList

open OrderedMap SocketObject AppKey LabelledRun SyncComponent Account

variable {Proto : Type}

def games (apps : Apps) (appId : Int) : Option Int32 :=
  (apps[appId]?.filter (hasType (bits .game))).map (·.online)

def toSync (info : AppInfo) : AppInfoSync := ⟨info.appId, info.appType, info.online⟩

def gameInfos (apps : Apps) : List AppInfoSync :=
  apps.toList.filterMap fun entry =>
    if hasType (bits .game) entry.2 then some (toSync entry.2) else none

/-- `announced` is what appmgr had at its last tick or disconnect, `handed` the
game processes the login process chose since it read its last list. -/
structure Lists (Proto : Type) where
  apps : Apps
  channel : List (List AppInfoSync)
  account : AccountState Proto
  announced : Apps
  handed : List Int

def start : Lists Proto := ⟨∅, [], create, ∅, []⟩

def syncGameInfoToLogin (s : Lists Proto) : Lists Proto :=
  { s with
    announced := s.apps
    channel := if (gameInfos s.apps).length > 0 then s.channel ++ [gameInfos s.apps] else s.channel }

def handleDisconnect (s : Lists Proto) (socketKey : SocketKey) : Lists Proto :=
  if !isTcp socketKey.netType then s
  else syncGameInfoToLogin { s with apps := dropSocket s.apps socketKey.socket }

/-- `GetOneApp(APP_LOGIN)` counts its choice as one more online. -/
def handleHttpRequestLogin (s : Lists Proto) : Lists Proto :=
  match getOneApp (bits .login) s.apps with
  | none => s
  | some (_, apps) => { s with apps := apps }

def gamesIn (messages : List (Sent Proto)) : List Int :=
  messages.filterMap fun
    | .gameTokenOk _ info _ => some info.appId
    | _ => none

def handedOut (s : AccountState Proto) (account token : Str) : List Int :=
  gamesIn ((handleTokenToRedisRs s account token).sent.drop s.sent.length)

/-- `HandleTokenToRedisRs`, with its choice on record. -/
def handToken (s : Lists Proto) (account token : Str) : Lists Proto :=
  { s with
    account := handleTokenToRedisRs s.account account token
    handed := s.handed ++ handedOut s.account account token }

def readList (configured : UInt64 → Int → Option CommonConfig) (s : Lists Proto) (infos : List AppInfoSync)
    (rest : List (List AppInfoSync)) : Lists Proto :=
  { s with
    channel := rest
    account := handleAppInfoListSync configured s.account infos
    handed := [] }

inductive Event where
  | sync (proto : AppInfoSync) (socket : Int)
  | httpLogin
  | tick
  | disconnect (socketKey : SocketKey)
  | deliver
  | token (account token : Str)
  | other

/-- The configuration is one file for all processes. `other` stands for the
handlers of `Account` that do not touch its applications. -/
def listStep (configured : UInt64 → Int → Option CommonConfig) (before : Lists Proto) (event : Event)
    (after : Lists Proto) : Prop :=
  match event with
  | .sync proto socket => after = { before with apps := parse configured before.apps proto socket }
  | .httpLogin => after = handleHttpRequestLogin before
  | .tick => after = syncGameInfoToLogin before
  | .disconnect socketKey => after = handleDisconnect before socketKey
  | .deliver =>
      ∃ infos rest, before.channel = infos :: rest ∧ after = readList configured before infos rest
  | .token account token => after = handToken before account token
  | .other => ∃ account : AccountState Proto, account.apps = before.account.apps ∧
      after = { before with account := account }

/-- The applications of the login process once it has read what is under way. -/
def settled (configured : UInt64 → Int → Option CommonConfig) (s : Lists Proto) : Apps :=
  (s.channel.foldl (handleAppInfoListSync configured) s.account).apps

def chosen (s : Lists Proto) (appId : Int) : Nat := if s.channel = [] then s.handed.count appId else 0

/-- With the messages processed the login process has the game applications of
the last tick or disconnect, each with its load and what was added since, and
hands out no other. -/
structure Follows (configured : UInt64 → Int → Option CommonConfig) (s : Lists Proto) : Prop where
  agrees : ∀ appId, games (settled configured s) appId =
    (games s.announced appId).map fun online => online + Int32.ofNat (chosen s appId)
  handsOut : s.channel = [] → ∀ account token, ∀ appId ∈ handedOut s.account account token,
    games s.announced appId ≠ none

/-- Neither on its way nor known: the login process has no game application. -/
def Silent (s : Lists Proto) : Prop :=
  s.channel = [] ∧ ∀ appId, games s.account.apps appId = none

def HasGame (apps : Apps) : Prop :=
  ∃ (appId : Int) (info : AppInfo), apps[appId]? = some info ∧ hasType (bits .game) info = true

def HasGameBeside (apps : Apps) (socket : Int) : Prop :=
  ∃ (appId : Int) (info : AppInfo), apps[appId]? = some info ∧ hasType (bits .game) info = true ∧
    ∀ entry, findIf (fun other => other.socket == socket) apps = some entry → appId ≠ entry.1

/-- Game applications are left when a list is due, or none was ever sent. -/
def GameLeft (s : Lists Proto) : Event → Prop
  | .tick => HasGame s.apps ∨ Silent s
  | .disconnect socketKey =>
      isTcp socketKey.netType = true → HasGameBeside s.apps socketKey.socket ∨ Silent s
  | _ => True

/-! ### The map built from a list -/

section Rebuilt

variable (configured : UInt64 → Int → Option CommonConfig)

/-- Keys are ids, and each entry has an endpoint in the configuration. -/
def Sound (apps : Apps) : Prop :=
  ∀ (appId : Int) (info : AppInfo), apps[appId]? = some info →
    info.appId = appId ∧ (configured info.appType appId).isSome

structure Listed (infos : List AppInfoSync) : Prop where
  filled : infos ≠ []
  distinct : (infos.map AppInfoSync.appId).Nodup
  known : ∀ info ∈ infos, (configured info.appType info.appId).isSome
  games : ∀ info ∈ infos, info.appType &&& bits .game ≠ 0

def rebuild (apps : Apps) (infos : List AppInfoSync) : Apps :=
  infos.foldl (fun apps info => parse configured apps info invalidSocket) apps

theorem parse_other (apps : Apps) (proto : AppInfoSync) (socket appId : Int)
    (other : appId ≠ proto.appId) : (parse configured apps proto socket)[appId]? = apps[appId]? := by
  unfold parse
  split
  · split
    · rfl
    · rw [get_insert, if_neg other]
  · rw [get_insert, if_neg other]

theorem parse_new (apps : Apps) (proto : AppInfoSync) (socket : Int)
    (absent : apps[proto.appId]? = none) (known : (configured proto.appType proto.appId).isSome) :
    ∃ ip port, (parse configured apps proto socket)[proto.appId]? =
      some ⟨proto.appType, proto.appId, ip, port, proto.online, socket⟩ := by
  obtain ⟨config, found⟩ := Option.isSome_iff_exists.mp known
  refine ⟨config.ip, config.port, ?_⟩
  simp only [parse, absent, found]
  rw [get_insert, if_pos rfl]

theorem rebuild_absent (infos : List AppInfoSync) (apps : Apps) (appId : Int)
    (absent : ∀ info ∈ infos, appId ≠ info.appId) :
    (rebuild configured apps infos)[appId]? = apps[appId]? := by
  induction infos generalizing apps with
  | nil => rfl
  | cons first rest ih =>
      have later := ih (parse configured apps first invalidSocket)
        (fun info member => absent info (List.mem_cons_of_mem _ member))
      exact later.trans (parse_other configured apps first _ appId (absent first List.mem_cons_self))

theorem rebuild_present (infos : List AppInfoSync) (apps : Apps)
    (fresh : ∀ info ∈ infos, apps[info.appId]? = none)
    (distinct : (infos.map AppInfoSync.appId).Nodup)
    (known : ∀ info ∈ infos, (configured info.appType info.appId).isSome)
    (info : AppInfoSync) (member : info ∈ infos) :
    ∃ ip port, (rebuild configured apps infos)[info.appId]? =
      some ⟨info.appType, info.appId, ip, port, info.online, invalidSocket⟩ := by
  induction infos generalizing apps with
  | nil => cases member
  | cons first rest ih =>
      rw [List.map_cons, List.nodup_cons] at distinct
      have apart : ∀ other ∈ rest, other.appId ≠ first.appId := by
        intro other inside same
        exact distinct.1 (same ▸ List.mem_map_of_mem inside)
      have step := parse_new configured apps first invalidSocket (fresh first List.mem_cons_self)
        (known first List.mem_cons_self)
      -- ids are distinct, so that no later entry touches the first
      rcases List.mem_cons.mp member with rfl | inside
      · have kept := rebuild_absent configured rest (parse configured apps info invalidSocket)
          info.appId (fun other there => (apart other there).symm)
        obtain ⟨ip, port, built⟩ := step
        exact ⟨ip, port, kept.trans built⟩
      · apply ih (parse configured apps first invalidSocket) _ distinct.2
          (fun other there => known other (List.mem_cons_of_mem _ there)) inside
        intro other there
        rw [parse_other configured apps first _ _ (apart other there)]
        exact fresh other (List.mem_cons_of_mem _ there)

theorem mem_game_infos {apps : Apps} {info : AppInfoSync} :
    info ∈ gameInfos apps ↔ ∃ (appId : Int) (held : AppInfo), apps[appId]? = some held ∧
      hasType (bits .game) held = true ∧ info = toSync held := by
  simp only [gameInfos, List.mem_filterMap, Prod.exists, Option.ite_none_right_eq_some,
    Option.some.injEq, Std.ExtTreeMap.mem_toList_iff_getElem?_eq_some]
  constructor
  · rintro ⟨appId, held, found, game, rfl⟩
    exact ⟨appId, held, found, game, rfl⟩
  · rintro ⟨appId, held, found, game, rfl⟩
    exact ⟨appId, held, found, game, rfl⟩

theorem has_game_iff (apps : Apps) : HasGame apps ↔ gameInfos apps ≠ [] := by
  constructor
  · rintro ⟨appId, info, held, game⟩
    exact List.ne_nil_of_mem (mem_game_infos.mpr ⟨appId, info, held, game, rfl⟩)
  · intro filled
    obtain ⟨info, member⟩ := List.exists_mem_of_ne_nil _ filled
    obtain ⟨appId, held, found, game, _⟩ := mem_game_infos.mp member
    exact ⟨appId, held, found, game⟩

variable {configured}

theorem listed_infos {apps : Apps} (sound : Sound configured apps) (filled : gameInfos apps ≠ []) :
    Listed configured (gameInfos apps) := by
  refine ⟨filled, ?_, ?_, ?_⟩
  · rw [List.nodup_iff_pairwise_ne, List.pairwise_map, gameInfos, List.pairwise_filterMap]
    refine List.Pairwise.imp_of_mem ?_ Std.ExtTreeMap.distinct_keys_toList
    intro left right leftMember rightMember distinct first one second two same
    have leftHeld := Std.ExtTreeMap.mem_toList_iff_getElem?_eq_some.mp leftMember
    have rightHeld := Std.ExtTreeMap.mem_toList_iff_getElem?_eq_some.mp rightMember
    simp only [Option.ite_none_right_eq_some, Option.some.injEq] at one two
    rw [← one.2, ← two.2] at same
    apply distinct
    rw [← (sound _ _ leftHeld).1, ← (sound _ _ rightHeld).1]
    exact Std.LawfulEqOrd.compare_eq_iff_eq.mpr same
  · intro info member
    obtain ⟨appId, held, found, _, rfl⟩ := mem_game_infos.mp member
    obtain ⟨own, known⟩ := sound appId held found
    rw [toSync, own]
    exact known
  · intro info member
    obtain ⟨appId, held, _, game, rfl⟩ := mem_game_infos.mp member
    simpa [hasType, toSync] using game

theorem games_rebuilt {apps : Apps} (sound : Sound configured apps) (filled : gameInfos apps ≠ [])
    (appId : Int) : games (rebuild configured ∅ (gameInfos apps)) appId = games apps appId := by
  have listed := listed_infos sound filled
  have none : ∀ info ∈ gameInfos apps, (∅ : Apps)[info.appId]? = Option.none := by
    intro info _
    exact Std.ExtTreeMap.getElem?_empty
  -- a game application is in the list that is sent; what is not one is in neither table
  by_cases game : ∃ info, apps[appId]? = some info ∧ hasType (bits .game) info = true
  · obtain ⟨info, held, isGame⟩ := game
    obtain ⟨own, _⟩ := sound appId info held
    have member : toSync info ∈ gameInfos apps := mem_game_infos.mpr ⟨appId, info, held, isGame, rfl⟩
    obtain ⟨ip, port, built⟩ := rebuild_present configured (gameInfos apps) ∅ none listed.distinct
      listed.known (toSync info) member
    have same : hasType (bits .game)
        ⟨info.appType, info.appId, ip, port, info.online, invalidSocket⟩ = true := isGame
    rw [toSync, own] at built
    rw [own] at same
    dsimp only at built
    rw [games, games, built, held, Option.filter_some, Option.filter_some, if_pos isGame,
      if_pos same]
    rfl
  · have absent : ∀ info ∈ gameInfos apps, appId ≠ info.appId := by
      intro info member same
      obtain ⟨other, held, found, isGame, rfl⟩ := mem_game_infos.mp member
      obtain ⟨own, _⟩ := sound other held found
      apply game
      rw [same, toSync, own]
      exact ⟨held, found, isGame⟩
    have gone := rebuild_absent configured (gameInfos apps) ∅ appId absent
    rw [Std.ExtTreeMap.getElem?_empty] at gone
    have nothing : apps[appId]?.filter (hasType (bits .game)) = Option.none := by
      cases held : apps[appId]? with
      | none => rfl
      | some info =>
          have notGame : ¬ hasType (bits .game) info = true := fun isGame => game ⟨info, held, isGame⟩
          rw [Option.filter_some, if_neg notGame]
    simp [games, gone, nothing]

theorem listed_known {infos : List AppInfoSync} (listed : Listed configured infos) :
    ∃ appId, games (rebuild configured ∅ infos) appId ≠ none := by
  obtain ⟨info, member⟩ := List.exists_mem_of_ne_nil _ listed.filled
  obtain ⟨ip, port, built⟩ := rebuild_present configured infos ∅
    (fun _ _ => Std.ExtTreeMap.getElem?_empty) listed.distinct listed.known info member
  have game := listed.games info member
  refine ⟨info.appId, ?_⟩
  simp [games, built, hasType, game]

end Rebuilt

/-! ### Steps -/

variable {configured : UInt64 → Int → Option CommonConfig}

theorem sound_insert {apps : Apps} (sound : Sound configured apps) (appId : Int) (info : AppInfo)
    (own : info.appId = appId) (known : (configured info.appType appId).isSome) :
    Sound configured (apps.insert appId info) := by
  intro other held found
  rw [get_insert] at found
  split at found
  · rename_i same
    cases found
    rw [same]
    exact ⟨own, known⟩
  · exact sound other held found

theorem sound_parse {apps : Apps} (sound : Sound configured apps) (proto : AppInfoSync)
    (socket : Int) : Sound configured (parse configured apps proto socket) := by
  unfold parse
  split
  · split
    · exact sound
    · rename_i config found
      exact sound_insert sound _ _ rfl (Option.isSome_of_eq_some found)
  · rename_i info found
    exact sound_insert sound _ _ (sound _ _ found).1 (sound _ _ found).2

theorem sound_drop {apps : Apps} (sound : Sound configured apps) (socket : Int) :
    Sound configured (dropSocket apps socket) := by
  unfold dropSocket
  split
  · exact sound
  · intro other held found
    rw [get_erase] at found
    split at found
    · cases found
    · exact sound other held found

theorem sound_get_one {apps after : Apps} {appType : UInt64} {info : AppInfo}
    (sound : Sound configured apps) (one : getOneApp appType apps = some (info, after)) :
    Sound configured after := by
  obtain ⟨appId, held, -, found, -, rfl, rfl⟩ := get_one_app_some one
  exact sound_insert sound appId _ (sound _ _ found).1 (sound _ _ found).2

def OnlyGames (apps : Apps) : Prop :=
  ∀ (appId : Int) (info : AppInfo), apps[appId]? = some info →
    info.appId = appId ∧ hasType (bits .game) info = true

theorem only_games_rebuilt {infos : List AppInfoSync} (listed : Listed configured infos) :
    OnlyGames (rebuild configured ∅ infos) := by
  intro appId info held
  have fresh : ∀ info ∈ infos, (∅ : Apps)[info.appId]? = none :=
    fun _ _ => Std.ExtTreeMap.getElem?_empty
  by_cases member : appId ∈ infos.map AppInfoSync.appId
  · obtain ⟨entry, inside, rfl⟩ := List.mem_map.mp member
    obtain ⟨ip, port, built⟩ :=
      rebuild_present configured infos ∅ fresh listed.distinct listed.known entry inside
    rw [built] at held
    cases held
    exact ⟨rfl, by simpa [hasType] using listed.games entry inside⟩
  · have gone := rebuild_absent configured infos ∅ appId
      (fun entry inside same => member (same ▸ List.mem_map_of_mem inside))
    rw [held, Std.ExtTreeMap.getElem?_empty] at gone
    cases gone

structure Inv (configured : UInt64 → Int → Option CommonConfig) (s : Lists Proto) : Prop where
  sound : Sound configured s.apps
  listed : ∀ infos ∈ s.channel, Listed configured infos
  account : OnlyGames s.account.apps

theorem settled_empty (s : Lists Proto) (empty : s.channel = []) :
    settled configured s = s.account.apps := by
  rw [settled, empty]
  rfl

theorem settled_last (s : Lists Proto) (front : List (List AppInfoSync)) (last : List AppInfoSync)
    (channel : s.channel = front ++ [last]) : settled configured s = rebuild configured ∅ last := by
  rw [settled, channel, List.foldl_append]
  rfl

theorem settled_congr (s other : Lists Proto) (channel : other.channel = s.channel)
    (apps : s.channel = [] → other.account.apps = s.account.apps) :
    settled configured other = settled configured s := by
  rcases List.eq_nil_or_concat' s.channel with empty | ⟨front, last, some⟩
  · rw [settled_empty s empty, settled_empty other (channel.trans empty), apps empty]
  · rw [settled_last s front last some, settled_last other front last (channel.trans some)]

theorem settled_silent_iff (s : Lists Proto) (inv : Inv configured s) :
    (∀ appId, games (settled configured s) appId = none) ↔ Silent s := by
  rcases List.eq_nil_or_concat' s.channel with empty | ⟨front, last, some⟩
  · rw [settled_empty s empty]
    exact ⟨fun none => ⟨empty, none⟩, fun silent => silent.2⟩
  · rw [settled_last s front last some]
    have member : last ∈ s.channel := by
      rw [some]
      exact List.mem_append_right _ List.mem_cons_self
    obtain ⟨appId, known⟩ := listed_known (inv.listed last member)
    constructor
    · intro none
      exact absurd (none appId) known
    · rintro ⟨empty, _⟩
      rw [empty] at some
      simp at some

theorem handed_out_cases (s : AccountState Proto) (account token : Str) :
    (handedOut s account token = [] ∧ (handleTokenToRedisRs s account token).apps = s.apps) ∨
      ∃ info apps, getOneApp (bits .game) s.apps = some (info, apps) ∧
        handedOut s account token = [info.appId] ∧
        (handleTokenToRedisRs s account token).apps = apps := by
  unfold handedOut handleTokenToRedisRs
  split
  · exact Or.inl ⟨by simp [gamesIn], rfl⟩
  · cases one : getOneApp (bits .game) s.apps with
    | none => exact Or.inl ⟨by simp [gamesIn, send], rfl⟩
    | some pair => exact Or.inr ⟨pair.1, pair.2, rfl, by simp [gamesIn, send], rfl⟩

theorem games_insert {apps : Apps} (appId other : Int) (info : AppInfo)
    (game : hasType (bits .game) info = true) :
    games (apps.insert appId info) other =
      if other = appId then some info.online else games apps other := by
  rw [games, get_insert]
  split
  · rw [Option.filter_some, if_pos game]
    rfl
  · rfl

theorem hands_out (s : Lists Proto) (inv : Inv configured s)
    (agrees : ∀ appId, games (settled configured s) appId =
      (games s.announced appId).map fun online => online + Int32.ofNat (chosen s appId)) :
    Follows configured s := by
  refine ⟨agrees, ?_⟩
  intro empty account token appId member unknown
  rcases handed_out_cases s.account account token with ⟨nothing, _⟩ | ⟨info, apps, one, handed, _⟩
  · rw [nothing] at member
    cases member
  · obtain ⟨key, held, -, found, -, rfl, -⟩ := get_one_app_some one
    obtain ⟨own, game⟩ := inv.account key held found
    rw [handed, List.mem_singleton] at member
    have here := agrees appId
    rw [settled_empty s empty, unknown, member] at here
    change games s.account.apps held.appId = none at here
    rw [own, games, found, Option.filter_some, if_pos game] at here
    cases here

theorem sync_decides (s : Lists Proto) (inv : Inv configured s) :
    Inv configured (syncGameInfoToLogin s) ∧
      ((HasGame s.apps ∨ Silent s) ↔ Follows configured (syncGameInfoToLogin s)) := by
  -- an empty list is not sent: then login keeps the games it was last told
  by_cases filled : gameInfos s.apps ≠ []
  · have channel : (syncGameInfoToLogin s).channel = s.channel ++ [gameInfos s.apps] :=
      if_pos (List.length_pos_iff.mpr filled)
    have kept : Inv configured (syncGameInfoToLogin s) := by
      refine ⟨inv.sound, ?_, inv.account⟩
      intro infos member
      rw [channel, List.mem_append, List.mem_singleton] at member
      rcases member with older | rfl
      · exact inv.listed infos older
      · exact listed_infos inv.sound filled
    refine ⟨kept, fun _ => ?_, fun _ => Or.inl ((has_game_iff s.apps).mpr filled)⟩
    apply hands_out _ kept
    intro appId
    have none : chosen (syncGameInfoToLogin s) appId = 0 := by
      rw [chosen, channel]
      simp
    rw [settled_last _ s.channel (gameInfos s.apps) channel, games_rebuilt inv.sound filled, none]
    simp [syncGameInfoToLogin]
  · have nothing : ¬ HasGame s.apps := fun game => filled ((has_game_iff s.apps).mp game)
    have channel : (syncGameInfoToLogin s).channel = s.channel := by
      apply if_neg
      rw [not_not.mp filled]
      exact Nat.lt_irrefl 0
    have kept : Inv configured (syncGameInfoToLogin s) :=
      ⟨inv.sound, channel ▸ inv.listed, inv.account⟩
    have gone : ∀ appId, games (syncGameInfoToLogin s).announced appId = none := by
      intro appId
      rw [games, Option.map_eq_none_iff, Option.filter_eq_none_iff]
      intro info held game
      exact nothing ⟨appId, info, held, game⟩
    have same : settled configured (syncGameInfoToLogin s) = settled configured s :=
      settled_congr s _ channel fun _ => rfl
    refine ⟨kept, ?_⟩
    rw [or_iff_right nothing, ← settled_silent_iff s inv]
    constructor
    · intro silent
      apply hands_out _ kept
      intro appId
      rw [same, silent, gone]
      rfl
    · intro follows appId
      have here := follows.agrees appId
      rw [same, gone] at here
      exact here

theorem has_game_drop_iff (apps : Apps) (socket : Int) :
    HasGame (dropSocket apps socket) ↔ HasGameBeside apps socket := by
  unfold dropSocket
  -- the first entry on the connection goes, whatever its type
  cases search : findIf (fun other => other.socket == socket) apps with
  | none =>
      constructor
      · rintro ⟨appId, info, held, game⟩
        refine ⟨appId, info, held, game, ?_⟩
        intro entry found
        rw [search] at found
        cases found
      · rintro ⟨appId, info, held, game, _⟩
        exact ⟨appId, info, held, game⟩
  | some entry =>
      have erased : ∀ other : Int, (apps.erase entry.1)[other]? =
          if other = entry.1 then none else apps[other]? := get_erase _ _
      constructor
      · rintro ⟨appId, info, held, game⟩
        dsimp only at held
        rw [erased] at held
        split at held
        · cases held
        · rename_i apart
          refine ⟨appId, info, held, game, ?_⟩
          intro other found
          rw [search] at found
          cases found
          exact apart
      · rintro ⟨appId, info, held, game, apart⟩
        refine ⟨appId, info, ?_, game⟩
        dsimp only
        rw [erased, if_neg (apart entry search)]
        exact held

theorem follows_congr {s other : Lists Proto} (follows : Follows configured s)
    (kept : Inv configured other) (announced : other.announced = s.announced)
    (channel : other.channel = s.channel) (handed : other.handed = s.handed)
    (apps : s.channel = [] → other.account.apps = s.account.apps) : Follows configured other := by
  apply hands_out other kept
  intro appId
  rw [settled_congr s other channel apps, announced, follows.agrees appId, chosen, chosen, channel,
    handed]

theorem chosen_empty {s : Lists Proto} (empty : s.channel = []) (appId : Int) :
    chosen s appId = s.handed.count appId :=
  if_pos empty

theorem chosen_waiting {s : Lists Proto} (waiting : s.channel ≠ []) (appId : Int) :
    chosen s appId = 0 :=
  if_neg waiting

theorem inv_token {s : Lists Proto} (inv : Inv configured s) (account token : Str) :
    Inv configured (handToken s account token) := by
  refine ⟨inv.sound, inv.listed, ?_⟩
  rcases handed_out_cases s.account account token with ⟨_, same⟩ | ⟨info, apps, one, _, same⟩
  · rw [handToken, same]
    exact inv.account
  · -- the entry chosen is counted up, under its own id
    obtain ⟨key, held, -, found, -, rfl, rfl⟩ := get_one_app_some one
    obtain ⟨own, game⟩ := inv.account key held found
    intro other info there
    rw [handToken, same, get_insert] at there
    split at there
    · rename_i here
      cases there
      rw [here]
      exact ⟨own, game⟩
    · exact inv.account other info there

theorem token_follows {s : Lists Proto} (inv : Inv configured s) (follows : Follows configured s)
    (account token : Str) (kept : Inv configured (handToken s account token)) :
    Follows configured (handToken s account token) := by
  apply hands_out _ kept
  intro appId
  have before := follows.agrees appId
  by_cases empty : s.channel = []
  · have still : (handToken s account token).channel = [] := empty
    rw [settled_empty s empty, chosen_empty empty] at before
    rw [settled_empty _ still, chosen_empty still]
    dsimp only [handToken]
    rcases handed_out_cases s.account account token with ⟨nothing, same⟩ |
      ⟨info, apps, one, handed, same⟩
    · rw [same, nothing, List.append_nil]
      exact before
    · obtain ⟨key, held, -, found, -, rfl, rfl⟩ := get_one_app_some one
      obtain ⟨own, game⟩ := inv.account key held found
      rw [same, handed, counted_app_id, own, List.count_append, games_insert key appId (counted held) game]
      split
      · rename_i here
        -- The process chosen: one more than before.
        rw [here, games, found, Option.filter_some, if_pos game] at before
        rw [here]
        cases known : games s.announced key with
        | none =>
            rw [known] at before
            cases before
        | some online =>
            rw [known] at before
            simp only [Option.map_some, Option.some.injEq] at before ⊢
            rw [counted_online, before, List.count_singleton_self, Int32.ofNat_add, Int32.add_assoc]
            rfl
      · rename_i other
        have apart : ¬ key = appId := fun same => other same.symm
        rw [before]
        simp [apart]
  · have still : (handToken s account token).channel ≠ [] := empty
    rw [chosen_waiting empty] at before
    rw [settled_congr s (handToken s account token) rfl (fun none => absurd none empty),
      chosen_waiting still]
    exact before

theorem inv_read {s : Lists Proto} {infos : List AppInfoSync} {rest : List (List AppInfoSync)}
    (inv : Inv configured s) (channel : s.channel = infos :: rest) :
    Inv configured (readList configured s infos rest) :=
  ⟨inv.sound, fun other member => inv.listed other (channel ▸ List.mem_cons_of_mem _ member),
    only_games_rebuilt (inv.listed infos (channel ▸ List.mem_cons_self))⟩

/-- Reading a list changes nothing of what the login process ends with. -/
theorem read_follows {s : Lists Proto} {infos : List AppInfoSync} {rest : List (List AppInfoSync)}
    (inv : Inv configured s) (follows : Follows configured s) (channel : s.channel = infos :: rest) :
    Follows configured (readList configured s infos rest) := by
  apply hands_out _ (inv_read inv channel)
  intro appId
  have same : settled configured (readList configured s infos rest) = settled configured s := by
    rw [settled, settled, channel]
    rfl
  have waiting : s.channel ≠ [] := by
    rw [channel]
    exact List.cons_ne_nil _ _
  -- tokens handed out before a list is read count for nothing in the rebuilt table
  have none : chosen (readList configured s infos rest) appId = chosen s appId := by
    rw [chosen_waiting waiting]
    unfold chosen
    split <;> rfl
  rw [same, none]
  exact follows.agrees appId

theorem list_step (before : Lists Proto) (event : Event) (after : Lists Proto)
    (inv : Inv configured before) (follows : Follows configured before)
    (taken : listStep configured before event after) :
    Inv configured after ∧ (GameLeft before event ↔ Follows configured after) := by
  cases event with
  | sync proto socket =>
      rw [listStep] at taken
      subst taken
      have kept : Inv configured { before with apps := parse configured before.apps proto socket } :=
        ⟨sound_parse inv.sound proto socket, inv.listed, inv.account⟩
      exact ⟨kept, fun _ => follows_congr follows kept rfl rfl rfl fun _ => rfl, fun _ => trivial⟩
  | httpLogin =>
      rw [listStep, handleHttpRequestLogin] at taken
      split at taken
      · rw [taken]
        exact ⟨inv, fun _ => follows, fun _ => trivial⟩
      · rename_i info apps one
        subst taken
        have kept : Inv configured { before with apps := apps } :=
          ⟨sound_get_one inv.sound one, inv.listed, inv.account⟩
        exact ⟨kept, fun _ => follows_congr follows kept rfl rfl rfl fun _ => rfl, fun _ => trivial⟩
  | tick =>
      rw [listStep] at taken
      rw [taken]
      exact sync_decides before inv
  | disconnect socketKey =>
      rw [listStep, handleDisconnect] at taken
      by_cases overTcp : isTcp socketKey.netType = true
      · rw [overTcp, Bool.not_true, if_neg (by decide)] at taken
        have dropped : Inv configured
            { before with apps := dropSocket before.apps socketKey.socket } :=
          ⟨sound_drop inv.sound _, inv.listed, inv.account⟩
        obtain ⟨kept, decided⟩ := sync_decides _ dropped
        rw [taken, GameLeft, ← has_game_drop_iff]
        exact ⟨kept, fun left => decided.mp (left overTcp), fun agrees _ => decided.mpr agrees⟩
      -- a connection that is not TCP is not looked at
      · have other : isTcp socketKey.netType = false := by simpa using overTcp
        rw [other, Bool.not_false, if_pos rfl] at taken
        rw [taken]
        exact ⟨inv, fun _ => follows, fun _ tcp => absurd tcp overTcp⟩
  | deliver =>
      obtain ⟨infos, rest, channel, rfl⟩ := taken
      exact ⟨inv_read inv channel, fun _ => read_follows inv follows channel, fun _ => trivial⟩
  | token account token =>
      rw [listStep] at taken
      subst taken
      have kept := inv_token inv account token
      exact ⟨kept, fun _ => token_follows inv follows account token kept, fun _ => trivial⟩
  | other =>
      obtain ⟨account, same, rfl⟩ := taken
      have kept : Inv configured { before with account := account } := by
        refine ⟨inv.sound, inv.listed, ?_⟩
        dsimp only
        rw [same]
        exact inv.account
      exact ⟨kept, fun _ => follows_congr follows kept rfl rfl rfl fun _ => same, fun _ => trivial⟩

theorem inv_start : Inv configured (start : Lists Proto) := by
  refine ⟨?_, ?_, ?_⟩
  · intro appId info held
    simp [start] at held
  · intro infos member
    cases member
  · intro appId info held
    simp [start, create] at held

/-- The login process follows appmgr along exactly the runs in which no list
falls due without game applications after one was sent. -/
theorem game_list_follows_iff (configured : UInt64 → Int → Option CommonConfig) (trace : List Event)
    (s : Lists Proto) :
    Run (Guarded (listStep configured) GameLeft) start trace s ↔
      Run (Along (listStep configured) (Follows configured)) start trace s := by
  apply guarded_iff_decided (Inv configured)
  · intro before event after inv follows taken
    exact list_step before event after inv follows taken
  · exact inv_start
  · apply hands_out _ inv_start
    intro appId
    simp [settled, start, create, games]

/-- Game 201 is announced and goes; the login process keeps it. -/
theorem last_game_stays :
    ¬ ∀ (configured : UInt64 → Int → Option CommonConfig) (trace : List Event) (s : Lists Unit),
      Run (listStep configured) start trace s → Follows configured s := by
  intro law
  have run : ∃ s : Lists Unit, Run (listStep fun _ _ => some ⟨[], 7801⟩) start
      [.sync ⟨201, bits .game, 0⟩ 5, .tick, .deliver, .disconnect ⟨5, .tcpListen⟩] s ∧
        s.channel = [] ∧ games s.account.apps 201 = some 0 ∧ games s.announced 201 = none :=
    ⟨_, .next rfl <| .next rfl <| .next ⟨_, [], rfl, rfl⟩ <| .next rfl (.refl _), rfl,
      by decide, by decide⟩
  obtain ⟨s, taken, empty, known, gone⟩ := run
  have agrees := (law _ _ s taken).agrees 201
  rw [settled_empty s empty, known, gone] at agrees
  cases agrees

end GameBook.GameList
