import GameBook.Account
import GameBook.LabelledRun

/-!
A login process with the messages it has under way: to redis, to the verifier
over http and to the database. Each session begun has a number, its life; a
message under way carries the life of the session it was sent for, which the
messages of the source do not.
-/

namespace GameBook.LoginVerification

open OrderedMap SocketObject CString PlayerCollector SyncComponent Account LabelledRun

structure HttpRequest where
  http : SocketKey
  account : Str
  password : Str
  life : Nat
  deriving DecidableEq

structure Pending where
  account : Str
  life : Nat
  deriving DecidableEq

structure Service (Proto : Type) where
  account : AccountState Proto
  births : Nat
  life : Int → Nat
  verified : List Nat
  listed : List Nat
  asked : List Str
  dials : List Str
  requests : List HttpRequest
  queries : List Pending
  tokens : List Pending
  served : List Nat

variable {Proto : Type}

def start : Service Proto := ⟨create, 0, fun _ => 0, [], [], [], [], [], [], [], []⟩

def newMessages (before after : AccountState Proto) : List (Sent Proto) :=
  after.sent.drop before.sent.length

def onlineQueries (messages : List (Sent Proto)) : List Str :=
  messages.filterMap fun
    | .queryOnline account => some account
    | _ => none

def connects (messages : List (Sent Proto)) : List Str :=
  messages.filterMap fun
    | .createConnect account => some account
    | _ => none

def httpRequests (life : Nat) (messages : List (Sent Proto)) : List HttpRequest :=
  messages.filterMap fun
    | .httpRequest http account password => some ⟨http, account, password, life⟩
    | _ => none

def listQueries (life : Nat) (messages : List (Sent Proto)) : List Pending :=
  messages.filterMap fun
    | .queryPlayerList account => some ⟨account, life⟩
    | _ => none

def tokenQueries (life : Nat) (messages : List (Sent Proto)) : List Pending :=
  messages.filterMap fun
    | .loginTokenToRedis account _ => some ⟨account, life⟩
    | _ => none

def listings (life : Nat) (messages : List (Sent Proto)) : List Nat :=
  messages.filterMap fun
    | .playerList _ _ => some life
    | _ => none

/-- The messages that need a verified session: a token for the client, a
creation in the database. -/
def servings (life : Nat) (messages : List (Sent Proto)) : List Nat :=
  messages.filterMap fun
    | .gameTokenOk _ _ _ => some life
    | .createPlayer _ _ _ => some life
    | _ => none

def record (before : Service Proto) (life : Nat) (account : AccountState Proto) : Service Proto :=
  { before with
    account := account
    asked := before.asked ++ onlineQueries (newMessages before.account account)
    dials := before.dials ++ connects (newMessages before.account account)
    requests := before.requests ++ httpRequests life (newMessages before.account account)
    queries := before.queries ++ listQueries life (newMessages before.account account)
    tokens := before.tokens ++ tokenQueries life (newMessages before.account account)
    listed := before.listed ++ listings life (newMessages before.account account)
    served := before.served ++ servings life (newMessages before.account account) }

def bySocket (s : Service Proto) (socket : Int) : Option (Session Proto) :=
  getPlayerBySocket s.account.collector socket

def byAccount (s : Service Proto) (account : Str) : Option (Session Proto) :=
  (getPlayerByAccount s.account.collector account).1

def lifeOf (s : Service Proto) (session : Option (Session Proto)) : Nat :=
  match session with
  | some player => s.life player.socketKey.socket
  | none => 0

/-- The lives of the sessions whose own account and password a request carries. -/
def carriers (s : Service Proto) (request : HttpRequest) : List Nat :=
  (s.account.collector.players.toList.filter fun entry =>
    entry.2.account = request.account ∧ entry.2.components.password = request.password).map
    fun entry => s.life entry.1

/-- A session begins where the socket has none. -/
def begin (s : Service Proto) (socket : Int) : Service Proto :=
  { s with
    births := s.births + 1
    life := fun other =>
      if other = socket ∧ (bySocket s socket).isNone then s.births else s.life other }

def answersZero (status : Int) (body : Option ReturnCode) : Bool :=
  status = 200 && body = some (.int 0)

inductive Event (Proto : Type) where
  | accountCheck (identify : NetIdentify) (account password : Str)
  | onlineRs (account : Str) (offline : Bool)
  | httpConnected (socket : Int) (account : Str)
  | httpResponse (request : HttpRequest) (status : Int) (body : Option ReturnCode)
  | playerListRs (pending : Pending) (players : List (UInt64 × Proto))
  | createPlayer (identify : NetIdentify) (create : CreatePlayer) (playerSn : UInt64)
  | createPlayerRs (identify : NetIdentify) (code : Int)
  | selectPlayer (identify : NetIdentify) (playerSn : UInt64)
  | tokenRs (pending : Pending) (token : Str)
  | appInfoListSync (infos : List AppInfoSync)
  | disconnect (identify : NetIdentify)

/-- The http connections carry the account they were made for as their tag. -/
def httpIdentify (http : SocketKey) (account : Str) : NetIdentify :=
  ⟨http, addTagStr clear .account account⟩

/-- One message handled to its end; what is under way comes in any order. -/
def serviceStep (configured : UInt64 → Int → Option CommonConfig) (rolesMap : Option Int) (before : Service Proto)
    (event : Event Proto) (after : Service Proto) : Prop :=
  match event with
  | .accountCheck identify account password =>
      after = record (begin before identify.socketKey.socket) before.births
        (handleAccountCheck before.account identify account password)
  | .onlineRs account offline =>
      account ∈ before.asked ∧
        after = record { before with asked := before.asked.erase account }
          (lifeOf before (byAccount before account))
          (handleAccountQueryOnlineToRedisRs before.account account offline)
  | .httpConnected socket account =>
      account ∈ before.dials ∧
        after = record { before with dials := before.dials.erase account }
          (lifeOf before (byAccount before account))
          (handleNetworkConnected before.account (httpIdentify ⟨socket, .httpConnector⟩ account))
  | .httpResponse request status body =>
      request ∈ before.requests ∧
        after = record { before with
            requests := before.requests.erase request
            verified := before.verified ++
              if answersZero status body then carriers before request else [] }
          (lifeOf before (byAccount before request.account))
          (handleHttpOuterResponse rolesMap before.account
            (httpIdentify request.http request.account) status body)
  | .playerListRs pending players =>
      pending ∈ before.queries ∧
        after = record { before with queries := before.queries.erase pending }
          (lifeOf before (byAccount before pending.account))
          (handleQueryPlayerListRs before.account pending.account players)
  | .createPlayer identify create playerSn =>
      after = record before (lifeOf before (bySocket before identify.socketKey.socket))
        (handleCreatePlayer before.account identify.socketKey create playerSn)
  | .createPlayerRs identify code =>
      after = record before (lifeOf before (bySocket before identify.socketKey.socket))
        (handleCreatePlayerRs before.account identify.socketKey code)
  | .selectPlayer identify playerSn =>
      after = record before (lifeOf before (bySocket before identify.socketKey.socket))
        (handleSelectPlayer before.account identify.socketKey playerSn)
  | .tokenRs pending token =>
      pending ∈ before.tokens ∧
        after = record { before with tokens := before.tokens.erase pending }
          (lifeOf before (byAccount before pending.account))
          (handleTokenToRedisRs before.account pending.account token)
  | .appInfoListSync infos =>
      after = record before 0 (handleAppInfoListSync configured before.account infos)
  | .disconnect identify =>
      after = record before 0 (handleNetworkDisconnect before.account identify.socketKey)

/-- Every session that got a token or a creation had its own account and
password answered with returncode 0. -/
def Authenticated (s : Service Proto) : Prop := ∀ life ∈ s.served, life ∈ s.verified

/-- A player is created only for a session that was sent its player list; a
reply finds, under its account, no session but the one it was asked for; and
the verifier's returncode is a number. -/
def Correlated (before : Service Proto) : Event Proto → Prop
  | .createPlayer identify _ _ =>
      ∀ player, bySocket before identify.socketKey.socket = some player →
        before.life player.socketKey.socket ∈ before.listed
  | .httpResponse request status body =>
      responseCode status body = .ok → answersZero status body = true ∧
        ∀ player, byAccount before request.account = some player →
          before.life player.socketKey.socket = request.life
  | .playerListRs pending _ =>
      ∀ player, byAccount before pending.account = some player →
        before.life player.socketKey.socket = pending.life
  | .tokenRs pending _ =>
      ∀ player, byAccount before pending.account = some player →
        before.life player.socketKey.socket = pending.life
  | _ => True

/-! What a handler leaves of the sessions. -/

/-- No session begins, sessions keep account and password, and only those
named by `fills` get a player list. -/
structure Continues (fills : Int → Prop) (before after : AccountState Proto) : Prop where
  held : AccountsHeld before.collector → AccountsHeld after.collector
  sessions : ∀ socket player, getPlayerBySocket after.collector socket = some player →
    ∃ older, getPlayerBySocket before.collector socket = some older ∧
      older.account = player.account ∧ older.components.password = player.components.password ∧
      (player.components.protoList.isSome → older.components.protoList.isSome ∨ fills socket)

theorem continues_of_players (fills : Int → Prop) (before after : AccountState Proto)
    (held : AccountsHeld before.collector → AccountsHeld after.collector)
    (same : after.collector.players = before.collector.players) : Continues fills before after := by
  refine ⟨held, ?_⟩
  intro socket player there
  rw [getPlayerBySocket, same] at there
  exact ⟨player, there, rfl, rfl, Or.inl⟩

theorem continues_same (fills : Int → Prop) (before after : AccountState Proto)
    (same : after.collector = before.collector) : Continues fills before after :=
  continues_of_players fills before after (fun held => by rw [same]; exact held) (by rw [same])

theorem continues_set (fills : Int → Prop) (before after : AccountState Proto)
    (found stored : Session Proto) (set : after.collector = setPlayer before.collector stored)
    (there : getPlayerBySocket before.collector stored.socketKey.socket = some found)
    (account : found.account = stored.account)
    (password : found.components.password = stored.components.password)
    (list : stored.components.protoList.isSome →
      found.components.protoList.isSome ∨ fills stored.socketKey.socket) :
    Continues fills before after := by
  constructor
  · intro held
    rw [set]
    exact accounts_held_set before.collector found stored held there account
  · intro socket player here
    rw [set, get_by_socket_set] at here
    split at here
    · rename_i same
      cases here
      rw [same]
      exact ⟨found, there, account, password, list⟩
    · exact ⟨player, here, rfl, rfl, Or.inl⟩

theorem continues_trans {fills : Int → Prop} {first second third : AccountState Proto}
    (one : Continues (fun _ => False) first second) (two : Continues fills second third) :
    Continues fills first third := by
  refine ⟨fun held => two.held (one.held held), ?_⟩
  intro socket player there
  obtain ⟨middle, between, account, password, list⟩ := two.sessions socket player there
  obtain ⟨older, here, accountBefore, passwordBefore, listBefore⟩ := one.sessions socket middle between
  refine ⟨older, here, accountBefore.trans account, passwordBefore.trans password, ?_⟩
  intro some
  rcases list some with held | filled
  · exact (listBefore held).imp id False.elim
  · exact Or.inr filled

theorem continues_remove (s : AccountState Proto) (socket : Int) :
    Continues (fun _ => False) s (removeBySocket s socket) := by
  have removed : Continues (fun _ => False) s
      { s with collector := removePlayerBySocket s.collector socket } := by
    refine ⟨accounts_held_remove_by_socket s.collector socket, ?_⟩
    intro other player there
    rw [get_by_socket_remove] at there
    split at there
    · cases there
    · exact ⟨player, there, rfl, rfl, Or.inl⟩
  unfold removeBySocket
  split
  · exact continues_same _ s s rfl
  · dsimp only
    split
    · exact continues_trans removed (continues_same _ _ _ rfl)
    · exact removed

theorem found_by_account (s : AccountState Proto) (account : Str) :
    ∃ session collector, getPlayerByAccount s.collector account = (session, collector) ∧
      (getPlayerByAccount s.collector account).1 = session ∧
      collector.players = s.collector.players ∧
      (AccountsHeld s.collector → AccountsHeld collector) :=
  ⟨_, _, rfl, rfl, get_by_account_players _ _, accounts_held_get _ _⟩

/-! The invariant. -/

structure Sound (s : Service Proto) : Prop where
  held : AccountsHeld s.account.collector
  born : ∀ socket player, bySocket s socket = some player → s.life socket < s.births
  apart : ∀ socket other player another, bySocket s socket = some player →
    bySocket s other = some another → s.life socket = s.life other → socket = other
  sent : ∀ request ∈ s.requests, request.life < s.births
  carried : ∀ request ∈ s.requests, ∀ socket player, bySocket s socket = some player →
    s.life socket = request.life →
    player.account = request.account ∧ player.components.password = request.password
  listed : ∀ life ∈ s.listed, life ∈ s.verified
  protos : ∀ socket player, bySocket s socket = some player →
    player.components.protoList.isSome → s.life socket ∈ s.verified
  queried : ∀ pending ∈ s.queries, pending.life ∈ s.verified
  tokens : ∀ pending ∈ s.tokens, pending.life ∈ s.verified
  served : ∀ life ∈ s.served, life ∈ s.verified

theorem sound_start : Sound (start : Service Proto) := by
  constructor <;> simp [start, create, bySocket, getPlayerBySocket, PlayerCollector.empty,
    AccountsHeld]

theorem sound_taken {s : Service Proto} (sound : Sound s) (asked dials : List Str)
    (requests : List HttpRequest) (queries tokens : List Pending) (verified : List Nat)
    (fewerRequests : requests ⊆ s.requests) (fewerQueries : queries ⊆ s.queries)
    (fewerTokens : tokens ⊆ s.tokens) (more : s.verified ⊆ verified) :
    Sound { s with
      asked := asked, dials := dials, requests := requests, queries := queries, tokens := tokens
      verified := verified } where
  held := sound.held
  born := sound.born
  apart := sound.apart
  sent request member := sound.sent request (fewerRequests member)
  carried request member := sound.carried request (fewerRequests member)
  listed life member := more (sound.listed life member)
  protos socket player there list := more (sound.protos socket player there list)
  queried pending member := more (sound.queried pending (fewerQueries member))
  tokens pending member := more (sound.tokens pending (fewerTokens member))
  served life member := more (sound.served life member)

def needsVerified : Sent Proto → Bool
  | .queryPlayerList _ => true
  | .playerList _ _ => true
  | .loginTokenToRedis _ _ => true
  | .createPlayer _ _ _ => true
  | .gameTokenOk _ _ _ => true
  | _ => false

theorem new_messages {before after : AccountState Proto} {new : List (Sent Proto)}
    (appended : after.sent = before.sent ++ new) : newMessages before after = new := by
  rw [newMessages, appended, List.drop_left]

theorem recorded_cases {A : Type} {before after : AccountState Proto} {new : List (Sent Proto)}
    (appended : after.sent = before.sent ++ new) {older : List A} {keep : Sent Proto → Option A}
    {item : A} (member : item ∈ older ++ (newMessages before after).filterMap keep) :
    item ∈ older ∨ ∃ message ∈ new, keep message = some item := by
  rw [new_messages appended] at member
  rcases List.mem_append.mp member with old | added
  · exact Or.inl old
  · exact Or.inr (List.mem_filterMap.mp added)

theorem sound_record {s : Service Proto} (sound : Sound s) (life : Nat) (account : AccountState Proto)
    (fills : Int → Prop) (new : List (Sent Proto)) (appended : account.sent = s.account.sent ++ new)
    (continues : Continues fills s.account account)
    (filled : ∀ socket, fills socket → s.life socket ∈ s.verified)
    (rests : ∀ message ∈ new, needsVerified message = true → life ∈ s.verified)
    (own : ∀ http name password, .httpRequest http name password ∈ new →
      life < s.births ∧ ∀ socket player, bySocket s socket = some player → s.life socket = life →
        player.account = name ∧ player.components.password = password) :
    Sound (record s life account) := by
  have older : ∀ socket player, bySocket (record s life account) socket = some player →
      ∃ before, bySocket s socket = some before ∧ before.account = player.account ∧
        before.components.password = player.components.password ∧
        (player.components.protoList.isSome →
          before.components.protoList.isSome ∨ fills socket) := continues.sessions
  constructor
  · exact continues.held sound.held
  · intro socket player there
    obtain ⟨before, here, -⟩ := older socket player there
    exact sound.born socket before here
  · intro socket other player another there elsewhere same
    obtain ⟨before, here, -⟩ := older socket player there
    obtain ⟨beside, where', -⟩ := older other another elsewhere
    exact sound.apart socket other before beside here where' same
  · intro request member
    rcases recorded_cases appended member with old | ⟨message, listed, sent⟩
    · exact sound.sent request old
    · cases message with
      | httpRequest http name password =>
          cases sent
          exact (own http name password listed).1
      | _ => cases sent
  · intro request member socket player there same
    obtain ⟨before, here, sameAccount, samePassword, -⟩ := older socket player there
    rw [← sameAccount, ← samePassword]
    rcases recorded_cases appended member with old | ⟨message, listed, sent⟩
    · exact sound.carried request old socket before here same
    · cases message with
      | httpRequest http name password =>
          cases sent
          exact (own http name password listed).2 socket before here same
      | _ => cases sent
  · intro other member
    rcases recorded_cases appended member with old | ⟨message, listed, sent⟩
    · exact sound.listed other old
    · cases message with
      | playerList receiver players =>
          cases sent
          exact rests _ listed rfl
      | _ => cases sent
  · intro socket player there list
    obtain ⟨before, here, -, -, had⟩ := older socket player there
    rcases had list with held | filledNow
    · exact sound.protos socket before here held
    · exact filled socket filledNow
  · intro pending member
    rcases recorded_cases appended member with old | ⟨message, listed, sent⟩
    · exact sound.queried pending old
    · cases message with
      | queryPlayerList name =>
          cases sent
          exact rests _ listed rfl
      | _ => cases sent
  · intro pending member
    rcases recorded_cases appended member with old | ⟨message, listed, sent⟩
    · exact sound.tokens pending old
    · cases message with
      | loginTokenToRedis name playerSn =>
          cases sent
          exact rests _ listed rfl
      | _ => cases sent
  · intro other member
    rcases recorded_cases appended member with old | ⟨message, listed, sent⟩
    · exact sound.served other old
    · cases message with
      | createPlayer name playerSn player =>
          cases sent
          exact rests _ listed rfl
      | gameTokenOk receiver game token =>
          cases sent
          exact rests _ listed rfl
      | _ => cases sent

theorem sound_quiet {s : Service Proto} (sound : Sound s) (life : Nat) (account : AccountState Proto)
    (new : List (Sent Proto)) (appended : account.sent = s.account.sent ++ new)
    (continues : Continues (fun _ => False) s.account account)
    (quiet : ∀ message ∈ new, needsVerified message = false ∧
      ∀ http name password, message ≠ .httpRequest http name password) :
    Sound (record s life account) := by
  refine sound_record sound life account _ new appended continues (fun _ => False.elim) ?_ ?_
  · intro message member needs
    rw [(quiet message member).1] at needs
    cases needs
  · intro http name password member
    exact absurd rfl ((quiet _ member).2 http name password)

/-! A session begins. -/

theorem begin_life (s : Service Proto) (socket other : Int) (player : Session Proto)
    (there : bySocket s other = some player) : (begin s socket).life other = s.life other := by
  dsimp only [begin]
  apply if_neg
  rintro ⟨rfl, free⟩
  rw [there] at free
  cases free

theorem sound_begin {s : Service Proto} (sound : Sound s) (socket : Int) : Sound (begin s socket) where
  held := sound.held
  born other player there := by
    rw [begin_life s socket other player there]
    exact Nat.lt_succ_of_lt (sound.born other player there)
  apart other another player beside there elsewhere same := by
    rw [begin_life s socket other player there, begin_life s socket another beside elsewhere] at same
    exact sound.apart other another player beside there elsewhere same
  sent request member := Nat.lt_succ_of_lt (sound.sent request member)
  carried request member other player there same := by
    rw [begin_life s socket other player there] at same
    exact sound.carried request member other player there same
  listed := sound.listed
  protos other player there list := by
    rw [begin_life s socket other player there]
    exact sound.protos other player there list
  queried := sound.queried
  tokens := sound.tokens
  served := sound.served

theorem begun_life (s : Service Proto) (socket : Int) (free : bySocket s socket = none) :
    (begin s socket).life socket = s.births := by
  simp [begin, free]

theorem sound_born {s : Service Proto} (sound : Sound s) (socket : Int)
    (account : AccountState Proto) (fresh : Session Proto) (socketKey : SocketKey) (name : Str)
    (free : bySocket s socket = none) (held : AccountsHeld account.collector)
    (sessions : ∀ other, getPlayerBySocket account.collector other =
      if other = socket then some fresh else bySocket s other)
    (unlisted : fresh.components.protoList = none)
    (sent : account.sent = s.account.sent ++ [.listenKey socketKey name, .queryOnline (cStr name)]) :
    Sound (record (begin s socket) s.births account) := by
  have messages : newMessages s.account account =
      [.listenKey socketKey name, .queryOnline (cStr name)] := new_messages sent
  have lives : ∀ other player, getPlayerBySocket account.collector other = some player →
      (other = socket ∧ player = fresh ∧ (begin s socket).life other = s.births) ∨
      (bySocket s other = some player ∧ (begin s socket).life other = s.life other ∧
        s.life other < s.births) := by
    intro other player there
    rw [sessions] at there
    split at there
    · rename_i same
      cases there
      rw [same]
      exact Or.inl ⟨rfl, rfl, begun_life s socket free⟩
    · exact Or.inr ⟨there, begin_life s socket other player there, sound.born other player there⟩
  constructor
  · exact held
  · intro other player there
    rcases lives other player there with ⟨-, -, born⟩ | ⟨-, same, below⟩
    · exact born.symm ▸ Nat.lt_succ_self s.births
    · exact same.symm ▸ Nat.lt_succ_of_lt below
  · intro other another player beside there elsewhere same
    dsimp only [record] at same
    rcases lives other player there with ⟨here, -, born⟩ | ⟨older, old, below⟩ <;>
      rcases lives another beside elsewhere with ⟨hereToo, -, bornToo⟩ | ⟨olderToo, oldToo, belowToo⟩
    · rw [here, hereToo]
    · omega
    · omega
    · exact sound.apart other another player beside older olderToo (by rw [← old, ← oldToo, same])
  · intro request member
    have old : request ∈ s.requests := by
      simpa [record, messages, httpRequests, begin] using member
    exact Nat.lt_succ_of_lt (sound.sent request old)
  · intro request member other player there same
    have old : request ∈ s.requests := by
      simpa [record, messages, httpRequests, begin] using member
    dsimp only [record] at same
    have below := sound.sent request old
    rcases lives other player there with ⟨-, -, born⟩ | ⟨older, kept, -⟩
    · omega
    · exact sound.carried request old other player older (kept.symm.trans same)
  · intro life member
    exact sound.listed life (by simpa [record, messages, listings, begin] using member)
  · intro other player there list
    rcases lives other player there with ⟨-, rfl, -⟩ | ⟨older, kept, -⟩
    · rw [unlisted] at list
      cases list
    · dsimp only [record]
      rw [kept]
      exact sound.protos other player older list
  · intro pending member
    exact sound.queried pending (by simpa [record, messages, listQueries, begin] using member)
  · intro pending member
    exact sound.tokens pending (by simpa [record, messages, tokenQueries, begin] using member)
  · intro life member
    exact sound.served life (by simpa [record, messages, servings, begin] using member)

theorem sound_account_check {s : Service Proto} (sound : Sound s) (identify : NetIdentify)
    (account password : Str) :
    Sound (record (begin s identify.socketKey.socket) s.births
      (handleAccountCheck s.account identify account password)) := by
  obtain ⟨session, collector, found, -, players, kept⟩ := found_by_account s.account account
  have refused : Sound (record (begin s identify.socketKey.socket) s.births
      (socketDisconnect { s.account with collector := collector } identify.socketKey)) := by
    refine sound_quiet (sound_begin sound _) _ _
      [.accountCheckRs identify.socketKey .logging, .requestDisconnect identify.socketKey]
      (by simp [socketDisconnect, Account.send, begin])
      (continues_of_players _ _ _ kept players) ?_
    intro message member
    simp only [List.mem_cons, List.not_mem_nil, or_false] at member
    rcases member with rfl | rfl
    · exact ⟨rfl, by simp⟩
    · exact ⟨rfl, by simp⟩
  unfold handleAccountCheck
  rw [found]
  cases session with
  | some inUse => exact refused
  | none =>
    dsimp only
    split
    · exact refused
    · rename_i player added accepted
      obtain ⟨free, made, sockets⟩ := add_player_some accepted
      refine sound_born sound _ _ player player.socketKey player.account ?_
        (accounts_held_add collector added _ account _ player (kept sound.held) accepted) ?_ ?_ ?_
      · rw [bySocket, getPlayerBySocket, ← players]
        exact free
      · intro other
        have same : bySocket s other = getPlayerBySocket collector other := by
          rw [bySocket, getPlayerBySocket, getPlayerBySocket, players]
        rw [same]
        exact sockets other
      · rw [made]
      · simp [Account.send]

theorem account_session {s : Service Proto} {account : Str} {player : Session Proto}
    (found : (getPlayerByAccount s.account.collector account).1 = some player) :
    byAccount s account = some player ∧ bySocket s player.socketKey.socket = some player ∧
      lifeOf s (byAccount s account) = s.life player.socketKey.socket := by
  have looked : byAccount s account = some player := found
  exact ⟨looked, get_by_account_stored found, by rw [looked, lifeOf]⟩

theorem http_tag (http : SocketKey) (account : Str) :
    (httpIdentify http account).tagKey .account = some ⟨account, 0⟩ := by
  simp [httpIdentify, addTagStr]

theorem entered_roles (rolesMap : Option Int) (s : AccountState Proto) (receiver : SocketKey) :
    ∃ new, (sendEnterWorld rolesMap s receiver).sent = s.sent ++ new ∧
      (∀ message ∈ new, needsVerified message = false ∧
        ∀ http name password, message ≠ .httpRequest http name password) ∧
      (sendEnterWorld rolesMap s receiver).collector = s.collector := by
  cases rolesMap with
  | none => exact ⟨[], by simp [sendEnterWorld], by simp, rfl⟩
  | some worldId => exact ⟨[.enterWorld receiver worldId], rfl, by simp [needsVerified], rfl⟩

theorem sound_online {s : Service Proto} (sound : Sound s) (life : Nat) (account : Str)
    (offline : Bool) :
    Sound (record s life (handleAccountQueryOnlineToRedisRs s.account account offline)) := by
  obtain ⟨session, collector, found, looked, players, kept⟩ := found_by_account s.account account
  have forgotten : Continues (fun _ => False) s.account { s.account with collector := collector } :=
    continues_of_players _ _ _ kept players
  unfold handleAccountQueryOnlineToRedisRs
  rw [found]
  cases session with
  | none => exact sound_quiet sound life _ [] (by simp) forgotten (by simp)
  | some player =>
      have there : getPlayerBySocket collector player.socketKey.socket = some player := by
        rw [getPlayerBySocket, players]
        exact get_by_account_stored looked
      dsimp only
      split
      · refine sound_quiet sound life _ [.accountCheckRs player.socketKey .online] rfl
          (continues_trans forgotten (continues_same _ _ _ rfl)) ?_
        simp [needsVerified]
      · refine sound_quiet sound life _ [.createConnect (cStr player.account)] rfl
          (continues_trans forgotten (continues_set _ _ _ player _ rfl there rfl rfl Or.inl)) ?_
        simp [needsVerified]

theorem sound_connected {s : Service Proto} (sound : Sound s) (http : SocketKey) (account : Str)
    (overHttp : http.netType = .httpConnector) :
    Sound (record s (lifeOf s (byAccount s account))
      (handleNetworkConnected s.account (httpIdentify http account))) := by
  obtain ⟨session, collector, found, looked, players, kept⟩ := found_by_account s.account account
  have forgotten : Continues (fun _ => False) s.account { s.account with collector := collector } :=
    continues_of_players _ _ _ kept players
  have overConnector : ¬ (httpIdentify http account).socketKey.netType ≠ .httpConnector :=
    not_not.mpr overHttp
  unfold handleNetworkConnected
  rw [http_tag]
  dsimp only
  rw [if_neg overConnector, found]
  cases session with
  | none => exact sound_quiet sound _ _ [] (by simp) forgotten (by simp)
  | some player =>
      obtain ⟨-, there, life⟩ := account_session looked
      rw [life]
      refine sound_record sound _ _ (fun _ => False)
        [.httpRequest http player.account player.components.password] rfl
        (continues_trans forgotten (continues_same _ _ _ rfl)) (fun _ => False.elim)
        (by simp [needsVerified]) ?_
      intro other name password sent
      cases List.mem_singleton.mp sent
      refine ⟨sound.born _ player there, ?_⟩
      intro socket another elsewhere same
      have here := sound.apart socket _ another player elsewhere there same
      rw [here, there] at elsewhere
      cases elsewhere
      exact ⟨rfl, rfl⟩

/-- A session whose own account and password were answered with 0 is verified. -/
theorem carrier_listed {s : Service Proto} {request : HttpRequest} {player : Session Proto}
    (there : bySocket s player.socketKey.socket = some player)
    (account : player.account = request.account)
    (password : player.components.password = request.password) :
    s.life player.socketKey.socket ∈ carriers s request := by
  refine List.mem_map.mpr ⟨(player.socketKey.socket, player), ?_, rfl⟩
  rw [List.mem_filter]
  exact ⟨Std.ExtTreeMap.mem_toList_iff_getElem?_eq_some.mpr there, by simp [account, password]⟩

theorem sound_response {s : Service Proto} (sound : Sound s) (rolesMap : Option Int)
    (http : SocketKey) (account : Str) (status : Int) (body : Option ReturnCode)
    (verified : responseCode status body = .ok → ∀ player, byAccount s account = some player →
      s.life player.socketKey.socket ∈ s.verified) :
    Sound (record s (lifeOf s (byAccount s account))
      (handleHttpOuterResponse rolesMap s.account (httpIdentify http account) status body)) := by
  obtain ⟨session, collector, found, looked, players, kept⟩ := found_by_account s.account account
  have forgotten : Continues (fun _ => False) s.account { s.account with collector := collector } :=
    continues_of_players _ _ _ kept players
  unfold handleHttpOuterResponse
  rw [http_tag]
  dsimp only
  rw [found]
  cases session with
  | none => exact sound_quiet sound _ _ [] (by simp) forgotten (by simp)
  | some player =>
      obtain ⟨held, -, life⟩ := account_session looked
      rw [life]
      -- The http connection is closed and the roles map entered, whatever the answer.
      obtain ⟨entered, sent, quiet, collected⟩ := entered_roles rolesMap
        (Account.send { s.account with collector := collector } (.requestDisconnect http))
        player.socketKey
      have continued := continues_trans forgotten (continues_same (fun _ => False) _ _ collected)
      have sentAll : ∀ last : Sent Proto, (sendEnterWorld rolesMap
          (Account.send { s.account with collector := collector } (.requestDisconnect http))
          player.socketKey).sent ++ [last] =
            s.account.sent ++ ((.requestDisconnect http :: entered) ++ [last]) := by
        intro last
        rw [sent]
        simp [Account.send]
      dsimp only
      split
      · rename_i accepted
        refine sound_record sound _ _ (fun _ => False)
          ((.requestDisconnect http :: entered) ++ [.queryPlayerList (cStr player.account)]) ?_
          (continues_trans continued (continues_same _ _ _ rfl)) (fun _ => False.elim)
          (fun _ _ _ => verified accepted player held) ?_
        · exact sentAll _
        · intro other name password member
          rw [List.mem_append, List.mem_cons] at member
          rcases member with (closing | early) | last
          · cases closing
          · exact absurd rfl ((quiet _ early).2 other name password)
          · cases List.mem_singleton.mp last
      · refine sound_quiet sound _ _ ((.requestDisconnect http :: entered) ++
          [.accountCheckRs player.socketKey (responseCode status body)]) ?_
          (continues_trans continued (continues_same _ _ _ rfl)) ?_
        · exact sentAll _
        · intro message member
          rw [List.mem_append, List.mem_cons] at member
          rcases member with (rfl | early) | last
          · exact ⟨rfl, by simp⟩
          · exact quiet message early
          · rw [List.mem_singleton.mp last]
            exact ⟨rfl, by simp⟩

theorem sound_player_list {s : Service Proto} (sound : Sound s) (account : Str)
    (players : List (UInt64 × Proto))
    (verified : ∀ player, byAccount s account = some player →
      s.life player.socketKey.socket ∈ s.verified) :
    Sound (record s (lifeOf s (byAccount s account))
      (handleQueryPlayerListRs s.account account players)) := by
  obtain ⟨session, collector, found, looked, same, kept⟩ := found_by_account s.account account
  have forgotten : Continues (fun _ => False) s.account { s.account with collector := collector } :=
    continues_of_players _ _ _ kept same
  unfold handleQueryPlayerListRs
  rw [found]
  cases session with
  | none => exact sound_quiet sound _ _ [] (by simp) forgotten (by simp)
  | some player =>
      obtain ⟨held, there, life⟩ := account_session looked
      have stored : getPlayerBySocket collector player.socketKey.socket = some player := by
        rw [getPlayerBySocket, same]
        exact there
      rw [life]
      have allowed := verified player held
      refine sound_record sound _ _ (fun socket => socket = player.socketKey.socket)
        [.playerList player.socketKey players] rfl ?_ ?_ (fun _ _ _ => allowed) (by simp)
      · dsimp only
        split
        · exact continues_trans forgotten
            (continues_set _ _ _ player _ rfl stored rfl rfl fun _ => Or.inr rfl)
        · exact continues_trans forgotten (continues_same _ _ _ rfl)
      · rintro socket rfl
        exact allowed

theorem sound_create {s : Service Proto} (sound : Sound s) (socketKey : SocketKey)
    (create : CreatePlayer) (playerSn : UInt64)
    (verified : ∀ player, bySocket s socketKey.socket = some player →
      s.life player.socketKey.socket ∈ s.verified) :
    Sound (record s (lifeOf s (bySocket s socketKey.socket))
      (handleCreatePlayer s.account socketKey create playerSn)) := by
  unfold handleCreatePlayer
  split
  · exact sound_quiet sound _ _ [] (by simp) (continues_same _ _ _ rfl) (by simp)
  · rename_i player found
    have there : bySocket s socketKey.socket = some player := found
    rw [there, lifeOf]
    exact sound_record sound _ _ (fun _ => False) [.createPlayer (cStr player.account) playerSn create]
      rfl (continues_same _ _ _ rfl) (fun _ => False.elim) (fun _ _ _ => verified player there)
      (by simp)

theorem sound_create_rs {s : Service Proto} (sound : Sound s) (life : Nat) (socketKey : SocketKey)
    (code : Int) : Sound (record s life (handleCreatePlayerRs s.account socketKey code)) := by
  unfold handleCreatePlayerRs
  split
  · exact sound_quiet sound _ _ [] (by simp) (continues_same _ _ _ rfl) (by simp)
  · rename_i player found
    exact sound_quiet sound _ _ [.createPlayerRs player.socketKey code] rfl
      (continues_same _ _ _ rfl) (by simp [needsVerified])

/-- A token is asked for only from a player list, which only a verified session has. -/
theorem sound_select {s : Service Proto} (sound : Sound s) (socketKey : SocketKey)
    (playerSn : UInt64) :
    Sound (record s (lifeOf s (bySocket s socketKey.socket))
      (handleSelectPlayer s.account socketKey playerSn)) := by
  unfold handleSelectPlayer
  split
  · exact sound_quiet sound _ _ [] (by simp) (continues_same _ _ _ rfl) (by simp)
  · rename_i player found
    have own : player.socketKey.socket = socketKey.socket :=
      s.account.collector.keyed socketKey.socket player found
    have there : getPlayerBySocket s.account.collector player.socketKey.socket = some player := by
      rw [own]
      exact found
    have looked : bySocket s socketKey.socket = some player := found
    rw [looked, lifeOf]
    dsimp only
    split
    · exact sound_quiet sound _ _ [.selectPlayerNotFound player.socketKey] rfl
        (continues_set _ _ _ player _ rfl there rfl rfl Or.inl) (by simp [needsVerified])
    · rename_i chosen
      obtain ⟨list, some, -⟩ := Option.bind_eq_some_iff.mp chosen
      have verified := sound.protos _ player there (by rw [some]; rfl)
      exact sound_record sound _ _ (fun _ => False)
        [.loginTokenToRedis (cStr player.account) playerSn] rfl
        (continues_set _ _ _ player _ rfl there rfl rfl Or.inl) (fun _ => False.elim)
        (fun _ _ _ => verified) (by simp)

theorem sound_token {s : Service Proto} (sound : Sound s) (account token : Str)
    (verified : ∀ player, byAccount s account = some player →
      s.life player.socketKey.socket ∈ s.verified) :
    Sound (record s (lifeOf s (byAccount s account))
      (handleTokenToRedisRs s.account account token)) := by
  obtain ⟨session, collector, found, looked, same, kept⟩ := found_by_account s.account account
  have forgotten : Continues (fun _ => False) s.account { s.account with collector := collector } :=
    continues_of_players _ _ _ kept same
  unfold handleTokenToRedisRs
  rw [found]
  cases session with
  | none => exact sound_quiet sound _ _ [] (by simp) forgotten (by simp)
  | some player =>
      obtain ⟨held, -, life⟩ := account_session looked
      rw [life]
      dsimp only
      split
      · exact sound_quiet sound _ _ [.gameTokenNoGame player.socketKey] rfl
          (continues_trans forgotten (continues_same _ _ _ rfl)) (by simp [needsVerified])
      · rename_i info apps chosen
        exact sound_record sound _ _ (fun _ => False) [.gameTokenOk player.socketKey info token] rfl
          (continues_trans forgotten (continues_same _ _ _ rfl)) (fun _ => False.elim)
          (fun _ _ _ => verified player held) (by simp)

theorem sound_disconnect {s : Service Proto} (sound : Sound s) (life : Nat) (socketKey : SocketKey) :
    Sound (record s life (handleNetworkDisconnect s.account socketKey)) := by
  have removed : ∃ new : List (Sent Proto), (removeBySocket s.account socketKey.socket).sent =
      s.account.sent ++ new ∧ ∀ message ∈ new, needsVerified message = false ∧
        ∀ http name password, message ≠ .httpRequest http name password := by
    unfold removeBySocket
    split
    · exact ⟨[], by simp, by simp⟩
    · rename_i player found
      dsimp only
      split
      · exact ⟨[.deleteOnline (cStr player.account)], rfl, by simp [needsVerified]⟩
      · exact ⟨[], by simp, by simp⟩
  unfold handleNetworkDisconnect
  split
  · exact sound_quiet sound _ _ [] (by simp) (continues_same _ _ _ rfl) (by simp)
  · obtain ⟨new, sent, quiet⟩ := removed
    exact sound_quiet sound life _ new sent (continues_remove s.account socketKey.socket) quiet

/-- The session a response with returncode 0 finds is verified by it: it is the
session that asked, so the request carried its own account and password. -/
theorem response_verifies {s : Service Proto} (sound : Sound s) (request : HttpRequest)
    (member : request ∈ s.requests) (player : Session Proto)
    (found : byAccount s request.account = some player)
    (same : s.life player.socketKey.socket = request.life) :
    s.life player.socketKey.socket ∈ carriers s request := by
  obtain ⟨-, there, -⟩ := account_session found
  obtain ⟨account, password⟩ := sound.carried request member _ player there same
  exact carrier_listed there account password

theorem sound_step (configured : UInt64 → Int → Option CommonConfig) (rolesMap : Option Int)
    (before : Service Proto) (event : Event Proto) (after : Service Proto) (sound : Sound before)
    (taken : Guarded (serviceStep configured rolesMap) Correlated before event after) :
    Sound after := by
  obtain ⟨step, guard⟩ := taken
  cases event with
  | accountCheck identify account password =>
      rw [serviceStep] at step
      rw [step]
      exact sound_account_check sound identify account password
  | onlineRs account offline =>
      obtain ⟨-, rfl⟩ := step
      exact sound_online (sound_taken sound _ _ _ _ _ _ (List.Subset.refl _) (List.Subset.refl _)
        (List.Subset.refl _) (List.Subset.refl _)) _ account offline
  | httpConnected socket account =>
      obtain ⟨-, rfl⟩ := step
      exact sound_connected (sound_taken sound _ _ _ _ _ _ (List.Subset.refl _)
        (List.Subset.refl _) (List.Subset.refl _) (List.Subset.refl _)) _ account rfl
  | httpResponse request status body =>
      obtain ⟨member, rfl⟩ := step
      refine sound_response (sound_taken sound _ _ _ _ _ _ (List.erase_subset)
        (List.Subset.refl _) (List.Subset.refl _) (List.subset_append_left _ _)) rolesMap _ _ status
        body ?_
      intro accepted player found
      obtain ⟨zero, asker⟩ := guard accepted
      refine List.mem_append_right _ ?_
      rw [if_pos zero]
      exact response_verifies sound request member player found (asker player found)
  | playerListRs pending players =>
      obtain ⟨member, rfl⟩ := step
      refine sound_player_list (sound_taken sound _ _ _ _ _ _ (List.Subset.refl _)
        (List.erase_subset) (List.Subset.refl _) (List.Subset.refl _)) _ players ?_
      intro player found
      have same := guard player found
      dsimp only
      rw [same]
      exact sound.queried pending member
  | createPlayer identify create playerSn =>
      rw [serviceStep] at step
      rw [step]
      refine sound_create sound _ create playerSn ?_
      intro player found
      exact sound.listed _ (guard player found)
  | createPlayerRs identify code =>
      rw [serviceStep] at step
      rw [step]
      exact sound_create_rs sound _ _ code
  | selectPlayer identify playerSn =>
      rw [serviceStep] at step
      rw [step]
      exact sound_select sound _ playerSn
  | tokenRs pending token =>
      obtain ⟨member, rfl⟩ := step
      refine sound_token (sound_taken sound _ _ _ _ _ _ (List.Subset.refl _) (List.Subset.refl _)
        (List.erase_subset) (List.Subset.refl _)) _ token ?_
      intro player found
      have same := guard player found
      dsimp only
      rw [same]
      exact sound.tokens pending member
  | appInfoListSync infos =>
      rw [serviceStep] at step
      rw [step]
      exact sound_quiet sound 0 _ [] (by simp [handleAppInfoListSync]) (continues_same _ _ _ rfl)
        (by simp)
  | disconnect identify =>
      rw [serviceStep] at step
      rw [step]
      exact sound_disconnect sound 0 _

/-- In every run whose replies find the sessions that asked and whose clients
create players only from their player lists, tokens and creations go to
sessions whose own account and password were verified. -/
theorem correlated_runs_authenticate (configured : UInt64 → Int → Option CommonConfig) (rolesMap : Option Int)
    (trace : List (Event Proto)) (s : Service Proto)
    (run : Run (Guarded (serviceStep configured rolesMap) Correlated) start trace s) :
    Run (Along (serviceStep configured rolesMap) Authenticated) start trace s :=
  along_of_guarded Sound (sound_step configured rolesMap) (fun _ sound => sound.served) run sound_start

/-! A whole login, and a client that creates a player right after its account check. -/

def client : NetIdentify := ⟨⟨1, .tcpListen⟩, clear⟩

def gameSync : AppInfoSync := ⟨1, AppKey.bits .game, 0⟩

def verification : HttpRequest := ⟨⟨5, .httpConnector⟩, [97], [112], 0⟩

def login : List (Event Unit) :=
  [.appInfoListSync [gameSync], .accountCheck client [97] [112], .onlineRs [97] true,
    .httpConnected 5 [97], .httpResponse verification 200 (some (.int 0)),
    .playerListRs ⟨[97], 0⟩ [(7, ())], .selectPlayer client 7, .tokenRs ⟨[97], 0⟩ [1]]

theorem login_run : ∃ s, Run (Guarded (serviceStep (fun _ _ => some ⟨[], 7801⟩) none) Correlated) start login s ∧
    s.served = [0] := by
  refine ⟨_, Run.next ⟨rfl, trivial⟩ (Run.next ⟨rfl, trivial⟩ (Run.next
    ⟨⟨by decide, rfl⟩, trivial⟩ (Run.next ⟨⟨by decide, rfl⟩, trivial⟩ (Run.next
    ⟨⟨by decide, rfl⟩, fun _ => ⟨rfl, fun _ _ => ite_self 0⟩⟩ (Run.next
    ⟨⟨by decide, rfl⟩, fun _ _ => ite_self 0⟩ (Run.next ⟨rfl, trivial⟩ (Run.next
    ⟨⟨by decide, rfl⟩, fun _ _ => ite_self 0⟩ (Run.refl _)))))))), by decide⟩

theorem correlated_runs_authenticate_login : ∃ s : Service Unit,
    Run (Along (serviceStep (fun _ _ => some ⟨[], 7801⟩) none) Authenticated) start login s ∧
      s.served = [0] := by
  obtain ⟨s, run, served⟩ := login_run
  exact ⟨s, correlated_runs_authenticate _ _ login s run, served⟩

theorem unverified_creation_run : ∃ s : Service Unit,
    Run (serviceStep (fun _ _ => some ⟨[], 7801⟩) none) start
      [.accountCheck client [97] [112], .createPlayer client ⟨[110], 1⟩ 5] s ∧
      s.served = [0] ∧ s.verified = [] :=
  ⟨_, Run.next rfl (Run.next rfl (Run.refl _)), by decide, rfl⟩

/-- `HandleCreatePlayer` looks at nothing but the socket. -/
theorem creation_without_verification :
    ¬ ∀ (configured : UInt64 → Int → Option CommonConfig) (rolesMap : Option Int) (trace : List (Event Unit))
      (s : Service Unit), Run (serviceStep configured rolesMap) start trace s → Authenticated s := by
  intro law
  obtain ⟨s, run, served, verified⟩ := unverified_creation_run
  have authenticated := law _ _ _ s run 0 (by rw [served]; exact List.mem_cons_self)
  rw [verified] at authenticated
  cases authenticated

end GameBook.LoginVerification
