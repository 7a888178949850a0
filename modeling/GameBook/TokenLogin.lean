import Mathlib.Data.List.Perm.Subperm
import GameBook.LabelledRun
import GameBook.Lobby
import GameBook.RedisGame

/-!
Login by token: a lobby, the redis thread and the messages between them. Every
stored token has a number, so that two logins with one token can be told from
two logins with equal tokens.
-/

namespace GameBook.TokenLogin

open OrderedMap SocketObject CString PlayerCollector Lobby RedisGame LabelledRun

structure Login where
  socketKey : SocketKey
  account : Str
  token : Str

/-- A login answered with `LGRC_OK`, and the token redis had handed over. -/
structure Grant where
  player : LobbyPlayer
  issue : Option Issue

structure Exchange where
  lobby : LobbyState
  redis : Store
  requests : List Str
  replies : List Reply
  issued : List Issue
  logins : List Login
  granted : List Grant

def start (sn : UInt64) : Exchange := ⟨create sn, ∅, [], [], [], [], []⟩

def newMessages (before after : LobbyState) : List Sent := after.sent.drop before.sent.length

def tokenRequests (messages : List Sent) : List Str :=
  messages.filterMap fun
    | .gameTokenToRedis account => some account
    | _ => none

def welcomed (messages : List Sent) : List LobbyPlayer :=
  messages.filterMap fun
    | .loginByTokenRs player true => some player
    | _ => none

def grants (issue : Option Issue) (messages : List Sent) : List Grant :=
  (welcomed messages).map (⟨·, issue⟩)

def loginsOf : Lobby.Event → List Login
  | .login identify account token => [⟨identify.socketKey, account, token⟩]
  | _ => []

def loginOf (player : LobbyPlayer) : Login :=
  ⟨player.socketKey, player.account, player.components.token⟩

inductive Event where
  | lobby (event : Lobby.Event)
  | issued (issue : Issue)
  | expired (key : Str)
  | redisGame (account : Str)
  | answered (reply : Reply)

/-- Requests and replies are taken in any order. -/
def exchangeStep (resources : Resources) (before : Exchange) (event : Event) (after : Exchange) :
    Prop :=
  match event with
  | .lobby event =>
      ∃ lobby, lobbyStep resources before.lobby event lobby ∧
        after = { before with
          lobby := lobby
          requests := before.requests ++ tokenRequests (newMessages before.lobby lobby)
          logins := before.logins ++ loginsOf event
          granted := before.granted ++ grants none (newMessages before.lobby lobby) }
  | .issued issue =>
      issue.id = before.issued.length ∧
        ∃ redis, handleLoginTokenToRedis before.redis issue = some redis ∧
          after = { before with redis := redis, issued := before.issued ++ [issue] }
  | .expired key => after = { before with redis := before.redis.erase key }
  | .redisGame account =>
      account ∈ before.requests ∧
        ∃ reply redis, handleGameTokenToRedis before.redis account = some (reply, redis) ∧
          after = { before with
            redis := redis
            requests := before.requests.erase account
            replies := before.replies ++ [reply] }
  | .answered reply =>
      reply ∈ before.replies ∧
        ∃ lobby, lobby = handleGameTokenToRedisRs before.lobby reply.account (tokenOf reply)
            (playerSnOf reply) ∧
          after = { before with
            lobby := lobby
            replies := before.replies.erase reply
            granted := before.granted ++ grants reply.issue (newMessages before.lobby lobby) }

def ticket (issue : Option Issue) : Option Nat := issue.map (·.id)

def tickets (replies : List Reply) (granted : List Grant) : List Nat :=
  replies.filterMap (fun reply => ticket reply.issue) ++
    granted.filterMap fun grant => ticket grant.issue

/-- A welcomed session sent the non-empty token that had been stored for its
account and that redis handed over for it alone. -/
structure Honest (s : Exchange) : Prop where
  answers : welcomed s.lobby.sent = s.granted.map (·.player)
  sent : ∀ grant ∈ s.granted, loginOf grant.player ∈ s.logins
  earned : ∀ grant ∈ s.granted, ∃ issue ∈ s.issued, grant.issue = some issue ∧ issue.token ≠ [] ∧
    issue.account = grant.player.account ∧ issue.token = grant.player.components.token
  once : (s.granted.filterMap fun grant => ticket grant.issue).Nodup
  queried : ∀ playerSn, .queryPlayer playerSn ∈ s.lobby.sent → ∃ grant ∈ s.granted, ∃ issue,
    grant.issue = some issue ∧ issue.playerSn = playerSn

/-- When redis answers for a session, the client's token is not empty, no
proper prefix of the token handed over and no repetition of it with a NUL, and
if it is that token, the token was stored for this very account. -/
def Unforged (before : Exchange) : Event → Prop
  | .answered reply =>
      ∀ player, (getPlayerByAccount before.lobby.collector reply.account).1 = some player →
        player.components.token ≠ [] ∧ ¬ tokenOf reply ++ [0] <+: player.components.token ∧
        ∀ issue, reply.issue = some issue → player.components.token <+: issue.token →
          player.components.token = issue.token ∧ issue.account = reply.account
  | _ => True

/-! What holds on every run. -/

structure Tracked (s : Exchange) : Prop where
  held : AccountsHeld s.lobby.collector
  known : ∀ socket player, getPlayerBySocket s.lobby.collector socket = some player →
    loginOf player ∈ s.logins
  answers : welcomed s.lobby.sent = s.granted.map (·.player)
  sent : ∀ grant ∈ s.granted, loginOf grant.player ∈ s.logins
  numbered : ∀ issue ∈ s.issued, issue.id < s.issued.length
  stored : ∀ (key : Str) (issue : Issue), s.redis[key]? = some issue →
    issue ∈ s.issued ∧ issue.id ∉ tickets s.replies s.granted
  handed : ∀ reply ∈ s.replies, ∀ issue, reply.issue = some issue → issue ∈ s.issued
  apart : ∀ (key other : Str) (issue another : Issue), s.redis[key]? = some issue →
    s.redis[other]? = some another → issue.id = another.id → key = other
  once : (tickets s.replies s.granted).Nodup
  taken : ∀ id ∈ tickets s.replies s.granted, id < s.issued.length

theorem tracked_start (sn : UInt64) : Tracked (start sn) := by
  constructor <;> simp [start, create, tickets, welcomed, getPlayerBySocket, PlayerCollector.empty,
    AccountsHeld]

theorem honest_start (sn : UInt64) : Honest (start sn) := by
  constructor <;> simp [start, create, welcomed]

theorem new_messages_appended (before after : LobbyState) (messages : List Sent)
    (appended : after.sent = before.sent ++ messages) : newMessages before after = messages := by
  rw [newMessages, appended, List.drop_left]

theorem welcomed_append (first second : List Sent) :
    welcomed (first ++ second) = welcomed first ++ welcomed second := by
  simp [welcomed]

theorem welcomed_quiet (messages : List Sent)
    (quiet : ∀ message ∈ messages, answersLogin message = false) : welcomed messages = [] := by
  rw [welcomed, List.filterMap_eq_nil_iff]
  intro message member
  have silent := quiet message member
  cases message with
  | loginByTokenRs player ok => simp [answersLogin] at silent
  | _ => rfl

/-- A lobby message answers no login, and a session it leaves was there before
or is a login that was sent. -/
structure Traced (before after : LobbyState) (event : Lobby.Event) : Prop where
  held : AccountsHeld before.collector → AccountsHeld after.collector
  sessions : ∀ socket player, getPlayerBySocket after.collector socket = some player →
    loginOf player ∈ loginsOf event ∨
      ∃ older, getPlayerBySocket before.collector socket = some older ∧ loginOf older = loginOf player
  quiet : ∃ new, after.sent = before.sent ++ new ∧ ∀ message ∈ new, answersLogin message = false

theorem traced_of_unrelated {before after : LobbyState} (event : Lobby.Event)
    (unrelated : Unrelated before after) : Traced before after event := by
  refine ⟨unrelated.held, ?_, unrelated.quiet⟩
  intro socket player there
  obtain ⟨older, here, key, account, token⟩ := unrelated.sessions socket player there
  exact Or.inr ⟨older, here, by rw [loginOf, loginOf, key, account, token]⟩

theorem traced_login (before : LobbyState) (identify : NetIdentify) (account token : Str) :
    Traced before (handleLoginByToken before identify account token)
      (.login identify account token) := by
  rcases login_cases before identify account token with
    ⟨busy, there, refused⟩ | ⟨player, added, accepted, begun⟩
  · rw [refused]
    exact traced_of_unrelated _ (unrelated_send before _ rfl)
  · rw [begun]
    obtain ⟨free, made, sockets⟩ := add_player_some accepted
    refine ⟨fun held => accounts_held_add _ added _ account _ player held accepted, ?_,
      [.listenKey player.socketKey player.account, .gameTokenToRedis (cStr player.account)],
      by simp [Lobby.send], by simp [answersLogin]⟩
    intro socket other there
    have found := (sockets socket).symm.trans there
    split at found
    · cases found
      left
      rw [made]
      exact List.mem_singleton.mpr rfl
    · exact Or.inr ⟨other, found, rfl⟩

theorem traced_step (resources : Resources) (before after : LobbyState) (event : Lobby.Event)
    (taken : lobbyStep resources before event after) : Traced before after event := by
  by_cases login : ∃ identify account token, event = .login identify account token
  · obtain ⟨identify, account, token, rfl⟩ := login
    rw [lobbyStep] at taken
    rw [taken]
    exact traced_login before identify account token
  · push Not at login
    exact traced_of_unrelated event (lobby_step_unrelated resources before event after login taken)

theorem token_valid_iff (own : Str) (reply : Reply) :
    isTokenValid own (tokenOf reply) = true ↔
      own <+: tokenOf reply ∨ tokenOf reply ++ [0] <+: own := by
  rw [isTokenValid, decide_eq_true_iff]
  exact strncmp_length_eq_zero_iff own (tokenOf reply) (token_of_clean reply)

theorem tickets_handed_over (replies : List Reply) (granted : List Grant) (reply : Reply) :
    (tickets (replies ++ [reply]) granted).Perm ((ticket reply.issue).toList ++ tickets replies granted) := by
  have last : [reply].filterMap (fun reply => ticket reply.issue) = (ticket reply.issue).toList := by
    cases held : ticket reply.issue <;> simp [held]
  rw [tickets, List.filterMap_append, last, List.append_assoc]
  exact List.perm_append_comm_assoc _ _ _

theorem tickets_answered (replies : List Reply) (granted : List Grant) (reply : Reply)
    (member : reply ∈ replies) : (tickets replies granted).Perm
      ((ticket reply.issue).toList ++ tickets (replies.erase reply) granted) := by
  have front := (List.perm_cons_erase member).filterMap fun reply => ticket reply.issue
  rw [tickets, tickets, ← List.append_assoc]
  refine List.Perm.append_right _ (front.trans ?_)
  cases held : ticket reply.issue <;> simp [held]

theorem tickets_granted (replies : List Reply) (granted : List Grant) (grant : Grant) :
    (tickets replies (granted ++ [grant])).Perm
      ((ticket grant.issue).toList ++ tickets replies granted) := by
  have last : [grant].filterMap (fun grant => ticket grant.issue) = (ticket grant.issue).toList := by
    cases held : ticket grant.issue <;> simp [held]
  rw [tickets, List.filterMap_append, last, ← List.append_assoc]
  exact List.perm_append_comm

theorem tickets_after_answer (replies : List Reply) (granted new : List Grant) (reply : Reply)
    (member : reply ∈ replies)
    (answered : new = [] ∨ ∃ player, new = [⟨player, reply.issue⟩]) :
    (tickets (replies.erase reply) (granted ++ new)).Subperm (tickets replies granted) := by
  have before := tickets_answered replies granted reply member
  rcases answered with rfl | ⟨player, rfl⟩
  · rw [List.append_nil]
    exact (List.sublist_append_right _ _).subperm.trans before.symm.subperm
  · exact ((tickets_granted (replies.erase reply) granted ⟨player, reply.issue⟩).trans
      before.symm).subperm

/-! One step. -/

theorem answer_cases (s : Exchange) (reply : Reply) (lobby : LobbyState)
    (handled : lobby = handleGameTokenToRedisRs s.lobby reply.account (tokenOf reply)
      (playerSnOf reply)) :
    lobby.collector = (getPlayerByAccount s.lobby.collector reply.account).2 ∧
    ((grants reply.issue (newMessages s.lobby lobby) = [] ∧
        welcomed lobby.sent = welcomed s.lobby.sent ∧
        (∀ playerSn, .queryPlayer playerSn ∈ lobby.sent → .queryPlayer playerSn ∈ s.lobby.sent) ∧
        ∀ player, (getPlayerByAccount s.lobby.collector reply.account).1 = some player →
          isTokenValid player.components.token (tokenOf reply) = false) ∨
      ∃ player, (getPlayerByAccount s.lobby.collector reply.account).1 = some player ∧
        isTokenValid player.components.token (tokenOf reply) = true ∧
        grants reply.issue (newMessages s.lobby lobby) = [⟨player, reply.issue⟩] ∧
        welcomed lobby.sent = welcomed s.lobby.sent ++ [player] ∧
        ∀ playerSn, .queryPlayer playerSn ∈ lobby.sent →
          .queryPlayer playerSn ∈ s.lobby.sent ∨ playerSn = playerSnOf reply) := by
  rcases token_rs_cases s.lobby reply.account (tokenOf reply) (playerSnOf reply) with
    ⟨nobody, done⟩ | ⟨player, found, done⟩
  · rw [done] at handled
    rw [handled]
    refine ⟨rfl, Or.inl ⟨?_, rfl, fun _ member => member, ?_⟩⟩
    · rw [new_messages_appended _ _ [] (by simp)]
      rfl
    · intro player found
      rw [nobody] at found
      cases found
  · rw [done] at handled
    rw [handled]
    refine ⟨rfl, ?_⟩
    cases valid : isTokenValid player.components.token (tokenOf reply) with
    | false =>
        left
        simp only [Bool.false_eq_true, if_false]
        refine ⟨?_, ?_, ?_, ?_⟩
        · rw [new_messages_appended _ _ _ rfl]
          rfl
        · rw [welcomed_append]
          exact List.append_nil _
        · intro playerSn member
          simpa using member
        · intro other same
          rw [found] at same
          cases same
          exact valid
    | true =>
        right
        simp only [if_true]
        refine ⟨player, found, valid, ?_, ?_, ?_⟩
        · rw [new_messages_appended _ _ _ rfl]
          rfl
        · rw [welcomed_append]
          rfl
        · intro playerSn member
          simpa using member

theorem tracked_lobby (resources : Resources) (before after : Exchange) (event : Lobby.Event) (tracked : Tracked before)
    (taken : exchangeStep resources before (.lobby event) after) : Tracked after := by
  obtain ⟨lobby, step, rfl⟩ := taken
  obtain ⟨held, sessions, new, appended, quiet⟩ := traced_step resources _ _ _ step
  have silent : grants none (newMessages before.lobby lobby) = [] := by
    rw [new_messages_appended _ _ new appended, grants, welcomed_quiet new quiet]
    rfl
  constructor
  · exact held tracked.held
  · intro socket player there
    rcases sessions socket player there with sent | ⟨older, here, same⟩
    · exact List.mem_append_right _ sent
    · rw [← same]
      exact List.mem_append_left _ (tracked.known socket older here)
  · dsimp only
    rw [silent, List.append_nil, appended, welcomed_append, welcomed_quiet new quiet,
      List.append_nil]
    exact tracked.answers
  · dsimp only
    rw [silent, List.append_nil]
    exact fun grant member => List.mem_append_left _ (tracked.sent grant member)
  · exact tracked.numbered
  · dsimp only
    rw [silent, List.append_nil]
    exact tracked.stored
  · exact tracked.handed
  · exact tracked.apart
  · dsimp only
    rw [silent, List.append_nil]
    exact tracked.once
  · dsimp only
    rw [silent, List.append_nil]
    exact tracked.taken

theorem tracked_issued (resources : Resources) (before after : Exchange) (issue : Issue) (tracked : Tracked before)
    (taken : exchangeStep resources before (.issued issue) after) : Tracked after := by
  obtain ⟨number, redis, done, rfl⟩ := taken
  unfold handleLoginTokenToRedis setex at done
  split at done
  · rename_i word _
    cases done
    have fresh : ∀ other ∈ before.issued, other.id ≠ issue.id := by
      intro other member same
      have below := tracked.numbered other member
      omega
    constructor
    · exact tracked.held
    · exact tracked.known
    · exact tracked.answers
    · exact tracked.sent
    · intro other member
      rw [List.length_append]
      rcases List.mem_append.mp member with older | newest
      · have below := tracked.numbered other older
        simp only [List.length_singleton]
        omega
      · rw [List.mem_singleton.mp newest, number]
        simp
    · intro key other stored
      dsimp only at stored
      rw [get_insert] at stored
      split at stored
      · cases stored
        refine ⟨List.mem_append_right _ List.mem_cons_self, ?_⟩
        intro spent
        have below := tracked.taken _ spent
        omega
      · obtain ⟨member, unspent⟩ := tracked.stored key other stored
        exact ⟨List.mem_append_left _ member, unspent⟩
    · intro reply member other same
      exact List.mem_append_left _ (tracked.handed reply member other same)
    · intro key other first second one two same
      dsimp only at one two
      rw [get_insert] at one two
      split at one <;> split at two
      · rename_i here there
        exact here.trans there.symm
      · cases one
        exact absurd same.symm (fresh second (tracked.stored other second two).1)
      · cases two
        exact absurd same (fresh first (tracked.stored key first one).1)
      · exact tracked.apart key other first second one two same
    · exact tracked.once
    · intro id member
      have below := tracked.taken id member
      rw [List.length_append]
      exact Nat.lt_add_right _ below
  · cases done

theorem tracked_expired (resources : Resources) (before after : Exchange) (key : Str) (tracked : Tracked before)
    (taken : exchangeStep resources before (.expired key) after) : Tracked after := by
  rw [exchangeStep] at taken
  rw [taken]
  have kept : ∀ (other : Str) (issue : Issue), (before.redis.erase key)[other]? = some issue →
      before.redis[other]? = some issue := by
    intro other issue stored
    rw [get_erase] at stored
    split at stored
    · cases stored
    · exact stored
  exact { tracked with
    stored := fun other issue stored => tracked.stored other issue (kept other issue stored)
    apart := fun first second one two here there =>
      tracked.apart first second one two (kept first one here) (kept second two there) }

theorem tracked_redis_game (resources : Resources) (before after : Exchange) (account : Str) (tracked : Tracked before)
    (taken : exchangeStep resources before (.redisGame account) after) : Tracked after := by
  obtain ⟨asked, reply, redis, done, rfl⟩ := taken
  obtain ⟨-, kept, handed⟩ := handed_over before.redis redis account reply done
  have moved := tickets_handed_over before.replies before.granted reply
  -- The ticket handed over was still in redis, so it is none of those spent.
  have fresh : ∀ issue, reply.issue = some issue → issue ∈ before.issued ∧
      issue.id ∉ tickets before.replies before.granted ∧
      ∀ (key : Str) (other : Issue), redis[key]? = some other → other.id ≠ issue.id := by
    intro issue same
    rcases handed with none | ⟨key, found, ticket, was, gone⟩
    · rw [same] at none
      cases none
    · rw [same] at ticket
      cases ticket
      refine ⟨(tracked.stored key issue was).1, (tracked.stored key issue was).2, ?_⟩
      intro other another stays equal
      have here := tracked.apart other key another issue (kept other another stays) was equal
      rw [here, gone] at stays
      cases stays
  have within : ∀ id ∈ tickets (before.replies ++ [reply]) before.granted,
      id ∈ tickets before.replies before.granted ∨
        ∃ issue, reply.issue = some issue ∧ issue.id = id := by
    intro id member
    rcases List.mem_append.mp (moved.mem_iff.mp member) with new | old
    · right
      cases same : reply.issue with
      | none => simp [ticket, same] at new
      | some issue => exact ⟨issue, rfl, by simpa [ticket, same, eq_comm] using new⟩
    · exact Or.inl old
  constructor
  · exact tracked.held
  · exact tracked.known
  · exact tracked.answers
  · exact tracked.sent
  · exact tracked.numbered
  · intro key other stays
    obtain ⟨member, unspent⟩ := tracked.stored key other (kept key other stays)
    refine ⟨member, ?_⟩
    intro spent
    rcases within other.id spent with old | ⟨issue, same, equal⟩
    · exact unspent old
    · exact (fresh issue same).2.2 key other stays equal.symm
  · intro other member issue same
    rcases List.mem_append.mp member with older | newest
    · exact tracked.handed other older issue same
    · rw [List.mem_singleton.mp newest] at same
      exact (fresh issue same).1
  · exact fun key other first second one two =>
      tracked.apart key other first second (kept key first one) (kept other second two)
  · refine moved.nodup_iff.mpr ?_
    cases same : reply.issue with
    | none => simpa [ticket] using tracked.once
    | some issue => simpa [ticket] using ⟨(fresh issue same).2.1, tracked.once⟩
  · intro id member
    rcases within id member with old | ⟨issue, same, rfl⟩
    · exact tracked.taken id old
    · exact tracked.numbered issue (fresh issue same).1

theorem tracked_answered (resources : Resources) (before after : Exchange) (reply : Reply) (tracked : Tracked before)
    (taken : exchangeStep resources before (.answered reply) after) : Tracked after := by
  obtain ⟨member, lobby, handled, rfl⟩ := taken
  obtain ⟨collector, outcome⟩ := answer_cases before reply lobby handled
  have smaller := tickets_after_answer before.replies before.granted
    (grants reply.issue (newMessages before.lobby lobby)) reply member (by
      rcases outcome with ⟨none, -⟩ | ⟨player, -, -, one, -⟩
      · exact Or.inl none
      · exact Or.inr ⟨player, one⟩)
  have players := get_by_account_players before.lobby.collector reply.account
  constructor
  · dsimp only
    rw [collector]
    exact accounts_held_get _ _ tracked.held
  · intro socket player there
    dsimp only at there
    rw [getPlayerBySocket, collector, players] at there
    exact tracked.known socket player there
  · dsimp only
    rcases outcome with ⟨none, same, -⟩ | ⟨player, -, -, one, same, -⟩
    · rw [none, same, List.append_nil]
      exact tracked.answers
    · rw [one, same, List.map_append, tracked.answers]
      rfl
  · intro grant granted
    rcases outcome with ⟨none, -⟩ | ⟨player, found, -, one, -⟩
    · dsimp only at granted
      rw [none, List.append_nil] at granted
      exact tracked.sent grant granted
    · dsimp only at granted
      rw [one] at granted
      rcases List.mem_append.mp granted with older | newest
      · exact tracked.sent grant older
      · rw [List.mem_singleton.mp newest]
        exact tracked.known _ player (get_by_account_stored found)
  · exact tracked.numbered
  · intro key issue stored
    obtain ⟨known, unspent⟩ := tracked.stored key issue stored
    exact ⟨known, fun spent => unspent (smaller.subset spent)⟩
  · exact fun other listed => tracked.handed other (List.mem_of_mem_erase listed)
  · exact tracked.apart
  · obtain ⟨listed, perm, sublist⟩ := smaller
    exact perm.nodup_iff.mp (sublist.nodup tracked.once)
  · exact fun id listed => tracked.taken id (smaller.subset listed)

theorem tracked_step (resources : Resources) (before : Exchange) (event : Event) (after : Exchange)
    (tracked : Tracked before) (taken : exchangeStep resources before event after) :
    Tracked after := by
  cases event with
  | lobby event => exact tracked_lobby resources before after event tracked taken
  | issued issue => exact tracked_issued resources before after issue tracked taken
  | expired key => exact tracked_expired resources before after key tracked taken
  | redisGame account => exact tracked_redis_game resources before after account tracked taken
  | answered reply => exact tracked_answered resources before after reply tracked taken

/-! The guard decides the law. -/

theorem honest_kept (before after : Exchange) (honest : Honest before) (tracked : Tracked after)
    (same : after.granted = before.granted) (issued : before.issued ⊆ after.issued)
    (asked : ∀ playerSn, .queryPlayer playerSn ∈ after.lobby.sent →
      .queryPlayer playerSn ∈ before.lobby.sent) : Honest after := by
  refine ⟨tracked.answers, tracked.sent, ?_, ?_, ?_⟩
  · intro grant member
    rw [same] at member
    obtain ⟨issue, known, rest⟩ := honest.earned grant member
    exact ⟨issue, issued known, rest⟩
  · rw [same]
    exact honest.once
  · intro playerSn member
    rw [same]
    exact honest.queried playerSn (asked playerSn member)

theorem refused_unforged (own : Str) (reply : Reply)
    (refused : isTokenValid own (tokenOf reply) = false) :
    own ≠ [] ∧ ¬ tokenOf reply ++ [0] <+: own ∧
      ∀ issue, reply.issue = some issue → ¬ own <+: issue.token := by
  have invalid : ¬ (own <+: tokenOf reply ∨ tokenOf reply ++ [0] <+: own) := by
    rw [← token_valid_iff, refused]
    exact Bool.false_ne_true
  rw [not_or] at invalid
  refine ⟨?_, invalid.2, ?_⟩
  · rintro rfl
    exact invalid.1 List.nil_prefix
  · intro issue same starts
    apply invalid.1
    rw [tokenOf, same]
    exact starts

/-- An accepted token that is no forgery is the token handed over. -/
theorem accepted_unforged (own : Str) (reply : Reply)
    (accepted : isTokenValid own (tokenOf reply) = true) (nonempty : own ≠ [])
    (repeated : ¬ tokenOf reply ++ [0] <+: own) :
    ∃ issue, reply.issue = some issue ∧ own <+: issue.token := by
  rcases (token_valid_iff own reply).mp accepted with starts | repeats
  · cases same : reply.issue with
    | none =>
        rw [tokenOf, same] at starts
        exact absurd (List.prefix_nil.mp starts) nonempty
    | some issue =>
        rw [tokenOf, same] at starts
        exact ⟨issue, rfl, starts⟩
  · exact absurd repeats repeated

theorem granted_exact (player : LobbyPlayer) (reply : Reply)
    (accepted : isTokenValid player.components.token (tokenOf reply) = true)
    (unforged : player.components.token ≠ [] ∧
      ¬ tokenOf reply ++ [0] <+: player.components.token ∧
      ∀ issue, reply.issue = some issue → player.components.token <+: issue.token →
        player.components.token = issue.token ∧ issue.account = reply.account) :
    ∃ issue, reply.issue = some issue ∧ issue.token = player.components.token ∧ issue.token ≠ [] ∧
      issue.account = reply.account := by
  obtain ⟨nonempty, repeated, exact⟩ := unforged
  obtain ⟨issue, same, starts⟩ :=
    accepted_unforged player.components.token reply accepted nonempty repeated
  obtain ⟨token, account⟩ := exact issue same starts
  refine ⟨issue, same, token.symm, ?_, account⟩
  rw [← token]
  exact nonempty

theorem honest_granted (before after : Exchange) (honest : Honest before) (tracked : Tracked after)
    (player : LobbyPlayer) (issue : Issue)
    (granted : after.granted = before.granted ++ [⟨player, some issue⟩])
    (issued : after.issued = before.issued) (known : issue ∈ before.issued)
    (account : issue.account = player.account) (token : issue.token = player.components.token)
    (nonempty : issue.token ≠ [])
    (asked : ∀ playerSn, .queryPlayer playerSn ∈ after.lobby.sent →
      .queryPlayer playerSn ∈ before.lobby.sent ∨ playerSn = issue.playerSn) : Honest after := by
  have newest : (⟨player, some issue⟩ : Grant) ∈ after.granted := by
    rw [granted]
    exact List.mem_append_right _ List.mem_cons_self
  refine ⟨tracked.answers, tracked.sent, ?_, ?_, ?_⟩
  · intro grant member
    rw [issued]
    rw [granted] at member
    rcases List.mem_append.mp member with older | last
    · exact honest.earned grant older
    · rw [List.mem_singleton.mp last]
      exact ⟨issue, known, rfl, nonempty, account, token⟩
  · exact (List.sublist_append_right _ _).nodup tracked.once
  · intro playerSn member
    rcases asked playerSn member with older | last
    · obtain ⟨grant, held, rest⟩ := honest.queried playerSn older
      refine ⟨grant, ?_, rest⟩
      rw [granted]
      exact List.mem_append_left _ held
    · exact ⟨_, newest, issue, rfl, last.symm⟩

theorem unforged_decides (resources : Resources) (before : Exchange) (event : Event)
    (after : Exchange) (tracked : Tracked before) (honest : Honest before)
    (taken : exchangeStep resources before event after) :
    Unforged before event ↔ Honest after := by
  have trackedAfter := tracked_step resources before event after tracked taken
  cases event with
  | lobby event =>
      obtain ⟨lobby, step, rfl⟩ := taken
      obtain ⟨-, -, new, appended, quiet⟩ := traced_step resources _ _ _ step
      have silent : grants none (newMessages before.lobby lobby) = [] := by
        rw [new_messages_appended _ _ new appended, grants, welcomed_quiet new quiet]
        rfl
      refine ⟨fun _ => honest_kept before _ honest trackedAfter ?_ (List.Subset.refl _) ?_,
        fun _ => trivial⟩
      · dsimp only
        rw [silent, List.append_nil]
      · intro playerSn member
        dsimp only at member
        rw [appended] at member
        rcases List.mem_append.mp member with older | newest
        · exact older
        · exact absurd (quiet _ newest) (by simp [answersLogin])
  | issued issue =>
      obtain ⟨-, redis, -, rfl⟩ := taken
      exact ⟨fun _ => honest_kept before _ honest trackedAfter rfl (List.subset_append_left _ _)
        (fun _ member => member), fun _ => trivial⟩
  | expired key =>
      rw [exchangeStep] at taken
      rw [taken] at trackedAfter ⊢
      exact ⟨fun _ => honest_kept before _ honest trackedAfter rfl (List.Subset.refl _)
        (fun _ member => member), fun _ => trivial⟩
  | redisGame account =>
      obtain ⟨-, reply, redis, -, rfl⟩ := taken
      exact ⟨fun _ => honest_kept before _ honest trackedAfter rfl (List.Subset.refl _)
        (fun _ member => member), fun _ => trivial⟩
  | answered reply =>
      obtain ⟨listed, lobby, handled, rfl⟩ := taken
      obtain ⟨-, outcome⟩ := answer_cases before reply lobby handled
      rcases outcome with ⟨none, -, asked, refused⟩ | ⟨player, found, accepted, one, -, asked⟩
      · constructor
        · intro _
          refine honest_kept before _ honest trackedAfter ?_ (List.Subset.refl _) asked
          dsimp only
          rw [none, List.append_nil]
        · intro _ player found
          obtain ⟨nonempty, repeated, differs⟩ :=
            refused_unforged player.components.token reply (refused player found)
          exact ⟨nonempty, repeated, fun issue same starts => absurd starts (differs issue same)⟩
      · constructor
        · intro unforged
          obtain ⟨issue, same, token, nonempty, account⟩ :=
            granted_exact player reply accepted (unforged player found)
          have named := get_by_account_named _ _ player tracked.held found
          rw [playerSnOf, same] at asked
          refine honest_granted before _ honest trackedAfter player issue ?_ rfl
            (tracked.handed reply listed issue same) (account.trans named.symm) token nonempty asked
          dsimp only
          rw [one, same]
        · intro honestAfter other same
          rw [found] at same
          cases same
          obtain ⟨issue, -, held, nonempty, account, token⟩ :=
            honestAfter.earned ⟨player, reply.issue⟩ (by
              dsimp only
              rw [one]
              exact List.mem_append_right _ List.mem_cons_self)
          dsimp only at held account token
          refine ⟨token ▸ nonempty, ?_, ?_⟩
          · rw [tokenOf, held, ← token]
            intro repeats
            have longer : (issue.token ++ [0]).length ≤ issue.token.length := repeats.length_le
            rw [List.length_append, List.length_singleton] at longer
            omega
          · intro another same _
            rw [held] at same
            cases same
            exact ⟨token.symm, account.trans (get_by_account_named _ _ player tracked.held found)⟩

/-- Every welcomed client sent the token stored for its account, each token
welcomes one client and only its player is queried, along exactly the runs
that meet no forged token. -/
theorem token_logins_honest_iff (resources : Resources) (sn : UInt64) (trace : List Event)
    (s : Exchange) :
    Run (Guarded (exchangeStep resources) Unforged) (start sn) trace s ↔
      Run (Along (exchangeStep resources) Honest) (start sn) trace s :=
  guarded_iff_along Tracked (tracked_step resources) (unforged_decides resources)
    (tracked_start sn) (honest_start sn)

/-! A client that sends an empty token for an account without a token. -/

def tokenless : NetIdentify := ⟨⟨1, .tcpListen⟩, clear⟩

def rolesOnly : Resources := ⟨fun _ => none, 0⟩

theorem tokenless_run : ∃ s, Run (exchangeStep rolesOnly) (start 9)
    [.lobby (.login tokenless [97] []), .redisGame [97], .answered ⟨[97], none⟩] s ∧
      (s.granted.map (·.issue)) = [none] := by
  refine ⟨_, Run.next ⟨_, rfl, rfl⟩ (Run.next
    ⟨by decide, ⟨[97], none⟩, (∅ : Store).erase (tokenPrefix ++ [97]), rfl, rfl⟩
    (Run.next ⟨by decide, _, rfl, rfl⟩ (Run.refl _))), by decide⟩

/-- The empty token is a prefix of everything, even of the token that is not there. -/
theorem empty_token_welcomed :
    ¬ ∀ (resources : Resources) (sn : UInt64) (trace : List Event) (s : Exchange),
      Run (exchangeStep resources) (start sn) trace s → Honest s := by
  intro law
  obtain ⟨s, run, granted⟩ := tokenless_run
  have honest := law rolesOnly 9 _ s run
  obtain ⟨grant, member, held⟩ : ∃ grant ∈ s.granted, grant.issue = none :=
    List.mem_map.mp (granted ▸ List.mem_cons_self)
  obtain ⟨issue, -, some, -⟩ := honest.earned grant member
  rw [held] at some
  cases some

end GameBook.TokenLogin
