import GameBook.VerificationConnects

/-!
A client that waits for the answer to its C2L_AccountCheck has a session, and
something is under way that leads to the answer, in every run in which no http
connection is closed as the last thing under way for it.
-/

namespace GameBook.AttemptsAnswered

open OrderedMap SocketObject CString PlayerCollector SyncComponent Account LabelledRun LoginAttempts
open VerificationConnects
open NetworkConnects (ConnectObj)
open OutgoingConnects (Connector Outcome close changeStateToConnected)
open LoginVerification (newMessages new_messages onlineQueries connects)
open ConnectsAnnounced (waits_congr)

variable {Proto : Type}

def Mapped (c : Collector (Components Proto)) : Prop :=
  ∀ socket player, getPlayerBySocket c socket = some player → c.accounts[player.account]? = some socket

theorem lookup {c : Collector (Components Proto)} (held : AccountsHeld c) (account : Str) :
    getPlayerByAccount c account = (none, c) ∨
    ∃ player, getPlayerByAccount c account = (some player, c) ∧
      getPlayerBySocket c player.socketKey.socket = some player ∧ player.account = account := by
  unfold getPlayerByAccount
  cases entry : c.accounts[account]? with
  | none => exact Or.inl rfl
  | some socket =>
      obtain ⟨player, there, named⟩ := held account socket entry
      have inside : c.players[socket]? = some player := there
      right
      refine ⟨player, ?_, ?_, named⟩
      · dsimp only
        rw [inside]
      · rw [c.keyed socket player inside]
        exact there

theorem lookup_session {c : Collector (Components Proto)} (mapped : Mapped c) {socket : Int}
    {player : Session Proto} (there : getPlayerBySocket c socket = some player) :
    getPlayerByAccount c player.account = (some player, c) := by
  have inside : c.players[socket]? = some player := there
  unfold getPlayerByAccount
  rw [mapped socket player there]
  dsimp only
  rw [inside]

theorem mapped_set {c : Collector (Components Proto)} (mapped : Mapped c)
    (found stored : Session Proto)
    (there : getPlayerBySocket c stored.socketKey.socket = some found)
    (same : found.account = stored.account) : Mapped (setPlayer c stored) := by
  intro socket player held
  rw [get_by_socket_set] at held
  split at held
  · rename_i here
    cases held
    rw [here, ← same]
    exact mapped _ found there
  · exact mapped socket player held

theorem mapped_add {c added : Collector (Components Proto)} (mapped : Mapped c)
    {socketKey : SocketKey} {account : Str} {components : Components Proto} {player : Session Proto}
    (unknown : (getPlayerByAccount c account).1 = none)
    (done : addPlayer c socketKey account components = some (player, added)) : Mapped added := by
  have players := add_player_some done
  have accounts : added.accounts = c.accounts.insert account socketKey.socket := by
    unfold addPlayer at done
    split at done
    · cases done
    · cases done
      rfl
  intro socket other held
  rw [players.2.2] at held
  rw [accounts, get_insert]
  split at held
  · rename_i here
    cases held
    rw [players.2.1, if_pos rfl, here]
  · have older := mapped socket other held
    rw [if_neg ?_, older]
    intro same
    have found := lookup_session mapped held
    rw [same] at found
    rw [found] at unknown
    cases unknown

theorem mapped_remove {c : Collector (Components Proto)} (mapped : Mapped c) (socket : Int) :
    Mapped (removePlayerBySocket c socket) := by
  intro other player held
  rw [get_by_socket_remove] at held
  split at held
  · cases held
  · rename_i apart
    have entry := mapped other player held
    unfold removePlayerBySocket
    split
    · exact entry
    · rename_i removed there
      simp only [removePlayer, get_erase]
      rw [if_neg ?_, entry]
      intro same
      have also := mapped socket removed there
      rw [← same, entry] at also
      exact apart (Option.some.inj also)

structure Serves (before after : AccountState Proto) (new : List (Sent Proto)) : Prop where
  appended : after.sent = before.sent ++ new
  held : AccountsHeld after.collector
  mapped : Mapped after.collector
  kept : ∀ socket player, getPlayerBySocket before.collector socket = some player →
    ∃ now, getPlayerBySocket after.collector socket = some now ∧ now.account = player.account

structure Seated (s : AccountState Proto) : Prop where
  held : AccountsHeld s.collector
  mapped : Mapped s.collector

theorem serves_same {before after : AccountState Proto} {new : List (Sent Proto)}
    (seated : Seated before) (collector : after.collector = before.collector)
    (appended : after.sent = before.sent ++ new) : Serves before after new where
  appended := appended
  held := by
    rw [collector]
    exact seated.held
  mapped := by
    rw [collector]
    exact seated.mapped
  kept := by
    intro socket player there
    exact ⟨player, by rw [collector, there], rfl⟩

theorem serves_nothing {s : AccountState Proto} (seated : Seated s) : Serves s s [] :=
  serves_same seated rfl (List.append_nil _).symm

theorem serves_set {before after : AccountState Proto} {new : List (Sent Proto)}
    (seated : Seated before) (found stored : Session Proto)
    (collector : after.collector = setPlayer before.collector stored)
    (there : getPlayerBySocket before.collector stored.socketKey.socket = some found)
    (same : found.account = stored.account)
    (appended : after.sent = before.sent ++ new) : Serves before after new where
  appended := appended
  held := by
    rw [collector]
    exact accounts_held_set before.collector found stored seated.held there same
  mapped := by
    rw [collector]
    exact mapped_set seated.mapped found stored there same
  kept := by
    intro socket player held
    rw [collector, get_by_socket_set]
    split
    · rename_i here
      rw [here, there] at held
      cases held
      exact ⟨stored, rfl, same.symm⟩
    · exact ⟨player, held, rfl⟩

theorem serves_player_list {s : AccountState Proto} (seated : Seated s) (account : Str)
    (players : List (UInt64 × Proto)) :
    ∃ new, Serves s (handleQueryPlayerListRs s account players) new := by
  unfold handleQueryPlayerListRs
  rcases lookup seated.held account with absent | ⟨player, found, there, _⟩
  · rw [absent]
    exact ⟨[], serves_nothing seated⟩
  · rw [found]
    refine ⟨[.playerList player.socketKey players], ?_⟩
    dsimp only
    split
    · exact serves_set seated player _ rfl there rfl rfl
    · exact serves_same seated rfl rfl

theorem serves_create {s : AccountState Proto} (seated : Seated s) (socketKey : SocketKey)
    (create : CreatePlayer) (playerSn : UInt64) :
    ∃ new, Serves s (handleCreatePlayer s socketKey create playerSn) new := by
  unfold handleCreatePlayer
  split
  · exact ⟨[], serves_nothing seated⟩
  · exact ⟨_, serves_same seated rfl rfl⟩

theorem serves_create_rs {s : AccountState Proto} (seated : Seated s) (socketKey : SocketKey)
    (code : Int) : ∃ new, Serves s (handleCreatePlayerRs s socketKey code) new := by
  unfold handleCreatePlayerRs
  split
  · exact ⟨[], serves_nothing seated⟩
  · exact ⟨_, serves_same seated rfl rfl⟩

theorem serves_select {s : AccountState Proto} (seated : Seated s) (socketKey : SocketKey)
    (playerSn : UInt64) : ∃ new, Serves s (handleSelectPlayer s socketKey playerSn) new := by
  unfold handleSelectPlayer
  split
  · exact ⟨[], serves_nothing seated⟩
  · rename_i player there
    have own : getPlayerBySocket s.collector player.socketKey.socket = some player := by
      rw [s.collector.keyed socketKey.socket player there]
      exact there
    dsimp only
    split
    · exact ⟨_, serves_set seated player _ rfl own rfl rfl⟩
    · exact ⟨_, serves_set seated player _ rfl own rfl rfl⟩

theorem serves_token {s : AccountState Proto} (seated : Seated s) (account token : Str) :
    ∃ new, Serves s (handleTokenToRedisRs s account token) new := by
  unfold handleTokenToRedisRs
  rcases lookup seated.held account with absent | ⟨player, found, _, _⟩
  · rw [absent]
    exact ⟨[], serves_nothing seated⟩
  · rw [found]
    dsimp only
    split
    · exact ⟨_, serves_same seated rfl rfl⟩
    · exact ⟨_, serves_same seated rfl rfl⟩

theorem serves_connected {s : AccountState Proto} (seated : Seated s) (identify : NetIdentify) :
    ∃ new, Serves s (handleNetworkConnected s identify) new := by
  unfold handleNetworkConnected
  split
  · exact ⟨[], serves_nothing seated⟩
  · rename_i tag _
    split
    · exact ⟨[], serves_nothing seated⟩
    · rcases lookup seated.held tag.keyStr with absent | ⟨player, found, _, _⟩
      · rw [absent]
        exact ⟨[], serves_nothing seated⟩
      · rw [found]
        exact ⟨_, serves_same seated rfl rfl⟩

/-! ### The invariant -/

/-- A client that waits has a session, and something is under way for it. -/
structure Inv (s : Login Proto) : Prop where
  http : Http s.connector
  seated : Seated s.account
  asks : ∀ socket name, s.asking socket = some name → cStr name = name ∧
    ∃ player, getPlayerBySocket s.account.collector socket = some player ∧ player.account = name
  ways : ∀ socket name, s.asking socket = some name → UnderWay s .nothing name

theorem inv_start : Inv (LoginAttempts.start : Login Proto) := by
  refine ⟨http_start, ⟨accounts_held_empty, ?_⟩, ?_, ?_⟩
  · intro socket player held
    simp [LoginAttempts.start, create, PlayerCollector.empty, getPlayerBySocket] at held
  · intro socket name asks
    cases asks
  · intro socket name asks
    cases asks

theorem record_asking (config : OutgoingConnects.Endpoint) (located : Bool) (s : Login Proto)
    (after : AccountState Proto) {new : List (Sent Proto)} (appended : after.sent = s.account.sent ++ new)
    (socket : Int) (name : Str) :
    (record config located s after).asking socket = some name ↔
      s.asking socket = some name ∧ new.any (answers located socket name) = false := by
  have messages : newMessages s.account after = new := new_messages appended
  simp only [record, messages]
  rw [Option.filter_eq_some_iff]
  simp

theorem under_way_record (endpoint : OutgoingConnects.Endpoint) (located : Bool) {s : Login Proto}
    (after : AccountState Proto) {name : Str} (way : UnderWay s .nothing name) :
    UnderWay (record endpoint located s after) .nothing name := by
  apply under_way_more way
  · exact List.subset_append_left _ _
  · exact List.Subset.refl _
  · exact List.subset_append_left _ _
  · rfl
  · rfl
  · rfl
  · exact List.prefix_rfl
  · rfl

/-- One handler that lets the sessions be. `s` is without the message it took. -/
theorem inv_record {s : Login Proto} (http : Http s.connector)
    (asks : ∀ socket name, s.asking socket = some name → cStr name = name ∧
      ∃ player, getPlayerBySocket s.account.collector socket = some player ∧ player.account = name)
    (endpoint : OutgoingConnects.Endpoint) (located : Bool) {after : AccountState Proto}
    {new : List (Sent Proto)} (serves : Serves s.account after new)
    (ways : ∀ socket name, s.asking socket = some name →
      new.any (answers located socket name) = false →
        UnderWay s .nothing name ∨ name ∈ onlineQueries new ∨ name ∈ connects new) :
    Inv (record endpoint located s after) := by
  have asking := record_asking endpoint located s after serves.appended
  have messages : newMessages s.account after = new := new_messages serves.appended
  refine ⟨http_orders http _, ⟨serves.held, serves.mapped⟩, ?_, ?_⟩
  · intro socket name asked
    obtain ⟨plain, player, there, named⟩ := asks socket name ((asking socket name).mp asked).1
    obtain ⟨now, here, same⟩ := serves.kept socket player there
    exact ⟨plain, now, here, same.trans named⟩
  · intro socket name asked
    obtain ⟨was, silent⟩ := (asking socket name).mp asked
    rcases ways socket name was silent with way | query | connect
    · exact under_way_record endpoint located after way
    · apply UnderWay.query
      have listed : name ∈ s.queries ++ onlineQueries (newMessages s.account after) := by
        rw [messages]
        exact List.mem_append_right _ query
      exact listed
    · apply UnderWay.order (LoginAttempts.createConnect endpoint name)
      · have listed : LoginAttempts.createConnect endpoint name ∈ s.connector.orders ++
            (connects (newMessages s.account after)).map (LoginAttempts.createConnect endpoint) := by
          rw [messages]
          exact List.mem_append_right _ (List.mem_map_of_mem connect)
        exact listed
      · exact http.typed.symm
      · exact ⟨rfl, rfl⟩

/-! ### Messages to `Account` -/

theorem session_of {s : Login Proto} (inv : Inv s) {socket : Int} {name : Str}
    (asks : s.asking socket = some name) :
    ∃ player, getPlayerByAccount s.account.collector name = (some player, s.account.collector) ∧
      player.socketKey.socket = socket ∧ player.account = name := by
  obtain ⟨_, player, there, named⟩ := inv.asks socket name asks
  have found := lookup_session inv.seated.mapped there
  rw [named] at found
  exact ⟨player, found, s.account.collector.keyed socket player there, named⟩

theorem inv_other {s : Login Proto} (inv : Inv s) (endpoint : OutgoingConnects.Endpoint)
    {after : AccountState Proto} (serves : ∃ new, Serves s.account after new) :
    Inv (record endpoint true s after) := by
  obtain ⟨new, serves⟩ := serves
  apply inv_record inv.http inv.asks endpoint true serves
  intro socket name asks _
  exact Or.inl (inv.ways socket name asks)

theorem serves_online {s : AccountState Proto} (seated : Seated s) (account : Str) (offline : Bool)
    (player : Session Proto)
    (found : getPlayerByAccount s.collector account = (some player, s.collector))
    (there : getPlayerBySocket s.collector player.socketKey.socket = some player) :
    Serves s (handleAccountQueryOnlineToRedisRs s account offline)
      [if offline then .createConnect (cStr player.account)
        else .accountCheckRs player.socketKey .online] := by
  unfold handleAccountQueryOnlineToRedisRs
  rw [found]
  cases offline with
  | false => exact serves_same seated rfl rfl
  | true => exact serves_set seated player _ rfl there rfl rfl

theorem inv_online {s : Login Proto} (inv : Inv s) (endpoint : OutgoingConnects.Endpoint)
    (index : Nat) (reply : OnlineRs) (taken : s.replies[index]? = some reply) :
    Inv (record endpoint true { s with replies := s.replies.eraseIdx index }
      (handleAccountQueryOnlineToRedisRs s.account reply.account reply.offline)) := by
  have seated := inv.seated
  rcases lookup seated.held reply.account with absent | ⟨player, found, there, named⟩
  · have serves : Serves s.account
        (handleAccountQueryOnlineToRedisRs s.account reply.account reply.offline) [] := by
      unfold handleAccountQueryOnlineToRedisRs
      rw [absent]
      exact serves_nothing seated
    apply inv_record (s := { s with replies := s.replies.eraseIdx index }) inv.http inv.asks
      endpoint true serves
    intro socket name asks _
    rcases under_way_reply taken (inv.ways socket name asks) with own | way
    · obtain ⟨player, found, _⟩ := session_of inv asks
      rw [own, absent] at found
      cases found
    · exact Or.inl way
  · apply inv_record (s := { s with replies := s.replies.eraseIdx index }) inv.http inv.asks
      endpoint true (serves_online seated reply.account reply.offline player found there)
    intro socket name asks silent
    rcases under_way_reply taken (inv.ways socket name asks) with same | way
    · -- The client's own reply: it is answered, or a connection is ordered.
      obtain ⟨plain, _⟩ := inv.asks socket name asks
      obtain ⟨other, also, socket', _⟩ := session_of inv asks
      rw [same, found] at also
      cases also
      cases offline : reply.offline with
      | false =>
          rw [offline] at silent
          simp [answers, socket'] at silent
      | true =>
          right
          right
          have own : cStr player.account = name := by rw [named, ← same, plain]
          simp [connects, own]
    · exact Or.inl way

theorem entered_sent (rolesMap : Option Int) (s : AccountState Proto) (receiver : SocketKey) :
    ∃ new, (sendEnterWorld rolesMap s receiver).sent = s.sent ++ new ∧
      (sendEnterWorld rolesMap s receiver).collector = s.collector := by
  cases rolesMap with
  | none => exact ⟨[], (List.append_nil _).symm, rfl⟩
  | some worldId => exact ⟨[.enterWorld receiver worldId], rfl, rfl⟩

theorem serves_response {s : AccountState Proto} (seated : Seated s) (rolesMap : Option Int)
    (response : Response) :
    (∃ new, Serves s (handleHttpOuterResponse rolesMap s response.identify response.status
        response.body) new) ∧
      ∀ tag player, response.identify.tagKey .account = some tag →
        getPlayerByAccount s.collector tag.keyStr = (some player, s.collector) →
        ∃ front, Serves s (handleHttpOuterResponse rolesMap s response.identify response.status
          response.body) (front ++
            [if responseCode response.status response.body = .ok then
                .queryPlayerList (cStr player.account)
              else .accountCheckRs player.socketKey
                (responseCode response.status response.body)]) := by
  have found : ∀ tag player, response.identify.tagKey .account = some tag →
      getPlayerByAccount s.collector tag.keyStr = (some player, s.collector) →
      ∃ front, Serves s (handleHttpOuterResponse rolesMap s response.identify response.status
        response.body) (front ++
          [if responseCode response.status response.body = .ok then
              .queryPlayerList (cStr player.account)
            else .accountCheckRs player.socketKey
              (responseCode response.status response.body)]) := by
    intro tag player tagged session
    unfold handleHttpOuterResponse
    rw [tagged]
    dsimp only
    rw [session]
    obtain ⟨entered, sent, collector⟩ := entered_sent rolesMap
      (Account.send s (.requestDisconnect response.identify.socketKey)) player.socketKey
    refine ⟨.requestDisconnect response.identify.socketKey :: entered, ?_⟩
    have sentAll : ∀ last : Sent Proto, (sendEnterWorld rolesMap
        (Account.send s (.requestDisconnect response.identify.socketKey))
        player.socketKey).sent ++ [last] =
          s.sent ++ ((.requestDisconnect response.identify.socketKey :: entered) ++ [last]) := by
      intro last
      rw [sent]
      simp [Account.send]
    dsimp only
    split
    · exact serves_same seated collector (sentAll _)
    · exact serves_same seated collector (sentAll _)
  refine ⟨?_, found⟩
  cases tagged : response.identify.tagKey .account with
  | none =>
      unfold handleHttpOuterResponse
      rw [tagged]
      exact ⟨[], serves_nothing seated⟩
  | some tag =>
      rcases lookup seated.held tag.keyStr with absent | ⟨player, session, _⟩
      · unfold handleHttpOuterResponse
        rw [tagged]
        dsimp only
        rw [absent]
        exact ⟨[], serves_nothing seated⟩
      · obtain ⟨front, serves⟩ := found tag player tagged session
        exact ⟨_, serves⟩

theorem inv_response {s : Login Proto} (inv : Inv s) (endpoint : OutgoingConnects.Endpoint)
    (rolesMap : Option Int) (index : Nat) (located : Bool) (response : Response)
    (taken : s.responses[index]? = some response)
    (heard : located = true ∨ (responseCode response.status response.body = .ok →
      Spare s (.response index) response.identify.tagKey)) :
    Inv (record endpoint located { s with responses := s.responses.eraseIdx index }
      (handleHttpOuterResponse rolesMap s.account response.identify response.status
        response.body)) := by
  have seated := inv.seated
  obtain ⟨⟨new, serves⟩, found⟩ := serves_response seated rolesMap response
  apply inv_record (s := { s with responses := s.responses.eraseIdx index }) inv.http inv.asks
    endpoint located serves
  intro socket name asks silent
  left
  rcases under_way_response taken (inv.ways socket name asks) with tagged | way
  · have asks' : s.asking socket = some name := asks
    by_cases lost : located = false ∧ responseCode response.status response.body = .ok
    · -- The query is not sent: something else stands in for it.
      rcases heard with sent | spare
      · rw [lost.1] at sent
        cases sent
      · exact under_way_responded (spare lost.2 socket name asks' tagged)
    · exfalso
      obtain ⟨tag, held, same⟩ := tagged
      obtain ⟨player, session, socket', named⟩ := session_of inv asks'
      obtain ⟨plain, _⟩ := inv.asks socket name asks'
      rw [← same] at session
      obtain ⟨front, own⟩ := found tag player held session
      have messages : new = _ := List.append_cancel_left (serves.appended.symm.trans own.appended)
      rw [messages, List.any_append, Bool.or_eq_false_iff] at silent
      have last := silent.2
      split at last
      · rename_i ok
        have here : located = true := by
          cases located with
          | true => rfl
          | false => exact absurd ⟨rfl, ok⟩ lost
        simp [answers, here, named, plain] at last
      · simp [answers, socket'] at last
  · exact under_way_responded way

theorem inv_disconnect {s : Login Proto} (inv : Inv s) (endpoint : OutgoingConnects.Endpoint)
    (socket : Int) (rest : List FromClient) :
    Inv (ask (record endpoint true { s with fromClients := rest }
      (handleNetworkDisconnect s.account (client socket).socketKey)) socket none) := by
  have seated := inv.seated
  have handled : handleNetworkDisconnect s.account (client socket).socketKey =
      removeBySocket s.account socket := by
    simp [handleNetworkDisconnect, client]
  rw [handled]
  have collector : (removeBySocket s.account socket).collector =
      removePlayerBySocket s.account.collector socket := by
    unfold removeBySocket
    split
    · rename_i absent
      have none : s.account.collector.players[socket]? = none := absent
      rw [removePlayerBySocket, none]
    · dsimp only
      split
      · rfl
      · rfl
  have sent : ∃ new, (removeBySocket s.account socket).sent = s.account.sent ++ new := by
    unfold removeBySocket
    split
    · exact ⟨[], (List.append_nil _).symm⟩
    · dsimp only
      split
      · exact ⟨_, rfl⟩
      · exact ⟨[], (List.append_nil _).symm⟩
  obtain ⟨new, appended⟩ := sent
  have older : ∀ other name, (ask (record endpoint true { s with fromClients := rest }
      (removeBySocket s.account socket)) socket none).asking other = some name →
        other ≠ socket ∧ s.asking other = some name := by
    intro other name asked
    by_cases same : other = socket
    · simp [ask, same] at asked
    · simp only [ask, if_neg same] at asked
      exact ⟨same, ((record_asking endpoint true { s with fromClients := rest } _ appended other
        name).mp asked).1⟩
  refine ⟨http_orders inv.http _, ⟨?_, ?_⟩, ?_, ?_⟩
  · exact collector ▸ accounts_held_remove_by_socket s.account.collector socket seated.held
  · exact collector ▸ mapped_remove seated.mapped socket
  · intro other name asked
    obtain ⟨apart, was⟩ := older other name asked
    obtain ⟨plain, player, there, named⟩ := inv.asks other name was
    refine ⟨plain, player, ?_, named⟩
    have kept : getPlayerBySocket (removePlayerBySocket s.account.collector socket) other =
        some player := by
      rw [get_by_socket_remove, if_neg apart, there]
    exact collector ▸ kept
  · intro other name asked
    obtain ⟨_, was⟩ := older other name asked
    have way : UnderWay { s with fromClients := rest } .nothing name :=
      under_way_same (inv.ways other name was) rfl rfl rfl rfl rfl
    have recorded := under_way_record endpoint true (removeBySocket s.account socket) way
    exact under_way_same recorded rfl rfl rfl rfl rfl

theorem inv_refused {s : Login Proto} (inv : Inv s) (endpoint : OutgoingConnects.Endpoint)
    (socket : Int) (account : Str) (rest : List FromClient) :
    Inv (record endpoint true (ask { s with fromClients := rest } socket (some account))
      (socketDisconnect s.account (client socket).socketKey)) := by
  have appended : (socketDisconnect s.account (client socket).socketKey).sent =
      s.account.sent ++ [.accountCheckRs (client socket).socketKey .logging,
        .requestDisconnect (client socket).socketKey] := by
    simp [socketDisconnect, Account.send]
  have older : ∀ other name, (record endpoint true
      (ask { s with fromClients := rest } socket (some account))
      (socketDisconnect s.account (client socket).socketKey)).asking other = some name →
        s.asking other = some name := by
    intro other name asked
    obtain ⟨was, silent⟩ := (record_asking endpoint true
      (ask { s with fromClients := rest } socket (some account)) _ appended other name).mp asked
    by_cases same : other = socket
    · simp [answers, client, same] at silent
    · simpa [ask, same] using was
  refine ⟨http_orders inv.http _, ⟨inv.seated.held, inv.seated.mapped⟩, fun other name asked =>
    inv.asks other name (older other name asked), ?_⟩
  intro other name asked
  have way : UnderWay (ask { s with fromClients := rest } socket (some account)) .nothing name :=
    under_way_same (inv.ways other name (older other name asked)) rfl rfl rfl rfl rfl
  exact under_way_record endpoint true _ way

theorem inv_taken {s : Login Proto} (inv : Inv s) (endpoint : OutgoingConnects.Endpoint)
    (socket : Int) (account password : Str) (rest : List FromClient)
    (plain : cStr account = account)
    (unknown : (getPlayerByAccount s.account.collector account).1 = none)
    (player : Session Proto) (added : Collector (Components Proto))
    (done : addPlayer s.account.collector (client socket).socketKey account
      ⟨password, 0, false, none⟩ = some (player, added)) :
    Inv (record endpoint true (ask { s with fromClients := rest } socket (some account))
      (Account.send (Account.send { s.account with collector := added }
        (.listenKey player.socketKey player.account)) (.queryOnline (cStr player.account)))) := by
  obtain ⟨free, fresh, players⟩ := add_player_some done
  have seated := inv.seated
  have appended : (Account.send (Account.send { s.account with collector := added }
      (.listenKey player.socketKey player.account)) (.queryOnline (cStr player.account))).sent =
      s.account.sent ++ [.listenKey player.socketKey player.account,
        .queryOnline (cStr player.account)] := by
    simp [Account.send]
  have messages := new_messages appended
  have asking := record_asking endpoint true (ask { s with fromClients := rest } socket
    (some account)) _ appended
  refine ⟨http_orders inv.http _, ⟨accounts_held_add _ added _ account _ player seated.held done,
    mapped_add seated.mapped unknown done⟩, ?_, ?_⟩
  · intro other name asked
    obtain ⟨was, _⟩ := (asking other name).mp asked
    by_cases same : other = socket
    · simp only [ask, if_pos same] at was
      cases was
      refine ⟨plain, player, (players other).trans (if_pos same), ?_⟩
      rw [fresh]
    · simp only [ask, if_neg same] at was
      obtain ⟨own, older, there, named⟩ := inv.asks other name was
      exact ⟨own, older, (players other).trans ((if_neg same).trans there), named⟩
  · intro other name asked
    obtain ⟨was, _⟩ := (asking other name).mp asked
    by_cases same : other = socket
    · simp only [ask, if_pos same] at was
      cases was
      apply UnderWay.query
      have listed : account ∈ s.queries ++ onlineQueries (newMessages s.account
          (Account.send (Account.send { s.account with collector := added }
            (.listenKey player.socketKey player.account)) (.queryOnline (cStr player.account)))) := by
        rw [messages, fresh, plain]
        exact List.mem_append_right _ List.mem_cons_self
      exact listed
    · simp only [ask, if_neg same] at was
      have way : UnderWay (ask { s with fromClients := rest } socket (some account)) .nothing name :=
        under_way_same (inv.ways other name was) rfl rfl rfl rfl rfl
      exact under_way_record endpoint true _ way

theorem inv_check {s : Login Proto} (inv : Inv s) (endpoint : OutgoingConnects.Endpoint)
    (socket : Int) (account password : Str) (rest : List FromClient)
    (heard : cStr account = account ∨
      (getPlayerByAccount s.account.collector account).1.isSome ∨
      (getPlayerBySocket s.account.collector socket).isSome) :
    Inv (record endpoint true (ask { s with fromClients := rest } socket (some account))
      (handleAccountCheck s.account (client socket) account password)) := by
  unfold handleAccountCheck
  rcases lookup inv.seated.held account with absent | ⟨player, found, _⟩
  · rw [absent]
    dsimp only
    split
    · exact inv_refused inv endpoint socket account rest
    · rename_i player added done
      have plain : cStr account = account := by
        rcases heard with plain | known | seated
        · exact plain
        · rw [absent] at known
          cases known
        · have free := (add_player_some done).1
          rw [show (client socket).socketKey.socket = socket from rfl] at free
          rw [free] at seated
          cases seated
      exact inv_taken inv endpoint socket account password rest plain (by rw [absent]) player added
        done
  · rw [found]
    exact inv_refused inv endpoint socket account rest

theorem inv_client {s after : Login Proto} (inv : Inv s) (endpoint : OutgoingConnects.Endpoint)
    (heard : ∀ socket account password rest,
      s.fromClients = .accountCheck socket account password :: rest →
        cStr account = account ∨
          (getPlayerByAccount s.account.collector account).1.isSome ∨
          (getPlayerBySocket s.account.collector socket).isSome)
    (taken : handleClient endpoint s = some after) : Inv after := by
  unfold handleClient at taken
  split at taken
  · cases taken
  · rename_i socket account password rest pending
    cases taken
    exact inv_check inv endpoint socket account password rest
      (heard socket account password rest pending)
  · rename_i socket rest _
    cases taken
    exact inv_disconnect inv endpoint socket rest

/-! ### Connections -/

theorem inv_connector {s t : Login Proto} (inv : Inv s) (account : t.account = s.account)
    (asking : t.asking = s.asking) (http : Http t.connector)
    (ways : ∀ socket name, s.asking socket = some name → UnderWay t .nothing name) : Inv t := by
  refine ⟨http, account ▸ inv.seated, ?_, ?_⟩
  · rw [asking, account]
    exact inv.asks
  · rw [asking]
    exact ways

theorem inv_closed {s : Login Proto} (inv : Inv s) (socket : Int) (obj : ConnectObj)
    (held : s.connector.network.connects[socket]? = some obj) (spare : SpareOn s socket) :
    Inv { s with connector := close s.connector socket obj } := by
  apply inv_connector inv
  · rfl
  · rfl
  · exact http_close inv.http socket obj held
  intro client name asks
  exact under_way_closed obj (under_way_besides spare asks (inv.ways client name asks))

theorem inv_established {s : Login Proto} (inv : Inv s) (socket : Int) (obj : ConnectObj)
    (held : s.connector.network.connects[socket]? = some obj) :
    Inv { s with connector := changeStateToConnected s.connector socket obj } := by
  apply inv_connector inv
  · rfl
  · rfl
  · exact http_established inv.http socket obj held
  intro client name asks
  exact under_way_established held (inv.ways client name asks)

theorem inv_except {s : Login Proto} (inv : Inv s) (socket : Int) (spare : SpareOn s socket) :
    Inv { s with connector := OutgoingConnects.except s.connector socket } := by
  unfold OutgoingConnects.except
  split
  · exact inv
  · rename_i obj held
    exact inv_closed inv socket obj held spare

theorem inv_request_disconnect {s : Login Proto} (inv : Inv s) (identify : NetIdentify)
    (spare : identify.socketKey.netType = .httpConnector → SpareOn s identify.socketKey.socket) :
    Inv { s with connector := OutgoingConnects.requestDisconnect s.connector identify } := by
  rcases request_disconnect_cases s.connector identify with same | ⟨obj, own, held, same⟩
  · rw [same]
    exact inv
  · rw [same]
    exact inv_closed inv _ obj held (spare (own.trans inv.http.typed))

theorem inv_writable {s : Login Proto} (inv : Inv s) (socket : Int) (sent : Bool)
    (heard : sent = true ∨
      (∃ obj, s.connector.network.connects[socket]? = some obj ∧ obj.state = .connecting) ∨
      SpareOn s socket) : Inv (writable s socket sent) := by
  have connector : Inv { s with connector := OutgoingConnects.send s.connector socket sent } := by
    unfold OutgoingConnects.send
    split
    · exact inv
    · rename_i obj held
      split
      · exact inv_established inv socket obj held
      · rename_i settled
        split
        · exact inv
        · rename_i failed
          rcases heard with ok | ⟨other, there, connecting⟩ | spare
          · exact absurd ok failed
          · rw [held] at there
            cases there
            exact absurd connecting settled
          · exact inv_closed inv socket obj held spare
  apply inv_connector connector
  · rfl
  · rfl
  · exact connector.http
  intro client name asks
  exact under_way_same (connector.ways client name asks) rfl rfl rfl rfl rfl

theorem inv_received {s : Login Proto} (inv : Inv s) (socket : Int) (obj : ConnectObj)
    (held : s.connector.network.connects[socket]? = some obj)
    (bodies : List (Int × Option ReturnCode)) (log : List OutgoingConnects.Record) :
    Inv { s with
      connector := { s.connector with log := log }
      responses := s.responses ++
        bodies.map fun body => ⟨obj.toNetIdentify, body.1, body.2⟩
      responded := fun other => s.responded other || (other = socket && !bodies.isEmpty) } := by
  have http : Http { s.connector with log := log } :=
    ⟨waits_congr inv.http.waits rfl rfl rfl, inv.http.typed, inv.http.keyed, inv.http.closed⟩
  apply inv_connector inv
  · rfl
  · rfl
  · exact http
  intro client name asks
  cases inv.ways client name asks with
  | query listed => exact .query listed
  | reply offline listed => exact .reply offline listed
  | order order listed own names => exact .order order listed own names
  | request index detail waiting asked names => exact .request index detail waiting asked names
  | connection other found apart there tagged silent =>
      by_cases same : other = socket
      · subst same
        rw [held] at there
        cases there
        cases bodies with
        | nil => exact .connection other obj apart held tagged (by simp [silent])
        | cons body rest =>
            refine .response s.responses.length ⟨obj.toNetIdentify, body.1, body.2⟩ nofun ?_ tagged
            simp
      · exact .connection other found apart there tagged (by simp [silent, same])
  | response index response apart listed tagged =>
      refine .response index response apart ?_ tagged
      obtain ⟨below, _⟩ := List.getElem?_eq_some_iff.mp listed
      dsimp only
      rw [List.getElem?_append_left below, listed]

theorem inv_readable {s : Login Proto} (inv : Inv s) (socket : Int)
    (bodies : List (Int × Option ReturnCode)) (isRs : Bool)
    (heard : isRs = true ∨
      (∃ obj, s.connector.network.connects[socket]? = some obj ∧ obj.state = .connecting) ∨
      SpareOn s socket) : Inv (readable s socket bodies isRs) := by
  -- MI_NetworkConnected is no answer and leads to none
  have received : Inv { readable s socket bodies isRs with established := s.established } := by
    unfold readable OutgoingConnects.recv LoginAttempts.received
    cases held : s.connector.network.connects[socket]? with
    | none => simpa using inv
    | some obj =>
        dsimp only
        by_cases connecting : obj.state = .connecting
        · simpa [connecting] using inv_established inv socket obj held
        · cases isRs with
          | true => simpa [connecting] using inv_received inv socket obj held bodies _
          | false =>
              have spare : SpareOn s socket := by
                rcases heard with ok | ⟨other, there, also⟩ | spare
                · cases ok
                · rw [held] at there
                  cases there
                  exact absurd also connecting
                · exact spare
              simpa [connecting] using inv_closed inv socket obj held spare
  apply inv_connector received
  · rfl
  · rfl
  · exact received.http
  intro client name asks
  exact under_way_same (received.ways client name asks) rfl rfl rfl rfl rfl

theorem inv_network_disconnect {s after : Login Proto} (inv : Inv s)
    (getIPEndPoint : UInt64 → UInt64 → Option OutgoingConnects.Endpoint)
    (endpoint : OutgoingConnects.Endpoint)
    (taken : handleDisconnect getIPEndPoint endpoint s = some after) : Inv after := by
  unfold handleDisconnect at taken
  split at taken
  · cases taken
  · rename_i closed rest pending
    obtain ⟨connector, handled, rfl⟩ := Option.map_eq_some_iff.mp taken
    -- not from the network of the clients: `Account` does not look at it
    have ignored : handleNetworkDisconnect s.account closed.socketKey = s.account := by
      have http := inv.http.closed closed (pending ▸ List.mem_cons_self)
      unfold handleNetworkDisconnect
      rw [if_pos]
      rw [http]
      decide
    have connected : Inv { s with connector := connector } := by
      unfold OutgoingConnects.handleNetworkDisconnect at handled
      rw [pending] at handled
      have later : ∀ other ∈ rest, other.socketKey.netType = .httpConnector := by
        intro other member
        exact inv.http.closed other (pending ▸ List.mem_cons_of_mem _ member)
      dsimp only at handled
      split at handled
      · cases handled
        have http : Http { s.connector with disconnects := rest } :=
          ⟨waits_congr inv.http.waits rfl rfl rfl, inv.http.typed, inv.http.keyed, later⟩
        apply inv_connector inv
        · rfl
        · rfl
        · exact http
        intro client name asks
        exact under_way_more (inv.ways client name asks) (List.Subset.refl _) (List.Subset.refl _)
          (List.Subset.refl _) rfl rfl rfl List.prefix_rfl rfl
      · rename_i tagApp _
        obtain ⟨found, _, rfl⟩ := Option.map_eq_some_iff.mp handled
        have http : Http { s.connector with
            disconnects := rest
            orders := s.connector.orders ++ [⟨.tcpConnector,
              ⟨.app, ⟨[], tagApp.keyInt64⟩, found, some closed.number⟩⟩] } :=
          ⟨waits_congr inv.http.waits rfl rfl rfl, inv.http.typed, inv.http.keyed, later⟩
        apply inv_connector inv
        · rfl
        · rfl
        · exact http
        intro client name asks
        exact under_way_more (inv.ways client name asks) (List.Subset.refl _) (List.Subset.refl _)
          (List.subset_append_left _ _) rfl rfl rfl List.prefix_rfl rfl
    rw [ignored]
    exact inv_other connected endpoint ⟨[], serves_nothing connected.seated⟩

theorem inv_step (config : Config) (before : Login Proto) (event : Event Proto)
    (after : Login Proto) (inv : Inv before)
    (taken : Guarded (loginStep config) Heard before event after) : Inv after := by
  obtain ⟨taken, heard⟩ := taken
  have seated := inv.seated
  cases event with
  | accept socket =>
      obtain ⟨_, rfl⟩ := taken
      exact ⟨inv.http, inv.seated, inv.asks, fun client name asks =>
        under_way_same (inv.ways client name asks) rfl rfl rfl rfl rfl⟩
  | sendCheck socket account password =>
      obtain ⟨_, rfl⟩ := taken
      exact ⟨inv.http, inv.seated, inv.asks, fun client name asks =>
        under_way_same (inv.ways client name asks) rfl rfl rfl rfl rfl⟩
  | hangUp socket =>
      obtain ⟨_, rfl⟩ := taken
      exact ⟨inv.http, inv.seated, inv.asks, fun client name asks =>
        under_way_same (inv.ways client name asks) rfl rfl rfl rfl rfl⟩
  | handleClient => exact inv_client inv config.endpoint heard taken
  | redis index offline =>
      obtain ⟨account, listed, rfl⟩ := taken
      exact ⟨inv.http, inv.seated, inv.asks, fun client name asks =>
        under_way_redis offline listed (inv.asks client name asks).1 (inv.ways client name asks)⟩
  | onlineRs index =>
      obtain ⟨reply, listed, rfl⟩ := taken
      exact inv_online inv config.endpoint index reply listed
  | networkConnect order =>
      rw [loginStep] at taken
      subst taken
      exact ⟨http_orders inv.http _, inv.seated, inv.asks, fun client name asks =>
        under_way_more (inv.ways client name asks) (List.Subset.refl _) (List.Subset.refl _)
          (List.subset_append_left _ _) rfl rfl rfl List.prefix_rfl rfl⟩
  | handleNetworkConnect sn =>
      obtain ⟨connector, handled, rfl⟩ := taken
      have http : Http connector := by
        obtain ⟨order, rest, pending, ⟨_, rfl⟩ | ⟨own, rfl⟩⟩ := handle_connect_cases handled
        · exact http_orders inv.http rest
        · exact http_add (http_orders inv.http rest) sn order.detail (heard order rest pending own)
      exact ⟨http, inv.seated, inv.asks, fun client name asks =>
        (under_way_ordered inv.http heard handled (inv.ways client name asks)).2⟩
  | update outcome =>
      obtain ⟨unused, rfl⟩ := taken
      obtain ⟨http, ways⟩ := under_way_update inv.http outcome unused
      exact ⟨http, inv.seated, inv.asks, fun client name asks =>
        ways name (inv.ways client name asks)⟩
  | readable socket bodies isRs =>
      rw [loginStep] at taken
      rw [taken]
      exact inv_readable inv socket bodies isRs heard
  | writable socket sent =>
      rw [loginStep] at taken
      rw [taken]
      exact inv_writable inv socket sent heard
  | except socket =>
      rw [loginStep] at taken
      rw [taken]
      exact inv_except inv socket heard
  | requestDisconnect identify =>
      rw [loginStep] at taken
      rw [taken]
      exact inv_request_disconnect inv identify heard
  | networkConnected index =>
      obtain ⟨identify, _, rfl⟩ := taken
      have popped : Inv { before with established := before.established.eraseIdx index } :=
        ⟨inv.http, inv.seated, inv.asks, fun client name asks =>
          under_way_same (inv.ways client name asks) rfl rfl rfl rfl rfl⟩
      exact inv_other popped config.endpoint (serves_connected seated identify)
  | httpOuterResponse index located =>
      obtain ⟨response, listed, rfl⟩ := taken
      exact inv_response inv config.endpoint config.rolesMap index located response listed
        (heard.imp id fun spare => spare response listed)
  | networkDisconnect =>
      exact inv_network_disconnect inv config.getIPEndPoint config.endpoint taken
  | playerListRs account players =>
      rw [loginStep] at taken
      rw [taken]
      exact inv_other inv config.endpoint (serves_player_list seated account players)
  | createPlayer identify create playerSn =>
      rw [loginStep] at taken
      rw [taken]
      exact inv_other inv config.endpoint (serves_create seated identify.socketKey create playerSn)
  | createPlayerRs identify code =>
      rw [loginStep] at taken
      rw [taken]
      exact inv_other inv config.endpoint (serves_create_rs seated identify.socketKey code)
  | selectPlayer identify playerSn =>
      rw [loginStep] at taken
      rw [taken]
      exact inv_other inv config.endpoint (serves_select seated identify.socketKey playerSn)
  | tokenRs account token =>
      rw [loginStep] at taken
      rw [taken]
      exact inv_other inv config.endpoint (serves_token seated account token)
  | appInfoListSync infos =>
      rw [loginStep] at taken
      rw [taken]
      exact inv_other inv config.endpoint
        ⟨[], serves_same seated rfl (List.append_nil _).symm⟩

theorem not_quiet {s : Login Proto} {account : Str} (plain : cStr account = account)
    (way : UnderWay s .nothing account) : ¬ Quiet s account := by
  intro quiet
  cases way with
  | query listed => exact quiet.queries (plain.symm ▸ listed)
  | reply offline listed => exact quiet.replies _ listed plain.symm
  | order order listed own names => exact quiet.orders order listed (plain.symm ▸ names)
  | request index detail waiting asked names =>
      exact quiet.requests index detail waiting asked (plain.symm ▸ names)
  | connection socket obj apart held tagged silent =>
      exact quiet.connects socket obj held (plain.symm ▸ tagged)
  | response index response apart listed tagged =>
      exact quiet.responses response (List.mem_of_getElem? listed) (plain.symm ▸ tagged)

/-- When all is quiet, every client that is still connected has its answer, where
no http connection is closed as the last thing under way for a client. -/
theorem attempts_answered (config : Config) (trace : List (Event Proto)) (s : Login Proto)
    (run : Run (Guarded (loginStep config) Heard) LoginAttempts.start trace s) : Law s := by
  have inv : Inv s := run_invariant Inv (inv_step config) run inv_start
  intro socket _ account asks
  exact not_quiet (inv.asks socket account asks).1 (inv.ways socket account asks)

/-! One client, its http connection answered or refused. -/

def verification : Config :=
  ⟨fun _ _ => some ⟨[], 7801⟩, fun _ _ => none, none, ⟨[], 7070⟩⟩

def dial (sn : Nat) : Outcome := if sn = 3 then .waiting 7 true else .noSocket

theorem dial_unused (c : Connector) (free : c.network.connects[(7 : Int)]? = none) :
    Unused c dial := by
  have only : ∀ sn socket, made (dial sn) = some socket → sn = 3 ∧ socket = 7 := by
    intro sn socket given
    unfold dial at given
    split at given
    · rename_i same
      exact ⟨same, (Option.some.inj given).symm⟩
    · cases given
  constructor
  · intro sn socket given
    rw [(only sn socket given).2]
    exact free
  · intro first second socket one two
    rw [(only first socket one).1, (only second socket two).1]

theorem attempts_answered_verified : ∃ s : Login Unit,
    Run (Guarded (loginStep verification) Heard) LoginAttempts.start
      [.accept 1, .sendCheck 1 [97] [112], .handleClient, .redis 0 true, .onlineRs 0,
        .handleNetworkConnect 3, .update dial, .writable 7 true, .networkConnected 0,
        .readable 7 [(200, some (.int 0))] true, .httpOuterResponse 0 true] s ∧
    s.connected = [1] ∧ s.asking 1 = none ∧ Law s := by
  have run : ∃ s : Login Unit, Run (Guarded (loginStep verification) Heard) LoginAttempts.start
      [.accept 1, .sendCheck 1 [97] [112], .handleClient, .redis 0 true, .onlineRs 0,
        .handleNetworkConnect 3, .update dial, .writable 7 true, .networkConnected 0,
        .readable 7 [(200, some (.int 0))] true, .httpOuterResponse 0 true] s ∧
      s.connected = [1] ∧ s.asking 1 = none := by
    refine ⟨_, .next ⟨⟨by decide, rfl⟩, trivial⟩ <| .next ⟨⟨by decide, rfl⟩, trivial⟩ <|
      .next ⟨(Option.some_get (by decide)).symm, ?_⟩ <|
      .next ⟨⟨[97], by decide, rfl⟩, trivial⟩ <|
      .next ⟨⟨⟨[97], true⟩, by decide, rfl⟩, trivial⟩ <|
      .next ⟨⟨_, (Option.some_get (by decide)).symm, rfl⟩, ?_⟩ <|
      .next ⟨⟨dial_unused _ (by decide), rfl⟩, trivial⟩ <|
      .next ⟨rfl, Or.inl rfl⟩ <|
      .next ⟨⟨_, (Option.some_get (by decide)).symm, rfl⟩, trivial⟩ <|
      .next ⟨rfl, Or.inl rfl⟩ <|
      .next ⟨⟨_, (Option.some_get (by decide)).symm, rfl⟩, Or.inl rfl⟩ <| .refl _, ?_, ?_⟩
    · intro socket account password rest pending
      cases pending
      exact Or.inl (by decide)
    · intro order rest pending own
      decide
    · decide
    · decide
  obtain ⟨s, taken, online, answered⟩ := run
  exact ⟨s, taken, online, answered, attempts_answered verification _ s taken⟩

/-- The verification server refuses the connection, and the client hears nothing. -/
theorem refused_unanswered :
    ¬ ∀ (config : Config) (trace : List (Event Unit)) (s : Login Unit),
      Run (loginStep config) LoginAttempts.start trace s → Law s := by
  intro law
  have run : ∃ s : Login Unit, Run (loginStep verification) LoginAttempts.start
      [.accept 1, .sendCheck 1 [97] [112], .handleClient, .redis 0 true, .onlineRs 0,
        .handleNetworkConnect 3, .update dial, .except 7, .networkDisconnect] s ∧
      s.connected = [1] ∧ s.asking 1 = some [97] ∧ s.fromClients = [] ∧ s.queries = [] ∧
      s.replies = [] ∧ s.connector.orders.length = 0 ∧ s.connector.connecting.removes = [3] ∧
      (s.connector.connecting.adds ∪ s.connector.connecting.objs).toList = [(3, 0)] ∧
      s.connector.network.connects.toList.length = 0 ∧ s.responses.length = 0 := by
    refine ⟨_, .next ⟨by decide, rfl⟩ <| .next ⟨by decide, rfl⟩ <|
      .next (Option.some_get (by decide)).symm <|
      .next ⟨[97], by decide, rfl⟩ <|
      .next ⟨⟨[97], true⟩, by decide, rfl⟩ <|
      .next ⟨_, (Option.some_get (by decide)).symm, rfl⟩ <|
      .next ⟨dial_unused _ (by decide), rfl⟩ <| .next rfl <|
      .next (Option.some_get (by decide)).symm <| .refl _, ?_⟩
    decide
  obtain ⟨s, taken, online, asks, clients, queries, replies, orders, removes, waiting, connects,
    responses⟩ := run
  apply law verification _ s taken 1 (by rw [online]; exact List.mem_cons_self) [97] asks
  constructor
  · exact clients
  · rw [queries]
    exact List.not_mem_nil
  · rw [replies]
    exact fun _ member => nomatch member
  · rw [List.eq_nil_of_length_eq_zero orders]
    exact fun _ member => nomatch member
  · rintro index detail ⟨sn, held, kept⟩
    have listed := Std.ExtTreeMap.mem_toList_iff_getElem?_eq_some.mpr held
    rw [waiting] at listed
    cases List.mem_singleton.mp listed
    rw [removes] at kept
    exact absurd List.mem_cons_self kept
  · intro socket obj held
    have listed := Std.ExtTreeMap.mem_toList_iff_getElem?_eq_some.mpr held
    rw [List.eq_nil_of_length_eq_zero connects] at listed
    cases listed
  · rw [List.eq_nil_of_length_eq_zero responses]
    exact fun _ member => nomatch member

end GameBook.AttemptsAnswered
