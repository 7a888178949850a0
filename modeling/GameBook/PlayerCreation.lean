import GameBook.Account
import GameBook.PlayerQueries

/-!
The creation of a player, from the database process back to the client. The
statements of `HandleCreatePlayer` may be missing, and each step may fail;
`HandleCreatePlayerRs` of the login process looks for the player by the socket
on which the reply came in.
-/

namespace GameBook.PlayerCreation

open CString (Bytes cStr)
open SavedPlayers
open SocketObject (Str SocketKey NetworkType)
open BindBuffer (boundStr)

structure Connector extends PlayerQueries.Database where
  createStmt : Bool
  saveStmt : Bool
  /-- Whether the statement that saves is executed. -/
  saves : List Row → Player → Bool

inductive ReturnCode where
  | createOk
  | unknown
  | rename
  deriving DecidableEq, Repr

def ReturnCode.number : ReturnCode → Int
  | .createOk => 0
  | .unknown => 1
  | .rename => 2

inductive Reply where
  | createPlayerRs (account : Bytes) (code : ReturnCode)
  | queryPlayerListRs (list : PlayerList)
  deriving DecidableEq

def onSavePlayer (connector : Connector) (rows : List Row) (player : Player) : Bool × List Row :=
  if connector.saves rows player then (true, SavedPlayers.onSavePlayer rows player) else (false, rows)

/-- The rows afterwards and what is sent. Following a null statement is the
result `none`. -/
def handleCreatePlayer (connector : Connector) (protobuf : Protobuf) (rows : List Row) (account : Bytes)
    (player : Player) : Option (List Row × Option Reply) :=
  if !connector.createStmt then some (rows, none)
  -- the second check asks for the first statement again
  else if !connector.createStmt then some (rows, none)
  else
    match connector.insert rows player.sn (boundStr account) (boundStr player.name) with
    | none => some (rows, some (.createPlayerRs (cStr account) .unknown))
    | some created =>
        if !connector.saveStmt then none
        else
          -- whether it was saved is not looked at
          let saved := (onSavePlayer connector created player).2
          some (saved, (PlayerQueries.queryPlayerList connector.toDatabase protobuf saved account).map
            .queryPlayerListRs)

/-! ### What is asked -/

def Succeeds (connector : Connector) (rows : List Row) (account : Bytes) (player : Player) : Prop :=
  connector.createStmt = true ∧ ∃ created,
    connector.insert rows player.sn (boundStr account) (boundStr player.name) = some created ∧
      connector.saveStmt = true ∧ connector.saves created player = true

def Stored (rows : List Row) (player : Player) : Prop :=
  ∀ row ∈ rows, row.sn = player.sn →
    row.base = some (serializeBase player.base) ∧ row.misc = some (serializeMisc player.misc)

/-- A list is sent only of a player that was created and saved, and otherwise
a failure. -/
def AllOrNothing (connector : Connector) (protobuf : Protobuf) (rows : List Row) (account : Bytes)
    (player : Player) : Prop :=
  ∃ after reply, handleCreatePlayer connector protobuf rows account player = some (after, reply) ∧
    (∀ list, reply = some (.queryPlayerListRs list) →
      Succeeds connector rows account player ∧ Stored after player) ∧
    (¬Succeeds connector rows account player → reply = some (.createPlayerRs (cStr account) .unknown))

/-- The player of the account is told the code, if it is there. -/
def Forwards {Proto : Type} (s : Account.AccountState Proto) (received : SocketKey) (account : Str)
    (code : ReturnCode) : Prop :=
  ∀ player, (PlayerCollector.getPlayerByAccount s.collector account).1 = some player →
    (Account.handleCreatePlayerRs s received code.number).sent =
      s.sent ++ [.createPlayerRs player.socketKey code.number]

/-! ### The database process -/

theorem stored_saved (rows : List Row) (player : Player) : Stored (SavedPlayers.onSavePlayer rows player) player := by
  intro row member same
  rw [on_save_player] at member
  obtain ⟨before, -, rfl⟩ := List.mem_map.mp member
  by_cases own : before.sn = player.sn
  · rw [savedRow, if_pos own]
    exact ⟨rfl, rfl⟩
  · rw [savedRow, if_neg own] at same
    exact absurd same own

section Creation

variable (connector : Connector) (protobuf : Protobuf) (rows : List Row) (account : Bytes) (player : Player)

/-- The insert is attempted, and where it is carried out the save is, too. -/
def SavesInserted : Prop :=
  connector.createStmt = true ∧
    ∀ created, connector.insert rows player.sn (boundStr account) (boundStr player.name) = some created →
      connector.saveStmt = true ∧ connector.saves created player = true

variable {connector rows account player}

theorem not_succeeds {created : List Row}
    (inserted : connector.insert rows player.sn (boundStr account) (boundStr player.name) = some created)
    (unsaved : connector.saves created player = false) : ¬Succeeds connector rows account player := by
  rintro ⟨-, other, same, -, saved⟩
  cases inserted.symm.trans same
  exact Bool.false_ne_true (unsaved.symm.trans saved)

theorem saves_of_all_or_nothing (holds : AllOrNothing connector protobuf rows account player) :
    SavesInserted connector rows account player := by
  obtain ⟨after, reply, handled, told, failed⟩ := holds
  rw [handleCreatePlayer] at handled
  cases creates : connector.createStmt with
  | false =>
      rw [creates] at handled
      cases handled
      cases failed fun succeeds => Bool.false_ne_true (creates.symm.trans succeeds.1)
  | true =>
      refine ⟨creates, ?_⟩
      intro created inserted
      simp only [creates, inserted, Bool.not_true, Bool.false_eq_true, if_false] at handled
      cases stmt : connector.saveStmt with
      | false =>
          rw [stmt] at handled
          cases handled
      | true =>
          refine ⟨rfl, ?_⟩
          cases saved : connector.saves created player with
          | true => rfl
          | false =>
              simp only [stmt, Bool.not_true, Bool.false_eq_true, if_false] at handled
              rw [failed (not_succeeds inserted saved)] at handled
              -- where a player was inserted, nothing but its list is sent
              generalize PlayerQueries.queryPlayerList _ _ _ _ = list at handled
              cases list with
              | none => cases handled
              | some list => cases handled

theorem all_or_nothing_of_saves (holds : SavesInserted connector rows account player) :
    AllOrNothing connector protobuf rows account player := by
  obtain ⟨creates, saves⟩ := holds
  rw [AllOrNothing, handleCreatePlayer]
  cases inserted : connector.insert rows player.sn (boundStr account) (boundStr player.name) with
  | none =>
      simp only [creates, Bool.not_true, Bool.false_eq_true, if_false]
      refine ⟨rows, _, rfl, ?_, fun _ => rfl⟩
      intro list told
      cases told
  | some created =>
      obtain ⟨stmt, saved⟩ := saves created inserted
      simp only [creates, stmt, onSavePlayer, saved, Bool.not_true, Bool.false_eq_true, if_false, if_true]
      have succeeds : Succeeds connector rows account player := ⟨creates, created, inserted, stmt, saved⟩
      refine ⟨_, _, rfl, ?_, fun fails => absurd succeeds fails⟩
      intro list _
      exact ⟨succeeds, stored_saved created player⟩

end Creation

/-! ### The login process -/

section Login

open PlayerCollector

variable {Proto : Type} {s : Account.AccountState Proto} {received : SocketKey} {account : Str}

/-- The reply came in on the socket of the player's own client. -/
def OwnSocket (s : Account.AccountState Proto) (received : SocketKey) (account : Str) : Prop :=
  ∀ player, (getPlayerByAccount s.collector account).1 = some player → player.socketKey.socket = received.socket

theorem forwards_iff (code : ReturnCode) : Forwards s received account code ↔ OwnSocket s received account := by
  constructor
  · intro forwards player found
    have told := forwards player found
    rw [Account.handleCreatePlayerRs] at told
    cases held : getPlayerBySocket s.collector received.socket with
    | none =>
        rw [held] at told
        simp at told
    | some other =>
        rw [held] at told
        have own := s.collector.keyed received.socket other held
        simp only [Account.send, List.append_cancel_left_eq, List.cons.injEq, Account.Sent.createPlayerRs.injEq] at told
        rw [← told.1.1]
        exact own
  · intro own player found
    have held := get_by_account_stored found
    rw [own player found] at held
    rw [Account.handleCreatePlayerRs, held]
    rfl

end Login

/-- The creation is all or nothing exactly when the statement for the insert is
there and whatever is inserted is saved; the reply reaches the client exactly
when it came in on that client's own socket. -/
theorem creation_told_iff {Proto : Type} (connector : Connector) (protobuf : Protobuf) (rows : List Row)
    (account : Bytes) (player : Player) (s : Account.AccountState Proto) (received : SocketKey)
    (named : Str) (code : ReturnCode) :
    (AllOrNothing connector protobuf rows account player ↔ SavesInserted connector rows account player) ∧
      (Forwards s received named code ↔ OwnSocket s received named) :=
  ⟨⟨saves_of_all_or_nothing protobuf, all_or_nothing_of_saves protobuf⟩, forwards_iff code⟩

/-! A table that takes every player and saves none, and a client on socket 9
whose reply comes in on the connection to the database process, socket 7. -/

def unsaving : Connector where
  select _ rows := some rows
  insert rows sn account name := some (⟨sn, name, account, none, none⟩ :: rows)
  createStmt := true
  saveStmt := true
  saves _ _ := false

def client : SocketKey := ⟨9, .tcpListen⟩

def loggedIn : Account.AccountState Unit :=
  Account.handleAccountCheck Account.create ⟨client, fun _ => none⟩ [98] [49]

theorem creation_not_told :
    (¬ ∀ connector protobuf rows account player, AllOrNothing connector protobuf rows account player) ∧
      ¬ ∀ (s : Account.AccountState Unit) (received : SocketKey) (named : Str) (code : ReturnCode),
        Forwards s received named code := by
  constructor
  · intro law
    have saves := saves_of_all_or_nothing _
      (law unsaving ⟨fun _ => ⟨0, 0⟩, fun _ => ⟨none, none, 0⟩⟩ [] [98] ⟨1, [110], ⟨1, 0⟩, ⟨none, none, 0⟩⟩)
    exact Bool.false_ne_true (saves.2 _ rfl).2
  · intro law
    have own := (forwards_iff .unknown).mp (law loggedIn ⟨7, .tcpConnector⟩ [98] .unknown)
    have held : (PlayerCollector.getPlayerByAccount loggedIn.collector [98]).1 =
        some ⟨[98], client, 0, ⟨[49], 0, false, none⟩⟩ := by rfl
    have same := own _ held
    revert same
    decide

end GameBook.PlayerCreation
