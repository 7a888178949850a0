import GameBook.OrderedMap
import GameBook.SocketObject

/-!
`Player` and `PlayerCollectorComponent`: players by socket and sockets by
account. `RemovePlayer` erases the account of the removed player even when a
later session of that account has taken the entry over.
-/

namespace GameBook.PlayerCollector

open Std OrderedMap SocketObject

structure Player (Components : Type) where
  account : Str
  socketKey : SocketKey
  playerSn : UInt64
  components : Components

/-- The collector. A player is stored under its own socket. -/
structure Collector (Components : Type) where
  players : Table Int (Player Components)
  accounts : Table Str Int
  keyed : ∀ (socket : Int) (player : Player Components),
    players[socket]? = some player → player.socketKey.socket = socket

variable {Components : Type}

def empty : Collector Components where
  players := ∅
  accounts := ∅
  keyed := by simp

def getPlayerBySocket (c : Collector Components) (socket : Int) : Option (Player Components) :=
  c.players[socket]?

def getPlayerBySn (c : Collector Components) (playerSn : UInt64) : Option (Player Components) :=
  (findIf (fun player => player.playerSn == playerSn) c.players).map (·.2)

/-- An account whose socket is gone is dropped from the map on the way. -/
def getPlayerByAccount (c : Collector Components) (account : Str) :
    Option (Player Components) × Collector Components :=
  match c.accounts[account]? with
  | none => (none, c)
  | some socket =>
      match c.players[socket]? with
      | none => (none, { c with accounts := c.accounts.erase account })
      | some player => (some player, c)

def setPlayer (c : Collector Components) (player : Player Components) : Collector Components where
  players := c.players.insert player.socketKey.socket player
  accounts := c.accounts
  keyed := by
    intro socket held
    rw [get_insert]
    split
    · rename_i same
      rintro ⟨⟩
      exact same.symm
    · exact c.keyed socket held

/-- `AddPlayer`: refused while the socket has a player. The account moves to
the new socket. -/
def addPlayer (c : Collector Components) (socketKey : SocketKey) (account : Str)
    (components : Components) : Option (Player Components × Collector Components) :=
  match c.players[socketKey.socket]? with
  | some _ => none
  | none =>
      let player := ⟨account, socketKey, 0, components⟩
      some (player, setPlayer { c with accounts := c.accounts.insert account socketKey.socket } player)

def removePlayer (c : Collector Components) (player : Player Components) : Collector Components where
  players := c.players.erase player.socketKey.socket
  accounts := c.accounts.erase player.account
  keyed := by
    intro socket held
    rw [get_erase]
    split
    · simp
    · exact c.keyed socket held

def removePlayerBySocket (c : Collector Components) (socket : Int) : Collector Components :=
  match c.players[socket]? with
  | none => c
  | some player => removePlayer c player

/-! Which players are held after an operation. -/

@[simp] theorem set_player_players (c : Collector Components) (player : Player Components) :
    (setPlayer c player).players = c.players.insert player.socketKey.socket player := rfl

theorem get_by_socket_set (c : Collector Components) (player : Player Components) (socket : Int) :
    getPlayerBySocket (setPlayer c player) socket =
      if socket = player.socketKey.socket then some player else getPlayerBySocket c socket :=
  get_insert _ _ _ _

theorem get_by_socket_remove_player (c : Collector Components) (player : Player Components)
    (socket : Int) : getPlayerBySocket (removePlayer c player) socket =
      if socket = player.socketKey.socket then none else getPlayerBySocket c socket :=
  get_erase _ _ _

theorem get_by_socket_remove (c : Collector Components) (removed socket : Int) :
    getPlayerBySocket (removePlayerBySocket c removed) socket =
      if socket = removed then none else getPlayerBySocket c socket := by
  unfold removePlayerBySocket
  split
  · rename_i absent
    by_cases same : socket = removed
    · rw [if_pos same, same]
      exact absent
    · rw [if_neg same]
  · rename_i player held
    rw [get_by_socket_remove_player, c.keyed removed player held]

theorem get_by_sn_some {c : Collector Components} {playerSn : UInt64} {player : Player Components}
    (found : getPlayerBySn c playerSn = some player) :
    getPlayerBySocket c player.socketKey.socket = some player ∧ player.playerSn = playerSn := by
  obtain ⟨⟨socket, held⟩, search, rfl⟩ := Option.map_eq_some_iff.mp found
  obtain ⟨stored, hit⟩ := find_if_some search
  have key := c.keyed socket held stored
  dsimp only
  rw [key]
  exact ⟨stored, by simpa using hit⟩

theorem get_by_sn_is_some (c : Collector Components) (playerSn : UInt64) :
    (getPlayerBySn c playerSn).isSome ↔
      ∃ socket player, getPlayerBySocket c socket = some player ∧ player.playerSn = playerSn := by
  constructor
  · intro found
    obtain ⟨player, search⟩ := Option.isSome_iff_exists.mp found
    obtain ⟨held, sn⟩ := get_by_sn_some search
    exact ⟨_, player, held, sn⟩
  · rintro ⟨socket, player, held, rfl⟩
    obtain ⟨first, found, search⟩ :=
      find_if_found (p := fun other => other.playerSn == player.playerSn) held (by simp)
    simp [getPlayerBySn, search]

theorem add_player_some {c added : Collector Components} {socketKey : SocketKey} {account : Str}
    {components : Components} {player : Player Components}
    (done : addPlayer c socketKey account components = some (player, added)) :
    getPlayerBySocket c socketKey.socket = none ∧ player = ⟨account, socketKey, 0, components⟩ ∧
      ∀ socket, getPlayerBySocket added socket =
        if socket = socketKey.socket then some player else getPlayerBySocket c socket := by
  unfold addPlayer at done
  split at done
  · cases done
  · rename_i free
    cases done
    refine ⟨free, rfl, ?_⟩
    intro socket
    exact get_by_socket_set _ _ socket

/-! The account map never points past the players. -/

def AccountsHeld (c : Collector Components) : Prop :=
  ∀ (account : Str) (socket : Int), c.accounts[account]? = some socket →
    ∃ player, getPlayerBySocket c socket = some player ∧ player.account = account

theorem accounts_held_empty : AccountsHeld (empty : Collector Components) := by
  intro account socket entry
  simp [empty] at entry

theorem accounts_held_set (c : Collector Components) (old player : Player Components)
    (held : AccountsHeld c)
    (found : getPlayerBySocket c player.socketKey.socket = some old)
    (same : old.account = player.account) : AccountsHeld (setPlayer c player) := by
  intro account socket entry
  obtain ⟨other, there, named⟩ := held account socket entry
  rw [get_by_socket_set]
  split
  · rename_i here
    rw [here, found] at there
    cases there
    exact ⟨player, rfl, by rw [← same, named]⟩
  · exact ⟨other, there, named⟩

theorem accounts_held_add (c added : Collector Components) (socketKey : SocketKey) (account : Str)
    (components : Components) (player : Player Components) (held : AccountsHeld c)
    (done : addPlayer c socketKey account components = some (player, added)) :
    AccountsHeld added := by
  unfold addPlayer at done
  split at done
  · cases done
  · rename_i free
    cases done
    intro other socket entry
    rw [get_by_socket_set]
    simp only [setPlayer] at entry
    rw [get_insert] at entry
    split at entry
    · rename_i same
      cases entry
      exact ⟨_, if_pos rfl, same.symm⟩
    · obtain ⟨older, there, named⟩ := held other socket entry
      have apart : socket ≠ socketKey.socket := by
        rintro rfl
        rw [getPlayerBySocket, free] at there
        cases there
      exact ⟨older, (if_neg apart).trans there, named⟩

theorem accounts_held_remove (c : Collector Components) (player : Player Components)
    (held : AccountsHeld c) (found : getPlayerBySocket c player.socketKey.socket = some player) :
    AccountsHeld (removePlayer c player) := by
  intro account socket entry
  simp only [removePlayer] at entry
  rw [get_erase] at entry
  split at entry
  · cases entry
  · rename_i otherAccount
    obtain ⟨other, there, named⟩ := held account socket entry
    rw [get_by_socket_remove_player]
    split
    · rename_i here
      rw [here, found] at there
      cases there
      exact absurd named.symm otherAccount
    · exact ⟨other, there, named⟩

theorem accounts_held_remove_by_socket (c : Collector Components) (socket : Int)
    (held : AccountsHeld c) : AccountsHeld (removePlayerBySocket c socket) := by
  unfold removePlayerBySocket
  split
  · exact held
  · rename_i player found
    apply accounts_held_remove c player held
    rw [c.keyed socket player found]
    exact found

theorem get_by_account_players (c : Collector Components) (account : Str) :
    (getPlayerByAccount c account).2.players = c.players := by
  unfold getPlayerByAccount
  split
  · rfl
  · split
    · rfl
    · rfl

theorem accounts_held_get (c : Collector Components) (account : Str) (held : AccountsHeld c) :
    AccountsHeld (getPlayerByAccount c account).2 := by
  intro other socket entry
  have was : c.accounts[other]? = some socket := by
    unfold getPlayerByAccount at entry
    split at entry
    · exact entry
    · split at entry
      · dsimp only at entry
        rw [get_erase] at entry
        split at entry
        · cases entry
        · exact entry
      · exact entry
  rw [getPlayerBySocket, get_by_account_players]
  exact held other socket was

theorem get_by_account_stored {c : Collector Components} {account : Str} {player : Player Components}
    (found : (getPlayerByAccount c account).1 = some player) :
    getPlayerBySocket c player.socketKey.socket = some player := by
  unfold getPlayerByAccount at found
  split at found
  · cases found
  · rename_i socket entry
    split at found
    · cases found
    · rename_i other there
      cases found
      rw [c.keyed socket player there]
      exact there

theorem get_by_account_named (c : Collector Components) (account : Str) (player : Player Components)
    (held : AccountsHeld c) (found : (getPlayerByAccount c account).1 = some player) :
    player.account = account := by
  unfold getPlayerByAccount at found
  split at found
  · cases found
  · rename_i socket entry
    split at found
    · cases found
    · rename_i other there
      cases found
      obtain ⟨named, here, same⟩ := held account socket entry
      rw [getPlayerBySocket, there] at here
      cases here
      exact same

end GameBook.PlayerCollector
