import GameBook.PlayerCollector
import GameBook.WhileLoop
import GameBook.LabelledRun

/-!
The two indexes of `PlayerCollectorComponent` over whole runs. `AddPlayer`
looks at the socket only, so an account that logs in on a second connection
takes the entry over, and removing either of its players erases the entry of
both. The indexes agree as long as no account is added twice.
-/

namespace GameBook.PlayerIndexes

open Std OrderedMap SocketObject PlayerCollector WhileLoop LabelledRun

variable {Components : Type}

def removePlayerBySn (c : Collector Components) (playerSn : UInt64) : Collector Components :=
  match getPlayerBySn c playerSn with
  | none => c
  | some player => removePlayer c player

/-- A turn of `RemoveAllPlayerAndCloseConnect`: the first player is asked to
disconnect and removed. -/
def removeFirst (s : Collector Components × List SocketKey) :
    Collector Components × List SocketKey ⊕ Collector Components × List SocketKey :=
  match findIf (fun _ => true) s.1.players with
  | none => .inr s
  | some (_, player) => .inl (removePlayer s.1 player, s.2 ++ [player.socketKey])

/-- `setPlayer` stands for the code that changes a player in place. It leaves
the socket and the account alone. -/
inductive Operation (Components : Type) where
  | addPlayer (socketKey : SocketKey) (account : Str) (components : Components)
  | removePlayer (player : Player Components)
  | removePlayerBySocket (socket : Int)
  | removePlayerBySn (playerSn : UInt64)
  | removeAllPlayerAndCloseConnect
  | getPlayerByAccount (account : Str)
  | setPlayer (player : Player Components)

def Held (c : Collector Components) (player : Player Components) : Prop :=
  getPlayerBySocket c player.socketKey.socket = some player

inductive Step : Collector Components → Operation Components → Collector Components → Prop where
  | refused {c socketKey account components} (taken : addPlayer c socketKey account components = none) :
      Step c (.addPlayer socketKey account components) c
  | added {c socketKey account components player after}
      (done : addPlayer c socketKey account components = some (player, after)) :
      Step c (.addPlayer socketKey account components) after
  | removed {c player} (held : Held c player) : Step c (.removePlayer player) (removePlayer c player)
  | removedBySocket {c socket} : Step c (.removePlayerBySocket socket) (removePlayerBySocket c socket)
  | removedBySn {c playerSn} : Step c (.removePlayerBySn playerSn) (removePlayerBySn c playerSn)
  | removedAll {c after closed} (ends : Ends removeFirst (c, []) (after, closed)) :
      Step c .removeAllPlayerAndCloseConnect after
  | got {c account} : Step c (.getPlayerByAccount account) (getPlayerByAccount c account).2
  | changed {c old player} (held : getPlayerBySocket c player.socketKey.socket = some old)
      (same : old.account = player.account) : Step c (.setPlayer player) (setPlayer c player)

/-! ### What the indexes are for -/

/-- The two indexes say the same, every player is found by its account, and no
account has two players. -/
structure Indexed (c : Collector Components) : Prop where
  consistent : ∀ (account : Str) (socket : Int), c.accounts[account]? = some socket ↔
    ∃ player, getPlayerBySocket c socket = some player ∧ player.account = account
  reachable : ∀ player, Held c player → (getPlayerByAccount c player.account).1 = some player
  single : ∀ first second, Held c first → Held c second → first.account = second.account → first = second

def Touches (c : Collector Components) : Operation Components → Player Components → Prop
  | .addPlayer _ _ _, _ => False
  | .removePlayer player, other => other = player
  | .removePlayerBySocket socket, other => other.socketKey.socket = socket
  | .removePlayerBySn playerSn, other => getPlayerBySn c playerSn = some other
  | .removeAllPlayerAndCloseConnect, _ => True
  | .getPlayerByAccount _, _ => False
  | .setPlayer player, other => other.socketKey.socket = player.socketKey.socket

/-- The indexes agree afterwards, and the players that the operation is not
about are still found. -/
def Kept (before : Collector Components) (operation : Operation Components)
    (after : Collector Components) : Prop :=
  Indexed after ∧ ∀ other, Held before other → ¬ Touches before operation other →
    (getPlayerByAccount after other.account).1 = some other

/-- A player that is going to be stored brings an account that no player has. -/
def Fresh (c : Collector Components) : Operation Components → Prop
  | .addPlayer socketKey account _ => getPlayerBySocket c socketKey.socket = none →
      ∀ player, Held c player → player.account ≠ account
  | _ => True

/-! ### The loop over all players -/

theorem remove_first_stops {s last : Collector Components × List SocketKey} (leaves : removeFirst s = .inr last) :
    last = s ∧ ∀ socket, getPlayerBySocket s.1 socket = none := by
  unfold removeFirst at leaves
  split at leaves
  · rename_i none
    cases leaves
    refine ⟨rfl, ?_⟩
    intro socket
    cases held : getPlayerBySocket s.1 socket with
    | none => rfl
    | some player => cases find_if_none.mp none socket player held
  · cases leaves

theorem remove_first_turn {s next : Collector Components × List SocketKey} (goes : removeFirst s = .inl next) :
    ∃ player, Held s.1 player ∧ next = (removePlayer s.1 player, s.2 ++ [player.socketKey]) := by
  unfold removeFirst at goes
  split at goes
  · cases goes
  · rename_i socket player found
    cases goes
    have stored := (find_if_some found).1
    refine ⟨player, ?_, rfl⟩
    unfold Held
    rw [s.1.keyed socket player stored]
    exact stored

theorem remove_all_ends (c : Collector Components) : ∃ result, Ends removeFirst (c, []) result := by
  apply ends_of_variant removeFirst (fun _ => True) (fun s => s.1.players.size) _ _ trivial
  intro s next _ goes
  obtain ⟨player, held, rfl⟩ := remove_first_turn goes
  exact ⟨trivial, size_erase_held _ _ player held⟩

/-- A player is still there or has been asked to disconnect. -/
def Cleared (c : Collector Components) (s : Collector Components × List SocketKey) : Prop :=
  AccountsHeld s.1 ∧ ∀ player, Held c player → Held s.1 player ∨ player.socketKey ∈ s.2

theorem cleared_turn {c : Collector Components} (s next : Collector Components × List SocketKey)
    (cleared : Cleared c s) (goes : removeFirst s = .inl next) : Cleared c next := by
  obtain ⟨kept, told⟩ := cleared
  obtain ⟨player, first, rfl⟩ := remove_first_turn goes
  refine ⟨accounts_held_remove s.1 player kept first, ?_⟩
  intro other there
  rcases told other there with still | listed
  · by_cases same : other.socketKey.socket = player.socketKey.socket
    · rw [Held, same, first] at still
      cases still
      exact Or.inr (List.mem_append_right _ List.mem_cons_self)
    · exact Or.inl ((get_by_socket_remove_player s.1 player _).trans ((if_neg same).trans still))
  · exact Or.inr (List.mem_append_left _ listed)

theorem remove_all_result {c after : Collector Components} {closed : List SocketKey} (held : AccountsHeld c)
    (ends : Ends removeFirst (c, []) (after, closed)) :
    AccountsHeld after ∧ (∀ socket, getPlayerBySocket after socket = none) ∧
      ∀ player, Held c player → player.socketKey ∈ closed := by
  obtain ⟨fuel, done⟩ := ends
  obtain ⟨⟨kept, told⟩, none⟩ := loop_stops (Cleared c) cleared_turn (fun _ _ => remove_first_stops) fuel (c, [])
    (after, closed) ⟨held, fun player there => Or.inl there⟩ done
  refine ⟨kept, none, ?_⟩
  intro player there
  rcases told player there with still | listed
  · rw [Held, none] at still
    cases still
  · exact listed

/-! ### One operation -/

def Listed (c : Collector Components) : Prop :=
  ∀ player, Held c player → c.accounts[player.account]? = some player.socketKey.socket

theorem held_of_get {c : Collector Components} {socket : Int} {player : Player Components}
    (found : getPlayerBySocket c socket = some player) : Held c player ∧ player.socketKey.socket = socket := by
  have key := c.keyed socket player found
  refine ⟨?_, key⟩
  unfold Held
  rw [key]
  exact found

theorem indexed_of_listed {c : Collector Components} (held : AccountsHeld c) (listed : Listed c) : Indexed c where
  consistent := by
    intro account socket
    constructor
    · exact held account socket
    · rintro ⟨player, found, rfl⟩
      obtain ⟨here, rfl⟩ := held_of_get found
      exact listed player here
  reachable := by
    intro player here
    unfold getPlayerByAccount
    rw [listed player here]
    have found : c.players[player.socketKey.socket]? = some player := here
    dsimp only
    rw [found]
  single := by
    intro first second one two same
    have entry := listed first one
    rw [same, listed second two] at entry
    unfold Held at one two
    rw [← Option.some.inj entry, two] at one
    exact (Option.some.inj one).symm

theorem indexed_parts {c : Collector Components} (indexed : Indexed c) : AccountsHeld c ∧ Listed c := by
  constructor
  · intro account socket entry
    exact (indexed.consistent account socket).mp entry
  · intro player here
    exact (indexed.consistent _ _).mpr ⟨player, here, rfl⟩

theorem add_player_free {c : Collector Components} {socketKey : SocketKey} (account : Str) (components : Components)
    (free : getPlayerBySocket c socketKey.socket = none) :
    ∃ after, addPlayer c socketKey account components = some (⟨account, socketKey, 0, components⟩, after) ∧
      after.accounts = c.accounts.insert account socketKey.socket := by
  have none : c.players[socketKey.socket]? = none := free
  unfold addPlayer
  rw [none]
  exact ⟨_, rfl, rfl⟩

theorem listed_add {c after : Collector Components} {socketKey : SocketKey} {account : Str}
    {components : Components} {player : Player Components} (listed : Listed c)
    (done : addPlayer c socketKey account components = some (player, after))
    (fresh : ∀ other, Held c other → other.account ≠ account) : Listed after := by
  obtain ⟨free, rfl, found⟩ := add_player_some done
  obtain ⟨_, again, accounts⟩ := add_player_free account components free
  rw [done] at again
  cases again
  intro other here
  unfold Held at here
  rw [found] at here
  rw [accounts, get_insert]
  split at here
  · cases here
    exact if_pos rfl
  · rw [if_neg (fresh other here)]
    exact listed other here

/-- With the entry of its own account only, a player goes without a trace. -/
theorem listed_remove {c : Collector Components} {player : Player Components} (listed : Listed c)
    (held : Held c player) : Listed (removePlayer c player) := by
  intro other here
  unfold Held at here
  rw [get_by_socket_remove_player] at here
  split at here
  · cases here
  · rename_i apart
    have entry := listed other here
    have accounts : (removePlayer c player).accounts = c.accounts.erase player.account := rfl
    rw [accounts, get_erase]
    split
    · rename_i same
      rw [same, listed player held] at entry
      exact absurd (Option.some.inj entry).symm apart
    · exact entry

theorem listed_get {c : Collector Components} (account : Str) (listed : Listed c) :
    Listed (getPlayerByAccount c account).2 := by
  unfold getPlayerByAccount
  split
  · exact listed
  · rename_i socket entry
    split
    · rename_i none
      -- the entry that is erased leads to a descriptor without player
      intro other here
      have there : Held c other := here
      rw [get_erase]
      split
      · rename_i same
        have own := listed other there
        rw [same, entry] at own
        cases own
        rw [Held, getPlayerBySocket, none] at there
        cases there
      · exact listed other there
    · exact listed

theorem listed_set {c : Collector Components} {old player : Player Components} (listed : Listed c)
    (held : getPlayerBySocket c player.socketKey.socket = some old) (same : old.account = player.account) :
    Listed (setPlayer c player) := by
  intro other here
  unfold Held at here
  rw [get_by_socket_set] at here
  have accounts : (setPlayer c player).accounts = c.accounts := rfl
  rw [accounts]
  split at here
  · cases here
    obtain ⟨there, key⟩ := held_of_get held
    have entry := listed old there
    rw [same, key] at entry
    exact entry
  · exact listed other here

/-- A second player of one account breaks the indexes. -/
theorem add_twice {c after : Collector Components} {socketKey : SocketKey} {account : Str}
    {components : Components} {player other : Player Components}
    (done : addPlayer c socketKey account components = some (player, after)) (held : Held c other)
    (named : other.account = account) : ¬ Indexed after := by
  intro indexed
  obtain ⟨free, rfl, found⟩ := add_player_some done
  have apart : other.socketKey.socket ≠ socketKey.socket := by
    intro same
    rw [Held, same, free] at held
    cases held
  have old : Held after other := by
    rw [Held, found, if_neg apart]
    exact held
  have new : Held after ⟨account, socketKey, 0, components⟩ := by
    rw [Held, found, if_pos rfl]
  -- both would be the player of the account
  have same := indexed.single _ _ old new named
  rw [same] at apart
  exact apart rfl

theorem accounts_held_step {before after : Collector Components} {operation : Operation Components}
    (held : AccountsHeld before) (step : Step before operation after) : AccountsHeld after := by
  cases step with
  | refused taken => exact held
  | added done => exact accounts_held_add _ _ _ _ _ _ held done
  | removed there => exact accounts_held_remove _ _ held there
  | removedBySocket => exact accounts_held_remove_by_socket _ _ held
  | removedBySn =>
      unfold removePlayerBySn
      split
      · exact held
      · rename_i player found
        exact accounts_held_remove _ _ held (get_by_sn_some found).1
  | removedAll ends => exact (remove_all_result held ends).1
  | got => exact accounts_held_get _ _ held
  | changed there same => exact accounts_held_set _ _ _ held there same

theorem listed_step {before after : Collector Components} {operation : Operation Components}
    (indexed : Indexed before) (step : Step before operation after) (fresh : Fresh before operation) :
    Listed after := by
  obtain ⟨held, listed⟩ := indexed_parts indexed
  cases step with
  | refused taken => exact listed
  | added done => exact listed_add listed done (fresh (add_player_some done).1)
  | removed there => exact listed_remove listed there
  | removedBySocket =>
      unfold removePlayerBySocket
      split
      · exact listed
      · rename_i player found
        exact listed_remove listed (held_of_get found).1
  | removedBySn =>
      unfold removePlayerBySn
      split
      · exact listed
      · rename_i player found
        exact listed_remove listed (get_by_sn_some found).1
  | removedAll ends =>
      intro other here
      rw [Held, (remove_all_result held ends).2.1] at here
      cases here
  | got => exact listed_get _ listed
  | changed there same => exact listed_set listed there same

theorem untouched_held {before after : Collector Components} {operation : Operation Components}
    (step : Step before operation after) {other : Player Components} (held : Held before other)
    (apart : ¬ Touches before operation other) : Held after other := by
  cases step with
  | refused taken => exact held
  | added done =>
      obtain ⟨free, -, found⟩ := add_player_some done
      unfold Held at held ⊢
      rw [found, if_neg]
      · exact held
      · intro same
        rw [same, free] at held
        cases held
  | removed there =>
      unfold Held at held there ⊢
      rw [get_by_socket_remove_player, if_neg]
      · exact held
      · intro same
        rw [same, there] at held
        exact apart (Option.some.inj held).symm
  | @removedBySocket socket =>
      have elsewhere : other.socketKey.socket ≠ socket := apart
      unfold Held at held ⊢
      rw [get_by_socket_remove, if_neg elsewhere]
      exact held
  | removedBySn =>
      unfold removePlayerBySn
      split
      · exact held
      · rename_i player found
        unfold Held at held ⊢
        rw [get_by_socket_remove_player, if_neg]
        · exact held
        · intro same
          rw [same, (get_by_sn_some found).1] at held
          cases held
          exact apart found
  | removedAll _ => exact absurd trivial apart
  | got =>
      unfold Held getPlayerBySocket at held ⊢
      rw [get_by_account_players]
      exact held
  | @changed old player there same =>
      have elsewhere : other.socketKey.socket ≠ player.socketKey.socket := apart
      unfold Held at held ⊢
      rw [get_by_socket_set, if_neg elsewhere]
      exact held

/-- On agreeing indexes an operation keeps them exactly when it adds no second
player of an account. -/
theorem step_kept {before after : Collector Components} {operation : Operation Components}
    (indexed : Indexed before) (step : Step before operation after) :
    Fresh before operation ↔ Kept before operation after := by
  constructor
  · intro fresh
    have held := accounts_held_step (indexed_parts indexed).1 step
    have now := indexed_of_listed held (listed_step indexed step fresh)
    refine ⟨now, ?_⟩
    intro other there apart
    exact now.reachable other (untouched_held step there apart)
  · rintro ⟨now, -⟩
    cases step with
    | refused taken =>
        intro free
        obtain ⟨_, done, _⟩ := add_player_free _ _ free
        rw [done] at taken
        cases taken
    | added done =>
        intro free other there named
        exact add_twice done there named now
    | _ => trivial

/-! ### Whole runs -/

theorem indexed_empty : Indexed (empty : Collector Components) := by
  apply indexed_of_listed accounts_held_empty
  intro player here
  simp [Held, empty, getPlayerBySocket] at here

/-- The runs along which the indexes agree and every player stays in reach are
those that add no player whose account already has one. -/
theorem indexes_agree_iff (trace : List (Operation Components)) (after : Collector Components) :
    Run (Lawful Step Kept) empty trace after ↔ Run (Guarded Step Fresh) empty trace after := by
  symm
  apply guarded_iff_lawful Indexed _ indexed_empty
  intro before operation after indexed step
  exact ⟨step_kept indexed step, fun kept => kept.1⟩

def first : Player Unit := ⟨[97], ⟨1, .tcpListen⟩, 0, ()⟩
def second : Player Unit := ⟨[97], ⟨2, .tcpListen⟩, 0, ()⟩

/-- Two logins of one account, of which the first one leaves. -/
def relogin : List (Operation Unit) :=
  [.addPlayer first.socketKey first.account (), .addPlayer second.socketKey second.account (),
    .removePlayerBySocket first.socketKey.socket]

/-- The player that stays is not found any more. -/
theorem relogin_loses : ∃ after, Run Step empty relogin after ∧ Held after second ∧
    (getPlayerByAccount after second.account).1 = none ∧ ¬ Indexed after := by
  have nobody : getPlayerBySocket empty first.socketKey.socket = (none : Option (Player Unit)) := by
    simp [getPlayerBySocket, empty]
  obtain ⟨one, added, accounts⟩ := add_player_free first.account () nobody
  have stored := (add_player_some added).2.2
  have free : getPlayerBySocket one second.socketKey.socket = none := by
    rw [stored]
    simp [getPlayerBySocket, empty, first, second]
  obtain ⟨two, again, entries⟩ := add_player_free second.account () free
  have both := (add_player_some again).2.2
  have there : Held (removePlayerBySocket two first.socketKey.socket) second := by
    rw [Held, get_by_socket_remove, both]
    simp [first, second]
  have found : two.players[first.socketKey.socket]? = some first := by
    have here := (both first.socketKey.socket).trans ((if_neg (by decide)).trans (stored first.socketKey.socket))
    rw [if_pos rfl] at here
    exact here
  have gone : (getPlayerByAccount (removePlayerBySocket two first.socketKey.socket) second.account).1 = none := by
    have erased : (removePlayer two first).accounts[second.account]? = none := by
      apply (get_erase two.accounts first.account second.account).trans
      exact if_pos rfl
    unfold removePlayerBySocket
    rw [found]
    unfold getPlayerByAccount
    rw [erased]
  refine ⟨_, Run.next (Step.added added) (Run.next (Step.added again) (Run.next Step.removedBySocket (Run.refl _))),
    there, gone, ?_⟩
  intro indexed
  rw [indexed.reachable second there] at gone
  cases gone

end GameBook.PlayerIndexes
