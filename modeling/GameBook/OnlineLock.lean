import GameBook.OnlineFlag

/-!
When the version works as a lock. In the one session of an account the versions
rise from hop to hop, so that redis ignores whatever an earlier component still
sends; a second session begins at one again.
-/

namespace GameBook.OnlineLock

open CString OrderedMap Channels LabelledRun OnlineFlag

/-! A plain account names its own key. -/

theorem format_words_plain (bytes : Bytes) (plain : Plain bytes) (nonempty : bytes ≠ [])
    (word : Option Bytes) : RedisGame.formatWords bytes word = some [word.getD [] ++ bytes] := by
  induction bytes generalizing word with
  | nil => exact absurd rfl nonempty
  | cons byte others ih =>
      obtain ⟨-, space, percent⟩ := plain byte List.mem_cons_self
      cases others with
      | nil => simp [RedisGame.formatWords, space]
      | cons other rest =>
          have tail := ih (fun byte member => plain byte (List.mem_cons_of_mem _ member))
            (List.cons_ne_nil _ _) (some (word.getD [] ++ [byte]))
          simp [RedisGame.formatWords, space, percent, tail]

theorem plain_key {account : Bytes} (plain : Plain account) : Plain (onlineKey account) := by
  have fixed : Plain onlinePrefix := by simp [Plain, onlinePrefix]
  intro byte member
  rcases List.mem_append.mp member with first | own
  · exact fixed byte first
  · exact plain byte own

theorem c_str_plain {bytes : Bytes} (plain : Plain bytes) : cStr bytes = bytes := by
  apply c_str_of_clean
  intro member
  exact (plain 0 member).1 rfl

theorem arguments_plain {account : Bytes} (plain : Plain account) :
    RedisGame.arguments (onlineKey account) = some [onlineKey account] := by
  rw [RedisGame.arguments, c_str_plain (plain_key plain)]
  exact format_words_plain _ (plain_key plain) (by simp [onlineKey, onlinePrefix]) none

theorem online_key_injective {first second : Bytes} (same : onlineKey first = onlineKey second) :
    first = second :=
  List.append_cancel_left same

theorem get_int_plain (flags : Flags) {account : Bytes} (plain : Plain account) :
    getInt flags (onlineKey account) = some ((flags[onlineKey account]?.map (·.version)).getD 0) := by
  rw [getInt, arguments_plain plain]
  rfl

/-- Redis keeps the entry when it has a higher version, and writes it otherwise. -/
theorem sync_cases {flags after : Flags} {sender : Nat} {account : Bytes} {version : Int}
    (plain : Plain account) (positive : 0 < version)
    (done : handlePlayerSyncOnlineToRedis flags sender account version = some after) :
    (after = flags ∧ ∃ flag, flags[onlineKey account]? = some flag ∧ version < flag.version) ∨
      (after = flags.insert (onlineKey account) ⟨version, sender⟩ ∧
        ∀ flag, flags[onlineKey account]? = some flag → flag.version ≤ version) := by
  rw [handlePlayerSyncOnlineToRedis, get_int_plain flags plain, Option.bind_some] at done
  cases entry : flags[onlineKey account]? with
  | none =>
      right
      have above : ¬ version < 0 := by omega
      simp [entry, setex, arguments_plain plain, above] at done
      exact ⟨done.symm, fun _ => nofun⟩
  | some flag =>
      by_cases lower : version < flag.version
      · left
        simp [entry, lower] at done
        exact ⟨done.symm, flag, rfl, lower⟩
      · right
        simp [entry, lower, setex, arguments_plain plain] at done
        refine ⟨done.symm, ?_⟩
        rintro _ ⟨⟩
        exact Int.not_lt.mp lower

theorem delete_cases {flags after : Flags} {account : Bytes} {version : Int} (plain : Plain account)
    (done : handlePlayerDeleteOnlineToRedis flags account version = some after) :
    (after = flags ∧ ∀ flag, flags[onlineKey account]? = some flag → version < flag.version) ∨
      (after = flags.erase (onlineKey account) ∧
        ∀ flag, flags[onlineKey account]? = some flag → flag.version ≤ version) := by
  rw [handlePlayerDeleteOnlineToRedis, get_int_plain flags plain, Option.bind_some] at done
  cases entry : flags[onlineKey account]? with
  | none =>
      by_cases negative : version < 0
      · left
        simp [entry, negative] at done
        exact ⟨done.symm, fun _ => nofun⟩
      · right
        simp [entry, negative, delete, arguments_plain plain] at done
        exact ⟨done.symm, fun _ => nofun⟩
  | some flag =>
      by_cases lower : version < flag.version
      · left
        simp [entry, lower] at done
        refine ⟨done.symm, ?_⟩
        rintro _ ⟨⟩
        exact lower
      · right
        simp [entry, lower, delete, arguments_plain plain] at done
        refine ⟨done.symm, ?_⟩
        rintro _ ⟨⟩
        exact Int.not_lt.mp lower

/-! What holds while all goes in order. -/

/-- The players of the account that came to a world before are gone. -/
def Last (s : System) (id : Nat) (account : Bytes) : Prop :=
  ∀ (earlier : Nat) (q : Player), earlier < id → s.players[earlier]? = some q →
    q.component.account = account → q.inWorld = true → q.live = false

/-- The flag of a player that has been synced is at least its own. -/
def Shown (flags : Flags) (p : Player) : Prop :=
  p.inWorld = true → p.live = true → p.synced = true →
    ∃ flag, flags[onlineKey p.component.account]? = some flag ∧
      p.component.onlineVersion ≤ flag.version

structure Sound (p : Player) : Prop where
  plain : Plain p.component.account
  positive : 0 < p.component.onlineVersion
  lobby : p.inWorld = false → p.component.isReadFromDB = false
  world : p.inWorld = true → p.stored < p.component.onlineVersion

def Sends (s : System) (entry : Nat × Message) : Prop :=
  ∃ p, s.players[entry.1]? = some p ∧ (entry.2 = syncMessage p.component ∨
    (entry.2 = deleteMessage p.component ∧ p.live = false ∧ Last s entry.1 p.component.account))

def Written (s : System) (key : Bytes) (flag : Flag) : Prop :=
  ∃ p, s.players[flag.writer]? = some p ∧ key = onlineKey p.component.account ∧
    flag.version = p.component.onlineVersion

structure Tracked (s : System) : Prop where
  sound : ∀ (id : Nat) (p : Player), s.players[id]? = some p → Sound p
  teleports : ∀ message ∈ s.teleports, Plain message.1 ∧ 0 < message.2
  rising : Rising s
  queue : ∀ entry ∈ s.queue, Sends s entry
  flags : ∀ (key : Bytes) (flag : Flag), s.flags[key]? = some flag → Written s key flag
  shown : ∀ (id : Nat) (p : Player), s.players[id]? = some p → Shown s.flags p

theorem tracked_start : Tracked start where
  sound id p held := by simp [start] at held
  teleports message member := absurd member List.not_mem_nil
  rising earlier later p q _ held := by simp [start] at held
  queue entry member := absurd member List.not_mem_nil
  flags key flag held := by simp [start] at held
  shown id p held := by simp [start] at held

theorem join_player (s : System) (player : Player) (id : Nat) :
    (join s player).players[id]? = if id = s.players.length then some player else s.players[id]? := by
  rw [join, List.getElem?_append]
  split
  · rename_i old
    rw [if_neg (Nat.ne_of_lt old)]
  · rename_i new
    by_cases last : id = s.players.length
    · simp [last]
    · have beyond : s.players.length ≤ id := Nat.not_lt.mp new
      rw [if_neg last, List.getElem?_eq_none beyond]
      exact List.getElem?_eq_none (by simp; omega)

theorem put_player {s : System} {id : Nat} {player : Player} (new : Player)
    (held : s.players[id]? = some player) (other : Nat) :
    (putPlayer s id new).players[other]? = if other = id then some new else s.players[other]? := by
  have inside : id < s.players.length := (List.getElem?_eq_some_iff.mp held).1
  rw [putPlayer, List.getElem?_set]
  by_cases same : other = id
  · simp [same, inside]
  · rw [if_neg (Ne.symm same), if_neg same]

theorem join_old {s : System} {player p : Player} {id : Nat} (held : s.players[id]? = some p) :
    (join s player).players[id]? = some p := by
  have inside : id < s.players.length := (List.getElem?_eq_some_iff.mp held).1
  rw [join_player, if_neg (Nat.ne_of_lt inside)]
  exact held

theorem tracked_join {s : System} {player : Player} (tracked : Tracked s) (sound : Sound player)
    (fresh : player.synced = false)
    (above : ∀ (id : Nat) (p : Player), s.players[id]? = some p →
      p.component.account = player.component.account →
        p.component.onlineVersion < player.component.onlineVersion) : Tracked (join s player) := by
  have cases : ∀ (id : Nat) (p : Player), (join s player).players[id]? = some p →
      (id = s.players.length ∧ p = player) ∨ s.players[id]? = some p := by
    intro id p held
    rw [join_player] at held
    split at held
    · rename_i last
      cases held
      exact Or.inl ⟨last, rfl⟩
    · exact Or.inr held
  have inside : ∀ (id : Nat) (p : Player), s.players[id]? = some p → id < s.players.length :=
    fun id p held => (List.getElem?_eq_some_iff.mp held).1
  constructor
  · intro id p held
    rcases cases id p held with ⟨-, rfl⟩ | old
    · exact sound
    · exact tracked.sound id p old
  · exact tracked.teleports
  · intro earlier later p q before first second same
    rcases cases later q second with ⟨last, rfl⟩ | old
    · rcases cases earlier p first with ⟨late, -⟩ | older
      · omega
      · exact above earlier p older same
    · rcases cases earlier p first with ⟨late, -⟩ | older
      · have bound := inside later q old
        omega
      · exact tracked.rising earlier later p q before older old same
  · intro entry member
    obtain ⟨p, held, sends⟩ := tracked.queue entry member
    refine ⟨p, join_old held, sends.imp (fun sync => sync) ?_⟩
    rintro ⟨last, gone, replaced⟩
    refine ⟨last, gone, ?_⟩
    intro earlier q before other
    rcases cases earlier q other with ⟨late, -⟩ | older
    · have bound := inside entry.1 p held
      omega
    · exact replaced earlier q before older
  · intro key flag held
    obtain ⟨p, writer, same⟩ := tracked.flags key flag held
    exact ⟨p, join_old writer, same⟩
  · intro id p held
    rcases cases id p held with ⟨-, rfl⟩ | old
    · intro _ _ synced
      rw [fresh] at synced
      cases synced
    · exact tracked.shown id p old

theorem tracked_put {s : System} {id : Nat} {player new : Player} (tracked : Tracked s)
    (held : s.players[id]? = some player) (component : new.component = player.component)
    (place : new.inWorld = player.inWorld) (stored : new.stored = player.stored)
    (aged : new.live = true → player.live = true) (shown : Shown s.flags new) :
    Tracked (putPlayer s id new) := by
  have cases : ∀ (other : Nat) (p : Player), (putPlayer s id new).players[other]? = some p →
      (other = id ∧ p = new) ∨ s.players[other]? = some p := by
    intro other p there
    rw [put_player new held] at there
    split at there
    · rename_i same
      cases there
      exact Or.inl ⟨same, rfl⟩
    · exact Or.inr there
  -- Whoever was there still is, with the same component and no younger.
  have still : ∀ (other : Nat) (p : Player), s.players[other]? = some p →
      ∃ q, (putPlayer s id new).players[other]? = some q ∧ q.component = p.component ∧
        (q.live = true → p.live = true) := by
    intro other p there
    rw [put_player new held]
    by_cases same : other = id
    · rw [same, held] at there
      cases there
      exact ⟨new, by rw [if_pos same], component, aged⟩
    · exact ⟨p, by rw [if_neg same]; exact there, rfl, fun alive => alive⟩
  have was : ∀ (other : Nat) (p : Player), (putPlayer s id new).players[other]? = some p →
      ∃ q, s.players[other]? = some q ∧ q.component = p.component ∧ q.inWorld = p.inWorld ∧
        (p.live = true → q.live = true) := by
    intro other p there
    rcases cases other p there with ⟨rfl, rfl⟩ | old
    · exact ⟨player, held, component.symm, place.symm, aged⟩
    · exact ⟨p, old, rfl, rfl, fun alive => alive⟩
  constructor
  · intro other p there
    rcases cases other p there with ⟨rfl, rfl⟩ | old
    · obtain ⟨plain, positive, lobby, world⟩ := tracked.sound other player held
      rw [← component] at plain positive lobby world
      rw [← place] at lobby world
      rw [← stored] at world
      exact ⟨plain, positive, lobby, world⟩
    · exact tracked.sound other p old
  · exact tracked.teleports
  · intro earlier later p q before first second same
    obtain ⟨p', first', one, -⟩ := was earlier p first
    obtain ⟨q', second', two, -⟩ := was later q second
    rw [← one, ← two] at same ⊢
    exact tracked.rising earlier later p' q' before first' second' same
  · intro entry member
    obtain ⟨p, there, sends⟩ := tracked.queue entry member
    obtain ⟨q, now, same, younger⟩ := still entry.1 p there
    refine ⟨q, now, ?_⟩
    rw [same]
    -- a player that has gone does not come back
    refine sends.imp (fun sync => sync) ?_
    rintro ⟨last, gone, replaced⟩
    refine ⟨last, ?_, ?_⟩
    · cases alive : q.live with
      | false => rfl
      | true => exact absurd (younger alive) (by simp [gone])
    · intro earlier r before other account world
      obtain ⟨r', first, one, kind, older⟩ := was earlier r other
      have dead := replaced earlier r' before first (one ▸ account) (kind.trans world)
      cases alive : r.live with
      | false => rfl
      | true => exact absurd (older alive) (by simp [dead])
  · intro key flag there
    obtain ⟨p, writer, same⟩ := tracked.flags key flag there
    obtain ⟨q, now, one, -⟩ := still flag.writer p writer
    refine ⟨q, now, ?_⟩
    rw [one]
    exact same
  · intro other p there
    rcases cases other p there with ⟨rfl, rfl⟩ | old
    · exact shown
    · exact tracked.shown other p old

theorem tracked_post {s : System} {id : Nat} {message : Message} (tracked : Tracked s)
    (sends : Sends s (id, message)) : Tracked (post s id message) := by
  refine { tracked with queue := ?_ }
  intro entry member
  rcases List.mem_append.mp member with older | newest
  · exact tracked.queue entry older
  · rw [List.mem_singleton.mp newest]
    exact sends

/-! Redis reads a message. -/

/-- The flags redis is left with keep every player that has been synced, and
spare the flags of later components. -/
structure Reads (s : System) (id : Nat) (player : Player) (message : Message) (flags : Flags) : Prop where
  written : ∀ (key : Bytes) (flag : Flag), flags[key]? = some flag → Written s key flag
  shown : ∀ (other : Nat) (p : Player), s.players[other]? = some p → Shown flags p
  own : Shown flags (marked player message)
  spared : ∀ (key : Bytes) (flag : Flag), s.flags[key]? = some flag → id < flag.writer →
    flags[key]? = some flag

theorem later_flag {s : System} {id : Nat} {player : Player} {flag : Flag} (tracked : Tracked s)
    (held : s.players[id]? = some player)
    (entry : s.flags[onlineKey player.component.account]? = some flag) (later : id < flag.writer) :
    player.component.onlineVersion < flag.version := by
  obtain ⟨writer, there, key, version⟩ := tracked.flags _ flag entry
  rw [version]
  exact tracked.rising id flag.writer player writer later held there (online_key_injective key)

theorem reads_sync {s : System} {id : Nat} {player : Player} {flags : Flags} (tracked : Tracked s)
    (held : s.players[id]? = some player)
    (done : handle s.flags id (syncMessage player.component) = some flags) :
    Reads s id player (syncMessage player.component) flags := by
  have sound := tracked.sound id player held
  rw [syncMessage, handle, c_str_plain sound.plain] at done
  rcases sync_cases sound.plain sound.positive done with ⟨rfl, flag, entry, lower⟩ | ⟨rfl, highest⟩
  · refine ⟨tracked.flags, tracked.shown, ?_, fun _ _ there _ => there⟩
    intro _ _ _
    exact ⟨flag, entry, Int.le_of_lt lower⟩
  · constructor
    · intro key flag there
      rw [get_insert] at there
      split at there
      · rename_i same
        cases there
        exact ⟨player, held, same, rfl⟩
      · exact tracked.flags key flag there
    · intro other p there world live synced
      obtain ⟨flag, entry, atLeast⟩ := tracked.shown other p there world live synced
      rw [get_insert]
      split
      · rename_i same
        rw [same] at entry
        exact ⟨_, rfl, Int.le_trans atLeast (highest flag entry)⟩
      · exact ⟨flag, entry, atLeast⟩
    · intro _ _ _
      refine ⟨⟨player.component.onlineVersion, id⟩, ?_, Int.le_refl _⟩
      change (s.flags.insert (onlineKey player.component.account) _)[onlineKey player.component.account]? = _
      rw [get_insert, if_pos rfl]
    · intro key flag entry later
      rw [get_insert]
      split
      · rename_i same
        rw [same] at entry
        have above := later_flag tracked held entry later
        have below := highest flag entry
        omega
      · exact entry

/-- Only the flag of the account goes, and only while no player that relies on
it is left: those of an earlier component are gone, those of a later one have a
higher flag. -/
theorem reads_delete {s : System} {id : Nat} {player : Player} {flags : Flags} (tracked : Tracked s)
    (held : s.players[id]? = some player) (gone : player.live = false)
    (last : Last s id player.component.account)
    (done : handle s.flags id (deleteMessage player.component) = some flags) :
    Reads s id player (deleteMessage player.component) flags := by
  have sound := tracked.sound id player held
  rw [deleteMessage, handle, c_str_plain sound.plain] at done
  rcases delete_cases sound.plain done with ⟨rfl, -⟩ | ⟨rfl, highest⟩
  · exact ⟨tracked.flags, tracked.shown, tracked.shown id player held, fun _ _ there _ => there⟩
  · have shown : ∀ (other : Nat) (p : Player), s.players[other]? = some p →
        Shown (s.flags.erase (onlineKey player.component.account)) p := by
      intro other p there world live synced
      obtain ⟨flag, entry, atLeast⟩ := tracked.shown other p there world live synced
      rw [get_erase]
      split
      -- another player of the account is earlier, the sender itself or later
      · rename_i same
        have account := online_key_injective same
        rw [same] at entry
        have bound := highest flag entry
        rcases Nat.lt_trichotomy other id with before | rfl | after
        · have dead := last other p before there account world
          rw [dead] at live
          cases live
        · rw [held] at there
          cases there
          rw [gone] at live
          cases live
        · have above := tracked.rising id other player p after held there account.symm
          omega
      · exact ⟨flag, entry, atLeast⟩
    refine ⟨?_, shown, shown id player held, ?_⟩
    · intro key flag there
      rw [get_erase] at there
      split at there
      · cases there
      · exact tracked.flags key flag there
    · intro key flag entry later
      rw [get_erase]
      split
      · rename_i same
        rw [same] at entry
        have above := later_flag tracked held entry later
        have below := highest flag entry
        omega
      · exact entry

theorem tracked_redis {s : System} {id : Nat} {message : Message} {flags : Flags} {player : Player}
    (tracked : Tracked s) (head : next id s.queue = some message)
    (held : s.players[id]? = some player) (reads : Reads s id player message flags) :
    Tracked (putPlayer { s with flags := flags, queue := rest id s.queue } id (marked player message)) := by
  have read : Tracked { s with flags := flags, queue := rest id s.queue } := by
    refine { tracked with queue := ?_, flags := reads.written, shown := reads.shown }
    intro entry member
    exact tracked.queue entry ((mem_iff_of_next head entry).mpr (Or.inr member))
  cases message with
  | sync account version => exact tracked_put read held rfl rfl rfl (fun alive => alive) reads.own
  | delete account version => exact tracked_put read held rfl rfl rfl (fun alive => alive) reads.own

theorem parser_unread (c : OnlineInGame) (version : Int) (unread : c.isReadFromDB = false) :
    parserFromProto c version = c := by
  rw [parserFromProto, unread]
  rfl

theorem parser_lower (c : OnlineInGame) (version : Int) (lower : version < c.onlineVersion) :
    parserFromProto c version = c := by
  unfold parserFromProto
  split
  · rfl
  · rw [if_neg (by omega)]

theorem awake_version (account : Bytes) {version : Int} (positive : 0 < version)
    (bound : version < 2147483647) : awake account version = ⟨account, version + 1, true⟩ := by
  have differs : version ≠ 2147483647 := by omega
  simp [awake, parserFromProto, increased, positive, differs]

theorem put_same {s : System} {id : Nat} {player : Player} (held : s.players[id]? = some player) :
    putPlayer s id player = s := by
  have same : s.players.set id player = s.players := by
    apply List.ext_getElem?
    intro other
    have there := put_player player held other
    rw [putPlayer] at there
    rw [there]
    split
    · rename_i own
      rw [own, held]
    · rfl
  rw [putPlayer, same]

theorem redis_reads {s : System} {id : Nat} {message : Message} {flags : Flags} {player : Player}
    (tracked : Tracked s) (head : next id s.queue = some message)
    (held : s.players[id]? = some player) (done : handle s.flags id message = some flags) :
    Reads s id player message flags := by
  obtain ⟨sender, there, sends⟩ :=
    tracked.queue (id, message) ((mem_iff_of_next head _).mpr (Or.inl rfl))
  have same : sender = player := by
    rw [held] at there
    exact (Option.some.inj there).symm
  subst same
  rcases sends with rfl | ⟨rfl, gone, last⟩
  · exact reads_sync tracked held done
  · exact reads_delete tracked held gone last done

theorem tracked_step (before : System) (event : Event) (after : System) (tracked : Tracked before)
    (taken : Guarded systemStep Orderly before event after) : Tracked after := by
  obtain ⟨taken, orderly⟩ := taken
  cases event with
  | loginByToken account =>
      rw [systemStep] at taken
      rw [taken]
      obtain ⟨plain, first⟩ := orderly
      apply tracked_join tracked _ rfl
      · intro id p held same
        exact absurd same (first p (List.mem_of_getElem? held))
      · exact ⟨plain, Int.one_pos, fun _ => rfl, nofun⟩
  | queryPlayerRs id version =>
      obtain ⟨player, held, inLobby, -, rfl⟩ := taken
      rw [parser_unread _ _ ((tracked.sound id player held).lobby inLobby), put_same held]
      exact tracked
  | teleport id =>
      obtain ⟨player, held, -, rfl⟩ := taken
      have sound := tracked.sound id player held
      refine { tracked with teleports := ?_ }
      intro message member
      rcases List.mem_append.mp member with older | newest
      · exact tracked.teleports message older
      · rw [List.mem_singleton.mp newest, c_str_plain sound.plain]
        exact ⟨sound.plain, sound.positive⟩
  | arrive account version =>
      obtain ⟨inFlight, rfl⟩ := taken
      obtain ⟨bound, highest⟩ := orderly
      obtain ⟨plain, positive⟩ := tracked.teleports _ inFlight
      have came : Tracked { before with teleports := before.teleports.erase (account, version) } :=
        { tracked with
          teleports := fun message member => tracked.teleports message (List.mem_of_mem_erase member) }
      rw [awake_version account positive bound]
      apply tracked_join came _ rfl
      · intro id p held same
        have below := highest p (List.mem_of_getElem? held) same
        dsimp only
        omega
      · refine ⟨plain, ?_, nofun, fun _ => ?_⟩
        · dsimp only at positive ⊢
          omega
        · dsimp only
          omega
  | refuse account version =>
      obtain ⟨-, rfl⟩ := taken
      exact { tracked with
        teleports := fun message member => tracked.teleports message (List.mem_of_mem_erase member) }
  | s2gSyncPlayer id =>
      obtain ⟨player, held, inWorld, -, rfl⟩ := taken
      rw [parser_lower _ _ ((tracked.sound id player held).world inWorld), put_same held]
      exact tracked
  | setOnlineFlag id =>
      obtain ⟨player, held, -, rfl⟩ := taken
      exact tracked_post tracked ⟨player, held, Or.inl rfl⟩
  | backToPool id =>
      obtain ⟨player, held, -, rfl⟩ := taken
      have put : Tracked (putPlayer before id { player with live := false }) :=
        tracked_put tracked held rfl rfl rfl nofun (fun _ => nofun)
      apply tracked_post put
      refine ⟨{ player with live := false }, ?_, Or.inr ⟨rfl, rfl, ?_⟩⟩
      · rw [put_player _ held, if_pos rfl]
      · intro earlier q sooner there same world
        rw [put_player _ held, if_neg (Nat.ne_of_lt sooner)] at there
        exact orderly player held earlier q sooner there same world
  | redis id =>
      obtain ⟨message, flags, player, head, done, held, rfl⟩ := taken
      exact tracked_redis tracked head held (redis_reads tracked head held done)

theorem locked_step (before : System) (event : Event) (after : System) (tracked : Tracked before)
    (taken : Guarded systemStep Orderly before event after) : Locked before event after := by
  have trackedAfter := tracked_step before event after tracked taken
  refine ⟨trackedAfter.rising, ?_, ?_⟩
  · intro p member world live synced
    obtain ⟨id, held⟩ := List.mem_iff_getElem?.mp member
    obtain ⟨flag, entry, -⟩ := trackedAfter.shown id p held world live synced
    rw [c_str_plain (trackedAfter.sound id p held).plain, entry]
    rfl
  · rintro id rfl key flag entry later
    obtain ⟨⟨message, flags, player, head, done, held, rfl⟩, -⟩ := taken
    exact (redis_reads tracked head held done).spared key flag entry later

/-- Versions rise, redis spares the flags of later components, and whoever is
in a world and has been synced has its flag, after every step of a run in which
no account has a second session and its hops come and go in order. -/
theorem online_locked_while_orderly (trace : List Event) (s : System)
    (run : Run (Guarded systemStep Orderly) start trace s) :
    Run (Lawful systemStep Locked) start trace s :=
  lawful_of_guarded Tracked tracked_step locked_step run tracked_start

/-! Account `a` enters by the lobby and two worlds. -/

def oneSession : List Event :=
  [.loginByToken [97], .setOnlineFlag 0, .redis 0, .teleport 0, .arrive [97] 1, .setOnlineFlag 1,
    .redis 1, .backToPool 0, .redis 0, .teleport 1, .arrive [97] 2, .setOnlineFlag 2, .redis 2,
    .backToPool 1, .redis 1]

theorem one_session_run : ∃ s, Run (Guarded systemStep Orderly) start oneSession s ∧
    s.flags[onlineKey [97]]? = some ⟨3, 2⟩ := by
  refine ⟨_, .next ⟨rfl, ?plain⟩ (.next ⟨⟨_, rfl, rfl, rfl⟩, trivial⟩
    (.next ⟨⟨_, _, _, rfl, rfl, rfl, rfl⟩, trivial⟩ (.next ⟨⟨_, rfl, rfl, rfl⟩, trivial⟩
    (.next ⟨⟨by decide, rfl⟩, ?firstHop⟩ (.next ⟨⟨_, rfl, rfl, rfl⟩, trivial⟩
    (.next ⟨⟨_, _, _, rfl, rfl, rfl, rfl⟩, trivial⟩ (.next ⟨⟨_, rfl, rfl, rfl⟩, ?lobbyLeaves⟩
    (.next ⟨⟨_, _, _, rfl, rfl, rfl, rfl⟩, trivial⟩ (.next ⟨⟨_, rfl, rfl, rfl⟩, trivial⟩
    (.next ⟨⟨by decide, rfl⟩, ?secondHop⟩ (.next ⟨⟨_, rfl, rfl, rfl⟩, trivial⟩
    (.next ⟨⟨_, _, _, rfl, rfl, rfl, rfl⟩, trivial⟩ (.next ⟨⟨_, rfl, rfl, rfl⟩, ?worldLeaves⟩
    (.next ⟨⟨_, _, _, rfl, rfl, rfl, rfl⟩, trivial⟩ (.refl _))))))))))))))), rfl⟩
  case plain => exact ⟨by simp [Plain], nofun⟩
  case firstHop => exact ⟨by decide, by decide⟩
  case secondHop => exact ⟨by decide, by decide⟩
  case lobbyLeaves => exact fun _ _ earlier _ sooner => absurd sooner (Nat.not_lt_zero earlier)
  case worldLeaves =>
    intro p _ earlier q sooner held _ world
    obtain rfl : earlier = 0 := by omega
    cases held
    cases world

theorem online_locked_one_session : ∃ s, Run (Guarded systemStep Orderly) start oneSession s ∧
    Run (Lawful systemStep Locked) start oneSession s ∧ s.flags[onlineKey [97]]? = some ⟨3, 2⟩ := by
  obtain ⟨s, run, flag⟩ := one_session_run
  exact ⟨s, run, online_locked_while_orderly _ s run, flag⟩

/-- The first session ends in its second world; the goodbye of its first world
is read when the next session has come to a world. -/
def twoSessions : List Event :=
  [.loginByToken [97], .teleport 0, .arrive [97] 1, .backToPool 0, .teleport 1, .arrive [97] 2,
    .backToPool 1, .setOnlineFlag 2, .redis 2, .backToPool 2, .redis 2, .loginByToken [97],
    .teleport 3, .arrive [97] 1, .setOnlineFlag 4, .redis 4]

theorem two_sessions_run : ∃ s, Run systemStep start (twoSessions ++ [.redis 1]) s ∧
    ∃ p ∈ s.players, p.inWorld = true ∧ p.live = true ∧ p.synced = true ∧
      s.flags[onlineKey (cStr p.component.account)]? = none := by
  refine ⟨_, .next rfl (.next ⟨_, rfl, rfl, rfl⟩ (.next ⟨by decide, rfl⟩ (.next ⟨_, rfl, rfl, rfl⟩
    (.next ⟨_, rfl, rfl, rfl⟩ (.next ⟨by decide, rfl⟩ (.next ⟨_, rfl, rfl, rfl⟩
    (.next ⟨_, rfl, rfl, rfl⟩ (.next ⟨_, _, _, rfl, rfl, rfl, rfl⟩ (.next ⟨_, rfl, rfl, rfl⟩
    (.next ⟨_, _, _, rfl, rfl, rfl, rfl⟩ (.next rfl (.next ⟨_, rfl, rfl, rfl⟩
    (.next ⟨by decide, rfl⟩ (.next ⟨_, rfl, rfl, rfl⟩ (.next ⟨_, _, _, rfl, rfl, rfl, rfl⟩
    (.next ⟨_, _, _, rfl, rfl, rfl, rfl⟩ (.refl _))))))))))))))))), ?_⟩
  exact ⟨_, List.mem_of_getElem? (i := 4) rfl, rfl, rfl, rfl, rfl⟩

/-- The versions of the second session begin at one again, so a message of the
first erases its flag. -/
theorem second_session_loses_flag : ¬ ∀ (trace : List Event) (s : System),
    Run systemStep start trace s → Run (Lawful systemStep Locked) start trace s := by
  intro locked
  obtain ⟨s, run, p, member, world, live, synced, absent⟩ := two_sessions_run
  obtain ⟨_, last⟩ := lawful_last (locked _ s run)
  have present := last.present p member world live synced
  rw [absent] at present
  cases present

end GameBook.OnlineLock
