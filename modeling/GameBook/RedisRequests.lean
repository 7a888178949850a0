import GameBook.PlainCommands

/-!
The requests of the login and the game process, handler by handler: what they
change, and which arguments their commands have to have. A request is executed
as asked exactly when it is plain, and the token of a plain login request comes
back as it was stored.
-/

namespace GameBook.RedisRequests

open CString CommandWords OrderedMap RedisCommands PlainCommands
open RedisGame (formatWords tokenPrefix tokenKey)
open Mongoose (ascii)

section Connector

variable (redis : Redis) {spared : Bytes → Prop}

theorem setex_formed {key value : Bytes} {timeout : Nat} (long : 15 ≤ (cStr key).length)
    (lasts : 0 < timeout) : WellFormed (.setex key timeout value) :=
  ⟨long, lasts⟩

theorem setex_session (session : Session) (key value : Bytes) (timeout : Nat) :
    (setex redis session key value timeout).2 =
      (redisCommand redis session (.setex key timeout value)).2 := by
  unfold setex
  split <;> rename_i result <;> rw [result]

theorem get_string_session (session : Session) (key : Bytes) :
    (getString redis session key).2 = (redisCommand redis session (.get key)).2 := by
  unfold getString
  split <;> rename_i result <;> rw [result]

theorem get_int_session (session : Session) (key : Bytes) :
    (getInt redis session key).2.store = (redisCommand redis session (.get key)).2.store ∧
      (getInt redis session key).2.log = (redisCommand redis session (.get key)).2.log := by
  unfold getInt
  split
  · rename_i result
    rw [result]
    exact ⟨rfl, rfl⟩
  · rename_i result
    rw [result]
    split <;> exact ⟨rfl, rfl⟩
  · rename_i result
    rw [result]
    exact ⟨rfl, rfl⟩

theorem advance_congr {before after other : Session} (advance : Advance spared before after)
    (store : other.store = after.store) (log : other.log = after.log) :
    Advance spared before other :=
  ⟨fun meant => log ▸ advance.meant meant,
    fun key spare => store ▸ advance.apart key spare⟩

theorem setex_advance (session : Session) (key value : Bytes) (timeout : Nat)
    (formed : WellFormed (.setex key timeout value)) (plain : Plain key) (last : PlainEnd value)
    (spares : ∀ other, spared other → other ≠ key) :
    Advance spared session (setex redis session key value timeout).2 := by
  rw [setex_session]
  exact command_advance redis session _ formed ⟨plain, last⟩ spares

theorem get_int_advance (session : Session) (key : Bytes) (formed : WellFormed (.get key))
    (plain : PlainEnd key) (spares : ∀ other, spared other → other ≠ key) :
    Advance spared session (getInt redis session key).2 := by
  obtain ⟨store, log⟩ := get_int_session redis session key
  exact advance_congr (command_advance redis session (.get key) formed plain spares) store log

theorem get_string_advance (session : Session) (key : Bytes) (formed : WellFormed (.get key))
    (plain : PlainEnd key) (spares : ∀ other, spared other → other ≠ key) :
    Advance spared session (getString redis session key).2 := by
  rw [get_string_session]
  exact command_advance redis session (.get key) formed plain spares

theorem delete_advance (session : Session) (key : Bytes) (formed : WellFormed (.del key))
    (plain : PlainEnd key) (spares : ∀ other, spared other → other ≠ key) :
    Advance spared session (delete redis session key) :=
  command_advance redis session (.del key) formed plain spares

theorem setnx_expire_advance (session : Session) (key : Bytes) (value : Int) (timeout : Nat)
    (formed : WellFormed (.expire key timeout)) (plain : Plain key)
    (spares : ∀ other, spared other → other ≠ key) :
    Advance spared session (setnxExpire redis session key value timeout).2 := by
  have setnx := command_advance redis session (.setnx key value) ⟨formed.1, trivial⟩ plain spares
  unfold setnxExpire
  split
  · rename_i between result
    rw [result] at setnx
    have expire := command_advance redis between (.expire key timeout) formed plain spares
    split <;> rename_i last <;> rw [last] at expire <;> exact advance_trans setnx expire
  · rename_i result
    rw [result] at setnx
    exact setnx

/-! ### What is in the log -/

theorem command_log (session : Session) (asked : Command) :
    session.log <+: (redisCommand redis session asked).2.log := by
  by_cases up : session.alive = true
  · obtain ⟨entry, logged, _⟩ := command_logged redis session up asked
    rw [logged]
    exact List.prefix_append _ _
  · simp only [redisCommand, if_neg up, List.prefix_refl]

theorem get_int_log (session : Session) (key : Bytes) :
    session.log <+: (getInt redis session key).2.log := by
  rw [(get_int_session redis session key).2]
  exact command_log redis session _

theorem setnx_expire_log (session : Session) (key : Bytes) (value : Int) (timeout : Nat) :
    (redisCommand redis session (.setnx key value)).2.log <+:
      (setnxExpire redis session key value timeout).2.log := by
  unfold setnxExpire
  split
  · rename_i between result
    rw [result]
    have expire := command_log redis between (.expire key timeout)
    split <;> rename_i last <;> rw [last] at expire <;> exact expire
  · rename_i result
    simp only [result, List.prefix_refl]

theorem sound_of_meant (session last : Session) (up : session.alive = true) (asked : Command)
    (formed : WellFormed asked) (logged : (redisCommand redis session asked).2.log <+: last.log)
    (meant : ∀ entry ∈ last.log, Meant entry) : Sound asked := by
  obtain ⟨entry, grown, same, read⟩ := command_logged redis session up asked
  have member : entry ∈ last.log := by
    apply logged.subset
    rw [grown]
    exact List.mem_append_right _ List.mem_cons_self
  have words := (meant entry member).1
  rw [read, same, format_whole asked formed] at words
  apply (words_plain_iff asked).mp
  cases asked <;> exact (read_iff_plain _ _).mp words

end Connector

/-! ### The handlers -/

theorem long_behind (front account : Bytes) (plain : Plain front) (long : 15 ≤ front.length) :
    15 ≤ (cStr (front ++ account)).length := by
  rw [c_str_append front account plain.2.1, List.length_append]
  omega

theorem long_token (account : Bytes) : 15 ≤ (cStr (tokenKey account)).length :=
  long_behind tokenPrefix account token_prefix_plain (by decide)

theorem long_login (account : Bytes) : 15 ≤ (cStr (loginPrefix ++ account)).length :=
  long_behind loginPrefix account login_prefix_plain (by decide)

theorem long_game (account : Bytes) : 15 ≤ (cStr (gamePrefix ++ account)).length :=
  long_behind gamePrefix account game_prefix_plain (by decide)

theorem online_lasts : 0 < onlineTimeout := by decide

theorem token_lasts : 0 < tokenTimeout := by decide

def spares : Request → Bytes → Prop
  | .accountSyncOnline account, other => other ≠ loginPrefix ++ account
  | .accountDeleteOnline account, other => other ≠ loginPrefix ++ account
  | .loginToken account _ _, other => other ≠ tokenKey account
  | .accountQueryOnline account, other =>
      other ≠ loginPrefix ++ account ∧ other ≠ gamePrefix ++ account
  | .playerSyncOnline account _, other => other ≠ gamePrefix ++ account
  | .playerDeleteOnline account _, other => other ≠ gamePrefix ++ account
  | .gameToken account, other => other ≠ tokenKey account

variable (redis : Redis) (appId : Int32) (parse : Bytes → TokenInfo)

theorem login_token_session (session : Session) (account : Bytes) (playerSn : UInt64) (uuid : Uuid) :
    (handleLoginTokenToRedis redis session account playerSn uuid).2 =
      (redisCommand redis session (.setex (tokenKey account) tokenTimeout
        (TokenInfo.mk uuid.text playerSn).serialize)).2 := by
  rw [← setex_session]
  unfold handleLoginTokenToRedis
  split <;> rename_i result <;> rw [result]

theorem handle_advance (session : Session) (request : Request) (plain : PlainRequest request) :
    Advance (spares request) session (handle redis appId parse session request) := by
  cases request with
  | accountSyncOnline account =>
      exact setex_advance redis session _ _ _ ⟨long_login account, online_lasts⟩
        ((plain_behind login_prefix_plain account).mpr plain)
        (plain_end_of_plain (decimal_int_plain _)) fun _ spare => spare
  | accountDeleteOnline account =>
      exact delete_advance redis session _ ⟨long_login account, trivial⟩
        ((plain_end_behind login_prefix_plain account).mpr plain) fun _ spare => spare
  | loginToken account playerSn uuid =>
      rw [handle, login_token_session]
      exact command_advance redis session _ ⟨long_token account, token_lasts⟩
        ⟨(plain_behind token_prefix_plain account).mpr plain.1,
          (serialize_plain_iff uuid playerSn).mpr plain.2⟩ fun _ spare => spare
  | accountQueryOnline account =>
      have locked := setnx_expire_advance redis session (loginPrefix ++ account) appId.toInt
        onlineTimeout ⟨long_login account, online_lasts⟩
        ((plain_behind login_prefix_plain account).mpr plain)
        (fun other (spare : spares (.accountQueryOnline account) other) => spare.1)
      have asked := get_int_advance redis
        (setnxExpire redis session (loginPrefix ++ account) appId.toInt onlineTimeout).2
        (gamePrefix ++ account) ⟨long_game account, trivial⟩
        ((plain_end_behind game_prefix_plain account).mpr (outer_of_inner plain))
        (fun other (spare : spares (.accountQueryOnline account) other) => spare.2)
      exact advance_trans locked asked
  | playerSyncOnline account version =>
      have asked := get_int_advance redis session (gamePrefix ++ account)
        ⟨long_game account, trivial⟩
        ((plain_end_behind game_prefix_plain account).mpr (outer_of_inner plain))
        (fun other (spare : spares (.playerSyncOnline account version) other) => spare)
      simp only [handle, handlePlayerSyncOnlineToRedis]
      split
      · exact asked
      · apply advance_trans asked
        exact setex_advance redis _ _ _ _ ⟨long_game account, online_lasts⟩
          ((plain_behind game_prefix_plain account).mpr plain)
          (plain_end_of_plain (decimal_plain _)) fun _ spare => spare
  | playerDeleteOnline account version =>
      have asked := get_int_advance redis session (gamePrefix ++ account)
        ⟨long_game account, trivial⟩ ((plain_end_behind game_prefix_plain account).mpr plain)
        (fun other (spare : spares (.playerDeleteOnline account version) other) => spare)
      simp only [handle, handlePlayerDeleteOnlineToRedis]
      split
      · exact asked
      · apply advance_trans asked
        exact delete_advance redis _ _ ⟨long_game account, trivial⟩
          ((plain_end_behind game_prefix_plain account).mpr plain) fun _ spare => spare
  | gameToken account =>
      have key := (plain_end_behind token_prefix_plain account).mpr plain
      have asked := get_string_advance redis session (tokenKey account)
        ⟨long_token account, trivial⟩ key
        (fun other (spare : spares (.gameToken account) other) => spare)
      apply advance_trans asked
      exact delete_advance redis _ _ ⟨long_token account, trivial⟩ key fun _ spare => spare

theorem faithful_of_plain (request : Request) (plain : PlainRequest request) :
    Faithful redis appId parse request := by
  intro store
  apply (handle_advance redis appId parse (begin store) request plain).meant
  intro entry member
  cases member

/-- The lowest version there is: every request about the account goes on. -/
def lowest : Bytes := ascii "-2147483648"

theorem sync_from_lowest (store : Store) (account : Bytes) (version : Int32)
    (outer : Outer account) :
    ∃ between : Session, between.alive = true ∧
      handlePlayerSyncOnlineToRedis redis (begin (store.insert (gamePrefix ++ account) lowest))
          account version =
        (redisCommand redis between (.setex (gamePrefix ++ account) onlineTimeout
          (decimal version.toInt64.toUInt64.toNat))).2 := by
  have key := (plain_end_behind game_prefix_plain account).mpr outer
  have found : (store.insert (gamePrefix ++ account) lowest)[gamePrefix ++ account]? = some lowest := by
    rw [get_insert, if_pos rfl]
  have asked := command_sound redis (begin (store.insert (gamePrefix ++ account) lowest)) rfl
    (.get (gamePrefix ++ account)) ⟨long_game account, trivial⟩ key
  rw [redis.get_finds, show (begin (store.insert (gamePrefix ++ account) lowest)).store =
    store.insert (gamePrefix ++ account) lowest from rfl, found] at asked
  have number : stoi (cStr lowest) = some (-2147483648) := by decide
  have read : getInt redis (begin (store.insert (gamePrefix ++ account) lowest))
      (gamePrefix ++ account) = (-2147483648, (redisCommand redis
        (begin (store.insert (gamePrefix ++ account) lowest)) (.get (gamePrefix ++ account))).2) := by
    rw [getInt, asked]
    simp only [number]
  have bound : ¬ version.toInt < -2147483648 := by
    have low := version.minValue_le_toInt
    have least : Int32.minValue.toInt = -2147483648 := by decide
    omega
  refine ⟨(redisCommand redis (begin (store.insert (gamePrefix ++ account) lowest))
    (.get (gamePrefix ++ account))).2, ?_, ?_⟩
  · rw [asked]
  · rw [handlePlayerSyncOnlineToRedis, read]
    simp only [if_neg bound]
    exact setex_session redis _ _ _ _

theorem plain_of_faithful (request : Request) (faithful : Faithful redis appId parse request) :
    PlainRequest request := by
  cases request with
  | accountSyncOnline account =>
      have sound : Sound (.setex (loginPrefix ++ account) onlineTimeout
          (decimalInt appId.toInt)) := by
        apply sound_of_meant redis (begin ∅) _ rfl _
          (setex_formed (long_login account) online_lasts) _
          (faithful ∅)
        rw [← setex_session]
        exact List.prefix_refl _
      exact (plain_behind login_prefix_plain account).mp sound.1
  | accountDeleteOnline account =>
      have sound : PlainEnd (loginPrefix ++ account) := sound_of_meant redis (begin ∅) _ rfl
        (.del (loginPrefix ++ account)) ⟨long_login account, trivial⟩ (List.prefix_refl _)
        (faithful ∅)
      exact (plain_end_behind login_prefix_plain account).mp sound
  | loginToken account playerSn uuid =>
      have sound : Sound (.setex (tokenKey account) tokenTimeout
          (TokenInfo.mk uuid.text playerSn).serialize) := by
        apply sound_of_meant redis (begin ∅) _ rfl _
          (setex_formed (long_token account) token_lasts) _
          (faithful ∅)
        rw [← login_token_session]
        exact List.prefix_refl _
      exact ⟨(plain_behind token_prefix_plain account).mp sound.1,
        (serialize_plain_iff uuid playerSn).mp sound.2⟩
  | accountQueryOnline account =>
      have locked := setnx_expire_log redis (begin ∅) (loginPrefix ++ account) appId.toInt
        onlineTimeout
      have later := get_int_log redis
        (setnxExpire redis (begin ∅) (loginPrefix ++ account) appId.toInt onlineTimeout).2
        (gamePrefix ++ account)
      have sound : Plain (loginPrefix ++ account) := sound_of_meant redis (begin ∅) _ rfl
        (.setnx (loginPrefix ++ account) appId.toInt) ⟨long_login account, trivial⟩
        (locked.trans later) (faithful ∅)
      exact (plain_behind login_prefix_plain account).mp sound
  | playerSyncOnline account version =>
      -- The first command is the GET; with it the account is plain at the end at least.
      have asked := (get_int_session redis (begin ∅) (gamePrefix ++ account)).2
      have first : PlainEnd (gamePrefix ++ account) := by
        apply sound_of_meant redis (begin ∅) _ rfl (.get (gamePrefix ++ account))
          ⟨long_game account, trivial⟩ _ (faithful ∅)
        rw [← asked]
        simp only [handle, handlePlayerSyncOnlineToRedis]
        split
        · exact List.prefix_refl _
        · rw [setex_session]
          exact command_log redis _ _
      obtain ⟨between, up, same⟩ := sync_from_lowest redis ∅ account version
        ((plain_end_behind game_prefix_plain account).mp first)
      have sound : Sound (.setex (gamePrefix ++ account) onlineTimeout
          (decimal version.toInt64.toUInt64.toNat)) := by
        apply sound_of_meant redis between _ up _
          (setex_formed (long_game account) online_lasts) _
          (faithful ((∅ : Store).insert (gamePrefix ++ account) lowest))
        rw [← same]
        exact List.prefix_refl _
      exact (plain_behind game_prefix_plain account).mp sound.1
  | playerDeleteOnline account version =>
      have asked := (get_int_session redis (begin ∅) (gamePrefix ++ account)).2
      have first : PlainEnd (gamePrefix ++ account) := by
        apply sound_of_meant redis (begin ∅) _ rfl (.get (gamePrefix ++ account))
          ⟨long_game account, trivial⟩ _ (faithful ∅)
        rw [← asked]
        simp only [handle, handlePlayerDeleteOnlineToRedis]
        split
        · exact List.prefix_refl _
        · exact command_log redis _ _
      exact (plain_end_behind game_prefix_plain account).mp first
  | gameToken account =>
      have asked := get_string_session redis (begin ∅) (tokenKey account)
      have first : PlainEnd (tokenKey account) := by
        apply sound_of_meant redis (begin ∅) _ rfl (.get (tokenKey account))
          ⟨long_token account, trivial⟩ _ (faithful ∅)
        rw [← asked]
        exact command_log redis _ _
      exact (plain_end_behind token_prefix_plain account).mp first

/-! ### The token comes back -/

theorem token_key_ne_login (account other : Bytes) : tokenKey account ≠ loginPrefix ++ other := by
  intro same
  have eighth : some (116 : UInt8) = some 111 := congrArg (fun bytes => bytes[8]?) same
  exact absurd eighth (by decide)

theorem token_key_ne_game (account other : Bytes) : tokenKey account ≠ gamePrefix ++ other := by
  intro same
  have eighth : some (116 : UInt8) = some 111 := congrArg (fun bytes => bytes[8]?) same
  exact absurd eighth (by decide)

theorem token_key_injective {account other : Bytes} (same : tokenKey account = tokenKey other) :
    account = other :=
  List.append_cancel_left same

/-- Only requests about an account's token are about its key. -/
theorem spares_token (request : Request) (account : Bytes)
    (other : tokenAccount request ≠ some account) : spares request (tokenKey account) := by
  cases request with
  | accountSyncOnline _ => exact token_key_ne_login account _
  | accountDeleteOnline _ => exact token_key_ne_login account _
  | loginToken _ _ _ =>
      intro same
      exact other (congrArg some (token_key_injective same).symm)
  | accountQueryOnline _ => exact ⟨token_key_ne_login account _, token_key_ne_game account _⟩
  | playerSyncOnline _ _ => exact token_key_ne_game account _
  | playerDeleteOnline _ _ => exact token_key_ne_game account _
  | gameToken _ =>
      intro same
      exact other (congrArg some (token_key_injective same).symm)

theorem token_kept (account : Bytes) (store : Store) (requests : List Request)
    (plain : ∀ request ∈ requests, PlainRequest request ∧ tokenAccount request ≠ some account) :
    (after redis appId parse store requests)[tokenKey account]? = store[tokenKey account]? := by
  induction requests generalizing store with
  | nil => rfl
  | cons first rest ih =>
      obtain ⟨plainFirst, other⟩ := plain first List.mem_cons_self
      have step := (handle_advance redis appId parse (begin store) first plainFirst).apart
        (tokenKey account) (spares_token first account other)
      have later := ih (handle redis appId parse (begin store) first).store
        (fun request member => plain request (List.mem_cons_of_mem _ member))
      exact later.trans step

theorem token_stored (store : Store) (account : Bytes) (playerSn : UInt64) (uuid : Uuid)
    (plain : PlainRequest (.loginToken account playerSn uuid)) :
    (handle redis appId parse (begin store) (.loginToken account playerSn uuid)).store[
      tokenKey account]? = some (TokenInfo.mk uuid.text playerSn).serialize := by
  have sound : Sound (.setex (tokenKey account) tokenTimeout
      (TokenInfo.mk uuid.text playerSn).serialize) :=
    ⟨(plain_behind token_prefix_plain account).mpr plain.1,
      (serialize_plain_iff uuid playerSn).mpr plain.2⟩
  have done := command_sound redis (begin store) rfl (.setex (tokenKey account) tokenTimeout
    (TokenInfo.mk uuid.text playerSn).serialize) ⟨long_token account, token_lasts⟩ sound
  rw [handle, login_token_session, done, redis.setex_stores _ _ _ _ token_lasts]
  dsimp only
  rw [get_insert, if_pos rfl]

/-- `ParseFromString` on what `SerializeToString` wrote; a message has less than
2 GiB. -/
def Inverts (parse : Bytes → TokenInfo) : Prop :=
  ∀ info : TokenInfo, info.token.length < 2 ^ 31 → parse info.serialize = info

theorem recovers_of_plain (inverts : Inverts parse) (request : Request) (plain : PlainRequest request) : Recovers redis appId parse request := by
  rintro account playerSn uuid rfl store between others
  have value := token_stored redis appId parse store account playerSn uuid plain
  have held := token_kept redis appId parse account
    (handle redis appId parse (begin store) (.loginToken account playerSn uuid)).store between others
  rw [value] at held
  have asked := command_sound redis
    (begin (after redis appId parse store (.loginToken account playerSn uuid :: between))) rfl
    (.get (tokenKey account)) ⟨long_token account, trivial⟩
    ((plain_end_behind token_prefix_plain account).mpr (outer_of_inner plain.1))
  have clean := ((serialize_plain_iff uuid playerSn).mpr plain.2).2.1
  have string : (getString redis (begin (after redis appId parse store
      (.loginToken account playerSn uuid :: between))) (tokenKey account)).1 =
      (TokenInfo.mk uuid.text playerSn).serialize := by
    rw [getString, asked, redis.get_finds]
    simp only [begin, after, List.foldl_cons] at held ⊢
    rw [held]
    exact c_str_of_clean _ clean
  rw [handleGameTokenToRedis]
  dsimp only
  apply (congrArg parse string).trans
  apply inverts
  rw [uuid.size]
  decide

/-- Every command of a request is executed as it was asked, and a token comes
back as it was stored, exactly when the request is plain. -/
theorem commands_meant_iff (inverts : Inverts parse) (request : Request) :
    (Faithful redis appId parse request ∧ Recovers redis appId parse request) ↔
      PlainRequest request := by
  constructor
  · rintro ⟨faithful, _⟩
    exact plain_of_faithful redis appId parse request faithful
  · intro plain
    exact ⟨faithful_of_plain redis appId parse request plain,
      recovers_of_plain redis appId parse inverts request plain⟩

/-! ### A redis and a token -/

def execute (store : Store) (words : List Bytes) : Reply × Store :=
  match words with
  | [name, key] =>
      if name = ascii "del" then (.integer (if key ∈ store then 1 else 0), store.erase key)
      else if name = ascii "get" then
        ((match store[key]? with
          | some value => .string value
          | none => .nil), store)
      else (.error, store)
  | [name, key, value] =>
      if name = ascii "SETNX" then
        if key ∈ store then (.integer 0, store) else (.integer 1, store.insert key value)
      else if name = ascii "EXPIRE" then (.integer (if key ∈ store then 1 else 0), store)
      else (.error, store)
  | [name, key, _, value] =>
      if name = ascii "SETEX" then (.status (ascii "OK"), store.insert key value)
      else (.error, store)
  | _ => (.error, store)

def inMemory : Redis where
  run := execute
  setex_stores := by
    intro store key value timeout _
    rfl
  setnx_stores := by
    intro store key value
    rfl
  expire_keeps := by
    intro store key timeout _
    rfl
  del_erases := by
    intro store key
    rfl
  get_finds := by
    intro store key
    rfl

/-- `ParseFromString` on the fields in the order of their tags. -/
def parseTokenInfo (bytes : Bytes) : TokenInfo :=
  let token := WireFormat.readField 10 none (WireFormat.readMessage id) bytes
  let playerSn := WireFormat.readField 16 0 WireFormat.readVarint token.2
  ⟨token.1.getD [], UInt64.ofNat playerSn.1⟩

def sampleUuid : Uuid where
  text := ascii "1b4e28ba-2fa1-11d2-883f-0016d3cca427"
  size := by decide
  bytes := by decide +kernel

theorem parse_token_info : Inverts parseTokenInfo := by
  rintro ⟨token, playerSn⟩ small
  have number : WireFormat.readField 16 0 WireFormat.readVarint
      (WireFormat.varintField 16 playerSn.toNat) = (playerSn.toNat, []) :=
    WireFormat.read_last_varint playerSn.toNat_lt
  have apart : WireFormat.Avoids 10 (WireFormat.varintField 16 playerSn.toNat) :=
    WireFormat.avoids_last _ (by decide)
  by_cases empty : token = []
  · have text : WireFormat.readField 10 none (WireFormat.readMessage id)
        (WireFormat.messageField 10 none ++ WireFormat.varintField 16 playerSn.toNat) =
          (none, WireFormat.varintField 16 playerSn.toNat) :=
      WireFormat.read_field_none none _ apart
    simp [parseTokenInfo, TokenInfo.serialize, empty, text, number]
  · have text := WireFormat.read_message_field (some token) id id (fun _ _ => rfl)
      (fun value same => Option.some.inj same ▸ Nat.lt_trans small (by decide)) apart
    rw [Option.map_some] at text
    simp only [id_eq] at text
    simp [parseTokenInfo, TokenInfo.serialize, empty, text, number]

theorem commands_meant_login :
    Faithful inMemory 3 parseTokenInfo (.loginToken (ascii "test") 1 sampleUuid) ∧
      Recovers inMemory 3 parseTokenInfo (.loginToken (ascii "test") 1 sampleUuid) := by
  apply (commands_meant_iff inMemory 3 parseTokenInfo parse_token_info
    (.loginToken (ascii "test") 1 sampleUuid)).mpr
  refine ⟨⟨by decide, by decide, by decide⟩, ?_⟩
  apply (no_space_last_iff _ (UInt64.toNat_lt 1)).mp
  decide

/-- An account with a space makes five words of a SETEX. -/
theorem space_splits_key :
    (handle inMemory 3 parseTokenInfo (begin ∅)
        (.loginToken (ascii "a b") 1 sampleUuid)).log.map (·.words) =
      [some [ascii "SETEX", ascii "engine::token::a", ascii "b", ascii "120",
        (TokenInfo.mk sampleUuid.text 1).serialize]] ∧
    ¬ (Faithful inMemory 3 parseTokenInfo (.loginToken (ascii "a b") 1 sampleUuid) ∧
      Recovers inMemory 3 parseTokenInfo (.loginToken (ascii "a b") 1 sampleUuid)) := by
  constructor
  · decide
  · rintro ⟨faithful, _⟩
    have plain := plain_of_faithful inMemory 3 parseTokenInfo _ faithful
    exact plain.1.2.1 (by decide)

end GameBook.RedisRequests
