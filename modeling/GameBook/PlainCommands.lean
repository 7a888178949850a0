import GameBook.RedisCommands

/-!
What the accounts, the values and the token have to be like for every command
to be executed as it was asked. A space, a percent sign or a NUL in an account
makes another command of it, and the last byte of a player's SN as it is
serialized must not be a space.
-/

namespace GameBook.PlainCommands

open CString CommandWords OrderedMap RedisCommands
open RedisGame (formatWords tokenPrefix tokenKey)
open Mongoose (ascii)

/-- An account whose key stands before other arguments. -/
def Inner (account : Bytes) : Prop := 0 ∉ account ∧ 32 ∉ account ∧ 37 ∉ account

/-- An account whose key is the last argument. -/
def Outer (account : Bytes) : Prop := 0 ∉ account ∧ 32 ∉ account ∧ PercentLast account

/-- The highest group of seven bits is not the code of a space. -/
def NoSpaceLast (number : Nat) : Prop := ∀ count, number / 128 ^ count ≠ 32

def PlainRequest : Request → Prop
  | .accountSyncOnline account => Inner account
  | .accountDeleteOnline account => Outer account
  | .loginToken account playerSn _ => Inner account ∧ NoSpaceLast playerSn.toNat
  | .accountQueryOnline account => Inner account
  | .playerSyncOnline account _ => Inner account
  | .playerDeleteOnline account _ => Outer account
  | .gameToken account => Outer account

/-- Redis was given the words of the command, and no other key's value changed. -/
def Meant (entry : Executed) : Prop :=
  entry.words = some entry.asked.words ∧
    ∀ other, other ≠ entry.asked.key → entry.after[other]? = entry.before[other]?

def tokenAccount : Request → Option Bytes
  | .loginToken account _ _ => some account
  | .gameToken account => some account
  | _ => none

section Statements

variable (redis : Redis) (appId : Int32) (parse : Bytes → TokenInfo)

def Faithful (request : Request) : Prop :=
  ∀ store, ∀ entry ∈ (handle redis appId parse (begin store) request).log, Meant entry

/-- A token that was stored is handed over as it was, whatever plain requests
about others come in between. -/
def Recovers (request : Request) : Prop :=
  ∀ account playerSn uuid, request = .loginToken account playerSn uuid →
    ∀ store between,
      (∀ later ∈ between, PlainRequest later ∧ tokenAccount later ≠ some account) →
      (handleGameTokenToRedis redis parse
        (begin (after redis appId parse store (request :: between))) account).1 =
          ⟨uuid.text, playerSn⟩

end Statements

/-! ### Plain words -/

theorem outer_of_inner {account : Bytes} (inner : Inner account) : Outer account :=
  ⟨inner.1, inner.2.1, percent_last_of_none _ inner.2.2⟩

theorem plain_of_bytes {argument : Bytes} (filled : argument ≠ [])
    (bytes : ∀ byte ∈ argument, byte ≠ 0 ∧ byte ≠ 32 ∧ byte ≠ 37) : Plain argument :=
  ⟨filled, fun member => (bytes 0 member).1 rfl, fun member => (bytes 32 member).2.1 rfl,
    fun member => (bytes 37 member).2.2 rfl⟩

theorem decimal_filled (number : Nat) : decimal number ≠ [] := by
  intro empty
  exact Nat.toDigits_ne_nil (List.map_eq_nil_iff.mp empty)

theorem decimal_bytes (number : Nat) (byte : UInt8) (member : byte ∈ decimal number) :
    byte ≠ 0 ∧ byte ≠ 32 ∧ byte ≠ 37 := by
  obtain ⟨digit, among, rfl⟩ := List.mem_map.mp member
  have isDigit := Nat.isDigit_of_mem_toDigits (by decide) (by decide) among
  have range : 48 ≤ digit.toNat ∧ digit.toNat ≤ 57 := by
    simpa [Char.isDigit, UInt32.le_iff_toNat_le] using isDigit
  have same : (UInt8.ofNat digit.toNat).toNat = digit.toNat :=
    WireFormat.to_nat_of_nat _ (by omega)
  refine ⟨?_, ?_, ?_⟩ <;> intro equal <;> rw [equal] at same <;> simp at same <;> omega

theorem decimal_plain (number : Nat) : Plain (decimal number) :=
  plain_of_bytes (decimal_filled number) (decimal_bytes number)

theorem decimal_int_plain (number : Int) : Plain (decimalInt number) := by
  cases number with
  | ofNat number => exact decimal_plain number
  | negSucc number =>
      apply plain_of_bytes (List.cons_ne_nil _ _)
      intro byte member
      rcases List.mem_cons.mp member with rfl | later
      · decide
      · exact decimal_bytes _ byte later

theorem uuid_byte_plain {byte : UInt8} (made : UuidByte byte) :
    byte ≠ 0 ∧ byte ≠ 32 ∧ byte ≠ 37 := by
  refine ⟨?_, ?_, ?_⟩ <;> rintro rfl <;> revert made <;> decide

theorem uuid_plain (uuid : Uuid) : Plain uuid.text := by
  apply plain_of_bytes
  · intro empty
    have size := uuid.size
    rw [empty] at size
    cases size
  · intro byte member
    exact uuid_byte_plain (uuid.bytes byte member)

theorem percent_last_behind (front rest : Bytes) (absent : 37 ∉ front) :
    PercentLast (front ++ rest) ↔ PercentLast rest := by
  cases rest with
  | nil => simpa [PercentLast] using percent_last_of_none front absent
  | cons byte rest =>
      rw [percent_last_append]
      exact ⟨And.right, fun last => ⟨absent, last⟩⟩

theorem plain_behind {front : Bytes} (plain : Plain front) (account : Bytes) :
    Plain (front ++ account) ↔ Inner account := by
  obtain ⟨filled, noNul, noSpace, noPercent⟩ := plain
  simp [Plain, Inner, filled, noNul, noSpace, noPercent]

theorem plain_end_behind {front : Bytes} (plain : Plain front) (account : Bytes) :
    PlainEnd (front ++ account) ↔ Outer account := by
  obtain ⟨filled, noNul, noSpace, noPercent⟩ := plain
  simp [PlainEnd, Outer, filled, noNul, noSpace, percent_last_behind _ _ noPercent]

instance (argument : Bytes) : Decidable (Plain argument) :=
  inferInstanceAs (Decidable (argument ≠ [] ∧ 0 ∉ argument ∧ 32 ∉ argument ∧ 37 ∉ argument))

theorem token_prefix_plain : Plain tokenPrefix := by decide

theorem login_prefix_plain : Plain loginPrefix := by decide

theorem game_prefix_plain : Plain gamePrefix := by decide

/-! ### The serialized token -/

/-- A marked group is 128 or more, so only the last one can be a space. -/
theorem space_mem_groups (fuel number : Nat) :
    32 ∈ WireFormat.groups fuel number ↔ ∃ count < fuel, number / 128 ^ count = 32 := by
  induction fuel generalizing number with
  | zero => simp [WireFormat.groups]
  | succ fuel ih =>
      rw [WireFormat.groups]
      split
      · rename_i last
        rw [List.mem_singleton]
        constructor
        · intro here
          have same := congrArg UInt8.toNat here
          rw [WireFormat.to_nat_of_nat number (by omega)] at same
          exact ⟨0, Nat.succ_pos fuel, by simpa using same.symm⟩
        · rintro ⟨count, _, here⟩
          cases count with
          | zero =>
              have same : number = 32 := by simpa using here
              rw [same]
              decide
          | succ count =>
              have small : number / 128 ^ (count + 1) = 0 := by
                rw [Nat.pow_succ, Nat.mul_comm, ← Nat.div_div_eq_div_mul, Nat.div_eq_of_lt last,
                  Nat.zero_div]
              omega
      · rename_i more
        have marked : (32 : UInt8) ≠ UInt8.ofNat (number % 128 + 128) := by
          intro here
          have same := congrArg UInt8.toNat here
          rw [WireFormat.to_nat_of_nat _ (by omega)] at same
          have space : (32 : UInt8).toNat = 32 := rfl
          omega
        rw [List.mem_cons, or_iff_right marked, ih]
        constructor
        · rintro ⟨count, below, here⟩
          refine ⟨count + 1, by omega, ?_⟩
          rw [Nat.pow_succ, Nat.mul_comm, ← Nat.div_div_eq_div_mul]
          exact here
        · rintro ⟨count, below, here⟩
          cases count with
          | zero =>
              rw [Nat.pow_zero, Nat.div_one] at here
              omega
          | succ count =>
              rw [Nat.pow_succ, Nat.mul_comm, ← Nat.div_div_eq_div_mul] at here
              exact ⟨count, by omega, here⟩

theorem no_space_last_iff (number : Nat) (small : number < 2 ^ 64) :
    32 ∉ WireFormat.varint number ↔ NoSpaceLast number := by
  rw [WireFormat.varint, space_mem_groups]
  constructor
  · intro none count here
    apply none
    refine ⟨count, ?_, here⟩
    by_contra late
    have large : 128 ^ 10 ≤ 128 ^ count := Nat.pow_le_pow_right (by decide) (by omega)
    rw [Nat.div_eq_of_lt (Nat.lt_of_lt_of_le (Nat.lt_trans small (by decide)) large)] at here
    cases here
  · rintro none ⟨count, _, here⟩
    exact none count here

theorem percent_last_groups (fuel number : Nat) : PercentLast (WireFormat.groups fuel number) := by
  induction fuel generalizing number with
  | zero => trivial
  | succ fuel ih =>
      rw [WireFormat.groups]
      split
      · trivial
      · have later := ih (number / 128)
        have marked : UInt8.ofNat (number % 128 + 128) ≠ 37 := by
          intro here
          have same := congrArg UInt8.toNat here
          rw [WireFormat.to_nat_of_nat _ (by omega)] at same
          have percent : (37 : UInt8).toNat = 37 := rfl
          omega
        cases rest : WireFormat.groups fuel (number / 128) with
        | nil => trivial
        | cons next rest =>
            rw [rest] at later
            exact ⟨marked, later⟩

theorem serialize_uuid (uuid : Uuid) (playerSn : UInt64) :
    (TokenInfo.mk uuid.text playerSn).serialize =
      (10 :: 36 :: uuid.text) ++ WireFormat.varintField 16 playerSn.toNat := by
  have filled : uuid.text ≠ [] := (uuid_plain uuid).1
  have length : WireFormat.varint 36 = [36] := by decide
  simp [TokenInfo.serialize, WireFormat.messageField, WireFormat.field, filled, uuid.size, length]

theorem head_plain (uuid : Uuid) : Plain (10 :: 36 :: uuid.text) := by
  apply plain_of_bytes (List.cons_ne_nil _ _)
  intro byte member
  simp only [List.mem_cons] at member
  rcases member with rfl | rfl | later
  · decide
  · decide
  · exact uuid_byte_plain (uuid.bytes byte later)

theorem outer_sn_iff (playerSn : UInt64) :
    Outer (WireFormat.varintField 16 playerSn.toNat) ↔ NoSpaceLast playerSn.toNat := by
  have clean : 0 ∉ WireFormat.varintField 16 playerSn.toNat :=
    WireFormat.varint_field_clean (by decide) playerSn.toNat
  by_cases zero : playerSn.toNat = 0
  · simp [Outer, WireFormat.varintField, WireFormat.field, zero, PercentLast, NoSpaceLast]
  · have percent : PercentLast (16 :: WireFormat.varint playerSn.toNat) :=
      (percent_last_behind [16] _ (by decide)).mpr (percent_last_groups 10 _)
    have spaces := no_space_last_iff playerSn.toNat playerSn.toNat_lt
    simp only [WireFormat.varintField, zero, if_false, WireFormat.field] at clean ⊢
    constructor
    · intro outer
      exact spaces.mp fun member => outer.2.1 (List.mem_cons_of_mem _ member)
    · intro none
      refine ⟨clean, ?_, percent⟩
      rw [List.mem_cons, not_or]
      exact ⟨by decide, spaces.mpr none⟩

theorem serialize_plain_iff (uuid : Uuid) (playerSn : UInt64) :
    PlainEnd (TokenInfo.mk uuid.text playerSn).serialize ↔ NoSpaceLast playerSn.toNat := by
  rw [serialize_uuid, plain_end_behind (head_plain uuid), outer_sn_iff]

/-! ### One command -/

section Commands

variable (redis : Redis)

def Sound : Command → Prop
  | .setex key _ value => Plain key ∧ PlainEnd value
  | .setnx key _ => Plain key
  | .expire key _ => Plain key
  | .del key => PlainEnd key
  | .get key => PlainEnd key

theorem words_plain_iff (asked : Command) : PlainArguments asked.words ↔ Sound asked := by
  have names : Plain (ascii "SETEX") ∧ Plain (ascii "SETNX") ∧ Plain (ascii "EXPIRE") ∧
      Plain (ascii "del") ∧ Plain (ascii "get") := by decide
  obtain ⟨setex, setnx, expire, del, get⟩ := names
  cases asked with
  | setex key timeout value =>
      simp [Command.words, PlainArguments, Sound, setex, decimal_plain timeout]
  | setnx key value =>
      simp [Command.words, PlainArguments, Sound, setnx, plain_end_of_plain (decimal_int_plain value)]
  | expire key timeout =>
      simp [Command.words, PlainArguments, Sound, expire, plain_end_of_plain (decimal_plain timeout)]
  | del key => simp [Command.words, PlainArguments, Sound, del]
  | get key => simp [Command.words, PlainArguments, Sound, get]

/-- A key long enough for `strutil::format`, and a time to live redis takes. -/
def WellFormed (asked : Command) : Prop :=
  15 ≤ (cStr asked.key).length ∧
    match asked with
    | .setex _ timeout _ => 0 < timeout
    | .expire _ timeout => 0 < timeout
    | _ => True

theorem format_whole (asked : Command) (formed : WellFormed asked) :
    format (joined asked.words) = joined asked.words := by
  have long : 15 < (joined asked.words).length := by
    obtain ⟨key, _⟩ := formed
    cases asked <;> simp only [Command.key] at key <;>
      simp only [Command.words, joined, List.length_append, List.length_cons] <;> omega
  rw [format, if_pos long]

theorem run_apart (store : Store) (asked : Command) (formed : WellFormed asked) (other : Bytes)
    (apart : other ≠ asked.key) : (redis.run store asked.words).2[other]? = store[other]? := by
  obtain ⟨_, timed⟩ := formed
  cases asked with
  | setex key timeout value =>
      dsimp only [Command.key] at apart
      rw [redis.setex_stores store key value timeout timed, get_insert, if_neg apart]
  | setnx key value =>
      dsimp only [Command.key] at apart
      rw [redis.setnx_stores store key value]
      split
      · rfl
      · rw [get_insert, if_neg apart]
  | expire key timeout => rw [redis.expire_keeps store key timeout timed]
  | del key =>
      dsimp only [Command.key] at apart
      rw [redis.del_erases store key, get_erase, if_neg apart]
  | get key => rw [redis.get_finds store key]

theorem command_logged (session : Session) (up : session.alive = true) (asked : Command) :
    ∃ entry, (redisCommand redis session asked).2.log = session.log ++ [entry] ∧
      entry.asked = asked ∧ entry.words = formatWords (format (joined asked.words)) none := by
  unfold redisCommand
  rw [if_pos up]
  split
  · rename_i bad
    exact ⟨_, rfl, rfl, bad.symm⟩
  · rename_i words read
    exact ⟨_, rfl, rfl, read.symm⟩

theorem command_sound (session : Session) (up : session.alive = true) (asked : Command)
    (formed : WellFormed asked) (sound : Sound asked) :
    redisCommand redis session asked =
      ((redis.run session.store asked.words).1,
        ⟨(redis.run session.store asked.words).2,
          session.log ++ [⟨asked, some asked.words, session.store,
            (redis.run session.store asked.words).2⟩], true⟩) := by
  have read := read_plain asked.words ((words_plain_iff asked).mpr sound)
  rw [redisCommand, if_pos up, format_whole asked formed, read]

/-- A step that leaves the entries of some keys alone and whose commands were
executed as meant. -/
structure Advance (spared : Bytes → Prop) (before after : Session) : Prop where
  meant : (∀ entry ∈ before.log, Meant entry) → ∀ entry ∈ after.log, Meant entry
  apart : ∀ other, spared other → after.store[other]? = before.store[other]?

variable {spared : Bytes → Prop}

theorem advance_refl (session : Session) : Advance spared session session :=
  ⟨id, fun _ _ => rfl⟩

theorem advance_trans {first second third : Session} (left : Advance spared first second)
    (right : Advance spared second third) : Advance spared first third :=
  ⟨fun meant => right.meant (left.meant meant),
    fun other spare => (right.apart other spare).trans (left.apart other spare)⟩

theorem command_advance (session : Session) (asked : Command) (formed : WellFormed asked)
    (sound : Sound asked) (spares : ∀ other, spared other → other ≠ asked.key) :
    Advance spared session (redisCommand redis session asked).2 := by
  by_cases up : session.alive = true
  · rw [command_sound redis session up asked formed sound]
    constructor
    · intro before entry member
      rcases List.mem_append.mp member with earlier | last
      · exact before entry earlier
      · rw [List.mem_singleton.mp last]
        exact ⟨rfl, run_apart redis session.store asked formed⟩
    · intro other spare
      exact run_apart redis session.store asked formed other (spares other spare)
  · rw [redisCommand, if_neg up]
    exact advance_refl session

end Commands

end GameBook.PlainCommands
