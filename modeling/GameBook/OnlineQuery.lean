import GameBook.RedisRequests

/-!
`RedisLogin::HandleAccountQueryOnline`, with the times to live of redis and with
commands that fail. The flag is written before the flag of the game is read. What
hiredis reads where a percent sign asks for an argument nobody passed is left open.
-/

namespace GameBook.OnlineQuery

open CString CommandWords OrderedMap
open Mongoose (ascii)
open RedisGame (formatWords)
open RedisCommands (Command Reply format decimal decimalInt stoi loginPrefix gamePrefix onlineTimeout)

/-- A string, with its time to live as EXPIRE was told. -/
structure Entry where
  value : Bytes
  timeout : Option Bytes
  deriving DecidableEq

abbrev Store := Table Bytes Entry

/-- Redis may refuse a command; where the connection is lost there is no reply. -/
inductive Fate where
  | answered
  | refused
  | lost
  deriving DecidableEq, Repr

structure Connection where
  present : Bool
  setnx : Fate
  expire : Fate
  get : Fate
  deriving DecidableEq

/-- The three commands; any other words are an error. -/
def execute (store : Store) : List Bytes → Reply × Store
  | [name, key] =>
      if name = ascii "get" then
        match store[key]? with
        | some entry => (.string entry.value, store)
        | none => (.nil, store)
      else (.error, store)
  | [name, key, value] =>
      if name = ascii "SETNX" then
        match store[key]? with
        | some _ => (.integer 0, store)
        | none => (.integer 1, store.insert key ⟨value, none⟩)
      else if name = ascii "EXPIRE" then
        match store[key]? with
        | some entry => (.integer 1, store.insert key { entry with timeout := some value })
        | none => (.integer 0, store)
      else (.error, store)
  | _ => (.error, store)

/-- What hiredis reads of a line, with any words or none at all where a
conversion lacks its argument. -/
def Reads (read : Bytes → Option (List Bytes)) : Prop :=
  ∀ line words, formatWords line none = some words → read line = some words

variable (read : Bytes → Option (List Bytes))

/-- A null reply is followed by every caller: the process ends. -/
def redisCommand (fate : Fate) (store : Store) (asked : Command) : Option (Reply × Store) :=
  match read (format (joined asked.words)) with
  | none => none
  | some words =>
      match fate with
      | .lost => none
      | .refused => some (.error, store)
      | .answered => some (execute store words)

def setnxExpire (connection : Connection) (store : Store) (key : Bytes) (value : Int) (timeout : Nat) :
    Option (Bool × Store) :=
  if !connection.present then some (false, store)
  else
    match redisCommand read connection.setnx store (.setnx key value) with
    | none => none
    | some (.integer 1, set) =>
        match redisCommand read connection.expire set (.expire key timeout) with
        | none => none
        | some (.integer 1, timed) => some (true, timed)
        | some (_, untimed) => some (false, untimed)
    | some (_, unset) => some (false, unset)

def versionOf : Reply → Option Int
  | .integer value => some (BitVec.ofInt 32 value).toInt
  | .string text => stoi (cStr text)
  | _ => some 0

def getInt (connection : Connection) (store : Store) (key : Bytes) : Option Int :=
  if !connection.present then none
  else (redisCommand read connection.get store (.get key)).bind fun answer => versionOf answer.1

/-- Whether the account is online, and the store afterwards. -/
def handleAccountQueryOnline (connection : Connection) (appId : Int32) (store : Store) (account : Bytes) :
    Option (Bool × Store) :=
  match setnxExpire read connection store (loginPrefix ++ account) appId.toInt onlineTimeout with
  | none => none
  | some (fresh, after) =>
      match getInt read connection after (gamePrefix ++ account) with
      | none => none
      | some version => some (!fresh || version ≠ 0, after)

/-! ### What is asked -/

def flag (appId : Int32) : Entry := ⟨decimalInt appId.toInt, some (decimal onlineTimeout)⟩

/-- A refused login leaves the flag as it was, an accepted one sets it. -/
def Answers (connection : Connection) (appId : Int32) (store : Store) (account : Bytes) : Prop :=
  ∀ online after, handleAccountQueryOnline read connection appId store account = some (online, after) →
    (online = true → after[loginPrefix ++ account]? = store[loginPrefix ++ account]?) ∧
      (online = false → after[loginPrefix ++ account]? = some (flag appId))

/-- The words that redis reads from a command in which the account is not the
last word: no words where a conversion lacks its argument. -/
def keysRead (account : Bytes) : Option (List Bytes) :=
  formatWords (cStr (loginPrefix ++ account) ++ [32]) none

def Sets (connection : Connection) (store : Store) (account key : Bytes) : Prop :=
  connection.present = true ∧ connection.setnx = .answered ∧ keysRead account = some [key] ∧ store[key]? = none

/-- What `GetInt` reads of the game's flag; the login flag is another key. -/
def gameVersion (connection : Connection) (store : Store) (account : Bytes) : Option Int :=
  getInt (fun line => formatWords line none) connection store (gamePrefix ++ account)

/-- Where anything may be read for the account: nothing is set, or nothing is
answered. A percent sign at the end of the account has a meaning in GET only. -/
def Silent (connection : Connection) (store : Store) (account : Bytes) : Prop :=
  connection.present = false ∨ connection.setnx ≠ .answered ∨ connection.expire = .lost ∨
    connection.get = .lost ∨
    (formatWords (cStr (gamePrefix ++ account)) none).isSome ∧ gameVersion connection store account = none

/-! ### The commands -/

open PlainCommands RedisRequests

theorem get_read (account : Bytes) :
    formatWords (format (joined (Command.get (gamePrefix ++ account)).words)) none =
      (formatWords (cStr (gamePrefix ++ account)) none).map fun keys => ascii "get" :: keys := by
  have formed : WellFormed (.get (gamePrefix ++ account)) := ⟨long_game account, trivial⟩
  have line : joined (Command.get (gamePrefix ++ account)).words =
      ascii "get" ++ 32 :: cStr (gamePrefix ++ account) := by
    have name : cStr (ascii "get") = ascii "get" := by decide
    simp [joined, Command.words, name]
  obtain ⟨filled, -, unbroken, absent⟩ : Plain (ascii "get") := by decide
  rw [format_whole _ formed, line, read_word (ascii "get") _ none unbroken absent filled]
  rfl

section Login

variable {read} (agrees : Reads read) (connection : Connection) (appId : Int32) (store : Store)
  (account : Bytes)
include agrees

theorem get_int_read (defined : (formatWords (cStr (gamePrefix ++ account)) none).isSome) :
    getInt read connection store (gamePrefix ++ account) = gameVersion connection store account := by
  obtain ⟨keys, words⟩ := Option.isSome_iff_exists.mp defined
  have line := get_read account
  rw [words] at line
  rw [gameVersion, getInt, getInt, redisCommand, redisCommand, line, agrees _ _ line]
  rfl

end Login

/-! ### An account with a conversion -/

section Open

variable {read} (connection : Connection) (appId : Int32) (store : Store) (account : Bytes)

def Keeps (before after : Store) : Prop :=
  ∀ (key : Bytes) (entry : Entry), before[key]? = some entry →
    ∃ other, after[key]? = some other ∧ other.value = entry.value

theorem keeps_refl (before : Store) : Keeps before before := fun _ entry held => ⟨entry, held, rfl⟩

theorem keeps_trans {before middle after : Store} (first : Keeps before middle) (second : Keeps middle after) :
    Keeps before after := by
  intro key entry held
  obtain ⟨other, there, same⟩ := first key entry held
  obtain ⟨last, found, also⟩ := second key other there
  exact ⟨last, found, also.trans same⟩

end Open

def connected : Connection := ⟨true, .answered, .answered, .answered⟩

def inGame : Store := (∅ : Store).insert (gamePrefix ++ ascii "bob") ⟨ascii "5", none⟩

end GameBook.OnlineQuery
