import GameBook.CommandWords
import GameBook.Mongoose
import GameBook.WireFormat

/-!
The commands of `RedisConnector`, and the handlers of `RedisLogin` and
`RedisGame` that give them. A command is written with `strutil::format` and read
again by hiredis. Redis itself is a parameter: of it only what the commands do
with the words they are meant to have is used.
-/

namespace GameBook.RedisCommands

open CString CommandWords OrderedMap
open RedisGame (formatWords tokenPrefix tokenKey)
open Mongoose (ascii)

/-! ### The commands -/

def decimal (number : Nat) : Bytes := (Nat.toDigits 10 number).map fun c => UInt8.ofNat c.toNat

def decimalInt : Int → Bytes
  | .ofNat number => decimal number
  | .negSucc number => 45 :: decimal (number + 1)

inductive Command where
  | setex (key : Bytes) (timeout : Nat) (value : Bytes)
  | setnx (key : Bytes) (value : Int)
  | expire (key : Bytes) (timeout : Nat)
  | del (key : Bytes)
  | get (key : Bytes)

def Command.key : Command → Bytes
  | .setex key _ _ => key
  | .setnx key _ => key
  | .expire key _ => key
  | .del key => key
  | .get key => key

def Command.words : Command → List Bytes
  | .setex key timeout value => [ascii "SETEX", key, decimal timeout, value]
  | .setnx key value => [ascii "SETNX", key, decimalInt value]
  | .expire key timeout => [ascii "EXPIRE", key, decimal timeout]
  | .del key => [ascii "del", key]
  | .get key => [ascii "get", key]

/-- `strutil::format`. A text that fits the buffer inside an empty string is
written there with the capacity as its limit, the closing NUL included. -/
def format (text : Bytes) : Bytes := if 15 < text.length then text else text.take 14

inductive Reply where
  | status (text : Bytes)
  | integer (value : Int)
  | string (text : Bytes)
  | nil
  | error
  deriving DecidableEq

abbrev Store := Table Bytes Bytes

/-- A redis, as far as the five commands tell. Keys do not expire here. -/
structure Redis where
  run : Store → List Bytes → Reply × Store
  setex_stores : ∀ (store : Store) (key value : Bytes) (timeout : Nat), 0 < timeout →
    run store (Command.setex key timeout value).words =
      (.status (ascii "OK"), store.insert key value)
  setnx_stores : ∀ (store : Store) (key : Bytes) (value : Int),
    run store (Command.setnx key value).words =
      if key ∈ store then (.integer 0, store) else (.integer 1, store.insert key (decimalInt value))
  expire_keeps : ∀ (store : Store) (key : Bytes) (timeout : Nat), 0 < timeout →
    run store (Command.expire key timeout).words = (.integer (if key ∈ store then 1 else 0), store)
  del_erases : ∀ (store : Store) (key : Bytes),
    run store (Command.del key).words = (.integer (if key ∈ store then 1 else 0), store.erase key)
  get_finds : ∀ (store : Store) (key : Bytes),
    run store (Command.get key).words =
      ((match store[key]? with
        | some value => .string value
        | none => .nil), store)

/-- What was asked and the words redis was given, `none` where there were none,
with the store around it. -/
structure Executed where
  asked : Command
  words : Option (List Bytes)
  before : Store
  after : Store

structure Session where
  store : Store
  log : List Executed
  alive : Bool

def begin (store : Store) : Session := ⟨store, [], true⟩

variable (redis : Redis)

/-- `redisCommand` on the formatted text. An invalid format gives a null reply,
and every caller reads its type. A conversion without its argument ends here too:
whatever redis is given then, the words are not those that were meant. -/
def redisCommand (session : Session) (asked : Command) : Reply × Session :=
  if session.alive then
    match formatWords (format (joined asked.words)) none with
    | none =>
        (.nil, ⟨session.store, session.log ++ [⟨asked, none, session.store, session.store⟩], false⟩)
    | some words =>
        let (reply, store) := redis.run session.store words
        (reply, ⟨store, session.log ++ [⟨asked, some words, session.store, store⟩], true⟩)
  else (.nil, session)

/-! ### RedisConnector -/

def setex (session : Session) (key value : Bytes) (timeout : Nat) : Bool × Session :=
  match redisCommand redis session (.setex key timeout value) with
  | (.status text, session) => (text.take 2 = ascii "OK", session)
  | (_, session) => (false, session)

def setnxExpire (session : Session) (key : Bytes) (value : Int) (timeout : Nat) : Bool × Session :=
  match redisCommand redis session (.setnx key value) with
  | (.integer 1, session) =>
      match redisCommand redis session (.expire key timeout) with
      | (.integer 1, session) => (true, session)
      | (_, session) => (false, session)
  | (_, session) => (false, session)

def delete (session : Session) (key : Bytes) : Session :=
  (redisCommand redis session (.del key)).2

def digitsValue (digits : Bytes) : Int :=
  digits.foldl (fun value digit => 10 * value + (digit.toNat - 48)) 0

/-- `std::stoi` in base ten; it throws where there is no number, or one that is
no int. -/
def stoi (text : Bytes) : Option Int :=
  let body := text.dropWhile Mongoose.isSpace
  let unsigned := if body.head? = some 45 ∨ body.head? = some 43 then body.tail else body
  let digits := unsigned.takeWhile Mongoose.isDigit
  let value := if body.head? = some 45 then - digitsValue digits else digitsValue digits
  if digits = [] ∨ value < -2147483648 ∨ 2147483647 < value then none else some value

def getInt (session : Session) (key : Bytes) : Int × Session :=
  match redisCommand redis session (.get key) with
  | (.integer value, session) => ((BitVec.ofInt 32 value).toInt, session)
  | (.string text, session) =>
      match stoi (cStr text) with
      | some value => (value, session)
      | none => (0, ⟨session.store, session.log, false⟩)
  | (_, session) => (0, session)

def getString (session : Session) (key : Bytes) : Bytes × Session :=
  match redisCommand redis session (.get key) with
  | (.string text, session) => (cStr text, session)
  | (_, session) => ([], session)

/-! ### RedisLogin and RedisGame -/

def loginPrefix : Bytes := ascii "engine::online::login::"

def gamePrefix : Bytes := ascii "engine::online::game::"

def tokenTimeout : Nat := 2 * 60

def onlineTimeout : Nat := 6 * 60

def UuidByte (byte : UInt8) : Prop :=
  byte = 45 ∨ 48 ≤ byte ∧ byte ≤ 57 ∨ 65 ≤ byte ∧ byte ≤ 70 ∨ 97 ≤ byte ∧ byte ≤ 102

instance (byte : UInt8) : Decidable (UuidByte byte) := by
  unfold UuidByte
  infer_instance

structure Uuid where
  text : Bytes
  size : text.length = 36
  bytes : ∀ byte ∈ text, UuidByte byte

structure TokenInfo where
  token : Bytes
  playerSn : UInt64
  deriving DecidableEq

def TokenInfo.serialize (info : TokenInfo) : Bytes :=
  WireFormat.messageField 10 (if info.token = [] then none else some info.token) ++
    WireFormat.varintField 16 info.playerSn.toNat

def handleAccountSyncOnlineToRedis (appId : Int32) (session : Session) (account : Bytes) : Session :=
  (setex redis session (loginPrefix ++ account) (decimalInt appId.toInt) onlineTimeout).2

def handleAccountDeleteOnlineToRedis (session : Session) (account : Bytes) : Session :=
  delete redis session (loginPrefix ++ account)

/-- The token in the reply, and what became of the store. -/
def handleLoginTokenToRedis (session : Session) (account : Bytes) (playerSn : UInt64)
    (uuid : Uuid) : Bytes × Session :=
  match setex redis session (tokenKey account) (TokenInfo.mk uuid.text playerSn).serialize
      tokenTimeout with
  | (true, session) => (cStr uuid.text, session)
  | (false, session) => ([], session)

def handleAccountQueryOnline (appId : Int32) (session : Session) (account : Bytes) :
    Bool × Session :=
  let (fresh, session) :=
    setnxExpire redis session (loginPrefix ++ account) appId.toInt onlineTimeout
  let (version, session) := getInt redis session (gamePrefix ++ account)
  (!fresh || version ≠ 0, session)

/-- The version is an int32 and goes to the `Setex` for a uint64. -/
def handlePlayerSyncOnlineToRedis (session : Session) (account : Bytes) (version : Int32) :
    Session :=
  let (onlineVersion, session) := getInt redis session (gamePrefix ++ account)
  if version.toInt < onlineVersion then session
  else (setex redis session (gamePrefix ++ account) (decimal version.toInt64.toUInt64.toNat)
    onlineTimeout).2

def handlePlayerDeleteOnlineToRedis (session : Session) (account : Bytes) (version : Int32) :
    Session :=
  let (onlineVersion, session) := getInt redis session (gamePrefix ++ account)
  if version.toInt < onlineVersion then session
  else delete redis session (gamePrefix ++ account)

def handleGameTokenToRedis (parse : Bytes → TokenInfo) (session : Session) (account : Bytes) :
    TokenInfo × Session :=
  let (tokenValue, session) := getString redis session (tokenKey account)
  (parse tokenValue, delete redis session (tokenKey account))

inductive Request where
  | accountSyncOnline (account : Bytes)
  | accountDeleteOnline (account : Bytes)
  | loginToken (account : Bytes) (playerSn : UInt64) (uuid : Uuid)
  | accountQueryOnline (account : Bytes)
  | playerSyncOnline (account : Bytes) (version : Int32)
  | playerDeleteOnline (account : Bytes) (version : Int32)
  | gameToken (account : Bytes)

def handle (appId : Int32) (parse : Bytes → TokenInfo) (session : Session) : Request → Session
  | .accountSyncOnline account => handleAccountSyncOnlineToRedis redis appId session account
  | .accountDeleteOnline account => handleAccountDeleteOnlineToRedis redis session account
  | .loginToken account playerSn uuid =>
      (handleLoginTokenToRedis redis session account playerSn uuid).2
  | .accountQueryOnline account => (handleAccountQueryOnline redis appId session account).2
  | .playerSyncOnline account version =>
      handlePlayerSyncOnlineToRedis redis session account version
  | .playerDeleteOnline account version =>
      handlePlayerDeleteOnlineToRedis redis session account version
  | .gameToken account => (handleGameTokenToRedis redis parse session account).2

/-- The store after requests, each handled by a process that is up. -/
def after (appId : Int32) (parse : Bytes → TokenInfo) (store : Store) (requests : List Request) :
    Store :=
  requests.foldl (fun store request => (handle redis appId parse (begin store) request).store) store

end GameBook.RedisCommands
