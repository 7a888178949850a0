import GameBook.CString
import GameBook.OrderedMap

/-!
The token entries in redis and the two handlers that store and consume them,
`RedisLogin::HandleLoginTokenToRedis` and `RedisGame::HandleGameTokenToRedis`.
A command is text that hiredis splits at spaces, so an account can name no key,
another account's key or several.
-/

namespace GameBook.RedisGame

open CString OrderedMap

/-- `redisvFormatCommand` on a command without further arguments. A percent
sign followed by another character is a conversion: what hiredis reads for the
argument nobody passed is not defined, and it refuses an invalid one. Both are
`none`. The second argument is the word begun. -/
def formatWords : Bytes → Option Bytes → Option (List Bytes)
  | [], word => some word.toList
  | [byte], word => if byte = 32 then some word.toList else some [word.getD [] ++ [byte]]
  | byte :: next :: rest, word =>
      if byte = 37 then
        if next = 37 then formatWords rest (some (word.getD [] ++ [37])) else none
      else if byte = 32 then (formatWords (next :: rest) none).map (word.toList ++ ·)
      else formatWords (next :: rest) (some (word.getD [] ++ [byte]))

def arguments (key : Bytes) : Option (List Bytes) := formatWords (cStr key) none

def tokenPrefix : Bytes := [101, 110, 103, 105, 110, 101, 58, 58, 116, 111, 107, 101, 110, 58, 58]

def tokenKey (account : Bytes) : Bytes := tokenPrefix ++ account

/-- A stored `Proto::TokenInfo`, with its number among all that were stored and
the account it was stored for. The token is a UUID read from a C string. -/
structure Issue where
  id : Nat
  account : Bytes
  token : Bytes
  playerSn : UInt64
  clean : 0 ∉ token
  deriving DecidableEq

abbrev Store := Table Bytes Issue

/-- `Setex`. A command with another number of words is an error of redis, and
nothing is stored. -/
def setex (store : Store) (key : Bytes) (issue : Issue) : Option Store :=
  match arguments key with
  | some [word] => some (store.insert word issue)
  | _ => none

def getString (store : Store) (key : Bytes) : Option (Option Issue) :=
  (arguments key).map fun
    | [word] => store[word]?
    | _ => none

/-- DEL deletes every key it is given. -/
def delete (store : Store) (key : Bytes) : Option Store :=
  (arguments key).map fun words => words.foldl (fun left word => left.erase word) store

def handleLoginTokenToRedis (store : Store) (issue : Issue) : Option Store :=
  setex store (tokenKey issue.account) issue

/-- `GameTokenToRedisRs`: an account and the token handed over, if there was one. -/
structure Reply where
  account : Bytes
  issue : Option Issue
  deriving DecidableEq

/-- The empty token of a `TokenInfo` that was never parsed. -/
def tokenOf (reply : Reply) : Bytes := (reply.issue.map (·.token)).getD []

def playerSnOf (reply : Reply) : UInt64 := (reply.issue.map (·.playerSn)).getD 0

def handleGameTokenToRedis (store : Store) (account : Bytes) : Option (Reply × Store) :=
  match getString store (tokenKey account), delete store (tokenKey account) with
  | some held, some left => some (⟨cStr account, held⟩, left)
  | _, _ => none

theorem token_of_clean (reply : Reply) : 0 ∉ tokenOf reply := by
  unfold tokenOf
  cases reply.issue with
  | none => simp
  | some issue => exact issue.clean

theorem erase_all_kept (words : List Bytes) (store : Store) (key : Bytes) (issue : Issue)
    (held : (words.foldl (fun left word => left.erase word) store)[key]? = some issue) :
    store[key]? = some issue ∧ key ∉ words := by
  induction words generalizing store with
  | nil => exact ⟨held, List.not_mem_nil⟩
  | cons word rest ih =>
      obtain ⟨kept, absent⟩ := ih (store.erase word) held
      rw [get_erase] at kept
      split at kept
      · cases kept
      · rename_i differs
        exact ⟨kept, by simp [differs, absent]⟩

/-- Redis hands a token over once: what it answers with was stored, and nothing
is stored under that key afterwards. -/
theorem handed_over (store left : Store) (account : Bytes) (reply : Reply)
    (done : handleGameTokenToRedis store account = some (reply, left)) :
    reply.account = cStr account ∧
      (∀ (key : Bytes) (issue : Issue), left[key]? = some issue → store[key]? = some issue) ∧
      (reply.issue = none ∨ ∃ (key : Bytes) (issue : Issue), reply.issue = some issue ∧
        store[key]? = some issue ∧ left[key]? = none) := by
  unfold handleGameTokenToRedis getString delete at done
  cases split : arguments (tokenKey account) with
  | none =>
      rw [split] at done
      cases done
  | some words =>
      simp only [*, Option.map_some] at done
      cases done
      refine ⟨rfl, fun key issue held => (erase_all_kept words store key issue held).1, ?_⟩
      dsimp only
      split
      · rename_i word
        cases held : store[word]? with
        | none => exact Or.inl rfl
        | some issue =>
            refine Or.inr ⟨word, issue, rfl, held, ?_⟩
            simp
      · exact Or.inl rfl

/-- A plain account names its own key. -/
example : arguments (tokenKey [97, 98]) = some [tokenPrefix ++ [97, 98]] := by decide

end GameBook.RedisGame
