import Mathlib.Data.List.TakeWhile
import GameBook.AppKey
import GameBook.OrderedMap
import GameBook.SocketObject

/-!
`SyncComponent`: the applications a process has heard of, by application id,
and the choice of the least busy one. `configured` is `GetIPEndPoint` of the
configuration, which decides whether a new entry is kept.
-/

namespace GameBook.SyncComponent

open Std OrderedMap SocketObject AppKey

/-- `Proto::AppInfoSync`; the type is a set of `APP_TYPE` bits. -/
structure AppInfoSync where
  appId : Int
  appType : UInt64
  online : Int32

structure CommonConfig where
  ip : Str
  port : Int32

structure AppInfo where
  appType : UInt64
  appId : Int
  ip : Str
  port : Int32
  online : Int32
  socket : Int
  deriving DecidableEq, Repr, Inhabited

abbrev Apps := Table Int AppInfo

def parse (configured : UInt64 → Int → Option CommonConfig) (apps : Apps) (proto : AppInfoSync)
    (socket : Int) : Apps :=
  match apps[proto.appId]? with
  | none =>
      match configured proto.appType proto.appId with
      | none => apps
      | some config =>
          apps.insert proto.appId
            ⟨proto.appType, proto.appId, config.ip, config.port, proto.online, socket⟩
  | some info => apps.insert proto.appId { info with online := proto.online, socket := socket }

def dropSocket (apps : Apps) (socket : Int) : Apps :=
  match findIf (fun info => info.socket == socket) apps with
  | none => apps
  | some (appId, _) => apps.erase appId

def hasType (appType : UInt64) (info : AppInfo) : Bool := info.appType &&& appType ≠ 0

/-- The loop of `GetOneApp` from the first application that matches. It stops
early at a minimum of zero. -/
def scanMin (appType : UInt64) : List (Int × AppInfo) → Int32 → Int → Int
  | [], _, appId => appId
  | (id, info) :: rest, min, appId =>
      if min = 0 then appId
      else if !hasType appType info then scanMin appType rest min appId
      else if info.online < min then scanMin appType rest info.online id
      else scanMin appType rest min appId

/-- The application that `GetOneApp` decides on. An empty map and one without a
match differ in the text of the log only. -/
def leastBusy (appType : UInt64) (apps : Apps) : Option Int :=
  match apps.toList.dropWhile fun entry => !hasType appType entry.2 with
  | [] => none
  | (first, info) :: rest => some (scanMin appType ((first, info) :: rest) info.online first)

/-- Counted as one more online until the next sync. -/
def counted (info : AppInfo) : AppInfo := { info with online := info.online + 1 }

@[simp] theorem counted_app_id (info : AppInfo) : (counted info).appId = info.appId := rfl

@[simp] theorem counted_online (info : AppInfo) : (counted info).online = info.online + 1 := rfl

def getOneApp (appType : UInt64) (apps : Apps) : Option (AppInfo × Apps) :=
  (leastBusy appType apps).map fun appId =>
    let info := counted (apps[appId]?.getD default)
    (info, apps.insert appId info)

/-! ### The application chosen -/

theorem scan_min_listed (appType : UInt64) (entries : List (Int × AppInfo)) (min : Int32) (appId : Int) :
    scanMin appType entries min appId = appId ∨
      ∃ info, (scanMin appType entries min appId, info) ∈ entries ∧ hasType appType info = true := by
  induction entries generalizing min appId with
  | nil => exact Or.inl rfl
  | cons first rest ih =>
      -- an entry found further on is in the list as well
      have later : ∀ (bound : Int32) (id : Int),
          scanMin appType rest bound id = id ∨ ∃ info,
            (scanMin appType rest bound id, info) ∈ first :: rest ∧ hasType appType info = true := by
        intro bound id
        rcases ih bound id with start | ⟨info, member, typed⟩
        · exact Or.inl start
        · exact Or.inr ⟨info, List.mem_cons_of_mem _ member, typed⟩
      unfold scanMin
      split
      · exact Or.inl rfl
      · split
        · exact later min appId
        · rename_i typed
          split
          · rcases later first.2.online first.1 with start | found
            · rw [start]
              exact Or.inr ⟨first.2, List.mem_cons_self, by simpa using typed⟩
            · exact Or.inr found
          · exact later min appId

theorem least_busy_held {appType : UInt64} {apps : Apps} {appId : Int}
    (found : leastBusy appType apps = some appId) :
    ∃ info, apps[appId]? = some info ∧ hasType appType info = true := by
  unfold leastBusy at found
  have tail := List.dropWhile_suffix (l := apps.toList) fun entry => !hasType appType entry.2
  have head := List.head?_dropWhile_not (fun entry => !hasType appType entry.2) apps.toList
  cases rest : apps.toList.dropWhile fun entry => !hasType appType entry.2 with
  | nil =>
      rw [rest] at found
      cases found
  | cons first others =>
      rw [rest] at found tail head
      cases found
      have held : ∀ entry ∈ first :: others, apps[entry.1]? = some entry.2 := fun entry member =>
        ExtTreeMap.mem_toList_iff_getElem?_eq_some.mp (tail.mem member)
      rcases scan_min_listed appType (first :: others) first.2.online first.1 with start | found
      · rw [start]
        exact ⟨first.2, held first List.mem_cons_self, by simpa using head⟩
      · obtain ⟨info, member, typed⟩ := found
        exact ⟨info, held _ member, typed⟩

theorem get_one_app_some {appType : UInt64} {apps after : Apps} {info : AppInfo}
    (got : getOneApp appType apps = some (info, after)) :
    ∃ appId chosen, leastBusy appType apps = some appId ∧ apps[appId]? = some chosen ∧
      hasType appType chosen = true ∧ info = counted chosen ∧
      after = apps.insert appId (counted chosen) := by
  obtain ⟨appId, found, same⟩ := Option.map_eq_some_iff.mp got
  obtain ⟨chosen, held, typed⟩ := least_busy_held found
  rw [held] at same
  cases same
  exact ⟨appId, chosen, found, held, typed, rfl, rfl⟩

end GameBook.SyncComponent
