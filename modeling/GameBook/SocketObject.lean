import Mathlib.Logic.Basic

/-!
Socket keys and tag keys of socket_object.cpp. A tag key is the map from tag
types to values; `addTag` writes one half of the value and clears the other.
-/

namespace GameBook.SocketObject

/-- `std::string`: any bytes, NUL included. -/
abbrev Str := List UInt8

inductive NetworkType where
  | none
  | tcpListen
  | tcpConnector
  | httpListen
  | httpConnector
  deriving DecidableEq, Repr

def isTcp (netType : NetworkType) : Bool := netType = .tcpConnector ∨ netType = .tcpListen

structure SocketKey where
  socket : Int
  netType : NetworkType
  deriving DecidableEq, Repr

inductive TagType where
  | none
  | account
  | app
  | entity
  | toWorld
  | player
  deriving DecidableEq, Repr

structure TagValue where
  keyStr : Str
  keyInt64 : UInt64
  deriving DecidableEq, Repr

abbrev TagKey := TagType → Option TagValue

def clear : TagKey := fun _ => none

def addTagStr (tags : TagKey) (tagType : TagType) (value : Str) : TagKey :=
  fun key => if key = tagType then some ⟨value, 0⟩ else tags key

def addTagInt (tags : TagKey) (tagType : TagType) (value : UInt64) : TagKey :=
  fun key => if key = tagType then some ⟨[], value⟩ else tags key

/-- `AddTag(TagType, TagValue)`: the integer half wins when it is not zero. -/
def addTag (tags : TagKey) (tagType : TagType) (value : TagValue) : TagKey :=
  if value.keyInt64 ≠ 0 then addTagInt tags tagType value.keyInt64
  else addTagStr tags tagType value.keyStr

/-- `TagKey::CopyFrom`: every tag of the other key is added to this one. -/
def copyFrom (tags other : TagKey) : TagKey :=
  fun key => match other key with
    | some value => addTag tags key value key
    | none => tags key

structure NetIdentify where
  socketKey : SocketKey
  tagKey : TagKey

/-- The tag keys a connection can have. `ConnectObj::Awake` sets none or the
App tag of a connector; `MI_NetworkListenKey` copies the Account tag of a
player or the App tag of a registered application. -/
inductive ConnectTags : TagKey → Prop where
  | accepted : ConnectTags clear
  | connector (value : TagValue) : ConnectTags (addTag clear .app value)
  | http (value : TagValue) : ConnectTags (addTag clear .account value)
  | listenAccount {tags : TagKey} (account : Str) :
      ConnectTags tags → ConnectTags (copyFrom tags (addTagStr clear .account account))
  | listenApp {tags : TagKey} (appKey : UInt64) :
      ConnectTags tags → ConnectTags (copyFrom tags (addTagInt clear .app appKey))

theorem add_tag_other (tags : TagKey) (tagType key : TagType) (value : TagValue)
    (different : key ≠ tagType) : addTag tags tagType value key = tags key := by
  unfold addTag
  split
  · exact if_neg different
  · exact if_neg different

theorem copy_from_absent (tags other : TagKey) (key : TagType) (absent : other key = none) :
    copyFrom tags other key = tags key := by
  simp [copyFrom, absent]

/-- A connection never carries an Entity or Player tag of its own. -/
theorem connect_tags_absent (tags : TagKey) (reached : ConnectTags tags) (key : TagType)
    (routing : key = .entity ∨ key = .player) : tags key = none := by
  have notAccount : key ≠ .account := by rcases routing with rfl | rfl <;> decide
  have notApp : key ≠ .app := by rcases routing with rfl | rfl <;> decide
  induction reached with
  | accepted => rfl
  | connector value => exact add_tag_other clear .app key value notApp
  | http value => exact add_tag_other clear .account key value notAccount
  | listenAccount account _ ih => rw [copy_from_absent _ _ _ (if_neg notAccount), ih]
  | listenApp appKey _ ih => rw [copy_from_absent _ _ _ (if_neg notApp), ih]

end GameBook.SocketObject
