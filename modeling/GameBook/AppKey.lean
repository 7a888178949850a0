import Mathlib.Logic.Basic

/-!
Application types of app_type.h, application keys and the application id inside
a serial number. A type is a set of bits: `APP_ALLINONE` carries every role.
-/

namespace GameBook.AppKey

inductive AppType where
  | none
  | dbMgr
  | gameMgr
  | spaceMgr
  | login
  | game
  | space
  | robot
  | appMgr
  | allInOne
  deriving DecidableEq, Repr

def bits : AppType → UInt64
  | .none => 0
  | .dbMgr => 1
  | .gameMgr => 2
  | .spaceMgr => 4
  | .login => 8
  | .game => 16
  | .space => 32
  | .robot => 64
  | .appMgr => 6
  | .allInOne => 63

def getAppKey (appType : AppType) (appId : UInt64) : UInt64 := (bits appType <<< 32) + appId

def getTypeFromAppKey (appKey : UInt64) : UInt64 := appKey >>> 32

def getIdFromAppKey (appKey : UInt64) : UInt64 := appKey &&& 0xFFFF

/-- `Global::GetAppIdFromSN`: bits 16 to 25 of a serial number. -/
def getAppIdFromSN (sn : UInt64) : UInt64 := ((sn <<< 38) >>> 38) >>> 16

def invalidId : UInt64 := 0xFFFFFFFFFFFFFFFF

end GameBook.AppKey
