import Mathlib.Data.List.Basic

/-!
`Proto::MsgId` of proto_id.proto with its numbers, and the descriptor lookup
`FindValueByNumber`. A packet head carries the number in 16 bits.
-/

namespace GameBook.ProtoId

inductive MsgId where
  | none
  | miNetworkConnect
  | miNetworkConnected
  | miNetworkListen
  | miNetworkListenKey
  | miNetworkDisconnect
  | miNetworkDisconnectEx
  | miNetworkRequestDisconnect
  | miRemoveComponent
  | miCreateComponent
  | miCreateSystem
  | miPing
  | miAppRegister
  | miAppInfoSync
  | miAppInfoListSync
  | c2lAccountCheck
  | c2lAccountCheckRs
  | miAccountQueryOnlineToRedis
  | miAccountQueryOnlineToRedisRs
  | l2dbQueryPlayerList
  | l2dbQueryPlayerListRs
  | l2cPlayerList
  | c2lCreatePlayer
  | c2lCreatePlayerRs
  | l2dbCreatePlayer
  | l2dbCreatePlayerRs
  | c2lSelectPlayer
  | c2lSelectPlayerRs
  | miLoginTokenToRedis
  | miLoginTokenToRedisRs
  | l2cGameToken
  | c2gLoginByToken
  | c2gLoginByTokenRs
  | miGameTokenToRedis
  | miGameTokenToRedisRs
  | g2dbQueryPlayer
  | g2dbQueryPlayerRs
  | g2cSyncPlayer
  | g2mRequestWorld
  | g2sCreateWorld
  | miTeleport
  | miTeleportAfter
  | g2sSyncPlayer
  | g2sRequestSyncPlayer
  | g2dbSavePlayer
  | g2sRemovePlayer
  | c2gEnterWorld
  | g2mQueryWorld
  | g2mQueryWorldRs
  | s2cEnterWorld
  | s2gSyncPlayer
  | s2cRoleAppear
  | s2cRoleDisAppear
  | c2sMove
  | s2cMove
  | miBroadcastCreateWorld
  | miBroadcastCreateWorldProxy
  | miWorldSyncToGather
  | miWorldProxySyncToGather
  | miAccountSyncOnlineToRedis
  | miAccountDeleteOnlineToRedis
  | miPlayerSyncOnlineToRedis
  | miPlayerDeleteOnlineToRedis
  | miRobotSyncState
  | miRobotCreate
  | miHttpBegin
  | miHttpInnerResponse
  | miHttpRequestBad
  | miHttpRequestLogin
  | miHttpEnd
  | miHttpOuterRequest
  | miHttpOuterResponse
  | miCmdThread
  | miCmdApp
  | miCmdWorldProxy
  | miCmdWorld
  | miCmdCreate
  | miCmdEfficiency
  | miEfficiency
  deriving DecidableEq, Repr

def number : MsgId → Nat
  | .none => 0
  | .miNetworkConnect => 1
  | .miNetworkConnected => 2
  | .miNetworkListen => 3
  | .miNetworkListenKey => 4
  | .miNetworkDisconnect => 10
  | .miNetworkDisconnectEx => 11
  | .miNetworkRequestDisconnect => 20
  | .miRemoveComponent => 50
  | .miCreateComponent => 51
  | .miCreateSystem => 52
  | .miPing => 101
  | .miAppRegister => 102
  | .miAppInfoSync => 103
  | .miAppInfoListSync => 104
  | .c2lAccountCheck => 1000
  | .c2lAccountCheckRs => 1001
  | .miAccountQueryOnlineToRedis => 1002
  | .miAccountQueryOnlineToRedisRs => 1003
  | .l2dbQueryPlayerList => 1010
  | .l2dbQueryPlayerListRs => 1011
  | .l2cPlayerList => 1012
  | .c2lCreatePlayer => 1014
  | .c2lCreatePlayerRs => 1015
  | .l2dbCreatePlayer => 1016
  | .l2dbCreatePlayerRs => 1017
  | .c2lSelectPlayer => 1018
  | .c2lSelectPlayerRs => 1019
  | .miLoginTokenToRedis => 1022
  | .miLoginTokenToRedisRs => 1023
  | .l2cGameToken => 1024
  | .c2gLoginByToken => 1100
  | .c2gLoginByTokenRs => 1101
  | .miGameTokenToRedis => 1102
  | .miGameTokenToRedisRs => 1103
  | .g2dbQueryPlayer => 1104
  | .g2dbQueryPlayerRs => 1105
  | .g2cSyncPlayer => 1106
  | .g2mRequestWorld => 1108
  | .g2sCreateWorld => 1109
  | .miTeleport => 1110
  | .miTeleportAfter => 1111
  | .g2sSyncPlayer => 1112
  | .g2sRequestSyncPlayer => 1113
  | .g2dbSavePlayer => 1114
  | .g2sRemovePlayer => 1115
  | .c2gEnterWorld => 1116
  | .g2mQueryWorld => 1117
  | .g2mQueryWorldRs => 1118
  | .s2cEnterWorld => 1501
  | .s2gSyncPlayer => 1502
  | .s2cRoleAppear => 1503
  | .s2cRoleDisAppear => 1504
  | .c2sMove => 1505
  | .s2cMove => 1506
  | .miBroadcastCreateWorld => 2001
  | .miBroadcastCreateWorldProxy => 2002
  | .miWorldSyncToGather => 3001
  | .miWorldProxySyncToGather => 3002
  | .miAccountSyncOnlineToRedis => 4001
  | .miAccountDeleteOnlineToRedis => 4002
  | .miPlayerSyncOnlineToRedis => 4003
  | .miPlayerDeleteOnlineToRedis => 4004
  | .miRobotSyncState => 5001
  | .miRobotCreate => 5002
  | .miHttpBegin => 10000
  | .miHttpInnerResponse => 10001
  | .miHttpRequestBad => 10002
  | .miHttpRequestLogin => 10003
  | .miHttpEnd => 10499
  | .miHttpOuterRequest => 10500
  | .miHttpOuterResponse => 10501
  | .miCmdThread => 20001
  | .miCmdApp => 20002
  | .miCmdWorldProxy => 20003
  | .miCmdWorld => 20004
  | .miCmdCreate => 20005
  | .miCmdEfficiency => 20006
  | .miEfficiency => 20007

def findValueByNumber : Nat → Option MsgId
  | 0 => some .none
  | 1 => some .miNetworkConnect
  | 2 => some .miNetworkConnected
  | 3 => some .miNetworkListen
  | 4 => some .miNetworkListenKey
  | 10 => some .miNetworkDisconnect
  | 11 => some .miNetworkDisconnectEx
  | 20 => some .miNetworkRequestDisconnect
  | 50 => some .miRemoveComponent
  | 51 => some .miCreateComponent
  | 52 => some .miCreateSystem
  | 101 => some .miPing
  | 102 => some .miAppRegister
  | 103 => some .miAppInfoSync
  | 104 => some .miAppInfoListSync
  | 1000 => some .c2lAccountCheck
  | 1001 => some .c2lAccountCheckRs
  | 1002 => some .miAccountQueryOnlineToRedis
  | 1003 => some .miAccountQueryOnlineToRedisRs
  | 1010 => some .l2dbQueryPlayerList
  | 1011 => some .l2dbQueryPlayerListRs
  | 1012 => some .l2cPlayerList
  | 1014 => some .c2lCreatePlayer
  | 1015 => some .c2lCreatePlayerRs
  | 1016 => some .l2dbCreatePlayer
  | 1017 => some .l2dbCreatePlayerRs
  | 1018 => some .c2lSelectPlayer
  | 1019 => some .c2lSelectPlayerRs
  | 1022 => some .miLoginTokenToRedis
  | 1023 => some .miLoginTokenToRedisRs
  | 1024 => some .l2cGameToken
  | 1100 => some .c2gLoginByToken
  | 1101 => some .c2gLoginByTokenRs
  | 1102 => some .miGameTokenToRedis
  | 1103 => some .miGameTokenToRedisRs
  | 1104 => some .g2dbQueryPlayer
  | 1105 => some .g2dbQueryPlayerRs
  | 1106 => some .g2cSyncPlayer
  | 1108 => some .g2mRequestWorld
  | 1109 => some .g2sCreateWorld
  | 1110 => some .miTeleport
  | 1111 => some .miTeleportAfter
  | 1112 => some .g2sSyncPlayer
  | 1113 => some .g2sRequestSyncPlayer
  | 1114 => some .g2dbSavePlayer
  | 1115 => some .g2sRemovePlayer
  | 1116 => some .c2gEnterWorld
  | 1117 => some .g2mQueryWorld
  | 1118 => some .g2mQueryWorldRs
  | 1501 => some .s2cEnterWorld
  | 1502 => some .s2gSyncPlayer
  | 1503 => some .s2cRoleAppear
  | 1504 => some .s2cRoleDisAppear
  | 1505 => some .c2sMove
  | 1506 => some .s2cMove
  | 2001 => some .miBroadcastCreateWorld
  | 2002 => some .miBroadcastCreateWorldProxy
  | 3001 => some .miWorldSyncToGather
  | 3002 => some .miWorldProxySyncToGather
  | 4001 => some .miAccountSyncOnlineToRedis
  | 4002 => some .miAccountDeleteOnlineToRedis
  | 4003 => some .miPlayerSyncOnlineToRedis
  | 4004 => some .miPlayerDeleteOnlineToRedis
  | 5001 => some .miRobotSyncState
  | 5002 => some .miRobotCreate
  | 10000 => some .miHttpBegin
  | 10001 => some .miHttpInnerResponse
  | 10002 => some .miHttpRequestBad
  | 10003 => some .miHttpRequestLogin
  | 10499 => some .miHttpEnd
  | 10500 => some .miHttpOuterRequest
  | 10501 => some .miHttpOuterResponse
  | 20001 => some .miCmdThread
  | 20002 => some .miCmdApp
  | 20003 => some .miCmdWorldProxy
  | 20004 => some .miCmdWorld
  | 20005 => some .miCmdCreate
  | 20006 => some .miCmdEfficiency
  | 20007 => some .miEfficiency
  | _ => Option.none

/-- `NetworkHelp::IsHttpMsg`: the ids that are sent without a head. -/
def isHttpMsg (msgId : MsgId) : Bool :=
  msgId = .miHttpOuterRequest ∨ msgId = .miHttpOuterResponse ∨ msgId = .miHttpInnerResponse

theorem find_value_number (msgId : MsgId) : findValueByNumber (number msgId) = some msgId := by
  cases msgId <;> rfl

theorem number_lt (msgId : MsgId) : number msgId < 65536 := by
  cases msgId <;> decide

end GameBook.ProtoId
