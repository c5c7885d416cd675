import Rsp.Message.Intranet

/-! The messages exchanged between a client and the User server. -/

set_option autoImplicit false

namespace Rsp.Message

structure ReqLogin where
  requestId : Nat := 0
  uid : Uid := ""
  deriving DecidableEq, Repr

structure ResLogin where
  uid : Uid := ""
  success : Bool := false
  isAttached : Bool := false
  roomId : RoomId := 0
  deriving DecidableEq, Repr

structure ReqLogout where
  requestId : Nat := 0
  deriving DecidableEq, Repr

structure ResLogout where
  uid : Uid := ""
  deriving DecidableEq, Repr

structure ReqCreateRoom where
  requestId : Nat := 0
  deriving DecidableEq, Repr

structure ResCreateRoom where
  requestId : Nat := 0
  success : Bool := false
  roomId : RoomId := 0
  deriving DecidableEq, Repr

structure ReqJoinRoom where
  requestId : Nat := 0
  roomId : RoomId := 0
  deriving DecidableEq, Repr

structure ResJoinRoom where
  requestId : Nat := 0
  success : Bool := false
  roomId : RoomId := 0
  deriving DecidableEq, Repr

structure FwdRoom where
  message : String := ""
  deriving DecidableEq, Repr

structure ReqLeaveRoom where
  requestId : Nat := 0
  deriving DecidableEq, Repr

structure ResLeaveRoom where
  requestId : Nat := 0
  success : Bool := false
  deriving DecidableEq, Repr

structure FwdClient where
  senderType : SenderType := .kContent
  senderUid : Uid := ""
  uid : Uid := ""
  message : String := ""
  deriving DecidableEq, Repr

structure NtfLeaveRoom where
  uid : Uid := ""
  reason : LeaveRoomReason := .kInternal
  kickoutReason : Option Nat := none
  deriving DecidableEq, Repr

inductive FromClient where
  | ping
  | pong
  | reqLogin (message : ReqLogin)
  | reqLogout (message : ReqLogout)
  | reqCreateRoom (message : ReqCreateRoom)
  | reqJoinRoom (message : ReqJoinRoom)
  | fwdRoom (message : FwdRoom)
  | reqLeaveRoom (message : ReqLeaveRoom)
  deriving DecidableEq, Repr

inductive ToClient where
  | pong
  | resLogin (message : ResLogin)
  | resLogout (message : ResLogout)
  | resCreateRoom (message : ResCreateRoom)
  | resJoinRoom (message : ResJoinRoom)
  | resLeaveRoom (message : ResLeaveRoom)
  | fwdClient (message : FwdClient)
  | ntfLeaveRoom (message : NtfLeaveRoom)
  deriving DecidableEq, Repr

end Rsp.Message
