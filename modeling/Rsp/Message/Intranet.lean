import Rsp.Message.Types

/-! The messages exchanged between the User and Room servers, by protobuf field. -/

set_option autoImplicit false

namespace Rsp.Message

abbrev Uid := String
abbrev RoomId := Nat
abbrev RoutingId := String

/-- Open like `MessageType`: a value outside the enumeration is kept as it was parsed. -/
structure SenderType where
  value : BitVec 32
  deriving DecidableEq, Repr

namespace SenderType

def kContent : SenderType := ⟨0⟩
def kUser : SenderType := ⟨1⟩

end SenderType

structure LeaveRoomReason where
  value : BitVec 32
  deriving DecidableEq, Repr

namespace LeaveRoomReason

def kInternal : LeaveRoomReason := ⟨0⟩
def kUserRequested : LeaveRoomReason := ⟨1⟩
def kKickedOut : LeaveRoomReason := ⟨2⟩

end LeaveRoomReason

inductive KickoutReason where
  | kAdmin
  | kRoomOwner
  | kRoomVoting
  | kOther
  deriving DecidableEq, Repr

/-- `static_cast<int>` of the enumerator. -/
def KickoutReason.value : KickoutReason → Nat
  | .kAdmin => 0
  | .kRoomOwner => 1
  | .kRoomVoting => 2
  | .kOther => 3

structure User2RoomReqCreateRoom where
  requestId : Nat := 0
  uid : Uid := ""
  deriving DecidableEq, Repr

structure User2RoomResCreateRoom where
  requestId : Nat := 0
  uid : Uid := ""
  success : Bool := false
  roomId : RoomId := 0
  deriving DecidableEq, Repr

structure User2RoomReqJoinRoom where
  requestId : Nat := 0
  uid : Uid := ""
  roomId : RoomId := 0
  deriving DecidableEq, Repr

structure User2RoomResJoinRoom where
  requestId : Nat := 0
  uid : Uid := ""
  roomId : RoomId := 0
  success : Bool := false
  deriving DecidableEq, Repr

structure User2RoomFwdRoom where
  roomId : RoomId := 0
  uid : Uid := ""
  message : String := ""
  deriving DecidableEq, Repr

structure User2RoomReqLeaveRoom where
  requestId : Nat := 0
  roomId : RoomId := 0
  uid : Uid := ""
  deriving DecidableEq, Repr

structure User2RoomResLeaveRoom where
  requestId : Nat := 0
  uid : Uid := ""
  success : Bool := false
  deriving DecidableEq, Repr

structure User2RoomNtfLeaveRoom where
  uid : Uid := ""
  reason : LeaveRoomReason := .kInternal
  kickoutReason : Option Nat := none
  deriving DecidableEq, Repr

structure User2RoomFwdClient where
  senderType : SenderType := .kContent
  senderUid : Uid := ""
  uid : Uid := ""
  message : String := ""
  deriving DecidableEq, Repr

structure User2RoomCancelRequest where
  requestId : Nat := 0
  deriving DecidableEq, Repr

inductive ToRoom where
  | ping
  | reqCreateRoom (message : User2RoomReqCreateRoom)
  | reqJoinRoom (message : User2RoomReqJoinRoom)
  | reqLeaveRoom (message : User2RoomReqLeaveRoom)
  | fwdRoom (message : User2RoomFwdRoom)
  | cancelRequest (message : User2RoomCancelRequest)
  deriving DecidableEq, Repr

inductive ToUser where
  | pong
  | resCreateRoom (message : User2RoomResCreateRoom)
  | resJoinRoom (message : User2RoomResJoinRoom)
  | resLeaveRoom (message : User2RoomResLeaveRoom)
  | ntfLeaveRoom (message : User2RoomNtfLeaveRoom)
  | fwdClient (message : User2RoomFwdClient)
  deriving DecidableEq, Repr

def ToRoom.requestId : ToRoom → Option Nat
  | .ping => none
  | .reqCreateRoom message => some message.requestId
  | .reqJoinRoom message => some message.requestId
  | .reqLeaveRoom message => some message.requestId
  | .fwdRoom _ => none
  | .cancelRequest message => some message.requestId

def ToUser.requestId : ToUser → Option Nat
  | .pong => none
  | .resCreateRoom message => some message.requestId
  | .resJoinRoom message => some message.requestId
  | .resLeaveRoom message => some message.requestId
  | .ntfLeaveRoom _ => none
  | .fwdClient _ => none

def ToUser.forward : ToUser → Option User2RoomFwdClient
  | .fwdClient message => some message
  | _ => none

end Rsp.Message
