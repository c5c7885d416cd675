import Rsp.Foundation.Bytes

/-! The wire vocabulary shared by every server: raw buffers and message types. -/

set_option autoImplicit false

namespace Rsp.Message

open Foundation

/-- A buffer of `char`, kept as the bytes it holds: no operation of the servers
depends on whether the platform's `char` is signed. -/
abbrev RawBuffer := List Byte

/-- The protobuf enum is open: the cast of a wire integer yields any 32-bit value. -/
structure MessageType where
  value : BitVec 32
  deriving DecidableEq, Repr

namespace MessageType

def kPing : MessageType := ⟨0⟩
def kPong : MessageType := ⟨1⟩
def kReqLogin : MessageType := ⟨2⟩
def kResLogin : MessageType := ⟨3⟩
def kReqLogout : MessageType := ⟨4⟩
def kResLogout : MessageType := ⟨5⟩
def kReqCreateRoom : MessageType := ⟨6⟩
def kResCreateRoom : MessageType := ⟨7⟩
def kReqJoinRoom : MessageType := ⟨8⟩
def kResJoinRoom : MessageType := ⟨9⟩
def kFwdRoom : MessageType := ⟨10⟩
def kFwdClient : MessageType := ⟨12⟩
def kNtfLeaveRoom : MessageType := ⟨23⟩
def kReqLeaveRoom : MessageType := ⟨24⟩
def kResLeaveRoom : MessageType := ⟨25⟩
def kUser2RoomReqCreateRoom : MessageType := ⟨14⟩
def kUser2RoomResCreateRoom : MessageType := ⟨15⟩
def kUser2RoomReqJoinRoom : MessageType := ⟨16⟩
def kUser2RoomResJoinRoom : MessageType := ⟨17⟩
def kUser2RoomFwdRoom : MessageType := ⟨18⟩
def kUser2RoomFwdClient : MessageType := ⟨20⟩
def kUser2RoomNtfLeaveRoom : MessageType := ⟨22⟩
def kUser2RoomReqLeaveRoom : MessageType := ⟨26⟩
def kUser2RoomResLeaveRoom : MessageType := ⟨27⟩
def kUser2RoomCancelRequest : MessageType := ⟨28⟩

end MessageType

end Rsp.Message
