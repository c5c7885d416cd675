import Rsp.Foundation.Protobuf
import Rsp.Message.Client
import Rsp.Message.Wire

/-! `ByteSizeLong` of the messages, and lengths of uids and texts that keep them in bounds.

A text that a client sends is decorated with the uid of its sender and addressed to the uid
of a member on its way back, so what has to fit is two uids and the text together.
-/

set_option autoImplicit false

namespace Rsp.Message

open Foundation Serializer

def FromClient.byteSize : FromClient → Nat
  | .ping | .pong => 0
  | .reqLogin message => uintField 64 message.requestId + stringField message.uid
  | .reqLogout message => uintField 64 message.requestId
  | .reqCreateRoom message => uintField 64 message.requestId
  | .reqJoinRoom message => uintField 64 message.requestId + uintField 32 message.roomId
  | .fwdRoom message => stringField message.message
  | .reqLeaveRoom message => uintField 64 message.requestId

def ToClient.byteSize : ToClient → Nat
  | .pong => 0
  | .resLogin message =>
      stringField message.uid + boolField message.success + boolField message.isAttached + uintField 32 message.roomId
  | .resLogout message => stringField message.uid
  | .resCreateRoom message =>
      uintField 64 message.requestId + boolField message.success + uintField 32 message.roomId
  | .resJoinRoom message =>
      uintField 64 message.requestId + boolField message.success + uintField 32 message.roomId
  | .resLeaveRoom message => uintField 64 message.requestId + boolField message.success
  | .fwdClient message =>
      enumField message.senderType.value + stringField message.senderUid + stringField message.uid +
        stringField message.message
  | .ntfLeaveRoom message =>
      stringField message.uid + enumField message.reason.value + optionalField 32 message.kickoutReason

def ToRoom.byteSize : ToRoom → Nat
  | .ping => 0
  | .reqCreateRoom message => uintField 64 message.requestId + stringField message.uid
  | .reqJoinRoom message =>
      uintField 64 message.requestId + stringField message.uid + uintField 32 message.roomId
  | .reqLeaveRoom message =>
      uintField 64 message.requestId + uintField 32 message.roomId + stringField message.uid
  | .fwdRoom message => uintField 32 message.roomId + stringField message.uid + stringField message.message
  | .cancelRequest message => uintField 64 message.requestId

def ToUser.byteSize : ToUser → Nat
  | .pong => 0
  | .resCreateRoom message =>
      uintField 64 message.requestId + stringField message.uid + boolField message.success +
        uintField 32 message.roomId
  | .resJoinRoom message =>
      uintField 64 message.requestId + stringField message.uid + uintField 32 message.roomId +
        boolField message.success
  | .resLeaveRoom message =>
      uintField 64 message.requestId + stringField message.uid + boolField message.success
  | .ntfLeaveRoom message =>
      stringField message.uid + enumField message.reason.value + optionalField 32 message.kickoutReason
  | .fwdClient message =>
      enumField message.senderType.value + stringField message.senderUid + stringField message.uid +
        stringField message.message

/-- `serialize` of a message with this `ByteSizeLong` does not throw. -/
def Serializes (size : Nat) : Prop :=
  ∀ (type : MessageType) (payload : RawBuffer), payload.length = size → ∃ frame, serialize type payload = .ok frame

theorem serializes_of_le {size : Nat} (fits : size ≤ kMaxPayloadSize) : Serializes size := by
  rintro type payload rfl
  exact ⟨_, serialize_ok type payload fits⟩

/-! ## Limits -/

/-- Bounds for the bytes of a uid and of a text such that every message made of them fits. -/
structure Limits where
  uid : Nat
  text : Nat
  fits : 2 * uid + text + 22 ≤ kMaxPayloadSize

namespace Limits

variable (limits : Limits)

def Uid (uid : Message.Uid) : Prop := uid.utf8ByteSize ≤ limits.uid

def Text (text : String) : Prop := text.utf8ByteSize ≤ limits.text

/-- A text of the contents: the text of a client after its sender, or a fixed text about a uid. -/
def Notice (text : String) : Prop := text.utf8ByteSize ≤ limits.uid + limits.text + 14

def FromClient : FromClient → Prop
  | .reqLogin message => limits.Uid message.uid
  | .fwdRoom message => limits.Text message.message
  | _ => True

def ToRoom : ToRoom → Prop
  | .ping | .cancelRequest _ => True
  | .reqCreateRoom message => limits.Uid message.uid
  | .reqJoinRoom message => limits.Uid message.uid
  | .reqLeaveRoom message => limits.Uid message.uid
  | .fwdRoom message => limits.Uid message.uid ∧ limits.Text message.message

def ToUser : ToUser → Prop
  | .pong => True
  | .resCreateRoom message => limits.Uid message.uid
  | .resJoinRoom message => limits.Uid message.uid
  | .resLeaveRoom message => limits.Uid message.uid
  | .ntfLeaveRoom message => limits.Uid message.uid
  | .fwdClient message =>
      message.senderType = .kContent ∧ message.senderUid = "" ∧ limits.Uid message.uid ∧ limits.Notice message.message

variable {limits}

theorem uid_field {uid : Message.Uid} (short : limits.Uid uid) : stringField uid ≤ limits.uid + 4 := by
  have fits := limits.fits
  unfold Uid kMaxPayloadSize at *
  have bound := @stringField_le uid (by omega)
  omega

theorem text_field {text : String} (short : limits.Text text) : stringField text ≤ limits.text + 4 := by
  have fits := limits.fits
  unfold Text kMaxPayloadSize at *
  have bound := @stringField_le text (by omega)
  omega

theorem notice_field {text : String} (short : limits.Notice text) :
    stringField text ≤ limits.uid + limits.text + 18 := by
  have fits := limits.fits
  unfold Notice kMaxPayloadSize at *
  have bound := @stringField_le text (by omega)
  omega

theorem uint32_field (value : Nat) : uintField 32 value ≤ 6 := uintField_le (by decide) value

theorem uint64_field (value : Nat) : uintField 64 value ≤ 11 := uintField_le (by decide) value

theorem toRoom_fits {message : Message.ToRoom} (within : limits.ToRoom message) :
    message.byteSize ≤ kMaxPayloadSize := by
  have fits := limits.fits
  have whole : kMaxPayloadSize = 65536 := rfl
  cases message with
  | ping => exact Nat.zero_le _
  | cancelRequest message =>
    have id := uint64_field message.requestId
    simp only [ToRoom.byteSize]
    omega
  | reqCreateRoom message =>
    have id := uint64_field message.requestId
    have uid := uid_field within
    simp only [ToRoom.byteSize]
    omega
  | reqJoinRoom message | reqLeaveRoom message =>
    have id := uint64_field message.requestId
    have room := uint32_field message.roomId
    have uid := uid_field within
    simp only [ToRoom.byteSize]
    omega
  | fwdRoom message =>
    have room := uint32_field message.roomId
    have uid := uid_field within.1
    have text := text_field within.2
    simp only [ToRoom.byteSize]
    omega

theorem toUser_fits {message : Message.ToUser} (within : limits.ToUser message) :
    message.byteSize ≤ kMaxPayloadSize := by
  have fits := limits.fits
  have whole : kMaxPayloadSize = 65536 := rfl
  cases message with
  | pong => exact Nat.zero_le _
  | resCreateRoom message | resJoinRoom message =>
    have id := uint64_field message.requestId
    have uid := uid_field within
    have success := boolField_le message.success
    have room := uint32_field message.roomId
    simp only [ToUser.byteSize]
    omega
  | resLeaveRoom message =>
    have id := uint64_field message.requestId
    have uid := uid_field within
    have success := boolField_le message.success
    simp only [ToUser.byteSize]
    omega
  | ntfLeaveRoom message =>
    have uid := uid_field within
    have reason := enumField_le message.reason.value
    have kickout := optionalField_le (show 2 ^ 32 ≤ 128 ^ (4 + 1) by decide) message.kickoutReason
    simp only [ToUser.byteSize]
    omega
  | fwdClient message =>
    obtain ⟨content, sender, recipient, notice⟩ := within
    have type : enumField message.senderType.value = 0 := by rw [content]; rfl
    have nobody : stringField message.senderUid = 0 := by rw [sender]; rfl
    have uid := uid_field recipient
    have text := notice_field notice
    simp only [ToUser.byteSize]
    omega

end Limits

end Rsp.Message
