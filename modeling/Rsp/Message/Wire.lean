import Rsp.Message.Types
import Mathlib.Data.Nat.Bitwise

/-! The frame format of `serializer`: an eight-byte length, a four-byte type and
the payload, both integers in network byte order. -/

set_option autoImplicit false

namespace Rsp.Message

open Foundation

/-! ## Wire integers -/

/-- `mset_be`: the loop counts `remaining` down from `sizeof(T)`. -/
def msetBeLoop {size : Nat} (value : BitVec (8 * size)) : Nat → RawBuffer → RawBuffer
  | 0, dest => dest
  | remaining + 1, dest =>
      msetBeLoop value remaining (dest ++ [((value >>> (remaining * 8)) &&& 0xff).setWidth 8])

def msetBe (size : Nat) (dest : RawBuffer) (value : BitVec (8 * size)) : RawBuffer :=
  msetBeLoop value size dest

/-- `mget_be`: `none` is the refusal of a read beyond the buffer. -/
def mgetBe (size : Nat) (src : RawBuffer) (offset : Nat) : Option (BitVec (8 * size)) :=
  if src.length < offset ∨ src.length - offset < size then none
  else some ((List.range size).foldl
    (fun value index => (value <<< 8) ||| (src.getD (offset + index) 0).setWidth (8 * size)) 0)

theorem shifted_byte {size : Nat} (value : BitVec (8 * size)) (remaining : Nat) :
    ((value >>> (remaining * 8)) &&& 0xff).setWidth 8 = BitVec.ofNat 8 (value.toNat / 256 ^ remaining) := by
  apply BitVec.eq_of_toNat_eq
  have power : 2 ^ (remaining * 8) = 256 ^ remaining := by rw [Nat.mul_comm, Nat.pow_mul]
  cases size with
  | zero => simp [BitVec.eq_nil value]
  | succ size =>
    have mask : (0xff : BitVec (8 * (size + 1))).toNat = 2 ^ 8 - 1 := by
      have wide : 2 ^ 8 ≤ 2 ^ (8 * (size + 1)) := Nat.pow_le_pow_right (by decide) (by omega)
      exact (BitVec.toNat_ofNat _ _).trans (Nat.mod_eq_of_lt (Nat.lt_of_lt_of_le (by decide) wide))
    simp only [BitVec.toNat_setWidth, BitVec.toNat_and, BitVec.toNat_ushiftRight, mask,
      Nat.and_two_pow_sub_one_eq_mod, Nat.shiftRight_eq_div_pow, power, BitVec.toNat_ofNat, Nat.mod_mod]

theorem msetBeLoop_eq {size : Nat} (value : BitVec (8 * size)) (remaining : Nat) (dest : RawBuffer) :
    msetBeLoop value remaining dest = dest ++ toBigEndian remaining value.toNat := by
  induction remaining generalizing dest with
  | zero => simp [msetBeLoop, toBigEndian]
  | succ remaining ih =>
    rw [msetBeLoop, ih, shifted_byte, toBigEndian]
    simp

theorem msetBe_eq (size : Nat) (dest : RawBuffer) (value : BitVec (8 * size)) :
    msetBe size dest value = dest ++ toBigEndian size value.toNat :=
  msetBeLoop_eq value size dest

theorem shift_or_byte {size : Nat} (value : BitVec (8 * size)) (byte : Byte) (n : Nat)
    (room : n < size) (bound : value.toNat < 256 ^ n) :
    ((value <<< 8) ||| byte.setWidth (8 * size)).toNat = value.toNat * 256 + byte.toNat := by
  have power : (2 : Nat) ^ (8 * size) = 256 ^ size := by rw [Nat.pow_mul]
  have fits : value.toNat * 256 < 256 ^ size :=
    calc value.toNat * 256 < 256 ^ n * 256 := by omega
      _ = 256 ^ (n + 1) := (pow_succ 256 n).symm
      _ ≤ 256 ^ size := Nat.pow_le_pow_right (by decide) room
  have small : byte.toNat < 256 ^ size :=
    Nat.lt_of_lt_of_le byte.isLt (Nat.le_self_pow (by omega) 256)
  simp only [BitVec.toNat_or, BitVec.toNat_shiftLeft, BitVec.toNat_setWidth, Nat.shiftLeft_eq, power]
  rw [Nat.mod_eq_of_lt (by simpa using fits), Nat.mod_eq_of_lt small, Nat.mul_comm]
  exact (Nat.two_pow_add_eq_or_of_lt byte.isLt value.toNat).symm.trans (by ring)

theorem mgetBe_loop {size : Nat} (src : RawBuffer) (offset n : Nat) (le : n ≤ size)
    (fits : offset + size ≤ src.length) :
    ((List.range n).foldl (fun (value : BitVec (8 * size)) index =>
      (value <<< 8) ||| (src.getD (offset + index) 0).setWidth (8 * size)) 0).toNat =
      bigEndian ((src.drop offset).take n) := by
  induction n with
  | zero => simp
  | succ n ih =>
    have earlier := ih (by omega)
    have read : src[offset + n]? = some (src.getD (offset + n) 0) := by
      rw [List.getD_eq_getElem?_getD, List.getElem?_eq_getElem (by omega), Option.getD_some]
    have bound := bigEndian_lt ((src.drop offset).take n)
    rw [List.length_take, List.length_drop, Nat.min_eq_left (by omega), ← earlier] at bound
    rw [List.range_succ, List.foldl_append, List.foldl_cons, List.foldl_nil,
      shift_or_byte _ _ n (by omega) bound, earlier, List.take_add_one, List.getElem?_drop, read,
      Option.toList_some, bigEndian_concat]

theorem mgetBe_none (size : Nat) (src : RawBuffer) (offset : Nat) (short : src.length < offset + size) :
    mgetBe size src offset = none := by
  rw [mgetBe, if_pos (by omega)]

theorem mgetBe_some (size : Nat) (src : RawBuffer) (offset : Nat) (fits : offset + size ≤ src.length) :
    mgetBe size src offset = some (BitVec.ofNat (8 * size) (bigEndian ((src.drop offset).take size))) := by
  rw [mgetBe, if_neg (by omega)]
  congr 1
  rw [← mgetBe_loop src offset size le_rfl fits]
  exact ((BitVec.ofNat_toNat _ _).trans (BitVec.setWidth_eq _)).symm

/-! ## Serializer -/

inductive ParseStatus where
  | kIncomplete
  | kComplete
  | kInvalid
  deriving DecidableEq, Repr

structure Meta where
  status : ParseStatus := .kIncomplete
  size : Nat := 0
  payloadSize : Nat := 0
  type : MessageType := ⟨0⟩
  payload : RawBuffer := []
  deriving DecidableEq, Repr

/-- `std::length_error` with its explanation. -/
structure LengthError where
  what : String
  deriving DecidableEq, Repr

namespace Serializer

def kContentLen : Nat := 8
def kType : Nat := 4
def kHeaderSize : Nat := kContentLen + kType
def kMaxPayloadSize : Nat := 64 * 1024

/-- `serialize` over the encoded payload: protobuf's `SerializeAsString` returns
as many bytes as `ByteSizeLong` announces. -/
def serialize (type : MessageType) (payload : RawBuffer) : Except LengthError RawBuffer :=
  let contentLen := payload.length
  if kMaxPayloadSize < contentLen then .error ⟨"message payload exceeds the maximum size"⟩
  else
    let buffer : RawBuffer := []
    let buffer := msetBe kContentLen buffer (BitVec.ofNat 64 contentLen)
    let buffer := msetBe kType buffer type.value
    .ok (buffer ++ payload)

def destructBuffer (buffer : RawBuffer) : Meta :=
  match mgetBe kContentLen buffer 0 with
  | none => {}
  | some contentLength =>
      if kMaxPayloadSize < contentLength.toNat then { status := .kInvalid }
      else
        let payloadSize := contentLength.toNat
        let messageLen := kHeaderSize + payloadSize
        -- the payload is still to come
        if buffer.length < messageLen then {}
        else
          match mgetBe kType buffer kContentLen with
          | none => {}
          | some typeParts =>
              { status := .kComplete, size := messageLen, payloadSize, type := ⟨typeParts⟩,
                payload := (buffer.take messageLen).drop (kContentLen + kType) }

theorem serialize_ok (type : MessageType) (payload : RawBuffer) (fits : payload.length ≤ kMaxPayloadSize) :
    serialize type payload =
      .ok (toBigEndian 8 payload.length ++ toBigEndian 4 type.value.toNat ++ payload) := by
  have width : payload.length < 2 ^ 64 := by
    unfold kMaxPayloadSize at fits
    omega
  simp only [serialize, msetBe_eq, kContentLen, kType, List.nil_append]
  rw [if_neg (by omega), BitVec.toNat_ofNat, Nat.mod_eq_of_lt width]

/-- `destruct_buffer` in closed form: the length field decides, then the total size. -/
theorem destructBuffer_eq (buffer : RawBuffer) :
    destructBuffer buffer =
      if buffer.length < 8 then {}
      else if kMaxPayloadSize < bigEndian (buffer.take 8) then { status := .kInvalid }
      else if buffer.length < 12 + bigEndian (buffer.take 8) then {}
      else { status := .kComplete, size := 12 + bigEndian (buffer.take 8),
             payloadSize := bigEndian (buffer.take 8),
             type := ⟨BitVec.ofNat 32 (bigEndian ((buffer.drop 8).take 4))⟩,
             payload := (buffer.drop 12).take (bigEndian (buffer.take 8)) } := by
  by_cases short : buffer.length < 8
  · simp [destructBuffer, mgetBe_none kContentLen buffer 0 (by simpa [kContentLen] using short), short]
  · have length : (BitVec.ofNat (8 * 8) (bigEndian (buffer.take 8))).toNat = bigEndian (buffer.take 8) := by
      have bound := bigEndian_lt (buffer.take 8)
      rw [List.length_take, Nat.min_eq_left (by omega)] at bound
      rw [BitVec.toNat_ofNat]
      exact Nat.mod_eq_of_lt (by omega)
    rw [destructBuffer, mgetBe_some kContentLen buffer 0 (by simp [kContentLen]; omega)]
    simp only [kContentLen, kHeaderSize, kType, Nat.reduceAdd, List.drop_zero, length, short, if_false]
    by_cases large : kMaxPayloadSize < bigEndian (buffer.take 8)
    · simp [large]
    · by_cases unfinished : buffer.length < 12 + bigEndian (buffer.take 8)
      · simp [large, unfinished]
      · simp only [large, unfinished, if_false, mgetBe_some 4 buffer 8 (by omega), List.drop_take,
          Nat.add_sub_cancel_left]

/-! ## Exactness -/

def Serializable (frame : RawBuffer) : Prop :=
  ∃ type payload, serialize type payload = .ok frame

theorem serialize_error (type : MessageType) (payload : RawBuffer) :
    serialize type payload = .error ⟨"message payload exceeds the maximum size"⟩ ↔
      kMaxPayloadSize < payload.length := by
  by_cases large : kMaxPayloadSize < payload.length
  · simp [serialize, large]
  · simp [serialize_ok type payload (by omega), large]

theorem serialize_fits {type : MessageType} {payload frame : RawBuffer}
    (written : serialize type payload = .ok frame) : payload.length ≤ kMaxPayloadSize := by
  by_contra large
  have refused := (serialize_error type payload).mpr (by omega)
  rw [written] at refused
  cases refused

theorem serialize_header (buffer : RawBuffer) (header : 12 ≤ buffer.length)
    (small : bigEndian (buffer.take 8) ≤ kMaxPayloadSize)
    (whole : 12 + bigEndian (buffer.take 8) ≤ buffer.length) :
    serialize ⟨BitVec.ofNat 32 (bigEndian ((buffer.drop 8).take 4))⟩
        ((buffer.drop 12).take (bigEndian (buffer.take 8))) =
      .ok (buffer.take (12 + bigEndian (buffer.take 8))) := by
  have lengthField : toBigEndian 8 (bigEndian (buffer.take 8)) = buffer.take 8 := by
    have same := toBigEndian_bigEndian (buffer.take 8)
    rwa [List.length_take, Nat.min_eq_left (by omega)] at same
  have typeField : toBigEndian 4 (bigEndian ((buffer.drop 8).take 4) % 2 ^ 32) = (buffer.drop 8).take 4 := by
    have same := toBigEndian_bigEndian ((buffer.drop 8).take 4)
    rw [List.length_take, List.length_drop, Nat.min_eq_left (by omega)] at same
    exact (toBigEndian_mod 4 _).trans same
  have size : ((buffer.drop 12).take (bigEndian (buffer.take 8))).length = bigEndian (buffer.take 8) := by
    rw [List.length_take, List.length_drop, Nat.min_eq_left (by omega)]
  rw [serialize_ok _ _ (by rw [size]; exact small), size, BitVec.toNat_ofNat, lengthField, typeField,
    List.take_add, List.take_add (i := 8) (j := 4)]

theorem serialized_length {type : MessageType} {payload frame : RawBuffer}
    (written : serialize type payload = .ok frame) : frame.length = 12 + payload.length := by
  have fits := serialize_fits written
  rw [serialize_ok type payload fits, Except.ok.injEq] at written
  rw [← written]
  simp only [List.length_append, toBigEndian_length]

theorem serialized_field {type : MessageType} {payload frame : RawBuffer}
    (written : serialize type payload = .ok frame) (suffix : RawBuffer) :
    bigEndian ((frame ++ suffix).take 8) = payload.length := by
  have fits := serialize_fits written
  rw [serialize_ok type payload fits, Except.ok.injEq] at written
  have field : ((frame ++ suffix).take 8) = toBigEndian 8 payload.length := by
    simp [← written]
  rw [field, bigEndian_toBigEndian]
  exact Nat.mod_eq_of_lt (by unfold kMaxPayloadSize at fits; omega)

theorem destruct_serialize {type : MessageType} {payload frame : RawBuffer}
    (written : serialize type payload = .ok frame) (suffix : RawBuffer) :
    destructBuffer (frame ++ suffix) =
      { status := .kComplete, size := 12 + payload.length, payloadSize := payload.length, type, payload } := by
  have fits := serialize_fits written
  have size := serialized_length written
  have field := serialized_field written suffix
  rw [serialize_ok type payload fits, Except.ok.injEq] at written
  have typeBytes : ((frame ++ suffix).drop 8).take 4 = toBigEndian 4 type.value.toNat := by
    simp [← written]
  have payloadBytes : ((frame ++ suffix).drop 12).take payload.length = payload := by
    simp [← written, List.drop_append, List.take_append]
  have typeValue : (⟨BitVec.ofNat 32 (bigEndian (toBigEndian 4 type.value.toNat))⟩ : MessageType) = type := by
    have bound : type.value.toNat < 256 ^ 4 := type.value.isLt
    rw [bigEndian_toBigEndian, Nat.mod_eq_of_lt bound]
    exact congrArg MessageType.mk ((BitVec.ofNat_toNat _ _).trans (BitVec.setWidth_eq _))
  rw [destructBuffer_eq, field, typeBytes, payloadBytes, typeValue, List.length_append, size,
    if_neg (by omega), if_neg (by omega), if_neg (by omega)]

/-- A buffer starts with a serializable frame exactly when its header announces
an admissible payload that has arrived in full. -/
theorem starts_serializable_iff (buffer : RawBuffer) :
    (∃ frame rest, Serializable frame ∧ buffer = frame ++ rest) ↔
      8 ≤ buffer.length ∧ bigEndian (buffer.take 8) ≤ kMaxPayloadSize ∧
        12 + bigEndian (buffer.take 8) ≤ buffer.length := by
  constructor
  · rintro ⟨frame, rest, ⟨type, payload, written⟩, rfl⟩
    have fits := serialize_fits written
    have size := serialized_length written
    rw [serialized_field written rest, List.length_append]
    omega
  · rintro ⟨_, small, whole⟩
    refine ⟨buffer.take (12 + bigEndian (buffer.take 8)), buffer.drop (12 + bigEndian (buffer.take 8)), ?_,
      (List.take_append_drop _ buffer).symm⟩
    exact ⟨_, _, serialize_header buffer (by omega) small whole⟩

theorem strictly_inside_frame_iff (buffer : RawBuffer) (header : 8 ≤ buffer.length) :
    (∃ frame, Serializable frame ∧ buffer <+: frame ∧ buffer ≠ frame) ↔
      bigEndian (buffer.take 8) ≤ kMaxPayloadSize ∧ buffer.length < 12 + bigEndian (buffer.take 8) := by
  constructor
  · rintro ⟨_, ⟨type, payload, written⟩, ⟨tail, rfl⟩, strict⟩
    have fits := serialize_fits written
    have size := serialized_length written
    have field := serialized_field written []
    rw [List.append_nil, List.take_append_of_le_length header] at field
    have nonempty : 0 < tail.length := by
      apply List.length_pos_iff.mpr
      rintro rfl
      exact strict (List.append_nil buffer).symm
    rw [List.length_append] at size
    omega
  · rintro ⟨small, short⟩
    -- Zero bytes stand for the part of the frame that has not arrived.
    let missing := List.replicate (12 + bigEndian (buffer.take 8) - buffer.length) (0 : Byte)
    have total : (buffer ++ missing).length = 12 + bigEndian (buffer.take 8) := by
      simp only [missing, List.length_append, List.length_replicate]
      omega
    have field : (buffer ++ missing).take 8 = buffer.take 8 := List.take_append_of_le_length header
    have written := serialize_header (buffer ++ missing) (by omega) (by rwa [field]) (by rw [field]; omega)
    have all : (buffer ++ missing).take (12 + bigEndian (buffer.take 8)) = buffer ++ missing :=
      List.take_of_length_le (by omega)
    rw [field, all] at written
    refine ⟨buffer ++ missing, ⟨_, _, written⟩, List.prefix_append _ _, ?_⟩
    intro same
    have lengths := congrArg List.length same
    omega

theorem status_invalid_iff (buffer : RawBuffer) :
    (destructBuffer buffer).status = .kInvalid ↔
      8 ≤ buffer.length ∧ kMaxPayloadSize < bigEndian (buffer.take 8) := by
  rw [destructBuffer_eq]
  split_ifs <;> simp <;> omega

theorem status_complete_iff (buffer : RawBuffer) :
    (destructBuffer buffer).status = .kComplete ↔
      8 ≤ buffer.length ∧ bigEndian (buffer.take 8) ≤ kMaxPayloadSize ∧
        12 + bigEndian (buffer.take 8) ≤ buffer.length := by
  rw [destructBuffer_eq]
  split_ifs <;> simp <;> omega

theorem status_incomplete_iff (buffer : RawBuffer) :
    (destructBuffer buffer).status = .kIncomplete ↔
      buffer.length < 8 ∨ (bigEndian (buffer.take 8) ≤ kMaxPayloadSize ∧
        buffer.length < 12 + bigEndian (buffer.take 8)) := by
  rw [destructBuffer_eq]
  split_ifs <;> simp <;> omega

/-- What `destruct_buffer` takes for a complete message is a frame the buffer starts with. -/
theorem destruct_complete {buffer : RawBuffer} (complete : (destructBuffer buffer).status = .kComplete) :
    serialize (destructBuffer buffer).type (destructBuffer buffer).payload =
      .ok (buffer.take (destructBuffer buffer).size) := by
  obtain ⟨_, small, whole⟩ := (status_complete_iff buffer).mp complete
  rw [destructBuffer_eq, if_neg (by omega), if_neg (by omega), if_neg (by omega)]
  exact serialize_header buffer (by omega) small whole

/-- Without a complete message the type is the default of the enumeration, which is a ping. -/
theorem destruct_default {buffer : RawBuffer} (unfinished : (destructBuffer buffer).status ≠ .kComplete) :
    (destructBuffer buffer).type = .kPing ∧ (destructBuffer buffer).payload = [] := by
  rw [destructBuffer_eq] at unfinished ⊢
  split_ifs at unfinished ⊢
  · exact ⟨rfl, rfl⟩
  · exact ⟨rfl, rfl⟩
  · exact ⟨rfl, rfl⟩
  · exact absurd rfl unfinished

/-- The wire format is exact in both directions: what `serialize` writes is read
back under any suffix, and each status of `destruct_buffer` says what the buffer
starts with. -/
theorem wire_format_exact :
    (∀ (type : MessageType) (payload suffix : RawBuffer), payload.length ≤ kMaxPayloadSize →
      ∃ frame, serialize type payload = .ok frame ∧
        destructBuffer (frame ++ suffix) =
          { status := .kComplete, size := 12 + payload.length, payloadSize := payload.length,
            type, payload }) ∧
    (∀ buffer : RawBuffer,
      ((destructBuffer buffer).status = .kComplete ↔
        ∃ frame rest, Serializable frame ∧ buffer = frame ++ rest) ∧
      ((destructBuffer buffer).status = .kComplete →
        serialize (destructBuffer buffer).type (destructBuffer buffer).payload =
          .ok (buffer.take (destructBuffer buffer).size)) ∧
      ((destructBuffer buffer).status = .kInvalid ↔
        8 ≤ buffer.length ∧ kMaxPayloadSize < bigEndian (buffer.take 8)) ∧
      ((destructBuffer buffer).status = .kIncomplete ↔
        buffer.length < 8 ∨ ∃ frame, Serializable frame ∧ buffer <+: frame ∧ buffer ≠ frame)) ∧
    (∀ (type : MessageType) (payload : RawBuffer),
      serialize type payload = .error ⟨"message payload exceeds the maximum size"⟩ ↔
        kMaxPayloadSize < payload.length) := by
  refine ⟨?_, ?_, serialize_error⟩
  · intro type payload suffix fits
    have written := serialize_ok type payload fits
    exact ⟨_, written, destruct_serialize written suffix⟩
  · intro buffer
    refine ⟨?_, destruct_complete, status_invalid_iff buffer, ?_⟩
    · rw [starts_serializable_iff, status_complete_iff]
    · rw [status_incomplete_iff]
      by_cases short : buffer.length < 8
      · simp [short]
      · simp only [short, false_or]
        exact (strictly_inside_frame_iff buffer (by omega)).symm

end Serializer

end Rsp.Message
