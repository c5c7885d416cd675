import Mathlib.Algebra.Order.Group.Nat
import Mathlib.Data.Nat.Basic
import Rsp.Foundation.Bytes

/-! The encoded sizes of proto3 fields, and the fields of an encoded message.

A field with its default value is not encoded. The tags of the fields numbered up to
fifteen take one byte, and only such fields are counted here.
-/

set_option autoImplicit false

namespace Rsp.Foundation

def varintSize (value : Nat) : Nat :=
  if value < 128 then 1 else varintSize (value / 128) + 1

def uintField (bits value : Nat) : Nat :=
  if value % 2 ^ bits = 0 then 0 else 1 + varintSize (value % 2 ^ bits)

/-- A field of an enumeration: the value is extended to 64 bits with its sign, so that a
negative one takes ten bytes. -/
def enumField (value : BitVec 32) : Nat := uintField 64 (value.signExtend 64).toNat

/-- A field with explicit presence, which is encoded even when it is zero. -/
def optionalField (bits : Nat) : Option Nat → Nat
  | none => 0
  | some value => 1 + varintSize (value % 2 ^ bits)

def boolField (value : Bool) : Nat := if value then 2 else 0

def stringField (value : String) : Nat :=
  if value = "" then 0 else 1 + varintSize value.utf8ByteSize + value.utf8ByteSize

theorem varintSize_le (width : Nat) {value : Nat} (small : value < 128 ^ (width + 1)) : varintSize value ≤ width + 1 := by
  induction width generalizing value with
  | zero =>
    rw [varintSize, if_pos (by simpa using small)]
  | succ width ih =>
    rw [varintSize]
    split
    · omega
    · have shorter : value / 128 < 128 ^ (width + 1) := by
        apply Nat.div_lt_of_lt_mul
        rw [Nat.mul_comm, ← Nat.pow_succ]
        exact small
      have bound := ih shorter
      omega

theorem varintSize_mod {bits width : Nat} (fits : 2 ^ bits ≤ 128 ^ (width + 1)) (value : Nat) :
    varintSize (value % 2 ^ bits) ≤ width + 1 := by
  apply varintSize_le
  exact Nat.lt_of_lt_of_le (Nat.mod_lt _ (Nat.two_pow_pos bits)) fits

theorem uintField_le {bits width : Nat} (fits : 2 ^ bits ≤ 128 ^ (width + 1)) (value : Nat) :
    uintField bits value ≤ width + 2 := by
  have bound := varintSize_mod fits value
  unfold uintField
  split <;> omega

theorem enumField_le (value : BitVec 32) : enumField value ≤ 11 := uintField_le (by decide) _

theorem optionalField_le {bits width : Nat} (fits : 2 ^ bits ≤ 128 ^ (width + 1)) (value : Option Nat) :
    optionalField bits value ≤ width + 2 := by
  cases value with
  | none => exact Nat.zero_le _
  | some value =>
    have bound := varintSize_mod fits value
    simp only [optionalField]
    omega

theorem boolField_le (value : Bool) : boolField value ≤ 2 := by
  cases value <;> decide

theorem stringField_le {value : String} (small : value.utf8ByteSize < 128 ^ 3) :
    stringField value ≤ value.utf8ByteSize + 4 := by
  have bound := varintSize_le 2 small
  unfold stringField
  split <;> omega

/-! ## Reading -/

def readVarint : Nat → List Byte → Option (Nat × List Byte)
  | 0, _ => none
  | _, [] => none
  | width + 1, byte :: rest =>
      if byte.toNat < 128 then some (byte.toNat, rest)
      else (readVarint width rest).map fun (high, rest) => (byte.toNat - 128 + 128 * high, rest)

/-- The value of a field. Numbers of fixed width are kept as their bytes. -/
inductive Field where
  | varint (value : Nat)
  | bytes (value : List Byte)
  deriving DecidableEq, Repr

def readBytes (length : Nat) (payload : List Byte) : Option (Field × List Byte) :=
  if length ≤ payload.length then some (.bytes (payload.take length), payload.drop length) else none

/-- The number of a field with its value, and what follows it. There are no groups. -/
def readField (payload : List Byte) : Option ((Nat × Field) × List Byte) := do
  let (tag, rest) ← readVarint 5 payload
  let (field, rest) ← match tag % 8 with
    | 0 => (readVarint 10 rest).map fun (value, rest) => (.varint value, rest)
    | 1 => readBytes 8 rest
    | 2 => (readVarint 5 rest).bind fun (length, rest) => readBytes length rest
    | 5 => readBytes 4 rest
    | _ => none
  if tag / 8 = 0 then none else some ((tag / 8, field), rest)

/-- The fields before the end of a payload or before the first that is malformed, and whether the
end was reached. A field takes a byte at least, so the length of the payload is enough fuel. -/
def readFields (payload : List Byte) : List (Nat × Field) × Bool := go payload.length payload
where
  go : Nat → List Byte → List (Nat × Field) × Bool
    | _, [] => ([], true)
    | 0, _ => ([], false)
    | fuel + 1, payload =>
        match readField payload with
        | none => ([], false)
        | some (field, rest) => ((field :: (go fuel rest).1), (go fuel rest).2)

def asciiString (bytes : List Byte) : String := String.ofList (bytes.map fun byte => Char.ofNat byte.toNat)

end Rsp.Foundation
