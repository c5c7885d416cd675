import Mathlib.Data.Nat.ModEq
import Mathlib.Tactic.Ring

/-! Fixed-width big-endian byte strings and the naturals they denote. -/

set_option autoImplicit false

namespace Rsp.Foundation

abbrev Byte := BitVec 8

def bigEndian (bytes : List Byte) : Nat :=
  bytes.foldl (fun value byte => value * 256 + byte.toNat) 0

def toBigEndian : Nat → Nat → List Byte
  | 0, _ => []
  | width + 1, value => BitVec.ofNat 8 (value / 256 ^ width) :: toBigEndian width value

@[simp] theorem bigEndian_nil : bigEndian [] = 0 := rfl

theorem foldl_bigEndian (start : Nat) (bytes : List Byte) :
    bytes.foldl (fun value byte => value * 256 + byte.toNat) start =
      start * 256 ^ bytes.length + bigEndian bytes := by
  induction bytes generalizing start with
  | nil => simp
  | cons byte rest ih =>
    simp only [bigEndian, List.foldl_cons, List.length_cons]
    rw [ih, ih (0 * 256 + byte.toNat)]
    ring

theorem bigEndian_append (first second : List Byte) :
    bigEndian (first ++ second) = bigEndian first * 256 ^ second.length + bigEndian second := by
  rw [bigEndian, List.foldl_append]
  exact foldl_bigEndian (bigEndian first) second

theorem bigEndian_cons (byte : Byte) (rest : List Byte) :
    bigEndian (byte :: rest) = byte.toNat * 256 ^ rest.length + bigEndian rest := by
  simpa [bigEndian] using bigEndian_append [byte] rest

theorem bigEndian_concat (bytes : List Byte) (byte : Byte) :
    bigEndian (bytes ++ [byte]) = bigEndian bytes * 256 + byte.toNat := by
  simp [bigEndian]

theorem bigEndian_lt (bytes : List Byte) : bigEndian bytes < 256 ^ bytes.length := by
  induction bytes with
  | nil => simp
  | cons byte rest ih =>
    have bound : byte.toNat < 256 := byte.isLt
    rw [bigEndian_cons, List.length_cons, pow_succ]
    calc byte.toNat * 256 ^ rest.length + bigEndian rest
        < byte.toNat * 256 ^ rest.length + 256 ^ rest.length := by omega
      _ = (byte.toNat + 1) * 256 ^ rest.length := by ring
      _ ≤ 256 * 256 ^ rest.length := Nat.mul_le_mul_right _ bound
      _ = 256 ^ rest.length * 256 := Nat.mul_comm _ _

@[simp] theorem toBigEndian_length (width value : Nat) : (toBigEndian width value).length = width := by
  induction width with
  | zero => rfl
  | succ width ih => simp [toBigEndian, ih]

theorem bigEndian_toBigEndian (width value : Nat) :
    bigEndian (toBigEndian width value) = value % 256 ^ width := by
  induction width with
  | zero => simp [toBigEndian, Nat.mod_one]
  | succ width ih =>
    simp only [toBigEndian, bigEndian_cons, toBigEndian_length, ih, BitVec.toNat_ofNat]
    conv_rhs => rw [pow_succ, Nat.mod_mul]
    norm_num
    ring

theorem toBigEndian_mod (width value : Nat) :
    toBigEndian width (value % 256 ^ width) = toBigEndian width value := by
  -- The high bytes above `width` are cut off byte by byte, so the statement is
  -- strengthened to every larger modulus before the induction.
  suffices wide : ∀ extra, toBigEndian width (value % 256 ^ (width + extra)) = toBigEndian width value by
    simpa using wide 0
  intro extra
  induction width generalizing extra with
  | zero => rfl
  | succ width ih =>
    simp only [toBigEndian, List.cons.injEq]
    constructor
    · apply BitVec.eq_of_toNat_eq
      simp only [BitVec.toNat_ofNat]
      rw [show width + 1 + extra = width + (1 + extra) by omega, pow_add, Nat.mod_mul_right_div_self,
        pow_add, pow_one]
      exact Nat.mod_mod_of_dvd _ (Nat.dvd_mul_right _ _)
    · rw [show width + 1 + extra = width + (1 + extra) by omega]
      exact ih (1 + extra)

theorem toBigEndian_bigEndian (bytes : List Byte) : toBigEndian bytes.length (bigEndian bytes) = bytes := by
  induction bytes with
  | nil => rfl
  | cons byte rest ih =>
    have low := bigEndian_lt rest
    have positive : 0 < 256 ^ rest.length := Nat.pow_pos (by decide)
    simp only [List.length_cons, toBigEndian, bigEndian_cons, List.cons.injEq]
    constructor
    · rw [Nat.mul_comm, Nat.mul_add_div positive, Nat.div_eq_of_lt low, Nat.add_zero]
      exact (BitVec.ofNat_toNat 8 byte).trans (BitVec.setWidth_eq byte)
    · rw [← toBigEndian_mod, Nat.mul_add_mod_of_lt low, ih]

end Rsp.Foundation
