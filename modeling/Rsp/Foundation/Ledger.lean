import Mathlib.Algebra.BigOperators.Group.List.Basic
import Mathlib.Algebra.Order.BigOperators.Group.List
import Mathlib.Algebra.Order.Ring.Nat
import Mathlib.Data.List.Perm.Subperm

/-! A counter of reserved units and the items that hold them.

Every item reserves at most once and its units are given back at most once. The counter is
a machine word that wraps around, and the ledger shows that it never does.
-/

set_option autoImplicit false

namespace Rsp.Foundation

def fetchSub (counter size : Nat) : Nat := (((counter : Int) - size) % 2 ^ 64).toNat

/-- `fresh` lists the items that may still reserve, `held` those with a reservation. -/
structure Ledger (Item : Type) where
  used : Nat
  fresh : List Item
  held : List Item
  reserved : List Item
  released : List Item

namespace Ledger

variable {Item : Type} {size : Item → Nat} {limit : Nat}

inductive Step (size : Item → Nat) (limit : Nat) (ledger after : Ledger Item) : Prop where
  | keep (used : after.used = ledger.used) (fresh : after.fresh.Subperm ledger.fresh)
      (held : after.held.Perm ledger.held) (reserved : after.reserved = ledger.reserved)
      (released : after.released = ledger.released)
  | enter (item : Item) (new : item ∉ ledger.fresh ++ ledger.reserved) (used : after.used = ledger.used)
      (fresh : after.fresh.Perm (item :: ledger.fresh)) (held : after.held.Perm ledger.held)
      (reserved : after.reserved = ledger.reserved) (released : after.released = ledger.released)
  | reserve (item : Item) (fits : ledger.used + size item ≤ limit)
      (used : after.used = (ledger.used + size item) % 2 ^ 64) (fresh : ledger.fresh.Perm (item :: after.fresh))
      (held : after.held.Perm (item :: ledger.held)) (reserved : after.reserved = ledger.reserved ++ [item])
      (released : after.released = ledger.released)
  | release (item : Item) (used : after.used = fetchSub ledger.used (size item))
      (fresh : after.fresh.Perm ledger.fresh) (held : ledger.held.Perm (item :: after.held))
      (reserved : after.reserved = ledger.reserved) (released : after.released = ledger.released ++ [item])

/-- The counter is the size of what is held, every reservation is held or was given back,
and no item reserves twice. -/
structure Balanced (size : Item → Nat) (limit : Nat) (ledger : Ledger Item) : Prop where
  used : ledger.used = (ledger.held.map size).sum
  bound : ledger.used ≤ limit
  account : ledger.reserved.Perm (ledger.released ++ ledger.held)
  once : (ledger.fresh ++ ledger.reserved).Nodup

theorem balanced_empty : Balanced size limit ⟨0, [], [], [], []⟩ :=
  ⟨rfl, Nat.zero_le _, .nil, .nil⟩

theorem Balanced.size_le {ledger : Ledger Item} (balanced : Balanced size limit ledger) {item : Item}
    (holds : item ∈ ledger.held) : size item ≤ ledger.used := by
  rw [balanced.used]
  exact List.single_le_sum (by simp) _ (List.mem_map_of_mem holds)

theorem fetchSub_of_le {counter amount : Nat} (small : counter < 2 ^ 64) (le : amount ≤ counter) :
    fetchSub counter amount = counter - amount := by
  unfold fetchSub
  rw [Int.emod_eq_of_lt (by omega) (by omega)]
  omega

theorem balanced_step {ledger after : Ledger Item} (word : limit < 2 ^ 64) (balanced : Balanced size limit ledger)
    (step : Step size limit ledger after) : Balanced size limit after := by
  obtain ⟨sum, bound, account, once⟩ := balanced
  cases step with
  | keep used fresh held reserved released =>
    refine ⟨?_, used ▸ bound, ?_, ?_⟩
    · rw [used, sum]
      exact (held.symm.map size).sum_eq
    · rw [reserved, released]
      exact account.trans (held.symm.append_left _)
    · rw [reserved]
      obtain ⟨list, same, part⟩ := fresh.append (List.Subperm.refl ledger.reserved)
      exact same.nodup_iff.mp (part.nodup once)
  | enter item new used fresh held reserved released =>
    refine ⟨?_, used ▸ bound, ?_, ?_⟩
    · rw [used, sum]
      exact (held.symm.map size).sum_eq
    · rw [reserved, released]
      exact account.trans (held.symm.append_left _)
    · rw [reserved]
      refine (fresh.append_right _).nodup_iff.mpr ?_
      rw [List.cons_append, List.nodup_cons]
      exact ⟨new, once⟩
  | reserve item fits used fresh held reserved released =>
    have small : (ledger.used + size item) % 2 ^ 64 = ledger.used + size item := Nat.mod_eq_of_lt (by omega)
    rw [small] at used
    refine ⟨?_, used ▸ fits, ?_, ?_⟩
    · rw [used, sum, (held.map size).sum_eq, List.map_cons, List.sum_cons, Nat.add_comm]
    · rw [reserved, released]
      -- the new reservation goes from the end of one list to the head of the other
      calc ledger.reserved ++ [item]
        _ |>.Perm (item :: ledger.reserved) := List.perm_append_singleton item ledger.reserved
        _ |>.Perm (item :: (ledger.released ++ ledger.held)) := account.cons item
        _ |>.Perm (ledger.released ++ item :: ledger.held) := List.perm_middle.symm
        _ |>.Perm (ledger.released ++ after.held) := held.symm.append_left _
    · rw [reserved]
      refine List.Perm.nodup ?_ once
      calc ledger.fresh ++ ledger.reserved
        _ |>.Perm (item :: after.fresh ++ ledger.reserved) := fresh.append_right _
        _ |>.Perm (after.fresh ++ item :: ledger.reserved) := List.perm_middle.symm
        _ |>.Perm (after.fresh ++ (ledger.reserved ++ [item])) :=
          (List.perm_append_singleton item ledger.reserved).symm.append_left _
  | release item used fresh held reserved released =>
    have holds : item ∈ ledger.held := held.mem_iff.mpr (by simp)
    have le : size item ≤ ledger.used := Balanced.size_le ⟨sum, bound, account, once⟩ holds
    have total : ledger.used = size item + (after.held.map size).sum := by
      rw [sum, (held.map size).sum_eq, List.map_cons, List.sum_cons]
    rw [fetchSub_of_le (by omega) le] at used
    refine ⟨by omega, by omega, ?_, ?_⟩
    · rw [reserved, released, List.append_assoc]
      exact account.trans (held.append_left _)
    · rw [reserved]
      exact (fresh.append_right _).nodup_iff.mpr once

theorem release_le {ledger after : Ledger Item} (word : limit < 2 ^ 64) (balanced : Balanced size limit ledger)
    (step : Step size limit ledger after) {item : Item} (released : after.released = ledger.released ++ [item]) :
    size item ≤ ledger.used ∧ after.used = ledger.used - size item := by
  cases step with
  | keep used fresh held reserved same | enter item new used fresh held reserved same
  | reserve item fits used fresh held reserved same => simp [same] at released
  | release other used fresh held reserved same =>
    rw [same, List.append_cancel_left_eq, List.singleton_inj] at released
    subst released
    have le := balanced.size_le (held.mem_iff.mpr List.mem_cons_self)
    have bound := balanced.bound
    exact ⟨le, used.trans (fetchSub_of_le (by omega) le)⟩

end Ledger

end Rsp.Foundation
