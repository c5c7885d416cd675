import Mathlib.Data.List.Basic

/-! Objects that live behind pointers: a list in which a pointer is a position.

Objects are added at the end and updated in place, so a pointer stays valid.
-/

set_option autoImplicit false

namespace Rsp.Foundation

variable {Object : Type} {heap : List Object} {ptr other : Nat} {object new : Object}

theorem heap_bound (found : heap[ptr]? = some object) : ptr < heap.length :=
  (List.getElem?_eq_some_iff.mp found).1

theorem heap_set_self (found : heap[ptr]? = some object) : heap.set ptr object = heap := by
  obtain ⟨bound, stored⟩ := List.getElem?_eq_some_iff.mp found
  rw [← stored, List.set_getElem_self]

theorem heap_get_set (found : heap[ptr]? = some object) :
    (heap.set ptr new)[other]? = if ptr = other then some new else heap[other]? := by
  by_cases same : ptr = other
  · subst same
    rw [if_pos rfl, List.getElem?_set_self (heap_bound found)]
  · rw [if_neg same, List.getElem?_set_ne same]

theorem heap_get_concat : (heap ++ [new])[other]? = if other = heap.length then some new else heap[other]? := by
  by_cases same : other = heap.length
  · rw [if_pos same, same, List.getElem?_concat_length]
  · rw [if_neg same]
    by_cases bound : other < heap.length
    · rw [List.getElem?_append_left bound]
    · have beyond : heap.length + 1 ≤ other := Nat.lt_of_le_of_ne (Nat.not_lt.mp bound) (Ne.symm same)
      rw [List.getElem?_eq_none (by simpa using beyond), List.getElem?_eq_none (Nat.not_lt.mp bound)]

theorem heap_get_append (found : heap[ptr]? = some object) (more : List Object) :
    (heap ++ more)[ptr]? = some object := by
  rw [List.getElem?_append_left (heap_bound found), found]

end Rsp.Foundation
