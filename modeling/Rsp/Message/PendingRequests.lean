import Std.Data.ExtTreeMap
import Mathlib.Data.List.Basic

/-! The registry `pending_requests` of requests that await a response.

Both handlers of a request are closures over one target, the object that is told about
the response or the timeout. They run outside the lock, so the operations return what
they call instead of calling it.
-/

set_option autoImplicit false

namespace Rsp.Message

structure Pending (Target : Type) where
  deadline : Nat
  target : Target
  deriving DecidableEq, Repr

/-- Times are ticks of the steady clock, in nanoseconds. -/
structure PendingRequests (Target : Type) where
  requests : Std.ExtTreeMap Nat (Pending Target) := ∅

inductive Resolution (Target : Type) where
  | onResponse (target : Target)
  | onTimeout (target : Target)
  deriving DecidableEq, Repr

namespace PendingRequests

variable {Target : Type}

/-- `emplace` keeps an entry that exists. -/
def add (self : PendingRequests Target) (id : Nat) (target : Target) (deadline : Nat) : PendingRequests Target :=
  { self with requests := self.requests.insertIfNew id ⟨deadline, target⟩ }

def take (self : PendingRequests Target) (id : Nat) : PendingRequests Target × Option (Pending Target) :=
  match self.requests[id]? with
  | none => (self, none)
  | some removed => ({ self with requests := self.requests.erase id }, some removed)

def cancel (self : PendingRequests Target) (id : Nat) : PendingRequests Target × Bool :=
  let (self, taken) := self.take id
  (self, taken.isSome)

/-- A response arriving after its deadline is late even between timer ticks. -/
def complete (self : PendingRequests Target) (id now : Nat) : PendingRequests Target × Option (Resolution Target) :=
  let (self, taken) := self.take id
  (self, taken.map fun pending =>
    if pending.deadline ≤ now then .onTimeout pending.target else .onResponse pending.target)

/-- The batch is in key order, as the loop over the map collects it. -/
def expire (self : PendingRequests Target) (now : Nat) : PendingRequests Target × List (Nat × Target) :=
  ({ self with requests := self.requests.filter fun _ pending => now < pending.deadline },
    (self.requests.toList.filter fun entry => entry.2.deadline ≤ now).map fun entry => (entry.1, entry.2.target))

/-- The handlers are dropped, none is called. -/
def clear (self : PendingRequests Target) : PendingRequests Target := { self with requests := ∅ }

/-! ## What the operations touch -/

def find (self : PendingRequests Target) (id : Nat) : Option (Pending Target) := self.requests[id]?

variable {self : PendingRequests Target} {id other now deadline : Nat} {target : Target}

theorem find_add (self : PendingRequests Target) (id other deadline : Nat) (target : Target) :
    (self.add id target deadline).find other =
      if id = other then (self.find id).or (some ⟨deadline, target⟩) else self.find other := by
  simp only [find, add, Std.ExtTreeMap.getElem?_insertIfNew, Std.LawfulEqCmp.compare_eq_iff_eq]
  by_cases same : id = other
  · subst same
    by_cases known : id ∈ self.requests
    · simp [known]
    · simp [known]
  · simp [same]

theorem take_snd (self : PendingRequests Target) (id : Nat) : (self.take id).2 = self.find id := by
  simp only [take, find]
  split <;> simp_all

theorem find_take (self : PendingRequests Target) (id other : Nat) :
    (self.take id).1.find other = if id = other then none else self.find other := by
  simp only [take, find]
  split
  · next absent =>
    by_cases same : id = other
    · simp [← same, absent]
    · simp [same]
  · simp [Std.ExtTreeMap.getElem?_erase]

theorem cancel_eq (self : PendingRequests Target) (id : Nat) :
    self.cancel id = ((self.take id).1, (self.find id).isSome) := by
  simp [cancel, take_snd]

theorem complete_fst (self : PendingRequests Target) (id now : Nat) :
    (self.complete id now).1 = (self.take id).1 := rfl

theorem complete_snd (self : PendingRequests Target) (id now : Nat) :
    (self.complete id now).2 = (self.find id).map fun pending =>
      if pending.deadline ≤ now then .onTimeout pending.target else .onResponse pending.target := by
  simp [complete, take_snd]

theorem find_expire (self : PendingRequests Target) (id now : Nat) :
    (self.expire now).1.find id = (self.find id).filter fun pending => now < pending.deadline := by
  simp only [expire, find, Std.ExtTreeMap.getElem?_filter]
  cases self.requests[id]? <;> simp [Option.filter]

theorem mem_expire {target : Target} :
    (id, target) ∈ (self.expire now).2 ↔ ∃ deadline, self.find id = some ⟨deadline, target⟩ ∧ deadline ≤ now := by
  simp only [expire, find, List.mem_map, List.mem_filter, Std.ExtTreeMap.mem_toList_iff_getElem?_eq_some,
    decide_eq_true_eq, Prod.exists, Prod.mk.injEq]
  constructor
  · rintro ⟨key, ⟨deadline, owner⟩, ⟨found, late⟩, rfl, rfl⟩
    exact ⟨deadline, found, late⟩
  · rintro ⟨deadline, found, late⟩
    exact ⟨id, ⟨deadline, target⟩, ⟨found, late⟩, rfl, rfl⟩

theorem expire_nodup (self : PendingRequests Target) (now : Nat) : ((self.expire now).2.map Prod.fst).Nodup := by
  have keys : (self.requests.toList.map Prod.fst).Nodup := by
    rw [List.Nodup, List.pairwise_map]
    exact self.requests.distinct_keys_toList.imp fun different same => different (by simp [same])
  have part : ((self.expire now).2.map Prod.fst).Sublist (self.requests.toList.map Prod.fst) := by
    simp only [expire, List.map_map]
    exact List.filter_sublist.map Prod.fst
  exact keys.sublist part

end PendingRequests

end Rsp.Message
