import Mathlib.Data.List.Basic

/-! The per-session queue `job_scheduler`.

The mutex-protected part of each operation is a function here; the job it then runs or
cancels is returned, since that happens outside the lock.
-/

set_option autoImplicit false

namespace Rsp.Job

inductive CancelReason where
  | kTimeout
  | kShutdown
  deriving DecidableEq, Repr

structure JobScheduler (Job : Type) where
  q : List Job := []
  running : Bool := false
  stopped : Bool := false
  deriving DecidableEq, Repr

inductive Pushed (Job : Type) where
  | rejected (job : Job)
  | run (next : Job)
  | queued
  deriving DecidableEq, Repr

namespace JobScheduler

variable {Job : Type}

def pushAndRun (self : JobScheduler Job) (job : Job) : JobScheduler Job × Pushed Job :=
  if self.stopped then (self, .rejected job)
  else
    let q := self.q ++ [job]
    if self.running then ({ self with q }, .queued)
    else ({ self with q, running := true }, .run (self.q.headD job))

def completeCurrent (self : JobScheduler Job) : JobScheduler Job × Option Job :=
  match self.q with
  | [] => (self, none)
  | [_] => ({ self with q := [], running := false }, none)
  | _ :: next :: rest => ({ self with q := next :: rest }, some next)

def shutdown (self : JobScheduler Job) : JobScheduler Job × List Job :=
  if self.stopped then (self, [])
  else ({ q := [], running := false, stopped := true }, self.q)

/-! ## What the operations do -/

variable {self : JobScheduler Job}

/-- A job is running exactly while the queue holds one. -/
def Busy (self : JobScheduler Job) : Prop := self.running = true ↔ self.q ≠ []

theorem pushAndRun_cases (busy : self.Busy) (job : Job) :
    (self.stopped = true ∧ self.pushAndRun job = (self, .rejected job)) ∨
    (self.q = [] ∧ self.pushAndRun job = ({ self with q := [job], running := true }, .run job)) ∨
    (self.q ≠ [] ∧ self.pushAndRun job = ({ self with q := self.q ++ [job] }, .queued)) := by
  unfold pushAndRun
  split
  · next stopped => exact .inl ⟨stopped, rfl⟩
  · split
    · next running => exact .inr (.inr ⟨busy.mp running, rfl⟩)
    · next idle =>
      have empty : self.q = [] := by
        by_contra some
        exact idle (busy.mpr some)
      exact .inr (.inl ⟨empty, by simp [empty]⟩)

theorem completeCurrent_q : self.completeCurrent.1.q = self.q.tail := by
  unfold completeCurrent
  split <;> simp_all

theorem completeCurrent_next : self.completeCurrent.2 = self.q.tail.head? := by
  unfold completeCurrent
  split <;> simp_all

theorem completeCurrent_busy (busy : self.Busy) : self.completeCurrent.1.Busy := by
  unfold completeCurrent
  split
  · exact busy
  · simp [Busy]
  · next first next rest same =>
    have running : self.running = true := busy.mpr (by simp [same])
    simp [Busy, running]

theorem pushAndRun_busy (busy : self.Busy) (job : Job) : (self.pushAndRun job).1.Busy := by
  rcases pushAndRun_cases busy job with ⟨-, same⟩ | ⟨-, same⟩ | ⟨some, same⟩
  · rw [same]
    exact busy
  · simp [same, Busy]
  · have running : self.running = true := busy.mpr some
    simp [same, Busy, running]

theorem pushAndRun_stopped (self : JobScheduler Job) (job : Job) : (self.pushAndRun job).1.stopped = self.stopped := by
  unfold pushAndRun
  split
  · rfl
  · split <;> rfl

theorem completeCurrent_stopped (self : JobScheduler Job) : self.completeCurrent.1.stopped = self.stopped := by
  unfold completeCurrent
  split <;> rfl

theorem shutdown_cases : self.shutdown = (self, []) ∨ self.shutdown = ({ q := [], stopped := true }, self.q) := by
  unfold shutdown
  split
  · exact .inl rfl
  · exact .inr rfl

theorem shutdown_busy (busy : self.Busy) : self.shutdown.1.Busy := by
  rcases self.shutdown_cases with same | same
  · rw [same]
    exact busy
  · simp [same, Busy]

end JobScheduler

end Rsp.Job
