import Std.Data.ExtTreeMap
import Mathlib.Algebra.Group.Nat.Defs
import Mathlib.Data.Prod.Lex
import Mathlib.Data.List.Basic

/-! The admission registry `queued_requests` with its shared tickets.

A ticket is an object behind a `shared_ptr`: it is represented by its position among
the tickets ever made, so that two admissions of one key stay distinct.
-/

set_option autoImplicit false

namespace Rsp.Message

/-- The routing identity a request arrived from and its internal id. -/
abbrev RequestKey := String × Nat

abbrev KeyMap (Value : Type) := Std.ExtTreeMap RequestKey Value (lexOrd : Ord RequestKey).compare

inductive TicketState where
  | kQueued
  | kStarted
  | kCancelled
  deriving DecidableEq, Repr

abbrev Ticket := Nat

structure QueuedRequests where
  capacity : Nat := 4096
  retention : Nat := 30 * 10 ^ 9
  active : KeyMap Ticket := ∅
  terminal : KeyMap Nat := ∅
  tickets : List TicketState := []

namespace QueuedRequests

/-! ## Tickets -/

def state (self : QueuedRequests) (ticket : Ticket) : Option TicketState := self.tickets[ticket]?

/-- `ticket::try_start`: the exchange succeeds only on a queued ticket. -/
def tryStart (self : QueuedRequests) (ticket : Ticket) : QueuedRequests × Bool :=
  if self.state ticket = some .kQueued then ({ self with tickets := self.tickets.set ticket .kStarted }, true)
  else (self, false)

def started (self : QueuedRequests) (ticket : Ticket) : Bool := self.state ticket = some .kStarted

/-- `ticket::cancel`: likewise an exchange from the queued state. -/
def cancelTicket (self : QueuedRequests) (ticket : Ticket) : QueuedRequests :=
  if self.state ticket = some .kQueued then { self with tickets := self.tickets.set ticket .kCancelled }
  else self

/-! ## Registry -/

def prune (self : QueuedRequests) (now : Nat) : QueuedRequests :=
  { self with terminal := self.terminal.filter fun _ expiry => now < expiry }

/-- `std::min_element` by expiry: the first of the smallest in key order. -/
def oldest : List (RequestKey × Nat) → Option RequestKey
  | [] => none
  | first :: rest => some (rest.foldl (fun least entry => if entry.2 < least.2 then entry else least) first).1

def remember (self : QueuedRequests) (id : RequestKey) (now : Nat) : QueuedRequests :=
  if self.capacity = 0 then self
  else
    let terminal :=
      if self.capacity ≤ self.terminal.size then
        match oldest self.terminal.toList with
        | some least => self.terminal.erase least
        | none => self.terminal
      else self.terminal
    { self with terminal := terminal.insert id (now + self.retention) }

def admitRequest (self : QueuedRequests) (id : RequestKey) (now : Nat) : QueuedRequests × Option Ticket :=
  let self := self.prune now
  if self.active.contains id || self.terminal.contains id || self.capacity ≤ self.active.size then (self, none)
  else
    let request := self.tickets.length
    ({ self with active := self.active.insert id request, tickets := self.tickets ++ [.kQueued] }, some request)

def cancel (self : QueuedRequests) (id : RequestKey) (now : Nat) : QueuedRequests :=
  let self := self.prune now
  match self.active[id]? with
  | some found => self.cancelTicket found
  | none => if self.terminal.contains id then self else self.remember id now

def finish (self : QueuedRequests) (id : RequestKey) (request : Ticket) (now : Nat) : QueuedRequests × Bool :=
  if self.active[id]? = some request then
    ((({ self with active := self.active.erase id } : QueuedRequests).prune now).remember id now, true)
  else (self, false)

/-! ## What the operations touch -/

@[simp] theorem prune_active (self : QueuedRequests) (now : Nat) : (self.prune now).active = self.active := rfl

@[simp] theorem prune_tickets (self : QueuedRequests) (now : Nat) : (self.prune now).tickets = self.tickets := rfl

@[simp] theorem remember_active (self : QueuedRequests) (id : RequestKey) (now : Nat) :
    (self.remember id now).active = self.active := by
  unfold remember
  split <;> rfl

@[simp] theorem remember_tickets (self : QueuedRequests) (id : RequestKey) (now : Nat) :
    (self.remember id now).tickets = self.tickets := by
  unfold remember
  split <;> rfl

@[simp] theorem tryStart_active (self : QueuedRequests) (ticket : Ticket) :
    (self.tryStart ticket).1.active = self.active := by
  unfold tryStart
  split <;> rfl

@[simp] theorem cancelTicket_active (self : QueuedRequests) (ticket : Ticket) :
    (self.cancelTicket ticket).active = self.active := by
  unfold cancelTicket
  split <;> rfl

@[simp] theorem cancel_active (self : QueuedRequests) (id : RequestKey) (now : Nat) :
    (self.cancel id now).active = self.active := by
  simp only [cancel]
  split
  · simp
  · split <;> simp

theorem tryStart_length (self : QueuedRequests) (ticket : Ticket) :
    (self.tryStart ticket).1.tickets.length = self.tickets.length := by
  unfold tryStart
  split <;> simp

theorem cancel_length (self : QueuedRequests) (id : RequestKey) (now : Nat) :
    (self.cancel id now).tickets.length = self.tickets.length := by
  simp only [cancel]
  split
  · simp only [cancelTicket]
    split <;> simp
  · split <;> simp

theorem admitRequest_cases (self : QueuedRequests) (id : RequestKey) (now : Nat) :
    ((self.admitRequest id now).2 = none ∧ (self.admitRequest id now).1.active = self.active ∧
      (self.admitRequest id now).1.tickets = self.tickets) ∨
    ((self.admitRequest id now).2 = some self.tickets.length ∧ self.active[id]? = none ∧
      (self.admitRequest id now).1.active = self.active.insert id self.tickets.length ∧
      (self.admitRequest id now).1.tickets = self.tickets ++ [.kQueued]) := by
  simp only [admitRequest]
  split
  · exact .inl ⟨rfl, rfl, rfl⟩
  · next free =>
    simp only [Bool.or_eq_true, not_or, prune_active] at free
    refine .inr ⟨rfl, ?_, rfl, rfl⟩
    simpa using free.1.1

theorem finish_cases (self : QueuedRequests) (id : RequestKey) (request : Ticket) (now : Nat) :
    (self.active[id]? = some request ∧ (self.finish id request now).2 = true ∧
      (self.finish id request now).1.active = self.active.erase id ∧
      (self.finish id request now).1.tickets = self.tickets) ∨
    (self.active[id]? ≠ some request ∧ self.finish id request now = (self, false)) := by
  unfold finish
  split
  · next found => exact .inl ⟨found, rfl, by simp, by simp⟩
  · next absent => exact .inr ⟨absent, rfl⟩

theorem tryStart_state (self : QueuedRequests) (ticket other : Ticket) :
    (self.tryStart ticket).1.state other =
      if ticket = other ∧ self.state ticket = some .kQueued then some .kStarted else self.state other := by
  unfold tryStart state
  by_cases queued : self.tickets[ticket]? = some .kQueued
  · have bound : ticket < self.tickets.length := (List.getElem?_eq_some_iff.mp queued).1
    by_cases same : ticket = other
    · subst same
      simp only [queued, if_true, and_self, List.getElem?_set_self bound]
    · simp [queued, same]
  · simp [queued]

theorem cancelTicket_state (self : QueuedRequests) (ticket other : Ticket) :
    (self.cancelTicket ticket).state other =
      if ticket = other ∧ self.state ticket = some .kQueued then some .kCancelled else self.state other := by
  unfold cancelTicket state
  by_cases queued : self.tickets[ticket]? = some .kQueued
  · have bound : ticket < self.tickets.length := (List.getElem?_eq_some_iff.mp queued).1
    by_cases same : ticket = other
    · subst same
      simp only [queued, if_true, and_self, List.getElem?_set_self bound]
    · simp [queued, same]
  · simp [queued]

/-- A cancel reaches a ticket only through its active key, and only while it is queued. -/
theorem cancel_state (self : QueuedRequests) (id : RequestKey) (now : Nat) (ticket : Ticket) :
    (self.cancel id now).state ticket =
      if self.active[id]? = some ticket ∧ self.state ticket = some .kQueued then some .kCancelled
      else self.state ticket := by
  simp only [cancel, prune_active]
  cases found : self.active[id]? with
  | none =>
    have tickets : (if (self.prune now).terminal.contains id then self.prune now
        else (self.prune now).remember id now).tickets = self.tickets := by split <;> simp
    simp only [state, tickets, reduceCtorEq, false_and, if_false]
  | some active =>
    simp only [cancelTicket_state, Option.some.injEq]
    by_cases same : active = ticket
    · subst same
      rfl
    · simp only [same, false_and, if_false]
      rfl

end QueuedRequests

end Rsp.Message
