import Mathlib.Data.List.Nodup
import Rsp.Foundation.Transition
import Rsp.Message.QueuedRequests

/-! Runs of the admission registry.

Any number of threads use the registry; its mutex and the atomic tickets make every
operation one step. A ticket is reached through a pointer, so only tickets that exist can
be started or cancelled, while `finish` may be given any pointer.
-/

set_option autoImplicit false

namespace Rsp.Message.QueuedRequests

open Foundation

inductive Op where
  | admitRequest (id : RequestKey) (now : Nat)
  | cancel (id : RequestKey) (now : Nat)
  | finish (id : RequestKey) (request : Ticket) (now : Nat)
  | tryStart (ticket : Ticket)
  | cancelTicket (ticket : Ticket)
  deriving DecidableEq, Repr

def Op.time : Op → Option Nat
  | .admitRequest _ now | .cancel _ now | .finish _ _ now => some now
  | .tryStart _ | .cancelTicket _ => none

def apply (self : QueuedRequests) : Op → QueuedRequests
  | .admitRequest id now => (self.admitRequest id now).1
  | .cancel id now => self.cancel id now
  | .finish id request now => (self.finish id request now).1
  | .tryStart ticket => (self.tryStart ticket).1
  | .cancelTicket ticket => self.cancelTicket ticket

def enabled (self : QueuedRequests) : Op → Bool
  | .tryStart ticket | .cancelTicket ticket => ticket < self.tickets.length
  | _ => true

def step (self : QueuedRequests) (op : Op) : Option QueuedRequests :=
  if self.enabled op then some (self.apply op) else none

abbrev History := List (Transition QueuedRequests Op)

def fresh (capacity retention : Nat) : QueuedRequests := { capacity, retention }

abbrev Reaches (capacity retention : Nat) (history : History) (state : QueuedRequests) : Prop :=
  Run step (fresh capacity retention) history state

def records (self : QueuedRequests) : Op → Option (RequestKey × Nat)
  | .finish id request now => if self.active[id]? = some request then some (id, now) else none
  | .cancel id now =>
      if self.active.contains id || (self.prune now).terminal.contains id then none else some (id, now)
  | _ => none

def finishes (self : QueuedRequests) : Op → Option Ticket
  | .finish id request now => if (self.finish id request now).2 then some request else none
  | _ => none

def issues (self : QueuedRequests) : Op → Option (RequestKey × Ticket)
  | .admitRequest id now => (self.admitRequest id now).2.map (Prod.mk id)
  | _ => none

def starts (self : QueuedRequests) : Op → Option Ticket
  | .tryStart ticket => if (self.tryStart ticket).2 then some ticket else none
  | _ => none

def cancels (self : QueuedRequests) : Op → Option Ticket
  | .cancel id _ => self.active[id]?
  | .cancelTicket ticket => some ticket
  | _ => none

section Steps

variable {self after : QueuedRequests} {op : Op}

theorem apply_of_step (moved : self.step op = some after) : self.enabled op = true ∧ after = self.apply op := by
  simp only [step] at moved
  split at moved
  · next usable =>
    cases moved
    exact ⟨usable, rfl⟩
  · cases moved

/-! ## The terminal records -/

theorem prune_terminal (self : QueuedRequests) (now : Nat) (id : RequestKey) :
    (self.prune now).terminal[id]? = (self.terminal[id]?).filter fun expiry => now < expiry := by
  simp only [prune, Std.ExtTreeMap.getElem?_filter, Option.pfilter_eq_filter]

theorem oldest_least {list : List (RequestKey × Nat)} (some : list ≠ []) :
    ∃ least ∈ list, oldest list = .some least.1 ∧ ∀ entry ∈ list, least.2 ≤ entry.2 := by
  have folded : ∀ (rest : List (RequestKey × Nat)) (first : RequestKey × Nat),
      let least := rest.foldl (fun least entry => if entry.2 < least.2 then entry else least) first
      least ∈ first :: rest ∧ ∀ entry ∈ first :: rest, least.2 ≤ entry.2 := by
    intro rest
    induction rest with
    | nil => simp
    | cons entry rest ih =>
      intro first
      -- The scan goes on with the smaller of the two.
      by_cases smaller : entry.2 < first.2
      · obtain ⟨mem, least⟩ := ih entry
        simp only [List.foldl_cons, smaller, if_true]
        refine ⟨List.mem_cons_of_mem _ mem, fun other here => ?_⟩
        rcases List.mem_cons.mp here with rfl | here
        · exact Nat.le_trans (least entry (List.mem_cons_self ..)) (Nat.le_of_lt smaller)
        · exact least other here
      · obtain ⟨mem, least⟩ := ih first
        simp only [List.foldl_cons, smaller, if_false]
        refine ⟨?_, fun other here => ?_⟩
        · rcases List.mem_cons.mp mem with same | mem
          · rw [same]
            exact List.mem_cons_self ..
          · exact List.mem_cons_of_mem _ (List.mem_cons_of_mem _ mem)
        · rcases List.mem_cons.mp here with rfl | here
          · exact least other (List.mem_cons_self ..)
          · rcases List.mem_cons.mp here with rfl | here
            · exact Nat.le_trans (least first (List.mem_cons_self ..)) (Nat.le_of_not_lt smaller)
            · exact least other (List.mem_cons_of_mem _ here)
  cases list with
  | nil => exact absurd rfl some
  | cons first rest =>
    obtain ⟨mem, least⟩ := folded rest first
    exact ⟨_, mem, rfl, least⟩

/-- What `remember` makes of the records: nothing without capacity; otherwise the new
record goes in, and at capacity one of the smallest expiry goes out. -/
inductive Remembered (capacity : Nat) (terminal : KeyMap Nat) (id : RequestKey) (expiry : Nat) : KeyMap Nat → Prop where
  | dropped (none : capacity = 0) : Remembered capacity terminal id expiry terminal
  | added (room : terminal.size < capacity) : Remembered capacity terminal id expiry (terminal.insert id expiry)
  | evicted {least : RequestKey} {earliest : Nat} (some : 0 < capacity) (full : capacity ≤ terminal.size)
      (found : terminal[least]? = .some earliest)
      (smallest : ∀ (other : RequestKey) (later : Nat), terminal[other]? = .some later → earliest ≤ later) :
      Remembered capacity terminal id expiry ((terminal.erase least).insert id expiry)

theorem remembered (self : QueuedRequests) (id : RequestKey) (now : Nat) :
    Remembered self.capacity self.terminal id (now + self.retention) (self.remember id now).terminal := by
  unfold remember
  by_cases none : self.capacity = 0
  · rw [if_pos none]
    exact .dropped none
  · rw [if_neg none]
    have some : 0 < self.capacity := Nat.pos_of_ne_zero none
    by_cases full : self.capacity ≤ self.terminal.size
    · simp only [full, if_true]
      have entries : self.terminal.toList ≠ [] := by
        apply List.ne_nil_of_length_pos
        rw [Std.ExtTreeMap.length_toList]
        exact Nat.lt_of_lt_of_le some full
      obtain ⟨⟨least, earliest⟩, mem, same, smallest⟩ := oldest_least entries
      rw [same]
      refine .evicted some full (Std.ExtTreeMap.mem_toList_iff_getElem?_eq_some.mp mem) fun other later found => ?_
      exact smallest (other, later) (Std.ExtTreeMap.mem_toList_iff_getElem?_eq_some.mpr found)
    · simp only [full, if_false]
      exact .added (Nat.lt_of_not_le full)

inductive Terminal (self : QueuedRequests) (op : Op) : KeyMap Nat → Prop where
  | kept (unrecorded : self.records op = none) : Terminal self op self.terminal
  | pruned {now : Nat} (at_time : op.time = some now) (unrecorded : self.records op = none) :
      Terminal self op (self.prune now).terminal
  | recorded {id : RequestKey} {now : Nat} {terminal : KeyMap Nat} (at_time : op.time = some now)
      (made : self.records op = some (id, now))
      (remembered : Remembered self.capacity (self.prune now).terminal id (now + self.retention) terminal) :
      Terminal self op terminal

theorem admitRequest_terminal (self : QueuedRequests) (id : RequestKey) (now : Nat) :
    (self.admitRequest id now).1.terminal = (self.prune now).terminal := by
  simp only [admitRequest]
  split <;> rfl

theorem cancelTicket_terminal (self : QueuedRequests) (ticket : Ticket) :
    (self.cancelTicket ticket).terminal = self.terminal := by
  unfold cancelTicket
  split <;> rfl

theorem terminal_apply (self : QueuedRequests) (op : Op) : Terminal self op (self.apply op).terminal := by
  cases op with
  | admitRequest id now =>
    rw [apply, admitRequest_terminal]
    exact .pruned rfl rfl
  | cancel id now =>
    simp only [apply, cancel, prune_active]
    cases found : self.active[id]? with
    | some ticket =>
      have active : self.active.contains id = true := by
        rw [Std.ExtTreeMap.contains_eq_isSome_getElem?, found]
        rfl
      simp only [cancelTicket_terminal]
      exact .pruned rfl (by simp [records, active])
    | none =>
      have inactive : self.active.contains id = false := by
        rw [Std.ExtTreeMap.contains_eq_isSome_getElem?, found]
        rfl
      simp only
      by_cases recorded : (self.prune now).terminal.contains id = true
      · rw [if_pos recorded]
        exact .pruned rfl (by simp [records, recorded])
      · rw [if_neg recorded]
        exact .recorded rfl (by simp [records, recorded, inactive]) (remembered (self.prune now) id now)
  | finish id request now =>
    by_cases found : self.active[id]? = some request
    · simp only [apply, finish, found, if_true]
      exact .recorded rfl (by simp [records, found])
        (remembered (({ self with active := self.active.erase id } : QueuedRequests).prune now) id now)
    · simp only [apply, finish, found, if_false]
      exact .kept (by simp [records, found])
  | tryStart ticket =>
    have same : (self.tryStart ticket).1.terminal = self.terminal := by
      unfold tryStart
      split <;> rfl
    rw [apply, same]
    exact .kept rfl
  | cancelTicket ticket =>
    rw [apply, cancelTicket_terminal]
    exact .kept rfl

/-! ## The active requests -/

inductive Active (self : QueuedRequests) (op : Op) : KeyMap Ticket → Nat → Prop where
  | kept (unissued : self.issues op = none) (unfinished : self.finishes op = none) :
      Active self op self.active self.tickets.length
  | admitted {id : RequestKey} {now : Nat} (isAdmit : op = .admitRequest id now)
      (issued : self.issues op = some (id, self.tickets.length)) (unfinished : self.finishes op = none)
      (inactive : self.active[id]? = none) (unrecorded : (self.prune now).terminal[id]? = none)
      (room : self.active.size < self.capacity) :
      Active self op (self.active.insert id self.tickets.length) (self.tickets.length + 1)
  | finished {id : RequestKey} {request : Ticket} {now : Nat} (isFinish : op = .finish id request now)
      (unissued : self.issues op = none) (finished : self.finishes op = some request)
      (found : self.active[id]? = some request) : Active self op (self.active.erase id) self.tickets.length

theorem finish_returns (self : QueuedRequests) (id : RequestKey) (request : Ticket) (now : Nat) :
    (self.finish id request now).2 = decide (self.active[id]? = some request) := by
  unfold finish
  split <;> simp [*]

theorem active_apply (self : QueuedRequests) (op : Op) :
    Active self op (self.apply op).active (self.apply op).tickets.length := by
  cases op with
  | admitRequest id now =>
    simp only [apply, admitRequest]
    split
    · next taken => exact .kept (by simp only [issues, admitRequest, if_pos taken, Option.map_none]) rfl
    · next free =>
      have issued : self.issues (.admitRequest id now) = some (id, self.tickets.length) := by
        simp only [issues, admitRequest, free]
        rfl
      simp only [Bool.or_eq_true, decide_eq_true_eq, not_or, Nat.not_le] at free
      simp only [prune_tickets, List.length_append, List.length_singleton]
      refine .admitted rfl issued rfl ?_ ?_ free.2
      · simpa using free.1.1
      · simpa using free.1.2
  | cancel id now =>
    rw [apply, cancel_active, cancel_length]
    exact .kept rfl rfl
  | finish id request now =>
    simp only [apply]
    rcases finish_cases self id request now with ⟨found, -, active, tickets⟩ | ⟨absent, same⟩
    · rw [active, tickets]
      exact .finished rfl rfl (by simp [finishes, finish_returns, found]) found
    · rw [same]
      exact .kept rfl (by simp [finishes, finish_returns, absent])
  | tryStart ticket =>
    rw [apply, tryStart_active, tryStart_length]
    exact .kept rfl rfl
  | cancelTicket ticket =>
    have length : (self.cancelTicket ticket).tickets.length = self.tickets.length := by
      unfold cancelTicket
      split <;> simp
    rw [apply, cancelTicket_active, length]
    exact .kept rfl rfl

theorem active_kept (self : QueuedRequests) (op : Op) {id : RequestKey} {ticket : Ticket}
    (found : self.active[id]? = some ticket) :
    (self.apply op).active[id]? = some ticket ∨ ∃ now, op = .finish id ticket now := by
  have changed := active_apply self op
  generalize (self.apply op).active = active at changed ⊢
  generalize (self.apply op).tickets.length = made at changed
  cases changed with
  | kept => exact .inl found
  | @admitted key now isAdmit issued unfinished inactive unrecorded room =>
    refine .inl ?_
    rw [Std.ExtTreeMap.getElem?_insert]
    split
    · next same =>
      cases Std.LawfulEqCmp.compare_eq_iff_eq.mp same
      cases found.symm.trans inactive
    · exact found
  | @finished key request now isFinish unissued finished mine =>
    rw [Std.ExtTreeMap.getElem?_erase]
    split
    · next same =>
      cases Std.LawfulEqCmp.compare_eq_iff_eq.mp same
      cases found.symm.trans mine
      exact .inr ⟨now, isFinish⟩
    · exact .inl found

end Steps

/-! ## The invariant -/

def finished (history : History) : List Ticket := history.filterMap fun move => move.before.finishes move.label

def issued (history : History) : List (RequestKey × Ticket) := history.filterMap fun move => move.before.issues move.label

structure Sound (capacity retention : Nat) (history : History) (table : QueuedRequests) : Prop where
  bounded : table.capacity = capacity
  retains : table.retention = retention
  disjoint : ∀ (id : RequestKey) (ticket : Ticket), table.active[id]? = some ticket → table.terminal[id]? = none
  activeSize : table.active.size ≤ capacity
  terminalSize : table.terminal.size ≤ capacity
  issued : ∀ (id : RequestKey) (ticket : Ticket), table.active[id]? = some ticket → (id, ticket) ∈ issued history
  unfinished : ∀ (id : RequestKey) (ticket : Ticket), table.active[id]? = some ticket → ticket ∉ finished history
  known : ∀ entry ∈ QueuedRequests.issued history, entry.2 < table.tickets.length
  once : ((QueuedRequests.issued history).map Prod.snd).Nodup
  ended : (finished history).Nodup
  ending : ∀ ticket ∈ finished history, ticket < table.tickets.length

section Sound

variable {capacity retention : Nat} {history : History} {self after : QueuedRequests} {op : Op}

theorem finished_concat (history : History) (move : Transition QueuedRequests Op) :
    finished (history ++ [move]) = finished history ++ (move.before.finishes move.label).toList :=
  filterMap_concat ..

theorem issued_concat (history : History) (move : Transition QueuedRequests Op) :
    issued (history ++ [move]) = issued history ++ (move.before.issues move.label).toList :=
  filterMap_concat ..

theorem constants_apply (self : QueuedRequests) (op : Op) :
    (self.apply op).capacity = self.capacity ∧ (self.apply op).retention = self.retention := by
  have remembers : ∀ (table : QueuedRequests) (id : RequestKey) (now : Nat),
      (table.remember id now).capacity = table.capacity ∧ (table.remember id now).retention = table.retention := by
    intro table id now
    unfold remember
    split <;> exact ⟨rfl, rfl⟩
  have cancels : ∀ (table : QueuedRequests) (ticket : Ticket),
      (table.cancelTicket ticket).capacity = table.capacity ∧ (table.cancelTicket ticket).retention = table.retention := by
    intro table ticket
    unfold cancelTicket
    split <;> exact ⟨rfl, rfl⟩
  cases op with
  | admitRequest id now =>
    simp only [apply, admitRequest]
    split <;> exact ⟨rfl, rfl⟩
  | cancel id now =>
    simp only [apply, cancel]
    split
    · exact cancels ..
    · split
      · exact ⟨rfl, rfl⟩
      · exact remembers ..
  | finish id request now =>
    simp only [apply, finish]
    split
    · exact remembers ..
    · exact ⟨rfl, rfl⟩
  | tryStart ticket =>
    simp only [apply, tryStart]
    split <;> exact ⟨rfl, rfl⟩
  | cancelTicket ticket => exact cancels ..

theorem prune_size (self : QueuedRequests) (now : Nat) : (self.prune now).terminal.size ≤ self.terminal.size :=
  Std.ExtTreeMap.size_filter_le_size

theorem remembered_size {terminal result : KeyMap Nat} {id : RequestKey} {expiry : Nat}
    (remembered : Remembered capacity terminal id expiry result) (size : terminal.size ≤ capacity) :
    result.size ≤ capacity := by
  cases remembered with
  | dropped none => exact size
  | added room => exact Nat.le_trans Std.ExtTreeMap.size_insert_le room
  | @evicted least earliest some full found smallest =>
    have present : terminal.contains least = true := by
      rw [Std.ExtTreeMap.contains_eq_isSome_getElem?, found]
      rfl
    have smaller : (terminal.erase least).size = terminal.size - 1 := by
      rw [Std.ExtTreeMap.size_erase, if_pos present]
    have larger : ((terminal.erase least).insert id expiry).size ≤ (terminal.erase least).size + 1 :=
      Std.ExtTreeMap.size_insert_le
    omega

theorem remembered_get {terminal result : KeyMap Nat} {id other : RequestKey} {expiry later : Nat}
    (remembered : Remembered capacity terminal id expiry result) (found : result[other]? = some later) :
    (other = id ∧ later = expiry) ∨ terminal[other]? = some later := by
  cases remembered with
  | dropped none => exact .inr found
  | added room =>
    rw [Std.ExtTreeMap.getElem?_insert] at found
    split at found
    · next same =>
      cases found
      exact .inl ⟨(Std.LawfulEqCmp.compare_eq_iff_eq.mp same).symm, rfl⟩
    · exact .inr found
  | evicted some full found' smallest =>
    rw [Std.ExtTreeMap.getElem?_insert] at found
    split at found
    · next same =>
      cases found
      exact .inl ⟨(Std.LawfulEqCmp.compare_eq_iff_eq.mp same).symm, rfl⟩
    · rw [Std.ExtTreeMap.getElem?_erase] at found
      split at found
      · cases found
      · exact .inr found

theorem prune_get {now expiry : Nat} {id : RequestKey} (found : (self.prune now).terminal[id]? = some expiry) :
    self.terminal[id]? = some expiry ∧ now < expiry := by
  rw [prune_terminal, Option.filter_eq_some_iff] at found
  exact ⟨found.1, by simpa using found.2⟩

theorem terminal_get (terminal : KeyMap Nat) (changed : Terminal self op terminal) {id : RequestKey} {expiry : Nat}
    (found : terminal[id]? = some expiry) :
    self.terminal[id]? = some expiry ∨
      ∃ now, self.records op = some (id, now) ∧ expiry = now + self.retention := by
  cases changed with
  | kept unrecorded => exact .inl found
  | pruned at_time unrecorded => exact .inl (prune_get found).1
  | @recorded key now terminal at_time made remembered =>
    rcases remembered_get remembered found with ⟨rfl, rfl⟩ | found
    · exact .inr ⟨now, made, rfl⟩
    · exact .inl (prune_get found).1

theorem records_fresh (sound : Sound capacity retention history self) {id : RequestKey} {now : Nat}
    (made : self.records op = some (id, now)) : (self.prune now).terminal[id]? = none := by
  cases op with
  | finish key request time =>
    simp only [records] at made
    split at made
    · next found =>
      cases made
      rw [prune_terminal, sound.disjoint id request found]
      rfl
    · cases made
  | cancel key time =>
    simp only [records] at made
    split at made
    · cases made
    · next free =>
      cases made
      simp only [Bool.or_eq_true, not_or] at free
      simpa using free.2
  | admitRequest | tryStart | cancelTicket => cases made

theorem records_inactive {id : RequestKey} {now : Nat}
    (made : self.records op = some (id, now)) : (self.apply op).active[id]? = none := by
  cases op with
  | finish key request time =>
    simp only [records] at made
    split at made
    · next found =>
      cases made
      rcases finish_cases self id request now with ⟨-, -, active, -⟩ | ⟨absent, -⟩
      · rw [apply, active]
        exact Std.ExtTreeMap.getElem?_erase_self
      · exact absurd found absent
    · cases made
  | cancel key time =>
    simp only [records] at made
    split at made
    · cases made
    · next free =>
      cases made
      simp only [Bool.or_eq_true, not_or] at free
      rw [apply, cancel_active]
      simpa using free.1
  | admitRequest | tryStart | cancelTicket => cases made

/-- While a record exists its expiry stays as it is. Once it has expired, a cancel replaces it. -/
theorem expiry_kept (sound : Sound capacity retention history self) (op : Op) {id : RequestKey} {expiry : Nat}
    (found : self.terminal[id]? = some expiry) :
    (self.apply op).terminal[id]? = some expiry ∨ (self.apply op).terminal[id]? = none ∨
      ∃ now, op = .cancel id now ∧ expiry ≤ now := by
  cases stored : (self.apply op).terminal[id]? with
  | none => exact .inr (.inl rfl)
  | some later =>
    rcases terminal_get _ (terminal_apply self op) stored with same | ⟨now, made, -⟩
    · exact .inl (found.symm.trans same ▸ rfl)
    · have gone := records_fresh sound made
      rw [prune_terminal, found, Option.filter_some] at gone
      have expired : expiry ≤ now := by
        by_contra fresh
        simp [Nat.lt_of_not_le fresh] at gone
      refine .inr (.inr ⟨now, ?_, expired⟩)
      cases op with
      | finish key request time =>
        simp only [records] at made
        split at made
        · next active =>
          cases made
          cases (sound.disjoint id request active).symm.trans found
        · cases made
      | cancel key time =>
        simp only [records] at made
        split at made
        · cases made
        · cases made
          rfl
      | admitRequest | tryStart | cancelTicket => cases made

theorem active_get {active : KeyMap Ticket} {made : Nat} (changed : Active self op active made) {id : RequestKey}
    {ticket : Ticket} (found : active[id]? = some ticket) :
    (self.active[id]? = some ticket ∧ self.finishes op ≠ some ticket ∨
      self.issues op = some (id, ticket) ∧ ∃ now, op = .admitRequest id now ∧ (self.prune now).terminal[id]? = none) ∨
    ∃ other, other ≠ id ∧ self.active[id]? = some ticket ∧ self.active[other]? = some ticket := by
  cases changed with
  | kept unissued unfinished => exact .inl (.inl ⟨found, by simp [unfinished]⟩)
  | @admitted key now isAdmit issued unfinished inactive unrecorded room =>
    rw [Std.ExtTreeMap.getElem?_insert] at found
    split at found
    · next same =>
      cases Std.LawfulEqCmp.compare_eq_iff_eq.mp same
      cases found
      exact .inl (.inr ⟨issued, now, isAdmit, unrecorded⟩)
    · exact .inl (.inl ⟨found, by simp [unfinished]⟩)
  | @finished key request now isFinish unissued finished mine =>
    rw [Std.ExtTreeMap.getElem?_erase] at found
    split at found
    · cases found
    · next different =>
      by_cases same : request = ticket
      · subst same
        refine .inr ⟨key, ?_, found, mine⟩
        rintro rfl
        exact different Std.ReflCmp.compare_self
      · exact .inl (.inl ⟨found, by simpa [finished] using same⟩)

theorem active_size {active : KeyMap Ticket} {made : Nat} (changed : Active self op active made)
    (size : self.active.size ≤ self.capacity) : active.size ≤ self.capacity := by
  cases changed with
  | kept => exact size
  | admitted isAdmit issued unfinished inactive unrecorded room =>
    exact Nat.le_trans Std.ExtTreeMap.size_insert_le room
  | finished => exact Nat.le_trans Std.ExtTreeMap.size_erase_le size

theorem terminal_size (terminal : KeyMap Nat) (changed : Terminal self op terminal)
    (size : self.terminal.size ≤ self.capacity) : terminal.size ≤ self.capacity := by
  cases changed with
  | kept unrecorded => exact size
  | pruned at_time unrecorded => exact Nat.le_trans (prune_size ..) size
  | recorded at_time made remembered => exact remembered_size remembered (Nat.le_trans (prune_size ..) size)

theorem Sound.separate (sound : Sound capacity retention history self) {first second : RequestKey} {ticket : Ticket}
    (mine : self.active[first]? = some ticket) (other : self.active[second]? = some ticket) : first = second := by
  have same := List.inj_on_of_nodup_map sound.once (sound.issued first ticket mine) (sound.issued second ticket other) rfl
  exact congrArg Prod.fst same

theorem issues_next {active : KeyMap Ticket} {made : Nat} (changed : Active self op active made) :
    self.tickets.length ≤ made ∧
      ∀ entry, self.issues op = some entry → entry.2 = self.tickets.length ∧ made = self.tickets.length + 1 := by
  cases changed with
  | kept unissued | finished isFinish unissued =>
    exact ⟨Nat.le_refl _, fun entry issued => by simp [unissued] at issued⟩
  | admitted isAdmit next =>
    refine ⟨Nat.le_succ _, fun entry issued => ?_⟩
    cases next.symm.trans issued
    exact ⟨rfl, rfl⟩

theorem finishes_active {ticket : Ticket} (finishes : self.finishes op = some ticket) :
    ∃ id : RequestKey, self.active[id]? = some ticket := by
  cases op with
  | finish id request now =>
    simp only [QueuedRequests.finishes, finish_returns, decide_eq_true_eq] at finishes
    split at finishes
    · next found =>
      cases finishes
      exact ⟨id, found⟩
    · cases finishes
  | admitRequest | cancel | tryStart | cancelTicket => cases finishes

theorem sound_step (sound : Sound capacity retention history self) (moved : self.step op = some after) :
    Sound capacity retention (history ++ [⟨self, op, after⟩]) after := by
  obtain ⟨-, rfl⟩ := apply_of_step moved
  obtain ⟨sameCapacity, sameRetention⟩ := constants_apply self op
  have changed := active_apply self op
  -- an entry is active because it was before or because it was just admitted
  have before : ∀ {id : RequestKey} {ticket : Ticket}, (self.apply op).active[id]? = some ticket →
      self.active[id]? = some ticket ∧ self.finishes op ≠ some ticket ∨
        self.issues op = some (id, ticket) ∧ ∃ now, op = .admitRequest id now ∧ (self.prune now).terminal[id]? = none := by
    intro id ticket found
    rcases active_get changed found with cases | ⟨other, different, mine, shared⟩
    · exact cases
    · exact absurd (sound.separate shared mine) different
  constructor
  case bounded => rw [sameCapacity, sound.bounded]
  case retains => rw [sameRetention, sound.retains]
  case activeSize =>
    rw [← sound.bounded]
    exact active_size changed (sound.bounded ▸ sound.activeSize)
  case terminalSize =>
    rw [← sound.bounded]
    exact terminal_size _ (terminal_apply self op) (sound.bounded ▸ sound.terminalSize)
  case disjoint =>
    intro id ticket found
    by_contra recorded
    obtain ⟨expiry, stored⟩ := Option.ne_none_iff_exists'.mp recorded
    rcases terminal_get _ (terminal_apply self op) stored with old | ⟨now, made, -⟩
    · rcases before found with ⟨active, -⟩ | ⟨-, now, rfl, free⟩
      · cases (sound.disjoint id ticket active).symm.trans old
      · rw [apply, admitRequest_terminal, free] at stored
        cases stored
    · cases (records_inactive made).symm.trans found
  case issued =>
    intro id ticket found
    rw [issued_concat]
    rcases before found with ⟨active, -⟩ | ⟨made, -⟩
    · exact List.mem_append_left _ (sound.issued id ticket active)
    · exact List.mem_append_right _ (Option.mem_toList.mpr made)
  case unfinished =>
    intro id ticket found
    rw [finished_concat, List.mem_append, not_or]
    rcases before found with ⟨active, live⟩ | ⟨made, now, rfl, -⟩
    · exact ⟨sound.unfinished id ticket active, fun mem => live (Option.mem_toList.mp mem)⟩
    · refine ⟨fun mem => ?_, by simp [finishes]⟩
      have fresh : ticket = self.tickets.length := ((issues_next changed).2 _ made).1
      exact absurd (sound.ending ticket mem) (by rw [fresh]; exact Nat.lt_irrefl _)
  case known =>
    intro entry mem
    rw [issued_concat, List.mem_append, Option.mem_toList] at mem
    rcases mem with mem | made
    · exact Nat.lt_of_lt_of_le (sound.known entry mem) (issues_next changed).1
    · obtain ⟨fresh, grown⟩ := (issues_next changed).2 entry made
      rw [fresh, grown]
      exact Nat.lt_succ_self _
  case once =>
    rw [issued_concat, List.map_append]
    cases made : self.issues op with
    | none => simpa using sound.once
    | some entry =>
      -- a new ticket has the next number, which none before had
      have fresh := ((issues_next changed).2 entry made).1
      apply List.nodup_append.mpr
      refine ⟨sound.once, by simp, fun ticket mem other here => ?_⟩
      obtain ⟨old, known, rfl⟩ := List.mem_map.mp mem
      have same : other = entry.2 := by simpa using here
      rw [same, fresh]
      exact Nat.ne_of_lt (sound.known old known)
  case ended =>
    rw [finished_concat]
    cases done : self.finishes op with
    | none => simpa using sound.ended
    | some ticket =>
      obtain ⟨id, active⟩ := finishes_active done
      apply List.nodup_append.mpr
      refine ⟨sound.ended, by simp, fun other mem again here => ?_⟩
      have same : again = ticket := by simpa using here
      rw [same]
      rintro rfl
      exact sound.unfinished id other active mem
  case ending =>
    intro ticket mem
    rw [finished_concat, List.mem_append, Option.mem_toList] at mem
    refine Nat.lt_of_lt_of_le ?_ (issues_next changed).1
    rcases mem with mem | done
    · exact sound.ending ticket mem
    · obtain ⟨id, active⟩ := finishes_active done
      exact sound.known _ (sound.issued id ticket active)

theorem sound_reached (run : Reaches capacity retention history self) : Sound capacity retention history self := by
  apply run.history (Sound capacity retention)
  · constructor <;> simp [fresh, issued, finished]
  · exact fun past move reached sound moved mem => sound_step sound moved

/-! ## The tickets -/

theorem starts_tryStart (self : QueuedRequests) (ticket : Ticket) :
    self.starts (.tryStart ticket) = if self.state ticket = some .kQueued then some ticket else none := by
  by_cases queued : self.state ticket = some .kQueued <;> simp [starts, tryStart, queued]

/-- A ticket leaves the queued state once, by the first start or cancel that reaches it. -/
theorem state_apply (self : QueuedRequests) (op : Op) {ticket : Ticket} (known : ticket < self.tickets.length) :
    (self.apply op).state ticket =
      if self.state ticket = some .kQueued then
        if self.starts op = some ticket then some .kStarted
        else if self.cancels op = some ticket then some .kCancelled
        else some .kQueued
      else self.state ticket := by
  cases op with
  | admitRequest id now =>
    have same : (self.apply (.admitRequest id now)).state ticket = self.state ticket := by
      simp only [apply, state]
      rcases admitRequest_cases self id now with ⟨-, -, tickets⟩ | ⟨-, -, -, tickets⟩
      · rw [tickets]
      · rw [tickets, List.getElem?_append_left known]
    rw [same]
    simp only [starts, cancels]
    split <;> simp_all
  | cancel id now =>
    rw [apply, cancel_state]
    simp only [starts, cancels]
    by_cases queued : self.state ticket = some .kQueued
    · by_cases mine : self.active[id]? = some ticket <;> simp [queued, mine]
    · simp [queued]
  | finish id request now =>
    have same : (self.apply (.finish id request now)).state ticket = self.state ticket := by
      simp only [apply, state]
      rcases finish_cases self id request now with ⟨-, -, -, tickets⟩ | ⟨-, unchanged⟩
      · rw [tickets]
      · rw [unchanged]
    rw [same]
    simp only [starts, cancels]
    split <;> simp_all
  | tryStart other =>
    rw [apply, tryStart_state, starts_tryStart]
    simp only [cancels]
    by_cases mine : other = ticket
    · subst mine
      by_cases queued : self.state other = some .kQueued <;> simp [queued]
    · by_cases queued : self.state ticket = some .kQueued <;> simp [queued, mine]
  | cancelTicket other =>
    rw [apply, cancelTicket_state]
    simp only [starts, cancels]
    by_cases mine : other = ticket
    · subst mine
      by_cases queued : self.state other = some .kQueued <;> simp [queued]
    · by_cases queued : self.state ticket = some .kQueued <;> simp [queued, mine]

theorem starts_queued {ticket : Ticket} (started : self.starts op = some ticket) :
    self.state ticket = some .kQueued := by
  cases op with
  | tryStart other =>
    rw [starts_tryStart] at started
    split at started
    · next queued =>
      cases started
      exact queued
    · cases started
  | admitRequest | cancel | finish | cancelTicket => cases started

theorem known_of_state {ticket : Ticket} {now : TicketState} (found : self.state ticket = some now) :
    ticket < self.tickets.length :=
  (List.getElem?_eq_some_iff.mp found).1

/-- A ticket that has left the queued state stays as it is, and no start of it succeeds. -/
theorem settled_run {ticket : Ticket} {settled : TicketState} (run : Run step self history after)
    (left : settled ≠ .kQueued) (found : self.state ticket = some settled) :
    after.state ticket = some settled ∧ ∀ move ∈ history, move.before.starts move.label ≠ some ticket := by
  apply run.history fun past table => table.state ticket = some settled ∧
    ∀ move ∈ past, move.before.starts move.label ≠ some ticket
  · exact ⟨found, by simp⟩
  · intro past move reached ⟨here, unstarted⟩ moved mem
    obtain ⟨-, same⟩ := apply_of_step moved
    have unqueued : move.before.state ticket ≠ some .kQueued := by simpa [here] using left
    constructor
    · rw [same, state_apply _ _ (known_of_state here), if_neg unqueued, here]
    · intro other mem
      rcases List.mem_append.mp mem with mem | mem
      · exact unstarted other mem
      · cases List.mem_singleton.mp mem
        exact fun started => unqueued (starts_queued started)

theorem cancels_settles {ticket : Ticket} (sound : Sound capacity retention history self)
    (moved : self.step op = some after) (cancelled : self.cancels op = some ticket)
    (unstarted : self.started ticket = false) : after.state ticket = some .kCancelled := by
  obtain ⟨usable, rfl⟩ := apply_of_step moved
  have known : ticket < self.tickets.length := by
    cases op with
    | cancel id now => exact sound.known (id, ticket) (sound.issued id ticket cancelled)
    | cancelTicket other =>
      cases cancelled
      simpa [enabled] using usable
    | admitRequest | finish | tryStart => cases cancelled
  have inert : self.starts op = none := by
    cases op with
    | tryStart => cases cancelled
    | admitRequest | cancel | finish | cancelTicket => rfl
  rw [state_apply _ _ known]
  cases found : self.state ticket with
  | none =>
    rw [state, List.getElem?_eq_none_iff] at found
    exact absurd known (Nat.not_lt.mpr found)
  | some now =>
    cases now with
    | kQueued => simp [inert, cancelled]
    | kStarted => simp [started, found] at unstarted
    | kCancelled => rfl

/-- The registry along any run, at whatever times its operations are called. An expired
record gives way to the record of the cancel that found it expired. -/
theorem registry_invariant (run : Reaches capacity retention history self) :
    (∀ id, id ∈ self.active → id ∉ self.terminal) ∧
    self.active.size ≤ capacity ∧ self.terminal.size ≤ capacity ∧
    (∀ (op : Op) (id : RequestKey) (ticket : Ticket), self.active[id]? = some ticket →
      (self.apply op).active[id]? = some ticket ∨ ∃ now, op = .finish id ticket now) ∧
    (finished history).Nodup ∧
    (∀ (id : RequestKey) (ticket : Ticket) (now : Nat),
      (self.finish id ticket now).2 = false → (self.finish id ticket now).1 = self) ∧
    (∀ (op : Op) (id : RequestKey) (expiry : Nat), self.terminal[id]? = some expiry →
      (self.apply op).terminal[id]? = some expiry ∨ (self.apply op).terminal[id]? = none ∨
        ∃ now, op = .cancel id now ∧ expiry ≤ now) ∧
    (∀ (past later : History) (move : Transition QueuedRequests Op) (ticket : Ticket),
      history = past ++ move :: later → move.before.starts move.label = some ticket →
        self.started ticket = true) ∧
    (∀ (past later : History) (move : Transition QueuedRequests Op) (ticket : Ticket),
      history = past ++ move :: later → move.before.cancels move.label = some ticket →
        move.before.started ticket = false →
          self.started ticket = false ∧ ∀ next ∈ later, next.before.starts next.label ≠ some ticket) := by
  have sound := sound_reached run
  refine ⟨?_, sound.activeSize, sound.terminalSize, fun op id ticket found => active_kept self op found, sound.ended,
    ?_, fun op id expiry found => expiry_kept sound op found, ?_, ?_⟩
  · intro id active
    rw [Std.ExtTreeMap.mem_iff_isSome_getElem?, Option.isSome_iff_exists] at active
    obtain ⟨ticket, found⟩ := active
    rw [Std.ExtTreeMap.mem_iff_isSome_getElem?, sound.disjoint id ticket found]
    exact Bool.false_ne_true
  · intro id ticket now refused
    rcases finish_cases self id ticket now with ⟨-, done, -⟩ | ⟨-, same⟩
    · cases refused.symm.trans done
    · rw [same]
  · -- a ticket that has left the queued state stays as it is for the rest of the run
    intro past later move ticket cut starts
    obtain ⟨-, moved, rest⟩ := run.split cut
    obtain ⟨-, same⟩ := apply_of_step moved
    have queued := starts_queued starts
    have started : move.after.state ticket = some .kStarted := by
      rw [same, state_apply _ _ (known_of_state queued), if_pos queued, if_pos starts]
    have still := (settled_run rest (by decide) started).1
    rw [QueuedRequests.started, still]
    rfl
  · intro past later move ticket cut cancels unstarted
    obtain ⟨reached, moved, rest⟩ := run.split cut
    have cancelled := cancels_settles (sound_reached reached) moved cancels unstarted
    obtain ⟨still, never⟩ := settled_run rest (by decide) cancelled
    refine ⟨?_, never⟩
    rw [QueuedRequests.started, still]
    rfl

end Sound

def reused : List Op :=
  [.admitRequest ("route", 1) 0, .tryStart 0, .finish ("route", 1) 0 5, .admitRequest ("route", 1) 9, .finish ("route", 1) 0 9,
    .cancel ("route", 1) 3, .tryStart 1]

theorem registry_invariant_reused :
    (finished (transitions step (fresh 4 2) reused)).Nodup ∧
      (final step (fresh 4 2) reused).started 0 = true := by
  have run : Reaches 4 2 (transitions step (fresh 4 2) reused) (final step (fresh 4 2) reused) :=
    run_of_enabled (by decide +kernel)
  exact ⟨(registry_invariant run).2.2.2.2.1, by decide +kernel⟩

end Rsp.Message.QueuedRequests
