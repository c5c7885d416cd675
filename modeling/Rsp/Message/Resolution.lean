import Mathlib.Data.List.Nodup
import Rsp.Foundation.Threads
import Rsp.Foundation.Transition
import Rsp.Message.PendingRequests

/-! How every pending request is resolved.

Any number of threads use the registry. An operation takes entries out under the lock and
the thread calls their handlers afterwards, one by one, so that the operations of other
threads come in between. A handler is itself free to call the registry: what a thread
takes out while in a handler it calls before the rest of its batch.
-/

set_option autoImplicit false

namespace Rsp.Message.PendingRequests

open Foundation

inductive Call (Target Response : Type) where
  | onResponse (id : Nat) (target : Target) (response : Response)
  | onTimeout (id : Nat) (target : Target)
  deriving DecidableEq, Repr

def Call.id {Target Response : Type} : Call Target Response → Nat
  | .onResponse id _ _ | .onTimeout id _ => id

inductive Op (Target Response : Type) where
  | add (id : Nat) (target : Target) (deadline : Nat)
  | cancel (id : Nat)
  | complete (thread id : Nat) (response : Response) (now : Nat)
  | expire (thread now : Nat)
  | clear
  | invoke (thread : Nat)
  deriving DecidableEq, Repr

inductive Fate where
  | responded
  | timedOut
  | cancelled
  | cleared
  deriving DecidableEq, Repr

def Fate.called : Fate → Bool
  | .responded | .timedOut => true
  | .cancelled | .cleared => false

variable {Target Response : Type}

def answer (id : Nat) (response : Response) : Resolution Target → Call Target Response
  | .onResponse target => .onResponse id target response
  | .onTimeout target => .onTimeout id target

def calls (self : PendingRequests Target) : Op Target Response → List (Call Target Response)
  | .complete _ id response now => ((self.complete id now).2.map (answer id response)).toList
  | .expire _ now => (self.expire now).2.map fun entry => .onTimeout entry.1 entry.2
  | _ => []

abbrev Callers (Target Response : Type) := Machine (PendingRequests Target) Nat (Call Target Response)

def step (self : Callers Target Response) (op : Op Target Response) : Option (Callers Target Response) :=
  match op with
  | .add id target deadline => some { self with core := self.core.add id target deadline }
  | .cancel id => some { self with core := (self.core.cancel id).1 }
  | .complete thread id _ now =>
      some ⟨(self.core.complete id now).1, (self.core.calls op).map (Prod.mk thread) ++ self.pool⟩
  | .expire thread now => some ⟨(self.core.expire now).1, (self.core.calls op).map (Prod.mk thread) ++ self.pool⟩
  | .clear => some { self with core := self.core.clear }
  | .invoke thread => (Pool.pop thread self.pool).map fun found => { self with pool := found.2 }

abbrev History (Target Response : Type) := List (Transition (Callers Target Response) (Op Target Response))

abbrev Reaches (history : History Target Response) (state : Callers Target Response) : Prop :=
  Run step ⟨{}, []⟩ history state

def Op.adds (id : Nat) : Op Target Response → Option (Pending Target)
  | .add other target deadline => if other = id then some ⟨deadline, target⟩ else none
  | _ => none

def Op.added : Op Target Response → Option Nat
  | .add id _ _ => some id
  | _ => none

def added (history : History Target Response) : List Nat := history.filterMap fun move => move.label.added

def fate (self : PendingRequests Target) (id : Nat) : Op Target Response → Option Fate
  | .cancel other => if other = id ∧ (self.cancel id).2 then some .cancelled else none
  | .complete _ other _ now =>
      if other = id then (self.complete id now).2.map fun
        | .onResponse _ => .responded
        | .onTimeout _ => .timedOut
      else none
  | .expire _ now => if id ∈ (self.expire now).2.map Prod.fst then some .timedOut else none
  | .clear => if (self.find id).isSome then some .cleared else none
  | .add _ _ _ | .invoke _ => none

def fates (history : History Target Response) (id : Nat) : List Fate :=
  history.filterMap fun move => move.before.core.fate id move.label

def invokes (self : Callers Target Response) : Op Target Response → Option (Call Target Response)
  | .invoke thread => (Pool.pop thread self.pool).map Prod.fst
  | _ => none

def invoked (history : History Target Response) : List (Call Target Response) :=
  history.filterMap fun move => invokes move.before move.label

section Steps

variable {self after : Callers Target Response} {op : Op Target Response} {id : Nat} {fate : Fate}

theorem find_clear (self : PendingRequests Target) (id : Nat) : self.clear.find id = none := by
  simp [find, clear]

theorem mem_expired {core : PendingRequests Target} {now : Nat} :
    id ∈ (core.expire now).2.map Prod.fst ↔ ∃ pending, core.find id = some pending ∧ pending.deadline ≤ now := by
  rw [List.mem_map]
  constructor
  · rintro ⟨⟨_, target⟩, mem, rfl⟩
    obtain ⟨deadline, found, late⟩ := mem_expire.mp mem
    exact ⟨_, found, late⟩
  · rintro ⟨⟨deadline, target⟩, found, late⟩
    exact ⟨(id, target), mem_expire.mpr ⟨deadline, found, late⟩, rfl⟩

theorem pending_of_fate {core : PendingRequests Target} (resolved : core.fate id op = some fate) :
    ∃ pending, core.find id = some pending := by
  cases op with
  | cancel other =>
    simp only [PendingRequests.fate, cancel_eq] at resolved
    split at resolved
    · next mine => exact Option.isSome_iff_exists.mp mine.2
    · cases resolved
  | complete thread other response now =>
    simp only [PendingRequests.fate, complete_snd] at resolved
    split at resolved
    · cases found : core.find id with
      | none => simp [found] at resolved
      | some pending => exact ⟨pending, rfl⟩
    · cases resolved
  | expire thread now =>
    simp only [PendingRequests.fate] at resolved
    split at resolved
    · next late =>
      obtain ⟨pending, found, -⟩ := mem_expired.mp late
      exact ⟨pending, found⟩
    · cases resolved
  | clear =>
    simp only [PendingRequests.fate] at resolved
    split at resolved
    · next here => exact Option.isSome_iff_exists.mp here
    · cases resolved
  | add | invoke => cases resolved

/-- An operation takes out what it resolves, adds what it adds and leaves the rest. -/
theorem find_step (moved : step self op = some after) (id : Nat) :
    after.core.find id =
      if (self.core.fate id op).isSome then none else (self.core.find id).or (op.adds id) := by
  cases op with
  | add other target deadline =>
    cases moved
    simp only [PendingRequests.fate, Op.adds, find_add, Option.isSome_none, Bool.false_eq_true, if_false]
    by_cases mine : other = id
    · subst mine
      simp
    · simp [mine]
  | cancel other =>
    cases moved
    simp only [PendingRequests.fate, Op.adds, cancel_eq, find_take, Option.or_none]
    by_cases mine : other = id
    · subst mine
      cases found : self.core.find other <;> simp
    · simp [mine]
  | complete thread other response now =>
    cases moved
    simp only [PendingRequests.fate, Op.adds, complete_fst, complete_snd, find_take, Option.or_none]
    by_cases mine : other = id
    · subst mine
      cases found : self.core.find other <;> simp
    · simp [mine]
  -- a sweep settles just the requests whose deadline has passed
  | expire thread now =>
    cases moved
    simp only [PendingRequests.fate, Op.adds, find_expire, Option.or_none, mem_expired]
    cases found : self.core.find id with
    | none => simp
    | some pending =>
      by_cases late : pending.deadline ≤ now
      · simp [late]
      · simp [late, Nat.lt_of_not_le late]
  | clear =>
    cases moved
    simp only [PendingRequests.fate, Op.adds, find_clear, Option.or_none]
    cases found : self.core.find id <;> simp
  | invoke thread =>
    obtain ⟨found, -, rfl⟩ := Option.map_eq_some_iff.mp moved
    simp [PendingRequests.fate, Op.adds]

/-- One handler is called for a request that is answered or runs out of time, none otherwise. -/
theorem count_calls (core : PendingRequests Target) (op : Op Target Response) (id : Nat) :
    ((core.calls op).map Call.id).count id = (core.fate id op).toList.countP Fate.called := by
  cases op with
  | complete thread other response now =>
    simp only [calls, PendingRequests.fate, complete_snd]
    cases found : core.find other with
    | none =>
      by_cases mine : other = id
      · subst mine
        simp [found]
      · simp [mine]
    | some pending =>
      have same : (answer other response (if pending.deadline ≤ now then Resolution.onTimeout pending.target
          else .onResponse pending.target)).id = other := by split <;> rfl
      by_cases mine : other = id
      · subst mine
        by_cases late : pending.deadline ≤ now <;> simp [found, late, answer, Call.id, Fate.called]
      · simp [mine, same]
  | expire thread now =>
    have ids : ((core.calls (.expire thread now : Op Target Response)).map Call.id) =
        (core.expire now).2.map Prod.fst := by
      simp only [calls, List.map_map]
      rfl
    rw [ids, (expire_nodup core now).count]
    simp only [PendingRequests.fate]
    split <;> simp [Fate.called]
  | cancel | clear =>
    simp only [calls, PendingRequests.fate]
    split <;> simp [Fate.called]
  | add | invoke => simp [calls, PendingRequests.fate]

end Steps

/-! ## Whole runs -/

/-- The operation a handler's call comes from: it took the request out, in time or late. -/
def Sourced (history : History Target Response) : Call Target Response → Prop
  | .onResponse id target response => ∃ move ∈ history, ∃ thread now deadline,
      move.label = .complete thread id response now ∧ move.before.core.find id = some ⟨deadline, target⟩ ∧
        now < deadline
  | .onTimeout id target => ∃ move ∈ history, ∃ thread now deadline,
      ((∃ response, move.label = .complete thread id response now) ∨ move.label = .expire thread now) ∧
        move.before.core.find id = some ⟨deadline, target⟩ ∧ deadline ≤ now

structure Resolved (history : History Target Response) (state : Callers Target Response) : Prop where
  origin : ∀ (id : Nat) (pending : Pending Target), state.core.find id = some pending →
    .add id pending.target pending.deadline ∈ history.map Transition.label
  waiting : ∀ (id : Nat) (pending : Pending Target), state.core.find id = some pending → fates history id = []
  settled : ∀ id ∈ added history, state.core.find id = none → ∃ fate, fates history id = [fate]
  unknown : ∀ id, id ∉ added history → fates history id = []
  counted : ∀ id, (state.pool.map fun entry => entry.2.id).count id + ((invoked history).map Call.id).count id =
    (fates history id).countP Fate.called
  sourced : ∀ call, Waiting state call ∨ call ∈ invoked history → Sourced history call

section Runs

variable {self after : Callers Target Response} {op : Op Target Response} {id : Nat}
variable {history : History Target Response}

theorem fates_concat (history : History Target Response) (move : Transition (Callers Target Response) (Op Target Response))
    (id : Nat) : fates (history ++ [move]) id = fates history id ++ (move.before.core.fate id move.label).toList :=
  filterMap_concat ..

theorem added_concat (history : History Target Response) (move : Transition (Callers Target Response) (Op Target Response)) :
    added (history ++ [move]) = added history ++ move.label.added.toList :=
  filterMap_concat ..

theorem invoked_concat (history : History Target Response)
    (move : Transition (Callers Target Response) (Op Target Response)) :
    invoked (history ++ [move]) = invoked history ++ (invokes move.before move.label).toList :=
  filterMap_concat ..

theorem Sourced.append {call : Call Target Response} (sourced : Sourced history call) (more : History Target Response) :
    Sourced (history ++ more) call := by
  cases call with
  | onResponse | onTimeout =>
    obtain ⟨move, mem, rest⟩ := sourced
    exact ⟨move, List.mem_append_left _ mem, rest⟩

theorem sourced_calls {call : Call Target Response} (mem : call ∈ self.core.calls op) :
    Sourced (history ++ [⟨self, op, after⟩]) call := by
  have last : (⟨self, op, after⟩ : Transition _ _) ∈ history ++ [⟨self, op, after⟩] :=
    List.mem_append_right _ (List.mem_singleton_self ..)
  cases op with
  | complete thread id response now =>
    simp only [calls, Option.mem_toList, complete_snd, Option.map_map, Option.map_eq_some_iff] at mem
    obtain ⟨⟨deadline, target⟩, found, rfl⟩ := mem
    simp only [Function.comp]
    by_cases late : deadline ≤ now
    · rw [if_pos late]
      exact ⟨_, last, thread, now, deadline, .inl ⟨response, rfl⟩, found, late⟩
    · rw [if_neg late]
      exact ⟨_, last, thread, now, deadline, rfl, found, Nat.lt_of_not_le late⟩
  | expire thread now =>
    obtain ⟨⟨id, target⟩, here, rfl⟩ := List.mem_map.mp mem
    obtain ⟨deadline, found, late⟩ := mem_expire.mp here
    exact ⟨_, last, thread, now, deadline, .inr rfl, found, late⟩
  | add | cancel | clear | invoke => cases mem

/-- What an operation leaves to be called, with what it calls itself, is what was left before and what it takes
out. -/
theorem count_step (moved : step self op = some after) (id : Nat) :
    (after.pool.map fun entry => entry.2.id).count id + ((invokes self op).toList.map Call.id).count id =
      (self.pool.map fun entry => entry.2.id).count id + ((self.core.calls op).map Call.id).count id := by
  have pushed : ∀ (thread : Nat) (more : List (Call Target Response)),
      (((more.map (Prod.mk thread)) ++ self.pool).map fun entry => entry.2.id).count id =
        (self.pool.map fun entry => entry.2.id).count id + (more.map Call.id).count id := by
    intro thread more
    rw [List.map_append, List.count_append, List.map_map, Nat.add_comm]
    rfl
  cases op with
  | complete thread | expire thread =>
    cases moved
    simpa [invokes] using pushed thread _
  | invoke thread =>
    obtain ⟨⟨call, rest⟩, popped, rfl⟩ := Option.map_eq_some_iff.mp moved
    obtain ⟨before, later, split, rfl, -⟩ := Pool.pop_eq_some popped
    have first : (invokes self (.invoke thread)).toList = [call] := by simp [invokes, popped]
    rw [first, split]
    simp only [calls, List.map_append, List.map_cons, List.map_nil, List.count_append, List.count_cons, List.count_nil]
    omega
  | add | cancel | clear =>
    cases moved
    rfl

theorem waiting_step (moved : step self op = some after) {call : Call Target Response}
    (waits : Waiting after call ∨ invokes self op = some call) : Waiting self call ∨ call ∈ self.core.calls op := by
  have pushed : ∀ (thread : Nat) (core : PendingRequests Target) (more : List (Call Target Response)),
      Waiting ⟨core, more.map (Prod.mk thread) ++ self.pool⟩ call → Waiting self call ∨ call ∈ more := by
    rintro thread core more ⟨owner, mem⟩
    rcases List.mem_append.mp mem with mem | mem
    · obtain ⟨_, here, same⟩ := List.mem_map.mp mem
      cases same
      exact .inr here
    · exact .inl ⟨owner, mem⟩
  cases op with
  | complete thread | expire thread =>
    cases moved
    exact pushed thread _ _ (waits.resolve_right (by simp [invokes]))
  | invoke thread =>
    obtain ⟨⟨first, rest⟩, popped, rfl⟩ := Option.map_eq_some_iff.mp moved
    obtain ⟨before, later, split, rfl, -⟩ := Pool.pop_eq_some popped
    refine .inl ((waiting_split split call).mpr ?_)
    rcases waits with ⟨owner, mem⟩ | called
    · exact .inr ⟨owner, mem⟩
    · simp only [invokes, popped, Option.map_some, Option.some.injEq] at called
      exact .inl called.symm
  | add | cancel | clear =>
    cases moved
    exact .inl (waits.resolve_right (by simp [invokes]))

theorem adds_eq_some {pending : Pending Target} (adds : op.adds id = some pending) :
    op = .add id pending.target pending.deadline := by
  cases op with
  | add other target deadline =>
    simp only [Op.adds] at adds
    split at adds
    · next same =>
      subst same
      cases adds
      rfl
    · cases adds
  | cancel | complete | expire | clear | invoke => cases adds

theorem added_of_origin {target : Target} {deadline : Nat}
    (mem : .add id target deadline ∈ history.map Transition.label) : id ∈ added history := by
  obtain ⟨move, here, same⟩ := List.mem_map.mp mem
  exact List.mem_filterMap.mpr ⟨move, here, by rw [same]; rfl⟩

theorem resolved_step (resolved : Resolved history self) (moved : step self op = some after)
    (distinct : ∀ id, op.added = some id → id ∉ added history) :
    Resolved (history ++ [⟨self, op, after⟩]) after := by
  have known : ∀ {id : Nat} {pending : Pending Target}, self.core.find id = some pending → id ∈ added history :=
    fun found => added_of_origin (resolved.origin _ _ found)
  -- A request pending now was pending before, or is the one just added.
  have before : ∀ {id : Nat} {pending : Pending Target}, after.core.find id = some pending →
      self.core.fate id op = none ∧ (self.core.find id = some pending ∨ op = .add id pending.target pending.deadline) := by
    intro id pending found
    rw [find_step moved id] at found
    split at found
    · cases found
    · next unresolved =>
      refine ⟨by simpa using unresolved, ?_⟩
      rcases Option.or_eq_some_iff.mp found with old | ⟨-, new⟩
      · exact .inl old
      · exact .inr (adds_eq_some new)
  constructor
  case origin =>
    intro id pending found
    rw [List.map_append]
    rcases (before found).2 with old | rfl
    · exact List.mem_append_left _ (resolved.origin id pending old)
    · exact List.mem_append_right _ (List.mem_singleton_self ..)
  case waiting =>
    intro id pending found
    obtain ⟨unresolved, here⟩ := before found
    rw [fates_concat, unresolved, Option.toList_none, List.append_nil]
    rcases here with old | rfl
    · exact resolved.waiting id pending old
    · exact resolved.unknown id (distinct id rfl)
  case settled =>
    intro id mem gone
    rw [fates_concat]
    cases made : self.core.fate id op with
    | some fate =>
      obtain ⟨pending, found⟩ := pending_of_fate made
      rw [resolved.waiting id pending found]
      exact ⟨fate, rfl⟩
    | none =>
      rw [find_step moved id, made] at gone
      obtain ⟨absent, unadded⟩ := Option.or_eq_none_iff.mp gone
      rw [added_concat, List.mem_append, Option.mem_toList] at mem
      rcases mem with old | new
      · obtain ⟨fate, same⟩ := resolved.settled id old absent
        exact ⟨fate, by simpa using same⟩
      · cases op with
        | add other target deadline =>
          cases new
          simp [Op.adds] at unadded
        | cancel | complete | expire | clear | invoke => cases new
  case unknown =>
    intro id absent
    rw [added_concat, List.mem_append, not_or] at absent
    rw [fates_concat, resolved.unknown id absent.1]
    cases made : self.core.fate id op with
    | some fate =>
      obtain ⟨pending, found⟩ := pending_of_fate made
      exact absurd (known found) absent.1
    | none => rfl
  case counted =>
    intro id
    have before := resolved.counted id
    have change := count_step moved id
    rw [count_calls] at change
    rw [fates_concat, invoked_concat, List.map_append, List.count_append, List.countP_append]
    dsimp only
    omega
  case sourced =>
    intro call waits
    have cases : (Waiting after call ∨ invokes self op = some call) ∨ call ∈ invoked history := by
      rw [invoked_concat, List.mem_append, Option.mem_toList] at waits
      tauto
    rcases cases with now | old
    · rcases waiting_step moved now with old | new
      · exact (resolved.sourced call (.inl old)).append _
      · exact sourced_calls new
    · exact (resolved.sourced call (.inr old)).append _

theorem resolved_reached (run : Reaches history self) (distinct : (added history).Nodup) : Resolved history self := by
  induction run with
  | start => constructor <;> simp [find, fates, added, invoked, Waiting]
  | @next past state last label previous moved ih =>
    rw [added_concat] at distinct
    obtain ⟨before, -, apart⟩ := List.nodup_append.mp distinct
    exact resolved_step (ih before) moved fun id adds mem => apart id mem id (Option.mem_toList.mpr adds) rfl

def Call.fate : Call Target Response → Fate
  | .onResponse _ _ _ => .responded
  | .onTimeout _ _ => .timedOut

theorem fate_of_sourced {call : Call Target Response} (sourced : Sourced history call) :
    call.fate ∈ fates history call.id := by
  cases call with
  | onResponse id target response =>
    obtain ⟨move, mem, thread, now, deadline, label, found, early⟩ := sourced
    refine List.mem_filterMap.mpr ⟨move, mem, ?_⟩
    simp [label, fate, complete_snd, found, Nat.not_le.mpr early, Call.id, Call.fate]
  | onTimeout id target =>
    obtain ⟨move, mem, thread, now, deadline, ⟨response, label⟩ | label, found, late⟩ := sourced
    · refine List.mem_filterMap.mpr ⟨move, mem, ?_⟩
      simp [label, fate, complete_snd, found, late, Call.id, Call.fate]
    · refine List.mem_filterMap.mpr ⟨move, mem, ?_⟩
      have expired : id ∈ (move.before.core.expire now).2.map Prod.fst := mem_expired.mpr ⟨_, found, late⟩
      simp only [label, fate, Call.id, Call.fate]
      exact if_pos expired

theorem Resolved.single (resolved : Resolved history self) (id : Nat) :
    fates history id = [] ∨ self.core.find id = none ∧ ∃ fate, fates history id = [fate] := by
  by_cases known : id ∈ added history
  · cases found : self.core.find id with
    | none => exact .inr ⟨rfl, resolved.settled id known found⟩
    | some pending => exact .inl (resolved.waiting id pending found)
  · exact .inl (resolved.unknown id known)

theorem Resolved.once (resolved : Resolved history self) : ((invoked history).map Call.id).Nodup := by
  rw [List.nodup_iff_count_le_one]
  intro id
  have counted := resolved.counted id
  have few : (fates history id).countP Fate.called ≤ 1 := by
    refine Nat.le_trans List.countP_le_length ?_
    rcases resolved.single id with none | ⟨-, fate, one⟩
    · simp [none]
    · simp [one]
  omega

/-- The handler of a request that was answered, or ran out of time, is called or about to be. -/
theorem Resolved.handled (resolved : Resolved history self) {id : Nat} {fate : Fate} (called : fate.called = true)
    (mem : fate ∈ fates history id) :
    ∃ call, (Waiting self call ∨ call ∈ invoked history) ∧ call.id = id ∧ call.fate = fate := by
  have positive : 0 < (fates history id).countP Fate.called := List.countP_pos_iff.mpr ⟨fate, mem, called⟩
  rw [← resolved.counted id] at positive
  have found : ∃ call, (Waiting self call ∨ call ∈ invoked history) ∧ call.id = id := by
    rcases Nat.add_pos_iff_pos_or_pos.mp positive with waiting | done
    · obtain ⟨⟨thread, call⟩, here, same⟩ := List.mem_map.mp (List.count_pos_iff.mp waiting)
      exact ⟨call, .inl ⟨thread, here⟩, same⟩
    · obtain ⟨call, here, same⟩ := List.mem_map.mp (List.count_pos_iff.mp done)
      exact ⟨call, .inr here, same⟩
  obtain ⟨call, here, rfl⟩ := found
  refine ⟨call, here, rfl, ?_⟩
  have own := fate_of_sourced (resolved.sourced call here)
  rcases resolved.single call.id with none | ⟨-, single, one⟩
  · simp [none] at mem
  · rw [one, List.mem_singleton] at mem own
    rw [mem, own]

/-- Every request is pending or has met one fate, which is final; each handler is called at
most once, for the fate it stands for; and an operation leaves the other requests alone. -/
theorem resolved_exactly_once (run : Reaches history self) (distinct : (added history).Nodup) :
    (∀ id ∈ added history,
      ((∃ pending, self.core.find id = some pending) ∧ fates history id = []) ∨
      (self.core.find id = none ∧ ∃ fate, fates history id = [fate])) ∧
    (∀ (past later : History Target Response) (id : Nat) (fate : Fate),
      history = past ++ later → fate ∈ fates past id → self.core.find id = none ∧ fates history id = [fate]) ∧
    (∀ (past later : History Target Response) (move : Transition (Callers Target Response) (Op Target Response))
      (call : Call Target Response), history = past ++ move :: later → invokes move.before move.label = some call →
        Sourced past call) ∧
    ((invoked history).map Call.id).Nodup ∧
    (∀ id fate, (∃ call, (Waiting self call ∨ call ∈ invoked history) ∧ call.id = id ∧ call.fate = fate) ↔
      fate ∈ fates history id ∧ fate.called = true) ∧
    (∀ id other now, other ≠ id → (self.core.complete other now).1.find id = self.core.find id ∧
      (self.core.cancel other).1.find id = self.core.find id) ∧
    (∀ (id now : Nat) (pending : Pending Target), (self.core.expire now).1.find id = some pending ↔
      self.core.find id = some pending ∧ now < pending.deadline) := by
  have resolved := resolved_reached run distinct
  refine ⟨?_, ?_, ?_, resolved.once, ?_, ?_, ?_⟩
  · intro id known
    cases found : self.core.find id with
    | none => exact .inr ⟨rfl, resolved.settled id known found⟩
    | some pending => exact .inl ⟨⟨pending, rfl⟩, resolved.waiting id pending found⟩
  · intro past later id fate cut mem
    have still : fate ∈ fates history id := by
      rw [cut, fates, List.filterMap_append]
      exact List.mem_append_left _ mem
    rcases resolved.single id with none | ⟨gone, single, one⟩
    · simp [none] at still
    · rw [one, List.mem_singleton] at still
      exact ⟨gone, still ▸ one⟩
  · intro past later move call cut called
    obtain ⟨reached, moved, -⟩ := run.split cut
    have earlier : (added past).Nodup := by
      rw [cut, added, List.filterMap_append] at distinct
      exact (List.nodup_append.mp distinct).1
    -- a call runs only if it was waiting, for running a call makes no new one
    rcases waiting_step moved (.inr called) with waits | new
    · exact (resolved_reached reached earlier).sourced call (.inl waits)
    · cases label : move.label <;> simp [label, invokes, calls] at called new
  · intro id fate
    constructor
    · rintro ⟨call, here, rfl, rfl⟩
      refine ⟨fate_of_sourced (resolved.sourced call here), ?_⟩
      cases call <;> rfl
    · rintro ⟨mem, called⟩
      exact resolved.handled called mem
  · intro id other now apart
    rw [complete_fst, cancel_eq, find_take, if_neg apart]
    exact ⟨rfl, rfl⟩
  · intro id now pending
    rw [find_expire, Option.filter_eq_some_iff, decide_eq_true_eq]

end Runs

def reentrant : List (Op String String) :=
  [.add 1 "first" 5, .add 2 "second" 6, .expire 0 7, .invoke 0, .add 3 "third" 20, .complete 1 3 "reply" 9, .invoke 1,
    .invoke 0]

theorem resolved_exactly_once_reentrant :
    ((invoked (transitions step (⟨{}, []⟩ : Callers String String) reentrant)).map Call.id).Nodup ∧
      invoked (transitions step (⟨{}, []⟩ : Callers String String) reentrant) =
        [.onTimeout 1 "first", .onResponse 3 "third" "reply", .onTimeout 2 "second"] := by
  have run : Reaches (transitions step (⟨{}, []⟩ : Callers String String) reentrant)
      (final step ⟨{}, []⟩ reentrant) := run_of_enabled (by decide +kernel)
  exact ⟨(resolved_exactly_once run (by decide +kernel)).2.2.2.1, by decide +kernel⟩

end Rsp.Message.PendingRequests
