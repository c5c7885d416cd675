import Mathlib.Data.List.Nodup
import Rsp.Job.Life
import Rsp.UserServer.Requests

/-! The jobs of the User server live as `Life` describes.

`life` reads the counters of a job off the state of the server. Every step of the server
is a sequence of turns for every job, so the jobs keep what the turns keep.
-/

set_option autoImplicit false

namespace Rsp.UserServer

open Message Rsp.Job Foundation

def Task.role : Task → Option (JobPtr × Role)
  | .pushAndRun job => some (job, .pushing)
  | .run job => some (job, .starting)
  | .addRequest job _ => some (job, .adding)
  | .postResponse job _ | .handleRes job _ => some (job, .responding)
  | .postTimeout job | .cancel job .kTimeout => some (job, .expiring)
  | .finishCancel job .kTimeout => some (job, .timing)
  | .cancel job .kShutdown => some (job, .stopping)
  | .finishCancel job .kShutdown => some (job, .finishing)
  | _ => none

def count (ptr : JobPtr) (role : Role) (list : List Task) : Nat := (list.filterMap Task.role).count (ptr, role)

def others (before later : Pool Thread Task) (ptr : JobPtr) (role : Role) : Nat :=
  count ptr role ((before ++ later).map Prod.snd)

def Core.queueOf (core : Core) (session : SessionPtr) : List JobPtr :=
  (core.schedulers[session]?).elim [] JobScheduler.q

def life (state : State) (ptr : JobPtr) (record : Record) : Life where
  asked := record.roomRequestId != 0
  held := record.done
  finished := record.finished
  first := if (state.core.queueOf record.session).head? = some ptr then 1 else 0
  behind := (state.core.queueOf record.session).tail.count ptr
  entry := if (state.core.requests.find record.roomRequestId).isSome then 1 else 0
  load role := count ptr role (state.pool.map Prod.snd)

section Counting

variable {ptr : JobPtr} {role : Role}

@[simp] theorem count_nil : count ptr role [] = 0 := rfl

@[simp] theorem count_append (first second : List Task) :
    count ptr role (first ++ second) = count ptr role first + count ptr role second := by
  simp [count]

theorem count_cons (task : Task) (rest : List Task) :
    count ptr role (task :: rest) = (if task.role = some (ptr, role) then 1 else 0) + count ptr role rest := by
  cases found : task.role with
  | none => simp [count, found]
  | some pair =>
    by_cases same : pair = (ptr, role)
    · simp [count, found, same, Nat.add_comm]
    · simp [count, found, same]

theorem count_eq_zero {list : List Task} (none : ∀ item ∈ list, item.role ≠ some (ptr, role)) :
    count ptr role list = 0 := by
  simp only [count, List.count_eq_zero, List.mem_filterMap, not_exists, not_and]
  exact none

variable {thread : Thread} {task : Task} {before later : Pool Thread Task} {effect : Effect}

/-- The items of a job after an item has run: those of the rest and those it leaves. -/
theorem count_ran : count ptr role
      ((effect.next.map (Prod.mk thread) ++ (before ++ later) ++ effect.posts).map Prod.snd) =
    others before later ptr role + count ptr role (items effect) := by
  simp only [others, items, List.map_append, List.map_map, count_append]
  have plain : (Prod.snd ∘ Prod.mk thread : Task → Task) = id := rfl
  rw [plain, List.map_id]
  omega

theorem count_split {pool : Pool Thread Task} (split : pool = before ++ (thread, task) :: later) :
    count ptr role (pool.map Prod.snd) =
      (if task.role = some (ptr, role) then 1 else 0) + others before later ptr role := by
  simp only [others, split, List.map_append, List.map_cons, count_append, count_cons]
  omega

end Counting

/-! ## One item -/

section Ran

variable {now : Nat} {state : State} {thread : Thread} {task : Task} {before later : Pool Thread Task}
  {effect : Effect} {ptr : JobPtr} {record record' : Record}

theorem drop_consumed (split : state.pool = before ++ (thread, task) :: later) {taken : Role}
    (consumed : task.role = some (ptr, taken)) :
    (life state ptr record).drop taken = { life state ptr record with load := others before later ptr } := by
  refine Life.ext rfl rfl rfl rfl rfl rfl (funext fun role => ?_)
  simp only [Life.drop, life, count_split split, consumed]
  by_cases same : role = taken
  · subst same
    simp
  · simp [same, Ne.symm same]

theorem load_unconsumed (split : state.pool = before ++ (thread, task) :: later)
    (foreign : ∀ role, task.role ≠ some (ptr, role)) : (life state ptr record).load = others before later ptr := by
  funext role
  simp [life, count_split split, foreign role]

theorem load_produced {given : Role} (produced : ∀ role, count ptr role (items effect) = if role = given then 1 else 0) :
    (life (ranState thread before later effect) ptr record').load =
      fun role => if role = given then others before later ptr given + 1 else others before later ptr role := by
  funext role
  simp only [life, count_ran, produced]
  by_cases same : role = given
  · subst same
    simp
  · simp [same]

theorem load_unproduced (none : ∀ role, count ptr role (items effect) = 0) :
    (life (ranState thread before later effect) ptr record').load = others before later ptr := by
  funext role
  simp only [life, count_ran, none, Nat.add_zero]

theorem others_le (split : state.pool = before ++ (thread, task) :: later) (role : Role) :
    others before later ptr role ≤ (life state ptr record).load role := by
  simp only [life, count_split split]
  omega

/-- Nothing happens to a job that an item neither updates nor leaves anything new to do for. -/
theorem calm_ran (split : state.pool = before ++ (thread, task) :: later)
    (head : (effect.core.queueOf record.session).head? = some ptr ↔
      (state.core.queueOf record.session).head? = some ptr)
    (tail : (effect.core.queueOf record.session).tail.count ptr = (state.core.queueOf record.session).tail.count ptr)
    (entry : (effect.core.requests.find record.roomRequestId).isSome →
      (state.core.requests.find record.roomRequestId).isSome)
    (fewer : ∀ role, count ptr role (items effect) ≤ if task.role = some (ptr, role) then 1 else 0) :
    Life.Calm (life state ptr record) (life (ranState thread before later effect) ptr record) where
  asked := rfl
  held := rfl
  finished := rfl
  seats := by simp only [life, head, tail, Nat.le_refl]
  behind := by simp only [life, tail, Nat.le_refl]
  entry := by
    simp only [life]
    split
    · next some => simp [entry some]
    · exact Nat.zero_le _
  load role := by
    have less := fewer role
    simp only [life, count_ran, count_split split]
    omega
  first := .inl (by simp only [life, head])

theorem critical_of_role {item : Task} {role : Role} (about : item.role = some (ptr, role))
    (critical : role = .starting ∨ role = .adding ∨ role = .timing ∨ role = .finishing) :
    item.owner = some ptr ∧ item.critical := by
  cases item with
  | cancel job reason => cases reason <;> cases about <;> simp at critical
  | finishCancel job reason => cases reason <;> cases about <;> exact ⟨rfl, trivial⟩
  | run job | addRequest job id =>
    cases about
    exact ⟨rfl, trivial⟩
  | pushAndRun job | postResponse job response | handleRes job response | postTimeout job =>
    cases about
    simp at critical
  | _ => cases about

/-- While an item of a session runs, none of a started task waits for the session's jobs. -/
theorem alone_others (orderly : Orderly state) (split : state.pool = before ++ (thread, task) :: later)
    (quiet : Pool.idle before thread) (heavy : ¬ task.light) (here : thread = .strand record.session)
    (found : state.core.records[ptr]? = some record) :
    Life.Alone { life state ptr record with load := others before later ptr } := by
  have none : ∀ role, role = .starting ∨ role = .adding ∨ role = .timing ∨ role = .finishing →
      others before later ptr role = 0 := by
    intro role critical
    refine count_eq_zero fun item mem about => ?_
    obtain ⟨entry, waits, rfl⟩ := List.mem_map.mp mem
    obtain ⟨owner, special⟩ := critical_of_role about critical
    exact orderly.alone split quiet heavy here found waits owner special
  exact ⟨none _ (by simp), none _ (by simp), none _ (by simp), none _ (by simp)⟩

/-! ### Queues -/

section Queues

variable {core after : Core} {session : SessionPtr}

theorem queueOf_same (schedulers : after.schedulers = core.schedulers) : after.queueOf session = core.queueOf session := by
  rw [Core.queueOf, Core.queueOf, schedulers]

theorem queueOf_found {scheduler : JobScheduler JobPtr} (owner : core.schedulers[session]? = some scheduler) :
    core.queueOf session = scheduler.q := by
  rw [Core.queueOf, owner]
  rfl

theorem queueOf_set (session : SessionPtr) {target : SessionPtr} {old new : JobScheduler JobPtr}
    (owner : core.schedulers[target]? = some old) (schedulers : after.schedulers = core.schedulers.set target new) :
    after.queueOf session = if target = session then new.q else core.queueOf session := by
  rw [Core.queueOf, Core.queueOf, schedulers, heap_get_set owner]
  split <;> rfl

theorem seats_eq (queue : List JobPtr) (ptr : JobPtr) :
    (if queue.head? = some ptr then 1 else 0) + queue.tail.count ptr = queue.count ptr := by
  cases queue with
  | nil => rfl
  | cons first rest =>
    by_cases same : first = ptr
    · simp [same, Nat.add_comm]
    · simp [same]

theorem queued_session (orderly : Orderly state) (found : state.core.records[ptr]? = some record)
    (mem : ptr ∈ state.core.queueOf session) : record.session = session := by
  cases owner : state.core.schedulers[session]? with
  | none => simp [Core.queueOf, owner] at mem
  | some scheduler =>
    rw [queueOf_found owner] at mem
    obtain ⟨stored, same, placed⟩ := orderly.queued session scheduler owner ptr mem
    cases found.symm.trans same
    exact placed

theorem push_other {job target : JobPtr} {scheduler : JobScheduler JobPtr} (busy : scheduler.Busy)
    {pushed : SessionPtr} (owner : core.schedulers[pushed]? = some scheduler)
    (schedulers : after.schedulers = core.schedulers.set pushed (scheduler.pushAndRun job).1)
    (other : job ≠ target) (session : SessionPtr) :
    ((after.queueOf session).head? = some target ↔ (core.queueOf session).head? = some target) ∧
      (after.queueOf session).tail.count target = (core.queueOf session).tail.count target := by
  rw [queueOf_set session owner schedulers]
  split
  · next same =>
    subst same
    rw [queueOf_found owner]
    rcases JobScheduler.pushAndRun_cases busy job with ⟨-, same⟩ | ⟨empty, same⟩ | ⟨some, same⟩
    · rw [same]
      exact ⟨Iff.rfl, rfl⟩
    · rw [same]
      simp [empty, other]
    · rw [same]
      refine ⟨by rw [List.head?_append_of_ne_nil _ some], ?_⟩
      rw [List.tail_append_of_ne_nil some]
      simp [List.count_append, other]
  · exact ⟨Iff.rfl, rfl⟩

end Queues

theorem count_next (next : Option JobPtr) (role : Role) :
    count ptr role (next.toList.map .run) = if next = some ptr ∧ role = .starting then 1 else 0 := by
  cases next with
  | none => simp
  | some job =>
    simp only [Option.toList_some, List.map_cons, List.map_nil, count_cons, Task.role, Option.some.injEq,
      Prod.mk.injEq, count_nil, Nat.add_zero, eq_comm]

/-- A scheduler that goes on with its next job starts that job and changes nothing else. -/
theorem turn_advanced (record' : Record) (orderly : Orderly state) (found : state.core.records[ptr]? = some record)
    (kept : record'.session = record.session) {session : SessionPtr} (advanced : Advanced state.core session effect)
    (requests : effect.core.requests = state.core.requests)
    (posts : ∀ role, count ptr role (effect.posts.map Prod.snd) = 0)
    (alone : record.session = session → others before later ptr .starting = 0) :
    Turn { life state ptr record' with load := others before later ptr }
      (life (ranState thread before later effect) ptr record') := by
  have produced : ∀ role, count ptr role (items effect) = count ptr role effect.next := by
    intro role
    rw [items, count_append, posts role, Nat.add_zero]
  have unchanged : effect.core.queueOf record.session = state.core.queueOf record.session →
      (∀ role, count ptr role effect.next = 0) →
      Turn { life state ptr record' with load := others before later ptr }
        (life (ranState thread before later effect) ptr record') := by
    intro queue none
    refine .calm ⟨rfl, rfl, rfl, ?_, ?_, ?_, fun role => ?_, .inl ?_⟩
    · simp only [life, kept, queue, Nat.le_refl]
    · simp only [life, kept, queue, Nat.le_refl]
    · simp only [life, requests, Nat.le_refl]
    · rw [load_unproduced fun role => (produced role).trans (none role)]
    · simp only [life, kept, queue]
  cases advanced with
  | same schedulers next => exact unchanged (queueOf_same schedulers) (by simp [next])
  | popped scheduler owner schedulers next =>
    rw [JobScheduler.completeCurrent_next] at next
    have queue := queueOf_set record.session owner schedulers
    rw [JobScheduler.completeCurrent_q] at queue
    by_cases mine : session = record.session
    · subst mine
      rw [if_pos rfl] at queue
      have known : state.core.queueOf record.session = scheduler.q := queueOf_found owner
      -- the scheduler takes the next job of the session, which may be this one
      by_cases chosen : scheduler.q.tail.head? = some ptr
      · obtain ⟨rest, tail⟩ : ∃ rest, scheduler.q.tail = ptr :: rest := by
          cases same : scheduler.q.tail with
          | nil => simp [same] at chosen
          | cons first rest =>
            rw [same, List.head?_cons, Option.some.injEq] at chosen
            exact ⟨rest, by rw [chosen]⟩
        have waits : 0 < (life state ptr record').behind := by simp [life, kept, known, tail]
        have turn : Turn { life state ptr record' with load := others before later ptr } _ := .promoted waits
        refine (congrArg (Turn _) ?_).mp turn
        refine Life.ext rfl rfl rfl ?_ ?_ ?_ ?_
        · simp [life, kept, queue, tail]
        · simp [life, kept, known, queue, tail]
        · simp [life, Life.put, requests]
        · have one : ∀ role, count ptr role (items effect) = if role = .starting then 1 else 0 := by
            intro role
            rw [produced, next, count_next]
            simp [chosen]
          rw [load_produced one]
          rfl
      · have none : ∀ role, count ptr role (items effect) = 0 := by
          intro role
          rw [produced, next, count_next, if_neg (fun both => chosen both.1)]
        have shorter : scheduler.q.tail.count ptr ≤ scheduler.q.count ptr := (List.tail_sublist _).count_le _
        refine .calm ⟨rfl, rfl, rfl, ?_, ?_, ?_, fun role => ?_, .inr ?_⟩
        · simp only [life, kept, queue, known, seats_eq]
          exact shorter
        · simp only [life, kept, queue, known]
          exact (List.tail_sublist _).count_le _
        · simp only [life, requests, Nat.le_refl]
        · rw [load_unproduced none]
        · rw [load_unproduced none]
          exact alone rfl
    · rw [if_neg mine] at queue
      refine unchanged queue fun role => ?_
      rw [next, count_next, if_neg]
      rintro ⟨chosen, -⟩
      -- a job sits in the queue of its own session only
      have mem : ptr ∈ state.core.queueOf session := by
        rw [queueOf_found owner]
        exact List.mem_of_mem_tail (List.mem_of_mem_head? chosen)
      exact mine (queued_session orderly found mem).symm

/-! ### The turns of the job an item is about -/

theorem load_pos (split : state.pool = before ++ (thread, task) :: later) {taken : Role}
    (consumed : task.role = some (ptr, taken)) : 0 < (life state ptr record).load taken := by
  simp only [life, count_split split, consumed, if_true]
  omega

theorem turn_to {life after result : Life} (turn : Turn life result) (asked : after.asked = result.asked)
    (held : after.held = result.held) (finished : after.finished = result.finished)
    (first : after.first = result.first) (behind : after.behind = result.behind) (entry : after.entry = result.entry)
    (load : after.load = result.load) : Turn life after := by
  rw [Life.ext asked held finished first behind entry load]
  exact turn

theorem turn_push (split : state.pool = before ++ (thread, .pushAndRun ptr) :: later)
    {scheduler : JobScheduler JobPtr} (busy : scheduler.Busy)
    (owner : state.core.schedulers[record.session]? = some scheduler)
    (schedulers : effect.core.schedulers = state.core.schedulers.set record.session (scheduler.pushAndRun ptr).1)
    (requests : effect.core.requests = state.core.requests)
    (produced : items effect = afterPush (scheduler.pushAndRun ptr).2) :
    Turn (life state ptr record) (life (ranState thread before later effect) ptr record) := by
  have queue := queueOf_set record.session owner schedulers
  have known : state.core.queueOf record.session = scheduler.q := queueOf_found owner
  have waits : 0 < (life state ptr record).load .pushing := load_pos split rfl
  have rest : (life state ptr record).drop .pushing = { life state ptr record with load := others before later ptr } :=
    drop_consumed split rfl
  rw [if_pos rfl] at queue
  rcases JobScheduler.pushAndRun_cases busy ptr with ⟨-, pushed⟩ | ⟨empty, pushed⟩ | ⟨some, pushed⟩
  · rw [pushed] at queue produced
    have one : ∀ role, count ptr role (items effect) = if role = .stopping then 1 else 0 := by
      intro role
      simp [produced, afterPush, count_cons, Task.role, eq_comm]
    refine turn_to (.rejected waits) rfl rfl rfl ?_ ?_ ?_ ?_
    · simp [Life.drop, Life.put, life, queue, known]
    · simp [Life.drop, Life.put, life, queue, known]
    · simp [Life.drop, Life.put, life, requests]
    · rw [load_produced one, rest]
      rfl
  · rw [pushed] at queue produced
    have one : ∀ role, count ptr role (items effect) = if role = .starting then 1 else 0 := by
      intro role
      simp [produced, afterPush, count_cons, Task.role, eq_comm]
    have idle : (life state ptr record).first = 0 ∧ (life state ptr record).behind = 0 := by
      simp [life, known, empty]
    refine turn_to (.launched waits idle) rfl rfl rfl ?_ ?_ ?_ ?_
    · simp [life, queue]
    · simp [Life.drop, Life.put, life, queue, known, empty]
    · simp [Life.drop, Life.put, life, requests]
    · rw [load_produced one, rest]
      rfl
  · rw [pushed] at queue produced
    have none : ∀ role, count ptr role (items effect) = 0 := by
      intro role
      simp [produced, afterPush]
    have head : (scheduler.q ++ [ptr]).head? = scheduler.q.head? := by
      rw [List.head?_append_of_ne_nil _ some]
    have tail : (scheduler.q ++ [ptr]).tail = scheduler.q.tail ++ [ptr] := List.tail_append_of_ne_nil some
    refine turn_to (.queued waits) rfl rfl rfl ?_ ?_ ?_ ?_
    · simp [Life.drop, life, queue, known, head]
    · simp [life, queue, known, tail]
    · simp [Life.drop, life, requests]
    · rw [load_unproduced none, rest]

theorem turn_request (orderly : Orderly state) (linked : Linked state) (quiet : Pool.idle before thread)
    (split : state.pool = before ++ (thread, .run ptr) :: later) {message : ToRoom}
    (found : state.core.records[ptr]? = some record)
    (schedulers : effect.core.schedulers = state.core.schedulers)
    (requests : effect.core.requests = state.core.requests)
    (produced : items effect = [.addRequest ptr state.core.nextRequestId, .channelSend message]) :
    Turn (life state ptr record) (life (ranState thread before later effect) ptr
      { record with done := true, roomRequestId := state.core.nextRequestId }) := by
  have waits : 0 < (life state ptr record).load .starting := load_pos split rfl
  have rest : (life state ptr record).drop .starting = { life state ptr record with load := others before later ptr } :=
    drop_consumed split rfl
  have one : ∀ role, count ptr role (items effect) = if role = .adding then 1 else 0 := by
    intro role
    simp [produced, count_cons, Task.role, eq_comm]
  have waiting : (thread, Task.run ptr) ∈ state.pool := by simp [split]
  have here : thread = .strand record.session := orderly.at_owner waiting rfl found
  have alone : ((life state ptr record).drop .starting).Alone := by
    rw [rest]
    exact alone_others orderly split quiet not_false here found
  have unknown : state.core.requests.find state.core.nextRequestId = none := by
    cases entry : state.core.requests.find state.core.nextRequestId with
    | none => rfl
    | some pending =>
      have below := linked.bounded _ _ (linked.entries _ pending entry)
      omega
  have positive := linked.positive
  refine turn_to (.requested waits alone) ?_ rfl rfl ?_ ?_ ?_ ?_
  · simp only [life, bne_iff_ne]
    omega
  · simp [Life.drop, Life.put, life, queueOf_same schedulers]
  · simp [Life.drop, Life.put, life, queueOf_same schedulers]
  · simp [life, requests, unknown]
  · rw [load_produced one, rest]
    rfl

theorem turn_add {id : Nat} (split : state.pool = before ++ (thread, .addRequest ptr id) :: later)
    (drawn : record.roomRequestId = id) :
    Turn (life state ptr record) (life (ranState thread before later (addRequest now ptr id state.core)) ptr record) := by
  have waits : 0 < (life state ptr record).load .adding := load_pos split rfl
  have rest : (life state ptr record).drop .adding = { life state ptr record with load := others before later ptr } :=
    drop_consumed split rfl
  refine turn_to (.added waits) rfl rfl rfl rfl rfl ?_ ?_
  · simp only [life, addRequest, PendingRequests.find_add, drawn, if_true]
    simp
  · rw [load_unproduced (by simp [items, addRequest]), rest]

theorem turn_respond {message : ToUser} (split : state.pool = before ++ (thread, .onRecv message) :: later)
    {pending : Pending JobPtr} (target : pending.target = ptr)
    (entry : state.core.requests.find record.roomRequestId = some pending)
    (schedulers : effect.core.schedulers = state.core.schedulers)
    (requests : effect.core.requests = (state.core.requests.take record.roomRequestId).1)
    (produced : items effect = if pending.deadline ≤ now then onTimeout record.roomRequestId pending.target
      else [.postResponse pending.target message]) :
    Turn (life state ptr record) (life (ranState thread before later effect) ptr record) := by
  subst target
  have waits : 0 < (life state pending.target record).entry := by simp [life, entry]
  have rest : (life state pending.target record).load = others before later pending.target :=
    load_unconsumed split (by simp [Task.role])
  have taken : effect.core.requests.find record.roomRequestId = none := by
    rw [requests, PendingRequests.find_take, if_pos rfl]
  split at produced
  · have one : ∀ role, count pending.target role (items effect) = if role = .expiring then 1 else 0 := by
      intro role
      simp [produced, onTimeout, sendCancel, count_cons, Task.role, eq_comm]
    refine turn_to (.expired waits) rfl rfl rfl ?_ ?_ ?_ ?_
    · simp [Life.put, life, queueOf_same schedulers]
    · simp [Life.put, life, queueOf_same schedulers]
    · simp [life, taken]
    · rw [load_produced one]
      simp only [Life.put, rest]
  · have one : ∀ role, count pending.target role (items effect) = if role = .responding then 1 else 0 := by
      intro role
      simp [produced, count_cons, Task.role, eq_comm]
    refine turn_to (.answered waits) rfl rfl rfl ?_ ?_ ?_ ?_
    · simp [Life.put, life, queueOf_same schedulers]
    · simp [Life.put, life, queueOf_same schedulers]
    · simp [life, taken]
    · rw [load_produced one]
      simp only [Life.put, rest]

theorem turn_cancel (orderly : Orderly state) (quiet : Pool.idle before thread) {reason : CancelReason}
    (split : state.pool = before ++ (thread, .cancel ptr reason) :: later)
    (found : state.core.records[ptr]? = some record) (unfinished : record.finished = false)
    (schedulers : effect.core.schedulers = state.core.schedulers)
    (requests : effect.core.requests = (state.core.requests.take record.roomRequestId).1)
    (produced : items effect =
      (if (state.core.requests.find record.roomRequestId).isSome then [sendCancel record.roomRequestId] else []) ++
        [.finishCancel ptr reason]) :
    Turn (life state ptr record) (life (ranState thread before later effect) ptr record) := by
  have taken : effect.core.requests.find record.roomRequestId = none := by
    rw [requests, PendingRequests.find_take, if_pos rfl]
  have waiting : (thread, Task.cancel ptr reason) ∈ state.pool := by simp [split]
  have here : thread = .strand record.session := orderly.at_owner waiting rfl found
  have ends : ∀ role, count ptr role (items effect) = if (Task.finishCancel ptr reason).role = some (ptr, role) then 1 else 0 := by
    intro role
    rw [produced, count_append, count_cons]
    split <;> simp [sendCancel, count_cons, Task.role]
  cases reason with
  | kTimeout =>
    have waits : 0 < (life state ptr record).load .expiring := load_pos split rfl
    have rest : (life state ptr record).drop .expiring = { life state ptr record with load := others before later ptr } :=
      drop_consumed split rfl
    have one : ∀ role, count ptr role (items effect) = if role = .timing then 1 else 0 := by
      intro role
      simp [ends, Task.role, eq_comm]
    refine turn_to (.timedOut waits unfinished) rfl rfl rfl ?_ ?_ ?_ ?_
    · simp [Life.drop, Life.put, life, queueOf_same schedulers]
    · simp [Life.drop, Life.put, life, queueOf_same schedulers]
    · simp [life, taken]
    · rw [load_produced one, rest]
      rfl
  | kShutdown =>
    have waits : 0 < (life state ptr record).load .stopping := load_pos split rfl
    have rest : (life state ptr record).drop .stopping = { life state ptr record with load := others before later ptr } :=
      drop_consumed split rfl
    have one : ∀ role, count ptr role (items effect) = if role = .finishing then 1 else 0 := by
      intro role
      simp [ends, Task.role, eq_comm]
    have alone : (life state ptr record).Alone := by
      obtain ⟨starting, adding, timing, finishing⟩ := alone_others orderly split quiet not_false here found
      rw [← rest] at starting adding timing finishing
      exact ⟨starting, adding, timing, finishing⟩
    refine turn_to (.stopped waits unfinished alone) rfl rfl rfl ?_ ?_ ?_ ?_
    · simp [Life.drop, Life.put, life, queueOf_same schedulers]
    · simp [Life.drop, Life.put, life, queueOf_same schedulers]
    · simp [life, taken]
    · rw [load_produced one, rest]
      rfl

theorem turn_shutdown (orderly : Orderly state) (quiet : Pool.idle before thread)
    (split : state.pool = before ++ (thread, .shutdown record.session) :: later)
    (found : state.core.records[ptr]? = some record) {scheduler : JobScheduler JobPtr}
    (owner : state.core.schedulers[record.session]? = some scheduler)
    (schedulers : effect.core.schedulers = state.core.schedulers.set record.session scheduler.shutdown.1)
    (requests : effect.core.requests = state.core.requests)
    (produced : items effect = scheduler.shutdown.2.map (.cancel · .kShutdown)) :
    Turn (life state ptr record) (life (ranState thread before later effect) ptr record) := by
  have queue := queueOf_set record.session owner schedulers
  have known : state.core.queueOf record.session = scheduler.q := queueOf_found owner
  have rest : (life state ptr record).load = others before later ptr := load_unconsumed split (by simp [Task.role])
  rw [if_pos rfl] at queue
  rcases scheduler.shutdown_cases with same | same
  · rw [same] at queue produced
    have none : ∀ role, count ptr role (items effect) = 0 := by simp [produced]
    have kept := queue.trans known.symm
    exact .calm (calm_ran split (by rw [kept]) (by rw [kept]) (fun some => requests ▸ some) (by simp [none]))
  · rw [same] at queue produced
    have waiting : (thread, Task.shutdown record.session) ∈ state.pool := by simp [split]
    have here : thread = .strand record.session := orderly.stops _ waiting _ rfl
    have alone : (life state ptr record).Alone := by
      obtain ⟨starting, adding, timing, finishing⟩ := alone_others orderly split quiet not_false here found
      simp only [← rest] at starting adding timing finishing
      exact ⟨starting, adding, timing, finishing⟩
    have cancels : ∀ (list : List JobPtr) (role : Role), count ptr role (list.map (.cancel · .kShutdown)) =
        if role = .stopping then list.count ptr else 0 := by
      intro list role
      induction list with
      | nil => simp
      | cons job others ih =>
        simp only [List.map_cons, count_cons, ih, Task.role, List.count_cons]
        by_cases stops : role = .stopping
        · subst stops
          by_cases mine : job = ptr <;> simp [mine, Nat.add_comm]
        · simp [stops, Ne.symm stops]
    refine .shutDown alone rfl rfl rfl ?_ ?_ ?_ fun role other => ?_
    · simp [life, queue]
    · simp [life, requests]
    · have seats := seats_eq scheduler.q ptr
      simp only [life, count_ran, produced, cancels, if_true, known, seats, count_split split, Task.role]
      simp
    · simp only [life, count_ran, produced, cancels, other, if_false, count_split split, Task.role]
      simp

theorem turns_finish (orderly : Orderly state) (quiet : Pool.idle before thread)
    (split : state.pool = before ++ (thread, task) :: later)
    (caller : (∃ response, task = .handleRes ptr response) ∨ ∃ reason, task = .finishCancel ptr reason)
    (found : state.core.records[ptr]? = some record) (advanced : Advanced state.core record.session effect)
    (requests : effect.core.requests = state.core.requests) (posts : effect.posts = []) :
    ∃ taken, task.role = some (ptr, taken) ∧ (taken = .responding ∨ taken = .timing ∨ taken = .finishing) ∧
      ((life state ptr record).drop taken).Alone ∧
      Turn { (life state ptr record).drop taken with finished := true, held := false }
        (life (ranState thread before later effect) ptr { record with finished := true, done := false }) := by
  have waiting : (thread, task) ∈ state.pool := by simp [split]
  have owner : task.owner = some ptr := by
    rcases caller with ⟨response, rfl⟩ | ⟨reason, rfl⟩ <;> rfl
  have heavy : ¬ task.light := by
    rcases caller with ⟨response, rfl⟩ | ⟨reason, rfl⟩ <;> exact not_false
  obtain ⟨taken, consumed, ending⟩ : ∃ taken, task.role = some (ptr, taken) ∧
      (taken = .responding ∨ taken = .timing ∨ taken = .finishing) := by
    rcases caller with ⟨response, rfl⟩ | ⟨reason, rfl⟩
    · exact ⟨.responding, rfl, .inl rfl⟩
    · cases reason with
      | kTimeout => exact ⟨.timing, rfl, .inr (.inl rfl)⟩
      | kShutdown => exact ⟨.finishing, rfl, .inr (.inr rfl)⟩
  have here : thread = .strand record.session := orderly.at_owner waiting owner found
  have alone := alone_others orderly split quiet heavy here found
  refine ⟨taken, consumed, ending, ?_⟩
  rw [drop_consumed split consumed]
  exact ⟨alone, turn_advanced { record with finished := true, done := false } orderly found rfl advanced requests
    (by simp [posts]) (fun _ => alone.starting)⟩

theorem inert_role {item : Task} (inert : item.inert = true) : item.role = none := by
  cases item <;> first | cases inert; done | rfl

theorem turns_advanced (orderly : Orderly state) (quiet : Pool.idle before thread)
    (split : state.pool = before ++ (thread, task) :: later) {caller : JobPtr} {called : Record}
    (owner : task.owner = some caller) (stored : state.core.records[caller]? = some called) (heavy : ¬ task.light)
    (found : state.core.records[ptr]? = some record) (advanced : Advanced state.core called.session effect)
    (requests : effect.core.requests = state.core.requests)
    (posts : ∀ role, count ptr role (effect.posts.map Prod.snd) = 0) :
    Relation.ReflTransGen Turn (life state ptr record) (life (ranState thread before later effect) ptr record) := by
  have waiting : (thread, task) ∈ state.pool := by simp [split]
  have here : thread = .strand called.session := orderly.at_owner waiting owner stored
  have void : Life.Calm (life state ptr record) { life state ptr record with load := others before later ptr } :=
    ⟨rfl, rfl, rfl, Nat.le_refl _, Nat.le_refl _, Nat.le_refl _, others_le split, .inl rfl⟩
  refine .tail (.single (.calm void)) ?_
  refine turn_advanced record orderly found rfl advanced requests posts fun same => ?_
  exact (alone_others orderly split quiet heavy (same ▸ here) found).starting

/-! ### The turns of any job -/

/-- The job is still there and has gone on by turns. -/
def Lives (state after : State) (ptr : JobPtr) (record : Record) : Prop :=
  ∃ record', after.core.records[ptr]? = some record' ∧
    Relation.ReflTransGen Turn (life state ptr record) (life after ptr record')

theorem lives_calm (split : state.pool = before ++ (thread, task) :: later)
    (kept : effect.core.records[ptr]? = some record)
    (queue : effect.core.queueOf record.session = state.core.queueOf record.session)
    (entry : (effect.core.requests.find record.roomRequestId).isSome →
      (state.core.requests.find record.roomRequestId).isSome)
    (fewer : ∀ role, count ptr role (items effect) ≤ if task.role = some (ptr, role) then 1 else 0) :
    Lives state (ranState thread before later effect) ptr record :=
  ⟨record, kept, .single (.calm (calm_ran split (by rw [queue]) (by rw [queue]) entry fewer))⟩

theorem items_next {list : List Task} (next : effect.next = list) (posts : effect.posts = []) : items effect = list := by
  simp [items, next, posts]

theorem entry_of_take {requests after : PendingRequests JobPtr} {id other : Nat}
    (taken : after = (requests.take id).1) (some : (after.find other).isSome) : (requests.find other).isSome := by
  rw [taken, PendingRequests.find_take] at some
  split at some
  · cases some
  · exact some

theorem lives_push {job : JobPtr} (split : state.pool = before ++ (thread, .pushAndRun job) :: later)
    (found : state.core.records[ptr]? = some record) {pushed : Record} {scheduler : JobScheduler JobPtr}
    (busy : scheduler.Busy) (stored : state.core.records[job]? = some pushed)
    (owner : state.core.schedulers[pushed.session]? = some scheduler)
    (records : effect.core.records = state.core.records)
    (schedulers : effect.core.schedulers = state.core.schedulers.set pushed.session (scheduler.pushAndRun job).1)
    (requests : effect.core.requests = state.core.requests)
    (produced : items effect = afterPush (scheduler.pushAndRun job).2) :
    Lives state (ranState thread before later effect) ptr record := by
  refine ⟨record, records ▸ found, .single ?_⟩
  by_cases mine : job = ptr
  · subst mine
    cases stored.symm.trans found
    exact turn_push split busy owner schedulers requests produced
  · have foreign : ∀ role, count ptr role (items effect) = 0 := by
      intro role
      rw [produced]
      rcases JobScheduler.pushAndRun_cases busy job with ⟨-, same⟩ | ⟨-, same⟩ | ⟨-, same⟩ <;>
        simp [same, afterPush, count_cons, Task.role, mine]
    obtain ⟨head, tail⟩ := push_other busy owner schedulers mine record.session
    exact .calm (calm_ran split head tail (fun some => requests ▸ some) (by simp [foreign]))

theorem lives_request {job : JobPtr} {message : ToRoom} (orderly : Orderly state) (linked : Linked state)
    (quiet : Pool.idle before thread) (split : state.pool = before ++ (thread, .run job) :: later)
    (found : state.core.records[ptr]? = some record) {asking : Record}
    (stored : state.core.records[job]? = some asking)
    (records : effect.core.records = state.core.records.set job
      { asking with done := true, roomRequestId := state.core.nextRequestId })
    (schedulers : effect.core.schedulers = state.core.schedulers) (requests : effect.core.requests = state.core.requests)
    (produced : items effect = [.addRequest job state.core.nextRequestId, .channelSend message]) :
    Lives state (ranState thread before later effect) ptr record := by
  by_cases mine : job = ptr
  · subst mine
    cases stored.symm.trans found
    exact ⟨_, by rw [records, heap_get_set found, if_pos rfl],
      .single (turn_request orderly linked quiet split found schedulers requests produced)⟩
  · refine lives_calm split (by rw [records, heap_get_set stored, if_neg mine, found]) (queueOf_same schedulers)
      (fun some => requests ▸ some) fun role => ?_
    simp [produced, count_cons, Task.role, mine]

theorem lives_add {job : JobPtr} {id : Nat} (linked : Linked state)
    (split : state.pool = before ++ (thread, .addRequest job id) :: later)
    (found : state.core.records[ptr]? = some record) :
    Lives state (ranState thread before later (addRequest now job id state.core)) ptr record := by
  have drawn : Drawn state.core job id := linked.items _ ((waiting_split split _).mpr (.inl rfl))
  by_cases mine : job = ptr
  · subst mine
    obtain ⟨stored, same, isId, -⟩ := drawn
    cases found.symm.trans same
    exact ⟨_, found, .single (turn_add split isId)⟩
  · refine lives_calm split found rfl (fun some => ?_) (by simp [items, addRequest])
    simp only [addRequest, PendingRequests.find_add] at some
    split at some
    · next same =>
      have nonzero : id ≠ 0 := drawn.choose_spec.2.2
      exact absurd (linked.unique _ _ id drawn ⟨record, found, same.symm, nonzero⟩) mine
    · exact some

theorem lives_finish (orderly : Orderly state) (quiet : Pool.idle before thread)
    (split : state.pool = before ++ (thread, task) :: later) (found : state.core.records[ptr]? = some record)
    {job : JobPtr} {concluding : Record}
    (caller : (∃ response, task = .handleRes job response) ∨ ∃ reason, task = .finishCancel job reason)
    (stored : state.core.records[job]? = some concluding)
    (records : effect.core.records = state.core.records.set job { concluding with finished := true, done := false })
    (advanced : Advanced state.core concluding.session effect) (requests : effect.core.requests = state.core.requests)
    (posts : effect.posts = []) : Lives state (ranState thread before later effect) ptr record := by
  by_cases mine : job = ptr
  · subst mine
    cases stored.symm.trans found
    obtain ⟨taken, consumed, ending, alone, turn⟩ :=
      turns_finish orderly quiet split caller found advanced requests posts
    exact ⟨_, by rw [records, heap_get_set found, if_pos rfl],
      .tail (.single (.concluded (load_pos split consumed) ending alone)) turn⟩
  · refine ⟨record, by rw [records, heap_get_set stored, if_neg mine, found], ?_⟩
    refine turns_advanced orderly quiet split ?_ stored ?_ found advanced requests (by simp [posts])
    · rcases caller with ⟨response, rfl⟩ | ⟨reason, rfl⟩ <;> rfl
    · rcases caller with ⟨response, rfl⟩ | ⟨reason, rfl⟩ <;> exact not_false

theorem lives_cancel {job : JobPtr} {reason : CancelReason} (orderly : Orderly state)
    (quiet : Pool.idle before thread) (split : state.pool = before ++ (thread, .cancel job reason) :: later)
    (found : state.core.records[ptr]? = some record) {cancelled : Record}
    (stored : state.core.records[job]? = some cancelled) (unfinished : cancelled.finished = false)
    (records : effect.core.records = state.core.records) (schedulers : effect.core.schedulers = state.core.schedulers)
    (requests : effect.core.requests = (state.core.requests.take cancelled.roomRequestId).1)
    (produced : items effect =
      (if (state.core.requests.find cancelled.roomRequestId).isSome then [sendCancel cancelled.roomRequestId] else []) ++
        [.finishCancel job reason]) :
    Lives state (ranState thread before later effect) ptr record := by
  by_cases mine : job = ptr
  · subst mine
    cases stored.symm.trans found
    exact ⟨_, records ▸ found, .single (turn_cancel orderly quiet split found unfinished schedulers requests produced)⟩
  · refine lives_calm split (records ▸ found) (queueOf_same schedulers) (entry_of_take requests) fun role => ?_
    have silent : count ptr role (if (state.core.requests.find cancelled.roomRequestId).isSome then
        [sendCancel cancelled.roomRequestId] else []) = 0 := by
      split <;> simp [sendCancel, count_cons, Task.role]
    rw [produced, count_append, silent]
    cases reason <;> simp [count_cons, Task.role, mine]

theorem lives_shutdown {session : SessionPtr} (orderly : Orderly state) (quiet : Pool.idle before thread)
    (split : state.pool = before ++ (thread, .shutdown session) :: later)
    (found : state.core.records[ptr]? = some record) {scheduler : JobScheduler JobPtr}
    (owner : state.core.schedulers[session]? = some scheduler) (records : effect.core.records = state.core.records)
    (schedulers : effect.core.schedulers = state.core.schedulers.set session scheduler.shutdown.1)
    (requests : effect.core.requests = state.core.requests)
    (produced : items effect = scheduler.shutdown.2.map (.cancel · .kShutdown)) :
    Lives state (ranState thread before later effect) ptr record := by
  by_cases mine : session = record.session
  · subst mine
    exact ⟨record, records ▸ found, .single (turn_shutdown orderly quiet split found owner schedulers requests produced)⟩
  · refine lives_calm split (records ▸ found) ?_ (fun some => requests ▸ some) fun role => ?_
    · rw [queueOf_set record.session owner schedulers, if_neg mine]
    · rw [count_eq_zero]
      · exact Nat.zero_le _
      · -- only jobs of the session's own queue are cancelled
        intro item mem about
        rw [produced] at mem
        obtain ⟨job, cancelled, rfl⟩ := List.mem_map.mp mem
        cases about
        have queued : ptr ∈ state.core.queueOf session := by
          rw [queueOf_found owner]
          rcases scheduler.shutdown_cases with same | same <;> rw [same] at cancelled
          · cases cancelled
          · exact cancelled
        exact mine (queued_session orderly found queued).symm

theorem lives_respond {message : ToUser} {id : Nat} {pending : Pending JobPtr} (linked : Linked state)
    (split : state.pool = before ++ (thread, .onRecv message) :: later)
    (found : state.core.records[ptr]? = some record) (entry : state.core.requests.find id = some pending)
    (records : effect.core.records = state.core.records) (schedulers : effect.core.schedulers = state.core.schedulers)
    (requests : effect.core.requests = (state.core.requests.take id).1)
    (produced : items effect = if pending.deadline ≤ now then onTimeout id pending.target
      else [.postResponse pending.target message]) :
    Lives state (ranState thread before later effect) ptr record := by
  by_cases mine : pending.target = ptr
  · obtain ⟨stored, same, isId, -⟩ := linked.entries id pending entry
    rw [mine] at same
    cases found.symm.trans same
    subst isId
    exact ⟨record, records ▸ found, .single (turn_respond split mine entry schedulers requests produced)⟩
  · refine lives_calm split (records ▸ found) (queueOf_same schedulers) (entry_of_take requests) fun role => ?_
    rw [produced]
    split <;> simp [onTimeout, sendCancel, count_cons, Task.role, mine]

theorem life_ran (orderly : Orderly state) (linked : Linked state) (quiet : Pool.idle before thread)
    (split : state.pool = before ++ (thread, task) :: later) (touch : Touch now state.core task effect)
    (found : state.core.records[ptr]? = some record) : Lives state (ranState thread before later effect) ptr record := by
  have known : ptr ≠ state.core.records.length := Nat.ne_of_lt (heap_bound found)
  cases touch with
  | steady records schedulers unasked inert sends =>
    refine lives_calm split (records ▸ found) (queueOf_same schedulers) (fun some => unasked.requests ▸ some)
      fun role => ?_
    rw [count_eq_zero fun item mem => by simp [inert_role (inert item mem)]]
    exact Nat.zero_le _
  | login records schedulers unasked next posts =>
    exact lives_calm split (records ▸ found) (queueOf_same schedulers) (fun some => unasked.requests ▸ some)
      (by simp [items, next, posts, count_cons, Task.role])
  | enqueue session kind records schedulers unasked next posts =>
    refine lives_calm split (by rw [records]; exact heap_get_append found _) (queueOf_same schedulers)
      (fun some => unasked.requests ▸ some) fun role => ?_
    simp [items, next, posts, count_cons, Task.role, Ne.symm known]
  | complete job called caller stored records advanced unasked inert =>
    refine ⟨record, records ▸ found, ?_⟩
    refine turns_advanced orderly quiet split ?_ stored ?_ found advanced unasked.requests fun role => ?_
    · rcases caller with rfl | rfl <;> rfl
    · rcases caller with rfl | rfl <;> exact not_false
    · refine count_eq_zero fun item mem => ?_
      obtain ⟨entry, here, rfl⟩ := List.mem_map.mp mem
      simp [inert_role (inert entry here)]
  | @logout job _ called stored records advanced unasked posts =>
    refine ⟨record, by rw [records]; exact heap_get_append found _, ?_⟩
    exact turns_advanced orderly quiet split rfl stored not_false found advanced unasked.requests
      (by simp [posts, count_cons, Task.role, Ne.symm known])
  | push pushed scheduler stored owner records schedulers unasked next posts =>
    exact lives_push split found (orderly.busy scheduler (List.mem_of_getElem? owner)) stored owner records schedulers
      unasked.requests (items_next next posts)
  | request asking message stored room records schedulers requests ids asks next posts =>
    exact lives_request orderly linked quiet split found stored records schedulers requests (items_next next posts)
  | add => exact lives_add linked split found
  | finish job concluding caller stored unfinished records advanced unasked posts =>
    exact lives_finish orderly quiet split found caller stored records advanced unasked.requests posts
  | cancel cancelled stored room unfinished records schedulers requests ids next posts =>
    exact lives_cancel orderly quiet split found stored unfinished records schedulers requests (items_next next posts)
  | shutdown scheduler owner records schedulers unasked next posts =>
    exact lives_shutdown orderly quiet split found owner records schedulers unasked.requests (items_next next posts)
  | respond id pending carries entry records schedulers requests ids next posts =>
    exact lives_respond linked split found entry records schedulers requests (items_next next posts)
  | send => exact lives_calm split found rfl id (by simp [items])
  | postResponse | postTimeout | disconnect =>
    exact lives_calm split found rfl id (by simp [items, count_cons, Task.role])

end Ran

/-! ## Every step -/

section Step

variable {state after : State} {ptr : JobPtr} {record : Record}

theorem count_timeouts (expired : List (Nat × JobPtr)) (role : Role) :
    count ptr role (expired.flatMap fun entry => onTimeout entry.1 entry.2) =
      if role = .expiring then expired.countP (·.2 = ptr) else 0 := by
  induction expired with
  | nil => simp
  | cons entry rest ih =>
    rw [List.flatMap_cons, count_append, ih, List.countP_cons]
    by_cases expires : role = .expiring
    · subst expires
      simp [onTimeout, sendCancel, count_cons, Task.role, Nat.add_comm]
    · simp [onTimeout, sendCancel, count_cons, Task.role, expires, Ne.symm expires]

theorem expired_count (linked : Linked state) (found : state.core.records[ptr]? = some record) (now : Nat) :
    (state.core.requests.expire now).2.countP (·.2 = ptr) =
      if (record.roomRequestId, ptr) ∈ (state.core.requests.expire now).2 then 1 else 0 := by
  have nodup : (state.core.requests.expire now).2.Nodup :=
    List.Nodup.of_map _ (state.core.requests.expire_nodup now)
  rw [← nodup.count, List.count]
  refine List.countP_congr fun entry mem => ?_
  obtain ⟨id, target⟩ := entry
  simp only [decide_eq_true_eq, beq_iff_eq, Prod.mk.injEq]
  refine ⟨?_, And.right⟩
  rintro rfl
  obtain ⟨deadline, entry, -⟩ := PendingRequests.mem_expire.mp mem
  obtain ⟨stored, same, isId, -⟩ := linked.entries _ _ entry
  cases found.symm.trans same
  exact ⟨isId.symm, rfl⟩

theorem turn_expired (linked : Linked state) (found : state.core.records[ptr]? = some record) (now : Nat) :
    Turn (life state ptr record) (life (expire now state) ptr record) := by
  have load : ∀ role, (life (expire now state) ptr record).load role = (life state ptr record).load role +
      if role = .expiring then (state.core.requests.expire now).2.countP (·.2 = ptr) else 0 := by
    intro role
    have plain : (Prod.snd ∘ Prod.mk Thread.timer : Task → Task) = id := rfl
    simp only [life, expire, List.map_append, List.map_map, plain, List.map_id, count_append, count_timeouts]
  rw [expired_count linked found] at load
  have filtered : (expire now state).core.requests.find record.roomRequestId =
      (state.core.requests.find record.roomRequestId).filter fun pending => now < pending.deadline :=
    state.core.requests.find_expire _ now
  by_cases late : (record.roomRequestId, ptr) ∈ (state.core.requests.expire now).2
  · obtain ⟨deadline, entry, ended⟩ := PendingRequests.mem_expire.mp late
    have waits : 0 < (life state ptr record).entry := by simp [life, entry]
    refine turn_to (.expired waits) rfl rfl rfl rfl rfl ?_ (funext fun role => ?_)
    · simp [life, filtered, entry, Option.filter, Nat.not_lt.mpr ended]
    · rw [load, if_pos late]
      by_cases expires : role = .expiring
      · simp [Life.put, expires]
      · simp [Life.put, expires]
  · refine .calm ⟨rfl, rfl, rfl, Nat.le_refl _, Nat.le_refl _, ?_, fun role => ?_, .inl rfl⟩
    · simp only [life, filtered]
      cases state.core.requests.find record.roomRequestId with
      | none => simp
      | some pending =>
        simp only [Option.isSome_some, if_true]
        split <;> simp
    · rw [load, if_neg late]
      simp

/-- Every step of the server is a sequence of turns for every job. -/
theorem life_step {label : Label} (orderly : Orderly state) (linked : Linked state)
    (moved : step state label = some after) (found : state.core.records[ptr]? = some record) :
    Lives state after ptr record := by
  cases moved_of_step moved with
  | arrived more records schedulers unasked outgoing pool inert quiet =>
    refine ⟨record, records ▸ found, .single ?_⟩
    have queue : after.core.queueOf record.session = state.core.queueOf record.session := by
      rcases schedulers with same | same
      · exact queueOf_same same
      · rw [Core.queueOf, Core.queueOf, same, heap_get_concat]
        split
        · next isNew => simp [isNew]
        · rfl
    have silent : ∀ role, count ptr role (more.map Prod.snd) = 0 := by
      intro role
      refine count_eq_zero fun item mem => ?_
      obtain ⟨entry, here, rfl⟩ := List.mem_map.mp mem
      simp [inert_role (inert entry here)]
    refine .calm ⟨rfl, rfl, rfl, ?_, ?_, ?_, fun role => ?_, .inl ?_⟩
    · simp only [life, queue, Nat.le_refl]
    · simp only [life, queue, Nat.le_refl]
    · simp only [life, unasked.requests, Nat.le_refl]
    · simp [life, pool, silent]
    · simp only [life, queue]
  | expired now quiet => exact ⟨record, found, .single (turn_expired linked found now)⟩
  | ran isRun split quiet executed => exact life_ran orderly linked quiet split (touch_of_executed executed) found

/-! ### New jobs -/

theorem unborn_role (orderly : Orderly state) (linked : Linked state) (absent : state.core.records[ptr]? = none)
    {item : Task} (waits : Waiting state item) (role : Role) : item.role ≠ some (ptr, role) := by
  intro about
  have owned : item.owner ≠ some ptr := by
    intro owner
    obtain ⟨thread, mem⟩ := waits
    obtain ⟨record, found, -⟩ := orderly.located _ mem ptr owner
    cases absent.symm.trans found
  have undrawn : ∀ id, ¬ Drawn state.core ptr id := by
    rintro id ⟨record, found, -⟩
    cases absent.symm.trans found
  have names := linked.items item waits
  cases item with
  | postResponse job response =>
    cases about
    obtain ⟨id, -, drawn⟩ := names
    exact undrawn id drawn
  | postTimeout job =>
    cases about
    obtain ⟨id, drawn⟩ := names
    exact undrawn id drawn
  | pushAndRun job | run job | addRequest job id | handleRes job response =>
    cases about
    exact owned rfl
  | cancel job reason | finishCancel job reason =>
    cases reason <;> cases about <;> exact owned rfl
  | _ => cases about

theorem unborn_queue (orderly : Orderly state) (absent : state.core.records[ptr]? = none) (session : SessionPtr) :
    ptr ∉ state.core.queueOf session := by
  intro mem
  cases owner : state.core.schedulers[session]? with
  | none => simp [Core.queueOf, owner] at mem
  | some scheduler =>
    rw [queueOf_found owner] at mem
    obtain ⟨record, found, -⟩ := orderly.queued session scheduler owner ptr mem
    cases absent.symm.trans found

theorem life_born {now : Nat} {thread : Thread} {task : Task} {before later : Pool Thread Task} {effect : Effect}
    (orderly : Orderly state) (linked : Linked state) (split : state.pool = before ++ (thread, task) :: later)
    (touch : Touch now state.core task effect) (absent : state.core.records[ptr]? = none)
    (found : effect.core.records[ptr]? = some record) :
    life (ranState thread before later effect) ptr record = .born := by
  have made : ∀ {session kind}, effect.core.records = state.core.records ++ [.make session kind] →
      ptr = state.core.records.length ∧ record = .make session kind := by
    intro session kind records
    rw [records, heap_get_concat] at found
    split at found
    · next same => exact ⟨same, (Option.some.inj found).symm⟩
    · cases absent.symm.trans found
  have born : ∀ {session kind}, effect.core.records = state.core.records ++ [.make session kind] →
      effect.core.requests = state.core.requests → (∀ other, ptr ∉ effect.core.queueOf other) →
      (∀ role, count ptr role (items effect) = if role = .pushing then 1 else 0) →
      life (ranState thread before later effect) ptr record = .born := by
    intro session kind records requests queues one
    obtain ⟨-, rfl⟩ := made records
    have nothing : others before later ptr = fun _ => 0 := by
      funext role
      refine count_eq_zero fun item mem => ?_
      obtain ⟨entry, here, rfl⟩ := List.mem_map.mp mem
      exact unborn_role orderly linked absent ((waiting_split split _).mpr (.inr ⟨entry.1, here⟩)) role
    -- a new job has request id 0, which is never drawn
    have unknown : state.core.requests.find 0 = none := by
      cases entry : state.core.requests.find 0 with
      | none => rfl
      | some pending => exact absurd rfl (linked.entries 0 pending entry).choose_spec.2.2
    have empty := queues session
    refine Life.ext rfl rfl rfl ?_ ?_ ?_ ?_
    · exact if_neg fun first => empty (List.mem_of_mem_head? first)
    · exact List.count_eq_zero.mpr fun mem => empty (List.mem_of_mem_tail mem)
    · simp [life, Record.make, Life.born, requests, unknown]
    · rw [load_produced one, nothing]
      rfl
  have same : effect.core.records = state.core.records → life (ranState thread before later effect) ptr record = .born :=
    fun records => absurd (absent.symm.trans (records ▸ found)) (by simp)
  have replaced : ∀ {target : JobPtr} {old new : Record}, state.core.records[target]? = some old →
      effect.core.records = state.core.records.set target new →
      life (ranState thread before later effect) ptr record = .born := by
    intro target old new stored records
    rw [records, heap_get_set stored] at found
    split at found
    · next isTarget => exact absurd (absent.symm.trans (isTarget ▸ stored)) (by simp)
    · exact absurd (absent.symm.trans found) (by simp)
  cases touch with
  | enqueue session kind records schedulers unasked next posts =>
    obtain ⟨isNew, -⟩ := made records
    refine born records unasked.requests (fun other => ?_) fun role => ?_
    · rw [queueOf_same schedulers]
      exact unborn_queue orderly absent other
    · simp [items, next, posts, count_cons, Task.role, isNew, eq_comm]
  | logout called stored records advanced unasked posts =>
    obtain ⟨isNew, -⟩ := made records
    refine born records unasked.requests (fun other mem => ?_) fun role => ?_
    · cases advanced with
      | same schedulers next =>
        rw [queueOf_same schedulers] at mem
        exact unborn_queue orderly absent other mem
      | popped scheduler owner schedulers next =>
        rw [queueOf_set other owner schedulers, JobScheduler.completeCurrent_q] at mem
        split at mem
        · exact unborn_queue orderly absent _ (by rw [queueOf_found owner]; exact List.mem_of_mem_tail mem)
        · exact unborn_queue orderly absent other mem
    · have started : count ptr role effect.next = 0 := by
        refine count_eq_zero fun item mem about => ?_
        obtain ⟨job, told, rfl, known, -⟩ := advanced_placed orderly advanced mem
        cases about
        cases absent.symm.trans known
      rw [items, count_append, started, posts]
      simp [count_cons, Task.role, isNew, eq_comm]
  | request asking message stored room records | finish job concluding caller stored unfinished records =>
    exact replaced stored records
  | send | add | postResponse | postTimeout | disconnect => exact same rfl
  | _ => exact same ‹_›

/-! ## Whole runs -/

structure Tracked (state : State) : Prop where
  orderly : Orderly state
  linked : Linked state
  sane : ∀ (ptr : JobPtr) (record : Record), state.core.records[ptr]? = some record → Sane (life state ptr record)

theorem Tracked.starts (tracked : Tracked state) {task : Task} (waits : Waiting state task) :
    Starts state.core task := by
  rintro ptr record rfl found
  obtain ⟨thread, mem⟩ := waits
  obtain ⟨before, later, split⟩ := List.append_of_mem mem
  have starting : 0 < (life state ptr record).load .starting := load_pos split rfl
  obtain ⟨unasked, -⟩ := (tracked.sane ptr record found).fresh (by omega)
  simpa [life] using unasked

theorem tracked_step {label : Label} (tracked : Tracked state) (moved : step state label = some after) :
    Tracked after where
  orderly := orderly_step tracked.orderly moved
  linked := linked_step tracked.linked moved fun _ => tracked.starts
  sane ptr record found := by
    cases known : state.core.records[ptr]? with
    | some earlier =>
      obtain ⟨record', stored, turns⟩ := life_step tracked.orderly tracked.linked moved known
      cases stored.symm.trans found
      exact sane_turns (tracked.sane ptr earlier known) turns
    | none =>
      cases moved_of_step moved with
      | arrived more records => cases known.symm.trans (records ▸ found)
      | expired now quiet => cases known.symm.trans found
      | ran isRun split quiet executed =>
        rw [life_born tracked.orderly tracked.linked split (touch_of_executed executed) known found]
        exact sane_born

theorem linked_initial : Linked initial where
  entries := by simp [initial, PendingRequests.find]
  items := by simp [initial, Waiting]
  positive := by simp [initial]
  bounded := by simp [initial, Drawn, Core.records]
  unique := by simp [initial, Drawn, Core.records]

theorem tracked_reached {history : History} (reached : Reaches history state) : Tracked state :=
  reached.invariant ⟨orderly_initial, linked_initial, by simp [initial, Core.records]⟩ fun _ _ _ => tracked_step

end Step

end Rsp.UserServer
