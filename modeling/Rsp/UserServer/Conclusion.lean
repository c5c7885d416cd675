import Rsp.UserServer.JobLife

/-! How a room job of the User server ends.

A job that has run is concluded once: by the response, by the timeout or by the shutdown
of its session. Its completion is called then, its one reply goes out unless the session
is gone, and its request is withdrawn from Room at most once.
-/

set_option autoImplicit false

namespace Rsp.UserServer

open Message Rsp.Job Foundation

/-! ## Cancellations sent to Room -/

def Core.cancels (core : Core) (id : Nat) : Nat := core.outgoing.count (.cancelRequest { requestId := id })

def Core.entry (core : Core) (id : Nat) : Nat := if (core.requests.find id).isSome then 1 else 0

def Task.spends (id : Nat) : Task → Bool
  | .addRequest _ other => other = id
  | .channelSend message => message = .cancelRequest { requestId := id }
  | _ => false

/-- What a request can still cost: the entry to come, the entry, a cancellation on its way
and the cancellations sent. -/
def credit (state : State) (id : Nat) : Nat :=
  (state.pool.map Prod.snd).countP (Task.spends id) + state.core.cancels id +
    state.core.entry id

section Outgoing

variable {now : Nat} {core : Core} {ptr : JobPtr} {task : Task} {effect : Effect}

theorem completed_sends (completed : Completed core ptr effect) :
    effect.core.outgoing = core.outgoing ∧ effect.core.sent = core.sent := by
  cases completed <;> exact ⟨rfl, rfl⟩

theorem finished_sends (finished : Finished core ptr effect) :
    effect.core.outgoing = core.outgoing ∧ effect.core.sent = core.sent := by
  cases finished with
  | again | unheld => exact ⟨rfl, rfl⟩
  | called found unfinished held completed =>
    obtain ⟨outgoing, sent⟩ := completed_sends completed
    exact ⟨outgoing, sent⟩

theorem outgoing_of_executed (executed : Executed now core task effect) :
    effect.core.outgoing = core.outgoing ∨ (∃ message, effect.core.outgoing = core.outgoing ++ [.fwdRoom message]) ∨
      ∃ message, task = .channelSend message ∧ effect.core.outgoing = core.outgoing ++ [message] := by
  cases executed with
  | loggedOut found owner kind completed | stopped found owner kind completed
  | clientForwarded found owner kind completed | leaveNotified found owner kind completed
  | sessionAdded found owner completed => exact .inl (completed_sends completed).1
  | forwarded found owner kind completed => exact .inr (.inl ⟨_, (completed_sends completed).1⟩)
  | channelSent => exact .inr (.inr ⟨_, rfl, rfl⟩)
  | answered found unfinished answer owner finished | shutdownFinished found finished
  | timeoutFinished found timeout finished => exact .inl (finished_sends finished).1
  | @sessionReceived session message => cases message <;> exact .inl rfl
  | _ => exact .inl rfl

end Outgoing

section Credit

variable {state after : State} {id : Nat}

def Spent (id : Nat) (state : State) : Prop := id < state.core.nextRequestId ∧ credit state id = 0

end Credit

/-! ## Conclusions -/

inductive Conclusion where
  | response (response : ToUser)
  | timeout
  | shutdown
  deriving DecidableEq, Repr

def Task.concludes (ptr : JobPtr) : Task → Option Conclusion
  | .handleRes job response => if job = ptr then some (.response response) else none
  | .finishCancel job .kTimeout => if job = ptr then some .timeout else none
  | .finishCancel job .kShutdown => if job = ptr then some .shutdown else none
  | _ => none

def Conclusion.Replied (session : SessionPtr) (kind : JobKind) (replies : List (SessionPtr × ToClient)) :
    Conclusion → Prop
  | .response message => ∃ frame, kind.answer message = some frame ∧ replies = [(session, frame)]
  | .timeout => ∃ frame, kind.timeoutResponse = some frame ∧ replies = [(session, frame)]
  | .shutdown => replies = []

def Core.completed (core : Core) (ptr : JobPtr) : Bool := (core.jobs[ptr]?).any Job.completed

structure Calls (ptr : JobPtr) (session : SessionPtr) (core : Core) (effect : Effect) : Prop where
  fresh : core.completed ptr = false
  flag : effect.core.completed ptr = true
  advanced : ∃ scheduler, core.schedulers[session]? = some scheduler ∧
    effect.core.schedulers = core.schedulers.set session scheduler.completeCurrent.1 ∧
    effect.next = scheduler.completeCurrent.2.toList.map .run

/-- An item leaves the completion of a job alone. Of the job's own items only its push has to do
with the scheduler. -/
structure Spares (ptr : JobPtr) (core : Core) (task : Task) (after : Core) : Prop where
  flag : after.completed ptr = core.completed ptr
  schedulers : task.owner = some ptr → task ≠ .pushAndRun ptr → after.schedulers = core.schedulers

inductive Fate (ptr : JobPtr) (core : Core) (record : Record) (task : Task) (effect : Effect) : Prop where
  | same (kept : effect.core.records[ptr]? = some record) (other : task ≠ .run ptr)
      (silent : task.owner = some ptr → effect.core.sent = core.sent) (spares : Spares ptr core task effect.core)
  | started (isRun : task = .run ptr) (silent : effect.core.sent = core.sent)
      (kept : effect.core.records[ptr]? = some { record with done := true, roomRequestId := core.nextRequestId })
      (spares : Spares ptr core task effect.core)
  | concluded (conclusion : Conclusion) (replies : List (SessionPtr × ToClient))
      (how : task.concludes ptr = some conclusion) (unfinished : record.finished = false)
      (sent : effect.core.sent = core.sent ++ replies) (replied : conclusion.Replied record.session record.kind replies)
      (kept : effect.core.records[ptr]? = some { record with finished := true, done := false })
      (calls : record.done = true → core.completed ptr = false → Calls ptr record.session core effect)

section Completion

variable {now : Nat} {core after : Core} {ptr other : JobPtr} {job : Job} {task : Task} {effect : Effect}

end Completion

/-! ## Who is added to the sessions -/

def Enlisted (state : State) : Prop :=
  ∀ entry ∈ state.pool, ∀ ptr, entry.2 = .addSession ptr →
    ∃ record, state.core.records[ptr]? = some record ∧ record.kind.isRoom = false

theorem login_of_touch {now : Nat} {core : Core} {task : Task} {effect : Effect} {ptr : JobPtr}
    (touch : Touch now core task effect) (adds : .addSession ptr ∈ items effect) :
    ∃ record, core.records[ptr]? = some record ∧ record.kind.isRoom = false := by
  have advanced : ∀ {session : SessionPtr}, Advanced core session effect → .addSession ptr ∉ effect.next := by
    rintro session (⟨schedulers, next⟩ | ⟨scheduler, owner, schedulers, next⟩) <;> simp [next]
  cases touch with
  | login records schedulers unasked next posts record found login =>
    simp only [items, next, posts, List.map_nil, List.append_nil, List.mem_singleton, Task.addSession.injEq] at adds
    subst adds
    exact ⟨record, found, login⟩
  | steady records schedulers unasked inert sends => cases inert _ adds
  | complete job record caller found records goes unasked inert =>
    rcases List.mem_append.mp adds with next | posted
    · exact absurd next (advanced goes)
    · obtain ⟨entry, mem, same⟩ := List.mem_map.mp posted
      have quiet := inert entry mem
      rw [same] at quiet
      cases quiet
  | logout record found records goes unasked posts
  | finish job record caller found unfinished records goes unasked posts =>
    exact absurd adds (by simp [items, posts, advanced goes])
  | push record scheduler found owner records schedulers unasked next posts =>
    refine absurd adds ?_
    simp only [items, next, posts, afterPush]
    split <;> simp
  | cancel record found room unfinished records schedulers requests ids next posts =>
    refine absurd adds ?_
    simp only [items, next, posts]
    split <;> simp [sendCancel]
  | respond id pending carries found records schedulers requests ids next posts =>
    refine absurd adds ?_
    simp only [items, next, posts]
    split <;> simp [onTimeout, sendCancel]
  | enqueue session kind records schedulers unasked next posts
  | request record message found room records schedulers requests ids asks next posts
  | shutdown scheduler owner records schedulers unasked next posts => simp [items, next, posts] at adds
  | add => simp [items, addRequest] at adds
  | send | postResponse | postTimeout | disconnect => simp [items] at adds

theorem enlisted_step {state after : State} {label : Label} (enlisted : Enlisted state)
    (moved : step state label = some after) : Enlisted after := by
  have kept : ∀ {ptr : JobPtr}, (∃ record, state.core.records[ptr]? = some record ∧ record.kind.isRoom = false) →
      ∃ record, after.core.records[ptr]? = some record ∧ record.kind.isRoom = false := by
    rintro ptr ⟨record, found, login⟩
    obtain ⟨record', stored, -, kind⟩ := step_keeps_job moved found
    exact ⟨record', stored, kind ▸ login⟩
  intro entry mem ptr isAdd
  apply kept
  cases moved_of_step moved with
  | arrived more records schedulers unasked outgoing pool inert quiet =>
    rw [pool] at mem
    rcases List.mem_append.mp mem with mem | mem
    · exact enlisted entry mem ptr isAdd
    · have quiet := inert entry mem
      rw [isAdd] at quiet
      cases quiet
  | expired now quiet =>
    rcases List.mem_append.mp mem with mem | mem
    · exact enlisted entry mem ptr isAdd
    · obtain ⟨item, expired, rfl⟩ := List.mem_map.mp mem
      obtain ⟨pair, -, told⟩ := List.mem_flatMap.mp expired
      simp only [onTimeout, sendCancel, List.mem_cons, List.not_mem_nil, or_false] at told
      rcases told with rfl | rfl <;> cases isAdd
  | @ran thread now task before later effect isRun split quiet executed =>
    have touch := touch_of_executed executed
    rcases List.mem_append.mp mem with mem | mem
    · rcases List.mem_append.mp mem with mem | mem
      · obtain ⟨item, here, rfl⟩ := List.mem_map.mp mem
        subst isAdd
        exact login_of_touch touch (List.mem_append_left _ here)
      · exact enlisted entry (mem_of_rest split mem) ptr isAdd
    · refine login_of_touch touch (List.mem_append_right _ (List.mem_map.mpr ⟨entry, mem, isAdd⟩))

theorem enlisted_reached {history : History} {state : State} (reached : Reaches history state) : Enlisted state :=
  reached.invariant (by simp [Enlisted, initial]) fun _ _ _ => enlisted_step

section Fate

variable {now : Nat} {core : Core} {ptr : JobPtr} {record : Record} {task : Task} {effect : Effect}

end Fate

/-! ## What a run shows of a job -/

def Core.finished (core : Core) (ptr : JobPtr) : Bool := (core.jobs[ptr]?).any Job.finished

def conclusion (ptr : JobPtr) (move : Transition State Label) : Option Conclusion :=
  if move.before.core.finished ptr = false ∧ move.after.core.finished ptr = true then
    (executed move).bind fun ran => ran.2.concludes ptr
  else none

/-- A transition leaves the completion of a job alone. -/
def sparesCompletion (ptr : JobPtr) (move : Transition State Label) : Prop :=
  move.after.core.completed ptr = move.before.core.completed ptr ∧
    ∀ now task, executed move = some (now, task) → task.owner = some ptr → task ≠ .pushAndRun ptr →
      move.after.core.schedulers = move.before.core.schedulers

def repliesOf (ptr : JobPtr) (move : Transition State Label) : List (SessionPtr × ToClient) :=
  match executed move with
  | some (_, task) =>
      if task.owner = some ptr then move.after.core.sent.drop move.before.core.sent.length else []
  | none => []

def runs (ptr : JobPtr) (move : Transition State Label) : Prop := ∃ now, executed move = some (now, .run ptr)

section Observed

variable {core : Core} {ptr : JobPtr} {record : Record} {state after : State} {label : Label}

theorem records_get (core : Core) (ptr : JobPtr) : core.records[ptr]? = (core.jobs[ptr]?).map Job.record := by
  simp [Core.records]

theorem finished_record (found : core.records[ptr]? = some record) : core.finished ptr = record.finished := by
  rw [records_get, Option.map_eq_some_iff] at found
  obtain ⟨job, known, rfl⟩ := found
  simp [Core.finished, known, Job.record]

variable {history : History} {move : Transition State Label}

structure Silent (ptr : JobPtr) (history : History) : Prop where
  concludes : history.filterMap (conclusion ptr) = []
  replies : history.flatMap (repliesOf ptr) = []
  spares : ∀ move ∈ history, sparesCompletion ptr move
  runs : ∀ move ∈ history, ¬ runs ptr move

end Observed

end Rsp.UserServer
