import Mathlib.Data.Finset.Card
import Rsp.UserServer.Asking
import Rsp.UserServer.Rooms

/-! What a session owes its client.

A request becomes a job, and the job answers with one frame: a room job when it is finished,
a login or a logout when it runs. The requests that still wait and the jobs that have not
answered are counted together; a frame that answers uses one of them up, and every other frame
of the session is a notification or a pong.
-/

set_option autoImplicit false

namespace Rsp.UserServer

open Message Rsp.Job Foundation

/-- The job that a request of a client becomes, for the requests with a reply. -/
def requestedJob : FromClient → Option JobKind
  | .reqLogin request => some (.login request)
  | .reqLogout request => some (.logout request)
  | .reqCreateRoom request => some (.createRoom request)
  | .reqJoinRoom request => some (.joinRoom request)
  | .reqLeaveRoom request => some (.leaveRoom request)
  | .ping | .pong | .fwdRoom _ => none

def isRequest (message : FromClient) : Bool := (requestedJob message).isSome

def isReply : ToClient → Bool
  | .resLogin _ | .resLogout _ | .resCreateRoom _ | .resJoinRoom _ | .resLeaveRoom _ => true
  | _ => false

namespace JobKind

def replies : JobKind → Bool
  | .login _ | .logout _ | .createRoom _ | .joinRoom _ | .leaveRoom _ => true
  | _ => false

def repliesWith : JobKind → ToClient → Bool
  | .login _, .resLogin _ => true
  | .logout _, .resLogout _ => true
  | .createRoom _, .resCreateRoom _ => true
  | .joinRoom _, .resJoinRoom _ => true
  | .leaveRoom _, .resLeaveRoom _ => true
  | _, _ => false

end JobKind

def Task.demand (conn : SessionPtr) : Task → Option JobKind
  | .onSessionRecv session message => if session = conn then requestedJob message else none
  | .notify session kind => if session = conn ∧ kind.replies = true then some kind else none
  | _ => none

def owes (state : State) (conn : SessionPtr) (ptr : JobPtr) : Bool :=
  (state.core.records[ptr]?).any fun record => record.session = conn && record.kind.replies &&
    (if record.kind.isRoom then !record.finished else 0 < (life state ptr record).unrun)

def owing (state : State) (conn : SessionPtr) : Finset JobPtr :=
  (Finset.range state.core.records.length).filter fun ptr => owes state conn ptr

/-- The requests that wait to become jobs and the jobs that are still to answer. -/
def owed (state : State) (conn : SessionPtr) : Nat :=
  state.pool.countP (fun entry => (entry.2.demand conn).isSome) + (owing state conn).card

def Demands (state : State) (conn : SessionPtr) (kind : JobKind) : Prop :=
  (∃ item, Waiting state item ∧ item.demand conn = some kind) ∨
    ∃ ptr record, owes state conn ptr = true ∧ state.core.records[ptr]? = some record ∧ record.kind = kind

section Owes

variable {state after : State} {conn : SessionPtr} {ptr : JobPtr} {record : Record} {label : Label} {kind : JobKind}

theorem owes_iff (found : state.core.records[ptr]? = some record) :
    owes state conn ptr = true ↔ record.session = conn ∧ record.kind.replies = true ∧
      (if record.kind.isRoom then record.finished = false else 0 < (life state ptr record).unrun) := by
  rw [owes, found, Option.any_some]
  cases record.kind.isRoom <;> simp [and_assoc]

theorem mem_owing : ptr ∈ owing state conn ↔ owes state conn ptr = true := by
  simp only [owing, Finset.mem_filter, Finset.mem_range, and_iff_right_iff_imp]
  intro owes
  cases found : state.core.records[ptr]? with
  | none => simp [UserServer.owes, found] at owes
  | some record => exact heap_bound found

theorem owed_pos (demands : Demands state conn kind) : 0 < owed state conn := by
  rcases demands with ⟨item, ⟨thread, waits⟩, demand⟩ | ⟨ptr, record, owes, -⟩
  · have counted : 0 < state.pool.countP fun entry => (entry.2.demand conn).isSome :=
      List.countP_pos_iff.mpr ⟨_, waits, by simp [demand]⟩
    exact Nat.lt_of_lt_of_le counted (Nat.le_add_right _ _)
  · have counted : 0 < (owing state conn).card := Finset.card_pos.mpr ⟨ptr, mem_owing.mpr owes⟩
    exact Nat.lt_of_lt_of_le counted (Nat.le_add_left _ _)

theorem owed_initial (conn : SessionPtr) : owed initial conn = 0 := by
  simp [owed, owing, initial, Core.records]

theorem owes_step (tracked : Tracked state) (moved : step state label = some after)
    (found : state.core.records[ptr]? = some record) (later : owes after conn ptr = true) :
    owes state conn ptr = true := by
  obtain ⟨record', stored, turns⟩ := life_step tracked.orderly tracked.linked moved found
  obtain ⟨kept, same, owner, kind⟩ := step_keeps_job moved found
  cases same.symm.trans stored
  have past := past_turns turns
  rw [owes_iff stored, owner, kind] at later
  rw [owes_iff found]
  refine ⟨later.1, later.2.1, ?_⟩
  have still := later.2.2
  by_cases room : record.kind.isRoom = true
  · rw [if_pos room] at still ⊢
    cases ended : record.finished with
    | false => rfl
    | true => cases (past.2 ended).symm.trans still
  · rw [if_neg room] at still ⊢
    exact Nat.pos_of_ne_zero fun ran => Nat.ne_of_gt still (past.1 ran)

end Owes

/-! ## What an item makes -/

section Made

variable {now : Nat} {core : Core} {task : Task} {effect : Effect} {ptr : JobPtr}

theorem completed_jobs {core' : Core} (completed : Completed core' ptr effect) :
    effect.core.records.length = core'.records.length := by
  obtain ⟨record, -, records, -⟩ := advanced_of_completed completed
  rw [records]

theorem finished_jobs {core' : Core} (finished : Finished core' ptr effect) :
    effect.core.records.length = core'.records.length := by
  rcases finish_of_finished finished with ⟨rfl, -⟩ | ⟨record, -, -, records, -⟩
  · rfl
  · rw [records, List.length_set]

theorem made_of_executed (executed : Executed now core task effect) :
    effect.core.records.length = core.records.length ∨
      ∃ target kind, effect.core.records = core.records ++ [.make target kind] ∧
        (kind.replies = true → task.demand target = some kind) := by
  have enqueued : ∀ target kind, (core.enqueueJob target kind).core.records = core.records ++ [.make target kind] := by
    intro target kind
    simp [Core.enqueueJob, Core.records, Job.record, Record.make]
  cases executed with
  | @notified target kind => exact .inr ⟨target, kind, enqueued target kind, fun replies => by simp [Task.demand, replies]⟩
  | @unknownReceived target => exact .inr ⟨target, .stop false, enqueued _ _, by simp [JobKind.replies]⟩
  | @sessionReceived target message =>
    cases message with
    | ping | pong => exact .inl rfl
    | reqLogin request => exact .inr ⟨target, .login request, enqueued _ _, fun _ => if_pos rfl⟩
    | reqLogout request => exact .inr ⟨target, .logout request, enqueued _ _, fun _ => if_pos rfl⟩
    | reqCreateRoom request => exact .inr ⟨target, .createRoom request, enqueued _ _, fun _ => if_pos rfl⟩
    | reqJoinRoom request => exact .inr ⟨target, .joinRoom request, enqueued _ _, fun _ => if_pos rfl⟩
    | reqLeaveRoom request => exact .inr ⟨target, .leaveRoom request, enqueued _ _, fun _ => if_pos rfl⟩
    | fwdRoom request => exact .inr ⟨target, .forwardMessage request, enqueued _ _, by simp [JobKind.replies]⟩
  | @loggedOut ptr job owned request effect found owner kind completed =>
    obtain ⟨record, -, records, -⟩ := advanced_of_completed completed
    refine .inr ⟨job.session, .stop false, records.trans ?_, by simp [JobKind.replies]⟩
    simp [Core.records, Job.record, Record.make]
  | stopped found owner kind completed | forwarded found owner kind completed
  | clientForwarded found owner kind completed | leaveNotified found owner kind completed
  | sessionAdded found owner completed =>
    have same := completed_jobs completed
    exact .inl same
  | answered found unfinished answer owner finished | timeoutFinished found timeout finished =>
    have same := finished_jobs finished
    exact .inl same
  | shutdownFinished found finished => exact .inl (finished_jobs finished)
  | requested found owner room => exact .inl (by simp [Core.records, Core.setJob])
  | pushed | loggedIn | requestAdded | channelSent | answeredLate | cancelIgnored | cancelled | shutDown | responded
  | clientPassed | leavePassed | responsePosted | timeoutPosted | closedAgain | closed | removed | disconnected =>
    exact .inl rfl

def Task.undemanding (conn : SessionPtr) : Task → Bool
  | .onSessionRecv session _ => session ≠ conn
  | item => (item.demand conn).isNone

theorem undemanding_demand {item : Task} {conn : SessionPtr} (undemanding : item.undemanding conn = true) :
    item.demand conn = none := by
  cases item with
  | onSessionRecv session message => exact if_neg (by simpa [Task.undemanding] using undemanding)
  | _ => simpa [Task.undemanding] using undemanding

theorem undemanding_of_executed (executed : Executed now core task effect) (conn : SessionPtr) :
    ∀ item ∈ items effect, item.undemanding conn = true := by
  have runs : ∀ {list : List Task}, (∀ item ∈ list, ∃ job, item = .run job) → ∀ item ∈ list, item.undemanding conn = true := by
    intro list only item mem
    obtain ⟨job, rfl⟩ := only item mem
    rfl
  have completes : ∀ {core' : Core} {ptr : JobPtr} {done : Effect}, Completed core' ptr done →
      ∀ item ∈ done.next, item.undemanding conn = true :=
    fun completed item mem => runs (completed_runs completed) item (List.mem_append_left _ mem)
  cases executed with
  | @pushed ptr job owned found owner =>
    simp only [items]
    cases (owned.scheduler.pushAndRun ptr).2 <;> simp [afterPush, Task.undemanding, Task.demand]
  | loggedOut found owner kind completed =>
    intro item mem
    rcases List.mem_append.mp mem with mem | mem
    · exact completes completed item mem
    · obtain rfl : item = .pushAndRun core.jobs.length := by simpa using mem
      rfl
  | @stopped ptr job owned forceClose effect found owner kind completed =>
    intro item mem
    rcases List.mem_append.mp mem with mem | mem
    · exact completes completed item mem
    · cases forceClose with
      | false => simp at mem
      | true =>
        obtain rfl : item = .finishClose job.session := by simpa using mem
        rfl
  | forwarded found owner kind completed | clientForwarded found owner kind completed
  | leaveNotified found owner kind completed | sessionAdded found owner completed => exact runs (completed_runs completed)
  | answered found unfinished answer owner finished | shutdownFinished found finished
  | timeoutFinished found timeout finished => exact runs (finished_runs finished)
  | cancelled found room unfinished =>
    simp only [items]
    split <;> simp [sendCancel, Task.undemanding, Task.demand]
  | shutDown owner =>
    intro item mem
    simp only [items, List.map_nil, List.append_nil] at mem
    obtain ⟨job, -, rfl⟩ := List.mem_map.mp mem
    rfl
  | @responded message id carries =>
    simp only [items, sendToWaiter]
    cases (core.requests.complete id now).2 with
    | none => simp
    | some resolution => cases resolution <;> simp [onTimeout, sendCancel, Task.undemanding, Task.demand]
  | @clientPassed message | @leavePassed message =>
    simp only [items, passToSession]
    cases core.manager.findSession message.uid <;> simp [Task.undemanding, Task.demand, JobKind.replies]
  | @sessionReceived target message =>
    cases message <;> simp [items, onSessionRecv, Core.enqueueJob, Task.undemanding, Task.demand]
  | removed =>
    simp only [items, onConnClosed]
    cases (core.manager.removeSession _ _).2 <;> simp [Task.undemanding, Task.demand]
  | notified | unknownReceived => simp [items, Core.enqueueJob, Task.undemanding, Task.demand]
  | loggedIn | requested | requestAdded | channelSent | answeredLate | cancelIgnored | responsePosted | timeoutPosted
  | closedAgain | closed | disconnected => simp [items, addRequest, Task.undemanding, Task.demand]

end Made

/-! ## What a step answers -/

section Ran

variable {now : Nat} {state : State} {thread : Thread} {task : Task} {before later : Pool Thread Task}
  {effect : Effect} {conn : SessionPtr} {ptr : JobPtr} {record : Record} {kind : JobKind} {label : Label}

/-- A job that is to answer was to answer before, or was just made for a request. -/
theorem owes_ran (tracked : Tracked state) (moved : step state label = some (ranState thread before later effect))
    (executed : Executed now state.core task effect) (later' : owes (ranState thread before later effect) conn ptr = true) :
    owes state conn ptr = true ∨ ptr = state.core.records.length ∧
      ∃ kind, task.demand conn = some kind ∧ effect.core.records[ptr]? = some (.make conn kind) := by
  cases known : state.core.records[ptr]? with
  | some record => exact .inl (owes_step tracked moved known later')
  | none =>
    right
    have made : ∃ record, effect.core.records[ptr]? = some record := by
      cases found : effect.core.records[ptr]? with
      | none => simp [owes, found] at later'
      | some record => exact ⟨record, rfl⟩
    obtain ⟨record, found⟩ := made
    rcases made_of_executed executed with same | ⟨target, kind, records, demand⟩
    · have bound : state.core.records.length ≤ ptr := List.getElem?_eq_none_iff.mp known
      have inside := heap_bound found
      omega
    · rw [records, heap_get_concat] at found
      split at found
      · next isNew =>
        cases found
        have stored : (ranState thread before later effect).core.records[ptr]? = some (.make target kind) := by
          simp [records, isNew]
        obtain ⟨rfl, replies, -⟩ := (owes_iff stored).mp later'
        exact ⟨isNew, kind, demand replies, stored⟩
      · cases known.symm.trans found

theorem demands_ran (tracked : Tracked state) (moved : step state label = some (ranState thread before later effect))
    (split : state.pool = before ++ (thread, task) :: later) (executed : Executed now state.core task effect)
    (demands : Demands (ranState thread before later effect) conn kind) : Demands state conn kind := by
  rcases demands with ⟨item, waits, demand⟩ | ⟨ptr, record, owes, found, rfl⟩
  · rcases (waiting_ran item).mp waits with mem | other
    · cases (undemanding_demand (undemanding_of_executed executed conn item mem)).symm.trans demand
    · exact .inl ⟨item, (waiting_split split item).mpr (.inr other), demand⟩
  · rcases owes_ran tracked moved executed owes with earlier | ⟨-, kind, demand, stored⟩
    · right
      cases known : state.core.records[ptr]? with
      | none => simp [UserServer.owes, known] at earlier
      | some old =>
        obtain ⟨kept, same, -, sameKind⟩ := step_keeps_job moved known
        cases same.symm.trans found
        exact ⟨ptr, old, earlier, known, sameKind.symm⟩
    · cases stored.symm.trans found
      exact .inl ⟨task, (waiting_split split task).mpr (.inl rfl), demand⟩

/-- What is left of the requests and the jobs, without the job that has just answered, if any. -/
theorem owed_ran (tracked : Tracked state) (moved : step state label = some (ranState thread before later effect))
    (split : state.pool = before ++ (thread, task) :: later) (executed : Executed now state.core task effect)
    (paid : Finset JobPtr) (owed_before : paid ⊆ owing state conn)
    (settled : ∀ ptr ∈ paid, owes (ranState thread before later effect) conn ptr = false) :
    owed (ranState thread before later effect) conn + paid.card ≤ owed state conn := by
  let fresh : Finset JobPtr := if (task.demand conn).isSome then {state.core.records.length} else ∅
  have disjoint : Disjoint (owing (ranState thread before later effect) conn) paid := by
    rw [Finset.disjoint_left]
    intro ptr owing mem
    cases (settled ptr mem).symm.trans (mem_owing.mp owing)
  have within : owing (ranState thread before later effect) conn ∪ paid ⊆ owing state conn ∪ fresh := by
    intro ptr mem
    rcases Finset.mem_union.mp mem with mem | mem
    · rcases owes_ran tracked moved executed (mem_owing.mp mem) with earlier | ⟨isNew, kind, demand, -⟩
      · exact Finset.mem_union_left _ (mem_owing.mpr earlier)
      · exact Finset.mem_union_right _ (by simp [fresh, demand, isNew])
    · exact Finset.mem_union_left _ (owed_before mem)
  have jobs := Finset.card_le_card within
  rw [Finset.card_union_of_disjoint disjoint] at jobs
  have union := Finset.card_union_le (owing state conn) fresh
  have counted : fresh.card = (task.demand conn).isSome.toNat := by
    cases demand : task.demand conn <;> simp [fresh, demand]
  have silent : (items effect).countP (fun item : Task => (item.demand conn).isSome) = 0 := by
    rw [List.countP_eq_zero]
    intro item mem
    simp [undemanding_demand (undemanding_of_executed executed conn item mem)]
  have pool : (ranState thread before later effect).pool.countP (fun entry => (entry.2.demand conn).isSome) =
      (before ++ later).countP fun entry => (entry.2.demand conn).isSome := by
    have ran := @countP_ran _ _ _ thread before later effect fun item : Task => (item.demand conn).isSome
    rw [silent, Nat.zero_add] at ran
    exact ran
  have earlier := countP_split (fun item : Task => (item.demand conn).isSome) split
  unfold owed
  omega

theorem owed_kept (tracked : Tracked state) (moved : step state label = some (ranState thread before later effect))
    (split : state.pool = before ++ (thread, task) :: later) (executed : Executed now state.core task effect) :
    owed (ranState thread before later effect) conn ≤ owed state conn :=
  owed_ran tracked moved split executed ∅ (Finset.empty_subset _) (by simp)

theorem owed_paid (tracked : Tracked state) (moved : step state label = some (ranState thread before later effect))
    (split : state.pool = before ++ (thread, task) :: later) (executed : Executed now state.core task effect)
    (owed_before : owes state conn ptr = true) (settled : owes (ranState thread before later effect) conn ptr = false) :
    owed (ranState thread before later effect) conn + 1 ≤ owed state conn := by
  have paid := owed_ran tracked moved split executed {ptr} (by simpa using mem_owing.mpr owed_before) (by simpa using settled)
  simpa using paid

theorem unrun_ran (tracked : Tracked state) (quiet : Pool.idle before thread)
    (split : state.pool = before ++ (thread, .run ptr) :: later) (touch : Touch now state.core (.run ptr) effect)
    (found : state.core.records[ptr]? = some record) (plain : record.kind.isRoom = false) :
    effect.core.records[ptr]? = some record ∧ (life (ranState thread before later effect) ptr record).unrun = 0 := by
  have sane := tracked.sane ptr record found
  have starting : 0 < (life state ptr record).load .starting := load_pos split rfl
  have first := sane.start starting
  have seat := sane.seat
  have here : thread = .strand record.session :=
    tracked.orderly.at_owner (by simp [split]) (show (Task.run ptr).owner = some ptr from rfl) found
  have alone := alone_others tracked.orderly split quiet not_false here found
  -- Without the item at hand nothing is left to run the job.
  have gone : ({ life state ptr record with load := others before later ptr } : Life).unrun = 0 := by
    have pushing : others before later ptr .pushing ≤ (life state ptr record).load .pushing := others_le split .pushing
    have none : others before later ptr .starting = 0 := alone.starting
    simp only [Life.unrun]
    omega
  have still : effect.core.schedulers = state.core.schedulers → (∀ role, count ptr role (items effect) = 0) →
      (life (ranState thread before later effect) ptr record).unrun = 0 := by
    intro schedulers silent
    have load : (life (ranState thread before later effect) ptr record).load = others before later ptr :=
      load_unproduced silent
    have behind : (life (ranState thread before later effect) ptr record).behind = (life state ptr record).behind := by
      simp only [life, queueOf_same schedulers]
    simp only [Life.unrun] at gone ⊢
    rw [load, behind]
    exact gone
  have known : ptr ≠ state.core.records.length := Nat.ne_of_lt (heap_bound found)
  have advance : ∀ {target}, Advanced state.core target effect → effect.core.requests = state.core.requests →
      (∀ role, count ptr role (effect.posts.map Prod.snd) = 0) →
      (life (ranState thread before later effect) ptr record).unrun = 0 := by
    intro target advanced requests silent
    have turn : Turn { life state ptr record with load := others before later ptr }
        (life (ranState thread before later effect) ptr record) :=
      turn_advanced record tracked.orderly found rfl advanced requests silent fun _ => alone.starting
    exact (past_turn turn).1 gone
  cases touch with
  | login records schedulers unasked next posts =>
    refine ⟨records ▸ found, still schedulers ?_⟩
    simp [items, next, posts, count_cons, Task.role]
  | complete job called caller stored records advanced unasked inert =>
    refine ⟨records ▸ found, advance advanced unasked.requests ?_⟩
    intro role
    apply count_eq_zero
    intro item mem
    obtain ⟨entry, posted, rfl⟩ := List.mem_map.mp mem
    simp [inert_role (inert entry posted)]
  | logout called stored records advanced unasked posts =>
    refine ⟨by rw [records]; exact heap_get_append found _, advance advanced unasked.requests ?_⟩
    simp [posts, count_cons, Task.role, Ne.symm known]
  | steady records schedulers unasked inert sends =>
    refine ⟨records ▸ found, still schedulers ?_⟩
    intro role
    exact count_eq_zero fun item mem => by simp [inert_role (inert item mem)]
  | enqueue session kind records schedulers unasked next posts =>
    refine ⟨by rw [records]; exact heap_get_append found _, still schedulers ?_⟩
    simp [items, next, posts, count_cons, Task.role, Ne.symm known]
  | request asking message stored room records schedulers requests ids asks next posts =>
    cases stored.symm.trans found
    cases plain.symm.trans room
  | finish job concluding caller stored unfinished records advanced unasked posts =>
    rcases caller with ⟨response, same⟩ | ⟨reason, same⟩ <;> cases same

theorem paid_run {job : Job} (tracked : Tracked state)
    (moved : step state label = some (ranState thread before later effect))
    (split : state.pool = before ++ (thread, .run ptr) :: later) (quiet : Pool.idle before thread)
    (executed : Executed now state.core (.run ptr) effect) (found : state.core.jobs[ptr]? = some job)
    (replies : job.kind.replies = true) (plain : job.kind.isRoom = false) :
    Demands state job.session job.kind ∧
      owed (ranState thread before later effect) job.session + 1 ≤ owed state job.session := by
  have stored : state.core.records[ptr]? = some job.record := Core.found_record found
  obtain ⟨kept, gone⟩ := unrun_ran tracked quiet split (touch_of_executed executed) stored plain
  have owes_now : owes state job.session ptr = true := by
    have starting : 0 < (life state ptr job.record).load .starting := load_pos split rfl
    have waits : 0 < (life state ptr job.record).unrun := by
      simp only [Life.unrun]
      omega
    exact (owes_iff stored).mpr ⟨rfl, replies, by simpa [Job.record, plain] using waits⟩
  have settled : owes (ranState thread before later effect) job.session ptr = false := by
    apply Bool.eq_false_iff.mpr
    intro still
    have later := ((owes_iff kept).mp still).2.2
    simp [Job.record, plain] at later
    simp [Job.record] at gone
    omega
  exact ⟨.inr ⟨ptr, job.record, owes_now, stored, rfl⟩, owed_paid tracked moved split executed owes_now settled⟩

theorem paid_finished {job : Job} (tracked : Tracked state)
    (moved : step state label = some (ranState thread before later effect))
    (split : state.pool = before ++ (thread, task) :: later) (executed : Executed now state.core task effect)
    (found : state.core.jobs[ptr]? = some job) (room : job.kind.isRoom = true) (unfinished : job.finished = false)
    (records : effect.core.records = state.core.records.set ptr { job.record with finished := true, done := false }) :
    Demands state job.session job.kind ∧
      owed (ranState thread before later effect) job.session + 1 ≤ owed state job.session := by
  have stored : state.core.records[ptr]? = some job.record := Core.found_record found
  have replies : job.kind.replies = true := by
    cases kind : job.kind <;> rw [kind] at room <;> first | rfl | cases room
  have owes_now : owes state job.session ptr = true :=
    (owes_iff stored).mpr ⟨rfl, replies, by simpa [Job.record, room] using unfinished⟩
  have kept : (ranState thread before later effect).core.records[ptr]? =
      some { job.record with finished := true, done := false } := by
    rw [records, heap_get_set stored, if_pos rfl]
  have settled : owes (ranState thread before later effect) job.session ptr = false := by
    apply Bool.eq_false_iff.mpr
    intro still
    have later := ((owes_iff kept).mp still).2.2
    simp [Job.record, room] at later
  exact ⟨.inr ⟨ptr, job.record, owes_now, stored, rfl⟩, owed_paid tracked moved split executed owes_now settled⟩

inductive Speaks (conn : SessionPtr) (state : State) (task : Task) (after : State) : Prop where
  | silent (written : after.core.written conn = state.core.written conn)
      (room : after.core.roomOf conn = state.core.roomOf conn)
  | pong (ping : task = .onSessionRecv conn .ping)
  | replied (kind : JobKind) (frame : ToClient) (demand : Demands state conn kind)
      (reply : kind.repliesWith frame = true) (written : after.core.written conn = state.core.written conn ++ [frame])
      (room : after.core.roomOf conn = state.core.roomOf conn ∧ reportsSuccess frame = false ∨
        ∃ ptr response, task = .handleRes ptr response ∧ kind.answer response = some frame ∧
          after.core.roomOf conn = JobKind.roomAfter (state.core.roomOf conn) response)
      (paid : owed after conn + 1 ≤ owed state conn)
  | noticed (ptr : JobPtr) (frame : ToClient) (runs : task = .run ptr)
      (notice : state.core.noticeOf conn ptr = some frame)
      (written : after.core.written conn = state.core.written conn ++ [frame])
      (room : after.core.roomOf conn = told (state.core.roomOf conn) frame)

theorem finished_records {core' : Core} {job : Job} (finished : Finished core' ptr effect)
    (same : core'.records = state.core.records) (found : state.core.jobs[ptr]? = some job)
    (unfinished : job.finished = false) :
    effect.core.records = state.core.records.set ptr { job.record with finished := true, done := false } := by
  have stored : state.core.records[ptr]? = some job.record := Core.found_record found
  rcases finish_of_finished finished with ⟨-, record, known, ended⟩ | ⟨record, known, -, records, -⟩
  · rw [same] at known
    cases stored.symm.trans known
    cases unfinished.symm.trans ended
  · rw [same] at known records
    cases stored.symm.trans known
    exact records

theorem answer_reply {response : ToUser} {frame : ToClient} (answer : kind.answer response = some frame) :
    kind.isRoom = true ∧ kind.repliesWith frame = true := by
  cases kind <;> cases response <;> cases answer <;> exact ⟨rfl, rfl⟩

theorem timeout_reply {frame : ToClient} (timeout : kind.timeoutResponse = some frame) :
    kind.isRoom = true ∧ kind.repliesWith frame = true ∧ reportsSuccess frame = false := by
  cases kind <;> cases timeout <;> exact ⟨rfl, rfl, rfl⟩

theorem speaks_of_executed (tracked : Tracked state)
    (moved : step state label = some (ranState thread before later effect))
    (split : state.pool = before ++ (thread, task) :: later) (quiet : Pool.idle before thread)
    (executed : Executed now state.core task effect) (conn : SessionPtr) :
    Speaks conn state task (ranState thread before later effect) := by
  have still : effect.core.sent = state.core.sent → effect.core.rooms = state.core.rooms →
      Speaks conn state task (ranState thread before later effect) :=
    fun sent rooms => .silent (by simp [Core.written, sent]) (by simp [Core.roomOf, rooms])
  have written : ∀ {target frame}, effect.core.sent = state.core.sent ++ [(target, frame)] →
      effect.core.written conn = state.core.written conn ++ if target = conn then [frame] else [] :=
    fun sent => written_more conn sent
  have elsewhere : ∀ {target frame}, effect.core.sent = state.core.sent ++ [(target, frame)] → target ≠ conn →
      effect.core.rooms[conn]? = state.core.rooms[conn]? → Speaks conn state task (ranState thread before later effect) := by
    intro target frame sent other room
    have more := written sent
    rw [if_neg other, List.append_nil] at more
    exact .silent more (by simp [Core.roomOf, room])
  -- a reply settles one request of the session that asked
  have answers : ∀ {job : Job} {frame : ToClient}, effect.core.sent = state.core.sent ++ [(job.session, frame)] →
      effect.core.rooms = state.core.rooms → job.kind.repliesWith frame = true → reportsSuccess frame = false →
      Demands state job.session job.kind ∧
        owed (ranState thread before later effect) job.session + 1 ≤ owed state job.session →
      Speaks conn state task (ranState thread before later effect) := by
    intro job frame sent rooms reply fails settles
    by_cases mine : job.session = conn
    · subst mine
      have more := written sent
      rw [if_pos rfl] at more
      exact .replied job.kind frame settles.1 reply more (.inl ⟨by simp [Core.roomOf, rooms], fails⟩) settles.2
    · exact elsewhere sent mine (by rw [rooms])
  have ran := executed
  cases executed with
  | @loggedIn ptr job owned request found owner kind =>
    have settles := paid_run tracked moved split quiet ran found (by rw [kind]; rfl) (by rw [kind]; rfl)
    exact answers rfl (Core.rooms_setSession_same owner rfl) (by rw [kind]; rfl) rfl settles
  | @loggedOut ptr job owned request effect found owner kind completed =>
    have settles := paid_run tracked moved split quiet ran found (by rw [kind]; rfl) (by rw [kind]; rfl)
    obtain ⟨sent, rooms⟩ := completed_rooms completed
    exact answers sent rooms (by rw [kind]; rfl) rfl settles
  | @timeoutFinished ptr job frame effect found timeout finished =>
    obtain ⟨room, reply, fails⟩ := timeout_reply timeout
    obtain ⟨sent, rooms⟩ := finished_rooms finished
    have stored : state.core.records[ptr]? = some job.record := Core.found_record found
    -- a job that waits for its timeout has not been answered
    have unfinished : job.finished = false := by
      have timing : 0 < (life state ptr job.record).load .timing := load_pos split rfl
      exact (tracked.sane ptr job.record stored).ending (by omega)
    have records := finished_records finished rfl found unfinished
    exact answers sent rooms reply fails (paid_finished tracked moved split ran found room unfinished records)
  | @answered ptr job owned response frame effect found unfinished answer owner finished =>
    obtain ⟨room, reply⟩ := answer_reply answer
    obtain ⟨sent, rooms⟩ := finished_rooms finished
    have set : effect.core.rooms = state.core.rooms.set job.session (JobKind.roomAfter owned.roomId response) :=
      rooms.trans (Core.rooms_setSession state.core _ _)
    have known := Core.found_room owner
    by_cases mine : job.session = conn
    · subst mine
      have records := finished_records finished rfl found unfinished
      obtain ⟨demand, paid⟩ := paid_finished tracked moved split ran found room unfinished records
      have more := written sent
      rw [if_pos rfl] at more
      refine .replied job.kind frame demand reply more (.inr ⟨ptr, response, rfl, answer, ?_⟩) paid
      simp only [Core.roomOf, set, heap_get_set known, if_true, known, Option.getD_some]
    · refine elsewhere sent mine ?_
      rw [set, heap_get_set known, if_neg mine]
  | @clientForwarded ptr job owned message effect found owner kind completed =>
    obtain ⟨sent, same⟩ := completed_rooms completed
    have rooms : effect.core.rooms = state.core.rooms := same
    by_cases mine : job.session = conn
    · have more := written sent
      rw [if_pos mine] at more
      refine .noticed ptr (fwdClient message) rfl ?_ more (congrArg (·[conn]?.getD 0) rooms)
      rw [noticeOf_found conn found, if_pos mine, kind]
      rfl
    · exact elsewhere sent mine (by rw [rooms])
  | @leaveNotified ptr job owned notification effect found owner kind completed =>
    obtain ⟨sent, rooms⟩ := completed_rooms completed
    have set : effect.core.rooms = state.core.rooms.set job.session 0 :=
      rooms.trans (Core.rooms_setSession (state.core.send _ _) _ _)
    have known := Core.found_room owner
    by_cases mine : job.session = conn
    · have more := written sent
      rw [if_pos mine] at more
      refine .noticed ptr _ rfl ?_ more ?_
      · rw [noticeOf_found conn found, if_pos mine, kind]
        rfl
      · have room : effect.core.rooms[conn]? = some 0 := by rw [set, heap_get_set known, if_pos mine]
        simp [Core.roomOf, room, told]
    · refine elsewhere sent mine ?_
      rw [set, heap_get_set known, if_neg mine]
  | @sessionReceived target message =>
    cases message with
    | ping =>
      by_cases mine : target = conn
      · subst mine
        exact .pong rfl
      · exact elsewhere rfl mine rfl
    | _ => exact still rfl rfl
  | stopped found owner kind completed | forwarded found owner kind completed | sessionAdded found owner completed =>
    obtain ⟨sent, rooms⟩ := completed_rooms completed
    exact still sent rooms
  | shutdownFinished found finished =>
    obtain ⟨sent, rooms⟩ := finished_rooms finished
    exact still sent rooms
  | pushed found owner | shutDown owner | closed owner => exact still rfl (Core.rooms_setSession_same owner rfl)
  | requested | requestAdded | channelSent | answeredLate | cancelIgnored | cancelled | responded | clientPassed
  | leavePassed | responsePosted | timeoutPosted | notified | unknownReceived | closedAgain | removed | disconnected =>
    exact still rfl rfl

theorem received_ran {message : FromClient} (split : state.pool = before ++ (thread, task) :: later)
    (executed : Executed now state.core task effect)
    (waits : Waiting (ranState thread before later effect) (.onSessionRecv conn message)) :
    Waiting state (.onSessionRecv conn message) := by
  rcases (waiting_ran _).mp waits with mem | other
  · have undemanding := undemanding_of_executed executed conn _ mem
    simp [Task.undemanding] at undemanding
  · exact (waiting_split split _).mpr (.inr other)

end Ran

/-! ## What arrives -/

def Label.frame (conn : SessionPtr) : Label → Option FromClient
  | .receive target (.session message) => if target = conn then some message else none
  | _ => none

structure Brings (conn : SessionPtr) (state : State) (frame : Option FromClient) (after : State) : Prop where
  written : after.core.written conn = state.core.written conn
  room : after.core.roomOf conn = state.core.roomOf conn
  owed : owed after conn ≤ owed state conn + frame.toList.countP isRequest
  demands : ∀ kind, Demands after conn kind →
    Demands state conn kind ∨ ∃ message ∈ frame, requestedJob message = some kind
  received : ∀ message, Waiting after (.onSessionRecv conn message) →
    Waiting state (.onSessionRecv conn message) ∨ frame = some message

section Arrived

variable {state after : State} {conn : SessionPtr} {label : Label} {frame : Option FromClient}

theorem brings_arrived {more : Pool Thread Task} (tracked : Tracked state) (moved : step state label = some after)
    (written : after.core.written conn = state.core.written conn)
    (room : after.core.roomOf conn = state.core.roomOf conn) (records : after.core.records = state.core.records)
    (pool : after.pool = state.pool ++ more)
    (arrives : ∀ entry ∈ more, entry.2.undemanding conn = true ∨ ∃ message ∈ frame, entry.2 = .onSessionRecv conn message)
    (few : more.countP (fun entry => (entry.2.demand conn).isSome) ≤ frame.toList.countP isRequest) :
    Brings conn state frame after := by
  have owes_before : ∀ {ptr}, owes after conn ptr = true → owes state conn ptr = true := by
    intro ptr owes_now
    cases found : state.core.records[ptr]? with
    | none => simp [owes, records, found] at owes_now
    | some record => exact owes_step tracked moved found owes_now
  have entries : ∀ {item}, Waiting after item → Waiting state item ∨ ∃ entry ∈ more, entry.2 = item := by
    rintro item ⟨thread, mem⟩
    rw [pool] at mem
    rcases List.mem_append.mp mem with mem | mem
    · exact .inl ⟨thread, mem⟩
    · exact .inr ⟨_, mem, rfl⟩
  constructor
  case written => exact written
  case room => exact room
  case owed =>
    have jobs : owing after conn ⊆ owing state conn := fun ptr mem => mem_owing.mpr (owes_before (mem_owing.mp mem))
    have counted := Finset.card_le_card jobs
    rw [UserServer.owed, UserServer.owed, pool, List.countP_append]
    omega
  case demands =>
    rintro kind (⟨item, waits, demand⟩ | ⟨ptr, record, owes_now, found, same⟩)
    · rcases entries waits with earlier | ⟨entry, mem, rfl⟩
      · exact .inl (.inl ⟨item, earlier, demand⟩)
      · rcases arrives entry mem with undemanding | ⟨message, given, same⟩
        · cases (undemanding_demand undemanding).symm.trans demand
        · rw [same] at demand
          exact .inr ⟨message, given, by simpa [Task.demand] using demand⟩
    · exact .inl (.inr ⟨ptr, record, owes_before owes_now, records ▸ found, same⟩)
  case received =>
    intro message waits
    rcases entries waits with earlier | ⟨entry, mem, same⟩
    · exact .inl earlier
    · rcases arrives entry mem with undemanding | ⟨other, given, taken⟩
      · simp [same, Task.undemanding] at undemanding
      · cases taken.symm.trans same
        exact .inr given

theorem brings_of_step (tracked : Tracked state) (moved : step state label = some after)
    (external : ∀ thread now, label ≠ .run thread now) (conn : SessionPtr) :
    Brings conn state (label.frame conn) after := by
  -- What arrives without a frame of the client asks for nothing.
  have silent : ∀ {more : Pool Thread Task}, (∀ entry ∈ more, entry.2.undemanding conn = true) →
      more.countP (fun entry => (entry.2.demand conn).isSome) ≤ 0 := by
    intro more only
    apply Nat.le_of_eq
    apply List.countP_eq_zero.mpr
    intro entry mem
    simp [undemanding_demand (only entry mem)]
  have nothing : ∀ {core : Core} {more : Pool Thread Task}, after = ⟨core, state.pool ++ more⟩ →
      core.written conn = state.core.written conn → core.roomOf conn = state.core.roomOf conn →
      core.records = state.core.records → (∀ entry ∈ more, entry.2.undemanding conn = true) →
      Brings conn state none after := by
    rintro core more rfl written room records only
    exact brings_arrived tracked moved written room records rfl (fun entry mem => .inl (only entry mem)) (silent only)
  cases stepped_of_step moved with
  | accepted =>
    refine brings_arrived tracked moved rfl ?_ rfl (List.append_nil _).symm (by simp) (by simp)
    exact Core.roomOf_concat conn (by simp [Core.rooms])
  | @received target call known quiet =>
    cases call with
    | session message =>
      by_cases mine : target = conn
      · subst mine
        have frame : (Label.receive target (.session message)).frame target = some message := if_pos rfl
        rw [frame]
        refine brings_arrived tracked moved rfl rfl rfl rfl ?_ ?_
        · simp [Invocation.task]
        · simp only [Invocation.task, List.map_cons, List.map_nil, List.countP_cons, List.countP_nil, Option.toList_some,
            Task.demand, if_true]
          exact Nat.le_refl _
      · rw [show (Label.receive target (.session message)).frame conn = none from if_neg mine]
        exact nothing rfl rfl rfl rfl (by simp [Invocation.task, Task.undemanding, mine])
    | unknown | room | ignored =>
      exact nothing rfl rfl rfl rfl (by simp [Invocation.task, Task.undemanding, Task.demand])
  | delivered | closing => exact nothing rfl rfl rfl rfl (by simp [Task.undemanding, Task.demand])
  | ran => exact absurd rfl (external _ _)
  | expired quiet =>
    exact nothing rfl rfl rfl rfl (forall_timeouts (fun _ => rfl) fun _ => rfl)

end Arrived

end Rsp.UserServer
