import Rsp.UserServer.Delivery

/-! From the messages of Room to the jobs of the sessions.

The dealer thread takes one message at a time and passes a notification on to the session
of its uid. The handlers also run on the connection thread of a client that sends a frame
of Room's. The jobs made on the dealer thread follow the order of the messages delivered.
-/

set_option autoImplicit false

namespace Rsp.UserServer

open Message Rsp.Job Foundation
open scoped List

def JobKind.source : JobKind → Option ToUser
  | .cliForwardMessage message => some (.fwdClient message)
  | .ntfLeaveRoomMessage notification => some (.ntfLeaveRoom notification)
  | _ => none

structure Passed where
  thread : Thread
  session : SessionPtr
  kind : JobKind
  deriving DecidableEq, Repr

def Task.notifying : Task → Option (SessionPtr × JobKind)
  | .notify session kind => some (session, kind)
  | _ => none

def passes (move : Transition State Label) : Option Passed :=
  match move.label with
  | .run thread _ => (executed move).bind fun ran => ran.2.notifying.map fun told => ⟨thread, told.1, told.2⟩
  | _ => none

def passed (history : History) : List Passed := history.filterMap passes

def Label.message : Label → Option ToUser
  | .deliver message => some message
  | _ => none

def delivered (history : History) : List ToUser := history.filterMap fun move => move.label.message

/-- A client sent a frame of Room's with this message. -/
def Injected (history : History) (message : ToUser) : Prop :=
  ∃ move ∈ history, ∃ conn, move.label = .receive conn (.room message)

def Task.carried : Task → Option ToUser
  | .onRecv message => some message
  | .notify _ kind => kind.source
  | _ => none

section Executed

variable {now : Nat} {core : Core} {task : Task} {effect : Effect} {state : State} {thread : Thread}
  {before later : Pool Thread Task}

theorem passes_ran (now : Nat) (after : State) (split : state.pool = before ++ (thread, task) :: later)
    (quiet : Pool.idle before thread) :
    passes ⟨state, .run thread now, after⟩ = task.notifying.map fun told => ⟨thread, told.1, told.2⟩ := by
  simp [passes, executed_ran now after split quiet]

theorem notices_enqueued (core : Core) (target session : SessionPtr) (kind : JobKind) :
    (core.enqueueJob target kind).core.notices session =
      core.notices session ++ (Core.noticeFor session (.make target kind)).toList := by
  have records : (core.enqueueJob target kind).core.records = core.records ++ [.make target kind] := by
    simp [Core.enqueueJob, Core.records, Job.record, Record.make]
  rw [Core.notices, Core.notices, records, List.filterMap_append]
  cases notice : Core.noticeFor session (.make target kind) <;> simp [notice]

theorem notices_completed {core' : Core} {ptr : JobPtr} (session : SessionPtr) (completed : Completed core' ptr effect)
    (same : core'.records = core.records) : effect.core.notices session = core.notices session := by
  obtain ⟨record, found, records, -⟩ := advanced_of_completed completed
  exact notices_same (records.trans same)

theorem notices_finished {core' : Core} {ptr : JobPtr} (session : SessionPtr) (finished : Finished core' ptr effect)
    (same : core'.records = core.records) : effect.core.notices session = core.notices session := by
  rcases finish_of_finished finished with ⟨rfl, -⟩ | ⟨record, found, unfinished, records, -⟩
  · exact notices_same same
  · rw [same] at found records
    exact notices_set found records rfl rfl

theorem notices_of_executed (executed : Executed now core task effect) (session : SessionPtr) :
    effect.core.notices session = core.notices session ++
      (task.notifying.bind fun told => Core.noticeFor session (.make told.1 told.2)).toList := by
  have plain : ∀ {target : SessionPtr} {kind : JobKind}, kind.notice = none →
      (core.enqueueJob target kind).core.notices session = core.notices session := by
    intro target kind none
    simp [notices_enqueued, Core.noticeFor, Record.make, none]
  have untold : task.notifying = none → effect.core.notices session = core.notices session →
      effect.core.notices session = core.notices session ++
        (task.notifying.bind fun told => Core.noticeFor session (.make told.1 told.2)).toList := by
    intro none same
    rw [none, same, Option.bind_none, Option.toList_none, List.append_nil]
  cases executed with
  | notified => exact notices_enqueued ..
  | unknownReceived =>
    apply untold rfl
    exact plain rfl
  | @sessionReceived target message =>
    apply untold rfl
    cases message with
    | ping | pong => rfl
    | _ => exact plain rfl
  | @loggedOut ptr job owned request effect found owner kind completed =>
    apply untold rfl
    have stopping := @plain job.session (.stop false) rfl
    have done : effect.core.notices session = (core.enqueueJob job.session (.stop false)).core.notices session :=
      notices_completed session completed rfl
    exact done.trans stopping
  | stopped found owner kind completed =>
    apply untold rfl
    have same := notices_completed session completed (Eq.refl core.records)
    exact same
  | forwarded found owner kind completed | clientForwarded found owner kind completed
  | leaveNotified found owner kind completed | sessionAdded found owner completed =>
    apply untold rfl
    exact notices_completed session completed rfl
  | @requested ptr job owned request found owner room =>
    apply untold rfl
    exact notices_set (Core.found_record found) (Core.records_setJob ..) rfl rfl
  | answered found unfinished answer owner finished | shutdownFinished found finished
  | timeoutFinished found timeout finished =>
    apply untold rfl
    exact notices_finished session finished rfl
  | pushed | loggedIn | requestAdded | channelSent | answeredLate | cancelIgnored | cancelled | shutDown | responded
  | clientPassed | leavePassed | responsePosted | timeoutPosted | closedAgain | closed | removed | disconnected =>
    apply untold rfl
    rfl

/-- An item hands its message on or drops it, and nothing that is posted carries one. -/
theorem carried_of_executed (executed : Executed now core task effect) :
    effect.next.filterMap Task.carried <+ (if task.notifying.isSome then [] else task.carried.toList) ∧
      ∀ entry ∈ effect.posts, entry.2.carried = none := by
  have completes : ∀ {core' : Core} {ptr : JobPtr} {done : Effect}, Completed core' ptr done →
      done.next.filterMap Task.carried = [] ∧ done.posts = [] := by
    intro core' ptr done completed
    cases completed with
    | again => exact ⟨rfl, rfl⟩
    | @first job owned found fresh owner =>
      cases owned.scheduler.completeCurrent.2 <;> exact ⟨rfl, rfl⟩
  have finishes : ∀ {core' : Core} {ptr : JobPtr} {done : Effect}, Finished core' ptr done →
      done.next.filterMap Task.carried = [] ∧ done.posts = [] := by
    intro core' ptr done finished
    cases finished with
    | again | unheld => exact ⟨rfl, rfl⟩
    | called found unfinished held completed => exact completes completed
  cases executed with
  | @pushed ptr job owned found owner =>
    cases owned.scheduler.pushAndRun ptr with
    | mk scheduler pushed => cases pushed <;> simp [afterPush, Task.carried]
  | loggedOut found owner kind completed => simp [completes completed, Task.carried]
  | @stopped ptr job owned forceClose effect found owner kind completed =>
    cases forceClose <;> simp [completes completed, Task.carried]
  | forwarded found owner kind completed | clientForwarded found owner kind completed
  | leaveNotified found owner kind completed | sessionAdded found owner completed => simp [completes completed]
  | answered found unfinished answer owner finished | shutdownFinished found finished
  | timeoutFinished found timeout finished => simp [finishes finished]
  | cancelled found room unfinished =>
    simp only [List.filterMap_append]
    split <;> simp [sendCancel, Task.carried]
  | @responded message id carries =>
    simp only [sendToWaiter]
    cases (core.requests.complete id now).2 with
    | none => simp
    | some resolution => cases resolution <;> simp [onTimeout, sendCancel, Task.carried, List.filterMap_cons]
  | @clientPassed message | @leavePassed message =>
    simp only [passToSession]
    cases core.manager.findSession message.uid <;> simp [Task.notifying, Task.carried, JobKind.source]
  | @sessionReceived target message => cases message <;> simp [onSessionRecv, Core.enqueueJob, Task.carried]
  | notified | unknownReceived => simp [Core.enqueueJob, Task.carried]
  | @shutDown ptr owned owner =>
    refine ⟨?_, by simp⟩
    rw [List.filterMap_eq_nil_iff.mpr]
    · exact List.nil_sublist _
    · intro item mem
      obtain ⟨job, -, rfl⟩ := List.mem_map.mp mem
      rfl
  | removed =>
    simp only [onConnClosed]
    cases (core.manager.removeSession _ _).2 <;> simp [Task.carried]
  | loggedIn | requested | requestAdded | channelSent | answeredLate | cancelIgnored | responsePosted | timeoutPosted
  | closedAgain | closed | disconnected => simp [addRequest, Task.carried]

structure Passing (history : History) (state : State) : Prop where
  made : ∀ session, state.core.notices session =
    (passed history).filterMap fun told => Core.noticeFor session (.make told.session told.kind)
  dealt : ((passed history).filter fun told => told.thread = .dealer).filterMap (·.kind.source) ++
    (state.pool.queue .dealer).filterMap Task.carried <+ delivered history
  foreign : ∀ entry ∈ state.pool, entry.1 ≠ .dealer → ∀ message, entry.2.carried = some message →
    Injected history message
  told : ∀ told ∈ passed history, told.thread ≠ .dealer → ∀ message, told.kind.source = some message →
    Injected history message

variable {history : History} {move : Transition State Label}

theorem injected_later {message : ToUser} (injected : Injected history message) :
    Injected (history ++ [move]) message := by
  obtain ⟨earlier, mem, conn, label⟩ := injected
  exact ⟨earlier, List.mem_append_left _ mem, conn, label⟩

theorem passing_extended {more : Pool Thread Task} {core : Core} {label : Label} (passing : Passing history state)
    (idle : passes ⟨state, label, ⟨core, state.pool ++ more⟩⟩ = none) (records : core.records = state.core.records)
    (dealt : (Pool.queue more .dealer).filterMap Task.carried <+ label.message.toList)
    (foreign : ∀ entry ∈ more, entry.1 ≠ .dealer → ∀ message, entry.2.carried = some message →
      ∃ conn, label = .receive conn (.room message)) :
    Passing (history ++ [⟨state, label, ⟨core, state.pool ++ more⟩⟩]) ⟨core, state.pool ++ more⟩ := by
  have same : passed (history ++ [⟨state, label, ⟨core, state.pool ++ more⟩⟩]) = passed history := by
    simp [passed, idle]
  constructor
  case made =>
    intro session
    rw [same, ← passing.made session]
    exact notices_same records
  case dealt =>
    rw [same, Pool.queue_append, List.filterMap_append, ← List.append_assoc, delivered, List.filterMap_append]
    apply passing.dealt.append
    cases label <;> simpa [Label.message] using dealt
  case foreign =>
    intro entry mem elsewhere message carried
    rcases List.mem_append.mp mem with mem | mem
    · exact injected_later (passing.foreign entry mem elsewhere message carried)
    · obtain ⟨conn, received⟩ := foreign entry mem elsewhere message carried
      exact ⟨_, List.mem_append_right _ (List.mem_singleton_self _), conn, received⟩
  case told =>
    intro told mem elsewhere message source
    rw [same] at mem
    exact injected_later (passing.told told mem elsewhere message source)

theorem passing_ran (passing : Passing history state) (split : state.pool = before ++ (thread, task) :: later)
    (quiet : Pool.idle before thread) (executed : Executed now state.core task effect) :
    Passing (history ++ [⟨state, .run thread now, ranState thread before later effect⟩])
      (ranState thread before later effect) := by
  obtain ⟨next, posts⟩ := carried_of_executed executed
  have waits : (thread, task) ∈ state.pool := by simp [split]
  have now_passed : passed (history ++ [⟨state, .run thread now, ranState thread before later effect⟩]) =
      passed history ++ (task.notifying.map fun told => ⟨thread, told.1, told.2⟩).toList := by
    rw [passed, List.filterMap_append, List.filterMap_cons, passes_ran now _ split quiet]
    cases task.notifying <;> rfl
  have undelivered : delivered (history ++ [⟨state, .run thread now, ranState thread before later effect⟩]) =
      delivered history := by
    simp [delivered, Label.message]
  have nothing : (Pool.queue effect.posts .dealer).filterMap Task.carried = [] :=
    List.filterMap_eq_nil_iff.mpr fun item mem => posts _ (Pool.mem_queue.mp mem)
  -- The message of the item at hand was passed on just now, is still carried, or is dropped.
  have split_source : (task.notifying.map fun told => (⟨thread, told.1, told.2⟩ : Passed)).toList.filterMap
      (·.kind.source) ++ effect.next.filterMap Task.carried <+ task.carried.toList := by
    cases told : task.notifying with
    | none => simpa [told] using next
    | some pair =>
      cases task with
      | notify session kind =>
        cases told
        simp only [Task.notifying, Option.isSome_some, if_true, List.sublist_nil] at next
        rw [next]
        cases source : kind.source <;> simp [Task.carried, source]
      | _ => cases told
  constructor
  case made =>
    intro session
    rw [now_passed, List.filterMap_append, ← passing.made session, notices_of_executed executed session]
    congr 1
    cases task.notifying with
    | none => rfl
    | some told => cases notice : Core.noticeFor session (.make told.1 told.2) <;> simp [notice]
  case dealt =>
    rw [undelivered, now_passed]
    refine List.Sublist.trans ?_ passing.dealt
    rw [List.filter_append, List.filterMap_append, List.append_assoc]
    apply (List.Sublist.refl _).append
    by_cases here : thread = .dealer
    · subst here
      rw [Pool.queue_ran_self quiet, List.filterMap_append, List.filterMap_append, nothing, List.append_nil, split,
        Pool.queue_split quiet]
      have shown : (task :: Pool.queue later Thread.dealer).filterMap Task.carried =
          task.carried.toList ++ (Pool.queue later Thread.dealer).filterMap Task.carried := by
        cases carried : task.carried <;> simp [carried]
      rw [shown, ← List.append_assoc]
      apply List.Sublist.append _ (List.Sublist.refl _)
      refine List.Sublist.trans ?_ split_source
      apply List.Sublist.append _ (List.Sublist.refl _)
      exact List.filter_sublist.filterMap _
    · rw [Pool.queue_ran_other task here, ← split, List.filterMap_append, nothing, List.append_nil]
      cases task.notifying <;> simp [here]
  case foreign =>
    intro entry mem elsewhere message carried
    apply injected_later
    rcases List.mem_append.mp mem with mem | mem
    · rcases List.mem_append.mp mem with mem | mem
      · obtain ⟨item, here, rfl⟩ := List.mem_map.mp mem
        have from_task : message ∈ effect.next.filterMap Task.carried := List.mem_filterMap.mpr ⟨item, here, carried⟩
        have source := split_source.subset (List.mem_append_right _ from_task)
        exact passing.foreign (thread, task) waits elsewhere message (Option.mem_toList.mp source)
      · exact passing.foreign entry (mem_of_rest split mem) elsewhere message carried
    · cases (posts entry mem).symm.trans carried
  case told =>
    intro told mem elsewhere message source
    apply injected_later
    rw [now_passed] at mem
    rcases List.mem_append.mp mem with mem | mem
    · exact passing.told told mem elsewhere message source
    · have here : told.thread = thread := by
        obtain ⟨pair, -, rfl⟩ := Option.map_eq_some_iff.mp (Option.mem_toList.mp mem)
        rfl
      have shown := split_source.subset (List.mem_append_left _ (List.mem_filterMap.mpr ⟨told, mem, source⟩))
      exact passing.foreign (thread, task) waits (here ▸ elsewhere) message (Option.mem_toList.mp shown)

theorem passing_step {label : Label} {after : State} (passing : Passing history state)
    (moved : step state label = some after) : Passing (history ++ [⟨state, label, after⟩]) after := by
  cases stepped_of_step moved with
  | accepted =>
    rw [← List.append_nil state.pool]
    exact passing_extended passing rfl rfl (by simp) (by simp)
  | @received conn call known quiet =>
    apply passing_extended passing rfl rfl
    · cases call <;> simp [Invocation.task, Pool.queue_cons]
    · intro entry mem elsewhere message carried
      obtain ⟨item, asked, rfl⟩ := List.mem_map.mp mem
      cases call <;> simp only [Invocation.task, List.mem_singleton, List.not_mem_nil] at asked <;> subst asked <;>
        cases carried
      exact ⟨conn, rfl⟩
  | delivered quiet =>
    apply passing_extended passing rfl rfl
    · simp [Pool.queue_cons, Task.carried, Label.message]
    · simp
  | ran split quiet executed => exact passing_ran passing split quiet executed
  | @expired now quiet =>
    have plain : ∀ entry ∈ (((state.core.requests.expire now).2.flatMap fun entry => onTimeout entry.1 entry.2).map
        (Prod.mk Thread.timer)), entry.2.carried = none :=
      forall_timeouts (fun _ => rfl) fun _ => rfl
    refine passing_extended passing rfl rfl ?_ ?_
    · apply List.sublist_nil.mpr
      exact List.filterMap_eq_nil_iff.mpr fun item mem => plain _ (Pool.mem_queue.mp mem)
    · intro entry mem elsewhere message carried
      cases (plain entry mem).symm.trans carried
  | closing known =>
    apply passing_extended passing rfl rfl
    · simp [Pool.queue_cons]
    · simp [Task.carried]

theorem passing_reached (reached : Reaches history state) : Passing history state := by
  apply reached.history Passing
  · constructor <;> simp [passed, delivered, initial, Core.notices, Core.records]
  · exact fun past move run passing moved mem => passing_step passing moved

end Executed

end Rsp.UserServer
