import Rsp.UserServer.Conclusion

/-! The notifications of Room that a session hands to its connection.

A notification becomes a job of its session. The job is pushed on the session's strand,
waits in the scheduler, and hands its frame to the connection when it runs. None of the
three places changes the order of the jobs, so the connection is given the notifications
in the order in which their jobs were made; a shutdown only drops some of them.
-/

set_option autoImplicit false

namespace Rsp.UserServer

open Message Rsp.Job Foundation
open scoped List

def JobKind.notice : JobKind → Option ToClient
  | .cliForwardMessage message => some (fwdClient message)
  | .ntfLeaveRoomMessage notification => some (.ntfLeaveRoom { reason := notification.reason })
  | _ => none

def isNotice : ToClient → Bool
  | .fwdClient _ | .ntfLeaveRoom _ => true
  | _ => false

def Task.starting : Task → Option JobPtr
  | .run ptr => some ptr
  | _ => none

def Task.queuing : Task → Option JobPtr
  | .pushAndRun ptr => some ptr
  | _ => none

namespace Core

def given (self : Core) (session : SessionPtr) : List ToClient :=
  (self.sent.filter fun entry => entry.1 = session ∧ isNotice entry.2).map Prod.snd

def noticeFor (session : SessionPtr) (record : Record) : Option ToClient :=
  if record.session = session then record.kind.notice else none

def notices (self : Core) (session : SessionPtr) : List ToClient := self.records.filterMap (noticeFor session)

def noticeOf (self : Core) (session : SessionPtr) (ptr : JobPtr) : Option ToClient :=
  (self.records[ptr]?).bind (noticeFor session)

end Core

/-- The jobs that are still to run, in their order: the one about to run, those queued
behind the current one, those still to be pushed. -/
def lineUp (waiting : List Task) (queue : List JobPtr) : List JobPtr :=
  waiting.filterMap Task.starting ++ queue.tail ++ waiting.filterMap Task.queuing

def ahead (state : State) (session : SessionPtr) : List JobPtr :=
  lineUp (state.pool.queue (.strand session)) (state.core.queueOf session)

/-- What the connection was given and what is still to come are notifications of the
session's jobs, in their order. -/
def InLine (session : SessionPtr) (state : State) : Prop :=
  state.core.given session ++ (ahead state session).filterMap (state.core.noticeOf session) <+ state.core.notices session

section Given

variable {now : Nat} {core : Core} {task : Task} {effect : Effect} {session : SessionPtr}

theorem given_kept (core : Core) {after : Core} (sent : after.sent = core.sent) :
    after.given session = core.given session := by
  rw [Core.given, Core.given, sent]

theorem given_more (core : Core) {after : Core} {target : SessionPtr} {frame : ToClient}
    (sent : after.sent = core.sent ++ [(target, frame)]) :
    after.given session = core.given session ++ if target = session ∧ isNotice frame then [frame] else [] := by
  rw [Core.given, Core.given, sent, List.filter_append, List.map_append]
  congr 1
  by_cases here : target = session ∧ isNotice frame = true <;> simp [here]

theorem given_reply (core : Core) {after : Core} {target : SessionPtr} {frame : ToClient}
    (sent : after.sent = core.sent ++ [(target, frame)]) (quiet : isNotice frame = false) :
    after.given session = core.given session := by
  rw [given_more core sent, quiet]
  simp

theorem answer_quiet {kind : JobKind} {response : ToUser} {frame : ToClient}
    (answer : kind.answer response = some frame) : isNotice frame = false := by
  cases kind <;> cases response <;> cases answer <;> rfl

theorem timeout_quiet {kind : JobKind} {frame : ToClient} (timeout : kind.timeoutResponse = some frame) :
    isNotice frame = false := by
  cases kind <;> cases timeout <;> rfl

theorem request_quiet {kind : JobKind} {uid : Uid} {id : Nat} {message : ToRoom}
    (request : kind.request uid id = some message) : kind.notice = none := by
  cases kind <;> cases request <;> rfl

theorem noticeOf_found {core : Core} (session : SessionPtr) {ptr : JobPtr} {job : Job} (found : core.jobs[ptr]? = some job) :
    core.noticeOf session ptr = if job.session = session then job.kind.notice else none := by
  rw [Core.noticeOf, Core.found_record found]
  rfl

theorem given_of_executed (executed : Executed now core task effect) (session : SessionPtr) :
    effect.core.given session =
      core.given session ++ (task.starting.bind (core.noticeOf session)).toList := by
  have unnoticed : ∀ {ptr : JobPtr} {job : Job}, core.jobs[ptr]? = some job → job.kind.notice = none →
      effect.core.given session = core.given session →
      effect.core.given session = core.given session ++ ((Task.run ptr).starting.bind (core.noticeOf session)).toList := by
    intro ptr job found none same
    rw [same, Task.starting, Option.bind_some, noticeOf_found session found, none, ite_self, Option.toList_none, List.append_nil]
  have idle : task.starting = none → effect.core.given session = core.given session →
      effect.core.given session = core.given session ++ (task.starting.bind (core.noticeOf session)).toList := by
    intro none same
    rw [same, none, Option.bind_none, Option.toList_none, List.append_nil]
  cases executed with
  | @loggedIn ptr job owned request found owner kind =>
    apply unnoticed found (by rw [kind]; rfl)
    exact given_reply core rfl rfl
  | loggedOut found owner kind completed =>
    apply unnoticed found (by rw [kind]; rfl)
    exact given_reply core (completed_sends completed).2 rfl
  | stopped found owner kind completed | forwarded found owner kind completed =>
    apply unnoticed found (by rw [kind]; rfl)
    exact given_kept core (completed_sends completed).2
  -- the two kinds of job whose run gives the connection a notification
  | @clientForwarded ptr job _ message effect found owner kind completed =>
    rw [given_more core (completed_sends completed).2, Task.starting, Option.bind_some, noticeOf_found session found, kind]
    by_cases here : job.session = session <;> simp [here, isNotice, fwdClient, JobKind.notice]
  | @leaveNotified ptr job _ notification effect found owner kind completed =>
    rw [given_more core (completed_sends completed).2, Task.starting, Option.bind_some, noticeOf_found session found, kind]
    by_cases here : job.session = session <;> simp [here, isNotice, JobKind.notice]
  | requested found owner room =>
    apply unnoticed found (request_quiet room)
    exact given_kept core rfl
  | sessionAdded found owner completed =>
    apply idle rfl
    exact given_kept core (completed_sends completed).2
  | answered found unfinished answer owner finished =>
    apply idle rfl
    exact given_reply core (finished_sends finished).2 (answer_quiet answer)
  | shutdownFinished found finished =>
    apply idle rfl
    exact given_kept core (finished_sends finished).2
  | timeoutFinished found timeout finished =>
    apply idle rfl
    exact given_reply core (finished_sends finished).2 (timeout_quiet timeout)
  | @sessionReceived owner message =>
    apply idle rfl
    cases message with
    | ping => exact given_reply core rfl rfl
    | _ => exact given_kept core rfl
  | pushed | requestAdded | channelSent | answeredLate | cancelIgnored | cancelled | shutDown | responded
  | clientPassed | leavePassed | responsePosted | timeoutPosted | notified | unknownReceived | closedAgain | closed
  | removed | disconnected =>
    apply idle rfl
    exact given_kept core rfl

end Given

/-! ## The line of a session -/

section Line

variable {now : Nat} {core : Core} {task : Task} {effect : Effect} {session : SessionPtr} {state : State}

theorem lineUp_append (waiting : List Task) {more : List Task} (queue : List JobPtr)
    (plain : more.filterMap Task.starting = []) :
    lineUp (waiting ++ more) queue = lineUp waiting queue ++ more.filterMap Task.queuing := by
  simp [lineUp, plain]

theorem inert_line {item : Task} (inert : item.inert = true) : item.starting = none ∧ item.queuing = none := by
  cases item <;> first | exact ⟨rfl, rfl⟩ | cases inert

theorem notices_same {after : Core} (records : after.records = core.records) :
    after.notices session = core.notices session := by
  rw [Core.notices, Core.notices, records]

theorem notices_set {after : Core} {ptr : JobPtr} {old new : Record} (found : core.records[ptr]? = some old)
    (records : after.records = core.records.set ptr new) (owner : new.session = old.session)
    (kind : new.kind = old.kind) : after.notices session = core.notices session := by
  have same : (core.records.set ptr new).map (Core.noticeFor session) = core.records.map (Core.noticeFor session) := by
    rw [List.map_set]
    apply heap_set_self
    rw [List.getElem?_map, found, Option.map_some, Core.noticeFor, Core.noticeFor, owner, kind]
  have mapped : ∀ list : List Record,
      list.filterMap (Core.noticeFor session) = (list.map (Core.noticeFor session)).filterMap id := by
    intro list
    rw [List.filterMap_map]
    rfl
  rw [Core.notices, Core.notices, records, mapped, mapped, same]

def postedTo (effect : Effect) (session : SessionPtr) : List Task := Pool.queue effect.posts (.strand session)

structure Pushes (core : Core) (effect : Effect) (session : SessionPtr) : Prop where
  plain : (postedTo effect session).filterMap Task.starting = []
  notices : effect.core.notices session = core.notices session ++
    ((postedTo effect session).filterMap Task.queuing).filterMap (effect.core.noticeOf session)

theorem pushes_made {target : SessionPtr} {kind : JobKind}
    (records : effect.core.records = core.records ++ [.make target kind])
    (posts : effect.posts = [(.strand target, .pushAndRun core.records.length)]) : Pushes core effect session := by
  have known : effect.core.noticeOf session core.records.length = Core.noticeFor session (.make target kind) := by
    simp [Core.noticeOf, records]
  by_cases here : target = session
  · have waits : postedTo effect session = [.pushAndRun core.records.length] := by
      simp [postedTo, posts, Pool.queue_cons, here]
    refine ⟨by simp [waits, Task.starting], ?_⟩
    rw [waits, Core.notices, Core.notices, records, List.filterMap_append]
    cases notice : Core.noticeFor session (.make target kind) <;>
      simp [Task.queuing, known, notice]
  · have waits : postedTo effect session = [] := by
      simp [postedTo, posts, Pool.queue_cons, here]
    refine ⟨by simp [waits], ?_⟩
    rw [waits, Core.notices, Core.notices, records, List.filterMap_append]
    simp [Core.noticeFor, Record.make, here]

theorem pushes_none (notices : effect.core.notices session = core.notices session)
    (plain : ∀ item ∈ postedTo effect session, item.starting = none ∧ item.queuing = none) :
    Pushes core effect session := by
  have silent : (postedTo effect session).filterMap Task.queuing = [] :=
    List.filterMap_eq_nil_iff.mpr fun item mem => (plain item mem).2
  exact ⟨List.filterMap_eq_nil_iff.mpr fun item mem => (plain item mem).1, by simp [notices, silent]⟩

theorem mem_postedTo {item : Task} (mem : item ∈ postedTo effect session) : (.strand session, item) ∈ effect.posts :=
  Pool.mem_queue.mp mem

theorem pushes_of_touch (touch : Touch now core task effect) (session : SessionPtr) : Pushes core effect session := by
  have unposted : effect.posts = [] → ∀ item ∈ postedTo effect session, item.starting = none ∧ item.queuing = none := by
    intro posts item mem
    have posted := mem_postedTo mem
    rw [posts] at posted
    cases posted
  have single : ∀ {thread : Thread} {posted : Task}, effect.posts = [(thread, posted)] →
      posted.starting = none ∧ posted.queuing = none →
      ∀ item ∈ postedTo effect session, item.starting = none ∧ item.queuing = none := by
    intro thread posted posts plain item mem
    have here := mem_postedTo mem
    rw [posts] at here
    cases List.mem_singleton.mp here
    exact plain
  cases touch with
  | enqueue target kind records schedulers unasked next posts | logout record found records advanced unasked posts =>
    exact pushes_made records posts
  | steady records schedulers unasked inert sends =>
    apply pushes_none (notices_same records)
    intro item mem
    exact inert_line (inert item (List.mem_append_right _ (List.mem_map_of_mem (mem_postedTo mem))))
  | complete ptr record caller found records advanced unasked inert =>
    apply pushes_none (notices_same records)
    intro item mem
    exact inert_line (inert _ (mem_postedTo mem))
  | request record message found room records schedulers requests ids asks next posts
  | finish ptr record caller found unfinished records advanced unasked posts =>
    exact pushes_none (notices_set found records rfl rfl) (unposted posts)
  | send | add => exact pushes_none (notices_same rfl) (unposted rfl)
  | postResponse | postTimeout | disconnect => exact pushes_none (notices_same rfl) (single rfl ⟨rfl, rfl⟩)
  | login | push | cancel | shutdown | respond => exact pushes_none (notices_same ‹_›) (unposted ‹_›)

theorem noticeOf_kept (touch : Touch now core task effect) {ptr : JobPtr} {record : Record}
    (found : core.records[ptr]? = some record) (session : SessionPtr) :
    effect.core.noticeOf session ptr = core.noticeOf session ptr := by
  obtain ⟨after, stored, owner, kind⟩ := touch_keeps_job touch found
  simp only [Core.noticeOf, stored, found, Option.bind_some, Core.noticeFor, owner, kind]

def lineAfter (task : Task) (rest : List Task) (queue : List JobPtr) : List JobPtr :=
  rest.filterMap Task.starting ++ queue.tail ++ (task.queuing.toList ++ rest.filterMap Task.queuing)

theorem lineUp_cons (task : Task) (rest : List Task) (queue : List JobPtr) :
    lineUp (task :: rest) queue = task.starting.toList ++ lineAfter task rest queue := by
  cases task <;> simp [lineUp, lineAfter, Task.starting, Task.queuing, List.filterMap_cons]

theorem line_dropped {next rest : List Task} {queue queue' : List JobPtr} (tail : queue'.tail <+ queue.tail)
    (plain : ∀ item ∈ next, item.starting = none ∧ item.queuing = none) :
    lineUp (next ++ rest) queue' <+ lineAfter task rest queue := by
  have runs : next.filterMap Task.starting = [] := List.filterMap_eq_nil_iff.mpr fun item mem => (plain item mem).1
  have pushes : next.filterMap Task.queuing = [] := List.filterMap_eq_nil_iff.mpr fun item mem => (plain item mem).2
  simp only [lineUp, lineAfter, List.filterMap_append, runs, pushes, List.nil_append]
  exact ((List.Sublist.refl _).append tail).append (List.sublist_append_right _ _)

theorem line_popped {rest : List Task} {queue : List JobPtr} (alone : rest.filterMap Task.starting = []) :
    lineUp (queue.tail.head?.toList.map .run ++ rest) queue.tail <+ lineAfter task rest queue := by
  have runs : (queue.tail.head?.toList.map Task.run).filterMap Task.starting = queue.tail.head?.toList := by
    cases queue.tail.head? <;> rfl
  have pushes : (queue.tail.head?.toList.map Task.run).filterMap Task.queuing = [] := by
    cases queue.tail.head? <;> rfl
  have whole : queue.tail.head?.toList ++ queue.tail.tail = queue.tail := by
    cases queue.tail <;> rfl
  simp only [lineUp, lineAfter, List.filterMap_append, runs, pushes, alone, List.nil_append, List.append_nil, whole]
  exact (List.Sublist.refl _).append (List.sublist_append_right _ _)

theorem line_pushed {rest : List Task} {ptr : JobPtr} {scheduler : JobScheduler JobPtr} (busy : scheduler.Busy)
    (alone : rest.filterMap Task.starting = []) :
    lineUp (afterPush (scheduler.pushAndRun ptr).2 ++ rest) (scheduler.pushAndRun ptr).1.q <+
      lineAfter (.pushAndRun ptr) rest scheduler.q := by
  rcases JobScheduler.pushAndRun_cases busy ptr with ⟨-, same⟩ | ⟨empty, same⟩ | ⟨some, same⟩
  · rw [same]
    exact line_dropped (List.Sublist.refl _) (by simp [afterPush, Task.starting, Task.queuing])
  · simp [same, afterPush, lineUp, lineAfter, Task.starting, Task.queuing, List.filterMap_cons, alone, empty]
  · simp [same, afterPush, lineUp, lineAfter, Task.queuing, alone, List.tail_append_of_ne_nil some]

variable {thread : Thread} {before later : Pool Thread Task}

theorem alone_here (orderly : Orderly state) (split : state.pool = before ++ (.strand session, task) :: later)
    (quiet : Pool.idle before (.strand session)) (heavy : ¬ task.light) :
    (Pool.queue later (.strand session)).filterMap Task.starting = [] := by
  apply List.filterMap_eq_nil_iff.mpr
  intro item mem
  have waits : (Thread.strand session, item) ∈ before ++ later := List.mem_append_right _ (Pool.mem_queue.mp mem)
  have plain := Pool.Leading.behind (split ▸ orderly.leading) quiet heavy waits rfl
  cases item <;> first | rfl | exact absurd trivial plain

theorem line_here (orderly : Orderly state) (split : state.pool = before ++ (.strand session, task) :: later)
    (quiet : Pool.idle before (.strand session)) (touch : Touch now state.core task effect) :
    lineUp (effect.next ++ Pool.queue later (.strand session)) (effect.core.queueOf session) <+
      lineAfter task (Pool.queue later (.strand session)) (state.core.queueOf session) := by
  have waits : (Thread.strand session, task) ∈ state.pool := by simp [split]
  have alone := alone_here orderly split quiet
  -- without a change of the schedulers only the task itself leaves the line
  have steady : effect.core.schedulers = state.core.schedulers →
      (∀ item ∈ effect.next, item.starting = none ∧ item.queuing = none) →
      lineUp (effect.next ++ Pool.queue later (.strand session)) (effect.core.queueOf session) <+
        lineAfter task (Pool.queue later (.strand session)) (state.core.queueOf session) := by
    intro schedulers plain
    rw [queueOf_same schedulers]
    exact line_dropped (List.Sublist.refl _) plain
  -- the job behind the current one steps forward, and nothing else is about to run
  have advance : ∀ {ptr : JobPtr} {record : Record}, task.owner = some ptr → state.core.records[ptr]? = some record →
      ¬ task.light → Advanced state.core record.session effect →
      lineUp (effect.next ++ Pool.queue later (.strand session)) (effect.core.queueOf session) <+
        lineAfter task (Pool.queue later (.strand session)) (state.core.queueOf session) := by
    intro ptr record owner found heavy advanced
    have here : record.session = session := by
      have placed := orderly.at_owner waits owner found
      exact (Thread.strand.inj placed).symm
    cases advanced with
    | same schedulers next => exact steady schedulers (by simp [next])
    | popped scheduler stored schedulers next =>
      rw [here] at stored schedulers
      rw [queueOf_set session stored schedulers, if_pos rfl, next, JobScheduler.completeCurrent_q,
        JobScheduler.completeCurrent_next, queueOf_found stored]
      exact line_popped (alone heavy)
  cases touch with
  | steady records schedulers unasked inert sends =>
    exact steady schedulers fun item mem => inert_line (inert item (List.mem_append_left _ mem))
  | send | postResponse | postTimeout | disconnect => exact steady rfl (by simp)
  | login records schedulers unasked next
  | request record message found room records schedulers requests ids asks next =>
    exact steady schedulers (by simp [next, Task.starting, Task.queuing])
  | enqueue target kind records schedulers unasked next posts => exact steady schedulers (by simp [next])
  | @push ptr _ record scheduler found owner records schedulers unasked next posts =>
    have here : record.session = session := (Thread.strand.inj (orderly.at_owner waits rfl found)).symm
    rw [here] at owner schedulers
    rw [queueOf_set session owner schedulers, if_pos rfl, next, queueOf_found owner]
    exact line_pushed (orderly.busy scheduler (List.mem_of_getElem? owner)) (alone id)
  | complete ptr record caller found records advanced unasked inert =>
    rcases caller with rfl | rfl <;> exact advance rfl found id advanced
  | logout record found records advanced unasked posts => exact advance rfl found id advanced
  | add => exact steady rfl (by simp [addRequest])
  | finish ptr record caller found unfinished records advanced unasked posts =>
    rcases caller with ⟨response, rfl⟩ | ⟨reason, rfl⟩ <;> exact advance rfl found id advanced
  | cancel record found room unfinished records schedulers requests ids next posts =>
    apply steady schedulers
    rw [next]
    split <;> simp [sendCancel, Task.starting, Task.queuing]
  -- the queued jobs get cancelled and drop out of the line
  | @shutdown target _ scheduler owner records schedulers unasked next posts =>
    have here : target = session := (Thread.strand.inj (orderly.stops _ waits target rfl)).symm
    rw [here] at owner schedulers
    rw [queueOf_set session owner schedulers, if_pos rfl, queueOf_found owner, next]
    apply line_dropped
    · rcases scheduler.shutdown_cases with same | same
      · rw [same]
      · simp [same]
    · intro item mem
      obtain ⟨ptr, -, rfl⟩ := List.mem_map.mp mem
      exact ⟨rfl, rfl⟩
  | respond id pending carries found records schedulers requests ids next posts =>
    apply steady schedulers
    rw [next]
    split <;> simp [onTimeout, sendCancel, Task.starting, Task.queuing]

theorem queue_elsewhere (orderly : Orderly state) (waits : (thread, task) ∈ state.pool)
    (elsewhere : thread ≠ .strand session) (touch : Touch now state.core task effect) :
    effect.core.queueOf session = state.core.queueOf session := by
  have advance : ∀ {ptr : JobPtr} {record : Record}, task.owner = some ptr → state.core.records[ptr]? = some record →
      Advanced state.core record.session effect → effect.core.queueOf session = state.core.queueOf session := by
    intro ptr record owner found advanced
    cases advanced with
    | same schedulers next => exact queueOf_same schedulers
    | popped scheduler stored schedulers next =>
      rw [queueOf_set session stored schedulers, if_neg]
      rintro rfl
      exact elsewhere (orderly.at_owner waits owner found)
  cases touch with
  | push record scheduler found owner records schedulers unasked next posts =>
    rw [queueOf_set session owner schedulers, if_neg]
    rintro rfl
    exact elsewhere (orderly.at_owner waits rfl found)
  | @shutdown target _ scheduler owner records schedulers unasked next posts =>
    rw [queueOf_set session owner schedulers, if_neg]
    rintro rfl
    exact elsewhere (orderly.stops _ waits target rfl)
  | complete ptr record caller found records advanced unasked inert =>
    rcases caller with rfl | rfl <;> exact advance rfl found advanced
  | logout record found records advanced unasked posts => exact advance rfl found advanced
  | finish ptr record caller found unfinished records advanced unasked posts =>
    rcases caller with ⟨response, rfl⟩ | ⟨reason, rfl⟩ <;> exact advance rfl found advanced
  | send | add | postResponse | postTimeout | disconnect => rfl
  | _ => exact queueOf_same ‹_›

theorem ahead_known (orderly : Orderly state) {ptr : JobPtr} (mem : ptr ∈ ahead state session) :
    ∃ record, state.core.records[ptr]? = some record := by
  have owned : ∀ item ∈ state.pool.queue (.strand session), item.owner = some ptr →
      ∃ record, state.core.records[ptr]? = some record := by
    intro item waits owner
    obtain ⟨record, found, -⟩ := orderly.located _ (Pool.mem_queue.mp waits) ptr owner
    exact ⟨record, found⟩
  simp only [ahead, lineUp, List.mem_append, List.mem_filterMap] at mem
  rcases mem with (⟨item, waits, starts⟩ | queued) | ⟨item, waits, pushes⟩
  · cases item <;> cases starts
    exact owned _ waits rfl
  · cases stored : state.core.schedulers[session]? with
    | none => simp [Core.queueOf, stored] at queued
    | some scheduler =>
      rw [queueOf_found stored] at queued
      obtain ⟨record, found, -⟩ := orderly.queued session scheduler stored ptr (List.mem_of_mem_tail queued)
      exact ⟨record, found⟩
  · cases item <;> cases pushes
    exact owned _ waits rfl

theorem inLine_ran (inLine : InLine session state) (orderly : Orderly state)
    (split : state.pool = before ++ (thread, task) :: later) (quiet : Pool.idle before thread)
    (executed : Executed now state.core task effect) : InLine session (ranState thread before later effect) := by
  have touch := touch_of_executed executed
  have pushes := pushes_of_touch touch session
  have waits : (thread, task) ∈ state.pool := by simp [split]
  -- The jobs waiting before the step still stand for the same notifications.
  have kept : ∀ line : List JobPtr, (∀ ptr ∈ line, ptr ∈ ahead state session) →
      line.filterMap (effect.core.noticeOf session) = line.filterMap (state.core.noticeOf session) := by
    intro line within
    apply List.filterMap_congr
    intro ptr mem
    obtain ⟨record, found⟩ := ahead_known orderly (within ptr mem)
    exact noticeOf_kept touch found session
  unfold InLine at inLine ⊢
  rw [given_of_executed executed, pushes.notices]
  by_cases here : thread = .strand session
  · subst here
    have line : ahead (ranState (.strand session) before later effect) session =
        lineUp (effect.next ++ Pool.queue later (.strand session)) (effect.core.queueOf session) ++
          (postedTo effect session).filterMap Task.queuing := by
      rw [ahead, Pool.queue_ran_self quiet]
      exact lineUp_append _ _ pushes.plain
    have front : ahead state session =
        task.starting.toList ++ lineAfter task (Pool.queue later (.strand session)) (state.core.queueOf session) := by
      rw [ahead, split, Pool.queue_split quiet, lineUp_cons]
    have shorter := (line_here orderly split quiet touch).filterMap (effect.core.noticeOf session)
    rw [kept (lineAfter _ _ _) fun ptr mem => front ▸ List.mem_append_right _ mem] at shorter
    rw [line, List.filterMap_append, ← List.append_assoc]
    apply List.Sublist.append _ (List.Sublist.refl _)
    refine List.Sublist.trans ?_ inLine
    rw [front, List.filterMap_append, List.append_assoc]
    apply (List.Sublist.refl _).append
    have started : (task.starting.bind (state.core.noticeOf session)).toList =
        task.starting.toList.filterMap (state.core.noticeOf session) := by
      cases task.starting with
      | none => rfl
      | some ptr => cases notice : state.core.noticeOf session ptr <;> simp [notice]
    rw [started]
    exact (List.Sublist.refl _).append shorter
  · have silent : task.starting.bind (state.core.noticeOf session) = none := by
      cases task with
      | run ptr =>
        obtain ⟨record, found, placed⟩ := orderly.located _ waits ptr rfl
        have other : record.session ≠ session := by
          rintro rfl
          exact here placed
        simp [Task.starting, Core.noticeOf, found, Core.noticeFor, other]
      | _ => rfl
    have line : ahead (ranState thread before later effect) session =
        ahead state session ++ (postedTo effect session).filterMap Task.queuing := by
      rw [ahead, Pool.queue_ran_other task here, ← split, queue_elsewhere orderly waits here touch]
      exact lineUp_append _ _ pushes.plain
    rw [silent, line, List.filterMap_append, kept _ fun ptr mem => mem, Option.toList_none, List.append_nil,
      ← List.append_assoc]
    exact inLine.append (List.Sublist.refl _)

theorem inLine_extended (inLine : InLine session state) {core : Core} {more : Pool Thread Task}
    (records : core.records = state.core.records) (queue : core.queueOf session = state.core.queueOf session)
    (sent : core.sent = state.core.sent)
    (plain : ∀ entry ∈ more, entry.2.starting = none ∧ entry.2.queuing = none) :
    InLine session ⟨core, state.pool ++ more⟩ := by
  have runs : (Pool.queue more (.strand session)).filterMap Task.starting = [] :=
    List.filterMap_eq_nil_iff.mpr fun item mem => (plain _ (Pool.mem_queue.mp mem)).1
  have pushes : (Pool.queue more (.strand session)).filterMap Task.queuing = [] :=
    List.filterMap_eq_nil_iff.mpr fun item mem => (plain _ (Pool.mem_queue.mp mem)).2
  have same : core.noticeOf session = state.core.noticeOf session := by
    funext ptr
    rw [Core.noticeOf, Core.noticeOf, records]
  have line : ahead ⟨core, state.pool ++ more⟩ session = ahead state session := by
    rw [ahead, Pool.queue_append, lineUp_append _ _ runs, pushes, List.append_nil, queue]
    rfl
  unfold InLine at inLine ⊢
  rw [line, given_kept state.core sent, notices_same records, same]
  exact inLine

theorem inLine_step {label : Label} {after : State} (inLine : InLine session state) (orderly : Orderly state)
    (moved : step state label = some after) : InLine session after := by
  cases stepped_of_step moved with
  | accepted =>
    rw [← List.append_nil state.pool]
    refine inLine_extended inLine rfl ?_ rfl (by simp)
    simp only [Core.queueOf, Core.schedulers, List.map_append, heap_get_concat, List.map_cons, List.map_nil]
    split
    · next fresh => simp [← fresh]
    · rfl
  | @received conn call known quiet =>
    refine inLine_extended inLine rfl rfl rfl ?_
    intro entry mem
    obtain ⟨item, asked, rfl⟩ := List.mem_map.mp mem
    cases call <;> simp only [Invocation.task, List.mem_singleton, List.not_mem_nil] at asked <;> subst asked <;>
      exact ⟨rfl, rfl⟩
  | delivered | closing => exact inLine_extended inLine rfl rfl rfl (by simp [Task.starting, Task.queuing])
  | ran split quiet executed => exact inLine_ran inLine orderly split quiet executed
  | expired quiet =>
    exact inLine_extended inLine rfl rfl rfl (forall_timeouts (fun _ => ⟨rfl, rfl⟩) fun _ => ⟨rfl, rfl⟩)

/-- A connection is given notifications of its session's jobs, in the order of the jobs. -/
theorem given_in_order {history : History} (reached : Reaches history state) (session : SessionPtr) :
    state.core.given session <+ state.core.notices session := by
  have inLine : InLine session state := by
    apply reached.history fun _ state => InLine session state
    · exact List.nil_sublist _
    · exact fun past move run inLine moved mem => inLine_step inLine (orderly_reached run) moved
  exact (List.sublist_append_left _ _).trans inLine

end Line

end Rsp.UserServer
