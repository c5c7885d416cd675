import Rsp.Foundation.Heap
import Rsp.UserServer.Server

/-! What the items of the User server can do.

`Executed` and `Stepped` say once and for all which effects an item and a step can have.
-/

set_option autoImplicit false

namespace Rsp.UserServer

open Message Rsp.Job Foundation

/-! ## Inversion -/

inductive Completed (core : Core) (ptr : JobPtr) : Effect → Prop where
  | again {job : Job} (found : core.jobs[ptr]? = some job) (completed : job.completed = true) :
      Completed core ptr { core }
  | first {job : Job} {session : Session} (found : core.jobs[ptr]? = some job) (fresh : job.completed = false)
      (owner : core.sessions[job.session]? = some session) :
      Completed core ptr
        { core := (core.setJob ptr { job with completed := true }).setSession job.session
            { session with scheduler := session.scheduler.completeCurrent.1 }
          next := session.scheduler.completeCurrent.2.toList.map .run }

inductive Finished (core : Core) (ptr : JobPtr) : Effect → Prop where
  | again {job : Job} (found : core.jobs[ptr]? = some job) (finished : job.finished = true) :
      Finished core ptr { core }
  | unheld {job : Job} (found : core.jobs[ptr]? = some job) (unfinished : job.finished = false)
      (unheld : job.done = false) :
      Finished core ptr { core := core.setJob ptr { job with finished := true, done := false } }
  | called {job : Job} {effect : Effect} (found : core.jobs[ptr]? = some job) (unfinished : job.finished = false)
      (held : job.done = true)
      (completed : Completed (core.setJob ptr { job with finished := true, done := false }) ptr effect) :
      Finished core ptr effect

def afterPush : Pushed JobPtr → List Task
  | .rejected rejected => [.cancel rejected .kShutdown]
  | .run next => [.run next]
  | .queued => []

inductive Executed (now : Nat) (core : Core) : Task → Effect → Prop where
  | pushed {ptr : JobPtr} {job : Job} {session : Session} (found : core.jobs[ptr]? = some job)
      (owner : core.sessions[job.session]? = some session) :
      Executed now core (.pushAndRun ptr)
        { core := core.setSession job.session { session with scheduler := (session.scheduler.pushAndRun ptr).1 }
          next := afterPush (session.scheduler.pushAndRun ptr).2 }
  | loggedIn {ptr : JobPtr} {job : Job} {session : Session} {request : ReqLogin}
      (found : core.jobs[ptr]? = some job) (owner : core.sessions[job.session]? = some session)
      (kind : job.kind = .login request) :
      Executed now core (.run ptr)
        { core := (core.send job.session (resLogin request session)).setSession job.session
            { session with uid := request.uid }
          next := [.addSession ptr] }
  | loggedOut {ptr : JobPtr} {job : Job} {session : Session} {request : ReqLogout} {effect : Effect}
      (found : core.jobs[ptr]? = some job) (owner : core.sessions[job.session]? = some session)
      (kind : job.kind = .logout request)
      (completed : Completed { core.send job.session (.resLogout { uid := session.uid }) with
        jobs := core.jobs ++ [{ session := job.session, kind := .stop false }] } ptr effect) :
      Executed now core (.run ptr)
        { effect with posts := [(.strand job.session, .pushAndRun core.jobs.length)] }
  | stopped {ptr : JobPtr} {job : Job} {session : Session} {forceClose : Bool} {effect : Effect}
      (found : core.jobs[ptr]? = some job) (owner : core.sessions[job.session]? = some session)
      (kind : job.kind = .stop forceClose) (completed : Completed core ptr effect) :
      Executed now core (.run ptr)
        { effect with posts := if forceClose then [(.conn job.session, .finishClose job.session)] else [] }
  | forwarded {ptr : JobPtr} {job : Job} {session : Session} {message : FwdRoom} {effect : Effect}
      (found : core.jobs[ptr]? = some job) (owner : core.sessions[job.session]? = some session)
      (kind : job.kind = .forwardMessage message)
      (completed : Completed { core with
        outgoing := core.outgoing ++ [.fwdRoom { uid := session.uid, message := message.message }] } ptr effect) :
      Executed now core (.run ptr) effect
  | clientForwarded {ptr : JobPtr} {job : Job} {session : Session} {message : User2RoomFwdClient} {effect : Effect}
      (found : core.jobs[ptr]? = some job) (owner : core.sessions[job.session]? = some session)
      (kind : job.kind = .cliForwardMessage message)
      (completed : Completed (core.send job.session (fwdClient message)) ptr effect) :
      Executed now core (.run ptr) effect
  | leaveNotified {ptr : JobPtr} {job : Job} {session : Session} {notification : User2RoomNtfLeaveRoom}
      {effect : Effect} (found : core.jobs[ptr]? = some job) (owner : core.sessions[job.session]? = some session)
      (kind : job.kind = .ntfLeaveRoomMessage notification)
      (completed : Completed ((core.send job.session (.ntfLeaveRoom { reason := notification.reason })).setSession
        job.session { session with roomId := 0 }) ptr effect) :
      Executed now core (.run ptr) effect
  | requested {ptr : JobPtr} {job : Job} {session : Session} {request : ToRoom}
      (found : core.jobs[ptr]? = some job) (owner : core.sessions[job.session]? = some session)
      (room : job.kind.request session.uid core.nextRequestId = some request) :
      Executed now core (.run ptr)
        { core := { core.setJob ptr { job with done := true, roomRequestId := core.nextRequestId } with
            nextRequestId := core.nextRequestId + 1 }
          next := [.addRequest ptr core.nextRequestId, .channelSend request] }
  | sessionAdded {ptr : JobPtr} {job : Job} {session : Session} {effect : Effect}
      (found : core.jobs[ptr]? = some job) (owner : core.sessions[job.session]? = some session)
      (completed : Completed { core with manager := core.manager.addSession job.session session.uid } ptr effect) :
      Executed now core (.addSession ptr) effect
  | requestAdded {ptr : JobPtr} {id : Nat} : Executed now core (.addRequest ptr id) (addRequest now ptr id core)
  | channelSent {message : ToRoom} :
      Executed now core (.channelSend message) { core := { core with outgoing := core.outgoing ++ [message] } }
  | answeredLate {ptr : JobPtr} {job : Job} {response : ToUser} (found : core.jobs[ptr]? = some job)
      (finished : job.finished = true) : Executed now core (.handleRes ptr response) { core }
  | answered {ptr : JobPtr} {job : Job} {session : Session} {response : ToUser} {frame : ToClient} {effect : Effect}
      (found : core.jobs[ptr]? = some job) (unfinished : job.finished = false)
      (answer : job.kind.answer response = some frame) (owner : core.sessions[job.session]? = some session)
      (finished : Finished ((core.setSession job.session
        { session with roomId := JobKind.roomAfter session.roomId response }).send job.session frame) ptr effect) :
      Executed now core (.handleRes ptr response) effect
  | cancelIgnored {ptr : JobPtr} {job : Job} {reason : CancelReason} (found : core.jobs[ptr]? = some job)
      (ignored : job.kind.isRoom = false ∨ job.finished = true) : Executed now core (.cancel ptr reason) { core }
  | cancelled {ptr : JobPtr} {job : Job} {reason : CancelReason} (found : core.jobs[ptr]? = some job)
      (room : job.kind.isRoom = true) (unfinished : job.finished = false) :
      Executed now core (.cancel ptr reason)
        { core := { core with requests := (core.requests.take job.roomRequestId).1 }
          next := (if (core.requests.find job.roomRequestId).isSome then [sendCancel job.roomRequestId] else []) ++
            [.finishCancel ptr reason] }
  | shutdownFinished {ptr : JobPtr} {job : Job} {effect : Effect} (found : core.jobs[ptr]? = some job)
      (finished : Finished core ptr effect) : Executed now core (.finishCancel ptr .kShutdown) effect
  | timeoutFinished {ptr : JobPtr} {job : Job} {frame : ToClient} {effect : Effect}
      (found : core.jobs[ptr]? = some job) (timeout : job.kind.timeoutResponse = some frame)
      (finished : Finished (core.send job.session frame) ptr effect) :
      Executed now core (.finishCancel ptr .kTimeout) effect
  | shutDown {ptr : SessionPtr} {session : Session} (owner : core.sessions[ptr]? = some session) :
      Executed now core (.shutdown ptr)
        { core := core.setSession ptr { session with scheduler := session.scheduler.shutdown.1 }
          next := session.scheduler.shutdown.2.map (.cancel · .kShutdown) }
  | responded {message : ToUser} {id : Nat} (carries : message.requestId = some id) :
      Executed now core (.onRecv message) (sendToWaiter now id message core)
  | clientPassed {message : User2RoomFwdClient} :
      Executed now core (.onRecv (.fwdClient message))
        (passToSession message.uid (.cliForwardMessage message) core)
  | leavePassed {message : User2RoomNtfLeaveRoom} :
      Executed now core (.onRecv (.ntfLeaveRoom message))
        (passToSession message.uid (.ntfLeaveRoomMessage message) core)
  | responsePosted {ptr : JobPtr} {job : Job} {response : ToUser} (found : core.jobs[ptr]? = some job) :
      Executed now core (.postResponse ptr response)
        { core, posts := [(.strand job.session, .handleRes ptr response)] }
  | timeoutPosted {ptr : JobPtr} {job : Job} (found : core.jobs[ptr]? = some job) :
      Executed now core (.postTimeout ptr) { core, posts := [(.strand job.session, .cancel ptr .kTimeout)] }
  | notified {session : SessionPtr} {kind : JobKind} :
      Executed now core (.notify session kind) (core.enqueueJob session kind)
  | sessionReceived {session : SessionPtr} {message : FromClient} :
      Executed now core (.onSessionRecv session message) (onSessionRecv session message core)
  | unknownReceived {session : SessionPtr} :
      Executed now core (.onRecvUnknown session) (core.enqueueJob session (.stop false))
  | closedAgain {ptr : SessionPtr} {session : Session} (owner : core.sessions[ptr]? = some session)
      (closed : session.closed = true) : Executed now core (.finishClose ptr) { core }
  | closed {ptr : SessionPtr} {session : Session} (owner : core.sessions[ptr]? = some session)
      (isOpen : session.closed = false) :
      Executed now core (.finishClose ptr)
        { core := core.setSession ptr { session with closed := true }, next := [.onConnClosed ptr] }
  | removed {ptr : SessionPtr} : Executed now core (.onConnClosed ptr) (onConnClosed ptr core)
  | disconnected {ptr : SessionPtr} :
      Executed now core (.onDisconnected ptr) { core, posts := [(.strand ptr, .shutdown ptr)] }

section Inversion

variable {now : Nat} {core : Core} {ptr : JobPtr} {effect : Effect}

theorem completed_of_complete (done : core.complete ptr = some effect) : Completed core ptr effect := by
  simp only [Core.complete, Option.bind_eq_bind, Option.pure_def, Option.bind_eq_some_iff] at done
  obtain ⟨job, found, done⟩ := done
  split at done
  · next completed =>
    cases done
    exact .again found completed
  · next fresh =>
    simp only [Option.bind_eq_some_iff, Option.some.injEq] at done
    obtain ⟨session, owner, rfl⟩ := done
    exact .first found (by simpa using fresh) owner

theorem finished_of_finish (done : core.finish ptr = some effect) : Finished core ptr effect := by
  simp only [Core.finish, Option.bind_eq_bind, Option.bind_eq_some_iff] at done
  obtain ⟨job, found, done⟩ := done
  split at done
  · next finished =>
    cases done
    exact .again found finished
  · next unfinished =>
    split at done
    · next held => exact .called found (by simpa using unfinished) held (completed_of_complete done)
    · next unheld =>
      cases done
      exact .unheld found (by simpa using unfinished) (by simpa using unheld)

theorem executed_run (done : run ptr core = some effect) : Executed now core (.run ptr) effect := by
  simp only [run, Option.bind_eq_bind, Option.pure_def, Option.bind_eq_some_iff] at done
  obtain ⟨job, found, session, owner, done⟩ := done
  split at done
  · next request kind =>
    cases done
    exact .loggedIn found owner kind
  · next kind =>
    simp only [Option.bind_eq_some_iff, Option.some.injEq] at done
    obtain ⟨completed, called, rfl⟩ := done
    exact .loggedOut found owner kind (completed_of_complete called)
  · next forceClose kind =>
    simp only [Option.bind_eq_some_iff, Option.some.injEq] at done
    obtain ⟨completed, called, rfl⟩ := done
    exact .stopped found owner kind (completed_of_complete called)
  · next message kind => exact .forwarded found owner kind (completed_of_complete done)
  · next message kind => exact .clientForwarded found owner kind (completed_of_complete done)
  · next notification kind => exact .leaveNotified found owner kind (completed_of_complete done)
  · simp only [Option.bind_eq_some_iff, Option.some.injEq] at done
    obtain ⟨request, room, rfl⟩ := done
    exact .requested found owner room

theorem executed_handleRes {response : ToUser} (done : handleRes ptr response core = some effect) :
    Executed now core (.handleRes ptr response) effect := by
  simp only [handleRes, Option.bind_eq_bind, Option.bind_eq_some_iff] at done
  obtain ⟨job, found, done⟩ := done
  split at done
  · next finished =>
    cases done
    exact .answeredLate found finished
  · next unfinished =>
    simp only [Option.bind_eq_some_iff] at done
    obtain ⟨frame, answer, session, owner, done⟩ := done
    exact .answered found (by simpa using unfinished) answer owner (finished_of_finish done)

theorem executed_cancel {reason : CancelReason} (done : cancel ptr reason core = some effect) :
    Executed now core (.cancel ptr reason) effect := by
  simp only [cancel, Option.bind_eq_bind, Option.pure_def, Option.bind_eq_some_iff] at done
  obtain ⟨job, found, done⟩ := done
  split at done
  · next ignored =>
    cases done
    exact .cancelIgnored found (by simpa using ignored)
  · next active =>
    simp only [PendingRequests.cancel_eq, Option.some.injEq] at done
    cases done
    simp only [Bool.or_eq_true, Bool.not_eq_true', not_or, Bool.not_eq_false, Bool.not_eq_true] at active
    exact .cancelled found active.1 active.2

theorem executed_finishCancel {reason : CancelReason} (done : finishCancel ptr reason core = some effect) :
    Executed now core (.finishCancel ptr reason) effect := by
  simp only [finishCancel, Option.bind_eq_bind, Option.bind_eq_some_iff] at done
  obtain ⟨job, found, done⟩ := done
  cases reason with
  | kShutdown => exact .shutdownFinished found (finished_of_finish done)
  | kTimeout =>
    simp only [Option.bind_eq_some_iff] at done
    obtain ⟨frame, timeout, done⟩ := done
    exact .timeoutFinished found timeout (finished_of_finish done)

theorem executed_onRecv {message : ToUser} (done : onRecv now message core = some effect) :
    Executed now core (.onRecv message) effect := by
  cases message with
  | pong => cases done
  | fwdClient message =>
    cases done
    exact .clientPassed
  | ntfLeaveRoom message =>
    cases done
    exact .leavePassed
  | resCreateRoom | resJoinRoom | resLeaveRoom =>
    cases done
    exact .responded rfl

theorem executed_of_exec {task : Task} (done : exec now task core = some effect) : Executed now core task effect := by
  cases task with
  | pushAndRun ptr =>
    simp only [exec, pushAndRun, Option.bind_eq_bind, Option.pure_def, Option.bind_eq_some_iff,
      Option.some.injEq] at done
    obtain ⟨job, found, session, owner, rfl⟩ := done
    exact .pushed found owner
  | run ptr => exact executed_run done
  | addSession ptr =>
    simp only [exec, addSession, Option.bind_eq_bind, Option.bind_eq_some_iff] at done
    obtain ⟨job, found, session, owner, done⟩ := done
    exact .sessionAdded found owner (completed_of_complete done)
  | addRequest ptr id =>
    cases done
    exact .requestAdded
  | channelSend message =>
    cases done
    exact .channelSent
  | handleRes ptr response => exact executed_handleRes done
  | cancel ptr reason => exact executed_cancel done
  | finishCancel ptr reason => exact executed_finishCancel done
  | shutdown ptr =>
    simp only [exec, shutdown, Option.bind_eq_bind, Option.pure_def, Option.bind_eq_some_iff,
      Option.some.injEq] at done
    obtain ⟨session, owner, rfl⟩ := done
    exact .shutDown owner
  | onRecv message => exact executed_onRecv done
  | postResponse ptr response =>
    simp only [exec, Option.bind_eq_bind, Option.pure_def, Option.bind_eq_some_iff, Option.some.injEq] at done
    obtain ⟨job, found, rfl⟩ := done
    exact .responsePosted found
  | postTimeout ptr =>
    simp only [exec, Option.bind_eq_bind, Option.pure_def, Option.bind_eq_some_iff, Option.some.injEq] at done
    obtain ⟨job, found, rfl⟩ := done
    exact .timeoutPosted found
  | notify session kind =>
    cases done
    exact .notified
  | onSessionRecv session message =>
    cases done
    exact .sessionReceived
  | onRecvUnknown session =>
    cases done
    exact .unknownReceived
  | finishClose ptr =>
    simp only [exec, finishClose, Option.bind_eq_bind, Option.bind_eq_some_iff] at done
    obtain ⟨session, owner, done⟩ := done
    split at done
    · next closed =>
      cases done
      exact .closedAgain owner closed
    · next isOpen =>
      cases done
      exact .closed owner (by simpa using isOpen)
  | onConnClosed ptr =>
    cases done
    exact .removed
  | onDisconnected ptr =>
    cases done
    exact .disconnected

end Inversion

inductive Stepped (state : State) : Label → State → Prop where
  | accepted : Stepped state .accept { state with core := { state.core with
      manager := state.core.manager.addConnection state.core.sessions.length
      sessions := state.core.sessions ++ [{}] } }
  | received {conn : SessionPtr} {call : Invocation} (known : conn < state.core.sessions.length)
      (quiet : state.pool.idle (.conn conn)) :
      Stepped state (.receive conn call) { state with
        pool := state.pool ++ (call.task conn).map (Prod.mk (.conn conn)) }
  | delivered {message : ToUser} (quiet : state.pool.idle .dealer) :
      Stepped state (.deliver message) { state with pool := state.pool ++ [(.dealer, .onRecv message)] }
  | ran {thread : Thread} {now : Nat} {task : Task} {before later : Pool Thread Task} {effect : Effect}
      (split : state.pool = before ++ (thread, task) :: later) (quiet : Pool.idle before thread)
      (executed : Executed now state.core task effect) :
      Stepped state (.run thread now)
        ⟨effect.core, effect.next.map (Prod.mk thread) ++ (before ++ later) ++ effect.posts⟩
  | expired {now : Nat} (quiet : state.pool.idle .timer) : Stepped state (.expire now) (expire now state)
  | closing {conn : SessionPtr} (known : conn < state.core.sessions.length) :
      Stepped state (.close conn) { state with pool := state.pool ++ [(.conn conn, .finishClose conn)] }

theorem stepped_of_step {state after : State} {label : Label} (moved : step state label = some after) :
    Stepped state label after := by
  cases label with
  | accept =>
    cases moved
    exact .accepted
  | receive conn call =>
    simp only [step] at moved
    split at moved
    · next guard =>
      cases moved
      exact .received guard.1 guard.2
    · cases moved
  | deliver message =>
    simp only [step] at moved
    split at moved
    · next quiet =>
      cases moved
      exact .delivered quiet
    · cases moved
  | run thread now =>
    obtain ⟨before, task, later, effect, split, quiet, done, rfl⟩ := Machine.run_cases moved
    exact .ran split quiet (executed_of_exec done)
  | expire now =>
    simp only [step] at moved
    split at moved
    · next quiet =>
      cases moved
      exact .expired quiet
    · cases moved
  | close conn =>
    simp only [step] at moved
    split at moved
    · next known =>
      cases moved
      exact .closing known
    · cases moved

theorem executed_ran {state : State} (now : Nat) (after : State) {thread : Thread} {task : Task}
    {before later : Pool Thread Task} (split : state.pool = before ++ (thread, task) :: later)
    (quiet : Pool.idle before thread) : executed ⟨state, .run thread now, after⟩ = some (now, task) := by
  simp [executed, split, Pool.pop_of_idle quiet]

theorem executed_split {state after : State} {label : Label} {now : Nat} {task : Task}
    (ran : executed ⟨state, label, after⟩ = some (now, task)) (moved : step state label = some after) :
    ∃ thread before later effect, label = .run thread now ∧ state.pool = before ++ (thread, task) :: later ∧
      Pool.idle before thread ∧ Executed now state.core task effect ∧
      after = ranState thread before later effect := by
  cases stepped_of_step moved with
  | @ran thread time item before later effect split quiet done =>
    have same := (executed_ran time (ranState thread before later effect) split quiet).symm.trans ran
    cases same
    exact ⟨thread, before, later, effect, rfl, split, quiet, done, rfl⟩
  | accepted | received | delivered | expired | closing => cases ran

/-! ## What the jobs see

Most invariants only speak about the jobs, the schedulers and the pending requests.
`Touch` says what an item does to these.
-/

/-- A job without the flag it shares with the scheduler. -/
structure Record where
  session : SessionPtr
  kind : JobKind
  done : Bool := false
  roomRequestId : Nat := 0
  finished : Bool := false
  deriving DecidableEq, Repr

def Record.make (session : SessionPtr) (kind : JobKind) : Record := { session, kind }

def Job.record (self : Job) : Record :=
  ⟨self.session, self.kind, self.done, self.roomRequestId, self.finished⟩

namespace Core

def records (self : Core) : List Record := self.jobs.map Job.record

def schedulers (self : Core) : List (JobScheduler JobPtr) := self.sessions.map Session.scheduler

theorem found_record {self : Core} {ptr : JobPtr} {job : Job} (found : self.jobs[ptr]? = some job) :
    self.records[ptr]? = some job.record := by
  simp [records, found]

theorem found_scheduler {self : Core} {ptr : SessionPtr} {session : Session}
    (owner : self.sessions[ptr]? = some session) : self.schedulers[ptr]? = some session.scheduler := by
  simp [schedulers, owner]

@[simp] theorem records_setSession (self : Core) (ptr : SessionPtr) (session : Session) :
    (self.setSession ptr session).records = self.records := rfl

@[simp] theorem schedulers_setJob (self : Core) (ptr : JobPtr) (job : Job) :
    (self.setJob ptr job).schedulers = self.schedulers := rfl

theorem records_setJob (self : Core) (ptr : JobPtr) (job : Job) :
    (self.setJob ptr job).records = self.records.set ptr job.record := by
  simp [records, setJob, List.map_set]

theorem schedulers_setSession (self : Core) (ptr : SessionPtr) (session : Session) :
    (self.setSession ptr session).schedulers = self.schedulers.set ptr session.scheduler := by
  simp [schedulers, setSession, List.map_set]

theorem records_setJob_same {self : Core} {ptr : JobPtr} {job after : Job} (found : self.jobs[ptr]? = some job)
    (same : after.record = job.record) : (self.setJob ptr after).records = self.records := by
  rw [records_setJob, same]
  exact heap_set_self (found_record found)

theorem schedulers_setSession_same (self : Core) {ptr : SessionPtr} {session after : Session}
    (owner : self.sessions[ptr]? = some session) (same : after.scheduler = session.scheduler) :
    (self.setSession ptr after).schedulers = self.schedulers := by
  rw [schedulers_setSession, same]
  exact heap_set_self (found_scheduler owner)

end Core

def Task.inert : Task → Bool
  | .pushAndRun _ | .run _ | .addSession _ | .addRequest .. | .handleRes .. | .cancel .. | .finishCancel ..
  | .postResponse .. | .postTimeout _ | .channelSend _ | .shutdown _ => false
  | _ => true

/-- The scheduler of a session is left as it is or goes on to the next job. -/
inductive Advanced (core : Core) (session : SessionPtr) (effect : Effect) : Prop where
  | same (schedulers : effect.core.schedulers = core.schedulers) (next : effect.next = [])
  | popped (scheduler : JobScheduler JobPtr) (owner : core.schedulers[session]? = some scheduler)
      (schedulers : effect.core.schedulers = core.schedulers.set session scheduler.completeCurrent.1)
      (next : effect.next = scheduler.completeCurrent.2.toList.map .run)

structure Unasked (core after : Core) : Prop where
  requests : after.requests = core.requests
  ids : after.nextRequestId = core.nextRequestId

inductive Touch (now : Nat) (core : Core) : Task → Effect → Prop where
  | steady {task : Task} {effect : Effect} (records : effect.core.records = core.records)
      (schedulers : effect.core.schedulers = core.schedulers) (unasked : Unasked core effect.core)
      (inert : ∀ item ∈ items effect, item.inert) (sends : ∀ message, task ≠ .channelSend message) :
      Touch now core task effect
  | send {message : ToRoom} :
      Touch now core (.channelSend message) { core := { core with outgoing := core.outgoing ++ [message] } }
  | login {ptr : JobPtr} {effect : Effect} (records : effect.core.records = core.records)
      (schedulers : effect.core.schedulers = core.schedulers) (unasked : Unasked core effect.core)
      (next : effect.next = [.addSession ptr]) (posts : effect.posts = []) (record : Record)
      (found : core.records[ptr]? = some record) (login : record.kind.isRoom = false) : Touch now core (.run ptr) effect
  | enqueue {task : Task} {effect : Effect} (session : SessionPtr) (kind : JobKind)
      (records : effect.core.records = core.records ++ [.make session kind])
      (schedulers : effect.core.schedulers = core.schedulers) (unasked : Unasked core effect.core)
      (next : effect.next = []) (posts : effect.posts = [(.strand session, .pushAndRun core.records.length)]) :
      Touch now core task effect
  | push {ptr : JobPtr} {effect : Effect} (record : Record) (scheduler : JobScheduler JobPtr)
      (found : core.records[ptr]? = some record) (owner : core.schedulers[record.session]? = some scheduler)
      (records : effect.core.records = core.records)
      (schedulers : effect.core.schedulers = core.schedulers.set record.session (scheduler.pushAndRun ptr).1)
      (unasked : Unasked core effect.core) (next : effect.next = afterPush (scheduler.pushAndRun ptr).2)
      (posts : effect.posts = []) : Touch now core (.pushAndRun ptr) effect
  | complete {task : Task} {effect : Effect} (ptr : JobPtr) (record : Record)
      (caller : task = .run ptr ∨ task = .addSession ptr) (found : core.records[ptr]? = some record)
      (records : effect.core.records = core.records) (advanced : Advanced core record.session effect)
      (unasked : Unasked core effect.core) (inert : ∀ entry ∈ effect.posts, entry.2.inert) :
      Touch now core task effect
  | logout {ptr : JobPtr} {effect : Effect} (record : Record) (found : core.records[ptr]? = some record)
      (records : effect.core.records = core.records ++ [.make record.session (.stop false)])
      (advanced : Advanced core record.session effect) (unasked : Unasked core effect.core)
      (posts : effect.posts = [(.strand record.session, .pushAndRun core.records.length)]) :
      Touch now core (.run ptr) effect
  | request {ptr : JobPtr} {effect : Effect} (record : Record) (message : ToRoom)
      (found : core.records[ptr]? = some record) (room : record.kind.isRoom = true)
      (records : effect.core.records = core.records.set ptr
        { record with done := true, roomRequestId := core.nextRequestId })
      (schedulers : effect.core.schedulers = core.schedulers) (requests : effect.core.requests = core.requests)
      (ids : effect.core.nextRequestId = core.nextRequestId + 1)
      (asks : ∀ notification, message ≠ .cancelRequest notification)
      (next : effect.next = [.addRequest ptr core.nextRequestId, .channelSend message]) (posts : effect.posts = []) :
      Touch now core (.run ptr) effect
  | add {ptr : JobPtr} {id : Nat} : Touch now core (.addRequest ptr id) (addRequest now ptr id core)
  | finish {task : Task} {effect : Effect} (ptr : JobPtr) (record : Record)
      (caller : (∃ response, task = .handleRes ptr response) ∨ ∃ reason, task = .finishCancel ptr reason)
      (found : core.records[ptr]? = some record) (unfinished : record.finished = false)
      (records : effect.core.records = core.records.set ptr { record with finished := true, done := false })
      (advanced : Advanced core record.session effect) (unasked : Unasked core effect.core)
      (posts : effect.posts = []) : Touch now core task effect
  | cancel {ptr : JobPtr} {reason : CancelReason} {effect : Effect} (record : Record)
      (found : core.records[ptr]? = some record) (room : record.kind.isRoom = true)
      (unfinished : record.finished = false) (records : effect.core.records = core.records)
      (schedulers : effect.core.schedulers = core.schedulers)
      (requests : effect.core.requests = (core.requests.take record.roomRequestId).1)
      (ids : effect.core.nextRequestId = core.nextRequestId)
      (next : effect.next =
        (if (core.requests.find record.roomRequestId).isSome then [sendCancel record.roomRequestId] else []) ++
          [.finishCancel ptr reason])
      (posts : effect.posts = []) : Touch now core (.cancel ptr reason) effect
  | shutdown {session : SessionPtr} {effect : Effect} (scheduler : JobScheduler JobPtr)
      (owner : core.schedulers[session]? = some scheduler) (records : effect.core.records = core.records)
      (schedulers : effect.core.schedulers = core.schedulers.set session scheduler.shutdown.1)
      (unasked : Unasked core effect.core) (next : effect.next = scheduler.shutdown.2.map (.cancel · .kShutdown))
      (posts : effect.posts = []) : Touch now core (.shutdown session) effect
  | respond {message : ToUser} {effect : Effect} (id : Nat) (pending : Pending JobPtr)
      (carries : message.requestId = some id) (found : core.requests.find id = some pending)
      (records : effect.core.records = core.records) (schedulers : effect.core.schedulers = core.schedulers)
      (requests : effect.core.requests = (core.requests.take id).1)
      (ids : effect.core.nextRequestId = core.nextRequestId)
      (next : effect.next = if pending.deadline ≤ now then onTimeout id pending.target
        else [.postResponse pending.target message])
      (posts : effect.posts = []) : Touch now core (.onRecv message) effect
  | postResponse {ptr : JobPtr} {response : ToUser} (record : Record) (found : core.records[ptr]? = some record) :
      Touch now core (.postResponse ptr response)
        { core, posts := [(.strand record.session, .handleRes ptr response)] }
  | postTimeout {ptr : JobPtr} (record : Record) (found : core.records[ptr]? = some record) :
      Touch now core (.postTimeout ptr) { core, posts := [(.strand record.session, .cancel ptr .kTimeout)] }
  | disconnect {session : SessionPtr} :
      Touch now core (.onDisconnected session) { core, posts := [(.strand session, .shutdown session)] }

section Touch

variable {now : Nat} {core : Core} {ptr : JobPtr} {effect : Effect}

theorem Advanced.runs {session : SessionPtr} (advanced : Advanced core session effect) {item : Task}
    (mem : item ∈ effect.next) : ∃ job, item = .run job := by
  cases advanced with
  | same schedulers next => simp [next] at mem
  | popped scheduler owner schedulers next =>
    rw [next] at mem
    obtain ⟨job, -, rfl⟩ := List.mem_map.mp mem
    exact ⟨job, rfl⟩

/-- For every request that has expired the timer thread has a message to Room and the end of the job. -/
theorem forall_timeouts {holds : Thread × Task → Prop} {expired : List (Nat × JobPtr)}
    (cancels : ∀ id, holds (.timer, sendCancel id)) (ends : ∀ ptr, holds (.timer, .postTimeout ptr)) :
    ∀ entry ∈ (expired.flatMap fun entry => onTimeout entry.1 entry.2).map (Prod.mk .timer), holds entry := by
  intro entry mem
  obtain ⟨item, told, rfl⟩ := List.mem_map.mp mem
  obtain ⟨pair, -, told⟩ := List.mem_flatMap.mp told
  simp only [onTimeout, List.mem_cons, List.not_mem_nil, or_false] at told
  rcases told with rfl | rfl
  · exact cancels _
  · exact ends _

theorem advanced_of_completed (completed : Completed core ptr effect) :
    ∃ record, core.records[ptr]? = some record ∧ effect.core.records = core.records ∧
      Advanced core record.session effect ∧ Unasked core effect.core ∧ effect.posts = [] := by
  cases completed with
  | again found completed => exact ⟨_, Core.found_record found, rfl, .same rfl rfl, ⟨rfl, rfl⟩, rfl⟩
  | @first job session found fresh owner =>
    refine ⟨job.record, Core.found_record found, ?_, ?_, ⟨rfl, rfl⟩, rfl⟩
    · rw [Core.records_setSession]
      exact Core.records_setJob_same found rfl
    · exact .popped session.scheduler (Core.found_scheduler owner)
        (Core.schedulers_setSession ..) rfl

/-- `finish` of a job that is finished does nothing; otherwise it finishes the job. -/
theorem finish_of_finished (finished : Finished core ptr effect) :
    (effect = { core } ∧ ∃ record, core.records[ptr]? = some record ∧ record.finished = true) ∨
    ∃ record, core.records[ptr]? = some record ∧ record.finished = false ∧
      effect.core.records = core.records.set ptr { record with finished := true, done := false } ∧
      Advanced core record.session effect ∧ Unasked core effect.core ∧ effect.posts = [] := by
  cases finished with
  | again found finished => exact .inl ⟨rfl, _, Core.found_record found, finished⟩
  | @unheld job found unfinished unheld =>
    refine .inr ⟨job.record, Core.found_record found, unfinished, ?_, .same rfl rfl, ⟨rfl, rfl⟩, rfl⟩
    rw [Core.records_setJob]
    rfl
  | @called job effect found unfinished held completed =>
    obtain ⟨record, stored, records, advanced, unasked, posts⟩ := advanced_of_completed completed
    rw [Core.records_setJob, List.getElem?_set_self (by simpa [Core.records] using heap_bound found)] at stored
    cases stored
    refine .inr ⟨job.record, Core.found_record found, unfinished, ?_, ?_, ⟨unasked.requests, unasked.ids⟩, posts⟩
    · rw [records, Core.records_setJob]
      rfl
    · cases advanced with
      | same schedulers next => exact .same schedulers next
      | popped scheduler owner schedulers next => exact .popped scheduler owner schedulers next

theorem touch_complete {core' : Core} {task : Task} (completed : Completed core' ptr effect)
    (caller : task = .run ptr ∨ task = .addSession ptr) (records : core'.records = core.records)
    (schedulers : core'.schedulers = core.schedulers) (unasked : Unasked core core') :
    Touch now core task effect := by
  obtain ⟨record, found, same, advanced, unasked', posts⟩ := advanced_of_completed completed
  refine .complete ptr record caller (records ▸ found) (same.trans records) ?_
    ⟨unasked'.requests.trans unasked.requests, unasked'.ids.trans unasked.ids⟩ (by simp [posts])
  cases advanced with
  | same after next => exact .same (after.trans schedulers) next
  | popped scheduler owner after next =>
    rw [schedulers] at owner after
    exact .popped scheduler owner after next

theorem touch_finish {core' : Core} {task : Task} (finished : Finished core' ptr effect)
    (caller : (∃ response, task = .handleRes ptr response) ∨ ∃ reason, task = .finishCancel ptr reason)
    (records : core'.records = core.records) (schedulers : core'.schedulers = core.schedulers)
    (unasked : Unasked core core') : Touch now core task effect := by
  rcases finish_of_finished finished with ⟨rfl, -⟩ | ⟨record, found, unfinished, after, advanced, unasked', posts⟩
  · refine .steady records schedulers unasked (by simp [items]) ?_
    rcases caller with ⟨response, rfl⟩ | ⟨reason, rfl⟩ <;> simp
  · refine .finish ptr record caller (records ▸ found) unfinished (by rw [after, records]) ?_
      ⟨unasked'.requests.trans unasked.requests, unasked'.ids.trans unasked.ids⟩ posts
    cases advanced with
    | same after next => exact .same (after.trans schedulers) next
    | popped scheduler owner after next =>
      rw [schedulers] at owner after
      exact .popped scheduler owner after next

theorem touch_enqueue {task : Task} (session : SessionPtr) (kind : JobKind) :
    Touch now core task (core.enqueueJob session kind) := by
  refine .enqueue session kind ?_ rfl ⟨rfl, rfl⟩ rfl ?_
  · simp [Core.enqueueJob, Core.records, Job.record, Record.make]
  · simp [Core.enqueueJob, Core.records]

theorem request_room {kind : JobKind} {uid : Uid} {id : Nat} {message : ToRoom}
    (request : kind.request uid id = some message) :
    kind.isRoom = true ∧ (∀ notification, message ≠ .cancelRequest notification) ∧ message.requestId = some id := by
  cases kind <;> cases request <;> exact ⟨rfl, by simp, rfl⟩

theorem touch_respond {message : ToUser} {id : Nat} (carries : message.requestId = some id) :
    Touch now core (.onRecv message) (sendToWaiter now id message core) := by
  cases found : core.requests.find id with
  | none =>
    have absent : (core.requests.complete id now).2 = none := by simp [PendingRequests.complete_snd, found]
    have same : (core.requests.complete id now).1 = core.requests := by
      have missing : core.requests.requests[id]? = none := found
      simp [PendingRequests.complete, PendingRequests.take, missing]
    refine .steady rfl rfl ⟨same, rfl⟩ ?_ (by simp)
    simp [items, sendToWaiter, absent]
  | some pending =>
    refine .respond id pending carries found rfl rfl rfl rfl ?_ rfl
    simp only [sendToWaiter, PendingRequests.complete_snd, found, Option.map_some]
    by_cases late : pending.deadline ≤ now <;> simp [late]

theorem touch_of_executed {task : Task} (executed : Executed now core task effect) : Touch now core task effect := by
  cases executed with
  | @pushed ptr job session found owner =>
    exact .push job.record session.scheduler (Core.found_record found) (Core.found_scheduler owner) rfl
      (Core.schedulers_setSession ..) ⟨rfl, rfl⟩ rfl rfl
  | @loggedIn ptr job session request found owner kind =>
    have login : job.record.kind.isRoom = false := by simp [Job.record, kind, JobKind.isRoom]
    refine .login rfl ?_ ⟨rfl, rfl⟩ rfl rfl job.record (Core.found_record found) login
    exact Core.schedulers_setSession_same (core.send _ _) owner rfl
  -- a logout queues a job that stops the session
  | @loggedOut ptr job session request effect found owner kind completed =>
    obtain ⟨record, stored, records, advanced, unasked, posts⟩ := advanced_of_completed completed
    have extended := heap_get_append (Core.found_record found) [.make job.session (.stop false)]
    have view : Core.records { core.send job.session (.resLogout { uid := session.uid }) with
        jobs := core.jobs ++ [{ session := job.session, kind := .stop false }] } =
          core.records ++ [.make job.session (.stop false)] := by
      simp [Core.records, Job.record, Record.make]
    rw [view] at stored records
    cases extended.symm.trans stored
    refine .logout job.record (Core.found_record found) records ?_ ⟨unasked.requests, unasked.ids⟩ ?_
    · cases advanced with
      | same schedulers next => exact .same schedulers next
      | popped scheduler owner schedulers next => exact .popped scheduler owner schedulers next
    · simp [Core.records, Job.record]
  | @stopped ptr job session forceClose effect found owner kind completed =>
    obtain ⟨record, stored, records, advanced, unasked, posts⟩ := advanced_of_completed completed
    refine .complete ptr record (.inl rfl) stored records ?_ ⟨unasked.requests, unasked.ids⟩ ?_
    · cases advanced with
      | same schedulers next => exact .same schedulers next
      | popped scheduler owner schedulers next => exact .popped scheduler owner schedulers next
    · cases forceClose <;> simp [Task.inert]
  | forwarded found owner kind completed | clientForwarded found owner kind completed =>
    exact touch_complete completed (.inl rfl) rfl rfl ⟨rfl, rfl⟩
  | leaveNotified found owner kind completed =>
    refine touch_complete completed (.inl rfl) rfl ?_ ⟨rfl, rfl⟩
    exact Core.schedulers_setSession_same (core.send _ _) owner rfl
  | @requested ptr job session message found owner request =>
    obtain ⟨room, asks, -⟩ := request_room request
    exact .request job.record message (Core.found_record found) room (Core.records_setJob ..) rfl rfl rfl asks rfl rfl
  | sessionAdded found owner completed => exact touch_complete completed (.inr rfl) rfl rfl ⟨rfl, rfl⟩
  | requestAdded => exact .add
  | channelSent => exact .send
  | answeredLate | cancelIgnored | closedAgain => exact .steady rfl rfl ⟨rfl, rfl⟩ (by simp [items]) (by simp)
  | answered found unfinished answer owner finished =>
    refine touch_finish finished (.inl ⟨_, rfl⟩) rfl ?_ ⟨rfl, rfl⟩
    exact Core.schedulers_setSession_same core owner rfl
  | @cancelled ptr job reason found room unfinished =>
    exact .cancel job.record (Core.found_record found) room unfinished rfl rfl rfl rfl rfl rfl
  | shutdownFinished found finished | timeoutFinished found timeout finished =>
    exact touch_finish finished (.inr ⟨_, rfl⟩) rfl rfl ⟨rfl, rfl⟩
  | @shutDown ptr session owner =>
    exact .shutdown session.scheduler (Core.found_scheduler owner) rfl (Core.schedulers_setSession ..) ⟨rfl, rfl⟩ rfl rfl
  | responded carries => exact touch_respond carries
  | @clientPassed message | @leavePassed message =>
    refine .steady rfl rfl ⟨rfl, rfl⟩ ?_ (by simp)
    cases found : core.manager.findSession message.uid <;> simp [items, passToSession, found, Task.inert]
  | responsePosted found => exact .postResponse _ (Core.found_record found)
  | timeoutPosted found => exact .postTimeout _ (Core.found_record found)
  | notified | unknownReceived => exact touch_enqueue _ _
  | @sessionReceived session message =>
    cases message with
    | ping | pong => exact .steady rfl rfl ⟨rfl, rfl⟩ (by simp [items, onSessionRecv]) (by simp)
    | reqLogin | reqLogout | reqCreateRoom | reqJoinRoom | fwdRoom | reqLeaveRoom => exact touch_enqueue _ _
  | closed owner isOpen =>
    exact .steady rfl (Core.schedulers_setSession_same core owner rfl) ⟨rfl, rfl⟩ (by simp [items, Task.inert])
      (by simp)
  | @removed ptr =>
    refine .steady rfl rfl ⟨rfl, rfl⟩ ?_ (by simp)
    simp [items, onConnClosed, Task.inert]
  | disconnected => exact .disconnect

end Touch

/-- What a step does to jobs, schedulers and requests: something arrives from outside, the
timer expires requests, or a thread executes an item. -/
inductive Moved (state : State) (label : Label) : State → Prop where
  | arrived {after : State} (more : Pool Thread Task) (records : after.core.records = state.core.records)
      (schedulers : after.core.schedulers = state.core.schedulers ∨
        after.core.schedulers = state.core.schedulers ++ [({} : JobScheduler JobPtr)])
      (unasked : Unasked state.core after.core) (outgoing : after.core.outgoing = state.core.outgoing)
      (pool : after.pool = state.pool ++ more) (inert : ∀ entry ∈ more, entry.2.inert)
      (quiet : ∀ move : Transition State Label, move.label = label → executed move = none)
      (jobs : after.core.jobs = state.core.jobs) : Moved state label after
  | expired (now : Nat) (quiet : ∀ move : Transition State Label, move.label = label → executed move = none) :
      Moved state label (expire now state)
  | ran {thread : Thread} {now : Nat} {task : Task} {before later : Pool Thread Task} {effect : Effect}
      (isRun : label = .run thread now) (split : state.pool = before ++ (thread, task) :: later)
      (quiet : Pool.idle before thread) (executed : Executed now state.core task effect) :
      Moved state label ⟨effect.core, effect.next.map (Prod.mk thread) ++ (before ++ later) ++ effect.posts⟩

theorem moved_of_step {state after : State} {label : Label} (moved : step state label = some after) :
    Moved state label after := by
  cases stepped_of_step moved with
  | accepted =>
    refine .arrived [] rfl (.inr (by simp [Core.schedulers])) ⟨rfl, rfl⟩ rfl (by simp) (by simp) ?_ rfl
    rintro move same
    simp [executed, same]
  | @received conn call known quiet =>
    refine .arrived _ rfl (.inl rfl) ⟨rfl, rfl⟩ rfl rfl ?_ ?_ rfl
    · cases call <;> simp [Invocation.task, Task.inert]
    · rintro move same
      simp [executed, same]
  | delivered | closing =>
    refine .arrived _ rfl (.inl rfl) ⟨rfl, rfl⟩ rfl rfl (by simp [Task.inert]) ?_ rfl
    rintro move same
    simp [executed, same]
  | ran split quiet done => exact .ran rfl split quiet done
  | @expired now quiet =>
    refine .expired now ?_
    rintro move same
    simp [executed, same]

end Rsp.UserServer
