import Rsp.UserServer.Pace
import Rsp.UserServer.Passing
import Rsp.UserServer.Rooms

/-! What Room sends for a session and what its client is written.

The dealer thread takes up one message of Room at a time. A response goes to the strand of
the session that waits for it and is answered there at once. A notification becomes a job of
the session of its uid and is written when that job runs. The two ways keep one order as long
as the job of a notification is pushed while the scheduler of the session is idle; then what
is written and what is still on its way are the frames of the messages taken up.
-/

set_option autoImplicit false

namespace Rsp.UserServer

open Message Rsp.Job Foundation

def isRelay : ToClient → Bool
  | .resCreateRoom _ | .resJoinRoom _ | .resLeaveRoom _ | .fwdClient _ | .ntfLeaveRoom _ => true
  | _ => false

namespace Core

def relayed (self : Core) (session : SessionPtr) : List ToClient := (self.written session).filter isRelay

def answerOf (self : Core) (session : SessionPtr) (ptr : JobPtr) (response : ToUser) : Option ToClient :=
  (self.records[ptr]?).bind fun record => if record.session = session then record.kind.answer response else none

def frameOf (self : Core) (session : SessionPtr) : Task → Option ToClient
  | .pushAndRun ptr | .run ptr => self.noticeOf session ptr
  | .postResponse ptr response | .handleRes ptr response => self.answerOf session ptr response
  | .notify target kind => noticeFor session (.make target kind)
  | _ => none

/-- The frame of the session that corresponds to a message of Room: the notification if the uid
is registered for the session, the reply if a job of it waits for the response and is in time. -/
def corresponding (self : Core) (session : SessionPtr) (now : Nat) : ToUser → Option ToClient
  | .pong => none
  | .fwdClient message => if self.manager.findSession message.uid = some session then some (fwdClient message) else none
  | .ntfLeaveRoom message =>
      if self.manager.findSession message.uid = some session then some (.ntfLeaveRoom { reason := message.reason })
      else none
  | response => (response.requestId.bind self.requests.find).bind fun pending =>
      if pending.deadline ≤ now then none else self.answerOf session pending.target response

/-- An item does not push the job of a notification behind another job of the session. -/
def unhurried (self : Core) (session : SessionPtr) : Task → Bool
  | .pushAndRun ptr => self.noticeOf session ptr = none || self.queueOf session = []
  | _ => true

def timely (self : Core) (session : SessionPtr) : Task → Bool
  | .finishCancel ptr .kTimeout => (self.records[ptr]?).all fun record => record.session ≠ session
  | _ => true

end Core

def Task.receiving : Task → Option ToUser
  | .onRecv message => some message
  | _ => none

def takes (session : SessionPtr) (move : Transition State Label) : Option (ToUser × Option ToClient) :=
  (executed move).bind fun ran => ran.2.receiving.map fun message =>
    (message, move.before.core.corresponding session ran.1 message)

def taken (session : SessionPtr) (history : History) : List (ToUser × Option ToClient) :=
  history.filterMap (takes session)

/-- The frames of the session that are still on their way, from the strand back to the dealer thread. -/
def inFlight (session : SessionPtr) (state : State) : List ToClient :=
  (state.pool.queue (.strand session)).filterMap (state.core.frameOf session) ++
    (state.pool.queue .dealer).filterMap (state.core.frameOf session)

def Label.forged : Label → Bool
  | .receive _ (.room _) => true
  | _ => false

/-- The session stays connected, no request of it times out, and no client sends a frame of Room's. -/
structure Undisturbed (session : SessionPtr) (move : Transition State Label) : Prop where
  connected : Connected session move
  timely : (executed move).all (fun ran => move.before.core.timely session ran.2) = true
  genuine : move.label.forged = false

/-- The job of a notification is pushed while the session's scheduler has none. -/
def Unhurried (session : SessionPtr) (move : Transition State Label) : Prop :=
  (executed move).all (fun ran => move.before.core.unhurried session ran.2) = true

instance (session : SessionPtr) (move : Transition State Label) : Decidable (Undisturbed session move) :=
  decidable_of_iff ((executed move).all (fun ran => ran.2 ≠ .shutdown session) = true ∧
      (executed move).all (fun ran => move.before.core.timely session ran.2) = true ∧ move.label.forged = false)
    ⟨fun ⟨connected, timely, genuine⟩ => ⟨connected, timely, genuine⟩,
      fun undisturbed => ⟨undisturbed.connected, undisturbed.timely, undisturbed.genuine⟩⟩

instance (session : SessionPtr) (move : Transition State Label) : Decidable (Unhurried session move) :=
  inferInstanceAs (Decidable (_ = true))

def Task.dealt : Task → Bool
  | .onRecv _ | .postResponse .. | .notify .. => true
  | _ => false

/-- What a run has taken up and written, and where the rest waits. -/
structure Relaying (session : SessionPtr) (history : History) (state : State) : Prop where
  frames : state.core.relayed session ++ inFlight session state = (taken session history).filterMap Prod.snd
  messages : (taken session history).map Prod.fst ++ (state.pool.queue .dealer).filterMap Task.receiving =
    delivered history
  dealer : ∀ entry ∈ state.pool, entry.2.dealt = true → entry.1 = .dealer
  single : ∀ message, .onRecv message ∈ state.pool.queue .dealer → state.pool.queue .dealer = [.onRecv message]
  behind : ∀ ptr ∈ (state.core.queueOf session).tail, state.core.noticeOf session ptr = none

/-! ## What an item writes -/

section Written

variable {now : Nat} {core after : Core} {task : Task} {effect : Effect} {session target : SessionPtr}
  {frame : ToClient}

def Core.relays (self : Core) (session : SessionPtr) : Task → Option ToClient
  | .run ptr => self.noticeOf session ptr
  | .handleRes ptr response => if self.finished ptr then none else self.answerOf session ptr response
  | _ => none

theorem relayed_same (sent : after.sent = core.sent) : after.relayed session = core.relayed session := by
  rw [Core.relayed, Core.relayed, Core.written, Core.written, sent]

theorem relayed_more (sent : after.sent = core.sent ++ [(target, frame)]) :
    after.relayed session = core.relayed session ++ if target = session ∧ isRelay frame then [frame] else [] := by
  rw [Core.relayed, Core.relayed, written_more session sent, List.filter_append]
  by_cases here : target = session <;> simp [here, List.filter_singleton]

theorem relayed_other (sent : after.sent = core.sent ++ [(target, frame)])
    (other : ¬ (target = session ∧ isRelay frame = true)) : after.relayed session = core.relayed session := by
  rw [relayed_more sent, if_neg other, List.append_nil]

theorem answer_relays {kind : JobKind} {response : ToUser} (answer : kind.answer response = some frame) :
    isRelay frame = true := by
  cases kind <;> cases response <;> cases answer <;> rfl

theorem relayed_of_executed (executed : Executed now core task effect) (session : SessionPtr)
    (timely : core.timely session task = true) :
    effect.core.relayed session = core.relayed session ++ (core.relays session task).toList := by
  have unnoticed : ∀ {ptr : JobPtr} {job : Job}, core.jobs[ptr]? = some job → job.kind.notice = none →
      effect.core.relayed session = core.relayed session →
      effect.core.relayed session = core.relayed session ++ (core.relays session (.run ptr)).toList := by
    intro ptr job found none same
    rw [same, Core.relays, noticeOf_found session found, none, ite_self, Option.toList_none, List.append_nil]
  have idle : core.relays session task = none → effect.core.relayed session = core.relayed session →
      effect.core.relayed session = core.relayed session ++ (core.relays session task).toList := by
    intro none same
    rw [same, none, Option.toList_none, List.append_nil]
  cases executed with
  | @loggedIn ptr job owned request found owner kind =>
    apply unnoticed found (by rw [kind]; rfl)
    exact relayed_other rfl (by simp [isRelay, resLogin])
  | loggedOut found owner kind completed =>
    apply unnoticed found (by rw [kind]; rfl)
    exact relayed_other (completed_sends completed).2 (by simp [isRelay])
  | stopped found owner kind completed | forwarded found owner kind completed =>
    apply unnoticed found (by rw [kind]; rfl)
    exact relayed_same (completed_sends completed).2
  | @clientForwarded ptr job _ message effect found owner kind completed =>
    rw [relayed_more (completed_sends completed).2, Core.relays, noticeOf_found session found, kind]
    by_cases here : job.session = session <;> simp [here, isRelay, fwdClient, JobKind.notice]
  | @leaveNotified ptr job _ notification effect found owner kind completed =>
    have sent : effect.core.sent = core.sent ++ [(job.session, .ntfLeaveRoom { reason := notification.reason })] :=
      (completed_sends completed).2
    rw [relayed_more sent, Core.relays, noticeOf_found session found, kind]
    by_cases here : job.session = session <;> simp [here, isRelay, JobKind.notice]
  | requested found owner room =>
    apply unnoticed found (request_quiet room)
    exact relayed_same rfl
  | sessionAdded found owner completed =>
    apply idle rfl
    exact relayed_same (completed_sends completed).2
  | answeredLate found finished =>
    apply idle
    · simp [Core.relays, Core.finished, found, finished]
    · exact relayed_same rfl
  | @answered ptr job owned response frame effect found unfinished answer owner finished =>
    have sent : effect.core.sent = core.sent ++ [(job.session, frame)] := (finished_sends finished).2
    rw [relayed_more sent, answer_relays answer]
    have stored : core.records[ptr]? = some job.record := Core.found_record found
    have kind : job.record.kind.answer response = some frame := answer
    have placed : job.record.session = job.session := rfl
    by_cases here : job.session = session <;>
      simp [Core.relays, Core.finished, Core.answerOf, found, unfinished, stored, kind, placed, here]
  | shutdownFinished found finished =>
    apply idle rfl
    exact relayed_same (finished_sends finished).2
  | @timeoutFinished ptr job frame effect found timeout finished =>
    apply idle rfl
    -- no request of this session runs out of time
    have elsewhere : job.session ≠ session := by
      have stored : core.records[ptr]? = some job.record := Core.found_record found
      simpa [Core.timely, stored, Job.record] using timely
    exact relayed_other (finished_sends finished).2 (fun here => elsewhere here.1)
  | @sessionReceived owner message =>
    apply idle rfl
    cases message with
    | ping => exact relayed_other rfl (by simp [isRelay])
    | _ => exact relayed_same rfl
  | pushed | requestAdded | channelSent | cancelIgnored | cancelled | shutDown | responded | clientPassed | leavePassed
  | responsePosted | timeoutPosted | notified | unknownReceived | closedAgain | closed | removed | disconnected =>
    apply idle rfl
    exact relayed_same rfl

end Written

/-! ## What an item leaves -/

section Left

variable {now : Nat} {core : Core} {task : Task} {effect : Effect} {session : SessionPtr} {state : State}

theorem completed_left {core' : Core} {ptr : JobPtr} (completed : Completed core' ptr effect) :
    (∀ item ∈ effect.next, item.dealt = false) ∧ effect.posts = [] := by
  cases completed with
  | again => exact ⟨by simp, rfl⟩
  | @first job owned found fresh owner =>
    refine ⟨?_, rfl⟩
    intro item mem
    obtain ⟨next, -, rfl⟩ := List.mem_map.mp mem
    rfl

theorem finished_left {core' : Core} {ptr : JobPtr} (finished : Finished core' ptr effect) :
    (∀ item ∈ effect.next, item.dealt = false) ∧ effect.posts = [] := by
  cases finished with
  | again | unheld => exact ⟨by simp, rfl⟩
  | called found unfinished held completed => exact completed_left completed

/-- Only a message that is taken up leaves something for the dealer thread, and nothing is posted to it. -/
theorem dealt_of_executed (executed : Executed now core task effect) :
    (task.receiving = none → ∀ item ∈ effect.next, item.dealt = false) ∧
      (∀ item ∈ effect.next, item.receiving = none) ∧
      ∀ entry ∈ effect.posts, entry.1 ≠ .dealer ∧ entry.2.dealt = false := by
  have plain : (∀ item ∈ effect.next, item.dealt = false) →
      (∀ entry ∈ effect.posts, entry.1 ≠ .dealer ∧ entry.2.dealt = false) →
      (task.receiving = none → ∀ item ∈ effect.next, item.dealt = false) ∧
        (∀ item ∈ effect.next, item.receiving = none) ∧
        ∀ entry ∈ effect.posts, entry.1 ≠ .dealer ∧ entry.2.dealt = false := by
    intro next posts
    refine ⟨fun _ => next, fun item mem => ?_, posts⟩
    have undealt := next item mem
    cases item <;> first | rfl | cases undealt
  cases executed with
  | @pushed ptr job owned found owner =>
    apply plain
    · cases (owned.scheduler.pushAndRun ptr).2 <;> simp [afterPush, Task.dealt]
    · simp
  | loggedOut found owner kind completed => exact plain (completed_left completed).1 (by simp [Task.dealt])
  | @stopped ptr job owned forceClose effect found owner kind completed =>
    apply plain (completed_left completed).1
    cases forceClose <;> simp [Task.dealt]
  | forwarded found owner kind completed | clientForwarded found owner kind completed
  | leaveNotified found owner kind completed | sessionAdded found owner completed =>
    exact plain (completed_left completed).1 (by simp [(completed_left completed).2])
  | answered found unfinished answer owner finished | shutdownFinished found finished
  | timeoutFinished found timeout finished =>
    exact plain (finished_left finished).1 (by simp [(finished_left finished).2])
  | cancelled found room unfinished =>
    apply plain
    · split <;> simp [sendCancel, Task.dealt]
    · simp
  | shutDown owner =>
    apply plain
    · intro item mem
      obtain ⟨job, -, rfl⟩ := List.mem_map.mp mem
      rfl
    · simp
  | @responded message id carries =>
    refine ⟨by simp [Task.receiving], ?_, by simp [sendToWaiter]⟩
    simp only [sendToWaiter]
    cases (core.requests.complete id now).2 with
    | none => simp
    | some resolution => cases resolution <;> simp [onTimeout, sendCancel, Task.receiving]
  | @clientPassed message | @leavePassed message =>
    refine ⟨by simp [Task.receiving], ?_, by simp [passToSession]⟩
    simp only [passToSession]
    cases core.manager.findSession message.uid <;> simp [Task.receiving]
  | @sessionReceived target message =>
    cases message <;> exact plain (by simp [onSessionRecv, Core.enqueueJob])
      (by simp [onSessionRecv, Core.enqueueJob, Task.dealt])
  | removed =>
    apply plain
    · simp only [onConnClosed]
      cases (core.manager.removeSession _ _).2 <;> simp [Task.dealt]
    · simp [onConnClosed]
  | notified | unknownReceived => exact plain (by simp [Core.enqueueJob]) (by simp [Core.enqueueJob, Task.dealt])
  | loggedIn | requested | requestAdded | channelSent | answeredLate | cancelIgnored | responsePosted | timeoutPosted
  | closedAgain | closed | disconnected => exact plain (by simp [addRequest, Task.dealt]) (by simp [addRequest, Task.dealt])

theorem inert_frameless {item : Task} (inert : item.inert = true) (undealt : item.dealt = false) (core : Core) :
    core.frameOf session item = none := by
  cases item <;> first | rfl | cases inert; done | cases undealt

theorem answerOf_kept (touch : Touch now core task effect) {ptr : JobPtr} {record : Record}
    (found : core.records[ptr]? = some record) (session : SessionPtr) (response : ToUser) :
    effect.core.answerOf session ptr response = core.answerOf session ptr response := by
  obtain ⟨after, stored, owner, kind⟩ := touch_keeps_job touch found
  simp only [Core.answerOf, stored, found, Option.bind_some, owner, kind]

theorem frameOf_kept (orderly : Orderly state) (linked : Linked state) (touch : Touch now state.core task effect)
    {item : Task} (waits : Waiting state item) (session : SessionPtr) :
    effect.core.frameOf session item = state.core.frameOf session item := by
  have owned : ∀ ptr, item.owner = some ptr → ∃ record, state.core.records[ptr]? = some record := by
    intro ptr owner
    obtain ⟨thread, mem⟩ := waits
    obtain ⟨record, found, -⟩ := orderly.located _ mem ptr owner
    exact ⟨record, found⟩
  have names := linked.items item waits
  cases item with
  | pushAndRun ptr | run ptr =>
    obtain ⟨record, found⟩ := owned ptr rfl
    exact noticeOf_kept touch found session
  | handleRes ptr response =>
    obtain ⟨record, found⟩ := owned ptr rfl
    exact answerOf_kept touch found session response
  | postResponse ptr response =>
    obtain ⟨id, -, record, found, -⟩ := names
    exact answerOf_kept touch found session response
  | _ => rfl

theorem advanced_frameless (orderly : Orderly state) (touch : Touch now state.core task effect) {target : SessionPtr}
    (advanced : Advanced state.core target effect)
    (behind : ∀ ptr ∈ (state.core.queueOf session).tail, state.core.noticeOf session ptr = none) :
    ∀ item ∈ effect.next, effect.core.frameOf session item = none := by
  intro item mem
  obtain ⟨job, record, rfl, found, placed⟩ := advanced_placed orderly advanced mem
  rw [Core.frameOf, noticeOf_kept touch found session]
  by_cases here : record.session = session
  · apply behind
    cases advanced with
    | same schedulers next => simp [next] at mem
    | popped scheduler owner schedulers next =>
      rw [next, JobScheduler.completeCurrent_next] at mem
      obtain ⟨next, first, same⟩ := List.mem_map.mp mem
      cases same
      rw [← here, placed, queueOf_found owner]
      exact List.mem_of_mem_head? (Option.mem_toList.mp first)
  · simp [Core.noticeOf, found, Core.noticeFor, here]

def Core.continues (self : Core) (session : SessionPtr) (now : Nat) : Task → Option ToClient
  | .pushAndRun ptr => self.noticeOf session ptr
  | .onRecv message => self.corresponding session now message
  | _ => none

theorem corresponding_response {message : ToUser} {id : Nat} (carries : message.requestId = some id) :
    core.corresponding session now message = (core.requests.find id).bind fun pending =>
      if pending.deadline ≤ now then none else core.answerOf session pending.target message := by
  cases message <;> cases carries <;> rfl

/-- The frame that corresponds to a message goes on in the item that passes the message on. -/
theorem next_frames_received {message : ToUser} (executed : Executed now core (.onRecv message) effect)
    (session : SessionPtr) :
    effect.next.filterMap (effect.core.frameOf session) = (core.corresponding session now message).toList := by
  have passes : ∀ (uid : Uid) (kind : JobKind),
      (passToSession uid kind core).next.filterMap ((passToSession uid kind core).core.frameOf session) =
        (if core.manager.findSession uid = some session then kind.notice else none).toList := by
    intro uid kind
    simp only [passToSession]
    cases core.manager.findSession uid with
    | none => simp
    | some target =>
      by_cases here : target = session
      · cases notice : kind.notice <;> simp [Core.frameOf, Core.noticeFor, Record.make, here, notice]
      · simp [Core.frameOf, Core.noticeFor, Record.make, here]
  cases executed with
  | @responded _ id carries =>
    rw [corresponding_response carries]
    simp only [sendToWaiter, PendingRequests.complete_snd]
    cases core.requests.find id with
    | none => rfl
    | some pending =>
      have same : ({ core with requests := (core.requests.complete id now).1 } : Core).answerOf session
          pending.target message = core.answerOf session pending.target message := rfl
      by_cases late : pending.deadline ≤ now
      · simp [late, onTimeout, sendCancel, Core.frameOf]
      · cases answer : core.answerOf session pending.target message <;> simp [late, Core.frameOf, same, answer]
  | clientPassed | leavePassed => exact passes _ _

theorem next_frames_pushed {ptr : JobPtr} (orderly : Orderly state) (paced : Paced session state)
    (touch : Touch now state.core (.pushAndRun ptr) effect)
    {record : Record} {scheduler : JobScheduler JobPtr} (found : state.core.records[ptr]? = some record)
    (owner : state.core.schedulers[record.session]? = some scheduler)
    (next : effect.next = afterPush (scheduler.pushAndRun ptr).2)
    (unhurried : state.core.unhurried session (.pushAndRun ptr) = true) :
    effect.next.filterMap (effect.core.frameOf session) = (state.core.noticeOf session ptr).toList := by
  have kept := noticeOf_kept touch found session
  have busy := orderly.busy scheduler (List.mem_of_getElem? owner)
  cases notice : state.core.noticeOf session ptr with
  | none =>
    rw [next, List.filterMap_eq_nil_iff.mpr]
    · rfl
    · intro item mem
      rcases JobScheduler.pushAndRun_cases busy ptr with ⟨-, same⟩ | ⟨-, same⟩ | ⟨-, same⟩ <;>
        rw [same] at mem <;> simp only [afterPush, List.mem_singleton, List.not_mem_nil] at mem
      · rw [mem]
        rfl
      · rw [mem, Core.frameOf, kept, notice]
  | some frame =>
    have here : record.session = session := by
      by_contra other
      simp [Core.noticeOf, found, Core.noticeFor, other] at notice
    rw [here] at owner
    have empty : scheduler.q = [] := by
      rw [← queueOf_found owner]
      simpa [Core.unhurried, notice] using unhurried
    rcases JobScheduler.pushAndRun_cases busy ptr with ⟨stopped, -⟩ | ⟨-, same⟩ | ⟨more, -⟩
    · simp [paced.running scheduler owner] at stopped
    · rw [next, same]
      simp [afterPush, Core.frameOf, kept, notice]
    · exact absurd empty more

theorem next_frames (orderly : Orderly state) (paced : Paced session state)
    (behind : ∀ ptr ∈ (state.core.queueOf session).tail, state.core.noticeOf session ptr = none)
    (executed : Executed now state.core task effect) (unhurried : state.core.unhurried session task = true) :
    effect.next.filterMap (effect.core.frameOf session) = (state.core.continues session now task).toList := by
  have touch := touch_of_executed executed
  by_cases receives : ∃ message, task = .onRecv message
  · obtain ⟨message, rfl⟩ := receives
    exact next_frames_received executed session
  by_cases pushes : ∃ ptr, task = .pushAndRun ptr
  · obtain ⟨ptr, rfl⟩ := pushes
    cases executed with
    | pushed found owner =>
      exact next_frames_pushed orderly paced touch (Core.found_record found) (Core.found_scheduler owner) rfl unhurried
  -- No other item goes on with a frame.
  have none : state.core.continues session now task = none := by
    cases task <;> first | rfl | exact absurd ⟨_, rfl⟩ receives | exact absurd ⟨_, rfl⟩ pushes
  rw [none, Option.toList_none]
  apply List.filterMap_eq_nil_iff.mpr
  cases touch with
  | steady records schedulers unasked inert sends =>
    intro item mem
    apply inert_frameless (inert item (List.mem_append_left _ mem))
    apply (dealt_of_executed executed).1 _ item mem
    cases task <;> first | rfl | exact absurd ⟨_, rfl⟩ receives
  | complete ptr record caller found records advanced | logout record found records advanced
  | finish ptr record caller found unfinished records advanced =>
    exact advanced_frameless orderly (touch_of_executed executed) advanced behind
  | cancel record found room unfinished records schedulers requests ids next posts =>
    rw [next]
    split <;> simp [sendCancel, Core.frameOf]
  | shutdown scheduler owner records schedulers unasked next posts =>
    intro item mem
    rw [next] at mem
    obtain ⟨job, -, rfl⟩ := List.mem_map.mp mem
    rfl
  | enqueue target kind records schedulers unasked next posts => simp [next]
  | login records schedulers unasked next
  | request record message found room records schedulers requests ids asks next => simp [next, Core.frameOf]
  | push => exact absurd ⟨_, rfl⟩ pushes
  | respond => exact absurd ⟨_, rfl⟩ receives
  | add => simp [addRequest]
  | send | postResponse | postTimeout | disconnect => simp

def Core.posts (self : Core) (session : SessionPtr) : Task → Option ToClient
  | .postResponse ptr response => self.answerOf session ptr response
  | .notify target kind => noticeFor session (.make target kind)
  | _ => none

theorem posted_made {target : SessionPtr} {kind : JobKind}
    (records : effect.core.records = core.records ++ [.make target kind])
    (posts : effect.posts = [(.strand target, .pushAndRun core.records.length)]) (session : SessionPtr) :
    (postedTo effect session).filterMap (effect.core.frameOf session) =
      (Core.noticeFor session (.make target kind)).toList := by
  have known : effect.core.noticeOf session core.records.length = Core.noticeFor session (.make target kind) := by
    simp [Core.noticeOf, records]
  by_cases here : target = session
  · have waits : postedTo effect session = [.pushAndRun core.records.length] := by
      simp [postedTo, posts, Pool.queue_cons, here]
    rw [waits]
    cases notice : Core.noticeFor session (.make target kind) <;> simp [Core.frameOf, known, notice]
  · simp [postedTo, posts, Pool.queue_cons, here, Core.noticeFor, Record.make]

/-- A response and the job of a notification are posted to the strand of their session. -/
theorem posted_frames (executed : Executed now core task effect) (session : SessionPtr) :
    (postedTo effect session).filterMap (effect.core.frameOf session) = (core.posts session task).toList := by
  by_cases answers : ∃ ptr response, task = .postResponse ptr response
  · obtain ⟨ptr, response, rfl⟩ := answers
    cases executed with
    | @responsePosted _ job _ found =>
      have stored : core.records[ptr]? = some job.record := Core.found_record found
      by_cases here : job.session = session
      · cases answer : core.answerOf session ptr response <;>
          simp [postedTo, Pool.queue_cons, here, Core.frameOf, Core.posts, answer]
      · simp [postedTo, Pool.queue_cons, here, Core.posts, Core.answerOf, stored, Job.record]
  by_cases notifies : ∃ target kind, task = .notify target kind
  · obtain ⟨target, kind, rfl⟩ := notifies
    cases executed with
    | notified =>
      have records : (core.enqueueJob target kind).core.records = core.records ++ [.make target kind] := by
        simp [Core.enqueueJob, Core.records, Job.record, Record.make]
      exact posted_made records (by simp [Core.enqueueJob, Core.records]) session
  have none : core.posts session task = none := by
    cases task <;> first | rfl | exact absurd ⟨_, _, rfl⟩ answers | exact absurd ⟨_, _, rfl⟩ notifies
  have untold : task.notifying = .none := by
    cases task <;> first | rfl | exact absurd ⟨_, _, rfl⟩ notifies
  have single : ∀ {thread : Thread} {posted : Task}, effect.posts = [(thread, posted)] →
      effect.core.frameOf session posted = .none → ∀ item ∈ postedTo effect session,
      effect.core.frameOf session item = .none := by
    intro thread posted posts plain item mem
    have here := mem_postedTo mem
    rw [posts] at here
    cases List.mem_singleton.mp here
    exact plain
  have undealt : ∀ entry ∈ effect.posts, entry.2.dealt = false :=
    fun entry mem => ((dealt_of_executed executed).2.2 entry mem).2
  have nothing : effect.posts = [] → ∀ item ∈ postedTo effect session, effect.core.frameOf session item = .none := by
    intro posts item mem
    have here := mem_postedTo mem
    rw [posts] at here
    cases here
  -- No other item makes the job of a notification.
  have quiet : ∀ {target kind}, effect.core.records = core.records ++ [.make target kind] →
      Core.noticeFor session (.make target kind) = .none := by
    intro target kind records
    have made := notices_of_executed executed session
    rw [untold, Core.notices, Core.notices, records, List.filterMap_append, Option.bind_none, Option.toList_none] at made
    have last := List.append_cancel_left made
    by_contra some
    obtain ⟨frame, notice⟩ := Option.ne_none_iff_exists'.mp some
    simp [notice] at last
  rw [none, Option.toList_none]
  cases touch_of_executed executed with
  | enqueue target kind records schedulers unasked next posts | logout record found records advanced unasked posts =>
    rw [posted_made records posts, quiet records]
    rfl
  | steady records schedulers unasked inert sends =>
    apply List.filterMap_eq_nil_iff.mpr
    intro item mem
    have posted := mem_postedTo mem
    exact inert_frameless (inert item (List.mem_append_right _ (List.mem_map_of_mem posted))) (undealt _ posted) effect.core
  | complete ptr record caller found records advanced unasked inert =>
    apply List.filterMap_eq_nil_iff.mpr
    intro item mem
    have posted := mem_postedTo mem
    exact inert_frameless (inert _ posted) (undealt _ posted) effect.core
  | postResponse => exact absurd ⟨_, _, rfl⟩ answers
  | postTimeout | disconnect => exact List.filterMap_eq_nil_iff.mpr (single rfl rfl)
  | send | add => exact List.filterMap_eq_nil_iff.mpr (nothing rfl)
  | _ => exact List.filterMap_eq_nil_iff.mpr (nothing ‹_›)

end Left

/-! ## Every step -/

section Step

variable {now : Nat} {state : State} {thread : Thread} {task : Task} {before later : Pool Thread Task}
  {effect : Effect} {session : SessionPtr} {history : History}

theorem relays_answer (tracked : Tracked state) (paced : Paced session state) {ptr : JobPtr} {response : ToUser}
    (waits : Waiting state (.handleRes ptr response)) :
    state.core.relays session (.handleRes ptr response) = state.core.answerOf session ptr response := by
  obtain ⟨thread, mem⟩ := waits
  obtain ⟨record, found, -⟩ := tracked.orderly.located _ mem ptr rfl
  rw [Core.relays, finished_record found]
  by_cases here : record.session = session
  · have unfinished : record.finished ≠ true := by
      intro ended
      obtain ⟨front, rest, place⟩ := List.append_of_mem mem
      have load : 0 < (life state ptr record).load .responding := load_pos place rfl
      have tokens := (paced.drained ptr record found here ended).tokens
      omega
    rw [if_neg unfinished]
  · simp [Core.answerOf, found, here]

theorem relays_here (tracked : Tracked state) (paced : Paced session state) (waits : Waiting state task)
    (undealt : task.dealt = false) (now : Nat) :
    (state.core.relays session task).toList ++ (state.core.continues session now task).toList =
      (state.core.frameOf session task).toList := by
  cases task with
  | handleRes ptr response =>
    rw [relays_answer tracked paced waits]
    exact List.append_nil _
  | run ptr => exact List.append_nil _
  | onRecv | postResponse | notify => cases undealt
  | _ => rfl

theorem relays_elsewhere (orderly : Orderly state) (waits : (thread, task) ∈ state.pool)
    (elsewhere : thread ≠ .strand session) : state.core.relays session task = none := by
  have other : ∀ ptr, task.owner = some ptr →
      ∃ record, state.core.records[ptr]? = some record ∧ record.session ≠ session := by
    intro ptr owner
    obtain ⟨record, found, placed⟩ := orderly.located _ waits ptr owner
    refine ⟨record, found, ?_⟩
    rintro rfl
    exact elsewhere placed
  cases task with
  | run ptr =>
    obtain ⟨record, found, foreign⟩ := other ptr rfl
    simp [Core.relays, Core.noticeOf, found, Core.noticeFor, foreign]
  | handleRes ptr response =>
    obtain ⟨record, found, foreign⟩ := other ptr rfl
    simp [Core.relays, Core.answerOf, found, foreign]
  | _ => rfl

theorem behind_ran (orderly : Orderly state) (touch : Touch now state.core task effect)
    (unhurried : state.core.unhurried session task = true)
    (behind : ∀ ptr ∈ (state.core.queueOf session).tail, state.core.noticeOf session ptr = none) :
    ∀ ptr ∈ (effect.core.queueOf session).tail, effect.core.noticeOf session ptr = none := by
  -- It is enough to look at the jobs that were queued before and at one just pushed.
  have known : ∀ ptr ∈ (effect.core.queueOf session).tail, ∃ record, state.core.records[ptr]? = some record := by
    intro ptr mem
    cases owner : effect.core.schedulers[session]? with
    | none => simp [Core.queueOf, owner] at mem
    | some scheduler =>
      obtain ⟨earlier, stored, evolves⟩ := touch_queued touch orderly.busy owner
      rw [queueOf_found owner] at mem
      rcases evolves.grows ptr (List.mem_of_mem_tail mem) with queued | ⟨-, record, found, -⟩
      · obtain ⟨record, found, -⟩ := orderly.queued session earlier stored ptr queued
        exact ⟨record, found⟩
      · exact ⟨record, found⟩
  have enough : (∀ ptr ∈ (effect.core.queueOf session).tail, state.core.noticeOf session ptr = none) →
      ∀ ptr ∈ (effect.core.queueOf session).tail, effect.core.noticeOf session ptr = none := by
    intro silent ptr mem
    obtain ⟨record, found⟩ := known ptr mem
    rw [noticeOf_kept touch found session]
    exact silent ptr mem
  have same : effect.core.schedulers = state.core.schedulers →
      ∀ ptr ∈ (effect.core.queueOf session).tail, effect.core.noticeOf session ptr = none := by
    intro schedulers
    apply enough
    rw [queueOf_same schedulers]
    exact behind
  have advance : ∀ {target}, Advanced state.core target effect →
      ∀ ptr ∈ (effect.core.queueOf session).tail, effect.core.noticeOf session ptr = none := by
    intro target advanced
    cases advanced with
    | same schedulers next => exact same schedulers
    | popped scheduler owner schedulers next =>
      apply enough
      intro ptr mem
      rw [queueOf_set session owner schedulers] at mem
      split at mem
      · next here =>
        subst here
        rw [JobScheduler.completeCurrent_q] at mem
        apply behind
        rw [queueOf_found owner]
        exact List.mem_of_mem_tail mem
      · exact behind ptr mem
  cases touch with
  | @push job _ record scheduler found owner records schedulers unasked next posts =>
    apply enough
    intro ptr mem
    rw [queueOf_set session owner schedulers] at mem
    split at mem
    · next here =>
      subst here
      rw [queueOf_found owner] at behind
      have busy := orderly.busy scheduler (List.mem_of_getElem? owner)
      rcases JobScheduler.pushAndRun_cases busy job with ⟨-, same⟩ | ⟨-, same⟩ | ⟨more, same⟩ <;> rw [same] at mem
      · exact behind ptr mem
      · cases mem
      · rw [List.tail_append_of_ne_nil more] at mem
        rcases List.mem_append.mp mem with mem | mem
        · exact behind ptr mem
        · obtain rfl := List.mem_singleton.mp mem
          simpa [Core.unhurried, queueOf_found owner, more] using unhurried
    · exact behind ptr mem
  | @shutdown target _ scheduler owner records schedulers unasked next posts =>
    apply enough
    intro ptr mem
    rw [queueOf_set session owner schedulers] at mem
    split at mem
    · next here =>
      subst here
      rcases scheduler.shutdown_cases with same | same <;> rw [same] at mem
      · exact behind ptr (by rw [queueOf_found owner]; exact mem)
      · cases mem
    · exact behind ptr mem
  | complete | logout | finish => exact advance ‹_›
  | send | add | postResponse | postTimeout | disconnect => exact same rfl
  | _ => exact same ‹_›

theorem dealt_of_receiving (receives : task.receiving ≠ none) : task.dealt = true := by
  cases task <;> simp [Task.receiving] at receives
  rfl

theorem queue_apart (split : state.pool = before ++ (thread, task) :: later) {owner : Thread}
    (other : thread ≠ owner) : Pool.queue (ranState thread before later effect).pool owner =
      state.pool.queue owner ++ Pool.queue effect.posts owner := by
  rw [Pool.queue_ran_other task other, ← split]

theorem queue_front (split : state.pool = before ++ (thread, task) :: later) (quiet : Pool.idle before thread) :
    state.pool.queue thread = task :: Pool.queue later thread := by
  rw [split, Pool.queue_split quiet]

theorem dealer_unposted (executed : Executed now state.core task effect) : Pool.queue effect.posts .dealer = [] :=
  Pool.queue_of_idle fun entry mem => ((dealt_of_executed executed).2.2 entry mem).1

theorem dealer_self (executed : Executed now state.core task effect) (quiet : Pool.idle before .dealer) :
    Pool.queue (ranState .dealer before later effect).pool .dealer = effect.next ++ Pool.queue later .dealer := by
  rw [Pool.queue_ran_self quiet, dealer_unposted executed, List.append_nil]

theorem dealer_other (executed : Executed now state.core task effect)
    (split : state.pool = before ++ (thread, task) :: later) (other : thread ≠ .dealer) :
    Pool.queue (ranState thread before later effect).pool .dealer = state.pool.queue .dealer := by
  rw [queue_apart split other, dealer_unposted executed, List.append_nil]

theorem taken_ran (split : state.pool = before ++ (thread, task) :: later) (quiet : Pool.idle before thread) :
    taken session (history ++ [⟨state, .run thread now, ranState thread before later effect⟩]) =
      taken session history ++
        (task.receiving.map fun message => (message, state.core.corresponding session now message)).toList := by
  rw [taken, filterMap_concat, takes, executed_ran now _ split quiet]
  rfl

section InFlight

variable (relaying : Relaying session history state) (tracked : Tracked state) (paced : Paced session state)
  (split : state.pool = before ++ (thread, task) :: later) (quiet : Pool.idle before thread)
  (executed : Executed now state.core task effect) (unhurried : state.core.unhurried session task = true)

include tracked executed in
/-- The items that wait still lead to the same frames. -/
theorem frames_kept {list : List Task} {owner : Thread} (within : ∀ item ∈ list, (owner, item) ∈ state.pool) :
    list.filterMap (effect.core.frameOf session) = list.filterMap (state.core.frameOf session) := by
  apply List.filterMap_congr
  intro item mem
  exact frameOf_kept tracked.orderly tracked.linked (touch_of_executed executed) ⟨owner, within item mem⟩ session

include tracked executed in
theorem frames_queue (owner : Thread) : (state.pool.queue owner).filterMap (effect.core.frameOf session) =
    (state.pool.queue owner).filterMap (state.core.frameOf session) :=
  frames_kept tracked executed fun _ mem => Pool.mem_queue.mp mem

include tracked executed split quiet in
/-- The frames of the thread that runs the item, before it and behind it. -/
theorem frames_front : (state.pool.queue thread).filterMap (state.core.frameOf session) =
    (state.core.frameOf session task).toList ++
      (Pool.queue later thread).filterMap (effect.core.frameOf session) := by
  have within : ∀ item ∈ Pool.queue later thread, (thread, item) ∈ state.pool :=
    fun item mem => mem_of_rest split (List.mem_append_right _ (Pool.mem_queue.mp mem))
  rw [queue_front split quiet, frames_kept tracked executed within]
  cases frame : state.core.frameOf session task <;> simp [frame]

include relaying tracked paced split quiet executed unhurried

/-- The dealer thread goes on with a message taken up, or hands a frame to the strand. -/
theorem inFlight_dealer (isDealer : thread = .dealer) :
    (state.core.relays session task).toList ++ inFlight session (ranState thread before later effect) =
      inFlight session state ++ (task.receiving.bind (state.core.corresponding session now)).toList := by
  subst isDealer
  have waiting : (.dealer, task) ∈ state.pool := by simp [split]
  have posted : (Pool.queue effect.posts (.strand session)).filterMap (effect.core.frameOf session) =
      (state.core.posts session task).toList := posted_frames executed session
  rw [relays_elsewhere tracked.orderly waiting (by simp), inFlight, inFlight, dealer_self executed quiet,
    queue_apart split (by simp), List.filterMap_append, List.filterMap_append, frames_queue tracked executed, posted,
    next_frames tracked.orderly paced relaying.behind executed unhurried, frames_front tracked split quiet executed]
  cases received : task.receiving with
  | none =>
    have unowned : task.owner = none := by
      by_contra some
      obtain ⟨ptr, owner⟩ := Option.ne_none_iff_exists'.mp some
      obtain ⟨record, -, placed⟩ := tracked.orderly.located _ waiting ptr owner
      cases placed
    have handed : state.core.continues session now task = none ∧
        state.core.posts session task = state.core.frameOf session task := by
      cases task <;> first | exact ⟨rfl, rfl⟩ | cases unowned; done | cases received
    rw [handed.1, handed.2]
    simp
  | some message =>
    obtain rfl : task = .onRecv message := by
      cases task <;> cases received
      rfl
    have alone := relaying.single message (by simp [queue_front split quiet])
    rw [queue_front split quiet] at alone
    rw [(List.cons.inj alone).2]
    cases corresponds : state.core.corresponding session now message <;>
      simp [Core.continues, Core.posts, Core.frameOf, corresponds]

/-- The strand of the session writes the frame of its item or goes on with it. The other threads have
no part in it. -/
theorem inFlight_other (other : thread ≠ .dealer) :
    (state.core.relays session task).toList ++ inFlight session (ranState thread before later effect) =
      inFlight session state ++ (task.receiving.bind (state.core.corresponding session now)).toList := by
  have waiting : (thread, task) ∈ state.pool := by simp [split]
  have plain : task.dealt = false := by
    by_contra dealt
    exact other (relaying.dealer _ waiting (by simpa using dealt))
  have idle : task.receiving = none := by
    by_contra some
    cases plain.symm.trans (dealt_of_receiving some)
  have unhanded : state.core.posts session task = none := by
    cases task <;> first | rfl | cases plain
  have posted : (Pool.queue effect.posts (.strand session)).filterMap (effect.core.frameOf session) = [] := by
    have frames := posted_frames executed session
    rwa [unhanded] at frames
  rw [inFlight, inFlight, dealer_other executed split other, frames_queue tracked executed, idle]
  by_cases here : thread = .strand session
  · have balance := relays_here tracked paced ⟨_, waiting⟩ plain now
    subst here
    rw [Pool.queue_ran_self quiet, List.filterMap_append, List.filterMap_append, posted,
      next_frames tracked.orderly paced relaying.behind executed unhurried, frames_front tracked split quiet executed,
      ← balance]
    simp
  · rw [queue_apart split here, List.filterMap_append, frames_queue tracked executed, posted,
      relays_elsewhere tracked.orderly waiting here]
    simp

theorem inFlight_ran :
    (state.core.relays session task).toList ++ inFlight session (ranState thread before later effect) =
      inFlight session state ++ (task.receiving.bind (state.core.corresponding session now)).toList := by
  by_cases isDealer : thread = .dealer
  · exact inFlight_dealer relaying tracked paced split quiet executed unhurried isDealer
  · exact inFlight_other relaying tracked paced split quiet executed unhurried isDealer

end InFlight

section Dealing

variable (relaying : Relaying session history state) (split : state.pool = before ++ (thread, task) :: later)
  (quiet : Pool.idle before thread) (executed : Executed now state.core task effect)

include relaying split quiet executed

theorem messages_ran :
    (task.receiving.toList ++
        (Pool.queue (ranState thread before later effect).pool .dealer).filterMap Task.receiving) =
      (state.pool.queue .dealer).filterMap Task.receiving := by
  by_cases here : thread = .dealer
  · subst here
    have none : effect.next.filterMap Task.receiving = [] :=
      List.filterMap_eq_nil_iff.mpr (dealt_of_executed executed).2.1
    rw [dealer_self executed quiet, List.filterMap_append, none, queue_front split quiet]
    cases received : task.receiving <;> simp [received]
  · have idle : task.receiving = none := by
      by_contra some
      exact here (relaying.dealer (thread, task) (by simp [split]) (dealt_of_receiving some))
    rw [dealer_other executed split here, idle]
    rfl

omit quiet in
theorem dealer_ran (entry : Thread × Task) (mem : entry ∈ (ranState thread before later effect).pool)
    (dealt : entry.2.dealt = true) : entry.1 = .dealer := by
  obtain ⟨undealt, -, posts⟩ := dealt_of_executed executed
  rcases List.mem_append.mp mem with mem | mem
  · rcases List.mem_append.mp mem with mem | mem
    · obtain ⟨item, left, rfl⟩ := List.mem_map.mp mem
      -- Only a message taken up leaves an item of the dealer thread.
      have received : task.receiving ≠ none := by
        intro none
        cases (undealt none item left).symm.trans dealt
      exact relaying.dealer (thread, task) (by simp [split]) (dealt_of_receiving received)
    · exact relaying.dealer entry (mem_of_rest split mem) dealt
  · cases (posts entry mem).2.symm.trans dealt

theorem single_ran (message : ToUser)
    (mem : .onRecv message ∈ Pool.queue (ranState thread before later effect).pool .dealer) :
    Pool.queue (ranState thread before later effect).pool .dealer = [.onRecv message] := by
  by_cases here : thread = .dealer
  · subst here
    rw [dealer_self executed quiet] at mem ⊢
    rcases List.mem_append.mp mem with mem | mem
    · cases (dealt_of_executed executed).2.1 _ mem
    · -- A message that waits is alone, so nothing has run before it.
      have alone := relaying.single message (by rw [queue_front split quiet]; exact List.mem_cons_of_mem _ mem)
      rw [queue_front split quiet] at alone
      rw [(List.cons.inj alone).2] at mem
      cases mem
  · rw [dealer_other executed split here] at mem ⊢
    exact relaying.single message mem

end Dealing

theorem relaying_ran (relaying : Relaying session history state) (tracked : Tracked state)
    (paced : Paced session state) (split : state.pool = before ++ (thread, task) :: later)
    (quiet : Pool.idle before thread) (executed : Executed now state.core task effect)
    (timely : state.core.timely session task = true) (unhurried : state.core.unhurried session task = true) :
    Relaying session (history ++ [⟨state, .run thread now, ranState thread before later effect⟩])
      (ranState thread before later effect) where
  frames := by
    rw [taken_ran split quiet, List.filterMap_append, ← relaying.frames,
      relayed_of_executed executed session timely, List.append_assoc,
      inFlight_ran relaying tracked paced split quiet executed unhurried, List.append_assoc]
    cases task.receiving with
    | none => simp
    | some message => cases corresponds : state.core.corresponding session now message <;> simp [corresponds]
  messages := by
    have undelivered : delivered (history ++ [⟨state, .run thread now, ranState thread before later effect⟩]) =
        delivered history := by
      simp [delivered, Label.message]
    rw [taken_ran split quiet, undelivered, ← relaying.messages, List.map_append, List.append_assoc,
      ← messages_ran relaying split quiet executed]
    cases task.receiving <;> rfl
  dealer := dealer_ran relaying split executed
  single := single_ran relaying split quiet executed
  behind := behind_ran tracked.orderly (touch_of_executed executed) unhurried relaying.behind

theorem relaying_extended (relaying : Relaying session history state) {label : Label} {core : Core}
    {more : Pool Thread Task} (idle : takes session ⟨state, label, ⟨core, state.pool ++ more⟩⟩ = none)
    (records : core.records = state.core.records) (queue : core.queueOf session = state.core.queueOf session)
    (sent : core.sent = state.core.sent) (dealt : Pool.queue more .dealer = (label.message.map Task.onRecv).toList)
    (free : label.message ≠ none → state.pool.queue .dealer = [])
    (plain : ∀ entry ∈ more, entry.2.dealt = true → entry.1 = .dealer)
    (silent : ∀ entry ∈ more, core.frameOf session entry.2 = none) :
    Relaying session (history ++ [⟨state, label, ⟨core, state.pool ++ more⟩⟩]) ⟨core, state.pool ++ more⟩ := by
  have same : core.frameOf session = state.core.frameOf session := by
    funext item
    cases item <;> simp only [Core.frameOf, Core.noticeOf, Core.answerOf, records]
  have untaken : taken session (history ++ [⟨state, label, ⟨core, state.pool ++ more⟩⟩]) = taken session history := by
    rw [taken, filterMap_concat, idle, Option.toList_none, List.append_nil]
    rfl
  have nothing : ∀ thread, (Pool.queue more thread).filterMap (core.frameOf session) = [] :=
    fun thread => List.filterMap_eq_nil_iff.mpr fun item mem => silent _ (Pool.mem_queue.mp mem)
  constructor
  case frames =>
    rw [untaken, ← relaying.frames, relayed_same sent, inFlight, inFlight, Pool.queue_append, Pool.queue_append,
      List.filterMap_append, List.filterMap_append, nothing, nothing, List.append_nil, List.append_nil, same]
  case messages =>
    have delivers : delivered (history ++ [⟨state, label, ⟨core, state.pool ++ more⟩⟩]) =
        delivered history ++ label.message.toList := filterMap_concat ..
    rw [untaken, delivers, ← relaying.messages, Pool.queue_append, dealt, List.filterMap_append, List.append_assoc]
    cases label.message <;> rfl
  case dealer =>
    intro entry mem isDealt
    rcases List.mem_append.mp mem with mem | mem
    · exact relaying.dealer entry mem isDealt
    · exact plain entry mem isDealt
  case single =>
    intro message mem
    rw [Pool.queue_append, dealt] at mem ⊢
    cases delivers : label.message with
    | none =>
      rw [delivers] at mem
      simpa using relaying.single message (by simpa using mem)
    | some other =>
      rw [delivers] at mem
      rw [free (by simp [delivers])] at mem ⊢
      obtain rfl : message = other := by simpa using mem
      rfl
  case behind =>
    intro ptr mem
    rw [queue] at mem
    rw [Core.noticeOf, records]
    exact relaying.behind ptr mem

theorem relaying_step {label : Label} {after : State} (relaying : Relaying session history state)
    (tracked : Tracked state) (paced : Paced session state) (moved : step state label = some after)
    (undisturbed : Undisturbed session ⟨state, label, after⟩) (unhurried : Unhurried session ⟨state, label, after⟩) :
    Relaying session (history ++ [⟨state, label, after⟩]) after := by
  cases stepped_of_step moved with
  | accepted =>
    rw [← List.append_nil state.pool]
    refine relaying_extended relaying rfl rfl ?_ rfl rfl (by simp [Label.message]) (by simp) (by simp)
    simp only [Core.queueOf, Core.schedulers, List.map_append, heap_get_concat, List.map_cons, List.map_nil]
    split
    · next fresh => simp [← fresh]
    · rfl
  -- a client is taken to send no message of the room server
  | @received conn call known quiet =>
    have genuine := undisturbed.genuine
    apply relaying_extended relaying rfl rfl rfl rfl _ (by simp [Label.message])
    · intro entry mem isDealt
      obtain ⟨item, asked, rfl⟩ := List.mem_map.mp mem
      cases call with
      | room message => cases genuine
      | session message | unknown =>
        obtain rfl := List.mem_singleton.mp asked
        cases isDealt
      | ignored => cases asked
    · intro entry mem
      obtain ⟨item, asked, rfl⟩ := List.mem_map.mp mem
      cases call with
      | session message | unknown | room message =>
        obtain rfl := List.mem_singleton.mp asked
        rfl
      | ignored => cases asked
    · exact Pool.queue_map_other _ (by simp)
  | delivered quiet =>
    apply relaying_extended relaying rfl rfl rfl rfl
    · simp [Pool.queue_cons, Label.message]
    · intro _
      exact Pool.queue_of_idle quiet
    · simp
    · simp [Core.frameOf]
  | ran split quiet executed =>
    have timely := undisturbed.timely
    rw [executed_ran _ _ split quiet] at timely
    rw [Unhurried, executed_ran _ _ split quiet] at unhurried
    exact relaying_ran relaying tracked paced split quiet executed timely unhurried
  | @expired now quiet =>
    have told : ∀ entry ∈ (((state.core.requests.expire now).2.flatMap fun entry => onTimeout entry.1 entry.2).map
        (Prod.mk Thread.timer)), entry.2.dealt = false ∧
          (expire now state).core.frameOf session entry.2 = none :=
      forall_timeouts (fun _ => ⟨rfl, rfl⟩) fun _ => ⟨rfl, rfl⟩
    refine relaying_extended relaying rfl rfl rfl rfl ?_ (by simp [Label.message]) ?_ ?_
    · exact Pool.queue_map_other _ (by simp)
    · intro entry mem isDealt
      cases (told entry mem).1.symm.trans isDealt
    · exact fun entry mem => (told entry mem).2
  | closing known =>
    apply relaying_extended relaying rfl rfl rfl rfl
    · simp [Pool.queue_cons, Label.message]
    · simp [Label.message]
    · simp [Task.dealt]
    · simp [Core.frameOf]

theorem relaying_reached (run : Reaches history state) (undisturbed : ∀ move ∈ history, Undisturbed session move)
    (unhurried : ∀ move ∈ history, Unhurried session move) : Relaying session history state := by
  have both : Paced session state ∧ Relaying session history state := by
    apply run.history fun past state => Paced session state ∧ Relaying session past state
    · refine ⟨paced_initial, ?_⟩
      constructor <;> simp [initial, taken, delivered, inFlight, Core.relayed, Core.written, Core.queueOf, Core.schedulers]
    · rintro past move run ⟨paced, relaying⟩ moved mem
      have tracked := tracked_reached run
      exact ⟨paced_step tracked paced moved (undisturbed move mem).connected,
        relaying_step relaying tracked paced moved (undisturbed move mem) (unhurried move mem)⟩
  exact both.2

end Step

/-! ## The order of what is written -/

/-- In every run in which the session is undisturbed and its scheduler is idle whenever the job of
a notification is pushed: the messages are taken up in the order of their delivery, and what is
written to the client, followed by what is on its way, are their frames in that order, each once. -/
theorem relays_in_order {history : History} {state : State} (run : Reaches history state) (session : SessionPtr)
    (undisturbed : ∀ move ∈ history, Undisturbed session move) (unhurried : ∀ move ∈ history, Unhurried session move) :
    (taken session history).map Prod.fst <+: delivered history ∧
    state.core.relayed session ++ inFlight session state = (taken session history).filterMap Prod.snd ∧
    (state.pool.queue .dealer = [] → state.pool.queue (.strand session) = [] →
      (taken session history).map Prod.fst = delivered history ∧
        state.core.relayed session = (taken session history).filterMap Prod.snd) := by
  have relaying := relaying_reached run undisturbed unhurried
  have messages := relaying.messages
  have frames := relaying.frames
  refine ⟨⟨_, messages⟩, frames, ?_⟩
  intro dealer strand
  rw [dealer, List.filterMap_nil, List.append_nil] at messages
  rw [inFlight, dealer, strand, List.filterMap_nil, List.append_nil, List.append_nil] at frames
  exact ⟨messages, frames⟩

def entersRoom : List Label :=
  [.accept, .receive 0 (.session (.reqLogin { uid := "alice" })), .run (.conn 0) 0, .run (.strand 0) 0,
    .run (.strand 0) 0, .run (.strand 0) 0, .receive 0 (.session (.reqCreateRoom { requestId := 7 })), .run (.conn 0) 0,
    .run (.strand 0) 0, .run (.strand 0) 0, .run (.strand 0) 0, .run (.strand 0) 0,
    .deliver (.resCreateRoom { requestId := 1, success := true, roomId := 10000 }), .run .dealer 0, .run .dealer 0,
    .run (.strand 0) 0]

def hearsThenLeaves : List Label :=
  entersRoom ++ ([.deliver (.fwdClient { uid := "alice", message := "hi" }), .run .dealer 0, .run .dealer 0,
    .run (.strand 0) 0, .run (.strand 0) 0, .receive 0 (.session (.reqLeaveRoom { requestId := 8 })), .run (.conn 0) 0,
    .run (.strand 0) 0, .run (.strand 0) 0, .run (.strand 0) 0, .run (.strand 0) 0,
    .deliver (.resLeaveRoom { requestId := 2, success := true }), .run .dealer 0, .run .dealer 0,
    .run (.strand 0) 0] : List Label)

theorem relays_in_order_leaving :
    (final step initial hearsThenLeaves).core.relayed 0 =
        (taken 0 (transitions step initial hearsThenLeaves)).filterMap Prod.snd ∧
      (taken 0 (transitions step initial hearsThenLeaves)).filterMap Prod.snd =
        [.resCreateRoom { requestId := 7, roomId := 10000, success := true },
          fwdClient { uid := "alice", message := "hi" }, .resLeaveRoom { requestId := 8, success := true }] := by
  have run : Reaches (transitions step initial hearsThenLeaves) (final step initial hearsThenLeaves) :=
    run_of_enabled (by decide +kernel)
  have undisturbed : ∀ move ∈ transitions step initial hearsThenLeaves, Undisturbed 0 move := by decide +kernel
  have unhurried : ∀ move ∈ transitions step initial hearsThenLeaves, Unhurried 0 move := by decide +kernel
  obtain ⟨-, -, settled⟩ := relays_in_order run 0 undisturbed unhurried
  exact ⟨(settled (by decide +kernel) (by decide +kernel)).2, by decide +kernel⟩

def hearsWhileLeaving : List Label :=
  entersRoom ++ ([.receive 0 (.session (.reqLeaveRoom { requestId := 8 })), .run (.conn 0) 0, .run (.strand 0) 0,
    .run (.strand 0) 0, .run (.strand 0) 0, .run (.strand 0) 0,
    .deliver (.fwdClient { uid := "alice", message := "hi" }), .run .dealer 0, .run .dealer 0, .run (.strand 0) 0,
    .deliver (.resLeaveRoom { requestId := 2, success := true }), .run .dealer 0, .run .dealer 0, .run (.strand 0) 0,
    .run (.strand 0) 0] : List Label)

/-- The job of the message waits behind the leave that is being worked on, so the answer is written first. -/
theorem response_overtakes_notification :
    ∃ (history : History) (state : State), Reaches history state ∧ (∀ move ∈ history, Undisturbed 0 move) ∧
      state.pool.queue .dealer = [] ∧ state.pool.queue (.strand 0) = [] ∧
      (taken 0 history).filterMap Prod.snd =
        [.resCreateRoom { requestId := 7, roomId := 10000, success := true },
          fwdClient { uid := "alice", message := "hi" }, .resLeaveRoom { requestId := 8, success := true }] ∧
      state.core.relayed 0 =
        [.resCreateRoom { requestId := 7, roomId := 10000, success := true },
          .resLeaveRoom { requestId := 8, success := true }, fwdClient { uid := "alice", message := "hi" }] := by
  have run : Reaches (transitions step initial hearsWhileLeaving) (final step initial hearsWhileLeaving) :=
    run_of_enabled (by decide +kernel)
  refine ⟨_, _, run, ?_, ?_, ?_, ?_, ?_⟩ <;> decide +kernel

end Rsp.UserServer
