import Rsp.Foundation.Threads
import Rsp.Foundation.Transition
import Rsp.Message.PendingRequests
import Rsp.UserServer.Session

/-! The User server: session strands, connections, the dealer thread and the timer.

An item is a critical section of the session manager, of the pending requests or of the
channel's queue, a post to a strand, or a piece of code that only touches what the
running strand owns: its session, the scheduler and the jobs of that session.
-/

set_option autoImplicit false

namespace Rsp.UserServer

open Message Rsp.Job Foundation

/-- The dealer thread receives from Room, the timer expires requests; a session has the
strand of its connection and the strand of its jobs. -/
inductive Thread where
  | dealer
  | timer
  | conn (session : SessionPtr)
  | strand (session : SessionPtr)
  deriving DecidableEq, Repr

inductive Task where
  | pushAndRun (job : JobPtr)
  | run (job : JobPtr)
  | addSession (job : JobPtr)
  | addRequest (job : JobPtr) (id : Nat)
  | channelSend (message : ToRoom)
  | handleRes (job : JobPtr) (response : ToUser)
  | cancel (job : JobPtr) (reason : CancelReason)
  | finishCancel (job : JobPtr) (reason : CancelReason)
  | shutdown (session : SessionPtr)
  | onRecv (message : ToUser)
  | postResponse (job : JobPtr) (response : ToUser)
  | postTimeout (job : JobPtr)
  | notify (session : SessionPtr) (kind : JobKind)
  | onSessionRecv (session : SessionPtr) (message : FromClient)
  | onRecvUnknown (session : SessionPtr)
  | finishClose (session : SessionPtr)
  | onConnClosed (session : SessionPtr)
  | onDisconnected (session : SessionPtr)
  deriving DecidableEq, Repr

/-- `outgoing` lists the messages handed to the dealer channel and `sent` the frames handed
to a connection, oldest first. -/
structure Core where
  manager : SessionManager := {}
  sessions : List Session := []
  jobs : List Job := []
  requests : PendingRequests JobPtr := {}
  nextRequestId : Nat := 1
  outgoing : List ToRoom := []
  sent : List (SessionPtr × ToClient) := []

abbrev Effect := Outcome Core Thread Task

namespace Core

def setSession (self : Core) (ptr : SessionPtr) (session : Session) : Core :=
  { self with sessions := self.sessions.set ptr session }

def setJob (self : Core) (ptr : JobPtr) (job : Job) : Core := { self with jobs := self.jobs.set ptr job }

def send (self : Core) (session : SessionPtr) (frame : ToClient) : Core :=
  { self with sent := self.sent ++ [(session, frame)] }

def enqueueJob (self : Core) (session : SessionPtr) (kind : JobKind) : Effect :=
  { core := { self with jobs := self.jobs ++ [{ session, kind }] }
    posts := [(.strand session, .pushAndRun self.jobs.length)] }

/-- The completion given to a job: the first call completes the current job. -/
def complete (self : Core) (ptr : JobPtr) : Option Effect := do
  let job ← self.jobs[ptr]?
  if job.completed then some { core := self }
  else
    let session ← self.sessions[job.session]?
    let (scheduler, next) := session.scheduler.completeCurrent
    return {
      core := (self.setJob ptr { job with completed := true }).setSession job.session { session with scheduler }
      next := next.toList.map .run }

def finish (self : Core) (ptr : JobPtr) : Option Effect := do
  let job ← self.jobs[ptr]?
  if job.finished then some { core := self }
  else
    let core := self.setJob ptr { job with finished := true, done := false }
    if job.done then core.complete ptr else some { core }

end Core

/-! ## Jobs -/

namespace JobKind

def request (uid : Uid) (requestId : Nat) : JobKind → Option ToRoom
  | .createRoom _ => some (.reqCreateRoom { requestId, uid })
  | .joinRoom request => some (.reqJoinRoom { requestId, uid, roomId := request.roomId })
  | .leaveRoom _ => some (.reqLeaveRoom { requestId, uid })
  | _ => none

/-- The reply of a room job to the client; `none` is the dereference of a failed downcast. -/
def answer : JobKind → ToUser → Option ToClient
  | .createRoom request, .resCreateRoom response => some (.resCreateRoom
      { requestId := request.requestId, roomId := response.roomId, success := response.success })
  | .joinRoom request, .resJoinRoom response => some (.resJoinRoom
      { requestId := request.requestId, roomId := response.roomId, success := response.success })
  | .leaveRoom request, .resLeaveRoom response => some (.resLeaveRoom
      { requestId := request.requestId, success := response.success })
  | _, _ => none

def timeoutResponse : JobKind → Option ToClient
  | .createRoom request => some (.resCreateRoom { requestId := request.requestId, success := false })
  | .joinRoom request => some (.resJoinRoom
      { requestId := request.requestId, roomId := request.roomId, success := false })
  | .leaveRoom request => some (.resLeaveRoom { requestId := request.requestId, success := false })
  | _ => none

/-- The room of the session after a response: a create sets it whatever the outcome, a join
on success, and a leave clears it whatever the outcome. -/
def roomAfter (roomId : RoomId) : ToUser → RoomId
  | .resCreateRoom response => response.roomId
  | .resJoinRoom response => if response.success then response.roomId else roomId
  | .resLeaveRoom _ => 0
  | _ => roomId

/-- Whether the job class overrides `cancel`. -/
def isRoom : JobKind → Bool
  | .createRoom _ | .joinRoom _ | .leaveRoom _ => true
  | _ => false

end JobKind

/-- The response built by `send_res_login`. -/
def resLogin (request : ReqLogin) (session : Session) : ToClient :=
  .resLogin { uid := request.uid, success := true, isAttached := session.roomId ≠ 0, roomId := session.roomId }

/-- The frame `job_cli_forward_message` makes of a message from Room. -/
def fwdClient (message : User2RoomFwdClient) : ToClient :=
  .fwdClient
    { uid := message.uid, senderType := message.senderType, senderUid := message.senderUid
      message := message.message }

def pushAndRun (ptr : JobPtr) (core : Core) : Option Effect := do
  let job ← core.jobs[ptr]?
  let session ← core.sessions[job.session]?
  let (scheduler, pushed) := session.scheduler.pushAndRun ptr
  return {
    core := core.setSession job.session { session with scheduler }
    next := match pushed with
      | .rejected rejected => [.cancel rejected .kShutdown]
      | .run next => [.run next]
      | .queued => [] }

/-- `run` of the job classes. A room job's `send_request` draws the id here; the entry and
the message follow as items of their own. -/
def run (ptr : JobPtr) (core : Core) : Option Effect := do
  let job ← core.jobs[ptr]?
  let session ← core.sessions[job.session]?
  match job.kind with
  | .login request =>
      let core := core.send job.session (resLogin request session)
      return { core := core.setSession job.session { session with uid := request.uid }, next := [.addSession ptr] }
  | .logout _ =>
      -- the job that stops the session is queued behind this one, which completes first
      let stopping := (core.send job.session (.resLogout { uid := session.uid })).enqueueJob job.session (.stop false)
      let done ← stopping.core.complete ptr
      return { done with posts := stopping.posts }
  | .stop forceClose =>
      let done ← core.complete ptr
      return { done with posts := if forceClose then [(.conn job.session, .finishClose job.session)] else [] }
  | .forwardMessage message =>
      let forward : User2RoomFwdRoom := { uid := session.uid, message := message.message }
      Core.complete { core with outgoing := core.outgoing ++ [.fwdRoom forward] } ptr
  | .cliForwardMessage message => (core.send job.session (fwdClient message)).complete ptr
  | .ntfLeaveRoomMessage notification =>
      let core := core.send job.session (.ntfLeaveRoom { reason := notification.reason })
      (core.setSession job.session { session with roomId := 0 }).complete ptr
  -- create, join and leave: they complete when the response or the timeout comes
  | kind =>
      let id := core.nextRequestId
      let request ← kind.request session.uid id
      return {
        core := { core.setJob ptr { job with done := true, roomRequestId := id } with nextRequestId := id + 1 }
        next := [.addRequest ptr id, .channelSend request] }

/-- The end of `job_login::run`. -/
def addSession (ptr : JobPtr) (core : Core) : Option Effect := do
  let job ← core.jobs[ptr]?
  let session ← core.sessions[job.session]?
  Core.complete { core with manager := core.manager.addSession job.session session.uid } ptr

/-- The deadline of `send_request` is five seconds ahead. -/
def addRequest (now : Nat) (ptr : JobPtr) (id : Nat) (core : Core) : Effect :=
  { core := { core with requests := core.requests.add id ptr (now + 5 * 10 ^ 9) } }

def handleRes (ptr : JobPtr) (response : ToUser) (core : Core) : Option Effect := do
  let job ← core.jobs[ptr]?
  if job.finished then some { core }
  else
    let frame ← job.kind.answer response
    let session ← core.sessions[job.session]?
    let core := core.setSession job.session { session with roomId := JobKind.roomAfter session.roomId response }
    (core.send job.session frame).finish ptr

def sendCancel (id : Nat) : Task := .channelSend (.cancelRequest { requestId := id })

/-- `cancel`, up to the end of `cancel_request`'s critical section. -/
def cancel (ptr : JobPtr) (reason : CancelReason) (core : Core) : Option Effect := do
  let job ← core.jobs[ptr]?
  if !job.kind.isRoom || job.finished then some { core }
  else
    let (requests, cancelled) := core.requests.cancel job.roomRequestId
    return {
      core := { core with requests }
      next := (if cancelled then [sendCancel job.roomRequestId] else []) ++ [.finishCancel ptr reason] }

/-- The end of `cancel`: the reply of a timeout, then `finish`. -/
def finishCancel (ptr : JobPtr) (reason : CancelReason) (core : Core) : Option Effect := do
  let job ← core.jobs[ptr]?
  match reason with
  | .kShutdown => core.finish ptr
  | .kTimeout =>
      let frame ← job.kind.timeoutResponse
      (core.send job.session frame).finish ptr

/-- The task posted by `on_disconnected`. -/
def shutdown (ptr : SessionPtr) (core : Core) : Option Effect := do
  let session ← core.sessions[ptr]?
  let (scheduler, cancelled) := session.scheduler.shutdown
  return {
    core := core.setSession ptr { session with scheduler }
    next := cancelled.map (.cancel · .kShutdown) }

/-! ## Messages -/

/-- The timeout handler of `send_request`. -/
def onTimeout (id : Nat) (job : JobPtr) : List Task := [sendCancel id, .postTimeout job]

def sendToWaiter (now : Nat) (id : Nat) (response : ToUser) (core : Core) : Effect :=
  let (requests, resolution) := core.requests.complete id now
  { core := { core with requests }
    next := match resolution with
      | none => []
      | some (.onResponse job) => [.postResponse job response]
      | some (.onTimeout job) => onTimeout id job }

/-- `pass_to_session` of `room_channel`, up to the look-up. -/
def passToSession (uid : Uid) (kind : JobKind) (core : Core) : Effect :=
  { core, next := match core.manager.findSession uid with
      | none => []
      | some session => [.notify session kind] }

/-- `on_recv` of `room_channel`. A pong reaches the handler of the client side, which takes
the null link for a session. -/
def onRecv (now : Nat) (message : ToUser) (core : Core) : Option Effect :=
  match message with
  | .pong => none
  | .fwdClient message => some (passToSession message.uid (.cliForwardMessage message) core)
  | .ntfLeaveRoom message => some (passToSession message.uid (.ntfLeaveRoomMessage message) core)
  | .resCreateRoom response => some (sendToWaiter now response.requestId message core)
  | .resJoinRoom response => some (sendToWaiter now response.requestId message core)
  | .resLeaveRoom response => some (sendToWaiter now response.requestId message core)

def onSessionRecv (session : SessionPtr) (message : FromClient) (core : Core) : Effect :=
  match message with
  | .ping => { core := core.send session .pong }
  | .pong => { core }
  | .reqLogin request => core.enqueueJob session (.login request)
  | .reqLogout request => core.enqueueJob session (.logout request)
  | .reqCreateRoom request => core.enqueueJob session (.createRoom request)
  | .reqJoinRoom request => core.enqueueJob session (.joinRoom request)
  | .fwdRoom request => core.enqueueJob session (.forwardMessage request)
  | .reqLeaveRoom request => core.enqueueJob session (.leaveRoom request)

/-! ## Connections -/

def finishClose (ptr : SessionPtr) (core : Core) : Option Effect := do
  let session ← core.sessions[ptr]?
  if session.closed then some { core }
  else some { core := core.setSession ptr { session with closed := true }, next := [.onConnClosed ptr] }

def onConnClosed (ptr : SessionPtr) (core : Core) : Effect :=
  let uidOf := fun session => ((core.sessions[session]?).map Session.uid).getD ""
  let (manager, removed) := core.manager.removeSession uidOf ptr
  { core := { core with manager }, next := removed.toList.map .onDisconnected }

def exec (now : Nat) (task : Task) (core : Core) : Option Effect :=
  match task with
  | .pushAndRun job => pushAndRun job core
  | .run job => run job core
  | .addSession job => addSession job core
  | .addRequest job id => some (addRequest now job id core)
  | .channelSend message => some { core := { core with outgoing := core.outgoing ++ [message] } }
  | .handleRes job response => handleRes job response core
  | .cancel job reason => cancel job reason core
  | .finishCancel job reason => finishCancel job reason core
  | .shutdown session => shutdown session core
  | .onRecv message => onRecv now message core
  -- the callbacks of a request run on other threads and hand the work to the strand of the session
  | .postResponse ptr response => do
      let job ← core.jobs[ptr]?
      return { core, posts := [(.strand job.session, .handleRes ptr response)] }
  | .postTimeout ptr => do
      let job ← core.jobs[ptr]?
      return { core, posts := [(.strand job.session, .cancel ptr .kTimeout)] }
  | .notify session kind => some (core.enqueueJob session kind)
  | .onSessionRecv session message => some (onSessionRecv session message core)
  | .onRecvUnknown session => some (core.enqueueJob session (.stop false))
  | .finishClose session => finishClose session core
  | .onConnClosed session => some (onConnClosed session core)
  | .onDisconnected session => some { core, posts := [(.strand session, .shutdown session)] }

/-! ## Steps -/

/-- What the handler table makes of a client's frame: a handler of the client side on the
session of the connection, its unknown-message handler, a handler of `room_channel`, or
nothing beyond a log entry. -/
inductive Invocation where
  | session (message : FromClient)
  | unknown
  | room (message : ToUser)
  | ignored
  deriving DecidableEq, Repr

inductive Label where
  | accept
  | receive (conn : SessionPtr) (call : Invocation)
  | deliver (message : ToUser)
  | run (thread : Thread) (now : Nat)
  | expire (now : Nat)
  | close (conn : SessionPtr)
  deriving DecidableEq, Repr

abbrev State := Machine Core Thread Task

def Invocation.task (conn : SessionPtr) : Invocation → List Task
  | .session message => [.onSessionRecv conn message]
  | .unknown => [.onRecvUnknown conn]
  | .room message => [.onRecv message]
  | .ignored => []

def expire (now : Nat) (state : State) : State :=
  let (requests, expired) := state.core.requests.expire now
  { core := { state.core with requests }
    pool := state.pool ++ (expired.flatMap fun entry => onTimeout entry.1 entry.2).map (Prod.mk .timer) }

def step (state : State) : Label → Option State
  | .accept => some { state with core := { state.core with
      manager := state.core.manager.addConnection state.core.sessions.length
      sessions := state.core.sessions ++ [{}] } }
  | .receive conn call =>
      -- a connection reads again when its handler has returned
      if conn < state.core.sessions.length ∧ state.pool.idle (.conn conn) then
        some { state with pool := state.pool ++ (call.task conn).map (Prod.mk (.conn conn)) }
      else none
  | .deliver message =>
      if state.pool.idle .dealer then some { state with pool := state.pool ++ [(.dealer, .onRecv message)] }
      else none
  | .run thread now => state.run (exec now) thread
  | .expire now => if state.pool.idle .timer then some (expire now state) else none
  | .close conn =>
      if conn < state.core.sessions.length then
        some { state with pool := state.pool ++ [(.conn conn, .finishClose conn)] }
      else none

def initial : State := ⟨{}, []⟩

abbrev History := List (Transition State Label)

abbrev Reaches (history : History) (state : State) : Prop := Run step initial history state

def executed (move : Transition State Label) : Option (Nat × Task) :=
  match move.label with
  | .run thread now => (Pool.pop thread move.before.pool).map fun found => (now, found.1)
  | _ => none

end Rsp.UserServer
