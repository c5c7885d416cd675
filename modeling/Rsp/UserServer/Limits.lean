import Rsp.Message.Size
import Rsp.UserServer.Conclusion

/-! The uids and texts that the User server passes on.

A session gets its uid at the login. The requests and the texts sent to Room carry that uid,
and what comes from Room goes to a client with the same fields.
-/

set_option autoImplicit false

namespace Rsp.UserServer

open Message Rsp.Job Foundation Serializer

section Predicates

variable (limits : Limits)

def JobKind.Within : JobKind → Prop
  | .login request => limits.Uid request.uid
  | .forwardMessage message => limits.Text message.message
  | .cliForwardMessage message => (ToUser.fwdClient message).byteSize ≤ kMaxPayloadSize
  | _ => True

def Task.Within : Task → Prop
  | .channelSend message => limits.ToRoom message
  | .onRecv message => message.byteSize ≤ kMaxPayloadSize
  | .notify _ kind => kind.Within limits
  | .onSessionRecv _ message => limits.FromClient message
  | _ => True

def Label.Within : Label → Prop
  | .receive _ (.session message) => limits.FromClient message
  | .receive _ (.room message) => message.byteSize ≤ kMaxPayloadSize
  | .deliver message => message.byteSize ≤ kMaxPayloadSize
  | _ => True

structure Core.Within (core : Core) : Prop where
  uids : ∀ session ∈ core.sessions, limits.Uid session.uid
  kinds : ∀ job ∈ core.jobs, job.kind.Within limits
  outgoing : ∀ message ∈ core.outgoing, limits.ToRoom message
  sent : ∀ entry ∈ core.sent, entry.2.byteSize ≤ kMaxPayloadSize

structure Within (state : State) : Prop where
  core : state.core.Within limits
  items : ∀ entry ∈ state.pool, entry.2.Within limits

structure Effect.Within (effect : Effect) : Prop where
  core : Core.Within limits effect.core
  items : ∀ item ∈ items effect, item.Within limits

end Predicates

section Frames

variable {limits : Limits}

theorem resLogin_fits {request : ReqLogin} (short : limits.Uid request.uid) (session : Session) :
    (resLogin request session).byteSize ≤ kMaxPayloadSize := by
  have fits := limits.fits
  have uid := Limits.uid_field short
  have attached := boolField_le (session.roomId ≠ 0)
  have room := Limits.uint32_field session.roomId
  have success : boolField true = 2 := rfl
  simp only [resLogin, ToClient.byteSize]
  omega

theorem resLogout_fits {uid : Uid} (short : limits.Uid uid) :
    (ToClient.resLogout { uid }).byteSize ≤ kMaxPayloadSize := by
  have fits := limits.fits
  have field := Limits.uid_field short
  simp only [ToClient.byteSize]
  omega

theorem roomReply_fits (requestId roomId : Nat) (success : Bool) :
    uintField 64 requestId + boolField success + uintField 32 roomId ≤ kMaxPayloadSize := by
  have whole : kMaxPayloadSize = 65536 := rfl
  have id := Limits.uint64_field requestId
  have flag := boolField_le success
  have room := Limits.uint32_field roomId
  omega

theorem leaveReply_fits (requestId : Nat) (success : Bool) :
    uintField 64 requestId + boolField success ≤ kMaxPayloadSize :=
  Nat.le_trans (Nat.le_add_right _ _) (roomReply_fits requestId 0 success)

theorem answer_fits {kind : JobKind} {response : ToUser} {frame : ToClient}
    (answer : kind.answer response = some frame) : frame.byteSize ≤ kMaxPayloadSize := by
  cases kind <;> cases response <;> cases answer
  · exact roomReply_fits _ _ _
  · exact roomReply_fits _ _ _
  · exact leaveReply_fits _ _

theorem timeout_fits {kind : JobKind} {frame : ToClient} (timeout : kind.timeoutResponse = some frame) :
    frame.byteSize ≤ kMaxPayloadSize := by
  cases kind <;> cases timeout
  · exact roomReply_fits _ _ _
  · exact roomReply_fits _ _ _
  · exact leaveReply_fits _ _

theorem ntfLeaveRoom_fits (reason : LeaveRoomReason) :
    (ToClient.ntfLeaveRoom { reason }).byteSize ≤ kMaxPayloadSize := by
  have whole : kMaxPayloadSize = 65536 := rfl
  have field := enumField_le reason.value
  have nobody : stringField "" = 0 := rfl
  have absent : optionalField 32 none = 0 := rfl
  simp only [ToClient.byteSize]
  omega

theorem request_within {kind : JobKind} {uid : Uid} {id : Nat} {message : ToRoom} (short : limits.Uid uid)
    (request : kind.request uid id = some message) : limits.ToRoom message := by
  cases kind <;> cases request <;> exact short

end Frames

section Cores

variable {limits : Limits} {core : Core} {effect : Effect}

theorem within_setSession (within : core.Within limits) {ptr : SessionPtr} {session : Session}
    (short : limits.Uid session.uid) : (core.setSession ptr session).Within limits := by
  constructor
  case uids =>
    intro other mem
    rcases List.mem_or_eq_of_mem_set mem with mem | rfl
    · exact within.uids other mem
    · exact short
  case kinds => exact within.kinds
  case outgoing => exact within.outgoing
  case sent => exact within.sent

theorem within_setJob (within : core.Within limits) {ptr : JobPtr} {job : Job} (fits : job.kind.Within limits) :
    (core.setJob ptr job).Within limits := by
  constructor
  case uids => exact within.uids
  case kinds =>
    intro other mem
    rcases List.mem_or_eq_of_mem_set mem with mem | rfl
    · exact within.kinds other mem
    · exact fits
  case outgoing => exact within.outgoing
  case sent => exact within.sent

theorem within_send (within : core.Within limits) {session : SessionPtr} {frame : ToClient}
    (fits : frame.byteSize ≤ kMaxPayloadSize) : (core.send session frame).Within limits := by
  constructor
  case uids => exact within.uids
  case kinds => exact within.kinds
  case outgoing => exact within.outgoing
  case sent =>
    intro entry mem
    rcases List.mem_append.mp mem with mem | mem
    · exact within.sent entry mem
    · rw [List.mem_singleton.mp mem]
      exact fits

theorem within_outgoing (within : core.Within limits) {message : ToRoom} (fits : limits.ToRoom message) :
    Core.Within limits { core with outgoing := core.outgoing ++ [message] } := by
  constructor
  case uids => exact within.uids
  case kinds => exact within.kinds
  case outgoing =>
    intro other mem
    rcases List.mem_append.mp mem with mem | mem
    · exact within.outgoing other mem
    · rw [List.mem_singleton.mp mem]
      exact fits
  case sent => exact within.sent

theorem within_enqueueJob (within : core.Within limits) (session : SessionPtr) {kind : JobKind}
    (fits : kind.Within limits) : Effect.Within limits (core.enqueueJob session kind) := by
  constructor
  · constructor
    case uids => exact within.uids
    case kinds =>
      intro job mem
      rcases List.mem_append.mp mem with mem | mem
      · exact within.kinds job mem
      · rw [List.mem_singleton.mp mem]
        exact fits
    case outgoing => exact within.outgoing
    case sent => exact within.sent
  · simp [items, Core.enqueueJob, Task.Within]

theorem within_same {after : Core} (within : core.Within limits) (sessions : after.sessions = core.sessions)
    (jobs : after.jobs = core.jobs) (outgoing : after.outgoing = core.outgoing) (sent : after.sent = core.sent) :
    after.Within limits := by
  constructor
  case uids => exact sessions ▸ within.uids
  case kinds => exact jobs ▸ within.kinds
  case outgoing => exact outgoing ▸ within.outgoing
  case sent => exact sent ▸ within.sent

theorem Core.Within.kind (within : core.Within limits) {ptr : JobPtr} {job : Job}
    (found : core.jobs[ptr]? = some job) : job.kind.Within limits :=
  within.kinds job (List.mem_of_getElem? found)

theorem Core.Within.uid (within : core.Within limits) {ptr : SessionPtr} {session : Session}
    (owner : core.sessions[ptr]? = some session) : limits.Uid session.uid :=
  within.uids session (List.mem_of_getElem? owner)

theorem within_completed {ptr : JobPtr} (completed : Completed core ptr effect) (within : core.Within limits) :
    Effect.Within limits effect := by
  cases completed with
  | again found completed => exact ⟨within, by simp [items]⟩
  | first found fresh owner =>
    have kind := within.kind found
    have uid := within.uid owner
    constructor
    · apply within_setSession
      · apply within_setJob within
        exact kind
      · exact uid
    · simp [items, Task.Within]

theorem within_finished {ptr : JobPtr} (finished : Finished core ptr effect) (within : core.Within limits) :
    Effect.Within limits effect := by
  cases finished with
  | again found finished => exact ⟨within, by simp [items]⟩
  | unheld found unfinished unheld =>
    have kind := within.kind found
    exact ⟨within_setJob within kind, by simp [items]⟩
  | called found unfinished held completed =>
    have kind := within.kind found
    exact within_completed completed (within_setJob within kind)

end Cores

section Executed

variable {limits : Limits} {now : Nat} {core : Core} {task : Task} {effect : Effect}

theorem within_sessionReceived (within : core.Within limits) (session : SessionPtr) {message : FromClient}
    (fits : limits.FromClient message) : Effect.Within limits (onSessionRecv session message core) := by
  cases message with
  | ping => exact ⟨within_send within (Nat.zero_le _), by simp [items, onSessionRecv]⟩
  | pong => exact ⟨within, by simp [items, onSessionRecv]⟩
  | reqLogin | fwdRoom => exact within_enqueueJob within session fits
  | reqLogout | reqCreateRoom | reqJoinRoom | reqLeaveRoom => exact within_enqueueJob within session trivial

theorem within_passToSession (within : core.Within limits) (uid : Uid) {kind : JobKind} (fits : kind.Within limits) :
    Effect.Within limits (passToSession uid kind core) := by
  constructor
  · exact within
  · simp only [items, passToSession]
    cases core.manager.findSession uid
    · simp
    · simpa [Task.Within] using fits

theorem within_of_executed (within : core.Within limits) (fits : task.Within limits)
    (executed : Executed now core task effect) : Effect.Within limits effect := by
  cases executed with
  | @pushed ptr job session found owner =>
    have uid := within.uid owner
    constructor
    · exact within_setSession within uid
    · simp only [items]
      cases (session.scheduler.pushAndRun ptr).2 <;> simp [afterPush, Task.Within]
  | @loggedIn ptr job session request found owner kind =>
    -- the uid of the session is the one the login carried
    have short : limits.Uid request.uid := by
      have login := within.kind found
      rw [kind] at login
      exact login
    constructor
    · exact within_setSession (within_send within (resLogin_fits short session)) short
    · simp [items, Task.Within]
  | @loggedOut ptr job session request effect found owner kind completed =>
    have uid := within.uid owner
    have sent : (core.send job.session (.resLogout { uid := session.uid })).Within limits :=
      within_send within (resLogout_fits uid)
    have stopping : JobKind.Within limits (.stop false) := trivial
    obtain ⟨core', items'⟩ := within_completed completed (within_enqueueJob sent job.session stopping).core
    constructor
    · exact core'
    · intro item mem
      rcases List.mem_append.mp mem with mem | mem
      · exact items' item (List.mem_append_left _ mem)
      · simp only [List.map_cons, List.map_nil, List.mem_singleton] at mem
        rw [mem]
        trivial
  | @stopped ptr job session forceClose effect found owner kind completed =>
    obtain ⟨core', items'⟩ := within_completed completed within
    constructor
    · exact core'
    · intro item mem
      rcases List.mem_append.mp mem with mem | mem
      · exact items' item (List.mem_append_left _ mem)
      · cases forceClose <;> simp only [Bool.false_eq_true, if_true, if_false, List.map_cons, List.map_nil,
          List.mem_singleton, List.not_mem_nil] at mem
        rw [mem]
        trivial
  | @forwarded ptr job session message effect found owner kind completed =>
    have uid := within.uid owner
    have text : limits.Text message.message := by
      have forward := within.kind found
      rw [kind] at forward
      exact forward
    apply within_completed completed
    exact within_outgoing within ⟨uid, text⟩
  | @clientForwarded ptr job session message effect found owner kind completed =>
    -- a forward has the size of the notification it was made from
    have frame : (fwdClient message).byteSize ≤ kMaxPayloadSize := by
      have notification := within.kind found
      rw [kind] at notification
      exact notification
    exact within_completed completed (within_send within frame)
  | @leaveNotified ptr job session notification effect found owner kind completed =>
    have uid := within.uid owner
    apply within_completed completed
    exact within_setSession (within_send within (ntfLeaveRoom_fits notification.reason)) uid
  | requested found owner room =>
    have kind := within.kind found
    have request := request_within (within.uid owner) room
    constructor
    · refine within_same (within_setJob within ?_) rfl rfl rfl rfl
      exact kind
    · simpa [items, Task.Within] using request
  | sessionAdded found owner completed =>
    exact within_completed completed (within_same within rfl rfl rfl rfl)
  | requestAdded => exact ⟨within_same within rfl rfl rfl rfl, by simp [items, addRequest]⟩
  | channelSent => exact ⟨within_outgoing within fits, by simp [items]⟩
  | answeredLate | cancelIgnored | closedAgain => exact ⟨within, by simp [items]⟩
  | answered found unfinished answer owner finished =>
    have uid := within.uid owner
    apply within_finished finished
    apply within_send _ (answer_fits answer)
    apply within_setSession within
    exact uid
  | cancelled found room unfinished =>
    constructor
    · exact within_same within rfl rfl rfl rfl
    · simp only [items]
      split <;> simp [sendCancel, Task.Within, Limits.ToRoom]
  | shutdownFinished found finished => exact within_finished finished within
  | timeoutFinished found timeout finished =>
    exact within_finished finished (within_send within (timeout_fits timeout))
  | shutDown owner | closed owner =>
    have uid := within.uid owner
    exact ⟨within_setSession within uid, by simp [items, Task.Within]⟩
  | @responded message id carries =>
    constructor
    · exact within_same within rfl rfl rfl rfl
    · simp only [items, sendToWaiter]
      cases (core.requests.complete id now).2 with
      | none => simp
      | some resolution => cases resolution <;> simp [onTimeout, sendCancel, Task.Within, Limits.ToRoom]
  | clientPassed => exact within_passToSession within _ fits
  | leavePassed => exact within_passToSession within _ trivial
  | responsePosted | timeoutPosted | disconnected => exact ⟨within, by simp [items, Task.Within]⟩
  | notified => exact within_enqueueJob within _ fits
  | sessionReceived => exact within_sessionReceived within _ fits
  | unknownReceived => exact within_enqueueJob within _ trivial
  | removed =>
    constructor
    · exact within_same within rfl rfl rfl rfl
    · simp [items, onConnClosed, Task.Within]

end Executed

theorem within_step {limits : Limits} {state after : State} {label : Label} (within : Within limits state)
    (fits : label.Within limits) (moved : step state label = some after) : Within limits after := by
  have grown : ∀ {core : Core} {more : Pool Thread Task}, core.Within limits →
      (∀ entry ∈ more, entry.2.Within limits) → Within limits ⟨core, state.pool ++ more⟩ := by
    intro core more ok added
    constructor
    · exact ok
    · intro entry mem
      rcases List.mem_append.mp mem with mem | mem
      · exact within.items entry mem
      · exact added entry mem
  cases stepped_of_step moved with
  | accepted =>
    constructor
    · constructor
      case uids =>
        intro session mem
        rcases List.mem_append.mp mem with mem | mem
        · exact within.core.uids session mem
        · rw [List.mem_singleton.mp mem]
          exact Nat.zero_le _
      case kinds => exact within.core.kinds
      case outgoing => exact within.core.outgoing
      case sent => exact within.core.sent
    · exact within.items
  | @received conn call known quiet =>
    apply grown within.core
    cases call with
    | session | room => simpa [Invocation.task, Task.Within, Label.Within] using fits
    | unknown => simp [Invocation.task, Task.Within]
    | ignored => simp [Invocation.task]
  | delivered quiet =>
    apply grown within.core
    simpa [Task.Within, Label.Within] using fits
  | @ran thread now task before later effect split quiet executed =>
    have waits : (thread, task) ∈ state.pool := by simp [split]
    obtain ⟨core, items⟩ := within_of_executed within.core (within.items _ waits) executed
    constructor
    · exact core
    · intro entry mem
      rcases List.mem_append.mp mem with mem | posted
      · rcases List.mem_append.mp mem with made | mem
        · obtain ⟨item, mine, rfl⟩ := List.mem_map.mp made
          exact items item (List.mem_append_left _ mine)
        · exact within.items entry (mem_of_rest split mem)
      · exact items entry.2 (List.mem_append_right _ (List.mem_map_of_mem posted))
  | expired quiet =>
    exact grown (within_same within.core rfl rfl rfl rfl) (forall_timeouts (fun _ => trivial) fun _ => trivial)
  | closing known =>
    apply grown within.core
    simp [Task.Within]

theorem within_initial (limits : Limits) : Within limits initial := by
  constructor
  · constructor <;> simp [initial]
  · simp [initial]

end Rsp.UserServer
