import Rsp.Client.View
import Rsp.Message.Reassembly

/-! `client_session` with its socket: what it reads, what it writes and how it ends.

Everything runs on the one thread of the client's `io_context`. An asynchronous operation is
outstanding from its call to its completion, which may come after the session has stopped.
`finish` is reached from commands, frames, failed reads, failed writes and `stop`.
-/

set_option autoImplicit false

namespace Rsp.Client

open Message Foundation

/-! ## Source -/

structure Codec where
  encode : FromClient → RawBuffer
  resLogin : RawBuffer → Option ResLogin
  resLogout : RawBuffer → Option ResLogout
  resCreateRoom : RawBuffer → Option ResCreateRoom
  resJoinRoom : RawBuffer → Option ResJoinRoom
  resLeaveRoom : RawBuffer → Option ResLeaveRoom
  fwdClient : RawBuffer → Option FwdClient
  ntfLeaveRoom : RawBuffer → Option NtfLeaveRoom

def Codec.receive (self : Codec) (type : MessageType) (payload : RawBuffer) : Received :=
  if type = .kPing then .ping
  else if type = .kResLogin then .resLogin (self.resLogin payload)
  else if type = .kResLogout then .resLogout (self.resLogout payload)
  else if type = .kResCreateRoom then .resCreateRoom (self.resCreateRoom payload)
  else if type = .kResJoinRoom then .resJoinRoom (self.resJoinRoom payload)
  else if type = .kResLeaveRoom then .resLeaveRoom (self.resLeaveRoom payload)
  else if type = .kFwdClient then .fwdClient (self.fwdClient payload)
  else if type = .kNtfLeaveRoom then .ntfLeaveRoom (self.ntfLeaveRoom payload)
  else .other type

def messageType : FromClient → MessageType
  | .ping => .kPing
  | .pong => .kPong
  | .reqLogin _ => .kReqLogin
  | .reqLogout _ => .kReqLogout
  | .reqCreateRoom _ => .kReqCreateRoom
  | .reqJoinRoom _ => .kReqJoinRoom
  | .fwdRoom _ => .kFwdRoom
  | .reqLeaveRoom _ => .kReqLeaveRoom

/-- What a session does, in order: a state object hears a command or a message, a frame joins
`write_queue_`, a frame is handed to the socket, the exit handler runs. -/
inductive Event where
  | command (text : String)
  | message (received : Received)
  | queued (frame : RawBuffer)
  | written (frame : RawBuffer)
  | exited
  deriving DecidableEq, Repr

/-- A session on its socket: `writes` and `reads` are the operations outstanding there. -/
structure SocketSession where
  session : ClientSession := {}
  interpreter : ConnInterpreter Unit := {}
  writeQueue : List RawBuffer := []
  writes : List RawBuffer := []
  reads : Nat := 0
  log : List Event := []
  deriving DecidableEq, Repr

namespace SocketSession

def finish (self : SocketSession) : SocketSession :=
  if self.session.stopped then self
  else { self with session := self.session.finish, log := self.log ++ [.exited] }

/-- A transition to `kExit` ends in `finish`, which calls the exit handler. -/
def transitionTo (self : SocketSession) (next : State) : SocketSession :=
  if self.session.stopped then self
  else { self with
    session := self.session.transitionTo next
    log := if next = .kExit then self.log ++ [.exited] else self.log }

def readNext (self : SocketSession) : SocketSession :=
  if self.session.stopped then self else { self with reads := self.reads + 1 }

def writeNext (self : SocketSession) : SocketSession :=
  if self.session.stopped then self
  else
    match self.writeQueue with
    | [] => self
    | front :: _ => { self with writes := self.writes ++ [front], log := self.log ++ [.written front] }

def queueWrite (self : SocketSession) (frame : RawBuffer) : SocketSession :=
  if self.session.stopped then self
  else
    let queued := { self with writeQueue := self.writeQueue ++ [frame], log := self.log ++ [.queued frame] }
    if self.writeQueue.isEmpty then queued.writeNext else queued

/-- `send_message`; a payload that is too long throws before anything is queued. -/
def sendMessage (codec : Codec) (self : SocketSession) (message : FromClient) : SocketSession :=
  match Serializer.serialize (messageType message) (codec.encode message) with
  | .error _ => self
  | .ok frame => self.queueWrite frame

/-- The state object hears of an event and reacts. A handler that sends makes no transition, so
the exception of `send_message` skips none. -/
def react (codec : Codec) (self : SocketSession) (event : Event) (reaction : Reaction) : SocketSession :=
  let heard := { self with
    session := { self.session with state := some reaction.object, context := reaction.context }
    log := self.log ++ [event] }
  let sent := reaction.sent.foldl (sendMessage codec) heard
  match reaction.next with
  | none => sent
  | some next => sent.transitionTo next

def handleCommand (codec : Codec) (self : SocketSession) (command : String) : SocketSession :=
  if self.session.stopped then self
  else
    match self.session.state with
    | none => self
    | some object => self.react codec (.command command) (object.onCommand self.session.context command)

def dispatch (codec : Codec) (self : SocketSession) (frame : Dispatch Unit) : SocketSession :=
  if self.session.stopped then self
  else
    match self.session.state with
    | none => self
    | some object =>
        let received := codec.receive frame.type frame.payload
        self.react codec (.message received) (object.onMessage self.session.context received)

def start (self : SocketSession) : SocketSession := (self.transitionTo .kInit).readNext

def stop (self : SocketSession) : SocketSession := if self.session.stopped then self else self.transitionTo .kExit

/-- The completion of a read; `none` stands for iterators outside the reassembly buffer. -/
def handleRead (codec : Codec) (self : SocketSession) : Option BufferCall → Option SocketSession
  | none => some self.finish
  | some chunk => (self.interpreter.handleBuffer chunk.buffer chunk.len).map fun handled =>
      let dispatched := handled.dispatched.foldl (dispatch codec) { self with interpreter := handled.interpreter }
      if handled.accepted then dispatched.readNext else dispatched.transitionTo .kExit

/-- The completion of a write; `none` is `pop_front` of an empty queue. -/
def handleWrite (self : SocketSession) (error : Bool) : Option SocketSession :=
  if error then some (self.transitionTo .kExit)
  else
    match self.writeQueue with
    | [] => none
    | _ :: rest => some { self with writeQueue := rest }.writeNext

end SocketSession

inductive Label where
  | command (text : String)
  | read (chunk : Option BufferCall)
  | write (error : Bool)
  | stop
  deriving DecidableEq

def step (codec : Codec) (self : SocketSession) : Label → Option SocketSession
  | .command text => some (self.handleCommand codec text)
  | .read chunk => if self.reads = 0 then none else { self with reads := self.reads - 1 }.handleRead codec chunk
  | .write error =>
      match self.writes with
      | [] => none
      | _ :: rest => { self with writes := rest }.handleWrite error
  | .stop => some self.stop

def SocketSession.expects (self : SocketSession) : Label → Bool
  | .read _ => self.reads ≠ 0
  | .write _ => self.writes ≠ []
  | .command _ | .stop => true

abbrev History := List (Transition SocketSession Label)

def initial : SocketSession := SocketSession.start {}

abbrev Reaches (codec : Codec) (history : History) (client : SocketSession) : Prop :=
  Run (step codec) initial history client

/-! ## Writes and the end -/

def Event.queues : Event → Option RawBuffer
  | .queued frame => some frame
  | _ => none

def Event.writes : Event → Option RawBuffer
  | .written frame => some frame
  | _ => none

def Event.heard : Event → Prop
  | .command _ | .message _ => True
  | _ => False

/-- What holds at every point of a handler. A session that has stopped has called its exit handler and
done nothing since; until then the head of the queue is being written. -/
structure Wired (client : SocketSession) : Prop where
  stops : client.session.stopped = decide (client.session.currentState = .kExit)
  owns : client.session.stopped = false → ∀ object, client.session.state = some object →
    object.state = client.session.currentState
  running : client.session.stopped = false → .exited ∉ client.log
  ended : client.session.stopped = true → ∃ past, client.log = past ++ [.exited] ∧ .exited ∉ past
  outstanding : client.writes = [] ∨ ∃ frame, client.writes = [frame] ∧ client.writeQueue.head? = some frame
  writing : client.session.stopped = false → client.writes = client.writeQueue.head?.toList ∧
    client.log.filterMap Event.queues = client.log.filterMap Event.writes ++ client.writeQueue.tail
  pending : scanFrame client.interpreter.buffer = .incomplete

section Wired

variable {client : SocketSession}

theorem wired_initial : Wired initial where
  stops := rfl
  owns _ object owned := by
    cases owned
    rfl
  running _ := by
    simp [initial, SocketSession.start, SocketSession.transitionTo, SocketSession.readNext, ClientSession.transitionTo]
  ended stopped := by cases stopped
  outstanding := .inl rfl
  writing _ := ⟨rfl, rfl⟩
  pending := rfl

theorem wired_exited (wired : Wired client) (going : client.session.stopped = false) {session : ClientSession}
    (stopped : session.stopped = true) (left : session.currentState = .kExit) :
    Wired { client with session, log := client.log ++ [.exited] } where
  stops := by simp [stopped, left]
  owns running := by simp [stopped] at running
  running running := by simp [stopped] at running
  ended _ := ⟨client.log, rfl, wired.running going⟩
  outstanding := wired.outstanding
  writing running := by simp [stopped] at running
  pending := wired.pending

theorem wired_finish (wired : Wired client) : Wired client.finish := by
  unfold SocketSession.finish
  split
  · exact wired
  · next going =>
    have going : client.session.stopped = false := by simpa using going
    apply wired_exited wired going <;> simp [ClientSession.finish, going]

theorem wired_transition (wired : Wired client) (next : State) : Wired (client.transitionTo next) := by
  unfold SocketSession.transitionTo
  split
  · exact wired
  · next going =>
    have going : client.session.stopped = false := by simpa using going
    by_cases leaving : next = .kExit
    · rw [if_pos leaving]
      apply wired_exited wired going <;>
        simp [ClientSession.transitionTo, ClientSession.finish, going, leaving]
    · have entered : client.session.transitionTo next =
          { client.session with currentState := next, state := some { state := next } } := by
        simp [ClientSession.transitionTo, going, leaving]
      rw [if_neg leaving, entered]
      constructor
      case stops => simp [going, leaving]
      case owns =>
        intro _ object owned
        cases owned
        rfl
      case running => exact wired.running
      case ended => exact wired.ended
      case outstanding => exact wired.outstanding
      case writing => exact wired.writing
      case pending => exact wired.pending

theorem wired_queueWrite (wired : Wired client) (frame : RawBuffer) : Wired (client.queueWrite frame) := by
  unfold SocketSession.queueWrite SocketSession.writeNext
  split
  · exact wired
  · next going =>
    have going : client.session.stopped = false := by simpa using going
    obtain ⟨writes, queued⟩ := wired.writing going
    cases queue : client.writeQueue with
    | nil =>
      -- Nothing is being written, so the frame goes straight to the socket.
      rw [queue] at writes queued
      simp only [List.isEmpty_nil, going, Bool.false_eq_true, if_false, if_true, List.nil_append]
      constructor
      case stops => exact wired.stops
      case owns => exact wired.owns
      case running => simpa [going] using wired.running going
      case ended => simp [going]
      case outstanding => exact .inr ⟨frame, by simp [writes], rfl⟩
      case writing => simpa [going, writes, Event.queues, Event.writes, List.filterMap_cons] using queued
      case pending => exact wired.pending
    | cons front rest =>
      rw [queue] at writes queued
      simp only [List.isEmpty_cons, Bool.false_eq_true, if_false]
      constructor
      case stops => exact wired.stops
      case owns => exact wired.owns
      case running => simpa [going] using wired.running going
      case ended => simp [going]
      case outstanding => exact .inr ⟨front, by simp [writes], rfl⟩
      case writing => simp [going, writes, Event.queues, Event.writes, queued]
      case pending => exact wired.pending

theorem wired_sendMessage (wired : Wired client) (codec : Codec) (message : FromClient) :
    Wired (client.sendMessage codec message) := by
  unfold SocketSession.sendMessage
  split
  · exact wired
  · exact wired_queueWrite wired _

theorem wired_sent (codec : Codec) (messages : List FromClient) (wired : Wired client) :
    Wired (messages.foldl (SocketSession.sendMessage codec) client) := by
  induction messages generalizing client with
  | nil => exact wired
  | cons message rest ih => exact ih (wired_sendMessage wired codec message)

/-- An object of the current state hears of an event and reacts with an object of its class. -/
theorem wired_react (wired : Wired client) (codec : Codec) {event : Event} (heard : event.heard) {reaction : Reaction}
    (going : client.session.stopped = false) (kept : reaction.object.state = client.session.currentState) :
    Wired (client.react codec event reaction) := by
  have hears : Wired { client with
      session := { client.session with state := some reaction.object, context := reaction.context }
      log := client.log ++ [event] } := by
    have silent : event.queues = none ∧ event.writes = none ∧ event ≠ .exited := by
      cases event <;> simp_all [Event.heard, Event.queues, Event.writes]
    constructor
    case stops => exact wired.stops
    case owns =>
      intro _ object owned
      cases owned
      exact kept
    case running =>
      intro _
      simpa [Ne.symm silent.2.2] using wired.running going
    case ended => simp [going]
    case outstanding => exact wired.outstanding
    case writing => simpa [silent, going] using wired.writing going
    case pending => exact wired.pending
  unfold SocketSession.react
  have sent := wired_sent codec reaction.sent hears
  split
  · exact sent
  · exact wired_transition sent _

theorem onMessage_keeps (object : StateObject) (context : Context) (received : Received) :
    (object.onMessage context received).object.state = object.state := by
  unfold StateObject.onMessage StateObject.onMessageInit StateObject.onMessageLogin StateObject.onMessageInRoom
    StateObject.onMessageBase StateObject.handleResLogout StateObject.handleEntered StateObject.handleNtfLeaveRoom
    StateObject.handleResLeaveRoom
  (repeat' split) <;> rfl

theorem wired_command (wired : Wired client) (codec : Codec) (command : String) :
    Wired (client.handleCommand codec command) := by
  unfold SocketSession.handleCommand
  split
  · exact wired
  · next going =>
    have going : client.session.stopped = false := by simpa using going
    split
    · exact wired
    · next object owned =>
      have heard : (Event.command command).heard := trivial
      apply wired_react wired codec heard going
      rw [(ClientSession.onCommand_keeps object _ command).2.2, wired.owns going object owned]

theorem wired_dispatch (codec : Codec) (wired : Wired client) (frame : Dispatch Unit) :
    Wired (client.dispatch codec frame) := by
  unfold SocketSession.dispatch
  split
  · exact wired
  · next going =>
    have going : client.session.stopped = false := by simpa using going
    split
    · exact wired
    · next object owned =>
      have heard : (Event.message (codec.receive frame.type frame.payload)).heard := trivial
      apply wired_react wired codec heard going
      rw [onMessage_keeps, wired.owns going object owned]

end Wired

/-! ## Rooms -/

def Roomless (state : State) (context : Context) : Prop :=
  state = .kInit ∨ state = .kLoggedIn → context.roomId = 0

/-- A handler leaves no room to the state it stays in, nor to the one it goes to. -/
theorem onMessage_roomless (object : StateObject) (context : Context) (received : Received)
    (roomless : Roomless object.state context) :
    Roomless ((object.onMessage context received).next.getD object.state) (object.onMessage context received).context := by
  have inRoom : ∀ context, Roomless .kInRoom context := by
    rintro context (h | h) <;> cases h
  have exit : ∀ context, Roomless .kExit context := by
    rintro context (h | h) <;> cases h
  obtain ⟨state, requestId, awaiting, pending⟩ := object
  cases state with
  | kInit =>
    have zero : context.roomId = 0 := roomless (.inl rfl)
    cases received with
    | resLogin parsed => cases parsed <;> exact fun _ => zero
    | _ => exact fun _ => zero
  | kLoggedIn =>
    have zero : context.roomId = 0 := roomless (.inr rfl)
    cases received with
    | resLogout parsed => cases parsed <;> exact fun _ => zero
    | resCreateRoom parsed | resJoinRoom parsed =>
      cases parsed with
      | none => exact fun _ => zero
      | some response =>
        obtain ⟨requestId, success, roomId⟩ := response
        cases success with
        | false => exact fun _ => zero
        | true => exact inRoom _
    | _ => exact fun _ => zero
  | kInRoom =>
    cases received with
    | resLogout parsed =>
      cases parsed with
      | none => exact inRoom _
      | some response => exact exit _
    | ntfLeaveRoom parsed =>
      cases parsed with
      | none => exact inRoom _
      | some notification => exact fun _ => rfl
    | resLeaveRoom parsed =>
      cases parsed with
      | none => exact inRoom _
      | some response =>
        obtain ⟨requestId, success⟩ := response
        cases success with
        | false => exact inRoom _
        | true => exact fun _ => rfl
    | ping | fwdClient parsed => exact inRoom _
    | _ => exact exit _
  | kExit => cases received <;> exact exit _

section Rooms

variable {client : SocketSession}

theorem session_writeNext : client.writeNext.session = client.session := by
  unfold SocketSession.writeNext
  (repeat' split) <;> rfl

theorem session_sendMessage (codec : Codec) (message : FromClient) :
    (client.sendMessage codec message).session = client.session := by
  unfold SocketSession.sendMessage SocketSession.queueWrite
  split
  · rfl
  · split
    · rfl
    · dsimp only
      split
      · exact session_writeNext
      · rfl

theorem session_sent (codec : Codec) (messages : List FromClient) :
    (messages.foldl (SocketSession.sendMessage codec) client).session = client.session := by
  induction messages generalizing client with
  | nil => rfl
  | cons message rest ih => exact ih.trans (session_sendMessage codec message)

theorem session_transition (next : State) : (client.transitionTo next).session = client.session.transitionTo next := by
  unfold SocketSession.transitionTo
  split
  · next stopped => simp [ClientSession.transitionTo, stopped]
  · rfl

theorem session_finish : client.finish.session = client.session.finish := by
  unfold SocketSession.finish
  split
  · next stopped => simp [ClientSession.finish, stopped]
  · rfl

theorem session_react (codec : Codec) (event : Event) (reaction : Reaction) :
    (client.react codec event reaction).session = client.session.settle reaction := by
  unfold SocketSession.react ClientSession.settle
  cases reaction.next with
  | none => rw [session_sent]
  | some next => rw [session_transition, session_sent]

theorem session_command (codec : Codec) (command : String) :
    (client.handleCommand codec command).session = (client.session.handleCommand command).1 := by
  unfold SocketSession.handleCommand ClientSession.handleCommand
  cases stopped : client.session.stopped with
  | true => rfl
  | false =>
    cases owned : client.session.state with
    | none => rfl
    | some object => exact session_react codec _ _

theorem session_dispatch (codec : Codec) (frame : Dispatch Unit) :
    (client.dispatch codec frame).session =
      (client.session.dispatch (codec.receive frame.type frame.payload)).1 := by
  unfold SocketSession.dispatch ClientSession.dispatch
  cases stopped : client.session.stopped with
  | true => rfl
  | false =>
    cases owned : client.session.state with
    | none => rfl
    | some object => exact session_react codec _ _

theorem roomless_exit (context : Context) : Roomless .kExit context := by
  rintro (h | h) <;> cases h

theorem roomless_transition {session : ClientSession} (roomless : Roomless session.currentState session.context)
    {next : State} (target : Roomless next session.context) :
    Roomless (session.transitionTo next).currentState (session.transitionTo next).context := by
  unfold ClientSession.transitionTo
  split
  · exact roomless
  · next going =>
    by_cases leaving : next = .kExit
    · simpa [leaving, ClientSession.finish, going] using roomless_exit _
    · simpa [leaving] using target

theorem roomless_finish {session : ClientSession} (roomless : Roomless session.currentState session.context) :
    Roomless session.finish.currentState session.finish.context := by
  unfold ClientSession.finish
  split
  · exact roomless
  · exact roomless_exit _

theorem roomless_settle {session : ClientSession} {reaction : Reaction} (going : session.stopped = false)
    (outcome : Roomless (reaction.next.getD session.currentState) reaction.context) :
    Roomless (session.settle reaction).currentState (session.settle reaction).context := by
  unfold ClientSession.settle
  cases next : reaction.next with
  | none =>
    rw [next] at outcome
    exact outcome
  | some target =>
    rw [next] at outcome
    by_cases leaving : target = .kExit
    · simpa [leaving, ClientSession.transitionTo, ClientSession.finish, going] using roomless_exit _
    · simpa [leaving, ClientSession.transitionTo, going] using outcome

end Rooms

/-! ## Whole runs -/

structure Intact (client : SocketSession) : Prop where
  wired : Wired client
  roomless : Roomless client.session.currentState client.session.context

section Step

variable {codec : Codec} {client after : SocketSession}

theorem intact_command (intact : Intact client) (command : String) : Intact (client.handleCommand codec command) where
  wired := wired_command intact.wired codec command
  roomless := by
    rw [session_command, ClientSession.handleCommand]
    cases stopped : client.session.stopped with
    | true => exact intact.roomless
    | false =>
      cases owned : client.session.state with
      | none => exact intact.roomless
      | some object =>
        obtain ⟨next, context, -⟩ := ClientSession.onCommand_keeps object client.session.context command
        apply roomless_settle stopped
        rw [next, context]
        exact intact.roomless

theorem intact_dispatch (intact : Intact client) (frame : Dispatch Unit) : Intact (client.dispatch codec frame) where
  wired := wired_dispatch codec intact.wired frame
  roomless := by
    rw [session_dispatch, ClientSession.dispatch]
    cases stopped : client.session.stopped with
    | true => exact intact.roomless
    | false =>
      cases owned : client.session.state with
      | none => exact intact.roomless
      | some object =>
        have state := intact.wired.owns stopped object owned
        apply roomless_settle stopped
        rw [← state]
        apply onMessage_roomless
        rw [state]
        exact intact.roomless

theorem intact_dispatched (codec : Codec) (frames : List (Dispatch Unit)) (intact : Intact client) :
    Intact (frames.foldl (SocketSession.dispatch codec) client) := by
  induction frames generalizing client with
  | nil => exact intact
  | cons frame rest ih => exact ih (intact_dispatch intact frame)

theorem intact_exit (intact : Intact client) : Intact (client.transitionTo .kExit) where
  wired := wired_transition intact.wired .kExit
  roomless := by
    rw [session_transition]
    exact roomless_transition intact.roomless (roomless_exit _)

theorem intact_finish (intact : Intact client) : Intact client.finish where
  wired := wired_finish intact.wired
  roomless := by
    rw [session_finish]
    exact roomless_finish intact.roomless

theorem intact_reads (intact : Intact client) (reads : Nat) : Intact { client with reads } :=
  ⟨⟨intact.wired.stops, intact.wired.owns, intact.wired.running, intact.wired.ended, intact.wired.outstanding,
    intact.wired.writing, intact.wired.pending⟩, intact.roomless⟩

theorem intact_readNext (intact : Intact client) : Intact client.readNext := by
  unfold SocketSession.readNext
  split
  · exact intact
  · exact intact_reads intact _

theorem intact_read (intact : Intact client) (codec : Codec) (chunk : Option BufferCall) :
    ∃ after, client.handleRead codec chunk = some after ∧ Intact after := by
  cases chunk with
  | none => exact ⟨_, rfl, intact_finish intact⟩
  | some call =>
    obtain ⟨handled, returns, pending, -⟩ := client.interpreter.handleBuffer_pending call intact.wired.pending
    have taken : Intact { client with interpreter := handled.interpreter } :=
      ⟨⟨intact.wired.stops, intact.wired.owns, intact.wired.running, intact.wired.ended, intact.wired.outstanding,
        intact.wired.writing, pending⟩, intact.roomless⟩
    have dispatched := intact_dispatched codec handled.dispatched taken
    refine ⟨_, by simp only [SocketSession.handleRead, returns, Option.map_some]; rfl, ?_⟩
    split
    · exact intact_readNext dispatched
    · exact intact_exit dispatched

theorem intact_stopped (intact : Intact client) (stopped : client.session.stopped = true) (writeQueue : List RawBuffer) :
    Intact { client with writes := [], writeQueue } where
  roomless := intact.roomless
  wired := by
    constructor
    case stops => exact intact.wired.stops
    case owns => exact intact.wired.owns
    case running => exact intact.wired.running
    case ended => exact intact.wired.ended
    case outstanding => exact .inl rfl
    case writing => simp [stopped]
    case pending => exact intact.wired.pending

theorem intact_unwritten (intact : Intact client) :
    Intact (({ client with writes := [] } : SocketSession).transitionTo .kExit) := by
  have ended : (client.transitionTo .kExit).session.stopped = true := by
    rw [session_transition, ClientSession.transitionTo]
    split
    · assumption
    · next going => simp [ClientSession.finish, going]
  have same : ({ client with writes := [] } : SocketSession).transitionTo .kExit =
      { client.transitionTo .kExit with writes := [], writeQueue := (client.transitionTo .kExit).writeQueue } := by
    unfold SocketSession.transitionTo
    split <;> rfl
  rw [same]
  exact intact_stopped (intact_exit intact) ended _

/-- The head of the queue is written, and the one behind it is handed to the socket. -/
theorem intact_written (intact : Intact client) {frame : RawBuffer} {queue : List RawBuffer}
    (front : client.writeQueue = frame :: queue) :
    Intact ({ client with writes := [], writeQueue := queue } : SocketSession).writeNext := by
  cases going : client.session.stopped with
  | true =>
    have still : ({ client with writes := [], writeQueue := queue } : SocketSession).writeNext =
        { client with writes := [], writeQueue := queue } := by
      simp [SocketSession.writeNext, going]
    rw [still]
    exact intact_stopped intact going queue
  | false =>
    obtain ⟨-, queued⟩ := intact.wired.writing going
    rw [front, List.tail_cons] at queued
    constructor
    case roomless =>
      rw [session_writeNext]
      exact intact.roomless
    case wired =>
      cases queue with
      | nil =>
        simp only [SocketSession.writeNext, going, Bool.false_eq_true, if_false]
        exact ⟨intact.wired.stops, intact.wired.owns, intact.wired.running, intact.wired.ended, .inl rfl,
          fun _ => ⟨rfl, queued⟩, intact.wired.pending⟩
      | cons next more =>
        simp only [SocketSession.writeNext, going, Bool.false_eq_true, if_false, List.nil_append]
        constructor
        case stops => exact intact.wired.stops
        case owns => exact intact.wired.owns
        case running => simpa [going] using intact.wired.running going
        case ended => simp [going]
        case outstanding => exact .inr ⟨next, rfl, rfl⟩
        case writing => simp [Event.queues, Event.writes, queued]
        case pending => exact intact.wired.pending

theorem intact_write (intact : Intact client) {frame : RawBuffer} {rest : List RawBuffer} (error : Bool)
    (outstanding : client.writes = frame :: rest) :
    ∃ after, ({ client with writes := rest } : SocketSession).handleWrite error = some after ∧ Intact after := by
  rcases intact.wired.outstanding with none | ⟨head, single, queue⟩
  · rw [none] at outstanding
    cases outstanding
  · rw [single] at outstanding
    cases outstanding
    cases error with
    | true => exact ⟨_, rfl, intact_unwritten intact⟩
    | false =>
      cases front : client.writeQueue with
      | nil => simp [front] at queue
      | cons first more =>
        refine ⟨_, ?_, intact_written intact front⟩
        simp [SocketSession.handleWrite]

theorem intact_step (intact : Intact client) (codec : Codec) {label : Label} (expected : client.expects label = true) :
    ∃ after, step codec client label = some after ∧ Intact after := by
  cases label with
  | command text => exact ⟨_, rfl, intact_command intact text⟩
  | read chunk =>
    have some_read : client.reads ≠ 0 := by simpa [SocketSession.expects] using expected
    rw [step, if_neg some_read]
    exact intact_read (intact_reads intact _) codec chunk
  | write error =>
    cases outstanding : client.writes with
    | nil => simp [SocketSession.expects, outstanding] at expected
    | cons frame rest =>
      simp only [step, outstanding]
      exact intact_write intact error outstanding
  | stop =>
    refine ⟨_, rfl, ?_⟩
    unfold SocketSession.stop
    split
    · exact intact
    · exact intact_exit intact

theorem expects_of_step {label : Label} (moved : step codec client label = some after) :
    client.expects label = true := by
  cases label with
  | command | stop => rfl
  | read chunk =>
    by_cases none : client.reads = 0
    · simp [step, none] at moved
    · simpa [SocketSession.expects] using none
  | write error =>
    cases outstanding : client.writes with
    | nil => simp [step, outstanding] at moved
    | cons frame rest => simp [SocketSession.expects, outstanding]

theorem intact_reached {history : History} (run : Reaches codec history client) : Intact client := by
  apply run.history fun _ client => Intact client
  · exact ⟨wired_initial, fun _ => rfl⟩
  · intro past move reached intact moved mem
    obtain ⟨after, moves, intact⟩ := intact_step intact codec (expects_of_step moved)
    cases moves.symm.trans moved
    exact intact

/-! ## A stopped session -/

theorem dispatched_stopped (frames : List (Dispatch Unit)) (stopped : client.session.stopped = true) :
    frames.foldl (SocketSession.dispatch codec) client = client := by
  induction frames with
  | nil => rfl
  | cons frame rest ih =>
    have ignored : client.dispatch codec frame = client := by simp [SocketSession.dispatch, stopped]
    rw [List.foldl_cons, ignored, ih]

theorem session_stopped {label : Label} (stopped : client.session.stopped = true)
    (moved : step codec client label = some after) : after.session = client.session := by
  cases label with
  | command text =>
    cases moved
    simp [SocketSession.handleCommand, stopped]
  | stop =>
    cases moved
    simp [SocketSession.stop, stopped]
  | read chunk =>
    simp only [step] at moved
    split at moved
    · cases moved
    · cases chunk with
      | none =>
        cases moved
        simp [SocketSession.finish, stopped]
      | some call =>
        obtain ⟨handled, returns, rfl⟩ := Option.map_eq_some_iff.mp moved
        dsimp only
        rw [dispatched_stopped]
        · split
          · simp [SocketSession.readNext, stopped]
          · simp [SocketSession.transitionTo, stopped]
        · exact stopped
  | write error =>
    simp only [step] at moved
    split at moved
    · cases moved
    · cases error with
      | true =>
        cases moved
        simp [SocketSession.transitionTo, stopped]
      | false =>
        simp only [SocketSession.handleWrite, Bool.false_eq_true, if_false] at moved
        split at moved
        · cases moved
        · cases moved
          exact session_writeNext

end Step

/-- The exit handler runs once, when the session stops, and nothing happens after it. -/
theorem exited_last {client : SocketSession} (wired : Wired client) :
    client.log.count .exited ≤ 1 ∧ (.exited ∈ client.log ↔ client.session.stopped = true) ∧
      ∀ past later, client.log = past ++ .exited :: later → later = [] := by
  cases stopped : client.session.stopped with
  | false =>
    have never := wired.running stopped
    refine ⟨by simp [List.count_eq_zero_of_not_mem never], by simp [never], ?_⟩
    intro past later log
    simp [log] at never
  | true =>
    obtain ⟨before, ends, unexited⟩ := wired.ended stopped
    refine ⟨by simp [ends, List.count_append, List.count_eq_zero_of_not_mem unexited], by simp [ends], ?_⟩
    intro past later log
    -- Were something later, this exit would be among what precedes the last event.
    rcases List.eq_nil_or_concat later with none | ⟨some_later, last, rfl⟩
    · exact none
    · have cut : past ++ .exited :: some_later ++ [last] = before ++ [.exited] := by
        rw [← ends, log]
        simp
      rw [← (List.append_inj' cut rfl).1] at unexited
      simp at unexited

/-- A client session ends once and for good: its exit handler runs at most once, exactly when it stops, and is
the last thing it does. Until then the socket is handed the queued frames in order, one at a time. Before it
is in a room it has none, and every event that can occur is handled. -/
theorem client_session_runs {codec : Codec} {history : History} {client : SocketSession}
    (run : Reaches codec history client) :
    (∀ move ∈ history, move.before.session.currentState = .kExit → move.after.session.currentState = .kExit) ∧
    (client.session.stopped = true ↔ client.session.currentState = .kExit) ∧
    client.log.count .exited ≤ 1 ∧ (.exited ∈ client.log ↔ client.session.stopped = true) ∧
    (∀ past later, client.log = past ++ .exited :: later → later = []) ∧
    (client.session.currentState = .kInit ∨ client.session.currentState = .kLoggedIn →
      client.session.context.roomId = 0) ∧
    (client.session.stopped = false → client.writes = client.writeQueue.head?.toList ∧
      client.log.filterMap Event.queues = client.log.filterMap Event.writes ++ client.writeQueue.tail) ∧
    ∀ label, client.expects label = true → (step codec client label).isSome = true := by
  have intact := intact_reached run
  obtain ⟨once, iff, last⟩ := exited_last intact.wired
  refine ⟨?_, ?_, once, iff, last, intact.roomless, intact.wired.writing, ?_⟩
  · intro move mem left
    obtain ⟨earlier, later, cut⟩ := List.append_of_mem mem
    obtain ⟨reached, moved, -⟩ := run.split cut
    have stopped : move.before.session.stopped = true := by simp [(intact_reached reached).wired.stops, left]
    rw [session_stopped stopped moved, left]
  · simp [intact.wired.stops]
  · intro label expected
    obtain ⟨after, moved, -⟩ := intact_step intact codec expected
    rw [moved]
    rfl

def emptyCodec : Codec where
  encode _ := []
  resLogin _ := some {}
  resLogout _ := some {}
  resCreateRoom _ := some { success := true, roomId := 42 }
  resJoinRoom _ := some {}
  resLeaveRoom _ := some { success := true }
  fwdClient _ := some {}
  ntfLeaveRoom _ := some {}

def chunkOf (types : List MessageType) : BufferCall :=
  let bytes := types.flatMap fun type => msetBe 4 (List.replicate 8 0) type.value
  ⟨Vector.ofFn fun index => bytes.getD index 0, bytes.length⟩

def logsOut : List Label :=
  [.command "alice", .read (some (chunkOf [.kResLogin, .kResLogout, .kPing])), .write false, .stop, .command "again"]

theorem client_session_runs_logsOut :
    (final (step emptyCodec) initial logsOut).session.stopped = true ∧
      (final (step emptyCodec) initial logsOut).log.count .exited ≤ 1 ∧
      .message .ping ∉ (final (step emptyCodec) initial logsOut).log := by
  have run : Reaches emptyCodec _ (final (step emptyCodec) initial logsOut) := run_of_enabled (by decide +kernel)
  have stopped : (final (step emptyCodec) initial logsOut).session.stopped = true := by decide +kernel
  exact ⟨stopped, (client_session_runs run).2.2.1, by decide +kernel⟩

end Rsp.Client
