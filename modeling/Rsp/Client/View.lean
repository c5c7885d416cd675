import Rsp.Client.State

/-! What the frames of the User server make of a client.

A frame moves the client by its type and its outcome only. `View` says how, without the
objects, and `dispatch` follows it; a frame the current state does not handle ends the
client.
-/

set_option autoImplicit false

namespace Rsp.Client

open Message

structure View where
  state : State
  roomId : RoomId
  deriving DecidableEq, Repr

namespace View

def exited : View := ⟨.kExit, 0⟩

def read (self : View) (frame : ToClient) : View :=
  match self.state, frame with
  | .kInit, .resLogin _ => { self with state := .kLoggedIn }
  | .kLoggedIn, .resCreateRoom response => if response.success then ⟨.kInRoom, response.roomId⟩ else self
  | .kLoggedIn, .resJoinRoom response => if response.success then ⟨.kInRoom, response.roomId⟩ else self
  | .kInRoom, .fwdClient _ => self
  | .kInRoom, .ntfLeaveRoom _ => ⟨.kLoggedIn, 0⟩
  | .kInRoom, .resLeaveRoom response => if response.success then ⟨.kLoggedIn, 0⟩ else self
  | _, _ => exited

def goesOn (self : View) (frame : ToClient) : Bool := self.state ≠ .kExit ∧ (self.read frame).state ≠ .kExit

theorem read_exited (frame : ToClient) : exited.read frame = exited := rfl

end View

def received : ToClient → Received
  | .pong => .other .kPong
  | .resLogin message => .resLogin (some message)
  | .resLogout message => .resLogout (some message)
  | .resCreateRoom message => .resCreateRoom (some message)
  | .resJoinRoom message => .resJoinRoom (some message)
  | .resLeaveRoom message => .resLeaveRoom (some message)
  | .fwdClient message => .fwdClient (some message)
  | .ntfLeaveRoom message => .ntfLeaveRoom (some message)

namespace ClientSession

variable {self : ClientSession}

def view (self : ClientSession) : View := ⟨self.currentState, self.context.roomId⟩

/-- The session owns an object of its current state, and has stopped once that is `kExit`. -/
structure Sound (session : ClientSession) : Prop where
  stops : session.stopped = decide (session.currentState = .kExit)
  owns : ∃ object, session.state = some object ∧ object.state = session.currentState
  left : session.currentState = .kExit → session.view = .exited

theorem sound_start : Sound (start {}) where
  stops := rfl
  owns := ⟨_, rfl, rfl⟩
  left := nofun

theorem sound_transition (running : self.stopped = false) (next : State) :
    Sound (self.transitionTo next) ∧ (self.transitionTo next).view =
      if next = .kExit then .exited else ⟨next, self.context.roomId⟩ := by
  have entered : self.transitionTo next =
      if next = .kExit then { self with currentState := .kExit, state := some { state := .kExit }, context := {}, stopped := true }
      else { self with currentState := next, state := some { state := next } } := by
    simp only [transitionTo, finish, running, Bool.false_eq_true, if_false]
    by_cases leaving : next = .kExit
    · subst leaving
      rfl
    · simp only [leaving, if_false]
  rw [entered]
  by_cases leaving : next = .kExit
  · rw [if_pos leaving, if_pos leaving]
    exact ⟨⟨rfl, ⟨_, rfl, rfl⟩, fun _ => rfl⟩, rfl⟩
  · rw [if_neg leaving, if_neg leaving]
    exact ⟨⟨by simpa [leaving] using running, ⟨_, rfl, rfl⟩, fun left => absurd left leaving⟩, rfl⟩

/-- A handler that keeps its class leaves a sound session, in the state of its transition. -/
theorem sound_settle (sound : Sound self) (running : self.stopped = false) {reaction : Reaction}
    (class' : reaction.object.state = self.currentState) :
    Sound (self.settle reaction) ∧ (self.settle reaction).view = match reaction.next with
      | none => ⟨self.currentState, reaction.context.roomId⟩
      | some next => if next = .kExit then .exited else ⟨next, reaction.context.roomId⟩ := by
  unfold settle
  cases reaction.next with
  | none =>
    have staying : self.currentState ≠ .kExit := by simpa [running] using sound.stops
    exact ⟨⟨sound.stops, ⟨_, rfl, class'⟩, fun left => absurd left staying⟩, rfl⟩
  | some next =>
    have settled : ({ self with state := some reaction.object, context := reaction.context } : ClientSession).stopped =
        false := running
    exact sound_transition settled next

theorem onCommand_keeps (object : StateObject) (context : Context) (command : String) :
    (object.onCommand context command).next = none ∧ (object.onCommand context command).context = context ∧
      (object.onCommand context command).object.state = object.state := by
  unfold StateObject.onCommand StateObject.onCommandInit StateObject.onCommandLogin StateObject.onCommandInRoom
  (repeat' split) <;> exact ⟨rfl, rfl, rfl⟩

theorem sound_command (sound : Sound self) (command : String) :
    Sound (self.handleCommand command).1 ∧ (self.handleCommand command).1.view = self.view := by
  obtain ⟨object, owned, state⟩ := sound.owns
  cases running : self.stopped with
  | true => simpa [handleCommand, running] using sound
  | false =>
    obtain ⟨next, context, kept⟩ := onCommand_keeps object self.context command
    have settled := sound_settle sound running (kept.trans state)
    simp only [handleCommand, running, owned, Bool.false_eq_true, if_false]
    rw [next, context] at settled
    exact settled

theorem onMessage_view (object : StateObject) (context : Context) (frame : ToClient) :
    (object.onMessage context (received frame)).object.state = object.state ∧
      (match (object.onMessage context (received frame)).next with
        | none => (⟨object.state, (object.onMessage context (received frame)).context.roomId⟩ : View)
        | some next => if next = .kExit then .exited
            else ⟨next, (object.onMessage context (received frame)).context.roomId⟩) =
      View.read ⟨object.state, context.roomId⟩ frame := by
  obtain ⟨state, requestId, awaiting, pending⟩ := object
  -- The classes differ in the types they handle; the outcome of a response decides the rest.
  cases state with
  | kInit | kExit => cases frame <;> exact ⟨rfl, rfl⟩
  | kLoggedIn =>
    cases frame with
    | resCreateRoom response | resJoinRoom response =>
      obtain ⟨requestId, success, roomId⟩ := response
      cases success <;> exact ⟨rfl, rfl⟩
    | _ => exact ⟨rfl, rfl⟩
  | kInRoom =>
    cases frame with
    | resLeaveRoom response =>
      obtain ⟨requestId, success⟩ := response
      cases success <;> exact ⟨rfl, rfl⟩
    | _ => exact ⟨rfl, rfl⟩

theorem sound_dispatch (sound : Sound self) (frame : ToClient) :
    Sound (self.dispatch (received frame)).1 ∧
      (self.dispatch (received frame)).1.view = self.view.read frame := by
  obtain ⟨object, owned, state⟩ := sound.owns
  cases running : self.stopped with
  | true =>
    have left : self.currentState = .kExit := by simpa [running] using sound.stops
    simp only [dispatch, running, if_true, sound.left left]
    exact ⟨sound, rfl⟩
  | false =>
    obtain ⟨kept, read⟩ := onMessage_view object self.context frame
    have settled := sound_settle sound running (kept.trans state)
    simp only [dispatch, running, owned, Bool.false_eq_true, if_false]
    rw [state] at read
    rw [read] at settled
    exact settled

end ClientSession

/-! ## What a state handles -/

namespace State

def handles : State → ToClient → Bool
  | .kInit, .resLogin _ => true
  | .kLoggedIn, .resLogout _ | .kLoggedIn, .resCreateRoom _ | .kLoggedIn, .resJoinRoom _ => true
  | .kInRoom, .resLogout _ | .kInRoom, .fwdClient _ | .kInRoom, .ntfLeaveRoom _ | .kInRoom, .resLeaveRoom _ => true
  | _, _ => false

/-- The requests whose reply the state handles. A client that has left reads nothing. -/
def awaits : State → FromClient → Bool
  | .kInit, .reqLogin _ => true
  | .kLoggedIn, .reqLogout _ | .kLoggedIn, .reqCreateRoom _ | .kLoggedIn, .reqJoinRoom _ => true
  | .kInRoom, .reqLogout _ | .kInRoom, .reqLeaveRoom _ => true
  | .kExit, _ => true
  | _, _ => false

end State

theorem read_handled {view : View} {frame : ToClient} (handled : view.state.handles frame = true)
    (left : (view.read frame).state = .kExit) : ∃ response, frame = .resLogout response := by
  obtain ⟨state, roomId⟩ := view
  cases state <;> cases frame <;> first
    | exact ⟨_, rfl⟩
    | cases handled; done
    | cases left
    | simp only [View.read] at left; split at left <;> cases left

def Follows : View → List ToClient → Prop
  | _, [] => True
  | view, frame :: rest => (view.state = .kExit ∨ view.state.handles frame = true) ∧ Follows (view.read frame) rest

theorem follows_concat {view : View} {frames : List ToClient} {frame : ToClient} (follows : Follows view frames)
    (fits : (frames.foldl View.read view).state = .kExit ∨ (frames.foldl View.read view).state.handles frame = true) :
    Follows view (frames ++ [frame]) := by
  induction frames generalizing view with
  | nil => exact ⟨fits, trivial⟩
  | cons first rest ih => exact ⟨follows.1, ih follows.2 fits⟩

namespace ClientSession

variable {self : ClientSession}

theorem dispatch_silent (self : ClientSession) (frame : ToClient) : (self.dispatch (received frame)).2 = [] := by
  have silent : ∀ (object : StateObject) (context : Context),
      (object.onMessage context (received frame)).sent = [] := by
    intro object context
    obtain ⟨state, requestId, awaiting, pending⟩ := object
    cases state with
    | kLoggedIn =>
      cases frame with
      | resCreateRoom response | resJoinRoom response =>
        obtain ⟨requestId, success, roomId⟩ := response
        cases success <;> rfl
      | _ => rfl
    | kInRoom =>
      cases frame with
      | resLeaveRoom response =>
        obtain ⟨requestId, success⟩ := response
        cases success <;> rfl
      | _ => rfl
    | _ => cases frame <;> rfl
  unfold dispatch
  split
  · rfl
  · split
    · rfl
    · exact silent _ _

/-- A command sends at most one message: a chat message, or a request whose reply the state handles. -/
theorem command_sends (sound : Sound self) (command : String) :
    (self.handleCommand command).2 = [] ∨ ∃ message, (self.handleCommand command).2 = [message] ∧
      ((∃ chat, message = .fwdRoom chat) ∨ self.currentState.awaits message = true ∧ message ≠ .ping) := by
  obtain ⟨object, owned, state⟩ := sound.owns
  have sends : (object.onCommand self.context command).sent = [] ∨
      ∃ message, (object.onCommand self.context command).sent = [message] ∧
        ((∃ chat, message = .fwdRoom chat) ∨ object.state.awaits message = true ∧ message ≠ .ping) := by
    obtain ⟨phase, requestId, awaiting, pending⟩ := object
    clear state
    cases phase with
    | kInit => exact .inr ⟨_, rfl, .inr ⟨rfl, nofun⟩⟩
    | kLoggedIn =>
      simp only [StateObject.onCommand, StateObject.onCommandLogin]
      (repeat' split) <;> first | exact .inl rfl | exact .inr ⟨_, rfl, .inr ⟨rfl, nofun⟩⟩
    | kInRoom =>
      simp only [StateObject.onCommand, StateObject.onCommandInRoom]
      (repeat' split) <;> first
        | exact .inl rfl
        | exact .inr ⟨_, rfl, .inl ⟨_, rfl⟩⟩
        | exact .inr ⟨_, rfl, .inr ⟨rfl, nofun⟩⟩
    | kExit => exact .inl rfl
  cases running : self.stopped with
  | true => exact .inl (by simp [handleCommand, running])
  | false =>
    rw [state] at sends
    simp only [handleCommand, running, owned, Bool.false_eq_true, if_false]
    exact sends

end ClientSession

end Rsp.Client
