import Rsp.Client.View
import Rsp.UserServer.Rooms

/-! A client attached to its session.

The User server runs with everything around it: other connections, the clock, and a Room
server that may answer any request in any way or not at all. One connection belongs to a
client; its frames travel in order in both directions.
-/

set_option autoImplicit false

namespace Rsp.Protocol

open Message Foundation Client UserServer

/-- `upstream` holds what the client has written and the server has not received; `seen` counts the
frames of the connection that the client has dispatched. -/
structure Attached where
  server : UserServer.State
  client : ClientSession
  upstream : List FromClient
  seen : Nat

namespace Attached

def initial : Attached := ⟨UserServer.initial, ClientSession.start {}, [], 0⟩

inductive Label where
  | server (label : UserServer.Label)
  | receive
  | dispatch
  | command (text : String)
  deriving DecidableEq, Repr

def unread (self : Attached) (conn : SessionPtr) : List ToClient := (self.server.core.written conn).drop self.seen

def receives (conn : SessionPtr) : UserServer.Label → Bool
  | .receive other _ => other = conn
  | _ => false

def step (conn : SessionPtr) (state : Attached) : Label → Option Attached
  | .server label =>
      -- what the client sends arrives by `receive` only
      if receives conn label then none
      else (UserServer.step state.server label).map fun server => { state with server }
  | .receive =>
      match state.upstream with
      | [] => none
      | message :: upstream =>
          (UserServer.step state.server (.receive conn (.session message))).map fun server =>
            { state with server, upstream }
  | .dispatch =>
      match state.unread conn with
      | [] => none
      | frame :: _ =>
          let (client, sent) := state.client.dispatch (received frame)
          some { state with client, upstream := state.upstream ++ sent, seen := state.seen + 1 }
  | .command text =>
      let (client, sent) := state.client.handleCommand text
      some { state with client, upstream := state.upstream ++ sent }

abbrev History := List (Transition Attached Label)

def ran (move : Transition Attached Label) : Option (Nat × UserServer.Task) :=
  match move.label with
  | .server label => executed ⟨move.before.server, label, move.after.server⟩
  | _ => none

/-- No refusal moves the session: see `fits`. -/
def AnswersFit (conn : SessionPtr) (move : Transition Attached Label) : Prop :=
  (ran move).all (fun item => move.before.server.core.answerFits conn item.2) = true

def Handles (conn : SessionPtr) (move : Transition Attached Label) : Prop :=
  match move.label with
  | .dispatch => ((move.before.unread conn).head?).all (fun frame => move.before.client.view.goesOn frame) = true
  | _ => True

instance (conn : SessionPtr) (move : Transition Attached Label) : Decidable (AnswersFit conn move) :=
  inferInstanceAs (Decidable (_ = true))

instance (conn : SessionPtr) (move : Transition Attached Label) : Decidable (Handles conn move) := by
  unfold Handles
  split <;> infer_instance

/-! ## Agreement -/

/-- Once the client has read what is on its way, it has left or is in the room of its session. -/
structure Agrees (conn : SessionPtr) (state : Attached) : Prop where
  sound : state.client.Sound
  running : state.client.view.state ≠ .kExit
  bound : state.seen ≤ (state.server.core.written conn).length
  ahead : (state.unread conn).foldl View.read state.client.view = .exited ∨
    ((state.unread conn).foldl View.read state.client.view).roomId = state.server.core.roomOf conn

theorem read_told (view : View) (frame : ToClient) :
    view.read frame = .exited ∨ (view.read frame).roomId = told view.roomId frame := by
  obtain ⟨state, roomId⟩ := view
  cases state with
  | kInit =>
    cases frame with
    | resLogin response => exact .inr rfl
    | _ => exact .inl rfl
  | kLoggedIn =>
    cases frame with
    | resCreateRoom response | resJoinRoom response =>
      obtain ⟨requestId, success, room⟩ := response
      cases success <;> exact .inr rfl
    | _ => exact .inl rfl
  | kInRoom =>
    cases frame with
    | resLeaveRoom response =>
      obtain ⟨requestId, success⟩ := response
      cases success <;> exact .inr rfl
    | fwdClient | ntfLeaveRoom => exact .inr rfl
    | _ => exact .inl rfl
  | kExit => cases frame <;> exact .inl rfl

section Agrees

variable {conn : SessionPtr} {state after : Attached}

/-- A step of the server adds at most one frame to those on their way, which tells the new room. -/
theorem agrees_informed (agrees : Agrees conn state) (informs : Informs conn state.server.core after.server.core)
    (client : after.client = state.client) (seen : after.seen = state.seen) : Agrees conn after := by
  have bound := agrees.bound
  have ahead := agrees.ahead
  cases informs with
  | silent written room =>
    have same : after.unread conn = state.unread conn := by rw [unread, unread, written, seen]
    exact ⟨client ▸ agrees.sound, client ▸ agrees.running, by rw [written, seen]; exact bound,
      by rw [same, client, room]; exact ahead⟩
  | frame frame written room =>
    have more : after.unread conn = state.unread conn ++ [frame] := by
      rw [unread, unread, written, seen, List.drop_append_of_le_length bound]
    refine ⟨client ▸ agrees.sound, client ▸ agrees.running, ?_, ?_⟩
    · rw [written, seen, List.length_append]
      omega
    · rw [more, client, List.foldl_append, List.foldl_cons, List.foldl_nil, room]
      rcases ahead with left | same
      · rw [left]
        exact .inl (View.read_exited frame)
      · rw [← same]
        exact read_told _ frame

theorem agrees_initial : Agrees conn initial where
  sound := ClientSession.sound_start
  running := nofun
  bound := Nat.le_refl 0
  ahead := .inr rfl

inductive Stepped (conn : SessionPtr) (state : Attached) : Label → Attached → Prop where
  | served {label : Label} {server : UserServer.State} {upstream : List FromClient}
      (informs : Informs conn state.server.core server.core) (other : label ≠ .dispatch) :
      Stepped conn state label { state with server, upstream }
  | dispatched {frame : ToClient} {rest : List ToClient} (waiting : state.unread conn = frame :: rest)
      (on : state.client.view.goesOn frame = true) :
      Stepped conn state .dispatch { state with
        client := (state.client.dispatch (received frame)).1
        upstream := state.upstream ++ (state.client.dispatch (received frame)).2
        seen := state.seen + 1 }
  | commanded {text : String} :
      Stepped conn state (.command text) { state with
        client := (state.client.handleCommand text).1
        upstream := state.upstream ++ (state.client.handleCommand text).2 }

theorem stepped_of_step {label : Label} (moved : step conn state label = some after)
    (fit : AnswersFit conn ⟨state, label, after⟩) (handles : Handles conn ⟨state, label, after⟩) :
    Stepped conn state label after := by
  cases label with
  | server label =>
    simp only [step] at moved
    split at moved
    · cases moved
    · obtain ⟨server, stepped, rfl⟩ := Option.map_eq_some_iff.mp moved
      exact .served (informs_step conn stepped fit) nofun
  | receive =>
    simp only [step] at moved
    split at moved
    · cases moved
    · obtain ⟨server, stepped, rfl⟩ := Option.map_eq_some_iff.mp moved
      exact .served (informs_step conn stepped rfl) nofun
  | dispatch =>
    simp only [step] at moved
    split at moved
    · cases moved
    · next frame rest waiting =>
      cases moved
      apply Stepped.dispatched waiting
      simpa [Handles, waiting] using handles
  | command text =>
    simp only [step, Option.some.injEq] at moved
    subst moved
    exact .commanded

theorem agrees_step {label : Label} (agrees : Agrees conn state) (stepped : Stepped conn state label after) :
    Agrees conn after := by
  cases stepped with
  | served informs other => exact agrees_informed agrees informs rfl rfl
  | @dispatched frame rest waiting on =>
    obtain ⟨sound, view⟩ := ClientSession.sound_dispatch agrees.sound frame
    have later : (state.server.core.written conn).drop (state.seen + 1) = rest := by
      have tail := congrArg List.tail waiting
      rwa [unread, List.tail_drop] at tail
    have short : state.seen < (state.server.core.written conn).length := by
      by_contra far
      rw [unread, List.drop_eq_nil_of_le (Nat.not_lt.mp far)] at waiting
      cases waiting
    refine ⟨sound, ?_, short, ?_⟩
    · rw [view]
      exact (of_decide_eq_true on).2
    · have ahead := agrees.ahead
      rw [waiting, List.foldl_cons] at ahead
      simp only [unread, later, view]
      exact ahead
  | @commanded text =>
    obtain ⟨sound, view⟩ := ClientSession.sound_command agrees.sound text
    exact ⟨sound, view ▸ agrees.running, agrees.bound, view ▸ agrees.ahead⟩

theorem agrees_reached {history : History} (run : Run (step conn) initial history state)
    (fit : ∀ move ∈ history, AnswersFit conn move) (handles : ∀ move ∈ history, Handles conn move) :
    Agrees conn state := by
  have allowed : ∀ move ∈ history, (fun move => AnswersFit conn move ∧ Handles conn move) move :=
    fun move mem => ⟨fit move mem, handles move mem⟩
  apply run.invariant_of agrees_initial allowed
  intro move allowed agrees moved
  exact agrees_step agrees (stepped_of_step moved allowed.1 allowed.2)

end Agrees

def refusal : ToClient → Bool
  | .resCreateRoom response => !response.success
  | .resJoinRoom response => !response.success
  | .resLeaveRoom response => !response.success
  | _ => false

def Refuses (conn : SessionPtr) (move : Transition Attached Label) : Prop :=
  ∃ frame, refusal frame = true ∧
    (move.after.server.core.written conn = move.before.server.core.written conn ++ [frame] ∨
      move.label = .dispatch ∧ (move.before.unread conn).head? = some frame)

theorem told_refusal {frame : ToClient} (refused : refusal frame = true) (room : RoomId) : told room frame = room := by
  cases frame with
  | resCreateRoom response | resJoinRoom response | resLeaveRoom response =>
    have failed : response.success = false := by simpa [refusal] using refused
    simp [told, failed]
  | _ => cases refused

theorem room_refusal {conn : SessionPtr} {core after : Core} {frame : ToClient} (informs : Informs conn core after)
    (refused : refusal frame = true) (written : after.written conn = core.written conn ++ [frame]) :
    after.roomOf conn = core.roomOf conn := by
  cases informs with
  | silent same room => exact room
  | frame other more room =>
    obtain rfl := List.singleton_inj.mp (List.append_cancel_left (written.symm.trans more))
    rw [room, told_refusal refused]

theorem read_refusal {view : View} {frame : ToClient} (refused : refusal frame = true)
    (on : view.goesOn frame = true) : (view.read frame).roomId = view.roomId := by
  rcases read_told view frame with left | room
  · have staying := (of_decide_eq_true on).2
    rw [left] at staying
    exact absurd rfl staying
  · rw [room, told_refusal refused]

theorem refusal_moves_nobody {conn : SessionPtr} {state after : Attached} {label : Label} {frame : ToClient}
    (agrees : Agrees conn state) (stepped : Stepped conn state label after) (refused : refusal frame = true)
    (given : after.server.core.written conn = state.server.core.written conn ++ [frame] ∨
      label = .dispatch ∧ (state.unread conn).head? = some frame) :
    after.server.core.roomOf conn = state.server.core.roomOf conn ∧
      after.client.context.roomId = state.client.context.roomId := by
  cases stepped with
  | served informs other =>
    rcases given with written | ⟨dispatches, -⟩
    · exact ⟨room_refusal informs refused written, rfl⟩
    · exact absurd dispatches other
  | @dispatched next rest waiting on =>
    rcases given with written | ⟨-, first⟩
    · -- Nothing is handed to the connection here.
      exact absurd written (by simp)
    · rw [waiting, List.head?_cons, Option.some.injEq] at first
      subst first
      have view := (ClientSession.sound_dispatch agrees.sound next).2
      exact ⟨rfl, (congrArg View.roomId view).trans (read_refusal refused on)⟩
  | @commanded text =>
    have view := (ClientSession.sound_command agrees.sound text).2
    exact ⟨rfl, congrArg View.roomId view⟩

/-- In every run in which the refusals of Room fit and the client is only handed what its state
handles, a client with nothing left to read is in the room of its session, and a create, join or leave
that was refused or timed out changes neither. -/
theorem client_and_session_agree (conn : SessionPtr) {history : History} {state : Attached}
    (run : Run (step conn) initial history state) (fit : ∀ move ∈ history, AnswersFit conn move)
    (handles : ∀ move ∈ history, Handles conn move) :
    (state.unread conn = [] → state.client.context.roomId = state.server.core.roomOf conn) ∧
    ∀ move ∈ history, Refuses conn move →
      move.after.server.core.roomOf conn = move.before.server.core.roomOf conn ∧
        move.after.client.context.roomId = move.before.client.context.roomId := by
  constructor
  · intro settled
    have agrees := agrees_reached run fit handles
    have ahead := agrees.ahead
    rw [settled, List.foldl_nil] at ahead
    rcases ahead with left | same
    · exact absurd (congrArg View.state left) agrees.running
    · exact same
  · rintro move mem ⟨frame, refused, given⟩
    obtain ⟨past, rest, cut⟩ := List.append_of_mem mem
    obtain ⟨reached, moved, -⟩ := run.split cut
    have agrees : Agrees conn move.before := by
      apply agrees_reached reached
      · intro earlier old
        exact fit earlier (cut ▸ List.mem_append_left _ old)
      · intro earlier old
        exact handles earlier (cut ▸ List.mem_append_left _ old)
    exact refusal_moves_nobody agrees (stepped_of_step moved (fit move mem) (handles move mem)) refused given

def runs (count : Nat) (thread : Thread) : List Label := List.replicate count (.server (.run thread 0))

def leaving : List Label :=
  ([.server .accept, .command "bob", .receive] : List Label) ++ runs 1 (.conn 0) ++ runs 3 (.strand 0) ++
    ([.dispatch] : List Label) ++ ([.command "2", .receive] : List Label) ++ runs 1 (.conn 0) ++ runs 4 (.strand 0) ++
    ([.server (.deliver (.resCreateRoom { requestId := 1, success := true, roomId := 7 }))] : List Label) ++
    runs 2 .dealer ++ runs 1 (.strand 0) ++ ([.dispatch] : List Label) ++ ([.command "3", .receive] : List Label) ++
    runs 1 (.conn 0) ++ runs 4 (.strand 0)

def leaveTimesOut : List Label :=
  leaving ++ [.server (.expire (6 * 10 ^ 9))] ++ runs 2 .timer ++ runs 2 (.strand 0) ++ [.dispatch]

theorem client_and_session_agree_timeout :
    (final (step 0) initial leaveTimesOut).unread 0 = [] ∧
      (final (step 0) initial leaveTimesOut).client.context.roomId =
        (final (step 0) initial leaveTimesOut).server.core.roomOf 0 ∧
      (final (step 0) initial leaveTimesOut).client.context.roomId = 7 := by
  have run : Run (step 0) initial (transitions (step 0) initial leaveTimesOut) (final (step 0) initial leaveTimesOut) :=
    run_of_enabled (by decide +kernel)
  have settled : (final (step 0) initial leaveTimesOut).unread 0 = [] := by decide +kernel
  have agree := client_and_session_agree 0 run (by decide +kernel) (by decide +kernel)
  exact ⟨settled, agree.1 settled, by decide +kernel⟩

def leaveRefused : List Label :=
  leaving ++ [.server (.deliver (.resLeaveRoom { requestId := 2, success := false }))] ++ runs 2 .dealer ++
    runs 1 (.strand 0) ++ [.dispatch]

/-- A refused leave takes the session out of its room and leaves the client in it. -/
theorem refused_leave_parts_client_and_session :
    Run (step 0) initial (transitions (step 0) initial leaveRefused) (final (step 0) initial leaveRefused) ∧
      (final (step 0) initial leaveRefused).unread 0 = [] ∧
      (final (step 0) initial leaveRefused).upstream = [] ∧
      (final (step 0) initial leaveRefused).server.pool = [] ∧
      (final (step 0) initial leaveRefused).client.currentState = .kInRoom ∧
      (final (step 0) initial leaveRefused).client.context.roomId = 7 ∧
      (final (step 0) initial leaveRefused).server.core.roomOf 0 = 0 := by
  refine ⟨run_of_enabled (by decide +kernel), ?_⟩
  decide +kernel

end Attached

end Rsp.Protocol
