import Rsp.Protocol.Clients

/-! A client is only sent what its state handles.

A client that waits for each reply has one request outstanding at most, and its state handles
the reply. What comes unasked is handled in a room only. The job that relays it queues behind
the requests of its session, and a notice to leave may cross a request to leave; in either
case the client has left the room when the frame arrives, and ends.
-/

set_option autoImplicit false

namespace Rsp.Protocol.Clients

open Message Foundation Client UserServer

def isLeave : FromClient → Bool
  | .reqLeaveRoom _ => true
  | _ => false

def isLeaveNotice : ToClient → Bool
  | .ntfLeaveRoom _ => true
  | _ => false

def noticed (core : Core) (ptr : JobPtr) : Option (SessionPtr × ToClient) :=
  (core.records[ptr]?).bind fun record => record.kind.notice.map (Prod.mk record.session)

section Conditions

variable (route : RoutingId) (move : Transition State Label)

def Link.sends (self : Link) (text : String) : List FromClient := (self.cli.session.handleCommand text).2

/-- A client makes a request only after it has read the reply to each one before. -/
def Link.patient (self : Link) (text : String) : Bool :=
  !(self.sends text).any isRequest ||
    self.cli.asked.countP isRequest = (self.written.take self.outward).countP isReply

def Patient : Prop :=
  match move.label with
  | .spoke conn (.command text) => (link route move.before conn).patient text = true
  | _ => True

/-- The session of a notification is in a room, and the client has not asked to leave when it is
told to. -/
def Link.settled (self : Link) (frame : ToClient) : Bool :=
  self.user.core.roomOf self.conn ≠ 0 && (!isLeaveNotice frame || self.outstanding.all fun message => !isLeave message)

def Link.unnoticed (self : Link) (text : String) : Bool :=
  !(self.sends text).any isLeave || self.unread.all fun frame => !isLeaveNotice frame

/-- The jobs of notifications find their sessions in a room, and no notice to leave crosses a request
to leave. -/
def Uncrossed : Prop :=
  match move.label with
  | .hub (.spoke _ label) =>
      (executed ⟨move.before.hub.spoke route, label, move.after.hub.spoke route⟩).all (fun item =>
        (item.2.starting.bind (noticed (move.before.hub.spoke route).core)).all fun notice =>
          (link route move.before notice.1).settled notice.2) = true
  | .spoke conn (.command text) => (link route move.before conn).unnoticed text = true
  | _ => True

/-- The client's state has a case for the frame it is handed, unless the client has stopped; and the
client ends by a `ResLogout` only. -/
def Conforms : Prop :=
  match move.label with
  | .toSpoke conn _ => ∀ frame ∈ (system route).nextSpoke move.before conn,
      ((move.before.spoke conn).session.stopped = true ∨
        (move.before.spoke conn).session.currentState.handles frame = true) ∧
      ((move.before.spoke conn).session.currentState ≠ .kExit → (move.after.spoke conn).session.currentState = .kExit →
        ∃ response, frame = .resLogout response)
  | _ => True

instance : Decidable (Patient route move) := by
  unfold Patient
  split <;> infer_instance

instance : Decidable (Uncrossed route move) := by
  unfold Uncrossed
  split <;> infer_instance

end Conditions

/-- The frames on their way suit the client, who will be in a room if the session is. -/
structure Following (link : Link) : Prop where
  outward : link.outward ≤ link.written.length
  sound : link.cli.session.Sound
  follows : Follows link.cli.session.view link.unread
  room : link.user.core.roomOf link.conn ≠ 0 → link.ahead.state = .kInRoom ∨ link.ahead.state = .kExit

/-- One request is outstanding at most. What the server is still to answer or to receive belongs to it,
and the client will be in a state for the reply. -/
structure Accounted (link : Link) : Prop where
  inward : link.inward ≤ link.cli.asked.length
  counted : link.written.countP isReply + owed link.user link.conn + link.upstream.countP isRequest ≤
    link.cli.asked.countP isRequest
  single : link.cli.asked.countP isRequest ≤ link.written.countP isReply + 1
  demanded : ∀ kind, Demands link.user link.conn kind ∨ (∃ message ∈ link.upstream, requestedJob message = some kind) →
    ∃ message ∈ link.outstanding, requestedJob message = some kind
  awaited : ∀ message ∈ link.outstanding, link.ahead.state.awaits message = true
  unpinged : .ping ∉ link.cli.asked ∧ ¬ Waiting link.user (.onSessionRecv link.conn .ping)

structure Conforming (link : Link) : Prop extends Following link, Accounted link

section Frames

variable {phase : Client.State} {view : View} {message : FromClient} {kind : JobKind} {frame : ToClient}

theorem handles_reply (awaits : phase.awaits message = true) (requested : requestedJob message = some kind)
    (reply : kind.repliesWith frame = true) : phase = .kExit ∨ phase.handles frame = true := by
  cases message <;> cases requested <;> cases frame <;> first
    | cases reply; done
    | cases phase <;> first | exact .inl rfl | exact .inr rfl | cases awaits

theorem isReply_of_repliesWith (reply : kind.repliesWith frame = true) : isReply frame = true := by
  cases kind <;> cases frame <;> first | rfl | cases reply

theorem unreplied_of_notice (notice : isNotice frame = true) : isReply frame = false := by
  cases frame <;> first | rfl | cases notice

theorem isRequest_of_requestedJob (requested : requestedJob message = some kind) : isRequest message = true := by
  rw [isRequest, requested]
  rfl

theorem read_refused (inside : view.state = .kInRoom ∨ view.state = .kExit) (reply : isReply frame = true)
    (refused : reportsSuccess frame = false) :
    (view.read frame).state = .kInRoom ∨ (view.read frame).state = .kExit := by
  obtain ⟨state, roomId⟩ := view
  rcases inside with rfl | rfl
  · cases frame with
    | resLeaveRoom response =>
      have failed : response.success = false := refused
      exact .inl (by simp [View.read, failed])
    | fwdClient | ntfLeaveRoom | pong => cases reply
    | _ => exact .inr rfl
  · exact .inr rfl

theorem read_answered {response : ToUser} {room : RoomId} (answer : kind.answer response = some frame)
    (named : RoomServer.NamesCreated response) (fits : view.state = .kExit ∨ view.state.handles frame = true)
    (before : room ≠ 0 → view.state = .kInRoom ∨ view.state = .kExit)
    (inside : JobKind.roomAfter room response ≠ 0) :
    (view.read frame).state = .kInRoom ∨ (view.read frame).state = .kExit := by
  obtain ⟨state, roomId⟩ := view
  rcases fits with rfl | handled
  · exact .inr rfl
  cases kind <;> cases response <;> cases answer
  · next request response =>
    obtain rfl : state = .kLoggedIn := by cases state <;> first | rfl | cases handled
    have success : response.success = true := (named response rfl).resolve_right inside
    exact .inl (by simp [View.read, success])
  · next request response =>
    obtain rfl : state = .kLoggedIn := by cases state <;> first | rfl | cases handled
    cases success : response.success with
    | true => exact .inl (by simp [View.read])
    | false =>
      -- The session keeps its room, but a client in the lobby has none.
      have kept : room ≠ 0 := by simpa [JobKind.roomAfter, success] using inside
      rcases before kept with lobby | lobby <;> cases lobby
  · exact absurd rfl inside

/-- A notification is handled in a room, and moves the client only if it is a notice to leave. -/
theorem read_notice (inside : view.state = .kInRoom ∨ view.state = .kExit) (notice : isNotice frame = true) :
    (view.state = .kExit ∨ view.state.handles frame = true) ∧ ((view.read frame).state = view.state ∨
      isLeaveNotice frame = true ∧ view.state = .kInRoom ∧ (view.read frame).state = .kLoggedIn) := by
  obtain ⟨state, roomId⟩ := view
  rcases inside with rfl | rfl
  · cases frame with
    | fwdClient message => exact ⟨.inr rfl, .inl rfl⟩
    | ntfLeaveRoom notification => exact ⟨.inr rfl, .inr ⟨rfl, rfl, rfl⟩⟩
    | _ => cases notice
  · exact ⟨.inl rfl, .inl rfl⟩

theorem awaits_lobby (awaits : Client.State.kInRoom.awaits message = true) (staying : isLeave message = false) :
    Client.State.kLoggedIn.awaits message = true := by
  cases message <;> first | rfl | cases awaits; done | cases staying

theorem follows_unreplied {frames : List ToClient} (follows : Follows view frames)
    (unreplied : ∀ frame ∈ frames, isReply frame = false) :
    (frames.foldl View.read view).state = view.state ∨ view.state = .kInRoom ∧
      (frames.foldl View.read view).state = .kLoggedIn ∧ ∃ frame ∈ frames, isLeaveNotice frame = true := by
  induction frames generalizing view with
  | nil => exact .inl rfl
  | cons frame rest ih =>
    obtain ⟨fits, follows⟩ := follows
    have later := ih follows fun other mem => unreplied other (List.mem_cons_of_mem _ mem)
    have alone := unreplied frame List.mem_cons_self
    rw [List.foldl_cons]
    obtain ⟨state, roomId⟩ := view
    cases state with
    | kInit | kLoggedIn => cases frame <;> rcases fits with fits | fits <;> first | cases fits; done | cases alone
    | kExit =>
      -- The reader stays outside.
      have out : View.read ⟨.kExit, roomId⟩ frame = .exited := rfl
      rw [out] at later ⊢
      exact later.imp_right fun moved => nomatch moved.1
    | kInRoom =>
      cases frame with
      | fwdClient message =>
        exact later.imp_right fun ⟨inRoom, moved, other, mem, notice⟩ =>
          ⟨inRoom, moved, other, List.mem_cons_of_mem _ mem, notice⟩
      | ntfLeaveRoom notification =>
        have lobby := later.resolve_right fun moved => nomatch moved.1
        exact .inr ⟨rfl, lobby, _, List.mem_cons_self, rfl⟩
      | pong => rcases fits with fits | fits <;> cases fits
      | _ => cases alone

theorem told_leaveNotice (notice : isLeaveNotice frame = true) (room : RoomId) : told room frame = 0 := by
  cases frame <;> first | rfl | cases notice

end Frames

theorem Conforming.fits {link : Link} {frame : ToClient} (conforming : Conforming link)
    (next : link.written[link.outward]? = some frame) :
    link.cli.session.currentState = .kExit ∨ link.cli.session.currentState.handles frame = true := by
  obtain ⟨bound, given⟩ := List.getElem?_eq_some_iff.mp next
  have follows := conforming.follows
  rw [Link.unread, List.drop_eq_getElem_cons bound, given] at follows
  exact follows.1

/-! ## Steps -/

section Steps

variable {link : Link} {user : UserServer.State} {frame : ToClient}

theorem outstanding_eq_nil (answered : link.cli.asked.countP isRequest ≤ link.written.countP isReply) :
    link.outstanding = [] := by
  rw [List.countP_eq_length_filter] at answered
  exact List.drop_eq_nil_of_le answered

theorem written_last (bound : link.outward ≤ link.written.length)
    (written : user.core.written link.conn = link.written ++ [frame]) :
    ({ link with user } : Link).unread = link.unread ++ [frame] ∧
      ({ link with user } : Link).ahead = link.ahead.read frame := by
  have unread : ({ link with user } : Link).unread = link.unread ++ [frame] := by
    rw [Link.unread, Link.written, written, List.drop_append_of_le_length bound]
    rfl
  refine ⟨unread, ?_⟩
  rw [Link.ahead, unread, List.foldl_append]
  rfl

theorem following_written (following : Following link)
    (written : user.core.written link.conn = link.written ++ [frame])
    (fits : link.ahead.state = .kExit ∨ link.ahead.state.handles frame = true)
    (room : user.core.roomOf link.conn ≠ 0 →
      (link.ahead.read frame).state = .kInRoom ∨ (link.ahead.read frame).state = .kExit) :
    Following { link with user } := by
  obtain ⟨unread, ahead⟩ := written_last following.outward written
  constructor
  case outward =>
    rw [Link.written, written, List.length_append]
    exact Nat.le_add_right_of_le following.outward
  case sound => exact following.sound
  case follows => exact unread ▸ follows_concat following.follows fits
  case room =>
    rw [ahead]
    exact room

/-- A step of the server that is silent on the connection, perhaps with the client's next message. -/
theorem conforming_brought {given : Option FromClient} {inward : Nat} (conforming : Conforming link)
    (brings : Brings link.conn link.user given user) (bound : inward ≤ link.cli.asked.length)
    (next : link.upstream = given.toList ++ link.cli.asked.drop inward) : Conforming { link with user, inward } := by
  have same : ({ link with user, inward } : Link).written = link.written := brings.written
  have unread : ({ link with user, inward } : Link).unread = link.unread := by rw [Link.unread, same, Link.unread]
  have outstanding : ({ link with user, inward } : Link).outstanding = link.outstanding := by
    rw [Link.outstanding, same, Link.outstanding]
  have ahead : ({ link with user, inward } : Link).ahead = link.ahead := by rw [Link.ahead, unread, Link.ahead]
  refine ⟨?_, ?_⟩ <;> constructor
  case inward => exact bound
  case outward => exact same ▸ conforming.outward
  case sound => exact conforming.sound
  case follows => exact unread ▸ conforming.follows
  case room =>
    rw [ahead]
    exact fun inside => conforming.room (brings.room ▸ inside)
  -- the frame taken off the stream is owed an answer from here on
  case counted =>
    have counted := conforming.counted
    have owes := brings.owed
    rw [next, List.countP_append] at counted
    have total : link.written.countP isReply + owed user link.conn + (link.cli.asked.drop inward).countP isRequest ≤
        link.cli.asked.countP isRequest := by omega
    exact same ▸ total
  case single => exact same ▸ conforming.single
  case demanded =>
    intro kind wanted
    rw [outstanding]
    apply conforming.demanded kind
    rw [next]
    rcases wanted with demands | ⟨message, mem, requested⟩
    · apply (brings.demands kind demands).imp_right
      rintro ⟨message, taken, requested⟩
      exact ⟨message, List.mem_append_left _ (Option.mem_toList.mpr taken), requested⟩
    · exact .inr ⟨message, List.mem_append_right _ mem, requested⟩
  case awaited =>
    rw [outstanding, ahead]
    exact conforming.awaited
  case unpinged =>
    refine ⟨conforming.unpinged.1, fun waits => ?_⟩
    rcases brings.received .ping waits with earlier | rfl
    · exact conforming.unpinged.2 earlier
    · have asked : .ping ∈ link.upstream := next ▸ List.mem_cons_self
      exact conforming.unpinged.1 (List.mem_of_mem_drop asked)

theorem conforming_replied {kind : JobKind} (conforming : Conforming link) (demand : Demands link.user link.conn kind)
    (reply : kind.repliesWith frame = true) (written : user.core.written link.conn = link.written ++ [frame])
    (room : user.core.roomOf link.conn = link.user.core.roomOf link.conn ∧ reportsSuccess frame = false ∨
      ∃ response, RoomServer.NamesCreated response ∧ kind.answer response = some frame ∧
        user.core.roomOf link.conn = JobKind.roomAfter (link.user.core.roomOf link.conn) response)
    (paid : owed user link.conn + 1 ≤ owed link.user link.conn)
    (received : Waiting user (.onSessionRecv link.conn .ping) → Waiting link.user (.onSessionRecv link.conn .ping)) :
    Conforming { link with user } := by
  obtain ⟨message, mem, requested⟩ := conforming.demanded kind (.inl demand)
  have fits := handles_reply (conforming.awaited message mem) requested reply
  have isReply := isReply_of_repliesWith reply
  have replies : ({ link with user } : Link).written.countP UserServer.isReply =
      link.written.countP UserServer.isReply + 1 := by
    rw [Link.written, written, List.countP_append, List.countP_singleton, if_pos isReply]
  have counted := conforming.counted
  have single := conforming.single
  -- The one request that was outstanding is the one that is answered, so nothing is asked for any more.
  have nothing : owed user link.conn = 0 ∧ link.upstream.countP isRequest = 0 := by omega
  have outstanding : ({ link with user } : Link).outstanding = [] := by
    apply outstanding_eq_nil
    rw [replies]
    exact single
  have following : Following { link with user } := by
    apply following_written conforming.toFollowing written fits
    intro inside
    rcases room with ⟨same, refused⟩ | ⟨response, named, answer, moved⟩
    · exact read_refused (conforming.room (same ▸ inside)) isReply refused
    · exact read_answered answer named fits conforming.room (moved ▸ inside)
  refine ⟨following, ?_⟩
  constructor
  case inward => exact conforming.inward
  case counted =>
    have total : link.written.countP UserServer.isReply + 1 + owed user link.conn + link.upstream.countP isRequest ≤
        link.cli.asked.countP isRequest := by omega
    rw [replies]
    exact total
  case single =>
    rw [replies]
    exact Nat.le_succ_of_le single
  case demanded =>
    rintro other (demands | ⟨asked, waits, requests⟩)
    · exact absurd nothing.1 (Nat.ne_of_gt (owed_pos demands))
    · exact absurd (isRequest_of_requestedJob requests) (List.countP_eq_zero.mp nothing.2 asked waits)
  case awaited =>
    rw [outstanding]
    exact fun asked waits => nomatch waits
  case unpinged => exact ⟨conforming.unpinged.1, fun waits => conforming.unpinged.2 (received waits)⟩

theorem conforming_noticed (conforming : Conforming link) (settled : link.settled frame = true)
    (notice : isNotice frame = true)
    (written : user.core.written link.conn = link.written ++ [frame])
    (room : user.core.roomOf link.conn = told (link.user.core.roomOf link.conn) frame)
    (owes : owed user link.conn ≤ owed link.user link.conn)
    (demands : ∀ kind, Demands user link.conn kind → Demands link.user link.conn kind)
    (received : Waiting user (.onSessionRecv link.conn .ping) → Waiting link.user (.onSessionRecv link.conn .ping)) :
    Conforming { link with user } := by
  simp only [Link.settled, Bool.and_eq_true, decide_eq_true_eq, Bool.or_eq_true, Bool.not_eq_true', List.all_eq_true]
    at settled
  obtain ⟨inside, uncrossed⟩ := settled
  have inRoom := conforming.room inside
  obtain ⟨fits, moved⟩ := read_notice inRoom notice
  have ahead := (written_last conforming.outward written).2
  have replies : ({ link with user } : Link).written.countP isReply = link.written.countP isReply := by
    rw [Link.written, written, List.countP_append, List.countP_singleton, if_neg (by simp [unreplied_of_notice notice]),
      Nat.add_zero]
  have outstanding : ({ link with user } : Link).outstanding = link.outstanding := by
    rw [Link.outstanding, replies, Link.outstanding]
  -- only the leave notice moves the client, and then the server has it in no room
  have following : Following { link with user } := by
    apply following_written conforming.toFollowing written fits
    intro still
    rcases moved with same | ⟨leaving, -, -⟩
    · rw [same]
      exact inRoom
    · exact absurd (room.trans (told_leaveNotice leaving _)) still
  refine ⟨following, ?_⟩
  constructor
  case inward => exact conforming.inward
  case counted =>
    have counted := conforming.counted
    have total : link.written.countP isReply + owed user link.conn + link.upstream.countP isRequest ≤
        link.cli.asked.countP isRequest := by omega
    rw [replies]
    exact total
  case single =>
    rw [replies]
    exact conforming.single
  case demanded =>
    intro kind wanted
    rw [outstanding]
    exact conforming.demanded kind (wanted.imp_left (demands kind))
  -- the client may be in the lobby now, so its open request must be one the lobby awaits
  case awaited =>
    intro message mem
    rw [outstanding] at mem
    rw [ahead]
    have awaits := conforming.awaited message mem
    rcases moved with same | ⟨leaving, before, lobby⟩
    · rw [same]
      exact awaits
    · rw [before] at awaits
      rw [lobby]
      exact awaits_lobby awaits (uncrossed.resolve_left (by simp [leaving]) message mem)
  case unpinged => exact ⟨conforming.unpinged.1, fun waits => conforming.unpinged.2 (received waits)⟩

theorem conforming_dispatched {cli : Cli} (conforming : Conforming link)
    (next : link.written[link.outward]? = some frame) (done : link.cli.step (.dispatch frame) = some cli) :
    Conforming { link with cli, outward := link.outward + 1 } := by
  have after := Cli.step_dispatch done
  obtain ⟨bound, given⟩ := List.getElem?_eq_some_iff.mp next
  obtain ⟨sound, view⟩ := ClientSession.sound_dispatch conforming.sound frame
  have asked : cli.asked = link.cli.asked := by rw [after]
  have session : cli.session = (link.cli.session.dispatch (received frame)).1 := by rw [after]
  rw [← session] at sound view
  have read : link.unread = frame :: link.written.drop (link.outward + 1) := by
    rw [Link.unread, List.drop_eq_getElem_cons bound, given]
  have follows := conforming.follows
  rw [read] at follows
  -- What the client has read is no longer ahead of it.
  have ahead : ({ link with cli, outward := link.outward + 1 } : Link).ahead = link.ahead := by
    rw [Link.ahead, Link.ahead, read, List.foldl_cons, ← view]
    rfl
  have outstanding : ({ link with cli, outward := link.outward + 1 } : Link).outstanding = link.outstanding := by
    simp only [Link.outstanding, asked]
    rfl
  have upstream : ({ link with cli, outward := link.outward + 1 } : Link).upstream = link.upstream := by
    simp only [Link.upstream, asked]
  refine ⟨?_, ?_⟩ <;> constructor
  case inward => exact asked ▸ conforming.inward
  case outward => exact bound
  case sound => exact sound
  case follows => exact view ▸ follows.2
  case room =>
    rw [ahead]
    exact conforming.room
  case counted =>
    rw [upstream, asked]
    exact conforming.counted
  case single =>
    rw [asked]
    exact conforming.single
  case demanded =>
    rw [outstanding, upstream]
    exact conforming.demanded
  case awaited =>
    rw [outstanding, ahead]
    exact conforming.awaited
  case unpinged =>
    rw [asked]
    exact conforming.unpinged

theorem awaits_asked {message : FromClient} {text : String} (conforming : Conforming link)
    (replied : link.unread.countP isReply = 0) (awaits : link.cli.session.currentState.awaits message = true)
    (sent : link.sends text = [message]) (unnoticed : link.unnoticed text = true) :
    link.ahead.state.awaits message = true := by
  have unreplied : ∀ frame ∈ link.unread, isReply frame = false := by
    intro frame mem
    exact Bool.eq_false_iff.mpr (List.countP_eq_zero.mp replied frame mem)
  rcases follows_unreplied conforming.follows unreplied with same | ⟨inRoom, lobby, frame, mem, notice⟩
  · rw [Link.ahead, same]
    exact awaits
  · -- A notice to leave is on its way, so it is not a leave that the client asks for.
    have staying : isLeave message = false := by
      simp only [Link.unnoticed, sent, List.any_cons, List.any_nil, Bool.or_false, Bool.or_eq_true, Bool.not_eq_true',
        List.all_eq_true] at unnoticed
      exact unnoticed.resolve_right fun none => by simp [none frame mem] at notice
    have before : link.cli.session.currentState = .kInRoom := inRoom
    rw [before] at awaits
    rw [Link.ahead, lobby]
    exact awaits_lobby awaits staying

theorem commanded_session {cli : Cli} {text : String} (sound : link.cli.session.Sound)
    (done : link.cli.step (.command text) = some cli) :
    cli.session.Sound ∧ cli.session.view = link.cli.session.view ∧
      ({ link with cli } : Link).ahead = link.ahead ∧ cli.asked = link.cli.asked ++ link.sends text := by
  obtain rfl := Cli.step_command done
  obtain ⟨still, view⟩ := ClientSession.sound_command sound text
  exact ⟨still, view, congrArg (link.unread.foldl View.read) view, rfl⟩

theorem sends_no_ping (sound : link.cli.session.Sound) (text : String) : .ping ∉ link.sends text := by
  intro mem
  rcases ClientSession.command_sends sound text with none | ⟨message, sent, chat | ⟨-, other⟩⟩
  · rw [Link.sends, none] at mem
    cases mem
  · obtain ⟨request, rfl⟩ := chat
    rw [Link.sends, sent] at mem
    cases List.mem_singleton.mp mem
  · rw [Link.sends, sent] at mem
    exact other (List.mem_singleton.mp mem).symm

theorem accounted_unasking {cli : Cli} {text : String} (conforming : Conforming link)
    (done : link.cli.step (.command text) = some cli) (unasking : (link.sends text).countP isRequest = 0) :
    Accounted { link with cli } := by
  obtain ⟨-, -, ahead, asked⟩ := commanded_session conforming.sound done
  have requests : cli.asked.filter isRequest = link.cli.asked.filter isRequest := by
    rw [asked, List.filter_append, List.filter_eq_nil_iff.mpr (List.countP_eq_zero.mp unasking), List.append_nil]
  have outstanding : ({ link with cli } : Link).outstanding = link.outstanding := by
    simp only [Link.outstanding, requests]
    rfl
  have upstream : ({ link with cli } : Link).upstream = link.upstream ++ link.sends text := by
    simp only [Link.upstream, asked, List.drop_append_of_le_length conforming.inward]
  have counted : cli.asked.countP isRequest = link.cli.asked.countP isRequest := by
    rw [List.countP_eq_length_filter, requests, List.countP_eq_length_filter]
  constructor
  case inward =>
    rw [asked, List.length_append]
    exact Nat.le_add_right_of_le conforming.inward
  case counted =>
    rw [upstream, List.countP_append, unasking, Nat.add_zero, counted]
    exact conforming.counted
  case single =>
    rw [counted]
    exact conforming.single
  case demanded =>
    intro kind wanted
    rw [outstanding]
    rw [upstream] at wanted
    apply conforming.demanded kind
    apply wanted.imp_right
    rintro ⟨message, mem, requested⟩
    refine ⟨message, (List.mem_append.mp mem).resolve_right fun sent => ?_, requested⟩
    exact List.countP_eq_zero.mp unasking message sent (isRequest_of_requestedJob requested)
  case awaited =>
    rw [outstanding, ahead]
    exact conforming.awaited
  case unpinged =>
    rw [asked, List.mem_append, not_or]
    exact ⟨⟨conforming.unpinged.1, sends_no_ping conforming.sound text⟩, conforming.unpinged.2⟩

/-- The user of the client types a line that makes a request, with every one before answered. -/
theorem accounted_asking {cli : Cli} {text : String} {message : FromClient} (conforming : Conforming link)
    (done : link.cli.step (.command text) = some cli) (sent : link.sends text = [message])
    (request : isRequest message = true) (awaits : link.ahead.state.awaits message = true)
    (answered : link.cli.asked.countP isRequest ≤ link.written.countP isReply) : Accounted { link with cli } := by
  obtain ⟨-, -, ahead, asked⟩ := commanded_session conforming.sound done
  rw [sent] at asked
  have counted := conforming.counted
  -- the client asks with no request open, so nothing is owed and nothing is on its way
  have nothing : owed link.user link.conn = 0 ∧ link.upstream.countP isRequest = 0 := by omega
  have upstream : ({ link with cli } : Link).upstream = link.upstream ++ [message] := by
    simp only [Link.upstream, asked, List.drop_append_of_le_length conforming.inward]
  have requests : cli.asked.countP isRequest = link.cli.asked.countP isRequest + 1 := by
    rw [asked, List.countP_append, List.countP_singleton, if_pos request]
  have outstanding : ({ link with cli } : Link).outstanding = [message] := by
    have all : (link.cli.asked.filter isRequest).length = link.written.countP isReply := by
      rw [← List.countP_eq_length_filter]
      omega
    simp only [Link.outstanding, asked, List.filter_append, List.filter_cons, request, if_true, List.filter_nil]
    exact List.drop_left' all
  constructor
  case inward =>
    rw [asked, List.length_append]
    exact Nat.le_add_right_of_le conforming.inward
  case counted =>
    rw [upstream, List.countP_append, List.countP_singleton, if_pos request, requests, ← Nat.add_assoc]
    exact Nat.succ_le_succ counted
  case single =>
    rw [requests]
    exact Nat.succ_le_succ answered
  case demanded =>
    intro kind wanted
    rw [outstanding]
    rw [upstream] at wanted
    rcases wanted with demands | ⟨other, mem, requested⟩
    · exact absurd nothing.1 (Nat.ne_of_gt (owed_pos demands))
    · refine ⟨other, (List.mem_append.mp mem).resolve_left fun earlier => ?_, requested⟩
      exact List.countP_eq_zero.mp nothing.2 other earlier (isRequest_of_requestedJob requested)
  case awaited =>
    intro other mem
    rw [outstanding] at mem
    rw [ahead, List.mem_singleton.mp mem]
    exact awaits
  case unpinged =>
    rw [asked, ← sent, List.mem_append, not_or]
    exact ⟨⟨conforming.unpinged.1, sends_no_ping conforming.sound text⟩, conforming.unpinged.2⟩

theorem conforming_commanded {cli : Cli} {text : String} (conforming : Conforming link)
    (done : link.cli.step (.command text) = some cli) (patient : link.patient text = true)
    (unnoticed : link.unnoticed text = true) : Conforming { link with cli } := by
  obtain ⟨sound, view, ahead, -⟩ := commanded_session conforming.sound done
  have following : Following { link with cli } := by
    constructor
    case outward => exact conforming.outward
    case sound => exact sound
    case follows => exact view ▸ conforming.follows
    case room =>
      rw [ahead]
      exact conforming.room
  refine ⟨following, ?_⟩
  by_cases unasking : (link.sends text).countP isRequest = 0
  · exact accounted_unasking conforming done unasking
  obtain ⟨message, mem, request⟩ := List.countP_pos_iff.mp (Nat.pos_of_ne_zero unasking)
  have asking : (link.sends text).any isRequest = true := List.any_eq_true.mpr ⟨message, mem, request⟩
  simp only [Link.patient, asking, Bool.not_true, Bool.false_or, decide_eq_true_eq] at patient
  have whole : link.written.countP isReply =
      (link.written.take link.outward).countP isReply + link.unread.countP isReply := by
    rw [Link.unread, ← List.countP_append, List.take_append_drop]
  have counted := conforming.counted
  rcases ClientSession.command_sends conforming.sound text with none | ⟨other, sent, isChat | ⟨awaits, -⟩⟩
  · rw [Link.sends, none] at mem
    cases mem
  · obtain ⟨chat, rfl⟩ := isChat
    rw [Link.sends, sent] at mem
    cases List.mem_singleton.mp mem
    cases request
  · rw [Link.sends, sent] at mem
    cases List.mem_singleton.mp mem
    have awaited := awaits_asked conforming (by omega) awaits sent unnoticed
    exact accounted_asking conforming done sent request awaited (by omega)

theorem noticed_of_noticeOf {core : Core} {conn : SessionPtr} {ptr : JobPtr} (notice : core.noticeOf conn ptr = some frame) :
    noticed core ptr = some (conn, frame) ∧ isNotice frame = true := by
  obtain ⟨record, found, told⟩ := Option.bind_eq_some_iff.mp notice
  simp only [Core.noticeFor, Option.ite_none_right_eq_some] at told
  obtain ⟨rfl, told⟩ := told
  constructor
  · rw [noticed, found, Option.bind_some, told]
    rfl
  · cases kind : record.kind <;> rw [kind] at told <;> cases told <;> rfl

theorem conforming_ran {now : Nat} {thread : Thread} {task : Task} {before later : Pool Thread Task} {effect : Effect}
    {label : UserServer.Label} (conforming : Conforming link) (tracked : Tracked link.user)
    (named : ∀ ptr response, Waiting link.user (.handleRes ptr response) → RoomServer.NamesCreated response)
    (moved : UserServer.step link.user label = some (ranState thread before later effect))
    (split : link.user.pool = before ++ (thread, task) :: later) (quiet : Pool.idle before thread)
    (executed : Executed now link.user.core task effect)
    (settled : ∀ frame, task.starting.bind (noticed link.user.core) = some (link.conn, frame) → link.settled frame = true) :
    Conforming { link with user := ranState thread before later effect } := by
  have waits : Waiting link.user task := (waiting_split split task).mpr (.inl rfl)
  have owes : owed (ranState thread before later effect) link.conn ≤ owed link.user link.conn :=
    owed_kept tracked moved split executed
  have demands : ∀ kind, Demands (ranState thread before later effect) link.conn kind → Demands link.user link.conn kind :=
    fun kind => demands_ran tracked moved split executed
  have received : ∀ message, Waiting (ranState thread before later effect) (.onSessionRecv link.conn message) →
      Waiting link.user (.onSessionRecv link.conn message) :=
    fun message => received_ran split executed
  cases speaks_of_executed tracked moved split quiet executed link.conn with
  | silent written room =>
    have brings : Brings link.conn link.user none (ranState thread before later effect) :=
      ⟨written, room, owes, fun kind wanted => .inl (demands kind wanted), fun message waits => .inl (received message waits)⟩
    exact conforming_brought conforming brings conforming.inward rfl
  | pong ping => exact absurd (ping ▸ waits) conforming.unpinged.2
  | replied kind frame demand reply written room paid =>
    refine conforming_replied conforming demand reply written ?_ paid (received .ping)
    apply room.imp_right
    rintro ⟨ptr, response, rfl, answer, after⟩
    exact ⟨response, named ptr response waits, answer, after⟩
  | noticed ptr frame runs notice written room =>
    obtain ⟨told, isNotice⟩ := noticed_of_noticeOf notice
    subst runs
    exact conforming_noticed conforming (settled frame told) isNotice written room owes demands (received .ping)

theorem conforming_step {route : RoutingId} {history : History} {state after : State} {label : Label}
    (reached : Reaches route history state) (moved : step route state label = some after) (conn : SessionPtr)
    (conforming : Conforming (Clients.link route state conn)) (patient : Patient route ⟨state, label, after⟩)
    (uncrossed : Uncrossed route ⟨state, label, after⟩) : Conforming (Clients.link route after conn) := by
  have tracked := user_tracked reached
  cases moves_of_step moved conn with
  | aside same => exact same ▸ conforming
  | served given user done foreign shown result =>
    rw [result]
    -- a task may answer or tell the client; any other move of the server only brings frames in
    by_cases runs : ∃ thread now, given = .run thread now
    · obtain ⟨thread, now, rfl⟩ := runs
      obtain rfl := shown thread now rfl
      cases UserServer.stepped_of_step done with
      | @ran _ _ task before later effect split quiet executed =>
        have ran : UserServer.executed ⟨state.hub.spoke route, .run thread now, after.hub.spoke route⟩ = some (now, task) :=
          executed_ran now _ split quiet
        simp only [Uncrossed, ran, Option.all_some] at uncrossed
        apply conforming_ran conforming tracked (fun _ _ => response_named reached) done split quiet executed
        intro frame told
        have here : task.starting.bind (noticed (state.hub.spoke route).core) = some (conn, frame) := told
        rw [here, Option.all_some] at uncrossed
        exact uncrossed
    · have brings := brings_of_step tracked done (fun thread now same => runs ⟨thread, now, same⟩) conn
      rw [show given.frame conn = none from foreign] at brings
      exact conforming_brought conforming brings conforming.inward rfl
  | taken message user next done result =>
    have brings := brings_of_step tracked done (fun _ _ same => nomatch same) conn
    have taken : UserServer.Label.frame conn (.receive (Clients.link route state conn).conn (.session message)) =
        some message := if_pos rfl
    rw [taken] at brings
    obtain ⟨bound, given⟩ := List.getElem?_eq_some_iff.mp next
    rw [result]
    apply conforming_brought conforming brings bound
    rw [Link.upstream, List.drop_eq_getElem_cons bound, given]
    rfl
  | commanded text cli isCommand done result =>
    subst isCommand
    rw [result]
    exact conforming_commanded conforming done patient uncrossed
  | dispatched frame cli isDispatch next done result =>
    rw [result]
    exact conforming_dispatched conforming next done

theorem conforming_initial (route : RoutingId) (conn : SessionPtr) : Conforming (Clients.link route initial conn) := by
  refine ⟨?_, ?_⟩ <;> constructor
  case outward => exact Nat.le_refl 0
  case sound => exact ClientSession.sound_start
  case follows => trivial
  case room => exact fun inside => absurd rfl inside
  case inward => exact Nat.le_refl 0
  case counted => exact Nat.le_of_eq (owed_initial conn)
  case single => exact Nat.zero_le _
  case demanded =>
    rintro kind (demands | ⟨message, mem, -⟩)
    · exact absurd (owed_initial conn) (Nat.ne_of_gt (owed_pos demands))
    · cases mem
  case awaited => exact fun message mem => nomatch mem
  case unpinged => exact ⟨nofun, fun ⟨thread, mem⟩ => nomatch mem⟩

theorem conforming_reached {route : RoutingId} {history : History} {state : State} (run : Reaches route history state)
    (patient : ∀ move ∈ history, Patient route move) (uncrossed : ∀ move ∈ history, Uncrossed route move)
    (conn : SessionPtr) : Conforming (Clients.link route state conn) := by
  apply run.history fun _ state => Conforming (Clients.link route state conn)
  · exact conforming_initial route conn
  · intro past move reached conforming moved mem
    exact conforming_step reached moved conn conforming (patient move mem) (uncrossed move mem)

end Steps

/-- A client that waits for its replies, and is not crossed by a notice to leave, is never written a frame its
state does not handle. -/
theorem clients_conform {route : RoutingId} {history : History} {state : State} (run : Reaches route history state)
    (patient : ∀ move ∈ history, Patient route move) (uncrossed : ∀ move ∈ history, Uncrossed route move) :
    ∀ move ∈ history, Conforms route move := by
  intro move mem
  obtain ⟨past, rest, cut⟩ := List.append_of_mem mem
  obtain ⟨reached, moved, -⟩ := run.split cut
  have earlier : ∀ other ∈ past, other ∈ history := fun other old => cut ▸ List.mem_append_left _ old
  unfold Conforms
  split
  · next conn lost isDispatch =>
    intro frame given
    have conforming := conforming_reached reached (fun other old => patient other (earlier other old))
      (fun other old => uncrossed other (earlier other old)) conn
    have fits := conforming.fits given
    constructor
    · apply fits.imp_left
      intro left
      exact conforming.sound.stops.trans (decide_eq_true left)
    · intro running left
      have handled := fits.resolve_left running
      have unmoved : (move.after.spoke conn).session = (move.before.spoke conn).session →
          ∃ response, frame = .resLogout response := by
        intro same
        rw [same] at left
        exact absurd left running
      cases moves_of_step moved conn with
      | aside same | served label user done foreign shown same | taken message user next done same =>
        exact unmoved (congrArg (fun link => link.cli.session) same)
      | commanded text cli isCommand done same => cases isDispatch.symm.trans isCommand
      | dispatched other cli isHanded next done same =>
        cases Option.some.inj (next.symm.trans given)
        have session : (move.after.spoke conn).session = cli.session := congrArg (fun link => link.cli.session) same
        obtain rfl := Cli.step_dispatch done
        have view := (ClientSession.sound_dispatch conforming.sound frame).2
        rw [session] at left
        exact read_handled handled ((congrArg View.state view).symm.trans left)
  · trivial

def userRuns (count : Nat) (thread : Thread) : List Label := List.replicate count (.hub (.spoke "u" (.run thread 0)))

def roomRuns (count : Nat) (thread : RoomServer.Thread) : List Label := List.replicate count (.hub (.hub (.run thread {})))

def saysHello : List Label :=
  ([.hub (.spoke "u" .accept), .spoke 0 (.command "alice"), .toHub 0 false] : List Label) ++ userRuns 1 (.conn 0) ++
    userRuns 3 (.strand 0) ++ ([.toSpoke 0 false] : List Label) ++
    ([.spoke 0 (.command "2"), .toHub 0 false] : List Label) ++ userRuns 1 (.conn 0) ++ userRuns 4 (.strand 0) ++
    ([.hub (.toHub "u" false)] : List Label) ++ roomRuns 5 .router ++ roomRuns 1 (.strand 0) ++
    ([.hub (.toSpoke "u" false)] : List Label) ++ userRuns 2 .dealer ++ userRuns 1 (.strand 0) ++
    ([.toSpoke 0 false] : List Label) ++
    ([.spoke 0 (.command "2"), .spoke 0 (.command "hello"), .toHub 0 false] : List Label) ++ userRuns 1 (.conn 0) ++
    userRuns 2 (.strand 0)

def echoes : List Label :=
  ([.hub (.toHub "u" false)] : List Label) ++ roomRuns 3 .router ++
    ([.hub (.hub (.api 0 (.sendToUser ["alice"] "(alice):hello")))] : List Label) ++ roomRuns 2 (.strand 0)

def asksToLeave : List Label :=
  [.spoke 0 (.command "3"), .toHub 0 false] ++ userRuns 1 (.conn 0) ++ userRuns 4 (.strand 0)

def letsGo : List Label := [.hub (.toHub "u" false)] ++ roomRuns 3 .router ++ roomRuns 4 (.strand 0)

def hearsAndLeaves : List Label :=
  saysHello ++ echoes ++ ([.hub (.toSpoke "u" false)] : List Label) ++ userRuns 2 .dealer ++ userRuns 2 (.strand 0) ++
    asksToLeave ++ ([.toSpoke 0 false] : List Label) ++ letsGo ++ ([.hub (.toSpoke "u" false)] : List Label) ++
    userRuns 2 .dealer ++ userRuns 1 (.strand 0) ++ ([.toSpoke 0 false] : List Label)

theorem clients_conform_leaving :
    (∀ move ∈ transitions (step "u") initial hearsAndLeaves, Conforms "u" move) ∧
      (link "u" (final (step "u") initial hearsAndLeaves) 0).written =
        [.resLogin { uid := "alice", success := true }, .resCreateRoom { roomId := 10000, success := true },
          fwdClient { uid := "alice", message := "(alice):hello" }, .resLeaveRoom { success := true }] ∧
      ((final (step "u") initial hearsAndLeaves).spoke 0).session.currentState = .kLoggedIn := by
  have run : Reaches "u" (transitions (step "u") initial hearsAndLeaves) (final (step "u") initial hearsAndLeaves) :=
    run_of_enabled (by decide +kernel)
  exact ⟨clients_conform run (by decide +kernel) (by decide +kernel), by decide +kernel, by decide +kernel⟩

def leavesBeforeEcho : List Label :=
  saysHello ++ asksToLeave ++ echoes ++ letsGo ++ ([.hub (.toSpoke "u" false)] : List Label) ++ userRuns 2 .dealer ++
    userRuns 1 (.strand 0) ++ ([.hub (.toSpoke "u" false)] : List Label) ++ userRuns 2 .dealer ++
    userRuns 2 (.strand 0) ++ ([.toSpoke 0 false, .toSpoke 0 false] : List Label)

/-- The client is told that it has left, and the echo of its own message ends it. -/
theorem echo_ends_client :
    ∃ (history : History) (state : State), Reaches "u" history state ∧ (∀ move ∈ history, Patient "u" move) ∧
      (∀ message ∈ (state.spoke 0).asked, ∀ request, message ≠ .reqLogout request) ∧
      ∃ move ∈ history, move.label = .toSpoke 0 false ∧
        (system "u").nextSpoke move.before 0 = some (fwdClient { uid := "alice", message := "(alice):hello" }) ∧
        (move.before.spoke 0).session.stopped = false ∧ (move.before.spoke 0).session.currentState = .kLoggedIn ∧
        Client.State.kLoggedIn.handles (fwdClient { uid := "alice", message := "(alice):hello" }) = false ∧
        (move.after.spoke 0).session.currentState = .kExit := by
  refine ⟨transitions (step "u") initial leavesBeforeEcho, final (step "u") initial leavesBeforeEcho,
    run_of_enabled (by decide +kernel), ?_, ?_, ?_⟩
  · decide +kernel
  · have asked : ((final (step "u") initial leavesBeforeEcho).spoke 0).asked =
        [.reqLogin { uid := "alice" }, .reqCreateRoom { requestId := 0 }, .fwdRoom { message := "hello" },
          .reqLeaveRoom { requestId := 0 }] := by decide +kernel
    simp [asked]
  · decide +kernel

end Rsp.Protocol.Clients
