import Rsp.UserServer.Conclusion

/-! The room of a session and what its client is told about it.

A session's room only changes together with a frame to its client. The frame tells the
client the room the session has from then on, except when Room refuses a create or a leave:
these jobs set the session's room whatever the outcome.
-/

set_option autoImplicit false

namespace Rsp.UserServer

open Message Rsp.Job Foundation

namespace Core

def rooms (self : Core) : List RoomId := self.sessions.map Session.roomId

def roomOf (self : Core) (session : SessionPtr) : RoomId := self.rooms[session]?.getD 0

def written (self : Core) (session : SessionPtr) : List ToClient :=
  self.sent.filterMap fun entry => if entry.1 = session then some entry.2 else none

theorem found_room {self : Core} {ptr : SessionPtr} {session : Session} (owner : self.sessions[ptr]? = some session) :
    self.rooms[ptr]? = some session.roomId := by
  simp [rooms, owner]

theorem rooms_setSession (self : Core) (ptr : SessionPtr) (session : Session) :
    (self.setSession ptr session).rooms = self.rooms.set ptr session.roomId := by
  simp [rooms, setSession, List.map_set]

theorem rooms_setSession_same {self : Core} {ptr : SessionPtr} {session after : Session}
    (owner : self.sessions[ptr]? = some session) (same : after.roomId = session.roomId) :
    (self.setSession ptr after).rooms = self.rooms := by
  rw [rooms_setSession, same]
  exact heap_set_self (found_room owner)

end Core

/-- The room a reader of a frame is in afterwards. -/
def told (room : RoomId) : ToClient → RoomId
  | .resCreateRoom response => if response.success then response.roomId else room
  | .resJoinRoom response => if response.success then response.roomId else room
  | .resLeaveRoom response => if response.success then 0 else room
  | .ntfLeaveRoom _ => 0
  | _ => room

/-- The job of a response sets the room its frame tells: a refused create names the session's own
room, and a leave is only refused to a session that is in none. -/
def fits (room : RoomId) : ToUser → Bool
  | .resCreateRoom response => response.success || response.roomId = room
  | .resLeaveRoom response => response.success || room = 0
  | _ => true

def Core.answerFits (self : Core) (session : SessionPtr) : Task → Bool
  | .handleRes ptr response => (self.jobs[ptr]?).all fun job =>
      job.session ≠ session || job.finished || fits (self.roomOf session) response
  | _ => true

/-- The connection is given nothing and the room stays, or one frame that tells the new room. -/
inductive Informs (session : SessionPtr) (core after : Core) : Prop where
  | silent (written : after.written session = core.written session)
      (room : after.roomOf session = core.roomOf session)
  | frame (frame : ToClient) (written : after.written session = core.written session ++ [frame])
      (room : after.roomOf session = told (core.roomOf session) frame)

section Informs

variable {now : Nat} {core after : Core} {task : Task} {effect : Effect} {session target : SessionPtr}
  {owned : Session} {frame : ToClient}

theorem written_more (session : SessionPtr) (sent : after.sent = core.sent ++ [(target, frame)]) :
    after.written session = core.written session ++ if target = session then [frame] else [] := by
  rw [Core.written, Core.written, sent, filterMap_concat]
  by_cases here : target = session <;> simp [here]

theorem informs_still (sent : after.sent = core.sent) (rooms : after.rooms = core.rooms) :
    Informs session core after :=
  .silent (by rw [Core.written, Core.written, sent]) (by rw [Core.roomOf, Core.roomOf, rooms])

theorem informs_neutral (sent : after.sent = core.sent ++ [(target, frame)]) (rooms : after.rooms = core.rooms)
    (neutral : ∀ room, told room frame = room) : Informs session core after := by
  have more := written_more session sent
  have room : after.roomOf session = core.roomOf session := by rw [Core.roomOf, Core.roomOf, rooms]
  by_cases here : target = session
  · rw [if_pos here] at more
    exact .frame frame more (room.trans (neutral _).symm)
  · rw [if_neg here, List.append_nil] at more
    exact .silent more room

theorem informs_set (owner : core.sessions[target]? = some owned) {room : RoomId}
    (sent : after.sent = core.sent ++ [(target, frame)]) (rooms : after.rooms = core.rooms.set target room)
    (tells : target = session → room = told owned.roomId frame) : Informs session core after := by
  have more := written_more session sent
  have found := Core.found_room owner
  by_cases here : target = session
  · subst here
    rw [if_pos rfl] at more
    apply Informs.frame frame more
    rw [Core.roomOf, Core.roomOf, rooms, heap_get_set found, if_pos rfl, found]
    exact tells rfl
  · rw [if_neg here, List.append_nil] at more
    apply Informs.silent more
    rw [Core.roomOf, Core.roomOf, rooms, heap_get_set found, if_neg here]

theorem completed_rooms {ptr : JobPtr} (completed : Completed core ptr effect) :
    effect.core.sent = core.sent ∧ effect.core.rooms = core.rooms := by
  cases completed with
  | again => exact ⟨rfl, rfl⟩
  | first found fresh owner => exact ⟨rfl, Core.rooms_setSession_same owner rfl⟩

theorem finished_rooms {ptr : JobPtr} (finished : Finished core ptr effect) :
    effect.core.sent = core.sent ∧ effect.core.rooms = core.rooms := by
  cases finished with
  | again | unheld => exact ⟨rfl, rfl⟩
  | called found unfinished held completed =>
    obtain ⟨sent, rooms⟩ := completed_rooms completed
    exact ⟨sent, rooms⟩

theorem told_answer {kind : JobKind} {response : ToUser} {room : RoomId} (answer : kind.answer response = some frame)
    (fit : fits room response = true) : JobKind.roomAfter room response = told room frame := by
  cases kind <;> cases response <;> cases answer
  · next request response =>
    rcases Bool.or_eq_true_iff.mp fit with success | same
    · simp [JobKind.roomAfter, told, success]
    · simp [JobKind.roomAfter, told, of_decide_eq_true same]
  · rfl
  · next request response =>
    rcases Bool.or_eq_true_iff.mp fit with success | none
    · simp [JobKind.roomAfter, told, success]
    · simp [JobKind.roomAfter, told, of_decide_eq_true none]

theorem told_timeout {kind : JobKind} (timeout : kind.timeoutResponse = some frame) (room : RoomId) :
    told room frame = room := by
  cases kind <;> cases timeout <;> rfl

theorem informs_of_executed (executed : Executed now core task effect) (fit : core.answerFits session task = true) :
    Informs session core effect.core := by
  cases executed with
  | pushed found owner | shutDown owner | closed owner =>
    exact informs_still rfl (Core.rooms_setSession_same owner rfl)
  | loggedIn found owner kind => exact informs_neutral rfl (Core.rooms_setSession_same owner rfl) (fun _ => rfl)
  | loggedOut found owner kind completed | clientForwarded found owner kind completed =>
    obtain ⟨sent, rooms⟩ := completed_rooms completed
    exact informs_neutral sent rooms (fun _ => rfl)
  | stopped found owner kind completed | forwarded found owner kind completed
  | sessionAdded found owner completed =>
    obtain ⟨sent, rooms⟩ := completed_rooms completed
    exact informs_still sent rooms
  | leaveNotified found owner kind completed =>
    obtain ⟨sent, rooms⟩ := completed_rooms completed
    exact informs_set owner sent (rooms.trans (Core.rooms_setSession (core.send _ _) _ _)) (fun _ => rfl)
  | @answered ptr job owned response frame effect found unfinished answer owner finished =>
    obtain ⟨sent, rooms⟩ := finished_rooms finished
    apply informs_set owner sent (rooms.trans (Core.rooms_setSession core _ _))
    intro here
    have room : core.roomOf session = owned.roomId := by
      rw [← here, Core.roomOf, Core.found_room owner, Option.getD_some]
    apply told_answer answer
    simpa [Core.answerFits, found, here, unfinished, room] using fit
  | shutdownFinished found finished =>
    obtain ⟨sent, rooms⟩ := finished_rooms finished
    exact informs_still sent rooms
  | timeoutFinished found timeout finished =>
    obtain ⟨sent, rooms⟩ := finished_rooms finished
    exact informs_neutral sent rooms (told_timeout timeout)
  | @sessionReceived owner message =>
    cases message with
    | ping => exact informs_neutral rfl rfl (fun _ => rfl)
    | _ => exact informs_still rfl rfl
  | requested | requestAdded | channelSent | answeredLate | cancelIgnored | cancelled | responded | clientPassed
  | leavePassed | responsePosted | timeoutPosted | notified | unknownReceived | closedAgain | removed | disconnected =>
    exact informs_still rfl rfl

end Informs

theorem sent_of_executed {now : Nat} {core : Core} {task : Task} {effect : Effect}
    (executed : Executed now core task effect) : core.sent <+: effect.core.sent := by
  have completed_sent : ∀ {core' : Core} {ptr : JobPtr} {done : Effect}, Completed core' ptr done →
      core'.sent <+: done.core.sent :=
    fun completed => (completed_rooms completed).1 ▸ List.prefix_rfl
  have finished_sent : ∀ {core' : Core} {ptr : JobPtr} {done : Effect}, Finished core' ptr done →
      core'.sent <+: done.core.sent :=
    fun finished => (finished_rooms finished).1 ▸ List.prefix_rfl
  cases executed with
  | loggedIn => exact List.prefix_append _ _
  | loggedOut found owner kind completed | clientForwarded found owner kind completed
  | leaveNotified found owner kind completed =>
    exact (List.prefix_append _ _).trans (completed_sent completed)
  | stopped found owner kind completed | forwarded found owner kind completed | sessionAdded found owner completed =>
    have grows := completed_sent completed
    exact grows
  | answered found unfinished answer owner finished | timeoutFinished found timeout finished =>
    exact (List.prefix_append _ _).trans (finished_sent finished)
  | shutdownFinished found finished => exact finished_sent finished
  | @sessionReceived target message =>
    cases message with
    | ping => exact List.prefix_append _ _
    | _ => exact List.prefix_rfl
  | pushed | requested | requestAdded | channelSent | answeredLate | cancelIgnored | cancelled | shutDown | responded
  | clientPassed | leavePassed | responsePosted | timeoutPosted | notified | unknownReceived | closedAgain | closed
  | removed | disconnected => exact List.prefix_rfl

theorem written_grows {state after : State} {label : Label} (moved : step state label = some after)
    (session : SessionPtr) : state.core.written session <+: after.core.written session := by
  have sent : state.core.sent <+: after.core.sent := by
    cases stepped_of_step moved with
    | ran split quiet executed => exact sent_of_executed executed
    | accepted | received | delivered | expired | closing => exact List.prefix_rfl
  exact sent.filterMap _

theorem Core.roomOf_concat {core after : Core} (session : SessionPtr) (rooms : after.rooms = core.rooms ++ [0]) :
    after.roomOf session = core.roomOf session := by
  rw [Core.roomOf, Core.roomOf, rooms, heap_get_concat]
  split
  · next same =>
    rw [same, List.getElem?_eq_none (Nat.le_refl _)]
    rfl
  · rfl

/-- A step that hands no unfitting response to a job of the session informs its client. -/
theorem informs_step {state after : State} {label : Label} (session : SessionPtr)
    (moved : step state label = some after)
    (fit : (executed ⟨state, label, after⟩).all fun ran => state.core.answerFits session ran.2) :
    Informs session state.core after.core := by
  cases stepped_of_step moved with
  | accepted =>
    exact .silent rfl (Core.roomOf_concat session (by simp [Core.rooms]))
  | received | delivered | expired | closing => exact informs_still rfl rfl
  | ran split quiet ran =>
    rw [executed_ran _ _ split quiet] at fit
    exact informs_of_executed ran fit

end Rsp.UserServer
