import Rsp.RoomServer.Broadcasts
import Rsp.RoomServer.Replies

/-! What stands behind a response of the Room server.

Every response belongs to a request that was delivered, and one that reports a success was
preceded by the steps that carried that request out. The items that carry a request out are
executed for a key no more often than requests with that key were delivered.
-/

set_option autoImplicit false

namespace Rsp.RoomServer

open Message Foundation
open scoped List

/-! ## Carrying a request out -/

def arrivals (history : History) : List (RoutingId × ToRoom) :=
  history.filterMap fun move =>
    match move.label with
    | .deliver source message => some (source, message)
    | _ => none

def RegistersRoom (request : Admitted) (uid : Uid) (roomId : RoomId) (move : Transition State Label) : Prop :=
  ∃ choice message strand, executed move = some (choice, .handle request (.createRoom message)) ∧ message.uid = uid ∧
    move.after.core.heap = move.before.core.heap ++ [Room.make roomId ⟨uid, request.destination⟩ strand] ∧
    move.after.core.manager.rooms = move.before.core.manager.rooms.insert roomId move.before.core.heap.length ∧
    move.after.core.manager.userRooms = move.before.core.manager.userRooms.insert uid roomId

/-- The request was carried out in the way its response says. -/
def CarriedOut (request : Admitted) (history : History) : ToRoom → ToUser → Prop
  | .reqCreateRoom message, .resCreateRoom response =>
      ∃ move ∈ history, RegistersRoom request message.uid response.roomId move
  | .reqJoinRoom message, .resJoinRoom response =>
      response.roomId = message.roomId ∧ ∃ ptr, (∃ move ∈ history, AddsMember request ptr message.uid move) ∧
        ∃ move ∈ history, MapsUser request ptr message.uid move ∧
          move.after.core.manager.userRooms[message.uid]? = some message.roomId
  | .reqLeaveRoom message, .resLeaveRoom _ => Leaves request message.uid history
  | _, _ => False

/-- The response is the answer to the message and says what was done. The handler of a create that
finds its ticket cancelled completes with an empty response instead, which is not sent. -/
def Earns (request : Admitted) (history : History) (message : ToRoom) (response : ToUser) : Prop :=
  response = .resCreateRoom {} ∨
    answers message response ∧ (succeeds response = true → CarriedOut request history message response)

def Located (core : Core) (ptr : RoomPtr) (roomId : RoomId) : Prop :=
  ∃ member, core.members[ptr]? = some member ∧ member.roomId = roomId

/-- What a stage of a request's handler has to do with the message and with what was done so far. -/
def Stage.earned (core : Core) (request : Admitted) (history : History) (message : ToRoom) : Stage → Prop
  | .createRoom asked => message = .reqCreateRoom asked
  | .createContents _ response => Earns request history message (.resCreateRoom response)
  | .findJoin asked => message = .reqJoinRoom asked
  | .joinRoom ptr uid response =>
      message = .reqJoinRoom ⟨response.requestId, uid, response.roomId⟩ ∧ Located core ptr response.roomId
  | .joinedRoom ptr uid _ response =>
      message = .reqJoinRoom ⟨response.requestId, uid, response.roomId⟩ ∧ Located core ptr response.roomId ∧
        ∃ move ∈ history, AddsMember request ptr uid move
  | .findLeave asked => message = .reqLeaveRoom asked
  | .findLeaveRoom asked _ => message = .reqLeaveRoom asked
  | .leaveRoom _ uid response => ∃ roomId, message = .reqLeaveRoom ⟨response.requestId, roomId, uid⟩
  | .leftRoom ptr uid _ response =>
      (∃ roomId, message = .reqLeaveRoom ⟨response.requestId, roomId, uid⟩) ∧
        ∃ move ∈ history, RemovesMember request ptr uid move
  | .complete response => Earns request history message response
  | .sendResponse response => Earns request history message response
  | .onCreateRoom _ | .onUserEnter .. | .onUserExit .. | .onEmpty _ | .closeImpl _ | .abort => True

def Delivers (history : History) (request : Admitted) (message : ToRoom) : Prop :=
  (request.destination, message) ∈ arrivals history ∧
    ∃ first, requestOf message = some (request.requestId, request.resType, first)

structure Backed (history : History) (state : State) : Prop where
  items : ∀ request stage, Waiting state (.handle request stage) →
    ∃ message, Delivers history request message ∧ stage.earned state.core request history message
  notifications : ∀ destination type notification, Waiting state (.sendNotification destination type notification) →
    notification.requestId = none
  frames : ∀ frame ∈ state.core.outgoing, frame.message.requestId = none ∨
    ∃ request message, request.destination = frame.destination ∧ Delivers history request message ∧
      Earns request history message frame.message

section Histories

variable {request : Admitted} {history : History} {move : Transition State Label} {message : ToRoom}

theorem arrivals_later {arrival : RoutingId × ToRoom} (mem : arrival ∈ arrivals history) :
    arrival ∈ arrivals (history ++ [move]) := by
  rw [arrivals, filterMap_concat]
  exact List.mem_append_left _ mem

theorem Delivers.later (delivers : Delivers history request message) : Delivers (history ++ [move]) request message :=
  ⟨arrivals_later delivers.1, delivers.2⟩

theorem CarriedOut.later {response : ToUser} (performed : CarriedOut request history message response) :
    CarriedOut request (history ++ [move]) message response := by
  have longer : ∀ other ∈ history, other ∈ history ++ [move] := fun _ => List.mem_append_left _
  unfold CarriedOut at performed ⊢
  split at performed
  · obtain ⟨made, mem, registers⟩ := performed
    exact ⟨made, longer _ mem, registers⟩
  · obtain ⟨same, ptr, ⟨enter, mem, enters⟩, index, mem', indexes⟩ := performed
    exact ⟨same, ptr, ⟨enter, longer _ mem, enters⟩, index, longer _ mem', indexes⟩
  · obtain ⟨ptr, ⟨exit, mem, exits⟩, index, mem', unindexes⟩ := performed
    exact ⟨ptr, ⟨exit, longer _ mem, exits⟩, index, longer _ mem', unindexes⟩
  · exact performed

theorem Earns.later {response : ToUser} (earns : Earns request history message response) :
    Earns request (history ++ [move]) message response := by
  apply earns.imp_right
  intro earned
  exact ⟨earned.1, fun success => (earned.2 success).later⟩

theorem earned_later {core after : Core} {stage : Stage} (earned : stage.earned core request history message)
    (kept : ∀ {ptr roomId}, Located core ptr roomId → Located after ptr roomId) :
    stage.earned after request (history ++ [move]) message := by
  have longer : ∀ other ∈ history, other ∈ history ++ [move] := fun _ => List.mem_append_left _
  cases stage with
  | createContents | complete | sendResponse => exact Earns.later earned
  | joinRoom => exact ⟨earned.1, kept earned.2⟩
  | joinedRoom =>
    obtain ⟨asked, located, enter, mem, enters⟩ := earned
    exact ⟨asked, kept located, enter, longer _ mem, enters⟩
  | leftRoom =>
    obtain ⟨asked, exit, mem, exits⟩ := earned
    exact ⟨asked, exit, longer _ mem, exits⟩
  | createRoom | findJoin | findLeave | findLeaveRoom | leaveRoom | onCreateRoom | onUserEnter | onUserExit | onEmpty
  | closeImpl | abort => exact earned

end Histories

section Ran

variable {choice : Choice} {request : Admitted} {stage next : Stage} {effect : Effect} {message : ToRoom}
  {history : History} {move : Transition State Label}

theorem earns_failure {response : ToUser} (answer : answers message response) (failure : succeeds response = false) :
    Earns request history message response :=
  .inr ⟨answer, fun success => by simp [failure] at success⟩

/-- The manager accepts a join of a registered room, and a leave of the room the user is mapped to. -/
theorem joinedRoom_accepts {manager : RoomManager} {uid : Uid} {ptr : RoomPtr} {roomId : RoomId}
    (accepts : (manager.joinedRoom uid ptr roomId).2 = true) :
    manager.rooms[roomId]? = some ptr ∧
      (manager.joinedRoom uid ptr roomId).1.userRooms = manager.userRooms.insert uid roomId := by
  by_cases registered : manager.rooms[roomId]? = some ptr
  · exact ⟨registered, by simp [RoomManager.joinedRoom, registered]⟩
  · simp [RoomManager.joinedRoom, registered] at accepts

theorem leftRoom_accepts {manager : RoomManager} {uid : Uid} {ptr : RoomPtr} {roomId : RoomId}
    (accepts : (manager.leftRoom uid ptr roomId).2 = true) :
    manager.userRooms[uid]? = some roomId ∧
      (manager.leftRoom uid ptr roomId).1.userRooms = manager.userRooms.erase uid := by
  by_cases mapped : manager.userRooms[uid]? = some roomId ∧ manager.rooms[roomId]? = some ptr
  · exact ⟨mapped.1, by simp [RoomManager.leftRoom, mapped]⟩
  · simp [RoomManager.leftRoom, ← not_and_or, mapped] at accepts

section Stages

variable (runs : executed move = some (choice, .handle request stage))
  (ran : Ran choice move.before.core request stage effect) (core : move.after.core = effect.core)
  (earned : stage.earned move.before.core request history message) (new : .handle request next ∈ items effect)
  {ptr : RoomPtr} {uid : Uid}

include runs ran core earned new

theorem earned_of_createRoom {asked : User2RoomReqCreateRoom} (now : stage = .createRoom asked) :
    next.earned effect.core request (history ++ [move]) message := by
  subst now
  cases ran with
  | createLate =>
    obtain rfl : next = .complete (.resCreateRoom {}) := by simpa [items] using new
    exact .inl rfl
  | createStopping =>
    obtain rfl : next = .abort := by simpa [items] using new
    exact trivial
  | created queued running lower upper =>
    obtain rfl : next = .createContents move.before.core.heap.length
      { success := true, requestId := asked.requestId, roomId := choice.draw } := by simpa [items] using new
    subst earned
    apply Or.inr
    refine ⟨rfl, fun _ => ⟨move, by simp, choice, asked, move.before.core.manager.nextStrand, runs, rfl, ?_⟩⟩
    rw [core]
    exact ⟨rfl, rfl, rfl⟩

theorem earned_of_joinRoom {response : User2RoomResJoinRoom} (now : stage = .joinRoom ptr uid response) :
    next.earned effect.core request (history ++ [move]) message := by
  subst now
  obtain ⟨asked, member, stored, same⟩ := earned
  have refused : Earns request (history ++ [move]) message (.resJoinRoom { response with success := false }) :=
    earns_failure (by rw [asked]; rfl) rfl
  cases ran with
  | joinLate | joinClosed =>
    obtain rfl : next = .complete (.resJoinRoom { response with success := false }) := by simpa [items] using new
    exact refused
  | @joinEntered _ _ _ room queued found isOpen =>
    obtain rfl : next = .joinedRoom ptr uid (!room.users.contains uid) response := by simpa [items] using new
    have bound := (List.getElem?_eq_some_iff.mp found).1
    refine ⟨asked, ⟨{ member with users := room.users.insert uid ⟨uid, request.destination⟩ }, ?_, same⟩, move, by simp,
      choice, response, room, runs, found, ?_⟩
    · cases (found_membership found).symm.trans stored
      rw [members_setRoom]
      exact List.getElem?_set_self (by simpa using bound)
    · rw [core]
      exact List.getElem?_set_self bound

theorem earned_of_joinedRoom {inserted : Bool} {response : User2RoomResJoinRoom}
    (now : stage = .joinedRoom ptr uid inserted response) :
    next.earned effect.core request (history ++ [move]) message := by
  subst now
  obtain ⟨asked, ⟨member, stored, same⟩, entered⟩ := earned
  cases ran with
  | @joined _ _ _ _ room found =>
    have verdict : next = .complete (.resJoinRoom { response with
        success := (move.before.core.manager.joinedRoom uid ptr room.roomId).2 }) ∨ next = .onUserEnter ptr uid := by
      cases inserted <;> simp [items] at new <;> tauto
    rcases verdict with rfl | rfl
    · subst asked
      apply Or.inr
      refine ⟨rfl, fun success => ⟨rfl, ptr, ?_, move, by simp, ?_⟩⟩
      · exact entered.imp fun _ enters => ⟨List.mem_append_left _ enters.1, enters.2⟩
      · obtain ⟨registered, records⟩ := joinedRoom_accepts success
        cases (found_membership found).symm.trans stored
        have after : move.after.core.manager.userRooms = move.before.core.manager.userRooms.insert uid room.roomId := by
          rw [core, records]
        refine ⟨⟨choice, inserted, response, room, runs, found, registered, after⟩, ?_⟩
        rw [after, Std.ExtTreeMap.getElem?_insert_self]
        exact congrArg some same
    · exact trivial

theorem earned_of_leaveRoom {response : User2RoomResLeaveRoom} (now : stage = .leaveRoom ptr uid response) :
    next.earned effect.core request (history ++ [move]) message := by
  subst now
  obtain ⟨roomId, asked⟩ := earned
  have refused : Earns request (history ++ [move]) message (.resLeaveRoom { response with success := false }) :=
    earns_failure (by rw [asked]; rfl) rfl
  cases ran with
  | leaveLate | leaveRefused =>
    obtain rfl : next = .complete (.resLeaveRoom { response with success := false }) := by simpa [items] using new
    exact refused
  | @leaveExited _ _ _ room queued found isOpen present =>
    obtain rfl : next = .leftRoom ptr uid (room.users.erase uid).isEmpty response := by simpa [items] using new
    refine ⟨⟨roomId, asked⟩, move, by simp, choice, response, room, runs, found,
      Std.ExtTreeMap.contains_iff_mem.mp present, ?_⟩
    rw [core]
    exact List.getElem?_set_self (List.getElem?_eq_some_iff.mp found).1

theorem earned_of_leftRoom {empty : Bool} {response : User2RoomResLeaveRoom}
    (now : stage = .leftRoom ptr uid empty response) :
    next.earned effect.core request (history ++ [move]) message := by
  subst now
  obtain ⟨⟨roomId, asked⟩, exited⟩ := earned
  cases ran with
  | @left _ _ _ _ room found =>
    rcases (by simpa [items] using new : next = .complete _ ∨ next = .onUserExit ptr uid empty) with rfl | rfl
    · subst asked
      apply Or.inr
      refine ⟨rfl, fun success => ⟨ptr, ?_, move, by simp, ?_⟩⟩
      · exact exited.imp fun _ exits => ⟨List.mem_append_left _ exits.1, exits.2⟩
      · obtain ⟨mapped, records⟩ := leftRoom_accepts success
        exact ⟨choice, empty, response, room, runs, found, mapped, by rw [core, records]⟩
    · exact trivial

theorem earned_of_ran (enlisted : Enlisted move.before) :
    next.earned effect.core request (history ++ [move]) message := by
  cases stage with
  | createRoom => exact earned_of_createRoom runs ran core earned new rfl
  | joinRoom => exact earned_of_joinRoom runs ran core earned new rfl
  | joinedRoom => exact earned_of_joinedRoom runs ran core earned new rfl
  | leaveRoom => exact earned_of_leaveRoom runs ran core earned new rfl
  | leftRoom => exact earned_of_leftRoom runs ran core earned new rfl
  | createContents ptr response =>
    cases ran with
    | contentsThrown =>
      obtain rfl : next = .abort := by simpa [items] using new
      exact trivial
    | contentsCreated found =>
      rcases (by simpa [items] using new : next = .complete _ ∨ next = .onCreateRoom _) with rfl | rfl
      · exact Earns.later earned
      · exact trivial
  | findJoin asked =>
    cases ran with
    | joinUnknown =>
      obtain rfl : next = .complete (.resJoinRoom { requestId := asked.requestId, roomId := asked.roomId }) := by
        simpa [items] using new
      subst earned
      exact earns_failure rfl rfl
    | @joinFound _ ptr room known found =>
      obtain rfl : next = .joinRoom ptr asked.uid { requestId := asked.requestId, roomId := asked.roomId } := by
        simpa [items] using new
      exact ⟨earned, enlisted.member known⟩
  | findLeave asked =>
    cases ran with
    | leaveUnindexed =>
      obtain rfl : next = .complete (.resLeaveRoom { requestId := asked.requestId }) := by
        simpa [items, leaveUnknown] using new
      subst earned
      exact earns_failure rfl rfl
    | leaveIndexed =>
      obtain rfl : next = .findLeaveRoom _ _ := by simpa [items] using new
      exact earned
  | findLeaveRoom asked roomId =>
    cases ran with
    | leaveUnknown =>
      obtain rfl : next = .complete (.resLeaveRoom { requestId := asked.requestId }) := by
        simpa [items, leaveUnknown] using new
      subst earned
      exact earns_failure rfl rfl
    | @leaveFound _ _ ptr room known found =>
      obtain rfl : next = .leaveRoom ptr asked.uid { requestId := asked.requestId } := by simpa [items] using new
      exact ⟨asked.roomId, earned⟩
  | complete response =>
    cases ran
    simp only [items, complete] at new
    split at new
    · obtain rfl : next = .sendResponse response := by simpa using new
      exact Earns.later earned
    · simp at new
  | onUserExit ptr uid empty =>
    cases ran
    cases empty with
    | true =>
      obtain rfl : next = .onEmpty ptr := by simpa [items] using new
      exact trivial
    | false => simp [items] at new
  | onEmpty ptr =>
    cases ran with
    | emptied =>
      obtain rfl : next = .closeImpl _ := by simpa [items] using new
      exact trivial
    | emptyStale => simp [items] at new
  | sendResponse | onCreateRoom | onUserEnter | closeImpl | abort =>
    cases ran
    simp [items] at new

end Stages

end Ran

section Executed

variable {choice : Choice} {core : Core} {task : Task} {effect : Effect}

/-- An item of a request comes from an earlier one or from the message that was admitted. -/
theorem handle_of_executed (executed : Executed choice core task effect) {request : Admitted} {next : Stage}
    (new : .handle request next ∈ items effect) :
    (∃ stage, task = .handle request stage ∧ Ran choice core request stage effect) ∨
      ∃ message, task = .onRecv message ∧ request.destination = core.currentRoute ∧
        requestOf message = some (request.requestId, request.resType, next) := by
  cases executed with
  | received received =>
    cases received with
    | admitted known granted =>
      simp only [items, List.map_nil, List.append_nil, List.mem_singleton, Task.handle.injEq] at new
      obtain ⟨rfl, rfl⟩ := new
      exact .inr ⟨_, rfl, rfl, known⟩
    | ping | forwardUnindexed | forwardIndexed | cancelled | refused => simp [items] at new
  | staged ran =>
    obtain ⟨other, same⟩ := items_of_ran ran _ new
    cases same
    exact .inl ⟨_, rfl, ran⟩
  | broadcast => simp [items, fwdClient] at new
  | forwardStale | forwardFound | forwarded | kickAbsent | kickPresent | kicked | notified | closed => simp [items] at new

theorem notification_of_executed (executed : Executed choice core task effect) {destination : RoutingId}
    {type : MessageType} {notification : ToUser}
    (new : .sendNotification destination type notification ∈ items effect) : notification.requestId = none := by
  cases executed with
  | received received =>
    cases received with
    | ping | forwardUnindexed | forwardIndexed | cancelled | refused | admitted => simp [items] at new
  | staged ran =>
    obtain ⟨other, same⟩ := items_of_ran ran _ new
    cases same
  | broadcast =>
    simp only [items, fwdClient, List.map_nil, List.append_nil, List.mem_map, Task.sendNotification.injEq] at new
    obtain ⟨user, -, -, -, rfl⟩ := new
    rfl
  | kickPresent found present =>
    simp only [items, List.map_nil, List.append_nil, List.mem_cons, Task.sendNotification.injEq, reduceCtorEq,
      List.not_mem_nil, or_false] at new
    obtain ⟨-, -, rfl⟩ := new
    rfl
  | forwardStale | forwardFound | forwarded | kickAbsent | kicked | notified | closed => simp [items] at new

end Executed

section Steps

variable {history : History} {state after : State} {label : Label}

theorem requestOf_earned {core : Core} {request : Admitted} {message : ToRoom} {requestId : Nat} {resType : MessageType}
    {first : Stage} (known : requestOf message = some (requestId, resType, first)) :
    first.earned core request history message := by
  cases message <;> cases known <;> rfl

theorem arrived_mem {source : RoutingId} {message : ToRoom} (arrived : lastDelivery history = some (source, message)) :
    (source, message) ∈ arrivals history :=
  List.mem_of_getLast? arrived

theorem backed_unran (backed : Backed history state) (stepped : Stepped state label after)
    (external : ∀ thread choice, label ≠ .run thread choice) :
    Backed (history ++ [⟨state, label, after⟩]) after := by
  obtain ⟨heap, outgoing, -⟩ := core_unran stepped external
  constructor
  case items =>
    intro request stage waits
    obtain ⟨message, delivers, earned⟩ := backed.items request stage ((handle_unran stepped external).mp waits)
    refine ⟨message, delivers.later, earned_later earned ?_⟩
    intro ptr roomId located
    unfold Located Core.members at located ⊢
    rwa [heap]
  case notifications =>
    intro destination type notification waits
    rcases outer_unran stepped external waits with waits | outer
    · exact backed.notifications destination type notification waits
    · cases outer
  case frames =>
    intro frame mem
    rw [outgoing] at mem
    apply (backed.frames frame mem).imp_right
    rintro ⟨request, message, route, delivers, earns⟩
    exact ⟨request, message, route, delivers.later, earns.later⟩

theorem backed_ran (move : Transition State Label) {thread : Thread} {choice : Choice} {task : Task}
    {before later : Pool Thread Task} {effect : Effect} (backed : Backed history move.before)
    (enlisted : Enlisted move.before) (arrived : Arrived history move.before)
    (runs : executed move = some (choice, task))
    (split : move.before.pool = before ++ (thread, task) :: later) (done : Executed choice move.before.core task effect)
    (after : move.after = ranState thread before later effect) :
    Backed (history ++ [move]) move.after := by
  have waits : Waiting move.before task := (waiting_split split task).mpr (.inl rfl)
  have core : move.after.core = effect.core := by rw [after]
  have kept : ∀ {ptr roomId}, Located move.before.core ptr roomId → Located move.after.core ptr roomId := by
    intro ptr roomId located
    obtain ⟨member, found, same⟩ := located
    obtain ⟨new, stored, sameId, -⟩ := touch_keeps_room (touch_of_executed done) found
    exact ⟨new, by rw [core, stored], sameId.trans same⟩
  constructor
  case items =>
    intro request next new
    rw [after] at new
    rcases (waiting_ran _).mp new with new | still
    · -- a new stage follows the one that ran, or is the first one of a request just received
      rcases handle_of_executed done new with ⟨stage, rfl, ran⟩ | ⟨message, rfl, route, known⟩
      · obtain ⟨message, delivers, earned⟩ := backed.items request stage waits
        refine ⟨message, delivers.later, ?_⟩
        rw [core]
        exact earned_of_ran runs ran core earned new enlisted
      · have last := (arrived (thread, .onRecv message) (by simp [split]) message rfl).2
        refine ⟨message, ⟨arrivals_later (arrived_mem (route ▸ last)), next, known⟩, ?_⟩
        exact requestOf_earned known
    · obtain ⟨message, delivers, earned⟩ := backed.items request next ((waiting_split split _).mpr (.inr still))
      exact ⟨message, delivers.later, earned_later earned kept⟩
  case notifications =>
    intro destination type notification new
    rw [after] at new
    rcases (waiting_ran _).mp new with new | still
    · exact notification_of_executed done new
    · exact backed.notifications destination type notification ((waiting_split split _).mpr (.inr still))
  case frames =>
    have earlier : ∀ frame ∈ move.before.core.outgoing, frame.message.requestId = none ∨
        ∃ request message, request.destination = frame.destination ∧ Delivers (history ++ [move]) request message ∧
          Earns request (history ++ [move]) message frame.message := by
      intro frame mem
      apply (backed.frames frame mem).imp_right
      rintro ⟨request, message, route, delivers, earns⟩
      exact ⟨request, message, route, delivers.later, earns.later⟩
    rw [core]
    rcases outgoing_of_executed done with same | ⟨frame, sends, more⟩
    · rw [same]
      exact earlier
    · rw [more]
      intro other mem
      rcases List.mem_append.mp mem with mem | mem
      · exact earlier other mem
      · cases List.mem_singleton.mp mem
        -- pongs and notifications answer no request
        cases sends with
        | pong => exact .inl rfl
        | @response request response =>
          obtain ⟨message, delivers, earned⟩ := backed.items request _ waits
          exact .inr ⟨request, message, rfl, delivers.later, Earns.later earned⟩
        | notification => exact .inl (backed.notifications _ _ _ waits)

theorem backed_step (backed : Backed history state) (enlisted : Enlisted state) (arrived : Arrived history state)
    (moved : step state label = some after) : Backed (history ++ [⟨state, label, after⟩]) after := by
  have stepped := stepped_of_step moved
  cases stepped with
  | delivered | called | stopped => exact backed_unran backed (stepped_of_step moved) (by simp)
  | @ran thread choice task before later effect split quiet done =>
    exact backed_ran ⟨state, .run thread choice, _⟩ backed enlisted arrived
      (executed_ran choice _ split quiet) split done rfl

theorem backed_reached (run : Reaches history state) : Backed history state := by
  apply run.history Backed
  · constructor <;> simp [initial, Waiting]
  · intro past move reached backed moved mem
    exact backed_step backed (enlisted_reached reached) (arrived_reached reached) moved

end Steps

/-! ## Refused creates -/

def NamesCreated (response : ToUser) : Prop :=
  ∀ created, response = .resCreateRoom created → created.success = true ∨ created.roomId = 0

def Stage.ready : Stage → Option ToUser
  | .createContents _ response => some (.resCreateRoom response)
  | .complete response | .sendResponse response => some response
  | _ => none

structure Naming (state : State) : Prop where
  items : ∀ request stage, Waiting state (.handle request stage) → ∀ response ∈ stage.ready, NamesCreated response
  frames : ∀ frame ∈ state.core.outgoing, NamesCreated frame.message

section Naming

variable {history : History} {state after : State} {label : Label}

theorem naming_unasked {response : ToUser} (unasked : response.requestId = none) : NamesCreated response := by
  rintro created rfl
  cases unasked

theorem naming_of_ran {choice : Choice} {core : Core} {request : Admitted} {stage next : Stage} {effect : Effect}
    (ran : Ran choice core request stage effect) (naming : ∀ response ∈ stage.ready, NamesCreated response)
    (new : .handle request next ∈ items effect) : ∀ response ∈ next.ready, NamesCreated response := by
  -- Only a create makes a response to one: with a success for the new room, or with nothing in it.
  cases ran with
  | createLate =>
    obtain rfl : next = .complete (.resCreateRoom {}) := by simpa [items] using new
    rintro response ⟨⟩ created ⟨⟩
    exact .inr rfl
  | created =>
    obtain rfl := (by simpa [items] using new : next = .createContents _ _)
    rintro response ⟨⟩ created ⟨⟩
    exact .inl rfl
  | contentsCreated found =>
    rcases (by simpa [items] using new : next = .complete _ ∨ next = .onCreateRoom _) with rfl | rfl
    · exact naming
    · simp [Stage.ready]
  | @completed response =>
    simp only [items, complete] at new
    split at new
    · obtain rfl : next = .sendResponse response := by simpa using new
      exact naming
    · simp at new
  | @joined ptr uid inserted response room found =>
    have verdict : next = .complete (.resJoinRoom { response with
        success := (core.manager.joinedRoom uid ptr room.roomId).2 }) ∨ next = .onUserEnter ptr uid := by
      cases inserted <;> simp [items] at new <;> tauto
    rcases verdict with rfl | rfl <;> simp [Stage.ready, NamesCreated]
  | left =>
    rcases (by simpa [items] using new : next = .complete _ ∨ next = .onUserExit _ _ _) with rfl | rfl <;>
      simp [Stage.ready, NamesCreated]
  | @exitNotified ptr uid empty after called =>
    cases empty with
    | true =>
      obtain rfl : next = .onEmpty ptr := by simpa [items] using new
      simp [Stage.ready]
    | false => simp [items] at new
  | createStopping | contentsThrown | joinUnknown | joinFound | joinLate | joinClosed | joinEntered | leaveUnindexed
  | leaveIndexed | leaveUnknown | leaveFound | leaveLate | leaveRefused | leaveExited | emptied =>
    simp only [items, leaveUnknown, List.map_nil, List.append_nil, List.map_cons, List.nil_append, List.mem_singleton,
      Task.handle.injEq, true_and] at new
    subst new
    simp [Stage.ready, NamesCreated]
  | createNotified | enterNotified | emptyStale | closed | sent | aborted => simp [items] at new

theorem naming_step (naming : Naming state) (backed : Backed history state) (moved : step state label = some after) :
    Naming after := by
  have unran : (∀ thread choice, label ≠ .run thread choice) → Naming after := by
    intro external
    have stepped := stepped_of_step moved
    constructor
    · intro request stage waits
      exact naming.items request stage ((handle_unran stepped external).mp waits)
    · rw [(core_unran stepped external).2.1]
      exact naming.frames
  cases stepped_of_step moved with
  | delivered | called | stopped => exact unran (by simp)
  | @ran thread choice task before later effect split quiet done =>
    have waits : Waiting state task := (waiting_split split task).mpr (.inl rfl)
    constructor
    · intro request next new
      rcases (waiting_ran _).mp new with new | still
      · rcases handle_of_executed done new with ⟨stage, rfl, ran⟩ | ⟨message, rfl, -, known⟩
        · exact naming_of_ran ran (naming.items request stage waits) new
        · have initial := (requestOf_serves known).1
          cases next <;> first | simp [Stage.ready]; done | cases initial
      · exact naming.items request next ((waiting_split split _).mpr (.inr still))
    · rcases outgoing_of_executed done with same | ⟨frame, sends, more⟩
      · exact same ▸ naming.frames
      · have fresh : NamesCreated frame.message := by
          cases sends with
          | pong => exact naming_unasked rfl
          | response => exact naming.items _ _ waits _ rfl
          | notification => exact naming_unasked (backed.notifications _ _ _ waits)
        rw [more]
        intro other mem
        rcases List.mem_append.mp mem with mem | mem
        · exact naming.frames other mem
        · exact List.mem_singleton.mp mem ▸ fresh

theorem naming_reached (run : Reaches history state) : Naming state := by
  apply run.history fun _ state => Naming state
  · constructor <;> simp [initial, Waiting]
  · intro past move reached naming moved mem
    exact naming_step naming (backed_reached reached) moved

end Naming

/-! ## How often a request is carried out -/

/-- A request changes the members of a room, and it changes the index of the manager. -/
inductive Half where
  | members
  | index
  deriving DecidableEq, Repr

def Stage.does : Half → Stage → Bool
  | .members, .createRoom _ | .members, .joinRoom .. | .members, .leaveRoom .. => true
  | .index, .createRoom _ | .index, .joinedRoom .. | .index, .leftRoom .. => true
  | _, _ => false

def Stage.due : Half → Stage → Bool
  | .index, .joinedRoom .. | .index, .leftRoom .. => true
  | _, stage => stage.initial

def Task.does (half : Half) (key : RequestKey) : Task → Bool
  | .handle request stage => request.key = key && stage.does half
  | _ => false

def Task.due (route : RoutingId) (half : Half) (key : RequestKey) : Task → Bool
  | .onRecv message => (requestOf message).any fun found => (route, found.1) = key
  | .handle request stage => request.key = key && stage.due half
  | _ => false

def executions (half : Half) (key : RequestKey) (history : History) : Nat :=
  history.countP fun move => (executed move).any fun found => found.2.does half key

def requested (key : RequestKey) (history : History) : Nat :=
  (arrivals history).countP fun arrival => (requestOf arrival.2).any fun found => (arrival.1, found.1) = key

section Executions

variable {choice : Choice} {core : Core} {task : Task} {effect : Effect} {half : Half} {key : RequestKey}

/-- The items of an effect that may still lead to a half, and the half the stage itself carries out. -/
theorem due_of_ran {request : Admitted} {stage : Stage} (ran : Ran choice core request stage effect) :
    (items effect).countP (Task.due core.currentRoute half key) + ((Task.handle request stage).does half key).toNat ≤
      ((Task.handle request stage).due core.currentRoute half key).toNat := by
  by_cases mine : request.key = key
  · cases ran with
    | @joined ptr uid inserted response room found =>
      cases half <;> cases inserted <;> simp [items, Task.due, Task.does, Stage.due, Stage.does, Stage.initial, mine]
    | @exitNotified ptr uid empty after called =>
      cases half <;> cases empty <;> simp [items, Task.due, Task.does, Stage.due, Stage.does, Stage.initial]
    | completed =>
      simp only [items, complete]
      cases half <;> split <;> simp [Task.due, Task.does, Stage.due, Stage.does, Stage.initial]
    | createLate | createStopping | created | contentsThrown | contentsCreated | createNotified | joinUnknown | joinFound
    | joinLate | joinClosed | joinEntered | enterNotified | leaveUnindexed | leaveIndexed | leaveUnknown | leaveFound
    | leaveLate | leaveRefused | leaveExited | left | emptied | emptyStale | closed | sent | aborted =>
      cases half <;>
        simp [items, leaveUnknown, Task.due, Task.does, Stage.due, Stage.does, Stage.initial, mine]
  · have none : (items effect).countP (Task.due core.currentRoute half key) = 0 := by
      apply List.countP_eq_zero.mpr
      intro item mem
      obtain ⟨next, rfl⟩ := items_of_ran ran item mem
      simp [Task.due, mine]
    simp [none, Task.does, mine]

theorem due_of_executed (executed : Executed choice core task effect) :
    (items effect).countP (Task.due core.currentRoute half key) + (task.does half key).toNat ≤
      (task.due core.currentRoute half key).toNat := by
  cases executed with
  | received received =>
    cases received with
    | @admitted message requestId resType first ticket known granted =>
      obtain ⟨initial, -⟩ := requestOf_serves known
      have due : first.due half = true := by
        cases half <;> cases first <;> first | rfl | cases initial
      by_cases mine : (core.currentRoute, requestId) = key
      · simp [items, Task.due, Task.does, known, Admitted.key, due, mine]
      · simp [items, Task.due, Task.does, known, Admitted.key, mine]
    | ping | forwardUnindexed | forwardIndexed | cancelled | refused => simp [items, Task.due, Task.does]
  | staged ran => exact due_of_ran ran
  | broadcast => simp [items, fwdClient, Task.due, Task.does, List.countP_map]
  | forwardStale | forwardFound | forwarded | kickAbsent | kickPresent | kicked | notified | closed =>
    simp [items, Task.due, Task.does]

def Counted (half : Half) (key : RequestKey) (history : History) (state : State) : Prop :=
  executions half key history + state.pool.countP (fun entry => entry.2.due state.core.currentRoute half key) ≤
    requested key history

theorem executions_concat (history : History) (move : Transition State Label) :
    executions half key (history ++ [move]) = executions half key history +
      ((executed move).any fun found => found.2.does half key).toNat := by
  rw [executions, List.countP_append, List.countP_singleton, ← executions]
  cases (executed move).any fun found => found.2.does half key <;> rfl

theorem counted_ran {history : History} {state : State} {thread : Thread} {before later : Pool Thread Task}
    (counted : Counted half key history state) (split : state.pool = before ++ (thread, task) :: later)
    (quiet : Pool.idle before thread) (done : Executed choice state.core task effect) :
    Counted half key (history ++ [⟨state, .run thread choice, ranState thread before later effect⟩])
      (ranState thread before later effect) := by
  have spent : _ ≤ (task.due state.core.currentRoute half key).toNat := due_of_executed done
  have unasked : ∀ after, requested key (history ++ [⟨state, .run thread choice, after⟩]) = requested key history := by
    intro after
    simp [requested, arrivals]
  unfold Counted at counted ⊢
  rw [unasked, executions_concat, executed_ran choice _ split quiet, countP_ran, (route_of_executed done).1]
  rw [countP_split _ split] at counted
  simp only [Option.any_some]
  omega

theorem counted_delivered {history : History} {state : State} {source : RoutingId} {message : ToRoom}
    (counted : Counted half key history state) (arrived : Arrived history state) (quiet : state.pool.idle .router) :
    Counted half key
      (history ++ [⟨state, .deliver source message,
        ⟨{ state.core with currentRoute := source }, state.pool ++ [(.router, .onRecv message)]⟩⟩])
      ⟨{ state.core with currentRoute := source }, state.pool ++ [(.router, .onRecv message)]⟩ := by
  have same : state.pool.countP (fun entry => entry.2.due source half key) =
      state.pool.countP fun entry => entry.2.due state.core.currentRoute half key := by
    apply List.countP_congr
    rintro ⟨thread, task⟩ mem
    cases task with
    | onRecv received => exact absurd (arrived _ mem received rfl).1 (quiet _ mem)
    | _ => rfl
  unfold Counted at counted ⊢
  rw [executions_concat, List.countP_append, same]
  simp only [requested, arrivals, filterMap_concat, List.countP_append, Option.toList_some, List.countP_singleton,
    executed, Option.any_none, Bool.toNat_false, Task.due] at counted ⊢
  omega

theorem counted_step {history : History} {state after : State} {label : Label}
    (counted : Counted half key history state) (arrived : Arrived history state)
    (moved : step state label = some after) : Counted half key (history ++ [⟨state, label, after⟩]) after := by
  have internal : (∀ thread choice, label ≠ .run thread choice) → (∀ source message, label ≠ .deliver source message) →
      executed ⟨state, label, after⟩ = none → Counted half key (history ++ [⟨state, label, after⟩]) after := by
    intro external undelivered idle
    obtain ⟨posts, pool, posted⟩ := posts_unran (stepped_of_step moved) external
    have none : posts.countP (fun entry => entry.2.due state.core.currentRoute half key) = 0 := by
      apply List.countP_eq_zero.mpr
      rintro ⟨thread, task⟩ mem
      obtain ⟨outer, -, received⟩ := posted _ mem
      cases task with
      | onRecv message =>
        obtain ⟨source, delivered⟩ := received message rfl
        exact absurd delivered (undelivered source message)
      | handle => cases outer
      | _ => simp [Task.due]
    have unasked : requested key (history ++ [⟨state, label, after⟩]) = requested key history := by
      cases label with
      | deliver source message => exact absurd rfl (undelivered source message)
      | _ => simp [requested, arrivals]
    unfold Counted at counted ⊢
    rw [unasked, executions_concat, idle, (core_unran (stepped_of_step moved) external).2.2 undelivered, pool,
      List.countP_append, none]
    simpa using counted
  cases stepped_of_step moved with
  | delivered quiet => exact counted_delivered counted arrived quiet
  | ran split quiet done => exact counted_ran counted split quiet done
  | called | stopped => exact internal (by simp) (by simp) rfl

theorem counted_reached {history : History} {state : State} (run : Reaches history state) (half : Half)
    (key : RequestKey) : Counted half key history state := by
  apply run.history (Counted half key)
  · simp [Counted, executions, initial]
  · intro past move reached counted moved mem
    exact counted_step counted (arrived_reached reached) moved

end Executions

end Rsp.RoomServer
