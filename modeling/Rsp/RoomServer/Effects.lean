import Rsp.Foundation.Heap
import Rsp.RoomServer.Server

/-! What an item can do to room membership, and where its continuation runs.

Every membership result is derived from the classification `Touch` of this module, so
that the handlers are unfolded once.
-/

set_option autoImplicit false

namespace Rsp.RoomServer

open Message Foundation

/-! ## The membership view -/

/-- The part of a room that decides who belongs to it. -/
structure Membership where
  roomId : RoomId
  strand : Fin 3
  lifecycle : Lifecycle
  users : Std.ExtTreeMap Uid User

def Room.membership (self : Room) : Membership := ⟨self.roomId, self.strand, self.lifecycle, self.users⟩

def Core.members (self : Core) : List Membership := self.heap.map Room.membership

theorem members_get (core : Core) (ptr : RoomPtr) : core.members[ptr]? = (core.heap[ptr]?).map Room.membership := by
  simp [Core.members]

@[simp] theorem members_length (core : Core) : core.members.length = core.heap.length := by
  simp [Core.members]

@[simp] theorem members_setRoom (core : Core) (ptr : RoomPtr) (room : Room) :
    (core.setRoom ptr room).members = core.members.set ptr room.membership := by
  simp [Core.members, Core.setRoom, List.map_set]

@[simp] theorem manager_setRoom (core : Core) (ptr : RoomPtr) (room : Room) :
    (core.setRoom ptr room).manager = core.manager := rfl

@[simp] theorem start_members (core : Core) (request : Admitted) : (core.start request).1.members = core.members := rfl

@[simp] theorem start_manager (core : Core) (request : Admitted) : (core.start request).1.manager = core.manager := rfl

@[simp] theorem start_heap (core : Core) (request : Admitted) : (core.start request).1.heap = core.heap := rfl

theorem members_set_same {core : Core} {ptr : RoomPtr} {room : Room} {member : Membership}
    (found : core.heap[ptr]? = some room) (same : member = room.membership) :
    core.members.set ptr member = core.members := by
  refine heap_set_self ?_
  rw [members_get, found, same]
  rfl

theorem callback_members {core after : Core} {ptr : RoomPtr} {call : Callback}
    (called : core.callback ptr call = some after) :
    after.members = core.members ∧ after.manager = core.manager := by
  simp only [Core.callback, Room.callback, Option.bind_eq_bind, Option.pure_def, Option.bind_eq_some_iff] at called
  obtain ⟨room, found, room', invoked, same⟩ := called
  split at invoked
  · cases invoked
    cases same
    rw [members_setRoom]
    exact ⟨members_set_same found rfl, rfl⟩
  · cases invoked

/-! ## Inversion of the request handlers -/

theorem start_late {core : Core} {request : Admitted} (late : core.registry.state request.ticket ≠ some .kQueued) :
    core.start request = (core, false) := by
  simp [Core.start, QueuedRequests.tryStart, late]

theorem start_queued {core : Core} {request : Admitted} (queued : core.registry.state request.ticket = some .kQueued) :
    (core.start request).2 = true := by
  simp [Core.start, QueuedRequests.tryStart, queued]

inductive Ran (choice : Choice) (core : Core) (request : Admitted) : Stage → Effect → Prop where
  | createLate {message : User2RoomReqCreateRoom} (late : core.registry.state request.ticket ≠ some .kQueued) :
      Ran choice core request (.createRoom message)
        { core, next := [.handle request (.complete (.resCreateRoom {}))] }
  | createStopping {message : User2RoomReqCreateRoom} (queued : core.registry.state request.ticket = some .kQueued)
      (stopping : core.manager.stopping = true) :
      Ran choice core request (.createRoom message)
        { core := (core.start request).1, next := [.handle request .abort] }
  | created {message : User2RoomReqCreateRoom} (queued : core.registry.state request.ticket = some .kQueued)
      (running : core.manager.stopping = false) (lower : 10000 ≤ choice.draw) (upper : choice.draw ≤ 100000) :
      Ran choice core request (.createRoom message)
        { core := { (core.start request).1 with
            manager := { core.manager with
              rooms := core.manager.rooms.insert choice.draw core.heap.length
              userRooms := core.manager.userRooms.insert message.uid choice.draw }
            heap := core.heap ++
              [Room.make choice.draw ⟨message.uid, request.destination⟩ core.manager.nextStrand] }
          next := [.handle request (.createContents core.heap.length
            { success := true, requestId := message.requestId, roomId := choice.draw })] }
  | contentsThrown {ptr : RoomPtr} {response : User2RoomResCreateRoom} (thrown : choice.contentsCreated = false) :
      Ran choice core request (.createContents ptr response) { core, next := [.handle request .abort] }
  | contentsCreated {ptr : RoomPtr} {response : User2RoomResCreateRoom} {room : Room}
      (found : core.heap[ptr]? = some room) :
      Ran choice core request (.createContents ptr response)
        { core := core.setRoom ptr { room with contents := true }
          next := [.handle request (.complete (.resCreateRoom response))]
          posts := [(.strand room.strand, .handle request (.onCreateRoom ptr))] }
  | createNotified {ptr : RoomPtr} {room : Room} {after : Core} (found : core.heap[ptr]? = some room)
      (called : core.callback ptr (.onCreateRoom room.roomId) = some after) :
      Ran choice core request (.onCreateRoom ptr) { core := after }
  | joinUnknown {message : User2RoomReqJoinRoom} (unknown : core.manager.rooms[message.roomId]? = none) :
      Ran choice core request (.findJoin message)
        { core := (core.start request).1
          next := [.handle request (.complete (.resJoinRoom
            { requestId := message.requestId, roomId := message.roomId }))] }
  | joinFound {message : User2RoomReqJoinRoom} {ptr : RoomPtr} {room : Room}
      (known : core.manager.rooms[message.roomId]? = some ptr) (found : core.heap[ptr]? = some room) :
      Ran choice core request (.findJoin message)
        { core, posts := [(.strand room.strand, .handle request (.joinRoom ptr message.uid
            { requestId := message.requestId, roomId := message.roomId }))] }
  | joinLate {ptr : RoomPtr} {uid : Uid} {response : User2RoomResJoinRoom}
      (late : core.registry.state request.ticket ≠ some .kQueued) :
      Ran choice core request (.joinRoom ptr uid response)
        { core, next := [.handle request (.complete (.resJoinRoom { response with success := false }))] }
  | joinClosed {ptr : RoomPtr} {uid : Uid} {response : User2RoomResJoinRoom} {room : Room}
      (queued : core.registry.state request.ticket = some .kQueued) (found : core.heap[ptr]? = some room)
      (closed : room.lifecycle ≠ .kOpen) :
      Ran choice core request (.joinRoom ptr uid response)
        { core := (core.start request).1
          next := [.handle request (.complete (.resJoinRoom { response with success := false }))] }
  | joinEntered {ptr : RoomPtr} {uid : Uid} {response : User2RoomResJoinRoom} {room : Room}
      (queued : core.registry.state request.ticket = some .kQueued) (found : core.heap[ptr]? = some room)
      (isOpen : room.lifecycle = .kOpen) :
      Ran choice core request (.joinRoom ptr uid response)
        { core := (core.start request).1.setRoom ptr
            { room with users := room.users.insert uid ⟨uid, request.destination⟩ }
          next := [.handle request (.joinedRoom ptr uid (!room.users.contains uid) response)] }
  | joined {ptr : RoomPtr} {uid : Uid} {inserted : Bool} {response : User2RoomResJoinRoom} {room : Room}
      (found : core.heap[ptr]? = some room) :
      Ran choice core request (.joinedRoom ptr uid inserted response)
        { core := { core with manager := (core.manager.joinedRoom uid ptr room.roomId).1 }
          next := .handle request (.complete (.resJoinRoom
              { response with success := (core.manager.joinedRoom uid ptr room.roomId).2 })) ::
            (if inserted then [.handle request (.onUserEnter ptr uid)] else []) }
  | enterNotified {ptr : RoomPtr} {uid : Uid} {after : Core}
      (called : core.callback ptr (.onUserEnter uid) = some after) :
      Ran choice core request (.onUserEnter ptr uid) { core := after }
  | leaveUnindexed {message : User2RoomReqLeaveRoom} (unindexed : core.manager.userRooms[message.uid]? = none) :
      Ran choice core request (.findLeave message) (leaveUnknown request message core)
  | leaveIndexed {message : User2RoomReqLeaveRoom} {roomId : RoomId}
      (indexed : core.manager.userRooms[message.uid]? = some roomId) :
      Ran choice core request (.findLeave message)
        { core, next := [.handle request (.findLeaveRoom message roomId)] }
  | leaveUnknown {message : User2RoomReqLeaveRoom} {roomId : RoomId} (unknown : core.manager.rooms[roomId]? = none) :
      Ran choice core request (.findLeaveRoom message roomId) (leaveUnknown request message core)
  | leaveFound {message : User2RoomReqLeaveRoom} {roomId : RoomId} {ptr : RoomPtr} {room : Room}
      (known : core.manager.rooms[roomId]? = some ptr) (found : core.heap[ptr]? = some room) :
      Ran choice core request (.findLeaveRoom message roomId)
        { core, posts := [(.strand room.strand, .handle request (.leaveRoom ptr message.uid
            { requestId := message.requestId }))] }
  | leaveLate {ptr : RoomPtr} {uid : Uid} {response : User2RoomResLeaveRoom}
      (late : core.registry.state request.ticket ≠ some .kQueued) :
      Ran choice core request (.leaveRoom ptr uid response)
        { core, next := [.handle request (.complete (.resLeaveRoom { response with success := false }))] }
  | leaveRefused {ptr : RoomPtr} {uid : Uid} {response : User2RoomResLeaveRoom} {room : Room}
      (queued : core.registry.state request.ticket = some .kQueued) (found : core.heap[ptr]? = some room)
      (refused : room.lifecycle ≠ .kOpen ∨ ¬ room.users.contains uid) :
      Ran choice core request (.leaveRoom ptr uid response)
        { core := (core.start request).1
          next := [.handle request (.complete (.resLeaveRoom { response with success := false }))] }
  | leaveExited {ptr : RoomPtr} {uid : Uid} {response : User2RoomResLeaveRoom} {room : Room}
      (queued : core.registry.state request.ticket = some .kQueued) (found : core.heap[ptr]? = some room)
      (isOpen : room.lifecycle = .kOpen) (present : room.users.contains uid) :
      Ran choice core request (.leaveRoom ptr uid response)
        { core := (core.start request).1.setRoom ptr { room with users := room.users.erase uid }
          next := [.handle request (.leftRoom ptr uid (room.users.erase uid).isEmpty response)] }
  | left {ptr : RoomPtr} {uid : Uid} {empty : Bool} {response : User2RoomResLeaveRoom} {room : Room}
      (found : core.heap[ptr]? = some room) :
      Ran choice core request (.leftRoom ptr uid empty response)
        { core := { core with manager := (core.manager.leftRoom uid ptr room.roomId).1 }
          next := [.handle request (.complete (.resLeaveRoom
              { response with success := (core.manager.leftRoom uid ptr room.roomId).2 })),
            .handle request (.onUserExit ptr uid empty)] }
  | exitNotified {ptr : RoomPtr} {uid : Uid} {empty : Bool} {after : Core}
      (called : core.callback ptr (.onUserExit uid) = some after) :
      Ran choice core request (.onUserExit ptr uid empty)
        { core := after, next := if empty then [.handle request (.onEmpty ptr)] else [] }
  | emptied {ptr : RoomPtr} {room : Room} (found : core.heap[ptr]? = some room)
      (registered : core.manager.rooms[room.roomId]? = some ptr) :
      Ran choice core request (.onEmpty ptr)
        { core := { core with manager := { core.manager with
            rooms := core.manager.rooms.erase room.roomId
            userRooms := core.manager.userRooms.filter fun _ joined => joined ≠ room.roomId } }
          next := [.handle request (.closeImpl ptr)] }
  | emptyStale {ptr : RoomPtr} {room : Room} (found : core.heap[ptr]? = some room)
      (stale : core.manager.rooms[room.roomId]? ≠ some ptr) :
      Ran choice core request (.onEmpty ptr) { core }
  | closed {ptr : RoomPtr} {room : Room} (found : core.heap[ptr]? = some room) :
      Ran choice core request (.closeImpl ptr) { core := core.setRoom ptr room.closeImpl }
  | completed {response : ToUser} :
      Ran choice core request (.complete response) (complete choice request response core)
  | sent {response : ToUser} :
      Ran choice core request (.sendResponse response)
        { core := core.send ⟨request.destination, request.resType, response⟩ }
  | aborted : Ran choice core request .abort
      { core := { core with registry := (core.registry.finish request.key request.ticket choice.now).1 } }

section Inversion

variable {choice : Choice} {request : Admitted} {core : Core} {ptr : RoomPtr} {uid : Uid} {effect : Effect}

theorem post_eq {task : Task} (done : core.post ptr task = some effect) :
    ∃ room, core.heap[ptr]? = some room ∧ effect = { core, posts := [(.strand room.strand, task)] } := by
  simp only [Core.post, Option.bind_eq_bind, Option.pure_def, Option.bind_eq_some_iff, Option.some.injEq] at done
  obtain ⟨room, found, rfl⟩ := done
  exact ⟨room, found, rfl⟩

theorem ran_createRoom {message : User2RoomReqCreateRoom}
    (done : createRoom choice request message core = some effect) :
    Ran choice core request (.createRoom message) effect := by
  simp only [createRoom] at done
  by_cases queued : core.registry.state request.ticket = some .kQueued
  · simp only [start_queued queued, Bool.not_true, Bool.false_eq_true, if_false] at done
    split at done
    · cases done
    · next range =>
      simp only [not_or, Nat.not_lt] at range
      simp only [RoomManager.createRoom, start_manager] at done
      cases running : core.manager.stopping with
      | true =>
        simp only [running, if_true, Option.some.injEq] at done
        cases done
        exact .createStopping queued running
      | false =>
        simp only [running, Bool.false_eq_true, if_false, Option.some.injEq] at done
        rw [← running] at done
        cases done
        exact .created queued running range.1 range.2
  · simp only [start_late queued, Bool.not_false, if_true, Option.some.injEq] at done
    cases done
    exact .createLate queued

theorem ran_createContents {response : User2RoomResCreateRoom}
    (done : createContents choice request ptr response core = some effect) :
    Ran choice core request (.createContents ptr response) effect := by
  simp only [createContents] at done
  split at done
  · next thrown =>
    cases done
    exact .contentsThrown (by simpa using thrown)
  · simp only [Option.bind_eq_bind, Option.pure_def, Option.bind_eq_some_iff, Option.some.injEq] at done
    obtain ⟨room, found, rfl⟩ := done
    exact .contentsCreated found

theorem ran_joinRoom {response : User2RoomResJoinRoom}
    (done : joinRoom request ptr uid response core = some effect) :
    Ran choice core request (.joinRoom ptr uid response) effect := by
  simp only [joinRoom] at done
  by_cases queued : core.registry.state request.ticket = some .kQueued
  · simp only [start_queued queued, Bool.not_true, Bool.false_eq_true, if_false, Option.bind_eq_bind,
      Option.bind_eq_some_iff, start_heap] at done
    obtain ⟨room, found, done⟩ := done
    simp only [Room.join] at done
    by_cases isOpen : room.lifecycle = .kOpen
    · simp only [isOpen, ne_eq, not_true_eq_false, if_false, Option.some.injEq] at done
      rw [← isOpen] at done
      cases done
      exact .joinEntered queued found isOpen
    · simp only [ne_eq, isOpen, not_false_eq_true, if_true, Option.some.injEq] at done
      cases done
      exact .joinClosed queued found isOpen
  · simp only [start_late queued, Bool.not_false, if_true, Option.some.injEq] at done
    cases done
    exact .joinLate queued

theorem ran_leaveRoom {response : User2RoomResLeaveRoom}
    (done : leaveRoom request ptr uid response core = some effect) :
    Ran choice core request (.leaveRoom ptr uid response) effect := by
  simp only [leaveRoom] at done
  by_cases queued : core.registry.state request.ticket = some .kQueued
  · simp only [start_queued queued, Bool.not_true, Bool.false_eq_true, if_false, Option.bind_eq_bind,
      Option.bind_eq_some_iff, start_heap] at done
    obtain ⟨room, found, done⟩ := done
    simp only [Room.leave] at done
    by_cases refused : room.lifecycle ≠ .kOpen ∨ ¬ room.users.contains uid
    · simp only [refused, if_true, Option.some.injEq] at done
      cases done
      exact .leaveRefused queued found refused
    · simp only [refused, if_false, Option.some.injEq] at done
      cases done
      simp only [ne_eq, not_or, not_not] at refused
      exact .leaveExited queued found refused.1 refused.2
  · simp only [start_late queued, Bool.not_false, if_true, Option.some.injEq] at done
    cases done
    exact .leaveLate queued

theorem ran_onEmpty (done : onEmpty request ptr core = some effect) :
    Ran choice core request (.onEmpty ptr) effect := by
  simp only [onEmpty, Option.bind_eq_bind, Option.pure_def, Option.bind_eq_some_iff, Option.some.injEq] at done
  obtain ⟨room, found, rfl⟩ := done
  by_cases registered : core.manager.rooms[room.roomId]? = some ptr
  · simp only [RoomManager.closeRoom, registered, ne_eq, not_true_eq_false, if_false, if_true]
    exact .emptied found registered
  · simp only [RoomManager.closeRoom, ne_eq, registered, not_false_eq_true, if_true, Bool.false_eq_true, if_false]
    exact .emptyStale found registered

theorem ran_of_exec {stage : Stage} (done : execStage choice request core stage = some effect) :
    Ran choice core request stage effect := by
  cases stage with
  | createRoom message => exact ran_createRoom done
  | createContents ptr response => exact ran_createContents done
  | onCreateRoom ptr =>
    simp only [execStage, Option.bind_eq_bind, Option.pure_def, Option.bind_eq_some_iff, Option.some.injEq] at done
    obtain ⟨room, found, after, called, rfl⟩ := done
    exact .createNotified found called
  | findJoin message =>
    simp only [execStage, findJoin] at done
    split at done
    · next unknown =>
      cases done
      exact .joinUnknown unknown
    · next known =>
      obtain ⟨room, found, rfl⟩ := post_eq done
      exact .joinFound known found
  | joinRoom ptr uid response => exact ran_joinRoom done
  | joinedRoom ptr uid inserted response =>
    simp only [execStage, joinedRoom, Option.bind_eq_bind, Option.pure_def, Option.bind_eq_some_iff,
      Option.some.injEq] at done
    obtain ⟨room, found, rfl⟩ := done
    exact .joined found
  | onUserEnter ptr uid =>
    simp only [execStage, Option.bind_eq_bind, Option.pure_def, Option.bind_eq_some_iff, Option.some.injEq] at done
    obtain ⟨after, called, rfl⟩ := done
    exact .enterNotified called
  | findLeave message =>
    simp only [execStage, findLeave] at done
    split at done
    · next unindexed =>
      cases done
      exact .leaveUnindexed unindexed
    · next indexed =>
      cases done
      exact .leaveIndexed indexed
  | findLeaveRoom message roomId =>
    simp only [execStage, findLeaveRoom] at done
    split at done
    · next unknown =>
      cases done
      exact .leaveUnknown unknown
    · next known =>
      obtain ⟨room, found, rfl⟩ := post_eq done
      exact .leaveFound known found
  | leaveRoom ptr uid response => exact ran_leaveRoom done
  | leftRoom ptr uid empty response =>
    simp only [execStage, leftRoom, Option.bind_eq_bind, Option.pure_def, Option.bind_eq_some_iff,
      Option.some.injEq] at done
    obtain ⟨room, found, rfl⟩ := done
    exact .left found
  | onUserExit ptr uid empty =>
    simp only [execStage, onUserExit, Option.bind_eq_bind, Option.pure_def, Option.bind_eq_some_iff,
      Option.some.injEq] at done
    obtain ⟨after, called, rfl⟩ := done
    exact .exitNotified called
  | onEmpty ptr => exact ran_onEmpty done
  | closeImpl ptr =>
    simp only [execStage, closeImpl, Option.bind_eq_bind, Option.pure_def, Option.bind_eq_some_iff,
      Option.some.injEq] at done
    obtain ⟨room, found, rfl⟩ := done
    exact .closed found
  | complete response =>
    cases done
    exact .completed
  | sendResponse response =>
    cases done
    exact .sent
  | abort =>
    cases done
    exact .aborted

end Inversion

inductive Received (choice : Choice) (core : Core) : ToRoom → Effect → Prop where
  | ping : Received choice core .ping { core := core.send ⟨core.currentRoute, .kPong, .pong⟩ }
  | forwardUnindexed {notification : User2RoomFwdRoom}
      (unindexed : core.manager.userRooms[notification.uid]? = none) :
      Received choice core (.fwdRoom notification) { core }
  | forwardIndexed {notification : User2RoomFwdRoom} {roomId : RoomId}
      (indexed : core.manager.userRooms[notification.uid]? = some roomId) :
      Received choice core (.fwdRoom notification) { core, next := [.findForward notification roomId] }
  | cancelled {notification : User2RoomCancelRequest} :
      Received choice core (.cancelRequest notification)
        { core := { core with
            registry := core.registry.cancel (core.currentRoute, notification.requestId) choice.now } }
  | refused {message : ToRoom} {requestId : Nat} {resType : MessageType} {first : Stage}
      (known : requestOf message = some (requestId, resType, first))
      (refused : (core.registry.admitRequest (core.currentRoute, requestId) choice.now).2 = none) :
      Received choice core message { core := { core with
        registry := (core.registry.admitRequest (core.currentRoute, requestId) choice.now).1 } }
  | admitted {message : ToRoom} {requestId : Nat} {resType : MessageType} {first : Stage} {ticket : Ticket}
      (known : requestOf message = some (requestId, resType, first))
      (admitted : (core.registry.admitRequest (core.currentRoute, requestId) choice.now).2 = some ticket) :
      Received choice core message
        { core := { core with
            registry := (core.registry.admitRequest (core.currentRoute, requestId) choice.now).1 }
          next := [.handle ⟨core.currentRoute, requestId, resType, ticket⟩ first] }

theorem received_request {choice : Choice} {core : Core} {message : ToRoom} {requestId : Nat}
    {resType : MessageType} {first : Stage} (known : requestOf message = some (requestId, resType, first)) :
    Received choice core message (handleRequest choice requestId resType first core) := by
  cases answer : (core.registry.admitRequest (core.currentRoute, requestId) choice.now).2 with
  | none =>
    simp only [handleRequest, answer]
    exact .refused known answer
  | some ticket =>
    simp only [handleRequest, answer]
    exact .admitted known answer

theorem received_onRecv (choice : Choice) (core : Core) (message : ToRoom) :
    Received choice core message (onRecv choice core message) := by
  cases message with
  | ping => exact .ping
  | fwdRoom notification =>
    cases indexed : core.manager.userRooms[notification.uid]? with
    | none =>
      simp only [onRecv, RoomManager.findUserRoom, indexed]
      exact .forwardUnindexed indexed
    | some roomId =>
      simp only [onRecv, RoomManager.findUserRoom, indexed]
      exact .forwardIndexed indexed
  | cancelRequest notification => exact .cancelled
  | reqCreateRoom | reqJoinRoom | reqLeaveRoom => exact received_request rfl

inductive Executed (choice : Choice) (core : Core) : Task → Effect → Prop where
  | received {message : ToRoom} {effect : Effect} (received : Received choice core message effect) :
      Executed choice core (.onRecv message) effect
  | staged {request : Admitted} {stage : Stage} {effect : Effect} (ran : Ran choice core request stage effect) :
      Executed choice core (.handle request stage) effect
  | forwardStale {notification : User2RoomFwdRoom} {roomId : RoomId} (stale : core.manager.rooms[roomId]? = none) :
      Executed choice core (.findForward notification roomId) { core }
  | forwardFound {notification : User2RoomFwdRoom} {roomId : RoomId} {ptr : RoomPtr}
      (known : core.manager.rooms[roomId]? = some ptr) :
      Executed choice core (.findForward notification roomId)
        { core, next := [.onRecvMessage ptr notification.uid notification.message] }
  | forwarded {ptr : RoomPtr} {sender : Uid} {message : String} {after : Core}
      (called : core.callback ptr (.onRecvMessage sender message) = some after) :
      Executed choice core (.onRecvMessage ptr sender message) { core := after }
  | broadcast {users : List User} {message : String} :
      Executed choice core (.sendToUserImpl users message) { core, next := users.map (fwdClient · message) }
  | kickAbsent {ptr : RoomPtr} {uid : Uid} {reason : KickoutReason} {room : Room}
      (found : core.heap[ptr]? = some room) (absent : room.users[uid]? = none) :
      Executed choice core (.kickOutUserImpl ptr uid reason) { core }
  | kickPresent {ptr : RoomPtr} {uid : Uid} {reason : KickoutReason} {room : Room} {user : User}
      (found : core.heap[ptr]? = some room) (present : room.users[uid]? = some user) :
      Executed choice core (.kickOutUserImpl ptr uid reason)
        { core, next := [.sendNotification user.route .kUser2RoomNtfLeaveRoom
            (.ntfLeaveRoom { uid, reason := .kKickedOut, kickoutReason := some reason.value }),
          .onKickedOutUser ptr uid reason] }
  | kicked {ptr : RoomPtr} {uid : Uid} {reason : KickoutReason} {room : Room} (found : core.heap[ptr]? = some room)
      (contents : room.contents = true) :
      Executed choice core (.onKickedOutUser ptr uid reason)
        { core := core.setRoom ptr { room with
            callbacks := room.callbacks ++ [.onKickedOutUser uid reason]
            users := room.users.erase uid } }
  | notified {destination : RoutingId} {type : MessageType} {notification : ToUser} :
      Executed choice core (.sendNotification destination type notification)
        { core := core.send ⟨destination, type, notification⟩ }
  | closed {ptr : RoomPtr} {room : Room} (found : core.heap[ptr]? = some room) :
      Executed choice core (.close ptr) { core := core.setRoom ptr room.closeImpl }

theorem executed_of_exec {choice : Choice} {task : Task} {core : Core} {effect : Effect}
    (done : exec choice task core = some effect) : Executed choice core task effect := by
  cases task with
  | onRecv message =>
    cases done
    exact .received (received_onRecv choice core message)
  | handle request stage => exact .staged (ran_of_exec done)
  | findForward notification roomId =>
    cases known : core.manager.rooms[roomId]? with
    | none =>
      simp only [exec, RoomManager.findRoom, known, Option.some.injEq] at done
      cases done
      exact .forwardStale known
    | some ptr =>
      simp only [exec, RoomManager.findRoom, known, Option.some.injEq] at done
      cases done
      exact .forwardFound known
  | onRecvMessage ptr sender message =>
    simp only [exec, Option.bind_eq_bind, Option.pure_def, Option.bind_eq_some_iff, Option.some.injEq] at done
    obtain ⟨after, called, rfl⟩ := done
    exact .forwarded called
  | sendToUserImpl users message =>
    cases done
    exact .broadcast
  | kickOutUserImpl ptr uid reason =>
    simp only [exec, kickOutUserImpl, Option.bind_eq_bind, Option.pure_def, Option.bind_eq_some_iff,
      Option.some.injEq] at done
    obtain ⟨room, found, rfl⟩ := done
    cases present : room.users[uid]? with
    | none => exact .kickAbsent found present
    | some user => exact .kickPresent found present
  | onKickedOutUser ptr uid reason =>
    simp only [exec, onKickedOutUser, Room.callback, Option.bind_eq_bind, Option.pure_def, Option.bind_eq_some_iff,
      Option.some.injEq] at done
    obtain ⟨room, found, called, invoked, rfl⟩ := done
    split at invoked
    · next contents =>
      cases invoked
      exact .kicked found contents
    · cases invoked
  | sendNotification destination type notification =>
    cases done
    exact .notified
  | close ptr =>
    simp only [exec, closeImpl, Option.bind_eq_bind, Option.pure_def, Option.bind_eq_some_iff,
      Option.some.injEq] at done
    obtain ⟨room, found, rfl⟩ := done
    exact .closed found

inductive Stepped (state : State) : Label → State → Prop where
  | delivered {source : RoutingId} {message : ToRoom} (quiet : state.pool.idle .router) :
      Stepped state (.deliver source message)
        ⟨{ state.core with currentRoute := source }, state.pool ++ [(.router, .onRecv message)]⟩
  | ran {thread : Thread} {choice : Choice} {task : Task} {before later : Pool Thread Task} {effect : Effect}
      (split : state.pool = before ++ (thread, task) :: later) (quiet : Pool.idle before thread)
      (executed : Executed choice state.core task effect) :
      Stepped state (.run thread choice)
        ⟨effect.core, effect.next.map (Prod.mk thread) ++ (before ++ later) ++ effect.posts⟩
  | called {ptr : RoomPtr} {call : ApiCall} {room : Room} (found : state.core.heap[ptr]? = some room)
      (contents : room.contents = true) :
      Stepped state (.api ptr call) { state with
        pool := state.pool ++ (apiTask ptr room call).toList.map fun task => (Thread.strand room.strand, task) }
  | stopped (running : state.core.manager.stopping = false) : Stepped state .shutdown (shutdown state)

theorem stepped_of_step {state after : State} {label : Label} (moved : step state label = some after) :
    Stepped state label after := by
  cases label with
  | deliver source message =>
    simp only [step] at moved
    split at moved
    · next quiet =>
      cases moved
      exact .delivered quiet
    · cases moved
  | run thread choice =>
    obtain ⟨before, task, later, effect, split, quiet, done, rfl⟩ := Machine.run_cases moved
    exact .ran split quiet (executed_of_exec done)
  | api ptr call =>
    simp only [step, api, Option.bind_eq_bind, Option.bind_eq_some_iff] at moved
    obtain ⟨room, found, moved⟩ := moved
    split at moved
    · cases moved
    · next contents =>
      cases moved
      exact .called found (by simpa using contents)
  | shutdown =>
    simp only [step] at moved
    split at moved
    · cases moved
    · next running =>
      cases moved
      exact .stopped (by simpa using running)

theorem executed_ran {state : State} (choice : Choice) (after : State) {thread : Thread} {task : Task}
    {before later : Pool Thread Task} (split : state.pool = before ++ (thread, task) :: later)
    (quiet : Pool.idle before thread) : executed ⟨state, .run thread choice, after⟩ = some (choice, task) := by
  simp [executed, split, Pool.pop_of_idle quiet]

theorem executed_split {state after : State} {label : Label} {choice : Choice} {task : Task}
    (ran : executed ⟨state, label, after⟩ = some (choice, task)) (moved : step state label = some after) :
    ∃ thread before later effect, label = .run thread choice ∧ state.pool = before ++ (thread, task) :: later ∧
      Pool.idle before thread ∧ Executed choice state.core task effect ∧
      after = ranState thread before later effect := by
  cases stepped_of_step moved with
  | delivered | called | stopped => cases ran
  | @ran thread _ task' before later effect split quiet done =>
    rw [executed_ran _ _ split quiet] at ran
    cases ran
    exact ⟨thread, before, later, effect, rfl, split, quiet, done, rfl⟩

/-! ## Items -/

def Task.commits : Task → Prop
  | .handle _ (.joinedRoom ..) => True
  | .handle _ (.leftRoom ..) => True
  | _ => False

instance (task : Task) : Decidable task.commits := by
  unfold Task.commits
  split <;> infer_instance

def Task.home : Task → Option RoomPtr
  | .handle _ (.onCreateRoom room) => some room
  | .handle _ (.joinRoom room ..) => some room
  | .handle _ (.joinedRoom room ..) => some room
  | .handle _ (.onUserEnter room _) => some room
  | .handle _ (.leaveRoom room ..) => some room
  | .handle _ (.leftRoom room ..) => some room
  | .handle _ (.onUserExit room ..) => some room
  | .handle _ (.onEmpty room) => some room
  | .handle _ (.closeImpl room) => some room
  | .kickOutUserImpl room .. => some room
  | .onKickedOutUser room .. => some room
  | .close room => some room
  | _ => none

def Task.closes (room : RoomPtr) : Task → Prop
  | .handle _ (.closeImpl ptr) => ptr = room
  | .close ptr => ptr = room
  | _ => False

def Plain (effect : Effect) : Prop := ∀ task ∈ items effect, ¬ task.commits ∧ ∀ room, ¬ task.closes room

/-- What executing an item does to the manager's indexes and to the members of the rooms. -/
inductive Touch (choice : Choice) (core : Core) : Task → Effect → Prop where
  | same {task : Task} {effect : Effect} (quiet : ¬ task.commits) (manager : effect.core.manager = core.manager)
      (members : effect.core.members = core.members) (plain : Plain effect) : Touch choice core task effect
  | create {request : Admitted} {message : User2RoomReqCreateRoom} {effect : Effect} {created : Membership}
      (queued : core.registry.state request.ticket = some .kQueued) (running : core.manager.stopping = false)
      (make : created = (Room.make choice.draw ⟨message.uid, request.destination⟩ core.manager.nextStrand).membership)
      (manager : effect.core.manager = { core.manager with
        rooms := core.manager.rooms.insert choice.draw core.heap.length
        userRooms := core.manager.userRooms.insert message.uid choice.draw })
      (members : effect.core.members = core.members ++ [created])
      (plain : Plain effect) : Touch choice core (.handle request (.createRoom message)) effect
  | enter {request : Admitted} {ptr : RoomPtr} {uid : Uid} {response : User2RoomResJoinRoom} {effect : Effect}
      {inserted : Bool} (member : Membership) (queued : core.registry.state request.ticket = some .kQueued)
      (found : core.members[ptr]? = some member) (isOpen : member.lifecycle = .kOpen) (manager : effect.core.manager = core.manager)
      (members : effect.core.members = core.members.set ptr
        { member with users := member.users.insert uid ⟨uid, request.destination⟩ })
      (next : effect.next = [.handle request (.joinedRoom ptr uid inserted response)]) (posts : effect.posts = []) :
      Touch choice core (.handle request (.joinRoom ptr uid response)) effect
  | index {request : Admitted} {ptr : RoomPtr} {uid : Uid} {inserted : Bool} {response : User2RoomResJoinRoom}
      {effect : Effect} (member : Membership) (found : core.members[ptr]? = some member)
      (registered : core.manager.rooms[member.roomId]? = some ptr)
      (manager : effect.core.manager = { core.manager with
        userRooms := core.manager.userRooms.insert uid member.roomId })
      (members : effect.core.members = core.members) (plain : Plain effect) :
      Touch choice core (.handle request (.joinedRoom ptr uid inserted response)) effect
  | indexStale {request : Admitted} {ptr : RoomPtr} {uid : Uid} {inserted : Bool} {response : User2RoomResJoinRoom}
      {effect : Effect} (member : Membership) (found : core.members[ptr]? = some member)
      (stale : core.manager.rooms[member.roomId]? ≠ some ptr)
      (manager : effect.core.manager = core.manager) (members : effect.core.members = core.members)
      (plain : Plain effect) : Touch choice core (.handle request (.joinedRoom ptr uid inserted response)) effect
  | exit {request : Admitted} {ptr : RoomPtr} {uid : Uid} {response : User2RoomResLeaveRoom} {effect : Effect}
      {empty : Bool} (member : Membership) (found : core.members[ptr]? = some member)
      (isOpen : member.lifecycle = .kOpen) (manager : effect.core.manager = core.manager)
      (members : effect.core.members = core.members.set ptr { member with users := member.users.erase uid })
      (next : effect.next = [.handle request (.leftRoom ptr uid empty response)]) (posts : effect.posts = []) :
      Touch choice core (.handle request (.leaveRoom ptr uid response)) effect
  | unindex {request : Admitted} {ptr : RoomPtr} {uid : Uid} {empty : Bool} {response : User2RoomResLeaveRoom}
      {effect : Effect} (member : Membership) (found : core.members[ptr]? = some member)
      (registered : core.manager.rooms[member.roomId]? = some ptr)
      (indexed : core.manager.userRooms[uid]? = some member.roomId)
      (manager : effect.core.manager = { core.manager with userRooms := core.manager.userRooms.erase uid })
      (members : effect.core.members = core.members) (plain : Plain effect) :
      Touch choice core (.handle request (.leftRoom ptr uid empty response)) effect
  | unindexStale {request : Admitted} {ptr : RoomPtr} {uid : Uid} {empty : Bool} {response : User2RoomResLeaveRoom}
      {effect : Effect} (member : Membership) (found : core.members[ptr]? = some member)
      (elsewhere : core.manager.userRooms[uid]? ≠ some member.roomId ∨
        core.manager.rooms[member.roomId]? ≠ some ptr)
      (manager : effect.core.manager = core.manager) (members : effect.core.members = core.members)
      (plain : Plain effect) : Touch choice core (.handle request (.leftRoom ptr uid empty response)) effect
  | unregister {request : Admitted} {ptr : RoomPtr} {effect : Effect} (member : Membership)
      (found : core.members[ptr]? = some member) (registered : core.manager.rooms[member.roomId]? = some ptr)
      (manager : effect.core.manager = { core.manager with
        rooms := core.manager.rooms.erase member.roomId
        userRooms := core.manager.userRooms.filter fun _ joined => joined ≠ member.roomId })
      (members : effect.core.members = core.members)
      (next : effect.next = [.handle request (.closeImpl ptr)]) (posts : effect.posts = []) :
      Touch choice core (.handle request (.onEmpty ptr)) effect
  | close {task : Task} {ptr : RoomPtr} {effect : Effect} (member : Membership) (closes : task.closes ptr)
      (found : core.members[ptr]? = some member) (manager : effect.core.manager = core.manager)
      (members : effect.core.members = core.members.set ptr { member with lifecycle := .kClosed })
      (plain : Plain effect) : Touch choice core task effect
  | kick {ptr : RoomPtr} {uid : Uid} {reason : KickoutReason} {effect : Effect} (member : Membership)
      (found : core.members[ptr]? = some member) (manager : effect.core.manager = core.manager)
      (members : effect.core.members = core.members.set ptr { member with users := member.users.erase uid })
      (plain : Plain effect) : Touch choice core (.onKickedOutUser ptr uid reason) effect

/-! ## The classification -/

section Stages

variable {choice : Choice} {request : Admitted} {core : Core} {effect : Effect} {stage : Stage}

theorem found_membership {ptr : RoomPtr} {room : Room} (found : core.heap[ptr]? = some room) :
    core.members[ptr]? = some room.membership := by
  rw [members_get, found]
  rfl

theorem touch_joined {ptr : RoomPtr} {uid : Uid} {inserted : Bool} {response : User2RoomResJoinRoom} {room : Room}
    (found : core.heap[ptr]? = some room)
    (manager : effect.core.manager = (core.manager.joinedRoom uid ptr room.roomId).1)
    (members : effect.core.members = core.members) (plain : Plain effect) :
    Touch choice core (.handle request (.joinedRoom ptr uid inserted response)) effect := by
  by_cases registered : core.manager.rooms[room.roomId]? = some ptr
  · refine .index room.membership (found_membership found) registered ?_ members plain
    simp [manager, RoomManager.joinedRoom, registered, Room.membership]
  · refine .indexStale room.membership (found_membership found) registered ?_ members plain
    simp [manager, RoomManager.joinedRoom, registered]

theorem touch_left {ptr : RoomPtr} {uid : Uid} {empty : Bool} {response : User2RoomResLeaveRoom} {room : Room}
    (found : core.heap[ptr]? = some room)
    (manager : effect.core.manager = (core.manager.leftRoom uid ptr room.roomId).1)
    (members : effect.core.members = core.members) (plain : Plain effect) :
    Touch choice core (.handle request (.leftRoom ptr uid empty response)) effect := by
  by_cases elsewhere : core.manager.userRooms[uid]? ≠ some room.roomId ∨ core.manager.rooms[room.roomId]? ≠ some ptr
  · refine .unindexStale room.membership (found_membership found) elsewhere ?_ members plain
    simp [manager, RoomManager.leftRoom, elsewhere]
  · simp only [ne_eq, not_or, not_not] at elsewhere
    refine .unindex room.membership (found_membership found) elsewhere.2 elsewhere.1 ?_ members plain
    simp [manager, RoomManager.leftRoom, elsewhere]

theorem closes_quiet {task : Task} {ptr : RoomPtr} (closes : task.closes ptr) : ¬ task.commits := by
  unfold Task.closes at closes
  split at closes <;> simp_all [Task.commits]

theorem closes_home {task : Task} {ptr : RoomPtr} (closes : task.closes ptr) : task.home = some ptr := by
  unfold Task.closes at closes
  split at closes <;> simp_all [Task.home]

theorem touch_closed {task : Task} {ptr : RoomPtr} {room : Room} (closes : task.closes ptr)
    (found : core.heap[ptr]? = some room) :
    Touch choice core task { core := core.setRoom ptr room.closeImpl } := by
  by_cases isOpen : room.lifecycle = .kOpen
  · refine .close room.membership closes (found_membership found) rfl ?_ (by simp [Plain, items])
    rw [members_setRoom]
    simp [Room.closeImpl, isOpen, Room.membership]
  · refine .same (closes_quiet closes) rfl ?_ (by simp [Plain, items])
    rw [members_setRoom]
    exact members_set_same found (by simp [Room.closeImpl, isOpen])

theorem touch_called {task : Task} {ptr : RoomPtr} {call : Callback} {after : Core} (quiet : ¬ task.commits)
    (called : core.callback ptr call = some after) (unchanged : effect.core = after) (plain : Plain effect) :
    Touch choice core task effect := by
  obtain ⟨members, manager⟩ := callback_members called
  refine .same quiet ?_ ?_ plain
  · rw [unchanged, manager]
  · rw [unchanged, members]

theorem touch_of_ran (ran : Ran choice core request stage effect) :
    Touch choice core (.handle request stage) effect := by
  cases ran with
  | created queued running lower upper =>
    refine .create queued running rfl rfl ?_ (by simp [Plain, items, Task.commits, Task.closes])
    simp [Core.members]
  | contentsCreated found =>
    refine .same (by simp [Task.commits]) rfl ?_ (by simp [Plain, items, Task.commits, Task.closes])
    rw [members_setRoom]
    exact members_set_same found rfl
  | createNotified found called | enterNotified called =>
    exact touch_called (by simp [Task.commits]) called rfl (by simp [Plain, items])
  | joinEntered queued found isOpen =>
    refine .enter _ queued (found_membership found) isOpen rfl ?_ rfl rfl
    rw [members_setRoom]
    rfl
  | @joined ptr uid inserted response room found =>
    refine touch_joined found rfl rfl ?_
    cases inserted <;> simp [Plain, items, Task.commits, Task.closes]
  | leaveExited queued found isOpen present =>
    refine .exit _ (found_membership found) isOpen rfl ?_ rfl rfl
    rw [members_setRoom]
    rfl
  | left found => exact touch_left found rfl rfl (by simp [Plain, items, Task.commits, Task.closes])
  | @exitNotified ptr uid empty after called =>
    refine touch_called (by simp [Task.commits]) called rfl ?_
    cases empty <;> simp [Plain, items, Task.commits, Task.closes]
  | emptied found registered => exact .unregister _ (found_membership found) registered rfl rfl rfl rfl
  | closed found => exact touch_closed rfl found
  | completed =>
    refine .same (by simp [Task.commits]) rfl rfl ?_
    simp only [complete, Plain, items]
    split <;> simp [Task.commits, Task.closes]
  | createLate | createStopping | contentsThrown | joinUnknown | joinFound | joinLate | joinClosed | leaveUnindexed
  | leaveIndexed | leaveUnknown | leaveFound | leaveLate | leaveRefused | emptyStale | sent | aborted =>
    exact .same (by simp [Task.commits]) rfl rfl (by simp [leaveUnknown, Plain, items, Task.commits, Task.closes])

end Stages

theorem requestOf_first {message : ToRoom} {requestId : Nat} {resType : MessageType} {first : Stage}
    (request : requestOf message = some (requestId, resType, first)) (admitted : Admitted) :
    (Task.handle admitted first).home = none ∧ ¬ (Task.handle admitted first).commits ∧
      ∀ room, ¬ (Task.handle admitted first).closes room := by
  cases message <;> cases request <;> simp [Task.home, Task.commits, Task.closes]

theorem touch_of_executed {choice : Choice} {task : Task} {core : Core} {effect : Effect}
    (executed : Executed choice core task effect) : Touch choice core task effect := by
  cases executed with
  | received received =>
    cases received with
    | admitted known admitted => exact .same (by simp [Task.commits]) rfl rfl (by simpa [Plain, items] using (requestOf_first known _).2)
    | ping | forwardUnindexed | forwardIndexed | cancelled | refused =>
      exact .same (by simp [Task.commits]) rfl rfl (by simp [Plain, items, Task.commits, Task.closes])
  | staged ran => exact touch_of_ran ran
  | forwarded called => exact touch_called (by simp [Task.commits]) called rfl (by simp [Plain, items])
  | broadcast =>
    refine .same (by simp [Task.commits]) rfl rfl ?_
    intro task mem
    simp only [items, List.map_nil, List.append_nil, List.mem_map] at mem
    obtain ⟨user, -, rfl⟩ := mem
    simp [fwdClient, Task.commits, Task.closes]
  | kicked found contents =>
    refine .kick _ (found_membership found) rfl ?_ (by simp [Plain, items])
    rw [members_setRoom]
    rfl
  | closed found => exact touch_closed rfl found
  | forwardStale | forwardFound | kickAbsent | kickPresent | notified =>
    exact .same (by simp [Task.commits]) rfl rfl (by simp [Plain, items, Task.commits, Task.closes])

/-! ## Placement of the work -/

/-- A continuation stays with the room of its item; a post goes to the strand of the room it is for. -/
structure Placed (core : Core) (task : Task) (effect : Effect) : Prop where
  next : ∀ item ∈ effect.next, ∀ room, item.home = some room → task.home = some room
  posts : ∀ entry ∈ effect.posts, ∀ ptr, entry.2.home = some ptr →
    ∃ room, core.heap[ptr]? = some room ∧ entry.1 = .strand room.strand

theorem placed_post {core : Core} {task : Task} {effect : Effect} {ptr : RoomPtr} {room : Room} {posted : Task}
    (next : ∀ item ∈ effect.next, item.home = none) (found : core.heap[ptr]? = some room)
    (home : posted.home = some ptr) (posts : effect.posts = [(.strand room.strand, posted)]) :
    Placed core task effect := by
  constructor
  · intro item mem target somewhere
    rw [next item mem] at somewhere
    cases somewhere
  · intro entry mem target somewhere
    rw [posts] at mem
    obtain rfl := List.mem_singleton.mp mem
    obtain rfl : ptr = target := Option.some.inj (home.symm.trans somewhere)
    exact ⟨room, found, rfl⟩

theorem placed_of_ran {choice : Choice} {request : Admitted} {stage : Stage} {core : Core} {effect : Effect}
    (ran : Ran choice core request stage effect) : Placed core (.handle request stage) effect := by
  cases ran with
  | contentsCreated found => exact placed_post (by simp [Task.home]) found rfl rfl
  | joinFound known found | leaveFound known found => exact placed_post (by simp) found rfl rfl
  | @joined ptr uid inserted response room found =>
    cases inserted <;> exact ⟨by simp [Task.home], by simp⟩
  | @exitNotified ptr uid empty after called =>
    cases empty <;> exact ⟨by simp [Task.home], by simp⟩
  | completed =>
    refine ⟨?_, by simp [complete]⟩
    simp only [complete]
    split <;> simp [Task.home]
  | createLate | createStopping | created | contentsThrown | createNotified | joinUnknown | joinLate | joinClosed
  | joinEntered | enterNotified | leaveUnindexed | leaveIndexed | leaveUnknown | leaveLate | leaveRefused
  | leaveExited | left | emptied | emptyStale | closed | sent | aborted =>
    exact ⟨by simp [leaveUnknown, Task.home], by simp [leaveUnknown]⟩

theorem placed_of_executed {choice : Choice} {task : Task} {core : Core} {effect : Effect}
    (executed : Executed choice core task effect) : Placed core task effect := by
  cases executed with
  | received received =>
    cases received with
    | admitted known admitted => exact ⟨by simp [(requestOf_first known _).1], by simp⟩
    | ping | forwardUnindexed | forwardIndexed | cancelled | refused => exact ⟨by simp [Task.home], by simp⟩
  | staged ran => exact placed_of_ran ran
  | broadcast =>
    refine ⟨?_, by simp⟩
    intro item mem room home
    obtain ⟨user, -, rfl⟩ := List.mem_map.mp mem
    cases home
  | forwardStale | forwardFound | forwarded | kickAbsent | kickPresent | kicked | notified | closed =>
    exact ⟨by simp [Task.home], by simp⟩

end Rsp.RoomServer
