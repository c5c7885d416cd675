import Rsp.Foundation.Threads
import Rsp.Foundation.Transition
import Rsp.Message.QueuedRequests
import Rsp.RoomServer.Manager

/-! The Room server: the channel's receiving thread and the room strands.

Work is cut into items that are atomic in the source: a critical section of the
manager or of the request registry, an exchange on a ticket, or a piece of code that
only touches the room of the running strand. A ticket's exchange is taken together
with the strand-local code that follows it.

The vector of strands is filled with copies of one strand. Its three elements are
treated as independent threads here, which admits every schedule of the shared one.
-/

set_option autoImplicit false

namespace Rsp.RoomServer

open Message Foundation

inductive Thread where
  | router
  | strand (index : Fin 3)
  deriving DecidableEq, Repr

structure Outgoing where
  destination : RoutingId
  type : MessageType
  message : ToUser
  deriving DecidableEq, Repr

/-- `outgoing` lists every frame sent, oldest first; `heap` every room instance created. -/
structure Core where
  registry : QueuedRequests := {}
  currentRoute : RoutingId := ""
  manager : RoomManager := {}
  heap : List Room := []
  outgoing : List Outgoing := []

/-- What `handle_request` captures for the completion of an admitted request. -/
structure Admitted where
  destination : RoutingId
  requestId : Nat
  resType : MessageType
  ticket : Ticket
  deriving DecidableEq, Repr

def Admitted.key (self : Admitted) : RequestKey := (self.destination, self.requestId)

inductive Stage where
  | createRoom (request : User2RoomReqCreateRoom)
  | createContents (room : RoomPtr) (response : User2RoomResCreateRoom)
  | onCreateRoom (room : RoomPtr)
  | findJoin (request : User2RoomReqJoinRoom)
  | joinRoom (room : RoomPtr) (uid : Uid) (response : User2RoomResJoinRoom)
  | joinedRoom (room : RoomPtr) (uid : Uid) (inserted : Bool) (response : User2RoomResJoinRoom)
  | onUserEnter (room : RoomPtr) (uid : Uid)
  | findLeave (request : User2RoomReqLeaveRoom)
  | findLeaveRoom (request : User2RoomReqLeaveRoom) (roomId : RoomId)
  | leaveRoom (room : RoomPtr) (uid : Uid) (response : User2RoomResLeaveRoom)
  | leftRoom (room : RoomPtr) (uid : Uid) (empty : Bool) (response : User2RoomResLeaveRoom)
  | onUserExit (room : RoomPtr) (uid : Uid) (empty : Bool)
  | onEmpty (room : RoomPtr)
  | closeImpl (room : RoomPtr)
  | complete (response : ToUser)
  | sendResponse (response : ToUser)
  | abort
  deriving DecidableEq, Repr

inductive Task where
  | onRecv (message : ToRoom)
  | handle (request : Admitted) (stage : Stage)
  | findForward (notification : User2RoomFwdRoom) (roomId : RoomId)
  | onRecvMessage (room : RoomPtr) (sender : Uid) (message : String)
  | sendToUserImpl (users : List User) (message : String)
  | kickOutUserImpl (room : RoomPtr) (uid : Uid) (reason : KickoutReason)
  | onKickedOutUser (room : RoomPtr) (uid : Uid) (reason : KickoutReason)
  | sendNotification (destination : RoutingId) (type : MessageType) (notification : ToUser)
  | close (room : RoomPtr)
  deriving DecidableEq, Repr

/-- The values an item obtains from outside: the clock, the generator, and whether
the contents library creates an object or throws. -/
structure Choice where
  now : Nat := 0
  draw : RoomId := 10000
  contentsCreated : Bool := true
  deriving DecidableEq, Repr

abbrev Effect := Outcome Core Thread Task

namespace Core

def setRoom (self : Core) (ptr : RoomPtr) (room : Room) : Core := { self with heap := self.heap.set ptr room }

def send (self : Core) (frame : Outgoing) : Core := { self with outgoing := self.outgoing ++ [frame] }

def callback (self : Core) (ptr : RoomPtr) (call : Callback) : Option Core := do
  let room ← self.heap[ptr]?
  let called ← room.callback call
  return self.setRoom ptr called

def start (self : Core) (request : Admitted) : Core × Bool :=
  let (registry, begun) := self.registry.tryStart request.ticket
  ({ self with registry }, begun)

def post (self : Core) (ptr : RoomPtr) (task : Task) : Option Effect := do
  let room ← self.heap[ptr]?
  return { core := self, posts := [(.strand room.strand, task)] }

end Core

/-! ## Requests -/

/-- `handle` for `User2RoomReqCreateRoom`, up to the registration of the instance. -/
def createRoom (choice : Choice) (request : Admitted) (message : User2RoomReqCreateRoom) (core : Core) :
    Option Effect :=
  let (core, begun) := core.start request
  if !begun then some { core, next := [.handle request (.complete (.resCreateRoom {}))] }
  -- not a number the distribution draws
  else if choice.draw < 10000 ∨ 100000 < choice.draw then none
  else
    match core.manager.createRoom message.uid choice.draw core.heap.length with
    -- `create_room` throws while the manager stops
    | none => some { core, next := [.handle request .abort] }
    | some manager =>
      let created := Room.make choice.draw ⟨message.uid, request.destination⟩ core.manager.nextStrand
      let response : User2RoomResCreateRoom :=
        { success := true, requestId := message.requestId, roomId := choice.draw }
      some {
        core := { core with manager, heap := core.heap ++ [created] }
        next := [.handle request (.createContents core.heap.length response)] }

/-- `room::create_room`: a throwing contents library reaches the `catch` of `handle_request`. -/
def createContents (choice : Choice) (request : Admitted) (ptr : RoomPtr) (response : User2RoomResCreateRoom)
    (core : Core) : Option Effect :=
  if !choice.contentsCreated then some { core, next := [.handle request .abort] }
  else do
    let room ← core.heap[ptr]?
    return {
      core := core.setRoom ptr { room with contents := true }
      next := [.handle request (.complete (.resCreateRoom response))]
      posts := [(.strand room.strand, .handle request (.onCreateRoom ptr))] }

def findJoin (request : Admitted) (message : User2RoomReqJoinRoom) (core : Core) : Option Effect :=
  let response : User2RoomResJoinRoom := { requestId := message.requestId, roomId := message.roomId }
  match core.manager.findRoom message.roomId with
  | none => some { core := (core.start request).1, next := [.handle request (.complete (.resJoinRoom response))] }
  | some ptr => core.post ptr (.handle request (.joinRoom ptr message.uid response))

/-- The strand task of `join_room`, up to `before_notify`. -/
def joinRoom (request : Admitted) (ptr : RoomPtr) (uid : Uid) (response : User2RoomResJoinRoom) (core : Core) :
    Option Effect :=
  let refused : List Task := [.handle request (.complete (.resJoinRoom { response with success := false }))]
  let (core, begun) := core.start request
  if !begun then some { core, next := refused }
  else do
    let room ← core.heap[ptr]?
    match room.join uid request.destination with
    | none => some { core, next := refused }
    | some (room, inserted) => some {
        core := core.setRoom ptr room
        next := [.handle request (.joinedRoom ptr uid inserted response)] }

def joinedRoom (request : Admitted) (ptr : RoomPtr) (uid : Uid) (inserted : Bool)
    (response : User2RoomResJoinRoom) (core : Core) : Option Effect := do
  let room ← core.heap[ptr]?
  let (manager, joined) := core.manager.joinedRoom uid ptr room.roomId
  return {
    core := { core with manager }
    next := .handle request (.complete (.resJoinRoom { response with success := joined })) ::
      (if inserted then [.handle request (.onUserEnter ptr uid)] else []) }

/-- The reply of `handle` for `User2RoomReqLeaveRoom` when `find_room(uid)` is null. -/
def leaveUnknown (request : Admitted) (message : User2RoomReqLeaveRoom) (core : Core) : Effect :=
  { core := (core.start request).1
    next := [.handle request (.complete (.resLeaveRoom { requestId := message.requestId }))] }

def findLeave (request : Admitted) (message : User2RoomReqLeaveRoom) (core : Core) : Effect :=
  match core.manager.findUserRoom message.uid with
  | none => leaveUnknown request message core
  | some roomId => { core, next := [.handle request (.findLeaveRoom message roomId)] }

def findLeaveRoom (request : Admitted) (message : User2RoomReqLeaveRoom) (roomId : RoomId) (core : Core) :
    Option Effect :=
  match core.manager.findRoom roomId with
  | none => some (leaveUnknown request message core)
  | some ptr => core.post ptr (.handle request (.leaveRoom ptr message.uid { requestId := message.requestId }))

/-- The strand task of `leave_room`, up to `before_notify`. -/
def leaveRoom (request : Admitted) (ptr : RoomPtr) (uid : Uid) (response : User2RoomResLeaveRoom) (core : Core) :
    Option Effect :=
  let refused : List Task := [.handle request (.complete (.resLeaveRoom { response with success := false }))]
  let (core, begun) := core.start request
  if !begun then some { core, next := refused }
  else do
    let room ← core.heap[ptr]?
    match room.leave uid with
    | none => some { core, next := refused }
    | some (room, empty) => some {
        core := core.setRoom ptr room
        next := [.handle request (.leftRoom ptr uid empty response)] }

def leftRoom (request : Admitted) (ptr : RoomPtr) (uid : Uid) (empty : Bool) (response : User2RoomResLeaveRoom)
    (core : Core) : Option Effect := do
  let room ← core.heap[ptr]?
  let (manager, left) := core.manager.leftRoom uid ptr room.roomId
  return {
    core := { core with manager }
    next := [.handle request (.complete (.resLeaveRoom { response with success := left })),
      .handle request (.onUserExit ptr uid empty)] }

def onUserExit (request : Admitted) (ptr : RoomPtr) (uid : Uid) (empty : Bool) (core : Core) : Option Effect := do
  let core ← core.callback ptr (.onUserExit uid)
  return { core, next := if empty then [.handle request (.onEmpty ptr)] else [] }

/-- `on_empty`, which is `close_room`: the dispatch of `close` runs inline on the strand. -/
def onEmpty (request : Admitted) (ptr : RoomPtr) (core : Core) : Option Effect := do
  let room ← core.heap[ptr]?
  let (manager, found) := core.manager.closeRoom ptr room.roomId
  return { core := { core with manager }, next := if found then [.handle request (.closeImpl ptr)] else [] }

def closeImpl (ptr : RoomPtr) (core : Core) : Option Effect := do
  let room ← core.heap[ptr]?
  return { core := core.setRoom ptr room.closeImpl }

/-- The completion closure of `handle_request`. -/
def complete (choice : Choice) (request : Admitted) (response : ToUser) (core : Core) : Effect :=
  let started := core.registry.started request.ticket
  let (registry, finished) := core.registry.finish request.key request.ticket choice.now
  { core := { core with registry }
    next := if finished && started then [.handle request (.sendResponse response)] else [] }

def execStage (choice : Choice) (request : Admitted) (core : Core) : Stage → Option Effect
  | .createRoom message => createRoom choice request message core
  | .createContents ptr response => createContents choice request ptr response core
  | .onCreateRoom ptr => do
      let room ← core.heap[ptr]?
      let core ← core.callback ptr (.onCreateRoom room.roomId)
      return { core }
  | .findJoin message => findJoin request message core
  | .joinRoom ptr uid response => joinRoom request ptr uid response core
  | .joinedRoom ptr uid inserted response => joinedRoom request ptr uid inserted response core
  | .onUserEnter ptr uid => do
      let core ← core.callback ptr (.onUserEnter uid)
      return { core }
  | .findLeave message => some (findLeave request message core)
  | .findLeaveRoom message roomId => findLeaveRoom request message roomId core
  | .leaveRoom ptr uid response => leaveRoom request ptr uid response core
  | .leftRoom ptr uid empty response => leftRoom request ptr uid empty response core
  | .onUserExit ptr uid empty => onUserExit request ptr uid empty core
  | .onEmpty ptr => onEmpty request ptr core
  | .closeImpl ptr => closeImpl ptr core
  | .complete response => some (complete choice request response core)
  | .sendResponse response => some { core := core.send ⟨request.destination, request.resType, response⟩ }
  -- the catch of `handle_request`
  | .abort => some { core := { core with
      registry := (core.registry.finish request.key request.ticket choice.now).1 } }

/-! ## The receiving thread -/

/-- `message_trait<T>::res_type` and the first item of the request handlers. -/
def requestOf : ToRoom → Option (Nat × MessageType × Stage)
  | .reqCreateRoom message => some (message.requestId, .kUser2RoomResCreateRoom, .createRoom message)
  | .reqJoinRoom message => some (message.requestId, .kUser2RoomResJoinRoom, .findJoin message)
  | .reqLeaveRoom message => some (message.requestId, .kUser2RoomResLeaveRoom, .findLeave message)
  | .ping | .fwdRoom _ | .cancelRequest _ => none

def handleRequest (choice : Choice) (requestId : Nat) (resType : MessageType) (first : Stage) (core : Core) : Effect :=
  let destination := core.currentRoute
  let (registry, ticket) := core.registry.admitRequest (destination, requestId) choice.now
  { core := { core with registry }
    next := match ticket with
      | none => []
      | some ticket => [.handle { destination, requestId, resType, ticket } first] }

def onRecv (choice : Choice) (core : Core) (message : ToRoom) : Effect :=
  match message with
  | .ping => { core := core.send ⟨core.currentRoute, .kPong, .pong⟩ }
  | .fwdRoom notification =>
      { core, next := match core.manager.findUserRoom notification.uid with
          | none => []
          | some roomId => [.findForward notification roomId] }
  | .cancelRequest notification =>
      { core := { core with
          registry := core.registry.cancel (core.currentRoute, notification.requestId) choice.now } }
  -- the three requests share `handle_request`
  | request =>
      match requestOf request with
      | none => { core }
      | some (requestId, resType, first) => handleRequest choice requestId resType first core

def fwdClient (user : User) (message : String) : Task :=
  .sendNotification user.route .kUser2RoomFwdClient (.fwdClient { senderType := .kContent, uid := user.uid, message })

def kickOutUserImpl (ptr : RoomPtr) (uid : Uid) (reason : KickoutReason) (core : Core) : Option Effect := do
  let room ← core.heap[ptr]?
  return { core, next := match room.users[uid]? with
    | none => []
    | some user =>
      [.sendNotification user.route .kUser2RoomNtfLeaveRoom
          (.ntfLeaveRoom { uid, reason := .kKickedOut, kickoutReason := some reason.value }),
        .onKickedOutUser ptr uid reason] }

/-- The end of `kick_out_user_impl`: the callback, then the removal from `users_`. -/
def onKickedOutUser (ptr : RoomPtr) (uid : Uid) (reason : KickoutReason) (core : Core) : Option Effect := do
  let room ← core.heap[ptr]?
  let called ← room.callback (.onKickedOutUser uid reason)
  return { core := core.setRoom ptr { called with users := called.users.erase uid } }

def exec (choice : Choice) (task : Task) (core : Core) : Option Effect :=
  match task with
  | .onRecv message => some (onRecv choice core message)
  | .handle request stage => execStage choice request core stage
  -- the lock was released since the room id was looked up
  | .findForward notification roomId =>
      some { core, next := match core.manager.findRoom roomId with
        | none => []
        | some ptr => [.onRecvMessage ptr notification.uid notification.message] }
  | .onRecvMessage ptr sender message => do
      let core ← core.callback ptr (.onRecvMessage sender message)
      return { core }
  | .sendToUserImpl users message => some { core, next := users.map (fwdClient · message) }
  | .kickOutUserImpl ptr uid reason => kickOutUserImpl ptr uid reason core
  | .onKickedOutUser ptr uid reason => onKickedOutUser ptr uid reason core
  | .sendNotification destination type notification =>
      some { core := core.send ⟨destination, type, notification⟩ }
  | .close ptr => closeImpl ptr core

/-! ## Steps -/

inductive ApiCall where
  | sendToUser (uids : List Uid) (message : String)
  | kickOutUser (uid : Uid) (reason : KickoutReason)
  deriving DecidableEq, Repr

inductive Label where
  | deliver (source : RoutingId) (message : ToRoom)
  | run (thread : Thread) (choice : Choice)
  | api (room : RoomPtr) (call : ApiCall)
  | shutdown
  deriving DecidableEq, Repr

abbrev State := Machine Core Thread Task

def apiTask (ptr : RoomPtr) (room : Room) : ApiCall → Option Task
  | .sendToUser uids message => (room.findUsers uids).map (.sendToUserImpl · message)
  | .kickOutUser uid reason => some (.kickOutUserImpl ptr uid reason)

/-- The contents may use the interface from any thread while they exist. -/
def api (state : State) (ptr : RoomPtr) (call : ApiCall) : Option State := do
  let room ← state.core.heap[ptr]?
  if !room.contents then none
  else
    let posted := (apiTask ptr room call).toList.map fun task => (Thread.strand room.strand, task)
    some { state with pool := state.pool ++ posted }

def shutdown (state : State) : State :=
  let (manager, closing) := state.core.manager.shutdown
  let posts := closing.filterMap fun ptr =>
    (state.core.heap[ptr]?).map fun room => (Thread.strand room.strand, Task.close ptr)
  { core := { state.core with manager }, pool := state.pool ++ posts }

def step (state : State) : Label → Option State
  | .deliver source message =>
      if state.pool.idle .router then
        some ⟨{ state.core with currentRoute := source }, state.pool ++ [(.router, .onRecv message)]⟩
      else none
  | .run thread choice => state.run (exec choice) thread
  | .api ptr call => api state ptr call
  | .shutdown => if state.core.manager.stopping then none else some (shutdown state)

def initial : State := ⟨{}, []⟩

abbrev History := List (Transition State Label)

abbrev Reaches (history : History) (state : State) : Prop := Run step initial history state

def executed (move : Transition State Label) : Option (Choice × Task) :=
  match move.label with
  | .run thread choice => (Pool.pop thread move.before.pool).map fun found => (choice, found.1)
  | _ => none

end Rsp.RoomServer
