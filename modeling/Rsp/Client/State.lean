import Rsp.Message.Client

/-! The states of the command-line client.

A state object handles the user's commands and the frames of its phase. `client_session`
owns the current object and replaces it at every transition; the context outlives them.
-/

set_option autoImplicit false

namespace Rsp.Client

open Message

inductive State where
  | kInit
  | kLoggedIn
  | kInRoom
  | kExit
  deriving DecidableEq, Repr

structure Context where
  uid : Uid := ""
  roomId : RoomId := 0
  deriving DecidableEq, Repr

inductive PendingInput where
  | kCommand
  | kMessage
  | kKickoutUser
  deriving DecidableEq, Repr

/-- An object of the class of `state`. `awaitingRoomId` belongs to `state_login`, `pendingInput` to
`state_in_room`. -/
structure StateObject where
  state : State
  requestId : Nat := 0
  awaitingRoomId : Bool := false
  pendingInput : PendingInput := .kCommand
  deriving DecidableEq, Repr

inductive Received where
  | ping
  | resLogin (parsed : Option ResLogin)
  | resLogout (parsed : Option ResLogout)
  | resCreateRoom (parsed : Option ResCreateRoom)
  | resJoinRoom (parsed : Option ResJoinRoom)
  | resLeaveRoom (parsed : Option ResLeaveRoom)
  | fwdClient (parsed : Option FwdClient)
  | ntfLeaveRoom (parsed : Option NtfLeaveRoom)
  | other (type : MessageType)
  deriving DecidableEq, Repr

/-- What a handler leaves behind: its object, the context, the messages sent and the transition. -/
structure Reaction where
  object : StateObject
  context : Context
  sent : List FromClient := []
  next : Option State := none
  deriving DecidableEq, Repr

/-- `std::from_chars` into a 32-bit room id, with nothing left over. -/
def parseRoomId (command : String) : Option RoomId :=
  let digits := command.toList
  let value := digits.foldl (fun value digit => value * 10 + (digit.toNat - 48)) 0
  if digits ≠ [] ∧ digits.all Char.isDigit ∧ value < 2 ^ 32 then some value else none

namespace StateObject

/-- `get_request_id`. -/
def countRequest (self : StateObject) : StateObject := { self with requestId := self.requestId + 1 }

/-! ## Commands -/

def onCommandInit (self : StateObject) (context : Context) (command : String) : Reaction :=
  { object := self.countRequest, context, sent := [.reqLogin { requestId := self.requestId, uid := command }] }

def onCommandLogin (self : StateObject) (context : Context) (command : String) : Reaction :=
  -- the line after "3" is the number of the room
  if self.awaitingRoomId then
    match parseRoomId command with
    | none => { object := self, context }
    | some roomId =>
        { object := { self.countRequest with awaitingRoomId := false }, context
          sent := [.reqJoinRoom { requestId := self.requestId, roomId }] }
  else if command = "1" then
    { object := self.countRequest, context, sent := [.reqLogout { requestId := self.requestId }] }
  else if command = "2" then
    { object := self.countRequest, context, sent := [.reqCreateRoom { requestId := self.requestId }] }
  else if command = "3" then { object := { self with awaitingRoomId := true }, context }
  else { object := self, context }

def onCommandInRoom (self : StateObject) (context : Context) (command : String) : Reaction :=
  match self.pendingInput with
  | .kMessage =>
      { object := { self with pendingInput := .kCommand }, context, sent := [.fwdRoom { message := command }] }
  -- the same field as a chat text, told apart by its beginning only
  | .kKickoutUser =>
      { object := { self with pendingInput := .kCommand }, context
        sent := [.fwdRoom { message := "kickout:" ++ command }] }
  | .kCommand =>
      if command = "1" then
        { object := self.countRequest, context, sent := [.reqLogout { requestId := self.requestId }] }
      else if command = "2" then { object := { self with pendingInput := .kMessage }, context }
      else if command = "3" then
        { object := self.countRequest, context, sent := [.reqLeaveRoom { requestId := self.requestId }] }
      else if command = "4" then { object := { self with pendingInput := .kKickoutUser }, context }
      else { object := self, context }

def onCommand (self : StateObject) (context : Context) (command : String) : Reaction :=
  match self.state with
  | .kInit => self.onCommandInit context command
  | .kLoggedIn => self.onCommandLogin context command
  | .kInRoom => self.onCommandInRoom context command
  | .kExit => { object := self, context }

/-! ## Messages -/

/-- `base_state::on_message`. -/
def onMessageBase (self : StateObject) (context : Context) : Received → Reaction
  | .ping => { object := self, context, sent := [.pong] }
  | _ => { object := self, context, next := some .kExit }

/-- `handle_res_logout` of `state_login` and of `state_in_room`. -/
def handleResLogout (self : StateObject) (context : Context) : Option ResLogout → Reaction
  | none => { object := self, context }
  | some _ => { object := self, context, next := some .kExit }

/-- `handle_res_create_room` and `handle_res_join_room`: after a refusal the object enters again. -/
def handleEntered (self : StateObject) (context : Context) : Option (Bool × RoomId) → Reaction
  | none => { object := self, context }
  | some (false, _) => { object := { self with awaitingRoomId := false }, context }
  | some (true, roomId) => { object := self, context := { context with roomId }, next := some .kInRoom }

def handleNtfLeaveRoom (self : StateObject) (context : Context) : Option NtfLeaveRoom → Reaction
  | none => { object := self, context }
  | some _ => { object := self, context := { context with roomId := 0 }, next := some .kLoggedIn }

def handleResLeaveRoom (self : StateObject) (context : Context) : Option ResLeaveRoom → Reaction
  | none => { object := self, context }
  | some response =>
      if response.success then { object := self, context := { context with roomId := 0 }, next := some .kLoggedIn }
      else { object := self, context }

def onMessageInit (self : StateObject) (context : Context) : Received → Reaction
  | .resLogin none => { object := self, context }
  | .resLogin (some login) => { object := self, context := { context with uid := login.uid }, next := some .kLoggedIn }
  | received => self.onMessageBase context received

def onMessageLogin (self : StateObject) (context : Context) : Received → Reaction
  | .resLogout parsed => self.handleResLogout context parsed
  | .resCreateRoom parsed => self.handleEntered context (parsed.map fun response => (response.success, response.roomId))
  | .resJoinRoom parsed => self.handleEntered context (parsed.map fun response => (response.success, response.roomId))
  | received => self.onMessageBase context received

/-- `handle_fwd_client` only writes to the terminal. -/
def onMessageInRoom (self : StateObject) (context : Context) : Received → Reaction
  | .resLogout parsed => self.handleResLogout context parsed
  | .fwdClient _ => { object := self, context }
  | .ntfLeaveRoom parsed => self.handleNtfLeaveRoom context parsed
  | .resLeaveRoom parsed => self.handleResLeaveRoom context parsed
  | received => self.onMessageBase context received

def onMessage (self : StateObject) (context : Context) (received : Received) : Reaction :=
  match self.state with
  | .kInit => self.onMessageInit context received
  | .kLoggedIn => self.onMessageLogin context received
  | .kInRoom => self.onMessageInRoom context received
  | .kExit => self.onMessageBase context received

end StateObject

/-! ## The session -/

structure ClientSession where
  currentState : State := .kInit
  state : Option StateObject := none
  context : Context := {}
  stopped : Bool := false
  deriving DecidableEq, Repr

namespace ClientSession

def finish (self : ClientSession) : ClientSession :=
  if self.stopped then self else { self with stopped := true, currentState := .kExit }

/-- The constructor of `state_exit` clears the context. -/
def transitionTo (self : ClientSession) (next : State) : ClientSession :=
  if self.stopped then self
  else
    let context := if next = .kExit then {} else self.context
    let entered := { self with currentState := next, state := some { state := next }, context }
    if next = .kExit then entered.finish else entered

def start (self : ClientSession) : ClientSession := self.transitionTo .kInit

def settle (self : ClientSession) (reaction : Reaction) : ClientSession :=
  let settled := { self with state := some reaction.object, context := reaction.context }
  match reaction.next with
  | none => settled
  | some next => settled.transitionTo next

def handleCommand (self : ClientSession) (command : String) : ClientSession × List FromClient :=
  if self.stopped then (self, [])
  else
    match self.state with
    | none => (self, [])
    | some object =>
        let reaction := object.onCommand self.context command
        (self.settle reaction, reaction.sent)

def dispatch (self : ClientSession) (received : Received) : ClientSession × List FromClient :=
  if self.stopped then (self, [])
  else
    match self.state with
    | none => (self, [])
    | some object =>
        let reaction := object.onMessage self.context received
        (self.settle reaction, reaction.sent)

end ClientSession

end Rsp.Client
