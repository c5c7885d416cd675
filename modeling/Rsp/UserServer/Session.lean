import Rsp.Job.Scheduler
import Rsp.Message.Client
import Std.Data.ExtTreeMap

/-! Sessions, their jobs and the session manager of the User server.

A session and its connection are made together and refer to each other for good, so one
pointer, the position among the sessions ever made, names both.
-/

set_option autoImplicit false

namespace Rsp.UserServer

open Message Rsp.Job

abbrev SessionPtr := Nat

/-- A job object, by its position among the jobs ever made. -/
abbrev JobPtr := Nat

inductive JobKind where
  | login (request : ReqLogin)
  | logout (request : ReqLogout)
  | createRoom (request : ReqCreateRoom)
  | joinRoom (request : ReqJoinRoom)
  | leaveRoom (request : ReqLeaveRoom)
  | forwardMessage (message : FwdRoom)
  | cliForwardMessage (message : User2RoomFwdClient)
  | ntfLeaveRoomMessage (notification : User2RoomNtfLeaveRoom)
  | stop (forceClose : Bool)
  deriving DecidableEq, Repr

/-- `done` says whether `done_` holds a completion, `completed` is the flag the completion
shares with the scheduler. The last two fields are those of the room jobs. -/
structure Job where
  session : SessionPtr
  kind : JobKind
  done : Bool := false
  completed : Bool := false
  roomRequestId : Nat := 0
  finished : Bool := false
  deriving DecidableEq, Repr

structure Session where
  uid : Uid := ""
  roomId : RoomId := 0
  scheduler : JobScheduler JobPtr := {}
  closed : Bool := false
  deriving DecidableEq, Repr

/-- `sessions` is keyed by the connection. -/
structure SessionManager where
  sessions : Std.ExtTreeMap SessionPtr SessionPtr := ∅
  uidSessions : Std.ExtTreeMap Uid SessionPtr := ∅

namespace SessionManager

/-- `add_session` of a connection just accepted. -/
def addConnection (self : SessionManager) (conn : SessionPtr) : SessionManager :=
  if self.sessions.contains conn then self else { self with sessions := self.sessions.insert conn conn }

/-- `add_session` of a session that logs in. -/
def addSession (self : SessionManager) (session : SessionPtr) (uid : Uid) : SessionManager :=
  { sessions := self.sessions.insert session session
    uidSessions := if uid = "" then self.uidSessions else self.uidSessions.insert uid session }

/-- `remove_session`; `uidOf` reads the uid of the session found. -/
def removeSession (self : SessionManager) (uidOf : SessionPtr → Uid) (conn : SessionPtr) :
    SessionManager × Option SessionPtr :=
  match self.sessions[conn]? with
  | none => (self, none)
  | some removed =>
      let uid := uidOf removed
      let uidSessions :=
        if uid ≠ "" ∧ self.uidSessions[uid]? = some removed then self.uidSessions.erase uid else self.uidSessions
      ({ sessions := self.sessions.erase conn, uidSessions }, some removed)

def findSession (self : SessionManager) (uid : Uid) : Option SessionPtr := self.uidSessions[uid]?

end SessionManager

end Rsp.UserServer
