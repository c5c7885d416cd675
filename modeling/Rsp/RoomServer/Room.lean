import Std.Data.ExtTreeMap
import Rsp.Message.Intranet

/-! One room instance: the members kept on its strand and the contents object. -/

set_option autoImplicit false

namespace Rsp.RoomServer

open Message

structure User where
  uid : Uid
  route : RoutingId
  deriving DecidableEq, Repr

inductive Lifecycle where
  | kOpen
  | kClosing
  | kClosed
  deriving DecidableEq, Repr

inductive Callback where
  | onCreateRoom (roomId : RoomId)
  | onUserEnter (uid : Uid)
  | onUserExit (uid : Uid)
  | onDestroyRoom
  | onRecvMessage (sender : Uid) (message : String)
  | onKickedOutUser (uid : Uid) (reason : KickoutReason)
  deriving DecidableEq, Repr

instance strandsExist : NeZero 3 := ⟨by decide⟩

/-- `contents` says whether the pointer is set; `callbacks` lists the calls the
contents have received, oldest first. -/
structure Room where
  roomId : RoomId
  owner : User
  users : Std.ExtTreeMap Uid User
  strand : Fin 3
  contents : Bool := false
  lifecycle : Lifecycle := .kOpen
  callbacks : List Callback := []

namespace Room

def make (roomId : RoomId) (owner : User) (strand : Fin 3) : Room :=
  { roomId, owner, strand, users := (∅ : Std.ExtTreeMap Uid User).insert owner.uid owner }

/-- A call through `contents_`; `none` is the dereference of a null pointer. -/
def callback (self : Room) (call : Callback) : Option Room :=
  if self.contents then some { self with callbacks := self.callbacks ++ [call] } else none

/-- The membership part of the task posted by `join_room`: `none` when the room is
not open, otherwise whether the member was inserted. A present member gets its
route refreshed. -/
def join (self : Room) (uid : Uid) (route : RoutingId) : Option (Room × Bool) :=
  if self.lifecycle ≠ .kOpen then none
  else
    let inserted := !self.users.contains uid
    some ({ self with users := self.users.insert uid ⟨uid, route⟩ }, inserted)

/-- The membership part of the task posted by `leave_room`: whether it left the room empty. -/
def leave (self : Room) (uid : Uid) : Option (Room × Bool) :=
  if self.lifecycle ≠ .kOpen ∨ ¬ self.users.contains uid then none
  else
    let users := self.users.erase uid
    some ({ self with users }, users.isEmpty)

/-- `close_impl`: contents that throw are logged and released all the same. -/
def closeImpl (self : Room) : Room :=
  if self.lifecycle ≠ .kOpen then self
  else
    { self with
      lifecycle := .kClosed
      contents := false
      callbacks := if self.contents then self.callbacks ++ [.onDestroyRoom] else self.callbacks }

/-- The users found by `send_to_user`, in the order asked for. -/
def findUsers (self : Room) (uids : List Uid) : Option (List User) :=
  let users := uids.filterMap fun uid => self.users[uid]?
  if uids.length ≠ users.length then none else some users

end Room

end Rsp.RoomServer
