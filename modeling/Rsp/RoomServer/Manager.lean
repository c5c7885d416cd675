import Rsp.RoomServer.Room

/-! The two indexes of `room_manager`, each operation one critical section.

A room instance is a `shared_ptr`, represented by its position among the rooms ever
created; operations that read `instance->room_id()` receive that id.
-/

set_option autoImplicit false

namespace Rsp.RoomServer

open Message

abbrev RoomPtr := Nat

structure RoomManager where
  stopping : Bool := false
  rooms : Std.ExtTreeMap RoomId RoomPtr := ∅
  userRooms : Std.ExtTreeMap Uid RoomId := ∅

namespace RoomManager

/-- The strand of the next room: `rooms_.size() % strands_.size()`. -/
def nextStrand (self : RoomManager) : Fin 3 := ⟨self.rooms.size % 3, Nat.mod_lt _ (by decide)⟩

/-- `create_room` for a drawn id and a new instance; `none` is the `logic_error`
thrown while shutting down. -/
def createRoom (self : RoomManager) (uid : Uid) (roomId : RoomId) (created : RoomPtr) : Option RoomManager :=
  if self.stopping then none
  else some { self with
    rooms := self.rooms.insert roomId created
    userRooms := self.userRooms.insert uid roomId }

def findRoom (self : RoomManager) (roomId : RoomId) : Option RoomPtr := self.rooms[roomId]?

def joinedRoom (self : RoomManager) (uid : Uid) (inst : RoomPtr) (roomId : RoomId) : RoomManager × Bool :=
  if self.rooms[roomId]? ≠ some inst then (self, false)
  else ({ self with userRooms := self.userRooms.insert uid roomId }, true)

def leftRoom (self : RoomManager) (uid : Uid) (inst : RoomPtr) (roomId : RoomId) : RoomManager × Bool :=
  if self.userRooms[uid]? ≠ some roomId ∨ self.rooms[roomId]? ≠ some inst then (self, false)
  else ({ self with userRooms := self.userRooms.erase uid }, true)

/-- The first critical section of `find_room(uid)`; the second one is `findRoom`. -/
def findUserRoom (self : RoomManager) (uid : Uid) : Option RoomId := self.userRooms[uid]?

def findRoomOf (self : RoomManager) (uid : Uid) : Option RoomPtr := (self.findUserRoom uid).bind self.findRoom

/-- The first critical section of `leave_room(uid)`; the second one is `findRoom`. -/
def leaveRoom (self : RoomManager) (uid : Uid) : RoomManager × Option RoomId :=
  match self.userRooms[uid]? with
  | none => (self, none)
  | some roomId => ({ self with userRooms := self.userRooms.erase uid }, some roomId)

/-- `close_room`: whether the instance was the registered one and must be closed. -/
def closeRoom (self : RoomManager) (inst : RoomPtr) (roomId : RoomId) : RoomManager × Bool :=
  if self.rooms[roomId]? ≠ some inst then (self, false)
  else ({ self with
    rooms := self.rooms.erase roomId
    userRooms := self.userRooms.filter fun _ joined => joined ≠ roomId }, true)

/-- The critical section of `shutdown` and the rooms it closes afterwards. -/
def shutdown (self : RoomManager) : RoomManager × List RoomPtr :=
  ({ stopping := true, rooms := ∅, userRooms := ∅ }, self.rooms.values)

end RoomManager

end Rsp.RoomServer
