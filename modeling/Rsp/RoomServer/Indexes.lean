import Rsp.Foundation.Heap
import Rsp.Foundation.Threads
import Rsp.Foundation.Transition
import Rsp.RoomServer.Manager

/-! The two indexes of the room manager under any use.

Here the manager is on its own: any thread may call any operation with any instance ever
made, however long ago it was found. The look-ups by uid and `leave_room` release the lock
before they look up the room, so their second section waits in the pool.
-/

set_option autoImplicit false

namespace Rsp.RoomServer.Indexes

open Foundation Message

structure Index where
  manager : RoomManager := {}
  heap : List Room := []

abbrev Sections := Machine Index Nat RoomId

inductive Label where
  | createRoom (uid : Uid) (route : RoutingId) (roomId : RoomId)
  | joinedRoom (uid : Uid) (ptr : RoomPtr)
  | leftRoom (uid : Uid) (ptr : RoomPtr)
  | closeRoom (ptr : RoomPtr)
  | findRoom (roomId : RoomId)
  | findRoomOf (thread : Nat) (uid : Uid)
  | leaveRoom (thread : Nat) (uid : Uid)
  | findFound (thread : Nat)
  | shutdown
  deriving DecidableEq, Repr

/-- A `create_room` that throws changes nothing. -/
def createRoom (self : Index) (uid : Uid) (route : RoutingId) (roomId : RoomId) : Index :=
  match self.manager.createRoom uid roomId self.heap.length with
  | none => self
  | some manager => ⟨manager, self.heap ++ [Room.make roomId ⟨uid, route⟩ self.manager.nextStrand]⟩

def step (self : Sections) : Label → Option Sections
  | .createRoom uid route roomId => some { self with core := createRoom self.core uid route roomId }
  | .joinedRoom uid ptr => self.core.heap[ptr]?.map fun room =>
      { self with core.manager := (self.core.manager.joinedRoom uid ptr room.roomId).1 }
  | .leftRoom uid ptr => self.core.heap[ptr]?.map fun room =>
      { self with core.manager := (self.core.manager.leftRoom uid ptr room.roomId).1 }
  | .closeRoom ptr => self.core.heap[ptr]?.map fun room =>
      { self with core.manager := (self.core.manager.closeRoom ptr room.roomId).1 }
  | .findRoom _ => some self
  -- the second critical section is left to the thread, as `findFound`
  | .findRoomOf thread uid =>
      some { self with pool := (self.core.manager.findUserRoom uid).toList.map (Prod.mk thread) ++ self.pool }
  | .leaveRoom thread uid =>
      let (manager, found) := self.core.manager.leaveRoom uid
      some ⟨{ self.core with manager }, found.toList.map (Prod.mk thread) ++ self.pool⟩
  | .findFound thread => (Pool.pop thread self.pool).map fun found => { self with pool := found.2 }
  | .shutdown => some { self with core.manager := self.core.manager.shutdown.1 }

abbrev History := List (Transition Sections Label)

abbrev Reaches (history : History) (state : Sections) : Prop := Run step ⟨{}, []⟩ history state

/-! ## What one section does -/

inductive Changed (index : Index) : Index → Prop where
  | unchanged : Changed index index
  | created (uid : Uid) (room : Room) (live : index.manager.stopping = false) :
      Changed index ⟨{ index.manager with
        rooms := index.manager.rooms.insert room.roomId index.heap.length
        userRooms := index.manager.userRooms.insert uid room.roomId }, index.heap ++ [room]⟩
  | joined {uid : Uid} {roomId : RoomId} {ptr : RoomPtr} (registered : index.manager.rooms[roomId]? = some ptr) :
      Changed index { index with manager.userRooms := index.manager.userRooms.insert uid roomId }
  | left {uid : Uid} : Changed index { index with manager.userRooms := index.manager.userRooms.erase uid }
  | closed {roomId : RoomId} : Changed index { index with manager := { index.manager with
        rooms := index.manager.rooms.erase roomId
        userRooms := index.manager.userRooms.filter fun _ joined => joined ≠ roomId } }
  | shutdown : Changed index { index with manager := { stopping := true } }

theorem changed_of_step {state after : Sections} {label : Label} (moved : step state label = some after) :
    Changed state.core after.core := by
  cases label with
  | createRoom uid route roomId =>
    cases moved
    simp only [createRoom, RoomManager.createRoom]
    by_cases stopped : state.core.manager.stopping = true
    · rw [if_pos stopped]
      exact .unchanged
    · rw [if_neg stopped]
      exact .created uid (Room.make roomId ⟨uid, route⟩ state.core.manager.nextStrand) (by simpa using stopped)
  | joinedRoom uid ptr =>
    obtain ⟨room, found, rfl⟩ := Option.map_eq_some_iff.mp moved
    simp only [RoomManager.joinedRoom]
    split
    · exact .unchanged
    · next registered => exact .joined (not_ne_iff.mp registered)
  | leftRoom uid ptr =>
    obtain ⟨room, found, rfl⟩ := Option.map_eq_some_iff.mp moved
    simp only [RoomManager.leftRoom]
    split
    · exact .unchanged
    · exact .left
  | closeRoom ptr =>
    obtain ⟨room, found, rfl⟩ := Option.map_eq_some_iff.mp moved
    simp only [RoomManager.closeRoom]
    split
    · exact .unchanged
    · exact .closed
  | findRoom | findRoomOf =>
    cases moved
    exact .unchanged
  | leaveRoom thread uid =>
    cases moved
    cases state.core.manager.userRooms[uid]? with
    | none => exact .unchanged
    | some roomId => exact .left
  | findFound thread =>
    obtain ⟨found, -, rfl⟩ := Option.map_eq_some_iff.mp moved
    exact .unchanged
  | shutdown =>
    cases moved
    exact .shutdown

/-! ## Whole runs -/

structure Consistent (index : Index) : Prop where
  mapped : ∀ (uid : Uid) (roomId : RoomId), index.manager.userRooms[uid]? = some roomId →
    roomId ∈ index.manager.rooms
  keyed : ∀ (roomId : RoomId) (ptr : RoomPtr), index.manager.rooms[roomId]? = some ptr →
    ∃ room, index.heap[ptr]? = some room ∧ room.roomId = roomId
  emptied : index.manager.stopping = true → index.manager.rooms = ∅ ∧ index.manager.userRooms = ∅

theorem consistent_changed {index after : Index} (consistent : Consistent index) (changed : Changed index after) :
    Consistent after := by
  cases changed with
  | unchanged => exact consistent
  | created uid room live =>
    constructor
    case mapped =>
      intro other roomId found
      simp only [Std.ExtTreeMap.getElem?_insert, Std.LawfulEqCmp.compare_eq_iff_eq] at found
      rw [Std.ExtTreeMap.mem_insert]
      split at found
      · cases found
        exact .inl Std.ReflCmp.compare_self
      · exact .inr (consistent.mapped other roomId found)
    case keyed =>
      intro roomId ptr found
      simp only [Std.ExtTreeMap.getElem?_insert, Std.LawfulEqCmp.compare_eq_iff_eq] at found
      split at found
      · next same =>
        cases found
        exact ⟨room, by simp, same⟩
      · obtain ⟨old, stored, same⟩ := consistent.keyed roomId ptr found
        exact ⟨old, heap_get_append stored _, same⟩
    -- no room is created once the server has stopped
    case emptied => exact fun stopped => by cases live.symm.trans stopped
  | @joined uid roomId ptr registered =>
    constructor
    case mapped =>
      intro other joined found
      simp only [Std.ExtTreeMap.getElem?_insert, Std.LawfulEqCmp.compare_eq_iff_eq] at found
      split at found
      · cases found
        rw [Std.ExtTreeMap.mem_iff_isSome_getElem?, registered]
        rfl
      · exact consistent.mapped other joined found
    case keyed => exact consistent.keyed
    case emptied =>
      intro stopped
      rw [(consistent.emptied stopped).1] at registered
      simp at registered
  | @left uid =>
    constructor
    case mapped =>
      intro other roomId found
      rw [Std.ExtTreeMap.getElem?_erase] at found
      split at found
      · cases found
      · exact consistent.mapped other roomId found
    case keyed => exact consistent.keyed
    case emptied =>
      intro stopped
      obtain ⟨rooms, users⟩ := consistent.emptied stopped
      exact ⟨rooms, by simp [users]⟩
  | @closed closing =>
    constructor
    case mapped =>
      intro uid roomId found
      simp only [Std.ExtTreeMap.getElem?_filter, Option.pfilter_eq_filter, Option.filter_eq_some_iff] at found
      rw [Std.ExtTreeMap.mem_erase]
      -- the users of the room go with it
      refine ⟨fun same => ?_, consistent.mapped uid roomId found.1⟩
      simp [Std.LawfulEqCmp.compare_eq_iff_eq.mp same] at found
    case keyed =>
      intro roomId ptr found
      rw [Std.ExtTreeMap.getElem?_erase] at found
      split at found
      · cases found
      · exact consistent.keyed roomId ptr found
    case emptied =>
      intro stopped
      obtain ⟨rooms, users⟩ := consistent.emptied stopped
      exact ⟨by simp [rooms], by rw [users]; rfl⟩
  | shutdown =>
    constructor
    case mapped => exact fun uid roomId found => by simp at found
    case keyed => exact fun roomId ptr found => by simp at found
    case emptied => exact fun _ => ⟨rfl, rfl⟩

theorem consistent_reached {history : History} {state : Sections} (run : Reaches history state) :
    Consistent state.core := by
  induction run with
  | start => constructor <;> simp
  | next previous moved ih => exact consistent_changed ih (changed_of_step moved)

theorem stopping_changed {index after : Index} (changed : Changed index after) (stopped : index.manager.stopping = true) :
    after.manager.stopping = true := by
  cases changed with
  | shutdown => rfl
  | unchanged | created | joined | left | closed => exact stopped

theorem stopping_reached {history : History} {state : Sections} (run : Reaches history state)
    (mem : .shutdown ∈ history.map Transition.label) : state.core.manager.stopping = true := by
  induction run with
  | start => cases mem
  | @next past before after label previous moved ih =>
    rw [List.map_append, List.mem_append] at mem
    rcases mem with earlier | now
    · exact stopping_changed (changed_of_step moved) (ih earlier)
    · cases List.mem_singleton.mp now
      cases moved
      rfl

/-- Whatever the callers do, every uid is mapped to a registered room, every room is
registered under its own id, closing touches only a registered instance and releases all
its uids, and after the shutdown the indexes stay empty. -/
theorem indexes_consistent {history : History} {state : Sections} (run : Reaches history state) :
    (∀ (uid : Uid) (roomId : RoomId), state.core.manager.userRooms[uid]? = some roomId →
      roomId ∈ state.core.manager.rooms) ∧
    (∀ (roomId : RoomId) (ptr : RoomPtr), state.core.manager.rooms[roomId]? = some ptr →
      ∃ room, state.core.heap[ptr]? = some room ∧ room.roomId = roomId) ∧
    (∀ (ptr : RoomPtr) (room : Room), state.core.heap[ptr]? = some room →
      state.core.manager.rooms[room.roomId]? ≠ some ptr →
        state.core.manager.closeRoom ptr room.roomId = (state.core.manager, false)) ∧
    (∀ (ptr : RoomPtr) (room : Room), state.core.heap[ptr]? = some room →
      state.core.manager.rooms[room.roomId]? = some ptr →
        ∀ uid : Uid, (state.core.manager.closeRoom ptr room.roomId).1.userRooms[uid]? ≠ some room.roomId) ∧
    (.shutdown ∈ history.map Transition.label → state.core.manager.rooms = ∅ ∧ state.core.manager.userRooms = ∅ ∧
      ∀ (uid : Uid) (roomId : RoomId) (ptr : RoomPtr), state.core.manager.createRoom uid roomId ptr = none) := by
  have consistent := consistent_reached run
  refine ⟨consistent.mapped, consistent.keyed, ?_, ?_, ?_⟩
  · intro ptr room found other
    rw [RoomManager.closeRoom, if_pos other]
  · intro ptr room found registered uid
    rw [RoomManager.closeRoom, if_neg (not_not.mpr registered)]
    simp [Std.ExtTreeMap.getElem?_filter]
  · intro stopped
    have stopping := stopping_reached run stopped
    obtain ⟨rooms, users⟩ := consistent.emptied stopping
    exact ⟨rooms, users, fun uid roomId ptr => by rw [RoomManager.createRoom, if_pos stopping]⟩

def replaced : List Label :=
  [.createRoom "a" "route" 7, .createRoom "b" "route" 7, .closeRoom 0, .joinedRoom "a" 0, .leaveRoom 1 "b",
    .closeRoom 1, .findFound 1, .shutdown, .createRoom "c" "route" 8]

theorem indexes_consistent_replaced :
    (final step ⟨{}, []⟩ replaced).core.manager.rooms = ∅ ∧
      (final step ⟨{}, []⟩ replaced).core.manager.createRoom "d" 9 3 = none := by
  have run : Reaches (transitions step ⟨{}, []⟩ replaced) (final step ⟨{}, []⟩ replaced) :=
    run_of_enabled (by decide +kernel)
  obtain ⟨rooms, -, none⟩ := (indexes_consistent run).2.2.2.2 (by decide +kernel)
  exact ⟨rooms, none "d" 9 3⟩

end Rsp.RoomServer.Indexes
