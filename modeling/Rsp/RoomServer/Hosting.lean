import Rsp.RoomServer.Kickout

/-! The contents of a room and the items that call them.

Most callbacks run on the room's strand, `on_recv_message` on the receiving thread. This
module says what an item does to the contents of a room and where the items that call
them wait; the order of the calls is derived from it.
-/

set_option autoImplicit false

namespace Rsp.RoomServer

open Message Foundation

/-! ## The contents view -/

/-- The part of a room that its contents see. -/
structure Host where
  roomId : RoomId
  strand : Fin 3
  contents : Bool
  lifecycle : Lifecycle
  callbacks : List Callback

def Room.host (self : Room) : Host := ⟨self.roomId, self.strand, self.contents, self.lifecycle, self.callbacks⟩

def Core.hosts (self : Core) : List Host := self.heap.map Room.host

namespace Host

def Bare (self : Host) : Prop := self.contents = false ∧ self.callbacks = []

def closeImpl (self : Host) : Host :=
  if self.lifecycle ≠ .kOpen then self
  else { self with
    lifecycle := .kClosed
    contents := false
    callbacks := if self.contents then self.callbacks ++ [.onDestroyRoom] else self.callbacks }

theorem Bare.closeImpl {host : Host} (bare : host.Bare) : host.closeImpl.Bare := by
  unfold Host.closeImpl
  split
  · exact bare
  · simp [Bare, bare.1, bare.2]

theorem closeImpl_told (host : Host) :
    host.closeImpl.roomId = host.roomId ∧
      (host.closeImpl.callbacks = host.callbacks ∨ host.closeImpl.callbacks = host.callbacks ++ [.onDestroyRoom]) := by
  unfold Host.closeImpl
  split
  · exact ⟨rfl, .inl rfl⟩
  · refine ⟨rfl, ?_⟩
    dsimp only
    split
    · exact .inr rfl
    · exact .inl rfl

end Host

theorem host_closeImpl (room : Room) : room.closeImpl.host = room.host.closeImpl := by
  unfold Room.closeImpl Host.closeImpl
  by_cases isOpen : room.lifecycle = .kOpen <;> simp [Room.host, isOpen]

theorem hosts_get (core : Core) (ptr : RoomPtr) : core.hosts[ptr]? = (core.heap[ptr]?).map Room.host := by
  simp [Core.hosts]

@[simp] theorem hosts_length (core : Core) : core.hosts.length = core.heap.length := by
  simp [Core.hosts]

@[simp] theorem hosts_setRoom (core : Core) (ptr : RoomPtr) (room : Room) :
    (core.setRoom ptr room).hosts = core.hosts.set ptr room.host := by
  simp [Core.hosts, Core.setRoom, List.map_set]

theorem found_host {core : Core} {ptr : RoomPtr} {room : Room} (found : core.heap[ptr]? = some room) :
    core.hosts[ptr]? = some room.host := by
  rw [hosts_get, found]
  rfl

/-! ## Items and the contents they call -/

def Task.equips (room : RoomPtr) : Task → Prop
  | .handle _ (.createContents ptr _) => ptr = room
  | _ => False

def Task.announces (room : RoomPtr) : Task → Prop
  | .handle _ (.onCreateRoom ptr) => ptr = room
  | _ => False

/-- The items that call the contents of a room: null contents end the process there. -/
def Task.calls (room : RoomPtr) : Task → Prop
  | .handle _ (.onCreateRoom ptr) => ptr = room
  | .handle _ (.onUserEnter ptr _) => ptr = room
  | .handle _ (.onUserExit ptr ..) => ptr = room
  | .onRecvMessage ptr .. => ptr = room
  | .onKickedOutUser ptr .. => ptr = room
  | _ => False

instance (room : RoomPtr) (task : Task) : Decidable (task.equips room) := by
  unfold Task.equips
  split <;> infer_instance

instance (room : RoomPtr) (task : Task) : Decidable (task.announces room) := by
  unfold Task.announces
  split <;> infer_instance

def Task.room : Task → Option RoomPtr
  | .onRecvMessage room .. => some room
  | other => other.home

def Task.routed : Task → Prop
  | .onRecv _ => True
  | .handle _ (.createRoom _) => True
  | .handle _ (.createContents ..) => True
  | .handle _ (.findJoin _) => True
  | .handle _ (.findLeave _) => True
  | .handle _ (.findLeaveRoom ..) => True
  | .findForward .. => True
  | .onRecvMessage .. => True
  | _ => False

def Task.underway : Task → Prop
  | .handle _ (.joinedRoom ..) => True
  | .handle _ (.leftRoom ..) => True
  | .handle _ (.onUserEnter ..) => True
  | .handle _ (.onUserExit ..) => True
  | .onKickedOutUser .. => True
  | _ => False

def Task.light : Task → Prop
  | .handle _ (.complete _) => True
  | .handle _ (.sendResponse _) => True
  | .sendNotification .. => True
  | _ => False

theorem equips_routed {task : Task} {ptr : RoomPtr} (equips : task.equips ptr) : task.routed := by
  unfold Task.equips at equips
  split at equips <;> simp_all [Task.routed]

theorem equips_room {task : Task} {ptr target : RoomPtr} (equips : task.equips ptr) : task.room ≠ some target := by
  unfold Task.equips at equips
  split at equips <;> simp_all [Task.room, Task.home]

theorem announces_home {task : Task} {ptr : RoomPtr} (announces : task.announces ptr) : task.home = some ptr := by
  unfold Task.announces at announces
  split at announces <;> simp_all [Task.home]

theorem home_room {task : Task} {ptr : RoomPtr} (home : task.home = some ptr) : task.room = some ptr := by
  unfold Task.room
  split
  · cases home
  · exact home

theorem calls_room {task : Task} {ptr : RoomPtr} (calls : task.calls ptr) : task.room = some ptr := by
  unfold Task.calls at calls
  split at calls <;> simp_all [Task.room, Task.home]

/-! ## What an item does to the contents -/

def Unheralded (effect : Effect) : Prop := ∀ item ∈ items effect, ∀ ptr, ¬ item.equips ptr ∧ ¬ item.announces ptr

inductive Hosted (core : Core) : Task → Effect → Prop where
  | same {task : Task} {effect : Effect} (hosts : effect.core.hosts = core.hosts) (plain : Unheralded effect) :
      Hosted core task effect
  | created {request : Admitted} {message : User2RoomReqCreateRoom} {effect : Effect} (host : Host)
      (response : User2RoomResCreateRoom) (bare : host.Bare) (isOpen : host.lifecycle = .kOpen)
      (hosts : effect.core.hosts = core.hosts ++ [host])
      (next : effect.next = [.handle request (.createContents core.heap.length response)])
      (posts : effect.posts = []) : Hosted core (.handle request (.createRoom message)) effect
  | equipped {request : Admitted} {ptr : RoomPtr} {response : User2RoomResCreateRoom} {effect : Effect} (host : Host)
      (found : core.hosts[ptr]? = some host)
      (hosts : effect.core.hosts = core.hosts.set ptr { host with contents := true })
      (next : effect.next = [.handle request (.complete (.resCreateRoom response))])
      (posts : effect.posts = [(.strand host.strand, .handle request (.onCreateRoom ptr))]) :
      Hosted core (.handle request (.createContents ptr response)) effect
  | called {task : Task} {ptr : RoomPtr} {effect : Effect} (host : Host) (call : Callback)
      (found : core.hosts[ptr]? = some host) (contents : host.contents = true) (calls : task.calls ptr)
      (first : ∀ roomId, call = .onCreateRoom roomId ↔ task.announces ptr ∧ roomId = host.roomId)
      (living : call ≠ .onDestroyRoom)
      (hosts : effect.core.hosts = core.hosts.set ptr { host with callbacks := host.callbacks ++ [call] })
      (plain : Unheralded effect) : Hosted core task effect
  | closed {task : Task} {ptr : RoomPtr} {effect : Effect} (host : Host) (found : core.hosts[ptr]? = some host)
      (closes : task.closes ptr) (hosts : effect.core.hosts = core.hosts.set ptr host.closeImpl)
      (plain : Unheralded effect) : Hosted core task effect

section Stages

variable {choice : Choice} {core : Core} {task : Task} {effect : Effect}

theorem hosts_set_same {ptr : RoomPtr} {room : Room} {host : Host} (found : core.heap[ptr]? = some room)
    (same : host = room.host) : core.hosts.set ptr host = core.hosts := by
  rw [same]
  exact heap_set_self (found_host found)

theorem hosted_called {ptr : RoomPtr} {call : Callback} {after : Core}
    (invoked : core.callback ptr call = some after) (calls : task.calls ptr)
    (first : ∀ room, core.heap[ptr]? = some room →
      ∀ roomId, call = .onCreateRoom roomId ↔ task.announces ptr ∧ roomId = room.roomId)
    (living : call ≠ .onDestroyRoom) (same : effect.core = after) (plain : Unheralded effect) :
    Hosted core task effect := by
  simp only [Core.callback, Room.callback, Option.bind_eq_bind, Option.pure_def, Option.bind_eq_some_iff] at invoked
  obtain ⟨room, found, new, ready, stored⟩ := invoked
  split at ready
  · next contents =>
    cases ready
    cases stored
    refine .called room.host call (found_host found) contents calls (first room found) living ?_ plain
    rw [same, hosts_setRoom]
    rfl
  · cases ready

theorem hosted_closed {ptr : RoomPtr} {room : Room} (found : core.heap[ptr]? = some room)
    (closes : task.closes ptr) : Hosted core task { core := core.setRoom ptr room.closeImpl } := by
  refine .closed room.host (found_host found) closes ?_ (by simp [Unheralded, items])
  rw [hosts_setRoom, host_closeImpl]

theorem hosted_of_ran {request : Admitted} {stage : Stage} (ran : Ran choice core request stage effect) :
    Hosted core (.handle request stage) effect := by
  cases ran with
  | @created message queued running lower upper =>
    refine .created (Room.make choice.draw ⟨message.uid, request.destination⟩ core.manager.nextStrand).host _
      ⟨rfl, rfl⟩ rfl ?_ rfl rfl
    simp [Core.hosts]
  | contentsCreated found =>
    refine .equipped _ (found_host found) ?_ rfl rfl
    rw [hosts_setRoom]
    rfl
  | createNotified found called =>
    refine hosted_called called rfl ?_ (by simp) rfl (by simp [Unheralded, items])
    intro room stored roomId
    obtain rfl := Option.some.inj (found.symm.trans stored)
    simp [Task.announces, eq_comm]
  | enterNotified called =>
    exact hosted_called called rfl (by simp [Task.announces]) (by simp) rfl (by simp [Unheralded, items])
  | @exitNotified ptr uid empty after called =>
    refine hosted_called called rfl (by simp [Task.announces]) (by simp) rfl ?_
    cases empty <;> simp [Unheralded, items, Task.equips, Task.announces]
  | closed found => exact hosted_closed found rfl
  | joinEntered queued found | leaveExited queued found =>
    refine .same ?_ (by simp [Unheralded, items, Task.equips, Task.announces])
    rw [hosts_setRoom]
    exact hosts_set_same found rfl
  | @joined ptr uid inserted response room found =>
    refine .same rfl ?_
    cases inserted <;> simp [Unheralded, items, Task.equips, Task.announces]
  | completed =>
    refine .same rfl ?_
    simp only [complete, Unheralded, items]
    split <;> simp [Task.equips, Task.announces]
  | createLate | createStopping | contentsThrown | joinUnknown | joinFound | joinLate | joinClosed | leaveUnindexed
  | leaveIndexed | leaveUnknown | leaveFound | leaveLate | leaveRefused | left | emptied | emptyStale | sent
  | aborted => exact .same rfl (by simp [leaveUnknown, Unheralded, items, Task.equips, Task.announces])

theorem requestOf_unheralded {message : ToRoom} {requestId : Nat} {resType : MessageType} {first : Stage}
    (request : requestOf message = some (requestId, resType, first)) (admitted : Admitted) (ptr : RoomPtr) :
    ¬ (Task.handle admitted first).equips ptr ∧ ¬ (Task.handle admitted first).announces ptr := by
  cases message <;> cases request <;> simp [Task.equips, Task.announces]

theorem hosted_of_executed (executed : Executed choice core task effect) : Hosted core task effect := by
  cases executed with
  | received received =>
    cases received with
    | admitted known admitted =>
      exact .same rfl (by simpa [Unheralded, items] using requestOf_unheralded known _)
    | ping | forwardUnindexed | forwardIndexed | cancelled | refused =>
      exact .same rfl (by simp [Unheralded, items, Task.equips, Task.announces])
  | staged ran => exact hosted_of_ran ran
  | forwarded called =>
    exact hosted_called called rfl (by simp [Task.announces]) (by simp) rfl (by simp [Unheralded, items])
  | @kicked ptr uid reason room found contents =>
    refine .called room.host (.onKickedOutUser uid reason) (found_host found) contents rfl (by simp [Task.announces])
      (by simp) ?_ (by simp [Unheralded, items])
    rw [hosts_setRoom]
    rfl
  | closed found => exact hosted_closed found rfl
  | broadcast => exact .same rfl (by simp [Unheralded, items, fwdClient, Task.equips, Task.announces])
  | forwardStale | forwardFound | kickAbsent | kickPresent | notified =>
    exact .same rfl (by simp [Unheralded, items, Task.equips, Task.announces])

end Stages

inductive Turn (task : Task) (ptr : RoomPtr) (host : Host) : Host → Prop where
  | same : Turn task ptr host host
  | equipped (equips : task.equips ptr) : Turn task ptr host { host with contents := true }
  | called (call : Callback) (contents : host.contents = true) (calls : task.calls ptr)
      (first : ∀ roomId, call = .onCreateRoom roomId ↔ task.announces ptr ∧ roomId = host.roomId)
      (living : call ≠ .onDestroyRoom) : Turn task ptr host { host with callbacks := host.callbacks ++ [call] }
  | closed (closes : task.closes ptr) : Turn task ptr host host.closeImpl

theorem turn_of_hosted {core : Core} {task : Task} {effect : Effect} (hosted : Hosted core task effect)
    {ptr : RoomPtr} {host : Host} (found : core.hosts[ptr]? = some host) :
    ∃ after, effect.core.hosts[ptr]? = some after ∧ Turn task ptr host after := by
  have updated : ∀ {target : RoomPtr} {old new : Host}, core.hosts[target]? = some old → Turn task target old new →
      ∃ after, (core.hosts.set target new)[ptr]? = some after ∧ Turn task ptr host after := by
    intro target old new stored turn
    rw [heap_get_set stored]
    by_cases same : target = ptr
    · subst same
      obtain rfl := Option.some.inj (stored.symm.trans found)
      exact ⟨new, if_pos rfl, turn⟩
    · exact ⟨host, by rw [if_neg same, found], .same⟩
  cases hosted with
  | same hosts plain => exact ⟨host, by rw [hosts, found], .same⟩
  | created new response bare isOpen hosts next posts => exact ⟨host, by rw [hosts, heap_get_append found], .same⟩
  | equipped old stored hosts next posts =>
    rw [hosts]
    exact updated stored (.equipped rfl)
  | called old call stored contents calls first living hosts plain =>
    rw [hosts]
    exact updated stored (.called call contents calls first living)
  | closed old stored closes hosts plain =>
    rw [hosts]
    exact updated stored (.closed closes)

/-- A room that exists after an item existed before, or is the one the item created. -/
theorem hosted_before {core : Core} {task : Task} {effect : Effect} (hosted : Hosted core task effect)
    {ptr : RoomPtr} {after : Host} (stored : effect.core.hosts[ptr]? = some after) :
    (∃ host, core.hosts[ptr]? = some host ∧ Turn task ptr host after) ∨
      (ptr = core.heap.length ∧ after.Bare ∧ after.lifecycle = .kOpen ∧ ∃ item ∈ effect.next, item.equips ptr) := by
  cases found : core.hosts[ptr]? with
  | some host =>
    obtain ⟨new, same, turn⟩ := turn_of_hosted hosted found
    obtain rfl := Option.some.inj (stored.symm.trans same)
    exact .inl ⟨host, rfl, turn⟩
  | none =>
    have beyond : core.hosts.length ≤ ptr := List.getElem?_eq_none_iff.mp found
    have absent : ∀ {target : RoomPtr} {new : Host}, (core.hosts.set target new)[ptr]? = none := by
      intro target new
      exact List.getElem?_eq_none (by simpa using beyond)
    cases hosted with
    | created new response bare isOpen hosts next posts =>
      rw [hosts, heap_get_concat] at stored
      split at stored
      · next last =>
        cases stored
        rw [hosts_length] at last
        refine .inr ⟨last, bare, isOpen, ?_⟩
        rw [next]
        exact ⟨_, List.mem_singleton_self _, last.symm⟩
      · rw [found] at stored
        cases stored
    | same hosts plain =>
      rw [hosts, found] at stored
      cases stored
    | equipped old known hosts | called old call known contents calls first living hosts
    | closed old known closes hosts =>
      rw [hosts, absent] at stored
      cases stored

theorem equips_of_hosted {core : Core} {task item : Task} {effect : Effect} {ptr : RoomPtr}
    (hosted : Hosted core task effect) (new : item ∈ items effect) (equips : item.equips ptr) :
    ptr = core.heap.length ∧ effect.next = [item] ∧ effect.posts = [] ∧
      ∃ host, effect.core.hosts[ptr]? = some host ∧ host.Bare := by
  cases hosted with
  | created host response bare isOpen hosts next posts =>
    obtain rfl : item = _ := by simpa [items, next, posts] using new
    cases equips
    refine ⟨rfl, next, posts, host, ?_, bare⟩
    rw [hosts, ← hosts_length, List.getElem?_concat_length]
  | equipped host found hosts next posts =>
    simp only [items, next, posts, List.map_cons, List.map_nil, List.mem_append, List.mem_singleton] at new
    rcases new with rfl | rfl <;> cases equips
  | same hosts plain | called host call found contents calls first living hosts plain
  | closed host found closes hosts plain => exact absurd equips (plain item new ptr).1

theorem announces_of_hosted {core : Core} {task item : Task} {effect : Effect} {ptr : RoomPtr}
    (hosted : Hosted core task effect) (new : item ∈ items effect) (announces : item.announces ptr) :
    task.equips ptr ∧ ∃ host, effect.core.hosts[ptr]? = some host ∧ host.contents = true := by
  cases hosted with
  | equipped host found hosts next posts =>
    simp only [items, next, posts, List.map_cons, List.map_nil, List.mem_append, List.mem_singleton] at new
    rcases new with rfl | rfl <;> cases announces
    exact ⟨rfl, { host with contents := true }, by rw [hosts, heap_get_set found, if_pos rfl], rfl⟩
  | created host response bare isOpen hosts next posts =>
    obtain rfl : item = _ := by simpa [items, next, posts] using new
    cases announces
  | same hosts plain | called host call found contents calls first living hosts plain
  | closed host found closes hosts plain => exact absurd announces (plain item new ptr).2

theorem length_of_hosted {core : Core} {task : Task} {effect : Effect} (hosted : Hosted core task effect) :
    core.heap.length ≤ effect.core.heap.length := by
  rw [← hosts_length, ← hosts_length]
  cases hosted with
  | same hosts plain => exact Nat.le_of_eq (by rw [hosts])
  | created host response bare isOpen hosts | equipped host found hosts
  | called host call found contents calls first living hosts | closed host found closes hosts => simp [hosts]

/-! ## Where the calls wait -/

/-- Only the receiving thread posts, and what a strand task leaves for its room stays in front. -/
structure Arranged (task : Task) (effect : Effect) : Prop where
  routed : ∀ item ∈ effect.next, item.routed → task.routed
  posted : ∀ entry ∈ effect.posts, task.routed ∧ ¬ entry.2.routed ∧ ¬ entry.2.underway
  leads : Pool.Leads Task.light Task.underway effect.next
  lights : task.light → ∀ item ∈ effect.next, item.light

theorem arranged_of_ran {choice : Choice} {request : Admitted} {stage : Stage} {core : Core} {effect : Effect}
    (ran : Ran choice core request stage effect) : Arranged (.handle request stage) effect := by
  cases ran with
  | @joined ptr uid inserted response room found =>
    cases inserted <;> constructor <;> simp [Task.routed, Task.underway, Task.light, Pool.Leads]
  | @exitNotified ptr uid empty after called =>
    cases empty <;> constructor <;> simp [Task.routed, Task.light, Pool.Leads]
  | completed =>
    unfold complete
    dsimp only
    split <;> constructor <;> simp [Task.routed, Task.light, Pool.Leads]
  | createLate | createStopping | created | contentsThrown | contentsCreated | createNotified | joinUnknown
  | joinFound | joinLate | joinClosed | joinEntered | enterNotified | leaveUnindexed | leaveIndexed | leaveUnknown
  | leaveFound | leaveLate | leaveRefused | leaveExited | left | emptied | emptyStale | closed | sent | aborted =>
    constructor <;> simp [leaveUnknown, Task.routed, Task.underway, Task.light, Pool.Leads]

theorem arranged_of_executed {choice : Choice} {core : Core} {task : Task} {effect : Effect}
    (executed : Executed choice core task effect) : Arranged task effect := by
  cases executed with
  | received received =>
    cases received with
    | admitted | ping | forwardUnindexed | forwardIndexed | cancelled | refused =>
      constructor <;> simp [Task.routed, Task.light, Pool.Leads]
  | staged ran => exact arranged_of_ran ran
  | broadcast =>
    constructor
    · simp [fwdClient, Task.routed]
    · simp
    · apply Pool.leads_of_tail
      intro item mem
      obtain ⟨user, -, rfl⟩ := List.mem_map.mp (List.mem_of_mem_tail mem)
      exact id
    · simp [Task.light]
  | forwardStale | forwardFound | forwarded | kickAbsent | kickPresent | kicked | notified | closed =>
    constructor <;> simp [Task.routed, Task.underway, Task.light, Pool.Leads]

theorem room_cases {task : Task} {ptr : RoomPtr} (room : task.room = some ptr) :
    task.home = some ptr ∨ ∃ sender message, task = .onRecvMessage ptr sender message := by
  unfold Task.room at room
  split at room
  · cases room
    exact .inr ⟨_, _, rfl⟩
  · exact .inl room

/-- Work for a room comes from its own work, or from the receiving thread once the room is known there. -/
theorem room_of_executed {choice : Choice} {core : Core} {task item : Task} {effect : Effect} {ptr : RoomPtr}
    (executed : Executed choice core task effect) (new : item ∈ items effect) (room : item.room = some ptr) :
    task.room = some ptr ∨ (task.routed ∧
      (ptr < core.heap.length ∨ ∃ roomId : RoomId, core.manager.rooms[roomId]? = some ptr)) := by
  have placed := placed_of_executed executed
  rcases room_cases room with home | ⟨sender, message, rfl⟩
  · rcases List.mem_append.mp new with mem | mem
    · exact .inl (home_room (placed.next item mem ptr home))
    · obtain ⟨entry, posted, rfl⟩ := List.mem_map.mp mem
      obtain ⟨stored, found, -⟩ := placed.posts entry posted ptr home
      exact .inr ⟨((arranged_of_executed executed).posted entry posted).1, .inl (heap_bound found)⟩
  · obtain ⟨notification, roomId, rfl, -, known⟩ := onRecvMessage_of_executed executed new
    exact .inr ⟨trivial, .inr ⟨roomId, known⟩⟩

/-- The items of the receiving thread wait there, a started task of a room is in front of its strand, and
contents are created before anything else happens to the room. -/
structure Housed (state : State) : Prop where
  routed : ∀ entry ∈ state.pool, entry.2.routed → entry.1 = .router
  underway : Pool.Leading Task.light Task.underway state.pool
  equipping : Pool.Leading (fun _ => False) (fun task => ∃ ptr, task.equips ptr) state.pool
  known : ∀ task ptr, Waiting state task → task.room = some ptr → ptr < state.core.heap.length
  bare : ∀ task ptr, Waiting state task → task.equips ptr →
    ∃ host, state.core.hosts[ptr]? = some host ∧ host.Bare

theorem Housed.post {core after : Core} {pool posts : Pool Thread Task} (housed : Housed ⟨core, pool⟩)
    (hosts : after.hosts = core.hosts) (routed : ∀ entry ∈ posts, entry.2.routed → entry.1 = .router)
    (plain : ∀ entry ∈ posts, ¬ entry.2.underway ∧ ∀ ptr, ¬ entry.2.equips ptr)
    (known : ∀ entry ∈ posts, ∀ ptr, entry.2.room = some ptr → ptr < core.heap.length) :
    Housed ⟨after, pool ++ posts⟩ := by
  have length : after.heap.length = core.heap.length := by rw [← hosts_length, hosts, hosts_length]
  constructor
  case routed =>
    intro entry mem isRouted
    rcases List.mem_append.mp mem with mem | mem
    · exact housed.routed entry mem isRouted
    · exact routed entry mem isRouted
  case underway => exact Pool.leading_append housed.underway fun entry mem => (plain entry mem).1
  case equipping =>
    apply Pool.leading_append housed.equipping
    rintro entry mem ⟨ptr, equips⟩
    exact (plain entry mem).2 ptr equips
  case known =>
    rintro task ptr ⟨thread, waits⟩ room
    dsimp only
    rw [length]
    rcases List.mem_append.mp waits with waits | mem
    · exact housed.known task ptr ⟨thread, waits⟩ room
    · exact known _ mem ptr room
  case bare =>
    rintro task ptr ⟨thread, waits⟩ equips
    dsimp only
    rw [hosts]
    rcases List.mem_append.mp waits with waits | mem
    · exact housed.bare task ptr ⟨thread, waits⟩ equips
    · exact absurd equips ((plain _ mem).2 ptr)

theorem Housed.alone {state : State} (housed : Housed state) {thread : Thread} {task other : Task}
    {before later : Pool Thread Task} (split : state.pool = before ++ (thread, task) :: later)
    (quiet : Pool.idle before thread) (isRouted : task.routed) {owner : Thread}
    (mem : (owner, other) ∈ before ++ later) (ptr : RoomPtr) : ¬ other.equips ptr := by
  intro equips
  have here : thread = .router := housed.routed (thread, task) (by simp [split]) isRouted
  have inPool : (owner, other) ∈ state.pool := mem_of_rest split mem
  have there : owner = .router := housed.routed (owner, other) inPool (equips_routed equips)
  have leading := housed.equipping
  rw [split] at leading
  exact leading.behind quiet not_false mem (there.trans here.symm) ⟨ptr, equips⟩

theorem housed_step {state after : State} {label : Label} (grounded : Grounded state) (housed : Housed state)
    (moved : step state label = some after) : Housed after := by
  cases stepped_of_step moved with
  | @delivered source message quiet =>
    apply housed.post
    · rfl
    · simp
    · simp [Task.underway, Task.equips]
    · simp [Task.room, Task.home]
  | @called ptr call room found contents =>
    apply housed.post rfl
    all_goals
      intro entry mem
      simp only [List.mem_map, Option.mem_toList] at mem
      obtain ⟨task, posted, rfl⟩ := mem
      cases call with
      | sendToUser uids message =>
        obtain ⟨users, -, rfl⟩ := Option.map_eq_some_iff.mp posted
        simp [Task.routed, Task.underway, Task.equips, Task.room, Task.home]
      | kickOutUser uid reason =>
        cases posted
        simp [Task.routed, Task.underway, Task.equips, Task.room, Task.home, heap_bound found]
  | stopped running =>
    unfold shutdown
    apply housed.post
    · rfl
    all_goals
      intro entry mem
      simp only [List.mem_filterMap, Option.map_eq_some_iff] at mem
      obtain ⟨ptr, -, room, found, rfl⟩ := mem
      simp [Task.routed, Task.underway, Task.equips, Task.room, Task.home, heap_bound found]
  | @ran thread choice task before later effect split quiet executed =>
    have hosted := hosted_of_executed executed
    have arranged := arranged_of_executed executed
    have origin : (thread, task) ∈ state.pool := by simp [split]
    constructor
    case routed =>
      intro entry mem isRouted
      simp only [List.mem_append, List.mem_map] at mem
      rcases mem with (⟨item, mem, rfl⟩ | mem) | mem
      · exact housed.routed (thread, task) origin (arranged.routed item mem isRouted)
      · exact housed.routed entry (mem_of_rest split (List.mem_append.mpr mem)) isRouted
      · exact absurd isRouted (arranged.posted entry mem).2.1
    case underway =>
      exact Pool.leading_run (split ▸ housed.underway) quiet arranged.leads arranged.lights
        fun entry mem => (arranged.posted entry mem).2.2
    -- equipping a room is queued alone, so the order holds with nothing beside it
    case equipping =>
      apply Pool.leading_run (split ▸ housed.equipping) quiet _ False.elim
      · rintro entry mem ⟨ptr, equips⟩
        have new : entry.2 ∈ items effect := List.mem_append_right _ (List.mem_map_of_mem mem)
        rw [(equips_of_hosted hosted new equips).2.2.1] at mem
        cases mem
      · apply Pool.leads_of_tail
        rintro item mem ⟨ptr, equips⟩
        have new : item ∈ items effect := List.mem_append_left _ (List.mem_of_mem_tail mem)
        rw [(equips_of_hosted hosted new equips).2.1] at mem
        cases mem
    case known =>
      intro item ptr waits room
      apply Nat.lt_of_lt_of_le _ (length_of_hosted hosted)
      rcases (waiting_ran item).mp waits with new | still
      · rcases room_of_executed executed new room with same | ⟨-, bound | ⟨roomId, registered⟩⟩
        · exact housed.known task ptr ⟨thread, origin⟩ same
        · exact bound
        · exact grounded roomId ptr registered
      · exact housed.known item ptr ((waiting_split split item).mpr (.inr still)) room
    case bare =>
      intro item ptr waits equips
      rcases (waiting_ran item).mp waits with new | ⟨owner, still⟩
      · obtain ⟨-, -, -, host, found, bare⟩ := equips_of_hosted hosted new equips
        exact ⟨host, found, bare⟩
      · obtain ⟨host, found, bare⟩ := housed.bare item ptr ⟨owner, mem_of_rest split still⟩ equips
        obtain ⟨new, stored, turn⟩ := turn_of_hosted hosted found
        refine ⟨new, stored, ?_⟩
        cases turn with
        | same => exact bare
        -- no two tasks equip a room at once
        | equipped also => exact absurd equips (housed.alone split quiet (equips_routed also) still ptr)
        | called call contents calls first living => exact absurd (bare.1.symm.trans contents) Bool.false_ne_true
        | closed closes => exact bare.closeImpl

theorem housed_reached {history : History} {state : State} (run : Reaches history state) : Housed state := by
  refine run.history (fun _ state => Housed state) ?_ ?_
  · exact ⟨by simp [initial], Pool.leading_nil, Pool.leading_nil, by simp [initial, Waiting], by simp [initial, Waiting]⟩
  · intro past move reached housed moved _
    exact housed_step (grounded_reached reached) housed moved

end Rsp.RoomServer
