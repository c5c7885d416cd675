import Rsp.RoomServer.Membership

/-! Creating a room and what becomes of the rooms that exist.

`create_room` draws the id without looking at the registered ones. The results below
say exactly when that disturbs a live room, and that it is the only way for a room to
be lost: otherwise a room stays registered until its contents are told of its end.
-/

set_option autoImplicit false

namespace Rsp.RoomServer

open Message Foundation

/-! ## One call -/

/-- Every registered room and the index of every other user are as before. -/
structure Undisturbed (before after : RoomManager) (uid : Uid) : Prop where
  rooms : ∀ (roomId : RoomId) (ptr : RoomPtr), before.findRoom roomId = some ptr → after.findRoom roomId = some ptr
  users : ∀ other ≠ uid, after.findUserRoom other = before.findUserRoom other
  resolves : ∀ other ≠ uid, ∀ ptr, before.findRoomOf other = some ptr → after.findRoomOf other = some ptr

theorem createRoom_running {manager : RoomManager} (running : manager.stopping = false) (uid : Uid) (roomId : RoomId)
    (created : RoomPtr) : manager.createRoom uid roomId created = some { manager with
      rooms := manager.rooms.insert roomId created
      userRooms := manager.userRooms.insert uid roomId } := by
  simp [RoomManager.createRoom, running]

/-- A fresh instance leaves the others alone exactly when its id was not registered. -/
theorem undisturbed_iff {manager : RoomManager} {uid : Uid} {roomId : RoomId} {created : RoomPtr}
    (instance_new : ∀ (known : RoomId) (ptr : RoomPtr), manager.rooms[known]? = some ptr → ptr ≠ created) :
    Undisturbed manager { manager with
      rooms := manager.rooms.insert roomId created
      userRooms := manager.userRooms.insert uid roomId } uid ↔ manager.rooms[roomId]? = none := by
  constructor
  · intro undisturbed
    cases found : manager.rooms[roomId]? with
    | none => rfl
    | some ptr =>
      have kept := undisturbed.rooms roomId ptr found
      simp only [RoomManager.findRoom, Std.ExtTreeMap.getElem?_insert_self, Option.some.injEq] at kept
      exact absurd kept.symm (instance_new roomId ptr found)
  · intro fresh
    have rooms : ∀ (known : RoomId) (ptr : RoomPtr), manager.rooms[known]? = some ptr →
        (manager.rooms.insert roomId created)[known]? = some ptr := by
      intro known ptr found
      have other : roomId ≠ known := by
        rintro rfl
        rw [fresh] at found
        cases found
      simp [Std.ExtTreeMap.getElem?_insert, other, found]
    have users : ∀ other ≠ uid, (manager.userRooms.insert uid roomId)[other]? = manager.userRooms[other]? := by
      intro other different
      simp [Std.ExtTreeMap.getElem?_insert, Ne.symm different]
    refine ⟨rooms, users, ?_⟩
    intro other different ptr resolved
    obtain ⟨joined, indexed, found⟩ := Option.bind_eq_some_iff.mp resolved
    refine Option.bind_eq_some_iff.mpr ⟨joined, ?_, rooms joined ptr found⟩
    rw [RoomManager.findUserRoom, users other different]
    exact indexed

/-! ## What a step does to the registered rooms -/

section Step

variable {choice : Choice} {core : Core} {task : Task} {effect : Effect}

theorem touch_rooms (touch : Touch choice core task effect) :
    (effect.core.manager.rooms = core.manager.rooms ∧ effect.core.members.length = core.members.length) ∨
    (draws choice core task = some choice.draw ∧
      effect.core.manager.rooms = core.manager.rooms.insert choice.draw core.heap.length ∧
      effect.core.members.length = core.members.length + 1) ∨
    ∃ ptr member item, item ∈ items effect ∧ item.closes ptr ∧ core.members[ptr]? = some member ∧
      core.manager.rooms[member.roomId]? = some ptr ∧
      effect.core.manager.rooms = core.manager.rooms.erase member.roomId ∧
      effect.core.members.length = core.members.length := by
  cases touch with
  | create queued running make manager members plain =>
    refine .inr (.inl ⟨by simp [draws, queued, running], by rw [manager], by simp [members]⟩)
  | @unregister request ptr _ member found registered manager members next posts =>
    refine .inr (.inr ⟨ptr, member, .handle request (.closeImpl ptr), by simp [items, next], rfl, found, registered,
      by rw [manager], by rw [members]⟩)
  | enter old queued stored isOpen manager members | exit old stored isOpen manager members
  | close old closes stored manager members | kick old stored manager members =>
    exact .inl ⟨by rw [manager], by simp [members]⟩
  | same quiet manager members | index old stored registered manager members
  | indexStale old stored stale manager members | unindex old stored registered indexed manager members
  | unindexStale old stored elsewhere manager members => exact .inl ⟨by rw [manager], by rw [members]⟩

/-- How a room changes: calls are appended, contents appear, and only a close ends its life. -/
structure Evolved (task : Task) (ptr : RoomPtr) (before after : Room) : Prop where
  identity : after.roomId = before.roomId
  calls : ∃ more, after.callbacks = before.callbacks ++ more
  life : ¬ task.closes ptr → after.lifecycle = before.lifecycle ∧ (before.contents = true → after.contents = true)
  close : task.closes ptr → after = before.closeImpl

theorem evolved_refl {ptr : RoomPtr} (keeps : ¬ task.closes ptr) (room : Room) : Evolved task ptr room room :=
  ⟨rfl, ⟨[], by simp⟩, fun _ => ⟨rfl, id⟩, fun closes => absurd closes keeps⟩

theorem evolved_closed {ptr : RoomPtr} (closes : task.closes ptr) (room : Room) :
    Evolved task ptr room room.closeImpl := by
  refine ⟨?_, ?_, fun keeps => absurd closes keeps, fun _ => rfl⟩
  · unfold Room.closeImpl
    split <;> rfl
  · unfold Room.closeImpl
    split
    · exact ⟨[], by simp⟩
    · dsimp only
      split
      · exact ⟨_, rfl⟩
      · exact ⟨[], by simp⟩

theorem heap_of_set {ptr target : RoomPtr} {room new after : Room} (found : core.heap[ptr]? = some room)
    (stored : (core.heap.set ptr new)[target]? = some after) (only : ∀ other, task.closes other → ptr = other)
    (evolved : Evolved task ptr room new) :
    ∃ before, core.heap[target]? = some before ∧ Evolved task target before after := by
  by_cases same : ptr = target
  · subst same
    rw [List.getElem?_set_self (List.getElem?_eq_some_iff.mp found).1] at stored
    cases stored
    exact ⟨room, found, evolved⟩
  · rw [List.getElem?_set_ne same] at stored
    exact ⟨after, stored, evolved_refl (fun closes => same (only target closes)) after⟩

theorem heap_of_callback {ptr target : RoomPtr} {call : Callback} {called : Core} {after : Room}
    (keeps : ∀ other, ¬ task.closes other) (invoked : core.callback ptr call = some called) (stored : called.heap[target]? = some after) :
    ∃ before, core.heap[target]? = some before ∧ Evolved task target before after := by
  simp only [Core.callback, Room.callback, Option.bind_eq_bind, Option.pure_def, Option.bind_eq_some_iff] at invoked
  obtain ⟨room, found, new, ready, same⟩ := invoked
  split at ready
  · cases ready
    cases same
    refine heap_of_set found stored (fun other closes => absurd closes (keeps other)) ?_
    exact ⟨rfl, ⟨_, rfl⟩, fun _ => ⟨rfl, id⟩, fun closes => absurd closes (keeps ptr)⟩
  · cases ready

theorem heap_of_ran {request : Admitted} {stage : Stage} (ran : Ran choice core request stage effect)
    {ptr : RoomPtr} {after : Room} (stored : effect.core.heap[ptr]? = some after) :
    (ptr = core.heap.length ∧ after.lifecycle = .kOpen ∧ after.roomId = choice.draw ∧
      draws choice core (.handle request stage) = some choice.draw) ∨
    ∃ before, core.heap[ptr]? = some before ∧ Evolved (.handle request stage) ptr before after := by
  cases ran with
  | created queued running lower upper =>
    rcases Nat.lt_or_ge ptr core.heap.length with below | above
    · rw [List.getElem?_append_left below] at stored
      exact .inr ⟨after, stored, evolved_refl (by simp [Task.closes]) after⟩
    · rw [List.getElem?_append_right above, List.getElem?_singleton] at stored
      split at stored
      · next last =>
        cases stored
        exact .inl ⟨Nat.le_antisymm (Nat.le_of_sub_eq_zero last) above, rfl, rfl, by simp [draws, queued, running]⟩
      · cases stored
  | contentsCreated found =>
    exact .inr (heap_of_set found stored (by simp [Task.closes])
      ⟨rfl, ⟨[], by simp⟩, fun _ => ⟨rfl, fun _ => rfl⟩, by simp [Task.closes]⟩)
  | createNotified found called | enterNotified called | exitNotified called =>
    exact .inr (heap_of_callback (by simp [Task.closes]) called stored)
  | joinEntered queued found | leaveExited queued found =>
    exact .inr (heap_of_set found stored (by simp [Task.closes])
      ⟨rfl, ⟨[], by simp⟩, fun _ => ⟨rfl, id⟩, by simp [Task.closes]⟩)
  | closed found => exact .inr (heap_of_set found stored (by simp [Task.closes]) (evolved_closed (by rfl) _))
  | createLate | createStopping | contentsThrown | joinUnknown | joinFound | joinLate | joinClosed | joined
  | leaveUnindexed | leaveIndexed | leaveUnknown | leaveFound | leaveLate | leaveRefused | left | emptied | emptyStale
  | completed | sent | aborted => exact .inr ⟨after, stored, evolved_refl (by simp [Task.closes]) after⟩

theorem heap_of_executed (executed : Executed choice core task effect) {ptr : RoomPtr} {after : Room}
    (stored : effect.core.heap[ptr]? = some after) :
    (ptr = core.heap.length ∧ after.lifecycle = .kOpen ∧ after.roomId = choice.draw ∧
      draws choice core task = some choice.draw) ∨
    ∃ before, core.heap[ptr]? = some before ∧ Evolved task ptr before after := by
  cases executed with
  | received received => cases received <;> exact .inr ⟨after, stored, evolved_refl (by simp [Task.closes]) after⟩
  | staged ran => exact heap_of_ran ran stored
  | forwarded called => exact .inr (heap_of_callback (by simp [Task.closes]) called stored)
  | kicked found contents => exact .inr (heap_of_set found stored (by simp [Task.closes])
      ⟨rfl, ⟨_, rfl⟩, fun _ => ⟨rfl, id⟩, by simp [Task.closes]⟩)
  | closed found => exact .inr (heap_of_set found stored (by simp [Task.closes]) (evolved_closed (by rfl) _))
  | forwardStale | forwardFound | broadcast | kickAbsent | kickPresent | notified =>
    exact .inr ⟨after, stored, evolved_refl (by simp [Task.closes]) after⟩

def Task.ends (room : RoomPtr) : Task → Prop
  | .handle _ (.onEmpty ptr) => ptr = room
  | .handle _ (.closeImpl ptr) => ptr = room
  | .close ptr => ptr = room
  | _ => False

theorem closes_ends {ptr : RoomPtr} (closes : task.closes ptr) : task.ends ptr := by
  unfold Task.closes at closes
  split at closes <;> simp_all [Task.ends]

theorem ends_home {ptr : RoomPtr} (ends : task.ends ptr) : task.home = some ptr := by
  unfold Task.ends at ends
  split at ends <;> simp_all [Task.home]

theorem callback_contents {ptr : RoomPtr} {call : Callback} {after : Core}
    (invoked : core.callback ptr call = some after) :
    ∃ room, after.heap[ptr]? = some room ∧ room.contents = true := by
  simp only [Core.callback, Room.callback, Option.bind_eq_bind, Option.pure_def, Option.bind_eq_some_iff] at invoked
  obtain ⟨room, found, new, ready, same⟩ := invoked
  split at ready
  · next contents =>
    cases ready
    cases same
    exact ⟨_, List.getElem?_set_self (List.getElem?_eq_some_iff.mp found).1, contents⟩
  · cases ready

theorem ends_of_executed (executed : Executed choice core task effect) {item : Task} {ptr : RoomPtr}
    (new : item ∈ items effect) (ends : item.ends ptr) :
    task.ends ptr ∨ ∃ room, effect.core.heap[ptr]? = some room ∧ room.contents = true := by
  cases executed with
  | received received =>
    cases received with
    | admitted known admitted =>
      obtain rfl : item = _ := by simpa [items] using new
      exact absurd ((ends_home ends).symm.trans (requestOf_first known _).1) (by simp)
    | forwardIndexed indexed =>
      obtain rfl : item = _ := by simpa [items] using new
      cases ends
    | ping | forwardUnindexed | cancelled | refused => simp [items] at new
  | @staged request stage _ ran =>
    cases ran with
    | @joined ptr uid inserted response room found =>
      cases inserted <;> simp only [items, List.map_nil, List.append_nil, if_true, Bool.false_eq_true, if_false,
        List.mem_cons, List.not_mem_nil, or_false] at new
      · subst new
        cases ends
      · rcases new with rfl | rfl <;> cases ends
    | left found =>
      simp only [items, List.map_nil, List.append_nil, List.mem_cons, List.not_mem_nil, or_false] at new
      rcases new with rfl | rfl <;> cases ends
    | @exitNotified target uid empty after called =>
      cases empty
      · simp [items] at new
      · -- the contents have just been called for the user who left, so they are there
        obtain rfl : item = _ := by simpa [items] using new
        cases ends
        exact .inr (callback_contents called)
    | emptied found registered =>
      obtain rfl : item = _ := by simpa [items] using new
      exact .inl ends
    | contentsCreated found =>
      simp only [items, List.map_cons, List.map_nil, List.mem_append, List.mem_singleton] at new
      rcases new with rfl | rfl <;> cases ends
    | completed =>
      simp only [items, complete, List.map_nil, List.append_nil] at new
      split at new
      · obtain rfl := List.mem_singleton.mp new
        cases ends
      · cases new
    | createNotified | enterNotified | emptyStale | closed | sent | aborted => simp [items] at new
    | createLate | createStopping | created | contentsThrown | joinUnknown | joinFound | joinLate | joinClosed
    | joinEntered | leaveUnindexed | leaveIndexed | leaveUnknown | leaveFound | leaveLate | leaveRefused
    | leaveExited =>
      obtain rfl : item = _ := by simpa [items, leaveUnknown] using new
      cases ends
  | forwardFound known =>
    obtain rfl : item = _ := by simpa [items] using new
    cases ends
  | broadcast =>
    simp only [items, List.map_nil, List.append_nil, List.mem_map] at new
    obtain ⟨user, -, rfl⟩ := new
    cases ends
  | kickPresent found present =>
    simp only [items, List.map_nil, List.append_nil, List.mem_cons, List.not_mem_nil, or_false] at new
    rcases new with rfl | rfl <;> cases ends
  | forwardStale | forwarded | kickAbsent | kicked | notified | closed => simp [items] at new

end Step

/-! ## Whole runs -/

def Grounded (state : State) : Prop :=
  ∀ (roomId : RoomId) (ptr : RoomPtr), state.core.manager.rooms[roomId]? = some ptr → ptr < state.core.heap.length

theorem grounded_step {state after : State} {label : Label} (grounded : Grounded state)
    (moved : step state label = some after) : Grounded after := by
  cases stepped_of_step moved with
  | delivered | called => exact grounded
  | stopped running => simp [Grounded, shutdown, RoomManager.shutdown]
  | @ran thread choice task before later effect split quiet executed =>
    intro roomId ptr known
    dsimp only at known ⊢
    rw [← members_length]
    rcases touch_rooms (touch_of_executed executed) with ⟨rooms, length⟩ | ⟨-, rooms, length⟩ |
      ⟨target, member, item, -, -, -, -, rooms, length⟩
    · rw [rooms] at known
      simpa [length] using grounded roomId ptr known
    · simp only [rooms, Std.ExtTreeMap.getElem?_insert] at known
      rw [length, members_length]
      split at known
      · cases known
        exact Nat.lt_succ_self _
      · exact Nat.lt_succ_of_lt (grounded roomId ptr known)
    · simp only [rooms, Std.ExtTreeMap.getElem?_erase] at known
      split at known
      · cases known
      · simpa [length] using grounded roomId ptr known

theorem grounded_reached {history : History} {state : State} (run : Reaches history state) : Grounded state := by
  refine run.invariant ?_ (fun _ _ _ => grounded_step)
  simp [Grounded, initial]

/-- Every room is registered, about to be closed, or closed with its contents told so. -/
structure Accounted (state : State) : Prop where
  placed : ∀ (ptr : RoomPtr) (room : Room), state.core.heap[ptr]? = some room → room.lifecycle = .kOpen →
    state.core.manager.rooms[room.roomId]? = some ptr ∨ ∃ task, Waiting state task ∧ task.closes ptr
  ended : ∀ (ptr : RoomPtr) (room : Room), state.core.heap[ptr]? = some room → room.lifecycle ≠ .kOpen →
    room.lifecycle = .kClosed ∧ .onDestroyRoom ∈ room.callbacks
  ending : ∀ (task : Task) (ptr : RoomPtr), Waiting state task → task.ends ptr →
    ∃ room, state.core.heap[ptr]? = some room ∧ (room.lifecycle = .kOpen → room.contents = true)

theorem accounted_posts {core : Core} {pool posts : Pool Thread Task} (accounted : Accounted ⟨core, pool⟩)
    (source : RoutingId) (plain : ∀ entry ∈ posts, ∀ ptr, ¬ entry.2.ends ptr) :
    Accounted ⟨{ core with currentRoute := source }, pool ++ posts⟩ where
  placed ptr room found isOpen := by
    rcases accounted.placed ptr room found isOpen with registered | ⟨task, ⟨thread, waits⟩, closes⟩
    · exact .inl registered
    · exact .inr ⟨task, ⟨thread, List.mem_append_left _ waits⟩, closes⟩
  ended := accounted.ended
  ending task ptr := by
    rintro ⟨thread, waits⟩ ends
    rcases List.mem_append.mp waits with waits | posted
    · exact accounted.ending task ptr ⟨thread, waits⟩ ends
    · exact absurd ends (plain _ posted ptr)

theorem ended_of_evolved {task : Task} {ptr : RoomPtr} {before after : Room} (evolved : Evolved task ptr before after)
    (ended : before.lifecycle ≠ .kOpen → before.lifecycle = .kClosed ∧ .onDestroyRoom ∈ before.callbacks)
    (contents : task.closes ptr → before.lifecycle = .kOpen → before.contents = true)
    (closed : after.lifecycle ≠ .kOpen) : after.lifecycle = .kClosed ∧ .onDestroyRoom ∈ after.callbacks := by
  by_cases closes : task.closes ptr
  · rw [evolved.close closes]
    by_cases isOpen : before.lifecycle = .kOpen
    · simp [Room.closeImpl, isOpen, contents closes isOpen]
    · simpa [Room.closeImpl, isOpen] using ended isOpen
  · obtain ⟨sameLife, -⟩ := evolved.life closes
    obtain ⟨more, calls⟩ := evolved.calls
    obtain ⟨wasClosed, told⟩ := ended (sameLife ▸ closed)
    rw [sameLife, calls]
    exact ⟨wasClosed, List.mem_append_left _ told⟩

theorem open_of_evolved {task : Task} {ptr : RoomPtr} {before after : Room} (evolved : Evolved task ptr before after)
    (isOpen : after.lifecycle = .kOpen) :
    ¬ task.closes ptr ∧ before.lifecycle = .kOpen ∧ (before.contents = true → after.contents = true) := by
  have keeps : ¬ task.closes ptr := by
    intro closes
    rw [evolved.close closes] at isOpen
    unfold Room.closeImpl at isOpen
    split at isOpen
    · contradiction
    · cases isOpen
  exact ⟨keeps, (evolved.life keeps).1.symm.trans isOpen, (evolved.life keeps).2⟩

theorem accounted_ran {state : State} {thread : Thread} {choice : Choice} {task : Task} {before later : Pool Thread Task}
    {effect : Effect} (accounted : Accounted state) (split : state.pool = before ++ (thread, task) :: later)
    (executed : Executed choice state.core task effect)
    (fresh : ∀ roomId ∈ draws choice state.core task, state.core.manager.rooms[roomId]? = none) :
    Accounted (ranState thread before later effect) := by
  have this : Waiting state task := ⟨thread, by simp [split]⟩
  have contents : ∀ (ptr : RoomPtr) (room : Room), state.core.heap[ptr]? = some room → task.ends ptr →
      room.lifecycle = .kOpen → room.contents = true := by
    intro ptr room found ends
    obtain ⟨other, stored, ready⟩ := accounted.ending task ptr this ends
    obtain rfl := Option.some.inj (found.symm.trans stored)
    exact ready
  constructor
  · intro ptr room stored isOpen
    rcases heap_of_executed executed stored with ⟨rfl, -, sameId, drawn⟩ | ⟨old, found, evolved⟩
    · -- a room that is new is one more, and only a creation adds one, under its own id
      have larger : effect.core.members.length ≠ state.core.members.length := by
        have bound : state.core.heap.length < effect.core.heap.length := (List.getElem?_eq_some_iff.mp stored).1
        simp only [members_length]
        omega
      rcases touch_rooms (touch_of_executed executed) with ⟨-, length⟩ | ⟨-, rooms, -⟩ |
        ⟨target, member, item, -, -, -, -, -, length⟩
      · exact absurd length larger
      · exact .inl (by simp [rooms, sameId])
      · exact absurd length larger
    · obtain ⟨keeps, wasOpen, -⟩ := open_of_evolved evolved isOpen
      rw [evolved.identity]
      rcases accounted.placed ptr old found wasOpen with registered | ⟨item, waits, closes⟩
      · rcases touch_rooms (touch_of_executed executed) with ⟨rooms, -⟩ | ⟨drawn, rooms, -⟩ |
          ⟨target, member, item, new, closes, -, known, rooms, -⟩
        · exact .inl (by rw [rooms]; exact registered)
        · -- the id drawn is of no registered room, so a creation displaces none
          have other : choice.draw ≠ old.roomId := by
            intro same
            rw [← same, fresh _ drawn] at registered
            cases registered
          exact .inl (by simp [rooms, Std.ExtTreeMap.getElem?_insert, other, registered])
        · -- the room taken out of the registry is the one for which the closing task was queued
          by_cases same : member.roomId = old.roomId
          · rw [same] at known
            obtain rfl := Option.some.inj (registered.symm.trans known)
            exact .inr ⟨item, (waiting_ran item).mpr (.inl new), closes⟩
          · exact .inl (by simp [rooms, Std.ExtTreeMap.getElem?_erase, same, registered])
      · rcases (waiting_split split item).mp waits with rfl | still
        · exact absurd closes keeps
        · exact .inr ⟨item, (waiting_ran item).mpr (.inr still), closes⟩
  · intro ptr room stored closed
    rcases heap_of_executed executed stored with ⟨-, isOpen, -, -⟩ | ⟨old, found, evolved⟩
    · exact absurd isOpen closed
    · exact ended_of_evolved evolved (accounted.ended ptr old found)
        (fun closes => contents ptr old found (closes_ends closes)) closed
  · intro item ptr waits ends
    have kept : ∀ old, state.core.heap[ptr]? = some old → (old.lifecycle = .kOpen → old.contents = true) →
        ∃ room, effect.core.heap[ptr]? = some room ∧ (room.lifecycle = .kOpen → room.contents = true) := by
      intro old found ready
      have bound : ptr < effect.core.heap.length := by
        obtain ⟨member, stored, -⟩ := touch_keeps_room (touch_of_executed executed) (found_membership found)
        rw [← members_length]
        exact (List.getElem?_eq_some_iff.mp stored).1
      have stored := List.getElem?_eq_getElem bound
      refine ⟨_, stored, fun isOpen => ?_⟩
      rcases heap_of_executed executed stored with ⟨rfl, -⟩ | ⟨before, was, evolved⟩
      · exact absurd (List.getElem?_eq_some_iff.mp found).1 (Nat.lt_irrefl _)
      · obtain rfl := Option.some.inj (found.symm.trans was)
        obtain ⟨-, wasOpen, keeps⟩ := open_of_evolved evolved isOpen
        exact keeps (ready wasOpen)
    rcases (waiting_ran item).mp waits with new | still
    · rcases ends_of_executed executed new ends with ends | ⟨room, stored, ready⟩
      · obtain ⟨old, found, ready⟩ := accounted.ending task ptr this ends
        exact kept old found ready
      · exact ⟨room, stored, fun _ => ready⟩
    · obtain ⟨old, found, ready⟩ := accounted.ending item ptr ((waiting_split split item).mpr (.inr still)) ends
      exact kept old found ready

theorem touch_stopping {choice : Choice} {core : Core} {task : Task} {effect : Effect}
    (touch : Touch choice core task effect) : effect.core.manager.stopping = core.manager.stopping := by
  cases touch <;> simp_all

theorem accounted_step {state after : State} {label : Label}
    (accounted : state.core.manager.stopping = false → Accounted state) (moved : step state label = some after)
    (fresh : DrawsFresh ⟨state, label, after⟩) (running : after.core.manager.stopping = false) : Accounted after := by
  cases stepped_of_step moved with
  | delivered quiet => exact accounted_posts (accounted running) _ (by simp [Task.ends])
  | @ran thread choice task before later effect split quiet executed =>
    have wasRunning : state.core.manager.stopping = false := by
      rw [← touch_stopping (touch_of_executed executed)]
      exact running
    exact accounted_ran (accounted wasRunning) split executed (fresh _ (executed_ran choice _ split quiet))
  | @called ptr call room found contents =>
    refine accounted_posts (accounted running) state.core.currentRoute ?_
    intro entry posted target ends
    simp only [List.mem_map, Option.mem_toList] at posted
    obtain ⟨task, posted, rfl⟩ := posted
    cases call with
    | sendToUser uids message =>
      obtain ⟨users, -, rfl⟩ := Option.map_eq_some_iff.mp posted
      cases ends
    | kickOutUser uid reason =>
      cases posted
      cases ends
  | stopped _ => simp [shutdown, RoomManager.shutdown] at running

theorem accounted_reached {history : History} {state : State} (run : Reaches history state)
    (fresh : ∀ move ∈ history, DrawsFresh move) (running : state.core.manager.stopping = false) :
    Accounted state := by
  refine run.history (fun _ reached => reached.core.manager.stopping = false → Accounted reached) ?_ ?_ running
  · intro _
    exact ⟨by simp [initial], by simp [initial], by simp [Waiting, initial]⟩
  · intro past move reached accounted moved mem
    exact accounted_step accounted moved (fresh move mem)

/-- A created room leaves the registered ones alone exactly when its id was unused; in a run where
every drawn id is, a room is registered until it is closed with its contents told so. -/
theorem create_room_frame {history : History} {state : State} (run : Reaches history state)
    (running : state.core.manager.stopping = false) :
    (∀ (uid : Uid) (roomId : RoomId), ∃ after,
      state.core.manager.createRoom uid roomId state.core.heap.length = some after ∧
      after.findRoom roomId = some state.core.heap.length ∧ after.findUserRoom uid = some roomId ∧
      (Undisturbed state.core.manager after uid ↔ state.core.manager.findRoom roomId = none)) ∧
    ((∀ move ∈ history, DrawsFresh move) → ∀ (ptr : RoomPtr) (room : Room), state.core.heap[ptr]? = some room →
      state.core.manager.findRoom room.roomId = some ptr ∨
      (room.lifecycle = .kClosed ∧ .onDestroyRoom ∈ room.callbacks) ∨
      ∃ task, Waiting state task ∧ task.closes ptr) := by
  constructor
  · intro uid roomId
    refine ⟨_, createRoom_running running uid roomId _, by simp [RoomManager.findRoom],
      by simp [RoomManager.findUserRoom], undisturbed_iff ?_⟩
    intro known ptr found
    exact Nat.ne_of_lt (grounded_reached run known ptr found)
  · intro fresh ptr room found
    have accounted := accounted_reached run fresh running
    by_cases isOpen : room.lifecycle = .kOpen
    · rcases accounted.placed ptr room found isOpen with registered | closing
      · exact .inl registered
      · exact .inr (.inr closing)
    · exact .inr (.inl (accounted.ended ptr room found isOpen))

theorem create_room_frame_join_leave :
    (final step initial createJoinLeave).core.manager.stopping = false ∧
    ∃ after, (final step initial createJoinLeave).core.manager.createRoom "carol" 10001
        (final step initial createJoinLeave).core.heap.length = some after ∧
      after.findRoom 10000 = some 0 := by
  have run : Reaches _ (final step initial createJoinLeave) := run_of_enabled (by decide +kernel)
  have running : (final step initial createJoinLeave).core.manager.stopping = false := by decide +kernel
  refine ⟨running, ?_⟩
  obtain ⟨after, created, -, -, frame⟩ := (create_room_frame run running).1 "carol" 10001
  exact ⟨after, created, (frame.mpr (by decide +kernel)).rooms 10000 0 (by decide +kernel)⟩

def createsCollide : List Label :=
  handled "user" (.reqCreateRoom { requestId := 1, uid := "alice" }) 10000 5 ++ [.run (.strand 0) {}] ++
  handled "user" (.reqCreateRoom { requestId := 2, uid := "bob" }) 10000 5 ++ [.run (.strand 1) {}]

/-- A colliding draw takes the id away from a live room, and that room is never closed. -/
theorem colliding_draw_replaces_room :
    (∃ history state, Reaches history state ∧ state.core.manager.stopping = false ∧
      ∃ after, state.core.manager.createRoom "bob" 10000 state.core.heap.length = some after ∧
        ¬ Undisturbed state.core.manager after "bob") ∧
    ∃ history state, Reaches history state ∧ state.core.manager.stopping = false ∧ state.pool = [] ∧
      state.core.isMember 0 "alice" ∧ 0 ∉ state.core.manager.rooms.values := by
  constructor
  · have run : Reaches _ (final step initial createJoinLeave) := run_of_enabled (by decide +kernel)
    refine ⟨_, _, run, by decide +kernel, _, createRoom_running (by decide +kernel) _ _ _, ?_⟩
    intro undisturbed
    have kept := undisturbed.rooms 10000 0 (by decide +kernel)
    have replaced : (final step initial createJoinLeave).core.heap.length = 0 := by
      simpa [RoomManager.findRoom] using kept
    exact absurd replaced (by decide +kernel)
  · have run : Reaches _ (final step initial createsCollide) := run_of_enabled (by decide +kernel)
    exact ⟨_, _, run, by decide +kernel, by decide +kernel, by decide +kernel, by decide +kernel⟩

/-! ## A create without contents -/

/-- A request whose contents cannot be created is over after three items, sends nothing and gives its ticket
back. The indexes are never as before: the first item changes them at the drawn id, where a new room stands
now, and maps the user to it, and the others leave them so. At other ids and users nothing changes. Other
threads may move before the second item and before the third. -/
theorem failed_create_frame {choice : Choice} {core : Core} {request : Admitted} {message : User2RoomReqCreateRoom}
    {created : Effect} (queued : core.registry.state request.ticket = some .kQueued)
    (running : core.manager.stopping = false)
    (creates : exec choice (.handle request (.createRoom message)) core = some created) :
    created.core.manager.findRoom choice.draw = some core.heap.length ∧
    created.core.manager.findUserRoom message.uid = some choice.draw ∧
    (∀ history pool, Reaches history ⟨core, pool⟩ →
      created.core.manager.findRoom choice.draw ≠ core.manager.findRoom choice.draw) ∧
    (∀ roomId ≠ choice.draw, created.core.manager.findRoom roomId = core.manager.findRoom roomId) ∧
    (∀ uid ≠ message.uid, created.core.manager.findUserRoom uid = core.manager.findUserRoom uid) ∧
    created.core.outgoing = core.outgoing ∧
    ∃ room response, items created = [.handle request (.createContents room response)] ∧
      ∀ thrown later, thrown.contentsCreated = false →
        ∃ failed, exec thrown (.handle request (.createContents room response)) later = some failed ∧
          failed.core = later ∧ items failed = [.handle request .abort] ∧
          ∀ ended last, ∃ aborted, exec ended (.handle request .abort) last = some aborted ∧
            aborted.core.manager = last.manager ∧ aborted.core.outgoing = last.outgoing ∧ items aborted = [] ∧
            aborted.core.registry.active[request.key]? ≠ some request.ticket := by
  have ran : Ran choice core request (.createRoom message) created := ran_of_exec creates
  cases ran with
  | createLate late => exact absurd queued late
  | createStopping _ stopping =>
    rw [running] at stopping
    cases stopping
  | created =>
    have placed : (core.manager.rooms.insert choice.draw core.heap.length)[choice.draw]? = some core.heap.length :=
      Std.ExtTreeMap.getElem?_insert_self
    refine ⟨placed, Std.ExtTreeMap.getElem?_insert_self, fun history pool run same => ?_, fun roomId other => ?_,
      fun uid other => ?_, ?_, _, _, rfl, fun thrown later fails => ?_⟩
    · -- A registered room exists, and the new one is none of those that did.
      have old : core.manager.rooms[choice.draw]? = some core.heap.length := same.symm.trans placed
      exact absurd (grounded_reached run choice.draw _ old) (Nat.lt_irrefl _)
    · simp [RoomManager.findRoom, Std.ExtTreeMap.getElem?_insert, Ne.symm other]
    · simp [RoomManager.findUserRoom, Std.ExtTreeMap.getElem?_insert, Ne.symm other]
    · simp [Core.start]
    · refine ⟨{ core := later, next := [.handle request .abort] }, ?_, rfl, rfl, fun ended last => ?_⟩
      · simp [exec, execStage, createContents, fails]
      · refine ⟨_, rfl, rfl, rfl, rfl, ?_⟩
        simp only [QueuedRequests.finish]
        split
        · simp
        · assumption

def createFails : List Label :=
  .deliver "user" (.reqCreateRoom { requestId := 1, uid := "alice" }) ::
    [.run .router {}, .run .router {}, .run .router { contentsCreated := false }, .run .router {}]

def createOfAlice : Admitted := ⟨"user", 1, .kUser2RoomResCreateRoom, 0⟩

theorem failed_create_frame_alice :
    ∃ created room response, exec {} (.handle createOfAlice (.createRoom { uid := "alice" }))
        (final step initial (createFails.take 2)).core = some created ∧
      items created = [.handle createOfAlice (.createContents room response)] ∧
      created.core.manager.findRoom 10000 ≠ (final step initial (createFails.take 2)).core.manager.findRoom 10000 ∧
      created.core.manager.findRoom 10001 = none := by
  have run : Reaches _ (final step initial (createFails.take 2)) := run_of_enabled (by decide +kernel)
  have queued : (final step initial (createFails.take 2)).core.registry.state createOfAlice.ticket = some .kQueued := by
    decide +kernel
  have running : (final step initial (createFails.take 2)).core.manager.stopping = false := by decide +kernel
  have enabled : (exec {} (.handle createOfAlice (.createRoom { uid := "alice" }))
      (final step initial (createFails.take 2)).core).isSome = true := by decide +kernel
  obtain ⟨created, creates⟩ := Option.isSome_iff_exists.mp enabled
  obtain ⟨-, -, changed, rooms, -, -, room, response, next, -⟩ := failed_create_frame queued running creates
  refine ⟨created, room, response, creates, next, changed _ _ run, ?_⟩
  rw [rooms 10001 (by decide)]
  decide +kernel

def joinsFailed : List Label :=
  createFails ++ handled "user" (.reqJoinRoom { requestId := 2, uid := "bob", roomId := 10000 }) 10000 2 ++
    ([.run (.strand 0) {}, .run (.strand 0) {}, .run (.strand 0) {}, .run (.strand 0) {}] : List Label)

/-- The failed create is over and both indexes hold its room. A join then enters that room, and the strand
calls contents that are not there. -/
theorem failed_create_leaves_room :
    (∃ history state, Reaches history state ∧ history.map Transition.label = createFails ∧ state.pool = [] ∧
      initial.core.manager.findRoom 10000 = none ∧ state.core.manager.findRoom 10000 = some 0 ∧
      state.core.manager.findUserRoom "alice" = some 10000 ∧ (state.core.heap[0]?).map Room.contents = some false) ∧
    ∃ history state, Reaches history state ∧ history.map Transition.label = joinsFailed ∧
      (Pool.pop (.strand 0) state.pool).isSome = true ∧ step state (.run (.strand 0) {}) = none := by
  constructor
  · have run : Reaches _ (final step initial createFails) := run_of_enabled (by decide +kernel)
    exact ⟨_, _, run, by decide +kernel, by decide +kernel, by decide +kernel, by decide +kernel, by decide +kernel,
      by decide +kernel⟩
  · have run : Reaches _ (final step initial joinsFailed) := run_of_enabled (by decide +kernel)
    refine ⟨_, _, run, by decide +kernel, by decide +kernel, ?_⟩
    have stuck : (step (final step initial joinsFailed) (.run (.strand 0) {})).isNone = true := by decide +kernel
    exact Option.isNone_iff_eq_none.mp stuck

end Rsp.RoomServer
