import Rsp.RoomServer.Announcement

/-! The end of a room and the calls still on their way.

`close_impl` tells the contents of the end and drops them. `join_room` and `leave_room`
test the lifecycle of the room before they go on, `on_recv_message` and
`kick_out_user_impl` do not: a message that was already looked up, or a kick-out queued
behind the close, finds null contents. Where no such call waits, the end is the last call.
-/

set_option autoImplicit false

namespace Rsp.RoomServer

open Message Foundation

/-! ## Registered rooms are open -/

def Enlisted (state : State) : Prop :=
  ∀ (roomId : RoomId) (ptr : RoomPtr), state.core.manager.rooms[roomId]? = some ptr →
    (∃ host, state.core.hosts[ptr]? = some host ∧ host.roomId = roomId ∧ host.lifecycle = .kOpen) ∧
      ∀ task, Waiting state task → ¬ task.closes ptr

theorem closes_of_touch {choice : Choice} {core : Core} {task item : Task} {effect : Effect} {ptr : RoomPtr}
    (touch : Touch choice core task effect) (new : item ∈ items effect) (closes : item.closes ptr) :
    ∃ member, core.members[ptr]? = some member ∧ core.manager.rooms[member.roomId]? = some ptr ∧
      effect.core.manager.rooms = core.manager.rooms.erase member.roomId := by
  have plainly : Plain effect → False := fun plain => (plain item new).2 ptr closes
  cases touch with
  | @unregister request target _ member found registered manager members next posts =>
    obtain rfl : item = _ := by simpa [items, next, posts] using new
    cases closes
    exact ⟨member, found, registered, by rw [manager]⟩
  | enter old queued stored isOpen manager members next posts | exit old stored isOpen manager members next posts =>
    obtain rfl : item = _ := by simpa [items, next, posts] using new
    cases closes
  | create queued running make manager members plain | same quiet manager members plain
  | index old stored registered manager members plain | indexStale old stored stale manager members plain
  | unindex old stored registered indexed manager members plain
  | unindexStale old stored elsewhere manager members plain | close old closing stored manager members plain
  | kick old stored manager members plain => exact (plainly plain).elim

theorem turn_open {task : Task} {ptr : RoomPtr} {host after : Host} (turn : Turn task ptr host after)
    (keeps : ¬ task.closes ptr) : after.roomId = host.roomId ∧ after.lifecycle = host.lifecycle := by
  cases turn with
  | same | equipped | called => exact ⟨rfl, rfl⟩
  | closed closes => exact absurd closes keeps

theorem created_registered {choice : Choice} {core : Core} {task : Task} {effect : Effect}
    (executed : Executed choice core task effect)
    (grounded : ∀ (roomId : RoomId) (ptr : RoomPtr), core.manager.rooms[roomId]? = some ptr → ptr < core.heap.length)
    {roomId : RoomId} {ptr : RoomPtr} (known : effect.core.manager.rooms[roomId]? = some ptr)
    (beyond : ¬ ptr < core.heap.length) :
    ∃ host, effect.core.hosts[ptr]? = some host ∧ host.roomId = roomId ∧ host.lifecycle = .kOpen := by
  rcases touch_rooms (touch_of_executed executed) with ⟨rooms, -⟩ | ⟨-, rooms, length⟩ | ⟨_, member, _, -, -, -, -, rooms, -⟩
  · rw [rooms] at known
    exact absurd (grounded roomId ptr known) beyond
  · simp only [rooms, Std.ExtTreeMap.getElem?_insert] at known
    split at known
    · next same =>
      cases known
      obtain rfl : choice.draw = roomId := by simpa using same
      have bound : core.heap.length < effect.core.heap.length := by
        rw [members_length, members_length] at length
        exact Nat.lt_of_lt_of_eq (Nat.lt_succ_self _) length.symm
      have stored := List.getElem?_eq_getElem bound
      refine ⟨_, found_host stored, ?_⟩
      rcases heap_of_executed executed stored with ⟨-, isOpen, identity, -⟩ | ⟨before, found, -⟩
      · exact ⟨identity, isOpen⟩
      · exact absurd (heap_bound found) beyond
    · exact absurd (grounded roomId ptr known) beyond
  · simp only [rooms, Std.ExtTreeMap.getElem?_erase] at known
    split at known
    · cases known
    · exact absurd (grounded roomId ptr known) beyond

theorem enlisted_step {state after : State} {label : Label} (grounded : Grounded state) (housed : Housed state)
    (enlisted : Enlisted state) (moved : step state label = some after) : Enlisted after := by
  cases stepped_of_step moved with
  | @delivered source message quiet =>
    intro roomId ptr known
    refine ⟨(enlisted roomId ptr known).1, ?_⟩
    rintro task ⟨thread, waits⟩ closes
    rcases List.mem_append.mp waits with waits | posted
    · exact (enlisted roomId ptr known).2 task ⟨thread, waits⟩ closes
    · cases List.mem_singleton.mp posted
      exact closes
  | @called target call room found contents =>
    intro roomId ptr known
    refine ⟨(enlisted roomId ptr known).1, ?_⟩
    rintro task ⟨thread, waits⟩ closes
    simp only [List.mem_append, List.mem_map, Option.mem_toList, Prod.mk.injEq] at waits
    rcases waits with waits | ⟨item, posted, -, rfl⟩
    · exact (enlisted roomId ptr known).2 task ⟨thread, waits⟩ closes
    · exact (apiTask_plain posted).2.1 ptr closes
  | stopped running => simp [Enlisted, shutdown, RoomManager.shutdown]
  | @ran thread choice task before later effect split quiet executed =>
    have hosted := hosted_of_executed executed
    have touch := touch_of_executed executed
    have waiting : Waiting state task := (waiting_split split task).mpr (.inl rfl)
    intro roomId ptr known
    by_cases bound : ptr < state.core.heap.length
    · have registered := registered_before touch bound known
      obtain ⟨⟨host, found, identity, isOpen⟩, unclosed⟩ := enlisted roomId ptr registered
      obtain ⟨new, stored, turn⟩ := turn_of_hosted hosted found
      obtain ⟨sameId, sameLife⟩ := turn_open turn (unclosed task waiting)
      refine ⟨⟨new, stored, sameId.trans identity, sameLife.trans isOpen⟩, ?_⟩
      intro item waits closes
      rcases (waiting_ran item).mp waits with added | still
      · -- a close is only scheduled together with the removal of the room from the index
        obtain ⟨member, place, -, rooms⟩ := closes_of_touch touch added closes
        have ownId : member.roomId = roomId := by
          rw [hosts_get] at found
          obtain ⟨room, there, rfl⟩ := Option.map_eq_some_iff.mp found
          rw [members_get, there] at place
          cases place
          exact identity
        simp [rooms, ownId] at known
      · exact unclosed item ((waiting_split split item).mpr (.inr still)) closes
    · refine ⟨created_registered executed grounded known bound, ?_⟩
      intro item waits closes
      rcases (waiting_ran item).mp waits with added | still
      · obtain ⟨member, place, -⟩ := closes_of_touch touch added closes
        exact bound (by simpa using heap_bound place)
      · exact bound (housed.known item ptr ((waiting_split split item).mpr (.inr still)) (home_room (closes_home closes)))

theorem enlisted_reached {history : History} {state : State} (run : Reaches history state) : Enlisted state := by
  refine run.history (fun _ state => Enlisted state) ?_ ?_
  · simp [Enlisted, initial]
  · intro past move reached enlisted moved _
    exact enlisted_step (grounded_reached reached) (housed_reached reached) enlisted moved

/-! ## Calls on their way -/

/-- The items that end in a call of the contents without asking whether the room is open. -/
def Task.involves (room : RoomPtr) : Task → Prop
  | .handle _ (.onCreateRoom ptr) => ptr = room
  | .handle _ (.joinedRoom ptr ..) => ptr = room
  | .handle _ (.onUserEnter ptr _) => ptr = room
  | .handle _ (.leftRoom ptr ..) => ptr = room
  | .handle _ (.onUserExit ptr ..) => ptr = room
  | .onRecvMessage ptr .. => ptr = room
  | .kickOutUserImpl ptr .. => ptr = room
  | .onKickedOutUser ptr .. => ptr = room
  | _ => False

def Task.approaches : Task → Option RoomPtr
  | .handle _ (.onCreateRoom room) => some room
  | .onRecvMessage room .. => some room
  | .kickOutUserImpl room .. => some room
  | _ => none

theorem calls_involves {task : Task} {ptr : RoomPtr} (calls : task.calls ptr) : task.involves ptr := by
  unfold Task.calls at calls
  split at calls <;> first | exact calls | exact calls.elim

theorem involves_room {task : Task} {ptr : RoomPtr} (involves : task.involves ptr) : task.room = some ptr := by
  unfold Task.involves at involves
  split at involves <;> simp_all [Task.room, Task.home]

theorem involves_cases {task : Task} {ptr : RoomPtr} (involves : task.involves ptr) :
    ptr ∈ task.approaches ∨ (task.underway ∧ task.home = some ptr) := by
  unfold Task.involves at involves
  split at involves <;> simp_all [Task.approaches, Task.underway, Task.home]

/-- Such an item comes from another one, or while the room is open or registered, or announces the room. -/
theorem involves_of_ran {choice : Choice} {request : Admitted} {stage : Stage} {core : Core} {item : Task}
    {effect : Effect} {ptr : RoomPtr} (ran : Ran choice core request stage effect) (new : item ∈ items effect)
    (involves : item.involves ptr) :
    item.announces ptr ∨ (Task.handle request stage).involves ptr ∨
      ∃ room, core.heap[ptr]? = some room ∧ room.lifecycle = .kOpen := by
  cases ran with
  | contentsCreated found =>
    simp only [items, List.map_cons, List.map_nil, List.mem_append, List.mem_singleton] at new
    rcases new with rfl | rfl
    · cases involves
    · exact .inl involves
  | joinEntered queued found isOpen | leaveExited queued found isOpen =>
    obtain rfl : item = _ := by simpa [items] using new
    cases involves
    exact .inr (.inr ⟨_, found, isOpen⟩)
  | @joined target uid inserted response room found =>
    cases inserted <;> simp only [items, List.map_nil, List.append_nil, if_true, Bool.false_eq_true, if_false,
      List.mem_cons, List.not_mem_nil, or_false] at new
    · subst new
      cases involves
    · rcases new with rfl | rfl
      · cases involves
      · exact .inr (.inl involves)
  | left found =>
    simp only [items, List.map_nil, List.append_nil, List.mem_cons, List.not_mem_nil, or_false] at new
    rcases new with rfl | rfl
    · cases involves
    · exact .inr (.inl involves)
  | @exitNotified target uid empty after called =>
    cases empty
    · simp [items] at new
    · obtain rfl : item = _ := by simpa [items] using new
      cases involves
  | completed =>
    simp only [items, complete, List.map_nil, List.append_nil] at new
    split at new
    · obtain rfl := List.mem_singleton.mp new
      cases involves
    · cases new
  | createNotified | enterNotified | emptyStale | closed | sent | aborted => simp [items] at new
  | createLate | createStopping | created | contentsThrown | joinUnknown | joinFound | joinLate | joinClosed
  | leaveUnindexed | leaveIndexed | leaveUnknown | leaveFound | leaveLate | leaveRefused | emptied =>
    obtain rfl : item = _ := by simpa [items, leaveUnknown] using new
    cases involves

theorem involves_of_executed {choice : Choice} {core : Core} {task item : Task} {effect : Effect} {ptr : RoomPtr}
    (executed : Executed choice core task effect) (new : item ∈ items effect) (involves : item.involves ptr) :
    item.announces ptr ∨ task.involves ptr ∨ (∃ room, core.heap[ptr]? = some room ∧ room.lifecycle = .kOpen) ∨
      ∃ roomId : RoomId, core.manager.rooms[roomId]? = some ptr := by
  cases executed with
  | received received =>
    cases received with
    | admitted known admitted =>
      obtain rfl : item = _ := by simpa [items] using new
      have room : Task.home _ = some ptr := involves_room involves
      exact absurd (room.symm.trans (requestOf_first known _).1) (by simp)
    | forwardIndexed indexed =>
      obtain rfl : item = _ := by simpa [items] using new
      cases involves
    | ping | forwardUnindexed | cancelled | refused => simp [items] at new
  | staged ran =>
    rcases involves_of_ran ran new involves with announces | same | isOpen
    · exact .inl announces
    · exact .inr (.inl same)
    · exact .inr (.inr (.inl isOpen))
  | @forwardFound notification roomId target known =>
    obtain rfl : item = _ := by simpa [items] using new
    cases involves
    exact .inr (.inr (.inr ⟨roomId, known⟩))
  | kickPresent found present =>
    simp only [items, List.map_nil, List.append_nil, List.mem_cons, List.not_mem_nil, or_false] at new
    rcases new with rfl | rfl
    · cases involves
    · exact .inr (.inl involves)
  | broadcast =>
    simp only [items, List.map_nil, List.append_nil, List.mem_map] at new
    obtain ⟨user, -, rfl⟩ := new
    cases involves
  | forwardStale | forwarded | kickAbsent | kicked | notified | closed => simp [items] at new

/-! ## The end is the last call -/

/-- When a room is closed, no message handed to it, no kick-out and no announcement is still on its way. -/
def ClosesUnapproached (move : Transition State Label) : Prop :=
  ∀ ran ∈ executed move, ∀ entry ∈ move.before.pool, ∀ ptr ∈ entry.2.approaches, ran.2.closes ptr →
    ∀ room ∈ move.before.core.heap[ptr]?, room.lifecycle ≠ .kOpen

instance (room : RoomPtr) (task : Task) : Decidable (task.closes room) := by
  unfold Task.closes
  split <;> infer_instance

instance (move : Transition State Label) : Decidable (ClosesUnapproached move) :=
  inferInstanceAs (Decidable (∀ ran ∈ executed move, ∀ entry ∈ move.before.pool, ∀ ptr ∈ entry.2.approaches, _))

def Host.Reset (self : Host) : Prop := self.lifecycle ≠ .kOpen ∧ self.contents = false

/-- Nothing is on its way to contents that were dropped, and their last call was the end. -/
structure Departed (state : State) (ptr : RoomPtr) (host : Host) : Prop where
  left : host.Reset → ∀ task, Waiting state task → ¬ task.involves ptr
  alive : ¬ host.Reset → .onDestroyRoom ∉ host.callbacks
  last : ∃ calls, .onDestroyRoom ∉ calls ∧ (host.callbacks = calls ∨ host.callbacks = calls ++ [.onDestroyRoom])

theorem departed_calls {task : Task} {ptr : RoomPtr} {host after : Host} (turn : Turn task ptr host after)
    (fresh : task.equips ptr → host.callbacks = []) (alive : ¬ host.Reset → .onDestroyRoom ∉ host.callbacks)
    (last : ∃ calls, .onDestroyRoom ∉ calls ∧
      (host.callbacks = calls ∨ host.callbacks = calls ++ [.onDestroyRoom])) :
    (¬ after.Reset → .onDestroyRoom ∉ after.callbacks) ∧
      ∃ calls, .onDestroyRoom ∉ calls ∧ (after.callbacks = calls ∨ after.callbacks = calls ++ [.onDestroyRoom]) := by
  cases turn with
  | same => exact ⟨alive, last⟩
  | equipped equips => exact ⟨fun _ => by simp [fresh equips], last⟩
  | called call contents calls first living =>
    have before : .onDestroyRoom ∉ host.callbacks := alive fun reset => by simp [reset.2] at contents
    have kept : .onDestroyRoom ∉ host.callbacks ++ [call] := by simp [before, living.symm]
    exact ⟨fun _ => kept, _, kept, .inl rfl⟩
  | closed closes =>
    unfold Host.closeImpl
    split
    · exact ⟨alive, last⟩
    · next isOpen =>
      have before : .onDestroyRoom ∉ host.callbacks := alive fun reset => isOpen reset.1
      refine ⟨fun kept => absurd ⟨nofun, rfl⟩ kept, host.callbacks, before, ?_⟩
      dsimp only
      split
      · exact .inr rfl
      · exact .inl rfl

/-- Dropping the contents takes a close of an open room; otherwise they were gone before. -/
theorem turn_reset {task : Task} {ptr : RoomPtr} {host after : Host} (turn : Turn task ptr host after)
    (reset : after.Reset) : host.Reset ∨ (task.closes ptr ∧ host.lifecycle = .kOpen) := by
  cases turn with
  | same => exact .inl reset
  | equipped equips => exact absurd reset.2 nofun
  | called call contents calls first living => exact absurd (contents.symm.trans reset.2) nofun
  | closed closes =>
    by_cases isOpen : host.lifecycle = .kOpen
    · exact .inr ⟨closes, isOpen⟩
    · unfold Host.closeImpl at reset
      rw [if_pos isOpen] at reset
      exact .inl reset

theorem closes_items {choice : Choice} {core : Core} {task : Task} {effect : Effect} {ptr : RoomPtr}
    (executed : Executed choice core task effect) (closes : task.closes ptr) : items effect = [] := by
  cases executed with
  | closed found => rfl
  | staged ran =>
    cases ran with
    | closed found => rfl
    | _ => cases closes
  | _ => cases closes

/-- While a room is closed, the rest of its strand's work asks for the lifecycle first. -/
theorem closing_alone {state : State} (orderly : Orderly state) (housed : Housed state) {thread : Thread}
    {task item : Task} {before later : Pool Thread Task} (split : state.pool = before ++ (thread, task) :: later)
    (quiet : Pool.idle before thread) {ptr : RoomPtr} {host : Host} (closes : task.closes ptr)
    (found : state.core.hosts[ptr]? = some host) (isOpen : host.lifecycle = .kOpen)
    (unapproached : ∀ entry ∈ state.pool, ∀ target ∈ entry.2.approaches, task.closes target →
      ∀ room ∈ state.core.heap[target]?, room.lifecycle ≠ .kOpen)
    (still : ∃ owner, (owner, item) ∈ before ++ later) : ¬ item.involves ptr := by
  intro involves
  obtain ⟨owner, mem⟩ := still
  have inPool := mem_of_rest split mem
  rcases involves_cases involves with approaches | ⟨underway, home⟩
  · rw [hosts_get] at found
    obtain ⟨room, stored, rfl⟩ := Option.map_eq_some_iff.mp found
    exact unapproached (owner, item) inPool ptr approaches closes room stored isOpen
  · obtain ⟨member, place, here⟩ := orderly.located (thread, task) (by simp [split]) ptr (closes_home closes)
    obtain ⟨member', place', there⟩ := orderly.located (owner, item) inPool ptr home
    obtain rfl := Option.some.inj (place.symm.trans place')
    have heavy : ¬ task.light := by
      unfold Task.closes at closes
      split at closes <;> simp_all [Task.light]
    have leading := housed.underway
    rw [split] at leading
    exact leading.behind quiet heavy mem (there.trans here.symm) underway

theorem Departed.post {core after : Core} {pool posts : Pool Thread Task} {ptr : RoomPtr} {host : Host}
    (departed : Departed ⟨core, pool⟩ ptr host)
    (plain : host.Reset → ∀ entry ∈ posts, ¬ entry.2.involves ptr) : Departed ⟨after, pool ++ posts⟩ ptr host := by
  refine ⟨?_, departed.alive, departed.last⟩
  rintro reset task ⟨thread, waits⟩
  rcases List.mem_append.mp waits with waits | posted
  · exact departed.left reset task ⟨thread, waits⟩
  · exact plain reset _ posted

theorem departed_step {state after : State} {label : Label} (orderly : Orderly state) (housed : Housed state)
    (enlisted : Enlisted state) (unapproached : ClosesUnapproached ⟨state, label, after⟩)
    (departed : ∀ ptr host, state.core.hosts[ptr]? = some host → Departed state ptr host)
    (moved : step state label = some after) (ptr : RoomPtr) (host : Host)
    (stored : after.core.hosts[ptr]? = some host) : Departed after ptr host := by
  cases stepped_of_step moved with
  | @delivered source message quiet =>
    apply (departed ptr host stored).post
    simp [Task.involves]
  | @called target call room found contents =>
    apply (departed ptr host stored).post
    intro reset entry mem involves
    simp only [List.mem_map, Option.mem_toList] at mem
    obtain ⟨item, posted, rfl⟩ := mem
    cases call with
    | sendToUser uids message =>
      obtain ⟨users, -, rfl⟩ := Option.map_eq_some_iff.mp posted
      exact involves
    | kickOutUser uid reason =>
      -- contents that were dropped do not ask for kick-outs any more
      cases posted
      cases involves
      obtain rfl := Option.some.inj ((found_host found).symm.trans stored)
      exact absurd (contents.symm.trans reset.2) nofun
  | stopped running =>
    unfold shutdown
    apply (departed ptr host stored).post
    intro reset entry mem
    simp only [List.mem_filterMap, Option.map_eq_some_iff] at mem
    obtain ⟨target, -, room, -, rfl⟩ := mem
    exact id
  | @ran thread choice task before later effect split quiet executed =>
    have hosted := hosted_of_executed executed
    have waiting : Waiting state task := (waiting_split split task).mpr (.inl rfl)
    rcases hosted_before hosted stored with ⟨old, found, turn⟩ | ⟨rfl, bare, isOpen, -⟩
    · have earlier := departed ptr old found
      have fresh : task.equips ptr → old.callbacks = [] := by
        intro equips
        obtain ⟨same, known, bare⟩ := housed.bare task ptr waiting equips
        obtain rfl := Option.some.inj (found.symm.trans known)
        exact bare.2
      obtain ⟨alive, last⟩ := departed_calls turn fresh earlier.alive earlier.last
      refine ⟨?_, alive, last⟩
      intro reset item waits involves
      rcases turn_reset turn reset with gone | ⟨closes, isOpen⟩
      · rcases (waiting_ran item).mp waits with new | still
        · rcases involves_of_executed executed new involves with announces | same | ⟨room, known, isOpen⟩ | ⟨roomId, known⟩
          · obtain ⟨-, other, known, contents⟩ := announces_of_hosted hosted new announces
            obtain rfl := Option.some.inj (stored.symm.trans known)
            exact absurd (contents.symm.trans reset.2) nofun
          · exact earlier.left gone task waiting same
          · obtain rfl := Option.some.inj (found.symm.trans (found_host known))
            exact gone.1 isOpen
          · obtain ⟨⟨other, known', -, isOpen⟩, -⟩ := enlisted roomId ptr known
            obtain rfl := Option.some.inj (found.symm.trans known')
            exact gone.1 isOpen
        · exact earlier.left gone item ((waiting_split split item).mpr (.inr still)) involves
      · rcases (waiting_ran item).mp waits with new | still
        · simp [closes_items executed closes] at new
        · exact closing_alone orderly housed split quiet closes found isOpen
            (unapproached (choice, task) (executed_ran choice _ split quiet)) still involves
    · refine ⟨fun reset => absurd isOpen reset.1, fun _ => by simp [bare.2], [], by simp, .inl bare.2⟩

/-- The end is the last call, made at most once, and nothing waits to call contents that were dropped. -/
structure EndsLast (state : State) (ptr : RoomPtr) (room : Room) : Prop where
  once : room.callbacks.count .onDestroyRoom ≤ 1
  last : ∀ earlier later, room.callbacks = earlier ++ .onDestroyRoom :: later → later = []
  unreached : room.lifecycle ≠ .kOpen → room.contents = false → ∀ task, Waiting state task → ¬ task.calls ptr

theorem Departed.endsLast {state : State} {ptr : RoomPtr} {room : Room} (departed : Departed state ptr room.host) :
    EndsLast state ptr room := by
  obtain ⟨calls, living, callbacks⟩ := departed.last
  have shape : room.callbacks = calls ∨ room.callbacks = calls ++ [.onDestroyRoom] := callbacks
  have none : calls.count .onDestroyRoom = 0 := List.count_eq_zero.mpr living
  have once : room.callbacks.count .onDestroyRoom ≤ 1 := by
    rcases shape with same | same <;> simp [same, none]
  refine ⟨once, ?_, ?_⟩
  · intro earlier later cut
    rcases shape with same | same
    · exact absurd (by simp [← same, cut]) living
    · rcases List.eq_nil_or_concat later with empty | ⟨front, final, rfl⟩
      · exact empty
      · -- a later call would put an end among the calls before the last one
        rw [same, List.concat_eq_append, ← List.cons_append, ← List.append_assoc] at cut
        have before := (List.append_inj' cut rfl).1
        exact absurd (by simp [before]) living
  · intro closed dropped task waits called
    exact departed.left ⟨closed, dropped⟩ task waits (calls_involves called)

/-- `on_destroy_room` is the last call the contents of a room get, and they are not touched afterwards. -/
theorem on_destroy_room_last {history : History} {state : State} (run : Reaches history state)
    (unapproached : ∀ move ∈ history, ClosesUnapproached move) {ptr : RoomPtr} {room : Room}
    (found : state.core.heap[ptr]? = some room) : EndsLast state ptr room := by
  have departed : ∀ ptr host, state.core.hosts[ptr]? = some host → Departed state ptr host := by
    refine run.history
      (fun _ state => ∀ ptr host, state.core.hosts[ptr]? = some host → Departed state ptr host) ?_ ?_
    · intro ptr host stored
      simp [initial, Core.hosts] at stored
    · intro past move reached departed moved mem
      exact departed_step (orderly_reached reached) (housed_reached reached) (enlisted_reached reached)
        (unapproached move mem) departed moved
  exact (departed ptr room.host (found_host found)).endsLast

theorem on_destroy_room_last_left :
    ∃ history state room, Reaches history state ∧ state.core.heap[0]? = some room ∧
      room.callbacks.getLast? = some .onDestroyRoom ∧ EndsLast state 0 room := by
  have run : Reaches _ (final step initial createForwardLeave) := run_of_enabled (by decide +kernel)
  have found := (Option.some_get
    (by decide +kernel : ((final step initial createForwardLeave).core.heap[0]?).isSome)).symm
  refine ⟨_, _, _, run, found, by decide +kernel, ?_⟩
  exact on_destroy_room_last run (by decide +kernel) found

def leavesForwarding : List Label :=
  handled "user-1" (.reqCreateRoom { uid := "alice", requestId := 1 }) 10000 5 ++ [.run (.strand 0) {}] ++
    handled "user-1" (.reqLeaveRoom { uid := "alice", requestId := 2 }) 10000 3 ++
    handled "user-1" (.fwdRoom { uid := "alice", message := "hi" }) 10000 2 ++
    List.replicate 7 (.run (.strand 0) {})

/-- The receiving thread is about to call contents that `close_impl` has dropped, and cannot go on. -/
theorem message_reaches_dropped_contents :
    Reaches (transitions step initial leavesForwarding) (final step initial leavesForwarding) ∧
      ((final step initial leavesForwarding).core.heap[0]?).map (fun room => (room.contents, room.callbacks)) =
        some (false, [.onCreateRoom 10000, .onUserExit "alice", .onDestroyRoom]) ∧
      (final step initial leavesForwarding).pool = [(.router, .onRecvMessage 0 "alice" "hi")] ∧
      ∀ choice, step (final step initial leavesForwarding) (.run .router choice) = none := by
  have pool : (final step initial leavesForwarding).pool = [(.router, .onRecvMessage 0 "alice" "hi")] := by
    decide +kernel
  have null : ((final step initial leavesForwarding).core.callback 0 (.onRecvMessage "alice" "hi")).isNone := by
    decide +kernel
  refine ⟨run_of_enabled (by decide +kernel), by decide +kernel, pool, ?_⟩
  intro choice
  simp only [step, Machine.run, pool, Pool.pop, exec, Option.isNone_iff_eq_none.mp null, if_true, Option.bind_some,
    Option.bind_eq_bind, Option.bind_none, Option.map_none]

end Rsp.RoomServer
