import Rsp.RoomServer.Creation

/-! Kicking a user out of a room, compared with leaving it.

`kick_out_user_impl` removes the user from `users_` and from nothing else. What the
manager's indexes say afterwards is what they said before, so the room is left
completely only by a user that was indexed elsewhere and was not its last member.
-/

set_option autoImplicit false

namespace Rsp.RoomServer

open Message Foundation

def Kicks (ptr : RoomPtr) (uid : Uid) (move : Transition State Label) : Prop :=
  ∃ choice reason, executed move = some (choice, .onKickedOutUser ptr uid reason)

def Enters (ptr : RoomPtr) (uid : Uid) (move : Transition State Label) : Prop :=
  ∃ found ∈ executed move, enters move.before.core found.2 = some (ptr, uid)

def Forwards (ptr : RoomPtr) (uid : Uid) (move : Transition State Label) : Prop :=
  ∃ choice message, executed move = some (choice, .onRecvMessage ptr uid message)

def Forwarding (state : State) (uid : Uid) : Prop :=
  ∃ task, Waiting state task ∧ match task with
    | .findForward notification _ => notification.uid = uid
    | .onRecvMessage _ sender _ => sender = uid
    | _ => False

def LastMember (room : Room) (uid : Uid) : Prop := uid ∈ room.users ∧ ∀ other ∈ room.users, other = uid

/-- What a completed leave achieves: the user does not resolve to the room, and a room left by
its last member is closed, taken out of the registered rooms and its contents told so. -/
structure Expelled (core : Core) (ptr : RoomPtr) (uid : Uid) (last : Prop) : Prop where
  unresolved : core.manager.findRoomOf uid ≠ some ptr
  closed : last → ∃ room, core.heap[ptr]? = some room ∧ room.lifecycle = .kClosed ∧
    .onDestroyRoom ∈ room.callbacks ∧ ∀ roomId : RoomId, core.manager.rooms[roomId]? ≠ some ptr

/-! ## A user that does not resolve to a room stays so meantime it enters it -/

theorem findRoomOf_eq_some {manager : RoomManager} {uid : Uid} {ptr : RoomPtr} :
    manager.findRoomOf uid = some ptr ↔
      ∃ roomId, manager.userRooms[uid]? = some roomId ∧ manager.rooms[roomId]? = some ptr := by
  simp [RoomManager.findRoomOf, RoomManager.findUserRoom, RoomManager.findRoom, Option.bind_eq_some_iff]

structure Apart (ptr : RoomPtr) (uid : Uid) (state : State) : Prop where
  bound : ptr < state.core.heap.length
  unresolved : state.core.manager.findRoomOf uid ≠ some ptr
  settled : ∀ task, Waiting state task → ¬ task.joining ptr uid

theorem touch_apart {choice : Choice} {core : Core} {task : Task} {effect : Effect} {ptr : RoomPtr} {uid : Uid}
    (touch : Touch choice core task effect) (bound : ptr < core.heap.length)
    (unresolved : core.manager.findRoomOf uid ≠ some ptr) (settled : ¬ task.joining ptr uid) :
    effect.core.manager.findRoomOf uid ≠ some ptr := by
  intro resolved
  obtain ⟨roomId, indexed, known⟩ := findRoomOf_eq_some.mp resolved
  refine unresolved (findRoomOf_eq_some.mpr ⟨roomId, ?_⟩)
  cases touch with
  | @create request message _ created queued running make manager members plain =>
    simp only [manager, Std.ExtTreeMap.getElem?_insert, Std.LawfulEqCmp.compare_eq_iff_eq] at indexed known
    split at known
    · cases known
      exact absurd bound (Nat.lt_irrefl _)
    · next other =>
      split at indexed
      · cases indexed
        exact absurd rfl other
      · exact ⟨indexed, known⟩
  | @index request target name inserted response _ member found registered manager members plain =>
    simp only [manager, Std.ExtTreeMap.getElem?_insert, Std.LawfulEqCmp.compare_eq_iff_eq] at indexed known
    split at indexed
    · next same =>
      cases indexed
      obtain rfl := Option.some.inj (registered.symm.trans known)
      exact absurd ((joining_joinedRoom _ _).mpr ⟨rfl, same.symm⟩) settled
    · exact ⟨indexed, known⟩
  | unindex member found registered was manager members plain =>
    simp only [manager, Std.ExtTreeMap.getElem?_erase] at indexed known
    split at indexed
    · cases indexed
    · exact ⟨indexed, known⟩
  | unregister member found registered manager members next posts =>
    simp only [manager, Std.ExtTreeMap.getElem?_erase, Std.ExtTreeMap.getElem?_filter, Option.pfilter_eq_filter,
      Option.filter_eq_some_iff] at indexed known
    split at known
    · cases known
    · exact ⟨indexed.1, known⟩
  | same quiet manager | enter old queued stored isOpen manager | indexStale old stored stale manager
  | exit old stored isOpen manager | unindexStale old stored elsewhere manager | close old closes stored manager
  | kick old stored manager => exact ⟨manager ▸ indexed, manager ▸ known⟩

theorem joining_of_touch {choice : Choice} {core : Core} {task item : Task} {effect : Effect} {ptr : RoomPtr}
    {uid : Uid} (touch : Touch choice core task effect) (new : item ∈ items effect) (joining : item.joining ptr uid) :
    enters core task = some (ptr, uid) := by
  have plainly : ¬ Plain effect := fun plain => (plain item new).1 (Task.joining_commits joining).1
  cases touch with
  | @enter request target name response _ inserted member queued found isOpen manager members next posts =>
    simp only [items, next, posts, List.map_nil, List.append_nil, List.mem_singleton] at new
    subst new
    obtain ⟨rfl, rfl⟩ := (joining_joinedRoom _ _).mp joining
    obtain ⟨room, stored, rfl⟩ := Option.map_eq_some_iff.mp ((members_get _ _).symm.trans found)
    have isOpen : room.lifecycle = .kOpen := isOpen
    simp [enters, queued, stored, isOpen]
  | exit old stored isOpen manager members next posts | unregister old stored registered manager members next posts =>
    simp only [items, next, posts, List.map_nil, List.append_nil, List.mem_singleton] at new
    subst new
    cases joining
  | same quiet manager members plain | create queued running make manager members plain
  | index old stored registered manager members plain | indexStale old stored stale manager members plain
  | unindex old stored registered indexed manager members plain
  | unindexStale old stored elsewhere manager members plain | close old closes stored manager members plain
  | kick old stored manager members plain => exact absurd plain plainly

theorem apart_step {ptr : RoomPtr} {uid : Uid} {state after : State} {label : Label} (apart : Apart ptr uid state)
    (moved : step state label = some after) (stays : ¬ Enters ptr uid ⟨state, label, after⟩) :
    Apart ptr uid after := by
  have settled : (∀ thread choice, label ≠ .run thread choice) →
      ∀ task, Waiting after task → ¬ task.joining ptr uid := by
    intro external task waits joining
    rcases outer_unran (stepped_of_step moved) external waits with waits | outer
    · exact apart.settled task waits joining
    · exact outer_plain outer (Task.joining_commits joining).1
  cases stepped_of_step moved with
  | delivered | called => exact ⟨apart.bound, apart.unresolved, settled (by simp)⟩
  | stopped running =>
    exact ⟨apart.bound, by simp [shutdown, RoomManager.shutdown, findRoomOf_eq_some], settled (by simp)⟩
  | @ran thread choice task before later effect split quiet executed =>
    have touch := touch_of_executed executed
    have ran := executed_ran choice (ranState thread before later effect) split quiet
    have settled : ∀ item, Waiting state item → ¬ item.joining ptr uid := apart.settled
    refine ⟨?_, touch_apart touch apart.bound apart.unresolved (settled task ⟨thread, by simp [split]⟩), ?_⟩
    · obtain ⟨member, stored, -⟩ := touch_keeps_room touch
        (found_membership (List.getElem?_eq_getElem apart.bound))
      rw [← members_length]
      exact (List.getElem?_eq_some_iff.mp stored).1
    · intro item waits joining
      rcases (waiting_ran item).mp waits with new | still
      · exact stays ⟨_, ran, joining_of_touch touch new joining⟩
      · exact settled item ((waiting_split split item).mpr (.inr still)) joining

/-! ## Messages of the user -/

/-- Nothing under way leads a message of the user to the room. -/
structure Silent (ptr : RoomPtr) (uid : Uid) (state : State) : Prop where
  finding : ∀ notification roomId, Waiting state (.findForward notification roomId) → notification.uid = uid →
    state.core.manager.rooms[roomId]? ≠ some ptr
  handing : ∀ target message, Waiting state (.onRecvMessage target uid message) → target ≠ ptr

theorem registered_before {choice : Choice} {core : Core} {task : Task} {effect : Effect} {ptr : RoomPtr}
    (touch : Touch choice core task effect) (bound : ptr < core.heap.length) {roomId : RoomId}
    (known : effect.core.manager.rooms[roomId]? = some ptr) : core.manager.rooms[roomId]? = some ptr := by
  rcases touch_rooms touch with ⟨rooms, -⟩ | ⟨-, rooms, -⟩ | ⟨target, member, item, -, -, -, -, rooms, -⟩
  · exact rooms ▸ known
  · simp only [rooms, Std.ExtTreeMap.getElem?_insert] at known
    split at known
    · cases known
      exact absurd bound (Nat.lt_irrefl _)
    · exact known
  · simp only [rooms, Std.ExtTreeMap.getElem?_erase] at known
    split at known
    · cases known
    · exact known

theorem findForward_of_executed {choice : Choice} {core : Core} {task : Task} {effect : Effect}
    (executed : Executed choice core task effect) {notification : User2RoomFwdRoom} {roomId : RoomId}
    (new : .findForward notification roomId ∈ items effect) :
    core.manager.userRooms[notification.uid]? = some roomId ∧ effect.core.manager = core.manager := by
  cases executed with
  | received received =>
    cases received with
    | forwardIndexed indexed =>
      simp only [items, List.map_nil, List.append_nil, List.mem_singleton, Task.findForward.injEq] at new
      obtain ⟨rfl, rfl⟩ := new
      exact ⟨indexed, rfl⟩
    | ping | forwardUnindexed | cancelled | refused | admitted => simp [items] at new
  | staged ran =>
    cases ran with
    | @joined ptr uid inserted response room found => cases inserted <;> simp [items] at new
    | @exitNotified ptr uid empty after called => cases empty <;> simp [items] at new
    | completed =>
      simp only [items, complete] at new
      split at new <;> simp at new
    | createLate | createStopping | created | contentsThrown | contentsCreated | createNotified | joinUnknown
    | joinFound | joinLate | joinClosed | joinEntered | enterNotified | leaveUnindexed | leaveIndexed | leaveUnknown
    | leaveFound | leaveLate | leaveRefused | leaveExited | left | emptied | emptyStale | closed | sent | aborted =>
      simp [items, leaveUnknown] at new
  | broadcast => simp [items, fwdClient] at new
  | forwardStale | forwardFound | forwarded | kickAbsent | kickPresent | kicked | notified | closed =>
    simp [items] at new

theorem onRecvMessage_of_executed {choice : Choice} {core : Core} {task : Task} {effect : Effect}
    (executed : Executed choice core task effect) {ptr : RoomPtr} {sender : Uid} {message : String}
    (new : .onRecvMessage ptr sender message ∈ items effect) :
    ∃ notification roomId, task = .findForward notification roomId ∧ notification.uid = sender ∧
      core.manager.rooms[roomId]? = some ptr := by
  cases executed with
  | received received => cases received <;> simp [items] at new
  | staged ran =>
    cases ran with
    | @joined ptr uid inserted response room found => cases inserted <;> simp [items] at new
    | @exitNotified ptr uid empty after called => cases empty <;> simp [items] at new
    | completed =>
      simp only [items, complete] at new
      split at new <;> simp at new
    | createLate | createStopping | created | contentsThrown | contentsCreated | createNotified | joinUnknown
    | joinFound | joinLate | joinClosed | joinEntered | enterNotified | leaveUnindexed | leaveIndexed | leaveUnknown
    | leaveFound | leaveLate | leaveRefused | leaveExited | left | emptied | emptyStale | closed | sent | aborted =>
      simp [items, leaveUnknown] at new
  | @forwardFound notification roomId target known =>
    simp only [items, List.map_nil, List.append_nil, List.mem_singleton, Task.onRecvMessage.injEq] at new
    obtain ⟨rfl, rfl, rfl⟩ := new
    exact ⟨notification, roomId, rfl, rfl, known⟩
  | broadcast => simp [items, fwdClient] at new
  | forwardStale | forwarded | kickAbsent | kickPresent | kicked | notified | closed => simp [items] at new

theorem silent_step {ptr : RoomPtr} {uid : Uid} {state after : State} {label : Label} (apart : Apart ptr uid state)
    (silent : Silent ptr uid state) (moved : step state label = some after) : Silent ptr uid after := by
  have posted : (∀ thread choice, label ≠ .run thread choice) →
      (∀ roomId : RoomId, after.core.manager.rooms[roomId]? = some ptr → state.core.manager.rooms[roomId]? = some ptr) →
      Silent ptr uid after := by
    intro external fewer
    constructor
    · intro notification roomId waits sender known
      rcases outer_unran (stepped_of_step moved) external waits with waits | outer
      · exact silent.finding notification roomId waits sender (fewer roomId known)
      · cases outer
    · intro target message waits
      rcases outer_unran (stepped_of_step moved) external waits with waits | outer
      · exact silent.handing target message waits
      · cases outer
  cases stepped_of_step moved with
  | delivered | called => exact posted (by simp) (fun _ => id)
  | stopped running => exact posted (by simp) (by simp [shutdown, RoomManager.shutdown])
  | @ran thread choice task before later effect split quiet executed =>
    have touch := touch_of_executed executed
    constructor
    · intro notification roomId waits sender known
      rcases (waiting_ran _).mp waits with new | still
      · obtain ⟨indexed, manager⟩ := findForward_of_executed executed new
        dsimp only at known
        rw [manager] at known
        exact apart.unresolved (findRoomOf_eq_some.mpr ⟨roomId, sender ▸ indexed, known⟩)
      · exact silent.finding notification roomId ((waiting_split split _).mpr (.inr still)) sender
          (registered_before touch apart.bound known)
    · rintro target message waits rfl
      rcases (waiting_ran _).mp waits with new | still
      · obtain ⟨notification, roomId, rfl, sender, known⟩ := onRecvMessage_of_executed executed new
        exact silent.finding notification roomId ⟨thread, by simp [split]⟩ sender known
      · exact silent.handing target message ((waiting_split split _).mpr (.inr still)) rfl

/-! ## Kicking out -/

/-- The removal leaves the manager, the life of the room and everything else of it alone. -/
theorem kick_effect {ptr : RoomPtr} {uid : Uid} {kick : Transition State Label} (kicks : Kicks ptr uid kick)
    (moved : step kick.before kick.label = some kick.after) {room : Room}
    (found : kick.before.core.heap[ptr]? = some room) :
    kick.after.core.manager = kick.before.core.manager ∧
      ∃ after, kick.after.core.heap[ptr]? = some after ∧ after.lifecycle = room.lifecycle := by
  obtain ⟨state, label, after⟩ := kick
  obtain ⟨choice, reason, ran⟩ := kicks
  obtain ⟨thread, before, later, effect, rfl, split, quiet, done, rfl⟩ := executed_split ran moved
  cases done with
  | kicked stored contents =>
    obtain rfl := Option.some.inj (found.symm.trans stored)
    exact ⟨rfl, _, List.getElem?_set_self (List.getElem?_eq_some_iff.mp found).1, rfl⟩

theorem kick_apart {ptr : RoomPtr} {uid : Uid} {past : History} {kick : Transition State Label}
    (reached : Reaches past kick.before) (moved : step kick.before kick.label = some kick.after)
    (kicks : Kicks ptr uid kick) {room : Room} (found : kick.before.core.heap[ptr]? = some room)
    (elsewhere : kick.before.core.manager.findRoomOf uid ≠ some ptr) : Apart ptr uid kick.after := by
  obtain ⟨manager, after, stored, -⟩ := kick_effect kicks moved found
  refine ⟨(List.getElem?_eq_some_iff.mp stored).1, manager ▸ elsewhere, ?_⟩
  obtain ⟨state, label, next⟩ := kick
  obtain ⟨choice, reason, ran⟩ := kicks
  obtain ⟨thread, before, later, effect, rfl, split, quiet, done, rfl⟩ := executed_split ran moved
  intro item waits joining
  rcases (waiting_ran item).mp waits with new | ⟨owner, still⟩
  · cases done with
    | kicked stored contents => simp [items] at new
  · exact (orderly_reached reached).alone split quiet rfl still (Task.joining_commits joining).1
      (Task.joining_commits joining).2

/-- A kick-out amounts to a leave when the user was indexed elsewhere and not the last member. On a
strand with nothing else to do it amounts to a leave only then. -/
theorem kick_out_membership {ptr : RoomPtr} {uid : Uid} {past : History} {kick : Transition State Label}
    {room : Room} (reached : Reaches past kick.before) (moved : step kick.before kick.label = some kick.after)
    (kicks : Kicks ptr uid kick) (found : kick.before.core.heap[ptr]? = some room) (isOpen : room.lifecycle = .kOpen) :
    (kick.before.core.manager.findRoomOf uid ≠ some ptr ∧ ¬ LastMember room uid →
      ∀ later state, Run step kick.after later state → (∀ move ∈ later, ¬ Enters ptr uid move) →
        Expelled state.core ptr uid (LastMember room uid) ∧
        (¬ Forwarding kick.after uid → ∀ move ∈ later, ¬ Forwards ptr uid move)) ∧
    (kick.after.pool.idle (.strand room.strand) →
      (∀ later state, Run step kick.after later state → (∀ move ∈ later, ¬ Enters ptr uid move) →
        state.pool.idle (.strand room.strand) → Expelled state.core ptr uid (LastMember room uid)) →
      kick.before.core.manager.findRoomOf uid ≠ some ptr ∧ ¬ LastMember room uid) := by
  constructor
  · rintro ⟨elsewhere, others⟩ later state run stays
    have start : Apart ptr uid kick.after := kick_apart reached moved kicks found elsewhere
    constructor
    · refine ⟨?_, fun last => absurd last others⟩
      refine (run.history (fun _ state => Apart ptr uid state) start ?_).unresolved
      intro earlier move _ apart stepped mem
      exact apart_step apart stepped (stays move mem)
    · intro quiet
      have silent : Silent ptr uid kick.after := by
        constructor
        · intro notification roomId waits sender
          exact absurd ⟨_, waits, sender⟩ quiet
        · intro target message waits
          exact absurd ⟨_, waits, rfl⟩ quiet
      intro move mem forwards
      obtain ⟨earlier, after, cut⟩ := List.append_of_mem mem
      obtain ⟨meantime, stepped, -⟩ := run.split cut
      have both := meantime.history (fun _ state => Apart ptr uid state ∧ Silent ptr uid state) ⟨start, silent⟩ (by
        intro earlier' move' _ holds stepped' mem'
        refine ⟨apart_step holds.1 stepped' (stays move' ?_), silent_step holds.1 holds.2 stepped'⟩
        rw [cut]
        exact List.mem_append_left _ mem')
      obtain ⟨state', label, next⟩ := move
      obtain ⟨choice, message, ran⟩ := forwards
      obtain ⟨thread, before, later, effect, rfl, split, -⟩ := executed_split ran stepped
      exact both.2.handing ptr message ⟨thread, by simp [split]⟩ rfl
  · intro idle always
    have expelled := always [] kick.after .start (by simp) idle
    obtain ⟨manager, after, stored, sameLife⟩ := kick_effect kicks moved found
    refine ⟨manager ▸ expelled.unresolved, ?_⟩
    intro last
    obtain ⟨other, stored', closed, -⟩ := expelled.closed last
    obtain rfl := Option.some.inj (stored.symm.trans stored')
    rw [sameLife, isOpen] at closed
    cases closed

def kicksOutGhost : List Label :=
  handled "user" (.reqCreateRoom { requestId := 1, uid := "alice" }) 10000 5 ++
    ([.run (.strand 0) {}] : List Label) ++
    handled "user" (.reqJoinRoom { requestId := 2, uid := "bob", roomId := 10000 }) 10000 2 ++
    (List.replicate 5 (.run (.strand 0) {}) : List Label) ++
    handled "user" (.reqCreateRoom { requestId := 3, uid := "alice" }) 10001 5 ++
    ([.run (.strand 1) {}] : List Label) ++ ([.api 0 (.kickOutUser "alice" .kAdmin)] : List Label) ++
    (List.replicate 2 (.run (.strand 0) {}) : List Label)

theorem kick_out_membership_ghost :
    (nextMove step initial kicksOutGhost (.run (.strand 0) {})).after.core.manager.findRoomOf "alice" ≠ some 0 := by
  have reached : Reaches _ (final step initial kicksOutGhost) := run_of_enabled (by decide +kernel)
  have moved := step_nextMove (by decide +kernel : (step (final step initial kicksOutGhost) (.run (.strand 0) {})).isSome)
  obtain ⟨room, found, isOpen⟩ := Option.map_eq_some_iff.mp (by decide +kernel :
    ((final step initial kicksOutGhost).core.heap[0]?).map Room.lifecycle = some .kOpen)
  obtain ⟨_, stored, shared⟩ := Option.map_eq_some_iff.mp (by decide +kernel :
    ((final step initial kicksOutGhost).core.heap[0]?).map (fun room => room.users.contains "bob") = some true)
  obtain rfl := Option.some.inj (found.symm.trans stored)
  have others : ¬ LastMember room "alice" := by
    intro last
    exact absurd (last.2 "bob" (by simpa using shared)) (by decide)
  have expelled := (kick_out_membership reached moved ⟨{}, .kAdmin, by decide +kernel⟩ found isOpen).1
    ⟨by decide +kernel, others⟩ [] _ .start (by simp)
  exact expelled.1.unresolved

def kicksOutOwner : List Label :=
  handled "user" (.reqCreateRoom { requestId := 1, uid := "alice" }) 10000 5 ++
    ([.run (.strand 0) {}] : List Label) ++
    handled "user" (.fwdRoom { uid := "alice", message := "kickout:alice" }) 10000 3 ++
    ([.api 0 (.kickOutUser "alice" .kRoomOwner)] : List Label) ++
    (List.replicate 2 (.run (.strand 0) {}) : List Label)

/-- The expelled owner still resolves to the room, which stays open without members. -/
theorem kicked_out_user_resolves :
    ∃ (past : History) (kick : Transition State Label) (room : Room), Reaches past kick.before ∧
      step kick.before kick.label = some kick.after ∧ Kicks 0 "alice" kick ∧
      kick.before.core.heap[0]? = some room ∧ room.lifecycle = .kOpen ∧ "alice" ∈ room.users ∧
      kick.after.pool = [] ∧ ¬ Expelled kick.after.core 0 "alice" (LastMember room "alice") := by
  have reached : Reaches _ (final step initial kicksOutOwner) := run_of_enabled (by decide +kernel)
  have moved := step_nextMove (by decide +kernel : (step (final step initial kicksOutOwner) (.run (.strand 0) {})).isSome)
  obtain ⟨room, found, isOpen⟩ := Option.map_eq_some_iff.mp (by decide +kernel :
    ((final step initial kicksOutOwner).core.heap[0]?).map Room.lifecycle = some .kOpen)
  obtain ⟨_, stored, present⟩ := Option.map_eq_some_iff.mp (by decide +kernel :
    ((final step initial kicksOutOwner).core.heap[0]?).map (fun room => room.users.contains "alice") = some true)
  obtain rfl := Option.some.inj (found.symm.trans stored)
  refine ⟨_, nextMove step initial kicksOutOwner (.run (.strand 0) {}), room, reached, moved,
    ⟨{}, .kRoomOwner, by decide +kernel⟩, found, isOpen, by simpa using present, by decide +kernel, ?_⟩
  intro expelled
  exact expelled.unresolved (by decide +kernel)

end Rsp.RoomServer
