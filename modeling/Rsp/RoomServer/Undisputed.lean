import Rsp.RoomServer.Destruction
import Rsp.RoomServer.Outcome
import Rsp.RoomServer.Succession

/-! Joins and leaves whose bookkeeping nobody disputes.

`join_room` and `leave_room` change `users_` on the strand and ask the manager to record it
afterwards. The manager refuses when the room is not registered any more and, for a leave,
when the user is mapped to another room by then. `Steady` names the steps that make it
refuse; in a run without them `Undisputed` holds and it never does.
-/

set_option autoImplicit false

namespace Rsp.RoomServer

open Message Foundation

/-! ## The condition -/

def Task.relies : Task → Option RoomPtr
  | .handle _ (.joinRoom ptr ..) => some ptr
  | .handle _ (.joinedRoom ptr ..) => some ptr
  | .handle _ (.leaveRoom ptr ..) => some ptr
  | .handle _ (.leftRoom ptr ..) => some ptr
  | _ => none

def Task.departure (members : List Membership) : Task → Option (Uid × RoomId)
  | .handle _ (.findLeaveRoom message roomId) => some (message.uid, roomId)
  | .handle _ (.leaveRoom ptr uid _) => (members[ptr]?).map fun member => (uid, member.roomId)
  | .handle _ (.leftRoom ptr uid ..) => (members[ptr]?).map fun member => (uid, member.roomId)
  | _ => none

def maps (choice : Choice) (core : Core) : Task → Option (Uid × RoomId)
  | .handle request (.createRoom message) =>
      if core.registry.state request.ticket = some .kQueued ∧ core.manager.stopping = false then
        some (message.uid, choice.draw)
      else none
  | .handle _ (.joinedRoom ptr uid ..) => (core.members[ptr]?).map fun member => (uid, member.roomId)
  | _ => none

/-- No room with a waiting join or leave is unregistered by a shutdown or replaced by a created
room, and no user is mapped to another room than the one it is about to leave. -/
def Steady (move : Transition State Label) : Prop :=
  (move.label = .shutdown → ∀ entry ∈ move.before.pool, entry.2.relies = none) ∧
  ∀ found ∈ executed move, ∀ entry ∈ move.before.pool,
    (∀ roomId ∈ draws found.1 move.before.core found.2, ∀ ptr ∈ entry.2.relies,
      move.before.core.manager.rooms[roomId]? ≠ some ptr) ∧
    ∀ mapped ∈ maps found.1 move.before.core found.2, ∀ leave ∈ entry.2.departure move.before.core.members,
      leave.1 = mapped.1 → leave.2 = mapped.2

instance (move : Transition State Label) : Decidable (Steady move) := by
  unfold Steady
  infer_instance

/-! ## What a step does to the indexes -/

section Touched

variable {choice : Choice} {core : Core} {task : Task} {effect : Effect}

inductive Mapping (choice : Choice) (core : Core) (task : Task) (effect : Effect) (uid : Uid) : Prop where
  | kept (same : effect.core.manager.userRooms[uid]? = core.manager.userRooms[uid]?)
  | moved {roomId : RoomId} (mapped : maps choice core task = some (uid, roomId))
      (now : effect.core.manager.userRooms[uid]? = some roomId)
  | dropped {ptr : RoomPtr} {member : Membership} (found : core.members[ptr]? = some member)
      (registered : core.manager.rooms[member.roomId]? = some ptr)
      (was : core.manager.userRooms[uid]? = some member.roomId) (heavy : ¬ task.light) (home : task.home = some ptr)
      (cause : task.leaving ptr uid ∨ effect.core.manager.rooms[member.roomId]? = none)

theorem mapping_of_touch (touch : Touch choice core task effect) (uid : Uid) :
    Mapping choice core task effect uid := by
  have kept : effect.core.manager = core.manager → Mapping choice core task effect uid :=
    fun manager => .kept (by rw [manager])
  cases touch with
  | @create request message _ created queued running make manager members plain =>
    by_cases same : message.uid = uid
    · subst same
      have mapped : maps choice core (.handle request (.createRoom message)) = some (message.uid, choice.draw) := by
        simp [maps, queued, running]
      exact .moved mapped (by rw [manager, Std.ExtTreeMap.getElem?_insert_self])
    · exact .kept (by simp [manager, Std.ExtTreeMap.getElem?_insert, same])
  | @index request ptr joined inserted response _ member found registered manager members plain =>
    by_cases same : joined = uid
    · subst same
      have mapped : maps choice core (.handle request (.joinedRoom ptr joined inserted response)) =
          some (joined, member.roomId) := by
        simp [maps, found]
      exact .moved mapped (by rw [manager, Std.ExtTreeMap.getElem?_insert_self])
    · exact .kept (by simp [manager, Std.ExtTreeMap.getElem?_insert, same])
  | @unindex request ptr left empty response _ member found registered indexed manager members plain =>
    by_cases same : left = uid
    · subst same
      exact .dropped found registered indexed id rfl (.inl ⟨rfl, rfl⟩)
    · exact .kept (by simp [manager, Std.ExtTreeMap.getElem?_erase, same])
  | @unregister request ptr _ member found registered manager members next posts =>
    by_cases same : core.manager.userRooms[uid]? = some member.roomId
    · exact .dropped found registered same id rfl (.inr (by rw [manager, Std.ExtTreeMap.getElem?_erase_self]))
    · apply Mapping.kept
      rw [manager, Std.ExtTreeMap.getElem?_filter, Option.pfilter_eq_filter]
      cases mapped : core.manager.userRooms[uid]? with
      | none => rfl
      | some roomId =>
        rw [mapped, Option.some_inj] at same
        simp [Option.filter, same]
  | enter _ _ _ _ manager | exit _ _ _ manager | close _ _ _ manager | kick _ _ manager | same _ manager
  | indexStale _ _ _ manager | unindexStale _ _ _ manager => exact kept manager

/-- A registered room stays so until it is closed as empty, or another one is created under its id. -/
theorem registered_of_touch (touch : Touch choice core task effect) {ptr : RoomPtr} {roomId : RoomId}
    (registered : core.manager.rooms[roomId]? = some ptr) :
    effect.core.manager.rooms[roomId]? = some ptr ∨ draws choice core task = some roomId ∨
      ∃ request, task = .handle request (.onEmpty ptr) ∧ .handle request (.closeImpl ptr) ∈ items effect := by
  have kept : effect.core.manager.rooms = core.manager.rooms → effect.core.manager.rooms[roomId]? = some ptr :=
    fun rooms => rooms ▸ registered
  cases touch with
  | create queued running make manager members plain =>
    by_cases same : choice.draw = roomId
    · exact .inr (.inl (by simp [draws, queued, running, same]))
    · exact .inl (by simp [manager, Std.ExtTreeMap.getElem?_insert, same, registered])
  | @unregister request target _ member found known manager members next posts =>
    by_cases same : member.roomId = roomId
    · rw [same, registered] at known
      cases known
      exact .inr (.inr ⟨request, rfl, by simp [items, next]⟩)
    · exact .inl (by simp [manager, Std.ExtTreeMap.getElem?_erase, same, registered])
  | enter _ _ _ _ manager | exit _ _ _ manager | close _ _ _ manager | kick _ _ manager | same _ manager
  | index _ _ _ manager | indexStale _ _ _ manager | unindex _ _ _ _ manager | unindexStale _ _ _ manager =>
    exact .inl (kept (by rw [manager]))

theorem manager_of_lookup (touch : Touch choice core task effect) (routed : task.home = none)
    (other : ∀ request message, task ≠ .handle request (.createRoom message)) :
    effect.core.manager = core.manager ∧ effect.core.members = core.members := by
  cases touch with
  | same _ manager members => exact ⟨manager, members⟩
  | create => exact absurd rfl (other _ _)
  | close _ closes => cases (closes_home closes).symm.trans routed
  | enter | index | indexStale | exit | unindex | unindexStale | unregister | kick => cases routed

/-- Who is a member of a room after a step was one before, or is about to be indexed. -/
theorem present_of_touch (touch : Touch choice core task effect) {ptr : RoomPtr} {old member : Membership} {uid : Uid}
    (stored : core.members[ptr]? = some old) (found : effect.core.members[ptr]? = some member)
    (present : uid ∈ member.users) : uid ∈ old.users ∨ ∃ item ∈ items effect, item.joining ptr uid := by
  obtain ⟨after, now, remains⟩ := touch_room touch stored
  obtain rfl := Option.some.inj (found.symm.trans now)
  rcases remains.users uid present with before | ⟨request, response, rfl⟩
  · exact .inl before
  · cases touch with
    | same _ _ members =>
      rw [members, stored] at found
      cases found
      exact .inl present
    | close _ closes => cases closes
    | @enter _ _ _ _ _ inserted _ _ _ _ _ _ next =>
      exact .inr ⟨.handle request (.joinedRoom ptr uid inserted response), by simp [items, next], rfl, rfl⟩

/-- A room that was not there before has its creator as the only member, who is mapped to it. -/
theorem created_of_touch (touch : Touch choice core task effect) {ptr : RoomPtr} {member : Membership}
    (beyond : ¬ ptr < core.members.length) (found : effect.core.members[ptr]? = some member) :
    ∃ owner, (∀ uid, uid ∈ member.users ↔ uid = owner) ∧
      effect.core.manager.userRooms[owner]? = some member.roomId := by
  have bound := (List.getElem?_eq_some_iff.mp found).1
  cases touch with
  | @create request message _ created queued running make manager members =>
    rw [members] at found bound
    simp only [List.length_append, List.length_singleton] at bound
    obtain rfl : ptr = core.members.length := Nat.le_antisymm (Nat.le_of_lt_succ bound) (Nat.not_lt.mp beyond)
    rw [List.getElem?_concat_length, make] at found
    cases found
    refine ⟨message.uid, fun uid => ?_, ?_⟩
    · simp only [Room.make, Room.membership, Std.ExtTreeMap.mem_insert, Std.ExtTreeMap.not_mem_empty, or_false,
        Std.LawfulEqCmp.compare_eq_iff_eq]
      exact eq_comm
    · rw [manager, Std.ExtTreeMap.getElem?_insert_self]
      rfl
  | same _ _ members | index _ _ _ _ members | indexStale _ _ _ _ members | unindex _ _ _ _ _ members
  | unindexStale _ _ _ _ members | unregister _ _ _ _ members => exact absurd (members ▸ bound) beyond
  | enter _ _ _ _ _ members | exit _ _ _ _ members | close _ _ _ _ members | kick _ _ _ members =>
    exact absurd (by simpa [members] using bound) beyond

theorem mapped_of_joining (touch : Touch choice core task effect) {ptr : RoomPtr} {member : Membership} {uid : Uid}
    (joining : task.joining ptr uid) (found : core.members[ptr]? = some member)
    (registered : core.manager.rooms[member.roomId]? = some ptr) :
    effect.core.manager.userRooms[uid]? = some member.roomId := by
  have commits := (Task.joining_commits joining).1
  cases touch with
  | index old stored _ manager =>
    obtain ⟨rfl, rfl⟩ := joining
    cases found.symm.trans stored
    rw [manager, Std.ExtTreeMap.getElem?_insert_self]
  | indexStale old stored stale =>
    obtain ⟨rfl, rfl⟩ := joining
    cases found.symm.trans stored
    exact absurd registered stale
  | same quiet => exact absurd commits quiet
  | close _ closes => exact absurd commits (closes_quiet closes)
  | create | enter | exit | unindex | unindexStale | unregister | kick => cases joining

end Touched

theorem Enlisted.member {state : State} (enlisted : Enlisted state) {roomId : RoomId} {ptr : RoomPtr}
    (registered : state.core.manager.rooms[roomId]? = some ptr) :
    ∃ member, state.core.members[ptr]? = some member ∧ member.roomId = roomId := by
  obtain ⟨⟨host, stored, identity, -⟩, -⟩ := enlisted roomId ptr registered
  rw [hosts_get] at stored
  obtain ⟨room, found, rfl⟩ := Option.map_eq_some_iff.mp stored
  exact ⟨room.membership, found_membership found, identity⟩

/-! ## The invariant -/

def Task.wants (uid : Uid) (ptr : RoomPtr) (roomId : RoomId) : Task → Prop
  | .handle _ (.findLeaveRoom message found) => message.uid = uid ∧ found = roomId
  | .handle _ (.leaveRoom room user _) => user = uid ∧ room = ptr
  | _ => False

theorem wants_departure {members : List Membership} {task : Task} {uid : Uid} {ptr : RoomPtr} {member : Membership}
    (wants : task.wants uid ptr member.roomId) (found : members[ptr]? = some member) :
    task.departure members = some (uid, member.roomId) := by
  unfold Task.wants at wants
  split at wants
  · obtain ⟨rfl, rfl⟩ := wants
    rfl
  · obtain ⟨rfl, rfl⟩ := wants
    simp [Task.departure, found]
  · cases wants

theorem leaving_departure {members : List Membership} {task : Task} {uid : Uid} {ptr : RoomPtr} {member : Membership}
    (leaving : task.leaving ptr uid) (found : members[ptr]? = some member) :
    task.departure members = some (uid, member.roomId) ∧ task.relies = some ptr := by
  unfold Task.leaving at leaving
  split at leaving
  · obtain ⟨rfl, rfl⟩ := leaving
    exact ⟨by simp [Task.departure, found], rfl⟩
  · cases leaving

theorem relies_home {task : Task} {ptr : RoomPtr} (relies : task.relies = some ptr) : task.home = some ptr := by
  unfold Task.relies at relies
  split at relies <;> simp_all [Task.home]

/-- What joins and leaves rely on while they wait. -/
structure Undisputed (state : State) : Prop where
  relied : ∀ {task : Task} {ptr : RoomPtr} {member : Membership}, Waiting state task → task.relies = some ptr →
    state.core.members[ptr]? = some member → state.core.manager.rooms[member.roomId]? = some ptr ∨
      ¬ task.commits ∧ (member.lifecycle ≠ .kOpen ∨ ∃ request, Waiting state (.handle request (.closeImpl ptr)))
  mapped : ∀ {task : Task} {uid : Uid} {ptr : RoomPtr} {member : Membership}, Waiting state task →
    task.wants uid ptr member.roomId → state.core.manager.rooms[member.roomId]? = some ptr →
    state.core.members[ptr]? = some member → uid ∈ member.users →
    state.core.manager.userRooms[uid]? = some member.roomId ∨ ∃ other, Waiting state other ∧ other.joining ptr uid
  left : ∀ {task : Task} {uid : Uid} {ptr : RoomPtr} {member : Membership}, Waiting state task →
    task.leaving ptr uid → state.core.members[ptr]? = some member →
    uid ∉ member.users ∧ state.core.manager.userRooms[uid]? = some member.roomId

section Ran

variable {state : State} {thread : Thread} {choice : Choice} {task : Task} {before later : Pool Thread Task}
  {effect : Effect} {item : Task} {ptr : RoomPtr} {member : Membership} {uid : Uid}

/-- The strand task of a join or leave that finds its room open finds it registered. -/
theorem Undisputed.registered (holds : Undisputed state) (orderly : Orderly state) (succession : Succession state)
    (split : state.pool = before ++ (thread, task) :: later) (quiet : Pool.idle before thread) (heavy : ¬ task.light)
    (relies : task.relies = some ptr) (found : state.core.members[ptr]? = some member)
    (isOpen : member.lifecycle = .kOpen) : state.core.manager.rooms[member.roomId]? = some ptr := by
  rcases holds.relied ((waiting_split split task).mpr (.inl rfl)) relies found with known | ⟨-, closed | waits⟩
  · exact known
  · exact absurd isOpen closed
  · obtain ⟨request, waits⟩ := waits
    rcases (waiting_split split _).mp waits with rfl | still
    · cases relies
    · exact absurd trivial (succession.alone orderly split quiet heavy (relies_home relies) still rfl)

theorem Undisputed.relied_new (holds : Undisputed state) (orderly : Orderly state) (succession : Succession state)
    (enlisted : Enlisted state) (split : state.pool = before ++ (thread, task) :: later)
    (quiet : Pool.idle before thread) (executed : Executed choice state.core task effect) (new : item ∈ items effect)
    (relies : item.relies = some ptr) (found : effect.core.members[ptr]? = some member) :
    effect.core.manager.rooms[member.roomId]? = some ptr := by
  have touch := touch_of_executed executed
  -- The look-up has just found the room under its id.
  have lookedUp : ∀ {roomId : RoomId}, state.core.manager.rooms[roomId]? = some ptr →
      effect.core.manager = state.core.manager ∧ effect.core.members = state.core.members →
      effect.core.manager.rooms[member.roomId]? = some ptr := by
    intro roomId known same
    obtain ⟨old, stored, rfl⟩ := enlisted.member known
    rw [same.2, stored] at found
    cases found
    rw [same.1]
    exact known
  -- The strand task has found it open.
  have started : ∀ {old new : Membership}, state.core.members[ptr]? = some old → old.lifecycle = .kOpen →
      task.relies = some ptr → ¬ task.light → effect.core.manager = state.core.manager →
      effect.core.members = state.core.members.set ptr new → new.roomId = old.roomId →
      effect.core.manager.rooms[member.roomId]? = some ptr := by
    intro old new stored isOpen relies heavy manager members identity
    rw [members, List.getElem?_set_self (List.getElem?_eq_some_iff.mp stored).1] at found
    cases found
    rw [manager, identity]
    exact holds.registered orderly succession split quiet heavy relies stored isOpen
  cases item with
  | handle request next =>
    rcases follows_of_executed executed new with ⟨stage, rfl, follows⟩ | ⟨message, _, _, rfl, known⟩
    · cases follows with
      | finds known | locates known =>
        cases relies
        exact lookedUp known (manager_of_lookup touch rfl (by simp))
      | enters =>
        cases relies
        cases touch with
        | same _ _ _ plain => exact absurd trivial (plain _ new).1
        | close _ closes => cases closes
        | enter old queued stored isOpen manager members =>
          exact started stored isOpen rfl id manager members rfl
      | exits =>
        cases relies
        cases touch with
        | same _ _ _ plain => exact absurd trivial (plain _ new).1
        | close _ closes => cases closes
        | exit old stored isOpen manager members =>
          exact started stored isOpen rfl id manager members rfl
      | completes | aborts | sends | creates | announces | welcomes | resolves | departs | empties | closes =>
        cases relies
    · cases message <;> cases known <;> cases relies
  | onRecv | findForward | onRecvMessage | sendToUserImpl | kickOutUserImpl | onKickedOutUser | sendNotification
  | close => cases relies

theorem Undisputed.relied_still (holds : Undisputed state) (orderly : Orderly state) (succession : Succession state)
    (split : state.pool = before ++ (thread, task) :: later) (quiet : Pool.idle before thread)
    (executed : Executed choice state.core task effect)
    (unreplaced : ∀ roomId, draws choice state.core task = some roomId → state.core.manager.rooms[roomId]? ≠ some ptr)
    (still : ∃ owner, (owner, item) ∈ before ++ later) (relies : item.relies = some ptr)
    (found : effect.core.members[ptr]? = some member) :
    effect.core.manager.rooms[member.roomId]? = some ptr ∨ ¬ item.commits ∧ (member.lifecycle ≠ .kOpen ∨
      ∃ request, Waiting (ranState thread before later effect)
        (.handle request (.closeImpl ptr))) := by
  have touch := touch_of_executed executed
  have home := relies_home relies
  obtain ⟨old, stored, -⟩ := orderly.located _ (mem_of_rest split still.choose_spec) ptr home
  obtain ⟨after, now, remains⟩ := touch_room touch stored
  obtain rfl := Option.some.inj (found.symm.trans now)
  rw [remains.identity]
  rcases holds.relied ((waiting_split split item).mpr (.inr still)) relies stored with known | ⟨early, shut⟩
  · rcases registered_of_touch touch known with same | drawn | ⟨request, rfl, new⟩
    · exact .inl same
    · exact absurd known (unreplaced _ drawn)
    · -- The room is being closed: what has already changed it is no longer waiting.
      have unstarted : ¬ item.commits := fun commits =>
        succession.alone orderly split quiet id rfl still home (commits_trailing commits)
      exact .inr ⟨unstarted, .inr ⟨request, (waiting_ran _).mpr (.inl new)⟩⟩
  · refine .inr ⟨early, ?_⟩
    rcases shut with closed | ⟨request, waits⟩
    · exact .inl fun isOpen => closed (remains.life isOpen)
    · rcases (waiting_split split _).mp waits with rfl | still
      · left
        intro isOpen
        rw [members_get] at found
        obtain ⟨room, place, rfl⟩ := Option.map_eq_some_iff.mp found
        rcases heap_of_executed executed place with ⟨fresh, -⟩ | ⟨room', -, evolved⟩
        · have bound := (List.getElem?_eq_some_iff.mp stored).1
          simp [fresh] at bound
        · exact (open_of_evolved evolved isOpen).1 rfl
      · exact .inr ⟨request, (waiting_ran _).mpr (.inr still)⟩

theorem Undisputed.mapped_new (holds : Undisputed state) (enlisted : Enlisted state)
    (split : state.pool = before ++ (thread, task) :: later) (executed : Executed choice state.core task effect)
    (new : item ∈ items effect) (wants : item.wants uid ptr member.roomId)
    (registered : effect.core.manager.rooms[member.roomId]? = some ptr)
    (found : effect.core.members[ptr]? = some member) (present : uid ∈ member.users) :
    effect.core.manager.userRooms[uid]? = some member.roomId ∨
      ∃ other, (∃ owner, (owner, other) ∈ before ++ later) ∧ other.joining ptr uid := by
  have touch := touch_of_executed executed
  cases item with
  | handle request next =>
    rcases follows_of_executed executed new with ⟨stage, rfl, follows⟩ | ⟨message, _, _, rfl, known⟩
    · cases follows with
      | resolves indexed =>
        obtain ⟨rfl, rfl⟩ := wants
        rw [(manager_of_lookup touch rfl (by simp)).1]
        exact .inl indexed
      | locates known =>
        obtain ⟨rfl, rfl⟩ := wants
        obtain ⟨manager, members⟩ := manager_of_lookup touch rfl (by simp)
        rw [manager] at registered ⊢
        rw [members] at found
        obtain ⟨old, stored, identity⟩ := enlisted.member known
        obtain rfl := Option.some.inj (found.symm.trans stored)
        have waits := (waiting_split split _).mpr (.inl rfl)
        rcases holds.mapped waits ⟨rfl, identity.symm⟩ registered found present with mapped | ⟨other, waits, joining⟩
        · exact .inl mapped
        · rcases (waiting_split split other).mp waits with rfl | still
          · cases joining
          · exact .inr ⟨other, still, joining⟩
      | completes | aborts | sends | creates | announces | finds | enters | welcomes | exits | departs | empties
      | closes => cases wants
    · cases message <;> cases known <;> cases wants
  | onRecv | findForward | onRecvMessage | sendToUserImpl | kickOutUserImpl | onKickedOutUser | sendNotification
  | close => cases wants

theorem Undisputed.mapped_still (holds : Undisputed state) (enlisted : Enlisted state)
    (split : state.pool = before ++ (thread, task) :: later) (executed : Executed choice state.core task effect)
    (faithful : ∀ uid roomId, maps choice state.core task = some (uid, roomId) → ∀ old,
      item.departure state.core.members = some (uid, old) → old = roomId)
    (still : ∃ owner, (owner, item) ∈ before ++ later) (wants : item.wants uid ptr member.roomId)
    (registered : effect.core.manager.rooms[member.roomId]? = some ptr)
    (found : effect.core.members[ptr]? = some member) (present : uid ∈ member.users) :
    effect.core.manager.userRooms[uid]? = some member.roomId ∨
      ∃ other, Waiting (ranState thread before later effect) other ∧
        other.joining ptr uid := by
  have touch := touch_of_executed executed
  by_cases bound : ptr < state.core.heap.length
  · have known := registered_before touch bound registered
    obtain ⟨old, stored, identity⟩ := enlisted.member known
    rw [← identity] at wants known registered ⊢
    rcases present_of_touch touch stored found present with before | ⟨new, mem, joining⟩
    · rcases holds.mapped ((waiting_split split item).mpr (.inr still)) wants known stored before with
        mapped | ⟨other, waits, joining⟩
      · left
        cases mapping_of_touch touch uid with
        | kept same => rw [same, mapped]
        | moved move now => rw [now, faithful uid _ move _ (wants_departure wants stored)]
        | dropped place listed was heavy home cause =>
          rw [mapped] at was
          rw [← Option.some.inj was] at listed cause
          obtain rfl := Option.some.inj (listed.symm.trans known)
          rcases cause with leaving | unregistered
          · exact absurd before (holds.left ((waiting_split split task).mpr (.inl rfl)) leaving stored).1
          · cases unregistered.symm.trans registered
      · rcases (waiting_split split other).mp waits with rfl | still
        · exact .inl (mapped_of_joining touch joining stored known)
        · exact .inr ⟨other, (waiting_ran other).mpr (.inr still), joining⟩
    · exact .inr ⟨new, (waiting_ran new).mpr (.inl mem), joining⟩
  · obtain ⟨owner, only, mapped⟩ := created_of_touch touch (by simpa using bound) found
    exact .inl ((only uid).mp present ▸ mapped)

theorem Undisputed.left_new (holds : Undisputed state) (orderly : Orderly state) (succession : Succession state)
    (split : state.pool = before ++ (thread, task) :: later) (quiet : Pool.idle before thread)
    (executed : Executed choice state.core task effect) (new : item ∈ items effect) (leaving : item.leaving ptr uid)
    (found : effect.core.members[ptr]? = some member) :
    uid ∉ member.users ∧ effect.core.manager.userRooms[uid]? = some member.roomId := by
  have touch := touch_of_executed executed
  cases item with
  | handle request next =>
    rcases follows_of_executed executed new with ⟨stage, rfl, follows⟩ | ⟨message, _, _, rfl, known⟩
    · cases follows with
      | exits place isOpen present =>
        obtain ⟨rfl, rfl⟩ := leaving
        have registered := holds.registered orderly succession split quiet id rfl place isOpen
        cases touch with
        | same _ _ _ plain => exact absurd trivial (plain _ new).1
        | close _ closes => cases closes
        | exit old stored _ manager members =>
          cases place.symm.trans stored
          rw [members, List.getElem?_set_self (List.getElem?_eq_some_iff.mp stored).1] at found
          cases found
          refine ⟨by simp, ?_⟩
          rw [manager]
          have waits := (waiting_split split _).mpr (.inl rfl)
          rcases holds.mapped waits ⟨rfl, rfl⟩ registered stored present with mapped | ⟨other, waits, joining⟩
          · exact mapped
          · -- A join recorded only later would be in front of this leave.
            obtain ⟨commits, home⟩ := Task.joining_commits joining
            rcases (waiting_split split other).mp waits with rfl | still
            · cases joining
            · exact absurd (commits_trailing commits) (succession.alone orderly split quiet id rfl still home)
      | completes | aborts | sends | creates | announces | finds | enters | welcomes | resolves | locates | departs
      | empties | closes => cases leaving
    · cases message <;> cases known <;> cases leaving
  | onRecv | findForward | onRecvMessage | sendToUserImpl | kickOutUserImpl | onKickedOutUser | sendNotification
  | close => cases leaving

theorem Undisputed.left_still (holds : Undisputed state) (orderly : Orderly state) (succession : Succession state)
    (split : state.pool = before ++ (thread, task) :: later) (quiet : Pool.idle before thread)
    (executed : Executed choice state.core task effect)
    (faithful : ∀ uid roomId, maps choice state.core task = some (uid, roomId) → ∀ old,
      item.departure state.core.members = some (uid, old) → old = roomId)
    (still : ∃ owner, (owner, item) ∈ before ++ later) (leaving : item.leaving ptr uid)
    (found : effect.core.members[ptr]? = some member) :
    uid ∉ member.users ∧ effect.core.manager.userRooms[uid]? = some member.roomId := by
  have touch := touch_of_executed executed
  have waits := (waiting_split split item).mpr (.inr still)
  obtain ⟨commits, home⟩ := Task.leaving_commits leaving
  obtain ⟨old, stored, -⟩ := orderly.located _ (mem_of_rest split still.choose_spec) ptr home
  obtain ⟨departure, relies⟩ := leaving_departure leaving stored
  obtain ⟨absent, mapped⟩ := holds.left waits leaving stored
  obtain ⟨after, now, remains⟩ := touch_room touch stored
  obtain rfl := Option.some.inj (found.symm.trans now)
  -- Only the items of this leave are underway in the room.
  have alone : ¬ task.light → task.home ≠ some ptr := fun heavy here =>
    succession.alone orderly split quiet heavy here still home (commits_trailing commits)
  constructor
  · intro present
    rcases remains.users uid present with before | ⟨request, response, rfl⟩
    · exact absent before
    · exact alone id rfl
  · rw [remains.identity]
    cases mapping_of_touch touch uid with
    | kept same => rw [same, mapped]
    | moved move now => rw [now, faithful uid _ move _ departure]
    | dropped place listed was heavy here cause =>
      rcases holds.relied waits relies stored with known | ⟨early, -⟩
      · rw [mapped] at was
        rw [← Option.some.inj was] at listed
        obtain rfl := Option.some.inj (listed.symm.trans known)
        exact absurd here (alone heavy)
      · exact absurd commits early

end Ran

theorem handle_unran {state after : State} {label : Label} (stepped : Stepped state label after)
    (external : ∀ thread choice, label ≠ .run thread choice) {request : Admitted} {stage : Stage} :
    Waiting after (.handle request stage) ↔ Waiting state (.handle request stage) := by
  obtain ⟨-, same⟩ := work_unran stepped external
  constructor
  · intro waits
    exact (mem_work.mp (same request.ticket ▸ mem_work.mpr ⟨waits, rfl⟩)).1
  · intro waits
    have mem := mem_work.mpr ⟨waits, rfl⟩
    rw [← same request.ticket] at mem
    exact (mem_work.mp mem).1

theorem undisputed_unran {state after : State} {label : Label} (holds : Undisputed state)
    (stepped : Stepped state label after) (external : ∀ thread choice, label ≠ .run thread choice)
    (manager : after.core.manager = state.core.manager) (members : after.core.members = state.core.members) :
    Undisputed after := by
  constructor
  case relied =>
    intro task ptr member waits relies found
    rw [members] at found
    rw [manager]
    cases task with
    | handle request stage =>
      apply Or.imp_right _ (holds.relied ((handle_unran stepped external).mp waits) relies found)
      rintro ⟨early, closed | ⟨other, closing⟩⟩
      · exact ⟨early, .inl closed⟩
      · exact ⟨early, .inr ⟨other, (handle_unran stepped external).mpr closing⟩⟩
    | onRecv | findForward | onRecvMessage | sendToUserImpl | kickOutUserImpl | onKickedOutUser | sendNotification
    | close => cases relies
  case mapped =>
    intro task uid ptr member waits wants registered found present
    rw [members] at found
    rw [manager] at registered ⊢
    cases task with
    | handle request stage =>
      apply Or.imp_right _
        (holds.mapped ((handle_unran stepped external).mp waits) wants registered found present)
      rintro ⟨other, waits, joining⟩
      cases other with
      | handle other stage => exact ⟨_, (handle_unran stepped external).mpr waits, joining⟩
      | onRecv | findForward | onRecvMessage | sendToUserImpl | kickOutUserImpl | onKickedOutUser | sendNotification
      | close => cases joining
    | onRecv | findForward | onRecvMessage | sendToUserImpl | kickOutUserImpl | onKickedOutUser | sendNotification
    | close => cases wants
  case left =>
    intro task uid ptr member waits leaving found
    rw [members] at found
    rw [manager]
    cases task with
    | handle request stage => exact holds.left ((handle_unran stepped external).mp waits) leaving found
    | onRecv | findForward | onRecvMessage | sendToUserImpl | kickOutUserImpl | onKickedOutUser | sendNotification
    | close => cases leaving

theorem undisputed_stopped {state : State} (running : state.core.manager.stopping = false)
    (idle : ∀ entry ∈ state.pool, entry.2.relies = none) : Undisputed (shutdown state) := by
  have none : ∀ {task}, Waiting (shutdown state) task → task.relies = .none := by
    rintro task ⟨owner, waits⟩
    cases task with
    | handle request stage =>
      obtain ⟨thread, mem⟩ := (handle_unran (.stopped running) (by simp)).mp ⟨owner, waits⟩
      exact idle _ mem
    | onRecv | findForward | onRecvMessage | sendToUserImpl | kickOutUserImpl | onKickedOutUser | sendNotification
    | close => rfl
  constructor
  case relied =>
    intro task ptr member waits relies found
    cases relies.symm.trans (none waits)
  case mapped =>
    intro task uid ptr member waits wants registered
    simp [shutdown, RoomManager.shutdown] at registered
  case left =>
    intro task uid ptr member waits leaving found
    cases (leaving_departure leaving found).2.symm.trans (none waits)

theorem undisputed_step {state after : State} {label : Label} (orderly : Orderly state) (succession : Succession state)
    (enlisted : Enlisted state) (holds : Undisputed state) (moved : step state label = some after)
    (steady : Steady ⟨state, label, after⟩) : Undisputed after := by
  have stepped := stepped_of_step moved
  cases stepped with
  | delivered quiet => exact undisputed_unran holds (.delivered quiet) (by simp) rfl rfl
  | called found contents => exact undisputed_unran holds (.called found contents) (by simp) rfl rfl
  | stopped running => exact undisputed_stopped running (steady.1 rfl)
  | @ran thread choice task before later effect split quiet executed =>
    have safe := steady.2 (choice, task) (executed_ran choice _ split quiet)
    have unreplaced : ∀ {item : Task} {ptr : RoomPtr}, (∃ owner, (owner, item) ∈ before ++ later) →
        item.relies = some ptr → ∀ roomId, draws choice state.core task = some roomId →
        state.core.manager.rooms[roomId]? ≠ some ptr := by
      rintro item ptr ⟨owner, mem⟩ relies roomId drawn
      exact (safe _ (mem_of_rest split mem)).1 roomId drawn ptr relies
    have faithful : ∀ {item : Task}, (∃ owner, (owner, item) ∈ before ++ later) →
        ∀ uid roomId, maps choice state.core task = some (uid, roomId) → ∀ old,
          item.departure state.core.members = some (uid, old) → old = roomId := by
      rintro item ⟨owner, mem⟩ uid roomId mapped old departure
      exact (safe _ (mem_of_rest split mem)).2 (uid, roomId) mapped (uid, old) departure rfl
    constructor
    case relied =>
      intro item ptr member waits relies found
      rcases (waiting_ran item).mp waits with new | still
      · exact .inl (holds.relied_new orderly succession enlisted split quiet executed new relies found)
      · exact holds.relied_still orderly succession split quiet executed (unreplaced still relies) still relies found
    case mapped =>
      intro item uid ptr member waits wants registered found present
      rcases (waiting_ran item).mp waits with new | still
      · apply Or.imp_right _ (holds.mapped_new enlisted split executed new wants registered found present)
        rintro ⟨other, still, joining⟩
        exact ⟨other, (waiting_ran other).mpr (.inr still), joining⟩
      · exact holds.mapped_still enlisted split executed (faithful still) still wants registered found present
    case left =>
      intro item uid ptr member waits leaving found
      rcases (waiting_ran item).mp waits with new | still
      · exact holds.left_new orderly succession split quiet executed new leaving found
      · exact holds.left_still orderly succession split quiet executed (faithful still) still leaving found

theorem undisputed_reached {history : History} {state : State} (run : Reaches history state)
    (steady : ∀ move ∈ history, Steady move) : Undisputed state := by
  apply run.history fun _ state => Undisputed state
  · constructor <;> rintro task <;> intros <;> simp_all [Waiting, initial]
  · intro past move reached holds moved mem
    exact undisputed_step (orderly_reached reached) (succession_reached reached) (enlisted_reached reached) holds moved
      (steady move mem)

end Rsp.RoomServer
