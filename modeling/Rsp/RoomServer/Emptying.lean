import Rsp.RoomServer.Replies

/-! The end of an emptied room.

The leave that takes out the last member goes on to unregister and close the room, in
front of everything else queued on its strand. `Winding` follows it. Between `users_` and
`close_room` the room is still registered; a shutdown or a room created under its id there
takes it out of the index first, and then nothing closes it in time.
-/

set_option autoImplicit false

namespace Rsp.RoomServer

open Message Foundation

/-! ## The leave of the last member -/

def Task.winds (ptr : RoomPtr) (uid : Uid) : Task → Prop
  | .handle _ (.leftRoom room user empty _) => room = ptr ∧ user = uid ∧ empty = true
  | .handle _ (.onUserExit room user empty) => room = ptr ∧ user = uid ∧ empty = true
  | .handle _ (.onEmpty room) => room = ptr
  | _ => False

def Task.emptying : Task → Option RoomPtr
  | .handle _ (.leftRoom room _ empty _) => if empty then some room else none
  | .handle _ (.onUserExit room _ empty) => if empty then some room else none
  | .handle _ (.onEmpty room) => some room
  | _ => none

theorem winds_emptying {task : Task} {ptr : RoomPtr} {uid : Uid} (winds : task.winds ptr uid) :
    task.emptying = some ptr ∧ task.trailing ∧ task.home = some ptr ∧ ¬ task.light := by
  unfold Task.winds at winds
  split at winds <;> simp_all [Task.emptying, Task.trailing, Task.home, Task.light]

theorem winds_ends {task : Task} {ptr : RoomPtr} {uid : Uid} (winds : task.winds ptr uid) (ends : task.ends ptr) :
    ∃ request, task = .handle request (.onEmpty ptr) := by
  unfold Task.winds at winds
  split at winds
  · cases ends
  · cases ends
  · cases winds
    exact ⟨_, rfl⟩
  · cases winds

/-- No room whose last member is leaving is unregistered by a shutdown or replaced by a created room. -/
def LetsClose (move : Transition State Label) : Prop :=
  (move.label = .shutdown → ∀ entry ∈ move.before.pool, entry.2.emptying = none) ∧
  ∀ found ∈ executed move, ∀ roomId ∈ draws found.1 move.before.core found.2, ∀ entry ∈ move.before.pool,
    ∀ ptr ∈ entry.2.emptying, move.before.core.manager.rooms[roomId]? ≠ some ptr

instance (move : Transition State Label) : Decidable (LetsClose move) := by
  unfold LetsClose
  infer_instance

section Step

variable {choice : Choice} {core : Core} {task : Task} {effect : Effect} {ptr : RoomPtr} {uid : Uid}

/-- Such an item leaves another one, until `close_room` has found the room registered or not. -/
theorem winds_onward (executed : Executed choice core task effect) (winds : task.winds ptr uid) :
    (∃ item ∈ items effect, item.winds ptr uid) ∨ ∃ request, task = .handle request (.onEmpty ptr) := by
  cases executed with
  | @staged request stage _ ran =>
    cases ran with
    | @left room user empty response found =>
      obtain ⟨rfl, rfl, rfl⟩ := winds
      exact .inl ⟨.handle request (.onUserExit room user true), by simp [items], rfl, rfl, rfl⟩
    | @exitNotified room user empty after called =>
      obtain ⟨rfl, rfl, rfl⟩ := winds
      exact .inl ⟨.handle request (.onEmpty room), by simp [items], rfl⟩
    | emptied | emptyStale =>
      cases winds
      exact .inr ⟨request, rfl⟩
    | createLate | createStopping | created | contentsThrown | contentsCreated | createNotified | joinUnknown | joinFound
    | joinLate | joinClosed | joinEntered | joined | enterNotified | leaveUnindexed | leaveIndexed | leaveUnknown
    | leaveFound | leaveLate | leaveRefused | leaveExited | closed | completed | sent | aborted => cases winds
  | received | forwardStale | forwardFound | forwarded | broadcast | kickAbsent | kickPresent | kicked | notified
  | closed => cases winds

/-- `close_room` leaves the room unregistered, and closes it if it was registered. -/
theorem unregistered_of_onEmpty {request : Admitted} {member : Membership}
    (executed : Executed choice core (.handle request (.onEmpty ptr)) effect)
    (found : core.members[ptr]? = some member) :
    effect.core.manager.rooms[member.roomId]? ≠ some ptr ∧
      (core.manager.rooms[member.roomId]? = some ptr → .handle request (.closeImpl ptr) ∈ items effect) := by
  cases executed with
  | staged ran =>
    cases ran with
    | @emptied _ room stored registered =>
      cases found.symm.trans (found_membership stored)
      exact ⟨by simp [Room.membership], fun _ => by simp [items]⟩
    | @emptyStale _ room stored stale =>
      cases found.symm.trans (found_membership stored)
      exact ⟨stale, fun registered => absurd registered stale⟩

theorem occupied_of_executed (executed : Executed choice core task effect) {old member : Membership}
    (stored : core.members[ptr]? = some old) (found : effect.core.members[ptr]? = some member)
    (present : uid ∈ old.users) (stays : ∀ user reason, task ≠ .onKickedOutUser ptr user reason) :
    (∃ other, other ∈ member.users) ∨ ∃ item ∈ items effect, ∃ user, item.winds ptr user := by
  have kept : effect.core.members[ptr]? = some old → ∃ other, other ∈ member.users := by
    intro same
    cases found.symm.trans same
    exact ⟨uid, present⟩
  -- Of the items that change a room, only those of the same room matter.
  have updated : ∀ {target : RoomPtr} {old' new : Membership}, core.members[target]? = some old' →
      effect.core.members = core.members.set target new →
      (∃ other, other ∈ member.users) ∨ target = ptr ∧ old' = old ∧ new = member := by
    intro target old' new place members
    rw [members, heap_get_set place] at found
    split at found
    · next same =>
      subst same
      cases found
      exact .inr ⟨rfl, Option.some.inj (place.symm.trans stored), rfl⟩
    · cases found.symm.trans stored
      exact .inl ⟨uid, present⟩
  cases touch_of_executed executed with
  | same _ _ members | index _ _ _ _ members | indexStale _ _ _ _ members | unindex _ _ _ _ _ members
  | unindexStale _ _ _ _ members | unregister _ _ _ _ members => exact .inl (kept (by rw [members, stored]))
  | create _ _ _ _ members => exact .inl (kept (by rw [members, heap_get_append stored]))
  | enter _ _ place _ _ members =>
    rcases updated place members with some | ⟨rfl, rfl, rfl⟩
    · exact .inl some
    · exact .inl ⟨uid, Std.ExtTreeMap.mem_insert.mpr (.inr present)⟩
  | close _ _ place _ members =>
    rcases updated place members with some | ⟨rfl, rfl, rfl⟩
    · exact .inl some
    · exact .inl ⟨uid, present⟩
  | kick _ place _ members =>
    rcases updated place members with some | ⟨rfl, -⟩
    · exact .inl some
    · exact absurd rfl (stays _ _)
  | @exit request target user response _ empty current place _ _ members next =>
    rcases updated place members with some | ⟨rfl, rfl, rfl⟩
    · exact .inl some
    · have new : .handle request (.leftRoom target user empty response) ∈ items effect := by simp [items, next]
      rcases follows_of_executed executed new with ⟨stage, same, follows⟩ | ⟨_, _, _, other, -⟩
      · cases same
        cases follows with
        | exits place' =>
          obtain rfl := Option.some.inj (place.symm.trans place')
          by_cases none : (current.users.erase user).isEmpty = true
          · exact .inr ⟨_, new, user, rfl, rfl, none⟩
          · left
            by_contra nobody
            rw [not_exists] at nobody
            exact none (Std.ExtTreeMap.isEmpty_iff.mpr (Std.ExtTreeMap.eq_empty_iff_forall_not_mem.mpr nobody))
      · cases other

end Step

/-! ## Registered rooms have members -/

def Occupied (state : State) : Prop :=
  ∀ (roomId : RoomId) (ptr : RoomPtr), state.core.manager.rooms[roomId]? = some ptr →
    ∃ member, state.core.members[ptr]? = some member ∧
      ((∃ uid, uid ∈ member.users) ∨ ∃ task uid, Waiting state task ∧ task.winds ptr uid)

theorem occupied_step {state after : State} {label : Label} (enlisted : Enlisted state) (occupied : Occupied state)
    (moved : step state label = some after) (after' : Enlisted after) (stays : ¬ KicksOut ⟨state, label, after⟩) :
    Occupied after := by
  have external : (∀ thread choice, label ≠ .run thread choice) → after.core.manager = state.core.manager →
      after.core.members = state.core.members → Occupied after := by
    intro external manager members roomId ptr known
    rw [manager] at known
    rw [members]
    obtain ⟨member, found, some | ⟨task, uid, waits, winds⟩⟩ := occupied roomId ptr known
    · exact ⟨member, found, .inl some⟩
    · refine ⟨member, found, .inr ⟨task, uid, ?_, winds⟩⟩
      cases task with
      | handle request stage => exact (handle_unran (stepped_of_step moved) external).mpr waits
      | onRecv | findForward | onRecvMessage | sendToUserImpl | kickOutUserImpl | onKickedOutUser | sendNotification
      | close => cases winds
  cases stepped_of_step moved with
  | delivered | called => exact external (by simp) rfl rfl
  | stopped running => simp [Occupied, shutdown, RoomManager.shutdown]
  | @ran thread choice task before later effect split quiet executed =>
    have touch := touch_of_executed executed
    have runs := executed_ran choice (ranState thread before later effect) split quiet
    intro roomId ptr known
    obtain ⟨member, found, identity⟩ := after'.member known
    refine ⟨member, found, ?_⟩
    by_cases bound : ptr < state.core.heap.length
    · have registered := registered_before touch bound known
      obtain ⟨old, stored, some | ⟨item, uid, waits, winds⟩⟩ := occupied roomId ptr registered
      · obtain ⟨uid, present⟩ := some
        have unkicked : ∀ user reason, task ≠ .onKickedOutUser ptr user reason := by
          rintro user reason rfl
          exact stays (by rw [KicksOut, runs]; trivial)
        apply Or.imp_right _ (occupied_of_executed executed stored found present unkicked)
        rintro ⟨item, new, user, winds⟩
        exact ⟨item, user, (waiting_ran item).mpr (.inl new), winds⟩
      · right
        rcases (waiting_split split item).mp waits with rfl | still
        · rcases winds_onward executed winds with ⟨next, new, winds⟩ | ⟨request, rfl⟩
          · exact ⟨next, uid, (waiting_ran next).mpr (.inl new), winds⟩
          · -- `close_room` has just unregistered the room
            obtain ⟨old', stored', rfl⟩ := enlisted.member registered
            exact absurd known (unregistered_of_onEmpty executed stored').1
        · exact ⟨item, uid, (waiting_ran item).mpr (.inr still), winds⟩
    · obtain ⟨owner, only, -⟩ := created_of_touch touch (by simpa using bound) found
      exact .inl ⟨owner, (only owner).mpr rfl⟩

theorem occupied_reached {history : History} {state : State} (run : Reaches history state)
    (stays : ∀ move ∈ history, ¬ KicksOut move) : Occupied state := by
  apply run.history fun _ state => Occupied state
  · simp [Occupied, initial]
  · intro past move reached occupied moved mem
    exact occupied_step (enlisted_reached reached) occupied moved (enlisted_reached (.next reached moved))
      (stays move mem)

/-! ## The course of the end -/

/-- How far the end of a room has come since its last member left; `calls` is what its contents
had been told by then. -/
inductive Winding (ptr : RoomPtr) (uid : Uid) (calls : List Callback) (state : State) : Prop where
  | underway {task : Task} {host : Host} {more : List Callback} (waits : Waiting state task)
      (winds : task.winds ptr uid) (found : state.core.hosts[ptr]? = some host)
      (registered : state.core.manager.rooms[host.roomId]? = some ptr) (told : host.callbacks = calls ++ more)
      (exited : task.ends ptr → .onUserExit uid ∈ more ∧ host.contents = true)
  | closing {request : Admitted} {host : Host} {more : List Callback}
      (waits : Waiting state (.handle request (.closeImpl ptr))) (found : state.core.hosts[ptr]? = some host)
      (isOpen : host.lifecycle = .kOpen) (contents : host.contents = true)
      (unregistered : ∀ roomId : RoomId, state.core.manager.rooms[roomId]? ≠ some ptr)
      (told : host.callbacks = calls ++ more) (exited : .onUserExit uid ∈ more)
  | closed {host : Host} {more : List Callback} (found : state.core.hosts[ptr]? = some host)
      (ended : host.lifecycle = .kClosed)
      (unregistered : ∀ roomId : RoomId, state.core.manager.rooms[roomId]? ≠ some ptr)
      (told : host.callbacks = calls ++ more) (exited : [.onUserExit uid, .onDestroyRoom].Sublist more)

theorem turn_kept {task : Task} {ptr : RoomPtr} {host after : Host} (turn : Turn task ptr host after)
    (keeps : ¬ task.closes ptr) :
    after.roomId = host.roomId ∧ after.lifecycle = host.lifecycle ∧ (host.contents = true → after.contents = true) ∧
      ∃ more, after.callbacks = host.callbacks ++ more := by
  cases turn with
  | same => exact ⟨rfl, rfl, id, [], by simp⟩
  | equipped equips => exact ⟨rfl, rfl, fun _ => rfl, [], by simp⟩
  | called call contents => exact ⟨rfl, rfl, id, [call], rfl⟩
  | closed closes => exact absurd closes keeps

theorem closed_of_closes {choice : Choice} {core : Core} {task : Task} {effect : Effect} {ptr : RoomPtr}
    {host after : Host} (executed : Executed choice core task effect) (closes : task.closes ptr)
    (found : core.hosts[ptr]? = some host) (stored : effect.core.hosts[ptr]? = some after) :
    after = host.closeImpl := by
  rw [hosts_get] at found stored
  obtain ⟨room, place, rfl⟩ := Option.map_eq_some_iff.mp found
  obtain ⟨new, now, rfl⟩ := Option.map_eq_some_iff.mp stored
  rcases heap_of_executed executed now with ⟨fresh, -⟩ | ⟨old, same, evolved⟩
  · exact absurd (heap_bound place) (Nat.not_lt.mpr (Nat.le_of_eq fresh.symm))
  · cases place.symm.trans same
    rw [evolved.close closes, host_closeImpl]

theorem callback_host {core after : Core} {ptr : RoomPtr} {call : Callback} {host : Host}
    (called : core.callback ptr call = some after) (found : core.hosts[ptr]? = some host) :
    host.contents = true ∧ after.hosts[ptr]? = some { host with callbacks := host.callbacks ++ [call] } := by
  simp only [Core.callback, Room.callback, Option.bind_eq_bind, Option.pure_def, Option.bind_eq_some_iff] at called
  obtain ⟨room, stored, new, ready, same⟩ := called
  cases found.symm.trans (found_host stored)
  split at ready
  · next contents =>
    cases ready
    cases same
    refine ⟨contents, ?_⟩
    rw [hosts_setRoom, List.getElem?_set_self (List.getElem?_eq_some_iff.mp (found_host stored)).1]
    rfl
  · cases ready

/-- The call of `on_user_exit` is in the list once the item that makes it has run. -/
theorem exited_of_executed {choice : Choice} {core : Core} {task item : Task} {effect : Effect} {ptr : RoomPtr}
    {uid : Uid} {host after : Host} (executed : Executed choice core task effect) (winds : task.winds ptr uid)
    (new : item ∈ items effect) (ends : item.ends ptr) (still : ¬ task.ends ptr)
    (found : core.hosts[ptr]? = some host) (stored : effect.core.hosts[ptr]? = some after) :
    after.contents = true ∧ after.callbacks = host.callbacks ++ [.onUserExit uid] := by
  cases executed with
  | staged ran =>
    cases ran with
    | left =>
      simp [items] at new
      rcases new with rfl | rfl <;> cases ends
    | @exitNotified room user empty core' called =>
      obtain ⟨rfl, rfl, rfl⟩ := winds
      obtain ⟨contents, now⟩ := callback_host called found
      cases stored.symm.trans now
      exact ⟨contents, rfl⟩
    | emptied | emptyStale => exact absurd winds still
    | createLate | createStopping | created | contentsThrown | contentsCreated | createNotified | joinUnknown | joinFound
    | joinLate | joinClosed | joinEntered | joined | enterNotified | leaveUnindexed | leaveIndexed | leaveUnknown
    | leaveFound | leaveLate | leaveRefused | leaveExited | closed | completed | sent | aborted => cases winds
  | received | forwardStale | forwardFound | forwarded | broadcast | kickAbsent | kickPresent | kicked | notified
  | closed => cases winds

section Ran

variable {state : State} {thread : Thread} {choice : Choice} {task : Task} {before later : Pool Thread Task}
  {effect : Effect} {ptr : RoomPtr} {uid : Uid} {calls more : List Callback} {host : Host}

theorem winding_underway (orderly : Orderly state) (succession : Succession state) (enlisted : Enlisted state)
    (split : state.pool = before ++ (thread, task) :: later) (quiet : Pool.idle before thread)
    (executed : Executed choice state.core task effect) {item : Task} (waits : Waiting state item)
    (winds : item.winds ptr uid) (found : state.core.hosts[ptr]? = some host)
    (registered : state.core.manager.rooms[host.roomId]? = some ptr) (told : host.callbacks = calls ++ more)
    (exited : item.ends ptr → .onUserExit uid ∈ more ∧ host.contents = true)
    (unreplaced : draws choice state.core task ≠ some host.roomId) :
    Winding ptr uid calls (ranState thread before later effect) := by
  have touch := touch_of_executed executed
  have waiting : Waiting state task := (waiting_split split task).mpr (.inl rfl)
  obtain ⟨⟨known, place, identity, isOpen⟩, unclosed⟩ := enlisted _ _ registered
  obtain rfl := Option.some.inj (found.symm.trans place)
  have keeps := unclosed task waiting
  obtain ⟨after, stored, turn⟩ := turn_of_hosted (hosted_of_executed executed) found
  obtain ⟨sameId, sameLife, equipped, added, calls'⟩ := turn_kept turn keeps
  have now : after.callbacks = calls ++ (more ++ added) := by rw [calls', told, List.append_assoc]
  obtain ⟨-, trailing, home, -⟩ := winds_emptying winds
  rcases (waiting_split split item).mp waits with rfl | still
  · by_cases ends : item.ends ptr
    · -- `close_room`, which finds the room registered
      obtain ⟨request, rfl⟩ := winds_ends winds ends
      obtain ⟨member, there, sameRoom⟩ := enlisted.member registered
      obtain ⟨gone, closes⟩ := unregistered_of_onEmpty executed there
      rw [sameRoom] at gone closes
      refine .closing ((waiting_ran _).mpr (.inl (closes registered))) stored (sameLife.trans isOpen)
        (equipped (exited ends).2) ?_ now (List.mem_append_left _ (exited ends).1)
      intro roomId listed
      have earlier := registered_before touch (by simpa using heap_bound there) listed
      obtain ⟨member', there', rfl⟩ := enlisted.member earlier
      cases there.symm.trans there'
      exact gone (sameRoom ▸ listed)
    · rcases winds_onward executed winds with ⟨next, new, onward⟩ | ⟨request, rfl⟩
      · have kept : effect.core.manager.rooms[after.roomId]? = some ptr := by
          rw [sameId]
          rcases registered_of_touch touch registered with same | drawn | ⟨request, rfl, -⟩
          · exact same
          · exact absurd drawn unreplaced
          · exact absurd rfl ends
        refine .underway ((waiting_ran next).mpr (.inl new)) onward stored kept now ?_
        intro nextEnds
        obtain ⟨contents, told'⟩ := exited_of_executed executed winds new nextEnds ends found stored
        have same := List.append_cancel_left (calls'.symm.trans told')
        exact ⟨by simp [same], contents⟩
      · exact absurd rfl ends
  · -- another item: this one is not the room's `close_room`, which would be behind
    have kept : effect.core.manager.rooms[after.roomId]? = some ptr := by
      rw [sameId]
      rcases registered_of_touch touch registered with same | drawn | ⟨request, rfl, -⟩
      · exact same
      · exact absurd drawn unreplaced
      · exact absurd trailing (succession.alone orderly split quiet id rfl still home)
    refine .underway ((waiting_ran item).mpr (.inr still)) winds stored kept now ?_
    intro ends
    exact ⟨List.mem_append_left _ (exited ends).1, equipped (exited ends).2⟩

theorem unregistered_ran (touch : Touch choice state.core task effect) (found : state.core.hosts[ptr]? = some host)
    (unregistered : ∀ roomId : RoomId, state.core.manager.rooms[roomId]? ≠ some ptr) (roomId : RoomId) :
    effect.core.manager.rooms[roomId]? ≠ some ptr := by
  intro listed
  have bound : ptr < state.core.heap.length := by simpa using heap_bound found
  exact unregistered roomId (registered_before touch bound listed)

theorem winding_closing (split : state.pool = before ++ (thread, task) :: later)
    (executed : Executed choice state.core task effect) {request : Admitted}
    (waits : Waiting state (.handle request (.closeImpl ptr))) (found : state.core.hosts[ptr]? = some host)
    (isOpen : host.lifecycle = .kOpen) (contents : host.contents = true)
    (unregistered : ∀ roomId : RoomId, state.core.manager.rooms[roomId]? ≠ some ptr)
    (told : host.callbacks = calls ++ more) (exited : .onUserExit uid ∈ more) :
    Winding ptr uid calls (ranState thread before later effect) := by
  have gone := unregistered_ran (touch_of_executed executed) found unregistered
  obtain ⟨after, stored, turn⟩ := turn_of_hosted (hosted_of_executed executed) found
  by_cases closes : task.closes ptr
  · have ended : after.lifecycle = .kClosed ∧ after.callbacks = host.callbacks ++ [.onDestroyRoom] := by
      rw [closed_of_closes executed closes found stored]
      simp [Host.closeImpl, isOpen, contents]
    refine .closed stored ended.1 gone (ended.2.trans (by rw [told, List.append_assoc])) ?_
    exact (List.singleton_sublist.mpr exited).append (List.Sublist.refl [Callback.onDestroyRoom])
  · obtain ⟨-, sameLife, equipped, added, calls'⟩ := turn_kept turn closes
    rcases (waiting_split split _).mp waits with rfl | still
    · exact absurd rfl closes
    · exact .closing ((waiting_ran _).mpr (.inr still)) stored (sameLife.trans isOpen) (equipped contents) gone
        (calls'.trans (by rw [told, List.append_assoc])) (List.mem_append_left _ exited)

theorem winding_closed (executed : Executed choice state.core task effect) (found : state.core.hosts[ptr]? = some host)
    (ended : host.lifecycle = .kClosed)
    (unregistered : ∀ roomId : RoomId, state.core.manager.rooms[roomId]? ≠ some ptr)
    (told : host.callbacks = calls ++ more) (exited : [.onUserExit uid, .onDestroyRoom].Sublist more) :
    Winding ptr uid calls (ranState thread before later effect) := by
  have gone := unregistered_ran (touch_of_executed executed) found unregistered
  obtain ⟨after, stored, turn⟩ := turn_of_hosted (hosted_of_executed executed) found
  by_cases closes : task.closes ptr
  · have same : after = host := by
      rw [closed_of_closes executed closes found stored]
      simp [Host.closeImpl, ended]
    exact .closed stored (same ▸ ended) gone (same ▸ told) exited
  · obtain ⟨-, sameLife, -, added, calls'⟩ := turn_kept turn closes
    exact .closed stored (sameLife.trans ended) gone (calls'.trans (by rw [told, List.append_assoc]))
      (exited.trans (List.sublist_append_left more added))

end Ran

theorem winding_step {state after : State} {label : Label} {ptr : RoomPtr} {uid : Uid} {calls : List Callback}
    (orderly : Orderly state) (succession : Succession state) (enlisted : Enlisted state)
    (winding : Winding ptr uid calls state) (moved : step state label = some after)
    (lets : LetsClose ⟨state, label, after⟩) : Winding ptr uid calls after := by
  -- a move that runs no task leaves the rooms and the stage in progress alone
  have external : (∀ thread choice, label ≠ .run thread choice) → after.core.hosts = state.core.hosts →
      (∀ roomId : RoomId, after.core.manager.rooms[roomId]? = some ptr → state.core.manager.rooms[roomId]? = some ptr) →
      (∀ task, Waiting state task → task.winds ptr uid → after.core.manager = state.core.manager) →
      Winding ptr uid calls after := by
    intro external hosts fewer same
    cases winding with
    | @underway task host more waits winds found registered told exited =>
      rw [← hosts] at found
      rw [← same task waits winds] at registered
      refine .underway ?_ winds found registered told exited
      cases task with
      | handle request stage => exact (handle_unran (stepped_of_step moved) external).mpr waits
      | onRecv | findForward | onRecvMessage | sendToUserImpl | kickOutUserImpl | onKickedOutUser | sendNotification
      | close => cases winds
    | closing waits found isOpen contents unregistered told exited =>
      rw [← hosts] at found
      exact .closing ((handle_unran (stepped_of_step moved) external).mpr waits) found isOpen contents
        (fun roomId listed => unregistered roomId (fewer roomId listed)) told exited
    | closed found ended unregistered told exited =>
      rw [← hosts] at found
      exact .closed found ended (fun roomId listed => unregistered roomId (fewer roomId listed)) told exited
  cases stepped_of_step moved with
  | delivered | called => exact external (by simp) rfl (fun _ => id) (fun _ _ _ => rfl)
  | stopped running =>
    refine external (by simp) rfl ?_ ?_
    · simp [shutdown, RoomManager.shutdown]
    · -- the server is not stopped while a room is being emptied
      rintro task ⟨owner, waits⟩ winds
      cases (lets.1 rfl _ waits).symm.trans (winds_emptying winds).1
  | @ran thread choice task before later effect split quiet executed =>
    cases winding with
    | underway waits winds found registered told exited =>
      refine winding_underway orderly succession enlisted split quiet executed waits winds found registered told exited ?_
      intro drawn
      obtain ⟨owner, mem⟩ := waits
      exact lets.2 _ (executed_ran choice _ split quiet) _ drawn _ mem _ (winds_emptying winds).1 registered
    | closing waits found isOpen contents unregistered told exited =>
      exact winding_closing split executed waits found isOpen contents unregistered told exited
    | closed found ended unregistered told exited =>
      exact winding_closed executed found ended unregistered told exited

/-! ## Rooms that were left -/

def Task.quits (ptr : RoomPtr) (uid : Uid) : Task → Prop
  | .handle _ (.leaveRoom room user _) => room = ptr ∧ user = uid
  | _ => False

instance (ptr : RoomPtr) (uid : Uid) (task : Task) : Decidable (task.quits ptr uid) := by
  unfold Task.quits
  split <;> infer_instance

def LastLeaves (ptr : RoomPtr) (uid : Uid) (move : Transition State Label) : Prop :=
  (∃ found ∈ executed move, found.2.quits ptr uid) ∧
  (∃ room ∈ move.before.core.heap[ptr]?, move.before.core.manager.rooms[room.roomId]? = some ptr ∧ uid ∈ room.users) ∧
  ∃ room ∈ move.after.core.heap[ptr]?, room.users.isEmpty

instance (ptr : RoomPtr) (uid : Uid) (move : Transition State Label) : Decidable (LastLeaves ptr uid move) := by
  unfold LastLeaves
  infer_instance

def Core.told (self : Core) (ptr : RoomPtr) : List Callback := ((self.heap[ptr]?).map Room.callbacks).getD []

theorem winding_start {state after : State} {label : Label} {ptr : RoomPtr} {uid : Uid}
    (moved : step state label = some after) (leaves : LastLeaves ptr uid ⟨state, label, after⟩) :
    Winding ptr uid (state.core.told ptr) after := by
  obtain ⟨⟨⟨choice, task⟩, runs, quits⟩, ⟨room, found, registered, present⟩, left, stored, none⟩ := leaves
  obtain ⟨thread, before, later, effect, rfl, split, quiet, executed, rfl⟩ := executed_split runs moved
  have nobody : uid ∉ left.users := by
    rw [Std.ExtTreeMap.isEmpty_iff.mp none]
    exact Std.ExtTreeMap.not_mem_empty
  cases executed with
  | @staged request stage _ ran =>
    cases ran with
    | leaveLate | leaveRefused =>
      cases found.symm.trans stored
      exact absurd present nobody
    | @leaveExited target user response old queued place isOpen member =>
      obtain ⟨rfl, rfl⟩ := quits
      cases found.symm.trans place
      have bound := (List.getElem?_eq_some_iff.mp place).1
      have now : left = { room with users := room.users.erase user } := by
        have set : ((state.core.start request).1.heap.set target
            { room with users := room.users.erase user })[target]? = some _ := List.getElem?_set_self bound
        exact Option.some.inj (stored.symm.trans set)
      rw [now] at none
      have host : (Core.setRoom (state.core.start request).1 target
          { room with users := room.users.erase user }).hosts[target]? = some room.host := by
        rw [hosts_setRoom, List.getElem?_set_self (by simpa using bound)]
        rfl
      have told : room.host.callbacks = state.core.told target ++ [] := by
        simp [Core.told, place, Room.host]
      refine Winding.underway ((waiting_ran _).mpr (.inl (List.mem_singleton_self _))) ?_ host registered told ?_
      · exact ⟨rfl, rfl, none⟩
      · intro ends
        cases ends
    | createLate | createStopping | created | contentsThrown | contentsCreated | createNotified | joinUnknown | joinFound
    | joinLate | joinClosed | joinEntered | joined | enterNotified | leaveUnindexed | leaveIndexed | leaveUnknown
    | leaveFound | left | exitNotified | emptied | emptyStale | closed | completed | sent | aborted => cases quits
  | received | forwardStale | forwardFound | forwarded | broadcast | kickAbsent | kickPresent | kicked | notified
  | closed => cases quits

theorem winding_later {ptr : RoomPtr} {uid : Uid} {calls : List Callback} {past later : History} {start state : State}
    (reached : Reaches past start) (run : Run step start later state) (lets : ∀ move ∈ later, LetsClose move)
    (winding : Winding ptr uid calls start) : Winding ptr uid calls state := by
  apply run.history fun _ state => Winding ptr uid calls state
  · exact winding
  · intro prior move onward winding moved mem
    have before := reached.append onward
    exact winding_step (orderly_reached before) (succession_reached before) (enlisted_reached before) winding moved
      (lets move mem)

theorem Winding.refuses {state after : State} {label : Label} {ptr : RoomPtr} {uid user : Uid} {calls : List Callback}
    (orderly : Orderly state) (succession : Succession state) (winding : Winding ptr uid calls state)
    (moved : step state label = some after) {choice : Choice} {request : Admitted} {response : User2RoomResJoinRoom}
    (runs : executed ⟨state, label, after⟩ = some (choice, .handle request (.joinRoom ptr user response))) :
    Still ⟨state, label, after⟩ ∧
      Waiting after (.handle request (.complete (.resJoinRoom { response with success := false }))) := by
  obtain ⟨thread, before, later, effect, rfl, split, quiet, executed, rfl⟩ := executed_split runs moved
  -- The items of the leave would be in front of the join.
  have front : ∀ {item : Task}, Waiting state item → item.trailing → item.home ≠ some ptr := by
    intro item waits trailing home
    rcases (waiting_split split item).mp waits with rfl | still
    · exact trailing
    · exact succession.alone orderly split quiet id rfl still home trailing
  cases winding with
  | underway waits winds =>
    obtain ⟨-, trailing, home, -⟩ := winds_emptying winds
    exact absurd home (front waits trailing)
  | closing waits => exact absurd rfl (front waits trivial)
  | closed found ended =>
    cases executed with
    | staged ran =>
      cases ran with
      | joinLate | joinClosed => exact ⟨⟨rfl, rfl⟩, (waiting_ran _).mpr (.inl (List.mem_singleton_self _))⟩
      | joinEntered queued place isOpen =>
        cases found.symm.trans (found_host place)
        cases isOpen.symm.trans ended

/-! ## The end is told once -/

def ToldOnce (state : State) : Prop :=
  ∀ (ptr : RoomPtr) (host : Host), state.core.hosts[ptr]? = some host →
    host.callbacks.count .onDestroyRoom ≤ if host.lifecycle = .kOpen then 0 else 1

theorem toldOnce_step {state after : State} {label : Label} (once : ToldOnce state)
    (moved : step state label = some after) : ToldOnce after := by
  cases stepped_of_step moved with
  | delivered | called | stopped => exact once
  | @ran thread choice task before later effect split quiet executed =>
    intro ptr host stored
    rcases hosted_before (hosted_of_executed executed) stored with ⟨old, found, turn⟩ | ⟨-, bare, -⟩
    · have earlier := once ptr old found
      cases turn with
      | same | equipped => exact earlier
      | called call contents calls first living =>
        simpa [List.count_append, List.count_singleton, living] using earlier
      | closed closes =>
        unfold Host.closeImpl
        split
        · next closed =>
          rwa [if_neg closed] at earlier
        · next isOpen =>
          simp only [ne_eq, not_not] at isOpen
          rw [if_pos isOpen, Nat.le_zero] at earlier
          dsimp only
          split <;> simp [List.count_append, earlier]
    · simp [bare.2]

theorem toldOnce_reached {history : History} {state : State} (run : Reaches history state) : ToldOnce state :=
  run.invariant (by simp [ToldOnce, initial, Core.hosts]) fun _ _ _ => toldOnce_step

/-- Where no strand task is pending, every registered room is open and has members. If rooms were let
close, a room whose last member left while it was registered is closed: its contents were told of
the exit and then, once, of the end, and every join behind that leave was refused without a trace. -/
theorem rooms_close_when_empty {history : History} {state : State} (run : Reaches history state)
    (stays : ∀ move ∈ history, ¬ KicksOut move) (settled : Settled state) :
    (∀ (roomId : RoomId) (ptr : RoomPtr), state.core.manager.rooms[roomId]? = some ptr →
      ∃ room, state.core.heap[ptr]? = some room ∧ room.lifecycle = .kOpen ∧ ∃ uid, uid ∈ room.users) ∧
    ((∀ move ∈ history, LetsClose move) → ∀ past move later ptr uid, history = past ++ move :: later →
      LastLeaves ptr uid move →
      (∃ room, state.core.heap[ptr]? = some room ∧ room.lifecycle = .kClosed ∧
        (∀ roomId : RoomId, state.core.manager.rooms[roomId]? ≠ some ptr) ∧
        (∃ more, room.callbacks = move.before.core.told ptr ++ more ∧
          [.onUserExit uid, .onDestroyRoom].Sublist more) ∧
        room.callbacks.count .onDestroyRoom = 1) ∧
      ∀ join ∈ later, ∀ choice request user response,
        executed join = some (choice, .handle request (.joinRoom ptr user response)) →
        Still join ∧
          Waiting join.after (.handle request (.complete (.resJoinRoom { response with success := false })))) := by
  have orderly := orderly_reached run
  -- in a settled state no strand of a room has anything to do
  have unstranded : ∀ {task : Task} {ptr : RoomPtr}, Waiting state task → task.home ≠ some ptr := by
    rintro task ptr ⟨owner, mem⟩ home
    obtain ⟨member, -, strand⟩ := orderly.located _ mem ptr home
    cases (settled _ mem).symm.trans strand
  constructor
  · intro roomId ptr known
    obtain ⟨⟨host, found, -, isOpen⟩, -⟩ := enlisted_reached run roomId ptr known
    obtain ⟨member, stored, some | ⟨task, uid, waits, winds⟩⟩ := occupied_reached run stays roomId ptr known
    · rw [hosts_get] at found
      obtain ⟨room, place, rfl⟩ := Option.map_eq_some_iff.mp found
      cases stored.symm.trans (found_membership place)
      exact ⟨room, place, isOpen, some⟩
    · exact absurd (winds_emptying winds).2.2.1 (unstranded waits)
  · intro lets past move later ptr uid cut leaves
    obtain ⟨reached, moved, onward⟩ := run.split cut
    have started : Reaches (past ++ [move]) move.after := .next reached moved
    have begun := winding_start moved leaves
    have onwards : ∀ other ∈ later, LetsClose other := fun other mem => lets other (by simp [cut, mem])
    constructor
    · cases winding_later started onward onwards begun with
      | underway waits winds => exact absurd (winds_emptying winds).2.2.1 (unstranded waits)
      | closing waits => exact absurd rfl (unstranded waits)
      | @closed host more found ended unregistered told exited =>
        have once := toldOnce_reached run ptr host found
        rw [hosts_get] at found
        obtain ⟨room, place, rfl⟩ := Option.map_eq_some_iff.mp found
        refine ⟨room, place, ended, unregistered, ⟨more, told, exited⟩, Nat.le_antisymm ?_ ?_⟩
        · rw [if_neg (by rw [ended]; nofun)] at once
          exact once
        · have last : Callback.onDestroyRoom ∈ more := exited.subset (by simp)
          rw [show room.callbacks = _ from told]
          exact List.count_pos_iff.mpr (List.mem_append_right _ last)
    · intro join mem choice request user response runs
      obtain ⟨front, back, cut'⟩ := List.append_of_mem mem
      obtain ⟨before, joined, -⟩ := onward.split cut'
      have winding := winding_later started before (fun other mem => onwards other (by simp [cut', mem])) begun
      have all := started.append before
      exact winding.refuses (orderly_reached all) (succession_reached all) joined runs

def leaveBeforeJoin : List Label :=
  handled "user" (.reqCreateRoom { requestId := 1, uid := "alice" }) 10000 5 ++ [.run (.strand 0) {}] ++
  handled "user" (.reqLeaveRoom { requestId := 2, uid := "alice" }) 10000 3 ++
  handled "user" (.reqJoinRoom { requestId := 3, uid := "bob", roomId := 10000 }) 10000 2 ++
  List.replicate 10 (.run (.strand 0) {})

theorem rooms_close_when_empty_left :
    ∃ history state, Reaches history state ∧ ∃ room, state.core.heap[0]? = some room ∧ room.lifecycle = .kClosed ∧
      (∀ roomId : RoomId, state.core.manager.rooms[roomId]? ≠ some 0) ∧
      [.onUserExit "alice", .onDestroyRoom].Sublist room.callbacks ∧
      room.callbacks.count .onDestroyRoom = 1 := by
  have run : Reaches _ (final step initial leaveBeforeJoin) := run_of_enabled (by decide +kernel)
  have cut := fun index bound => (List.take_append_drop index _).symm.trans
    (congrArg _ (List.drop_eq_getElem_cons (l := transitions step initial leaveBeforeJoin) (i := index) bound))
  obtain ⟨room, found, ended, gone, ⟨more, told, exited⟩, once⟩ :=
    ((rooms_close_when_empty run (by decide +kernel) (by decide +kernel)).2 (by decide +kernel) _ _ _ 0 "alice"
      (cut 14 (by decide +kernel)) (by decide +kernel)).1
  exact ⟨_, _, run, room, found, ended, gone, told ▸ exited.trans (List.sublist_append_right _ more), once⟩

def leaveShutdownJoin : List Label :=
  handled "user" (.reqCreateRoom { requestId := 1, uid := "alice" }) 10000 5 ++
    ([.run (.strand 0) {}] : List Label) ++
    handled "user" (.reqLeaveRoom { requestId := 2, uid := "alice" }) 10000 3 ++
    handled "user" (.reqJoinRoom { requestId := 3, uid := "bob", roomId := 10000 }) 10000 2 ++
    ([.run (.strand 0) {}, .shutdown] : List Label) ++ (List.replicate 11 (.run (.strand 0) {}) : List Label)

/-- The join behind the leave enters the emptied room and its contents are told so. -/
theorem join_enters_emptied_room :
    ∃ history state, Reaches history state ∧ (∀ move ∈ history, ¬ KicksOut move) ∧ Settled state ∧
      ∃ past move later, history = past ++ move :: later ∧ LastLeaves 0 "alice" move ∧
        (∃ join ∈ later, (executed join).map Prod.snd = some (.handle ⟨"user", 3, .kUser2RoomResJoinRoom, 2⟩
            (.joinRoom 0 "bob" { requestId := 3, roomId := 10000 })) ∧
          ¬ join.before.core.isMember 0 "bob" ∧ join.after.core.isMember 0 "bob") ∧
        .onUserEnter "bob" ∈ state.core.told 0 := by
  have run : Reaches _ (final step initial leaveShutdownJoin) := run_of_enabled (by decide +kernel)
  have cut := fun index bound => (List.take_append_drop index _).symm.trans
    (congrArg _ (List.drop_eq_getElem_cons (l := transitions step initial leaveShutdownJoin) (i := index) bound))
  exact ⟨_, _, run, by decide +kernel, by decide +kernel, _, _, _, cut 14 (by decide +kernel), by decide +kernel,
    by decide +kernel, by decide +kernel⟩

end Rsp.RoomServer
