import Rsp.RoomServer.Hosting
import Rsp.RoomServer.Tickets

/-! Which item of a request follows which, and what a started strand task leaves in front.

The items of one handler follow each other along `Follows`. Those that a strand task leaves
to itself wait in front of its strand, so while another task of the strand starts, none of
them is left.
-/

set_option autoImplicit false

namespace Rsp.RoomServer

open Message Foundation

/-! ## The course of a request -/

/-- The stages that can follow a stage, with what the handler has found out on the way. -/
inductive Follows (core : Core) : Stage → Stage → Prop where
  | completes {stage : Stage} {response : ToUser} : Follows core stage (.complete response)
  | aborts {stage : Stage} : Follows core stage .abort
  | sends {response : ToUser} : Follows core (.complete response) (.sendResponse response)
  | creates {message : User2RoomReqCreateRoom} {ptr : RoomPtr} {response : User2RoomResCreateRoom} :
      Follows core (.createRoom message) (.createContents ptr response)
  | announces {ptr : RoomPtr} {response : User2RoomResCreateRoom} :
      Follows core (.createContents ptr response) (.onCreateRoom ptr)
  | finds {message : User2RoomReqJoinRoom} {ptr : RoomPtr} {response : User2RoomResJoinRoom}
      (known : core.manager.rooms[message.roomId]? = some ptr) :
      Follows core (.findJoin message) (.joinRoom ptr message.uid response)
  | enters {ptr : RoomPtr} {uid : Uid} {inserted : Bool} {response : User2RoomResJoinRoom} :
      Follows core (.joinRoom ptr uid response) (.joinedRoom ptr uid inserted response)
  | welcomes {ptr : RoomPtr} {uid : Uid} {response : User2RoomResJoinRoom} :
      Follows core (.joinedRoom ptr uid true response) (.onUserEnter ptr uid)
  | resolves {message : User2RoomReqLeaveRoom} {roomId : RoomId}
      (indexed : core.manager.userRooms[message.uid]? = some roomId) :
      Follows core (.findLeave message) (.findLeaveRoom message roomId)
  | locates {message : User2RoomReqLeaveRoom} {roomId : RoomId} {ptr : RoomPtr} {response : User2RoomResLeaveRoom}
      (known : core.manager.rooms[roomId]? = some ptr) :
      Follows core (.findLeaveRoom message roomId) (.leaveRoom ptr message.uid response)
  | exits {ptr : RoomPtr} {uid : Uid} {response : User2RoomResLeaveRoom} {member : Membership}
      (found : core.members[ptr]? = some member) (isOpen : member.lifecycle = .kOpen) (present : uid ∈ member.users) :
      Follows core (.leaveRoom ptr uid response) (.leftRoom ptr uid (member.users.erase uid).isEmpty response)
  | departs {ptr : RoomPtr} {uid : Uid} {empty : Bool} {response : User2RoomResLeaveRoom} :
      Follows core (.leftRoom ptr uid empty response) (.onUserExit ptr uid empty)
  | empties {ptr : RoomPtr} {uid : Uid} : Follows core (.onUserExit ptr uid true) (.onEmpty ptr)
  | closes {ptr : RoomPtr} : Follows core (.onEmpty ptr) (.closeImpl ptr)

section Course

variable {choice : Choice} {core : Core} {request : Admitted} {stage next : Stage} {effect : Effect}

theorem follows_of_ran (ran : Ran choice core request stage effect) (new : .handle request next ∈ items effect) :
    Follows core stage next := by
  cases ran with
  | @joined ptr uid inserted response room found =>
    cases inserted with
    | true =>
      simp [items] at new
      rcases new with rfl | rfl
      · exact .completes
      · exact .welcomes
    | false =>
      simp [items] at new
      subst new
      exact .completes
  | @left ptr uid empty response room found =>
    simp [items] at new
    rcases new with rfl | rfl
    · exact .completes
    · exact .departs
  | @exitNotified ptr uid empty after called =>
    cases empty with
    | true =>
      simp [items] at new
      subst new
      exact .empties
    | false => simp [items] at new
  | contentsCreated found =>
    simp [items] at new
    rcases new with rfl | rfl
    · exact .completes
    · exact .announces
  -- only a request still active and started is answered
  | completed =>
    simp only [items, complete] at new
    split at new
    · simp at new
      subst new
      exact .sends
    · simp at new
  | created =>
    simp [items] at new
    subst new
    exact .creates
  | joinFound known found =>
    simp [items] at new
    subst new
    exact .finds known
  | joinEntered =>
    simp [items] at new
    subst new
    exact .enters
  | leaveIndexed indexed =>
    simp [items] at new
    subst new
    exact .resolves indexed
  | leaveFound known found =>
    simp [items] at new
    subst new
    exact .locates known
  | leaveExited queued found isOpen present =>
    simp [items] at new
    subst new
    exact .exits (found_membership found) isOpen (Std.ExtTreeMap.contains_iff_mem.mp present)
  | emptied found registered =>
    simp [items] at new
    subst new
    exact .closes
  | createLate | joinUnknown | joinLate | joinClosed | leaveUnindexed | leaveUnknown | leaveLate | leaveRefused =>
    simp [items, leaveUnknown] at new
    subst new
    exact .completes
  | createStopping | contentsThrown =>
    simp [items] at new
    subst new
    exact .aborts
  | createNotified | enterNotified | emptyStale | closed | sent | aborted => simp [items] at new

/-- A new item of a request comes from the one before it, or from the admission. -/
theorem follows_of_executed {task : Task} (executed : Executed choice core task effect)
    (new : .handle request next ∈ items effect) :
    (∃ stage, task = .handle request stage ∧ Follows core stage next) ∨
      ∃ message requestId resType, task = .onRecv message ∧ requestOf message = some (requestId, resType, next) := by
  cases executed with
  | @staged other stage _ ran =>
    obtain ⟨_, same⟩ := items_of_ran ran _ new
    cases same
    exact .inl ⟨stage, rfl, follows_of_ran ran new⟩
  | received received =>
    cases received with
    | admitted known admitted =>
      simp only [items, List.map_nil, List.append_nil, List.mem_singleton, Task.handle.injEq] at new
      obtain ⟨-, rfl⟩ := new
      exact .inr ⟨_, _, _, rfl, known⟩
    | ping | forwardUnindexed | forwardIndexed | cancelled | refused => simp [items] at new
  | broadcast => simp [items, fwdClient] at new
  | forwardStale | forwardFound | forwarded | kickAbsent | kickPresent | kicked | notified | closed =>
    simp [items] at new

end Course

/-! ## In front of a strand -/

def Task.trailing : Task → Prop
  | .handle _ (.joinedRoom ..) => True
  | .handle _ (.leftRoom ..) => True
  | .handle _ (.onUserEnter ..) => True
  | .handle _ (.onUserExit ..) => True
  | .handle _ (.onEmpty _) => True
  | .handle _ (.closeImpl _) => True
  | _ => False

theorem commits_trailing {task : Task} (commits : task.commits) : task.trailing := by
  unfold Task.commits at commits
  split at commits <;> simp_all [Task.trailing]

theorem trailing_of_ran {choice : Choice} {core : Core} {request : Admitted} {stage : Stage} {effect : Effect}
    (ran : Ran choice core request stage effect) :
    Pool.Leads Task.light Task.trailing effect.next ∧ ∀ entry ∈ effect.posts, ¬ entry.2.trailing := by
  cases ran with
  | @joined ptr uid inserted response room found =>
    cases inserted <;> simp [Task.trailing, Task.light, Pool.Leads]
  | @exitNotified ptr uid empty after called => cases empty <;> simp [Pool.Leads]
  | completed =>
    simp only [complete]
    split <;> simp [Pool.Leads]
  | createLate | createStopping | created | contentsThrown | contentsCreated | createNotified | joinUnknown
  | joinFound | joinLate | joinClosed | joinEntered | enterNotified | leaveUnindexed | leaveIndexed | leaveUnknown
  | leaveFound | leaveLate | leaveRefused | leaveExited | left | emptied | emptyStale | closed | sent | aborted =>
    simp [leaveUnknown, Task.trailing, Task.light, Pool.Leads]

theorem trailing_of_executed {choice : Choice} {core : Core} {task : Task} {effect : Effect}
    (executed : Executed choice core task effect) :
    Pool.Leads Task.light Task.trailing effect.next ∧ ∀ entry ∈ effect.posts, ¬ entry.2.trailing := by
  cases executed with
  | received received =>
    cases received with
    | ping | forwardUnindexed | forwardIndexed | cancelled | refused | admitted => simp [Pool.Leads]
  | staged ran => exact trailing_of_ran ran
  | broadcast =>
    refine ⟨Pool.leads_of_tail ?_, by simp⟩
    intro item mem
    obtain ⟨user, -, rfl⟩ := List.mem_map.mp (List.mem_of_mem_tail mem)
    exact id
  | forwardStale | forwardFound | forwarded | kickAbsent | kickPresent | kicked | notified | closed =>
    simp [Task.trailing, Pool.Leads]

def Succession (state : State) : Prop := Pool.Leading Task.light Task.trailing state.pool

theorem succession_step {state after : State} {label : Label} (succession : Succession state)
    (moved : step state label = some after) : Succession after := by
  have external : (∀ thread choice, label ≠ .run thread choice) → Succession after := by
    intro external
    obtain ⟨posts, pool, posted⟩ := posts_unran (stepped_of_step moved) external
    unfold Succession
    rw [pool]
    apply Pool.leading_append succession
    rintro ⟨thread, task⟩ mem
    have outer := (posted _ mem).1
    cases task <;> first | exact id | cases outer
  cases stepped_of_step moved with
  | delivered | called | stopped => exact external (by simp)
  | ran split quiet executed =>
    obtain ⟨leads, plain⟩ := trailing_of_executed executed
    exact Pool.leading_run (split ▸ succession) quiet leads (arranged_of_executed executed).lights plain

theorem succession_reached {history : History} {state : State} (run : Reaches history state) : Succession state :=
  run.invariant Pool.leading_nil fun _ _ _ => succession_step

/-- While a strand task of a room starts or goes on, it is the only one underway there. -/
theorem Succession.alone {state : State} (succession : Succession state) (orderly : Orderly state) {thread : Thread}
    {task : Task} {before later : Pool Thread Task} (split : state.pool = before ++ (thread, task) :: later)
    (quiet : Pool.idle before thread) (heavy : ¬ task.light) {ptr : RoomPtr} (home : task.home = some ptr) {item : Task}
    (still : ∃ owner, (owner, item) ∈ before ++ later) (same : item.home = some ptr) : ¬ item.trailing := by
  obtain ⟨owner, mem⟩ := still
  obtain ⟨member, found, here⟩ := orderly.located (thread, task) (by simp [split]) ptr home
  obtain ⟨other, stored, there⟩ := orderly.located (owner, item) (mem_of_rest split mem) ptr same
  obtain rfl := Option.some.inj (found.symm.trans stored)
  exact Pool.Leading.behind (split ▸ succession) quiet heavy mem (there.trans here.symm)

/-! ## The rooms through an item -/

/-- What an item can make of a room: its identity stays, it is not opened again, and nobody
becomes a member but by a join. -/
structure Remains (task : Task) (ptr : RoomPtr) (before after : Membership) : Prop where
  identity : after.roomId = before.roomId
  life : after.lifecycle = .kOpen → before.lifecycle = .kOpen
  users : ∀ uid, uid ∈ after.users → uid ∈ before.users ∨
    ∃ request response, task = .handle request (.joinRoom ptr uid response)

theorem Remains.refl (task : Task) (ptr : RoomPtr) (member : Membership) : Remains task ptr member member :=
  ⟨rfl, id, fun _ => .inl⟩

theorem Remains.erased (task : Task) (ptr : RoomPtr) (member : Membership) (uid : Uid) :
    Remains task ptr member { member with users := member.users.erase uid } :=
  ⟨rfl, id, fun _ mem => .inl (Std.ExtTreeMap.mem_erase.mp mem).2⟩

theorem touch_room {choice : Choice} {core : Core} {task : Task} {effect : Effect} {ptr : RoomPtr} {member : Membership}
    (touch : Touch choice core task effect) (found : core.members[ptr]? = some member) :
    ∃ after, effect.core.members[ptr]? = some after ∧ Remains task ptr member after := by
  have bound : ptr < core.members.length := (List.getElem?_eq_some_iff.mp found).1
  have kept : effect.core.members[ptr]? = some member →
      ∃ after, effect.core.members[ptr]? = some after ∧ Remains task ptr member after :=
    fun same => ⟨member, same, .refl ..⟩
  have updated : ∀ {target : RoomPtr} {old new : Membership}, core.members[target]? = some old →
      effect.core.members = core.members.set target new → Remains task target old new →
      ∃ after, effect.core.members[ptr]? = some after ∧ Remains task ptr member after := by
    intro target old new stored members remains
    by_cases same : target = ptr
    · subst same
      cases found.symm.trans stored
      rw [members]
      exact ⟨new, List.getElem?_set_self bound, remains⟩
    · exact kept (by rw [members, List.getElem?_set_ne same, found])
  cases touch with
  | same quiet manager members | index _ _ _ _ members | indexStale _ _ _ _ members | unindexStale _ _ _ _ members
  | unindex _ _ _ _ _ members | unregister _ _ _ _ members => exact kept (by rw [members, found])
  | create queued running make manager members =>
    exact kept (by rw [members, List.getElem?_append_left bound, found])
  | exit old stored isOpen manager members | kick old stored manager members =>
    exact updated stored members (.erased ..)
  | close old closes stored manager members =>
    exact updated stored members ⟨rfl, fun wrong => (nomatch wrong), fun _ => .inl⟩
  | @enter request target joined response effect inserted old queued stored isOpen manager members =>
    refine updated stored members ⟨rfl, id, fun uid mem => ?_⟩
    rcases Std.ExtTreeMap.mem_insert.mp mem with here | old
    · cases Std.LawfulEqCmp.compare_eq_iff_eq.mp here
      exact .inr ⟨request, response, rfl⟩
    · exact .inl old

end Rsp.RoomServer
