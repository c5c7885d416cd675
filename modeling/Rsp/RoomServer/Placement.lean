import Rsp.RoomServer.Effects

/-! Where the work of a room waits.

A room's items run on its strand, and the item that completes a membership change
waits at the front of that strand.
-/

set_option autoImplicit false

namespace Rsp.RoomServer

open Message Foundation

/-- Every item waits on the strand of its room, and what commits waits at the front. -/
structure Orderly (state : State) : Prop where
  located : ∀ entry ∈ state.pool, ∀ ptr, entry.2.home = some ptr →
    ∃ member, state.core.members[ptr]? = some member ∧ entry.1 = .strand member.strand
  heads : Pool.Leading (fun _ => False) Task.commits state.pool

theorem touch_keeps_room {choice : Choice} {core : Core} {task : Task} {effect : Effect}
    (touch : Touch choice core task effect) {ptr : RoomPtr} {member : Membership}
    (found : core.members[ptr]? = some member) :
    ∃ after, effect.core.members[ptr]? = some after ∧ after.roomId = member.roomId ∧
      after.strand = member.strand := by
  have bound : ptr < core.members.length := (List.getElem?_eq_some_iff.mp found).1
  have updated : ∀ {target : RoomPtr} {old new : Membership}, core.members[target]? = some old →
      new.roomId = old.roomId → new.strand = old.strand →
      ∃ after, (core.members.set target new)[ptr]? = some after ∧ after.roomId = member.roomId ∧
        after.strand = member.strand := by
    intro target old new stored sameId sameStrand
    by_cases same : target = ptr
    · subst same
      obtain rfl := Option.some.inj (stored.symm.trans found)
      exact ⟨new, List.getElem?_set_self bound, sameId, sameStrand⟩
    · exact ⟨member, by rw [List.getElem?_set_ne same, found], rfl, rfl⟩
  cases touch with
  | create queued running make manager members plain =>
    exact ⟨member, by rw [members, List.getElem?_append_left bound, found], rfl, rfl⟩
  | same quiet manager members | index old stored registered manager members
  | indexStale old stored stale manager members | unindex old stored registered indexed manager members
  | unindexStale old stored elsewhere manager members | unregister old stored registered manager members =>
    exact ⟨member, by rw [members, found], rfl, rfl⟩
  | enter old queued stored isOpen manager members | exit old stored isOpen manager members
  | close old closes stored manager members | kick old stored manager members =>
    rw [members]
    exact updated stored rfl rfl

/-- An effect leaves at most one committing item, in front. -/
theorem touch_heads {choice : Choice} {core : Core} {task : Task} {effect : Effect}
    (touch : Touch choice core task effect) :
    (∀ item ∈ effect.next.tail, ¬ item.commits) ∧ ∀ entry ∈ effect.posts, ¬ entry.2.commits := by
  have plainly : Plain effect →
      (∀ item ∈ effect.next.tail, ¬ item.commits) ∧ ∀ entry ∈ effect.posts, ¬ entry.2.commits := by
    intro plain
    refine ⟨fun item mem => (plain item ?_).1, fun entry mem => (plain entry.2 ?_).1⟩
    · exact List.mem_append_left _ (List.mem_of_mem_tail mem)
    · exact List.mem_append_right _ (List.mem_map_of_mem mem)
  cases touch with
  | same quiet manager members plain | create queued running make manager members plain
  | index old stored registered manager members plain | indexStale old stored stale manager members plain
  | unindex old stored registered indexed manager members plain
  | unindexStale old stored elsewhere manager members plain | close old closes stored manager members plain
  | kick old stored manager members plain => exact plainly plain
  | enter old queued stored isOpen manager members next posts | exit old stored isOpen manager members next posts
  | unregister old stored registered manager members next posts => exact ⟨by simp [next], by simp [posts]⟩

theorem apiTask_plain {ptr : RoomPtr} {room : Room} {call : ApiCall} {task : Task}
    (posted : apiTask ptr room call = some task) :
    ¬ task.commits ∧ (∀ target, ¬ task.closes target) ∧ ∀ target, task.home = some target → target = ptr := by
  cases call with
  | sendToUser uids message =>
    obtain ⟨users, -, rfl⟩ := Option.map_eq_some_iff.mp posted
    simp [Task.commits, Task.closes, Task.home]
  | kickOutUser uid reason =>
    cases posted
    simp [Task.commits, Task.closes, Task.home, eq_comm]

theorem shutdown_posts {state : State} {entry : Thread × Task} (mem : entry ∈ (shutdown state).pool) :
    entry ∈ state.pool ∨ ∃ ptr room, state.core.heap[ptr]? = some room ∧ entry = (.strand room.strand, .close ptr) := by
  simp only [shutdown, List.mem_append, List.mem_filterMap, Option.map_eq_some_iff] at mem
  rcases mem with mem | ⟨ptr, -, room, found, rfl⟩
  · exact .inl mem
  · exact .inr ⟨ptr, room, found, rfl⟩

def Task.outer : Task → Prop
  | .onRecv _ | .sendToUserImpl .. | .kickOutUserImpl .. | .close _ => True
  | _ => False

theorem outer_plain {task : Task} (outer : task.outer) : ¬ task.commits := by
  cases task <;> first | exact id | cases outer

/-- A step that executes no item posts items from outside, each on the strand of its room. -/
theorem posts_unran {state after : State} {label : Label} (stepped : Stepped state label after)
    (external : ∀ thread choice, label ≠ .run thread choice) :
    ∃ posts, after.pool = state.pool ++ posts ∧ ∀ entry ∈ posts, entry.2.outer ∧
      (∀ ptr, entry.2.home = some ptr → ∃ room, state.core.heap[ptr]? = some room ∧ entry.1 = .strand room.strand) ∧
      ∀ message, entry.2 = .onRecv message → ∃ source, label = .deliver source message := by
  cases stepped with
  | delivered quiet => exact ⟨_, rfl, by simp [Task.outer, Task.home]⟩
  | @ran thread choice => exact absurd rfl (external thread choice)
  | @called ptr call room found contents =>
    refine ⟨_, rfl, ?_⟩
    intro entry mem
    obtain ⟨task, posted, rfl⟩ := List.mem_map.mp mem
    cases call with
    | sendToUser uids message =>
      obtain ⟨users, -, rfl⟩ := Option.map_eq_some_iff.mp (Option.mem_toList.mp posted)
      simp [Task.outer, Task.home]
    | kickOutUser uid reason =>
      cases Option.mem_toList.mp posted
      simp [Task.outer, Task.home, found]
  | stopped running =>
    refine ⟨_, rfl, ?_⟩
    intro entry mem
    obtain ⟨ptr, -, made⟩ := List.mem_filterMap.mp mem
    obtain ⟨room, found, rfl⟩ := Option.map_eq_some_iff.mp made
    simp [Task.outer, Task.home, found]

theorem outer_unran {state after : State} {label : Label} (stepped : Stepped state label after)
    (external : ∀ thread choice, label ≠ .run thread choice) {item : Task} (waits : Waiting after item) :
    Waiting state item ∨ item.outer := by
  obtain ⟨posts, pool, outer⟩ := posts_unran stepped external
  obtain ⟨thread, waits⟩ := waits
  rw [pool] at waits
  rcases List.mem_append.mp waits with waits | posted
  · exact .inl ⟨thread, waits⟩
  · exact .inr (outer _ posted).1

/-- Nor does it change the rooms or send anything, and only a delivery changes the current route. -/
theorem core_unran {state after : State} {label : Label} (stepped : Stepped state label after)
    (external : ∀ thread choice, label ≠ .run thread choice) :
    after.core.heap = state.core.heap ∧ after.core.outgoing = state.core.outgoing ∧
      ((∀ source message, label ≠ .deliver source message) →
        after.core.currentRoute = state.core.currentRoute) := by
  cases stepped with
  | @delivered source message => exact ⟨rfl, rfl, fun other => absurd rfl (other source message)⟩
  | called | stopped => exact ⟨rfl, rfl, fun _ => rfl⟩
  | @ran thread choice => exact absurd rfl (external thread choice)

theorem orderly_step {state after : State} {label : Label} (orderly : Orderly state)
    (moved : step state label = some after) : Orderly after := by
  have external : (∀ thread choice, label ≠ .run thread choice) → Orderly after := by
    intro external
    obtain ⟨posts, pool, posted⟩ := posts_unran (stepped_of_step moved) external
    have members : after.core.members = state.core.members := by
      rw [Core.members, (core_unran (stepped_of_step moved) external).1, Core.members]
    constructor
    · rw [pool, members]
      intro entry mem ptr home
      rcases List.mem_append.mp mem with mem | mem
      · exact orderly.located entry mem ptr home
      · obtain ⟨room, found, here⟩ := (posted entry mem).2.1 ptr home
        exact ⟨room.membership, found_membership found, here⟩
    · rw [pool]
      apply Pool.leading_append orderly.heads
      intro entry mem
      exact outer_plain (posted entry mem).1
  cases stepped_of_step moved with
  | delivered | called | stopped => exact external (by simp)
  | @ran thread choice task before later effect split quiet executed =>
    have touch := touch_of_executed executed
    have placed := placed_of_executed executed
    have origin : (thread, task) ∈ state.pool := by simp [split]
    constructor
    · intro entry mem ptr home
      have kept : ∀ {member : Membership}, state.core.members[ptr]? = some member → entry.1 = .strand member.strand →
          ∃ after, effect.core.members[ptr]? = some after ∧ entry.1 = .strand after.strand := by
        intro member found here
        obtain ⟨after, stored, -, sameStrand⟩ := touch_keeps_room touch found
        exact ⟨after, stored, by rw [sameStrand, here]⟩
      simp only [List.mem_append, List.mem_map] at mem
      rcases mem with (⟨item, mem, rfl⟩ | mem) | mem
      · obtain ⟨member, found, here⟩ := orderly.located _ origin ptr (placed.next item mem ptr home)
        exact kept found here
      · obtain ⟨member, found, here⟩ := orderly.located entry (mem_of_rest split (List.mem_append.mpr mem)) ptr home
        exact kept found here
      · obtain ⟨room, found, here⟩ := placed.posts entry mem ptr home
        exact kept (found_membership found) here
    · exact Pool.leading_run (split ▸ orderly.heads) quiet (Pool.leads_of_tail (touch_heads touch).1) False.elim
        (touch_heads touch).2

theorem orderly_reached {history : History} {state : State} (run : Reaches history state) : Orderly state := by
  refine run.invariant ?_ (fun _ _ _ => orderly_step)
  exact ⟨by simp [initial], Pool.leading_nil⟩

/-- While an item of a room runs, no other item of that room has a change to commit. -/
theorem Orderly.alone {state : State} (orderly : Orderly state) {thread : Thread} {task : Task}
    {before later : Pool Thread Task} (split : state.pool = before ++ (thread, task) :: later)
    (quiet : Pool.idle before thread) {ptr : RoomPtr} (home : task.home = some ptr) {entry : Thread × Task}
    (mem : entry ∈ before ++ later) (commits : entry.2.commits) : entry.2.home ≠ some ptr := by
  intro same
  have inPool : entry ∈ state.pool := mem_of_rest split mem
  obtain ⟨member, found, here⟩ := orderly.located (thread, task) (by simp [split]) ptr home
  obtain ⟨other, stored, there⟩ := orderly.located entry inPool ptr same
  obtain rfl := Option.some.inj (found.symm.trans stored)
  have heads := orderly.heads
  rw [split] at heads
  exact heads.behind quiet not_false mem (there.trans here.symm) commits

end Rsp.RoomServer
