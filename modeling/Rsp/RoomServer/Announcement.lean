import Rsp.RoomServer.Hosting

/-! The announcement of a room to its contents.

The receiving thread posts `on_create_room` to the room's strand and goes on; it calls
`on_recv_message` itself, so the two can run in either order. A shutdown posts the close
of a room that may not have its contents yet. Without these two races the announcement
is the first call the contents get.
-/

set_option autoImplicit false

namespace Rsp.RoomServer

open Message Foundation

def Task.hands : Task → Option RoomPtr
  | .onRecvMessage room .. => some room
  | _ => none

/-- No message is handed to a room whose announcement is still queued, and no shutdown
begins between the registration of a room and the creation of its contents. -/
def AnnouncedFirst (move : Transition State Label) : Prop :=
  (∀ ran ∈ executed move, ∀ room ∈ ran.2.hands, ∀ entry ∈ move.before.pool, ¬ entry.2.announces room) ∧
    (move.label = .shutdown →
      ∀ room < move.before.core.heap.length, ∀ entry ∈ move.before.pool, ¬ entry.2.equips room)

instance (move : Transition State Label) : Decidable (AnnouncedFirst move) :=
  inferInstanceAs (Decidable ((∀ ran ∈ executed move, ∀ room ∈ ran.2.hands, ∀ entry ∈ move.before.pool, _) ∧ _))

/-- How far a room is with its announcement. -/
inductive Prelude (state : State) (ptr : RoomPtr) (host : Host) : Prop where
  | making (task : Task) (waits : Waiting state task) (equips : task.equips ptr)
      (alone : ∀ other, Waiting state other → other.room ≠ some ptr) : Prelude state ptr host
  | posted (before after : List Task) (item : Task) (silent : host.callbacks = [])
      (queue : state.pool.queue (.strand host.strand) = before ++ item :: after) (announces : item.announces ptr)
      (first : ∀ other ∈ before, other.home ≠ some ptr) (once : ∀ other ∈ after, ¬ other.announces ptr)
      (done : ∀ task, Waiting state task → ¬ task.equips ptr) : Prelude state ptr host
  | told {rest : List Callback} (callbacks : host.callbacks = .onCreateRoom host.roomId :: rest)
      (once : ∀ roomId, .onCreateRoom roomId ∉ rest)
      (done : ∀ task, Waiting state task → ¬ task.equips ptr ∧ ¬ task.announces ptr) : Prelude state ptr host
  | bare (bare : host.Bare)
      (done : ∀ task, Waiting state task → ¬ task.equips ptr ∧ ¬ task.announces ptr) : Prelude state ptr host

/-- Work posted from outside the items does not get in front of an announcement. -/
theorem Prelude.post {core after : Core} {pool posts : Pool Thread Task} {ptr : RoomPtr} {host : Host}
    (phase : Prelude ⟨core, pool⟩ ptr host)
    (plain : ∀ entry ∈ posts, ¬ entry.2.equips ptr ∧ ¬ entry.2.announces ptr)
    (apart : ∀ task, Waiting (⟨core, pool⟩ : State) task → task.equips ptr → ∀ entry ∈ posts, entry.2.room ≠ some ptr) :
    Prelude ⟨after, pool ++ posts⟩ ptr host := by
  have waiting : ∀ {task : Task}, Waiting (⟨after, pool ++ posts⟩ : State) task →
      Waiting (⟨core, pool⟩ : State) task ∨ ∃ entry ∈ posts, entry.2 = task := by
    rintro task ⟨thread, waits⟩
    rcases List.mem_append.mp waits with waits | mem
    · exact .inl ⟨thread, waits⟩
    · exact .inr ⟨_, mem, rfl⟩
  have quiet : (∀ task, Waiting (⟨core, pool⟩ : State) task → ¬ task.equips ptr ∧ ¬ task.announces ptr) →
      ∀ task, Waiting (⟨after, pool ++ posts⟩ : State) task → ¬ task.equips ptr ∧ ¬ task.announces ptr := by
    intro done task waits
    rcases waiting waits with waits | ⟨entry, mem, rfl⟩
    · exact done task waits
    · exact plain entry mem
  cases phase with
  | making task waits equips alone =>
    obtain ⟨thread, mem⟩ := waits
    refine .making task ⟨thread, List.mem_append_left _ mem⟩ equips ?_
    intro other waiting'
    rcases waiting waiting' with waits | ⟨entry, posted, rfl⟩
    · exact alone other waits
    · exact apart task ⟨thread, mem⟩ equips entry posted
  | posted before later item silent queue announces first once done =>
    refine .posted before (later ++ Pool.queue posts (.strand host.strand)) item silent ?_ announces first ?_ ?_
    · rw [Pool.queue_append, queue, List.append_assoc, List.cons_append]
    · intro other mem
      rcases List.mem_append.mp mem with mem | mem
      · exact once other mem
      · exact (plain _ (Pool.mem_queue.mp mem)).2
    · intro task waits
      rcases waiting waits with waits | ⟨entry, mem, rfl⟩
      · exact done task waits
      · exact (plain entry mem).1
  | told callbacks once done => exact .told callbacks once (quiet done)
  | bare bare done => exact .bare bare (quiet done)

theorem hands_of_room {task : Task} {ptr : RoomPtr} (room : task.room = some ptr) (away : task.home ≠ some ptr) :
    ptr ∈ task.hands := by
  rcases room_cases room with home | ⟨sender, message, rfl⟩
  · exact absurd home away
  · exact rfl

theorem turn_away {task : Task} {ptr : RoomPtr} {host after : Host} (turn : Turn task ptr host after)
    (away : task.room ≠ some ptr) (plain : ¬ task.equips ptr) : after = host := by
  cases turn with
  | same => rfl
  | equipped equips => exact absurd equips plain
  | called call contents calls first living => exact absurd (calls_room calls) away
  | closed closes => exact absurd (home_room (closes_home closes)) away

theorem announced_of_executed {choice : Choice} {core : Core} {task : Task} {effect : Effect} {ptr : RoomPtr}
    (executed : Executed choice core task effect) (announces : task.announces ptr) {host : Host}
    (found : core.hosts[ptr]? = some host) :
    effect.core.hosts[ptr]? = some { host with callbacks := host.callbacks ++ [.onCreateRoom host.roomId] } ∧
      items effect = [] := by
  cases executed with
  | staged ran =>
    cases ran with
    | @createNotified target room after stored called =>
      cases announces
      obtain rfl := Option.some.inj ((found_host stored).symm.trans found)
      simp only [Core.callback, Room.callback, stored, Option.bind_eq_bind, Option.bind_some, Option.pure_def,
        Option.bind_eq_some_iff] at called
      obtain ⟨new, ready, same⟩ := called
      split at ready
      · cases ready
        cases same
        refine ⟨?_, rfl⟩
        rw [hosts_setRoom, heap_get_set (found_host stored), if_pos rfl]
        rfl
      · cases ready
    | _ => cases announces
  | _ => cases announces

section Ran

variable {state : State} {choice : Choice} {thread : Thread} {task : Task} {before later : Pool Thread Task}
  {effect : Effect} {ptr : RoomPtr} {host : Host}

theorem done_ran (executed : Executed choice state.core task effect)
    (split : state.pool = before ++ (thread, task) :: later) (found : state.core.hosts[ptr]? = some host)
    (done : ∀ other, Waiting state other → ¬ other.equips ptr ∧ ¬ other.announces ptr) (item : Task)
    (waits : Waiting (ranState thread before later effect) item) :
    ¬ item.equips ptr ∧ ¬ item.announces ptr := by
  have hosted := hosted_of_executed executed
  have waiting : Waiting state task := (waiting_split split task).mpr (.inl rfl)
  rcases (waiting_ran item).mp waits with new | still
  · constructor
    · intro equips
      have last := (equips_of_hosted hosted new equips).1
      exact absurd (heap_bound found) (by simp [last])
    · intro announces
      exact (done task waiting).1 (announces_of_hosted hosted new announces).1
  · exact done item ((waiting_split split item).mpr (.inr still))

/-- A room whose contents are being created: the receiving thread does nothing else meanwhile. -/
theorem making_ran (housed : Housed state) (executed : Executed choice state.core task effect)
    (split : state.pool = before ++ (thread, task) :: later) (quiet : Pool.idle before thread)
    (found : state.core.hosts[ptr]? = some host) {pending : Task} (waits : Waiting state pending)
    (equips : pending.equips ptr) (alone : ∀ other, Waiting state other → other.room ≠ some ptr) {after : Host}
    (stored : effect.core.hosts[ptr]? = some after) :
    Prelude (ranState thread before later effect) ptr after := by
  have hosted := hosted_of_executed executed
  obtain ⟨same, found', bare⟩ := housed.bare pending ptr waits equips
  obtain rfl := Option.some.inj (found.symm.trans found')
  have away : task.room ≠ some ptr := alone task ((waiting_split split task).mpr (.inl rfl))
  have others : ∀ {item : Task}, (∃ owner, (owner, item) ∈ before ++ later) → item.room ≠ some ptr :=
    fun still => alone _ ((waiting_split split _).mpr (.inr still))
  rcases (waiting_split split pending).mp waits with rfl | ⟨owner, still⟩
  · -- the creation itself: either the announcement is posted, or the contents library threw
    have router : thread = .router := housed.routed (thread, pending) (by simp [split]) (equips_routed equips)
    have unequipped : ∀ {item : Task}, (∃ owner, (owner, item) ∈ before ++ later) → ¬ item.equips ptr :=
      fun ⟨_, mem⟩ => housed.alone split quiet (equips_routed equips) mem ptr
    cases hosted with
    | @equipped request target response _ old known hosts next posts =>
      cases equips
      obtain rfl := Option.some.inj (found.symm.trans known)
      rw [hosts, heap_get_set found, if_pos rfl] at stored
      cases stored
      refine .posted (Pool.queue state.pool (.strand host.strand)) [] (.handle request (.onCreateRoom ptr)) bare.2 ?_ rfl
        ?_ (by simp) ?_
      · have elsewhere : thread ≠ .strand host.strand := by simp [router]
        rw [Pool.queue_ran_other (.handle request (.createContents ptr response)) elsewhere, ← split, posts]
        simp [Pool.queue_cons]
      · intro other mem home
        exact alone other ⟨_, Pool.mem_queue.mp mem⟩ (home_room home)
      · intro item waits
        rcases (waiting_ran item).mp waits with new | still
        · simp only [items, next, posts, List.map_cons, List.map_nil, List.mem_append, List.mem_singleton] at new
          rcases new with rfl | rfl <;> exact id
        · exact unequipped still
    | same hosts plain =>
      rw [hosts, found] at stored
      cases stored
      refine .bare bare ?_
      intro item waits
      rcases (waiting_ran item).mp waits with new | still
      · exact plain item new ptr
      · exact ⟨unequipped still, fun announces => others still (home_room (announces_home announces))⟩
    | created => cases equips
    | called old call known contents calls first living hosts plain =>
      exact absurd (calls_room calls) (equips_room equips)
    | closed old known closes hosts plain => exact absurd (home_room (closes_home closes)) (equips_room equips)
  · -- some strand runs: it neither posts nor looks rooms up
    have foreign : ¬ task.routed := fun routed => housed.alone split quiet routed still ptr equips
    obtain ⟨new, known, turn⟩ := turn_of_hosted hosted found
    obtain rfl := Option.some.inj (stored.symm.trans known)
    obtain rfl := turn_away turn away fun also => foreign (equips_routed also)
    refine .making pending ((waiting_ran pending).mpr (.inr ⟨owner, still⟩)) equips ?_
    intro item waits room
    rcases (waiting_ran item).mp waits with new | still
    · rcases room_of_executed executed new room with same | ⟨routed, -⟩
      · exact away same
      · exact foreign routed
    · exact others still room

theorem posted_ran (orderly : Orderly state) (executed : Executed choice state.core task effect)
    (split : state.pool = before ++ (thread, task) :: later) (quiet : Pool.idle before thread)
    (unhanded : ptr ∈ task.hands → ∀ entry ∈ state.pool, ¬ entry.2.announces ptr)
    (found : state.core.hosts[ptr]? = some host) (silent : host.callbacks = []) {front back : List Task} {item : Task}
    (queue : state.pool.queue (.strand host.strand) = front ++ item :: back) (announces : item.announces ptr)
    (first : ∀ other ∈ front, other.home ≠ some ptr) (once : ∀ other ∈ back, ¬ other.announces ptr)
    (done : ∀ other, Waiting state other → ¬ other.equips ptr) {after : Host}
    (stored : effect.core.hosts[ptr]? = some after) :
    Prelude (ranState thread before later effect) ptr after := by
  have hosted := hosted_of_executed executed
  have waiting : Waiting state task := (waiting_split split task).mpr (.inl rfl)
  have inPool : (Thread.strand host.strand, item) ∈ state.pool := Pool.mem_queue.mp (by simp [queue])
  have unannounced : ∀ entry ∈ effect.posts, ¬ entry.2.announces ptr := by
    intro entry mem also
    exact done task waiting (announces_of_hosted hosted (List.mem_append_right _ (List.mem_map_of_mem mem)) also).1
  have unequipped : ∀ other, Waiting (ranState thread before later effect) other →
      ¬ other.equips ptr := by
    intro other waits equips
    rcases (waiting_ran other).mp waits with new | still
    · exact absurd (heap_bound found) (by simp [(equips_of_hosted hosted new equips).1])
    · exact done other ((waiting_split split other).mpr (.inr still)) equips
  -- unless the announcement itself runs, the contents are left alone and it stays queued
  have waitsOn : ∀ ahead behind, task.home ≠ some ptr → (∀ other ∈ ahead, other.home ≠ some ptr) →
      (∀ other ∈ behind, ¬ other.announces ptr) →
      Pool.queue (effect.next.map (Prod.mk thread) ++ (before ++ later) ++ effect.posts) (.strand host.strand) =
        ahead ++ item :: behind →
      Prelude (ranState thread before later effect) ptr after := by
    intro ahead behind away foreign clear waits
    obtain ⟨new, known, turn⟩ := turn_of_hosted hosted found
    obtain rfl := Option.some.inj (stored.symm.trans known)
    have outside : task.room ≠ some ptr :=
      fun room => unhanded (hands_of_room room away) _ inPool announces
    obtain rfl := turn_away turn outside (done task waiting)
    exact .posted ahead behind item silent waits announces foreign clear unequipped
  by_cases here : thread = .strand host.strand
  · subst here
    rw [split, Pool.queue_split quiet] at queue
    cases front with
    | nil =>
      obtain ⟨rfl, rest⟩ := List.cons.inj queue
      obtain ⟨known, nothing⟩ := announced_of_executed executed announces found
      obtain rfl := Option.some.inj (stored.symm.trans known)
      refine .told (by simp [silent]; rfl) (by simp) ?_
      intro other waits
      refine ⟨unequipped other waits, fun also => ?_⟩
      rcases (waiting_ran other).mp waits with new | ⟨owner, still⟩
      · simp [nothing] at new
      · obtain ⟨member, place, there⟩ :=
          orderly.located (owner, other) (mem_of_rest split still) ptr (announces_home also)
        obtain ⟨member', place', here'⟩ := orderly.located _ inPool ptr (announces_home announces)
        obtain rfl := Option.some.inj (place.symm.trans place')
        have same : owner = .strand host.strand := there.trans here'.symm
        subst same
        rcases List.mem_append.mp still with still | still
        · exact quiet _ still rfl
        · exact once other (rest ▸ Pool.mem_queue.mpr still) also
    | cons head front =>
      obtain ⟨rfl, rest⟩ := List.cons.inj queue
      refine waitsOn (effect.next ++ front) (back ++ Pool.queue effect.posts (.strand host.strand))
        (first task (by simp)) ?_ ?_ ?_
      · intro other mem home
        rcases List.mem_append.mp mem with mem | mem
        · exact first task (by simp) ((placed_of_executed executed).next other mem ptr home)
        · exact first other (by simp [mem]) home
      · intro other mem
        rcases List.mem_append.mp mem with mem | mem
        · exact once other mem
        · exact unannounced _ (Pool.mem_queue.mp mem)
      · rw [Pool.queue_ran_self quiet, rest]
        simp
  · refine waitsOn front (back ++ Pool.queue effect.posts (.strand host.strand)) ?_ first ?_ ?_
    · intro home
      obtain ⟨member, place, there⟩ := orderly.located (thread, task) (by simp [split]) ptr home
      obtain ⟨member', place', here'⟩ := orderly.located _ inPool ptr (announces_home announces)
      obtain rfl := Option.some.inj (place.symm.trans place')
      exact here (there.trans here'.symm)
    · intro other mem
      rcases List.mem_append.mp mem with mem | mem
      · exact once other mem
      · exact unannounced _ (Pool.mem_queue.mp mem)
    · rw [Pool.queue_ran_other task here, ← split, queue, List.append_assoc, List.cons_append]

theorem told_ran (executed : Executed choice state.core task effect)
    (split : state.pool = before ++ (thread, task) :: later) (found : state.core.hosts[ptr]? = some host)
    {rest : List Callback} (callbacks : host.callbacks = .onCreateRoom host.roomId :: rest)
    (once : ∀ roomId, .onCreateRoom roomId ∉ rest)
    (done : ∀ other, Waiting state other → ¬ other.equips ptr ∧ ¬ other.announces ptr) {after : Host}
    (stored : effect.core.hosts[ptr]? = some after) :
    Prelude (ranState thread before later effect) ptr after := by
  have waiting : Waiting state task := (waiting_split split task).mpr (.inl rfl)
  obtain ⟨new, known, turn⟩ := turn_of_hosted (hosted_of_executed executed) found
  obtain rfl := Option.some.inj (stored.symm.trans known)
  cases turn with
  | same => exact .told callbacks once (done_ran executed split found done)
  | equipped equips => exact absurd equips (done task waiting).1
  | called call contents calls first living =>
    refine .told (by simp [callbacks]; rfl) ?_ (done_ran executed split found done)
    intro roomId mem
    rcases List.mem_append.mp mem with mem | mem
    · exact once roomId mem
    · exact (done task waiting).2 ((first roomId).mp (List.mem_singleton.mp mem).symm).1
  | closed closes =>
    obtain ⟨identity, same | grown⟩ := host.closeImpl_told
    · exact .told (by rw [same, identity, callbacks]) once (done_ran executed split found done)
    · refine .told (by rw [grown, identity, callbacks, List.cons_append]) ?_ (done_ran executed split found done)
      simpa using once

theorem bare_ran (executed : Executed choice state.core task effect)
    (split : state.pool = before ++ (thread, task) :: later) (found : state.core.hosts[ptr]? = some host)
    (bare : host.Bare) (done : ∀ other, Waiting state other → ¬ other.equips ptr ∧ ¬ other.announces ptr) {after : Host}
    (stored : effect.core.hosts[ptr]? = some after) :
    Prelude (ranState thread before later effect) ptr after := by
  have waiting : Waiting state task := (waiting_split split task).mpr (.inl rfl)
  obtain ⟨new, known, turn⟩ := turn_of_hosted (hosted_of_executed executed) found
  obtain rfl := Option.some.inj (stored.symm.trans known)
  refine .bare ?_ (done_ran executed split found done)
  cases turn with
  | same => exact bare
  | equipped equips => exact absurd equips (done task waiting).1
  | called call contents calls first living => exact absurd (bare.1.symm.trans contents) Bool.false_ne_true
  | closed closes => exact bare.closeImpl

end Ran

def Announced (state : State) : Prop :=
  ∀ (ptr : RoomPtr) (host : Host), state.core.hosts[ptr]? = some host → Prelude state ptr host

theorem announced_step {state after : State} {label : Label} (orderly : Orderly state) (housed : Housed state)
    (first : AnnouncedFirst ⟨state, label, after⟩) (announced : Announced state)
    (moved : step state label = some after) : Announced after := by
  cases stepped_of_step moved with
  | @delivered source message quiet =>
    intro ptr host found
    apply (announced ptr host found).post
    · simp [Task.equips, Task.announces]
    · simp [Task.room, Task.home]
  | @called target call room found contents =>
    intro ptr host known
    apply (announced ptr host known).post
    · intro entry mem
      simp only [List.mem_map, Option.mem_toList] at mem
      obtain ⟨task, posted, rfl⟩ := mem
      cases call with
      | sendToUser uids message =>
        obtain ⟨users, -, rfl⟩ := Option.map_eq_some_iff.mp posted
        exact ⟨id, id⟩
      | kickOutUser uid reason =>
        cases posted
        exact ⟨id, id⟩
    · -- contents that are still being created cannot call
      intro task waits equips entry mem room
      simp only [List.mem_map, Option.mem_toList] at mem
      obtain ⟨item, posted, rfl⟩ := mem
      have same : ptr = target := by
        rcases room_cases room with home | ⟨sender, text, recv⟩
        · exact (apiTask_plain posted).2.2 ptr home
        · cases call with
          | sendToUser uids message =>
            obtain ⟨users, -, rfl⟩ := Option.map_eq_some_iff.mp posted
            cases recv
          | kickOutUser uid reason =>
            cases posted
            cases recv
      subst same
      obtain ⟨host', known', bare⟩ := housed.bare task ptr waits equips
      rw [found_host found] at known'
      cases known'
      exact absurd (bare.1.symm.trans contents) Bool.false_ne_true
  | stopped running =>
    intro ptr host found
    unfold shutdown
    apply (announced ptr host found).post
    · intro entry mem
      simp only [List.mem_filterMap, Option.map_eq_some_iff] at mem
      obtain ⟨target, -, room, -, rfl⟩ := mem
      exact ⟨id, id⟩
    · rintro task ⟨thread, waits⟩ equips
      have known : state.core.hosts[ptr]? = some host := found
      have bound : ptr < state.core.heap.length := by simpa using heap_bound known
      exact absurd equips (first.2 rfl ptr bound _ waits)
  | @ran thread choice task before later effect split quiet executed =>
    intro ptr host stored
    have unhanded : ptr ∈ task.hands → ∀ entry ∈ state.pool, ¬ entry.2.announces ptr := by
      intro hands
      exact first.1 (choice, task) (executed_ran choice _ split quiet) ptr hands
    rcases hosted_before (hosted_of_executed executed) stored with ⟨old, found, -⟩ | ⟨rfl, bare, -, item, mem, equips⟩
    · cases announced ptr old found with
      | making pending waits equips alone =>
        exact making_ran housed executed split quiet found waits equips alone stored
      | posted front back item silent queue announces ahead once done =>
        exact posted_ran orderly executed split quiet unhanded found silent queue announces ahead once done stored
      | told callbacks once done => exact told_ran executed split found callbacks once done stored
      | bare bare done => exact bare_ran executed split found bare done stored
    · have new : item ∈ items effect := List.mem_append_left _ mem
      refine .making item ((waiting_ran item).mpr (.inl new)) equips ?_
      intro other waits room
      rcases (waiting_ran other).mp waits with also | still
      · obtain ⟨-, next, posts, -⟩ := equips_of_hosted (hosted_of_executed executed) new equips
        obtain rfl : other = item := by simpa [items, next, posts] using also
        exact equips_room equips room
      · have bound := housed.known other _ ((waiting_split split other).mpr (.inr still)) room
        exact Nat.lt_irrefl _ bound

theorem announced_reached {history : History} {state : State} (run : Reaches history state)
    (first : ∀ move ∈ history, AnnouncedFirst move) : Announced state := by
  refine run.history (fun _ state => Announced state) ?_ ?_
  · intro ptr host found
    simp [initial, Core.hosts] at found
  · intro past move reached announced moved mem
    exact announced_step (orderly_reached reached) (housed_reached reached) (first move mem) announced moved

/-- The first call the contents of a room get is `on_create_room`, and they get it once. -/
theorem on_create_room_first {history : History} {state : State} (run : Reaches history state)
    (first : ∀ move ∈ history, AnnouncedFirst move) {ptr : RoomPtr} {room : Room}
    (found : state.core.heap[ptr]? = some room) :
    room.callbacks = [] ∨ ∃ rest, room.callbacks = .onCreateRoom room.roomId :: rest ∧
      ∀ roomId, .onCreateRoom roomId ∉ rest := by
  cases announced_reached run first ptr room.host (found_host found) with
  | making task waits equips alone =>
    obtain ⟨host, known, bare⟩ := (housed_reached run).bare task ptr waits equips
    rw [found_host found] at known
    cases known
    exact .inl bare.2
  | posted front back item silent queue announces ahead once done => exact .inl silent
  | told callbacks once done => exact .inr ⟨_, callbacks, once⟩
  | bare bare done => exact .inl bare.2

def createForwardLeave : List Label :=
  handled "user-1" (.reqCreateRoom { uid := "alice", requestId := 1 }) 10000 5 ++ [.run (.strand 0) {}] ++
    handled "user-1" (.fwdRoom { uid := "alice", message := "hi" }) 10000 3 ++
    handled "user-1" (.reqLeaveRoom { uid := "alice", requestId := 2 }) 10000 3 ++
    List.replicate 7 (.run (.strand 0) {})

theorem on_create_room_first_forwarded :
    ∃ history state room, Reaches history state ∧ state.core.heap[0]? = some room ∧ room.callbacks.length = 4 ∧
      (room.callbacks = [] ∨ ∃ rest, room.callbacks = .onCreateRoom room.roomId :: rest ∧
        ∀ roomId, .onCreateRoom roomId ∉ rest) := by
  have run : Reaches _ (final step initial createForwardLeave) := run_of_enabled (by decide +kernel)
  have found := (Option.some_get
    (by decide +kernel : ((final step initial createForwardLeave).core.heap[0]?).isSome)).symm
  refine ⟨_, _, _, run, found, by decide +kernel, ?_⟩
  exact on_create_room_first run (by decide +kernel) found

def forwardsAtOnce : List Label :=
  handled "user-1" (.reqCreateRoom { uid := "alice", requestId := 1 }) 10000 5 ++
    handled "user-1" (.fwdRoom { uid := "alice", message := "hi" }) 10000 3 ++ [.run (.strand 0) {}]

theorem message_precedes_on_create_room :
    Reaches (transitions step initial forwardsAtOnce) (final step initial forwardsAtOnce) ∧
      ((final step initial forwardsAtOnce).core.heap[0]?).map (·.callbacks) =
        some [.onRecvMessage "alice" "hi", .onCreateRoom 10000] :=
  ⟨run_of_enabled (by decide +kernel), by decide +kernel⟩

end Rsp.RoomServer
