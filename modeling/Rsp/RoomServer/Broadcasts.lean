import Rsp.Foundation.Merge
import Rsp.RoomServer.Kickout

/-! The frames the Room server sends, and the broadcasts they are copies of.

`send_to_user` looks its users up and posts one task to the room's strand; that task makes
a copy for each user. Every frame for a client is such a copy, and the copies made on one
strand leave in the order in which the broadcasts were posted to it.
-/

set_option autoImplicit false

namespace Rsp.RoomServer

open Message Foundation
open scoped List

/-! ## What an item sends -/

inductive Sends (core : Core) : Task → Outgoing → Prop where
  | pong : Sends core (.onRecv .ping) ⟨core.currentRoute, .kPong, .pong⟩
  | response {request : Admitted} {response : ToUser} :
      Sends core (.handle request (.sendResponse response)) ⟨request.destination, request.resType, response⟩
  | notification {destination : RoutingId} {type : MessageType} {notification : ToUser} :
      Sends core (.sendNotification destination type notification) ⟨destination, type, notification⟩

section Outgoing

variable {choice : Choice} {core : Core} {task : Task} {effect : Effect}

theorem callback_outgoing {after : Core} {ptr : RoomPtr} {call : Callback}
    (called : core.callback ptr call = some after) : after.outgoing = core.outgoing := by
  simp only [Core.callback, Option.bind_eq_bind, Option.pure_def, Option.bind_eq_some_iff, Option.some.injEq] at called
  obtain ⟨room, -, called, -, rfl⟩ := called
  rfl

theorem outgoing_of_ran {request : Admitted} {stage : Stage} (ran : Ran choice core request stage effect) :
    effect.core.outgoing = core.outgoing ∨
      ∃ frame, Sends core (.handle request stage) frame ∧ effect.core.outgoing = core.outgoing ++ [frame] := by
  cases ran with
  | createNotified found called | enterNotified called | exitNotified called => exact .inl (callback_outgoing called)
  | sent => exact .inr ⟨_, .response, rfl⟩
  | createLate | createStopping | created | contentsThrown | contentsCreated | joinUnknown | joinFound | joinLate
  | joinClosed | joinEntered | joined | leaveUnindexed | leaveIndexed | leaveUnknown | leaveFound | leaveLate
  | leaveRefused | leaveExited | left | emptied | emptyStale | closed | completed | aborted => exact .inl rfl

theorem outgoing_of_executed (executed : Executed choice core task effect) :
    effect.core.outgoing = core.outgoing ∨
      ∃ frame, Sends core task frame ∧ effect.core.outgoing = core.outgoing ++ [frame] := by
  cases executed with
  | received received =>
    cases received with
    | ping => exact .inr ⟨_, .pong, rfl⟩
    | forwardUnindexed | forwardIndexed | cancelled | refused | admitted => exact .inl rfl
  | staged ran => exact outgoing_of_ran ran
  | forwarded called => exact .inl (callback_outgoing called)
  | notified => exact .inr ⟨_, .notification, rfl⟩
  | forwardStale | forwardFound | broadcast | kickAbsent | kickPresent | kicked | closed => exact .inl rfl

end Outgoing

theorem outgoing_grows {state after : State} {label : Label} (moved : step state label = some after) :
    state.core.outgoing <+: after.core.outgoing := by
  cases stepped_of_step moved with
  | delivered | called | stopped => exact List.prefix_rfl
  | ran split quiet executed =>
    rcases outgoing_of_executed executed with same | ⟨frame, -, more⟩
    · exact same ▸ List.prefix_rfl
    · exact ⟨[frame], more.symm⟩

/-! ## Responses -/

def Task.responds : Task → Prop
  | .handle _ (.complete response) => response.requestId.isSome
  | .handle _ (.sendResponse response) => response.requestId.isSome
  | _ => True

theorem responds_of_ran {choice : Choice} {core : Core} {request : Admitted} {stage : Stage} {effect : Effect}
    (ran : Ran choice core request stage effect) (responds : (Task.handle request stage).responds) :
    ∀ item ∈ items effect, item.responds := by
  cases ran with
  | @joined ptr uid inserted response room found =>
    cases inserted <;> simp [items, Task.responds, ToUser.requestId]
  | @exitNotified ptr uid empty after called => cases empty <;> simp [items, Task.responds]
  | completed =>
    simp only [items, complete]
    split
    · simpa [Task.responds] using responds
    · simp
  | createLate | createStopping | created | contentsThrown | contentsCreated | createNotified | joinUnknown
  | joinFound | joinLate | joinClosed | joinEntered | enterNotified | leaveUnindexed | leaveIndexed | leaveUnknown
  | leaveFound | leaveLate | leaveRefused | leaveExited | left | emptied | emptyStale | closed | sent | aborted =>
    simp [items, leaveUnknown, Task.responds, ToUser.requestId]

theorem requestOf_responds {message : ToRoom} {requestId : Nat} {resType : MessageType} {first : Stage}
    (request : requestOf message = some (requestId, resType, first)) (admitted : Admitted) :
    (Task.handle admitted first).responds := by
  cases message <;> cases request <;> exact trivial

theorem responds_of_executed {choice : Choice} {core : Core} {task : Task} {effect : Effect}
    (executed : Executed choice core task effect) (responds : task.responds) : ∀ item ∈ items effect, item.responds := by
  cases executed with
  | received received =>
    cases received with
    | admitted known admitted => simpa [items] using requestOf_responds known _
    | ping | forwardUnindexed | forwardIndexed | cancelled | refused => simp [items, Task.responds]
  | staged ran => exact responds_of_ran ran responds
  | broadcast => simp [items, fwdClient, Task.responds]
  | forwardStale | forwardFound | forwarded | kickAbsent | kickPresent | kicked | notified | closed =>
    simp [items, Task.responds]

def Responding (state : State) : Prop := ∀ task, Waiting state task → task.responds

theorem responding_step {state after : State} {label : Label} (responding : Responding state)
    (moved : step state label = some after) : Responding after := by
  have external : (∀ thread choice, label ≠ .run thread choice) → Responding after := by
    intro external item waits
    rcases outer_unran (stepped_of_step moved) external waits with waits | outer
    · exact responding item waits
    · cases item <;> first | exact trivial | cases outer
  cases stepped_of_step moved with
  | delivered | called | stopped => exact external (by simp)
  | ran split quiet executed =>
    intro item waits
    rcases (waiting_ran item).mp waits with new | still
    · exact responds_of_executed executed (responding _ ((waiting_split split _).mpr (.inl rfl))) item new
    · exact responding item ((waiting_split split item).mpr (.inr still))

theorem responding_reached {history : History} {state : State} (run : Reaches history state) : Responding state := by
  refine run.invariant ?_ (fun _ _ _ => responding_step)
  simp [Responding, initial, Waiting]

/-! ## Users under their own uids -/

def Named (members : List Membership) : Prop :=
  ∀ (ptr : RoomPtr) (member : Membership), members[ptr]? = some member →
    ∀ (uid : Uid) (user : User), member.users[uid]? = some user → user.uid = uid

theorem named_set {members : List Membership} {ptr : RoomPtr} {member after : Membership} (named : Named members)
    (found : members[ptr]? = some member)
    (kept : ∀ (uid : Uid) (user : User), after.users[uid]? = some user →
      member.users[uid]? = some user ∨ user.uid = uid) : Named (members.set ptr after) := by
  intro target stored here uid user present
  rw [heap_get_set found] at here
  split at here
  · cases here
    rcases kept uid user present with present | same
    · exact named ptr member found uid user present
    · exact same
  · exact named target stored here uid user present

theorem named_erase {users : Std.ExtTreeMap Uid User} {gone uid : Uid} {user : User}
    (present : (users.erase gone)[uid]? = some user) : users[uid]? = some user := by
  rw [Std.ExtTreeMap.getElem?_erase] at present
  split at present
  · cases present
  · exact present

theorem named_touch {choice : Choice} {core : Core} {task : Task} {effect : Effect} (named : Named core.members)
    (touch : Touch choice core task effect) : Named effect.core.members := by
  cases touch with
  | create queued running make manager members plain =>
    rw [members]
    intro ptr member found uid user present
    rw [heap_get_concat] at found
    split at found
    · cases found
      subst make
      simp only [Room.make, Room.membership, Std.ExtTreeMap.getElem?_insert, Std.ExtTreeMap.getElem?_empty] at present
      split at present
      · next same =>
        cases present
        simpa using same
      · cases present
    · exact named ptr member found uid user present
  | enter member queued found isOpen manager members next posts =>
    rw [members]
    refine named_set named found fun uid user present => ?_
    simp only [Std.ExtTreeMap.getElem?_insert] at present
    split at present
    · next same =>
      cases present
      exact .inr (by simpa using same)
    · exact .inl present
  | exit member found isOpen manager members | kick member found manager members =>
    rw [members]
    exact named_set named found fun uid user present => .inl (named_erase present)
  | close member closes found manager members plain =>
    rw [members]
    exact named_set named found fun uid user present => .inl present
  | same quiet manager members | index member found registered manager members
  | indexStale member found stale manager members | unindex member found registered indexed manager members
  | unindexStale member found elsewhere manager members | unregister member found registered manager members =>
    exact members ▸ named

theorem named_step {state after : State} {label : Label} (named : Named state.core.members)
    (moved : step state label = some after) : Named after.core.members := by
  cases stepped_of_step moved with
  | delivered | called | stopped => exact named
  | ran split quiet executed => exact named_touch named (touch_of_executed executed)

theorem named_reached {history : History} {state : State} (run : Reaches history state) : Named state.core.members := by
  apply run.history (fun _ state => Named state.core.members)
  · simp [Named, initial, Core.members]
  · exact fun past move reached named moved mem => named_step named moved

/-! ## Broadcasts and their copies -/

structure Broadcast where
  room : RoomPtr
  strand : Fin 3
  users : List User
  message : String
  deriving DecidableEq, Repr

def broadcast (move : Transition State Label) : Option Broadcast :=
  match move.label with
  | .api ptr (.sendToUser uids message) =>
      (move.before.core.heap[ptr]?).bind fun room =>
        (room.findUsers uids).map fun users => { room := ptr, strand := room.strand, users, message }
  | _ => none

def posted (history : History) : List (Broadcast × Nat) := (history.filterMap broadcast).zipIdx

structure Copy where
  post : Broadcast × Nat
  user : User
  deriving DecidableEq, Repr

def frameFor (user : User) (message : String) : Outgoing :=
  ⟨user.route, .kUser2RoomFwdClient, .fwdClient { senderType := .kContent, uid := user.uid, message }⟩

namespace Copy

def thread (self : Copy) : Thread := .strand self.post.1.strand

def frame (self : Copy) : Outgoing := frameFor self.user self.post.1.message

end Copy

def copiesOf (post : Broadcast × Nat) : List Copy := post.1.users.map (Copy.mk post)

def copies (history : History) : List Copy := (posted history).flatMap copiesOf

theorem posted_nodup (history : History) : (posted history).Nodup := by
  apply List.Nodup.of_map Prod.snd
  rw [posted, List.zipIdx_map_snd]
  exact List.nodup_range'

theorem posted_concat (history : History) (move : Transition State Label) :
    posted (history ++ [move]) =
      posted history ++ (broadcast move).toList.map (·, (history.filterMap broadcast).length) := by
  rw [posted, posted, List.filterMap_append, List.zipIdx_append]
  cases made : broadcast move <;> simp [made]

theorem copies_concat (history : History) (move : Transition State Label) :
    copies (history ++ [move]) = copies history ++
      ((broadcast move).toList.map (·, (history.filterMap broadcast).length)).flatMap copiesOf := by
  rw [copies, posted_concat, List.flatMap_append]
  rfl

def Task.frames : Task → List Outgoing
  | .sendToUserImpl users message => users.map (frameFor · message)
  | .sendNotification destination type (.fwdClient message) => [⟨destination, type, .fwdClient message⟩]
  | _ => []

def pending (pool : Pool Thread Task) (thread : Thread) : List Outgoing := (pool.queue thread).flatMap Task.frames

def Task.forwarded : Task → Option Outgoing
  | .sendNotification destination type (.fwdClient message) => some ⟨destination, type, .fwdClient message⟩
  | _ => none

def forwards (move : Transition State Label) : Option (Thread × Outgoing) :=
  match move.label with
  | .run thread _ => (executed move).bind fun ran => ran.2.forwarded.map (Prod.mk thread)
  | _ => none

/-- On every thread: what it sent and what it will send are the copies of its broadcasts. -/
def Copied (history : History) (state : State) : Prop :=
  ∀ thread, ((history.filterMap forwards).filter fun sent => sent.1 = thread).map Prod.snd ++
    pending state.pool thread = ((copies history).filter fun copy => copy.thread = thread).map Copy.frame

section Copied

variable {choice : Choice} {core : Core} {task : Task} {effect : Effect} {state : State} {history : History}

theorem pending_append (pool more : Pool Thread Task) (thread : Thread) :
    pending (pool ++ more) thread = pending pool thread ++ pending more thread := by
  simp [pending]

theorem pending_silent {pool : Pool Thread Task} (silent : ∀ entry ∈ pool, entry.2.frames = []) (thread : Thread) :
    pending pool thread = [] := by
  apply List.flatMap_eq_nil_iff.mpr
  intro item mem
  exact silent (thread, item) (Pool.mem_queue.mp mem)

theorem pending_extended (pool : Pool Thread Task) {more : Pool Thread Task}
    (silent : ∀ entry ∈ more, entry.2.frames = []) (thread : Thread) :
    pending (pool ++ more) thread = pending pool thread := by
  rw [pending_append, pending_silent silent, List.append_nil]

theorem pending_ran (item : Task) {thread : Thread} {before later : Pool Thread Task} {next : List Task}
    {posts : Pool Thread Task} (quiet : Pool.idle before thread) (silent : ∀ entry ∈ posts, entry.2.frames = [])
    (other : Thread) :
    pending (next.map (Prod.mk thread) ++ (before ++ later) ++ posts) other =
      if thread = other then next.flatMap Task.frames ++ (Pool.queue later other).flatMap Task.frames
      else pending (before ++ (thread, item) :: later) other := by
  have posted : (Pool.queue posts other).flatMap Task.frames = [] := pending_silent silent other
  split
  · next same =>
    subst same
    rw [pending, Pool.queue_ran_self quiet, List.flatMap_append, List.flatMap_append, posted, List.append_nil]
  · next different =>
    rw [pending, Pool.queue_ran_other item different, List.flatMap_append, posted, List.append_nil]
    rfl

theorem pending_before {thread : Thread} {item : Task} {before later : Pool Thread Task}
    (quiet : Pool.idle before thread) :
    pending (before ++ (thread, item) :: later) thread =
      item.frames ++ (Pool.queue later thread).flatMap Task.frames := by
  rw [pending, Pool.queue_split quiet, List.flatMap_cons]

theorem frames_of_ran {request : Admitted} {stage : Stage} (ran : Ran choice core request stage effect) :
    ∀ item ∈ items effect, item.frames = [] := by
  cases ran with
  | @joined ptr uid inserted response room found => cases inserted <;> simp [items, Task.frames]
  | @exitNotified ptr uid empty after called => cases empty <;> simp [items, Task.frames]
  | completed =>
    simp only [items, complete]
    split <;> simp [Task.frames]
  | createLate | createStopping | created | contentsThrown | contentsCreated | createNotified | joinUnknown
  | joinFound | joinLate | joinClosed | joinEntered | enterNotified | leaveUnindexed | leaveIndexed | leaveUnknown
  | leaveFound | leaveLate | leaveRefused | leaveExited | left | emptied | emptyStale | closed | sent | aborted =>
    simp [items, leaveUnknown, Task.frames]

/-- An item makes the copies of a broadcast, sends one, or has nothing to do with them. -/
theorem frames_of_executed (executed : Executed choice core task effect) :
    (∃ users message, task = .sendToUserImpl users message ∧
      effect = { core, next := users.map (fwdClient · message) }) ∨
    (∃ destination type message, task = .sendNotification destination type (.fwdClient message) ∧
      effect = { core := core.send ⟨destination, type, .fwdClient message⟩ }) ∨
    (task.frames = [] ∧ ∀ item ∈ items effect, item.frames = []) := by
  cases executed with
  | received received =>
    refine .inr (.inr ⟨rfl, ?_⟩)
    cases received with
    | admitted | ping | forwardUnindexed | forwardIndexed | cancelled | refused => simp [items, Task.frames]
  | staged ran => exact .inr (.inr ⟨rfl, frames_of_ran ran⟩)
  | broadcast => exact .inl ⟨_, _, rfl, rfl⟩
  | @notified destination type notification =>
    cases notification with
    | fwdClient message => exact .inr (.inl ⟨destination, type, message, rfl, rfl⟩)
    | _ => exact .inr (.inr ⟨rfl, by simp [items]⟩)
  | forwardStale | forwardFound | forwarded | kickAbsent | kickPresent | kicked | closed =>
    exact .inr (.inr ⟨rfl, by simp [items, Task.frames]⟩)

theorem forwards_ran (choice : Choice) (after : State) {thread : Thread} {before later : Pool Thread Task}
    (split : state.pool = before ++ (thread, task) :: later) (quiet : Pool.idle before thread) :
    forwards ⟨state, .run thread choice, after⟩ = task.forwarded.map (Prod.mk thread) := by
  simp [forwards, executed_ran choice after split quiet]

/-- A step that neither posts a broadcast nor touches what the threads have to send. -/
theorem copied_quiet {move : Transition State Label} (copied : Copied history state)
    (unposted : broadcast move = none) (unsent : forwards move = none)
    (same : ∀ thread, pending move.after.pool thread = pending state.pool thread) :
    Copied (history ++ [move]) move.after := by
  intro thread
  rw [copies_concat, List.filterMap_append, same]
  simpa [unposted, unsent] using copied thread

theorem copied_called {ptr : RoomPtr} {room : Room} {uids : List Uid} {message : String} {users : List User}
    (copied : Copied history state) (found : state.core.heap[ptr]? = some room)
    (asked : room.findUsers uids = some users) :
    Copied (history ++ [⟨state, .api ptr (.sendToUser uids message),
      ⟨state.core, state.pool ++ [(.strand room.strand, .sendToUserImpl users message)]⟩⟩])
      ⟨state.core, state.pool ++ [(.strand room.strand, .sendToUserImpl users message)]⟩ := by
  intro thread
  have made : ∀ after, broadcast ⟨state, .api ptr (.sendToUser uids message), after⟩ =
      some ⟨ptr, room.strand, users, message⟩ := by
    simp [broadcast, found, asked]
  have unsent : ∀ after, forwards ⟨state, .api ptr (.sendToUser uids message), after⟩ = none := fun _ => rfl
  rw [copies_concat, List.filterMap_append, List.filter_append, List.filter_append, List.map_append, List.map_append,
    ← copied thread, pending_append, made]
  -- The copies the new item will make are those of the new broadcast.
  have added : pending [(.strand room.strand, .sendToUserImpl users message)] thread =
      ((copiesOf (⟨ptr, room.strand, users, message⟩, (history.filterMap broadcast).length)).filter
        fun copy => copy.thread = thread).map Copy.frame := by
    by_cases here : Thread.strand room.strand = thread
    · simp [pending, Pool.queue_cons, here, Task.frames, copiesOf, Copy.thread, Copy.frame, List.filter_map,
        Function.comp_def]
    · simp [pending, Pool.queue_cons, here, copiesOf, Copy.thread, List.filter_map, Function.comp_def]
  simp [unsent, added]

theorem copied_ran {thread : Thread} {before later : Pool Thread Task} (copied : Copied history state)
    (split : state.pool = before ++ (thread, task) :: later) (quiet : Pool.idle before thread)
    (executed : Executed choice state.core task effect) :
    Copied (history ++ [⟨state, .run thread choice, ranState thread before later effect⟩])
      (ranState thread before later effect) := by
  have ran := forwards_ran choice (ranState thread before later effect)
    split quiet
  rcases frames_of_executed executed with ⟨users, message, rfl, rfl⟩ | ⟨destination, type, message, rfl, rfl⟩ |
    ⟨silent, continued⟩
  · apply copied_quiet copied rfl ran
    intro other
    rw [split, pending_ran _ quiet (by simp)]
    split
    · next same =>
      subst same
      rw [pending_before quiet, List.flatMap_map, Task.frames, List.map_eq_flatMap]
      rfl
    · rfl
  · intro other
    have known := copied other
    rw [split] at known
    rw [copies_concat, List.filterMap_append, List.filterMap_cons, ran,
      pending_ran (.sendNotification destination type (.fwdClient message)) quiet (by simp)]
    by_cases same : thread = other
    · subst same
      rw [pending_before quiet] at known
      simpa [Task.forwarded, Task.frames, broadcast] using known
    · simpa [Task.forwarded, same, broadcast] using known
  · have unsent : task.forwarded = none := by
      cases task with
      | sendNotification destination type notification => cases notification <;> first | rfl | cases silent
      | _ => rfl
    apply copied_quiet copied rfl (by rw [ran, unsent, Option.map_none])
    intro other
    have posts : ∀ entry ∈ effect.posts, entry.2.frames = [] := fun entry mem =>
      continued entry.2 (List.mem_append_right _ (List.mem_map_of_mem mem))
    have next : effect.next.flatMap Task.frames = [] :=
      List.flatMap_eq_nil_iff.mpr fun item mem => continued item (List.mem_append_left _ mem)
    rw [split, pending_ran _ quiet posts]
    split
    · next same =>
      subst same
      rw [pending_before quiet, silent, next]
    · rfl

theorem copied_step {after : State} {label : Label} (copied : Copied history state)
    (moved : step state label = some after) : Copied (history ++ [⟨state, label, after⟩]) after := by
  cases stepped_of_step moved with
  | delivered quiet =>
    apply copied_quiet copied rfl rfl
    exact pending_extended _ (by simp [Task.frames])
  | @called ptr call room found contents =>
    cases call with
    | kickOutUser uid reason =>
      apply copied_quiet copied rfl rfl
      exact pending_extended _ (by simp [apiTask, Task.frames])
    | sendToUser uids message =>
      cases asked : room.findUsers uids with
      | none =>
        apply copied_quiet copied (by simp [broadcast, found, asked]) rfl
        exact pending_extended _ (by simp [apiTask, asked])
      | some users =>
        simp only [apiTask, asked, Option.map_some, Option.toList_some, List.map_cons, List.map_nil]
        exact copied_called copied found asked
  | stopped running =>
    apply copied_quiet copied rfl rfl
    apply pending_extended
    intro entry mem
    simp only [List.mem_filterMap, Option.map_eq_some_iff] at mem
    obtain ⟨ptr, closing, room, found, rfl⟩ := mem
    rfl
  | ran split quiet executed => exact copied_ran copied split quiet executed

theorem copied_reached (run : Reaches history state) : Copied history state := by
  apply run.history Copied
  · simp [Copied, copies, posted, pending, initial]
  · exact fun past move reached copied moved mem => copied_step copied moved

end Copied

/-! ## The frames sent are copies -/

theorem forwarded_of_executed {choice : Choice} {core : Core} {task : Task} {effect : Effect}
    (executed : Executed choice core task effect) (responds : task.responds) :
    (effect.core.outgoing.filter fun frame => frame.message.forward.isSome) =
      (core.outgoing.filter fun frame => frame.message.forward.isSome) ++ task.forwarded.toList := by
  rcases outgoing_of_executed executed with same | ⟨frame, sends, more⟩
  · have silent : task.forwarded = none := by
      cases executed with
      | notified => simp [Core.send] at same
      | _ => rfl
    simp [same, silent]
  · rw [more, List.filter_append]
    congr 1
    cases sends with
    | pong => rfl
    | @response request response =>
      cases response with
      | fwdClient message => cases responds
      | _ => rfl
    | @notification destination type notification => cases notification <;> rfl

theorem sent_of_reached {history : History} {state : State} (run : Reaches history state) :
    (state.core.outgoing.filter fun frame => frame.message.forward.isSome) =
      (history.filterMap forwards).map Prod.snd := by
  apply run.history fun past state => (state.core.outgoing.filter fun frame => frame.message.forward.isSome) =
    (past.filterMap forwards).map Prod.snd
  · rfl
  · rintro past ⟨state, label, after⟩ reached same moved -
    replace moved : step state label = some after := moved
    rw [List.filterMap_append, List.map_append, ← same]
    cases stepped_of_step moved with
    | delivered | called => simp [forwards]
    | stopped running => simp [forwards, shutdown]
    | @ran thread choice task before later effect split quiet executed =>
      have responds := responding_reached reached task ((waiting_split split task).mpr (.inl rfl))
      rw [forwarded_of_executed executed responds, List.filterMap_cons, forwards_ran choice _ split quiet]
      cases task.forwarded <;> rfl

/-- The frames for clients are copies of the broadcasts, those of a strand in their order. -/
theorem exists_copies {history : History} {state : State} (run : Reaches history state) :
    ∃ read : List Copy, read.map Copy.frame = state.core.outgoing.filter (fun frame => frame.message.forward.isSome) ∧
      ∀ thread, read.filter (·.thread = thread) <+: (copies history).filter (·.thread = thread) := by
  have each : ∀ thread, ((history.filterMap forwards).filter fun sent => sent.1 = thread).map Prod.snd <+:
      ((copies history).filter fun copy => copy.thread = thread).map Copy.frame := by
    intro thread
    rw [← copied_reached run thread]
    exact List.prefix_append _ _
  obtain ⟨read, same, begins⟩ := exists_sources Copy.thread Copy.frame (copies history) _ each
  refine ⟨read, ?_, begins⟩
  rw [sent_of_reached run, ← same, List.map_map]
  rfl

/-! ## One common order -/

theorem posted_strand {history : History} {state : State} (run : Reaches history state) :
    ∀ post ∈ posted history, ∃ member, state.core.members[post.1.room]? = some member ∧
      member.strand = post.1.strand := by
  apply run.history fun past state => ∀ post ∈ posted past, ∃ member,
    state.core.members[post.1.room]? = some member ∧ member.strand = post.1.strand
  · simp [posted]
  · rintro past ⟨state, label, after⟩ reached placed moved - post mem
    replace moved : step state label = some after := moved
    rw [posted_concat] at mem
    cases stepped_of_step moved with
    | delivered | stopped => exact placed post (by simpa [broadcast] using mem)
    | ran split quiet executed =>
      obtain ⟨member, found, same⟩ := placed post (by simpa [broadcast] using mem)
      obtain ⟨kept, stored, -, strand⟩ := touch_keeps_room (touch_of_executed executed) found
      exact ⟨kept, stored, strand.trans same⟩
    | @called ptr call room found contents =>
      rcases List.mem_append.mp mem with mem | mem
      · exact placed post mem
      · cases call with
        | kickOutUser uid reason => simp [broadcast] at mem
        | sendToUser uids message =>
          simp only [broadcast, found, Option.bind_some, Option.toList_map, List.mem_map, Option.mem_toList] at mem
          obtain ⟨made, ⟨users, asked, rfl⟩, rfl⟩ := mem
          exact ⟨room.membership, found_membership found, rfl⟩

def asked (move : Transition State Label) : List Uid :=
  match move.label with
  | .api _ (.sendToUser uids _) => uids
  | _ => []

/-- A broadcast asks for a user once, as one over `users()` does. -/
def AsksOnce (move : Transition State Label) : Prop := (asked move).Nodup

instance (move : Transition State Label) : Decidable (AsksOnce move) := inferInstanceAs (Decidable (asked move).Nodup)

theorem findUsers_uids {room : Room} {uids : List Uid} {users : List User}
    (named : ∀ (uid : Uid) (user : User), room.users[uid]? = some user → user.uid = uid)
    (asked : room.findUsers uids = some users) : users.map User.uid <+ uids := by
  simp only [Room.findUsers] at asked
  split at asked
  · cases asked
  · cases asked
    clear * - named
    induction uids with
    | nil => exact List.Sublist.slnil
    | cons uid rest ih =>
      cases found : room.users[uid]? with
      | none => simpa [List.filterMap_cons, found] using ih.cons uid
      | some user =>
        rw [List.filterMap_cons, found]
        simpa [named uid user found] using ih.cons_cons uid

theorem posted_distinct {history : History} {state : State} (run : Reaches history state)
    (once : ∀ move ∈ history, AsksOnce move) : ∀ post ∈ posted history, (post.1.users.map User.uid).Nodup := by
  apply run.history fun past _ => ∀ post ∈ posted past, (post.1.users.map User.uid).Nodup
  · simp [posted]
  · rintro past ⟨state, label, after⟩ reached distinct moved mem post posted
    rw [posted_concat] at posted
    rcases List.mem_append.mp posted with posted | posted
    · exact distinct post posted
    · cases label with
      | api ptr call =>
        cases call with
        | kickOutUser uid reason => simp [broadcast] at posted
        | sendToUser uids message =>
          simp only [broadcast, Option.mem_toList, List.mem_map, Option.bind_eq_some_iff,
            Option.map_eq_some_iff] at posted
          obtain ⟨made, ⟨room, found, users, asked, rfl⟩, rfl⟩ := posted
          have named := named_reached reached ptr room.membership (found_membership found)
          exact (findUsers_uids named asked).nodup (once _ mem)
      | _ => simp [broadcast] at posted

theorem copiesOf_sublist {post : Broadcast × Nat} (distinct : (post.1.users.map User.uid).Nodup) (room : RoomPtr)
    (uid : Uid) :
    ((copiesOf post).filter fun copy => copy.post.1.room = room ∧ copy.user.uid = uid).map Copy.post <+
      [post].filter fun post => post.1.room = room := by
  by_cases here : post.1.room = room
  · have single : (post.1.users.filter fun user => user.uid = uid).length ≤ 1 := by
      have parts : ((post.1.users.filter fun user => user.uid = uid).map User.uid).Nodup :=
        (List.filter_sublist.map User.uid).nodup distinct
      have same : (post.1.users.filter fun user => user.uid = uid).map User.uid =
          List.replicate (post.1.users.filter fun user => user.uid = uid).length uid := by
        apply List.map_eq_replicate_iff.mpr
        simp
      rw [same, List.nodup_replicate] at parts
      exact parts
    have shown : ((copiesOf post).filter fun copy => copy.post.1.room = room ∧ copy.user.uid = uid).map Copy.post =
        List.replicate (post.1.users.filter fun user => user.uid = uid).length post := by
      apply List.eq_replicate_iff.mpr
      simp [copiesOf, List.filter_map, Function.comp_def, here]
    rw [shown, List.filter_singleton]
    simpa [here] using (List.replicate_sublist_replicate post).mpr single
  · simp [copiesOf, List.filter_map, Function.comp_def, here]

theorem copies_sublist {history : History} {state : State} (run : Reaches history state)
    (once : ∀ move ∈ history, AsksOnce move) (room : RoomPtr) (uid : Uid) :
    ((copies history).filter fun copy => copy.post.1.room = room ∧ copy.user.uid = uid).map Copy.post <+
      (posted history).filter fun post => post.1.room = room := by
  have distinct := posted_distinct run once
  rw [copies]
  generalize posted history = posts at distinct ⊢
  induction posts with
  | nil => exact List.Sublist.slnil
  | cons post rest ih =>
    rw [List.flatMap_cons, List.filter_append, List.map_append, ← List.singleton_append, List.filter_append]
    exact (copiesOf_sublist (distinct post (by simp)) room uid).append
      (ih fun other mem => distinct other (List.mem_cons_of_mem _ mem))

theorem mem_copies {history : History} {copy : Copy} (mem : copy ∈ copies history) :
    copy.post ∈ posted history ∧ copy.user ∈ copy.post.1.users := by
  obtain ⟨post, posted, made⟩ := List.mem_flatMap.mp mem
  obtain ⟨user, asked, rfl⟩ := List.mem_map.mp made
  exact ⟨posted, asked⟩

/-- The frames for clients are copies of broadcasts, and those of one room for one user
leave in the order in which the room posted the broadcasts. -/
theorem sent_in_order {history : History} {state : State} (run : Reaches history state)
    (once : ∀ move ∈ history, AsksOnce move) :
    ∃ read : List Copy, read.map Copy.frame = state.core.outgoing.filter (fun frame => frame.message.forward.isSome) ∧
      (∀ copy ∈ read, copy ∈ copies history) ∧
      ∀ room uid, (read.filter fun copy => copy.post.1.room = room ∧ copy.user.uid = uid).map Copy.post <+
        (posted history).filter fun post => post.1.room = room := by
  obtain ⟨read, same, begins⟩ := exists_copies run
  have known : ∀ copy ∈ read, copy ∈ copies history := by
    intro copy mem
    have here := (begins copy.thread).subset (List.mem_filter.mpr ⟨mem, by simp⟩)
    exact (List.mem_filter.mp here).1
  refine ⟨read, same, known, fun room uid => ?_⟩
  refine List.Sublist.trans ?_ (copies_sublist run once room uid)
  apply List.Sublist.map
  -- All broadcasts of the room are on one strand, so the order kept there is that of the room.
  by_cases some : ∃ member, state.core.members[room]? = some member
  · obtain ⟨member, found⟩ := some
    have narrowed : ∀ list : List Copy, (∀ copy ∈ list, copy ∈ copies history) →
        (list.filter fun copy => copy.post.1.room = room ∧ copy.user.uid = uid) =
          (list.filter fun copy => copy.thread = .strand member.strand).filter
            fun copy => copy.post.1.room = room ∧ copy.user.uid = uid := by
      intro list within
      rw [List.filter_filter]
      apply List.filter_congr
      intro copy mem
      by_cases here : copy.post.1.room = room
      · obtain ⟨stored, present, strand⟩ := posted_strand run copy.post (mem_copies (within copy mem)).1
        rw [here, found] at present
        cases present
        simp [Copy.thread, strand]
      · simp [here]
    rw [narrowed read known, narrowed (copies history) fun copy mem => mem]
    exact (begins (.strand member.strand)).sublist.filter _
  · have none : (read.filter fun copy => copy.post.1.room = room ∧ copy.user.uid = uid) = [] := by
      apply List.filter_eq_nil_iff.mpr
      intro copy mem here
      obtain ⟨member, present, -⟩ := posted_strand run copy.post (mem_copies (known copy mem)).1
      rw [(by simpa using here : copy.post.1.room = room ∧ copy.user.uid = uid).1] at present
      exact some ⟨member, present⟩
    rw [none]
    exact List.nil_sublist _

end Rsp.RoomServer
