import Rsp.RoomServer.Placement

/-! The work of one admitted request.

All items of a request carry its ticket. One of them at a time has to produce the
answer; the others are the calls into the contents that follow it. This module says
what an item does to the work of its own request and to that of another one.
-/

set_option autoImplicit false

namespace Rsp.RoomServer

open Message Foundation

/-! ## Items of a ticket -/

def Task.workFor (ticket : Ticket) : Task → Option (Admitted × Stage)
  | .handle request stage => if request.ticket = ticket then some (request, stage) else none
  | _ => none

theorem workFor_some {ticket : Ticket} {task : Task} {entry : Admitted × Stage}
    (mine : task.workFor ticket = some entry) : ∃ request stage, task = .handle request stage ∧ request.ticket = ticket := by
  cases task with
  | handle request stage =>
    simp only [Task.workFor, Option.ite_none_right_eq_some] at mine
    exact ⟨request, stage, rfl, mine.1⟩
  | _ => cases mine

def work (ticket : Ticket) (pool : Pool Thread Task) : List (Admitted × Stage) :=
  pool.filterMap fun entry => entry.2.workFor ticket

def Stage.answering : Stage → Bool
  | .onCreateRoom _ | .onUserEnter .. | .onUserExit .. | .onEmpty _ | .closeImpl _ => false
  | _ => true

def slot (ticket : Ticket) (pool : Pool Thread Task) : List (Admitted × Stage) :=
  (work ticket pool).filter fun entry => entry.2.answering

@[simp] theorem work_append (ticket : Ticket) (first second : Pool Thread Task) :
    work ticket (first ++ second) = work ticket first ++ work ticket second := by
  simp [work]

theorem mem_work {ticket : Ticket} {pool : Pool Thread Task} {request : Admitted} {stage : Stage} :
    (request, stage) ∈ work ticket pool ↔
      (∃ thread, (thread, .handle request stage) ∈ pool) ∧ request.ticket = ticket := by
  simp only [work, List.mem_filterMap, Prod.exists]
  constructor
  · rintro ⟨thread, task, mem, selected⟩
    cases task with
    | handle other stage' =>
      simp only [Task.workFor, Option.ite_none_right_eq_some, Option.some.injEq, Prod.mk.injEq] at selected
      obtain ⟨same, rfl, rfl⟩ := selected
      exact ⟨⟨thread, mem⟩, same⟩
    | _ => cases selected
  · rintro ⟨⟨thread, mem⟩, rfl⟩
    exact ⟨thread, _, mem, by simp [Task.workFor]⟩

def added (ticket : Ticket) (effect : Effect) : List (Admitted × Stage) :=
  (items effect).filterMap (Task.workFor ticket)

section Pool

variable {thread : Thread} {task : Task} {before later : Pool Thread Task} {effect : Effect}

theorem work_split (ticket : Ticket) :
    (work ticket (before ++ (thread, task) :: later)).Perm
      ((task.workFor ticket).toList ++ work ticket (before ++ later)) := by
  simp only [work, List.filterMap_append, List.filterMap_cons]
  cases task.workFor ticket with
  | none => exact .refl _
  | some entry => exact List.perm_middle

/-- The work of a ticket after an item: what the item adds, and what was waiting besides it. -/
theorem work_ran (ticket : Ticket) :
    (work ticket (effect.next.map (Prod.mk thread) ++ (before ++ later) ++ effect.posts)).Perm
      (added ticket effect ++ work ticket (before ++ later)) := by
  have next : work ticket (effect.next.map (Prod.mk thread)) = effect.next.filterMap (Task.workFor ticket) := by
    simp only [work, List.filterMap_map]
    rfl
  have posts : work ticket effect.posts = (effect.posts.map Prod.snd).filterMap (Task.workFor ticket) := by
    simp only [work, List.filterMap_map]
    rfl
  rw [work_append, work_append _ (effect.next.map _), next, posts, added, items, List.filterMap_append,
    List.append_assoc, List.append_assoc]
  exact List.Perm.append_left _ List.perm_append_comm

end Pool

/-- The steps that execute no item leave the registry and the work of every ticket. -/
theorem work_unran {state after : State} {label : Label} (stepped : Stepped state label after)
    (external : ∀ thread choice, label ≠ .run thread choice) :
    after.core.registry = state.core.registry ∧ ∀ ticket, work ticket after.pool = work ticket state.pool := by
  cases stepped with
  | delivered quiet => exact ⟨rfl, fun ticket => by simp [work, Task.workFor]⟩
  | @ran thread choice => exact absurd rfl (external thread choice)
  | @called ptr call room found contents =>
    refine ⟨rfl, fun ticket => ?_⟩
    cases call with
    | sendToUser uids message =>
      cases users : room.findUsers uids <;> simp [apiTask, users, work, Task.workFor]
    | kickOutUser uid reason => simp [apiTask, work, Task.workFor]
  | stopped running =>
    refine ⟨rfl, fun ticket => ?_⟩
    simp only [shutdown, work_append]
    rw [List.append_right_eq_self, work, List.filterMap_eq_nil_iff]
    intro entry mem
    obtain ⟨ptr, -, closing⟩ := List.mem_filterMap.mp mem
    obtain ⟨room, -, rfl⟩ := Option.map_eq_some_iff.mp closing
    rfl

/-! ## The request of an item -/

theorem items_of_ran {choice : Choice} {core : Core} {request : Admitted} {stage : Stage} {effect : Effect}
    (ran : Ran choice core request stage effect) : ∀ item ∈ items effect, ∃ next, item = .handle request next := by
  cases ran with
  | @joined ptr uid inserted response room found => cases inserted <;> simp [items]
  | @exitNotified ptr uid empty after called => cases empty <;> simp [items]
  | completed =>
    simp only [items, complete]
    split <;> simp
  | createLate | createStopping | created | contentsThrown | contentsCreated | createNotified | joinUnknown
  | joinFound | joinLate | joinClosed | joinEntered | enterNotified | leaveUnindexed | leaveIndexed | leaveUnknown
  | leaveFound | leaveLate | leaveRefused | leaveExited | left | emptied | emptyStale | closed | sent | aborted =>
    simp [items, leaveUnknown]

theorem added_of_ran_other {choice : Choice} {core : Core} {request : Admitted} {stage : Stage} {effect : Effect}
    {ticket : Ticket} (ran : Ran choice core request stage effect) (other : request.ticket ≠ ticket) :
    added ticket effect = [] := by
  rw [added, List.filterMap_eq_nil_iff]
  intro item mem
  obtain ⟨next, rfl⟩ := items_of_ran ran item mem
  simp [Task.workFor, other]

theorem added_of_executed_other {choice : Choice} {core : Core} {task : Task} {effect : Effect} {ticket : Ticket}
    (executed : Executed choice core task effect) (other : task.workFor ticket = none)
    (known : ticket ≠ core.registry.tickets.length) : added ticket effect = [] := by
  cases executed with
  | received received =>
    cases received with
    | @admitted message requestId resType first number request admitted =>
      rcases core.registry.admitRequest_cases (core.currentRoute, requestId) choice.now with
        ⟨refused, -⟩ | ⟨fresh, -⟩
      · rw [refused] at admitted
        cases admitted
      · obtain rfl := Option.some.inj (admitted.symm.trans fresh)
        simp [added, items, Task.workFor, Ne.symm known]
    | ping | forwardUnindexed | forwardIndexed | cancelled | refused => simp [added, items, Task.workFor]
  | @staged request stage _ ran =>
    refine added_of_ran_other ran ?_
    intro same
    simp [Task.workFor, same] at other
  | broadcast =>
    rw [added, List.filterMap_eq_nil_iff]
    intro item mem
    simp only [items, List.map_nil, List.append_nil, List.mem_map] at mem
    obtain ⟨user, -, rfl⟩ := mem
    rfl
  | forwardStale | forwardFound | forwarded | kickAbsent | kickPresent | kicked | notified | closed =>
    simp [added, items, Task.workFor]

/-! ## What an item does to another ticket -/

/-- The registry as another request sees it: its key stays active, and a cancellation reaches it
only while it is queued. -/
structure Unmoved (ticket : Ticket) (key : RequestKey) (before after : QueuedRequests) : Prop where
  active : before.active[key]? = some ticket → after.active[key]? = some ticket
  state : after.state ticket = before.state ticket ∨
    (before.state ticket = some .kQueued ∧ after.state ticket = some .kCancelled)

section Registry

variable {ticket other : Ticket} {key : RequestKey} {registry : QueuedRequests}

theorem Unmoved.refl : Unmoved ticket key registry registry := ⟨id, .inl rfl⟩

theorem unmoved_start (different : other ≠ ticket) : Unmoved ticket key registry (registry.tryStart other).1 := by
  refine ⟨by simp, .inl ?_⟩
  simp [QueuedRequests.tryStart_state, different]

theorem unmoved_finish {id : RequestKey} {now : Nat} (different : other ≠ ticket) :
    Unmoved ticket key registry (registry.finish id other now).1 := by
  rcases registry.finish_cases id other now with ⟨found, -, active, tickets⟩ | ⟨-, same⟩
  · refine ⟨?_, .inl (by rw [QueuedRequests.state, tickets]; rfl)⟩
    intro held
    have apart : id ≠ key := by
      rintro rfl
      exact different (Option.some.inj (found.symm.trans held))
    rw [active, Std.ExtTreeMap.getElem?_erase]
    simp [apart, held]
  · rw [same]
    exact .refl

theorem unmoved_cancel {id : RequestKey} {now : Nat} : Unmoved ticket key registry (registry.cancel id now) := by
  refine ⟨by simp, ?_⟩
  rw [QueuedRequests.cancel_state]
  split
  · next queued => exact .inr ⟨queued.2, rfl⟩
  · exact .inl rfl

theorem unmoved_admit {id : RequestKey} {now : Nat} (known : ticket < registry.tickets.length) :
    Unmoved ticket key registry (registry.admitRequest id now).1 := by
  rcases registry.admitRequest_cases id now with ⟨-, active, tickets⟩ | ⟨-, free, active, tickets⟩
  · refine ⟨fun held => active ▸ held, .inl ?_⟩
    rw [QueuedRequests.state, tickets]
    rfl
  · refine ⟨?_, .inl ?_⟩
    · intro held
      have apart : id ≠ key := by
        rintro rfl
        rw [free] at held
        cases held
      rw [active, Std.ExtTreeMap.getElem?_insert]
      simp [apart, held]
    · rw [QueuedRequests.state, tickets, List.getElem?_append_left known]
      rfl

end Registry

theorem callback_frame {core after : Core} {ptr : RoomPtr} {call : Callback}
    (called : core.callback ptr call = some after) :
    after.registry = core.registry ∧ after.outgoing = core.outgoing := by
  simp only [Core.callback, Option.bind_eq_bind, Option.pure_def, Option.bind_eq_some_iff, Option.some.injEq] at called
  obtain ⟨room, -, called, -, rfl⟩ := called
  exact ⟨rfl, rfl⟩

theorem unmoved_of_ran {choice : Choice} {core : Core} {request : Admitted} {stage : Stage} {effect : Effect}
    {ticket : Ticket} {key : RequestKey} (ran : Ran choice core request stage effect)
    (other : request.ticket ≠ ticket) : Unmoved ticket key core.registry effect.core.registry := by
  cases ran with
  | createStopping | created | joinUnknown | joinClosed | joinEntered | leaveUnindexed | leaveUnknown | leaveRefused
  | leaveExited => exact unmoved_start other
  | createNotified found called | enterNotified called | exitNotified called =>
    rw [(callback_frame called).1]
    exact .refl
  | completed | aborted => exact unmoved_finish other
  | createLate | contentsThrown | contentsCreated | joinFound | joinLate | joined | leaveIndexed | leaveFound
  | leaveLate | left | emptied | emptyStale | closed | sent => exact .refl

theorem unmoved_of_executed {choice : Choice} {core : Core} {task : Task} {effect : Effect} {ticket : Ticket}
    {key : RequestKey} (executed : Executed choice core task effect) (other : task.workFor ticket = none)
    (known : ticket < core.registry.tickets.length) : Unmoved ticket key core.registry effect.core.registry := by
  cases executed with
  | received received =>
    cases received with
    | cancelled => exact unmoved_cancel
    | refused | admitted => exact unmoved_admit known
    | ping | forwardUnindexed | forwardIndexed => exact .refl
  | @staged request stage _ ran =>
    refine unmoved_of_ran ran ?_
    intro same
    simp [Task.workFor, same] at other
  | forwarded called =>
    rw [(callback_frame called).1]
    exact .refl
  | forwardStale | forwardFound | broadcast | kickAbsent | kickPresent | kicked | notified | closed => exact .refl

/-! ## What an item does for its own ticket -/

def answers : ToRoom → ToUser → Prop
  | .reqCreateRoom message, .resCreateRoom response => response.requestId = message.requestId
  | .reqJoinRoom message, .resJoinRoom response => response.requestId = message.requestId
  | .reqLeaveRoom message, .resLeaveRoom response => response.requestId = message.requestId
  | _, _ => False

def Stage.initial : Stage → Bool
  | .createRoom _ | .findJoin _ | .joinRoom .. | .findLeave _ | .findLeaveRoom .. | .leaveRoom .. => true
  | _ => false

def Stage.middle : Stage → Bool
  | .createContents .. | .joinedRoom .. | .leftRoom .. => true
  | _ => false

def Stage.serves (message : ToRoom) : Stage → Prop
  | .createRoom request => message = .reqCreateRoom request
  | .createContents _ response => answers message (.resCreateRoom response)
  | .findJoin request => message = .reqJoinRoom request
  | .joinRoom _ _ response => answers message (.resJoinRoom response)
  | .joinedRoom _ _ _ response => answers message (.resJoinRoom response)
  | .findLeave request => message = .reqLeaveRoom request
  | .findLeaveRoom request _ => message = .reqLeaveRoom request
  | .leaveRoom _ _ response => answers message (.resLeaveRoom response)
  | .leftRoom _ _ _ response => answers message (.resLeaveRoom response)
  | .complete response => answers message response
  | .sendResponse response => answers message response
  | _ => True

theorem answers_join {message : ToRoom} {response : User2RoomResJoinRoom}
    (holds : answers message (.resJoinRoom response)) (success : Bool) :
    answers message (.resJoinRoom { response with success }) := by
  cases message <;> exact holds

theorem answers_leave {message : ToRoom} {response : User2RoomResLeaveRoom}
    (holds : answers message (.resLeaveRoom response)) (success : Bool) :
    answers message (.resLeaveRoom { response with success }) := by
  cases message <;> exact holds

section Own

variable {choice : Choice} {core : Core} {request : Admitted} {stage : Stage} {effect : Effect} {message : ToRoom}

theorem workFor_self (stage : Stage) : (Task.handle request stage).workFor request.ticket = some (request, stage) := by
  simp [Task.workFor]

theorem added_next (core : Core) (next : Stage) :
    added request.ticket { core, next := [.handle request next] } = [(request, next)] := by
  simp [added, items, workFor_self]

theorem added_post (core : Core) (thread : Thread) (next : Stage) :
    added request.ticket { core, posts := [(thread, .handle request next)] } = [(request, next)] := by
  simp [added, items, workFor_self]

/-- The item that follows a stage before the start: a further look-up, the completion of a cancelled
request, or, once started, the mutation or an answer. -/
inductive Begun (message : ToRoom) (core : Core) (request : Admitted) (effect : Effect) (next : Stage) : Prop where
  | waits (initial : next.initial = true) (serves : next.serves message) (same : effect.core = core)
  | dropped (cancelled : core.registry.state request.ticket = some .kCancelled) (same : effect.core = core)
      (completes : ∃ response, next = .complete response)
  | started (queued : core.registry.state request.ticket = some .kQueued)
      (registry : effect.core.registry = (core.registry.tryStart request.ticket).1)
      (silent : effect.core.outgoing = core.outgoing) (serves : next.serves message)
      (continues : next.middle = true ∨ next = .abort ∨ ∃ response, next = .complete response)

theorem ran_initial (ran : Ran choice core request stage effect) (initial : stage.initial = true)
    (serves : stage.serves message)
    (unstarted : core.registry.state request.ticket = some .kQueued ∨
      core.registry.state request.ticket = some .kCancelled) :
    ∃ next, added request.ticket effect = [(request, next)] ∧ Begun message core request effect next := by
  have refused : core.registry.state request.ticket ≠ some .kQueued →
      core.registry.state request.ticket = some .kCancelled := fun late => unstarted.resolve_left late
  -- The branches that answer at once ignore what `begin` returns: a cancelled ticket stays as it is.
  have answered : ∀ response, answers message response → Begun message core request
      { core := (core.start request).1, next := [.handle request (.complete response)] } (.complete response) := by
    intro response holds
    by_cases queued : core.registry.state request.ticket = some .kQueued
    · exact .started queued rfl rfl holds (.inr (.inr ⟨response, rfl⟩))
    · exact .dropped (refused queued) (by rw [start_late queued]) ⟨response, rfl⟩
  cases ran with
  | createLate late | joinLate late | leaveLate late => exact ⟨_, added_next _ _, .dropped (refused late) rfl ⟨_, rfl⟩⟩
  | createStopping queued stopping =>
    exact ⟨_, added_next _ _, .started queued rfl rfl trivial (.inr (.inl rfl))⟩
  | created queued running lower upper =>
    obtain rfl : message = _ := serves
    exact ⟨_, added_next _ _, .started queued rfl rfl (by rfl) (.inl rfl)⟩
  | joinUnknown | leaveUnindexed | leaveUnknown =>
    obtain rfl : message = _ := serves
    exact ⟨_, added_next _ _, answered _ (by rfl)⟩
  | joinFound | leaveFound =>
    obtain rfl : message = _ := serves
    exact ⟨_, added_post _ _ _, .waits rfl (by rfl) rfl⟩
  | joinClosed queued found closed => exact ⟨_, added_next _ _, answered _ (answers_join serves false)⟩
  | joinEntered queued | leaveExited queued => exact ⟨_, added_next _ _, .started queued rfl rfl serves (.inl rfl)⟩
  | leaveIndexed indexed => exact ⟨_, added_next _ _, .waits rfl serves rfl⟩
  | leaveRefused queued found refused => exact ⟨_, added_next _ _, answered _ (answers_leave serves false)⟩
  | contentsThrown | contentsCreated | createNotified | joined | enterNotified | left | exitNotified | emptied
  | emptyStale | closed | completed | sent | aborted => cases initial

/-- The mutation ends in a completion with an answer, besides the calls into the contents. -/
theorem ran_middle (ran : Ran choice core request stage effect) (middle : stage.middle = true)
    (serves : stage.serves message) :
    effect.core.registry = core.registry ∧ effect.core.outgoing = core.outgoing ∧
    ∃ next, (added request.ticket effect).filter (fun entry => entry.2.answering) = [(request, next)] ∧
      next.serves message ∧ (next = .abort ∨ ∃ response, next = .complete response) := by
  cases ran with
  | contentsThrown thrown =>
    exact ⟨rfl, rfl, .abort, by simp [added, items, workFor_self, Stage.answering], trivial, .inl rfl⟩
  | @contentsCreated ptr response room found =>
    exact ⟨rfl, rfl, .complete (.resCreateRoom response), by simp [added, items, workFor_self, Stage.answering],
      serves, .inr ⟨_, rfl⟩⟩
  | @joined ptr uid inserted response room found =>
    have serves := answers_join serves (core.manager.joinedRoom uid ptr room.roomId).2
    refine ⟨rfl, rfl, .complete _, ?_, serves, .inr ⟨_, rfl⟩⟩
    cases inserted <;> simp [added, items, workFor_self, Stage.answering]
  | @left ptr uid empty response room found =>
    have serves := answers_leave serves (core.manager.leftRoom uid ptr room.roomId).2
    exact ⟨rfl, rfl, .complete _, by simp [added, items, workFor_self, Stage.answering], serves, .inr ⟨_, rfl⟩⟩
  | createLate | createStopping | created | createNotified | joinUnknown | joinFound | joinLate | joinClosed
  | joinEntered | enterNotified | leaveUnindexed | leaveIndexed | leaveUnknown | leaveFound | leaveLate | leaveRefused
  | leaveExited | exitNotified | emptied | emptyStale | closed | completed | sent | aborted => cases middle

theorem ran_trailing (ran : Ran choice core request stage effect) (trailing : stage.answering = false) :
    effect.core.registry = core.registry ∧ effect.core.outgoing = core.outgoing ∧
    (added request.ticket effect).filter (fun entry => entry.2.answering) = [] := by
  cases ran with
  | createNotified found called | enterNotified called =>
    exact ⟨(callback_frame called).1, (callback_frame called).2, by simp [added, items]⟩
  | @exitNotified ptr uid empty after called =>
    refine ⟨(callback_frame called).1, (callback_frame called).2, ?_⟩
    cases empty <;> simp [added, items, workFor_self, Stage.answering]
  | emptied | emptyStale | closed => exact ⟨rfl, rfl, by simp [added, items, workFor_self, Stage.answering]⟩
  | createLate | createStopping | created | contentsThrown | contentsCreated | joinUnknown | joinFound | joinLate
  | joinClosed | joinEntered | joined | leaveUnindexed | leaveIndexed | leaveUnknown | leaveFound | leaveLate
  | leaveRefused | leaveExited | left | completed | sent | aborted => cases trailing

/-- An active request is completed once, with a response only if it was started. -/
theorem ran_complete {response : ToUser} (ran : Ran choice core request (.complete response) effect)
    (held : core.registry.active[request.key]? = some request.ticket) :
    effect.core.manager = core.manager ∧ effect.core.heap = core.heap ∧ effect.core.outgoing = core.outgoing ∧
    (∀ ticket, effect.core.registry.state ticket = core.registry.state ticket) ∧
    added request.ticket effect =
      if core.registry.state request.ticket = some .kStarted then [(request, .sendResponse response)] else [] := by
  cases ran with
  | completed =>
    rcases core.registry.finish_cases request.key request.ticket choice.now with
      ⟨-, finished, -, tickets⟩ | ⟨absent, -⟩
    · refine ⟨rfl, rfl, rfl, ?_, ?_⟩
      · intro ticket
        simp only [complete, QueuedRequests.state, tickets]
      · by_cases started : core.registry.state request.ticket = some .kStarted <;>
        simp [complete, added, items, finished, QueuedRequests.started, started, workFor_self]
    · exact absurd held absent

end Own

end Rsp.RoomServer
