import Rsp.RoomServer.Undisputed

/-! What a reply to a join or a leave says.

`Course` follows one such request: until its strand task starts it has changed nothing, and
then it is either refused without a trace or carried out in the room and in the index. The
reply says which of the two it was as long as the manager never refuses to record a change
that was made in the room.
-/

set_option autoImplicit false

namespace Rsp.RoomServer

open Message Foundation

/-! ## What a request does -/

structure Still (move : Transition State Label) : Prop where
  manager : move.after.core.manager = move.before.core.manager
  rooms : move.after.core.heap = move.before.core.heap

def AddsMember (request : Admitted) (ptr : RoomPtr) (uid : Uid) (move : Transition State Label) : Prop :=
  ∃ choice response room, executed move = some (choice, .handle request (.joinRoom ptr uid response)) ∧
    move.before.core.heap[ptr]? = some room ∧
    move.after.core.heap[ptr]? = some { room with users := room.users.insert uid ⟨uid, request.destination⟩ }

def MapsUser (request : Admitted) (ptr : RoomPtr) (uid : Uid) (move : Transition State Label) : Prop :=
  ∃ choice inserted response room,
    executed move = some (choice, .handle request (.joinedRoom ptr uid inserted response)) ∧
    move.before.core.heap[ptr]? = some room ∧ move.before.core.manager.rooms[room.roomId]? = some ptr ∧
    move.after.core.manager.userRooms = move.before.core.manager.userRooms.insert uid room.roomId

def RemovesMember (request : Admitted) (ptr : RoomPtr) (uid : Uid) (move : Transition State Label) : Prop :=
  ∃ choice response room, executed move = some (choice, .handle request (.leaveRoom ptr uid response)) ∧
    move.before.core.heap[ptr]? = some room ∧ uid ∈ room.users ∧
    move.after.core.heap[ptr]? = some { room with users := room.users.erase uid }

def UnmapsUser (request : Admitted) (ptr : RoomPtr) (uid : Uid) (move : Transition State Label) : Prop :=
  ∃ choice empty response room,
    executed move = some (choice, .handle request (.leftRoom ptr uid empty response)) ∧
    move.before.core.heap[ptr]? = some room ∧ move.before.core.manager.userRooms[uid]? = some room.roomId ∧
    move.after.core.manager.userRooms = move.before.core.manager.userRooms.erase uid

def Joins (request : Admitted) (uid : Uid) (history : History) : Prop :=
  ∃ ptr, (∃ move ∈ history, AddsMember request ptr uid move) ∧ ∃ move ∈ history, MapsUser request ptr uid move

def Leaves (request : Admitted) (uid : Uid) (history : History) : Prop :=
  ∃ ptr, (∃ move ∈ history, RemovesMember request ptr uid move) ∧ ∃ move ∈ history, UnmapsUser request ptr uid move

def Effected (request : Admitted) (history : History) : ToRoom → Prop
  | .reqJoinRoom message => Joins request message.uid history
  | .reqLeaveRoom message => Leaves request message.uid history
  | _ => False

def Quiet (ticket : Ticket) (history : History) : Prop :=
  ∀ move ∈ history, worksFor ticket move → Still move ∧ ∀ found ∈ executed move, ¬ found.2.commits

def succeeds : ToUser → Bool
  | .resCreateRoom response => response.success
  | .resJoinRoom response => response.success
  | .resLeaveRoom response => response.success
  | _ => false

section Histories

variable {request : Admitted} {message : ToRoom} {first second history : History}

theorem effected_mono (subset : ∀ move ∈ first, move ∈ second) (effected : Effected request first message) :
    Effected request second message := by
  cases message with
  | reqJoinRoom message =>
    obtain ⟨ptr, ⟨enter, mem, enters⟩, index, mem', indexes⟩ := effected
    exact ⟨ptr, ⟨enter, subset _ mem, enters⟩, index, subset _ mem', indexes⟩
  | reqLeaveRoom message =>
    obtain ⟨ptr, ⟨exit, mem, exits⟩, index, mem', unindexes⟩ := effected
    exact ⟨ptr, ⟨exit, subset _ mem, exits⟩, index, subset _ mem', unindexes⟩
  | ping | reqCreateRoom | fwdRoom | cancelRequest => cases effected

theorem effected_loud (effected : Effected request history message) : ¬ Quiet request.ticket history := by
  have loud : ∀ {move : Transition State Label} {choice : Choice} {stage : Stage}, move ∈ history →
      executed move = some (choice, .handle request stage) → (Task.handle request stage).commits →
      ¬ Quiet request.ticket history := by
    intro move choice stage mem runs commits quiet
    have works : worksFor request.ticket move = true := by
      rw [worksFor_executed runs, workFor_self]
      rfl
    exact (quiet move mem works).2 _ runs commits
  cases message with
  | reqJoinRoom message =>
    obtain ⟨ptr, -, move, mem, choice, inserted, response, room, runs, -⟩ := effected
    exact loud mem runs trivial
  | reqLeaveRoom message =>
    obtain ⟨ptr, -, move, mem, choice, empty, response, room, runs, -⟩ := effected
    exact loud mem runs trivial
  | ping | reqCreateRoom | fwdRoom | cancelRequest => cases effected

theorem quiet_concat {ticket : Ticket} {move : Transition State Label} (quiet : Quiet ticket history)
    (still : worksFor ticket move → Still move ∧ ∀ found ∈ executed move, ¬ found.2.commits) :
    Quiet ticket (history ++ [move]) := by
  intro other mem works
  rcases List.mem_append.mp mem with mem | mem
  · exact quiet other mem works
  · obtain rfl := List.mem_singleton.mp mem
    exact still works

end Histories

/-! ## The course of a join or leave -/

def Stage.asks : ToRoom → Stage → Prop
  | .reqJoinRoom message, .findJoin other => other = message
  | .reqJoinRoom message, .joinRoom _ uid _ => uid = message.uid
  | .reqLeaveRoom message, .findLeave other => other = message
  | .reqLeaveRoom message, .findLeaveRoom other _ => other = message
  | .reqLeaveRoom message, .leaveRoom _ uid _ => uid = message.uid
  | _, _ => False

def Stage.records (request : Admitted) (history : History) : ToRoom → Stage → Prop
  | .reqJoinRoom message, .joinedRoom ptr uid .. => uid = message.uid ∧ ∃ move ∈ history, AddsMember request ptr uid move
  | .reqLeaveRoom message, .leftRoom ptr uid .. => uid = message.uid ∧ ∃ move ∈ history, RemovesMember request ptr uid move
  | _, _ => False

def Stage.concludes (success : Bool) : Stage → Prop
  | .complete response => succeeds response = success
  | .sendResponse response => succeeds response = success
  | _ => False

/-- How far a join or leave has come, and what it has changed by then. -/
inductive Course (message : ToRoom) (request : Admitted) (history : History) (state : State) : Prop where
  | waiting (stage : Stage) (only : work request.ticket state.pool = [(request, stage)]) (asks : stage.asks message)
      (quiet : Quiet request.ticket history) (silent : replies request.ticket history = [])
  | changed (stage : Stage) (only : work request.ticket state.pool = [(request, stage)])
      (records : stage.records request history message) (silent : replies request.ticket history = [])
  | refused (quiet : Quiet request.ticket history)
      (verdict : ∀ entry ∈ work request.ticket state.pool, entry.2.concludes false)
      (sent : ∀ frame ∈ replies request.ticket history, succeeds frame.message = false)
  | granted (effected : Effected request history message)
      (verdict : ∀ entry ∈ work request.ticket state.pool, entry.2.answering = true → entry.2.concludes true)
      (sent : ∀ frame ∈ replies request.ticket history, succeeds frame.message = true)

theorem records_mono {message : ToRoom} {request : Admitted} {first second : History} {stage : Stage}
    (subset : ∀ move ∈ first, move ∈ second) (records : stage.records request first message) :
    stage.records request second message := by
  unfold Stage.records at records ⊢
  split at records
  · exact ⟨records.1, records.2.imp fun _ added => ⟨subset _ added.1, added.2⟩⟩
  · exact ⟨records.1, records.2.imp fun _ removed => ⟨subset _ removed.1, removed.2⟩⟩
  · cases records

theorem course_frame {message : ToRoom} {request : Admitted} {history : History} {state : State}
    {move : Transition State Label} (course : Course message request history state)
    (idle : worksFor request.ticket move = false)
    (same : (work request.ticket move.after.pool).Perm (work request.ticket state.pool)) :
    Course message request (history ++ [move]) move.after := by
  have replied : replies request.ticket (history ++ [move]) = replies request.ticket history := by
    simp [replies_concat, idle]
  have stays : Quiet request.ticket history → Quiet request.ticket (history ++ [move]) :=
    fun quiet => quiet_concat quiet (by simp [idle])
  have longer : ∀ other ∈ history, other ∈ history ++ [move] := fun _ => List.mem_append_left _
  cases course with
  | waiting stage only asks quiet silent =>
    rw [only, List.perm_singleton] at same
    exact .waiting stage same asks (stays quiet) (replied.trans silent)
  | changed stage only records silent =>
    rw [only, List.perm_singleton] at same
    exact .changed stage same (records_mono longer records) (replied.trans silent)
  | refused quiet verdict sent =>
    exact .refused (stays quiet) (fun entry mem => verdict entry (same.mem_iff.mp mem)) (replied ▸ sent)
  | granted effected verdict sent =>
    exact .granted (effected_mono longer effected) (fun entry mem => verdict entry (same.mem_iff.mp mem))
      (replied ▸ sent)

section Own

variable {message : ToRoom} {request : Admitted} {history : History} {move : Transition State Label} {choice : Choice}
  {stage : Stage} {effect : Effect}

/-- A stage before the change looks further, gives up without a trace, or changes the room. -/
theorem course_asked (runs : executed move = some (choice, .handle request stage))
    (ran : Ran choice move.before.core request stage effect) (core : move.after.core = effect.core)
    (asks : stage.asks message) :
    ∃ next, added request.ticket effect = [(request, next)] ∧
      move.after.core.outgoing = move.before.core.outgoing ∧
      (Still move ∧ (next.asks message ∨ next.concludes false) ∨ next.records request [move] message) := by
  have still : effect.core.manager = move.before.core.manager → effect.core.heap = move.before.core.heap → Still move :=
    fun manager rooms => ⟨by rw [core, manager], by rw [core, rooms]⟩
  rw [core]
  cases ran with
  | joinUnknown | joinLate | joinClosed | leaveUnindexed | leaveUnknown | leaveLate | leaveRefused =>
    exact ⟨_, added_next _ _, rfl, .inl ⟨still rfl rfl, .inr rfl⟩⟩
  | joinFound | leaveFound =>
    refine ⟨_, added_post _ _ _, rfl, .inl ⟨still rfl rfl, .inl ?_⟩⟩
    cases message <;> cases asks
    rfl
  | leaveIndexed =>
    refine ⟨_, added_next _ _, rfl, .inl ⟨still rfl rfl, .inl ?_⟩⟩
    cases message <;> cases asks
    rfl
  | @joinEntered ptr uid response room queued found isOpen =>
    refine ⟨_, added_next _ _, rfl, .inr ?_⟩
    have bound := (List.getElem?_eq_some_iff.mp found).1
    cases message <;> cases asks
    refine ⟨rfl, move, List.mem_singleton_self _, choice, response, room, runs, found, ?_⟩
    rw [core]
    exact List.getElem?_set_self bound
  | @leaveExited ptr uid response room queued found isOpen present =>
    refine ⟨_, added_next _ _, rfl, .inr ?_⟩
    have bound := (List.getElem?_eq_some_iff.mp found).1
    cases message <;> cases asks
    refine ⟨rfl, move, List.mem_singleton_self _, choice, response, room, runs, found,
      Std.ExtTreeMap.contains_iff_mem.mp present, ?_⟩
    rw [core]
    exact List.getElem?_set_self bound
  | createLate | createStopping | created | contentsThrown | contentsCreated | createNotified | joined | enterNotified
  | left | exitNotified | emptied | emptyStale | closed | completed | sent | aborted =>
    cases message <;> cases asks

theorem course_recorded (holds : Undisputed move.before) (waits : Waiting move.before (.handle request stage))
    (runs : executed move = some (choice, .handle request stage))
    (ran : Ran choice move.before.core request stage effect) (core : move.after.core = effect.core)
    (records : stage.records request history message) :
    Effected request (history ++ [move]) message ∧ move.after.core.outgoing = move.before.core.outgoing ∧
      ∀ entry ∈ added request.ticket effect, entry.2.answering = true → entry.2.concludes true := by
  rw [core]
  cases ran with
  | @joined ptr uid inserted response room found =>
    -- the room is still registered, so the index takes the user in
    rcases holds.relied waits rfl (found_membership found) with registered | ⟨early, -⟩
    · have accepted : move.before.core.manager.joinedRoom uid ptr room.roomId =
          ({ move.before.core.manager with
            userRooms := move.before.core.manager.userRooms.insert uid room.roomId }, true) := by
        simp only [Room.membership] at registered
        simp [RoomManager.joinedRoom, registered]
      refine ⟨?_, rfl, ?_⟩
      · cases message with
        | reqJoinRoom message =>
          obtain ⟨rfl, enter, mem, entered⟩ := records
          refine ⟨ptr, ⟨enter, List.mem_append_left _ mem, entered⟩, move, by simp, choice, inserted, response, room,
            runs, found, registered, ?_⟩
          rw [core, accepted]
        | ping | reqCreateRoom | reqLeaveRoom | fwdRoom | cancelRequest => cases records
      · cases inserted <;> simp [added, items, workFor_self, Stage.answering, Stage.concludes, accepted, succeeds]
    · exact absurd trivial early
  | @left ptr uid empty response room found =>
    rcases holds.relied waits rfl (found_membership found) with registered | ⟨early, -⟩
    · obtain ⟨-, mapped⟩ := holds.left waits ⟨rfl, rfl⟩ (found_membership found)
      have accepted : move.before.core.manager.leftRoom uid ptr room.roomId =
          ({ move.before.core.manager with userRooms := move.before.core.manager.userRooms.erase uid }, true) := by
        simp only [Room.membership] at registered mapped
        simp [RoomManager.leftRoom, registered, mapped]
      refine ⟨?_, rfl, ?_⟩
      · cases message with
        | reqLeaveRoom message =>
          obtain ⟨rfl, exit, mem, exited⟩ := records
          refine ⟨ptr, ⟨exit, List.mem_append_left _ mem, exited⟩, move, by simp, choice, empty, response, room,
            runs, found, mapped, ?_⟩
          rw [core, accepted]
        | ping | reqCreateRoom | reqJoinRoom | fwdRoom | cancelRequest => cases records
      · simp [added, items, workFor_self, Stage.answering, Stage.concludes, accepted, succeeds]
    · exact absurd trivial early
  | createLate | createStopping | created | contentsThrown | contentsCreated | createNotified | joinUnknown | joinFound
  | joinLate | joinClosed | joinEntered | enterNotified | leaveUnindexed | leaveIndexed | leaveUnknown | leaveFound
  | leaveLate | leaveRefused | leaveExited | exitNotified | emptied | emptyStale | closed | completed | sent | aborted =>
    cases message <;> cases records

theorem course_concluded {success : Bool} (ran : Ran choice move.before.core request stage effect)
    (core : move.after.core = effect.core) (concludes : stage.concludes success) :
    Still move ∧ ¬ (Task.handle request stage).commits ∧
      (∀ entry ∈ added request.ticket effect, entry.2.concludes success) ∧
      ∀ frame ∈ sent move, succeeds frame.message = success := by
  have still : effect.core.manager = move.before.core.manager → effect.core.heap = move.before.core.heap → Still move :=
    fun manager rooms => ⟨by rw [core, manager], by rw [core, rooms]⟩
  cases ran with
  | completed =>
    refine ⟨still rfl rfl, id, ?_, ?_⟩
    · simp only [complete, added, items]
      split
      · simpa [workFor_self, Stage.concludes] using concludes
      · simp
    · rw [sent_silent (by rw [core]; rfl)]
      simp
  | sent =>
    refine ⟨still rfl rfl, id, by simp [added, items], ?_⟩
    simpa [sent, core, Core.send, Stage.concludes] using concludes
  | createLate | createStopping | created | contentsThrown | contentsCreated | createNotified | joinUnknown | joinFound
  | joinLate | joinClosed | joinEntered | joined | enterNotified | leaveUnindexed | leaveIndexed | leaveUnknown
  | leaveFound | leaveLate | leaveRefused | leaveExited | left | exitNotified | emptied | emptyStale | closed | aborted =>
    cases concludes

end Own

section Steps

variable {message : ToRoom} {request other : Admitted} {history : History} {move : Transition State Label}
  {choice : Choice} {stage : Stage} {rest : Pool Thread Task} {effect : Effect}

/-- What one item of a request does to its course, given the work before and after it. -/
theorem course_own (course : Course message request history move.before) (holds : Undisputed move.before)
    (own : other.ticket = request.ticket) (runs : executed move = some (choice, .handle other stage))
    (ran : Ran choice move.before.core other stage effect) (core : move.after.core = effect.core)
    (was : (work request.ticket move.before.pool).Perm ((other, stage) :: work request.ticket rest))
    (now : (work request.ticket move.after.pool).Perm (added request.ticket effect ++ work request.ticket rest)) :
    Course message request (history ++ [move]) move.after := by
  have mine : (other, stage) ∈ work request.ticket move.before.pool := was.mem_iff.mpr (List.mem_cons_self ..)
  have waits : Waiting move.before (.handle other stage) := (mem_work.mp mine).1
  have works : worksFor request.ticket move = true := by
    rw [worksFor_executed runs, ← own, workFor_self]
    rfl
  have replied : replies request.ticket (history ++ [move]) = replies request.ticket history ++ sent move := by
    rw [replies_concat, if_pos works]
  have quietly : Quiet request.ticket history → Still move → ¬ (Task.handle other stage).commits →
      Quiet request.ticket (history ++ [move]) := by
    intro quiet still uncommitted
    refine quiet_concat quiet fun _ => ⟨still, fun found mem => ?_⟩
    obtain rfl := Option.some.inj (runs.symm.trans mem)
    exact uncommitted
  -- Before the verdict the request has a single item, so this is it.
  have single : ∀ {current}, work request.ticket move.before.pool = [(request, current)] → other = request ∧
      stage = current ∧ (work request.ticket move.after.pool).Perm (added request.ticket effect) := by
    intro current only
    rw [only, List.singleton_perm, List.cons_eq_cons] at was
    obtain ⟨same, none⟩ := was
    cases same
    exact ⟨rfl, rfl, by simpa [← none] using now⟩
  have leaves : ∀ entry ∈ work request.ticket move.after.pool,
      entry ∈ added request.ticket effect ∨ entry ∈ work request.ticket move.before.pool := by
    intro entry mem
    rcases List.mem_append.mp (now.mem_iff.mp mem) with new | still
    · exact .inl new
    · exact .inr (was.mem_iff.mpr (List.mem_cons_of_mem _ still))
  cases course with
  | waiting current only asks quiet silent =>
    obtain ⟨rfl, rfl, later⟩ := single only
    obtain ⟨next, adds, mute, onward⟩ := course_asked runs ran core asks
    have unsent : replies other.ticket (history ++ [move]) = [] := by
      rw [replied, silent, sent_silent mute, List.append_nil]
    have uncommitted : ¬ (Task.handle other stage).commits := by
      cases message <;> cases stage <;> first | exact id | cases asks
    rw [adds, List.perm_singleton] at later
    rcases onward with ⟨still, asks | concludes⟩ | records
    · exact .waiting next later asks (quietly quiet still uncommitted) unsent
    · refine .refused (quietly quiet still uncommitted) ?_ (by simp [unsent])
      simpa [later] using concludes
    · exact .changed next later (records_mono (by simp) records) unsent
  | changed current only records silent =>
    obtain ⟨rfl, rfl, later⟩ := single only
    obtain ⟨effected, mute, verdict⟩ := course_recorded holds waits runs ran core records
    refine .granted effected (fun entry mem => verdict entry (later.mem_iff.mp mem)) ?_
    rw [replied, silent, sent_silent mute]
    simp
  | refused quiet verdict sent =>
    obtain ⟨still, uncommitted, next, frames⟩ := course_concluded ran core (verdict _ mine)
    rw [own] at next
    refine .refused (quietly quiet still uncommitted) (fun entry mem => ?_) (fun frame mem => ?_)
    · exact (leaves entry mem).elim (next entry) (verdict entry)
    · rw [replied] at mem
      exact (List.mem_append.mp mem).elim (sent frame) (frames frame)
  | granted effected verdict sent =>
    have effected : Effected request (history ++ [move]) message :=
      effected_mono (fun _ => List.mem_append_left _) effected
    cases answering : stage.answering with
    | true =>
      obtain ⟨-, -, next, frames⟩ := course_concluded ran core (verdict _ mine answering)
      rw [own] at next
      refine .granted effected (fun entry mem => ?_) (fun frame mem => ?_)
      · exact (leaves entry mem).elim (fun new _ => next entry new) (verdict entry)
      · rw [replied] at mem
        exact (List.mem_append.mp mem).elim (sent frame) (frames frame)
    | false =>
      obtain ⟨-, mute, none⟩ := ran_trailing ran answering
      rw [own] at none
      refine .granted effected (fun entry mem => ?_) ?_
      · rcases leaves entry mem with new | still
        · intro answers
          have found : entry ∈ (added request.ticket effect).filter fun entry => entry.2.answering :=
            List.mem_filter.mpr ⟨new, answers⟩
          rw [none] at found
          cases found
        · exact verdict entry still
      · rw [replied, sent_silent (by rw [core, mute]), List.append_nil]
        exact sent

theorem course_calm (course : Course message request history move.before)
    (moved : step move.before move.label = some move.after) (works : worksFor request.ticket move) : ¬ Rethrows move := by
  intro rethrows
  unfold Rethrows at rethrows
  split at rethrows
  · next choice other runs =>
    rw [worksFor_executed runs] at works
    obtain ⟨entry, mine⟩ := Option.isSome_iff_exists.mp works
    obtain ⟨owner, before, later, effect, -, split, -⟩ := executed_split runs moved
    have own : other.ticket = request.ticket := by
      obtain ⟨_, _, same, own⟩ := workFor_some mine
      cases same
      exact own
    have mem : (other, .abort) ∈ work request.ticket move.before.pool :=
      mem_work.mpr ⟨⟨owner, by simp [split]⟩, own⟩
    cases course with
    | waiting stage only asks =>
      rw [only, List.mem_singleton] at mem
      cases mem
      cases message <;> cases asks
    | changed stage only records =>
      rw [only, List.mem_singleton] at mem
      cases mem
      cases message <;> cases records
    | refused quiet verdict => exact verdict _ mem
    | granted effected verdict => exact verdict _ mem rfl
  · exact rethrows

end Steps

theorem course_step {message : ToRoom} {request : Admitted} {history : History} {state after : State} {label : Label}
    (course : Course message request history state) (phase : Phase message request history state)
    (holds : Undisputed state) (moved : step state label = some after) :
    Course message request (history ++ [⟨state, label, after⟩]) after := by
  have external : (∀ thread choice, label ≠ .run thread choice) →
      worksFor request.ticket ⟨state, label, after⟩ = false →
      Course message request (history ++ [⟨state, label, after⟩]) after := by
    intro external idle
    obtain ⟨-, same⟩ := work_unran (stepped_of_step moved) external
    exact course_frame course idle (.of_eq (same request.ticket))
  cases stepped_of_step moved with
  | @ran thread choice task before later effect split quiet executed =>
    have runs := executed_ran choice (ranState thread before later effect) split quiet
    have was : (work request.ticket (before ++ (thread, task) :: later)).Perm _ := work_split request.ticket
    have now : (work request.ticket (effect.next.map (Prod.mk thread) ++ (before ++ later) ++ effect.posts)).Perm _ :=
      work_ran request.ticket
    rw [← split] at was
    cases mine : task.workFor request.ticket with
    | none =>
      have idle : worksFor request.ticket ⟨state, .run thread choice, ranState thread before later effect⟩ = false := by
        rw [worksFor_executed runs, mine]
        rfl
      apply course_frame course idle
      rw [added_of_executed_other executed mine (Nat.ne_of_lt (phase_known phase)), List.nil_append] at now
      rw [mine] at was
      exact now.trans was.symm
    | some entry =>
      obtain ⟨other, stage, rfl, own⟩ := workFor_some mine
      cases executed with
      | staged ran =>
        have was : (work request.ticket state.pool).Perm ((other, stage) :: work request.ticket (before ++ later)) := by
          simpa [Task.workFor, own] using was
        exact course_own course holds own runs ran rfl was now
  | delivered | called | stopped => exact external (by simp) rfl

theorem course_start {state after : State} {label : Label} {message : ToRoom} {request : Admitted}
    (numbered : Numbered state) (moved : step state label = some after)
    (admitted : admits ⟨state, label, after⟩ = some (message, request))
    (kind : (∃ join, message = .reqJoinRoom join) ∨ ∃ leave, message = .reqLeaveRoom leave) :
    Course message request [] after := by
  obtain ⟨first, known, only, -⟩ := work_of_admits numbered moved admitted
  refine .waiting first only ?_ (by simp [Quiet]) rfl
  rcases kind with ⟨join, rfl⟩ | ⟨leave, rfl⟩
  · obtain ⟨-, -, rfl⟩ : join.requestId = request.requestId ∧ _ ∧ Stage.findJoin join = first := by
      simpa [requestOf] using known
    rfl
  · obtain ⟨-, -, rfl⟩ : leave.requestId = request.requestId ∧ _ ∧ Stage.findLeave leave = first := by
      simpa [requestOf] using known
    rfl

theorem course_later {message : ToRoom} {request : Admitted} {past later : History} {start state : State}
    (reached : Reaches past start) (run : Run step start later state) (before : ∀ move ∈ past, Steady move)
    (steady : ∀ move ∈ later, Steady move) (course : Course message request [] start)
    (phase : Phase message request [] start) :
    Course message request later state ∧ Phase message request later state := by
  apply And.right
  apply run.history fun prior state => (∀ move ∈ prior, Steady move) ∧
    Course message request prior state ∧ Phase message request prior state
  · exact ⟨by simp, course, phase⟩
  · rintro prior move onward ⟨calm, course, phase⟩ moved mem
    have holds : Undisputed move.before := by
      apply undisputed_reached (reached.append onward)
      intro other mem
      exact (List.mem_append.mp mem).elim (before other) (calm other)
    refine ⟨?_, course_step course phase holds moved, phase_step phase moved (course_calm course moved)⟩
    intro other mem
    rcases List.mem_append.mp mem with mem | mem
    · exact calm other mem
    · obtain rfl := List.mem_singleton.mp mem
      exact steady _ (by assumption)

def Truthful (message : ToRoom) (request : Admitted) (history : History) (response : ToUser) : Prop :=
  replies request.ticket history = [⟨request.destination, request.resType, response⟩] ∧
  (succeeds response = true ↔ Effected request history message) ∧
  (succeeds response = false → ∀ move ∈ history, worksFor request.ticket move → Still move)

theorem truthful_of_course {message : ToRoom} {request : Admitted} {past later : History} {state : State}
    (course : Course message request later state) (phase : Phase message request later state)
    (idle : ∀ move ∈ past, worksFor request.ticket move = false)
    (started : state.core.registry.state request.ticket = some .kStarted)
    (done : slot request.ticket state.pool = []) :
    ∃ response, answers message response ∧ Truthful message request (past ++ later) response := by
  cases ended_of_phase phase done with
  | dropped cancelled =>
    rw [started] at cancelled
    cases cancelled
  | answered response _ answer sent =>
    have none : past.filter (worksFor request.ticket) = [] := by
      rw [List.filter_eq_nil_iff]
      intro move mem works
      rw [idle move mem] at works
      cases works
    have replied : replies request.ticket (past ++ later) = replies request.ticket later := by
      rw [replies, List.filter_append, none, List.nil_append]
      rfl
    refine ⟨response, answer, replied.trans sent, ?_⟩
    cases course with
    | waiting stage only asks quiet silent | changed stage only records silent => cases silent.symm.trans sent
    | refused quiet verdict frames =>
      have failure : succeeds response = false := frames _ (by rw [sent]; exact List.mem_singleton_self _)
      have quiet : Quiet request.ticket (past ++ later) := by
        intro move mem works
        rcases List.mem_append.mp mem with mem | mem
        · rw [idle move mem] at works
          cases works
        · exact quiet move mem works
      refine ⟨⟨?_, fun effected => absurd quiet (effected_loud effected)⟩, fun _ move mem works => (quiet move mem works).1⟩
      intro success
      cases failure.symm.trans success
    | granted effected verdict frames =>
      have success : succeeds response = true := frames _ (by rw [sent]; exact List.mem_singleton_self _)
      refine ⟨⟨fun _ => effected_mono (fun _ => List.mem_append_right _) effected, fun _ => success⟩, ?_⟩
      intro failure
      cases success.symm.trans failure

/-- A started join or leave is answered once. The answer is a success iff its task changed the
members of the room and recorded it in the index, and where it is not, nothing was changed and
no call was made for it. -/
theorem replies_tell_the_truth {history : History} {state : State} (run : Reaches history state)
    (steady : ∀ move ∈ history, Steady move) :
    ∀ past move later message request, history = past ++ move :: later → admits move = some (message, request) →
      state.core.registry.state request.ticket = some .kStarted → slot request.ticket state.pool = [] →
      (∀ join, message = .reqJoinRoom join →
        ∃ response, replies request.ticket history = [⟨request.destination, request.resType, .resJoinRoom response⟩] ∧
          (response.success = true ↔ Joins request join.uid history) ∧
          (response.success = false → ∀ other ∈ history, worksFor request.ticket other → Still other)) ∧
      ∀ leave, message = .reqLeaveRoom leave →
        ∃ response, replies request.ticket history = [⟨request.destination, request.resType, .resLeaveRoom response⟩] ∧
          (response.success = true ↔ Leaves request leave.uid history) ∧
          (response.success = false → ∀ other ∈ history, worksFor request.ticket other → Still other) := by
  intro past move later message request cut admitted started done
  have conclude : ((∃ join, message = .reqJoinRoom join) ∨ ∃ leave, message = .reqLeaveRoom leave) →
      ∃ response, answers message response ∧ Truthful message request history response := by
    intro kind
    obtain ⟨reached, moved, onwards⟩ := run.split cut
    have numbered := numbered_reached reached
    obtain ⟨choice, first, runs, -, -, granted⟩ := admits_eq admitted
    rw [cut, List.append_cons] at steady ⊢
    obtain ⟨course, phase⟩ := course_later (.next reached moved) onwards
      (fun other mem => steady other (List.mem_append_left _ mem))
      (fun other mem => steady other (List.mem_append_right _ mem))
      (course_start numbered moved admitted kind) (phase_start numbered moved admitted)
    refine truthful_of_course course phase ?_ started done
    intro other mem
    rcases List.mem_append.mp mem with mem | mem
    · exact idle_before reached (Nat.le_of_eq (admitRequest_granted granted).1.symm) other mem
    · obtain rfl := List.mem_singleton.mp mem
      exact worksFor_received _ runs
  constructor
  · rintro join rfl
    obtain ⟨response, answer, truthful⟩ := conclude (.inl ⟨join, rfl⟩)
    cases response with
    | resJoinRoom response => exact ⟨response, truthful⟩
    | pong | resCreateRoom | resLeaveRoom | fwdClient | ntfLeaveRoom => cases answer
  · rintro leave rfl
    obtain ⟨response, answer, truthful⟩ := conclude (.inr ⟨leave, rfl⟩)
    cases response with
    | resLeaveRoom response => exact ⟨response, truthful⟩
    | pong | resCreateRoom | resJoinRoom | fwdClient | ntfLeaveRoom => cases answer

theorem replies_tell_the_truth_join_leave :
    ∃ history state, Reaches history state ∧
      (∃ response, replies 1 history = [⟨"user", .kUser2RoomResJoinRoom, .resJoinRoom response⟩] ∧
        (response.success = true ↔ Joins ⟨"user", 2, .kUser2RoomResJoinRoom, 1⟩ "bob" history) ∧
        (response.success = false → ∀ other ∈ history, worksFor 1 other → Still other)) ∧
      ∃ response, replies 2 history = [⟨"user", .kUser2RoomResLeaveRoom, .resLeaveRoom response⟩] ∧
        (response.success = true ↔ Leaves ⟨"user", 3, .kUser2RoomResLeaveRoom, 2⟩ "alice" history) ∧
        (response.success = false → ∀ other ∈ history, worksFor 2 other → Still other) := by
  have run : Reaches _ (final step initial createJoinLeave) := run_of_enabled (by decide +kernel)
  have cut := fun index bound => (List.take_append_drop index _).symm.trans
    (congrArg _ (List.drop_eq_getElem_cons (l := transitions step initial createJoinLeave) (i := index) bound))
  have truth := replies_tell_the_truth run (by decide +kernel)
  refine ⟨_, _, run, ?_, ?_⟩
  · exact (truth _ _ _ (.reqJoinRoom { requestId := 2, uid := "bob", roomId := 10000 })
      ⟨"user", 2, .kUser2RoomResJoinRoom, 1⟩ (cut 8 (by decide +kernel)) (by decide +kernel) (by decide +kernel)
      (by decide +kernel)).1 _ rfl
  · exact (truth _ _ _ (.reqLeaveRoom { requestId := 3, uid := "alice" })
      ⟨"user", 3, .kUser2RoomResLeaveRoom, 2⟩ (cut 16 (by decide +kernel)) (by decide +kernel) (by decide +kernel)
      (by decide +kernel)).2 _ rfl

def leaveThenCreate : List Label :=
  handled "user" (.reqCreateRoom { requestId := 1, uid := "alice" }) 10000 5 ++ [.run (.strand 0) {}] ++
  handled "user" (.reqLeaveRoom { requestId := 2, uid := "alice" }) 10000 3 ++
  handled "user" (.reqCreateRoom { requestId := 3, uid := "alice" }) 10001 5 ++
  List.replicate 7 (.run (.strand 0) {})

/-- The leave is answered as failed, although its task has removed alice and told the contents. -/
theorem overtaken_leave_reported_failed :
    ∃ history state, Reaches history state ∧ ∃ past move later leave request response,
      history = past ++ move :: later ∧ admits move = some (.reqLeaveRoom leave, request) ∧
      state.core.registry.state request.ticket = some .kStarted ∧ slot request.ticket state.pool = [] ∧
      replies request.ticket history = [⟨request.destination, request.resType, .resLeaveRoom response⟩] ∧
      response.success = false ∧
      (∃ other ∈ history, worksFor request.ticket other ∧ other.before.core.isMember 0 leave.uid ∧
        ¬ other.after.core.isMember 0 leave.uid) ∧
      ∃ room ∈ state.core.heap, .onUserExit leave.uid ∈ room.callbacks := by
  have run : Reaches _ (final step initial leaveThenCreate) := run_of_enabled (by decide +kernel)
  have cut := fun index bound => (List.take_append_drop index _).symm.trans
    (congrArg _ (List.drop_eq_getElem_cons (l := transitions step initial leaveThenCreate) (i := index) bound))
  refine ⟨_, _, run, _, _, _, { requestId := 2, uid := "alice" }, ⟨"user", 2, .kUser2RoomResLeaveRoom, 1⟩,
    { requestId := 2, success := false }, cut 8 (by decide +kernel), by decide +kernel, by decide +kernel,
    by decide +kernel, by decide +kernel, rfl, by decide +kernel, by decide +kernel⟩

end Rsp.RoomServer
