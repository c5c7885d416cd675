import Rsp.UserServer.Passing

/-! What the User server asks of Room, and what it makes of the responses.

A request for a change is sent for one job, under an id of its own and the uid the session
has when the job runs. A job is handed nothing but responses that arrived, and a reply that
reports a success was made from one of them.
-/

set_option autoImplicit false

namespace Rsp.UserServer

open Message Rsp.Job Foundation

def asks : ToRoom → Option Nat
  | .reqCreateRoom message => some message.requestId
  | .reqJoinRoom message => some message.requestId
  | .reqLeaveRoom message => some message.requestId
  | .ping | .fwdRoom _ | .cancelRequest _ => none

def Task.asking : Task → Option Nat
  | .channelSend message => asks message
  | _ => none

def Task.response : Task → Option ToUser
  | .postResponse _ response | .handleRes _ response => some response
  | _ => none

def reportsSuccess : ToClient → Bool
  | .resCreateRoom response => response.success
  | .resJoinRoom response => response.success
  | .resLeaveRoom response => response.success
  | _ => false

structure Errand where
  ptr : JobPtr
  session : SessionPtr
  kind : JobKind
  id : Nat
  deriving DecidableEq, Repr

namespace Errand

def Posed (core : Core) (self : Errand) : Prop :=
  ∃ record, core.records[self.ptr]? = some record ∧ record.session = self.session ∧ record.kind = self.kind ∧
    record.roomRequestId = self.id ∧ self.id ≠ 0

def RanAs (history : History) (self : Errand) (uid : Uid) : Prop :=
  ∃ move ∈ history, ∃ now owner, executed move = some (now, .run self.ptr) ∧
    move.before.core.sessions[self.session]? = some owner ∧ owner.uid = uid

def Sent (history : History) (core : Core) (self : Errand) (uid : Uid) (message : ToRoom) : Prop :=
  self.Posed core ∧ self.RanAs history uid ∧ self.kind.request uid self.id = some message

end Errand

/-- The message came from Room, or from a client that sent a frame of Room's. -/
def Heard (history : History) (message : ToUser) : Prop := message ∈ delivered history ∨ Injected history message

def posed (state : State) (id : Nat) : Nat :=
  state.pool.countP (fun entry => entry.2.asking = some id) +
    state.core.outgoing.countP fun message => asks message = some id

structure Asking (history : History) (state : State) : Prop where
  made : ∀ message, (asks message).isSome = true →
    Waiting state (.channelSend message) ∨ message ∈ state.core.outgoing →
    ∃ errand uid, Errand.Sent history state.core errand uid message
  once : ∀ id, posed state id ≤ if id < state.core.nextRequestId then 1 else 0
  heard : ∀ item response, Waiting state item → item.response = some response → Heard history response
  replies : ∀ session frame, (session, frame) ∈ state.core.sent → reportsSuccess frame = true →
    ∃ errand response, errand.session = session ∧ Errand.Posed state.core errand ∧
      errand.kind.answer response = some frame ∧ response.requestId = some errand.id ∧ Heard history response

section Executed

variable {now : Nat} {core : Core} {task : Task} {effect : Effect} {ptr : JobPtr}

theorem completed_runs (completed : Completed core ptr effect) : ∀ item ∈ items effect, ∃ job, item = .run job := by
  intro item mem
  cases completed with
  | again => simp [items] at mem
  | first =>
    simp only [items, List.map_nil, List.append_nil, List.mem_map] at mem
    obtain ⟨job, -, rfl⟩ := mem
    exact ⟨job, rfl⟩

theorem finished_runs (finished : Finished core ptr effect) : ∀ item ∈ items effect, ∃ job, item = .run job := by
  cases finished with
  | again | unheld => simp [items]
  | called found unfinished held completed => exact completed_runs completed

/-- What a room job sends when it runs. -/
structure Requests (core : Core) (task : Task) (effect : Effect) (errand : Errand) (uid : Uid) (message : ToRoom) :
    Prop where
  isRun : task = .run errand.ptr
  fresh : errand.id = core.nextRequestId
  known : ∃ record, core.records[errand.ptr]? = some record ∧ record.session = errand.session ∧
    record.kind = errand.kind ∧
    effect.core.records = core.records.set errand.ptr { record with done := true, roomRequestId := errand.id }
  owner : ∃ session, core.sessions[errand.session]? = some session ∧ session.uid = uid
  request : errand.kind.request uid errand.id = some message
  items : items effect = [.addRequest errand.ptr errand.id, .channelSend message]
  ids : effect.core.nextRequestId = core.nextRequestId + 1
  outgoing : effect.core.outgoing = core.outgoing

theorem asking_of_executed (executed : Executed now core task effect) :
    (∀ item ∈ items effect, item.asking = none) ∨ ∃ errand uid message, Requests core task effect errand uid message := by
  -- a scheduler only ever gives out runs of jobs
  have runs : ∀ {list : List Task}, (∀ item ∈ list, ∃ job, item = .run job) → ∀ item ∈ list, item.asking = none := by
    intro list only item mem
    obtain ⟨job, rfl⟩ := only item mem
    rfl
  have completes : ∀ {core' : Core} {ptr : JobPtr} {done : Effect}, Completed core' ptr done →
      ∀ item ∈ done.next, item.asking = none :=
    fun completed item mem => runs (completed_runs completed) item (List.mem_append_left _ mem)
  cases executed with
  | @requested ptr job session request found owner room =>
    right
    exact ⟨⟨ptr, job.session, job.kind, core.nextRequestId⟩, session.uid, request, rfl, rfl,
      ⟨job.record, Core.found_record found, rfl, rfl, Core.records_setJob ..⟩, ⟨session, owner, rfl⟩, room, rfl, rfl, rfl⟩
  | loggedOut found owner kind completed =>
    left
    intro item mem
    rcases List.mem_append.mp mem with mem | mem
    · exact completes completed item mem
    · simp only [List.map_cons, List.map_nil, List.mem_singleton] at mem
      rw [mem]
      rfl
  | @stopped ptr job session forceClose effect found owner kind completed =>
    left
    intro item mem
    rcases List.mem_append.mp mem with mem | mem
    · exact completes completed item mem
    · cases forceClose <;> simp only [Bool.false_eq_true, if_true, if_false, List.map_cons, List.map_nil,
        List.mem_singleton, List.not_mem_nil] at mem
      rw [mem]
      rfl
  | forwarded found owner kind completed | clientForwarded found owner kind completed
  | leaveNotified found owner kind completed | sessionAdded found owner completed =>
    exact .inl (runs (completed_runs completed))
  | answered found unfinished answer owner finished | shutdownFinished found finished
  | timeoutFinished found timeout finished => exact .inl (runs (finished_runs finished))
  | @pushed ptr job session found owner =>
    left
    simp only [items]
    cases (session.scheduler.pushAndRun ptr).2 <;> simp [afterPush, Task.asking]
  -- a withdrawal goes to the room server, yet is no request of its own
  | cancelled found room unfinished =>
    left
    simp only [items]
    split <;> simp [sendCancel, Task.asking, asks]
  | @responded message id carries =>
    left
    simp only [items, sendToWaiter]
    cases (core.requests.complete id now).2 with
    | none => simp
    | some resolution => cases resolution <;> simp [onTimeout, sendCancel, Task.asking, asks]
  | @clientPassed message | @leavePassed message =>
    left
    simp only [items, passToSession]
    cases core.manager.findSession message.uid <;> simp [Task.asking]
  | @sessionReceived session message =>
    left
    cases message <;> simp [items, onSessionRecv, Core.enqueueJob, Task.asking]
  | shutDown | removed | notified | unknownReceived | loggedIn | requestAdded | channelSent | answeredLate
  | cancelIgnored | responsePosted | timeoutPosted | closedAgain | closed | disconnected =>
    left
    simp [items, addRequest, onConnClosed, Core.enqueueJob, Task.asking]

/-- A response is taken along by the item that had it, or taken up by `on_recv`. -/
theorem response_of_touch (touch : Touch now core task effect) {item : Task} {response : ToUser}
    (mem : item ∈ items effect) (takes : item.response = some response) :
    task.response = some response ∨ task = .onRecv response := by
  have quiet : item.inert = true → False := by
    intro inert
    cases item <;> first | cases inert; done | cases takes
  have advances : ∀ {session : SessionPtr}, Advanced core session effect → item ∈ effect.next → False := by
    intro session advanced mem
    obtain ⟨job, rfl⟩ := advanced.runs mem
    cases takes
  have fixed : ∀ {list : List Task}, items effect = list → (∀ other ∈ list, other.response = none) → False := by
    intro list same none
    cases (none item (same ▸ mem)).symm.trans takes
  cases touch with
  | steady records schedulers unasked inert => exact (quiet (inert item mem)).elim
  | send => simp [items] at mem
  | login records schedulers unasked next posts | enqueue session kind records schedulers unasked next posts
  | request record message found room records schedulers requests ids asks next posts =>
    exact (fixed (by rw [items, next, posts]) (by simp [Task.response])).elim
  | @push ptr _ record scheduler found owner records schedulers unasked next posts =>
    refine (fixed (by rw [items, next, posts]) ?_).elim
    cases (scheduler.pushAndRun ptr).2 <;> simp [afterPush, Task.response]
  | complete ptr record caller found records advanced unasked inert =>
    rcases List.mem_append.mp mem with mem | mem
    · exact (advances advanced mem).elim
    · obtain ⟨entry, here, rfl⟩ := List.mem_map.mp mem
      exact (quiet (inert entry here)).elim
  | logout record found records advanced unasked posts =>
    rcases List.mem_append.mp mem with mem | mem
    · exact (advances advanced mem).elim
    · simp only [posts, List.map_cons, List.map_nil, List.mem_singleton] at mem
      subst mem
      cases takes
  | finish ptr record caller found unfinished records advanced unasked posts =>
    rcases List.mem_append.mp mem with mem | mem
    · exact (advances advanced mem).elim
    · simp [posts] at mem
  | add => simp [items, addRequest] at mem
  | cancel record found room unfinished records schedulers requests ids next posts =>
    refine (fixed (by rw [items, next, posts]) ?_).elim
    split <;> simp [sendCancel, Task.response]
  | shutdown scheduler owner records schedulers unasked next posts =>
    refine (fixed (by rw [items, next, posts]) ?_).elim
    simp [Task.response]
  | respond id pending carries found records schedulers requests ids next posts =>
    rw [items, next, posts] at mem
    split at mem
    · simp only [onTimeout, sendCancel, List.map_nil, List.append_nil, List.mem_cons, List.not_mem_nil, or_false] at mem
      rcases mem with rfl | rfl <;> cases takes
    · simp only [List.map_nil, List.append_nil, List.mem_singleton] at mem
      subst mem
      cases takes
      exact .inr rfl
  | postResponse record found =>
    simp only [items, List.nil_append, List.map_cons, List.map_nil, List.mem_singleton] at mem
    subst mem
    exact .inl takes
  | postTimeout | disconnect =>
    simp only [items, List.nil_append, List.map_cons, List.map_nil, List.mem_singleton] at mem
    subst mem
    cases takes

theorem replies_of_executed (executed : Executed now core task effect) {session : SessionPtr} {frame : ToClient}
    (mem : (session, frame) ∈ effect.core.sent) (success : reportsSuccess frame = true) :
    (session, frame) ∈ core.sent ∨ ∃ ptr record response, task = .handleRes ptr response ∧
      core.records[ptr]? = some record ∧ record.session = session ∧ record.kind.answer response = some frame := by
  have sends : ∀ {target : SessionPtr} {other : ToClient}, effect.core.sent = core.sent ++ [(target, other)] →
      reportsSuccess other = false → (session, frame) ∈ core.sent := by
    intro target other sent failure
    rw [sent, List.mem_append, List.mem_singleton] at mem
    rcases mem with mem | same
    · exact mem
    · cases same
      cases success.symm.trans failure
  cases executed with
  | loggedIn => exact .inl (sends rfl rfl)
  | loggedOut found owner kind completed | clientForwarded found owner kind completed
  | leaveNotified found owner kind completed => exact .inl (sends (completed_sends completed).2 rfl)
  | stopped found owner kind completed | forwarded found owner kind completed | sessionAdded found owner completed =>
    exact .inl ((completed_sends completed).2 ▸ mem)
  | @answered ptr job owned response reply _ found unfinished answer owner finished =>
    rw [(finished_sends finished).2] at mem
    rcases List.mem_append.mp mem with mem | same
    · exact .inl mem
    · cases List.mem_singleton.mp same
      exact .inr ⟨ptr, job.record, response, rfl, Core.found_record found, rfl, answer⟩
  | shutdownFinished found finished => exact .inl ((finished_sends finished).2 ▸ mem)
  | @timeoutFinished ptr job reply _ found timeout finished =>
    refine .inl (sends (finished_sends finished).2 ?_)
    cases kind : job.kind <;> rw [kind] at timeout <;> cases timeout <;> rfl
  | @sessionReceived target message =>
    cases message with
    | ping => exact .inl (sends rfl rfl)
    | _ => exact .inl mem
  | _ => exact .inl mem

theorem request_asks {kind : JobKind} {uid : Uid} {id : Nat} {message : ToRoom}
    (request : kind.request uid id = some message) : asks message = some id := by
  cases kind <;> cases request <;> rfl

/-- A message that asks for a change is handed to the channel by an item that asked for it. -/
theorem asked_of_executed (executed : Executed now core task effect) {message : ToRoom}
    (asked : (asks message).isSome = true) (mem : message ∈ effect.core.outgoing) :
    message ∈ core.outgoing ∨ task = .channelSend message := by
  rcases outgoing_of_executed executed with same | ⟨forward, more⟩ | ⟨other, rfl, more⟩
  · exact .inl (same ▸ mem)
  · rw [more, List.mem_append, List.mem_singleton] at mem
    rcases mem with mem | rfl
    · exact .inl mem
    · cases asked
  · rw [more, List.mem_append, List.mem_singleton] at mem
    rcases mem with mem | rfl
    · exact .inl mem
    · exact .inr rfl

theorem outgoing_asked (executed : Executed now core task effect) (id : Nat) :
    (effect.core.outgoing.countP fun message => asks message = some id) ≤
      (decide (task.asking = some id)).toNat + core.outgoing.countP fun message => asks message = some id := by
  rcases outgoing_of_executed executed with same | ⟨forward, more⟩ | ⟨other, rfl, more⟩
  · rw [same]
    omega
  · rw [more, List.countP_append, List.countP_singleton]
    simp [asks]
  · rw [more, List.countP_append, List.countP_singleton]
    by_cases mine : asks other = some id <;> simp [Task.asking, mine, Nat.add_comm]

/-- An item makes no more requests with an id than it was to make, unless it draws the id. -/
theorem posed_balance (executed : Executed now core task effect) (id : Nat) :
    let made := (items effect).countP (fun item => item.asking = some id) +
      effect.core.outgoing.countP fun message => asks message = some id
    let before := (decide (task.asking = some id)).toNat + core.outgoing.countP fun message => asks message = some id
    made ≤ before ∨
      (id = core.nextRequestId ∧ effect.core.nextRequestId = core.nextRequestId + 1 ∧ made ≤ before + 1) := by
  intro made before
  have sent := outgoing_asked executed id
  rcases asking_of_executed executed with none | ⟨errand, uid, message, requests⟩
  · have nothing : (items effect).countP (fun item => item.asking = some id) = 0 := by
      apply List.countP_eq_zero.mpr
      intro item mem
      simp [none item mem]
    left
    omega
  · have asked := request_asks requests.request
    have alone : (items effect).countP (fun item => item.asking = some id) = if errand.id = id then 1 else 0 := by
      rw [requests.items]
      by_cases mine : errand.id = id <;> simp [Task.asking, asked, mine]
    by_cases mine : errand.id = id
    · rw [if_pos mine] at alone
      exact .inr ⟨mine ▸ requests.fresh, requests.ids, by omega⟩
    · rw [if_neg mine] at alone
      left
      omega

end Executed

section Steps

variable {history : History} {state : State} {move : Transition State Label}

theorem Heard.later {message : ToUser} (heard : Heard history message) : Heard (history ++ [move]) message := by
  rcases heard with mem | injected
  · left
    rw [delivered, filterMap_concat]
    exact List.mem_append_left _ mem
  · exact .inr (injected_later injected)

theorem Errand.RanAs.later {errand : Errand} {uid : Uid} (ran : errand.RanAs history uid) :
    errand.RanAs (history ++ [move]) uid := by
  obtain ⟨earlier, mem, rest⟩ := ran
  exact ⟨earlier, List.mem_append_left _ mem, rest⟩

theorem heard_of_passing (passing : Passing history state) {message : ToUser}
    (waits : Waiting state (.onRecv message)) : Heard history message := by
  obtain ⟨thread, mem⟩ := waits
  by_cases dealer : thread = .dealer
  · subst dealer
    left
    apply passing.dealt.subset
    apply List.mem_append_right
    exact List.mem_filterMap.mpr ⟨_, Pool.mem_queue.mpr mem, rfl⟩
  · exact .inr (passing.foreign _ mem dealer message rfl)

theorem posed_kept {now : Nat} {core : Core} {task : Task} {effect : Effect} (touch : Touch now core task effect)
    (starts : Starts core task) {errand : Errand} (posed : errand.Posed core) : errand.Posed effect.core := by
  obtain ⟨record, found, session, kind, id, nonzero⟩ := posed
  obtain ⟨after, stored, session', kind'⟩ := touch_keeps_job touch found
  obtain ⟨same, stored', drawn, -⟩ := drawn_kept touch starts ⟨record, found, id, nonzero⟩
  cases stored.symm.trans stored'
  exact ⟨after, stored, session'.trans session, kind'.trans kind, drawn, nonzero⟩

theorem asking_extended {more : Pool Thread Task} {core : Core} (asking : Asking history state)
    (records : core.records = state.core.records) (outgoing : core.outgoing = state.core.outgoing)
    (sent : core.sent = state.core.sent) (ids : core.nextRequestId = state.core.nextRequestId)
    (silent : ∀ entry ∈ more, entry.2.asking = none ∧ entry.2.response = none) :
    Asking (history ++ [move]) ⟨core, state.pool ++ more⟩ := by
  have kept : ∀ {errand : Errand}, errand.Posed state.core → errand.Posed core := by
    intro errand posed
    rw [Errand.Posed, records]
    exact posed
  have earlier : ∀ {item}, Waiting (⟨core, state.pool ++ more⟩ : State) item → item.asking.isSome ∨ item.response.isSome →
      Waiting state item := by
    rintro item ⟨thread, mem⟩ speaks
    rcases List.mem_append.mp mem with mem | mem
    · exact ⟨thread, mem⟩
    · obtain ⟨asks, responds⟩ := silent _ mem
      simp only at asks responds
      rw [asks, responds] at speaks
      simp at speaks
  constructor
  case made =>
    intro message asked mem
    have mem : Waiting state (.channelSend message) ∨ message ∈ state.core.outgoing := by
      rcases mem with waits | mem
      · exact .inl (earlier waits (.inl asked))
      · exact .inr (outgoing ▸ mem)
    obtain ⟨errand, uid, posed, ran, request⟩ := asking.made message asked mem
    exact ⟨errand, uid, kept posed, ran.later, request⟩
  case once =>
    intro id
    have none : more.countP (fun entry => entry.2.asking = some id) = 0 := by
      apply List.countP_eq_zero.mpr
      intro entry mem
      simp [(silent entry mem).1]
    have bound := asking.once id
    simp only [posed, List.countP_append, none, outgoing, ids] at bound ⊢
    exact bound
  case heard =>
    intro item response waits takes
    exact (asking.heard item response (earlier waits (.inr (by simp [takes]))) takes).later
  case replies =>
    intro session frame mem success
    obtain ⟨errand, response, owner, posed, answer, carries, heard⟩ :=
      asking.replies session frame (sent ▸ mem) success
    exact ⟨errand, response, owner, kept posed, answer, carries, heard.later⟩

theorem asking_ran {now : Nat} {thread : Thread} {task : Task} {before later : Pool Thread Task} {effect : Effect}
    (asking : Asking history state) (passing : Passing history state) (tracked : Tracked state)
    (split : state.pool = before ++ (thread, task) :: later) (quiet : Pool.idle before thread)
    (executed : Executed now state.core task effect) :
    Asking (history ++ [⟨state, .run thread now, ranState thread before later effect⟩])
      (ranState thread before later effect) := by
  have waits : Waiting state task := ⟨thread, by simp [split]⟩
  have touch := touch_of_executed executed
  have kept : ∀ {errand : Errand}, errand.Posed state.core → errand.Posed effect.core :=
    posed_kept touch (tracked.starts waits)
  have earlier : ∀ {item}, (∃ owner, (owner, item) ∈ before ++ later) → Waiting state item :=
    fun rest => (waiting_split split _).mpr (.inr rest)
  constructor
  case made =>
    intro message asked mem
    have known : (Waiting state (.channelSend message) ∨ message ∈ state.core.outgoing) ∨
        ∃ errand uid, Requests state.core task effect errand uid message := by
      rcases mem with mem | mem
      · rcases (waiting_ran _).mp mem with mem | rest
        · rcases asking_of_executed executed with silent | ⟨errand, uid, other, requests⟩
          · have unasked : asks message = none := silent _ mem
            simp [unasked] at asked
          · rw [requests.items] at mem
            simp only [List.mem_cons, reduceCtorEq, Task.channelSend.injEq, List.not_mem_nil, or_false, false_or] at mem
            exact .inr ⟨errand, uid, mem ▸ requests⟩
        · exact .inl (.inl (earlier rest))
      · rcases asked_of_executed executed asked mem with mem | rfl
        · exact .inl (.inr mem)
        · exact .inl (.inl waits)
    rcases known with known | ⟨errand, uid, requests⟩
    · obtain ⟨errand, uid, posed, ran, request⟩ := asking.made message asked known
      exact ⟨errand, uid, kept posed, ran.later, request⟩
    · -- The job runs just now, under the uid its session has.
      obtain ⟨record, found, session, kind, records⟩ := requests.known
      obtain ⟨owner, stored, uid'⟩ := requests.owner
      have nonzero : errand.id ≠ 0 := by
        have positive := tracked.linked.positive
        rw [requests.fresh]
        omega
      refine ⟨errand, uid, ⟨{ record with done := true, roomRequestId := errand.id }, ?_, session, kind, rfl, nonzero⟩,
        ?_, requests.request⟩
      · show effect.core.records[errand.ptr]? = _
        rw [records, heap_get_set found, if_pos rfl]
      · refine ⟨_, List.mem_append_right _ (List.mem_singleton_self _), now, owner, ?_, stored, uid'⟩
        rw [executed_ran now _ split quiet, requests.isRun]
  case once =>
    intro id
    have bound := asking.once id
    have ids : state.core.nextRequestId ≤ effect.core.nextRequestId := by
      rcases touch_ids touch with same | ⟨_, _, -, -, -, more⟩ <;> omega
    have balance := posed_balance executed id
    simp only [posed, countP_split (fun item : Task => decide (item.asking = some id)) split,
      countP_ran (fun item : Task => decide (item.asking = some id))] at bound ⊢
    rcases balance with less | ⟨drawn, more, less⟩
    · split at bound <;> split <;> omega
    · rw [if_neg (by omega)] at bound
      rw [if_pos (by omega)]
      omega
  case heard =>
    intro item response mem takes
    rcases (waiting_ran _).mp mem with mem | rest
    · rcases response_of_touch touch mem takes with same | rfl
      · exact (asking.heard task response waits same).later
      · exact (heard_of_passing passing waits).later
    · exact (asking.heard item response (earlier rest) takes).later
  case replies =>
    intro session frame mem success
    rcases replies_of_executed executed mem success with mem | ⟨ptr, record, response, rfl, found, owner, answer⟩
    · obtain ⟨errand, response, owner, posed, answer, carries, heard⟩ := asking.replies session frame mem success
      exact ⟨errand, response, owner, kept posed, answer, carries, heard.later⟩
    · obtain ⟨id, carries, same, found', drawn, nonzero⟩ := tracked.linked.items _ waits
      cases found.symm.trans found'
      have posed : Errand.Posed state.core ⟨ptr, session, record.kind, id⟩ :=
        ⟨record, found, owner, rfl, drawn, nonzero⟩
      exact ⟨_, response, rfl, kept posed, answer, carries, (asking.heard _ response waits rfl).later⟩

theorem asking_step {label : Label} {after : State} (asking : Asking history state) (passing : Passing history state)
    (tracked : Tracked state) (moved : step state label = some after) :
    Asking (history ++ [⟨state, label, after⟩]) after := by
  cases stepped_of_step moved with
  | accepted =>
    rw [← List.append_nil state.pool]
    exact asking_extended asking rfl rfl rfl rfl (by simp)
  | @received conn call known quiet =>
    apply asking_extended asking rfl rfl rfl rfl
    cases call <;> simp [Invocation.task, Task.asking, Task.response]
  | delivered | closing =>
    apply asking_extended asking rfl rfl rfl rfl
    simp [Task.asking, Task.response]
  | ran split quiet executed => exact asking_ran asking passing tracked split quiet executed
  | @expired now quiet =>
    exact asking_extended asking rfl rfl rfl rfl (forall_timeouts (fun _ => ⟨rfl, rfl⟩) fun _ => ⟨rfl, rfl⟩)

theorem asking_reached (reached : Reaches history state) : Asking history state := by
  apply reached.history Asking
  · constructor <;> simp [initial, Waiting, posed]
  · intro past move run asking moved mem
    exact asking_step asking (passing_reached run) (tracked_reached run) moved

end Steps

end Rsp.UserServer
