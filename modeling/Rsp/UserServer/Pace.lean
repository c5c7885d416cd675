import Rsp.UserServer.Conclusion

/-! A session that stays connected.

As long as the shutdown of a session has not run, its scheduler accepts jobs and none of them
is cancelled for it. A job then concludes by a response or by a timeout, whichever takes its
pending request, and what concludes it is the last word on that request.
-/

set_option autoImplicit false

namespace Rsp.UserServer

open Message Rsp.Job Foundation

/-- A transition that does not shut the session down. -/
def Connected (session : SessionPtr) (move : Transition State Label) : Prop :=
  (executed move).all (fun ran => ran.2 ≠ .shutdown session) = true

structure Paced (session : SessionPtr) (state : State) : Prop where
  running : ∀ scheduler, state.core.schedulers[session]? = some scheduler → scheduler.stopped = false
  unstopped : ∀ (ptr : JobPtr) record, state.core.records[ptr]? = some record → record.session = session →
    ¬ Waiting state (.cancel ptr .kShutdown) ∧ ¬ Waiting state (.finishCancel ptr .kShutdown)
  drained : ∀ (ptr : JobPtr) record, state.core.records[ptr]? = some record → record.session = session →
    record.finished = true → Drained (life state ptr record)

section Ran

variable {session : SessionPtr} {now : Nat} {state : State} {thread : Thread} {task : Task}
  {before later : Pool Thread Task} {effect : Effect} {ptr : JobPtr} {record : Record}

/-- A shutdown's cancellations come from the shutdown or from a stopped scheduler. -/
theorem unstopped_items (orderly : Orderly state) (paced : Paced session state) (waits : Waiting state task)
    (touch : Touch now state.core task effect) (connected : task ≠ .shutdown session)
    (found : state.core.records[ptr]? = some record) (here : record.session = session) :
    (.cancel ptr .kShutdown : Task) ∉ items effect ∧ (.finishCancel ptr .kShutdown : Task) ∉ items effect := by
  have started : ∀ {target}, Advanced state.core target effect →
      (∀ entry ∈ effect.posts, entry.2.inert = true ∨ ∃ job, entry.2 = .pushAndRun job) →
      (.cancel ptr .kShutdown : Task) ∉ items effect ∧ (.finishCancel ptr .kShutdown : Task) ∉ items effect := by
    intro target advanced posts
    have harmless : ∀ item ∈ items effect, (∃ job, item = .run job) ∨ item.inert = true ∨ ∃ job, item = .pushAndRun job := by
      intro item mem
      rcases List.mem_append.mp mem with mem | mem
      · exact .inl (advanced.runs mem)
      · obtain ⟨entry, posted, rfl⟩ := List.mem_map.mp mem
        exact .inr (posts entry posted)
    constructor <;> intro mem <;> simpa [Task.inert] using harmless _ mem
  cases touch with
  | steady records schedulers unasked inert sends =>
    constructor <;> intro mem <;> cases inert _ mem
  | @push job _ pushed scheduler stored owner records schedulers unasked next posts =>
    simp only [items, next, posts, List.map_nil, List.append_nil]
    rcases JobScheduler.pushAndRun_cases (orderly.busy scheduler (List.mem_of_getElem? owner)) job with
      ⟨stopped, same⟩ | ⟨-, same⟩ | ⟨-, same⟩
    · -- a push is turned into a cancellation only by a stopped scheduler
      simp only [same, afterPush, List.mem_singleton, Task.cancel.injEq, and_true, reduceCtorEq, not_false_eq_true]
      rintro rfl
      cases stored.symm.trans found
      rw [here] at owner
      simp [paced.running scheduler owner] at stopped
    · simp [same, afterPush]
    · simp [same, afterPush]
  | complete job called caller stored records advanced unasked inert =>
    exact started advanced fun entry posted => .inl (inert entry posted)
  | logout called stored records advanced unasked posts
  | finish job concluding caller stored unfinished records advanced unasked posts =>
    apply started advanced
    simp [posts]
  | @cancel job reason _ cancelled stored room unfinished records schedulers requests ids next posts =>
    constructor
    · simp only [items, next, posts, List.map_nil, List.append_nil]
      split <;> simp [sendCancel]
    · intro mem
      have same : job = ptr ∧ reason = .kShutdown := by
        simp only [items, next, posts, List.map_nil, List.append_nil] at mem
        split at mem <;> simpa [sendCancel, eq_comm] using mem
      obtain ⟨rfl, rfl⟩ := same
      exact (paced.unstopped job record found here).1 waits
  | @shutdown other _ scheduler owner records schedulers unasked next posts =>
    refine ⟨fun mem => ?_, by simp [items, next, posts]⟩
    simp only [items, next, posts, List.map_nil, List.append_nil, List.mem_map, Task.cancel.injEq, and_true] at mem
    obtain ⟨job, cancelled, rfl⟩ := mem
    have queued : job ∈ state.core.queueOf other := by
      rw [queueOf_found owner]
      rcases scheduler.shutdown_cases with same | same <;> rw [same] at cancelled
      · cases cancelled
      · exact cancelled
    exact connected (by rw [← here, queued_session orderly found queued])
  | respond id pending carries entry records schedulers requests ids next posts =>
    simp only [items, next, posts]
    split <;> simp [onTimeout, sendCancel]
  | login records schedulers unasked next posts | enqueue other kind records schedulers unasked next posts
  | request asking message stored room records schedulers requests ids asks next posts => simp [items, next, posts]
  | add => simp [items, addRequest]
  | send | postResponse | postTimeout | disconnect => simp [items]

theorem finished_by (touch : Touch now state.core task effect) (found : state.core.records[ptr]? = some record)
    (unfinished : record.finished = false) {record' : Record} (stored : effect.core.records[ptr]? = some record')
    (ended : record'.finished = true) :
    ((∃ response, task = .handleRes ptr response) ∨ ∃ reason, task = .finishCancel ptr reason) ∧
      record' = { record with finished := true, done := false } ∧ Advanced state.core record.session effect ∧
      effect.core.requests = state.core.requests ∧ effect.posts = [] := by
  have kept : effect.core.records[ptr]? = some record → False := by
    intro same
    cases stored.symm.trans same
    cases unfinished.symm.trans ended
  cases touch with
  | finish job concluding caller known open_ records advanced unasked posts =>
    by_cases mine : job = ptr
    · subst mine
      cases known.symm.trans found
      rw [records, heap_get_set found, if_pos rfl] at stored
      cases stored
      exact ⟨caller, rfl, advanced, unasked.requests, posts⟩
    · apply (kept _).elim
      rw [records, heap_get_set known, if_neg mine, found]
  | @request job _ asking message known room records =>
    by_cases mine : job = ptr
    · subst mine
      cases known.symm.trans found
      rw [records, heap_get_set found, if_pos rfl] at stored
      cases stored
      cases unfinished.symm.trans ended
    · apply (kept _).elim
      rw [records, heap_get_set known, if_neg mine, found]
  | enqueue target kind records | logout called known records =>
    exact (kept (by rw [records]; exact heap_get_append found _)).elim
  | steady records | login records | push pushed scheduler known owner records
  | complete job called caller known records | cancel cancelled known room open_ records
  | shutdown scheduler owner records | respond id pending carries entry records => exact (kept (records ▸ found)).elim
  | send | add | postResponse | postTimeout | disconnect => exact (kept found).elim

theorem drained_ran (tracked : Tracked state) (paced : Paced session state) (quiet : Pool.idle before thread)
    (split : state.pool = before ++ (thread, task) :: later) (touch : Touch now state.core task effect)
    (found : effect.core.records[ptr]? = some record) (here : record.session = session)
    (ended : record.finished = true) : Drained (life (ranState thread before later effect) ptr record) := by
  cases known : state.core.records[ptr]? with
  | none =>
    have born := congrArg Life.finished (life_born tracked.orderly tracked.linked split touch known found)
    cases ended.symm.trans born
  | some earlier =>
    have sane := tracked.sane ptr earlier known
    obtain ⟨stored, same, owner, -⟩ := touch_keeps_job touch known
    cases same.symm.trans found
    cases open_ : earlier.finished with
    | true =>
      obtain ⟨record', same, turns⟩ := life_ran tracked.orderly tracked.linked quiet split touch known
      cases same.symm.trans found
      exact drained_turns sane (paced.drained ptr earlier known (owner.symm.trans here) open_) turns
    | false =>
      obtain ⟨caller, rfl, advanced, requests, posts⟩ := finished_by touch known open_ found ended
      obtain ⟨taken, consumed, ending, alone, turn⟩ :=
        turns_finish tracked.orderly quiet split caller known advanced requests posts
      refine drained_of_concluded sane (load_pos split consumed) ?_ alone turn
      rcases ending with rfl | rfl | rfl
      · exact .inl rfl
      · exact .inr rfl
      · -- The end of a shutdown's cancellation does not wait for this session.
        rcases caller with ⟨response, rfl⟩ | ⟨reason, rfl⟩
        · cases consumed
        · cases reason with
          | kTimeout => cases consumed
          | kShutdown =>
            have waits : Waiting state (.finishCancel ptr .kShutdown) := (waiting_split split _).mpr (.inl rfl)
            exact absurd waits (paced.unstopped ptr earlier known here).2

theorem paced_ran (tracked : Tracked state) (paced : Paced session state) (quiet : Pool.idle before thread)
    (split : state.pool = before ++ (thread, task) :: later) (touch : Touch now state.core task effect)
    (connected : task ≠ .shutdown session) : Paced session (ranState thread before later effect) where
  running scheduler owner := by
    obtain ⟨earlier, stored, evolves⟩ := touch_queued touch tracked.orderly.busy owner
    exact (evolves.stopped connected).trans (paced.running earlier stored)
  unstopped ptr record found here := by
    have waits : Waiting state task := (waiting_split split task).mpr (.inl rfl)
    cases known : state.core.records[ptr]? with
    | some earlier =>
      obtain ⟨stored, same, owner, -⟩ := touch_keeps_job touch known
      cases same.symm.trans found
      have placed := owner.symm.trans here
      have fresh := unstopped_items tracked.orderly paced waits touch connected known placed
      have rest : ∀ item : Task, item ∉ items effect → ¬ Waiting state item →
          ¬ Waiting (ranState thread before later effect) item := by
        intro item new old later
        rcases (waiting_ran _).mp later with mem | other
        · exact new mem
        · exact old ((waiting_split split _).mpr (.inr other))
      have unstopped := paced.unstopped ptr earlier known placed
      exact ⟨rest _ fresh.1 unstopped.1, rest _ fresh.2 unstopped.2⟩
    | none =>
      have born := congrArg Life.load (life_born tracked.orderly tracked.linked split touch known found)
      have none : ∀ {item : Task} {role : Role}, item.role = some (ptr, role) → role ≠ .pushing →
          ¬ Waiting (ranState thread before later effect) item := by
        intro item role about other waits
        obtain ⟨owner, mem⟩ := waits
        obtain ⟨front, rest, place⟩ := List.append_of_mem mem
        have load : 0 < (life (ranState thread before later effect) ptr record).load role := load_pos place about
        rw [born] at load
        simp [Life.born, other] at load
      exact ⟨none rfl (by simp), none rfl (by simp)⟩
  drained ptr record found here ended := drained_ran tracked paced quiet split touch found here ended

end Ran

/-! ## Whole runs -/

section Reached

variable {session : SessionPtr} {state after : State} {history : History}

theorem paced_initial : Paced session initial where
  running := by simp [initial, Core.schedulers]
  unstopped := by simp [initial, Core.records]
  drained := by simp [initial, Core.records]

theorem paced_extended (tracked : Tracked state) (paced : Paced session state) {label : Label}
    (moved : step state label = some after) (records : after.core.records = state.core.records)
    (schedulers : ∀ scheduler, after.core.schedulers[session]? = some scheduler →
      state.core.schedulers[session]? = some scheduler ∨ scheduler = {})
    (items : ∀ (ptr : JobPtr), (Waiting after (.cancel ptr .kShutdown) → Waiting state (.cancel ptr .kShutdown)) ∧
      (Waiting after (.finishCancel ptr .kShutdown) → Waiting state (.finishCancel ptr .kShutdown))) :
    Paced session after where
  running scheduler owner := by
    rcases schedulers scheduler owner with stored | rfl
    · exact paced.running scheduler stored
    · rfl
  unstopped ptr record found here := by
    have unstopped := paced.unstopped ptr record (records ▸ found) here
    exact ⟨fun waits => unstopped.1 ((items ptr).1 waits), fun waits => unstopped.2 ((items ptr).2 waits)⟩
  drained ptr record found here ended := by
    rw [records] at found
    obtain ⟨record', stored, turns⟩ := life_step tracked.orderly tracked.linked moved found
    cases stored.symm.trans (records ▸ found)
    exact drained_turns (tracked.sane ptr record found) (paced.drained ptr record found here ended) turns

theorem paced_step {label : Label} (tracked : Tracked state) (paced : Paced session state)
    (moved : step state label = some after) (connected : Connected session ⟨state, label, after⟩) :
    Paced session after := by
  cases moved_of_step moved with
  | arrived more records schedulers unasked outgoing pool inert quiet =>
    apply paced_extended tracked paced moved records
    · intro scheduler owner
      rcases schedulers with same | same
      · exact .inl (same ▸ owner)
      · rw [same, heap_get_concat] at owner
        split at owner
        · exact .inr (Option.some.inj owner).symm
        · exact .inl owner
    · have earlier : ∀ item : Task, item.inert = false → Waiting after item → Waiting state item := by
        rintro item active ⟨thread, mem⟩
        rw [pool] at mem
        rcases List.mem_append.mp mem with mem | mem
        · exact ⟨thread, mem⟩
        · cases active.symm.trans (inert _ mem)
      exact fun ptr => ⟨earlier _ rfl, earlier _ rfl⟩
  | expired now quiet =>
    apply paced_extended tracked paced moved rfl
    · exact fun scheduler owner => .inl owner
    · have earlier : ∀ item : Task, (∀ id job, item ∉ onTimeout id job) → Waiting (expire now state) item →
          Waiting state item := by
        rintro item foreign ⟨thread, mem⟩
        rcases List.mem_append.mp mem with mem | mem
        · exact ⟨thread, mem⟩
        · obtain ⟨told, listed, same⟩ := List.mem_map.mp mem
          obtain ⟨entry, -, told⟩ := List.mem_flatMap.mp listed
          cases same
          exact absurd told (foreign _ _)
      intro ptr
      constructor <;> apply earlier <;> intro id job <;> simp [onTimeout, sendCancel]
  | @ran thread now task before later effect isRun split quiet executed =>
    apply paced_ran tracked paced quiet split (touch_of_executed executed)
    subst isRun
    rw [Connected, executed_ran now _ split quiet] at connected
    simpa using connected

end Reached

end Rsp.UserServer
