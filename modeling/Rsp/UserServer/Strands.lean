import Rsp.UserServer.Effects

/-! Where the work of a job waits.

Everything a job does runs on the strand of its session. The items a started job leaves
behind wait at the front of that strand, behind nothing but a message still to be sent.
-/

set_option autoImplicit false

namespace Rsp.UserServer

open Message Rsp.Job Foundation

def Task.owner : Task → Option JobPtr
  | .pushAndRun job | .run job | .addSession job | .addRequest job _ | .handleRes job _ | .cancel job _
  | .finishCancel job _ => some job
  | _ => none

def Task.critical : Task → Prop
  | .run _ | .addSession _ | .addRequest .. | .finishCancel .. => True
  | _ => False

def Task.light : Task → Prop
  | .channelSend _ => True
  | _ => False

structure Orderly (state : State) : Prop where
  located : ∀ entry ∈ state.pool, ∀ ptr, entry.2.owner = some ptr →
    ∃ record, state.core.records[ptr]? = some record ∧ entry.1 = .strand record.session
  stops : ∀ entry ∈ state.pool, ∀ session, entry.2 = .shutdown session → entry.1 = .strand session
  leading : Pool.Leading Task.light Task.critical state.pool
  queued : ∀ session (scheduler : JobScheduler JobPtr), state.core.schedulers[session]? = some scheduler →
    ∀ ptr ∈ scheduler.q, ∃ record : Record, state.core.records[ptr]? = some record ∧ record.session = session
  busy : ∀ scheduler ∈ state.core.schedulers, scheduler.Busy

section Touch

variable {now : Nat} {core : Core} {task : Task} {effect : Effect}

theorem touch_keeps_job (touch : Touch now core task effect) {ptr : JobPtr} {record : Record}
    (found : core.records[ptr]? = some record) :
    ∃ after, effect.core.records[ptr]? = some after ∧ after.session = record.session ∧ after.kind = record.kind := by
  have updated : ∀ {target : JobPtr} {old new : Record}, core.records[target]? = some old →
      new.session = old.session → new.kind = old.kind →
      ∃ after, (core.records.set target new)[ptr]? = some after ∧ after.session = record.session ∧
        after.kind = record.kind := by
    intro target old new stored session kind
    rw [heap_get_set stored]
    by_cases same : target = ptr
    · subst same
      cases stored.symm.trans found
      exact ⟨new, if_pos rfl, session, kind⟩
    · exact ⟨record, by rw [if_neg same, found], rfl, rfl⟩
  have same : effect.core.records = core.records → ∃ after, effect.core.records[ptr]? = some after ∧
      after.session = record.session ∧ after.kind = record.kind :=
    fun records => ⟨record, by rw [records, found], rfl, rfl⟩
  cases touch with
  | enqueue session kind records | logout old stored records =>
    exact ⟨record, by rw [records]; exact heap_get_append found _, rfl, rfl⟩
  | request old message stored room records | finish target old caller stored unfinished records =>
    rw [records]
    exact updated stored rfl rfl
  | send | add | postResponse | postTimeout | disconnect => exact same rfl
  | _ => exact same ‹_›

theorem inert_plain {item : Task} (inert : item.inert = true) :
    ¬ item.critical ∧ item.owner = none ∧ ∀ session, item ≠ .shutdown session := by
  cases item <;> first | cases inert; done | exact ⟨not_false, rfl, by simp⟩

theorem touch_leads (touch : Touch now core task effect) :
    Pool.Leads Task.light Task.critical effect.next ∧ (task.light → effect.next = []) ∧
      ∀ entry ∈ effect.posts, ¬ entry.2.critical := by
  have single : ∀ {item}, effect.next = [item] → Pool.Leads Task.light Task.critical effect.next := by
    intro item next
    rw [next]
    exact Pool.leads_of_tail (by simp)
  have advance : ∀ {session}, Advanced core session effect → Pool.Leads Task.light Task.critical effect.next := by
    intro session advanced
    cases advanced with
    | same schedulers next => rw [next]; trivial
    | popped scheduler owner schedulers next =>
      rw [next]
      exact Pool.leads_of_tail (by cases scheduler.completeCurrent.2 <;> simp)
  cases touch with
  | steady records schedulers unasked inert sends =>
    refine ⟨Pool.leads_of_tail fun item mem => ?_, ?_, fun entry mem => ?_⟩
    · exact (inert_plain (inert item (List.mem_append_left _ (List.mem_of_mem_tail mem)))).1
    · cases task with
      | channelSend message => exact absurd rfl (sends message)
      | _ => exact False.elim
    · exact (inert_plain (inert entry.2 (List.mem_append_right _ (List.mem_map_of_mem mem)))).1
  | send => exact ⟨trivial, fun _ => rfl, by simp⟩
  | login records schedulers unasked next posts => exact ⟨single next, False.elim, by simp [posts]⟩
  | enqueue session kind records schedulers unasked next posts =>
    exact ⟨by rw [next]; trivial, fun _ => next, by simp [posts, Task.critical]⟩
  | push record scheduler found owner records schedulers unasked next posts =>
    refine ⟨?_, False.elim, by simp [posts]⟩
    rw [next]
    exact Pool.leads_of_tail (by cases (scheduler.pushAndRun _).2 <;> simp [afterPush])
  | complete ptr record caller found records advanced unasked inert =>
    refine ⟨advance advanced, ?_, fun entry mem => (inert_plain (inert entry mem)).1⟩
    rcases caller with rfl | rfl <;> exact False.elim
  | logout record found records advanced unasked posts =>
    exact ⟨advance advanced, False.elim, by simp [posts, Task.critical]⟩
  | request record message found room records schedulers requests ids asks next posts =>
    refine ⟨?_, False.elim, by simp [posts]⟩
    rw [next]
    exact Pool.leads_of_tail (by simp [Task.critical])
  | add => exact ⟨trivial, False.elim, by simp [addRequest]⟩
  | finish ptr record caller found unfinished records advanced unasked posts =>
    refine ⟨advance advanced, ?_, by simp [posts]⟩
    rcases caller with ⟨response, rfl⟩ | ⟨reason, rfl⟩ <;> exact False.elim
  | cancel record found room unfinished records schedulers requests ids next posts =>
    refine ⟨?_, False.elim, by simp [posts]⟩
    rw [next]
    split
    · -- the cancel message is light, so the finishing task may come second
      exact .inr ⟨trivial, Pool.leads_of_tail (by simp)⟩
    · exact Pool.leads_of_tail (by simp)
  | shutdown scheduler owner records schedulers unasked next posts =>
    refine ⟨Pool.leads_of_tail fun item mem => ?_, False.elim, by simp [posts]⟩
    rw [next] at mem
    obtain ⟨ptr, -, rfl⟩ := List.mem_map.mp (List.mem_of_mem_tail mem)
    exact not_false
  | respond id pending carries found records schedulers requests ids next posts =>
    refine ⟨Pool.leads_of_tail fun item mem => ?_, False.elim, by simp [posts]⟩
    have mem := List.mem_of_mem_tail mem
    rw [next] at mem
    split at mem <;> simp [onTimeout, sendCancel] at mem <;> rcases mem with rfl | rfl <;> exact not_false
  | postResponse | postTimeout | disconnect => exact ⟨trivial, False.elim, by simp [Task.critical]⟩

structure Evolves (core : Core) (task : Task) (session : SessionPtr) (before after : JobScheduler JobPtr) : Prop where
  busy : after.Busy
  grows : ∀ ptr ∈ after.q, ptr ∈ before.q ∨ (task = .pushAndRun ptr ∧
    ∃ record, core.records[ptr]? = some record ∧ record.session = session)
  stopped : task ≠ .shutdown session → after.stopped = before.stopped

/-- The queue of a scheduler after an item: what it held, and possibly the job just pushed. -/
theorem touch_queued (touch : Touch now core task effect)
    (busy : ∀ scheduler ∈ core.schedulers, scheduler.Busy) {session : SessionPtr} {after : JobScheduler JobPtr}
    (owner : effect.core.schedulers[session]? = some after) :
    ∃ before, core.schedulers[session]? = some before ∧ Evolves core task session before after := by
  have kept : effect.core.schedulers = core.schedulers →
      ∃ before, core.schedulers[session]? = some before ∧ Evolves core task session before after := by
    intro schedulers
    rw [schedulers] at owner
    exact ⟨after, owner, busy after (List.mem_of_getElem? owner), fun _ => .inl, fun _ => rfl⟩
  have updated : ∀ {target old new}, core.schedulers[target]? = some old →
      effect.core.schedulers = core.schedulers.set target new → Evolves core task target old new →
      ∃ before, core.schedulers[session]? = some before ∧ Evolves core task session before after := by
    intro target old new stored schedulers evolves
    rw [schedulers, heap_get_set stored] at owner
    split at owner
    · next same =>
      subst same
      cases owner
      exact ⟨old, stored, evolves⟩
    · exact ⟨after, owner, busy after (List.mem_of_getElem? owner), fun _ => .inl, fun _ => rfl⟩
  have advance : ∀ {target}, Advanced core target effect →
      ∃ before, core.schedulers[session]? = some before ∧ Evolves core task session before after := by
    intro target advanced
    cases advanced with
    | same schedulers next => exact kept schedulers
    | popped scheduler stored schedulers next =>
      refine updated stored schedulers ⟨JobScheduler.completeCurrent_busy (busy scheduler (List.mem_of_getElem? stored)),
        fun ptr mem => ?_, fun _ => scheduler.completeCurrent_stopped⟩
      rw [JobScheduler.completeCurrent_q] at mem
      exact .inl (List.mem_of_mem_tail mem)
  cases touch with
  | @push ptr _ record scheduler found stored records schedulers unasked next posts =>
    have isBusy := busy scheduler (List.mem_of_getElem? stored)
    refine updated stored schedulers ⟨JobScheduler.pushAndRun_busy isBusy ptr, fun other mem => ?_,
      fun _ => scheduler.pushAndRun_stopped ptr⟩
    rcases JobScheduler.pushAndRun_cases isBusy ptr with ⟨-, same⟩ | ⟨empty, same⟩ | ⟨-, same⟩
    · rw [same] at mem
      exact .inl mem
    · rw [same] at mem
      obtain rfl := List.mem_singleton.mp mem
      exact .inr ⟨rfl, record, found, rfl⟩
    · rw [same] at mem
      rcases List.mem_append.mp mem with mem | mem
      · exact .inl mem
      · obtain rfl := List.mem_singleton.mp mem
        exact .inr ⟨rfl, record, found, rfl⟩
  | shutdown scheduler stored records schedulers unasked next posts =>
    refine updated stored schedulers ⟨JobScheduler.shutdown_busy (busy scheduler (List.mem_of_getElem? stored)),
      fun ptr mem => ?_, fun other => absurd rfl other⟩
    rcases scheduler.shutdown_cases with same | same
    · exact .inl (by simpa [same] using mem)
    · simp [same] at mem
  | complete | logout | finish => exact advance ‹_›
  | send | add | postResponse | postTimeout | disconnect => exact kept rfl
  | _ => exact kept ‹_›

end Touch

section Orderly

variable {now : Nat} {core : Core} {state : State} {thread : Thread} {task : Task} {effect : Effect}

theorem Orderly.at_owner (orderly : Orderly state) (waits : (thread, task) ∈ state.pool) {ptr : JobPtr}
    (owner : task.owner = some ptr) {record : Record} (found : state.core.records[ptr]? = some record) :
    thread = .strand record.session := by
  obtain ⟨stored, same, placed⟩ := orderly.located _ waits ptr owner
  cases found.symm.trans same
  exact placed

theorem advanced_placed (orderly : Orderly state) {session : SessionPtr}
    (advanced : Advanced state.core session effect) {item : Task} (mem : item ∈ effect.next) :
    ∃ next record, item = .run next ∧ state.core.records[next]? = some record ∧ record.session = session := by
  cases advanced with
  | same schedulers next => simp [next] at mem
  | popped scheduler owner schedulers next =>
    rw [next, JobScheduler.completeCurrent_next] at mem
    obtain ⟨job, first, rfl⟩ := List.mem_map.mp mem
    have queued : job ∈ scheduler.q :=
      List.mem_of_mem_tail (List.mem_of_mem_head? (Option.mem_toList.mp first))
    obtain ⟨record, found, same⟩ := orderly.queued _ scheduler owner job queued
    exact ⟨job, record, rfl, found, same⟩

/-- What an item goes on with belongs to the strand it runs on, and what it posts to the
strand it is posted to. -/
theorem touch_placed (orderly : Orderly state) (touch : Touch now state.core task effect)
    (waits : (thread, task) ∈ state.pool) :
    (∀ item ∈ effect.next, ∀ ptr, item.owner = some ptr →
      ∃ record, state.core.records[ptr]? = some record ∧ thread = .strand record.session) ∧
    ∀ entry ∈ effect.posts, ∀ ptr, entry.2.owner = some ptr →
      ∃ record, effect.core.records[ptr]? = some record ∧ entry.1 = .strand record.session := by
  have advance : ∀ {ptr record}, task.owner = some ptr → state.core.records[ptr]? = some record →
      Advanced state.core record.session effect → ∀ item ∈ effect.next, ∀ other, item.owner = some other →
      ∃ record, state.core.records[other]? = some record ∧ thread = .strand record.session := by
    intro ptr record owner found advanced item mem other concerns
    obtain ⟨next, after, rfl, stored, same⟩ := advanced_placed orderly advanced mem
    cases concerns
    exact ⟨after, stored, by rw [orderly.at_owner waits owner found, same]⟩
  cases touch with
  | steady records schedulers unasked inert sends =>
    have plain : ∀ item ∈ items effect, item.owner = none := fun item mem => (inert_plain (inert item mem)).2.1
    refine ⟨fun item mem ptr concerns => ?_, fun entry mem ptr concerns => ?_⟩
    · cases (plain item (List.mem_append_left _ mem)).symm.trans concerns
    · cases (plain entry.2 (List.mem_append_right _ (List.mem_map_of_mem mem))).symm.trans concerns
  | send => exact ⟨by simp, by simp⟩
  | login records schedulers unasked next posts =>
    refine ⟨fun item mem ptr concerns => ?_, by simp [posts]⟩
    obtain rfl : item = _ := by simpa [next] using mem
    exact orderly.located _ waits _ concerns
  | enqueue session kind records schedulers unasked next posts =>
    refine ⟨by simp [next], fun entry mem ptr concerns => ?_⟩
    obtain rfl : entry = _ := by simpa [posts] using mem
    cases concerns
    exact ⟨.make session kind, by rw [records]; simp, rfl⟩
  | @push ptr _ record scheduler found owner records schedulers unasked next posts =>
    refine ⟨fun item mem other concerns => ?_, by simp [posts]⟩
    have isBusy := orderly.busy scheduler (List.mem_of_getElem? owner)
    have same : item.owner = some ptr := by
      rw [next] at mem
      rcases JobScheduler.pushAndRun_cases isBusy ptr with ⟨-, pushed⟩ | ⟨-, pushed⟩ | ⟨-, pushed⟩ <;>
        simp only [pushed, afterPush, List.mem_singleton, List.not_mem_nil] at mem <;> rw [mem] <;> rfl
    cases same.symm.trans concerns
    exact orderly.located _ waits _ rfl
  | complete ptr record caller found records advanced unasked inert =>
    refine ⟨advance ?_ found advanced, fun entry mem ptr concerns => ?_⟩
    · rcases caller with rfl | rfl <;> rfl
    · cases (inert_plain (inert entry mem)).2.1.symm.trans concerns
  | logout record found records advanced unasked posts =>
    refine ⟨advance rfl found advanced, fun entry mem ptr concerns => ?_⟩
    obtain rfl : entry = _ := by simpa [posts] using mem
    cases concerns
    exact ⟨.make record.session (.stop false), by rw [records]; simp, rfl⟩
  | @request ptr _ record message found room records schedulers requests ids asks next posts =>
    refine ⟨fun item mem other concerns => ?_, by simp [posts]⟩
    rw [next] at mem
    rcases List.mem_cons.mp mem with rfl | mem
    · exact orderly.located _ waits _ concerns
    · obtain rfl := List.mem_singleton.mp mem
      cases concerns
  | add => exact ⟨by simp [addRequest], by simp [addRequest]⟩
  | finish ptr record caller found unfinished records advanced unasked posts =>
    refine ⟨advance ?_ found advanced, by simp [posts]⟩
    rcases caller with ⟨response, rfl⟩ | ⟨reason, rfl⟩ <;> rfl
  | @cancel ptr reason _ record found room unfinished records schedulers requests ids next posts =>
    refine ⟨fun item mem other concerns => ?_, by simp [posts]⟩
    rw [next] at mem
    rcases List.mem_append.mp mem with mem | mem
    · split at mem
      · obtain rfl := List.mem_singleton.mp mem
        cases concerns
      · cases mem
    · obtain rfl := List.mem_singleton.mp mem
      exact orderly.located _ waits _ concerns
  | @shutdown session _ scheduler owner records schedulers unasked next posts =>
    refine ⟨fun item mem other concerns => ?_, by simp [posts]⟩
    rw [next] at mem
    obtain ⟨job, cancelled, rfl⟩ := List.mem_map.mp mem
    cases concerns
    -- the jobs that a shutdown cancels are those of its own session
    have queued : other ∈ scheduler.q := by
      rcases scheduler.shutdown_cases with same | same <;> simp only [same] at cancelled
      · cases cancelled
      · exact cancelled
    obtain ⟨record, found, same⟩ := orderly.queued _ scheduler owner other queued
    have placed : thread = .strand session := orderly.stops _ waits session rfl
    exact ⟨record, found, by rw [placed, same]⟩
  | respond id pending carries found records schedulers requests ids next posts =>
    refine ⟨fun item mem other concerns => ?_, by simp [posts]⟩
    rw [next] at mem
    split at mem <;> simp [onTimeout, sendCancel] at mem
    · rcases mem with rfl | rfl <;> cases concerns
    · subst mem
      cases concerns
  | postResponse record found | postTimeout record found =>
    refine ⟨by simp, fun entry mem ptr concerns => ?_⟩
    obtain rfl := List.mem_singleton.mp mem
    cases concerns
    exact ⟨record, found, rfl⟩
  | disconnect => exact ⟨by simp, by simp [Task.owner]⟩

theorem touch_stops (touch : Touch now core task effect) :
    (∀ item ∈ effect.next, ∀ session, item ≠ .shutdown session) ∧
    ∀ entry ∈ effect.posts, ∀ session, entry.2 = .shutdown session → entry.1 = .strand session := by
  have advance : ∀ {session}, Advanced core session effect → ∀ item ∈ effect.next, ∀ other, item ≠ .shutdown other := by
    intro session advanced item mem other
    obtain ⟨job, rfl⟩ := advanced.runs mem
    simp
  cases touch with
  | steady records schedulers unasked inert sends =>
    refine ⟨fun item mem => (inert_plain (inert item (List.mem_append_left _ mem))).2.2, fun entry mem session same => ?_⟩
    exact absurd same
      ((inert_plain (inert entry.2 (List.mem_append_right _ (List.mem_map_of_mem mem)))).2.2 session)
  | send | postResponse | postTimeout | disconnect => exact ⟨by simp, by simp⟩
  | login records schedulers unasked next posts | enqueue session kind records schedulers unasked next posts
  | request record message found room records schedulers requests ids asks next posts
  | shutdown scheduler owner records schedulers unasked next posts => exact ⟨by simp [next], by simp [posts]⟩
  | @push ptr _ record scheduler found owner records schedulers unasked next posts =>
    refine ⟨?_, by simp [posts]⟩
    rw [next]
    cases (scheduler.pushAndRun ptr).2 <;> simp [afterPush]
  | complete ptr record caller found records advanced unasked inert =>
    exact ⟨advance advanced, fun entry mem session same => absurd same ((inert_plain (inert entry mem)).2.2 session)⟩
  | logout record found records advanced unasked posts
  | finish ptr record caller found unfinished records advanced unasked posts =>
    exact ⟨advance advanced, by simp [posts]⟩
  | add => exact ⟨by simp [addRequest], by simp [addRequest]⟩
  | cancel record found room unfinished records schedulers requests ids next posts =>
    refine ⟨?_, by simp [posts]⟩
    rw [next]
    split <;> simp [sendCancel]
  | respond id pending carries found records schedulers requests ids next posts =>
    refine ⟨?_, by simp [posts]⟩
    rw [next]
    split <;> simp [onTimeout, sendCancel]

theorem orderly_extended (orderly : Orderly state) {core : Core} {more : Pool Thread Task}
    (records : core.records = state.core.records)
    (schedulers : ∀ (session : SessionPtr) (scheduler : JobScheduler JobPtr), core.schedulers[session]? = some scheduler →
      state.core.schedulers[session]? = some scheduler ∨ scheduler = {})
    (plain : ∀ entry ∈ more, ¬ entry.2.critical ∧ entry.2.owner = none ∧ ∀ session, entry.2 ≠ .shutdown session) :
    Orderly ⟨core, state.pool ++ more⟩ where
  located entry mem ptr owner := by
    rw [records]
    rcases List.mem_append.mp mem with mem | mem
    · exact orderly.located entry mem ptr owner
    · cases (plain entry mem).2.1.symm.trans owner
  stops entry mem session same := by
    rcases List.mem_append.mp mem with mem | mem
    · exact orderly.stops entry mem session same
    · exact absurd same ((plain entry mem).2.2 session)
  leading := Pool.leading_append orderly.leading fun entry mem => (plain entry mem).1
  queued session scheduler owner ptr mem := by
    rw [records]
    rcases schedulers session scheduler owner with owner | rfl
    · exact orderly.queued session scheduler owner ptr mem
    · cases mem
  busy scheduler mem := by
    obtain ⟨session, owner⟩ := List.mem_iff_getElem?.mp mem
    rcases schedulers session scheduler owner with owner | rfl
    · exact orderly.busy scheduler (List.mem_of_getElem? owner)
    · simp [JobScheduler.Busy]

theorem orderly_ran {before later : Pool Thread Task} (orderly : Orderly state)
    (split : state.pool = before ++ (thread, task) :: later) (quiet : Pool.idle before thread)
    (touch : Touch now state.core task effect) :
    Orderly (ranState thread before later effect) := by
  have waits : (thread, task) ∈ state.pool := by simp [split]
  have rest : ∀ entry ∈ before ++ later, entry ∈ state.pool := fun entry mem => mem_of_rest split mem
  obtain ⟨nextPlaced, postsPlaced⟩ := touch_placed orderly touch waits
  obtain ⟨nextStops, postsStop⟩ := touch_stops touch
  obtain ⟨continued, ends, plain⟩ := touch_leads touch
  have keep : ∀ {ptr : JobPtr} {thread : Thread},
      (∃ record : Record, state.core.records[ptr]? = some record ∧ thread = .strand record.session) →
      ∃ record : Record, effect.core.records[ptr]? = some record ∧ thread = .strand record.session := by
    rintro ptr thread ⟨record, found, placed⟩
    obtain ⟨after, stored, same, -⟩ := touch_keeps_job touch found
    exact ⟨after, stored, by rw [placed, same]⟩
  constructor
  case located =>
    intro entry mem ptr owner
    rcases List.mem_append.mp mem with mem | mem
    · rcases List.mem_append.mp mem with mem | mem
      · obtain ⟨item, here, rfl⟩ := List.mem_map.mp mem
        exact keep (nextPlaced item here ptr owner)
      · exact keep (orderly.located entry (rest entry mem) ptr owner)
    · exact postsPlaced entry mem ptr owner
  case stops =>
    intro entry mem session same
    rcases List.mem_append.mp mem with mem | mem
    · rcases List.mem_append.mp mem with mem | mem
      · obtain ⟨item, here, rfl⟩ := List.mem_map.mp mem
        exact absurd same (nextStops item here session)
      · exact orderly.stops entry (rest entry mem) session same
    · exact postsStop entry mem session same
  -- a light task has no continuation
  case leading =>
    refine Pool.leading_run (split ▸ orderly.leading) quiet continued ?_ plain
    intro light other mem
    rw [ends light] at mem
    cases mem
  case queued =>
    intro session after owner ptr mem
    obtain ⟨earlier, stored, evolves⟩ := touch_queued touch orderly.busy owner
    have known : ∃ record, state.core.records[ptr]? = some record ∧ record.session = session := by
      rcases evolves.grows ptr mem with mem | ⟨-, pushed⟩
      · exact orderly.queued session earlier stored ptr mem
      · exact pushed
    obtain ⟨record, found, same⟩ := known
    obtain ⟨kept, stays, session', -⟩ := touch_keeps_job touch found
    exact ⟨kept, stays, session'.trans same⟩
  case busy =>
    intro after mem
    obtain ⟨session, owner⟩ := List.mem_iff_getElem?.mp mem
    obtain ⟨earlier, stored, evolves⟩ := touch_queued touch orderly.busy owner
    exact evolves.busy

theorem orderly_step {label : Label} {after : State} (orderly : Orderly state) (moved : step state label = some after) :
    Orderly after := by
  cases moved_of_step moved with
  | arrived more records schedulers unasked outgoing pool inert quiet =>
    obtain ⟨core, waiting⟩ := after
    subst pool
    refine orderly_extended orderly records (fun session scheduler owner => ?_) fun entry mem => ?_
    · rcases schedulers with same | same <;> rw [same] at owner
      · exact .inl owner
      · rw [heap_get_concat] at owner
        split at owner
        · exact .inr (Option.some.inj owner).symm
        · exact .inl owner
    · exact inert_plain (inert entry mem)
  | expired now quiet =>
    refine orderly_extended orderly rfl (fun _ _ => .inl) fun entry mem => ?_
    obtain ⟨item, expired, rfl⟩ := List.mem_map.mp mem
    obtain ⟨pair, -, told⟩ := List.mem_flatMap.mp expired
    simp only [onTimeout, sendCancel, List.mem_cons, List.not_mem_nil, or_false] at told
    rcases told with rfl | rfl <;> exact ⟨not_false, rfl, by simp⟩
  | ran isRun split quiet executed => exact orderly_ran orderly split quiet (touch_of_executed executed)

theorem step_keeps_job {label : Label} {after : State} (moved : step state label = some after) {ptr : JobPtr}
    {record : Record} (found : state.core.records[ptr]? = some record) :
    ∃ record', after.core.records[ptr]? = some record' ∧ record'.session = record.session ∧
      record'.kind = record.kind := by
  cases moved_of_step moved with
  | arrived more records => exact ⟨record, records ▸ found, rfl, rfl⟩
  | expired now quiet => exact ⟨record, found, rfl, rfl⟩
  | ran isRun split quiet executed => exact touch_keeps_job (touch_of_executed executed) found

theorem orderly_initial : Orderly initial where
  located := by simp [initial]
  stops := by simp [initial]
  leading := Pool.leading_nil
  queued := by simp [initial, Core.schedulers]
  busy := by simp [initial, Core.schedulers]

theorem orderly_reached {history : History} (reached : Reaches history state) : Orderly state :=
  reached.invariant orderly_initial fun _ _ _ => orderly_step

/-- While an item of a job runs, no other critical item of the session's jobs waits. -/
theorem Orderly.alone (orderly : Orderly state) {before later : Pool Thread Task}
    (split : state.pool = before ++ (thread, task) :: later) (quiet : Pool.idle before thread)
    (heavy : ¬ task.light) {record : Record} (here : thread = .strand record.session) {ptr : JobPtr}
    (found : state.core.records[ptr]? = some record) {entry : Thread × Task} (mem : entry ∈ before ++ later)
    (owner : entry.2.owner = some ptr) : ¬ entry.2.critical := by
  have waits : entry ∈ state.pool := mem_of_rest split mem
  have placed : entry.1 = thread := by
    rw [here]
    exact orderly.at_owner waits owner found
  exact Pool.Leading.behind (split ▸ orderly.leading) quiet heavy mem placed

end Orderly

end Rsp.UserServer
