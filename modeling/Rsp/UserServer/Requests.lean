import Rsp.UserServer.Strands

/-! Request ids of the User server.

An id is drawn once, for one job. The entry among the pending requests, a response on its
way and a timeout on its way always name the job their id was drawn for.
-/

set_option autoImplicit false

namespace Rsp.UserServer

open Message Rsp.Job Foundation

def Drawn (core : Core) (ptr : JobPtr) (id : Nat) : Prop :=
  ∃ record, core.records[ptr]? = some record ∧ record.roomRequestId = id ∧ id ≠ 0

def Task.Names (core : Core) : Task → Prop
  | .addRequest ptr id => Drawn core ptr id
  | .postResponse ptr response | .handleRes ptr response => ∃ id, response.requestId = some id ∧ Drawn core ptr id
  | .postTimeout ptr | .cancel ptr .kTimeout | .finishCancel ptr .kTimeout => ∃ id, Drawn core ptr id
  | _ => True

structure Linked (state : State) : Prop where
  entries : ∀ id pending, state.core.requests.find id = some pending → Drawn state.core pending.target id
  items : ∀ item, Waiting state item → item.Names state.core
  positive : 0 < state.core.nextRequestId
  bounded : ∀ ptr id, Drawn state.core ptr id → id < state.core.nextRequestId
  unique : ∀ first second id, Drawn state.core first id → Drawn state.core second id → first = second

section Ran

variable {now : Nat} {core : Core} {task : Task} {effect : Effect}

def Starts (core : Core) (task : Task) : Prop :=
  ∀ ptr record, task = .run ptr → core.records[ptr]? = some record → record.roomRequestId = 0

theorem drawn_kept (touch : Touch now core task effect) (starts : Starts core task) {ptr : JobPtr} {id : Nat}
    (drawn : Drawn core ptr id) : Drawn effect.core ptr id := by
  obtain ⟨record, found, rfl, nonzero⟩ := drawn
  have updated : ∀ {target : JobPtr} {old new : Record}, core.records[target]? = some old →
      (target = ptr → new.roomRequestId = old.roomRequestId) → effect.core.records = core.records.set target new →
      Drawn effect.core ptr record.roomRequestId := by
    intro target old new stored same records
    by_cases isTarget : target = ptr
    · subst isTarget
      cases stored.symm.trans found
      exact ⟨new, by rw [records, heap_get_set stored, if_pos rfl], same rfl, nonzero⟩
    · exact ⟨record, by rw [records, heap_get_set stored, if_neg isTarget, found], rfl, nonzero⟩
  have same : effect.core.records = core.records → Drawn effect.core ptr record.roomRequestId :=
    fun records => ⟨record, by rw [records, found], rfl, nonzero⟩
  have extended : ∀ {more}, effect.core.records = core.records ++ more →
      Drawn effect.core ptr record.roomRequestId := by
    intro more records
    exact ⟨record, by rw [records]; exact heap_get_append found more, rfl, nonzero⟩
  cases touch with
  | enqueue session kind records | logout old stored records => exact extended records
  | request old message stored room records =>
    refine updated stored ?_ records
    rintro rfl
    cases stored.symm.trans found
    exact absurd (starts _ _ rfl found) nonzero
  | finish target old caller stored unfinished records =>
    refine updated stored ?_ records
    exact fun _ => rfl
  | send | add | postResponse | postTimeout | disconnect => exact same rfl
  | _ => exact same ‹_›

theorem touch_drawn (touch : Touch now core task effect) {ptr : JobPtr} {id : Nat} (drawn : Drawn effect.core ptr id) :
    Drawn core ptr id ∨
      (task = .run ptr ∧ id = core.nextRequestId ∧ effect.core.nextRequestId = core.nextRequestId + 1) := by
  obtain ⟨record, found, rfl, nonzero⟩ := drawn
  have same : effect.core.records = core.records → Drawn core ptr record.roomRequestId :=
    fun records => ⟨record, records ▸ found, rfl, nonzero⟩
  have extended : ∀ {session kind}, effect.core.records = core.records ++ [.make session kind] →
      Drawn core ptr record.roomRequestId := by
    intro session kind records
    rw [records, heap_get_concat] at found
    split at found
    · cases found
      exact absurd rfl nonzero
    · exact ⟨record, found, rfl, nonzero⟩
  cases touch with
  | enqueue session kind records | logout old stored records => exact .inl (extended records)
  | request old message stored room records schedulers requests ids =>
    rw [records, heap_get_set stored] at found
    split at found
    · next isTarget =>
      subst isTarget
      cases found
      exact .inr ⟨rfl, rfl, ids⟩
    · exact .inl ⟨record, found, rfl, nonzero⟩
  | finish target old caller stored unfinished records =>
    rw [records, heap_get_set stored] at found
    split at found
    · next isTarget =>
      subst isTarget
      cases found
      exact .inl ⟨old, stored, rfl, nonzero⟩
    · exact .inl ⟨record, found, rfl, nonzero⟩
  | send | add | postResponse | postTimeout | disconnect => exact .inl (same rfl)
  | _ => exact .inl (same ‹_›)

theorem touch_ids (touch : Touch now core task effect) :
    effect.core.nextRequestId = core.nextRequestId ∨
      ∃ ptr record, task = .run ptr ∧ core.records[ptr]? = some record ∧
        effect.core.records = core.records.set ptr { record with done := true, roomRequestId := core.nextRequestId } ∧
        effect.core.nextRequestId = core.nextRequestId + 1 := by
  cases touch with
  | request record message found room records schedulers requests ids => exact .inr ⟨_, record, rfl, found, records, ids⟩
  | cancel | respond => exact .inl ‹_›
  | send | add | postResponse | postTimeout | disconnect => exact .inl rfl
  | _ => exact .inl (Unasked.ids ‹_›)

theorem touch_entries (touch : Touch now core task effect) {id : Nat} {pending : Pending JobPtr}
    (entry : effect.core.requests.find id = some pending) :
    core.requests.find id = some pending ∨ task = .addRequest pending.target id := by
  have taken : ∀ {key}, effect.core.requests = (core.requests.take key).1 → core.requests.find id = some pending := by
    intro key requests
    rw [requests, PendingRequests.find_take] at entry
    split at entry
    · cases entry
    · exact entry
  cases touch with
  | @add ptr key =>
    simp only [addRequest, PendingRequests.find_add] at entry
    split at entry
    · next same =>
      subst same
      rcases Option.or_eq_some_iff.mp entry with known | ⟨-, made⟩
      · exact .inl known
      · cases made
        exact .inr rfl
    · exact .inl entry
  | cancel record found room unfinished records schedulers requests
  | respond key pending carries found records schedulers requests => exact .inl (taken requests)
  | request record message found room records schedulers requests => exact .inl (requests ▸ entry)
  | steady records schedulers unasked | login records schedulers unasked
  | enqueue session kind records schedulers unasked | push record scheduler found owner records schedulers unasked
  | complete ptr record caller found records advanced unasked | logout record found records advanced unasked
  | finish ptr record caller found unfinished records advanced unasked
  | shutdown scheduler owner records schedulers unasked => exact .inl (unasked.requests ▸ entry)
  | send | postResponse | postTimeout | disconnect => exact .inl entry

theorem inert_names {item : Task} (inert : item.inert = true) : item.Names core := by
  cases item <;> first | cases inert; done | trivial

theorem names_kept {after : Core} (kept : ∀ {ptr id}, Drawn core ptr id → Drawn after ptr id) {item : Task}
    (names : item.Names core) : item.Names after := by
  cases item with
  | addRequest ptr id => exact kept names
  | postResponse | handleRes =>
    obtain ⟨id, carries, drawn⟩ := names
    exact ⟨id, carries, kept drawn⟩
  | postTimeout ptr =>
    obtain ⟨id, drawn⟩ := names
    exact ⟨id, kept drawn⟩
  | cancel ptr reason | finishCancel ptr reason =>
    cases reason with
    | kShutdown => trivial
    | kTimeout =>
      obtain ⟨id, drawn⟩ := names
      exact ⟨id, kept drawn⟩
  | _ => trivial

theorem touch_names (touch : Touch now core task effect) (names : task.Names core)
    (entries : ∀ id pending, core.requests.find id = some pending → Drawn core pending.target id)
    (positive : 0 < core.nextRequestId) (kept : ∀ {ptr id}, Drawn core ptr id → Drawn effect.core ptr id)
    {item : Task} (mem : item ∈ items effect) : item.Names effect.core := by
  have advance : ∀ {session}, Advanced core session effect → item ∈ effect.next → item.Names effect.core := by
    intro session advanced mem
    obtain ⟨job, rfl⟩ := advanced.runs mem
    trivial
  cases touch with
  | steady records schedulers unasked inert sends => exact inert_names (inert item mem)
  | send => simp [items] at mem
  | login records schedulers unasked next posts =>
    simp only [items, next, posts, List.map_nil, List.append_nil, List.mem_singleton] at mem
    subst mem
    trivial
  | enqueue session kind records schedulers unasked next posts =>
    simp only [items, next, posts, List.map_cons, List.map_nil, List.nil_append, List.mem_singleton] at mem
    subst mem
    trivial
  | @push ptr _ record scheduler found owner records schedulers unasked next posts =>
    simp only [items, next, posts, List.map_nil, List.append_nil] at mem
    cases pushed : (scheduler.pushAndRun ptr).2 <;> simp only [pushed, afterPush, List.mem_singleton,
      List.not_mem_nil] at mem <;> subst mem <;> trivial
  | complete ptr record caller found records advanced unasked inert =>
    rcases List.mem_append.mp mem with mem | mem
    · exact advance advanced mem
    · obtain ⟨entry, here, rfl⟩ := List.mem_map.mp mem
      exact inert_names (inert entry here)
  | logout record found records advanced unasked posts =>
    rcases List.mem_append.mp mem with mem | mem
    · exact advance advanced mem
    · simp only [posts, List.map_cons, List.map_nil, List.mem_singleton] at mem
      subst mem
      trivial
  | @request ptr _ record message found room records schedulers requests ids asks next posts =>
    simp only [items, next, posts, List.map_nil, List.append_nil, List.mem_cons, List.not_mem_nil, or_false] at mem
    rcases mem with rfl | rfl
    · refine ⟨_, by rw [records, heap_get_set found, if_pos rfl], rfl, by omega⟩
    · trivial
  | add => simp [items, addRequest] at mem
  | finish ptr record caller found unfinished records advanced unasked posts =>
    rcases List.mem_append.mp mem with mem | mem
    · exact advance advanced mem
    · simp [posts] at mem
  | @cancel ptr reason _ record found room unfinished records schedulers requests ids next posts =>
    simp only [items, next, posts, List.map_nil, List.append_nil] at mem
    rcases List.mem_append.mp mem with mem | mem
    · split at mem
      · obtain rfl := List.mem_singleton.mp mem
        trivial
      · cases mem
    · obtain rfl := List.mem_singleton.mp mem
      cases reason with
      | kTimeout =>
        obtain ⟨id, drawn⟩ := names
        exact ⟨id, kept drawn⟩
      | kShutdown => trivial
  | shutdown scheduler owner records schedulers unasked next posts =>
    simp only [items, next, posts, List.map_nil, List.append_nil] at mem
    obtain ⟨job, -, rfl⟩ := List.mem_map.mp mem
    trivial
  -- whatever is made of a response names the job that was waiting for it
  | respond id pending carries found records schedulers requests ids next posts =>
    have drawn := kept (entries id pending found)
    simp only [items, next, posts, List.map_nil, List.append_nil] at mem
    split at mem <;> simp only [onTimeout, sendCancel, List.mem_cons, List.not_mem_nil, or_false] at mem
    · rcases mem with rfl | rfl
      · trivial
      · exact ⟨id, drawn⟩
    · subst mem
      exact ⟨id, carries, drawn⟩
  | postResponse | postTimeout =>
    simp only [items, List.map_cons, List.map_nil, List.nil_append, List.mem_singleton] at mem
    subst mem
    exact names
  | disconnect =>
    simp only [items, List.map_cons, List.map_nil, List.nil_append, List.mem_singleton] at mem
    subst mem
    trivial

end Ran

section Linked

variable {state : State}

theorem linked_ran {now : Nat} {thread : Thread} {task : Task} {before later : Pool Thread Task} {effect : Effect}
    (linked : Linked state) (split : state.pool = before ++ (thread, task) :: later)
    (touch : Touch now state.core task effect) (starts : Starts state.core task) :
    Linked (ranState thread before later effect) := by
  have kept : ∀ {ptr id}, Drawn state.core ptr id → Drawn effect.core ptr id := drawn_kept touch starts
  have here : task.Names state.core := linked.items task ((waiting_split split task).mpr (.inl rfl))
  have grows : state.core.nextRequestId ≤ effect.core.nextRequestId := by
    rcases touch_ids touch with same | ⟨_, _, -, -, -, more⟩ <;> omega
  constructor
  case entries =>
    intro id pending entry
    rcases touch_entries touch entry with known | rfl
    · exact kept (linked.entries id pending known)
    · exact kept here
  case items =>
    intro item waits
    rcases (waiting_ran item).mp waits with mem | other
    · exact touch_names touch here linked.entries linked.positive kept mem
    · have names := linked.items item ((waiting_split split item).mpr (.inr other))
      exact names_kept kept names
  case positive => exact Nat.lt_of_lt_of_le linked.positive grows
  case bounded =>
    intro ptr id drawn
    rcases touch_drawn touch drawn with known | ⟨-, same, more⟩
    · exact Nat.lt_of_lt_of_le (linked.bounded ptr id known) grows
    · show id < effect.core.nextRequestId
      omega
  case unique =>
    intro first second id drawnFirst drawnSecond
    rcases touch_drawn touch drawnFirst with known | ⟨rfl, same, more⟩
    · rcases touch_drawn touch drawnSecond with other | ⟨-, same, -⟩
      · exact linked.unique first second id known other
      · have below := linked.bounded first id known
        omega
    · rcases touch_drawn touch drawnSecond with other | ⟨started, -, -⟩
      · have below := linked.bounded second id other
        omega
      · cases started
        rfl

theorem linked_still {after : State} (linked : Linked state) (records : after.core.records = state.core.records)
    (ids : after.core.nextRequestId = state.core.nextRequestId)
    (entries : ∀ id pending, after.core.requests.find id = some pending → state.core.requests.find id = some pending)
    (items : ∀ item, Waiting after item → Waiting state item ∨ item.Names state.core) : Linked after := by
  have same : ∀ {ptr id}, Drawn after.core ptr id ↔ Drawn state.core ptr id := by
    intro ptr id
    simp only [Drawn, records]
  constructor
  case entries => exact fun id pending entry => same.mpr (linked.entries id pending (entries id pending entry))
  case items =>
    intro item waits
    rcases items item waits with known | names
    · exact names_kept same.mpr (linked.items item known)
    · exact names_kept same.mpr names
  case positive => exact ids ▸ linked.positive
  case bounded => exact fun ptr id drawn => ids ▸ linked.bounded ptr id (same.mp drawn)
  case unique =>
    exact fun first second id drawnFirst drawnSecond =>
      linked.unique first second id (same.mp drawnFirst) (same.mp drawnSecond)

theorem linked_step {label : Label} {after : State} (linked : Linked state) (moved : step state label = some after)
    (starts : ∀ ptr, Waiting state (.run ptr) → Starts state.core (.run ptr)) : Linked after := by
  cases moved_of_step moved with
  | arrived more records schedulers unasked outgoing pool inert quiet =>
    refine linked_still linked records unasked.ids (fun id pending entry => unasked.requests ▸ entry) ?_
    rintro item ⟨thread, mem⟩
    rw [pool] at mem
    rcases List.mem_append.mp mem with mem | mem
    · exact .inl ⟨thread, mem⟩
    · exact .inr (inert_names (inert _ mem))
  | expired now quiet =>
    refine linked_still linked rfl rfl (fun id pending entry => ?_) ?_
    · have filtered : ((state.core.requests.expire now).1.find id) = some pending := entry
      rw [PendingRequests.find_expire] at filtered
      exact (Option.filter_eq_some_iff.mp filtered).1
    · rintro item ⟨thread, mem⟩
      rcases List.mem_append.mp mem with mem | mem
      · exact .inl ⟨thread, mem⟩
      · obtain ⟨other, told, same⟩ := List.mem_map.mp mem
        cases same
        obtain ⟨⟨id, ptr⟩, late, told⟩ := List.mem_flatMap.mp told
        obtain ⟨deadline, entry, -⟩ := PendingRequests.mem_expire.mp late
        simp only [onTimeout, sendCancel, List.mem_cons, List.not_mem_nil, or_false] at told
        rcases told with rfl | rfl
        · exact .inr trivial
        · exact .inr ⟨id, linked.entries id _ entry⟩
  | @ran thread now task before later effect isRun split quiet executed =>
    refine linked_ran linked split (touch_of_executed executed) ?_
    rintro ptr record rfl found
    exact starts ptr ((waiting_split split _).mpr (.inl rfl)) ptr record rfl found

end Linked

end Rsp.UserServer
