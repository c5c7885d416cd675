import Rsp.Message.Admissions

/-! How long a terminal record turns away its key.

A record is dropped early only by an eviction, which takes the smallest expiry. With times
that never go back, the records that outlive a given one were all made at its time or
later, so that it takes a whole capacity of them to push it out.
-/

set_option autoImplicit false

namespace Rsp.Message.QueuedRequests

open Foundation

def times (history : History) : List Nat := history.filterMap fun move => move.label.time

abbrev Chronological (history : History) : Prop := (times history).Pairwise (· ≤ ·)

def recordings (history : History) : List (RequestKey × Nat) :=
  history.filterMap fun move => move.before.records move.label

def within (first last : Nat) (made : List (RequestKey × Nat)) : List (RequestKey × Nat) :=
  made.filter fun record => first ≤ record.2 ∧ record.2 ≤ last

section Records

variable {capacity retention : Nat} {history past later : History} {self after : QueuedRequests} {op : Op}
variable {move : Transition QueuedRequests Op} {key : RequestKey} {since now : Nat}

theorem recordings_append (first second : History) :
    recordings (first ++ second) = recordings first ++ recordings second :=
  List.filterMap_append

theorem times_append (first second : History) : times (first ++ second) = times first ++ times second :=
  List.filterMap_append

theorem recordings_cut (made : move.before.records move.label = some (key, since)) :
    recordings (past ++ move :: later) = recordings past ++ (key, since) :: recordings later := by
  rw [recordings_append]
  simp only [recordings, List.filterMap_cons, made]

theorem time_of_records {record : RequestKey × Nat} (made : self.records op = some record) :
    op.time = some record.2 := by
  cases op with
  | finish | cancel =>
    simp only [records] at made
    split at made <;> cases made
    rfl
  | admitRequest | tryStart | cancelTicket => cases made

theorem times_of_recordings {record : RequestKey × Nat} (mem : record ∈ recordings history) :
    record.2 ∈ times history := by
  obtain ⟨move, here, made⟩ := List.mem_filterMap.mp mem
  exact List.mem_filterMap.mpr ⟨move, here, time_of_records made⟩

/-- Every record was made by an operation of the run, one retention before it expires. -/
theorem recorded_reached (run : Reaches capacity retention history self) {id : RequestKey} {expiry : Nat}
    (found : self.terminal[id]? = some expiry) :
    ∃ time, (id, time) ∈ recordings history ∧ expiry = time + retention := by
  revert id expiry
  apply run.history fun past table => ∀ {id : RequestKey} {expiry : Nat}, table.terminal[id]? = some expiry →
    ∃ time, (id, time) ∈ recordings past ∧ expiry = time + retention
  · intro id expiry found
    simp [fresh] at found
  · intro past move reached ih moved mem id expiry found
    have sound := sound_reached reached
    obtain ⟨-, same⟩ := apply_of_step moved
    rw [same] at found
    rw [recordings_append]
    rcases terminal_get _ (terminal_apply move.before move.label) found with old | ⟨time, made, rfl⟩
    · obtain ⟨time, mem, rfl⟩ := ih old
      exact ⟨time, List.mem_append_left _ mem, rfl⟩
    · refine ⟨time, List.mem_append_right _ ?_, by rw [sound.retains]⟩
      exact List.mem_filterMap.mpr ⟨move, List.mem_singleton_self .., made⟩

/-- The records that expire no earlier than one of them are at most one more than the others made since. -/
theorem size_le_since {made : List (RequestKey × Nat)} {terminal : KeyMap Nat} {last : Nat}
    (present : terminal[key]? = some (since + retention))
    (later : ∀ (id : RequestKey) (expiry : Nat), terminal[id]? = some expiry → since + retention ≤ expiry)
    (sourced : ∀ (id : RequestKey) (expiry : Nat), id ≠ key → terminal[id]? = some expiry →
      ∃ time, (id, time) ∈ made ∧ time ≤ last ∧ expiry = time + retention) :
    terminal.size ≤ (within since last made).length + 1 := by
  have others : (terminal.erase key).keys ⊆ (within since last made).map Prod.fst := by
    intro id mem
    rw [Std.ExtTreeMap.mem_keys, Std.ExtTreeMap.mem_iff_isSome_getElem?, Std.ExtTreeMap.getElem?_erase] at mem
    split at mem
    · cases mem
    · next different =>
      obtain ⟨expiry, found⟩ := Option.isSome_iff_exists.mp mem
      have apart : id ≠ key := by
        rintro rfl
        exact different Std.ReflCmp.compare_self
      obtain ⟨time, mem, bound, rfl⟩ := sourced id expiry apart found
      have recent : since ≤ time := Nat.le_of_add_le_add_right (later id _ found)
      exact List.mem_map.mpr ⟨(id, time), List.mem_filter.mpr ⟨mem, by simp [recent, bound]⟩, rfl⟩
  have count := Std.ExtTreeMap.nodup_keys.length_le_of_subset others
  have contained : terminal.contains key = true := by
    rw [Std.ExtTreeMap.contains_eq_isSome_getElem?, present]
    rfl
  rw [Std.ExtTreeMap.length_keys, Std.ExtTreeMap.size_erase, if_pos contained, List.length_map] at count
  omega

/-- A record outlives an operation within its window, unless the operation's own record and those made since
fill the capacity. -/
theorem window_apply {made : List (RequestKey × Nat)} {last : Nat} (sound : Sound capacity retention history self)
    (present : self.terminal[key]? = some (since + retention)) (early : ∀ time ∈ op.time, time < since + retention)
    (sourced : ∀ (id : RequestKey) (expiry : Nat), id ≠ key → self.terminal[id]? = some expiry →
      ∃ time, (id, time) ∈ made ∧ time ≤ last ∧ expiry = time + retention)
    (few : ∀ record ∈ self.records op, (within since last made).length + 1 < capacity) :
    (self.apply op).terminal[key]? = some (since + retention) ∧ ∀ time, self.records op ≠ some (key, time) := by
  have kept : ∀ time ∈ op.time, (self.prune time).terminal[key]? = some (since + retention) := by
    intro time at_time
    rw [prune_terminal, present, Option.filter_some, if_pos (by simpa using early time at_time)]
  have unrecorded : ∀ time, self.records op ≠ some (key, time) := by
    intro time made
    have gone := records_fresh sound made
    rw [kept time (time_of_records made)] at gone
    cases gone
  refine ⟨?_, unrecorded⟩
  have changed := terminal_apply self op
  generalize (self.apply op).terminal = terminal at changed ⊢
  cases changed with
  | kept => exact present
  | pruned at_time => exact kept _ at_time
  | @recorded id time terminal at_time made' remembered =>
    have apart : id ≠ key := by
      rintro rfl
      exact unrecorded time made'
    have different : ¬ (lexOrd : Ord RequestKey).compare id key = .eq := fun same =>
      apart (Std.LawfulEqCmp.compare_eq_iff_eq.mp same)
    cases remembered with
    | dropped => exact kept time at_time
    | added => rw [Std.ExtTreeMap.getElem?_insert, if_neg different, kept time at_time]
    | @evicted least earliest some full found smallest =>
      rw [Std.ExtTreeMap.getElem?_insert, if_neg different, Std.ExtTreeMap.getElem?_erase]
      split
      · next same =>
        -- The record itself would be the smallest: all others were made since.
        cases Std.LawfulEqCmp.compare_eq_iff_eq.mp same
        cases found.symm.trans (kept time at_time)
        have size := size_le_since (kept time at_time) smallest
          fun id expiry apart found => sourced id expiry apart (prune_get found).1
        have small := few _ made'
        rw [sound.bounded] at full
        omega
      · exact kept time at_time

theorem recorded_present (some : 0 < self.capacity) (made : self.records op = .some (key, since)) :
    (self.apply op).terminal[key]? = .some (since + self.retention) := by
  have changed := terminal_apply self op
  generalize (self.apply op).terminal = terminal at changed ⊢
  cases changed with
  | kept unrecorded | pruned at_time unrecorded => cases unrecorded.symm.trans made
  | recorded at_time same remembered =>
    cases same.symm.trans made
    cases remembered with
    | dropped none => exact absurd none (Nat.ne_of_gt some)
    | added | evicted => exact Std.ExtTreeMap.getElem?_insert_self

/-- Up to the end of its window a record stays, and its key gets no other, as long as fewer
than a capacity of other records are made. -/
theorem window_run (reached : Reaches capacity retention past move.before)
    (moved : step move.before move.label = some move.after) (positive : 1 ≤ capacity)
    (made : move.before.records move.label = some (key, since)) (early : now < since + retention)
    (rest : Run step move.after later self) (latest : ∀ time ∈ times (past ++ move :: later), time ≤ now)
    (since_then : ∀ time ∈ times later, since ≤ time)
    (few : (within since now (recordings (past ++ later))).length < capacity) :
    self.terminal[key]? = some (since + retention) ∧ ∀ time, (key, time) ∉ recordings later := by
  induction rest with
  -- the move that recorded the key is the last one
  | start =>
    have sound := sound_reached reached
    obtain ⟨-, same⟩ := apply_of_step moved
    rw [same, recorded_present (by rw [sound.bounded]; exact positive) made, sound.retains]
    exact ⟨rfl, fun time mem => by cases mem⟩
  | @next middle table after op before stepped ih =>
    have run : Reaches capacity retention (past ++ move :: middle) table := reached.append (.cons moved before)
    have history : past ++ move :: (middle ++ [⟨table, op, after⟩]) =
        (past ++ move :: middle) ++ [⟨table, op, after⟩] := by simp
    rw [history] at latest
    have earlier : ∀ time ∈ times (past ++ move :: middle), time ≤ now := by
      intro time mem
      apply latest
      rw [times_append]
      exact List.mem_append_left _ mem
    have split : within since now (recordings (past ++ (middle ++ [⟨table, op, after⟩]))) =
        within since now (recordings (past ++ middle)) ++ within since now (table.records op).toList := by
      rw [← List.append_assoc, recordings_append (past ++ middle)]
      cases record : table.records op <;> simp [within, recordings, record]
    rw [split, List.length_append] at few
    have since_before : ∀ time ∈ times middle, since ≤ time := by
      intro time mem
      apply since_then
      rw [times_append]
      exact List.mem_append_left _ mem
    obtain ⟨present, unrecorded⟩ := ih earlier since_before (Nat.lt_of_le_of_lt (Nat.le_add_right ..) few)
    obtain ⟨-, rfl⟩ := apply_of_step stepped
    have own : ∀ time ∈ op.time, since ≤ time ∧ time ≤ now := by
      intro time at_time
      have mem : time ∈ times [⟨table, op, table.apply op⟩] :=
        List.mem_filterMap.mpr ⟨_, List.mem_singleton_self .., at_time⟩
      constructor
      · apply since_then
        rw [times_append]
        exact List.mem_append_right _ mem
      · apply latest
        rw [times_append]
        exact List.mem_append_right _ mem
    -- a record made by this operation is itself one of the few
    have counted : ∀ record ∈ table.records op, (within since now (table.records op).toList).length = 1 := by
      intro record made
      obtain ⟨first, last⟩ := own record.2 (time_of_records made)
      rw [Option.mem_def.mp made]
      simp [within, first, last]
    have kept := window_apply (sound_reached run) present
      (fun time at_time => Nat.lt_of_le_of_lt (own time at_time).2 early)
      (fun id expiry apart found => ?sourced)
      (fun record made => counted record made ▸ few)
    -- another terminal key was recorded by a move other than the one that recorded this key
    case sourced =>
      obtain ⟨time, mem, rfl⟩ := recorded_reached run found
      have bound := earlier time (times_of_recordings mem)
      rw [recordings_cut made] at mem
      refine ⟨time, ?_, bound, rfl⟩
      rw [recordings_append]
      simp only [List.mem_append, List.mem_cons, Prod.mk.injEq, apart, false_and, false_or] at mem ⊢
      exact mem
    refine ⟨kept.1, fun time mem => ?_⟩
    rw [recordings_append] at mem
    rcases List.mem_append.mp mem with old | mem
    · exact unrecorded time old
    · obtain ⟨_, here, made⟩ := List.mem_filterMap.mp mem
      cases List.mem_singleton.mp here
      exact kept.2 time made

theorem admitRequest_expired (sound : Sound capacity retention history self)
    (expired : ∀ expiry, self.terminal[key]? = some expiry → expiry ≤ now) :
    (self.admitRequest key now).2.isSome = true ↔ key ∉ self.active ∧ self.active.size < capacity := by
  have gone : (self.prune now).terminal[key]? = none := by
    rw [prune_terminal]
    cases found : self.terminal[key]? with
    | none => rfl
    | some expiry => rw [Option.filter_some, if_neg (by simpa using expired expiry found)]
  have absent : (self.prune now).terminal.contains key = false := by
    rw [Std.ExtTreeMap.contains_eq_isSome_getElem?, gone]
    rfl
  have bound : (self.prune now).capacity = capacity := sound.bounded
  simp only [admitRequest, absent, bound, prune_active, Bool.or_false]
  split
  · next taken =>
    simp only [Bool.or_eq_true, Std.ExtTreeMap.contains_iff_mem, decide_eq_true_eq] at taken
    simp only [Option.isSome_none, Bool.false_eq_true, false_iff, not_and, Nat.not_lt]
    exact fun inactive => taken.resolve_left inactive
  · next free =>
    simp only [Bool.or_eq_true, Std.ExtTreeMap.contains_iff_mem, decide_eq_true_eq, not_or, Nat.not_le] at free
    simpa using free

theorem terminal_cancel (self : QueuedRequests) (now : Nat) (stays : (self.prune now).terminal.contains key = true) :
    (self.cancel key now).terminal = (self.prune now).terminal := by
  simp only [cancel, prune_active]
  cases self.active[key]? with
  | none => simp only [stays, if_true]
  | some ticket => exact cancelTicket_terminal ..

/-- Times that never go back split at a record into those up to it and those from it on. -/
theorem chronological_cut (made : move.before.records move.label = some (key, since))
    (ordered : Chronological (past ++ move :: later)) :
    (∀ time ∈ times past, time ≤ since) ∧ ∀ time ∈ times later, since ≤ time := by
  have here : times (past ++ move :: later) = times past ++ since :: times later := by
    rw [times_append]
    simp only [times, List.filterMap_cons, time_of_records made]
  rw [Chronological, here, List.pairwise_append, List.pairwise_cons] at ordered
  obtain ⟨-, ⟨afterwards, -⟩, across⟩ := ordered
  exact ⟨fun time mem => across time mem since (List.mem_cons_self ..), afterwards⟩

/-- The window of a terminal record in runs whose times never go back: its key is turned
away, cancels of it do not move the end, and from the end on only a live request of the
key or a full registry refuses it. -/
theorem suppression_window (run : Reaches capacity retention history self) (positive : 1 ≤ capacity)
    (ordered : Chronological history) :
    (∀ (past later : History) (move : Transition QueuedRequests Op) (key : RequestKey) (since now : Nat),
      history = past ++ move :: later → move.before.records move.label = some (key, since) →
      (∀ time ∈ times history, time ≤ now) →
      (now < since + retention → (within since now (recordings (past ++ later))).length < capacity →
        (self.admitRequest key now).2 = none ∧
        (self.cancel key now).terminal[key]? = some (since + retention) ∧
        ∀ time, (key, time) ∉ recordings later) ∧
      (since + retention ≤ now → (∀ time, (key, time) ∉ recordings later) →
        ((self.admitRequest key now).2.isSome = true ↔ key ∉ self.active ∧ self.active.size < capacity))) ∧
    (∀ (key other : RequestKey) (ticket request : Ticket) (now : Nat), (other, ticket) ∈ issued history → other ≠ key →
      (self.cancel key now).state ticket = self.state ticket ∧
      (self.finish key request now).1.state ticket = self.state ticket) := by
  have sound := sound_reached run
  constructor
  · intro past later move key since now cut made latest
    obtain ⟨reached, moved, rest⟩ := run.split cut
    subst cut
    obtain ⟨sooner, afterwards⟩ := chronological_cut made ordered
    constructor
    · intro early few
      obtain ⟨present, unrecorded⟩ := window_run reached moved positive made early rest latest afterwards few
      have kept : (self.prune now).terminal[key]? = some (since + retention) := by
        rw [prune_terminal, present, Option.filter_some, if_pos (by simpa using early)]
      have stays : (self.prune now).terminal.contains key = true := by
        rw [Std.ExtTreeMap.contains_eq_isSome_getElem?, kept]
        rfl
      refine ⟨?_, ?_, unrecorded⟩
      · simp only [admitRequest, stays, Bool.or_true, Bool.true_or, if_true]
      · rw [terminal_cancel self now stays, kept]
    · -- the key has no younger record, so what is left of it has expired
      intro late unrecorded
      apply admitRequest_expired sound
      intro expiry found
      obtain ⟨time, mem, rfl⟩ := recorded_reached run found
      rw [recordings_cut made] at mem
      rcases List.mem_append.mp mem with old | new
      · have := sooner time (times_of_recordings old)
        omega
      · rcases List.mem_cons.mp new with same | new
        · cases same
          exact late
        · exact absurd new (unrecorded time)
  · intro key other ticket request now mine apart
    constructor
    · rw [cancel_state, if_neg]
      rintro ⟨found, -⟩
      have same := List.inj_on_of_nodup_map sound.once mine (sound.issued key ticket found) rfl
      exact apart (congrArg Prod.fst same)
    · rcases finish_cases self key request now with ⟨-, -, -, tickets⟩ | ⟨-, same⟩
      · simp only [state, tickets]
      · rw [same]

end Records

def finishedThenCancelled : List Op :=
  [.admitRequest ("route", 1) 0, .tryStart 0, .finish ("route", 1) 0 3, .cancel ("route", 2) 4]

theorem suppression_window_finished :
    ((final step (fresh 2 10) finishedThenCancelled).admitRequest ("route", 1) 12).2 = none ∧
      (((final step (fresh 2 10) finishedThenCancelled).admitRequest ("route", 1) 13).2.isSome = true) := by
  have run : Reaches 2 10 (transitions step (fresh 2 10) finishedThenCancelled)
      (final step (fresh 2 10) finishedThenCancelled) := run_of_enabled (by decide +kernel)
  have window := (suppression_window run (by decide) (by decide +kernel)).1
    (transitions step (fresh 2 10) (finishedThenCancelled.take 2))
    (transitions step (final step (fresh 2 10) (finishedThenCancelled.take 3)) (finishedThenCancelled.drop 3))
    ⟨final step (fresh 2 10) (finishedThenCancelled.take 2), .finish ("route", 1) 0 3,
      final step (fresh 2 10) (finishedThenCancelled.take 3)⟩ ("route", 1) 3
  have early := window 12 rfl (by decide +kernel) (by decide +kernel)
  have late := window 13 rfl (by decide +kernel) (by decide +kernel)
  refine ⟨(early.1 (by decide) (by decide +kernel)).1, (late.2 (by decide) ?_).mpr (by decide +kernel)⟩
  intro time mem
  have keys : ("route", 1) ∉ (recordings (transitions step (final step (fresh 2 10) (finishedThenCancelled.take 3))
      (finishedThenCancelled.drop 3))).map Prod.fst := by decide +kernel
  exact keys (List.mem_map_of_mem mem)

end Rsp.Message.QueuedRequests
