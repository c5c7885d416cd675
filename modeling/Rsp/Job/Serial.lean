import Mathlib.Data.List.Basic
import Mathlib.Data.List.Perm.Basic
import Rsp.Foundation.Transition
import Rsp.Job.Scheduler

/-! The job scheduler in a serial context.

All calls come from one context, but they nest: a job's `run` and `cancel` may push jobs,
shut the scheduler down or call any completion handed out so far. `push_and_run` and
`complete_current` end in their call of a job, so that nothing of them is left to do when
the job returns; only the loop of `shutdown` goes on. The stack holds the code of jobs that
is executing and that loop.
-/

set_option autoImplicit false

namespace Rsp.Job

open Foundation

namespace Serial

variable {Job : Type}

inductive Frame (Job : Type) where
  | code (job : Job)
  | loop (cancelled : List Job)
  deriving DecidableEq, Repr

/-- `completed` holds the flag of every run, in the order in which they were started. -/
structure Context (Job : Type) where
  scheduler : JobScheduler Job := {}
  completed : List Bool := []
  stack : List (Frame Job) := []
  deriving DecidableEq, Repr

inductive Call (Job : Type) where
  | pushAndRun (job : Job)
  | shutdown
  | complete (run : Nat)
  /-- The topmost frame returns, or the loop goes on. -/
  | proceed
  deriving DecidableEq, Repr

def free : List (Frame Job) → Bool
  | .loop _ :: _ => false
  | _ => true

def run (self : Context Job) (job : Job) : Context Job :=
  { self with completed := self.completed ++ [false], stack := .code job :: self.stack }

def cancel (self : Context Job) (job : Job) : Context Job := { self with stack := .code job :: self.stack }

def pushAndRun (self : Context Job) (job : Job) : Context Job :=
  match self.scheduler.pushAndRun job with
  | (scheduler, .rejected job) => cancel { self with scheduler } job
  | (scheduler, .run next) => run { self with scheduler } next
  | (scheduler, .queued) => { self with scheduler }

def completeCurrent (self : Context Job) : Context Job :=
  match self.scheduler.completeCurrent with
  | (scheduler, some next) => run { self with scheduler } next
  | (scheduler, none) => { self with scheduler }

def complete (self : Context Job) (index : Nat) : Option (Context Job) :=
  match self.completed[index]? with
  | none => none
  | some true => some self
  | some false => some (completeCurrent { self with completed := self.completed.set index true })

def shutdown (self : Context Job) : Context Job :=
  if self.scheduler.stopped then self
  else
    let (scheduler, cancelled) := self.scheduler.shutdown
    { self with scheduler, stack := .loop cancelled :: self.stack }

def proceed (self : Context Job) : Option (Context Job) :=
  match self.stack with
  | [] => none
  | .code _ :: rest => some { self with stack := rest }
  | .loop [] :: rest => some { self with stack := rest }
  | .loop (current :: cancelled) :: rest => some (cancel { self with stack := .loop cancelled :: rest } current)

def step (self : Context Job) : Call Job → Option (Context Job)
  | .pushAndRun job => if free self.stack then some (pushAndRun self job) else none
  | .shutdown => if free self.stack then some (shutdown self) else none
  | .complete index => if free self.stack then complete self index else none
  | .proceed => proceed self

abbrev History (Job : Type) := List (Transition (Context Job) (Call Job))

abbrev Reaches (history : History Job) (state : Context Job) : Prop := Run step {} history state

/-! ## What happened along a run -/

def calls (history : History Job) : List (Call Job) := history.map Transition.label

def Call.pushed : Call Job → Option Job
  | .pushAndRun job => some job
  | _ => none

def starts (self : Context Job) : Call Job → Option Job
  | .pushAndRun job => match (self.scheduler.pushAndRun job).2 with
    | .run next => some next
    | _ => none
  | .complete index => if self.completed[index]? = some false then self.scheduler.completeCurrent.2 else none
  | _ => none

def cancels (self : Context Job) : Call Job → Option Job
  | .pushAndRun job => match (self.scheduler.pushAndRun job).2 with
    | .rejected job => some job
    | _ => none
  | .proceed => match self.stack with
    | .loop (current :: _) :: _ => some current
    | _ => none
  | _ => none

def pushed (history : History Job) : List Job := history.filterMap fun move => move.label.pushed

def started (history : History Job) : List Job := history.filterMap fun move => starts move.before move.label

def cancelled (history : History Job) : List Job := history.filterMap fun move => cancels move.before move.label

/-- The jobs whose completion has not been called. The job pushed at a position is the one
started at that position. -/
def unfinished [DecidableEq Job] (history : History Job) : List Job :=
  ((pushed history).zipIdx.filter fun entry => .complete entry.2 ∉ calls history).map Prod.fst

def looping (stack : List (Frame Job)) : List Job :=
  stack.flatMap fun
    | .code _ => []
    | .loop cancelled => cancelled

/-! ## What one call does -/

inductive Stepped (self : Context Job) : Call Job → Option Job → Option Job → Context Job → Prop where
  | rejected {job : Job} (stopped : self.scheduler.stopped = true) :
      Stepped self (.pushAndRun job) none (some job) { self with stack := .code job :: self.stack }
  | launched {job : Job} (live : self.scheduler.stopped = false) (idle : self.scheduler.q = []) :
      Stepped self (.pushAndRun job) (some job) none
        { scheduler := { self.scheduler with q := [job], running := true }, completed := self.completed ++ [false],
          stack := .code job :: self.stack }
  | queued {job : Job} (live : self.scheduler.stopped = false) (busy : self.scheduler.q ≠ []) :
      Stepped self (.pushAndRun job) none none
        { self with scheduler := { self.scheduler with q := self.scheduler.q ++ [job] } }
  | ignored {index : Nat} (again : self.completed[index]? = some true) : Stepped self (.complete index) none none self
  | late {index : Nat} (first : self.completed[index]? = some false) (empty : self.scheduler.q = []) :
      Stepped self (.complete index) none none { self with completed := self.completed.set index true }
  | last {index : Nat} {current : Job} (first : self.completed[index]? = some false)
      (only : self.scheduler.q = [current]) :
      Stepped self (.complete index) none none
        { self with scheduler := { self.scheduler with q := [], running := false },
                    completed := self.completed.set index true }
  | next {index : Nat} {current next : Job} {rest : List Job} (first : self.completed[index]? = some false)
      (more : self.scheduler.q = current :: next :: rest) :
      Stepped self (.complete index) (some next) none
        { scheduler := { self.scheduler with q := next :: rest },
          completed := self.completed.set index true ++ [false], stack := .code next :: self.stack }
  | already (stopped : self.scheduler.stopped = true) : Stepped self .shutdown none none self
  | shutdown (live : self.scheduler.stopped = false) :
      Stepped self .shutdown none none
        { self with scheduler := { q := [], running := false, stopped := true },
                    stack := .loop self.scheduler.q :: self.stack }
  | returned {job : Job} {rest : List (Frame Job)} (top : self.stack = .code job :: rest) :
      Stepped self .proceed none none { self with stack := rest }
  | done {rest : List (Frame Job)} (top : self.stack = .loop [] :: rest) :
      Stepped self .proceed none none { self with stack := rest }
  | cancelled {job : Job} {more : List Job} {rest : List (Frame Job)} (top : self.stack = .loop (job :: more) :: rest) :
      Stepped self .proceed none (some job) { self with stack := .code job :: .loop more :: rest }

section Steps

variable {self after : Context Job} {call : Call Job}

theorem stepped_of_step (busy : self.scheduler.Busy) (moved : step self call = some after) :
    Stepped self call (starts self call) (cancels self call) after := by
  cases call with
  | pushAndRun job =>
    obtain ⟨-, same⟩ := Option.ite_none_right_eq_some.mp moved
    cases same
    simp only [pushAndRun, starts, cancels]
    cases stopped : self.scheduler.stopped with
    | true =>
      have rejected : self.scheduler.pushAndRun job = (self.scheduler, .rejected job) := by
        simp [JobScheduler.pushAndRun, stopped]
      simp only [rejected]
      exact .rejected stopped
    | false =>
      rcases JobScheduler.pushAndRun_cases busy job with ⟨wrong, -⟩ | ⟨idle, same⟩ | ⟨some, same⟩
      · cases stopped.symm.trans wrong
      · simp only [same]
        exact .launched stopped idle
      · simp only [same]
        exact .queued stopped some
  | shutdown =>
    obtain ⟨-, same⟩ := Option.ite_none_right_eq_some.mp moved
    cases same
    unfold shutdown
    cases stopped : self.scheduler.stopped with
    | true => exact .already stopped
    | false =>
      simp only [JobScheduler.shutdown, stopped]
      exact .shutdown stopped
  | complete index =>
    obtain ⟨-, same⟩ := Option.ite_none_right_eq_some.mp moved
    unfold complete at same
    cases flag : self.completed[index]? with
    | none => simp [flag] at same
    | some done =>
      cases done with
      | true =>
        simp only [flag, Option.some.injEq] at same
        subst same
        simp only [starts, flag]
        exact .ignored flag
      | false =>
        simp only [flag, Option.some.injEq] at same
        subst same
        simp only [starts, flag, completeCurrent, JobScheduler.completeCurrent]
        -- The current job is the front of the queue, unless the queue was taken away.
        rcases queue : self.scheduler.q with _ | ⟨current, _ | ⟨next, rest⟩⟩
        · exact .late flag queue
        · exact .last flag queue
        · exact .next flag queue
  | proceed =>
    simp only [step, proceed] at moved
    simp only [starts, cancels]
    rcases top : self.stack with _ | ⟨job | ⟨_ | ⟨job, more⟩⟩, rest⟩
    · simp [top] at moved
    · simp only [top, Option.some.injEq] at moved
      subst moved
      exact .returned top
    · simp only [top, Option.some.injEq] at moved
      subst moved
      exact .done top
    · simp only [top, Option.some.injEq] at moved
      subst moved
      exact .cancelled top

theorem busy_step (busy : self.scheduler.Busy) (moved : step self call = some after) : after.scheduler.Busy := by
  have stepped := stepped_of_step busy moved
  generalize starts self call = start at stepped
  generalize cancels self call = cancel at stepped
  cases stepped with
  | launched | last | shutdown => simp [JobScheduler.Busy]
  | queued live some =>
    have running := busy.mpr some
    simp [JobScheduler.Busy, running]
  | next first more =>
    have running : self.scheduler.running = true := busy.mpr (by simp [more])
    simp [JobScheduler.Busy, running]
  | rejected | ignored | late | already | returned | done | cancelled => exact busy

end Steps

/-! ## Whole runs -/

/-- Until the shutdown, the jobs pushed are those done and the queue, whose front is the one
started and not completed. -/
structure Orderly (history : History Job) (state : Context Job) : Prop where
  busy : state.scheduler.Busy
  flags : ∀ index, state.completed[index]? = some true ↔ .complete index ∈ calls history
  stopped : state.scheduler.stopped = true ↔ .shutdown ∈ calls history
  order : state.scheduler.stopped = false → ∃ done, pushed history = done ++ state.scheduler.q ∧
    started history = done ++ state.scheduler.q.take 1 ∧
    state.completed = List.replicate done.length true ++ (state.scheduler.q.take 1).map fun _ => false
  emptied : state.scheduler.stopped = true → state.scheduler.q = []
  fifo : started history <+: pushed history
  quiet : state.scheduler.stopped = false → cancelled history = [] ∧ looping state.stack = []

section Runs

variable {history : History Job} {self after : Context Job} {call : Call Job}

theorem pushed_concat (history : History Job) (move : Transition (Context Job) (Call Job)) :
    pushed (history ++ [move]) = pushed history ++ move.label.pushed.toList :=
  filterMap_concat ..

theorem started_concat (history : History Job) (move : Transition (Context Job) (Call Job)) :
    started (history ++ [move]) = started history ++ (starts move.before move.label).toList :=
  filterMap_concat ..

theorem cancelled_concat (history : History Job) (move : Transition (Context Job) (Call Job)) :
    cancelled (history ++ [move]) = cancelled history ++ (cancels move.before move.label).toList :=
  filterMap_concat ..

theorem calls_concat (history : History Job) (move : Transition (Context Job) (Call Job)) :
    calls (history ++ [move]) = calls history ++ [move.label] :=
  List.map_append

theorem flag_concat (flags : List Bool) (index : Nat) :
    (flags ++ [false])[index]? = some true ↔ flags[index]? = some true := by
  rw [List.getElem?_append]
  split
  · rfl
  · next outside =>
    rw [List.getElem?_eq_none (Nat.not_lt.mp outside), List.getElem?_singleton]
    split <;> simp

theorem flag_set {flags : List Bool} {run : Nat} (known : flags[run]? = some false) (index : Nat) :
    (flags.set run true)[index]? = some true ↔ flags[index]? = some true ∨ index = run := by
  have bound : run < flags.length := (List.getElem?_eq_some_iff.mp known).1
  rw [List.getElem?_set]
  by_cases same : run = index
  · subst same
    simp [bound]
  · simp [same, Ne.symm same]

theorem flag_done (done q : List Job) (index : Nat) :
    (List.replicate done.length true ++ (q.take 1).map fun _ => false)[index]? = some true ↔ index < done.length := by
  rw [List.getElem?_append, List.length_replicate]
  split
  · next inside => simp [inside]
  · next outside => simp [outside, List.getElem?_replicate]

theorem flags_step (orderly : Orderly history self) (moved : step self call = some after) (index : Nat) :
    after.completed[index]? = some true ↔ .complete index ∈ calls (history ++ [⟨self, call, after⟩]) := by
  have stepped := stepped_of_step orderly.busy moved
  rw [calls_concat, List.mem_append, List.mem_singleton, ← orderly.flags index]
  generalize starts self call = start at stepped
  generalize cancels self call = cancel at stepped
  cases stepped with
  | launched => simp [flag_concat]
  | @ignored run again =>
    simp only [Call.complete.injEq]
    constructor
    · exact .inl
    · rintro (known | same)
      · exact known
      · rw [same, again]
  | late first | last first => simp [flag_set first]
  | next first => simp [flag_concat, flag_set first]
  | rejected | queued | already | shutdown | returned | done | cancelled => simp

theorem stopped_step (orderly : Orderly history self) (moved : step self call = some after) :
    after.scheduler.stopped = true ↔ .shutdown ∈ calls (history ++ [⟨self, call, after⟩]) := by
  have stepped := stepped_of_step orderly.busy moved
  rw [calls_concat, List.mem_append, List.mem_singleton, ← orderly.stopped]
  generalize starts self call = start at stepped
  generalize cancels self call = cancel at stepped
  cases stepped with
  | already stopped => simp [stopped]
  | shutdown | rejected | launched | queued | ignored | late | last | next | returned | done | cancelled => simp

theorem current_of_flag {done q : List Job} {flags : List Bool} {index : Nat}
    (same : flags = List.replicate done.length true ++ (q.take 1).map fun _ => false)
    (first : flags[index]? = some false) : q ≠ [] ∧ flags.set index true = List.replicate (done.length + 1) true := by
  subst same
  cases q with
  | nil => simp [List.getElem?_replicate] at first
  | cons current rest =>
    refine ⟨by simp, ?_⟩
    simp only [List.take_succ_cons, List.take_zero, List.map_cons, List.map_nil] at first ⊢
    have last : index = done.length := by
      rw [List.getElem?_append] at first
      split at first
      · simp [List.getElem?_replicate] at first
      · next outside =>
        rw [List.getElem?_singleton] at first
        split at first
        · next zero =>
          simp only [List.length_replicate] at outside zero
          omega
        · cases first
    rw [last, List.set_append_right _ _ (by simp)]
    simp [List.replicate_succ']

theorem order_step (orderly : Orderly history self) (moved : step self call = some after)
    (live : after.scheduler.stopped = false) :
    ∃ done, pushed (history ++ [⟨self, call, after⟩]) = done ++ after.scheduler.q ∧
      started (history ++ [⟨self, call, after⟩]) = done ++ after.scheduler.q.take 1 ∧
      after.completed = List.replicate done.length true ++ (after.scheduler.q.take 1).map fun _ => false := by
  have stepped := stepped_of_step orderly.busy moved
  rw [pushed_concat, started_concat]
  dsimp only
  generalize starts self call = start at stepped ⊢
  generalize cancels self call = cancel at stepped
  cases stepped with
  | rejected stopped | already stopped => cases live.symm.trans stopped
  | @launched job before idle =>
    obtain ⟨done, pushed, started, flags⟩ := orderly.order before
    exact ⟨done, by simp [pushed, idle, Call.pushed], by simp [started, idle], by simp [flags, idle]⟩
  | @queued job before some =>
    obtain ⟨done, pushed, started, flags⟩ := orderly.order before
    obtain ⟨first, rest, queue⟩ := List.exists_cons_of_ne_nil some
    exact ⟨done, by simp [pushed, Call.pushed], by simp [started, queue], by simp [flags, queue]⟩
  | ignored | returned | done | cancelled =>
    simpa [Call.pushed] using orderly.order live
  | shutdown => cases live
  | late first empty =>
    obtain ⟨done, pushed, started, flags⟩ := orderly.order live
    exact absurd empty (current_of_flag flags first).1
  | @last index current first only =>
    obtain ⟨done, pushed, started, flags⟩ := orderly.order live
    refine ⟨done ++ [current], by simp [pushed, only, Call.pushed], by simp [started, only], ?_⟩
    simp [(current_of_flag flags first).2]
  | @next index current next rest first more =>
    obtain ⟨done, pushed, started, flags⟩ := orderly.order live
    refine ⟨done ++ [current], by simp [pushed, more, Call.pushed], by simp [started, more], ?_⟩
    simp [(current_of_flag flags first).2]

theorem quiet_step (orderly : Orderly history self) (moved : step self call = some after)
    (live : after.scheduler.stopped = false) :
    cancelled (history ++ [⟨self, call, after⟩]) = [] ∧ looping after.stack = [] := by
  have stepped := stepped_of_step orderly.busy moved
  rw [cancelled_concat]
  dsimp only
  generalize starts self call = start at stepped
  generalize cancels self call = cancel at stepped ⊢
  cases stepped with
  | rejected stopped => cases live.symm.trans stopped
  | shutdown => cases live
  | @cancelled job more rest top =>
    have empty := (orderly.quiet live).2
    simp [top, looping] at empty
  | returned top | done top =>
    have quiet := orderly.quiet live
    simpa [top, looping] using quiet
  | launched | next =>
    simpa [looping] using orderly.quiet live
  | queued | ignored | late | last | already =>
    simpa using orderly.quiet live

/-- After the shutdown nothing is queued and nothing starts; what remains to be cancelled
is what the loop holds and what is pushed. -/
theorem closed_step (busy : self.scheduler.Busy) (stopped : self.scheduler.stopped = true)
    (empty : self.scheduler.q = []) (moved : step self call = some after) :
    after.scheduler.stopped = true ∧ after.scheduler.q = [] ∧ starts self call = none ∧
      ((cancels self call).toList ++ looping after.stack).Perm (looping self.stack ++ call.pushed.toList) := by
  have stepped := stepped_of_step busy moved
  generalize starts self call = start at stepped ⊢
  generalize cancels self call = cancel at stepped ⊢
  cases stepped with
  | @rejected job =>
    refine ⟨stopped, empty, rfl, ?_⟩
    simpa [looping, Call.pushed] using (List.perm_append_singleton job _).symm
  | launched live | queued live | shutdown live => cases live.symm.trans stopped
  | next first more => simp [empty] at more
  | last first only => simp [empty] at only
  | returned top | done top | cancelled top =>
    exact ⟨stopped, empty, rfl, by simp [top, looping, Call.pushed]⟩
  | ignored | late | already => exact ⟨stopped, empty, rfl, by simp [Call.pushed]⟩

/-- Once stopped, the queue is empty, and the call that stops it starts nothing. -/
theorem over_step (orderly : Orderly history self) (moved : step self call = some after)
    (ended : after.scheduler.stopped = true) : after.scheduler.q = [] ∧ starts self call = none := by
  cases stopped : self.scheduler.stopped with
  | true =>
    obtain ⟨-, empty, none, -⟩ := closed_step orderly.busy stopped (orderly.emptied stopped) moved
    exact ⟨empty, none⟩
  | false =>
    have stepped := stepped_of_step orderly.busy moved
    generalize starts self call = start at stepped ⊢
    generalize cancels self call = cancel at stepped
    cases stepped with
    | shutdown => exact ⟨rfl, rfl⟩
    | rejected | launched | queued | ignored | late | last | next | already | returned | done | cancelled =>
      simp [stopped] at ended

theorem orderly_step (orderly : Orderly history self) (moved : step self call = some after) :
    Orderly (history ++ [⟨self, call, after⟩]) after := by
  constructor
  case busy => exact busy_step orderly.busy moved
  case flags => exact flags_step orderly moved
  case stopped => exact stopped_step orderly moved
  case order => exact order_step orderly moved
  case quiet => exact quiet_step orderly moved
  case emptied => exact fun ended => (over_step orderly moved ended).1
  case fifo =>
    cases live : after.scheduler.stopped with
    | false =>
      obtain ⟨done, pushed, started, -⟩ := order_step orderly moved live
      rw [pushed, started]
      exact (List.prefix_append_right_inj done).mpr (List.take_prefix ..)
    | true =>
      rw [pushed_concat, started_concat, (over_step orderly moved live).2, Option.toList_none, List.append_nil]
      exact orderly.fifo.trans (List.prefix_append ..)

theorem orderly_reached (run : Reaches history self) : Orderly history self := by
  induction run with
  | start =>
    constructor
    case order => exact fun _ => ⟨[], rfl, rfl, rfl⟩
    all_goals simp [JobScheduler.Busy, calls, started, pushed, cancelled, looping]
  | next previous moved ih => exact orderly_step ih moved

theorem Orderly.unfinished [DecidableEq Job] (orderly : Orderly history self)
    (live : self.scheduler.stopped = false) : unfinished history = self.scheduler.q := by
  obtain ⟨done, pushed, -, flags⟩ := orderly.order live
  have called : ∀ index, .complete index ∈ calls history ↔ index < done.length := by
    intro index
    rw [← orderly.flags index, flags, flag_done]
  rw [Serial.unfinished, pushed, List.zipIdx_append, List.filter_append]
  have first : (done.zipIdx.filter fun entry => .complete entry.2 ∉ calls history) = [] := by
    rw [List.filter_eq_nil_iff]
    intro entry mem
    simpa [called] using List.snd_lt_of_mem_zipIdx mem
  have second : ((self.scheduler.q.zipIdx (0 + done.length)).filter fun entry => .complete entry.2 ∉ calls history) =
      self.scheduler.q.zipIdx (0 + done.length) := by
    rw [List.filter_eq_self]
    intro entry mem
    simpa [called] using List.le_snd_of_mem_zipIdx mem
  rw [first, second, List.nil_append, List.zipIdx_map_fst]

end Runs

end Serial

end Rsp.Job
