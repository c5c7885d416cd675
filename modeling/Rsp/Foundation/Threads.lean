import Mathlib.Data.List.Basic
import Mathlib.Tactic.Tauto

/-! Threads that execute queued work one atomic item at a time.

The pool holds the pending items of all threads, those of one thread in its own
order. Running a thread removes its first item; the continuation of that item goes
in front of everything the thread still has to do, and posted work goes behind.
This is how a strand runs its tasks: a started task is never interrupted by another
task of the same strand, while other threads move between any two of its items.
-/

set_option autoImplicit false

namespace Rsp.Foundation

variable {Core Thread Item : Type}

abbrev Pool (Thread Item : Type) := List (Thread × Item)

structure Machine (Core Thread Item : Type) where
  core : Core
  pool : Pool Thread Item

/-- The effect of one item: the shared state, what the thread does next, and posted work. -/
structure Outcome (Core Thread Item : Type) where
  core : Core
  next : List Item := []
  posts : List (Thread × Item) := []

def items (effect : Outcome Core Thread Item) : List Item := effect.next ++ effect.posts.map Prod.snd

def Waiting (machine : Machine Core Thread Item) (item : Item) : Prop := ∃ thread, (thread, item) ∈ machine.pool

/-- The machine after a thread has run the item that stood between `before` and `later`. -/
abbrev ranState (thread : Thread) (before later : Pool Thread Item) (effect : Outcome Core Thread Item) :
    Machine Core Thread Item :=
  ⟨effect.core, effect.next.map (Prod.mk thread) ++ (before ++ later) ++ effect.posts⟩

section Waiting

variable {machine : Machine Core Thread Item} {thread : Thread} {item : Item} {before later : Pool Thread Item}
  {effect : Outcome Core Thread Item}

theorem mem_of_rest {pool : Pool Thread Item} (split : pool = before ++ (thread, item) :: later)
    {entry : Thread × Item} (mem : entry ∈ before ++ later) : entry ∈ pool := by
  rw [split]
  simp only [List.mem_append, List.mem_cons] at mem ⊢
  tauto

theorem waiting_split (split : machine.pool = before ++ (thread, item) :: later) (other : Item) :
    Waiting machine other ↔ other = item ∨ ∃ owner, (owner, other) ∈ before ++ later := by
  simp only [Waiting, split, List.mem_append, List.mem_cons, Prod.mk.injEq]
  grind

theorem waiting_ran (other : Item) : Waiting (ranState thread before later effect) other ↔
      other ∈ items effect ∨ ∃ owner, (owner, other) ∈ before ++ later := by
  simp only [Waiting, items, List.mem_append, List.mem_map, Prod.mk.injEq, Prod.exists]
  grind

theorem countP_split {pool : Pool Thread Item} (p : Item → Bool) (split : pool = before ++ (thread, item) :: later) :
    pool.countP (fun entry => p entry.2) = (p item).toNat + (before ++ later).countP fun entry => p entry.2 := by
  rw [split, List.countP_append, List.countP_cons, List.countP_append]
  cases p item with
  | false => simp
  | true =>
    simp
    omega

theorem countP_ran (p : Item → Bool) :
    (effect.next.map (Prod.mk thread) ++ (before ++ later) ++ effect.posts).countP (fun entry => p entry.2) =
      (items effect).countP p + (before ++ later).countP fun entry => p entry.2 := by
  have next : (effect.next.map (Prod.mk thread)).countP (fun entry => p entry.2) = effect.next.countP p :=
    List.countP_map
  have posts : (effect.posts.map Prod.snd).countP p = effect.posts.countP fun entry => p entry.2 := List.countP_map
  simp only [items, List.countP_append, next, posts]
  omega

end Waiting

variable [DecidableEq Thread]

def Pool.queue (pool : Pool Thread Item) (thread : Thread) : List Item :=
  (pool.filter fun entry => entry.1 = thread).map Prod.snd

def Pool.pop (thread : Thread) : Pool Thread Item → Option (Item × Pool Thread Item)
  | [] => none
  | entry :: rest =>
      if entry.1 = thread then some (entry.2, rest)
      else (pop thread rest).map fun found => (found.1, entry :: found.2)

def Pool.idle (pool : Pool Thread Item) (thread : Thread) : Prop := ∀ entry ∈ pool, entry.1 ≠ thread

instance (pool : Pool Thread Item) (thread : Thread) : Decidable (pool.idle thread) :=
  inferInstanceAs (Decidable (∀ entry ∈ pool, entry.1 ≠ thread))

def Machine.run (exec : Item → Core → Option (Outcome Core Thread Item)) (thread : Thread)
    (machine : Machine Core Thread Item) : Option (Machine Core Thread Item) :=
  (Pool.pop thread machine.pool).bind fun found =>
    (exec found.1 machine.core).map fun outcome =>
      ⟨outcome.core, outcome.next.map (Prod.mk thread) ++ found.2 ++ outcome.posts⟩

namespace Pool

theorem pop_eq_some {thread : Thread} {pool rest : Pool Thread Item} {item : Item}
    (found : pop thread pool = some (item, rest)) :
    ∃ before after, pool = before ++ (thread, item) :: after ∧ rest = before ++ after ∧ idle before thread := by
  induction pool generalizing rest with
  | nil => cases found
  | cons entry tail ih =>
    rw [pop] at found
    split at found
    · next same =>
      cases found
      exact ⟨[], tail, by simp [← same], rfl, by simp [idle]⟩
    · next other =>
      obtain ⟨⟨_, remaining⟩, popped, same⟩ := Option.map_eq_some_iff.mp found
      cases same
      obtain ⟨before, after, rfl, rfl, quiet⟩ := ih popped
      refine ⟨entry :: before, after, rfl, rfl, ?_⟩
      intro candidate mem
      rcases List.mem_cons.mp mem with rfl | mem
      · exact other
      · exact quiet candidate mem

@[simp] theorem queue_append (first second : Pool Thread Item) (thread : Thread) :
    queue (first ++ second) thread = queue first thread ++ queue second thread := by
  simp [queue]

@[simp] theorem queue_nil (thread : Thread) : queue ([] : Pool Thread Item) thread = [] := rfl

theorem queue_cons (entry : Thread × Item) (rest : Pool Thread Item) (thread : Thread) :
    queue (entry :: rest) thread = if entry.1 = thread then entry.2 :: queue rest thread else queue rest thread := by
  by_cases same : entry.1 = thread <;> simp [queue, same]

theorem queue_of_idle {pool : Pool Thread Item} {thread : Thread} (quiet : idle pool thread) :
    queue pool thread = [] := by
  simp only [queue, List.map_eq_nil_iff, List.filter_eq_nil_iff, decide_eq_true_eq]
  exact quiet

@[simp] theorem queue_map_self (items : List Item) (thread : Thread) :
    queue (items.map (Prod.mk thread)) thread = items := by
  induction items with
  | nil => rfl
  | cons item rest ih => simp [queue_cons, ih]

theorem queue_map_other (items : List Item) {thread other : Thread} (different : thread ≠ other) :
    queue (items.map (Prod.mk thread)) other = [] := by
  induction items with
  | nil => rfl
  | cons item rest ih => simp [queue_cons, different, ih]

theorem pop_of_idle {thread : Thread} {item : Item} {before later : Pool Thread Item} (quiet : idle before thread) :
    pop thread (before ++ (thread, item) :: later) = some (item, before ++ later) := by
  induction before with
  | nil => simp [pop]
  | cons entry rest ih =>
    have other : entry.1 ≠ thread := quiet entry (by simp)
    have quieter : idle rest thread := fun candidate mem => quiet candidate (List.mem_cons_of_mem _ mem)
    simp [pop, other, ih quieter]

theorem mem_queue {pool : Pool Thread Item} {thread : Thread} {item : Item} :
    item ∈ queue pool thread ↔ (thread, item) ∈ pool := by
  simp [queue]

/-! ### Items that only wait at the front

A started task leaves its remaining items in front of its thread. An item that only a
started task can leave behind is therefore preceded by items of that task alone.
-/

/-- In a list, only light items stand before a special one. -/
def Leads (light special : Item → Prop) : List Item → Prop
  | [] => True
  | item :: rest => (∀ other ∈ rest, ¬ special other) ∨ (light item ∧ Leads light special rest)

def Leading (light special : Item → Prop) (pool : Pool Thread Item) : Prop :=
  ∀ thread, Leads light special (queue pool thread)

section Leading

variable {light special : Item → Prop}

theorem leads_of_tail {list : List Item} (plain : ∀ item ∈ list.tail, ¬ special item) : Leads light special list := by
  cases list with
  | nil => trivial
  | cons first rest => exact .inl plain

theorem leads_append {first second : List Item} (leads : Leads light special first)
    (plain : ∀ item ∈ second, ¬ special item) : Leads light special (first ++ second) := by
  induction first with
  | nil => exact leads_of_tail fun item mem => plain item (List.mem_of_mem_tail mem)
  | cons item rest ih =>
    rcases leads with none | ⟨isLight, leads⟩
    · refine .inl fun other mem => ?_
      rcases List.mem_append.mp mem with mem | mem
      · exact none other mem
      · exact plain other mem
    · exact .inr ⟨isLight, ih leads⟩

theorem leading_nil : Leading light special ([] : Pool Thread Item) := fun _ => trivial

theorem leading_append {pool posts : Pool Thread Item} (leading : Leading light special pool)
    (plain : ∀ entry ∈ posts, ¬ special entry.2) : Leading light special (pool ++ posts) := by
  intro thread
  rw [queue_append]
  exact leads_append (leading thread) fun item mem => plain _ (mem_queue.mp mem)

variable {thread : Thread} {item : Item} {before later : Pool Thread Item}

theorem queue_split (quiet : idle before thread) :
    queue (before ++ (thread, item) :: later) thread = item :: queue later thread := by
  rw [queue_append, queue_of_idle quiet, queue_cons, if_pos rfl, List.nil_append]

/-- While an item that is not light runs, no special item is left on its thread. -/
theorem Leading.behind (leading : Leading light special (before ++ (thread, item) :: later))
    (quiet : idle before thread) (heavy : ¬ light item) {entry : Thread × Item} (mem : entry ∈ before ++ later)
    (same : entry.1 = thread) : ¬ special entry.2 := by
  rcases List.mem_append.mp mem with mem | mem
  · exact absurd same (quiet entry mem)
  · have here := leading thread
    rw [queue_split quiet] at here
    rcases here with none | ⟨isLight, -⟩
    · exact none entry.2 (mem_queue.mpr (same ▸ mem))
    · exact absurd isLight heavy

/-- After a thread has run its first item: the continuation, then what was behind, then the posts. -/
theorem queue_ran_self {next : List Item} {posts : Pool Thread Item} (quiet : idle before thread) :
    queue (next.map (Prod.mk thread) ++ (before ++ later) ++ posts) thread =
      next ++ queue later thread ++ queue posts thread := by
  rw [queue_append, queue_append, queue_map_self, queue_append, queue_of_idle quiet, List.nil_append]

theorem queue_ran_other (item : Item) {next : List Item} {posts : Pool Thread Item} {other : Thread}
    (different : thread ≠ other) :
    queue (next.map (Prod.mk thread) ++ (before ++ later) ++ posts) other =
      queue (before ++ (thread, item) :: later) other ++ queue posts other := by
  rw [queue_append, queue_append, queue_map_other _ different, List.nil_append, queue_append, queue_append,
    queue_cons, if_neg different]

theorem leads_light {next rest : List Item} (lights : ∀ other ∈ next, light other)
    (leads : Leads light special rest) : Leads light special (next ++ rest) := by
  induction next with
  | nil => exact leads
  | cons first more ih =>
    exact .inr ⟨lights first (List.mem_cons_self ..), ih fun other mem => lights other (List.mem_cons_of_mem _ mem)⟩

/-- The items a light one continues with are light, so they do not hide what waits behind it. -/
theorem leading_run {next : List Item} {posts : Pool Thread Item}
    (leading : Leading light special (before ++ (thread, item) :: later)) (quiet : idle before thread)
    (continued : Leads light special next) (lights : light item → ∀ other ∈ next, light other)
    (plain : ∀ entry ∈ posts, ¬ special entry.2) :
    Leading light special (next.map (Prod.mk thread) ++ (before ++ later) ++ posts) := by
  intro other
  have here := leading other
  have posted : ∀ waiting ∈ queue posts other, ¬ special waiting := fun waiting mem => plain _ (mem_queue.mp mem)
  by_cases same : thread = other
  · subst same
    rw [queue_split quiet] at here
    rw [queue_ran_self quiet]
    apply leads_append _ posted
    rcases here with none | ⟨isLight, leads⟩
    · exact leads_append continued none
    · exact leads_light (lights isLight) leads
  · rw [queue_ran_other item same]
    exact leads_append here posted

end Leading

end Pool

namespace Machine

variable {exec : Item → Core → Option (Outcome Core Thread Item)}

/-- What running a thread can do, said once: its first item is replaced by the
item's continuation in front and the posted work behind. -/
theorem run_cases {thread : Thread} {machine after : Machine Core Thread Item}
    (moved : machine.run exec thread = some after) :
    ∃ before item later outcome, machine.pool = before ++ (thread, item) :: later ∧
      Pool.idle before thread ∧ exec item machine.core = some outcome ∧
      after = ⟨outcome.core, outcome.next.map (Prod.mk thread) ++ (before ++ later) ++ outcome.posts⟩ := by
  obtain ⟨⟨item, rest⟩, popped, moved⟩ := Option.bind_eq_some_iff.mp moved
  obtain ⟨outcome, executed, rfl⟩ := Option.map_eq_some_iff.mp moved
  obtain ⟨before, later, split, rfl, quiet⟩ := Pool.pop_eq_some popped
  exact ⟨before, item, later, outcome, split, quiet, executed, rfl⟩

end Machine

end Rsp.Foundation
