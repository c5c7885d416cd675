import Mathlib.Data.List.Basic
import Mathlib.Data.Option.Basic

/-! Runs of a labelled transition function and the induction rules over them.

A label resolves every choice of a step: which thread moves, what arrives, what a
clock or a generator returns. A run records its transitions, so that a statement
can speak about what one party did along the way.
-/

set_option autoImplicit false

namespace Rsp.Foundation

structure Transition (State Label : Type) where
  before : State
  label : Label
  after : State

variable {State Label : Type} {step : State → Label → Option State}

/-- The transitions of a run, oldest first. -/
inductive Run (step : State → Label → Option State) (start : State) :
    List (Transition State Label) → State → Prop where
  | start : Run step start [] start
  | next {trace : List (Transition State Label)} {state after : State} {label : Label} :
      Run step start trace state → step state label = some after →
      Run step start (trace ++ [⟨state, label, after⟩]) after

def execute (step : State → Label → Option State) : State → List Label → Option State
  | state, [] => some state
  | state, label :: rest => (step state label).bind fun after => execute step after rest

def transitions (step : State → Label → Option State) : State → List Label → List (Transition State Label)
  | _, [] => []
  | state, label :: rest =>
      match step state label with
      | none => []
      | some after => ⟨state, label, after⟩ :: transitions step after rest

theorem filterMap_concat {Item Value : Type} (f : Item → Option Value) (list : List Item) (last : Item) :
    (list ++ [last]).filterMap f = list.filterMap f ++ (f last).toList := by
  rw [List.filterMap_append, List.filterMap_cons]
  cases f last <;> rfl

namespace Run

theorem cons {start state final : State} {label : Label} {trace : List (Transition State Label)}
    (first : step start label = some state) (rest : Run step state trace final) :
    Run step start (⟨start, label, state⟩ :: trace) final := by
  induction rest with
  | start => exact .next .start first
  | next _ moved ih => exact .next ih moved

theorem append {start middle final : State} {first second : List (Transition State Label)}
    (left : Run step start first middle) (right : Run step middle second final) :
    Run step start (first ++ second) final := by
  induction right with
  | start => simpa using left
  | next _ moved ih =>
    rw [← List.append_assoc]
    exact .next ih moved

theorem mono {wider : State → Label → Option State} {start final : State} {trace : List (Transition State Label)}
    (run : Run step start trace final)
    (allows : ∀ state label after, step state label = some after → wider state label = some after) :
    Run wider start trace final := by
  induction run with
  | start => exact .start
  | next _ moved ih => exact .next ih (allows _ _ _ moved)

theorem split {start final : State} {trace : List (Transition State Label)} (run : Run step start trace final)
    {before after : List (Transition State Label)} {move : Transition State Label}
    (cut : trace = before ++ move :: after) :
    Run step start before move.before ∧ step move.before move.label = some move.after ∧
      Run step move.after after final := by
  induction run generalizing after with
  | start => simp at cut
  | @next trace state last label previous moved ih =>
    rcases List.eq_nil_or_concat after with rfl | ⟨init, tail, rfl⟩
    · obtain ⟨rfl, same⟩ := List.append_inj' cut rfl
      obtain rfl := List.singleton_inj.mp same
      exact ⟨previous, moved, .start⟩
    · rw [List.concat_eq_append, ← List.cons_append, ← List.append_assoc] at cut
      rw [List.concat_eq_append]
      obtain ⟨same, last⟩ := List.append_inj' cut rfl
      obtain rfl := List.singleton_inj.mp last
      obtain ⟨reached, stepped, later⟩ := ih same
      exact ⟨reached, stepped, .next later moved⟩

theorem member {start final : State} {trace : List (Transition State Label)} (run : Run step start trace final)
    {move : Transition State Label} (mem : move ∈ trace) : step move.before move.label = some move.after := by
  obtain ⟨before, after, cut⟩ := List.append_of_mem mem
  exact (run.split cut).2.1

theorem invariant_of {Inv : State → Prop} {Allowed : Transition State Label → Prop} {start final : State}
    {trace : List (Transition State Label)} (run : Run step start trace final) (initial : Inv start)
    (allowed : ∀ move ∈ trace, Allowed move)
    (keep : ∀ move, Allowed move → Inv move.before → step move.before move.label = some move.after → Inv move.after) :
    Inv final := by
  induction run with
  | start => exact initial
  | @next trace state last label previous moved ih =>
    exact keep ⟨state, label, last⟩ (allowed _ (by simp))
      (ih (fun move mem => allowed move (List.mem_append_left _ mem))) moved

theorem invariant {Inv : State → Prop} {start final : State} {trace : List (Transition State Label)}
    (run : Run step start trace final) (initial : Inv start)
    (keep : ∀ state label after, Inv state → step state label = some after → Inv after) : Inv final := by
  have unrestricted : ∀ move ∈ trace, (fun _ : Transition State Label => True) move := fun _ _ => trivial
  exact run.invariant_of initial unrestricted
    (fun move _ holds moved => keep move.before move.label move.after holds moved)

theorem history (Inv : List (Transition State Label) → State → Prop) {start final : State}
    {trace : List (Transition State Label)} (run : Run step start trace final) (initial : Inv [] start)
    (keep : ∀ past move, Run step start past move.before → Inv past move.before →
      step move.before move.label = some move.after → move ∈ trace → Inv (past ++ [move]) move.after) :
    Inv trace final := by
  induction run with
  | start => exact initial
  | @next trace state last label previous moved ih =>
    refine keep trace ⟨state, label, last⟩ previous (ih ?_) moved (by simp)
    intro past move reached holds stepped mem
    exact keep past move reached holds stepped (List.mem_append_left _ mem)

end Run

theorem run_of_execute {start final : State} {labels : List Label}
    (done : execute step start labels = some final) : Run step start (transitions step start labels) final := by
  induction labels generalizing start with
  | nil =>
    cases done
    exact .start
  | cons label rest ih =>
    rw [execute, Option.bind_eq_some_iff] at done
    obtain ⟨after, moved, later⟩ := done
    rw [transitions, moved]
    exact .cons moved (ih later)

theorem label_of_transition {start : State} {labels : List Label} {move : Transition State Label}
    (mem : move ∈ transitions step start labels) : move.label ∈ labels := by
  induction labels generalizing start with
  | nil => cases mem
  | cons label rest ih =>
    simp only [transitions] at mem
    split at mem
    · cases mem
    · rcases List.mem_cons.mp mem with rfl | mem
      · exact List.mem_cons_self
      · exact List.mem_cons_of_mem _ (ih mem)

def final (step : State → Label → Option State) (start : State) (labels : List Label) : State :=
  (execute step start labels).getD start

theorem run_of_enabled {start : State} {labels : List Label} (enabled : (execute step start labels).isSome) :
    Run step start (transitions step start labels) (final step start labels) := by
  obtain ⟨state, done⟩ := Option.isSome_iff_exists.mp enabled
  rw [final, done]
  exact run_of_execute done

def nextMove (step : State → Label → Option State) (start : State) (labels : List Label) (label : Label) :
    Transition State Label :=
  ⟨final step start labels, label, final step (final step start labels) [label]⟩

theorem step_nextMove {start : State} {labels : List Label} {label : Label}
    (enabled : (step (final step start labels) label).isSome) :
    step (nextMove step start labels label).before label = some (nextMove step start labels label).after := by
  obtain ⟨after, moved⟩ := Option.isSome_iff_exists.mp enabled
  simp [nextMove, final, execute] at moved ⊢
  simp [moved]

end Rsp.Foundation
