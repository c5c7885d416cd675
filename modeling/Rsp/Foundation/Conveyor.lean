import Rsp.Foundation.Transition

/-! A part of a system that takes items and gives them away again, first come, first served.

It is enough to look at one step: what is given away and what is then held are a part, in order, of what
was held and what is taken.
-/

set_option autoImplicit false

namespace Rsp.Foundation

open scoped List

variable {State Label Item : Type}

structure Conveyor (State Label Item : Type) where
  taken : Transition State Label → List Item
  given : Transition State Label → List Item
  held : State → List Item

namespace Conveyor

variable (conveyor : Conveyor State Label Item)

/-- In a step no item is doubled, made up or overtaken, and in an exact one none is lost. -/
structure Keeps (exact : Bool) (move : Transition State Label) : Prop where
  ordered : conveyor.given move ++ conveyor.held move.after <+ conveyor.held move.before ++ conveyor.taken move
  whole : exact = true →
    conveyor.given move ++ conveyor.held move.after = conveyor.held move.before ++ conveyor.taken move

structure Conveys (exact : Label → Bool) (history : List (Transition State Label)) (final : State) : Prop where
  ordered : history.flatMap conveyor.given ++ conveyor.held final <+ history.flatMap conveyor.taken
  whole : (∀ move ∈ history, exact move.label = true) →
    history.flatMap conveyor.given ++ conveyor.held final = history.flatMap conveyor.taken

theorem conveys {step : State → Label → Option State} {start final : State} {exact : Label → Bool}
    {history : List (Transition State Label)} (run : Run step start history final) (empty : conveyor.held start = [])
    (keeps : ∀ state label after, step state label = some after →
      conveyor.Keeps (exact label) ⟨state, label, after⟩) :
    conveyor.Conveys exact history final := by
  induction run with
  | start => constructor <;> simp [empty]
  | @next history state after label previous moved ih =>
    obtain ⟨ordered, whole⟩ := keeps state label after moved
    constructor <;> simp only [List.flatMap_append, List.flatMap_singleton, List.append_assoc]
    · have longer := ih.ordered.append_right (conveyor.taken ⟨state, label, after⟩)
      rw [List.append_assoc] at longer
      exact (ordered.append_left _).trans longer
    · intro exactly
      rw [whole (exactly ⟨state, label, after⟩ (by simp)), ← List.append_assoc,
        ih.whole fun move mem => exactly move (by simp [mem])]

end Conveyor

end Rsp.Foundation
