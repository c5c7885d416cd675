import Rsp.Foundation.Star

/-! Links that hold their messages.

A link of a star goes through the log of its sender by a cursor. A real one holds the messages that
are under way. As long as these are a part of the log behind the cursor, in its order, the cursor can
follow every message that is handed over: it first loses what the link has lost in between.
-/

set_option autoImplicit false

namespace Rsp.Foundation

open scoped List

/-- What may be under way on a link whose cursor is in a log. -/
structure Underway {Message : Type} (log : List Message) (cursor : Nat) (messages : List Message) : Prop where
  within : cursor ≤ log.length
  ordered : messages <+ log.drop cursor

namespace Underway

variable {Message : Type} {log messages : List Message} {cursor : Nat}

theorem fewer (underway : Underway log cursor messages) {left : List Message} (sublist : left <+ messages) :
    Underway log cursor left :=
  ⟨underway.within, sublist.trans underway.ordered⟩

theorem grows (underway : Underway log cursor messages) (more : List Message) :
    Underway (log ++ more) cursor (messages ++ more) where
  within := by
    rw [List.length_append]
    exact Nat.le_add_right_of_le underway.within
  ordered := by
    rw [List.drop_append_of_le_length underway.within]
    exact underway.ordered.append (.refl _)

/-- The next message is some way behind the cursor, and the others are behind it. -/
theorem next {message : Message} {rest : List Message} (underway : Underway log cursor (message :: rest)) :
    ∃ lost, log[cursor + lost]? = some message ∧ Underway log (cursor + lost + 1) rest := by
  obtain ⟨front, back, cut, member, behind⟩ := List.cons_sublist_iff.mp underway.ordered
  obtain ⟨before, after, rfl⟩ := List.append_of_mem member
  have found : (log.drop cursor)[before.length]? = some message := by simp [cut]
  rw [List.getElem?_drop] at found
  have left : log.drop (cursor + before.length + 1) = after ++ back := by
    rw [Nat.add_assoc, ← List.drop_drop, cut]
    simp [List.drop_append]
  refine ⟨before.length, found, ?_, ?_⟩
  · obtain ⟨inside, -⟩ := List.getElem?_eq_some_iff.mp found
    exact inside
  · rw [left]
    exact behind.trans (List.sublist_append_right after back)

end Underway

namespace Star

variable {Hub HubLabel Spoke SpokeLabel Route ToHub ToSpoke : Type} [DecidableEq Route]
  (star : Star Hub HubLabel Spoke SpokeLabel Route ToHub ToSpoke)

/-- The moves the components make in a part of a run. -/
structure Moves (history : History Hub HubLabel Spoke SpokeLabel Route) (hub : List (Transition Hub HubLabel))
    (spoke : Route → List (Transition Spoke SpokeLabel)) : Prop where
  hubs : star.hubs history = hub
  spokes : ∀ route, star.spokes route history = spoke route

variable {star} {state : State Hub Spoke Route} {route : Route}

theorem moves_one (move : Transition (State Hub Spoke Route) (Label HubLabel SpokeLabel Route)) :
    star.Moves [move] (star.hubMove move).toList (fun route => (star.spokeMove route move).toList) :=
  ⟨star.hubs_concat [] move, fun route => star.spokes_concat route [] move⟩

/-- The link to the hub loses some messages and hands over the next one. -/
theorem hand_in {lost : Nat} {message : ToHub} {hub : Hub}
    (found : (star.sentSpoke (state.spoke route))[state.inward route + lost]? = some message)
    (moved : star.stepHub state.hub (star.giveHub route message) = some hub) :
    ∃ history, star.Moves history [⟨state.hub, star.giveHub route message, hub⟩] (fun _ => []) ∧
      Run star.step state history
        { state with hub, inward := Function.update state.inward route (state.inward route + lost + 1) } := by
  induction lost generalizing state with
  | zero =>
    have next : star.nextHub state route = some message := found
    have handed : star.step state (.toHub route false) = some { state.advanceIn route with hub } := by
      simp [step, next, moved]
    refine ⟨_, ⟨?_, fun _ => rfl⟩, Run.start.next handed⟩
    simp [hubs, hubMove, next]
  | succ lost ih =>
    obtain ⟨inside, -⟩ := List.getElem?_eq_some_iff.mp found
    have next : star.nextHub state route = some _ := List.getElem?_eq_getElem (by omega)
    have dropped : star.step state (.toHub route true) = some (state.advanceIn route) := by simp [step, next]
    have shifted : (state.advanceIn route).inward route + lost = state.inward route + (lost + 1) := by
      simp [State.advanceIn]
      omega
    obtain ⟨history, moves, run⟩ := @ih (state.advanceIn route) (by rwa [shifted]) moved
    refine ⟨⟨state, .toHub route true, state.advanceIn route⟩ :: history, ⟨moves.hubs, moves.spokes⟩, ?_⟩
    rw [shifted] at run
    simpa [State.advanceIn] using run.cons dropped

/-- The same in the other direction. -/
theorem hand_out {lost : Nat} {message : ToSpoke} {spoke : Spoke}
    (found : (star.sentHub state.hub route)[state.outward route + lost]? = some message)
    (moved : star.stepSpoke (state.spoke route) (star.giveSpoke message) = some spoke) :
    ∃ history, star.Moves history [] (fun other =>
        if route = other then [⟨state.spoke other, star.giveSpoke message, spoke⟩] else []) ∧
      Run star.step state history { state.setSpoke route spoke with
        outward := Function.update state.outward route (state.outward route + lost + 1) } := by
  induction lost generalizing state with
  | zero =>
    have next : star.nextSpoke state route = some message := found
    have handed : star.step state (.toSpoke route false) = some ((state.advanceOut route).setSpoke route spoke) := by
      simp [step, next, moved]
    refine ⟨_, ⟨rfl, fun other => ?_⟩, Run.start.next handed⟩
    by_cases same : route = other
    · subst same
      simp [spokes, spokeMove, next]
    · simp [spokes, spokeMove, same]
  | succ lost ih =>
    obtain ⟨inside, -⟩ := List.getElem?_eq_some_iff.mp found
    have next : star.nextSpoke state route = some _ := List.getElem?_eq_getElem (by omega)
    have dropped : star.step state (.toSpoke route true) = some (state.advanceOut route) := by simp [step, next]
    have shifted : (state.advanceOut route).outward route + lost = state.outward route + (lost + 1) := by
      simp [State.advanceOut]
      omega
    obtain ⟨history, moves, run⟩ := @ih (state.advanceOut route) (by rwa [shifted]) moved
    refine ⟨⟨state, .toSpoke route true, state.advanceOut route⟩ :: history, ⟨moves.hubs, moves.spokes⟩, ?_⟩
    rw [shifted] at run
    simpa [State.advanceOut, State.setSpoke] using run.cons dropped

end Star

end Rsp.Foundation
