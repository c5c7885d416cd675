import Mathlib.Logic.Function.Basic
import Rsp.Foundation.Transition

/-! One hub and any number of spokes, joined by a link in each direction.

Every component keeps a log of what it handed to its links. A link goes through that log in
order: it hands a message to the other side or loses it, and any time may pass before it
goes on. A run of the whole is a run of each component, and what one received is a part of
what the other had sent, in the same order.
-/

set_option autoImplicit false

namespace Rsp.Foundation

open scoped List

/-- How hub and spokes are joined. A label that hands a message over is not one the
component takes by itself, and the logs only grow. -/
structure Star (Hub HubLabel Spoke SpokeLabel Route ToHub ToSpoke : Type) where
  stepHub : Hub → HubLabel → Option Hub
  stepSpoke : Spoke → SpokeLabel → Option Spoke
  sentHub : Hub → Route → List ToSpoke
  sentSpoke : Spoke → List ToHub
  giveHub : Route → ToHub → HubLabel
  giveSpoke : ToSpoke → SpokeLabel
  takenHub : HubLabel → Option (Route × ToHub)
  takenSpoke : SpokeLabel → Option ToSpoke
  taken_giveHub : ∀ route message, takenHub (giveHub route message) = some (route, message)
  taken_giveSpoke : ∀ message, takenSpoke (giveSpoke message) = some message
  grows_hub : ∀ state label after, stepHub state label = some after →
    ∀ route, sentHub state route <+: sentHub after route
  grows_spoke : ∀ state label after, stepSpoke state label = some after → sentSpoke state <+: sentSpoke after

namespace Star

/-- The components, and how far each link is through the log of its sender. -/
structure State (Hub Spoke Route : Type) where
  hub : Hub
  spoke : Route → Spoke
  inward : Route → Nat := fun _ => 0
  outward : Route → Nat := fun _ => 0

inductive Label (HubLabel SpokeLabel Route : Type) where
  | hub (label : HubLabel)
  | spoke (route : Route) (label : SpokeLabel)
  | toHub (route : Route) (lost : Bool)
  | toSpoke (route : Route) (lost : Bool)
  deriving DecidableEq, Repr

abbrev History (Hub HubLabel Spoke SpokeLabel Route : Type) :=
  List (Transition (State Hub Spoke Route) (Label HubLabel SpokeLabel Route))

variable {Hub HubLabel Spoke SpokeLabel Route ToHub ToSpoke : Type} [DecidableEq Route]
  (star : Star Hub HubLabel Spoke SpokeLabel Route ToHub ToSpoke)

def nextHub (state : State Hub Spoke Route) (route : Route) : Option ToHub :=
  (star.sentSpoke (state.spoke route))[state.inward route]?

def nextSpoke (state : State Hub Spoke Route) (route : Route) : Option ToSpoke :=
  (star.sentHub state.hub route)[state.outward route]?

def State.advanceIn (state : State Hub Spoke Route) (route : Route) : State Hub Spoke Route :=
  { state with inward := Function.update state.inward route (state.inward route + 1) }

def State.advanceOut (state : State Hub Spoke Route) (route : Route) : State Hub Spoke Route :=
  { state with outward := Function.update state.outward route (state.outward route + 1) }

def State.setSpoke (state : State Hub Spoke Route) (route : Route) (spoke : Spoke) : State Hub Spoke Route :=
  { state with spoke := Function.update state.spoke route spoke }

section Links

variable (state : State Hub Spoke Route) (route : Route) (spoke : Spoke)

@[simp] theorem hub_advanceIn : (state.advanceIn route).hub = state.hub := rfl
@[simp] theorem hub_advanceOut : (state.advanceOut route).hub = state.hub := rfl
@[simp] theorem hub_setSpoke : (state.setSpoke route spoke).hub = state.hub := rfl
@[simp] theorem spoke_advanceIn : (state.advanceIn route).spoke = state.spoke := rfl
@[simp] theorem spoke_advanceOut : (state.advanceOut route).spoke = state.spoke := rfl
@[simp] theorem inward_advanceOut : (state.advanceOut route).inward = state.inward := rfl
@[simp] theorem inward_setSpoke : (state.setSpoke route spoke).inward = state.inward := rfl
@[simp] theorem outward_advanceIn : (state.advanceIn route).outward = state.outward := rfl
@[simp] theorem outward_setSpoke : (state.setSpoke route spoke).outward = state.outward := rfl
@[simp] theorem setSpoke_self : (state.setSpoke route spoke).spoke route = spoke := Function.update_self ..

theorem setSpoke_other {other : Route} (apart : other ≠ route) : (state.setSpoke other spoke).spoke route = state.spoke route :=
  Function.update_of_ne (Ne.symm apart) ..

end Links

def step (state : State Hub Spoke Route) : Label HubLabel SpokeLabel Route → Option (State Hub Spoke Route)
  | .hub label =>
      if (star.takenHub label).isSome then none
      else (star.stepHub state.hub label).map fun hub => { state with hub }
  | .spoke route label =>
      if (star.takenSpoke label).isSome then none
      else (star.stepSpoke (state.spoke route) label).map (state.setSpoke route)
  | .toHub route lost =>
      (star.nextHub state route).bind fun message =>
        if lost then some (state.advanceIn route)
        else (star.stepHub state.hub (star.giveHub route message)).map fun hub =>
          { state.advanceIn route with hub }
  | .toSpoke route lost =>
      (star.nextSpoke state route).bind fun message =>
        if lost then some (state.advanceOut route)
        else (star.stepSpoke (state.spoke route) (star.giveSpoke message)).map
          ((state.advanceOut route).setSpoke route)

inductive Stepped (state : State Hub Spoke Route) :
    Label HubLabel SpokeLabel Route → State Hub Spoke Route → Prop where
  | hub {label : HubLabel} {hub : Hub} (own : star.takenHub label = none)
      (moved : star.stepHub state.hub label = some hub) : Stepped state (.hub label) { state with hub }
  | spoke {route : Route} {label : SpokeLabel} {spoke : Spoke} (own : star.takenSpoke label = none)
      (moved : star.stepSpoke (state.spoke route) label = some spoke) :
      Stepped state (.spoke route label) (state.setSpoke route spoke)
  | lostIn {route : Route} {message : ToHub} (next : star.nextHub state route = some message) :
      Stepped state (.toHub route true) (state.advanceIn route)
  | handedIn {route : Route} {message : ToHub} {hub : Hub} (next : star.nextHub state route = some message)
      (moved : star.stepHub state.hub (star.giveHub route message) = some hub) :
      Stepped state (.toHub route false) { state.advanceIn route with hub }
  | lostOut {route : Route} {message : ToSpoke} (next : star.nextSpoke state route = some message) :
      Stepped state (.toSpoke route true) (state.advanceOut route)
  | handedOut {route : Route} {message : ToSpoke} {spoke : Spoke} (next : star.nextSpoke state route = some message)
      (moved : star.stepSpoke (state.spoke route) (star.giveSpoke message) = some spoke) :
      Stepped state (.toSpoke route false) ((state.advanceOut route).setSpoke route spoke)

theorem stepped_of_step {state after : State Hub Spoke Route} {label : Label HubLabel SpokeLabel Route}
    (moved : star.step state label = some after) : star.Stepped state label after := by
  cases label with
  | hub label =>
    simp only [step] at moved
    split at moved
    · cases moved
    · next own =>
      obtain ⟨hub, done, rfl⟩ := Option.map_eq_some_iff.mp moved
      exact .hub (by simpa using own) done
  | spoke route label =>
    simp only [step] at moved
    split at moved
    · cases moved
    · next own =>
      obtain ⟨spoke, done, rfl⟩ := Option.map_eq_some_iff.mp moved
      exact .spoke (by simpa using own) done
  | toHub route lost =>
    obtain ⟨message, next, moved⟩ := Option.bind_eq_some_iff.mp moved
    cases lost with
    | true =>
      cases moved
      exact .lostIn next
    | false =>
      obtain ⟨hub, done, rfl⟩ := Option.map_eq_some_iff.mp moved
      exact .handedIn next done
  | toSpoke route lost =>
    obtain ⟨message, next, moved⟩ := Option.bind_eq_some_iff.mp moved
    cases lost with
    | true =>
      cases moved
      exact .lostOut next
    | false =>
      obtain ⟨spoke, done, rfl⟩ := Option.map_eq_some_iff.mp moved
      exact .handedOut next done

/-! ## The runs of the components -/

def hubMove (move : Transition (State Hub Spoke Route) (Label HubLabel SpokeLabel Route)) :
    Option (Transition Hub HubLabel) :=
  match move.label with
  | .hub label => some ⟨move.before.hub, label, move.after.hub⟩
  | .toHub route false => (star.nextHub move.before route).map fun message =>
      ⟨move.before.hub, star.giveHub route message, move.after.hub⟩
  | _ => none

def spokeMove (route : Route) (move : Transition (State Hub Spoke Route) (Label HubLabel SpokeLabel Route)) :
    Option (Transition Spoke SpokeLabel) :=
  match move.label with
  | .spoke owner label =>
      if owner = route then some ⟨move.before.spoke route, label, move.after.spoke route⟩ else none
  | .toSpoke owner false =>
      if owner = route then (star.nextSpoke move.before route).map fun message =>
        ⟨move.before.spoke route, star.giveSpoke message, move.after.spoke route⟩
      else none
  | _ => none

def hubs (history : History Hub HubLabel Spoke SpokeLabel Route) : List (Transition Hub HubLabel) :=
  history.filterMap star.hubMove

def spokes (route : Route) (history : History Hub HubLabel Spoke SpokeLabel Route) :
    List (Transition Spoke SpokeLabel) :=
  history.filterMap (star.spokeMove route)

variable {start final : State Hub Spoke Route} {history : History Hub HubLabel Spoke SpokeLabel Route}

omit [DecidableEq Route] in
theorem hubs_concat (history : History Hub HubLabel Spoke SpokeLabel Route)
    (move : Transition (State Hub Spoke Route) (Label HubLabel SpokeLabel Route)) :
    star.hubs (history ++ [move]) = star.hubs history ++ (star.hubMove move).toList := by
  exact filterMap_concat _ _ _

theorem spokes_concat (route : Route) (history : History Hub HubLabel Spoke SpokeLabel Route)
    (move : Transition (State Hub Spoke Route) (Label HubLabel SpokeLabel Route)) :
    star.spokes route (history ++ [move]) = star.spokes route history ++ (star.spokeMove route move).toList := by
  exact filterMap_concat _ _ _

theorem run_hub (run : Run star.step start history final) :
    Run star.stepHub start.hub (star.hubs history) final.hub := by
  induction run with
  | start => exact .start
  | @next trace state after label previous moved ih =>
    rw [hubs_concat]
    cases star.stepped_of_step moved with
    | hub own done => exact .next ih done
    | spoke | lostIn | lostOut | handedOut => simpa [hubMove] using ih
    | handedIn next done =>
      simp only [hubMove, next, Option.map_some]
      exact .next ih done

theorem run_spoke (route : Route) (run : Run star.step start history final) :
    Run star.stepSpoke (start.spoke route) (star.spokes route history) (final.spoke route) := by
  induction run with
  | start => exact .start
  | @next trace state after label previous moved ih =>
    rw [spokes_concat]
    cases star.stepped_of_step moved with
    | hub | lostIn | handedIn | lostOut => simpa [spokeMove] using ih
    | @spoke owner label spoke own done =>
      by_cases same : owner = route
      · subst same
        simp only [spokeMove, if_true, State.setSpoke, Function.update_self]
        exact .next ih done
      · simpa [spokeMove, same, State.setSpoke, Function.update_of_ne (Ne.symm same)] using ih
    | @handedOut owner message spoke next done =>
      by_cases same : owner = route
      · subst same
        simp only [spokeMove, next, if_true, Option.map_some, State.setSpoke, Function.update_self]
        exact .next ih done
      · simpa [spokeMove, same, State.setSpoke, State.advanceOut, Function.update_of_ne (Ne.symm same)] using ih

/-! ## What was received had been sent -/

def receivedHub (route : Route) (history : History Hub HubLabel Spoke SpokeLabel Route) : List ToHub :=
  (star.hubs history).filterMap fun move =>
    (star.takenHub move.label).bind fun taken => if taken.1 = route then some taken.2 else none

def receivedSpoke (route : Route) (history : History Hub HubLabel Spoke SpokeLabel Route) : List ToSpoke :=
  (star.spokes route history).filterMap fun move => star.takenSpoke move.label

theorem receivedHub_concat (route : Route) (history : History Hub HubLabel Spoke SpokeLabel Route)
    (move : Transition (State Hub Spoke Route) (Label HubLabel SpokeLabel Route)) :
    star.receivedHub route (history ++ [move]) = star.receivedHub route history ++
      ((star.hubMove move).bind fun made => (star.takenHub made.label).bind fun taken =>
        if taken.1 = route then some taken.2 else none).toList := by
  rw [receivedHub, hubs_concat, List.filterMap_append, ← receivedHub]
  cases made : star.hubMove move with
  | none => rfl
  | some first =>
    simp only [Option.toList_some, List.filterMap_cons, List.filterMap_nil, Option.bind_some]
    split <;> simp [*]

theorem receivedSpoke_concat (route : Route) (history : History Hub HubLabel Spoke SpokeLabel Route)
    (move : Transition (State Hub Spoke Route) (Label HubLabel SpokeLabel Route)) :
    star.receivedSpoke route (history ++ [move]) = star.receivedSpoke route history ++
      ((star.spokeMove route move).bind fun made => star.takenSpoke made.label).toList := by
  rw [receivedSpoke, spokes_concat, List.filterMap_append, ← receivedSpoke]
  cases made : star.spokeMove route move with
  | none => rfl
  | some first => cases taken : star.takenSpoke first.label <;> simp [taken]

/-- Going on in a log that has grown: what was taken so far, and perhaps the next message. -/
theorem taken_grows {Message : Type} {received log grown : List Message} {cursor : Nat}
    (sublist : received <+ log.take cursor) (grows : log <+: grown) : received <+ grown.take cursor := by
  obtain ⟨more, rfl⟩ := grows
  rw [List.take_append]
  exact sublist.trans (List.sublist_append_left _ _)

theorem taken_next {Message : Type} {received log : List Message} {cursor : Nat} {message : Message}
    (sublist : received <+ log.take cursor) (next : log[cursor]? = some message) :
    received ++ [message] <+ log.take (cursor + 1) := by
  obtain ⟨bound, same⟩ := List.getElem?_eq_some_iff.mp next
  rw [List.take_succ_eq_append_getElem bound, same]
  exact sublist.append (List.Sublist.refl _)

theorem taken_lost {Message : Type} {received log : List Message} {cursor : Nat}
    (sublist : received <+ log.take cursor) : received <+ log.take (cursor + 1) :=
  sublist.trans (List.take_sublist_take_left (Nat.le_succ cursor))

theorem received_hub (route : Route) (run : Run star.step start history final) (fresh : start.inward route = 0) :
    star.receivedHub route history <+ (star.sentSpoke (final.spoke route)).take (final.inward route) := by
  induction run with
  | start => simp [receivedHub, hubs, fresh]
  | @next trace state after label previous moved ih =>
    rw [receivedHub_concat]
    cases star.stepped_of_step moved with
    | hub own done => simpa [hubMove, own] using ih
    | @spoke owner label spoke own done =>
      by_cases same : owner = route
      · subst same
        simpa [hubMove, State.setSpoke] using taken_grows ih (star.grows_spoke _ _ _ done)
      · simpa [hubMove, State.setSpoke, Function.update_of_ne (Ne.symm same)] using ih
    | @lostIn owner message next =>
      by_cases same : owner = route
      · subst same
        simpa [hubMove, State.advanceIn] using taken_lost ih
      · simpa [hubMove, State.advanceIn, Function.update_of_ne (Ne.symm same)] using ih
    | @handedIn owner message hub next done =>
      by_cases same : owner = route
      · subst same
        simpa [hubMove, next, star.taken_giveHub, State.advanceIn] using taken_next ih next
      · simpa [hubMove, next, star.taken_giveHub, same, State.advanceIn, Function.update_of_ne (Ne.symm same)] using ih
    | lostOut next => simpa [hubMove, State.advanceOut] using ih
    | @handedOut owner message spoke next done =>
      by_cases same : owner = route
      · subst same
        simpa [hubMove, State.setSpoke, State.advanceOut] using taken_grows ih (star.grows_spoke _ _ _ done)
      · simpa [hubMove, State.setSpoke, State.advanceOut, Function.update_of_ne (Ne.symm same)] using ih

theorem received_spoke (route : Route) (run : Run star.step start history final) (fresh : start.outward route = 0) :
    star.receivedSpoke route history <+ (star.sentHub final.hub route).take (final.outward route) := by
  induction run with
  | start => simp [receivedSpoke, spokes, fresh]
  | @next trace state after label previous moved ih =>
    rw [receivedSpoke_concat]
    cases star.stepped_of_step moved with
    | hub own done => simpa [spokeMove] using taken_grows ih (star.grows_hub _ _ _ done route)
    | @spoke owner label spoke own done =>
      by_cases same : owner = route
      · subst same
        simpa [spokeMove, own, State.setSpoke] using ih
      · simpa [spokeMove, same, State.setSpoke] using ih
    | lostIn next => simpa [spokeMove, State.advanceIn] using ih
    | handedIn next done => simpa [spokeMove, State.advanceIn] using taken_grows ih (star.grows_hub _ _ _ done route)
    | @lostOut owner message next =>
      by_cases same : owner = route
      · subst same
        simpa [spokeMove, State.advanceOut] using taken_lost ih
      · simpa [spokeMove, State.advanceOut, Function.update_of_ne (Ne.symm same)] using ih
    | @handedOut owner message spoke next done =>
      by_cases same : owner = route
      · subst same
        simpa [spokeMove, next, star.taken_giveSpoke, State.setSpoke, State.advanceOut] using taken_next ih next
      · simpa [spokeMove, same, State.setSpoke, State.advanceOut, Function.update_of_ne (Ne.symm same)] using ih

end Star

end Rsp.Foundation
