import Rsp.Broker.RoutedChannel
import Rsp.Foundation.Carriage
import Rsp.Protocol.Order

/-! The servers over their channels.

Room sends through one `router_channel`, every User server through a `dealer_channel`, and each of them hands
what it receives to its server on its own thread. The servers do nothing over these channels that they cannot
do over the links of `system`.
-/

set_option autoImplicit false

namespace Rsp.Protocol

open Message Foundation Broker.Routed
open scoped List

structure Joined where
  room : RoomServer.State := RoomServer.initial
  user : RoutingId → UserServer.State := fun _ => UserServer.initial
  network : Network ToRoom ToUser := {}

namespace Joined

/-- A server moves by itself, or something happens in the channels or to them. -/
inductive Label where
  | room (label : RoomServer.Label)
  | user (route : RoutingId) (label : UserServer.Label)
  | network (label : Broker.Routed.Label ToRoom ToUser)

def routeAll (network : Network ToRoom ToUser) (frames : List RoomServer.Outgoing) : Network ToRoom ToUser :=
  frames.foldl (fun network frame => network.route frame.destination frame.message) network

def sendAll (route : RoutingId) (network : Network ToRoom ToUser) (messages : List ToRoom) : Network ToRoom ToUser :=
  messages.foldl (fun network message => network.send route message) network

/-- Room has moved, and what it sent is in its channel. -/
def setRoom (self : Joined) (room : RoomServer.State) : Joined :=
  { self with room, network := routeAll self.network (room.core.outgoing.drop self.room.core.outgoing.length) }

def setUser (self : Joined) (route : RoutingId) (user : UserServer.State) : Joined :=
  { self with
    user := Function.update self.user route user
    network := sendAll route self.network (user.core.outgoing.drop (self.user route).core.outgoing.length) }

/-- What a move of the channels, which leads to `network`, means to the servers. A handler is called by the worker
of its channel, which goes on when it has returned. -/
def carry (self : Joined) (network : Network ToRoom ToUser) : Broker.Routed.Label ToRoom ToUser → Option Joined
  | .handle source => (self.network.inward source).head?.bind fun message =>
      (RoomServer.step self.room (.deliver source message)).map { self with network }.setRoom
  | .deliver route => (self.network.outward route).head?.bind fun message =>
      (UserServer.step (self.user route) (.deliver message)).map ({ self with network }.setUser route)
  | .router operation =>
      if operation.isTurn = true ∧ ¬ self.room.pool.idle .router then none else some { self with network }
  | .dealer route operation =>
      if operation.isTurn = true ∧ ¬ (self.user route).pool.idle .dealer then none else some { self with network }
  | .lost _ _ _ => some { self with network }
  | .send _ _ | .route _ _ => none

def step (self : Joined) : Label → Option Joined
  | .room label =>
      if (delivery label).isSome then none else (RoomServer.step self.room label).map self.setRoom
  | .user route label =>
      if label.message.isSome then none else (UserServer.step (self.user route) label).map (self.setUser route)
  | .network label => (self.network.step label).bind fun network => self.carry network label

/-- The moves of the servers in a move of the whole. -/
def roomMove (move : Transition Joined Label) : Option (Transition RoomServer.State RoomServer.Label) :=
  match move.label with
  | .room label => some ⟨move.before.room, label, move.after.room⟩
  | .network (.handle source) => (move.before.network.inward source).head?.map fun message =>
      ⟨move.before.room, .deliver source message, move.after.room⟩
  | _ => none

def userMove (route : RoutingId) (move : Transition Joined Label) :
    Option (Transition UserServer.State UserServer.Label) :=
  match move.label with
  | .user owner label =>
      if owner = route then some ⟨move.before.user route, label, move.after.user route⟩ else none
  | .network (.deliver owner) =>
      if owner = route then (move.before.network.outward route).head?.map fun message =>
        ⟨move.before.user route, .deliver message, move.after.user route⟩
      else none
  | _ => none

/-! ## Simulation -/

/-- The servers as a state of the system, with the links at the given places of the logs. -/
def state (self : Joined) (inwards outwards : RoutingId → Nat) : State :=
  { hub := self.room, spoke := self.user, inward := inwards, outward := outwards }

/-- What is under way in the channels is what the links have not passed, or a part of it. -/
structure Follows (joined : Joined) (inwards outwards : RoutingId → Nat) : Prop where
  inward : ∀ route, Underway (joined.user route).core.outgoing (inwards route)
    ((Network.toRouter route).held joined.network)
  outward : ∀ route, Underway (sentTo joined.room route) (outwards route)
    ((Network.toDealer route).held joined.network)

section Held

variable (network : Network ToRoom ToUser) (route : RoutingId)

theorem held_routeAll (frames : List RoomServer.Outgoing) :
    (Network.toRouter route).held (routeAll network frames) = (Network.toRouter route).held network ∧
      (Network.toDealer route).held (routeAll network frames) = (Network.toDealer route).held network ++
        (frames.filter fun frame => frame.destination = route).map RoomServer.Outgoing.message := by
  induction frames generalizing network with
  | nil => simp [routeAll]
  | cons frame rest ih =>
    obtain ⟨router, dealer⟩ := ih (network.route frame.destination frame.message)
    have moved : network.step (.route frame.destination frame.message) = some _ := rfl
    have first := Conveyor.Keeps.whole (Network.toDealer_keeps moved : (Network.toDealer route).Keeps true _) rfl
    refine ⟨router, dealer.trans ?_⟩
    by_cases own : frame.destination = route
    · simp_all [Network.toDealer]
    · simp_all [Network.toDealer, Ne.symm own]

theorem held_sendAll (owner : RoutingId) (messages : List ToRoom) :
    (Network.toRouter route).held (sendAll owner network messages) =
        (Network.toRouter route).held network ++ (if route = owner then messages else []) ∧
      (Network.toDealer route).held (sendAll owner network messages) = (Network.toDealer route).held network := by
  induction messages generalizing network with
  | nil => simp [sendAll]
  | cons message rest ih =>
    obtain ⟨router, dealer⟩ := ih (network.send owner message)
    have moved : network.step (.send owner message) = some _ := rfl
    have first := Conveyor.Keeps.whole (Network.toRouter_keeps moved : (Network.toRouter route).Keeps true _) rfl
    refine ⟨router.trans ?_, dealer⟩
    by_cases own : route = owner <;> simp_all [Network.toRouter]

end Held

variable {joined after : Joined} {inwards outwards : RoutingId → Nat} {label : Label} {route : RoutingId}

theorem Follows.setRoom {label : RoomServer.Label} {room : RoomServer.State} (follows : Follows joined inwards outwards)
    (moved : RoomServer.step joined.room label = some room) : Follows (joined.setRoom room) inwards outwards := by
  obtain ⟨more, grown⟩ := RoomServer.outgoing_grows moved
  have sent : room.core.outgoing.drop joined.room.core.outgoing.length = more := by simp [← grown]
  constructor <;> intro route <;> simp only [Joined.setRoom, sent, held_routeAll]
  · exact follows.inward route
  · have log : sentTo room route = sentTo joined.room route ++
        (more.filter fun frame => frame.destination = route).map RoomServer.Outgoing.message := by
      simp [sentTo, ← grown]
    exact log ▸ (follows.outward route).grows _

theorem Follows.setUser {label : UserServer.Label} {user : UserServer.State} (follows : Follows joined inwards outwards)
    (moved : UserServer.step (joined.user route) label = some user) :
    Follows (joined.setUser route user) inwards outwards := by
  obtain ⟨more, grown⟩ := outgoing_grows moved
  have sent : user.core.outgoing.drop (joined.user route).core.outgoing.length = more := by simp [← grown]
  constructor <;> intro other <;> simp only [Joined.setUser, sent, held_sendAll]
  · by_cases own : other = route
    · subst own
      simpa [← grown] using (follows.inward other).grows more
    · simpa [own] using follows.inward other
  · exact follows.outward other

/-- What a step of the whole is in the system: a move of one server, or of none, behind messages that a link
loses. -/
def Simulated (inwards outwards : RoutingId → Nat) (move : Transition Joined Label) : Prop :=
  ∃ history inward outward, Follows move.after inward outward ∧
    Run system.step (move.before.state inwards outwards) history (move.after.state inward outward) ∧
    system.Moves history (roomMove move).toList fun route => (userMove route move).toList

section Carried

variable {network : Network ToRoom ToUser} {label : Broker.Routed.Label ToRoom ToUser}

/-- The channels move and nothing is sent. -/
theorem Follows.carried (follows : Follows joined inwards outwards) (moved : joined.network.step label = some network)
    (silent : ∀ route, (Network.toRouter route).taken ⟨joined.network, label, network⟩ = [] ∧
      (Network.toDealer route).taken ⟨joined.network, label, network⟩ = []) (route : RoutingId) :
    Underway (joined.user route).core.outgoing (inwards route)
        ((Network.toRouter route).given ⟨joined.network, label, network⟩ ++ (Network.toRouter route).held network) ∧
      Underway (sentTo joined.room route) (outwards route)
        ((Network.toDealer route).given ⟨joined.network, label, network⟩ ++ (Network.toDealer route).held network) := by
  have inward := (Network.toRouter_keeps moved : (Network.toRouter route).Keeps _ _).ordered
  have outward := (Network.toDealer_keeps moved : (Network.toDealer route).Keeps _ _).ordered
  rw [(silent route).1, List.append_nil] at inward
  rw [(silent route).2, List.append_nil] at outward
  exact ⟨(follows.inward route).fewer inward, (follows.outward route).fewer outward⟩

theorem simulated_handle (follows : Follows joined inwards outwards)
    (moved : joined.step (.network (.handle route)) = some after) :
    Simulated inwards outwards ⟨joined, .network (.handle route), after⟩ := by
  simp only [step, carry, Option.bind_eq_some_iff, Option.map_eq_some_iff] at moved
  obtain ⟨network, carried, message, first, room, moved, rfl⟩ := moved
  obtain ⟨rest, waiting⟩ := List.head?_eq_some_iff.mp first
  have underway := follows.carried carried fun _ => ⟨rfl, rfl⟩
  have handed := (underway route).1
  simp only [Network.toRouter, if_true, waiting, List.take_succ_cons, List.take_zero, List.singleton_append] at handed
  obtain ⟨lost, found, behind⟩ := handed.next
  have popped : Follows { joined with network } (Function.update inwards route (inwards route + lost + 1)) outwards := by
    refine ⟨fun other => ?_, fun other => (underway other).2⟩
    by_cases own : other = route
    · subst own
      simpa [Network.toRouter] using behind
    · simpa [Network.toRouter, own] using (underway other).1
  obtain ⟨history, moves, run⟩ := @Star.hand_in _ _ _ _ _ _ _ _ system (joined.state inwards outwards)
    route lost message room found moved
  refine ⟨history, _, _, popped.setRoom moved, run, moves.hubs.trans ?_, moves.spokes⟩
  simp [roomMove, first, setRoom, state, system]

theorem simulated_deliver (follows : Follows joined inwards outwards)
    (moved : joined.step (.network (.deliver route)) = some after) :
    Simulated inwards outwards ⟨joined, .network (.deliver route), after⟩ := by
  simp only [step, carry, Option.bind_eq_some_iff, Option.map_eq_some_iff] at moved
  obtain ⟨network, carried, message, first, user, moved, rfl⟩ := moved
  obtain ⟨rest, waiting⟩ := List.head?_eq_some_iff.mp first
  have underway := follows.carried carried fun _ => ⟨rfl, rfl⟩
  have handed := (underway route).2
  simp only [Network.toDealer, if_true, waiting, List.take_succ_cons, List.take_zero, List.singleton_append] at handed
  obtain ⟨lost, found, behind⟩ := handed.next
  have popped : Follows { joined with network } inwards (Function.update outwards route (outwards route + lost + 1)) := by
    refine ⟨fun other => (underway other).1, fun other => ?_⟩
    by_cases own : other = route
    · subst own
      simpa [Network.toDealer] using behind
    · simpa [Network.toDealer, own] using (underway other).2
  obtain ⟨history, moves, run⟩ := @Star.hand_out _ _ _ _ _ _ _ _ system (joined.state inwards outwards)
    route lost message user found moved
  refine ⟨history, _, _, popped.setUser moved, run, moves.hubs, fun other => (moves.spokes other).trans ?_⟩
  by_cases own : route = other
  · subst own
    simp [userMove, first, setUser, state, system]
  · simp [userMove, own]

end Carried

theorem simulated_step (follows : Follows joined inwards outwards) (moved : joined.step label = some after) :
    Simulated inwards outwards ⟨joined, label, after⟩ := by
  cases label with
  | room label =>
    simp only [step, Option.ite_none_left_eq_some, Option.map_eq_some_iff] at moved
    obtain ⟨own, room, moved, rfl⟩ := moved
    have stepped : system.step (joined.state inwards outwards) (.hub label) =
        some ((joined.setRoom room).state inwards outwards) := by
      simp only [Star.step, system, state, own, moved]
      rfl
    exact ⟨_, _, _, follows.setRoom moved, Run.start.next stepped, Star.moves_one _⟩
  | user owner label =>
    simp only [step, Option.ite_none_left_eq_some, Option.map_eq_some_iff] at moved
    obtain ⟨own, user, moved, rfl⟩ := moved
    have stepped : system.step (joined.state inwards outwards) (.spoke owner label) =
        some ((joined.setUser owner user).state inwards outwards) := by
      simp only [Star.step, system, state, own, moved]
      rfl
    exact ⟨_, _, _, follows.setUser moved, Run.start.next stepped, Star.moves_one _⟩
  | network label =>
    obtain ⟨network, carried, moved⟩ := Option.bind_eq_some_iff.mp moved
    cases label with
    | handle source => exact simulated_handle follows (Option.bind_eq_some_iff.mpr ⟨network, carried, moved⟩)
    | deliver owner => exact simulated_deliver follows (Option.bind_eq_some_iff.mpr ⟨network, carried, moved⟩)
    | router | dealer =>
      obtain ⟨-, same⟩ := Option.ite_none_left_eq_some.mp moved
      cases same
      have underway := follows.carried carried fun _ => ⟨rfl, rfl⟩
      exact ⟨[], _, _, ⟨fun route => (underway route).1, fun route => (underway route).2⟩, .start, rfl, fun _ => rfl⟩
    | lost owner first second =>
      cases moved
      have underway := follows.carried carried fun _ => ⟨rfl, rfl⟩
      exact ⟨[], _, _, ⟨fun route => (underway route).1, fun route => (underway route).2⟩, .start, rfl, fun _ => rfl⟩
    | send | route => cases moved

/-- Every run of the servers over their channels is a run of the system in which each server makes the same
moves. What is under way in the channels is what the links have not passed, or a part of it, in order. -/
theorem channels_refine_links (history : List (Transition Joined Label)) (joined : Joined)
    (run : Run step {} history joined) :
    ∃ moves inwards outwards, Reaches moves (joined.state inwards outwards) ∧ Follows joined inwards outwards ∧
      roomMoves moves = history.filterMap roomMove ∧
      ∀ route, userMoves route moves = history.filterMap (userMove route) := by
  induction run with
  | start =>
    have empty : Follows {} (fun _ => 0) (fun _ => 0) :=
      ⟨fun _ => ⟨Nat.zero_le _, .slnil⟩, fun _ => ⟨Nat.zero_le _, .slnil⟩⟩
    exact ⟨[], _, _, .start, empty, rfl, fun _ => rfl⟩
  | next previous moved ih =>
    obtain ⟨moves, inwards, outwards, reached, follows, room, user⟩ := ih
    obtain ⟨more, _, _, follows', run, made⟩ := simulated_step follows moved
    refine ⟨moves ++ more, _, _, reached.append run, follows', ?_, fun route => ?_⟩
    · rw [filterMap_concat, ← room, ← made.hubs]
      exact List.filterMap_append
    · rw [filterMap_concat, ← user, ← made.spokes]
      exact List.filterMap_append

/-- A client asks for a room, and the request of its User server goes through both channels. -/
def asksOverChannels : List Label :=
  let turn := .turn false
  let dealer := .network (.dealer "u" turn)
  let router := .network (.router turn)
  [.network (.dealer "u" (.start false)), .network (.router (.start false))] ++ asksForRoom.map (.user "u") ++
    [dealer, dealer, dealer, dealer, router, router, router, .network (.handle "u")]

theorem channels_refine_links_asks :
    ∃ moves inwards outwards, Reaches moves ((final step {} asksOverChannels).state inwards outwards) ∧
      (roomMoves moves).map Transition.label = [.deliver "u" (.reqCreateRoom { requestId := 1, uid := "alice" })] := by
  have run : Run step {} (transitions step {} asksOverChannels) (final step {} asksOverChannels) :=
    run_of_enabled (by decide +kernel)
  obtain ⟨moves, inwards, outwards, reached, -, room, -⟩ := channels_refine_links _ _ run
  refine ⟨moves, inwards, outwards, reached, ?_⟩
  rw [room]
  decide +kernel

end Joined

end Rsp.Protocol
