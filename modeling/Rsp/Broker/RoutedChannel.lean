import Mathlib.Logic.Function.Basic
import Rsp.Foundation.Conveyor
import Rsp.Message.Intranet

/-! One `router_channel` and the `dealer_channel`s connected to it.

Any thread fills the deque of a channel, and its worker empties it into the socket, between polls for what
the socket has received. They are interleaved at every access to `running_` and `outgoing_`. Between two
sockets a message keeps its place or is lost, since a socket does not linger when its worker ends.
-/

set_option autoImplicit false

namespace Rsp.Broker.Routed

open Message Foundation
open scoped List

/-- What `thread_` is about to do in `run`. Once it has left it, it is joinable until it is joined. -/
inductive Worker (Item : Type) where
  | absent
  | testing
  | swapping
  | sending (pending : List Item)
  | polling
  | finished
  deriving DecidableEq, Repr

structure Channel (Item : Type) where
  outgoing : List Item := []
  running : Bool := false
  worker : Worker Item := .absent
  deriving DecidableEq, Repr

/-- The calls of the owner and the turns of the worker; `thrown` is an exception of the socket. -/
inductive Operation where
  | start (thrown : Bool)
  | stop
  | join
  | turn (thrown : Bool)
  deriving DecidableEq, Repr

def Operation.isTurn : Operation → Bool
  | .turn _ => true
  | _ => false

def Operation.faultless : Operation → Bool
  | .turn thrown => !thrown
  | _ => true

namespace Channel

variable {Item : Type}

def send (self : Channel Item) (item : Item) : Channel Item := { self with outgoing := self.outgoing ++ [item] }

/-- `start`, which waits for the worker. Assigning to a `thread_` that is joinable ends the process. -/
def start (thrown : Bool) (self : Channel Item) : Option (Channel Item) :=
  match self.running, self.worker with
  | true, _ => some self
  | false, .absent => some (if thrown then self else { self with running := true, worker := .testing })
  | false, _ => none

/-- The end of `stop` and of `wait`, which block until the worker has left `run`. -/
def join (self : Channel Item) : Option (Channel Item) :=
  match self.worker with
  | .absent => some self
  | .finished => some { self with worker := .absent }
  | _ => none

def fail (self : Channel Item) : Channel Item := { self with running := false, worker := .finished }

/-- A turn of `run` or of `send_pending`, which `run` calls, and what it gave to the socket. When a send throws
a router skips the message, and a dealer leaves the loop. -/
def turn (skips thrown : Bool) (self : Channel Item) : Option (Channel Item × Option Item) :=
  match self.worker with
  | .testing => some ({ self with worker := if self.running then .swapping else .finished }, none)
  | .swapping => some ({ self with outgoing := [], worker := .sending self.outgoing }, none)
  | .sending (item :: rest) =>
      if !thrown then some ({ self with worker := .sending rest }, some item)
      else if skips then some ({ self with worker := .sending rest }, none)
      else some (self.fail, none)
  | .sending [] => some ({ self with worker := .polling }, none)
  | .polling => some (if thrown then self.fail else { self with worker := .testing }, none)
  | .absent => none
  | .finished => none

/-- A poll that found something for `handler_`. -/
def receive (self : Channel Item) : Option (Channel Item) :=
  match self.worker with
  | .polling => some { self with worker := .testing }
  | _ => none

def operate (skips : Bool) (self : Channel Item) : Operation → Option (Channel Item × Option Item)
  | .start thrown => (self.start thrown).map (·, none)
  | .stop => some ({ self with running := false }, none)
  | .join => self.join.map (·, none)
  | .turn thrown => self.turn skips thrown

def dealerChannel (self : Channel Item) : Operation → Option (Channel Item × Option Item) := self.operate false

def routerChannel (self : Channel Item) : Operation → Option (Channel Item × Option Item) := self.operate true

/-! ## What a channel holds -/

/-- What was sent and is not yet with the socket, the next one first. -/
def held (self : Channel Item) : List Item :=
  match self.worker with
  | .sending pending => pending ++ self.outgoing
  | _ => self.outgoing

theorem held_send (self : Channel Item) (item : Item) : (self.send item).held = self.held ++ [item] := by
  unfold held send
  split <;> simp_all

theorem held_receive {self after : Channel Item} (polled : self.receive = some after) : after.held = self.held := by
  unfold receive at polled
  split at polled <;> cases polled
  simp_all [held]

theorem held_start {thrown : Bool} {self after : Channel Item} (started : self.start thrown = some after) :
    after.held = self.held := by
  unfold start at started
  split at started <;> cases started <;> cases thrown <;> simp_all [held]

theorem held_join {self after : Channel Item} (joined : self.join = some after) : after.held = self.held := by
  unfold join at joined
  split at joined <;> cases joined <;> simp_all [held]

theorem held_turn {skips thrown : Bool} {self after : Channel Item} {sent : Option Item}
    (turned : self.turn skips thrown = some (after, sent)) :
    sent.toList ++ after.held <+ self.held ∧ (thrown = false → sent.toList ++ after.held = self.held) := by
  unfold turn at turned
  -- of the turns only a send moves anything to the socket, and the swap only renames what is held
  split at turned <;> (repeat' split at turned) <;> cases turned <;> simp_all [held, fail]

theorem held_operate {skips : Bool} {self after : Channel Item} {operation : Operation} {sent : Option Item}
    (operated : self.operate skips operation = some (after, sent)) :
    sent.toList ++ after.held <+ self.held ∧
      (operation.faultless = true → sent.toList ++ after.held = self.held) := by
  cases operation with
  | turn thrown => simpa [Operation.faultless] using held_turn operated
  | start thrown =>
    obtain ⟨_, started, same⟩ := Option.map_eq_some_iff.mp operated
    cases same
    simp [held_start started]
  | join =>
    obtain ⟨_, joined, same⟩ := Option.map_eq_some_iff.mp operated
    cases same
    simp [held_join joined]
  | stop =>
    cases operated
    exact ⟨.refl _, fun _ => rfl⟩

end Channel

/-! ## The sockets -/

variable {ToRouter ToDealer : Type}

/-- `inward` and `outward` are what is on the wire of a route, the next message first. -/
structure Network (ToRouter ToDealer : Type) where
  router : Channel (RoutingId × ToDealer) := {}
  dealer : RoutingId → Channel ToRouter := fun _ => {}
  inward : RoutingId → List ToRouter := fun _ => []
  outward : RoutingId → List ToDealer := fun _ => []

/-- `send` and `route` call `send` of a dealer and of the router; in `handle` and `deliver` the router and a
dealer call their handlers. -/
inductive Label (ToRouter ToDealer : Type) where
  | send (route : RoutingId) (message : ToRouter)
  | route (destination : RoutingId) (message : ToDealer)
  | dealer (route : RoutingId) (operation : Operation)
  | router (operation : Operation)
  | handle (source : RoutingId)
  | deliver (route : RoutingId)
  | lost (route : RoutingId) (inward outward : Nat)

def Label.faultless : Label ToRouter ToDealer → Bool
  | .dealer _ operation => operation.faultless
  | .router operation => operation.faultless
  | .lost _ _ _ => false
  | _ => true

def messagesTo (route : RoutingId) (frames : List (RoutingId × ToDealer)) : List ToDealer :=
  frames.filterMap fun frame => if route = frame.1 then some frame.2 else none

namespace Network

def send (self : Network ToRouter ToDealer) (route : RoutingId) (message : ToRouter) : Network ToRouter ToDealer :=
  { self with dealer := Function.update self.dealer route ((self.dealer route).send message) }

def route (self : Network ToRouter ToDealer) (destination : RoutingId) (message : ToDealer) :
    Network ToRouter ToDealer :=
  { self with router := self.router.send (destination, message) }

def step (self : Network ToRouter ToDealer) : Label ToRouter ToDealer → Option (Network ToRouter ToDealer)
  | .send route message => some (self.send route message)
  | .route destination message => some (self.route destination message)
  | .dealer route operation =>
      ((self.dealer route).dealerChannel operation).map fun (dealer, sent) =>
        { self with
          dealer := Function.update self.dealer route dealer
          inward := Function.update self.inward route (self.inward route ++ sent.toList) }
  | .router operation =>
      (self.router.routerChannel operation).map fun (router, sent) =>
        { self with router, outward := fun route => self.outward route ++ messagesTo route sent.toList }
  | .handle source =>
      if self.inward source = [] then none
      else self.router.receive.map fun router =>
        { self with router, inward := Function.update self.inward source (self.inward source).tail }
  | .deliver route =>
      if self.outward route = [] then none
      else (self.dealer route).receive.map fun dealer =>
        { self with
          dealer := Function.update self.dealer route dealer
          outward := Function.update self.outward route (self.outward route).tail }
  | .lost route inward outward =>
      some { self with
        inward := Function.update self.inward route ((self.inward route).eraseIdx inward)
        outward := Function.update self.outward route ((self.outward route).eraseIdx outward) }

def toRouter (route : RoutingId) : Conveyor (Network ToRouter ToDealer) (Label ToRouter ToDealer) ToRouter where
  taken move := match move.label with
    | .send owner message => if route = owner then [message] else []
    | _ => []
  given move := match move.label with
    | .handle source => if route = source then (move.before.inward route).take 1 else []
    | _ => []
  held network := network.inward route ++ (network.dealer route).held

def toDealer (route : RoutingId) : Conveyor (Network ToRouter ToDealer) (Label ToRouter ToDealer) ToDealer where
  taken move := match move.label with
    | .route destination message => if route = destination then [message] else []
    | _ => []
  given move := match move.label with
    | .deliver owner => if route = owner then (move.before.outward route).take 1 else []
    | _ => []
  held network := network.outward route ++ messagesTo route network.router.held

variable {network after : Network ToRouter ToDealer} {label : Label ToRouter ToDealer} {route : RoutingId}

theorem toRouter_keeps (moved : network.step label = some after) :
    (toRouter route).Keeps label.faultless ⟨network, label, after⟩ := by
  cases label with
  | send owner message =>
    cases moved
    by_cases own : route = owner <;> constructor <;> simp [toRouter, own, Network.send, Channel.held_send]
  | dealer owner operation =>
    obtain ⟨⟨dealer, sent⟩, operated, rfl⟩ := Option.map_eq_some_iff.mp moved
    by_cases own : route = owner
    · subst own
      constructor
      · simpa [toRouter] using (Channel.held_operate operated).1
      · intro faultless
        simpa [toRouter] using (Channel.held_operate operated).2 faultless
    · constructor <;> simp [toRouter, own]
  | handle source =>
    simp only [step, Option.ite_none_left_eq_some, Option.map_eq_some_iff] at moved
    obtain ⟨waiting, router, polled, rfl⟩ := moved
    by_cases own : route = source
    · -- the handler takes the head of the wire
      subst own
      constructor <;> simp [toRouter, ← List.append_assoc, ← List.drop_one]
    · constructor <;> simp [toRouter, own]
  | deliver owner =>
    simp only [step, Option.ite_none_left_eq_some, Option.map_eq_some_iff] at moved
    obtain ⟨waiting, dealer, polled, rfl⟩ := moved
    by_cases own : route = owner <;> constructor <;> simp [toRouter, own, Channel.held_receive polled]
  | lost owner first second =>
    cases moved
    refine ⟨?_, Bool.noConfusion⟩
    by_cases own : route = owner
    · subst own
      simpa [toRouter] using List.eraseIdx_sublist _ first
    · simp [toRouter, own]
  | route destination message =>
    cases moved
    constructor <;> simp [toRouter, Network.route]
  | router operation =>
    obtain ⟨⟨router, sent⟩, operated, rfl⟩ := Option.map_eq_some_iff.mp moved
    constructor <;> simp [toRouter]

theorem toDealer_keeps (moved : network.step label = some after) :
    (toDealer route).Keeps label.faultless ⟨network, label, after⟩ := by
  cases label with
  | route destination message =>
    cases moved
    by_cases own : route = destination <;> constructor <;>
      simp [toDealer, own, Network.route, Channel.held_send, messagesTo]
  | router operation =>
    -- what the worker sends and keeps for this route is a part of the one deque
    obtain ⟨⟨router, sent⟩, operated, rfl⟩ := Option.map_eq_some_iff.mp moved
    have ordered := (Channel.held_operate operated).1.filterMap fun frame =>
      if route = frame.1 then some frame.2 else none
    constructor
    · simpa [toDealer, messagesTo] using ordered
    · intro faultless
      simp [toDealer, ← (Channel.held_operate operated).2 faultless, messagesTo]
  | deliver owner =>
    simp only [step, Option.ite_none_left_eq_some, Option.map_eq_some_iff] at moved
    obtain ⟨waiting, dealer, polled, rfl⟩ := moved
    by_cases own : route = owner
    · subst own
      constructor <;> simp [toDealer, ← List.append_assoc, ← List.drop_one]
    · constructor <;> simp [toDealer, own]
  | handle source =>
    simp only [step, Option.ite_none_left_eq_some, Option.map_eq_some_iff] at moved
    obtain ⟨waiting, router, polled, rfl⟩ := moved
    constructor <;> simp [toDealer, Channel.held_receive polled]
  | lost owner first second =>
    cases moved
    refine ⟨?_, Bool.noConfusion⟩
    by_cases own : route = owner
    · subst own
      simpa [toDealer] using List.eraseIdx_sublist _ second
    · simp [toDealer, own]
  | send owner message =>
    cases moved
    constructor <;> simp [toDealer, Network.send]
  | dealer owner operation =>
    obtain ⟨⟨dealer, sent⟩, operated, rfl⟩ := Option.map_eq_some_iff.mp moved
    constructor <;> simp [toDealer]

/-- What the handlers are given of a route, followed by what is under way on it, is a part of what was sent
on it, in order and without repetition. It is all of it as long as no socket throws and no wire loses. -/
theorem channels_keep_order (history : List (Transition (Network ToRouter ToDealer) (Label ToRouter ToDealer)))
    (network : Network ToRouter ToDealer) (run : Run step {} history network) (route : RoutingId) :
    (toRouter route).Conveys Label.faultless history network ∧
      (toDealer route).Conveys Label.faultless history network := by
  constructor
  · exact Conveyor.conveys _ run rfl fun _ _ _ => toRouter_keeps
  · exact Conveyor.conveys _ run rfl fun _ _ _ => toDealer_keeps

def twoSent : List (Label Nat Nat) :=
  let turn := .turn false
  [.dealer "u" (.start false), .router (.start false), .send "u" 1, .send "u" 2, .dealer "u" turn, .dealer "u" turn,
    .dealer "u" turn, .dealer "u" turn, .router turn, .router turn, .router turn, .handle "u"]

theorem channels_keep_order_twoSent :
    (transitions step {} twoSent).flatMap (toRouter "u").given = [1] ∧
      (transitions step {} twoSent).flatMap (toRouter "u").given ++ (toRouter "u").held (final step {} twoSent) =
        [1, 2] := by
  have run : (execute step {} twoSent).isSome := by decide +kernel
  have faultless : ∀ label ∈ twoSent, label.faultless = true := by decide
  refine ⟨by decide +kernel, ?_⟩
  rw [(channels_keep_order _ _ (run_of_enabled run) "u").1.whole fun _ mem => faultless _ (label_of_transition mem)]
  decide +kernel

end Network

end Rsp.Broker.Routed
