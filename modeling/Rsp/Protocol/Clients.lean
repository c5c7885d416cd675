import Rsp.Client.View
import Rsp.Protocol.Overflow
import Rsp.Protocol.Soundness
import Rsp.UserServer.Replying

/-! The servers with their clients.

One Room server with the reference contents, one User server and any number of command-line
clients. A client and the User server are joined by a connection, which keeps the order of
the frames in both directions and loses none of them.
-/

set_option autoImplicit false

namespace Rsp.Protocol

open Message Foundation Client UserServer
open scoped List

/-- A client, with what it has sent so far. -/
structure Cli where
  session : ClientSession := ClientSession.start {}
  asked : List FromClient := []
  deriving DecidableEq, Repr

namespace Cli

inductive Label where
  | command (text : String)
  | dispatch (frame : ToClient)
  deriving DecidableEq, Repr

def step (self : Cli) : Label → Option Cli
  | .command text =>
      let (session, sent) := self.session.handleCommand text
      some ⟨session, self.asked ++ sent⟩
  | .dispatch frame =>
      let (session, sent) := self.session.dispatch (received frame)
      some ⟨session, self.asked ++ sent⟩

def Label.frame : Label → Option ToClient
  | .dispatch frame => some frame
  | .command _ => none

theorem step_command {self after : Cli} {text : String} (done : self.step (.command text) = some after) :
    after = ⟨(self.session.handleCommand text).1, self.asked ++ (self.session.handleCommand text).2⟩ :=
  (Option.some.inj done).symm

theorem step_dispatch {self after : Cli} {frame : ToClient} (done : self.step (.dispatch frame) = some after) :
    after = ⟨(self.session.dispatch (received frame)).1, self.asked⟩ := by
  have sent : after = ⟨(self.session.dispatch (received frame)).1,
    self.asked ++ (self.session.dispatch (received frame)).2⟩ := (Option.some.inj done).symm
  rw [sent, ClientSession.dispatch_silent, List.append_nil]

end Cli

namespace Clients

/-- The steps of the servers: a room calls its own interface as the reference contents do, and a
client sends nothing but frames of its own types. -/
def permits (route : RoutingId) (state : Protocol.State) : Protocol.Label → Bool
  | .hub (.api ptr call) => (state.hub.core.heap[ptr]?).any fun room => decide (Reacts room call)
  | .spoke owner (.receive _ (.session _)) => owner = route
  | .spoke _ (.receive ..) => false
  | .spoke owner _ => owner = route
  | _ => true

def serve (route : RoutingId) (state : Protocol.State) (label : Protocol.Label) : Option Protocol.State :=
  if permits route state label then system.step state label else none

def takes : Protocol.Label → Option (SessionPtr × FromClient)
  | .spoke _ (.receive conn (.session message)) => some (conn, message)
  | _ => none

section Serve

variable {route : RoutingId} {state after : Protocol.State} {label : Protocol.Label}

theorem serve_step (served : serve route state label = some after) :
    permits route state label = true ∧ system.step state label = some after := by
  unfold serve at served
  split at served
  · next permitted => exact ⟨permitted, served⟩
  · cases served

/-- The User server takes a step of its own, a frame of a client, a message of Room's, or none. -/
theorem spoke_of_serve (served : serve route state label = some after) :
    after.spoke route = state.spoke route ∨
      ∃ given, UserServer.step (state.spoke route) given = some (after.spoke route) ∧
        (∀ conn, given.frame conn = (takes label).bind fun taken => if taken.1 = conn then some taken.2 else none) ∧
        ∀ thread now, given = .run thread now → label = .spoke route given := by
  obtain ⟨permitted, moved⟩ := serve_step served
  cases system.stepped_of_step moved with
  | hub | lostIn | handedIn | lostOut => exact .inl rfl
  | @spoke owner given spoke own done =>
    have here : owner = route := by
      unfold permits at permitted
      split at permitted <;> simp_all
    subst here
    right
    refine ⟨given, ?_, ?_, fun thread now run => rfl⟩
    · rw [Star.setSpoke_self]
      exact done
    · intro conn
      cases given with
      | receive target call => cases call <;> rfl
      | _ => rfl
  | @handedOut owner message spoke next done =>
    by_cases here : owner = route
    · subst here
      right
      refine ⟨.deliver message, ?_, fun conn => rfl, fun thread now run => nomatch run⟩
      rw [Star.setSpoke_self]
      exact done
    · exact .inl (Star.setSpoke_other _ _ _ here)

theorem received_of_serve {conn : SessionPtr} {message : FromClient}
    (served : serve route state (.spoke route (.receive conn (.session message))) = some after) :
    UserServer.step (state.spoke route) (.receive conn (.session message)) = some (after.spoke route) := by
  cases Protocol.system.stepped_of_step (serve_step served).2 with
  | spoke own done =>
    rw [Star.setSpoke_self]
    exact done

end Serve

def system (route : RoutingId) : Star Protocol.State Protocol.Label Cli Cli.Label SessionPtr FromClient ToClient where
  stepHub := serve route
  stepSpoke := Cli.step
  sentHub state conn := (state.spoke route).core.written conn
  sentSpoke := Cli.asked
  giveHub conn message := .spoke route (.receive conn (.session message))
  giveSpoke := .dispatch
  takenHub := takes
  takenSpoke := Cli.Label.frame
  taken_giveHub _ _ := rfl
  taken_giveSpoke _ := rfl
  grows_hub _ _ _ served conn := by
    rcases spoke_of_serve served with same | ⟨given, done, -⟩
    · rw [same]
    · exact written_grows done conn
  grows_spoke state label after moved := by
    cases label <;> cases moved <;> exact List.prefix_append _ _

abbrev State := Star.State Protocol.State Cli SessionPtr

abbrev Label := Star.Label Protocol.Label Cli.Label SessionPtr

abbrev History := List (Transition State Label)

def initial : State := { hub := Protocol.initial, spoke := fun _ => {} }

def step (route : RoutingId) (state : State) (label : Label) : Option State :=
  match label with
  | .toHub _ true | .toSpoke _ true => none
  | label => (system route).step state label

abbrev Reaches (route : RoutingId) (history : History) (state : State) : Prop := Run (step route) initial history state

/-- A connection from the side of one client: the User server it leads to, and how far the messages of
either side have come. -/
structure Link where
  conn : SessionPtr
  user : UserServer.State
  cli : Cli
  inward : Nat
  outward : Nat

def link (route : RoutingId) (state : State) (conn : SessionPtr) : Link where
  conn := conn
  user := state.hub.spoke route
  cli := state.spoke conn
  inward := state.inward conn
  outward := state.outward conn

namespace Link

def written (self : Link) : List ToClient := self.user.core.written self.conn

def unread (self : Link) : List ToClient := self.written.drop self.outward

def upstream (self : Link) : List FromClient := self.cli.asked.drop self.inward

def outstanding (self : Link) : List FromClient :=
  (self.cli.asked.filter isRequest).drop (self.written.countP isReply)

def ahead (self : Link) : View := self.unread.foldl View.read self.cli.session.view

end Link

section Runs

variable {route : RoutingId} {history : History} {state : State}

theorem step_whole {after : State} {label : Label} (moved : step route state label = some after) :
    (system route).step state label = some after := by
  unfold step at moved
  split at moved
  · cases moved
  · cases moved
  · exact moved

theorem run_whole (run : Reaches route history state) : Run (system route).step initial history state :=
  run.mono fun _ _ _ => step_whole

theorem servers_reached (run : Reaches route history state) :
    ∃ moves, Protocol.Reaches moves state.hub ∧ Genuine moves := by
  have served : Run (serve route) Protocol.initial _ state.hub := (system route).run_hub (run_whole run)
  refine ⟨_, served.mono fun _ _ _ done => (serve_step done).2, ?_⟩
  intro move mem
  obtain ⟨permitted, -⟩ := serve_step (served.member mem)
  unfold permits at permitted
  unfold forges
  split
  · next label => simp [label] at permitted
  · rfl

theorem user_tracked (run : Reaches route history state) : Tracked (state.hub.spoke route) := by
  obtain ⟨moves, reached, -⟩ := servers_reached run
  exact tracked_reached (user_reached route reached)

/-- A response handed to a job names a room of a create only with a success. -/
theorem response_named (run : Reaches route history state) {ptr : JobPtr} {response : ToUser}
    (handed : Waiting (state.hub.spoke route) (.handleRes ptr response)) : RoomServer.NamesCreated response := by
  obtain ⟨moves, reached, genuine⟩ := servers_reached run
  have heard := (asking_reached (user_reached route reached)).heard _ response handed rfl
  have came := heard.resolve_right (genuine_uninjected genuine route response)
  obtain ⟨frame, mem, rfl⟩ := List.mem_map.mp ((delivered_sublist route reached).subset came)
  exact (RoomServer.naming_reached (room_reached reached)).frames frame (List.mem_of_mem_filter mem)

end Runs

/-! ## Steps seen from a connection -/

inductive Moves (route : RoutingId) (link : Link) (label : Label) (after : Link) : Prop where
  | aside (same : after = link)
  | served (given : UserServer.Label) (user : UserServer.State) (done : UserServer.step link.user given = some user)
      (foreign : given.frame link.conn = none)
      (shown : ∀ thread now, given = .run thread now → label = .hub (.spoke route given))
      (moved : after = { link with user })
  | taken (message : FromClient) (user : UserServer.State) (next : link.cli.asked[link.inward]? = some message)
      (done : UserServer.step link.user (.receive link.conn (.session message)) = some user)
      (moved : after = { link with user, inward := link.inward + 1 })
  | commanded (text : String) (cli : Cli) (isCommand : label = .spoke link.conn (.command text))
      (done : link.cli.step (.command text) = some cli) (moved : after = { link with cli })
  | dispatched (frame : ToClient) (cli : Cli) (isDispatch : label = .toSpoke link.conn false)
      (next : link.written[link.outward]? = some frame)
      (done : link.cli.step (.dispatch frame) = some cli)
      (moved : after = { link with cli, outward := link.outward + 1 })

theorem moves_of_step {route : RoutingId} {state after : State} {label : Label}
    (moved : step route state label = some after) (conn : SessionPtr) :
    Moves route (link route state conn) label (link route after conn) := by
  cases (system route).stepped_of_step (step_whole moved) with
  | @hub given hub own done =>
    rcases spoke_of_serve done with same | ⟨user, moves, frame, shown⟩
    · exact .aside (by simp [link, same])
    · refine .served user _ moves ?_ (fun thread now run => congrArg _ (shown thread now run)) rfl
      rw [frame, show takes given = none from own]
      rfl
  | @spoke owner given cli own done =>
    by_cases here : owner = conn
    · subst here
      cases given with
      | command text => exact .commanded text cli rfl done (by simp [link])
      | dispatch frame => cases own
    · exact .aside (by simp [link, Star.setSpoke_other _ _ _ here])
  | lostIn | lostOut => cases moved
  | @handedIn owner message hub next done =>
    have received := received_of_serve done
    by_cases here : owner = conn
    · subst here
      exact .taken message _ next received (by simp [link, Star.State.advanceIn])
    · refine .served _ _ received (if_neg here) ?_ ?_
      · intro thread now run
        cases run
      · simp [link, Star.State.advanceIn, Function.update_of_ne (Ne.symm here)]
  | @handedOut owner frame cli next done =>
    by_cases here : owner = conn
    · subst here
      exact .dispatched frame cli rfl next done (by simp [link, Star.State.advanceOut])
    · refine .aside ?_
      simp [link, Star.setSpoke_other _ _ _ here, Star.State.advanceOut, Function.update_of_ne (Ne.symm here)]

end Clients

end Rsp.Protocol
