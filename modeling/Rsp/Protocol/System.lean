import Rsp.Foundation.Star
import Rsp.RoomServer.Broadcasts
import Rsp.UserServer.Passing

/-! The Room server and the User servers, joined by the channels between them.

A User server is reached under the routing id of its dealer. The channels keep the order of
the messages of a route in each direction, and may lose messages or delay them.
-/

set_option autoImplicit false

namespace Rsp.Protocol

open Message Foundation
open scoped List

def sentTo (state : RoomServer.State) (route : RoutingId) : List ToUser :=
  (state.core.outgoing.filter fun frame => frame.destination = route).map RoomServer.Outgoing.message

theorem sentTo_grows {state after : RoomServer.State} {label : RoomServer.Label}
    (moved : RoomServer.step state label = some after) (route : RoutingId) : sentTo state route <+: sentTo after route :=
  ((RoomServer.outgoing_grows moved).filter _).map _

theorem outgoing_grows {state after : UserServer.State} {label : UserServer.Label}
    (moved : UserServer.step state label = some after) : state.core.outgoing <+: after.core.outgoing := by
  cases UserServer.moved_of_step moved with
  | arrived more records schedulers unasked outgoing pool inert quiet => exact outgoing ▸ List.prefix_rfl
  | expired now quiet => exact List.prefix_rfl
  | ran isRun split quiet executed =>
    rcases UserServer.outgoing_of_executed executed with same | ⟨message, more⟩ | ⟨message, -, more⟩
    · exact same ▸ List.prefix_rfl
    · exact ⟨_, more.symm⟩
    · exact ⟨_, more.symm⟩

def delivery : RoomServer.Label → Option (RoutingId × ToRoom)
  | .deliver source message => some (source, message)
  | _ => none

def system : Star RoomServer.State RoomServer.Label UserServer.State UserServer.Label RoutingId ToRoom ToUser where
  stepHub := RoomServer.step
  stepSpoke := UserServer.step
  sentHub := sentTo
  sentSpoke state := state.core.outgoing
  giveHub := .deliver
  giveSpoke := .deliver
  takenHub := delivery
  takenSpoke := UserServer.Label.message
  taken_giveHub _ _ := rfl
  taken_giveSpoke _ := rfl
  grows_hub _ _ _ moved route := sentTo_grows moved route
  grows_spoke _ _ _ moved := outgoing_grows moved

abbrev State := Star.State RoomServer.State UserServer.State RoutingId

abbrev Label := Star.Label RoomServer.Label UserServer.Label RoutingId

abbrev History := List (Transition State Label)

def initial : State := { hub := RoomServer.initial, spoke := fun _ => UserServer.initial }

abbrev Reaches (history : History) (state : State) : Prop := Run system.step initial history state

def roomMoves (history : History) : RoomServer.History := system.hubs history

def userMoves (route : RoutingId) (history : History) : UserServer.History := system.spokes route history

variable {history : History} {state : State}

theorem room_reached (run : Reaches history state) : RoomServer.Reaches (roomMoves history) state.hub :=
  system.run_hub run

theorem user_reached (route : RoutingId) (run : Reaches history state) :
    UserServer.Reaches (userMoves route history) (state.spoke route) :=
  system.run_spoke route run

theorem delivered_sublist (route : RoutingId) (run : Reaches history state) :
    UserServer.delivered (userMoves route history) <+ sentTo state.hub route :=
  (system.received_spoke route run rfl).trans (List.take_sublist _ _)

end Rsp.Protocol
