import Rsp.Protocol.Order
import Rsp.RoomServer.Performance
import Rsp.UserServer.Asking

/-! A reported success is a success.

An id of a User server causes one execution of its request at most, a job is handed the
response of its own request, and a reply that reports a success was preceded by the change
it reports. The ids drawn, the messages on both channels and the registries of both sides
are related by the invariants of the two servers.
-/

set_option autoImplicit false

namespace Rsp.Protocol

open Message Foundation RoomServer UserServer
open scoped List

def forges : Label → Bool
  | .spoke _ (.receive _ (.room _)) => true
  | _ => false

/-- Frames of Room's come from Room only. -/
def Genuine (history : History) : Prop := ∀ move ∈ history, forges move.label = false

instance (history : History) : Decidable (Genuine history) := by
  unfold Genuine
  infer_instance

/-- The response is the one of the job's own request, of the type the job expects. -/
def Expected (core : UserServer.Core) (ptr : JobPtr) (response : ToUser) : Prop :=
  ∃ record, core.records[ptr]? = some record ∧ response.requestId = some record.roomRequestId ∧
    (record.kind.answer response).isSome = true

/-- The reply was made from the response to a job of the session, and Room had carried out that
job's request, for the uid the session had, in the way the response says. -/
def Justified (history : History) (state : State) (route : RoutingId) (session : SessionPtr) (frame : ToClient) : Prop :=
  ∃ (errand : Errand) (uid : Uid) (message : ToRoom) (response : ToUser) (request : Admitted),
    errand.session = session ∧ errand.Sent (userMoves route history) (state.spoke route).core uid message ∧
    errand.kind.answer response = some frame ∧ request.key = (route, errand.id) ∧
    CarriedOut request (roomMoves history) message response

section Requests

variable {history : History} {state : State}

theorem genuine_uninjected (genuine : Genuine history) (route : RoutingId) (message : ToUser) :
    ¬ Injected (userMoves route history) message := by
  rintro ⟨move, mem, conn, label⟩
  obtain ⟨whole, mem, made⟩ := List.mem_filterMap.mp mem
  have honest := genuine whole mem
  rw [Star.spokeMove] at made
  split at made
  · next owner given isSpoke =>
    split at made
    · cases made
      rw [isSpoke, show given = _ from label] at honest
      cases honest
    · cases made
  · next owner isHanded =>
    split at made
    · obtain ⟨message, -, rfl⟩ := Option.map_eq_some_iff.mp made
      cases label
    · cases made
  · cases made

theorem asks_requestOf (message : ToRoom) : asks message = (requestOf message).map Prod.fst := by
  cases message <;> rfl

theorem arrivals_on (route : RoutingId) (history : History) :
    ((arrivals (roomMoves history)).filterMap fun arrival => if arrival.1 = route then some arrival.2 else none) =
      system.receivedHub route history := by
  rw [arrivals, List.filterMap_filterMap, Star.receivedHub]
  apply List.filterMap_congr
  intro move mem
  cases move.label <;> simp [system, delivery]

theorem arrived_sent (run : Reaches history state) {route : RoutingId} {message : ToRoom}
    (arrived : (route, message) ∈ arrivals (roomMoves history)) : message ∈ (state.spoke route).core.outgoing := by
  have received : message ∈ system.receivedHub route history := by
    rw [← arrivals_on]
    exact List.mem_filterMap.mpr ⟨_, arrived, if_pos rfl⟩
  exact List.mem_of_mem_take ((system.received_hub route run rfl).subset received)

theorem requested_le (run : Reaches history state) (route : RoutingId) (id : Nat) :
    requested (route, id) (roomMoves history) ≤
      (state.spoke route).core.outgoing.countP fun message => asks message = some id := by
  have same : requested (route, id) (roomMoves history) =
      (system.receivedHub route history).countP fun message => asks message = some id := by
    rw [← arrivals_on, List.countP_filterMap, requested]
    apply List.countP_congr
    rintro ⟨source, message⟩ -
    by_cases here : source = route
    · cases found : requestOf message <;> simp [here, asks_requestOf, found]
    · cases found : requestOf message <;> simp [here]
  rw [same]
  exact ((system.received_hub route run rfl).trans (List.take_sublist _ _)).countP_le

theorem executed_once (run : Reaches history state) (route : RoutingId) (half : Half) (id : Nat) :
    executions half (route, id) (roomMoves history) ≤ 1 := by
  have counted := counted_reached (room_reached run) half (route, id)
  have asked := requested_le run route id
  have once := (asking_reached (user_reached route run)).once id
  unfold Counted at counted
  unfold posed at once
  split at once <;> omega

end Requests

section Responses

variable {history : History} {state : State} {route : RoutingId} {ptr : JobPtr} {id : Nat} {response : ToUser}

theorem request_answered {kind : JobKind} {uid : Uid} {message : ToRoom} (request : kind.request uid id = some message)
    (answer : answers message response) : (kind.answer response).isSome = true := by
  cases kind <;> cases request <;> cases response <;> first | rfl | cases answer

theorem answer_succeeds {kind : JobKind} {frame : ToClient} (answer : kind.answer response = some frame)
    (success : reportsSuccess frame = true) : succeeds response = true := by
  cases kind <;> cases response <;> cases answer <;> exact success

theorem answers_id {message : ToRoom} (answer : answers message response) : asks message = response.requestId := by
  cases message <;> cases response <;> first | cases answer | exact congrArg some (Eq.symm answer)

/-- A response that carries the id of a job answers the request of that job, and the change it reports was made. -/
theorem response_of_job (run : Reaches history state) (genuine : Genuine history)
    (heard : Heard (userMoves route history) response) (carries : response.requestId = some id)
    (drawn : Drawn (state.spoke route).core ptr id) :
    ∃ (errand : Errand) (uid : Uid) (message : ToRoom) (request : Admitted), errand.ptr = ptr ∧ errand.id = id ∧
      errand.Sent (userMoves route history) (state.spoke route).core uid message ∧ request.key = (route, id) ∧
      answers message response ∧ (succeeds response = true → CarriedOut request (roomMoves history) message response) := by
  have user := user_reached route run
  have came : response ∈ delivered (userMoves route history) :=
    heard.resolve_right (genuine_uninjected genuine route response)
  have sent : response ∈ sentTo state.hub route := (delivered_sublist route run).subset came
  obtain ⟨frame, mem, rfl⟩ := List.mem_map.mp sent
  obtain ⟨mem, here⟩ := List.mem_filter.mp mem
  obtain ⟨record, found, own, nonzero⟩ := drawn
  rcases (backed_reached (room_reached run)).frames frame mem with none | ⟨request, message, route', delivers, earns⟩
  · cases none.symm.trans carries
  rcases earns with late | ⟨answer, performed⟩
  · -- The response of a create that came too late carries no id, and jobs draw no zero.
    rw [late] at carries
    cases carries
    exact absurd rfl nonzero
  have destination : request.destination = route := route'.trans (by simpa using here)
  obtain ⟨arrived, first, serves⟩ := delivers
  rw [destination] at arrived
  have asked : asks message = some id := (answers_id answer).trans carries
  have same : request.requestId = id := by
    rw [asks_requestOf, serves] at asked
    exact Option.some.inj asked
  obtain ⟨errand, uid, posed, ran, requests⟩ :=
    (asking_reached user).made message (by simp [asked]) (.inr (arrived_sent run arrived))
  have drew : errand.id = id := Option.some.inj ((request_asks requests).symm.trans asked)
  have mine : errand.ptr = ptr := by
    obtain ⟨other, stored, -, -, drawn', nonzero'⟩ := posed
    have unique := (tracked_reached user).linked.unique errand.ptr ptr errand.id
    exact unique ⟨other, stored, drawn', nonzero'⟩ ⟨record, found, own.trans drew.symm, nonzero'⟩
  refine ⟨errand, uid, message, request, mine, drew, ⟨posed, ran, requests⟩, ?_, answer, performed⟩
  rw [Admitted.key, destination, same]

/-- What a job is handed is the response of its own request, of the type it expects. -/
theorem response_expected (run : Reaches history state) (genuine : Genuine history)
    (handed : Waiting (state.spoke route) (.handleRes ptr response)) :
    Expected (state.spoke route).core ptr response := by
  have user := user_reached route run
  obtain ⟨id, carries, drawn⟩ := (tracked_reached user).linked.items _ handed
  have heard := (asking_reached user).heard _ response handed rfl
  obtain ⟨errand, uid, message, request, rfl, rfl, ⟨posed, -, requests⟩, -, answer, -⟩ :=
    response_of_job run genuine heard carries drawn
  obtain ⟨record, found, -, kind, own, -⟩ := posed
  exact ⟨record, found, own ▸ carries, kind ▸ request_answered requests answer⟩

/-- A reply that reports a success was preceded by the change, made for the request of the job. -/
theorem success_performed (run : Reaches history state) (genuine : Genuine history) {session : SessionPtr}
    {frame : ToClient} (mem : (session, frame) ∈ (state.spoke route).core.sent)
    (success : reportsSuccess frame = true) : Justified history state route session frame := by
  obtain ⟨errand, response, owner, posed, answer, carries, heard⟩ :=
    (asking_reached (user_reached route run)).replies session frame mem success
  obtain ⟨record, found, session', kind, own, nonzero⟩ := posed
  obtain ⟨other, uid, message, request, ptr, id, sent, key, -, performed⟩ :=
    response_of_job run genuine heard carries ⟨record, found, own, nonzero⟩
  obtain ⟨record', found', session'', kind', -⟩ := sent.1
  rw [ptr] at found'
  cases found.symm.trans found'
  refine ⟨other, uid, message, response, request, ?_, sent, ?_, id ▸ key, performed (answer_succeeds answer success)⟩
  · rw [← session'', session', owner]
  · rw [← kind', kind, answer]

end Responses

/-- No half of a request is carried out twice, a job is handed only the response it expects, and a client is told
of a success only when the change was made for it. -/
theorem success_is_sound {history : History} {state : State} (run : Reaches history state) (genuine : Genuine history)
    (route : RoutingId) :
    (∀ half id, executions half (route, id) (roomMoves history) ≤ 1) ∧
    (∀ ptr response, Waiting (state.spoke route) (.handleRes ptr response) →
      Expected (state.spoke route).core ptr response) ∧
    ∀ session frame, (session, frame) ∈ (state.spoke route).core.sent → reportsSuccess frame = true →
      Justified history state route session frame := by
  refine ⟨executed_once run route, ?_, ?_⟩
  · intro ptr response handed
    exact response_expected run genuine handed
  · intro session frame mem success
    exact success_performed run genuine mem success

def createsAndGreets : List RoomServer.Label :=
  [.run .router {}, .run .router {}, .run .router {}, .run .router {}, .run .router {}, .run (.strand 0) {},
    .api 0 (.sendToUser ["alice"] "welcome"), .run (.strand 0) {}, .run (.strand 0) {}]

def greeting : List Label :=
  onRoute "u" asksForRoom ++ .toHub "u" false :: atRoom createsAndGreets ++
  .toSpoke "u" false :: onRoute "u" [.run .dealer 0, .run .dealer 0, .run (.strand 0) 0] ++
  .toSpoke "u" false :: onRoute "u" [.run .dealer 0, .run .dealer 0, .run (.strand 0) 0, .run (.strand 0) 0]

theorem success_is_sound_greeting :
    ∃ frame, (0, frame) ∈ ((final system.step initial greeting).spoke "u").core.sent ∧ reportsSuccess frame = true ∧
      executions .members ("u", 1) (roomMoves (transitions system.step initial greeting)) = 1 ∧
      Justified (transitions system.step initial greeting) (final system.step initial greeting) "u" 0 frame := by
  have run : Reaches (transitions system.step initial greeting) (final system.step initial greeting) :=
    run_of_enabled (by decide +kernel)
  have genuine : Genuine (transitions system.step initial greeting) := by decide +kernel
  obtain ⟨once, -, sound⟩ := success_is_sound run genuine "u"
  have told : (0, .resCreateRoom { requestId := 0, roomId := 10000, success := true }) ∈
      ((final system.step initial greeting).spoke "u").core.sent := by
    decide +kernel
  have executed : executions .members ("u", 1) (roomMoves (transitions system.step initial greeting)) ≠ 0 := by
    decide +kernel
  have bound := once .members 1
  exact ⟨_, told, rfl, by omega, sound 0 _ told rfl⟩

end Rsp.Protocol
