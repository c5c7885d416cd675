import Rsp.RoomServer.UserFrames
import Rsp.UserServer.RoomFrames

/-! Malformed buffers between the servers.

Neither channel drops a buffer that is no complete frame, nor a message that does not
parse. What such a buffer does is decided by the type `destruct_buffer` leaves and by the
fields the parser has read before it failed.
-/

set_option autoImplicit false

namespace Rsp.UserServer

open Message Foundation

def Codec.parses (self : Codec) (payload : RawBuffer) : Handler → Bool
  | .client .ping => (self.ping payload).2
  | .client .pong => (self.pong payload).2
  | .client .reqLogin => (self.reqLogin payload).2
  | .client .reqLogout => (self.reqLogout payload).2
  | .client .reqCreateRoom => (self.reqCreateRoom payload).2
  | .client .reqJoinRoom => (self.reqJoinRoom payload).2
  | .client .fwdRoom => (self.fwdRoom payload).2
  | .client .reqLeaveRoom => (self.reqLeaveRoom payload).2
  | .room .ping => (self.ping payload).2
  | .room .pong => (self.pong payload).2
  | .room .resCreateRoom => (self.resCreateRoom payload).2
  | .room .resJoinRoom => (self.resJoinRoom payload).2
  | .room .resLeaveRoom => (self.resLeaveRoom payload).2
  | .room .fwdClient => (self.fwdClient payload).2
  | .room .ntfLeaveRoom => (self.ntfLeaveRoom payload).2

def WellFormed (codec : Codec) (buffer : RawBuffer) : Prop :=
  (Serializer.destructBuffer buffer).status = .kComplete ∧
    ∃ handler, mainDispatcher.find (Serializer.destructBuffer buffer).type = some handler ∧
      codec.parses (Serializer.destructBuffer buffer).payload handler = true

/-- What the fields read from a payload meet: a handler facing the clients needs a session as soon as
the message parses, the others look for a pending request or for the session of a user. -/
def Meets (codec : Codec) (core : Core) (payload : RawBuffer) : Handler → Prop
  | .client handler => codec.parses payload (.client handler) = true
  | .room .ping => False
  | .room .pong => False
  | .room .resCreateRoom => core.requests.requests[(codec.resCreateRoom payload).1.requestId]? ≠ none
  | .room .resJoinRoom => core.requests.requests[(codec.resJoinRoom payload).1.requestId]? ≠ none
  | .room .resLeaveRoom => core.requests.requests[(codec.resLeaveRoom payload).1.requestId]? ≠ none
  | .room .fwdClient => core.manager.findSession (codec.fwdClient payload).1.uid ≠ none
  | .room .ntfLeaveRoom => core.manager.findSession (codec.ntfLeaveRoom payload).1.uid ≠ none

def Harmless (codec : Codec) (core : Core) (buffer : RawBuffer) : Prop :=
  ∃ handler, mainDispatcher.find (Serializer.destructBuffer buffer).type = some handler ∧
    ¬ Meets codec core (Serializer.destructBuffer buffer).payload handler

structure NoEffect (core : Core) (effect : Effect) : Prop where
  requests : effect.core.requests = core.requests
  jobs : effect.core.jobs = core.jobs
  done : items effect = []

theorem noEffect_waiter {core : Core} {id : Nat} (absent : core.requests.requests[id]? = none) (now : Nat)
    (response : ToUser) : NoEffect core (sendToWaiter now id response core) := by
  have taken : core.requests.complete id now = (core.requests, none) := by
    simp [PendingRequests.complete, PendingRequests.take, absent]
  simp only [sendToWaiter, taken]
  exact ⟨rfl, rfl, rfl⟩

theorem noEffect_session {core : Core} {uid : Uid} (absent : core.manager.findSession uid = none) (kind : JobKind) :
    NoEffect core (passToSession uid kind core) := by
  simp only [passToSession, absent]
  exact ⟨rfl, rfl, rfl⟩

theorem invoke_unparsed {codec : Codec} {payload : RawBuffer} {handler : ClientHandler}
    (broken : ¬ codec.parses payload (.client handler) = true) :
    invoke codec payload (.inl (.client handler)) = .ignored := by
  cases handler <;> exact if_neg broken

theorem invoke_parsed {codec : Codec} {payload : RawBuffer} {handler : ClientHandler}
    (parses : codec.parses payload (.client handler) = true) :
    ∃ message, invoke codec payload (.inl (.client handler)) = .session message := by
  cases handler <;> exact ⟨_, if_pos parses⟩

theorem noEffect_waiter_iff {core : Core} {id : Nat} (now : Nat) (response : ToUser) :
    NoEffect core (sendToWaiter now id response core) ↔ ¬ core.requests.requests[id]? ≠ none := by
  refine ⟨fun quiet known => ?_, fun absent => noEffect_waiter (not_not.mp absent) now response⟩
  -- The entry of a request that is completed is gone.
  have gone := PendingRequests.find_take core.requests id id
  have same : (core.requests.complete id now).1 = core.requests := quiet.requests
  rw [← PendingRequests.complete_fst core.requests id now, same, if_pos rfl] at gone
  exact known gone

theorem noEffect_session_iff {core : Core} {uid : Uid} (kind : JobKind) :
    NoEffect core (passToSession uid kind core) ↔ ¬ core.manager.findSession uid ≠ none := by
  refine ⟨fun quiet => ?_, fun absent => noEffect_session (not_not.mp absent) kind⟩
  have done := quiet.done
  cases found : core.manager.findSession uid with
  | none => exact not_not.mpr rfl
  | some session => simp [items, passToSession, found] at done

theorem noEffect_iff_harmless (codec : Codec) (buffer : RawBuffer) (core : Core) (now : Nat) :
    (∃ effect, onBuffer codec now buffer core = some effect ∧ NoEffect core effect) ↔ Harmless codec core buffer := by
  cases found : mainDispatcher.find (Serializer.destructBuffer buffer).type with
  | none =>
    -- The handler for unknown messages, which the client side registered, takes the link for a session.
    have called : dispatchFrame codec (Serializer.destructBuffer buffer).type
        (Serializer.destructBuffer buffer).payload = some .unknown := by
      rw [dispatchFrame, MessageDispatcher.dispatch_eq, found]
      rfl
    simp [onBuffer, called, Harmless, found]
  | some handler =>
    have called : dispatchFrame codec (Serializer.destructBuffer buffer).type
        (Serializer.destructBuffer buffer).payload =
          some (invoke codec (Serializer.destructBuffer buffer).payload (.inl handler)) := by
      rw [dispatchFrame, MessageDispatcher.dispatch_eq, found]
      rfl
    simp only [onBuffer, called, Harmless, found, Option.some.injEq, exists_eq_left']
    cases handler with
    | client handler =>
      by_cases parses : codec.parses (Serializer.destructBuffer buffer).payload (.client handler) = true
      · obtain ⟨message, call⟩ := invoke_parsed parses
        simp [call, Meets, parses]
      · rw [invoke_unparsed parses]
        exact ⟨fun _ => parses, fun _ => ⟨_, rfl, rfl, rfl, rfl⟩⟩
    | room handler =>
      cases handler with
      | ping | pong => exact ⟨fun _ => not_false, fun _ => ⟨_, rfl, rfl, rfl, rfl⟩⟩
      | resCreateRoom | resJoinRoom | resLeaveRoom =>
        simp only [invoke, onRecv, Option.some.injEq, exists_eq_left']
        exact noEffect_waiter_iff now _
      | fwdClient | ntfLeaveRoom =>
        simp only [invoke, onRecv, Option.some.injEq, exists_eq_left']
        exact noEffect_session_iff _

end Rsp.UserServer

namespace Rsp.Protocol

open Message Foundation

def readReqCreateRoom (payload : RawBuffer) : User2RoomReqCreateRoom × Bool :=
  let message := (readFields payload).1.foldl (fun message field =>
    match field with
    | (1, .varint value) => { message with requestId := value }
    | (3, .bytes value) => { message with uid := asciiString value }
    | _ => message) {}
  (message, (readFields payload).2)

def readResCreateRoom (payload : RawBuffer) : User2RoomResCreateRoom × Bool :=
  let message := (readFields payload).1.foldl (fun message field =>
    match field with
    | (1, .varint value) => { message with requestId := value }
    | (2, .bytes value) => { message with uid := asciiString value }
    | (3, .varint value) => { message with success := value ≠ 0 }
    | (4, .varint value) => { message with roomId := value % 2 ^ 32 }
    | _ => message) {}
  (message, (readFields payload).2)

def roomCodec : RoomServer.Codec := { reqCreateRoom := readReqCreateRoom }

def userCodec : UserServer.Codec := { resCreateRoom := readResCreateRoom }

def framed (type : MessageType) (payload : RawBuffer) : RawBuffer := (Serializer.serialize type payload).toOption.getD []

def brokenRequest : RawBuffer := framed .kUser2RoomReqCreateRoom [255]

def brokenResponse : RawBuffer := framed .kUser2RoomResCreateRoom [8, 1, 255]

def brokenPong : RawBuffer := framed .kPong [255]

theorem find_unknown : RoomServer.dispatcher.find (Serializer.destructBuffer brokenPong).type = none := by
  decide +kernel

theorem find_response : UserServer.mainDispatcher.find
    (Serializer.destructBuffer brokenResponse).type = some (.room .resCreateRoom) := by
  decide +kernel

theorem response_broken : ¬ UserServer.WellFormed userCodec brokenResponse := by
  rintro ⟨-, handler, found, parses⟩
  cases found.symm.trans find_response
  exact absurd parses (by decide +kernel)

/-- A malformed buffer has no effect on a server just if what is read from it meets nothing there: in
Room its type has no handler, its id is refused, its cancel leaves the registry as it is, or it is a
message of a user without a room, and in User it finds neither a pending request nor a user with a
session, nor does it parse as a client's message. -/
theorem malformed_buffers_without_effect (buffer : RawBuffer) (roomCodec : RoomServer.Codec)
    (choice : RoomServer.Choice) (source : RoutingId) (room : RoomServer.Core) (userCodec : UserServer.Codec)
    (now : Nat) (user : UserServer.Core) :
    (¬ RoomServer.WellFormed roomCodec buffer →
      ((∃ effect, RoomServer.onBuffer roomCodec choice source buffer room = some effect ∧
        RoomServer.NoEffect room effect) ↔ RoomServer.Harmless roomCodec choice.now source room buffer)) ∧
    (¬ UserServer.WellFormed userCodec buffer →
      ((∃ effect, UserServer.onBuffer userCodec now buffer user = some effect ∧ UserServer.NoEffect user effect) ↔
        UserServer.Harmless userCodec user buffer)) := by
  constructor
  · intro _
    exact RoomServer.noEffect_iff_harmless roomCodec buffer
  · intro _
    exact UserServer.noEffect_iff_harmless userCodec buffer user now

theorem malformed_buffers_without_effect_dropped :
    (∃ effect, RoomServer.onBuffer roomCodec {} "user" brokenPong {} = some effect ∧ RoomServer.NoEffect {} effect) ∧
    ∃ effect, UserServer.onBuffer userCodec 0 brokenResponse {} = some effect ∧ UserServer.NoEffect {} effect := by
  have malformed : ¬ RoomServer.WellFormed roomCodec brokenPong := by
    rintro ⟨-, handler, found, -⟩
    cases found.symm.trans find_unknown
  have unknown : RoomServer.Harmless roomCodec 0 "user" {} brokenPong := by
    intro handler found
    cases found.symm.trans find_unknown
  have unmet : UserServer.Harmless userCodec {} brokenResponse := by
    refine ⟨_, find_response, not_not.mpr ?_⟩
    exact Std.ExtTreeMap.getElem?_empty
  have pong := malformed_buffers_without_effect brokenPong roomCodec {} "user" {} {} 0 {}
  have response := malformed_buffers_without_effect brokenResponse {} {} "" {} userCodec 0 {}
  exact ⟨(pong.1 malformed).mpr unknown, (response.2 response_broken).mpr unmet⟩

/-- Room answers an empty buffer, admits a request that does not parse, and User completes a pending
request with a response that does not parse. -/
theorem malformed_buffers_take_effect :
    (¬ RoomServer.WellFormed {} [] ∧
      (RoomServer.onBuffer {} {} "user" [] {}).map (fun effect => effect.core.outgoing) =
        some [⟨"user", .kPong, .pong⟩]) ∧
    (¬ RoomServer.WellFormed roomCodec brokenRequest ∧
      (RoomServer.onBuffer roomCodec {} "user" brokenRequest {}).map (fun effect =>
          (effect.core.registry.active[(("user", 0) : RequestKey)]?, effect.next)) =
        some (some 0, [.handle ⟨"user", 0, .kUser2RoomResCreateRoom, 0⟩ (.createRoom {})])) ∧
    ¬ UserServer.WellFormed userCodec brokenResponse ∧
      (UserServer.onBuffer userCodec 0 brokenResponse
          { requests := ({} : PendingRequests UserServer.JobPtr).add 1 7 5 }).map (fun effect =>
          (effect.core.requests.requests[1]?, effect.next)) =
        some (none, [.postResponse 7 (.resCreateRoom { requestId := 1 })]) := by
  have empty : ¬ RoomServer.WellFormed {} [] := by
    intro formed
    exact absurd formed.1 (by decide)
  have create : ¬ RoomServer.WellFormed roomCodec brokenRequest := by
    have request : RoomServer.dispatcher.find (Serializer.destructBuffer brokenRequest).type = some .reqCreateRoom := by
      decide +kernel
    rintro ⟨-, handler, found, parses⟩
    cases found.symm.trans request
    exact absurd parses (by decide +kernel)
  exact ⟨⟨empty, by decide +kernel⟩, ⟨create, by decide +kernel⟩, response_broken, by decide +kernel⟩

end Rsp.Protocol
