import Rsp.Foundation.Protobuf
import Rsp.Message.Dispatcher
import Rsp.UserServer.Server

/-! How a client's frame finds its handler.

The dispatcher of `room_channel` and the one facing the clients register in the same
table, in the order of `main`. A type only the former registers is therefore also
handled by `room_channel` when it comes from a client.
-/

set_option autoImplicit false

namespace Rsp.UserServer

open Message Foundation

/-- `ParseFromIstream`: what the message object holds afterwards, and the result. -/
abbrev Parser (Message : Type) := RawBuffer → Message × Bool

structure Codec where
  ping : Parser Unit := fun _ => ((), true)
  pong : Parser Unit := fun _ => ((), true)
  reqLogin : Parser ReqLogin := fun _ => ({}, true)
  reqLogout : Parser ReqLogout := fun _ => ({}, true)
  reqCreateRoom : Parser ReqCreateRoom := fun _ => ({}, true)
  reqJoinRoom : Parser ReqJoinRoom := fun _ => ({}, true)
  fwdRoom : Parser FwdRoom := fun _ => ({}, true)
  reqLeaveRoom : Parser ReqLeaveRoom := fun _ => ({}, true)
  resCreateRoom : Parser User2RoomResCreateRoom := fun _ => ({}, true)
  resJoinRoom : Parser User2RoomResJoinRoom := fun _ => ({}, true)
  resLeaveRoom : Parser User2RoomResLeaveRoom := fun _ => ({}, true)
  fwdClient : Parser User2RoomFwdClient := fun _ => ({}, true)
  ntfLeaveRoom : Parser User2RoomNtfLeaveRoom := fun _ => ({}, true)

/-- `handle_buffer<T>` of `message_dispatcher<room_channel>`, by `T`. -/
inductive RoomHandler where
  | ping
  | pong
  | resCreateRoom
  | resJoinRoom
  | resLeaveRoom
  | fwdClient
  | ntfLeaveRoom
  deriving DecidableEq, Repr

/-- `handle_buffer<T>` of the dispatcher facing the clients, by `T`. -/
inductive ClientHandler where
  | ping
  | pong
  | reqLogin
  | reqLogout
  | reqCreateRoom
  | reqJoinRoom
  | fwdRoom
  | reqLeaveRoom
  deriving DecidableEq, Repr

inductive Handler where
  | room (handler : RoomHandler)
  | client (handler : ClientHandler)
  deriving DecidableEq, Repr

inductive UnknownHandler where
  | room
  | client
  deriving DecidableEq, Repr

abbrev Dispatcher := MessageDispatcher Handler UnknownHandler

def roomHandlers : List (MessageType × Handler) :=
  [(.kPing, .room .ping),
    (.kPong, .room .pong),
    (.kUser2RoomResCreateRoom, .room .resCreateRoom),
    (.kUser2RoomResJoinRoom, .room .resJoinRoom),
    (.kUser2RoomResLeaveRoom, .room .resLeaveRoom),
    (.kUser2RoomFwdClient, .room .fwdClient),
    (.kUser2RoomNtfLeaveRoom, .room .ntfLeaveRoom)]

def clientHandlers : List (MessageType × Handler) :=
  [(.kPing, .client .ping),
    (.kPong, .client .pong),
    (.kReqLogin, .client .reqLogin),
    (.kReqLogout, .client .reqLogout),
    (.kReqCreateRoom, .client .reqCreateRoom),
    (.kReqJoinRoom, .client .reqJoinRoom),
    (.kFwdRoom, .client .fwdRoom),
    (.kReqLeaveRoom, .client .reqLeaveRoom)]

/-- The constructor of `message_dispatcher<room_channel>`. -/
def registerRoomChannel (dispatcher : Dispatcher) : Dispatcher :=
  (dispatcher.registerHandlers roomHandlers).registerUnknownMessageHandler .room

/-- The constructor of the dispatcher facing the clients. -/
def registerClient (dispatcher : Dispatcher) : Dispatcher :=
  (dispatcher.registerHandlers clientHandlers).registerUnknownMessageHandler .client

/-- The table after the registrations of `main`. -/
def mainDispatcher : Dispatcher := registerClient (registerRoomChannel {})

def parsed {Message : Type} (result : Message × Bool) (wrap : Message → FromClient) : Invocation :=
  if result.2 then .session (wrap result.1) else .ignored

/-- What a handler does with a payload; `room_channel` does not look at the result of parsing. -/
def invoke (codec : Codec) (payload : RawBuffer) : Handler ⊕ UnknownHandler → Invocation
  | .inl (.client .ping) => parsed (codec.ping payload) fun _ => .ping
  | .inl (.client .pong) => parsed (codec.pong payload) fun _ => .pong
  | .inl (.client .reqLogin) => parsed (codec.reqLogin payload) .reqLogin
  | .inl (.client .reqLogout) => parsed (codec.reqLogout payload) .reqLogout
  | .inl (.client .reqCreateRoom) => parsed (codec.reqCreateRoom payload) .reqCreateRoom
  | .inl (.client .reqJoinRoom) => parsed (codec.reqJoinRoom payload) .reqJoinRoom
  | .inl (.client .fwdRoom) => parsed (codec.fwdRoom payload) .fwdRoom
  | .inl (.client .reqLeaveRoom) => parsed (codec.reqLeaveRoom payload) .reqLeaveRoom
  | .inl (.room .ping) => .ignored
  | .inl (.room .pong) => .ignored
  -- these take the fields whether or not the payload parsed
  | .inl (.room .resCreateRoom) => .room (.resCreateRoom (codec.resCreateRoom payload).1)
  | .inl (.room .resJoinRoom) => .room (.resJoinRoom (codec.resJoinRoom payload).1)
  | .inl (.room .resLeaveRoom) => .room (.resLeaveRoom (codec.resLeaveRoom payload).1)
  | .inl (.room .fwdClient) => .room (.fwdClient (codec.fwdClient payload).1)
  | .inl (.room .ntfLeaveRoom) => .room (.ntfLeaveRoom (codec.ntfLeaveRoom payload).1)
  | .inr .client => .unknown
  | .inr .room => .ignored

def dispatchFrame (codec : Codec) (type : MessageType) (payload : RawBuffer) : Option Invocation :=
  (mainDispatcher.dispatch type).map (invoke codec payload)

/-! ## Confinement -/

/-- The types only `room_channel` registers. -/
def roomTypes : List MessageType :=
  [.kUser2RoomResCreateRoom, .kUser2RoomResJoinRoom, .kUser2RoomResLeaveRoom, .kUser2RoomFwdClient,
    .kUser2RoomNtfLeaveRoom]

def Handler.facesClient : Handler ⊕ UnknownHandler → Bool
  | .inl (.client _) => true
  | .inl (.room _) => false
  | .inr .client => true
  | .inr .room => false

/-- The work of a client's frame stays with its own session: at most one job is enqueued there,
or one frame sent back. -/
structure Confined (conn : SessionPtr) (core : Core) (effect : Effect) : Prop where
  manager : effect.core.manager = core.manager
  sessions : effect.core.sessions = core.sessions
  requests : effect.core.requests = core.requests
  outgoing : effect.core.outgoing = core.outgoing
  next : effect.next = []
  work : (effect.posts = [] ∧ effect.core.jobs = core.jobs ∧ ∃ frames, effect.core.sent = core.sent ++ frames ∧
      ∀ frame ∈ frames, frame.1 = conn) ∨
    ∃ job, job.session = conn ∧ effect.posts = [(.strand conn, .pushAndRun core.jobs.length)] ∧
      effect.core.jobs = core.jobs ++ [job] ∧ effect.core.sent = core.sent

/-- Every type has a handler, and it faces the clients unless only `room_channel` registers the type. -/
theorem dispatch_main (type : MessageType) : ∃ handler, mainDispatcher.dispatch type = some handler ∧
    (Handler.facesClient handler = true ↔ type ∉ roomTypes) := by
  have clientOnly : ∀ entry ∈ clientHandlers, entry.1 ∉ roomTypes ∧ Handler.facesClient (.inl entry.2) = true := by
    decide
  have roomOnly : ∀ entry ∈ roomHandlers, (entry.1 ∈ roomTypes ∨ ∃ other ∈ clientHandlers, other.1 = entry.1) ∧
      Handler.facesClient (.inl entry.2) = false := by decide
  have registered : ∀ reserved ∈ roomTypes, ∃ entry ∈ roomHandlers, entry.1 = reserved := by decide
  have table : mainDispatcher.find type = ((registerRoomChannel {}).registerHandlers clientHandlers).find type := rfl
  have earlier : (registerRoomChannel {}).find type = (({} : Dispatcher).registerHandlers roomHandlers).find type := rfl
  rw [MessageDispatcher.dispatch_eq, table]
  rcases (registerRoomChannel {}).find_registerHandlers clientHandlers type with
    ⟨entry, mem, rfl, found⟩ | ⟨absent, found⟩
  · rw [found]
    exact ⟨_, rfl, iff_of_true (clientOnly entry mem).2 (clientOnly entry mem).1⟩
  rw [found, earlier]
  rcases ({} : Dispatcher).find_registerHandlers roomHandlers type with
    ⟨entry, mem, rfl, found⟩ | ⟨unregistered, found⟩
  · rw [found]
    refine ⟨_, rfl, iff_of_false (by simp [(roomOnly entry mem).2]) ?_⟩
    rcases (roomOnly entry mem).1 with only | ⟨other, known, same⟩
    · exact not_not_intro only
    · exact absurd same (absent other known)
  · rw [found]
    refine ⟨.inr .client, by simp [MessageDispatcher.find]; rfl, iff_of_true rfl ?_⟩
    intro reserved
    obtain ⟨entry, mem, same⟩ := registered type reserved
    exact unregistered entry mem same

/-- A frame of a connection invokes a handler facing the clients, and whatever that handler does
stays with the session of the connection. -/
def ConfinedFrame (codec : Codec) (conn : SessionPtr) (type : MessageType) (payload : RawBuffer) : Prop :=
  ∃ handler, mainDispatcher.dispatch type = some handler ∧ Handler.facesClient handler = true ∧
    ∀ state after, step state (.receive conn (invoke codec payload handler)) = some after →
      after.core = state.core ∧ ∃ tasks : List Task, after.pool = state.pool ++ tasks.map (Prod.mk (.conn conn)) ∧
        ∀ task ∈ tasks, ∀ now core effect, exec now task core = some effect → Confined conn core effect

theorem confined_enqueue (core : Core) (conn : SessionPtr) (kind : JobKind) :
    Confined conn core (core.enqueueJob conn kind) :=
  ⟨rfl, rfl, rfl, rfl, rfl, .inr ⟨{ session := conn, kind }, rfl, rfl, rfl, rfl⟩⟩

theorem confined_onSessionRecv (core : Core) (conn : SessionPtr) (message : FromClient) :
    Confined conn core (onSessionRecv conn message core) := by
  cases message with
  | ping => exact ⟨rfl, rfl, rfl, rfl, rfl, .inl ⟨rfl, rfl, [(conn, .pong)], rfl, by simp⟩⟩
  | pong => exact ⟨rfl, rfl, rfl, rfl, rfl, .inl ⟨rfl, rfl, [], by simp [onSessionRecv], by simp⟩⟩
  | reqLogin | reqLogout | reqCreateRoom | reqJoinRoom | fwdRoom | reqLeaveRoom => exact confined_enqueue core conn _

/-- The handlers facing the clients only call the session of the link they are given. -/
theorem invoke_facesClient (codec : Codec) (payload : RawBuffer) {handler : Handler ⊕ UnknownHandler}
    (faces : Handler.facesClient handler = true) :
    (∃ message, invoke codec payload handler = .session message) ∨ invoke codec payload handler = .unknown ∨
      invoke codec payload handler = .ignored := by
  have client : ∀ {Message : Type} (result : Message × Bool) wrap, (∃ message, parsed result wrap = .session message) ∨
      parsed result wrap = .unknown ∨ parsed result wrap = .ignored := by
    intro Message result wrap
    simp only [parsed]
    split
    · exact .inl ⟨_, rfl⟩
    · exact .inr (.inr rfl)
  match handler with
  | .inl (.client kind) =>
    cases kind <;>
    · simp only [invoke]
      exact client _ _
  | .inr .client => exact .inr (.inl rfl)
  | .inl (.room _) => cases faces
  | .inr .room => cases faces

/-- A frame of a client stays with the session of its connection exactly when `room_channel` has no handler for
its type. -/
theorem client_confinement (codec : Codec) (conn : SessionPtr) (type : MessageType) (payload : RawBuffer) :
    ConfinedFrame codec conn type payload ↔ type ∉ roomTypes := by
  obtain ⟨handler, found, confined⟩ := dispatch_main type
  constructor
  · rintro ⟨other, same, faces, -⟩
    cases found.symm.trans same
    exact confined.mp faces
  · intro allowed
    have faces := confined.mpr allowed
    refine ⟨handler, found, faces, ?_⟩
    intro state after moved
    simp only [step] at moved
    split at moved
    · cases moved
      refine ⟨rfl, _, rfl, ?_⟩
      intro task mem now core effect done
      rcases invoke_facesClient codec payload faces with ⟨message, call⟩ | call | call <;> rw [call] at mem
      · obtain rfl := List.mem_singleton.mp mem
        cases done
        exact confined_onSessionRecv core conn message
      · obtain rfl := List.mem_singleton.mp mem
        cases done
        exact confined_enqueue core conn _
      · cases mem
    · cases moved

def readFwdClient : Parser User2RoomFwdClient := fun payload =>
  let message := (readFields payload).1.foldl (fun message field =>
    match field with
    | (2, .varint value) => { message with senderType := ⟨BitVec.ofNat 32 value⟩ }
    | (3, .bytes value) => { message with senderUid := asciiString value }
    | (4, .bytes value) => { message with uid := asciiString value }
    | (5, .bytes value) => { message with message := asciiString value }
    | _ => message) {}
  (message, (readFields payload).2)

def forgedPayload : RawBuffer :=
  [0x22, 3, 0x62, 0x6f, 0x62, 0x2a, 6, 0x66, 0x6f, 0x72, 0x67, 0x65, 0x64]

def forgedForward : List Label :=
  ([.accept, .accept, .receive 0 (.session (.reqLogin { uid := "bob" })), .run (.conn 0) 0] : List Label) ++
    (List.replicate 3 (.run (.strand 0) 0) : List Label) ++
    ((dispatchFrame { fwdClient := readFwdClient } .kUser2RoomFwdClient forgedPayload).toList.map fun call =>
      Label.receive 1 call) ++ (List.replicate 2 (.run (.conn 1) 0) : List Label) ++
    (List.replicate 2 (.run (.strand 0) 0) : List Label)

/-- A frame from one client is written to another one, as if Room had sent it. -/
theorem forged_frame_reaches_other_session :
    ¬ ConfinedFrame { fwdClient := readFwdClient } 1 .kUser2RoomFwdClient forgedPayload ∧
      ∃ history state, Reaches history state ∧
      (∀ move ∈ history, ∀ message, move.label ≠ .deliver message) ∧
      (0, ToClient.fwdClient { uid := "bob", message := "forged" }) ∈ state.core.sent := by
  constructor
  · rintro ⟨handler, found, faces, -⟩
    have chosen : mainDispatcher.dispatch .kUser2RoomFwdClient = some (.inl (.room .fwdClient)) := by decide +kernel
    cases chosen.symm.trans found
    cases faces
  · have run : Reaches _ (final step initial forgedForward) := run_of_enabled (by decide +kernel)
    have labels : ∀ move ∈ transitions step initial forgedForward,
        (match move.label with | .deliver _ => false | _ => true) = true := by decide +kernel
    refine ⟨_, _, run, ?_, by decide +kernel⟩
    intro move mem message same
    simpa [same] using labels move mem

end Rsp.UserServer
