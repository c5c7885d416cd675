import Rsp.Message.Wire
import Rsp.UserServer.Dispatch

/-! What a buffer from the Room side does in the User server.

`room_channel::start` hands every buffer to the table it shares with the side facing the
clients, with a null link and whatever `destruct_buffer` made of it. A handler of the
client side takes that link for a session.
-/

set_option autoImplicit false

namespace Rsp.UserServer

open Message Foundation

/-- The callback of `room_channel::start`; `none` is a call through the null link. -/
def onBuffer (codec : Codec) (now : Nat) (buffer : RawBuffer) (core : Core) : Option Effect :=
  let destructed := Serializer.destructBuffer buffer
  match dispatchFrame codec destructed.type destructed.payload with
  | some (.room message) => onRecv now message core
  | some .ignored => some { core }
  | some (.session _) => none
  | some .unknown => none
  | none => none

/-- A buffer that is handled by `room_channel` is a delivery and the item it leaves. -/
theorem onBuffer_delivers {codec : Codec} {buffer : RawBuffer} {message : ToUser} {state : State} (now : Nat)
    (call : dispatchFrame codec (Serializer.destructBuffer buffer).type (Serializer.destructBuffer buffer).payload =
      some (.room message)) (quiet : state.pool.idle .dealer) :
    (step state (.deliver message)).bind (step · (.run .dealer now)) =
      (onBuffer codec now buffer state.core).map fun effect =>
        ⟨effect.core, effect.next.map (Prod.mk .dealer) ++ state.pool ++ effect.posts⟩ := by
  have popped : Pool.pop .dealer (state.pool ++ [(.dealer, .onRecv message)]) =
      some (.onRecv message, state.pool ++ []) := Pool.pop_of_idle quiet
  simp only [step, if_pos quiet, Option.bind_some, Machine.run, popped, onBuffer, call, exec, List.append_nil]

/-- The buffer is handled by what `message_dispatcher<room_channel>` registered, and nothing is
called through the null link. -/
def StaysInside (codec : Codec) (buffer : RawBuffer) : Prop :=
  ∃ handler, mainDispatcher.dispatch (Serializer.destructBuffer buffer).type = some handler ∧
    Handler.facesClient handler = false ∧ ∀ now core, (onBuffer codec now buffer core).isSome

theorem dispatch_roomTypes {type : MessageType} (own : type ∈ roomTypes) (codec : Codec) (payload : RawBuffer) :
    ∃ handler message, mainDispatcher.dispatch type = some handler ∧ Handler.facesClient handler = false ∧
      invoke codec payload handler = .room message ∧ message ≠ .pong := by
  have table : ∀ type ∈ roomTypes, mainDispatcher.dispatch type = some (.inl (.room .resCreateRoom)) ∨
      mainDispatcher.dispatch type = some (.inl (.room .resJoinRoom)) ∨
      mainDispatcher.dispatch type = some (.inl (.room .resLeaveRoom)) ∨
      mainDispatcher.dispatch type = some (.inl (.room .fwdClient)) ∨
      mainDispatcher.dispatch type = some (.inl (.room .ntfLeaveRoom)) := by decide +kernel
  rcases table type own with found | found | found | found | found
  all_goals exact ⟨_, _, found, rfl, rfl, nofun⟩

/-- The buffers from the Room side that stay with `room_channel` are those that start with a frame
of a type it registers alone. -/
theorem room_frames_stay_inside (codec : Codec) (buffer : RawBuffer) :
    StaysInside codec buffer ↔ ∃ type ∈ roomTypes, ∃ payload frame rest,
      Serializer.serialize type payload = .ok frame ∧ buffer = frame ++ rest := by
  constructor
  · rintro ⟨handler, found, inside, -⟩
    obtain ⟨other, same, confined⟩ := dispatch_main (Serializer.destructBuffer buffer).type
    cases found.symm.trans same
    have own : (Serializer.destructBuffer buffer).type ∈ roomTypes := by
      by_contra foreign
      rw [confined.mpr foreign] at inside
      cases inside
    -- An incomplete or oversized buffer counts as a ping, which the client side registered last.
    have complete : (Serializer.destructBuffer buffer).status = .kComplete := by
      by_contra unfinished
      rw [(Serializer.destruct_default unfinished).1] at own
      exact absurd own (by decide)
    exact ⟨_, own, _, _, _, Serializer.destruct_complete complete, (List.take_append_drop _ _).symm⟩
  · rintro ⟨type, own, payload, frame, rest, written, rfl⟩
    have read := Serializer.destruct_serialize written rest
    obtain ⟨handler, message, found, inside, call, living⟩ := dispatch_roomTypes own codec payload
    refine ⟨handler, by rw [read, found], inside, ?_⟩
    intro now core
    simp only [onBuffer, read, dispatchFrame, found, Option.map_some, call]
    cases message with
    | pong => exact absurd rfl living
    | resCreateRoom | resJoinRoom | resLeaveRoom | ntfLeaveRoom | fwdClient => rfl

/-- An empty buffer is taken for a ping of a client and handed to the null session. -/
theorem empty_buffer_dereferences_null :
    ¬ StaysInside {} [] ∧ dispatchFrame {} (Serializer.destructBuffer []).type
        (Serializer.destructBuffer []).payload = some (.session .ping) ∧
      ∀ now core, onBuffer {} now [] core = none := by
  have ping : dispatchFrame {} (Serializer.destructBuffer []).type (Serializer.destructBuffer []).payload =
      some (.session .ping) := by decide +kernel
  have crash : ∀ now core, onBuffer {} now [] core = none := by
    intro now core
    simp only [onBuffer, ping]
  refine ⟨?_, ping, crash⟩
  rintro ⟨handler, -, -, survives⟩
  have survived := survives 0 {}
  rw [crash 0 {}] at survived
  cases survived

end Rsp.UserServer
