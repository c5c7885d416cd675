import Rsp.Foundation.Transition
import Rsp.Message.Interpreter

/-! How far the reassembly buffer of `conn_interpreter` can grow.

A connection stops at the first refused read. Nothing in the interpreter depends on that,
so its calls are taken here in any number, after refusals too.
-/

set_option autoImplicit false

namespace Rsp.Message

open Foundation

structure BufferCall where
  buffer : Vector Byte 128
  len : Nat
  deriving DecidableEq

/-- What the call appends: nothing when it refuses its length. -/
def BufferCall.taken (self : BufferCall) : List Byte :=
  if 128 < self.len then [] else self.buffer.toList.take self.len

theorem BufferCall.taken_length (self : BufferCall) : self.taken.length ≤ 128 := by
  unfold taken
  split
  · simp
  · rw [List.length_take]
    omega

namespace ConnInterpreter

variable {Link : Type}

def step (self : ConnInterpreter Link) (call : BufferCall) : Option (ConnInterpreter Link) :=
  (self.handleBuffer call.buffer call.len).map Handled.interpreter

/-! ## A turn of the loop -/

inductive Inside (entered : RawBuffer) : RawBuffer → Prop where
  | enters : Inside entered entered
  | turns {buffer rest : RawBuffer} (inside : Inside entered buffer)
      (complete : (Serializer.destructBuffer buffer).status = .kComplete)
      (kept : retrieveV buffer (Serializer.destructBuffer buffer).size buffer.length = some rest) :
      Inside entered rest

/-- A turn that dispatches removes at least a header, its range is in the buffer and the conversions
to `int` are exact. -/
structure Turn (buffer : RawBuffer) (size : Nat) : Prop where
  header : 12 ≤ size
  within : size ≤ buffer.length
  first : toInt32 size = size
  last : toInt32 buffer.length = buffer.length
  kept : retrieveV buffer size buffer.length = some (buffer.drop size)

theorem turn_of_complete {buffer : RawBuffer} (complete : (Serializer.destructBuffer buffer).status = .kComplete)
    (small : buffer.length < 2 ^ 31) : Turn buffer (Serializer.destructBuffer buffer).size := by
  have seen := destructBuffer_scan buffer
  simp only [complete] at seen
  obtain ⟨-, sized, within, -⟩ := (scanFrame_complete_iff _ _ _).mp seen
  constructor
  case header => omega
  case within => exact within
  case first => exact toInt32_eq _ (by omega)
  case last => exact toInt32_eq _ small
  case kept => exact retrieveV_suffix buffer _ within small

theorem inside_length {entered buffer : RawBuffer} (inside : Inside entered buffer)
    (small : entered.length < 2 ^ 31) : buffer.length ≤ entered.length := by
  induction inside with
  | enters => exact Nat.le_refl _
  | turns inside complete kept shorter =>
    have turn := turn_of_complete complete (by omega)
    obtain rfl := Option.some.inj (turn.kept.symm.trans kept)
    rw [List.length_drop]
    omega

theorem frames_length (buffer : RawBuffer) : 12 * (grammar.parse buffer).frames.length ≤ buffer.length := by
  induction buffer using grammar.frame_induction with
  | incomplete stream found =>
    rw [grammar.parse_incomplete found]
    exact Nat.zero_le _
  | invalid stream found =>
    rw [grammar.parse_invalid found]
    exact Nat.zero_le _
  | complete stream size frame found fewer =>
    obtain ⟨-, sized, within, -⟩ := (scanFrame_complete_iff _ _ _).mp found
    rw [grammar.parse_complete found, List.length_cons]
    rw [List.length_drop] at fewer
    omega

/-! ## Calls -/

theorem status_pending (buffer : RawBuffer) :
    (Serializer.destructBuffer buffer).status = .kIncomplete ↔ scanFrame buffer = .incomplete := by
  rw [destructBuffer_scan]
  cases (Serializer.destructBuffer buffer).status <;> simp

/-- A call returns, dispatches no more frames than its buffer holds headers, and leaves a buffer without a frame
in it. -/
theorem handleBuffer_pending (self : ConnInterpreter Link) (call : BufferCall)
    (pending : scanFrame self.buffer = .incomplete) :
    ∃ handled, self.handleBuffer call.buffer call.len = some handled ∧
      scanFrame handled.interpreter.buffer = .incomplete ∧
      12 * handled.dispatched.length ≤ (self.buffer ++ call.taken).length := by
  by_cases long : 128 < call.len
  · refine ⟨⟨false, self, []⟩, ?_, pending, Nat.zero_le _⟩
    rw [handleBuffer, if_pos long]
  · have taken : call.taken = (Read.mk call.buffer call.len (by omega)).bytes := by
      rw [BufferCall.taken, if_neg long, Read.bytes]
    refine ⟨_, handleBuffer_eq self ⟨call.buffer, call.len, by omega⟩ pending, ?_, ?_⟩
    · have stop := grammar.scan_rest (self.buffer ++ call.taken)
      rw [← taken]
      -- an invalid header clears the buffer, and the empty one is incomplete
      by_cases valid : (grammar.parse (self.buffer ++ call.taken)).valid
      · simp only [valid, if_true] at stop ⊢
        exact stop
      · simp only [valid]
        rfl
    · rw [← taken, List.length_map]
      exact frames_length _

/-- No sequence of calls can make the buffer grow: after every call it holds less than the longest
frame and no complete one, inside the next call at most a read more, and every turn of the loop takes
a header out of it. -/
theorem reassembly_bounded (link : Option Link) (calls : List BufferCall) :
    ∃ self, execute step ({ link } : ConnInterpreter Link) calls = some self ∧
      self.buffer.length < 12 + 65536 ∧ (Serializer.destructBuffer self.buffer).status = .kIncomplete ∧
      ∀ call : BufferCall, ∃ handled, self.handleBuffer call.buffer call.len = some handled ∧
        (∀ buffer, Inside (self.buffer ++ call.taken) buffer → buffer.length < 12 + 65536 + 128 ∧
          ((Serializer.destructBuffer buffer).status = .kComplete →
            Turn buffer (Serializer.destructBuffer buffer).size)) ∧
        handled.dispatched.length ≤ (self.buffer ++ call.taken).length / 12 := by
  -- the interpreter before a call never holds a frame that could be dispatched
  have reached : ∀ (self : ConnInterpreter Link), scanFrame self.buffer = .incomplete →
      ∃ after, execute step self calls = some after ∧ scanFrame after.buffer = .incomplete := by
    induction calls with
    | nil => exact fun self pending => ⟨self, rfl, pending⟩
    | cons call rest ih =>
      intro self pending
      obtain ⟨handled, returns, pending, -⟩ := handleBuffer_pending self call pending
      obtain ⟨after, goes, pending⟩ := ih handled.interpreter pending
      refine ⟨after, ?_, pending⟩
      rw [execute, step, returns]
      exact goes
  obtain ⟨self, goes, pending⟩ := reached { link } rfl
  have bounded := pending_length pending
  refine ⟨self, goes, bounded, (status_pending _).mpr pending, ?_⟩
  intro call
  obtain ⟨handled, returns, -, dispatches⟩ := handleBuffer_pending self call pending
  have read := call.taken_length
  have entered : (self.buffer ++ call.taken).length < 12 + 65536 + 128 := by
    rw [List.length_append]
    omega
  refine ⟨handled, returns, ?_, by omega⟩
  intro buffer inside
  have shorter := inside_length inside (by omega)
  exact ⟨by omega, fun complete => turn_of_complete complete (by omega)⟩

end ConnInterpreter

end Rsp.Message
