import Mathlib.Data.List.Basic
import Mathlib.Data.List.TakeDrop

/-! Incremental decoding of a stream of self-delimiting frames.

A framing inspects the front of a buffer. Its laws say that the verdict depends
only on the symbols it has accounted for, which is exactly what makes decoding
independent of how the stream is cut into reads.
-/

set_option autoImplicit false

namespace Rsp.Foundation

inductive Scan (Frame : Type) where
  | incomplete
  | invalid
  | complete (size : Nat) (frame : Frame)
  deriving DecidableEq, Repr

/-- A frame is settled by its own symbols, a rejection by the first `lookahead` ones. -/
structure Framing (Symbol Frame : Type) where
  scan : List Symbol → Scan Frame
  lookahead : Nat
  progress : ∀ {buffer size frame}, scan buffer = .complete size frame → 0 < size ∧ size ≤ buffer.length
  complete_local : ∀ {buffer size frame other}, scan buffer = .complete size frame →
    buffer.take size <+: other → scan other = .complete size frame
  invalid_bound : ∀ {buffer}, scan buffer = .invalid → lookahead ≤ buffer.length
  invalid_local : ∀ {buffer other}, scan buffer = .invalid →
    buffer.take lookahead <+: other → scan other = .invalid

structure Parsed (Symbol Frame : Type) where
  frames : List Frame
  rest : List Symbol
  valid : Bool
  deriving DecidableEq, Repr

/-- The history of a decoder fed read by read: it stops at the first read it refuses. -/
structure Feed (Symbol Frame : Type) where
  frames : List Frame
  verdicts : List Bool
  buffer : List Symbol
  deriving DecidableEq, Repr

namespace Framing

variable {Symbol Frame : Type} (F : Framing Symbol Frame)

def parse (stream : List Symbol) : Parsed Symbol Frame :=
  match _found : F.scan stream with
  | .incomplete => ⟨[], stream, true⟩
  | .invalid => ⟨[], stream, false⟩
  | .complete size frame =>
      let tail := parse (stream.drop size)
      ⟨frame :: tail.frames, tail.rest, tail.valid⟩
termination_by stream.length
decreasing_by
  have := F.progress _found
  simp only [List.length_drop]
  omega

def feed : List Symbol → List (List Symbol) → Feed Symbol Frame
  | buffer, [] => ⟨[], [], buffer⟩
  | buffer, chunk :: rest =>
      let now := F.parse (buffer ++ chunk)
      if now.valid then
        let later := feed now.rest rest
        ⟨now.frames ++ later.frames, true :: later.verdicts, later.buffer⟩
      else ⟨now.frames, [false], []⟩

theorem parse_incomplete {stream : List Symbol} (found : F.scan stream = .incomplete) :
    F.parse stream = ⟨[], stream, true⟩ := by
  rw [parse]
  split <;> simp_all

theorem parse_invalid {stream : List Symbol} (found : F.scan stream = .invalid) :
    F.parse stream = ⟨[], stream, false⟩ := by
  rw [parse]
  split <;> simp_all

theorem parse_complete {stream : List Symbol} {size : Nat} {frame : Frame}
    (found : F.scan stream = .complete size frame) :
    F.parse stream = ⟨frame :: (F.parse (stream.drop size)).frames, (F.parse (stream.drop size)).rest,
      (F.parse (stream.drop size)).valid⟩ := by
  rw [parse]
  split
  · simp_all
  · simp_all
  · next other actual same =>
    rw [found] at same
    cases same
    rfl

theorem complete_append {buffer : List Symbol} {size : Nat} {frame : Frame} (more : List Symbol)
    (found : F.scan buffer = .complete size frame) : F.scan (buffer ++ more) = .complete size frame :=
  F.complete_local found ((List.take_prefix size buffer).trans (List.prefix_append buffer more))

theorem invalid_append {buffer : List Symbol} (more : List Symbol)
    (found : F.scan buffer = .invalid) : F.scan (buffer ++ more) = .invalid :=
  F.invalid_local found ((List.take_prefix F.lookahead buffer).trans (List.prefix_append buffer more))

theorem frame_induction {motive : List Symbol → Prop}
    (incomplete : ∀ stream, F.scan stream = .incomplete → motive stream)
    (invalid : ∀ stream, F.scan stream = .invalid → motive stream)
    (complete : ∀ stream size frame, F.scan stream = .complete size frame →
      motive (stream.drop size) → motive stream) (stream : List Symbol) : motive stream := by
  induction bound : stream.length using Nat.strongRecOn generalizing stream with
  | _ length ih =>
    cases found : F.scan stream with
    | incomplete => exact incomplete stream found
    | invalid => exact invalid stream found
    | complete size frame =>
      have shorter := F.progress found
      apply complete stream size frame found
      exact ih (stream.drop size).length (by simp only [List.length_drop]; omega) _ rfl

theorem parse_rest_suffix (stream : List Symbol) : (F.parse stream).rest <:+ stream := by
  induction stream using F.frame_induction with
  | incomplete stream found => simp [F.parse_incomplete found]
  | invalid stream found => simp [F.parse_invalid found]
  | complete stream size frame found ih =>
    rw [F.parse_complete found]
    exact ih.trans (List.drop_suffix size stream)

theorem scan_rest (stream : List Symbol) :
    F.scan (F.parse stream).rest = if (F.parse stream).valid then .incomplete else .invalid := by
  induction stream using F.frame_induction with
  | incomplete stream found => simp [F.parse_incomplete found, found]
  | invalid stream found => simp [F.parse_invalid found, found]
  | complete stream size frame found ih => simpa [F.parse_complete found] using ih

/-- Parsing commutes with concatenation: a finished prefix is never revised. -/
theorem parse_append (stream more : List Symbol) :
    F.parse (stream ++ more) =
      if (F.parse stream).valid then
        ⟨(F.parse stream).frames ++ (F.parse ((F.parse stream).rest ++ more)).frames,
          (F.parse ((F.parse stream).rest ++ more)).rest, (F.parse ((F.parse stream).rest ++ more)).valid⟩
      else ⟨(F.parse stream).frames, (F.parse stream).rest ++ more, false⟩ := by
  induction stream using F.frame_induction with
  | incomplete stream found => simp [F.parse_incomplete found]
  | invalid stream found => simp [F.parse_invalid found, F.parse_invalid (F.invalid_append more found)]
  | complete stream size frame found ih =>
    have bound := (F.progress found).2
    rw [F.parse_complete (F.complete_append more found), List.drop_append_of_le_length bound, ih,
      F.parse_complete found]
    by_cases valid : (F.parse (stream.drop size)).valid <;> simp [valid]

def consumed (stream : List Symbol) : Nat := stream.length - (F.parse stream).rest.length

theorem size_of_pending {buffer : List Symbol} (pending : F.scan buffer = .incomplete)
    (more : List Symbol) {size : Nat} {frame : Frame}
    (found : F.scan (buffer ++ more) = .complete size frame) : buffer.length < size := by
  by_contra short
  have same : (buffer ++ more).take size = buffer.take size := List.take_append_of_le_length (by omega)
  have early := F.complete_local found (same ▸ List.take_prefix size buffer)
  rw [pending] at early
  cases early

/-- A prefix of a stream is refused exactly when it reaches the last of the `lookahead` symbols of the frame the
whole stream is refused at. -/
theorem prefix_refused (stream more : List Symbol) :
    (F.parse stream).valid = false ↔
      (F.parse (stream ++ more)).valid = false ∧
        F.consumed (stream ++ more) + F.lookahead ≤ stream.length := by
  have suffixBound := (F.parse_rest_suffix stream).length_le
  have stop := F.scan_rest stream
  by_cases valid : (F.parse stream).valid
  · simp only [valid, if_true] at stop
    simp only [valid, Bool.true_eq_false, false_iff, not_and, consumed, F.parse_append stream more, if_true,
      List.length_append]
    intro refused reach
    cases found : F.scan ((F.parse stream).rest ++ more) with
    | incomplete => simp [F.parse_incomplete found] at refused
    | invalid =>
      simp only [F.parse_invalid found, List.length_append] at reach
      have early : (F.parse stream).rest.take F.lookahead = ((F.parse stream).rest ++ more).take F.lookahead :=
        (List.take_append_of_le_length (by omega)).symm
      have contradiction := F.invalid_local found (early ▸ List.take_prefix F.lookahead (F.parse stream).rest)
      rw [stop] at contradiction
      cases contradiction
    | complete size frame =>
      have beyond := F.size_of_pending stop more found
      have fits := (F.progress found).2
      have tailBound := (F.parse_rest_suffix (((F.parse stream).rest ++ more).drop size)).length_le
      simp only [F.parse_complete found] at reach
      simp only [List.length_drop, List.length_append] at tailBound fits
      omega
  · have refused : (F.parse stream).valid = false := by simpa using valid
    simp only [refused, Bool.false_eq_true, if_false] at stop
    have enough := F.invalid_bound stop
    simp only [refused, consumed, F.parse_append stream more, Bool.false_eq_true, if_false, List.length_append,
      true_and, true_iff]
    omega

variable {F}

/-- Fed in any pieces, the decoder yields the frames of the whole stream. -/
theorem feed_frames (buffer : List Symbol) (chunks : List (List Symbol)) (pending : F.scan buffer = .incomplete) :
    (F.feed buffer chunks).frames = (F.parse (buffer ++ chunks.flatten)).frames := by
  induction chunks generalizing buffer with
  | nil => simp [feed, F.parse_incomplete pending]
  | cons chunk rest ih =>
    have stop := F.scan_rest (buffer ++ chunk)
    rw [List.flatten_cons, ← List.append_assoc, F.parse_append (buffer ++ chunk)]
    by_cases valid : (F.parse (buffer ++ chunk)).valid
    · simp only [valid, if_true] at stop
      simp [feed, valid, ih _ stop]
    · simp [feed, valid]

theorem feed_buffer (buffer : List Symbol) (chunks : List (List Symbol)) (pending : F.scan buffer = .incomplete)
    (accepted : false ∉ (F.feed buffer chunks).verdicts) :
    (F.feed buffer chunks).buffer = (F.parse (buffer ++ chunks.flatten)).rest := by
  induction chunks generalizing buffer with
  | nil => simp [feed, F.parse_incomplete pending]
  | cons chunk rest ih =>
    have stop := F.scan_rest (buffer ++ chunk)
    rw [List.flatten_cons, ← List.append_assoc, F.parse_append (buffer ++ chunk)]
    by_cases valid : (F.parse (buffer ++ chunk)).valid
    · simp only [valid, if_true] at stop
      simp only [feed, valid, if_true] at accepted ⊢
      exact ih _ stop (fun refused => accepted (List.mem_cons_of_mem true refused))
    · simp [feed, valid] at accepted

theorem feed_refuses (buffer : List Symbol) (chunks : List (List Symbol)) (pending : F.scan buffer = .incomplete)
    (k : Nat) :
    (F.feed buffer chunks).verdicts[k]? = some false ↔
      k < chunks.length ∧ (F.parse (buffer ++ (chunks.take k).flatten)).valid = true ∧
        (F.parse (buffer ++ (chunks.take (k + 1)).flatten)).valid = false := by
  induction chunks generalizing buffer k with
  | nil => simp [feed]
  | cons chunk rest ih =>
    have stop := F.scan_rest (buffer ++ chunk)
    by_cases valid : (F.parse (buffer ++ chunk)).valid
    · simp only [valid, if_true] at stop
      cases k with
      | zero => simp [feed, valid]
      | succ k =>
        simp only [feed, valid, if_true, List.getElem?_cons_succ, List.length_cons, List.take_succ_cons,
          List.flatten_cons, Nat.add_lt_add_iff_right, ih _ stop, ← List.append_assoc,
          F.parse_append (buffer ++ chunk)]
    · have refused : (F.parse (buffer ++ chunk)).valid = false := by simpa using valid
      cases k with
      | zero => simp [feed, refused, F.parse_incomplete pending]
      | succ k =>
        simp only [feed, refused, Bool.false_eq_true, if_false, List.getElem?_cons_succ, List.getElem?_nil,
          List.take_succ_cons, List.flatten_cons, ← List.append_assoc, F.parse_append (buffer ++ chunk)]
        simp

end Framing

end Rsp.Foundation
