import Rsp.Foundation.Framing
import Rsp.Message.Wire

/-! The per-connection stream decoder `conn_interpreter` and its reference grammar. -/

set_option autoImplicit false

namespace Rsp.Message

open Foundation

/-! ## Source -/

/-- The conversion of a `size_t` argument to an `int` parameter. -/
def toInt32 (size : Nat) : Int := (BitVec.ofNat 32 size).toInt

/-- `retrieve_parts`: `none` stands for iterators outside the buffer. -/
def retrieveParts (buf : RawBuffer) (first last : Int) : Option RawBuffer :=
  if last ≤ first then some []
  else if 0 ≤ first ∧ last ≤ buf.length then some ((buf.take last.toNat).drop first.toNat)
  else none

def retrieveV (buf : RawBuffer) (first last : Nat) : Option RawBuffer :=
  retrieveParts buf (toInt32 first) (toInt32 last)

structure Dispatch (Link : Type) where
  type : MessageType
  payload : RawBuffer
  link : Option Link
  deriving DecidableEq, Repr

structure ConnInterpreter (Link : Type) where
  link : Option Link := none
  buffer : RawBuffer := []
  deriving DecidableEq, Repr

structure Handled (Link : Type) where
  accepted : Bool
  interpreter : ConnInterpreter Link
  dispatched : List (Dispatch Link)
  deriving DecidableEq, Repr

namespace ConnInterpreter

variable {Link : Type}

def attachLink (self : ConnInterpreter Link) (link : Option Link) : ConnInterpreter Link := { self with link }

/-- The dispatch loop of `handle_buffer`. Every turn removes at least a header, so
`fuel` beyond the buffer length is never exhausted. -/
def dispatchLoop : Nat → ConnInterpreter Link → Option (Handled Link)
  | 0, _ => none
  | fuel + 1, self =>
      let found := Serializer.destructBuffer self.buffer
      match found.status with
      | .kInvalid => some ⟨false, { self with buffer := [] }, []⟩
      | .kIncomplete => some ⟨true, self, []⟩
      | .kComplete =>
          (retrieveV self.buffer found.size self.buffer.length).bind fun rest =>
            (dispatchLoop fuel { self with buffer := rest }).map fun handled =>
              { handled with dispatched := ⟨found.type, found.payload, self.link⟩ :: handled.dispatched }

def handleBuffer (self : ConnInterpreter Link) (buffer : Vector Byte 128) (len : Nat) :
    Option (Handled Link) :=
  if 128 < len then some ⟨false, self, []⟩
  else
    let extended := { self with buffer := self.buffer ++ buffer.toList.take len }
    dispatchLoop (extended.buffer.length + 1) extended

end ConnInterpreter

structure Read where
  buffer : Vector Byte 128
  len : Nat
  bound : len ≤ 128

def Read.bytes (read : Read) : List Byte := read.buffer.toList.take read.len

/-- The connection reads on until `handle_buffer` first returns false. -/
def ConnInterpreter.receive {Link : Type} (self : ConnInterpreter Link) :
    List Read → Option (Feed Byte (Dispatch Link))
  | [] => some ⟨[], [], self.buffer⟩
  | read :: rest =>
      (self.handleBuffer read.buffer read.len).bind fun handled =>
        if handled.accepted then
          (handled.interpreter.receive rest).map fun later =>
            ⟨handled.dispatched ++ later.frames, true :: later.verdicts, later.buffer⟩
        else some ⟨handled.dispatched, [false], handled.interpreter.buffer⟩

/-! ## Reference grammar -/

/-- An eight-byte length, a four-byte type and that many payload bytes. -/
def scanFrame (stream : List Byte) : Scan (MessageType × RawBuffer) :=
  if stream.length < 8 then .incomplete
  else if 65536 < bigEndian (stream.take 8) then .invalid
  else if stream.length < 12 + bigEndian (stream.take 8) then .incomplete
  else .complete (12 + bigEndian (stream.take 8))
    (⟨BitVec.ofNat 32 (bigEndian ((stream.drop 8).take 4))⟩, (stream.drop 12).take (bigEndian (stream.take 8)))

theorem scanFrame_complete_iff (stream : List Byte) (size : Nat) (frame : MessageType × RawBuffer) :
    scanFrame stream = .complete size frame ↔
      bigEndian (stream.take 8) ≤ 65536 ∧ size = 12 + bigEndian (stream.take 8) ∧ size ≤ stream.length ∧
        frame = (⟨BitVec.ofNat 32 (bigEndian ((stream.drop 8).take 4))⟩,
          (stream.drop 12).take (bigEndian (stream.take 8))) := by
  rw [scanFrame]
  split_ifs with short large unfinished
  · simp only [false_iff]
    omega
  · simp only [false_iff]
    omega
  · simp only [false_iff]
    omega
  · simp only [Scan.complete.injEq]
    constructor
    · rintro ⟨rfl, rfl⟩
      exact ⟨by omega, rfl, by omega, rfl⟩
    · rintro ⟨_, same, _, payload⟩
      exact ⟨same.symm, payload.symm⟩

theorem scanFrame_invalid_iff (stream : List Byte) :
    scanFrame stream = .invalid ↔ 8 ≤ stream.length ∧ 65536 < bigEndian (stream.take 8) := by
  rw [scanFrame]
  split_ifs <;> simp <;> omega

theorem take_drop_of_front {stream other : List Byte} {size : Nat} (start count : Nat)
    (front : stream.take size <+: other) (inside : start + count ≤ size) (whole : size ≤ stream.length) :
    (other.drop start).take count = (stream.drop start).take count := by
  obtain ⟨tail, rfl⟩ := front
  have length : (stream.take size).length = size := by simp [whole]
  rw [List.drop_append_of_le_length (by omega),
    List.take_append_of_le_length (by simp only [List.length_drop]; omega), List.drop_take, List.take_take,
    Nat.min_eq_left (by omega)]

def grammar : Framing Byte (MessageType × RawBuffer) where
  scan := scanFrame
  lookahead := 8
  progress := by
    intro stream size frame found
    have spec := (scanFrame_complete_iff stream size frame).mp found
    omega
  -- a frame is found by what is inside it
  complete_local := by
    intro stream size frame other found front
    obtain ⟨small, sized, whole, payload⟩ := (scanFrame_complete_iff stream size frame).mp found
    have field : other.take 8 = stream.take 8 := by
      simpa using take_drop_of_front 0 8 front (by omega) whole
    have total := front.length_le
    rw [List.length_take, Nat.min_eq_left whole] at total
    refine (scanFrame_complete_iff other size frame).mpr ⟨by rwa [field], by rwa [field], total, ?_⟩
    rw [payload, field, take_drop_of_front 8 4 front (by omega) whole,
      take_drop_of_front 12 (bigEndian (stream.take 8)) front (by omega) whole]
  invalid_bound := by
    intro stream found
    exact ((scanFrame_invalid_iff stream).mp found).1
  -- and refused by its length field
  invalid_local := by
    intro stream other found front
    obtain ⟨header, large⟩ := (scanFrame_invalid_iff stream).mp found
    have field : other.take 8 = stream.take 8 := by
      simpa using take_drop_of_front 0 8 front (by omega) header
    have total := front.length_le
    rw [List.length_take, Nat.min_eq_left header] at total
    exact (scanFrame_invalid_iff other).mpr ⟨total, by rwa [field]⟩

/-! ## Refinement -/

theorem toInt32_eq (size : Nat) (small : size < 2 ^ 31) : toInt32 size = size := by
  have exact : (BitVec.ofNat 32 size).toNat = size := by
    rw [BitVec.toNat_ofNat]
    omega
  rw [toInt32, BitVec.toInt_eq_toNat_of_lt (by omega), exact]

/-- The suffix kept after a dispatch, when the sizes survive the conversion to `int`. -/
theorem retrieveV_suffix (buf : RawBuffer) (first : Nat) (inside : first ≤ buf.length) (small : buf.length < 2 ^ 31) :
    retrieveV buf first buf.length = some (buf.drop first) := by
  rw [retrieveV, retrieveParts, toInt32_eq first (by omega), toInt32_eq buf.length small]
  by_cases all : buf.length ≤ first
  · rw [if_pos (by omega), List.drop_of_length_le all]
  · rw [if_neg (by omega), if_pos (by omega), Int.toNat_natCast, Int.toNat_natCast, List.take_length]

theorem destructBuffer_scan (buffer : RawBuffer) :
    scanFrame buffer =
      match (Serializer.destructBuffer buffer).status with
      | .kIncomplete => .incomplete
      | .kInvalid => .invalid
      | .kComplete => .complete (Serializer.destructBuffer buffer).size
          ((Serializer.destructBuffer buffer).type, (Serializer.destructBuffer buffer).payload) := by
  rw [Serializer.destructBuffer_eq, scanFrame, Serializer.kMaxPayloadSize]
  split_ifs <;> simp

namespace ConnInterpreter

variable {Link : Type}

def dispatchOf (link : Option Link) (frame : MessageType × RawBuffer) : Dispatch Link :=
  ⟨frame.1, frame.2, link⟩

theorem dispatchLoop_eq (fuel : Nat) (self : ConnInterpreter Link) (enough : self.buffer.length < fuel)
    (small : self.buffer.length < 2 ^ 31) :
    dispatchLoop fuel self = some ⟨(grammar.parse self.buffer).valid,
      { self with buffer := if (grammar.parse self.buffer).valid then (grammar.parse self.buffer).rest else [] },
      (grammar.parse self.buffer).frames.map (dispatchOf self.link)⟩ := by
  induction fuel generalizing self with
  | zero => omega
  | succ fuel ih =>
    have seen := destructBuffer_scan self.buffer
    rw [dispatchLoop]
    cases status : (Serializer.destructBuffer self.buffer).status with
    | kIncomplete =>
      simp only [status] at seen
      rw [grammar.parse_incomplete seen]
      simp
    | kInvalid =>
      simp only [status] at seen
      rw [grammar.parse_invalid seen]
      simp
    | kComplete =>
      simp only [status] at seen
      obtain ⟨positive, inside⟩ := grammar.progress seen
      simp only [retrieveV_suffix self.buffer _ inside small, Option.bind_some]
      rw [ih _ (by simp only [List.length_drop]; omega) (by simp only [List.length_drop]; omega),
        grammar.parse_complete seen]
      simp [dispatchOf]

theorem pending_length {buffer : RawBuffer} (pending : scanFrame buffer = .incomplete) :
    buffer.length < 12 + 65536 := by
  rw [scanFrame] at pending
  split_ifs at pending <;> omega

theorem handleBuffer_eq (self : ConnInterpreter Link) (read : Read) (pending : scanFrame self.buffer = .incomplete) :
    self.handleBuffer read.buffer read.len =
      some ⟨(grammar.parse (self.buffer ++ read.bytes)).valid,
        { self with buffer := if (grammar.parse (self.buffer ++ read.bytes)).valid then
            (grammar.parse (self.buffer ++ read.bytes)).rest else [] },
        (grammar.parse (self.buffer ++ read.bytes)).frames.map (dispatchOf self.link)⟩ := by
  have bounded := pending_length pending
  have size : read.bytes.length ≤ 128 := by
    simp only [Read.bytes, List.length_take]
    exact Nat.le_trans (Nat.min_le_left _ _) read.bound
  rw [handleBuffer, if_neg (by have := read.bound; omega)]
  exact dispatchLoop_eq _ { self with buffer := self.buffer ++ read.bytes } (Nat.lt_succ_self _)
    (by simp only [List.length_append]; omega)

/-- The connection's reads refine the abstract feed of the grammar. -/
theorem receive_eq (self : ConnInterpreter Link) (reads : List Read) (pending : scanFrame self.buffer = .incomplete) :
    self.receive reads =
      some ⟨(grammar.feed self.buffer (reads.map Read.bytes)).frames.map (dispatchOf self.link),
        (grammar.feed self.buffer (reads.map Read.bytes)).verdicts,
        (grammar.feed self.buffer (reads.map Read.bytes)).buffer⟩ := by
  induction reads generalizing self with
  | nil => simp [receive, Framing.feed]
  | cons read rest ih =>
    have stop := grammar.scan_rest (self.buffer ++ read.bytes)
    rw [receive, handleBuffer_eq self read pending]
    by_cases valid : (grammar.parse (self.buffer ++ read.bytes)).valid
    · simp only [valid, if_true] at stop
      simp [valid, Framing.feed, ih { self with buffer := _ } stop]
    · simp [valid, Framing.feed]

def delivered (reads : List Read) (k : Nat) : Nat := ((reads.take k).map Read.bytes).flatten.length

/-- However a stream is cut into reads, a fresh interpreter dispatches the frames
of the whole stream, refuses exactly the read that supplies the eighth length byte
of an oversized frame, and otherwise keeps the undispatched suffix. -/
theorem chunking_independence (link : Option Link) (reads : List Read) :
    ∃ result, ({ link } : ConnInterpreter Link).receive reads = some result ∧
      result.frames = (grammar.parse (reads.map Read.bytes).flatten).frames.map (dispatchOf link) ∧
      (∀ k, result.verdicts[k]? = some false ↔
        k < reads.length ∧ (grammar.parse (reads.map Read.bytes).flatten).valid = false ∧
          delivered reads k < grammar.consumed (reads.map Read.bytes).flatten + 8 ∧
          grammar.consumed (reads.map Read.bytes).flatten + 8 ≤ delivered reads (k + 1)) ∧
      (false ∉ result.verdicts → result.buffer = (grammar.parse (reads.map Read.bytes).flatten).rest) ∧
      (∀ (others : List Read) (other : Feed Byte (Dispatch Link)),
        (others.map Read.bytes).flatten = (reads.map Read.bytes).flatten →
        ({ link } : ConnInterpreter Link).receive others = some other → other.frames = result.frames) := by
  have fresh : grammar.scan [] = .incomplete := rfl
  have frames (cut : List Read) := Framing.feed_frames [] (cut.map Read.bytes) fresh
  simp only [List.nil_append] at frames
  refine ⟨_, receive_eq { link } reads fresh, ?_, ?_, ?_, ?_⟩
  · simp only [frames]
  · intro k
    -- after n reads the stream is refused just if the length field of the oversized frame has arrived
    have refused (n : Nat) : (grammar.parse ((reads.take n).map Read.bytes).flatten).valid = false ↔
        (grammar.parse (reads.map Read.bytes).flatten).valid = false ∧
          grammar.consumed (reads.map Read.bytes).flatten + 8 ≤ delivered reads n := by
      have cut : ((reads.take n).map Read.bytes).flatten ++ ((reads.drop n).map Read.bytes).flatten =
          (reads.map Read.bytes).flatten := by
        rw [← List.flatten_append, ← List.map_append, List.take_append_drop]
      have general := grammar.prefix_refused ((reads.take n).map Read.bytes).flatten
        ((reads.drop n).map Read.bytes).flatten
      rw [cut] at general
      exact general
    rw [Framing.feed_refuses [] (reads.map Read.bytes) fresh k]
    simp only [List.nil_append, List.length_map, ← List.map_take, ← Bool.not_eq_false, refused]
    by_cases oversized : (grammar.parse (reads.map Read.bytes).flatten).valid = false
    · simp only [oversized, true_and]
      omega
    · simp [oversized]
  · intro accepted
    simpa using Framing.feed_buffer [] (reads.map Read.bytes) fresh accepted
  · intro others other same received
    rw [receive_eq { link } others fresh, Option.some.injEq] at received
    rw [← received]
    simp only [frames, same]

end ConnInterpreter

end Rsp.Message
