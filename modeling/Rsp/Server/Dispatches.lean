import Rsp.Server.Effects

/-! What a connection dispatches once it has closed.

`handle_read` does not test `closed_`, and neither does the loop of `handle_buffer`. A read
that had succeeded before the close, or frames left in the buffer when a handler caused
it, are therefore dispatched after the close handler has run. As long as no close finds a
complete frame waiting, nothing is.
-/

set_option autoImplicit false

namespace Rsp.Server

open Message Foundation Connection

variable {Link : Type}

def Dispatchable (buffer : RawBuffer) : Prop := (Serializer.destructBuffer buffer).status = .kComplete

instance (buffer : RawBuffer) : Decidable (Dispatchable buffer) := inferInstanceAs (Decidable (_ = _))

/-- No complete frame waits, neither for the loop that runs nor in a read whose handler is
on the strand. -/
structure Drained (conn : Connection Link) : Prop where
  read : ∀ read, .handleRead (.ok read) ∈ conn.strand → ¬ Dispatchable (conn.interpreter.buffer ++ read.bytes)
  loop : .handleBuffer ∈ conn.stack → ¬ Dispatchable conn.interpreter.buffer

def Handler.drained (buffer : RawBuffer) : Handler → Bool
  | .handleRead (.ok read) => !decide (Dispatchable (buffer ++ read.bytes))
  | _ => true

theorem drained_iff (conn : Connection Link) :
    Drained conn ↔ conn.strand.all (Handler.drained conn.interpreter.buffer) ∧
      (.handleBuffer ∈ conn.stack → ¬ Dispatchable conn.interpreter.buffer) := by
  rw [List.all_eq_true]
  constructor
  · rintro ⟨read, loop⟩
    refine ⟨fun handler mem => ?_, loop⟩
    unfold Handler.drained
    split
    · next other => simpa using read other mem
    · rfl
  · rintro ⟨strand, loop⟩
    exact ⟨fun read mem => by simpa [Handler.drained] using strand _ mem, loop⟩

instance (conn : Connection Link) : Decidable (Drained conn) := decidable_of_iff' _ (drained_iff conn)

def ClosesDrained (move : Transition (Connection Link) Label) : Prop :=
  move.before.closed = false → move.after.closed = true → Drained move.before

instance (move : Transition (Connection Link) Label) : Decidable (ClosesDrained move) :=
  inferInstanceAs (Decidable (_ → _ → _))

/-! ## One reader -/

def Handler.reads : Handler → Bool
  | .startImpl => true
  | .handleRead _ => true
  | _ => false

def Activity.reads : Activity → Bool
  | .handleBuffer => true
  | _ => false

/-- The turns of the read loop: a start that waits, a read that is outstanding or has
completed, and a run of `handle_buffer`. -/
def Connection.readers (self : Connection Link) : Nat :=
  self.strand.countP Handler.reads + self.reads + self.stack.countP Activity.reads

section Readers

variable {conn after : Connection Link} {label : Label} {fails : Bool}

theorem readers_finishClose (conn : Connection Link) : conn.finishClose.readers = conn.readers := by
  unfold finishClose
  split
  · rfl
  · simp [readers, Activity.reads]

theorem readers_replace {place : Place} {send : Send} (found : conn.callAt place = some send) (new : Send)
    (stack : after.stack = conn.stack) (strand : after.strand = conn.strand) (reads : after.reads = conn.reads) :
    (after.replace new place).readers = conn.readers := by
  cases place with
  | other index => simp [readers, replace, stack, strand, reads]
  | strand =>
    obtain ⟨outer, top⟩ := callAt_strand found
    simp [readers, replace, stack, strand, reads, top, Activity.reads]

theorem readers_drop {place : Place} {send : Send} (found : conn.callAt place = some send)
    (stack : after.stack = conn.stack) (strand : after.strand = conn.strand) (reads : after.reads = conn.reads) :
    (after.drop place).readers = conn.readers := by
  cases place with
  | other index => simp [readers, Connection.drop, stack, strand, reads]
  | strand =>
    obtain ⟨outer, top⟩ := callAt_strand found
    simp [readers, Connection.drop, stack, strand, reads, top, Activity.reads]

theorem readers_sending (sending : Sending conn after) : after.readers = conn.readers := by
  cases sending with
  | retried place send phase found | tested place send phase found | overflowed place send found =>
    exact readers_replace found _ rfl rfl rfl
  | reserved place send found | rolledBack place send found =>
    exact readers_replace found _ (by simp) (by simp) (by simp)
  | refused place send found refused again => exact readers_drop found rfl rfl rfl
  | posted place send found holds =>
    have dropped : (conn.drop place).readers = conn.readers := readers_drop found rfl rfl rfl
    simpa [readers, Handler.reads] using dropped
  | overflowPosted index send found refused =>
    have dropped : (conn.drop (.other index)).readers = conn.readers := readers_drop found rfl rfl rfl
    simpa [readers, Handler.reads] using dropped
  | overflowClosed send found refused =>
    rw [readers_finishClose]
    exact readers_drop found rfl rfl rfl

theorem readers_le {handler : Handler} {rest : List Handler} (takes : Takes conn handler rest)
    (strand : after.strand = rest) (reads : after.reads = conn.reads) (stack : after.stack = []) :
    after.readers ≤ conn.readers := by
  simp only [readers, strand, reads, stack, takes.first, takes.idle, List.countP_cons, List.countP_nil]
  omega

theorem readers_handling (handling : Handling conn fails after) : after.readers ≤ conn.readers := by
  cases handling with
  | startIgnored takes | stopIgnored force takes | stopDrains takes | sendDropped buffer size takes
  | sendQueued buffer size takes | sendStarted buffer size takes | writeIgnored result takes | wroteNext takes
  | wroteLast takes => exact readers_le takes (by simp) (by simp) (by simp [takes.idle])
  | started takes isOpen =>
    simp only [readers, take_strand, take_stack, takes.first, List.countP_cons, Handler.reads, if_true]
    omega
  | stopForced force takes | writeFailed result takes | readFailed result takes =>
    rw [readers_finishClose]
    exact readers_le takes (by simp) (by simp) (by simp [takes.idle])
  | stopShuts takes alive first isOpen free base isBase | wroteShuts takes alive write queue graceful base isBase =>
    have marked : base.readers ≤ conn.readers := by
      subst isBase
      exact readers_le takes (by simp) (by simp) (by simp [takes.idle])
    split
    · rw [readers_finishClose]
      exact marked
    · exact marked
  | readDone read takes =>
    -- the turn goes from the strand to the stack
    simp only [readers, take_strand, take_reads, takes.first, takes.idle, List.countP_cons, List.countP_nil, Handler.reads,
      Activity.reads, if_true]
    omega

theorem readers_step (stepped : Stepped conn label after) : after.readers ≤ conn.readers := by
  have popped : ∀ {activity outer}, conn.stack = activity :: outer →
      conn.pop.readers + (if activity.reads then 1 else 0) = conn.readers := by
    intro activity outer top
    simp only [readers, pop_strand, pop_reads, pop_stack, top, List.tail_cons, List.countP_cons]
    omega
  cases stepped with
  | sent bytes => exact Nat.le_refl _
  | stopped | writeCompleted | writeDone => simp [readers, Handler.reads]
  | readCompleted result waits alive =>
    simp only [readers, post_strand, post_stack, List.countP_append, List.countP_cons, List.countP_nil, Handler.reads,
      if_true]
    omega
  | sending sending => exact Nat.le_of_eq (readers_sending sending)
  | handling fails handling => exact readers_handling handling
  | frameInvalid top status =>
    have fewer := popped top
    rw [readers_finishClose]
    change conn.pop.readers ≤ conn.readers
    omega
  | frameIncomplete top status =>
    have fewer := popped top
    simp only [Activity.reads, if_true] at fewer
    simp only [readers, post_strand, post_stack, post_reads, List.countP_append, List.countP_cons, List.countP_nil,
      Handler.reads, if_true] at fewer ⊢
    omega
  | frameDispatched | userSent => simp [readers, Activity.reads]
  | released write writes top | notified top | unnotified top => simp [readers, top, Activity.reads]
  | userClosed user => exact Nat.le_of_eq (readers_finishClose conn)
  | userReturned user =>
    obtain ⟨outer, top | top⟩ := user
    · have fewer := popped top
      omega
    · have fewer := popped top
      omega

end Readers

/-! ## After the close -/

section Closed

variable {conn after : Connection Link} {label : Label} {fails : Bool}

/-- What a closed connection keeps: one turn of the read loop, and no frame for it. -/
structure Sealed (conn : Connection Link) : Prop where
  stacked : Stacked conn
  reader : conn.readers ≤ 1
  drained : conn.closed = true → Drained conn
  notified : .onClosed ∈ conn.log → conn.closed = true
  quiet : conn.log.Pairwise fun earlier later => earlier = .onClosed → ∀ call, later ≠ .dispatched call

theorem Drained.keep (drained : Drained conn)
    (strand : ∀ read, .handleRead (.ok read) ∈ after.strand → .handleRead (.ok read) ∈ conn.strand)
    (stack : .handleBuffer ∈ after.stack → .handleBuffer ∈ conn.stack)
    (buffer : after.interpreter.buffer = conn.interpreter.buffer) : Drained after := by
  constructor
  · intro read mem
    rw [buffer]
    exact drained.read read (strand read mem)
  · intro mem
    rw [buffer]
    exact drained.loop (stack mem)

theorem drained_finishClose (drained : Drained conn) : Drained conn.finishClose := by
  unfold finishClose
  split
  · exact drained
  · exact drained.keep (fun _ mem => mem) (by simp) rfl

theorem drained_replace {place : Place} {send : Send} (drained : Drained conn) (found : conn.callAt place = some send)
    (new : Send) (stack : after.stack = conn.stack) (strand : after.strand = conn.strand)
    (interpreter : after.interpreter = conn.interpreter) : Drained (after.replace new place) := by
  refine drained.keep (by simp [strand]) ?_ (by simp [interpreter])
  cases place with
  | other index => simp [replace, stack]
  | strand =>
    obtain ⟨outer, top⟩ := callAt_strand found
    simp [replace, stack, top]

theorem drained_drop {place : Place} {send : Send} (drained : Drained conn) (found : conn.callAt place = some send)
    (stack : after.stack = conn.stack) (strand : after.strand = conn.strand)
    (interpreter : after.interpreter = conn.interpreter) : Drained (after.drop place) := by
  refine drained.keep (by simp [strand]) ?_ (by simp [interpreter])
  cases place with
  | other index => simp [Connection.drop, stack]
  | strand =>
    obtain ⟨outer, top⟩ := callAt_strand found
    simp [Connection.drop, stack, top]

theorem drained_sending (drained : Drained conn) (sending : Sending conn after) : Drained after := by
  cases sending with
  | retried place send phase found | tested place send phase found | overflowed place send found =>
    exact drained_replace drained found _ rfl rfl rfl
  | reserved place send found | rolledBack place send found =>
    exact drained_replace drained found _ (by simp) (by simp) (by simp)
  | refused place send found refused again => exact drained_drop drained found rfl rfl rfl
  | posted place send found holds =>
    have dropped : Drained (conn.drop place) := drained_drop drained found rfl rfl rfl
    exact dropped.keep (by simp) (by simp) (by simp)
  | overflowPosted index send found refused =>
    have dropped : Drained (conn.drop (.other index)) := drained_drop drained found rfl rfl rfl
    exact dropped.keep (by simp) (by simp) (by simp)
  | overflowClosed send found refused => exact drained_finishClose (drained_drop drained found rfl rfl rfl)

theorem Drained.taken {handler : Handler} {rest : List Handler} (drained : Drained conn)
    (takes : Takes conn handler rest) (strand : after.strand = rest) (stack : after.stack = [])
    (interpreter : after.interpreter = conn.interpreter) : Drained after := by
  refine drained.keep ?_ (by simp [stack]) (by simp [interpreter])
  intro read mem
  rw [takes.first]
  exact List.mem_cons_of_mem _ (strand ▸ mem)

theorem drained_handling (reader : conn.readers ≤ 1) (drained : Drained conn) (handling : Handling conn fails after) :
    Drained after := by
  cases handling with
  | startIgnored takes | started takes | stopIgnored force takes | stopDrains takes | sendDropped buffer size takes
  | sendQueued buffer size takes | sendStarted buffer size takes | writeIgnored result takes | wroteNext takes
  | wroteLast takes => exact drained.taken takes (by simp) (by simp [takes.idle]) (by simp)
  | stopForced force takes | writeFailed result takes | readFailed result takes =>
    exact drained_finishClose (drained.taken takes (by simp) (by simp [takes.idle]) (by simp))
  | stopShuts takes alive first isOpen free base isBase | wroteShuts takes alive write queue graceful base isBase =>
    have marked : Drained base := by
      subst isBase
      exact drained.taken takes (by simp) (by simp [takes.idle]) (by simp)
    split
    · exact drained_finishClose marked
    · exact marked
  | @readDone rest read takes =>
    constructor
    · -- this read was the only one
      intro other mem
      have counted : 0 < rest.countP Handler.reads := List.countP_pos_iff.mpr ⟨_, mem, rfl⟩
      simp only [readers, takes.first, List.countP_cons, Handler.reads, if_true] at reader
      omega
    · exact fun _ => drained.read read (by simp [takes.first])

theorem drained_step (stacked : Stacked conn) (reader : conn.readers ≤ 1) (drained : Drained conn)
    (shut : after.closed = true) (stepped : Stepped conn label after) : Drained after := by
  cases stepped with
  | sent | userSent => exact drained.keep (by simp) (by simp) rfl
  | stopped | writeCompleted | writeDone => exact drained.keep (by simp) (by simp) (by simp)
  | readCompleted result waits alive =>
    refine drained.keep (fun read mem => ?_) (by simp) (by simp)
    -- a closed socket completes no read with success
    have closed : conn.closed = true := by simpa using shut
    have isShut : conn.isOpen = false := by simpa [closed] using stacked.socket
    simp only [isShut, Bool.false_eq_true, false_or] at alive
    cases result with
    | ok other => cases alive
    | eof | operationAborted | failed => simpa using mem
  | sending sending => exact drained_sending drained sending
  | handling fails handling => exact drained_handling reader drained handling
  | @frameInvalid outer top status =>
    apply drained_finishClose
    -- the loop has the only turn, so no read is on the strand and no other loop runs
    simp only [readers, top, List.countP_cons, Activity.reads, if_true] at reader
    constructor
    · intro read mem
      have counted : 0 < conn.strand.countP Handler.reads := List.countP_pos_iff.mpr ⟨_, by simpa using mem, rfl⟩
      omega
    · intro mem
      have counted : 0 < outer.countP Activity.reads := List.countP_pos_iff.mpr ⟨_, by simpa [top] using mem, rfl⟩
      omega
  | frameIncomplete top | released write writes top | notified top | unnotified top =>
    exact drained.keep (by simp) (by simp [top]) (by simp)
  | frameDispatched top status rest call => exact absurd status (drained.loop (by simp [top]))
  | userClosed user => exact drained_finishClose drained
  | userReturned user => exact drained.keep (by simp) (by simpa using List.mem_of_mem_tail) (by simp)

/-! ### The log -/

inductive Logged (conn after : Connection Link) : Prop where
  | other (events : List (Event Link)) (log : after.log = conn.log ++ events)
      (quiet : ∀ call, .dispatched call ∉ events) (unnotified : .onClosed ∉ events)
      (shut : conn.closed = true → after.closed = true)
  | dispatched (call : Dispatch Link) (log : after.log = conn.log ++ [.dispatched call])
      (loop : .handleBuffer ∈ conn.stack) (complete : Dispatchable conn.interpreter.buffer)
      (shut : after.closed = conn.closed)
  | notified (log : after.log = conn.log ++ [.onClosed]) (shut : after.closed = true)

theorem logged_sending (sending : Sending conn after) : Logged conn after := by
  cases sending with
  | retried | tested | overflowed | refused | overflowPosted | overflowClosed =>
    exact .other [] (by simp) (by simp) (by simp) (by simp)
  | reserved place send found tested =>
    exact .other [.reserved send.buffer] (by simp) (by simp) (by simp) (by simp)
  | rolledBack place send found holds =>
    exact .other [.released send.buffer] (by simp) (by simp) (by simp) (by simp)
  | posted place send found holds => exact .other [.posted send.buffer] (by simp) (by simp) (by simp) (by simp)

theorem logged_handling (handling : Handling conn fails after) : Logged conn after := by
  cases handling with
  | startIgnored | started | stopIgnored | stopForced | writeIgnored | writeFailed | readFailed | readDone =>
    exact .other [] (by simp) (by simp) (by simp) (by simp)
  | stopDrains takes alive first isOpen busy => exact .other [.stopRan] (by simp) (by simp) (by simp) (by simp)
  | stopShuts takes alive first isOpen free base isBase =>
    subst isBase
    refine .other [.stopRan, .shutdownSend] ?_ (by simp) (by simp) (by simp [alive])
    split <;> simp
  | sendDropped buffer size takes dropped => exact .other [.released buffer] (by simp) (by simp) (by simp) (by simp)
  | sendQueued buffer size takes alive ungraceful fits isOpen busy =>
    exact .other [.queued buffer] (by simp) (by simp) (by simp) (by simp)
  | sendStarted buffer size takes alive ungraceful fits isOpen free =>
    exact .other [.queued buffer, .writeStarted buffer] (by simp) (by simp) (by simp) (by simp)
  | wroteNext takes alive write next writes queue =>
    exact .other [.released write.buffer, .writeStarted next.buffer] (by simp) (by simp) (by simp) (by simp)
  | wroteLast takes alive write queue ungraceful =>
    exact .other [.released write.buffer] (by simp) (by simp) (by simp) (by simp)
  | wroteShuts takes alive write queue graceful base isBase =>
    subst isBase
    refine .other [.released write.buffer, .shutdownSend] ?_ (by simp) (by simp) (by simp [alive])
    split <;> simp

theorem logged_step (stacked : Stacked conn) (stepped : Stepped conn label after) : Logged conn after := by
  cases stepped with
  | sent | readCompleted | writeCompleted | frameInvalid | frameIncomplete | unnotified | userSent | userClosed
  | userReturned => exact .other [] (by simp) (by simp) (by simp) (by simp)
  | stopped force =>
    exact .other (if force then [] else [.stopPosted]) (by simp) (by cases force <;> simp) (by cases force <;> simp)
      (by simp)
  | writeDone index buffer found alive => exact .other [.written buffer] (by simp) (by simp) (by simp) (by simp)
  | sending sending => exact logged_sending sending
  | handling fails handling => exact logged_handling handling
  | frameDispatched top status rest call => exact .dispatched call (by simp) (by simp [top]) status (by simp)
  | released write writes top =>
    exact .other [.released write.buffer] (by simp) (by simp) (by simp) (by simp)
  | notified top set =>
    have shut : conn.closed = true := stacked.shut [] (by simp [top])
    exact .notified (by simp) (by simpa using shut)

theorem sealed_step (holds : Sealed conn) (closes : conn.closed = false → after.closed = true → Drained conn)
    (stepped : Stepped conn label after) : Sealed after := by
  obtain ⟨stacked, reader, drained, notified, quiet⟩ := holds
  have logged := logged_step stacked stepped
  refine ⟨stacked_step stacked stepped, Nat.le_trans (readers_step stepped) reader, fun shut => ?_, ?_, ?_⟩
  · cases open' : conn.closed with
    | true => exact drained_step stacked reader (drained open') shut stepped
    | false => exact drained_step stacked reader (closes open' shut) shut stepped
  · cases logged with
    | other events log calm unnotified shut =>
      intro mem
      rw [log] at mem
      rcases List.mem_append.mp mem with mem | mem
      · exact shut (notified mem)
      · exact absurd mem unnotified
    | dispatched call log loop complete shut =>
      intro mem
      rw [log] at mem
      rw [shut]
      exact notified (by simpa using mem)
    | notified log shut => exact fun _ => shut
  · cases logged with
    | other events log calm unnotified shut =>
      rw [log, List.pairwise_append]
      refine ⟨quiet, ?_, fun _ _ later mem _ call same => calm call (same ▸ mem)⟩
      exact List.Pairwise.imp_of_mem (fun {_ later} _ mem _ _ call same => calm call (same ▸ mem))
        (List.pairwise_of_forall fun _ _ => trivial)
    | dispatched call log loop complete shut =>
      rw [log, List.pairwise_append]
      refine ⟨quiet, List.pairwise_singleton _ _, fun earlier mem later _ same => ?_⟩
      -- the loop only dispatches while the connection is open
      have closed : conn.closed = true := notified (same ▸ mem)
      exact absurd complete ((drained closed).loop loop)
    | notified log shut =>
      rw [log, List.pairwise_append]
      exact ⟨quiet, List.pairwise_singleton _ _, by simp⟩

theorem sealed_initial (limit : Fin (2 ^ 64)) (onClosed : Bool) (link : Option Link) :
    Sealed (initial limit onClosed link) := by
  refine ⟨stacked_initial limit onClosed link, ?_, ?_, ?_, ?_⟩ <;> simp [initial, readers, Handler.reads]

end Closed

/-- Along every run whose closes find no complete frame waiting, nothing is dispatched after
the close handler was called. -/
theorem no_dispatch_after_close (limit : Fin (2 ^ 64)) (onClosed : Bool) (link : Option Link)
    (history : List (Transition (Connection Link) Label)) (conn : Connection Link)
    (run : Run Connection.step (initial limit onClosed link) history conn)
    (drained : ∀ move ∈ history, ClosesDrained move) :
    conn.log.Pairwise fun earlier later => earlier = .onClosed → ∀ call, later ≠ .dispatched call := by
  have kept : Sealed conn := by
    refine run.invariant_of (sealed_initial limit onClosed link) drained fun move closes holds moved => ?_
    exact sealed_step holds closes (stepped_of_step moved)
  exact kept.quiet

def emptyFrame : Read := ⟨Vector.replicate 128 0, 12, by decide⟩

def closedWhileIdle : List Label :=
  [.run false, .readCompletes (.ok emptyFrame), .run false, .resume false, .call .return, .resume false, .run false,
    .stop true, .run false, .resume false, .call .return, .readCompletes .operationAborted, .run false]

theorem no_dispatch_after_close_idle :
    (final Connection.step (initial 8 true (none : Option Unit)) closedWhileIdle).log =
        [.dispatched ⟨⟨0⟩, [], none⟩, .onClosed] ∧
      (final Connection.step (initial 8 true (none : Option Unit)) closedWhileIdle).log.Pairwise
        fun earlier later => earlier = .onClosed → ∀ call, later ≠ .dispatched call := by
  refine ⟨by decide +kernel, no_dispatch_after_close 8 true none _ _ (run_of_enabled (by decide +kernel)) ?_⟩
  decide +kernel

def closedBeforeRead : List Label :=
  [.run false, .stop true, .readCompletes (.ok emptyFrame), .run false, .resume false, .call .return, .run false,
    .resume false]

theorem queued_read_is_dispatched :
    ∃ history, ∃ conn : Connection Unit, Run Connection.step (initial 8 true none) history conn ∧
      ¬ conn.log.Pairwise fun earlier later => earlier = .onClosed → ∀ call, later ≠ .dispatched call := by
  refine ⟨transitions Connection.step (initial 8 true none) closedBeforeRead,
    final Connection.step (initial 8 true none) closedBeforeRead, run_of_enabled (by decide +kernel), ?_⟩
  have log : (final Connection.step (initial 8 true (none : Option Unit)) closedBeforeRead).log =
      [.onClosed, .dispatched ⟨⟨0⟩, [], none⟩] := by decide +kernel
  rw [log]
  simp

end Rsp.Server
