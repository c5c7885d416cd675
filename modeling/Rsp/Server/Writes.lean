import Rsp.Foundation.Outbox
import Rsp.Server.Budget

/-! The writes of a connection and its graceful stop.

The strand, the write queue and the outstanding writes of a connection are an outbox. What
is written is therefore written in the order of the posts, one message at a time, and a
graceful stop shuts the socket down once everything posted ahead of it is written.
-/

set_option autoImplicit false

namespace Rsp.Server

open Message Foundation Connection

variable {Link : Type}

@[simp] def Event.post : Event Link → Option (Option Buffer)
  | .posted buffer => some (some buffer)
  | .stopPosted => some none
  | _ => none

@[simp] def Event.acceptance : Event Link → Option Buffer
  | .queued buffer => some buffer
  | _ => none

@[simp] def Event.completion : Event Link → Option Buffer
  | .written buffer => some buffer
  | _ => none

@[simp] def Event.isShutdown : Event Link → Bool
  | .shutdownSend => true
  | _ => false

@[simp] def Handler.post : Handler → Option (Option Buffer)
  | .sendImpl buffer _ => some (some buffer)
  | .activeStopImpl false => some none
  | _ => none

@[simp] def Handler.completion : Handler → Option Bool
  | .handleWrite result => some (result = .ok)
  | _ => none

namespace Connection

def posted (self : Connection Link) : List Buffer := (self.log.filterMap Event.post).reduceOption

def accepted (self : Connection Link) : List Buffer := self.log.filterMap Event.acceptance

def written (self : Connection Link) : List Buffer := self.log.filterMap Event.completion

def outbox (self : Connection Link) : Outbox Buffer where
  posted := self.log.filterMap Event.post
  waiting := self.strand.filterMap Handler.post
  queue := self.writeQueue.map PendingWrite.buffer
  flying := self.writes
  finished := self.strand.filterMap Handler.completion
  accepted := self.accepted
  written := self.written
  shutdowns := self.log.countP Event.isShutdown
  stopping := self.gracefulCloseRequested
  refusing := self.sendOverflowed
  closed := self.closed

end Connection

section Steps

variable {conn after : Connection Link} {label : Label} {fails : Bool}

@[simp] theorem outbox_finishClose (conn : Connection Link) :
    conn.finishClose.outbox = { conn.outbox with closed := true } := by
  simp [outbox, accepted, written]

@[simp] theorem outbox_replace (send : Send) (place : Place) : (conn.replace send place).outbox = conn.outbox := by
  simp [outbox, accepted, written]

@[simp] theorem outbox_drop (place : Place) : (conn.drop place).outbox = conn.outbox := by
  simp [outbox, accepted, written]

theorem outbox_sending (sending : Sending conn after) : Outbox.Step conn.outbox after.outbox := by
  cases sending with
  | retried | tested =>
    rw [outbox_replace]
    exact .keep
  | reserved | rolledBack | overflowPosted =>
    have step : Outbox.Step conn.outbox _ := .keep
    simpa [outbox, accepted, written, List.filterMap_cons] using step
  | overflowed | refused =>
    have step : Outbox.Step conn.outbox _ := .refuse
    simpa [outbox, accepted, written, List.filterMap_cons] using step
  | posted place send found holds =>
    have step : Outbox.Step conn.outbox _ := .post (some send.buffer)
    simpa [outbox, accepted, written, List.filterMap_cons] using step
  | overflowClosed send found refused =>
    have step : Outbox.Step conn.outbox _ := .close
    simpa using step

theorem outbox_taken {handler : Handler} {rest : List Handler} (takes : Takes conn handler rest)
    (post : handler.post = none) (completion : handler.completion = none) : (conn.take rest).outbox = conn.outbox := by
  simp only [outbox, accepted, written, takes.first, List.filterMap_cons_none post,
    List.filterMap_cons_none completion, take_strand, take_log, take_writeQueue, take_writes, take_closed,
    take_gracefulCloseRequested, take_sendOverflowed]

theorem waiting_first {handler : Handler} {rest : List Handler} {item : Option Buffer} (takes : Takes conn handler rest)
    (post : handler.post = some item) : conn.outbox.waiting = item :: rest.filterMap Handler.post := by
  rw [outbox, takes.first, List.filterMap_cons_some post]

theorem finished_first {handler : Handler} {rest : List Handler} {result : Bool} (takes : Takes conn handler rest)
    (completion : handler.completion = some result) :
    conn.outbox.finished = result :: rest.filterMap Handler.completion := by
  rw [outbox, takes.first, List.filterMap_cons_some completion]

theorem outbox_handling (stacked : Stacked conn) (handling : Handling conn fails after) :
    Outbox.Step conn.outbox after.outbox := by
  cases handling with
  | startIgnored takes shut =>
    rw [outbox_taken takes rfl rfl]
    exact .keep
  | @started rest takes | @readDone rest read takes =>
    have taken := outbox_taken takes rfl rfl
    change Outbox.Step conn.outbox (conn.take rest).outbox
    rw [taken]
    exact .keep
  | @stopIgnored rest force takes ignored =>
    cases force with
    | true =>
      rw [outbox_taken takes rfl rfl]
      exact .keep
    | false =>
      have first : conn.outbox.waiting = none :: rest.filterMap Handler.post := by
        simp [outbox, takes.first, List.filterMap_cons]
      have step : Outbox.Step conn.outbox _ := .ignore first (by simpa [outbox] using ignored)
      simpa [outbox, accepted, written, takes.first, List.filterMap_cons] using step
  | stopForced force takes alive forced =>
    -- the socket of an open connection is open, so the stop was a forced one
    obtain rfl : force = true := by
      rcases forced with shut | forced
      · rw [stacked.socket, alive] at shut
        cases shut
      · exact forced
    rw [outbox_finishClose, outbox_taken takes rfl rfl]
    exact .close
  | @stopDrains rest takes alive going isOpen busy =>
    have first : conn.outbox.waiting = none :: rest.filterMap Handler.post := waiting_first takes rfl
    have step : Outbox.Step conn.outbox _ := .stop first alive going (by simpa [outbox] using busy)
    simpa [outbox, accepted, written, takes.first, List.filterMap_cons] using step
  | @stopShuts rest takes alive going isOpen free base isBase =>
    have first : conn.outbox.waiting = none :: rest.filterMap Handler.post := waiting_first takes rfl
    have step : Outbox.Step conn.outbox _ := .shut first alive going (by simpa [outbox] using free) fails
    subst isBase
    cases fails with
    | true => simpa [outbox, accepted, written, takes.first, List.filterMap_cons] using step
    | false => simpa [outbox, accepted, written, takes.first, List.filterMap_cons, alive] using step
  | @sendDropped rest buffer size takes dropped =>
    have first : conn.outbox.waiting = some buffer :: rest.filterMap Handler.post := waiting_first takes rfl
    have reason : conn.closed = true ∨ conn.gracefulCloseRequested = true ∨ conn.sendOverflowed = true := by
      rcases dropped with shut | stopping | refusing | shut
      · exact .inl shut
      · exact .inr (.inl stopping)
      · exact .inr (.inr refusing)
      · rw [stacked.socket] at shut
        exact .inl (by simpa using shut)
    have step : Outbox.Step conn.outbox _ := .drop first reason
    simpa [outbox, accepted, written, takes.first, List.filterMap_cons] using step
  | @sendQueued rest buffer size takes alive going taking isOpen busy =>
    have first : conn.outbox.waiting = some buffer :: rest.filterMap Handler.post := waiting_first takes rfl
    have step : Outbox.Step conn.outbox _ := .accept first alive going taking (by simpa [outbox] using busy)
    simpa [outbox, accepted, written, takes.first, List.filterMap_cons] using step
  | @sendStarted rest buffer size takes alive going taking isOpen free =>
    have first : conn.outbox.waiting = some buffer :: rest.filterMap Handler.post := waiting_first takes rfl
    have step : Outbox.Step conn.outbox _ := .start first alive going taking (by simpa [outbox] using free)
    simpa [outbox, accepted, written, takes.first, List.filterMap_cons] using step
  | @writeIgnored rest result takes shut =>
    have first : conn.outbox.finished = decide (result = .ok) :: rest.filterMap Handler.completion := finished_first takes rfl
    have step : Outbox.Step conn.outbox _ := .skip first shut
    simpa [outbox, accepted, written, takes.first, List.filterMap_cons] using step
  | @writeFailed rest result takes failed alive =>
    have first : conn.outbox.finished = false :: rest.filterMap Handler.completion := finished_first takes (by simp [failed])
    have step : Outbox.Step conn.outbox _ := .broken first alive
    simpa [outbox, accepted, written, takes.first, List.filterMap_cons] using step
  | @wroteNext rest takes alive write next writes queue =>
    have first : conn.outbox.finished = true :: rest.filterMap Handler.completion := finished_first takes rfl
    have head : conn.outbox.queue = write.buffer :: next.buffer :: writes.map PendingWrite.buffer := by
      simp [outbox, queue]
    have step : Outbox.Step conn.outbox _ := .next first alive head
    simpa [outbox, accepted, written, takes.first, List.filterMap_cons] using step
  | @wroteLast rest takes alive write queue going =>
    have first : conn.outbox.finished = true :: rest.filterMap Handler.completion := finished_first takes rfl
    have head : conn.outbox.queue = [write.buffer] := by simp [outbox, queue]
    have step : Outbox.Step conn.outbox _ := .last first alive head going
    simpa [outbox, accepted, written, takes.first, List.filterMap_cons] using step
  | @wroteShuts rest takes alive write queue stopping base isBase =>
    have first : conn.outbox.finished = true :: rest.filterMap Handler.completion := finished_first takes rfl
    have head : conn.outbox.queue = [write.buffer] := by simp [outbox, queue]
    have step : Outbox.Step conn.outbox _ := .drain first alive head stopping fails
    subst isBase
    cases fails with
    | true => simpa [outbox, accepted, written, takes.first, List.filterMap_cons] using step
    | false => simpa [outbox, accepted, written, takes.first, List.filterMap_cons, alive] using step
  | readFailed result takes failed =>
    rw [outbox_finishClose, outbox_taken takes rfl rfl]
    exact .close

theorem outbox_step (stacked : Stacked conn) (stepped : Stepped conn label after) :
    Outbox.Step conn.outbox after.outbox := by
  cases stepped with
  | sent | userSent | userReturned => exact .keep
  | stopped force called =>
    cases force with
    | true =>
      have step : Outbox.Step conn.outbox _ := .keep
      simpa [outbox, accepted, written, List.filterMap_cons] using step
    | false =>
      have step : Outbox.Step conn.outbox _ := .post none
      simpa [outbox, accepted, written, List.filterMap_cons] using step
  | readCompleted | frameIncomplete | frameDispatched | released =>
    have step : Outbox.Step conn.outbox _ := .keep
    simpa [outbox, accepted, written, List.filterMap_cons] using step
  | writeCompleted index buffer result found failed completes =>
    have step : Outbox.Step conn.outbox _ := .fail found
    simpa [outbox, accepted, written, List.filterMap_cons, failed] using step
  | writeDone index buffer found alive =>
    rw [stacked.socket, Bool.not_eq_true'] at alive
    have step : Outbox.Step conn.outbox _ := .finish found alive
    simpa [outbox, accepted, written, List.filterMap_cons] using step
  | sending sending => exact outbox_sending sending
  | handling fails handling runs => exact outbox_handling stacked handling
  | frameInvalid | userClosed =>
    rw [outbox_finishClose]
    exact .close
  | notified top | unnotified top =>
    have shut := stacked.shut [] (by simp [top])
    have step : Outbox.Step conn.outbox _ := .clear shut
    simpa [outbox, accepted, written, List.filterMap_cons] using step

/-! ## The log -/

/-- The socket is shut down once and after the last write; the close handler is called
once and no write starts after it. -/
def Orderly (earlier later : Event Link) : Prop :=
  (earlier = .shutdownSend → later ≠ .shutdownSend ∧ ∀ buffer, later ≠ .written buffer) ∧
    (earlier = .onClosed → later ≠ .onClosed ∧ ∀ buffer, later ≠ .writeStarted buffer)

structure Notes (conn after : Connection Link) (events : List (Event Link)) : Prop where
  log : after.log = conn.log ++ events
  stops : .stopRan ∈ events → after.gracefulCloseRequested = true := by simp
  stopping : after.gracefulCloseRequested = true → conn.gracefulCloseRequested = true ∨ .stopRan ∈ events := by simp
  graceful : conn.gracefulCloseRequested = true → after.gracefulCloseRequested = true := by simp
  closed : conn.closed = true → after.closed = true := by simp
  onClosed : conn.onClosed = false → after.onClosed = false := by simp
  shuts : .shutdownSend ∈ events → conn.gracefulCloseRequested = false ∨ conn.writeQueue ≠ [] := by simp
  wrote : ∀ buffer, .written buffer ∈ events → conn.writes ≠ [] := by simp
  starts : ∀ buffer, .writeStarted buffer ∈ events → conn.closed = false := by simp
  notifies : .onClosed ∈ events → conn.onClosed = true ∧ after.closed = true ∧ after.onClosed = false := by simp
  within : events.Pairwise Orderly := by simp [Orderly]

theorem notes_sending (sending : Sending conn after) : ∃ events, Notes conn after events := by
  cases sending with
  | retried | tested | overflowed | refused | overflowPosted | overflowClosed => exact ⟨[], { log := by simp }⟩
  | reserved place send found tested => exact ⟨[.reserved send.buffer], { log := by simp }⟩
  | rolledBack place send found holds => exact ⟨[.released send.buffer], { log := by simp }⟩
  | posted place send found holds => exact ⟨[.posted send.buffer], { log := by simp }⟩

theorem notes_handling (handling : Handling conn fails after) : ∃ events, Notes conn after events := by
  cases handling with
  | startIgnored | started | stopIgnored | stopForced | writeIgnored | writeFailed | readFailed | readDone =>
    exact ⟨[], { log := by simp }⟩
  | stopDrains takes alive first isOpen busy => exact ⟨[.stopRan], { log := by simp }⟩
  | stopShuts takes alive first isOpen free base isBase =>
    subst isBase
    refine ⟨[.stopRan, .shutdownSend], ?_⟩
    cases fails with
    | true | false => exact { log := by simp, shuts := fun _ => .inl first }
  | sendDropped buffer size takes dropped => exact ⟨[.released buffer], { log := by simp }⟩
  | sendQueued buffer size takes alive ungraceful fits isOpen busy => exact ⟨[.queued buffer], { log := by simp }⟩
  | sendStarted buffer size takes alive ungraceful fits isOpen free =>
    exact ⟨[.queued buffer, .writeStarted buffer], { log := by simp, starts := fun _ _ => alive }⟩
  | wroteNext takes alive write next writes queue =>
    exact ⟨[.released write.buffer, .writeStarted next.buffer], { log := by simp, starts := fun _ _ => alive }⟩
  | wroteLast takes alive write queue ungraceful => exact ⟨[.released write.buffer], { log := by simp }⟩
  | wroteShuts takes alive write queue graceful base isBase =>
    subst isBase
    refine ⟨[.released write.buffer, .shutdownSend], ?_⟩
    cases fails with
    | true | false => exact { log := by simp, shuts := fun _ => .inr (by simp [queue]) }

theorem notes_step (stacked : Stacked conn) (stepped : Stepped conn label after) :
    ∃ events, Notes conn after events := by
  cases stepped with
  | sent | readCompleted | writeCompleted | frameInvalid | frameIncomplete | unnotified | userSent | userClosed
  | userReturned => exact ⟨[], { log := by simp }⟩
  | stopped force called =>
    cases force with
    | true => exact ⟨[], { log := by simp }⟩
    | false => exact ⟨[.stopPosted], { log := by simp }⟩
  | writeDone index buffer found alive =>
    have flying := List.ne_nil_of_mem (List.mem_of_getElem? found)
    exact ⟨[.written buffer], { log := by simp, wrote := fun _ _ => flying }⟩
  | sending sending => exact notes_sending sending
  | handling fails handling runs => exact notes_handling handling
  | frameDispatched top status rest call => exact ⟨[.dispatched call], { log := by simp }⟩
  | released write writes top => exact ⟨[.released write.buffer], { log := by simp }⟩
  | notified top set =>
    have shut : conn.closed = true := stacked.shut [] (by simp [top])
    exact ⟨[.onClosed], { log := by simp, notifies := fun _ => ⟨set, by simpa using shut, by simp⟩ }⟩

structure Recorded (conn : Connection Link) : Prop where
  stacked : Stacked conn
  regular : conn.outbox.Regular
  stops : .stopRan ∈ conn.log ↔ conn.gracefulCloseRequested = true
  notified : .onClosed ∈ conn.log → conn.closed = true ∧ conn.onClosed = false
  orderly : conn.log.Pairwise Orderly

theorem shutdowns_pos {conn : Connection Link} (shut : .shutdownSend ∈ conn.log) : 0 < conn.outbox.shutdowns :=
  List.countP_pos_iff.mpr ⟨_, shut, rfl⟩

theorem recorded_step (recorded : Recorded conn) (stepped : Stepped conn label after) : Recorded after := by
  obtain ⟨stacked, regular, stops, notified, orderly⟩ := recorded
  obtain ⟨events, notes⟩ := notes_step stacked stepped
  refine ⟨stacked_step stacked stepped, Outbox.regular_step regular (outbox_step stacked stepped), ?_, ?_, ?_⟩
  · rw [notes.log, List.mem_append, stops]
    constructor
    · rintro (graceful | ran)
      · exact notes.graceful graceful
      · exact notes.stops ran
    · exact notes.stopping
  · intro mem
    rw [notes.log, List.mem_append] at mem
    rcases mem with before | now
    · obtain ⟨closed, called⟩ := notified before
      exact ⟨notes.closed closed, notes.onClosed called⟩
    · exact (notes.notifies now).2
  · rw [notes.log, List.pairwise_append]
    refine ⟨orderly, notes.within, fun earlier mem later new => ⟨?_, ?_⟩⟩
    · rintro rfl
      -- after the shutdown nothing is queued or outstanding any more
      obtain ⟨graceful, queue, flying, -⟩ := regular.shut.drained (shutdowns_pos mem)
      constructor
      · rintro rfl
        rcases notes.shuts new with going | busy
        · exact absurd (going.symm.trans graceful) (by simp)
        · exact busy (by simpa [outbox] using queue)
      · rintro buffer rfl
        exact notes.wrote buffer new flying
    · rintro rfl
      obtain ⟨closed, called⟩ := notified mem
      constructor
      · rintro rfl
        exact absurd ((notes.notifies new).1.symm.trans called) (by simp)
      · rintro buffer rfl
        exact absurd ((notes.starts buffer new).symm.trans closed) (by simp)

theorem recorded_initial (limit : Fin (2 ^ 64)) (onClosed : Bool) (link : Option Link) :
    Recorded (initial limit onClosed link) := by
  refine ⟨stacked_initial limit onClosed link, ⟨?_, ?_, ?_⟩, by simp [initial], by simp [initial], by simp [initial]⟩
  · exact Outbox.ordered_of_flight .idle rfl
  · constructor <;> simp [initial, outbox, accepted, Outbox.ahead, beforeStop, List.filterMap_cons]
  · constructor <;> simp [initial, outbox]

/-! ## Undisturbed runs -/

/-- A step that is no forced stop, no overflow and no error. -/
def Undisturbed (move : Transition (Connection Link) Label) : Prop :=
  move.after.sendOverflowed = false ∧
    match move.label with
    | .stop force => force = false
    | .call (.stop force) => force = false
    | .run shutdownFails => shutdownFails = false
    | .readCompletes result => result.isOk = true
    | .writeCompletes _ result => result = .ok
    | .resume _ => move.before.stack.head? = some .handleBuffer →
        (Serializer.destructBuffer move.before.interpreter.buffer).status ≠ .kInvalid
    | _ => True

instance (move : Transition (Connection Link) Label) : Decidable (Undisturbed move) := by
  unfold Undisturbed
  split <;> infer_instance

def Handler.calm : Handler → Prop
  | .activeStopImpl force => force = false
  | .handleWrite result => result = .ok
  | .handleRead result => result.isOk = true
  | _ => True

structure Calm (conn : Connection Link) : Prop where
  alive : conn.closed = false
  fits : conn.sendOverflowed = false
  strand : ∀ handler ∈ conn.strand, handler.calm
  calls : ∀ send ∈ conn.calling, send.phase ≠ .stop

theorem Calm.keep (calm : Calm conn) (fits : after.sendOverflowed = false) (alive : after.closed = conn.closed)
    (strand : ∀ handler ∈ after.strand, handler ∈ conn.strand ∨ handler.calm)
    (calls : ∀ send ∈ after.calling, send ∈ conn.calling ∨ send.phase ≠ .stop) : Calm after := by
  refine ⟨alive.trans calm.alive, fits, fun handler mem => ?_, fun send mem => ?_⟩
  · rcases strand handler mem with known | new
    · exact calm.strand handler known
    · exact new
  · rcases calls send mem with known | new
    · exact calm.calls send known
    · exact new

theorem calm_sending (calm : Calm conn) (fits : after.sendOverflowed = false) (sending : Sending conn after) :
    Calm after := by
  cases sending with
  | retried place send phase found early next =>
    refine calm.keep fits (by simp) (by simp +contextual) fun other mem => ?_
    rcases mem_calling_replace found rfl rfl mem with rfl | known
    · right
      rcases next with rfl | rfl | ⟨rfl, -⟩ <;> simp
    · exact .inl known
  | reserved place send found | rolledBack place send found =>
    refine calm.keep fits (by simp) (by simp +contextual) fun other mem => ?_
    rcases mem_calling_replace found (by simp) (by simp) mem with rfl | known
    · exact .inr (by simp)
    · exact .inl known
  | tested place send phase found holds next =>
    refine calm.keep fits (by simp) (by simp +contextual) fun other mem => ?_
    rcases mem_calling_replace found rfl rfl mem with rfl | known
    · right
      rcases next with rfl | rfl <;> simp
    · exact .inl known
  | overflowed | refused => simp at fits
  | posted place send found holds =>
    refine calm.keep fits (by simp) (fun handler mem => ?_) fun other mem => ?_
    · simp only [postSend_strand, drop_strand, List.mem_append, List.mem_singleton] at mem
      rcases mem with known | rfl
      · exact .inl known
      · exact .inr trivial
    · exact .inl (mem_calling_drop found rfl rfl mem)
  | overflowPosted index send found refused | overflowClosed send found refused =>
    exact absurd refused (calm.calls send (calling_mem found))

theorem Calm.taken (calm : Calm conn) {handler : Handler} {rest : List Handler} (takes : Takes conn handler rest)
    (fits : after.sendOverflowed = false) (alive : after.closed = conn.closed) (strand : after.strand = rest)
    (calls : after.calling = conn.calling) : Calm after := by
  refine calm.keep fits alive (fun other mem => .inl ?_) (fun send mem => .inl (calls ▸ mem))
  rw [takes.first]
  exact List.mem_cons_of_mem _ (strand ▸ mem)

theorem calm_handling (stacked : Stacked conn) (calm : Calm conn) (fits : after.sendOverflowed = false)
    (handling : Handling conn false after) : Calm after := by
  have first {handler : Handler} {rest : List Handler} (takes : Takes conn handler rest) : handler.calm :=
    calm.strand handler (by simp [takes.first])
  cases handling with
  | startIgnored takes | started takes | stopIgnored force takes | stopDrains takes | sendDropped buffer size takes
  | sendQueued buffer size takes | sendStarted buffer size takes | writeIgnored result takes | wroteNext takes
  | wroteLast takes => exact calm.taken takes fits (by simp) (by simp) (by simp [calling])
  | stopForced force takes alive forced =>
    rcases forced with shut | rfl
    · rw [stacked.socket, alive] at shut
      cases shut
    · cases first takes
  | stopShuts takes alive going isOpen free base isBase | wroteShuts takes alive write queue stopping base isBase =>
    subst isBase
    exact calm.taken takes fits (by simp) (by simp) (by simp [calling])
  | writeFailed result takes failed alive => exact absurd (first takes) failed
  | readFailed result takes failed =>
    have ok : result.isOk = true := first takes
    exact absurd (failed.symm.trans ok) (by simp)
  | readDone read takes =>
    exact calm.taken takes fits (by simp) (by simp) (by simp [calling, takes.idle, Activity.send])

theorem calm_step (stacked : Stacked conn) (calm : Calm conn) (undisturbed : Undisturbed ⟨conn, label, after⟩)
    (stepped : Stepped conn label after) : Calm after := by
  obtain ⟨fits, quiet⟩ := undisturbed
  cases stepped with
  | sent bytes =>
    refine calm.keep fits rfl (by simp +contextual) fun send mem => ?_
    simp only [calling, List.mem_append, List.mem_singleton] at mem ⊢
    rcases mem with (known | rfl) | known
    · exact .inl (.inl known)
    · exact .inr (by simp)
    · exact .inl (.inr known)
  -- the user forces no stop, and none is forced for it
  | stopped force called =>
    have graceful : force = false := by
      rcases called with rfl | ⟨-, graceful⟩
      · exact quiet
      · exact graceful
    refine calm.keep fits (by simp) (fun handler mem => ?_) (by simp +contextual [calling])
    simp only [postStop_strand, List.mem_append, List.mem_singleton] at mem
    rcases mem with known | rfl
    · exact .inl known
    · exact .inr graceful
  | readCompleted result waits alive completes =>
    subst completes
    refine calm.keep fits (by simp) (fun handler mem => ?_) (by simp +contextual [calling])
    simp only [post_strand, List.mem_append, List.mem_singleton] at mem
    rcases mem with known | rfl
    · exact .inl known
    · exact .inr quiet
  | writeCompleted index buffer result found failed completes =>
    subst completes
    exact absurd quiet failed
  | writeDone index buffer found alive =>
    refine calm.keep fits (by simp) (fun handler mem => ?_) (by simp +contextual [calling])
    simp only [record_strand, post_strand, List.mem_append, List.mem_singleton] at mem
    rcases mem with known | rfl
    · exact .inl known
    · exact .inr rfl
  | sending sending => exact calm_sending calm fits sending
  | handling fails handling runs =>
    subst runs
    cases quiet
    exact calm_handling stacked calm fits handling
  | frameInvalid top status spurious resumes =>
    subst resumes
    exact absurd status (quiet (by simp [top]))
  | frameIncomplete top status =>
    refine calm.keep fits (by simp) (fun handler mem => ?_) (by simp +contextual [calling, top, Activity.send])
    simp only [post_strand, pop_strand, List.mem_append, List.mem_singleton] at mem
    rcases mem with known | rfl
    · exact .inl known
    · exact .inr trivial
  | frameDispatched top status rest call =>
    exact calm.keep fits (by simp) (by simp +contextual) (by simp +contextual [calling, Activity.send])
  | released write writes top | notified top | unnotified top =>
    exact calm.keep fits (by simp) (by simp +contextual) (by simp +contextual [calling, top, Activity.send])
  | userSent bytes user =>
    refine calm.keep fits rfl (by simp +contextual) fun send mem => ?_
    simp only [calling, List.filterMap_cons, Activity.send, List.mem_append, List.mem_cons] at mem ⊢
    rcases mem with known | rfl | known
    · exact .inl (.inl known)
    · exact .inr (by simp)
    · exact .inl (.inr known)
  -- closing from a callback is a disturbance
  | userClosed user called =>
    subst called
    cases quiet
  | userReturned user =>
    refine calm.keep fits (by simp) (by simp +contextual) fun send mem => .inl ?_
    obtain ⟨outer, top | top⟩ := user <;> simpa [calling, top, Activity.send] using mem

/-! ## Messages are posted once -/


structure Issued (conn : Connection Link) : Prop where
  once : (conn.posted ++ conn.calling.map Send.buffer).Nodup
  numbered : ∀ buffer ∈ conn.posted ++ conn.calling.map Send.buffer, buffer.ptr < conn.calls

theorem Issued.keep (issued : Issued conn) (calls : after.calls = conn.calls)
    (fewer : (after.posted ++ after.calling.map Send.buffer).Subperm (conn.posted ++ conn.calling.map Send.buffer)) :
    Issued after := by
  obtain ⟨list, same, part⟩ := fewer
  refine ⟨same.nodup_iff.mp (part.nodup issued.once), fun buffer mem => ?_⟩
  rw [calls]
  exact issued.numbered buffer (part.subset (same.mem_iff.mpr mem))

theorem Issued.same (issued : Issued conn) (calls : after.calls = conn.calls) (posted : after.posted = conn.posted)
    (calling : after.calling = conn.calling) : Issued after := by
  refine issued.keep calls ?_
  rw [posted, calling]

theorem Issued.called (issued : Issued conn) (bytes : RawBuffer) (calls : after.calls = conn.calls + 1)
    (posted : after.posted = conn.posted)
    (calling : after.calling.Perm (⟨⟨conn.calls, bytes⟩, .loadOverflowed⟩ :: conn.calling)) : Issued after := by
  have grown : (after.posted ++ after.calling.map Send.buffer).Perm
      (⟨conn.calls, bytes⟩ :: (conn.posted ++ conn.calling.map Send.buffer)) := by
    rw [posted]
    exact ((calling.map Send.buffer).append_left conn.posted).trans List.perm_middle
  constructor
  · refine grown.nodup_iff.mpr (List.nodup_cons.mpr ⟨fun mem => ?_, issued.once⟩)
    exact Nat.lt_irrefl _ (issued.numbered _ mem)
  · intro buffer mem
    rw [calls]
    rcases List.mem_cons.mp (grown.mem_iff.mp mem) with rfl | known
    · exact Nat.lt_succ_self _
    · exact Nat.lt_succ_of_lt (issued.numbered buffer known)

theorem Issued.replaced (issued : Issued conn) {place : Place} {send : Send} (found : conn.callAt place = some send)
    (phase : Phase) (sends : after.sends = conn.sends) (stack : after.stack = conn.stack)
    (calls : after.calls = conn.calls) (posted : after.posted = conn.posted) :
    Issued (after.replace { send with phase } place) := by
  obtain ⟨others, perm, replaced, -⟩ := calling_at found
  refine issued.keep (by simpa using calls) ?_
  have logged : (after.replace { send with phase } place).posted = conn.posted := by
    simpa [Connection.posted] using posted
  rw [logged]
  have buffers := ((replaced after { send with phase } sends stack).map Send.buffer).trans
    (perm.map Send.buffer).symm
  exact (buffers.append_left conn.posted).subperm

theorem calling_finishClose (conn : Connection Link) : conn.finishClose.calling = conn.calling := by
  unfold finishClose
  split
  · rfl
  · simp [Connection.calling, List.filterMap_cons, Activity.send]

theorem issued_finishClose (issued : Issued conn) : Issued conn.finishClose :=
  issued.same (by simp) (by simp [Connection.posted]) (calling_finishClose conn)

theorem issued_sending (issued : Issued conn) (sending : Sending conn after) : Issued after := by
  -- a call that is over and has posted nothing
  have ended {place : Place} {send : Send} (found : conn.callAt place = some send) :
      (conn.posted ++ (conn.drop place).calling.map Send.buffer).Subperm
        (conn.posted ++ conn.calling.map Send.buffer) := by
    obtain ⟨others, perm, -, dropped⟩ := calling_at found
    have gone := (dropped conn rfl rfl).map Send.buffer
    have here := perm.map Send.buffer
    have fewer := (gone.subperm.trans (List.sublist_cons_self _ _).subperm).trans here.symm.subperm
    exact (List.Subperm.refl _).append fewer
  cases sending with
  | retried place send phase found | tested place send phase found => exact issued.replaced found phase rfl rfl rfl rfl
  | reserved place send found | rolledBack place send found =>
    exact issued.replaced found _ (by simp) (by simp) (by simp) (by simp [Connection.posted, List.filterMap_cons])
  | overflowed place send found refused first => exact issued.replaced found .stop rfl rfl rfl rfl
  | refused place send found refused again =>
    refine issued.keep (by simp) ?_
    have same : ({ conn with sendOverflowed := true }.drop place).calling = (conn.drop place).calling := by
      cases place <;> rfl
    rw [same]
    have logged : ({ conn with sendOverflowed := true }.drop place).posted = conn.posted := by simp [Connection.posted]
    rw [logged]
    exact ended found
  | posted place send found holds =>
    obtain ⟨others, perm, -, dropped⟩ := calling_at found
    refine issued.keep (by simp) ?_
    have logged : ((conn.drop place).postSend send.buffer).posted = conn.posted ++ [send.buffer] := by
      simp [Connection.posted, List.reduceOption_append]
    have gone : ((conn.drop place).postSend send.buffer).calling.Perm others := dropped conn rfl rfl
    rw [logged]
    have moved : (conn.posted ++ [send.buffer] ++ ((conn.drop place).postSend send.buffer).calling.map Send.buffer).Perm
        (conn.posted ++ conn.calling.map Send.buffer) := by
      rw [List.append_assoc]
      refine List.Perm.append_left _ ?_
      exact ((gone.map Send.buffer).cons send.buffer).trans (perm.map Send.buffer).symm
    exact moved.subperm
  | overflowPosted index send found refused =>
    refine issued.keep (by simp) ?_
    have logged : ((conn.drop (.other index)).postStop true).posted = conn.posted := by simp [Connection.posted]
    rw [logged]
    exact ended found
  | overflowClosed send found refused =>
    refine issued.keep (by simp) ?_
    have logged : (conn.drop .strand).finishClose.posted = conn.posted := by simp [Connection.posted]
    rw [logged, calling_finishClose]
    exact ended found

theorem issued_handling (issued : Issued conn) (handling : Handling conn fails after) : Issued after := by
  have taken {rest : List Handler} : Issued (conn.take rest) :=
    issued.same (by simp) (by simp [Connection.posted]) (by simp [calling])
  cases handling with
  | startIgnored | stopIgnored | writeIgnored => exact taken
  | started takes isOpen => exact issued.same (by simp) (by simp [Connection.posted]) (by simp [calling])
  | stopForced | writeFailed | readFailed => exact issued_finishClose taken
  | stopDrains | sendDropped | sendQueued | sendStarted | wroteNext | wroteLast =>
    exact issued.same (by simp) (by simp [Connection.posted, List.filterMap_cons]) (by simp [calling])
  | stopShuts takes alive going isOpen free base isBase | wroteShuts takes alive write queue stopping base isBase =>
    subst isBase
    cases fails with
    | true =>
      refine issued_finishClose (issued.same (by simp) ?_ (by simp [calling]))
      simp [Connection.posted, List.filterMap_cons]
    | false => exact issued.same (by simp) (by simp [Connection.posted, List.filterMap_cons]) (by simp [calling])
  | readDone read takes =>
    exact issued.same (by simp) (by simp [Connection.posted]) (by simp [calling, takes.idle, Activity.send])

theorem issued_step (issued : Issued conn) (stepped : Stepped conn label after) : Issued after := by
  cases stepped with
  | sent bytes =>
    refine issued.called bytes rfl rfl ?_
    simp only [calling, List.append_assoc, List.singleton_append]
    exact List.perm_middle
  | stopped force called =>
    refine issued.same (by simp) ?_ (by simp [calling])
    cases force <;> simp [Connection.posted, List.reduceOption_append]
  | readCompleted | writeCompleted => exact issued.same (by simp) (by simp [Connection.posted]) (by simp [calling])
  | writeDone index buffer found alive =>
    exact issued.same (by simp) (by simp [Connection.posted, List.filterMap_cons]) (by simp [calling])
  | sending sending => exact issued_sending issued sending
  | handling fails handling runs => exact issued_handling issued handling
  | frameInvalid top status spurious resumes =>
    refine issued_finishClose (issued.same (by simp) (by simp [Connection.posted]) ?_)
    simp [calling, top, List.filterMap_cons, Activity.send]
  | frameIncomplete top | unnotified top =>
    refine issued.same (by simp) (by simp [Connection.posted]) ?_
    simp [calling, top, List.filterMap_cons, Activity.send]
  | frameDispatched top status rest call =>
    refine issued.same (by simp) (by simp [Connection.posted, List.filterMap_cons]) ?_
    simp [calling, List.filterMap_cons, Activity.send]
  | released write writes top | notified top =>
    refine issued.same (by simp) (by simp [Connection.posted, List.filterMap_cons]) ?_
    simp [calling, top, List.filterMap_cons, Activity.send]
  | userSent bytes user =>
    refine issued.called bytes rfl rfl ?_
    simp only [calling, List.filterMap_cons, Activity.send]
    exact List.perm_middle
  | userClosed user called => exact issued_finishClose issued
  | userReturned user =>
    refine issued.same (by simp) (by simp [Connection.posted]) ?_
    obtain ⟨outer, top | top⟩ := user <;> simp [calling, top, List.filterMap_cons, Activity.send]

theorem issued_initial (limit : Fin (2 ^ 64)) (onClosed : Bool) (link : Option Link) :
    Issued (initial limit onClosed link) := by
  constructor <;> simp [initial, Connection.posted, calling]

end Steps

/-! ## The contract of a connection -/

def Connection.outstanding (self : Connection Link) : Nat :=
  self.writes.length + (self.strand.filterMap Handler.completion).length

/-- What a graceful stop does when nothing disturbs it. The messages that count are those
posted ahead of the first stop; later stops change nothing. -/
structure DrainsGracefully (conn : Connection Link) : Prop where
  once : conn.log.Pairwise fun earlier later => earlier = .shutdownSend → later ≠ .shutdownSend
  performed : .stopRan ∈ conn.log → conn.writeQueue = [] → .shutdownSend ∈ conn.log
  last : ∀ sofar later, conn.log = sofar ++ .shutdownSend :: later →
    ∀ ahead behind, conn.log = ahead ++ .stopPosted :: behind → .stopPosted ∉ ahead →
      ∀ buffer, .posted buffer ∈ ahead → .written buffer ∈ sofar
  cut : ∀ ahead behind, conn.log = ahead ++ .stopPosted :: behind →
    ∀ buffer, .posted buffer ∈ behind → .written buffer ∉ conn.log

structure WritesInOrder (history : List (Transition (Connection Link) Label)) (conn : Connection Link) : Prop where
  single : conn.outstanding ≤ 1
  busy : conn.closed = false → (conn.outstanding = 1 ↔ conn.writeQueue ≠ [])
  wire : ∃ sent, sent <+: conn.accepted ∧ conn.accepted.Sublist conn.posted ∧
    conn.written.flatMap Buffer.bytes = sent.flatMap Buffer.bytes
  drains : (∀ move ∈ history, Undisturbed move) → DrainsGracefully conn
  closes : conn.log.Pairwise fun earlier later =>
    earlier = .onClosed → later ≠ .onClosed ∧ ∀ buffer, later ≠ .writeStarted buffer

section Contract

variable {conn : Connection Link}

theorem mem_written (buffer : Buffer) (log : List (Event Link)) :
    buffer ∈ log.filterMap Event.completion ↔ .written buffer ∈ log := by
  rw [List.mem_filterMap]
  constructor
  · rintro ⟨event, mem, same⟩
    cases event <;> simp at same
    exact same ▸ mem
  · exact fun mem => ⟨_, mem, rfl⟩

theorem mem_post (entry : Option Buffer) (log : List (Event Link)) :
    entry ∈ log.filterMap Event.post ↔ (entry.elim .stopPosted .posted : Event Link) ∈ log := by
  rw [List.mem_filterMap]
  constructor
  · rintro ⟨event, mem, same⟩
    cases event <;> simp at same
    · exact same ▸ mem
    · exact same ▸ mem
  · intro mem
    cases entry with
    | none | some => exact ⟨_, mem, rfl⟩

theorem mem_posts (buffer : Buffer) (log : List (Event Link)) :
    buffer ∈ (log.filterMap Event.post).reduceOption ↔ .posted buffer ∈ log := by
  rw [List.reduceOption_mem_iff, mem_post]
  rfl

theorem drains_gracefully (recorded : Recorded conn) (issued : Issued conn) (calm : Calm conn) :
    DrainsGracefully conn := by
  obtain ⟨stacked, ⟨ordered, cut, shut⟩, stops, notified, orderly⟩ := recorded
  constructor
  · exact orderly.imp fun related same => (related.1 same).1
  · intro ran free
    have performed := shut.performed calm.alive (stops.mp ran) (by simp [outbox, free])
    have counted : 0 < conn.log.countP Event.isShutdown := by
      change conn.log.countP Event.isShutdown = 1 at performed
      omega
    obtain ⟨event, mem, isShutdown⟩ := List.countP_pos_iff.mp counted
    cases event <;> simp at isShutdown
    exact mem
  · intro sofar later shutdown ahead behind stop first buffer posted
    have mem : .shutdownSend ∈ conn.log := by simp [shutdown]
    obtain ⟨graceful, free, -, -⟩ := shut.drained (shutdowns_pos mem)
    -- everything accepted is written, and everything posted ahead of the stop was accepted
    have exactly := cut.exact calm.alive calm.fits
    rw [ordered.all_written calm.alive free, Outbox.ahead, graceful, if_pos rfl, List.append_nil] at exactly
    have written : .written buffer ∈ conn.log := by
      rw [← mem_written]
      change buffer ∈ conn.outbox.written
      rw [exactly]
      have posts : conn.outbox.posted = ahead.filterMap Event.post ++ none :: behind.filterMap Event.post := by
        simp [outbox, stop]
      have unrequested : none ∉ ahead.filterMap Event.post := by
        rw [mem_post]
        exact first
      rw [posts, beforeStop_cut, beforeStop_eq_reduceOption unrequested]
      exact (mem_posts buffer ahead).mpr posted
    rw [shutdown] at written orderly
    rw [List.pairwise_append, List.pairwise_cons] at orderly
    rcases List.mem_append.mp written with before | after
    · exact before
    · rcases List.mem_cons.mp after with same | after
      · cases same
      · exact absurd rfl (((orderly.2.1.1 _ after).1 rfl).2 buffer)
  · intro ahead behind stop buffer posted written
    have posts : conn.outbox.posted = ahead.filterMap Event.post ++ none :: behind.filterMap Event.post := by
      simp [outbox, stop]
    have accepted : buffer ∈ beforeStop conn.outbox.posted := by
      refine cut.accepted.subset (ordered.wire.subset ?_)
      exact (mem_written buffer conn.log).mpr written
    rw [posts, beforeStop_cut] at accepted
    have before := (beforeStop_sublist _).subset accepted
    have once := (List.nodup_append.mp issued.once).1
    have split : conn.posted =
        (ahead.filterMap Event.post).reduceOption ++ (behind.filterMap Event.post).reduceOption := by
      change conn.outbox.posted.reduceOption = _
      rw [posts, List.reduceOption_append, List.reduceOption_cons_of_none]
    rw [split, List.nodup_append] at once
    exact once.2.2 buffer before buffer ((mem_posts buffer behind).mpr posted) rfl

end Contract

/-- The contract of the write side over every run of a connection. -/
theorem writes_in_order (limit : Fin (2 ^ 64)) (onClosed : Bool) (link : Option Link)
    (history : List (Transition (Connection Link) Label)) (conn : Connection Link)
    (run : Run Connection.step (initial limit onClosed link) history conn) : WritesInOrder history conn := by
  have recorded : Recorded conn := by
    refine run.invariant (recorded_initial limit onClosed link) fun state label after holds moved => ?_
    exact recorded_step holds (stepped_of_step moved)
  have issued : Issued conn := by
    refine run.invariant (issued_initial limit onClosed link) fun state label after holds moved => ?_
    exact issued_step holds (stepped_of_step moved)
  obtain ⟨stacked, ⟨ordered, cut, shut⟩, stops, notified, orderly⟩ := recorded
  constructor
  · exact ordered.outstanding
  · intro alive
    have iff := ordered.outstanding_iff alive
    simpa [outbox, Connection.outstanding] using iff
  · exact ⟨conn.written, ordered.wire, cut.accepted.trans (beforeStop_sublist _), rfl⟩
  · intro undisturbed
    have calm : Stacked conn ∧ Calm conn := by
      refine run.history (fun _ state => Stacked state ∧ Calm state) ⟨stacked_initial limit onClosed link, ?_⟩
        fun past move _ holds moved mem => ?_
      · constructor <;> simp [initial, Handler.calm, calling]
      · have stepped := stepped_of_step moved
        exact ⟨stacked_step holds.1 stepped, calm_step holds.1 holds.2 (undisturbed move mem) stepped⟩
    exact drains_gracefully ⟨stacked, ⟨ordered, cut, shut⟩, stops, notified, orderly⟩ issued calm.2
  · exact orderly.imp fun related => related.2

def stoppedWhileWriting : List Label :=
  let send (bytes : RawBuffer) : List Label :=
    [.send bytes, .advance 0 false, .advance 0 false, .advance 0 false, .advance 0 false, .advance 0 false]
  send [1] ++ send [2] ++ ([.stop false] : List Label) ++ send [3] ++
    ([.run false, .run false, .run false, .run false, .run false, .writeCompletes 0 .ok, .run false,
      .writeCompletes 0 .ok, .run false] : List Label)

theorem writes_in_order_stopped :
    (final Connection.step (initial 8 true (none : Option Unit)) stoppedWhileWriting).written.map Buffer.bytes =
        [[1], [2]] ∧
      DrainsGracefully (final Connection.step (initial 8 true (none : Option Unit)) stoppedWhileWriting) := by
  refine ⟨by decide +kernel, ?_⟩
  have order := writes_in_order 8 true none _ _
    (run_of_enabled (by decide +kernel : (execute Connection.step (initial 8 true (none : Option Unit))
      stoppedWhileWriting).isSome))
  exact order.drains (by decide +kernel)

end Rsp.Server
