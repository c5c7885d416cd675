import Rsp.Server.TcpConnection

/-! What a step of a connection can do.

`Stepped` lists every branch of every handler once; the invariants are read off it.
-/

set_option autoImplicit false

namespace Rsp.Server

open Message Foundation

variable {Link : Type}

inductive Place where
  | other (index : Nat)
  | strand
  deriving DecidableEq

namespace Connection

def callAt (self : Connection Link) : Place → Option Send
  | .other index => self.sends[index]?
  | .strand =>
      match self.stack with
      | .sending send :: _ => some send
      | _ => none

def replace (self : Connection Link) (send : Send) : Place → Connection Link
  | .other index => { self with sends := self.sends.set index send }
  | .strand => { self with stack := .sending send :: self.stack.tail }

def drop (self : Connection Link) : Place → Connection Link
  | .other index => { self with sends := self.sends.eraseIdx index }
  | .strand => { self with stack := self.stack.tail }

@[simps] def take (self : Connection Link) (rest : List Handler) : Connection Link := { self with strand := rest }

@[simps] def pop (self : Connection Link) : Connection Link := { self with stack := self.stack.tail }

@[simps] def markShutdown (self : Connection Link) : Connection Link :=
  { self with sentShutdown := true, log := self.log ++ [.shutdownSend] }

end Connection

open Connection

def UserCode (stack : List Activity) : Prop := ∃ rest, stack = .dispatching :: rest ∨ stack = .notifying :: rest

structure Takes (conn : Connection Link) (handler : Handler) (rest : List Handler) : Prop where
  idle : conn.stack = []
  first : conn.strand = handler :: rest

inductive Sending (conn : Connection Link) : Connection Link → Prop where
  | retried (place : Place) (send : Send) (phase : Phase) (found : conn.callAt place = some send)
      (early : send.phase = .loadOverflowed ∨ send.phase = .loadPending ∨ ∃ pending, send.phase = .compareExchange pending)
      (next : phase = .loadPending ∨ phase = .exchangeOverflowed ∨
        (phase = .compareExchange conn.pendingSendBytes ∧
          conn.pendingSendBytes + send.buffer.size ≤ conn.maxPendingSendBytes)) :
      Sending conn (conn.replace { send with phase } place)
  | reserved (place : Place) (send : Send) (found : conn.callAt place = some send)
      (tested : send.phase = .compareExchange conn.pendingSendBytes) :
      Sending conn ({ conn with pendingSendBytes := (conn.pendingSendBytes + send.buffer.size) % 2 ^ 64 }.record
        (.reserved send.buffer) |>.replace { send with phase := .testOverflowed } place)
  | tested (place : Place) (send : Send) (phase : Phase) (found : conn.callAt place = some send)
      (holds : send.phase = .testOverflowed) (next : phase = .rollBack ∨ phase = .post) :
      Sending conn (conn.replace { send with phase } place)
  | rolledBack (place : Place) (send : Send) (found : conn.callAt place = some send) (holds : send.phase = .rollBack) :
      Sending conn
        ((conn.releaseSendBytes send.buffer send.buffer.size).replace { send with phase := .exchangeOverflowed } place)
  | overflowed (place : Place) (send : Send) (found : conn.callAt place = some send)
      (refused : send.phase = .exchangeOverflowed) (first : conn.sendOverflowed = false) :
      Sending conn ({ conn with sendOverflowed := true }.replace { send with phase := .stop } place)
  | refused (place : Place) (send : Send) (found : conn.callAt place = some send)
      (refused : send.phase = .exchangeOverflowed) (again : conn.sendOverflowed = true) :
      Sending conn ({ conn with sendOverflowed := true }.drop place)
  | posted (place : Place) (send : Send) (found : conn.callAt place = some send) (holds : send.phase = .post) :
      Sending conn ((conn.drop place).postSend send.buffer)
  | overflowPosted (index : Nat) (send : Send) (found : conn.callAt (.other index) = some send)
      (refused : send.phase = .stop) : Sending conn ((conn.drop (.other index)).postStop true)
  | overflowClosed (send : Send) (found : conn.callAt .strand = some send) (refused : send.phase = .stop) :
      Sending conn (conn.drop .strand).finishClose

inductive Handling (conn : Connection Link) (fails : Bool) : Connection Link → Prop where
  | startIgnored {rest : List Handler} (takes : Takes conn .startImpl rest) (shut : conn.isOpen = false) :
      Handling conn fails (conn.take rest)
  | started {rest : List Handler} (takes : Takes conn .startImpl rest) (isOpen : conn.isOpen = true) :
      Handling conn fails { conn.take rest with reads := conn.reads + 1 }
  | stopIgnored {rest : List Handler} (force : Bool) (takes : Takes conn (.activeStopImpl force) rest)
      (ignored : conn.closed = true ∨ (force = false ∧ conn.gracefulCloseRequested = true)) :
      Handling conn fails (conn.take rest)
  | stopForced {rest : List Handler} (force : Bool) (takes : Takes conn (.activeStopImpl force) rest)
      (alive : conn.closed = false) (forced : conn.isOpen = false ∨ force = true) :
      Handling conn fails (conn.take rest).finishClose
  | stopDrains {rest : List Handler} (takes : Takes conn (.activeStopImpl false) rest) (alive : conn.closed = false)
      (first : conn.gracefulCloseRequested = false) (isOpen : conn.isOpen = true) (busy : conn.writeQueue ≠ []) :
      Handling conn fails ({ conn.take rest with gracefulCloseRequested := true }.record .stopRan)
  | stopShuts {rest : List Handler} (takes : Takes conn (.activeStopImpl false) rest)
      (alive : conn.closed = false) (first : conn.gracefulCloseRequested = false) (isOpen : conn.isOpen = true)
      (free : conn.writeQueue = []) (base : Connection Link)
      (isBase : base = ({ conn.take rest with gracefulCloseRequested := true }.record .stopRan).markShutdown) :
      Handling conn fails (if fails then base.finishClose else base)
  | sendDropped {rest : List Handler} (buffer : Buffer) (size : Nat) (takes : Takes conn (.sendImpl buffer size) rest)
      (dropped : conn.closed = true ∨ conn.gracefulCloseRequested = true ∨ conn.sendOverflowed = true ∨
        conn.isOpen = false) :
      Handling conn fails ((conn.take rest).releaseSendBytes buffer size)
  | sendQueued {rest : List Handler} (buffer : Buffer) (size : Nat) (takes : Takes conn (.sendImpl buffer size) rest)
      (alive : conn.closed = false) (ungraceful : conn.gracefulCloseRequested = false)
      (fits : conn.sendOverflowed = false) (isOpen : conn.isOpen = true) (busy : conn.writeQueue ≠ []) :
      Handling conn fails ({ conn.take rest with writeQueue := conn.writeQueue ++ [PendingWrite.mk buffer size] }
        |>.record (.queued buffer))
  | sendStarted {rest : List Handler} (buffer : Buffer) (size : Nat) (takes : Takes conn (.sendImpl buffer size) rest)
      (alive : conn.closed = false) (ungraceful : conn.gracefulCloseRequested = false)
      (fits : conn.sendOverflowed = false) (isOpen : conn.isOpen = true) (free : conn.writeQueue = []) :
      Handling conn fails ({ conn.take rest with writeQueue := [⟨buffer, size⟩], writes := conn.writes ++ [buffer] }
        |>.record (.queued buffer) |>.record (.writeStarted buffer))
  | writeIgnored {rest : List Handler} (result : WriteResult) (takes : Takes conn (.handleWrite result) rest)
      (shut : conn.closed = true) : Handling conn fails (conn.take rest)
  | writeFailed {rest : List Handler} (result : WriteResult) (takes : Takes conn (.handleWrite result) rest)
      (failed : result ≠ .ok) (alive : conn.closed = false) : Handling conn fails (conn.take rest).finishClose
  | wroteNext {rest : List Handler} (takes : Takes conn (.handleWrite .ok) rest) (alive : conn.closed = false)
      (write next : PendingWrite) (writes : List PendingWrite) (queue : conn.writeQueue = write :: next :: writes) :
      Handling conn fails ({ (conn.take rest).releaseSendBytes write.buffer write.reservedBytes with
        writeQueue := next :: writes, writes := conn.writes ++ [next.buffer] }.record (.writeStarted next.buffer))
  | wroteLast {rest : List Handler} (takes : Takes conn (.handleWrite .ok) rest) (alive : conn.closed = false)
      (write : PendingWrite) (queue : conn.writeQueue = [write]) (ungraceful : conn.gracefulCloseRequested = false) :
      Handling conn fails { (conn.take rest).releaseSendBytes write.buffer write.reservedBytes with writeQueue := [] }
  | wroteShuts {rest : List Handler} (takes : Takes conn (.handleWrite .ok) rest)
      (alive : conn.closed = false) (write : PendingWrite) (queue : conn.writeQueue = [write])
      (graceful : conn.gracefulCloseRequested = true) (base : Connection Link)
      (isBase : base = Connection.markShutdown
        { (conn.take rest).releaseSendBytes write.buffer write.reservedBytes with writeQueue := [] }) :
      Handling conn fails (if fails then base.finishClose else base)
  | readFailed {rest : List Handler} (result : ReadResult) (takes : Takes conn (.handleRead result) rest)
      (failed : result.isOk = false) : Handling conn fails (conn.take rest).finishClose
  | readDone {rest : List Handler} (read : Read) (takes : Takes conn (.handleRead (.ok read)) rest) :
      Handling conn fails { conn.take rest with
        interpreter := { conn.interpreter with buffer := conn.interpreter.buffer ++ read.bytes }
        stack := [.handleBuffer] }

inductive Stepped (conn : Connection Link) (label : Label) : Connection Link → Prop where
  -- calls from other threads and completions
  | sent (bytes : RawBuffer) :
      Stepped conn label { conn with
        sends := conn.sends ++ [⟨⟨conn.calls, bytes⟩, .loadOverflowed⟩], calls := conn.calls + 1 }
  | stopped (force : Bool) (called : label = .stop force ∨ (label = .call (.stop false) ∧ force = false)) :
      Stepped conn label (conn.postStop force)
  | readCompleted (result : ReadResult) (waits : 0 < conn.reads) (alive : conn.isOpen = true ∨ result.isOk = false)
      (completes : label = .readCompletes result) :
      Stepped conn label { conn.post (.handleRead result) with reads := conn.reads - 1 }
  | writeCompleted (index : Nat) (buffer : Buffer) (result : WriteResult) (found : conn.writes[index]? = some buffer)
      (failed : result ≠ .ok) (completes : label = .writeCompletes index result) :
      Stepped conn label { conn.post (.handleWrite result) with writes := conn.writes.eraseIdx index }
  | writeDone (index : Nat) (buffer : Buffer) (found : conn.writes[index]? = some buffer) (alive : conn.isOpen = true) :
      Stepped conn label ({ conn.post (.handleWrite .ok) with writes := conn.writes.eraseIdx index }.record (.written buffer))
  | sending {after : Connection Link} (sending : Sending conn after) : Stepped conn label after
  | handling {after : Connection Link} (fails : Bool) (handling : Handling conn fails after) (runs : label = .run fails) :
      Stepped conn label after
  -- the loop of `handle_buffer`
  | frameInvalid {outer : List Activity} (top : conn.stack = .handleBuffer :: outer)
      (status : (Serializer.destructBuffer conn.interpreter.buffer).status = .kInvalid) (spurious : Bool)
      (resumes : label = .resume spurious) :
      Stepped conn label { conn.pop with interpreter := { conn.interpreter with buffer := [] } }.finishClose
  | frameIncomplete {outer : List Activity} (top : conn.stack = .handleBuffer :: outer)
      (status : (Serializer.destructBuffer conn.interpreter.buffer).status = .kIncomplete) :
      Stepped conn label (conn.pop.post .startImpl)
  | frameDispatched {outer : List Activity} (top : conn.stack = .handleBuffer :: outer)
      (status : (Serializer.destructBuffer conn.interpreter.buffer).status = .kComplete) (rest : RawBuffer)
      (call : Dispatch Link) :
      Stepped conn label ({ conn with
        interpreter := { conn.interpreter with buffer := rest }
        stack := .dispatching :: conn.stack }.record (.dispatched call))
  -- the rest of `finish_close`
  | released {outer : List Activity} (write : PendingWrite) (writes : List PendingWrite)
      (top : conn.stack = .closing (write :: writes) :: outer) :
      Stepped conn label
        { conn.releaseSendBytes write.buffer write.reservedBytes with stack := .closing writes :: outer }
  | notified {outer : List Activity} (top : conn.stack = .closing [] :: outer) (set : conn.onClosed = true) :
      Stepped conn label
        ({ conn with writeQueue := [], onClosed := false, stack := .notifying :: outer }.record .onClosed)
  | unnotified {outer : List Activity} (top : conn.stack = .closing [] :: outer) (unset : conn.onClosed = false) :
      Stepped conn label { conn with writeQueue := [], stack := outer }
  -- user code on the strand
  | userSent (bytes : RawBuffer) (user : UserCode conn.stack) :
      Stepped conn label { conn with
        stack := .sending ⟨⟨conn.calls, bytes⟩, .loadOverflowed⟩ :: conn.stack, calls := conn.calls + 1 }
  | userClosed (user : UserCode conn.stack) (called : label = .call (.stop true)) : Stepped conn label conn.finishClose
  | userReturned (user : UserCode conn.stack) : Stepped conn label conn.pop

section Inversion

variable {conn after : Connection Link} {label : Label}

/-- A forced stop is a close, whether or not the connection is closed already. -/
theorem activeStopImpl_forced (conn : Connection Link) (fails : Bool) :
    conn.activeStopImpl true fails = conn.finishClose := by
  unfold activeStopImpl
  split
  · next ignored =>
    have shut : conn.closed = true := by simpa using ignored
    simp [finishClose, shut]
  · simp

theorem testPending_cases (conn : Connection Link) (size pending : Nat) :
    conn.testPending size pending = .exchangeOverflowed ∨
      (conn.testPending size pending = .compareExchange pending ∧ pending + size ≤ conn.maxPendingSendBytes) := by
  unfold testPending
  split
  · next fits => exact .inr ⟨rfl, by omega⟩
  · exact .inl rfl

theorem sending_advance (place : Place) {send : Send} (spurious : Bool) (found : conn.callAt place = some send)
    {after : Connection Link}
    (again : ∀ conn' phase, conn.advance send spurious = (conn', .again phase) →
      after = conn'.replace { send with phase } place)
    (returns : ∀ conn', conn.advance send spurious = (conn', .return) → after = conn'.drop place)
    (posts : ∀ conn', conn.advance send spurious = (conn', .post) → after = (conn'.drop place).postSend send.buffer)
    (stops : conn.advance send spurious = (conn, .stop) → send.phase = .stop → Sending conn after) :
    Sending conn after := by
  cases phase : send.phase with
  | loadOverflowed =>
    rw [again _ _ (by simp only [advance, phase]; rfl)]
    refine .retried place send _ found (.inl phase) ?_
    split
    · exact .inr (.inl rfl)
    · exact .inl rfl
  | loadPending =>
    rw [again _ _ (by simp only [advance, phase]; rfl)]
    exact .retried place send _ found (.inr (.inl phase)) (.inr (testPending_cases conn _ _))
  | compareExchange pending =>
    by_cases same : conn.pendingSendBytes = pending ∧ !spurious
    · rw [again _ _ (by simp only [advance, phase, if_pos same]; rfl), ← same.1]
      exact .reserved place send found (same.1 ▸ phase)
    · rw [again _ _ (by simp only [advance, phase, if_neg same]; rfl)]
      exact .retried place send _ found (.inr (.inr ⟨pending, phase⟩)) (.inr (testPending_cases conn _ _))
  | testOverflowed =>
    rw [again _ _ (by simp only [advance, phase]; rfl)]
    refine .tested place send _ found phase ?_
    split
    · exact .inl rfl
    · exact .inr rfl
  | rollBack =>
    rw [again _ _ (by simp only [advance, phase]; rfl)]
    exact .rolledBack place send found phase
  | exchangeOverflowed =>
    cases flag : conn.sendOverflowed with
    | true =>
      rw [returns _ (by simp only [advance, phase, flag, if_true]; rfl)]
      exact .refused place send found phase flag
    | false =>
      rw [again _ _ (by simp only [advance, phase, flag, Bool.false_eq_true, if_false]; rfl)]
      exact .overflowed place send found phase flag
  | stop => exact stops (by simp only [advance, phase]) phase
  | post =>
    rw [posts _ (by simp only [advance, phase]; rfl)]
    exact .posted place send found phase

theorem sending_advanceOther {index : Nat} {send : Send} (spurious : Bool) (found : conn.sends[index]? = some send) :
    Sending conn (conn.advanceOther index send spurious) := by
  apply sending_advance (.other index) spurious found
  case again =>
    intro conn' phase result
    rw [advanceOther, result]
    rfl
  case returns =>
    intro conn' result
    rw [advanceOther, result]
    rfl
  case posts =>
    intro conn' result
    rw [advanceOther, result]
    rfl
  case stops =>
    intro result phase
    rw [advanceOther, result]
    exact .overflowPosted index send found phase

theorem sending_advanceStrand {send : Send} {outer : List Activity} (spurious : Bool)
    (top : conn.stack = .sending send :: outer) : Sending conn (conn.advanceStrand send spurious) := by
  have found : conn.callAt .strand = some send := by simp [callAt, top]
  apply sending_advance .strand spurious found
  case again =>
    intro conn' phase result
    rw [advanceStrand, result]
    rfl
  case returns =>
    intro conn' result
    rw [advanceStrand, result]
    rfl
  case posts =>
    intro conn' result
    rw [advanceStrand, result]
    rfl
  case stops =>
    intro result phase
    simp only [advanceStrand, result, activeStopImpl_forced]
    exact .overflowClosed send found phase

theorem handling_activeStopImpl {rest : List Handler} (force fails : Bool)
    (takes : Takes conn (.activeStopImpl force) rest) : Handling conn fails ((conn.take rest).activeStopImpl force fails) := by
  unfold activeStopImpl
  split
  · next ignored => exact .stopIgnored force takes (by simpa [Connection.take] using ignored)
  · next active =>
    simp only [Connection.take, Bool.or_eq_true, Bool.and_eq_true, Bool.not_eq_true', not_or, not_and,
      Bool.not_eq_true] at active
    obtain ⟨alive, graceful⟩ := active
    split
    · next forced => exact .stopForced force takes alive (by simpa [Connection.take] using forced)
    · next free =>
      simp only [Connection.take, Bool.or_eq_true, Bool.not_eq_true', not_or, Bool.not_eq_true,
        Bool.not_eq_false] at free
      obtain ⟨isOpen, rfl⟩ := free
      cases queue : conn.writeQueue with
      | nil =>
        have shuts : Handling conn fails _ := .stopShuts takes alive (graceful rfl) isOpen queue _ rfl
        simpa [record, Connection.take, queue, shutdownSendImpl, markShutdown] using shuts
      | cons write writes =>
        have drains : Handling conn fails _ := .stopDrains takes alive (graceful rfl) isOpen (by simp [queue])
        simpa [record, Connection.take, queue] using drains

theorem handling_sendImpl {rest : List Handler} (fails : Bool) (buffer : Buffer) (size : Nat)
    (takes : Takes conn (.sendImpl buffer size) rest) : Handling conn fails ((conn.take rest).sendImpl buffer size) := by
  unfold sendImpl
  split
  · next dropped => exact .sendDropped buffer size takes (by simpa [Connection.take, or_assoc] using dropped)
  · next active =>
    simp only [Connection.take, Bool.or_eq_true, Bool.not_eq_true', not_or, Bool.not_eq_true,
      Bool.not_eq_false] at active
    obtain ⟨⟨⟨alive, ungraceful⟩, fits⟩, isOpen⟩ := active
    cases queue : conn.writeQueue with
    | nil =>
      have started : Handling conn fails _ := .sendStarted buffer size takes alive ungraceful fits isOpen queue
      simpa [Connection.take, queue, writeNext, record] using started
    | cons write writes =>
      have queued : Handling conn fails _ :=
        .sendQueued buffer size takes alive ungraceful fits isOpen (by simp [queue])
      simpa [Connection.take, queue, record] using queued

theorem handling_handleWrite {rest : List Handler} (result : WriteResult) (fails : Bool)
    (takes : Takes conn (.handleWrite result) rest) (done : (conn.take rest).handleWrite result fails = some after) :
    Handling conn fails after := by
  unfold handleWrite at done
  split at done
  · next shut =>
    cases done
    exact .writeIgnored result takes shut
  · next open' =>
    have alive : conn.closed = false := by simpa [Connection.take] using open'
    cases result with
    | brokenPipe | failed =>
      cases done
      exact .writeFailed _ takes (by simp) alive
    | ok =>
      cases queue : conn.writeQueue with
      | nil => simp [Connection.take, queue] at done
      | cons write writes =>
        cases writes with
        | cons next others =>
          simp only [Connection.take, queue, List.isEmpty_cons, Bool.not_false, if_true, Option.some.injEq] at done
          subst done
          exact .wroteNext takes alive write next others queue
        | nil =>
          simp only [Connection.take, queue, List.isEmpty_nil, Bool.not_true, Bool.false_eq_true, if_false] at done
          split at done
          · next graceful =>
            cases done
            exact .wroteShuts takes alive write queue (by simpa [releaseSendBytes, record] using graceful) _ rfl
          · next ungraceful =>
            cases done
            refine .wroteLast takes alive write queue ?_
            simpa [releaseSendBytes, record] using ungraceful

theorem handling_exec {rest : List Handler} {handler : Handler} (fails : Bool) (takes : Takes conn handler rest)
    (done : exec fails handler (conn.take rest) = some after) : Handling conn fails after := by
  cases handler with
  | startImpl =>
    cases done
    unfold Connection.startImpl
    split
    · next shut => exact .startIgnored takes (by simpa [Connection.take] using shut)
    · next isOpen => exact .started takes (by simpa [Connection.take] using isOpen)
  | activeStopImpl force =>
    cases done
    exact handling_activeStopImpl force fails takes
  | sendImpl buffer size =>
    cases done
    exact handling_sendImpl fails buffer size takes
  | handleWrite result => exact handling_handleWrite result fails takes done
  | handleRead result =>
    cases done
    cases result with
    | ok read =>
      have idle : (conn.take rest).stack = [] := takes.idle
      rw [handleRead, idle]
      exact .readDone read takes
    | eof | operationAborted | failed => exact .readFailed _ takes rfl

theorem stepped_handleBuffer {outer : List Activity} (spurious : Bool) (top : conn.stack = .handleBuffer :: outer)
    (done : conn.handleBuffer = some after) : Stepped conn (.resume spurious) after := by
  unfold Connection.handleBuffer at done
  cases status : (Serializer.destructBuffer conn.interpreter.buffer).status with
  | kInvalid =>
    simp only [status, activeStopImpl_forced, Option.some.injEq] at done
    subst done
    exact .frameInvalid top status spurious rfl
  | kIncomplete =>
    simp only [status, Option.some.injEq] at done
    subst done
    exact .frameIncomplete top status
  | kComplete =>
    simp only [status, Option.bind_eq_bind, Option.pure_def, Option.bind_eq_some_iff, Option.some.injEq] at done
    obtain ⟨rest, -, rfl⟩ := done
    exact .frameDispatched top status rest _

theorem stepped_close {outer : List Activity} {writes : List PendingWrite} (top : conn.stack = .closing writes :: outer) :
    Stepped conn label (conn.close writes) := by
  cases writes with
  | cons write rest =>
    have released : Stepped conn label _ := .released write rest top
    simpa [close, top] using released
  | nil =>
    unfold close
    cases set : conn.onClosed with
    | true =>
      have notified : Stepped conn label _ := .notified top set
      simpa [set, top] using notified
    | false =>
      have unnotified : Stepped conn label _ := .unnotified top set
      simpa [set, top] using unnotified

theorem stepped_userCall (call : Call) (user : UserCode conn.stack) :
    Stepped conn (.call call) (conn.userCall call) := by
  cases call with
  | send bytes => exact .userSent bytes user
  | stop force =>
    cases force with
    | true =>
      have closed : Stepped conn (.call (.stop true)) _ := .userClosed user rfl
      rwa [← activeStopImpl_forced conn false] at closed
    | false => exact .stopped false (.inr ⟨rfl, rfl⟩)
  | «return» => exact .userReturned user

theorem stepped_of_step (moved : conn.step label = some after) : Stepped conn label after := by
  cases label with
  | send bytes =>
    cases moved
    exact .sent bytes
  | stop force =>
    cases moved
    exact .stopped force (.inl rfl)
  | advance index spurious =>
    obtain ⟨send, found, rfl⟩ := Option.map_eq_some_iff.mp moved
    exact .sending (sending_advanceOther spurious found)
  | run fails =>
    simp only [step] at moved
    split at moved
    · next handler rest idle first => exact .handling fails (handling_exec fails ⟨idle, first⟩ moved) rfl
    · cases moved
  | resume spurious =>
    simp only [step] at moved
    split at moved
    · next outer top => exact stepped_handleBuffer spurious top moved
    · next send outer top =>
      cases moved
      exact .sending (sending_advanceStrand spurious top)
    · next writes outer top =>
      cases moved
      exact stepped_close top
    · cases moved
  | call call =>
    simp only [step] at moved
    split at moved
    · next outer top =>
      cases moved
      exact stepped_userCall call ⟨outer, .inl top⟩
    · next outer top =>
      cases moved
      exact stepped_userCall call ⟨outer, .inr top⟩
    · cases moved
  | readCompletes result =>
    simp only [step] at moved
    split at moved
    · next guard =>
      cases moved
      exact .readCompleted result guard.1 (by simpa using guard.2) rfl
    · cases moved
  -- a write that succeeds has put the whole buffer on the wire
  | writeCompletes index result =>
    simp only [step] at moved
    split at moved
    · cases moved
    · next buffer found =>
      split at moved
      · next alive =>
        by_cases ok : result = .ok
        · subst ok
          simp only [if_true, Option.some.injEq] at moved
          subst moved
          exact .writeDone index buffer found (by simpa using alive)
        · simp only [ok, if_false, Option.some.injEq] at moved
          subst moved
          exact .writeCompleted index buffer result found ok rfl
      · cases moved

end Inversion

/-! ## The stack -/

/-- Only the innermost activity can be the end of `finish_close`, and the queue of a closed
connection is empty once it is over. -/
structure Stacked (conn : Connection Link) : Prop where
  inner : ∀ writes, .closing writes ∉ conn.stack.tail
  shut : ∀ writes, .closing writes ∈ conn.stack → conn.closed = true
  emptied : conn.closed = true → (∀ writes, .closing writes ∉ conn.stack) → conn.writeQueue = []
  socket : conn.isOpen = !conn.closed

section Stack

variable {conn : Connection Link}

/-! A call in progress shares no other field with the connection. -/

@[simp] theorem replace_closed (send : Send) (place : Place) :
    (conn.replace send place).closed = conn.closed := by
  cases place <;> rfl

@[simp] theorem replace_isOpen (send : Send) (place : Place) :
    (conn.replace send place).isOpen = conn.isOpen := by
  cases place <;> rfl

@[simp] theorem replace_writeQueue (send : Send) (place : Place) :
    (conn.replace send place).writeQueue = conn.writeQueue := by
  cases place <;> rfl

@[simp] theorem replace_strand (send : Send) (place : Place) :
    (conn.replace send place).strand = conn.strand := by
  cases place <;> rfl

@[simp] theorem replace_log (send : Send) (place : Place) : (conn.replace send place).log = conn.log := by
  cases place <;> rfl

@[simp] theorem replace_calls (send : Send) (place : Place) : (conn.replace send place).calls = conn.calls := by
  cases place <;> rfl

@[simp] theorem replace_maxPendingSendBytes (send : Send) (place : Place) :
    (conn.replace send place).maxPendingSendBytes = conn.maxPendingSendBytes := by
  cases place <;> rfl

@[simp] theorem replace_pendingSendBytes (send : Send) (place : Place) :
    (conn.replace send place).pendingSendBytes = conn.pendingSendBytes := by
  cases place <;> rfl

@[simp] theorem replace_writes (send : Send) (place : Place) :
    (conn.replace send place).writes = conn.writes := by
  cases place <;> rfl

@[simp] theorem replace_interpreter (send : Send) (place : Place) :
    (conn.replace send place).interpreter = conn.interpreter := by
  cases place <;> rfl

@[simp] theorem replace_gracefulCloseRequested (send : Send) (place : Place) :
    (conn.replace send place).gracefulCloseRequested = conn.gracefulCloseRequested := by
  cases place <;> rfl

@[simp] theorem replace_sendOverflowed (send : Send) (place : Place) :
    (conn.replace send place).sendOverflowed = conn.sendOverflowed := by
  cases place <;> rfl

@[simp] theorem replace_onClosed (send : Send) (place : Place) :
    (conn.replace send place).onClosed = conn.onClosed := by
  cases place <;> rfl

@[simp] theorem drop_closed (place : Place) : (conn.drop place).closed = conn.closed := by
  cases place <;> rfl

@[simp] theorem drop_isOpen (place : Place) : (conn.drop place).isOpen = conn.isOpen := by
  cases place <;> rfl

@[simp] theorem drop_writeQueue (place : Place) : (conn.drop place).writeQueue = conn.writeQueue := by
  cases place <;> rfl

@[simp] theorem drop_strand (place : Place) : (conn.drop place).strand = conn.strand := by
  cases place <;> rfl

@[simp] theorem drop_log (place : Place) : (conn.drop place).log = conn.log := by
  cases place <;> rfl

@[simp] theorem drop_calls (place : Place) : (conn.drop place).calls = conn.calls := by
  cases place <;> rfl

@[simp] theorem drop_maxPendingSendBytes (place : Place) :
    (conn.drop place).maxPendingSendBytes = conn.maxPendingSendBytes := by
  cases place <;> rfl

@[simp] theorem drop_pendingSendBytes (place : Place) :
    (conn.drop place).pendingSendBytes = conn.pendingSendBytes := by
  cases place <;> rfl

@[simp] theorem drop_writes (place : Place) : (conn.drop place).writes = conn.writes := by
  cases place <;> rfl

@[simp] theorem drop_reads (place : Place) : (conn.drop place).reads = conn.reads := by
  cases place <;> rfl

@[simp] theorem drop_interpreter (place : Place) : (conn.drop place).interpreter = conn.interpreter := by
  cases place <;> rfl

@[simp] theorem drop_gracefulCloseRequested (place : Place) :
    (conn.drop place).gracefulCloseRequested = conn.gracefulCloseRequested := by
  cases place <;> rfl

@[simp] theorem drop_sendOverflowed (place : Place) :
    (conn.drop place).sendOverflowed = conn.sendOverflowed := by
  cases place <;> rfl

@[simp] theorem drop_onClosed (place : Place) : (conn.drop place).onClosed = conn.onClosed := by
  cases place <;> rfl

/-! `finish_close` up to its first release changes the flags and the stack only. -/

@[simp] theorem finishClose_closed (conn : Connection Link) : conn.finishClose.closed = true := by
  unfold finishClose
  split
  · assumption
  · rfl

@[simp] theorem finishClose_log (conn : Connection Link) : conn.finishClose.log = conn.log := by
  unfold finishClose
  split <;> rfl

@[simp] theorem finishClose_strand (conn : Connection Link) : conn.finishClose.strand = conn.strand := by
  unfold finishClose
  split <;> rfl

@[simp] theorem finishClose_calls (conn : Connection Link) : conn.finishClose.calls = conn.calls := by
  unfold finishClose
  split <;> rfl

@[simp] theorem finishClose_maxPendingSendBytes (conn : Connection Link) :
    conn.finishClose.maxPendingSendBytes = conn.maxPendingSendBytes := by
  unfold finishClose
  split <;> rfl

@[simp] theorem finishClose_writes (conn : Connection Link) : conn.finishClose.writes = conn.writes := by
  unfold finishClose
  split <;> rfl

@[simp] theorem finishClose_writeQueue (conn : Connection Link) :
    conn.finishClose.writeQueue = conn.writeQueue := by
  unfold finishClose
  split <;> rfl

@[simp] theorem finishClose_gracefulCloseRequested (conn : Connection Link) :
    conn.finishClose.gracefulCloseRequested = conn.gracefulCloseRequested := by
  unfold finishClose
  split <;> rfl

@[simp] theorem finishClose_sendOverflowed (conn : Connection Link) :
    conn.finishClose.sendOverflowed = conn.sendOverflowed := by
  unfold finishClose
  split <;> rfl

@[simp] theorem finishClose_onClosed (conn : Connection Link) : conn.finishClose.onClosed = conn.onClosed := by
  unfold finishClose
  split <;> rfl

theorem callAt_strand {send : Send} (found : conn.callAt .strand = some send) :
    ∃ outer, conn.stack = .sending send :: outer := by
  simp only [callAt] at found
  split at found
  · next first outer top =>
    cases found
    exact ⟨outer, top⟩
  · cases found

theorem closing_replace {send : Send} {place : Place} (found : conn.callAt place = some send) (new : Send)
    (writes : List PendingWrite) :
    (.closing writes ∈ (conn.replace new place).stack ↔ .closing writes ∈ conn.stack) ∧
      (conn.replace new place).stack.tail = conn.stack.tail := by
  cases place with
  | other index => exact ⟨Iff.rfl, rfl⟩
  | strand =>
    obtain ⟨outer, top⟩ := callAt_strand found
    simp [replace, top]

theorem closing_drop {send : Send} {place : Place} (found : conn.callAt place = some send)
    (writes : List PendingWrite) :
    (.closing writes ∈ (conn.drop place).stack ↔ .closing writes ∈ conn.stack) ∧
      (.closing writes ∈ (conn.drop place).stack.tail → .closing writes ∈ conn.stack.tail) := by
  cases place with
  | other index => exact ⟨Iff.rfl, id⟩
  | strand =>
    obtain ⟨outer, top⟩ := callAt_strand found
    simp only [Connection.drop, top, List.tail_cons, List.mem_cons, reduceCtorEq, false_or, true_and]
    exact List.mem_of_mem_tail

theorem UserCode.no_closing {stack : List Activity} (user : UserCode stack) (writes : List PendingWrite) :
    .closing writes ∈ stack ↔ .closing writes ∈ stack.tail := by
  obtain ⟨rest, rfl | rfl⟩ := user <;> simp

variable {after : Connection Link} {label : Label}

/-- A step that leaves `finish_close`, the flags and the queue of a closed connection alone. -/
theorem Stacked.keep (stacked : Stacked conn) (inner : ∀ writes, .closing writes ∉ after.stack.tail)
    (closing : ∀ writes, .closing writes ∈ after.stack ↔ .closing writes ∈ conn.stack)
    (closed : after.closed = conn.closed) (isOpen : after.isOpen = conn.isOpen)
    (queue : conn.closed = true → after.writeQueue = conn.writeQueue) : Stacked after := by
  refine ⟨inner, fun writes mem => ?_, fun shut none => ?_, ?_⟩
  · rw [closed]
    exact stacked.shut writes ((closing writes).mp mem)
  · rw [closed] at shut
    rw [queue shut]
    exact stacked.emptied shut fun writes mem => none writes ((closing writes).mpr mem)
  · rw [isOpen, closed]
    exact stacked.socket

theorem stacked_finishClose (stacked : Stacked conn) : Stacked conn.finishClose := by
  unfold finishClose
  split
  · exact stacked
  · next alive =>
    -- an open connection has no close under way
    have none : ∀ writes, .closing writes ∉ conn.stack := fun writes mem => alive (stacked.shut writes mem)
    refine ⟨fun writes => none writes, fun _ _ => rfl, fun _ empty => ?_, rfl⟩
    exact absurd (List.mem_cons_self) (empty conn.writeQueue)

theorem Stacked.same (stacked : Stacked conn) (stack : after.stack = conn.stack) (closed : after.closed = conn.closed)
    (isOpen : after.isOpen = conn.isOpen) (queue : conn.closed = true → after.writeQueue = conn.writeQueue) :
    Stacked after :=
  stacked.keep (stack ▸ stacked.inner) (by simp [stack]) closed isOpen queue

theorem Stacked.replaced (stacked : Stacked conn) {place : Place} {send : Send}
    (found : conn.callAt place = some send) (new : Send) : Stacked (conn.replace new place) := by
  refine stacked.keep (fun writes => ?_) (fun writes => (closing_replace found new writes).1) (by simp) (by simp)
    (by simp)
  rw [(closing_replace found new writes).2]
  exact stacked.inner writes

theorem Stacked.dropped (stacked : Stacked conn) {place : Place} {send : Send}
    (found : conn.callAt place = some send) : Stacked (conn.drop place) := by
  refine stacked.keep (fun writes mem => ?_) (fun writes => (closing_drop found writes).1) (by simp) (by simp)
    (by simp)
  exact stacked.inner writes ((closing_drop found writes).2 mem)

theorem Stacked.taken (stacked : Stacked conn) (rest : List Handler) : Stacked (conn.take rest) :=
  stacked.same (by simp) (by simp) (by simp) (by simp)

theorem Stacked.popped (stacked : Stacked conn) {activity : Activity} {outer : List Activity}
    (top : conn.stack = activity :: outer) (other : ∀ writes, activity ≠ .closing writes) : Stacked conn.pop := by
  have inner : ∀ writes, .closing writes ∉ outer := by simpa [top] using stacked.inner
  refine stacked.keep (fun writes mem => ?_) (fun writes => ?_) (by simp) (by simp) (by simp)
  · exact inner writes (List.mem_of_mem_tail (by simpa [top] using mem))
  · simp [top, inner, Ne.symm (other writes)]

theorem stacked_sending (stacked : Stacked conn) (sending : Sending conn after) : Stacked after := by
  cases sending with
  | retried place send phase found | tested place send phase found => exact stacked.replaced found _
  | reserved place send found | overflowed place send found =>
    exact (stacked.replaced found _).same (by cases place <;> rfl) (by simp) (by simp) (by simp)
  | rolledBack place send found holds =>
    exact (stacked.replaced found _).same (by cases place <;> rfl) (by simp)
      (by simp) (by simp)
  | refused place send found refused again =>
    exact (stacked.dropped found).same (by cases place <;> rfl) (by simp) (by simp) (by simp)
  | posted place send found | overflowPosted index send found =>
    exact (stacked.dropped found).same (by simp) (by simp) (by simp) (by simp)
  | overflowClosed send found refused => exact stacked_finishClose (stacked.dropped found)

theorem stacked_handling {fails : Bool} (stacked : Stacked conn) (handling : Handling conn fails after) : Stacked after := by
  cases handling with
  | startIgnored | stopIgnored | writeIgnored => exact stacked.taken _
  | started | stopDrains | sendDropped => exact stacked.same (by simp) (by simp) (by simp) (by simp)
  | stopForced | writeFailed | readFailed => exact stacked_finishClose (stacked.taken _)
  | stopShuts takes alive first isOpen free base isBase =>
    have marked : Stacked base := by
      subst isBase
      exact stacked.same (by simp) (by simp) (by simp) (by simp)
    split
    · exact stacked_finishClose marked
    · exact marked
  | sendQueued buffer size takes alive | sendStarted buffer size takes alive | wroteNext takes alive
  | wroteLast takes alive => exact stacked.same (by simp) (by simp) (by simp) (by simp [alive])
  | wroteShuts takes alive write queue graceful base isBase =>
    have marked : Stacked base := by
      subst isBase
      exact stacked.same (by simp) (by simp) (by simp) (by simp [alive])
    split
    · exact stacked_finishClose marked
    · exact marked
  | readDone read takes =>
    refine stacked.keep (by simp) (by simp [takes.idle]) (by simp) (by simp) (by simp)

theorem stacked_step (stacked : Stacked conn) (stepped : Stepped conn label after) : Stacked after := by
  cases stepped with
  | sent | stopped | readCompleted | writeCompleted | writeDone =>
    exact stacked.same (by simp) (by simp) (by simp) (by simp)
  | sending sending => exact stacked_sending stacked sending
  | handling fails handling => exact stacked_handling stacked handling
  | frameInvalid top status =>
    apply stacked_finishClose
    exact (stacked.popped top (by simp)).same (by simp) (by simp) (by simp) (by simp)
  | frameIncomplete top status => exact (stacked.popped top (by simp)).same rfl (by simp) (by simp) (by simp)
  | @frameDispatched outer top status rest call =>
    have inner : ∀ writes, .closing writes ∉ outer := by simpa [top] using stacked.inner
    exact stacked.keep (by simp [top, inner]) (by simp) (by simp) (by simp) (by simp)
  | @released outer write writes top =>
    have inner : ∀ writes, .closing writes ∉ outer := by simpa [top] using stacked.inner
    have shut : conn.closed = true := stacked.shut (write :: writes) (by simp [top])
    refine ⟨inner, fun _ _ => shut, fun _ none => ?_, by simpa using stacked.socket⟩
    exact absurd List.mem_cons_self (none writes)
  | @notified outer top set =>
    have inner : ∀ writes, .closing writes ∉ outer := by simpa [top] using stacked.inner
    exact ⟨inner, fun writes mem => absurd mem (by simp [inner]), fun _ _ => rfl, by simpa using stacked.socket⟩
  | @unnotified outer top unset =>
    have inner : ∀ writes, .closing writes ∉ outer := by simpa [top] using stacked.inner
    refine ⟨fun writes mem => inner writes (List.mem_of_mem_tail mem), fun writes mem => absurd mem (inner writes),
      fun _ _ => rfl, by simpa using stacked.socket⟩
  | userSent bytes user =>
    have inner : ∀ writes, .closing writes ∉ conn.stack := fun writes mem =>
      stacked.inner writes ((user.no_closing writes).mp mem)
    exact stacked.keep inner (by simp) (by simp) (by simp) (by simp)
  | userClosed user => exact stacked_finishClose stacked
  | userReturned user =>
    obtain ⟨outer, top | top⟩ := user
    · exact stacked.popped top (by simp)
    · exact stacked.popped top (by simp)

theorem stacked_initial (limit : Fin (2 ^ 64)) (onClosed : Bool) (link : Option Link) :
    Stacked (initial limit onClosed link) := by
  constructor <;> simp [initial]

end Stack

end Rsp.Server
