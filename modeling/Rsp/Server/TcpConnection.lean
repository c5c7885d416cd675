import Mathlib.Tactic.Simps.Basic
import Rsp.Foundation.Ledger
import Rsp.Foundation.Transition
import Rsp.Message.Interpreter

/-! One `tcp_connection`: its strand, its write queue and its send budget.

Handlers run one at a time on the strand. A call of `send` may come from any thread and
moves by its atomic operations; made by code that runs on the strand it stands on the
stack of activities, above the handler that made it.
-/

set_option autoImplicit false

namespace Rsp.Server

open Message Foundation

/-- A `buffer_ptr`. Every call of `send` makes its own, so the pointer is the call's number. -/
structure Buffer where
  ptr : Nat
  bytes : RawBuffer
  deriving DecidableEq, Repr

def Buffer.size (self : Buffer) : Nat := self.bytes.length

structure PendingWrite where
  buffer : Buffer
  reservedBytes : Nat
  deriving DecidableEq, Repr

/-- The error codes `handle_write` tells apart. -/
inductive WriteResult where
  | ok
  | brokenPipe
  | failed
  deriving DecidableEq, Repr

/-- The error codes `handle_read` tells apart, and the bytes of a read that succeeded. -/
inductive ReadResult where
  | ok (read : Read)
  | eof
  | operationAborted
  | failed

def ReadResult.isOk : ReadResult → Bool
  | .ok _ => true
  | _ => false

inductive Handler where
  | startImpl
  | activeStopImpl (force : Bool)
  | sendImpl (buffer : Buffer) (reservedBytes : Nat)
  | handleWrite (result : WriteResult)
  | handleRead (result : ReadResult)

/-- The next atomic operation of a call of `send`. -/
inductive Phase where
  | loadOverflowed
  | loadPending
  | compareExchange (pending : Nat)
  | testOverflowed
  | rollBack
  | exchangeOverflowed
  | stop
  | post
  deriving DecidableEq, Repr

structure Send where
  buffer : Buffer
  phase : Phase
  deriving DecidableEq, Repr

/-- What the strand is in the middle of: the loop of `handle_buffer`, a message handler
called from it, a call of `send`, the releases of `finish_close` still to be made, or the
close handler. -/
inductive Activity where
  | handleBuffer
  | dispatching
  | sending (send : Send)
  | closing (writes : List PendingWrite)
  | notifying
  deriving DecidableEq, Repr

inductive Event (Link : Type) where
  | reserved (buffer : Buffer)
  | released (buffer : Buffer)
  | posted (buffer : Buffer)
  | stopPosted
  | stopRan
  | queued (buffer : Buffer)
  | writeStarted (buffer : Buffer)
  | written (buffer : Buffer)
  | shutdownSend
  | onClosed
  | dispatched (call : Dispatch Link)
  deriving DecidableEq, Repr

/-- `strand` lists the handlers that wait, `stack` the activities of the running one,
innermost first, and `sends` the calls of `send` made on other threads. `reads` counts the
reads and `writes` lists the writes that have not completed. -/
structure Connection (Link : Type) where
  maxPendingSendBytes : Fin (2 ^ 64)
  interpreter : ConnInterpreter Link
  onClosed : Bool
  strand : List Handler := [.startImpl]
  stack : List Activity := []
  sends : List Send := []
  calls : Nat := 0
  reads : Nat := 0
  writes : List Buffer := []
  isOpen : Bool := true
  writeQueue : List PendingWrite := []
  pendingSendBytes : Nat := 0
  sendOverflowed : Bool := false
  gracefulCloseRequested : Bool := false
  sentShutdown : Bool := false
  closed : Bool := false
  log : List (Event Link) := []

namespace Connection

variable {Link : Type}

@[simps] def record (self : Connection Link) (event : Event Link) : Connection Link :=
  { self with log := self.log ++ [event] }

@[simps] def post (self : Connection Link) (handler : Handler) : Connection Link :=
  { self with strand := self.strand ++ [handler] }

@[simps] def releaseSendBytes (self : Connection Link) (buffer : Buffer) (size : Nat) : Connection Link :=
  { self with pendingSendBytes := fetchSub self.pendingSendBytes size, log := self.log ++ [.released buffer] }

/-! ## Closing -/

/-- `finish_close`, up to its first release. -/
def finishClose (self : Connection Link) : Connection Link :=
  if self.closed then self
  else { self with closed := true, isOpen := false, stack := .closing self.writeQueue :: self.stack }

/-- `fails` is what the socket's `shutdown` reports. -/
def shutdownSendImpl (fails : Bool) (self : Connection Link) : Connection Link :=
  let self := { self with sentShutdown := true }.record .shutdownSend
  if fails then self.finishClose else self

def activeStopImpl (force fails : Bool) (self : Connection Link) : Connection Link :=
  if self.closed || (!force && self.gracefulCloseRequested) then self
  else if !self.isOpen || force then self.finishClose
  else
    let self := { self with gracefulCloseRequested := true }.record .stopRan
    if !self.writeQueue.isEmpty then self else self.shutdownSendImpl fails

/-- `stop` called off the strand, or a graceful one called anywhere. -/
@[simps] def postStop (force : Bool) (self : Connection Link) : Connection Link :=
  { self with
    strand := self.strand ++ [.activeStopImpl force], log := self.log ++ if force then [] else [.stopPosted] }

/-! ## Writing -/

/-- `write_next`; nothing is written from an empty queue. -/
def writeNext (self : Connection Link) : Connection Link :=
  match self.writeQueue with
  | [] => self
  | write :: _ => { self with writes := self.writes ++ [write.buffer] }.record (.writeStarted write.buffer)

def sendImpl (buffer : Buffer) (reservedBytes : Nat) (self : Connection Link) : Connection Link :=
  if self.closed || self.gracefulCloseRequested || self.sendOverflowed || !self.isOpen then
    self.releaseSendBytes buffer reservedBytes
  else
    let writeInProgress := !self.writeQueue.isEmpty
    let write : PendingWrite := ⟨buffer, reservedBytes⟩
    let self := { self with writeQueue := self.writeQueue ++ [write] }.record (.queued buffer)
    if writeInProgress then self else self.writeNext

/-- `none` is `front` of an empty queue. -/
def handleWrite (result : WriteResult) (fails : Bool) (self : Connection Link) : Option (Connection Link) :=
  if self.closed then some self
  else
    match result with
    | .brokenPipe => some self.finishClose
    | .failed => some self.finishClose
    | .ok =>
        match self.writeQueue with
        -- `front` of an empty deque
        | [] => none
        | write :: rest =>
            let self := { self.releaseSendBytes write.buffer write.reservedBytes with writeQueue := rest }
            if !self.writeQueue.isEmpty then some self.writeNext
            else if self.gracefulCloseRequested then some (self.shutdownSendImpl fails)
            else some self

/-! ## Reading -/

def startImpl (self : Connection Link) : Connection Link :=
  if !self.isOpen then self else { self with reads := self.reads + 1 }

/-- `handle_read`, up to the loop of `handle_buffer`. Every error ends in `finish_close`. -/
def handleRead (result : ReadResult) (self : Connection Link) : Connection Link :=
  match result with
  | .eof => self.finishClose
  | .operationAborted => self.finishClose
  | .failed => self.finishClose
  | .ok read =>
      { self with
        interpreter := { self.interpreter with buffer := self.interpreter.buffer ++ read.bytes }
        stack := .handleBuffer :: self.stack }

/-- One turn of the loop of `handle_buffer`, and what `handle_read` does after it. -/
def handleBuffer (self : Connection Link) : Option (Connection Link) :=
  let found := Serializer.destructBuffer self.interpreter.buffer
  match found.status with
  | .kInvalid =>
      some (activeStopImpl true false
        { self with interpreter := { self.interpreter with buffer := [] }, stack := self.stack.tail })
  -- the loop is over, and the next read is started through the strand
  | .kIncomplete => some { self.post .startImpl with stack := self.stack.tail }
  | .kComplete => do
      let rest ← retrieveV self.interpreter.buffer found.size self.interpreter.buffer.length
      return { self with
        interpreter := { self.interpreter with buffer := rest }
        stack := .dispatching :: self.stack }.record (.dispatched ⟨found.type, found.payload, self.interpreter.link⟩)

/-! ## Sending -/

/-- The condition of the loop in `reserve_send_bytes`. -/
def testPending (self : Connection Link) (size pending : Nat) : Phase :=
  if size ≤ self.maxPendingSendBytes ∧ pending ≤ self.maxPendingSendBytes - size then .compareExchange pending
  else .exchangeOverflowed

inductive Next where
  | again (phase : Phase)
  | post
  | stop
  | return
  deriving DecidableEq, Repr

/-- One atomic operation of `send`; a weak exchange may fail for no reason. -/
def advance (self : Connection Link) (send : Send) (spurious : Bool) : Connection Link × Next :=
  match send.phase with
  | .loadOverflowed => (self, .again (if self.sendOverflowed then .exchangeOverflowed else .loadPending))
  | .loadPending => (self, .again (self.testPending send.buffer.size self.pendingSendBytes))
  | .compareExchange pending =>
      -- `compare_exchange_weak` may fail without a reason
      if self.pendingSendBytes = pending ∧ !spurious then
        ({ self with pendingSendBytes := (pending + send.buffer.size) % 2 ^ 64 }.record (.reserved send.buffer),
          .again .testOverflowed)
      else (self, .again (self.testPending send.buffer.size self.pendingSendBytes))
  | .testOverflowed => (self, .again (if self.sendOverflowed then .rollBack else .post))
  | .rollBack => (self.releaseSendBytes send.buffer send.buffer.size, .again .exchangeOverflowed)
  | .exchangeOverflowed =>
      -- only the first one to set the flag stops the connection
      ({ self with sendOverflowed := true }, if self.sendOverflowed then .return else .again .stop)
  | .stop => (self, .stop)
  | .post => (self, .post)

@[simps] def postSend (self : Connection Link) (buffer : Buffer) : Connection Link :=
  { self with strand := self.strand ++ [.sendImpl buffer buffer.size], log := self.log ++ [.posted buffer] }

end Connection

/-! ## Steps -/

inductive Call where
  | send (bytes : RawBuffer)
  | stop (force : Bool)
  | return
  deriving DecidableEq, Repr

/-- `send` and `stop` are calls from another thread, `advance` is the next atomic operation
of such a call; `resume` goes on with the innermost activity and `call` is what user code
on the strand does. -/
inductive Label where
  | send (bytes : RawBuffer)
  | stop (force : Bool)
  | advance (index : Nat) (spurious : Bool)
  | run (shutdownFails : Bool)
  | resume (spurious : Bool)
  | call (call : Call)
  | readCompletes (result : ReadResult)
  | writeCompletes (index : Nat) (result : WriteResult)

namespace Connection

variable {Link : Type}

def exec (fails : Bool) (handler : Handler) (self : Connection Link) : Option (Connection Link) :=
  match handler with
  | .startImpl => some self.startImpl
  | .activeStopImpl force => some (self.activeStopImpl force fails)
  | .sendImpl buffer reservedBytes => some (self.sendImpl buffer reservedBytes)
  | .handleWrite result => self.handleWrite result fails
  | .handleRead result => some (self.handleRead result)

/-- An operation of a call on another thread; `stop` cannot run inline there. -/
def advanceOther (self : Connection Link) (index : Nat) (send : Send) (spurious : Bool) : Connection Link :=
  let (self, next) := self.advance send spurious
  match next with
  | .again phase => { self with sends := self.sends.set index { send with phase } }
  | .post => { self with sends := self.sends.eraseIdx index }.postSend send.buffer
  | .stop => { self with sends := self.sends.eraseIdx index }.postStop true
  | .return => { self with sends := self.sends.eraseIdx index }

/-- An operation of a call on the strand, where `stop` is dispatched at once. -/
def advanceStrand (self : Connection Link) (send : Send) (spurious : Bool) : Connection Link :=
  let (self, next) := self.advance send spurious
  match next with
  | .again phase => { self with stack := .sending { send with phase } :: self.stack.tail }
  | .post => { self with stack := self.stack.tail }.postSend send.buffer
  | .stop => { self with stack := self.stack.tail }.activeStopImpl true false
  | .return => { self with stack := self.stack.tail }

/-- The releases of `finish_close`, one at a time, and its call of the close handler. -/
def close (self : Connection Link) (writes : List PendingWrite) : Connection Link :=
  match writes with
  | write :: rest =>
      { self.releaseSendBytes write.buffer write.reservedBytes with stack := .closing rest :: self.stack.tail }
  | [] =>
      let self := { self with writeQueue := [], stack := self.stack.tail }
      if self.onClosed then { self with onClosed := false, stack := .notifying :: self.stack }.record .onClosed
      else self

def userCall (self : Connection Link) : Call → Connection Link
  | .send bytes =>
      { self with stack := .sending ⟨⟨self.calls, bytes⟩, .loadOverflowed⟩ :: self.stack, calls := self.calls + 1 }
  | .stop true => self.activeStopImpl true false
  | .stop false => self.postStop false
  | .return => { self with stack := self.stack.tail }

/-- Closing the socket aborts what is outstanding, so nothing succeeds afterwards. -/
def step (self : Connection Link) : Label → Option (Connection Link)
  | .send bytes => some { self with
      sends := self.sends ++ [⟨⟨self.calls, bytes⟩, .loadOverflowed⟩], calls := self.calls + 1 }
  | .stop force => some (self.postStop force)
  | .advance index spurious => (self.sends[index]?).map fun send => self.advanceOther index send spurious
  | .run fails =>
      match self.stack, self.strand with
      -- the strand runs one handler to its end before the next
      | [], handler :: rest => exec fails handler { self with strand := rest }
      | _, _ => none
  | .resume spurious =>
      match self.stack with
      | .handleBuffer :: _ => self.handleBuffer
      | .sending send :: _ => some (self.advanceStrand send spurious)
      | .closing writes :: _ => some (self.close writes)
      | _ => none
  | .call call =>
      match self.stack with
      | .dispatching :: _ => some (self.userCall call)
      | .notifying :: _ => some (self.userCall call)
      | _ => none
  | .readCompletes result =>
      -- nothing succeeds on a socket that was closed
      if 0 < self.reads ∧ (self.isOpen || !result.isOk) then
        some { self.post (.handleRead result) with reads := self.reads - 1 }
      else none
  | .writeCompletes index result =>
      match self.writes[index]? with
      | none => none
      | some buffer =>
          if self.isOpen || result ≠ .ok then
            let self := { self.post (.handleWrite result) with writes := self.writes.eraseIdx index }
            some (if result = .ok then self.record (.written buffer) else self)
          else none

def initial (maxPendingSendBytes : Fin (2 ^ 64)) (onClosed : Bool) (link : Option Link) : Connection Link :=
  { maxPendingSendBytes, onClosed, interpreter := ({} : ConnInterpreter Link).attachLink link }

end Connection

end Rsp.Server
