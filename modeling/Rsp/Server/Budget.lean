import Rsp.Server.Effects

/-! The send budget of a connection.

The reservations of a connection are a ledger: a reservation is held by a call of `send`,
by a posted `send_impl` or by an entry of the write queue that is not yet released.
-/

set_option autoImplicit false

namespace Rsp.Server

open Message Foundation Connection

variable {Link : Type}

def Event.reservation : Event Link → Option Buffer
  | .reserved buffer => some buffer
  | _ => none

def Event.release : Event Link → Option Buffer
  | .released buffer => some buffer
  | _ => none

def Send.fresh (self : Send) : Option Buffer :=
  match self.phase with
  | .loadOverflowed | .loadPending | .compareExchange _ => some self.buffer
  | _ => none

def Send.held (self : Send) : Option Buffer :=
  match self.phase with
  | .testOverflowed | .rollBack | .post => some self.buffer
  | _ => none

def Handler.held : Handler → Option Buffer
  | .sendImpl buffer _ => some buffer
  | _ => none

def Activity.send : Activity → Option Send
  | .sending send => some send
  | _ => none

namespace Connection

def calling (self : Connection Link) : List Send := self.sends ++ self.stack.filterMap Activity.send

def unreleased (self : Connection Link) : List PendingWrite :=
  match self.stack with
  | .closing writes :: _ => writes
  | _ => self.writeQueue

def held (self : Connection Link) : List Buffer :=
  self.calling.filterMap Send.held ++ self.strand.filterMap Handler.held ++
    self.unreleased.map PendingWrite.buffer

def ledger (self : Connection Link) : Ledger Buffer where
  used := self.pendingSendBytes
  fresh := self.calling.filterMap Send.fresh
  held := self.held
  reserved := self.log.filterMap Event.reservation
  released := self.log.filterMap Event.release

end Connection

section Calls

variable {conn : Connection Link} {place : Place} {send : Send}

theorem calling_at (found : conn.callAt place = some send) :
    ∃ others : List Send, conn.calling.Perm (send :: others) ∧
      (∀ (after : Connection Link) new, after.sends = conn.sends → after.stack = conn.stack →
        (after.replace new place).calling.Perm (new :: others)) ∧
      ∀ after : Connection Link, after.sends = conn.sends → after.stack = conn.stack →
        (after.drop place).calling.Perm others := by
  cases place with
  | other index =>
    have inside : index < conn.sends.length := (List.getElem?_eq_some_iff.mp found).1
    have same : conn.sends[index] = send := (List.getElem?_eq_some_iff.mp found).2
    refine ⟨conn.sends.eraseIdx index ++ conn.stack.filterMap Activity.send, ?_, ?_, ?_⟩
    · have here := List.getElem_cons_eraseIdx_perm inside
      rw [same] at here
      exact here.symm.append_right _
    · intro after new sends stack
      simp only [calling, replace, sends, stack]
      exact (List.set_perm_cons_eraseIdx inside new).append_right _
    · intro after sends stack
      simp only [calling, Connection.drop, sends, stack]
      exact List.Perm.refl _
  | strand =>
    obtain ⟨outer, top⟩ := callAt_strand found
    refine ⟨conn.sends ++ outer.filterMap Activity.send, ?_, ?_, ?_⟩
    · simp only [calling, top, List.filterMap_cons, Activity.send]
      exact List.perm_middle
    · intro after new sends stack
      simp only [calling, replace, sends, stack, top, List.tail_cons, List.filterMap_cons, Activity.send]
      exact List.perm_middle
    · intro after sends stack
      simp only [calling, Connection.drop, sends, stack, top, List.tail_cons]
      exact List.Perm.refl _

theorem calling_mem (found : conn.callAt place = some send) : send ∈ conn.calling := by
  obtain ⟨others, perm, -⟩ := calling_at found
  exact perm.mem_iff.mpr List.mem_cons_self

theorem mem_calling_replace {after : Connection Link} {new other : Send} (found : conn.callAt place = some send)
    (sends : after.sends = conn.sends) (stack : after.stack = conn.stack)
    (mem : other ∈ (after.replace new place).calling) : other = new ∨ other ∈ conn.calling := by
  obtain ⟨others, perm, replaced, -⟩ := calling_at found
  rcases List.mem_cons.mp ((replaced after new sends stack).mem_iff.mp mem) with same | mem
  · exact .inl same
  · exact .inr (perm.mem_iff.mpr (List.mem_cons_of_mem _ mem))

theorem mem_calling_drop {after : Connection Link} {other : Send} (found : conn.callAt place = some send)
    (sends : after.sends = conn.sends) (stack : after.stack = conn.stack)
    (mem : other ∈ (after.drop place).calling) : other ∈ conn.calling := by
  obtain ⟨others, perm, -, dropped⟩ := calling_at found
  exact perm.mem_iff.mpr (List.mem_cons_of_mem _ ((dropped after sends stack).mem_iff.mp mem))

end Calls

/-! ## Sizes and numbers -/

/-- Every entry knows the size of its message, an exchange was tested against the limit,
and every message has the number of a call made before. -/
structure Sound (conn : Connection Link) : Prop where
  strand : ∀ buffer size, .sendImpl buffer size ∈ conn.strand → size = buffer.size
  queue : ∀ write ∈ conn.writeQueue, write.reservedBytes = write.buffer.size
  closing : ∀ writes, .closing writes ∈ conn.stack → ∀ write ∈ writes, write.reservedBytes = write.buffer.size
  tested : ∀ send ∈ conn.calling, ∀ pending, send.phase = .compareExchange pending →
    pending + send.buffer.size ≤ conn.maxPendingSendBytes
  numbered : ∀ send ∈ conn.calling, send.buffer.ptr < conn.calls
  logged : ∀ buffer, .reserved buffer ∈ conn.log → buffer.ptr < conn.calls

section Sound

variable {conn after : Connection Link} {label : Label} {fails : Bool}

theorem Sound.keep (sound : Sound conn)
    (strand : ∀ buffer size, .sendImpl buffer size ∈ after.strand → .sendImpl buffer size ∈ conn.strand)
    (queue : ∀ write ∈ after.writeQueue, write ∈ conn.writeQueue)
    (closing : ∀ writes, .closing writes ∈ after.stack → .closing writes ∈ conn.stack ∨ writes = conn.writeQueue)
    (calling : ∀ send ∈ after.calling, send ∈ conn.calling) (limit : after.maxPendingSendBytes = conn.maxPendingSendBytes)
    (calls : conn.calls ≤ after.calls) (log : ∀ buffer, .reserved buffer ∈ after.log → .reserved buffer ∈ conn.log) :
    Sound after := by
  constructor
  · exact fun buffer size mem => sound.strand buffer size (strand buffer size mem)
  · exact fun write mem => sound.queue write (queue write mem)
  · intro writes mem
    rcases closing writes mem with known | rfl
    · exact sound.closing writes known
    · exact sound.queue
  · rw [limit]
    exact fun send mem => sound.tested send (calling send mem)
  · exact fun send mem => Nat.lt_of_lt_of_le (sound.numbered send (calling send mem)) calls
  · exact fun buffer mem => Nat.lt_of_lt_of_le (sound.logged buffer (log buffer mem)) calls

theorem sound_finishClose (sound : Sound conn) : Sound conn.finishClose := by
  unfold finishClose
  split
  · exact sound
  · refine sound.keep (by simp) (by simp) (fun writes mem => ?_) (by simp [calling, Activity.send]) rfl
      (Nat.le_refl _) (by simp)
    rcases List.mem_cons.mp mem with same | mem
    · cases same
      exact .inr rfl
    · exact .inl mem

theorem Sound.replaced (sound : Sound conn) {place : Place} {send : Send} (found : conn.callAt place = some send)
    (phase : Phase) (tested : ∀ pending, phase = .compareExchange pending →
      pending + send.buffer.size ≤ conn.maxPendingSendBytes) :
    Sound (conn.replace { send with phase } place) := by
  have known := calling_mem found
  constructor
  · simpa using sound.strand
  · simpa using sound.queue
  · intro writes mem
    exact sound.closing writes ((closing_replace found _ writes).1.mp mem)
  · intro other mem pending same
    rw [replace_maxPendingSendBytes]
    rcases mem_calling_replace found rfl rfl mem with rfl | mem
    · exact tested pending same
    · exact sound.tested other mem pending same
  · intro other mem
    rw [replace_calls]
    rcases mem_calling_replace found rfl rfl mem with rfl | mem
    · exact sound.numbered send known
    · exact sound.numbered other mem
  · simpa using sound.logged

theorem Sound.dropped (sound : Sound conn) {place : Place} {send : Send} (found : conn.callAt place = some send) :
    Sound (conn.drop place) :=
  sound.keep (by simp) (by simp) (fun writes mem => .inl ((closing_drop found writes).1.mp mem))
    (fun _ mem => mem_calling_drop found rfl rfl mem) (by simp) (by simp) (by simp)

theorem Sound.same (sound : Sound conn)
    (strand : ∀ buffer size, .sendImpl buffer size ∈ after.strand → .sendImpl buffer size ∈ conn.strand)
    (queue : ∀ write ∈ after.writeQueue, write ∈ conn.writeQueue) (stack : after.stack = conn.stack)
    (sends : after.sends = conn.sends) (limit : after.maxPendingSendBytes = conn.maxPendingSendBytes)
    (calls : after.calls = conn.calls) (log : ∀ buffer, .reserved buffer ∈ after.log → .reserved buffer ∈ conn.log) :
    Sound after :=
  sound.keep strand queue (fun _ mem => .inl (stack ▸ mem)) (by simp [calling, stack, sends]) limit
    (Nat.le_of_eq calls.symm) log

theorem Sound.called (sound : Sound conn) (bytes : RawBuffer) (strand : after.strand = conn.strand)
    (queue : after.writeQueue = conn.writeQueue)
    (closing : ∀ writes, .closing writes ∈ after.stack → .closing writes ∈ conn.stack)
    (calling : ∀ send ∈ after.calling, send = ⟨⟨conn.calls, bytes⟩, .loadOverflowed⟩ ∨ send ∈ conn.calling)
    (limit : after.maxPendingSendBytes = conn.maxPendingSendBytes) (calls : after.calls = conn.calls + 1)
    (log : after.log = conn.log) : Sound after := by
  constructor
  · rw [strand]
    exact sound.strand
  · rw [queue]
    exact sound.queue
  · exact fun writes mem => sound.closing writes (closing writes mem)
  · intro send mem pending same
    rw [limit]
    rcases calling send mem with rfl | known
    · cases same
    · exact sound.tested send known pending same
  · intro send mem
    rw [calls]
    rcases calling send mem with rfl | known
    · exact Nat.lt_succ_self _
    · exact Nat.lt_succ_of_lt (sound.numbered send known)
  · rw [calls, log]
    exact fun buffer mem => Nat.lt_succ_of_lt (sound.logged buffer mem)

theorem Sound.taken (sound : Sound conn) {handler : Handler} {rest : List Handler} (takes : Takes conn handler rest) :
    Sound (conn.take rest) := by
  refine sound.same (fun buffer size mem => ?_) (by simp) (by simp) (by simp) (by simp) (by simp) (by simp)
  rw [takes.first]
  exact List.mem_cons_of_mem _ (by simpa using mem)

theorem Sound.popped (sound : Sound conn) {activity : Activity} {outer : List Activity}
    (top : conn.stack = activity :: outer) (plain : activity.send = none) : Sound conn.pop := by
  refine sound.keep (by simp) (by simp) (fun writes mem => .inl ?_) (fun send mem => ?_) (by simp) (by simp) (by simp)
  · exact List.mem_of_mem_tail (by simpa using mem)
  · simpa [calling, top, plain] using mem

/-- A call goes on after a change that concerns neither the calls nor the queues. -/
theorem Sound.moved (sound : Sound conn) {place : Place} {send new : Send} (replaced : Sound (conn.replace new place))
    (found : conn.callAt place = some send) (stack : after.stack = conn.stack) (sends : after.sends = conn.sends)
    (strand : after.strand = conn.strand) (queue : after.writeQueue = conn.writeQueue)
    (limit : after.maxPendingSendBytes = conn.maxPendingSendBytes) (calls : after.calls = conn.calls)
    (log : ∀ buffer, .reserved buffer ∈ after.log → .reserved buffer ∈ conn.log ∨ buffer = send.buffer) :
    Sound (after.replace new place) := by
  have sameStack : (after.replace new place).stack = (conn.replace new place).stack := by
    cases place <;> simp [replace, stack]
  have sameSends : (after.replace new place).sends = (conn.replace new place).sends := by
    cases place <;> simp [replace, sends]
  obtain ⟨onStrand, inQueue, inClosing, tested, numbered, -⟩ := replaced
  refine ⟨?_, ?_, ?_, ?_, ?_, ?_⟩
  · simpa [strand] using onStrand
  · simpa [queue] using inQueue
  · simpa [sameStack] using inClosing
  · simpa [calling, sameStack, sameSends, limit] using tested
  · simpa [calling, sameStack, sameSends, calls] using numbered
  · intro buffer mem
    rw [replace_calls, calls]
    rcases log buffer (by simpa using mem) with known | rfl
    · exact sound.logged buffer known
    · exact sound.numbered send (calling_mem found)

theorem sound_sending (sound : Sound conn) (sending : Sending conn after) : Sound after := by
  cases sending with
  | retried place send phase found early next =>
    refine sound.replaced found phase fun pending same => ?_
    rcases next with rfl | rfl | ⟨rfl, fits⟩
    · cases same
    · cases same
    · cases same
      exact fits
  | reserved place send found tested =>
    have replaced := sound.replaced found .testOverflowed (by simp)
    exact sound.moved replaced found (by simp) (by simp) (by simp) (by simp) (by simp) (by simp) (by simp)
  | tested place send phase found holds next =>
    refine sound.replaced found phase ?_
    rcases next with rfl | rfl <;> simp
  | rolledBack place send found holds =>
    have replaced := sound.replaced found .exchangeOverflowed (by simp)
    exact sound.moved replaced found (by simp) (by simp) (by simp) (by simp) (by simp) (by simp) (by simp +contextual)
  | overflowed place send found refused first =>
    have replaced := sound.replaced found .stop (by simp)
    exact sound.moved replaced found (by simp) (by simp) (by simp) (by simp) (by simp) (by simp) (by simp +contextual)
  | refused place send found refused again =>
    have dropped := sound.dropped found
    refine dropped.same (by simp) (by simp) ?_ ?_ (by simp) (by simp) (by simp)
    · cases place <;> rfl
    · cases place <;> rfl
  | posted place send found holds =>
    have dropped := sound.dropped found
    constructor
    · intro buffer size mem
      simp only [postSend_strand, drop_strand, List.mem_append, List.mem_singleton, Handler.sendImpl.injEq] at mem
      rcases mem with known | ⟨rfl, rfl⟩
      · exact sound.strand buffer size known
      · rfl
    · exact dropped.queue
    · exact dropped.closing
    · exact dropped.tested
    · exact dropped.numbered
    · simpa using sound.logged
  | overflowPosted index send found refused =>
    exact (sound.dropped found).same (by simp) (by simp) (by simp) (by simp) (by simp) (by simp) (by simp)
  | overflowClosed send found refused => exact sound_finishClose (sound.dropped found)

theorem sound_handling (sound : Sound conn) (handling : Handling conn fails after) : Sound after := by
  cases handling with
  | startIgnored takes | stopIgnored force takes | writeIgnored result takes => exact sound.taken takes
  | started takes | stopDrains takes | sendDropped buffer size takes | wroteLast takes =>
    exact (sound.taken takes).same (by simp) (by simp) (by simp) (by simp) (by simp) (by simp) (by simp)
  | stopForced force takes | writeFailed result takes | readFailed result takes =>
    exact sound_finishClose (sound.taken takes)
  | stopShuts takes alive first isOpen free base isBase | wroteShuts takes alive write queue graceful base isBase =>
    have marked : Sound base := by
      subst isBase
      exact (sound.taken takes).same (by simp) (by simp) (by simp) (by simp) (by simp) (by simp) (by simp)
    split
    · exact sound_finishClose marked
    · exact marked
  | sendQueued buffer size takes alive ungraceful fits isOpen busy =>
    have sized := sound.strand buffer size (by simp [takes.first])
    have taken := sound.taken takes
    refine ⟨taken.strand, ?_, taken.closing, taken.tested, taken.numbered, by simpa using sound.logged⟩
    intro write mem
    simp only [record_writeQueue, List.mem_append, List.mem_singleton] at mem
    rcases mem with known | rfl
    · exact sound.queue write known
    · exact sized
  | sendStarted buffer size takes alive ungraceful fits isOpen free =>
    have sized := sound.strand buffer size (by simp [takes.first])
    have taken := sound.taken takes
    exact ⟨taken.strand, by simpa using sized, taken.closing, taken.tested, taken.numbered, by simpa using sound.logged⟩
  | wroteNext takes alive write next writes queue =>
    refine (sound.taken takes).same (by simp) (fun entry mem => ?_) (by simp) (by simp) (by simp) (by simp) (by simp)
    rw [take_writeQueue, queue]
    exact List.mem_cons_of_mem _ (by simpa using mem)
  | readDone read takes =>
    refine (sound.taken takes).keep (by simp) (by simp) (by simp) (fun send mem => ?_) (by simp) (by simp) (by simp)
    simpa [calling, takes.idle, Activity.send] using mem

theorem sound_step (sound : Sound conn) (stepped : Stepped conn label after) : Sound after := by
  cases stepped with
  | sent bytes =>
    refine sound.called bytes rfl rfl (by simp) (fun send mem => ?_) rfl rfl rfl
    simp only [calling, List.mem_append, List.mem_singleton] at mem ⊢
    tauto
  | stopped force =>
    exact sound.same (by simp) (by simp) (by simp) (by simp) (by simp) (by simp) (by cases force <;> simp)
  | readCompleted | writeCompleted | writeDone =>
    exact sound.same (by simp) (by simp) (by simp) (by simp) (by simp) (by simp) (by simp)
  | sending sending => exact sound_sending sound sending
  | handling fails handling => exact sound_handling sound handling
  | frameInvalid top status =>
    apply sound_finishClose
    exact (sound.popped top rfl).same (by simp) (by simp) (by simp) (by simp) (by simp) (by simp) (by simp)
  | frameIncomplete top status =>
    exact (sound.popped top rfl).same (by simp) (by simp) (by simp) (by simp) (by simp) (by simp) (by simp)
  | frameDispatched top status rest call =>
    refine sound.keep (by simp) (by simp) (fun writes mem => .inl ?_) (fun send mem => ?_) (by simp) (by simp) (by simp)
    · simpa using mem
    · simpa [calling, Activity.send] using mem
  | released write writes top =>
    have entries := sound.closing (write :: writes) (by simp [top])
    refine ⟨by simpa using sound.strand, by simpa using sound.queue, fun others mem => ?_, ?_, ?_, ?_⟩
    · rcases List.mem_cons.mp mem with same | mem
      · cases same
        exact fun entry inside => entries entry (List.mem_cons_of_mem _ inside)
      · exact sound.closing others (by simp [top, mem])
    · simpa [calling, top, Activity.send] using sound.tested
    · simpa [calling, top, Activity.send] using sound.numbered
    · simpa using sound.logged
  | notified top set =>
    refine sound.keep (by simp) (by simp) (fun writes mem => .inl ?_) (fun send mem => ?_) (by simp) (by simp) (by simp)
    · rw [top]
      exact List.mem_cons_of_mem _ (by simpa using mem)
    · simpa [calling, top, Activity.send] using mem
  | unnotified top unset =>
    refine sound.keep (by simp) (by simp) (fun writes mem => .inl ?_) (fun send mem => ?_) (by simp) (by simp) (by simp)
    · rw [top]
      exact List.mem_cons_of_mem _ mem
    · simpa [calling, top, Activity.send] using mem
  | userSent bytes user =>
    refine sound.called bytes rfl rfl (by simp) (fun send mem => ?_) rfl rfl rfl
    simp only [calling, List.filterMap_cons, Activity.send, List.mem_append, List.mem_cons] at mem ⊢
    tauto
  | userClosed user => exact sound_finishClose sound
  | userReturned user =>
    obtain ⟨outer, top | top⟩ := user
    · exact sound.popped top rfl
    · exact sound.popped top rfl

theorem sound_initial (limit : Fin (2 ^ 64)) (onClosed : Bool) (link : Option Link) :
    Sound (initial limit onClosed link) := by
  constructor <;> simp [initial, calling]

end Sound

/-! ## The ledger -/

section Ledger

variable {conn after : Connection Link} {label : Label} {fails : Bool}

theorem unreleased_eq (none : ∀ writes outer, conn.stack ≠ .closing writes :: outer) :
    conn.unreleased = conn.writeQueue := by
  unfold unreleased
  split
  · next writes outer top => exact absurd top (none writes outer)
  · rfl

theorem UserCode.unreleased (user : UserCode conn.stack) : conn.unreleased = conn.writeQueue := by
  obtain ⟨outer, top | top⟩ := user
  · exact unreleased_eq (by simp [top])
  · exact unreleased_eq (by simp [top])

theorem Stacked.unreleased (stacked : Stacked conn) {activity : Activity} {outer : List Activity}
    (top : conn.stack = activity :: outer) (stack : after.stack = outer) : after.unreleased = after.writeQueue := by
  apply unreleased_eq
  intro writes rest same
  apply stacked.inner writes
  rw [top, List.tail_cons, ← stack, same]
  exact List.mem_cons_self

theorem ledger_congr (used : after.pendingSendBytes = conn.pendingSendBytes) (sends : after.sends = conn.sends)
    (stack : after.stack = conn.stack) (strand : after.strand.filterMap Handler.held = conn.strand.filterMap Handler.held)
    (queue : after.writeQueue = conn.writeQueue)
    (reserved : after.log.filterMap Event.reservation = conn.log.filterMap Event.reservation)
    (released : after.log.filterMap Event.release = conn.log.filterMap Event.release) :
    after.ledger = conn.ledger := by
  simp only [ledger, held, calling, Connection.unreleased, used, sends, stack, strand, queue, reserved, released]

theorem ledger_finishClose (stacked : Stacked conn) : conn.finishClose.ledger = conn.ledger := by
  unfold finishClose
  split
  · rfl
  · next alive =>
    have whole : conn.unreleased = conn.writeQueue := by
      apply unreleased_eq
      intro writes outer top
      exact alive (stacked.shut writes (by simp [top]))
    simp only [ledger, held, whole, calling, List.filterMap_cons, Activity.send]
    rfl

theorem filterMap_of_perm {Item Value : Type} {f : Item → Option Value} {list rest : List Item} {first : Item}
    (perm : list.Perm (first :: rest)) : (list.filterMap f).Perm ((f first).toList ++ rest.filterMap f) := by
  refine (perm.filterMap f).trans ?_
  cases found : f first <;> simp [found]

/-- The ledger, cut at one call: what the others hold is the same before and after. -/
theorem ledger_at (stacked : Stacked conn) {place : Place} {send : Send} (found : conn.callAt place = some send) :
    ∃ fresh held : List Buffer, conn.ledger.fresh.Perm (send.fresh.toList ++ fresh) ∧
      conn.ledger.held.Perm (send.held.toList ++ held) ∧
      (∀ (after : Connection Link) new, after.sends = conn.sends → after.stack = conn.stack →
        after.strand = conn.strand → after.writeQueue = conn.writeQueue →
        (after.replace new place).ledger.fresh.Perm (new.fresh.toList ++ fresh) ∧
        (after.replace new place).ledger.held.Perm (new.held.toList ++ held)) ∧
      ∀ after : Connection Link, after.sends = conn.sends → after.stack = conn.stack →
        after.strand = conn.strand → after.writeQueue = conn.writeQueue →
        (after.drop place).ledger.fresh.Perm fresh ∧ (after.drop place).ledger.held.Perm held := by
  obtain ⟨others, here, replaced, dropped⟩ := calling_at found
  refine ⟨others.filterMap Send.fresh, others.filterMap Send.held ++
    (conn.strand.filterMap Handler.held ++ conn.unreleased.map PendingWrite.buffer),
    filterMap_of_perm here, ?_, ?_, ?_⟩
  · simp only [ledger, held]
    rw [List.append_assoc, ← List.append_assoc send.held.toList]
    exact (filterMap_of_perm here).append_right _
  · intro after new sends stack strand queue
    have whole : (after.replace new place).unreleased = conn.unreleased := by
      cases place with
      | other index => simp [Connection.unreleased, replace, stack, queue]
      | strand =>
        obtain ⟨outer, top⟩ := callAt_strand found
        simp [Connection.unreleased, replace, top, queue]
    refine ⟨filterMap_of_perm (replaced after new sends stack), ?_⟩
    simp only [ledger, held, replace_strand, strand, whole]
    rw [List.append_assoc, ← List.append_assoc new.held.toList]
    exact (filterMap_of_perm (replaced after new sends stack)).append_right _
  · intro after sends stack strand queue
    have whole : (after.drop place).unreleased = conn.unreleased := by
      cases place with
      | other index => simp [Connection.unreleased, Connection.drop, stack, queue]
      | strand =>
        obtain ⟨outer, top⟩ := callAt_strand found
        have ended : (after.drop .strand).stack = outer := by simp [Connection.drop, stack, top]
        rw [stacked.unreleased top ended, drop_writeQueue, queue, unreleased_eq (by simp [top])]
    refine ⟨(dropped after sends stack).filterMap _, ?_⟩
    simp only [ledger, held, drop_strand, strand, whole]
    rw [List.append_assoc]
    exact ((dropped after sends stack).filterMap _).append_right _

theorem Sound.unused (sound : Sound conn) (bytes : RawBuffer) :
    (⟨conn.calls, bytes⟩ : Buffer) ∉ conn.ledger.fresh ++ conn.ledger.reserved := by
  intro mem
  rcases List.mem_append.mp mem with mem | mem
  · obtain ⟨send, calls, fresh⟩ := List.mem_filterMap.mp mem
    have same : send.buffer = ⟨conn.calls, bytes⟩ := by
      unfold Send.fresh at fresh
      split at fresh <;> simp_all
    have earlier := sound.numbered send calls
    rw [same] at earlier
    exact Nat.lt_irrefl _ earlier
  · obtain ⟨event, logged, reserved⟩ := List.mem_filterMap.mp mem
    have same : event = .reserved ⟨conn.calls, bytes⟩ := by
      unfold Event.reservation at reserved
      split at reserved <;> simp_all
    exact Nat.lt_irrefl _ (sound.logged _ (same ▸ logged))

theorem ledger_take {handler : Handler} {rest : List Handler} (takes : Takes conn handler rest)
    (plain : handler.held = none) : (conn.take rest).ledger = conn.ledger :=
  ledger_congr (by simp) (by simp) (by simp) (by simp [takes.first, plain]) (by simp) (by simp) (by simp)

theorem ledger_pop (stacked : Stacked conn) {activity : Activity} {outer : List Activity}
    (top : conn.stack = activity :: outer) (plain : activity.send = none)
    (other : ∀ writes, activity ≠ .closing writes) : conn.pop.ledger = conn.ledger := by
  have before : conn.unreleased = conn.writeQueue := unreleased_eq (by simp [top, other])
  have later : conn.pop.unreleased = conn.pop.writeQueue := stacked.unreleased top (by simp [top])
  simp [ledger, held, calling, before, later, top, plain]

def Connection.waiting (self : Connection Link) : List Buffer :=
  self.strand.filterMap Handler.held ++ self.writeQueue.map PendingWrite.buffer

theorem held_idle (idle : conn.stack = []) : conn.ledger.held = conn.sends.filterMap Send.held ++ conn.waiting := by
  simp [ledger, held, calling, waiting, unreleased_eq, idle]

theorem fresh_idle (idle : conn.stack = []) : conn.ledger.fresh = conn.sends.filterMap Send.fresh := by
  simp [ledger, calling, idle]

theorem ledger_moved (idle : conn.stack = []) (stack : after.stack = []) (sends : after.sends = conn.sends)
    (used : after.pendingSendBytes = conn.pendingSendBytes) (waiting : after.waiting.Perm conn.waiting)
    (reserved : after.log.filterMap Event.reservation = conn.log.filterMap Event.reservation)
    (released : after.log.filterMap Event.release = conn.log.filterMap Event.release) :
    Ledger.Step Buffer.size conn.maxPendingSendBytes conn.ledger after.ledger := by
  refine .keep used ?_ ?_ reserved released
  · rw [fresh_idle idle, fresh_idle stack, sends]
  · rw [held_idle idle, held_idle stack, sends]
    exact waiting.append_left _

theorem ledger_released (buffer : Buffer) (idle : conn.stack = []) (stack : after.stack = [])
    (sends : after.sends = conn.sends) (used : after.pendingSendBytes = fetchSub conn.pendingSendBytes buffer.size)
    (waiting : conn.waiting.Perm (buffer :: after.waiting))
    (reserved : after.log.filterMap Event.reservation = conn.log.filterMap Event.reservation)
    (released : after.log.filterMap Event.release = conn.log.filterMap Event.release ++ [buffer]) :
    Ledger.Step Buffer.size conn.maxPendingSendBytes conn.ledger after.ledger := by
  refine .release buffer used ?_ ?_ reserved released
  · rw [fresh_idle idle, fresh_idle stack, sends]
  · rw [held_idle idle, held_idle stack, sends]
    exact (waiting.append_left _).trans List.perm_middle

theorem ledger_kept (same : after.ledger = conn.ledger) :
    Ledger.Step Buffer.size conn.maxPendingSendBytes conn.ledger after.ledger := by
  rw [same]
  exact .keep rfl (List.Subperm.refl _) (List.Perm.refl _) rfl rfl

/-- A call that has reserved nothing and will not any more goes away. -/
theorem ledger_spent (stacked : Stacked conn) {place : Place} {send : Send} (found : conn.callAt place = some send)
    (fresh : send.fresh = none) (held : send.held = none) :
    Ledger.Step Buffer.size conn.maxPendingSendBytes conn.ledger (conn.drop place).ledger := by
  obtain ⟨others, theirs, freshHere, heldHere, -, dropped⟩ := ledger_at stacked found
  obtain ⟨freshAfter, heldAfter⟩ := dropped conn rfl rfl rfl rfl
  rw [fresh] at freshHere
  rw [held] at heldHere
  exact .keep (by simp [ledger]) (freshAfter.trans freshHere.symm).subperm (heldAfter.trans heldHere.symm)
    (by simp [ledger]) (by simp [ledger])

theorem ledger_sending (stacked : Stacked conn) (sound : Sound conn) (sending : Sending conn after) :
    Ledger.Step Buffer.size conn.maxPendingSendBytes conn.ledger after.ledger := by
  cases sending with
  | retried place send phase found early next =>
    obtain ⟨fresh, held, freshHere, heldHere, replaced, -⟩ := ledger_at stacked found
    obtain ⟨freshAfter, heldAfter⟩ := replaced conn { send with phase } rfl rfl rfl rfl
    have unheld : send.held = none ∧ send.fresh = some send.buffer := by
      rcases early with here | here | ⟨pending, here⟩ <;> simp [Send.held, Send.fresh, here]
    rw [unheld.1] at heldHere
    rw [unheld.2] at freshHere
    refine .keep (by simp [ledger]) ?_ ?_ (by simp [ledger]) (by simp [ledger])
    · -- the call may have given up, and then it is no longer among the fresh ones
      rcases next with rfl | rfl | ⟨rfl, fits⟩
      · exact (freshAfter.trans freshHere.symm).subperm
      · exact freshAfter.subperm.trans ((List.sublist_append_right _ _).subperm.trans freshHere.symm.subperm)
      · exact (freshAfter.trans freshHere.symm).subperm
    · have none : ({ send with phase } : Send).held = none := by
        rcases next with rfl | rfl | ⟨rfl, fits⟩ <;> rfl
      rw [none] at heldAfter
      exact heldAfter.trans heldHere.symm
  | reserved place send found tested =>
    obtain ⟨fresh, held, freshHere, heldHere, replaced, -⟩ := ledger_at stacked found
    obtain ⟨freshAfter, heldAfter⟩ := replaced
      ({ conn with pendingSendBytes := (conn.pendingSendBytes + send.buffer.size) % 2 ^ 64 }.record
        (.reserved send.buffer)) { send with phase := .testOverflowed } (by simp) (by simp) (by simp) (by simp)
    simp only [Send.fresh, Send.held, tested, Option.toList_some, Option.toList_none, List.nil_append,
      List.singleton_append] at freshHere heldHere freshAfter heldAfter
    refine .reserve send.buffer (sound.tested send (calling_mem found) _ tested) (by simp [ledger]) ?_ ?_ ?_ ?_
    · exact freshHere.trans (freshAfter.symm.cons _)
    · exact heldAfter.trans (heldHere.symm.cons _)
    · simp [ledger, Event.reservation]
    · simp [ledger, Event.release]
  | tested place send phase found holds next =>
    obtain ⟨fresh, held, freshHere, heldHere, replaced, -⟩ := ledger_at stacked found
    obtain ⟨freshAfter, heldAfter⟩ := replaced conn { send with phase } rfl rfl rfl rfl
    have stays : ({ send with phase } : Send).fresh = send.fresh ∧ ({ send with phase } : Send).held = send.held := by
      rcases next with rfl | rfl <;> simp [Send.fresh, Send.held, holds]
    rw [stays.1] at freshAfter
    rw [stays.2] at heldAfter
    exact .keep (by simp [ledger]) (freshAfter.trans freshHere.symm).subperm (heldAfter.trans heldHere.symm)
      (by simp [ledger]) (by simp [ledger])
  | rolledBack place send found holds =>
    obtain ⟨fresh, held, freshHere, heldHere, replaced, -⟩ := ledger_at stacked found
    obtain ⟨freshAfter, heldAfter⟩ := replaced (conn.releaseSendBytes send.buffer send.buffer.size)
      { send with phase := .exchangeOverflowed } (by simp) (by simp) (by simp) (by simp)
    simp only [Send.fresh, Send.held, holds, Option.toList_some, Option.toList_none, List.nil_append,
      List.singleton_append] at freshHere heldHere freshAfter heldAfter
    refine .release send.buffer (by simp [ledger]) (freshAfter.trans freshHere.symm) ?_ ?_ ?_
    · exact heldHere.trans (heldAfter.symm.cons _)
    · simp [ledger, Event.reservation]
    · simp [ledger, Event.release]
  | overflowed place send found refused first =>
    obtain ⟨fresh, held, freshHere, heldHere, replaced, -⟩ := ledger_at stacked found
    obtain ⟨freshAfter, heldAfter⟩ := replaced { conn with sendOverflowed := true } { send with phase := .stop }
      rfl rfl rfl rfl
    simp only [Send.fresh, Send.held, refused, Option.toList_none, List.nil_append] at freshHere heldHere freshAfter heldAfter
    exact .keep (by simp [ledger]) (freshAfter.trans freshHere.symm).subperm (heldAfter.trans heldHere.symm)
      (by simp [ledger]) (by simp [ledger])
  | refused place send found refused again =>
    have unchanged : ({ conn with sendOverflowed := true }.drop place).ledger = (conn.drop place).ledger := by
      cases place <;> rfl
    rw [unchanged]
    exact ledger_spent stacked found (by simp [Send.fresh, refused]) (by simp [Send.held, refused])
  | posted place send found holds =>
    obtain ⟨fresh, held, freshHere, heldHere, -, dropped⟩ := ledger_at stacked found
    obtain ⟨freshAfter, heldAfter⟩ := dropped conn rfl rfl rfl rfl
    simp only [Send.fresh, Send.held, holds, Option.toList_some, Option.toList_none, List.nil_append,
      List.singleton_append] at freshHere heldHere
    -- the reservation goes from the call to the posted task
    have moved : ((conn.drop place).postSend send.buffer).ledger.held.Perm
        (send.buffer :: (conn.drop place).ledger.held) := by
      simp only [ledger, Connection.held, postSend_strand, List.filterMap_append, List.filterMap_cons,
        List.filterMap_nil, Handler.held]
      rw [← List.append_assoc, List.append_assoc, List.singleton_append]
      exact List.perm_middle
    refine .keep (by simp [ledger]) (freshAfter.trans freshHere.symm).subperm ?_ ?_ ?_
    · exact moved.trans ((heldAfter.cons _).trans heldHere.symm)
    · simp [ledger, Event.reservation]
    · simp [ledger, Event.release]
  | overflowPosted index send found refused =>
    have posted : ((conn.drop (.other index)).postStop true).ledger = (conn.drop (.other index)).ledger :=
      ledger_congr (by simp) (by simp) (by simp) (by simp [Handler.held]) (by simp) (by simp) (by simp)
    rw [posted]
    exact ledger_spent stacked found (by simp [Send.fresh, refused]) (by simp [Send.held, refused])
  | overflowClosed send found refused =>
    rw [ledger_finishClose (stacked.dropped found)]
    exact ledger_spent stacked found (by simp [Send.fresh, refused]) (by simp [Send.held, refused])

theorem ledger_handling (stacked : Stacked conn) (sound : Sound conn) (handling : Handling conn fails after) :
    Ledger.Step Buffer.size conn.maxPendingSendBytes conn.ledger after.ledger := by
  cases handling with
  | startIgnored takes | stopIgnored force takes | writeIgnored result takes => exact ledger_kept (ledger_take takes rfl)
  | started takes isOpen =>
    refine ledger_kept (Eq.trans ?_ (ledger_take takes rfl))
    exact ledger_congr (by simp) (by simp) (by simp) (by simp) (by simp) (by simp) (by simp)
  | stopForced force takes | writeFailed result takes | readFailed result takes =>
    exact ledger_kept ((ledger_finishClose (stacked.taken _)).trans (ledger_take takes rfl))
  | stopDrains takes alive first isOpen busy =>
    refine ledger_kept (Eq.trans ?_ (ledger_take takes rfl))
    exact ledger_congr (by simp) (by simp) (by simp) (by simp) (by simp) (by simp [Event.reservation])
      (by simp [Event.release])
  | stopShuts takes alive first isOpen free base isBase =>
    have marked : base.ledger = conn.ledger := by
      subst isBase
      refine Eq.trans ?_ (ledger_take takes rfl)
      exact ledger_congr (by simp) (by simp) (by simp) (by simp) (by simp) (by simp [Event.reservation])
        (by simp [Event.release])
    have stackedBase : Stacked base := by
      subst isBase
      exact stacked.same (by simp) (by simp) (by simp) (by simp)
    refine ledger_kept ?_
    split
    · exact (ledger_finishClose stackedBase).trans marked
    · exact marked
  -- the connection is closing, and the reserved bytes are given back
  | sendDropped buffer size takes dropped =>
    have sized := sound.strand buffer size (by simp [takes.first])
    refine ledger_released buffer takes.idle (by simp [takes.idle]) (by simp) (by simp [sized]) ?_ (by simp [Event.reservation])
      (by simp [Event.release])
    simp [Connection.waiting, takes.first, Handler.held]
  -- the buffer goes from the strand to the write queue and stays reserved
  | sendQueued buffer size takes alive ungraceful fits isOpen busy =>
    refine ledger_moved takes.idle (by simp [takes.idle]) (by simp) (by simp) ?_ (by simp [Event.reservation])
      (by simp [Event.release])
    simp only [Connection.waiting, record_strand, record_writeQueue, take_strand, takes.first, List.filterMap_cons,
      Handler.held, List.map_append, List.map_cons, List.map_nil]
    rw [← List.append_assoc]
    exact List.perm_append_singleton _ _
  | sendStarted buffer size takes alive ungraceful fits isOpen free =>
    refine ledger_moved takes.idle (by simp [takes.idle]) (by simp) (by simp) ?_ (by simp [Event.reservation])
      (by simp [Event.release])
    simp only [Connection.waiting, record_strand, record_writeQueue, take_strand, takes.first, free, List.filterMap_cons,
      Handler.held, List.map_cons, List.map_nil, List.append_nil]
    exact List.perm_append_singleton _ _
  -- a completed write gives back its own bytes only
  | wroteNext takes alive write next writes queue =>
    have sized := sound.queue write (by simp [queue])
    refine ledger_released write.buffer takes.idle (by simp [takes.idle]) (by simp) (by simp [sized]) ?_ (by simp [Event.reservation])
      (by simp [Event.release])
    simp only [Connection.waiting, record_strand, record_writeQueue, releaseSendBytes_strand, take_strand, takes.first,
      queue, List.filterMap_cons, Handler.held, List.map_cons]
    exact List.perm_middle
  | wroteLast takes alive write queue ungraceful =>
    have sized := sound.queue write (by simp [queue])
    refine ledger_released write.buffer takes.idle (by simp [takes.idle]) (by simp) (by simp [sized]) ?_ (by simp [Event.reservation])
      (by simp [Event.release])
    simp only [Connection.waiting, releaseSendBytes_strand, take_strand, takes.first, queue, List.filterMap_cons,
      Handler.held, List.map_cons]
    exact List.perm_middle
  | wroteShuts takes alive write queue graceful base isBase =>
    have sized := sound.queue write (by simp [queue])
    have stackedBase : Stacked base := by
      subst isBase
      exact stacked.same (by simp) (by simp) (by simp) (by simp [alive])
    have marked : Ledger.Step Buffer.size conn.maxPendingSendBytes conn.ledger base.ledger := by
      subst isBase
      refine ledger_released write.buffer takes.idle (by simp [takes.idle]) (by simp) (by simp [sized]) ?_
        (by simp [Event.reservation]) (by simp [Event.release])
      simp only [Connection.waiting, markShutdown_strand, markShutdown_writeQueue, releaseSendBytes_strand, take_strand,
        takes.first, queue, List.filterMap_cons, Handler.held, List.map_cons]
      exact List.perm_middle
    split
    · rw [ledger_finishClose stackedBase]
      exact marked
    · exact marked
  | readDone read takes =>
    refine ledger_kept (Eq.trans ?_ (ledger_take takes rfl))
    simp [ledger, held, calling, Connection.unreleased, takes.idle, Activity.send]

theorem ledger_step (stacked : Stacked conn) (sound : Sound conn) (stepped : Stepped conn label after) :
    Ledger.Step Buffer.size conn.maxPendingSendBytes conn.ledger after.ledger := by
  cases stepped with
  | sent bytes =>
    have new := sound.unused bytes
    refine .enter ⟨conn.calls, bytes⟩ new rfl ?_ ?_ rfl rfl
    · simp only [ledger, calling, List.filterMap_append, List.filterMap_cons, Send.fresh,
        List.append_assoc, List.singleton_append]
      exact List.perm_middle
    · simp [ledger, held, calling, Connection.unreleased, Send.held, List.filterMap_cons]
  | stopped force =>
    exact ledger_kept (ledger_congr (by simp) (by simp) (by simp) (by simp [Handler.held]) (by simp)
      (by cases force <;> simp [Event.reservation]) (by cases force <;> simp [Event.release]))
  | readCompleted | writeCompleted =>
    exact ledger_kept (ledger_congr (by simp) (by simp) (by simp) (by simp [Handler.held]) (by simp) (by simp) (by simp))
  | writeDone index buffer found alive =>
    exact ledger_kept (ledger_congr (by simp) (by simp) (by simp) (by simp [Handler.held]) (by simp)
      (by simp [Event.reservation]) (by simp [Event.release]))
  | sending sending => exact ledger_sending stacked sound sending
  | handling fails handling => exact ledger_handling stacked sound handling
  | frameInvalid top status =>
    have emptied : Stacked { conn.pop with interpreter := { conn.interpreter with buffer := [] } } :=
      (stacked.popped top (by simp)).same (by simp) (by simp) (by simp) (by simp)
    refine ledger_kept ((ledger_finishClose emptied).trans (Eq.trans ?_ (ledger_pop stacked top rfl (by simp))))
    exact ledger_congr (by simp) (by simp) (by simp) (by simp) (by simp) (by simp) (by simp)
  | frameIncomplete top status =>
    refine ledger_kept (Eq.trans ?_ (ledger_pop stacked top rfl (by simp)))
    exact ledger_congr (by simp) (by simp) (by simp) (by simp [Handler.held]) (by simp) (by simp) (by simp)
  | frameDispatched top | notified top =>
    refine ledger_kept ?_
    simp [ledger, held, calling, Connection.unreleased, top, Activity.send, Event.reservation, Event.release,
      List.filterMap_cons]
  | released write writes top =>
    have sized := sound.closing (write :: writes) (by simp [top]) write List.mem_cons_self
    refine .release write.buffer (by simp [ledger, sized]) ?_ ?_ ?_ ?_
    · simp [ledger, calling, top, Activity.send, List.filterMap_cons]
    · simp only [ledger, held, calling, Connection.unreleased, releaseSendBytes_strand, releaseSendBytes_sends, top,
        List.filterMap_cons, Activity.send, List.map_cons]
      exact List.perm_middle
    · simp [ledger, Event.reservation]
    · simp [ledger, Event.release]
  -- every buffer of the closed connection has been released by now
  | @unnotified outer top unset =>
    have later : ({ conn with writeQueue := [], stack := outer } : Connection Link).unreleased = [] :=
      stacked.unreleased top rfl
    have before : conn.unreleased = [] := by simp [Connection.unreleased, top]
    refine ledger_kept ?_
    simp [ledger, held, calling, before, later, top, Activity.send, List.filterMap_cons]
  | userSent bytes user =>
    have new := sound.unused bytes
    refine .enter ⟨conn.calls, bytes⟩ new rfl ?_ ?_ rfl rfl
    · simp only [ledger, calling, List.filterMap_append, List.filterMap_cons, Send.fresh, Activity.send]
      exact List.perm_middle
    · simp only [ledger, held, user.unreleased, calling, Activity.send, List.filterMap_append, List.filterMap_cons,
        Send.held]
      exact List.Perm.refl _
  | userClosed user => exact ledger_kept (ledger_finishClose stacked)
  | userReturned user =>
    obtain ⟨outer, top | top⟩ := user
    · exact ledger_kept (ledger_pop stacked top rfl (by simp))
    · exact ledger_kept (ledger_pop stacked top rfl (by simp))

theorem limit_step (stepped : Stepped conn label after) : after.maxPendingSendBytes = conn.maxPendingSendBytes := by
  cases stepped with
  | sending sending => cases sending <;> simp
  | handling fails handling =>
    cases handling with
    | stopShuts takes alive first isOpen free base isBase | wroteShuts takes alive write queue graceful base isBase =>
      subst isBase
      split <;> simp
    | _ => simp
  | _ => simp

end Ledger

/-! ## Runs -/

structure Accounted (conn : Connection Link) : Prop where
  stacked : Stacked conn
  sound : Sound conn
  balanced : conn.ledger.Balanced Buffer.size conn.maxPendingSendBytes

theorem accounted_step {conn after : Connection Link} {label : Label} (accounted : Accounted conn) (stepped : Stepped conn label after) :
    Accounted after := by
  obtain ⟨stacked, sound, balanced⟩ := accounted
  refine ⟨stacked_step stacked stepped, sound_step sound stepped, ?_⟩
  rw [limit_step stepped]
  exact Ledger.balanced_step conn.maxPendingSendBytes.isLt balanced (ledger_step stacked sound stepped)

theorem accounted_reached {limit : Fin (2 ^ 64)} {onClosed : Bool} {link : Option Link}
    {history : List (Transition (Connection Link) Label)} {conn : Connection Link}
    (run : Run Connection.step (initial limit onClosed link) history conn) : Accounted conn := by
  refine run.invariant ?_ fun state label after accounted moved => accounted_step accounted (stepped_of_step moved)
  exact ⟨stacked_initial limit onClosed link, sound_initial limit onClosed link, Ledger.balanced_empty⟩

theorem limit_reached {limit : Fin (2 ^ 64)} {onClosed : Bool} {link : Option Link}
    {history : List (Transition (Connection Link) Label)} {conn : Connection Link}
    (run : Run Connection.step (initial limit onClosed link) history conn) : conn.maxPendingSendBytes = limit := by
  induction run with
  | start => rfl
  | next _ moved ih => exact (limit_step (stepped_of_step moved)).trans ih

structure Unsent (conn : Connection Link) : Prop where
  calls : conn.calling = []
  posted : ∀ buffer size, .sendImpl buffer size ∉ conn.strand

theorem held_nil {conn : Connection Link} (stacked : Stacked conn) (unsent : Unsent conn) (shut : conn.closed = true)
    (ended : ∀ writes, .closing writes ∉ conn.stack) : conn.held = [] := by
  have strand : conn.strand.filterMap Handler.held = [] := by
    rw [List.filterMap_eq_nil_iff]
    intro handler mem
    cases handler with
    | sendImpl buffer size => exact absurd mem (unsent.posted buffer size)
    | startImpl | activeStopImpl | handleWrite | handleRead => rfl
  have queue : conn.unreleased = [] := by
    rw [unreleased_eq fun writes outer top => ended writes (by simp [top])]
    exact stacked.emptied shut ended
  simp [held, unsent.calls, strand, queue]

/-- The counter is the size of the messages that hold a reservation, stays within the limit
and is never taken below zero; every reservation is one message's only one and is released
once or still held; and nothing is left when the connection has closed and no send is on
its way. -/
theorem send_budget (limit : Fin (2 ^ 64)) (onClosed : Bool) (link : Option Link)
    (history : List (Transition (Connection Link) Label)) (conn : Connection Link)
    (run : Run Connection.step (initial limit onClosed link) history conn) :
    conn.pendingSendBytes = (conn.held.map Buffer.size).sum ∧
    conn.pendingSendBytes ≤ limit ∧
    (∀ move ∈ history, ∀ buffer,
      move.after.log.filterMap Event.release = move.before.log.filterMap Event.release ++ [buffer] →
      buffer.size ≤ move.before.pendingSendBytes ∧
        move.after.pendingSendBytes = move.before.pendingSendBytes - buffer.size) ∧
    (conn.log.filterMap Event.reservation).Nodup ∧
    (conn.log.filterMap Event.reservation).Perm (conn.log.filterMap Event.release ++ conn.held) ∧
    (conn.closed = true → (∀ writes, .closing writes ∉ conn.stack) → Unsent conn → conn.pendingSendBytes = 0) := by
  have accounted := accounted_reached run
  have balanced := accounted.balanced
  refine ⟨balanced.used, limit_reached run ▸ balanced.bound, ?_, (List.nodup_append.mp balanced.once).2.1, balanced.account, ?_⟩
  · intro move mem buffer released
    obtain ⟨past, later, cut⟩ := List.append_of_mem mem
    obtain ⟨reached, moved, -⟩ := run.split cut
    have before := accounted_reached reached
    exact Ledger.release_le move.before.maxPendingSendBytes.isLt before.balanced
      (ledger_step before.stacked before.sound (stepped_of_step moved)) released
  · intro shut ended unsent
    have sum : conn.pendingSendBytes = (conn.held.map Buffer.size).sum := balanced.used
    rw [sum, held_nil accounted.stacked unsent shut ended]
    rfl

def writtenThenClosed : List Label :=
  let operation : Label := .advance 0 false
  ([.run false, .send [1, 2, 3]] : List Label) ++ List.replicate 5 operation ++
    ([.run false, .writeCompletes 0 .ok, .run false] : List Label) ++ ([.send [4, 5]] : List Label) ++
    List.replicate 5 operation ++ ([.stop true, .run false, .run false] : List Label) ++
    (List.replicate 2 (.resume false) : List Label) ++ ([.call .return] : List Label)

theorem send_budget_closed :
    (final Connection.step (initial 8 true (none : Option Unit)) writtenThenClosed).pendingSendBytes = 0 ∧
      (final Connection.step (initial 8 true (none : Option Unit)) writtenThenClosed).log.filterMap Event.reservation =
        [⟨0, [1, 2, 3]⟩, ⟨1, [4, 5]⟩] := by
  have run : Run Connection.step (initial 8 true (none : Option Unit))
      (transitions Connection.step (initial 8 true none) writtenThenClosed)
      (final Connection.step (initial 8 true none) writtenThenClosed) := run_of_enabled (by decide +kernel)
  have stack : (final Connection.step (initial 8 true (none : Option Unit)) writtenThenClosed).stack = [] := by
    decide +kernel
  have strand : (final Connection.step (initial 8 true (none : Option Unit)) writtenThenClosed).strand.isEmpty := by
    decide +kernel
  refine ⟨(send_budget 8 true none _ _ run).2.2.2.2.2 (by decide +kernel) (by simp [stack]) ⟨?_, ?_⟩, by decide +kernel⟩
  · decide +kernel
  · simp [List.isEmpty_iff.mp strand]

end Rsp.Server
