import Rsp.Foundation.Heap
import Rsp.Message.Admissions
import Rsp.Message.Dispatcher
import Rsp.Message.Wire
import Rsp.RoomServer.Server

/-! What a buffer from a User server does in the Room server.

`user_channel` looks neither at the status of `destruct_buffer` nor at the result of
parsing: a buffer without a complete frame counts as a ping, and a payload that does not
parse acts with the fields that were read before the failure.
-/

set_option autoImplicit false

namespace Rsp.RoomServer

open Message Foundation

/-- The parsers of the messages the channel handles: what the message object holds afterwards,
and the result of `ParseFromIstream`. -/
structure Codec where
  ping : RawBuffer → Unit × Bool := fun _ => ((), true)
  reqCreateRoom : RawBuffer → User2RoomReqCreateRoom × Bool := fun _ => ({}, true)
  reqJoinRoom : RawBuffer → User2RoomReqJoinRoom × Bool := fun _ => ({}, true)
  fwdRoom : RawBuffer → User2RoomFwdRoom × Bool := fun _ => ({}, true)
  reqLeaveRoom : RawBuffer → User2RoomReqLeaveRoom × Bool := fun _ => ({}, true)
  cancelRequest : RawBuffer → User2RoomCancelRequest × Bool := fun _ => ({}, true)

inductive Handler where
  | ping
  | reqCreateRoom
  | reqJoinRoom
  | fwdRoom
  | reqLeaveRoom
  | cancelRequest
  deriving DecidableEq, Repr

def handlers : List (MessageType × Handler) :=
  [(.kPing, .ping),
    (.kUser2RoomReqCreateRoom, .reqCreateRoom),
    (.kUser2RoomReqJoinRoom, .reqJoinRoom),
    (.kUser2RoomFwdRoom, .fwdRoom),
    (.kUser2RoomReqLeaveRoom, .reqLeaveRoom),
    (.kUser2RoomCancelRequest, .cancelRequest)]

/-- The constructor of `message_dispatcher<user_channel>`, the only one of this process. -/
def dispatcher : MessageDispatcher Handler Unit :=
  (({} : MessageDispatcher Handler Unit).registerHandlers handlers).registerUnknownMessageHandler ()

def Codec.message (self : Codec) (payload : RawBuffer) : Handler → ToRoom
  | .ping => .ping
  | .reqCreateRoom => .reqCreateRoom (self.reqCreateRoom payload).1
  | .reqJoinRoom => .reqJoinRoom (self.reqJoinRoom payload).1
  | .fwdRoom => .fwdRoom (self.fwdRoom payload).1
  | .reqLeaveRoom => .reqLeaveRoom (self.reqLeaveRoom payload).1
  | .cancelRequest => .cancelRequest (self.cancelRequest payload).1

/-- The result of parsing that the handler drops. -/
def Codec.parses (self : Codec) (payload : RawBuffer) : Handler → Bool
  | .ping => (self.ping payload).2
  | .reqCreateRoom => (self.reqCreateRoom payload).2
  | .reqJoinRoom => (self.reqJoinRoom payload).2
  | .fwdRoom => (self.fwdRoom payload).2
  | .reqLeaveRoom => (self.reqLeaveRoom payload).2
  | .cancelRequest => (self.cancelRequest payload).2

/-- The callback of `user_channel::start_async`, up to the first item of the message's handler. -/
def onBuffer (codec : Codec) (choice : Choice) (source : RoutingId) (buffer : RawBuffer) (core : Core) : Option Effect :=
  let core := { core with currentRoute := source }
  let destructed := Serializer.destructBuffer buffer
  match dispatcher.dispatch destructed.type with
  | some (.inl handler) => exec choice (.onRecv (codec.message destructed.payload handler)) core
  | some (.inr _) => some { core }
  | none => none

theorem onBuffer_delivers {codec : Codec} {buffer : RawBuffer} {handler : Handler} {state : State} (choice : Choice)
    (source : RoutingId) (found : dispatcher.dispatch (Serializer.destructBuffer buffer).type = some (.inl handler))
    (quiet : state.pool.idle .router) :
    (step state (.deliver source (codec.message (Serializer.destructBuffer buffer).payload handler))).bind
        (step · (.run .router choice)) =
      (onBuffer codec choice source buffer state.core).map fun effect =>
        ⟨effect.core, effect.next.map (Prod.mk .router) ++ state.pool ++ effect.posts⟩ := by
  have popped : ∀ item : Task, Pool.pop .router (state.pool ++ [(.router, item)]) = some (item, state.pool ++ []) :=
    fun _ => Pool.pop_of_idle quiet
  simp only [step, if_pos quiet, Option.bind_some, Machine.run, popped, onBuffer, found, List.append_nil]

/-! ## Malformed buffers -/

def WellFormed (codec : Codec) (buffer : RawBuffer) : Prop :=
  (Serializer.destructBuffer buffer).status = .kComplete ∧
    ∃ handler, dispatcher.find (Serializer.destructBuffer buffer).type = some handler ∧
      codec.parses (Serializer.destructBuffer buffer).payload handler = true

/-- No record of a finished or cancelled request has expired, so that nothing is pruned. -/
def Current (registry : QueuedRequests) (now : Nat) : Prop :=
  ∀ (key : RequestKey) (expiry : Nat), registry.terminal[key]? = some expiry → now < expiry

def Declines (registry : QueuedRequests) (key : RequestKey) (now : Nat) : Prop :=
  Current registry now ∧ (registry.active.contains key || registry.terminal.contains key ||
    registry.capacity ≤ registry.active.size) = true

/-- A cancel comes too late, or its request was already remembered. -/
def Late (registry : QueuedRequests) (key : RequestKey) (now : Nat) : Prop :=
  Current registry now ∧ match registry.active[key]? with
    | some ticket => registry.state ticket ≠ some .kQueued
    | none => registry.terminal.contains key = true ∨ registry.capacity = 0

/-- The record of a request has expired in this very instant, and without retention an equal one
takes its place. -/
structure Renewed (registry : QueuedRequests) (key : RequestKey) (now : Nat) : Prop where
  idle : registry.active[key]? = none
  instant : registry.retention = 0
  expired : registry.terminal[key]? = some now
  others : ∀ (other : RequestKey) (expiry : Nat), registry.terminal[other]? = some expiry → other ≠ key → now < expiry
  space : (registry.prune now).terminal.size < registry.capacity

def Spent (registry : QueuedRequests) (key : RequestKey) (now : Nat) : Prop :=
  Late registry key now ∨ Renewed registry key now

/-- What the fields read from a payload leave alone: the id of a request is refused, a cancel finds
nothing to cancel, and a message comes from a user who is in no room. -/
def Misses (codec : Codec) (now : Nat) (source : RoutingId) (core : Core) (payload : RawBuffer) : Handler → Prop
  | .ping => False
  | .reqCreateRoom => Declines core.registry (source, (codec.reqCreateRoom payload).1.requestId) now
  | .reqJoinRoom => Declines core.registry (source, (codec.reqJoinRoom payload).1.requestId) now
  | .reqLeaveRoom => Declines core.registry (source, (codec.reqLeaveRoom payload).1.requestId) now
  | .fwdRoom => core.manager.userRooms[(codec.fwdRoom payload).1.uid]? = none
  | .cancelRequest => Spent core.registry (source, (codec.cancelRequest payload).1.requestId) now

def Harmless (codec : Codec) (now : Nat) (source : RoutingId) (core : Core) (buffer : RawBuffer) : Prop :=
  ∀ handler, dispatcher.find (Serializer.destructBuffer buffer).type = some handler →
    Misses codec now source core (Serializer.destructBuffer buffer).payload handler

structure NoEffect (core : Core) (effect : Effect) : Prop where
  manager : effect.core.manager = core.manager
  rooms : effect.core.heap = core.heap
  registry : effect.core.registry = core.registry
  silent : effect.core.outgoing = core.outgoing
  done : items effect = []

section Registry

variable {registry : QueuedRequests} {key : RequestKey} {now : Nat}

theorem prune_eq_iff : registry.prune now = registry ↔ Current registry now := by
  constructor
  · intro same key expiry found
    have kept := QueuedRequests.prune_terminal registry now key
    rw [same, found] at kept
    by_contra expired
    simp [Option.filter, expired] at kept
  · intro current
    have kept : registry.terminal.filter (fun _ expiry => now < expiry) = registry.terminal := by
      apply Std.ExtTreeMap.ext_getElem?
      intro key
      rw [Std.ExtTreeMap.getElem?_filter, Option.pfilter_eq_filter]
      cases found : registry.terminal[key]? with
      | none => rfl
      | some expiry => simp [current key expiry found]
    simp only [QueuedRequests.prune, kept]

theorem declined_iff : registry.admitRequest key now = (registry, none) ↔ Declines registry key now := by
  simp only [QueuedRequests.admitRequest]
  constructor
  · intro same
    split at same
    · next known =>
      have current := (Prod.mk.inj same).1
      rw [current] at known
      exact ⟨prune_eq_iff.mp current, known⟩
    · cases (Prod.mk.inj same).2
  · rintro ⟨current, known⟩
    simp only [prune_eq_iff.mpr current]
    exact if_pos known

theorem cancelTicket_eq_iff {ticket : Ticket} :
    registry.cancelTicket ticket = registry ↔ registry.state ticket ≠ some .kQueued := by
  unfold QueuedRequests.cancelTicket
  constructor
  · intro same queued
    rw [if_pos queued] at same
    have cancelled := congrArg (QueuedRequests.state · ticket) same
    simp only [QueuedRequests.state] at cancelled queued
    rw [heap_get_set queued, if_pos rfl, queued] at cancelled
    cases cancelled
  · intro moved
    exact if_neg moved

/-- A record that `remember` makes leaves the registry as it was only where it replaces an equal one. -/
theorem renewed_of_remember (some : registry.capacity ≠ 0) (idle : registry.active[key]? = none)
    (fresh : (registry.prune now).terminal[key]? = none) (same : (registry.prune now).remember key now = registry) :
    Renewed registry key now := by
  have made := QueuedRequests.remembered (registry.prune now) key now
  rw [same] at made
  have pruned := QueuedRequests.prune_terminal registry now
  generalize held : registry.terminal = records at made pruned
  cases made with
  | dropped none => exact absurd none some
  | @evicted least earliest positive full found smallest =>
    -- The evicted record would still be there.
    have other : key ≠ least := by
      rintro rfl
      cases fresh.symm.trans found
    have kept := pruned least
    rw [found, Std.ExtTreeMap.getElem?_insert, if_neg (by simpa using other), Std.ExtTreeMap.getElem?_erase_self] at kept
    cases kept
  | added space =>
    have gone := pruned key
    rw [fresh, Std.ExtTreeMap.getElem?_insert_self] at gone
    have instant : registry.retention = 0 := by simpa [Option.filter, QueuedRequests.prune] using gone
    refine ⟨idle, instant, ?_, fun other expiry found foreign => ?_, space⟩
    · rw [held, Std.ExtTreeMap.getElem?_insert_self]
      simp [QueuedRequests.prune, instant]
    · have kept := pruned other
      rw [held] at found
      rw [found] at kept
      rw [Std.ExtTreeMap.getElem?_insert, if_neg (by simpa using foreign.symm)] at found
      by_contra expired
      simp [found, Option.filter, expired] at kept

theorem remember_of_renewed (renewed : Renewed registry key now) :
    (registry.prune now).remember key now = registry := by
  have space := renewed.space
  have some : registry.capacity ≠ 0 := by omega
  have terminal : (registry.prune now).terminal.insert key (now + registry.retention) = registry.terminal := by
    apply Std.ExtTreeMap.ext_getElem?
    intro other
    rw [Std.ExtTreeMap.getElem?_insert, QueuedRequests.prune_terminal]
    split
    · next same =>
      rw [← Std.LawfulEqCmp.compare_eq_iff_eq.mp same, renewed.expired, renewed.instant]
      rfl
    · next foreign =>
      cases found : registry.terminal[other]? with
      | none => rfl
      | some expiry =>
        have current := renewed.others other expiry found (by rintro rfl; simp at foreign)
        simp [Option.filter, current]
  have roomy : ¬ (registry.prune now).capacity ≤ (registry.prune now).terminal.size := Nat.not_le.mpr space
  have positive : (registry.prune now).capacity ≠ 0 := some
  simp only [QueuedRequests.remember, if_neg positive, if_neg roomy]
  exact (congrArg (fun records => { registry with terminal := records }) terminal)

theorem cancel_eq_iff : registry.cancel key now = registry ↔ Spent registry key now := by
  simp only [QueuedRequests.cancel, QueuedRequests.prune_active]
  constructor
  · intro same
    cases found : registry.active[key]? with
    | some ticket =>
      simp only [found] at same
      have current : registry.prune now = registry := by
        have terminal := congrArg QueuedRequests.terminal same
        have untouched : ((registry.prune now).cancelTicket ticket).terminal = (registry.prune now).terminal := by
          unfold QueuedRequests.cancelTicket
          split <;> rfl
        rw [untouched] at terminal
        exact congrArg (fun records => { registry with terminal := records }) terminal
      rw [current] at same
      refine .inl ⟨prune_eq_iff.mp current, ?_⟩
      rw [found]
      exact cancelTicket_eq_iff.mp same
    | none =>
      simp only [found] at same
      split at same
      · next known =>
        rw [same] at known
        refine .inl ⟨prune_eq_iff.mp same, ?_⟩
        rw [found]
        exact .inl known
      · next fresh =>
        by_cases empty : registry.capacity = 0
        · have dropped : (registry.prune now).remember key now = registry.prune now := if_pos empty
          rw [dropped] at same
          refine .inl ⟨prune_eq_iff.mp same, ?_⟩
          rw [found]
          exact .inr empty
        · exact .inr (renewed_of_remember empty found (by simpa using fresh) same)
  · rintro (⟨current, rest⟩ | renewed)
    · simp only [prune_eq_iff.mpr current]
      cases found : registry.active[key]? with
      | some ticket =>
        rw [found] at rest
        exact if_neg rest
      | none =>
        rw [found] at rest
        by_cases known : registry.terminal.contains key = true
        · exact if_pos known
        · -- Without capacity nothing is remembered.
          have empty := rest.resolve_left known
          simp only [if_neg known, QueuedRequests.remember, if_pos empty]
    · have pruned : ¬ (registry.prune now).terminal.contains key = true := by
        have gone := QueuedRequests.prune_terminal registry now key
        rw [renewed.expired] at gone
        simpa [Option.filter] using gone
      simp only [renewed.idle, if_neg pruned]
      exact remember_of_renewed renewed

end Registry

section Frames

variable {core : Core} {choice : Choice} {source : RoutingId}

theorem noEffect_handle {requestId : Nat} (resType : MessageType) (first : Stage) :
    NoEffect core (handleRequest choice requestId resType first { core with currentRoute := source }) ↔
      Declines core.registry (source, requestId) choice.now := by
  rw [← declined_iff]
  constructor
  · rintro ⟨-, -, registry, -, done⟩
    simp only [handleRequest] at registry done
    cases refused : (core.registry.admitRequest (source, requestId) choice.now).2 with
    | none => exact Prod.ext registry refused
    | some ticket => simp [refused, items] at done
  · intro declined
    simp only [handleRequest, declined]
    exact ⟨rfl, rfl, rfl, rfl, rfl⟩

theorem noEffect_iff_misses (codec : Codec) (payload : RawBuffer) (handler : Handler) :
    NoEffect core (onRecv choice { core with currentRoute := source } (codec.message payload handler)) ↔
      Misses codec choice.now source core payload handler := by
  cases handler with
  | ping =>
    refine ⟨fun quiet => ?_, False.elim⟩
    simpa [onRecv, Codec.message, Core.send] using quiet.silent
  | reqCreateRoom | reqJoinRoom | reqLeaveRoom => exact noEffect_handle _ _
  | fwdRoom =>
    simp only [onRecv, Codec.message, RoomManager.findUserRoom, Misses]
    cases mapped : core.manager.userRooms[(codec.fwdRoom payload).1.uid]? with
    | none => exact ⟨fun _ => rfl, fun _ => ⟨rfl, rfl, rfl, rfl, rfl⟩⟩
    | some room => exact ⟨fun quiet => by simpa [items] using quiet.done, by simp⟩
  | cancelRequest =>
    refine Iff.trans ?_ cancel_eq_iff
    exact ⟨NoEffect.registry, fun same => ⟨rfl, rfl, same, rfl, rfl⟩⟩

theorem dispatch_unknown {type : MessageType} (unknown : dispatcher.find type = none) :
    dispatcher.dispatch type = some (.inr ()) := by
  rw [MessageDispatcher.dispatch_eq, unknown]
  rfl

theorem noEffect_iff_harmless (codec : Codec) (buffer : RawBuffer) :
    (∃ effect, onBuffer codec choice source buffer core = some effect ∧ NoEffect core effect) ↔
      Harmless codec choice.now source core buffer := by
  cases found : dispatcher.find (Serializer.destructBuffer buffer).type with
  | none =>
    simp only [onBuffer, dispatch_unknown found, Harmless, found]
    exact ⟨fun _ _ => nofun, fun _ => ⟨_, rfl, rfl, rfl, rfl, rfl, rfl⟩⟩
  | some handler =>
    have chosen : dispatcher.dispatch (Serializer.destructBuffer buffer).type = some (.inl handler) := by
      rw [MessageDispatcher.dispatch_eq, found]
      rfl
    simp only [onBuffer, chosen, exec, Option.some.injEq, exists_eq_left', Harmless, found, forall_eq']
    exact noEffect_iff_misses codec _ handler

end Frames

end Rsp.RoomServer
