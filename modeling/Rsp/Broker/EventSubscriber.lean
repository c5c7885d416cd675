import Mathlib.Data.Finset.Basic
import Mathlib.Data.Multiset.AddSub
import Rsp.Foundation.Transition

/-! The event subscriber: the set of prefixes asked for, and the socket they are subscribed on.

`subscribe` and `unsubscribe` keep the set and queue what changes. The worker takes the queue
as a batch and applies it to its socket, which lives from one `start` to the next `stop`. A
socket that replaces another one gets the changes queued since, not the set.
-/

set_option autoImplicit false

namespace Rsp.Broker

open Foundation

abbrev EventTopic := String

inductive SubscriptionOperation where
  | kSubscribe
  | kUnsubscribe
  deriving DecidableEq, Repr

abbrev SubscriptionChange := SubscriptionOperation × EventTopic

abbrev Socket := Multiset EventTopic

/-- The thread of `run`, by the place it has reached. `ready` says whether the promise is set. -/
inductive Worker where
  | spawned
  | opened (socket : Socket)
  | applying (socket : Socket) (batch : List SubscriptionChange) (ready : Bool)
  | looping (socket : Socket)
  | checked (socket : Socket)
  | exited (ready : Bool)
  deriving DecidableEq

/-- The thread that calls `start` and `stop`, which wait for the worker. -/
inductive Caller where
  | idle
  | starting
  | stopping
  deriving DecidableEq, Repr

/-- `worker` is empty while `thread_` is not joinable. -/
structure EventSubscriber where
  subscriptions : Finset EventTopic := ∅
  subscriptionChanges : List SubscriptionChange := []
  running : Bool := false
  worker : Option Worker := none
  caller : Caller := .idle
  deriving DecidableEq

/-! ## Calls -/

namespace EventSubscriber

def subscribe (self : EventSubscriber) (topic : EventTopic) : EventSubscriber :=
  if topic ∈ self.subscriptions then self
  else { self with
    subscriptions := insert topic self.subscriptions
    subscriptionChanges := self.subscriptionChanges ++ [(.kSubscribe, topic)] }

def unsubscribe (self : EventSubscriber) (topic : EventTopic) : EventSubscriber :=
  if topic ∉ self.subscriptions then self
  else { self with
    subscriptions := self.subscriptions.erase topic
    subscriptionChanges := self.subscriptionChanges ++ [(.kUnsubscribe, topic)] }

/-- `start`, up to the wait for the promise; `none` is the assignment to a thread that is still joinable. -/
def start (self : EventSubscriber) : Option EventSubscriber :=
  if self.caller ≠ .idle then none
  else if self.running then some self
  else
    match self.worker with
    | some _ => none
    | none => some { self with running := true, worker := some .spawned, caller := .starting }

/-- The end of `start`: the promise is set, or the exception is met and the thread joined. -/
def started (self : EventSubscriber) : Option EventSubscriber :=
  match self.caller, self.worker with
  | .starting, some (.exited false) => some { self with running := false, worker := none, caller := .idle }
  | .starting, some (.exited true) | .starting, some (.looping _) | .starting, some (.checked _)
  | .starting, some (.applying _ _ true) => some { self with caller := .idle }
  | _, _ => none

def stop (self : EventSubscriber) : Option EventSubscriber :=
  if self.caller ≠ .idle then none
  else some { self with running := false, caller := if self.worker.isSome then .stopping else .idle }

def joined (self : EventSubscriber) : Option EventSubscriber :=
  match self.caller, self.worker with
  | .stopping, some (.exited _) => some { self with worker := none, caller := .idle }
  | _, _ => none

end EventSubscriber

/-! ## The worker -/

def setOption (socket : Socket) : SubscriptionChange → Socket
  | (.kSubscribe, topic) => topic ::ₘ socket
  | (.kUnsubscribe, topic) => socket.erase topic

namespace EventSubscriber

def withWorker (self : EventSubscriber) (worker : Worker) : EventSubscriber := { self with worker := some worker }

/-- The end of `configure_endpoint` on a new socket. -/
def openSocket (self : EventSubscriber) : Option EventSubscriber :=
  match self.worker with
  | some .spawned => some (self.withWorker (.opened 0))
  | _ => none

/-- The critical section of `apply_subscription_changes`. -/
def swap (self : EventSubscriber) : Option EventSubscriber :=
  match self.worker with
  | some (.opened socket) => some { self.withWorker (.applying socket self.subscriptionChanges false) with
      subscriptionChanges := [] }
  | some (.checked socket) => some { self.withWorker (.applying socket self.subscriptionChanges true) with
      subscriptionChanges := [] }
  | _ => none

/-- A turn of its loop, or its return, after the first of which the promise is set. -/
def apply (self : EventSubscriber) : Option EventSubscriber :=
  match self.worker with
  | some (.applying socket (change :: batch) ready) =>
      some (self.withWorker (.applying (setOption socket change) batch ready))
  | some (.applying socket [] _) => some (self.withWorker (.looping socket))
  | _ => none

/-- The test of `while (running_)`; the socket goes out of scope with the loop. -/
def check (self : EventSubscriber) : Option EventSubscriber :=
  match self.worker with
  | some (.looping socket) => some (self.withWorker (if self.running then .checked socket else .exited true))
  | _ => none

/-- An exception of the socket, which ends the worker from wherever it is. -/
def fail (self : EventSubscriber) : Option EventSubscriber :=
  match self.worker with
  | some .spawned | some (.opened _) | some (.applying _ _ false) =>
      some { self.withWorker (.exited false) with running := false }
  | some (.applying _ _ true) | some (.looping _) | some (.checked _) =>
      some { self.withWorker (.exited true) with running := false }
  | some (.exited _) | none => none

end EventSubscriber

inductive Label where
  | subscribe (topic : EventTopic)
  | unsubscribe (topic : EventTopic)
  | start
  | started
  | stop
  | joined
  | openSocket
  | swap
  | apply
  | check
  | fail
  deriving DecidableEq, Repr

def step (self : EventSubscriber) : Label → Option EventSubscriber
  | .subscribe topic => some (self.subscribe topic)
  | .unsubscribe topic => some (self.unsubscribe topic)
  | .start => self.start
  | .started => self.started
  | .stop => self.stop
  | .joined => self.joined
  | .openSocket => self.openSocket
  | .swap => self.swap
  | .apply => self.apply
  | .check => self.check
  | .fail => self.fail

abbrev History := List (Transition EventSubscriber Label)

abbrev Reaches (history : History) (state : EventSubscriber) : Prop := Run step {} history state

/-! ## Changes of a set, applied later -/

def applyAll (socket : Socket) (changes : List SubscriptionChange) : Socket := changes.foldl setOption socket

section Changes

variable {socket : Socket} {changes : List SubscriptionChange} {subscriptions : Finset EventTopic} {topic : EventTopic}

theorem applyAll_concat (socket : Socket) (changes : List SubscriptionChange) (last : SubscriptionChange) :
    applyAll socket (changes ++ [last]) = setOption (applyAll socket changes) last := by
  simp [applyAll, List.foldl_append]

theorem applyAll_subscribed (applied : applyAll socket changes = subscriptions.val) (absent : topic ∉ subscriptions) :
    applyAll socket (changes ++ [(.kSubscribe, topic)]) = (insert topic subscriptions).val := by
  rw [applyAll_concat, applied, Finset.insert_val_of_notMem absent]
  rfl

theorem applyAll_unsubscribed (applied : applyAll socket changes = subscriptions.val) :
    applyAll socket (changes ++ [(.kUnsubscribe, topic)]) = (subscriptions.erase topic).val := by
  rw [applyAll_concat, applied, Finset.erase_val]
  rfl

def Queued (subscriptions : Finset EventTopic) (changes : List SubscriptionChange) : Prop :=
  ∀ topic, (applyAll 0 changes).count topic =
    if topic ∈ subscriptions ∧ topic ∈ changes.map Prod.snd then 1 else 0

theorem queued_subscribed (queued : Queued subscriptions changes) (absent : topic ∉ subscriptions) :
    Queued (insert topic subscriptions) (changes ++ [(.kSubscribe, topic)]) := by
  intro other
  rw [applyAll_concat, setOption]
  by_cases same : other = topic
  · subst same
    rw [Multiset.count_cons_self, queued other]
    simp [absent]
  · rw [Multiset.count_cons_of_ne same, queued other]
    exact if_congr (by simp [same]) rfl rfl

theorem queued_unsubscribed (queued : Queued subscriptions changes) :
    Queued (subscriptions.erase topic) (changes ++ [(.kUnsubscribe, topic)]) := by
  intro other
  rw [applyAll_concat, setOption]
  by_cases same : other = topic
  · subst same
    have once := queued other
    have bound : (applyAll 0 changes).count other ≤ 1 := by
      rw [once]
      split <;> decide
    rw [Multiset.count_erase_self]
    simp [Nat.sub_eq_zero_of_le bound]
  · rw [Multiset.count_erase_of_ne same, queued other]
    exact if_congr (by simp [same]) rfl rfl

theorem queued_rebuilds (queued : Queued subscriptions changes)
    (mentioned : ∀ topic ∈ subscriptions, topic ∈ changes.map Prod.snd) :
    applyAll 0 changes = subscriptions.val := by
  ext topic
  rw [queued topic, Multiset.count_eq_of_nodup subscriptions.nodup]
  by_cases member : topic ∈ subscriptions
  · rw [if_pos ⟨member, mentioned topic member⟩, if_pos (Finset.mem_val.mpr member)]
  · rw [if_neg (fun both => member both.1), if_neg (fun mem => member (Finset.mem_val.mp mem))]

end Changes

/-! ## Runs -/

def Worker.progress : Worker → Option (Socket × List SubscriptionChange)
  | .spawned => some (0, [])
  | .opened socket | .looping socket | .checked socket => some (socket, [])
  | .applying socket batch _ => some (socket, batch)
  | .exited _ => none

def Worker.applied : Worker → Option Socket
  | .looping socket | .checked socket | .applying socket [] _ => some socket
  | .spawned | .opened _ | .applying _ (_ :: _) _ | .exited _ => none

/-- A start that spawns a worker finds every prefix asked for in the queue. -/
def Rebuilds (move : Transition EventSubscriber Label) : Prop :=
  move.label = .start → move.before.running = false →
    ∀ topic ∈ move.before.subscriptions, topic ∈ move.before.subscriptionChanges.map Prod.snd

instance (move : Transition EventSubscriber Label) : Decidable (Rebuilds move) := by
  unfold Rebuilds
  infer_instance

/-- The batch and the queue make of the socket what the callers asked for. -/
structure Faithful (state : EventSubscriber) : Prop where
  queued : Queued state.subscriptions state.subscriptionChanges
  leads : ∀ worker socket batch, state.worker = some worker → worker.progress = some (socket, batch) →
    applyAll socket (batch ++ state.subscriptionChanges) = state.subscriptions.val

section Step

variable {state after : EventSubscriber}

theorem faithful_subscribe (faithful : Faithful state) (topic : EventTopic) : Faithful (state.subscribe topic) := by
  unfold EventSubscriber.subscribe
  split
  · exact faithful
  · next absent =>
    constructor
    case queued => exact queued_subscribed faithful.queued absent
    case leads =>
      intro worker socket batch here progress
      have applied := faithful.leads worker socket batch here progress
      rw [← List.append_assoc]
      exact applyAll_subscribed applied absent

theorem faithful_unsubscribe (faithful : Faithful state) (topic : EventTopic) : Faithful (state.unsubscribe topic) := by
  unfold EventSubscriber.unsubscribe
  split
  · exact faithful
  · constructor
    case queued => exact queued_unsubscribed faithful.queued
    case leads =>
      intro worker socket batch here progress
      have applied := faithful.leads worker socket batch here progress
      rw [← List.append_assoc]
      exact applyAll_unsubscribed applied

/-- A step that leaves the set and the queue alone may only bring the worker further with its batch. -/
theorem faithful_further (faithful : Faithful state) (same : after.subscriptions = state.subscriptions)
    (kept : after.subscriptionChanges = state.subscriptionChanges)
    (further : ∀ worker socket batch, after.worker = some worker → worker.progress = some (socket, batch) →
      ∃ worker' socket' batch', state.worker = some worker' ∧ worker'.progress = some (socket', batch') ∧
        applyAll socket batch = applyAll socket' batch') : Faithful after := by
  constructor
  case queued =>
    rw [same, kept]
    exact faithful.queued
  case leads =>
    intro worker socket batch here progress
    obtain ⟨worker', socket', batch', before, from_, applied⟩ := further worker socket batch here progress
    rw [same, kept, ← faithful.leads worker' socket' batch' before from_]
    simp only [applyAll, List.foldl_append] at applied ⊢
    rw [applied]

theorem faithful_start (faithful : Faithful state) (moved : state.start = some after)
    (rebuilds : Rebuilds ⟨state, .start, after⟩) : Faithful after := by
  unfold EventSubscriber.start at moved
  split at moved
  · cases moved
  · split at moved
    · cases moved
      exact faithful
    · next stopped =>
      split at moved
      · cases moved
      · cases moved
        constructor
        case queued => exact faithful.queued
        case leads =>
          intro worker socket batch here progress
          cases here
          cases progress
          exact queued_rebuilds faithful.queued (rebuilds rfl (by simpa using stopped))

theorem faithful_swap (faithful : Faithful state) (moved : state.swap = some after) : Faithful after := by
  have taken : ∀ worker socket, state.worker = some worker → worker.progress = some (socket, []) →
      applyAll socket state.subscriptionChanges = state.subscriptions.val := by
    intro worker socket here progress
    exact faithful.leads worker socket [] here progress
  unfold EventSubscriber.swap at moved
  split at moved
  case h_3 => cases moved
  all_goals
    next socket here =>
      cases moved
      constructor
      case queued =>
        intro topic
        simp [applyAll]
      case leads =>
        intro worker socket batch now progress
        cases now
        cases progress
        rw [List.append_nil]
        exact taken _ _ here rfl

theorem faithful_apply (faithful : Faithful state) (moved : state.apply = some after) : Faithful after := by
  unfold EventSubscriber.apply at moved
  split at moved
  · next socket change batch ready here =>
    cases moved
    refine faithful_further faithful rfl rfl ?_
    intro worker socket' batch' now progress
    cases now
    cases progress
    exact ⟨_, _, _, here, rfl, rfl⟩
  · next socket ready here =>
    cases moved
    refine faithful_further faithful rfl rfl ?_
    intro worker socket' batch' now progress
    cases now
    cases progress
    exact ⟨_, _, _, here, rfl, rfl⟩
  · cases moved

theorem faithful_step {label : Label} (faithful : Faithful state) (moved : step state label = some after)
    (rebuilds : Rebuilds ⟨state, label, after⟩) : Faithful after := by
  cases label with
  | subscribe topic =>
    cases moved
    exact faithful_subscribe faithful topic
  | unsubscribe topic =>
    cases moved
    exact faithful_unsubscribe faithful topic
  | start => exact faithful_start faithful moved rebuilds
  | swap => exact faithful_swap faithful moved
  | apply => exact faithful_apply faithful moved
  -- the others leave the set and the queue alone, and only the worker gets further
  | started =>
    simp only [step, EventSubscriber.started] at moved
    split at moved <;> cases moved <;> refine faithful_further faithful rfl rfl ?_
    · intro worker socket batch here
      cases here
    all_goals exact fun worker socket batch here progress => ⟨worker, socket, batch, here, progress, rfl⟩
  | stop =>
    simp only [step, EventSubscriber.stop] at moved
    split at moved
    · cases moved
    · cases moved
      refine faithful_further faithful rfl rfl ?_
      exact fun worker socket batch here progress => ⟨worker, socket, batch, here, progress, rfl⟩
  | joined =>
    simp only [step, EventSubscriber.joined] at moved
    split at moved <;> cases moved
    refine faithful_further faithful rfl rfl ?_
    intro worker socket batch here
    cases here
  | openSocket =>
    simp only [step, EventSubscriber.openSocket] at moved
    split at moved <;> cases moved
    next here =>
      refine faithful_further faithful rfl rfl ?_
      intro worker socket batch now progress
      cases now
      cases progress
      exact ⟨_, _, _, here, rfl, rfl⟩
  | check =>
    simp only [step, EventSubscriber.check] at moved
    split at moved <;> cases moved
    next socket here =>
      refine faithful_further faithful rfl rfl ?_
      intro worker socket' batch now progress
      cases now
      split at progress
      · cases progress
        exact ⟨_, _, _, here, rfl, rfl⟩
      · cases progress
  | fail =>
    simp only [step, EventSubscriber.fail] at moved
    split at moved <;> cases moved <;> refine faithful_further faithful rfl rfl ?_ <;>
      · intro worker socket batch now progress
        cases now
        cases progress

end Step

theorem faithful_reached {history : History} {state : EventSubscriber} (run : Reaches history state)
    (rebuilds : ∀ move ∈ history, Rebuilds move) : Faithful state := by
  apply run.history fun _ state => Faithful state
  · constructor
    case queued =>
      intro topic
      simp [applyAll]
    case leads =>
      intro worker socket batch none
      cases none
  · intro past move reached faithful moved mem
    exact faithful_step faithful moved (rebuilds move mem)

/-- In a run whose starts each find every prefix asked for still queued, a worker that has applied all that was
queued has a socket subscribed to the prefixes asked for, to each once. -/
theorem subscriptions_reach_socket {history : History} {state : EventSubscriber} (run : Reaches history state)
    (rebuilds : ∀ move ∈ history, Rebuilds move) {worker : Worker} {socket : Socket}
    (here : state.worker = some worker) (applied : worker.applied = some socket)
    (settled : state.subscriptionChanges = []) : socket = state.subscriptions.val := by
  have progress : worker.progress = some (socket, []) := by
    unfold Worker.applied at applied
    split at applied <;> cases applied <;> rfl
  have leads := (faithful_reached run rebuilds).leads worker socket [] here progress
  rw [settled] at leads
  exact leads

def oneStart : List Label :=
  [.subscribe "jackpot.", .start, .openSocket, .swap, .apply, .apply, .started, .subscribe "system.", .check, .swap,
    .apply, .apply]

theorem subscriptions_reach_socket_oneStart :
    (final step {} oneStart).worker = some (.looping {"system.", "jackpot."}) ∧
      ({"system.", "jackpot."} : Socket) = (final step {} oneStart).subscriptions.val := by
  have run : Reaches _ (final step {} oneStart) := run_of_enabled (by decide +kernel)
  have here : (final step {} oneStart).worker = some (.looping {"system.", "jackpot."}) := by decide +kernel
  exact ⟨here, subscriptions_reach_socket run (by decide +kernel) here rfl (by decide +kernel)⟩

def twoStarts : List Label :=
  [.subscribe "jackpot.", .start, .openSocket, .swap, .apply, .apply, .started, .stop, .check, .joined, .start,
    .openSocket, .swap, .apply, .started]

/-- The second socket is subscribed to nothing. -/
theorem restart_loses_subscriptions :
    ∃ history state, Reaches history state ∧ state.worker = some (.looping 0) ∧ state.subscriptionChanges = [] ∧
      state.subscriptions = {"jackpot."} := by
  have run : Reaches _ (final step {} twoStarts) := run_of_enabled (by decide +kernel)
  exact ⟨_, _, run, by decide +kernel, by decide +kernel, by decide +kernel⟩

end Rsp.Broker
