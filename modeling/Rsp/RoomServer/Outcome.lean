import Rsp.RoomServer.Membership
import Rsp.RoomServer.Tickets

/-! The outcome of a request.

`Phase` follows one admitted request through a run: it waits unstarted, and then it is
either cancelled and dropped without a trace, or started and answered once.
-/

set_option autoImplicit false

namespace Rsp.RoomServer

open Message Foundation

/-! ## What a run does for a ticket -/

def worksFor (ticket : Ticket) (move : Transition State Label) : Bool :=
  match executed move with
  | some (_, task) => (task.workFor ticket).isSome
  | none => false

def sent (move : Transition State Label) : List Outgoing :=
  move.after.core.outgoing.drop move.before.core.outgoing.length

def replies (ticket : Ticket) (history : History) : List Outgoing :=
  (history.filter (worksFor ticket)).flatMap sent

structure Inert (move : Transition State Label) : Prop where
  manager : move.after.core.manager = move.before.core.manager
  rooms : move.after.core.heap = move.before.core.heap
  silent : move.after.core.outgoing = move.before.core.outgoing

def Untouched (ticket : Ticket) (history : History) : Prop := ∀ move ∈ history, worksFor ticket move → Inert move

def Rethrows (move : Transition State Label) : Prop :=
  match executed move with
  | some (_, .handle _ .abort) => True
  | _ => False

def aborts : Option (Choice × Task) → Bool
  | some (_, .handle _ .abort) => true
  | _ => false

theorem rethrows_iff (move : Transition State Label) : aborts (executed move) = true ↔ Rethrows move := by
  unfold aborts Rethrows
  split <;> simp

instance (move : Transition State Label) : Decidable (Rethrows move) := decidable_of_iff _ (rethrows_iff move)

theorem worksFor_executed {ticket : Ticket} {move : Transition State Label} {choice : Choice} {task : Task}
    (runs : executed move = some (choice, task)) : worksFor ticket move = (task.workFor ticket).isSome := by
  rw [worksFor, runs]

theorem sent_silent {move : Transition State Label}
    (silent : move.after.core.outgoing = move.before.core.outgoing) : sent move = [] := by
  simp [sent, silent]

theorem replies_concat (ticket : Ticket) (history : History) (move : Transition State Label) :
    replies ticket (history ++ [move]) =
      replies ticket history ++ (if worksFor ticket move then sent move else []) := by
  simp only [replies, List.filter_append, List.flatMap_append]
  cases works : worksFor ticket move <;> simp [works]

theorem replies_untouched {ticket : Ticket} {history : History} (untouched : Untouched ticket history) :
    replies ticket history = [] := by
  simp only [replies, List.flatMap_eq_nil_iff, List.mem_filter]
  rintro move ⟨mem, works⟩
  exact sent_silent (untouched move mem works).silent

theorem untouched_concat {ticket : Ticket} {history : History} {move : Transition State Label}
    (untouched : Untouched ticket history) (inert : worksFor ticket move → Inert move) :
    Untouched ticket (history ++ [move]) := by
  intro other mem works
  rcases List.mem_append.mp mem with mem | mem
  · exact untouched other mem works
  · obtain rfl := List.mem_singleton.mp mem
    exact inert works

/-! ## Phases -/

/-- Where an admitted request stands after a run. -/
inductive Phase (message : ToRoom) (request : Admitted) (history : History) (state : State) : Prop where
  | waiting (stage : Stage) (only : work request.ticket state.pool = [(request, stage)])
      (initial : stage.initial = true) (serves : stage.serves message)
      (unstarted : state.core.registry.state request.ticket = some .kQueued ∨
        state.core.registry.state request.ticket = some .kCancelled)
      (held : state.core.registry.active[request.key]? = some request.ticket)
      (untouched : Untouched request.ticket history)
  | dropping (response : ToUser) (only : work request.ticket state.pool = [(request, .complete response)])
      (cancelled : state.core.registry.state request.ticket = some .kCancelled)
      (held : state.core.registry.active[request.key]? = some request.ticket)
      (untouched : Untouched request.ticket history)
  | dropped (done : work request.ticket state.pool = [])
      (cancelled : state.core.registry.state request.ticket = some .kCancelled)
      (untouched : Untouched request.ticket history)
  | working (stage : Stage) (next : slot request.ticket state.pool = [(request, stage)])
      (continues : stage.middle = true ∨ stage = .abort ∨ ∃ response, stage = .complete response)
      (serves : stage.serves message) (started : state.core.registry.state request.ticket = some .kStarted)
      (held : state.core.registry.active[request.key]? = some request.ticket)
      (silent : replies request.ticket history = [])
  | sending (response : ToUser) (next : slot request.ticket state.pool = [(request, .sendResponse response)])
      (answer : answers message response) (started : state.core.registry.state request.ticket = some .kStarted)
      (silent : replies request.ticket history = [])
  | answered (response : ToUser) (done : slot request.ticket state.pool = []) (answer : answers message response)
      (started : state.core.registry.state request.ticket = some .kStarted)
      (sent : replies request.ticket history = [⟨request.destination, request.resType, response⟩])

theorem slot_of_work {ticket : Ticket} {first second : Pool Thread Task}
    (same : (work ticket first).Perm (work ticket second)) : (slot ticket first).Perm (slot ticket second) :=
  same.filter _

/-- A step that does no work for the ticket leaves its phase, apart from a cancellation. -/
theorem phase_frame {message : ToRoom} {request : Admitted} {history : History} {state : State}
    {move : Transition State Label} (phase : Phase message request history state)
    (idle : worksFor request.ticket move = false)
    (same : (work request.ticket move.after.pool).Perm (work request.ticket state.pool))
    (unmoved : Unmoved request.ticket request.key state.core.registry move.after.core.registry) :
    Phase message request (history ++ [move]) move.after := by
  have untouched : Untouched request.ticket history → Untouched request.ticket (history ++ [move]) :=
    fun holds => untouched_concat holds (by simp [idle])
  have replied : replies request.ticket (history ++ [move]) = replies request.ticket history := by
    simp [replies_concat, idle]
  have slots := slot_of_work same
  have kept : ∀ {status}, status ≠ .kQueued → state.core.registry.state request.ticket = some status →
      move.after.core.registry.state request.ticket = some status := by
    intro status settled current
    rcases unmoved.state with same | ⟨queued, -⟩
    · rw [same, current]
    · rw [current] at queued
      exact absurd (Option.some.inj queued) settled
  cases phase with
  | waiting stage only initial serves unstarted held quiet =>
    rw [only, List.perm_singleton] at same
    refine .waiting stage same initial serves ?_ (unmoved.active held) (untouched quiet)
    rcases unmoved.state with unchanged | ⟨-, cancelled⟩
    · rwa [unchanged]
    · exact .inr cancelled
  | dropping response only cancelled held quiet =>
    rw [only, List.perm_singleton] at same
    exact .dropping response same (kept (by decide) cancelled) (unmoved.active held) (untouched quiet)
  | dropped done cancelled quiet =>
    rw [done, List.perm_nil] at same
    exact .dropped same (kept (by decide) cancelled) (untouched quiet)
  | working stage next continues serves started held silent =>
    rw [next, List.perm_singleton] at slots
    exact .working stage slots continues serves (kept (by decide) started) (unmoved.active held) (replied.trans silent)
  | sending response next answer started silent =>
    rw [next, List.perm_singleton] at slots
    exact .sending response slots answer (kept (by decide) started) (replied.trans silent)
  | answered response done answer started sent =>
    rw [done, List.perm_nil] at slots
    exact .answered response slots answer (kept (by decide) started) (replied.trans sent)

theorem answering_of_continues {stage : Stage}
    (continues : stage.middle = true ∨ stage = .abort ∨ ∃ response, stage = .complete response) :
    stage.answering = true := by
  rcases continues with middle | rfl | ⟨response, rfl⟩
  · cases stage <;> first | rfl | cases middle
  · rfl
  · rfl

section Own

variable {message : ToRoom} {request other : Admitted} {history : History} {state after : State} {thread : Thread}
  {choice : Choice} {stage : Stage} {rest : Pool Thread Task} {effect : Effect}

/-- An item of a started request is either the one in the slot or a call into the contents. -/
theorem slot_own (own : other.ticket = request.ticket) (ran : Ran choice state.core other stage effect)
    (was : (work request.ticket state.pool).Perm ((other, stage) :: work request.ticket rest))
    (now : (work request.ticket after.pool).Perm (added request.ticket effect ++ work request.ticket rest)) :
    (stage.answering = true ∧
      (slot request.ticket state.pool).Perm ((other, stage) :: slot request.ticket rest) ∧
      (slot request.ticket after.pool).Perm
        ((added request.ticket effect).filter (fun entry => entry.2.answering) ++ slot request.ticket rest)) ∨
    (stage.answering = false ∧ (slot request.ticket after.pool).Perm (slot request.ticket state.pool)) := by
  have before := was.filter fun entry : Admitted × Stage => entry.2.answering
  have later := now.filter fun entry : Admitted × Stage => entry.2.answering
  rw [List.filter_append] at later
  cases answering : stage.answering with
  | true =>
    rw [List.filter_cons_of_pos (by simpa using answering)] at before
    exact .inl ⟨rfl, before, later⟩
  | false =>
    rw [List.filter_cons_of_neg (by simpa using answering)] at before
    rw [← own, (ran_trailing ran answering).2.2, List.nil_append, own] at later
    exact .inr ⟨rfl, later.trans before.symm⟩

theorem slot_next {current : Stage} (own : other.ticket = request.ticket)
    (ran : Ran choice state.core other stage effect)
    (was : (work request.ticket state.pool).Perm ((other, stage) :: work request.ticket rest))
    (now : (work request.ticket after.pool).Perm (added request.ticket effect ++ work request.ticket rest))
    (only : slot request.ticket state.pool = [(request, current)]) :
    (other = request ∧ stage = current ∧ (slot request.ticket after.pool).Perm
      ((added request.ticket effect).filter fun entry => entry.2.answering)) ∨
    (stage.answering = false ∧ slot request.ticket after.pool = [(request, current)]) := by
  rcases slot_own own ran was now with ⟨-, before, later⟩ | ⟨trailing, same⟩
  · rw [only, List.singleton_perm, List.cons_eq_cons] at before
    obtain ⟨same, none⟩ := before
    cases same
    exact .inl ⟨rfl, rfl, by simpa [← none] using later⟩
  · rw [only, List.perm_singleton] at same
    exact .inr ⟨trailing, same⟩

/-- What one item of a request does to its phase, given the work before and after it. -/
theorem phase_own (phase : Phase message request history state) (own : other.ticket = request.ticket)
    (ran : Ran choice state.core other stage effect) (calm : stage ≠ .abort) (core : after.core = effect.core)
    (works : worksFor request.ticket ⟨state, .run thread choice, after⟩ = true)
    (was : (work request.ticket state.pool).Perm ((other, stage) :: work request.ticket rest))
    (now : (work request.ticket after.pool).Perm (added request.ticket effect ++ work request.ticket rest)) :
    Phase message request (history ++ [⟨state, .run thread choice, after⟩]) after := by
  -- While the request is unstarted or dropped it has a single item, so this is it.
  have single : ∀ {current}, work request.ticket state.pool = [(request, current)] → other = request ∧
      stage = current ∧ (work request.ticket after.pool).Perm (added request.ticket effect) := by
    intro current only
    rw [only, List.singleton_perm, List.cons_eq_cons] at was
    obtain ⟨same, none⟩ := was
    cases same
    exact ⟨rfl, rfl, by simpa [← none] using now⟩
  have replied : effect.core.outgoing = state.core.outgoing →
      replies request.ticket (history ++ [⟨state, .run thread choice, after⟩]) = replies request.ticket history := by
    intro silent
    rw [replies_concat, sent_silent (by rw [core, silent]), ite_self, List.append_nil]
  have untouched : Untouched request.ticket history → effect.core.manager = state.core.manager →
      effect.core.heap = state.core.heap → effect.core.outgoing = state.core.outgoing →
      Untouched request.ticket (history ++ [⟨state, .run thread choice, after⟩]) := by
    intro holds manager rooms silent
    exact untouched_concat holds fun _ => ⟨by rw [core, manager], by rw [core, rooms], by rw [core, silent]⟩
  cases phase with
  | waiting current only initial serves unstarted held quiet =>
    obtain ⟨rfl, rfl, later⟩ := single only
    obtain ⟨next, leaves, begun⟩ := ran_initial ran initial serves unstarted
    rw [leaves, List.perm_singleton] at later
    cases begun with
    | waits initial serves same =>
      refine .waiting next later initial serves ?_ ?_ (untouched quiet (by rw [same]) (by rw [same]) (by rw [same]))
      · rwa [core, same]
      · rwa [core, same]
    | dropped cancelled same completes =>
      obtain ⟨response, rfl⟩ := completes
      refine .dropping response later ?_ ?_ (untouched quiet (by rw [same]) (by rw [same]) (by rw [same]))
      · rwa [core, same]
      · rwa [core, same]
    | started queued registry silent serves continues =>
      refine .working next ?_ continues serves ?_ ?_ ((replied silent).trans (replies_untouched quiet))
      · simp [slot, later, answering_of_continues continues]
      · rw [core, registry, QueuedRequests.tryStart_state, if_pos ⟨rfl, queued⟩]
      · rwa [core, registry, QueuedRequests.tryStart_active]
  | dropping response only cancelled held quiet =>
    obtain ⟨rfl, rfl, later⟩ := single only
    obtain ⟨manager, rooms, silent, states, leaves⟩ := ran_complete ran held
    rw [leaves, if_neg (by rw [cancelled]; decide), List.perm_nil] at later
    refine .dropped later ?_ (untouched quiet manager rooms silent)
    rw [core, states, cancelled]
  | dropped done cancelled quiet =>
    rw [done] at was
    cases List.nil_perm.mp was
  | working current only continues serves started held silent =>
    rcases slot_next own ran was now only with ⟨rfl, rfl, later⟩ | ⟨trailing, same⟩
    · rcases continues with middle | rfl | ⟨response, rfl⟩
      · obtain ⟨registry, quiet, next, leaves, serves, continues⟩ := ran_middle ran middle serves
        rw [leaves, List.perm_singleton] at later
        refine .working next later (.inr continues) serves ?_ ?_ ((replied quiet).trans silent)
        · rwa [core, registry]
        · rwa [core, registry]
      · exact absurd rfl calm
      · obtain ⟨-, -, quiet, states, leaves⟩ := ran_complete ran held
        rw [leaves, if_pos started, List.filter_cons_of_pos (by rfl), List.filter_nil, List.perm_singleton] at later
        refine .sending response later serves ?_ ((replied quiet).trans silent)
        rw [core, states, started]
    · obtain ⟨registry, quiet, -⟩ := ran_trailing ran trailing
      refine .working current same continues serves ?_ ?_ ((replied quiet).trans silent)
      · rwa [core, registry]
      · rwa [core, registry]
  | sending response only answer started silent =>
    rcases slot_next own ran was now only with ⟨rfl, rfl, later⟩ | ⟨trailing, same⟩
    · cases ran with
      | sent =>
        refine .answered response (List.perm_nil.mp (by simpa [added, items] using later)) answer ?_ ?_
        · rwa [core]
        · rw [replies_concat, silent, if_pos works]
          simp [sent, core, Core.send]
    · obtain ⟨registry, quiet, -⟩ := ran_trailing ran trailing
      refine .sending response same answer ?_ ((replied quiet).trans silent)
      rwa [core, registry]
  | answered response done answer started sent =>
    rcases slot_own own ran was now with ⟨-, before, -⟩ | ⟨trailing, same⟩
    · rw [done] at before
      cases List.nil_perm.mp before
    · obtain ⟨registry, quiet, -⟩ := ran_trailing ran trailing
      rw [done, List.perm_nil] at same
      refine .answered response same answer ?_ ((replied quiet).trans sent)
      rwa [core, registry]

end Own

theorem phase_known {message : ToRoom} {request : Admitted} {history : History} {state : State}
    (phase : Phase message request history state) : request.ticket < state.core.registry.tickets.length := by
  have made : ∀ {status}, state.core.registry.state request.ticket = some status →
      request.ticket < state.core.registry.tickets.length := fun found => (List.getElem?_eq_some_iff.mp found).1
  cases phase with
  | waiting _ _ _ _ unstarted => exact unstarted.elim made made
  | dropping _ _ cancelled | dropped _ cancelled => exact made cancelled
  | working _ _ _ _ started | sending _ _ _ started | answered _ _ _ started => exact made started

theorem phase_step {message : ToRoom} {request : Admitted} {history : History} {state after : State} {label : Label}
    (phase : Phase message request history state) (moved : step state label = some after)
    (calm : worksFor request.ticket ⟨state, label, after⟩ → ¬ Rethrows ⟨state, label, after⟩) :
    Phase message request (history ++ [⟨state, label, after⟩]) after := by
  have external : (∀ thread choice, label ≠ .run thread choice) → worksFor request.ticket ⟨state, label, after⟩ = false →
      Phase message request (history ++ [⟨state, label, after⟩]) after := by
    intro external idle
    obtain ⟨registry, same⟩ := work_unran (stepped_of_step moved) external
    refine phase_frame phase idle (.of_eq (same request.ticket)) ?_
    rw [registry]
    exact .refl
  cases stepped_of_step moved with
  | @ran thread choice task before later effect split quiet executed =>
    have runs := executed_ran choice (ranState thread before later effect) split quiet
    have was : (work request.ticket (before ++ (thread, task) :: later)).Perm _ := work_split request.ticket
    have now : (work request.ticket (effect.next.map (Prod.mk thread) ++ (before ++ later) ++ effect.posts)).Perm _ :=
      work_ran request.ticket
    rw [← split] at was
    cases mine : task.workFor request.ticket with
    | none =>
      refine phase_frame phase (by rw [worksFor_executed runs, mine]; rfl) ?_
        (unmoved_of_executed executed mine (phase_known phase))
      rw [added_of_executed_other executed mine (Nat.ne_of_lt (phase_known phase)), List.nil_append] at now
      rw [mine] at was
      exact now.trans was.symm
    | some entry =>
      obtain ⟨other, stage, rfl, own⟩ := workFor_some mine
      cases executed with
      | staged ran =>
        have works : worksFor request.ticket ⟨state, .run thread choice, ranState thread before later effect⟩ = true := by
          rw [worksFor_executed runs, mine]
          rfl
        refine phase_own phase own ran ?_ rfl works (by simpa [Task.workFor, own] using was) now
        rintro rfl
        exact calm works (by rw [Rethrows, runs]; trivial)
  | delivered | called | stopped => exact external (by simp) rfl

/-! ## Admission -/

def Numbered (state : State) : Prop :=
  ∀ request stage, Waiting state (.handle request stage) → request.ticket < state.core.registry.tickets.length

theorem tickets_grow {choice : Choice} {core : Core} {task : Task} {effect : Effect}
    (executed : Executed choice core task effect) :
    core.registry.tickets.length ≤ effect.core.registry.tickets.length := by
  have finishing : ∀ request : Admitted,
      (core.registry.finish request.key request.ticket choice.now).1.tickets = core.registry.tickets := by
    intro request
    rcases core.registry.finish_cases request.key request.ticket choice.now with ⟨-, -, -, tickets⟩ | ⟨-, same⟩
    · exact tickets
    · rw [same]
  have admitting : ∀ key, core.registry.tickets.length ≤
      (core.registry.admitRequest key choice.now).1.tickets.length := by
    intro key
    rcases core.registry.admitRequest_cases key choice.now with ⟨-, -, tickets⟩ | ⟨-, -, -, tickets⟩ <;> simp [tickets]
  have starting : ∀ request : Admitted,
      core.registry.tickets.length ≤ (core.start request).1.registry.tickets.length :=
    fun request => Nat.le_of_eq (core.registry.tryStart_length request.ticket).symm
  cases executed with
  | received received =>
    cases received with
    | cancelled => exact Nat.le_of_eq (core.registry.cancel_length _ _).symm
    | refused | admitted => exact admitting _
    | ping | forwardUnindexed | forwardIndexed => exact Nat.le_refl _
  | @staged request stage _ ran =>
    cases ran with
    | createStopping | created | joinUnknown | joinClosed | joinEntered | leaveUnindexed | leaveUnknown
    | leaveRefused | leaveExited => exact starting request
    | createNotified found called | enterNotified called | exitNotified called =>
      exact Nat.le_of_eq (by rw [(callback_frame called).1])
    | completed => exact Nat.le_of_eq (by rw [← finishing request]; rfl)
    | aborted => exact Nat.le_of_eq (by rw [← finishing request])
    | createLate | contentsThrown | contentsCreated | joinFound | joinLate | joined | leaveIndexed | leaveFound
    | leaveLate | left | emptied | emptyStale | closed | sent => exact Nat.le_refl _
  | forwarded called => exact Nat.le_of_eq (by rw [(callback_frame called).1])
  | forwardStale | forwardFound | broadcast | kickAbsent | kickPresent | kicked | notified | closed =>
    exact Nat.le_refl _

/-- The items an effect leaves have the ticket of the item that ran, or the one just made. -/
theorem items_numbered {choice : Choice} {core : Core} {task : Task} {effect : Effect} {request : Admitted}
    {stage : Stage} (executed : Executed choice core task effect) (mem : .handle request stage ∈ items effect) :
    (∃ before, task = .handle request before) ∨ request.ticket < effect.core.registry.tickets.length := by
  cases executed with
  | received received =>
    cases received with
    | @admitted message requestId resType first ticket known admitted =>
      right
      simp only [items, List.map_nil, List.append_nil, List.mem_singleton, Task.handle.injEq] at mem
      obtain ⟨rfl, -⟩ := mem
      rcases core.registry.admitRequest_cases (core.currentRoute, requestId) choice.now with
        ⟨refused, -⟩ | ⟨fresh, -, -, tickets⟩
      · rw [refused] at admitted
        cases admitted
      · obtain rfl := Option.some.inj (admitted.symm.trans fresh)
        simp [tickets]
    | ping | forwardUnindexed | forwardIndexed | cancelled | refused => simp [items] at mem
  | @staged other before _ ran =>
    obtain ⟨next, same⟩ := items_of_ran ran _ mem
    cases same
    exact .inl ⟨before, rfl⟩
  | broadcast =>
    simp only [items, List.map_nil, List.append_nil, List.mem_map] at mem
    obtain ⟨user, -, same⟩ := mem
    cases same
  | forwardStale | forwardFound | forwarded | kickAbsent | kickPresent | kicked | notified | closed =>
    simp [items] at mem

theorem numbered_step {state after : State} {label : Label} (numbered : Numbered state)
    (moved : step state label = some after) :
    Numbered after ∧ state.core.registry.tickets.length ≤ after.core.registry.tickets.length := by
  have external : (∀ thread choice, label ≠ .run thread choice) →
      Numbered after ∧ state.core.registry.tickets.length ≤ after.core.registry.tickets.length := by
    intro external
    obtain ⟨registry, same⟩ := work_unran (stepped_of_step moved) external
    refine ⟨?_, Nat.le_of_eq (by rw [registry])⟩
    intro request stage waits
    have mem := mem_work.mpr ⟨waits, rfl⟩
    rw [same] at mem
    rw [registry]
    exact numbered request stage (mem_work.mp mem).1
  cases stepped_of_step moved with
  | @ran thread choice task before later effect split quiet executed =>
    refine ⟨?_, tickets_grow executed⟩
    intro request stage waits
    rcases (waiting_ran _).mp waits with mem | mem
    · rcases items_numbered executed mem with ⟨previous, rfl⟩ | made
      · exact Nat.lt_of_lt_of_le (numbered request previous ((waiting_split split _).mpr (.inl rfl)))
          (tickets_grow executed)
      · exact made
    · exact Nat.lt_of_lt_of_le (numbered request stage ((waiting_split split _).mpr (.inr mem))) (tickets_grow executed)
  | delivered | called | stopped => exact external (by simp)

theorem numbered_reached {history : History} {state : State} (run : Reaches history state) : Numbered state :=
  run.invariant (fun _ _ waits => by simp [Waiting, initial] at waits)
    (fun _ _ _ numbered moved => (numbered_step numbered moved).1)

def admits (move : Transition State Label) : Option (ToRoom × Admitted) :=
  match executed move with
  | some (choice, .onRecv message) =>
      (requestOf message).bind fun (requestId, resType, _) =>
        let destination := move.before.core.currentRoute
        (move.before.core.registry.admitRequest (destination, requestId) choice.now).2.map fun ticket =>
          (message, { destination, requestId, resType, ticket })
  | _ => none

def lastDelivery (history : History) : Option (RoutingId × ToRoom) :=
  (history.filterMap fun move =>
    match move.label with
    | .deliver source message => some (source, message)
    | _ => none).getLast?

theorem requestOf_serves {message : ToRoom} {requestId : Nat} {resType : MessageType} {first : Stage}
    (known : requestOf message = some (requestId, resType, first)) :
    first.initial = true ∧ first.serves message := by
  cases message <;> cases known <;> exact ⟨rfl, rfl⟩

theorem admits_eq {move : Transition State Label} {message : ToRoom} {request : Admitted}
    (admitted : admits move = some (message, request)) :
    ∃ choice first, executed move = some (choice, .onRecv message) ∧
      requestOf message = some (request.requestId, request.resType, first) ∧
      request.destination = move.before.core.currentRoute ∧
      (move.before.core.registry.admitRequest request.key choice.now).2 = some request.ticket := by
  unfold admits at admitted
  split at admitted
  · next choice received runs =>
    simp only [Option.bind_eq_some_iff, Option.map_eq_some_iff, Prod.mk.injEq, Prod.exists] at admitted
    obtain ⟨requestId, resType, first, known, ticket, granted, rfl, rfl⟩ := admitted
    exact ⟨choice, first, runs, known, rfl, granted⟩
  · cases admitted

theorem admitRequest_granted {registry : QueuedRequests} {key : RequestKey} {now : Nat} {ticket : Ticket}
    (granted : (registry.admitRequest key now).2 = some ticket) :
    ticket = registry.tickets.length ∧ (registry.admitRequest key now).1.active[key]? = some ticket ∧
      (registry.admitRequest key now).1.state ticket = some .kQueued := by
  rcases registry.admitRequest_cases key now with ⟨refused, -⟩ | ⟨fresh, -, active, tickets⟩
  · rw [refused] at granted
    cases granted
  · obtain rfl := Option.some.inj (granted.symm.trans fresh)
    refine ⟨rfl, by rw [active, Std.ExtTreeMap.getElem?_insert_self], ?_⟩
    rw [QueuedRequests.state, tickets, List.getElem?_concat_length]

/-- An admitted request starts out with the first item of its handler, under a ticket no earlier item had. -/
theorem work_of_admits {state after : State} {label : Label} {message : ToRoom} {request : Admitted}
    (numbered : Numbered state) (moved : step state label = some after)
    (admitted : admits ⟨state, label, after⟩ = some (message, request)) :
    ∃ first, requestOf message = some (request.requestId, request.resType, first) ∧
      work request.ticket after.pool = [(request, first)] ∧
      after.core.registry.state request.ticket = some .kQueued ∧
      after.core.registry.active[request.key]? = some request.ticket := by
  obtain ⟨choice, first, runs, known, arrived, granted⟩ := admits_eq admitted
  obtain ⟨destination, requestId, resType, ticket⟩ := request
  obtain rfl : destination = state.core.currentRoute := arrived
  obtain ⟨thread, before, later, effect, rfl, split, quiet, executed, rfl⟩ := executed_split runs moved
  obtain ⟨fresh, held, queued⟩ := admitRequest_granted granted
  have unseen : work ticket (before ++ later) = [] := by
    rw [List.eq_nil_iff_forall_not_mem]
    rintro ⟨other, stage⟩ mem
    obtain ⟨waits, same⟩ := mem_work.mp mem
    have made := numbered other stage ((waiting_split split _).mpr (.inr waits))
    exact Nat.ne_of_lt made (same.trans fresh)
  have now : (work ticket (effect.next.map (Prod.mk thread) ++ (before ++ later) ++ effect.posts)).Perm _ :=
    work_ran ticket
  rw [unseen, List.append_nil] at now
  cases executed with
  | received received =>
    cases received with
    | admitted same again =>
      cases known.symm.trans same
      cases granted.symm.trans again
      exact ⟨first, known, by simpa [added, items, Task.workFor] using now, queued, held⟩
    | refused same refused =>
      cases known.symm.trans same
      cases granted.symm.trans refused
    | ping | forwardUnindexed | forwardIndexed | cancelled => cases known

theorem phase_start {state after : State} {label : Label} {message : ToRoom} {request : Admitted}
    (numbered : Numbered state) (moved : step state label = some after)
    (admitted : admits ⟨state, label, after⟩ = some (message, request)) : Phase message request [] after := by
  obtain ⟨first, known, only, queued, held⟩ := work_of_admits numbered moved admitted
  obtain ⟨initial, serves⟩ := requestOf_serves known
  exact .waiting first only initial serves (.inl queued) held (by simp [Untouched])

/-! ## Arrival -/

theorem route_of_executed {choice : Choice} {core : Core} {task : Task} {effect : Effect}
    (executed : Executed choice core task effect) :
    effect.core.currentRoute = core.currentRoute ∧ ∀ message, .onRecv message ∉ items effect := by
  have called : ∀ {ptr call after}, core.callback ptr call = some after → after.currentRoute = core.currentRoute := by
    intro ptr call after called
    simp only [Core.callback, Option.bind_eq_bind, Option.pure_def, Option.bind_eq_some_iff, Option.some.injEq] at called
    obtain ⟨room, -, called, -, rfl⟩ := called
    rfl
  cases executed with
  | received received =>
    cases received with
    | ping | forwardUnindexed | forwardIndexed | cancelled | refused | admitted => exact ⟨rfl, by simp [items]⟩
  | @staged request stage _ ran =>
    refine ⟨?_, ?_⟩
    · cases ran with
      | createNotified found invoked | enterNotified invoked | exitNotified invoked => exact called invoked
      | createLate | createStopping | created | contentsThrown | contentsCreated | joinUnknown | joinFound | joinLate
      | joinClosed | joinEntered | joined | leaveUnindexed | leaveIndexed | leaveUnknown | leaveFound | leaveLate
      | leaveRefused | leaveExited | left | emptied | emptyStale | closed | completed | sent | aborted => rfl
    · intro message mem
      obtain ⟨next, same⟩ := items_of_ran ran _ mem
      cases same
  | forwarded invoked => exact ⟨called invoked, by simp [items]⟩
  | broadcast => exact ⟨rfl, by simp [items, fwdClient]⟩
  | forwardStale | forwardFound | kickAbsent | kickPresent | kicked | notified | closed => exact ⟨rfl, by simp [items]⟩

def Arrived (history : History) (state : State) : Prop :=
  ∀ entry ∈ state.pool, ∀ message, entry.2 = .onRecv message →
    entry.1 = .router ∧ lastDelivery history = some (state.core.currentRoute, message)

theorem arrived_step {past : History} {state after : State} {label : Label} (arrived : Arrived past state)
    (moved : step state label = some after) : Arrived (past ++ [⟨state, label, after⟩]) after := by
  have silent : (∀ source message, label ≠ .deliver source message) →
      lastDelivery (past ++ [⟨state, label, after⟩]) = lastDelivery past := by
    intro other
    cases label with
    | deliver source message => exact absurd rfl (other source message)
    | run | api | shutdown => simp [lastDelivery]
  cases stepped_of_step moved with
  -- the receiving thread is idle, so this is the only message it has
  | @delivered source message quiet =>
    intro entry mem received same
    rcases List.mem_append.mp mem with mem | mem
    · exact absurd (arrived entry mem received same).1 (quiet entry mem)
    · obtain rfl := List.mem_singleton.mp mem
      cases same
      exact ⟨rfl, by simp [lastDelivery]⟩
  | @ran thread choice task before later effect split quiet executed =>
    obtain ⟨route, none⟩ := route_of_executed executed
    intro entry mem received same
    rw [silent (by simp), route]
    simp only [List.mem_append, List.mem_map] at mem
    rcases mem with (⟨item, mem, rfl⟩ | mem) | mem
    · cases same
      exact absurd (List.mem_append_left _ mem) (none received)
    · exact arrived entry (mem_of_rest split (List.mem_append.mpr mem)) received same
    · exact absurd (List.mem_append_right _ (same ▸ List.mem_map_of_mem mem)) (none received)
  | @called ptr call room found contents =>
    intro entry mem received same
    rw [silent (by simp)]
    simp only [List.mem_append, List.mem_map, Option.mem_toList] at mem
    rcases mem with mem | ⟨task, posted, rfl⟩
    · exact arrived entry mem received same
    · cases call with
      | sendToUser uids message =>
        obtain ⟨users, -, rfl⟩ := Option.map_eq_some_iff.mp posted
        cases same
      | kickOutUser uid reason =>
        cases posted
        cases same
  | stopped running =>
    intro entry mem received same
    rw [silent (by simp)]
    rcases shutdown_posts mem with mem | ⟨ptr, room, -, rfl⟩
    · exact arrived entry mem received same
    · cases same

theorem arrived_reached {history : History} {state : State} (run : Reaches history state) : Arrived history state :=
  run.history Arrived (by simp [Arrived, initial]) fun _ _ _ arrived moved _ => arrived_step arrived moved

/-! ## The outcome -/

/-- A request has ended in one of two ways. -/
inductive Ended (message : ToRoom) (request : Admitted) (history : History) (state : State) : Prop where
  | dropped (cancelled : state.core.registry.state request.ticket = some .kCancelled)
      (untouched : Untouched request.ticket history)
  | answered (response : ToUser) (started : state.core.registry.state request.ticket = some .kStarted)
      (answer : answers message response)
      (sent : replies request.ticket history = [⟨request.destination, request.resType, response⟩])

def Refuses (move : Transition State Label) : Prop :=
  ∃ choice message, executed move = some (choice, .onRecv message) ∧ (requestOf message).isSome ∧ admits move = none

def Cancels (move : Transition State Label) : Prop :=
  ∃ choice notification, executed move = some (choice, .onRecv (.cancelRequest notification))

structure Ignored (move : Transition State Label) : Prop extends Inert move where
  tickets : move.after.core.registry.tickets = move.before.core.registry.tickets
  active : move.after.core.registry.active = move.before.core.registry.active
  pool : ∀ entry ∈ move.after.pool, entry ∈ move.before.pool

theorem ended_of_phase {message : ToRoom} {request : Admitted} {history : History} {state : State}
    (phase : Phase message request history state) (done : slot request.ticket state.pool = []) :
    Ended message request history state := by
  have busy : ∀ {stage}, work request.ticket state.pool = [(request, stage)] → stage.answering = true → False := by
    intro stage only answering
    simp [slot, only, answering] at done
  cases phase with
  | waiting stage only initial => exact (busy only (by cases stage <;> first | rfl | cases initial)).elim
  | dropping response only => exact (busy only rfl).elim
  | dropped _ cancelled untouched => exact .dropped cancelled untouched
  | working stage next | sending response next => cases next.symm.trans done
  | answered response _ answer started sent => exact .answered response started answer sent

theorem idle_before {past : History} {state : State} (run : Reaches past state) {ticket : Ticket}
    (fresh : state.core.registry.tickets.length ≤ ticket) : ∀ move ∈ past, worksFor ticket move = false := by
  refine (run.history (fun past state => state.core.registry.tickets.length ≤ ticket →
    ∀ move ∈ past, worksFor ticket move = false) (by simp) ?_) fresh
  rintro past ⟨state, label, after⟩ reached idle moved - fresh move mem
  have numbered := numbered_reached reached
  have earlier := Nat.le_trans (numbered_step numbered moved).2 fresh
  rcases List.mem_append.mp mem with mem | mem
  · exact idle earlier move mem
  obtain rfl := List.mem_singleton.mp mem
  cases runs : executed ⟨state, label, after⟩ with
  | none => rw [worksFor, runs]
  | some found =>
    obtain ⟨choice, task⟩ := found
    obtain ⟨thread, before, later, effect, rfl, split, -⟩ := executed_split runs moved
    rw [worksFor_executed runs, Option.isSome_eq_false_iff, Option.isNone_iff_eq_none]
    by_contra works
    obtain ⟨entry, mine⟩ := Option.ne_none_iff_exists'.mp works
    obtain ⟨request, stage, rfl, rfl⟩ := workFor_some mine
    exact Nat.not_lt.mpr earlier (numbered request stage ((waiting_split split _).mpr (.inl rfl)))

theorem phase_later {message : ToRoom} {request : Admitted} {start state : State} {later : History}
    (run : Run step start later state) (phase : Phase message request [] start)
    (calm : ∀ move ∈ later, worksFor request.ticket move → ¬ Rethrows move) : Phase message request later state :=
  run.history (Phase message request) phase fun _ move _ holds moved mem => phase_step holds moved (calm move mem)

theorem ended_extend {message : ToRoom} {request : Admitted} {past later : History} {state : State}
    (ended : Ended message request later state) (idle : ∀ move ∈ past, worksFor request.ticket move = false) :
    Ended message request (past ++ later) state := by
  cases ended with
  | dropped cancelled untouched =>
    refine .dropped cancelled ?_
    intro move mem works
    rcases List.mem_append.mp mem with mem | mem
    · rw [idle move mem] at works
      cases works
    · exact untouched move mem works
  | answered response started answer sent =>
    refine .answered response started answer ?_
    have none : past.filter (worksFor request.ticket) = [] := by
      rw [List.filter_eq_nil_iff]
      intro move mem works
      rw [idle move mem] at works
      cases works
    rw [replies, List.filter_append, none, List.nil_append]
    exact sent

theorem worksFor_received {move : Transition State Label} {choice : Choice} {message : ToRoom} (ticket : Ticket)
    (runs : executed move = some (choice, .onRecv message)) : worksFor ticket move = false := by
  rw [worksFor_executed runs]
  rfl

theorem ignored_of_refuses {state after : State} {label : Label} (moved : step state label = some after)
    (refuses : Refuses ⟨state, label, after⟩) : Ignored ⟨state, label, after⟩ := by
  obtain ⟨choice, message, runs, isRequest, refused⟩ := refuses
  obtain ⟨⟨requestId, resType, first⟩, known⟩ := Option.isSome_iff_exists.mp isRequest
  have declined : (state.core.registry.admitRequest (state.core.currentRoute, requestId) choice.now).2 = none := by
    rw [admits, runs] at refused
    simpa [known] using refused
  obtain ⟨thread, before, later, effect, rfl, split, quiet, executed, rfl⟩ := executed_split runs moved
  rcases state.core.registry.admitRequest_cases (state.core.currentRoute, requestId) choice.now with
    ⟨-, active, tickets⟩ | ⟨granted, -⟩
  · cases executed with
    | received received =>
      cases received with
      | refused same =>
        cases known.symm.trans same
        refine { manager := rfl, rooms := rfl, silent := rfl, tickets, active, pool := ?_ }
        simp only [split, List.map_nil, List.nil_append, List.append_nil]
        exact fun entry mem => List.mem_append.mpr ((List.mem_append.mp mem).imp_right (List.mem_cons_of_mem _))
      | admitted same granted =>
        cases known.symm.trans same
        cases declined.symm.trans granted
      | ping | forwardUnindexed | forwardIndexed | cancelled => cases known
  · cases declined.symm.trans granted

theorem cancel_after_start {state after : State} {label : Label} (moved : step state label = some after)
    (cancels : Cancels ⟨state, label, after⟩) {ticket : Ticket}
    (started : state.core.registry.state ticket = some .kStarted) :
    Inert ⟨state, label, after⟩ ∧ after.core.registry.state ticket = some .kStarted ∧
      after.core.registry.active = state.core.registry.active ∧
      work ticket after.pool = work ticket state.pool := by
  obtain ⟨choice, notification, runs⟩ := cancels
  obtain ⟨thread, before, later, effect, rfl, split, quiet, executed, rfl⟩ := executed_split runs moved
  cases executed with
  | received received =>
    cases received with
    | cancelled =>
      refine ⟨⟨rfl, rfl, rfl⟩, ?_, QueuedRequests.cancel_active .., ?_⟩
      · rw [QueuedRequests.cancel_state, started]
        simp
      · simp [work, split, Task.workFor]
    | refused known | admitted known => cases known

/-- Every request admitted ends in one of two ways once its handler and its strand task have run: its
ticket was cancelled unstarted and nothing happened for it, or it was started and answered once, with
its own id and the paired type, on the route it arrived from. -/
theorem request_outcome {history : History} {state : State} (run : Reaches history state) :
    (∀ past move later message request, history = past ++ move :: later → admits move = some (message, request) →
      lastDelivery past = some (request.destination, message) ∧
      (∃ first, requestOf message = some (request.requestId, request.resType, first)) ∧
      ((∀ other ∈ later, worksFor request.ticket other → ¬ Rethrows other) → slot request.ticket state.pool = [] →
        Ended message request history state)) ∧
    (∀ move ∈ history, ∀ ticket, Cancels move → move.before.core.registry.state ticket = some .kStarted →
      Inert move ∧ move.after.core.registry.state ticket = some .kStarted ∧
      move.after.core.registry.active = move.before.core.registry.active ∧
      work ticket move.after.pool = work ticket move.before.pool) ∧
    (∀ move ∈ history, Refuses move → Ignored move) := by
  refine ⟨?_, fun move mem ticket cancels started => cancel_after_start (run.member mem) cancels started,
    fun move mem refuses => ignored_of_refuses (run.member mem) refuses⟩
  intro past move later message request cut admitted
  obtain ⟨reached, moved, onwards⟩ := run.split cut
  obtain ⟨choice, first, runs, known, destination, granted⟩ := admits_eq admitted
  obtain ⟨thread, before, rest, effect, -, split, -⟩ := executed_split runs moved
  have arrived := arrived_reached reached (thread, .onRecv message) (by simp [split]) message rfl
  refine ⟨by rw [arrived.2, destination], ⟨first, known⟩, ?_⟩
  intro calm done
  have phase := phase_later onwards (phase_start (numbered_reached reached) moved admitted) calm
  rw [cut, List.append_cons]
  refine ended_extend (ended_of_phase phase done) ?_
  intro other mem
  rcases List.mem_append.mp mem with mem | mem
  · exact idle_before reached (Nat.le_of_eq (admitRequest_granted granted).1.symm) other mem
  · obtain rfl := List.mem_singleton.mp mem
    exact worksFor_received _ runs

def createCancelJoin : List Label :=
  handled "user" (.reqCreateRoom { requestId := 1, uid := "alice" }) 10000 5 ++ [.run (.strand 0) {}] ++
  handled "user" (.reqJoinRoom { requestId := 2, uid := "bob", roomId := 10000 }) 10000 2 ++
  handled "user" (.cancelRequest { requestId := 2 }) 10000 1 ++ List.replicate 2 (.run (.strand 0) {})

theorem request_outcome_cancelled_join :
    ∃ history state, Reaches history state ∧
      Ended (.reqCreateRoom { requestId := 1, uid := "alice" }) ⟨"user", 1, .kUser2RoomResCreateRoom, 0⟩ history state ∧
      Ended (.reqJoinRoom { requestId := 2, uid := "bob", roomId := 10000 }) ⟨"user", 2, .kUser2RoomResJoinRoom, 1⟩
        history state := by
  have run : Reaches _ (final step initial createCancelJoin) := run_of_enabled (by decide +kernel)
  have cut := fun index bound => (List.take_append_drop index _).symm.trans
    (congrArg _ (List.drop_eq_getElem_cons (l := transitions step initial createCancelJoin) (i := index) bound))
  refine ⟨_, _, run, ?_, ?_⟩
  · exact ((request_outcome run).1 _ _ _ _ _ (cut 1 (by decide +kernel)) (by decide +kernel)).2.2
      (by decide +kernel) (by decide +kernel)
  · exact ((request_outcome run).1 _ _ _ _ _ (cut 8 (by decide +kernel)) (by decide +kernel)).2.2
      (by decide +kernel) (by decide +kernel)

end Rsp.RoomServer
