import Rsp.RoomServer.Outcome

/-! The places that requests take up in `queued_requests`.

The registry admits no more than its capacity, so an entry that nobody finishes would be lost to the
server. The item that has to finish an entry is passed on from stage to stage, also when a handler throws.
-/

set_option autoImplicit false

namespace Rsp.RoomServer

open Message Foundation

/-- Whether the entry of the request is still to be finished. -/
def Stage.holding (stage : Stage) : Bool :=
  match stage with
  | .sendResponse _ => false
  | other => other.answering

def Held (among : Task → Prop) (key : RequestKey) (ticket : Ticket) : Prop :=
  ∃ request stage, among (.handle request stage) ∧ stage.holding = true ∧ request.key = key ∧ request.ticket = ticket

def Attended (state : State) : Prop :=
  ∀ key ticket, state.core.registry.active[key]? = some ticket → Held (Waiting state) key ticket

section Attended

variable {choice : Choice} {core : Core} {request : Admitted} {stage : Stage} {effect : Effect} {key : RequestKey}
  {ticket : Ticket}

theorem initial_holding (initial : stage.initial = true) : stage.holding = true := by
  cases stage with
  | createRoom | findJoin | joinRoom | findLeave | findLeaveRoom | leaveRoom => rfl
  | _ => cases initial

theorem finish_active {registry : QueuedRequests} {id : RequestKey} {finished : Ticket} {now : Nat}
    (active : (registry.finish id finished now).1.active[key]? = some ticket) :
    registry.active[key]? = some ticket ∧ ¬ (id = key ∧ finished = ticket) := by
  rcases registry.finish_cases id finished now with ⟨-, -, table, -⟩ | ⟨other, same⟩
  · rw [table, Std.ExtTreeMap.getElem?_erase] at active
    split at active
    · cases active
    · next apart => exact ⟨active, fun same => apart (by simp [same.1])⟩
  · rw [same] at active
    refine ⟨active, ?_⟩
    rintro ⟨rfl, rfl⟩
    exact other active

/-- A stage that holds the entry of its request passes it on as long as the entry is active. -/
theorem ran_active (ran : Ran choice core request stage effect)
    (active : effect.core.registry.active[key]? = some ticket) :
    core.registry.active[key]? = some ticket ∧
      (stage.holding = true → request.key = key → request.ticket = ticket →
        ∃ next, .handle request next ∈ items effect ∧ next.holding = true) := by
  cases ran with
  | completed | aborted =>
    -- both ends of `handle_request` finish the entry, so it is not this one that is still active
    obtain ⟨was, other⟩ := finish_active active
    exact ⟨was, fun _ sameKey same => absurd ⟨sameKey, same⟩ other⟩
  | createNotified _ called | enterNotified called | exitNotified called =>
    exact ⟨(callback_frame called).1 ▸ active, fun holding => Bool.noConfusion holding⟩
  | emptied | emptyStale | closed | sent => exact ⟨active, fun holding => Bool.noConfusion holding⟩
  | _ =>
    refine ⟨?_, fun _ _ _ => ⟨_, List.mem_cons_self, rfl⟩⟩
    simpa [Core.start, Core.setRoom, leaveUnknown] using active

/-- An entry is active because it was, or because the item that admits its request has just run. -/
theorem executed_active {task : Task} (executed : Executed choice core task effect)
    (active : effect.core.registry.active[key]? = some ticket) :
    core.registry.active[key]? = some ticket ∨ Held (· ∈ items effect) key ticket := by
  cases executed with
  | received received =>
    cases received with
    | @admitted message requestId resType first issued known admitted =>
      -- the new entry is held by the first stage, and the table is otherwise as it was
      rcases core.registry.admitRequest_cases (core.currentRoute, requestId) choice.now with
        ⟨refused, -, -⟩ | ⟨granted, -, table, -⟩
      · cases refused.symm.trans admitted
      · rw [table, Std.ExtTreeMap.getElem?_insert] at active
        split at active
        · next same =>
          obtain rfl := Std.LawfulEqCmp.compare_eq_iff_eq.mp same
          have number : issued = ticket := Option.some.inj ((admitted.symm.trans granted).trans active)
          exact .inr ⟨_, first, List.mem_cons_self, initial_holding (requestOf_serves known).1, rfl, number⟩
        · exact .inl active
    | @refused message requestId resType first known refused =>
      rcases core.registry.admitRequest_cases (core.currentRoute, requestId) choice.now with
        ⟨-, table, -⟩ | ⟨granted, -, -, -⟩
      · exact .inl (table ▸ active)
      · cases refused.symm.trans granted
    | cancelled => exact .inl (by simpa using active)
    | _ => exact .inl active
  | staged ran => exact .inl (ran_active ran active).1
  | forwarded called => exact .inl ((callback_frame called).1 ▸ active)
  | _ => exact .inl active

theorem attended_step {state after : State} {label : Label} (attended : Attended state)
    (moved : step state label = some after) : Attended after := by
  intro key ticket active
  cases stepped_of_step moved with
  | delivered | called | stopped =>
    obtain ⟨request, stage, ⟨thread, waits⟩, rest⟩ := attended key ticket active
    exact ⟨request, stage, ⟨thread, List.mem_append_left _ waits⟩, rest⟩
  | ran split quiet executed =>
    rcases executed_active executed active with was | ⟨request, stage, mem, rest⟩
    · obtain ⟨request, stage, waits, holding, rfl, rfl⟩ := attended key ticket was
      rcases (waiting_split split _).mp waits with rfl | kept
      · -- the item that held the entry has run
        cases executed with
        | staged ran =>
          obtain ⟨next, mem, holding⟩ := (ran_active ran active).2 holding rfl rfl
          exact ⟨request, next, (waiting_ran _).mpr (.inl mem), holding, rfl, rfl⟩
      · exact ⟨request, stage, (waiting_ran _).mpr (.inr kept), holding, rfl, rfl⟩
    · exact ⟨request, stage, (waiting_ran _).mpr (.inl mem), rest⟩

end Attended

/-- No entry outlives the work on its request: as long as it is active an item of the request waits, and
once no such item waits the registry has all its places free. -/
theorem places_are_given_back {history : History} {state : State} (reached : Reaches history state) :
    Attended state ∧
      ((∀ request stage, ¬ Waiting state (.handle request stage)) → state.core.registry.active = ∅) := by
  have attended : Attended state := reached.invariant (by simp [Attended, initial]) fun _ _ _ => attended_step
  refine ⟨attended, fun quiet => Std.ExtTreeMap.eq_empty_iff_forall_not_mem.mpr fun key mem => ?_⟩
  obtain ⟨request, stage, waits, -⟩ := attended key _ (Std.ExtTreeMap.getElem?_eq_some_getElem mem)
  exact quiet request stage waits

def workedOff : List Label :=
  handled "user" (.reqCreateRoom { requestId := 1, uid := "alice" }) 10000 5 ++ [.run (.strand 0) {}]

theorem places_are_given_back_create : (final step initial workedOff).core.registry.active = ∅ := by
  have run : (execute step initial workedOff).isSome := by decide +kernel
  have rests : (final step initial workedOff).pool = [] := by decide +kernel
  apply (places_are_given_back (run_of_enabled run)).2
  intro request stage waits
  simp [Waiting, rests] at waits

end Rsp.RoomServer
