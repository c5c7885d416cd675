import Mathlib.Data.List.Basic
import Mathlib.Data.List.Infix
import Mathlib.Data.List.ReduceOption

/-! A queue that writes one item at a time and drains when it is asked to stop.

Items and requests to stop are posted and run in the order of the posts. An item that runs
joins the queue, whose head is being written; the completion of a write runs later than the
write itself completes. Once a request to stop has run nothing joins the queue any more,
and the shutdown follows its last item.
-/

set_option autoImplicit false

namespace Rsp.Foundation

variable {Item : Type}

def beforeStop : List (Option Item) → List Item
  | [] => []
  | none :: _ => []
  | some item :: rest => item :: beforeStop rest

theorem beforeStop_requested {posts : List (Option Item)} (requested : none ∈ posts) (more : List (Option Item)) :
    beforeStop (posts ++ more) = beforeStop posts := by
  induction posts with
  | nil => cases requested
  | cons entry rest ih =>
    cases entry with
    | none => rfl
    | some item => simpa [beforeStop] using ih (by simpa using requested)

theorem beforeStop_unrequested {posts : List (Option Item)} (unrequested : none ∉ posts) (more : List (Option Item)) :
    beforeStop (posts ++ more) = beforeStop posts ++ beforeStop more := by
  induction posts with
  | nil => rfl
  | cons entry rest ih =>
    cases entry with
    | none => simp at unrequested
    | some item => simpa [beforeStop] using ih (by simpa using unrequested)

theorem beforeStop_eq_reduceOption {posts : List (Option Item)} (unrequested : none ∉ posts) :
    beforeStop posts = posts.reduceOption := by
  induction posts with
  | nil => rfl
  | cons entry rest ih =>
    cases entry with
    | none => simp at unrequested
    | some item => simpa [beforeStop, List.reduceOption_cons_of_some] using ih (by simpa using unrequested)

theorem beforeStop_sublist (posts : List (Option Item)) : (beforeStop posts).Sublist posts.reduceOption := by
  induction posts with
  | nil => exact List.Sublist.refl _
  | cons entry rest ih =>
    cases entry with
    | none => exact List.nil_sublist _
    | some item => simpa [beforeStop, List.reduceOption_cons_of_some] using ih

theorem beforeStop_cut (ahead behind : List (Option Item)) : beforeStop (ahead ++ none :: behind) = beforeStop ahead := by
  induction ahead with
  | nil => rfl
  | cons entry rest ih =>
    cases entry with
    | none => rfl
    | some item => simpa [beforeStop] using ih

theorem beforeStop_append {posts waiting : List (Option Item)} (entry : Option Item)
    (request : none ∈ posts ↔ none ∈ waiting) :
    ∃ more, beforeStop (posts ++ [entry]) = beforeStop posts ++ more ∧
      beforeStop (waiting ++ [entry]) = beforeStop waiting ++ more := by
  by_cases requested : none ∈ posts
  · refine ⟨[], ?_, ?_⟩
    · rw [beforeStop_requested requested, List.append_nil]
    · rw [beforeStop_requested (request.mp requested), List.append_nil]
  · have unrequested : none ∉ waiting := fun mem => requested (request.mpr mem)
    exact ⟨_, beforeStop_unrequested requested [entry], beforeStop_unrequested unrequested [entry]⟩

theorem beforeStop_grows (posts : List (Option Item)) (entry : Option Item) :
    ∃ more, beforeStop (posts ++ [entry]) = beforeStop posts ++ more := by
  obtain ⟨more, grown, -⟩ := beforeStop_append entry (Iff.refl (none ∈ posts))
  exact ⟨more, grown⟩

/-- `waiting` lists the posts that have not run, `flying` the writes that have not
completed and `finished` the completions that have not run. -/
structure Outbox (Item : Type) where
  posted : List (Option Item)
  waiting : List (Option Item)
  queue : List Item
  flying : List Item
  finished : List Bool
  accepted : List Item
  written : List Item
  shutdowns : Nat
  stopping : Bool
  refusing : Bool
  closed : Bool

namespace Outbox

inductive Step (box : Outbox Item) : Outbox Item → Prop where
  | keep : Step box box
  | post (entry : Option Item) :
      Step box { box with posted := box.posted ++ [entry], waiting := box.waiting ++ [entry] }
  | refuse : Step box { box with refusing := true }
  | close : Step box { box with closed := true }
  | clear (shut : box.closed = true) : Step box { box with queue := [] }
  -- a post runs
  | drop {item : Item} {rest : List (Option Item)} (first : box.waiting = some item :: rest)
      (dropped : box.closed = true ∨ box.stopping = true ∨ box.refusing = true) :
      Step box { box with waiting := rest }
  | accept {item : Item} {rest : List (Option Item)} (first : box.waiting = some item :: rest)
      (alive : box.closed = false) (going : box.stopping = false) (taking : box.refusing = false)
      (busy : box.queue ≠ []) :
      Step box { box with waiting := rest, queue := box.queue ++ [item], accepted := box.accepted ++ [item] }
  | start {item : Item} {rest : List (Option Item)} (first : box.waiting = some item :: rest)
      (alive : box.closed = false) (going : box.stopping = false) (taking : box.refusing = false)
      (free : box.queue = []) :
      Step box { box with
        waiting := rest, queue := [item], flying := box.flying ++ [item], accepted := box.accepted ++ [item] }
  | ignore {rest : List (Option Item)} (first : box.waiting = none :: rest)
      (ignored : box.closed = true ∨ box.stopping = true) : Step box { box with waiting := rest }
  | stop {rest : List (Option Item)} (first : box.waiting = none :: rest) (alive : box.closed = false)
      (going : box.stopping = false) (busy : box.queue ≠ []) :
      Step box { box with waiting := rest, stopping := true }
  | shut {rest : List (Option Item)} (first : box.waiting = none :: rest) (alive : box.closed = false)
      (going : box.stopping = false) (free : box.queue = []) (fails : Bool) :
      Step box { box with waiting := rest, stopping := true, shutdowns := box.shutdowns + 1, closed := fails }
  -- a write completes
  | finish {index : Nat} {item : Item} (found : box.flying[index]? = some item) (alive : box.closed = false) :
      Step box { box with
        flying := box.flying.eraseIdx index, finished := box.finished ++ [true], written := box.written ++ [item] }
  | fail {index : Nat} {item : Item} (found : box.flying[index]? = some item) :
      Step box { box with flying := box.flying.eraseIdx index, finished := box.finished ++ [false] }
  -- its completion runs
  | skip {result : Bool} {rest : List Bool} (first : box.finished = result :: rest) (shut : box.closed = true) :
      Step box { box with finished := rest }
  | broken {rest : List Bool} (first : box.finished = false :: rest) (alive : box.closed = false) :
      Step box { box with finished := rest, closed := true }
  | next {rest : List Bool} {item following : Item} {items : List Item} (first : box.finished = true :: rest)
      (alive : box.closed = false) (queue : box.queue = item :: following :: items) :
      Step box { box with finished := rest, queue := following :: items, flying := box.flying ++ [following] }
  | last {rest : List Bool} {item : Item} (first : box.finished = true :: rest) (alive : box.closed = false)
      (queue : box.queue = [item]) (going : box.stopping = false) :
      Step box { box with finished := rest, queue := [] }
  | drain {rest : List Bool} {item : Item} (first : box.finished = true :: rest) (alive : box.closed = false)
      (queue : box.queue = [item]) (stopping : box.stopping = true) (fails : Bool) :
      Step box { box with finished := rest, queue := [], shutdowns := box.shutdowns + 1, closed := fails }

/-! ## One write at a time -/

/-- The queue, what has become of its head, and the part of it that is not written. -/
inductive Flight : List Item → List Item → List Bool → List Item → Prop where
  | idle : Flight [] [] [] []
  | writing (item : Item) (rest : List Item) : Flight (item :: rest) [item] [] (item :: rest)
  | wrote (item : Item) (rest : List Item) : Flight (item :: rest) [] [true] rest
  | failed (item : Item) (rest : List Item) : Flight (item :: rest) [] [false] (item :: rest)

structure Ordered (box : Outbox Item) : Prop where
  flight : box.closed = false →
    ∃ unwritten, Flight box.queue box.flying box.finished unwritten ∧ box.accepted = box.written ++ unwritten
  outstanding : box.flying.length + box.finished.length ≤ 1
  wire : box.written <+: box.accepted

theorem ordered_of_flight {box : Outbox Item} {unwritten : List Item}
    (flight : Flight box.queue box.flying box.finished unwritten) (accepted : box.accepted = box.written ++ unwritten) :
    Ordered box := by
  refine ⟨fun _ => ⟨unwritten, flight, accepted⟩, ?_, ⟨unwritten, accepted.symm⟩⟩
  generalize box.queue = queue, box.flying = flying, box.finished = finished at flight
  cases flight <;> simp

theorem Ordered.outstanding_iff {box : Outbox Item} (ordered : Ordered box) (alive : box.closed = false) :
    box.flying.length + box.finished.length = 1 ↔ box.queue ≠ [] := by
  obtain ⟨unwritten, flight, -⟩ := ordered.flight alive
  generalize box.queue = queue, box.flying = flying, box.finished = finished at flight
  cases flight <;> simp

theorem Ordered.all_written {box : Outbox Item} (ordered : Ordered box) (alive : box.closed = false)
    (free : box.queue = []) : box.accepted = box.written := by
  obtain ⟨unwritten, flight, accepted⟩ := ordered.flight alive
  rw [free] at flight
  generalize box.flying = flying, box.finished = finished at flight
  cases flight
  exact accepted.trans (List.append_nil _)

theorem ordered_step {box after : Outbox Item} (ordered : Ordered box) (step : Step box after) : Ordered after := by
  obtain ⟨posted, waiting, queue, flying, finished, accepted, written, shutdowns, stopping, refusing, closed⟩ := box
  cases step with
  | keep | post | refuse | drop | ignore | stop => exact ⟨ordered.flight, ordered.outstanding, ordered.wire⟩
  | close => exact ⟨by simp, ordered.outstanding, ordered.wire⟩
  | clear shut =>
    cases shut
    exact ⟨by simp, ordered.outstanding, ordered.wire⟩
  -- an accepted item goes behind the one being written
  | accept first alive going taking busy =>
    obtain ⟨unwritten, flight, same⟩ := ordered.flight alive
    cases flight with
    | idle => exact absurd rfl busy
    | writing item rest => exact ordered_of_flight (.writing item _) (by simp_all)
    | wrote item rest => exact ordered_of_flight (.wrote item _) (by simp_all)
    | failed item rest => exact ordered_of_flight (.failed item _) (by simp_all)
  | start first alive going taking free =>
    obtain ⟨unwritten, flight, same⟩ := ordered.flight alive
    cases flight with
    | idle => exact ordered_of_flight (.writing _ []) (by simp_all)
    | writing | wrote | failed => cases free
  | shut first alive going free fails =>
    obtain ⟨unwritten, flight, same⟩ := ordered.flight alive
    exact ⟨fun _ => ⟨unwritten, flight, same⟩, ordered.outstanding, ordered.wire⟩
  | @finish index item found alive =>
    obtain ⟨unwritten, flight, same⟩ := ordered.flight alive
    cases flight with
    | idle | wrote | failed => cases found
    | writing head rest =>
      obtain ⟨inside, rfl⟩ := List.getElem?_eq_some_iff.mp found
      obtain rfl : index = 0 := by simpa using inside
      exact ordered_of_flight (.wrote head rest) (by simp_all)
  -- the item that failed stays at the head until the handler has seen it
  | @fail index item found =>
    refine ⟨fun alive => ?_, ?_, ordered.wire⟩
    · obtain ⟨unwritten, flight, same⟩ := ordered.flight alive
      cases flight with
      | idle | wrote | failed => cases found
      | writing head rest =>
        obtain ⟨inside, rfl⟩ := List.getElem?_eq_some_iff.mp found
        obtain rfl : index = 0 := by simpa using inside
        exact ⟨head :: rest, .failed head rest, same⟩
    · have outstanding := ordered.outstanding
      obtain ⟨inside, -⟩ := List.getElem?_eq_some_iff.mp found
      simp only at outstanding inside
      simp only [List.length_eraseIdx_of_lt inside, List.length_append, List.length_singleton]
      omega
  | @skip result rest first shut =>
    cases shut
    refine ⟨by simp, ?_, ordered.wire⟩
    have outstanding := ordered.outstanding
    simp only at first
    simp only [first, List.length_cons] at outstanding ⊢
    omega
  | @broken rest first alive =>
    refine ⟨by simp, ?_, ordered.wire⟩
    have outstanding := ordered.outstanding
    simp only at first
    simp only [first, List.length_cons] at outstanding ⊢
    omega
  | next first alive head =>
    obtain ⟨unwritten, flight, same⟩ := ordered.flight alive
    cases flight with
    | idle | writing | failed => cases first
    | wrote item rest =>
      cases first
      cases head
      exact ordered_of_flight (.writing _ _) same
  | last first alive head | drain first alive head =>
    obtain ⟨unwritten, flight, same⟩ := ordered.flight alive
    cases flight with
    | idle | writing | failed => cases first
    | wrote item rest =>
      cases first
      cases head
      exact ordered_of_flight .idle same

/-! ## What a stop cuts off -/

def ahead (box : Outbox Item) : List Item := if box.stopping then [] else beforeStop box.waiting

structure Cut (box : Outbox Item) : Prop where
  accepted : box.accepted.Sublist (beforeStop box.posted)
  requested : box.stopping = true → none ∈ box.posted
  request : box.closed = false → box.stopping = false → (none ∈ box.posted ↔ none ∈ box.waiting)
  ahead : box.closed = false → (box.accepted ++ box.ahead).Sublist (beforeStop box.posted)
  exact : box.closed = false → box.refusing = false → box.accepted ++ box.ahead = beforeStop box.posted

theorem Cut.ran {box after : Outbox Item} (cut : Cut box) {item : Item} {rest : List (Option Item)}
    (first : box.waiting = some item :: rest) (waiting : after.waiting = rest)
    (posted : after.posted = box.posted) (alive : box.closed = false) (going : box.stopping = false)
    (stopping : after.stopping = false) (taking : box.refusing = false)
    (accepted : after.accepted = box.accepted ++ [item]) : Cut after := by
  have known := cut.exact alive taking
  have request := cut.request alive going
  simp only [Outbox.ahead, going, first, beforeStop, Bool.false_eq_true, if_false] at known
  have same : after.accepted ++ after.ahead = beforeStop after.posted := by
    rw [accepted, posted, ← known]
    simp [Outbox.ahead, stopping, waiting]
  refine ⟨?_, by simp [stopping], fun _ _ => ?_, fun _ => ?_, fun _ _ => same⟩
  · rw [← same]
    exact List.sublist_append_left _ _
  · rw [posted, request, first, waiting]
    simp
  · rw [same]

theorem cut_step {box after : Outbox Item} (cut : Cut box) (step : Step box after) : Cut after := by
  cases step with
  | keep | clear | finish | fail | skip | next | last =>
    exact ⟨cut.accepted, cut.requested, cut.request, cut.ahead, cut.exact⟩
  | post entry =>
    -- the new entry adds the same items to what is posted and to what is ahead
    have grown (alive : box.closed = false) : ∃ more, beforeStop (box.posted ++ [entry]) = beforeStop box.posted ++ more ∧
        (if box.stopping then [] else beforeStop (box.waiting ++ [entry])) = box.ahead ++ more := by
      cases going : box.stopping with
      | true =>
        refine ⟨[], ?_, by simp [Outbox.ahead, going]⟩
        rw [beforeStop_requested (cut.requested going), List.append_nil]
      | false =>
        obtain ⟨more, posted, waiting⟩ := beforeStop_append entry (cut.request alive going)
        exact ⟨more, posted, by simpa [Outbox.ahead, going] using waiting⟩
    obtain ⟨more, posted⟩ := beforeStop_grows box.posted entry
    refine ⟨?_, ?_, ?_, ?_, ?_⟩
    · rw [posted]
      exact cut.accepted.trans (List.sublist_append_left _ _)
    · exact fun stopping => List.mem_append_left _ (cut.requested stopping)
    · intro alive going
      simp [cut.request alive going]
    · intro alive
      obtain ⟨more, posted, ahead⟩ := grown alive
      rw [Outbox.ahead, ahead, posted, ← List.append_assoc]
      exact (cut.ahead alive).append_right more
    · intro alive taking
      obtain ⟨more, posted, ahead⟩ := grown alive
      rw [Outbox.ahead, ahead, posted, ← List.append_assoc, cut.exact alive taking]
  | refuse => exact ⟨cut.accepted, cut.requested, cut.request, cut.ahead, by simp⟩
  | close | broken => exact ⟨cut.accepted, cut.requested, by simp, by simp, by simp⟩
  | @drop item rest first dropped =>
    have fewer : (if box.stopping then [] else beforeStop rest).Sublist box.ahead := by
      cases going : box.stopping with
      | true => exact List.nil_sublist _
      | false => simp [Outbox.ahead, going, first, beforeStop]
    refine ⟨cut.accepted, cut.requested, fun alive going => ?_, fun alive => ?_, fun alive taking => ?_⟩
    · rw [cut.request alive going, first]
      simp
    · exact (List.Sublist.append_left fewer _).trans (cut.ahead alive)
    · rcases dropped with shut | stopping | refusing
      · exact absurd (shut.symm.trans alive) (by simp)
      · have same := cut.exact alive taking
        simpa [Outbox.ahead, stopping] using same
      · exact absurd (refusing.symm.trans taking) (by simp)
  | ignore first ignored =>
    have still (alive : box.closed = false) : box.stopping = true := by
      rcases ignored with shut | stopping
      · exact absurd (shut.symm.trans alive) (by simp)
      · exact stopping
    refine ⟨cut.accepted, cut.requested, fun alive going => ?_, fun alive => ?_, fun alive taking => ?_⟩
    · exact absurd (going.symm.trans (still alive)) (by simp)
    · simpa [Outbox.ahead, still alive] using cut.ahead alive
    · simpa [Outbox.ahead, still alive] using cut.exact alive taking
  | stop first alive going | shut first alive going =>
    have request := cut.request alive going
    refine ⟨cut.accepted, fun _ => ?_, by simp, fun _ => ?_, fun _ taking => ?_⟩
    · exact request.mpr (by simp [first])
    · simpa [Outbox.ahead] using cut.accepted
    · simpa [Outbox.ahead, going, first, beforeStop] using cut.exact alive taking
  | accept first alive going taking | start first alive going taking =>
    exact cut.ran first rfl rfl alive going going taking rfl
  | drain first alive queue stopping fails =>
    exact ⟨cut.accepted, cut.requested, fun _ => cut.request alive, fun _ => cut.ahead alive, fun _ => cut.exact alive⟩

/-! ## The shutdown -/

structure Shut (box : Outbox Item) : Prop where
  once : box.shutdowns ≤ 1
  drained : 0 < box.shutdowns → box.stopping = true ∧ box.queue = [] ∧ box.flying = [] ∧ box.finished = []
  performed : box.closed = false → box.stopping = true → box.queue = [] → box.shutdowns = 1

theorem Ordered.idle {box : Outbox Item} (ordered : Ordered box) (alive : box.closed = false) (free : box.queue = []) :
    box.flying = [] ∧ box.finished = [] := by
  have none_out : ¬ box.flying.length + box.finished.length = 1 := by
    rw [ordered.outstanding_iff alive]
    exact fun busy => busy free
  have outstanding := ordered.outstanding
  exact ⟨List.length_eq_zero_iff.mp (by omega), List.length_eq_zero_iff.mp (by omega)⟩

/-- There was no shutdown as long as something is outstanding or queued or may be. -/
theorem Shut.none_yet {box : Outbox Item} (shut : Shut box)
    (busy : box.stopping = false ∨ box.queue ≠ [] ∨ box.flying ≠ [] ∨ box.finished ≠ []) : box.shutdowns = 0 := by
  by_contra some_shut
  obtain ⟨stopping, queue, flying, finished⟩ := shut.drained (Nat.pos_of_ne_zero some_shut)
  simp_all

theorem shut_step {box after : Outbox Item} (ordered : Ordered box) (shut : Shut box) (step : Step box after) :
    Shut after := by
  cases step with
  | keep | post | refuse | drop | ignore => exact ⟨shut.once, shut.drained, shut.performed⟩
  | close => exact ⟨shut.once, shut.drained, by simp⟩
  | clear closed =>
    refine ⟨shut.once, fun some_shut => ?_, by simp [closed]⟩
    obtain ⟨stopping, -, flying, finished⟩ := shut.drained some_shut
    exact ⟨stopping, rfl, flying, finished⟩
  | accept first alive going | start first alive going | last first alive queue going =>
    have fresh := shut.none_yet (.inl going)
    exact ⟨shut.once, by simp [fresh], by simp [going]⟩
  | stop first alive going busy =>
    have fresh := shut.none_yet (.inl going)
    exact ⟨shut.once, by simp [fresh], fun _ _ free => absurd free busy⟩
  | shut first alive going free fails =>
    have fresh := shut.none_yet (.inl going)
    obtain ⟨flying, finished⟩ := ordered.idle alive free
    exact ⟨by simp [fresh], fun _ => ⟨rfl, free, flying, finished⟩, by simp [fresh]⟩
  | finish found | fail found =>
    have fresh := shut.none_yet (.inr (.inr (.inl (List.ne_nil_of_mem (List.mem_of_getElem? found)))))
    exact ⟨shut.once, by simp [fresh], shut.performed⟩
  | skip first closed =>
    have fresh := shut.none_yet (.inr (.inr (.inr (by simp [first]))))
    exact ⟨shut.once, by simp [fresh], by simp [closed]⟩
  | broken first alive =>
    have fresh := shut.none_yet (.inr (.inr (.inr (by simp [first]))))
    exact ⟨shut.once, by simp [fresh], by simp⟩
  | next first alive queue =>
    have fresh := shut.none_yet (.inr (.inl (by simp [queue])))
    exact ⟨shut.once, by simp [fresh], by simp⟩
  | @drain rest item first alive queue stopping fails =>
    have fresh := shut.none_yet (.inr (.inl (by simp [queue])))
    -- the completion that runs was the only thing outstanding
    have outstanding := ordered.outstanding
    simp only [first, List.length_cons] at outstanding
    have flying : box.flying = [] := List.length_eq_zero_iff.mp (by omega)
    have finished : rest = [] := List.length_eq_zero_iff.mp (by omega)
    exact ⟨by simp [fresh], fun _ => ⟨stopping, rfl, flying, finished⟩, by simp [fresh]⟩

structure Regular (box : Outbox Item) : Prop where
  ordered : Ordered box
  cut : Cut box
  shut : Shut box

theorem regular_step {box after : Outbox Item} (regular : Regular box) (step : Step box after) : Regular after :=
  ⟨ordered_step regular.ordered step, cut_step regular.cut step, shut_step regular.ordered regular.shut step⟩


end Outbox

end Rsp.Foundation
