import Mathlib.Logic.Relation
import Mathlib.Tactic.ByContra

/-! The life of one room job, as counters.

A job is waiting to be pushed, queued, about to start, or has sent its request. Its entry
among the pending requests is taken by a response, by the timer or by a cancellation, and
each of these goes on in items that wait on a strand. `Turn` says how the counters can
change; `Sane` is what they keep, and from it follows that a job concludes once.
-/

set_option autoImplicit false

namespace Rsp.Job

inductive Role where
  | pushing
  | starting
  | adding
  | responding
  | expiring
  | timing
  | stopping
  | finishing
  deriving DecidableEq, Repr

/-- `first` is one while the job heads its queue and `behind` how often it stands further
back; `entry` is one while a request of the job is pending. -/
@[ext] structure Life where
  asked : Bool
  held : Bool
  finished : Bool
  first : Nat
  behind : Nat
  entry : Nat
  load : Role → Nat

namespace Life

def drop (self : Life) (role : Role) : Life :=
  { self with load := fun other => if other = role then self.load role - 1 else self.load other }

def put (self : Life) (role : Role) : Life :=
  { self with load := fun other => if other = role then self.load role + 1 else self.load other }

structure Alone (life : Life) : Prop where
  starting : life.load .starting = 0
  adding : life.load .adding = 0
  timing : life.load .timing = 0
  finishing : life.load .finishing = 0

/-- Something happens that is not about the job, or an item of it turns out to be void. -/
structure Calm (life after : Life) : Prop where
  asked : after.asked = life.asked
  held : after.held = life.held
  finished : after.finished = life.finished
  seats : after.first + after.behind ≤ life.first + life.behind
  behind : after.behind ≤ life.behind
  entry : after.entry ≤ life.entry
  load : ∀ role, after.load role ≤ life.load role
  first : after.first = life.first ∨ after.load .starting = 0

end Life

open Life

/-- How the counters of a job change. An item of a started task waits alone, so the turns
such an item makes find no other. -/
inductive Turn : Life → Life → Prop where
  | calm {life after : Life} (calm : Calm life after) : Turn life after
  | rejected {life : Life} (waits : 0 < life.load .pushing) : Turn life ((life.drop .pushing).put .stopping)
  | launched {life : Life} (waits : 0 < life.load .pushing) (idle : life.first = 0 ∧ life.behind = 0) :
      Turn life { (life.drop .pushing).put .starting with first := 1 }
  | queued {life : Life} (waits : 0 < life.load .pushing) :
      Turn life { life.drop .pushing with behind := life.behind + 1 }
  | promoted {life : Life} (waits : 0 < life.behind) :
      Turn life { life.put .starting with first := 1, behind := life.behind - 1 }
  | requested {life : Life} (waits : 0 < life.load .starting) (alone : (life.drop .starting).Alone) :
      Turn life { (life.drop .starting).put .adding with asked := true, held := true, entry := 0 }
  | added {life : Life} (waits : 0 < life.load .adding) : Turn life { life.drop .adding with entry := 1 }
  | answered {life : Life} (waits : 0 < life.entry) : Turn life { life.put .responding with entry := 0 }
  | expired {life : Life} (waits : 0 < life.entry) : Turn life { life.put .expiring with entry := 0 }
  | timedOut {life : Life} (waits : 0 < life.load .expiring) (unfinished : life.finished = false) :
      Turn life { (life.drop .expiring).put .timing with entry := 0 }
  | stopped {life : Life} (waits : 0 < life.load .stopping) (unfinished : life.finished = false)
      (alone : life.Alone) : Turn life { (life.drop .stopping).put .finishing with entry := 0 }
  | concluded {life : Life} {role : Role} (waits : 0 < life.load role)
      (caller : role = .responding ∨ role = .timing ∨ role = .finishing) (alone : (life.drop role).Alone) :
      Turn life { life.drop role with finished := true, held := false }
  | shutDown {life after : Life} (alone : life.Alone) (asked : after.asked = life.asked)
      (held : after.held = life.held) (finished : after.finished = life.finished)
      (emptied : after.first = 0 ∧ after.behind = 0) (entry : after.entry = life.entry)
      (stopping : after.load .stopping = life.load .stopping + (life.first + life.behind))
      (load : ∀ role, role ≠ .stopping → after.load role = life.load role) : Turn life after

/-- What the counters of a job keep: it has one place to be run from, is fresh until it
runs, has one token for its one request, and is unfinished while a cancellation ends. -/
structure Sane (life : Life) : Prop where
  seat : life.load .pushing + life.first + life.behind + life.load .stopping + life.load .finishing ≤ 1
  start : 0 < life.load .starting → life.first = 1
  fresh : 0 < life.load .pushing + life.behind + life.load .starting →
    life.asked = false ∧ life.held = false ∧ life.finished = false
  token : life.load .adding + life.load .responding + life.load .expiring + life.load .timing + life.entry ≤ 1
  unasked : life.asked = false →
    life.load .adding + life.load .responding + life.load .expiring + life.load .timing + life.entry = 0
  settled : life.finished = true ∨ 0 < life.load .finishing → life.entry + life.load .adding = 0
  ending : 0 < life.load .timing + life.load .finishing → life.finished = false
  holds : life.asked = true → life.finished = false → life.held = true

def Life.born : Life where
  asked := false
  held := false
  finished := false
  first := 0
  behind := 0
  entry := 0
  load role := if role = .pushing then 1 else 0

theorem sane_born : Sane Life.born := by
  constructor <;> simp [Life.born]

section Turn

variable {life after : Life}

theorem calm_drop (life : Life) (role : Role) : Calm life (life.drop role) := by
  refine ⟨rfl, rfl, rfl, Nat.le_refl _, Nat.le_refl _, Nat.le_refl _, fun other => ?_, .inl rfl⟩
  simp only [drop]
  split
  · next same =>
    rw [same]
    exact Nat.sub_le _ _
  · exact Nat.le_refl _

theorem sane_calm (sane : Sane life) (calm : Calm life after) : Sane after := by
  obtain ⟨seat, start, fresh, token, unasked, settled, ending, holds⟩ := sane
  have pushing := calm.load .pushing
  have starting := calm.load .starting
  have adding := calm.load .adding
  have responding := calm.load .responding
  have expiring := calm.load .expiring
  have timing := calm.load .timing
  have stopping := calm.load .stopping
  have finishing := calm.load .finishing
  have seats := calm.seats
  have behind := calm.behind
  have entry := calm.entry
  constructor
  case seat => omega
  case start =>
    intro waits
    rcases calm.first with same | none
    · have := start (by omega)
      omega
    · omega
  case fresh =>
    intro waits
    rw [calm.asked, calm.held, calm.finished]
    exact fresh (by omega)
  case token => omega
  case unasked =>
    intro none
    have := unasked (calm.asked ▸ none)
    omega
  case settled =>
    intro ended
    have := settled (by rw [calm.finished] at ended; exact ended.imp id (fun waits => by omega))
    omega
  case ending =>
    intro waits
    rw [calm.finished]
    exact ending (by omega)
  case holds =>
    rw [calm.asked, calm.held, calm.finished]
    exact holds

theorem Sane.drawn (sane : Sane life)
    (waits : 0 < life.load .adding + life.load .responding + life.load .expiring + life.load .timing + life.entry) :
    life.asked = true := by
  cases asked : life.asked with
  | false =>
    have none := sane.unasked asked
    omega
  | true => rfl

theorem Sane.ran (sane : Sane life) {role : Role} (waits : 0 < life.load role)
    (caller : role = .responding ∨ role = .timing ∨ role = .finishing) :
    life.load .pushing + life.behind + life.load .starting = 0 ∧ life.entry = 0 := by
  have concluding : role = .finishing ∨ life.asked = true := by
    rcases caller with rfl | rfl | rfl
    · exact .inr (sane.drawn (by omega))
    · exact .inr (sane.drawn (by omega))
    · exact .inl rfl
  have token := sane.token
  rcases concluding with rfl | asked
  · have seat := sane.seat
    have start := sane.start
    have settled := sane.settled (.inr waits)
    omega
  · refine ⟨?_, by rcases caller with rfl | rfl | rfl <;> have settled := sane.settled <;> omega⟩
    by_contra waiting
    have fresh := sane.fresh (by omega)
    simp [asked] at fresh

theorem sane_turn (sane : Sane life) (turn : Turn life after) : Sane after := by
  have ⟨seat, start, fresh, token, unasked, settled, ending, holds⟩ := sane
  cases turn with
  | calm calm => exact sane_calm sane calm
  | rejected waits =>
    constructor <;> simp only [drop, put, reduceCtorEq, ite_true, ite_false] <;> try assumption
    case seat => omega
    case fresh => exact fun _ => fresh (by omega)
  | launched waits idle =>
    have isFresh := fresh (by omega)
    constructor <;> simp only [drop, put, reduceCtorEq, ite_true, ite_false] <;> try assumption
    case seat => omega
    case start => exact fun _ => trivial
    case fresh => exact fun _ => isFresh
  | queued waits =>
    have isFresh := fresh (by omega)
    constructor <;> simp only [drop, reduceCtorEq, ite_true, ite_false] <;> try assumption
    case seat => omega
    case fresh => exact fun _ => isFresh
  | promoted waits =>
    have isFresh := fresh (by omega)
    constructor <;> simp only [put, reduceCtorEq, ite_true, ite_false] <;> try assumption
    case seat => omega
    case start => exact fun _ => trivial
    case fresh => exact fun _ => isFresh
  -- the first run of the job, so nothing of a request is there yet
  | requested waits alone =>
    obtain ⟨starting, adding, timing, finishing⟩ := alone
    simp only [drop, reduceCtorEq, ite_true, ite_false] at starting adding timing finishing
    have isFirst := start waits
    obtain ⟨isUnasked, -, unfinished⟩ := fresh (by omega)
    have none := unasked isUnasked
    constructor <;> simp only [drop, put, reduceCtorEq, ite_true, ite_false]
    case seat => omega
    case start => omega
    case fresh => omega
    case token => omega
    case unasked => simp
    case settled => simp [unfinished, finishing]
    case ending => exact fun _ => unfinished
    case holds => simp
  | added waits =>
    have asked := sane.drawn (by omega)
    constructor <;> simp only [drop, reduceCtorEq, ite_true, ite_false] <;> try assumption
    case token => omega
    case unasked => simp [asked]
    case settled =>
      intro ended
      have none := settled ended
      omega
  | answered | expired =>
    have asked := sane.drawn (by omega)
    constructor <;> simp only [put, reduceCtorEq, ite_true, ite_false] <;> try assumption
    case token => omega
    case unasked => simp [asked]
    case settled =>
      intro ended
      have none := settled ended
      omega
  | timedOut waits unfinished =>
    have asked := sane.drawn (by omega)
    constructor <;> simp only [drop, put, reduceCtorEq, ite_true, ite_false] <;> try assumption
    case token => omega
    case unasked => simp [asked]
    case settled =>
      intro ended
      have none := settled ended
      omega
    case ending => exact fun _ => unfinished
  | stopped waits unfinished alone =>
    constructor <;> simp only [drop, put, reduceCtorEq, ite_true, ite_false] <;> try assumption
    case seat => omega
    case token => omega
    case unasked =>
      intro none
      have := unasked none
      omega
    case settled =>
      intro _
      have none := alone.adding
      omega
    case ending => exact fun _ => unfinished
  -- apart from the flags this is the loss of the item that concludes
  | @concluded role waits caller alone =>
    obtain ⟨idle, taken⟩ := sane.ran waits caller
    obtain ⟨starting, adding, timing, finishing⟩ := alone
    have smaller := calm_drop life role
    obtain ⟨seat, start, fresh, token, unasked, -, -, -⟩ := sane_calm sane smaller
    constructor <;> simp only <;> try assumption
    case fresh =>
      intro waiting
      have pushing := smaller.load .pushing
      have behind : (life.drop role).behind = life.behind := rfl
      omega
    case settled =>
      intro _
      have entry : (life.drop role).entry = life.entry := rfl
      omega
    case ending => omega
    case holds => simp
  -- every seat of the job becomes a cancellation
  | shutDown alone asked held finished emptied entry stopping load =>
    have pushing := load .pushing (by simp)
    have starting := load .starting (by simp)
    have adding := load .adding (by simp)
    have responding := load .responding (by simp)
    have expiring := load .expiring (by simp)
    have timing := load .timing (by simp)
    have finishing := load .finishing (by simp)
    have idle := alone.starting
    constructor <;> simp only [asked, held, finished, pushing, starting, adding, responding, expiring, timing,
      finishing, stopping, entry, emptied] <;> try assumption
    case seat => omega
    case start => omega
    case fresh => exact fun waits => fresh (by omega)

theorem sane_turns (sane : Sane life) (turns : Relation.ReflTransGen Turn life after) : Sane after := by
  induction turns with
  | refl => exact sane
  | tail _ turn ih => exact sane_turn ih turn

/-! ### What never comes back -/

structure Drained (life : Life) : Prop where
  asked : life.asked = true
  tokens : life.load .adding + life.load .responding + life.load .expiring + life.load .timing + life.entry = 0

theorem drained_turn (sane : Sane life) (drained : Drained life) (turn : Turn life after) : Drained after := by
  obtain ⟨asked, tokens⟩ := drained
  cases turn with
  | calm calm =>
    have adding := calm.load .adding
    have responding := calm.load .responding
    have expiring := calm.load .expiring
    have timing := calm.load .timing
    have entry := calm.entry
    exact ⟨calm.asked.trans asked, by omega⟩
  | rejected | launched => exact ⟨asked, by simpa [drop, put] using tokens⟩
  | queued waits => exact ⟨asked, by simpa [drop] using tokens⟩
  | promoted waits => exact ⟨asked, by simpa [put] using tokens⟩
  | requested waits alone =>
    have fresh := sane.fresh (by omega)
    simp [asked] at fresh
  | added | answered | expired | timedOut => omega
  | stopped waits unfinished alone =>
    refine ⟨asked, ?_⟩
    simp only [drop, put, reduceCtorEq, ite_false]
    omega
  | concluded waits caller alone =>
    refine ⟨asked, ?_⟩
    rcases caller with rfl | rfl | rfl
    · omega
    · omega
    · simpa [drop] using tokens
  | shutDown alone sameAsked held finished emptied entry stopping load =>
    exact ⟨sameAsked.trans asked, by simpa [load, entry] using tokens⟩

theorem drained_turns (sane : Sane life) (drained : Drained life) (turns : Relation.ReflTransGen Turn life after) :
    Drained after := by
  have both : Sane after ∧ Drained after := by
    induction turns with
    | refl => exact ⟨sane, drained⟩
    | tail _ turn ih => exact ⟨sane_turn ih.1 turn, drained_turn ih.1 ih.2 turn⟩
  exact both.2

/-- The response or the timeout that concludes a job was the last word on its request. -/
theorem drained_of_concluded (sane : Sane life) {role : Role} (waits : 0 < life.load role)
    (caller : role = .responding ∨ role = .timing) (alone : (life.drop role).Alone)
    (turn : Turn { life.drop role with finished := true, held := false } after) : Drained after := by
  have ending : role = .responding ∨ role = .timing ∨ role = .finishing := caller.imp id .inl
  have concluded := sane_turn sane (.concluded waits ending alone)
  refine drained_turn concluded ⟨?_, ?_⟩ turn
  · rcases caller with rfl | rfl <;> exact sane.drawn (by omega)
  · have token := sane.token
    rcases caller with rfl | rfl <;> simp only [drop, reduceCtorEq, ite_true, ite_false] <;> omega

def Life.unrun (life : Life) : Nat := life.load .pushing + life.behind + life.load .starting

/-- A job that has been run is not run again, and one that is finished stays so. -/
theorem past_turn (turn : Turn life after) :
    (life.unrun = 0 → after.unrun = 0) ∧ (life.finished = true → after.finished = true) := by
  simp only [unrun]
  cases turn with
  | calm calm =>
    have pushing := calm.load .pushing
    have starting := calm.load .starting
    have behind := calm.behind
    exact ⟨by omega, fun ended => calm.finished.trans ended⟩
  | rejected waits | launched waits idle | queued waits | promoted waits | requested waits alone =>
    exact ⟨by omega, id⟩
  | added | answered | expired | timedOut | stopped => exact ⟨by simp [drop, put], id⟩
  | concluded waits caller alone =>
    refine ⟨?_, fun _ => rfl⟩
    rcases caller with rfl | rfl | rfl <;> simp [drop]
  | shutDown alone asked held finished emptied entry stopping load =>
    have pushing := load .pushing (by simp)
    have starting := load .starting (by simp)
    exact ⟨by omega, fun ended => finished.trans ended⟩

theorem past_turns (turns : Relation.ReflTransGen Turn life after) :
    (life.unrun = 0 → after.unrun = 0) ∧ (life.finished = true → after.finished = true) := by
  induction turns with
  | refl => exact ⟨id, id⟩
  | tail _ turn ih =>
    have past := past_turn turn
    exact ⟨fun ran => past.1 (ih.1 ran), fun ended => past.2 (ih.2 ended)⟩

end Turn

end Rsp.Job
