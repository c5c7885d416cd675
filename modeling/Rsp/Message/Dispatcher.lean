import Rsp.Message.Types
import Std.Data.ExtTreeMap

/-! The process-wide handler table `message_dispatcher`, keyed by message type only. -/

set_option autoImplicit false

namespace Rsp.Message

/-- `handlers` is keyed by the integer value of the type. -/
structure MessageDispatcher (Handler Unknown : Type) where
  handlers : Std.ExtTreeMap Nat Handler := ∅
  failHandler : Option Unknown := none

namespace MessageDispatcher

variable {Handler Unknown : Type}

/-- Assignment through `operator[]`: a later registration replaces an earlier one. -/
def registerHandler (self : MessageDispatcher Handler Unknown) (type : MessageType) (f : Handler) :
    MessageDispatcher Handler Unknown :=
  { self with handlers := self.handlers.insert type.value.toNat f }

def registerUnknownMessageHandler (self : MessageDispatcher Handler Unknown) (f : Unknown) :
    MessageDispatcher Handler Unknown :=
  { self with failHandler := some f }

def registerHandlers (self : MessageDispatcher Handler Unknown) (entries : List (MessageType × Handler)) :
    MessageDispatcher Handler Unknown :=
  entries.foldl (fun table entry => table.registerHandler entry.1 entry.2) self

/-- The handler `dispatch` calls; `none` is the call of an empty function object. -/
def dispatch (self : MessageDispatcher Handler Unknown) (type : MessageType) : Option (Handler ⊕ Unknown) :=
  match self.handlers[type.value.toNat]? with
  | some handler => some (.inl handler)
  | none => self.failHandler.map .inr

def find (self : MessageDispatcher Handler Unknown) (type : MessageType) : Option Handler :=
  self.handlers[type.value.toNat]?

theorem dispatch_eq (self : MessageDispatcher Handler Unknown) (type : MessageType) :
    self.dispatch type = (self.find type).elim (self.failHandler.map .inr) fun handler => some (.inl handler) := by
  simp only [dispatch, find]
  cases self.handlers[type.value.toNat]? <;> rfl

theorem find_registerHandler (self : MessageDispatcher Handler Unknown) (registered type : MessageType)
    (f : Handler) :
    (self.registerHandler registered f).find type = if registered = type then some f else self.find type := by
  have value : registered.value.toNat = type.value.toNat ↔ registered = type := by
    cases registered
    cases type
    simp [BitVec.toNat_inj]
  simp only [registerHandler, find, Std.ExtTreeMap.getElem?_insert, Std.LawfulEqCmp.compare_eq_iff_eq, value]

/-- After a list of registrations a type has one of its handlers from the list, or the one it had. -/
theorem find_registerHandlers (self : MessageDispatcher Handler Unknown) (entries : List (MessageType × Handler))
    (type : MessageType) :
    (∃ entry ∈ entries, entry.1 = type ∧ (self.registerHandlers entries).find type = some entry.2) ∨
    ((∀ entry ∈ entries, entry.1 ≠ type) ∧ (self.registerHandlers entries).find type = self.find type) := by
  induction entries generalizing self with
  | nil => exact .inr ⟨by simp, rfl⟩
  | cons first rest ih =>
    rcases ih (self.registerHandler first.1 first.2) with ⟨entry, mem, same, found⟩ | ⟨absent, found⟩
    · exact .inl ⟨entry, List.mem_cons_of_mem _ mem, same, found⟩
    · rw [find_registerHandler] at found
      by_cases same : first.1 = type
      · rw [if_pos same] at found
        exact .inl ⟨first, List.mem_cons_self, same, found⟩
      · rw [if_neg same] at found
        refine .inr ⟨?_, found⟩
        simpa using ⟨same, fun registered handler mem => absent (registered, handler) mem⟩

end MessageDispatcher

end Rsp.Message
