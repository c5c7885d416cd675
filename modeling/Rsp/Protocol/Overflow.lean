import Rsp.Protocol.Order
import Rsp.RoomContents.Contents
import Rsp.RoomServer.Limits
import Rsp.UserServer.Limits

/-! Sizes along the hops of a relayed message.

A server checks the size of what it receives and of what it serializes against the same
limit, but adds to what it relays. A frame at the limit is accepted and its answer is not
serialized. With uids and texts short enough for all hops together nothing overflows.
-/

set_option autoImplicit false

namespace Rsp.Protocol

open Message Foundation Serializer RoomServer UserServer RoomContents

def recipients : ApiCall → List Uid
  | .sendToUser users _ => users
  | .kickOutUser .. => []

/-- The reference contents make this call in a callback the room has had. -/
def Reacts (room : Room) (call : ApiCall) : Prop :=
  ∃ callback ∈ room.callbacks, react (recipients call) callback = some call

/-- The frames of the clients keep the limits, and the rooms have the reference contents. -/
def Modest (limits : Limits) (move : Transition State Label) : Prop :=
  match move.label with
  | .spoke _ label => label.Within limits
  | .hub (.api ptr call) => ∃ room ∈ move.before.hub.core.heap[ptr]?, Reacts room call
  | _ => True

def Accepted (move : Transition State Label) : Prop :=
  match move.label with
  | .spoke _ (.receive _ (.session message)) => message.byteSize ≤ kMaxPayloadSize
  | .spoke _ (.receive _ (.room message)) => message.byteSize ≤ kMaxPayloadSize
  | _ => True

section Decidable

variable (limits : Limits)

instance (message : FromClient) : Decidable (limits.FromClient message) := by
  unfold Limits.FromClient Limits.Uid Limits.Text
  split <;> infer_instance

instance (label : UserServer.Label) : Decidable (label.Within limits) := by
  unfold UserServer.Label.Within
  split <;> infer_instance

instance (room : Room) (call : ApiCall) : Decidable (Reacts room call) := by
  unfold Reacts
  infer_instance

instance (move : Transition State Label) : Decidable (Modest limits move) := by
  unfold Modest
  split <;> infer_instance

end Decidable

structure Bounded (limits : Limits) (state : State) : Prop where
  hub : RoomServer.Within limits state.hub
  spokes : ∀ route, UserServer.Within limits (state.spoke route)

section Steps

variable {limits : Limits} {state after : State} {label : Label}

theorem react_within {users : List Uid} {callback : Callback} {call : ApiCall} (fits : callback.Within limits)
    (made : react users callback = some call) (ptr : RoomPtr) : (RoomServer.Label.api ptr call).Within limits := by
  cases callback with
  | onUserEnter uid =>
    cases made
    have short : uid.utf8ByteSize ≤ limits.uid := fits
    have size : ("(" ++ uid ++ ") has entered").utf8ByteSize = uid.utf8ByteSize + 14 := by
      simp only [String.utf8ByteSize_append, show "(".utf8ByteSize = 1 from rfl,
        show ") has entered".utf8ByteSize = 13 from rfl]
      omega
    simp only [RoomServer.Label.Within, Limits.Notice, size]
    omega
  | onUserExit uid =>
    cases made
    have short : uid.utf8ByteSize ≤ limits.uid := fits
    have size : ("(" ++ uid ++ ") has exited").utf8ByteSize = uid.utf8ByteSize + 13 := by
      simp only [String.utf8ByteSize_append, show "(".utf8ByteSize = 1 from rfl,
        show ") has exited".utf8ByteSize = 12 from rfl]
      omega
    simp only [RoomServer.Label.Within, Limits.Notice, size]
    omega
  | onRecvMessage sender text =>
    obtain ⟨shortUid, shortText⟩ := fits
    have size : ("(" ++ sender ++ "):" ++ text).utf8ByteSize = sender.utf8ByteSize + text.utf8ByteSize + 3 := by
      simp only [String.utf8ByteSize_append, show "(".utf8ByteSize = 1 from rfl, show "):".utf8ByteSize = 2 from rfl]
      omega
    have echoed : (RoomServer.Label.api ptr (echo users sender text)).Within limits := by
      simp only [echo, RoomServer.Label.Within, Limits.Notice, size]
      simp only [Limits.Uid, Limits.Text] at shortUid shortText
      omega
    -- The command to kick a member out sends no text of its own.
    simp only [react, Option.some.injEq] at made
    subst made
    unfold RoomContents.onRecvMessage
    split
    · split
      · trivial
      · exact echoed
    · exact echoed
  | onCreateRoom | onDestroyRoom | onKickedOutUser => cases made

theorem bounded_step (bounded : Bounded limits state) (modest : Modest limits ⟨state, label, after⟩)
    (moved : system.step state label = some after) : Bounded limits after := by
  have spoken : ∀ {route : RoutingId} {spoke : UserServer.State}, UserServer.Within limits spoke →
      ∀ other, UserServer.Within limits (Function.update state.spoke route spoke other) := by
    intro route spoke within other
    by_cases same : other = route
    · subst same
      rw [Function.update_self]
      exact within
    · rw [Function.update_of_ne same]
      exact bounded.spokes other
  cases system.stepped_of_step moved with
  | @hub given hub own done =>
    constructor
    · apply RoomServer.within_step bounded.hub _ done
      cases given with
      | deliver source message => cases own
      | run | shutdown => trivial
      -- the contents only react to callbacks, and the texts of these keep the limits
      | api ptr call =>
        obtain ⟨room, found, callback, mem, made⟩ := modest
        have within := (bounded.hub.core.found found).callbacks callback mem
        exact react_within within made ptr
    · exact bounded.spokes
  | spoke own done =>
    constructor
    · exact bounded.hub
    · exact spoken (UserServer.within_step (bounded.spokes _) modest done)
  | lostIn | lostOut => exact ⟨bounded.hub, bounded.spokes⟩
  | @handedIn route message hub next done =>
    have sent : (RoomServer.Label.deliver route message).Within limits :=
      (bounded.spokes route).core.outgoing message (List.mem_of_getElem? next)
    exact ⟨RoomServer.within_step bounded.hub sent done, bounded.spokes⟩
  | @handedOut route message spoke next done =>
    obtain ⟨frame, mem, rfl⟩ := List.mem_map.mp (List.mem_of_getElem? next)
    have sent : (UserServer.Label.deliver frame.message).Within limits :=
      Limits.toUser_fits (bounded.hub.core.frames frame (List.mem_filter.mp mem).1)
    constructor
    · exact bounded.hub
    · exact spoken (UserServer.within_step (bounded.spokes route) sent done)

theorem bounded_reached {history : History} (run : Reaches history state)
    (modest : ∀ move ∈ history, Modest limits move) : Bounded limits state := by
  apply run.invariant_of _ modest
  · intro move modest bounded moved
    exact bounded_step bounded modest moved
  · exact ⟨RoomServer.within_initial limits, fun _ => UserServer.within_initial limits⟩

end Steps

/-- As long as the clients keep to the limits, whatever the servers send fits the length field of a frame. -/
theorem relays_fit (limits : Limits) {history : History} {state : State} (run : Reaches history state)
    (modest : ∀ move ∈ history, Modest limits move) :
    (∀ route, ∀ entry ∈ (state.spoke route).core.sent, Serializes entry.2.byteSize) ∧
    (∀ route, ∀ message ∈ (state.spoke route).core.outgoing, Serializes message.byteSize) ∧
    ∀ frame ∈ state.hub.core.outgoing, Serializes frame.message.byteSize := by
  have bounded := bounded_reached run modest
  refine ⟨?_, ?_, ?_⟩
  · intro route entry mem
    exact serializes_of_le ((bounded.spokes route).core.sent entry mem)
  · intro route message mem
    exact serializes_of_le (Limits.toRoom_fits ((bounded.spokes route).core.outgoing message mem))
  · intro frame mem
    exact serializes_of_le (Limits.toUser_fits (bounded.hub.core.frames frame mem))

def chat : List Label :=
  onRoute "u" asksForRoom ++ .toHub "u" false ::
    atRoom [.run .router {}, .run .router {}, .run .router {}, .run .router {}, .run .router {}, .run (.strand 0) {}] ++
  .toSpoke "u" false :: onRoute "u" [.run .dealer 0, .run .dealer 0, .run (.strand 0) 0,
    .receive 0 (.session (.fwdRoom { message := "hello" })), .run (.conn 0) 0, .run (.strand 0) 0, .run (.strand 0) 0] ++
  .toHub "u" false :: atRoom [.run .router {}, .run .router {}, .run .router {},
    .api 0 (.sendToUser ["alice"] "(alice):hello"), .run (.strand 0) {}, .run (.strand 0) {}] ++
  .toSpoke "u" false :: onRoute "u" [.run .dealer 0, .run .dealer 0, .run (.strand 0) 0, .run (.strand 0) 0]

theorem relays_fit_chat :
    ∃ frame, (0, frame) ∈ ((final system.step initial chat).spoke "u").core.sent ∧
      frame = .fwdClient { uid := "alice", message := "(alice):hello" } ∧ Serializes frame.byteSize := by
  have run : Reaches (transitions system.step initial chat) (final system.step initial chat) :=
    run_of_enabled (by decide +kernel)
  have modest : ∀ move ∈ transitions system.step initial chat, Modest ⟨1024, 1024, by decide⟩ move := by
    decide +kernel
  have sent : (0, .fwdClient { uid := "alice", message := "(alice):hello" }) ∈
      ((final system.step initial chat).spoke "u").core.sent := by
    decide +kernel
  exact ⟨_, sent, rfl, (relays_fit ⟨1024, 1024, by decide⟩ run modest).1 "u" _ sent⟩

/-! ## A uid at the limit -/

def logsIn (uid : Uid) : List Label :=
  onRoute "u" [.accept, .receive 0 (.session (.reqLogin { uid })), .run (.conn 0) 0, .run (.strand 0) 0,
    .run (.strand 0) 0]

theorem logsIn_enabled (uid : Uid) : (execute system.step initial (logsIn uid)).isSome = true := rfl

theorem logsIn_answered (uid : Uid) :
    ((final system.step initial (logsIn uid)).spoke "u").core.sent = [(0, .resLogin { uid, success := true })] := rfl

theorem logsIn_accepted {uid : Uid} (fits : (FromClient.reqLogin { uid }).byteSize ≤ kMaxPayloadSize) :
    ∀ move ∈ transitions system.step initial (logsIn uid), Accepted move := by
  intro move mem
  have known := label_of_transition mem
  simp only [logsIn, onRoute, List.map_cons, List.map_nil, List.mem_cons, List.not_mem_nil, or_false] at known
  unfold Accepted
  rcases known with known | known | known | known | known <;> rw [known]
  · trivial
  · exact fits
  · trivial
  · trivial
  · trivial

/-- The flag of the reply is two bytes too many for a uid that fills its request. -/
theorem logsIn_overflows {uid : Uid} (full : stringField uid = kMaxPayloadSize) :
    ∃ entry ∈ ((final system.step initial (logsIn uid)).spoke "u").core.sent,
      entry.2.byteSize = kMaxPayloadSize + 2 ∧ ¬ Serializes entry.2.byteSize := by
  have size : (ToClient.resLogin { uid, success := true }).byteSize = kMaxPayloadSize + 2 := by
    simp only [ToClient.byteSize, full]
    rfl
  rw [logsIn_answered]
  refine ⟨_, List.mem_singleton_self _, size, ?_⟩
  rw [size]
  intro serializes
  obtain ⟨frame, written⟩ := serializes .kResLogin (List.replicate (kMaxPayloadSize + 2) 0) List.length_replicate
  have fits := serialize_fits written
  rw [List.length_replicate] at fits
  omega

def longUid (length : Nat) : Uid := String.ofList (List.replicate length 'a')

theorem longUid_size (length : Nat) : (longUid length).utf8ByteSize = length := by
  induction length with
  | zero => rfl
  | succ length ih =>
    have longer : longUid (length + 1) = longUid length ++ "a" := by
      rw [longUid, List.replicate_succ', String.ofList_append]
      rfl
    rw [longer, String.utf8ByteSize_append, ih]
    rfl

theorem longUid_field {length : Nat} (nonempty : length ≠ 0) :
    stringField (longUid length) = 1 + varintSize length + length := by
  have some : longUid length ≠ "" := by
    intro empty
    have size := longUid_size length
    rw [empty] at size
    exact nonempty size.symm
  rw [stringField, if_neg some, longUid_size]

theorem login_reply_overflows :
    ∃ uid, (FromClient.reqLogin { uid }).byteSize = kMaxPayloadSize ∧
      Reaches (transitions system.step initial (logsIn uid)) (final system.step initial (logsIn uid)) ∧
      (∀ move ∈ transitions system.step initial (logsIn uid), Accepted move) ∧
      ∃ entry ∈ ((final system.step initial (logsIn uid)).spoke "u").core.sent,
        entry.2.byteSize = kMaxPayloadSize + 2 ∧ ¬ Serializes entry.2.byteSize := by
  have filled : ∃ uid, stringField uid = kMaxPayloadSize := by
    have length : varintSize 65532 = 3 := by simp [varintSize]
    refine ⟨longUid 65532, ?_⟩
    rw [longUid_field (by decide), length]
    rfl
  obtain ⟨uid, full⟩ := filled
  have size : (FromClient.reqLogin { uid }).byteSize = kMaxPayloadSize := (Nat.zero_add _).trans full
  exact ⟨uid, size, run_of_enabled (logsIn_enabled uid), logsIn_accepted (Nat.le_of_eq size), logsIn_overflows full⟩

end Rsp.Protocol
