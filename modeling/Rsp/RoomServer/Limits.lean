import Rsp.Message.Size
import Rsp.RoomServer.Effects

/-! The uids and texts that Room passes on.

Room takes uids and texts from the requests and from the contents and never makes them
longer, so with requests and contents in bounds every frame it sends is in bounds.
-/

set_option autoImplicit false

namespace Rsp.RoomServer

open Message Foundation

section Predicates

variable (limits : Limits)

def Callback.Within : Callback → Prop
  | .onUserEnter uid | .onUserExit uid => limits.Uid uid
  | .onRecvMessage sender message => limits.Uid sender ∧ limits.Text message
  | .onCreateRoom _ | .onDestroyRoom | .onKickedOutUser .. => True

structure Room.Within (room : Room) : Prop where
  users : ∀ (uid : Uid) (user : User), room.users[uid]? = some user → limits.Uid uid ∧ limits.Uid user.uid
  callbacks : ∀ call ∈ room.callbacks, call.Within limits

def Stage.Within : Stage → Prop
  | .createRoom message => limits.Uid message.uid
  | .createContents _ response => limits.Uid response.uid
  | .findJoin message => limits.Uid message.uid
  | .joinRoom _ uid response => limits.Uid uid ∧ limits.Uid response.uid
  | .joinedRoom _ uid _ response => limits.Uid uid ∧ limits.Uid response.uid
  | .onUserEnter _ uid => limits.Uid uid
  | .findLeave message => limits.Uid message.uid
  | .findLeaveRoom message _ => limits.Uid message.uid
  | .leaveRoom _ uid response => limits.Uid uid ∧ limits.Uid response.uid
  | .leftRoom _ uid _ response => limits.Uid uid ∧ limits.Uid response.uid
  | .onUserExit _ uid _ => limits.Uid uid
  | .complete response => limits.ToUser response
  | .sendResponse response => limits.ToUser response
  | .onCreateRoom _ | .onEmpty _ | .closeImpl _ | .abort => True

def Task.Within : Task → Prop
  | .onRecv message => limits.ToRoom message
  | .handle _ stage => stage.Within limits
  | .findForward notification _ => limits.Uid notification.uid ∧ limits.Text notification.message
  | .onRecvMessage _ sender message => limits.Uid sender ∧ limits.Text message
  | .sendToUserImpl users message => (∀ user ∈ users, limits.Uid user.uid) ∧ limits.Notice message
  | .sendNotification _ _ notification => limits.ToUser notification
  | .kickOutUserImpl .. | .onKickedOutUser .. | .close _ => True

/-- What arrives from outside: messages of the User servers and calls of the contents. -/
def Label.Within : Label → Prop
  | .deliver _ message => limits.ToRoom message
  | .api _ (.sendToUser _ message) => limits.Notice message
  | .api _ (.kickOutUser ..) | .run .. | .shutdown => True

structure Core.Within (core : Core) : Prop where
  rooms : ∀ room ∈ core.heap, room.Within limits
  frames : ∀ frame ∈ core.outgoing, limits.ToUser frame.message

structure Within (state : State) : Prop where
  core : state.core.Within limits
  items : ∀ entry ∈ state.pool, entry.2.Within limits

end Predicates

section Cores

variable {limits : Limits} {core after : Core} {ptr : RoomPtr} {room : Room}

theorem uid_empty : limits.Uid "" := Nat.zero_le _

theorem Core.Within.found (within : core.Within limits) (found : core.heap[ptr]? = some room) : room.Within limits :=
  within.rooms room (List.mem_of_getElem? found)

theorem within_same (within : core.Within limits) (heap : after.heap = core.heap)
    (outgoing : after.outgoing = core.outgoing) : after.Within limits := by
  constructor
  · rw [heap]
    exact within.rooms
  · rw [outgoing]
    exact within.frames

theorem within_setRoom (within : core.Within limits) (fits : room.Within limits) :
    (core.setRoom ptr room).Within limits := by
  constructor
  · intro other mem
    rcases List.mem_or_eq_of_mem_set mem with mem | rfl
    · exact within.rooms other mem
    · exact fits
  · exact within.frames

theorem within_send (within : core.Within limits) {frame : Outgoing} (fits : limits.ToUser frame.message) :
    (core.send frame).Within limits := by
  constructor
  · exact within.rooms
  · intro other mem
    rcases List.mem_append.mp mem with mem | mem
    · exact within.frames other mem
    · rw [List.mem_singleton.mp mem]
      exact fits

theorem within_callback (within : core.Within limits) {call : Callback}
    (called : core.callback ptr call = some after) (fits : call.Within limits) : after.Within limits := by
  simp only [Core.callback, Room.callback, Option.bind_eq_bind, Option.pure_def, Option.bind_eq_some_iff,
    Option.some.injEq] at called
  obtain ⟨room, found, invoked, contents, rfl⟩ := called
  have before := within.found found
  apply within_setRoom within
  split at contents
  · cases contents
    constructor
    · exact before.users
    · intro other mem
      rcases List.mem_append.mp mem with mem | mem
      · exact before.callbacks other mem
      · rw [List.mem_singleton.mp mem]
        exact fits
  · cases contents

theorem within_insert (before : room.Within limits) {uid : Uid} (short : limits.Uid uid) (route : RoutingId) :
    Room.Within limits { room with users := room.users.insert uid ⟨uid, route⟩ } := by
  constructor
  · intro other user found
    rw [Std.ExtTreeMap.getElem?_insert] at found
    split at found
    · next same =>
      cases found
      rw [← Std.LawfulEqCmp.eq_of_compare same]
      exact ⟨short, short⟩
    · exact before.users other user found
  · exact before.callbacks

theorem within_erase (before : room.Within limits) (uid : Uid) :
    Room.Within limits { room with users := room.users.erase uid } := by
  constructor
  · intro other user found
    rw [Std.ExtTreeMap.getElem?_erase] at found
    split at found
    · cases found
    · exact before.users other user found
  · exact before.callbacks

theorem within_closeImpl (before : room.Within limits) : room.closeImpl.Within limits := by
  unfold Room.closeImpl
  split
  · exact before
  · constructor
    · exact before.users
    · intro call mem
      simp only at mem
      split at mem
      · rcases List.mem_append.mp mem with mem | mem
        · exact before.callbacks call mem
        · rw [List.mem_singleton.mp mem]
          trivial
      · exact before.callbacks call mem

theorem within_make {roomId : RoomId} {owner : User} {strand : Fin 3} (short : limits.Uid owner.uid) :
    (Room.make roomId owner strand).Within limits := by
  constructor
  · intro uid user found
    simp only [Room.make, Std.ExtTreeMap.getElem?_insert, Std.ExtTreeMap.getElem?_empty] at found
    split at found
    · next same =>
      cases found
      rw [← Std.LawfulEqCmp.eq_of_compare same]
      exact ⟨short, short⟩
    · cases found
  · intro call mem
    cases mem

end Cores

section Executed

variable {limits : Limits} {choice : Choice} {core : Core} {task : Task} {effect : Effect}

structure Effect.Within (limits : Limits) (effect : Effect) : Prop where
  core : Core.Within limits effect.core
  items : ∀ item ∈ items effect, item.Within limits

theorem within_of_ran {request : Admitted} {stage : Stage} (within : core.Within limits)
    (fits : stage.Within limits) (ran : Ran choice core request stage effect) : Effect.Within limits effect := by
  have started : (core.start request).1.Within limits := within_same within rfl rfl
  cases ran with
  -- a response made with defaults names nobody
  | createLate late => exact ⟨within, by simpa [items, Task.Within, Stage.Within, Limits.ToUser] using uid_empty⟩
  | createStopping queued stopping => exact ⟨started, by simp [items, Task.Within, Stage.Within]⟩
  | created queued running lower upper =>
    constructor
    · constructor
      · intro room mem
        rcases List.mem_append.mp mem with mem | mem
        · exact within.rooms room mem
        · rw [List.mem_singleton.mp mem]
          exact within_make fits
      · exact within.frames
    · simpa [items, Task.Within, Stage.Within] using uid_empty
  | contentsThrown thrown => exact ⟨within, by simp [items, Task.Within, Stage.Within]⟩
  | contentsCreated found =>
    have before := within.found found
    constructor
    · exact within_setRoom within ⟨before.users, before.callbacks⟩
    · simpa [items, Task.Within, Stage.Within, Limits.ToUser] using fits
  | createNotified found called =>
    exact ⟨within_callback within called trivial, by simp [items]⟩
  | joinUnknown unknown => exact ⟨started, by simpa [items, Task.Within, Stage.Within, Limits.ToUser] using uid_empty⟩
  | joinFound | leaveFound => exact ⟨within, by simpa [items, Task.Within, Stage.Within] using ⟨fits, uid_empty⟩⟩
  | joinLate | leaveLate => exact ⟨within, by simpa [items, Task.Within, Stage.Within, Limits.ToUser] using fits.2⟩
  | joinClosed | leaveRefused =>
    exact ⟨started, by simpa [items, Task.Within, Stage.Within, Limits.ToUser] using fits.2⟩
  | joinEntered queued found isOpen =>
    constructor
    · exact within_setRoom started (within_insert (within.found found) fits.1 _)
    · simpa [items, Task.Within, Stage.Within] using fits
  | @joined ptr uid inserted response room found =>
    constructor
    · exact within_same within rfl rfl
    · cases inserted
      · simpa [items, Task.Within, Stage.Within, Limits.ToUser] using fits.2
      · simpa [items, Task.Within, Stage.Within, Limits.ToUser] using ⟨fits.2, fits.1⟩
  | enterNotified called => exact ⟨within_callback within called fits, by simp [items]⟩
  | leaveUnindexed | leaveUnknown =>
    exact ⟨started, by simpa [items, leaveUnknown, Task.Within, Stage.Within, Limits.ToUser] using uid_empty⟩
  | leaveIndexed indexed => exact ⟨within, by simpa [items, Task.Within, Stage.Within] using fits⟩
  | leaveExited queued found isOpen present =>
    constructor
    · exact within_setRoom started (within_erase (within.found found) _)
    · simpa [items, Task.Within, Stage.Within] using fits
  | left found =>
    constructor
    · exact within_same within rfl rfl
    · simpa [items, Task.Within, Stage.Within, Limits.ToUser] using ⟨fits.2, fits.1⟩
  | @exitNotified ptr uid empty after called =>
    constructor
    · exact within_callback within called fits
    · cases empty <;> simp [items, Task.Within, Stage.Within]
  | emptied found registered => exact ⟨within_same within rfl rfl, by simp [items, Task.Within, Stage.Within]⟩
  | emptyStale found stale => exact ⟨within, by simp [items]⟩
  | closed found => exact ⟨within_setRoom within (within_closeImpl (within.found found)), by simp [items]⟩
  | completed =>
    constructor
    · exact within_same within rfl rfl
    · simp only [items, complete]
      split
      · simpa [Task.Within, Stage.Within] using fits
      · simp
  | sent => exact ⟨within_send within fits, by simp [items]⟩
  | aborted => exact ⟨within_same within rfl rfl, by simp [items]⟩

theorem within_of_received {message : ToRoom} (within : core.Within limits) (fits : limits.ToRoom message)
    (received : Received choice core message effect) : Effect.Within limits effect := by
  cases received with
  | ping => exact ⟨within_send within trivial, by simp [items]⟩
  | forwardUnindexed unindexed => exact ⟨within, by simp [items]⟩
  | forwardIndexed indexed => exact ⟨within, by simpa [items, Task.Within, Limits.ToRoom] using fits⟩
  | cancelled | refused => exact ⟨within_same within rfl rfl, by simp [items]⟩
  | @admitted _ requestId resType first ticket known admitted =>
    constructor
    · exact within_same within rfl rfl
    · have first : first.Within limits := by
        cases message <;> cases known <;> exact fits
      simpa [items, Task.Within] using first

theorem within_of_executed (within : core.Within limits) (fits : task.Within limits)
    (executed : Executed choice core task effect) : Effect.Within limits effect := by
  cases executed with
  | received received => exact within_of_received within fits received
  | staged ran => exact within_of_ran within fits ran
  | forwardStale | kickAbsent => exact ⟨within, by simp [items]⟩
  | forwardFound known => exact ⟨within, by simpa [items, Task.Within] using fits⟩
  | forwarded called => exact ⟨within_callback within called fits, by simp [items]⟩
  | @broadcast users message =>
    constructor
    · exact within
    · intro item mem
      simp only [items, List.map_nil, List.append_nil, List.mem_map] at mem
      obtain ⟨user, mem, rfl⟩ := mem
      exact ⟨rfl, rfl, fits.1 user mem, fits.2⟩
  | kickPresent found present =>
    have member := ((within.found found).users _ _ present).1
    exact ⟨within, by simpa [items, Task.Within, Limits.ToUser] using member⟩
  | kicked found contents =>
    have before := within.found found
    constructor
    · apply within_setRoom within
      constructor
      · exact (within_erase before _).users
      · intro call mem
        rcases List.mem_append.mp mem with mem | mem
        · exact before.callbacks call mem
        · rw [List.mem_singleton.mp mem]
          trivial
    · simp [items]
  | notified => exact ⟨within_send within fits, by simp [items]⟩
  | closed found => exact ⟨within_setRoom within (within_closeImpl (within.found found)), by simp [items]⟩

theorem within_apiTask {ptr : RoomPtr} {room : Room} {call : ApiCall} (before : room.Within limits)
    (fits : (Label.api ptr call).Within limits) : ∀ item ∈ apiTask ptr room call, item.Within limits := by
  intro item mem
  cases call with
  | sendToUser uids message =>
    obtain ⟨users, found, rfl⟩ := Option.map_eq_some_iff.mp mem
    refine ⟨?_, fits⟩
    intro user asked
    simp only [Room.findUsers] at found
    split at found
    · cases found
    · cases found
      obtain ⟨uid, -, stored⟩ := List.mem_filterMap.mp asked
      exact (before.users uid user stored).2
  | kickOutUser uid reason =>
    cases mem
    trivial

end Executed

theorem within_step {limits : Limits} {state after : State} {label : Label} (within : Within limits state)
    (fits : label.Within limits) (moved : step state label = some after) : Within limits after := by
  cases stepped_of_step moved with
  | delivered quiet =>
    constructor
    · exact within_same within.core rfl rfl
    · intro entry mem
      rcases List.mem_append.mp mem with mem | mem
      · exact within.items entry mem
      · rw [List.mem_singleton.mp mem]
        exact fits
  | @ran thread choice task before later effect split quiet executed =>
    have waits : (thread, task) ∈ state.pool := by simp [split]
    obtain ⟨core, items⟩ := within_of_executed within.core (within.items _ waits) executed
    constructor
    · exact core
    · intro entry mem
      rcases List.mem_append.mp mem with mem | posted
      · rcases List.mem_append.mp mem with made | mem
        · obtain ⟨item, mine, rfl⟩ := List.mem_map.mp made
          exact items item (List.mem_append_left _ mine)
        · exact within.items entry (mem_of_rest split mem)
      · exact items entry.2 (List.mem_append_right _ (List.mem_map_of_mem posted))
  | called found contents =>
    constructor
    · exact within.core
    · intro entry mem
      rcases List.mem_append.mp mem with mem | mem
      · exact within.items entry mem
      · obtain ⟨item, asked, rfl⟩ := List.mem_map.mp mem
        exact within_apiTask (within.core.found found) fits item (Option.mem_toList.mp asked)
  | stopped running =>
    constructor
    · exact within_same within.core rfl rfl
    · intro entry mem
      rcases List.mem_append.mp mem with mem | mem
      · exact within.items entry mem
      · obtain ⟨ptr, -, closing⟩ := List.mem_filterMap.mp mem
        obtain ⟨room, -, rfl⟩ := Option.map_eq_some_iff.mp closing
        trivial

theorem within_initial (limits : Limits) : Within limits initial := by
  constructor
  · constructor <;> simp [initial]
  · simp [initial]

end Rsp.RoomServer
