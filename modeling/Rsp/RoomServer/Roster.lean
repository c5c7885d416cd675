import Mathlib.Data.List.Chain
import Rsp.RoomServer.Effects

/-! The members of one room, as the tasks of its strand leave them.

A task runs to its end before the next one of the room starts, so a room goes through one
task after the other. Its members are the fold of these tasks: a uid is a member when the
last task that concerned it was a join, under the route of that join. The contents hear of
every change and of nothing else.
-/

set_option autoImplicit false

namespace Rsp.RoomServer

open Message Foundation

/-! ## Tasks -/

/-- A task of the strand. `begun` is the outcome of the `begin` test, and `closes` says whether the
manager closes the room when the leave has emptied it. -/
inductive RoomTask where
  | join (uid : Uid) (route : RoutingId) (begun : Bool)
  | leave (uid : Uid) (begun : Bool) (closes : Bool)
  | kickOut (uid : Uid) (reason : KickoutReason)
  deriving DecidableEq, Repr

/-- A task on its room from beginning to end; `none` is a call through a null `contents_`. -/
def Room.perform (self : Room) : RoomTask → Option Room
  | .join uid route begun =>
      if !begun then some self
      else
        match self.join uid route with
        -- the room is closed
        | none => some self
        | some (joined, inserted) => if inserted then joined.callback (.onUserEnter uid) else some joined
  | .leave uid begun closes =>
      if !begun then some self
      else
        match self.leave uid with
        | none => some self
        | some (left, empty) =>
            (left.callback (.onUserExit uid)).map fun told => if empty && closes then told.closeImpl else told
  | .kickOut uid reason =>
      match self.users[uid]? with
      | none => some self
      | some _ =>
          (self.callback (.onKickedOutUser uid reason)).map fun told => { told with users := told.users.erase uid }

def Room.opened (roomId : RoomId) (owner : User) (strand : Fin 3) : Room :=
  { Room.make roomId owner strand with contents := true }

inductive Performed (room : Room) : RoomTask → Room → Prop where
  | unjoined {uid : Uid} {route : RoutingId} {begun : Bool} (refused : begun = false ∨ room.lifecycle ≠ .kOpen) :
      Performed room (.join uid route begun) room
  | entered {uid : Uid} {route : RoutingId} (isOpen : room.lifecycle = .kOpen) (absent : room.users[uid]? = none)
      (contents : room.contents = true) :
      Performed room (.join uid route true) { room with
        users := room.users.insert uid ⟨uid, route⟩
        callbacks := room.callbacks ++ [.onUserEnter uid] }
  | rejoined {uid : Uid} {route : RoutingId} {user : User} (isOpen : room.lifecycle = .kOpen)
      (present : room.users[uid]? = some user) :
      Performed room (.join uid route true) { room with users := room.users.insert uid ⟨uid, route⟩ }
  | unleft {uid : Uid} {begun closes : Bool}
      (refused : begun = false ∨ room.lifecycle ≠ .kOpen ∨ room.users[uid]? = none) :
      Performed room (.leave uid begun closes) room
  | exited {uid : Uid} {closes : Bool} {user : User} (isOpen : room.lifecycle = .kOpen)
      (present : room.users[uid]? = some user) (contents : room.contents = true) :
      Performed room (.leave uid true closes) { room with
        users := room.users.erase uid
        callbacks := room.callbacks ++ [.onUserExit uid] }
  | closed {uid : Uid} {user : User} (isOpen : room.lifecycle = .kOpen) (present : room.users[uid]? = some user)
      (contents : room.contents = true) (empty : (room.users.erase uid).isEmpty = true) :
      Performed room (.leave uid true true) { room with
        users := room.users.erase uid
        lifecycle := .kClosed
        contents := false
        callbacks := room.callbacks ++ [.onUserExit uid] ++ [.onDestroyRoom] }
  | unkicked {uid : Uid} {reason : KickoutReason} (absent : room.users[uid]? = none) :
      Performed room (.kickOut uid reason) room
  | kicked {uid : Uid} {reason : KickoutReason} {user : User} (present : room.users[uid]? = some user)
      (contents : room.contents = true) :
      Performed room (.kickOut uid reason) { room with
        users := room.users.erase uid
        callbacks := room.callbacks ++ [.onKickedOutUser uid reason] }

section Performed

variable {room after : Room} {task : RoomTask}

theorem callback_some {call : Callback} (called : room.callback call = some after) :
    room.contents = true ∧ after = { room with callbacks := room.callbacks ++ [call] } := by
  simp only [Room.callback] at called
  split at called
  · exact ⟨by assumption, (Option.some.inj called).symm⟩
  · cases called

theorem contains_of_found {users : Std.ExtTreeMap Uid User} {uid : Uid} {user : User}
    (found : users[uid]? = some user) : users.contains uid = true := by
  rw [Std.ExtTreeMap.contains_eq_isSome_getElem?, found]
  rfl

theorem contains_of_missing {users : Std.ExtTreeMap Uid User} {uid : Uid} (missing : users[uid]? = none) :
    users.contains uid = false := by
  rw [Std.ExtTreeMap.contains_eq_isSome_getElem?, missing]
  rfl

theorem performed_join {uid : Uid} {route : RoutingId} {begun : Bool}
    (performed : room.perform (.join uid route begun) = some after) : Performed room (.join uid route begun) after := by
  cases begun with
  | false =>
    cases performed
    exact .unjoined (.inl rfl)
  | true =>
    simp only [Room.perform, Room.join, Bool.not_true, Bool.false_eq_true, if_false] at performed
    by_cases isOpen : room.lifecycle = .kOpen
    case neg =>
      rw [if_pos isOpen] at performed
      cases performed
      exact .unjoined (.inr isOpen)
    rw [if_neg (not_not.mpr isOpen)] at performed
    cases found : room.users[uid]? with
    | none =>
      simp only [contains_of_missing found, Bool.not_false, if_true] at performed
      obtain ⟨contents, rfl⟩ := callback_some performed
      exact .entered isOpen found contents
    | some user =>
      simp only [contains_of_found found, Bool.not_true, Bool.false_eq_true, if_false] at performed
      cases performed
      exact .rejoined isOpen found

theorem performed_leave {uid : Uid} {begun closes : Bool}
    (performed : room.perform (.leave uid begun closes) = some after) :
    Performed room (.leave uid begun closes) after := by
  cases begun with
  | false =>
    cases performed
    exact .unleft (.inl rfl)
  | true =>
    simp only [Room.perform, Room.leave, Bool.not_true, Bool.false_eq_true, if_false] at performed
    by_cases isOpen : room.lifecycle = .kOpen
    case neg =>
      rw [if_pos (.inl isOpen)] at performed
      cases performed
      exact .unleft (.inr (.inl isOpen))
    cases found : room.users[uid]? with
    | none =>
      rw [if_pos (.inr (by simp [contains_of_missing found]))] at performed
      cases performed
      exact .unleft (.inr (.inr found))
    | some user =>
      rw [if_neg (by simp [isOpen, contains_of_found found])] at performed
      obtain ⟨told, called, rfl⟩ := Option.map_eq_some_iff.mp performed
      obtain ⟨contents, rfl⟩ := callback_some called
      by_cases closing : ((room.users.erase uid).isEmpty && closes) = true
      · obtain ⟨empty, rfl⟩ := Bool.and_eq_true_iff.mp closing
        simp only [empty, Bool.and_self, if_true, Room.closeImpl, isOpen, ne_eq, not_true, if_false]
        rw [if_pos contents]
        exact .closed isOpen found contents empty
      · rw [if_neg closing]
        exact .exited isOpen found contents

theorem performed_of_perform (performed : room.perform task = some after) : Performed room task after := by
  cases task with
  | join uid route begun => exact performed_join performed
  | leave uid begun closes => exact performed_leave performed
  | kickOut uid reason =>
    simp only [Room.perform] at performed
    cases found : room.users[uid]? with
    | none =>
      rw [found] at performed
      cases performed
      exact .unkicked found
    | some user =>
      rw [found] at performed
      obtain ⟨told, called, rfl⟩ := Option.map_eq_some_iff.mp performed
      obtain ⟨contents, rfl⟩ := callback_some called
      exact .kicked found contents

end Performed

/-! ## What a task means -/

/-- What a task makes of a uid: a member on a route, no member, or nothing. A task that does not begin
and a join or leave of a room that is not open are without effect. -/
def RoomTask.event (room : Room) (uid : Uid) : RoomTask → Option (Option RoutingId)
  | .join joined route begun => if begun ∧ room.lifecycle = .kOpen ∧ joined = uid then some (some route) else none
  | .leave left begun _ => if begun ∧ room.lifecycle = .kOpen ∧ left = uid then some none else none
  | .kickOut kicked _ => if kicked = uid then some none else none

def RoomTask.call (room : Room) : RoomTask → Option Callback
  | .join uid _ begun =>
      if begun ∧ room.lifecycle = .kOpen ∧ room.users[uid]? = none then some (.onUserEnter uid) else none
  | .leave uid begun _ =>
      if begun ∧ room.lifecycle = .kOpen ∧ room.users[uid]?.isSome then some (.onUserExit uid) else none
  | .kickOut uid reason => if room.users[uid]?.isSome then some (.onKickedOutUser uid reason) else none

def Callback.presence (uid : Uid) : Callback → Option Bool
  | .onUserEnter entered => if entered = uid then some true else none
  | .onUserExit gone => if gone = uid then some false else none
  | .onKickedOutUser gone _ => if gone = uid then some false else none
  | _ => none

abbrev RoomHistory := List (Transition Room RoomTask)

def events (owner : User) (uid : Uid) (history : RoomHistory) : List (Option RoutingId) :=
  (if uid = owner.uid then some owner.route else none) ::
    history.filterMap fun move => move.label.event move.before uid

def presences (owner : User) (uid : Uid) (room : Room) : List Bool :=
  decide (uid = owner.uid) :: room.callbacks.filterMap (Callback.presence uid)

section Step

variable {room after : Room} {task : RoomTask} (performed : Performed room task after)
include performed

theorem performed_users (uid : Uid) :
    after.users[uid]? = ((task.event room uid).map fun route => route.map (User.mk uid)).getD room.users[uid]? := by
  cases performed with
  | @unjoined joined route begun refused =>
    have silent : ¬ (begun = true ∧ room.lifecycle = .kOpen ∧ joined = uid) := by
      rintro ⟨begins, isOpen, -⟩
      rcases refused with late | shut
      · simp [begins] at late
      · exact shut isOpen
    simp [RoomTask.event, silent]
  | @entered joined route isOpen | @rejoined joined route user isOpen =>
    by_cases same : joined = uid <;> simp [RoomTask.event, isOpen, same, Std.ExtTreeMap.getElem?_insert]
  | @unleft left begun closes refused =>
    simp only [RoomTask.event]
    split
    · next concerned =>
      obtain ⟨begins, isOpen, rfl⟩ := concerned
      rcases refused with late | shut | absent
      · simp [begins] at late
      · exact absurd isOpen shut
      · simpa using absent
    · rfl
  | @exited left closes user isOpen | @closed left user isOpen =>
    by_cases same : left = uid <;> simp [RoomTask.event, isOpen, same, Std.ExtTreeMap.getElem?_erase]
  | @unkicked kicked reason absent =>
    simp only [RoomTask.event]
    split
    · next same =>
      subst same
      simpa using absent
    · rfl
  | @kicked kicked reason user present contents =>
    by_cases same : kicked = uid <;> simp [RoomTask.event, same, Std.ExtTreeMap.getElem?_erase]

/-- The contents hear what the task is to tell them, and of their end if the room closes. -/
theorem performed_callbacks :
    ∃ ended, (ended = [] ∨ ended = [.onDestroyRoom]) ∧
      after.callbacks = room.callbacks ++ (task.call room).toList ++ ended := by
  cases performed with
  | @unjoined joined route begun refused =>
    refine ⟨[], .inl rfl, ?_⟩
    rcases refused with rfl | shut <;> simp_all [RoomTask.call]
  | entered isOpen absent contents => exact ⟨[], .inl rfl, by simp [RoomTask.call, isOpen, absent]⟩
  | rejoined isOpen present | kicked present => exact ⟨[], .inl rfl, by simp [RoomTask.call, present]⟩
  | unleft refused =>
    refine ⟨[], .inl rfl, ?_⟩
    rcases refused with rfl | shut | absent <;> simp_all [RoomTask.call]
  | exited isOpen present contents => exact ⟨[], .inl rfl, by simp [RoomTask.call, isOpen, present]⟩
  | closed isOpen present contents empty => exact ⟨_, .inr rfl, by simp [RoomTask.call, isOpen, present]⟩
  | unkicked absent => exact ⟨[], .inl rfl, by simp [RoomTask.call, absent]⟩

theorem performed_presence (uid : Uid) :
    ((task.call room).bind (Callback.presence uid)).toList =
      if after.users[uid]?.isSome = room.users[uid]?.isSome then [] else [after.users[uid]?.isSome] := by
  cases performed with
  | unjoined refused => rcases refused with rfl | shut <;> simp_all [RoomTask.call]
  | @entered joined route isOpen absent contents =>
    by_cases same : joined = uid
    · subst same
      simp [RoomTask.call, Callback.presence, isOpen, absent]
    · simp [RoomTask.call, Callback.presence, absent, same, Std.ExtTreeMap.getElem?_insert]
  | @rejoined joined route user isOpen present =>
    by_cases same : joined = uid
    · subst same
      simp [RoomTask.call, present]
    · simp [RoomTask.call, present, same, Std.ExtTreeMap.getElem?_insert]
  | unleft refused => rcases refused with rfl | shut | absent <;> simp_all [RoomTask.call]
  | @exited left closes user isOpen present | @closed left user isOpen present =>
    by_cases same : left = uid
    · subst same
      simp [RoomTask.call, Callback.presence, isOpen, present]
    · simp [RoomTask.call, Callback.presence, present, same, Std.ExtTreeMap.getElem?_erase]
  | unkicked absent => simp [RoomTask.call, absent]
  | @kicked kicked reason user present contents =>
    by_cases same : kicked = uid
    · subst same
      simp [RoomTask.call, Callback.presence, present]
    · simp [RoomTask.call, Callback.presence, present, same, Std.ExtTreeMap.getElem?_erase]

end Step

/-! ## Whole runs -/

structure Rostered (owner : User) (history : RoomHistory) (room : Room) : Prop where
  users : ∀ uid, ∃ last, (events owner uid history).getLast? = some last ∧ room.users[uid]? = last.map (User.mk uid)
  alternates : ∀ uid, (presences owner uid room).IsChain (· ≠ ·)
  latest : ∀ uid, (presences owner uid room).getLast? = some room.users[uid]?.isSome
  hosted : room.lifecycle = .kOpen → room.contents = true
  emptied : room.lifecycle ≠ .kOpen → ∀ uid : Uid, room.users[uid]? = none

theorem rostered_opened (roomId : RoomId) (owner : User) (strand : Fin 3) :
    Rostered owner [] (Room.opened roomId owner strand) where
  users uid := by
    refine ⟨_, rfl, ?_⟩
    by_cases same : uid = owner.uid
    · subst same
      simp [Room.opened, Room.make]
    · simp [Room.opened, Room.make, same, Ne.symm same]
  alternates uid := by simp [presences, Room.opened, Room.make]
  latest uid := by
    by_cases same : uid = owner.uid
    · simp [presences, Room.opened, Room.make, same]
    · simp [presences, Room.opened, Room.make, same, Ne.symm same]
  hosted _ := rfl
  emptied shut := absurd rfl shut

section Step

variable {owner : User} {history : RoomHistory} {room after : Room} {task : RoomTask}

theorem performed_hosted (performed : Performed room task after)
    (hosted : room.lifecycle = .kOpen → room.contents = true) (isOpen : after.lifecycle = .kOpen) :
    after.contents = true := by
  cases performed with
  | closed _ present contents empty => cases isOpen
  | unjoined | rejoined | unleft | unkicked => exact hosted isOpen
  | entered _ absent contents | exited _ present contents | kicked present contents => exact contents

theorem performed_emptied (performed : Performed room task after)
    (emptied : room.lifecycle ≠ .kOpen → ∀ uid : Uid, room.users[uid]? = none) (shut : after.lifecycle ≠ .kOpen) :
    ∀ uid : Uid, after.users[uid]? = none := by
  intro uid
  cases performed with
  | closed _ present contents empty =>
    rw [Std.ExtTreeMap.isEmpty_iff] at empty
    simp [empty]
  | unjoined | unleft | unkicked => exact emptied shut uid
  | entered isOpen | rejoined isOpen | exited isOpen => exact absurd isOpen shut
  | @kicked kicked reason user present contents =>
    rw [emptied shut kicked] at present
    cases present

theorem presences_performed (performed : Performed room task after) (uid : Uid) :
    presences owner uid after = presences owner uid room ++
      if after.users[uid]?.isSome = room.users[uid]?.isSome then [] else [after.users[uid]?.isSome] := by
  obtain ⟨ended, last, told⟩ := performed_callbacks performed
  have silent : ended.filterMap (Callback.presence uid) = [] := by
    rcases last with rfl | rfl <;> rfl
  rw [← performed_presence performed uid, presences, told, List.filterMap_append, List.filterMap_append, silent,
    List.append_nil, presences, List.cons_append]
  cases task.call room <;> simp [List.filterMap_cons]
  split <;> simp_all

theorem rostered_step (rostered : Rostered owner history room) (moved : room.perform task = some after) :
    Rostered owner (history ++ [⟨room, task, after⟩]) after := by
  have performed := performed_of_perform moved
  constructor
  case users =>
    intro uid
    obtain ⟨last, latest, stored⟩ := rostered.users uid
    have grown : events owner uid (history ++ [⟨room, task, after⟩]) =
        events owner uid history ++ (task.event room uid).toList := by
      rw [events, filterMap_concat]
      rfl
    rw [grown, performed_users performed uid]
    cases task.event room uid with
    | none => exact ⟨last, by simpa using latest, stored⟩
    | some route => exact ⟨route, by simp, rfl⟩
  case alternates =>
    intro uid
    rw [presences_performed performed uid, List.isChain_append]
    refine ⟨rostered.alternates uid, ?_, ?_⟩
    · split <;> simp
    · rw [rostered.latest uid]
      split
      · simp
      · next changed => simpa using Ne.symm changed
  case latest =>
    intro uid
    rw [presences_performed performed uid]
    split
    · next same => rw [List.append_nil, rostered.latest uid, same]
    · simp
  case hosted => exact performed_hosted performed rostered.hosted
  case emptied => exact performed_emptied performed rostered.emptied

theorem callback_enabled (room : Room) (contents : room.contents = true) (call : Callback) :
    (room.callback call).isSome = true := by
  simp [Room.callback, contents]

theorem rostered_enabled (rostered : Rostered owner history room) (task : RoomTask) :
    (room.perform task).isSome = true := by
  have contents : ∀ (uid : Uid) (user : User), room.users[uid]? = some user → room.contents = true := by
    intro uid user present
    by_cases isOpen : room.lifecycle = .kOpen
    · exact rostered.hosted isOpen
    · rw [rostered.emptied isOpen uid] at present
      cases present
  cases task with
  | join uid route begun =>
    simp only [Room.perform, Room.join]
    by_cases isOpen : room.lifecycle = .kOpen
    · have called := callback_enabled { room with users := room.users.insert uid ⟨uid, route⟩ }
        (rostered.hosted isOpen) (.onUserEnter uid)
      cases begun <;> cases room.users.contains uid <;> simp_all
    · cases begun <;> simp [isOpen]
  | leave uid begun closes =>
    simp only [Room.perform, Room.leave]
    by_cases isOpen : room.lifecycle = .kOpen
    · have called := callback_enabled { room with users := room.users.erase uid } (rostered.hosted isOpen)
        (.onUserExit uid)
      cases begun <;> cases room.users.contains uid <;> simp_all
    · cases begun <;> simp [isOpen]
  | kickOut uid reason =>
    simp only [Room.perform]
    cases found : room.users[uid]? with
    | none => rfl
    | some user =>
      rw [Option.isSome_map]
      exact callback_enabled room (contents uid user found) _

theorem rostered_reached {roomId : RoomId} {strand : Fin 3}
    (run : Run Room.perform (Room.opened roomId owner strand) history room) : Rostered owner history room := by
  apply run.history (fun past room => Rostered owner past room)
  · exact rostered_opened roomId owner strand
  · intro past move reached rostered moved mem
    exact rostered_step rostered moved

end Step

/-- The members of a room are the fold of its tasks. After any of them, a uid is a member under the route of
its last event, or none, the contents have been told of every change and of nothing else, a task that does not
begin changes nothing, and every task can follow. -/
theorem members_are_fold {roomId : RoomId} {owner : User} {strand : Fin 3} {history : RoomHistory} {room : Room}
    (run : Run Room.perform (Room.opened roomId owner strand) history room) :
    (∀ uid, ∃ last, (events owner uid history).getLast? = some last ∧
      room.users[uid]? = last.map (User.mk uid)) ∧
    (∀ move ∈ history, ∃ ended, (ended = [] ∨ ended = [.onDestroyRoom]) ∧
      move.after.callbacks = move.before.callbacks ++ (move.label.call move.before).toList ++ ended) ∧
    (∀ uid, (presences owner uid room).IsChain (· ≠ ·)) ∧
    (∀ uid route, room.perform (.join uid route false) = some room) ∧
    (∀ uid closes, room.perform (.leave uid false closes) = some room) ∧
    ∀ task, (room.perform task).isSome = true := by
  have rostered := rostered_reached run
  refine ⟨rostered.users, ?_, rostered.alternates, fun _ _ => rfl, fun _ _ => rfl, rostered_enabled rostered⟩
  apply run.history fun past _ => ∀ move ∈ past, ∃ ended, (ended = [] ∨ ended = [.onDestroyRoom]) ∧
    move.after.callbacks = move.before.callbacks ++ (move.label.call move.before).toList ++ ended
  · simp
  · intro past move _ told moved _ other mem
    rcases List.mem_append.mp mem with earlier | last
    · exact told other earlier
    · cases List.mem_singleton.mp last
      exact performed_callbacks (performed_of_perform moved)

def comings : List RoomTask :=
  [.join "bob" "u1" true, .join "bob" "u2" true, .join "bob" "u3" false, .leave "alice" true true,
    .kickOut "bob" .kRoomOwner]

theorem members_are_fold_comings :
    (events ⟨"alice", "u"⟩ "bob" (transitions Room.perform (Room.opened 1 ⟨"alice", "u"⟩ 0) comings)) =
        [none, some "u1", some "u2", none] ∧
      (final Room.perform (Room.opened 1 ⟨"alice", "u"⟩ 0) comings).users["bob"]? = none ∧
      ∀ task, ((final Room.perform (Room.opened 1 ⟨"alice", "u"⟩ 0) comings).perform task).isSome = true := by
  have told : events ⟨"alice", "u"⟩ "bob" (transitions Room.perform (Room.opened 1 ⟨"alice", "u"⟩ 0) comings) =
      [none, some "u1", some "u2", none] := by decide +kernel
  have run : Run Room.perform (Room.opened 1 ⟨"alice", "u"⟩ 0) _ (final Room.perform _ comings) :=
    run_of_enabled (by decide +kernel)
  obtain ⟨users, -, -, -, -, enabled⟩ := members_are_fold run
  refine ⟨told, ?_, enabled⟩
  obtain ⟨last, latest, stored⟩ := users "bob"
  rw [told] at latest
  cases latest
  exact stored

/-! ## The items of the server -/

/-- The items of a task of the room `ptr`, and all that follows them on the strand. Before each of them and
at the end, other threads may have done anything that leaves the room alone. -/
inductive ToEnd (ptr : RoomPtr) : List Task → Core → Core → Prop where
  | done {core after : Core} (same : after.heap[ptr]? = core.heap[ptr]?) : ToEnd ptr [] core after
  | item {choice : Choice} {task : Task} {rest : List Task} {core middle after : Core} {effect : Effect}
      (same : middle.heap[ptr]? = core.heap[ptr]?) (executed : exec choice task middle = some effect)
      (later : ToEnd ptr (effect.next ++ rest) effect.core after) : ToEnd ptr (task :: rest) core after

section Items

variable {core after : Core} {request : Admitted} {ptr : RoomPtr} {room : Room} {uid : Uid} {rest : List Task}

theorem toEnd_cons {task : Task} (ends : ToEnd ptr (task :: rest) core after) :
    ∃ choice middle effect, middle.heap[ptr]? = core.heap[ptr]? ∧ Executed choice middle task effect ∧
      ToEnd ptr (effect.next ++ rest) effect.core after := by
  cases ends with
  | item same executed later => exact ⟨_, _, _, same, executed_of_exec executed, later⟩

theorem toEnd_nil (ends : ToEnd ptr [] core after) : after.heap[ptr]? = core.heap[ptr]? := by
  cases ends with
  | done same => exact same

theorem toEnd_complete {response : ToUser} (ends : ToEnd ptr (.handle request (.complete response) :: rest) core after) :
    ∃ middle, middle.heap[ptr]? = core.heap[ptr]? ∧ ToEnd ptr rest middle after := by
  obtain ⟨choice, middle, effect, same, executed, later⟩ := toEnd_cons ends
  cases executed with
  | staged ran =>
    cases ran with
    | completed =>
      simp only [complete] at later
      split at later
      · obtain ⟨choice', middle', effect', same', executed', later'⟩ := toEnd_cons later
        cases executed' with
        | staged ran =>
          cases ran with
          | sent =>
            refine ⟨_, ?_, later'⟩
            exact same'.trans same
      · refine ⟨_, ?_, later⟩
        exact same

theorem setRoom_found (new : Room) (found : core.heap[ptr]? = some room) :
    (core.setRoom ptr new).heap[ptr]? = some new := by
  rw [Core.setRoom, heap_get_set found, if_pos rfl]

theorem callback_found {call : Callback} (found : core.heap[ptr]? = some room)
    (called : core.callback ptr call = some after) :
    ∃ told, room.callback call = some told ∧ after.heap[ptr]? = some told := by
  simp only [Core.callback, found, Option.bind_eq_bind, Option.bind_some] at called
  obtain ⟨told, calls, same⟩ := Option.bind_eq_some_iff.mp called
  cases same
  exact ⟨told, calls, setRoom_found told found⟩

theorem refused_found {response : ToUser} (found : core.heap[ptr]? = some room)
    (ends : ToEnd ptr [.handle request (.complete response)] core after) : after.heap[ptr]? = some room := by
  obtain ⟨next, kept, later⟩ := toEnd_complete ends
  rw [toEnd_nil later, kept, found]

theorem join_performed {response : User2RoomResJoinRoom} (found : core.heap[ptr]? = some room)
    (ends : ToEnd ptr [.handle request (.joinRoom ptr uid response)] core after) :
    ∃ begun performed, room.perform (.join uid request.destination begun) = some performed ∧
      after.heap[ptr]? = some performed := by
  obtain ⟨choice, middle, effect, same, executed, later⟩ := toEnd_cons ends
  rw [found] at same
  cases executed with
  | staged ran =>
    cases ran with
    | joinLate late => exact ⟨false, room, rfl, refused_found same later⟩
    | joinClosed queued here closed =>
      cases same.symm.trans here
      have started : (middle.start request).1.heap[ptr]? = some room := same
      exact ⟨true, room, by simp [Room.perform, Room.join, closed], refused_found started later⟩
    | joinEntered queued here isOpen =>
      cases same.symm.trans here
      have started : (middle.start request).1.heap[ptr]? = some room := same
      have entered := setRoom_found { room with users := room.users.insert uid ⟨uid, request.destination⟩ } started
      obtain ⟨choice, second, effect, same, executed, later⟩ := toEnd_cons later
      cases executed with
      | staged ran =>
        cases ran with
        | joined =>
          obtain ⟨third, kept, later⟩ := toEnd_complete later
          have joined := kept.trans (same.trans entered)
          cases present : room.users.contains uid with
          | true =>
            rw [present] at later
            refine ⟨true, { room with users := room.users.insert uid ⟨uid, request.destination⟩ }, ?_, ?_⟩
            · simp [Room.perform, Room.join, isOpen, present]
            · exact (toEnd_nil later).trans joined
          | false =>
            rw [present] at later
            obtain ⟨choice, fourth, effect, same, executed, later⟩ := toEnd_cons later
            cases executed with
            | staged ran =>
              cases ran with
              | enterNotified called =>
                obtain ⟨told, calls, stored⟩ := callback_found (same.trans joined) called
                refine ⟨true, told, ?_, (toEnd_nil later).trans stored⟩
                simpa [Room.perform, Room.join, isOpen, present] using calls

theorem onEmpty_found (found : core.heap[ptr]? = some room)
    (ends : ToEnd ptr [.handle request (.onEmpty ptr)] core after) :
    ∃ closes, after.heap[ptr]? = some (if closes = true then room.closeImpl else room) := by
  obtain ⟨choice, middle, effect, same, executed, later⟩ := toEnd_cons ends
  rw [found] at same
  cases executed with
  | staged ran =>
    cases ran with
    | emptied here registered =>
      obtain ⟨choice, next, effect, kept, executed, later⟩ := toEnd_cons later
      cases executed with
      | staged ran =>
        cases ran with
        | closed there =>
          cases (kept.trans same).symm.trans there
          exact ⟨true, (toEnd_nil later).trans (setRoom_found _ there)⟩
    | emptyStale here stale => exact ⟨false, (toEnd_nil later).trans same⟩

theorem leave_performed {response : User2RoomResLeaveRoom} (found : core.heap[ptr]? = some room)
    (ends : ToEnd ptr [.handle request (.leaveRoom ptr uid response)] core after) :
    ∃ begun closes performed, room.perform (.leave uid begun closes) = some performed ∧
      after.heap[ptr]? = some performed := by
  obtain ⟨choice, middle, effect, same, executed, later⟩ := toEnd_cons ends
  rw [found] at same
  cases executed with
  | staged ran =>
    cases ran with
    | leaveLate late => exact ⟨false, false, room, rfl, refused_found same later⟩
    | leaveRefused queued here refused =>
      cases same.symm.trans here
      have started : (middle.start request).1.heap[ptr]? = some room := same
      have unleft : room.leave uid = none := if_pos refused
      exact ⟨true, false, room, by simp [Room.perform, unleft], refused_found started later⟩
    | leaveExited queued here isOpen present =>
      cases same.symm.trans here
      have started : (middle.start request).1.heap[ptr]? = some room := same
      have exited := setRoom_found { room with users := room.users.erase uid } started
      have leaves : room.leave uid =
          some ({ room with users := room.users.erase uid }, (room.users.erase uid).isEmpty) :=
        if_neg (by simpa [isOpen] using present)
      obtain ⟨choice, second, effect, same, executed, later⟩ := toEnd_cons later
      cases executed with
      | staged ran =>
        cases ran with
        | left =>
          obtain ⟨third, kept, later⟩ := toEnd_complete later
          have left := kept.trans (same.trans exited)
          obtain ⟨choice, fourth, effect, same, executed, later⟩ := toEnd_cons later
          cases executed with
          | staged ran =>
            cases ran with
            | exitNotified called =>
              obtain ⟨told, calls, stored⟩ := callback_found (same.trans left) called
              cases empty : (room.users.erase uid).isEmpty with
              | true =>
                rw [empty] at later
                obtain ⟨closes, closed⟩ := onEmpty_found stored later
                refine ⟨true, closes, _, ?_, closed⟩
                simp [Room.perform, leaves, empty, calls]
              | false =>
                rw [empty] at later
                refine ⟨true, false, told, ?_, (toEnd_nil later).trans stored⟩
                simp [Room.perform, leaves, empty, calls]

theorem kickOut_performed {reason : KickoutReason} (found : core.heap[ptr]? = some room)
    (ends : ToEnd ptr [.kickOutUserImpl ptr uid reason] core after) :
    ∃ performed, room.perform (.kickOut uid reason) = some performed ∧ after.heap[ptr]? = some performed := by
  obtain ⟨choice, middle, effect, same, executed, later⟩ := toEnd_cons ends
  rw [found] at same
  cases executed with
  | kickAbsent here absent =>
    cases same.symm.trans here
    exact ⟨room, by simp [Room.perform, absent], (toEnd_nil later).trans same⟩
  | kickPresent here present =>
    cases same.symm.trans here
    obtain ⟨choice, second, effect, kept, executed, later⟩ := toEnd_cons later
    cases executed with
    | notified =>
      obtain ⟨choice, third, effect, kept', executed, later⟩ := toEnd_cons later
      have unsent : third.heap[ptr]? = some room := kept'.trans (kept.trans same)
      cases executed with
      | kicked there contents =>
        cases unsent.symm.trans there
        refine ⟨_, ?_, (toEnd_nil later).trans (setRoom_found _ there)⟩
        simp [Room.perform, present, Room.callback, contents]

end Items

/-- A join, a leave and a kick-out take several items, between which other threads move. Run to its end,
each changes its room as one task does. -/
theorem items_perform_tasks {core after : Core} {ptr : RoomPtr} {room : Room} (found : core.heap[ptr]? = some room)
    (uid : Uid) :
    (∀ request response, ToEnd ptr [.handle request (.joinRoom ptr uid response)] core after → ∃ begun performed,
      room.perform (.join uid request.destination begun) = some performed ∧ after.heap[ptr]? = some performed) ∧
    (∀ request response, ToEnd ptr [.handle request (.leaveRoom ptr uid response)] core after →
      ∃ begun closes performed,
        room.perform (.leave uid begun closes) = some performed ∧ after.heap[ptr]? = some performed) ∧
    ∀ reason, ToEnd ptr [.kickOutUserImpl ptr uid reason] core after →
      ∃ performed, room.perform (.kickOut uid reason) = some performed ∧ after.heap[ptr]? = some performed :=
  ⟨fun _ _ => join_performed found, fun _ _ => leave_performed found, fun _ => kickOut_performed found⟩

theorem items_perform_tasks_kickOut :
    ∃ performed, (Room.opened 1 ⟨"alice", "u"⟩ 0).perform (.kickOut "alice" .kRoomOwner) = some performed ∧
      performed.users = ∅ := by
  have ends : ToEnd 0 [.kickOutUserImpl 0 "alice" .kRoomOwner] { heap := [Room.opened 1 ⟨"alice", "u"⟩ 0] } _ :=
    @ToEnd.item 0 {} _ _ _ _ _ _ rfl rfl (@ToEnd.item 0 {} _ _ _ _ _ _ rfl rfl
      (@ToEnd.item 0 {} _ _ _ _ _ _ rfl rfl (.done rfl)))
  obtain ⟨performed, performs, same⟩ := (items_perform_tasks rfl "alice").2.2 .kRoomOwner ends
  exact ⟨performed, performs, Option.some.inj same ▸ by decide⟩

end Rsp.RoomServer
