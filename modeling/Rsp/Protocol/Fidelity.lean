import Rsp.Client.View
import Rsp.Protocol.Order

/-! From a call of the contents to what the client decodes.

Room puts what the contents ask for into a notification, a job of the User server copies the
notification into a frame of the client's schema, and the client reads the frame back. The
texts of the contents survive both copies. The reason of a kick-out is lost in the second.
-/

set_option autoImplicit false

namespace Rsp.Protocol

open Message Foundation
open RoomServer (Room RoomPtr User ApiCall)
open UserServer (SessionPtr JobKind JobPtr)

def Notifies (item : RoomServer.Task) (user : User) (notification : ToUser) : Prop :=
  ∃ type, ∀ choice core,
    RoomServer.exec choice item core = some { core := core.send ⟨user.route, type, notification⟩ }

/-- The User server bridges a notification to a frame. It passes a job on to the session of the
uid, and the job sends the frame to that session, whatever else the server is doing. -/
structure Bridges (notification : ToUser) (uid : Uid) (kind : JobKind) (frame : ToClient) : Prop where
  passed : ∀ now core,
    UserServer.exec now (.onRecv notification) core = some (UserServer.passToSession uid kind core)
  made : ∀ now core session, UserServer.exec now (.notify session kind) core = some (core.enqueueJob session kind)
  sends : ∀ now (core : UserServer.Core) (ptr : JobPtr) job session, core.jobs[ptr]? = some job → job.kind = kind →
    core.sessions[job.session]? = some session →
      ∃ effect, UserServer.exec now (.run ptr) core = some effect ∧
        effect.core.sent = core.sent ++ [(job.session, frame)]

/-- What the client of a member decodes of the notification an item of Room sends. -/
def Arrives (room : Room) (item : RoomServer.Task) (uid : Uid) (decoded : Client.Received) : Prop :=
  ∃ user notification kind frame, room.users[uid]? = some user ∧ Notifies item user notification ∧
    Bridges notification uid kind frame ∧ Client.received frame = decoded

/-! ## The bridge -/

theorem complete_sends {core : UserServer.Core} {ptr : JobPtr} {job : UserServer.Job} {session : UserServer.Session}
    (made : core.jobs[ptr]? = some job) (owned : core.sessions[job.session]? = some session) :
    ∃ effect, core.complete ptr = some effect ∧ effect.core.sent = core.sent := by
  simp only [UserServer.Core.complete, made, Option.bind_eq_bind, Option.bind_some]
  split
  · exact ⟨_, rfl, rfl⟩
  · rw [owned]
    exact ⟨_, rfl, rfl⟩

theorem bridges_forward (message : User2RoomFwdClient) :
    Bridges (.fwdClient message) message.uid (.cliForwardMessage message) (UserServer.fwdClient message) where
  passed _ _ := rfl
  made _ _ _ := rfl
  sends now core ptr job session made kind owned := by
    simp only [UserServer.exec, UserServer.run, made, owned, kind, Option.bind_eq_bind, Option.bind_some]
    have kept : (core.send job.session (UserServer.fwdClient message)).jobs[ptr]? = some job := made
    exact complete_sends kept owned

/-- The frame of a leave has room for the reason of a kick-out, and the job leaves it empty. -/
theorem bridges_leave (notification : User2RoomNtfLeaveRoom) :
    Bridges (.ntfLeaveRoom notification) notification.uid (.ntfLeaveRoomMessage notification)
      (.ntfLeaveRoom { reason := notification.reason }) where
  passed _ _ := rfl
  made _ _ _ := rfl
  sends now core ptr job session made kind owned := by
    simp only [UserServer.exec, UserServer.run, made, owned, kind, Option.bind_eq_bind, Option.bind_some]
    have stored : ((core.send job.session (.ntfLeaveRoom { reason := notification.reason })).setSession job.session
        { session with roomId := 0 }).sessions[job.session]? = some { session with roomId := 0 } := by
      simp only [UserServer.Core.setSession, UserServer.Core.send]
      exact List.getElem?_set_self (List.getElem?_eq_some_iff.mp owned).1
    exact complete_sends made stored

/-! ## Calls -/

theorem findUsers_members {room : Room} {uids : List Uid} (members : ∀ uid ∈ uids, uid ∈ room.users) :
    ∃ users, room.findUsers uids = some users ∧
      List.Forall₂ (fun uid user => room.users[uid]? = some user) uids users := by
  have found : List.Forall₂ (fun uid user => room.users[uid]? = some user) uids
      (uids.filterMap fun uid => room.users[uid]?) := by
    induction uids with
    | nil => exact .nil
    | cons uid rest ih =>
      have present := Std.ExtTreeMap.getElem?_eq_some_getElem (members uid (by simp))
      rw [List.filterMap_cons, present]
      exact .cons present (ih fun other mem => members other (by simp [mem]))
  refine ⟨_, ?_, found⟩
  rw [Room.findUsers, if_neg]
  simpa using found.length_eq

/-- The client of a member that is kicked out is told that it was kicked out, and not why. -/
theorem kickout_arrives {core : RoomServer.Core} {ptr : RoomPtr} {room : Room} {uid : Uid} (reason : KickoutReason)
    (present : core.heap[ptr]? = some room) (member : uid ∈ room.users) (choice : RoomServer.Choice) :
    ∃ item rest, RoomServer.exec choice (.kickOutUserImpl ptr uid reason) core = some { core, next := item :: rest } ∧
      Arrives room item uid (.ntfLeaveRoom (some { reason := .kKickedOut, kickoutReason := none })) := by
  have stored := Std.ExtTreeMap.getElem?_eq_some_getElem member
  simp only [RoomServer.exec, RoomServer.kickOutUserImpl, present, stored, Option.bind_eq_bind, Option.bind_some]
  exact ⟨_, _, rfl, _, _, _, _, stored, ⟨_, fun _ _ => rfl⟩, bridges_leave _, rfl⟩

/-- A text the contents send to members of a room is decoded by the client of each, in the order
listed, with the sender type, the sender, the recipient and the text it was sent with. A kick-out
arrives as one, and its reason never does. -/
theorem forwards_arrive {history : RoomServer.History} {state : RoomServer.State}
    (reached : RoomServer.Reaches history state) {ptr : RoomPtr} {room : Room}
    (created : state.core.heap[ptr]? = some room) {uids : List Uid} (message : String)
    (members : ∀ uid ∈ uids, uid ∈ room.users) :
    (∃ task, RoomServer.apiTask ptr room (.sendToUser uids message) = some task ∧
      ∀ choice core, ∃ items, RoomServer.exec choice task core = some { core, next := items } ∧
        List.Forall₂ (fun uid item => Arrives room item uid
          (.fwdClient (some { senderType := .kContent, senderUid := "", uid, message }))) uids items) ∧
    ∀ uid reason, ∃ task, RoomServer.apiTask ptr room (.kickOutUser uid reason) = some task ∧
      ∀ choice (core : RoomServer.Core) present, core.heap[ptr]? = some present → uid ∈ present.users →
        ∃ item rest, RoomServer.exec choice task core = some { core, next := item :: rest } ∧
          Arrives present item uid (.ntfLeaveRoom (some { reason := .kKickedOut, kickoutReason := none })) := by
  refine ⟨?_, fun uid reason => ⟨.kickOutUserImpl ptr uid reason, rfl, fun choice core present stands member =>
    kickout_arrives reason stands member choice⟩⟩
  have named := RoomServer.named_reached reached ptr room.membership (RoomServer.found_membership created)
  obtain ⟨users, asked, found⟩ := findUsers_members members
  refine ⟨.sendToUserImpl users message, by simp [RoomServer.apiTask, asked], fun choice core => ⟨_, rfl, ?_⟩⟩
  clear asked members
  induction found with
  | nil => exact .nil
  | @cons uid user _ _ present _ ih =>
    -- The notification names the recipient by the uid of the entry, which is the key it is stored under.
    cases named uid user present
    exact .cons ⟨user, _, _, _, present, ⟨_, fun _ _ => rfl⟩, bridges_forward _, rfl⟩ ih

def aliceAndBob : List RoomServer.Label :=
  RoomServer.handled "u" (.reqCreateRoom { requestId := 1, uid := "alice" }) 10000 5 ++
    ([.run (.strand 0) {}] : List RoomServer.Label) ++
    RoomServer.handled "v" (.reqJoinRoom { requestId := 1, uid := "bob", roomId := 10000 }) 10000 2 ++
    (List.replicate 5 (.run (.strand 0) {}) : List RoomServer.Label)

theorem forwards_arrive_alice :
    ∃ task room, RoomServer.apiTask 0 room (.sendToUser ["bob", "alice"] "welcome") = some task ∧
      ∀ choice core, ∃ items, RoomServer.exec choice task core = some { core, next := items } ∧
        List.Forall₂ (fun uid item => Arrives room item uid
          (.fwdClient (some { senderType := .kContent, senderUid := "", uid, message := "welcome" })))
          ["bob", "alice"] items := by
  have reached : RoomServer.Reaches (transitions RoomServer.step RoomServer.initial aliceAndBob)
      (final RoomServer.step RoomServer.initial aliceAndBob) := run_of_enabled (by decide +kernel)
  have present : ((final RoomServer.step RoomServer.initial aliceAndBob).core.heap[0]?).any
      (fun room => room.users.contains "bob" && room.users.contains "alice") = true := by decide +kernel
  obtain ⟨room, created, both⟩ := Option.any_eq_true _ _ |>.mp present
  have members : ∀ uid ∈ ["bob", "alice"], uid ∈ room.users := by simpa using both
  obtain ⟨task, known, arrive⟩ := (forwards_arrive reached created "welcome" members).1
  exact ⟨task, room, known, arrive⟩

def kicking : List Label :=
  onRoute "u" asksForRoom ++ .toHub "u" false ::
  atRoom [.run .router {}, .run .router {}, .run .router {}, .run .router {}, .run .router {}, .run (.strand 0) {},
    .api 0 (.kickOutUser "alice" .kRoomOwner), .run (.strand 0) {}, .run (.strand 0) {}] ++
  .toSpoke "u" false :: onRoute "u" [.run .dealer 0, .run .dealer 0, .run (.strand 0) 0] ++
  .toSpoke "u" false :: onRoute "u" [.run .dealer 0, .run .dealer 0, .run (.strand 0) 0, .run (.strand 0) 0]

/-- Room sends the reason of the kick-out, and the frame the client decodes has none. -/
theorem kickout_reason_lost :
    (execute system.step initial kicking).isSome = true ∧
      (sentTo (final system.step initial kicking).hub "u").getLast? =
        some (.ntfLeaveRoom { uid := "alice", reason := .kKickedOut, kickoutReason := some KickoutReason.kRoomOwner.value }) ∧
      (((final system.step initial kicking).spoke "u").core.given 0).map Client.received =
        [.ntfLeaveRoom (some { reason := .kKickedOut, kickoutReason := none })] := by
  decide +kernel

end Rsp.Protocol
