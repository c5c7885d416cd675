import Rsp.Protocol.System

/-! The members of a room agree on the order of its messages.

A broadcast crosses the room's strand, the channel, the dealer thread, the session's strand
and its scheduler. Each of these keeps the order of what it lets through, so what a
connection is given of a room's broadcasts is a part of one sequence, the broadcasts in
the order in which the room posted them.
-/

set_option autoImplicit false

namespace Rsp.Protocol

open Message Foundation
open RoomServer (Broadcast Copy RoomPtr copies posted AsksOnce)
open UserServer (SessionPtr Passed passed fwdClient)
open scoped List

/-- Where a message of the contents in a client's frame comes from: a broadcast of a room,
or a frame of Room's that a client sent. -/
inductive Origin where
  | posted (copy : Copy)
  | injected (message : User2RoomFwdClient)
  deriving DecidableEq, Repr

namespace Origin

def frame : Origin → ToClient
  | .posted copy => fwdClient { senderType := .kContent, uid := copy.user.uid, message := copy.post.1.message }
  | .injected message => fwdClient message

def copy : Origin → Option Copy
  | .posted copy => some copy
  | .injected _ => none

end Origin

def isForward : ToClient → Bool
  | .fwdClient _ => true
  | _ => false

def forwarded (core : UserServer.Core) (session : SessionPtr) : List ToClient :=
  (core.sent.filter fun entry => entry.1 = session ∧ isForward entry.2).map Prod.snd

theorem forwarded_eq (core : UserServer.Core) (session : SessionPtr) :
    forwarded core session = (core.given session).filter isForward := by
  rw [forwarded, UserServer.Core.given, List.filter_map, List.filter_filter]
  congr 1
  apply List.filter_congr
  intro entry _
  obtain ⟨owner, frame⟩ := entry
  cases frame <;> simp [isForward, UserServer.isNotice]

def broadcastsOf (room : RoomPtr) (history : History) : List (Broadcast × Nat) :=
  (posted (roomMoves history)).filter fun post => post.1.room = room

structure Member where
  route : RoutingId
  session : SessionPtr
  uid : Uid
  deriving DecidableEq, Repr

def ofRoom (room : RoomPtr) (uid : Uid) (origins : List Origin) : List (Broadcast × Nat) :=
  ((origins.filterMap Origin.copy).filter fun copy => copy.post.1.room = room ∧ copy.user.uid = uid).map Copy.post

theorem ofRoom_length {room : RoomPtr} {uid : Uid} {origins : List Origin}
    (own : ∀ origin ∈ origins, ∃ copy, origin = .posted copy ∧ copy.post.1.room = room ∧ copy.user.uid = uid) :
    (ofRoom room uid origins).length = origins.length := by
  induction origins with
  | nil => rfl
  | cons origin rest ih =>
    obtain ⟨copy, rfl, here, named⟩ := own origin (List.mem_cons_self ..)
    have rest := ih fun other mem => own other (List.mem_cons_of_mem _ mem)
    simpa [ofRoom, Origin.copy, here, named] using rest

section Trace

variable {history : History} {state : State}

theorem copies_on_route {read : List Copy}
    (same : read.map Copy.frame = state.hub.core.outgoing.filter fun frame => frame.message.forward.isSome)
    (route : RoutingId) :
    ((sentTo state.hub route).filter fun message => message.forward.isSome) =
      (read.filter fun copy => copy.user.route = route).map fun copy => copy.frame.message := by
  rw [sentTo, List.filter_map, List.filter_filter]
  have swapped : (state.hub.core.outgoing.filter fun frame =>
      ((fun message : ToUser => message.forward.isSome) ∘ RoomServer.Outgoing.message) frame &&
        decide (frame.destination = route)) =
      (read.map Copy.frame).filter fun frame => frame.destination = route := by
    rw [same, List.filter_filter]
    apply List.filter_congr
    intro frame _
    simp [Bool.and_comm]
  rw [swapped, List.filter_map, List.map_map]
  rfl

def dealt (told : Passed) : Bool :=
  told.thread = .dealer && (told.kind.source.bind ToUser.forward).isSome

theorem exists_passed {read : List Copy} (run : Reaches history state)
    (same : read.map Copy.frame = state.hub.core.outgoing.filter fun frame => frame.message.forward.isSome)
    (route : RoutingId) :
    ∃ labels : List (Passed × Option Copy), labels.map Prod.fst = passed (userMoves route history) ∧
      labels.filterMap Prod.snd <+ (read.filter fun copy => copy.user.route = route) ∧
      ∀ label ∈ labels, (label.2 = none ∧ dealt label.1 = false) ∨
        ∃ copy, label.2 = some copy ∧ label.1.kind.source = some copy.frame.message := by
  have passing := UserServer.passing_reached (user_reached route run)
  have sources : ((passed (userMoves route history)).filter fun told => told.thread = .dealer).filterMap
      (·.kind.source) <+ sentTo state.hub route :=
    ((List.sublist_append_left _ _).trans passing.dealt).trans (delivered_sublist route run)
  have narrowed := sources.filter fun message => message.forward.isSome
  rw [copies_on_route same route] at narrowed
  obtain ⟨mine, part, carries⟩ := List.sublist_map_iff.mp narrowed
  have shown : ((passed (userMoves route history)).filter dealt).map (·.kind.source) =
      mine.map fun copy => some copy.frame.message := by
    have carried : ((((passed (userMoves route history)).filter fun told => told.thread = .dealer).filterMap
        (·.kind.source)).filter fun message => message.forward.isSome).map some =
          ((passed (userMoves route history)).filter dealt).map (·.kind.source) := by
      generalize passed (userMoves route history) = list
      induction list with
      | nil => rfl
      | cons told rest ih =>
        by_cases here : told.thread = .dealer
        · cases source : told.kind.source with
          | none => simpa [here, source, dealt] using ih
          | some message =>
            cases forward : message.forward <;> simpa [here, source, dealt, forward] using ih
        · simpa [here, dealt] using ih
    rw [← carried, carries, List.map_map]
    rfl
  obtain ⟨labels, entries, labelled, carry⟩ := exists_labels dealt (fun told => told.kind.source)
    (fun copy : Copy => some copy.frame.message) shown
  exact ⟨labels, entries, labelled ▸ part, carry⟩

def originOf (session : SessionPtr) (label : Passed × Option Copy) : Option Origin :=
  match label.1.kind with
  | .cliForwardMessage message =>
      if label.1.session = session then some ((label.2.map Origin.posted).getD (.injected message)) else none
  | _ => none

theorem originOf_frame {label : Passed × Option Copy} (session : SessionPtr)
    (carry : (label.2 = none ∧ dealt label.1 = false) ∨
      ∃ copy, label.2 = some copy ∧ label.1.kind.source = some copy.frame.message) :
    (UserServer.Core.noticeFor session (.make label.1.session label.1.kind)).filter isForward =
      (originOf session label).map Origin.frame := by
  obtain ⟨⟨thread, owner, kind⟩, copied⟩ := label
  by_cases here : owner = session
  · cases kind with
    | cliForwardMessage message =>
      rcases carry with ⟨none, -⟩ | ⟨copy, some, source⟩
      · cases none
        simp [originOf, UserServer.Core.noticeFor, UserServer.Record.make, here, UserServer.JobKind.notice, isForward,
          fwdClient, Origin.frame]
      · cases some
        cases source
        simp [originOf, UserServer.Core.noticeFor, UserServer.Record.make, here, UserServer.JobKind.notice, isForward,
          fwdClient, Origin.frame]
    | _ =>
      simp [originOf, UserServer.Core.noticeFor, UserServer.Record.make, here, UserServer.JobKind.notice, isForward]
  · cases kind <;> simp [originOf, UserServer.Core.noticeFor, UserServer.Record.make, here]

theorem originOf_copy (session : SessionPtr) (labels : List (Passed × Option Copy)) :
    (labels.filterMap (originOf session)).filterMap Origin.copy <+ labels.filterMap Prod.snd := by
  induction labels with
  | nil => exact List.Sublist.slnil
  | cons label rest ih =>
    obtain ⟨⟨thread, owner, kind⟩, copied⟩ := label
    have longer := ih.trans (List.sublist_append_right copied.toList (rest.filterMap Prod.snd))
    have shown : (((⟨thread, owner, kind⟩, copied) : Passed × Option Copy) :: rest).filterMap Prod.snd =
        copied.toList ++ rest.filterMap Prod.snd := by
      cases copied <;> rfl
    rw [shown, List.filterMap_cons]
    split
    · exact longer
    · next origin made =>
      -- A message passed on to the session is its copy, or comes from a client.
      have same : origin.copy = copied := by
        cases kind <;> simp only [originOf] at made <;> try cases made
        split at made
        · cases made
          cases copied <;> rfl
        · cases made
      rw [List.filterMap_cons, same]
      cases copied with
      | none => exact longer
      | some copy => exact ih.cons_cons copy

/-- Every message of the contents a connection was given comes from a broadcast or from a client, and the
broadcasts among them are in the order in which Room sent the copies. -/
theorem exists_origins {read : List Copy} (run : Reaches history state)
    (same : read.map Copy.frame = state.hub.core.outgoing.filter fun frame => frame.message.forward.isSome)
    (route : RoutingId) (session : SessionPtr) :
    ∃ origins : List Origin, forwarded (state.spoke route).core session = origins.map Origin.frame ∧
      origins.filterMap Origin.copy <+ (read.filter fun copy => copy.user.route = route) ∧
      ∀ message, .injected message ∈ origins →
        UserServer.Injected (userMoves route history) (.fwdClient message) := by
  obtain ⟨labels, entries, part, carry⟩ := exists_passed run same route
  have passing := UserServer.passing_reached (user_reached route run)
  have traced : ((state.spoke route).core.notices session).filter isForward =
      (labels.filterMap (originOf session)).map Origin.frame := by
    rw [passing.made session, ← entries, List.filterMap_map, List.filter_filterMap, List.map_filterMap]
    apply List.filterMap_congr
    intro label mem
    exact originOf_frame session (carry label mem)
  have given := (UserServer.given_in_order (user_reached route run) session).filter isForward
  rw [traced, ← forwarded_eq] at given
  obtain ⟨origins, within, frames⟩ := List.sublist_map_iff.mp given
  refine ⟨origins, frames, ?_, fun message mem => ?_⟩
  · exact ((within.filterMap Origin.copy).trans (originOf_copy session labels)).trans part
  · obtain ⟨⟨⟨thread, owner, kind⟩, copied⟩, known, made⟩ := List.mem_filterMap.mp (within.subset mem)
    -- only a forward has an origin
    cases kind <;> simp only [originOf] at made <;> try cases made
    split at made
    · cases copied with
      | some copy => cases made
      | none =>
        cases made
        -- what the dealer took off the link carries the copy it came from
        have elsewhere : thread ≠ .dealer := by
          rintro rfl
          rcases carry _ known with ⟨-, undealt⟩ | ⟨copy, some, -⟩
          · simp [dealt, UserServer.JobKind.source, ToUser.forward] at undealt
          · cases some
        have told : (⟨thread, owner, .cliForwardMessage message⟩ : Passed) ∈ passed (userMoves route history) := by
          rw [← entries]
          exact List.mem_map_of_mem known
        exact passing.told _ told elsewhere _ rfl
    · cases made

end Trace

/-- In every run in which each broadcast asks for a user once: the messages of the contents
that the connections are given can be traced to the broadcasts, so that every member of a
room is given a part of its broadcasts, in the order in which the room posted them and none
twice, and any two members are given those they share in the same order. -/
theorem members_agree_on_order {history : History} {state : State} (run : Reaches history state)
    (once : ∀ move ∈ roomMoves history, AsksOnce move) :
    ∃ received : RoutingId → SessionPtr → List Origin,
      (∀ route session, forwarded (state.spoke route).core session = (received route session).map Origin.frame) ∧
      (∀ route session copy, .posted copy ∈ received route session →
        copy ∈ copies (roomMoves history) ∧ copy.user.route = route) ∧
      (∀ route session message, .injected message ∈ received route session →
        UserServer.Injected (userMoves route history) (.fwdClient message)) ∧
      ∀ room, (broadcastsOf room history).Nodup ∧
        (∀ member : Member, ofRoom room member.uid (received member.route member.session) <+ broadcastsOf room history) ∧
        ∀ member other : Member, ∀ first second,
          [first, second] <+ ofRoom room member.uid (received member.route member.session) →
          first ∈ ofRoom room other.uid (received other.route other.session) →
          second ∈ ofRoom room other.uid (received other.route other.session) →
          [first, second] <+ ofRoom room other.uid (received other.route other.session) := by
  obtain ⟨read, same, known, ordered⟩ := RoomServer.sent_in_order (room_reached run) once
  have traced := fun route session => exists_origins run same route session
  choose received frames parts injected using traced
  have nodup : ∀ room, (broadcastsOf room history).Nodup := fun room =>
    (RoomServer.posted_nodup (roomMoves history)).filter _
  have sublists : ∀ room (member : Member),
      ofRoom room member.uid (received member.route member.session) <+ broadcastsOf room history := by
    intro room member
    refine List.Sublist.trans ?_ (ordered room member.uid)
    exact (((parts member.route member.session).trans List.filter_sublist).filter _).map _
  refine ⟨received, frames, fun route session copy mem => ?_, injected, fun room => ⟨nodup room, sublists room, ?_⟩⟩
  · have sent := (parts route session).subset (List.mem_filterMap.mpr ⟨.posted copy, mem, rfl⟩)
    obtain ⟨sent, here⟩ := List.mem_filter.mp sent
    exact ⟨known copy sent, by simpa using here⟩
  · intro member other first second before hasFirst hasSecond
    exact same_order (nodup room) (before.trans (sublists room member)) (sublists room other) hasFirst hasSecond

def atRoom (labels : List RoomServer.Label) : List Label := labels.map .hub

def onRoute (route : RoutingId) (labels : List UserServer.Label) : List Label := labels.map (.spoke route)

def asksForRoom : List UserServer.Label :=
  [.accept, .receive 0 (.session (.reqLogin { uid := "alice" })), .run (.conn 0) 0, .run (.strand 0) 0,
    .run (.strand 0) 0, .run (.strand 0) 0, .receive 0 (.session (.reqCreateRoom {})), .run (.conn 0) 0,
    .run (.strand 0) 0, .run (.strand 0) 0, .run (.strand 0) 0, .run (.strand 0) 0]

def asksToJoin : List UserServer.Label :=
  [.accept, .receive 0 (.session (.reqLogin { uid := "bob" })), .run (.conn 0) 0, .run (.strand 0) 0,
    .run (.strand 0) 0, .run (.strand 0) 0, .receive 0 (.session (.reqJoinRoom { roomId := 10000 })), .run (.conn 0) 0,
    .run (.strand 0) 0, .run (.strand 0) 0, .run (.strand 0) 0, .run (.strand 0) 0]

def joinsAndTalks : List RoomServer.Label :=
  (List.replicate 2 (.run .router {}) : List RoomServer.Label) ++
    (List.replicate 5 (.run (.strand 0) {}) : List RoomServer.Label) ++
    ([.api 0 (.sendToUser ["alice", "bob"] "one"), .api 0 (.sendToUser ["bob", "alice"] "two")] :
      List RoomServer.Label) ++
    (List.replicate 6 (.run (.strand 0) {}) : List RoomServer.Label)

def passesOn (route : RoutingId) (items : Nat) : List Label :=
  .toSpoke route false :: onRoute route ([.run .dealer 0, .run .dealer 0] ++ List.replicate items (.run (.strand 0) 0))

def talking : List Label :=
  onRoute "u" asksForRoom ++
  .toHub "u" false :: atRoom (List.replicate 5 (.run .router {}) ++ [.run (.strand 0) {}]) ++
  onRoute "v" asksToJoin ++ .toHub "v" false :: atRoom joinsAndTalks ++
  passesOn "u" 1 ++ passesOn "v" 1 ++ passesOn "u" 2 ++ passesOn "v" 2 ++ passesOn "v" 2 ++ passesOn "u" 2

theorem members_agree_on_order_talking :
    ∃ received : RoutingId → SessionPtr → List Origin,
      (received "u" 0).map Origin.frame =
        [fwdClient { uid := "alice", message := "one" }, fwdClient { uid := "alice", message := "two" }] ∧
      (received "v" 0).map Origin.frame =
        [fwdClient { uid := "bob", message := "one" }, fwdClient { uid := "bob", message := "two" }] ∧
      broadcastsOf 0 (transitions system.step initial talking) =
        [(⟨0, 0, [⟨"alice", "u"⟩, ⟨"bob", "v"⟩], "one"⟩, 0), (⟨0, 0, [⟨"bob", "v"⟩, ⟨"alice", "u"⟩], "two"⟩, 1)] ∧
      ofRoom 0 "alice" (received "u" 0) = broadcastsOf 0 (transitions system.step initial talking) ∧
      ofRoom 0 "bob" (received "v" 0) = broadcastsOf 0 (transitions system.step initial talking) := by
  have run : Reaches (transitions system.step initial talking) (final system.step initial talking) :=
    run_of_enabled (by decide +kernel)
  have once : ∀ move ∈ roomMoves (transitions system.step initial talking), AsksOnce move := by decide +kernel
  have sent : ∀ copy ∈ copies (roomMoves (transitions system.step initial talking)), copy.post.1.room = 0 ∧
      copy.user ∈ [⟨"alice", "u"⟩, ⟨"bob", "v"⟩] := by decide +kernel
  have forwards : forwarded ((final system.step initial talking).spoke "u").core 0 =
        [fwdClient { uid := "alice", message := "one" }, fwdClient { uid := "alice", message := "two" }] ∧
      forwarded ((final system.step initial talking).spoke "v").core 0 =
        [fwdClient { uid := "bob", message := "one" }, fwdClient { uid := "bob", message := "two" }] := by decide +kernel
  have both : (broadcastsOf 0 (transitions system.step initial talking)).length = 2 := by decide +kernel
  obtain ⟨received, frames, known, injected, agree⟩ := members_agree_on_order run once
  have genuine : ∀ route, route = "u" ∨ route = "v" → ∀ origin ∈ received route 0, ∃ copy, origin = .posted copy := by
    intro route here origin mem
    cases origin with
    | posted copy => exact ⟨copy, rfl⟩
    | injected message =>
      obtain ⟨move, moved, conn, label⟩ := injected route 0 message mem
      have none : ∀ route ∈ ["u", "v"], ∀ move ∈ userMoves route (transitions system.step initial talking),
          (match move.label with | .receive _ (.room _) => false | _ => true) = true := by decide +kernel
      have quiet := none route (by simpa using here) move moved
      simp [label] at quiet
  refine ⟨received, frames "u" 0 ▸ forwards.1, frames "v" 0 ▸ forwards.2, by decide +kernel, ?_, ?_⟩
  · apply ((agree 0).2.1 ⟨"u", 0, "alice"⟩).eq_of_length
    rw [both, ofRoom_length]
    · simpa using congrArg List.length ((frames "u" 0).symm.trans forwards.1)
    · intro origin mem
      obtain ⟨copy, rfl⟩ := genuine "u" (.inl rfl) origin mem
      obtain ⟨made, route⟩ := known "u" 0 copy mem
      obtain ⟨room, user⟩ := sent copy made
      refine ⟨copy, rfl, room, ?_⟩
      rcases List.mem_pair.mp user with same | same <;> simp_all
  · apply ((agree 0).2.1 ⟨"v", 0, "bob"⟩).eq_of_length
    rw [both, ofRoom_length]
    · simpa using congrArg List.length ((frames "v" 0).symm.trans forwards.2)
    · intro origin mem
      obtain ⟨copy, rfl⟩ := genuine "v" (.inr rfl) origin mem
      obtain ⟨made, route⟩ := known "v" 0 copy mem
      obtain ⟨room, user⟩ := sent copy made
      refine ⟨copy, rfl, room, ?_⟩
      rcases List.mem_pair.mp user with same | same <;> simp_all

end Rsp.Protocol
