import Mathlib.Data.List.TakeWhile
import Rsp.Client.State
import Rsp.RoomServer.Server

/-! The reference contents of a room, and the chat commands of the client they interpret.

A command and a chat message share one string. The contents cut it at colons, so a message
that looks like the command is taken for it, and a name with a colon loses what follows.
-/

set_option autoImplicit false

namespace Rsp.RoomContents

open Message RoomServer

/-! ## Source -/

/-- `std::getline` on what is left of a stream; `none` when it extracts nothing. -/
def getline (delimiter : Char) : List Char → Option (List Char × List Char)
  | [] => none
  | stream => some (stream.takeWhile (· ≠ delimiter), (stream.dropWhile (· ≠ delimiter)).tail)

/-- The loop over `std::getline`. Every turn extracts a character or more, so `fuel` beyond the
length of the stream is never exhausted. -/
def tokensLoop (delimiter : Char) : Nat → List Char → List String
  | 0, _ => []
  | fuel + 1, stream =>
      match getline delimiter stream with
      | none => []
      | some (token, rest) => String.ofList token :: tokensLoop delimiter fuel rest

def tokens (message : String) : List String := tokensLoop ':' (message.toList.length + 1) message.toList

def echo (users : List Uid) (sender : Uid) (message : String) : ApiCall :=
  .sendToUser users ("(" ++ sender ++ "):" ++ message)

def onRecvMessage (users : List Uid) (sender : Uid) (message : String) : ApiCall :=
  match tokens message with
  | first :: second :: _ =>
      if first = "kickout" then .kickOutUser second .kRoomOwner else echo users sender message
  | _ => echo users sender message

def react (users : List Uid) : Callback → Option ApiCall
  | .onUserEnter uid => some (.sendToUser users ("(" ++ uid ++ ") has entered"))
  | .onUserExit uid => some (.sendToUser users ("(" ++ uid ++ ") has exited"))
  | .onRecvMessage sender message => some (onRecvMessage users sender message)
  | .onCreateRoom _ | .onDestroyRoom | .onKickedOutUser .. => none

/-! ## Tokens -/

section Tokens

variable {delimiter : Char}

theorem getline_some {stream : List Char} (left : stream ≠ []) : getline delimiter stream =
    some (stream.takeWhile (· ≠ delimiter), (stream.dropWhile (· ≠ delimiter)).tail) := by
  cases stream with
  | nil => exact absurd rfl left
  | cons head tail => rfl

theorem tokensLoop_cut (fuel : Nat) {token : List Char} (rest : List Char) (plain : delimiter ∉ token) :
    tokensLoop delimiter (fuel + 1) (token ++ delimiter :: rest) =
      String.ofList token :: tokensLoop delimiter fuel rest := by
  have before : ∀ other ∈ token, decide (other ≠ delimiter) = true := by
    intro other mem
    rw [decide_eq_true_eq]
    rintro rfl
    exact plain mem
  rw [tokensLoop, getline_some (by simp), List.takeWhile_append_of_pos before, List.dropWhile_append_of_pos before]
  simp

theorem tokensLoop_nil (fuel : Nat) : tokensLoop delimiter fuel [] = [] := by
  cases fuel <;> rfl

theorem tokensLoop_split {fuel : Nat} {stream : List Char} {first second : String} {more : List String}
    (found : tokensLoop delimiter fuel stream = first :: second :: more) :
    ∃ rest, rest ≠ [] ∧ stream = first.toList ++ delimiter :: rest := by
  cases fuel with
  | zero => cases found
  | succ fuel =>
    cases left : stream with
    | nil =>
      rw [left] at found
      cases found
    | cons head tail =>
      rw [tokensLoop, getline_some (by simp [left])] at found
      simp only [List.cons.injEq] at found
      obtain ⟨rfl, later⟩ := found
      have whole := List.takeWhile_append_dropWhile (p := fun other => decide (other ≠ delimiter)) (l := stream)
      cases dropped : stream.dropWhile (fun other => decide (other ≠ delimiter)) with
      | nil =>
        rw [dropped, List.tail_nil, tokensLoop_nil] at later
        cases later
      | cons separator rest =>
        have some_left : stream.dropWhile (fun other => decide (other ≠ delimiter)) ≠ [] := by
          rw [dropped]
          exact List.cons_ne_nil _ _
        have stops := List.head_dropWhile_not _ some_left
        simp only [dropped, List.head_cons, decide_eq_false_iff_not, not_not] at stops
        rw [dropped, stops, left] at whole
        refine ⟨rest, ?_, by rw [String.toList_ofList, left, whole]⟩
        rintro rfl
        rw [dropped, List.tail_cons, tokensLoop_nil] at later
        cases later

end Tokens

/-! ## Messages and commands -/

/-- The text is the command with something after it. -/
def ReadsAsKickout (text : String) : Prop := ∃ rest, rest ≠ "" ∧ text = "kickout:" ++ rest

theorem onRecvMessage_kickout (users : List Uid) (sender : Uid) {target : String} (nonempty : target ≠ "") :
    onRecvMessage users sender ("kickout:" ++ target) =
      .kickOutUser (String.ofList (target.toList.takeWhile (· ≠ ':'))) .kRoomOwner := by
  have shape : ("kickout:" ++ target).toList = "kickout".toList ++ ':' :: target.toList := by
    rw [String.toList_append]
    rfl
  have left : target.toList ≠ [] := by
    intro empty
    exact nonempty (String.toList_eq_nil_iff.mp empty)
  rw [onRecvMessage, tokens, shape, tokensLoop_cut _ _ (by decide), List.length_append, List.length_cons, ← Nat.add_assoc,
    tokensLoop, getline_some left]
  simp

theorem onRecvMessage_chat (users : List Uid) (sender : Uid) {text : String} (plain : ¬ ReadsAsKickout text) :
    onRecvMessage users sender text = echo users sender text := by
  unfold onRecvMessage
  split
  · next first second more found =>
    apply if_neg
    rintro rfl
    obtain ⟨rest, nonempty, cut⟩ := tokensLoop_split found
    apply plain
    refine ⟨String.ofList rest, by simpa using nonempty, ?_⟩
    apply String.toList_injective
    rw [cut]
    simp
  · rfl

def typed (session : Client.ClientSession) : List String → List FromClient
  | [] => []
  | command :: rest =>
      let (after, sent) := session.handleCommand command
      sent ++ typed after rest

def interpret (users : List Uid) (sender : Uid) (frames : List FromClient) : List ApiCall :=
  frames.filterMap fun frame =>
    match frame with
    | .fwdRoom request => some (onRecvMessage users sender request.message)
    | _ => none

structure Awaits (session : Client.ClientSession) : Prop where
  running : session.stopped = false
  inRoom : ∃ object, session.state = some object ∧ object.state = .kInRoom ∧ object.pendingInput = .kCommand

theorem typed_inRoom {session : Client.ClientSession} (awaits : Awaits session) (text : String) :
    typed session ["2", text] = [.fwdRoom { message := text }] ∧
      typed session ["4", text] = [.fwdRoom { message := "kickout:" ++ text }] := by
  obtain ⟨object, current, inRoom, command⟩ := awaits.inRoom
  constructor <;>
    simp [typed, Client.ClientSession.handleCommand, Client.ClientSession.settle, Client.StateObject.onCommand,
      Client.StateObject.onCommandInRoom, awaits.running, current, inRoom, command]

/-- A chat message is broadcast as it is just if it does not read as the command, and the user who is
kicked out is the one named just if the name has no colon in it. -/
theorem chat_commands_interpreted {session : Client.ClientSession} (awaits : Awaits session) (users : List Uid)
    (sender : Uid) :
    (∀ text, interpret users sender (typed session ["2", text]) = [.sendToUser users ("(" ++ sender ++ "):" ++ text)] ↔
      ¬ ReadsAsKickout text) ∧
    (∀ name, name ≠ "" → (interpret users sender (typed session ["4", name]) = [.kickOutUser name .kRoomOwner] ↔
      ':' ∉ name.toList)) := by
  constructor
  · intro text
    rw [(typed_inRoom awaits text).1]
    constructor
    · rintro broadcast ⟨rest, nonempty, rfl⟩
      have kicked := onRecvMessage_kickout users sender nonempty
      simp [interpret, kicked] at broadcast
    · intro plain
      exact congrArg (fun call => [call]) (onRecvMessage_chat users sender plain)
  · intro name nonempty
    rw [(typed_inRoom awaits name).2]
    have kicked := onRecvMessage_kickout users sender nonempty
    constructor
    · intro named colon
      have cut : String.ofList (name.toList.takeWhile (· ≠ ':')) = name := by
        simpa only [interpret, List.filterMap_cons, List.filterMap_nil, kicked, List.cons.injEq, and_true,
          ApiCall.kickOutUser.injEq] using named
      -- Nothing that is taken is a colon.
      rw [← cut, String.toList_ofList] at colon
      simpa using List.mem_takeWhile_imp colon
    · intro colonless
      have whole : name.toList.takeWhile (· ≠ ':') = name.toList := by
        rw [List.takeWhile_eq_self_iff]
        intro letter mem
        rw [decide_eq_true_eq]
        rintro rfl
        exact colonless mem
      rw [whole, String.ofList_toList] at kicked
      exact congrArg (fun call => [call]) kicked

def inRoom42 : Client.ClientSession :=
  { currentState := .kInRoom, state := some { state := .kInRoom }, context := { uid := "alice", roomId := 42 } }

theorem chat_commands_interpreted_hello :
    interpret ["alice", "bob"] "alice" (typed inRoom42 ["2", "hello: bob"]) =
        [.sendToUser ["alice", "bob"] "(alice):hello: bob"] ∧
      interpret ["alice", "bob"] "alice" (typed inRoom42 ["4", "bob"]) = [.kickOutUser "bob" .kRoomOwner] := by
  have awaits : Awaits inRoom42 := ⟨rfl, _, rfl, rfl, rfl⟩
  have interpreted := chat_commands_interpreted awaits ["alice", "bob"] "alice"
  constructor
  · apply (interpreted.1 _).mpr
    rintro ⟨rest, -, same⟩
    have first := congrArg (fun text => text.toList.head?) same
    rw [String.toList_append, List.head?_append_of_ne_nil _ (by decide)] at first
    revert first
    decide
  · exact (interpreted.2 "bob" (by decide)).mpr (by decide)

/-- A chat message expels a member, and a kick-out expels another user than the one named. -/
theorem chat_message_kicks_out :
    interpret ["alice", "bob"] "alice" (typed inRoom42 ["2", "kickout:bob"]) = [.kickOutUser "bob" .kRoomOwner] ∧
      interpret ["alice", "bob"] "alice" (typed inRoom42 ["4", "bob:2"]) = [.kickOutUser "bob" .kRoomOwner] := by
  decide +kernel

end Rsp.RoomContents
