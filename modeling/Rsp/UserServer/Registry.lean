import Rsp.UserServer.Effects

/-! The session manager along the runs of the User server.

Three kinds of items change what the manager says about a session: a login gives the
session its uid and then indexes it, and the end of a connection takes it out again. The
uid belongs to the session and not to the manager, so the index and the uids only agree as
long as a session that is indexed keeps its uid.
-/

set_option autoImplicit false

namespace Rsp.UserServer

open Message Rsp.Job Foundation

namespace Core

def uids (self : Core) : List Uid := self.sessions.map Session.uid

def closed (self : Core) : List Bool := self.sessions.map Session.closed

theorem found_uid {self : Core} {ptr : SessionPtr} {session : Session} (owner : self.sessions[ptr]? = some session) :
    self.uids[ptr]? = some session.uid := by
  simp [uids, owner]

theorem found_closed {self : Core} {ptr : SessionPtr} {session : Session} (owner : self.sessions[ptr]? = some session) :
    self.closed[ptr]? = some session.closed := by
  simp [closed, owner]

theorem uids_setSession (self : Core) (ptr : SessionPtr) (session : Session) :
    (self.setSession ptr session).uids = self.uids.set ptr session.uid := by
  simp [uids, setSession, List.map_set]

theorem closed_setSession (self : Core) (ptr : SessionPtr) (session : Session) :
    (self.setSession ptr session).closed = self.closed.set ptr session.closed := by
  simp [closed, setSession, List.map_set]

theorem uids_setSession_same {self : Core} {ptr : SessionPtr} {session after : Session}
    (owner : self.sessions[ptr]? = some session) (same : after.uid = session.uid) :
    (self.setSession ptr after).uids = self.uids := by
  rw [uids_setSession, same]
  exact heap_set_self (found_uid owner)

theorem closed_setSession_same {self : Core} {ptr : SessionPtr} {session after : Session}
    (owner : self.sessions[ptr]? = some session) (same : after.closed = session.closed) :
    (self.setSession ptr after).closed = self.closed := by
  rw [closed_setSession, same]
  exact heap_set_self (found_closed owner)

end Core

/-! ## What an item does to the registry -/

structure Unenrolled (core : Core) (effect : Effect) : Prop where
  manager : effect.core.manager = core.manager
  uids : effect.core.uids = core.uids
  closed : effect.core.closed = core.closed
  quiet : ∀ ptr, .onConnClosed ptr ∉ items effect

inductive Enrolls (core : Core) : Task → Effect → Prop where
  | same {task : Task} {effect : Effect} (unenrolled : Unenrolled core effect) : Enrolls core task effect
  | named {ptr : JobPtr} {effect : Effect} (job : Job) (session : Session) (request : ReqLogin)
      (found : core.jobs[ptr]? = some job) (kind : job.kind = .login request)
      (owner : core.sessions[job.session]? = some session) (manager : effect.core.manager = core.manager)
      (uids : effect.core.uids = core.uids.set job.session request.uid) (closed : effect.core.closed = core.closed)
      (quiet : ∀ ptr, .onConnClosed ptr ∉ items effect) : Enrolls core (.run ptr) effect
  | added {ptr : JobPtr} {effect : Effect} (job : Job) (session : Session) (found : core.jobs[ptr]? = some job)
      (owner : core.sessions[job.session]? = some session)
      (manager : effect.core.manager = core.manager.addSession job.session session.uid)
      (uids : effect.core.uids = core.uids) (closed : effect.core.closed = core.closed)
      (quiet : ∀ ptr, .onConnClosed ptr ∉ items effect) : Enrolls core (.addSession ptr) effect
  | closed {ptr : SessionPtr} {effect : Effect} (isOpen : core.closed[ptr]? = some false)
      (manager : effect.core.manager = core.manager) (uids : effect.core.uids = core.uids)
      (closed : effect.core.closed = core.closed.set ptr true) (next : items effect = [.onConnClosed ptr]) :
      Enrolls core (.finishClose ptr) effect
  | removed {ptr : SessionPtr} : Enrolls core (.onConnClosed ptr) (onConnClosed ptr core)

section Enrolls

variable {now : Nat} {core core' : Core} {ptr : JobPtr} {effect : Effect} {task : Task}

theorem completed_registry (completed : Completed core ptr effect) : Unenrolled core effect := by
  cases completed with
  | again found completed => exact ⟨rfl, rfl, rfl, by simp [items]⟩
  | @first job session found fresh owner =>
    refine ⟨rfl, ?_, ?_, ?_⟩
    · exact Core.uids_setSession_same owner rfl
    · exact Core.closed_setSession_same owner rfl
    · simp [items]

theorem finished_registry (finished : Finished core ptr effect) : Unenrolled core effect := by
  cases finished with
  | again | unheld => exact ⟨rfl, rfl, rfl, by simp [items]⟩
  | called found unfinished held completed =>
    obtain ⟨manager, uids, closed, quiet⟩ := completed_registry completed
    exact ⟨manager, uids, closed, quiet⟩

/-- An item that changes something the registry does not show before it goes on. -/
theorem Unenrolled.after (unenrolled : Unenrolled core' effect) (manager : core'.manager = core.manager)
    (uids : core'.uids = core.uids) (closed : core'.closed = core.closed) : Unenrolled core effect :=
  ⟨unenrolled.manager.trans manager, unenrolled.uids.trans uids, unenrolled.closed.trans closed, unenrolled.quiet⟩

theorem enrolls_of_executed (executed : Executed now core task effect) : Enrolls core task effect := by
  cases executed with
  | @pushed ptr job session found owner =>
    refine .same ⟨rfl, Core.uids_setSession_same owner rfl, Core.closed_setSession_same owner rfl, fun closing => ?_⟩
    cases (session.scheduler.pushAndRun ptr).2 <;> simp [items, afterPush]
  | @loggedIn ptr job session request found owner kind =>
    refine .named job session request found kind owner rfl ?_ ?_ (by simp [items])
    · exact Core.uids_setSession (core.send _ _) _ _
    · exact Core.closed_setSession_same owner rfl
  | loggedOut found owner kind completed =>
    obtain ⟨manager, uids, closed, quiet⟩ := completed_registry completed
    refine .same ⟨manager, uids, closed, fun closing => ?_⟩
    have silent := quiet closing
    simp only [items, List.mem_append, not_or] at silent ⊢
    exact ⟨silent.1, by simp⟩
  | @stopped ptr job session forceClose effect found owner kind completed =>
    obtain ⟨manager, uids, closed, quiet⟩ := completed_registry completed
    refine .same ⟨manager, uids, closed, fun closing => ?_⟩
    have silent := quiet closing
    simp only [items, List.mem_append, not_or] at silent ⊢
    exact ⟨silent.1, by cases forceClose <;> simp⟩
  | forwarded found owner kind completed | clientForwarded found owner kind completed =>
    exact .same ((completed_registry completed).after rfl rfl rfl)
  | leaveNotified found owner kind completed =>
    refine .same ((completed_registry completed).after rfl ?_ ?_)
    · exact Core.uids_setSession_same owner rfl
    · exact Core.closed_setSession_same owner rfl
  | requested | channelSent | answeredLate | cancelIgnored | responsePosted | timeoutPosted | closedAgain
  | disconnected => exact .same ⟨rfl, rfl, rfl, by simp [items]⟩
  | @sessionAdded ptr job session effect found owner completed =>
    obtain ⟨manager, uids, closed, quiet⟩ := completed_registry completed
    exact .added job session found owner manager uids closed quiet
  | requestAdded => exact .same ⟨rfl, rfl, rfl, by simp [items, addRequest]⟩
  | answered found unfinished answer owner finished =>
    refine .same ((finished_registry finished).after rfl ?_ ?_)
    · exact Core.uids_setSession_same owner rfl
    · exact Core.closed_setSession_same owner rfl
  | cancelled found room unfinished =>
    refine .same ⟨rfl, rfl, rfl, fun closing => ?_⟩
    simp only [items, List.map_nil, List.append_nil, List.mem_append, not_or]
    constructor
    · split <;> simp [sendCancel]
    · simp
  | shutdownFinished found finished => exact .same (finished_registry finished)
  | timeoutFinished found timeout finished => exact .same ((finished_registry finished).after rfl rfl rfl)
  | shutDown owner =>
    exact .same ⟨rfl, Core.uids_setSession_same owner rfl, Core.closed_setSession_same owner rfl, by simp [items]⟩
  | @responded message id carries =>
    refine .same ⟨rfl, rfl, rfl, fun closing => ?_⟩
    simp only [items, sendToWaiter, List.map_nil, List.append_nil]
    split <;> simp [onTimeout, sendCancel]
  | @clientPassed message | @leavePassed message =>
    refine .same ⟨rfl, rfl, rfl, fun closing => ?_⟩
    cases found : core.manager.findSession message.uid <;> simp [items, passToSession, found]
  | notified | unknownReceived => exact .same ⟨rfl, rfl, rfl, by simp [items, Core.enqueueJob]⟩
  | @sessionReceived session message =>
    cases message <;> exact .same ⟨rfl, rfl, rfl, by simp [items, onSessionRecv, Core.enqueueJob]⟩
  | closed owner isOpen =>
    refine .closed ?_ rfl (Core.uids_setSession_same owner rfl) (Core.closed_setSession ..) rfl
    rw [Core.found_closed owner, isOpen]
  | removed => exact .removed

end Enrolls

/-! ## The session manager -/

namespace SessionManager

variable (manager : SessionManager) (session other : SessionPtr) (uid name : Uid)

theorem addSession_sessions :
    (manager.addSession session uid).sessions[other]? =
      if session = other then some session else manager.sessions[other]? := by
  simp only [addSession, Std.ExtTreeMap.getElem?_insert, Std.LawfulEqCmp.compare_eq_iff_eq]

theorem addSession_uidSessions :
    (manager.addSession session uid).uidSessions[name]? =
      if uid ≠ "" ∧ uid = name then some session else manager.uidSessions[name]? := by
  by_cases empty : uid = ""
  · simp [addSession, empty]
  · simp only [addSession, empty, if_false, Std.ExtTreeMap.getElem?_insert, Std.LawfulEqCmp.compare_eq_iff_eq,
      ne_eq, not_false_eq_true, true_and]

theorem addConnection_sessions (keyed : ∀ conn ptr : SessionPtr, manager.sessions[conn]? = some ptr → ptr = conn) :
    (manager.addConnection session).sessions[other]? =
      if session = other then some session else manager.sessions[other]? := by
  unfold addConnection
  split
  · next known =>
    obtain ⟨ptr, found⟩ := Option.isSome_iff_exists.mp (Std.ExtTreeMap.mem_iff_isSome_getElem?.mp known)
    by_cases same : session = other
    · subst same
      rw [if_pos rfl, found, keyed session ptr found]
    · rw [if_neg same]
  · simp only [Std.ExtTreeMap.getElem?_insert, Std.LawfulEqCmp.compare_eq_iff_eq]

theorem addConnection_uidSessions : (manager.addConnection session).uidSessions = manager.uidSessions := by
  unfold addConnection
  split <;> rfl

theorem removeSession_sessions (uidOf : SessionPtr → Uid) :
    (manager.removeSession uidOf session).1.sessions[other]? =
      if session = other then none else manager.sessions[other]? := by
  unfold removeSession
  split
  · next absent =>
    by_cases same : session = other
    · rw [if_pos same, ← same, absent]
    · rw [if_neg same]
  · simp only [Std.ExtTreeMap.getElem?_erase, Std.LawfulEqCmp.compare_eq_iff_eq]

theorem removeSession_uidSessions (uidOf : SessionPtr → Uid) {ptr : SessionPtr}
    (found : manager.sessions[session]? = some ptr) :
    (manager.removeSession uidOf session).1.uidSessions[name]? =
      if uidOf ptr ≠ "" ∧ uidOf ptr = name ∧ manager.uidSessions[name]? = some ptr then none
      else manager.uidSessions[name]? := by
  simp only [removeSession, found]
  split
  · next indexed =>
    simp only [Std.ExtTreeMap.getElem?_erase, Std.LawfulEqCmp.compare_eq_iff_eq]
    by_cases same : uidOf ptr = name
    · subst same
      simp [indexed.1, indexed.2]
    · simp [same]
  · next unindexed =>
    by_cases same : uidOf ptr = name
    · subst same
      simp_all
    · simp [same]

end SessionManager

/-! ## The index and the uids -/

structure Login where
  session : SessionPtr
  uid : Uid
  request : ReqLogin
  deriving DecidableEq, Repr

namespace Core

def login (self : Core) : Task → Option Login
  | .run ptr => do
      let job ← self.jobs[ptr]?
      let session ← self.sessions[job.session]?
      match job.kind with
      | .login request => some ⟨job.session, session.uid, request⟩
      | _ => none
  | _ => none

def adding (self : Core) : Task → Option SessionPtr
  | .addSession ptr => (self.jobs[ptr]?).map Job.session
  | _ => none

end Core

/-- A session that its uid leads to logs in under no other uid. -/
def KeepsUid (move : Transition State Label) : Prop :=
  ∀ ran ∈ executed move, ∀ login ∈ move.before.core.login ran.2,
    move.before.core.manager.findSession login.uid = some login.session → login.uid = login.request.uid

def LoginRunsOpen (move : Transition State Label) : Prop :=
  ∀ ran ∈ executed move,
    (∀ login ∈ move.before.core.login ran.2, move.before.core.closed[login.session]? = some false) ∧
      ∀ session ∈ move.before.core.adding ran.2, move.before.core.closed[session]? = some false

/-- A login adds a session that the manager still has. -/
def AddsRegistered (move : Transition State Label) : Prop :=
  ∀ ran ∈ executed move, ∀ session ∈ move.before.core.adding ran.2,
    move.before.core.manager.sessions[session]? = some session

instance (move : Transition State Label) : Decidable (KeepsUid move) :=
  inferInstanceAs (Decidable (∀ ran ∈ executed move, _))

instance (move : Transition State Label) : Decidable (LoginRunsOpen move) :=
  inferInstanceAs (Decidable (∀ ran ∈ executed move, _))

instance (move : Transition State Label) : Decidable (AddsRegistered move) :=
  inferInstanceAs (Decidable (∀ ran ∈ executed move, _))

/-- The index leads to sessions that are registered and have the uid. -/
structure Indexed (core : Core) : Prop where
  keyed : ∀ conn ptr : SessionPtr, core.manager.sessions[conn]? = some ptr → ptr = conn
  named : ∀ (uid : Uid) (ptr : SessionPtr), core.manager.uidSessions[uid]? = some ptr →
    uid ≠ "" ∧ core.uids[ptr]? = some uid
  registered : ∀ (uid : Uid) (ptr : SessionPtr), core.manager.uidSessions[uid]? = some ptr →
    core.manager.sessions[ptr]? = some ptr

section Indexed

variable {core : Core} {task : Task} {effect : Effect}

/-- What the end of a connection leaves: neither map leads to its session, and every other
session is registered and indexed as before. -/
structure Withdrawn (before after : SessionManager) (ptr : SessionPtr) : Prop where
  unregistered : after.sessions[ptr]? = none
  unindexed : ∀ uid : Uid, after.findSession uid ≠ some ptr
  sessions : ∀ other : SessionPtr, other ≠ ptr → after.sessions[other]? = before.sessions[other]?
  index : ∀ (other : SessionPtr) (uid : Uid), other ≠ ptr →
    (after.findSession uid = some other ↔ before.findSession uid = some other)

theorem withdrawn_onConnClosed (indexed : Indexed core) (ptr : SessionPtr) :
    Withdrawn core.manager (onConnClosed ptr core).core.manager ptr := by
  have sessions (other : SessionPtr) : (onConnClosed ptr core).core.manager.sessions[other]? =
      if ptr = other then none else core.manager.sessions[other]? :=
    SessionManager.removeSession_sessions core.manager ptr other _
  cases found : core.manager.sessions[ptr]? with
  | none =>
    have same : (onConnClosed ptr core).core.manager = core.manager := by
      simp [onConnClosed, SessionManager.removeSession, found]
    rw [same]
    refine ⟨found, fun uid leads => ?_, fun _ _ => rfl, fun _ _ _ => Iff.rfl⟩
    have registered := indexed.registered uid ptr leads
    rw [found] at registered
    cases registered
  | some owner =>
    obtain rfl := indexed.keyed ptr owner found
    have index (name : Uid) := SessionManager.removeSession_uidSessions core.manager owner name
      (fun session => ((core.sessions[session]?).map Session.uid).getD "") found
    have leaves (name : Uid) (other : SessionPtr) :
        (onConnClosed owner core).core.manager.findSession name = some other ↔
          core.manager.findSession name = some other ∧ other ≠ owner := by
      change (SessionManager.removeSession _ _ _).1.uidSessions[name]? = some other ↔ _
      rw [index]
      by_cases leads : core.manager.uidSessions[name]? = some owner
      · -- the entry that leads to the session is the one of its uid
        obtain ⟨nonempty, known⟩ := indexed.named name owner leads
        have uid : ((core.sessions[owner]?).map Session.uid).getD "" = name := by
          rw [Core.uids, List.getElem?_map] at known
          rw [known]
          rfl
        rw [if_pos ⟨uid ▸ nonempty, uid, leads⟩]
        constructor
        · intro absurd
          cases absurd
        · rintro ⟨same, different⟩
          exact absurd (Option.some.inj (same.symm.trans leads)) different
      · rw [if_neg fun erased => leads erased.2.2]
        constructor
        · exact fun same => ⟨same, fun isOwner => leads (isOwner ▸ same)⟩
        · exact And.left
    refine ⟨by simp [sessions], fun uid leads => ?_, fun other different => ?_, fun other uid different => ?_⟩
    · exact ((leaves uid owner).mp leads).2 rfl
    · rw [sessions, if_neg (Ne.symm different)]
    · rw [leaves, and_iff_left different]

theorem indexed_enrolls (indexed : Indexed core) (enrolls : Enrolls core task effect)
    (keeps : ∀ login ∈ core.login task, core.manager.findSession login.uid = some login.session →
      login.uid = login.request.uid) :
    Indexed effect.core := by
  cases enrolls with
  | same unenrolled =>
    constructor
    · rw [unenrolled.manager]
      exact indexed.keyed
    · rw [unenrolled.manager, unenrolled.uids]
      exact indexed.named
    · rw [unenrolled.manager]
      exact indexed.registered
  | closed isOpen manager uids closed next =>
    constructor
    · rw [manager]
      exact indexed.keyed
    · rw [manager, uids]
      exact indexed.named
    · rw [manager]
      exact indexed.registered
  | @named ptr effect job session request found kind owner manager uids closed quiet =>
    constructor
    · rw [manager]
      exact indexed.keyed
    · intro uid other leads
      rw [manager] at leads
      obtain ⟨nonempty, known⟩ := indexed.named uid other leads
      refine ⟨nonempty, ?_⟩
      rw [uids, heap_get_set (Core.found_uid owner)]
      by_cases same : job.session = other
      · -- the session is indexed, so it keeps its uid
        subst same
        rw [if_pos rfl]
        obtain rfl : session.uid = uid := Option.some.inj ((Core.found_uid owner).symm.trans known)
        have login : core.login (.run ptr) = some ⟨job.session, session.uid, request⟩ := by
          simp [Core.login, found, owner, kind]
        exact congrArg some (keeps _ login leads).symm
      · rw [if_neg same]
        exact known
    · rw [manager]
      exact indexed.registered
  | added job session found owner manager uids closed quiet =>
    constructor
    · intro conn ptr known
      rw [manager, SessionManager.addSession_sessions] at known
      split at known
      · next same => exact (Option.some.inj known).symm.trans same
      · exact indexed.keyed conn ptr known
    · intro uid ptr leads
      rw [manager, SessionManager.addSession_uidSessions] at leads
      rw [uids]
      split at leads
      · next new =>
        cases leads
        obtain ⟨nonempty, rfl⟩ := new
        exact ⟨nonempty, Core.found_uid owner⟩
      · exact indexed.named uid ptr leads
    · intro uid ptr leads
      rw [manager, SessionManager.addSession_sessions]
      split
      · next same => exact congrArg some same
      · next other =>
        rw [manager, SessionManager.addSession_uidSessions] at leads
        split at leads
        · exact absurd (Option.some.inj leads) other
        · exact indexed.registered uid ptr leads
  | @removed unlisted =>
    have withdrawn := withdrawn_onConnClosed indexed unlisted
    have elsewhere {uid : Uid} {ptr : SessionPtr}
        (leads : (onConnClosed unlisted core).core.manager.findSession uid = some ptr) : ptr ≠ unlisted :=
      fun same => withdrawn.unindexed uid (same ▸ leads)
    constructor
    · intro conn ptr known
      by_cases same : conn = unlisted
      · rw [same, withdrawn.unregistered] at known
        cases known
      · rw [withdrawn.sessions conn same] at known
        exact indexed.keyed conn ptr known
    · intro uid ptr leads
      exact indexed.named uid ptr ((withdrawn.index ptr uid (elsewhere leads)).mp leads)
    · intro uid ptr leads
      rw [withdrawn.sessions ptr (elsewhere leads)]
      exact indexed.registered uid ptr ((withdrawn.index ptr uid (elsewhere leads)).mp leads)

theorem indexed_step {state after : State} {label : Label} (indexed : Indexed state.core)
    (keeps : KeepsUid ⟨state, label, after⟩) (moved : step state label = some after) : Indexed after.core := by
  cases stepped_of_step moved with
  | accepted =>
    constructor
    · intro conn ptr known
      rw [SessionManager.addConnection_sessions _ _ _ indexed.keyed] at known
      split at known
      · next same => exact (Option.some.inj known).symm.trans same
      · exact indexed.keyed conn ptr known
    · intro uid ptr leads
      rw [SessionManager.addConnection_uidSessions] at leads
      obtain ⟨nonempty, known⟩ := indexed.named uid ptr leads
      refine ⟨nonempty, ?_⟩
      rw [Core.uids, List.map_append]
      exact heap_get_append known _
    · intro uid ptr leads
      rw [SessionManager.addConnection_uidSessions] at leads
      rw [SessionManager.addConnection_sessions _ _ _ indexed.keyed]
      split
      · next same => exact congrArg some same
      · exact indexed.registered uid ptr leads
  | received | delivered | closing => exact indexed
  | expired quiet => exact ⟨indexed.keyed, indexed.named, indexed.registered⟩
  | @ran thread now task before later effect split quiet done =>
    refine indexed_enrolls indexed (enrolls_of_executed done) fun login isLogin => ?_
    exact keeps (now, task) (executed_ran now _ split quiet) login isLogin

end Indexed

/-- Along every run in which an indexed session keeps its uid, the index leads to sessions
that have the uid and are registered, and the end of a connection withdraws its session
and no other. -/
theorem session_index_consistent (history : History) (state : State) (run : Reaches history state)
    (keeps : ∀ move ∈ history, KeepsUid move) :
    (∀ (uid : Uid) (ptr : SessionPtr), state.core.manager.findSession uid = some ptr →
      (∃ session, state.core.sessions[ptr]? = some session ∧ session.uid = uid) ∧
        state.core.manager.sessions[ptr]? = some ptr) ∧
    ∀ move ∈ history, ∀ now ptr, executed move = some (now, .onConnClosed ptr) →
      Withdrawn move.before.core.manager move.after.core.manager ptr := by
  have kept : Indexed state.core ∧ ∀ move ∈ history, ∀ now ptr, executed move = some (now, .onConnClosed ptr) →
      Withdrawn move.before.core.manager move.after.core.manager ptr := by
    refine run.history (fun past current => Indexed current.core ∧ ∀ move ∈ past, ∀ now ptr,
      executed move = some (now, .onConnClosed ptr) →
        Withdrawn move.before.core.manager move.after.core.manager ptr) ⟨?_, by simp⟩ ?_
    · constructor <;> simp [initial]
    · rintro past ⟨before, label, after⟩ - ⟨indexed, withdrawn⟩ moved mem
      refine ⟨indexed_step indexed (keeps _ mem) moved, fun move found now ptr ran => ?_⟩
      rcases List.mem_append.mp found with earlier | last
      · exact withdrawn move earlier now ptr ran
      · obtain rfl := List.mem_singleton.mp last
        obtain ⟨thread, front, rest, effect, -, -, -, done, rfl⟩ := executed_split ran moved
        cases done
        exact withdrawn_onConnClosed indexed ptr
  obtain ⟨indexed, withdrawn⟩ := kept
  refine ⟨fun uid ptr leads => ⟨?_, indexed.registered uid ptr leads⟩, withdrawn⟩
  have known := (indexed.named uid ptr leads).2
  rw [Core.uids, List.getElem?_map] at known
  exact Option.map_eq_some_iff.mp known

def loggingIn (conn : SessionPtr) (uid : Uid) : List Label :=
  [.receive conn (.session (.reqLogin { uid })), .run (.conn conn) 0, .run (.strand conn) 0, .run (.strand conn) 0,
    .run (.strand conn) 0]

def disconnecting (conn : SessionPtr) : List Label := [.close conn, .run (.conn conn) 0, .run (.conn conn) 0]

def takenOver : List Label :=
  [.accept, .accept] ++ loggingIn 0 "a" ++ loggingIn 1 "a" ++ disconnecting 0

theorem session_index_consistent_taken_over :
    (final step initial takenOver).core.manager.findSession "a" = some 1 ∧
      (∃ session, (final step initial takenOver).core.sessions[1]? = some session ∧ session.uid = "a") ∧
        (final step initial takenOver).core.manager.sessions[1]? = some 1 := by
  have leads : (final step initial takenOver).core.manager.findSession "a" = some 1 := by decide +kernel
  have consistent := session_index_consistent (transitions step initial takenOver) (final step initial takenOver)
    (run_of_enabled (by decide +kernel)) (by decide +kernel)
  exact ⟨leads, consistent.1 "a" 1 leads⟩

def renamed : List Label := [.accept] ++ loggingIn 0 "a" ++ loggingIn 0 "b" ++ disconnecting 0

theorem relogin_leaves_stale_entry :
    ∃ history state, Reaches history state ∧ (∀ move ∈ history, LoginRunsOpen move) ∧
      state.core.manager.findSession "a" = some 0 ∧ state.core.manager.sessions[(0 : SessionPtr)]? = none ∧
      (state.core.sessions[0]?).map Session.uid = some "b" := by
  refine ⟨transitions step initial renamed, final step initial renamed, run_of_enabled (by decide +kernel), ?_⟩
  decide +kernel

/-! ## After the end of a connection -/

section Unlisted

variable {core : Core} {task : Task} {effect : Effect} {state after : State} {label : Label}

theorem enrolls_length (enrolls : Enrolls core task effect) : effect.core.uids.length = core.uids.length := by
  cases enrolls with
  | same unenrolled => rw [unenrolled.uids]
  | named job session request found kind owner manager uids closed quiet => rw [uids, List.length_set]
  | added job session found owner manager uids | closed isOpen manager uids => rw [uids]
  | removed => rfl

def ClosesKnown (state : State) : Prop :=
  ∀ ptr, Waiting state (.onConnClosed ptr) → ptr < state.core.uids.length

theorem closesKnown_step (known : ClosesKnown state) (moved : step state label = some after) : ClosesKnown after := by
  intro ptr waits
  cases stepped_of_step moved with
  | accepted =>
    have before : ptr < state.core.uids.length := known ptr waits
    rw [Core.uids, List.map_append, List.length_append]
    exact Nat.lt_add_right _ before
  | @received conn call found quiet =>
    obtain ⟨thread, mem⟩ := waits
    rcases List.mem_append.mp mem with mem | mem
    · exact known ptr ⟨thread, mem⟩
    · cases call <;> simp [Invocation.task] at mem
  | delivered | closing =>
    obtain ⟨thread, mem⟩ := waits
    exact known ptr ⟨thread, by simpa using mem⟩
  | expired quiet =>
    obtain ⟨thread, mem⟩ := waits
    rcases List.mem_append.mp mem with mem | mem
    · exact known ptr ⟨thread, mem⟩
    · simp [onTimeout, sendCancel] at mem
  | @ran thread now task before later effect split quiet done =>
    have enrolls := enrolls_of_executed done
    change ptr < effect.core.uids.length
    rw [enrolls_length enrolls]
    rcases (waiting_ran _).mp waits with new | ⟨owner, old⟩
    · cases enrolls with
      | same unenrolled => exact absurd new (unenrolled.quiet ptr)
      | named job session request found kind owner manager uids closed still
      | added job session found owner manager uids closed still => exact absurd new (still ptr)
      | closed isOpen manager uids closed next =>
        rw [next, List.mem_singleton] at new
        cases new
        have bound := heap_bound isOpen
        simpa [Core.closed, Core.uids] using bound
      | removed => simp [items, onConnClosed] at new
    · exact known ptr ⟨owner, mem_of_rest split old⟩

structure Unlisted (ptr : SessionPtr) (left : SessionManager) (core : Core) : Prop where
  known : ptr < core.uids.length
  unregistered : core.manager.sessions[ptr]? = none
  index : ∀ uid : Uid, core.manager.findSession uid = some ptr → left.findSession uid = some ptr

theorem unlisted_enrolls {ptr : SessionPtr} {left : SessionManager} (unlisted : Unlisted ptr left core)
    (enrolls : Enrolls core task effect)
    (adds : ∀ session ∈ core.adding task, core.manager.sessions[session]? = some session) :
    Unlisted ptr left effect.core := by
  have known : ptr < effect.core.uids.length := by
    rw [enrolls_length enrolls]
    exact unlisted.known
  have kept : effect.core.manager = core.manager → Unlisted ptr left effect.core := by
    intro manager
    constructor
    case known => exact known
    case unregistered => rw [manager]; exact unlisted.unregistered
    case index => rw [manager]; exact unlisted.index
  cases enrolls with
  | same unenrolled => exact kept unenrolled.manager
  | named job session request found kind owner manager | closed isOpen manager => exact kept manager
  | added job session found owner manager uids closed quiet =>
    -- the session added is registered, so it is another one
    have other : job.session ≠ ptr := by
      rintro rfl
      have registered := adds job.session (by simp [Core.adding, found])
      rw [unlisted.unregistered] at registered
      cases registered
    refine ⟨known, ?_, fun uid leads => ?_⟩
    · rw [manager, SessionManager.addSession_sessions, if_neg other]
      exact unlisted.unregistered
    · rw [manager, SessionManager.findSession, SessionManager.addSession_uidSessions] at leads
      split at leads
      · exact absurd (Option.some.inj leads) other
      · exact unlisted.index uid leads
  | @removed ended =>
    refine ⟨known, ?_, fun uid leads => unlisted.index uid ?_⟩
    · change (SessionManager.removeSession _ _ _).1.sessions[ptr]? = none
      rw [SessionManager.removeSession_sessions]
      split
      · rfl
      · exact unlisted.unregistered
    · change (SessionManager.removeSession _ _ _).1.uidSessions[uid]? = some ptr at leads
      cases found : core.manager.sessions[ended]? with
      | none =>
        rw [SessionManager.removeSession, found] at leads
        exact leads
      | some owner =>
        rw [SessionManager.removeSession_uidSessions _ _ _ _ found] at leads
        split at leads
        · cases leads
        · exact leads

theorem unlisted_step {ptr : SessionPtr} {left : SessionManager} (unlisted : Unlisted ptr left state.core)
    (adds : AddsRegistered ⟨state, label, after⟩) (moved : step state label = some after) :
    Unlisted ptr left after.core := by
  cases stepped_of_step moved with
  | accepted =>
    have fresh : state.core.sessions.length ≠ ptr := by
      have known := unlisted.known
      rw [Core.uids, List.length_map] at known
      exact Nat.ne_of_gt known
    refine ⟨?_, ?_, ?_⟩
    · rw [Core.uids, List.map_append, List.length_append]
      exact Nat.lt_add_right _ unlisted.known
    · change (SessionManager.addConnection _ _).sessions[ptr]? = none
      unfold SessionManager.addConnection
      split
      · exact unlisted.unregistered
      · rw [Std.ExtTreeMap.getElem?_insert, if_neg (by simpa using fresh)]
        exact unlisted.unregistered
    · intro uid leads
      rw [SessionManager.findSession, SessionManager.addConnection_uidSessions] at leads
      exact unlisted.index uid leads
  | received | delivered | closing => exact unlisted
  | expired quiet => exact ⟨unlisted.known, unlisted.unregistered, unlisted.index⟩
  | @ran thread now task before later effect split quiet done =>
    refine unlisted_enrolls unlisted (enrolls_of_executed done) fun session isAdding => ?_
    exact adds (now, task) (executed_ran now _ split quiet) session isAdding

end Unlisted

/-- Along every run in which logins only add sessions the manager still has, the session of
a connection that has ended never comes back into either map; if moreover indexed sessions
keep their uid, no uid leads to it. -/
theorem closed_session_stays_away (history : History) (state : State) (run : Reaches history state)
    (adds : ∀ move ∈ history, AddsRegistered move) (past later : History) (move : Transition State Label)
    (cut : history = past ++ move :: later) (now : Nat) (ptr : SessionPtr)
    (ended : executed move = some (now, .onConnClosed ptr)) :
    state.core.manager.sessions[ptr]? = none ∧
      (∀ uid, state.core.manager.findSession uid = some ptr → move.after.core.manager.findSession uid = some ptr) ∧
      ((∀ earlier ∈ past, KeepsUid earlier) → ∀ uid, state.core.manager.findSession uid ≠ some ptr) := by
  obtain ⟨before, moved, after⟩ := run.split cut
  have known : ClosesKnown move.before := by
    refine before.invariant (by simp [ClosesKnown, Waiting, initial]) fun current label next holds stepped => ?_
    exact closesKnown_step holds stepped
  obtain ⟨thread, front, rest, effect, -, split, -, done, isAfter⟩ := executed_split ended moved
  cases done
  have bound : ptr < move.before.core.uids.length := known ptr ⟨thread, by simp [split]⟩
  have start : Unlisted ptr move.after.core.manager move.after.core := by
    refine ⟨?_, ?_, fun _ leads => leads⟩
    · rw [isAfter]
      exact bound
    · rw [isAfter]
      change (SessionManager.removeSession _ _ _).1.sessions[ptr]? = none
      rw [SessionManager.removeSession_sessions, if_pos rfl]
  have unlisted : Unlisted ptr move.after.core.manager state.core := by
    refine after.history (fun _ current => Unlisted ptr move.after.core.manager current.core) start ?_
    intro _ next _ holds stepped mem
    refine unlisted_step holds (adds next ?_) stepped
    rw [cut]
    exact List.mem_append_right _ (List.mem_cons_of_mem _ mem)
  refine ⟨unlisted.unregistered, unlisted.index, fun keeps uid leads => ?_⟩
  have indexed : Indexed move.before.core := by
    refine before.history (fun _ current => Indexed current.core) ?_ fun _ next _ holds stepped mem => ?_
    · constructor <;> simp [initial]
    · exact indexed_step holds (keeps next mem) stepped
  have withdrawn := withdrawn_onConnClosed indexed ptr
  refine withdrawn.unindexed uid ?_
  have left := unlisted.index uid leads
  rw [isAfter] at left
  exact left

def closedAfterLogin : List Label :=
  ([.accept] : List Label) ++ loggingIn 0 "a" ++ ([.close 0, .run (.conn 0) 0] : List Label)

def comesBack : List Label := ([.run (.conn 0) 0, .run (.strand 0) 0, .accept] : List Label) ++ loggingIn 1 "a"

theorem closed_session_stays_away_after_login :
    ∃ history state past move later, Reaches history state ∧ history = past ++ move :: later ∧ later.length = 8 ∧
      executed move = some (0, .onConnClosed 0) ∧ state.core.manager.findSession "a" = some 1 ∧
      state.core.manager.sessions[(0 : SessionPtr)]? = none ∧ ∀ uid, state.core.manager.findSession uid ≠ some 0 := by
  have ended : executed (nextMove step initial closedAfterLogin (.run (.conn 0) 0)) = some (0, .onConnClosed 0) := by
    decide +kernel
  have before := run_of_enabled (by decide +kernel : (execute step initial closedAfterLogin).isSome)
  have removal := step_nextMove
    (by decide +kernel : (step (final step initial closedAfterLogin) (.run (.conn 0) 0)).isSome)
  have after := run_of_enabled (by decide +kernel : (execute step
    (nextMove step initial closedAfterLogin (.run (.conn 0) 0)).after comesBack).isSome)
  have run := before.append (.cons removal after)
  have away := closed_session_stays_away _ _ run (by decide +kernel) _ _ _ rfl 0 0 ended
  exact ⟨_, _, _, _, _, run, rfl, by decide +kernel, ended, by decide +kernel, away.1, away.2.2 (by decide +kernel)⟩

def closedBeforeLogin : List Label :=
  [.accept, .receive 0 (.session (.reqLogin { uid := "a" })), .run (.conn 0) 0, .close 0, .run (.conn 0) 0]

def lateLogin : List Label :=
  [.run (.conn 0) 0, .run (.strand 0) 0, .run (.strand 0) 0, .run (.strand 0) 0, .run (.strand 0) 0]

theorem late_login_brings_session_back :
    ∃ history state past move later, Reaches history state ∧ history = past ++ move :: later ∧
      executed move = some (0, .onConnClosed 0) ∧ move.after.core.manager.sessions[(0 : SessionPtr)]? = none ∧
      (state.core.sessions[0]?).map Session.closed = some true ∧
      state.core.manager.sessions[(0 : SessionPtr)]? = some 0 ∧ state.core.manager.findSession "a" = some 0 := by
  have before := run_of_enabled (by decide +kernel : (execute step initial closedBeforeLogin).isSome)
  have removal := step_nextMove
    (by decide +kernel : (step (final step initial closedBeforeLogin) (.run (.conn 0) 0)).isSome)
  have after := run_of_enabled (by decide +kernel : (execute step
    (nextMove step initial closedBeforeLogin (.run (.conn 0) 0)).after lateLogin).isSome)
  refine ⟨_, _, _, _, _, before.append (.cons removal after), rfl, ?_⟩
  decide +kernel

end Rsp.UserServer
