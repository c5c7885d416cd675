import Rsp.RoomServer.Placement

/-! The two membership indexes agree whenever no strand task is pending.

A join or a leave changes `users_` on the room's strand and the manager's index in a
later critical section. In between, the missing half is an item waiting at the front of
that strand, and the invariant `Agreement` accounts for it there.
-/

set_option autoImplicit false

namespace Rsp.RoomServer

open Message Foundation

/-! ## Updating the view -/

theorem set_some {members : List Membership} {ptr : RoomPtr} {old new : Membership}
    (found : members[ptr]? = some old) (target : RoomPtr) (member : Membership) :
    (members.set ptr new)[target]? = some member ↔
      (target = ptr ∧ member = new) ∨ (target ≠ ptr ∧ members[target]? = some member) := by
  have bound : ptr < members.length := (List.getElem?_eq_some_iff.mp found).1
  by_cases same : target = ptr
  · subst same
    simp [List.getElem?_set_self bound, eq_comm]
  · simp [List.getElem?_set_ne (Ne.symm same), same]

theorem concat_some (members : List Membership) (new : Membership) (target : RoomPtr) (member : Membership) :
    (members ++ [new])[target]? = some member ↔
      members[target]? = some member ∨ (target = members.length ∧ member = new) := by
  rcases Nat.lt_trichotomy target members.length with below | same | above
  · simp [List.getElem?_append_left below, Nat.ne_of_lt below]
  · subst same
    simp [eq_comm]
  · have out : (members ++ [new])[target]? = none := List.getElem?_eq_none (by simp; omega)
    have outside : members[target]? = none := List.getElem?_eq_none (by omega)
    simp [out, outside, Nat.ne_of_gt above]

/-! ## The invariant -/

def Task.joining (ptr : RoomPtr) (uid : Uid) : Task → Prop
  | .handle _ (.joinedRoom room joined ..) => room = ptr ∧ joined = uid
  | _ => False

def Task.leaving (ptr : RoomPtr) (uid : Uid) : Task → Prop
  | .handle _ (.leftRoom room left ..) => room = ptr ∧ left = uid
  | _ => False

theorem Task.joining_commits {task : Task} {ptr : RoomPtr} {uid : Uid} (joining : task.joining ptr uid) :
    task.commits ∧ task.home = some ptr := by
  unfold Task.joining at joining
  split at joining
  · obtain ⟨rfl, -⟩ := joining
    exact ⟨trivial, rfl⟩
  · cases joining

theorem Task.leaving_commits {task : Task} {ptr : RoomPtr} {uid : Uid} (leaving : task.leaving ptr uid) :
    task.commits ∧ task.home = some ptr := by
  unfold Task.leaving at leaving
  split at leaving
  · obtain ⟨rfl, -⟩ := leaving
    exact ⟨trivial, rfl⟩
  · cases leaving

theorem joining_joinedRoom {request : Admitted} {ptr : RoomPtr} {uid : Uid} {inserted : Bool}
    {response : User2RoomResJoinRoom} (target : RoomPtr) (name : Uid) :
    (Task.handle request (.joinedRoom ptr uid inserted response)).joining target name ↔ target = ptr ∧ name = uid := by
  simp [Task.joining, eq_comm]

theorem leaving_leftRoom {request : Admitted} {ptr : RoomPtr} {uid : Uid} {empty : Bool}
    {response : User2RoomResLeaveRoom} (target : RoomPtr) (name : Uid) :
    (Task.handle request (.leftRoom ptr uid empty response)).leaving target name ↔ target = ptr ∧ name = uid := by
  simp [Task.leaving, eq_comm]

/-- Both indexes describe the same membership, up to the items that still have to record it. -/
structure Agreement (manager : RoomManager) (members : List Membership) (pending : Task → Prop) : Prop where
  unique : ∀ {first second : RoomPtr} {one other : Membership} {uid : Uid}, members[first]? = some one →
    members[second]? = some other → one.lifecycle = .kOpen → other.lifecycle = .kOpen →
    uid ∈ one.users → uid ∈ other.users → first = second
  registered : ∀ {roomId : RoomId} {ptr : RoomPtr}, manager.rooms[roomId]? = some ptr →
    ∃ member, members[ptr]? = some member ∧ member.roomId = roomId ∧ member.lifecycle = .kOpen
  keyed : ∀ {uid : Uid} {roomId : RoomId}, manager.userRooms[uid]? = some roomId →
    ∃ ptr, manager.rooms[roomId]? = some ptr
  joining : ∀ {task : Task} {ptr : RoomPtr} {uid : Uid}, pending task → task.joining ptr uid →
    ∃ member, members[ptr]? = some member ∧ member.lifecycle = .kOpen ∧ uid ∈ member.users
  leaving : ∀ {task : Task} {ptr : RoomPtr} {uid : Uid}, pending task → task.leaving ptr uid →
    ∃ member, members[ptr]? = some member ∧ uid ∉ member.users
  closing : ∀ {task : Task} {ptr : RoomPtr}, pending task → task.closes ptr →
    ptr < members.length ∧ ∀ roomId : RoomId, manager.rooms[roomId]? ≠ some ptr
  indexed : ∀ {roomId : RoomId} {ptr : RoomPtr} {member : Membership} {uid : Uid},
    manager.rooms[roomId]? = some ptr → members[ptr]? = some member → uid ∈ member.users →
    manager.userRooms[uid]? = some roomId ∨ ∃ task, pending task ∧ task.joining ptr uid
  resident : ∀ {roomId : RoomId} {ptr : RoomPtr} {member : Membership} {uid : Uid},
    manager.userRooms[uid]? = some roomId → manager.rooms[roomId]? = some ptr → members[ptr]? = some member →
    uid ∈ member.users ∨ ∃ task, pending task ∧ task.leaving ptr uid

namespace Agreement

variable {manager : RoomManager} {members : List Membership} {rest : Task → Prop} {task : Task}

theorem drop (holds : Agreement manager members fun item => item = task ∨ rest item) (quiet : ¬ task.commits) :
    Agreement manager members rest where
  unique := holds.unique
  registered := holds.registered
  keyed := holds.keyed
  joining waits := holds.joining (.inr waits)
  leaving waits := holds.leaving (.inr waits)
  closing waits := holds.closing (.inr waits)
  indexed found stored present := by
    rcases holds.indexed found stored present with indexed | ⟨item, rfl | waits, joining⟩
    · exact .inl indexed
    · exact absurd (Task.joining_commits joining).1 quiet
    · exact .inr ⟨item, waits, joining⟩
  resident indexed found stored := by
    rcases holds.resident indexed found stored with present | ⟨item, rfl | waits, leaving⟩
    · exact .inl present
    · exact absurd (Task.leaving_commits leaving).1 quiet
    · exact .inr ⟨item, waits, leaving⟩

theorem add (new : Task → Prop) (holds : Agreement manager members rest)
    (plain : ∀ item, new item → ¬ item.commits ∧ ∀ room, ¬ item.closes room) :
    Agreement manager members fun item => new item ∨ rest item where
  unique := holds.unique
  registered := holds.registered
  keyed := holds.keyed
  joining := by
    rintro item ptr uid (fresh | waits) joining
    · exact absurd (Task.joining_commits joining).1 (plain item fresh).1
    · exact holds.joining waits joining
  leaving := by
    rintro item ptr uid (fresh | waits) leaving
    · exact absurd (Task.leaving_commits leaving).1 (plain item fresh).1
    · exact holds.leaving waits leaving
  closing := by
    rintro item ptr (fresh | waits) closes
    · exact absurd closes ((plain item fresh).2 ptr)
    · exact holds.closing waits closes
  indexed found stored present :=
    (holds.indexed found stored present).imp_right fun ⟨item, waits, joining⟩ => ⟨item, .inr waits, joining⟩
  resident indexed found stored :=
    (holds.resident indexed found stored).imp_right fun ⟨item, waits, leaving⟩ => ⟨item, .inr waits, leaving⟩

theorem create {uid : Uid} {roomId : RoomId} {created : Membership} (holds : Agreement manager members rest)
    (identity : created.roomId = roomId) (isOpen : created.lifecycle = .kOpen)
    (owner : ∀ user, user ∈ created.users ↔ user = uid) (fresh : manager.rooms[roomId]? = none)
    (outside : ∀ (ptr : RoomPtr) (member : Membership), members[ptr]? = some member → member.lifecycle = .kOpen → uid ∉ member.users) :
    Agreement { manager with
      rooms := manager.rooms.insert roomId members.length
      userRooms := manager.userRooms.insert uid roomId } (members ++ [created]) rest where
  -- the owner is in no other open room
  unique {first second one other user} := by
    intro here there openOne openOther inOne inOther
    rw [concat_some] at here there
    rcases here with here | ⟨rfl, rfl⟩ <;> rcases there with there | ⟨rfl, rfl⟩
    · exact holds.unique here there openOne openOther inOne inOther
    · obtain rfl := (owner user).mp inOther
      exact absurd inOne (outside _ _ here openOne)
    · obtain rfl := (owner user).mp inOne
      exact absurd inOther (outside _ _ there openOther)
    · rfl
  registered {id ptr} := by
    intro found
    simp only [Std.ExtTreeMap.getElem?_insert, Std.LawfulEqCmp.compare_eq_iff_eq] at found
    split at found
    · next same =>
      cases found
      exact ⟨created, by simp, identity.trans same, isOpen⟩
    · obtain ⟨member, stored, sameId, isOpen⟩ := holds.registered found
      exact ⟨member, (concat_some _ _ _ _).mpr (.inl stored), sameId, isOpen⟩
  keyed {user id} := by
    intro indexed
    simp only [Std.ExtTreeMap.getElem?_insert, Std.LawfulEqCmp.compare_eq_iff_eq] at indexed ⊢
    split at indexed
    · cases indexed
      exact ⟨members.length, by simp⟩
    · obtain ⟨ptr, found⟩ := holds.keyed indexed
      have other : roomId ≠ id := by
        rintro rfl
        rw [fresh] at found
        cases found
      exact ⟨ptr, by simp [other, found]⟩
  joining waits joining := by
    obtain ⟨member, stored, isOpen, present⟩ := holds.joining waits joining
    exact ⟨member, (concat_some _ _ _ _).mpr (.inl stored), isOpen, present⟩
  leaving waits leaving := by
    obtain ⟨member, stored, absent⟩ := holds.leaving waits leaving
    exact ⟨member, (concat_some _ _ _ _).mpr (.inl stored), absent⟩
  -- a room about to close was there before, so it is not the new one
  closing {item ptr} waits closes := by
    obtain ⟨bound, unregistered⟩ := holds.closing waits closes
    refine ⟨by rw [List.length_append]; exact Nat.lt_add_right _ bound, ?_⟩
    intro id found
    simp only [Std.ExtTreeMap.getElem?_insert, Std.LawfulEqCmp.compare_eq_iff_eq] at found
    split at found
    · cases found
      exact absurd bound (Nat.lt_irrefl _)
    · exact unregistered id found
  indexed {id ptr member user} := by
    intro found stored present
    simp only [Std.ExtTreeMap.getElem?_insert, Std.LawfulEqCmp.compare_eq_iff_eq] at found ⊢
    split at found
    · next same =>
      cases found
      rcases (concat_some _ _ _ _).mp stored with stored | ⟨-, rfl⟩
      · simp at stored
      · simp [(owner user).mp present, same]
    · obtain ⟨member', stored', -, isOpen⟩ := holds.registered found
      have bound : ptr < members.length := (List.getElem?_eq_some_iff.mp stored').1
      rw [List.getElem?_append_left bound] at stored
      obtain rfl := Option.some.inj (stored.symm.trans stored')
      have other : uid ≠ user := by
        rintro rfl
        exact outside _ _ stored isOpen present
      simpa [other] using holds.indexed found stored present
  resident {id ptr member user} := by
    intro indexed found stored
    simp only [Std.ExtTreeMap.getElem?_insert, Std.LawfulEqCmp.compare_eq_iff_eq] at indexed found
    split at indexed
    · next same =>
      cases indexed
      simp only [if_true, Option.some.injEq] at found
      subst found
      rcases (concat_some _ _ _ _).mp stored with stored | ⟨-, rfl⟩
      · simp at stored
      · exact .inl ((owner user).mpr same.symm)
    · obtain ⟨ptr', known⟩ := holds.keyed indexed
      have other : roomId ≠ id := by
        rintro rfl
        rw [fresh] at known
        cases known
      simp only [other, if_false] at found
      obtain ⟨member', stored', -, -⟩ := holds.registered found
      have bound : ptr < members.length := (List.getElem?_eq_some_iff.mp stored').1
      rw [List.getElem?_append_left bound] at stored
      exact holds.resident indexed found stored

section Strand

variable {ptr : RoomPtr} {old new : Membership}

theorem registered_set (holds : Agreement manager members rest) (found : members[ptr]? = some old)
    (sameId : new.roomId = old.roomId) (sameLife : new.lifecycle = old.lifecycle) {roomId : RoomId}
    {target : RoomPtr} (known : manager.rooms[roomId]? = some target) :
    ∃ member, (members.set ptr new)[target]? = some member ∧ member.roomId = roomId ∧
      member.lifecycle = .kOpen := by
  obtain ⟨member, stored, identity, isOpen⟩ := holds.registered known
  by_cases same : target = ptr
  · subst same
    obtain rfl := Option.some.inj (found.symm.trans stored)
    exact ⟨new, (set_some found _ _).mpr (.inl ⟨rfl, rfl⟩), sameId.trans identity, sameLife.trans isOpen⟩
  · exact ⟨member, (set_some found _ _).mpr (.inr ⟨same, stored⟩), identity, isOpen⟩

theorem joining_set (holds : Agreement manager members rest) (found : members[ptr]? = some old)
    (alone : ∀ item, rest item → item.commits → item.home ≠ some ptr) {item : Task} {target : RoomPtr} {uid : Uid}
    (waits : rest item) (joining : item.joining target uid) :
    ∃ member, (members.set ptr new)[target]? = some member ∧ member.lifecycle = .kOpen ∧ uid ∈ member.users := by
  obtain ⟨member, stored, isOpen, present⟩ := holds.joining waits joining
  have other : target ≠ ptr := by
    rintro rfl
    exact alone item waits (Task.joining_commits joining).1 (Task.joining_commits joining).2
  exact ⟨member, (set_some found _ _).mpr (.inr ⟨other, stored⟩), isOpen, present⟩

theorem leaving_set (holds : Agreement manager members rest) (found : members[ptr]? = some old)
    (alone : ∀ item, rest item → item.commits → item.home ≠ some ptr) {item : Task} {target : RoomPtr} {uid : Uid}
    (waits : rest item) (leaving : item.leaving target uid) :
    ∃ member, (members.set ptr new)[target]? = some member ∧ uid ∉ member.users := by
  obtain ⟨member, stored, absent⟩ := holds.leaving waits leaving
  have other : target ≠ ptr := by
    rintro rfl
    exact alone item waits (Task.leaving_commits leaving).1 (Task.leaving_commits leaving).2
  exact ⟨member, (set_some found _ _).mpr (.inr ⟨other, stored⟩), absent⟩

/-- A user enters an open room and is in no other; the index follows with the new item. -/
theorem enter {uid : Uid} {user : User} {item : Task} (holds : Agreement manager members rest)
    (found : members[ptr]? = some old) (joins : ∀ target name, item.joining target name ↔ target = ptr ∧ name = uid)
    (keeps : ∀ target name, ¬ item.leaving target name) (stays : ∀ target, ¬ item.closes target)
    (isOpen : old.lifecycle = .kOpen)
    (outside : ∀ (other : RoomPtr) (member : Membership), members[other]? = some member → member.lifecycle = .kOpen → uid ∈ member.users →
      other = ptr)
    (alone : ∀ item, rest item → item.commits → item.home ≠ some ptr) :
    Agreement manager (members.set ptr { old with users := old.users.insert uid user })
      fun waiting => waiting = item ∨ rest waiting where
  unique {first second one other name} := by
    intro here there openOne openOther inOne inOther
    rw [set_some found] at here there
    rcases here with ⟨rfl, rfl⟩ | ⟨-, here⟩ <;> rcases there with ⟨rfl, rfl⟩ | ⟨-, there⟩
    · rfl
    · simp only [Std.ExtTreeMap.mem_insert, Std.LawfulEqCmp.compare_eq_iff_eq] at inOne
      rcases inOne with rfl | inOne
      · exact (outside _ _ there openOther inOther).symm
      · exact holds.unique found there openOne openOther inOne inOther
    · simp only [Std.ExtTreeMap.mem_insert, Std.LawfulEqCmp.compare_eq_iff_eq] at inOther
      rcases inOther with rfl | inOther
      · exact outside _ _ here openOne inOne
      · exact holds.unique here found openOne openOther inOne inOther
    · exact holds.unique here there openOne openOther inOne inOther
  registered known := by refine holds.registered_set found ?_ ?_ known <;> rfl
  keyed := holds.keyed
  joining {waiting target name} := by
    rintro (rfl | waits) joining
    · obtain ⟨rfl, rfl⟩ := (joins _ _).mp joining
      exact ⟨_, (set_some found _ _).mpr (.inl ⟨rfl, rfl⟩), isOpen, by simp⟩
    · exact holds.joining_set found alone waits joining
  leaving {waiting target name} := by
    rintro (rfl | waits) leaving
    · exact absurd leaving (keeps _ _)
    · exact holds.leaving_set found alone waits leaving
  closing {waiting target} := by
    rintro (rfl | waits) closes
    · exact absurd closes (stays _)
    · simpa using holds.closing waits closes
  indexed {id target member name} known stored present := by
    rcases (set_some found _ _).mp stored with ⟨rfl, rfl⟩ | ⟨-, stored⟩
    · simp only [Std.ExtTreeMap.mem_insert, Std.LawfulEqCmp.compare_eq_iff_eq] at present
      rcases present with rfl | present
      · exact .inr ⟨item, .inl rfl, (joins _ _).mpr ⟨rfl, rfl⟩⟩
      · exact (holds.indexed known found present).imp_right fun ⟨waiting, waits, joining⟩ => ⟨waiting, .inr waits, joining⟩
    · exact (holds.indexed known stored present).imp_right fun ⟨waiting, waits, joining⟩ => ⟨waiting, .inr waits, joining⟩
  resident {id target member name} indexed known stored := by
    rcases (set_some found _ _).mp stored with ⟨rfl, rfl⟩ | ⟨-, stored⟩
    · rcases holds.resident indexed known found with present | ⟨waiting, waits, leaving⟩
      · exact .inl (by simp [present])
      · exact .inr ⟨waiting, .inr waits, leaving⟩
    · exact (holds.resident indexed known stored).imp_right fun ⟨waiting, waits, leaving⟩ => ⟨waiting, .inr waits, leaving⟩

theorem exit {uid : Uid} {item : Task} (holds : Agreement manager members rest) (found : members[ptr]? = some old)
    (leaves : ∀ target name, item.leaving target name ↔ target = ptr ∧ name = uid)
    (keeps : ∀ target name, ¬ item.joining target name) (stays : ∀ target, ¬ item.closes target)
    (alone : ∀ item, rest item → item.commits → item.home ≠ some ptr) :
    Agreement manager (members.set ptr { old with users := old.users.erase uid })
      fun waiting => waiting = item ∨ rest waiting where
  unique {first second one other name} := by
    have was : ∀ {target : RoomPtr} {member : Membership},
        (members.set ptr { old with users := old.users.erase uid })[target]? = some member →
        member.lifecycle = .kOpen → name ∈ member.users →
        ∃ before, members[target]? = some before ∧ before.lifecycle = .kOpen ∧ name ∈ before.users := by
      intro target member stored isOpen present
      rcases (set_some found _ _).mp stored with ⟨rfl, rfl⟩ | ⟨-, stored⟩
      · exact ⟨old, found, isOpen, (Std.ExtTreeMap.mem_erase.mp present).2⟩
      · exact ⟨member, stored, isOpen, present⟩
    intro here there openOne openOther inOne inOther
    obtain ⟨_, here, openOne, inOne⟩ := was here openOne inOne
    obtain ⟨_, there, openOther, inOther⟩ := was there openOther inOther
    exact holds.unique here there openOne openOther inOne inOther
  registered known := by refine holds.registered_set found ?_ ?_ known <;> rfl
  keyed := holds.keyed
  joining {waiting target name} := by
    rintro (rfl | waits) joining
    · exact absurd joining (keeps _ _)
    · exact holds.joining_set found alone waits joining
  leaving {waiting target name} := by
    rintro (rfl | waits) leaving
    · obtain ⟨rfl, rfl⟩ := (leaves _ _).mp leaving
      exact ⟨_, (set_some found _ _).mpr (.inl ⟨rfl, rfl⟩), by simp⟩
    · exact holds.leaving_set found alone waits leaving
  closing {waiting target} := by
    rintro (rfl | waits) closes
    · exact absurd closes (stays _)
    · simpa using holds.closing waits closes
  indexed {id target member name} known stored present := by
    rcases (set_some found _ _).mp stored with ⟨rfl, rfl⟩ | ⟨-, stored⟩
    · have present := (Std.ExtTreeMap.mem_erase.mp present).2
      exact (holds.indexed known found present).imp_right fun ⟨waiting, waits, joining⟩ => ⟨waiting, .inr waits, joining⟩
    · exact (holds.indexed known stored present).imp_right fun ⟨waiting, waits, joining⟩ => ⟨waiting, .inr waits, joining⟩
  resident {id target member name} indexed known stored := by
    rcases (set_some found _ _).mp stored with ⟨rfl, rfl⟩ | ⟨-, stored⟩
    · by_cases same : name = uid
      · subst same
        exact .inr ⟨item, .inl rfl, (leaves _ _).mpr ⟨rfl, rfl⟩⟩
      · rcases holds.resident indexed known found with present | ⟨waiting, waits, leaving⟩
        · exact .inl (by simp [present, Ne.symm same])
        · exact .inr ⟨waiting, .inr waits, leaving⟩
    · exact (holds.resident indexed known stored).imp_right fun ⟨waiting, waits, leaving⟩ => ⟨waiting, .inr waits, leaving⟩

theorem close (holds : Agreement manager members rest) (found : members[ptr]? = some old)
    (unregistered : ∀ roomId : RoomId, manager.rooms[roomId]? ≠ some ptr)
    (alone : ∀ item, rest item → item.commits → item.home ≠ some ptr) :
    Agreement manager (members.set ptr { old with lifecycle := .kClosed }) rest := by
  have kept : ∀ {target : RoomPtr} {member : Membership},
      (members.set ptr { old with lifecycle := .kClosed })[target]? = some member → member.lifecycle = .kOpen →
      members[target]? = some member := by
    intro target member stored isOpen
    rcases (set_some found _ _).mp stored with ⟨rfl, rfl⟩ | ⟨-, stored⟩
    · cases isOpen
    · exact stored
  have registered : ∀ {roomId : RoomId} {target : RoomPtr} {member : Membership},
      manager.rooms[roomId]? = some target →
      (members.set ptr { old with lifecycle := .kClosed })[target]? = some member →
      members[target]? = some member := by
    intro roomId target member known stored
    rcases (set_some found _ _).mp stored with ⟨rfl, rfl⟩ | ⟨-, stored⟩
    · exact absurd known (unregistered roomId)
    · exact stored
  exact {
    unique := fun here there openOne openOther inOne inOther =>
      holds.unique (kept here openOne) (kept there openOther) openOne openOther inOne inOther
    registered := by
      intro roomId target known
      obtain ⟨member, stored, identity, isOpen⟩ := holds.registered known
      have other : target ≠ ptr := by
        rintro rfl
        exact unregistered roomId known
      exact ⟨member, (set_some found _ _).mpr (.inr ⟨other, stored⟩), identity, isOpen⟩
    keyed := holds.keyed
    joining := fun waits joining => holds.joining_set found alone waits joining
    leaving := fun waits leaving => holds.leaving_set found alone waits leaving
    closing := fun waits closes => by simpa using holds.closing waits closes
    indexed := fun known stored present => holds.indexed known (registered known stored) present
    resident := fun indexed known stored => holds.resident indexed known (registered known stored) }

theorem index {uid : Uid} (holds : Agreement manager members fun item => item = task ∨ rest item)
    (joins : ∀ target name, task.joining target name ↔ target = ptr ∧ name = uid)
    (keeps : ∀ target name, ¬ task.leaving target name) (found : members[ptr]? = some old)
    (known : manager.rooms[old.roomId]? = some ptr) :
    Agreement { manager with userRooms := manager.userRooms.insert uid old.roomId } members rest := by
  obtain ⟨member, stored, isOpen, present⟩ := holds.joining (.inl rfl) ((joins ptr uid).mpr ⟨rfl, rfl⟩)
  obtain rfl := Option.some.inj (found.symm.trans stored)
  exact {
    unique := holds.unique
    registered := holds.registered
    keyed := by
      intro name roomId indexed
      simp only [Std.ExtTreeMap.getElem?_insert, Std.LawfulEqCmp.compare_eq_iff_eq] at indexed
      split at indexed
      · cases indexed
        exact ⟨ptr, known⟩
      · exact holds.keyed indexed
    joining := fun waits joining => holds.joining (.inr waits) joining
    leaving := fun waits leaving => holds.leaving (.inr waits) leaving
    closing := fun waits closes => holds.closing (.inr waits) closes
    indexed := by
      intro roomId target member name registered located inside
      simp only [Std.ExtTreeMap.getElem?_insert, Std.LawfulEqCmp.compare_eq_iff_eq]
      by_cases same : uid = name
      · subst same
        obtain ⟨there, placed, identity, openThere⟩ := holds.registered registered
        obtain rfl := Option.some.inj (located.symm.trans placed)
        -- The user is in one open room only, so the registered room is the one being recorded.
        obtain rfl := holds.unique located found openThere isOpen inside present
        obtain rfl := Option.some.inj (found.symm.trans located)
        simp [identity]
      · rcases holds.indexed registered located inside with indexed | ⟨item, rfl | waits, joining⟩
        · simp [same, indexed]
        · exact absurd ((joins _ _).mp joining).2.symm same
        · exact .inr ⟨item, waits, joining⟩
    resident := by
      intro roomId target member name indexed registered located
      simp only [Std.ExtTreeMap.getElem?_insert, Std.LawfulEqCmp.compare_eq_iff_eq] at indexed
      split at indexed
      · next same =>
        cases indexed
        obtain rfl := Option.some.inj (known.symm.trans registered)
        obtain rfl := Option.some.inj (found.symm.trans located)
        exact .inl (same ▸ present)
      · rcases holds.resident indexed registered located with inside | ⟨item, rfl | waits, leaving⟩
        · exact .inl inside
        · exact absurd leaving (keeps _ _)
        · exact .inr ⟨item, waits, leaving⟩ }

/-- The room was unregistered in the meantime: the join is refused and nothing is recorded. -/
theorem indexStale {uid : Uid} (holds : Agreement manager members fun item => item = task ∨ rest item)
    (joins : ∀ target name, task.joining target name ↔ target = ptr ∧ name = uid)
    (keeps : ∀ target name, ¬ task.leaving target name) (found : members[ptr]? = some old)
    (stale : manager.rooms[old.roomId]? ≠ some ptr) : Agreement manager members rest where
  unique := holds.unique
  registered := holds.registered
  keyed := holds.keyed
  joining waits := holds.joining (.inr waits)
  leaving waits := holds.leaving (.inr waits)
  closing waits := holds.closing (.inr waits)
  indexed known stored present := by
    rcases holds.indexed known stored present with indexed | ⟨item, rfl | waits, joining⟩
    · exact .inl indexed
    · obtain ⟨rfl, rfl⟩ := (joins _ _).mp joining
      obtain ⟨member, located, rfl, -⟩ := holds.registered known
      obtain rfl := Option.some.inj (found.symm.trans located)
      exact absurd known stale
    · exact .inr ⟨item, waits, joining⟩
  resident indexed known stored := by
    rcases holds.resident indexed known stored with present | ⟨item, rfl | waits, leaving⟩
    · exact .inl present
    · exact absurd leaving (keeps _ _)
    · exact .inr ⟨item, waits, leaving⟩

theorem unindex {uid : Uid} (holds : Agreement manager members fun item => item = task ∨ rest item)
    (leaves : ∀ target name, task.leaving target name ↔ target = ptr ∧ name = uid)
    (keeps : ∀ target name, ¬ task.joining target name) (found : members[ptr]? = some old)
    (known : manager.rooms[old.roomId]? = some ptr) (was : manager.userRooms[uid]? = some old.roomId) :
    Agreement { manager with userRooms := manager.userRooms.erase uid } members rest := by
  obtain ⟨member, stored, absent⟩ := holds.leaving (.inl rfl) ((leaves ptr uid).mpr ⟨rfl, rfl⟩)
  obtain rfl := Option.some.inj (found.symm.trans stored)
  exact {
    unique := holds.unique
    registered := holds.registered
    keyed := by
      intro name roomId indexed
      simp only [Std.ExtTreeMap.getElem?_erase, Std.LawfulEqCmp.compare_eq_iff_eq] at indexed
      split at indexed
      · cases indexed
      · exact holds.keyed indexed
    joining := fun waits joining => holds.joining (.inr waits) joining
    leaving := fun waits leaving => holds.leaving (.inr waits) leaving
    closing := fun waits closes => holds.closing (.inr waits) closes
    indexed := by
      intro roomId target member name registered located inside
      simp only [Std.ExtTreeMap.getElem?_erase, Std.LawfulEqCmp.compare_eq_iff_eq]
      rcases holds.indexed registered located inside with indexed | ⟨item, rfl | waits, joining⟩
      · have other : uid ≠ name := by
          rintro rfl
          obtain rfl := Option.some.inj (was.symm.trans indexed)
          obtain rfl := Option.some.inj (known.symm.trans registered)
          obtain rfl := Option.some.inj (found.symm.trans located)
          exact absent inside
        simp [other, indexed]
      · exact absurd joining (keeps _ _)
      · exact .inr ⟨item, waits, joining⟩
    resident := by
      intro roomId target member name indexed registered located
      simp only [Std.ExtTreeMap.getElem?_erase, Std.LawfulEqCmp.compare_eq_iff_eq] at indexed
      split at indexed
      · cases indexed
      · next other =>
        rcases holds.resident indexed registered located with inside | ⟨item, rfl | waits, leaving⟩
        · exact .inl inside
        · exact absurd ((leaves _ _).mp leaving).2.symm other
        · exact .inr ⟨item, waits, leaving⟩ }

/-- The user is indexed elsewhere, or the room is gone: nothing is left to remove. -/
theorem unindexStale {uid : Uid} (holds : Agreement manager members fun item => item = task ∨ rest item)
    (leaves : ∀ target name, task.leaving target name ↔ target = ptr ∧ name = uid)
    (keeps : ∀ target name, ¬ task.joining target name) (found : members[ptr]? = some old)
    (elsewhere : manager.userRooms[uid]? ≠ some old.roomId ∨ manager.rooms[old.roomId]? ≠ some ptr) :
    Agreement manager members rest where
  unique := holds.unique
  registered := holds.registered
  keyed := holds.keyed
  joining waits := holds.joining (.inr waits)
  leaving waits := holds.leaving (.inr waits)
  closing waits := holds.closing (.inr waits)
  indexed known stored present := by
    rcases holds.indexed known stored present with indexed | ⟨item, rfl | waits, joining⟩
    · exact .inl indexed
    · exact absurd joining (keeps _ _)
    · exact .inr ⟨item, waits, joining⟩
  resident indexed known stored := by
    rcases holds.resident indexed known stored with present | ⟨item, rfl | waits, leaving⟩
    · exact .inl present
    · obtain ⟨rfl, rfl⟩ := (leaves _ _).mp leaving
      obtain ⟨member, located, rfl, -⟩ := holds.registered known
      obtain rfl := Option.some.inj (found.symm.trans located)
      rcases elsewhere with elsewhere | elsewhere
      · exact absurd indexed elsewhere
      · exact absurd known elsewhere
    · exact .inr ⟨item, waits, leaving⟩

/-- Closing a room takes it out of both indexes before its contents are released. -/
theorem unregister {item : Task} (holds : Agreement manager members rest) (found : members[ptr]? = some old)
    (known : manager.rooms[old.roomId]? = some ptr) (quiet : ¬ item.commits)
    (closes : ∀ target, item.closes target ↔ target = ptr) :
    Agreement { manager with
      rooms := manager.rooms.erase old.roomId
      userRooms := manager.userRooms.filter fun _ joined => joined ≠ old.roomId } members
      fun waiting => waiting = item ∨ rest waiting := by
  have kept : ∀ {roomId : RoomId} {target : RoomPtr}, (manager.rooms.erase old.roomId)[roomId]? = some target →
      old.roomId ≠ roomId ∧ manager.rooms[roomId]? = some target := by
    intro roomId target registered
    simp only [Std.ExtTreeMap.getElem?_erase, Std.LawfulEqCmp.compare_eq_iff_eq] at registered
    split at registered
    · cases registered
    · next other => exact ⟨other, registered⟩
  have listed : ∀ {uid : Uid} {roomId : RoomId},
      (manager.userRooms.filter fun _ joined => joined ≠ old.roomId)[uid]? = some roomId ↔
        manager.userRooms[uid]? = some roomId ∧ roomId ≠ old.roomId := by
    intro uid roomId
    simp [Std.ExtTreeMap.getElem?_filter, Option.filter_eq_some_iff]
  exact {
    unique := holds.unique
    registered := fun registered => holds.registered (kept registered).2
    keyed := by
      intro uid roomId indexed
      obtain ⟨indexed, other⟩ := listed.mp indexed
      obtain ⟨target, registered⟩ := holds.keyed indexed
      exact ⟨target, by simp [Std.ExtTreeMap.getElem?_erase, Ne.symm other, registered]⟩
    joining := by
      rintro waiting target uid (rfl | waits) joining
      · exact absurd (Task.joining_commits joining).1 quiet
      · exact holds.joining waits joining
    leaving := by
      rintro waiting target uid (rfl | waits) leaving
      · exact absurd (Task.leaving_commits leaving).1 quiet
      · exact holds.leaving waits leaving
    closing := by
      rintro waiting target (rfl | waits) closing
      · obtain rfl := (closes _).mp closing
        refine ⟨(List.getElem?_eq_some_iff.mp found).1, ?_⟩
        intro roomId registered
        obtain ⟨other, registered⟩ := kept registered
        obtain ⟨member, located, identity, -⟩ := holds.registered registered
        obtain rfl := Option.some.inj (found.symm.trans located)
        exact other identity
      · obtain ⟨bound, unregistered⟩ := holds.closing waits closing
        exact ⟨bound, fun roomId registered => unregistered roomId (kept registered).2⟩
    -- a user of another room is not filtered out
    indexed := by
      intro roomId target member uid registered located inside
      obtain ⟨other, registered⟩ := kept registered
      rcases holds.indexed registered located inside with indexed | ⟨waiting, waits, joining⟩
      · exact .inl (listed.mpr ⟨indexed, Ne.symm other⟩)
      · exact .inr ⟨waiting, .inr waits, joining⟩
    resident := by
      intro roomId target member uid indexed registered located
      rcases holds.resident (listed.mp indexed).1 (kept registered).2 located with inside | ⟨waiting, waits, leaving⟩
      · exact .inl inside
      · exact .inr ⟨waiting, .inr waits, leaving⟩ }

end Strand

theorem clear (new : Task → Prop) (holds : Agreement manager members rest)
    (closes : ∀ item, new item → ∃ ptr, item = .close ptr ∧ ptr < members.length) :
    Agreement { stopping := true, rooms := ∅, userRooms := ∅ } members fun item => new item ∨ rest item where
  unique := holds.unique
  registered known := by simp at known
  keyed indexed := by simp at indexed
  joining := by
    rintro item ptr uid (fresh | waits) joining
    · obtain ⟨target, rfl, -⟩ := closes item fresh
      cases joining
    · exact holds.joining waits joining
  leaving := by
    rintro item ptr uid (fresh | waits) leaving
    · obtain ⟨target, rfl, -⟩ := closes item fresh
      cases leaving
    · exact holds.leaving waits leaving
  closing := by
    rintro item ptr (fresh | waits) closing
    · obtain ⟨target, rfl, bound⟩ := closes item fresh
      cases closing
      exact ⟨bound, by simp⟩
    · exact ⟨(holds.closing waits closing).1, by simp⟩
  indexed known := by simp at known
  resident indexed := by simp at indexed

end Agreement

/-! ## Conditions on a run -/

def Core.isMember (self : Core) (ptr : RoomPtr) (uid : Uid) : Bool :=
  match self.heap[ptr]? with
  | some room => room.lifecycle = .kOpen && room.users.contains uid
  | none => false

def draws (choice : Choice) (core : Core) : Task → Option RoomId
  | .handle request (.createRoom _) =>
      if core.registry.state request.ticket = some .kQueued ∧ core.manager.stopping = false then some choice.draw
      else none
  | _ => none

def enters (core : Core) : Task → Option (RoomPtr × Uid)
  | .handle request (.createRoom message) =>
      if core.registry.state request.ticket = some .kQueued ∧ core.manager.stopping = false then
        some (core.heap.length, message.uid)
      else none
  | .handle request (.joinRoom ptr uid _) =>
      if core.registry.state request.ticket = some .kQueued ∧
          (core.heap[ptr]?).map Room.lifecycle = some .kOpen then some (ptr, uid)
      else none
  | _ => none

def DrawsFresh (move : Transition State Label) : Prop :=
  ∀ found ∈ executed move, ∀ roomId ∈ draws found.1 move.before.core found.2,
    move.before.core.manager.rooms[roomId]? = none

def EntersAlone (move : Transition State Label) : Prop :=
  ∀ found ∈ executed move, ∀ entry ∈ enters move.before.core found.2, ∀ other < move.before.core.heap.length,
    move.before.core.isMember other entry.2 → other = entry.1

def KicksOut (move : Transition State Label) : Prop :=
  match executed move with
  | some (_, .onKickedOutUser ..) => True
  | _ => False

instance (move : Transition State Label) : Decidable (KicksOut move) := by
  unfold KicksOut
  split <;> infer_instance

instance (move : Transition State Label) : Decidable (DrawsFresh move) := by
  unfold DrawsFresh
  infer_instance

instance (move : Transition State Label) : Decidable (EntersAlone move) := by
  unfold EntersAlone
  infer_instance

theorem isMember_iff (core : Core) (ptr : RoomPtr) (uid : Uid) : core.isMember ptr uid = true ↔
    ∃ member, core.members[ptr]? = some member ∧ member.lifecycle = .kOpen ∧ uid ∈ member.users := by
  rw [Core.isMember, members_get]
  cases core.heap[ptr]? with
  | none => simp
  | some room => simp [Room.membership]

/-! ## Steps and runs -/

theorem agreement_touch {choice : Choice} {core : Core} {task : Task} {effect : Effect} {rest : Task → Prop}
    (holds : Agreement core.manager core.members fun item => item = task ∨ rest item)
    (touch : Touch choice core task effect)
    (alone : ∀ ptr, task.home = some ptr → ∀ item, rest item → item.commits → item.home ≠ some ptr)
    (fresh : ∀ roomId ∈ draws choice core task, core.manager.rooms[roomId]? = none)
    (solitary : ∀ entry ∈ enters core task, ∀ other < core.heap.length, core.isMember other entry.2 → other = entry.1)
    (stays : ∀ ptr uid reason, task ≠ .onKickedOutUser ptr uid reason) :
    Agreement effect.core.manager effect.core.members fun item => item ∈ items effect ∨ rest item := by
  -- whoever enters a room is in no other open one
  have outside : ∀ {target : RoomPtr} {uid : Uid}, enters core task = some (target, uid) →
      ∀ (other : RoomPtr) (member : Membership), core.members[other]? = some member →
        member.lifecycle = .kOpen → uid ∈ member.users → other = target := by
    intro target uid entering other member found isOpen present
    have bound : other < core.heap.length := by
      rw [← members_length]
      exact (List.getElem?_eq_some_iff.mp found).1
    exact solitary _ entering other bound ((isMember_iff _ _ _).mpr ⟨member, found, isOpen, present⟩)
  cases touch with
  | same quiet manager members plain =>
    rw [manager, members]
    exact (holds.drop quiet).add _ plain
  | @create request message _ created queued running make manager members plain =>
    have entering : enters core (.handle request (.createRoom message)) = some (core.heap.length, message.uid) := by
      simp [enters, queued, running]
    rw [manager, members, ← members_length]
    refine ((holds.drop (by simp [Task.commits])).create (by rw [make]; rfl) (by rw [make]; rfl) ?_
      (fresh _ (by simp [draws, queued, running])) ?_).add _ plain
    · intro user
      rw [make]
      simp only [Room.membership, Room.make, Std.ExtTreeMap.mem_insert, Std.LawfulEqCmp.compare_eq_iff_eq,
        Std.ExtTreeMap.not_mem_empty, or_false]
      exact eq_comm
    · intro ptr member found isOpen present
      have bound : ptr < core.heap.length := by
        rw [← members_length]
        exact (List.getElem?_eq_some_iff.mp found).1
      exact absurd (outside entering ptr member found isOpen present) (Nat.ne_of_lt bound)
  | @enter request ptr uid response _ inserted member queued found isOpen manager members next posts =>
    have entering : enters core (.handle request (.joinRoom ptr uid response)) = some (ptr, uid) := by
      obtain ⟨room, stored, rfl⟩ := Option.map_eq_some_iff.mp ((members_get _ _).symm.trans found)
      have isOpen : room.lifecycle = .kOpen := isOpen
      simp [enters, queued, stored, isOpen]
    rw [manager, members]
    simp only [items, next, posts, List.map_nil, List.append_nil, List.mem_singleton]
    exact (holds.drop (by simp [Task.commits])).enter found joining_joinedRoom (by simp [Task.leaving])
      (by simp [Task.closes]) isOpen (outside entering) (alone ptr rfl)
  | index member found registered manager members plain =>
    rw [manager, members]
    exact (holds.index joining_joinedRoom (by simp [Task.leaving]) found registered).add _ plain
  -- the room has left the registry in between, and the index stays as it is
  | indexStale member found stale manager members plain =>
    rw [manager, members]
    exact (holds.indexStale joining_joinedRoom (by simp [Task.leaving]) found stale).add _ plain
  | @exit request ptr uid response _ empty member found isOpen manager members next posts =>
    rw [manager, members]
    simp only [items, next, posts, List.map_nil, List.append_nil, List.mem_singleton]
    exact (holds.drop (by simp [Task.commits])).exit found leaving_leftRoom (by simp [Task.joining])
      (by simp [Task.closes]) (alone ptr rfl)
  | unindex member found registered indexed manager members plain =>
    rw [manager, members]
    exact (holds.unindex leaving_leftRoom (by simp [Task.joining]) found registered indexed).add _ plain
  | unindexStale member found elsewhere manager members plain =>
    rw [manager, members]
    exact (holds.unindexStale leaving_leftRoom (by simp [Task.joining]) found elsewhere).add _ plain
  | @unregister request ptr _ member found registered manager members next posts =>
    rw [manager, members]
    simp only [items, next, posts, List.map_nil, List.append_nil, List.mem_singleton]
    exact (holds.drop (by simp [Task.commits])).unregister found registered (by simp [Task.commits])
      (by simp [Task.closes, eq_comm])
  | @close _ ptr _ member closes found manager members plain =>
    rw [manager, members]
    have unregistered := (holds.closing (.inl rfl) closes).2
    exact ((holds.drop (closes_quiet closes)).close found unregistered (alone ptr (closes_home closes))).add _ plain
  | kick member found manager members plain => exact absurd rfl (stays _ _ _)

theorem agreement_mono {manager : RoomManager} {members : List Membership} {pending waiting : Task → Prop}
    (same : ∀ task, pending task ↔ waiting task) (holds : Agreement manager members pending) :
    Agreement manager members waiting := by
  obtain rfl : pending = waiting := funext fun task => propext (same task)
  exact holds

def Agreeing (state : State) : Prop := Agreement state.core.manager state.core.members (Waiting state)

theorem agreeing_step {state after : State} {label : Label} (orderly : Orderly state) (agreeing : Agreeing state)
    (moved : step state label = some after) (fresh : DrawsFresh ⟨state, label, after⟩)
    (solitary : EntersAlone ⟨state, label, after⟩) (stays : ¬ KicksOut ⟨state, label, after⟩) : Agreeing after := by
  cases stepped_of_step moved with
  | @delivered source message quiet =>
    refine agreement_mono ?_ (agreeing.add (· = .onRecv message) ?_)
    · intro task
      simp only [Waiting, List.mem_append, List.mem_singleton, Prod.mk.injEq]
      grind
    · rintro task rfl
      simp [Task.commits, Task.closes]
  | @ran thread choice task before later effect split quiet executed =>
    have ran := executed_ran choice (ranState thread before later effect) split quiet
    have holds : Agreement state.core.manager state.core.members fun item =>
        item = task ∨ ∃ owner, (owner, item) ∈ before ++ later := by
      exact agreement_mono (waiting_split split) agreeing
    refine agreement_mono (fun item => (waiting_ran item).symm) (agreement_touch holds (touch_of_executed executed) ?_ (fresh _ ran) (solitary _ ran) ?_)
    · rintro ptr home item ⟨owner, mem⟩ commits
      exact orderly.alone split quiet home mem commits
    · rintro ptr uid reason rfl
      exact stays (by simp only [KicksOut, ran])
  | @called ptr call room found contents =>
    refine agreement_mono ?_ (agreeing.add (apiTask ptr room call = some ·) ?_)
    · intro task
      simp only [Waiting, List.mem_append, List.mem_map, Option.mem_toList, Prod.mk.injEq]
      grind
    · intro task posted
      exact ⟨(apiTask_plain posted).1, (apiTask_plain posted).2.1⟩
  | stopped running =>
    refine agreement_mono ?_ (agreeing.clear
      (fun task => ∃ ptr ∈ state.core.manager.rooms.values, task = .close ptr ∧ ptr < state.core.members.length) ?_)
    · intro task
      simp only [Waiting, shutdown, RoomManager.shutdown, List.mem_append, List.mem_filterMap,
        Option.map_eq_some_iff, Prod.mk.injEq, members_length]
      constructor
      · rintro (⟨ptr, mem, rfl, bound⟩ | ⟨thread, waits⟩)
        · exact ⟨_, .inr ⟨ptr, mem, _, List.getElem?_eq_getElem bound, rfl, rfl⟩⟩
        · exact ⟨thread, .inl waits⟩
      · rintro ⟨thread, waits | ⟨ptr, mem, room, found, -, rfl⟩⟩
        · exact .inr ⟨thread, waits⟩
        · exact .inl ⟨ptr, mem, rfl, (List.getElem?_eq_some_iff.mp found).1⟩
    · rintro task ⟨ptr, -, same, bound⟩
      exact ⟨ptr, same, bound⟩

def Agrees (core : Core) : Prop :=
  (∀ first second uid, core.isMember first uid → core.isMember second uid → first = second) ∧
  ∀ (ptr : RoomPtr) (room : Room) (uid : Uid), core.heap[ptr]? = some room → room.lifecycle = .kOpen →
    core.manager.rooms[room.roomId]? = some ptr →
    (uid ∈ room.users ↔ core.manager.userRooms[uid]? = some room.roomId)

def Settled (state : State) : Prop := ∀ entry ∈ state.pool, entry.1 = .router

instance (state : State) : Decidable (Settled state) := by
  unfold Settled
  infer_instance

theorem agreeing_initial : Agreeing initial where
  unique here := by simp [initial, Core.members] at here
  registered known := by simp [initial] at known
  keyed indexed := by simp [initial] at indexed
  joining waits := by simp [Waiting, initial] at waits
  leaving waits := by simp [Waiting, initial] at waits
  closing waits := by simp [Waiting, initial] at waits
  indexed known := by simp [initial] at known
  resident indexed := by simp [initial] at indexed

theorem agrees_of_settled {state : State} (orderly : Orderly state) (agreeing : Agreeing state)
    (settled : Settled state) : Agrees state.core := by
  have committed : ∀ task, Waiting state task → ∀ ptr, task.home ≠ some ptr := by
    rintro task ⟨thread, mem⟩ ptr home
    obtain ⟨member, -, here⟩ := orderly.located _ mem ptr home
    have onRouter : thread = .router := settled _ mem
    rw [onRouter] at here
    cases here
  constructor
  · intro first second uid one other
    obtain ⟨_, here, openOne, inOne⟩ := (isMember_iff _ _ _).mp one
    obtain ⟨_, there, openOther, inOther⟩ := (isMember_iff _ _ _).mp other
    exact agreeing.unique here there openOne openOther inOne inOther
  · intro ptr room uid found isOpen registered
    have stored := found_membership found
    constructor
    · intro present
      rcases agreeing.indexed registered stored present with indexed | ⟨task, waits, joining⟩
      · exact indexed
      · exact absurd (Task.joining_commits joining).2 (committed task waits ptr)
    · intro indexed
      rcases agreeing.resident indexed registered stored with present | ⟨task, waits, leaving⟩
      · exact present
      · exact absurd (Task.leaving_commits leaving).2 (committed task waits ptr)

/-- In a run without kick-outs and with fresh ids, where users enter a room only while
they are in no other, both indexes agree whenever no strand task is pending. -/
theorem membership_agreement {history : History} {state : State} (run : Reaches history state)
    (stays : ∀ move ∈ history, ¬ KicksOut move) (fresh : ∀ move ∈ history, DrawsFresh move)
    (solitary : ∀ move ∈ history, EntersAlone move) (settled : Settled state) : Agrees state.core := by
  have agreeing : Agreeing state := by
    refine run.history (fun _ reached => Agreeing reached) agreeing_initial ?_
    intro past move reached holds moved mem
    exact agreeing_step (orderly_reached reached) holds moved (fresh move mem) (solitary move mem) (stays move mem)
  exact agrees_of_settled (orderly_reached run) agreeing settled

def handled (source : RoutingId) (message : ToRoom) (draw : RoomId) (items : Nat) : List Label :=
  .deliver source message :: List.replicate items (.run .router { draw })

def createJoinLeave : List Label :=
  handled "user" (.reqCreateRoom { requestId := 1, uid := "alice" }) 10000 5 ++
    ([.run (.strand 0) {}] : List Label) ++
    handled "user" (.reqJoinRoom { requestId := 2, uid := "bob", roomId := 10000 }) 10000 2 ++
    (List.replicate 5 (.run (.strand 0) {}) : List Label) ++
    handled "user" (.reqLeaveRoom { requestId := 3, uid := "alice" }) 10000 3 ++
    (List.replicate 5 (.run (.strand 0) {}) : List Label)

theorem membership_agreement_join_leave :
    ∃ history state, Reaches history state ∧ state.core.isMember 0 "bob" ∧ ¬ state.core.isMember 0 "alice" ∧
      Agrees state.core := by
  have run : Reaches _ (final step initial createJoinLeave) := run_of_enabled (by decide +kernel)
  refine ⟨_, _, run, by decide +kernel, by decide +kernel, ?_⟩
  exact membership_agreement run (by decide +kernel) (by decide +kernel) (by decide +kernel)
    (by decide +kernel)

def createsTwice : List Label :=
  handled "user" (.reqCreateRoom { requestId := 1, uid := "alice" }) 10000 5 ++ [.run (.strand 0) {}] ++
  handled "user" (.reqCreateRoom { requestId := 2, uid := "alice" }) 10001 5 ++ [.run (.strand 1) {}]

/-- Creating a second room leaves its owner behind in the first. -/
theorem second_room_leaves_ghost :
    ∃ history state, Reaches history state ∧ (∀ move ∈ history, ¬ KicksOut move) ∧
      (∀ move ∈ history, DrawsFresh move) ∧ Settled state ∧ ¬ Agrees state.core := by
  have run : Reaches _ (final step initial createsTwice) := run_of_enabled (by decide +kernel)
  refine ⟨_, _, run, by decide +kernel, by decide +kernel, by decide +kernel, ?_⟩
  intro agrees
  have same : (0 : RoomPtr) = 1 := agrees.1 0 1 "alice" (by decide +kernel) (by decide +kernel)
  cases same

end Rsp.RoomServer
