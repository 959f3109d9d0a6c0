import Mathlib.Data.Fintype.EquivFin
import Mathlib.Data.List.Nodup
import Mathlib.Data.String.Basic

/-!
Friends and blocks: one friendship row for each pair of users, whoever asked first, and the posts
that only friends see. A request is one transaction of the database, and one that raises changes
nothing.
-/
namespace Hartos.Social

inductive FriendStatus where
  | pending
  | active
  | rejected
  | blocked
  deriving DecidableEq

def FriendStatus.value : FriendStatus → String
  | .pending => "pending"
  | .active => "active"
  | .rejected => "rejected"
  | .blocked => "blocked"

structure Friendship where
  id : String
  userAId : String
  userBId : String
  status : FriendStatus
  initiatorId : String

structure Block where
  id : String
  blockerId : String
  blockedId : String

structure Db where
  friendships : List Friendship := []
  blocks : List Block := []

inductive Fault where
  | friendError (message : String)
  -- The database refuses a row whose key is taken.
  | integrityError

inductive Reply where
  | friendship (id status : String)
  | unblocked

def sortedPair (a b : String) : String × String := if a < b then (a, b) else (b, a)

def Friendship.pair (row : Friendship) : String × String := (row.userAId, row.userBId)

variable (db : Db)

def Db.rowOf (pair : String × String) : Option Friendship :=
  db.friendships.find? fun row => decide (row.pair = pair)

def Db.rowById (id : String) : Option Friendship :=
  db.friendships.find? fun row => decide (row.id = id)

def Db.update (id : String) (change : Friendship → Friendship) : Db :=
  { db with friendships := db.friendships.map fun row => if row.id = id then change row else row }

def Db.delete (id : String) : Db :=
  { db with friendships := db.friendships.filter fun row => !decide (row.id = id) }

def Db.add (row : Friendship) : Db :=
  { db with friendships := db.friendships ++ [row] }

def Db.insert (row : Friendship) : Except Fault Db :=
  if db.friendships.any fun other => decide (other.id = row.id ∨ other.pair = row.pair) then
    .error .integrityError
  else .ok (db.add row)

def isBlockedEitherWay (x y : String) : Bool :=
  db.blocks.any fun block =>
    decide (block.blockerId = x ∧ block.blockedId = y) ||
      decide (block.blockerId = y ∧ block.blockedId = x)

def Friendship.withStatus (status : FriendStatus) (row : Friendship) : Friendship :=
  { row with status }

def Friendship.askedBy (user : String) (row : Friendship) : Friendship :=
  { row with status := .pending, initiatorId := user }

def newRequest (fromUserId toUserId fid : String) : Friendship :=
  let pair := sortedPair fromUserId toUserId
  ⟨fid, pair.1, pair.2, .pending, fromUserId⟩

def acceptInternal (friendshipId acceptingUserId : String) : Except Fault (Reply × Db) :=
  match db.rowById friendshipId with
  | none => .error (.friendError "not found")
  | some row =>
    if acceptingUserId ≠ row.userAId ∧ acceptingUserId ≠ row.userBId then
      .error (.friendError "not a participant")
    else if acceptingUserId = row.initiatorId ∧ row.status = .pending then
      .error (.friendError "initiator cannot self-accept")
    else
      match row.status with
      | .active => .ok (.friendship friendshipId "active", db)
      | .blocked => .error (.friendError ("cannot accept from status=" ++ row.status.value))
      -- The guard above is for pending requests: who asked may accept after a rejection.
      | .pending | .rejected =>
        .ok (.friendship friendshipId "active", db.update friendshipId (.withStatus .active))

def sendRequest (fromUserId toUserId fid : String) : Except Fault (Reply × Db) :=
  if fromUserId = toUserId then .error (.friendError "cannot friend yourself")
  else if isBlockedEitherWay db fromUserId toUserId then
    .error (.friendError "cannot send request")
  else
    match db.rowOf (sortedPair fromUserId toUserId) with
    | none =>
      match db.insert (newRequest fromUserId toUserId fid) with
      | .error fault => .error fault
      | .ok after => .ok (.friendship fid "pending", after)
    | some row =>
      match row.status with
      | .active => .ok (.friendship row.id "active", db)
      | .pending =>
        if row.initiatorId = fromUserId then .ok (.friendship row.id "pending", db)
        else acceptInternal db row.id fromUserId
      | .rejected =>
        .ok (.friendship row.id "pending", db.update row.id (Friendship.askedBy fromUserId))
      | .blocked => .error (.friendError "cannot send request")

def reject (db : Db) (friendshipId rejectingUserId : String) : Except Fault (Reply × Db) :=
  match db.rowById friendshipId with
  | none => .error (.friendError "not found")
  | some row =>
    if rejectingUserId ≠ row.userAId ∧ rejectingUserId ≠ row.userBId then
      .error (.friendError "not a participant")
    else if rejectingUserId = row.initiatorId then
      .error (.friendError "initiator cannot reject — use cancel")
    else if row.status ≠ .pending then
      .error (.friendError ("cannot reject from status=" ++ row.status.value))
    else .ok (.friendship friendshipId "rejected", db.update friendshipId (.withStatus .rejected))

def cancel (db : Db) (friendshipId cancellerId : String) : Except Fault (Reply × Db) :=
  match db.rowById friendshipId with
  | none => .error (.friendError "not found")
  | some row =>
    if cancellerId ≠ row.initiatorId then
      .error (.friendError "only the initiator can cancel")
    else if row.status ≠ .pending then
      .error (.friendError "only pending requests can be cancelled")
    else .ok (.friendship friendshipId "cancelled", db.delete friendshipId)

def unfriend (db : Db) (requesterId otherId : String) : Except Fault (Reply × Db) :=
  if requesterId = otherId then .error (.friendError "cannot unfriend yourself")
  else
    match db.rowOf (sortedPair requesterId otherId) with
    | none => .error (.friendError "not friends")
    | some row =>
      if row.status ≠ .active then
        .error (.friendError ("cannot unfriend from status=" ++ row.status.value))
      else .ok (.friendship row.id "unfriended", db.delete row.id)

def Db.blockOf (blockerId blockedId : String) : Option Block :=
  db.blocks.find? fun block => decide (block.blockerId = blockerId ∧ block.blockedId = blockedId)

def Db.blockPair (pair : String × String) : Db :=
  { db with friendships := db.friendships.map fun row =>
      if row.pair = pair then row.withStatus .blocked else row }

def block (db : Db) (blockerId blockedId bid : String) : Except Fault (Reply × Db) :=
  if blockerId = blockedId then .error (.friendError "cannot block yourself")
  else
    match db.blockOf blockerId blockedId with
    | some existing =>
      .ok (.friendship existing.id "blocked", db.blockPair (sortedPair blockerId blockedId))
    | none =>
      if db.blocks.any fun block => decide (block.id = bid) then .error .integrityError
      else
        let after : Db := { db with blocks := db.blocks ++ [⟨bid, blockerId, blockedId⟩] }
        .ok (.friendship bid "blocked", after.blockPair (sortedPair blockerId blockedId))

def unblock (blockerId blockedId : String) : Reply × Db :=
  (.unblocked, { db with
    blocks := db.blocks.filter fun block =>
      !decide (block.blockerId = blockerId ∧ block.blockedId = blockedId) })

def isFriend (a b : String) : Bool :=
  db.friendships.any fun row => decide (row.pair = sortedPair a b ∧ row.status = .active)

inductive Request where
  | sendRequest (fromUserId toUserId fid : String)
  | accept (friendshipId user : String)
  | reject (friendshipId user : String)
  | cancel (friendshipId user : String)
  | unfriend (requesterId otherId : String)
  | block (blockerId blockedId bid : String)
  | unblock (blockerId blockedId : String)

def serve : Request → Except Fault (Reply × Db)
  | .sendRequest fromUserId toUserId fid => sendRequest db fromUserId toUserId fid
  | .accept friendshipId user => acceptInternal db friendshipId user
  | .reject friendshipId user => reject db friendshipId user
  | .cancel friendshipId user => cancel db friendshipId user
  | .unfriend requesterId otherId => unfriend db requesterId otherId
  | .block blockerId blockedId bid => block db blockerId blockedId bid
  | .unblock blockerId blockedId => .ok (unblock db blockerId blockedId)

def step (request : Request) : Db :=
  match serve db request with
  | .error _ => db
  | .ok (_, after) => after

def privacyLevels : List String := ["public", "friends", "community", "private"]

def normalize : Option String → String
  | none => "public"
  | some level =>
    if level = "" then "public" else if level ∉ privacyLevels then "public" else level

structure Post where
  authorId : String
  communityId : Option String
  privacy : Option String
  -- Ids are not empty.
  named : communityId ≠ some ""

structure Membership where
  parentKind : String
  parentId : String
  memberId : String

def isMember (memberships : List Membership) (communityId userId : String) : Bool :=
  memberships.any fun row => decide (row.parentKind = "community" ∧ row.parentId = communityId ∧
    row.memberId = userId)

def canViewPost (memberships : List Membership) (viewerUser : Option String) (post : Post) : Bool :=
  let level := normalize post.privacy
  if level = "public" then true
  else
    match viewerUser with
    | none => false
    | some viewer =>
      if post.authorId = viewer then true
      else if level = "private" then false
      else if level = "friends" then isFriend db viewer post.authorId
      else if level = "community" then
        match post.communityId with
        | none => false
        | some community =>
          if community = "" then false
          else isMember memberships community viewer
      else false

def visiblePostsFilter (memberships : List Membership) (viewerUser : Option String)
    (post : Post) : Bool :=
  let publicClause := decide (post.privacy = none) || decide (post.privacy = some "public")
  match viewerUser with
  | none => publicClause
  | some viewer =>
    let friendsArm := decide (post.privacy = some "friends") && decide (post.authorId ≠ viewer) &&
      db.friendships.any fun row => decide (row.status = .active ∧
        ((row.userAId = post.authorId ∧ row.userBId = viewer) ∨
          (row.userBId = post.authorId ∧ row.userAId = viewer)))
    let communityArm := decide (post.privacy = some "community") &&
      decide (post.authorId ≠ viewer) &&
      post.communityId.any fun community => isMember memberships community viewer
    publicClause || decide (post.authorId = viewer) || friendsArm || communityArm

structure Sound (db : Db) : Prop where
  ids : (db.friendships.map Friendship.id).Nodup
  pairs : (db.friendships.map Friendship.pair).Nodup
  sorted : ∀ pair ∈ db.friendships.map Friendship.pair, pair.1 < pair.2
  blocked : ∀ block ∈ db.blocks, ∀ row ∈ db.friendships,
    row.pair = sortedPair block.blockerId block.blockedId → row.status = .blocked

inductive Change : Request → Friendship → (Friendship → Friendship) → Prop
  | askedAgain {user other fid row} (paired : row.pair = sortedPair user other)
      (was : row.status = .rejected) :
      Change (.sendRequest user other fid) row (.askedBy user)
  | answered {user other fid row} (paired : row.pair = sortedPair user other)
      (was : row.status = .pending) (another : user ≠ row.initiatorId) :
      Change (.sendRequest user other fid) row (.withStatus .active)
  | accepted {user row} (participant : user = row.userAId ∨ user = row.userBId)
      (was : (row.status = .pending ∧ user ≠ row.initiatorId) ∨ row.status = .rejected) :
      Change (.accept row.id user) row (.withStatus .active)
  | rejected {user row} (was : row.status = .pending) :
      Change (.reject row.id user) row (.withStatus .rejected)

inductive Outcome (db : Db) : Request → Db → Prop
  | unchanged {request} : Outcome db request db
  | asked {user other fid} (distinct : user ≠ other)
      (free : isBlockedEitherWay db user other = false)
      (fresh : ∀ row ∈ db.friendships, row.id ≠ fid ∧ row.pair ≠ sortedPair user other) :
      Outcome db (.sendRequest user other fid) (db.add (newRequest user other fid))
  | changed {request row change} (member : row ∈ db.friendships)
      (changes : Change request row change) : Outcome db request (db.update row.id change)
  | removed {request row} (member : row ∈ db.friendships) (was : row.status ≠ .blocked) :
      Outcome db request (db.delete row.id)
  | blocked {user other bid} (blocks : List Block)
      (others : ∀ block ∈ blocks, block ∈ db.blocks ∨
        (block.blockerId = user ∧ block.blockedId = other)) :
      Outcome db (.block user other bid) ({ db with blocks }.blockPair (sortedPair user other))
  | unblocked {user other} : Outcome db (.unblock user other) (unblock db user other).2

variable {db after : Db} {row : Friendship} {pair : String × String} {id user other fid : String}
  {reply : Reply} {request : Request} {change : Friendship → Friendship}

theorem rowById_some (found : db.rowById id = some row) : row ∈ db.friendships ∧ row.id = id :=
  ⟨List.mem_of_find?_eq_some found, of_decide_eq_true (List.find?_some found :)⟩

theorem rowOf_some (found : db.rowOf pair = some row) : row ∈ db.friendships ∧ row.pair = pair :=
  ⟨List.mem_of_find?_eq_some found, of_decide_eq_true (List.find?_some found :)⟩

theorem Sound.same (held : Sound db) {left right : Friendship} (first : left ∈ db.friendships)
    (second : right ∈ db.friendships) (same : left.id = right.id) : left = right :=
  List.inj_on_of_nodup_map held.ids first second same

theorem acceptInternal_ok (done : acceptInternal db id user = .ok (reply, after)) :
    after = db ∨ ∃ row ∈ db.friendships, row.id = id ∧ Change (.accept row.id user) row
      (.withStatus .active) ∧ after = db.update row.id (.withStatus .active) := by
  rw [acceptInternal] at done
  split at done
  · cases done
  · rename_i row found
    obtain ⟨member, rfl⟩ := rowById_some found
    split_ifs at done with outside self
    have participant : user = row.userAId ∨ user = row.userBId := by
      by_contra neither
      exact outside (not_or.mp neither)
    split at done
    · cases done
      exact Or.inl rfl
    · cases done
    · rename_i was
      cases done
      exact Or.inr ⟨row, member, rfl,
        .accepted participant (Or.inl ⟨was, fun same => self ⟨same, was⟩⟩), rfl⟩
    · rename_i was
      cases done
      exact Or.inr ⟨row, member, rfl, .accepted participant (Or.inr was), rfl⟩

theorem insert_ok (done : db.insert row = .ok after) :
    (∀ other ∈ db.friendships, other.id ≠ row.id ∧ other.pair ≠ row.pair) ∧
      after = db.add row := by
  rw [Db.insert] at done
  split_ifs at done with taken
  cases done
  constructor
  · intro other member
    simpa using List.any_eq_false.mp ((Bool.not_eq_true _).mp taken) other member
  · rfl

theorem sendRequest_outcome (held : Sound db)
    (done : sendRequest db user other fid = .ok (reply, after)) :
    Outcome db (.sendRequest user other fid) after := by
  rw [sendRequest] at done
  split_ifs at done with self blocked
  split at done
  · split at done
    · cases done
    · rename_i inserted
      cases done
      obtain ⟨fresh, rfl⟩ := insert_ok inserted
      exact .asked self ((Bool.not_eq_true _).mp blocked) fresh
  · rename_i row found
    obtain ⟨member, paired⟩ := rowOf_some found
    split at done
    · cases done
      exact .unchanged
    · rename_i was
      split_ifs at done with own
      · cases done
        exact .unchanged
      · rcases acceptInternal_ok done with rfl | ⟨answered, there, same, -, rfl⟩
        · exact .unchanged
        · cases held.same there member same
          exact .changed member (.answered paired was (Ne.symm own))
    · rename_i was
      cases done
      exact .changed member (.askedAgain paired was)
    · cases done

theorem reject_outcome (done : reject db id user = .ok (reply, after)) :
    Outcome db (.reject id user) after := by
  rw [reject] at done
  split at done
  · cases done
  · rename_i row found
    obtain ⟨member, rfl⟩ := rowById_some found
    split_ifs at done with outside own other
    cases done
    exact .changed member (.rejected (not_not.mp other))

theorem cancel_outcome (done : cancel db id user = .ok (reply, after)) :
    Outcome db (.cancel id user) after := by
  rw [cancel] at done
  split at done
  · cases done
  · rename_i row found
    obtain ⟨member, rfl⟩ := rowById_some found
    split_ifs at done with own waiting
    cases done
    exact .removed member (by simp [not_not.mp waiting])

theorem unfriend_outcome (done : unfriend db user other = .ok (reply, after)) :
    Outcome db (.unfriend user other) after := by
  rw [unfriend] at done
  split_ifs at done with self
  split at done
  · cases done
  · rename_i row found
    split_ifs at done with friends
    cases done
    exact .removed (rowOf_some found).1 (by simp [not_not.mp friends])

theorem block_outcome (done : block db user other id = .ok (reply, after)) :
    Outcome db (.block user other id) after := by
  rw [block] at done
  split at done
  · cases done
  · split at done
    · cases done
      exact .blocked db.blocks fun block member => Or.inl member
    · split_ifs at done with taken
      cases done
      apply Outcome.blocked
      intro block member
      rcases List.mem_append.mp member with before | new
      · exact Or.inl before
      · rw [List.mem_singleton.mp new]
        exact Or.inr ⟨rfl, rfl⟩

theorem step_outcome (held : Sound db) (request : Request) :
    Outcome db request (step db request) := by
  rw [step]
  split
  · exact .unchanged
  · rename_i reply after done
    cases request with
    | sendRequest user other fid => exact sendRequest_outcome held done
    | accept id user =>
      rcases acceptInternal_ok done with rfl | ⟨row, member, rfl, changes, rfl⟩
      · exact .unchanged
      · exact .changed member changes
    | reject id user => exact reject_outcome done
    | cancel id user => exact cancel_outcome done
    | unfriend user other => exact unfriend_outcome done
    | block user other bid => exact block_outcome done
    | unblock user other =>
      cases done
      exact .unblocked

theorem sortedPair_comm (a b : String) : sortedPair a b = sortedPair b a := by
  rw [sortedPair, sortedPair]
  rcases lt_trichotomy a b with less | rfl | more
  · rw [if_pos less, if_neg less.asymm]
  · rfl
  · rw [if_pos more, if_neg more.asymm]

theorem sortedPair_lt {a b : String} (distinct : a ≠ b) :
    (sortedPair a b).1 < (sortedPair a b).2 := by
  rw [sortedPair]
  split
  · assumption
  · exact lt_of_le_of_ne (not_lt.mp ‹_›) distinct.symm

theorem sortedPair_eq {a b c d : String} (same : sortedPair a b = sortedPair c d) :
    (a = c ∧ b = d) ∨ (a = d ∧ b = c) := by
  rw [sortedPair, sortedPair] at same
  split at same <;> split at same <;> cases same <;> simp

theorem participant (paired : row.pair = sortedPair user other) :
    user = row.userAId ∨ user = row.userBId := by
  rw [sortedPair] at paired
  split at paired
  · exact Or.inl (congrArg Prod.fst paired).symm
  · exact Or.inr (congrArg Prod.snd paired).symm

theorem isBlocked_iff {x y : String} : isBlockedEitherWay db x y = true ↔
    ∃ block ∈ db.blocks, sortedPair block.blockerId block.blockedId = sortedPair x y := by
  rw [isBlockedEitherWay, List.any_eq_true]
  apply exists_congr
  intro block
  apply and_congr_right
  intro _
  simp only [Bool.or_eq_true, decide_eq_true_eq]
  constructor
  · rintro (⟨rfl, rfl⟩ | ⟨rfl, rfl⟩)
    · rfl
    · exact sortedPair_comm _ _
  · exact sortedPair_eq

theorem Change.unblocked (changes : Change request row change) : row.status ≠ .blocked := by
  cases changes with
  | askedAgain paired was => simp [was]
  | answered paired was another => simp [was]
  | accepted participant was => rcases was with ⟨was, -⟩ | was <;> simp [was]
  | rejected was => simp [was]

theorem Sound.mapped (held : Sound db) (rows : after.friendships = db.friendships.map change)
    (keeps : ∀ row, (change row).id = row.id ∧ (change row).pair = row.pair)
    (blocked : ∀ block ∈ after.blocks, ∀ row ∈ db.friendships,
      row.pair = sortedPair block.blockerId block.blockedId → (change row).status = .blocked) :
    Sound after := by
  have ids : Friendship.id ∘ change = Friendship.id := funext fun row => (keeps row).1
  have pairs : Friendship.pair ∘ change = Friendship.pair := funext fun row => (keeps row).2
  constructor
  · rw [rows, List.map_map, ids]
    exact held.ids
  · rw [rows, List.map_map, pairs]
    exact held.pairs
  · rw [rows, List.map_map, pairs]
    exact held.sorted
  · intro block stands row member same
    obtain ⟨old, there, rfl⟩ := List.mem_map.mp (rows ▸ member)
    exact blocked block stands old there ((keeps old).2 ▸ same)

theorem Outcome.sound (outcome : Outcome db request after) (held : Sound db) : Sound after := by
  cases outcome with
  | unchanged => exact held
  | asked distinct free fresh =>
    constructor
    · rw [Db.add, List.map_append, List.map_singleton, ← List.concat_eq_append]
      apply held.ids.concat
      intro there
      obtain ⟨row, member, same⟩ := List.mem_map.mp there
      exact (fresh row member).1 same
    · rw [Db.add, List.map_append, List.map_singleton, ← List.concat_eq_append]
      apply held.pairs.concat
      intro there
      obtain ⟨row, member, same⟩ := List.mem_map.mp there
      exact (fresh row member).2 same
    · intro pair member
      rw [Db.add, List.map_append] at member
      rcases List.mem_append.mp member with old | last
      · exact held.sorted pair old
      · rw [List.mem_singleton.mp last]
        exact sortedPair_lt distinct
    · intro block stands row member same
      rcases List.mem_append.mp member with old | last
      · exact held.blocked block stands row old same
      · rw [List.mem_singleton.mp last] at same
        have blocked := isBlocked_iff.mpr ⟨block, stands, same.symm⟩
        exact nomatch blocked.symm.trans free
  | @changed request row change member changes =>
    apply held.mapped rfl
    · intro other
      split
      · cases changes <;> exact ⟨rfl, rfl⟩
      · exact ⟨rfl, rfl⟩
    · intro block stands other there same
      have old := held.blocked block stands other there same
      rw [if_neg]
      · exact old
      · intro sameId
        exact changes.unblocked (held.same there member sameId ▸ old)
  | @removed request row member was =>
    have kept := List.filter_sublist (l := db.friendships)
      (p := fun other => !decide (other.id = row.id))
    exact ⟨held.ids.sublist (kept.map _), held.pairs.sublist (kept.map _),
      fun pair member => held.sorted pair ((kept.map _).subset member),
      fun block stands row member => held.blocked block stands row (kept.subset member)⟩
  | blocked blocks others =>
    apply held.mapped rfl
    · intro row
      split <;> exact ⟨rfl, rfl⟩
    · intro block stands row member same
      split
      · rfl
      · rename_i different
        rcases others block stands with before | ⟨rfl, rfl⟩
        · exact held.blocked block before row member same
        · exact absurd same different
  | unblocked =>
    exact ⟨held.ids, held.pairs, held.sorted,
      fun block stands => held.blocked block (List.mem_filter.mp stands).1⟩

def reached (db : Db) : List Request → Db
  | [] => db
  | request :: past => step (reached db past) request

theorem reached_sound (past : List Request) (held : Sound db) : Sound (reached db past) := by
  induction past with
  | nil => exact held
  | cons request past ih => exact (step_outcome ih request).sound ih

theorem sound_empty : Sound {} := ⟨List.nodup_nil, List.nodup_nil, by simp, by simp⟩

theorem isFriend_iff {a b : String} : isFriend db a b = true ↔
    ∃ row ∈ db.friendships, row.pair = sortedPair a b ∧ row.status = .active := by
  simp [isFriend]

def Agrees (user : String) (pair : String × String) (db : Db) (request : Request) : Prop :=
  (∃ other fid, request = .sendRequest user other fid ∧ sortedPair user other = pair) ∨
    ∃ row ∈ db.friendships, row.pair = pair ∧ request = .accept row.id user

def Overrules (pair : String × String) (db : Db) (request : Request) : Prop :=
  ∃ row ∈ db.friendships, row.pair = pair ∧ row.status = .rejected ∧
    request = .accept row.id row.initiatorId

def SincePaired (happens : Db → Request → Prop) (pair : String × String) : List Request → Prop
  | [] => False
  | request :: past => (happens (reached {} past) request ∨ SincePaired happens pair past) ∧
      ∃ row ∈ (reached {} (request :: past)).friendships, row.pair = pair

structure Consented (past : List Request) (row : Friendship) : Prop where
  initiator : row.initiatorId = row.userAId ∨ row.initiatorId = row.userBId
  asked : row.status ≠ .blocked → SincePaired (Agrees row.initiatorId row.pair) row.pair past
  befriended : row.status = .active →
    (∀ user, user = row.userAId ∨ user = row.userBId →
      SincePaired (Agrees user row.pair) row.pair past) ∨
    SincePaired (Overrules row.pair) row.pair past

variable {past : List Request} {happens : Db → Request → Prop}

theorem since_still (member : row ∈ (reached {} (request :: past)).friendships)
    (before : SincePaired happens row.pair past) :
    SincePaired happens row.pair (request :: past) :=
  ⟨Or.inr before, row, member, rfl⟩

theorem since_now (member : row ∈ (reached {} (request :: past)).friendships)
    (now : happens (reached {} past) request) : SincePaired happens row.pair (request :: past) :=
  ⟨Or.inl now, row, member, rfl⟩

theorem Consented.still (consented : Consented past row)
    (member : row ∈ (reached {} (request :: past)).friendships) :
    Consented (request :: past) row where
  initiator := consented.initiator
  asked standing := since_still member (consented.asked standing)
  befriended active := by
    rcases consented.befriended active with both | overruled
    · exact Or.inl fun user participant => since_still member (both user participant)
    · exact Or.inr (since_still member overruled)

/-- The initiator has asked, and the one who answers agrees now. -/
theorem Consented.answered (consented : Consented past row) (standing : row.status ≠ .blocked)
    (there : row.withStatus .active ∈ (reached {} (request :: past)).friendships)
    (participant : user = row.userAId ∨ user = row.userBId)
    (agrees : Agrees user row.pair (reached {} past) request)
    (overrules : user = row.initiatorId → Overrules row.pair (reached {} past) request) :
    Consented (request :: past) (row.withStatus .active) where
  initiator := consented.initiator
  asked _ := since_still there (consented.asked standing)
  befriended _ := by
    by_cases own : user = row.initiatorId
    · exact Or.inr (since_now there (overrules own))
    · apply Or.inl
      intro other (belongs : other = row.userAId ∨ other = row.userBId)
      by_cases same : other = user
      · rw [same]
        exact since_now there agrees
      · have asker : other = row.initiatorId := by
          have asker := consented.initiator
          grind
        rw [asker]
        exact since_still there (consented.asked standing)

theorem Change.consented (changes : Change request row change) (consented : Consented past row)
    (member : row ∈ (reached {} past).friendships)
    (there : change row ∈ (reached {} (request :: past)).friendships) :
    Consented (request :: past) (change row) := by
  have standing := changes.unblocked
  cases changes with
  | askedAgain paired was =>
    refine ⟨participant paired, fun _ => ?_, nofun⟩
    exact since_now there (Or.inl ⟨_, _, rfl, paired.symm⟩)
  | answered paired was another =>
    exact consented.answered standing there (participant paired)
      (Or.inl ⟨_, _, rfl, paired.symm⟩) fun own => absurd own another
  | accepted participant was =>
    apply consented.answered standing there participant (Or.inr ⟨row, member, rfl, rfl⟩)
    rintro rfl
    rcases was with ⟨-, another⟩ | rejected
    · exact absurd rfl another
    · exact ⟨row, member, rfl, rejected, rfl⟩
  | rejected was =>
    exact ⟨consented.initiator, fun _ => since_still there (consented.asked standing), nofun⟩

theorem reached_consented (past : List Request) :
    ∀ row ∈ (reached {} past).friendships, Consented past row := by
  induction past with
  | nil => exact fun row member => by simp [reached] at member
  | cons request past consented =>
    have held := reached_sound past sound_empty
    have outcome := step_outcome held request
    intro row there
    have old (before : row ∈ (reached {} past).friendships) : Consented (request :: past) row :=
      (consented row before).still there
    have member : row ∈ (step (reached {} past) request).friendships := there
    generalize step (reached {} past) request = after at outcome member
    cases outcome with
    | unchanged => exact old member
    | asked distinct free fresh =>
      rcases List.mem_append.mp member with before | last
      · exact old before
      · cases List.mem_singleton.mp last
        refine ⟨participant rfl, fun _ => ?_, nofun⟩
        exact since_now there (Or.inl ⟨_, _, rfl, rfl⟩)
    | @changed request first change own changes =>
      obtain ⟨origin, before, rfl⟩ := List.mem_map.mp member
      by_cases hit : origin.id = first.id
      · rw [if_pos hit] at there ⊢
        rw [held.same before own hit] at there ⊢
        exact changes.consented (consented first own) own there
      · rw [if_neg hit] at old ⊢
        exact old before
    | removed => exact old (List.mem_filter.mp member).1
    | @blocked user other bid blocks others =>
      obtain ⟨origin, before, rfl⟩ := List.mem_map.mp member
      by_cases hit : origin.pair = sortedPair user other
      · rw [if_pos hit]
        exact ⟨(consented origin before).initiator, fun standing => absurd rfl standing, nofun⟩
      · rw [if_neg hit] at old ⊢
        exact old before
    | unblocked => exact old member

/-- Of two friends each has agreed to it since they last had no row, unless the one who asked
accepted a request that the other had rejected. -/
theorem friends_agreed (past : List Request) (a b : String)
    (friends : isFriend (reached {} past) a b = true) :
    (SincePaired (Agrees a (sortedPair a b)) (sortedPair a b) past ∧
      SincePaired (Agrees b (sortedPair a b)) (sortedPair a b) past) ∨
    SincePaired (Overrules (sortedPair a b)) (sortedPair a b) past := by
  obtain ⟨row, member, paired, active⟩ := isFriend_iff.mp friends
  rw [← paired]
  apply ((reached_consented past row member).befriended active).imp_left
  intro both
  exact ⟨both a (participant paired), both b (participant (paired.trans (sortedPair_comm a b)))⟩

def overruled : List Request :=
  [.accept "f1" "ann", .reject "f1" "bob", .sendRequest "ann" "bob" "f1"]

theorem friends_agreed_overruled :
    (SincePaired (Agrees "ann" (sortedPair "ann" "bob")) (sortedPair "ann" "bob") overruled ∧
      SincePaired (Agrees "bob" (sortedPair "ann" "bob")) (sortedPair "ann" "bob") overruled) ∨
    SincePaired (Overrules (sortedPair "ann" "bob")) (sortedPair "ann" "bob") overruled :=
  friends_agreed overruled "ann" "bob" (by decide)

/-- While one blocks the other they are no friends, and neither sees what the other shows to
friends. -/
theorem blocked_apart (past : List Request) (memberships : List Membership) (viewer : String)
    (post : Post) (another : post.authorId ≠ viewer) (shown : post.privacy = some "friends")
    (blocked : isBlockedEitherWay (reached {} past) viewer post.authorId = true) :
    isFriend (reached {} past) viewer post.authorId = false ∧
      canViewPost (reached {} past) memberships (some viewer) post = false := by
  have strangers : isFriend (reached {} past) viewer post.authorId = false := by
    rw [← Bool.not_eq_true, isFriend_iff]
    rintro ⟨row, member, paired, active⟩
    obtain ⟨block, stands, same⟩ := isBlocked_iff.mp blocked
    have sound := reached_sound past sound_empty
    have marked := sound.blocked block stands row member (paired.trans same.symm)
    exact nomatch marked.symm.trans active
  constructor
  · exact strangers
  · simp [canViewPost, normalize, shown, privacyLevels, another, strangers]

def befriendedThenBlocked : List Request :=
  [.block "bob" "ann" "b1", .accept "f1" "bob", .sendRequest "ann" "bob" "f1"]

theorem blocked_apart_ann :
    isFriend (reached {} befriendedThenBlocked) "ann" "bob" = false ∧
      canViewPost (reached {} befriendedThenBlocked) [] (some "ann")
        ⟨"bob", none, some "friends", by decide⟩ = false :=
  blocked_apart befriendedThenBlocked [] "ann" ⟨"bob", none, some "friends", by decide⟩ (by decide)
    rfl (by decide)

theorem Outcome.keeps_blocked (outcome : Outcome db request after) (held : Sound db)
    (member : row ∈ db.friendships) (blocked : row.status = .blocked) :
    row ∈ after.friendships := by
  have unlike {other : Friendship} (there : other ∈ db.friendships)
      (standing : other.status ≠ .blocked) : row.id ≠ other.id := by
    intro same
    exact standing (held.same member there same ▸ blocked)
  cases outcome with
  | unchanged => exact member
  | asked => exact List.mem_append_left _ member
  | changed there changes =>
    exact List.mem_map.mpr ⟨row, member, if_neg (unlike there changes.unblocked)⟩
  | removed there was => exact List.mem_filter.mpr ⟨member, by simpa using unlike there was⟩
  | blocked =>
    apply List.mem_map.mpr
    refine ⟨row, member, ?_⟩
    rw [Friendship.withStatus, ← blocked, ite_self]
  | unblocked => exact member

/-- A row that is blocked stays so, whatever is requested. -/
theorem reached_blocked (later : List Request) (held : Sound db) (member : row ∈ db.friendships)
    (blocked : row.status = .blocked) : row ∈ (reached db later).friendships := by
  induction later with
  | nil => exact member
  | cons request later ih =>
    have sound := reached_sound later held
    exact (step_outcome sound request).keeps_blocked sound ih blocked

theorem insert_fresh (fresh : ∀ other ∈ db.friendships, other.id ≠ row.id)
    (absent : ∀ other ∈ db.friendships, other.pair ≠ row.pair) :
    db.insert row = .ok (db.add row) := by
  rw [Db.insert, if_neg]
  rw [Bool.not_eq_true, List.any_eq_false]
  intro other member
  simp [fresh other member, absent other member]

theorem rowById_last (fresh : ∀ other ∈ db.friendships, other.id ≠ row.id) :
    (db.add row).rowById row.id = some row := by
  rw [Db.rowById, Db.add, List.find?_append, List.find?_eq_none.mpr, Option.none_or]
  · simp
  · intro other member same
    exact fresh other member (of_decide_eq_true same)

theorem befriended {a b : String} (distinct : a ≠ b) (free : isBlockedEitherWay db a b = false)
    (absent : ∀ row ∈ db.friendships, row.pair ≠ sortedPair a b)
    (fresh : ∀ row ∈ db.friendships, row.id ≠ fid) :
    isFriend (reached db [.accept fid b, .sendRequest a b fid]) a b = true := by
  have none : db.rowOf (sortedPair a b) = none := by
    apply List.find?_eq_none.mpr
    intro row member same
    exact absent row member (of_decide_eq_true same)
  let row := newRequest a b fid
  let asked := db.add row
  have first : sendRequest db a b fid = .ok (.friendship fid "pending", asked) := by
    rw [sendRequest, if_neg distinct, free, if_neg Bool.false_ne_true, none]
    dsimp only
    rw [insert_fresh fresh absent]
  have second : acceptInternal asked fid b =
      .ok (.friendship fid "active", asked.update fid (.withStatus .active)) := by
    have belongs : b = row.userAId ∨ b = row.userBId := participant (sortedPair_comm a b)
    rw [acceptInternal, show asked.rowById fid = some row from rowById_last fresh]
    dsimp only [row, newRequest]
    rw [if_neg, if_neg]
    · exact fun own => distinct own.1.symm
    · exact fun outside => belongs.elim outside.1 outside.2
  simp only [reached, step, serve, first, second]
  apply isFriend_iff.mpr
  refine ⟨row.withStatus .active, List.mem_map.mpr ⟨row, ?_, if_pos rfl⟩, rfl, rfl⟩
  exact List.mem_append_right _ List.mem_cons_self

/-- Two users, one of whom has blocked the other, can become friends again exactly if they had no
friendship row then. -/
theorem friends_again_iff (past : List Request) (a b bid : String) (reply : Reply) (after : Db)
    (done : block (reached {} past) a b bid = .ok (reply, after)) :
    (∃ later, isFriend (reached after later) a b = true) ↔
      ∀ row ∈ (reached {} past).friendships, row.pair ≠ sortedPair a b := by
  have distinct : a ≠ b := by
    rintro rfl
    simp [block] at done
  have held := (block_outcome done).sound (reached_sound past sound_empty)
  have rows : after.friendships = ((reached {} past).blockPair (sortedPair a b)).friendships := by
    rw [block, if_neg distinct] at done
    split at done
    · cases done
      rfl
    · split_ifs at done
      cases done
      rfl
  constructor
  · rintro ⟨later, friends⟩ row member paired
    have marked : row.withStatus .blocked ∈ after.friendships := by
      rw [rows]
      exact List.mem_map.mpr ⟨row, member, if_pos paired⟩
    have sound := reached_sound later held
    have still := reached_blocked later held marked rfl
    obtain ⟨other, there, same, active⟩ := isFriend_iff.mp friends
    cases List.inj_on_of_nodup_map sound.pairs there still (same.trans paired.symm)
    exact nomatch active
  · intro absent
    -- Both take their blocks back, and one asks the other.
    obtain ⟨fid, fresh⟩ :=
      Infinite.exists_notMem_finset (after.friendships.map Friendship.id).toFinset
    let free := (unblock (unblock after a b).2 b a).2
    suffices friends : isFriend (reached free [.accept fid b, .sendRequest a b fid]) a b = true from
      ⟨[.accept fid b, .sendRequest a b fid, .unblock b a, .unblock a b], friends⟩
    apply befriended distinct
    · rw [← Bool.not_eq_true, isBlocked_iff]
      rintro ⟨block, stands, same⟩
      rcases sortedPair_eq same with ⟨rfl, rfl⟩ | ⟨rfl, rfl⟩ <;> simp [free, unblock] at stands
    · intro row member paired
      obtain ⟨old, there, rfl⟩ := List.mem_map.mp (rows ▸ member)
      rw [if_neg (absent old there)] at paired
      exact absent old there paired
    · intro row member same
      exact fresh (List.mem_toFinset.mpr (same ▸ List.mem_map_of_mem member))

def unfriended : List Request :=
  [.unfriend "ann" "bob", .accept "f1" "bob", .sendRequest "ann" "bob" "f1"]

theorem friends_again_unfriended :
    (∃ later, isFriend (reached ⟨[], [⟨"b1", "ann", "bob"⟩]⟩ later) "ann" "bob" = true) ↔
      ∀ row ∈ (reached {} unfriended).friendships, row.pair ≠ sortedPair "ann" "bob" :=
  friends_again_iff unfriended "ann" "bob" "b1" (.friendship "b1" "blocked") _ rfl

theorem friendsArm_eq (held : Sound db) (viewer author : String) :
    (db.friendships.any fun row => decide (row.status = .active ∧
      ((row.userAId = author ∧ row.userBId = viewer) ∨
        (row.userBId = author ∧ row.userAId = viewer)))) = isFriend db viewer author := by
  rw [isFriend, Bool.eq_iff_iff, List.any_eq_true, List.any_eq_true]
  apply exists_congr
  intro row
  apply and_congr_right
  intro member
  have less : row.userAId < row.userBId := held.sorted row.pair (List.mem_map_of_mem member)
  rw [decide_eq_true_eq, decide_eq_true_eq, and_comm, Friendship.pair, sortedPair]
  apply and_congr_left
  intro _
  constructor
  · rintro (⟨rfl, rfl⟩ | ⟨rfl, rfl⟩)
    · rw [if_neg less.asymm]
    · rw [if_pos less]
  · intro paired
    split at paired
    · exact Or.inr ⟨congrArg Prod.snd paired, congrArg Prod.fst paired⟩
    · exact Or.inl ⟨congrArg Prod.fst paired, congrArg Prod.snd paired⟩

/-- A list shows the posts that its viewer could open, but for posts of an unknown level: the check
takes them to be public, and only their authors find them in a list. -/
theorem listed_iff_viewable (past : List Request) (memberships : List Membership)
    (viewer : Option String) (post : Post) :
    visiblePostsFilter (reached {} past) memberships viewer post = true ↔
      canViewPost (reached {} past) memberships viewer post = true ∧
        (viewer = some post.authorId ∨ ∀ level ∈ post.privacy, level ∈ privacyLevels) := by
  have level : post.privacy = none ∨ (∃ level ∈ privacyLevels, post.privacy = some level) ∨
      ∃ level, level ∉ privacyLevels ∧ post.privacy = some level := by
    cases post.privacy with
    | none => exact Or.inl rfl
    | some level =>
      exact Or.inr ((em (level ∈ privacyLevels)).imp (⟨level, ·, rfl⟩) (⟨level, ·, rfl⟩))
  simp only [privacyLevels, List.mem_cons, List.not_mem_nil, or_false, exists_eq_or_imp,
    exists_eq_left, not_or] at level
  cases viewer with
  | none =>
    rw [visiblePostsFilter, canViewPost]
    rcases level with stored | (stored | stored | stored | stored) | ⟨level, unknown, stored⟩
    all_goals simp [normalize, privacyLevels, *]
  | some viewer =>
    rw [visiblePostsFilter, canViewPost, friendsArm_eq (reached_sound past sound_empty)]
    by_cases own : post.authorId = viewer
    · simp [own]
    have named := post.named
    cases within : post.communityId <;> simp only [within] at named
    all_goals
      rcases level with stored | (stored | stored | stored | stored) | ⟨level, unknown, stored⟩
      all_goals simp_all [normalize, privacyLevels, Ne.symm own]

end Hartos.Social
