import Hartos.KeyedTable

/-!
The accounts and the community memberships of a node, and the sync operations that write
them. Every other sync operation writes other tables. What a payload lacks, or has as null,
is `none`.
-/
namespace Hartos.Sync
open KeyedTable

structure Account where
  id : String
  username : String
  displayName : String := ""
  bio : String := ""
  userType : String
  agentId : Option String := none
  apiToken : Option String := none
  passwordHash : Option String := none
  isVerified : Bool := false
  isAdmin : Bool := false
  isModerator : Bool := false
  role : Option String := some "flat"
  ownerId : Option String := none
  handle : Option String := none
  localName : Option String := none
  deriving DecidableEq

structure Membership where
  id : String
  userId : String
  communityId : String
  role : Option String := some "member"
  deriving DecidableEq

def Membership.member (membership : Membership) : String × String :=
  (membership.userId, membership.communityId)

structure Store where
  accounts : Table Account.id
  memberships : Table Membership.id
  oneEach : ∀ first ∈ memberships.rows, ∀ second ∈ memberships.rows,
    first.member = second.member → first = second

def privilegedRoles : List String := ["central", "regional", "admin", "moderator"]

def Privileged (role : Option String) : Prop := ∃ name ∈ privilegedRoles, role = some name

instance : DecidablePred Privileged := fun role =>
  inferInstanceAs (Decidable (∃ name ∈ privilegedRoles, role = some name))

structure AgentFields where
  id : Option String := none
  username : String := ""
  displayName : Option String := none
  bio : Option String := none
  agentId : Option String := none
  handle : Option String := none
  localName : Option String := none
  ownerId : Option String := none
  deriving DecidableEq

structure AgentPayload where
  type : String
  agent : AgentFields
  deriving DecidableEq

def AgentPayload.target (payload : AgentPayload) : Option String :=
  if payload.type ≠ "agent" then none
  else match payload.agent.id with
    | none => none
    | some id => if id = "" ∨ payload.agent.username = "" then none else some id

def AgentFields.update (agent : AgentFields) (existing : Account) : Account :=
  { existing with
    displayName := agent.displayName.getD existing.displayName
    bio := agent.bio.getD existing.bio
    agentId := agent.agentId.or existing.agentId
    handle := agent.handle.or existing.handle
    localName := agent.localName.or existing.localName
    ownerId := agent.ownerId.or existing.ownerId }

def AgentFields.mirror (agent : AgentFields) (id : String) : Account :=
  { id
    username := agent.username
    displayName := agent.displayName.getD agent.username
    bio := agent.bio.getD ""
    userType := "agent"
    agentId := agent.agentId
    ownerId := agent.ownerId
    handle := agent.handle
    localName := agent.localName
    apiToken := none
    isVerified := false }

def handleSyncAgent (accounts : Table Account.id) (payload : AgentPayload) : Table Account.id :=
  match payload.target with
  | none => accounts
  | some id =>
      match accounts.get? id with
      | some existing => accounts.set (payload.agent.update existing)
      | none => accounts.set (payload.agent.mirror id)

structure UserPayload where
  userId : Option String := none
  username : String := ""
  displayName : Option String := none
  handle : Option String := none
  role : Option String := none
  userType : Option String := none
  deriving DecidableEq

variable (normalise : String → String) (payload : UserPayload) (store : Store)

def safeSyncedRole (role : Option String) : Option String :=
  let name := normalise (role.getD "")
  if name = "" ∨ Privileged (some name) then none else some name

def UserPayload.target : Option String :=
  match payload.userId with
  | none => none
  | some id => if id = "" ∨ payload.username = "" then none else some id

def truthy (text : Option String) : Option String := text.filter (· ≠ "")

def UserPayload.update (existing : Account) : Account :=
  { existing with
    handle := (truthy payload.handle).or existing.handle
    displayName := (truthy payload.displayName).getD existing.displayName
    role := if Privileged existing.role then existing.role
      else (safeSyncedRole normalise payload.role).or existing.role }

def UserPayload.created (id token : String) : Account :=
  { id
    username := payload.username
    displayName := payload.displayName.getD payload.username
    handle := truthy payload.handle
    role := some ((safeSyncedRole normalise payload.role).getD "flat")
    userType := payload.userType.getD "human"
    apiToken := some token }

def handleSyncUser (accounts : Table Account.id) (payload : UserPayload) (token : String) :
    Table Account.id :=
  match payload.target with
  | none => accounts
  | some id =>
      match accounts.get? id with
      | some existing => accounts.set (payload.update normalise existing)
      | none => accounts.set (payload.created normalise id token)

structure MembershipData where
  id : Option String := none
  userId : Option String := none
  communityId : Option String := none
  role : Option String := none
  deriving DecidableEq

/-- `_apply_synced_row` without a timestamp: the row it writes for the key, if the columns
that may not be null are there. -/
def MembershipData.row (data : MembershipData) (id : String) : Option Membership → Option Membership
  | some existing => some
      { existing with
        userId := data.userId.getD existing.userId
        communityId := data.communityId.getD existing.communityId
        role := data.role.or existing.role }
  | none =>
      match data.userId, data.communityId with
      | some userId, some communityId =>
          some { id, userId, communityId, role := some (data.role.getD "member") }
      | _, _ => none

/-- The row the database is asked to write, `none` when there is no key or a column is
missing. -/
def MembershipData.written (data : MembershipData) (memberships : Table Membership.id) :
    Option Membership :=
  match data.id with
  | none => none
  | some id => if id = "" then none else data.row id (memberships.get? id)

def Taken (memberships : Table Membership.id) (row : Membership) : Prop :=
  ∃ other ∈ memberships.rows, other.id ≠ row.id ∧ other.member = row.member

instance (memberships : Table Membership.id) : DecidablePred (Taken memberships) := fun row =>
  inferInstanceAs (Decidable
    (∃ other ∈ memberships.rows, other.id ≠ row.id ∧ other.member = row.member))

theorem Store.oneEach_set (row : Membership) (free : ¬ Taken store.memberships row) :
    ∀ first ∈ (store.memberships.set row).rows, ∀ second ∈ (store.memberships.set row).rows,
      first.member = second.member → first = second := by
  intro first isFirst second isSecond same
  rcases (Table.mem_set _ _ _).mp isFirst with rfl | ⟨kept, other⟩
  · rcases (Table.mem_set _ _ _).mp isSecond with rfl | ⟨kept, other⟩
    · rfl
    · exact absurd ⟨second, kept, other, same.symm⟩ free
  · rcases (Table.mem_set _ _ _).mp isSecond with rfl | ⟨alsoKept, -⟩
    · exact absurd ⟨first, kept, other, same⟩ free
    · exact store.oneEach first kept second alsoKept same

def handleSyncMembership (data : MembershipData) : Store :=
  match data.written store.memberships with
  | none => store
  | some row =>
      if free : ¬ Taken store.memberships row then
        { store with
          memberships := store.memberships.set row
          oneEach := store.oneEach_set row free }
      else store

inductive SyncItem where
  | registerAgent (payload : AgentPayload)
  | syncUser (payload : UserPayload) (token : String)
  | syncMembership (data : MembershipData)
  -- An operation on other tables, or one the database refuses and rolls back.
  | other
  deriving DecidableEq

def applyItem : SyncItem → Store
  | .registerAgent payload => { store with accounts := handleSyncAgent store.accounts payload }
  | .syncUser payload token =>
      { store with accounts := handleSyncUser normalise store.accounts payload token }
  | .syncMembership data => handleSyncMembership store data
  | .other => store

end Hartos.Sync
